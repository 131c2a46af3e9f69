-- The number that the firmware writes where it has none, and its removal before a response is
-- parsed. It becomes `null` exactly where it is a value of its own.
import TplinkDeco.Lib.JsonReader

open json_reader

namespace tplink_deco_api.auth

/-- `literal`. -/
def NUMBER_NAN : List Char := "Number.NaN".toList

/-- The loop of `_normalize_numeric_literals`, from one index of the payload to its end. `passed`
characters are those of a literal that the index is moved over. -/
def normalized (in_string escaped : Bool) : Nat → List Char → List Char
  | _, [] => []
  | passed + 1, _ :: rest => normalized in_string escaped passed rest
  | 0, character :: rest =>
    if in_string then
      character ::
        (if escaped then normalized true false 0 rest
        else if character = '\\' then normalized true true 0 rest
        else if character = '"' then normalized false false 0 rest
        else normalized true false 0 rest)
    else if character = '"' then character :: normalized true escaped 0 rest
    else if NUMBER_NAN <+: character :: rest then
      "null".toList ++ normalized false escaped (NUMBER_NAN.length - 1) rest
    else character :: normalized false escaped 0 rest

def normalize_numeric_literals (payload : String) : String :=
  String.ofList (normalized false false 0 payload.toList)

/-- The scan outside of a string. -/
abbrev outside (cs : List Char) : List Char := normalized false false 0 cs

/-- The scan in a string, not after a backslash. -/
abbrev inside (cs : List Char) : List Char := normalized true false 0 cs

theorem normalized_passed (in_string escaped : Bool) (passed : Nat) (cs : List Char) :
    normalized in_string escaped passed cs = normalized in_string escaped 0 (cs.drop passed) := by
  induction cs generalizing passed with
  | nil => cases passed <;> rfl
  | cons c cs ih =>
    cases passed with
    | zero => rfl
    | succ passed => exact ih passed

/-! ## What one character does -/

theorem outside_quote (cs : List Char) : outside ('"' :: cs) = '"' :: inside cs := rfl

theorem inside_quote (cs : List Char) : inside ('"' :: cs) = '"' :: outside cs := rfl

theorem outside_literal (cs : List Char) :
    outside (NUMBER_NAN ++ cs) = "null".toList ++ outside cs := by
  have hprefix : NUMBER_NAN <+: 'N' :: ("umber.NaN".toList ++ cs) :=
    List.prefix_append NUMBER_NAN cs
  show outside ('N' :: ("umber.NaN".toList ++ cs)) = _
  rw [outside, normalized, if_neg (by decide), if_neg (by decide), if_pos hprefix,
    normalized_passed]
  rfl

/-- A character that starts neither a string nor the literal. -/
def plain (c : Char) : Bool := c ≠ '"' && c ≠ 'N'

theorem outside_cons {c : Char} (h : plain c = true) (cs : List Char) :
    outside (c :: cs) = c :: outside cs := by
  simp only [plain, ne_eq, decide_not, Bool.and_eq_true, Bool.not_eq_eq_eq_not, Bool.not_true,
    decide_eq_false_iff_not] at h
  obtain ⟨hquote, hstart⟩ := h
  have hliteral : ¬ NUMBER_NAN <+: c :: cs := by
    intro h
    exact hstart (List.cons_prefix_cons.mp h).1.symm
  rw [outside, normalized, if_neg (by decide), if_neg hquote, if_neg hliteral]

theorem inside_cons {c : Char} (hquote : c ≠ '"') (hslash : c ≠ '\\') (cs : List Char) :
    inside (c :: cs) = c :: inside cs := by
  rw [inside, normalized, if_pos rfl, if_neg (by decide), if_neg hslash, if_neg hquote]

theorem inside_escape (c : Char) (cs : List Char) :
    inside ('\\' :: c :: cs) = '\\' :: c :: inside cs := rfl

/-! ## What the parts of a text become -/

/-- A part with no quote and no start of the literal stays. -/
theorem outside_append {part : List Char} (h : ∀ c ∈ part, plain c = true) (cs : List Char) :
    outside (part ++ cs) = part ++ outside cs := by
  induction part with
  | nil => rfl
  | cons c part ih =>
    rw [List.cons_append, outside_cons (h c List.mem_cons_self),
      ih fun d hd => h d (List.mem_cons_of_mem c hd), List.cons_append]

theorem outside_blank (w : Blank) (cs : List Char) :
    outside (w.val ++ cs) = w.val ++ outside cs := by
  refine outside_append (fun c hc => ?_) cs
  have hblank := w.property c hc
  simp only [is_blank, Bool.or_eq_true, decide_eq_true_eq] at hblank
  rcases hblank with ((rfl | rfl) | rfl) | rfl <;> rfl

theorem plain_digit (digits : Digits) (c : Char) (hc : c ∈ digits.val) : plain c = true := by
  have hdigit := digits.property.2 c hc
  have hquote : c ≠ '"' := digit_ne hdigit rfl
  have hstart : c ≠ 'N' := digit_ne hdigit rfl
  simp [plain, hquote, hstart]

theorem outside_number (number : Number) (cs : List Char) :
    outside (number.text ++ cs) = number.text ++ outside cs := by
  refine outside_append (fun c hc => ?_) cs
  simp only [Number.text, Number.fraction_text, Number.exponent_text, List.mem_append] at hc
  rcases hc with hc | hc | hc | hc
  · have hminus : c = '-' := by
      cases hnegative : number.negative <;> simp [hnegative] at hc
      exact hc
    rw [hminus]
    rfl
  · exact plain_digit number.integer c hc
  · cases hfraction : number.fraction with
    | none => simp [hfraction] at hc
    | some digits =>
      rw [hfraction] at hc
      rcases List.mem_cons.mp hc with rfl | hc
      · rfl
      · exact plain_digit digits c hc
  · cases hexponent : number.exponent with
    | none => simp [hexponent] at hc
    | some exponent =>
      rw [hexponent] at hc
      rcases List.mem_cons.mp hc with rfl | hc
      · rcases exponent.letter_ok with h | h <;> rw [h] <;> rfl
      · rcases List.mem_append.mp hc with hc | hc
        · have hok := exponent.sign_ok
          simp only [List.mem_cons, List.not_mem_nil, or_false] at hok
          rcases hok with h | h | h <;> rw [h] at hc <;> simp at hc <;> rw [hc] <;> rfl
        · exact plain_digit exponent.digits c hc

theorem inside_piece (piece : Piece) (cs : List Char) :
    inside (piece.text ++ cs) = piece.text ++ inside cs := by
  cases piece with
  | plain c quotable => exact inside_cons quotable.1 quotable.2.1 cs
  | short c point known => exact inside_escape c cs
  | unicode a b c d point known =>
    have hdigits : ∀ e ∈ [a, b, c, d], e ≠ '"' ∧ e ≠ '\\' := by
      have hnumber : hexadecimal.number_from 0 [a, b, c, d] = some point := by
        simpa [hexadecimal.number] using known
      intro e he
      have hdigit := hexadecimal.digits_of_number_from hnumber e he
      constructor <;> rintro rfl <;> cases hdigit
    show inside ('\\' :: 'u' :: a :: b :: c :: d :: cs) = _
    rw [inside_escape, inside_cons (hdigits a (by simp)).1 (hdigits a (by simp)).2,
      inside_cons (hdigits b (by simp)).1 (hdigits b (by simp)).2,
      inside_cons (hdigits c (by simp)).1 (hdigits c (by simp)).2,
      inside_cons (hdigits d (by simp)).1 (hdigits d (by simp)).2]
    rfl

/-- A string stays, whatever is in it. -/
theorem outside_string (pieces : List Piece) (cs : List Char) :
    outside (string_text pieces ++ cs) = string_text pieces ++ outside cs := by
  have hinside : ∀ pieces : List Piece, inside (pieces.flatMap Piece.text ++ '"' :: cs) =
      pieces.flatMap Piece.text ++ '"' :: outside cs := by
    intro pieces
    induction pieces with
    | nil => exact inside_quote cs
    | cons piece pieces ih =>
      rw [List.flatMap_cons, List.append_assoc, inside_piece, ih, List.append_assoc]
  simp only [string_text, List.cons_append, List.append_assoc, List.nil_append]
  rw [outside_quote, hinside]

/-! ## What a text becomes -/

/-- The text of one of the other leaves. -/
def nan_text (_ : Unit) : List Char := NUMBER_NAN

/-- `null` in the place of one. -/
def nulled (_ : Unit) : Doc Empty := .null

theorem outside_mark {c : Char} (h : plain c = true) (w : Blank) (cs : List Char) :
    outside (w.val ++ c :: cs) = w.val ++ c :: outside cs := by
  rw [outside_blank, outside_cons h]

variable (leaf_text : Empty → List Char)

mutual

theorem outside_doc (doc : Doc Unit) (cs : List Char) :
    outside (doc.text nan_text ++ cs) = (doc.fill nulled).text leaf_text ++ outside cs := by
  cases doc with
  | null => exact outside_append (List.all_eq_true.mp rfl) cs
  | bool value =>
    cases value with
    | true => exact outside_append (List.all_eq_true.mp rfl) cs
    | false => exact outside_append (List.all_eq_true.mp rfl) cs
  | number number => exact outside_number number cs
  | str pieces => exact outside_string pieces cs
  | empty_arr inner =>
    simp only [Doc.text, Doc.fill, List.cons_append, List.append_assoc, List.nil_append]
    rw [outside_cons rfl, outside_mark rfl]
  | arr items =>
    simp only [Doc.text, Doc.fill, List.cons_append, List.append_assoc, List.nil_append]
    rw [outside_cons rfl, outside_items items,
      outside_cons rfl]
  | empty_obj inner =>
    simp only [Doc.text, Doc.fill, List.cons_append, List.append_assoc, List.nil_append]
    rw [outside_cons rfl, outside_mark rfl]
  | obj fields =>
    simp only [Doc.text, Doc.fill, List.cons_append, List.append_assoc, List.nil_append]
    rw [outside_cons rfl, outside_fields fields,
      outside_cons rfl]
  | leaf e => exact outside_literal cs

theorem outside_items (items : Items Unit) (cs : List Char) :
    outside (items.text nan_text ++ cs) = (items.fill nulled).text leaf_text ++ outside cs := by
  cases items with
  | last before item after =>
    simp only [Items.text, Items.fill, List.append_assoc]
    rw [outside_blank, outside_doc item, outside_blank]
  | more before item after items =>
    simp only [Items.text, Items.fill, List.append_assoc, List.cons_append]
    rw [outside_blank, outside_doc item, outside_mark rfl,
      outside_items items]

theorem outside_fields (fields : Fields Unit) (cs : List Char) :
    outside (fields.text nan_text ++ cs) = (fields.fill nulled).text leaf_text ++ outside cs := by
  cases fields with
  | last before key colon gap value after =>
    simp only [Fields.text, Fields.fill, List.append_assoc, List.cons_append]
    rw [outside_blank, outside_string, outside_mark rfl, outside_blank,
      outside_doc value, outside_blank]
  | more before key colon gap value after fields =>
    simp only [Fields.text, Fields.fill, List.append_assoc, List.cons_append]
    rw [outside_blank, outside_string, outside_mark rfl, outside_blank,
      outside_doc value, outside_mark rfl, outside_fields fields]

end

/-! ## Where nothing changes -/

/-- A place in a payload, by the strings before it. -/
inductive Place where
  | outside
  | inside
  | escaped
deriving DecidableEq

def Place.next : Place → Char → Place
  | .outside, c => if c = '"' then .inside else .outside
  | .inside, c => if c = '\\' then .escaped else if c = '"' then .outside else .inside
  | .escaped, _ => .inside

/-- The literal stands in the text outside of every string. -/
def LiteralFrom (place : Place) (cs : List Char) : Prop :=
  ∃ before after, cs = before ++ (NUMBER_NAN ++ after) ∧
    before.foldl Place.next place = .outside

/-- The scan from a place on. -/
def scan (place : Place) (cs : List Char) : List Char :=
  normalized (place ≠ .outside) (place = .escaped) 0 cs

theorem scan_cons (place : Place) (c : Char) (cs : List Char) :
    scan place (c :: cs) =
      if place = .outside ∧ NUMBER_NAN <+: c :: cs then
        "null".toList ++ scan .outside ((c :: cs).drop NUMBER_NAN.length)
      else c :: scan (place.next c) cs := by
  cases place with
  | outside =>
    by_cases hquote : c = '"'
    · subst c
      have hliteral : ¬ NUMBER_NAN <+: '"' :: cs := by
        intro h
        cases (List.cons_prefix_cons.mp h).1
      rw [if_neg fun h => hliteral h.2]
      rfl
    · show outside (c :: cs) = _
      rw [outside, normalized, if_neg (by decide), if_neg hquote, normalized_passed]
      by_cases hliteral : NUMBER_NAN <+: c :: cs
      · rw [if_pos hliteral, if_pos ⟨rfl, hliteral⟩]
        rfl
      · rw [if_neg hliteral, if_neg fun h => hliteral h.2, Place.next, if_neg hquote]
        rfl
  | inside =>
    by_cases hslash : c = '\\'
    · simp [scan, normalized, Place.next, hslash]
    · by_cases hquote : c = '"' <;> simp [scan, normalized, Place.next, hslash, hquote]
  | escaped => simp [scan, normalized, Place.next]

theorem literal_cons (place : Place) (c : Char) (cs : List Char) :
    LiteralFrom place (c :: cs) ↔
      place = .outside ∧ NUMBER_NAN <+: c :: cs ∨ LiteralFrom (place.next c) cs := by
  constructor
  · rintro ⟨before, after, hsplit, hplace⟩
    cases before with
    | nil => exact .inl ⟨hplace, after, hsplit.symm⟩
    | cons d before =>
      obtain ⟨rfl, hrest⟩ := List.cons.inj hsplit
      exact .inr ⟨before, after, hrest, hplace⟩
  · rintro (⟨hplace, after, hsplit⟩ | ⟨before, after, rfl, hplace⟩)
    · exact ⟨[], after, hsplit.symm, hplace⟩
    · exact ⟨c :: before, after, rfl, hplace⟩

theorem no_literal_nil (place : Place) : ¬ LiteralFrom place [] := by
  rintro ⟨before, after, hsplit, -⟩
  have hnil := (List.append_eq_nil_iff.mp hsplit.symm).2
  cases (List.append_eq_nil_iff.mp hnil).1

theorem scan_nil (place : Place) : scan place [] = [] := by
  simp [scan, normalized]

theorem length_literal : NUMBER_NAN.length = 10 := rfl

theorem length_null : "null".toList.length = 4 := rfl

theorem length_scan_le (place : Place) (cs : List Char) : (scan place cs).length ≤ cs.length := by
  induction h : cs.length using Nat.strongRecOn generalizing place cs with
  | ind n ih =>
    cases cs with
    | nil => simp [scan_nil]
    | cons c cs =>
      rw [List.length_cons] at h
      rw [scan_cons]
      split
      case isTrue hliteral =>
        have hlength := hliteral.2.length_le
        have hdrop : ((c :: cs).drop NUMBER_NAN.length).length = n - 10 := by
          rw [List.length_drop, List.length_cons, h, length_literal]
        have hrest := ih (n - 10) (by omega) .outside _ hdrop
        rw [length_literal, List.length_cons] at hlength
        rw [List.length_append, length_null]
        omega
      case isFalse =>
        have hrest := ih cs.length (by omega) (place.next c) cs rfl
        simp only [List.length_cons]
        omega

/-- With the literal, the text gets shorter. -/
theorem length_scan_lt {place : Place} {cs : List Char} (h : LiteralFrom place cs) :
    (scan place cs).length < cs.length := by
  induction cs generalizing place with
  | nil => exact absurd h (no_literal_nil place)
  | cons c cs ih =>
    rw [scan_cons]
    split
    case isTrue hliteral =>
      have hlength := hliteral.2.length_le
      have hrest := length_scan_le .outside ((c :: cs).drop NUMBER_NAN.length)
      rw [List.length_drop, length_literal, List.length_cons] at hrest
      rw [length_literal, List.length_cons] at hlength
      rw [List.length_append, length_null, List.length_cons, length_literal]
      omega
    case isFalse hliteral =>
      have hrest := ih (((literal_cons place c cs).mp h).resolve_left hliteral)
      simp only [List.length_cons]
      omega

theorem scan_eq_self_iff (place : Place) (cs : List Char) :
    scan place cs = cs ↔ ¬ LiteralFrom place cs := by
  constructor
  · intro h hliteral
    have hlength := length_scan_lt hliteral
    rw [h] at hlength
    exact Nat.lt_irrefl _ hlength
  · intro h
    induction cs generalizing place with
    | nil => exact scan_nil place
    | cons c cs ih =>
      rw [literal_cons, not_or] at h
      rw [scan_cons, if_neg h.1, ih (place.next c) h.2]

/-- The same text with `null` for each literal. -/
def nulled_document (document : Document Unit) : Document Empty :=
  ⟨document.before, document.body.fill nulled, document.after⟩

theorem normalize_text (document : Document Unit) :
    normalize_numeric_literals (document.text nan_text) =
      (nulled_document document).text Empty.elim := by
  obtain ⟨before, body, after⟩ := document
  unfold normalize_numeric_literals Document.text nulled_document
  rw [String.toList_ofList]
  show String.ofList (outside _) = _
  rw [outside_blank, outside_doc Empty.elim]
  have hafter : outside (after.val ++ []) = after.val ++ [] := outside_blank after []
  rw [List.append_nil] at hafter
  rw [hafter]

/-- A text of the firmware, with the literal for each number that is none, becomes the same text
with `null` for each, and is parsed as its value with `null` for each. A payload stays as it is
exactly if the literal is nowhere outside of its strings. `loads` has no limit on the depth of a
value and on the digits of an integer, where the interpreter stops at 4300 digits and at its
recursion limit; the text does not depend on either. -/
theorem normalization_is_exact {φ : Type} (to_float : List Char → φ) :
    (∀ document : Document Unit,
      normalize_numeric_literals (document.text nan_text) =
          (nulled_document document).text Empty.elim ∧
        loads to_float (normalize_numeric_literals (document.text nan_text)) =
          some ((document.body.value to_float).fill fun _ => (.null : Value φ Empty))) ∧
    ∀ payload : String, normalize_numeric_literals payload = payload ↔
      ¬ LiteralFrom .outside payload.toList := by
  constructor
  · intro document
    refine ⟨normalize_text document, ?_⟩
    rw [normalize_text, loads_text, nulled_document, Doc.value_fill]
    rfl
  · intro payload
    rw [← scan_eq_self_iff, ← String.toList_inj]
    unfold normalize_numeric_literals
    rw [String.toList_ofList]
    rfl

end tplink_deco_api.auth
