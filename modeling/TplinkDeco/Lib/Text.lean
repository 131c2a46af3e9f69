-- The methods of `str` that the package calls. A text that they change is
-- compared with ASCII text only, so that a letter whose other case is not ASCII
-- may stay as it is.
import Mathlib.Data.List.Infix

namespace text

/-- `str.isspace`. -/
def is_space (c : Char) : Bool :=
  (9 ≤ c.toNat && c.toNat ≤ 13) || (28 ≤ c.toNat && c.toNat ≤ 32) || c.toNat = 0x85 ||
    c.toNat = 0xA0 || c.toNat = 0x1680 || (0x2000 ≤ c.toNat && c.toNat ≤ 0x200A) ||
    c.toNat = 0x2028 || c.toNat = 0x2029 || c.toNat = 0x202F || c.toNat = 0x205F ||
    c.toNat = 0x3000

/-- `str.strip`. -/
def strip (s : String) : String :=
  String.ofList (((s.toList.dropWhile is_space).reverse.dropWhile is_space).reverse)

/-- A text without spaces stays as it is. -/
theorem strip_eq_self {s : String} (h : ∀ c ∈ s.toList, is_space c = false) : strip s = s := by
  have hdrop : ∀ cs : List Char, (∀ c ∈ cs, is_space c = false) → cs.dropWhile is_space = cs := by
    intro cs hcs
    cases cs with
    | nil => rfl
    | cons c cs => rw [List.dropWhile_cons, hcs c List.mem_cons_self]; rfl
  unfold strip
  rw [hdrop _ h, hdrop _ fun c hc => h c (List.mem_reverse.mp hc), List.reverse_reverse,
    String.ofList_toList]

/-- The capital letters of one letter, where they are ASCII. -/
def upper_char (c : Char) : List Char :=
  if 'a'.toNat ≤ c.toNat ∧ c.toNat ≤ 'z'.toNat then [Char.ofNat (c.toNat - 32)]
  else
    match c.toNat with
    | 0x00DF => ['S', 'S']
    | 0x0131 => ['I']
    | 0x017F => ['S']
    | 0xFB00 => ['F', 'F']
    | 0xFB01 => ['F', 'I']
    | 0xFB02 => ['F', 'L']
    | 0xFB03 => ['F', 'F', 'I']
    | 0xFB04 => ['F', 'F', 'L']
    | 0xFB05 => ['S', 'T']
    | 0xFB06 => ['S', 'T']
    | _ => [c]

/-- `str.upper`. -/
def upper (s : String) : String := String.ofList (s.toList.flatMap upper_char)

/-- A letter that comes out of `upper` stays as it is. -/
theorem upper_char_fixed {c d : Char} (h : d ∈ upper_char c) : upper_char d = [d] := by
  have hcapital : ∀ n : Fin 26,
      upper_char (Char.ofNat (65 + n.val)) = [Char.ofNat (65 + n.val)] := by decide
  unfold upper_char at h
  split at h
  · rename_i hrange
    simp only [Char.reduceToNat] at hrange
    have hlower : c.toNat - 32 = 65 + (c.toNat - 97) := by omega
    rw [List.mem_singleton.mp h, hlower]
    exact hcapital ⟨c.toNat - 97, by omega⟩
  · rename_i hrange
    split at h <;> simp only [List.mem_cons, List.not_mem_nil, or_false] at h
    case h_11 =>
      subst h
      unfold upper_char
      rw [if_neg hrange]
      split <;> first | rfl | contradiction
    all_goals rcases h with rfl | rfl | rfl <;> rfl

/-- What comes out of `upper` is the letter itself or a capital letter. -/
theorem upper_char_cases {c d : Char} (h : d ∈ upper_char c) :
    d = c ∨ 'A'.toNat ≤ d.toNat ∧ d.toNat ≤ 'Z'.toNat := by
  have hcapital : ∀ n : Fin 26, 'A'.toNat ≤ (Char.ofNat (65 + n.val)).toNat ∧
      (Char.ofNat (65 + n.val)).toNat ≤ 'Z'.toNat := by decide
  unfold upper_char at h
  split at h
  · rename_i hrange
    simp only [Char.reduceToNat] at hrange
    have hlower : c.toNat - 32 = 65 + (c.toNat - 97) := by omega
    rw [List.mem_singleton.mp h, hlower]
    exact Or.inr (hcapital ⟨c.toNat - 97, by omega⟩)
  · split at h <;> simp only [List.mem_cons, List.not_mem_nil, or_false] at h
    case h_11 => exact Or.inl h
    all_goals
      right
      rcases h with rfl | rfl | rfl <;> decide

theorem upper_of_fixed {s : String} (h : ∀ c ∈ s.toList, upper_char c = [c]) : upper s = s := by
  have hchars : ∀ cs : List Char, (∀ c ∈ cs, upper_char c = [c]) → cs.flatMap upper_char = cs := by
    intro cs
    induction cs with
    | nil => exact fun _ => rfl
    | cons c cs ih =>
      intro hall
      rw [List.flatMap_cons, hall c List.mem_cons_self,
        ih fun d hd => hall d (List.mem_cons_of_mem c hd)]
      rfl
  unfold upper
  rw [hchars s.toList h, String.ofList_toList]

theorem upper_upper (s : String) : upper (upper s) = upper s := by
  apply upper_of_fixed
  intro d hd
  unfold upper at hd
  rw [String.toList_ofList] at hd
  obtain ⟨c, -, hc⟩ := List.mem_flatMap.mp hd
  exact upper_char_fixed hc

/-- `str.lower`. The Kelvin sign is the one letter outside ASCII with an ASCII small letter. -/
def lower (s : String) : String :=
  String.ofList (s.toList.map fun c =>
    if 'A'.toNat ≤ c.toNat ∧ c.toNat ≤ 'Z'.toNat then Char.ofNat (c.toNat + 32)
    else if c.toNat = 0x212A then 'k' else c)

/-- The folding of one letter, where it is ASCII. -/
def fold_char (c : Char) : List Char :=
  if 'A'.toNat ≤ c.toNat ∧ c.toNat ≤ 'Z'.toNat then [Char.ofNat (c.toNat + 32)]
  else
    match c.toNat with
    | 0x00DF => ['s', 's']
    | 0x017F => ['s']
    | 0x1E9E => ['s', 's']
    | 0x212A => ['k']
    | 0xFB00 => ['f', 'f']
    | 0xFB01 => ['f', 'i']
    | 0xFB02 => ['f', 'l']
    | 0xFB03 => ['f', 'f', 'i']
    | 0xFB04 => ['f', 'f', 'l']
    | 0xFB05 => ['s', 't']
    | 0xFB06 => ['s', 't']
    | _ => [c]

/-- `str.casefold`. -/
def casefold (s : String) : String := String.ofList (s.toList.flatMap fold_char)

/-- `s.replace(c, "")` for one character. -/
def without (c : Char) (s : String) : String := String.ofList (s.toList.filter (· ≠ c))

/-- `s.encode()`. -/
def encode (s : String) : List UInt8 := s.toList.flatMap String.utf8EncodeChar

/-- `data.decode()`, or nothing for its `UnicodeDecodeError`. -/
def decode (data : List UInt8) : Option String := String.fromUTF8? ⟨data.toArray⟩

theorem encode_injective {s t : String} (h : encode s = encode t) : s = t := by
  have hbytes : s.toList.utf8Encode = t.toList.utf8Encode := congrArg List.toByteArray h
  rwa [String.utf8Encode_toList, String.utf8Encode_toList, String.toByteArray_inj] at hbytes

theorem decode_encode (s : String) : decode (encode s) = some s := by
  have hbytes : (⟨(encode s).toArray⟩ : ByteArray) = s.toByteArray := by
    calc (⟨(encode s).toArray⟩ : ByteArray) = s.toList.utf8Encode :=
          ByteArray.ext List.data_toByteArray.symm
      _ = s.toByteArray := s.utf8Encode_toList
  unfold decode String.fromUTF8?
  rw [hbytes, dif_pos s.isValidUTF8]
  rfl

theorem encode_append (s t : String) : encode (s ++ t) = encode s ++ encode t := by
  unfold encode
  rw [String.toList_append, List.flatMap_append]

/-- A character of ASCII is one byte. -/
theorem encode_char {c : Char} (h : c.toNat < 128) :
    String.utf8EncodeChar c = [UInt8.ofNat c.toNat] := by
  apply String.utf8EncodeChar_eq_singleton
  rw [Char.utf8Size_eq_one_iff]
  exact Nat.le_of_lt_succ h

/-- A text of ASCII has a byte for each character. -/
theorem length_encode {s : String} (h : ∀ c ∈ s.toList, c.toNat < 128) :
    (encode s).length = s.toList.length := by
  have hchars : ∀ cs : List Char, (∀ c ∈ cs, c.toNat < 128) →
      (cs.flatMap String.utf8EncodeChar).length = cs.length := by
    intro cs
    induction cs with
    | nil => exact fun _ => rfl
    | cons c cs ih =>
      intro h
      rw [List.flatMap_cons, List.length_append, encode_char (h c List.mem_cons_self),
        ih fun d hd => h d (List.mem_cons_of_mem c hd), List.length_singleton, List.length_cons,
        Nat.add_comm]
  exact hchars s.toList h

/-- `s.startswith(part)`. -/
def starts_with (s part : String) : Bool := decide (part.toList <+: s.toList)

/-- `part in s`. -/
def contains (part s : String) : Bool := decide (part.toList <:+: s.toList)

/-- `s.removeprefix(part)`. -/
def removeprefix (s part : String) : String :=
  if starts_with s part then String.ofList (s.toList.drop part.toList.length) else s

theorem starts_with_append (part rest : String) : starts_with (part ++ rest) part = true := by
  unfold starts_with
  rw [String.toList_append]
  exact decide_eq_true (List.prefix_append _ _)

theorem removeprefix_append (part rest : String) : removeprefix (part ++ rest) part = rest := by
  unfold removeprefix
  rw [if_pos (starts_with_append part rest), String.toList_append, List.drop_left,
    String.ofList_toList]

/-- A text with this start is the start and what is left of it. -/
theorem append_removeprefix {s part : String} (h : starts_with s part = true) :
    part ++ removeprefix s part = s := by
  obtain ⟨rest, hrest⟩ := of_decide_eq_true h
  have hs : s = part ++ String.ofList rest := by
    rw [← String.toList_inj, String.toList_append, String.toList_ofList, hrest]
  rw [hs, removeprefix_append]

/-- `s.endswith(part)`. -/
def ends_with (s part : String) : Bool := decide (part.toList <:+ s.toList)

/-- `s[:-n]`, for a positive `n`. -/
def without_last (n : Nat) (s : String) : String :=
  String.ofList (s.toList.take (s.toList.length - n))

/-- `s.split(c, 1)[0]`. -/
def before (c : Char) (s : String) : String := String.ofList (s.toList.takeWhile (· ≠ c))

example : upper (strip " p9\n") = "P9" := by decide

/-! ## The parts of a text -/

/-- `splitOn` within a number of turns. -/
def splits (s sep : String) :
    Nat → String.Pos.Raw → String.Pos.Raw → String.Pos.Raw → List String → Option (List String)
  | 0, _, _, _, _ => none
  | turns + 1, b, i, j, r =>
    if i.atEnd s then some (b.extract s i :: r).reverse
    else if i.get s == j.get sep then
      if (j.next sep).atEnd sep then
        splits s sep turns (i.next s) (i.next s) 0
          (b.extract s ((i.next s).unoffsetBy (j.next sep)) :: r)
      else splits s sep turns b (i.next s) (j.next sep) r
    else splits s sep turns b ((i.unoffsetBy j).next s) 0 r

theorem splitOnAux_of_splits {s sep : String} {turns : Nat} {b i j : String.Pos.Raw}
    {r parts : List String} (h : splits s sep turns b i j r = some parts) :
    s.splitOnAux sep b i j r = parts := by
  induction turns generalizing b i j r with
  | zero => cases h
  | succ turns ih =>
    unfold splits at h
    rw [String.splitOnAux]
    split
    case isTrue hend =>
      rw [if_pos hend] at h
      exact Option.some.inj h
    case isFalse hend =>
      rw [if_neg hend] at h
      split
      case isTrue heq =>
        rw [if_pos heq] at h
        dsimp only
        split
        case isTrue hsep =>
          rw [if_pos hsep] at h
          exact ih h
        case isFalse hsep =>
          rw [if_neg hsep] at h
          exact ih h
      case isFalse heq =>
        rw [if_neg heq] at h
        exact ih h

/-- The parts of a closed text can be computed. -/
theorem splitOn_of_splits {s sep : String} (turns : Nat) {parts : List String} (hsep : sep ≠ "")
    (h : splits s sep turns 0 0 0 [] = some parts) : s.splitOn sep = parts := by
  unfold String.splitOn
  rw [if_neg (by simpa using hsep)]
  exact splitOnAux_of_splits h

end text
