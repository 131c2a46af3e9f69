-- `json.loads`, and the JSON texts of a value with any blanks, escapes and forms of its numbers.
-- The reader gives the value back from each of these texts. Its limits on the depth of a value
-- and on the digits of a number are left out.
import TplinkDeco.Lib.Dict
import TplinkDeco.Lib.Hex
import Mathlib.Data.List.TakeWhile

namespace json_reader

/-- The values of JSON, with floats of a type `φ` and other leaves of a type `ε`. A text is its
code points, since an escape can be half of a surrogate pair, and this is no `Char`. -/
inductive Value (φ ε : Type) where
  | null
  | bool (value : Bool)
  | int (value : Int)
  | float (value : φ)
  | str (points : List Nat)
  | arr (items : List (Value φ ε))
  | obj (fields : List (List Nat × Value φ ε))
  | leaf (e : ε)

/-! ## Blanks, words and numbers -/

/-- `WHITESPACE`. -/
def is_blank (c : Char) : Bool := c = ' ' || c = '\t' || c = '\n' || c = '\r'

def skip (cs : List Char) : List Char := cs.dropWhile is_blank

def is_digit (c : Char) : Bool := 48 ≤ c.toNat && c.toNat ≤ 57

/-- `int(digits)`. -/
def natural (digits : List Char) : Nat := digits.foldl (fun n c => 10 * n + (c.toNat - 48)) 0

def scan_sign (signs : List Char) : List Char → List Char × List Char
  | [] => ([], [])
  | c :: cs => if c ∈ signs then ([c], cs) else ([], c :: cs)

/-- `0|[1-9][0-9]*`. -/
def scan_integer : List Char → Option (List Char × List Char)
  | [] => none
  | c :: cs =>
    if c = '0' then some ([c], cs)
    else if is_digit c then some (c :: cs.takeWhile is_digit, cs.dropWhile is_digit)
    else none

/-- `(\.[0-9]+)?`. -/
def scan_fraction : List Char → List Char × List Char
  | [] => ([], [])
  | c :: cs =>
    let digits := cs.takeWhile is_digit
    if c = '.' ∧ digits ≠ [] then (c :: digits, cs.dropWhile is_digit) else ([], c :: cs)

/-- `([eE][-+]?[0-9]+)?`. -/
def scan_exponent : List Char → List Char × List Char
  | [] => ([], [])
  | c :: cs =>
    let (sign, rest) := scan_sign ['-', '+'] cs
    let digits := rest.takeWhile is_digit
    if (c = 'e' ∨ c = 'E') ∧ digits ≠ [] then (c :: (sign ++ digits), rest.dropWhile is_digit)
    else ([], c :: cs)

section

variable {φ ε : Type} (to_float : List Char → φ)

/-- The number of its parts: an `int` where there is neither a fraction nor an exponent. -/
def number_value (negative : Bool) (integer fraction exponent : List Char) : Value φ ε :=
  if fraction = [] ∧ exponent = [] then
    .int (if negative then - (natural integer : Int) else natural integer)
  else
    .float (to_float ((if negative then ['-'] else []) ++ integer ++ fraction ++ exponent))

/-- `NUMBER_RE`. -/
def scan_number (cs : List Char) : Option (Value φ ε × List Char) :=
  let (sign, cs) := scan_sign ['-'] cs
  (scan_integer cs).map fun (integer, cs) =>
    let (fraction, cs) := scan_fraction cs
    let (exponent, cs) := scan_exponent cs
    (number_value to_float (sign ≠ []) integer fraction exponent, cs)

/-- The words, with the numbers that are no JSON. -/
def words : List (List Char × Value φ ε) := [
  ("null".toList, .null),
  ("true".toList, .bool true),
  ("false".toList, .bool false),
  ("NaN".toList, .float (to_float "NaN".toList)),
  ("Infinity".toList, .float (to_float "Infinity".toList)),
  ("-Infinity".toList, .float (to_float "-Infinity".toList))]

def scan_word (cs : List Char) : Option (Value φ ε × List Char) :=
  (words to_float).findSome? fun (word, value) =>
    if word <+: cs then some (value, cs.drop word.length) else none

end

/-! ## Strings -/

/-- `BACKSLASH`. -/
def short_escape (c : Char) : Option Nat :=
  match c with
  | '"' => some 34
  | '\\' => some 92
  | '/' => some 47
  | 'b' => some 8
  | 'f' => some 12
  | 'n' => some 10
  | 'r' => some 13
  | 't' => some 9
  | _ => none

def is_high (point : Nat) : Bool := 0xD800 ≤ point && point ≤ 0xDBFF

def is_low (point : Nat) : Bool := 0xDC00 ≤ point && point ≤ 0xDFFF

/-- A high surrogate before a low one is one code point with it. -/
def join_surrogates : List Nat → List Nat
  | high :: low :: points =>
    if is_high high ∧ is_low low then
      (0x10000 + (high - 0xD800) * 0x400 + (low - 0xDC00)) :: join_surrogates points
    else high :: join_surrogates (low :: points)
  | points => points

/-- The code points of a string after its first quote, with the halves of a pair still apart. -/
def scan_string : List Char → Option (List Nat × List Char)
  | [] => none
  | '"' :: cs => some ([], cs)
  | '\\' :: 'u' :: a :: b :: c :: d :: cs => do
    let point ← hexadecimal.number [a, b, c, d]
    let (points, rest) ← scan_string cs
    some (point :: points, rest)
  | '\\' :: c :: cs => do
    let point ← short_escape c
    let (points, rest) ← scan_string cs
    some (point :: points, rest)
  | c :: cs =>
    if c = '\\' ∨ c.toNat < 32 then none
    else do
      let (points, rest) ← scan_string cs
      some (c.toNat :: points, rest)

/-! ## The reader -/

section

variable {φ ε : Type} (to_float : List Char → φ)

/-- `dict(pairs)`. -/
def to_dict (fields : List (List Nat × Value φ ε)) : List (List Nat × Value φ ε) :=
  fields.foldl (fun fields (key, value) => dict.assign key value fields) []

mutual

/-- `scan_once`, for the value that starts here, within a number of turns. -/
def scan_once : Nat → List Char → Option (Value φ ε × List Char)
  | 0, _ => none
  | turns + 1, cs =>
    match cs with
    | '"' :: cs => do
      let (points, rest) ← scan_string cs
      some (.str (join_surrogates points), rest)
    | '[' :: cs =>
      match skip cs with
      | ']' :: rest => some (.arr [], rest)
      | cs => do
        let (items, rest) ← scan_items turns cs
        some (.arr items, rest)
    | '{' :: cs =>
      match skip cs with
      | '}' :: rest => some (.obj [], rest)
      | cs => do
        let (fields, rest) ← scan_fields turns cs
        some (.obj (to_dict fields), rest)
    | cs => (scan_word to_float cs).or (scan_number to_float cs)

/-- The items of an array, and what is after it. -/
def scan_items : Nat → List Char → Option (List (Value φ ε) × List Char)
  | 0, _ => none
  | turns + 1, cs => do
    let (item, rest) ← scan_once turns cs
    match skip rest with
    | ']' :: rest => some ([item], rest)
    | ',' :: rest => do
      let (items, rest) ← scan_items turns (skip rest)
      some (item :: items, rest)
    | _ => none

/-- The fields of an object, and what is after it. -/
def scan_fields : Nat → List Char → Option (List (List Nat × Value φ ε) × List Char)
  | 0, _ => none
  | turns + 1, cs =>
    match cs with
    | '"' :: cs => do
      let (points, rest) ← scan_string cs
      match skip rest with
      | ':' :: rest => do
        let (value, rest) ← scan_once turns (skip rest)
        match skip rest with
        | '}' :: rest => some ([(join_surrogates points, value)], rest)
        | ',' :: rest => do
          let (fields, rest) ← scan_fields turns (skip rest)
          some ((join_surrogates points, value) :: fields, rest)
        | _ => none
      | _ => none
    | _ => none

end

/-- The value of a text, where it is one. Each turn reads a character or starts an item. -/
def loads (text : String) : Option (Value φ ε) :=
  let cs := text.toList
  if cs.head? = some '\uFEFF' then none
  else
    match scan_once to_float (2 * cs.length) (skip cs) with
    | some (value, rest) => if skip rest = [] then some value else none
    | none => none

end

/-! ## The texts of a value -/

abbrev Blank := { w : List Char // ∀ c ∈ w, is_blank c = true }

abbrev Digits := { digits : List Char // digits ≠ [] ∧ ∀ c ∈ digits, is_digit c = true }

/-- One character of a string: as it is, by its letter, or as four hexadecimal digits. -/
inductive Piece where
  | plain (c : Char) (quotable : c ≠ '"' ∧ c ≠ '\\' ∧ 32 ≤ c.toNat)
  | short (c : Char) (point : Nat) (known : short_escape c = some point)
  | unicode (a b c d : Char) (point : Nat) (known : hexadecimal.number [a, b, c, d] = some point)

namespace Piece

def text : Piece → List Char
  | plain c _ => [c]
  | short c _ _ => ['\\', c]
  | unicode a b c d _ _ => ['\\', 'u', a, b, c, d]

def point : Piece → Nat
  | plain c _ => c.toNat
  | short _ point _ => point
  | unicode _ _ _ _ point _ => point

end Piece

/-- What stands between the quotes of a string. -/
def string_text (pieces : List Piece) : List Char := '"' :: (pieces.flatMap Piece.text ++ ['"'])

def string_points (pieces : List Piece) : List Nat := join_surrogates (pieces.map Piece.point)

structure Exponent where
  letter : Char
  sign : List Char
  digits : Digits
  letter_ok : letter = 'e' ∨ letter = 'E'
  sign_ok : sign ∈ [[], ['-'], ['+']]

structure Number where
  negative : Bool
  integer : Digits
  fraction : Option Digits
  exponent : Option Exponent
  -- a zero at the start is the only digit
  plain : integer.val.head? = some '0' → integer.val = ['0']

namespace Number

variable (number : Number)

def fraction_text : List Char := number.fraction.elim [] fun digits => '.' :: digits.val

def exponent_text : List Char :=
  number.exponent.elim [] fun exponent => exponent.letter :: (exponent.sign ++ exponent.digits.val)

def text : List Char :=
  (if number.negative then ['-'] else []) ++
    (number.integer.val ++ (number.fraction_text ++ number.exponent_text))

def value {φ ε : Type} (to_float : List Char → φ) : Value φ ε :=
  number_value to_float number.negative number.integer.val number.fraction_text
    number.exponent_text

end Number

mutual

/-- A value as it is written. Other leaves than those of JSON are of a type `ε`. -/
inductive Doc (ε : Type) where
  | null
  | bool (value : Bool)
  | number (number : Number)
  | str (pieces : List Piece)
  | empty_arr (inside : Blank)
  | arr (items : Items ε)
  | empty_obj (inside : Blank)
  | obj (fields : Fields ε)
  | leaf (e : ε)

/-- The items of an array, with the blanks around each. -/
inductive Items (ε : Type) where
  | last (before : Blank) (item : Doc ε) (after : Blank)
  | more (before : Blank) (item : Doc ε) (after : Blank) (items : Items ε)

/-- The fields of an object, with the blanks around each key and value. -/
inductive Fields (ε : Type) where
  | last (before : Blank) (key : List Piece) (colon : Blank) (gap : Blank) (value : Doc ε)
    (after : Blank)
  | more (before : Blank) (key : List Piece) (colon : Blank) (gap : Blank) (value : Doc ε)
    (after : Blank) (fields : Fields ε)

end

section

variable {ε : Type} (leaf_text : ε → List Char)

mutual

def Doc.text : Doc ε → List Char
  | .null => "null".toList
  | .bool true => "true".toList
  | .bool false => "false".toList
  | .number number => number.text
  | .str pieces => string_text pieces
  | .empty_arr inside => '[' :: (inside.val ++ [']'])
  | .arr items => '[' :: (items.text ++ [']'])
  | .empty_obj inside => '{' :: (inside.val ++ ['}'])
  | .obj fields => '{' :: (fields.text ++ ['}'])
  | .leaf e => leaf_text e

def Items.text : Items ε → List Char
  | .last before item after => before.val ++ (item.text ++ after.val)
  | .more before item after items =>
    before.val ++ (item.text ++ (after.val ++ ',' :: items.text))

def Fields.text : Fields ε → List Char
  | .last before key colon gap value after =>
    before.val ++ (string_text key ++ (colon.val ++ ':' :: (gap.val ++ (value.text ++ after.val))))
  | .more before key colon gap value after fields =>
    before.val ++ (string_text key ++ (colon.val ++ ':' :: (gap.val ++ (value.text ++
      (after.val ++ ',' :: fields.text)))))

end

end

section

variable {φ ε : Type} (to_float : List Char → φ)

mutual

def Doc.value : Doc ε → Value φ ε
  | .null => .null
  | .bool value => .bool value
  | .number number => number.value to_float
  | .str pieces => .str (string_points pieces)
  | .empty_arr _ => .arr []
  | .arr items => .arr items.values
  | .empty_obj _ => .obj []
  | .obj fields => .obj (to_dict fields.values)
  | .leaf e => .leaf e

def Items.values : Items ε → List (Value φ ε)
  | .last _ item _ => [item.value]
  | .more _ item _ items => item.value :: items.values

def Fields.values : Fields ε → List (List Nat × Value φ ε)
  | .last _ key _ _ value _ => [(string_points key, value.value)]
  | .more _ key _ _ value _ fields => (string_points key, value.value) :: fields.values

end

end

/-! ## What the parts read -/

theorem skip_append (w : Blank) (cs : List Char) : skip (w.val ++ cs) = skip cs :=
  List.dropWhile_append_of_pos fun c hc => w.property c hc

theorem skip_cons {c : Char} (h : is_blank c = false) (cs : List Char) :
    skip (c :: cs) = c :: cs := by
  simp [skip, h]

theorem skip_blank (w : Blank) : skip w.val = [] := List.dropWhile_eq_nil_iff.mpr w.property

/-- No digit stands at the start. -/
def NoDigit (cs : List Char) : Prop := ∀ c, cs.head? = some c → is_digit c = false

theorem digits_append {digits rest : List Char} (h : ∀ c ∈ digits, is_digit c = true)
    (hrest : NoDigit rest) :
    (digits ++ rest).takeWhile is_digit = digits ∧ (digits ++ rest).dropWhile is_digit = rest := by
  rw [List.takeWhile_append_of_pos h, List.dropWhile_append_of_pos h]
  cases rest with
  | nil => simp
  | cons c rest =>
    have hc : is_digit c = false := hrest c rfl
    simp [hc]

theorem scan_string_piece (piece : Piece) (cs : List Char) :
    scan_string (piece.text ++ cs) =
      (scan_string cs).map fun (points, rest) => (piece.point :: points, rest) := by
  cases piece with
  | plain c quotable =>
    obtain ⟨hquote, hslash, hcontrol⟩ := quotable
    have hplain : ¬ (c = '\\' ∨ c.toNat < 32) := by
      rintro (h | h)
      · exact hslash h
      · omega
    show scan_string (c :: cs) = _
    rw [scan_string]
    · rw [if_neg hplain]
      cases scan_string cs <;> rfl
    · exact hquote
    · exact fun _ _ _ _ _ h => absurd h hslash
    · exact fun _ _ h => absurd h hslash
  | short c point known =>
    show scan_string ('\\' :: c :: cs) = _
    rw [scan_string]
    · rw [known]
      cases scan_string cs <;> rfl
    · rintro _ _ _ _ _ rfl
      cases known
  | unicode a b c d point known =>
    show scan_string ('\\' :: 'u' :: a :: b :: c :: d :: cs) = _
    rw [scan_string, known]
    cases scan_string cs <;> rfl

theorem scan_string_text (pieces : List Piece) (rest : List Char) :
    scan_string (pieces.flatMap Piece.text ++ '"' :: rest) =
      some (pieces.map Piece.point, rest) := by
  induction pieces with
  | nil => rfl
  | cons piece pieces ih =>
    rw [List.flatMap_cons, List.append_assoc, scan_string_piece, ih]
    rfl

/-! ### Numbers -/

/-- What is read so far is not part of a longer number. -/
def Ends (cs : List Char) : Prop :=
  ∀ c, cs.head? = some c → is_digit c = false ∧ c ≠ '.' ∧ c ≠ 'e' ∧ c ≠ 'E'

theorem digit_ne {c d : Char} (hc : is_digit c = true) (hd : is_digit d = false) : c ≠ d := by
  rintro rfl
  rw [hc] at hd
  cases hd

theorem digits_cons (digits : Digits) : ∃ c cs, digits.val = c :: cs ∧ is_digit c = true ∧
    ∀ d ∈ cs, is_digit d = true := by
  obtain ⟨cs, hsome, hdigits⟩ := digits
  cases cs with
  | nil => exact absurd rfl hsome
  | cons c cs => exact ⟨c, cs, rfl, hdigits c List.mem_cons_self, fun d hd =>
      hdigits d (List.mem_cons_of_mem c hd)⟩

theorem scan_sign_append {signs sign cs : List Char} (hsign : sign = [] ∨ ∃ c ∈ signs, sign = [c])
    (h : ∀ c, cs.head? = some c → c ∉ signs) : scan_sign signs (sign ++ cs) = (sign, cs) := by
  rcases hsign with rfl | ⟨c, hc, rfl⟩
  · cases cs with
    | nil => rfl
    | cons c cs => exact if_neg (h c rfl)
  · exact if_pos hc

variable {rest : List Char}

theorem exponent_head (number : Number) (h : Ends rest) (c : Char)
    (hc : (number.exponent_text ++ rest).head? = some c) : is_digit c = false ∧ c ≠ '.' := by
  unfold Number.exponent_text at hc
  cases hexponent : number.exponent with
  | none =>
    rw [hexponent] at hc
    exact ⟨(h c hc).1, (h c hc).2.1⟩
  | some exponent =>
    rw [hexponent] at hc
    cases hc
    rcases exponent.letter_ok with hletter | hletter <;> rw [hletter] <;> decide

theorem fraction_head (number : Number) (h : Ends rest) :
    NoDigit (number.fraction_text ++ (number.exponent_text ++ rest)) := by
  intro c hc
  unfold Number.fraction_text at hc
  cases hfraction : number.fraction with
  | none =>
    rw [hfraction] at hc
    exact (exponent_head number h c hc).1
  | some digits =>
    rw [hfraction] at hc
    cases hc
    rfl

theorem scan_exponent_text (number : Number) (h : Ends rest) :
    scan_exponent (number.exponent_text ++ rest) = (number.exponent_text, rest) := by
  unfold Number.exponent_text
  cases hexponent : number.exponent with
  | none =>
    cases rest with
    | nil => rfl
    | cons c rest =>
      have hletter : ¬ (c = 'e' ∨ c = 'E') := not_or.mpr (h c rfl).2.2
      simp [scan_exponent, hletter]
  | some exponent =>
    obtain ⟨first, digits, hdigits, hfirst, -⟩ := digits_cons exponent.digits
    have hsign : scan_sign ['-', '+'] (exponent.sign ++ (exponent.digits.val ++ rest)) =
        (exponent.sign, exponent.digits.val ++ rest) := by
      apply scan_sign_append
      · have hok := exponent.sign_ok
        simp only [List.mem_cons, List.not_mem_nil, or_false] at hok
        rcases hok with hok | hok | hok <;> simp [hok]
      · rw [hdigits]
        rintro c hc
        cases hc
        simp [digit_ne hfirst (show is_digit '-' = false from rfl),
          digit_ne hfirst (show is_digit '+' = false from rfl)]
    obtain ⟨htake, hdrop⟩ := digits_append exponent.digits.property.2 fun c hc => (h c hc).1
    show scan_exponent (exponent.letter :: ((exponent.sign ++ exponent.digits.val) ++ rest)) = _
    rw [List.append_assoc]
    unfold scan_exponent
    simp only [hsign, htake, hdrop]
    exact if_pos ⟨exponent.letter_ok, exponent.digits.property.1⟩

theorem scan_fraction_text (number : Number) (h : Ends rest) :
    scan_fraction (number.fraction_text ++ (number.exponent_text ++ rest)) =
      (number.fraction_text, number.exponent_text ++ rest) := by
  have hhead := exponent_head number h
  unfold Number.fraction_text
  cases hfraction : number.fraction with
  | none =>
    show scan_fraction (number.exponent_text ++ rest) = ([], number.exponent_text ++ rest)
    cases htail : number.exponent_text ++ rest with
    | nil => rfl
    | cons c tail =>
      rw [htail] at hhead
      exact if_neg fun hdot => (hhead c rfl).2 hdot.1
  | some digits =>
    obtain ⟨htake, hdrop⟩ := digits_append digits.property.2 fun c hc => (hhead c hc).1
    show scan_fraction ('.' :: (digits.val ++ (number.exponent_text ++ rest))) = _
    unfold scan_fraction
    simp only [htake, hdrop, true_and]
    exact if_pos digits.property.1

theorem scan_integer_text (number : Number) {tail : List Char} (h : NoDigit tail) :
    scan_integer (number.integer.val ++ tail) = some (number.integer.val, tail) := by
  obtain ⟨c, digits, hdigits, hc, hrest⟩ := digits_cons number.integer
  obtain ⟨htake, hdrop⟩ := digits_append hrest h
  have hplain := number.plain
  rw [hdigits] at hplain ⊢
  show scan_integer (c :: (digits ++ tail)) = _
  rw [scan_integer]
  by_cases hzero : c = '0'
  · subst c
    rw [if_pos rfl, List.cons.inj (hplain rfl) |>.2]
    rfl
  · rw [if_neg hzero, if_pos hc, htake, hdrop]

variable {φ ε : Type} (to_float : List Char → φ)

theorem scan_number_text (number : Number) (h : Ends rest) :
    scan_number to_float (number.text ++ rest) =
      some ((number.value to_float : Value φ ε), rest) := by
  obtain ⟨c, digits, hdigits, hc, -⟩ := digits_cons number.integer
  have hsign : scan_sign ['-'] (number.text ++ rest) =
      (if number.negative then ['-'] else [],
        number.integer.val ++ (number.fraction_text ++ (number.exponent_text ++ rest))) := by
    unfold Number.text
    rw [List.append_assoc, List.append_assoc, List.append_assoc]
    apply scan_sign_append
    · cases number.negative <;> simp
    · rw [hdigits]
      rintro d hd
      cases hd
      simp [digit_ne hc (show is_digit '-' = false from rfl)]
  unfold scan_number
  rw [hsign]
  simp only [scan_integer_text number (fraction_head number h), Option.map_some,
    scan_fraction_text number h, scan_exponent_text number h]
  unfold Number.value
  cases number.negative <;> rfl

/-! ### Words -/

theorem words_eq : (words to_float : List (List Char × Value φ ε)) = [
    (['n', 'u', 'l', 'l'], .null), (['t', 'r', 'u', 'e'], .bool true),
    (['f', 'a', 'l', 's', 'e'], .bool false), (['N', 'a', 'N'], .float (to_float "NaN".toList)),
    (['I', 'n', 'f', 'i', 'n', 'i', 't', 'y'], .float (to_float "Infinity".toList)),
    (['-', 'I', 'n', 'f', 'i', 'n', 'i', 't', 'y'], .float (to_float "-Infinity".toList))] := rfl

theorem scan_word_null : scan_word to_float ("null".toList ++ rest) =
    some ((.null : Value φ ε), rest) := by
  show scan_word to_float ('n' :: 'u' :: 'l' :: 'l' :: rest) = _
  simp [scan_word, words_eq]

theorem scan_word_true : scan_word to_float ("true".toList ++ rest) =
    some ((.bool true : Value φ ε), rest) := by
  show scan_word to_float ('t' :: 'r' :: 'u' :: 'e' :: rest) = _
  simp [scan_word, words_eq]

theorem scan_word_false : scan_word to_float ("false".toList ++ rest) =
    some ((.bool false : Value φ ε), rest) := by
  show scan_word to_float ('f' :: 'a' :: 'l' :: 's' :: 'e' :: rest) = _
  simp [scan_word, words_eq]

/-- No number is a word, not even with a sign. -/
theorem scan_word_number (number : Number) :
    (scan_word to_float (number.text ++ rest) : Option (Value φ ε × List Char)) = none := by
  obtain ⟨c, digits, hdigits, hc, -⟩ := digits_cons number.integer
  have hne : ∀ d, is_digit d = false → d ≠ c := fun d hd => (digit_ne hc hd).symm
  unfold Number.text
  rw [hdigits]
  cases number.negative with
  | true => simp [scan_word, words_eq, hne 'I' rfl]
  | false => simp [scan_word, words_eq, hne 'n' rfl, hne 't' rfl, hne 'f' rfl, hne 'N' rfl,
      hne 'I' rfl, hne '-' rfl]

/-! ## The turns of the reader -/

theorem scan_once_plain (turns : Nat) {cs : List Char}
    (h : ∀ c, cs.head? = some c → c ≠ '"' ∧ c ≠ '[' ∧ c ≠ '{') :
    (scan_once to_float (turns + 1) cs : Option (Value φ ε × List Char)) =
      (scan_word to_float cs).or (scan_number to_float cs) := by
  rw [scan_once]
  · rintro tail rfl
    exact (h _ rfl).1 rfl
  · rintro tail rfl
    exact (h _ rfl).2.1 rfl
  · rintro tail rfl
    exact (h _ rfl).2.2 rfl

theorem scan_once_arr (turns : Nat) {cs : List Char} (h : (skip cs).head? ≠ some ']') :
    (scan_once to_float (turns + 1) ('[' :: cs) : Option (Value φ ε × List Char)) =
      (scan_items to_float turns (skip cs)).map fun (items, rest) => (.arr items, rest) := by
  rw [scan_once]
  split
  · rename_i hclose
    rw [hclose] at h
    exact absurd rfl h
  · cases scan_items to_float turns (skip cs) <;> rfl

theorem scan_once_obj (turns : Nat) {cs : List Char} (h : (skip cs).head? ≠ some '}') :
    (scan_once to_float (turns + 1) ('{' :: cs) : Option (Value φ ε × List Char)) =
      (scan_fields to_float turns (skip cs)).map
        fun (fields, rest) => (.obj (to_dict fields), rest) := by
  rw [scan_once]
  split
  · rename_i hclose
    rw [hclose] at h
    exact absurd rfl h
  · cases scan_fields to_float turns (skip cs) <;> rfl

theorem scan_once_string (turns : Nat) (pieces : List Piece) :
    (scan_once to_float (turns + 1) (string_text pieces ++ rest) :
        Option (Value φ ε × List Char)) = some (.str (string_points pieces), rest) := by
  show scan_once to_float (turns + 1) ('"' :: ((pieces.flatMap Piece.text ++ ['"']) ++ rest)) = _
  rw [scan_once, List.append_assoc, List.singleton_append, scan_string_text]
  rfl

theorem scan_items_last {turns : Nat} {cs tail : List Char} {item : Value φ ε}
    (hitem : scan_once to_float turns cs = some (item, tail)) (htail : skip tail = ']' :: rest) :
    scan_items to_float (turns + 1) cs = some ([item], rest) := by
  simp [scan_items, hitem, htail]

theorem scan_items_more {turns : Nat} {cs tail next : List Char} {item : Value φ ε}
    {items : List (Value φ ε)} (hitem : scan_once to_float turns cs = some (item, tail))
    (htail : skip tail = ',' :: next)
    (hitems : scan_items to_float turns (skip next) = some (items, rest)) :
    scan_items to_float (turns + 1) cs = some (item :: items, rest) := by
  simp [scan_items, hitem, htail, hitems]

theorem scan_fields_last {turns : Nat} {cs tail next : List Char} {key : List Piece}
    {value : Value φ ε} (hcolon : skip cs = ':' :: next)
    (hvalue : scan_once to_float turns (skip next) = some (value, tail))
    (htail : skip tail = '}' :: rest) :
    scan_fields to_float (turns + 1) (string_text key ++ cs) =
      some ([(string_points key, value)], rest) := by
  have hkey : scan_string (key.flatMap Piece.text ++ '"' :: cs) = _ := scan_string_text key cs
  simp [string_text, scan_fields, hkey, hcolon, hvalue, htail, string_points]

theorem scan_fields_more {turns : Nat} {cs tail next after : List Char} {key : List Piece}
    {value : Value φ ε} {fields : List (List Nat × Value φ ε)} (hcolon : skip cs = ':' :: next)
    (hvalue : scan_once to_float turns (skip next) = some (value, tail))
    (htail : skip tail = ',' :: after)
    (hfields : scan_fields to_float turns (skip after) = some (fields, rest)) :
    scan_fields to_float (turns + 1) (string_text key ++ cs) =
      some ((string_points key, value) :: fields, rest) := by
  have hkey : scan_string (key.flatMap Piece.text ++ '"' :: cs) = _ := scan_string_text key cs
  simp [string_text, scan_fields, hkey, hcolon, hvalue, htail, hfields, string_points]

/-- A blank before a mark is skipped. -/
theorem skip_mark (w : Blank) {c : Char} (cs : List Char) (h : is_blank c = false) :
    skip (w.val ++ c :: cs) = c :: cs := by
  rw [skip_append, skip_cons h]

section

variable {ε : Type}

mutual

/-- The turns that the reader needs. -/
def Doc.turns : Doc ε → Nat
  | .arr items => items.turns + 1
  | .obj fields => fields.turns + 1
  | _ => 1

def Items.turns : Items ε → Nat
  | .last _ item _ => item.turns + 1
  | .more _ item _ items => max item.turns items.turns + 1

def Fields.turns : Fields ε → Nat
  | .last _ _ _ _ value _ => value.turns + 1
  | .more _ _ _ _ value _ fields => max value.turns fields.turns + 1

end

end

variable (leaf_text : Empty → List Char)

theorem Number.length_text_pos (number : Number) : 0 < number.text.length := by
  obtain ⟨c, digits, hdigits, -⟩ := digits_cons number.integer
  simp only [Number.text, hdigits, List.length_append, List.length_cons]
  omega

mutual

theorem Doc.turns_le (doc : Doc Empty) : doc.turns + 1 ≤ 2 * (doc.text leaf_text).length := by
  cases doc with
  | null => exact show 1 + 1 ≤ 2 * 4 by decide
  | bool value =>
    cases value with
    | true => exact show 1 + 1 ≤ 2 * 4 by decide
    | false => exact show 1 + 1 ≤ 2 * 5 by decide
  | number number =>
    have hpos := number.length_text_pos
    show 1 + 1 ≤ 2 * number.text.length
    omega
  | str pieces =>
    simp only [Doc.turns, Doc.text, string_text, List.length_cons]
    omega
  | empty_arr inside =>
    simp only [Doc.turns, Doc.text, List.length_cons, List.length_append]
    omega
  | arr items =>
    have hitems := items.turns_le
    simp only [Doc.turns, Doc.text, List.length_cons, List.length_append]
    omega
  | empty_obj inside =>
    simp only [Doc.turns, Doc.text, List.length_cons, List.length_append]
    omega
  | obj fields =>
    have hfields := fields.turns_le
    simp only [Doc.turns, Doc.text, List.length_cons, List.length_append]
    omega
  | leaf e => cases e

theorem Items.turns_le (items : Items Empty) :
    items.turns ≤ 2 * (items.text leaf_text).length := by
  cases items with
  | last before item after =>
    have hitem := item.turns_le
    simp only [Items.turns, Items.text, List.length_append]
    omega
  | more before item after items =>
    have hitem := item.turns_le
    have hitems := items.turns_le
    simp only [Items.turns, Items.text, List.length_cons, List.length_append]
    omega

theorem Fields.turns_le (fields : Fields Empty) :
    fields.turns ≤ 2 * (fields.text leaf_text).length := by
  cases fields with
  | last before key colon gap value after =>
    have hvalue := value.turns_le
    simp only [Fields.turns, Fields.text, List.length_cons, List.length_append]
    omega
  | more before key colon gap value after fields =>
    have hvalue := value.turns_le
    have hfields := fields.turns_le
    simp only [Fields.turns, Fields.text, List.length_cons, List.length_append]
    omega

end

theorem blank_of_digit {c : Char} (h : is_digit c = true) : is_blank c = false := by
  have hne : ∀ d, is_digit d = false → c ≠ d := fun d hd => digit_ne h hd
  simp [is_blank, hne ' ' rfl, hne '\t' rfl, hne '\n' rfl, hne '\r' rfl]

/-- A value starts with no blank, no bracket that closes, and no byte order mark. -/
theorem Doc.starts (doc : Doc Empty) : ∃ c cs, doc.text leaf_text = c :: cs ∧
    is_blank c = false ∧ c ≠ ']' ∧ c ≠ '\uFEFF' := by
  cases doc with
  | null => exact ⟨'n', ['u', 'l', 'l'], rfl, by decide⟩
  | bool value =>
    cases value with
    | true => exact ⟨'t', ['r', 'u', 'e'], rfl, by decide⟩
    | false => exact ⟨'f', ['a', 'l', 's', 'e'], rfl, by decide⟩
  | number number =>
    obtain ⟨c, digits, hdigits, hc, -⟩ := digits_cons number.integer
    show ∃ c cs, number.text = _ ∧ _
    unfold Number.text
    rw [hdigits]
    cases number.negative with
    | true => exact ⟨'-', _, rfl, by decide⟩
    | false => exact ⟨c, _, rfl, blank_of_digit hc, digit_ne hc rfl, digit_ne hc rfl⟩
  | str pieces => exact ⟨'"', _, rfl, by decide⟩
  | empty_arr inside => exact ⟨'[', _, rfl, by decide⟩
  | arr items => exact ⟨'[', _, rfl, by decide⟩
  | empty_obj inside => exact ⟨'{', _, rfl, by decide⟩
  | obj fields => exact ⟨'{', _, rfl, by decide⟩
  | leaf e => cases e

theorem skip_doc (doc : Doc Empty) (before : Blank) (cs : List Char) :
    skip (before.val ++ (doc.text leaf_text ++ cs)) = doc.text leaf_text ++ cs := by
  obtain ⟨c, tail, hdoc, hblank, -⟩ := doc.starts leaf_text
  rw [skip_append, hdoc, List.cons_append, skip_cons hblank]

theorem Ends.cons {c : Char} (cs : List Char)
    (h : is_digit c = false ∧ c ≠ '.' ∧ c ≠ 'e' ∧ c ≠ 'E') : Ends (c :: cs) := by
  rintro d hd
  cases hd
  exact h

theorem Ends.blank_append (w : Blank) {cs : List Char} (h : Ends cs) : Ends (w.val ++ cs) := by
  obtain ⟨w, hw⟩ := w
  cases w with
  | nil => exact h
  | cons c w =>
    have hblank := hw c List.mem_cons_self
    simp only [is_blank, Bool.or_eq_true, decide_eq_true_eq] at hblank
    apply Ends.cons
    rcases hblank with ((rfl | rfl) | rfl) | rfl <;> decide

theorem number_head (number : Number) (c : Char) (h : (number.text ++ rest).head? = some c) :
    c ≠ '"' ∧ c ≠ '[' ∧ c ≠ '{' := by
  obtain ⟨first, digits, hdigits, hfirst, -⟩ := digits_cons number.integer
  unfold Number.text at h
  rw [hdigits] at h
  cases hnegative : number.negative with
  | true =>
    rw [hnegative] at h
    cases h
    decide
  | false =>
    rw [hnegative] at h
    cases h
    exact ⟨digit_ne hfirst rfl, digit_ne hfirst rfl, digit_ne hfirst rfl⟩

theorem items_head (items : Items Empty) (tail : List Char) :
    (skip (items.text leaf_text ++ tail)).head? ≠ some ']' := by
  have hhead : ∀ (item : Doc Empty) (before : Blank) (tail : List Char),
      (skip (before.val ++ (item.text leaf_text ++ tail))).head? ≠ some ']' := by
    intro item before tail
    obtain ⟨c, cs, hitem, -, hclose, -⟩ := item.starts leaf_text
    rw [skip_doc, hitem]
    exact fun h => hclose (Option.some.inj h)
  cases items with
  | last before item after =>
    simp only [Items.text, List.append_assoc]
    exact hhead item before _
  | more before item after items =>
    simp only [Items.text, List.append_assoc]
    exact hhead item before _

theorem skip_fields (before : Blank) (key : List Piece) (cs : List Char) :
    skip (before.val ++ (string_text key ++ cs)) = string_text key ++ cs := by
  rw [skip_append]
  exact skip_cons rfl _

theorem fields_head (fields : Fields Empty) (tail : List Char) :
    (skip (fields.text leaf_text ++ tail)).head? ≠ some '}' := by
  cases fields with
  | last before key colon gap value after =>
    simp only [Fields.text, List.append_assoc, skip_fields]
    exact nofun
  | more before key colon gap value after fields =>
    simp only [Fields.text, List.append_assoc, skip_fields]
    exact nofun

mutual

theorem Doc.scan (doc : Doc Empty) (turns : Nat) (hturns : doc.turns ≤ turns) (rest : List Char)
    (hrest : Ends rest) :
    scan_once to_float turns (doc.text leaf_text ++ rest) = some (doc.value to_float, rest) := by
  cases turns with
  | zero =>
    have hpos : 0 < doc.turns := by cases doc <;> simp [Doc.turns]
    omega
  | succ turns =>
    cases doc with
    | null =>
      show scan_once to_float (turns + 1) ("null".toList ++ rest) = _
      rw [scan_once_plain, scan_word_null]
      · rfl
      · rintro c hc
        cases hc
        decide
    | bool value =>
      cases value with
      | true =>
        show scan_once to_float (turns + 1) ("true".toList ++ rest) = _
        rw [scan_once_plain, scan_word_true]
        · rfl
        · rintro c hc
          cases hc
          decide
      | false =>
        show scan_once to_float (turns + 1) ("false".toList ++ rest) = _
        rw [scan_once_plain, scan_word_false]
        · rfl
        · rintro c hc
          cases hc
          decide
    | number number =>
      show scan_once to_float (turns + 1) (number.text ++ rest) = _
      rw [scan_once_plain to_float turns (number_head number), scan_word_number,
        scan_number_text to_float number hrest]
      rfl
    | str pieces => exact scan_once_string to_float turns pieces
    | empty_arr inside =>
      show scan_once to_float (turns + 1) ('[' :: ((inside.val ++ [']']) ++ rest)) = _
      rw [scan_once, List.append_assoc, skip_append, List.singleton_append, skip_cons rfl]
      rfl
    | arr items =>
      have hitems : items.turns ≤ turns := Nat.le_of_succ_le_succ hturns
      show scan_once to_float (turns + 1) ('[' :: ((items.text leaf_text ++ [']']) ++ rest)) = _
      rw [List.append_assoc, scan_once_arr to_float turns (items_head leaf_text items _),
        List.singleton_append, items.scan turns hitems rest]
      rfl
    | empty_obj inside =>
      show scan_once to_float (turns + 1) ('{' :: ((inside.val ++ ['}']) ++ rest)) = _
      rw [scan_once, List.append_assoc, skip_append, List.singleton_append, skip_cons rfl]
      rfl
    | obj fields =>
      have hfields : fields.turns ≤ turns := Nat.le_of_succ_le_succ hturns
      show scan_once to_float (turns + 1) ('{' :: ((fields.text leaf_text ++ ['}']) ++ rest)) = _
      rw [List.append_assoc, scan_once_obj to_float turns (fields_head leaf_text fields _),
        List.singleton_append, fields.scan turns hfields rest]
      rfl
    | leaf e => cases e

theorem Items.scan (items : Items Empty) (turns : Nat) (hturns : items.turns ≤ turns)
    (rest : List Char) :
    scan_items to_float turns (skip (items.text leaf_text ++ ']' :: rest)) =
      some (items.values to_float, rest) := by
  cases turns with
  | zero => cases items <;> simp [Items.turns] at hturns
  | succ turns =>
    cases items with
    | last before item after =>
      have hends : Ends (after.val ++ ']' :: rest) := .blank_append after (.cons _ (by decide))
      simp only [Items.text, List.append_assoc, skip_doc]
      exact scan_items_last to_float (item.scan turns (Nat.le_of_succ_le_succ hturns) _ hends)
        (skip_mark after rest rfl)
    | more before item after items =>
      have hends : Ends (after.val ++ ',' :: (items.text leaf_text ++ ']' :: rest)) :=
        .blank_append after (.cons _ (by decide))
      obtain ⟨hitem, hitems⟩ := Nat.max_le.mp (Nat.le_of_succ_le_succ hturns)
      simp only [Items.text, List.append_assoc, List.cons_append, skip_doc]
      exact scan_items_more to_float (item.scan turns hitem _ hends) (skip_mark after _ rfl)
        (items.scan turns hitems rest)

theorem Fields.scan (fields : Fields Empty) (turns : Nat) (hturns : fields.turns ≤ turns)
    (rest : List Char) :
    scan_fields to_float turns (skip (fields.text leaf_text ++ '}' :: rest)) =
      some (fields.values to_float, rest) := by
  cases turns with
  | zero => cases fields <;> simp [Fields.turns] at hturns
  | succ turns =>
    cases fields with
    | last before key colon gap value after =>
      have hends : Ends (after.val ++ '}' :: rest) := .blank_append after (.cons _ (by decide))
      have hvalue := value.scan turns (Nat.le_of_succ_le_succ hturns) _ hends
      simp only [Fields.text, List.append_assoc, List.cons_append, skip_fields]
      rw [← skip_doc leaf_text value gap] at hvalue
      exact scan_fields_last to_float (skip_mark colon _ rfl) hvalue (skip_mark after rest rfl)
    | more before key colon gap value after fields =>
      have hends : Ends (after.val ++ ',' :: (fields.text leaf_text ++ '}' :: rest)) :=
        .blank_append after (.cons _ (by decide))
      obtain ⟨hfirst, hfields⟩ := Nat.max_le.mp (Nat.le_of_succ_le_succ hturns)
      have hvalue := value.scan turns hfirst _ hends
      simp only [Fields.text, List.append_assoc, List.cons_append, skip_fields]
      rw [← skip_doc leaf_text value gap] at hvalue
      exact scan_fields_more to_float (skip_mark colon _ rfl) hvalue (skip_mark after _ rfl)
        (fields.scan turns hfields rest)

end

/-- A value with the blanks around it. -/
structure Document (ε : Type) where
  before : Blank
  body : Doc ε
  after : Blank

def Document.text {ε : Type} (leaf_text : ε → List Char) (document : Document ε) : String :=
  String.ofList (document.before.val ++ (document.body.text leaf_text ++ document.after.val))

/-- The reader gives the value of each text back. -/
theorem loads_text (document : Document Empty) :
    loads to_float (document.text leaf_text) = some (document.body.value to_float) := by
  obtain ⟨before, body, after⟩ := document
  have hmark : (before.val ++ (body.text leaf_text ++ after.val)).head? ≠ some '\uFEFF' := by
    obtain ⟨c, cs, hbody, -, -, hmark⟩ := body.starts leaf_text
    obtain ⟨w, hw⟩ := before
    cases w with
    | nil =>
      rw [hbody]
      exact fun h => hmark (Option.some.inj h)
    | cons d w =>
      intro h
      have hblank := hw d List.mem_cons_self
      rw [Option.some.inj h] at hblank
      cases hblank
  have hturns : body.turns ≤
      2 * (before.val ++ (body.text leaf_text ++ after.val)).length := by
    have hle := body.turns_le leaf_text
    simp only [List.length_append]
    omega
  have hnil : Ends [] := nofun
  have hends : Ends after.val := by simpa using Ends.blank_append after hnil
  unfold loads Document.text
  simp only [String.toList_ofList]
  rw [if_neg hmark, skip_doc, body.scan to_float leaf_text _ hturns _ hends]
  exact if_pos (skip_blank after)

/-! ## Other leaves -/

section

variable {φ ε ε' : Type} (f : ε → Value φ ε')

mutual

/-- The value with others in the place of its leaves. -/
def Value.fill : Value φ ε → Value φ ε'
  | .null => .null
  | .bool value => .bool value
  | .int value => .int value
  | .float value => .float value
  | .str points => .str points
  | .arr items => .arr (fill_items items)
  | .obj fields => .obj (fill_fields fields)
  | .leaf e => f e

def fill_items : List (Value φ ε) → List (Value φ ε')
  | [] => []
  | item :: items => item.fill :: fill_items items

def fill_fields : List (List Nat × Value φ ε) → List (List Nat × Value φ ε')
  | [] => []
  | (key, value) :: fields => (key, value.fill) :: fill_fields fields

end

theorem fill_assign (key : List Nat) (value : Value φ ε) (fields : List (List Nat × Value φ ε)) :
    fill_fields f (dict.assign key value fields) =
      dict.assign key (value.fill f) (fill_fields f fields) := by
  induction fields with
  | nil => rfl
  | cons field fields ih =>
    obtain ⟨other, old⟩ := field
    by_cases h : other = key
    · simp [dict.assign, fill_fields, h]
    · simp [dict.assign, fill_fields, h, ih]

theorem fill_to_dict (fields : List (List Nat × Value φ ε)) :
    fill_fields f (to_dict fields) = to_dict (fill_fields f fields) := by
  have hfold : ∀ so_far : List (List Nat × Value φ ε),
      fill_fields f (fields.foldl (fun fields (key, value) => dict.assign key value fields)
        so_far) = (fill_fields f fields).foldl
          (fun fields (key, value) => dict.assign key value fields) (fill_fields f so_far) := by
    induction fields with
    | nil => exact fun _ => rfl
    | cons field fields ih =>
      intro so_far
      rw [List.foldl_cons, ih, fill_assign]
      rfl
  exact hfold []

end

section

variable {ε ε' : Type} (f : ε → Doc ε')

mutual

def Doc.fill : Doc ε → Doc ε'
  | .null => .null
  | .bool value => .bool value
  | .number number => .number number
  | .str pieces => .str pieces
  | .empty_arr inside => .empty_arr inside
  | .arr items => .arr items.fill
  | .empty_obj inside => .empty_obj inside
  | .obj fields => .obj fields.fill
  | .leaf e => f e

def Items.fill : Items ε → Items ε'
  | .last before item after => .last before item.fill after
  | .more before item after items => .more before item.fill after items.fill

def Fields.fill : Fields ε → Fields ε'
  | .last before key colon gap value after => .last before key colon gap value.fill after
  | .more before key colon gap value after fields =>
    .more before key colon gap value.fill after fields.fill

end

variable {φ : Type} (to_float : List Char → φ)

mutual

/-- Other leaves in a text are the same leaves in its value. -/
theorem Doc.value_fill (doc : Doc ε) :
    (doc.fill f).value to_float = (doc.value to_float).fill fun e => (f e).value to_float := by
  cases doc with
  | arr items =>
    simp [Doc.fill, Doc.value, Value.fill, items.values_fill]
  | obj fields =>
    simp [Doc.fill, Doc.value, Value.fill, fields.values_fill, fill_to_dict]
  | number number =>
    simp only [Doc.fill, Doc.value, Number.value, number_value]
    split <;> rfl
  | _ => rfl

theorem Items.values_fill (items : Items ε) :
    (items.fill f).values to_float =
      fill_items (fun e => (f e).value to_float) (items.values to_float) := by
  cases items with
  | last before item after => simp [Items.fill, Items.values, fill_items, item.value_fill]
  | more before item after items =>
    simp [Items.fill, Items.values, fill_items, item.value_fill, items.values_fill]

theorem Fields.values_fill (fields : Fields ε) :
    (fields.fill f).values to_float =
      fill_fields (fun e => (f e).value to_float) (fields.values to_float) := by
  cases fields with
  | last before key colon gap value after =>
    simp [Fields.fill, Fields.values, fill_fields, value.value_fill]
  | more before key colon gap value after fields =>
    simp [Fields.fill, Fields.values, fill_fields, value.value_fill, fields.values_fill]

end

end

/-! ## Texts without escapes -/

/-- A text that is written as it is. -/
def Quotable (cs : List Char) : Prop := ∀ c ∈ cs, c ≠ '"' ∧ c ≠ '\\' ∧ 32 ≤ c.toNat

def quotable (c : Char) : Bool := c ≠ '"' && c ≠ '\\' && 32 ≤ c.toNat

theorem quotable_of_all {cs : List Char} (h : cs.all quotable = true) : Quotable cs := by
  intro c hc
  have hquotable := List.all_eq_true.mp h c hc
  simpa [quotable, and_assoc] using hquotable

def plain_pieces : (cs : List Char) → Quotable cs → List Piece
  | [], _ => []
  | c :: cs, h =>
    .plain c (h c List.mem_cons_self) ::
      plain_pieces cs fun d hd => h d (List.mem_cons_of_mem _ hd)

theorem plain_pieces_text {cs : List Char} (h : Quotable cs) :
    (plain_pieces cs h).flatMap Piece.text = cs := by
  induction cs with
  | nil => rfl
  | cons c cs ih => exact congrArg (c :: ·) (ih _)

/-- No character is half of a surrogate pair. -/
theorem join_surrogates_chars (cs : List Char) :
    join_surrogates (cs.map Char.toNat) = cs.map Char.toNat := by
  induction cs with
  | nil => rfl
  | cons first cs ih =>
    have hfirst : is_high first.toNat = false := by
      unfold is_high
      have hvalid : first.toNat < 0xD800 ∨ 0xDFFF < first.toNat :=
        first.valid.imp id And.left
      rw [Bool.and_eq_false_iff, decide_eq_false_iff_not, decide_eq_false_iff_not]
      omega
    cases cs with
    | nil => rfl
    | cons second cs =>
      rw [List.map_cons] at ih ⊢
      rw [List.map_cons, join_surrogates]
      simp only [hfirst, Bool.false_eq_true, false_and, if_false]
      exact congrArg _ ih

theorem plain_pieces_points {cs : List Char} (h : Quotable cs) :
    (string_points (plain_pieces cs h)).map Char.ofNat = cs := by
  have hpoints : (plain_pieces cs h).map Piece.point = cs.map Char.toNat := by
    induction cs with
    | nil => rfl
    | cons c cs ih => exact congrArg (c.toNat :: ·) (ih _)
  have hround : Char.ofNat ∘ Char.toNat = id := by
    funext c
    exact Char.ofNat_toNat c
  unfold string_points
  rw [hpoints, join_surrogates_chars, List.map_map, hround, List.map_id]

end json_reader
