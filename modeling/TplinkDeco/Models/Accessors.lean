-- The accessors of `_json.py`: the value under a key, or a default where it has the
-- wrong type.
import TplinkDeco.Lib.Json
import TplinkDeco.Lib.Text

open json text

namespace tplink_deco_api.models

/-! ## `int` of a text -/

/-- The code points of the zeros of all decimal digits. The nine digits after each follow it. -/
def DECIMAL_ZEROS : List Nat := [
  0x30, 0x660, 0x6F0, 0x7C0, 0x966, 0x9E6, 0xA66, 0xAE6, 0xB66, 0xBE6, 0xC66, 0xCE6, 0xD66, 0xDE6,
  0xE50, 0xED0, 0xF20, 0x1040, 0x1090, 0x17E0, 0x1810, 0x1946, 0x19D0, 0x1A80, 0x1A90, 0x1B50,
  0x1BB0, 0x1C40, 0x1C50, 0xA620, 0xA8D0, 0xA900, 0xA9D0, 0xA9F0, 0xAA50, 0xABF0, 0xFF10, 0x104A0,
  0x10D30, 0x11066, 0x110F0, 0x11136, 0x111D0, 0x112F0, 0x11450, 0x114D0, 0x11650, 0x116C0,
  0x11730, 0x118E0, 0x11950, 0x11C50, 0x11D50, 0x11DA0, 0x11F50, 0x16A60, 0x16AC0, 0x16B50,
  0x1D7CE, 0x1D7D8, 0x1D7E2, 0x1D7EC, 0x1D7F6, 0x1E140, 0x1E2F0, 0x1E4F0, 0x1E950, 0x1FBF0]

/-- The value of a decimal digit of any script. -/
def decimal_digit (c : Char) : Option Nat :=
  (DECIMAL_ZEROS.find? fun first => first ≤ c.toNat && c.toNat < first + 10).map (c.toNat - ·)

/-- The digits after one, with single underscores between them. -/
def digits_from (value : Nat) : List Char → Option Nat
  | [] => some value
  | '_' :: c :: cs => (decimal_digit c).bind fun digit => digits_from (10 * value + digit) cs
  | c :: cs => (decimal_digit c).bind fun digit => digits_from (10 * value + digit) cs

/-- The number that a text of digits and underscores spells. -/
def digits : List Char → Option Nat
  | [] => none
  | c :: cs => (decimal_digit c).bind fun digit => digits_from digit cs

/-- `int(value)` of a text, or nothing for its `ValueError`. -/
def int_of_text (value : String) : Option Int :=
  match (strip value).toList with
  | '-' :: cs => (digits cs).map fun n => -(n : Int)
  | '+' :: cs => (digits cs).map fun n => (n : Int)
  | cs => (digits cs).map fun n => (n : Int)

example : int_of_text " -1_024\n" = some (-1024) ∧ int_of_text "1__0" = none := by decide

/-! ## The decimal text of a number -/

theorem digit_bounds {c : Char} (h : c.isDigit = true) : 48 ≤ c.toNat ∧ c.toNat ≤ 57 := by
  simpa [Char.isDigit, UInt32.le_iff_toNat_le] using h

theorem decimal_digit_of_digit {c : Char} (h : c.isDigit = true) :
    decimal_digit c = some (c.toNat - '0'.toNat) := by
  obtain ⟨hlow, hhigh⟩ := digit_bounds h
  unfold decimal_digit DECIMAL_ZEROS
  rw [List.find?_cons_of_pos (by simp; omega)]
  rfl

theorem digits_from_of_digits {cs : List Char} (h : ∀ c ∈ cs, c.isDigit = true) (value : Nat) :
    digits_from value cs = some (Nat.ofDigitChars 10 cs value) := by
  induction cs generalizing value with
  | nil => rw [digits_from, Nat.ofDigitChars_nil]
  | cons c cs ih =>
    have hc := h c List.mem_cons_self
    have hne : c ≠ '_' := by
      rintro rfl
      exact absurd hc (by decide)
    rw [digits_from, decimal_digit_of_digit hc, Option.bind_some,
      ih fun d hd => h d (List.mem_cons_of_mem _ hd), Nat.ofDigitChars_cons]
    · exact fun _ _ hcons => absurd hcons hne

theorem digits_toDigits (n : Nat) : digits (Nat.toDigits 10 n) = some n := by
  have hdigits : ∀ c ∈ Nat.toDigits 10 n, c.isDigit = true :=
    fun c hc => Nat.isDigit_of_mem_toDigits (by decide) (by decide) hc
  have hvalue : Nat.ofDigitChars 10 (Nat.toDigits 10 n) 0 = n :=
    Nat.ofDigitChars_toDigits (by decide) (by decide)
  cases hcs : Nat.toDigits 10 n with
  | nil => exact absurd hcs Nat.toDigits_ne_nil
  | cons c cs =>
    rw [hcs] at hdigits hvalue
    rw [Nat.ofDigitChars_cons, Nat.mul_zero, Nat.zero_add] at hvalue
    rw [digits, decimal_digit_of_digit (hdigits c List.mem_cons_self), Option.bind_some,
      digits_from_of_digits fun d hd => hdigits d (List.mem_cons_of_mem _ hd), hvalue]

/-- The decimal text of a number is read back as this number. -/
theorem int_of_text_toString (value : Int) : int_of_text (toString value) = some value := by
  have hspace : ∀ {c : Char}, c.isDigit = true → is_space c = false := by
    intro c hc
    have := digit_bounds hc
    unfold is_space
    simp
    omega
  have hdigits : ∀ n : Nat, ∀ c ∈ Nat.toDigits 10 n, c.isDigit = true :=
    fun n c hc => Nat.isDigit_of_mem_toDigits (by decide) (by decide) hc
  unfold int_of_text
  cases value with
  | ofNat n =>
    have htext : toString (Int.ofNat n) = n.repr := rfl
    rw [htext, strip_eq_self fun c hc => hspace (hdigits n c (Nat.toList_repr ▸ hc)),
      Nat.toList_repr]
    split
    · rename_i cs hcs
      exact absurd (hdigits n '-' (hcs ▸ List.mem_cons_self)) (by decide)
    · rename_i cs hcs
      exact absurd (hdigits n '+' (hcs ▸ List.mem_cons_self)) (by decide)
    · rw [digits_toDigits]
      rfl
  | negSucc n =>
    have htext : (toString (Int.negSucc n)).toList = '-' :: Nat.toDigits 10 (n + 1) := by
      show ("-" ++ (n + 1).repr).toList = _
      rw [String.toList_append, Nat.toList_repr]
      rfl
    have hstrip : strip (toString (Int.negSucc n)) = toString (Int.negSucc n) := by
      apply strip_eq_self
      rw [htext, List.forall_mem_cons]
      exact ⟨by decide, fun c hc => hspace (hdigits _ c hc)⟩
    rw [hstrip, htext]
    simp only [digits_toDigits]
    rfl

/-! ## The accessors -/

variable (data : JsonObject) (key : String)

/-- `get_str`. -/
def get_str : String := ((get data key).asStr).getD ""

/-- `get_int`: a number, a Boolean, or a text that is read as one. -/
def get_int : Int :=
  match get data key with
  | .bool value => if value then 1 else 0
  | .int value => value
  | .str value => (int_of_text value).getD 0
  | _ => 0

/-- A `float` that is not a number is true. -/
def get_bool : Bool :=
  match get data key with
  | .bool value => value
  | .int value => value ≠ 0
  | .float value => value ≠ some 0
  | .str value => lower value ∈ ["true", "1", "yes"]
  | _ => false

/-- `get_object`. -/
def get_object : JsonObject := ((get data key).asObj).getD []

/-- `get_str_tuple`: the texts of a list. -/
def get_str_tuple : List String := (((get data key).asArr).getD []).filterMap Json.asStr

/-! ## What they read of a value of the right type -/

section

variable {data key}

theorem get_str_of {value : String} (h : get data key = .str value) : get_str data key = value := by
  unfold get_str
  rw [h]
  rfl

theorem get_int_of {value : Int} (h : get data key = .int value) : get_int data key = value := by
  unfold get_int
  rw [h]

theorem get_bool_of {value : Bool} (h : get data key = .bool value) :
    get_bool data key = value := by
  unfold get_bool
  rw [h]

theorem get_object_of {value : JsonObject} (h : get data key = .obj value) :
    get_object data key = value := by
  unfold get_object
  rw [h]
  rfl

theorem get_object_eq {other : JsonObject} (h : other.lookup key = data.lookup key) :
    get_object other key = get_object data key := by
  unfold get_object
  rw [get_eq_of_lookup h]

/-- A key that is not there, or whose value is null, gives no fields. -/
theorem get_object_of_null (h : get data key = .null) : get_object data key = [] := by
  unfold get_object
  rw [h]
  rfl

theorem get_str_tuple_of {values : List String} (h : get data key = .arr (values.map .str)) :
    get_str_tuple data key = values := by
  have hread : Json.asStr ∘ Json.str = some := rfl
  unfold get_str_tuple
  rw [h]
  show (values.map Json.str).filterMap Json.asStr = values
  rw [List.filterMap_map, hread, List.filterMap_some]

end

end tplink_deco_api.models
