-- Hexadecimal text: the `x` format of Python, and the number that its digits stand for.
import Mathlib.Algebra.GroupWithZero.Nat

namespace hexadecimal

/-- The value of a digit, in either case. -/
def value (c : Char) : Option Nat :=
  let code := c.toNat
  if 48 ≤ code ∧ code ≤ 57 then some (code - 48)
  else if 97 ≤ code ∧ code ≤ 102 then some (code - 97 + 10)
  else if 65 ≤ code ∧ code ≤ 70 then some (code - 65 + 10)
  else none

def number_from : Nat → List Char → Option Nat
  | n, [] => some n
  | n, c :: cs => (value c).bind fun v => number_from (16 * n + v) cs

/-- `int(digits, 16)` for a text of digits alone, and nothing for any other text. -/
def number (digits : List Char) : Option Nat :=
  if digits = [] then none else number_from 0 digits

/-- `format(n, f"0{width}x")`. -/
def format (width n : Nat) : List Char :=
  let digits := Nat.toDigits 16 n
  List.replicate (width - digits.length) '0' ++ digits

example : format 4 0xbe = "00be".toList ∧ number "00bE".toList = some 0xbe := by decide

/-! ## The round trip -/

theorem value_digitChar : ∀ d < 16, value d.digitChar = some d := by decide

theorem number_from_append (n : Nat) (xs ys : List Char) :
    number_from n (xs ++ ys) = (number_from n xs).bind fun m => number_from m ys := by
  induction xs generalizing n with
  | nil => rfl
  | cons c xs ih =>
    rw [List.cons_append, number_from, number_from]
    cases value c with
    | none => rfl
    | some v => exact ih _

theorem number_from_zeros (zeros : Nat) (cs : List Char) :
    number_from 0 (List.replicate zeros '0' ++ cs) = number_from 0 cs := by
  induction zeros with
  | zero => rfl
  | succ zeros ih => exact ih

theorem number_from_toDigits (n : Nat) : number_from 0 (Nat.toDigits 16 n) = some n := by
  induction n using Nat.strongRecOn with
  | ind n ih =>
    rw [Nat.toDigits_eq_if (by decide)]
    split
    case isTrue h =>
      rw [number_from, value_digitChar n h]
      simp [number_from]
    case isFalse h =>
      rw [number_from_append, ih (n / 16) (by omega), Option.bind_some, number_from,
        value_digitChar _ (Nat.mod_lt n (by decide)), Option.bind_some, number_from,
        Nat.div_add_mod]

theorem format_ne_nil (width n : Nat) : format width n ≠ [] := by
  unfold format
  rw [Ne, List.append_eq_nil_iff]
  exact fun h => Nat.toDigits_ne_nil h.2

theorem number_format (width n : Nat) : number (format width n) = some n := by
  unfold number
  rw [if_neg (format_ne_nil width n), format, number_from_zeros, number_from_toDigits]

/-- A number below the bound of the width has this width. -/
theorem length_format {width n : Nat} (hpos : 0 < width) (h : n < 16 ^ width) :
    (format width n).length = width := by
  have hdigits : (Nat.toDigits 16 n).length ≤ width :=
    (Nat.length_toDigits_le_iff (by decide) hpos).mpr h
  rw [format, List.length_append, List.length_replicate]
  omega

/-! ## The digits -/

/-- The characters of hexadecimal text. -/
def Digits (cs : List Char) : Prop := ∀ c ∈ cs, (value c).isSome

theorem digits_of_number_from {n m : Nat} {cs : List Char} (h : number_from n cs = some m) :
    Digits cs := by
  induction cs generalizing n with
  | nil => exact fun _ hc => nomatch hc
  | cons c cs ih =>
    obtain ⟨v, hv, hrest⟩ := Option.bind_eq_some_iff.mp h
    intro d hd
    rcases List.mem_cons.mp hd with rfl | hd
    · rw [hv]
      rfl
    · exact ih hrest d hd

theorem digits_format (width n : Nat) : Digits (format width n) := by
  have h := number_format width n
  unfold number at h
  rw [if_neg (format_ne_nil width n)] at h
  exact digits_of_number_from h

/-- A digit is a letter or a digit of ASCII. -/
theorem digit_bounds {c : Char} (h : (value c).isSome) : 48 ≤ c.toNat ∧ c.toNat ≤ 57 ∨
    65 ≤ c.toNat ∧ c.toNat ≤ 70 ∨ 97 ≤ c.toNat ∧ c.toNat ≤ 102 := by
  unfold value at h
  dsimp only at h
  split at h
  · exact Or.inl ‹_›
  · split at h
    · exact Or.inr (Or.inr ‹_›)
    · split at h
      · exact Or.inr (Or.inl ‹_›)
      · cases h

end hexadecimal
