-- The replacement of the matches of a pattern in a text, from its start to its end.
import Mathlib.Data.List.Infix

namespace substitution

variable {α : Type} (pattern : List α → Option Nat) (put : List α)

/-- `re.sub`. The pattern gives the length of its match at the start of a text, and the number is
what is left to skip of the last match. -/
def sub : Nat → List α → List α
  | _, [] => []
  | skip + 1, _ :: rest => sub skip rest
  | 0, a :: rest =>
    match pattern (a :: rest) with
    | some n => put ++ sub (n - 1) rest
    | none => a :: sub 0 rest

variable {pattern put}

@[simp] theorem sub_nil (skip : Nat) : sub pattern put skip [] = [] := by
  cases skip <;> rfl

theorem sub_eq_drop (skip : Nat) (xs : List α) :
    sub pattern put skip xs = sub pattern put 0 (xs.drop skip) := by
  induction xs generalizing skip with
  | nil => simp
  | cons a xs ih =>
    cases skip with
    | zero => rfl
    | succ skip => exact ih skip

theorem sub_of_none {a : α} {rest : List α} (h : pattern (a :: rest) = none) :
    sub pattern put 0 (a :: rest) = a :: sub pattern put 0 rest := by
  simp [sub, h]

theorem sub_of_some {a : α} {rest : List α} {n : Nat} (h : pattern (a :: rest) = some (n + 1)) :
    sub pattern put 0 (a :: rest) = put ++ sub pattern put 0 (rest.drop n) := by
  simp [sub, h, ← sub_eq_drop]

/-- A text in which nothing matches stays as it is. -/
theorem sub_eq_self {xs : List α} (h : ∀ suffix, suffix <:+ xs → pattern suffix = none) :
    sub pattern put 0 xs = xs := by
  induction xs with
  | nil => rfl
  | cons a xs ih =>
    rw [sub_of_none (h _ List.suffix_rfl), ih]
    intro suffix hsuffix
    exact h suffix (hsuffix.trans (List.suffix_cons a xs))

/-- Two parts of a text are replaced on their own, if no match of the first part can see or reach
the second. -/
theorem sub_append {xs ys : List α}
    (h : ∀ suffix, suffix ≠ [] → suffix <:+ xs → pattern (suffix ++ ys) = pattern suffix)
    (hlength : ∀ suffix n, pattern suffix = some n → n ≤ suffix.length) :
    ∀ skip, skip ≤ xs.length →
      sub pattern put skip (xs ++ ys) = sub pattern put skip xs ++ sub pattern put 0 ys := by
  induction xs with
  | nil =>
    intro skip hskip
    rw [Nat.le_zero.mp hskip]
    rfl
  | cons a xs ih =>
    have hrest := ih fun suffix hne hsuffix =>
      h suffix hne (hsuffix.trans (List.suffix_cons a xs))
    intro skip hskip
    cases skip with
    | succ skip => exact hrest skip (Nat.le_of_succ_le_succ hskip)
    | zero =>
      have hhere : pattern (a :: (xs ++ ys)) = pattern (a :: xs) :=
        h (a :: xs) (List.cons_ne_nil a xs) List.suffix_rfl
      rw [List.cons_append, sub, sub, hhere]
      cases hmatch : pattern (a :: xs) with
      | none => simp [hrest 0 (Nat.zero_le _)]
      | some n =>
        have hn := hlength _ n hmatch
        rw [List.length_cons] at hn
        simp [hrest (n - 1) (by omega)]

end substitution
