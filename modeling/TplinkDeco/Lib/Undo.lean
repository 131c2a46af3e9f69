-- Writes that are taken back: a write gives one place a value and leaves the others as
-- they are, and what takes it back writes what the place has shown before.
import Mathlib.Tactic.Common

namespace undo

variable {σ ι υ α : Type}

structure Write (ι υ : Type) where
  place : ι
  value : υ

variable (shows : σ → ι → υ)

/-- What the write makes of a state. -/
structure Made (w : Write ι υ) (before after : σ) : Prop where
  here : shows after w.place = w.value
  elsewhere : ∀ i ≠ w.place, shows after i = shows before i

/-- The write that restores its place. -/
def inverse (before : σ) (w : Write ι υ) : Write ι υ := ⟨w.place, shows before w.place⟩

variable {shows}

theorem Made.restores {w : Write ι υ} {s t u : σ} (h : Made shows w s t)
    (hback : Made shows (inverse shows s w) t u) : ∀ i, shows u i = shows s i := by
  intro i
  by_cases hi : i = w.place
  · rw [hi]
    exact hback.here
  · exact (hback.elsewhere i hi).trans (h.elsewhere i hi)

/-- What a write makes of one state, it makes of each that shows the same. -/
theorem Made.of_same {w : Write ι υ} {s s' t : σ} (h : Made shows w s t)
    (hsame : ∀ i, shows s' i = shows s i) : Made shows w s' t :=
  ⟨h.here, fun i hi => (h.elsewhere i hi).trans (hsame i).symm⟩

variable (shows) (write : α → Write ι υ) (back : σ → α → Option α)

/-- Operations one after the other, each with what takes it back, the newest first. -/
inductive Journal : σ → List α → σ → Prop where
  | start (s : σ) : Journal s [] s
  | step {s t u : σ} {journal : List α} {a b : α} (earlier : Journal s journal t)
      (prepared : back t a = some b) (made : Made shows (write a) t u) : Journal s (b :: journal) u

/-- Operations one after the other. -/
inductive Steps : σ → List α → σ → Prop where
  | nil (s : σ) : Steps s [] s
  | cons {s t u : σ} {a : α} {as : List α} (made : Made shows (write a) s t)
      (later : Steps t as u) : Steps s (a :: as) u

variable {shows write back}

theorem Steps.of_same {s s' t : σ} {as : List α} (h : Steps shows write s as t)
    (hsame : ∀ i, shows s' i = shows s i) :
    ∃ t', Steps shows write s' as t' ∧ ∀ i, shows t' i = shows t i := by
  cases h with
  | nil => exact ⟨s', .nil s', hsame⟩
  | cons made later => exact ⟨t, .cons (made.of_same hsame) later, fun _ => rfl⟩

/-- A journal that is read from its newest entry restores every place. -/
theorem Journal.restores {s t u : σ} {journal : List α}
    (hback : ∀ state a b, back state a = some b → write b = inverse shows state (write a))
    (h : Journal shows write back s journal t) (hsteps : Steps shows write t journal u) :
    ∀ i, shows u i = shows s i := by
  induction h generalizing u with
  | start =>
    cases hsteps
    exact fun _ => rfl
  | @step t₁ t₂ journal a b earlier prepared made ih =>
    cases hsteps with
    | cons taken later =>
      -- The newest entry brings the state before its operation back, as far as it shows.
      rw [hback t₁ a b prepared] at taken
      obtain ⟨u', hlater, hsame⟩ := later.of_same fun i => (made.restores taken i).symm
      exact fun i => (hsame i).symm.trans (ih hlater i)

end undo
