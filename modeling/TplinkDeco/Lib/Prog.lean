-- Programs over a state that may raise an exception, and that may still wait
-- for the outside world when the part of the run that is given ends. What a
-- program did to the state stays done when it raises.
import Mathlib.Tactic.Common

namespace prog

/-- How the part of a run that is given ends. -/
inductive Outcome (ε α : Type) where
  | ok (value : α)
  | raised (error : ε)
  | waiting
deriving DecidableEq, Repr

/-- The error that was raised, if one was. -/
def Outcome.error {ε α : Type} : Outcome ε α → Option ε
  | .raised e => some e
  | _ => none

theorem Outcome.error_eq_some {ε α : Type} {r : Outcome ε α} {e : ε} :
    r.error = some e ↔ r = .raised e := by
  cases r <;> simp [Outcome.error]

def Prog (ε σ α : Type) := σ → Outcome ε α × σ

namespace Prog

variable {ε σ τ α β : Type}

def ret (a : α) : Prog ε σ α := fun s => (.ok a, s)

def andThen (m : Prog ε σ α) (f : α → Prog ε σ β) : Prog ε σ β := fun s =>
  match m s with
  | (.ok a, s') => f a s'
  | (.raised e, s') => (.raised e, s')
  | (.waiting, s') => (.waiting, s')

instance : Monad (Prog ε σ) where
  pure := ret
  bind := andThen

def raise (e : ε) : Prog ε σ α := fun s => (.raised e, s)

def wait : Prog ε σ α := fun s => (.waiting, s)

/-- Raise the error of a pure computation. -/
def lift (x : Except ε α) : Prog ε σ α :=
  match x with
  | .ok a => ret a
  | .error e => raise e

/-- `try` with one `except` clause: the errors that `catches` accepts come back as values. -/
def trying (catches : ε → Bool) (m : Prog ε σ α) : Prog ε σ (Except ε α) := fun s =>
  match m s with
  | (.ok a, s') => (.ok (.ok a), s')
  | (.raised e, s') => if catches e then (.ok (.error e), s') else (.raised e, s')
  | (.waiting, s') => (.waiting, s')

/-- Which part of a pure computation raised. -/
theorem error_of_bind {x : Except ε α} {f : α → Except ε β} {e : ε}
    (h : x >>= f = .error e) : x = .error e ∨ ∃ a, x = .ok a ∧ f a = .error e := by
  cases x with
  | error e' =>
    cases h
    exact Or.inl rfl
  | ok a => exact Or.inr ⟨a, rfl, h⟩

/-- A pure computation that ends passed each of its parts. -/
theorem parts_of_ok {x : Except ε α} {f : α → Except ε β} {b : β} (h : x >>= f = .ok b) :
    ∃ a, x = .ok a ∧ f a = .ok b := by
  cases x with
  | error e => cases h
  | ok a => exact ⟨a, rfl, h⟩

/-! ## Running a program -/

@[simp] theorem pure_run (a : α) (s : σ) : (pure a : Prog ε σ α) s = (.ok a, s) := rfl

@[simp] theorem raise_run (e : ε) (s : σ) : (raise e : Prog ε σ α) s = (.raised e, s) := rfl

@[simp] theorem wait_run (s : σ) : (wait : Prog ε σ α) s = (.waiting, s) := rfl

@[simp] theorem lift_ok (a : α) (s : σ) : (lift (.ok a) : Prog ε σ α) s = (.ok a, s) := rfl

@[simp] theorem lift_error (e : ε) (s : σ) :
    (lift (.error e) : Prog ε σ α) s = (.raised e, s) := rfl

theorem bind_run (m : Prog ε σ α) (f : α → Prog ε σ β) (s : σ) :
    (m >>= f) s = match m s with
      | (.ok a, s') => f a s'
      | (.raised e, s') => (.raised e, s')
      | (.waiting, s') => (.waiting, s') := rfl

theorem bind_ok {m : Prog ε σ α} {f : α → Prog ε σ β} {s s' : σ} {a : α}
    (h : m s = (.ok a, s')) : (m >>= f) s = f a s' := by
  rw [bind_run, h]

theorem bind_raised {m : Prog ε σ α} {f : α → Prog ε σ β} {s s' : σ} {e : ε}
    (h : m s = (.raised e, s')) : (m >>= f) s = (.raised e, s') := by
  rw [bind_run, h]

theorem bind_waiting {m : Prog ε σ α} {f : α → Prog ε σ β} {s s' : σ}
    (h : m s = (.waiting, s')) : (m >>= f) s = (.waiting, s') := by
  rw [bind_run, h]

theorem bind_eq_ok {m : Prog ε σ α} {f : α → Prog ε σ β} {s s'' : σ} {b : β}
    (h : (m >>= f) s = (.ok b, s'')) : ∃ a s', m s = (.ok a, s') ∧ f a s' = (.ok b, s'') := by
  rw [bind_run] at h
  rcases hm : m s with ⟨r, s'⟩
  rw [hm] at h
  cases r with
  | ok a => exact ⟨a, s', rfl, h⟩
  | raised e => cases h
  | waiting => cases h

theorem bind_assoc {γ : Type} (m : Prog ε σ α) (f : α → Prog ε σ β) (g : β → Prog ε σ γ) :
    m >>= f >>= g = m >>= fun a => f a >>= g := by
  funext s
  simp only [bind_run]
  rcases m s with ⟨r, s'⟩
  cases r <;> rfl

/-! ## Postconditions -/

/-- However `m` ends from `s`, its outcome and the state after it are as `Q` says. -/
def Ends (m : Prog ε σ α) (s : σ) (Q : Outcome ε α → σ → Prop) : Prop :=
  Q (m s).1 (m s).2

theorem Ends.mono {m : Prog ε σ α} {s : σ} {Q R : Outcome ε α → σ → Prop} (h : m.Ends s Q)
    (hQR : ∀ r s', Q r s' → R r s') : m.Ends s R := hQR _ _ h

/-- What a postcondition says of a run that is known. -/
theorem Ends.of_run {m : Prog ε σ α} {s s' : σ} {r : Outcome ε α} {Q : Outcome ε α → σ → Prop}
    (h : m.Ends s Q) (hm : m s = (r, s')) : Q r s' := by
  unfold Ends at h
  rwa [hm] at h

theorem Ends.pure {a : α} {s : σ} {Q : Outcome ε α → σ → Prop} (h : Q (.ok a) s) :
    (Pure.pure a : Prog ε σ α).Ends s Q := h

theorem Ends.raise {e : ε} {s : σ} {Q : Outcome ε α → σ → Prop} (h : Q (.raised e) s) :
    (Prog.raise e : Prog ε σ α).Ends s Q := h

theorem Ends.wait {s : σ} {Q : Outcome ε α → σ → Prop} (h : Q .waiting s) :
    (Prog.wait : Prog ε σ α).Ends s Q := h

theorem Ends.lift {x : Except ε α} {s : σ} {Q : Outcome ε α → σ → Prop}
    (hok : ∀ a, x = .ok a → Q (.ok a) s) (herr : ∀ e, x = .error e → Q (.raised e) s) :
    (Prog.lift x : Prog ε σ α).Ends s Q := by
  cases x with
  | ok a => exact hok a rfl
  | error e => exact herr e rfl

/-- The rule for a sequence: the rest runs only after an `ok`. -/
theorem Ends.bind {m : Prog ε σ α} {f : α → Prog ε σ β} {s : σ} {R : Outcome ε α → σ → Prop}
    {Q : Outcome ε β → σ → Prop} (h : m.Ends s R)
    (hok : ∀ a s', R (.ok a) s' → (f a).Ends s' Q)
    (hraised : ∀ e s', R (.raised e) s' → Q (.raised e) s')
    (hwaiting : ∀ s', R .waiting s' → Q .waiting s') : (m >>= f).Ends s Q := by
  unfold Ends at *
  rw [bind_run]
  rcases hm : m s with ⟨r, s'⟩
  rw [hm] at h
  cases r with
  | ok a => exact hok a s' h
  | raised e => exact hraised e s' h
  | waiting => exact hwaiting s' h

theorem Ends.bind_lift_ok {a : α} {f : α → Prog ε σ β} {s : σ} {Q : Outcome ε β → σ → Prop}
    (h : (f a).Ends s Q) : (Prog.lift (.ok a) >>= f).Ends s Q := h

theorem Ends.trying {catches : ε → Bool} {m : Prog ε σ α} {s : σ} {R : Outcome ε α → σ → Prop}
    {Q : Outcome ε (Except ε α) → σ → Prop} (h : m.Ends s R)
    (hok : ∀ a s', R (.ok a) s' → Q (.ok (.ok a)) s')
    (hcaught : ∀ e s', catches e = true → R (.raised e) s' → Q (.ok (.error e)) s')
    (hraised : ∀ e s', catches e = false → R (.raised e) s' → Q (.raised e) s')
    (hwaiting : ∀ s', R .waiting s' → Q .waiting s') : (m.trying catches).Ends s Q := by
  unfold Ends Prog.trying at *
  rcases hm : m s with ⟨r, s'⟩
  rw [hm] at h
  cases r with
  | ok a => exact hok a s' h
  | raised e =>
    cases hc : catches e with
    | true => simpa [hc] using hcaught e s' hc h
    | false => simpa [hc] using hraised e s' hc h
  | waiting => exact hwaiting s' h

/-! ## Invariants on the way -/

/-- However `m` ends from `s`, `inv` holds after it, and `Q` holds of the value that it gives. -/
def Upholds (inv : σ → Prop) (m : Prog ε σ α) (s : σ) (Q : α → σ → Prop) : Prop :=
  inv (m s).2 ∧ ∀ a, (m s).1 = .ok a → Q a (m s).2

section Upholds

variable {inv : σ → Prop} {s : σ} {Q R : α → σ → Prop}

theorem Upholds.mono {m : Prog ε σ α} (h : m.Upholds inv s Q) (hQR : ∀ a s', Q a s' → R a s') :
    m.Upholds inv s R := ⟨h.1, fun a ha => hQR a _ (h.2 a ha)⟩

/-- A run that is known. -/
theorem Upholds.of_run {m : Prog ε σ α} {s' : σ} {r : Outcome ε α} (hm : m s = (r, s'))
    (hinv : inv s') (hQ : ∀ a, r = .ok a → Q a s') : m.Upholds inv s Q := by
  unfold Upholds
  rw [hm]
  exact ⟨hinv, hQ⟩

theorem Upholds.pure {a : α} (hinv : inv s) (hQ : Q a s) :
    (Pure.pure a : Prog ε σ α).Upholds inv s Q := by
  refine ⟨hinv, ?_⟩
  rintro b hb
  cases hb
  exact hQ

theorem Upholds.raise {e : ε} (hinv : inv s) : (Prog.raise e : Prog ε σ α).Upholds inv s Q :=
  ⟨hinv, fun _ h => nomatch h⟩

theorem Upholds.lift {x : Except ε α} (hinv : inv s) (hQ : ∀ a, x = .ok a → Q a s) :
    (Prog.lift x : Prog ε σ α).Upholds inv s Q := by
  cases x with
  | ok a => exact Upholds.pure hinv (hQ a rfl)
  | error e => exact Upholds.raise hinv

/-- The rule for a sequence: the invariant holds where the rest starts. -/
theorem Upholds.bind {m : Prog ε σ α} {f : α → Prog ε σ β} {Q : β → σ → Prop}
    (h : m.Upholds inv s R) (hf : ∀ a s', inv s' → R a s' → (f a).Upholds inv s' Q) :
    (m >>= f).Upholds inv s Q := by
  obtain ⟨hinv, hR⟩ := h
  unfold Upholds
  rw [bind_run]
  rcases hm : m s with ⟨r, s'⟩
  rw [hm] at hinv hR
  cases r with
  | ok a => exact hf a s' hinv (hR a rfl)
  | raised e => exact ⟨hinv, fun _ h => nomatch h⟩
  | waiting => exact ⟨hinv, fun _ h => nomatch h⟩

theorem Upholds.trying {catches : ε → Bool} {m : Prog ε σ α} (h : m.Upholds inv s Q) :
    (m.trying catches).Upholds inv s fun x s' => ∀ a, x = .ok a → Q a s' := by
  obtain ⟨hinv, hQ⟩ := h
  refine ⟨?_, ?_⟩
  · unfold Prog.trying
    rcases hm : m s with ⟨r, s'⟩
    rw [hm] at hinv
    cases r with
    | ok a => exact hinv
    | raised e => cases hc : catches e <;> simpa [hc] using hinv
    | waiting => exact hinv
  · intro x hx a ha
    subst ha
    unfold Prog.trying at hx ⊢
    rcases hm : m s with ⟨r, s'⟩
    rw [hm] at hx hQ
    cases r with
    | ok b =>
      obtain rfl := Except.ok.inj (Outcome.ok.inj hx)
      exact hQ b rfl
    | raised e => cases hc : catches e <;> simp [hc] at hx
    | waiting => cases hx

theorem Upholds.ite {c : Prop} [Decidable c] {m n : Prog ε σ α} (hm : c → m.Upholds inv s Q)
    (hn : ¬ c → n.Upholds inv s Q) : (if c then m else n).Upholds inv s Q := by
  by_cases h : c
  · rw [if_pos h]
    exact hm h
  · rw [if_neg h]
    exact hn h

end Upholds

/-! ## Errors that are caught -/

/-- It ended, with a value or with an error that is caught. -/
def Settles (catches : ε → Bool) : Outcome ε α → Prop
  | .ok _ => True
  | .raised e => catches e = true
  | .waiting => False

theorem settles_bind {catches : ε → Bool} {m : Prog ε σ α} {f : α → Prog ε σ β} {s : σ} :
    Settles catches ((m >>= f) s).1 ↔
      Settles catches (m s).1 ∧ ∀ a s', m s = (.ok a, s') → Settles catches (f a s').1 := by
  rw [bind_run]
  rcases hm : m s with ⟨r, s'⟩
  cases r with
  | ok a =>
    constructor
    · intro h
      refine ⟨trivial, ?_⟩
      rintro a' s'' heq
      cases heq
      exact h
    · intro h
      exact h.2 a s' rfl
  | raised e => simp [Settles]
  | waiting => simp [Settles]

/-- From every state it ends with a value, or with an error that is caught. -/
def Settling (catches : ε → Bool) (m : Prog ε σ α) : Prop := ∀ s, Settles catches (m s).1

theorem Settling.pure {catches : ε → Bool} (a : α) :
    Settling catches (Pure.pure a : Prog ε σ α) := fun _ => trivial

theorem Settling.raise {catches : ε → Bool} {e : ε} (h : catches e = true) :
    Settling catches (Prog.raise e : Prog ε σ α) := fun _ => h

theorem Settling.bind {catches : ε → Bool} {m : Prog ε σ α} {f : α → Prog ε σ β}
    (hm : Settling catches m) (hf : ∀ a, Settling catches (f a)) : Settling catches (m >>= f) :=
  fun s => settles_bind.mpr ⟨hm s, fun a s' _ => hf a s'⟩

theorem Settling.ite {catches : ε → Bool} {c : Prop} [Decidable c] {m n : Prog ε σ α}
    (hm : Settling catches m) (hn : Settling catches n) :
    Settling catches (if c then m else n) := by
  by_cases h : c
  · rwa [if_pos h]
  · rwa [if_neg h]

theorem trying_ok {catches : ε → Bool} {m : Prog ε σ α} {s s' : σ} {a : α}
    (h : m s = (.ok a, s')) : m.trying catches s = (.ok (.ok a), s') := by
  unfold trying
  rw [h]

theorem trying_caught {catches : ε → Bool} {m : Prog ε σ α} {s s' : σ} {e : ε}
    (h : m s = (.raised e, s')) (hc : catches e = true) :
    m.trying catches s = (.ok (.error e), s') := by
  unfold trying
  rw [h]
  simp [hc]

theorem trying_escapes {catches : ε → Bool} {m : Prog ε σ α} {s s' : σ} {e : ε}
    (h : m s = (.raised e, s')) (hc : catches e = false) :
    m.trying catches s = (.raised e, s') := by
  unfold trying
  rw [h]
  simp [hc]

theorem ok_of_trying {catches : ε → Bool} {m : Prog ε σ α} {s s' : σ} {a : α}
    (h : m.trying catches s = (.ok (.ok a), s')) : m s = (.ok a, s') := by
  unfold trying at h
  rcases hm : m s with ⟨r, after⟩
  rw [hm] at h
  cases r with
  | ok a' =>
    cases h
    rfl
  | raised e => cases hc : catches e <;> simp [hc] at h
  | waiting => cases h

/-- A `try` ends with a value exactly when its body settles. -/
theorem trying_ends {catches : ε → Bool} {m : Prog ε σ α} {s : σ} :
    (∃ x s', m.trying catches s = (.ok x, s')) ↔ Settles catches (m s).1 := by
  unfold trying
  rcases m s with ⟨r, s'⟩
  cases r with
  | ok a => simp [Settles]
  | raised e => cases hc : catches e <;> simp [Settles, hc]
  | waiting => simp [Settles]

/-- With an end for each value and for each error that is caught, the whole ends exactly
when the body settles. -/
theorem trying_bind_ends {catches : ε → Bool} {m : Prog ε σ α}
    {f : Except ε α → Prog ε σ β} {s : σ} (hf : ∀ x s', ∃ b s'', f x s' = (.ok b, s'')) :
    (∃ b s', (m.trying catches >>= f) s = (.ok b, s')) ↔ Settles catches (m s).1 := by
  rcases hm : m s with ⟨r, s'⟩
  cases r with
  | ok a =>
    rw [bind_ok (trying_ok hm)]
    exact ⟨fun _ => trivial, fun _ => hf _ _⟩
  | raised e =>
    cases hc : catches e with
    | true =>
      rw [bind_ok (trying_caught hm hc)]
      exact ⟨fun _ => hc, fun _ => hf _ _⟩
    | false =>
      rw [bind_raised (trying_escapes hm hc)]
      simp [Settles, hc]
  | waiting =>
    have htry : m.trying catches s = (.waiting, s') := by
      unfold trying
      rw [hm]
    rw [bind_waiting htry]
    simp [Settles]

theorem trying_state (catches : ε → Bool) (m : Prog ε σ α) (s : σ) :
    (m.trying catches s).2 = (m s).2 := by
  unfold trying
  rcases m s with ⟨r, s'⟩
  cases r with
  | ok a => rfl
  | raised e => cases hc : catches e <;> simp [hc]
  | waiting => rfl

/-- An error that is raised at the end changes nothing. -/
theorem raise_after_state (m : Prog ε σ α) (e : ε) (s : σ) :
    ((m >>= fun _ => raise e : Prog ε σ β) s).2 = (m s).2 := by
  rw [bind_run]
  rcases m s with ⟨r, s'⟩
  cases r <;> rfl

theorem map_after_state (m : Prog ε σ α) (f : α → β) (s : σ) :
    ((m >>= fun a => pure (f a) : Prog ε σ β) s).2 = (m s).2 := by
  rw [bind_run]
  rcases m s with ⟨r, s'⟩
  cases r <;> rfl

theorem pure_after_state (m : Prog ε σ α) (b : β) (s : σ) :
    ((m >>= fun _ => pure b : Prog ε σ β) s).2 = (m s).2 := map_after_state m (fun _ => b) s

/-! ## What a program does to the state -/

/-- However `m` ends, it takes the state to one that `R` relates to it. -/
def Moves (R : σ → σ → Prop) (m : Prog ε σ α) : Prop := ∀ s, R s (m s).2

section Moves

variable {R : σ → σ → Prop}

theorem Moves.of_run {m : Prog ε σ α} {s s' : σ} {r : Outcome ε α} (hm : Moves R m)
    (hrun : m s = (r, s')) : R s s' := by
  have h := hm s
  rwa [hrun] at h

theorem Moves.ite {c : Prop} [Decidable c] {m n : Prog ε σ α} (hm : Moves R m)
    (hn : Moves R n) : Moves R (if c then m else n) := by
  by_cases h : c
  · simpa [h] using hm
  · simpa [h] using hn

theorem Moves.trying {m : Prog ε σ α} (catches : ε → Bool) (hm : Moves R m) :
    Moves R (m.trying catches) := by
  intro s
  rw [trying_state]
  exact hm s

variable [IsPreorder σ R]

theorem Moves.pure (a : α) : Moves R (Pure.pure a : Prog ε σ α) := fun s => refl_of R s

theorem Moves.raise (e : ε) : Moves R (Prog.raise e : Prog ε σ α) := fun s => refl_of R s

theorem Moves.lift (x : Except ε α) : Moves R (Prog.lift x : Prog ε σ α) := by
  cases x with
  | ok a => exact Moves.pure a
  | error e => exact Moves.raise e

theorem Moves.bind {m : Prog ε σ α} {f : α → Prog ε σ β} (hm : Moves R m)
    (hf : ∀ a, Moves R (f a)) : Moves R (m >>= f) := by
  intro s
  have hmoved := hm s
  rw [bind_run]
  rcases hrun : m s with ⟨r, s'⟩
  rw [hrun] at hmoved
  cases r with
  | ok a => exact trans_of R hmoved (hf a s')
  | raised e => exact hmoved
  | waiting => exact hmoved

end Moves

/-! ## What a program leaves as it is -/

/-- The part of the state that `part` shows is the same after `m`. -/
def Keeps {γ : Type} (part : σ → γ) (m : Prog ε σ α) : Prop := ∀ s, part (m s).2 = part s

section Keeps

variable {γ : Type} {part : σ → γ}

def Same (part : σ → γ) (s s' : σ) : Prop := part s' = part s

instance : IsPreorder σ (Same part) where
  refl _ := rfl
  trans _ _ _ h h' := h'.trans h

theorem Keeps.of_run {m : Prog ε σ α} {s s' : σ} {r : Outcome ε α} (hm : Keeps part m)
    (hrun : m s = (r, s')) : part s' = part s :=
  Moves.of_run (R := Same part) hm hrun

theorem Keeps.pure (a : α) : Keeps part (Pure.pure a : Prog ε σ α) := fun _ => rfl

theorem Keeps.raise (e : ε) : Keeps part (Prog.raise e : Prog ε σ α) := fun _ => rfl

theorem Keeps.lift (x : Except ε α) : Keeps part (Prog.lift x : Prog ε σ α) :=
  Moves.lift (R := Same part) x

theorem Keeps.bind {m : Prog ε σ α} {f : α → Prog ε σ β} (hm : Keeps part m)
    (hf : ∀ a, Keeps part (f a)) : Keeps part (m >>= f) :=
  Moves.bind (R := Same part) hm hf

theorem Keeps.trying {m : Prog ε σ α} (catches : ε → Bool) (hm : Keeps part m) :
    Keeps part (m.trying catches) :=
  Moves.trying (R := Same part) catches hm

theorem Keeps.ite {c : Prop} [Decidable c] {m n : Prog ε σ α} (hm : Keeps part m)
    (hn : Keeps part n) : Keeps part (if c then m else n) :=
  Moves.ite (R := Same part) hm hn

end Keeps

/-! ## Programs that never wait -/

def Prompt (m : Prog ε σ α) : Prop := ∀ s, (m s).1 ≠ .waiting

theorem Prompt.pure (a : α) : Prompt (Pure.pure a : Prog ε σ α) := fun _ h => by cases h

theorem Prompt.raise (e : ε) : Prompt (Prog.raise e : Prog ε σ α) := fun _ h => by cases h

theorem Prompt.lift (x : Except ε α) : Prompt (Prog.lift x : Prog ε σ α) := by
  cases x with
  | ok a => exact Prompt.pure a
  | error e => exact Prompt.raise e

theorem Prompt.bind {m : Prog ε σ α} {f : α → Prog ε σ β} (hm : Prompt m)
    (hf : ∀ a, Prompt (f a)) : Prompt (m >>= f) := by
  intro s
  have hends := hm s
  rw [bind_run]
  rcases hrun : m s with ⟨r, s'⟩
  rw [hrun] at hends
  cases r with
  | ok a => exact hf a s'
  | raised e => simp
  | waiting => exact absurd rfl hends

theorem Prompt.trying {m : Prog ε σ α} (catches : ε → Bool) (hm : Prompt m) :
    Prompt (m.trying catches) := by
  intro s
  have hends := hm s
  unfold Prog.trying
  rcases hrun : m s with ⟨r, s'⟩
  rw [hrun] at hends
  cases r with
  | ok a => simp
  | raised e => cases hc : catches e <;> simp [hc]
  | waiting => exact absurd rfl hends

theorem Prompt.ite {c : Prop} [Decidable c] {m n : Prog ε σ α} (hm : Prompt m) (hn : Prompt n) :
    Prompt (if c then m else n) := by
  by_cases h : c
  · simpa [h] using hm
  · simpa [h] using hn

/-! ## Two runs side by side -/

/-- The runs of `m` and `m'` from related states end in the same way and in related
states, unless `m'` raises an error of the kind `bad`. -/
def Sim (bad : ε → Prop) (R : σ → τ → Prop) (m : Prog ε σ α) (m' : Prog ε τ α) : Prop :=
  ∀ s t, R s t → (∃ e, (m' t).1 = .raised e ∧ bad e) ∨
    ((m s).1 = (m' t).1 ∧ R (m s).2 (m' t).2)

theorem Sim.pure {bad : ε → Prop} {R : σ → τ → Prop} (a : α) :
    Sim bad R (Pure.pure a : Prog ε σ α) (Pure.pure a) := fun _ _ h => Or.inr ⟨rfl, h⟩

theorem Sim.raise {bad : ε → Prop} {R : σ → τ → Prop} (e : ε) :
    Sim bad R (Prog.raise e : Prog ε σ α) (Prog.raise e) := fun _ _ h => Or.inr ⟨rfl, h⟩

theorem Sim.lift {bad : ε → Prop} {R : σ → τ → Prop} (x : Except ε α) :
    Sim bad R (Prog.lift x : Prog ε σ α) (Prog.lift x) := by
  cases x with
  | ok a => exact Sim.pure a
  | error e => exact Sim.raise e

theorem Sim.bind {bad : ε → Prop} {R : σ → τ → Prop} {m : Prog ε σ α} {m' : Prog ε τ α}
    {f : α → Prog ε σ β} {f' : α → Prog ε τ β} (hm : Sim bad R m m')
    (hf : ∀ a, Sim bad R (f a) (f' a)) : Sim bad R (m >>= f) (m' >>= f') := by
  intro s t h
  rw [bind_run, bind_run]
  have h1 := hm s t h
  rcases hms : m s with ⟨r, s'⟩
  rcases hmt : m' t with ⟨r', t'⟩
  rw [hms, hmt] at h1
  rcases h1 with ⟨e, rfl, he⟩ | ⟨rfl, hR⟩
  · exact Or.inl ⟨e, rfl, he⟩
  · cases r with
    | ok a => exact hf a s' t' hR
    | raised e => exact Or.inr ⟨rfl, hR⟩
    | waiting => exact Or.inr ⟨rfl, hR⟩

theorem Sim.ite {bad : ε → Prop} {R : σ → τ → Prop} {c : Prop} [Decidable c]
    {m n : Prog ε σ α} {m' n' : Prog ε τ α} (hm : Sim bad R m m') (hn : Sim bad R n n') :
    Sim bad R (if c then m else n) (if c then m' else n') := by
  by_cases h : c
  · simpa [h] using hm
  · simpa [h] using hn

end Prog

end prog
