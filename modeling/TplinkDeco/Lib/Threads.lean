-- Threads that share a state. One step is one atomic section of one thread, and
-- the order of the steps is open: a run takes any thread at any time, and with
-- it whatever the outside world gives that section.
import Mathlib.Tactic.Common

namespace threads

variable {σ π α ε : Type}

/-- What one section of a thread does to the shared state and to the thread, and the events
that it logs. `none` when the thread is not at such a section. -/
structure System (σ π α ε : Type) where
  step : α → σ → π → Option (σ × π × List ε)

structure Pool (σ π : Type) where
  shared : σ
  thread : Nat → π

/-- The pool after a section of thread `t`. -/
def Pool.put (p : Pool σ π) (t : Nat) (shared : σ) (own : π) : Pool σ π :=
  { shared, thread := fun i => if i = t then own else p.thread i }

@[simp] theorem put_shared (p : Pool σ π) (t : Nat) (s : σ) (own : π) :
    (p.put t s own).shared = s := rfl

@[simp] theorem put_same (p : Pool σ π) (t : Nat) (s : σ) (own : π) :
    (p.put t s own).thread t = own := by
  simp [Pool.put]

theorem put_other (p : Pool σ π) {t i : Nat} (s : σ) (own : π) (h : i ≠ t) :
    (p.put t s own).thread i = p.thread i := by
  simp [Pool.put, h]

/-- What holds of each thread after a section of one of them. -/
theorem put_forall {p : Pool σ π} {t : Nat} {s : σ} {own : π} {P : Nat → π → Prop}
    (hown : P t own) (hother : ∀ i, i ≠ t → P i (p.thread i)) (i : Nat) :
    P i ((p.put t s own).thread i) := by
  by_cases h : i = t
  · subst h
    rw [put_same]
    exact hown
  · rw [put_other p s own h]
    exact hother i h

/-! ## Runs -/

/-- The runs from a pool whose sections are all allowed, with the events of each run. -/
inductive Reaches (S : System σ π α ε) (allowed : Pool σ π → Nat → α → Prop)
    (start : Pool σ π) : Pool σ π → List (Nat × ε) → Prop
  | refl : Reaches S allowed start start []
  | step {p : Pool σ π} {h : List (Nat × ε)} {t : Nat} {a : α} {s : σ} {own : π} {es : List ε}
      (before : Reaches S allowed start p h) (ok : allowed p t a)
      (fires : S.step a p.shared (p.thread t) = some (s, own, es)) :
      Reaches S allowed start (p.put t s own) (h ++ es.map fun e => (t, e))

/-- No restriction on the sections. -/
def anyStep (_ : Pool σ π) (_ : Nat) (_ : α) : Prop := True

/-- What holds at the start and what every section keeps holds in every run. -/
theorem Reaches.invariant {S : System σ π α ε} {allowed : Pool σ π → Nat → α → Prop}
    {start p : Pool σ π} {h : List (Nat × ε)} {I : Pool σ π → List (Nat × ε) → Prop}
    (hr : Reaches S allowed start p h) (hstart : I start [])
    (hstep : ∀ p h t a s own es, I p h → allowed p t a →
      S.step a p.shared (p.thread t) = some (s, own, es) →
      I (p.put t s own) (h ++ es.map fun e => (t, e))) : I p h := by
  induction hr with
  | refl => exact hstart
  | step before ok fires ih => exact hstep _ _ _ _ _ _ _ ih ok fires

/-- A run on given sections: which thread, and what the outside world gives it. -/
def System.run (S : System σ π α ε) :
    List (Nat × α) → Pool σ π → List (Nat × ε) → Option (Pool σ π × List (Nat × ε))
  | [], p, h => some (p, h)
  | (t, a) :: steps, p, h =>
    match S.step a p.shared (p.thread t) with
    | some (s, own, es) => S.run steps (p.put t s own) (h ++ es.map fun e => (t, e))
    | none => none

theorem run_cons {S : System σ π α ε} {t : Nat} {a : α} {steps : List (Nat × α)}
    {p : Pool σ π} {h : List (Nat × ε)} {s : σ} {own : π} {es : List ε}
    (hfires : S.step a p.shared (p.thread t) = some (s, own, es)) :
    S.run ((t, a) :: steps) p h = S.run steps (p.put t s own) (h ++ es.map fun e => (t, e)) := by
  rw [System.run, hfires]

/-- A run leaves the threads that it does not take where they are. -/
theorem run_other {S : System σ π α ε} {steps : List (Nat × α)} {p p' : Pool σ π}
    {h h' : List (Nat × ε)} {t : Nat} (hrun : S.run steps p h = some (p', h'))
    (ht : t ∉ steps.map Prod.fst) : p'.thread t = p.thread t := by
  induction steps generalizing p h with
  | nil =>
    cases hrun
    rfl
  | cons step steps ih =>
    obtain ⟨i, a⟩ := step
    rw [List.map_cons, List.mem_cons, not_or] at ht
    unfold System.run at hrun
    split at hrun
    · rw [ih hrun ht.2, put_other p _ _ ht.1]
    · cases hrun

/-- The sections of a run are allowed, each where it is taken. -/
def System.RunAllowed (S : System σ π α ε) (allowed : Pool σ π → Nat → α → Prop) :
    List (Nat × α) → Pool σ π → Prop
  | [], _ => True
  | (t, a) :: steps, p => allowed p t a ∧
    ∀ s own es, S.step a p.shared (p.thread t) = some (s, own, es) →
      S.RunAllowed allowed steps (p.put t s own)

theorem reaches_of_allowed_run {S : System σ π α ε} {allowed : Pool σ π → Nat → α → Prop}
    {start p p' : Pool σ π} {h h' : List (Nat × ε)} (steps : List (Nat × α))
    (hp : Reaches S allowed start p h) (hrun : S.run steps p h = some (p', h'))
    (hallowed : S.RunAllowed allowed steps p) : Reaches S allowed start p' h' := by
  induction steps generalizing p h with
  | nil =>
    cases hrun
    exact hp
  | cons step steps ih =>
    obtain ⟨t, a⟩ := step
    unfold System.run at hrun
    split at hrun
    · rename_i s own es hfires
      exact ih (hp.step hallowed.1 hfires) hrun (hallowed.2 s own es hfires)
    · cases hrun

/-- What holds of a pool and of the sections to come, and allows the first of them. -/
theorem runAllowed_of_invariant {S : System σ π α ε} {allowed : Pool σ π → Nat → α → Prop}
    {J : List (Nat × α) → Pool σ π → Prop}
    (hallowed : ∀ t a steps p, J ((t, a) :: steps) p → allowed p t a)
    (hstep : ∀ t a steps p s own es, J ((t, a) :: steps) p →
      S.step a p.shared (p.thread t) = some (s, own, es) → J steps (p.put t s own))
    (steps : List (Nat × α)) (p : Pool σ π) (h : J steps p) : S.RunAllowed allowed steps p := by
  induction steps generalizing p with
  | nil => trivial
  | cons step steps ih =>
    obtain ⟨t, a⟩ := step
    refine ⟨hallowed t a steps p h, ?_⟩
    intro s own es hfires
    exact ih _ (hstep t a steps p s own es h hfires)

/-- Whether the sections of a run pass a check, each where it is taken. -/
def System.passes (S : System σ π α ε) (check : Pool σ π → Nat → α → Bool) :
    List (Nat × α) → Pool σ π → Bool
  | [], _ => true
  | (t, a) :: steps, p => check p t a &&
    match S.step a p.shared (p.thread t) with
    | some (s, own, _) => S.passes check steps (p.put t s own)
    | none => true

theorem runAllowed_of_passes {S : System σ π α ε} {check : Pool σ π → Nat → α → Bool}
    {allowed : Pool σ π → Nat → α → Prop}
    (hcheck : ∀ p t a, check p t a = true → allowed p t a)
    (steps : List (Nat × α)) (p : Pool σ π) (h : S.passes check steps p = true) :
    S.RunAllowed allowed steps p := by
  apply runAllowed_of_invariant (J := fun steps p => S.passes check steps p = true)
  · intro t a steps p h
    exact hcheck p t a (Bool.and_eq_true_iff.mp h).1
  · intro t a steps p s own es h hfires
    have hrest := (Bool.and_eq_true_iff.mp h).2
    rwa [hfires] at hrest
  · exact h

theorem runAllowed_anyStep (S : System σ π α ε) (steps : List (Nat × α)) (p : Pool σ π) :
    S.RunAllowed anyStep steps p :=
  runAllowed_of_invariant (J := fun _ _ => True) (fun _ _ _ _ _ => trivial)
    (fun _ _ _ _ _ _ _ _ _ => trivial) steps p trivial

theorem reaches_of_run {S : System σ π α ε} {start p p' : Pool σ π} {h h' : List (Nat × ε)}
    (steps : List (Nat × α)) (hp : Reaches S anyStep start p h)
    (hrun : S.run steps p h = some (p', h')) : Reaches S anyStep start p' h' :=
  reaches_of_allowed_run steps hp hrun (runAllowed_anyStep S steps p)

end threads
