-- Programs that ask questions, hear an answer of its own type to each, and may
-- raise: what they may ask at all, and what they do where the answers are known.
import Mathlib.Tactic.Common
import TplinkDeco.Lib.Script

open script

namespace dialogue

/-- A program that asks questions `ι`, with the answers `ο`, and gives an `α` or raises an `ε`. -/
inductive Dialogue (ι : Type) (ο : ι → Type) (ε α : Type) where
  | done (result : α)
  | raised (error : ε)
  | ask (question : ι) (next : ο question → Dialogue ι ο ε α)

namespace Dialogue

variable {ι κ : Type} {ο : ι → Type} {π : κ → Type} {ε α β σ : Type}

def andThen : Dialogue ι ο ε α → (α → Dialogue ι ο ε β) → Dialogue ι ο ε β
  | done a, f => f a
  | raised e, _ => raised e
  | ask i next, f => ask i fun o => (next o).andThen f

instance : Monad (Dialogue ι ο ε) where
  pure := done
  bind := andThen

def question (i : ι) : Dialogue ι ο ε (ο i) := ask i done

def lift : Except ε α → Dialogue ι ο ε α
  | .ok a => done a
  | .error e => raised e

/-- `try` with one `except` clause: the errors that `catches` accepts come back as values. -/
def trying (catches : ε → Bool) : Dialogue ι ο ε α → Dialogue ι ο ε (Except ε α)
  | done a => done (.ok a)
  | raised e => if catches e then done (.error e) else raised e
  | ask i next => ask i fun o => (next o).trying catches

/-- One run of `f` after another, with the results in order. -/
def each (f : α → Dialogue ι ο ε β) : List α → Dialogue ι ο ε (List β)
  | [] => pure []
  | a :: as => do
    let b ← f a
    let bs ← each f as
    pure (b :: bs)

/-- The program, with a program of its own for each question. -/
def interpret (h : (i : ι) → Dialogue κ π ε (ο i)) : Dialogue ι ο ε α → Dialogue κ π ε α
  | done a => done a
  | raised e => raised e
  | ask i next => h i >>= fun o => (next o).interpret h

/-- The script, with a program of its own for each question. -/
def ofScript {ο' : Type} (h : ι → Dialogue κ π ε ο') : Script ι ο' α → Dialogue κ π ε α
  | .done a => done a
  | .ask i next => h i >>= fun o => ofScript h (next o)

theorem bind_assoc {γ : Type} (m : Dialogue ι ο ε α) (f : α → Dialogue ι ο ε β)
    (g : β → Dialogue ι ο ε γ) : m >>= f >>= g = m >>= fun a => f a >>= g := by
  induction m with
  | done a => rfl
  | raised e => rfl
  | ask i next ih => exact congrArg (ask i) (funext ih)

theorem lift_bind (x : Except ε α) (f : α → Except ε β) :
    (lift (x >>= f) : Dialogue ι ο ε β) = lift x >>= fun a => lift (f a) := by
  cases x <;> rfl

variable {h : (i : ι) → Dialogue κ π ε (ο i)}

@[simp] theorem interpret_pure (a : α) :
    (pure a : Dialogue ι ο ε α).interpret h = pure a := rfl

@[simp] theorem interpret_raised (e : ε) :
    (raised e : Dialogue ι ο ε α).interpret h = raised e := rfl

@[simp] theorem interpret_lift (x : Except ε α) :
    (lift x : Dialogue ι ο ε α).interpret h = lift x := by
  cases x <;> rfl

theorem bind_pure (m : Dialogue ι ο ε α) : m >>= pure = m := by
  induction m with
  | done a => rfl
  | raised e => rfl
  | ask i next ih => exact congrArg (ask i) (funext ih)

@[simp] theorem interpret_question (i : ι) :
    (question i : Dialogue ι ο ε (ο i)).interpret h = h i := bind_pure _

@[simp] theorem interpret_bind (m : Dialogue ι ο ε α) (f : α → Dialogue ι ο ε β) :
    (m >>= f).interpret h = m.interpret h >>= fun a => (f a).interpret h := by
  induction m with
  | done a => rfl
  | raised e => rfl
  | ask i next ih =>
    show (h i >>= fun o => (next o >>= f).interpret h) = _
    rw [funext ih]
    exact (bind_assoc _ _ _).symm

/-! ## What a program may ask -/

/-- Whatever it hears, the program asks only questions of `P`. -/
def Asks (P : ι → Prop) : Dialogue ι ο ε α → Prop
  | done _ => True
  | raised _ => True
  | ask i next => P i ∧ ∀ o, (next o).Asks P

variable {P Q : ι → Prop}

theorem Asks.pure (a : α) : (Pure.pure a : Dialogue ι ο ε α).Asks P := trivial

theorem Asks.raised (e : ε) : (Dialogue.raised e : Dialogue ι ο ε α).Asks P := trivial

theorem Asks.lift (x : Except ε α) : (Dialogue.lift x : Dialogue ι ο ε α).Asks P := by
  cases x <;> trivial

theorem Asks.question {i : ι} (h : P i) : (Dialogue.question i : Dialogue ι ο ε (ο i)).Asks P :=
  ⟨h, fun _ => trivial⟩

theorem Asks.bind {m : Dialogue ι ο ε α} {f : α → Dialogue ι ο ε β} (hm : m.Asks P)
    (hf : ∀ a, (f a).Asks P) : (m >>= f).Asks P := by
  induction m with
  | done a => exact hf a
  | raised e => trivial
  | ask i next ih => exact ⟨hm.1, fun o => ih o (hm.2 o)⟩

/-- A program behind a check: it goes on only where the check passes. -/
theorem Asks.checked {x : Except ε α} {f : α → Dialogue ι ο ε β}
    (hf : ∀ a, x = .ok a → (f a).Asks P) : (Dialogue.lift x >>= f).Asks P := by
  cases x with
  | ok a => exact hf a rfl
  | error e => trivial

theorem Asks.ite {c : Prop} [Decidable c] {m n : Dialogue ι ο ε α} (hm : c → m.Asks P)
    (hn : ¬ c → n.Asks P) : (if c then m else n).Asks P := by
  split
  case isTrue h => exact hm h
  case isFalse h => exact hn h

theorem Asks.trying {m : Dialogue ι ο ε α} (catches : ε → Bool) (hm : m.Asks P) :
    (m.trying catches).Asks P := by
  induction m with
  | done a => trivial
  | raised e =>
    unfold Dialogue.trying
    split <;> trivial
  | ask i next ih => exact ⟨hm.1, fun o => ih o (hm.2 o)⟩

theorem Asks.each {f : α → Dialogue ι ο ε β} {as : List α} (hf : ∀ a ∈ as, (f a).Asks P) :
    (Dialogue.each f as).Asks P := by
  induction as with
  | nil => trivial
  | cons a as ih =>
    refine (hf a List.mem_cons_self).bind fun b => ?_
    exact (ih fun a' ha' => hf a' (List.mem_cons_of_mem _ ha')).bind fun _ => trivial

theorem Asks.mono {m : Dialogue ι ο ε α} (hPQ : ∀ i, P i → Q i) (hm : m.Asks P) : m.Asks Q := by
  induction m with
  | done a => trivial
  | raised e => trivial
  | ask i next ih => exact ⟨hPQ i hm.1, fun o => ih o (hm.2 o)⟩

theorem Asks.interpret {R : κ → Prop} {h : (i : ι) → Dialogue κ π ε (ο i)}
    {m : Dialogue ι ο ε α} (hm : m.Asks P) (hR : ∀ i, P i → (h i).Asks R) :
    (m.interpret h).Asks R := by
  induction m with
  | done a => trivial
  | raised e => trivial
  | ask i next ih => exact (hR i hm.1).bind fun o => ih o (hm.2 o)

theorem Asks.ofScript {ο' : Type} {h : ι → Dialogue κ π ε ο'} {R : κ → Prop}
    (hR : ∀ i, (h i).Asks R) (m : Script ι ο' α) : (Dialogue.ofScript h m).Asks R := by
  induction m with
  | done a => trivial
  | ask i next ih => exact (hR i).bind ih

/-! ## What a program may give -/

/-- Whatever it hears, a result of the program is in `A`. -/
def Gives (A : α → Prop) : Dialogue ι ο ε α → Prop
  | done a => A a
  | raised _ => True
  | ask _ next => ∀ o, (next o).Gives A

variable {A : α → Prop} {B : β → Prop}

theorem Gives.pure {a : α} (h : A a) : (Pure.pure a : Dialogue ι ο ε α).Gives A := h

theorem Gives.raised (e : ε) : (Dialogue.raised e : Dialogue ι ο ε α).Gives A := trivial

/-- A program behind a check: it goes on only where the check passes. -/
theorem Gives.checked {x : Except ε α} {f : α → Dialogue ι ο ε β}
    (hf : ∀ a, x = .ok a → (f a).Gives B) : (Dialogue.lift x >>= f).Gives B := by
  cases x with
  | ok a => exact hf a rfl
  | error e => trivial

theorem Gives.any (m : Dialogue ι ο ε α) : m.Gives fun _ => True := by
  induction m with
  | done a => trivial
  | raised e => trivial
  | ask i next ih => exact ih

theorem Gives.bind {m : Dialogue ι ο ε α} {f : α → Dialogue ι ο ε β} (hm : m.Gives A)
    (hf : ∀ a, A a → (f a).Gives B) : (m >>= f).Gives B := by
  induction m with
  | done a => exact hf a hm
  | raised e => trivial
  | ask i next ih => exact fun o => ih o (hm o)

/-- Only the last part of a sequence decides about its result. -/
theorem Gives.last {m : Dialogue ι ο ε α} {f : α → Dialogue ι ο ε β}
    (hf : ∀ a, (f a).Gives B) : (m >>= f).Gives B :=
  (Gives.any m).bind fun a _ => hf a

theorem Gives.trying {m : Dialogue ι ο ε α} (catches : ε → Bool) (hm : m.Gives A) :
    (m.trying catches).Gives fun outcome => ∀ a, outcome = .ok a → A a := by
  induction m with
  | done a =>
    intro a' h
    cases h
    exact hm
  | raised e =>
    unfold Dialogue.trying
    split
    · exact fun a h => nomatch h
    · trivial
  | ask i next ih => exact fun o => ih o (hm o)

theorem Gives.each {f : α → Dialogue ι ο ε β} {as : List α} (hf : ∀ a ∈ as, (f a).Gives B) :
    (Dialogue.each f as).Gives fun bs => ∀ b ∈ bs, B b := by
  induction as with
  | nil => exact fun b hb => nomatch hb
  | cons a as ih =>
    refine (hf a List.mem_cons_self).bind fun b hb => ?_
    refine (ih fun a' ha' => hf a' (List.mem_cons_of_mem _ ha')).bind fun bs hbs => ?_
    intro b' hb'
    rcases List.mem_cons.mp hb' with rfl | hb'
    · exact hb
    · exact hbs b' hb'

/-! ## Runs -/

/-- A question of a run, the state in which it was asked, and its answer. -/
structure Exchange (ι : Type) (ο : ι → Type) (σ : Type) where
  before : σ
  question : ι
  answer : ο question

/-- How a run ended, the state that it left, and all that it asked. -/
structure Run (ι : Type) (ο : ι → Type) (ε α σ : Type) where
  outcome : Except ε α
  state : σ
  log : List (Exchange ι ο σ)

/-- The run, with the log of what came before it. -/
def Run.after (log : List (Exchange ι ο σ)) (r : Run ι ο ε α σ) : Run ι ο ε α σ :=
  { r with log := log ++ r.log }

variable (perform : (i : ι) → σ → ο i × σ)

/-- The run in which `perform` answers the questions and moves the state. -/
def run : Dialogue ι ο ε α → σ → Run ι ο ε α σ
  | done a, s => { outcome := .ok a, state := s, log := [] }
  | raised e, s => { outcome := .error e, state := s, log := [] }
  | ask i next, s => ((next (perform i s).1).run (perform i s).2).after [⟨s, i, (perform i s).1⟩]

variable {perform}

@[simp] theorem run_pure (a : α) (s : σ) :
    (pure a : Dialogue ι ο ε α).run perform s = ⟨.ok a, s, []⟩ := rfl

@[simp] theorem run_raised (e : ε) (s : σ) :
    (raised e : Dialogue ι ο ε α).run perform s = ⟨.error e, s, []⟩ := rfl

@[simp] theorem run_lift (x : Except ε α) (s : σ) :
    (lift x : Dialogue ι ο ε α).run perform s = ⟨x, s, []⟩ := by
  cases x <;> rfl

@[simp] theorem run_question (i : ι) (s : σ) :
    (question i : Dialogue ι ο ε (ο i)).run perform s =
      ⟨.ok (perform i s).1, (perform i s).2, [⟨s, i, (perform i s).1⟩]⟩ := rfl

theorem run_question_of {i : ι} {o : ο i} {s s1 : σ} (h : perform i s = (o, s1)) :
    (question i : Dialogue ι ο ε (ο i)).run perform s = ⟨.ok o, s1, [⟨s, i, o⟩]⟩ := by
  rw [run_question, h]

@[simp] theorem after_outcome (log : List (Exchange ι ο σ)) (r : Run ι ο ε α σ) :
    (r.after log).outcome = r.outcome := rfl

@[simp] theorem after_state (log : List (Exchange ι ο σ)) (r : Run ι ο ε α σ) :
    (r.after log).state = r.state := rfl

@[simp] theorem after_log (log : List (Exchange ι ο σ)) (r : Run ι ο ε α σ) :
    (r.after log).log = log ++ r.log := rfl

@[simp] theorem after_nil (r : Run ι ο ε α σ) : r.after [] = r := rfl

theorem after_after (first second : List (Exchange ι ο σ)) (r : Run ι ο ε α σ) :
    (r.after second).after first = r.after (first ++ second) := by
  unfold Run.after
  simp only [List.append_assoc]

/-- The run of a sequence: the rest runs only after a result. -/
theorem run_bind (m : Dialogue ι ο ε α) (f : α → Dialogue ι ο ε β) (s : σ) :
    (m >>= f).run perform s =
      match (m.run perform s).outcome with
      | .ok a => ((f a).run perform (m.run perform s).state).after (m.run perform s).log
      | .error e => ⟨.error e, (m.run perform s).state, (m.run perform s).log⟩ := by
  induction m generalizing s with
  | done a => exact (after_nil _).symm
  | raised e => rfl
  | ask i next ih =>
    let r := (next (perform i s).1).run perform (perform i s).2
    have hnext := ih (perform i s).1 (perform i s).2
    show ((next (perform i s).1 >>= f).run perform (perform i s).2).after _ =
      match r.outcome with
      | .ok a => ((f a).run perform r.state).after (_ :: r.log)
      | .error e => ⟨.error e, r.state, _ :: r.log⟩
    rw [hnext]
    cases r.outcome with
    | ok a => exact after_after _ _ _
    | error e => rfl

theorem run_bind_ok {m : Dialogue ι ο ε α} {f : α → Dialogue ι ο ε β} {s s1 : σ} {a : α}
    {log : List (Exchange ι ο σ)} (h : m.run perform s = ⟨.ok a, s1, log⟩) :
    (m >>= f).run perform s = ((f a).run perform s1).after log := by
  rw [run_bind, h]

theorem run_bind_raised {m : Dialogue ι ο ε α} {f : α → Dialogue ι ο ε β} {s s1 : σ} {e : ε}
    {log : List (Exchange ι ο σ)} (h : m.run perform s = ⟨.error e, s1, log⟩) :
    (m >>= f).run perform s = ⟨.error e, s1, log⟩ := by
  rw [run_bind, h]

/-- A sequence that gives a result, from the result of its first part. -/
theorem ok_of_bind {m : Dialogue ι ο ε α} {f : α → Dialogue ι ο ε β} {s : σ} {b : β}
    (h : ((m >>= f).run perform s).outcome = .ok b) :
    ∃ a s1 log, m.run perform s = ⟨.ok a, s1, log⟩ ∧ ((f a).run perform s1).outcome = .ok b := by
  rcases hrun : m.run perform s with ⟨outcome, s1, log⟩
  cases outcome with
  | ok a =>
    rw [run_bind_ok hrun] at h
    exact ⟨a, s1, log, rfl, h⟩
  | error e =>
    rw [run_bind_raised hrun] at h
    cases h

theorem run_trying (m : Dialogue ι ο ε α) (catches : ε → Bool) (s : σ) :
    (m.trying catches).run perform s =
      { m.run perform s with
        outcome := match (m.run perform s).outcome with
          | .ok a => .ok (.ok a)
          | .error e => if catches e then .ok (.error e) else .error e } := by
  induction m generalizing s with
  | done a => rfl
  | raised e =>
    unfold trying
    show _ = (⟨if catches e then .ok (.error e) else .error e, s, []⟩ :
      Run ι ο ε (Except ε α) σ)
    split <;> rfl
  | ask i next ih =>
    show (((next (perform i s).1).trying catches).run perform (perform i s).2).after _ = _
    rw [ih]
    rfl

theorem run_trying_ok {m : Dialogue ι ο ε α} {s s1 : σ} {a : α} {log : List (Exchange ι ο σ)}
    (h : m.run perform s = ⟨.ok a, s1, log⟩) (catches : ε → Bool) :
    (m.trying catches).run perform s = ⟨.ok (.ok a), s1, log⟩ := by
  rw [run_trying, h]

theorem run_trying_caught {m : Dialogue ι ο ε α} {s s1 : σ} {e : ε}
    {log : List (Exchange ι ο σ)} {catches : ε → Bool}
    (h : m.run perform s = ⟨.error e, s1, log⟩) (he : catches e = true) :
    (m.trying catches).run perform s = ⟨.ok (.error e), s1, log⟩ := by
  rw [run_trying, h]
  simp only [he, if_true]

theorem run_trying_through {m : Dialogue ι ο ε α} {s s1 : σ} {e : ε}
    {log : List (Exchange ι ο σ)} {catches : ε → Bool}
    (h : m.run perform s = ⟨.error e, s1, log⟩) (he : catches e = false) :
    (m.trying catches).run perform s = ⟨.error e, s1, log⟩ := by
  rw [run_trying, h]
  simp only [he, Bool.false_eq_true, if_false]

/-- A run asks only what the program may ask. -/
theorem Asks.of_run {m : Dialogue ι ο ε α} (hm : m.Asks P) (s : σ) :
    ∀ x ∈ (m.run perform s).log, P x.question := by
  induction m generalizing s with
  | done a => exact fun _ hx => nomatch hx
  | raised e => exact fun _ hx => nomatch hx
  | ask i next ih =>
    intro x hx
    rcases List.mem_cons.mp hx with rfl | hx
    · exact hm.1
    · exact ih _ (hm.2 _) _ x hx

/-- What every permitted question keeps, the run keeps. -/
theorem Asks.keeps {m : Dialogue ι ο ε α} (hm : m.Asks P) {I : σ → Prop}
    (hP : ∀ i, P i → ∀ s, I s → I (perform i s).2) {s : σ} (hs : I s) :
    I (m.run perform s).state := by
  induction m generalizing s with
  | done a => exact hs
  | raised e => exact hs
  | ask i next ih => exact ih _ (hm.2 _) (hP i hm.1 s hs)

/-- The result of a run is one that the program may give. -/
theorem Gives.of_run {m : Dialogue ι ο ε α} {A : α → Prop} (hm : m.Gives A) {s : σ} {a : α}
    (h : (m.run perform s).outcome = .ok a) : A a := by
  induction m generalizing s with
  | done a' =>
    cases h
    exact hm
  | raised e => cases h
  | ask i next ih => exact ih _ (hm _) h

/-- Who answers alike whatever the run asks makes the same run. -/
theorem run_congr_of_log {m : Dialogue ι ο ε α} {other : (i : ι) → σ → ο i × σ} {s : σ}
    (halike : ∀ x ∈ (m.run perform s).log, perform x.question = other x.question) :
    m.run other s = m.run perform s := by
  induction m generalizing s with
  | done a => rfl
  | raised e => rfl
  | ask i next ih =>
    have hfirst : perform i = other i := halike _ List.mem_cons_self
    have hrest := ih (perform i s).1 (s := (perform i s).2) fun x hx =>
      halike x (List.mem_cons_of_mem _ hx)
    show ((next (other i s).1).run other (other i s).2).after [⟨s, i, (other i s).1⟩] = _
    rw [← hfirst, hrest]
    rfl

/-! ## What the answers show -/

variable {γ : Type} {shown : (i : ι) → ο i → Option γ} {told : α → Option γ} {acc : Option γ}

/-- What the first answer shows that shows anything. -/
def first_shown (shown : (i : ι) → ο i → Option γ) (log : List (Exchange ι ο σ)) : Option γ :=
  log.findSome? fun x => shown x.question x.answer

theorem first_shown_append (first second : List (Exchange ι ο σ)) :
    first_shown shown (first ++ second) = (first_shown shown first).or (first_shown shown second) :=
  List.findSome?_append

/-- Whatever it hears, a result tells what the answers showed first, `acc` before all of them.
The program raises only where they showed nothing. -/
def Tells (shown : (i : ι) → ο i → Option γ) (told : α → Option γ) :
    Dialogue ι ο ε α → Option γ → Prop
  | done a, acc => told a = acc
  | raised _, acc => acc = none
  | ask i next, acc => ∀ o, (next o).Tells shown told (acc.or (shown i o))

theorem Tells.pure {a : α} (h : told a = acc) :
    (Pure.pure a : Dialogue ι ο ε α).Tells shown told acc := h

theorem Tells.raised (e : ε) : (Dialogue.raised e : Dialogue ι ο ε α).Tells shown told none := rfl

theorem Tells.bind {m : Dialogue ι ο ε α} {f : α → Dialogue ι ο ε β} {told' : β → Option γ}
    (hm : m.Tells shown told acc) (hf : ∀ a, (f a).Tells shown told' (told a)) :
    (m >>= f).Tells shown told' acc := by
  induction m generalizing acc with
  | done a =>
    cases hm
    exact hf a
  | raised e => exact hm
  | ask i next ih => exact fun o => ih o (hm o)

/-- A result that the program may give tells the same either way. -/
theorem Tells.congr {m : Dialogue ι ο ε α} {told' : α → Option γ} (hm : m.Tells shown told acc)
    (h : m.Gives fun a => told a = told' a) : m.Tells shown told' acc := by
  induction m generalizing acc with
  | done a => exact h.symm.trans hm
  | raised e => exact hm
  | ask i next ih => exact fun o => ih o (hm o) (h o)

theorem Tells.trying {m : Dialogue ι ο ε α} (catches : ε → Bool)
    (hm : m.Tells shown told acc) :
    (m.trying catches).Tells shown
      (fun outcome => outcome.toOption.bind told) acc := by
  induction m generalizing acc with
  | done a => exact hm
  | raised e =>
    cases hm
    unfold Dialogue.trying
    split <;> rfl
  | ask i next ih => exact fun o => ih o (hm o)

/-- A program that asks for nothing that could be shown. -/
theorem Asks.tells {m : Dialogue ι ο ε α} (hm : m.Asks fun i => ∀ o, shown i o = none) :
    m.Tells shown (fun _ => none) none := by
  induction m with
  | done a => rfl
  | raised e => rfl
  | ask i next ih =>
    intro o
    rw [hm.1 o]
    exact ih o (hm.2 o)

/-- What a run shows is what its result tells. -/
theorem Tells.of_run {m : Dialogue ι ο ε α} (hm : m.Tells shown told acc) {s : σ} {a : α}
    (h : (m.run perform s).outcome = .ok a) :
    acc.or (first_shown shown (m.run perform s).log) = told a := by
  induction m generalizing acc s with
  | done a' =>
    cases h
    exact (Option.or_none).trans hm.symm
  | raised e => cases h
  | ask i next ih =>
    have hnext := ih _ (hm (perform i s).1) h
    rw [Option.or_assoc] at hnext
    have hfirst : first_shown shown [(⟨s, i, (perform i s).1⟩ : Exchange ι ο σ)] =
        shown i (perform i s).1 := by
      unfold first_shown
      simp
    have hlog : first_shown shown ((ask i next : Dialogue ι ο ε α).run perform s).log =
        (first_shown shown [⟨s, i, (perform i s).1⟩]).or _ := first_shown_append [_] _
    rwa [hlog, hfirst]

/-! ## The questions of one kind -/

/-- What the run asked of the questions that `p` picks out. -/
def picked (p : ι → Bool) (log : List (Exchange ι ο σ)) : List (Exchange ι ο σ) :=
  log.filter fun x => p x.question

theorem Asks.picked_nil {p : ι → Bool} {m : Dialogue ι ο ε α} (hm : m.Asks fun i => p i = false)
    (s : σ) : picked p (m.run perform s).log = [] :=
  List.filter_eq_nil_iff.mpr fun x hx => by simp [hm.of_run s x hx]

/-- After a part that asks no such question, the rest asks them all, if it runs at all. -/
theorem Asks.picked_bind {p : ι → Bool} {m : Dialogue ι ο ε α} {f : α → Dialogue ι ο ε β}
    (hm : m.Asks fun i => p i = false) (s : σ) :
    picked p ((m >>= f).run perform s).log = [] ∨
      ∃ a s1, (m.run perform s).outcome = .ok a ∧ (m.run perform s).state = s1 ∧
        picked p ((m >>= f).run perform s).log = picked p ((f a).run perform s1).log := by
  have hquiet : picked p (m.run perform s).log = [] := hm.picked_nil s
  rcases hrun : m.run perform s with ⟨outcome, s1, log⟩
  rw [hrun] at hquiet
  cases outcome with
  | ok a =>
    refine Or.inr ⟨a, s1, rfl, rfl, ?_⟩
    rw [run_bind_ok hrun, after_log]
    unfold picked at hquiet ⊢
    rw [List.filter_append, hquiet, List.nil_append]
  | error e =>
    rw [run_bind_raised hrun]
    exact Or.inl hquiet

/-- A sequence asks no such question where neither part does. -/
theorem picked_bind_nil {p : ι → Bool} {m : Dialogue ι ο ε α} {f : α → Dialogue ι ο ε β} {s : σ} :
    picked p ((m >>= f).run perform s).log = [] ↔
      picked p (m.run perform s).log = [] ∧ ∀ a, (m.run perform s).outcome = .ok a →
        picked p ((f a).run perform (m.run perform s).state).log = [] := by
  rcases hrun : m.run perform s with ⟨outcome, s1, log⟩
  cases outcome with
  | ok a =>
    rw [run_bind_ok hrun, after_log]
    unfold picked
    rw [List.filter_append, List.append_eq_nil_iff]
    refine and_congr_right fun _ => ⟨fun hrest a' ha' => ?_, fun hrest => hrest a rfl⟩
    cases ha'
    exact hrest
  | error e =>
    rw [run_bind_raised hrun]
    exact ⟨fun h => ⟨h, fun a ha => nomatch ha⟩, fun h => h.1⟩

/-! ## What every run shows -/

/-- The error of the run, if it raised one. -/
def Run.raises (r : Run ι ο ε α σ) : Option ε :=
  match r.outcome with
  | .ok _ => none
  | .error e => some e

/-- `R` speaks of the log of a run and of the error that it raised. Of a run in two parts it
holds as soon as it holds of both, where only the second may have raised. -/
structure Composes (R : List (Exchange ι ο σ) → Option ε → Prop) : Prop where
  nil : R [] none
  append : ∀ {first second : List (Exchange ι ο σ)} {e : Option ε},
    R first none → R second e → R (first ++ second) e

/-- `R` holds of each run of the program. -/
def Always (perform : (i : ι) → σ → ο i × σ) (R : List (Exchange ι ο σ) → Option ε → Prop)
    (m : Dialogue ι ο ε α) : Prop :=
  ∀ s, R (m.run perform s).log (m.run perform s).raises

variable {R : List (Exchange ι ο σ) → Option ε → Prop}

theorem Always.pure (hR : Composes R) (a : α) :
    (Pure.pure a : Dialogue ι ο ε α).Always perform R := fun _ => hR.nil

theorem Always.raised {e : ε} (h : R [] (some e)) :
    (Dialogue.raised e : Dialogue ι ο ε α).Always perform R := fun _ => h

theorem Always.lift (hR : Composes R) {x : Except ε α} (h : ∀ e, x = .error e → R [] (some e)) :
    (Dialogue.lift x : Dialogue ι ο ε α).Always perform R := by
  cases x with
  | ok a => exact Always.pure hR a
  | error e => exact Always.raised (h e rfl)

theorem Always.question {i : ι} (h : ∀ s, R [⟨s, i, (perform i s).1⟩] none) :
    (Dialogue.question i : Dialogue ι ο ε (ο i)).Always perform R := h

/-- A sequence of a program of which `First` holds and of programs of which `Rest` holds. -/
theorem Always.bind_of {First Rest : List (Exchange ι ο σ) → Option ε → Prop}
    {m : Dialogue ι ο ε α} {f : α → Dialogue ι ο ε β} (hm : m.Always perform First)
    (hf : ∀ a, (f a).Always perform Rest)
    (hok : ∀ first rest e, First first none → Rest rest e → R (first ++ rest) e)
    (herror : ∀ log e, First log (some e) → R log (some e)) :
    (m >>= f).Always perform R := by
  intro s
  have hfirst := hm s
  rcases hrun : m.run perform s with ⟨r, s1, log⟩
  rw [hrun] at hfirst
  cases r with
  | ok a =>
    rw [run_bind_ok hrun]
    exact hok log _ _ hfirst (hf a s1)
  | error e =>
    rw [run_bind_raised hrun]
    exact herror log e hfirst

theorem Always.bind (hR : Composes R) {m : Dialogue ι ο ε α} {f : α → Dialogue ι ο ε β}
    (hm : m.Always perform R) (hf : ∀ a, (f a).Always perform R) :
    (m >>= f).Always perform R :=
  hm.bind_of hf (fun _ _ _ hfirst hrest => hR.append hfirst hrest) fun _ _ h => h

end Dialogue

end dialogue
