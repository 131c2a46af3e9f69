-- Programs that ask one question after another and go on with each answer,
-- whoever answers them: what they may log, and when they come to their end.
import TplinkDeco.Lib.Prog

open prog

namespace script

/-- A program that asks questions `ι`, hears answers `ο`, and gives a `ρ`. -/
inductive Script (ι ο ρ : Type) where
  | done (result : ρ)
  | ask (question : ι) (next : ο → Script ι ο ρ)

namespace Script

variable {ι ο α β ρ ε σ : Type}

def andThen : Script ι ο α → (α → Script ι ο β) → Script ι ο β
  | done a, f => f a
  | ask i next, f => ask i fun o => (next o).andThen f

instance : Monad (Script ι ο) where
  pure := done
  bind := andThen

def question (i : ι) : Script ι ο ο := ask i done

/-! ## Logs -/

/-- A run of the program may ask and hear what the log says, and then gives `r`. -/
inductive Logs : Script ι ο ρ → List (ι × ο) → ρ → Prop
  | done (r : ρ) : Logs (done r) [] r
  | ask {i : ι} {next : ο → Script ι ο ρ} {log : List (ι × ο)} {r : ρ} (o : ο)
      (rest : Logs (next o) log r) : Logs (ask i next) ((i, o) :: log) r

theorem logs_done {a r : ρ} {log : List (ι × ο)} (h : Logs (done a) log r) :
    log = [] ∧ r = a := by
  cases h
  exact ⟨rfl, rfl⟩

theorem logs_bind {m : Script ι ο α} {f : α → Script ι ο β} {log : List (ι × ο)} {b : β}
    (h : Logs (m >>= f) log b) :
    ∃ first a rest, log = first ++ rest ∧ Logs m first a ∧ Logs (f a) rest b := by
  induction m generalizing log with
  | done a => exact ⟨[], a, log, rfl, .done a, h⟩
  | ask i next ih =>
    cases h with
    | ask o hrest =>
      obtain ⟨first, a, rest, rfl, hm, hf⟩ := ih o hrest
      exact ⟨(i, o) :: first, a, rest, rfl, .ask o hm, hf⟩

theorem logs_question {i : ι} {f : ο → Script ι ο β} {log : List (ι × ο)} {b : β}
    (h : Logs (question i >>= f) log b) :
    ∃ o rest, log = (i, o) :: rest ∧ Logs (f o) rest b := by
  cases h with
  | ask o hrest => exact ⟨o, _, rfl, hrest⟩

/-! ## Runs -/

variable (perform : ι → Prog ε σ ο)

/-- The program, with its questions put to `perform`. -/
def run : Script ι ο ρ → Prog ε σ ρ
  | done r => pure r
  | ask i next => perform i >>= fun o => (next o).run

/-- From `s`, `perform` answers as the log says, and leaves `s'`. -/
inductive Answers : σ → List (ι × ο) → σ → Prop
  | nil (s : σ) : Answers s [] s
  | cons {s s1 s2 : σ} {i : ι} {o : ο} {log : List (ι × ο)} (first : perform i s = (.ok o, s1))
      (rest : Answers s1 log s2) : Answers s ((i, o) :: log) s2

variable {perform}

/-- What a run asks and hears is a log of the program. -/
theorem logs_of_run {m : Script ι ο ρ} {s s' : σ} {r : ρ} (h : m.run perform s = (.ok r, s')) :
    ∃ log, Logs m log r ∧ Answers perform s log s' := by
  induction m generalizing s with
  | done a =>
    cases h
    exact ⟨[], .done _, .nil _⟩
  | ask i next ih =>
    obtain ⟨o, s1, hfirst, hrest⟩ := Prog.bind_eq_ok h
    obtain ⟨log, hlogs, hanswers⟩ := ih o hrest
    exact ⟨(i, o) :: log, .ask o hlogs, .cons hfirst hanswers⟩

/-! ## Coming to the end -/

variable (perform)

/-- Each question of the run is asked where `serves` says that it is answered. -/
def Served (serves : ι → σ → Prop) : Script ι ο ρ → σ → Prop
  | done _, _ => True
  | ask i next, s => serves i s ∧ ∀ o s', perform i s = (.ok o, s') → (next o).Served serves s'

variable {perform}

/-- Where `serves` is exact, a run gives a result exactly when each question is served. -/
theorem ends_iff_served {serves : ι → σ → Prop}
    (hexact : ∀ i s, (∃ o s', perform i s = (.ok o, s')) ↔ serves i s) (m : Script ι ο ρ) (s : σ) :
    (∃ r s', m.run perform s = (.ok r, s')) ↔ m.Served perform serves s := by
  induction m generalizing s with
  | done a => exact ⟨fun _ => trivial, fun _ => ⟨a, s, rfl⟩⟩
  | ask i next ih =>
    constructor
    · rintro ⟨r, s', hrun⟩
      obtain ⟨o, s1, hfirst, hrest⟩ := Prog.bind_eq_ok hrun
      refine ⟨(hexact i s).mp ⟨o, s1, hfirst⟩, ?_⟩
      intro o' s1' hfirst'
      rw [hfirst] at hfirst'
      cases hfirst'
      exact (ih o s1).mp ⟨r, s', hrest⟩
    · rintro ⟨hserves, hnext⟩
      obtain ⟨o, s1, hfirst⟩ := (hexact i s).mpr hserves
      obtain ⟨r, s', hrest⟩ := (ih o s1).mpr (hnext o s1 hfirst)
      refine ⟨r, s', ?_⟩
      show (perform i >>= fun o => (next o).run perform) s = _
      rw [Prog.bind_ok hfirst, hrest]

end Script

/-! ## Reports -/

/-- A step of a report: an entry that is known, or a question whose answer makes one. -/
inductive Step (ι ο β : Type) where
  | entry (value : β)
  | asks (question : ι) (label : ο → β)

variable {ι ο β : Type}

open Script

/-- Take the steps one by one, and collect an entry for each. -/
def report : List (Step ι ο β) → Script ι ο (List β)
  | [] => pure []
  | .entry e :: steps => do
    let es ← report steps
    pure (e :: es)
  | .asks i label :: steps => do
    let o ← question i
    let es ← report steps
    pure (label o :: es)

/-- The entries stand for the steps one by one, each question with its own answer in the log. -/
inductive Reported : List (Step ι ο β) → List (ι × ο) → List β → Prop
  | nil : Reported [] [] []
  | entry {steps : List (Step ι ο β)} {log : List (ι × ο)} {es : List β} (e : β)
      (rest : Reported steps log es) : Reported (.entry e :: steps) log (e :: es)
  | asks {steps : List (Step ι ο β)} {log : List (ι × ο)} {es : List β} (i : ι) (o : ο)
      (label : ο → β) (rest : Reported steps log es) :
      Reported (.asks i label :: steps) ((i, o) :: log) (label o :: es)

theorem report_logs {steps : List (Step ι ο β)} {log : List (ι × ο)} {es : List β}
    (h : Logs (report steps) log es) : Reported steps log es := by
  induction steps generalizing log es with
  | nil =>
    obtain ⟨rfl, rfl⟩ := logs_done h
    exact .nil
  | cons step steps ih =>
    cases step with
    | entry e =>
      obtain ⟨first, es', rest, rfl, hsteps, hlast⟩ := logs_bind h
      obtain ⟨rfl, rfl⟩ := logs_done hlast
      rw [List.append_nil]
      exact .entry e (ih hsteps)
    | asks i label =>
      obtain ⟨o, tail, rfl, htail⟩ := logs_question h
      obtain ⟨first, es', rest, rfl, hsteps, hlast⟩ := logs_bind htail
      obtain ⟨rfl, rfl⟩ := logs_done hlast
      rw [List.append_nil]
      exact .asks i o label (ih hsteps)

end script
