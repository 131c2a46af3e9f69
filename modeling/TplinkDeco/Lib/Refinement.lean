-- Machines that answer one call after another, and when one of them shows the same as
-- another: from related states the same call gives the same reply, and related states again.
import Mathlib.Tactic.Common

namespace refinement

variable {σ τ υ ι β : Type}

/-- The replies to the calls of a run, and the state after the last one. -/
def run (step : σ → ι → β × σ) : List ι → σ → List β × σ
  | [], s => ([], s)
  | call :: calls, s =>
    let (reply, s') := step s call
    let (replies, last) := run step calls s'
    (reply :: replies, last)

variable {step : σ → ι → β × σ} {step' : τ → ι → β × τ} {step'' : υ → ι → β × υ}

theorem run_cons (call : ι) (calls : List ι) (s : σ) :
    run step (call :: calls) s =
      ((step s call).1 :: (run step calls (step s call).2).1,
        (run step calls (step s call).2).2) := rfl

theorem run_append (calls calls' : List ι) (s : σ) :
    run step (calls ++ calls') s =
      ((run step calls s).1 ++ (run step calls' (run step calls s).2).1,
        (run step calls' (run step calls s).2).2) := by
  induction calls generalizing s with
  | nil => rfl
  | cons call calls ih =>
    rw [List.cons_append, run_cons, ih, run_cons]
    rfl

/-- What each call keeps, a run keeps. -/
theorem invariant_run {inv : σ → Prop} (hstep : ∀ s call, inv s → inv (step s call).2)
    (calls : List ι) {s : σ} (h : inv s) : inv (run step calls s).2 := by
  induction calls generalizing s with
  | nil => exact h
  | cons call calls ih => exact ih (hstep s call h)

/-- The calls that `allowed` accepts give the same replies from related states, and lead to
related states. -/
def Simulates (step : σ → ι → β × σ) (step' : τ → ι → β × τ) (allowed : ι → Prop)
    (related : σ → τ → Prop) : Prop :=
  ∀ s t call, allowed call → related s t →
    (step s call).1 = (step' t call).1 ∧ related (step s call).2 (step' t call).2

variable {allowed : ι → Prop} {related : σ → τ → Prop}

theorem Simulates.run (h : Simulates step step' allowed related) {calls : List ι}
    (hcalls : ∀ call ∈ calls, allowed call) {s : σ} {t : τ} (hrel : related s t) :
    (run step calls s).1 = (run step' calls t).1 ∧
      related (run step calls s).2 (run step' calls t).2 := by
  induction calls generalizing s t with
  | nil => exact ⟨rfl, hrel⟩
  | cons call calls ih =>
    obtain ⟨hreply, hnext⟩ := h s t call (hcalls call List.mem_cons_self) hrel
    obtain ⟨hreplies, hlast⟩ := ih (fun c hc => hcalls c (List.mem_cons_of_mem _ hc)) hnext
    rw [run_cons, run_cons]
    exact ⟨by rw [hreply, hreplies], hlast⟩

end refinement
