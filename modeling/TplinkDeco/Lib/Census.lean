-- How many threads of a pool are of one kind, and what a section of one thread
-- does to that number.
import Mathlib.Data.Set.Card
import TplinkDeco.Lib.Threads

namespace threads

variable {σ π α ε : Type}

/-- The threads of the kind `K`. -/
def Pool.census (K : π → Prop) (p : Pool σ π) : Set Nat := {t | K (p.thread t)}

variable {K : π → Prop} {p : Pool σ π} {t : Nat} {s : σ} {own : π}

theorem census_put_in (h : K own) : (p.put t s own).census K = insert t (p.census K) := by
  ext i
  by_cases hi : i = t
  · subst hi
    simp [Pool.census, h]
  · simp [Pool.census, put_other p s own hi, hi]

theorem census_put_out (h : ¬ K own) : (p.put t s own).census K = p.census K \ {t} := by
  ext i
  by_cases hi : i = t
  · subst hi
    simp [Pool.census, h]
  · simp [Pool.census, put_other p s own hi, hi]

/-- A section keeps the number of the kind finite. -/
theorem census_put_finite (h : (p.census K).Finite) : ((p.put t s own).census K).Finite := by
  by_cases hk : K own
  · rw [census_put_in hk]
    exact h.insert t
  · rw [census_put_out hk]
    exact h.sdiff

/-- A thread that is of the kind before and after its section, or neither time. -/
theorem census_put_stays (h : K own ↔ K (p.thread t)) :
    (p.put t s own).census K = p.census K := by
  by_cases hk : K own
  · rw [census_put_in hk]
    exact Set.insert_eq_of_mem (h.mp hk)
  · rw [census_put_out hk]
    exact Set.sdiff_singleton_eq_self fun ht => hk (h.mpr ht)

theorem count_put_enters (hfinite : (p.census K).Finite) (hbefore : ¬ K (p.thread t))
    (hafter : K own) : ((p.put t s own).census K).ncard = (p.census K).ncard + 1 := by
  rw [census_put_in hafter]
  exact Set.ncard_insert_of_notMem hbefore hfinite

theorem count_put_leaves (hfinite : (p.census K).Finite) (hbefore : K (p.thread t))
    (hafter : ¬ K own) : ((p.put t s own).census K).ncard + 1 = (p.census K).ncard := by
  rw [census_put_out hafter]
  exact Set.ncard_sdiff_singleton_add_one hbefore hfinite

end threads
