-- Parts that are written with a separator after them and without escapes, and what is read back
-- of them: each part only as far as its own first separator.
import Mathlib.Data.List.TakeWhile
import Mathlib.Data.Set.Image

namespace delimited

section

variable {α : Type} (stop : α → Bool)

/-- What stands in front of the first separator. -/
def front (cs : List α) : List α := cs.takeWhile fun c => !stop c

/-- A separator and more. -/
def Separated (rest : List α) : Prop := ∃ c cs, rest = c :: cs ∧ stop c = true

variable {stop}

theorem Separated.append {rest : List α} (h : Separated stop rest) (more : List α) :
    Separated stop (rest ++ more) := by
  obtain ⟨c, cs, rfl, hstop⟩ := h
  exact ⟨c, cs ++ more, rfl, hstop⟩

/-- What is written after a part does not change what is read of it. -/
theorem front_append (part : List α) {rest : List α} (h : Separated stop rest) :
    front stop (part ++ rest) = front stop part := by
  obtain ⟨c, cs, rfl, hstop⟩ := h
  induction part with
  | nil => simp [front, hstop]
  | cons d part ih =>
    unfold front at ih ⊢
    rw [List.cons_append, List.takeWhile_cons, List.takeWhile_cons, ih]

/-- A part is read back exactly if there is no separator in it. -/
theorem front_eq_self {part : List α} :
    front stop part = part ↔ ∀ c ∈ part, stop c = false := by
  unfold front
  simp [List.takeWhile_eq_self_iff]

theorem front_front (part : List α) : front stop (front stop part) = front stop part :=
  List.takeWhile_idem

/-- One cut after another is a cut at the separators of both. -/
theorem front_then (other : α → Bool) (part : List α) :
    front other (front stop part) = front (fun c => stop c || other c) part := by
  have hboth : (fun c => decide ((!other c) = true ∧ (!stop c) = true)) =
      fun c => !(stop c || other c) := by
    funext c
    cases stop c <;> cases other c <;> simp
  unfold front
  rw [List.takeWhile_takeWhile, hboth]

/-- A part with no separator, and one more after it: each other part of the same text, with one
after it, starts with this part. -/
theorem starts_with_part {part first rest others : List α} (hfirst : ∀ c ∈ first, stop c = false)
    (hrest : Separated stop rest) (hothers : Separated stop others)
    (h : part ++ rest = first ++ others) :
    ∃ more, part = first ++ more ∧ others = more ++ rest := by
  have hfront : front stop part = first := by
    rw [← front_append part hrest, h, front_append first hothers, front_eq_self.mpr hfirst]
  obtain ⟨more, hmore⟩ : first <+: part := by
    rw [← hfront]
    exact List.takeWhile_prefix _
  refine ⟨more, hmore.symm, ?_⟩
  rw [← hmore, List.append_assoc] at h
  exact (List.append_cancel_left h).symm

end

/-! ## What is read back of all that is written -/

section

variable {κ : Type} {cut : κ → κ} {blank : κ} {keys written : Set κ}
  (idempotent : ∀ w, cut (cut w) = cut w) (hsub : keys ⊆ written)

include idempotent

/-- What was cut once stays as it is. -/
theorem cut_of_mem_image {key : κ} (h : key ∈ cut '' written) : cut key = key := by
  obtain ⟨w, -, rfl⟩ := h
  exact idempotent w

include hsub

/-- Of all that is written, exactly the keys are read back if and only if no key is cut and
nothing else is cut to what is not a key. Blanks are left out. -/
theorem read_back_iff (cut_blank : cut blank = blank) :
    cut '' written \ {blank} = keys \ {blank} ↔
      (∀ key ∈ keys, cut key = key) ∧ ∀ w ∈ written, cut w = blank ∨ cut w ∈ keys := by
  constructor
  · intro h
    constructor
    · intro key hkey
      by_cases hblank : key = blank
      · rw [hblank, cut_blank]
      · have hread : key ∈ cut '' written \ {blank} := by
          rw [h]
          exact ⟨hkey, hblank⟩
        exact cut_of_mem_image idempotent hread.1
    · intro w hw
      by_cases hblank : cut w = blank
      · exact Or.inl hblank
      · have hkey : cut w ∈ keys \ {blank} := by
          rw [← h]
          exact ⟨Set.mem_image_of_mem cut hw, hblank⟩
        exact Or.inr hkey.1
  · rintro ⟨hkeys, hcut⟩
    ext key
    constructor
    · rintro ⟨⟨w, hw, rfl⟩, hblank⟩
      exact ⟨(hcut w hw).resolve_left hblank, hblank⟩
    · rintro ⟨hkey, hblank⟩
      exact ⟨⟨key, hsub hkey, hkeys key hkey⟩, hblank⟩

/-- One key is told apart if it is a key that is not cut, or if nothing is cut to it. -/
theorem told_iff {key : κ} : (key ∈ cut '' written \ {blank} ↔ key ∈ keys) ↔
    (key ∈ keys → key ≠ blank ∧ cut key = key) ∧
      (key ∉ keys → key = blank ∨ ∀ w ∈ written, cut w ≠ key) := by
  constructor
  · intro h
    constructor
    · intro hkey
      obtain ⟨hread, hblank⟩ := h.mpr hkey
      exact ⟨hblank, cut_of_mem_image idempotent hread⟩
    · intro hkey
      by_contra hread
      rw [not_or, not_forall] at hread
      obtain ⟨hblank, w, hw⟩ := hread
      obtain ⟨hw, hcut⟩ := Classical.not_imp.mp hw
      exact hkey (h.mp ⟨⟨w, hw, not_not.mp hcut⟩, hblank⟩)
  · rintro ⟨hin, hout⟩
    constructor
    · rintro ⟨⟨w, hw, hcut⟩, hblank⟩
      by_contra hkey
      rcases hout hkey with h | h
      · exact hblank h
      · exact h w hw hcut
    · intro hkey
      obtain ⟨hblank, hcut⟩ := hin hkey
      exact ⟨⟨key, hsub hkey, hcut⟩, hblank⟩

end

end delimited
