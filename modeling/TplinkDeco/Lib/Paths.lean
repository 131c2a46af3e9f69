-- Paths below a base path. Two bases share a path exactly if one is at or below the other.
import TplinkDeco.Lib.Text

open text

namespace paths

/-- `path == base or path.startswith(f"{base}/")`. -/
def under (base path : String) : Bool := path = base || starts_with path (base ++ "/")

/-- One of the two is at or below the other. -/
def overlap (left right : String) : Bool := under left right || under right left

variable {base left right path : String}

theorem starts_with_iff {s part : String} :
    starts_with s part = true ↔ part.toList <+: s.toList := decide_eq_true_iff

theorem under_self (base : String) : under base base = true := by
  unfold under
  rw [decide_eq_true rfl, Bool.true_or]

/-- A path is at or below a base exactly if, closed with a slash, it starts with the closed base. -/
theorem under_iff_closed :
    under base path = true ↔ (base ++ "/").toList <+: (path ++ "/").toList := by
  unfold under
  rw [Bool.or_eq_true, decide_eq_true_iff, starts_with_iff]
  constructor
  · rintro (rfl | h)
    · exact List.prefix_refl _
    · rw [String.toList_append (s := path)]
      exact h.trans (List.prefix_append _ _)
  · intro h
    rw [String.toList_append (s := path), show "/".toList = ['/'] from rfl,
      List.prefix_concat_iff] at h
    rcases h with heq | h
    · refine Or.inl ?_
      rw [String.toList_append, show "/".toList = ['/'] from rfl] at heq
      exact (String.toList_inj.mp (List.append_cancel_right heq)).symm
    · exact Or.inr h

/-- Two bases overlap exactly if some path is at or below both. -/
theorem overlap_iff : overlap left right = true ↔
    ∃ path, under left path = true ∧ under right path = true := by
  unfold overlap
  rw [Bool.or_eq_true]
  constructor
  · rintro (h | h)
    · exact ⟨right, h, under_self right⟩
    · exact ⟨left, under_self left, h⟩
  · rintro ⟨path, hleft, hright⟩
    rw [under_iff_closed] at hleft hright ⊢
    rw [under_iff_closed]
    exact List.prefix_or_prefix_of_prefix hleft hright

theorem not_under_of_not_overlap (h : overlap left right = false) (hpath : under left path = true) :
    under right path = false := by
  by_contra hright
  rw [Bool.not_eq_false] at hright
  rw [overlap_iff.mpr ⟨path, hpath, hright⟩] at h
  cases h

end paths
