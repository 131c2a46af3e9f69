-- Lists in the order of a key, as `sorted` with a key gives them.
import Mathlib.Data.List.Sort

namespace ordered

variable {κ α β γ : Type}

/-- `sorted(items, key=key)`. -/
def by_key [LinearOrder κ] (key : α → κ) (items : List α) : List α :=
  items.insertionSort fun a b => key a ≤ key b

theorem perm_by_key [LinearOrder κ] (key : α → κ) (items : List α) :
    (by_key key items).Perm items := List.perm_insertionSort _ items

@[simp] theorem mem_by_key [LinearOrder κ] {key : α → κ} {items : List α} {item : α} :
    item ∈ by_key key items ↔ item ∈ items := (perm_by_key key items).mem_iff

@[simp] theorem length_by_key [LinearOrder κ] (key : α → κ) (items : List α) :
    (by_key key items).length = items.length := (perm_by_key key items).length_eq

theorem map_by_key [LinearOrder κ] (key : α → κ) (items : List α) :
    (by_key key items).map key = (items.map key).insertionSort (· ≤ ·) :=
  List.map_insertionSort (fun a b => key a ≤ key b) (· ≤ ·) key items fun _ _ _ _ => Iff.rfl

/-- The sorted keys do not depend on the order of the items. -/
theorem keys_by_key [LinearOrder κ] {key : α → κ} {key' : β → κ} {items : List α}
    {items' : List β} (h : (items.map key).Perm (items'.map key')) :
    (by_key key items).map key = (by_key key' items').map key' := by
  rw [map_by_key, map_by_key]
  apply List.Perm.eq_of_pairwise' (List.pairwise_insertionSort _ _)
    (List.pairwise_insertionSort _ _)
  exact (List.perm_insertionSort _ _).trans (h.trans (List.perm_insertionSort _ _).symm)

/-- Two lists with the same keys show the same, where items with the same key do. -/
theorem map_eq_map_of_keys {key : α → κ} {key' : β → κ} {view : α → γ} {view' : β → γ}
    {items : List α} {items' : List β} (hkeys : items.map key = items'.map key')
    (h : ∀ a ∈ items, ∀ b ∈ items', key a = key' b → view a = view' b) :
    items.map view = items'.map view' := by
  induction items generalizing items' with
  | nil =>
    cases items' with
    | nil => rfl
    | cons b items' => cases hkeys
  | cons a items ih =>
    cases items' with
    | nil => cases hkeys
    | cons b items' =>
      rw [List.map_cons, List.map_cons, List.cons.injEq] at hkeys
      rw [List.map_cons, List.map_cons, h a List.mem_cons_self b List.mem_cons_self hkeys.1,
        ih hkeys.2 fun a ha b hb => h a (List.mem_cons_of_mem _ ha) b (List.mem_cons_of_mem _ hb)]

/-- The same for the sorted lists, where the keys are the same up to their order. -/
theorem map_by_key_congr [LinearOrder κ] {key : α → κ} {key' : β → κ} {view : α → γ}
    {view' : β → γ} {items : List α} {items' : List β}
    (hkeys : (items.map key).Perm (items'.map key'))
    (h : ∀ a ∈ items, ∀ b ∈ items', key a = key' b → view a = view' b) :
    (by_key key items).map view = (by_key key' items').map view' := by
  apply map_eq_map_of_keys (keys_by_key hkeys)
  intro a ha b hb
  exact h a (mem_by_key.mp ha) b (mem_by_key.mp hb)

/-- What the items of two lists show is the same exactly if the keys are the same, and items with
the same key show the same. -/
theorem same_views_iff {key : α → κ} {view : α → β} {items items' : List α}
    (hdistinct : (items'.map key).Nodup) (hkey : ∀ a b, view a = view b → key a = key b) :
    (∀ v, v ∈ items.map view ↔ v ∈ items'.map view) ↔
      (∀ k, k ∈ items.map key ↔ k ∈ items'.map key) ∧
        ∀ a ∈ items, ∀ b ∈ items', key a = key b → view a = view b := by
  constructor
  · intro h
    refine ⟨fun k => ⟨?_, ?_⟩, ?_⟩
    · intro hk
      obtain ⟨a, ha, rfl⟩ := List.mem_map.mp hk
      obtain ⟨b, hb, hview⟩ := List.mem_map.mp ((h _).mp (List.mem_map_of_mem ha))
      exact List.mem_map.mpr ⟨b, hb, hkey b a hview⟩
    · intro hk
      obtain ⟨b, hb, rfl⟩ := List.mem_map.mp hk
      obtain ⟨a, ha, hview⟩ := List.mem_map.mp ((h _).mpr (List.mem_map_of_mem hb))
      exact List.mem_map.mpr ⟨a, ha, hkey a b hview⟩
    · intro a ha b hb hsame
      obtain ⟨other, hother, hview⟩ := List.mem_map.mp ((h _).mp (List.mem_map_of_mem ha))
      have hkeys : key other = key b := (hkey other a hview).trans hsame
      rw [← hview, List.inj_on_of_nodup_map hdistinct hother hb hkeys]
  · rintro ⟨hkeys, hviews⟩ v
    constructor
    · intro hv
      obtain ⟨a, ha, rfl⟩ := List.mem_map.mp hv
      obtain ⟨b, hb, hsame⟩ := List.mem_map.mp ((hkeys _).mp (List.mem_map_of_mem ha))
      exact List.mem_map.mpr ⟨b, hb, (hviews a ha b hb hsame.symm).symm⟩
    · intro hv
      obtain ⟨b, hb, rfl⟩ := List.mem_map.mp hv
      obtain ⟨a, ha, hsame⟩ := List.mem_map.mp ((hkeys _).mpr (List.mem_map_of_mem hb))
      exact List.mem_map.mpr ⟨a, ha, hviews a ha b hb hsame⟩

/-! ## Sorted sets -/

theorem nodup_eraseDups [DecidableEq α] (items : List α) : items.eraseDups.Nodup := by
  induction h : items.length using Nat.strongRecOn generalizing items with
  | ind n ih =>
    cases items with
    | nil => exact List.nodup_nil
    | cons a items =>
      rw [List.eraseDups_cons, List.nodup_cons, List.mem_eraseDups, List.mem_filter]
      refine ⟨fun hmem => by simp at hmem, ih _ ?_ _ rfl⟩
      rw [← h, List.length_cons]
      exact Nat.lt_succ_of_le (List.length_filter_le _ _)

/-- `len(set(items)) == 1`. -/
theorem length_eraseDups_eq_one [BEq α] [LawfulBEq α] {items : List α} :
    items.eraseDups.length = 1 ↔ items ≠ [] ∧ ∀ a ∈ items, ∀ b ∈ items, a = b := by
  constructor
  · intro h
    obtain ⟨only, honly⟩ := List.length_eq_one_iff.mp h
    have hmem : ∀ a ∈ items, a = only := by
      intro a ha
      rwa [← List.mem_eraseDups, honly, List.mem_singleton] at ha
    refine ⟨?_, fun a ha b hb => (hmem a ha).trans (hmem b hb).symm⟩
    rintro rfl
    cases honly
  · rintro ⟨hsome, hsame⟩
    cases items with
    | nil => exact absurd rfl hsome
    | cons a items =>
      have hnone : items.filter (fun b => !b == a) = [] := by
        rw [List.filter_eq_nil_iff]
        intro b hb
        simp [hsame b (List.mem_cons_of_mem a hb) a List.mem_cons_self]
      rw [List.eraseDups_cons, hnone]
      rfl

/-- `sorted(set(items))` depends on the members only. -/
theorem sorted_set_congr [LinearOrder κ] {items items' : List κ}
    (h : ∀ a, a ∈ items ↔ a ∈ items') :
    items.eraseDups.insertionSort (· ≤ ·) = items'.eraseDups.insertionSort (· ≤ ·) := by
  have hperm : items.eraseDups.Perm items'.eraseDups := by
    rw [List.perm_ext_iff_of_nodup (nodup_eraseDups _) (nodup_eraseDups _)]
    intro a
    rw [List.mem_eraseDups, List.mem_eraseDups, h a]
  apply List.Perm.eq_of_pairwise' (List.pairwise_insertionSort _ _)
    (List.pairwise_insertionSort _ _)
  exact (List.perm_insertionSort _ _).trans (hperm.trans (List.perm_insertionSort _ _).symm)

/-! ## The first of a ranking -/

section

variable [LinearOrder κ] {key : α → κ} {admits other : α → Bool} {limit : Option Nat}
  {items : List α}

/-- `selected if limit is None else selected[:limit]`. -/
def up_to : Option Nat → List α → List α
  | none, items => items
  | some limit, items => items.take limit

/-- The first of the items that are admitted, in the order of their keys. -/
def ranked (key : α → κ) (admits : α → Bool) (limit : Option Nat) (items : List α) : List α :=
  up_to limit ((by_key key items).filter admits)

theorem up_to_head (limit : Option Nat) (items : List α) : up_to limit items <+: items := by
  cases limit with
  | none => exact List.prefix_refl items
  | some limit => exact List.take_prefix limit items

theorem length_up_to_le {n : Nat} (items : List α) : (up_to (some n) items).length ≤ n :=
  List.length_take_le n items

theorem ranked_head (key : α → κ) (admits : α → Bool) (limit : Option Nat) (items : List α) :
    ranked key admits limit items <+: ranked key admits none items := up_to_head limit _

theorem mem_ranked_none {item : α} :
    item ∈ ranked key admits none items ↔ item ∈ items ∧ admits item = true := by
  unfold ranked up_to
  rw [List.mem_filter, mem_by_key]

theorem mem_of_mem_ranked {item : α} (h : item ∈ ranked key admits limit items) :
    item ∈ items ∧ admits item = true :=
  mem_ranked_none.mp ((ranked_head key admits limit items).subset h)

theorem pairwise_by_key (key : α → κ) (items : List α) :
    (by_key key items).Pairwise fun a b => key a ≤ key b := by
  rw [← List.pairwise_map (R := (· ≤ ·)), map_by_key]
  exact List.pairwise_insertionSort _ _

theorem pairwise_ranked (key : α → κ) (admits : α → Bool) (limit : Option Nat)
    (items : List α) : (ranked key admits limit items).Pairwise fun a b => key a ≤ key b :=
  ((pairwise_by_key key items).filter admits).sublist (up_to_head limit _).sublist

/-- Who admits more leaves none out, and keeps the order. -/
theorem ranked_sublist (h : ∀ item, admits item = true → other item = true) :
    (ranked key admits none items).Sublist (ranked key other none items) :=
  List.monotone_filter_right (by_key key items) h

/-- What is admitted and left out comes after a full list. -/
theorem ranked_before {item : α} (hmem : item ∈ items) (hadmits : admits item = true)
    (hout : item ∉ ranked key admits limit items) :
    (∃ n, limit = some n ∧ (ranked key admits limit items).length = n) ∧
      ∀ chosen ∈ ranked key admits limit items, key chosen ≤ key item := by
  have hall : item ∈ ranked key admits none items := mem_ranked_none.mpr ⟨hmem, hadmits⟩
  obtain ⟨rest, hrest⟩ := ranked_head key admits limit items
  have hlate : item ∈ rest := by
    rw [← hrest, List.mem_append] at hall
    exact hall.resolve_left hout
  constructor
  · cases limit with
    | none => exact absurd hall hout
    | some n =>
      refine ⟨n, rfl, le_antisymm (length_up_to_le _) (le_of_not_gt fun hshort => ?_)⟩
      apply hout
      have hwhole : ranked key admits (some n) items = ranked key admits none items := by
        apply List.take_of_length_le
        by_contra hlong
        rw [not_le] at hlong
        rw [show (ranked key admits (some n) items).length = n from
          List.length_take_of_le hlong.le] at hshort
        exact lt_irrefl _ hshort
      rw [hwhole]
      exact hall
  · intro chosen hchosen
    have hpairs := pairwise_ranked key admits none items
    rw [← hrest, List.pairwise_append] at hpairs
    exact hpairs.2.2 chosen hchosen item hlate

end

end ordered
