-- The dictionary of Python: one value for each key, with the keys in the order
-- in which they came in. Setting a key that is there keeps its place.
import Mathlib.Tactic.Common
import Mathlib.Data.List.Basic
import Mathlib.Data.List.Nodup

namespace dict

variable {κ α : Type} [DecidableEq κ]

/-! ## The entries -/

/-- Put `v` in the place of the key, or at the end when the key is new. -/
def assign (k : κ) (v : α) : List (κ × α) → List (κ × α)
  | [] => [(k, v)]
  | e :: es => if e.1 = k then (k, v) :: es else e :: assign k v es

def remove (k : κ) (es : List (κ × α)) : List (κ × α) := es.filter (fun e => e.1 ≠ k)

theorem keys_assign (k : κ) (v : α) (es : List (κ × α)) :
    (assign k v es).map Prod.fst =
      if k ∈ es.map Prod.fst then es.map Prod.fst else es.map Prod.fst ++ [k] := by
  induction es with
  | nil => simp [assign]
  | cons e es ih =>
    by_cases he : e.1 = k
    · simp [assign, he]
    · simp only [assign, he, if_false, List.map_cons, ih, List.mem_cons, Ne.symm he, false_or]
      split <;> simp

theorem lookup_cons (j k : κ) (v : α) (es : List (κ × α)) :
    ((k, v) :: es).lookup j = if j = k then some v else es.lookup j := by
  rw [List.lookup_cons]
  by_cases h : j = k
  · simp [h]
  · have hb : (j == k) = false := by simpa using h
    simp [h, hb]

theorem lookup_assign (j k : κ) (v : α) (es : List (κ × α)) :
    (assign k v es).lookup j = if j = k then some v else es.lookup j := by
  induction es with
  | nil => simp [assign, lookup_cons]
  | cons e es ih =>
    rcases e with ⟨a, w⟩
    by_cases ha : a = k
    · subst ha
      by_cases hj : j = a <;> simp [assign, lookup_cons, hj]
    · simp only [assign, ha, if_false, lookup_cons, ih]
      by_cases hj : j = a
      · subst hj
        simp [ha]
      · simp [hj]

theorem lookup_remove (j k : κ) (es : List (κ × α)) :
    (remove k es).lookup j = if j = k then none else es.lookup j := by
  induction es with
  | nil => simp [remove]
  | cons e es ih =>
    rcases e with ⟨a, w⟩
    unfold remove at *
    by_cases ha : a = k
    · subst ha
      simp only [List.filter_cons, ne_eq, not_true, decide_false, Bool.false_eq_true, if_false, ih,
        lookup_cons]
      by_cases hj : j = a <;> simp [hj]
    · simp only [List.filter_cons, ne_eq, ha, not_false_iff, decide_true, if_true,
        lookup_cons, ih]
      by_cases hj : j = a
      · subst hj
        simp [ha]
      · simp [hj]

theorem lookup_eq_some {es : List (κ × α)} (hn : (es.map Prod.fst).Nodup) (k : κ) (v : α) :
    es.lookup k = some v ↔ (k, v) ∈ es := by
  induction es with
  | nil => simp
  | cons e es ih =>
    rcases e with ⟨a, w⟩
    rw [List.map_cons, List.nodup_cons] at hn
    rw [lookup_cons, List.mem_cons, Prod.mk.injEq]
    by_cases hk : k = a
    · subst hk
      simp only [if_true, Option.some.injEq, true_and]
      constructor
      · rintro rfl
        exact Or.inl rfl
      · rintro (rfl | hm)
        · rfl
        · exact absurd (List.mem_map_of_mem (f := Prod.fst) hm) hn.1
    · simp [hk, ih hn.2]

theorem lookup_eq_none {es : List (κ × α)} {k : κ} (h : k ∉ es.map Prod.fst) :
    es.lookup k = none := by
  rw [List.lookup_eq_none_iff]
  intro e he
  rw [bne_iff_ne]
  intro hsame
  exact h (hsame ▸ List.mem_map_of_mem he)

/-! ## The dictionary -/

structure Dict (κ α : Type) [DecidableEq κ] where
  entries : List (κ × α)
  nodup : (entries.map Prod.fst).Nodup

namespace Dict

def empty : Dict κ α := ⟨[], List.nodup_nil⟩

def keys (d : Dict κ α) : List κ := d.entries.map Prod.fst

def size (d : Dict κ α) : Nat := d.entries.length

def get? (d : Dict κ α) (k : κ) : Option α := d.entries.lookup k

def set (d : Dict κ α) (k : κ) (v : α) : Dict κ α :=
  ⟨assign k v d.entries, by
    rw [keys_assign]
    split
    · exact d.nodup
    · rename_i h
      refine List.nodup_append.mpr ⟨d.nodup, List.nodup_singleton k, ?_⟩
      intro a ha b hb
      rw [List.mem_singleton] at hb
      rintro rfl
      exact h (hb ▸ ha)⟩

def erase (d : Dict κ α) (k : κ) : Dict κ α :=
  ⟨remove k d.entries, (List.filter_sublist.map Prod.fst).nodup d.nodup⟩

def eraseAll (d : Dict κ α) (ks : List κ) : Dict κ α := ks.foldl erase d

@[simp] theorem get?_empty (k : κ) : (empty : Dict κ α).get? k = none := rfl

@[simp] theorem size_empty : (empty : Dict κ α).size = 0 := rfl

theorem get?_set (d : Dict κ α) (j k : κ) (v : α) :
    (d.set k v).get? j = if j = k then some v else d.get? j := lookup_assign j k v d.entries

@[simp] theorem get?_set_self (d : Dict κ α) (k : κ) (v : α) : (d.set k v).get? k = some v := by
  simp [get?_set]

theorem get?_set_of_ne (d : Dict κ α) {j k : κ} (v : α) (h : j ≠ k) :
    (d.set k v).get? j = d.get? j := by
  simp [get?_set, h]

/-- Where each row updates the entry under its own key, the entry under a key is what the rows
of this key make of it. -/
theorem get?_foldl_set {ρ : Type} (key : ρ → κ) (update : ρ → Option α → α) (rows : List ρ)
    (d : Dict κ α) (k : κ) :
    (rows.foldl (fun d row => d.set (key row) (update row (d.get? (key row)))) d).get? k =
      (rows.filter (key · = k)).foldl (fun entry row => some (update row entry)) (d.get? k) := by
  induction rows generalizing d with
  | nil => rfl
  | cons row rows ih =>
    rw [List.foldl_cons, ih]
    by_cases hk : key row = k
    · subst hk
      rw [List.filter_cons_of_pos (by simp), List.foldl_cons, get?_set_self]
    · rw [List.filter_cons_of_neg (by simpa using hk), get?_set_of_ne _ _ (Ne.symm hk)]

theorem entries_set_of_new (d : Dict κ α) {k : κ} (v : α) (h : k ∉ d.keys) :
    (d.set k v).entries = d.entries ++ [(k, v)] := by
  have hend : ∀ es : List (κ × α), k ∉ es.map Prod.fst → assign k v es = es ++ [(k, v)] := by
    intro es
    induction es with
    | nil => exact fun _ => rfl
    | cons e es ih =>
      intro hnew
      rw [List.map_cons, List.mem_cons, not_or] at hnew
      rw [assign, if_neg (Ne.symm hnew.1), ih hnew.2, List.cons_append]
  exact hend d.entries h

theorem get?_erase (d : Dict κ α) (j k : κ) :
    (d.erase k).get? j = if j = k then none else d.get? j := lookup_remove j k d.entries

@[simp] theorem get?_erase_self (d : Dict κ α) (k : κ) : (d.erase k).get? k = none := by
  simp [get?_erase]

theorem get?_erase_of_ne (d : Dict κ α) {j k : κ} (h : j ≠ k) :
    (d.erase k).get? j = d.get? j := by
  simp [get?_erase, h]

theorem get?_eraseAll (d : Dict κ α) (ks : List κ) (j : κ) :
    (d.eraseAll ks).get? j = if j ∈ ks then none else d.get? j := by
  induction ks generalizing d with
  | nil => simp [eraseAll]
  | cons k ks ih =>
    have := ih (d.erase k)
    unfold eraseAll at *
    rw [List.foldl_cons, this, get?_erase]
    by_cases hj : j ∈ ks
    · simp [hj]
    · by_cases hk : j = k <;> simp [hj, hk]

theorem get?_eq_some (d : Dict κ α) (k : κ) (v : α) :
    d.get? k = some v ↔ (k, v) ∈ d.entries := lookup_eq_some d.nodup k v

theorem mem_keys (d : Dict κ α) (k : κ) : k ∈ d.keys ↔ ∃ v, d.get? k = some v := by
  unfold keys
  rw [List.mem_map]
  constructor
  · rintro ⟨⟨a, v⟩, hm, rfl⟩
    exact ⟨v, (d.get?_eq_some a v).mpr hm⟩
  · rintro ⟨v, hv⟩
    exact ⟨(k, v), (d.get?_eq_some k v).mp hv, rfl⟩

@[simp] theorem length_keys (d : Dict κ α) : d.keys.length = d.size := by simp [keys, size]

theorem keys_set (d : Dict κ α) (k : κ) (v : α) :
    (d.set k v).keys = if k ∈ d.keys then d.keys else d.keys ++ [k] := keys_assign k v d.entries

/-- A key that is there takes no new room. -/
theorem size_set (d : Dict κ α) (k : κ) (v : α) :
    (d.set k v).size = if k ∈ d.keys then d.size else d.size + 1 := by
  rw [← length_keys, keys_set]
  split <;> simp

theorem keys_erase (d : Dict κ α) (k : κ) : (d.erase k).keys = d.keys.filter (· ≠ k) := by
  show (remove k d.entries).map Prod.fst = (d.entries.map Prod.fst).filter (· ≠ k)
  rw [remove, List.filter_map]
  rfl

theorem size_erase_le (d : Dict κ α) (k : κ) : (d.erase k).size ≤ d.size :=
  List.length_filter_le _ _

theorem size_erase_lt (d : Dict κ α) {k : κ} (h : k ∈ d.keys) : (d.erase k).size < d.size := by
  rw [← length_keys, ← length_keys, keys_erase]
  exact List.length_filter_lt_length_iff_exists.mpr ⟨k, h, by simp⟩

theorem size_eraseAll_le (d : Dict κ α) (ks : List κ) : (d.eraseAll ks).size ≤ d.size := by
  induction ks generalizing d with
  | nil => exact Nat.le_refl _
  | cons k ks ih => exact Nat.le_trans (ih (d.erase k)) (size_erase_le d k)

/-! ## Items by their key -/

/-- `{key(item): item for item in items}`. -/
def index_by (key : α → κ) (items : List α) : Dict κ α :=
  items.foldl (fun d item => d.set (key item) item) empty

theorem get?_index_by {key : α → κ} {items : List α} (hdistinct : (items.map key).Nodup) (k : κ)
    (item : α) : (index_by key items).get? k = some item ↔ item ∈ items ∧ key item = k := by
  have hlast : ∀ (rows : List α) (entry : Option α),
      rows.foldl (fun _ row => some row) entry = rows.getLast?.or entry := by
    intro rows
    induction rows with
    | nil => exact fun _ => rfl
    | cons row rows ih =>
      intro entry
      rw [List.foldl_cons, ih, List.getLast?_cons]
      cases rows.getLast? <;> rfl
  have hget : (index_by key items).get? k = (items.filter (key · = k)).getLast? := by
    unfold index_by
    rw [get?_foldl_set key (fun row _ => row), hlast, get?_empty, Option.or_none]
  have hmem : ∀ {found : α}, (items.filter (key · = k)).getLast? = some found →
      found ∈ items ∧ key found = k := by
    intro found h
    simpa using List.mem_of_getLast? h
  rw [hget]
  refine ⟨hmem, ?_⟩
  rintro ⟨hitem, rfl⟩
  cases hfound : (items.filter (key · = key item)).getLast? with
  | none =>
    have hnone := List.getLast?_eq_none_iff.mp hfound
    have hin : item ∈ items.filter (key · = key item) := by simpa using hitem
    rw [hnone] at hin
    cases hin
  | some found =>
    obtain ⟨hin, hkey⟩ := hmem hfound
    rw [List.inj_on_of_nodup_map hdistinct hin hitem hkey]

theorem mem_keys_index_by {key : α → κ} {items : List α} (hdistinct : (items.map key).Nodup)
    (k : κ) : k ∈ (index_by key items).keys ↔ k ∈ items.map key := by
  rw [mem_keys, List.mem_map]
  exact exists_congr fun item => get?_index_by hdistinct k item

/-- `d.keys() - e.keys()`. -/
def keys_without (d e : Dict κ α) : List κ := d.keys.filter (· ∉ e.keys)

/-- The keys that are in both, where what the two have under the key differs. -/
def keys_where (differs : α → α → Bool) (d e : Dict κ α) : List κ :=
  d.keys.filter fun k => match d.get? k, e.get? k with
    | some v, some w => differs v w
    | _, _ => false

theorem keys_without_eq_nil {d e : Dict κ α} :
    keys_without d e = [] ↔ ∀ k ∈ d.keys, k ∈ e.keys := by
  unfold keys_without
  rw [List.filter_eq_nil_iff]
  exact forall₂_congr fun k _ => by simp

theorem keys_where_eq_nil {differs : α → α → Bool} {d e : Dict κ α} :
    keys_where differs d e = [] ↔
      ∀ k v w, d.get? k = some v → e.get? k = some w → differs v w = false := by
  unfold keys_where
  rw [List.filter_eq_nil_iff]
  constructor
  · intro h k v w hv hw
    have hk := h k ((mem_keys d k).mpr ⟨v, hv⟩)
    rw [hv, hw] at hk
    simpa using hk
  · intro h k _
    split
    · rename_i v w hv hw
      simp [h k v w hv hw]
    · simp

end Dict

end dict
