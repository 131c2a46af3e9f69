-- Lists cut into blocks of one size, the last of which may be shorter.
import Mathlib.Tactic.Common
import Mathlib.Data.List.Basic

namespace blockwise

variable {α β : Type}

/-- The blocks, within a number of turns. -/
def cut (size : Nat) : Nat → List α → List (List α)
  | 0, _ => []
  | turns + 1, items =>
    if items = [] then [] else items.take size :: cut size turns (items.drop size)

/-- `[items[i : i + size] for i in range(0, len(items), size)]`. -/
def blocks (size : Nat) (items : List α) : List (List α) := cut size items.length items

@[simp] theorem blocks_nil (size : Nat) : blocks size ([] : List α) = [] := rfl

/-- More turns than there are items make no difference. -/
theorem cut_eq_blocks {size : Nat} (hsize : 0 < size) {turns : Nat} {items : List α}
    (h : items.length ≤ turns) : cut size turns items = blocks size items := by
  have hturns : ∀ (turns turns' : Nat) (items : List α), items.length ≤ turns →
      items.length ≤ turns' → cut size turns items = cut size turns' items := by
    intro turns
    induction turns with
    | zero =>
      intro turns' items h _
      cases List.eq_nil_of_length_eq_zero (Nat.le_zero.mp h)
      cases turns' <;> rfl
    | succ turns ih =>
      intro turns' items h h'
      cases turns' with
      | zero =>
        cases List.eq_nil_of_length_eq_zero (Nat.le_zero.mp h')
        rfl
      | succ turns' =>
        rw [cut, cut]
        by_cases hnil : items = []
        · rw [if_pos hnil, if_pos hnil]
        · have hpos := List.length_pos_iff.mpr hnil
          rw [if_neg hnil, if_neg hnil, ih turns' (items.drop size)]
          · rw [List.length_drop]
            omega
          · rw [List.length_drop]
            omega
  exact hturns turns items.length items h (Nat.le_refl _)

theorem blocks_of_ne_nil {size : Nat} (hsize : 0 < size) {items : List α} (h : items ≠ []) :
    blocks size items = items.take size :: blocks size (items.drop size) := by
  cases items with
  | nil => exact absurd rfl h
  | cons item rest =>
    show cut size (rest.length + 1) (item :: rest) = _
    rw [cut, if_neg h, cut_eq_blocks hsize]
    rw [List.length_drop, List.length_cons]
    omega

/-- A whole block in front is the first block. -/
theorem blocks_append {size : Nat} (hsize : 0 < size) {block : List α}
    (hblock : block.length = size) (items : List α) :
    blocks size (block ++ items) = block :: blocks size items := by
  have hne : block ++ items ≠ [] := by
    intro h
    rw [List.append_eq_nil_iff] at h
    rw [h.1, List.length_nil] at hblock
    omega
  rw [blocks_of_ne_nil hsize hne, List.take_left' hblock, List.drop_left' hblock]

theorem blocks_flatten {size : Nat} (hsize : 0 < size) {parts : List (List α)}
    (h : ∀ part ∈ parts, part.length = size) : blocks size parts.flatten = parts := by
  induction parts with
  | nil => rfl
  | cons part parts ih =>
    rw [List.flatten_cons, blocks_append hsize (h part List.mem_cons_self),
      ih fun other hother => h other (List.mem_cons_of_mem _ hother)]

/-- Induction over the blocks. -/
theorem blocks_induction {size : Nat} (hsize : 0 < size) {P : List α → Prop} (hnil : P [])
    (hcons : ∀ items, items ≠ [] → P (items.drop size) → P items) (items : List α) : P items := by
  have hlength : ∀ (n : Nat) (items : List α), items.length ≤ n → P items := by
    intro n
    induction n with
    | zero =>
      intro items h
      cases List.eq_nil_of_length_eq_zero (Nat.le_zero.mp h)
      exact hnil
    | succ n ih =>
      intro items h
      by_cases hne : items = []
      · rw [hne]
        exact hnil
      · have hpos := List.length_pos_iff.mpr hne
        apply hcons items hne
        apply ih
        rw [List.length_drop]
        omega
  exact hlength items.length items (Nat.le_refl _)

theorem flatten_blocks {size : Nat} (hsize : 0 < size) (items : List α) :
    (blocks size items).flatten = items := by
  induction items using blocks_induction hsize with
  | hnil => rfl
  | hcons items h ih => rw [blocks_of_ne_nil hsize h, List.flatten_cons, ih, List.take_append_drop]

theorem length_le_of_mem_blocks {size : Nat} (hsize : 0 < size) {items block : List α}
    (h : block ∈ blocks size items) : block.length ≤ size := by
  induction items using blocks_induction hsize with
  | hnil => cases h
  | hcons items hne ih =>
    rw [blocks_of_ne_nil hsize hne, List.mem_cons] at h
    rcases h with rfl | h
    · exact List.length_take_le _ _
    · exact ih h

theorem length_flatten {size : Nat} {parts : List (List α)}
    (h : ∀ part ∈ parts, part.length = size) : parts.flatten.length = parts.length * size := by
  induction parts with
  | nil => rw [List.flatten_nil, List.length_nil, List.length_nil, Nat.zero_mul]
  | cons part parts ih =>
    rw [List.flatten_cons, List.length_append, h part List.mem_cons_self,
      ih fun other hother => h other (List.mem_cons_of_mem part hother), List.length_cons,
      Nat.succ_mul, Nat.add_comm]

/-- Blocks that are all whole have a multiple of their size together. -/
theorem dvd_of_blocks {size : Nat} (hsize : 0 < size) {items : List α}
    (h : ∀ block ∈ blocks size items, block.length = size) : size ∣ items.length := by
  rw [← flatten_blocks hsize items, length_flatten h]
  exact Nat.dvd_mul_left size _

/-- The number of blocks, rounded up. -/
theorem length_blocks {size : Nat} (hsize : 0 < size) (items : List α) :
    (blocks size items).length = (items.length + (size - 1)) / size := by
  induction items using blocks_induction hsize with
  | hnil => simp [Nat.div_eq_of_lt (by omega : size - 1 < size)]
  | hcons items hne ih =>
    have hpos := List.length_pos_iff.mpr hne
    rw [blocks_of_ne_nil hsize hne, List.length_cons, ih, List.length_drop]
    by_cases hle : items.length ≤ size
    · rw [Nat.sub_eq_zero_of_le hle, Nat.zero_add, Nat.div_eq_of_lt (by omega),
        Nat.div_eq_of_lt_le (k := 1) (by omega) (by omega)]
    · rw [← Nat.add_div_right _ hsize]
      congr 1
      omega

end blockwise
