-- The chunks of a response: how far the walk over them gets, and what their
-- sorted join holds.
import TplinkDeco.TmpProtocol.Message
import Mathlib.Algebra.Order.BigOperators.Group.List
import Mathlib.Data.List.Perm.Subperm

open dict

namespace tplink_deco_api.tmp_protocol

/-! ## Any chunks -/

/-- Every chunk lies inside the first `total` bytes. -/
def Inside (chunks : Chunks) (total : Nat) : Prop :=
  ∀ offset chunk, chunks.get? offset = some chunk → offset + chunk.length ≤ total

theorem le_contiguous_loop (chunks : Chunks) (turns offset : Nat) :
    offset ≤ contiguous_loop chunks turns offset := by
  induction turns generalizing offset with
  | zero => exact Nat.le_refl offset
  | succ turns ih =>
    unfold contiguous_loop
    split
    · exact Nat.le_refl offset
    · exact Nat.le_refl offset
    · exact Nat.le_trans (Nat.le_add_right _ _) (ih _)

/-- More chunks and more turns never take the walk less far. -/
theorem contiguous_loop_mono {chunks chunks' : Chunks}
    (h : ∀ offset chunk, chunks.get? offset = some chunk → chunks'.get? offset = some chunk)
    {turns turns' : Nat} (hturns : turns ≤ turns') (offset : Nat) :
    contiguous_loop chunks turns offset ≤ contiguous_loop chunks' turns' offset := by
  induction turns generalizing turns' offset with
  | zero => exact le_contiguous_loop chunks' turns' offset
  | succ turns ih =>
    obtain ⟨turns', rfl⟩ : ∃ n, turns' = n + 1 := ⟨turns' - 1, by omega⟩
    rw [contiguous_loop]
    split
    · exact le_contiguous_loop chunks' _ offset
    · exact le_contiguous_loop chunks' _ offset
    · rename_i b bs hc
      rw [contiguous_loop, h offset _ hc]
      exact ih (by omega) _

/-- A chunk that is stored again, or for the first time, never takes the walk less far. -/
theorem contiguous_size_set_le {chunks : Chunks} {offset : Nat} {chunk : Bytes}
    (hsame : ∀ previous, chunks.get? offset = some previous → previous = chunk) :
    contiguous_size chunks ≤ contiguous_size (chunks.set offset chunk) := by
  apply contiguous_loop_mono
  · intro o c hc
    rw [Dict.get?_set]
    split
    · rename_i heq
      subst heq
      exact congrArg some (hsame c hc).symm
    · exact hc
  · rw [Dict.size_set]
    split <;> omega

/-- The walk leaves the beginning exactly if bytes are stored there. -/
theorem contiguous_size_pos_iff {chunks : Chunks} :
    0 < contiguous_size chunks ↔ ∃ chunk, chunks.get? 0 = some chunk ∧ chunk ≠ [] := by
  unfold contiguous_size
  constructor
  · intro h
    cases hsize : chunks.size with
    | zero => simp [hsize, contiguous_loop] at h
    | succ turns =>
      rw [hsize, contiguous_loop] at h
      split at h
      · exact absurd h (Nat.lt_irrefl 0)
      · exact absurd h (Nat.lt_irrefl 0)
      · rename_i b bs hc
        exact ⟨b :: bs, hc, List.cons_ne_nil b bs⟩
  · rintro ⟨chunk, hc, hne⟩
    obtain ⟨b, bs, rfl⟩ := List.exists_cons_of_ne_nil hne
    have hsize : 0 < chunks.size := by
      rw [← chunks.length_keys]
      exact List.length_pos_of_mem ((chunks.mem_keys 0).mpr ⟨_, hc⟩)
    obtain ⟨turns, hturns⟩ : ∃ n, chunks.size = n + 1 := ⟨chunks.size - 1, by omega⟩
    rw [hturns, contiguous_loop, hc]
    have := le_contiguous_loop chunks turns (0 + (b :: bs).length)
    simp only [List.length_cons] at this ⊢
    omega

theorem contiguous_loop_le {chunks : Chunks} {total : Nat} (h : Inside chunks total)
    (turns offset : Nat) (ho : offset ≤ total) : contiguous_loop chunks turns offset ≤ total := by
  induction turns generalizing offset with
  | zero => exact ho
  | succ turns ih =>
    unfold contiguous_loop
    split
    · exact ho
    · exact ho
    · rename_i b bs hc
      exact ih _ (h offset (b :: bs) hc)

theorem contiguous_size_le {chunks : Chunks} {total : Nat} (h : Inside chunks total) :
    contiguous_size chunks ≤ total :=
  contiguous_loop_le h _ 0 (Nat.zero_le total)

/-- The size of the chunk at an offset. -/
def chunkSize (chunks : Chunks) (offset : Nat) : Nat :=
  ((chunks.get? offset).getD []).length

/-- The bytes in the chunks from an offset on. -/
def sizeFrom (chunks : Chunks) (offset : Nat) : Nat :=
  ((chunks.keys.filter (offset ≤ ·)).map (chunkSize chunks)).sum

/-- The walk leaves an offset for a later one, so it counts no chunk twice. -/
theorem chunkSize_add_sizeFrom_le (chunks : Chunks) {offset later : Nat}
    (hk : offset ∈ chunks.keys) (hlt : offset < later) :
    chunkSize chunks offset + sizeFrom chunks later ≤ sizeFrom chunks offset := by
  have hsub : (offset :: chunks.keys.filter (later ≤ ·)).Subperm
      (chunks.keys.filter (offset ≤ ·)) := by
    have hnodup : (offset :: chunks.keys.filter (later ≤ ·)).Nodup := by
      rw [List.nodup_cons]
      refine ⟨?_, chunks.nodup.filter _⟩
      simp only [List.mem_filter, decide_eq_true_eq, not_and, not_le]
      exact fun _ => hlt
    refine hnodup.subperm ?_
    intro k hkm
    rcases List.mem_cons.mp hkm with rfl | hkm
    · simp [hk]
    · simp only [List.mem_filter, decide_eq_true_eq] at hkm ⊢
      exact ⟨hkm.1, by omega⟩
  obtain ⟨between, hperm, hsublist⟩ := hsub
  have heq := (hperm.map (chunkSize chunks)).sum_nat
  have hle := (hsublist.map (chunkSize chunks)).sum_le_sum fun _ _ => Nat.zero_le _
  rw [heq, List.map_cons, List.sum_cons] at hle
  exact hle

theorem contiguous_loop_le_sizeFrom (chunks : Chunks) (turns offset : Nat) :
    contiguous_loop chunks turns offset ≤ offset + sizeFrom chunks offset := by
  induction turns generalizing offset with
  | zero => exact Nat.le_add_right _ _
  | succ turns ih =>
    unfold contiguous_loop
    split
    · exact Nat.le_add_right _ _
    · exact Nat.le_add_right _ _
    · rename_i b bs hc
      have hk : offset ∈ chunks.keys := (chunks.mem_keys offset).mpr ⟨_, hc⟩
      have hlater : offset < offset + (b :: bs).length := by simp
      have hstep := chunkSize_add_sizeFrom_le chunks hk hlater
      have hsize : chunkSize chunks offset = (b :: bs).length := by simp [chunkSize, hc]
      have := ih (offset + (b :: bs).length)
      omega

theorem length_join_sorted (chunks : Chunks) :
    (join_sorted chunks).length = (chunks.keys.map (chunkSize chunks)).sum := by
  unfold join_sorted
  rw [List.length_flatMap]
  exact ((List.perm_insertionSort (· ≤ ·) chunks.keys).map _).sum_nat

/-- The join of all chunks is at least as long as the walk gets. -/
theorem contiguous_size_le_join (chunks : Chunks) :
    contiguous_size chunks ≤ (join_sorted chunks).length := by
  have h := contiguous_loop_le_sizeFrom chunks chunks.size 0
  rw [length_join_sorted]
  simpa [contiguous_size, sizeFrom] using h

/-! ## The chunks of one payload -/

/-- The pieces with their offsets, the first one at `base`. -/
def placed : Nat → List Bytes → List (Nat × Bytes)
  | _, [] => []
  | base, piece :: pieces => (base, piece) :: placed (base + piece.length) pieces

theorem placed_inside {pieces : List Bytes} {base offset : Nat} {piece : Bytes}
    (h : (offset, piece) ∈ placed base pieces) :
    base ≤ offset ∧ offset + piece.length ≤ base + pieces.flatten.length := by
  induction pieces generalizing base with
  | nil => cases h
  | cons p pieces ih =>
    rw [List.flatten_cons, List.length_append]
    rcases List.mem_cons.mp h with heq | hmem
    · cases heq
      omega
    · obtain ⟨h1, h2⟩ := ih hmem
      omega

/-- A split of a payload into consecutive pieces that are not empty. An empty payload is
one empty piece. -/
structure Split (payload : Bytes) where
  pieces : List Bytes
  whole : pieces.flatten = payload
  nonempty : if payload = [] then pieces = [[]] else ∀ piece ∈ pieces, piece ≠ []

/-- Offsets of pieces that are not empty grow. -/
theorem placed_offsets_lt {pieces : List Bytes} (hne : ∀ piece ∈ pieces, piece ≠ []) (base : Nat) :
    ((placed base pieces).map Prod.fst).Pairwise (· < ·) := by
  induction pieces generalizing base with
  | nil => exact List.Pairwise.nil
  | cons p pieces ih =>
    unfold placed
    rw [List.map_cons, List.pairwise_cons]
    refine ⟨?_, ih (fun piece hp => hne piece (List.mem_cons_of_mem p hp)) _⟩
    intro offset hmem
    obtain ⟨⟨o, piece⟩, hin, rfl⟩ := List.mem_map.mp hmem
    have hpos := List.length_pos_iff.mpr (hne p List.mem_cons_self)
    have := (placed_inside hin).1
    simp only
    omega

theorem mem_placed_unique {pieces : List Bytes} {base offset : Nat} {a b : Bytes}
    (hne : ∀ piece ∈ pieces, piece ≠ []) (ha : (offset, a) ∈ placed base pieces)
    (hb : (offset, b) ∈ placed base pieces) : a = b := by
  induction pieces generalizing base with
  | nil => cases ha
  | cons p pieces ih =>
    have hpos := List.length_pos_iff.mpr (hne p List.mem_cons_self)
    unfold placed at ha hb
    rcases List.mem_cons.mp ha with ha | ha <;> rcases List.mem_cons.mp hb with hb | hb
    · cases ha
      cases hb
      rfl
    · cases ha
      have := (placed_inside hb).1
      omega
    · cases hb
      have := (placed_inside ha).1
      omega
    · exact ih (fun piece hp => hne piece (List.mem_cons_of_mem p hp)) ha hb

/-- Every chunk is one of the pieces in its place. -/
def Only (chunks : Chunks) (placement : List (Nat × Bytes)) : Prop :=
  ∀ offset chunk, chunks.get? offset = some chunk → (offset, chunk) ∈ placement

/-- Every piece is among the chunks. -/
def Complete (chunks : Chunks) (placement : List (Nat × Bytes)) : Prop :=
  ∀ offset piece, (offset, piece) ∈ placement → chunks.get? offset = some piece

/-- The walk passes all pieces when they are all there. -/
theorem contiguous_loop_complete {chunks : Chunks} {pieces : List Bytes} {base turns : Nat}
    (hne : ∀ piece ∈ pieces, piece ≠ []) (h : Complete chunks (placed base pieces))
    (ht : pieces.length ≤ turns) :
    base + pieces.flatten.length ≤ contiguous_loop chunks turns base := by
  induction pieces generalizing base turns with
  | nil =>
    simpa using le_contiguous_loop chunks turns base
  | cons p pieces ih =>
    obtain ⟨turns, rfl⟩ : ∃ n, turns = n + 1 := ⟨turns - 1, by simp at ht; omega⟩
    obtain ⟨b, bs, rfl⟩ := List.exists_cons_of_ne_nil (hne p List.mem_cons_self)
    have hp : chunks.get? base = some (b :: bs) := h base _ List.mem_cons_self
    have hrest := ih (fun piece hm => hne piece (List.mem_cons_of_mem _ hm))
      (fun offset piece hm => h offset piece (List.mem_cons_of_mem _ hm))
      (Nat.le_of_succ_le_succ ht)
    unfold contiguous_loop
    rw [hp]
    simp only
    rw [List.flatten_cons, List.length_append]
    omega

/-- When the walk gets to the end of the pieces, they are all there. -/
theorem complete_of_contiguous_loop {chunks : Chunks} {pieces : List Bytes} {base turns : Nat}
    (hne : ∀ piece ∈ pieces, piece ≠ [])
    (honly : ∀ offset chunk, base ≤ offset → chunks.get? offset = some chunk →
      (offset, chunk) ∈ placed base pieces)
    (h : base + pieces.flatten.length ≤ contiguous_loop chunks turns base) :
    Complete chunks (placed base pieces) := by
  induction pieces generalizing base turns with
  | nil =>
    intro offset piece hm
    cases hm
  | cons p pieces ih =>
    have hpos := List.length_pos_iff.mpr (hne p List.mem_cons_self)
    rw [List.flatten_cons, List.length_append] at h
    -- The walk leaves `base`, so a piece stands there, and it can only be the first one.
    have hstep : chunks.get? base = some p ∧ ∃ n, base + p.length + pieces.flatten.length ≤
        contiguous_loop chunks n (base + p.length) := by
      cases turns with
      | zero =>
        unfold contiguous_loop at h
        omega
      | succ turns =>
        unfold contiguous_loop at h
        split at h
        · omega
        · omega
        · rename_i b bs hc
          rcases List.mem_cons.mp (honly base _ (Nat.le_refl _) hc) with heq | hmem
          · cases heq
            exact ⟨hc, turns, by omega⟩
          · have := (placed_inside hmem).1
            omega
    obtain ⟨hp, n, hn⟩ := hstep
    have hrest := ih (fun piece hm => hne piece (List.mem_cons_of_mem _ hm)) (fun offset chunk ho hc =>
      (List.mem_cons.mp (honly offset chunk (by omega) hc)).resolve_left fun heq => by
        cases heq
        omega) hn
    intro offset piece hm
    rcases List.mem_cons.mp hm with heq | hm
    · cases heq
      exact hp
    · exact hrest offset piece hm

theorem length_placed (base : Nat) (pieces : List Bytes) :
    (placed base pieces).length = pieces.length := by
  induction pieces generalizing base with
  | nil => rfl
  | cons p pieces ih => rw [placed, List.length_cons, ih, List.length_cons]

/-- The walk gets to the end of the pieces exactly when they are all there. -/
theorem le_contiguous_size_iff {chunks : Chunks} {pieces : List Bytes}
    (hne : ∀ piece ∈ pieces, piece ≠ []) (honly : Only chunks (placed 0 pieces)) :
    pieces.flatten.length ≤ contiguous_size chunks ↔ Complete chunks (placed 0 pieces) := by
  constructor
  · intro h
    exact complete_of_contiguous_loop hne (fun offset chunk _ hc => honly offset chunk hc)
      (by simpa [contiguous_size] using h)
  · intro h
    have hsub : (placed 0 pieces).map Prod.fst ⊆ chunks.keys := by
      intro offset hm
      obtain ⟨⟨o, piece⟩, hin, rfl⟩ := List.mem_map.mp hm
      exact (chunks.mem_keys o).mpr ⟨piece, h o piece hin⟩
    have hnodup : ((placed 0 pieces).map Prod.fst).Nodup :=
      (placed_offsets_lt hne 0).imp fun hab => Nat.ne_of_lt hab
    have hle := (hnodup.subperm hsub).length_le
    rw [List.length_map, length_placed, chunks.length_keys] at hle
    simpa [contiguous_size] using contiguous_loop_complete hne h hle

/-- The join of all pieces is the payload. -/
theorem join_sorted_complete {chunks : Chunks} {pieces : List Bytes}
    (hne : ∀ piece ∈ pieces, piece ≠ []) (honly : Only chunks (placed 0 pieces))
    (h : Complete chunks (placed 0 pieces)) : join_sorted chunks = pieces.flatten := by
  have hlt := placed_offsets_lt hne 0
  have hperm : chunks.keys.Perm ((placed 0 pieces).map Prod.fst) := by
    refine (List.perm_ext_iff_of_nodup chunks.nodup (hlt.imp fun hab => Nat.ne_of_lt hab)).mpr ?_
    intro offset
    constructor
    · intro hk
      obtain ⟨chunk, hc⟩ := (chunks.mem_keys offset).mp hk
      exact List.mem_map.mpr ⟨_, honly offset chunk hc, rfl⟩
    · intro hm
      obtain ⟨⟨o, piece⟩, hin, rfl⟩ := List.mem_map.mp hm
      exact (chunks.mem_keys o).mpr ⟨piece, h o piece hin⟩
  have hsorted : chunks.keys.insertionSort (· ≤ ·) = (placed 0 pieces).map Prod.fst :=
    ((List.perm_insertionSort (· ≤ ·) chunks.keys).trans hperm).eq_of_pairwise'
      (List.pairwise_insertionSort (· ≤ ·) chunks.keys) (hlt.imp fun hab => Nat.le_of_lt hab)
  have hflat : ∀ base ps, (∀ offset piece, (offset, piece) ∈ placed base ps →
      chunks.get? offset = some piece) →
      ((placed base ps).map Prod.fst).flatMap (fun index => (chunks.get? index).getD []) =
        ps.flatten := by
    intro base ps
    induction ps generalizing base with
    | nil => exact fun _ => rfl
    | cons p ps ih =>
      intro hall
      unfold placed
      rw [List.map_cons, List.flatMap_cons, hall base p List.mem_cons_self,
        ih _ fun offset piece hm => hall offset piece (List.mem_cons_of_mem _ hm)]
      rfl
  unfold join_sorted
  rw [hsorted]
  exact hflat 0 pieces h

end tplink_deco_api.tmp_protocol
