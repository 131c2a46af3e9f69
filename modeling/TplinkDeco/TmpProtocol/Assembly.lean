-- The response that is assembled from slices of one payload, which may overlap. The join
-- of all chunks is the payload exactly if the payload repeats each slice where the join puts it.
import TplinkDeco.TmpProtocol.PullDiscipline

open bytes dict prog segments

namespace tplink_deco_api.tmp_protocol

open exceptions

/-! ## A flattened list against a whole -/

theorem take_eq_iff {α : Type} {whole joined : List α} :
    joined.take whole.length = whole ↔ ∀ t, t < whole.length → joined[t]? = whole[t]? := by
  constructor
  · intro heq t ht
    rw [← List.getElem?_take_of_lt ht, heq]
  · intro hall
    apply List.ext_getElem?
    intro t
    by_cases ht : t < whole.length
    · rw [List.getElem?_take_of_lt ht]
      exact hall t ht
    · rw [List.getElem?_eq_none (by simp; omega), List.getElem?_eq_none (by omega)]

/-- The flattened pieces agree with the whole from `base` on if each piece agrees with it
where the pieces before it end. -/
theorem flatten_agrees_iff {α : Type} (whole : List α) (pieces : List (List α)) (base : Nat) :
    (∀ t, t < pieces.flatten.length → base + t < whole.length →
        pieces.flatten[t]? = whole[base + t]?) ↔
      ∀ before piece after, pieces = before ++ piece :: after → ∀ t, t < piece.length →
        base + before.flatten.length + t < whole.length →
          piece[t]? = whole[base + before.flatten.length + t]? := by
  induction pieces generalizing base with
  | nil => simp
  | cons first rest ih =>
    have hsplit : (∀ t, t < (first :: rest).flatten.length → base + t < whole.length →
          (first :: rest).flatten[t]? = whole[base + t]?) ↔
        (∀ t, t < first.length → base + t < whole.length → first[t]? = whole[base + t]?) ∧
          ∀ t, t < rest.flatten.length → base + first.length + t < whole.length →
            rest.flatten[t]? = whole[base + first.length + t]? := by
      rw [List.flatten_cons, List.length_append]
      constructor
      · intro h
        refine ⟨fun t ht hb => ?_, fun t ht hb => ?_⟩
        · rw [← h t (by omega) hb, List.getElem?_append_left ht]
        · have := h (first.length + t) (by omega) (by omega)
          rw [List.getElem?_append_right (by omega), Nat.add_sub_cancel_left] at this
          rw [this, Nat.add_assoc]
      · rintro ⟨hfirst, hrest⟩ t ht hb
        by_cases hlt : t < first.length
        · rw [List.getElem?_append_left hlt]
          exact hfirst t hlt hb
        · rw [List.getElem?_append_right (by omega), hrest (t - first.length) (by omega) (by omega)]
          congr 1
          omega
    rw [hsplit, ih]
    constructor
    · rintro ⟨hfirst, hrest⟩ before piece after heq t ht hb
      cases before with
      | nil =>
        cases heq
        simpa using hfirst t ht (by simpa using hb)
      | cons b before =>
        cases heq
        simp only [List.flatten_cons, List.length_append, ← Nat.add_assoc] at hb ⊢
        exact hrest before piece after rfl t ht hb
    · intro h
      refine ⟨fun t ht hb => ?_, fun before piece after heq t ht hb => ?_⟩
      · simpa using h [] first rest rfl t ht (by simpa using hb)
      · have := h (first :: before) piece after (by rw [heq]; rfl) t ht
        simp only [List.flatten_cons, List.length_append, ← Nat.add_assoc] at this
        exact this hb

/-! ## Where the join puts a chunk -/

/-- The bytes in the chunks before an offset: there the join puts the chunk at it. -/
def landing (chunks : Chunks) (offset : Nat) : Nat :=
  ((chunks.keys.filter (· < offset)).map (chunkSize chunks)).sum

theorem landing_add_sizeFrom (chunks : Chunks) (offset : Nat) :
    landing chunks offset + sizeFrom chunks offset = (join_sorted chunks).length := by
  rw [length_join_sorted]
  unfold landing sizeFrom
  have hperm := List.filter_append_perm (· < offset) chunks.keys
  have hrest : chunks.keys.filter (fun k => !decide (k < offset)) =
      chunks.keys.filter (offset ≤ ·) := by
    apply List.filter_congr
    intro k _
    rw [← decide_not, decide_eq_decide, not_lt]
  rw [hrest] at hperm
  rw [← (hperm.map (chunkSize chunks)).sum_nat, List.map_append, List.sum_append]

/-- The chunks before an offset, in the order of the join. -/
theorem landing_of_sorted {chunks : Chunks} {before after : List Nat} {offset : Nat}
    (h : chunks.keys.insertionSort (· ≤ ·) = before ++ offset :: after) :
    landing chunks offset = (before.map (chunkSize chunks)).sum := by
  have hperm := List.perm_insertionSort (· ≤ ·) chunks.keys
  have hsorted := List.pairwise_insertionSort (· ≤ ·) chunks.keys
  have hnodup := hperm.nodup_iff.mpr chunks.nodup
  rw [h] at hperm hsorted hnodup
  have hlt : (before ++ offset :: after).Pairwise (· < ·) :=
    (hsorted.and hnodup).imp fun hab => by omega
  have hfilter : (before ++ offset :: after).filter (· < offset) = before := by
    obtain ⟨-, hafter, hbefore⟩ := List.pairwise_append.mp hlt
    rw [List.filter_append, List.filter_eq_self.mpr, List.filter_eq_nil_iff.mpr, List.append_nil]
    · intro k hk
      rcases List.mem_cons.mp hk with rfl | hk
      · simp
      · have := (List.pairwise_cons.mp hafter).1 k hk
        simp
        omega
    · intro k hk
      simpa using hbefore k hk offset List.mem_cons_self
  unfold landing
  rw [← ((hperm.filter _).map (chunkSize chunks)).sum_nat, hfilter]

/-- The join agrees with the whole exactly if each chunk agrees with it where it lands. -/
theorem join_sorted_agrees_iff {chunks : Chunks} {whole : Bytes}
    (h : whole.length ≤ (join_sorted chunks).length) :
    (join_sorted chunks).take whole.length = whole ↔
      ∀ offset chunk, chunks.get? offset = some chunk → ∀ t, t < chunk.length →
        landing chunks offset + t < whole.length →
          chunk[t]? = whole[landing chunks offset + t]? := by
  let chunk_at := fun offset => (chunks.get? offset).getD []
  have hjoin : join_sorted chunks =
      ((chunks.keys.insertionSort (· ≤ ·)).map chunk_at).flatten := by
    unfold join_sorted
    rw [List.flatMap_def]
  have hlength : ∀ before : List Nat, (before.map chunk_at).flatten.length =
      (before.map (chunkSize chunks)).sum := by
    intro before
    rw [List.length_flatten, List.map_map]
    rfl
  have hagrees := flatten_agrees_iff whole ((chunks.keys.insertionSort (· ≤ ·)).map chunk_at) 0
  rw [← hjoin] at hagrees
  rw [take_eq_iff]
  simp only [Nat.zero_add] at hagrees
  constructor
  · intro hall offset chunk hc t ht hb
    have hmem : offset ∈ chunks.keys.insertionSort (· ≤ ·) :=
      (List.perm_insertionSort (· ≤ ·) chunks.keys).mem_iff.mpr
        ((chunks.mem_keys offset).mpr ⟨chunk, hc⟩)
    obtain ⟨before, after, hsplit⟩ := List.append_of_mem hmem
    have hland := landing_of_sorted hsplit
    rw [hland, ← hlength] at hb ⊢
    have hat : chunk_at offset = chunk := by simp [chunk_at, hc]
    have := hagrees.mp (fun t _ hb => hall t hb) (before.map chunk_at) (chunk_at offset)
      (after.map chunk_at) (by rw [hsplit]; simp) t
    rw [hat] at this
    exact this ht hb
  · intro hall
    have := hagrees.mpr (fun before piece after heq t ht hb => ?_)
    · exact fun t ht => this t (by omega) ht
    obtain ⟨ks, rest, hsplit, rfl, hrest⟩ := List.map_eq_append_iff.mp heq
    obtain ⟨offset, ks', rfl, rfl, rfl⟩ := List.map_eq_cons_iff.mp hrest
    have hmem : offset ∈ chunks.keys := by
      rw [← (List.perm_insertionSort (· ≤ ·) chunks.keys).mem_iff, hsplit]
      simp
    obtain ⟨chunk, hc⟩ := (chunks.mem_keys offset).mp hmem
    have hat : chunk_at offset = chunk := by simp [chunk_at, hc]
    have hland := landing_of_sorted hsplit
    rw [hat] at ht ⊢
    rw [hlength, ← hland] at hb ⊢
    exact hall offset chunk hc t ht hb

/-! ## Slices of one payload -/

/-- A data message that brings a slice of the payload. -/
structure Slices (opcode transaction_id : Nat) (payload : Bytes) (m : Message) : Prop where
  data : IsData opcode transaction_id m
  total_size : m.total_size = payload.length
  payload_checksum : m.payload_checksum = checksum payload
  inside : m.offset + m.chunk.length ≤ payload.length
  slice : m.chunk = (payload.drop m.offset).take m.chunk.length

/-- The variables of an exchange after turns of its loop whose data messages all bring slices
of one payload. -/
inductive Reached (opcode transaction_id payload_size : Nat) (payload : Bytes) : Reply → Prop
  | start (pull_sent : Bool) : Reached opcode transaction_id payload_size payload { pull_sent }
  | turn {reply reply' : Reply} {m : Option Message} {w w' : Wire}
      (before : Reached opcode transaction_id payload_size payload reply)
      (honest : ∀ m', m = some m' → IsData opcode transaction_id m' →
        Slices opcode transaction_id payload m')
      (goes_on : treat_message opcode transaction_id payload_size reply m w = (.ok (.inl reply'), w')) :
      Reached opcode transaction_id payload_size payload reply'

/-- Every chunk is a slice of the payload. -/
def Sliced (payload : Bytes) (chunks : Chunks) : Prop :=
  ∀ offset chunk, chunks.get? offset = some chunk → offset + chunk.length ≤ payload.length ∧
    chunk = (payload.drop offset).take chunk.length

/-- The payload repeats each of its slices where the join puts it. -/
def Repeats (payload : Bytes) (chunks : Chunks) : Prop :=
  ∀ offset chunk, chunks.get? offset = some chunk → ∀ t, t < chunk.length →
    landing chunks offset + t < payload.length →
      payload[offset + t]? = payload[landing chunks offset + t]?

variable {opcode transaction_id payload_size : Nat} {payload : Bytes}

theorem Sliced.accept {reply reply' : Reply} {m : Message} (h : Sliced payload reply.chunks)
    (hm : Slices opcode transaction_id payload m) (ha : Accepted reply m reply') :
    Sliced payload reply'.chunks := by
  rw [ha.stored]
  intro offset chunk hc
  rw [Dict.get?_set] at hc
  split at hc
  · rename_i heq
    cases hc
    rw [heq]
    exact ⟨hm.inside, hm.slice⟩
  · exact h offset chunk hc

theorem answer_or_pull_goes_on {total sum : Nat} {reply reply' : Reply} {w w' : Wire}
    (h : answer_or_pull opcode transaction_id total sum reply w = (.ok (.inl reply'), w')) :
    reply'.chunks = reply.chunks := by
  have hfinish : ∀ response,
      (Prog.lift (finish sum response) : StreamM _) w ≠ (.ok (.inl reply'), w') := by
    intro response hrun
    unfold finish at hrun
    split at hrun <;> cases hrun
  unfold answer_or_pull at h
  split at h
  · exact (hfinish _ h).elim
  split at h
  · exact (hfinish _ h).elim
  split at h
  · obtain ⟨_, w₁, -, h⟩ := Prog.bind_eq_ok h
    cases h
    rfl
  · cases h
    rfl

/-- A turn that goes on stores the chunk of a data message, or no chunk. -/
theorem treat_message_goes_on {reply reply' : Reply} {m : Option Message} {w w' : Wire}
    (h : treat_message opcode transaction_id payload_size reply m w = (.ok (.inl reply'), w')) :
    reply'.chunks = reply.chunks ∨ ∃ m' reply'', m = some m' ∧ IsData opcode transaction_id m' ∧
      Accepted reply m' reply'' ∧ reply'.chunks = reply''.chunks := by
  have hstay : ∀ (last : Reply) (w : Wire), last.chunks = reply.chunks →
      (pure (.inl last) : StreamM (Reply ⊕ Bytes)) w = (.ok (.inl reply'), w') →
        reply'.chunks = reply.chunks := by
    rintro last w hl hrun
    cases hrun
    exact hl
  cases m with
  | none => exact Or.inl (hstay reply w rfl h)
  | some m =>
    unfold treat_message at h
    simp only at h
    split at h
    · exact Or.inl (hstay reply w rfl h)
    rename_i hown
    split at h
    · cases h
    rename_i herr
    split at h
    · split at h
      · obtain ⟨_, w₁, -, h⟩ := Prog.bind_eq_ok h
        exact Or.inl (hstay { reply with pull_sent := true } w₁ rfl h)
      · exact Or.inl (hstay reply w rfl h)
    split at h
    · exact Or.inl (hstay reply w rfl h)
    rename_i hflag
    right
    obtain ⟨⟨total, sum, reply''⟩, w₁, hacc, h⟩ := Prog.bind_eq_ok h
    have haccepted : accept_chunk reply m = .ok (total, sum, reply'') := by
      cases hc : accept_chunk reply m with
      | ok accepted =>
        rw [hc] at hacc
        cases hacc
        rfl
      | error e =>
        rw [hc] at hacc
        cases hacc
    refine ⟨m, reply'', rfl, ?_, (accept_chunk_ok.mp haccepted).2.2, ?_⟩
    · rw [not_or, not_not, not_not] at hown
      exact ⟨hown.1, hown.2, not_not.mp herr, not_not.mp hflag⟩
    · by_cases hpush : m.flag = PUSH
      · simp only [hpush, if_true] at h
        obtain ⟨_, w₂, -, h⟩ := Prog.bind_eq_ok h
        obtain ⟨_, w₃, -, h⟩ := Prog.bind_eq_ok h
        exact answer_or_pull_goes_on h
      · simp only [hpush, if_false] at h
        exact answer_or_pull_goes_on h

theorem Reached.sliced {reply : Reply}
    (h : Reached opcode transaction_id payload_size payload reply) :
    Sliced payload reply.chunks := by
  induction h with
  | start pull_sent =>
    intro offset chunk hc
    cases hc
  | turn before honest goes_on ih =>
    rcases treat_message_goes_on goes_on with hsame | ⟨m', reply'', hm, hdata, ha, hsame⟩
    · rw [hsame]
      exact ih
    · rw [hsame]
      exact ih.accept (honest m' hm hdata) ha

/-! ## The assembled response -/

/-- A slice that agrees with the payload where it lands is one that the payload repeats there. -/
theorem Sliced.repeats_iff {chunks : Chunks} (h : Sliced payload chunks) :
    Repeats payload chunks ↔ ∀ offset chunk, chunks.get? offset = some chunk →
      ∀ t, t < chunk.length → landing chunks offset + t < payload.length →
        chunk[t]? = payload[landing chunks offset + t]? := by
  have hbyte : ∀ offset chunk, chunks.get? offset = some chunk → ∀ t, t < chunk.length →
      chunk[t]? = payload[offset + t]? := by
    intro offset chunk hc t ht
    rw [(h offset chunk hc).2, List.getElem?_take_of_lt ht, List.getElem?_drop]
  constructor
  · intro hrep offset chunk hc t ht hb
    rw [hbyte offset chunk hc t ht, hrep offset chunk hc t ht hb]
  · intro hall offset chunk hc t ht hb
    rw [← hbyte offset chunk hc t ht, hall offset chunk hc t ht hb]

/-- No chunk reaches into another one. -/
def Disjoint (chunks : Chunks) : Prop :=
  ∀ offset chunk later, chunks.get? offset = some chunk → later ∈ chunks.keys → offset < later →
    offset + chunk.length ≤ later

/-- Chunks that lie between two bounds and do not overlap have no more bytes than fit there. -/
theorem sum_chunkSize_le {chunks : Chunks} (hdisjoint : Disjoint chunks) {ks : List Nat}
    (hsorted : ks.Pairwise (· < ·)) {lower upper : Nat} (hle : lower ≤ upper)
    (hks : ∀ k ∈ ks, k ∈ chunks.keys ∧ lower ≤ k ∧ k + chunkSize chunks k ≤ upper) :
    lower + (ks.map (chunkSize chunks)).sum ≤ upper := by
  induction ks generalizing lower with
  | nil => exact hle
  | cons k ks ih =>
    obtain ⟨hk, hlower, hupper⟩ := hks k List.mem_cons_self
    obtain ⟨hlater, hrest⟩ := List.pairwise_cons.mp hsorted
    have hnext := ih hrest hupper fun k' hk' => by
      obtain ⟨hmem, -, hin⟩ := hks k' (List.mem_cons_of_mem k hk')
      obtain ⟨chunk, hc⟩ := (chunks.mem_keys k).mp hk
      refine ⟨hmem, ?_, hin⟩
      have := hdisjoint k chunk k' hc hmem (hlater k' hk')
      simpa [chunkSize, hc] using this
    rw [List.map_cons, List.sum_cons]
    omega

/-- The same for the chunks that a filter keeps. -/
theorem sum_filter_chunkSize_le {chunks : Chunks} (hdisjoint : Disjoint chunks) (keep : Nat → Bool)
    {lower upper : Nat} (hle : lower ≤ upper) (hks : ∀ k ∈ chunks.keys, keep k = true →
      lower ≤ k ∧ k + chunkSize chunks k ≤ upper) :
    lower + ((chunks.keys.filter keep).map (chunkSize chunks)).sum ≤ upper := by
  have hperm := List.perm_insertionSort (· ≤ ·) (chunks.keys.filter keep)
  have hsorted := List.pairwise_insertionSort (· ≤ ·) (chunks.keys.filter keep)
  have hnodup := hperm.nodup_iff.mpr (chunks.nodup.filter _)
  have hlt := (hsorted.and hnodup).imp (S := (· < ·)) fun hab => by omega
  rw [← (hperm.map (chunkSize chunks)).sum_nat]
  apply sum_chunkSize_le hdisjoint hlt hle
  intro k hk
  obtain ⟨hmem, hkeep⟩ := List.mem_filter.mp (hperm.mem_iff.mp hk)
  exact ⟨hmem, hks k hmem hkeep⟩

/-- Where no chunk reaches into another one and the walk passes them all, each lands at its
offset. -/
theorem landing_eq_of_disjoint {chunks : Chunks} {total : Nat} (hinside : Inside chunks total)
    (hdisjoint : Disjoint chunks) (hall : total ≤ contiguous_size chunks) {offset : Nat}
    (hk : offset ∈ chunks.keys) : landing chunks offset = offset := by
  have hin : ∀ k ∈ chunks.keys, k + chunkSize chunks k ≤ total := by
    intro k hk
    obtain ⟨chunk, hc⟩ := (chunks.mem_keys k).mp hk
    simpa [chunkSize, hc] using hinside k chunk hc
  have hbefore : 0 + landing chunks offset ≤ offset := by
    apply sum_filter_chunkSize_le hdisjoint _ (Nat.zero_le offset)
    intro k hmem hlt
    obtain ⟨chunk, hc⟩ := (chunks.mem_keys k).mp hmem
    refine ⟨Nat.zero_le k, ?_⟩
    simpa [chunkSize, hc] using hdisjoint k chunk offset hc hk (of_decide_eq_true hlt)
  have hafter : offset + sizeFrom chunks offset ≤ total := by
    apply sum_filter_chunkSize_le hdisjoint _ ((Nat.le_add_right _ _).trans (hin offset hk))
    exact fun k hmem hle => ⟨of_decide_eq_true hle, hin k hmem⟩
  have hlength := landing_add_sizeFrom chunks offset
  have hjoin := contiguous_size_le_join chunks
  omega

/-- Slices that do not overlap are assembled to the payload. -/
theorem repeats_of_disjoint {chunks : Chunks} (h : Sliced payload chunks)
    (hdisjoint : Disjoint chunks) (hall : payload.length ≤ contiguous_size chunks) :
    Repeats payload chunks := by
  intro offset chunk hc t _ _
  rw [landing_eq_of_disjoint (fun o c hoc => (h o c hoc).1) hdisjoint hall
    ((chunks.mem_keys offset).mpr ⟨chunk, hc⟩)]

/-- When the walk over the slices gets to the end of the payload, the assembled response is
the payload, and the exchange gives it, exactly if the payload repeats each slice where the
join puts it. -/
theorem assembly_holds_exactly {reply reply' : Reply} {m : Message} {total sum : Nat}
    (hr : Reached opcode transaction_id payload_size payload reply)
    (hm : Slices opcode transaction_id payload m)
    (hacc : accept_chunk reply m = .ok (total, sum, reply'))
    (hall : payload.length ≤ contiguous_size reply'.chunks) :
    ((join_sorted reply'.chunks).take payload.length = payload ↔ Repeats payload reply'.chunks) ∧
      ∀ w, answer_or_pull opcode transaction_id total sum reply' w = (.ok (.inr payload), w) ↔
        Repeats payload reply'.chunks := by
  obtain ⟨htotal, hsum, ha⟩ := accept_chunk_ok.mp hacc
  have hsliced := hr.sliced.accept hm ha
  have hjoin : (join_sorted reply'.chunks).take payload.length = payload ↔
      Repeats payload reply'.chunks := by
    rw [hsliced.repeats_iff]
    exact join_sorted_agrees_iff (hall.trans (contiguous_size_le_join _))
  refine ⟨hjoin, fun w => ?_⟩
  rw [← hjoin, htotal, hsum, hm.total_size, hm.payload_checksum]
  unfold answer_or_pull
  by_cases hempty : payload.length = 0
  · rw [List.eq_nil_of_length_eq_zero hempty]
    simp [finish]
  simp only [hempty, hall, if_false, if_true]
  constructor
  · intro hrun
    cases hf : finish (checksum payload) ((join_sorted reply'.chunks).take payload.length) with
    | error e =>
      rw [hf] at hrun
      cases hrun
    | ok x =>
      obtain ⟨rfl, -⟩ := finish_ok hf
      rw [hf] at hrun
      simpa using hrun
  · intro heq
    rw [heq]
    simp [finish]

/-- One of the slices of `1, 2, 3, 4`. -/
def slice_message (offset : Nat) (chunk : Bytes) : Message where
  opcode := 0x4014
  flag := PULL_ACK
  error := 0
  transaction_id := 1
  payload_checksum := 3057449933
  total_size := 4
  offset := offset
  control := DATA
  chunk := chunk

/-- The variables after the second half of the payload, and after both. -/
def half_reply : Reply where
  pull_sent := true
  chunks := Dict.empty.set 2 [3, 4]
  expected := some (4, 3057449933)

def whole_reply : Reply :=
  { half_reply with chunks := (Dict.empty.set 2 [3, 4]).set 0 [1, 2] }

theorem slice_message_slices {offset : Nat} {chunk : Bytes} (hin : offset + chunk.length ≤ 4)
    (hslice : chunk = ([1, 2, 3, 4].drop offset).take chunk.length) :
    Slices 0x4014 1 [1, 2, 3, 4] (slice_message offset chunk) :=
  ⟨⟨rfl, rfl, rfl, Or.inr rfl⟩, rfl, (by decide +kernel : 3057449933 = checksum [1, 2, 3, 4]), hin,
    hslice⟩

/-- Two slices that do not overlap are assembled, the second half of the payload first. -/
theorem two_slices_assemble :
    (join_sorted whole_reply.chunks).take 4 = [1, 2, 3, 4] ∧
      ∀ w, answer_or_pull 0x4014 1 4 3057449933 whole_reply w = (.ok (.inr [1, 2, 3, 4]), w) := by
  have hreached : Reached 0x4014 1 0 [1, 2, 3, 4] half_reply := by
    refine .turn (m := some (slice_message 2 [3, 4]))
      (w := { arrivals := [], clock := fun _ => 0 }) (.start true) ?_ rfl
    rintro _ ⟨rfl⟩ -
    exact slice_message_slices (by decide) rfl
  have hm : Slices 0x4014 1 [1, 2, 3, 4] (slice_message 0 [1, 2]) :=
    slice_message_slices (by decide) rfl
  have hacc : accept_chunk half_reply (slice_message 0 [1, 2]) =
      .ok (4, 3057449933, whole_reply) := rfl
  have hall : 4 ≤ contiguous_size whole_reply.chunks := by decide
  obtain ⟨hjoin, hanswer⟩ := assembly_holds_exactly hreached hm hacc hall
  have hsliced : Sliced [1, 2, 3, 4] whole_reply.chunks :=
    hreached.sliced.accept hm (accept_chunk_ok.mp hacc).2.2
  have hdisjoint : Disjoint whole_reply.chunks := by
    intro offset chunk later hc hlater hlt
    have hentry : (offset, chunk) ∈ [(2, [3, 4]), (0, [1, 2])] := (Dict.get?_eq_some _ _ _).mp hc
    have hkey : later ∈ [2, 0] := hlater
    simp only [List.mem_cons, Prod.mk.injEq, List.not_mem_nil, or_false] at hentry hkey
    rcases hentry with ⟨rfl, rfl⟩ | ⟨rfl, rfl⟩
    · omega
    · simp only [List.length_cons, List.length_nil]
      omega
  have hrepeats := repeats_of_disjoint hsliced hdisjoint hall
  exact ⟨hjoin.mpr hrepeats, fun w => (hanswer w).mpr hrepeats⟩

/-- A session whose router repeats the middle of its response with another chunk size. -/
def retold : TmpAppV2Session where
  stream := {
    arrivals := [
      .data [1, 1, 5, 0, 0, 22, 0, 0, 0, 0, 0, 0, 151, 192, 119, 228, 1, 2, 64, 20, 5, 0, 0, 1,
        182, 60, 251, 205, 0, 0, 0, 4, 0, 0, 0, 0, 1, 2],
      .data [1, 1, 5, 0, 0, 22, 0, 0, 0, 0, 0, 0, 202, 40, 126, 134, 1, 2, 64, 20, 5, 0, 0, 1,
        182, 60, 251, 205, 0, 0, 0, 4, 0, 0, 0, 1, 2, 3],
      .data [1, 1, 5, 0, 0, 22, 0, 0, 0, 0, 0, 0, 79, 17, 100, 61, 1, 2, 64, 20, 5, 0, 0, 1,
        182, 60, 251, 205, 0, 0, 0, 4, 0, 0, 0, 2, 3, 4]]
    clock := fun _ => 0 }
  timeout := 8

/-- Every message is a slice of `1, 2, 3, 4` and the walk gets to its end, but the join holds
the byte 2 twice, and the exchange raises. -/
theorem an_overlap_is_rejected :
    messages (exchange 0x4014 [] retold).2.stream.reads =
        [slice_message 0 [1, 2], slice_message 1 [2, 3], slice_message 2 [3, 4]] ∧
      (∀ m ∈ messages (exchange 0x4014 [] retold).2.stream.reads,
        Slices 0x4014 1 [1, 2, 3, 4] m) ∧
      contiguous_size (((Dict.empty.set 0 [1, 2]).set 1 [2, 3]).set 2 [3, 4]) = 4 ∧
      (join_sorted (((Dict.empty.set 0 [1, 2]).set 1 [2, 3]).set 2 [3, 4])).take 4 =
        [1, 2, 2, 3] ∧
      (exchange 0x4014 [] retold).1.error =
        some (exchange_error "response payload checksum mismatch") := by
  have hmessages : messages (exchange 0x4014 [] retold).2.stream.reads =
      [slice_message 0 [1, 2], slice_message 1 [2, 3], slice_message 2 [3, 4]] := by
    decide +kernel
  refine ⟨hmessages, ?_, by decide, by decide, by decide +kernel⟩
  rw [hmessages]
  intro m hm
  simp only [List.mem_cons, List.not_mem_nil, or_false] at hm
  rcases hm with rfl | rfl | rfl
  · exact slice_message_slices (by decide) rfl
  · exact slice_message_slices (by decide) rfl
  · exact slice_message_slices (by decide) rfl

end tplink_deco_api.tmp_protocol
