-- What one section of the idempotency store does to the records: what a purge
-- and an eviction can take, and how the first section of a call ends.
import TplinkDeco.Rest.IdempotencyStore

open dict threads

namespace tplink_deco_api.rest

open exceptions

variable {κ φ ρ τ : Type} [DecidableEq κ]

/-! ## What a section drops -/

/-- Some completed records are gone, and nothing else has changed. -/
structure Thinned (records fewer : Records κ φ ρ τ) : Prop where
  from_before : ∀ key record, fewer.get? key = some record → records.get? key = some record
  keeps_reservations : ∀ key record, records.get? key = some record → record.result = none →
    fewer.get? key = some record
  no_larger : fewer.size ≤ records.size

theorem Thinned.trans {records fewer fewest : Records κ φ ρ τ} (h : Thinned records fewer)
    (h' : Thinned fewer fewest) : Thinned records fewest where
  from_before key record hget := h.from_before key record (h'.from_before key record hget)
  keeps_reservations key record hget hnone :=
    h'.keeps_reservations key record (h.keeps_reservations key record hget hnone) hnone
  no_larger := Nat.le_trans h'.no_larger h.no_larger

variable [LinearOrder τ]

theorem mem_expired {now : τ} {records : Records κ φ ρ τ} {key : κ} :
    key ∈ (records.entries.filter fun entry => is_expired now entry.2).map Prod.fst ↔
      ∃ record, records.get? key = some record ∧ is_expired now record = true := by
  rw [List.mem_map]
  constructor
  · rintro ⟨⟨k, record⟩, hmem, rfl⟩
    obtain ⟨hentry, hexpired⟩ := List.mem_filter.mp hmem
    exact ⟨record, (records.get?_eq_some k record).mpr hentry, hexpired⟩
  · rintro ⟨record, hget, hexpired⟩
    refine ⟨(key, record), List.mem_filter.mpr ⟨?_, hexpired⟩, rfl⟩
    exact (records.get?_eq_some key record).mp hget

theorem reservation_not_expired {now : τ} {record : IdempotencyRecord φ ρ τ}
    (h : record.result = none) : is_expired now record = false := by
  simp [is_expired, h]

/-- A purge never takes a reservation, however old it is. -/
theorem purge_thins (now : τ) (records : Records κ φ ρ τ) :
    Thinned records (purge now records) where
  from_before key record hget := by
    unfold purge at hget
    rw [Dict.get?_eraseAll] at hget
    split at hget
    · cases hget
    · exact hget
  keeps_reservations key record hget hnone := by
    unfold purge
    rw [Dict.get?_eraseAll, if_neg]
    · exact hget
    · rw [mem_expired]
      rintro ⟨other, hother, hexpired⟩
      rw [hget, Option.some.injEq] at hother
      rw [← hother, reservation_not_expired hnone] at hexpired
      cases hexpired
  no_larger := Dict.size_eraseAll_le _ _

omit [DecidableEq κ] in
theorem foldl_earlier_mem (entries : List (κ × IdempotencyRecord φ ρ τ))
    (start : Option (κ × IdempotencyRecord φ ρ τ)) (b : κ × IdempotencyRecord φ ρ τ)
    (h : entries.foldl earlier start = some b) : start = some b ∨ b ∈ entries := by
  induction entries generalizing start with
  | nil => exact Or.inl h
  | cons entry entries ih =>
    rcases ih _ h with hfirst | hrest
    · unfold earlier at hfirst
      split at hfirst
      · cases hfirst
        exact Or.inr List.mem_cons_self
      · split at hfirst
        · cases hfirst
          exact Or.inr List.mem_cons_self
        · exact Or.inl hfirst
    · exact Or.inr (List.mem_cons_of_mem _ hrest)

theorem oldest_key_completed {records : Records κ φ ρ τ} {key : κ}
    (h : oldest_key records = some key) :
    ∃ record, records.get? key = some record ∧ record.result.isSome = true := by
  unfold oldest_key at h
  rw [Option.map_eq_some_iff] at h
  obtain ⟨⟨k, record⟩, hfold, rfl⟩ := h
  rcases foldl_earlier_mem _ _ _ hfold with hstart | hmem
  · cases hstart
  · obtain ⟨hentry, hdone⟩ := List.mem_filter.mp hmem
    exact ⟨record, (records.get?_eq_some k record).mpr hentry, hdone⟩

theorem evict_thins {records : Records κ φ ρ τ} {key : κ} (h : oldest_key records = some key) :
    Thinned records (records.erase key) ∧ (records.erase key).size < records.size := by
  obtain ⟨completed, hget, hdone⟩ := oldest_key_completed h
  refine ⟨⟨?_, ?_, Dict.size_erase_le _ _⟩, ?_⟩
  · intro k record hk
    rw [Dict.get?_erase] at hk
    split at hk
    · cases hk
    · exact hk
  · intro k record hk hnone
    rw [Dict.get?_erase, if_neg]
    · exact hk
    · rintro rfl
      rw [hget, Option.some.injEq] at hk
      rw [hk, hnone] at hdone
      cases hdone
  · exact Dict.size_erase_lt _ ((records.mem_keys key).mpr ⟨completed, hget⟩)

/-! ## What the first section does -/

variable [DecidableEq φ] [Zero τ] [Add τ]

/-- The three ends of the first section: the call is refused, a result comes back, or there
is room for a reservation of a key that has no record. -/
inductive Begins (store : InMemoryIdempotencyStore τ) (key : κ) (fingerprint : φ) (now : τ)
    (records : Records κ φ ρ τ) : Except PyError (Option ρ) × Records κ φ ρ τ → Prop
  | refused (e : PyError) :
      Begins store key fingerprint now records (.error e, purge now records)
  | replayed (result : ρ) (expires_at : τ)
      (found : (purge now records).get? key = some ⟨fingerprint, some result, expires_at⟩) :
      Begins store key fingerprint now records (.ok (some result), purge now records)
  | reserved (fewer : Records κ φ ρ τ) (thinned : Thinned (purge now records) fewer)
      (absent : (purge now records).get? key = none) (room : fewer.size < store.max_records) :
      Begins store key fingerprint now records (store.reserve key fingerprint now fewer)

theorem begin_execute_begins (store : InMemoryIdempotencyStore τ) (key : κ) (fingerprint : φ)
    (now : τ) {records : Records κ φ ρ τ} (hsize : records.size ≤ store.max_records) :
    Begins store key fingerprint now records (store.begin_execute key fingerprint now records) := by
  unfold InMemoryIdempotencyStore.begin_execute
  simp only
  split
  · rename_i existing hget
    split
    · exact .refused _
    · rename_i hsame
      split
      · exact .refused _
      · rename_i result hresult
        apply Begins.replayed result existing.expires_at
        rw [hget, ← hresult, ← not_not.mp hsame]
  · rename_i habsent
    split
    · split
      · exact .refused _
      · rename_i oldest holdest
        obtain ⟨hthin, hless⟩ := evict_thins holdest
        apply Begins.reserved _ hthin habsent
        have := (purge_thins now records).no_larger
        omega
    · rename_i hroom
      refine .reserved _ ⟨fun _ _ h => h, fun _ _ h _ => h, Nat.le_refl _⟩ habsent ?_
      omega

/-- A record with another fingerprint refuses the call. -/
theorem begin_execute_conflict (store : InMemoryIdempotencyStore τ) {key : κ} {fingerprint : φ}
    {now : τ} {records : Records κ φ ρ τ} {existing : IdempotencyRecord φ ρ τ}
    (hget : (purge now records).get? key = some existing)
    (hother : existing.fingerprint ≠ fingerprint) :
    store.begin_execute key fingerprint now records =
      (.error conflict_error, purge now records) := by
  unfold InMemoryIdempotencyStore.begin_execute
  simp only [hget]
  rw [if_pos hother]

/-- With room and without a record of the key, the call reserves. -/
theorem begin_execute_reserves (store : InMemoryIdempotencyStore τ) {key : κ} (fingerprint : φ)
    (now : τ) {records : Records κ φ ρ τ} (habsent : records.get? key = none)
    (hroom : records.size < store.max_records) :
    (store.begin_execute key fingerprint now records).1 = .ok none := by
  have hthin := purge_thins now records
  have hpurged : (purge now records).get? key = none := by
    cases hget : (purge now records).get? key with
    | none => rfl
    | some record =>
      have := hthin.from_before key record hget
      rw [habsent] at this
      cases this
  have hsize := hthin.no_larger
  unfold InMemoryIdempotencyStore.begin_execute
  simp only [hpurged]
  rw [if_neg (by omega)]
  rfl

end tplink_deco_api.rest
