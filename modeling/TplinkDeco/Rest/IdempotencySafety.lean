-- What holds of one idempotency store whatever the order in which its threads
-- take the lock: the bound of the records, one run for each key, and replays of
-- the last success (docs/rest.md).
import Mathlib.Algebra.GroupWithZero.Nat
import TplinkDeco.Rest.IdempotencySections

open dict threads

namespace tplink_deco_api.rest

open exceptions

variable {κ φ ρ τ : Type} [DecidableEq κ]

/-! ## The running calls -/

/-- The key and the fingerprint that a thread has reserved, until the section after its
operation. -/
def Call.holding : Call κ φ ρ → Option (κ × φ)
  | .idle => none
  | .operating key fingerprint => some (key, fingerprint)
  | .failed key fingerprint _ => some (key, fingerprint)
  | .succeeded key fingerprint _ => some (key, fingerprint)

/-- A section after which the thread holds nothing new leaves no new holder. -/
theorem holding_before {p : Pool (Shared κ φ ρ τ) (Call κ φ ρ)} {t i : Nat}
    {s : Shared κ φ ρ τ} {own : Call κ φ ρ} {x : κ × φ}
    (hown : own.holding = none ∨ own.holding = (p.thread t).holding)
    (h : ((p.put t s own).thread i).holding = some x) : (p.thread i).holding = some x := by
  by_cases hi : i = t
  · subst hi
    rw [put_same] at h
    rcases hown with hnone | hsame
    · rw [hnone] at h
      cases h
    · rw [← hsame]
      exact h
  · rw [put_other p s own hi] at h
    exact h

theorem other_of_idle {p : Pool (Shared κ φ ρ τ) (Call κ φ ρ)} {t i : Nat}
    {s : Shared κ φ ρ τ} {x : κ × φ}
    (h : ((p.put t s .idle).thread i).holding = some x) : i ≠ t := by
  rintro rfl
  rw [put_same] at h
  cases h

theorem ended_before {p : Pool (Shared κ φ ρ τ) (Call κ φ ρ)} {t i : Nat}
    {s : Shared κ φ ρ τ} {own : Call κ φ ρ} {key : κ} {fingerprint : φ} {result : ρ}
    (hown : ∀ result, own ≠ .succeeded key fingerprint result)
    (h : (p.put t s own).thread i = .succeeded key fingerprint result) :
    p.thread i = .succeeded key fingerprint result := by
  by_cases hi : i = t
  · subst hi
    rw [put_same] at h
    exact absurd h (hown result)
  · rw [put_other p s own hi] at h
    exact h

/-! ## The history -/

variable [DecidableEq φ]

def Event.successOf (key : κ) (fingerprint : φ) : Event κ φ ρ → Option ρ
  | .succeeded k f result => if k = key ∧ f = fingerprint then some result else none
  | _ => none

/-- What the latest successful operation of the key and the fingerprint gave. -/
def lastSuccess (key : κ) (fingerprint : φ) (h : List (Nat × Event κ φ ρ)) : Option ρ :=
  h.foldl (fun latest e => (e.2.successOf key fingerprint).or latest) none

theorem lastSuccess_concat (key : κ) (fingerprint : φ) (h : List (Nat × Event κ φ ρ)) (t : Nat)
    (e : Event κ φ ρ) :
    lastSuccess key fingerprint (h ++ [(t, e)]) =
      (e.successOf key fingerprint).or (lastSuccess key fingerprint h) := by
  unfold lastSuccess
  rw [List.foldl_append]
  rfl

theorem lastSuccess_unmoved {key : κ} {fingerprint : φ} {h : List (Nat × Event κ φ ρ)} {t : Nat}
    {e : Event κ φ ρ} (he : e.successOf key fingerprint = none) :
    lastSuccess key fingerprint (h ++ [(t, e)]) = lastSuccess key fingerprint h := by
  rw [lastSuccess_concat, he]
  rfl

/-- What a replay gives is what the latest success before it gave. -/
def ReplaysMatch (h : List (Nat × Event κ φ ρ)) : Prop :=
  ∀ before t key fingerprint result after,
    h = before ++ (t, .replayed key fingerprint result) :: after →
      lastSuccess key fingerprint before = some result

theorem ReplaysMatch.concat {h : List (Nat × Event κ φ ρ)} {t : Nat} {e : Event κ φ ρ}
    (hh : ReplaysMatch h)
    (he : ∀ key fingerprint result, e = .replayed key fingerprint result →
      lastSuccess key fingerprint h = some result) : ReplaysMatch (h ++ [(t, e)]) := by
  intro before i key fingerprint result after heq
  rcases List.eq_nil_or_concat after with hnil | ⟨rest, last, hlast⟩
  · subst hnil
    obtain ⟨hbefore, hlast⟩ := List.append_inj' heq rfl
    cases hlast
    rw [← hbefore]
    exact he key fingerprint result rfl
  · subst hlast
    rw [List.concat_eq_append, ← List.cons_append, ← List.append_assoc] at heq
    exact hh before i key fingerprint result rest (List.append_inj' heq rfl).1

/-! ## The invariant -/

variable [LinearOrder τ] [Zero τ]

/-- What holds between two sections. The records of the running calls are there, no two
running calls have one key, and a completed record has the latest success. -/
structure Safe (store : InMemoryIdempotencyStore τ)
    (p : Pool (Shared κ φ ρ τ) (Call κ φ ρ)) (h : List (Nat × Event κ φ ρ)) : Prop where
  within : p.shared.records.size ≤ store.max_records
  reserved : ∀ i key fingerprint, (p.thread i).holding = some (key, fingerprint) →
    ∃ expires_at, p.shared.records.get? key = some ⟨fingerprint, none, expires_at⟩
  alone : ∀ i j key f g, (p.thread i).holding = some (key, f) →
    (p.thread j).holding = some (key, g) → i = j
  completed : ∀ key fingerprint result expires_at,
    p.shared.records.get? key = some ⟨fingerprint, some result, expires_at⟩ →
      lastSuccess key fingerprint h = some result
  ended : ∀ i key fingerprint result, p.thread i = .succeeded key fingerprint result →
    lastSuccess key fingerprint h = some result
  replays : ReplaysMatch h

theorem safe_fresh (store : InMemoryIdempotencyStore τ) (clock : τ) :
    Safe store (fresh clock : Pool (Shared κ φ ρ τ) (Call κ φ ρ)) [] where
  within := Nat.zero_le _
  reserved i key fingerprint h := by cases h
  alone i j key f g h := by cases h
  completed key fingerprint result expires_at h := by cases h
  ended i key fingerprint result h := by cases h
  replays before t key fingerprint result after h := by simp at h

variable {store : InMemoryIdempotencyStore τ} {p : Pool (Shared κ φ ρ τ) (Call κ φ ρ)}
  {h : List (Nat × Event κ φ ρ)} {t : Nat}

/-- The clean-up of a failed call takes its own reservation away. -/
theorem Safe.clean_up_erases (hs : Safe store p h) {key : κ} {fingerprint : φ}
    (hholds : (p.thread t).holding = some (key, fingerprint)) :
    InMemoryIdempotencyStore.clean_up key fingerprint p.shared.records =
      p.shared.records.erase key := by
  obtain ⟨expires_at, hget⟩ := hs.reserved t key fingerprint hholds
  simp [InMemoryIdempotencyStore.clean_up, hget]

/-- The other calls hold other keys. -/
theorem Safe.other_key (hs : Safe store p h) {key k : κ} {f g : φ} {i : Nat} (hi : i ≠ t)
    (hholds : (p.thread t).holding = some (key, f)) (hother : (p.thread i).holding = some (k, g)) :
    k ≠ key := by
  rintro rfl
  exact hi (hs.alone i t k g f hother hholds)

/-! ## The sections -/

/-- A call that is refused, or that gets a result back. -/
theorem Safe.thins (hs : Safe store p h) {fewer : Records κ φ ρ τ} (clock : τ)
    {e : Event κ φ ρ} (hthin : Thinned p.shared.records fewer)
    (hnot : ∀ key fingerprint, e.successOf key fingerprint = none)
    (hreplays : ReplaysMatch (h ++ [(t, e)])) :
    Safe store (p.put t { records := fewer, clock } .idle) (h ++ [(t, e)]) where
  within := Nat.le_trans hthin.no_larger hs.within
  reserved i key fingerprint hi := by
    obtain ⟨expires_at, hget⟩ := hs.reserved i key fingerprint (holding_before (Or.inl rfl) hi)
    exact ⟨expires_at, hthin.keeps_reservations key _ hget rfl⟩
  alone i j key f g hi hj :=
    hs.alone i j key f g (holding_before (Or.inl rfl) hi) (holding_before (Or.inl rfl) hj)
  completed key fingerprint result expires_at hget := by
    rw [lastSuccess_unmoved (hnot key fingerprint)]
    exact hs.completed key fingerprint result expires_at (hthin.from_before key _ hget)
  ended i key fingerprint result hi := by
    rw [lastSuccess_unmoved (hnot key fingerprint)]
    exact hs.ended i key fingerprint result (ended_before (by intro r h'; cases h') hi)
  replays := hreplays

/-- The operation raises: the records stay. -/
theorem Safe.fails (hs : Safe store p h) {key : κ} {fingerprint : φ} (e : PyError)
    (ht : p.thread t = .operating key fingerprint) :
    Safe store (p.put t p.shared (.failed key fingerprint e))
      (h ++ [(t, .failed key fingerprint e)]) := by
  have hsame : (Call.failed key fingerprint e : Call κ φ ρ).holding = (p.thread t).holding := by
    rw [ht]
    rfl
  refine ⟨hs.within, ?_, ?_, ?_, ?_, ?_⟩
  · intro i k g hi
    exact hs.reserved i k g (holding_before (Or.inr hsame) hi)
  · intro i j k f g hi hj
    exact hs.alone i j k f g (holding_before (Or.inr hsame) hi) (holding_before (Or.inr hsame) hj)
  · intro k g result expires_at hget
    rw [lastSuccess_unmoved rfl]
    exact hs.completed k g result expires_at hget
  · intro i k g result hi
    rw [lastSuccess_unmoved rfl]
    exact hs.ended i k g result (ended_before (by intro r h'; cases h') hi)
  · apply hs.replays.concat
    intro k g result h'
    cases h'

/-- The operation returns: this is now the latest success, and no record shows another. -/
theorem Safe.succeeds (hs : Safe store p h) {key : κ} {fingerprint : φ} (result : ρ)
    (ht : p.thread t = .operating key fingerprint) :
    Safe store (p.put t p.shared (.succeeded key fingerprint result))
      (h ++ [(t, .succeeded key fingerprint result)]) := by
  have hsame : (Call.succeeded key fingerprint result : Call κ φ ρ).holding =
      (p.thread t).holding := by
    rw [ht]
    rfl
  have hholds : (p.thread t).holding = some (key, fingerprint) := by
    rw [ht]
    rfl
  have hother : ∀ k g, k ≠ key →
      lastSuccess k g (h ++ [(t, .succeeded key fingerprint result)]) = lastSuccess k g h := by
    intro k g hne
    apply lastSuccess_unmoved
    simp [Event.successOf, Ne.symm hne]
  refine ⟨hs.within, ?_, ?_, ?_, ?_, ?_⟩
  · intro i k g hi
    exact hs.reserved i k g (holding_before (Or.inr hsame) hi)
  · intro i j k f g hi hj
    exact hs.alone i j k f g (holding_before (Or.inr hsame) hi) (holding_before (Or.inr hsame) hj)
  · intro k g r expires_at hget
    change p.shared.records.get? k = _ at hget
    have hne : k ≠ key := by
      rintro rfl
      obtain ⟨_, hreserved⟩ := hs.reserved t k fingerprint hholds
      rw [hreserved] at hget
      cases hget
    rw [hother k g hne]
    exact hs.completed k g r expires_at hget
  · intro i k g r hi
    by_cases hit : i = t
    · subst hit
      rw [put_same] at hi
      cases hi
      rw [lastSuccess_concat]
      simp [Event.successOf]
    · rw [put_other p _ _ hit] at hi
      have hne : k ≠ key := by
        rintro rfl
        apply hit
        apply hs.alone i t k g fingerprint _ hholds
        rw [hi]
        rfl
      rw [hother k g hne]
      exact hs.ended i k g r hi
  · apply hs.replays.concat
    intro k g r h'
    cases h'

theorem Safe.cleans_up (hs : Safe store p h) {key : κ} {fingerprint : φ} {e : PyError}
    (hholds : (p.thread t).holding = some (key, fingerprint)) :
    Safe store
      (p.put t { p.shared with records := p.shared.records.erase key } .idle)
      (h ++ [(t, .raised key fingerprint e)]) := by
  refine ⟨Nat.le_trans (Dict.size_erase_le _ _) hs.within, ?_, ?_, ?_, ?_, ?_⟩
  · intro i k g hi
    have hold := holding_before (Or.inl rfl) hi
    obtain ⟨expires_at, hget⟩ := hs.reserved i k g hold
    refine ⟨expires_at, ?_⟩
    show (p.shared.records.erase key).get? k = _
    rw [Dict.get?_erase_of_ne _ (hs.other_key (other_of_idle hi) hholds hold)]
    exact hget
  · intro i j k f g hi hj
    exact hs.alone i j k f g (holding_before (Or.inl rfl) hi) (holding_before (Or.inl rfl) hj)
  · intro k g result expires_at hget
    rw [lastSuccess_unmoved rfl]
    change (p.shared.records.erase key).get? k = _ at hget
    rw [Dict.get?_erase] at hget
    split at hget
    · cases hget
    · exact hs.completed k g result expires_at hget
  · intro i k g result hi
    rw [lastSuccess_unmoved rfl]
    exact hs.ended i k g result (ended_before (by intro r h'; cases h') hi)
  · apply hs.replays.concat
    intro k g result h'
    cases h'

variable [Add τ]

/-- A call that reserves its key. -/
theorem Safe.reserves (hs : Safe store p h) {fewer : Records κ φ ρ τ} {key : κ}
    {fingerprint : φ} {now : τ} (hthin : Thinned p.shared.records fewer)
    (hunreserved : ∀ g expires_at, p.shared.records.get? key ≠ some ⟨g, none, expires_at⟩)
    (hroom : fewer.size < store.max_records) :
    Safe store
      (p.put t { records := (store.reserve key fingerprint now fewer).2, clock := now }
        (.operating key fingerprint))
      (h ++ [(t, .started key fingerprint)]) := by
  -- No call holds the key: its record would be a reservation.
  have hfree : ∀ i g, (p.thread i).holding ≠ some (key, g) := by
    intro i g hi
    obtain ⟨expires_at, hget⟩ := hs.reserved i key g hi
    exact hunreserved g expires_at hget
  have hholds : ∀ i k g,
      ((p.put t { records := (store.reserve key fingerprint now fewer).2, clock := now }
        (.operating key fingerprint)).thread i).holding = some (k, g) →
      (i = t ∧ k = key ∧ g = fingerprint) ∨ (k ≠ key ∧ (p.thread i).holding = some (k, g)) := by
    intro i k g hi
    by_cases hit : i = t
    · subst hit
      rw [put_same] at hi
      cases hi
      exact Or.inl ⟨rfl, rfl, rfl⟩
    · rw [put_other p _ _ hit] at hi
      refine Or.inr ⟨?_, hi⟩
      rintro rfl
      exact hfree i g hi
  refine ⟨?_, ?_, ?_, ?_, ?_, ?_⟩
  · show (fewer.set key _).size ≤ store.max_records
    rw [Dict.size_set]
    split <;> omega
  · intro i k g hi
    show ∃ expires_at, (fewer.set key _).get? k = some ⟨g, none, expires_at⟩
    rcases hholds i k g hi with ⟨-, rfl, rfl⟩ | ⟨hne, hold⟩
    · exact ⟨_, Dict.get?_set_self _ _ _⟩
    · obtain ⟨expires_at, hget⟩ := hs.reserved i k g hold
      rw [Dict.get?_set_of_ne _ _ hne]
      exact ⟨expires_at, hthin.keeps_reservations k _ hget rfl⟩
  · intro i j k f g hi hj
    rcases hholds i k f hi with ⟨rfl, rfl, -⟩ | ⟨hne, hold⟩
    · rcases hholds j k g hj with ⟨rfl, -, -⟩ | ⟨hne, -⟩
      · rfl
      · exact absurd rfl hne
    · rcases hholds j k g hj with ⟨-, rfl, -⟩ | ⟨-, hold'⟩
      · exact absurd rfl hne
      · exact hs.alone i j k f g hold hold'
  · intro k g result expires_at hget
    rw [lastSuccess_unmoved rfl]
    change (fewer.set key _).get? k = _ at hget
    rw [Dict.get?_set] at hget
    split at hget
    · cases hget
    · exact hs.completed k g result expires_at (hthin.from_before k _ hget)
  · intro i k g result hi
    rw [lastSuccess_unmoved rfl]
    exact hs.ended i k g result (ended_before (by intro r h'; cases h') hi)
  · apply hs.replays.concat
    intro k g result h'
    cases h'

/-- The record of a success takes the place of its reservation. -/
theorem Safe.completes (hs : Safe store p h) {key : κ} {fingerprint : φ} {result : ρ} (now : τ)
    (ht : p.thread t = .succeeded key fingerprint result) :
    Safe store
      (p.put t
        { records := store.complete key fingerprint result now p.shared.records, clock := now }
        .idle)
      (h ++ [(t, .returned key fingerprint result)]) := by
  have hholds : (p.thread t).holding = some (key, fingerprint) := by
    rw [ht]
    rfl
  obtain ⟨_, hreserved⟩ := hs.reserved t key fingerprint hholds
  unfold InMemoryIdempotencyStore.complete
  refine ⟨?_, ?_, ?_, ?_, ?_, ?_⟩
  · rw [put_shared, Dict.size_set, if_pos]
    · exact hs.within
    · exact (p.shared.records.mem_keys key).mpr ⟨_, hreserved⟩
  · intro i k g hi
    have hold := holding_before (Or.inl rfl) hi
    obtain ⟨expires_at, hget⟩ := hs.reserved i k g hold
    refine ⟨expires_at, ?_⟩
    rw [put_shared, Dict.get?_set_of_ne _ _ (hs.other_key (other_of_idle hi) hholds hold)]
    exact hget
  · intro i j k f g hi hj
    exact hs.alone i j k f g (holding_before (Or.inl rfl) hi) (holding_before (Or.inl rfl) hj)
  · intro k g r expires_at hget
    rw [lastSuccess_unmoved rfl]
    rw [put_shared, Dict.get?_set] at hget
    split at hget
    · rename_i hkey
      cases hget
      rw [hkey]
      exact hs.ended t key fingerprint result ht
    · exact hs.completed k g r expires_at hget
  · intro i k g r hi
    rw [lastSuccess_unmoved rfl]
    exact hs.ended i k g r (ended_before (by intro r h'; cases h') hi)
  · apply hs.replays.concat
    intro k g r h'
    cases h'

/-! ## A turn of a thread -/

/-- What one step of a thread can do. -/
inductive Turn (store : InMemoryIdempotencyStore τ) (s : Shared κ φ ρ τ) :
    Call κ φ ρ → Shared κ φ ρ τ → Call κ φ ρ → Event κ φ ρ → Prop
  | refused (key : κ) (fingerprint : φ) (now : τ) (e : PyError) :
      Turn store s .idle { records := purge now s.records, clock := now } .idle
        (.refused key fingerprint e)
  | replayed (key : κ) (fingerprint : φ) (now : τ) (result : ρ) (expires_at : τ)
      (found : (purge now s.records).get? key = some ⟨fingerprint, some result, expires_at⟩) :
      Turn store s .idle { records := purge now s.records, clock := now } .idle
        (.replayed key fingerprint result)
  | reserved (key : κ) (fingerprint : φ) (now : τ) (fewer : Records κ φ ρ τ)
      (thinned : Thinned (purge now s.records) fewer)
      (absent : (purge now s.records).get? key = none) (room : fewer.size < store.max_records) :
      Turn store s .idle
        { records := (store.reserve key fingerprint now fewer).2, clock := now }
        (.operating key fingerprint) (.started key fingerprint)
  | fails (key : κ) (fingerprint : φ) (e : PyError) :
      Turn store s (.operating key fingerprint) s (.failed key fingerprint e)
        (.failed key fingerprint e)
  | succeeds (key : κ) (fingerprint : φ) (result : ρ) :
      Turn store s (.operating key fingerprint) s (.succeeded key fingerprint result)
        (.succeeded key fingerprint result)
  | cleans_up (key : κ) (fingerprint : φ) (e : PyError) :
      Turn store s (.failed key fingerprint e)
        { s with records := InMemoryIdempotencyStore.clean_up key fingerprint s.records } .idle
        (.raised key fingerprint e)
  | completes (key : κ) (fingerprint : φ) (result : ρ) (now : τ) :
      Turn store s (.succeeded key fingerprint result)
        { records := store.complete key fingerprint result now s.records, clock := now } .idle
        (.returned key fingerprint result)

theorem store_step_turn {a : Act κ φ ρ τ} {s s' : Shared κ φ ρ τ} {call own : Call κ φ ρ}
    {es : List (Event κ φ ρ)} (hsize : s.records.size ≤ store.max_records)
    (hfires : store_step store a s call = some (s', own, es)) :
    ∃ e, es = [e] ∧ Turn store s call s' own e := by
  unfold store_step at hfires
  split at hfires
  · rename_i key fingerprint now
    split at hfires
    · cases hfires
    · have hbegins := begin_execute_begins store key fingerprint now hsize
      generalize store.begin_execute key fingerprint now s.records = begun at hbegins hfires
      cases hbegins with
      | refused e =>
        cases hfires
        exact ⟨_, rfl, .refused key fingerprint now e⟩
      | replayed result expires_at found =>
        cases hfires
        exact ⟨_, rfl, .replayed key fingerprint now result expires_at found⟩
      | reserved fewer thinned absent room =>
        cases hfires
        exact ⟨_, rfl, .reserved key fingerprint now fewer thinned absent room⟩
  · cases hfires
    exact ⟨_, rfl, .fails _ _ _⟩
  · cases hfires
    exact ⟨_, rfl, .succeeds _ _ _⟩
  · cases hfires
    exact ⟨_, rfl, .cleans_up _ _ _⟩
  · split at hfires
    · cases hfires
    · cases hfires
      exact ⟨_, rfl, .completes _ _ _ _⟩
  · cases hfires

theorem Safe.turn {s : Shared κ φ ρ τ} {own : Call κ φ ρ} {e : Event κ φ ρ}
    (hs : Safe store p h) (hturn : Turn store p.shared (p.thread t) s own e) :
    Safe store (p.put t s own) (h ++ [(t, e)]) := by
  generalize hcall : p.thread t = call at hturn
  cases hturn with
  | refused key fingerprint now e =>
    apply hs.thins now (purge_thins now _) (fun _ _ => rfl)
    apply hs.replays.concat
    intro k g result h'
    cases h'
  | replayed key fingerprint now result expires_at found =>
    apply hs.thins now (purge_thins now _) (fun _ _ => rfl)
    apply hs.replays.concat
    intro k g r h'
    cases h'
    exact hs.completed key fingerprint result expires_at
      ((purge_thins now _).from_before key _ found)
  | reserved key fingerprint now fewer thinned absent room =>
    apply hs.reserves ((purge_thins now _).trans thinned) _ room
    intro g expires_at hget
    have := (purge_thins now _).keeps_reservations key _ hget rfl
    rw [absent] at this
    cases this
  | fails key fingerprint e => exact hs.fails e hcall
  | succeeds key fingerprint result => exact hs.succeeds result hcall
  | cleans_up key fingerprint e =>
    have hholds : (p.thread t).holding = some (key, fingerprint) := by
      rw [hcall]
      rfl
    rw [hs.clean_up_erases hholds]
    exact hs.cleans_up hholds
  | completes key fingerprint result now => exact hs.completes now hcall

/-- A turn of another thread leaves the reservation of a running call as it is. -/
theorem Safe.untouched {s : Shared κ φ ρ τ} {own : Call κ φ ρ} {e : Event κ φ ρ} {i : Nat}
    {key : κ} {fingerprint : φ} (hs : Safe store p h)
    (hturn : Turn store p.shared (p.thread t) s own e) (hi : i ≠ t)
    (hold : (p.thread i).holding = some (key, fingerprint)) :
    s.records.get? key = p.shared.records.get? key := by
  obtain ⟨expires_at, hget⟩ := hs.reserved i key fingerprint hold
  have hkeeps : ∀ now, (purge now p.shared.records).get? key =
      some ⟨fingerprint, none, expires_at⟩ :=
    fun now => (purge_thins now _).keeps_reservations key _ hget rfl
  generalize hcall : p.thread t = call at hturn
  cases hturn with
  | refused _ _ now _ => rw [hget, hkeeps now]
  | replayed _ _ now _ _ _ => rw [hget, hkeeps now]
  | reserved k f now fewer thinned absent room =>
    have hne : key ≠ k := by
      rintro rfl
      rw [hkeeps now] at absent
      cases absent
    unfold InMemoryIdempotencyStore.reserve
    rw [Dict.get?_set_of_ne _ _ hne, hget]
    exact thinned.keeps_reservations key _ (hkeeps now) rfl
  | fails _ _ _ => rfl
  | succeeds _ _ _ => rfl
  | cleans_up k f e =>
    have hholds : (p.thread t).holding = some (k, f) := by
      rw [hcall]
      rfl
    rw [hs.clean_up_erases hholds, Dict.get?_erase_of_ne _ (hs.other_key hi hholds hold)]
  | completes k f result now =>
    have hholds : (p.thread t).holding = some (k, f) := by
      rw [hcall]
      rfl
    unfold InMemoryIdempotencyStore.complete
    rw [Dict.get?_set_of_ne _ _ (hs.other_key hi hholds hold)]

theorem safe_of_reaches {clock : τ} (hr : Reaches (callers store) anyStep (fresh clock) p h) :
    Safe store p h := by
  apply hr.invariant (safe_fresh store clock)
  intro p h t a s own es hs _ hfires
  obtain ⟨e, rfl, hturn⟩ := store_step_turn hs.within hfires
  exact hs.turn hturn

theorem execute_conflict {key : κ} {fingerprint : φ} {now : τ}
    {s : Shared κ φ ρ τ} {own : Call κ φ ρ} {es : List (Event κ φ ρ)}
    {existing : IdempotencyRecord φ ρ τ}
    (hfires : store_step store (.execute key fingerprint now) p.shared (p.thread t) =
      some (s, own, es))
    (hget : (purge now p.shared.records).get? key = some existing)
    (hother : existing.fingerprint ≠ fingerprint) :
    own = .idle ∧ es = [.refused key fingerprint conflict_error] := by
  cases hcall : p.thread t with
  | idle =>
    rw [hcall] at hfires
    unfold store_step at hfires
    simp only [begin_execute_conflict store hget hother] at hfires
    split at hfires
    · cases hfires
    · cases hfires
      exact ⟨rfl, rfl⟩
  | _ =>
    rw [hcall] at hfires
    cases hfires

/-! ## The guarantees of the store -/

/-- What the store promises at any moment, and for whatever step comes next. -/
structure Guarantees (store : InMemoryIdempotencyStore τ)
    (p : Pool (Shared κ φ ρ τ) (Call κ φ ρ)) (h : List (Nat × Event κ φ ρ)) : Prop where
  bounded : p.shared.records.size ≤ store.max_records
  one_in_flight : ∀ i j key f g, (p.thread i).holding = some (key, f) →
    (p.thread j).holding = some (key, g) → i = j
  reservation_stands : ∀ i key fingerprint, (p.thread i).holding = some (key, fingerprint) →
    (∃ expires_at, p.shared.records.get? key = some ⟨fingerprint, none, expires_at⟩) ∧
    ∀ t a s own es, t ≠ i → store_step store a p.shared (p.thread t) = some (s, own, es) →
      s.records.get? key = p.shared.records.get? key
  replays_last_success : ∀ before t key fingerprint result after,
    h = before ++ (t, .replayed key fingerprint result) :: after →
      lastSuccess key fingerprint before = some result
  runs_beside_no_other : ∀ i key fingerprint record, p.thread i = .operating key fingerprint →
    p.shared.records.get? key = some record → record.fingerprint = fingerprint
  other_is_refused : ∀ t key fingerprint now s own es existing,
    store_step store (.execute key fingerprint now) p.shared (p.thread t) = some (s, own, es) →
    (purge now p.shared.records).get? key = some existing → existing.fingerprint ≠ fingerprint →
      own = .idle ∧ es = [.refused key fingerprint conflict_error]
  failure_frees_the_key : ∀ t key fingerprint e now, p.thread t = .failed key fingerprint e →
    ∃ records, store_step store (.finish now) p.shared (p.thread t) =
        some ({ p.shared with records }, .idle, [.raised key fingerprint e]) ∧
      (∃ expires_at, p.shared.records.get? key = some ⟨fingerprint, none, expires_at⟩) ∧
      records.get? key = none ∧
      (∀ k, k ≠ key → records.get? k = p.shared.records.get? k) ∧
      ∀ g later, (store.begin_execute key g later records).1 = .ok none

theorem Safe.frees (hs : Safe store p h) {key : κ} {fingerprint : φ} {e : PyError} (now : τ)
    (ht : p.thread t = .failed key fingerprint e) :
    ∃ records, store_step store (.finish now) p.shared (p.thread t) =
        some ({ p.shared with records }, .idle, [.raised key fingerprint e]) ∧
      (∃ expires_at, p.shared.records.get? key = some ⟨fingerprint, none, expires_at⟩) ∧
      records.get? key = none ∧
      (∀ k, k ≠ key → records.get? k = p.shared.records.get? k) ∧
      ∀ g later, (store.begin_execute key g later records).1 = .ok none := by
  have hholds : (p.thread t).holding = some (key, fingerprint) := by
    rw [ht]
    rfl
  have hreserved := hs.reserved t key fingerprint hholds
  refine ⟨p.shared.records.erase key, ?_, hreserved, Dict.get?_erase_self _ _, ?_, ?_⟩
  · rw [ht, ← hs.clean_up_erases hholds]
    rfl
  · intro k hk
    exact Dict.get?_erase_of_ne _ hk
  · intro g later
    apply begin_execute_reserves store g later (Dict.get?_erase_self _ _)
    obtain ⟨_, hget⟩ := hreserved
    have := Dict.size_erase_lt _ ((p.shared.records.mem_keys key).mpr ⟨_, hget⟩)
    have := hs.within
    omega

/-- In every run of the threads, the store keeps its promises. -/
theorem the_store_keeps_its_promises (store : InMemoryIdempotencyStore τ) (clock : τ)
    {p : Pool (Shared κ φ ρ τ) (Call κ φ ρ)} {h : List (Nat × Event κ φ ρ)}
    (hr : Reaches (callers store) anyStep (fresh clock) p h) : Guarantees store p h := by
  have hs := safe_of_reaches hr
  refine ⟨hs.within, hs.alone, ?_, hs.replays, ?_, ?_, ?_⟩
  · intro i key fingerprint hold
    refine ⟨hs.reserved i key fingerprint hold, ?_⟩
    intro t a s own es hne hfires
    obtain ⟨e, -, hturn⟩ := store_step_turn hs.within hfires
    exact hs.untouched hturn hne.symm hold
  · intro i key fingerprint record hi hget
    obtain ⟨_, hreserved⟩ := hs.reserved i key fingerprint (by rw [hi]; rfl)
    rw [hreserved] at hget
    cases hget
    rfl
  · intro t key fingerprint now s own es existing hfires hget hother
    exact execute_conflict hfires hget hother
  · intro t key fingerprint e now ht
    exact hs.frees now ht

/-- Two calls that meet, and a third that gets the result of the first. -/
def meeting : List (Nat × Act String String Nat Nat) := [
  (0, .execute "key" "request" 5),
  (1, .execute "key" "request" 6),
  (0, .operation_returns 7),
  (0, .finish 1000),
  (1, .execute "key" "request" 1001)]

def narrow_store : InMemoryIdempotencyStore Nat := {
  ttl_seconds := 600
  max_records := 1
  ttl_positive := by decide }

theorem the_third_call_gets_the_result :
    ∃ p h before, h = before ++ [(1, .replayed "key" "request" 7)] ∧
      Guarantees narrow_store p h := by
  have hrun : ∃ p h before, (callers narrow_store).run meeting (fresh 0) [] = some (p, h) ∧
      h = before ++ [(1, .replayed "key" "request" 7)] :=
    ⟨_, _, [(0, .started "key" "request"), (1, .refused "key" "request" in_progress_error),
      (0, .succeeded "key" "request" 7), (0, .returned "key" "request" 7)], rfl, rfl⟩
  obtain ⟨p, h, before, hrun, hlast⟩ := hrun
  exact ⟨p, h, before, hlast,
    the_store_keeps_its_promises narrow_store 0 (reaches_of_run meeting .refl hrun)⟩

end tplink_deco_api.rest
