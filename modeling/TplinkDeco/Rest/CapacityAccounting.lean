-- The laws of the admission: the count is the number of the admitted requests
-- that go on, plus one for each request that was cancelled while it waited to
-- give its place back.
import TplinkDeco.Lib.Census
import TplinkDeco.Rest.RequestCapacity

open text threads

namespace tplink_deco_api.rest.request_capacity_middleware

open RequestCapacityMiddleware

variable {middleware : RequestCapacityMiddleware} {p : Pool Shared Task} {h : List (Nat × Event)}

/-- An admitted request whose handling has not ended. -/
def InFlight : Task → Prop
  | .handling => True
  | .leaving _ _ => True
  | _ => False

/-- A protected request of any kind: at the door, turned away or admitted. -/
def InProgress : Task → Prop
  | .idle => False
  | .passing => False
  | _ => True

def Event.isAbandoned : Event → Bool
  | .abandoned => true
  | _ => false

def abandonments (h : List (Nat × Event)) : Nat := h.countP fun e => e.2.isAbandoned

theorem abandonments_append (h : List (Nat × Event)) (t : Nat) (es : List Event) :
    abandonments (h ++ es.map fun e => (t, e)) = abandonments h + es.countP Event.isAbandoned := by
  unfold abandonments
  rw [List.countP_append, List.countP_map]
  rfl

/-! ## What one call does -/

inductive Called (middleware : RequestCapacityMiddleware) (s : Shared) :
    Task → Shared × Task × List Event → Prop
  | passes : Called middleware s .idle (s, .passing, [])
  | enters (scope : Scope) : Called middleware s .idle (middleware.enter scope s)
  | queues (scope : Scope) : Called middleware s .idle (waiting_to_enter scope s)
  | enters_late (scope : Scope) (future : Nat) :
      Called middleware s (.entering scope future) (middleware.enter scope (forgetting future s))
  | gives_up (scope : Scope) (future : Nat) :
      Called middleware s (.entering scope future)
        (forgetting future s, .idle, [.ended .cancelled])
  | turned_away (ending : Ending) :
      Called middleware s .rejecting
        ({ s with lock := { s.lock with locked := false } }, .idle, [.ended ending])
  | passed (ending : Ending) : Called middleware s .passing (s, .idle, [.ended ending])
  | leaves (ending : Ending) : Called middleware s .handling (leave ending s)
  | queues_to_leave (ending : Ending) :
      Called middleware s .handling (waiting_to_leave ending s)
  | leaves_late (ending : Ending) (future : Nat) :
      Called middleware s (.leaving ending future) (leave ending (forgetting future s))
  | abandons (ending : Ending) (future : Nat) :
      Called middleware s (.leaving ending future) (forgetting future s, .idle, [.abandoned])

theorem call_cases {a : Act} {s : Shared} {own : Task} {r : Shared × Task × List Event}
    (hcall : middleware.call a s own = some r) : Called middleware s own r := by
  unfold call at hcall
  split at hcall
  · split at hcall
    · cases hcall
      exact .passes
    · split at hcall
      · cases hcall
        exact .enters _
      · cases hcall
        exact .queues _
  · split at hcall
    · cases hcall
      exact .enters_late _ _
    · cases hcall
  · cases hcall
    exact .gives_up _ _
  · cases hcall
    exact .turned_away _
  · cases hcall
    exact .passed _
  · split at hcall
    · cases hcall
      exact .leaves _
    · cases hcall
      exact .queues_to_leave _
  · split at hcall
    · cases hcall
      exact .leaves_late _ _
    · cases hcall
  · cases hcall
    exact .abandons _ _
  · cases hcall

/-! ## What one call does to the count -/

inductive CountMove (middleware : RequestCapacityMiddleware) (own own' : Task) (es : List Event) :
    Int → Int → Prop
  | stays {n : Int} (same : InFlight own' ↔ InFlight own) (quiet : es.countP Event.isAbandoned = 0) :
      CountMove middleware own own' es n n
  | admits {n : Int} (room : n < middleware.max_in_flight) (before : ¬ InFlight own)
      (after : InFlight own') (quiet : es.countP Event.isAbandoned = 0) :
      CountMove middleware own own' es n (n + 1)
  | releases {n : Int} (before : InFlight own) (after : ¬ InFlight own')
      (quiet : es.countP Event.isAbandoned = 0) :
      CountMove middleware own own' es n (n - 1)
  | loses {n : Int} (before : InFlight own) (after : ¬ InFlight own')
      (lost : es.countP Event.isAbandoned = 1) :
      CountMove middleware own own' es n n

theorem enter_moves {own : Task} (scope : Scope) (s : Shared) (hown : ¬ InFlight own) :
    CountMove middleware own (middleware.enter scope s).2.1 (middleware.enter scope s).2.2
      s.active (middleware.enter scope s).1.active := by
  unfold enter
  split
  · exact .stays ⟨False.elim, fun h => absurd h hown⟩ rfl
  · rename_i hroom
    exact .admits (by omega) hown trivial rfl

theorem call_moves {s : Shared} {own : Task} {r : Shared × Task × List Event}
    (hcalled : Called middleware s own r) :
    CountMove middleware own r.2.1 r.2.2 s.active r.1.active := by
  cases hcalled with
  | enters scope => exact enter_moves scope s id
  | enters_late scope future => exact enter_moves scope (forgetting future s) id
  | leaves => exact .releases trivial id rfl
  | leaves_late => exact .releases trivial id rfl
  | abandons => exact .loses trivial id rfl
  | _ => exact .stays Iff.rfl rfl

/-! ## The count in every run -/

structure Counted (middleware : RequestCapacityMiddleware) (p : Pool Shared Task)
    (h : List (Nat × Event)) : Prop where
  finite : (p.census InFlight).Finite
  total : p.shared.active = (p.census InFlight).ncard + abandonments h
  bounded : p.shared.active ≤ middleware.max_in_flight

theorem counted_at_rest : Counted middleware at_rest [] := by
  have hnone : at_rest.census InFlight = ∅ := Set.eq_empty_of_forall_notMem fun _ ht => ht
  refine ⟨?_, ?_, Int.natCast_nonneg _⟩
  · rw [hnone]
    exact Set.finite_empty
  · rw [hnone, Set.ncard_empty]
    rfl

theorem counted_step {t : Nat} {a : Act} {s : Shared} {own : Task} {es : List Event}
    (hc : Counted middleware p h)
    (hcall : middleware.call a p.shared (p.thread t) = some (s, own, es)) :
    Counted middleware (p.put t s own) (h ++ es.map fun e => (t, e)) := by
  obtain ⟨hfinite, htotal, hbounded⟩ := hc
  have hmove : CountMove middleware (p.thread t) own es p.shared.active s.active :=
    call_moves (call_cases hcall)
  refine ⟨census_put_finite hfinite, ?_, ?_⟩
  · rw [abandonments_append, put_shared]
    generalize p.shared.active = n, s.active = n' at hmove htotal
    cases hmove with
    | stays same quiet => rw [census_put_stays same, quiet, htotal]; simp
    | admits _ before after quiet =>
      have hcount := count_put_enters (s := s) hfinite before after
      omega
    | releases before after quiet =>
      have hcount := count_put_leaves (s := s) hfinite before after
      omega
    | loses before after lost =>
      have hcount := count_put_leaves (s := s) hfinite before after
      omega
  · rw [put_shared]
    generalize p.shared.active = n, s.active = n' at hmove hbounded
    cases hmove <;> omega

theorem counted_run (hr : Reaches middleware.tasks anyStep at_rest p h) :
    Counted middleware p h :=
  hr.invariant counted_at_rest fun _ _ _ _ _ _ _ hc _ hcall => counted_step hc hcall

/-! ## What one call does to the lock -/

/-- The future on which a task waits. -/
def Task.future : Task → Option Nat
  | .entering _ future => some future
  | .leaving _ future => some future
  | _ => none

inductive QueueMove (own own' : Task) (l l' : Lock) : Prop
  | stays (none : own.future = none) (waiters : l'.waiters = l.waiters)
      (next : l'.next_future = l.next_future)
  | joins (none : own.future = none) (some : own'.future = some l.next_future)
      (waiters : l'.waiters = l.waiters ++ [l.next_future])
      (next : l'.next_future = l.next_future + 1)
  | goes (future : Nat) (some : own.future = some future)
      (waiters : l'.waiters = l.waiters.erase future) (next : l'.next_future = l.next_future)

theorem enter_queue (own : Task) (scope : Scope) (s : Shared) (hown : own.future = none) :
    QueueMove own (middleware.enter scope s).2.1 s.lock (middleware.enter scope s).1.lock := by
  unfold enter
  split <;> exact .stays hown rfl rfl

theorem enter_queue_late {own : Task} {future : Nat} (scope : Scope) (s : Shared)
    (hown : own.future = some future) :
    QueueMove own (middleware.enter scope (forgetting future s)).2.1 s.lock
      (middleware.enter scope (forgetting future s)).1.lock := by
  unfold enter
  split <;> exact .goes future hown rfl rfl

theorem call_queue {s : Shared} {own : Task} {r : Shared × Task × List Event}
    (hcalled : Called middleware s own r) : QueueMove own r.2.1 s.lock r.1.lock := by
  cases hcalled with
  | enters scope => exact enter_queue .idle scope s rfl
  | queues => exact .joins rfl rfl rfl rfl
  | enters_late scope future => exact enter_queue_late scope s rfl
  | gives_up _ future => exact .goes future rfl rfl rfl
  | queues_to_leave => exact .joins rfl rfl rfl rfl
  | leaves_late _ future => exact .goes future rfl rfl rfl
  | abandons _ future => exact .goes future rfl rfl rfl
  | _ => exact .stays rfl rfl rfl

theorem enter_holds {scope : Scope} {s : Shared}
    (h : (middleware.enter scope s).1.lock.locked = true) :
    (middleware.enter scope s).2.1 = .rejecting ∨ s.lock.locked = true := by
  unfold enter at h ⊢
  split at h
  · rename_i hfull
    simp [hfull]
  · exact Or.inr h

/-- The lock is held after a call only by the task itself, or by another that held it before. -/
theorem call_holder {s : Shared} {own : Task} {r : Shared × Task × List Event}
    (hcalled : Called middleware s own r) (hheld : r.1.lock.locked = true) :
    r.2.1 = .rejecting ∨ (s.lock.locked = true ∧ own ≠ .rejecting) := by
  cases hcalled with
  | enters => exact (enter_holds hheld).imp_right fun h => ⟨h, by simp⟩
  | enters_late => exact (enter_holds hheld).imp_right fun h => ⟨h, by simp⟩
  | turned_away => cases hheld
  | _ => exact Or.inr ⟨hheld, by simp⟩

/-! ## The lock in every run -/

/-- The lock is held and waited for by tasks of the pool only. -/
structure Queued (p : Pool Shared Task) : Prop where
  holder : p.shared.lock.locked = true → ∃ t, p.thread t = .rejecting
  waiting : ∀ future ∈ p.shared.lock.waiters, ∃ t, (p.thread t).future = some future
  fresh : ∀ future ∈ p.shared.lock.waiters, future < p.shared.lock.next_future
  nodup : p.shared.lock.waiters.Nodup

theorem queued_at_rest : Queued at_rest :=
  ⟨nofun, nofun, nofun, List.nodup_nil⟩

/-- A task that waits on one future still does when another task takes its step. -/
theorem still_waiting {t : Nat} {s : Shared} {own : Task} {future : Nat}
    (hown : (p.thread t).future ≠ some future) (h : ∃ i, (p.thread i).future = some future) :
    ∃ i, ((p.put t s own).thread i).future = some future := by
  obtain ⟨i, hi⟩ := h
  have hne : i ≠ t := by
    rintro rfl
    exact hown hi
  exact ⟨i, by rwa [put_other p s own hne]⟩

theorem queued_step {t : Nat} {a : Act} {s : Shared} {own : Task} {es : List Event}
    (hq : Queued p) (hcall : middleware.call a p.shared (p.thread t) = some (s, own, es)) :
    Queued (p.put t s own) := by
  obtain ⟨hholder, hwaiting, hfresh, hnodup⟩ := hq
  have hcalled := call_cases hcall
  have hqueue : QueueMove (p.thread t) own p.shared.lock s.lock := call_queue hcalled
  refine ⟨?_, ?_, ?_, ?_⟩
  · intro hheld
    rcases call_holder hcalled hheld with rfl | ⟨hbefore, hother⟩
    · exact ⟨t, put_same p t s _⟩
    · obtain ⟨i, hi⟩ := hholder hbefore
      have hne : i ≠ t := by
        rintro rfl
        exact hother hi
      exact ⟨i, by rwa [put_other p s own hne]⟩
  · intro future hmem
    rw [put_shared] at hmem
    cases hqueue with
    | stays none waiters _ =>
      rw [waiters] at hmem
      exact still_waiting (by simp [none]) (hwaiting future hmem)
    | joins none some waiters _ =>
      rw [waiters, List.mem_append, List.mem_singleton] at hmem
      rcases hmem with hmem | rfl
      · exact still_waiting (by simp [none]) (hwaiting future hmem)
      · exact ⟨t, by rwa [put_same]⟩
    | goes gone some waiters _ =>
      rw [waiters, hnodup.mem_erase_iff] at hmem
      refine still_waiting ?_ (hwaiting future hmem.2)
      rw [some]
      intro heq
      exact hmem.1 (Option.some.inj heq).symm
  · intro future hmem
    rw [put_shared] at hmem ⊢
    cases hqueue with
    | stays _ waiters next =>
      rw [next]
      exact hfresh future (waiters ▸ hmem)
    | joins _ _ waiters next =>
      rw [waiters, List.mem_append, List.mem_singleton] at hmem
      rw [next]
      rcases hmem with hmem | rfl
      · exact Nat.lt_succ_of_lt (hfresh future hmem)
      · exact Nat.lt_succ_self _
    | goes _ _ waiters next =>
      rw [waiters] at hmem
      rw [next]
      exact hfresh future (List.mem_of_mem_erase hmem)
  · rw [put_shared]
    cases hqueue with
    | stays _ waiters _ => rwa [waiters]
    | joins _ _ waiters _ =>
      rw [waiters]
      refine hnodup.append (List.nodup_singleton _) ?_
      intro future hmem hnew
      rw [List.mem_singleton] at hnew
      exact absurd (hfresh future hmem) (by omega)
    | goes _ _ waiters _ =>
      rw [waiters]
      exact hnodup.erase _

theorem queued_run (hr : Reaches middleware.tasks anyStep at_rest p h) : Queued p :=
  hr.invariant (I := fun p _ => Queued p) queued_at_rest
    fun _ _ _ _ _ _ _ hq _ hcall => queued_step hq hcall

/-- With no request in progress, the lock is open and nobody waits for it. -/
theorem lock_free_when_quiet (hq : Queued p) (hquiet : ∀ t, ¬ InProgress (p.thread t)) :
    p.shared.lock.free = true := by
  have hopen : p.shared.lock.locked = false := by
    cases hl : p.shared.lock.locked with
    | false => rfl
    | true =>
      obtain ⟨t, ht⟩ := hq.holder hl
      refine absurd ?_ (hquiet t)
      rw [ht]
      trivial
  have hnobody : p.shared.lock.waiters = [] := by
    cases hw : p.shared.lock.waiters with
    | nil => rfl
    | cons future rest =>
      obtain ⟨t, ht⟩ := hq.waiting future (by simp [hw])
      refine absurd ?_ (hquiet t)
      cases hown : p.thread t <;> simp [hown, Task.future, InProgress] at ht ⊢
  simp [Lock.free, hopen, hnobody]

/-! ## The promise of the middleware -/

/-- The count is right, and a middleware without requests has all its places. -/
structure Accounted (middleware : RequestCapacityMiddleware) (p : Pool Shared Task) : Prop where
  counted : p.shared.active = (p.census InFlight).ncard
  not_negative : 0 ≤ p.shared.active
  bounded : p.shared.active ≤ middleware.max_in_flight
  empty_when_quiet : (∀ t, ¬ InProgress (p.thread t)) → p.shared.active = 0
  admits_when_quiet : (∀ t, ¬ InProgress (p.thread t)) → ∀ scope,
    middleware.counts scope = true →
      ∃ s, middleware.call (.arrive scope) p.shared .idle = some (s, .handling, [.admitted])

theorem not_in_flight_of_quiet (hquiet : ∀ t, ¬ InProgress (p.thread t)) :
    p.census InFlight = ∅ := by
  apply Set.eq_empty_of_forall_notMem
  intro t ht
  have hidle := hquiet t
  unfold Pool.census at ht
  cases hown : p.thread t <;> simp [hown, InFlight, InProgress] at ht hidle

theorem admitted_when_free {s : Shared} {scope : Scope} (hcounts : middleware.counts scope = true)
    (hfree : s.lock.free = true) (hroom : s.active < middleware.max_in_flight) :
    ∃ s', middleware.call (.arrive scope) s .idle = some (s', .handling, [.admitted]) := by
  have hnot : ¬ (middleware.max_in_flight : Int) ≤ s.active := by omega
  simp [call, hcounts, hfree, enter, hnot]

/-- The middleware keeps its promise exactly in the runs in which no request was cancelled
while it waited to give its place back. -/
theorem accounted_exactly_when_none_is_abandoned (middleware : RequestCapacityMiddleware)
    {p : Pool Shared Task} {h : List (Nat × Event)}
    (hr : Reaches middleware.tasks anyStep at_rest p h) :
    Accounted middleware p ↔ ∀ e ∈ h, e.2.isAbandoned = false := by
  obtain ⟨_, htotal, hbounded⟩ := counted_run hr
  have hnone : abandonments h = 0 ↔ ∀ e ∈ h, e.2.isAbandoned = false := by
    simp [abandonments, List.countP_eq_zero]
  rw [← hnone]
  constructor
  · intro hacc
    have hcounted := hacc.counted
    omega
  · intro hzero
    have hempty : (∀ t, ¬ InProgress (p.thread t)) → p.shared.active = 0 := by
      intro hquiet
      rw [htotal, hzero, not_in_flight_of_quiet hquiet, Set.ncard_empty]
      rfl
    refine ⟨by omega, by omega, hbounded, hempty, ?_⟩
    intro hquiet scope hcounts
    apply admitted_when_free hcounts (lock_free_when_quiet (queued_run hr) hquiet)
    rw [hempty hquiet]
    exact_mod_cast middleware.max_in_flight_positive

/-! ## A server with one place -/

def one_place : RequestCapacityMiddleware := {
  max_in_flight := 1
  protected_prefixes := ["/api/v1"]
  max_in_flight_positive := Nat.one_pos }

def status_request : Scope := { type := "http", path := "/api/v1/status" }

/-- One request is served, and another is turned away meanwhile. -/
def served_and_rejected : List (Nat × Act) := [
  (0, .arrive status_request), (1, .arrive status_request), (1, .ends .returned),
  (0, .ends .returned)]

/-- The first request ends while the response to the second is being sent, and is cancelled
before it has the lock. -/
def cancelled_at_the_door : List (Nat × Act) := [
  (0, .arrive status_request), (1, .arrive status_request), (0, .ends .cancelled), (0, .cancel),
  (1, .ends .returned)]

theorem a_full_server_counts_right :
    ∃ p h, Reaches one_place.tasks anyStep at_rest p h ∧ h.length = 4 ∧ Accounted one_place p := by
  have hrun : (one_place.tasks.run served_and_rejected at_rest []).map
      (fun r => (r.2.length, r.2.all fun e => !e.2.isAbandoned)) = some (4, true) := by
    decide +kernel
  obtain ⟨⟨p, h⟩, hrun, hend⟩ := Option.map_eq_some_iff.mp hrun
  have hr := reaches_of_run served_and_rejected .refl hrun
  rw [Prod.mk.injEq, List.all_eq_true] at hend
  refine ⟨p, h, hr, hend.1, ?_⟩
  apply (accounted_exactly_when_none_is_abandoned one_place hr).mpr
  intro e he
  have hnot := hend.2 e he
  rwa [Bool.not_eq_true'] at hnot

/-- Nothing is in progress any more, and the next request is turned away. -/
theorem a_cancelled_release_takes_the_place :
    ∃ p h, Reaches one_place.tasks anyStep at_rest p h ∧ (∀ t, ¬ InProgress (p.thread t)) ∧
      p.shared.active = 1 ∧ one_place.counts status_request = true ∧
      (one_place.call (.arrive status_request) p.shared .idle).map (·.2) =
        some (.rejecting, [.rejected (server_busy status_request)]) := by
  have hrun : (one_place.tasks.run cancelled_at_the_door at_rest []).map
      (fun r => (r.1.shared, r.1.thread 0, r.1.thread 1)) =
        some ({ active := 1, lock := { next_future := 1 } }, .idle, .idle) := rfl
  obtain ⟨⟨p, h⟩, hrun, hend⟩ := Option.map_eq_some_iff.mp hrun
  rw [Prod.mk.injEq, Prod.mk.injEq] at hend
  obtain ⟨hshared, h0, h1⟩ := hend
  refine ⟨p, h, reaches_of_run cancelled_at_the_door .refl hrun, ?_, ?_, by decide, ?_⟩
  · intro t
    by_cases ht : t ∈ cancelled_at_the_door.map Prod.fst
    · have h01 : t = 0 ∨ t = 1 := by
        simp [cancelled_at_the_door] at ht
        omega
      rcases h01 with rfl | rfl
      · exact h0 ▸ id
      · exact h1 ▸ id
    · rw [run_other hrun ht]
      exact id
  · rw [hshared]
  · rw [hshared]
    rfl

end tplink_deco_api.rest.request_capacity_middleware
