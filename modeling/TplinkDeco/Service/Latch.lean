-- The latch of the HTTP writes: when it stops every later write, and the errors
-- that leave it open.
import TplinkDeco.Service.Turns

open dict prog threads

namespace tplink_deco_api.service

open exceptions http_noop_verification rest Prog

variable {config : ServerConfig} {store : InMemoryIdempotencyStore Rat}

/-! ## The law of the latch -/

/-- The verification passed. -/
def NoopRun.verified (run : NoopRun) : Bool :=
  match run.outcome with
  | .ok result => result.verified_noop
  | _ => false

/-- A write was handed to the client. -/
def Event.writes : Event → Bool
  | .noop _ _ run => wrote run.calls
  | _ => false

/-- A write was handed to the client, and the call did not end in `verified_noop`. -/
def Event.doubtful : Event → Bool
  | .noop _ _ run => wrote run.calls && !run.verified
  | _ => false

/-- After a doubtful write the latch is set, and no later event writes. -/
structure LatchHolds (p : Pool World Call) (h : List (Nat × Event)) : Prop where
  latched : ∀ e ∈ h, e.2.doubtful = true → p.shared.deco_service.http_mutation_latched = true
  silent : h.Pairwise fun e later => e.2.doubtful = true → later.2.writes = false

/-- The section of a thread that is about to write meets only errors that the verifier
catches, from its write on. -/
def ContainedWrites (p : Pool World Call) (t : Nat) (a : Act) : Prop :=
  ∀ job x, p.thread t = .writing job → a = .section x → Contained job.operation x.answers

/-! ## One step -/

theorem not_writes_of_plain {e : Event} (h : e.plain = true) : e.writes = false := by
  cases e with
  | noop job identity run => cases h
  | _ => rfl

theorem writes_of_doubtful {e : Event} (h : e.doubtful = true) : e.writes = true := by
  cases e with
  | noop job identity run =>
    unfold Event.doubtful at h
    rw [Bool.and_eq_true] at h
    exact h.1
  | _ => cases h

/-- A step logs no write and leaves the latch as it is, or it is a section of the verifier. -/
theorem Turn.latch {w w' : World} {a : Act} {own own' : Call} {es : List Event}
    (turn : Turn config w a own w' own' es) :
    (w'.deco_service.http_mutation_latched = w.deco_service.http_mutation_latched ∧
      ∀ e ∈ es, e.writes = false) ∨
    ∃ x job run rest, a = .section x ∧ own = .writing job ∧
      Noops job.operation job.confirmation x w.deco_service run w'.deco_service ∧
      es = .noop job (controller_identity w.deco_service.device_cache) run :: rest ∧
      ∀ e ∈ rest, e.writes = false := by
  cases turn with
  | quiet untouched drawn goes =>
    exact Or.inl ⟨untouched.latch, fun e he => not_writes_of_plain (goes.events e he)⟩
  | drawn x name mode confirmation => exact Or.inl ⟨rfl, by simp⟩
  | stored x plan identified => exact Or.inl ⟨rfl, by simp [Event.writes]⟩
  | claimed x plan_id confirmation request plan after own' es claim goes =>
    refine Or.inl ⟨claim.keeps unlisted_latch fun _ _ => rfl, ?_⟩
    rcases execute_plan_goes confirmation request plan with hquiet | ⟨call, rest, hgoes, hrest, -⟩
    · rw [goes] at hquiet
      exact fun e he => not_writes_of_plain (hquiet.events e he)
    · rw [goes] at hgoes
      cases hgoes
      rintro e (_ | ⟨_, he⟩)
      · rfl
      · exact not_writes_of_plain (hrest e he)
  | unclaimed x plan_id confirmation request e after own' es claim goes =>
    refine Or.inl ⟨claim.keeps unlisted_latch fun _ _ => rfl, ?_⟩
    have hquiet := quiet_finish request (.error e)
    rw [goes] at hquiet
    exact fun e he => not_writes_of_plain (hquiet.events e he)
  | profiled x job after exact =>
    exact Or.inl ⟨(require_exact_p9_profile_keeps unlisted_latch).of_run exact, by simp⟩
  | noop x job run after own' es ends goes =>
    exact Or.inr ⟨x, job, run, es, rfl, rfl, Noops.of_run ends, rfl,
      fun e he => not_writes_of_plain ((finish_noop_goes goes).events e he)⟩
  | lapsed x plan_id plan found late => exact Or.inl ⟨rfl, by simp [Event.writes]⟩
  | closed x after own' es empty latch goes =>
    exact Or.inl ⟨latch, fun e he => not_writes_of_plain (goes.events e he)⟩

/-- What a run of the verifier leaves behind: after a write whose errors it catches, the
latch is set unless the result is `verified_noop`. -/
theorem Noops.contained {operation confirmation : String} {x : Outside} {s after : DecoService}
    {run : NoopRun} (h : Noops operation confirmation x s run after)
    (hcontained : Contained operation x.answers) (hwrote : wrote run.calls = true) :
    s.http_mutation_latched = false ∧ after.http_mutation_latched = !run.verified := by
  cases h with
  | refused e after latch => cases hwrote
  | verified run after open_latch outcome calls latch =>
    refine ⟨open_latch, ?_⟩
    rw [calls] at hwrote
    obtain ⟨result, hresult⟩ := (verify_http_setting_noop_returns hwrote).mpr hcontained
    rw [← outcome] at hresult
    rw [latch]
    unfold NoopRun.verified
    rw [hresult]

/-- Without a write the latch is never opened. -/
theorem Noops.stays {operation confirmation : String} {x : Outside} {s after : DecoService}
    {run : NoopRun} (h : Noops operation confirmation x s run after)
    (hlatch : s.http_mutation_latched = true) :
    after.http_mutation_latched = true ∧ wrote run.calls = false := by
  cases h with
  | refused e after latch => exact ⟨latch.trans hlatch, rfl⟩
  | verified run after open_latch outcome calls latch =>
    rw [hlatch] at open_latch
    cases open_latch

/-- After a write that meets an error outside the verifier's, the latch is open. -/
theorem Noops.escapes {operation confirmation : String} {x : Outside} {s after : DecoService}
    {run : NoopRun} (h : Noops operation confirmation x s run after)
    (hcontained : ¬ Contained operation x.answers) (hwrote : wrote run.calls = true) :
    run.verified = false ∧ after.http_mutation_latched = false := by
  have hends := h.prompt
  cases h with
  | refused e after latch => cases hwrote
  | verified run after open_latch outcome calls latch =>
    rw [calls] at hwrote
    have hnever := mt (verify_http_setting_noop_returns hwrote).mp hcontained
    rw [← outcome] at hnever
    rw [latch]
    unfold NoopRun.verified
    cases hr : run.outcome with
    | ok result => exact absurd ⟨result, hr⟩ hnever
    | raised e => exact ⟨rfl, rfl⟩
    | waiting => exact absurd hr hends

/-! ## Every run -/

theorem LatchHolds.extend {p p' : Pool World Call} {h es : List (Nat × Event)}
    (hp : LatchHolds p h)
    (hstays : p.shared.deco_service.http_mutation_latched = true →
      p'.shared.deco_service.http_mutation_latched = true ∧ ∀ e ∈ es, e.2.writes = false)
    (hlatched : ∀ e ∈ es, e.2.doubtful = true →
      p'.shared.deco_service.http_mutation_latched = true)
    (hsilent : es.Pairwise fun e later => e.2.doubtful = true → later.2.writes = false) :
    LatchHolds p' (h ++ es) := by
  constructor
  · intro e he hdoubtful
    rcases List.mem_append.mp he with hold | hnew
    · exact (hstays (hp.latched e hold hdoubtful)).1
    · exact hlatched e hnew hdoubtful
  · apply List.pairwise_append.mpr
    refine ⟨hp.silent, hsilent, ?_⟩
    intro e he later hlater hdoubtful
    exact (hstays (hp.latched e he hdoubtful)).2 later hlater

theorem LatchHolds.step {p : Pool World Call} {h : List (Nat × Event)} {t : Nat} {a : Act}
    {w' : World} {own' : Call} {es : List Event} (hp : LatchHolds p h)
    (hcontained : ContainedWrites p t a)
    (turn : Turn config p.shared a (p.thread t) w' own' es) :
    LatchHolds (p.put t w' own') (h ++ es.map fun e => (t, e)) := by
  have hall : ∀ {rest : List Event}, (∀ e ∈ rest, e.writes = false) →
      ∀ e ∈ rest.map fun e => (t, e), e.2.writes = false := by
    intro rest hrest e he
    obtain ⟨event, hevent, rfl⟩ := List.mem_map.mp he
    exact hrest event hevent
  have hcalm : ∀ {e : Event}, e.writes = false → ¬ e.doubtful = true := by
    intro e hwrites hdoubtful
    rw [writes_of_doubtful hdoubtful] at hwrites
    cases hwrites
  rcases turn.latch with ⟨hlatch, hes⟩ | ⟨x, job, run, rest, rfl, hown, hnoops, rfl, hrest⟩
  · apply hp.extend
    · intro h
      exact ⟨hlatch.trans h, hall hes⟩
    · intro e he hdoubtful
      exact absurd hdoubtful (hcalm (hall hes e he))
    · apply List.pairwise_of_forall_mem_list
      intro e _ later hlater _
      exact hall hes later hlater
  · rw [List.map_cons]
    apply hp.extend
    · intro hlatch
      obtain ⟨hstays, hnone⟩ := hnoops.stays hlatch
      refine ⟨hstays, ?_⟩
      rintro e (_ | ⟨_, he⟩)
      · exact hnone
      · exact hall hrest e he
    · rintro e (_ | ⟨_, he⟩) hdoubtful
      · have hwrote : wrote run.calls = true := writes_of_doubtful hdoubtful
        rw [put_shared, (hnoops.contained (hcontained job x hown rfl) hwrote).2]
        unfold Event.doubtful at hdoubtful
        rw [Bool.and_eq_true] at hdoubtful
        exact hdoubtful.2
      · exact absurd hdoubtful (hcalm (hall hrest e he))
    · apply List.Pairwise.cons
      · intro later hlater _
        exact hall hrest later hlater
      · apply List.pairwise_of_forall_mem_list
        intro e _ later hlater _
        exact hall hrest later hlater

theorem latch_holds_of_contained {p : Pool World Call} {h : List (Nat × Event)}
    (hr : Reaches (service_threads config store) ContainedWrites started p h) :
    LatchHolds p h := by
  apply hr.invariant
  · exact ⟨by simp, .nil⟩
  · intro p h t a w own es hp hallowed hfires
    exact hp.step hallowed (service_step_turn hfires)

theorem finish_noop_ends (job : NoopJob) {run : NoopRun} (h : run.outcome ≠ .waiting) :
    ∃ call events, finish_noop job run = some (call, events) := by
  unfold finish_noop
  cases hr : run.outcome with
  | ok result => exact ⟨_, _, rfl⟩
  | raised e => exact ⟨_, _, rfl⟩
  | waiting => exact absurd hr h

/-- A write that is not contained breaks the law, whatever came before it. -/
theorem uncontained_write_breaks {p : Pool World Call} {t : Nat} {job : NoopJob} {x : Outside}
    (hown : p.thread t = .writing job)
    (hwrote : wrote (run_noop config job.operation job.confirmation x
      p.shared.deco_service).1.calls = true)
    (hcontained : ¬ Contained job.operation x.answers) (h : List (Nat × Event)) :
    ∃ w own es, service_step config store (.section x) p.shared (p.thread t) =
        some (w, own, es) ∧
      ¬ LatchHolds (p.put t w own) (h ++ es.map fun e => (t, e)) := by
  rcases hrun : run_noop config job.operation job.confirmation x p.shared.deco_service
    with ⟨run, after⟩
  have hnoops := Noops.of_run hrun
  have hwrote : wrote run.calls = true := by rwa [hrun] at hwrote
  obtain ⟨hfailed, hopen⟩ := hnoops.escapes hcontained hwrote
  obtain ⟨call, events, hgoes⟩ := finish_noop_ends job hnoops.prompt
  let identity := controller_identity p.shared.deco_service.device_cache
  refine ⟨{ p.shared with deco_service := after }, call, .noop job identity run :: events, ?_, ?_⟩
  · rw [hown]
    unfold service_step noop_step
    simp only [hrun, hgoes, Option.map_some, identity]
  · intro hholds
    have hdoubtful : (Event.noop job identity run).doubtful = true := by
      simp [Event.doubtful, hfailed, hwrote]
    have hlatched := hholds.latched (t, .noop job identity run) (by simp) hdoubtful
    rw [put_shared, hopen] at hlatched
    cases hlatched

/-- In every run whose writes are contained the latch holds, and a write that is not
contained breaks it at once. -/
theorem the_latch_holds_exactly_when_contained (config : ServerConfig)
    (store : InMemoryIdempotencyStore Rat) :
    (∀ p h, Reaches (service_threads config store) ContainedWrites started p h →
      LatchHolds p h) ∧
    ∀ (p : Pool World Call) (h : List (Nat × Event)) (t : Nat) (job : NoopJob) (x : Outside),
      p.thread t = .writing job →
      wrote (run_noop config job.operation job.confirmation x
        p.shared.deco_service).1.calls = true →
      ¬ Contained job.operation x.answers →
      ∃ w own es, service_step config store (.section x) p.shared (p.thread t) =
          some (w, own, es) ∧
        ¬ LatchHolds (p.put t w own) (h ++ es.map fun e => (t, e)) :=
  ⟨fun _ _ hr => latch_holds_of_contained hr,
    fun _ h _ _ _ hown hwrote hcontained => uncontained_write_breaks hown hwrote hcontained h⟩

/-! ## Runs on given answers -/

/-- Neither a POST nor the decoding of its response raises more than the verifier catches. -/
def Tolerable (posted : Except PyError (Except PyError ApiResponse)) : Prop :=
  ∀ e, posted = .error e ∨ posted = .ok (.error e) → caught e = true

theorem mild_answer {safe_url : String} {posted : Except PyError (Except PyError ApiResponse)} :
    Mild (transport.answer safe_url posted) ↔ Tolerable posted := by
  unfold Mild Tolerable transport.answer transport.request
  cases posted with
  | error exc =>
    constructor
    · rintro h e (heq | heq)
      · cases heq
        rw [← transport.caught_post_error safe_url]
        exact h _ rfl
      · cases heq
    · intro h e heq
      cases heq
      rw [transport.caught_post_error]
      exact h exc (Or.inl rfl)
  | ok decoded =>
    constructor
    · rintro h e (heq | heq)
      · cases heq
      · cases heq
        exact h e rfl
    · intro h e heq
      exact h e (Or.inr (congrArg Except.ok heq))

theorem contained_of_tolerable {x : Outside}
    (h : ∀ n, Tolerable (x.posted n)) (operation : String) : Contained operation x.answers := by
  have hmild : ∀ n, Mild (x.answers n) := fun n => mild_answer.mpr (h n)
  exact fun before _ => ⟨hmild 1, hmild 2, fun _ => hmild 3, fun _ => hmild 4⟩

/-- A run whose every POST is tolerable is allowed. -/
theorem contained_run {steps : List (Nat × Act)} (p : Pool World Call)
    (h : ∀ step ∈ steps, ∀ x, step.2 = .section x → ∀ n, Tolerable (x.posted n)) :
    (service_threads config store).RunAllowed ContainedWrites steps p := by
  refine runAllowed_of_invariant (J := fun steps _ => ∀ step ∈ steps, ∀ x,
    step.2 = .section x → ∀ operation, Contained operation x.answers) ?_ ?_ steps p ?_
  · intro t a steps p hall job x _ hx
    exact hall (t, a) (by simp) x hx job.operation
  · intro t a steps p _ _ _ hall _ step hstep
    exact hall step (by simp [hstep])
  · intro step hstep x hx operation
    exact contained_of_tolerable (h step hstep x hx) operation

theorem tolerable_timed_out : Tolerable (.error timed_out) := by
  rintro e (h | h)
  · cases h
    exact isinstance_of_cls (c := .TimeoutError) rfl (by decide)
  · cases h

theorem tolerable_answered (response : ApiResponse) : Tolerable (.ok (.ok response)) := by
  rintro e (h | h)
  · cases h
  · cases h

def enabled_answer : ApiResponse := { error_code := 0, result := .obj [("enable", .bool true)] }

/-- One thread verifies the no-op with the given POSTs, and then another one does. -/
def two_verifications (posted : Nat → Except PyError (Except PyError ApiResponse)) :
    List (Nat × Act) :=
  let confirmation := (HTTP_NOOP_CONFIRMATIONS BEAMFORMING_WRITE).getD ""
  [(0, .call (.verify_p9_http_noop BEAMFORMING_WRITE confirmation)),
    (0, .section { http_devices := .ok [p9_controller "AA-AA-AA-AA-AA-AA"] }),
    (0, .section { posted }),
    (1, .call (.verify_p9_http_noop BEAMFORMING_WRITE confirmation)),
    (1, .section {}),
    (1, .section { posted := fun _ => .ok (.ok enabled_answer) })]

/-- The router refuses the write. -/
def refused_write (n : Nat) : Except PyError (Except PyError ApiResponse) :=
  if n = 1 then .ok (.ok { error_code := -1, result := .null }) else .ok (.ok enabled_answer)

theorem tolerable_refused_write (n : Nat) : Tolerable (refused_write n) := by
  unfold refused_write
  split
  · exact tolerable_answered _
  · exact tolerable_answered _

/-- The response to the write breaks off. -/
def broken_response (n : Nat) : Except PyError (Except PyError ApiResponse) :=
  if n = 1 then .error { cls := .IncompleteRead, message := "IncompleteRead(12 bytes read)" }
  else .ok (.ok enabled_answer)

/-- Who logged what: whether it wrote, and whether the write is doubtful. -/
def writes_of (h : List (Nat × Event)) : List (Nat × Bool × Bool) :=
  h.map fun e => (e.1, e.2.writes, e.2.doubtful)

theorem refused_run_allowed : (service_threads lab_config lab_store).RunAllowed ContainedWrites
    (two_verifications refused_write) started := by
  apply contained_run
  intro step hstep x hx n
  unfold two_verifications at hstep
  simp only [List.mem_cons, List.not_mem_nil, or_false] at hstep
  rcases hstep with rfl | rfl | rfl | rfl | rfl | rfl
  · cases hx
  · cases hx
    exact tolerable_timed_out
  · cases hx
    exact tolerable_refused_write n
  · cases hx
  · cases hx
    exact tolerable_timed_out
  · cases hx
    exact tolerable_answered enabled_answer

theorem broken_not_contained :
    ¬ Contained BEAMFORMING_WRITE ({ posted := broken_response } : Outside).answers := by
  intro hcontained
  have hshows : Shows BEAMFORMING_WRITE (.enabled true)
      (({ posted := broken_response } : Outside).answers 0) := ⟨enabled_answer, rfl, rfl⟩
  have hcaught := (hcontained _ hshows).write _ rfl
  revert hcaught
  decide

/-- A thread that is about to write. -/
def about_to_write : Pool World Call := {
  shared := {}
  thread := fun _ => .writing {
    operation := BEAMFORMING_WRITE
    confirmation := (HTTP_NOOP_CONFIRMATIONS BEAMFORMING_WRITE).getD "" } }

/-- A write that the router refuses closes the latch, and the next call is refused. A write
whose response breaks off leaves it open. -/
theorem a_refused_write_closes_the_latch :
    (∃ p h, Reaches (service_threads lab_config lab_store) ContainedWrites started p h ∧
      writes_of h = [(0, true, true), (0, false, false), (1, false, false), (1, false, false)] ∧
      LatchHolds p h) ∧
    ∃ w own es, service_step lab_config lab_store (.section { posted := broken_response })
        about_to_write.shared (about_to_write.thread 0) = some (w, own, es) ∧
      ¬ LatchHolds (about_to_write.put 0 w own) ([] ++ es.map fun e => (0, e)) := by
  have hrun : ((service_threads lab_config lab_store).run (two_verifications refused_write)
      started []).map (fun r => writes_of r.2) = some
        [(0, true, true), (0, false, false), (1, false, false), (1, false, false)] := by
    decide +kernel
  obtain ⟨⟨p, h⟩, hrun, hwrites⟩ := Option.map_eq_some_iff.mp hrun
  have hreaches := reaches_of_allowed_run _ .refl hrun refused_run_allowed
  have hlatch := the_latch_holds_exactly_when_contained lab_config lab_store
  exact ⟨⟨p, h, hreaches, hwrites, hlatch.1 p h hreaches⟩,
    hlatch.2 about_to_write [] 0 _ _ rfl (by decide +kernel) broken_not_contained⟩

/-- A response that breaks off leaves the latch open, and the next call writes. -/
theorem a_broken_response_leaves_the_latch_open : ∃ p h,
    (service_threads lab_config lab_store).run (two_verifications broken_response) started [] =
      some (p, h) ∧
    writes_of h = [(0, true, true), (0, false, false), (1, true, false), (1, false, false)] ∧
    p.shared.deco_service.http_mutation_latched = false ∧ ¬ LatchHolds p h := by
  have hrun : ((service_threads lab_config lab_store).run (two_verifications broken_response)
      started []).map (fun r => (writes_of r.2, r.1.shared.deco_service.http_mutation_latched)) =
        some ([(0, true, true), (0, false, false), (1, true, false), (1, false, false)], false) := by
    decide +kernel
  obtain ⟨⟨p, h⟩, hrun, hends⟩ := Option.map_eq_some_iff.mp hrun
  obtain ⟨hwrites, hopen⟩ : writes_of h = [(0, true, true), (0, false, false), (1, true, false),
      (1, false, false)] ∧ p.shared.deco_service.http_mutation_latched = false :=
    Prod.mk.inj hends
  refine ⟨p, h, hrun, hwrites, hopen, ?_⟩
  intro hholds
  have hmem : (0, true, true) ∈ writes_of h := by
    rw [hwrites]
    simp
  obtain ⟨e, he, heq⟩ := List.mem_map.mp hmem
  have hlatched := hholds.latched e he (congrArg (fun x => x.2.2) heq)
  rw [hopen] at hlatched
  cases hlatched

end tplink_deco_api.service
