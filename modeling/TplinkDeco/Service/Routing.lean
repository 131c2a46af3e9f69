-- The routing of the semantic reads is sound: which reader gives the data, what
-- the provenance says of it, and where TMP may be asked at all.
import TplinkDeco.Service.CapabilityRouting
import TplinkDeco.Service.Eligibility

open dialogue json prog

namespace tplink_deco_api.service

open endpoint_catalog exceptions Dialogue

/-! ## Runs with any two readers -/

/-- Two readers that may do anything to the service. -/
structure Readers where
  http : String → Bool → DecoService → Except PyError Reading × DecoService
  tmp : String → Bool → DecoService → Except PyError Reading × DecoService

/-- `device_inventory`, which never waits, as an answer. -/
def inventory_answer (config : ServerConfig) (x : Outside) (s : DecoService) :
    Except PyError Inventory × DecoService :=
  match device_inventory config false x s with
  | (.ok inventory, s') => (.ok inventory, s')
  | (.raised e, s') => (.error e, s')
  | (.waiting, s') => (.error timed_out, s')

/-- The answers to the steps of a read. -/
def perform_read (config : ServerConfig) (x : Outside) (readers : Readers) :
    (i : ReadStep) → DecoService → i.Answer × DecoService
  | .device_inventory, s => inventory_answer config x s
  | .device_cache, s => (s.device_cache, s)
  | .read_http_capability name include_passwords, s => readers.http name include_passwords s
  | .read_tmp_capability name include_passwords, s => readers.tmp name include_passwords s

/-- A call of one of the two readers, with the state in which it was made. -/
structure ReaderCall where
  interface : CapabilityInterface
  result : Except PyError Reading
  before : DecoService

/-- The steps of a read with their answers. -/
abbrev ReadLog := List (Exchange ReadStep ReadStep.Answer DecoService)

/-- The call of a reader in a step, if it is one. -/
def reader_call : Exchange ReadStep ReadStep.Answer DecoService → Option ReaderCall
  | ⟨_, .device_inventory, _⟩ => none
  | ⟨_, .device_cache, _⟩ => none
  | ⟨before, .read_http_capability _ _, result⟩ =>
    some { interface := .http_luci, result, before }
  | ⟨before, .read_tmp_capability _ _, result⟩ => some { interface := .tmp_appv2, result, before }

/-- The calls of the readers. -/
def reader_calls (log : ReadLog) : List ReaderCall := log.filterMap reader_call

theorem reader_calls_append (first second : ReadLog) :
    reader_calls (first ++ second) = reader_calls first ++ reader_calls second :=
  List.filterMap_append

/-! ## What the routing promises -/

/-- The gates of the TMP reader, in the state in which it is called. -/
structure TmpAllowed (config : ServerConfig) (route : CapabilityRoute) (s : DecoService) :
    Prop where
  named : route.primary_interface = .tmp_appv2 ∨ route.fallback_interface = some .tmp_appv2
  reads : config.allow_tmp_reads = true
  configured : config.tp_link_id ≠ "" ∧ config.password ≠ "" ∧ config.tmp_host_key_sha256 ≠ ""
  exact_profile : ∃ devices controller, s.device_cache = some devices ∧
    controller_device devices = .ok controller ∧ profile_match controller = .exact
  secret : route.sensitivity = .secret → config.allow_sensitive_reads = true

/-- The errors of HTTP after which TMP may be asked. -/
def primary_caught (e : PyError) : Bool := e.isinstance [.ApiError, .TransportError, .ValueError]

/-- What a call of a reader has to do with the response. -/
structure Answered (route : CapabilityRoute) (calls : List ReaderCall) (call : ReaderCall)
    (response : CapabilityResponse) : Prop where
  made : call ∈ calls
  data : call.result = .ok response.reading
  alone : ∀ other ∈ calls, (∃ reading, other.result = .ok reading) → other = call
  source : response.provenance.source_interface = call.interface.name
  last : ∃ earlier selected, response.provenance.attempts = earlier ++ [selected] ∧
    selected.interface = call.interface.name ∧ selected.status = "ok"
  fallback_used : response.provenance.fallback_used = true ↔
    route.primary_interface = .http_luci ∧ call.interface = .tmp_appv2

/-- The law of a read. -/
structure RoutedSoundly (config : ServerConfig) (route : CapabilityRoute)
    (calls : List ReaderCall) (outcome : Except PyError CapabilityResponse) : Prop where
  http_once : (calls.filter (·.interface = .http_luci)).length ≤ 1
  tmp_once : (calls.filter (·.interface = .tmp_appv2)).length ≤ 1
  answered : ∀ response, outcome = .ok response → ∃ call, Answered route calls call response
  tmp_allowed : ∀ call ∈ calls, call.interface = .tmp_appv2 → TmpAllowed config route call.before
  uncaught : ∀ call ∈ calls, call.interface = .http_luci → ∀ e, call.result = .error e →
    primary_caught e = false → outcome = .error e ∧ ∀ other ∈ calls, other.interface = .http_luci

variable {config : ServerConfig} {route : CapabilityRoute}

theorem sound_of_no_call (e : PyError) : RoutedSoundly config route [] (.error e) where
  http_once := Nat.zero_le 1
  tmp_once := Nat.zero_le 1
  answered := fun _ h => nomatch h
  tmp_allowed := fun _ h => nomatch h
  uncaught := fun _ h => nomatch h

/-- The response that one reading makes, or the error of its reader. -/
def answer_with (route : CapabilityRoute) (earlier : List SourceAttempt) (selected : SourceAttempt)
    (fallback_used : Bool) (result : Except PyError Reading) : Except PyError CapabilityResponse :=
  result.map fun reading => capability_response route reading earlier selected fallback_used

theorem answered_of_result {calls : List ReaderCall} {call : ReaderCall}
    {earlier : List SourceAttempt} {selected : SourceAttempt} {fallback_used : Bool}
    {response : CapabilityResponse} (hmade : call ∈ calls)
    (halone : ∀ other ∈ calls, (∃ reading, other.result = .ok reading) → other = call)
    (hinterface : selected.interface = call.interface.name) (hstatus : selected.status = "ok")
    (hused : fallback_used = true ↔
      route.primary_interface = .http_luci ∧ call.interface = .tmp_appv2)
    (h : answer_with route earlier selected fallback_used call.result = .ok response) :
    Answered route calls call response := by
  unfold answer_with at h
  cases hresult : call.result with
  | error e =>
    rw [hresult] at h
    cases h
  | ok reading =>
    rw [hresult] at h
    cases h
    exact ⟨hmade, hresult, halone, hinterface, ⟨earlier, selected, rfl, hinterface, hstatus⟩,
      hused⟩

/-- One reader is called, and its result decides. -/
theorem sound_of_one_call {call : ReaderCall} (earlier : List SourceAttempt)
    (selected : SourceAttempt) (fallback_used : Bool)
    (hallowed : call.interface = .tmp_appv2 → TmpAllowed config route call.before)
    (hinterface : selected.interface = call.interface.name) (hstatus : selected.status = "ok")
    (hused : fallback_used = true ↔
      route.primary_interface = .http_luci ∧ call.interface = .tmp_appv2) :
    RoutedSoundly config route [call] (answer_with route earlier selected fallback_used call.result)
    where
  http_once := List.length_filter_le _ _
  tmp_once := List.length_filter_le _ _
  answered := by
    intro response h
    refine ⟨call, answered_of_result List.mem_cons_self ?_ hinterface hstatus hused h⟩
    exact fun other hother _ => List.mem_singleton.mp hother
  tmp_allowed := by
    intro other hother
    rw [List.mem_singleton.mp hother]
    exact hallowed
  uncaught := by
    intro other hother hhttp e hresult _
    rw [List.mem_singleton.mp hother] at hhttp hresult
    rw [hresult]
    refine ⟨rfl, fun call' hcall' => ?_⟩
    rw [List.mem_singleton.mp hcall']
    exact hhttp

/-- HTTP fails with an error that is caught, and nothing answers in its place. -/
theorem sound_of_failed_http {call : ReaderCall} {primary_error : PyError}
    (hinterface : call.interface = .http_luci) (hresult : call.result = .error primary_error)
    (hcaught : primary_caught primary_error = true) (e : PyError) :
    RoutedSoundly config route [call] (.error e) where
  http_once := List.length_filter_le _ _
  tmp_once := List.length_filter_le _ _
  answered := fun _ h => nomatch h
  tmp_allowed := by
    intro other hother htmp
    rw [List.mem_singleton.mp hother, hinterface] at htmp
    cases htmp
  uncaught := by
    intro other hother _ e' hresult' huncaught
    rw [List.mem_singleton.mp hother, hresult] at hresult'
    cases hresult'
    rw [hcaught] at huncaught
    cases huncaught

/-- HTTP fails with an error that is caught, and TMP is asked in its place. -/
theorem sound_of_fallback {failed call : ReaderCall} {primary_error : PyError}
    {earlier : List SourceAttempt} {selected : SourceAttempt}
    (hfailed : failed.interface = .http_luci) (hresult : failed.result = .error primary_error)
    (hcaught : primary_caught primary_error = true) (htmp : call.interface = .tmp_appv2)
    (hallowed : TmpAllowed config route call.before) (hprimary : route.primary_interface = .http_luci)
    (hinterface : selected.interface = CapabilityInterface.tmp_appv2.name)
    (hstatus : selected.status = "ok") :
    RoutedSoundly config route [failed, call] (answer_with route earlier selected true call.result)
    where
  http_once := by simp [hfailed, htmp]
  tmp_once := by simp [hfailed, htmp]
  answered := by
    intro response h
    refine ⟨call, answered_of_result (by simp) ?_ (htmp ▸ hinterface) hstatus ?_ h⟩
    · rintro other hother ⟨reading, hreading⟩
      rcases List.mem_cons.mp hother with rfl | hother
      · rw [hresult] at hreading
        cases hreading
      · exact List.mem_singleton.mp hother
    · exact iff_of_true rfl ⟨hprimary, htmp⟩
  tmp_allowed := by
    intro other hother hinterface'
    rcases List.mem_cons.mp hother with rfl | hother
    · rw [hfailed] at hinterface'
      cases hinterface'
    · rw [List.mem_singleton.mp hother]
      exact hallowed
  uncaught := by
    intro other hother hhttp e hresult' huncaught
    rcases List.mem_cons.mp hother with rfl | hother
    · rw [hresult] at hresult'
      cases hresult'
      rw [hcaught] at huncaught
      cases huncaught
    · rw [List.mem_singleton.mp hother, htmp] at hhttp
      cases hhttp

/-! ## The steps of `read_capability` -/

variable {x : Outside} {readers : Readers}

/-- The gates that the cache does not decide. -/
structure TmpConfigured (config : ServerConfig) : Prop where
  reads : config.allow_tmp_reads = true
  configured : config.tp_link_id ≠ "" ∧ config.password ≠ "" ∧ config.tmp_host_key_sha256 ≠ ""

theorem configured_of_bootstrap (h : tmp_identity_bootstrap_available config = true) :
    TmpConfigured config := by
  unfold tmp_identity_bootstrap_available at h
  simp only [Bool.and_eq_true, decide_eq_true_eq, ne_eq] at h
  exact ⟨h.1.1.1, h.1.1.2, h.1.2, h.2⟩

theorem configured_of_check (hprimary : route.primary_interface = .tmp_appv2)
    (h : check_route config route = .ok ()) : TmpConfigured config := by
  unfold check_route at h
  rw [if_pos hprimary] at h
  split_ifs at h with hsecret hreads
  obtain ⟨built, hbuilt, -⟩ := bind_eq_ok.mp h
  unfold tmp_ssh_config at hbuilt
  split_ifs at hbuilt with hlink hpassword hkey
  simp only [true_and] at hkey
  exact ⟨hreads, hlink, hpassword, hkey⟩

theorem secret_of_check (h : check_route config route = .ok ())
    (hsecret : route.sensitivity = .secret) : config.allow_sensitive_reads = true := by
  unfold check_route at h
  by_contra hgate
  rw [if_pos ⟨hsecret, hgate⟩] at h
  cases h

variable (config x readers) in
/-- `_tmp_fallback_available` calls no reader, and lets only an allowed call through. -/
theorem tmp_fallback_available_run (hnamed : route.fallback_interface = some .tmp_appv2)
    (s : DecoService) :
    ∃ outcome log,
      (tmp_fallback_available config route.sensitivity).run (perform_read config x readers) s =
        ⟨outcome, s, log⟩ ∧ reader_calls log = [] ∧
      (outcome = .ok true → TmpAllowed config route s) := by
  unfold tmp_fallback_available
  by_cases hconfigured : tmp_identity_bootstrap_available config = true
  · rw [if_neg (not_not.mpr hconfigured)]
    have hcache : device_cache.run (perform_read config x readers) s =
        ⟨.ok s.device_cache, s, [⟨s, .device_cache, s.device_cache⟩]⟩ := rfl
    rw [run_bind_ok hcache]
    cases hdevices : s.device_cache with
    | none => exact ⟨.ok false, _, rfl, rfl, fun h => nomatch h⟩
    | some devices =>
      dsimp only
      rcases hcontroller : controller_device devices with e | controller
      · exact ⟨.error e, _, rfl, rfl, fun h => nomatch h⟩
      · refine ⟨.ok (decide (profile_match controller = .exact) &&
          (decide (route.sensitivity ≠ .secret) || config.allow_sensitive_reads)), _, rfl, rfl, ?_⟩
        intro h
        obtain ⟨hreads, hset⟩ := configured_of_bootstrap hconfigured
        have hopen := Except.ok.inj h
        simp only [Bool.and_eq_true, Bool.or_eq_true, decide_eq_true_eq] at hopen
        refine ⟨Or.inr hnamed, hreads, hset,
          ⟨devices, controller, hdevices, hcontroller, hopen.1⟩, ?_⟩
        exact fun hsecret => hopen.2.resolve_left (not_not.mpr hsecret)
  · rw [if_pos hconfigured]
    exact ⟨.ok false, [], rfl, rfl, fun h => nomatch h⟩

variable (config route x readers) in
/-- A run that reads over TMP and makes a response of what it reads. -/
theorem run_tmp_response (name : String) (include_passwords : Bool)
    (earlier : List SourceAttempt) (selected : SourceAttempt) (used : Bool) (s : DecoService) :
    let r := (read_tmp name include_passwords >>= fun reading =>
      (pure (capability_response route reading earlier selected used) :
        ReadM CapabilityResponse)).run (perform_read config x readers) s
    reader_calls r.log = [⟨.tmp_appv2, (readers.tmp name include_passwords s).1, s⟩] ∧
    r.outcome = answer_with route earlier selected used (readers.tmp name include_passwords s).1 := by
  have hread : (read_tmp name include_passwords).run (perform_read config x readers) s =
      ⟨(readers.tmp name include_passwords s).1, (readers.tmp name include_passwords s).2,
        [⟨s, .read_tmp_capability name include_passwords,
          (readers.tmp name include_passwords s).1⟩]⟩ := by
    unfold read_tmp
    rw [run_bind_ok (run_question _ _), run_lift]
    rfl
  dsimp only
  rcases hresult : readers.tmp name include_passwords s with ⟨result, s'⟩
  rw [hresult] at hread
  cases result with
  | ok reading =>
    rw [run_bind_ok hread]
    exact ⟨rfl, rfl⟩
  | error e =>
    rw [run_bind_raised hread]
    exact ⟨rfl, rfl⟩

/-- A run that may be sound after some calls of the readers, and with the calls of its own. -/
def SoundAfter (config : ServerConfig) (route : CapabilityRoute) (calls : List ReaderCall)
    (r : Run ReadStep ReadStep.Answer PyError CapabilityResponse DecoService) : Prop :=
  RoutedSoundly config route (calls ++ reader_calls r.log) r.outcome

theorem SoundAfter.quiet {calls : List ReaderCall} {log : ReadLog}
    {r : Run ReadStep ReadStep.Answer PyError CapabilityResponse DecoService}
    (hquiet : reader_calls log = []) (h : SoundAfter config route calls r) :
    SoundAfter config route calls (r.after log) := by
  unfold SoundAfter at *
  rw [after_log, reader_calls_append, hquiet, List.nil_append]
  exact h

/-- The `except` clause, after a call of HTTP that it caught. -/
theorem read_fallback_sound {failed : ReaderCall} {primary_error : PyError}
    (hinterface : failed.interface = .http_luci) (hresult : failed.result = .error primary_error)
    (hcaught : primary_caught primary_error = true) (hprimary : route.primary_interface = .http_luci)
    (include_passwords : Bool) (s : DecoService) :
    SoundAfter config route [failed] ((read_fallback config route include_passwords
      primary_error).run (perform_read config x readers) s) := by
  have hraised : ∀ e log, reader_calls log = [] →
      SoundAfter config route [failed] ⟨.error e, s, log⟩ := by
    intro e log hquiet
    unfold SoundAfter
    rw [hquiet]
    exact sound_of_failed_http hinterface hresult hcaught e
  unfold read_fallback
  split_ifs with hpolicy
  · exact hraised primary_error [] rfl
  · have hnamed : route.fallback_interface = some .tmp_appv2 := not_not.mp (not_or.mp hpolicy).2
    obtain ⟨outcome, log, hrun, hquiet, hallowed⟩ :=
      tmp_fallback_available_run config x readers hnamed s
    cases outcome with
    | error e =>
      rw [run_bind_raised hrun]
      exact hraised e log hquiet
    | ok available =>
      rw [run_bind_ok hrun]
      refine SoundAfter.quiet hquiet ?_
      cases available with
      | false => exact hraised primary_error [] rfl
      | true =>
        obtain ⟨hcalls, houtcome⟩ := run_tmp_response config route x readers route.name
          include_passwords [{ primary_attempt route "error" with error_type := some primary_error.cls.name }]
          (tmp_attempt route) true s
        unfold SoundAfter
        rw [if_neg (by simp), hcalls, houtcome]
        exact sound_of_fallback hinterface hresult hcaught rfl (hallowed rfl) hprimary rfl rfl

theorem read_http_first_sound (hprimary : route.primary_interface = .http_luci)
    (include_passwords : Bool) (s : DecoService) :
    SoundAfter config route [] ((read_http_first config route include_passwords).run
      (perform_read config x readers) s) := by
  rcases hresult : readers.http route.name include_passwords s with ⟨result, s1⟩
  let call : ReaderCall := { interface := .http_luci, result, before := s }
  have hone : RoutedSoundly config route [call]
      (answer_with route [] (primary_attempt route "ok") false call.result) :=
    sound_of_one_call [] (primary_attempt route "ok") false (fun h => nomatch h)
      (congrArg CapabilityInterface.name hprimary) rfl (iff_of_false (by simp) fun h => nomatch h.2)
  have hread : (read_http route.name include_passwords).run (perform_read config x readers) s =
      ⟨.ok result, s1, [⟨s, .read_http_capability route.name include_passwords, result⟩]⟩ :=
    run_question_of hresult
  unfold read_http_first
  rw [run_bind_ok hread]
  cases result with
  | ok reading => exact hone
  | error primary_error =>
    dsimp only
    split_ifs with hcaught
    · have hfailed : call.interface = .http_luci := rfl
      exact read_fallback_sound hfailed rfl hcaught hprimary include_passwords s1
    · exact hone

theorem read_route_sound {inventory : Inventory} {s : DecoService}
    (hcheck : check_route config route = .ok ()) (hshows : ShowsController inventory s)
    (include_passwords : Bool) :
    SoundAfter config route [] ((read_route config route inventory include_passwords).run
      (perform_read config x readers) s) := by
  have hraised : ∀ e log, reader_calls log = [] →
      SoundAfter config route [] ⟨.error e, s, log⟩ := by
    intro e log hquiet
    unfold SoundAfter
    rw [hquiet]
    exact sound_of_no_call e
  unfold read_route
  split_ifs with hprimary
  · unfold read_primary_tmp
    split_ifs with hprofile
    · exact hraised _ [] rfl
    · obtain ⟨hcalls, houtcome⟩ := run_tmp_response config route x readers route.name
        include_passwords [] (primary_attempt route "ok") false s
      unfold SoundAfter
      rw [hcalls, houtcome]
      obtain ⟨hreads, hset⟩ := configured_of_check hprimary hcheck
      obtain ⟨⟨devices, hcache, hcontroller⟩, hmatch⟩ := hshows
      have hexact : profile_match inventory.controller = .exact := hmatch ▸ not_not.mp hprofile
      have hallowed : TmpAllowed config route s := ⟨Or.inl hprimary, hreads, hset,
        ⟨devices, inventory.controller, hcache, hcontroller, hexact⟩, secret_of_check hcheck⟩
      refine sound_of_one_call [] (primary_attempt route "ok") false (fun _ => hallowed)
        (congrArg CapabilityInterface.name hprimary) rfl (iff_of_false (by simp) fun h => ?_)
      rw [hprimary] at h
      cases h.1
  · have hhttp : route.primary_interface = .http_luci := by
      cases hinterface : route.primary_interface with
      | http_luci => rfl
      | tmp_appv2 => exact absurd hinterface hprimary
    cases hcontext : resource_read_context inventory with
    | error e => exact hraised e [] rfl
    | ok context =>
      rw [run_bind_ok (run_lift (.ok context) s), after_nil]
      unfold selects_tmp
      split_ifs with hselects
      · obtain ⟨outcome, log, hrun, hquiet, hallowed⟩ :=
          tmp_fallback_available_run config x readers hselects.2 s
        cases outcome with
        | error e =>
          rw [run_bind_raised hrun]
          exact hraised e log hquiet
        | ok available =>
          rw [run_bind_ok hrun]
          refine SoundAfter.quiet hquiet ?_
          cases available with
          | false => exact read_http_first_sound hhttp include_passwords s
          | true =>
            let skipped : SourceAttempt := {
              primary_attempt route "skipped" with
              reason := some "identity_bootstrap_selected_tmp" }
            obtain ⟨hcalls, houtcome⟩ := run_tmp_response config route x readers route.name
              include_passwords [skipped] (tmp_attempt route) true s
            unfold SoundAfter
            rw [if_pos rfl]
            unfold read_selected_tmp
            rw [hcalls, houtcome]
            exact sound_of_one_call [skipped] (tmp_attempt route) true
              (fun _ => hallowed rfl) rfl rfl (iff_of_true rfl ⟨hhttp, rfl⟩)
      · exact read_http_first_sound hhttp include_passwords s

theorem inventory_answer_shows {s s1 : DecoService} {inventory : Inventory}
    (h : inventory_answer config x s = (.ok inventory, s1)) : ShowsController inventory s1 := by
  unfold inventory_answer at h
  rcases hrun : device_inventory config false x s with ⟨outcome, s'⟩
  rw [hrun] at h
  cases outcome with
  | ok given =>
    cases h
    exact shows_of_inventory hrun
  | raised e => cases h
  | waiting => cases h

/-- The routing of every capability but `mesh_nodes` is sound, whatever the two readers do. -/
theorem capability_routing_is_sound (config : ServerConfig) (x : Outside) (readers : Readers)
    {name : String} {route : CapabilityRoute} (hroute : get_capability_route name = some route)
    (hname : name ≠ "mesh_nodes") (include_passwords : Bool) (s : DecoService) :
    let r := (read_capability config name include_passwords).run (perform_read config x readers) s
    RoutedSoundly config route (reader_calls r.log) r.outcome := by
  show SoundAfter config route [] _
  have hraised : ∀ e s log, reader_calls log = [] →
      SoundAfter config route [] ⟨.error e, s, log⟩ := by
    intro e s log hquiet
    unfold SoundAfter
    rw [hquiet]
    exact sound_of_no_call e
  unfold read_capability
  split_ifs with hpasswords
  · exact hraised _ s [] rfl
  · simp only [hroute]
    cases hcheck : check_route config route with
    | error e => exact hraised e s [] rfl
    | ok checked =>
      rw [run_bind_ok (run_lift (.ok checked) s), after_nil]
      rcases hanswer : inventory_answer config x s with ⟨answer, s1⟩
      have hread : read_inventory.run (perform_read config x readers) s =
          ⟨answer, s1, [⟨s, .device_inventory, answer⟩]⟩ := by
        unfold read_inventory
        rw [run_bind_ok (run_question_of (i := ReadStep.device_inventory) hanswer), run_lift]
        rfl
      cases answer with
      | error e =>
        rw [run_bind_raised hread]
        exact hraised e s1 _ rfl
      | ok inventory =>
        rw [run_bind_ok hread]
        refine SoundAfter.quiet rfl ?_
        exact read_route_sound hcheck (inventory_answer_shows hanswer) include_passwords

/-! ## A read that falls back -/

/-- A service that may read over TMP, with credentials of the right form. -/
def routing_config : ServerConfig := {
  password := "secret"
  tp_link_id := "owner@example.com"
  tmp_host_key_sha256 := "SHA256:47DEQpj8HBSa+/TImW+5JCeuQeRkm5NMpJWZG3hSuFU"
  allow_sensitive_reads := true
  allow_tmp_reads := true }

/-- HTTP does not answer, and TMP does. -/
def failing_http : Readers where
  http := fun _ _ s => (.error { cls := .TransportError }, s)
  tmp := fun _ _ s => (.ok { data := .view .null, read_over := .tmp_appv2 }, s)

def clients_route : CapabilityRoute :=
  http_route "clients" .secret "admin.client.client_list.read" "0x4012" "p9_live_schema_equivalence"

theorem clients_routed : get_capability_route "clients" = some clients_route := by decide

/-- The clients are read over TMP, after HTTP. -/
theorem the_clients_are_routed_soundly :
    let r := (read_capability routing_config "clients" false).run
      (perform_read routing_config {} failing_http)
      { device_cache := some [p9_controller "AA-AA-AA-AA-AA-AA"] }
    RoutedSoundly routing_config clients_route (reader_calls r.log) r.outcome ∧
      (reader_calls r.log).map (·.interface) = [.http_luci, .tmp_appv2] := by
  refine ⟨?_, by decide +kernel⟩
  exact capability_routing_is_sound routing_config {} failing_http clients_routed
    (by decide) false _

end tplink_deco_api.service
