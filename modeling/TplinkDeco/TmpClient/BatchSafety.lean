-- When a batch of TMP reads comes to its end: exactly when each of its requests is
-- served. It then has an entry for each operation, with that request's own outcome.
import TplinkDeco.TmpClient.Probes

open json prog script

namespace tplink_deco_api.tmp_batches

open exceptions tmp_client tmp_boolean_noop_verification Prog Script

variable {router : Router}

/-! ## One request of a batch -/

/-- The request for the JSON of a read is served. -/
def ReadServed (router : Router) (read : TmpRead) (c : Client) : Prop :=
  Served router (fun s => session_request_read_json router s read.code) 2 c

theorem read_outcome_ends (router : Router) (read : TmpRead) (c : Client) :
    (∃ outcome after, read_outcome router read c = (.ok outcome, after)) ↔
      ReadServed router read c := by
  unfold read_outcome
  rw [trying_ends]
  exact ⟨served_of_settles, Served.settles⟩

/-- The response can be parsed, or fails to parse in a way that the probe takes for binary. -/
def Parses (response : RawResponse) : Prop :=
  ∀ e, response.loaded = .error e → e.isinstance [.UnicodeDecodeError, .ValueError] = true

theorem parse_raw_ends (response : RawResponse) :
    (∃ answer, parse_raw response = .ok answer) ↔ Parses response := by
  unfold parse_raw Parses
  cases hload : response.loaded with
  | ok fields => simp
  | error e => by_cases he : e.isinstance [.UnicodeDecodeError, .ValueError] = true <;> simp [he]

/-- The request for the raw bytes of a read is served, and its response parses. -/
def RawServed (router : Router) (read : TmpRead) (c : Client) : Prop :=
  Served router (fun s => session_request_read router s read.code) 2 c ∧
    ∀ response after, request_read router read.code c = (.ok response, after) → Parses response

theorem raw_outcome_answered {read : TmpRead} {c after : Client} {response : RawResponse}
    (h : request_read router read.code c = (.ok response, after)) :
    (∃ outcome last, raw_outcome router read c = (.ok outcome, last)) ↔ Parses response := by
  have hrun : raw_outcome router read c =
      (Prog.lift (parse_raw response) >>= fun answer => pure (.ok answer)) after :=
    bind_ok (trying_ok h)
  rw [hrun, ← parse_raw_ends]
  cases parse_raw response with
  | ok answer => exact ⟨fun _ => ⟨answer, rfl⟩, fun _ => ⟨.ok answer, after, rfl⟩⟩
  | error e => exact ⟨nofun, nofun⟩

theorem raw_outcome_ends (router : Router) (read : TmpRead) (c : Client) :
    (∃ outcome after, raw_outcome router read c = (.ok outcome, after)) ↔
      RawServed router read c := by
  have hserved : Settles caught (request_read router read.code c).1 ↔
      Served router (fun s => session_request_read router s read.code) 2 c :=
    ⟨served_of_settles, Served.settles⟩
  unfold RawServed
  rw [← hserved]
  rcases hrun : request_read router read.code c with ⟨r, after⟩
  cases r with
  | ok response =>
    rw [raw_outcome_answered hrun]
    constructor
    · intro hparses
      refine ⟨trivial, ?_⟩
      rintro response' after' heq
      cases heq
      exact hparses
    · intro h
      exact h.2 response after rfl
  | raised e =>
    unfold raw_outcome
    cases hc : caught e with
    | true =>
      rw [bind_ok (trying_caught hrun hc)]
      exact ⟨fun _ => ⟨hc, nofun⟩, fun _ => ⟨.error e, after, rfl⟩⟩
    | false =>
      rw [bind_raised (trying_escapes hrun hc)]
      simp [Settles, hc]
  | waiting =>
    have hwait : (request_read router read.code).trying caught c = (.waiting, after) := by
      unfold trying
      rw [hrun]
    unfold raw_outcome
    rw [bind_waiting hwait]
    simp [Settles]

/-! ## The reads for the owners -/

/-- The reads of a batch with their outcomes. -/
abbrev ReadLog := List (TmpRead × Except PyError JsonObject)

/-- The opcode that was read. -/
def code_of (event : TmpRead × Except PyError JsonObject) : Nat := event.1.code

/-- The responses that a log shows, the latest first. -/
def answered (log : ReadLog) : Responses :=
  (log.filterMap fun event =>
    match event.2 with
    | .ok response => some (event.1.code, response)
    | .error _ => none).reverse

/-- The errors of the reads that failed. -/
def errors_of (log : ReadLog) : List DependencyError :=
  log.filterMap fun event =>
    match event.2 with
    | .ok _ => none
    | .error exc => some (dependency_error event.1.code exc)

/-- The dependencies are what the log of their reads says, in the order of the sources. -/
structure DependenciesLogged (responses : Responses) (sources : List Nat) (log : ReadLog)
    (dependencies : Dependencies) : Prop where
  in_order : (log.map code_of).Sublist sources
  owner_ids : dependencies.owner_ids = tmp_owner_ids (answered log ++ responses)
  request_count : dependencies.request_count = log.length
  errors : dependencies.errors = errors_of log

theorem answered_cons_ok (source : Nat) (params : Json) (response : JsonObject) (log : ReadLog)
    (responses : Responses) :
    answered (({ code := source, params }, .ok response) :: log) ++ responses =
      answered log ++ ((source, response) :: responses) := by
  simp [answered]

theorem answered_cons_error (read : TmpRead) (exc : PyError) (log : ReadLog) :
    answered ((read, .error exc) :: log) = answered log := by
  simp [answered]

theorem dependencies_logged {attempted : List Nat} {sources : List Nat} {responses : Responses}
    {log : ReadLog} {dependencies : Dependencies}
    (h : Logs (read_dependencies attempted responses sources) log dependencies) :
    DependenciesLogged responses sources log dependencies := by
  induction sources generalizing responses log dependencies with
  | nil =>
    obtain ⟨rfl, rfl⟩ := logs_done h
    exact ⟨List.Sublist.slnil, rfl, rfl, rfl⟩
  | cons source sources ih =>
    unfold read_dependencies at h
    by_cases hread : source ∈ attempted
    · rw [if_pos hread] at h
      have hrest := ih h
      exact { hrest with in_order := hrest.in_order.cons source }
    · rw [if_neg hread] at h
      obtain ⟨outcome, tail, rfl, htail⟩ := logs_question h
      cases outcome with
      | error exc =>
        obtain ⟨first, rest, last, rfl, hfirst, hlast⟩ := logs_bind htail
        obtain ⟨rfl, rfl⟩ := logs_done hlast
        have hrest := ih hfirst
        rw [List.append_nil]
        refine ⟨hrest.in_order.cons_cons source, ?_, ?_, ?_⟩
        · rw [answered_cons_error]
          exact hrest.owner_ids
        · simp [hrest.request_count]
        · simp [hrest.errors, errors_of]
      | ok response =>
        by_cases howners : tmp_owner_ids ((source, response) :: responses) ≠ []
        · -- The loop stops at the first owner.
          simp only [howners, ne_eq, not_false_eq_true, if_true] at htail
          obtain ⟨rfl, rfl⟩ := logs_done htail
          exact ⟨(List.nil_sublist sources).cons_cons source, rfl, rfl, rfl⟩
        · simp only [howners, if_false] at htail
          obtain ⟨first, rest, last, rfl, hfirst, hlast⟩ := logs_bind htail
          obtain ⟨rfl, rfl⟩ := logs_done hlast
          have hrest := ih hfirst
          rw [List.append_nil]
          refine ⟨hrest.in_order.cons_cons source, ?_, ?_, ?_⟩
          · rw [answered_cons_ok]
            exact hrest.owner_ids
          · simp [hrest.request_count]
          · simpa [errors_of] using hrest.errors

/-! ## The results of a batch -/

/-- The owners that the answers name. -/
def owners_of (direct sources : ReadLog) : List String :=
  tmp_owner_ids (answered sources ++ answered direct)

/-- The results of `p9_tmp_data` stand for the operations in order, each read with the
outcome that the log has for it. -/
structure DataReported (s : DataSelection) (direct sources parameterized : ReadLog)
    (direct_entries parameterized_entries : List TmpDataEntry) (result : TmpData) : Prop where
  direct_reads : Reported (s.selected.map direct_step) direct direct_entries
  source_reads : (sources.map code_of).Sublist TMP_PARAMETER_SOURCE_OPCODES
  parameterized_reads : Reported
    (s.selected_parameterized.flatMap (parameterized_steps (owners_of direct sources)))
    parameterized parameterized_entries
  results : result.results = direct_entries ++ parameterized_entries
  dependency_request_count : result.dependency_request_count = sources.length
  dependency_errors : result.dependency_errors = errors_of sources

/-- The responses in the entries of the direct reads are those of the log. -/
theorem responses_of_direct {opcodes : List TmpOpcode} {log : ReadLog}
    {results : List TmpDataEntry} (h : Reported (opcodes.map direct_step) log results) :
    responses_of results = answered log := by
  unfold responses_of answered
  congr 1
  induction opcodes generalizing log results with
  | nil =>
    cases h
    rfl
  | cons opcode opcodes ih =>
    cases h with
    | asks _ outcome _ rest =>
      have hrest := ih rest
      cases outcome with
      | error exc => simpa [with_outcome, data_entry] using hrest
      | ok response => simpa [with_outcome, data_entry] using hrest

theorem owner_sources_sublist (s : DataSelection) (responses : Responses) :
    (owner_sources s responses).Sublist TMP_PARAMETER_SOURCE_OPCODES := by
  unfold owner_sources
  split
  · exact List.Sublist.refl _
  · exact List.nil_sublist _

theorem tmp_data_reported {s : DataSelection} {log : ReadLog} {result : TmpData}
    (h : Logs (tmp_data_batch s) log result) :
    ∃ direct sources parameterized direct_entries parameterized_entries,
      log = direct ++ sources ++ parameterized ∧
      DataReported s direct sources parameterized direct_entries parameterized_entries result := by
  unfold tmp_data_batch at h
  obtain ⟨direct, direct_entries, tail, rfl, hdirect, htail⟩ := logs_bind h
  obtain ⟨sources, dependencies, rest, rfl, hsources, hrest⟩ := logs_bind htail
  obtain ⟨parameterized, parameterized_entries, last, rfl, hparameterized, hlast⟩ :=
    logs_bind hrest
  obtain ⟨rfl, rfl⟩ := logs_done hlast
  have hdirect := report_logs hdirect
  have hsources := dependencies_logged hsources
  refine ⟨direct, sources, parameterized, direct_entries, parameterized_entries, by simp, ?_⟩
  have howners : dependencies.owner_ids = owners_of direct sources := by
    rw [hsources.owner_ids, responses_of_direct hdirect]
    rfl
  exact {
    direct_reads := hdirect
    source_reads := hsources.in_order.trans (owner_sources_sublist s _)
    parameterized_reads := howners ▸ report_logs hparameterized
    results := rfl
    dependency_request_count := hsources.request_count
    dependency_errors := hsources.errors }

/-- The probes of a batch with their outcomes. -/
abbrev ProbeLog := List (TmpRead × Except PyError RawAnswer)

/-- The observations of the probe of the untested reads stand for the variants in order,
with those of the control before and after. -/
structure ProbeReported (s : ProbeSelection) (control : TmpOpcode)
    (before variants after : ProbeLog) (result : TmpUnverifiedReads) : Prop where
  observations : Reported (s.selected.flatMap probe_steps) variants result.observations
  controls : Reported [control_step control "before", control_step control "after"]
    (before ++ after) result.control_observations

theorem probe_reported {s : ProbeSelection} {control : TmpOpcode} {log : ProbeLog}
    {result : TmpUnverifiedReads} (h : Logs (probe_batch s control) log result) :
    ∃ before variants after, log = before ++ variants ++ after ∧
      ProbeReported s control before variants after result := by
  unfold probe_batch at h
  obtain ⟨before, first, tail, rfl, hbefore, htail⟩ := logs_bind h
  obtain ⟨variants, observations, rest, rfl, hvariants, hrest⟩ := logs_bind htail
  obtain ⟨after, second, last, rfl, hafter, hlast⟩ := logs_bind hrest
  obtain ⟨rfl, rfl⟩ := logs_done hlast
  refine ⟨before, variants, after, by simp, report_logs hvariants, ?_⟩
  have hfirst := report_logs hbefore
  have hsecond := report_logs hafter
  cases hfirst with
  | asks _ outcome _ rest =>
    cases rest
    exact .asks _ outcome _ hsecond

/-! ## The variants fit the budget of requests -/

theorem length_build_variants (owner_ids : List String) (included : Bool) (now : Int)
    (h : owner_ids.length ≤ 3) :
    (build_variants owner_ids included now).length ≤ MAX_ATTEMPTS := by
  have hmodules : (if included then module_variants else []).length ≤ 11 := by
    cases included <;> decide
  have howners : ((owner_ids.take 1).flatMap fun owner_id =>
      owner_variants 0x402F owner_id now (by decide) ++
        owner_variants 0x4031 owner_id now (by decide)).length ≤ 4 := by
    cases owner_ids <;> simp [owner_variants]
  have hstatic : static_variants.length = 4 := rfl
  unfold build_variants MAX_ATTEMPTS
  simp only [List.length_append, value_variants, List.length_map, List.length_zipIdx]
  omega

/-! ## The batches end -/

/-- `p9_tmp_data` returns, and its results are what the reads gave. -/
def DataReturns (router : Router) (tmp_reads sensitive_reads : Bool) (catalog : TmpOpcodeCatalog)
    (category : String) (include_parameterized : Bool) (c : Client) : Prop :=
  ∃ result after,
    p9_tmp_data router tmp_reads sensitive_reads catalog category include_parameterized c =
      (.ok result, after) ∧
    ∃ s direct sources parameterized direct_entries parameterized_entries,
      select_tmp_data tmp_reads sensitive_reads catalog category include_parameterized = .ok s ∧
      Answers (read_outcome router) c (direct ++ sources ++ parameterized) after ∧
      DataReported s direct sources parameterized direct_entries parameterized_entries result

/-- The gates are open, and each read of the batch is served. -/
def DataServed (router : Router) (tmp_reads sensitive_reads : Bool) (catalog : TmpOpcodeCatalog)
    (category : String) (include_parameterized : Bool) (c : Client) : Prop :=
  ∃ s, select_tmp_data tmp_reads sensitive_reads catalog category include_parameterized = .ok s ∧
    (tmp_data_batch s).Served (read_outcome router) (ReadServed router) c

theorem p9_tmp_data_returns (router : Router) (tmp_reads sensitive_reads : Bool)
    (catalog : TmpOpcodeCatalog) (category : String) (include_parameterized : Bool) (c : Client) :
    DataReturns router tmp_reads sensitive_reads catalog category include_parameterized c ↔
      DataServed router tmp_reads sensitive_reads catalog category include_parameterized c := by
  unfold DataReturns DataServed p9_tmp_data
  cases hselect : select_tmp_data tmp_reads sensitive_reads catalog category
    include_parameterized with
  | error e =>
    constructor
    · rintro ⟨result, after, hrun, -⟩
      cases hrun
    · rintro ⟨s, hs, -⟩
      cases hs
  | ok s =>
    have hends := ends_iff_served (read_outcome_ends router) (tmp_data_batch s) c
    constructor
    · rintro ⟨result, after, hrun, -⟩
      exact ⟨s, rfl, hends.mp ⟨result, after, hrun⟩⟩
    · rintro ⟨s', heq, hserved⟩
      cases heq
      obtain ⟨result, after, hrun⟩ := hends.mpr hserved
      obtain ⟨log, hlogs, hanswers⟩ := logs_of_run hrun
      obtain ⟨direct, sources, parameterized, direct_entries, parameterized_entries, rfl,
        hreported⟩ :=
        tmp_data_reported hlogs
      exact ⟨result, after, hrun, s, direct, sources, parameterized, direct_entries,
        parameterized_entries, rfl, hanswers, hreported⟩

/-- The probe of the untested reads returns, and its observations are what the reads gave. -/
def ProbeReturns (router : Router) (catalog : TmpOpcodeCatalog) (include_sensitive : Bool)
    (max_operations : Option Int) (c : Client) : Prop :=
  ∃ result last,
    probe_tmp_unverified_reads router catalog include_sensitive max_operations c =
      (.ok result, last) ∧
    ∃ s before variants after,
      select_unverified_reads catalog include_sensitive max_operations = .ok s ∧
      Answers (raw_outcome router) c (before ++ variants ++ after) last ∧
      ProbeReported s (catalog.get_tmp_opcode CONTROL_OPCODE control_listed) before variants after
        result

/-- Whatever the batch meets, each of its requests is served. -/
def ProbeServed (router : Router) (catalog : TmpOpcodeCatalog) (include_sensitive : Bool)
    (max_operations : Option Int) (c : Client) : Prop :=
  ∃ s, select_unverified_reads catalog include_sensitive max_operations = .ok s ∧
    (probe_batch s (catalog.get_tmp_opcode CONTROL_OPCODE control_listed)).Served
      (raw_outcome router) (RawServed router) c

theorem probe_tmp_unverified_reads_returns (router : Router) (catalog : TmpOpcodeCatalog)
    (include_sensitive : Bool) (max_operations : Option Int) (c : Client) :
    ProbeReturns router catalog include_sensitive max_operations c ↔
      ProbeServed router catalog include_sensitive max_operations c := by
  unfold ProbeReturns ProbeServed probe_tmp_unverified_reads
  cases hselect : select_unverified_reads catalog include_sensitive max_operations with
  | error e =>
    constructor
    · rintro ⟨result, after, hrun, -⟩
      cases hrun
    · rintro ⟨s, hs, -⟩
      cases hs
  | ok s =>
    have hends := ends_iff_served (raw_outcome_ends router)
      (probe_batch s (catalog.get_tmp_opcode CONTROL_OPCODE control_listed)) c
    constructor
    · rintro ⟨result, after, hrun, -⟩
      exact ⟨s, rfl, hends.mp ⟨result, after, hrun⟩⟩
    · rintro ⟨s', heq, hserved⟩
      cases heq
      obtain ⟨result, last, hrun⟩ := hends.mpr hserved
      obtain ⟨log, hlogs, hanswers⟩ := logs_of_run hrun
      obtain ⟨before, variants, after, rfl, hreported⟩ := probe_reported hlogs
      exact ⟨result, last, hrun, s, before, variants, after, rfl, hanswers, hreported⟩

/-- The loop over the variants of the read contracts. -/
def contract_batch (catalog : TmpOpcodeCatalog) (included : Bool) (now : Int)
    (owner_ids : List String) :
    Script TmpRead (Except PyError JsonObject) (List ContractObservation) :=
  report ((build_variants owner_ids included now).map (contract_step catalog))

/-- The variants are all tried, and their observations are what the reads gave. -/
def ContractsReturn (router : Router) (catalog : TmpOpcodeCatalog) (included : Bool) (now : Int)
    (owner_ids : List String) (c : Client) : Prop :=
  ∃ result after log,
    try_contracts router catalog included now owner_ids c = (.ok result, after) ∧
    Answers (read_outcome router) c log after ∧
    Reported ((build_variants owner_ids included now).map (contract_step catalog)) log
      result.observations

theorem try_contracts_returns (router : Router) (catalog : TmpOpcodeCatalog) (included : Bool)
    (now : Int) {owner_ids : List String} (h : owner_ids.length ≤ 3) (c : Client) :
    ContractsReturn router catalog included now owner_ids c ↔
      (contract_batch catalog included now owner_ids).Served (read_outcome router)
        (ReadServed router) c := by
  have hbudget := Nat.not_lt.mpr (length_build_variants owner_ids included now h)
  have hends := ends_iff_served (read_outcome_ends router)
    (contract_batch catalog included now owner_ids) c
  rw [← hends]
  unfold ContractsReturn try_contracts
  simp only [if_neg hbudget]
  constructor
  · rintro ⟨result, after, log, hrun, -, -⟩
    obtain ⟨observations, after', hloop, -⟩ := bind_eq_ok hrun
    exact ⟨observations, after', hloop⟩
  · rintro ⟨observations, after, hrun⟩
    obtain ⟨log, hlogs, hanswers⟩ := logs_of_run hrun
    exact ⟨_, after, log, bind_ok hrun, hanswers, report_logs hlogs⟩

/-- A batch comes to its end, with an entry for each operation in order and in each the
outcome of its own request, exactly when every request of the batch is served. -/
theorem batches_end_exactly_when_served (router : Router) (catalog : TmpOpcodeCatalog)
    (c : Client) :
    (∀ (tmp_reads sensitive_reads : Bool) (category : String) (include_parameterized : Bool),
      DataReturns router tmp_reads sensitive_reads catalog category include_parameterized c ↔
        DataServed router tmp_reads sensitive_reads catalog category include_parameterized c) ∧
    (∀ (include_sensitive : Bool) (max_operations : Option Int),
      ProbeReturns router catalog include_sensitive max_operations c ↔
        ProbeServed router catalog include_sensitive max_operations c) ∧
    (∀ (included : Bool) (now : Int) (values : List String),
      ContractsReturn router catalog included now (values.eraseDups.take 3) c ↔
        (contract_batch catalog included now (values.eraseDups.take 3)).Served
          (read_outcome router) (ReadServed router) c) := by
  refine ⟨?_, ?_, ?_⟩
  · intro tmp_reads sensitive_reads category include_parameterized
    exact p9_tmp_data_returns router tmp_reads sensitive_reads catalog category
      include_parameterized c
  · intro include_sensitive max_operations
    exact probe_tmp_unverified_reads_returns router catalog include_sensitive max_operations c
  · intro included now values
    exact try_contracts_returns router catalog included now (List.length_take_le 3 _) c

/-! ## A router that drops the connection twice -/

def read_opcode (code : Nat) (name : String) (p9_observation : TmpP9Observation)
    (p9_confirmed_parameter_sets : List (List String)) : TmpOpcode := {
  code
  name
  safety := "read_only"
  sensitivity := .«private»
  category := "network"
  app_dispatch_methods := []
  app_contract_status := .no_app_call_site
  app_candidate_parameter_keys := []
  p9_observation
  p9_confirmed_parameter_sets }

/-- Some of the reads of the catalogue, two of which return data and take no parameters. -/
def some_reads : TmpOpcodeCatalog := {
  opcodes := [
    read_opcode 0x4004 "TMP_APPV2_OP_IPV4_GET" .returned_data [],
    read_opcode 0x400F "TMP_APPV2_OP_DEVICE_LIST_GET" .returned_data [],
    read_opcode 0x402D "TMP_APPV2_OP_OWNER_GET" .returned_data [["owner_id"]],
    read_opcode 0x402F "TMP_APPV2_OP_PARENT_CTRL_INSIGHTS_GET" .returned_data [["owner_id"]],
    read_opcode 0x4031 "TMP_APPV2_OP_PARENT_CTRL_HISTORY_GET" .returned_data [["owner_id"]],
    read_opcode 0x403A "TMP_APPV2_OP_DEFAULT_WEBSITE_APP_GET" .returned_data [["version"]],
    read_opcode 0x4049 "TMP_APPV2_OP_IOT_CLIENT_GET" .returned_data [["iot_client_list"]],
    read_opcode 0x404B "TMP_APPV2_OP_IOT_CLIENT_LIST_GET_BY_MODULE" .untested [],
    read_opcode 0x4201 "TMP_APPV2_OP_SECURITY_CATEGORY_LIST_GET" .returned_data [["version"]],
    read_opcode 0x4202 "TMP_APPV2_OP_SECURITY_RULE_LIST_GET" .returned_data [["version"]]]
  listed := by decide }

def connection_lost : PyError := {
  cls := .TransportError
  message := "Failed to read TMP stream: connection closed" }

/-- Each request on a session fails, and each new connection comes up. -/
def dropping_router : Router := {
  moments := fun _ => { answer := .error connection_lost }
  get_tmp_opcode := fun code =>
    (some_reads.opcodes.find? (·.code = code)).map TmpOpcode.toTmpOpcodeSpec }

/-- The first read fails twice and the client closes itself; the error of the second read
is then another one, and the batch raises it and loses the entry of the first. -/
theorem the_second_read_ends_the_batch :
    (p9_tmp_data dropping_router true true some_reads "" false connected_client).1 =
      .raised not_connected ∧
    ¬ ∀ (router : Router) (catalog : TmpOpcodeCatalog) (category : String)
        (include_parameterized : Bool) (s : DataSelection) (c : Client),
      select_tmp_data true true catalog category include_parameterized = .ok s →
        DataReturns router true true catalog category include_parameterized c := by
  have hraises : (p9_tmp_data dropping_router true true some_reads "" false connected_client).1 =
      .raised not_connected := by
    rw [← Outcome.error_eq_some]
    decide +kernel
  refine ⟨hraises, ?_⟩
  intro h
  obtain ⟨result, after, hrun, -⟩ :=
    h dropping_router some_reads "" false _ connected_client rfl
  rw [hrun] at hraises
  cases hraises

end tplink_deco_api.tmp_batches
