-- The public calls of the service as threads: each call runs its sections one
-- after the other, and its code between two sections touches nothing shared.
import TplinkDeco.Lib.Threads
import TplinkDeco.Rest.IdempotencyStore
import TplinkDeco.Service.DecoService

open dict json prog text threads

namespace tplink_deco_api.service

open exceptions http_noop_verification rest

/-- The evidence of an execution. -/
structure Execution where
  result : HttpNoopVerificationResult
  plan_id : Option String

/-- The service, the idempotency records of the REST application, and a log of the plan ids
that were drawn. No code reads the log. -/
structure World where
  deco_service : DecoService := {}
  records : Records String String Execution Rat := Dict.empty
  drawn : List String := []

/-- The public calls. `reading` stands for the other reads, whose sections list the devices,
list the mesh nodes, or only use the client. -/
inductive Op where
  | plan_semantic_mutation (name : String) (changes : JsonObject) (mode : String)
  | execute_semantic_mutation (plan_id confirmation : String)
  | execute_mutation_plan (idempotency_key plan_id confirmation : String)
  | semantic_mutation_plan (plan_id : String)
  | verify_setting_noop (name confirmation : String)
  | verify_p9_http_noop (operation confirmation : String)
  | device_inventory (refresh : Bool)
  | mesh_overview
  | network_status_resource
  | reading
  | close

/-- The REST request that an execution serves. -/
structure Request where
  idempotency_key : String
  fingerprint : String

/-- A call of `verify_p9_http_noop`, with the plan that led to it. -/
structure NoopJob where
  operation : String
  confirmation : String
  plan : Option PendingMutationPlan := none
  request : Option Request := none

/-- Where a thread is: idle, or before the next section of its call. -/
inductive Call where
  | idle
  | planning (name : String) (changes : JsonObject) (mode : String)
  | drawing (name mode confirmation : String)
  | storing (plan_id name mode confirmation : String) (expires_at : Rat)
  | reserving (request : Request) (plan_id confirmation : String)
  | claiming (plan_id confirmation : String) (request : Option Request)
  | profiling (job : NoopJob)
  | writing (job : NoopJob)
  | answering (request : Request) (outcome : Except PyError Execution)
  | showing (plan_id : String)
  | listing (refresh : Bool)
  | overviewing
  | checking_health
  | reading
  | closing

/-- What a read locks for. -/
inductive ReadSection where
  | devices
  | mesh_nodes
  | client

/-- What a thread does next: a call, or the next section of the one that it is in. -/
inductive Act where
  | call (op : Op)
  | section (x : Outside)
  | read (what : ReadSection) (x : Outside)
  | leave

/-- `verifying` is the call of `verify_setting_noop` in an execution. `noop` is the last
section of `verify_p9_http_noop`, with the controller identity of the cache at that time. -/
inductive Event where
  | raised (error : PyError)
  | returned
  | planned (plan_id : String)
  | verifying (plan_id : String)
  | noop (job : NoopJob) (identity : Except PyError String) (run : NoopRun)

/-! ## The code between the sections -/

/-- The call ends with an error. -/
def end_with (e : PyError) : Call × List Event := (.idle, [.raised e])

/-- A verification ends: its call returns, or the HTTP request is answered. -/
def finish (request : Option Request) (outcome : Except PyError Execution) : Call × List Event :=
  match request with
  | some request => (.answering request outcome, [])
  | none =>
    match outcome with
    | .ok _ => (.idle, [.returned])
    | .error e => end_with e

section

variable (config : ServerConfig)

/-- What `verify_p9_http_noop` does before its first section. -/
def start_p9_http_noop (operation confirmation : String) (plan : Option PendingMutationPlan)
    (request : Option Request) : Call × List Event :=
  match check_p9_http_noop config operation confirmation with
  | .error e => finish request (.error e)
  | .ok () => (.profiling { operation, confirmation, plan, request }, [])

/-- What `verify_setting_noop` does before it. -/
def start_setting_noop (name confirmation : String) (plan : Option PendingMutationPlan)
    (request : Option Request) : Call × List Event :=
  match setting_noop_operation name confirmation with
  | .error e => finish request (.error e)
  | .ok operation => start_p9_http_noop config operation confirmation plan request

/-- `execute_semantic_mutation` after its section. -/
def execute_plan (confirmation : String) (request : Option Request)
    (plan : PendingMutationPlan) : Call × List Event :=
  if plan.mode ≠ VERIFY_MODE then finish request (.error unsupported_mode)
  else
    let (call, events) := start_setting_noop config plan.mutation confirmation (some plan) request
    (call, .verifying plan.plan_id :: events)

/-- `plan_semantic_mutation` between its sections, as far as the new token. -/
def assess_plan (name : String) (changes : JsonObject) (mode : String)
    (inventory : Inventory) : Call × List Event :=
  match execution_allowed config name changes mode inventory.profile_match with
  | .error e => end_with e
  | .ok false => (.idle, [.returned])
  | .ok true =>
    match get_mutation_capability_route name with
    | none => (.idle, [.returned])
    | some route => (.drawing name mode route.confirmation, [])

/-- The end of `verify_p9_http_noop`, for the call that led to it. -/
def finish_noop (job : NoopJob) (run : NoopRun) : Option (Call × List Event) :=
  match run.outcome with
  | .ok result => some (finish job.request (.ok { result, plan_id := job.plan.map (·.plan_id) }))
  | .raised e => some (finish job.request (.error e))
  | .waiting => none

/-- `sha256(f"{plan_id}\0{confirmation}")`. -/
def request_fingerprint (plan_id confirmation : String) : String :=
  sha256.hexdigest (encode plan_id ++ 0 :: encode confirmation)

/-- What a call does before its first section. -/
def start_call : Op → Call × List Event
  | .plan_semantic_mutation name changes mode =>
    match check_mode mode with
    | .error e => end_with e
    | .ok () => (.planning name changes mode, [])
  | .execute_semantic_mutation plan_id confirmation => (.claiming plan_id confirmation none, [])
  | .execute_mutation_plan idempotency_key plan_id confirmation =>
    (.reserving { idempotency_key, fingerprint := request_fingerprint plan_id confirmation }
      plan_id confirmation, [])
  | .semantic_mutation_plan plan_id => (.showing plan_id, [])
  | .verify_setting_noop name confirmation => start_setting_noop config name confirmation none none
  | .verify_p9_http_noop operation confirmation =>
    start_p9_http_noop config operation confirmation none none
  | .device_inventory refresh => (.listing refresh, [])
  | .mesh_overview => (.overviewing, [])
  | .network_status_resource => (.checking_health, [])
  | .reading => (.reading, [])
  | .close => (.closing, [])

/-! ## The steps -/

/-- One section on the service, and where the call goes from its value or from its error. -/
def on_service {α : Type} (m : ServiceM α) (w : World) (ok : α → Call × List Event)
    (raised : PyError → Call × List Event) : Option (World × Call × List Event) :=
  match m w.deco_service with
  | (.ok a, deco_service) => some ({ w with deco_service }, ok a)
  | (.raised e, deco_service) => some ({ w with deco_service }, raised e)
  | (.waiting, _) => none

/-- The call returns. -/
def returning {α : Type} (_ : α) : Call × List Event := (.idle, [.returned])

/-- The sections of the reads. The errors of `reading` are caught or end it. -/
def read_step (x : Outside) (w : World) : ReadSection → Option (World × Call × List Event)
  | .devices =>
    on_service (device_inventory config false x) w (fun _ => (.reading, [])) fun _ => (.reading, [])
  | .mesh_nodes =>
    on_service (read_http_mesh_nodes config x) w (fun _ => (.reading, [])) fun _ => (.reading, [])
  | .client =>
    on_service (get_client config x) w (fun _ => (.reading, [])) fun _ => (.reading, [])

variable (store : InMemoryIdempotencyStore Rat)

/-- The first section of the store, for the REST route. -/
def reserve_step (request : Request) (plan_id confirmation : String) (x : Outside) (w : World) :
    World × Call × List Event :=
  match store.begin_execute request.idempotency_key request.fingerprint x.now w.records with
  | (.error e, records) => ({ w with records }, end_with e)
  | (.ok (some _), records) => ({ w with records }, .idle, [.returned])
  | (.ok none, records) => ({ w with records }, .claiming plan_id confirmation (some request), [])

/-- The last section of the store, for the REST route. -/
def answer_step (request : Request) (outcome : Except PyError Execution) (x : Outside)
    (w : World) : World × Call × List Event :=
  match outcome with
  | .error e =>
    let records := InMemoryIdempotencyStore.clean_up request.idempotency_key request.fingerprint
      w.records
    ({ w with records }, end_with e)
  | .ok execution =>
    let records := store.complete request.idempotency_key request.fingerprint execution x.now
      w.records
    ({ w with records }, .idle, [.returned])

/-- The last section of `verify_p9_http_noop`. -/
def noop_step (job : NoopJob) (x : Outside) (w : World) : Option (World × Call × List Event) :=
  let (run, deco_service) := run_noop config job.operation job.confirmation x w.deco_service
  (finish_noop job run).map fun (call, events) =>
    ({ w with deco_service }, call,
      .noop job (controller_identity w.deco_service.device_cache) run :: events)

/-- One step of one thread. The sections hold the lock, so nothing comes between. -/
def service_step : Act → World → Call → Option (World × Call × List Event)
  | .call op, w, .idle => some (w, start_call config op)
  | .section x, w, .planning name changes mode =>
    on_service (device_inventory config false x) w (assess_plan config name changes mode) end_with
  | .section x, w, .drawing name mode confirmation =>
    some ({ w with drawn := x.token :: w.drawn },
      .storing x.token name mode confirmation (x.now + SEMANTIC_PLAN_TTL_SECONDS), [])
  | .section _, w, .storing plan_id name mode confirmation expires_at =>
    on_service (store_plan plan_id name mode confirmation expires_at) w
      (fun _ => (.idle, [.planned plan_id, .returned])) end_with
  | .section x, w, .reserving request plan_id confirmation =>
    some (reserve_step store request plan_id confirmation x w)
  | .section x, w, .claiming plan_id confirmation request =>
    on_service (claim_plan config plan_id confirmation x) w
      (execute_plan config confirmation request) fun e => finish request (.error e)
  | .section x, w, .profiling job =>
    on_service (require_exact_p9_profile config x) w (fun _ => (.writing job, []))
      fun e => finish job.request (.error e)
  | .section x, w, .writing job => noop_step config job x w
  | .section x, w, .answering request outcome => some (answer_step store request outcome x w)
  | .section x, w, .showing plan_id =>
    on_service (semantic_mutation_plan plan_id x) w returning end_with
  | .section x, w, .listing refresh =>
    on_service (device_inventory config refresh x) w returning end_with
  | .section x, w, .overviewing => on_service (mesh_overview config x) w returning end_with
  | .section x, w, .checking_health =>
    on_service (device_inventory config true x) w (fun _ => (.reading, [])) end_with
  | .section x, w, .closing => on_service (close x) w returning end_with
  | .read what x, w, .reading => read_step config x w what
  | .leave, w, .reading => some (w, .idle, [.returned])
  | _, _, _ => none

/-- Any number of threads that call one service, through the REST application or not. -/
def service_threads : System World Call Act Event := ⟨service_step config store⟩

end

/-- A new service that no thread has called. -/
def started : Pool World Call := { shared := {}, thread := fun _ => .idle }

/-! ## A server with the gates of the no-op verification open -/

/-- A service that may verify. -/
def lab_config : ServerConfig := {
  password := "secret"
  allow_mutations := true
  allow_http_noop_verification := true }

def lab_store : InMemoryIdempotencyStore Rat := { ttl_seconds := 600, ttl_positive := by decide }

/-- A controller with the exact profile. -/
def p9_controller (mac : String) : Device := {
  mac
  device_model := "P9"
  role := "master"
  hardware_ver := "2.0"
  software_ver := P9_PROFILE_FIRMWARE }

end tplink_deco_api.service
