-- The preflights of the mutations that change one setting of the router: what they read
-- of the setting, and the rollback that they prepare.
import TplinkDeco.Lib.Undo
import TplinkDeco.Surface.Reservations

open dialogue json prog text undo

namespace tplink_deco_api.surface

open endpoint_catalog exceptions http_noop_verification service

/-! ## The evaluators -/

/-- The answer of a preflight, with the parameters that take the mutation back. -/
structure StatePreflight where
  plan : MutationPlan
  preflight_supported : Bool
  preflight_passed : Bool
  reasons : List String
  observation : JsonObject
  rollback_params : Option JsonObject
  mutation_invoked : Bool

/-- `_preflight_result`. -/
def preflight_result (plan : MutationPlan) (reasons : List String)
    (rollback_params : Option JsonObject) (observation : JsonObject) : StatePreflight :=
  { plan
    preflight_supported := true
    preflight_passed := reasons = []
    reasons, observation, rollback_params
    mutation_invoked := false }

/-- `_mutation_string`. -/
def mutation_string (params : JsonObject) (key : String) : Except PyError String := do
  check_string params key
  .ok (param_text params key)

/-- `_mutation_bool`. -/
def mutation_bool (params : JsonObject) (key : String) : Except PyError Bool := do
  check_bool params key
  .ok ((get params key).asBool.getD false)

/-- The result for a setting that is shown as one value, or not at all. -/
def value_preflight {α : Type} [DecidableEq α] (plan : MutationPlan) (unavailable : String)
    (rollback : α → JsonObject) (current : Option α) (target : α) : StatePreflight :=
  preflight_result plan (reason current.isNone unavailable) (current.map rollback)
    [("no_op", (current.map fun value => Json.bool (value = target)).getD .null)]

/-- `wan.get("mode")`, where `wan` is a dict. -/
def wan_mode (state : JsonObject) : Json :=
  match (get state "wan").asObj with
  | some wan => get wan "mode"
  | none => .null

/-- `_wan_mode_preflight`. -/
def wan_mode_preflight (plan : MutationPlan) (state : JsonObject) :
    Except PyError StatePreflight := do
  let target ← mutation_string plan.params "mode"
  .ok (value_preflight plan "current WAN mode is unavailable" (fun mode => [("mode", .str mode)])
    (wan_mode state).asStr target)

/-- `_toggle_preflight`, of both wireless features. -/
def toggle_preflight (plan : MutationPlan) (state : JsonObject) :
    Except PyError StatePreflight := do
  let target ← mutation_bool plan.params "enable"
  .ok (value_preflight plan "current enable state is unavailable"
    (fun enable => [("enable", .bool enable)]) (get state "enable").asBool target)

/-- `_operation_mode_preflight`. -/
def operation_mode_preflight (plan : MutationPlan) (state : JsonObject) :
    Except PyError StatePreflight := do
  let target ← mutation_string plan.params "mode"
  .ok (value_preflight plan "current wireless mode is unavailable"
    (fun mode => [("mode", .str mode)]) (get state "mode").asStr target)

/-- The fields of the time settings. -/
def TIME_KEYS : List String := ["timezone", "continent", "tz_region"]

/-- The time settings, where each is a text that is not empty. -/
def time_fields (state : JsonObject) : Option (List String) :=
  TIME_KEYS.mapM fun key => (get state key).asStr.filter (· ≠ "")

/-- `_time_setting_preflight`. -/
def time_setting_preflight (plan : MutationPlan) (state : JsonObject) :
    Except PyError StatePreflight := do
  let target ← TIME_KEYS.mapM (mutation_string plan.params)
  .ok (value_preflight plan "current timezone fields are unavailable"
    (fun values => TIME_KEYS.zip (values.map .str)) (time_fields state) target)

/-- The entry of a MAC address: the first dict of the list that has it as its text. -/
def blacklist_entry (state : JsonObject) (mac : String) : Option JsonObject :=
  (((get state "client_list").asArr.getD []).filterMap Json.asObj).find? fun item =>
    (get item "mac").asStr.any fun value => normalize_mac value = mac

/-- The fields of an entry that its rollback keeps. -/
def entry_fields (entry : JsonObject) : JsonObject :=
  ["name", "client_type"].filterMap fun key =>
    (get entry key).asStr.map fun field => (key, .str field)

/-- `_blacklist_preflight`, of an address that is added or removed. -/
def blacklist_preflight (plan : MutationPlan) (state : JsonObject) :
    Except PyError StatePreflight := do
  let target_mac ← mutation_mac plan.params "mac"
  let found := blacklist_entry state target_mac
  let observation := [("target_exists", Json.bool found.isSome), ("no_op", .bool false)]
  if plan.name.endsWith ".add" then
    .ok (preflight_result plan (reason found.isSome "target MAC is already blacklisted")
      (some [("mac", .str target_mac)]) observation)
  else
    .ok (preflight_result plan (reason found.isNone "target MAC is not blacklisted")
      (found.map fun entry => ("mac", .str target_mac) :: entry_fields entry) observation)

/-- `_state_preflight`. -/
def state_preflight (plan : MutationPlan) (state : JsonObject) : Except PyError StatePreflight :=
  if plan.name = "admin.network.wan_mode.write" then wan_mode_preflight plan state
  else if plan.name ∈ [IEEE80211R_WRITE, BEAMFORMING_WRITE] then toggle_preflight plan state
  else if plan.name = "admin.wireless.operation_mode.write" then
    operation_mode_preflight plan state
  else if plan.name = TIMESETTING_WRITE then time_setting_preflight plan state
  else blacklist_preflight plan state

/-! ## The mutations that can be reversed -/

/-- `_REVERSIBLE_CONTRACTS`: what the preflight does, when the write has succeeded, and the
operation that takes it back. -/
def REVERSIBLE_CONTRACTS : List (String × String × String × String) := [
  ("admin.network.wan_mode.write",
    "capture the current WAN mode before changing it",
    "wan.mode equals the requested mode",
    "admin.network.wan_mode.write"),
  ("admin.wireless.ieee80211r.write",
    "capture the current 802.11r enable state",
    "enable equals the requested boolean",
    "admin.wireless.ieee80211r.write"),
  ("admin.wireless.operation_mode.write",
    "capture the current wireless operation mode",
    "mode equals the requested wireless operation mode",
    "admin.wireless.operation_mode.write"),
  ("admin.wireless.beamforming.write",
    "capture the current beamforming enable state",
    "enable equals the requested boolean",
    "admin.wireless.beamforming.write"),
  ("admin.device.timesetting.write",
    "capture timezone, continent, and region before changing them",
    "timezone, continent, and tz_region equal the requested values",
    "admin.device.timesetting.write"),
  ("admin.client.black_list.add",
    "target MAC is absent from the blacklist",
    "blacklist contains the requested MAC",
    "admin.client.black_list.remove"),
  ("admin.client.black_list.remove",
    "capture the exact existing blacklist entry",
    "blacklist no longer contains the requested MAC",
    "admin.client.black_list.add")]

/-- The operations that the table can take back. -/
inductive StateOperation where
  | wan_mode
  | ieee80211r
  | beamforming
  | operation_mode
  | timesetting
  | blacklist_add
  | blacklist_remove
deriving DecidableEq

namespace StateOperation

/-- The endpoint that the mutation writes to. -/
def operation : StateOperation → Operation
  | wan_mode => ⟨"admin/network", "wan_mode", "write"⟩
  | ieee80211r => ⟨"admin/wireless", "ieee80211r", "write"⟩
  | beamforming => ⟨"admin/wireless", "beamforming", "write"⟩
  | operation_mode => ⟨"admin/wireless", "operation_mode", "write"⟩
  | timesetting => ⟨"admin/device", "timesetting", "write"⟩
  | blacklist_add => ⟨"admin/client", "black_list", "add"⟩
  | blacklist_remove => ⟨"admin/client", "black_list", "remove"⟩

/-- The name of that endpoint. -/
def name : StateOperation → String
  | wan_mode => "admin.network.wan_mode.write"
  | ieee80211r => IEEE80211R_WRITE
  | beamforming => BEAMFORMING_WRITE
  | operation_mode => "admin.wireless.operation_mode.write"
  | timesetting => TIMESETTING_WRITE
  | blacklist_add => "admin.client.black_list.add"
  | blacklist_remove => "admin.client.black_list.remove"

/-- The read that shows the setting. -/
def read : StateOperation → String
  | wan_mode => "admin.network.wan_mode.read"
  | ieee80211r => "admin.wireless.ieee80211r.read"
  | beamforming => "admin.wireless.beamforming.read"
  | operation_mode => "admin.wireless.operation_mode.read"
  | timesetting => "admin.device.timesetting.read"
  | blacklist_add => "admin.client.black_list.list"
  | blacklist_remove => "admin.client.black_list.list"

/-- What takes an operation back: adding and removing undo each other, the others undo themselves.
-/
def rollback : StateOperation → StateOperation
  | blacklist_add => blacklist_remove
  | blacklist_remove => blacklist_add
  | other => other

end StateOperation

/-- A call of one of the operations. -/
structure StateMutation where
  operation : StateOperation
  params : JsonObject

variable (float_repr : Option Rat → String)

/-- The plan of the call. -/
def StateMutation.plan (m : StateMutation) : MutationPlan :=
  { name := m.operation.name
    params := m.params
    preflight_read := m.operation.read
    confirmation_sha256 := confirmation_sha256 float_repr m.operation.name m.params }

/-- What the reads of the router answer, each under its name. -/
abbrev Answers := String → JsonObject

/-- What takes a mutation back, if its preflight passes. -/
def StateMutation.rollback (answers : Answers) (m : StateMutation) : Option StateMutation :=
  match state_preflight (m.plan float_repr) (answers m.operation.read) with
  | .ok found =>
    if found.preflight_passed then found.rollback_params.map (⟨m.operation.rollback, ·⟩) else none
  | .error _ => none

/-! ## The settings -/

/-- What one of the operations changes. An address on the blacklist is a setting of its own. -/
inductive Setting where
  | wan_mode
  | ieee80211r
  | beamforming
  | operation_mode
  | timesetting
  | blacklisted (mac : String)
deriving DecidableEq

/-- The entry of the blacklist, as far as a rollback can restore it. -/
def shown_entry (state : JsonObject) (mac : String) : Json :=
  match blacklist_entry state mac with
  | some entry => .obj (entry_fields entry)
  | none => .null

/-- What the router shows of a setting. -/
def shows (answers : Answers) : Setting → Json
  | .wan_mode => wan_mode (answers "admin.network.wan_mode.read")
  | .ieee80211r => get (answers "admin.wireless.ieee80211r.read") "enable"
  | .beamforming => get (answers "admin.wireless.beamforming.read") "enable"
  | .operation_mode => get (answers "admin.wireless.operation_mode.read") "mode"
  | .timesetting => .arr (TIME_KEYS.map (get (answers "admin.device.timesetting.read")))
  | .blacklisted mac => shown_entry (answers "admin.client.black_list.list") mac

/-- The setting that a mutation changes, and what it has to show afterwards. -/
def StateMutation.write (m : StateMutation) : Write Setting Json :=
  let mac := normalize_mac (param_text m.params "mac")
  match m.operation with
  | .wan_mode => ⟨.wan_mode, get m.params "mode"⟩
  | .ieee80211r => ⟨.ieee80211r, get m.params "enable"⟩
  | .beamforming => ⟨.beamforming, get m.params "enable"⟩
  | .operation_mode => ⟨.operation_mode, get m.params "mode"⟩
  | .timesetting => ⟨.timesetting, .arr (TIME_KEYS.map (get m.params))⟩
  | .blacklist_add => ⟨.blacklisted mac, .obj (entry_fields m.params)⟩
  | .blacklist_remove => ⟨.blacklisted mac, .null⟩

/-- The preflight of an operation passes on what the router shows of its setting. -/
def StateOperation.Ready (operation : StateOperation) (shown : Json) : Prop :=
  match operation with
  | .wan_mode | .operation_mode => ∃ mode, shown = .str mode
  | .ieee80211r | .beamforming => ∃ enable, shown = .bool enable
  | .timesetting => ∃ values : List String, shown = .arr (values.map .str) ∧ "" ∉ values
  | .blacklist_add => shown = .null
  | .blacklist_remove => shown ≠ .null


/-! ## The names -/

theorem StateOperation.operation_name (o : StateOperation) : o.operation.name = o.name := by
  cases o <;> decide +kernel

theorem StateOperation.form_read (o : StateOperation) :
    FORM_READ_NAMES.lookup (o.operation.path, o.operation.form) = some o.read := by
  cases o <;> decide +kernel

theorem StateOperation.rollback_contract (o : StateOperation) :
    (REVERSIBLE_CONTRACTS.lookup o.name).map (·.2.2) = some o.rollback.name := by
  cases o <;> decide +kernel

/-- The plan of a mutation is the one that the service builds for its endpoint. -/
theorem StateMutation.plan_eq (m : StateMutation) {e : EndpointSpec}
    (h : e.toOperation = m.operation.operation) :
    build_mutation_plan float_repr e (some m.params) = m.plan float_repr := by
  have hname : e.name = m.operation.name := by
    rw [h]
    exact m.operation.operation_name
  have hread : FORM_READ_NAMES.lookup (e.path, e.form) = some m.operation.read := by
    rw [h]
    exact m.operation.form_read
  unfold build_mutation_plan StateMutation.plan
  rw [hname, hread]
  rfl

/-- The evaluator of an operation. -/
def StateOperation.evaluate (o : StateOperation) (plan : MutationPlan) (state : JsonObject) :
    Except PyError StatePreflight :=
  match o with
  | wan_mode => wan_mode_preflight plan state
  | ieee80211r | beamforming => toggle_preflight plan state
  | operation_mode => operation_mode_preflight plan state
  | timesetting => time_setting_preflight plan state
  | blacklist_add | blacklist_remove => blacklist_preflight plan state

/-- The check of the parameters of an operation. -/
def StateOperation.check (o : StateOperation) (params : JsonObject) : Except PyError Unit :=
  match o with
  | wan_mode | operation_mode => check_string params "mode"
  | ieee80211r | beamforming => check_bool params "enable"
  | timesetting => do
    check_string params "timezone"
    check_string params "continent"
    check_string params "tz_region"
  | blacklist_add | blacklist_remove => do
    check_mac params "mac"
    check_given check_string params "name"
    check_given check_string params "client_type"

theorem StateOperation.preflight_eq {o : StateOperation} {plan : MutationPlan}
    (hname : plan.name = o.name) (state : JsonObject) :
    state_preflight plan state = o.evaluate plan state := by
  unfold state_preflight
  rw [hname]
  cases o <;> rfl

theorem StateOperation.not_reservation (o : StateOperation) :
    o.name.startsWith "admin.client.addr_reservation." = false := by
  cases o <;> decide +kernel

theorem StateOperation.validate_eq {o : StateOperation} {plan : MutationPlan}
    (hname : plan.name = o.name) :
    validate_live_preflight_params plan = o.check plan.params := by
  unfold validate_live_preflight_params
  rw [hname, o.not_reservation]
  cases o <;> rfl

/-! ## The parameters that are accepted -/

variable {params : JsonObject} {key : String}

theorem asStr_eq_some {value : Json} {text : String} :
    value.asStr = some text ↔ value = .str text := by
  cases value <;> simp [Json.asStr]

theorem asBool_eq_some {value : Json} {enable : Bool} :
    value.asBool = some enable ↔ value = .bool enable := by
  cases value <;> simp [Json.asBool]

theorem check_string_ok : check_string params key = .ok () ↔
    ∃ text, get params key = .str text ∧ text ≠ "" := by
  unfold check_string
  constructor
  · intro h
    split at h
    case isFalse => cases h
    case isTrue hne =>
      cases htext : (get params key).asStr with
      | none =>
        rw [htext] at hne
        exact absurd rfl hne
      | some text =>
        rw [htext] at hne
        exact ⟨text, asStr_eq_some.mp htext, hne⟩
  · rintro ⟨text, hget, hne⟩
    rw [hget]
    exact if_pos hne

theorem check_bool_ok : check_bool params key = .ok () ↔
    ∃ enable, get params key = .bool enable := by
  unfold check_bool
  constructor
  · intro h
    split at h
    case isFalse => cases h
    case isTrue hsome =>
      obtain ⟨enable, henable⟩ := Option.isSome_iff_exists.mp hsome
      exact ⟨enable, asBool_eq_some.mp henable⟩
  · rintro ⟨enable, hget⟩
    rw [hget]
    rfl

theorem mutation_string_ok {text : String} : mutation_string params key = .ok text ↔
    get params key = .str text ∧ text ≠ "" := by
  unfold mutation_string
  constructor
  · intro h
    obtain ⟨_, hcheck, h⟩ := Prog.parts_of_ok h
    obtain ⟨other, hget, hne⟩ := check_string_ok.mp hcheck
    unfold param_text at h
    rw [hget] at h
    cases h
    exact ⟨hget, hne⟩
  · rintro ⟨hget, hne⟩
    rw [check_string_ok.mpr ⟨text, hget, hne⟩]
    unfold param_text
    rw [hget]
    rfl

theorem mutation_bool_of_get {enable : Bool} (h : get params key = .bool enable) :
    mutation_bool params key = .ok enable := by
  unfold mutation_bool
  rw [check_bool_ok.mpr ⟨enable, h⟩, h]
  rfl

/-- The texts of some keys, none of them empty. -/
theorem forall₂_texts {fields : JsonObject} {keys values : List String} :
    List.Forall₂ (fun key text => get fields key = .str text ∧ text ≠ "") keys values ↔
      keys.map (get fields) = values.map .str ∧ "" ∉ values := by
  induction keys generalizing values with
  | nil => cases values <;> simp
  | cons key keys ih =>
    cases values with
    | nil => simp
    | cons text values =>
      rw [List.forall₂_cons, ih, List.map_cons, List.map_cons, List.cons.injEq, List.mem_cons,
        not_or, ne_comm]
      tauto

theorem time_fields_eq_some {state : JsonObject} {values : List String} :
    time_fields state = some values ↔
      TIME_KEYS.map (get state) = values.map .str ∧ "" ∉ values := by
  rw [← forall₂_texts]
  unfold time_fields
  generalize TIME_KEYS = keys
  induction keys generalizing values with
  | nil => cases values <;> simp [List.mapM_nil]
  | cons key keys ih =>
    cases values with
    | nil => simp [List.mapM_cons, Option.bind_eq_some_iff]
    | cons text values =>
      rw [List.mapM_cons, List.forall₂_cons, ← ih]
      simp [Option.bind_eq_some_iff, Option.filter_eq_some_iff, asStr_eq_some]

theorem time_params_ok {values : List String} :
    TIME_KEYS.mapM (mutation_string params) = .ok values ↔
      TIME_KEYS.map (get params) = values.map .str ∧ "" ∉ values := by
  rw [mapM_eq_ok, ← forall₂_texts]
  simp only [mutation_string_ok]

theorem check_time_ok : StateOperation.timesetting.check params = .ok () ↔
    ∃ values : List String, TIME_KEYS.map (get params) = values.map .str ∧ "" ∉ values := by
  simp only [← forall₂_texts, TIME_KEYS, List.forall₂_cons_left_iff, List.forall₂_nil_left_iff]
  unfold StateOperation.check
  constructor
  · intro h
    obtain ⟨_, hzone, h⟩ := Prog.parts_of_ok h
    obtain ⟨_, hcontinent, hregion⟩ := Prog.parts_of_ok h
    obtain ⟨timezone, hzone⟩ := check_string_ok.mp hzone
    obtain ⟨continent, hcontinent⟩ := check_string_ok.mp hcontinent
    obtain ⟨region, hregion⟩ := check_string_ok.mp hregion
    exact ⟨_, timezone, _, hzone, ⟨continent, _, hcontinent, ⟨region, _, hregion, rfl, rfl⟩, rfl⟩,
      rfl⟩
  · rintro ⟨_, timezone, _, hzone, ⟨continent, _, hcontinent, ⟨region, _, hregion, rfl, rfl⟩, rfl⟩,
      rfl⟩
    dsimp only
    rw [check_string_ok.mpr ⟨timezone, hzone⟩, check_string_ok.mpr ⟨continent, hcontinent⟩,
      check_string_ok.mpr ⟨region, hregion⟩]
    rfl

/-- The parameters of an operation on the blacklist. -/
theorem check_blacklist_ok {o : StateOperation} (ho : o = .blacklist_add ∨ o = .blacklist_remove) :
    o.check params = .ok () ↔ check_mac params "mac" = .ok () ∧
      ∀ key ∈ ["name", "client_type"], check_given check_string params key = .ok () := by
  have heq : o.check params = (check_mac params "mac" >>= fun _ =>
      check_given check_string params "name" >>= fun _ =>
        check_given check_string params "client_type") := by
    rcases ho with rfl | rfl <;> rfl
  rw [heq]
  constructor
  · intro h
    obtain ⟨_, hmac, h⟩ := Prog.parts_of_ok h
    obtain ⟨_, hname, htype⟩ := Prog.parts_of_ok h
    refine ⟨hmac, fun key hkey => ?_⟩
    simp only [List.mem_cons, List.not_mem_nil, or_false] at hkey
    rcases hkey with rfl | rfl
    · exact hname
    · exact htype
  · rintro ⟨hmac, hgiven⟩
    rw [hmac, hgiven "name" (by simp), hgiven "client_type" (by simp)]
    rfl

/-! ## The preflights -/

/-- What takes the mutation back has the setting show what it shows now, and its parameters are
accepted if no text in them is empty. -/
structure Restores (m : StateMutation) (shown : Json) (back : JsonObject) : Prop where
  write : (StateMutation.mk m.operation.rollback back).write = ⟨m.write.place, shown⟩
  accepted : m.operation.rollback.check back = .ok () ↔ ∀ key, (key, Json.str "") ∉ back

/-- The preflight of a mutation of a setting that shows a value. -/
structure Evaluated (m : StateMutation) (shown : Json) (found : StatePreflight) : Prop where
  passed_iff : found.preflight_passed = true ↔ m.operation.Ready shown
  no_op_iff : found.observation.lookup "no_op" = some (.bool true) ↔
    m.operation.Ready shown ∧ shown = m.write.value
  rollback : m.operation.Ready shown →
    ∃ back, found.rollback_params = some back ∧ Restores m shown back

theorem Evaluated.of_value {α : Type} [DecidableEq α] {m : StateMutation} {shown : Json}
    {current : Option α} {target : α} (as_json : α → Json) (hinj : as_json.Injective)
    (hready : m.operation.Ready shown ↔ ∃ value, current = some value)
    (hshown : ∀ value, current = some value → shown = as_json value)
    (htarget : m.write.value = as_json target) {rollback : α → JsonObject}
    (hrestores : ∀ value, current = some value → Restores m shown (rollback value))
    (plan : MutationPlan) (unavailable : String) :
    Evaluated m shown (value_preflight plan unavailable rollback current target) := by
  cases current with
  | none =>
    have hnot : ¬ m.operation.Ready shown := fun h => nomatch hready.mp h
    exact {
      passed_iff := iff_of_false Bool.false_ne_true hnot
      no_op_iff := iff_of_false (fun h => nomatch h) fun h => hnot h.1
      rollback := fun h => absurd h hnot }
  | some value =>
    have hyes : m.operation.Ready shown := hready.mpr ⟨value, rfl⟩
    refine ⟨iff_of_true rfl hyes, ?_, fun _ =>
      ⟨rollback value, rfl, hrestores value rfl⟩⟩
    rw [hshown value rfl, htarget, hinj.eq_iff]
    show some (Json.bool (decide (value = target))) = some (.bool true) ↔ _
    rw [Option.some.injEq, Json.bool.injEq, decide_eq_true_iff]
    exact ⟨fun h => ⟨hshown value rfl ▸ hyes, h⟩, And.right⟩

theorem no_empty_singleton {key : String} {value : Json} :
    (∀ other, (other, Json.str "") ∉ [(key, value)]) ↔ value ≠ .str "" := by
  simp [eq_comm]

theorem text_restores {o : StateOperation} (ho : o = .wan_mode ∨ o = .operation_mode)
    (params : JsonObject) (mode : String) :
    Restores ⟨o, params⟩ (.str mode) [("mode", .str mode)] := by
  have hcheck : check_string [("mode", .str mode)] "mode" = .ok () ↔
      ∀ key, (key, Json.str "") ∉ [("mode", Json.str mode)] := by
    rw [check_string_ok, no_empty_singleton, Ne, Json.str.injEq]
    constructor
    · rintro ⟨text, hget, hne⟩
      cases hget
      exact hne
    · intro hne
      exact ⟨mode, rfl, hne⟩
  rcases ho with rfl | rfl
  · exact ⟨rfl, hcheck⟩
  · exact ⟨rfl, hcheck⟩

theorem toggle_restores {o : StateOperation} (ho : o = .ieee80211r ∨ o = .beamforming)
    (params : JsonObject) (enable : Bool) :
    Restores ⟨o, params⟩ (.bool enable) [("enable", .bool enable)] := by
  have hcheck : check_bool [("enable", .bool enable)] "enable" = .ok () ↔
      ∀ key, (key, Json.str "") ∉ [("enable", Json.bool enable)] :=
    iff_of_true (check_bool_ok.mpr ⟨enable, rfl⟩) (no_empty_singleton.mpr nofun)
  rcases ho with rfl | rfl
  · exact ⟨rfl, hcheck⟩
  · exact ⟨rfl, hcheck⟩

theorem time_restores (params : JsonObject) {state : JsonObject} {values : List String}
    (h : TIME_KEYS.map (get state) = values.map .str) (hne : "" ∉ values) :
    Restores ⟨.timesetting, params⟩ (.arr (values.map .str)) (TIME_KEYS.zip (values.map .str)) := by
  have hlength : values.length = 3 := by
    simpa [TIME_KEYS] using (congrArg List.length h).symm
  obtain ⟨timezone, continent, region, rfl⟩ := List.length_eq_three.mp hlength
  have hback : TIME_KEYS.map (get (TIME_KEYS.zip ([timezone, continent, region].map Json.str))) =
      [timezone, continent, region].map .str := rfl
  refine ⟨?_, iff_of_true (check_time_ok.mpr ⟨_, hback, hne⟩) ?_⟩
  · exact congrArg (Write.mk Setting.timesetting) (congrArg Json.arr hback)
  · intro key hin
    apply hne
    have hvalue : Json.str "" ∈ [timezone, continent, region].map Json.str :=
      (List.of_mem_zip hin).2
    simpa using hvalue

/-! ### The blacklist -/

theorem lookup_entry_fields (entry : JsonObject) {key : String}
    (hkey : key ∈ ["name", "client_type"]) :
    (entry_fields entry).lookup key = (get entry key).asStr.map .str := by
  simp only [List.mem_cons, List.not_mem_nil, or_false] at hkey
  unfold entry_fields
  simp only [List.filterMap_cons, List.filterMap_nil]
  rcases hkey with rfl | rfl <;> cases (get entry "name").asStr <;>
    cases (get entry "client_type").asStr <;> rfl

/-- The fields that are kept of an entry are kept of what is sent to restore it. -/
theorem entry_fields_captured (mac : Json) (entry : JsonObject) :
    entry_fields (("mac", mac) :: entry_fields entry) = entry_fields entry := by
  have hget : ∀ key ∈ ["name", "client_type"],
      (get (("mac", mac) :: entry_fields entry) key).asStr = (get entry key).asStr := by
    intro key hkey
    have hother : (key == "mac") = false := by
      simp only [List.mem_cons, List.not_mem_nil, or_false] at hkey
      rcases hkey with rfl | rfl <;> rfl
    rw [json.get, List.lookup_cons, hother, lookup_entry_fields entry hkey]
    cases (get entry key).asStr <;> rfl
  rw [entry_fields.eq_1 (("mac", mac) :: _), entry_fields.eq_1 entry]
  apply List.filterMap_congr
  intro key hkey
  rw [← entry_fields.eq_1, hget key hkey]

theorem mem_entry_fields {entry : JsonObject} {key : String} {value : Json} :
    (key, value) ∈ entry_fields entry ↔ key ∈ ["name", "client_type"] ∧
      ∃ text, get entry key = .str text ∧ value = .str text := by
  unfold entry_fields
  rw [List.mem_filterMap]
  constructor
  · rintro ⟨other, hother, hvalue⟩
    obtain ⟨text, htext, heq⟩ := Option.map_eq_some_iff.mp hvalue
    cases heq
    exact ⟨hother, text, asStr_eq_some.mp htext, rfl⟩
  · rintro ⟨hkey, text, htext, rfl⟩
    exact ⟨key, hkey, Option.map_eq_some_iff.mpr ⟨text, asStr_eq_some.mpr htext, rfl⟩⟩

theorem is_mac_empty : is_mac "" = false := by
  unfold is_mac
  rw [splitOn_of_splits 1 (by decide) (show splits "" ":" 1 0 0 0 [] = some [""] by decide +kernel)]
  rfl

theorem check_mac_iff : check_mac params key = .ok () ↔
    ∃ value, get params key = .str value ∧ is_mac (normalize_mac value) = true := by
  unfold check_mac
  constructor
  · intro h
    split at h
    case h_2 => cases h
    case h_1 value hvalue =>
      split at h
      case isFalse => cases h
      case isTrue hmac => exact ⟨value, asStr_eq_some.mp hvalue, hmac⟩
  · rintro ⟨value, hget, hmac⟩
    rw [hget]
    exact if_pos hmac

theorem param_text_of_get {value : String} (h : get params key = .str value) :
    param_text params key = value := by
  unfold param_text
  rw [h]
  rfl

theorem add_restores {params : JsonObject} {value : String} (hget : get params "mac" = .str value)
    (hmac : is_mac (normalize_mac value) = true) :
    Restores ⟨.blacklist_add, params⟩ .null [("mac", .str (normalize_mac value))] := by
  have hback : get [("mac", Json.str (normalize_mac value))] "mac" = .str (normalize_mac value) :=
    rfl
  constructor
  · show Write.mk (Setting.blacklisted _) Json.null = ⟨.blacklisted _, .null⟩
    rw [param_text_of_get hget, param_text_of_get hback, normalize_mac_normalize_mac]
  · refine iff_of_true ((check_blacklist_ok (Or.inr rfl)).mpr ⟨?_, ?_⟩) ?_
    · exact check_mac_iff.mpr ⟨_, hback, by rwa [normalize_mac_normalize_mac]⟩
    · intro key hkey
      simp only [List.mem_cons, List.not_mem_nil, or_false] at hkey
      rcases hkey with rfl | rfl <;> rfl
    · rw [no_empty_singleton]
      intro hempty
      rw [Json.str.inj hempty, is_mac_empty] at hmac
      exact Bool.false_ne_true hmac

theorem remove_restores {params : JsonObject} {value : String}
    (hget : get params "mac" = .str value) (hmac : is_mac (normalize_mac value) = true)
    (entry : JsonObject) :
    Restores ⟨.blacklist_remove, params⟩ (.obj (entry_fields entry))
      (("mac", .str (normalize_mac value)) :: entry_fields entry) := by
  have hback : get (("mac", Json.str (normalize_mac value)) :: entry_fields entry) "mac" =
      .str (normalize_mac value) := rfl
  constructor
  · show Write.mk (Setting.blacklisted _) (Json.obj _) = ⟨.blacklisted _, _⟩
    rw [param_text_of_get hget, param_text_of_get hback, normalize_mac_normalize_mac,
      entry_fields_captured]
  · have hmac_ok : check_mac (("mac", .str (normalize_mac value)) :: entry_fields entry) "mac" =
        .ok () := check_mac_iff.mpr ⟨_, hback, by rwa [normalize_mac_normalize_mac]⟩
    -- A field is sent back as the text that it is, or not at all.
    have hgiven : ∀ key ∈ ["name", "client_type"],
        (check_given check_string (("mac", .str (normalize_mac value)) :: entry_fields entry) key =
          .ok () ↔ get entry key ≠ .str "") := by
      intro key hkey
      have hother : (key == "mac") = false := by
        simp only [List.mem_cons, List.not_mem_nil, or_false] at hkey
        rcases hkey with rfl | rfl <;> rfl
      have hlookup : (("mac", .str (normalize_mac value)) :: entry_fields entry).lookup key =
          (get entry key).asStr.map .str := by
        rw [List.lookup_cons, hother]
        exact lookup_entry_fields entry hkey
      unfold check_given
      rw [hlookup]
      cases htext : (get entry key).asStr with
      | none =>
        refine iff_of_true rfl fun hempty => ?_
        rw [hempty] at htext
        cases htext
      | some text =>
        rw [Option.map_some, Option.isSome_some, if_pos rfl, check_string_ok,
          json.get_of_lookup hlookup, htext, asStr_eq_some.mp htext, Ne, Json.str.injEq]
        constructor
        · rintro ⟨other, heq, hne⟩
          cases heq
          exact hne
        · exact fun hne => ⟨text, rfl, hne⟩
    refine (check_blacklist_ok (Or.inl rfl)).trans ⟨?_, ?_⟩
    · rintro ⟨-, hchecked⟩ key hin
      rcases List.mem_cons.mp hin with heq | hin
      · rw [← Json.str.inj (Prod.mk.inj heq).2, is_mac_empty] at hmac
        exact Bool.false_ne_true hmac
      · obtain ⟨hkey, text, hfield, heq⟩ := mem_entry_fields.mp hin
        exact (hgiven key hkey).mp (hchecked key hkey) (heq ▸ hfield)
    · intro hnone
      refine ⟨hmac_ok, fun key hkey => (hgiven key hkey).mpr fun hfield => ?_⟩
      exact hnone key (List.mem_cons_of_mem _ (mem_entry_fields.mpr ⟨hkey, "", hfield, rfl⟩))

/-! ### One preflight -/

theorem ready_text {o : StateOperation} (ho : o = .wan_mode ∨ o = .operation_mode) {shown : Json} :
    o.Ready shown ↔ ∃ mode, shown.asStr = some mode := by
  simp only [asStr_eq_some]
  rcases ho with rfl | rfl <;> rfl

theorem ready_toggle {o : StateOperation} (ho : o = .ieee80211r ∨ o = .beamforming)
    {shown : Json} : o.Ready shown ↔ ∃ enable, shown.asBool = some enable := by
  simp only [asBool_eq_some]
  rcases ho with rfl | rfl <;> rfl

/-- The preflight of a text. -/
theorem evaluated_text {o : StateOperation} (ho : o = .wan_mode ∨ o = .operation_mode)
    {params : JsonObject} {shown : Json} {target : String}
    (hwrite : (StateMutation.mk o params).write.value = .str target) (plan : MutationPlan)
    (unavailable : String) :
    Evaluated ⟨o, params⟩ shown
      (value_preflight plan unavailable (fun mode => [("mode", .str mode)]) shown.asStr
        target) := by
  apply Evaluated.of_value Json.str (fun _ _ => Json.str.inj) (ready_text ho)
    (fun _ => asStr_eq_some.mp) hwrite
  intro mode hmode
  rw [asStr_eq_some.mp hmode]
  exact text_restores ho params mode

theorem evaluated_toggle {o : StateOperation} (ho : o = .ieee80211r ∨ o = .beamforming)
    {params : JsonObject} {shown : Json} {target : Bool}
    (hwrite : (StateMutation.mk o params).write.value = .bool target) (plan : MutationPlan)
    (unavailable : String) :
    Evaluated ⟨o, params⟩ shown
      (value_preflight plan unavailable (fun enable => [("enable", .bool enable)]) shown.asBool
        target) := by
  apply Evaluated.of_value Json.bool (fun _ _ => Json.bool.inj) (ready_toggle ho)
    (fun _ => asBool_eq_some.mp) hwrite
  intro enable henable
  rw [asBool_eq_some.mp henable]
  exact toggle_restores ho params enable

theorem evaluated_time {params state : JsonObject} {target : List String}
    (hwrite : TIME_KEYS.map (get params) = target.map .str) (plan : MutationPlan)
    (unavailable : String) :
    Evaluated ⟨.timesetting, params⟩ (.arr (TIME_KEYS.map (get state)))
      (value_preflight plan unavailable (fun values => TIME_KEYS.zip (values.map .str))
        (time_fields state) target) := by
  apply Evaluated.of_value (fun values => Json.arr (values.map .str))
  · intro values values' heq
    exact List.map_injective_iff.mpr (fun _ _ => Json.str.inj) (Json.arr.inj heq)
  · simp only [time_fields_eq_some, StateOperation.Ready, Json.arr.injEq]
  · intro values hvalues
    rw [(time_fields_eq_some.mp hvalues).1]
  · exact congrArg Json.arr hwrite
  · intro values hvalues
    obtain ⟨hshown, hne⟩ := time_fields_eq_some.mp hvalues
    rw [hshown]
    exact time_restores params hshown hne

theorem shown_entry_eq_null {state : JsonObject} {mac : String} :
    shown_entry state mac = .null ↔ blacklist_entry state mac = none := by
  unfold shown_entry
  cases blacklist_entry state mac <;> simp

theorem evaluated_add {params state : JsonObject} {value : String}
    (hget : get params "mac" = .str value) (hmac : is_mac (normalize_mac value) = true)
    (plan : MutationPlan) (hname : plan.name.endsWith ".add" = true)
    (hparams : plan.params = params) :
    ∃ found, blacklist_preflight plan state = .ok found ∧
      Evaluated ⟨.blacklist_add, params⟩ (shown_entry state (normalize_mac value)) found := by
  unfold blacklist_preflight
  rw [hparams, mutation_mac_of_check (check_mac_iff.mpr ⟨value, hget, hmac⟩),
    param_text_of_get hget]
  simp only [bind, Except.bind, hname, if_true]
  refine ⟨_, rfl, ?_, ?_, ?_⟩
  · show decide (reason _ _ = []) = true ↔ shown_entry _ _ = .null
    rw [decide_eq_true_iff, reason_eq_nil, shown_entry_eq_null, Option.isSome_eq_false_iff,
      Option.isNone_iff_eq_none]
  · refine iff_of_false nofun ?_
    rintro ⟨hnull, hvalue⟩
    rw [show shown_entry _ _ = Json.null from hnull] at hvalue
    cases hvalue
  · intro hnull
    rw [show shown_entry _ _ = Json.null from hnull]
    exact ⟨_, rfl, add_restores hget hmac⟩

theorem evaluated_remove {params state : JsonObject} {value : String}
    (hget : get params "mac" = .str value) (hmac : is_mac (normalize_mac value) = true)
    (plan : MutationPlan) (hname : plan.name.endsWith ".add" = false)
    (hparams : plan.params = params) :
    ∃ found, blacklist_preflight plan state = .ok found ∧
      Evaluated ⟨.blacklist_remove, params⟩ (shown_entry state (normalize_mac value)) found := by
  unfold blacklist_preflight
  rw [hparams, mutation_mac_of_check (check_mac_iff.mpr ⟨value, hget, hmac⟩),
    param_text_of_get hget]
  simp only [bind, Except.bind, hname, Bool.false_eq_true, if_false]
  refine ⟨_, rfl, ?_, ?_, ?_⟩
  · show decide (reason _ _ = []) = true ↔ shown_entry _ _ ≠ .null
    rw [decide_eq_true_iff, reason_eq_nil, Ne, shown_entry_eq_null, Option.isNone_eq_false_iff,
      Option.isSome_iff_ne_none]
  · exact iff_of_false nofun fun h => h.1 h.2
  · intro hshown
    have hentry : shown_entry state (normalize_mac value) ≠ .null := hshown
    rw [Ne, shown_entry_eq_null, ← Ne, Option.ne_none_iff_exists'] at hentry
    obtain ⟨entry, hentry⟩ := hentry
    have hshown_eq : shown_entry state (normalize_mac value) = .obj (entry_fields entry) := by
      unfold shown_entry
      rw [hentry]
    rw [hshown_eq]
    refine ⟨_, ?_, remove_restores hget hmac entry⟩
    show Option.map _ (blacklist_entry _ _) = _
    rw [hentry]
    rfl

theorem blacklist_ends : "admin.client.black_list.add".endsWith ".add" = true ∧
    "admin.client.black_list.remove".endsWith ".add" = false := by
  decide +kernel

theorem toggle_evaluated {o : StateOperation} (ho : o = .ieee80211r ∨ o = .beamforming)
    {plan : MutationPlan} (hcheck : check_bool plan.params "enable" = .ok ())
    (hwrite : (StateMutation.mk o plan.params).write.value = get plan.params "enable")
    (state : JsonObject) :
    ∃ found, toggle_preflight plan state = .ok found ∧
      Evaluated ⟨o, plan.params⟩ (get state "enable") found := by
  obtain ⟨enable, hget⟩ := check_bool_ok.mp hcheck
  unfold toggle_preflight
  rw [mutation_bool_of_get hget]
  exact ⟨_, rfl, evaluated_toggle ho (hwrite.trans hget) plan _⟩

/-- On accepted parameters no evaluator raises, and what it finds is right. -/
theorem StateOperation.evaluated {o : StateOperation} (plan : MutationPlan)
    (hname : plan.name = o.name) (hcheck : o.check plan.params = .ok ()) (answers : Answers) :
    ∃ found, o.evaluate plan (answers o.read) = .ok found ∧
      Evaluated ⟨o, plan.params⟩ (shows answers (StateMutation.mk o plan.params).write.place)
        found := by
  cases o with
  | wan_mode =>
    obtain ⟨mode, hget, hne⟩ := check_string_ok.mp hcheck
    show ∃ found, wan_mode_preflight _ _ = .ok found ∧ _
    unfold wan_mode_preflight
    rw [mutation_string_ok.mpr ⟨hget, hne⟩]
    exact ⟨_, rfl, evaluated_text (Or.inl rfl) hget _ _⟩
  | operation_mode =>
    obtain ⟨mode, hget, hne⟩ := check_string_ok.mp hcheck
    show ∃ found, operation_mode_preflight _ _ = .ok found ∧ _
    unfold operation_mode_preflight
    rw [mutation_string_ok.mpr ⟨hget, hne⟩]
    exact ⟨_, rfl, evaluated_text (Or.inr rfl) hget _ _⟩
  | ieee80211r => exact toggle_evaluated (Or.inl rfl) hcheck rfl _
  | beamforming => exact toggle_evaluated (Or.inr rfl) hcheck rfl _
  | timesetting =>
    obtain ⟨values, hvalues⟩ := check_time_ok.mp hcheck
    show ∃ found, time_setting_preflight _ _ = .ok found ∧ _
    unfold time_setting_preflight
    rw [time_params_ok.mpr hvalues]
    exact ⟨_, rfl, evaluated_time hvalues.1 _ _⟩
  | blacklist_add =>
    obtain ⟨value, hget, hmac⟩ := check_mac_iff.mp ((check_blacklist_ok (Or.inl rfl)).mp hcheck).1
    show ∃ found, _ ∧
      Evaluated _ (shown_entry _ (normalize_mac (param_text plan.params "mac"))) found
    rw [param_text_of_get hget]
    exact evaluated_add hget hmac _ (hname ▸ blacklist_ends.1) rfl
  | blacklist_remove =>
    obtain ⟨value, hget, hmac⟩ := check_mac_iff.mp ((check_blacklist_ok (Or.inr rfl)).mp hcheck).1
    show ∃ found, _ ∧
      Evaluated _ (shown_entry _ (normalize_mac (param_text plan.params "mac"))) found
    rw [param_text_of_get hget]
    exact evaluated_remove hget hmac _ (hname ▸ blacklist_ends.2) rfl

/-- What a mutation has the router show lets the preflight of its rollback pass. -/
theorem StateMutation.ready_again (m : StateMutation)
    (hcheck : m.operation.check m.params = .ok ()) : m.operation.rollback.Ready m.write.value := by
  obtain ⟨o, params⟩ := m
  cases o with
  | wan_mode | operation_mode =>
    obtain ⟨mode, hget, -⟩ := check_string_ok.mp hcheck
    exact ⟨mode, hget⟩
  | ieee80211r | beamforming => exact check_bool_ok.mp hcheck
  | timesetting =>
    obtain ⟨values, hvalues, hne⟩ := check_time_ok.mp hcheck
    exact ⟨values, congrArg Json.arr hvalues, hne⟩
  | blacklist_add => exact nofun
  | blacklist_remove => rfl

/-! ## The preflights over a run -/

/-- The preflight of a mutation that was accepted. -/
structure ExactPreflight (m : StateMutation) (answers : Answers) (found : StatePreflight) :
    Prop where
  /-- It passes exactly on a setting that the operation can change and take back. -/
  passed_iff : found.preflight_passed = true ↔ m.operation.Ready (shows answers m.write.place)
  /-- It reports a change of nothing exactly where the setting has the requested value. -/
  no_op_iff : found.observation.lookup "no_op" = some (.bool true) ↔
    found.preflight_passed = true ∧ shows answers m.write.place = m.write.value
  /-- Where it passes, there is a rollback to what is shown now. -/
  taken_back : found.preflight_passed = true → ∃ back, m.rollback float_repr answers = some back ∧
    back.write = inverse shows answers m.write ∧
    (validate_live_preflight_params (back.plan float_repr) = .ok () ↔
      ∀ key, (key, Json.str "") ∉ back.params) ∧
    -- Once the mutation was made, an accepted rollback passes its own preflight, and can be taken
    -- back itself.
    ∀ after, validate_live_preflight_params (back.plan float_repr) = .ok () →
      Made shows m.write answers after → ∃ again, back.rollback float_repr after = some again ∧
        again.write = m.write

theorem StateMutation.rollback_of_evaluated {m : StateMutation} {answers : Answers}
    {found : StatePreflight}
    (hfound : m.operation.evaluate (m.plan float_repr) (answers m.operation.read) = .ok found)
    (hready : m.operation.Ready (shows answers m.write.place))
    (h : Evaluated m (shows answers m.write.place) found) :
    ∃ back, m.rollback float_repr answers = some ⟨m.operation.rollback, back⟩ ∧
      Restores m (shows answers m.write.place) back := by
  obtain ⟨back, hback, hrestores⟩ := h.rollback hready
  refine ⟨back, ?_, hrestores⟩
  unfold StateMutation.rollback
  rw [StateOperation.preflight_eq rfl, hfound]
  dsimp only
  rw [if_pos (h.passed_iff.mpr hready), hback]
  rfl

theorem StateMutation.exact (m : StateMutation)
    (hcheck : validate_live_preflight_params (m.plan float_repr) = .ok ()) (answers : Answers) :
    ∃ found, state_preflight (m.plan float_repr) (answers m.operation.read) = .ok found ∧
      ExactPreflight float_repr m answers found := by
  have hparams : m.operation.check m.params = .ok () :=
    (StateOperation.validate_eq rfl).symm.trans hcheck
  obtain ⟨found, hfound, h⟩ :=
    StateOperation.evaluated (m.plan float_repr) rfl hparams answers
  refine ⟨found, (StateOperation.preflight_eq rfl _).trans hfound, h.passed_iff, ?_, ?_⟩
  · rw [h.passed_iff]
    exact h.no_op_iff
  · intro hpassed
    have hready := h.passed_iff.mp hpassed
    obtain ⟨back, hback, hrestores⟩ := m.rollback_of_evaluated float_repr hfound hready h
    let undo : StateMutation := ⟨m.operation.rollback, back⟩
    have hvalid : validate_live_preflight_params (undo.plan float_repr) =
        m.operation.rollback.check back := StateOperation.validate_eq rfl
    refine ⟨undo, hback, hrestores.write, hvalid ▸ hrestores.accepted, ?_⟩
    intro after haccepted hmade
    obtain ⟨found', hfound', h'⟩ := StateOperation.evaluated (undo.plan float_repr) rfl
      (hvalid.symm.trans haccepted) after
    have hplace : shows after undo.write.place = m.write.value := by
      rw [hrestores.write]
      exact hmade.here
    have hready' : undo.operation.Ready (shows after undo.write.place) := by
      rw [hplace]
      exact m.ready_again hparams
    obtain ⟨again, hagain, hrestores'⟩ :=
      StateMutation.rollback_of_evaluated float_repr hfound' hready' h'
    refine ⟨_, hagain, ?_⟩
    rw [hrestores'.write, hplace, hrestores.write]

/-! ## What the service evaluates -/

/-- Whatever was read, the preflight of a plan that was accepted does not raise. -/
theorem state_preflight_total {plan : MutationPlan}
    (h : validate_live_preflight_params plan = .ok ()) (state : JsonObject) :
    ∃ found, state_preflight plan state = .ok found := by
  by_cases hname : ∃ o : StateOperation, plan.name = o.name
  · obtain ⟨o, hname⟩ := hname
    rw [StateOperation.validate_eq hname] at h
    rw [StateOperation.preflight_eq hname]
    obtain ⟨found, hfound, -⟩ := StateOperation.evaluated plan hname h fun _ => state
    exact ⟨found, hfound⟩
  · -- Any other plan goes to the evaluator of the blacklist, with a MAC address that was checked.
    have hother : ∀ o : StateOperation, plan.name ≠ o.name := fun o heq => hname ⟨o, heq⟩
    have hwan : plan.name ≠ "admin.network.wan_mode.write" := hother .wan_mode
    have hwireless : plan.name ≠ "admin.wireless.operation_mode.write" := hother .operation_mode
    have htime : plan.name ≠ TIMESETTING_WRITE := hother .timesetting
    have htoggle : plan.name ∉ [IEEE80211R_WRITE, BEAMFORMING_WRITE] := by
      simp only [List.mem_cons, List.not_mem_nil, or_false, not_or]
      exact ⟨hother .ieee80211r, hother .beamforming⟩
    have hmode : plan.name ∉
        ["admin.network.wan_mode.write", "admin.wireless.operation_mode.write"] := by
      simp only [List.mem_cons, List.not_mem_nil, or_false, not_or]
      exact ⟨hwan, hwireless⟩
    have hmac : check_mac plan.params "mac" = .ok () := by
      unfold validate_live_preflight_params at h
      by_cases hreservation : plan.name.startsWith "admin.client.addr_reservation." = true
      · rw [if_pos hreservation] at h
        obtain ⟨_, hmac, -⟩ := Prog.parts_of_ok h
        exact hmac
      · rw [if_neg hreservation, if_neg hmode, if_neg htoggle, if_neg htime] at h
        obtain ⟨_, hmac, -⟩ := Prog.parts_of_ok h
        exact hmac
    unfold state_preflight
    rw [if_neg hwan, if_neg htoggle, if_neg hwireless, if_neg htime]
    unfold blacklist_preflight
    rw [mutation_mac_of_check hmac]
    dsimp only [bind, Except.bind]
    split
    · exact ⟨_, rfl⟩
    · exact ⟨_, rfl⟩

section

-- Unfolded, these would compare texts that are not known.
attribute [local irreducible] get_endpoint model_compatibility validate_live_preflight_params

/-- What the service reads for a preflight is evaluated without an exception. -/
theorem preflight_mutation_evaluates (views : Views) (config : ServerConfig) (name : String)
    (params : Option JsonObject) (model : String) :
    (preflight_mutation views config float_repr name params model).Gives fun preflight =>
      ∀ response, preflight = .state response → ∃ e, get_endpoint name = .ok e ∧
        ∃ found, state_preflight (build_mutation_plan float_repr e params)
          response.result_object = .ok found := by
  unfold preflight_mutation
  refine Dialogue.Gives.checked fun e he => ?_
  split
  · trivial
  · refine Dialogue.Gives.checked fun _ _ => ?_
    refine Dialogue.Gives.checked fun _ _ => ?_
    dsimp only
    split
    · exact Dialogue.Gives.pure fun response h => nomatch h
    · refine Dialogue.Gives.checked fun _ hvalid => ?_
      unfold preflight_read
      split
      · refine Dialogue.Gives.last fun response => ?_
        rintro _ ⟨⟩
        exact ⟨e, he, state_preflight_total hvalid _⟩
      · exact Dialogue.Gives.last fun _ response h => nomatch h

end

theorem StateMutation.write_of_rollback {m back : StateMutation} {answers : Answers}
    (hcheck : validate_live_preflight_params (m.plan float_repr) = .ok ())
    (hback : m.rollback float_repr answers = some back) :
    back.write = inverse shows answers m.write := by
  obtain ⟨found, hfound, h⟩ := m.exact float_repr hcheck answers
  have hpassed : found.preflight_passed = true := by
    unfold StateMutation.rollback at hback
    rw [hfound] at hback
    by_contra hnot
    dsimp only at hback
    rw [if_neg hnot] at hback
    cases hback
  obtain ⟨other, hother, hwrite, -⟩ := h.taken_back hpassed
  rw [hback] at hother
  cases hother
  exact hwrite

/-- What the service prepares for a mutation: the rollback, where the parameters are accepted and
the preflight passes. -/
def StateMutation.prepared (answers : Answers) (m : StateMutation) : Option StateMutation :=
  match validate_live_preflight_params (m.plan float_repr) with
  | .ok _ => m.rollback float_repr answers
  | .error _ => none

theorem StateMutation.write_of_prepared {m back : StateMutation} {answers : Answers}
    (h : m.prepared float_repr answers = some back) :
    back.write = inverse shows answers m.write := by
  unfold StateMutation.prepared at h
  split at h
  case h_1 hcheck => exact StateMutation.write_of_rollback float_repr hcheck h
  case h_2 => cases h

/-- The plan of a mutation is the one that the service builds, with the rollback of its contract.
The preflight of an accepted mutation finds exactly whether it can be made and taken back, the
service evaluates all that it reads for one, and mutations that are taken back in the reverse order
restore what each setting has shown. -/
theorem the_settings_come_back :
    (∀ m : StateMutation,
      (REVERSIBLE_CONTRACTS.lookup m.operation.name).map (·.2.2) =
          some m.operation.rollback.name ∧
        ∀ e : EndpointSpec, e.toOperation = m.operation.operation →
          build_mutation_plan float_repr e (some m.params) = m.plan float_repr) ∧
    (∀ (m : StateMutation) (answers : Answers),
      validate_live_preflight_params (m.plan float_repr) = .ok () →
        ∃ found, state_preflight (m.plan float_repr) (answers m.operation.read) = .ok found ∧
          ExactPreflight float_repr m answers found) ∧
    (∀ (views : Views) (config : ServerConfig) (name : String) (params : Option JsonObject)
        (model : String),
      (preflight_mutation views config float_repr name params model).Gives fun preflight =>
        ∀ response, preflight = .state response → ∃ e, get_endpoint name = .ok e ∧
          ∃ found, state_preflight (build_mutation_plan float_repr e params)
            response.result_object = .ok found) ∧
    ∀ (first reached last : Answers) (journal : List StateMutation),
      Journal shows StateMutation.write (fun answers m => m.prepared float_repr answers) first
        journal reached →
      Steps shows StateMutation.write reached journal last →
      ∀ setting, shows last setting = shows first setting := by
  refine ⟨fun m => ⟨m.operation.rollback_contract, fun _ he => m.plan_eq float_repr he⟩,
    fun m answers hcheck => m.exact float_repr hcheck answers,
    preflight_mutation_evaluates float_repr, ?_⟩
  intro first reached last journal hrun hback
  exact hrun.restores (fun _ _ _ hprepared => StateMutation.write_of_prepared float_repr hprepared)
    hback

/-- A router of which the beamforming and the wireless mode are known, with what else the first read
shows. -/
def wireless_shown (enable : Bool) (mode : String) (more : JsonObject) : Answers := fun read =>
  if read = "admin.wireless.beamforming.read" then ("enable", .bool enable) :: more
  else if read = "admin.wireless.operation_mode.read" then [("mode", .str mode)]
  else []

def beamforming_switch (enable : Bool) : StateMutation where
  operation := .beamforming
  params := [("enable", .bool enable)]

def mode_switch (mode : String) : StateMutation where
  operation := .operation_mode
  params := [("mode", .str mode)]

theorem beamforming_made (before enable : Bool) (mode : String) (more more' : JsonObject) :
    Made shows (beamforming_switch enable).write (wireless_shown before mode more)
      (wireless_shown enable mode more') := by
  refine ⟨rfl, fun setting hsetting => ?_⟩
  cases setting with
  | beamforming => exact absurd rfl hsetting
  | _ => rfl

theorem mode_made (enable : Bool) (before mode : String) (more : JsonObject) :
    Made shows (mode_switch mode).write (wireless_shown enable before more)
      (wireless_shown enable mode more) := by
  refine ⟨rfl, fun setting hsetting => ?_⟩
  cases setting with
  | operation_mode => exact absurd rfl hsetting
  | _ => rfl

theorem beamforming_prepared (before enable : Bool) (mode : String) :
    (beamforming_switch enable).prepared float_repr (wireless_shown before mode []) =
      some (beamforming_switch before) := by
  unfold StateMutation.prepared
  rw [StateOperation.validate_eq (o := .beamforming) rfl]
  show StateMutation.rollback _ _ _ = _
  unfold StateMutation.rollback
  rw [StateOperation.preflight_eq (o := .beamforming) rfl]
  rfl

theorem mode_prepared (enable : Bool) (before : String) {mode : String} (hmode : mode ≠ "") :
    (mode_switch mode).prepared float_repr (wireless_shown enable before []) =
      some (mode_switch before) := by
  have hcheck : check_string [("mode", .str mode)] "mode" = .ok () :=
    check_string_ok.mpr ⟨mode, rfl, hmode⟩
  have htext : mutation_string [("mode", .str mode)] "mode" = .ok mode :=
    mutation_string_ok.mpr ⟨rfl, hmode⟩
  unfold StateMutation.prepared
  rw [StateOperation.validate_eq (o := .operation_mode) rfl]
  unfold StateOperation.check StateMutation.plan mode_switch
  dsimp only
  rw [hcheck]
  unfold StateMutation.rollback
  rw [StateOperation.preflight_eq (o := .operation_mode) rfl]
  unfold StateOperation.evaluate operation_mode_preflight StateMutation.plan
  dsimp only
  rw [htext]
  rfl

/-- The beamforming is switched on, the mode changed, and the beamforming switched off again. The
three rollbacks, the last one first, bring both settings back. -/
theorem the_beamforming_comes_back : ∀ setting,
    shows (wireless_shown false "ROUTER" [("channel", .int 36)]) setting =
      shows (wireless_shown false "ROUTER" []) setting := by
  refine (the_settings_come_back fun _ => "").2.2.2 (wireless_shown false "ROUTER" [])
    (wireless_shown false "AP" []) (wireless_shown false "ROUTER" [("channel", .int 36)])
    [beamforming_switch true, mode_switch "ROUTER", beamforming_switch false] ?_ ?_
  · have hon := Journal.step (.start _) (beamforming_prepared (fun _ => "") false true "ROUTER")
      (beamforming_made false true "ROUTER" [] [])
    have hmode := Journal.step hon (mode_prepared _ true "ROUTER" (by decide : "AP" ≠ ""))
      (mode_made true "ROUTER" "AP" [])
    exact .step hmode (beamforming_prepared _ true false "AP")
      (beamforming_made true false "AP" [] [])
  · exact .cons (beamforming_made false true "AP" [] []) <|
      .cons (mode_made true "AP" "ROUTER" []) <|
      .cons (beamforming_made true false "ROUTER" [] _) (.nil _)

end tplink_deco_api.surface
