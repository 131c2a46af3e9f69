-- The queue of `tmp_mutation_verification.py`: the mutations that are worth a verification, ranked
-- from their plans alone. Nothing here asks the router.
import Mathlib.Data.Prod.Lex
import TplinkDeco.Lib.Ordered
import TplinkDeco.TmpClient.MutationPlanner

open json ordered text

namespace tplink_deco_api.tmp_mutation_verification

open exceptions tmp_batches tmp_mutation_planner

/-! ## The candidates -/

/-- How far a mutation is from a verification. -/
inductive Tier where
  | safety_not_established
  | verified_noop
  | priority_noop_candidate
  | secondary_noop_candidate
  | roundtrip_candidate
  | high_risk_deferred
  | evidence_blocked
  | destructive_excluded
deriving DecidableEq

/-- `_CANDIDATE_TIERS`. -/
def CANDIDATE_TIERS : List Tier :=
  [.priority_noop_candidate, .secondary_noop_candidate, .roundtrip_candidate]

/-- How a mutation could be verified. -/
inductive VerificationStrategy where
  | none
  | same_value_noop_then_restore
  | bounded_roundtrip_then_restore
deriving DecidableEq

/-- What speaks against a verification. -/
inductive RiskFlag where
  | insufficient_operational_safety_evidence
  | destructive_operation
  | secret_state
  | network_connectivity_change
  | active_workflow_or_runtime_action
  | structured_state_change
  | access_or_ownership_change
  | security_policy_change
  | p9_observed_collection_at_capacity
  | signed_app_set_dispatched_side_effect
  | inferred_preflight_relationship
  | inferred_rollback_relationship
  | broad_static_parameter_union
deriving DecidableEq

/-- A plan with its place in the queue. -/
structure TmpMutationVerificationCandidate where
  plan : TmpMutationPlan
  tier : Tier
  priority_score : Int
  verification_strategy : VerificationStrategy
  risk_flags : List RiskFlag
  blocking_gaps : List String

/-- The names that may cut the connection. -/
def CONNECTIVITY_MARKERS : List String := [
  "_WAN_", "_WIRELESS_", "_LAN_IP_", "_DHCP_", "_VLAN_", "_IPTV_", "_IPV4_", "_IPV6_",
  "_MAC_CLONE_", "_OPERATION_MODE_", "_NETWORK_SEARCH_", "_BAND_SEARCH_"]

/-- The names that change who may do what. -/
def PRIVILEGE_MARKERS : List String := [
  "_ACCOUNT_", "_CLOUD_ACCOUNT_", "_MANAGER_PERMISSION_", "_OWNER_LIST_", "_TRANSFER_OWNERSHIP"]

/-- The names that change what is let through. -/
def SECURITY_POLICY_MARKERS : List String := [
  "_ACCESS_CONTROL_", "_BLACKLIST_", "_FIREWALL_", "_SECURITY_", "_WHITELIST_"]

/-- The tables that were full when they were seen. -/
def P9_OBSERVED_AT_CAPACITY : List String := ["TMP_APPV2_OP_IP_RESERVATION_LIST_ADD"]

/-- The names that start something. -/
def ACTIVE_ACTION_MARKERS : List String := [
  "_WPS_", "_ONE_CLICK_", "_SCAN", "_START", "_STOP", "_OPTIMIZE", "_EXPORT", "_DOWNLOAD",
  "_WAKE", "_RING", "_REBOOT", "_SYNC", "_TRANSFER_OWNERSHIP"]

/-- The names of a state with parts. -/
def STRUCTURED_STATE_MARKERS : List String := [
  "_AUTOMATION_", "_CLIENT_LIST_", "_FIREWALL_", "_IOT_SPACE_", "_OWNER_", "_PARENT_CTRL_",
  "_PORT_FORWARDING_", "_RESERVATION_", "_WHITELIST_"]

/-- `any(marker in name for marker in markers)`. -/
def marked (markers : List String) (name : String) : Bool :=
  markers.any fun marker => contains marker name

/-- What the contract of a plan starts with, where the signed app shows the keys. -/
def KEY_LEVEL_CONTRACT : String := "static_app_candidate_keys:"

/-- The flags, each with the condition that raises it. -/
def risk_conditions (plan : TmpMutationPlan) : List (Bool × RiskFlag) := [
  (plan.p9_mutation_safety_status = .safety_not_established,
    .insufficient_operational_safety_evidence),
  (plan.safety = "destructive", .destructive_operation),
  (plan.sensitivity = .secret, .secret_state),
  (marked CONNECTIVITY_MARKERS plan.name, .network_connectivity_change),
  (marked ACTIVE_ACTION_MARKERS plan.name, .active_workflow_or_runtime_action),
  (marked STRUCTURED_STATE_MARKERS plan.name, .structured_state_change),
  (marked PRIVILEGE_MARKERS plan.name, .access_or_ownership_change),
  (marked SECURITY_POLICY_MARKERS plan.name, .security_policy_change),
  (plan.name ∈ P9_OBSERVED_AT_CAPACITY, .p9_observed_collection_at_capacity),
  (plan.app_set_dispatch_review ≠ "", .signed_app_set_dispatched_side_effect),
  (plan.preflight_relationship_evidence = "signed_app_opcode_name_pair_inference",
    .inferred_preflight_relationship),
  (plan.rollback_relationship_evidence = "signed_app_inverse_name_pair_inference",
    .inferred_rollback_relationship),
  (plan.app_candidate_parameter_keys.length > 3, .broad_static_parameter_union)]

/-- `_risk_flags`. -/
def risk_flags (plan : TmpMutationPlan) : List RiskFlag :=
  ((risk_conditions plan).filter fun (raised, _) => raised).map fun (_, flag) => flag

/-- `_blocking_gaps`. -/
def blocking_gaps (plan : TmpMutationPlan) : List String :=
  (if plan.preflight_code = none then ["preflight_relationship_missing"]
    else if plan.preflight_observation ≠ .returned_data then
      [s!"preflight_observation_{observation_text plan.preflight_observation}"]
    else []) ++
  (if plan.rollback_code = none then ["rollback_relationship_missing"] else []) ++
  (if starts_with plan.parameter_contract KEY_LEVEL_CONTRACT then []
    else ["key_level_parameter_contract_missing"]) ++
  (if plan.preflight_missing_candidate_keys ≠ [] then
    ["preflight_missing_candidate_keys:" ++ ",".intercalate plan.preflight_missing_candidate_keys]
    else [])

/-- `_verification_strategy`. -/
def verification_strategy (plan : TmpMutationPlan) : VerificationStrategy :=
  if plan.rollback_code = some plan.code ∧
      (ends_with plan.name "_SET" ∨ ends_with plan.name "_MODIFY") then
    .same_value_noop_then_restore
  else if plan.rollback_code.isSome then .bounded_roundtrip_then_restore
  else .none

/-- The flags that keep a mutation from being tried. -/
def HIGH_RISK_FLAGS : List RiskFlag := [
  .active_workflow_or_runtime_action, .access_or_ownership_change, .network_connectivity_change,
  .p9_observed_collection_at_capacity, .security_policy_change,
  .signed_app_set_dispatched_side_effect]

/-- `_tier`. -/
def tier_of (plan : TmpMutationPlan) (strategy : VerificationStrategy)
    (risk_flags : List RiskFlag) (blocking_gaps : List String) : Tier :=
  if plan.p9_mutation_safety_status = .safety_not_established then .safety_not_established
  else if plan.p9_mutation_observation = .verified_noop then .verified_noop
  else if plan.safety = "destructive" then .destructive_excluded
  else if HIGH_RISK_FLAGS.any (· ∈ risk_flags) then .high_risk_deferred
  else if blocking_gaps ≠ [] then .evidence_blocked
  else match strategy with
    | .same_value_noop_then_restore =>
      if plan.sensitivity = .private ∧ .structured_state_change ∉ risk_flags ∧
          plan.app_candidate_parameter_keys.length ≤ 3 then
        .priority_noop_candidate
      else .secondary_noop_candidate
    | .bounded_roundtrip_then_restore => .roundtrip_candidate
    | .none => .evidence_blocked

/-- What each tier counts. -/
def tier_base : Tier → Int
  | .safety_not_established => 0
  | .verified_noop => 120
  | .priority_noop_candidate => 100
  | .secondary_noop_candidate => 80
  | .roundtrip_candidate => 60
  | .high_risk_deferred => 30
  | .evidence_blocked => 10
  | .destructive_excluded => 0

/-- `_priority_score`. -/
def priority_score (plan : TmpMutationPlan) (tier : Tier) (risk_flags : List RiskFlag)
    (blocking_gaps : List String) : Int :=
  let evidence_bonus := [
    decide (plan.preflight_observation = .returned_data),
    plan.rollback_code.isSome,
    starts_with plan.parameter_contract KEY_LEVEL_CONTRACT,
    decide (plan.preflight_relationship_evidence = "curated_opcode_relationship")].countP id
  tier_base tier + evidence_bonus - risk_flags.length - blocking_gaps.length

/-- The candidate of a plan. -/
def candidate (plan : TmpMutationPlan) : TmpMutationVerificationCandidate :=
  let risk_flags := risk_flags plan
  let blocking_gaps := blocking_gaps plan
  let strategy := verification_strategy plan
  let tier := tier_of plan strategy risk_flags blocking_gaps
  { plan, tier
    priority_score := priority_score plan tier risk_flags blocking_gaps
    verification_strategy := strategy
    risk_flags, blocking_gaps }

/-- The order of the tiers in the queue. -/
def tier_order : Tier → Int
  | .safety_not_established => 6
  | .verified_noop => -1
  | .priority_noop_candidate => 0
  | .secondary_noop_candidate => 1
  | .roundtrip_candidate => 2
  | .high_risk_deferred => 3
  | .evidence_blocked => 4
  | .destructive_excluded => 5

/-- Tuples are compared from the left. -/
abbrev SortKey := Int ×ₗ Int ×ₗ Nat ×ₗ Nat

/-- The tier first, then the score, the number of parameters and the opcode. -/
def sort_key (candidate : TmpMutationVerificationCandidate) : SortKey :=
  toLex (tier_order candidate.tier, toLex (-candidate.priority_score,
    toLex (candidate.plan.app_candidate_parameter_keys.length, candidate.plan.code)))

/-! ## The queue -/

/-- What a caller asks for beyond the ready candidates. -/
structure QueueFilter where
  include_sensitive : Bool := false
  include_deferred : Bool := false
  include_destructive : Bool := false
deriving DecidableEq

/-- The queue may hold the candidate. -/
def QueueFilter.admits (filter : QueueFilter) (candidate : TmpMutationVerificationCandidate) :
    Bool :=
  (filter.include_sensitive || candidate.plan.sensitivity ≠ .secret) &&
    (filter.include_deferred || candidate.tier ∈ CANDIDATE_TIERS ||
      (filter.include_destructive && candidate.tier = .destructive_excluded)) &&
    (filter.include_destructive || candidate.tier ≠ .destructive_excluded)

section

variable (catalog : List EvidencedOpcode)

/-- The candidates, in the order of the catalogue. -/
def candidates : Except PyError (List TmpMutationVerificationCandidate) :=
  (catalog.filter fun opcode => opcode.safety ∈ ["mutation", "destructive"]).mapM fun opcode =>
    candidate <$> build_tmp_mutation_plan catalog opcode.code

/-- `build_tmp_mutation_verification_queue`. -/
def build_tmp_mutation_verification_queue (filter : QueueFilter) (limit : Option Int) :
    Except PyError (List TmpMutationVerificationCandidate) := do
  if limit.any (· ≤ 0) then
    .error (value_error "Failed to rank TMP mutations: limit must be positive")
  else
    let unranked ← candidates catalog
    .ok (ranked sort_key filter.admits (limit.map Int.toNat) unranked)

end

/-! ## What a candidate says -/

section

variable {plan : TmpMutationPlan}

theorem mem_risk_flags {flag : RiskFlag} :
    flag ∈ risk_flags plan ↔ (true, flag) ∈ risk_conditions plan := by
  unfold risk_flags
  simp only [List.mem_map, List.mem_filter, Prod.exists, exists_eq_right]

/-- None of the flags that defer a mutation. -/
structure Quiet (name app_set_dispatch_review : String) : Prop where
  keeps_connectivity : marked CONNECTIVITY_MARKERS name = false
  starts_nothing : marked ACTIVE_ACTION_MARKERS name = false
  keeps_access : marked PRIVILEGE_MARKERS name = false
  keeps_policy : marked SECURITY_POLICY_MARKERS name = false
  has_room : name ∉ P9_OBSERVED_AT_CAPACITY
  dispatches_nothing : app_set_dispatch_review = ""

theorem quiet_iff : HIGH_RISK_FLAGS.any (· ∈ risk_flags plan) = false ↔
    Quiet plan.name plan.app_set_dispatch_review := by
  simp only [HIGH_RISK_FLAGS, List.any_cons, List.any_nil, Bool.or_false, Bool.or_eq_false_iff,
    decide_eq_false_iff_not, mem_risk_flags, risk_conditions, List.mem_cons, Prod.mk.injEq,
    List.not_mem_nil]
  constructor
  · rintro ⟨hactive, haccess, hconnectivity, hcapacity, hpolicy, hdispatch⟩
    constructor <;> simp_all
  · rintro ⟨hconnectivity, hactive, haccess, hpolicy, hcapacity, hdispatch⟩
    simp_all

/-- A read that shows the state before and after, and a mutation that puts it back. -/
structure Reversible (plan : TmpMutationPlan) : Prop where
  read_known : plan.preflight_code.isSome
  read_returns : plan.preflight_observation = .returned_data
  rollback_known : plan.rollback_code.isSome
  keys_known : starts_with plan.parameter_contract KEY_LEVEL_CONTRACT = true
  keys_shown : plan.preflight_missing_candidate_keys = []

theorem reversible_iff : blocking_gaps plan = [] ↔ Reversible plan := by
  unfold blocking_gaps
  simp only [List.append_eq_nil_iff]
  constructor
  · rintro ⟨⟨⟨hread, hrollback⟩, hkeys⟩, hmissing⟩
    constructor
    · cases hcode : plan.preflight_code <;> simp_all
    · split at hread
      · cases hread
      · split at hread
        · cases hread
        · rename_i hreturned
          exact not_not.mp hreturned
    · cases hcode : plan.rollback_code <;> simp_all
    · by_contra hstart
      rw [if_neg hstart] at hkeys
      cases hkeys
    · by_contra hsome
      rw [if_pos hsome] at hmissing
      cases hmissing
  · rintro ⟨hread, hreturns, hrollback, hkeys, hshown⟩
    rw [Option.isSome_iff_ne_none] at hread hrollback
    rw [if_neg hread, if_neg (not_not.mpr hreturns), if_neg hrollback, if_pos hkeys,
      if_neg (not_not.mpr hshown)]
    exact ⟨⟨⟨rfl, rfl⟩, rfl⟩, rfl⟩

/-- A mutation is ready for a verification if it is neither destructive nor in doubt nor verified,
if it is quiet, and if it can be taken back. -/
structure Ready (plan : TmpMutationPlan) : Prop where
  undoubted : plan.p9_mutation_safety_status ≠ .safety_not_established
  unverified : plan.p9_mutation_observation ≠ .verified_noop
  not_destructive : plan.safety ≠ "destructive"
  quiet : Quiet plan.name plan.app_set_dispatch_review
  reversible : Reversible plan

theorem strategy_of_rollback (h : plan.rollback_code.isSome) :
    verification_strategy plan ≠ .none := by
  unfold verification_strategy
  rw [if_pos h]
  split <;> exact nofun

theorem ready_iff : (candidate plan).tier ∈ CANDIDATE_TIERS ↔ Ready plan := by
  change tier_of plan (verification_strategy plan) (risk_flags plan) (blocking_gaps plan) ∈ _ ↔ _
  have hready : Ready plan ↔ plan.p9_mutation_safety_status ≠ .safety_not_established ∧
      plan.p9_mutation_observation ≠ .verified_noop ∧ plan.safety ≠ "destructive" ∧
      HIGH_RISK_FLAGS.any (· ∈ risk_flags plan) = false ∧ blocking_gaps plan = [] := by
    rw [quiet_iff, reversible_iff]
    exact ⟨fun ⟨h₁, h₂, h₃, h₄, h₅⟩ => ⟨h₁, h₂, h₃, h₄, h₅⟩,
      fun ⟨h₁, h₂, h₃, h₄, h₅⟩ => ⟨h₁, h₂, h₃, h₄, h₅⟩⟩
  rw [hready]
  unfold tier_of
  split
  case isTrue hdoubt => simp [CANDIDATE_TIERS, hdoubt]
  case isFalse hdoubt =>
    split
    case isTrue hverified => simp [CANDIDATE_TIERS, hverified]
    case isFalse hverified =>
      split
      case isTrue hdestructive => simp [CANDIDATE_TIERS, hdestructive]
      case isFalse hdestructive =>
        split
        case isTrue hrisk => simp [CANDIDATE_TIERS, hrisk]
        case isFalse hrisk =>
          rw [Bool.not_eq_true] at hrisk
          split
          case isTrue hgaps => simp [CANDIDATE_TIERS, hgaps]
          case isFalse hgaps =>
            rw [ne_eq, not_not] at hgaps
            have hstrategy := strategy_of_rollback (reversible_iff.mp hgaps).rollback_known
            refine iff_of_true ?_ ⟨hdoubt, hverified, hdestructive, hrisk, hgaps⟩
            cases hcase : verification_strategy plan with
            | none => exact absurd hcase hstrategy
            | same_value_noop_then_restore =>
              dsimp only
              split <;> decide
            | bounded_roundtrip_then_restore =>
              dsimp only
              decide

end

/-! ## What the queue offers -/

section

variable {catalog : List EvidencedOpcode}

/-- What a plan says of the mutation is what the catalogue says of it, of the read and of the
rollback. -/
theorem plan_spec {code : Nat} {plan : TmpMutationPlan}
    (h : build_tmp_mutation_plan catalog code = .ok plan) :
    ∃ operation preflight rollback, get_tmp_opcode catalog code = .ok operation ∧
      operation.safety ∈ ["mutation", "destructive"] ∧
      related catalog (preflight_relationship catalog code operation).1 = .ok preflight ∧
      related catalog (rollback_relationship catalog code operation
        (preflight_relationship catalog code operation).1).1 = .ok rollback ∧
      plan.code = operation.code ∧ plan.name = operation.name ∧ plan.safety = operation.safety ∧
      plan.sensitivity = operation.sensitivity ∧
      plan.app_set_dispatch_review = operation.app_set_dispatch_review ∧
      plan.p9_mutation_safety_status = operation.p9_mutation_safety_status ∧
      plan.p9_mutation_observation = operation.p9_mutation_observation ∧
      plan.preflight_code = preflight.map (fun opcode => opcode.code) ∧
      plan.preflight_observation =
        preflight.elim .untested (fun opcode => opcode.p9_observation) ∧
      plan.rollback_code = rollback.map (fun opcode => opcode.code) ∧
      plan.parameter_contract = (parameter_contract operation).1 ∧
      plan.preflight_missing_candidate_keys =
        operation.app_candidate_parameter_keys.filter fun key =>
          key ∉ top_level_result_keys preflight := by
  unfold build_tmp_mutation_plan at h
  rw [bind_eq_ok] at h
  obtain ⟨operation, hoperation, h⟩ := h
  split at h
  · cases h
  · rename_i hsafety
    simp only [bind_eq_ok] at h
    obtain ⟨preflight, hpreflight, rollback, hrollback, hplan⟩ := h
    cases hplan
    exact ⟨operation, preflight, rollback, hoperation, not_not.mp hsafety, hpreflight, hrollback,
      rfl, rfl, rfl, rfl, rfl, rfl, rfl, rfl, rfl, rfl, rfl, rfl⟩

theorem key_level_iff (operation : EvidencedOpcode) :
    starts_with (parameter_contract operation).1 KEY_LEVEL_CONTRACT = true ↔
      operation.app_contract_status = .static_keys_recovered := by
  unfold parameter_contract
  cases hstatus : operation.app_contract_status with
  | no_app_call_site => simp only [reduceCtorEq, iff_false]; decide
  | static_null_payload => simp only [reduceCtorEq, iff_false]; decide
  | static_keys_recovered =>
    exact iff_of_true (starts_with_append KEY_LEVEL_CONTRACT _) rfl
  | static_model_recovered =>
    simp only [reduceCtorEq, iff_false]
    intro hstart
    -- Neither of the two starts is a start of the other.
    rcases List.prefix_or_prefix_of_prefix (of_decide_eq_true hstart)
        (of_decide_eq_true (starts_with_append "static_app_request_models:" _)) with h | h
    · exact absurd h (by decide)
    · exact absurd h (by decide)

/-- A mutation of the catalogue that can be tried and taken back: a read of the catalogue shows
each of the keys that the app sets, and a mutation of the catalogue is known to undo it. -/
structure Verifiable (catalog : List EvidencedOpcode) (operation : EvidencedOpcode) : Prop where
  is_mutation : operation.safety = "mutation"
  not_secret : operation.sensitivity ≠ .secret
  undoubted : operation.p9_mutation_safety_status ≠ .safety_not_established
  unverified : operation.p9_mutation_observation ≠ .verified_noop
  quiet : Quiet operation.name operation.app_set_dispatch_review
  keys_known : operation.app_contract_status = .static_keys_recovered
  has_read : ∃ read, (preflight_relationship catalog operation.code operation).1 = some read.code ∧
    get_tmp_opcode catalog read.code = .ok read ∧ read.p9_observation = .returned_data ∧
    ∀ key ∈ operation.app_candidate_parameter_keys, key ∈ top_level_result_keys (some read)
  has_rollback : ∃ rollback, get_tmp_opcode catalog rollback.code = .ok rollback ∧
    (rollback_relationship catalog operation.code operation
      (preflight_relationship catalog operation.code operation).1).1 = some rollback.code

theorem related_eq_some {code : Option Nat} {opcode : EvidencedOpcode} :
    related catalog code = .ok (some opcode) ↔
      code = some opcode.code ∧ get_tmp_opcode catalog opcode.code = .ok opcode := by
  constructor
  · intro h
    refine ⟨?_, related_some h⟩
    cases code with
    | none => cases h
    | some code =>
      obtain ⟨found, hfound, hsame⟩ := map_eq_ok.mp h
      rw [code_of_get_tmp_opcode (Option.some.inj hsame ▸ hfound)]
  · rintro ⟨rfl, hget⟩
    exact map_eq_ok.mpr ⟨opcode, hget, rfl⟩

/-- The plan of a mutation is ready, and shows no secret, exactly if the mutation is verifiable. -/
theorem verifiable_iff {operation : EvidencedOpcode} {plan : TmpMutationPlan}
    (hlisted : get_tmp_opcode catalog operation.code = .ok operation)
    (hplan : build_tmp_mutation_plan catalog operation.code = .ok plan) :
    plan.sensitivity ≠ .secret ∧ Ready plan ↔ Verifiable catalog operation := by
  obtain ⟨found, preflight, rollback, hfound, hsafety, hpreflight, hrollback, -, hname,
    hplan_safety, hsensitivity, hreview, hstatus, hobservation, hread, hshown, hback, hcontract,
    hmissing⟩ := plan_spec hplan
  obtain rfl : operation = found := Except.ok.inj (hlisted.symm.trans hfound)
  constructor
  · rintro ⟨hopen, hready⟩
    have hreversible := hready.reversible
    obtain ⟨read, rfl⟩ : ∃ read, preflight = some read := by
      have hknown := hreversible.read_known
      rw [hread, Option.isSome_map] at hknown
      exact Option.isSome_iff_exists.mp hknown
    obtain ⟨back, rfl⟩ : ∃ back, rollback = some back := by
      have hknown := hreversible.rollback_known
      rw [hback, Option.isSome_map] at hknown
      exact Option.isSome_iff_exists.mp hknown
    have hcovered := hreversible.keys_shown
    rw [hmissing, List.filter_eq_nil_iff] at hcovered
    exact {
      is_mutation := by
        have hkept := hready.not_destructive
        rw [hplan_safety] at hkept
        simpa [hkept] using hsafety
      not_secret := hsensitivity ▸ hopen
      undoubted := hstatus ▸ hready.undoubted
      unverified := hobservation ▸ hready.unverified
      quiet := hname ▸ hreview ▸ hready.quiet
      keys_known := (key_level_iff operation).mp (hcontract ▸ hreversible.keys_known)
      has_read := by
        obtain ⟨hcode, hget⟩ := related_eq_some.mp hpreflight
        exact ⟨read, hcode, hget, hshown.symm.trans hreversible.read_returns, fun key hkey => by
          simpa using hcovered key hkey⟩
      has_rollback := by
        obtain ⟨hcode, hget⟩ := related_eq_some.mp hrollback
        exact ⟨back, hget, hcode⟩ }
  · intro h
    obtain ⟨read, hread_code, hread_get, hreturned, hkeys⟩ := h.has_read
    obtain ⟨back, hback_get, hback_code⟩ := h.has_rollback
    obtain rfl : preflight = some read := by
      rw [related_eq_some.mpr ⟨hread_code, hread_get⟩] at hpreflight
      exact (Except.ok.inj hpreflight).symm
    obtain rfl : rollback = some back := by
      rw [related_eq_some.mpr ⟨hback_code, hback_get⟩] at hrollback
      exact (Except.ok.inj hrollback).symm
    refine ⟨hsensitivity ▸ h.not_secret, ?_⟩
    exact {
      undoubted := hstatus ▸ h.undoubted
      unverified := hobservation ▸ h.unverified
      not_destructive := by rw [hplan_safety, h.is_mutation]; decide
      quiet := by rw [hname, hreview]; exact h.quiet
      reversible := {
        read_known := by rw [hread]; rfl
        read_returns := by rw [hshown]; exact hreturned
        rollback_known := by rw [hback]; rfl
        keys_known := by rw [hcontract]; exact (key_level_iff operation).mpr h.keys_known
        keys_shown := by
          rw [hmissing, List.filter_eq_nil_iff]
          intro key hkey
          simpa using hkeys key hkey } }

theorem mem_of_get_tmp_opcode {code : Nat} {opcode : EvidencedOpcode}
    (h : get_tmp_opcode catalog code = .ok opcode) : opcode ∈ catalog := by
  unfold get_tmp_opcode at h
  split at h
  · rename_i found hfound
    cases h
    exact List.mem_of_find?_eq_some hfound
  · cases h

/-- The candidates are those of the plans of the mutations. -/
theorem mem_candidates {all : List TmpMutationVerificationCandidate}
    (h : candidates catalog = .ok all) {c : TmpMutationVerificationCandidate} :
    c ∈ all ↔ ∃ opcode ∈ catalog, opcode.safety ∈ ["mutation", "destructive"] ∧
      ∃ plan, build_tmp_mutation_plan catalog opcode.code = .ok plan ∧ candidate plan = c := by
  constructor
  · intro hc
    obtain ⟨opcode, hopcode, hplan⟩ := item_of_mapM h hc
    rw [List.mem_filter, decide_eq_true_eq] at hopcode
    exact ⟨opcode, hopcode.1, hopcode.2, map_eq_ok.mp hplan⟩
  · rintro ⟨opcode, hopcode, hsafety, plan, hplan, hc⟩
    obtain ⟨found, hfound, hfound_plan⟩ := result_of_mapM h
      (List.mem_filter.mpr ⟨hopcode, decide_eq_true hsafety⟩)
    obtain ⟨other, hother, hsame⟩ := map_eq_ok.mp hfound_plan
    obtain rfl := Except.ok.inj (hplan.symm.trans hother)
    rw [← hc, hsame]
    exact hfound

/-- A queue is the head of the ranking of the candidates that the filter admits. -/
theorem queue_eq_ok {filter : QueueFilter} {limit : Option Int}
    {queue : List TmpMutationVerificationCandidate} :
    build_tmp_mutation_verification_queue catalog filter limit = .ok queue ↔
      (∀ n ∈ limit, 0 < n) ∧ ∃ all, candidates catalog = .ok all ∧
        queue = ranked sort_key filter.admits (limit.map Int.toNat) all := by
  unfold build_tmp_mutation_verification_queue
  split
  case isTrue hlimit =>
    refine iff_of_false nofun fun ⟨hpositive, _⟩ => ?_
    cases limit with
    | none => cases hlimit
    | some n => exact not_lt_of_ge (of_decide_eq_true hlimit) (hpositive n rfl)
  case isFalse hlimit =>
    have hpositive : ∀ n ∈ limit, 0 < n := by
      rintro n ⟨rfl⟩
      exact not_le.mp fun hn => hlimit (decide_eq_true hn)
    rw [bind_eq_ok]
    constructor
    · rintro ⟨all, hall, hqueue⟩
      exact ⟨hpositive, all, hall, (Except.ok.inj hqueue).symm⟩
    · rintro ⟨-, all, hall, rfl⟩
      exact ⟨all, hall, rfl⟩

/-- The filter that asks for nothing more admits the ready candidates that show no secret. -/
theorem default_admits {plan : TmpMutationPlan} :
    ({} : QueueFilter).admits (candidate plan) = true ↔
      plan.sensitivity ≠ .secret ∧ Ready plan := by
  have hready := @ready_iff plan
  have hexcluded : (candidate plan).tier ∈ CANDIDATE_TIERS →
      (candidate plan).tier ≠ .destructive_excluded := by
    intro hmem hexcluded
    rw [hexcluded] at hmem
    exact absurd hmem (by decide)
  unfold QueueFilter.admits
  simp only [Bool.false_or, Bool.and_eq_true, decide_eq_true_eq, Bool.or_false, Bool.false_and]
  change (plan.sensitivity ≠ .secret ∧ _) ∧ _ ↔ _
  rw [← hready]
  exact ⟨fun h => h.1, fun h => ⟨h, hexcluded h.2⟩⟩

theorem default_le (filter : QueueFilter) {c : TmpMutationVerificationCandidate}
    (h : ({} : QueueFilter).admits c = true) : filter.admits c = true := by
  unfold QueueFilter.admits at h ⊢
  simp only [Bool.false_or, Bool.and_eq_true, Bool.or_false, Bool.false_and] at h
  obtain ⟨⟨hopen, htier⟩, hkept⟩ := h
  rw [hopen, htier, hkept]
  simp only [Bool.or_true, Bool.true_or, Bool.and_self]

/-- Each flag of the first filter is one of the second. -/
def QueueFilter.within (filter wider : QueueFilter) : Prop :=
  (filter.include_sensitive = true → wider.include_sensitive = true) ∧
    (filter.include_deferred = true → wider.include_deferred = true) ∧
    (filter.include_destructive = true → wider.include_destructive = true)

theorem admits_mono {filter wider : QueueFilter} (hwithin : filter.within wider)
    {c : TmpMutationVerificationCandidate} (h : filter.admits c = true) :
    wider.admits c = true := by
  obtain ⟨hsensitive, hdeferred, hdestructive⟩ := hwithin
  unfold QueueFilter.admits at h ⊢
  simp only [Bool.and_eq_true, Bool.or_eq_true] at h ⊢
  obtain ⟨⟨hopen, htier⟩, hkept⟩ := h
  exact ⟨⟨hopen.imp_left hsensitive, htier.imp (Or.imp_left hdeferred)
    (And.imp_left hdestructive)⟩, hkept.imp_left hdestructive⟩

/-- What a queue has to offer: the candidates in their order, no more than the limit, and what is
only there for a flag under its flag. -/
structure Offers (catalog : List EvidencedOpcode) (filter : QueueFilter) (limit : Option Int)
    (queue : List TmpMutationVerificationCandidate) : Prop where
  ordered : queue.Pairwise fun a b => sort_key a ≤ sort_key b
  bounded : ∀ n ∈ limit, queue.length ≤ n
  secret_if_asked : ∀ c ∈ queue, c.plan.sensitivity = .secret → filter.include_sensitive = true
  destructive_if_asked : ∀ c ∈ queue, c.tier = .destructive_excluded →
    filter.include_destructive = true
  deferred_if_asked : ∀ c ∈ queue, c.tier ∉ CANDIDATE_TIERS → c.tier ≠ .destructive_excluded →
    filter.include_deferred = true
  verifiable_unasked : filter = {} → ∀ c ∈ queue, ∃ operation,
    get_tmp_opcode catalog c.plan.code = .ok operation ∧ Verifiable catalog operation
  /-- Whatever the filter is, the candidate of a mutation that can be tried and taken back is in the
  queue, or the queue is full of candidates that do not come after it. -/
  best_first : ∀ operation, get_tmp_opcode catalog operation.code = .ok operation →
    Verifiable catalog operation → ∃ plan,
      build_tmp_mutation_plan catalog operation.code = .ok plan ∧ (candidate plan ∈ queue ∨
        (∃ n ∈ limit, queue.length = n) ∧
          ∀ chosen ∈ queue, sort_key chosen ≤ sort_key (candidate plan))
  widened : ∀ wider, filter.within wider → ∃ whole,
    build_tmp_mutation_verification_queue catalog wider none = .ok whole ∧ queue.Sublist whole

theorem the_queue_offers_the_verifiable {filter : QueueFilter} {limit : Option Int}
    {queue : List TmpMutationVerificationCandidate}
    (h : build_tmp_mutation_verification_queue catalog filter limit = .ok queue) :
    Offers catalog filter limit queue := by
  obtain ⟨hpositive, all, hall, rfl⟩ := queue_eq_ok.mp h
  have hadmits : ∀ c ∈ ranked sort_key filter.admits (limit.map Int.toNat) all,
      filter.admits c = true := fun c hc => (mem_of_mem_ranked hc).2
  have hflags (c : TmpMutationVerificationCandidate)
      (hc : c ∈ ranked sort_key filter.admits (limit.map Int.toNat) all) :
      (filter.include_sensitive = true ∨ c.plan.sensitivity ≠ .secret) ∧
        (filter.include_deferred = true ∨ c.tier ∈ CANDIDATE_TIERS ∨
          c.tier = .destructive_excluded) ∧
        (filter.include_destructive = true ∨ c.tier ≠ .destructive_excluded) := by
    have hadmitted := hadmits c hc
    unfold QueueFilter.admits at hadmitted
    simp only [Bool.and_eq_true, Bool.or_eq_true, decide_eq_true_eq] at hadmitted
    exact ⟨hadmitted.1.1, or_assoc.mp (hadmitted.1.2.imp_right And.right), hadmitted.2⟩
  refine ⟨pairwise_ranked _ _ _ _, ?bounded, ?secret, ?destructive, ?deferred, ?unasked, ?best,
    ?widened⟩
  case bounded =>
    rintro n ⟨rfl⟩
    rw [← Int.toNat_of_nonneg (hpositive n rfl).le]
    exact Int.ofNat_le.mpr (length_up_to_le _)
  case secret => exact fun c hc hsecret => (hflags c hc).1.resolve_right (not_not.mpr hsecret)
  case destructive =>
    exact fun c hc hexcluded => (hflags c hc).2.2.resolve_right (not_not.mpr hexcluded)
  case deferred =>
    exact fun c hc hunready hkept =>
      (hflags c hc).2.1.resolve_right (not_or.mpr ⟨hunready, hkept⟩)
  case unasked =>
    rintro rfl c hc
    obtain ⟨opcode, -, -, plan, hplan, rfl⟩ := (mem_candidates hall).mp (mem_of_mem_ranked hc).1
    obtain ⟨operation, -, -, hget, -, -, -, hcode, -⟩ := plan_spec hplan
    have hsame := code_of_get_tmp_opcode hget
    rw [← hsame] at hget hplan
    refine ⟨operation, ?_, (verifiable_iff hget hplan).mp (default_admits.mp (hadmits _ hc))⟩
    change get_tmp_opcode catalog plan.code = _
    rw [hcode, hget]
  case best =>
    intro operation hlisted hverifiable
    have hmem := mem_of_get_tmp_opcode hlisted
    have hsafety : operation.safety ∈ ["mutation", "destructive"] := by
      rw [hverifiable.is_mutation]
      exact List.mem_cons_self
    obtain ⟨c, hc, hmade⟩ := result_of_mapM hall
      (List.mem_filter.mpr ⟨hmem, decide_eq_true hsafety⟩)
    obtain ⟨plan, hplan, rfl⟩ := map_eq_ok.mp hmade
    refine ⟨plan, hplan, ?_⟩
    by_cases hin : candidate plan ∈ ranked sort_key filter.admits (limit.map Int.toNat) all
    · exact Or.inl hin
    · have hadmitted := default_le filter
        (default_admits.mpr ((verifiable_iff hlisted hplan).mpr hverifiable))
      obtain ⟨⟨n, hn, hfull⟩, hbefore⟩ := ranked_before hc hadmitted hin
      obtain ⟨m, hm, rfl⟩ := Option.map_eq_some_iff.mp hn
      refine Or.inr ⟨⟨m, hm, ?_⟩, hbefore⟩
      rw [hfull, Int.toNat_of_nonneg (hpositive m hm).le]
  case widened =>
    intro wider hwithin
    refine ⟨ranked sort_key wider.admits none all, queue_eq_ok.mpr ⟨nofun, all, hall, rfl⟩, ?_⟩
    exact (ranked_head _ _ _ _).sublist.trans
      (ranked_sublist fun c hc => admits_mono hwithin hc)

end

/-! ### A queue of one -/

def led_get : EvidencedOpcode where
  code := 0x401A
  name := "TMP_APPV2_OP_AUTO_LED_GET"
  safety := "read_only"
  sensitivity := .private
  category := "system"
  app_dispatch_methods := ["get"]
  app_contract_status := .static_null_payload
  app_candidate_parameter_keys := []
  p9_observation := .returned_data
  p9_confirmed_parameter_sets := []
  safety_evidence := ""
  app_analysis_sources := []
  app_contract_sources := []
  app_contract_provenance := .direct
  app_request_models := []
  app_call_site_count := 1
  app_contract_sha256 := ""
  app_set_dispatch_review := ""
  p9_schema_paths := ["$.error_code:integer", "$.result.enable:boolean", "$.result:object"]

def led_set : EvidencedOpcode where
  toTmpOpcode := { led_get.toTmpOpcode with
    code := 0x401B
    name := "TMP_APPV2_OP_AUTO_LED_SET"
    safety := "mutation"
    app_dispatch_methods := ["set"]
    app_contract_status := .static_keys_recovered
    app_candidate_parameter_keys := ["enable"]
    p9_observation := .untested }
  safety_evidence := ""
  app_analysis_sources := []
  app_contract_sources := []
  app_contract_provenance := .direct
  app_request_models := []
  app_call_site_count := 1
  app_contract_sha256 := ""
  app_set_dispatch_review := ""

theorem the_led_is_offered : ∃ queue,
    build_tmp_mutation_verification_queue [led_get, led_set] {} (some 20) = .ok queue ∧
      queue.map (fun c => c.plan.code) = [0x401B] ∧
      Offers [led_get, led_set] {} (some 20) queue := by
  have hcodes : (build_tmp_mutation_verification_queue [led_get, led_set] {}
      (some 20)).toOption.map (List.map fun c => c.plan.code) = some [0x401B] := by
    decide +kernel
  obtain ⟨queue, hok, hcode⟩ := ok_of_shown hcodes
  exact ⟨queue, hok, hcode, the_queue_offers_the_verifiable hok⟩

end tplink_deco_api.tmp_mutation_verification
