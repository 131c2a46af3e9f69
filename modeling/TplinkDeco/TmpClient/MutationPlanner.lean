-- The plans of `tmp_mutation_planner.py`: what is known of a TMP mutation, of the read that comes
-- before it and of the mutation that takes it back. A plan is never executed.
import TplinkDeco.TmpClient.Batches

open json text

namespace tplink_deco_api.tmp_mutation_planner

open exceptions tmp_batches

/-! ## The opcode catalogue -/

/-- How a contract of the app was found. -/
inductive TmpAppContractProvenance where
  | none
  | direct
  | indirect_virtual_dispatch
deriving DecidableEq

/-- What came of a mutation that was tried on the P9. -/
inductive TmpP9MutationObservation where
  | untested
  | verified_noop
  | same_value_immediate_verification_passed
  | write_rejected
  | rollback_confirmed
  | rollback_unconfirmed
deriving DecidableEq

/-- What is known of its safety. -/
inductive TmpP9MutationSafetyStatus where
  | untested
  | safety_not_established
deriving DecidableEq

/-- An opcode, with all that a plan is made of. -/
structure EvidencedOpcode extends TmpOpcode where
  safety_evidence : String
  app_analysis_sources : List String
  app_contract_sources : List String
  app_contract_provenance : TmpAppContractProvenance
  app_request_models : List String
  app_call_site_count : Nat
  app_contract_sha256 : String
  app_set_dispatch_review : String
  p9_schema_paths : List String := []
  p9_mutation_observation : TmpP9MutationObservation := .untested
  p9_mutation_safety_status : TmpP9MutationSafetyStatus := .untested
  p9_mutation_firmware_error_code : Option Int := none
  p9_mutation_parameter_keys : List String := []
  p9_mutation_state_unchanged : Option Bool := none
  p9_mutation_rollback_attempted : Bool := false
  p9_mutation_rollback_verified : Option Bool := none
  p9_mutation_request_count : Int := 0
  p9_mutation_evidence_artifact : String := ""

/-- The value of a `TmpP9Observation`. -/
def observation_text : TmpP9Observation → String
  | .untested => "untested"
  | .accepted => "accepted"
  | .returned_data => "returned_data"
  | .returned_binary => "returned_binary"
  | .rejected => "rejected"
  | .payload_rejected => "payload_rejected"

/-- What is known about a mutation of the catalogue. A plan sends nothing. -/
structure TmpMutationPlan where
  code : Nat
  name : String
  safety : String
  safety_evidence : String
  category : String
  sensitivity : Sensitivity
  app_set_dispatch_review : String
  preflight_code : Option Nat
  preflight_name : String
  preflight_observation : TmpP9Observation
  preflight_relationship_evidence : String
  verification_code : Option Nat
  verification_name : String
  verification_relationship_evidence : String
  rollback_code : Option Nat
  rollback_name : String
  rollback_relationship_evidence : String
  rollback_requires_preflight : Bool
  parameter_contract : String
  parameter_contract_evidence : String
  p9_parameter_contract_verified : Bool
  p9_mutation_observation : TmpP9MutationObservation
  p9_mutation_safety_status : TmpP9MutationSafetyStatus
  p9_mutation_firmware_error_code : Option Int
  p9_mutation_parameter_keys : List String
  p9_mutation_state_unchanged : Option Bool
  p9_mutation_rollback_attempted : Bool
  p9_mutation_rollback_verified : Option Bool
  p9_mutation_request_count : Int
  p9_mutation_evidence_artifact : String
  app_analysis_sources : List String
  app_contract_sources : List String
  app_dispatch_methods : List String
  app_contract_provenance : TmpAppContractProvenance
  app_request_models : List String
  app_candidate_parameter_keys : List String
  app_call_site_count : Nat
  app_contract_sha256 : String
  evidence : String
  warnings : List String
  preflight_result_keys : List String := []
  preflight_missing_candidate_keys : List String := []

/-! ## The relationships of the opcodes -/

/-- `_PREFLIGHT_READS`. -/
def PREFLIGHT_READS : List (Nat × Nat) := [
  (0x4005, 0x4004), (0x4007, 0x4006), (0x4008, 0x4009), (0x4013, 0x4012),
  (0x4017, 0x4018), (0x4019, 0x4018), (0x401B, 0x401A), (0x4025, 0x4024),
  (0x4027, 0x4010), (0x402A, 0x4029), (0x402B, 0x4029), (0x402C, 0x4029),
  (0x402E, 0x4039), (0x4030, 0x4039), (0x4033, 0x4039), (0x4034, 0x4039),
  (0x4037, 0x4036), (0x403C, 0x403B), (0x403E, 0x403D), (0x403F, 0x403D),
  (0x4041, 0x4040), (0x4042, 0x4040), (0x4043, 0x4040), (0x4044, 0x4040),
  (0x4051, 0x4050), (0x4052, 0x4050), (0x4053, 0x4050), (0x4054, 0x4050),
  (0x4071, 0x4070), (0x4073, 0x4070), (0x4074, 0x4070), (0x4075, 0x4070),
  (0x4076, 0x4070), (0x4077, 0x4070), (0x4078, 0x4070), (0x407A, 0x4079),
  (0x4082, 0x4080), (0x4083, 0x4080), (0x4084, 0x4080), (0x4086, 0x4080),
  (0x4087, 0x4080), (0x4088, 0x4080), (0x4089, 0x4080), (0x408A, 0x4080),
  (0x408B, 0x4080), (0x408D, 0x408C), (0x408E, 0x4080), (0x4090, 0x4012),
  (0x40A1, 0x40A0), (0x40B1, 0x40B0), (0x40B2, 0x40B0), (0x40B3, 0x40B0),
  (0x40C1, 0x40C0), (0x40C2, 0x40C0), (0x40C3, 0x40C0), (0x40D1, 0x40D0),
  (0x4209, 0x4208), (0x420C, 0x4004), (0x420E, 0x420D), (0x4212, 0x4211),
  (0x4214, 0x4213), (0x4216, 0x4215), (0x421A, 0x4219), (0x421C, 0x421B),
  (0x421E, 0x421D), (0x4220, 0x402F), (0x4221, 0x40E0), (0x4223, 0x4222),
  (0x4225, 0x4224), (0x4227, 0x4226), (0x422A, 0x4229), (0x422C, 0x422D),
  (0x4231, 0x4230), (0x4232, 0x4230), (0x4233, 0x4230), (0x4236, 0x4039),
  (0x423B, 0x423A), (0x423C, 0x423A), (0x424B, 0x424A), (0x424D, 0x424C),
  (0x4252, 0x4251)]

/-- `_ROLLBACKS`. -/
def ROLLBACKS : List (Nat × Nat) := [
  (0x4017, 0x4019), (0x4019, 0x4017), (0x402A, 0x402B), (0x402B, 0x402A),
  (0x4033, 0x4034), (0x4034, 0x4033), (0x4041, 0x4042), (0x4042, 0x4041),
  (0x4051, 0x4053), (0x4053, 0x4051), (0x4073, 0x4075), (0x4075, 0x4073),
  (0x4076, 0x4078), (0x4078, 0x4076), (0x4082, 0x4084), (0x4084, 0x4082),
  (0x40B1, 0x40B3), (0x40B3, 0x40B1), (0x40C1, 0x40C3), (0x40C3, 0x40C1),
  (0x4231, 0x4232), (0x4232, 0x4231), (0x423B, 0x423C), (0x423C, 0x423B)]

/-- `_READ_PAIR_SUFFIXES`. -/
def READ_PAIR_SUFFIXES : List String := [
  "_SET", "_ADD", "_MODIFY", "_REMOVE", "_DELETE", "_CLEAR", "_START", "_STOP", "_MARK", "_BLOCK",
  "_UNBLOCK", "_EJECT", "_SCAN", "_DOWNLOAD", "_SWITCH", "_WAKE"]

/-- `_INVERSE_SUFFIXES`. -/
def INVERSE_SUFFIXES : List (String × List String) := [
  ("_ADD", ["_REMOVE", "_DELETE"]), ("_REMOVE", ["_ADD"]), ("_DELETE", ["_ADD"]),
  ("_BLOCK", ["_UNBLOCK"]), ("_UNBLOCK", ["_BLOCK"]), ("_START", ["_STOP"]),
  ("_STOP", ["_START"])]

section

variable (catalog : List EvidencedOpcode)

/-- `get_tmp_opcode`. -/
def get_tmp_opcode (code : Nat) : Except PyError EvidencedOpcode :=
  match catalog.find? fun opcode => opcode.code = code with
  | some opcode => .ok opcode
  | none => .error {
      cls := .KeyError, message := s!"Unknown Deco TMP/AppV2 opcode: {hex_code code}" }

/-- `_OPCODES_BY_NAME.get(name)`, where the last opcode of a name counts. -/
def opcode_by_name (name : String) : Option EvidencedOpcode :=
  catalog.reverse.find? fun opcode => opcode.name = name

/-- `matches[0].code if len(matches) == 1 else None`. -/
def only_code : List EvidencedOpcode → Option Nat
  | [opcode] => some opcode.code
  | _ => none

/-- `_inferred_preflight_code`: the one read whose name pairs with the mutation's. -/
def inferred_preflight_code (operation : EvidencedOpcode) : Option Nat :=
  match READ_PAIR_SUFFIXES.find? (ends_with operation.name) with
  | none => none
  | some suffix =>
    let base_name := without_last suffix.length operation.name
    let candidate_names := [s!"{base_name}_GET", s!"{base_name}_LIST_GET"].eraseDups
    only_code ((candidate_names.filterMap (opcode_by_name catalog)).filter fun candidate =>
      candidate.safety = "read_only" ∧ candidate.category = operation.category)

/-- The read before a mutation, and how it is known. -/
def preflight_relationship (code : Nat) (operation : EvidencedOpcode) : Option Nat × String :=
  match PREFLIGHT_READS.lookup code with
  | some curated => (some curated, "curated_opcode_relationship")
  | none =>
    match inferred_preflight_code catalog operation with
    | some inferred => (some inferred, "signed_app_opcode_name_pair_inference")
    | none => (none, "")

/-- `_inferred_inverse_code`: the one mutation with the inverse name. -/
def inferred_inverse_code (operation : EvidencedOpcode) (preflight_code : Nat) : Option Nat :=
  match INVERSE_SUFFIXES.find? fun (suffix, _) => ends_with operation.name suffix with
  | none => none
  | some (_, inverse_suffixes) =>
    only_code (catalog.filter fun candidate =>
      candidate.safety ∈ ["mutation", "destructive"] ∧ candidate.category = operation.category ∧
        inverse_suffixes.any (ends_with candidate.name) ∧
        (preflight_relationship catalog candidate.code candidate).1 = some preflight_code)

/-- The mutation that takes one back, and how it is known. -/
def rollback_relationship (code : Nat) (operation : EvidencedOpcode)
    (preflight_code : Option Nat) : Option Nat × String :=
  match ROLLBACKS.lookup code with
  | some paired => (some paired, "curated_opcode_relationship")
  | none =>
    match preflight_code with
    | none => (none, "")
    | some preflight_code =>
      if ends_with operation.name "_SET" ∨ ends_with operation.name "_MODIFY" then
        (some code, "preflight_state_restore")
      else
        match inferred_inverse_code catalog operation preflight_code with
        | some inverse => (some inverse, "signed_app_inverse_name_pair_inference")
        | none => (none, "")

end

/-! ## The plan -/

/-- The key of a path after `$.result.`, cut at one separator after the other. -/
def key_of (remainder : String) : String := before '[' (before '.' (before ':' remainder))

def RESULT_PREFIX : String := "$.result."

/-- One turn of the loop of `_top_level_result_keys`. -/
def add_key (keys : List String) (path : String) : List String :=
  if ¬ starts_with path RESULT_PREFIX then keys
  else
    let key := key_of <| removeprefix path RESULT_PREFIX
    if key ≠ "" ∧ key ∉ keys then keys ++ [key] else keys

/-- `_top_level_result_keys`, of a read that returned data. -/
def top_level_result_keys (operation : Option EvidencedOpcode) : List String :=
  match operation with
  | none => []
  | some operation =>
    if operation.p9_observation ≠ .returned_data then []
    else operation.p9_schema_paths.foldl add_key []

/-- `_parameter_contract`, with its evidence. -/
def parameter_contract (operation : EvidencedOpcode) : String × String :=
  let evidence :=
    if operation.app_contract_provenance = .indirect_virtual_dispatch then
      "signed_deco_android_indirect_virtual_dispatch"
    else "signed_deco_android_static_call_site"
  match operation.app_contract_status with
  | .no_app_call_site => ("unknown", "none")
  | .static_null_payload => ("static_app_null_payload", evidence)
  | .static_model_recovered =>
    let models := ",".intercalate operation.app_request_models
    (s!"static_app_request_models:{models}", evidence)
  | .static_keys_recovered =>
    let keys := ",".intercalate operation.app_candidate_parameter_keys
    (s!"static_app_candidate_keys:{keys}", evidence)

/-- The P9 accepted these very parameters, and its state stayed as it was. -/
def contract_verified (operation : EvidencedOpcode) : Bool :=
  operation.p9_mutation_observation = .verified_noop &&
    operation.p9_mutation_firmware_error_code = some 0 &&
    operation.p9_mutation_state_unchanged = some true &&
    operation.p9_mutation_parameter_keys = operation.app_candidate_parameter_keys

/-- The warning about what was observed of the mutation. -/
def observation_warning : TmpP9MutationObservation → String
  | .verified_noop => "P9 mutation was observed only as a current-value write"
  | .same_value_immediate_verification_passed =>
    "P9 mutation passed immediate current-value verification only; operational safety " ++
      "is not established"
  | _ => "P9 mutation opcode has not been tested"

/-- The warning about its parameters. -/
def contract_warning (operation : EvidencedOpcode) : String :=
  if (parameter_contract operation).1 = "unknown" then "mutation parameter contract is unknown"
  else if contract_verified operation then
    "mutation parameter contract is P9-verified only for the current-value no-op"
  else "mutation parameter contract is static app evidence only"

/-- The warnings about the read before it. -/
def preflight_warning (preflight : Option EvidencedOpcode) (missing : List String) : List String :=
  match preflight with
  | none => ["no preflight read relationship is known"]
  | some preflight =>
    if preflight.p9_observation ≠ .returned_data then
      [s!"P9 preflight read observation is {observation_text preflight.p9_observation}"]
    else if missing ≠ [] then
      ["P9 preflight schema is missing setter candidate keys: " ++ ", ".intercalate missing]
    else []

/-- The warnings about what takes it back. -/
def rollback_warning (rollback : Option EvidencedOpcode) (evidence : String) : List String :=
  if rollback.isNone then ["no rollback opcode relationship is known"]
  else if evidence = "signed_app_inverse_name_pair_inference" then
    ["rollback relationship is inferred from signed-app opcode names"]
  else []

section

variable (catalog : List EvidencedOpcode)

/-- The entry of a related opcode. -/
def related (code : Option Nat) : Except PyError (Option EvidencedOpcode) :=
  match code with
  | none => .ok none
  | some code => some <$> get_tmp_opcode catalog code

/-- `build_tmp_mutation_plan`. -/
def build_tmp_mutation_plan (code : Nat) : Except PyError TmpMutationPlan := do
  let operation ← get_tmp_opcode catalog code
  if operation.safety ∉ ["mutation", "destructive"] then
    .error (value_error
      s!"Failed to plan TMP mutation: {operation.name} is {operation.safety}")
  else
    let (preflight_code, preflight_evidence) := preflight_relationship catalog code operation
    let preflight ← related catalog preflight_code
    let (rollback_code, rollback_evidence) :=
      rollback_relationship catalog code operation preflight_code
    let rollback ← related catalog rollback_code
    let preflight_result_keys := top_level_result_keys preflight
    let preflight_missing_candidate_keys :=
      operation.app_candidate_parameter_keys.filter fun key => key ∉ preflight_result_keys
    let (contract, contract_evidence) := parameter_contract operation
    .ok {
      code := operation.code
      name := operation.name
      safety := operation.safety
      safety_evidence := operation.safety_evidence
      category := operation.category
      sensitivity := operation.sensitivity
      app_set_dispatch_review := operation.app_set_dispatch_review
      preflight_code := preflight.map fun opcode => opcode.code
      preflight_name := preflight.elim "" fun opcode => opcode.name
      preflight_observation := preflight.elim .untested fun opcode => opcode.p9_observation
      preflight_relationship_evidence := preflight_evidence
      verification_code := preflight.map fun opcode => opcode.code
      verification_name := preflight.elim "" fun opcode => opcode.name
      verification_relationship_evidence := preflight_evidence
      rollback_code := rollback.map fun opcode => opcode.code
      rollback_name := rollback.elim "" fun opcode => opcode.name
      rollback_relationship_evidence := rollback_evidence
      rollback_requires_preflight := rollback.isSome
      parameter_contract := contract
      parameter_contract_evidence := contract_evidence
      p9_parameter_contract_verified := contract_verified operation
      p9_mutation_observation := operation.p9_mutation_observation
      p9_mutation_safety_status := operation.p9_mutation_safety_status
      p9_mutation_firmware_error_code := operation.p9_mutation_firmware_error_code
      p9_mutation_parameter_keys := operation.p9_mutation_parameter_keys
      p9_mutation_state_unchanged := operation.p9_mutation_state_unchanged
      p9_mutation_rollback_attempted := operation.p9_mutation_rollback_attempted
      p9_mutation_rollback_verified := operation.p9_mutation_rollback_verified
      p9_mutation_request_count := operation.p9_mutation_request_count
      p9_mutation_evidence_artifact := operation.p9_mutation_evidence_artifact
      app_analysis_sources := operation.app_analysis_sources
      app_contract_sources := operation.app_contract_sources
      app_dispatch_methods := operation.app_dispatch_methods
      app_contract_provenance := operation.app_contract_provenance
      app_request_models := operation.app_request_models
      app_candidate_parameter_keys := operation.app_candidate_parameter_keys
      app_call_site_count := operation.app_call_site_count
      app_contract_sha256 := operation.app_contract_sha256
      evidence :=
        if operation.p9_mutation_observation ≠ .untested then
          "value_free_p9_live_write_and_signed_deco_android_static_contracts"
        else "opcode_name_pair_inference_and_signed_deco_android_static_contracts"
      warnings :=
        [observation_warning operation.p9_mutation_observation,
          "server-side TMP mutation execution is hard-disabled", contract_warning operation] ++
        (if operation.safety = "destructive" then ["operation is classified destructive"]
          else []) ++
        preflight_warning preflight preflight_missing_candidate_keys ++
        (if preflight_evidence = "signed_app_opcode_name_pair_inference" then
          ["preflight relationship is inferred from signed-app opcode names"] else []) ++
        rollback_warning rollback rollback_evidence
      preflight_result_keys
      preflight_missing_candidate_keys }

end

/-! ## What a plan says -/

section

variable {catalog : List EvidencedOpcode}

theorem code_of_get_tmp_opcode {code : Nat} {opcode : EvidencedOpcode}
    (h : get_tmp_opcode catalog code = .ok opcode) : opcode.code = code := by
  unfold get_tmp_opcode at h
  cases hfind : catalog.find? fun opcode => opcode.code = code with
  | none =>
    rw [hfind] at h
    cases h
  | some found =>
    rw [hfind] at h
    cases h
    simpa using List.find?_some hfind

theorem related_some {code : Option Nat} {opcode : EvidencedOpcode}
    (h : related catalog code = .ok (some opcode)) :
    get_tmp_opcode catalog opcode.code = .ok opcode := by
  cases code with
  | none => cases h
  | some code =>
    change some <$> get_tmp_opcode catalog code = _ at h
    cases hget : get_tmp_opcode catalog code with
    | error e =>
      rw [hget] at h
      cases h
    | ok found =>
      rw [hget] at h
      cases h
      rw [code_of_get_tmp_opcode hget, hget]

/-- The opcode of a plan and the read before it, and what the plan takes from the two. -/
theorem build_spec {code : Nat} {plan : TmpMutationPlan}
    (h : build_tmp_mutation_plan catalog code = .ok plan) :
    ∃ operation preflight, get_tmp_opcode catalog code = .ok operation ∧
      operation.safety ∈ ["mutation", "destructive"] ∧
      related catalog (preflight_relationship catalog code operation).1 = .ok preflight ∧
      plan.preflight_code = preflight.map (fun opcode => opcode.code) ∧
      plan.app_candidate_parameter_keys = operation.app_candidate_parameter_keys ∧
      plan.preflight_result_keys = top_level_result_keys preflight ∧
      plan.preflight_missing_candidate_keys =
        operation.app_candidate_parameter_keys.filter fun key =>
          key ∉ top_level_result_keys preflight := by
  unfold build_tmp_mutation_plan at h
  rw [bind_eq_ok] at h
  obtain ⟨operation, hoperation, h⟩ := h
  split at h
  · cases h
  · rename_i hsafety
    simp only [bind_eq_ok] at h
    obtain ⟨preflight, hpreflight, rollback, -, hplan⟩ := h
    cases hplan
    exact ⟨operation, preflight, hoperation, not_not.mp hsafety, hpreflight, rfl, rfl, rfl, rfl⟩

/-- The missing keys are those that the read before the mutation is not known to give. -/
theorem missing_of_build {code : Nat} {plan : TmpMutationPlan}
    (h : build_tmp_mutation_plan catalog code = .ok plan) {preflight_code : Nat}
    (hcode : plan.preflight_code = some preflight_code) {preflight : EvidencedOpcode}
    (hpreflight : get_tmp_opcode catalog preflight_code = .ok preflight) :
    plan.preflight_result_keys = top_level_result_keys (some preflight) ∧
      plan.preflight_missing_candidate_keys =
        plan.app_candidate_parameter_keys.filter fun key =>
          key ∉ top_level_result_keys (some preflight) := by
  obtain ⟨operation, found, -, -, hfound, hplan_code, hkeys, hresult, hmissing⟩ := build_spec h
  rw [hcode] at hplan_code
  obtain ⟨other, rfl, hother⟩ := Option.map_eq_some_iff.mp hplan_code.symm
  have hsame := related_some hfound
  rw [hother, hpreflight] at hsame
  obtain rfl := Except.ok.inj hsame
  exact ⟨hresult, by rw [hmissing, hkeys]⟩

end

/-! ## The keys of a result -/

/-- A path of the result adds its key, if it has one. -/
theorem mem_add_key {keys : List String} {path key : String} :
    key ∈ add_key keys path ↔ key ∈ keys ∨ key ≠ "" ∧
      ∃ remainder, RESULT_PREFIX ++ remainder = path ∧ key_of remainder = key := by
  by_cases hstart : starts_with path RESULT_PREFIX = true
  case neg =>
    unfold add_key
    rw [if_pos hstart]
    refine ⟨Or.inl, fun h => h.resolve_right ?_⟩
    rintro ⟨-, remainder, rfl, -⟩
    exact hstart (starts_with_append _ _)
  case pos =>
    obtain ⟨remainder, rfl⟩ : ∃ remainder, RESULT_PREFIX ++ remainder = path :=
      ⟨_, append_removeprefix hstart⟩
    have hread : (∃ other, RESULT_PREFIX ++ other = RESULT_PREFIX ++ remainder ∧
        key_of other = key) ↔ key_of remainder = key := by
      constructor
      · rintro ⟨other, hother, hkey⟩
        rw [← removeprefix_append RESULT_PREFIX other, hother, removeprefix_append] at hkey
        exact hkey
      · exact fun hkey => ⟨remainder, rfl, hkey⟩
    unfold add_key
    rw [if_neg (not_not.mpr hstart), removeprefix_append, hread]
    dsimp only
    split
    case isTrue hnew =>
      rw [List.mem_append, List.mem_singleton]
      constructor
      · rintro (hkey | rfl)
        · exact Or.inl hkey
        · exact Or.inr ⟨hnew.1, rfl⟩
      · rintro (hkey | ⟨-, rfl⟩)
        · exact Or.inl hkey
        · exact Or.inr rfl
    case isFalse hold =>
      refine ⟨Or.inl, fun h => h.elim id ?_⟩
      rintro ⟨hkey, rfl⟩
      by_contra hmem
      exact hold ⟨hkey, hmem⟩

/-- The loop collects the keys of the paths of the result, without the empty one. -/
theorem mem_foldl_add_key {paths keys : List String} {key : String} :
    key ∈ paths.foldl add_key keys ↔ key ∈ keys ∨ key ≠ "" ∧
      ∃ remainder, RESULT_PREFIX ++ remainder ∈ paths ∧ key_of remainder = key := by
  induction paths generalizing keys with
  | nil => simp
  | cons path paths ih =>
    rw [List.foldl_cons, ih, mem_add_key]
    simp only [List.mem_cons]
    constructor
    · rintro ((hkey | ⟨hne, remainder, hpath, hkey⟩) | ⟨hne, remainder, hpath, hkey⟩)
      · exact Or.inl hkey
      · exact Or.inr ⟨hne, remainder, Or.inl hpath, hkey⟩
      · exact Or.inr ⟨hne, remainder, Or.inr hpath, hkey⟩
    · rintro (hkey | ⟨hne, remainder, hpath | hpath, hkey⟩)
      · exact Or.inl (Or.inl hkey)
      · exact Or.inl (Or.inr ⟨hne, remainder, hpath, hkey⟩)
      · exact Or.inr ⟨hne, remainder, hpath, hkey⟩

theorem nodup_foldl_add_key {paths keys : List String} (h : keys.Nodup) :
    (paths.foldl add_key keys).Nodup := by
  induction paths generalizing keys with
  | nil => exact h
  | cons path paths ih =>
    apply ih
    unfold add_key
    split
    · exact h
    · dsimp only
      split
      · rename_i hnew
        exact List.nodup_append.mpr ⟨h, List.nodup_singleton _, fun a ha b hb hab =>
          hnew.2 (List.mem_singleton.mp hb ▸ hab ▸ ha)⟩
      · exact h

end tplink_deco_api.tmp_mutation_planner
