-- What a catalogue is known to be that was made of artifacts which passed their checks: each
-- observation is of the kind of opcode that it may be of, and no mutation counts as safe.
import TplinkDeco.TmpClient.OpcodeCatalog
import TplinkDeco.TmpClient.VerificationQueue

open dict json ordered text

namespace tplink_deco_api.tmp_opcode_catalog

open exceptions tmp_batches tmp_mutation_planner tmp_mutation_verification

/-! ## Loading -/

theorem require_ok {holds : Bool} {message : String} {done : Unit} :
    require holds message = .ok done ↔ holds = true := by
  cases holds with
  | true => exact iff_of_true rfl rfl
  | false => exact iff_of_false nofun nofun

section

variable {α : Type} {message : String} {read : Dict Nat α → JsonObject → Option (Nat × α)}

/-- A turn of the loop keeps what holds of every record that is read. -/
theorem add_record_keeps {P : Nat → α → Prop}
    (hread : ∀ loaded record code value, read loaded record = some (code, value) → P code value)
    {loaded loaded' : Dict Nat α} {item : Json}
    (h : add_record message read loaded item = .ok loaded')
    (hall : ∀ code value, loaded.get? code = some value → P code value) :
    ∀ code value, loaded'.get? code = some value → P code value := by
  unfold add_record at h
  split at h
  · rename_i record
    cases hvalue : read loaded record with
    | none =>
      rw [hvalue] at h
      cases h
    | some entry =>
      obtain ⟨code, value⟩ := entry
      rw [hvalue] at h
      cases h
      intro other found hfound
      rw [Dict.get?_set] at hfound
      split at hfound
      · rename_i hsame
        cases hfound
        exact hsame ▸ hread loaded record code value hvalue
      · exact hall other found hfound
  · cases h
    exact hall

/-- Every entry that is loaded was read from a record. -/
theorem of_load_records {P : Nat → α → Prop}
    (hread : ∀ loaded record code value, read loaded record = some (code, value) → P code value)
    {records : List Json} {loaded : Dict Nat α}
    (h : load_records message read records = .ok loaded) :
    ∀ code value, loaded.get? code = some value → P code value := by
  have hrun : ∀ (records : List Json) (start loaded : Dict Nat α),
      records.foldlM (add_record message read) start = .ok loaded →
      (∀ code value, start.get? code = some value → P code value) →
      ∀ code value, loaded.get? code = some value → P code value := by
    intro records
    induction records with
    | nil =>
      intro start loaded hrun hall
      cases hrun
      exact hall
    | cons item records ih =>
      intro start loaded hrun hall
      rw [List.foldlM_cons, bind_eq_ok] at hrun
      obtain ⟨next, hnext, hrest⟩ := hrun
      exact ih next loaded hrest (add_record_keeps hread hnext hall)
  exact hrun records .empty loaded h fun code value hvalue => by cases hvalue

end

/-! ## The registry and the observations -/

theorem of_read_operation {loaded : Dict Nat Operation} {record : JsonObject} {code : Nat}
    {operation : Operation} (h : read_operation loaded record = some (code, operation)) :
    starts_with operation.name "TMP_" = true := by
  unfold read_operation at h
  simp only [bind, Option.bind_eq_some_iff] at h
  obtain ⟨_, -, h⟩ := h
  split at h
  · rename_i hvalid
    cases h
    exact hvalid.1
  · cases h

/-- A registry that was accepted names its opcodes, and has the legacy ones under their names. -/
structure SoundRegistry (registry : OpcodeRegistry) : Prop where
  named : ∀ code operation, registry.operations.get? code = some operation →
    starts_with operation.name "TMP_" = true
  legacy : ∀ row ∈ LEGACY_OPCODE_ROWS, ∃ operation,
    registry.operations.get? row.1 = some operation ∧ operation.name = registry_name row.1 row.2

theorem sound_registry {data : JsonObject} {registry : OpcodeRegistry}
    (h : load_opcode_registry data = .ok registry) : SoundRegistry registry := by
  unfold load_opcode_registry at h
  simp only [bind_eq_ok, require_ok] at h
  obtain ⟨_, -, records, -, source, -, operations, hload, _, -, _, hlegacy, _, -, hmade⟩ := h
  obtain rfl := Except.ok.inj hmade
  constructor
  · exact of_load_records (fun _ _ _ _ hread => of_read_operation hread) hload
  · intro row hrow
    have hlisted := List.all_eq_true.mp hlegacy row hrow
    rw [Option.any_eq_true] at hlisted
    obtain ⟨operation, hoperation, hname⟩ := hlisted
    exact ⟨operation, hoperation, of_decide_eq_true hname⟩

/-- The P9 was asked for a read only. -/
theorem sound_reads {registry : OpcodeRegistry} {data : JsonObject}
    {reads : Dict Nat ReadObservation}
    (h : load_p9_read_observations registry data = .ok reads) {code : Nat}
    (hcode : code ∈ reads.keys) : registry.safety_at code = some "read_only" := by
  unfold load_p9_read_observations at h
  simp only [bind_eq_ok, require_ok] at h
  obtain ⟨_, -, records, -, observations, -, _, hcovered, hmade⟩ := h
  obtain rfl := Except.ok.inj hmade
  have hall := (of_decide_eq_true hcovered).2
  exact of_decide_eq_true (List.all_eq_true.mp hall code hcode)

/-- What an observation of a mutation says: that it is one, and that nothing is known of its
safety. -/
structure SoundMutation (registry : OpcodeRegistry) (code : Nat)
    (observation : MutationObservation) : Prop where
  is_mutation : registry.safety_at code = some "mutation"
  tested : observation.status ≠ .untested
  in_doubt : observation.safety_status = .safety_not_established

theorem tested_of_mutation_status {text : String} {status : TmpP9MutationObservation}
    (h : mutation_status text = some status) : status ≠ .untested := by
  unfold mutation_status at h
  split at h <;> cases h <;> exact nofun

theorem in_doubt_of_safety_status {text : String} {status : TmpP9MutationSafetyStatus}
    (h : safety_status text = some status) : status = .safety_not_established := by
  unfold safety_status at h
  split at h <;> cases h
  rfl

theorem of_read_mutation_observation {registry : OpcodeRegistry}
    {loaded : Dict Nat MutationObservation} {record : JsonObject} {code : Nat}
    {observation : MutationObservation}
    (h : read_mutation_observation registry loaded record = some (code, observation)) :
    SoundMutation registry code observation := by
  unfold read_mutation_observation at h
  simp only [bind, Option.bind_eq_some_iff] at h
  obtain ⟨_, -, status, hstatus, safety, hsafety, h⟩ := h
  split at h
  · rename_i hmutation
    cases h
    exact ⟨hmutation, tested_of_mutation_status hstatus, in_doubt_of_safety_status hsafety⟩
  · cases h

theorem sound_mutations {registry : OpcodeRegistry} {data : JsonObject}
    {mutations : Dict Nat MutationObservation}
    (h : load_p9_mutation_observations registry data = .ok mutations) {code : Nat}
    {observation : MutationObservation} (hcode : mutations.get? code = some observation) :
    SoundMutation registry code observation := by
  unfold load_p9_mutation_observations at h
  simp only [bind_eq_ok, require_ok] at h
  obtain ⟨_, -, records, -, observations, hload, _, -, hmade⟩ := h
  obtain rfl := Except.ok.inj hmade
  exact of_load_records (fun _ _ _ _ hread => of_read_mutation_observation hread) hload code
    observation hcode

/-! ## The contracts -/

theorem of_read_indirect {float_repr : Option Rat → String} {loaded : Dict Nat AppContract}
    {record : JsonObject} {code : Nat} {contract : AppContract}
    (h : read_indirect_app_contract float_repr loaded record = some (code, contract)) :
    contract.status ≠ .no_app_call_site := by
  unfold read_indirect_app_contract at h
  simp only [bind, Option.bind_eq_some_iff] at h
  obtain ⟨_, -, status, -, h⟩ := h
  split at h
  · rename_i hvalid
    cases h
    exact hvalid.1
  · cases h

theorem sound_indirect {float_repr : Option Rat → String} {data : JsonObject}
    {contracts : Dict Nat AppContract}
    (h : load_indirect_app_contracts float_repr data = .ok contracts) {code : Nat}
    {contract : AppContract} (hcode : contracts.get? code = some contract) :
    contract.status ≠ .no_app_call_site := by
  unfold load_indirect_app_contracts at h
  simp only [bind_eq_ok, require_ok] at h
  obtain ⟨_, -, records, -, hload⟩ := h
  exact of_load_records (fun _ _ _ _ hread => of_read_indirect hread) hload code contract hcode

/-- The merged contracts: an indirect one stands where the call sites showed none, and the others
are as they were. -/
theorem get?_of_merge {entries : List (Nat × AppContract)} (hnodup : (entries.map Prod.fst).Nodup)
    {contracts merged : Dict Nat AppContract}
    (h : entries.foldlM merge_contract contracts = .ok merged) (code : Nat) :
    merged.get? code = (entries.lookup code).or (contracts.get? code) ∧
      (code ∈ entries.map Prod.fst → code ∈ contracts.keys) := by
  induction entries generalizing contracts with
  | nil =>
    cases h
    exact ⟨rfl, nofun⟩
  | cons entry entries ih =>
    obtain ⟨first, contract⟩ := entry
    rw [List.foldlM_cons, bind_eq_ok] at h
    obtain ⟨next, hnext, hrest⟩ := h
    rw [List.map_cons, List.nodup_cons] at hnodup
    unfold merge_contract at hnext
    split at hnext
    case isFalse => cases hnext
    case isTrue hbase =>
      cases hnext
      obtain ⟨hget, hkeys⟩ := ih hnodup.2 hrest
      have hfirst : first ∈ contracts.keys := by
        rw [Option.any_eq_true] at hbase
        obtain ⟨base, hfound, -⟩ := hbase
        exact (Dict.mem_keys _ _).mpr ⟨base, hfound⟩
      constructor
      · rw [hget, Dict.get?_set, dict.lookup_cons]
        by_cases hsame : code = first
        · subst hsame
          rw [dict.lookup_eq_none hnodup.1, if_pos rfl, if_pos rfl]
          rfl
        · rw [if_neg hsame, if_neg hsame]
      · intro hmem
        rw [List.map_cons, List.mem_cons] at hmem
        rcases hmem with rfl | hmem
        · exact hfirst
        · have hset := hkeys hmem
          rwa [Dict.keys_set, if_pos hfirst] at hset

/-! ## The catalogue -/

/-- What the checks of the artifacts leave of the evidence. -/
structure SoundEvidence (evidence : Evidence) : Prop where
  registry : SoundRegistry evidence.registry
  reads : ∀ code ∈ evidence.reads.keys,
    evidence.registry.safety_at code = some "read_only"
  mutations : ∀ code observation, evidence.mutations.get? code = some observation →
    SoundMutation evidence.registry code observation
  indirect : ∀ code contract, evidence.contracts.get? code = some contract →
    code ∈ evidence.indirect_contracts.keys → contract.status ≠ .no_app_call_site

theorem sound_evidence {float_repr : Option Rat → String} {artifacts : Artifacts}
    {evidence : Evidence} (h : load_evidence float_repr artifacts = .ok evidence) :
    SoundEvidence evidence := by
  unfold load_evidence at h
  simp only [bind_eq_ok] at h
  obtain ⟨registry, hregistry, reads, hreads, mutations, hmutations, direct, -, indirect,
    hindirect, contracts, hmerge, hmade⟩ := h
  obtain rfl := Except.ok.inj hmade
  refine ⟨sound_registry hregistry, fun code hcode => sound_reads hreads hcode,
    fun code observation hcode => sound_mutations hmutations hcode, ?_⟩
  intro code contract hcontract hkey
  obtain ⟨found, hfound⟩ := (Dict.mem_keys _ _).mp hkey
  have hget := (get?_of_merge indirect.nodup hmerge code).1
  change contracts.get? code = (indirect.get? code).or _ at hget
  rw [hfound] at hget
  obtain rfl : found = contract := Option.some.inj (hget.symm.trans hcontract)
  exact sound_indirect hindirect hfound

/-- Nothing is said of a try of the mutation: each of its fields has its default. -/
structure Untried (opcode : CataloguedOpcode) : Prop where
  safety_status : opcode.p9_mutation_safety_status = .untested
  firmware_error_code : opcode.p9_mutation_firmware_error_code = none
  parameter_keys : opcode.p9_mutation_parameter_keys = []
  state_unchanged : opcode.p9_mutation_state_unchanged = none
  rollback_attempted : opcode.p9_mutation_rollback_attempted = false
  rollback_verified : opcode.p9_mutation_rollback_verified = none
  request_count : opcode.p9_mutation_request_count = 0
  evidence_artifact : opcode.p9_mutation_evidence_artifact = ""

/-- An entry of the catalogue says of an opcode what may be said of one of its kind. -/
structure Consistent (opcode : CataloguedOpcode) : Prop where
  named : starts_with opcode.name "TMP_" = true
  classified : opcode.safety = safety_of opcode.code opcode.name
  /-- Only a read was asked of the P9, beside the two opcodes of the protocol. -/
  asked_if_read : opcode.p9_observation ≠ .untested → opcode.code ∉ [0x0001, 0x4001] →
    opcode.safety = "read_only"
  /-- Only a mutation that is not destructive was tried on the P9, and it does not count as safe. -/
  tried_if_mutation : opcode.p9_mutation_observation ≠ .untested →
    opcode.safety = "mutation" ∧ opcode.p9_mutation_safety_status = .safety_not_established
  /-- Where no mutation was tried, none of its evidence is there. -/
  untried : opcode.p9_mutation_observation = .untested → Untried opcode
  provenance : opcode.app_contract_provenance = .none ↔
    opcode.app_contract_status = .no_app_call_site
  reviewed : opcode.app_set_dispatch_review ≠ "" →
    opcode.safety = "mutation" ∧ opcode.sensitivity = .secret

theorem reviewed_of_lookup {code : Nat}
    (h : (SET_DISPATCHED_GET_REVIEWS.lookup code).getD "" ≠ "") :
    is_reviewed code = true ∧ code ∈ SECRET_OPCODE_CODES := by
  unfold is_reviewed SECRET_OPCODE_CODES
  cases hlookup : SET_DISPATCHED_GET_REVIEWS.lookup code with
  | none =>
    rw [hlookup] at h
    exact absurd rfl h
  | some review =>
    refine ⟨rfl, List.mem_append_left _ ?_⟩
    by_contra hout
    rw [dict.lookup_eq_none hout] at hlookup
    cases hlookup

theorem consistent_entry {evidence : Evidence} (hsound : SoundEvidence evidence)
    {row : Nat × Operation} (hrow : row ∈ evidence.registry.rows) {opcode : CataloguedOpcode}
    (h : catalogue_entry evidence row = .ok opcode) :
    opcode.code = row.1 ∧ opcode.name = row.2.name ∧ Consistent opcode := by
  obtain ⟨code, operation⟩ := row
  have hoperation : evidence.registry.operations.get? code = some operation :=
    (Dict.get?_eq_some _ _ _).mpr (mem_by_key.mp hrow)
  have hsafety {safety : String} (hsame : evidence.registry.safety_at code = some safety) :
      safety_of code operation.name = safety := by
    unfold OpcodeRegistry.safety_at at hsame
    rw [hoperation] at hsame
    exact Option.some.inj hsame
  unfold catalogue_entry at h
  dsimp only at h
  split at h
  case h_1 => cases h
  case h_2 contract hcontract =>
    obtain rfl := Except.ok.inj h
    refine ⟨rfl, rfl, hsound.registry.named code operation hoperation, rfl, ?_, ?_, ?_, ?_, ?_⟩
    · intro huntested hprotocol
      dsimp only at huntested hprotocol ⊢
      rw [if_neg hprotocol] at huntested
      cases hread : evidence.reads.get? code with
      | none =>
        rw [hread] at huntested
        exact absurd rfl huntested
      | some observation =>
        exact hsafety (hsound.reads code ((Dict.mem_keys _ _).mpr ⟨observation, hread⟩))
    · intro htried
      dsimp only at htried ⊢
      cases hmutation : evidence.mutations.get? code with
      | none =>
        rw [hmutation] at htried
        exact absurd rfl htried
      | some observation =>
        have hobserved := hsound.mutations code observation hmutation
        exact ⟨hsafety hobserved.is_mutation, hobserved.in_doubt⟩
    · intro huntried
      dsimp only at huntried ⊢
      cases hmutation : evidence.mutations.get? code with
      | none => exact ⟨rfl, rfl, rfl, rfl, rfl, rfl, rfl, rfl⟩
      | some observation =>
        rw [hmutation] at huntried
        exact absurd huntried (hsound.mutations code observation hmutation).tested
    · dsimp only
      unfold app_contract_provenance
      split
      · rename_i hkey
        exact iff_of_false nofun (hsound.indirect code contract hcontract hkey)
      · split
        · rename_i hnone
          exact iff_of_true rfl hnone
        · rename_i hsome
          exact iff_of_false nofun hsome
    · intro hreview
      obtain ⟨hreviewed, hsecret⟩ := reviewed_of_lookup hreview
      dsimp only
      unfold safety_of sensitivity_of
      rw [if_pos hreviewed, if_pos (Or.inl hsecret)]
      exact ⟨rfl, rfl⟩

/-- A catalogue as it was loaded. -/
structure SoundCatalog (catalog : List CataloguedOpcode) : Prop where
  consistent : ∀ opcode ∈ catalog, Consistent opcode
  ordered : (catalog.map fun opcode => opcode.code).Pairwise (· < ·)
  legacy : ∀ row ∈ LEGACY_OPCODE_ROWS, ∃ opcode ∈ catalog, opcode.code = row.1 ∧
    opcode.name = registry_name row.1 row.2
  /-- What the batches look up by its code is there. -/
  probed : ∀ code ∈ PROBED_CODES,
    ((catalog.map CataloguedOpcode.toEvidencedOpcode).map EvidencedOpcode.toTmpOpcode
      |>.find? (·.code = code)).isSome
  /-- No mutation is ranked as one that was verified: what was tried is in doubt. -/
  never_verified : ∀ filter limit queue,
    build_tmp_mutation_verification_queue (catalog.map CataloguedOpcode.toEvidencedOpcode) filter
        limit = .ok queue →
      ∀ c ∈ queue, c.tier ≠ .verified_noop ∧
        (c.plan.p9_mutation_observation ≠ .untested → c.tier = .safety_not_established)

theorem codes_of_rows {evidence : Evidence} (hsound : SoundEvidence evidence)
    {rows : List (Nat × Operation)} (hrows : ∀ row ∈ rows, row ∈ evidence.registry.rows)
    {catalog : List CataloguedOpcode} (h : rows.mapM (catalogue_entry evidence) = .ok catalog) :
    catalog.map (fun opcode => opcode.code) = rows.map Prod.fst := by
  induction mapM_eq_ok.mp h with
  | nil => rfl
  | @cons row opcode rows catalog hentry hrest ih =>
    have hrow := (consistent_entry hsound (hrows row List.mem_cons_self) hentry).1
    rw [List.map_cons, List.map_cons, hrow,
      ih (fun row hmem => hrows row (List.mem_cons_of_mem _ hmem)) (mapM_eq_ok.mpr hrest)]

theorem rows_ordered (registry : OpcodeRegistry) :
    (registry.rows.map Prod.fst).Pairwise (· < ·) := by
  have hsorted : (registry.rows.map Prod.fst).Pairwise (· ≤ ·) :=
    List.pairwise_map.mpr (pairwise_by_key Prod.fst registry.operations.entries)
  have hdistinct : (registry.rows.map Prod.fst).Nodup :=
    ((perm_by_key Prod.fst registry.operations.entries).map Prod.fst).nodup_iff.mpr
      registry.operations.nodup
  exact (hsorted.and hdistinct).imp fun ⟨hle, hne⟩ => lt_of_le_of_ne hle hne

theorem verified_of_tier {plan : TmpMutationPlan}
    (h : (candidate plan).tier = .verified_noop) :
    plan.p9_mutation_observation = .verified_noop := by
  by_contra hother
  change tier_of plan (verification_strategy plan) (risk_flags plan) (blocking_gaps plan) = _ at h
  unfold tier_of at h
  rw [if_neg hother] at h
  cases hstrategy : verification_strategy plan <;> rw [hstrategy] at h <;> dsimp only at h <;>
    split_ifs at h

/-- A candidate for a mutation that was tried is in doubt, whatever was observed. -/
theorem tier_of_consistent {catalog : List CataloguedOpcode}
    (hconsistent : ∀ opcode ∈ catalog, Consistent opcode) {code : Nat} {plan : TmpMutationPlan}
    (h : build_tmp_mutation_plan (catalog.map CataloguedOpcode.toEvidencedOpcode) code =
      .ok plan) :
    (candidate plan).tier ≠ .verified_noop ∧
      (plan.p9_mutation_observation ≠ .untested →
        (candidate plan).tier = .safety_not_established) := by
  obtain ⟨operation, -, -, hget, -, -, -, -, -, -, -, -, hstatus, hobservation, -⟩ := plan_spec h
  obtain ⟨opcode, hopcode, rfl⟩ := List.mem_map.mp (mem_of_get_tmp_opcode hget)
  have hdoubt : plan.p9_mutation_observation ≠ .untested →
      (candidate plan).tier = .safety_not_established := by
    intro htried
    rw [hobservation] at htried
    have hindoubt := ((hconsistent opcode hopcode).tried_if_mutation htried).2
    change tier_of plan _ _ _ = _
    exact if_pos (hstatus.trans hindoubt)
  refine ⟨fun hverified => ?_, hdoubt⟩
  have htried : plan.p9_mutation_observation ≠ .untested := by
    rw [verified_of_tier hverified]
    exact nofun
  rw [hdoubt htried] at hverified
  cases hverified

theorem load_catalog_sound {float_repr : Option Rat → String} {artifacts : Artifacts}
    {catalog : List CataloguedOpcode} (h : load_catalog float_repr artifacts = .ok catalog) :
    SoundCatalog catalog := by
  unfold load_catalog at h
  rw [bind_eq_ok] at h
  obtain ⟨evidence, hevidence, hmade⟩ := h
  have hsound := sound_evidence hevidence
  have hcodes := codes_of_rows hsound (fun _ hrow => hrow) hmade
  have hconsistent : ∀ opcode ∈ catalog, Consistent opcode := by
    intro opcode hopcode
    obtain ⟨row, hrow, hentry⟩ := item_of_mapM hmade hopcode
    exact (consistent_entry hsound hrow hentry).2.2
  have hlegacy : ∀ row ∈ LEGACY_OPCODE_ROWS, ∃ opcode ∈ catalog, opcode.code = row.1 ∧
      opcode.name = registry_name row.1 row.2 := by
    intro row hrow
    obtain ⟨operation, hoperation, hname⟩ := hsound.registry.legacy row hrow
    have hlisted : (row.1, operation) ∈ evidence.registry.rows :=
      mem_by_key.mpr ((Dict.get?_eq_some _ _ _).mp hoperation)
    obtain ⟨opcode, hopcode, hentry⟩ := result_of_mapM hmade hlisted
    obtain ⟨hcode, hnamed, -⟩ := consistent_entry hsound hlisted hentry
    exact ⟨opcode, hopcode, hcode, hnamed.trans hname⟩
  refine ⟨hconsistent, ?_, hlegacy, ?_, ?_⟩
  · rw [hcodes]
    exact rows_ordered evidence.registry
  · intro code hcode
    have hrow : ∀ code ∈ PROBED_CODES, ∃ row ∈ LEGACY_OPCODE_ROWS, row.1 = code := by
      decide +kernel
    obtain ⟨row, hrow, rfl⟩ := hrow code hcode
    obtain ⟨opcode, hopcode, hsame, -⟩ := hlegacy row hrow
    rw [List.find?_isSome]
    exact ⟨opcode.toTmpOpcode, List.mem_map_of_mem (List.mem_map_of_mem hopcode),
      decide_eq_true hsame⟩
  · intro filter limit queue hqueue c hc
    obtain ⟨-, all, hall, rfl⟩ := queue_eq_ok.mp hqueue
    obtain ⟨opcode, -, -, plan, hplan, rfl⟩ :=
      (mem_candidates hall).mp (mem_of_mem_ranked hc).1
    exact tier_of_consistent hconsistent hplan

/-! ### Artifacts with an observation of each kind -/

/-- Records that are read one by one, with distinct codes, are all loaded. -/
theorem load_records_all {α : Type} (message : String)
    {read : Dict Nat α → JsonObject → Option (Nat × α)} {records : List JsonObject}
    {entries : List (Nat × α)}
    (hread : List.Forall₂ (fun record entry => ∀ loaded, read loaded record = some entry)
      records entries)
    (hdistinct : (entries.map Prod.fst).Nodup) :
    ∃ loaded, load_records message read (records.map .obj) = .ok loaded ∧
      loaded.entries = entries := by
  have hrun : ∀ start : Dict Nat α, (∀ entry ∈ entries, entry.1 ∉ start.keys) →
      ∃ loaded, (records.map Json.obj).foldlM (add_record message read) start = .ok loaded ∧
        loaded.entries = start.entries ++ entries := by
    induction hread with
    | nil => exact fun start _ => ⟨start, rfl, (List.append_nil _).symm⟩
    | @cons record entry records entries hfirst hrest ih =>
      intro start hnew
      rw [List.map_cons, List.nodup_cons] at hdistinct
      have hset := Dict.entries_set_of_new start entry.2 (hnew entry List.mem_cons_self)
      obtain ⟨loaded, hloaded, hentries⟩ := ih hdistinct.2 (start.set entry.1 entry.2) (by
        intro other hother hmem
        rw [Dict.keys, hset, List.map_append, List.mem_append] at hmem
        rcases hmem with hold | hsame
        · exact hnew other (List.mem_cons_of_mem _ hother) hold
        · rw [List.map_singleton, List.mem_singleton] at hsame
          exact hdistinct.1 (hsame ▸ List.mem_map_of_mem hother))
      refine ⟨loaded, ?_, ?_⟩
      · rw [List.map_cons, List.foldlM_cons, bind_eq_ok]
        refine ⟨start.set entry.1 entry.2, ?_, hloaded⟩
        unfold add_record
        dsimp only
        rw [hfirst start]
      · rw [hentries, hset, List.append_assoc]
        rfl
  obtain ⟨loaded, hloaded, hentries⟩ := hrun .empty fun _ _ => List.not_mem_nil
  exact ⟨loaded, hloaded, hentries⟩

/-- The legacy rows, an opcode that was reviewed and one that only an indirect call names. -/
def listed_rows : List (Nat × String) :=
  LEGACY_OPCODE_ROWS ++ [
    (0x4097, "TMP_APPV2_OP_SYNC_CONFIG_GET"), (0x425A, "TMP_APPV2_OP_BAND_SEARCH_START")]

/-- A row as an operation of the registry. -/
def listed_operation (row : Nat × String) : Nat × Operation :=
  (row.1, { name := registry_name row.1 row.2, aliases := [], mapping_occurrences := 1 })

/-- Its record in the artifact. -/
def operation_record (row : Nat × String) : JsonObject := [
  ("code", .int row.1), ("name", .str (registry_name row.1 row.2)),
  ("mapping_occurrences", .int 1)]

/-- The record of a read that returned data. -/
def read_record : JsonObject := [
  ("code", .int 0x401A), ("status", .str "returned_data"), ("firmware_error_code", .int 0)]

/-- The record of a mutation that was tried. -/
def mutation_record : JsonObject := [
  ("code", .int 0x4209), ("status", .str "same_value_immediate_verification_passed"),
  ("safety_status", .str "safety_not_established"), ("mutation_request_count", .int 1),
  ("rollback_attempted", .bool false)]

/-- The record of a contract without a call site. -/
def contract_record (row : Nat × String) : JsonObject := [
  ("code", .int row.1), ("static_contract_status", .str "no_app_call_site"),
  ("contract_sha256", .str "0123456789abcdef0123456789abcdef0123456789abcdef0123456789abcdef")]

/-- A contract that was found behind a virtual call. -/
def indirect_record : JsonObject := [
  ("code", .int 0x425A), ("static_contract_status", .str "static_null_payload"),
  ("dispatch_methods", .arr [.str "set"])]

/-- A row as a contract. -/
def listed_contract (row : Nat × String) : Nat × AppContract :=
  (row.1, {
    record := contract_record row
    status := .no_app_call_site
    contract_sha256 := "0123456789abcdef0123456789abcdef0123456789abcdef0123456789abcdef" })

/-- Artifacts in which every kind of record occurs. -/
def listed_artifacts : Artifacts where
  registry := [
    ("schema_version", .int 1),
    ("operations", .arr ((listed_rows.map operation_record).map .obj)),
    ("operation_count", .int listed_rows.length),
    ("source", .obj [("application", .str "Deco")])]
  p9_reads := [
    ("schema_version", .int 1), ("observations", .arr [.obj read_record]),
    ("read_only_opcode_count", .int 1)]
  p9_mutations := [
    ("schema_version", .int 2), ("observations", .arr [.obj mutation_record]),
    ("tested_mutation_count", .int 1)]
  app_contracts := [
    ("schema_version", .int 2), ("sources", .arr []),
    ("contracts", .arr ((listed_rows.map contract_record).map .obj))]
  indirect_app_contracts := [
    ("schema_version", .int 1), ("contracts", .arr [.obj indirect_record])]

theorem code_of_int (code : Nat) (fields : JsonObject) :
    code_of (("code", .int code) :: fields) = some code := by
  have hint : get_int_or (("code", .int code) :: fields) "code" (-1) = code := by
    unfold get_int_or json.get
    simp
  unfold code_of
  rw [hint]
  exact if_neg (not_lt.mpr (Int.natCast_nonneg code))

theorem listed_distinct : (listed_rows.map Prod.fst).Nodup := by decide +kernel

theorem starts_of {name : String} (first : List Char) {rest : List Char}
    (hname : name = String.ofList (first ++ rest)) :
    starts_with name (String.ofList first) = true := by
  rw [hname]
  unfold starts_with
  rw [String.toList_ofList, String.toList_ofList]
  exact decide_eq_true (List.prefix_append _ _)

theorem listed_named : ∀ row ∈ listed_rows, starts_with row.2 "TMP_" = true := by
  unfold listed_rows LEGACY_OPCODE_ROWS
  repeat refine List.forall_mem_cons.mpr ⟨starts_of ['T', 'M', 'P', '_'] rfl, ?_⟩
  exact nofun

theorem registry_named {row : Nat × String} (hrow : row ∈ listed_rows) :
    starts_with (registry_name row.1 row.2) "TMP_" = true := by
  unfold registry_name
  split
  · exact starts_of ['T', 'M', 'P', '_'] rfl
  · exact listed_named row hrow

theorem read_operation_record {row : Nat × String} (hrow : row ∈ listed_rows)
    (loaded : Dict Nat Operation) :
    read_operation loaded (operation_record row) = some (listed_operation row) := by
  have hname : models.get_str (operation_record row) "name" = registry_name row.1 row.2 :=
    models.get_str_of rfl
  have hoccurrences : models.get_int (operation_record row) "mapping_occurrences" = 1 :=
    models.get_int_of rfl
  have haliases : models.get_str_tuple (operation_record row) "aliases" = [] := rfl
  unfold read_operation
  rw [hname, hoccurrences, haliases, operation_record, code_of_int]
  exact if_pos ⟨registry_named hrow, le_refl 1⟩

theorem read_contract_record (row : Nat × String) (loaded : Dict Nat AppContract) :
    read_app_contract loaded (contract_record row) = some (listed_contract row) := by
  have hstatus : models.get_str (contract_record row) "static_contract_status" =
      "no_app_call_site" := models.get_str_of rfl
  have hdigest : models.get_str (contract_record row) "contract_sha256" =
      "0123456789abcdef0123456789abcdef0123456789abcdef0123456789abcdef" := models.get_str_of rfl
  unfold read_app_contract
  rw [hstatus, hdigest, contract_record, code_of_int]
  rfl

theorem listed_registry_loads : ∃ registry,
    load_opcode_registry listed_artifacts.registry = .ok registry ∧
      registry.operations.entries = listed_rows.map listed_operation := by
  obtain ⟨operations, hload, hentries⟩ := load_records_all
    "Failed to load TMP opcode registry: invalid operation"
    (List.forall₂_map_left_iff.mpr (List.forall₂_map_right_iff.mpr
      (List.forall₂_same.mpr fun _ hrow => read_operation_record hrow)))
    (by
      rw [List.map_map]
      exact listed_distinct)
  have hget : ∀ row ∈ LEGACY_OPCODE_ROWS,
      operations.get? row.1 = some (listed_operation row).2 := by
    intro row hrow
    rw [Dict.get?_eq_some, hentries]
    exact List.mem_map_of_mem (f := listed_operation) (List.mem_append_left _ hrow)
  refine ⟨⟨operations, "Deco"⟩, ?_, hentries⟩
  unfold load_opcode_registry
  simp only [bind_eq_ok, require_ok]
  refine ⟨(), rfl, _, rfl, _, rfl, operations, hload, (), decide_eq_true ?_, (), ?_, (), rfl, rfl⟩
  · rw [Dict.size, hentries, List.length_map]
    rfl
  · rw [List.all_eq_true]
    intro row hrow
    rw [hget row hrow]
    exact decide_eq_true rfl

section

variable {registry : OpcodeRegistry}
  (hentries : registry.operations.entries = listed_rows.map listed_operation)

include hentries

theorem listed_get {row : Nat × String} (hrow : row ∈ listed_rows) :
    registry.operations.get? row.1 = some (listed_operation row).2 := by
  rw [Dict.get?_eq_some, hentries]
  exact List.mem_map_of_mem (f := listed_operation) hrow

theorem listed_safety {row : Nat × String} (hrow : row ∈ listed_rows) :
    registry.safety_at row.1 = some (safety_of row.1 (registry_name row.1 row.2)) := by
  unfold OpcodeRegistry.safety_at
  rw [listed_get hentries hrow]
  rfl

/-- The read is loaded. -/
theorem listed_reads_load : ∃ reads,
    load_p9_read_observations registry listed_artifacts.p9_reads = .ok reads ∧
      reads.entries = [(0x401A, ⟨read_record, .returned_data⟩)] := by
  have hone : List.Forall₂ (fun record entry => ∀ loaded,
      read_observation loaded record = some entry) [read_record]
      [(0x401A, ⟨read_record, .returned_data⟩)] :=
    .cons (fun _ => rfl) .nil
  obtain ⟨reads, hload, hread⟩ := load_records_all
    "Failed to load TMP compatibility: invalid observation" hone (List.nodup_singleton _)
  refine ⟨reads, ?_, hread⟩
  have hrow : (0x401A, "TMP_APPV2_OP_AUTO_LED_GET") ∈ listed_rows := by decide +kernel
  have hsafety : registry.safety_at 0x401A = some "read_only" :=
    (listed_safety hentries hrow).trans (by decide +kernel)
  unfold load_p9_read_observations
  simp only [bind_eq_ok, require_ok]
  refine ⟨(), rfl, _, rfl, reads, hload, (), decide_eq_true ⟨?_, ?_⟩, rfl⟩
  · rw [Dict.size, hread]
    rfl
  · rw [Dict.keys, hread]
    simp [hsafety]

/-- The mutation that was tried is loaded. -/
theorem listed_mutations_load : ∃ mutations,
    load_p9_mutation_observations registry listed_artifacts.p9_mutations = .ok mutations ∧
      mutations.entries = [(0x4209, ⟨mutation_record, .same_value_immediate_verification_passed,
        .safety_not_established⟩)] := by
  have hrow : (0x4209, "TMP_APPV2_OP_11R_SET") ∈ listed_rows := by decide +kernel
  have hsafety : registry.safety_at 0x4209 = some "mutation" :=
    (listed_safety hentries hrow).trans (by decide +kernel)
  have hone : List.Forall₂ (fun record entry => ∀ loaded,
      read_mutation_observation registry loaded record = some entry) [mutation_record]
      [(0x4209, ⟨mutation_record, .same_value_immediate_verification_passed,
        .safety_not_established⟩)] :=
    .cons (fun _ => if_pos hsafety) .nil
  obtain ⟨mutations, hload, hread⟩ := load_records_all
    "Failed to load TMP mutation compatibility: invalid observation" hone
    (List.nodup_singleton _)
  refine ⟨mutations, ?_, hread⟩
  unfold load_p9_mutation_observations
  simp only [bind_eq_ok, require_ok]
  refine ⟨(), rfl, _, rfl, mutations, hload, (), decide_eq_true ?_, rfl⟩
  rw [Dict.size, hread]
  rfl

theorem listed_contracts_load :
    ∃ found, load_app_contracts registry listed_artifacts.app_contracts = .ok found ∧
      found.contracts.entries = listed_rows.map listed_contract := by
  obtain ⟨contracts, hload, hcontracts⟩ := load_records_all
    "Failed to load TMP app contracts: invalid contract"
    (List.forall₂_map_left_iff.mpr (List.forall₂_map_right_iff.mpr
      (List.forall₂_same.mpr fun row _ => read_contract_record row)))
    (by
      rw [List.map_map]
      exact listed_distinct)
  have hkeys : contracts.keys = registry.operations.keys := by
    unfold Dict.keys
    rw [hcontracts, hentries, List.map_map, List.map_map]
    rfl
  refine ⟨⟨contracts, []⟩, ?_, hcontracts⟩
  unfold load_app_contracts
  simp only [bind_eq_ok, require_ok]
  refine ⟨(), rfl, _, rfl, _, rfl, (), rfl, contracts, hload, (), decide_eq_true ?_, rfl⟩
  rw [hkeys, List.all_eq_true]
  exact ⟨fun code hcode => decide_eq_true hcode, fun code hcode => decide_eq_true hcode⟩

end

/-- The digest of the indirect contract is that of its text. -/
def indirect_contract : AppContract where
  record := indirect_record
  status := .static_null_payload
  contract_sha256 := sha256.hexdigest (encode (dumps (fun _ => "") (.obj indirect_record)))

theorem listed_indirect_loads :
    load_indirect_app_contracts (fun _ => "") listed_artifacts.indirect_app_contracts =
      .ok (Dict.empty.set 0x425A indirect_contract) := by
  have hread : read_indirect_app_contract (fun _ => "") .empty indirect_record =
      some (0x425A, indirect_contract) := by
    have hstatus : models.get_str indirect_record "static_contract_status" =
        "static_null_payload" := models.get_str_of rfl
    have hcode : code_of indirect_record = some 0x425A := code_of_int 0x425A _
    have hvalid : TmpAppContractStatus.static_null_payload ≠ .no_app_call_site ∧
        0x425A ∉ (Dict.empty : Dict Nat AppContract).keys := ⟨nofun, List.not_mem_nil⟩
    unfold read_indirect_app_contract
    rw [hstatus, hcode]
    exact if_pos (e := none) hvalid
  have hadd : add_record "Failed to load indirect TMP app contracts: invalid contract"
      (read_indirect_app_contract fun _ => "") .empty (.obj indirect_record) =
        .ok (Dict.empty.set 0x425A indirect_contract) := by
    unfold add_record
    dsimp only
    rw [hread]
  unfold load_indirect_app_contracts
  simp only [bind_eq_ok, require_ok]
  refine ⟨(), rfl, _, rfl, ?_⟩
  change (add_record _ _ _ _ >>= pure) = _
  rw [hadd]
  rfl

theorem mapM_of_all {ε α β : Type} {read : α → Except ε β} {items : List α}
    (h : ∀ item ∈ items, ∃ result, read item = .ok result) :
    ∃ results, items.mapM read = .ok results := by
  induction items with
  | nil => exact ⟨[], rfl⟩
  | cons item items ih =>
    obtain ⟨first, hfirst⟩ := h item List.mem_cons_self
    obtain ⟨rest, hrest⟩ := ih fun other hother => h other (List.mem_cons_of_mem _ hother)
    refine ⟨first :: rest, ?_⟩
    rw [mapM_eq_ok] at hrest ⊢
    exact .cons hfirst hrest

/-- What an entry has from the artifacts. -/
theorem fields_of_entry {evidence : Evidence} {row : Nat × Operation} {opcode : CataloguedOpcode}
    (h : catalogue_entry evidence row = .ok opcode) :
    opcode.code = row.1 ∧
    (opcode.p9_observation = if row.1 ∈ [0x0001, 0x4001] then .accepted
      else observed (evidence.reads.get? row.1) .untested fun found => found.status) ∧
    (opcode.p9_mutation_observation =
      observed (evidence.mutations.get? row.1) .untested fun found => found.status) ∧
    opcode.app_set_dispatch_review = (SET_DISPATCHED_GET_REVIEWS.lookup row.1).getD "" ∧
    ∃ contract, opcode.app_contract_provenance =
      app_contract_provenance evidence row.1 contract := by
  obtain ⟨code, operation⟩ := row
  unfold catalogue_entry at h
  dsimp only at h
  split at h
  case h_1 => cases h
  case h_2 contract _ =>
    obtain rfl := Except.ok.inj h
    exact ⟨rfl, rfl, rfl, rfl, contract, rfl⟩

/-- What the artifacts are loaded as. -/
structure ListedEvidence (evidence : Evidence) : Prop where
  rows : evidence.registry.operations.entries = listed_rows.map listed_operation
  contracts : ∀ row ∈ listed_rows, ∃ contract, evidence.contracts.get? row.1 = some contract
  read : evidence.reads.get? 0x401A = some ⟨read_record, .returned_data⟩
  mutation : evidence.mutations.get? 0x4209 = some ⟨mutation_record,
    .same_value_immediate_verification_passed, .safety_not_established⟩
  indirect : 0x425A ∈ evidence.indirect_contracts.keys

theorem listed_evidence_loads : ∃ evidence,
    load_evidence (fun _ => "") listed_artifacts = .ok evidence ∧ ListedEvidence evidence := by
  obtain ⟨registry, hregistry, hentries⟩ := listed_registry_loads
  obtain ⟨reads, hreads, hread⟩ := listed_reads_load hentries
  obtain ⟨mutations, hmutations, hmutation⟩ := listed_mutations_load hentries
  obtain ⟨found, hfound, hcontracts⟩ := listed_contracts_load hentries
  have hbase (row) (hrow : row ∈ listed_rows) :
      found.contracts.get? row.1 = some (listed_contract row).2 := by
    rw [Dict.get?_eq_some, hcontracts]
    exact List.mem_map_of_mem (f := listed_contract) hrow
  have hmerge : merge_indirect_app_contracts found.contracts
      (Dict.empty.set 0x425A indirect_contract) =
        .ok (found.contracts.set 0x425A indirect_contract) := by
    have hrow : (0x425A, "TMP_APPV2_OP_BAND_SEARCH_START") ∈ listed_rows := by decide +kernel
    have hone : merge_contract found.contracts (0x425A, indirect_contract) =
        .ok (found.contracts.set 0x425A indirect_contract) := by
      unfold merge_contract
      rw [hbase _ hrow]
      rfl
    change (merge_contract found.contracts (0x425A, indirect_contract) >>= pure) = _
    rw [hone]
    rfl
  refine ⟨{
    registry, reads, mutations
    contracts := found.contracts.set 0x425A indirect_contract
    analysis_sources := found.analysis_sources
    indirect_contracts := Dict.empty.set 0x425A indirect_contract }, ?loaded, hentries,
    ?contracts, ?read, ?mutation, (Dict.mem_keys _ _).mpr ⟨_, Dict.get?_set_self _ _ _⟩⟩
  case loaded =>
    unfold load_evidence
    simp only [bind_eq_ok]
    exact ⟨registry, hregistry, reads, hreads, mutations, hmutations, found, hfound, _,
      listed_indirect_loads, _, hmerge, rfl⟩
  case contracts =>
    intro row hrow
    dsimp only
    rw [Dict.get?_set]
    split
    · exact ⟨_, rfl⟩
    · exact ⟨_, hbase row hrow⟩
  case read =>
    rw [Dict.get?_eq_some, hread]
    exact List.mem_singleton_self _
  case mutation =>
    rw [Dict.get?_eq_some, hmutation]
    exact List.mem_singleton_self _

/-- Every row has an entry. -/
theorem listed_entries {evidence : Evidence} (h : ListedEvidence evidence) : ∃ catalog,
    evidence.registry.rows.mapM (catalogue_entry evidence) = .ok catalog ∧
      ∀ row ∈ listed_rows, ∃ opcode ∈ catalog,
        catalogue_entry evidence (listed_operation row) = .ok opcode := by
  obtain ⟨catalog, hcatalog⟩ : ∃ catalog,
      evidence.registry.rows.mapM (catalogue_entry evidence) = .ok catalog := by
    apply mapM_of_all
    intro entry hentry
    have hmem := mem_by_key.mp hentry
    rw [h.rows] at hmem
    obtain ⟨row, hrow, rfl⟩ := List.mem_map.mp hmem
    obtain ⟨contract, hget⟩ := h.contracts row hrow
    unfold catalogue_entry
    dsimp only [listed_operation]
    rw [hget]
    exact ⟨_, rfl⟩
  refine ⟨catalog, hcatalog, fun row hrow => ?_⟩
  refine result_of_mapM hcatalog (mem_by_key.mpr ?_)
  rw [h.rows]
  exact List.mem_map_of_mem (f := listed_operation) hrow

/-- A catalogue with a read that was asked, a mutation that was tried, an indirect contract and a
review. -/
theorem the_listed_catalog_loads : ∃ catalog,
    load_catalog (fun _ => "") listed_artifacts = .ok catalog ∧ SoundCatalog catalog ∧
    (∃ opcode ∈ catalog, opcode.code = 0x401A ∧ opcode.p9_observation = .returned_data) ∧
    (∃ opcode ∈ catalog, opcode.code = 0x4209 ∧
      opcode.p9_mutation_observation = .same_value_immediate_verification_passed) ∧
    (∃ opcode ∈ catalog, opcode.code = 0x425A ∧
      opcode.app_contract_provenance = .indirect_virtual_dispatch) ∧
    ∃ opcode ∈ catalog, opcode.code = 0x4097 ∧ opcode.app_set_dispatch_review ≠ "" := by
  obtain ⟨evidence, hevidence, h⟩ := listed_evidence_loads
  obtain ⟨catalog, hcatalog, hlisted⟩ := listed_entries h
  have hload : load_catalog (fun _ => "") listed_artifacts = .ok catalog :=
    bind_eq_ok.mpr ⟨evidence, hevidence, hcatalog⟩
  refine ⟨catalog, hload, load_catalog_sound hload, ?_, ?_, ?_, ?_⟩
  · obtain ⟨opcode, hopcode, hentry⟩ := hlisted (0x401A, "TMP_APPV2_OP_AUTO_LED_GET")
      (by decide +kernel)
    obtain ⟨hcode, hobservation, -⟩ := fields_of_entry hentry
    refine ⟨opcode, hopcode, hcode, hobservation.trans ?_⟩
    change (if _ then _ else observed (evidence.reads.get? 0x401A) _ _) = _
    rw [h.read]
    rfl
  · obtain ⟨opcode, hopcode, hentry⟩ := hlisted (0x4209, "TMP_APPV2_OP_11R_SET")
      (by decide +kernel)
    obtain ⟨hcode, -, hobservation, -⟩ := fields_of_entry hentry
    refine ⟨opcode, hopcode, hcode, hobservation.trans ?_⟩
    change observed (evidence.mutations.get? 0x4209) _ _ = _
    rw [h.mutation]
    rfl
  · obtain ⟨opcode, hopcode, hentry⟩ := hlisted (0x425A, "TMP_APPV2_OP_BAND_SEARCH_START")
      (by decide +kernel)
    obtain ⟨hcode, -, -, -, contract, hprovenance⟩ := fields_of_entry hentry
    exact ⟨opcode, hopcode, hcode, hprovenance.trans (if_pos h.indirect)⟩
  · obtain ⟨opcode, hopcode, hentry⟩ := hlisted (0x4097, "TMP_APPV2_OP_SYNC_CONFIG_GET")
      (by decide +kernel)
    obtain ⟨hcode, -, -, hreview, -⟩ := fields_of_entry hentry
    refine ⟨opcode, hopcode, hcode, ?_⟩
    rw [hreview]
    decide +kernel

end tplink_deco_api.tmp_opcode_catalog
