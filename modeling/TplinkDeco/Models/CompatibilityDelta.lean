-- What has changed between two manifests, and which differences of their evidence the comparison
-- does not see.
import TplinkDeco.Models.CompatibilityManifest
import TplinkDeco.Lib.Dict
import TplinkDeco.Lib.Ordered

open dict

namespace tplink_deco_api.models

open exceptions surface

/-- What has changed between two manifests. -/
structure CompatibilityDelta where
  previous_firmware : String
  current_firmware : String
  added_operations : List String
  removed_operations : List String
  newly_supported : List String
  no_longer_supported : List String
  status_changed : List String
  schema_changed : List String
  fuzzy_added : List String := []
  fuzzy_removed : List String := []
  fuzzy_changed : List String := []

/-- The change tuples of the delta, without the firmware. -/
def CompatibilityDelta.changes (delta : CompatibilityDelta) : List (List String) := [
  delta.added_operations, delta.removed_operations, delta.newly_supported,
  delta.no_longer_supported, delta.status_changed, delta.schema_changed, delta.fuzzy_added,
  delta.fuzzy_removed, delta.fuzzy_changed]

/-- The firmware is another one, or something is reported. -/
def CompatibilityDelta.has_changes (delta : CompatibilityDelta) : Bool :=
  delta.previous_firmware ≠ delta.current_firmware || delta.changes.any (· ≠ [])

/-- The variant of an operation, with the schema of its parameters. -/
def identity (name variant : String) (parameter_schema : List String) : String :=
  let schema := ",".intercalate parameter_schema
  s!"{name}::{variant}[{schema}]"

/-- The variant that was observed. -/
def FuzzyReadObservation.identity (observation : FuzzyReadObservation) : String :=
  models.identity observation.name observation.variant observation.parameter_schema

/-! ## `compare` -/

def sorted (names : List String) : List String := names.insertionSort (· ≤ ·)

/-- The operation is supported now, and was not before. -/
def gains_support (current previous : EndpointObservation) : Bool :=
  current.status.val = .supported && previous.status.val ≠ .supported

/-- The status is another one. -/
def status_differs (current previous : EndpointObservation) : Bool :=
  current.status ≠ previous.status

/-- A schema that one of the two has alone is no change of a schema. -/
def schema_differs (current previous : EndpointObservation) : Bool :=
  current.schema_sha256 ≠ "" && previous.schema_sha256 ≠ "" &&
    current.schema_sha256 ≠ previous.schema_sha256

/-- What was observed of a variant is not what it was. -/
def fuzzy_differs (current previous : FuzzyReadObservation) : Bool :=
  current.attempt_statuses ≠ previous.attempt_statuses ||
  current.attempt_error_codes ≠ previous.attempt_error_codes ||
  current.attempt_http_statuses ≠ previous.attempt_http_statuses ||
  current.attempt_session_recovered ≠ previous.attempt_session_recovered ||
  current.confirmed_data ≠ previous.confirmed_data ||
  current.schema_sha256 ≠ previous.schema_sha256

/-- `CompatibilityManifest.compare`. -/
def CompatibilityManifest.compare (current previous : CompatibilityManifest) :
    CompatibilityDelta :=
  let current_by_name := Dict.index_by EndpointObservation.name current.observations
  let previous_by_name := Dict.index_by EndpointObservation.name previous.observations
  let current_fuzzy := Dict.index_by FuzzyReadObservation.identity current.fuzzy_observations
  let previous_fuzzy := Dict.index_by FuzzyReadObservation.identity previous.fuzzy_observations
  { previous_firmware := previous.firmware_version
    current_firmware := current.firmware_version
    added_operations := sorted (current_by_name.keys_without previous_by_name)
    removed_operations := sorted (previous_by_name.keys_without current_by_name)
    newly_supported := sorted (Dict.keys_where gains_support current_by_name previous_by_name)
    no_longer_supported := sorted (Dict.keys_where (fun item earlier => gains_support earlier item)
      current_by_name previous_by_name)
    status_changed := sorted (Dict.keys_where status_differs current_by_name previous_by_name)
    schema_changed := sorted (Dict.keys_where schema_differs current_by_name previous_by_name)
    fuzzy_added := sorted (current_fuzzy.keys_without previous_fuzzy)
    fuzzy_removed := sorted (previous_fuzzy.keys_without current_fuzzy)
    fuzzy_changed := sorted (Dict.keys_where fuzzy_differs current_fuzzy previous_fuzzy) }

/-! ## The evidence of a manifest -/

/-- The name of an operation, its status and its schema. -/
def EndpointObservation.evidence (observation : EndpointObservation) :
    String × ProbeStatus × String :=
  (observation.name, observation.status, observation.schema_sha256)

/-- The evidence of the repeated probes of one variant, and the verdicts on it. -/
structure FuzzyEvidence where
  identity : String
  attempt_statuses : List ProbeStatus
  attempt_error_codes : List (Option Int)
  attempt_http_statuses : List (Option Int)
  attempt_session_recovered : List Bool
  schema_sha256 : String
  consistent : Bool
  confirmed_supported : Bool
  confirmed_data : Bool

/-- The evidence of an observation. -/
def FuzzyReadObservation.evidence (observation : FuzzyReadObservation) : FuzzyEvidence where
  identity := observation.identity
  attempt_statuses := observation.attempt_statuses
  attempt_error_codes := observation.attempt_error_codes
  attempt_http_statuses := observation.attempt_http_statuses
  attempt_session_recovered := observation.attempt_session_recovered
  schema_sha256 := observation.schema_sha256
  consistent := observation.consistent
  confirmed_supported := observation.confirmed_supported
  confirmed_data := observation.confirmed_data

theorem consistent_of_evidence {observation observation' : FuzzyReadObservation}
    (h : observation.evidence = observation'.evidence) :
    observation.consistent = observation'.consistent := congrArg FuzzyEvidence.consistent h

/-- Two manifests with the same operations and variants, and the same evidence of each. -/
structure SameEvidence (current previous : CompatibilityManifest) : Prop where
  operations : ∀ evidence,
    evidence ∈ current.observations.map EndpointObservation.evidence ↔
      evidence ∈ previous.observations.map EndpointObservation.evidence
  variants : ∀ evidence,
    evidence ∈ current.fuzzy_observations.map FuzzyReadObservation.evidence ↔
      evidence ∈ previous.fuzzy_observations.map FuzzyReadObservation.evidence

variable (builtins : Builtins)

/-- What a manifest was built from: a report with one probe of each operation, and the runs of
different variants. -/
structure Origin (manifest : CompatibilityManifest) where
  report : CapabilityReport
  catalog_version : Int
  model : String
  hardware_versions : List String
  firmware_version : String
  system_mode : String
  runs : List FuzzyRun
  fuzzy_observations : List FuzzyReadObservation
  observed : runs.mapM (FuzzyRun.observe builtins) = .ok fuzzy_observations
  built : manifest = .from_report report catalog_version model hardware_versions firmware_version
    system_mode fuzzy_observations
  distinct_names : (report.probes.map fun probe => probe.endpoint.name).Nodup
  distinct_identities : (fuzzy_observations.map FuzzyReadObservation.identity).Nodup

variable {builtins} in
theorem Origin.names_nodup {manifest : CompatibilityManifest} (origin : Origin builtins manifest) :
    (manifest.observations.map EndpointObservation.name).Nodup := by
  have hnames := origin.distinct_names
  rw [origin.built]
  show ((origin.report.probes.map _).map _).Nodup
  rw [List.map_map]
  exact hnames

variable {builtins} in
theorem Origin.identities_nodup {manifest : CompatibilityManifest}
    (origin : Origin builtins manifest) :
    (manifest.fuzzy_observations.map FuzzyReadObservation.identity).Nodup := by
  have hidentities := origin.distinct_identities
  rw [origin.built]
  exact hidentities

/-! ## What the comparison sees -/

theorem sorted_eq_nil {names : List String} : sorted names = [] ↔ names = [] := by
  unfold sorted
  rw [← List.length_eq_zero_iff, List.length_insertionSort, List.length_eq_zero_iff]

section

variable {current previous : CompatibilityManifest}

/-- No change is reported. -/
def Unchanged (current previous : CompatibilityManifest) : Prop :=
  ∀ change ∈ (current.compare previous).changes, change = []

theorem has_changes_eq_false : (current.compare previous).has_changes = false ↔
    previous.firmware_version = current.firmware_version ∧ Unchanged current previous := by
  unfold CompatibilityDelta.has_changes
  rw [Bool.or_eq_false_iff, List.any_eq_false]
  simp only [decide_eq_false_iff_not, decide_eq_true_eq, ne_eq, not_not]
  rfl

/-- Nothing is reported exactly if the operations and the variants are the same, and no pair of
observations differs in what is compared. -/
theorem unchanged_iff (hnames : (current.observations.map EndpointObservation.name).Nodup)
    (hnames' : (previous.observations.map EndpointObservation.name).Nodup)
    (hidentities : (current.fuzzy_observations.map FuzzyReadObservation.identity).Nodup)
    (hidentities' : (previous.fuzzy_observations.map FuzzyReadObservation.identity).Nodup) :
    Unchanged current previous ↔
      ((∀ name, name ∈ current.observations.map EndpointObservation.name ↔
        name ∈ previous.observations.map EndpointObservation.name) ∧
      ∀ item ∈ current.observations, ∀ earlier ∈ previous.observations, item.name = earlier.name →
        item.status = earlier.status ∧ schema_differs item earlier = false) ∧
      (∀ identity, identity ∈ current.fuzzy_observations.map FuzzyReadObservation.identity ↔
        identity ∈ previous.fuzzy_observations.map FuzzyReadObservation.identity) ∧
      ∀ item ∈ current.fuzzy_observations, ∀ earlier ∈ previous.fuzzy_observations,
        item.identity = earlier.identity → fuzzy_differs item earlier = false := by
  simp only [Unchanged, CompatibilityDelta.changes, List.forall_mem_cons,
    CompatibilityManifest.compare, sorted_eq_nil, Dict.keys_without_eq_nil,
    Dict.keys_where_eq_nil, Dict.mem_keys_index_by hnames, Dict.mem_keys_index_by hnames',
    Dict.mem_keys_index_by hidentities, Dict.mem_keys_index_by hidentities',
    Dict.get?_index_by hnames, Dict.get?_index_by hnames', Dict.get?_index_by hidentities,
    Dict.get?_index_by hidentities']
  constructor
  · rintro ⟨hadded, hremoved, -, -, hstatus, hschema, hnew, hgone, hchanged, -⟩
    refine ⟨⟨fun name => ⟨hadded name, hremoved name⟩, ?_⟩,
      fun identity => ⟨hnew identity, hgone identity⟩, ?_⟩
    · intro item hitem earlier hearlier hname
      have hsame := hstatus _ item earlier ⟨hitem, rfl⟩ ⟨hearlier, hname.symm⟩
      exact ⟨by simpa [status_differs] using hsame,
        hschema _ item earlier ⟨hitem, rfl⟩ ⟨hearlier, hname.symm⟩⟩
    · intro item hitem earlier hearlier hidentity
      exact hchanged _ item earlier ⟨hitem, rfl⟩ ⟨hearlier, hidentity.symm⟩
  · rintro ⟨⟨hnames, hpairs⟩, hidentities, hvariants⟩
    have hstatus : ∀ name item earlier, item ∈ current.observations ∧ item.name = name →
        earlier ∈ previous.observations ∧ earlier.name = name → item.status = earlier.status :=
      fun name item earlier hitem hearlier =>
        (hpairs item hitem.1 earlier hearlier.1 (hitem.2.trans hearlier.2.symm)).1
    refine ⟨fun name => (hnames name).mp, fun name => (hnames name).mpr, ?_, ?_, ?_, ?_,
      fun identity => (hidentities identity).mp, fun identity => (hidentities identity).mpr, ?_,
      nofun⟩
    · intro name item earlier hitem hearlier
      simp [gains_support, hstatus name item earlier hitem hearlier]
    · intro name item earlier hitem hearlier
      simp [gains_support, hstatus name item earlier hitem hearlier]
    · intro name item earlier hitem hearlier
      simp [status_differs, hstatus name item earlier hitem hearlier]
    · intro name item earlier hitem hearlier
      exact (hpairs item hitem.1 earlier hearlier.1 (hitem.2.trans hearlier.2.symm)).2
    · intro identity item earlier hitem hearlier
      exact hvariants item hitem.1 earlier hearlier.1 (hitem.2.trans hearlier.2.symm)

end

/-! ## What the observations record -/

/-- The hash of the schema that a probe shows. -/
def schema_of (probe : EndpointProbeResult) : String :=
  (EndpointObservation.from_probe probe).schema_sha256

/-- A probe has a schema exactly if it has a response. -/
theorem schema_of_eq_empty {probe : EndpointProbeResult} :
    schema_of probe = "" ↔ probe.response = none := by
  cases hresponse : probe.response with
  | none =>
    unfold schema_of EndpointObservation.from_probe observation_of
    simp [hresponse]
  | some response =>
    have hpaths : (tmp_batches.paths "$" response.result).eraseDups.insertionSort (· ≤ ·) ≠ [] := by
      intro hnil
      have hdups := List.perm_insertionSort (· ≤ ·)
        (tmp_batches.paths "$" response.result).eraseDups
      rw [hnil, List.nil_perm, List.eq_nil_iff_forall_not_mem] at hdups
      simp only [List.mem_eraseDups] at hdups
      rw [← List.eq_nil_iff_forall_not_mem] at hdups
      cases hresult : response.result <;> simp [tmp_batches.paths, hresult] at hdups
    unfold schema_of EndpointObservation.from_probe observation_of
    simp [hresponse, hpaths, sha256.hexdigest_ne_empty]

namespace FuzzyRun

/-- The variant that was tried. -/
def identity (run : FuzzyRun) : String :=
  models.identity run.candidate.endpoint.name run.candidate.variant run.candidate.parameter_schema

/-- What of the attempts each observation keeps. -/
def outcomes (run : FuzzyRun) : List (Availability × Option Int × Option Int) :=
  run.attempts.map fun attempt => (attempt.status, attempt.error_code, attempt.http_status)

/-- All attempts ended alike. -/
def OneOutcome (run : FuzzyRun) : Prop := ∀ a ∈ run.outcomes, ∀ b ∈ run.outcomes, a = b

/-- All attempts have one schema. -/
def OneSchema (run : FuzzyRun) : Prop :=
  ∀ a ∈ run.attempts, ∀ b ∈ run.attempts, schema_of a = schema_of b

end FuzzyRun

/-- What an observation says of its run, besides the evidence of each attempt. -/
structure Summarizes (run : FuzzyRun) (observation : FuzzyReadObservation) : Prop
    extends Records run observation where
  identity_eq : observation.identity = run.identity
  consistent_iff : observation.consistent = true ↔ run.OneOutcome ∧ run.OneSchema
  supported_eq : observation.confirmed_supported =
    observation.attempt_statuses.all fun status => status.val = .supported
  /-- The schema is that of the latest attempt with a response. -/
  schema_eq : ∀ latest, run.attempts.reverse.find? (fun attempt => attempt.response.isSome) =
    some latest → observation.schema_sha256 = schema_of latest

theorem observe_summarizes {run : FuzzyRun} {observation : FuzzyReadObservation}
    (h : run.observe builtins = .ok observation) : Summarizes run observation := by
  have hrecords := observe_records builtins h
  unfold FuzzyRun.observe FuzzyReadObservation.from_attempts at h
  cases hlast : run.attempts.getLast? with
  | none =>
    rw [hlast] at h
    cases h
  | some last =>
    rw [hlast] at h
    simp only at h
    split at h
    · cases h
    · rw [← Except.ok.inj h] at hrecords ⊢
      refine ⟨hrecords, rfl, ?_, rfl, fun latest hlatest => by rw [hlatest]; rfl⟩
      have hsome : run.attempts ≠ [] := by
        rintro hnone
        rw [hnone] at hlast
        cases hlast
      rw [decide_eq_true_iff, ordered.length_eraseDups_eq_one]
      simp only [ne_eq, List.map_eq_nil_iff, hsome, not_false_eq_true, true_and,
        List.forall_mem_map, FuzzyRun.OneOutcome, FuzzyRun.outcomes, FuzzyRun.OneSchema,
          Prod.mk.injEq]
      constructor
      · intro hsame
        constructor
        · intro a ha b hb
          obtain ⟨hstatus, hcode, hhttp, -⟩ := hsame a ha b hb
          exact ⟨hstatus, hcode, hhttp⟩
        · exact fun a ha b hb => (hsame a ha b hb).2.2.2
      · rintro ⟨houtcome, hschema⟩ a ha b hb
        obtain ⟨hstatus, hcode, hhttp⟩ := houtcome a ha b hb
        exact ⟨hstatus, hcode, hhttp, hschema a ha b hb⟩

/-! ## What the comparison leaves out -/

theorem outcomes_eq {run : FuzzyRun} {observation : FuzzyReadObservation}
    (h : Records run observation) :
    run.outcomes = (observation.attempt_statuses.map Subtype.val).zip
      (observation.attempt_error_codes.zip observation.attempt_http_statuses) := by
  rw [h.statuses, h.error_codes, h.http_statuses, List.zip_map', List.zip_map']
  rfl

/-- Of two probes with the same name and status, the evidence is the same exactly if both have a
response or none has. -/
theorem probe_evidence_iff {probe probe' : EndpointProbeResult}
    (hname : probe.endpoint.name = probe'.endpoint.name) (hstatus : probe.status = probe'.status)
    (hschema : schema_differs (.from_probe probe) (.from_probe probe') = false) :
    (EndpointObservation.from_probe probe).evidence =
        (EndpointObservation.from_probe probe').evidence ↔
      (probe.response.isSome ↔ probe'.response.isSome) := by
  have hevidence : (EndpointObservation.from_probe probe).evidence =
      (EndpointObservation.from_probe probe').evidence ↔ schema_of probe = schema_of probe' := by
    simp only [EndpointObservation.evidence, Prod.mk.injEq]
    exact ⟨fun h => h.2.2, fun h => ⟨hname, Subtype.ext hstatus, h⟩⟩
  have hsome : ∀ probe : EndpointProbeResult, probe.response.isSome ↔ schema_of probe ≠ "" := by
    intro probe
    rw [Ne, schema_of_eq_empty, Option.isSome_iff_ne_none]
  rw [hevidence, hsome, hsome]
  constructor
  · intro h
    rw [h]
  · intro h
    by_cases hempty : schema_of probe = ""
    · rw [hempty, not_not.mp (fun hne => h.mpr (Ne.symm hne) hempty)]
    · have hempty' := h.mp hempty
      unfold schema_of at hempty hempty' ⊢
      simpa [schema_differs, hempty, hempty'] using hschema

/-- Where the comparison sees no difference between two variants, the evidence is the same exactly
if the attempts agree on one schema in both or in none. -/
theorem fuzzy_evidence_iff {run run' : FuzzyRun} {observation observation' : FuzzyReadObservation}
    (h : Summarizes run observation) (h' : Summarizes run' observation')
    (hidentity : observation.identity = observation'.identity)
    (hsame : fuzzy_differs observation observation' = false) :
    observation.evidence = observation'.evidence ↔
      (run.OneOutcome → (run.OneSchema ↔ run'.OneSchema)) := by
  simp only [fuzzy_differs, Bool.or_eq_false_iff, decide_eq_false_iff_not, ne_eq, not_not] at hsame
  obtain ⟨⟨⟨⟨⟨hstatuses, hcodes⟩, hhttp⟩, hrecovered⟩, hdata⟩, hschema⟩ := hsame
  have houtcomes : run.OneOutcome ↔ run'.OneOutcome := by
    unfold FuzzyRun.OneOutcome
    rw [outcomes_eq h.toRecords, outcomes_eq h'.toRecords, hstatuses, hcodes, hhttp]
  have hsupported : observation.confirmed_supported = observation'.confirmed_supported := by
    rw [h.supported_eq, h'.supported_eq, hstatuses]
  have hevidence : observation.evidence = observation'.evidence ↔
      observation.consistent = observation'.consistent := by
    simp only [FuzzyReadObservation.evidence, FuzzyEvidence.mk.injEq]
    exact ⟨fun h => h.2.2.2.2.2.2.1, fun hverdict => ⟨hidentity, hstatuses, hcodes, hhttp,
      hrecovered, hschema, hverdict, hsupported, hdata⟩⟩
  rw [hevidence, Bool.eq_iff_iff, h.consistent_iff, h'.consistent_iff, ← houtcomes]
  exact and_congr_right_iff

/-- Where the comparison reports nothing, the evidence of the two manifests is the same exactly if
two probes of one operation both have a response or none has, and the attempts of two runs of one
variant, where their outcomes are all the same, agree on one schema in both runs or in none. -/
theorem comparison_sees_exactly {current previous : CompatibilityManifest}
    (origin : Origin builtins current) (earlier : Origin builtins previous)
    (hunchanged : Unchanged current previous) :
    SameEvidence current previous ↔
      (∀ probe ∈ origin.report.probes, ∀ probe' ∈ earlier.report.probes,
        probe.endpoint.name = probe'.endpoint.name →
          (probe.response.isSome ↔ probe'.response.isSome)) ∧
      ∀ run ∈ origin.runs, ∀ run' ∈ earlier.runs, run.identity = run'.identity →
        run.OneOutcome → (run.OneSchema ↔ run'.OneSchema) := by
  have hnames := earlier.names_nodup
  have hidentities := earlier.identities_nodup
  obtain ⟨⟨hsame_names, hoperations⟩, hsame_identities, hvariants⟩ :=
    (unchanged_iff origin.names_nodup hnames origin.identities_nodup hidentities).mp hunchanged
  obtain ⟨report, catalog_version, model, hardware_versions, firmware_version, system_mode, runs,
    items, hitems, rfl, -, -⟩ := origin
  obtain ⟨report', catalog_version', model', hardware_versions', firmware_version', system_mode',
    runs', items', hitems', rfl, -, -⟩ := earlier
  dsimp only [CompatibilityManifest.from_report] at *
  have hsplit : ∀ current previous, SameEvidence current previous ↔ _ ∧ _ := fun _ _ =>
    ⟨fun h => ⟨h.operations, h.variants⟩, fun h => ⟨h.1, h.2⟩⟩
  rw [hsplit, ordered.same_views_iff hnames fun a b h => congrArg Prod.fst h,
    ordered.same_views_iff hidentities fun a b h => congrArg FuzzyEvidence.identity h,
    and_iff_right hsame_names, and_iff_right hsame_identities]
  refine and_congr ?_ ⟨?_, ?_⟩
  · simp only [List.forall_mem_map]
    refine forall₂_congr fun probe hprobe => forall₂_congr fun probe' hprobe' =>
      forall_congr' fun hname => ?_
    obtain ⟨hstatus, hschema⟩ :=
      hoperations _ (List.mem_map_of_mem hprobe) _ (List.mem_map_of_mem hprobe') hname
    exact probe_evidence_iff hname (congrArg Subtype.val hstatus) hschema
  · intro h run hrun run' hrun' hidentity
    obtain ⟨item, hitem, hread⟩ := result_of_mapM hitems hrun
    obtain ⟨item', hitem', hread'⟩ := result_of_mapM hitems' hrun'
    have hsummary := observe_summarizes builtins hread
    have hsummary' := observe_summarizes builtins hread'
    have hsame : item.identity = item'.identity := by
      rw [hsummary.identity_eq, hsummary'.identity_eq, hidentity]
    exact (fuzzy_evidence_iff hsummary hsummary' hsame (hvariants item hitem item' hitem' hsame)).mp
      (h item hitem item' hitem' hsame)
  · intro h item hitem item' hitem' hsame
    obtain ⟨run, hrun, hread⟩ := item_of_mapM hitems hitem
    obtain ⟨run', hrun', hread'⟩ := item_of_mapM hitems' hitem'
    have hsummary := observe_summarizes builtins hread
    have hsummary' := observe_summarizes builtins hread'
    have hidentity : run.identity = run'.identity := by
      rw [← hsummary.identity_eq, ← hsummary'.identity_eq, hsame]
    exact (fuzzy_evidence_iff hsummary hsummary' hsame
      (hvariants item hitem item' hitem' hsame)).mpr (h run hrun run' hrun' hidentity)

/-- A supported read with this result. -/
def answer (result : json.Json) : EndpointProbeResult where
  endpoint := mesh_endpoint
  status := .supported
  response := some { error_code := 0, result }
  elapsed_seconds := some (1 / 4)
  tested := supported_tested

/-- Two attempts of one variant. -/
def two_attempts (first second : json.Json) : FuzzyRun where
  candidate := mesh_run.candidate
  attempts := [answer first, answer second]
  session_recovered := []

/-- The observation of two answers. -/
def answers_observation (first second : json.Json) : FuzzyReadObservation :=
  match (two_attempts first second).observe plain_builtins with
  | .ok observation => observation
  | .error _ => mesh_observation

/-- The manifest of these probes, and of two answers to the variant. -/
def answers_manifest (first second : json.Json) (probes : List EndpointProbeResult := []) :
    CompatibilityManifest :=
  .from_report { observed_at := "2024-01-01T00:00:00+00:00", probes } 1 "X50" ["1.0"]
    "1.1.0" "router" [answers_observation first second]

theorem answers_observed (first second : json.Json) :
    (two_attempts first second).observe plain_builtins =
      .ok (answers_observation first second) := rfl

/-- What the manifest was built from. -/
def answers_origin (first second : json.Json) {probes : List EndpointProbeResult}
    (hprobes : (probes.map fun probe => probe.endpoint.name).Nodup) :
    Origin plain_builtins (answers_manifest first second probes) where
  report := { observed_at := "2024-01-01T00:00:00+00:00", probes }
  catalog_version := 1
  model := "X50"
  hardware_versions := ["1.0"]
  firmware_version := "1.1.0"
  system_mode := "router"
  runs := [two_attempts first second]
  fuzzy_observations := [answers_observation first second]
  observed := mapM_eq_ok.mpr (.cons (answers_observed first second) .nil)
  built := rfl
  distinct_names := hprobes
  distinct_identities := List.nodup_singleton _

theorem answers_alike {first first' second : json.Json}
    (hdata : (answers_observation first second).confirmed_data =
      (answers_observation first' second).confirmed_data) :
    fuzzy_differs (answers_observation first second) (answers_observation first' second) =
      false := by
  have hschema : ∀ first, (answers_observation first second).schema_sha256 =
      schema_of (answer second) := fun first =>
    (observe_summarizes plain_builtins (answers_observed first second)).schema_eq _ rfl
  have hstatuses : (answers_observation first second).attempt_statuses =
      (answers_observation first' second).attempt_statuses := rfl
  have hcodes : (answers_observation first second).attempt_error_codes =
      (answers_observation first' second).attempt_error_codes := rfl
  have hhttp : (answers_observation first second).attempt_http_statuses =
      (answers_observation first' second).attempt_http_statuses := rfl
  have hrecovered : (answers_observation first second).attempt_session_recovered =
      (answers_observation first' second).attempt_session_recovered := rfl
  simp [fuzzy_differs, hschema, hstatuses, hcodes, hhttp, hrecovered, hdata]

/-- Another first answer is no change where it has data as the other had, and other probes are
none where they have the same evidence. -/
theorem answers_unchanged {first first' second : json.Json}
    {probes probes' : List EndpointProbeResult}
    (hdistinct : (probes.map fun probe => probe.endpoint.name).Nodup)
    (hnames : probes.map (fun probe => probe.endpoint.name) =
      probes'.map fun probe => probe.endpoint.name)
    (hevidence : ∀ probe ∈ probes, ∀ probe' ∈ probes',
      (EndpointObservation.from_probe probe).evidence =
        (EndpointObservation.from_probe probe').evidence)
    (hdata : (answers_observation first second).confirmed_data =
      (answers_observation first' second).confirmed_data) :
    Unchanged (answers_manifest first second probes) (answers_manifest first' second probes') := by
  have hobservations : ∀ first probes, (answers_manifest first second probes).observations =
      probes.map EndpointObservation.from_probe := fun _ _ => rfl
  have hitems : ∀ first probes, (answers_manifest first second probes).fuzzy_observations =
      [answers_observation first second] := fun _ _ => rfl
  have hidentity : ∀ first, (answers_observation first second).identity =
      (two_attempts (.bool true) (.bool true)).identity := fun first =>
    (observe_summarizes plain_builtins (answers_observed first second)).identity_eq
  have hsame : (probes.map EndpointObservation.from_probe).map EndpointObservation.name =
      (probes'.map EndpointObservation.from_probe).map EndpointObservation.name := by
    rw [List.map_map, List.map_map]
    exact hnames
  refine (unchanged_iff (answers_origin first second hdistinct).names_nodup
    (answers_origin first' second (hnames ▸ hdistinct)).names_nodup
    (answers_origin first second hdistinct).identities_nodup
    (answers_origin first' second (hnames ▸ hdistinct)).identities_nodup).mpr ⟨⟨?_, ?_⟩, ?_, ?_⟩
  · intro name
    rw [hobservations, hobservations, hsame]
  · rw [hobservations, hobservations]
    simp only [List.forall_mem_map]
    intro probe hprobe probe' hprobe' _
    have hboth := hevidence probe hprobe probe' hprobe'
    simp only [EndpointObservation.evidence, Prod.mk.injEq] at hboth
    exact ⟨hboth.2.1, by simp [schema_differs, hboth.2.2]⟩
  · simp only [hitems, List.map_cons, List.map_nil, hidentity, implies_true]
  · simp only [hitems, List.forall_mem_singleton]
    exact fun _ => answers_alike hdata

theorem distinct_singleton (probe : EndpointProbeResult) :
    ([probe].map fun probe => probe.endpoint.name).Nodup := List.nodup_singleton _

/-- Of each operation that was probed and of each variant, other answers of the same schemas. -/
theorem the_same_answers_are_the_same_evidence :
    SameEvidence (answers_manifest (.int 7) (.bool true) [answer (.bool false)])
      (answers_manifest (.int 1) (.bool true) [answer (.bool true)]) := by
  have hschema : schema_of (answer (.int 7)) = schema_of (answer (.int 1)) := rfl
  have hunchanged : Unchanged (answers_manifest (.int 7) (.bool true) [answer (.bool false)])
      (answers_manifest (.int 1) (.bool true) [answer (.bool true)]) := by
    refine answers_unchanged (distinct_singleton _) rfl ?_ rfl
    simp only [List.forall_mem_singleton]
    rfl
  refine (comparison_sees_exactly plain_builtins
    (answers_origin (.int 7) (.bool true) (distinct_singleton _))
    (answers_origin (.int 1) (.bool true) (distinct_singleton _)) hunchanged).mpr ⟨?_, ?_⟩
  · simp only [answers_origin, List.forall_mem_singleton]
    exact fun _ => Iff.rfl
  · simp only [answers_origin, List.forall_mem_singleton]
    intro _ _
    unfold FuzzyRun.OneSchema two_attempts
    simp only [List.forall_mem_cons, hschema]

theorem answers_consistent (first second : json.Json) :
    (answers_observation first second).consistent = true ↔
      schema_of (answer first) = schema_of (answer second) := by
  rw [(observe_summarizes plain_builtins (answers_observed first second)).consistent_iff]
  constructor
  · rintro ⟨-, hschema⟩
    exact hschema _ List.mem_cons_self _ (List.mem_cons_of_mem _ List.mem_cons_self)
  · intro hschema
    constructor
    · intro a ha b hb
      simp only [FuzzyRun.outcomes, two_attempts, List.map_cons, List.map_nil, List.mem_cons,
        List.not_mem_nil, or_false] at ha hb
      rcases ha with rfl | rfl <;> rcases hb with rfl | rfl <;> rfl
    · intro a ha b hb
      simp only [two_attempts, List.mem_cons, List.not_mem_nil, or_false] at ha hb
      rcases ha with rfl | rfl <;> rcases hb with rfl | rfl <;> simp [hschema]

/-- Two answers of different schemas are not consistent, and two of one schema are: no change. -/
theorem a_lost_consistency_is_no_change :
    Unchanged (answers_manifest (.int 1) (.bool true))
        (answers_manifest (.bool true) (.bool true)) ∧
      ¬ SameEvidence (answers_manifest (.int 1) (.bool true))
        (answers_manifest (.bool true) (.bool true)) := by
  have hdiffer : schema_of (answer (.int 1)) ≠ schema_of (answer (.bool true)) := by
    show sha256.hexdigest (text.encode "$:integer") ≠ sha256.hexdigest (text.encode "$:boolean")
    decide +kernel
  have hnone : ∀ probe ∈ ([] : List EndpointProbeResult),
      ∀ probe' ∈ ([] : List EndpointProbeResult),
        (EndpointObservation.from_probe probe).evidence =
          (EndpointObservation.from_probe probe').evidence :=
    fun _ hprobe => absurd hprobe List.not_mem_nil
  refine ⟨answers_unchanged List.nodup_nil rfl hnone rfl, fun h => hdiffer ?_⟩
  have hevidence : (answers_observation (.int 1) (.bool true)).evidence =
      (answers_observation (.bool true) (.bool true)).evidence :=
    List.mem_singleton.mp ((h.variants _).mp List.mem_cons_self)
  rw [← answers_consistent, consistent_of_evidence hevidence, answers_consistent]

end tplink_deco_api.models
