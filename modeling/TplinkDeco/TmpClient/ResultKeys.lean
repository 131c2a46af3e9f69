-- The keys of a result that a plan reads back from the recorded paths. A path has no escapes, so
-- each key comes back only as far as its first separator.
import TplinkDeco.Lib.Delimited
import TplinkDeco.Models.Schemas
import TplinkDeco.TmpClient.MutationPlanner

open delimited json text

namespace tplink_deco_api.tmp_mutation_planner

open exceptions tmp_batches
open models (mem_field_paths mem_item_paths)

/-! ## Separators -/

/-- What follows a key in a path. -/
def SEPARATORS : List Char := [':', '.', '[']

/-- The character ends a key in a path. -/
def separates (c : Char) : Bool := c ∈ SEPARATORS

theorem toList_before (c : Char) (s : String) :
    (before c s).toList = front (fun d => d = c) s.toList := by
  unfold before front
  rw [String.toList_ofList]
  simp

/-- The three cuts are one cut at the first separator. -/
theorem toList_key_of (remainder : String) :
    (key_of remainder).toList = front separates remainder.toList := by
  have hseparates : (fun c : Char => decide (c = ':') || (decide (c = '.') || decide (c = '['))) =
      separates := by
    funext c
    simp [separates, SEPARATORS]
  unfold key_of
  rw [toList_before, toList_before, toList_before, front_then, front_then, hseparates]

theorem key_of_append (key : String) {rest : String} (h : Separated separates rest.toList) :
    key_of (key ++ rest) = key_of key := by
  rw [← String.toList_inj, toList_key_of, toList_key_of, String.toList_append,
    front_append key.toList h]

theorem key_of_key_of (remainder : String) : key_of (key_of remainder) = key_of remainder := by
  rw [← String.toList_inj, toList_key_of, toList_key_of, front_front]

/-- No separator is in the key. -/
def Uncut (key : String) : Prop := ∀ c ∈ key.toList, c ∉ SEPARATORS

theorem key_of_eq_self {key : String} : key_of key = key ↔ Uncut key := by
  rw [← String.toList_inj, toList_key_of, front_eq_self]
  simp [Uncut, separates]

theorem key_of_empty : key_of "" = "" := key_of_eq_self.mpr nofun

/-! ## Paths -/

/-- Each path of a value continues the path of the value with a separator. -/
def Continues (path entry : String) : Prop :=
  ∃ rest, entry = path ++ rest ∧ Separated separates rest.toList

theorem Continues.of_append {path more entry : String} (hmore : Separated separates more.toList)
    (h : Continues (path ++ more) entry) : Continues path entry := by
  obtain ⟨rest, rfl, -⟩ := h
  refine ⟨more ++ rest, String.append_assoc, ?_⟩
  rw [String.toList_append]
  exact hmore.append _

theorem field_path (path key : String) : s!"{path}.{key}" = path ++ ("." ++ key) :=
  String.append_assoc

theorem separated_dot (rest : String) : Separated separates ("." ++ rest).toList := by
  rw [String.toList_append]
  exact ⟨'.', rest.toList, rfl, rfl⟩

mutual

theorem continues_paths {path entry : String} : (value : Json) → entry ∈ paths path value →
    Continues path entry
  | .null, h => ⟨":null", List.mem_singleton.mp h, ':', _, rfl, rfl⟩
  | .bool _, h => ⟨":boolean", List.mem_singleton.mp h, ':', _, rfl, rfl⟩
  | .int _, h => ⟨":integer", List.mem_singleton.mp h, ':', _, rfl, rfl⟩
  | .float _, h => ⟨":number", List.mem_singleton.mp h, ':', _, rfl, rfl⟩
  | .str _, h => ⟨":string", List.mem_singleton.mp h, ':', _, rfl, rfl⟩
  | .arr items, h => by
    rw [paths, List.mem_cons] at h
    rcases h with rfl | h
    · exact ⟨":array", rfl, ':', _, rfl, rfl⟩
    · exact (continues_item_paths items h).of_append ⟨'[', _, rfl, rfl⟩
  | .obj fields, h => by
    rw [paths, List.mem_cons] at h
    rcases h with rfl | h
    · exact ⟨":object", rfl, ':', _, rfl, rfl⟩
    · exact continues_field_paths fields h

theorem continues_item_paths {path entry : String} : (items : List Json) →
    entry ∈ item_paths path items → Continues path entry
  | [], h => by cases h
  | item :: items, h => by
    rw [item_paths, List.mem_append] at h
    exact h.elim (continues_paths item) (continues_item_paths items)

theorem continues_field_paths {path entry : String} : (fields : List (String × Json)) →
    entry ∈ field_paths path fields → Continues path entry
  | [], h => by cases h
  | (key, child) :: fields, h => by
    rw [field_paths, List.mem_append] at h
    rcases h with h | h
    · have hchild := continues_paths child h
      rw [field_path] at hchild
      exact hchild.of_append (separated_dot key)
    · exact continues_field_paths fields h

end

theorem paths_ne_nil (path : String) (value : Json) : paths path value ≠ [] := by
  cases value <;> simp [paths]

/-- The names of the fields. -/
abbrev keys (fields : JsonObject) : List String := fields.map Prod.fst

/-- The longer paths of an object go on with one of its keys. -/
theorem mem_paths_obj {path rest : String} {fields : JsonObject} :
    path ++ ("." ++ rest) ∈ paths path (.obj fields) ↔
      ∃ key child after, (key, child) ∈ fields ∧ rest = key ++ after ∧
        Separated separates after.toList ∧
        path ++ ("." ++ key) ++ after ∈ paths (path ++ ("." ++ key)) child := by
  have hobject : path ++ ("." ++ rest) ≠ s!"{path}:object" := by
    intro h
    have hrest : "." ++ rest = ":object" := (String.append_right_inj path).mp h
    have hlists := congrArg String.toList hrest
    rw [String.toList_append] at hlists
    exact absurd (List.cons.inj hlists).1 (by decide)
  rw [paths, List.mem_cons, or_iff_right hobject, mem_field_paths]
  constructor
  · rintro ⟨key, child, hmem, h⟩
    rw [field_path] at h
    obtain ⟨after, hafter, hseparated⟩ := continues_paths child h
    rw [hafter] at h
    rw [String.append_assoc, String.append_right_inj, String.append_assoc,
      String.append_right_inj] at hafter
    exact ⟨key, child, after, hmem, hafter, hseparated, h⟩
  · rintro ⟨key, child, after, hmem, rfl, -, h⟩
    have hpath : path ++ ("." ++ (key ++ after)) = path ++ ("." ++ key) ++ after := by
      rw [String.append_assoc, String.append_assoc]
    refine ⟨key, child, hmem, ?_⟩
    rw [field_path, hpath]
    exact h

/-- Each key of an object is on a path. -/
theorem exists_path (path : String) {fields : JsonObject} {key : String} (h : key ∈ keys fields) :
    ∃ after, Separated separates after.toList ∧
      path ++ ("." ++ (key ++ after)) ∈ paths path (.obj fields) := by
  obtain ⟨⟨key, child⟩, hmem, rfl⟩ := List.mem_map.mp h
  obtain ⟨entry, hentry⟩ := List.exists_mem_of_ne_nil _ (paths_ne_nil (path ++ ("." ++ key)) child)
  obtain ⟨after, rfl, hafter⟩ := continues_paths child hentry
  exact ⟨after, hafter, mem_paths_obj.mpr ⟨key, child, after, hmem, rfl, hafter, hentry⟩⟩

/-! ## What is read of a response -/

def RESULT : String := "result"

/-- What is written after `$.result.`: the keys of the result, and the rest of each key of the
response that starts in the same way. -/
def written (response result : JsonObject) : Set String :=
  {w | w ∈ keys result ∨ RESULT ++ "." ++ w ∈ keys response}

/-- A path after `$.result.` is one of the result, or of a key that starts in the same way. -/
theorem result_or_longer {key after remainder : String} (hafter : Separated separates after.toList)
    (h : key ++ after = RESULT ++ "." ++ remainder) :
    key = RESULT ∧ after = "." ++ remainder ∨
      ∃ w, key = RESULT ++ "." ++ w ∧ remainder = w ++ after := by
  have hplain : ∀ c ∈ RESULT.toList, separates c = false := front_eq_self.mp rfl
  have hlists : key.toList ++ after.toList = RESULT.toList ++ ("." ++ remainder).toList := by
    rw [← String.toList_append, ← String.toList_append, h, String.append_assoc]
  obtain ⟨more, hkey, hmore⟩ := starts_with_part hplain hafter (separated_dot remainder) hlists
  cases more with
  | nil =>
    left
    rw [List.append_nil, String.toList_inj] at hkey
    rw [List.nil_append, String.toList_inj] at hmore
    exact ⟨hkey, hmore.symm⟩
  | cons c more =>
    right
    have hdot : ".".toList = ['.'] := rfl
    rw [String.toList_append, hdot] at hmore
    obtain ⟨rfl, hremainder⟩ := List.cons.inj hmore
    refine ⟨String.ofList more, ?_, ?_⟩
    · rw [← String.toList_inj, hkey]
      simp [String.toList_append]
    · rw [← String.toList_inj, String.toList_append, String.toList_ofList]
      exact hremainder

section

variable {response result : JsonObject} (hdistinct : (keys response).Nodup)
  (hresult : get response RESULT = .obj result)

include hdistinct hresult

theorem child_of_result {child : Json} (h : (RESULT, child) ∈ response) : child = .obj result := by
  have hlookup := (dict.lookup_eq_some hdistinct _ _).mpr h
  rw [← hresult]
  exact (get_of_lookup hlookup).symm

/-- What is read after `$.result.` is what is written there, cut at the first separator. -/
theorem read_iff {key : String} :
    (∃ remainder, RESULT_PREFIX ++ remainder ∈ paths "$" (.obj response) ∧
      key_of remainder = key) ↔ key ∈ key_of '' written response result := by
  have hpath_start : ∀ remainder,
      RESULT_PREFIX ++ remainder = "$" ++ ("." ++ (RESULT ++ ("." ++ remainder))) := by
    intro remainder
    rw [← String.append_assoc, ← String.append_assoc, ← String.append_assoc]
    rfl
  constructor
  · rintro ⟨remainder, hpath, rfl⟩
    rw [hpath_start] at hpath
    obtain ⟨name, child, after, hmem, hrest, hafter, hchild⟩ := mem_paths_obj.mp hpath
    rcases result_or_longer hafter (hrest.symm.trans String.append_assoc.symm) with
      ⟨rfl, rfl⟩ | ⟨w, rfl, rfl⟩
    · obtain rfl := child_of_result hdistinct hresult hmem
      obtain ⟨w, _, after, hmem, rfl, hafter, -⟩ := mem_paths_obj.mp hchild
      exact ⟨w, Or.inl (List.mem_map_of_mem hmem), (key_of_append w hafter).symm⟩
    · exact ⟨w, Or.inr (List.mem_map_of_mem hmem), (key_of_append w hafter).symm⟩
  · rintro ⟨w, hw | hw, rfl⟩
    · obtain ⟨after, hafter, hpath⟩ := exists_path ("$" ++ ("." ++ RESULT)) hw
      refine ⟨w ++ after, ?_, key_of_append w hafter⟩
      rw [hpath_start]
      have hresponse : (RESULT, Json.obj result) ∈ response :=
        (dict.lookup_eq_some hdistinct _ _).mp (lookup_of_get nofun hresult)
      exact mem_paths_obj.mpr ⟨RESULT, .obj result, "." ++ (w ++ after), hresponse, rfl,
        separated_dot _, hpath⟩
    · obtain ⟨after, hafter, hpath⟩ := exists_path "$" hw
      rw [String.append_assoc, String.append_assoc] at hpath
      refine ⟨w ++ after, ?_, key_of_append w hafter⟩
      rw [hpath_start]
      exact hpath

end

theorem mem_schema_paths {response : JsonObject} {entry : String} :
    entry ∈ schema_paths response ↔ entry ∈ paths "$" (.obj response) := by
  unfold schema_paths
  rw [List.mem_insertionSort, List.mem_eraseDups]

/-- The recorded paths are those of `_schema_paths` of the probe. -/
theorem mem_schema_paths_iff {response : JsonObject} {entry : String} :
    entry ∈ schema_paths response ↔
      entry ∈ models.tmp_unverified_read_probe.schema_paths (.obj response) := by
  unfold models.tmp_unverified_read_probe.schema_paths
  rw [mem_schema_paths, models.schema_paths_eq, List.mem_toFinset]

/-- The opcode has returned this response. -/
structure Records (operation : EvidencedOpcode) (response : JsonObject) : Prop where
  observation : operation.p9_observation = .returned_data
  paths : operation.p9_schema_paths = schema_paths response

/-- The keys are those of the result, each once, without the empty one. -/
def Exact (found : List String) (result : JsonObject) : Prop :=
  found.Nodup ∧ ∀ key, key ∈ found ↔ key ≠ "" ∧ key ∈ keys result

/-- No key of the result has a separator, and a key of the response that starts with `result.`
goes on, up to its next separator, with nothing or with a key of the result. -/
structure Recoverable (response result : JsonObject) : Prop where
  uncut : ∀ key ∈ keys result, Uncut key
  longer : ∀ w, RESULT ++ "." ++ w ∈ keys response → key_of w = "" ∨ key_of w ∈ keys result

/-- A key of the result is told to be one: it is not empty and has no separator. Another key is
told to be none: it is empty, or not the start of what is written. -/
def Told (response result : JsonObject) (key : String) : Prop :=
  (key ∈ keys result → key ≠ "" ∧ Uncut key) ∧
    (key ∉ keys result → key = "" ∨ ∀ w ∈ written response result, key_of w ≠ key)

theorem filter_eq_filter_iff {α : Type} {items : List α} {p q : α → Bool} :
    items.filter p = items.filter q ↔ ∀ a ∈ items, p a = q a := by
  constructor
  · intro h a ha
    have hmem : a ∈ items.filter p ↔ a ∈ items.filter q := by rw [h]
    rw [List.mem_filter, List.mem_filter, and_iff_right ha, and_iff_right ha] at hmem
    exact Bool.eq_iff_iff.mpr hmem
  · exact List.filter_congr

theorem nodup_top_level_result_keys (operation : Option EvidencedOpcode) :
    (top_level_result_keys operation).Nodup := by
  cases operation with
  | none => exact List.nodup_nil
  | some operation =>
    unfold top_level_result_keys
    dsimp only
    split
    · exact List.nodup_nil
    · exact nodup_foldl_add_key List.nodup_nil

section

variable {response result : JsonObject} (hdistinct : (keys response).Nodup)
  (hresult : get response RESULT = .obj result) {operation : EvidencedOpcode}
  (hrecord : Records operation response)

include hdistinct hresult hrecord

theorem mem_top_level_result_keys {key : String} :
    key ∈ top_level_result_keys (some operation) ↔
      key ∈ key_of '' written response result \ {""} := by
  unfold top_level_result_keys
  dsimp only
  rw [if_neg (not_not.mpr hrecord.observation), mem_foldl_add_key, hrecord.paths]
  simp only [List.not_mem_nil, false_or, mem_schema_paths, read_iff hdistinct hresult]
  exact and_comm

theorem exact_iff : Exact (top_level_result_keys (some operation)) result ↔
    Recoverable response result := by
  have hsub : {key | key ∈ keys result} ⊆ written response result := fun key hkey => Or.inl hkey
  have hread := read_back_iff key_of_key_of hsub key_of_empty
  have hsets : Exact (top_level_result_keys (some operation)) result ↔
      key_of '' written response result \ {""} = {key | key ∈ keys result} \ {""} := by
    unfold Exact
    rw [and_iff_right (nodup_top_level_result_keys _), Set.ext_iff]
    simp only [mem_top_level_result_keys hdistinct hresult hrecord]
    refine forall_congr' fun key => iff_congr Iff.rfl and_comm
  rw [hsets, hread]
  constructor
  · rintro ⟨hkeys, hcut⟩
    exact ⟨fun key hkey => key_of_eq_self.mp (hkeys key hkey), fun w hw => hcut w (Or.inr hw)⟩
  · rintro ⟨huncut, hlonger⟩
    refine ⟨fun key hkey => key_of_eq_self.mpr (huncut key hkey), ?_⟩
    rintro w (hw | hw)
    · rw [key_of_eq_self.mpr (huncut w hw)]
      exact Or.inr hw
    · exact hlonger w hw

/-- The key is told to be what it is exactly if it is found where it should be. -/
theorem told_iff_found {key : String} :
    (key ∈ top_level_result_keys (some operation) ↔ key ∈ keys result) ↔
      Told response result key := by
  have hsub : {key | key ∈ keys result} ⊆ written response result := fun key hkey => Or.inl hkey
  rw [mem_top_level_result_keys hdistinct hresult hrecord]
  unfold Told
  rw [← key_of_eq_self]
  exact told_iff key_of_key_of hsub

/-- The missing keys of a plan are exactly the keys of the setter that the result does not have,
if and only if each key of the setter is told to be what it is. -/
theorem missing_iff {catalog : List EvidencedOpcode} {code : Nat} {plan : TmpMutationPlan}
    (hplan : build_tmp_mutation_plan catalog code = .ok plan) {preflight_code : Nat}
    (hcode : plan.preflight_code = some preflight_code)
    (hpreflight : get_tmp_opcode catalog preflight_code = .ok operation) :
    plan.preflight_missing_candidate_keys =
        (plan.app_candidate_parameter_keys.filter fun key => key ∉ keys result) ↔
      ∀ key ∈ plan.app_candidate_parameter_keys, Told response result key := by
  rw [(missing_of_build hplan hcode hpreflight).2, filter_eq_filter_iff]
  refine forall₂_congr fun key _ => ?_
  rw [decide_eq_decide, not_iff_not]
  exact told_iff_found hdistinct hresult hrecord

end

/-- The keys of a result are found exactly, each once, if and only if they have no separators and
no other key of the response is written as one of them. The missing keys of a plan are exactly
those that the result does not have if and only if this is told of each key of the setter. -/
theorem result_keys_found_exactly {response result : JsonObject}
    (hdistinct : (keys response).Nodup) (hresult : get response "result" = .obj result)
    {preflight : EvidencedOpcode} (hrecord : Records preflight response) :
    (Exact (top_level_result_keys (some preflight)) result ↔ Recoverable response result) ∧
      ∀ (catalog : List EvidencedOpcode) (code preflight_code : Nat) (plan : TmpMutationPlan),
        build_tmp_mutation_plan catalog code = .ok plan →
        plan.preflight_code = some preflight_code →
        get_tmp_opcode catalog preflight_code = .ok preflight →
        (plan.preflight_missing_candidate_keys =
            (plan.app_candidate_parameter_keys.filter fun key => key ∉ keys result) ↔
          ∀ key ∈ plan.app_candidate_parameter_keys, Told response result key) :=
  ⟨exact_iff hdistinct hresult hrecord, fun _ _ _ _ hplan hcode hpreflight =>
    missing_iff hdistinct hresult hrecord hplan hcode hpreflight⟩

/-! ### A key with a dot -/

/-- A read that has returned a response. -/
def returned (code : Nat) (name category : String) (response : JsonObject) : EvidencedOpcode where
  code := code
  name := name
  safety := "read_only"
  sensitivity := .private
  category := category
  app_dispatch_methods := ["get"]
  app_contract_status := .static_null_payload
  app_candidate_parameter_keys := []
  p9_observation := .returned_data
  p9_confirmed_parameter_sets := []
  safety_evidence := "opcode_name_read_semantics"
  app_analysis_sources := []
  app_contract_sources := []
  app_contract_provenance := .direct
  app_request_models := ["null"]
  app_call_site_count := 1
  app_contract_sha256 := ""
  app_set_dispatch_review := ""
  p9_schema_paths := schema_paths response

/-- A mutation whose setter has these keys. -/
def setter (code : Nat) (name category : String) (keys : List String) : EvidencedOpcode where
  code := code
  name := name
  safety := "mutation"
  sensitivity := .private
  category := category
  app_dispatch_methods := ["set"]
  app_contract_status := .static_keys_recovered
  app_candidate_parameter_keys := keys
  p9_observation := .untested
  p9_confirmed_parameter_sets := []
  safety_evidence := "opcode_name_mutation_semantics"
  app_analysis_sources := []
  app_contract_sources := []
  app_contract_provenance := .direct
  app_request_models := []
  app_call_site_count := 1
  app_contract_sha256 := ""
  app_set_dispatch_review := ""

theorem records_returned (code : Nat) (name category : String) (response : JsonObject) :
    Records (returned code name category response) response := ⟨rfl, rfl⟩

/-- A result with a dot in a key. -/
def phone_result : JsonObject := [("G.722", .bool true), ("number", .str "100")]

def phone_response : JsonObject := [("error_code", .int 0), ("result", .obj phone_result)]

def phone_list_get : EvidencedOpcode :=
  returned 0x42AB "TMP_APPV2_OP_PHONE_NUMBER_LIST_GET" "system" phone_response

/-- Some of the keys of the setter are names of codecs, with a dot. -/
def phone_modify : EvidencedOpcode :=
  setter 0x42AD "TMP_APPV2_OP_PHONE_NUMBER_MODIFY" "system" [
    "G.711ALaw", "G.711MuLaw", "G.722", "G.726_32", "G.729a/b", "X_TP_T38", "address", "areaCode",
    "authId", "codec", "extension", "isp_name", "number", "number_id", "outproxy",
    "outproxy_port", "password", "proxy", "proxy_port", "reg_port", "register_via_outbound_proxy",
    "sec_address", "status", "type"]

/-- The result has the key of the codec, which is not found and is reported as missing. -/
theorem a_codec_is_reported_missing :
    Records phone_list_get phone_response ∧ get phone_response "result" = .obj phone_result ∧
      "G.722" ∈ keys phone_result ∧
      ¬ Exact (top_level_result_keys (some phone_list_get)) phone_result ∧
      ∃ plan, build_tmp_mutation_plan [phone_list_get, phone_modify] 0x42AD = .ok plan ∧
        plan.preflight_code = some 0x42AB ∧ "G.722" ∈ plan.preflight_missing_candidate_keys := by
  have hrecord : Records phone_list_get phone_response := records_returned _ _ _ _
  have hdistinct : (keys phone_response).Nodup := by decide
  have hcut : ¬ Uncut "G.722" := fun h => h '.' (by decide) (by decide)
  have hkey : "G.722" ∈ keys phone_result := List.mem_cons_self
  obtain ⟨plan, hplan, hcode, hsetter⟩ : ∃ plan,
      build_tmp_mutation_plan [phone_list_get, phone_modify] 0x42AD = .ok plan ∧
        plan.preflight_code = some 0x42AB ∧
        "G.722" ∈ plan.app_candidate_parameter_keys := ⟨_, rfl, rfl, by decide⟩
  refine ⟨hrecord, rfl, hkey, ?_, plan, hplan, hcode, ?_⟩
  · rw [exact_iff hdistinct rfl hrecord]
    exact fun h => hcut (h.uncut _ hkey)
  · rw [(missing_of_build hplan hcode rfl).2, List.mem_filter, decide_eq_true_eq]
    refine ⟨hsetter, fun hfound => hcut ?_⟩
    have hread := (mem_top_level_result_keys hdistinct rfl hrecord).mp hfound
    exact key_of_eq_self.mp (cut_of_mem_image key_of_key_of hread.1)

/-! ### A key without separators -/

def roaming_result : JsonObject := [("enable", .bool true)]

def roaming_response : JsonObject := [("error_code", .int 0), ("result", .obj roaming_result)]

def roaming_get : EvidencedOpcode :=
  returned 0x4208 "TMP_APPV2_OP_11R_GET" "wireless" roaming_response

def roaming_set : EvidencedOpcode := setter 0x4209 "TMP_APPV2_OP_11R_SET" "wireless" ["enable"]

theorem the_roaming_key_is_found :
    Exact (top_level_result_keys (some roaming_get)) roaming_result ∧
      ∃ plan, build_tmp_mutation_plan [roaming_get, roaming_set] 0x4209 = .ok plan ∧
        plan.preflight_missing_candidate_keys = [] := by
  have hrecord : Records roaming_get roaming_response := records_returned _ _ _ _
  have hdistinct : (keys roaming_response).Nodup := by decide
  obtain ⟨hexact, hmissing⟩ := result_keys_found_exactly hdistinct rfl hrecord
  have huncut : ∀ key ∈ keys roaming_result, key ≠ "" ∧ Uncut key := by
    intro key hkey
    obtain rfl := List.mem_singleton.mp hkey
    exact ⟨by decide, key_of_eq_self.mp rfl⟩
  have hlonger : ∀ key ∈ keys roaming_response, ¬ starts_with key (RESULT ++ ".") = true := by
    decide
  obtain ⟨plan, hplan, hcode, hsetter⟩ : ∃ plan,
      build_tmp_mutation_plan [roaming_get, roaming_set] 0x4209 = .ok plan ∧
        plan.preflight_code = some 0x4208 ∧
        plan.app_candidate_parameter_keys = keys roaming_result := ⟨_, rfl, rfl, rfl⟩
  have htold : ∀ key ∈ plan.app_candidate_parameter_keys,
      Told roaming_response roaming_result key := by
    rw [hsetter]
    exact fun key hkey => ⟨huncut key, fun hother => absurd hkey hother⟩
  refine ⟨hexact.mpr ⟨fun key hkey => (huncut key hkey).2, fun w hw => ?_⟩, plan, hplan, ?_⟩
  · exact absurd (starts_with_append _ w) (hlonger _ hw)
  · rw [(hmissing _ _ _ plan hplan hcode rfl).mpr htold, hsetter]
    decide

end tplink_deco_api.tmp_mutation_planner
