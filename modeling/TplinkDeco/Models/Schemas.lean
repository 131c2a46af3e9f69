-- The schema of a response: the paths of its values, with their types. A schema is stored in the
-- place of the values, so it must not tell them.
import TplinkDeco.Lib.Ordered
import TplinkDeco.Surface.Endpoints
import Mathlib.Data.Finset.Lattice.Lemmas
import Mathlib.Data.String.Basic

open json ordered

namespace tplink_deco_api.models

open surface (observation_of)
open http_noop_verification (ApiResponse)
open tmp_batches (field_paths item_paths paths)

/-! ## The extractors -/

/-- The classes that the extractors test for. -/
inductive PyClass where
  | NoneType
  | bool
  | int
  | float
  | str
  | Mapping
  | Sequence

/-- `isinstance(value, cls)`: a `bool` is an `int` too, and a `str` is a `Sequence`. -/
def isinstance : Json → PyClass → Bool
  | .null, .NoneType => true
  | .bool _, .bool => true
  | .bool _, .int => true
  | .int _, .int => true
  | .float _, .float => true
  | .str _, .str => true
  | .str _, .Sequence => true
  | .arr _, .Sequence => true
  | .obj _, .Mapping => true
  | _, _ => false

namespace endpoint_observation

mutual

/-- `_schema_entries`. -/
def schema_entries (path : String) (value : Json) : Finset String :=
  if isinstance value .NoneType then {s!"{path}:null"}
  else if isinstance value .bool then {s!"{path}:boolean"}
  else if isinstance value .int then {s!"{path}:integer"}
  else if isinstance value .float then {s!"{path}:number"}
  else if isinstance value .str then {s!"{path}:string"}
  else if isinstance value .Mapping then
    match value with
    | .obj fields => {s!"{path}:object"} ∪ items_entries path fields
    | _ => ∅
  else
    match value with
    | .arr items => {s!"{path}:array"} ∪ children_entries s!"{path}[]" items
    | _ => ∅

/-- The loop over `value.items()`. -/
def items_entries (path : String) : List (String × Json) → Finset String
  | [] => ∅
  | (key, child) :: fields => schema_entries s!"{path}.{key}" child ∪ items_entries path fields

/-- The loop over the elements of an array. -/
def children_entries (path : String) : List Json → Finset String
  | [] => ∅
  | child :: items => schema_entries path child ∪ children_entries path items

end

end endpoint_observation

namespace tmp_probe

mutual

/-- The text of `_schema_paths` in both of the probes. -/
def schema_paths (path : String) (value : Json) : Finset String :=
  if isinstance value .Mapping then
    match value with
    | .obj fields => {s!"{path}:object"} ∪ items_paths path fields
    | _ => ∅
  else if isinstance value .Sequence ∧ ¬ isinstance value .str then
    match value with
    | .arr items => {s!"{path}:array"} ∪ children_paths s!"{path}[]" items
    | _ => ∅
  else if isinstance value .bool then {s!"{path}:boolean"}
  else if isinstance value .int then {s!"{path}:integer"}
  else if isinstance value .float then {s!"{path}:number"}
  else if isinstance value .str then {s!"{path}:string"}
  else if isinstance value .NoneType then {s!"{path}:null"}
  else ∅

def items_paths (path : String) : List (String × Json) → Finset String
  | [] => ∅
  | (key, child) :: fields => schema_paths s!"{path}.{key}" child ∪ items_paths path fields

def children_paths (path : String) : List Json → Finset String
  | [] => ∅
  | child :: items => schema_paths path child ∪ children_paths path items

end

end tmp_probe

/-- `_schema_paths` of `tmp_unverified_read_probe.py`. -/
def tmp_unverified_read_probe.schema_paths (value : Json) (path : String := "$") : Finset String :=
  tmp_probe.schema_paths path value

/-- `_schema_paths` of `tmp_read_contract_probe.py`. -/
def tmp_read_contract_probe.schema_paths (value : Json) (path : String := "$") : Finset String :=
  tmp_probe.schema_paths path value

/-! ## They are one function -/

section

open endpoint_observation

mutual

theorem schema_entries_eq (path : String) :
    (value : Json) → schema_entries path value = (paths path value).toFinset
  | .null => by simp [schema_entries, isinstance, paths]
  | .bool _ => by simp [schema_entries, isinstance, paths]
  | .int _ => by simp [schema_entries, isinstance, paths]
  | .float _ => by simp [schema_entries, isinstance, paths]
  | .str _ => by simp [schema_entries, isinstance, paths]
  | .arr items => by
    simp [schema_entries, isinstance, paths, children_entries_eq _ items]
  | .obj fields => by
    simp [schema_entries, isinstance, paths, items_entries_eq _ fields]

theorem items_entries_eq (path : String) : (fields : List (String × Json)) →
    items_entries path fields = (field_paths path fields).toFinset
  | [] => rfl
  | (key, child) :: fields => by
    rw [items_entries, field_paths, List.toFinset_append, schema_entries_eq _ child,
      items_entries_eq path fields]

theorem children_entries_eq (path : String) : (items : List Json) →
    children_entries path items = (item_paths path items).toFinset
  | [] => rfl
  | child :: items => by
    rw [children_entries, item_paths, List.toFinset_append, schema_entries_eq _ child,
      children_entries_eq path items]

end

end

section

open tmp_probe

mutual

theorem schema_paths_eq (path : String) :
    (value : Json) → schema_paths path value = (paths path value).toFinset
  | .null => by simp [schema_paths, isinstance, paths]
  | .bool _ => by simp [schema_paths, isinstance, paths]
  | .int _ => by simp [schema_paths, isinstance, paths]
  | .float _ => by simp [schema_paths, isinstance, paths]
  | .str _ => by simp [schema_paths, isinstance, paths]
  | .arr items => by
    simp [schema_paths, isinstance, paths, children_paths_eq _ items]
  | .obj fields => by
    simp [schema_paths, isinstance, paths, items_paths_eq _ fields]

theorem items_paths_eq (path : String) : (fields : List (String × Json)) →
    items_paths path fields = (field_paths path fields).toFinset
  | [] => rfl
  | (key, child) :: fields => by
    rw [items_paths, field_paths, List.toFinset_append, schema_paths_eq _ child,
      items_paths_eq path fields]

theorem children_paths_eq (path : String) : (items : List Json) →
    children_paths path items = (item_paths path items).toFinset
  | [] => rfl
  | child :: items => by
    rw [children_paths, item_paths, List.toFinset_append, schema_paths_eq _ child,
      children_paths_eq path items]

end

end

/-! ## They show the shape only -/

theorem mem_item_paths {path entry : String} {items : List Json} :
    entry ∈ item_paths path items ↔ ∃ item ∈ items, entry ∈ paths path item := by
  induction items with
  | nil => simp [item_paths]
  | cons item items ih => simp [item_paths, ih]

theorem mem_field_paths {path entry : String} {fields : List (String × Json)} :
    entry ∈ field_paths path fields ↔
      ∃ key child, (key, child) ∈ fields ∧ entry ∈ paths s!"{path}.{key}" child := by
  induction fields with
  | nil => simp [field_paths]
  | cons field fields ih =>
    obtain ⟨key, child⟩ := field
    rw [field_paths, List.mem_append, ih]
    constructor
    · rintro (h | ⟨key', child', hmem, h⟩)
      · exact ⟨key, child, List.mem_cons_self, h⟩
      · exact ⟨key', child', List.mem_cons_of_mem _ hmem, h⟩
    · rintro ⟨key', child', hmem, h⟩
      rcases List.mem_cons.mp hmem with heq | hmem
      · cases heq
        exact Or.inl h
      · exact Or.inr ⟨key', child', hmem, h⟩

theorem sizeOf_item_lt {item : Json} {items : List Json} (h : item ∈ items) :
    sizeOf item < sizeOf (Json.arr items) := by
  have hmem : sizeOf item < sizeOf items := List.sizeOf_lt_of_mem h
  rw [Json.arr.sizeOf_spec]
  omega

theorem sizeOf_child_lt {key : String} {child : Json} {fields : JsonObject}
    (h : (key, child) ∈ fields) : sizeOf child < sizeOf (Json.obj fields) := by
  have hmem : sizeOf (key, child) < sizeOf fields := List.sizeOf_lt_of_mem h
  rw [Prod.mk.sizeOf_spec] at hmem
  rw [Json.obj.sizeOf_spec]
  omega

/-- The same keys, the same nesting, and leaves of the same type. Two arrays can differ in their
length, as long as each element of one has an element of its shape in the other. -/
def SameShape : Json → Json → Prop
  | .null, .null => True
  | .bool _, .bool _ => True
  | .int _, .int _ => True
  | .float _, .float _ => True
  | .str _, .str _ => True
  | .arr items, .arr items' =>
    (∀ item, item ∈ items → ∃ item' ∈ items', SameShape item item') ∧
      ∀ item' ∈ items', ∃ item, ∃ _ : item ∈ items, SameShape item item'
  | .obj fields, .obj fields' =>
    (∀ key child, (key, child) ∈ fields →
      ∃ child', (key, child') ∈ fields' ∧ SameShape child child') ∧
    ∀ key child', (key, child') ∈ fields' →
      ∃ child, ∃ _ : (key, child) ∈ fields, SameShape child child'
  | _, _ => False
termination_by value => sizeOf value
decreasing_by
  all_goals first
    | exact sizeOf_item_lt ‹_›
    | exact sizeOf_child_lt ‹_›

/-- By the cases of `SameShape`. -/
theorem paths_of_same_shape (entry : String) (value value' : Json) (h : SameShape value value')
    (path : String) : entry ∈ paths path value ↔ entry ∈ paths path value' := by
  fun_induction SameShape value value' generalizing path with
  | case1 => rfl
  | case2 => rfl
  | case3 => rfl
  | case4 => rfl
  | case5 => rfl
  | case6 items items' ih ih' =>
    rw [paths, paths, List.mem_cons, List.mem_cons, mem_item_paths, mem_item_paths]
    apply or_congr Iff.rfl
    constructor
    · rintro ⟨item, hitem, hentry⟩
      obtain ⟨item', hitem', hshape⟩ := h.1 item hitem
      exact ⟨item', hitem', (ih item hitem item' hshape _).mp hentry⟩
    · rintro ⟨item', hitem', hentry⟩
      obtain ⟨item, hitem, hshape⟩ := h.2 item' hitem'
      exact ⟨item, hitem, (ih' item' item hitem hshape _).mpr hentry⟩
  | case7 fields fields' ih ih' =>
    rw [paths, paths, List.mem_cons, List.mem_cons, mem_field_paths, mem_field_paths]
    apply or_congr Iff.rfl
    constructor
    · rintro ⟨key, child, hchild, hentry⟩
      obtain ⟨child', hchild', hshape⟩ := h.1 key child hchild
      exact ⟨key, child', hchild', (ih key child hchild child' hshape _).mp hentry⟩
    · rintro ⟨key, child', hchild', hentry⟩
      obtain ⟨child, hchild, hshape⟩ := h.2 key child' hchild'
      exact ⟨key, child, hchild, (ih' key child' child hchild hshape _).mpr hentry⟩
  | case8 => exact h.elim

/-- What is stored for one of two responses of the same shape is stored for the other. -/
theorem stored_of_same_shape {probe probe' : surface.EndpointProbeResult}
    {response response' : ApiResponse} (hresponse : probe.response = some response)
    (hresponse' : probe'.response = some response')
    (h : SameShape response.result response'.result) :
    (observation_of probe).schema_paths = (observation_of probe').schema_paths ∧
      (observation_of probe).schema_sha256 = (observation_of probe').schema_sha256 := by
  have hpaths : (observation_of probe).schema_paths = (observation_of probe').schema_paths := by
    unfold observation_of
    rw [hresponse, hresponse']
    exact sorted_set_congr fun entry => paths_of_same_shape entry _ _ h "$"
  refine ⟨hpaths, ?_⟩
  show (if (observation_of probe).schema_paths = [] then ""
    else sha256.hexdigest (text.encode ("\n".intercalate (observation_of probe).schema_paths))) = _
  rw [hpaths]
  rfl

/-- The three extractors give one set, which two values of the same shape share. So what is stored
of a response tells no value and no length. -/
theorem extractors_show_shape :
    (∀ path value,
      endpoint_observation.schema_entries path value =
        tmp_unverified_read_probe.schema_paths value path ∧
      endpoint_observation.schema_entries path value =
        tmp_read_contract_probe.schema_paths value path) ∧
    ∀ value value', SameShape value value' →
      (∀ path, endpoint_observation.schema_entries path value =
        endpoint_observation.schema_entries path value') ∧
      ∀ (probe probe' : surface.EndpointProbeResult) (response response' : ApiResponse),
        probe.response = some response → probe'.response = some response' →
        response.result = value → response'.result = value' →
        (observation_of probe).schema_paths = (observation_of probe').schema_paths ∧
        (observation_of probe).schema_sha256 = (observation_of probe').schema_sha256 := by
  have hone : ∀ path value, endpoint_observation.schema_entries path value =
      tmp_probe.schema_paths path value := by
    intro path value
    rw [schema_entries_eq, schema_paths_eq]
  refine ⟨fun path value => ⟨hone path value, hone path value⟩, ?_⟩
  intro value value' h
  constructor
  · intro path
    rw [schema_entries_eq, schema_entries_eq]
    ext entry
    rw [List.mem_toFinset, List.mem_toFinset]
    exact paths_of_same_shape entry value value' h path
  · rintro probe probe' response response' hresponse hresponse' rfl rfl
    exact stored_of_same_shape hresponse hresponse' h

/-- A list of clients, with their number and their names. -/
def client_list (names : List String) : Json :=
  .obj [("client_list", .arr (names.map fun name => .obj [("name", .str name)]))]

theorem client_lists_share_a_schema :
    endpoint_observation.schema_entries "$" (client_list ["phone", "tablet"]) =
      endpoint_observation.schema_entries "$" (client_list ["printer"]) := by
  refine (extractors_show_shape.2 _ _ ?_).1 "$"
  simp [client_list, SameShape]

end tplink_deco_api.models
