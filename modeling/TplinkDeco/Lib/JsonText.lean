-- The text that `json.dumps` gives for a value, with `ensure_ascii=True`,
-- `separators=(",", ":")` and `sort_keys=True`.
import Mathlib.Data.List.Sort
import TplinkDeco.Lib.Dict
import TplinkDeco.Lib.Json

namespace json

def hex_digit (n : Nat) : Char := if n < 10 then Char.ofNat (48 + n) else Char.ofNat (87 + n)

/-- `\uXXXX`, for one UTF-16 code unit. -/
def unicode_escape (unit : Nat) : List Char :=
  ['\\', 'u', hex_digit (unit / 4096 % 16), hex_digit (unit / 256 % 16),
    hex_digit (unit / 16 % 16), hex_digit (unit % 16)]

def escaped (c : Char) : List Char :=
  if c = '"' then ['\\', '"']
  else if c = '\\' then ['\\', '\\']
  else if c = '\n' then ['\\', 'n']
  else if c = '\r' then ['\\', 'r']
  else if c = '\t' then ['\\', 't']
  else if c.toNat = 8 then ['\\', 'b']
  else if c.toNat = 12 then ['\\', 'f']
  else if 32 ≤ c.toNat ∧ c.toNat < 127 then [c]
  else if c.toNat < 0x10000 then unicode_escape c.toNat
  else
    -- the two surrogates of a character outside the basic plane
    unicode_escape (0xD800 + (c.toNat - 0x10000) / 0x400) ++
      unicode_escape (0xDC00 + (c.toNat - 0x10000) % 0x400)

def quoted (s : String) : String := String.ofList ('"' :: s.toList.flatMap escaped ++ ['"'])

/-- The fields in the order of their keys, each with the text of its value. -/
def object_text (fields : List (String × String)) : String :=
  let sorted := fields.insertionSort fun a b => a.1 ≤ b.1
  "\x7b" ++ ",".intercalate (sorted.map fun (key, text) => quoted key ++ ":" ++ text) ++ "\x7d"

mutual

/-- `float_repr` is the text of a `float`. -/
def dumps (float_repr : Option Rat → String) : Json → String
  | .null => "null"
  | .bool true => "true"
  | .bool false => "false"
  | .int value => toString value
  | .float value => float_repr value
  | .str value => quoted value
  | .arr items => "[" ++ ",".intercalate (item_texts float_repr items) ++ "]"
  | .obj fields => object_text (field_texts float_repr fields)

def item_texts (float_repr : Option Rat → String) : List Json → List String
  | [] => []
  | item :: items => dumps float_repr item :: item_texts float_repr items

def field_texts (float_repr : Option Rat → String) :
    List (String × Json) → List (String × String)
  | [] => []
  | (key, value) :: fields => (key, dumps float_repr value) :: field_texts float_repr fields

end

/-! ## The text with a line for each item -/

/-- The texts of the items, each on a line of its own. -/
def bracketed (first last : String) (depth : Nat) (texts : List String) : String :=
  let line (depth : Nat) := "\n" ++ String.ofList (List.replicate (2 * depth) ' ')
  if texts = [] then first ++ last
  else
    first ++ line (depth + 1) ++ ("," ++ line (depth + 1)).intercalate texts ++ line depth ++ last

mutual

/-- `json.dumps(value, indent=2, sort_keys=True)`. -/
def indented (float_repr : Option Rat → String) (depth : Nat) : Json → String
  | .arr items => bracketed "[" "]" depth (indented_items float_repr (depth + 1) items)
  | .obj fields =>
    let sorted := (indented_fields float_repr (depth + 1) fields).insertionSort
      fun a b => a.1 ≤ b.1
    bracketed "\x7b" "\x7d" depth (sorted.map fun (key, text) => quoted key ++ ": " ++ text)
  | value => dumps float_repr value

def indented_items (float_repr : Option Rat → String) (depth : Nat) : List Json → List String
  | [] => []
  | item :: items => indented float_repr depth item :: indented_items float_repr depth items

def indented_fields (float_repr : Option Rat → String) (depth : Nat) :
    List (String × Json) → List (String × String)
  | [] => []
  | (key, value) :: fields =>
    (key, indented float_repr depth value) :: indented_fields float_repr depth fields

end

/-! ## Values up to the order of their keys -/

mutual

/-- The value with the fields of each object in the order of their keys. Two values are the same
to JSON if these are equal. -/
def canonical : Json → Json
  | .arr items => .arr (canonical_items items)
  | .obj fields => .obj ((canonical_fields fields).insertionSort fun a b => a.1 ≤ b.1)
  | value => value

def canonical_items : List Json → List Json
  | [] => []
  | item :: items => canonical item :: canonical_items items

def canonical_fields : List (String × Json) → List (String × Json)
  | [] => []
  | (key, value) :: fields => (key, canonical value) :: canonical_fields fields

end

/-- Two fields in the order of their keys stay as they are. -/
theorem canonical_two {first second : String} (h : first ≤ second) (a b : Json) :
    canonical (.obj [(first, a), (second, b)]) =
      .obj [(first, canonical a), (second, canonical b)] := by
  simp [canonical, canonical_fields, h]

theorem keys_canonical_fields (fields : JsonObject) :
    (canonical_fields fields).map Prod.fst = fields.map Prod.fst := by
  induction fields with
  | nil => rfl
  | cons field fields ih => rw [canonical_fields, List.map_cons, List.map_cons, ih]

/-- Values that are the same to JSON have the same keys. -/
theorem keys_perm_of_canonical {a b : JsonObject} (h : canonical (.obj a) = canonical (.obj b)) :
    (a.map Prod.fst).Perm (b.map Prod.fst) := by
  unfold canonical at h
  have hsorted := Json.obj.inj h
  have ha := List.perm_insertionSort (fun a b => a.1 ≤ b.1) (canonical_fields a)
  have hb := List.perm_insertionSort (fun a b => a.1 ≤ b.1) (canonical_fields b)
  rw [hsorted] at ha
  rw [← keys_canonical_fields a, ← keys_canonical_fields b]
  exact (ha.symm.trans hb).map _

theorem lookup_isNone_of_canonical {a b : JsonObject}
    (h : canonical (.obj a) = canonical (.obj b)) (key : String) :
    (a.lookup key).isNone = (b.lookup key).isNone := by
  have hkeys : ∀ fields : JsonObject, (fields.lookup key).isNone = true ↔
      key ∉ fields.map Prod.fst := by
    intro fields
    induction fields with
    | nil => simp
    | cons field fields ih =>
      obtain ⟨k, value⟩ := field
      rw [List.lookup_cons, List.map_cons, List.mem_cons, not_or]
      by_cases hk : key = k
      · simp [hk]
      · rw [beq_false_of_ne hk, ih]
        exact (and_iff_right hk).symm
  rw [Bool.eq_iff_iff, hkeys, hkeys, (keys_perm_of_canonical h).mem_iff]

/-- Only the empty object is the same to JSON as the empty object. -/
theorem eq_nil_of_canonical {fields : JsonObject}
    (h : canonical (.obj fields) = canonical (.obj [])) : fields = [] := by
  have hkeys := (keys_perm_of_canonical h).eq_nil
  simpa using hkeys

/-! ## Fields in the order of their keys -/

/-- The fields of an object as a parser gives them back. -/
def sorted_fields (fields : JsonObject) : JsonObject :=
  (canonical_fields fields).insertionSort fun a b => a.1 ≤ b.1

theorem canonical_items_eq (items : List Json) : canonical_items items = items.map canonical := by
  induction items with
  | nil => rfl
  | cons item items ih => rw [canonical_items, ih, List.map_cons]

/-- An array of values that stay as they are stays as it is. -/
theorem canonical_map {α : Type} {make : α → Json} (h : ∀ item, canonical (make item) = make item)
    (items : List α) : canonical (.arr (items.map make)) = .arr (items.map make) := by
  unfold canonical
  rw [canonical_items_eq, List.map_map]
  congr 1
  exact List.map_congr_left fun item _ => h item

theorem lookup_canonical_fields (fields : JsonObject) (key : String) :
    (canonical_fields fields).lookup key = (fields.lookup key).map canonical := by
  induction fields with
  | nil => rfl
  | cons field fields ih =>
    obtain ⟨k, value⟩ := field
    rw [canonical_fields, List.lookup_cons, List.lookup_cons, ih]
    cases key == k <;> rfl

/-- Each value is still under its key. -/
theorem get_sorted_fields {fields : JsonObject} (hdistinct : (fields.map Prod.fst).Nodup)
    (key : String) : get (sorted_fields fields) key = canonical (get fields key) := by
  have hperm : (sorted_fields fields).Perm (canonical_fields fields) :=
    List.perm_insertionSort _ _
  have hcanonical : ((canonical_fields fields).map Prod.fst).Nodup := by
    rwa [keys_canonical_fields]
  have hsorted : ((sorted_fields fields).map Prod.fst).Nodup :=
    (hperm.map Prod.fst).nodup_iff.mpr hcanonical
  have hlookup : (sorted_fields fields).lookup key = (canonical_fields fields).lookup key := by
    apply Option.ext
    intro value
    rw [dict.lookup_eq_some hsorted, dict.lookup_eq_some hcanonical]
    exact hperm.mem_iff
  unfold get
  rw [hlookup, lookup_canonical_fields]
  cases fields.lookup key <;> rfl

/-- A value with no objects in it stays as it is under its key. -/
theorem get_sorted_of_flat {fields : JsonObject} (hdistinct : (fields.map Prod.fst).Nodup)
    {key : String} (hflat : ∀ field ∈ fields, field.1 = key → canonical field.2 = field.2) :
    get (sorted_fields fields) key = get fields key := by
  rw [get_sorted_fields hdistinct]
  unfold get
  cases hvalue : fields.lookup key with
  | none => rfl
  | some value =>
    exact hflat (key, value) ((dict.lookup_eq_some hdistinct key value).mp hvalue) rfl

end json
