-- The values that a JSON parser of Python gives.
import Mathlib.Tactic.Common
import Mathlib.Data.Rat.Defs

namespace json

/-- `float` holds the number, or nothing for NaN and the infinities. -/
inductive Json where
  | null
  | bool (value : Bool)
  | int (value : Int)
  | float (value : Option Rat)
  | str (value : String)
  | arr (items : List Json)
  | obj (fields : List (String × Json))

abbrev JsonObject := List (String × Json)

/-- `fields.get(key)`. -/
def get (fields : JsonObject) (key : String) : Json := (fields.lookup key).getD .null

theorem get_of_lookup {fields : JsonObject} {key : String} {value : Option Json}
    (h : fields.lookup key = value) : get fields key = value.getD .null := by
  rw [get, h]

theorem get_eq_of_lookup {fields fields' : JsonObject} {key : String}
    (h : fields'.lookup key = fields.lookup key) : get fields' key = get fields key :=
  get_of_lookup h

theorem lookup_of_get {fields : JsonObject} {key : String} {value : Json} (hvalue : value ≠ .null)
    (h : get fields key = value) : fields.lookup key = some value := by
  cases hlookup : fields.lookup key with
  | none =>
    rw [get_of_lookup hlookup] at h
    exact absurd h.symm hvalue
  | some other =>
    rw [get_of_lookup hlookup] at h
    exact congrArg some h

/-- The value, if it is an `int` and not a `bool`. -/
def Json.asInt : Json → Option Int
  | .int value => some value
  | _ => none

def Json.asBool : Json → Option Bool
  | .bool value => some value
  | _ => none

def Json.asStr : Json → Option String
  | .str value => some value
  | _ => none

def Json.asObj : Json → Option JsonObject
  | .obj fields => some fields
  | _ => none

def Json.asArr : Json → Option (List Json)
  | .arr items => some items
  | _ => none

/-- `value == n`, for which `False` is `0` and `True` is `1`. -/
def Json.equalsInt (n : Int) : Json → Bool
  | .int value => value = n
  | .bool value => (if value then 1 else 0) = n
  | .float (some value) => value = n
  | _ => false

end json
