-- The calls of the HTTP no-op verifier, one after another: which of them are
-- writes, what these carry, and what the result says of them.
import TplinkDeco.Service.HttpNoopSpecs

open json prog

namespace tplink_deco_api.http_noop_verification

open exceptions Prog

variable {operation confirmation : String} {before : LiveState} {h : Http}
  {answers : Nat → Except PyError ApiResponse}

/-! ## One call -/

/-- The state that a read finds, or the error that it ends with. -/
def read_outcome (operation : String) (answer : Except PyError ApiResponse) :
    Outcome PyError LiveState :=
  match answer.bind (state_of operation) with
  | .ok state => .ok state
  | .error e => .raised e

/-- The calls of the write operation. -/
def writes (operation : String) (calls : List HttpCall) : List HttpCall :=
  calls.filter fun c => c.operation = operation

@[simp] theorem result_of_status (operation status : String) (state : LiveState)
    (write : Option Int × String) (post : Bool × Option Bool) :
    (result_of operation status state write post).status = status := rfl

/-- A client that answers every call with the same state. -/
def steady : Nat → Except PyError ApiResponse := fun _ =>
  .ok { error_code := 0, result := .obj [("enable", .bool true)] }

end tplink_deco_api.http_noop_verification
