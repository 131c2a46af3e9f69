-- The admission of requests in `request_capacity_middleware.py`, as the tasks of
-- one event loop. A task runs on until it is suspended: where it waits for the
-- lock, and where the application or the 429 response is awaited.
import TplinkDeco.Lib.Json
import TplinkDeco.Lib.Text
import TplinkDeco.Lib.Threads

open json text threads

namespace tplink_deco_api.rest.request_capacity_middleware

/-! ## The lock -/

/-- `asyncio.Lock`. The waiters are the futures of the acquires that are suspended. -/
structure Lock where
  locked : Bool := false
  waiters : List Nat := []
  next_future : Nat := 0

namespace Lock

/-- Whether `acquire` goes through without a suspension. -/
def free (l : Lock) : Bool := !l.locked && l.waiters.isEmpty

/-- The lock with one more suspended acquire, and its future. -/
def suspend (l : Lock) : Lock × Nat :=
  ({ l with waiters := l.waiters ++ [l.next_future], next_future := l.next_future + 1 },
    l.next_future)

/-- Whether the acquire of this future runs on: the lock is open, and no other is before it. -/
def wakes (l : Lock) (future : Nat) : Bool := !l.locked && l.waiters.head? = some future

/-- The lock when the acquire of this future has ended, in one way or the other. -/
def forget (l : Lock) (future : Nat) : Lock := { l with waiters := l.waiters.erase future }

end Lock

/-! ## The middleware -/

/-- The parts of the scope of a request that the middleware reads. -/
structure Scope where
  type : String
  path : String := ""
  request_id : String := ""

structure RequestCapacityMiddleware where
  max_in_flight : Nat
  protected_prefixes : List String
  max_in_flight_positive : 0 < max_in_flight

/-- `_active` and `_lock`. -/
structure Shared where
  active : Int := 0
  lock : Lock := {}

structure JSONResponse where
  status_code : Nat
  content : JsonObject
  headers : List (String × String)
  media_type : String

def server_busy (scope : Scope) : JSONResponse := {
  status_code := 429
  content := [
    ("type", .str "https://tplink-deco-api.invalid/problems/server-busy"),
    ("title", .str "Server capacity exceeded"),
    ("status", .int 429),
    ("detail", .str "Too many router-facing requests are already in progress."),
    ("instance", .str scope.path),
    ("code", .str "server_busy"),
    ("request_id", .str scope.request_id)]
  headers := [("Retry-After", "1")]
  media_type := "application/problem+json" }

/-- How an awaited call ends, or the request itself. -/
inductive Ending where
  | returned
  | raised
  | cancelled
deriving DecidableEq

/-- Where a task is. `passing` has a request that is not protected in the application, and
`rejecting` holds the lock. -/
inductive Task where
  | idle
  | passing
  | entering (scope : Scope) (future : Nat)
  | rejecting
  | handling
  | leaving (ending : Ending) (future : Nat)

/-- What goes on with a task: a request, its turn at the lock, the end of what it awaits, or
its cancellation while it waits for the lock. -/
inductive Act where
  | arrive (scope : Scope)
  | acquire
  | ends (ending : Ending)
  | cancel

/-- `abandoned` is the end of a request that was cancelled in its `finally` block. -/
inductive Event where
  | admitted
  | rejected (response : JSONResponse)
  | ended (ending : Ending)
  | abandoned

namespace RequestCapacityMiddleware

variable (middleware : RequestCapacityMiddleware)

def is_protected (path : String) : Bool :=
  middleware.protected_prefixes.any fun p => path = p || starts_with path (p ++ "/")

/-- Whether the request takes the lock at all. -/
def counts (scope : Scope) : Bool := scope.type = "http" && middleware.is_protected scope.path

/-- The first `async with` block. It is left at once, unless a response is to be sent. -/
def enter (scope : Scope) (s : Shared) : Shared × Task × List Event :=
  if middleware.max_in_flight ≤ s.active then
    ({ s with lock := { s.lock with locked := true } }, .rejecting,
      [.rejected (server_busy scope)])
  else ({ s with active := s.active + 1 }, .handling, [.admitted])

/-- The second `async with` block. -/
def leave (ending : Ending) (s : Shared) : Shared × Task × List Event :=
  ({ s with active := s.active - 1 }, .idle, [.ended ending])

def waiting_to_enter (scope : Scope) (s : Shared) : Shared × Task × List Event :=
  ({ s with lock := s.lock.suspend.1 }, .entering scope s.lock.suspend.2, [])

def waiting_to_leave (ending : Ending) (s : Shared) : Shared × Task × List Event :=
  ({ s with lock := s.lock.suspend.1 }, .leaving ending s.lock.suspend.2, [])

def forgetting (future : Nat) (s : Shared) : Shared := { s with lock := s.lock.forget future }

/-- `__call__`, from one suspension of the task to the next. -/
def call : Act → Shared → Task → Option (Shared × Task × List Event)
  | .arrive scope, s, .idle =>
    if ¬ middleware.counts scope then some (s, .passing, [])
    else if s.lock.free then some (middleware.enter scope s)
    else some (waiting_to_enter scope s)
  | .acquire, s, .entering scope future =>
    if s.lock.wakes future then some (middleware.enter scope (forgetting future s)) else none
  | .cancel, s, .entering _ future => some (forgetting future s, .idle, [.ended .cancelled])
  | .ends ending, s, .rejecting =>
    some ({ s with lock := { s.lock with locked := false } }, .idle, [.ended ending])
  | .ends ending, s, .passing => some (s, .idle, [.ended ending])
  | .ends ending, s, .handling =>
    if s.lock.free then some (leave ending s) else some (waiting_to_leave ending s)
  | .acquire, s, .leaving ending future =>
    if s.lock.wakes future then some (leave ending (forgetting future s)) else none
  -- The acquire of the `finally` block raises, and the count stays as it is.
  | .cancel, s, .leaving _ future => some (forgetting future s, .idle, [.abandoned])
  | _, _, _ => none

/-- The tasks of the event loop, in any order. -/
def tasks : System Shared Task Act Event := ⟨middleware.call⟩

end RequestCapacityMiddleware

/-- A new middleware. -/
def at_rest : Pool Shared Task := { shared := {}, thread := fun _ => .idle }

end tplink_deco_api.rest.request_capacity_middleware
