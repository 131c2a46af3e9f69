-- The sections of `_in_memory_idempotency_store.py` that hold the lock, and the
-- calls of `execute` that run between them.
import Mathlib.Order.Lattice
import TplinkDeco.Exceptions
import TplinkDeco.Lib.Dict
import TplinkDeco.Lib.Threads

open dict threads

namespace tplink_deco_api.rest

open exceptions

variable {κ φ ρ τ : Type} [DecidableEq κ] [DecidableEq φ] [LinearOrder τ] [Zero τ] [Add τ]

structure IdempotencyRecord (φ ρ τ : Type) where
  fingerprint : φ
  result : Option ρ
  expires_at : τ
deriving DecidableEq, Repr

abbrev Records (κ φ ρ τ : Type) [DecidableEq κ] := Dict κ (IdempotencyRecord φ ρ τ)

/-- The arguments of `_InMemoryIdempotencyStore`. Nothing is asked of the addition of the
clock, so that a sum may be rounded. -/
structure InMemoryIdempotencyStore (τ : Type) [LinearOrder τ] [Zero τ] where
  ttl_seconds : τ
  max_records : Nat := 256
  ttl_positive : 0 < ttl_seconds
  max_positive : 0 < max_records := by decide

def conflict_error : PyError := {
  cls := .IdempotencyConflictError
  message := "Failed to execute mutation: idempotency key identifies another request" }

def in_progress_error : PyError := {
  cls := .IdempotencyInProgressError
  message := "Failed to execute mutation: idempotent request is already in progress" }

def capacity_error : PyError := {
  cls := .IdempotencyInProgressError
  message := "Failed to execute mutation: idempotency capacity is in progress" }

/-! ## The sections that hold the lock -/

def is_expired (now : τ) (record : IdempotencyRecord φ ρ τ) : Bool :=
  record.result.isSome && decide (record.expires_at ≤ now)

def purge (now : τ) (records : Records κ φ ρ τ) : Records κ φ ρ τ :=
  records.eraseAll ((records.entries.filter fun entry => is_expired now entry.2).map Prod.fst)

/-- One turn of `min(.., key=..)`: an entry that is not earlier does not take the place of
the best one. -/
def earlier (best : Option (κ × IdempotencyRecord φ ρ τ)) (entry : κ × IdempotencyRecord φ ρ τ) :
    Option (κ × IdempotencyRecord φ ρ τ) :=
  match best with
  | none => some entry
  | some b => if entry.2.expires_at < b.2.expires_at then some entry else some b

/-- The completed record that expires first. -/
def oldest_key (records : Records κ φ ρ τ) : Option κ :=
  ((records.entries.filter fun entry => entry.2.result.isSome).foldl earlier none).map Prod.fst

namespace InMemoryIdempotencyStore

variable (store : InMemoryIdempotencyStore τ)

def reserve (key : κ) (fingerprint : φ) (now : τ) (records : Records κ φ ρ τ) :
    Except PyError (Option ρ) × Records κ φ ρ τ :=
  (.ok none, records.set key { fingerprint, result := none, expires_at := now + store.ttl_seconds })

/-- The first section of `execute`: a result to replay, or `none` when the key is reserved
for a run of the operation. -/
def begin_execute (key : κ) (fingerprint : φ) (now : τ) (records : Records κ φ ρ τ) :
    Except PyError (Option ρ) × Records κ φ ρ τ :=
  let records := purge now records
  match records.get? key with
  | some existing =>
    if existing.fingerprint ≠ fingerprint then (.error conflict_error, records)
    else
      match existing.result with
      | none => (.error in_progress_error, records)
      | some result => (.ok (some result), records)
  | none =>
    if store.max_records ≤ records.size then
      match oldest_key records with
      | none => (.error capacity_error, records)
      | some oldest => store.reserve key fingerprint now (records.erase oldest)
    else store.reserve key fingerprint now records

/-- The section after the operation raised. -/
def clean_up (key : κ) (fingerprint : φ) (records : Records κ φ ρ τ) : Records κ φ ρ τ :=
  match records.get? key with
  | some existing => if existing.fingerprint = fingerprint then records.erase key else records
  | none => records

/-- The section after the operation gave a result. -/
def complete (key : κ) (fingerprint : φ) (result : ρ) (now : τ) (records : Records κ φ ρ τ) :
    Records κ φ ρ τ :=
  records.set key { fingerprint, result := some result, expires_at := now + store.ttl_seconds }

end InMemoryIdempotencyStore

/-! ## The threads -/

/-- Where a thread is in a call of `execute`. -/
inductive Call (κ φ ρ : Type) where
  | idle
  | operating (key : κ) (fingerprint : φ)
  | failed (key : κ) (fingerprint : φ) (error : PyError)
  | succeeded (key : κ) (fingerprint : φ) (result : ρ)

/-- What comes next in a thread: a call at some time, the end of the operation, or the
section after it at some time. -/
inductive Act (κ φ ρ τ : Type) where
  | execute (key : κ) (fingerprint : φ) (now : τ)
  | operation_raises (error : PyError)
  | operation_returns (result : ρ)
  | finish (now : τ)

inductive Event (κ φ ρ : Type) where
  | refused (key : κ) (fingerprint : φ) (error : PyError)
  | replayed (key : κ) (fingerprint : φ) (result : ρ)
  | started (key : κ) (fingerprint : φ)
  | failed (key : κ) (fingerprint : φ) (error : PyError)
  | succeeded (key : κ) (fingerprint : φ) (result : ρ)
  | raised (key : κ) (fingerprint : φ) (error : PyError)
  | returned (key : κ) (fingerprint : φ) (result : ρ)

/-- The records, and the last reading of the clock. -/
structure Shared (κ φ ρ τ : Type) [DecidableEq κ] where
  records : Records κ φ ρ τ
  clock : τ

/-- One step of a thread. A reading of the monotonic clock is never before an earlier one. -/
def store_step (store : InMemoryIdempotencyStore τ) :
    Act κ φ ρ τ → Shared κ φ ρ τ → Call κ φ ρ →
      Option (Shared κ φ ρ τ × Call κ φ ρ × List (Event κ φ ρ))
  | .execute key fingerprint now, s, .idle =>
    if now < s.clock then none
    else
      match store.begin_execute key fingerprint now s.records with
      | (.error e, records) =>
        some ({ records, clock := now }, .idle, [.refused key fingerprint e])
      | (.ok (some result), records) =>
        some ({ records, clock := now }, .idle, [.replayed key fingerprint result])
      | (.ok none, records) =>
        some ({ records, clock := now }, .operating key fingerprint, [.started key fingerprint])
  | .operation_raises e, s, .operating key fingerprint =>
    some (s, .failed key fingerprint e, [.failed key fingerprint e])
  | .operation_returns result, s, .operating key fingerprint =>
    some (s, .succeeded key fingerprint result, [.succeeded key fingerprint result])
  | .finish _, s, .failed key fingerprint e =>
    some ({ s with records := InMemoryIdempotencyStore.clean_up key fingerprint s.records }, .idle,
      [.raised key fingerprint e])
  | .finish now, s, .succeeded key fingerprint result =>
    if now < s.clock then none
    else
      some ({ records := store.complete key fingerprint result now s.records, clock := now }, .idle,
        [.returned key fingerprint result])
  | _, _, _ => none

/-- Any number of threads that call `execute` on one store. -/
def callers (store : InMemoryIdempotencyStore τ) :
    System (Shared κ φ ρ τ) (Call κ φ ρ) (Act κ φ ρ τ) (Event κ φ ρ) := ⟨store_step store⟩

/-- An empty store that no thread has called. -/
def fresh (clock : τ) : Pool (Shared κ φ ρ τ) (Call κ φ ρ) := {
  shared := { records := Dict.empty, clock }
  thread := fun _ => .idle }

end tplink_deco_api.rest
