-- The exceptions of the package, and those of Python and of its SSH client that
-- the code raises, catches or lets through.
import Mathlib.Data.List.Forall2
import Mathlib.Tactic.Common

namespace tplink_deco_api.exceptions

inductive ExcClass where
  | Exception
  -- The hierarchy of the package.
  | DecoError
  | ApiError
  | AuthenticationError
  | ConfirmationError
  | ControllerChangedError
  | CryptoError
  | ExpiredPlanError
  | IdempotencyConflictError
  | IdempotencyInProgressError
  | MutationIneligibleError
  | TmpProtocolError
  | TransportError
  | UnknownPlanError
  -- Python, its standard library, and the SSH client.
  | ValueError
  | UnicodeDecodeError
  | JSONDecodeError
  | OSError
  | TimeoutError
  | URLError
  | HTTPError
  | PermissionError
  | ConnectionError
  | RuntimeError
  | RecursionError
  | LookupError
  | KeyError
  | TypeError
  | EOFError
  | AssertionError
  | StructError
  | HTTPException
  | IncompleteRead
  | SSHException
deriving DecidableEq, Repr

/-- The class and its bases, as far as `Exception`. -/
def ExcClass.mro : ExcClass → List ExcClass
  | .Exception => [.Exception]
  | .DecoError => [.DecoError, .Exception]
  | .ValueError => [.ValueError, .Exception]
  | .UnicodeDecodeError => [.UnicodeDecodeError, .ValueError, .Exception]
  | .JSONDecodeError => [.JSONDecodeError, .ValueError, .Exception]
  | .OSError => [.OSError, .Exception]
  | .TimeoutError => [.TimeoutError, .OSError, .Exception]
  | .URLError => [.URLError, .OSError, .Exception]
  | .HTTPError => [.HTTPError, .URLError, .OSError, .Exception]
  | .PermissionError => [.PermissionError, .OSError, .Exception]
  | .ConnectionError => [.ConnectionError, .OSError, .Exception]
  | .RuntimeError => [.RuntimeError, .Exception]
  | .RecursionError => [.RecursionError, .RuntimeError, .Exception]
  | .LookupError => [.LookupError, .Exception]
  | .KeyError => [.KeyError, .LookupError, .Exception]
  | .TypeError => [.TypeError, .Exception]
  | .EOFError => [.EOFError, .Exception]
  | .AssertionError => [.AssertionError, .Exception]
  | .StructError => [.StructError, .Exception]
  | .HTTPException => [.HTTPException, .Exception]
  | .IncompleteRead => [.IncompleteRead, .HTTPException, .Exception]
  | .SSHException => [.SSHException, .Exception]
  | c => [c, .DecoError, .Exception]

/-- `type(exc).__name__`. -/
def ExcClass.name : ExcClass → String
  | .Exception => "Exception"
  | .DecoError => "DecoError"
  | .ApiError => "ApiError"
  | .AuthenticationError => "AuthenticationError"
  | .ConfirmationError => "ConfirmationError"
  | .ControllerChangedError => "ControllerChangedError"
  | .CryptoError => "CryptoError"
  | .ExpiredPlanError => "ExpiredPlanError"
  | .IdempotencyConflictError => "IdempotencyConflictError"
  | .IdempotencyInProgressError => "IdempotencyInProgressError"
  | .MutationIneligibleError => "MutationIneligibleError"
  | .TmpProtocolError => "TmpProtocolError"
  | .TransportError => "TransportError"
  | .UnknownPlanError => "UnknownPlanError"
  | .ValueError => "ValueError"
  | .UnicodeDecodeError => "UnicodeDecodeError"
  | .JSONDecodeError => "JSONDecodeError"
  | .OSError => "OSError"
  | .TimeoutError => "TimeoutError"
  | .URLError => "URLError"
  | .HTTPError => "HTTPError"
  | .PermissionError => "PermissionError"
  | .ConnectionError => "ConnectionError"
  | .RuntimeError => "RuntimeError"
  | .RecursionError => "RecursionError"
  | .LookupError => "LookupError"
  | .KeyError => "KeyError"
  | .TypeError => "TypeError"
  | .EOFError => "EOFError"
  | .AssertionError => "AssertionError"
  | .StructError => "error"
  | .HTTPException => "HTTPException"
  | .IncompleteRead => "IncompleteRead"
  | .SSHException => "SSHException"

/-- A raised exception. The code is the `error_code` of an `ApiError`, the `status_code` of
a `TransportError`, or the `code` of an `HTTPError`. -/
structure PyError where
  cls : ExcClass
  message : String := ""
  code : Option Int := none
deriving DecidableEq, Repr

def value_error (message : String) : PyError := { cls := .ValueError, message }

def permission_error (message : String) : PyError := { cls := .PermissionError, message }

/-- `isinstance(exc, classes)`, as an `except` clause tests it. -/
def PyError.isinstance (e : PyError) (classes : List ExcClass) : Bool :=
  e.cls.mro.any (fun c => decide (c ∈ classes))

theorem isinstance_of_cls {e : PyError} {c : ExcClass} {classes : List ExcClass}
    (he : e.cls = c) (h : (c.mro.any fun d => decide (d ∈ classes)) = true) :
    e.isinstance classes = true := by
  unfold PyError.isinstance
  rw [he]
  exact h

/-! ## Computations that may raise -/

/-- A computation ends with a value exactly if its first part does, and its second part ends with
this value from there. -/
theorem bind_eq_ok {ε α β : Type} {first : Except ε α} {next : α → Except ε β} {result : β} :
    (first >>= next) = .ok result ↔ ∃ value, first = .ok value ∧ next value = .ok result := by
  cases first with
  | error e => exact iff_of_false (fun h => nomatch h) (fun ⟨_, h, _⟩ => nomatch h)
  | ok value =>
    constructor
    · exact fun h => ⟨value, rfl, h⟩
    · rintro ⟨_, hvalue, h⟩
      cases hvalue
      exact h

theorem map_eq_ok {ε α β : Type} {first : Except ε α} {f : α → β} {result : β} :
    f <$> first = .ok result ↔ ∃ value, first = .ok value ∧ f value = result := by
  cases first with
  | error e => exact iff_of_false (fun h => nomatch h) (fun ⟨_, h, _⟩ => nomatch h)
  | ok value =>
    constructor
    · exact fun h => ⟨value, rfl, Except.ok.inj h⟩
    · rintro ⟨_, hvalue, h⟩
      cases hvalue
      exact congrArg Except.ok h

/-- What is shown of a result is shown of one that is there. -/
theorem ok_of_shown {ε α β : Type} {outcome : Except ε α} {f : α → β} {shown : β}
    (h : outcome.toOption.map f = some shown) :
    ∃ result, outcome = .ok result ∧ f result = shown := by
  cases outcome with
  | error e => cases h
  | ok result => exact ⟨result, rfl, Option.some.inj h⟩

/-- The results of a list are those of its items, one by one. -/
theorem mapM_eq_ok {ε α β : Type} {read : α → Except ε β} {items : List α} {results : List β} :
    items.mapM read = .ok results ↔
      List.Forall₂ (fun item result => read item = .ok result) items results := by
  induction items generalizing results with
  | nil =>
    rw [List.mapM_nil, List.forall₂_nil_left_iff]
    exact ⟨fun h => (Except.ok.inj h).symm, fun h => congrArg Except.ok h.symm⟩
  | cons item items ih =>
    rw [List.mapM_cons, bind_eq_ok]
    simp only [bind_eq_ok, List.forall₂_cons_left_iff, ih]
    constructor
    · rintro ⟨result, hresult, rest, hrest, hmade⟩
      exact ⟨result, rest, hresult, hrest, (Except.ok.inj hmade).symm⟩
    · rintro ⟨result, rest, hresult, hrest, rfl⟩
      exact ⟨result, hresult, rest, hrest, rfl⟩

/-- Each result is that of an item. -/
theorem item_of_mapM {ε α β : Type} {read : α → Except ε β} {items : List α} {results : List β}
    (h : items.mapM read = .ok results) {result : β} (hresult : result ∈ results) :
    ∃ item ∈ items, read item = .ok result := by
  induction mapM_eq_ok.mp h with
  | nil => cases hresult
  | @cons item first items results hfirst hrest ih =>
    rcases List.mem_cons.mp hresult with rfl | hmem
    · exact ⟨item, List.mem_cons_self, hfirst⟩
    · obtain ⟨other, hother, hread⟩ := ih (mapM_eq_ok.mpr hrest) hmem
      exact ⟨other, List.mem_cons_of_mem _ hother, hread⟩

/-- Each item has a result. -/
theorem result_of_mapM {ε α β : Type} {read : α → Except ε β} {items : List α} {results : List β}
    (h : items.mapM read = .ok results) {item : α} (hitem : item ∈ items) :
    ∃ result ∈ results, read item = .ok result := by
  induction mapM_eq_ok.mp h with
  | nil => cases hitem
  | @cons first result items results hfirst hrest ih =>
    rcases List.mem_cons.mp hitem with rfl | hmem
    · exact ⟨result, List.mem_cons_self, hfirst⟩
    · obtain ⟨other, hother, hread⟩ := ih (mapM_eq_ok.mpr hrest) hmem
      exact ⟨other, List.mem_cons_of_mem _ hother, hread⟩

end tplink_deco_api.exceptions
