-- The POST of `auth/transport.py`: the errors of `urllib` that become a
-- `TransportError`, and those that go through it.
import TplinkDeco.Exceptions
import TplinkDeco.Service.HttpNoop

namespace tplink_deco_api.transport

open exceptions http_noop_verification

/-- The `except` clauses of `_request`, in their order. -/
def post_error (safe_url : String) (exc : PyError) : PyError :=
  if exc.isinstance [.HTTPError] then
    { cls := .TransportError, message := s!"Failed to POST {safe_url}: HTTP {exc.code.getD 0}",
      code := exc.code }
  else if exc.isinstance [.URLError] then
    { cls := .TransportError, message := s!"Failed to POST {safe_url}: {exc.message}" }
  else if exc.isinstance [.TimeoutError] then
    { cls := .TransportError, message := s!"Failed to POST {safe_url}: timed out" }
  else if exc.isinstance [.OSError] then
    { cls := .TransportError, message := s!"Failed to POST {safe_url}: {exc.message}" }
  else exc

/-- `_request`, from what `urlopen` and `read` give or raise. -/
def request {α : Type} (safe_url : String) (posted : Except PyError α) : Except PyError α :=
  posted.mapError (post_error safe_url)

/-- One `client.call` over the transport. `posted` is what the POST gives, and, with the bytes
of a response, how the client ends when it decodes them. -/
def answer (safe_url : String) (posted : Except PyError (Except PyError ApiResponse)) :
    Except PyError ApiResponse := do
  let decoded ← request safe_url posted
  decoded

/-- The classes of the four clauses are `OSError` and below. -/
theorem os_error_of_clause (k : ExcClass) :
    ∀ c ∈ [ExcClass.HTTPError, .URLError, .TimeoutError, .OSError],
      c ∈ k.mro → ExcClass.OSError ∈ k.mro := by
  cases k <;> decide

theorem caught_of_clause {exc : PyError} {c : ExcClass}
    (hc : c ∈ [ExcClass.HTTPError, .URLError, .TimeoutError, .OSError])
    (h : exc.isinstance [c] = true) : caught exc = true := by
  unfold PyError.isinstance at h
  simp only [List.mem_singleton, List.any_eq_true, decide_eq_true_eq, exists_eq_right] at h
  apply List.any_eq_true.mpr
  exact ⟨.OSError, os_error_of_clause exc.cls c hc h, by decide⟩

/-- The verifier catches an error of the POST with the transport exactly when it would
catch it without. -/
theorem caught_post_error (safe_url : String) (exc : PyError) :
    caught (post_error safe_url exc) = caught exc := by
  have hraised : ∀ message code, caught { cls := .TransportError, message, code } = true :=
    fun _ _ => isinstance_of_cls (c := .TransportError) rfl (by decide)
  unfold post_error
  split_ifs with hhttp hurl htime hos
  · rw [hraised, caught_of_clause (by simp) hhttp]
  · rw [hraised, caught_of_clause (by simp) hurl]
  · rw [hraised, caught_of_clause (by simp) htime]
  · rw [hraised, caught_of_clause (by simp) hos]
  · rfl

end tplink_deco_api.transport
