-- Requests of the client that end in an answer or in an error that the callers
-- catch, and how the client fares until then.
import TplinkDeco.TmpClient.BooleanNoop
import TplinkDeco.TmpClient.ClientSpecs

open json prog

namespace tplink_deco_api.tmp_boolean_noop_verification

open exceptions tmp_client Prog

variable {router : Router}

theorem caught_of_loses {e : PyError} (h : loses_connection e = true) : caught e = true := by
  unfold loses_connection at h
  rw [Bool.and_eq_true] at h
  obtain ⟨hcls, -⟩ := h
  unfold caught PyError.isinstance at *
  cases hc : e.cls <;> rw [hc] at hcls <;> revert hcls <;> decide

/-! ## Requests that are served -/

/-- A client that is connected on its first stream. -/
def connected_client : Client := {
  stream := some 0
  session := some { stream := 0, ready := true }
  channels := fun i => if i = 0 then .opened else .absent
  created := 1 }

/-- The request finds the client connected at each attempt, and nothing below it raises
an error outside the families that the verifier catches. -/
inductive Served {α : Type} (router : Router) (request : Session → ClientM α) :
    Nat → Client → Prop
  | answered {left : Nat} {c found after : Client} {s : Session} {a : α}
      (finds : Finds router c s found) (run : request s found = (.ok a, after)) :
      Served router request (left + 1) c
  | refused {left : Nat} {c found after : Client} {s : Session} {e : PyError}
      (finds : Finds router c s found) (run : request s found = (.raised e, after))
      (stays : loses_connection e = false) (known : caught e = true) :
      Served router request (left + 1) c
  | not_closed {left : Nat} {c found lost after : Client} {s : Session} {e e' : PyError}
      (finds : Finds router c s found) (run : request s found = (.raised e, lost))
      (loses : loses_connection e = true) (closing : close_client router lost = (.raised e', after))
      (known : caught e' = true) : Served router request (left + 1) c
  | lost_twice {c found lost closed : Client} {s : Session} {e : PyError}
      (finds : Finds router c s found) (run : request s found = (.raised e, lost))
      (loses : loses_connection e = true) (closing : close_client router lost = (.ok (), closed)) :
      Served router request 1 c
  | not_reopened {left : Nat} {c found lost closed after : Client} {s : Session}
      {e e' : PyError} (finds : Finds router c s found)
      (run : request s found = (.raised e, lost)) (loses : loses_connection e = true)
      (closing : close_client router lost = (.ok (), closed))
      (opening : open_client router closed = (.raised e', after)) (known : caught e' = true) :
      Served router request (left + 2) c
  | again {left : Nat} {c found lost closed reopened : Client} {s : Session} {e : PyError}
      (finds : Finds router c s found) (run : request s found = (.raised e, lost))
      (loses : loses_connection e = true) (closing : close_client router lost = (.ok (), closed))
      (opening : open_client router closed = (.ok (), reopened))
      (next : Served router request (left + 1) reopened) : Served router request (left + 2) c

theorem Served.settles {α : Type} {request : Session → ClientM α} {left : Nat} {c : Client}
    (h : Served router request left c) :
    Settles caught (request_attempts router request left c).1 := by
  induction h with
  | answered finds run =>
    rw [attempt_answered _ finds run]
    trivial
  | refused finds run stays known =>
    rw [attempt_refused _ finds run stays]
    exact known
  | not_closed finds run loses closing known =>
    rw [attempt_again _ finds run loses, bind_raised closing]
    exact known
  | lost_twice finds run loses closing =>
    rw [attempt_again _ finds run loses, bind_ok closing]
    exact caught_of_loses loses
  | not_reopened finds run loses closing opening known =>
    rw [attempt_again _ finds run loses, bind_ok closing, if_neg (Nat.succ_ne_zero _),
      bind_raised opening]
    exact known
  | again finds run loses closing opening next ih =>
    rw [attempt_again _ finds run loses, bind_ok closing, if_neg (Nat.succ_ne_zero _),
      bind_ok opening]
    exact ih

/-- The first attempt of a request that settles, up to a connection failure. -/
theorem served_of_attempt {α : Type} {request : Session → ClientM α} {left : Nat} {c : Client}
    (h : Settles caught (request_attempts router request (left + 1) c).1)
    (hagain : ∀ s found e lost, Finds router c s found → request s found = (.raised e, lost) →
      loses_connection e = true →
      Settles caught ((close_client router >>= fun _ =>
        if left = 0 then Prog.raise e
        else open_client router >>= fun _ => request_attempts router request left) lost).1 →
      Served router request (left + 1) c) : Served router request (left + 1) c := by
  by_cases hfind : ∃ s found, Finds router c s found
  · obtain ⟨s, found, hfind⟩ := hfind
    rcases hrun : request s found with ⟨r, lost⟩
    cases r with
    | ok a => exact .answered hfind hrun
    | waiting =>
      rw [attempt_waiting left hfind hrun] at h
      cases h
    | raised e =>
      cases hlose : loses_connection e with
      | false =>
        rw [attempt_refused left hfind hrun hlose] at h
        exact .refused hfind hrun hlose h
      | true =>
        rw [attempt_again left hfind hrun hlose] at h
        exact hagain s found e lost hfind hrun hlose h
  · obtain ⟨after, hlost⟩ := attempt_lost request left hfind
    rw [hlost] at h
    cases h

/-- A request that settles went in one of these ways. -/
theorem served_of_settles {α : Type} {request : Session → ClientM α} {left : Nat} {c : Client}
    (h : Settles caught (request_attempts router request (left + 1) c).1) :
    Served router request (left + 1) c := by
  induction left generalizing c with
  | zero =>
    apply served_of_attempt h
    intro s found e lost hfind hrun hlose hrest
    rcases hclose : close_client router lost with ⟨r, closed⟩
    cases r with
    | ok _ => exact .lost_twice hfind hrun hlose hclose
    | raised e' =>
      rw [bind_raised hclose] at hrest
      exact .not_closed hfind hrun hlose hclose hrest
    | waiting =>
      rw [bind_waiting hclose] at hrest
      cases hrest
  | succ left ih =>
    apply served_of_attempt h
    intro s found e lost hfind hrun hlose hrest
    rcases hclose : close_client router lost with ⟨r, closed⟩
    cases r with
    | raised e' =>
      rw [bind_raised hclose] at hrest
      exact .not_closed hfind hrun hlose hclose hrest
    | waiting =>
      rw [bind_waiting hclose] at hrest
      cases hrest
    | ok _ =>
      rw [bind_ok hclose, if_neg (Nat.succ_ne_zero left)] at hrest
      rcases hopen : open_client router closed with ⟨r, reopened⟩
      cases r with
      | raised e' =>
        rw [bind_raised hopen] at hrest
        exact .not_reopened hfind hrun hlose hclose hopen hrest
      | waiting =>
        rw [bind_waiting hopen] at hrest
        cases hrest
      | ok _ =>
        rw [bind_ok hopen] at hrest
        exact .again hfind hrun hlose hclose hopen (ih hrest)

end tplink_deco_api.tmp_boolean_noop_verification
