-- What the client does at a request: when it has a session to use, when its
-- errors stay in the families that its caller catches, and what it leaves alone.
import TplinkDeco.TmpClient.Client

open json prog

namespace tplink_deco_api.tmp_client

open exceptions tmp_protocol Prog

variable {router : Router}

/-! ## The programs that only look at the stream -/

/-- A relation that holds whatever the time does, and whatever becomes of the channels, as
long as no channel appears. -/
def Blind (R : Client → Client → Prop) : Prop :=
  ∀ c channels time, (∀ i, c.channels i = .absent → channels i = .absent) →
    R c { c with channels, time }

section Blind

variable {R : Client → Client → Prop} [IsPreorder Client R] (blind : Blind R)

theorem raise_some_moves (error : Option PyError) : Moves R (raise_some error) := by
  cases error with
  | none => exact Moves.pure ()
  | some e => exact Moves.raise e

theorem reraise_moves {α : Type} (convert : PyError → PyError) {m : ClientM α}
    (hm : Moves R m) : Moves R (reraise convert m) := by
  apply (hm.trying _).bind
  intro x
  cases x with
  | ok a => exact Moves.pure a
  | error e => exact Moves.raise _

include blind

omit [IsPreorder Client R] in
theorem next_moment_moves : Moves R (next_moment router) := by
  intro c
  apply blind
  intro i habsent
  simp [habsent]

theorem stream_connected_moves (i : Nat) : Moves R (stream_connected router i) :=
  (next_moment_moves blind).bind fun _ c => refl_of R c

theorem session_open_moves (s : Session) : Moves R (session_open router s) := by
  refine Moves.ite (Moves.pure s) ?_
  apply (next_moment_moves blind).bind
  intro m
  exact (raise_some_moves m.session_open).bind fun _ => Moves.pure _

theorem exchange_json_moves : Moves R (exchange_json router) :=
  (next_moment_moves blind).bind fun m => Moves.lift m.answer

theorem exchange_raw_moves : Moves R (exchange_raw router) :=
  (next_moment_moves blind).bind fun m => Moves.lift m.raw

theorem session_request_read_json_moves (s : Session) (opcode : Nat) :
    Moves R (session_request_read_json router s opcode) := by
  apply reraise_moves
  refine Moves.ite (Moves.raise _) ?_
  cases router.get_tmp_opcode opcode with
  | none => exact Moves.raise _
  | some operation => exact Moves.ite (Moves.raise _) (exchange_json_moves blind)

theorem session_request_read_moves (s : Session) (opcode : Nat) :
    Moves R (session_request_read router s opcode) := by
  refine Moves.ite (Moves.raise _) ?_
  cases router.get_tmp_opcode opcode with
  | none => exact Moves.raise _
  | some operation => exact Moves.ite (Moves.raise _) (exchange_raw_moves blind)

theorem session_request_mutation_json_moves (s : Session) (opcode : Nat) :
    Moves R (session_request_mutation_json router s opcode) := by
  refine Moves.ite (Moves.raise _) ?_
  cases router.get_tmp_opcode opcode with
  | none => exact Moves.raise _
  | some operation =>
    exact Moves.ite (Moves.raise _) (reraise_moves _ (exchange_json_moves blind))

theorem connected_moves : Moves R (connected router) := by
  intro c
  unfold connected
  split
  · exact refl_of R c
  · exact ((stream_connected_moves blind _).bind fun up => Moves.pure _) c

theorem require_session_moves : Moves R (require_session router) := by
  apply (connected_moves blind).bind
  intro ready
  refine Moves.ite ?_ (Moves.raise _)
  intro c
  cases h : c.session with
  | some s => simpa [h] using refl_of R c
  | none => simpa [h] using refl_of R c

end Blind

/-! ## The log of the mutations -/

/-- Only a mutation request adds to the log of the mutations. -/
abbrev KeepsMutations {α : Type} (m : ClientM α) : Prop := Keeps Client.mutations m

theorem mutations_blind : Blind (Same Client.mutations) := fun _ _ _ _ => rfl

theorem next_moment_keeps : KeepsMutations (next_moment router) := fun _ => rfl

theorem raise_some_keeps (error : Option PyError) : KeepsMutations (raise_some error) :=
  raise_some_moves (R := Same Client.mutations) error

theorem stream_close_keeps (i : Nat) : KeepsMutations (stream_close router i) := by
  apply Keeps.bind (fun _ => rfl)
  intro _
  apply Keeps.bind (fun _ => rfl)
  intro _
  exact next_moment_keeps.bind fun m => raise_some_keeps m.stream_close

theorem stream_open_keeps (i : Nat) : KeepsMutations (stream_open router i) := by
  refine Keeps.bind (stream_connected_moves (R := Same Client.mutations) mutations_blind i) ?_
  intro opened
  apply Keeps.ite (Keeps.pure ())
  apply next_moment_keeps.bind
  intro m
  cases m.stream_open with
  | none => exact fun _ => rfl
  | some e =>
    apply Keeps.ite
    · exact (stream_close_keeps i).bind fun _ => Keeps.raise e
    · apply Keeps.ite _ (Keeps.raise e)
      exact (stream_close_keeps i).bind fun _ => Keeps.raise _

theorem session_close_keeps (s : Session) : KeepsMutations (session_close router s) := by
  apply next_moment_keeps.bind
  intro m
  cases m.goodbye with
  | none => exact stream_close_keeps s.stream
  | some e => exact Keeps.ite (stream_close_keeps s.stream) (Keeps.raise e)

theorem open_client_keeps : KeepsMutations (open_client router) := by
  refine Keeps.bind (connected_moves (R := Same Client.mutations) mutations_blind) ?_
  intro ready
  apply Keeps.ite (Keeps.pure ())
  refine Keeps.bind (fun _ => rfl) fun i => ?_
  have hsession : KeepsMutations (session_open router { stream := i, ready := false }) :=
    session_open_moves (R := Same Client.mutations) mutations_blind _
  apply (((stream_open_keeps i).bind fun _ => hsession).trying _).bind
  intro x
  cases x with
  | ok s => exact fun _ => rfl
  | error e => exact (stream_close_keeps i).bind fun _ => Keeps.raise e

theorem close_client_keeps : KeepsMutations (close_client router) := by
  refine Keeps.bind (fun _ => rfl) ?_
  rintro ⟨s, i⟩
  cases s with
  | some s => exact session_close_keeps s
  | none =>
    cases i with
    | some i => exact stream_close_keeps i
    | none => exact Keeps.pure ()

theorem require_session_keeps : KeepsMutations (require_session router) :=
  require_session_moves (R := Same Client.mutations) mutations_blind

theorem request_attempts_keeps {α : Type} {request : Session → ClientM α}
    (hr : ∀ s, KeepsMutations (request s)) (left : Nat) :
    KeepsMutations (request_attempts router request left) := by
  induction left with
  | zero => exact Keeps.raise _
  | succ left ih =>
    apply ((require_session_keeps.bind hr).trying _).bind
    intro x
    cases x with
    | ok a => exact Keeps.pure a
    | error e =>
      apply Keeps.ite (Keeps.raise e)
      apply close_client_keeps.bind
      intro _
      apply Keeps.ite (Keeps.raise e)
      exact open_client_keeps.bind fun _ => ih

theorem request_read_json_keeps (opcode : Nat) :
    KeepsMutations (request_read_json router opcode) := by
  apply request_attempts_keeps
  intro s
  exact session_request_read_json_moves (R := Same Client.mutations) mutations_blind s opcode

theorem request_mutation_json_notes (opcode : Nat) (params : JsonObject) (c : Client) :
    (request_mutation_json router opcode params c).2.mutations =
      c.mutations ++ [(opcode, params)] := by
  have hsends : ∀ s, KeepsMutations (session_request_mutation_json router s opcode) := fun s =>
    session_request_mutation_json_moves (R := Same Client.mutations) mutations_blind s opcode
  exact (require_session_keeps.bind hsends) _

/-! ## Finding a session -/

/-- The client is connected when it looks for its session. -/
def Finds (router : Router) (c : Client) (s : Session) (found : Client) : Prop :=
  connected router c = (.ok true, found) ∧ found.session = some s

theorem require_session_finds {c found : Client} {s : Session} (h : Finds router c s found) :
    require_session router c = (.ok s, found) := by
  obtain ⟨hlook, hs⟩ := h
  unfold require_session
  rw [bind_ok hlook]
  simp [hs]

/-- A look at the connection ends, and finds no session that is not there. -/
theorem connected_ends (router : Router) (c : Client) :
    ∃ ready after, connected router c = (.ok ready, after) ∧
      (ready = true → ∃ s, after.session = some s) := by
  unfold connected
  split
  · exact ⟨false, c, rfl, fun h => by cases h⟩
  · refine ⟨_, _, rfl, ?_⟩
    intro h
    rw [Bool.and_eq_true] at h
    cases hs : c.session with
    | none =>
      rw [hs] at h
      cases h.2
    | some s => exact ⟨s, rfl⟩

theorem require_session_lost {c : Client} (h : ¬ ∃ s found, Finds router c s found) :
    ∃ after, require_session router c = (.raised not_connected, after) := by
  obtain ⟨ready, after, hlook, hs⟩ := connected_ends router c
  unfold require_session
  rw [bind_ok hlook]
  cases ready with
  | false => exact ⟨after, rfl⟩
  | true =>
    obtain ⟨s, hs⟩ := hs rfl
    exact absurd ⟨s, after, hlook, hs⟩ h

/-! ## A request that settles -/

/-- The errors on which `_request_with_reconnect` closes the client. -/
def loses_connection (e : PyError) : Bool :=
  e.isinstance [.TmpProtocolError, .TransportError] && is_connection_failure e

theorem attempt_lost {α : Type} (request : Session → ClientM α) (left : Nat) {c : Client}
    (h : ¬ ∃ s found, Finds router c s found) :
    ∃ after, request_attempts router request (left + 1) c = (.raised not_connected, after) := by
  obtain ⟨after, hlost⟩ := require_session_lost h
  refine ⟨after, ?_⟩
  unfold request_attempts
  exact bind_raised (trying_escapes (bind_raised hlost) (by decide))

theorem attempt_answered {α : Type} {request : Session → ClientM α} {c found after : Client}
    {s : Session} {a : α} (left : Nat) (hf : Finds router c s found)
    (hr : request s found = (.ok a, after)) :
    request_attempts router request (left + 1) c = (.ok a, after) := by
  have hrun := bind_ok (f := request) (require_session_finds hf)
  rw [hr] at hrun
  unfold request_attempts
  rw [bind_ok (trying_ok hrun)]
  rfl

/-- An error that is no connection failure comes up as it is. -/
theorem attempt_escapes {α : Type} {request : Session → ClientM α} {c lost : Client} {e : PyError}
    (left : Nat) (hrun : (require_session router >>= request) c = (.raised e, lost))
    (he : loses_connection e = false) :
    request_attempts router request (left + 1) c = (.raised e, lost) := by
  unfold request_attempts
  cases hc : e.isinstance [.TmpProtocolError, .TransportError] with
  | false => exact bind_raised (trying_escapes hrun hc)
  | true =>
    unfold loses_connection at he
    rw [hc, Bool.true_and] at he
    rw [bind_ok (trying_caught hrun hc)]
    simp [he]

/-- After a connection failure the client is closed, and opened again for another attempt. -/
theorem attempt_reconnects {α : Type} {request : Session → ClientM α} {c lost : Client}
    {e : PyError} (left : Nat)
    (hrun : (require_session router >>= request) c = (.raised e, lost))
    (he : loses_connection e = true) :
    request_attempts router request (left + 1) c =
      (close_client router >>= fun _ =>
        if left = 0 then Prog.raise e
        else open_client router >>= fun _ => request_attempts router request left) lost := by
  unfold loses_connection at he
  rw [Bool.and_eq_true] at he
  rw [request_attempts, bind_ok (trying_caught hrun he.1)]
  simp [he.2]

theorem attempt_refused {α : Type} {request : Session → ClientM α} {c found lost : Client}
    {s : Session} {e : PyError} (left : Nat) (hf : Finds router c s found)
    (hr : request s found = (.raised e, lost)) (he : loses_connection e = false) :
    request_attempts router request (left + 1) c = (.raised e, lost) := by
  have hrun := bind_ok (f := request) (require_session_finds hf)
  rw [hr] at hrun
  exact attempt_escapes left hrun he

theorem attempt_again {α : Type} {request : Session → ClientM α} {c found lost : Client}
    {s : Session} {e : PyError} (left : Nat) (hf : Finds router c s found)
    (hr : request s found = (.raised e, lost)) (he : loses_connection e = true) :
    request_attempts router request (left + 1) c =
      (close_client router >>= fun _ =>
        if left = 0 then Prog.raise e
        else open_client router >>= fun _ => request_attempts router request left) lost := by
  have hrun := bind_ok (f := request) (require_session_finds hf)
  rw [hr] at hrun
  exact attempt_reconnects left hrun he

theorem attempt_waiting {α : Type} {request : Session → ClientM α} {c found after : Client}
    {s : Session} (left : Nat) (hf : Finds router c s found)
    (hr : request s found = (.waiting, after)) :
    request_attempts router request (left + 1) c = (.waiting, after) := by
  have hrun := bind_ok (f := request) (require_session_finds hf)
  rw [hr] at hrun
  unfold request_attempts
  apply bind_waiting
  unfold trying
  rw [hrun]

end tplink_deco_api.tmp_client
