-- The streams that one client makes over its life. The client lets go of a
-- stream that it has not closed in two places: when it opens again over a
-- channel that the remote end has closed, and when its goodbye breaks off with
-- an error that nothing suppresses.
import TplinkDeco.TmpClient.ClientSpecs

open bytes json prog

namespace tplink_deco_api.tmp_client

open exceptions tmp_protocol Prog

variable {router : Router}

/-! ## The calls on one client -/

/-- An operation of the client. -/
inductive Op where
  | open_client
  | request_read (opcode : Nat)
  | request_read_json (opcode : Nat)
  | request_mutation_json (opcode : Nat) (params : JsonObject)
  | close_client

/-- One call. Its caller goes on, whether it returns or raises. -/
def perform (router : Router) : Op → ClientM Unit
  | .open_client => open_client router
  | .request_read opcode => request_read router opcode >>= fun _ => pure ()
  | .request_read_json opcode => request_read_json router opcode >>= fun _ => pure ()
  | .request_mutation_json opcode params =>
    request_mutation_json router opcode params >>= fun _ => pure ()
  | .close_client => close_client router

/-- One operation after another, whatever each of them raises. -/
def run (router : Router) : List Op → Client → Client
  | [], c => c
  | op :: ops, c => run router ops (perform router op c).2

/-- The client made the stream, does not hold it, and never called its `close`. -/
def Leaked (c : Client) (i : Nat) : Prop :=
  i < c.created ∧ c.stream ≠ some i ∧ i ∉ c.closed_streams

/-! ## Where a stream is lost -/

/-- The goodbye frame is sent, or fails as `suppress` expects. -/
def polite (m : Moment) : Bool :=
  match m.goodbye with
  | none => true
  | some e => e.isinstance [.OSError, .TmpProtocolError, .TransportError]

/-- The client holds a session, and its goodbye breaks off. -/
def CloseLoses (router : Router) (c : Client) : Prop :=
  c.session.isSome = true ∧ polite (router.moments c.time) = false

/-- The client holds a stream whose channel is closed by now, and a new connection comes up. -/
def OpenLoses (router : Router) (c : Client) : Prop :=
  ∃ i, c.stream = some i ∧
    ¬ (c.channels i = .opened ∧ (router.moments c.time).channel_closes i = false) ∧
    (router.moments (c.time + 2)).stream_open = none ∧
    (router.moments (c.time + 3)).session_open = none

/-- A connection failure closes the client, and that loses its stream. -/
def AttemptsLose {α : Type} (router : Router) (request : Session → ClientM α) :
    Nat → Client → Prop
  | 0, _ => False
  | left + 1, c => ∃ e lost, (require_session router >>= request) c = (.raised e, lost) ∧
      loses_connection e = true ∧
      (CloseLoses router lost ∨ ∃ closed opened, left ≠ 0 ∧
        close_client router lost = (.ok (), closed) ∧
        open_client router closed = (.ok (), opened) ∧ AttemptsLose router request left opened)

/-- The operation is one that may lose a stream. -/
def OpLoses (router : Router) (c : Client) : Op → Prop
  | .open_client => OpenLoses router c
  | .request_read opcode =>
    AttemptsLose router (fun s => session_request_read router s opcode) 2 c
  | .request_read_json opcode =>
    AttemptsLose router (fun s => session_request_read_json router s opcode) 2 c
  | .request_mutation_json _ _ => False
  | .close_client => CloseLoses router c

/-- No call of the run loses a stream where it is made. -/
def Tidy (router : Router) : List Op → Client → Prop
  | [], _ => True
  | op :: ops, c => ¬ OpLoses router c op ∧ Tidy router ops (perform router op c).2

/-! ## What the client holds -/

/-- Which streams there were, which is held and which were closed. -/
structure Ownership where
  stream : Option Nat
  session : Option Session
  created : Nat
  closed_streams : List Nat

/-- The streams of a client. -/
def Client.ownership (c : Client) : Ownership :=
  ⟨c.stream, c.session, c.created, c.closed_streams⟩

/-- A stream that was made is neither held nor closed. -/
def Ownership.Leaks (o : Ownership) : Prop :=
  ∃ i, i < o.created ∧ o.stream ≠ some i ∧ i ∉ o.closed_streams

/-- The held session is ready and is that of the held stream, which nobody has closed. -/
structure Ownership.Sound (o : Ownership) : Prop where
  session_stream : o.session.map Session.stream = o.stream
  session_ready : ∀ s, o.session = some s → s.ready = true
  held_created : ∀ i, o.stream = some i → i < o.created
  held_open : ∀ i, o.stream = some i → i ∉ o.closed_streams
  closed_created : ∀ i ∈ o.closed_streams, i < o.created

/-- A stream that is still to be made has no channel. -/
def Fresh (c : Client) : Prop := ∀ i, c.created ≤ i → c.channels i = .absent

/-- A part of a call from `c` to `c'`, in which a stream is lost exactly when `lost` holds. -/
structure After (c : Client) (lost : Prop) (c' : Client) : Prop where
  sound : c'.ownership.Sound
  fresh : Fresh c'
  leaks : c'.ownership.Leaks ↔ c.ownership.Leaks ∨ lost

theorem After.trans {c c' c'' : Client} {lost lost' : Prop} (h : After c lost c')
    (h' : After c' lost' c'') : After c (lost ∨ lost') c'' := by
  refine ⟨h'.sound, h'.fresh, ?_⟩
  rw [h'.leaks, h.leaks, or_assoc]

theorem After.congr {c c' : Client} {lost lost' : Prop} (h : After c lost c')
    (hiff : lost ↔ lost') : After c lost' c' := by
  refine ⟨h.sound, h.fresh, ?_⟩
  rw [h.leaks, hiff]

/-! ## The parts that only look -/

/-- The streams stay as they are. -/
def Looks (c c' : Client) : Prop := c'.ownership = c.ownership ∧ (Fresh c → Fresh c')

instance : IsPreorder Client Looks where
  refl _ := ⟨rfl, id⟩
  trans _ _ _ h h' := ⟨h'.1.trans h.1, fun hf => h'.2 (h.2 hf)⟩

theorem looks_blind : Blind Looks :=
  fun _ _ _ habsent => ⟨rfl, fun hf i hi => habsent i (hf i hi)⟩

theorem After.of_looks {c c' : Client} (hs : c.ownership.Sound) (hf : Fresh c)
    (h : Looks c c') : After c False c' := by
  refine ⟨?_, h.2 hf, ?_⟩
  · rwa [h.1]
  · rw [h.1, or_false]

/-! ## Closing -/

theorem stream_close_ends (router : Router) (i : Nat) (c : Client) :
    (stream_close router i c).2.ownership =
        { c.ownership with closed_streams := i :: c.closed_streams } ∧
      (Fresh c → Fresh (stream_close router i c).2) := by
  have hlooks : Moves Looks (next_moment router >>= fun m => raise_some m.stream_close) :=
    (next_moment_moves looks_blind).bind fun m => raise_some_moves m.stream_close
  have hend := hlooks { c with
    closed_streams := i :: c.closed_streams
    channels := fun j => if j = i then .absent else c.channels j }
  refine ⟨hend.1, fun hf => hend.2 ?_⟩
  intro j hj
  by_cases hji : j = i
  · simp [hji]
  · simpa [hji] using hf j hj

theorem next_moment_ends (router : Router) (c : Client) :
    next_moment router c = (.ok (router.moments c.time), (next_moment router c).2) := rfl

theorem session_close_polite {c : Client} (s : Session)
    (h : polite (router.moments c.time) = true) :
    session_close router s c = stream_close router s.stream (next_moment router c).2 := by
  unfold session_close
  rw [bind_ok (next_moment_ends router c)]
  unfold polite at h
  cases hg : (router.moments c.time).goodbye with
  | none => rfl
  | some e =>
    rw [hg] at h
    simp only [if_pos h]

theorem session_close_impolite {c : Client} (s : Session)
    (h : polite (router.moments c.time) = false) :
    (session_close router s c).2 = (next_moment router c).2 := by
  unfold session_close
  rw [bind_ok (next_moment_ends router c)]
  unfold polite at h
  cases hg : (router.moments c.time).goodbye with
  | none =>
    rw [hg] at h
    cases h
  | some e =>
    rw [hg] at h
    simp only [h, Bool.false_eq_true, if_false, raise_run]

/-- The client when it has let go of what it held. -/
def Client.dropped (c : Client) : Client := { c with session := none, stream := none }

theorem close_client_held {c : Client} {s : Session} (h : c.session = some s) :
    close_client router c = session_close router s c.dropped := by
  have hdrop : drop c = (.ok (c.session, c.stream), c.dropped) := rfl
  unfold close_client
  rw [bind_ok hdrop, h]

theorem close_client_bare {c : Client} (hsession : c.session = none) (hstream : c.stream = none) :
    close_client router c = (.ok (), c) := by
  have hdrop : drop c = (.ok (c.session, c.stream), c.dropped) := rfl
  have hsame : c.dropped = c := by
    unfold Client.dropped
    rw [← hsession, ← hstream]
  unfold close_client
  rw [bind_ok hdrop, hsession, hstream, hsame]
  rfl

/-- Letting go keeps the client sound, whatever it closes of what it held. -/
theorem Ownership.Sound.let_go {o : Ownership} (hs : o.Sound) {closed : List Nat}
    (hclosed : ∀ i ∈ closed, i ∈ o.closed_streams ∨ o.stream = some i) :
    Ownership.Sound ⟨none, none, o.created, closed⟩ := by
  refine ⟨rfl, nofun, nofun, nofun, ?_⟩
  intro i hi
  rcases hclosed i hi with h | h
  · exact hs.closed_created i h
  · exact hs.held_created i h

theorem leaks_when_closed {o : Ownership} {i : Nat} (hheld : o.stream = some i) :
    Ownership.Leaks ⟨none, none, o.created, i :: o.closed_streams⟩ ↔ o.Leaks := by
  unfold Ownership.Leaks
  apply exists_congr
  intro j
  rw [hheld]
  simp only [List.mem_cons, not_or, ne_eq, reduceCtorEq, not_false_eq_true, true_and,
    Option.some.injEq, eq_comm]

theorem leaks_when_dropped {o : Ownership} (hs : o.Sound) {i : Nat} (hheld : o.stream = some i) :
    Ownership.Leaks ⟨none, none, o.created, o.closed_streams⟩ :=
  ⟨i, hs.held_created i hheld, nofun, hs.held_open i hheld⟩

theorem close_client_after {c : Client} (hs : c.ownership.Sound) (hf : Fresh c) :
    After c (CloseLoses router c) (close_client router c).2 := by
  have hheld : c.session.map Session.stream = c.stream := hs.session_stream
  cases hsession : c.session with
  | none =>
    have hstream : c.stream = none := by
      rw [← hheld, hsession]
      rfl
    rw [close_client_bare hsession hstream]
    exact (After.of_looks hs hf (refl_of Looks c)).congr (by simp [CloseLoses, hsession])
  | some s =>
    have hstream : c.stream = some s.stream := by
      rw [← hheld, hsession]
      rfl
    have hnext : Looks c.dropped (next_moment router c.dropped).2 := next_moment_moves looks_blind _
    rw [close_client_held hsession]
    cases hp : polite (router.moments c.time) with
    | true =>
      rw [session_close_polite (c := c.dropped) s hp]
      have hend := stream_close_ends router s.stream (next_moment router c.dropped).2
      rw [hnext.1] at hend
      refine ⟨?_, hend.2 (hnext.2 hf), ?_⟩
      · rw [hend.1]
        apply hs.let_go
        intro i hi
        rcases List.mem_cons.mp hi with rfl | hi
        · exact Or.inr hstream
        · exact Or.inl hi
      · rw [hend.1]
        refine (leaks_when_closed (o := c.ownership) hstream).trans ?_
        simp [CloseLoses, hp]
    | false =>
      rw [session_close_impolite (c := c.dropped) s hp]
      refine ⟨?_, hnext.2 hf, ?_⟩
      · rw [hnext.1]
        exact hs.let_go fun i hi => Or.inl hi
      · rw [hnext.1]
        refine iff_of_true (leaks_when_dropped hs hstream) (Or.inr ?_)
        exact ⟨by rw [hsession]; rfl, hp⟩

/-! ## Opening -/

/-- The channel of the held stream is open when the client looks. -/
def Up (router : Router) (c : Client) (i : Nat) : Prop :=
  c.channels i = .opened ∧ (router.moments c.time).channel_closes i = false

theorem stream_connected_ends (i : Nat) (c : Client) :
    stream_connected router i c =
      (.ok (decide ((next_moment router c).2.channels i = .opened)), (next_moment router c).2) :=
  rfl

theorem opened_after_moment (c : Client) (i : Nat) :
    (next_moment router c).2.channels i = .opened ↔ Up router c i := by
  unfold Up
  cases hc : c.channels i <;> cases hm : (router.moments c.time).channel_closes i <;>
    simp [next_moment, hc, hm]

/-- A new stream, from its making to the end of its negotiation. -/
def connect (router : Router) (i : Nat) : ClientM Session :=
  stream_open router i >>= fun _ => session_open router { stream := i, ready := false }

/-- Work on the new stream `i`: only that stream may be closed. -/
structure WorksOn (i : Nat) (c c' : Client) : Prop where
  stream : c'.stream = c.stream
  session : c'.session = c.session
  created : c'.created = c.created
  others : ∀ j, j ≠ i → (j ∈ c'.closed_streams ↔ j ∈ c.closed_streams)
  closed : i ∈ c.closed_streams → i ∈ c'.closed_streams
  fresh : i < c.created → Fresh c → Fresh c'

instance (i : Nat) : IsPreorder Client (WorksOn i) where
  refl _ := ⟨rfl, rfl, rfl, fun _ _ => Iff.rfl, id, fun _ => id⟩
  trans _ _ _ h h' := by
    refine ⟨h'.stream.trans h.stream, h'.session.trans h.session, h'.created.trans h.created,
      fun j hj => (h'.others j hj).trans (h.others j hj), fun hi => h'.closed (h.closed hi), ?_⟩
    intro hi hf
    exact h'.fresh (h.created ▸ hi) (h.fresh hi hf)

theorem worksOn_blind (i : Nat) : Blind (WorksOn i) :=
  fun _ _ _ habsent => ⟨rfl, rfl, rfl, fun _ _ => Iff.rfl, id, fun _ hf j hj => habsent j (hf j hj)⟩

theorem set_channel_works (i : Nat) (channel : Channel) :
    Moves (WorksOn i) (set_channel i channel) := by
  intro c
  refine ⟨rfl, rfl, rfl, fun _ _ => Iff.rfl, id, ?_⟩
  intro hi hf j hj
  have hji : j ≠ i := by
    rintro rfl
    exact absurd hi (Nat.not_lt.mpr hj)
  simpa [set_channel, hji] using hf j hj

theorem stream_close_works (router : Router) (i : Nat) :
    Moves (WorksOn i) (stream_close router i) := by
  intro c
  obtain ⟨hsame, hfresh⟩ := stream_close_ends router i c
  have hclosed : (stream_close router i c).2.closed_streams = i :: c.closed_streams :=
    congrArg Ownership.closed_streams hsame
  refine ⟨congrArg Ownership.stream hsame, congrArg Ownership.session hsame,
    congrArg Ownership.created hsame, ?_, ?_, fun _ => hfresh⟩
  · intro j hj
    rw [hclosed, List.mem_cons]
    exact or_iff_right hj
  · intro _
    rw [hclosed]
    exact List.mem_cons_self

theorem stream_open_works (i : Nat) : Moves (WorksOn i) (stream_open router i) := by
  apply (stream_connected_moves (worksOn_blind i) i).bind
  intro opened
  refine Moves.ite (Moves.pure ()) ?_
  apply (next_moment_moves (worksOn_blind i)).bind
  intro m
  cases m.stream_open with
  | none => exact set_channel_works i .opened
  | some e =>
    refine Moves.ite ?_ (Moves.ite ?_ (Moves.raise e))
    · exact (stream_close_works router i).bind fun _ => Moves.raise e
    · exact (stream_close_works router i).bind fun _ => Moves.raise _

theorem connect_works (router : Router) (i : Nat) : Moves (WorksOn i) (connect router i) :=
  (stream_open_works i).bind fun _ => session_open_moves (worksOn_blind i) _

/-- Both the SSH connection and the session come up. -/
def ComesUp (router : Router) (time : Nat) : Prop :=
  (router.moments (time + 1)).stream_open = none ∧
    (router.moments (time + 2)).session_open = none

/-- The client while it makes the connection of the new stream `i`. -/
def Client.connecting (router : Router) (c : Client) (i : Nat) : Client :=
  (set_channel i .opened (next_moment router (next_moment router c).2).2).2

theorem stream_open_up {c : Client} {i : Nat} (hi : c.channels i = .absent)
    (hup : (router.moments (c.time + 1)).stream_open = none) :
    stream_open router i c = (.ok (), c.connecting router i) := by
  have hdown : ¬ (next_moment router c).2.channels i = .opened := by
    simp [next_moment, hi]
  unfold stream_open
  rw [bind_ok (stream_connected_ends i c)]
  simp only [hdown, decide_false, Bool.false_eq_true, if_false]
  rw [bind_ok (next_moment_ends router _), show (next_moment router c).2.time = c.time + 1 from rfl,
    hup]
  rfl

theorem connect_up {c : Client} {i : Nat} (hi : c.channels i = .absent)
    (hup : ComesUp router c.time) :
    connect router i c =
      (.ok { stream := i, ready := true }, (next_moment router (c.connecting router i)).2) := by
  unfold connect
  rw [bind_ok (stream_open_up hi hup.1)]
  unfold session_open
  simp only [Bool.false_eq_true, if_false]
  rw [bind_ok (next_moment_ends router _),
    show (c.connecting router i).time = c.time + 2 from rfl, hup.2]
  rfl

/-- Whatever the closing does, an error is raised after it. -/
theorem close_and_raise (i : Nat) (e : PyError) (c : Client) :
    ∃ e', ((stream_close router i >>= fun _ => Prog.raise e : ClientM Unit) c).1 = .raised e' := by
  have hprompt : Prompt (stream_close router i) := by
    refine Prompt.bind (fun _ h => by cases h) fun _ => ?_
    refine Prompt.bind (fun _ h => by cases h) fun _ => ?_
    refine Prompt.bind (fun _ h => by cases h) fun m => ?_
    cases m.stream_close with
    | none => exact Prompt.pure ()
    | some e => exact Prompt.raise e
  rcases hrun : stream_close router i c with ⟨r, c'⟩
  cases r with
  | ok _ => exact ⟨e, by rw [bind_ok hrun]; rfl⟩
  | raised e' => exact ⟨e', by rw [bind_raised hrun]⟩
  | waiting => exact absurd (congrArg Prod.fst hrun) (hprompt c)

theorem stream_open_down {c : Client} {i : Nat} {e : PyError} (hi : c.channels i = .absent)
    (hdown : (router.moments (c.time + 1)).stream_open = some e) :
    ∃ e', (stream_open router i c).1 = .raised e' := by
  have hclosed : ¬ (next_moment router c).2.channels i = .opened := by
    simp [next_moment, hi]
  unfold stream_open
  rw [bind_ok (stream_connected_ends i c)]
  simp only [hclosed, decide_false, Bool.false_eq_true, if_false]
  rw [bind_ok (next_moment_ends router _), show (next_moment router c).2.time = c.time + 1 from rfl,
    hdown]
  dsimp only
  split
  · exact close_and_raise i e _
  · split
    · exact close_and_raise i (stream_open_failed e) _
    · exact ⟨e, rfl⟩

theorem connect_down {c : Client} {i : Nat} (hi : c.channels i = .absent)
    (hdown : ¬ ComesUp router c.time) : ∃ e, (connect router i c).1 = .raised e := by
  cases hstream : (router.moments (c.time + 1)).stream_open with
  | some e =>
    obtain ⟨e', he'⟩ := stream_open_down hi hstream
    rcases hrun : stream_open router i c with ⟨r, c'⟩
    rw [hrun] at he'
    cases he'
    refine ⟨e', ?_⟩
    unfold connect
    rw [bind_raised hrun]
  | none =>
    cases hsession : (router.moments (c.time + 2)).session_open with
    | none => exact absurd ⟨hstream, hsession⟩ hdown
    | some e =>
      refine ⟨e, ?_⟩
      unfold connect
      rw [bind_ok (stream_open_up hi hstream)]
      unfold session_open
      simp only [Bool.false_eq_true, if_false]
      rw [bind_ok (next_moment_ends router _),
        show (c.connecting router i).time = c.time + 2 from rfl, hsession]
      rfl

/-- `open`, from where the client has found that it is not connected. -/
def open_anew (router : Router) : ClientM Unit := do
  let i ← new_tmp_ssh_stream
  match ← (connect router i).trying fun _ => true with
  | .error e =>
    stream_close router i
    Prog.raise e
  | .ok s => adopt i s

/-- The client when it has made a stream, and does not hold it yet. -/
def Client.with_stream (c : Client) : Client := { c with created := c.created + 1 }

theorem Client.with_stream_fresh {c : Client} (hf : Fresh c) : Fresh c.with_stream :=
  fun j hj => hf j (Nat.le_of_succ_le hj)

/-- The new stream is held. -/
theorem Ownership.Sound.adopted {o : Ownership} (hs : o.Sound) :
    Ownership.Sound ⟨some o.created, some { stream := o.created, ready := true }, o.created + 1,
      o.closed_streams⟩ := by
  refine ⟨rfl, ?_, ?_, ?_, fun i hi => Nat.lt_succ_of_lt (hs.closed_created i hi)⟩
  · rintro s hs'
    cases hs'
    rfl
  · rintro i hi
    cases hi
    exact Nat.lt_succ_self _
  · rintro i hi hclosed
    cases hi
    exact absurd (hs.closed_created _ hclosed) (Nat.lt_irrefl _)

theorem leaks_when_adopted {o : Ownership} (hs : o.Sound) (s : Option Session) :
    Ownership.Leaks ⟨some o.created, s, o.created + 1, o.closed_streams⟩ ↔
      o.Leaks ∨ o.stream.isSome = true := by
  constructor
  · rintro ⟨i, hi, hother, hopen⟩
    have hlt : i < o.created := by
      have hne : i ≠ o.created := fun h => hother (by rw [h])
      exact Nat.lt_of_le_of_ne (Nat.le_of_lt_succ hi) hne
    cases hstream : o.stream with
    | none => exact Or.inl ⟨i, hlt, by simp [hstream], hopen⟩
    | some k => exact Or.inr rfl
  · rintro (⟨i, hi, -, hopen⟩ | hheld)
    · refine ⟨i, Nat.lt_succ_of_lt hi, ?_, hopen⟩
      rintro h
      cases h
      exact absurd hi (Nat.lt_irrefl _)
    · obtain ⟨i, hi⟩ := Option.isSome_iff_exists.mp hheld
      have hlt := hs.held_created i hi
      refine ⟨i, Nat.lt_succ_of_lt hlt, ?_, hs.held_open i hi⟩
      rintro h
      cases h
      exact absurd hlt (Nat.lt_irrefl _)

/-- The new stream is closed, and the held one stays. -/
theorem after_giving_up {c c' : Client} (hs : c.ownership.Sound) (hf : Fresh c)
    (hw : WorksOn c.created c.with_stream c') (hclosed : c.created ∈ c'.closed_streams) :
    After c False c' := by
  have hmem : ∀ j, j < c.created → (j ∈ c'.closed_streams ↔ j ∈ c.closed_streams) := fun j hj =>
    hw.others j (Nat.ne_of_lt hj)
  refine ⟨?_, hw.fresh (Nat.lt_succ_self _) (Client.with_stream_fresh hf), ?_⟩
  · refine ⟨?_, ?_, ?_, ?_, ?_⟩
    · show c'.session.map Session.stream = c'.stream
      rw [hw.session, hw.stream]
      exact hs.session_stream
    · show ∀ s, c'.session = some s → s.ready = true
      rw [hw.session]
      exact hs.session_ready
    · show ∀ i, c'.stream = some i → i < c'.created
      rw [hw.stream, hw.created]
      exact fun i hi => Nat.lt_succ_of_lt (hs.held_created i hi)
    · show ∀ i, c'.stream = some i → i ∉ c'.closed_streams
      rw [hw.stream]
      intro i hi
      rw [hmem i (hs.held_created i hi)]
      exact hs.held_open i hi
    · intro i hi
      show i < c'.created
      rw [hw.created]
      by_cases hne : i = c.created
      · exact hne ▸ Nat.lt_succ_self _
      · exact Nat.lt_succ_of_lt (hs.closed_created i ((hw.others i hne).mp hi))
  · rw [or_false]
    show (∃ i, i < c'.created ∧ c'.stream ≠ some i ∧ i ∉ c'.closed_streams) ↔
      ∃ i, i < c.created ∧ c.stream ≠ some i ∧ i ∉ c.closed_streams
    apply exists_congr
    intro i
    rw [hw.stream, hw.created, show c.with_stream.created = c.created + 1 from rfl]
    by_cases hlt : i < c.created
    · simp [hmem i hlt, hlt, Nat.lt_succ_of_lt hlt]
      intro _
      rfl
    · constructor
      · rintro ⟨hle, -, hopen⟩
        have heq : i = c.created := by omega
        exact absurd (heq ▸ hclosed) hopen
      · exact fun h => absurd h.1 hlt

/-- A new stream that comes up takes the place of the held one. -/
theorem open_anew_after (router : Router) {c : Client} (hs : c.ownership.Sound) (hf : Fresh c) :
    After c (c.stream.isSome = true ∧ ComesUp router c.time) (open_anew router c).2 := by
  have hnew : new_tmp_ssh_stream c = (.ok c.created, c.with_stream) := rfl
  have habsent : c.with_stream.channels c.created = .absent := hf _ (Nat.le_refl _)
  have hworks := connect_works router c.created c.with_stream
  unfold open_anew
  rw [bind_ok hnew]
  by_cases hup : ComesUp router c.time
  · have hrun := connect_up habsent hup
    rw [hrun] at hworks
    rw [bind_ok (trying_ok hrun)]
    refine ⟨hs.adopted, hworks.fresh (Nat.lt_succ_self _) (Client.with_stream_fresh hf), ?_⟩
    refine (leaks_when_adopted hs _).trans ?_
    rw [and_iff_left hup]
    rfl
  · obtain ⟨e, he⟩ := connect_down habsent hup
    rcases hrun : connect router c.created c.with_stream with ⟨r, lost⟩
    rw [hrun] at he hworks
    cases he
    rw [bind_ok (trying_caught hrun rfl)]
    have hclose := stream_close_ends router c.created lost
    have hgone : (stream_close router c.created lost).2.closed_streams =
        c.created :: lost.closed_streams := congrArg Ownership.closed_streams hclose.1
    have hfinal := trans_of (WorksOn c.created) hworks
      (stream_close_works router c.created lost)
    refine (after_giving_up hs hf ?_ ?_).congr (iff_of_false id fun h => hup h.2)
    · exact (raise_after_state (stream_close router c.created) e lost).symm ▸ hfinal
    · refine (raise_after_state (stream_close router c.created) e lost).symm ▸ ?_
      rw [hgone]
      exact List.mem_cons_self

theorem open_client_eq (router : Router) :
    open_client router = connected router >>= fun ready =>
      if ready then pure () else open_anew router := rfl

theorem connected_held {c : Client} (hs : c.ownership.Sound) {i : Nat}
    (hstream : c.stream = some i) :
    connected router c =
      (.ok (decide ((next_moment router c).2.channels i = .opened)), (next_moment router c).2) := by
  have hready : session_ready c.session = true := by
    have hheld : c.session.map Session.stream = c.stream := hs.session_stream
    cases hsession : c.session with
    | none =>
      rw [hsession, hstream] at hheld
      cases hheld
    | some s => exact hs.session_ready s hsession
  unfold connected
  rw [hstream]
  dsimp only
  rw [bind_ok (stream_connected_ends i c), hready, Bool.and_true]
  rfl

theorem open_client_after {c : Client} (hs : c.ownership.Sound) (hf : Fresh c) :
    After c (OpenLoses router c) (open_client router c).2 := by
  rw [open_client_eq]
  cases hstream : c.stream with
  | none =>
    have hdown : connected router c = (.ok false, c) := by
      unfold connected
      rw [hstream]
    rw [bind_ok hdown]
    exact (open_anew_after router hs hf).congr (by simp [OpenLoses, hstream])
  | some i =>
    have hlooks : Looks c (next_moment router c).2 := next_moment_moves looks_blind c
    rw [bind_ok (connected_held hs hstream)]
    by_cases hup : (next_moment router c).2.channels i = .opened
    · simp only [hup, decide_true, if_true]
      have hnot : ¬ OpenLoses router c := by
        rintro ⟨j, hj, hdown, -⟩
        rw [hstream] at hj
        cases hj
        exact hdown ((opened_after_moment c i).mp hup)
      exact (After.of_looks hs hf hlooks).congr (iff_of_false id hnot)
    · simp only [hup, decide_false, Bool.false_eq_true, if_false]
      have hs' : (next_moment router c).2.ownership.Sound := by
        rw [hlooks.1]
        exact hs
      have hafter := (After.of_looks hs hf hlooks).trans (open_anew_after router hs' (hlooks.2 hf))
      refine hafter.congr ?_
      rw [false_or]
      constructor
      · rintro ⟨-, hcomes⟩
        exact ⟨i, hstream, fun h => hup ((opened_after_moment c i).mpr h), hcomes⟩
      · rintro ⟨j, hj, -, hcomes⟩
        exact ⟨by rw [show (next_moment router c).2.stream = c.stream from rfl, hj]; rfl, hcomes⟩

/-! ## The attempts of a request -/

theorem stream_close_keeps_stream (i : Nat) : Keeps Client.stream (stream_close router i) :=
  fun c => congrArg Ownership.stream (stream_close_ends router i c).1

theorem session_close_keeps_stream (s : Session) :
    Keeps Client.stream (session_close router s) := by
  refine Keeps.bind (fun _ => rfl) fun m => ?_
  cases m.goodbye with
  | none => exact stream_close_keeps_stream s.stream
  | some e => exact Keeps.ite (stream_close_keeps_stream s.stream) (Keeps.raise e)

/-- A client that closes holds nothing any more, even when the closing fails. -/
theorem close_client_drops (router : Router) (c : Client) :
    (close_client router c).2.stream = none := by
  have hdrop : drop c = (.ok (c.session, c.stream), c.dropped) := rfl
  unfold close_client
  rw [bind_ok hdrop]
  cases c.session with
  | some s => exact session_close_keeps_stream s c.dropped
  | none =>
    cases c.stream with
    | some i => exact stream_close_keeps_stream i c.dropped
    | none => rfl

/-- After a closing there is no stream to lose in the opening. -/
theorem reopen_after {closed opened : Client} {r : Outcome PyError Unit}
    (hs : closed.ownership.Sound) (hf : Fresh closed) (hnone : closed.stream = none)
    (hopen : open_client router closed = (r, opened)) : After closed False opened := by
  have hafter : After closed (OpenLoses router closed) (open_client router closed).2 :=
    open_client_after hs hf
  rw [hopen] at hafter
  refine hafter.congr (iff_of_false ?_ id)
  rintro ⟨i, hi, -⟩
  rw [hnone] at hi
  cases hi

/-- What `AttemptsLose` says of a connection failure: the closing, and then the attempts. -/
theorem reconnect_after {α : Type} {request : Session → ClientM α} {left : Nat} (e : PyError)
    (ih : ∀ c : Client, c.ownership.Sound → Fresh c →
      After c (AttemptsLose router request left c) (request_attempts router request left c).2)
    {lost : Client} (hs : lost.ownership.Sound) (hf : Fresh lost) :
    After lost
      (CloseLoses router lost ∨ ∃ closed opened, left ≠ 0 ∧
        close_client router lost = (.ok (), closed) ∧
        open_client router closed = (.ok (), opened) ∧ AttemptsLose router request left opened)
      ((close_client router >>= fun _ =>
        if left = 0 then Prog.raise e
        else open_client router >>= fun _ => request_attempts router request left) lost).2 := by
  rcases hclose : close_client router lost with ⟨r, closed⟩
  have hclosed : After lost (CloseLoses router lost) (close_client router lost).2 :=
    close_client_after hs hf
  have hnone := close_client_drops router lost
  rw [hclose] at hclosed hnone
  cases r with
  | raised e' =>
    rw [bind_raised hclose]
    exact hclosed.congr (by simp)
  | waiting =>
    rw [bind_waiting hclose]
    exact hclosed.congr (by simp)
  | ok _ =>
    rw [bind_ok hclose]
    by_cases hleft : left = 0
    · simp only [hleft, if_true]
      exact hclosed.congr (by simp)
    · simp only [hleft, if_false]
      rcases hopen : open_client router closed with ⟨r', opened⟩
      have hopened := hclosed.trans (reopen_after hclosed.sound hclosed.fresh hnone hopen)
      cases r' with
      | raised e' =>
        rw [bind_raised hopen]
        exact hopened.congr (by simp [hopen])
      | waiting =>
        rw [bind_waiting hopen]
        exact hopened.congr (by simp [hopen])
      | ok _ =>
        rw [bind_ok hopen]
        refine (hopened.trans (ih opened hopened.sound hopened.fresh)).congr ?_
        simp [hopen, hleft]

theorem request_attempts_after {α : Type} {request : Session → ClientM α}
    (hr : ∀ s, Moves Looks (request s)) (left : Nat) {c : Client} (hs : c.ownership.Sound)
    (hf : Fresh c) :
    After c (AttemptsLose router request left c) (request_attempts router request left c).2 := by
  induction left generalizing c with
  | zero => exact After.of_looks hs hf (refl_of Looks c)
  | succ left ih =>
    have hfirst : Moves Looks (require_session router >>= request) :=
      (require_session_moves looks_blind).bind hr
    rcases hrun : (require_session router >>= request) c with ⟨r, lost⟩
    have hlost := After.of_looks hs hf (hfirst.of_run hrun)
    cases r with
    | ok a =>
      have hend : request_attempts router request (left + 1) c = (.ok a, lost) := by
        unfold request_attempts
        rw [bind_ok (trying_ok hrun)]
        rfl
      rw [hend]
      exact hlost.congr (by simp [AttemptsLose, hrun])
    | waiting =>
      have hend : request_attempts router request (left + 1) c = (.waiting, lost) := by
        unfold request_attempts
        apply bind_waiting
        unfold trying
        rw [hrun]
      rw [hend]
      exact hlost.congr (by simp [AttemptsLose, hrun])
    | raised e =>
      cases he : loses_connection e with
      | false =>
        rw [attempt_escapes left hrun he]
        exact hlost.congr (by simp [AttemptsLose, hrun, he])
      | true =>
        rw [attempt_reconnects left hrun he]
        refine (hlost.trans (reconnect_after e (fun c => ih) hlost.sound hlost.fresh)).congr ?_
        rw [AttemptsLose]
        simp [hrun, he]

/-! ## The streams of every run -/

theorem perform_after (router : Router) (op : Op) {c : Client} (hs : c.ownership.Sound)
    (hf : Fresh c) : After c (OpLoses router c op) (perform router op c).2 := by
  cases op with
  | open_client => exact open_client_after hs hf
  | close_client => exact close_client_after hs hf
  | request_read opcode =>
    unfold perform
    rw [pure_after_state]
    exact request_attempts_after (fun s => session_request_read_moves looks_blind s opcode) 2 hs hf
  | request_read_json opcode =>
    unfold perform
    rw [pure_after_state]
    exact request_attempts_after (fun s => session_request_read_json_moves looks_blind s opcode) 2
      hs hf
  | request_mutation_json opcode params =>
    have hsends : Moves Looks (require_session router >>= fun s =>
        session_request_mutation_json router s opcode) :=
      (require_session_moves looks_blind).bind fun s =>
        session_request_mutation_json_moves looks_blind s opcode
    unfold perform
    rw [pure_after_state]
    exact After.of_looks hs hf (hsends _)

theorem run_after (router : Router) (ops : List Op) {c : Client} (hs : c.ownership.Sound)
    (hf : Fresh c) : After c (¬ Tidy router ops c) (run router ops c) := by
  induction ops generalizing c with
  | nil => exact (After.of_looks hs hf (refl_of Looks c)).congr (by simp [Tidy])
  | cons op ops ih =>
    have hfirst := perform_after router op hs hf
    refine (hfirst.trans (ih hfirst.sound hfirst.fresh)).congr ?_
    rw [Tidy, not_and_or, not_not]

/-- Every stream but the held one has been closed, exactly in the runs in which no call lost
one where it was made. -/
theorem no_stream_leaks_exactly_when_tidy (router : Router) (ops : List Op) :
    (∀ i, ¬ Leaked (run router ops {}) i) ↔ Tidy router ops {} := by
  have hsound : (Client.ownership {}).Sound := ⟨rfl, nofun, nofun, nofun, nofun⟩
  have hafter := run_after router ops hsound fun _ _ => rfl
  have hnone : ¬ (Client.ownership {}).Leaks := by
    rintro ⟨i, hi, -⟩
    cases hi
  have hleaks : (∃ i, Leaked (run router ops {}) i) ↔ ¬ Tidy router ops {} := by
    refine hafter.leaks.trans ?_
    rw [or_iff_right hnone]
  rw [← not_exists, hleaks, not_not]

/-! ## A channel that is closed between two calls -/

/-- The remote end closes the channel before the second opening. -/
def hanging_up : Router := {
  moments := fun time => if time = 3 then { channel_closes := fun _ => true } else {}
  get_tmp_opcode := fun _ => none }

/-- The second opening takes the place of the first stream, which stays open. -/
theorem a_stream_closed_by_the_router_leaks :
    Leaked (run hanging_up [.open_client, .open_client] {}) 0 ∧
      (run hanging_up [.open_client, .open_client] {}).stream = some 1 := by
  refine ⟨⟨?_, ?_, ?_⟩, ?_⟩ <;> decide +kernel

end tplink_deco_api.tmp_client
