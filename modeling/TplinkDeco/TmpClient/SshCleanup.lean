-- What a stream leaves behind where the network and its library raise only the errors that they
-- are known for, and closing goes through. Each socket and each transport is closed or still held,
-- and the password goes only to a connection that has shown the pinned key.
import TplinkDeco.TmpClient.SshSafety

open prog refinement

namespace tplink_deco_api.tmp_ssh_stream

open exceptions tmp_ssh_config Prog

/-! ## The errors of the network -/

/-- The errors of the network and of the SSH library. -/
def of_network (e : PyError) : Bool := e.isinstance [.OSError, .SSHException]

section

variable {ρ : Type}

/-- A call that fails with an error of the network only. -/
def Fails {α : Type} (call : ρ → Except PyError α × ρ) : Prop :=
  ∀ w e, (call w).1 = .error e → of_network e = true

/-- A peer whose calls fail with these errors only, and whose close does not fail. -/
structure Peer.Orderly (peer : Peer ρ) : Prop where
  create_connection : ∀ host port, Fails (peer.create_connection host port)
  transport : ∀ t, Fails (peer.transport t)
  start_client : ∀ t kex, Fails (peer.start_client t kex)
  get_remote_server_key : ∀ t, Fails (peer.get_remote_server_key t)
  auth_password : ∀ t username password w e,
    ((peer.auth_password t username password w).1 = .failed e ∨
      ∃ allowed_types, (peer.auth_password t username password w).1 = .bad_type e allowed_types) →
    of_network e = true
  auth_interactive : ∀ t username handler, Fails (peer.auth_interactive t username handler)
  open_channel : ∀ t host port, Fails (peer.open_channel t host port)
  settimeout : ∀ c, Fails (peer.settimeout c)
  close_channel : ∀ c w, (peer.close_channel c w).1 = .ok ()
  close_transport : ∀ t w, (peer.close_transport t w).1 = .ok ()
  close_socket : ∀ t w, (peer.close_socket t w).1 = .ok ()

/-! ## What is held -/

/-- What a stream has let go of, and what it has sent its password for. -/
structure Tidy (s : TmpSshStream ρ) : Prop where
  sockets : ∀ t, .connected t ∈ s.log → .closed_socket t ∈ s.log ∨ s.socket = some t
  transports : ∀ t, .started t ∈ s.log → .closed_transport t ∈ s.log ∨ s.transport = some t
  password : ∀ t name password, .password t name password ∈ s.log → ∃ key, .key t key ∈ s.log

/-- Nothing is held. -/
def Shut (s : TmpSshStream ρ) : Prop :=
  s.socket = none ∧ s.transport = none ∧ s.channel = none

/-- The transport is that of the socket, and its key was seen. -/
def Ready (s : TmpSshStream ρ) : Prop :=
  ∃ t key, s.socket = some t ∧ s.transport = some t ∧ .key t key ∈ s.log

/-- Between two calls all is shut, or all is there. -/
def Whole (s : TmpSshStream ρ) : Prop := Shut s ∨ Ready s ∧ s.channel.isSome

theorem Tidy.note {s : TmpSshStream ρ} (h : Tidy s) (event : Event)
    (hconnected : ∀ t, event = .connected t → s.socket = some t)
    (hstarted : ∀ t, event = .started t → s.transport = some t)
    (hpassword : ∀ t name password, event = .password t name password →
      ∃ key, .key t key ∈ s.log) :
    Tidy { s with log := event :: s.log } where
  sockets t ht := by
    rcases List.mem_cons.mp ht with heq | hmem
    · exact Or.inr (hconnected t heq.symm)
    · exact (h.sockets t hmem).imp (List.mem_cons_of_mem _) id
  transports t ht := by
    rcases List.mem_cons.mp ht with heq | hmem
    · exact Or.inr (hstarted t heq.symm)
    · exact (h.transports t hmem).imp (List.mem_cons_of_mem _) id
  password t name password ht := by
    rcases List.mem_cons.mp ht with heq | hmem
    · obtain ⟨key, hkey⟩ := hpassword t name password heq.symm
      exact ⟨key, List.mem_cons_of_mem _ hkey⟩
    · obtain ⟨key, hkey⟩ := h.password t name password hmem
      exact ⟨key, List.mem_cons_of_mem _ hkey⟩

theorem Ready.note {s : TmpSshStream ρ} (h : Ready s) (event : Event) :
    Ready { s with log := event :: s.log } := by
  obtain ⟨t, key, hsocket, htransport, hkey⟩ := h
  exact ⟨t, key, hsocket, htransport, List.mem_cons_of_mem _ hkey⟩

/-! ## Closing -/

variable {peer : Peer ρ} {config : TmpSshConfig} {username : String}

/-- The log after a part was closed, if there was one. -/
def closing (held : Option Nat) (event : Nat → Event) (log : List Event) : List Event :=
  match held with
  | none => log
  | some i => event i :: log

theorem mem_closing {event : Event} {log : List Event} (h : event ∈ log) (held : Option Nat)
    (closed : Nat → Event) : event ∈ closing held closed log := by
  cases held with
  | none => exact h
  | some i => exact List.mem_cons_of_mem _ h

/-- Closing a part adds nothing else. -/
theorem mem_of_mem_closing {event : Event} {log : List Event} {held : Option Nat}
    {closed : Nat → Event} (h : event ∈ closing held closed log) (hne : ∀ i, event ≠ closed i) :
    event ∈ log := by
  cases held with
  | none => exact h
  | some i => exact (List.mem_cons.mp h).resolve_left (hne i)

theorem close_some_run (held : Option Nat) (call : Nat → ρ → Except PyError Unit × ρ)
    (hcall : ∀ i w, (call i w).1 = .ok ()) (event : Nat → Event) (s : TmpSshStream ρ) :
    ∃ p, close_some held call event s =
      (.ok (), { s with peer := p, log := closing held event s.log }) := by
  unfold close_some
  cases held with
  | none => exact ⟨s.peer, rfl⟩
  | some i =>
    have hattempt : attempt (call i) s = (.ok (), { s with peer := (call i s.peer).2 }) := by
      show (Prog.lift (call i s.peer).1 : SshM ρ Unit) _ = _
      rw [hcall]
      rfl
    refine ⟨(call i s.peer).2, ?_⟩
    show (do
      attempt (call i)
      note (event i) : SshM ρ Unit) s = _
    rw [bind_ok hattempt]
    rfl

/-- The log after everything was closed. -/
def closing_all (s : TmpSshStream ρ) : List Event :=
  closing s.socket .closed_socket (closing s.transport .closed_transport
    (closing s.channel .closed_channel s.log))

theorem mem_closing_all {s : TmpSshStream ρ} {event : Event} (h : event ∈ s.log) :
    event ∈ closing_all s := mem_closing (mem_closing (mem_closing h _ _) _ _) _ _

theorem mem_of_mem_closing_all {s : TmpSshStream ρ} {event : Event} (h : event ∈ closing_all s)
    (hchannel : ∀ i, event ≠ .closed_channel i) (htransport : ∀ i, event ≠ .closed_transport i)
    (hsocket : ∀ i, event ≠ .closed_socket i) : event ∈ s.log :=
  mem_of_mem_closing (mem_of_mem_closing (mem_of_mem_closing h hsocket) htransport) hchannel

theorem close_run (hpeer : peer.Orderly) {s : TmpSshStream ρ} (h : Tidy s) :
    ∃ s', close peer s = (.ok (), s') ∧ Tidy s' ∧ Shut s' := by
  have hdrop : (drop : SshM ρ _) s = (.ok (s.channel, s.transport, s.socket),
      { s with channel := none, transport := none, socket := none }) := rfl
  obtain ⟨p₁, h₁⟩ := close_some_run s.channel peer.close_channel hpeer.close_channel
    .closed_channel { s with channel := none, transport := none, socket := none }
  obtain ⟨p₂, h₂⟩ := close_some_run s.transport peer.close_transport hpeer.close_transport
    .closed_transport _
  obtain ⟨p₃, h₃⟩ := close_some_run s.socket peer.close_socket hpeer.close_socket
    .closed_socket _
  have hrun : close peer s = (.ok (), { s with
      channel := none
      transport := none
      socket := none
      peer := p₃
      log := closing_all s }) := by
    unfold close
    rw [bind_ok hdrop]
    dsimp only
    rw [bind_ok h₁, bind_ok h₂]
    exact h₃
  refine ⟨_, hrun, ⟨?_, ?_, ?_⟩, rfl, rfl, rfl⟩
  · intro t ht
    have hmem := mem_of_mem_closing_all ht nofun nofun nofun
    rcases h.sockets t hmem with hclosed | hheld
    · exact Or.inl (mem_closing_all hclosed)
    · left
      show _ ∈ closing s.socket _ _
      rw [hheld]
      exact List.mem_cons_self
  · intro t ht
    have hmem := mem_of_mem_closing_all ht nofun nofun nofun
    rcases h.transports t hmem with hclosed | hheld
    · exact Or.inl (mem_closing_all hclosed)
    · left
      have hstep : .closed_transport t ∈ closing s.transport .closed_transport
          (closing s.channel .closed_channel s.log) := by
        rw [hheld]
        exact List.mem_cons_self
      exact mem_closing hstep _ _
  · intro t name password ht
    obtain ⟨key, hkey⟩ := h.password t name password
      (mem_of_mem_closing_all ht nofun nofun nofun)
    exact ⟨key, mem_closing_all hkey⟩

/-! ## Opening -/

theorem attempt_settling {α : Type} {call : ρ → Except PyError α × ρ} (h : Fails call)
    {catches : PyError → Bool} (hcatches : ∀ e, of_network e = true → catches e = true) :
    Settling catches (attempt call) := by
  intro s
  show Settles catches ((Prog.lift (call s.peer).1 : SshM ρ α) _).1
  cases hanswer : (call s.peer).1 with
  | ok a => trivial
  | error e => exact hcatches e (h _ e hanswer)

theorem negotiate_settling (config : TmpSshConfig) (hpeer : peer.Orderly) :
    Settling of_network (negotiate peer config) := by
  have hsocket : Settling of_network (set_socket : SshM ρ Nat) := fun _ => trivial
  have htransport : ∀ t, Settling of_network (set_transport t : SshM ρ Unit) :=
    fun _ _ => trivial
  unfold negotiate
  apply (attempt_settling (hpeer.create_connection _ _) fun _ h => h).bind
  intro _
  apply hsocket.bind
  intro t
  apply (attempt_settling (hpeer.transport t) fun _ h => h).bind
  intro existing
  apply (htransport t).bind
  intro _
  apply (attempt_settling (hpeer.start_client t _) fun _ h => h).bind
  intro _
  apply (attempt_settling (hpeer.get_remote_server_key t) fun _ h => h).bind
  exact fun key _ => trivial

theorem Tidy.with_peer {s : TmpSshStream ρ} (h : Tidy s) (p : ρ) : Tidy { s with peer := p } :=
  ⟨h.sockets, h.transports, h.password⟩

theorem set_socket_tidy {s : TmpSshStream ρ} (h : Tidy s) (hshut : Shut s) :
    (set_socket : SshM ρ Nat).Upholds Tidy s
      fun t s' => s'.socket = some t ∧ s'.transport = none := by
  have hfresh : Tidy { s with
      socket := some s.connections, connections := s.connections + 1 } := by
    refine ⟨?_, h.transports, h.password⟩
    intro t ht
    rcases h.sockets t ht with hclosed | hheld
    · exact Or.inl hclosed
    · cases hshut.1.symm.trans hheld
  have hnote := hfresh.note (.connected s.connections) (fun t ht => by cases ht; rfl) nofun nofun
  refine ⟨hnote, ?_⟩
  intro t ht
  obtain rfl := Outcome.ok.inj ht
  exact ⟨rfl, hshut.2.1⟩

theorem set_transport_tidy {s : TmpSshStream ρ} (h : Tidy s) {t : Nat}
    (hsocket : s.socket = some t) (htransport : s.transport = none) :
    (set_transport t).Upholds Tidy s
      fun _ s' => s'.socket = some t ∧ s'.transport = some t := by
  have hfresh : Tidy { s with transport := some t } := by
    refine ⟨h.sockets, ?_, h.password⟩
    intro t' ht'
    rcases h.transports t' ht' with hclosed | hheld
    · exact Or.inl hclosed
    · cases htransport.symm.trans hheld
  have hnote := hfresh.note (.started t) nofun (fun t' ht' => by cases ht'; rfl) nofun
  exact ⟨hnote, fun _ _ => ⟨hsocket, rfl⟩⟩

theorem negotiate_tidy (peer : Peer ρ) (config : TmpSshConfig) {s : TmpSshStream ρ}
    (h : Tidy s) (hshut : Shut s) :
    (negotiate peer config).Upholds Tidy s fun _ s' => Ready s' := by
  unfold negotiate
  apply (attempt_upholds h.with_peer _).bind
  rintro _ _ h₁ ⟨p₁, rfl⟩
  apply (set_socket_tidy h₁ hshut).bind
  rintro t s₂ h₂ ⟨hsocket₂, htransport₂⟩
  apply (attempt_upholds h₂.with_peer _).bind
  rintro existing _ h₃ ⟨p₃, rfl⟩
  apply (set_transport_tidy h₃ hsocket₂ htransport₂).bind
  rintro _ s₄ h₄ ⟨hsocket₄, htransport₄⟩
  apply (attempt_upholds h₄.with_peer _).bind
  rintro _ _ h₅ ⟨p₅, rfl⟩
  apply (attempt_upholds h₅.with_peer _).bind
  rintro key _ h₆ ⟨p₆, rfl⟩
  have hnote := h₆.note (.key t key) nofun nofun nofun
  exact ⟨⟨hnote.sockets, hnote.transports, hnote.password⟩,
    fun _ _ => ⟨t, key, hsocket₄, htransport₄, List.mem_cons_self⟩⟩

/-- The errors that `open` turns into an error of the package. -/
def caught (e : PyError) : Bool := e.isinstance [.TransportError, .OSError, .SSHException]

/-- How a call may leave the stream: with what `open` needs, or shut after an error. -/
def Started (r : Outcome PyError Unit) (s : TmpSshStream ρ) : Prop :=
  Tidy s ∧ match r with
    | .ok _ => Ready s
    | .raised e => e.cls = .TransportError ∧ Shut s
    | .waiting => False

theorem start_client_spec (config : TmpSshConfig) (hpeer : peer.Orderly) {s : TmpSshStream ρ}
    (h : Tidy s) (hwhole : Whole s) : (start_client peer config).Ends s Started := by
  unfold start_client
  rcases hwhole with hshut | ⟨hready, -⟩
  · have hasked : (has_transport : SshM ρ Bool) s = (.ok false, s) := by
      unfold has_transport
      rw [hshut.2.1]
      rfl
    unfold Ends
    rw [bind_ok hasked]
    show ((negotiate peer config).trying of_network >>= _ : SshM ρ Unit).Ends s Started
    obtain ⟨htidy, hready⟩ := negotiate_tidy peer config h hshut
    have hsettles := negotiate_settling config hpeer s
    rcases hrun : negotiate peer config s with ⟨r, s₁⟩
    rw [hrun] at htidy hready hsettles
    unfold Ends
    cases r with
    | ok _ =>
      rw [bind_ok (trying_ok hrun)]
      exact ⟨htidy, hready () rfl⟩
    | raised e =>
      obtain ⟨s₂, hclose, htidy₂, hshut₂⟩ := close_run hpeer htidy
      rw [bind_ok (trying_caught hrun hsettles)]
      dsimp only
      rw [bind_ok hclose]
      exact ⟨htidy₂, rfl, hshut₂⟩
    | waiting => exact absurd hsettles id
  · have hasked : (has_transport : SshM ρ Bool) s = (.ok true, s) := by
      obtain ⟨t, -, -, htransport, -⟩ := hready
      unfold has_transport
      rw [htransport]
      rfl
    unfold Ends
    rw [bind_ok hasked]
    exact ⟨h, hready⟩

/-! ## The part after the negotiation -/

/-- `open` from the check of the host key on. -/
def tunnel_started (peer : Peer ρ) (config : TmpSshConfig) (username : String) :
    SshM ρ Unit := do
  check_host_key config
  let t ← require_transport
  authenticate peer config username t
  if ¬ (← ask (peer.is_authenticated t)) then
    Prog.raise (transport_error "Failed to open TMP SSH: authentication failed")
  else do
    note (.authenticated t)
    attempt (peer.open_channel t config.destination_host config.destination_port)
    let c ← new_channel t
    attempt (peer.settimeout c)
    set_channel c

theorem caught_of_network (e : PyError) (h : of_network e = true) : caught e = true := by
  unfold caught PyError.isinstance
  unfold of_network PyError.isinstance at h
  rw [List.any_eq_true] at h ⊢
  obtain ⟨cls, hcls, hmem⟩ := h
  exact ⟨cls, hcls, decide_eq_true (List.mem_cons_of_mem _ (of_decide_eq_true hmem))⟩

theorem authenticate_settling (hpeer : peer.Orderly) (t : Nat) :
    Settling caught (authenticate peer config username t) := by
  have hnoted : Settling caught (note (.password t username config.password) : SshM ρ Unit) :=
    fun _ => trivial
  unfold authenticate
  apply hnoted.bind
  intro _ s
  have hask : ask (peer.auth_password t username config.password) s =
      (.ok (peer.auth_password t username config.password s.peer).1,
        { s with peer := (peer.auth_password t username config.password s.peer).2 }) := rfl
  have hfails := hpeer.auth_password t username config.password s.peer
  rw [bind_ok hask]
  cases hanswer : (peer.auth_password t username config.password s.peer).1 with
  | accepted => trivial
  | failed e => exact caught_of_network e (hfails e (Or.inl hanswer))
  | bad_type e allowed_types =>
    have hcaught := caught_of_network e (hfails e (Or.inr ⟨allowed_types, hanswer⟩))
    exact Settling.ite (Settling.raise hcaught)
      (attempt_settling (hpeer.auth_interactive t username _) caught_of_network) _

theorem tunnel_started_settling (config : TmpSshConfig) (username : String)
    (hpeer : peer.Orderly) :
    Settling caught (tunnel_started peer config username) := by
  have hraise : ∀ {α : Type} (message : String),
      Settling caught (Prog.raise (transport_error message) : SshM ρ α) :=
    fun _ => Settling.raise rfl
  have hchecked : Settling caught (check_host_key config : SshM ρ Unit) := by
    have hread : Settling caught (get_host_key : SshM ρ String) := fun _ => trivial
    unfold check_host_key
    apply hread.bind
    intro _
    exact Settling.ite (Settling.pure ()) (Settling.ite (hraise _) (Settling.ite (hraise _)
      (Settling.pure ())))
  have hrequired : Settling caught (require_transport : SshM ρ Nat) := by
    intro s
    unfold require_transport
    cases s.transport with
    | none => exact hraise _ s
    | some t => trivial
  have hasked : ∀ t, Settling caught (ask (peer.is_authenticated t) : SshM ρ Bool) :=
    fun _ _ => trivial
  have hnoted : ∀ event, Settling caught (note event : SshM ρ Unit) := fun _ _ => trivial
  have hmade : ∀ t, Settling caught (new_channel t : SshM ρ Nat) := fun _ _ => trivial
  have hset : ∀ c, Settling caught (set_channel c : SshM ρ Unit) := fun _ _ => trivial
  unfold tunnel_started
  apply hchecked.bind
  intro _
  apply hrequired.bind
  intro t
  apply (authenticate_settling hpeer t).bind
  intro _
  apply (hasked t).bind
  intro authenticated
  apply Settling.ite (hraise _)
  apply (hnoted _).bind
  intro _
  apply (attempt_settling (hpeer.open_channel t _ _) caught_of_network).bind
  intro _
  apply (hmade t).bind
  intro c
  apply (attempt_settling (hpeer.settimeout c) caught_of_network).bind
  exact fun _ => hset c

/-- Tidy, with a transport whose key was seen. -/
def Standing (s : TmpSshStream ρ) : Prop := Tidy s ∧ Ready s

theorem Standing.with_peer {s : TmpSshStream ρ} (h : Standing s) (p : ρ) :
    Standing { s with peer := p } := ⟨h.1.with_peer p, h.2⟩

theorem Standing.note {s : TmpSshStream ρ} (h : Standing s) (event : Event)
    (hconnected : ∀ t, event = .connected t → s.socket = some t)
    (hstarted : ∀ t, event = .started t → s.transport = some t)
    (hpassword : ∀ t name password, event = .password t name password →
      ∃ key, .key t key ∈ s.log) :
    Standing { s with log := event :: s.log } :=
  ⟨h.1.note event hconnected hstarted hpassword, h.2.note event⟩

theorem authenticate_standing {s : TmpSshStream ρ} (h : Standing s) {t : Nat}
    (ht : s.transport = some t) :
    (authenticate peer config username t).Upholds Standing s fun _ _ => True := by
  obtain ⟨t', key, -, htransport, hkey⟩ := h.2
  obtain rfl := Option.some.inj (ht.symm.trans htransport)
  have hnote := h.note (.password t username config.password) nofun nofun
    fun _ _ _ heq => by cases heq; exact ⟨key, hkey⟩
  have hnoted : (note (.password t username config.password) : SshM ρ Unit).Upholds Standing s
      fun _ _ => True := ⟨hnote, fun _ _ => trivial⟩
  unfold authenticate
  apply hnoted.bind
  intro _ s₁ h₁ _
  have hask : (ask (peer.auth_password t username config.password)).Upholds Standing s₁
      fun _ _ => True := ⟨h₁.with_peer _, fun _ _ => trivial⟩
  apply hask.bind
  intro answer s₂ h₂ _
  cases answer with
  | accepted => exact Upholds.pure h₂ trivial
  | failed e => exact Upholds.raise h₂
  | bad_type e allowed_types =>
    apply Upholds.ite (fun _ => Upholds.raise h₂)
    intro _
    exact (attempt_upholds h₂.with_peer _).mono fun _ _ _ => trivial

theorem tunnel_started_standing (peer : Peer ρ) (config : TmpSshConfig) (username : String)
    {s : TmpSshStream ρ} (h : Standing s) :
    (tunnel_started peer config username).Upholds Standing s
      fun _ s' => s'.channel.isSome = true := by
  unfold tunnel_started
  apply (check_host_key_upholds h).bind
  rintro _ _ _ ⟨rfl, -⟩
  apply (require_transport_upholds h).bind
  rintro t _ _ ⟨rfl, ht⟩
  apply (authenticate_standing h ht).bind
  intro _ s₁ h₁ _
  have hask : (ask (peer.is_authenticated t)).Upholds Standing s₁ fun _ _ => True :=
    ⟨h₁.with_peer _, fun _ _ => trivial⟩
  apply hask.bind
  intro authenticated s₂ h₂ _
  apply Upholds.ite (fun _ => Upholds.raise h₂)
  intro _
  have hnoted : (note (.authenticated t) : SshM ρ Unit).Upholds Standing s₂ fun _ _ => True :=
    ⟨h₂.note _ nofun nofun nofun, fun _ _ => trivial⟩
  apply hnoted.bind
  intro _ s₃ h₃ _
  apply (attempt_upholds h₃.with_peer _).bind
  rintro _ s₄ h₄ _
  have hmade : (new_channel t : SshM ρ Nat).Upholds Standing s₄ fun _ _ => True := by
    have hnote := h₄.note (.channel s₄.channels t) nofun nofun nofun
    exact ⟨⟨⟨hnote.1.sockets, hnote.1.transports, hnote.1.password⟩, hnote.2⟩,
      fun _ _ => trivial⟩
  apply hmade.bind
  intro c s₅ h₅ _
  apply (attempt_upholds h₅.with_peer _).bind
  rintro _ s₆ h₆ _
  exact ⟨⟨⟨h₆.1.sockets, h₆.1.transports, h₆.1.password⟩, h₆.2⟩, fun _ _ => rfl⟩

/-! ## Every call -/

/-- How a call leaves the stream: tidy and whole, and shut after an error of `open`. -/
def Left (r : Outcome PyError Unit) (s : TmpSshStream ρ) : Prop :=
  Tidy s ∧ match r with
    | .ok _ => Whole s
    | .raised _ => Shut s
    | .waiting => False

theorem tunnel_spec (config : TmpSshConfig) (username : String) (hpeer : peer.Orderly)
    {s : TmpSshStream ρ} (h : Tidy s) (hwhole : Whole s) :
    (tunnel peer config username).Ends s fun r s' => Tidy s' ∧ match r with
      | .ok _ => Whole s'
      | .raised e => caught e = true
      | .waiting => False := by
  show (start_client peer config >>= fun _ => tunnel_started peer config username).Ends s _
  apply (start_client_spec config hpeer h hwhole).bind
  · rintro _ s₁ ⟨htidy, hready⟩
    obtain ⟨hstanding, hchannel⟩ := tunnel_started_standing peer config username ⟨htidy, hready⟩
    have hsettles := tunnel_started_settling config username hpeer s₁
    unfold Ends
    rcases hrun : tunnel_started peer config username s₁ with ⟨r, s₂⟩
    rw [hrun] at hstanding hchannel hsettles
    cases r with
    | ok _ => exact ⟨hstanding.1, Or.inr ⟨hstanding.2, hchannel () rfl⟩⟩
    | raised e => exact ⟨hstanding.1, hsettles⟩
    | waiting => exact absurd hsettles id
  · rintro e s₁ ⟨htidy, hcls, -⟩
    have hcaught : caught e = true := by
      unfold caught PyError.isinstance
      rw [hcls]
      rfl
    exact ⟨htidy, hcaught⟩
  · rintro _ ⟨-, hwaits⟩
    exact hwaits.elim

theorem connected_run (peer : Peer ρ) (s : TmpSshStream ρ) :
    ∃ up p, connected peer s = (.ok up, { s with peer := p }) := by
  cases hchannel : s.channel with
  | none =>
    have hrun : connected peer s = (.ok false, s) := by simp only [connected, hchannel]
    exact ⟨false, s.peer, by rw [hrun, ← hchannel]⟩
  | some c =>
    have hrun : connected peer s =
        (do return ! (← ask (peer.channel_closed c)) : SshM ρ Bool) s := by
      simp only [connected, hchannel]
    exact ⟨_, _, by rw [hrun, ← hchannel]; rfl⟩

theorem open_stream_spec (config : TmpSshConfig) (username : String) (hpeer : peer.Orderly)
    {s : TmpSshStream ρ} (h : Tidy s) (hwhole : Whole s) :
    (open_stream peer config username).Ends s Left := by
  obtain ⟨up, p, hconnected⟩ := connected_run peer s
  unfold open_stream Ends
  rw [bind_ok hconnected]
  cases up with
  | true => exact ⟨h.with_peer p, hwhole⟩
  | false =>
    have hspec := tunnel_spec config username hpeer (h.with_peer p) hwhole
    unfold Ends at hspec
    rw [if_neg Bool.false_ne_true]
    show ((tunnel peer config username).trying caught >>= _ : SshM ρ Unit).Ends
      { s with peer := p } Left
    rcases hrun : tunnel peer config username { s with peer := p } with ⟨r, s₁⟩
    rw [hrun] at hspec
    unfold Ends
    cases r with
    | ok _ =>
      rw [bind_ok (trying_ok hrun)]
      exact hspec
    | raised e =>
      obtain ⟨s₂, hclose, htidy, hshut⟩ := close_run hpeer hspec.1
      rw [bind_ok (trying_caught hrun hspec.2)]
      dsimp only
      rw [bind_ok hclose]
      split <;> exact ⟨htidy, hshut⟩
    | waiting => exact hspec.2.elim

theorem probe_host_key_spec (config : TmpSshConfig) (hpeer : peer.Orderly)
    {s : TmpSshStream ρ} (h : Tidy s) (hwhole : Whole s) :
    (probe_host_key peer config).Ends s fun _ s' => Tidy s' ∧ Shut s' := by
  have hspec := start_client_spec config hpeer h hwhole
  unfold Ends at hspec
  unfold probe_host_key Ends
  rcases hrun : start_client peer config s with ⟨r, s₁⟩
  rw [hrun] at hspec
  obtain ⟨s₂, hclose, htidy, hshut⟩ := close_run hpeer hspec.1
  cases r with
  | ok _ =>
    have hbody : (do
        start_client peer config
        get_host_key : SshM ρ String) s = (.ok s₁.host_key_sha256, s₁) := by
      rw [bind_ok hrun]
      rfl
    rw [bind_ok (trying_ok hbody)]
    dsimp only
    rw [bind_ok hclose]
    exact ⟨htidy, hshut⟩
  | raised e =>
    have hbody : (do
        start_client peer config
        get_host_key : SshM ρ String) s = (.raised e, s₁) := bind_raised hrun
    rw [bind_ok (trying_caught hbody rfl)]
    dsimp only
    rw [bind_ok hclose]
    exact ⟨htidy, hshut⟩
  | waiting => exact hspec.2.elim

/-- What holds between two calls. -/
def Settled (s : TmpSshStream ρ) : Prop := Tidy s ∧ Whole s

theorem Settled.with_peer {s : TmpSshStream ρ} (h : Settled s) (p : ρ) :
    Settled { s with peer := p } := ⟨h.1.with_peer p, h.2⟩

theorem recv_settled {s : TmpSshStream ρ} (h : Settled s) (size : Nat) :
    (recv peer size).Upholds Settled s fun _ _ => True := by
  unfold recv
  apply over_channel_upholds
  apply (require_channel_upholds h).bind
  rintro c _ _ ⟨rfl, -⟩
  exact (attempt_upholds h.with_peer _).mono fun _ _ _ => trivial

theorem sendall_settled {s : TmpSshStream ρ} (h : Settled s) (data : List UInt8) :
    (sendall peer data).Upholds Settled s fun _ _ => True := by
  unfold sendall
  apply over_channel_upholds
  apply (require_channel_upholds h).bind
  rintro c _ _ ⟨rfl, -⟩
  have hwhole : Whole { s with log := .sent c data :: s.log } :=
    h.2.imp id (And.imp_left fun hready => hready.note _)
  have hnoted : (note (.sent c data) : SshM ρ Unit).Upholds Settled s fun _ _ => True :=
    ⟨⟨h.1.note _ nofun nofun nofun, hwhole⟩, fun _ _ => trivial⟩
  apply hnoted.bind
  intro _ s₁ h₁ _
  exact (attempt_upholds h₁.with_peer _).mono fun _ _ _ => trivial

theorem open_stream_settled (hpeer : peer.Orderly) {s : TmpSshStream ρ} (h : Settled s) :
    Settled (open_stream peer config username s).2 := by
  obtain ⟨htidy, hleft⟩ := open_stream_spec config username hpeer h.1 h.2
  refine ⟨htidy, ?_⟩
  split at hleft
  · exact hleft
  · exact Or.inl hleft
  · exact hleft.elim

theorem step_settled (hpeer : peer.Orderly) {s : TmpSshStream ρ} (h : Settled s) (call : Call) :
    Settled (step peer config username s call).2 := by
  cases call with
  | open_stream =>
    have hstate : (step peer config username s .open_stream).2 =
        (open_stream peer config username s).2 := pure_after_state _ _ s
    rw [hstate]
    exact open_stream_settled hpeer h
  | recv size =>
    have hstate : (step peer config username s (.recv size)).2 = (recv peer size s).2 :=
      map_after_state _ _ s
    rw [hstate]
    exact (recv_settled h size).1
  | sendall data =>
    have hstate : (step peer config username s (.sendall data)).2 = (sendall peer data s).2 :=
      pure_after_state _ _ s
    rw [hstate]
    exact (sendall_settled h data).1
  | close =>
    have hstate : (step peer config username s .close).2 = (close peer s).2 :=
      pure_after_state _ _ s
    obtain ⟨s', hrun, htidy, hshut⟩ := close_run hpeer h.1
    rw [hstate, hrun]
    exact ⟨htidy, Or.inl hshut⟩
  | probe_host_key =>
    have hstate : (step peer config username s .probe_host_key).2 =
        (probe_host_key peer config s).2 := map_after_state _ _ s
    rw [hstate]
    exact (probe_host_key_spec config hpeer h.1 h.2).imp id Or.inl

/-- The keys of a connection that got the password are accepted. -/
theorem accepts_of_kept {log : List Event} (h : Kept config username log) {t : Nat}
    {name password : String} {key : List UInt8} (hpassword : .password t name password ∈ log)
    (hkey : .key t key ∈ log) : config.Accepts (fingerprint key) := by
  induction log with
  | nil => cases hpassword
  | cons event past ih =>
    obtain ⟨hallowed, hpast⟩ := h
    rcases List.mem_cons.mp hpassword with rfl | hbefore
    · rcases List.mem_cons.mp hkey with heq | hseen
      · cases heq
      · exact hallowed.2.2 key hseen
    · rcases List.mem_cons.mp hkey with rfl | hseen
      · exact absurd hbefore (hallowed name password)
      · exact ih hpast hbefore hseen

end

/-- Where the network raises only its own errors and closing goes through, each socket and each
transport of a stream is closed or still held, and each connection that got the password has shown a
key that the configuration accepts. Nothing is held after `close`, after `probe_host_key`, and after
an `open` that raised. -/
theorem nothing_is_left_open {ρ : Type} {peer : Peer ρ} (hpeer : peer.Orderly)
    (config : TmpSshConfig) (username : String) (w : ρ) (calls : List Call) :
    let s := (run (step peer config username) calls { peer := w }).2
    (∀ t, .connected t ∈ s.log → .closed_socket t ∈ s.log ∨ s.socket = some t) ∧
    (∀ t, .started t ∈ s.log → .closed_transport t ∈ s.log ∨ s.transport = some t) ∧
    (∀ t name password, .password t name password ∈ s.log →
      ∃ key, .key t key ∈ s.log ∧ config.Accepts (fingerprint key)) ∧
    Shut (close peer s).2 ∧ Shut (probe_host_key peer config s).2 ∧
    ∀ e, (open_stream peer config username s).1 = .raised e →
      Shut (open_stream peer config username s).2 := by
  intro s
  have hstart : Settled ({ peer := w } : TmpSshStream ρ) :=
    ⟨⟨(fun _ h => nomatch h), (fun _ h => nomatch h), fun _ _ _ h => nomatch h⟩,
      Or.inl ⟨rfl, rfl, rfl⟩⟩
  have hstep : ∀ s call, Settled s → Settled (step peer config username s call).2 :=
    fun _ call h => step_settled hpeer h call
  have hsettled : Settled s := invariant_run hstep calls hstart
  have hsafe : ∀ s call, Safe config username s →
      Safe config username (step peer config username s call).2 := fun _ call h => step_safe h call
  have hkept : Kept config username s.log :=
    (invariant_run hsafe calls (new_stream_safe config username w)).kept
  refine ⟨hsettled.1.sockets, hsettled.1.transports, ?_, ?_, ?_, ?_⟩
  · intro t name password hpassword
    obtain ⟨key, hkey⟩ := hsettled.1.password t name password hpassword
    exact ⟨key, hkey, accepts_of_kept hkept hpassword hkey⟩
  · obtain ⟨s', hrun, -, hshut⟩ := close_run hpeer hsettled.1
    rw [hrun]
    exact hshut
  · exact (probe_host_key_spec config hpeer hsettled.1 hsettled.2).2
  · intro e he
    have hleft := (open_stream_spec config username hpeer hsettled.1
      hsettled.2).2
    rw [he] at hleft
    exact hleft

/-- A router that takes one password and then answers with what it got. -/
def echo : Peer (List UInt8) where
  type_name e := e.cls.name
  create_connection _ _ w := (.ok (), w)
  transport _ w := (.ok ["curve25519-sha256", "diffie-hellman-group14-sha1"], w)
  start_client _ _ w := (.ok (), w)
  get_remote_server_key _ w := (.ok [115, 115, 104], w)
  auth_password _ _ password w :=
    (if password = "secret" then .accepted
      else .failed { cls := .SSHException, message := "Authentication failed." }, w)
  auth_interactive _ _ _ w := (.error { cls := .SSHException, message := "Bad type" }, w)
  is_authenticated _ w := (true, w)
  open_channel _ _ _ w := (.ok (), w)
  settimeout _ w := (.ok (), w)
  channel_closed _ w := (false, w)
  recv _ size w := (.ok (w.take size), w.drop size)
  sendall _ data w := (.ok (), w ++ data)
  close_channel _ w := (.ok (), w)
  close_transport _ w := (.ok (), w)
  close_socket _ w := (.ok (), w)

theorem echo_orderly : echo.Orderly where
  create_connection _ _ _ _ h := nomatch h
  transport _ _ _ h := nomatch h
  start_client _ _ _ _ h := nomatch h
  get_remote_server_key _ _ _ h := nomatch h
  auth_password _ _ password _ e h := by
    simp only [echo] at h
    split at h
    · rcases h with h | ⟨_, h⟩ <;> cases h
    · rcases h with h | ⟨_, h⟩
      · cases h
        rfl
      · cases h
  auth_interactive _ _ _ _ e h := by
    cases h
    rfl
  open_channel _ _ _ _ _ h := nomatch h
  settimeout _ _ _ h := nomatch h
  close_channel _ _ := rfl
  close_transport _ _ := rfl
  close_socket _ _ := rfl

/-- The credentials of a router at home. -/
def home : TmpSshConfig where
  host := "192.168.68.1"
  tp_link_id := "owner@example.com"
  password := "secret"
  host_key_sha256 := fingerprint [115, 115, 104]

theorem the_echo_is_left_shut :
    let s := (run (step echo home "owner")
      [.open_stream, .sendall [1, 2, 3], .recv 2] { peer := [] }).2
    (∀ t, .connected t ∈ s.log → .closed_socket t ∈ s.log ∨ s.socket = some t) ∧
    (∀ t, .started t ∈ s.log → .closed_transport t ∈ s.log ∨ s.transport = some t) ∧
    (∀ t name password, .password t name password ∈ s.log →
      ∃ key, .key t key ∈ s.log ∧ home.Accepts (fingerprint key)) ∧
    Shut (close echo s).2 ∧ Shut (probe_host_key echo home s).2 ∧
    ∀ e, (open_stream echo home "owner" s).1 = .raised e →
      Shut (open_stream echo home "owner" s).2 :=
  nothing_is_left_open echo_orderly home "owner" [] [.open_stream, .sendall [1, 2, 3], .recv 2]

end tplink_deco_api.tmp_ssh_stream
