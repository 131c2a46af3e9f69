-- What a stream does over its life, whatever the other end answers. The password goes to no
-- connection that has shown another key than the pinned one, and data go only through a channel of
-- a connection that was authenticated.
import TplinkDeco.Lib.Refinement
import TplinkDeco.TmpClient.SshStream

open prog refinement

namespace tplink_deco_api.tmp_ssh_stream

open exceptions tmp_ssh_config Prog

/-! ## The rules of the log -/

section

variable (config : TmpSshConfig) (username : String)

/-- What may be done after these events. -/
def Allowed (past : List Event) : Event → Prop
  | .key t _ => ∀ name password, .password t name password ∉ past
  | .password t name password => name = username ∧ password = config.password ∧
      ∀ key, .key t key ∈ past → config.Accepts (fingerprint key)
  | .authenticated t => .password t username config.password ∈ past
  | .channel _ t => .authenticated t ∈ past
  | .sent c _ => ∃ t, .channel c t ∈ past
  | _ => True

/-- Each event was allowed by those before it. -/
def Kept : List Event → Prop
  | [] => True
  | event :: past => Allowed config username past event ∧ Kept past

/-- The connection that an event tells of the key or the password of. -/
def Event.secured : Event → Option Nat
  | .key t _ => some t
  | .password t _ _ => some t
  | _ => none

variable {ρ : Type}

/-- The log is kept, and what is held is older than the next connection. -/
structure Safe (s : TmpSshStream ρ) : Prop where
  kept : Kept config username s.log
  fresh : ∀ event ∈ s.log, ∀ t ∈ event.secured, t < s.connections
  held : ∀ t, s.transport = some t → t < s.connections
  known : ∀ t key, s.transport = some t → .key t key ∈ s.log → s.host_key_sha256 = fingerprint key
  channel : ∀ c, s.channel = some c → ∃ t, .channel c t ∈ s.log

end

/-! ## The steps of a program -/

section

variable {ρ : Type} {peer : Peer ρ} {config : TmpSshConfig} {username : String}

theorem Safe.with_peer {s : TmpSshStream ρ} (h : Safe config username s) (p : ρ) :
    Safe config username { s with peer := p } := ⟨h.kept, h.fresh, h.held, h.known, h.channel⟩

/-- An event that tells of no key and no password. -/
theorem Safe.note {s : TmpSshStream ρ} (h : Safe config username s) (event : Event)
    (hallowed : Allowed config username s.log event) (hsecured : event.secured = none) :
    Safe config username { s with log := event :: s.log } where
  kept := ⟨hallowed, h.kept⟩
  fresh other hother t ht := by
    rcases List.mem_cons.mp hother with rfl | hmem
    · rw [hsecured] at ht
      cases ht
    · exact h.fresh other hmem t ht
  held := h.held
  known t key ht hkey := by
    rcases List.mem_cons.mp hkey with rfl | hmem
    · cases hsecured
    · exact h.known t key ht hmem
  channel c hc := by
    obtain ⟨t, hmem⟩ := h.channel c hc
    exact ⟨t, List.mem_cons_of_mem _ hmem⟩

/-- The other end has answered, and nothing else has changed. -/
theorem attempt_upholds {α : Type} {inv : TmpSshStream ρ → Prop} {s : TmpSshStream ρ}
    (h : ∀ p, inv { s with peer := p }) (call : ρ → Except PyError α × ρ) :
    (attempt call).Upholds inv s fun _ s' => ∃ p, s' = { s with peer := p } := by
  unfold attempt
  have hask : (ask call).Upholds inv s fun _ s' => ∃ p, s' = { s with peer := p } :=
    ⟨h _, fun _ _ => ⟨_, rfl⟩⟩
  apply hask.bind
  intro answer s' hs' hp
  exact Upholds.lift hs' fun _ _ => hp

theorem close_some_upholds {s : TmpSshStream ρ} (h : Safe config username s) (held : Option Nat)
    (call : Nat → ρ → Except PyError Unit × ρ) (event : Nat → Event)
    (hallowed : ∀ past i, Allowed config username past (event i))
    (hsecured : ∀ i, (event i).secured = none) :
    (close_some held call event).Upholds (Safe config username) s fun _ _ => True := by
  unfold close_some
  cases held with
  | none => exact Upholds.pure h trivial
  | some i =>
    apply (attempt_upholds h.with_peer (call i)).bind
    intro _ s' hs' _
    exact ⟨hs'.note _ (hallowed _ i) (hsecured i), fun _ _ => trivial⟩

theorem close_upholds {s : TmpSshStream ρ} (h : Safe config username s) :
    (close peer).Upholds (Safe config username) s fun _ _ => True := by
  have hdrop : (drop : SshM ρ _).Upholds (Safe config username) s fun _ _ => True :=
    ⟨⟨h.kept, h.fresh, (fun _ h => nomatch h), (fun _ _ h => nomatch h), fun _ h => nomatch h⟩,
      fun _ _ => trivial⟩
  unfold close
  apply hdrop.bind
  rintro ⟨channel, transport, socket⟩ s₁ h₁ -
  apply (close_some_upholds h₁ channel peer.close_channel .closed_channel (fun _ _ => trivial)
    fun _ => rfl).bind
  intro _ s₂ h₂ _
  apply (close_some_upholds h₂ transport peer.close_transport .closed_transport (fun _ _ => trivial)
    fun _ => rfl).bind
  intro _ s₃ h₃ _
  exact close_some_upholds h₃ socket peer.close_socket .closed_socket (fun _ _ => trivial)
    fun _ => rfl

/-! ## The host key -/

/-- A connection of which neither a key nor a password is known. -/
structure Unknown (s : TmpSshStream ρ) (t : Nat) : Prop where
  made : t < s.connections
  events : ∀ event ∈ s.log, event.secured ≠ some t

theorem set_socket_upholds {s : TmpSshStream ρ} (h : Safe config username s) :
    (set_socket : SshM ρ Nat).Upholds (Safe config username) s fun t s' => Unknown s' t := by
  have hstep : Safe config username (set_socket s).2 := by
    have hnote := h.note (.connected s.connections) trivial rfl
    exact ⟨hnote.kept, fun event hevent t ht => Nat.lt_succ_of_lt (hnote.fresh event hevent t ht),
      fun t ht => Nat.lt_succ_of_lt (h.held t ht), hnote.known, hnote.channel⟩
  refine ⟨hstep, ?_⟩
  intro t ht
  obtain rfl := Outcome.ok.inj ht
  refine ⟨Nat.lt_succ_self _, ?_⟩
  intro event hevent hsecured
  rcases List.mem_cons.mp hevent with rfl | hmem
  · cases hsecured
  · exact Nat.lt_irrefl _ (h.fresh event hmem _ hsecured)

theorem set_transport_upholds {s : TmpSshStream ρ} (h : Safe config username s) {t : Nat}
    (ht : Unknown s t) :
    (set_transport t).Upholds (Safe config username) s
      fun _ s' => Unknown s' t ∧ s'.transport = some t := by
  have hnote := h.note (.started t) trivial rfl
  refine ⟨⟨hnote.kept, hnote.fresh, ?_, ?_, hnote.channel⟩, ?_⟩
  · rintro t' ht'
    obtain rfl := Option.some.inj ht'
    exact ht.made
  · rintro t' key ht' hkey
    obtain rfl := Option.some.inj ht'
    rcases List.mem_cons.mp hkey with hstarted | hmem
    · cases hstarted
    · exact absurd rfl (ht.events _ hmem)
  · intro _ _
    refine ⟨⟨ht.made, ?_⟩, rfl⟩
    intro event hevent hsecured
    rcases List.mem_cons.mp hevent with rfl | hmem
    · cases hsecured
    · exact ht.events event hmem hsecured

theorem set_host_key_upholds {s : TmpSshStream ρ} (h : Safe config username s) {t : Nat}
    (ht : Unknown s t) (htransport : s.transport = some t) (key : List UInt8) :
    (set_host_key t key).Upholds (Safe config username) s fun _ _ => True := by
  refine ⟨⟨⟨?_, h.kept⟩, ?_, h.held, ?_, ?_⟩, fun _ _ => trivial⟩
  · exact fun name password hmem => ht.events _ hmem rfl
  · intro event hevent t' ht'
    rcases List.mem_cons.mp hevent with rfl | hmem
    · obtain rfl := Option.some.inj ht'
      exact ht.made
    · exact h.fresh event hmem t' ht'
  · intro t' key' ht' hkey
    obtain rfl := Option.some.inj (htransport.symm.trans ht')
    rcases List.mem_cons.mp hkey with heq | hmem
    · cases heq
      rfl
    · exact absurd rfl (ht.events _ hmem)
  · intro c hc
    obtain ⟨t', hmem⟩ := h.channel c hc
    exact ⟨t', List.mem_cons_of_mem _ hmem⟩

theorem negotiate_upholds {s : TmpSshStream ρ} (h : Safe config username s) :
    (negotiate peer config).Upholds (Safe config username) s fun _ _ => True := by
  unfold negotiate
  apply (attempt_upholds h.with_peer _).bind
  intro _ s₁ h₁ _
  apply (set_socket_upholds h₁).bind
  intro t s₂ h₂ ht₂
  apply (attempt_upholds h₂.with_peer _).bind
  rintro existing _ h₃ ⟨p₃, rfl⟩
  apply (set_transport_upholds h₃ ⟨ht₂.made, ht₂.events⟩).bind
  rintro _ s₄ h₄ ⟨ht₄, htransport⟩
  apply (attempt_upholds h₄.with_peer _).bind
  rintro _ _ h₅ ⟨p₅, rfl⟩
  apply (attempt_upholds h₅.with_peer _).bind
  rintro key _ h₆ ⟨p₆, rfl⟩
  exact set_host_key_upholds h₆ ⟨ht₄.made, ht₄.events⟩ htransport key

theorem start_client_upholds {s : TmpSshStream ρ} (h : Safe config username s) :
    (start_client peer config).Upholds (Safe config username) s fun _ _ => True := by
  have hasked : (has_transport : SshM ρ Bool).Upholds (Safe config username) s fun _ _ => True :=
    ⟨h, fun _ _ => trivial⟩
  unfold start_client
  apply hasked.bind
  intro _ s₁ h₁ _
  apply Upholds.ite (fun _ => Upholds.pure h₁ trivial)
  intro _
  apply (negotiate_upholds h₁).trying.bind
  intro x s₂ h₂ _
  cases x with
  | ok _ => exact Upholds.pure h₂ trivial
  | error e => exact (close_upholds h₂).bind fun _ s₃ h₃ _ => Upholds.raise h₃

/-- The check changes nothing, and goes through only if the key is accepted. -/
theorem check_host_key_upholds {inv : TmpSshStream ρ → Prop} {s : TmpSshStream ρ} (h : inv s) :
    (check_host_key config).Upholds inv s
      fun _ s' => s = s' ∧ config.Accepts s.host_key_sha256 := by
  have hread : (get_host_key : SshM ρ String) s = (.ok s.host_key_sha256, s) := rfl
  unfold check_host_key
  apply (Upholds.of_run (Q := fun a s' => s = s' ∧ a = s.host_key_sha256) hread h ?_).bind
  · rintro _ _ _ ⟨rfl, rfl⟩
    apply Upholds.ite
    · exact fun hallow => Upholds.pure h ⟨rfl, Or.inl hallow⟩
    · intro _
      apply Upholds.ite (fun _ => Upholds.raise h)
      intro hpinned
      apply Upholds.ite (fun _ => Upholds.raise h)
      exact fun hsame => Upholds.pure h ⟨rfl, Or.inr ⟨hpinned, not_not.mp hsame⟩⟩
  · rintro _ ha
    exact ⟨rfl, (Outcome.ok.inj ha).symm⟩

theorem require_transport_upholds {inv : TmpSshStream ρ → Prop} {s : TmpSshStream ρ} (h : inv s) :
    (require_transport : SshM ρ Nat).Upholds inv s fun t s' => s = s' ∧ s.transport = some t := by
  cases htransport : s.transport with
  | none =>
    have hrun : (require_transport : SshM ρ Nat) s = (.raised (not_open "transport"), s) := by
      simp only [require_transport, htransport]
    exact Upholds.of_run hrun h fun _ ht => nomatch ht
  | some t' =>
    have hrun : (require_transport : SshM ρ Nat) s = (.ok t', s) := by
      simp only [require_transport, htransport]
    refine Upholds.of_run hrun h ?_
    intro t ht
    obtain rfl := Outcome.ok.inj ht
    exact ⟨rfl, rfl⟩

/-! ## The password -/

theorem authenticate_upholds {s : TmpSshStream ρ} (h : Safe config username s) {t : Nat}
    (ht : s.transport = some t) (haccepts : config.Accepts s.host_key_sha256) :
    (authenticate peer config username t).Upholds (Safe config username) s fun _ s' =>
      .password t username config.password ∈ s'.log := by
  have hnote : Safe config username
      { s with log := .password t username config.password :: s.log } := by
    refine ⟨⟨⟨rfl, rfl, ?_⟩, h.kept⟩, ?_, h.held, ?_, ?_⟩
    · intro key hkey
      rw [← h.known t key ht hkey]
      exact haccepts
    · intro event hevent t' ht'
      rcases List.mem_cons.mp hevent with rfl | hmem
      · obtain rfl := Option.some.inj ht'
        exact h.held _ ht
      · exact h.fresh event hmem t' ht'
    · intro t' key ht' hkey
      rcases List.mem_cons.mp hkey with heq | hmem
      · cases heq
      · exact h.known t' key ht' hmem
    · intro c hc
      obtain ⟨t', hmem⟩ := h.channel c hc
      exact ⟨t', List.mem_cons_of_mem _ hmem⟩
  have hnoted : (note (.password t username config.password) : SshM ρ Unit).Upholds
      (Safe config username) s fun _ s' => .password t username config.password ∈ s'.log :=
    ⟨hnote, fun _ _ => List.mem_cons_self⟩
  unfold authenticate
  apply hnoted.bind
  intro _ s₁ h₁ hmem
  have hask : (ask (peer.auth_password t username config.password)).Upholds
      (Safe config username) s₁ fun _ s' => .password t username config.password ∈ s'.log :=
    ⟨h₁.with_peer _, fun _ _ => hmem⟩
  apply hask.bind
  intro answer s₂ h₂ hmem
  cases answer with
  | accepted => exact Upholds.pure h₂ hmem
  | failed e => exact Upholds.raise h₂
  | bad_type e allowed_types =>
    apply Upholds.ite (fun _ => Upholds.raise h₂)
    intro _
    apply (attempt_upholds h₂.with_peer _).mono
    rintro _ _ ⟨p, rfl⟩
    exact hmem

theorem new_channel_upholds {s : TmpSshStream ρ} (h : Safe config username s) {t : Nat}
    (ht : .authenticated t ∈ s.log) :
    (new_channel t).Upholds (Safe config username) s fun c s' => .channel c t ∈ s'.log := by
  have hnote := h.note (.channel s.channels t) ht rfl
  refine ⟨⟨hnote.kept, hnote.fresh, hnote.held, hnote.known, hnote.channel⟩, ?_⟩
  intro c hc
  obtain rfl := Outcome.ok.inj hc
  exact List.mem_cons_self

theorem tunnel_upholds {s : TmpSshStream ρ} (h : Safe config username s) :
    (tunnel peer config username).Upholds (Safe config username) s fun _ _ => True := by
  unfold tunnel
  apply (start_client_upholds h).bind
  intro _ s₁ h₁ _
  apply (check_host_key_upholds h₁).bind
  rintro _ _ h₂ ⟨rfl, haccepts⟩
  apply (require_transport_upholds h₂).bind
  rintro t _ h₃ ⟨rfl, ht⟩
  apply (authenticate_upholds h₃ ht haccepts).bind
  intro _ s₄ h₄ hpassword
  have hask : (ask (peer.is_authenticated t)).Upholds (Safe config username) s₄
      fun _ s' => .password t username config.password ∈ s'.log :=
    ⟨h₄.with_peer _, fun _ _ => hpassword⟩
  apply hask.bind
  intro authenticated s₅ h₅ hpassword
  apply Upholds.ite (fun _ => Upholds.raise h₅)
  intro _
  have hnoted : (note (.authenticated t) : SshM ρ Unit).Upholds (Safe config username) s₅
      fun _ s' => .authenticated t ∈ s'.log :=
    ⟨h₅.note _ hpassword rfl, fun _ _ => List.mem_cons_self⟩
  apply hnoted.bind
  intro _ s₆ h₆ hauthenticated
  apply (attempt_upholds h₆.with_peer _).bind
  rintro _ _ h₇ ⟨p₇, rfl⟩
  apply (new_channel_upholds h₇ hauthenticated).bind
  intro c s₈ h₈ hchannel
  apply (attempt_upholds h₈.with_peer _).bind
  rintro _ _ h₉ ⟨p₉, rfl⟩
  refine ⟨⟨h₉.kept, h₉.fresh, h₉.held, h₉.known, ?_⟩, fun _ _ => trivial⟩
  rintro c' hc'
  obtain rfl := Option.some.inj hc'
  exact ⟨t, hchannel⟩

/-! ## Every run -/

theorem connected_upholds {s : TmpSshStream ρ} (h : Safe config username s) :
    (connected peer).Upholds (Safe config username) s fun _ _ => True := by
  cases hchannel : s.channel with
  | none =>
    have hrun : connected peer s = (.ok false, s) := by simp only [connected, hchannel]
    exact Upholds.of_run hrun h fun _ _ => trivial
  | some c =>
    have hrun : connected peer s =
        (do return ! (← ask (peer.channel_closed c)) : SshM ρ Bool) s := by
      simp only [connected, hchannel]
    unfold Upholds
    rw [hrun]
    exact ⟨h.with_peer _, fun _ _ => trivial⟩

theorem open_stream_upholds {s : TmpSshStream ρ} (h : Safe config username s) :
    (open_stream peer config username).Upholds (Safe config username) s fun _ _ => True := by
  unfold open_stream
  apply (connected_upholds h).bind
  intro _ s₁ h₁ _
  apply Upholds.ite (fun _ => Upholds.pure h₁ trivial)
  intro _
  apply (tunnel_upholds h₁).trying.bind
  intro x s₂ h₂ _
  cases x with
  | ok _ => exact Upholds.pure h₂ trivial
  | error e =>
    apply (close_upholds h₂).bind
    intro _ s₃ h₃ _
    exact Upholds.ite (fun _ => Upholds.raise h₃) fun _ => Upholds.raise h₃

theorem probe_host_key_upholds {s : TmpSshStream ρ} (h : Safe config username s) :
    (probe_host_key peer config).Upholds (Safe config username) s fun _ _ => True := by
  have hbody : (do
      start_client peer config
      get_host_key : SshM ρ String).Upholds (Safe config username) s fun _ _ => True :=
    (start_client_upholds h).bind fun _ s₁ h₁ _ => ⟨h₁, fun _ _ => trivial⟩
  unfold probe_host_key
  apply hbody.trying.bind
  intro x s₁ h₁ _
  cases x with
  | ok _ => exact (close_upholds h₁).bind fun _ _ h₂ _ => Upholds.pure h₂ trivial
  | error e => exact (close_upholds h₁).bind fun _ _ h₂ _ => Upholds.raise h₂

theorem over_channel_upholds {α : Type} {inv : TmpSshStream ρ → Prop} {s : TmpSshStream ρ}
    (failed : String) {m : SshM ρ α} (hm : m.Upholds inv s fun _ _ => True) :
    (over_channel peer failed m).Upholds inv s fun _ _ => True := by
  unfold over_channel
  apply hm.trying.bind
  intro x s₁ h₁ _
  cases x with
  | ok _ => exact Upholds.pure h₁ trivial
  | error e => exact Upholds.raise h₁

theorem require_channel_upholds {inv : TmpSshStream ρ → Prop} {s : TmpSshStream ρ} (h : inv s) :
    (require_channel : SshM ρ Nat).Upholds inv s fun c s' => s = s' ∧ s.channel = some c := by
  cases hchannel : s.channel with
  | none =>
    have hrun : (require_channel : SshM ρ Nat) s = (.raised (not_open "channel"), s) := by
      simp only [require_channel, hchannel]
    exact Upholds.of_run hrun h fun _ hc => nomatch hc
  | some c =>
    have hrun : (require_channel : SshM ρ Nat) s = (.ok c, s) := by
      simp only [require_channel, hchannel]
    refine Upholds.of_run hrun h ?_
    intro c' hc
    obtain rfl := Outcome.ok.inj hc
    exact ⟨rfl, rfl⟩

theorem recv_upholds {s : TmpSshStream ρ} (h : Safe config username s) (size : Nat) :
    (recv peer size).Upholds (Safe config username) s fun _ _ => True := by
  unfold recv
  apply over_channel_upholds
  apply (require_channel_upholds h).bind
  rintro c _ _ ⟨rfl, -⟩
  exact (attempt_upholds h.with_peer _).mono fun _ _ _ => trivial

theorem sendall_upholds {s : TmpSshStream ρ} (h : Safe config username s) (data : List UInt8) :
    (sendall peer data).Upholds (Safe config username) s fun _ _ => True := by
  unfold sendall
  apply over_channel_upholds
  apply (require_channel_upholds h).bind
  rintro c _ _ ⟨rfl, hchannel⟩
  have hnoted : (note (.sent c data) : SshM ρ Unit).Upholds (Safe config username) s
      fun _ _ => True := ⟨h.note _ (h.channel c hchannel) rfl, fun _ _ => trivial⟩
  apply hnoted.bind
  intro _ s₁ h₁ _
  exact (attempt_upholds h₁.with_peer _).mono fun _ _ _ => trivial

theorem step_safe {s : TmpSshStream ρ} (h : Safe config username s) (call : Call) :
    Safe config username (step peer config username s call).2 := by
  have hanswer : ∀ {α : Type} {m : SshM ρ α} (f : α → Answer),
      m.Upholds (Safe config username) s (fun _ _ => True) →
      Safe config username ((m >>= fun a => pure (f a) : SshM ρ Answer) s).2 :=
    fun f hm => (hm.bind fun _ _ h' _ => Upholds.pure (Q := fun _ _ => True) h' trivial).1
  cases call with
  | open_stream => exact hanswer _ (open_stream_upholds h)
  | recv size => exact hanswer _ (recv_upholds h size)
  | sendall data => exact hanswer _ (sendall_upholds h data)
  | close => exact hanswer _ (close_upholds h)
  | probe_host_key => exact hanswer _ (probe_host_key_upholds h)

end

theorem new_stream_safe {ρ : Type} (config : TmpSshConfig) (username : String) (w : ρ) :
    Safe config username ({ peer := w } : TmpSshStream ρ) :=
  ⟨trivial, (fun _ h => nomatch h), (fun _ h => nomatch h), (fun _ _ h => nomatch h),
    fun _ h => nomatch h⟩

/-- Whatever the other end answers to the calls on a stream, the password of the configuration is
handed over only on a connection of which no key was seen but the pinned one, and data are sent only
through a channel of a connection that was authenticated with it. -/
theorem the_password_goes_to_the_pinned_key {ρ : Type} (peer : Peer ρ) (config : TmpSshConfig)
    (username : String) (w : ρ) (calls : List Call) :
    Kept config username (run (step peer config username) calls { peer := w }).2.log := by
  have hstep : ∀ s call, Safe config username s →
      Safe config username (step peer config username s call).2 := fun _ call h => step_safe h call
  exact (invariant_run hstep calls (new_stream_safe config username w)).kept

end tplink_deco_api.tmp_ssh_stream
