-- When the verifier of a boolean setting fails closed: exactly when each request
-- after the first write finds the client connected, and nothing below it raises
-- an error that the verifier does not catch.
import TplinkDeco.TmpClient.Serving

open json prog

namespace tplink_deco_api.tmp_boolean_noop_verification

open exceptions tmp_client tmp_lab Prog

variable {router : Router} {args : BooleanNoop}

/-! ## The writes and the reads of the verifier -/

/-- What a write sends. -/
def written (args : BooleanNoop) (enable : Bool) : Nat × JsonObject :=
  (args.write_opcode, [("enable", .bool enable)])

/-- A write finds the client connected, and its session raises nothing that the verifier
does not catch. -/
def WriteServed (router : Router) (args : BooleanNoop) (enable : Bool) (c : Client) : Prop :=
  ∃ s found,
    Finds router { c with mutations := c.mutations ++ [written args enable] } s found ∧
    Settles caught (session_request_mutation_json router s args.write_opcode found).1

/-- Both attempts of the preflight read are served. -/
def ReadServed (router : Router) (args : BooleanNoop) (c : Client) : Prop :=
  Served router (fun s => session_request_read_json router s args.read_opcode) 2 c

theorem write_settles {enable : Bool} {c : Client} :
    Settles caught (request_mutation_json router args.write_opcode [("enable", .bool enable)] c).1 ↔
      WriteServed router args enable c := by
  unfold request_mutation_json
  constructor
  · intro h
    by_cases hfind : ∃ s found,
        Finds router { c with mutations := c.mutations ++ [written args enable] } s found
    · obtain ⟨s, found, hfind⟩ := hfind
      refine ⟨s, found, hfind, ?_⟩
      have hrun := bind_ok (f := fun s => session_request_mutation_json router s args.write_opcode)
        (require_session_finds hfind)
      rw [← hrun]
      exact h
    · obtain ⟨after, hlost⟩ := require_session_lost hfind
      have hrun := bind_raised
        (f := fun s => session_request_mutation_json router s args.write_opcode) hlost
      have hsettles : Settles caught ((require_session router >>= fun s =>
          session_request_mutation_json router s args.write_opcode)
            { c with mutations := c.mutations ++ [written args enable] }).1 := h
      rw [hrun] at hsettles
      cases hsettles
  · rintro ⟨s, found, hfind, hsettles⟩
    have hrun := bind_ok (f := fun s => session_request_mutation_json router s args.write_opcode)
      (require_session_finds hfind)
    rw [← hrun] at hsettles
    exact hsettles

theorem caught_value_error (message : String) : caught (value_error message) = true :=
  isinstance_of_cls (c := .ValueError) rfl (by decide)

theorem enable_of_error {response : JsonObject} {e : PyError}
    (h : enable_of args response = .error e) : ∃ message, e = verify_error args message := by
  unfold enable_of at h
  cases hcode : error_code args response with
  | error e' =>
    rw [hcode] at h
    cases h
    unfold error_code at hcode
    split at hcode
    · cases hcode
    · cases hcode
      exact ⟨_, rfl⟩
  | ok code =>
    rw [hcode] at h
    change (if code ≠ 0 then _ else _) = _ at h
    split at h
    · cases h
      exact ⟨_, rfl⟩
    · split at h
      · cases h
        exact ⟨_, rfl⟩
      · split at h
        · cases h
          exact ⟨_, rfl⟩
        · cases h

theorem read_settles {c : Client} :
    Settles caught (read_enable router args c).1 ↔ ReadServed router args c := by
  unfold read_enable
  rw [settles_bind]
  constructor
  · intro h
    exact served_of_settles h.1
  · intro h
    refine ⟨Served.settles h, ?_⟩
    intro response after _
    cases hread : enable_of args response with
    | ok enable => trivial
    | error e =>
      obtain ⟨message, rfl⟩ := enable_of_error hread
      exact caught_value_error _

theorem write_enable_ends {enable : Bool} {c : Client} :
    (∃ write after, write_enable router args enable c = (.ok write, after)) ↔
      WriteServed router args enable c := by
  rw [← write_settles]
  apply trying_bind_ends
  intro x after
  cases x with
  | error e => exact ⟨_, _, rfl⟩
  | ok response =>
    cases hcode : (get response "error_code").asInt with
    | none => exact ⟨(none, "InvalidFirmwareResponse"), after, by simp [hcode]⟩
    | some code => exact ⟨(some code, ""), after, by simp [hcode]⟩

theorem compare_state_ends (before : Bool) {c : Client} :
    (∃ post after, compare_state router args before c = (.ok post, after)) ↔
      ReadServed router args c := by
  rw [← read_settles]
  apply trying_bind_ends
  intro x after
  cases x with
  | error e => exact ⟨_, _, rfl⟩
  | ok enable => exact ⟨_, _, rfl⟩

theorem compare_state_state (before : Bool) (c : Client) :
    (compare_state router args before c).2 = (read_enable router args c).2 := by
  rw [← trying_state caught (read_enable router args) c]
  unfold compare_state
  rw [bind_run]
  rcases (read_enable router args).trying caught c with ⟨r, after⟩
  cases r with
  | ok x => cases x <;> rfl
  | raised e => rfl
  | waiting => rfl

/-- The read shows the preflight value exactly when it gives this value. -/
theorem compare_state_same {before : Bool} {c after : Client} {post : Bool × Option Bool}
    (h : compare_state router args before c = (.ok post, after)) :
    post = (true, some true) ↔ (read_enable router args c).1 = .ok before := by
  unfold compare_state at h
  rcases hread : read_enable router args c with ⟨r, s⟩
  cases r with
  | ok enable =>
    rw [bind_ok (trying_ok hread)] at h
    cases h
    simp
  | raised e =>
    cases hc : caught e with
    | true =>
      rw [bind_ok (trying_caught hread hc)] at h
      cases h
      simp
    | false =>
      rw [bind_raised (trying_escapes hread hc)] at h
      cases h
  | waiting =>
    rw [bind_run, trying, hread] at h
    cases h

theorem read_enable_keeps : KeepsMutations (read_enable router args) :=
  (request_read_json_keeps _).bind fun _ => Keeps.lift _

theorem compare_state_keeps (router : Router) (args : BooleanNoop) (before : Bool) (c : Client) :
    (compare_state router args before c).2.mutations = c.mutations := by
  rw [compare_state_state]
  exact read_enable_keeps c

/-- A write adds its request to the log of the mutations, however it ends. -/
theorem write_enable_notes (router : Router) (args : BooleanNoop) (enable : Bool) (c : Client) :
    (write_enable router args enable c).2.mutations = c.mutations ++ [written args enable] := by
  have hnotes : ((request_mutation_json router args.write_opcode
      [("enable", .bool enable)]).trying caught c).2.mutations =
        c.mutations ++ [written args enable] := by
    rw [trying_state]
    exact request_mutation_json_notes _ _ c
  unfold write_enable
  rw [bind_run]
  rcases htry : (request_mutation_json router args.write_opcode
    [("enable", .bool enable)]).trying caught c with ⟨r, after⟩
  rw [htry] at hnotes
  cases r with
  | raised e => exact hnotes
  | waiting => exact hnotes
  | ok x =>
    cases x with
    | error e => exact hnotes
    | ok response => cases hcode : (get response "error_code").asInt <;> simpa [hcode] using hnotes

/-! ## Failing closed -/

/-- The client after the first write, after the read that follows it, and after the
second write. -/
def written_once (router : Router) (args : BooleanNoop) (before : Bool) (c : Client) : Client :=
  (write_enable router args before c).2

/-- The client after the first write and the read that follows it. -/
def read_once (router : Router) (args : BooleanNoop) (before : Bool) (c : Client) : Client :=
  (read_enable router args (written_once router args before c)).2

/-- The client after the second write. -/
def written_twice (router : Router) (args : BooleanNoop) (before : Bool) (c : Client) : Client :=
  (write_enable router args before (read_once router args before c)).2

/-- The verifier gives a result. It has written the preflight value again unless the read
after the write showed it, and after that says so unless the last read showed it. -/
structure FailsClosed (router : Router) (args : BooleanNoop) (before : Bool) (c : Client)
    (run : Outcome PyError TmpNoopVerificationResult × Client) : Prop where
  returns : ∃ result, run.1 = .ok result
  writes_again :
    (read_enable router args (written_once router args before c)).1 ≠ .ok before →
      run.2.mutations = c.mutations ++ [written args before, written args before]
  unconfirmed : ∀ result, run.1 = .ok result →
    run.2.mutations = c.mutations ++ [written args before, written args before] →
    (read_enable router args (written_twice router args before c)).1 ≠ .ok before →
      result.status = "rollback_unconfirmed"

/-- Every request that the verifier makes from the first write on is served. -/
structure AllServed (router : Router) (args : BooleanNoop) (before : Bool) (c : Client) :
    Prop where
  write : WriteServed router args before c
  post_read : ReadServed router args (written_once router args before c)
  rollback : (read_enable router args (written_once router args before c)).1 ≠ .ok before →
    WriteServed router args before (read_once router args before c)
  rollback_read : (read_enable router args (written_once router args before c)).1 ≠ .ok before →
    ReadServed router args (written_twice router args before c)

/-- The two ends of the verifier: the second read shows the preflight value, or a rollback
follows. -/
theorem write_and_verify_ends {before : Bool} {c last : Client}
    {result : TmpNoopVerificationResult}
    (h : write_and_verify router args before c = (.ok result, last)) :
    ∃ write once post read, write_enable router args before c = (.ok write, once) ∧
      compare_state router args before once = (.ok post, read) ∧
      ((post = (true, some true) ∧ last = read) ∨
        (post ≠ (true, some true) ∧ ∃ rollback twice final,
          write_enable router args before read = (.ok rollback, twice) ∧
          compare_state router args before twice = (.ok final, last) ∧
          (final ≠ (true, some true) → result.status = "rollback_unconfirmed"))) := by
  unfold write_and_verify at h
  obtain ⟨write, once, hwrite, h⟩ := bind_eq_ok h
  obtain ⟨post, read, hpost, h⟩ := bind_eq_ok h
  refine ⟨write, once, post, read, hwrite, hpost, ?_⟩
  by_cases hsame : post = (true, some true)
  · rw [if_pos hsame] at h
    cases h
    exact Or.inl ⟨hsame, rfl⟩
  · rw [if_neg hsame] at h
    obtain ⟨rollback, twice, hrollback, h⟩ := bind_eq_ok h
    obtain ⟨final, rest, hfinal, h⟩ := bind_eq_ok h
    cases h
    refine Or.inr ⟨hsame, rollback, twice, final, hrollback, hfinal, ?_⟩
    intro hne
    simp [result_of, hne]

theorem write_and_verify_returns {before : Bool} {c : Client}
    (h : AllServed router args before c) :
    ∃ result last, write_and_verify router args before c = (.ok result, last) := by
  obtain ⟨write, once, hwrite⟩ := write_enable_ends.mpr h.write
  have honce : written_once router args before c = once := congrArg Prod.snd hwrite
  have hserved := h.post_read
  rw [honce] at hserved
  obtain ⟨post, read, hpost⟩ := (compare_state_ends before).mpr hserved
  have hread : read_once router args before c = read := by
    unfold read_once
    rw [honce, ← compare_state_state before, hpost]
  unfold write_and_verify
  rw [bind_ok hwrite, bind_ok hpost]
  by_cases hsame : post = (true, some true)
  · rw [if_pos hsame]
    exact ⟨_, _, rfl⟩
  · rw [if_neg hsame]
    have hchanged : (read_enable router args (written_once router args before c)).1 ≠
        .ok before := by
      rw [honce]
      exact fun heq => hsame ((compare_state_same hpost).mpr heq)
    have hserved := h.rollback hchanged
    rw [hread] at hserved
    obtain ⟨rollback, twice, hrollback⟩ := write_enable_ends.mpr hserved
    have htwice : written_twice router args before c = twice := by
      unfold written_twice
      rw [hread, hrollback]
    have hserved := h.rollback_read hchanged
    rw [htwice] at hserved
    obtain ⟨final, last, hfinal⟩ := (compare_state_ends before).mpr hserved
    rw [bind_ok hrollback, bind_ok hfinal]
    exact ⟨_, _, rfl⟩

theorem all_served_of_returns {before : Bool} {c last : Client}
    {result : TmpNoopVerificationResult}
    (h : write_and_verify router args before c = (.ok result, last)) :
    AllServed router args before c := by
  obtain ⟨write, once, post, read, hwrite, hpost, hrest⟩ := write_and_verify_ends h
  have honce : written_once router args before c = once := congrArg Prod.snd hwrite
  have hread : read_once router args before c = read := by
    unfold read_once
    rw [honce, ← compare_state_state before, hpost]
  have hback : (read_enable router args (written_once router args before c)).1 ≠ .ok before →
      WriteServed router args before read ∧
        ReadServed router args (written_twice router args before c) := by
    intro hchanged
    rw [honce] at hchanged
    rcases hrest with ⟨hsame, -⟩ | ⟨-, rollback, twice, final, hrollback, hfinal, -⟩
    · exact absurd ((compare_state_same hpost).mp hsame) hchanged
    · have htwice : written_twice router args before c = twice := by
        unfold written_twice
        rw [hread, hrollback]
      rw [htwice]
      exact ⟨write_enable_ends.mp ⟨_, _, hrollback⟩, (compare_state_ends before).mp ⟨_, _, hfinal⟩⟩
  refine ⟨write_enable_ends.mp ⟨_, _, hwrite⟩, ?_, ?_, fun hc => (hback hc).2⟩
  · rw [honce]
    exact (compare_state_ends before).mp ⟨_, _, hpost⟩
  · rw [hread]
    exact fun hc => (hback hc).1

theorem fails_closed_of_returns {before : Bool} {c last : Client}
    {result : TmpNoopVerificationResult}
    (h : write_and_verify router args before c = (.ok result, last)) :
    FailsClosed router args before c (.ok result, last) := by
  obtain ⟨write, once, post, read, hwrite, hpost, hrest⟩ := write_and_verify_ends h
  have honce : written_once router args before c = once := congrArg Prod.snd hwrite
  have hread : read_once router args before c = read := by
    unfold read_once
    rw [honce, ← compare_state_state before, hpost]
  have hone : read.mutations = c.mutations ++ [written args before] := by
    rw [← hread, read_once, read_enable_keeps]
    exact write_enable_notes router args before c
  refine ⟨⟨result, rfl⟩, ?_, ?_⟩
  · intro hchanged
    rw [honce] at hchanged
    rcases hrest with ⟨hsame, -⟩ | ⟨-, rollback, twice, final, hrollback, hfinal, -⟩
    · exact absurd ((compare_state_same hpost).mp hsame) hchanged
    · have hlast := compare_state_keeps router args before twice
      rw [hfinal] at hlast
      have hnotes := write_enable_notes router args before read
      rw [hrollback] at hnotes
      rw [hlast, hnotes, hone, List.append_assoc]
      rfl
  · rintro result' hresult hlog hchanged
    cases hresult
    rcases hrest with ⟨-, hlast⟩ | ⟨-, rollback, twice, final, hrollback, hfinal, hstatus⟩
    · -- No rollback: the log is too short.
      rw [hlast, hone, List.append_cancel_left_eq] at hlog
      cases hlog
    · apply hstatus
      intro hsame
      apply hchanged
      have htwice : written_twice router args before c = twice := by
        unfold written_twice
        rw [hread, hrollback]
      rw [htwice]
      exact (compare_state_same hfinal).mp hsame

/-- Once the verifier has made its first write, it fails closed exactly when every request
that it then makes is served. -/
theorem fails_closed_exactly_when_served (router : Router) (args : BooleanNoop)
    (environ : Environ) (confirmation : String) (start : Client) :
    (∀ before c, preflight router args environ confirmation start = (.ok before, c) →
      FailsClosed router args before c
        (verify_tmp_boolean_noop router args environ confirmation start)) ↔
    (∀ before c, preflight router args environ confirmation start = (.ok before, c) →
      AllServed router args before c) := by
  constructor
  · intro h before c hpre
    obtain ⟨result, hresult⟩ := (h before c hpre).returns
    unfold verify_tmp_boolean_noop at hresult
    rw [bind_ok hpre] at hresult
    exact all_served_of_returns (Prod.ext hresult rfl)
  · intro h before c hpre
    obtain ⟨result, last, hrun⟩ := write_and_verify_returns (h before c hpre)
    unfold verify_tmp_boolean_noop
    rw [bind_ok hpre, hrun]
    exact fails_closed_of_returns hrun

/-! ## A channel that the router closes after the write -/

/-- The target of the lab. -/
def lab_target : TmpLabTarget := {
  model := "P9"
  firmware_version := "1.3.0"
  controller_mac := "AA-BB-CC-DD-EE-FF"
  has_model := by decide
  has_firmware := by decide
  has_mac := by decide }

def identity : JsonObject := [
  ("error_code", .int 0),
  ("result", .obj [("device_list", .arr [.obj [
    ("role", .str "master"), ("device_model", .str "P9"), ("software_ver", .str "1.3.0"),
    ("mac", .str "AA-BB-CC-DD-EE-FF")]])])]

/-- The router answers the two reads and the write, and closes the channel. -/
def closing_router : Router := {
  moments := fun time =>
    match time with
    | 1 => { answer := .ok identity }
    | 3 => { answer := .ok [("error_code", .int 0), ("result", .obj [("enable", .bool true)])] }
    | 5 => { answer := .ok [("error_code", .int 0)] }
    | 6 => { channel_closes := fun _ => true }
    | _ => {}
  get_tmp_opcode := fun opcode =>
    if opcode = 0x421C then some { name := "TMP_APPV2_OP_BEAMFORMING_SET", safety := "mutation" }
    else some { name := "TMP_APPV2_OP_BEAMFORMING_GET", safety := "read_only" } }

/-- An environment that allows writes. -/
def lab_environ : Environ := fun name => if name = TMP_LAB_WRITE_ENV then "1" else ""

/-- The error of the client that is not connected comes up, and nothing was rolled back. -/
theorem a_channel_closed_after_the_write_escapes :
    (verify_tmp_boolean_noop closing_router (tmp_beamforming_noop (some lab_target)) lab_environ
      (tmp_beamforming_noop none).expected_confirmation connected_client).1 =
        .raised not_connected ∧
    ¬ ∀ (router : Router) (args : BooleanNoop) (environ : Environ) (confirmation : String)
        (start : Client) (before : Bool) (c : Client),
      preflight router args environ confirmation start = (.ok before, c) →
        FailsClosed router args before c
          (verify_tmp_boolean_noop router args environ confirmation start) := by
  have hescapes : (verify_tmp_boolean_noop closing_router (tmp_beamforming_noop (some lab_target))
      lab_environ (tmp_beamforming_noop none).expected_confirmation connected_client).1 =
        .raised not_connected := by
    decide +kernel
  have hpre : (preflight closing_router (tmp_beamforming_noop (some lab_target)) lab_environ
      (tmp_beamforming_noop none).expected_confirmation connected_client).1 = .ok true := by
    decide +kernel
  refine ⟨hescapes, ?_⟩
  intro h
  have hclosed := h closing_router (tmp_beamforming_noop (some lab_target)) lab_environ
    (tmp_beamforming_noop none).expected_confirmation connected_client true
  rcases hrun : preflight closing_router (tmp_beamforming_noop (some lab_target)) lab_environ
    (tmp_beamforming_noop none).expected_confirmation connected_client with ⟨r, c⟩
  rw [hrun] at hpre
  have hpassed : (r, c) = (.ok true, c) := by rw [← hpre]
  obtain ⟨result, hresult⟩ := (hclosed c (hrun.trans hpassed)).returns
  rw [hescapes] at hresult
  cases hresult

end tplink_deco_api.tmp_boolean_noop_verification
