-- When the HTTP verifier gives a result after its first write: exactly when the
-- calls that it makes from then on raise nothing that it does not catch.
import TplinkDeco.Service.HttpNoop

open json prog

namespace tplink_deco_api.http_noop_verification

open exceptions Prog

/-! ## One call -/

/-- The client after one more call. -/
def Http.called (h : Http) (operation : String) (params : Option JsonObject) : Http :=
  { h with calls := h.calls ++ [{ operation, params }] }

/-- A call raises nothing that the verifier does not catch. -/
def Mild (answer : Except PyError ApiResponse) : Prop :=
  ∀ e, answer = .error e → caught e = true

/-- The answer to a read shows the state. -/
def Shows (operation : String) (state : LiveState) (answer : Except PyError ApiResponse) : Prop :=
  ∃ response, answer = .ok response ∧ state_of operation response = .ok state

theorem call_ok {operation : String} {params : Option JsonObject} {h : Http}
    {response : ApiResponse} (ha : h.answers h.calls.length = .ok response) :
    call operation params h = (.ok response, h.called operation params) := by
  unfold call
  rw [ha]
  rfl

theorem call_raised {operation : String} {params : Option JsonObject} {h : Http} {e : PyError}
    (ha : h.answers h.calls.length = .error e) :
    call operation params h = (.raised e, h.called operation params) := by
  unfold call
  rw [ha]
  rfl

theorem noop_error_caught (message : String) : caught (noop_error message) = true :=
  isinstance_of_cls (c := .ValueError) rfl (by decide)

theorem boolean_of_error {data : JsonObject} {key : String} {e : PyError}
    (h : boolean_of data key = .error e) : caught e = true := by
  unfold boolean_of at h
  split at h
  · cases h
  · cases h
    exact noop_error_caught _

theorem text_of_error {data : JsonObject} {key : String} {e : PyError}
    (h : text_of data key = .error e) : caught e = true := by
  unfold text_of at h
  split at h
  · split at h
    · cases h
      exact noop_error_caught _
    · cases h
  · cases h
    exact noop_error_caught _

/-- A bad answer to a read is a `ValueError`. -/
theorem state_of_error {operation : String} {response : ApiResponse} {e : PyError}
    (h : state_of operation response = .error e) : caught e = true := by
  unfold state_of at h
  split at h
  · cases h
    exact noop_error_caught _
  · split at h
    · rcases error_of_bind h with henable | ⟨enable, -, hrest⟩
      · exact boolean_of_error henable
      · cases hrest
    · rcases error_of_bind h with htimezone | ⟨timezone, -, h⟩
      · exact text_of_error htimezone
      · rcases error_of_bind h with hcontinent | ⟨continent, -, h⟩
        · exact text_of_error hcontinent
        · rcases error_of_bind h with hregion | ⟨tz_region, -, hrest⟩
          · exact text_of_error hregion
          · cases hrest

theorem read_state_state (operation : String) (h : Http) :
    (read_state operation h).2 = h.called (HTTP_NOOP_PREFLIGHT_OPERATIONS operation) none := by
  unfold read_state
  cases ha : h.answers h.calls.length with
  | error e => rw [bind_raised (call_raised ha)]
  | ok response =>
    rw [bind_ok (call_ok ha)]
    cases state_of operation response <;> rfl

theorem read_state_ok {operation : String} {h : Http} {state : LiveState} :
    (read_state operation h).1 = .ok state ↔
      Shows operation state (h.answers h.calls.length) := by
  unfold read_state Shows
  cases ha : h.answers h.calls.length with
  | error e =>
    rw [bind_raised (call_raised ha)]
    simp
  | ok response =>
    rw [bind_ok (call_ok ha)]
    cases hs : state_of operation response <;> simp [hs]

theorem read_state_settles {operation : String} {h : Http} :
    Settles caught (read_state operation h).1 ↔ Mild (h.answers h.calls.length) := by
  unfold read_state Mild
  cases ha : h.answers h.calls.length with
  | error e =>
    rw [bind_raised (call_raised ha)]
    simp [Settles]
  | ok response =>
    rw [bind_ok (call_ok ha)]
    cases hs : state_of operation response with
    | ok state => simp [Settles]
    | error e => simp [Settles, state_of_error hs]

/-! ## The writes and the reads of the verifier -/

theorem write_state_state (operation : String) (state : LiveState) (h : Http) :
    (write_state operation state h).2 = h.called operation (some state.params) := by
  unfold write_state
  cases ha : h.answers h.calls.length with
  | ok response => rw [bind_ok (trying_ok (call_ok ha))]; rfl
  | error e =>
    cases hc : caught e with
    | true => rw [bind_ok (trying_caught (call_raised ha) hc)]; rfl
    | false => rw [bind_raised (trying_escapes (call_raised ha) hc)]

theorem write_state_ends {operation : String} {state : LiveState} {h : Http} :
    (∃ write after, write_state operation state h = (.ok write, after)) ↔
      Mild (h.answers h.calls.length) := by
  have hsettles : Settles caught (call operation (some state.params) h).1 ↔
      Mild (h.answers h.calls.length) := by
    unfold Mild
    cases ha : h.answers h.calls.length with
    | ok response => rw [call_ok ha]; simp [Settles]
    | error e => rw [call_raised ha]; simp [Settles]
  rw [← hsettles]
  apply trying_bind_ends
  intro x after
  cases x with
  | error e => exact ⟨_, _, rfl⟩
  | ok response => exact ⟨_, _, rfl⟩

theorem compare_state_state (operation : String) (before : LiveState) (h : Http) :
    (compare_state operation before h).2 =
      h.called (HTTP_NOOP_PREFLIGHT_OPERATIONS operation) none := by
  rw [← read_state_state, ← trying_state caught (read_state operation) h]
  unfold compare_state
  rw [bind_run]
  rcases (read_state operation).trying caught h with ⟨r, after⟩
  cases r with
  | ok x => cases x <;> rfl
  | raised e => rfl
  | waiting => rfl

theorem compare_state_ends {operation : String} (before : LiveState) {h : Http} :
    (∃ post after, compare_state operation before h = (.ok post, after)) ↔
      Mild (h.answers h.calls.length) := by
  rw [← read_state_settles]
  apply trying_bind_ends
  intro x after
  cases x with
  | error e => exact ⟨_, _, rfl⟩
  | ok state => exact ⟨_, _, rfl⟩

theorem compare_state_same {operation : String} {before : LiveState} {h after : Http}
    {post : Bool × Option Bool} (hrun : compare_state operation before h = (.ok post, after)) :
    post = (true, some true) ↔ Shows operation before (h.answers h.calls.length) := by
  rw [← read_state_ok]
  unfold compare_state at hrun
  rcases hread : read_state operation h with ⟨r, s⟩
  cases r with
  | ok state =>
    rw [bind_ok (trying_ok hread)] at hrun
    cases hrun
    simp
  | raised e =>
    cases hc : caught e with
    | true =>
      rw [bind_ok (trying_caught hread hc)] at hrun
      cases hrun
      simp
    | false =>
      rw [bind_raised (trying_escapes hread hc)] at hrun
      cases hrun
  | waiting =>
    rw [bind_run, trying, hread] at hrun
    cases hrun

/-! ## The verifier -/

theorem Shows.unique {operation : String} {state state' : LiveState}
    {answer : Except PyError ApiResponse} (h : Shows operation state answer)
    (h' : Shows operation state' answer) : state' = state := by
  obtain ⟨response, hresponse, hstate⟩ := h
  obtain ⟨response', hresponse', hstate'⟩ := h'
  rw [hresponse] at hresponse'
  cases hresponse'
  rw [hstate] at hstate'
  cases hstate'
  rfl

/-- After `n` calls, the write and what follows it raise nothing that the verifier does
not catch. -/
structure MildFrom (operation : String) (before : LiveState)
    (answers : Nat → Except PyError ApiResponse) (n : Nat) : Prop where
  write : Mild (answers n)
  post_read : Mild (answers (n + 1))
  rollback : ¬ Shows operation before (answers (n + 1)) → Mild (answers (n + 2))
  rollback_read : ¬ Shows operation before (answers (n + 1)) → Mild (answers (n + 3))

@[simp] theorem called_answers (h : Http) (operation : String) (params : Option JsonObject) :
    (h.called operation params).answers = h.answers := rfl

@[simp] theorem called_length (h : Http) (operation : String) (params : Option JsonObject) :
    (h.called operation params).calls.length = h.calls.length + 1 := by
  simp [Http.called]

/-- The states of the client along a run of the verifier. -/
theorem states_of_runs {operation : String} {before : LiveState} {h once read : Http}
    {write : Option Int × String} {post : Bool × Option Bool}
    (hwrite : write_state operation before h = (.ok write, once))
    (hpost : compare_state operation before once = (.ok post, read)) :
    once.answers = h.answers ∧ once.calls.length = h.calls.length + 1 ∧
      read.answers = h.answers ∧ read.calls.length = h.calls.length + 2 := by
  have honce := write_state_state operation before h
  have hread := compare_state_state operation before once
  rw [hwrite] at honce
  rw [hpost] at hread
  change once = _ at honce
  change read = _ at hread
  subst hread
  subst honce
  simp

theorem write_and_verify_returns {operation : String} {before : LiveState} {h : Http} :
    (∃ result last, write_and_verify operation before h = (.ok result, last)) ↔
      MildFrom operation before h.answers h.calls.length := by
  unfold write_and_verify
  constructor
  · rintro ⟨result, last, hrun⟩
    obtain ⟨write, once, hwrite, hrun⟩ := bind_eq_ok hrun
    obtain ⟨post, read, hpost, hrun⟩ := bind_eq_ok hrun
    obtain ⟨hanswers, hlength, hanswers', hlength'⟩ := states_of_runs hwrite hpost
    have hmild := (compare_state_ends before).mp ⟨_, _, hpost⟩
    have hsame := compare_state_same hpost
    rw [hanswers, hlength] at hmild hsame
    have hback : ¬ Shows operation before (h.answers (h.calls.length + 1)) →
        Mild (h.answers (h.calls.length + 2)) ∧ Mild (h.answers (h.calls.length + 3)) := by
      intro hshow
      rw [if_neg (fun heq => hshow (hsame.mp heq))] at hrun
      obtain ⟨rollback, twice, hrollback, hrun⟩ := bind_eq_ok hrun
      obtain ⟨final, rest, hfinal, hrun⟩ := bind_eq_ok hrun
      obtain ⟨htwice, htwice', -, -⟩ := states_of_runs hrollback hfinal
      have hfirst := write_state_ends.mp ⟨_, _, hrollback⟩
      have hsecond := (compare_state_ends before).mp ⟨_, _, hfinal⟩
      rw [hanswers', hlength'] at hfirst
      rw [htwice, htwice', hanswers', hlength'] at hsecond
      exact ⟨hfirst, hsecond⟩
    exact ⟨write_state_ends.mp ⟨_, _, hwrite⟩, hmild, fun hs => (hback hs).1,
      fun hs => (hback hs).2⟩
  · intro hmild
    obtain ⟨write, once, hwrite⟩ := write_state_ends.mpr hmild.write
    have honce : once = h.called operation (some before.params) := by
      rw [← write_state_state, hwrite]
    have hpost_mild : Mild (once.answers once.calls.length) := by
      rw [honce]
      simpa using hmild.post_read
    obtain ⟨post, read, hpost⟩ := (compare_state_ends before).mpr hpost_mild
    obtain ⟨hanswers, hlength, hanswers', hlength'⟩ := states_of_runs hwrite hpost
    have hsame := compare_state_same hpost
    rw [hanswers, hlength] at hsame
    rw [bind_ok hwrite, bind_ok hpost]
    by_cases heq : post = (true, some true)
    · rw [if_pos heq]
      exact ⟨_, _, rfl⟩
    · rw [if_neg heq]
      have hshow := mt hsame.mpr heq
      have hback := hmild.rollback hshow
      have hfinal := hmild.rollback_read hshow
      rw [← hanswers', ← hlength'] at hback
      obtain ⟨rollback, twice, hrollback⟩ := write_state_ends.mpr hback
      have htwice : twice = read.called operation (some before.params) := by
        rw [← write_state_state, hrollback]
      have hfinal_mild : Mild (twice.answers twice.calls.length) := by
        rw [htwice]
        simpa [hanswers', hlength'] using hfinal
      obtain ⟨final, last, hfinal⟩ := (compare_state_ends before).mpr hfinal_mild
      rw [bind_ok hrollback, bind_ok hfinal]
      exact ⟨_, _, rfl⟩

/-- A write was handed to the client. -/
def wrote (calls : List HttpCall) : Bool := calls.any fun c => c.params.isSome

/-- The answers of a client let the verifier come to its result: when its first read shows
a state, the calls from the write on raise nothing that it does not catch. -/
def Contained (operation : String) (answers : Nat → Except PyError ApiResponse) : Prop :=
  ∀ before, Shows operation before (answers 0) → MildFrom operation before answers 1

/-- Once the verifier has handed its write to the client, it gives a result exactly when
the answers are contained. -/
theorem verify_http_setting_noop_returns {operation confirmation : String}
    {answers : Nat → Except PyError ApiResponse}
    (hwrote : wrote (verify_http_setting_noop operation confirmation { answers }).2.calls = true) :
    (∃ result, (verify_http_setting_noop operation confirmation { answers }).1 = .ok result) ↔
      Contained operation answers := by
  revert hwrote
  unfold verify_http_setting_noop
  cases HTTP_NOOP_CONFIRMATIONS operation with
  | none => simp [wrote]
  | some expected =>
    simp only
    split
    · simp [wrote]
    · rcases hread : read_state operation { answers } with ⟨r, after⟩
      have hafter : after = ({ answers } : Http).called
          (HTTP_NOOP_PREFLIGHT_OPERATIONS operation) none := by
        rw [← read_state_state, hread]
      cases r with
      | raised e =>
        rw [bind_raised hread, hafter]
        simp [wrote, Http.called]
      | waiting =>
        rw [bind_waiting hread, hafter]
        simp [wrote, Http.called]
      | ok before =>
        intro _
        rw [bind_ok hread]
        have hshow : Shows operation before (answers 0) :=
          read_state_ok.mp (congrArg Prod.fst hread)
        have hreturns : (∃ result last, write_and_verify operation before after =
            (.ok result, last)) ↔ MildFrom operation before after.answers after.calls.length :=
          write_and_verify_returns
        rw [hafter] at hreturns ⊢
        constructor
        · rintro ⟨result, hresult⟩
          intro state hstate
          rw [Shows.unique hshow hstate]
          exact hreturns.mp ⟨result, _, Prod.ext hresult rfl⟩
        · intro hcontained
          obtain ⟨result, last, hrun⟩ := hreturns.mpr (hcontained before hshow)
          exact ⟨result, by rw [hrun]⟩

/-! ## The verifier never waits -/

theorem call_prompt (operation : String) (params : Option JsonObject) :
    Prompt (call operation params) := by
  intro h
  unfold call
  cases h.answers h.calls.length <;> simp

theorem read_state_prompt (operation : String) : Prompt (read_state operation) :=
  (call_prompt _ _).bind fun response => Prompt.lift (state_of operation response)

theorem write_state_prompt (operation : String) (state : LiveState) :
    Prompt (write_state operation state) := by
  apply ((call_prompt _ _).trying caught).bind
  intro r
  cases r with
  | ok response => exact Prompt.pure _
  | error e => exact Prompt.pure _

theorem compare_state_prompt (operation : String) (before : LiveState) :
    Prompt (compare_state operation before) := by
  apply ((read_state_prompt operation).trying caught).bind
  intro r
  cases r with
  | ok state => exact Prompt.pure _
  | error e => exact Prompt.pure _

theorem write_and_verify_prompt (operation : String) (before : LiveState) :
    Prompt (write_and_verify operation before) := by
  apply (write_state_prompt operation before).bind
  intro write
  apply (compare_state_prompt operation before).bind
  intro post
  apply Prompt.ite (Prompt.pure _)
  apply (write_state_prompt operation before).bind
  intro rollback
  exact (compare_state_prompt operation before).bind fun final => Prompt.pure _

theorem verify_http_setting_noop_prompt (operation confirmation : String) :
    Prompt (verify_http_setting_noop operation confirmation) := by
  unfold verify_http_setting_noop
  cases HTTP_NOOP_CONFIRMATIONS operation with
  | none => exact Prompt.raise _
  | some expected =>
    apply Prompt.ite (Prompt.raise _)
    exact (read_state_prompt operation).bind fun before => write_and_verify_prompt operation before

/-! ## The calls come one after the other -/

/-- The calls that were made stay at the front of the log. -/
def Extends (h h' : Http) : Prop := h.calls <+: h'.calls

instance : IsPreorder Http Extends where
  refl h := List.prefix_refl h.calls
  trans _ _ _ h h' := h.trans h'

theorem call_extends (operation : String) (params : Option JsonObject) :
    Moves Extends (call operation params) := fun _ => List.prefix_append _ _

theorem read_state_extends (operation : String) : Moves Extends (read_state operation) := by
  apply (call_extends _ none).bind
  intro response
  exact Moves.lift _

theorem write_state_extends (operation : String) (state : LiveState) :
    Moves Extends (write_state operation state) := by
  apply ((call_extends operation (some state.params)).trying caught).bind
  intro x
  cases x with
  | ok response => exact Moves.pure _
  | error e => exact Moves.pure _

theorem compare_state_extends (operation : String) (before : LiveState) :
    Moves Extends (compare_state operation before) := by
  apply ((read_state_extends operation).trying caught).bind
  intro x
  cases x with
  | ok state => exact Moves.pure _
  | error e => exact Moves.pure _

theorem write_and_verify_extends (operation : String) (before : LiveState) :
    Moves Extends (write_and_verify operation before) := by
  apply (write_state_extends operation before).bind
  intro write
  apply (compare_state_extends operation before).bind
  intro post
  refine Moves.ite (Moves.pure _) ?_
  apply (write_state_extends operation before).bind
  intro rollback
  exact (compare_state_extends operation before).bind fun final => Moves.pure _

/-- With the exact confirmation, the first call is the preflight read. -/
theorem first_call_of_verify {operation confirmation : String}
    (hconfirmation : HTTP_NOOP_CONFIRMATIONS operation = some confirmation)
    (answers : Nat → Except PyError ApiResponse) :
    (verify_http_setting_noop operation confirmation { answers }).2.calls.head? =
      some { operation := HTTP_NOOP_PREFLIGHT_OPERATIONS operation, params := none } := by
  have hread := read_state_state operation { answers }
  have hextends : Extends (read_state operation { answers }).2
      (verify_http_setting_noop operation confirmation { answers }).2 := by
    unfold verify_http_setting_noop
    rw [hconfirmation]
    simp only [ne_eq, not_true, if_false]
    rcases hrun : read_state operation { answers } with ⟨r, after⟩
    cases r with
    | ok before =>
      rw [bind_ok hrun]
      exact write_and_verify_extends operation before after
    | raised e =>
      rw [bind_raised hrun]
      exact List.prefix_refl _
    | waiting =>
      rw [bind_waiting hrun]
      exact List.prefix_refl _
  rw [hread] at hextends
  obtain ⟨rest, hrest⟩ := hextends
  rw [← hrest]
  rfl

end tplink_deco_api.http_noop_verification
