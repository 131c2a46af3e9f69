-- What the confirmation of a plan binds: the operation and the parameters that are sent,
-- unless a plan without parameters stands against one with none in it.
import TplinkDeco.Surface.Mutations

open json prog text

namespace tplink_deco_api.surface

open endpoint_catalog exceptions

/-! ## The body of a request -/

/-- `data["params"] = selected_params`, where there are any. -/
def body_of (operation : String) (selected : Option JsonObject) : JsonObject :=
  ("operation", .str operation) :: (selected.map fun params => ("params", .obj params)).toList

/-- `EndpointSpec.request_data`. -/
def request_data (e : EndpointSpec) (params : Option JsonObject) : Except PyError JsonObject := do
  let selected ← e.request_params params
  .ok (body_of e.operation selected)

/-- The same body to JSON, or the same error. -/
def SameBody : Except PyError JsonObject → Except PyError JsonObject → Prop
  | .ok body, .ok body' => canonical (.obj body) = canonical (.obj body')
  | .error e, .error e' => e = e'
  | _, _ => False

/-- What the confirmation is a hash of. -/
def confirmed (e : EndpointSpec) (params : Option JsonObject) : Json :=
  .obj [("name", .str e.name), ("params", .obj ((e.selected_params params).getD []))]

/-- SHA-256 does not collide on the texts of these two values, and the texts tell them apart up
to the order of their keys. -/
structure ToldApart (float_repr : Option Rat → String) (a b : Json) : Prop where
  hash : sha256.hexdigest (encode (dumps float_repr a)) =
    sha256.hexdigest (encode (dumps float_repr b)) →
      encode (dumps float_repr a) = encode (dumps float_repr b)
  text : dumps float_repr a = dumps float_repr b → canonical a = canonical b

/-- A plan without parameters stands against a plan with an empty object of them. -/
def NothingOrEmpty (e : EndpointSpec) (params params' : Option JsonObject) : Prop :=
  e.default_params = none ∧ e.required_params = [] ∧
    (params = none ∧ params' = some [] ∨ params = some [] ∧ params' = none)

/-! ## What the hash says -/

variable {float_repr : Option Rat → String} {e : EndpointSpec} {params params' : Option JsonObject}

/-- Plans of the same hash have parameters that are the same to JSON, where none count as an
empty object. -/
theorem same_params_of_confirmation
    (h : ToldApart float_repr (confirmed e params) (confirmed e params'))
    (hsame : (build_mutation_plan float_repr e params).confirmation_sha256 =
      (build_mutation_plan float_repr e params').confirmation_sha256) :
    canonical (.obj ((e.selected_params params).getD [])) =
      canonical (.obj ((e.selected_params params').getD [])) := by
  have htext : dumps float_repr (confirmed e params) = dumps float_repr (confirmed e params') :=
    encode_injective (h.hash hsame)
  have hvalue := h.text htext
  unfold confirmed at hvalue
  rw [canonical_two (by decide), canonical_two (by decide)] at hvalue
  simpa using hvalue

/-! ## What the body says -/

/-- The required parameters that a selection lacks. -/
def lacking (required : List String) (selected : Option JsonObject) : List String :=
  required.filter fun name => ((selected.getD []).lookup name).isNone

/-- The error of `validate_params`. -/
def lacking_error (e : EndpointSpec) (missing : List String) : PyError :=
  let missing_params := ", ".intercalate missing
  value_error s!"Failed to call {e.name}: missing required params: {missing_params}"

theorem missing_params_eq (e : EndpointSpec) (params : Option JsonObject) :
    e.missing_params (e.selected_params params) =
      lacking e.required_params (e.selected_params params) := by
  have hagain : e.selected_params (e.selected_params params) = e.selected_params params := by
    unfold EndpointSpec.selected_params
    cases params <;> cases e.default_params <;> rfl
  unfold EndpointSpec.missing_params lacking
  rw [hagain]
  cases e.selected_params params with
  | none => simp
  | some selected => rfl

theorem request_data_eq (e : EndpointSpec) (params : Option JsonObject) :
    request_data e params =
      if lacking e.required_params (e.selected_params params) = [] then
        .ok (body_of e.operation (e.selected_params params))
      else .error (lacking_error e (lacking e.required_params (e.selected_params params))) := by
  unfold request_data EndpointSpec.request_params EndpointSpec.validate_params
  rw [missing_params_eq]
  cases lacking e.required_params (e.selected_params params) with
  | nil => rfl
  | cons name names => rfl

theorem lacking_of_canonical (required : List String) {a b : Option JsonObject}
    (h : canonical (.obj (a.getD [])) = canonical (.obj (b.getD []))) :
    lacking required a = lacking required b := by
  unfold lacking
  apply List.filter_congr
  intro name _
  rw [lookup_isNone_of_canonical h]

theorem canonical_body (operation : String) (a b : JsonObject)
    (h : canonical (.obj a) = canonical (.obj b)) :
    canonical (.obj (body_of operation (some a))) =
      canonical (.obj (body_of operation (some b))) := by
  have hbody : ∀ params : JsonObject, body_of operation (some params) =
      [("operation", .str operation), ("params", .obj params)] := fun _ => rfl
  rw [hbody, hbody, canonical_two (by decide), canonical_two (by decide), h]

theorem SameBody.refl (x : Except PyError JsonObject) : SameBody x x := by
  cases x with
  | ok body => exact rfl
  | error e => exact rfl

theorem SameBody.symm {x y : Except PyError JsonObject} (h : SameBody x y) : SameBody y x := by
  cases x <;> cases y
  · exact Eq.symm h
  · exact h
  · exact h
  · exact Eq.symm h

/-- A body with an empty object of parameters is another one than a body without parameters. -/
theorem not_sameBody_nothing (e : EndpointSpec) (hnone : e.default_params = none)
    (hrequired : e.required_params = []) :
    ¬ SameBody (request_data e none) (request_data e (some [])) := by
  rw [request_data_eq, request_data_eq, hrequired]
  intro h
  have hdefault : e.selected_params none = none := hnone
  have hbody : canonical (.obj (body_of e.operation none)) =
      canonical (.obj (body_of e.operation (some []))) := by
    rw [hdefault] at h
    exact h
  have hkeys := (keys_perm_of_canonical hbody).length_eq
  simp [body_of] at hkeys

/-! ## The confirmation -/

/-- No parameters against parameters of the same hash. -/
theorem nothing_against (hnone : e.selected_params params = none)
    (hsame : canonical (.obj ((e.selected_params params).getD [])) =
      canonical (.obj ((e.selected_params params').getD []))) :
    SameBody (request_data e params) (request_data e params') ∨
      e.default_params = none ∧ e.required_params = [] ∧ params = none ∧ params' = some [] := by
  have hparts : params = none ∧ e.default_params = none := by
    unfold EndpointSpec.selected_params at hnone
    simpa using hnone
  obtain ⟨rfl, hdefault⟩ := hparts
  have hselected : e.selected_params params' = params' := by
    unfold EndpointSpec.selected_params
    rw [hdefault, Option.or_none]
  rw [hnone, hselected] at hsame
  cases params' with
  | none => exact Or.inl (SameBody.refl _)
  | some given =>
    obtain rfl : given = [] := eq_nil_of_canonical hsame.symm
    by_cases hrequired : e.required_params = []
    · exact Or.inr ⟨hdefault, hrequired, rfl, rfl⟩
    · left
      have hlack : ∀ selected : Option JsonObject, selected.getD [] = [] →
          lacking e.required_params selected = e.required_params := by
        intro selected hempty
        unfold lacking
        rw [hempty]
        simp
      rw [request_data_eq, request_data_eq, hnone, hselected, hlack none rfl, hlack (some []) rfl,
        if_neg hrequired, if_neg hrequired]
      exact SameBody.refl _

/-- Plans of the same hash send the same body, exactly if it is not that one has no parameters
and the other one an empty object of them, where none are required and there is no default. -/
theorem confirmation_binds_exactly (float_repr : Option Rat → String) (e : EndpointSpec)
    (params params' : Option JsonObject)
    (h : ToldApart float_repr (confirmed e params) (confirmed e params')) :
    ((build_mutation_plan float_repr e params).confirmation_sha256 =
        (build_mutation_plan float_repr e params').confirmation_sha256 →
      SameBody (request_data e params) (request_data e params')) ↔
        ¬ NothingOrEmpty e params params' := by
  constructor
  · rintro hbinds ⟨hdefault, hrequired, ⟨rfl, rfl⟩ | ⟨rfl, rfl⟩⟩
    · have hhash : (build_mutation_plan float_repr e none).confirmation_sha256 =
          (build_mutation_plan float_repr e (some [])).confirmation_sha256 := by
        unfold build_mutation_plan EndpointSpec.selected_params
        rw [hdefault]
        rfl
      exact not_sameBody_nothing e hdefault hrequired (hbinds hhash)
    · have hhash : (build_mutation_plan float_repr e (some [])).confirmation_sha256 =
          (build_mutation_plan float_repr e none).confirmation_sha256 := by
        unfold build_mutation_plan EndpointSpec.selected_params
        rw [hdefault]
        rfl
      exact not_sameBody_nothing e hdefault hrequired (hbinds hhash).symm
  · intro hnot hhash
    have hsame := same_params_of_confirmation h hhash
    cases hp : e.selected_params params with
    | none =>
      rcases nothing_against hp hsame with hbody | ⟨hd, hr, h1, h2⟩
      · exact hbody
      · exact absurd ⟨hd, hr, Or.inl ⟨h1, h2⟩⟩ hnot
    | some a =>
      cases hq : e.selected_params params' with
      | none =>
        rcases nothing_against hq hsame.symm with hbody | ⟨hd, hr, h1, h2⟩
        · exact hbody.symm
        · exact absurd ⟨hd, hr, Or.inr ⟨h2, h1⟩⟩ hnot
      | some b =>
        rw [request_data_eq, request_data_eq, lacking_of_canonical e.required_params hsame]
        rw [hp, hq] at hsame
        rw [hp, hq]
        split
        · exact canonical_body e.operation a b hsame
        · exact rfl

/-- The endpoint that mails the log. It has no required parameters and no default ones. -/
def mail_log : EndpointSpec where
  path := "admin/syslog"
  form := "log"
  operation := "mail"
  safety := .mutation
  sensitivity := .secret

/-- An endpoint with default parameters. -/
def read_default_device : EndpointSpec where
  path := "admin/network"
  form := "wan_ipv4"
  operation := "read"
  sensitivity := .secret
  default_params := some default_device

/-- The default parameters stand against themselves. -/
theorem the_default_is_bound :
    ((build_mutation_plan (fun _ => "") read_default_device none).confirmation_sha256 =
        (build_mutation_plan (fun _ => "") read_default_device
          (some default_device)).confirmation_sha256 →
      SameBody (request_data read_default_device none)
        (request_data read_default_device (some default_device))) ↔
      ¬ NothingOrEmpty read_default_device none (some default_device) :=
  confirmation_binds_exactly (fun _ => "") read_default_device none (some default_device)
    ⟨fun _ => rfl, fun _ => rfl⟩

/-- The plan without parameters is confirmed by the hash of the one with an empty object. -/
theorem an_empty_object_is_confirmed :
    ToldApart (fun _ => "") (confirmed mail_log none) (confirmed mail_log (some [])) ∧
      (build_mutation_plan (fun _ => "") mail_log none).confirmation_sha256 =
        (build_mutation_plan (fun _ => "") mail_log (some [])).confirmation_sha256 ∧
      request_data mail_log none = .ok [("operation", .str "mail")] ∧
      request_data mail_log (some []) = .ok [("operation", .str "mail"), ("params", .obj [])] ∧
      ¬ SameBody (request_data mail_log none) (request_data mail_log (some [])) :=
  ⟨⟨fun _ => rfl, fun _ => rfl⟩, rfl, rfl, rfl, not_sameBody_nothing mail_log rfl rfl⟩

end tplink_deco_api.surface
