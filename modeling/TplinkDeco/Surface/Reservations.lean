-- The preflight of a mutation of the address reservations: what it asks of the table,
-- and the rollback that it prepares. The rollback restores the table, unless a removal
-- names another reservation as the old one.
import TplinkDeco.Surface.Mutations

open json prog text

namespace tplink_deco_api.surface

open endpoint_catalog exceptions

/-! ## The table -/

/-- A reserved address, both its fields as the router shows them. -/
structure AddressReservation where
  mac : String
  ip : String
deriving DecidableEq, Repr

/-- The reservations, and how many the router allows. -/
structure AddressReservationTable where
  reservations : List AddressReservation
  max_count : Int

/-- No room is left, where the router gives a limit. -/
def AddressReservationTable.is_full (table : AddressReservationTable) : Bool :=
  0 < table.max_count && table.max_count ≤ table.reservations.length

/-- `by_mac.get(mac)`: the dict keeps the last reservation of a MAC address. -/
def AddressReservationTable.by_mac (table : AddressReservationTable) (mac : String) :
    Option AddressReservation :=
  table.reservations.reverse.find? (·.mac = mac)

/-- The first reservation of an IP address. -/
def AddressReservationTable.by_ip (table : AddressReservationTable) (ip : String) :
    Option AddressReservation :=
  table.reservations.find? (·.ip = ip)

/-! ## The rollback of a plan -/

/-- `_reservation_rollback`: the operation, its parameters, and whether the preflight gives
them. -/
def reservation_rollback (operation : String) (params : JsonObject) :
    String × Option JsonObject × Bool :=
  if operation = "add" then
    ("admin.client.addr_reservation.remove",
      some (["mac", "ip"].filterMap fun name => (params.lookup name).map (name, ·)), true)
  else if operation = "modify" then ("admin.client.addr_reservation.modify", none, true)
  else if operation = "remove" then ("admin.client.addr_reservation.add", none, true)
  else ("", none, false)

/-! ## `_reservation_preflight` -/

/-- The text of a parameter, where it is one. -/
def param_text (params : JsonObject) (key : String) : String := ((get params key).asStr).getD ""

/-- `_mutation_mac`. -/
def mutation_mac (params : JsonObject) (key : String) : Except PyError String := do
  check_mac params key
  .ok (normalize_mac (param_text params key))

/-- `_mutation_ip`. An address that is accepted has no other text than the canonical one. -/
def mutation_ip (params : JsonObject) : Except PyError String := do
  check_ip params
  .ok (param_text params "ip")

/-- What the preflight saw of the table. -/
structure ReservationObservation where
  reservation_count : Nat
  max_count : Int
  is_full : Bool
  target_mac_exists : Bool
  target_ip_exists : Option Bool
  no_op : Bool

/-- The answer of the preflight, with what takes the mutation back. -/
structure ReservationPreflight where
  plan : MutationPlan
  preflight_supported : Bool
  preflight_passed : Bool
  reasons : List String
  observation : ReservationObservation
  rollback_params : Option JsonObject
  mutation_invoked : Bool

/-- The reasons against a plan, the parameters of its rollback, and whether it changes nothing. -/
structure ReservationFindings where
  reasons : List String := []
  rollback_params : Option JsonObject := none
  no_op : Bool := false

/-- A reason that holds, or none. -/
def reason (holds : Bool) (text : String) : List String := if holds then [text] else []

/-- `{"mac": mac_match.mac, "ip": mac_match.ip}`. -/
def captured (r : AddressReservation) : JsonObject := [("mac", .str r.mac), ("ip", .str r.ip)]

/-- The reasons against a mutation, the reservation that it takes back, and whether it changes
nothing. -/
def reservation_findings (name : String) (table : AddressReservationTable)
    (target_mac target_ip old_mac : String) : ReservationFindings :=
  let mac_match := table.by_mac old_mac
  let ip_match := table.by_ip target_ip
  if name.endsWith ".add" then
    { reasons := reason table.is_full "reservation table is full" ++
        reason (table.by_mac target_mac).isSome "target MAC already has a reservation" ++
        reason ip_match.isSome "target IP is already reserved" }
  else if name.endsWith ".modify" then
    { reasons := reason (old_mac ≠ target_mac) "MAC-changing modify rollback is not verified" ++
        reason mac_match.isNone "target reservation does not exist" ++
        reason (ip_match.any (·.mac ≠ old_mac)) "target IP belongs to another reservation"
      rollback_params := mac_match.map captured
      no_op := mac_match.any fun r => r.mac = target_mac && r.ip = target_ip }
  else
    { reasons := reason mac_match.isNone "target reservation does not exist"
      rollback_params := mac_match.map captured }

/-- The answer for parameters that were read. -/
def reservation_result (plan : MutationPlan) (table : AddressReservationTable)
    (target_mac target_ip old_mac : String) : ReservationPreflight :=
  let findings := reservation_findings plan.name table target_mac target_ip old_mac
  { plan
    preflight_supported := true
    preflight_passed := findings.reasons = []
    reasons := findings.reasons
    observation := {
      reservation_count := table.reservations.length
      max_count := table.max_count
      is_full := table.is_full
      target_mac_exists := (table.by_mac old_mac).isSome
      target_ip_exists := if target_ip ≠ "" then some (table.by_ip target_ip).isSome else none
      no_op := findings.no_op }
    rollback_params := findings.rollback_params
    mutation_invoked := false }

/-- `_reservation_preflight`. -/
def reservation_preflight (plan : MutationPlan) (table : AddressReservationTable) :
    Except PyError ReservationPreflight := do
  let target_mac ← mutation_mac plan.params "mac"
  let target_ip ← (
    if plan.name.endsWith ".add" ∨ plan.name.endsWith ".modify" then mutation_ip plan.params
    else .ok "")
  let old_mac ← (
    if (get plan.params "old_mac").asStr.isSome then mutation_mac plan.params "old_mac"
    else .ok target_mac)
  .ok (reservation_result plan table target_mac target_ip old_mac)

/-! ## The firmware -/

/-- The reservation that the parameters describe. -/
def requested (params : JsonObject) : AddressReservation where
  mac := normalize_mac (param_text params "mac")
  ip := param_text params "ip"

/-- The table after an operation: the firmware inserts a reservation, replaces the one of the
same MAC address, or deletes it. -/
def applied (name : String) (params : JsonObject) (rs : List AddressReservation) :
    List AddressReservation :=
  if name.endsWith ".add" then rs ++ [requested params]
  else if name.endsWith ".modify" then
    rs.map fun r => if r.mac = (requested params).mac then requested params else r
  else rs.filter fun r => r.mac ≠ (requested params).mac

/-- No MAC address and no IP address is reserved twice. -/
structure Distinct (rs : List AddressReservation) : Prop where
  macs : (rs.map (·.mac)).Nodup
  ips : (rs.map (·.ip)).Nodup

/-- The endpoint is one of the three mutations of the table. -/
structure MutatesReservations (e : EndpointSpec) : Prop where
  path : e.path = "admin/client"
  form : e.form = "addr_reservation"
  operation : e.operation ∈ ["add", "modify", "remove"]

/-- The rollback of a plan: its own parameters where it has any, else those of the preflight. -/
def undone (e : EndpointSpec) (plan : MutationPlan) (found : ReservationPreflight)
    (rs : List AddressReservation) : List AddressReservation :=
  let (operation, rollback_params, _) := reservation_rollback e.operation plan.params
  applied operation ((rollback_params.or found.rollback_params).getD []) rs

/-- If the preflight passes, the operation keeps the table in order, and its rollback restores
the reservations. -/
def PreflightSound (e : EndpointSpec) (plan : MutationPlan) (table : AddressReservationTable) :
    Prop :=
  ∀ found, reservation_preflight plan table = .ok found → found.preflight_passed = true →
    Distinct (applied plan.name plan.params table.reservations) ∧
      (e.operation = "add" → 0 < table.max_count →
        (applied plan.name plan.params table.reservations).length ≤ table.max_count) ∧
      ∀ r, r ∈ undone e plan found (applied plan.name plan.params table.reservations) ↔
        r ∈ table.reservations

/-- A removal that names one reservation as its target and another one as the old one. -/
def Misdirected (e : EndpointSpec) (plan : MutationPlan) (table : AddressReservationTable) : Prop :=
  e.operation = "remove" ∧ ∃ old, (get plan.params "old_mac").asStr = some old ∧
    normalize_mac old ≠ (requested plan.params).mac ∧
    (∃ r ∈ table.reservations, r.mac = normalize_mac old) ∧
    ∃ r ∈ table.reservations, r.mac = (requested plan.params).mac

/-! ## The parameters that are accepted -/

theorem normalize_mac_normalize_mac (value : String) :
    normalize_mac (normalize_mac value) = normalize_mac value := by
  have hhyphen : ∀ c ∈ (normalize_mac value).toList, c ≠ '-' := by
    intro d hd heq
    unfold normalize_mac upper at hd
    rw [String.toList_ofList] at hd
    obtain ⟨c, hc, hd⟩ := List.mem_flatMap.mp hd
    unfold replaced at hc
    rw [String.toList_ofList] at hc
    obtain ⟨b, -, rfl⟩ := List.mem_map.mp hc
    rcases upper_char_cases hd with hsame | hcapital
    · rw [heq] at hsame
      split at hsame
      · exact absurd hsame (by decide)
      · exact absurd hsame.symm (by assumption)
    · rw [heq] at hcapital
      exact absurd hcapital (by decide)
  have hreplaced : replaced '-' ':' (normalize_mac value) = normalize_mac value := by
    have hmap : (normalize_mac value).toList.map (fun c => if c = '-' then ':' else c) =
        (normalize_mac value).toList.map id :=
      List.map_congr_left fun c hc => if_neg (hhyphen c hc)
    unfold replaced
    rw [hmap, List.map_id, String.ofList_toList]
  have hupper : upper (normalize_mac value) = normalize_mac value := upper_upper _
  rw [normalize_mac.eq_1 (normalize_mac value), hreplaced, hupper]

/-- What a plan was accepted with. -/
structure AcceptedParams (plan : MutationPlan) : Prop where
  mac : mutation_mac plan.params "mac" = .ok (requested plan.params).mac
  ip : plan.name.endsWith ".add" ∨ plan.name.endsWith ".modify" →
    mutation_ip plan.params = .ok (requested plan.params).ip
  old : (get plan.params "old_mac").asStr.isSome →
    mutation_mac plan.params "old_mac" = .ok (normalize_mac (param_text plan.params "old_mac"))

theorem mutation_mac_of_check {params : JsonObject} {key : String}
    (h : check_mac params key = .ok ()) :
    mutation_mac params key = .ok (normalize_mac (param_text params key)) := by
  unfold mutation_mac
  rw [h]
  rfl

theorem accepted_of_validate {plan : MutationPlan}
    (h : validate_reservation_mutation_params plan = .ok ()) : AcceptedParams plan := by
  unfold validate_reservation_mutation_params at h
  obtain ⟨_, hmac, h⟩ := Prog.parts_of_ok h
  have hparts : (plan.name.endsWith ".add" ∨ plan.name.endsWith ".modify" →
      check_ip plan.params = .ok ()) ∧ check_given check_mac plan.params "old_mac" = .ok () := by
    by_cases hname : plan.name.endsWith ".add" ∨ plan.name.endsWith ".modify"
    · rw [if_pos hname] at h
      obtain ⟨_, hip, hold⟩ := Prog.parts_of_ok h
      exact ⟨fun _ => hip, hold⟩
    · rw [if_neg hname] at h
      obtain ⟨_, -, hold⟩ := Prog.parts_of_ok h
      exact ⟨fun hyes => absurd hyes hname, hold⟩
  obtain ⟨hip, hold⟩ := hparts
  refine ⟨mutation_mac_of_check hmac, fun hname => ?_, fun hgiven => mutation_mac_of_check ?_⟩
  · unfold mutation_ip
    rw [hip hname]
    rfl
  · have hthere : (plan.params.lookup "old_mac").isSome := by
      cases hl : plan.params.lookup "old_mac" with
      | none =>
        rw [json.get_of_lookup hl] at hgiven
        cases hgiven
      | some value => rfl
    unfold check_given at hold
    rwa [if_pos hthere] at hold

/-- The IP address that the preflight looks for. -/
def target_ip (plan : MutationPlan) : String :=
  if plan.name.endsWith ".add" ∨ plan.name.endsWith ".modify" then (requested plan.params).ip
  else ""

/-- The MAC address of the old reservation, as the preflight reads it. -/
def old_mac (params : JsonObject) : String :=
  if (get params "old_mac").asStr.isSome then normalize_mac (param_text params "old_mac")
  else (requested params).mac

/-- On accepted parameters the preflight does not raise. -/
theorem reservation_preflight_run {plan : MutationPlan} (h : AcceptedParams plan)
    (table : AddressReservationTable) : reservation_preflight plan table =
      .ok (reservation_result plan table (requested plan.params).mac (target_ip plan)
        (old_mac plan.params)) := by
  have hold : (if (get plan.params "old_mac").asStr.isSome then mutation_mac plan.params "old_mac"
      else .ok (requested plan.params).mac) = .ok (old_mac plan.params) := by
    unfold old_mac
    split
    case isTrue hgiven => exact h.old hgiven
    case isFalse => rfl
  have hip : (if plan.name.endsWith ".add" ∨ plan.name.endsWith ".modify" then
      mutation_ip plan.params else .ok "") = .ok (target_ip plan) := by
    unfold target_ip
    split
    case isTrue hname => exact h.ip hname
    case isFalse => rfl
  unfold reservation_preflight
  rw [h.mac, hip]
  show Except.bind (if _ then _ else Except.ok (requested plan.params).mac) _ = _
  rw [hold]
  rfl

/-! ## The rows of the table -/

variable {table : AddressReservationTable}

theorem mem_of_by_mac {mac : String} {r : AddressReservation} (h : table.by_mac mac = some r) :
    r ∈ table.reservations ∧ r.mac = mac := by
  unfold AddressReservationTable.by_mac at h
  refine ⟨List.mem_reverse.mp (List.mem_of_find?_eq_some h), ?_⟩
  simpa using List.find?_some h

theorem by_mac_eq_none {mac : String} :
    table.by_mac mac = none ↔ ∀ r ∈ table.reservations, r.mac ≠ mac := by
  unfold AddressReservationTable.by_mac
  simp [List.find?_eq_none]

theorem by_ip_eq_none {ip : String} :
    table.by_ip ip = none ↔ ∀ r ∈ table.reservations, r.ip ≠ ip := by
  unfold AddressReservationTable.by_ip
  simp [List.find?_eq_none]

theorem Distinct.eq_of_mac {rs : List AddressReservation} (h : Distinct rs)
    {r r' : AddressReservation} (hr : r ∈ rs) (hr' : r' ∈ rs) (hmac : r.mac = r'.mac) : r = r' :=
  List.inj_on_of_nodup_map h.macs hr hr' hmac

theorem Distinct.eq_of_ip {rs : List AddressReservation} (h : Distinct rs)
    {r r' : AddressReservation} (hr : r ∈ rs) (hr' : r' ∈ rs) (hip : r.ip = r'.ip) : r = r' :=
  List.inj_on_of_nodup_map h.ips hr hr' hip

/-- A reservation of new addresses goes in. -/
theorem Distinct.insert {rs : List AddressReservation} (h : Distinct rs) {new : AddressReservation}
    (hmac : ∀ r ∈ rs, r.mac ≠ new.mac) (hip : ∀ r ∈ rs, r.ip ≠ new.ip) :
    Distinct (rs ++ [new]) := by
  constructor
  · rw [List.map_append]
    refine List.nodup_append.mpr ⟨h.macs, List.nodup_singleton _, ?_⟩
    intro mac hin other hother
    obtain ⟨r, hr, rfl⟩ := List.mem_map.mp hin
    rw [List.mem_singleton.mp hother]
    exact hmac r hr
  · rw [List.map_append]
    refine List.nodup_append.mpr ⟨h.ips, List.nodup_singleton _, ?_⟩
    intro ip hin other hother
    obtain ⟨r, hr, rfl⟩ := List.mem_map.mp hin
    rw [List.mem_singleton.mp hother]
    exact hip r hr

/-- A reservation gets an IP address that no other one has. -/
theorem Distinct.replace {rs : List AddressReservation} (h : Distinct rs) {new : AddressReservation}
    (hip : ∀ r ∈ rs, r.ip = new.ip → r.mac = new.mac) :
    Distinct (rs.map fun r => if r.mac = new.mac then new else r) := by
  constructor
  · have hsame : (rs.map fun r => if r.mac = new.mac then new else r).map (·.mac) =
        rs.map (·.mac) := by
      rw [List.map_map]
      apply List.map_congr_left
      intro r _
      simp only [Function.comp_apply]
      split
      · rename_i heq
        exact heq.symm
      · rfl
    rw [hsame]
    exact h.macs
  · rw [List.map_map]
    apply List.Nodup.map_on _ h.macs.of_map
    intro r hr r' hr' heq
    simp only [Function.comp_apply] at heq
    split at heq <;> split at heq
    · rename_i hmac hmac'
      exact h.eq_of_mac hr hr' (hmac.trans hmac'.symm)
    · rename_i hmac hmac'
      exact absurd (hip r' hr' heq.symm) hmac'
    · rename_i hmac hmac'
      exact absurd (hip r hr heq) hmac
    · exact h.eq_of_ip hr hr' heq

theorem Distinct.filter {rs : List AddressReservation} (h : Distinct rs)
    (keep : AddressReservation → Bool) : Distinct (rs.filter keep) :=
  ⟨(List.filter_sublist.map _).nodup h.macs, (List.filter_sublist.map _).nodup h.ips⟩

/-- A reservation that is replaced, and then replaced by what it was, is back. -/
theorem replace_back {rs : List AddressReservation} (h : Distinct rs) {old new : AddressReservation}
    (hold : old ∈ rs) (hmac : new.mac = old.mac) :
    (rs.map fun r => if r.mac = new.mac then new else r).map
      (fun r => if r.mac = old.mac then old else r) = rs := by
  rw [List.map_map]
  conv_rhs => rw [← List.map_id rs]
  apply List.map_congr_left
  intro r hr
  simp only [Function.comp_apply, id_eq]
  by_cases heq : r.mac = new.mac
  · rw [if_pos heq, if_pos hmac]
    exact h.eq_of_mac hold hr (hmac.symm.trans heq.symm)
  · rw [if_neg heq, if_neg fun hr => heq (hr.trans hmac.symm)]

/-! ## The three operations -/

def ADD : String := "admin.client.addr_reservation.add"
def MODIFY : String := "admin.client.addr_reservation.modify"
def REMOVE : String := "admin.client.addr_reservation.remove"

theorem operation_names : Operation.name ⟨"admin/client", "addr_reservation", "add"⟩ = ADD ∧
    Operation.name ⟨"admin/client", "addr_reservation", "modify"⟩ = MODIFY ∧
    Operation.name ⟨"admin/client", "addr_reservation", "remove"⟩ = REMOVE := by
  decide +kernel

theorem MutatesReservations.named {e : EndpointSpec} (h : MutatesReservations e) :
    e.operation = "add" ∧ e.name = ADD ∨ e.operation = "modify" ∧ e.name = MODIFY ∨
      e.operation = "remove" ∧ e.name = REMOVE := by
  have hname : e.name = Operation.name ⟨"admin/client", "addr_reservation", e.operation⟩ := by
    unfold Operation.name
    rw [h.path, h.form]
  have hop := h.operation
  simp only [List.mem_cons, List.not_mem_nil, or_false] at hop
  rcases hop with hop | hop | hop <;> rw [hop] at hname
  · exact Or.inl ⟨hop, hname.trans operation_names.1⟩
  · exact Or.inr (Or.inl ⟨hop, hname.trans operation_names.2.1⟩)
  · exact Or.inr (Or.inr ⟨hop, hname.trans operation_names.2.2⟩)

theorem operation_ends : ADD.endsWith ".add" = true ∧
    (MODIFY.endsWith ".add" = false ∧ MODIFY.endsWith ".modify" = true) ∧
    REMOVE.endsWith ".add" = false ∧ REMOVE.endsWith ".modify" = false := by
  decide +kernel

theorem add_ends : ADD.endsWith ".add" = true := operation_ends.1

theorem modify_ends : MODIFY.endsWith ".add" = false ∧ MODIFY.endsWith ".modify" = true :=
  operation_ends.2.1

theorem remove_ends : REMOVE.endsWith ".add" = false ∧ REMOVE.endsWith ".modify" = false :=
  operation_ends.2.2

theorem reservation_starts : ADD.startsWith "admin.client.addr_reservation." = true ∧
    MODIFY.startsWith "admin.client.addr_reservation." = true ∧
    REMOVE.startsWith "admin.client.addr_reservation." = true := by decide +kernel

variable (params : JsonObject) (rs : List AddressReservation)

theorem applied_add : applied ADD params rs = rs ++ [requested params] := by
  unfold applied
  rw [if_pos add_ends]

theorem applied_modify : applied MODIFY params rs =
    rs.map fun r => if r.mac = (requested params).mac then requested params else r := by
  unfold applied
  rw [if_neg (by simp [modify_ends]), if_pos modify_ends.2]

theorem applied_remove :
    applied REMOVE params rs = rs.filter fun r => r.mac ≠ (requested params).mac := by
  unfold applied
  rw [if_neg (by simp [remove_ends]), if_neg (by simp [remove_ends])]

/-- What the preflight captures is the reservation, where its MAC address is normalized. -/
theorem requested_captured {r : AddressReservation} (h : normalize_mac r.mac = r.mac) :
    requested (captured r) = r := by
  have hmac : param_text (captured r) "mac" = r.mac := rfl
  have hip : param_text (captured r) "ip" = r.ip := rfl
  unfold requested
  rw [hmac, hip, h]

/-- The plan of an insertion rolls it back under the same MAC address. -/
theorem requested_rollback :
    (requested (["mac", "ip"].filterMap fun name => (params.lookup name).map (name, ·))).mac =
      (requested params).mac := by
  unfold requested param_text json.get
  cases hmac : params.lookup "mac" <;> cases hip : params.lookup "ip" <;>
    simp [hmac, hip, List.lookup_cons]

theorem old_mac_normalized : normalize_mac (old_mac params) = old_mac params := by
  unfold old_mac
  split
  · exact normalize_mac_normalize_mac _
  · exact normalize_mac_normalize_mac _

variable {params : JsonObject} {rs : List AddressReservation}

theorem reason_eq_nil {holds : Bool} {text : String} : reason holds text = [] ↔ holds = false := by
  cases holds <;> simp [reason]

/-- The reservation under the old MAC address is what its capture asks for. -/
theorem requested_captured_old {r : AddressReservation}
    (h : table.by_mac (old_mac params) = some r) : requested (captured r) = r := by
  apply requested_captured
  rw [(mem_of_by_mac h).2]
  exact old_mac_normalized params

theorem old_mac_given {old : String} (h : (json.get params "old_mac").asStr = some old) :
    old_mac params = normalize_mac old := by
  unfold old_mac param_text
  simp [h]

theorem old_mac_missing (h : (json.get params "old_mac").asStr = none) :
    old_mac params = (requested params).mac := by
  unfold old_mac
  simp [h]

variable {plan : MutationPlan} {e : EndpointSpec}

/-! ### What a rollback leaves -/

/-- An insertion under a new MAC address is undone by the removal of that address. -/
theorem undone_add (hop : e.operation = "add") (found : ReservationPreflight)
    (hnone : table.by_mac (requested plan.params).mac = none)
    (hrollback : found.rollback_params = none) :
    undone e plan found (table.reservations ++ [requested plan.params]) = table.reservations := by
  unfold undone reservation_rollback
  rw [if_pos hop]
  show applied REMOVE _ _ = _
  rw [applied_remove, hrollback, Option.or_none, Option.getD_some, requested_rollback,
    List.filter_append]
  have hkeep : table.reservations.filter (fun r => r.mac ≠ (requested plan.params).mac) =
      table.reservations := by
    apply List.filter_eq_self.mpr
    intro r hr
    simpa using by_mac_eq_none.mp hnone r hr
  rw [hkeep]
  simp

theorem undone_modify (hop : e.operation = "modify") (hname : plan.name = MODIFY)
    (hrows : Distinct table.reservations) {old : AddressReservation}
    (hmatch : table.by_mac (old_mac plan.params) = some old)
    (hsame : old_mac plan.params = (requested plan.params).mac) :
    undone e plan (reservation_result plan table (requested plan.params).mac (target_ip plan)
      (old_mac plan.params)) (applied MODIFY plan.params table.reservations) =
        table.reservations := by
  obtain ⟨hin, holdmac⟩ := mem_of_by_mac hmatch
  unfold undone reservation_rollback
  rw [hop, if_neg (by decide), if_pos rfl]
  show applied MODIFY _ _ = _
  unfold reservation_result reservation_findings
  simp only [hname, modify_ends, if_true, Bool.false_eq_true, if_false, hmatch,
    Option.map_some, Option.none_or, Option.getD_some]
  rw [applied_modify, applied_modify, requested_captured_old hmatch]
  exact replace_back hrows hin (hsame.symm.trans holdmac.symm)

/-- The rollback of a removal adds what stood under the old MAC address, whatever was removed. -/
theorem undone_remove (hop : e.operation = "remove") (hname : plan.name = REMOVE)
    {old : AddressReservation} (hmatch : table.by_mac (old_mac plan.params) = some old) :
    undone e plan (reservation_result plan table (requested plan.params).mac (target_ip plan)
      (old_mac plan.params)) (applied plan.name plan.params table.reservations) =
        table.reservations.filter (fun r => r.mac ≠ (requested plan.params).mac) ++ [old] := by
  unfold undone reservation_rollback
  rw [hop, if_neg (by decide), if_neg (by decide), if_pos rfl]
  show applied ADD _ _ = _
  unfold reservation_result reservation_findings
  simp only [hname, remove_ends, Bool.false_eq_true, if_false, hmatch, Option.map_some,
    Option.none_or, Option.getD_some]
  rw [applied_add, applied_remove, requested_captured_old hmatch]

/-! ### What a preflight that passes has found -/

/-- An insertion passes into a table that is not full and has neither of its addresses. -/
theorem add_passed (hname : plan.name = ADD)
    (hpassed : (reservation_result plan table (requested plan.params).mac (target_ip plan)
      (old_mac plan.params)).preflight_passed = true) :
    table.is_full = false ∧ table.by_mac (requested plan.params).mac = none ∧
      table.by_ip (requested plan.params).ip = none := by
  have hip : target_ip plan = (requested plan.params).ip := by
    unfold target_ip
    rw [if_pos (Or.inl (hname ▸ add_ends))]
  have hreasons : (reservation_findings plan.name table (requested plan.params).mac
      (target_ip plan) (old_mac plan.params)).reasons = [] := by
    simpa [reservation_result] using hpassed
  unfold reservation_findings at hreasons
  simp only [hname, add_ends, if_true, List.append_eq_nil_iff, reason_eq_nil, hip,
    Option.isSome_eq_false_iff, Option.isNone_iff_eq_none] at hreasons
  obtain ⟨⟨hfull, hmac⟩, hnone⟩ := hreasons
  exact ⟨hfull, hmac, hnone⟩

/-- A change passes on a reservation that keeps its MAC address, to an IP address that is its own
or nobody's. -/
theorem modify_passed (hname : plan.name = MODIFY)
    (hpassed : (reservation_result plan table (requested plan.params).mac (target_ip plan)
      (old_mac plan.params)).preflight_passed = true) :
    old_mac plan.params = (requested plan.params).mac ∧
      (∃ old, table.by_mac (old_mac plan.params) = some old) ∧
      ∀ first, table.by_ip (requested plan.params).ip = some first →
        first.mac = old_mac plan.params := by
  have hip : target_ip plan = (requested plan.params).ip := by
    unfold target_ip
    rw [if_pos (Or.inr (hname ▸ modify_ends.2))]
  have hreasons : (reservation_findings plan.name table (requested plan.params).mac
      (target_ip plan) (old_mac plan.params)).reasons = [] := by
    simpa [reservation_result] using hpassed
  unfold reservation_findings at hreasons
  simp only [hname, modify_ends, if_true, Bool.false_eq_true, if_false, List.append_eq_nil_iff,
    reason_eq_nil, hip, decide_eq_false_iff_not, not_not, Option.isNone_eq_false_iff] at hreasons
  obtain ⟨⟨hsame, hexists⟩, hother⟩ := hreasons
  refine ⟨hsame, Option.isSome_iff_exists.mp hexists, ?_⟩
  intro first hfirst
  rw [hfirst] at hother
  simpa using hother

theorem remove_passed_iff (hname : plan.name = REMOVE) :
    (reservation_result plan table (requested plan.params).mac (target_ip plan)
      (old_mac plan.params)).preflight_passed = true ↔
        ∃ old, table.by_mac (old_mac plan.params) = some old := by
  unfold reservation_result reservation_findings
  simp [hname, remove_ends, reason_eq_nil, ← Option.isSome_iff_exists]

/-! ### Which operations are sound -/

theorem add_sound (hop : e.operation = "add") (hname : plan.name = ADD)
    (hrows : Distinct table.reservations) (haccepted : AcceptedParams plan) :
    PreflightSound e plan table := by
  rintro found hfound hpassed
  rw [reservation_preflight_run haccepted] at hfound
  cases hfound
  obtain ⟨hfull, hmac, hnone⟩ := add_passed hname hpassed
  have hrollback : (reservation_result plan table (requested plan.params).mac (target_ip plan)
      (old_mac plan.params)).rollback_params = none := by
    unfold reservation_result reservation_findings
    simp [hname, add_ends]
  rw [hname, applied_add]
  refine ⟨hrows.insert (by_mac_eq_none.mp hmac) (by_ip_eq_none.mp hnone), ?_, ?_⟩
  · intro _ hpos
    unfold AddressReservationTable.is_full at hfull
    rw [List.length_append, List.length_singleton]
    simp [hpos] at hfull
    omega
  · intro r
    rw [undone_add hop _ hmac hrollback]

theorem modify_sound (hop : e.operation = "modify") (hname : plan.name = MODIFY)
    (hrows : Distinct table.reservations) (haccepted : AcceptedParams plan) :
    PreflightSound e plan table := by
  rintro found hfound hpassed
  rw [reservation_preflight_run haccepted] at hfound
  cases hfound
  obtain ⟨hsame, ⟨old, hmatch⟩, hother⟩ := modify_passed hname hpassed
  refine ⟨?_, ?_, ?_⟩
  · -- The first reservation of the IP address is the only one, and it is the target's own.
    rw [hname, applied_modify]
    apply hrows.replace
    intro r hr hrip
    cases hfirst : table.by_ip (requested plan.params).ip with
    | none => exact absurd hrip (by_ip_eq_none.mp hfirst r hr)
    | some first =>
      have hfirstmac := hother first hfirst
      unfold AddressReservationTable.by_ip at hfirst
      have hfirstip : first.ip = (requested plan.params).ip := by
        simpa using List.find?_some hfirst
      have hrows' := hrows.eq_of_ip hr (List.mem_of_find?_eq_some hfirst)
        (hrip.trans hfirstip.symm)
      rw [hrows', hfirstmac, hsame]
  · intro hadd
    rw [hop] at hadd
    exact absurd hadd (by decide)
  · intro r
    rw [hname, undone_modify hop hname hrows hmatch hsame]

/-- The reservation that a misdirected removal takes is not the one its rollback adds. -/
theorem lost_of_misdirected (hname : plan.name = REMOVE) (hop : e.operation = "remove")
    (haccepted : AcceptedParams plan) (hmis : Misdirected e plan table) :
    ¬ PreflightSound e plan table := by
  obtain ⟨-, old, hold, hne, ⟨r, hr, hrmac⟩, t, ht, htmac⟩ := hmis
  intro hsound
  have holdmac := old_mac_given hold
  obtain ⟨found, hmatch⟩ : ∃ found, table.by_mac (old_mac plan.params) = some found := by
    cases hmatch : table.by_mac (old_mac plan.params) with
    | none => exact absurd (hrmac.trans holdmac.symm) (by_mac_eq_none.mp hmatch r hr)
    | some found => exact ⟨found, rfl⟩
  have hpassed := (remove_passed_iff hname).mpr ⟨found, hmatch⟩
  have hback := (hsound _ (reservation_preflight_run haccepted table) hpassed).2.2 t
  rw [undone_remove hop hname hmatch] at hback
  rcases List.mem_append.mp (hback.mpr ht) with hkept | hadded
  · simp [htmac] at hkept
  · rw [List.mem_singleton] at hadded
    apply hne
    rw [← holdmac, ← (mem_of_by_mac hmatch).2, ← hadded, htmac]

/-- A removal that finds a reservation under an old MAC address other than the one it takes is
misdirected: without an old MAC address in its parameters the two are the same. -/
theorem misdirected_of_ne (hop : e.operation = "remove") {old r : AddressReservation}
    (hmatch : table.by_mac (old_mac plan.params) = some old) (hr : r ∈ table.reservations)
    (hmac : r.mac = (requested plan.params).mac)
    (hne : old_mac plan.params ≠ (requested plan.params).mac) : Misdirected e plan table := by
  obtain ⟨hin, holdmac⟩ := mem_of_by_mac hmatch
  cases hgiven : (json.get plan.params "old_mac").asStr with
  | none => exact absurd (old_mac_missing hgiven) hne
  | some value =>
    rw [old_mac_given hgiven] at hne holdmac
    exact ⟨hop, value, hgiven, hne, ⟨old, hin, holdmac⟩, r, hr, hmac⟩

/-- A removal is rolled back exactly if it names no other reservation as the old one. -/
theorem remove_sound_iff (hop : e.operation = "remove") (hname : plan.name = REMOVE)
    (hrows : Distinct table.reservations) (haccepted : AcceptedParams plan) :
    PreflightSound e plan table ↔ ¬ Misdirected e plan table := by
  constructor
  · intro hsound hmis
    exact lost_of_misdirected hname hop haccepted hmis hsound
  · rintro hdirected found hfound hpassed
    rw [reservation_preflight_run haccepted] at hfound
    cases hfound
    obtain ⟨old, hmatch⟩ := (remove_passed_iff hname).mp hpassed
    obtain ⟨hin, holdmac⟩ := mem_of_by_mac hmatch
    refine ⟨?_, ?_, ?_⟩
    · rw [hname, applied_remove]
      exact hrows.filter _
    · intro hadd
      rw [hop] at hadd
      exact absurd hadd (by decide)
    · intro r
      rw [undone_remove hop hname hmatch, List.mem_append, List.mem_singleton, List.mem_filter]
      constructor
      · rintro (⟨hr, -⟩ | rfl)
        · exact hr
        · exact hin
      · intro hr
        by_cases hmac : r.mac = (requested plan.params).mac
        · right
          apply hrows.eq_of_mac hr hin
          rw [hmac, holdmac]
          by_contra hother
          exact hdirected (misdirected_of_ne hop hmatch hr hmac fun heq => hother heq.symm)
        · left
          exact ⟨hr, by simpa using hmac⟩

/-! ## The preflight -/

theorem sound_exactly_of_named (he : MutatesReservations e) (hname : plan.name = e.name)
    (hrows : Distinct table.reservations)
    (haccepted : validate_live_preflight_params plan = .ok ()) :
    (∃ found, reservation_preflight plan table = .ok found) ∧
      (PreflightSound e plan table ↔ ¬ Misdirected e plan table) := by
  have hstart : plan.name.startsWith "admin.client.addr_reservation." = true := by
    rw [hname]
    rcases he.named with ⟨-, hn⟩ | ⟨-, hn⟩ | ⟨-, hn⟩
    · exact hn ▸ reservation_starts.1
    · exact hn ▸ reservation_starts.2.1
    · exact hn ▸ reservation_starts.2.2
  have haccept : AcceptedParams plan := by
    apply accepted_of_validate
    unfold validate_live_preflight_params at haccepted
    rwa [if_pos hstart] at haccepted
  refine ⟨⟨_, reservation_preflight_run haccept table⟩, ?_⟩
  have hnot : e.operation ≠ "remove" → ¬ Misdirected e plan table := fun hop hmis => hop hmis.1
  rcases he.named with ⟨hop, hn⟩ | ⟨hop, hn⟩ | ⟨hop, hn⟩
  · exact iff_of_true (add_sound hop (hname.trans hn) hrows haccept) (hnot (by rw [hop]; decide))
  · exact iff_of_true (modify_sound hop (hname.trans hn) hrows haccept) (hnot (by rw [hop]; decide))
  · exact remove_sound_iff hop (hname.trans hn) hrows haccept

/-- On accepted parameters the preflight ends. What it passes keeps the table in order and can be
rolled back, exactly if it is no removal that names another reservation as the old one. -/
theorem preflight_sound_exactly (float_repr : Option Rat → String) (e : EndpointSpec)
    (he : MutatesReservations e) (given : Option JsonObject) (table : AddressReservationTable)
    (hrows : Distinct table.reservations)
    (haccepted : validate_live_preflight_params (build_mutation_plan float_repr e given) =
      .ok ()) :
    (∃ found, reservation_preflight (build_mutation_plan float_repr e given) table = .ok found) ∧
      (PreflightSound e (build_mutation_plan float_repr e given) table ↔
        ¬ Misdirected e (build_mutation_plan float_repr e given) table) :=
  sound_exactly_of_named he rfl hrows haccepted

/-- The endpoint of a removal. -/
def remove_endpoint : EndpointSpec where
  path := "admin/client"
  form := "addr_reservation"
  operation := "remove"
  safety := .mutation
  sensitivity := .private_
  required_params := ["mac"]

def printer : AddressReservation := ⟨"AA:BB:CC:DD:EE:0F", "192.168.68.10"⟩
def camera : AddressReservation := ⟨"AA:BB:CC:DD:EE:1F", "192.168.68.11"⟩

/-- A table of two. -/
def two_reservations : AddressReservationTable where
  reservations := [printer, camera]
  max_count := 64

/-- A removal on the web interface, of a text with hyphens and small letters. -/
def removal (params : JsonObject) : MutationPlan :=
  build_mutation_plan (fun _ => "") remove_endpoint (some params)

theorem remove_endpoint_mutates : MutatesReservations remove_endpoint := ⟨rfl, rfl, by decide⟩

theorem two_reservations_distinct : Distinct two_reservations.reservations :=
  ⟨by decide, by decide⟩

theorem printer_accepted : is_mac (normalize_mac "aa-bb-cc-dd-ee-0f") = true := by
  have hparts : normalize_mac "aa-bb-cc-dd-ee-0f" = "AA:BB:CC:DD:EE:0F" ∧
      splits "AA:BB:CC:DD:EE:0F" ":" 18 0 0 0 [] =
        some ["AA", "BB", "CC", "DD", "EE", "0F"] := by
    decide +kernel
  exact is_mac_of_splits hparts.1 hparts.2 (by decide)

theorem camera_accepted : is_mac (normalize_mac "aa-bb-cc-dd-ee-1f") = true := by
  have hparts : normalize_mac "aa-bb-cc-dd-ee-1f" = "AA:BB:CC:DD:EE:1F" ∧
      splits "AA:BB:CC:DD:EE:1F" ":" 18 0 0 0 [] =
        some ["AA", "BB", "CC", "DD", "EE", "1F"] := by
    decide +kernel
  exact is_mac_of_splits hparts.1 hparts.2 (by decide)

theorem check_mac_ok {params : JsonObject} {key value : String}
    (hvalue : (json.get params key).asStr = some value)
    (h : is_mac (normalize_mac value) = true) : check_mac params key = .ok () := by
  unfold check_mac
  rw [hvalue]
  simp [h]

theorem removal_name (params : JsonObject) : (removal params).name = REMOVE :=
  operation_names.2.2

theorem removal_accepted {params : JsonObject} (hmac : check_mac params "mac" = .ok ())
    (hold : check_given check_mac params "old_mac" = .ok ()) :
    validate_reservation_mutation_params (removal params) = .ok () := by
  have hparams : (removal params).params = params := rfl
  unfold validate_reservation_mutation_params
  rw [hparams, hmac, removal_name, if_neg (by simp [remove_ends]), hold]
  rfl

theorem live_removal_accepted {params : JsonObject} (hmac : check_mac params "mac" = .ok ())
    (hold : check_given check_mac params "old_mac" = .ok ()) :
    validate_live_preflight_params (removal params) = .ok () := by
  unfold validate_live_preflight_params
  rw [if_pos (removal_name params ▸ reservation_starts.2.2)]
  exact removal_accepted hmac hold

theorem the_printer_is_removed_soundly :
    (∃ found, reservation_preflight (removal [("mac", .str "aa-bb-cc-dd-ee-0f")])
        two_reservations = .ok found) ∧
      (PreflightSound remove_endpoint (removal [("mac", .str "aa-bb-cc-dd-ee-0f")])
          two_reservations ↔
        ¬ Misdirected remove_endpoint (removal [("mac", .str "aa-bb-cc-dd-ee-0f")])
          two_reservations) :=
  preflight_sound_exactly (fun _ => "") remove_endpoint remove_endpoint_mutates
    (some [("mac", .str "aa-bb-cc-dd-ee-0f")]) two_reservations two_reservations_distinct
    (live_removal_accepted (check_mac_ok rfl printer_accepted) rfl)

/-- The removal of the printer that names the camera as the old reservation. -/
def misdirected_params : JsonObject :=
  [("mac", .str "aa-bb-cc-dd-ee-0f"), ("old_mac", .str "aa-bb-cc-dd-ee-1f")]

/-- The preflight passes, but the rollback puts the camera back instead of the printer. -/
theorem a_misdirected_removal_loses_a_reservation :
    Distinct two_reservations.reservations ∧ printer ∈ two_reservations.reservations ∧
      validate_live_preflight_params (removal misdirected_params) = .ok () ∧
      ∃ found, reservation_preflight (removal misdirected_params) two_reservations = .ok found ∧
        found.preflight_passed = true ∧
        undone remove_endpoint (removal misdirected_params) found
          (applied (removal misdirected_params).name misdirected_params
            two_reservations.reservations) = [camera, camera] := by
  have hmac : check_mac misdirected_params "mac" = .ok () := check_mac_ok rfl printer_accepted
  have hold : check_given check_mac misdirected_params "old_mac" = .ok () := by
    unfold check_given
    rw [if_pos (by decide)]
    exact check_mac_ok rfl camera_accepted
  refine ⟨two_reservations_distinct, by decide, live_removal_accepted hmac hold, _,
    reservation_preflight_run (accepted_of_validate (removal_accepted hmac hold)) _, ?_, ?_⟩
  · decide +kernel
  · decide +kernel

end tplink_deco_api.surface
