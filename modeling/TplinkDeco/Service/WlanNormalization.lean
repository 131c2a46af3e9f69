-- The WLAN configuration of the two interfaces in one shape. They show the same, except where the
-- second 5 GHz or 6 GHz band is null: the HTTP side shows an empty band for it.
import TplinkDeco.Lib.Dict
import TplinkDeco.Lib.JsonText
import TplinkDeco.Models.WlanConfig

open dict json text

namespace tplink_deco_api.service.wlan_normalization

open exceptions models

/-! ## The view -/

/-- `_wlan_band_view`: the passwords are there only if they are asked for. -/
def wlan_band_view (band : WlanBand) (include_passwords : Bool) : JsonObject :=
  let host : JsonObject := [
    ("ssid", .str band.host.ssid),
    ("channel", .int band.host.channel),
    ("enabled", .bool band.host.enable),
    ("mode", .str band.host.mode),
    ("channel_width", .str band.host.channel_width),
    ("hidden", .bool band.host.enable_hide_ssid)]
  let guest : JsonObject := [
    ("ssid", .str band.guest.ssid),
    ("enabled", .bool band.guest.enable),
    ("vlan_id", band.guest.vlan_id.elim .null .int),
    ("need_set_vlan", band.guest.need_set_vlan.elim .null .bool)]
  let secret (password : String) : JsonObject :=
    if include_passwords then [("password", .str password)] else []
  [("host", .obj (host ++ secret band.host.password)),
    ("guest", .obj (guest ++ secret band.guest.password)),
    ("backhaul", .obj [("channel", .int band.backhaul.channel)])]

/-- The `bands` of `_wlan_view`. -/
def bands_view (config : WlanConfig) (include_passwords : Bool) : JsonObject :=
  let shown (name : String) (band : WlanBand) : String × Json :=
    (name, .obj (wlan_band_view band include_passwords))
  [shown "2.4ghz" config.band2_4, shown "5ghz" config.band5_1, shown "6ghz" config.band6] ++
    (config.band5_2.map (shown "5ghz-2")).toList ++ (config.band6_2.map (shown "6ghz-2")).toList

/-- The view of the wireless configuration. -/
def wlan_view (config : WlanConfig) (include_passwords : Bool) : JsonObject :=
  let iot : JsonObject := [
    ("ssid", .str config.iot_host.ssid),
    ("enabled", .bool config.iot_host.enable),
    ("enable_2g", .bool config.iot_host.enable_2g),
    ("enable_5g", .bool config.iot_host.enable_5g),
    ("encryption_mode", .str config.iot_host.encryption_mode)]
  let mlo : JsonObject := [
    ("ssid", .str config.mlo_host.ssid),
    ("enabled", .bool config.mlo_host.enable),
    ("bands", .arr (config.mlo_host.band.map .str)),
    ("hidden", .bool config.mlo_host.enable_hide_ssid)]
  let secret (password : String) : JsonObject :=
    if include_passwords then [("password", .str password)] else []
  [("passwords_included", .bool include_passwords),
    ("is_eg", .bool config.is_eg),
    ("bands", .obj (bands_view config include_passwords)),
    ("iot", .obj (iot ++ secret config.iot_host.password)),
    ("mlo", .obj (mlo ++ secret config.mlo_host.password))]

/-- `normalize_http_wlan_configuration`. -/
def normalize_http_wlan_configuration (config : WlanConfig) (include_passwords : Bool) :
    JsonObject := wlan_view config include_passwords

/-! ## The bands of the TMP interface -/

/-- The bands of an answer. -/
def BAND_KEYS : List String := ["band2_4", "band5_1", "band5_2", "band6", "band6_2"]

def failed (what : String) : PyError :=
  value_error s!"Failed to normalize TMP WLAN configuration: {what}"

def required_object (data : JsonObject) (key band_name : String) : Except PyError JsonObject :=
  match (get data key).asObj with
  | some value => .ok value
  | none => .error (failed s!"{band_name}.{key} is not an object")

/-- The value under one key has its type. -/
def require_type {α : Type} (read : Json → Option α) (description : String) (data : JsonObject)
    (band_name section_name key : String) : Except PyError Unit :=
  if (read (get data key)).isSome then .ok ()
  else .error (failed s!"{band_name}.{section_name}.{key} is not {description}")

def require_types (data : JsonObject) (band_name section_name : String)
    (strings booleans integers : List String) : Except PyError Unit := do
  strings.forM (require_type Json.asStr "a string" data band_name section_name)
  booleans.forM (require_type Json.asBool "a boolean" data band_name section_name)
  integers.forM (require_type Json.asInt "an integer" data band_name section_name)

def validate_tmp_band (host guest backhaul radio : JsonObject) (band_name : String) :
    Except PyError Unit := do
  require_types host band_name "host" ["ssid", "password", "encryption_mode"]
    ["enable", "enable_hide_ssid"] []
  require_types guest band_name "guest" ["ssid", "password", "encryption_mode"]
    ["enable", "need_set_vlan"] ["vlan_id"]
  require_types backhaul band_name "backhaul" [] [] ["channel"]
  require_types radio band_name "radio" ["channel", "htmode", "hwmode"] ["enable"] []

def tmp_channel (radio : JsonObject) (band_name : String) : Except PyError Int :=
  let channel := get_str radio "channel"
  if casefold channel = "auto" then .ok 0
  else
    match int_of_text channel with
    | some value => .ok value
    | none => .error (failed s!"{band_name}.radio.channel is not numeric or auto")

def tmp_band_shape (data : JsonObject) (band_name : String) : Except PyError JsonObject := do
  let host ← required_object data "host" band_name
  let guest ← required_object data "guest" band_name
  let backhaul ← required_object data "backhaul" band_name
  let radio ← required_object data "radio" band_name
  validate_tmp_band host guest backhaul radio band_name
  let channel ← tmp_channel radio band_name
  let host := assign "channel" (.int channel) host
  let host := assign "mode" (.str (get_str radio "hwmode")) host
  let host := assign "channel_width" (.str (get_str radio "htmode")) host
  return [("host", .obj host), ("guest", .obj guest), ("backhaul", .obj backhaul)]

/-- The loop over the bands. -/
def tmp_bands (data : JsonObject) : List String → Except PyError JsonObject
  | [] => .ok []
  | name :: names =>
    match get data name with
    | .null => tmp_bands data names
    | .obj band => do
      let shape ← tmp_band_shape band name
      let shapes ← tmp_bands data names
      return (name, .obj shape) :: shapes
    | _ => .error (failed s!"{name} is not an object")

/-- The fields under the keys, as they are. -/
def picked (keys : List String) (data : JsonObject) : JsonObject :=
  keys.filterMap fun key => (data.lookup key).map fun value => (key, value)

def normalize_tmp_wlan_configuration (data : JsonObject) (include_passwords : Bool) :
    Except PyError JsonObject := do
  let bands ← tmp_bands data BAND_KEYS
  if bands = [] then .error (failed "no radio bands were returned")
  else do
    let config ← WlanConfig.from_api (bands ++ picked ["iot", "mlo", "is_eg"] data)
    return wlan_view config include_passwords

/-! ## One configuration in two forms -/

/-- The values under the keys have their types. -/
structure Typed (data : JsonObject) (strings booleans integers : List String) : Prop where
  strings : ∀ key ∈ strings, ∃ value, get data key = .str value
  booleans : ∀ key ∈ booleans, ∃ value, get data key = .bool value
  integers : ∀ key ∈ integers, ∃ value, get data key = .int value

/-- A band as the HTTP interface gives it. -/
structure HttpBand (band host guest backhaul : JsonObject) : Prop where
  has_host : get band "host" = .obj host
  has_guest : get band "guest" = .obj guest
  has_backhaul : get band "backhaul" = .obj backhaul
  host_typed : Typed host ["ssid", "password", "encryption_mode", "mode", "channel_width"]
    ["enable", "enable_hide_ssid"] ["channel"]
  guest_typed : Typed guest ["ssid", "password", "encryption_mode"] ["enable", "need_set_vlan"]
    ["vlan_id"]
  backhaul_typed : Typed backhaul [] [] ["channel"]

/-- The keys of a host that the TMP interface has in the radio. -/
def MOVED : List String := ["channel", "mode", "channel_width"]

/-- The text of a channel: its decimal text, or `auto` in any casing for no channel. -/
def RadioChannel (channel : Int) (text : String) : Prop :=
  text = toString channel ∨ casefold text = "auto" ∧ channel = 0

/-- The same band as the TMP interface gives it. -/
structure TmpBand (tmp host guest backhaul tmp_host radio : JsonObject) : Prop where
  has_host : get tmp "host" = .obj tmp_host
  has_guest : get tmp "guest" = .obj guest
  has_backhaul : get tmp "backhaul" = .obj backhaul
  has_radio : get tmp "radio" = .obj radio
  kept : ∀ key, tmp_host.lookup key = if key ∈ MOVED then none else host.lookup key
  channel : ∃ text, get radio "channel" = .str text ∧ RadioChannel (get_int host "channel") text
  mode : get radio "hwmode" = get host "mode"
  channel_width : get radio "htmode" = get host "channel_width"
  enable : ∃ value, get radio "enable" = .bool value

/-- What the two interfaces have under the key of a band. -/
inductive BandForm : Option Json → Option Json → Prop where
  | absent : BandForm none none
  | null : BandForm (some .null) (some .null)
  | band {band tmp host guest backhaul tmp_host radio : JsonObject} :
    HttpBand band host guest backhaul → TmpBand tmp host guest backhaul tmp_host radio →
      BandForm (some (.obj band)) (some (.obj tmp))

/-- `tmp` is the TMP form of the configuration `http`. -/
structure TmpForm (http tmp : JsonObject) : Prop where
  bands : ∀ name ∈ BAND_KEYS, BandForm (http.lookup name) (tmp.lookup name)
  some_band : ∃ name ∈ BAND_KEYS, ∃ band, http.lookup name = some (.obj band)
  others : ∀ key ∈ ["iot", "mlo", "is_eg"], tmp.lookup key = http.lookup key

/-! ## The shape of a TMP band -/

theorem forM_ok {α : Type} {check : α → Except PyError Unit} {items : List α}
    (h : ∀ item ∈ items, check item = .ok ()) : items.forM check = .ok () := by
  induction items with
  | nil => rfl
  | cons item items ih =>
    show (do
      check item
      items.forM check) = _
    rw [h item List.mem_cons_self]
    exact ih fun other hother => h other (List.mem_cons_of_mem _ hother)

theorem require_types_ok {data : JsonObject} {strings booleans integers : List String}
    (h : Typed data strings booleans integers) (band_name section_name : String) :
    require_types data band_name section_name strings booleans integers = .ok () := by
  have hread : ∀ {α : Type} {read : Json → Option α} {description key : String} {value : Json}
      {item : α}, get data key = value → read value = some item →
      require_type read description data band_name section_name key = .ok () := by
    intro α read description key value item hvalue hitem
    unfold require_type
    rw [hvalue, hitem]
    rfl
  have hstrings : strings.forM (require_type Json.asStr "a string" data band_name section_name) =
      .ok () := by
    apply forM_ok
    intro key hkey
    obtain ⟨value, hvalue⟩ := h.strings key hkey
    exact hread hvalue rfl
  have hbooleans : booleans.forM (require_type Json.asBool "a boolean" data band_name
      section_name) = .ok () := by
    apply forM_ok
    intro key hkey
    obtain ⟨value, hvalue⟩ := h.booleans key hkey
    exact hread hvalue rfl
  have hintegers : integers.forM (require_type Json.asInt "an integer" data band_name
      section_name) = .ok () := by
    apply forM_ok
    intro key hkey
    obtain ⟨value, hvalue⟩ := h.integers key hkey
    exact hread hvalue rfl
  unfold require_types
  rw [hstrings, hbooleans, hintegers]
  rfl

theorem Typed.of_gets {data data' : JsonObject} {strings booleans integers : List String}
    (h : Typed data strings booleans integers) {strings' booleans' integers' : List String}
    (hstrings : strings' ⊆ strings) (hbooleans : booleans' ⊆ booleans)
    (hintegers : integers' ⊆ integers)
    (hsame : ∀ key ∈ strings' ++ booleans' ++ integers', get data' key = get data key) :
    Typed data' strings' booleans' integers' where
  strings key hkey := by
    rw [hsame key (by simp [hkey])]
    exact h.strings key (hstrings hkey)
  booleans key hkey := by
    rw [hsame key (by simp [hkey])]
    exact h.booleans key (hbooleans hkey)
  integers key hkey := by
    rw [hsame key (by simp [hkey])]
    exact h.integers key (hintegers hkey)

/-- The text of a number has digits and a sign. -/
theorem mem_toString {value : Int} {c : Char} (hc : c ∈ (toString value).toList) :
    c.isDigit = true ∨ c = '-' := by
  have hdigit : ∀ {n : Nat}, c ∈ n.repr.toList → c.isDigit = true := by
    intro n hn
    rw [Nat.toList_repr] at hn
    exact Nat.isDigit_of_mem_toDigits (by decide) (by decide) hn
  cases value with
  | ofNat n => exact Or.inl (hdigit hc)
  | negSucc n =>
    have htext : toString (Int.negSucc n) = "-" ++ (n + 1).repr := rfl
    rw [htext, String.toList_append, List.mem_append] at hc
    rcases hc with hc | hc
    · exact Or.inr (by simpa using hc)
    · exact Or.inl (hdigit hc)

/-- No number is written `auto`. -/
theorem casefold_toString (value : Int) : casefold (toString value) ≠ "auto" := by
  intro h
  have ha : 'a' ∈ (casefold (toString value)).toList := by
    rw [h]
    decide
  unfold casefold at ha
  rw [String.toList_ofList, List.mem_flatMap] at ha
  obtain ⟨c, hc, hfold⟩ := ha
  have hsame : fold_char c = [c] := by
    rcases mem_toString hc with hdigit | rfl
    · obtain ⟨hlow, hhigh⟩ := digit_bounds hdigit
      unfold fold_char
      rw [if_neg (by simp; omega)]
      split <;> first | omega | rfl
    · decide
  rw [hsame, List.mem_singleton] at hfold
  rcases mem_toString (hfold ▸ hc) with hdigit | hdash
  · exact absurd hdigit (by decide)
  · exact absurd hdash (by decide)

theorem tmp_channel_ok {radio : JsonObject} {text : String} {channel : Int}
    (htext : get radio "channel" = .str text) (h : RadioChannel channel text) (band_name : String) :
    tmp_channel radio band_name = .ok channel := by
  unfold tmp_channel
  rw [get_str_of htext]
  rcases h with rfl | ⟨hauto, rfl⟩
  · simp only [if_neg (casefold_toString channel), int_of_text_toString]
  · simp only [if_pos hauto]

/-- The host gets back what was moved to the radio. -/
theorem lookup_restored {host tmp_host : JsonObject} {channel : Int} {mode width : String}
    (hkept : ∀ key, tmp_host.lookup key = if key ∈ MOVED then none else host.lookup key)
    (hchannel : get host "channel" = .int channel) (hmode : get host "mode" = .str mode)
    (hwidth : get host "channel_width" = .str width) (key : String) :
    (assign "channel_width" (.str width) (assign "mode" (.str mode)
      (assign "channel" (.int channel) tmp_host))).lookup key = host.lookup key := by
  rw [lookup_assign, lookup_assign, lookup_assign, hkept]
  split
  · rename_i hkey
    rw [hkey, lookup_of_get (by simp) hwidth]
  · split
    · rename_i hkey
      rw [hkey, lookup_of_get (by simp) hmode]
    · split
      · rename_i hkey
        rw [hkey, lookup_of_get (by simp) hchannel]
      · rename_i h1 h2 h3
        rw [if_neg (by simp [MOVED, h1, h2, h3])]

/-- The parts of a band read the same values from data with the same values. -/
theorem host_congr {data data' : JsonObject} (h : ∀ key, get data' key = get data key) :
    WlanHost.from_api data' = WlanHost.from_api data := by
  unfold WlanHost.from_api get_str get_int get_bool
  simp only [h]

theorem required_object_eq_ok {data value : JsonObject} {key band_name : String} :
    required_object data key band_name = .ok value ↔ get data key = .obj value := by
  unfold required_object
  cases get data key <;> simp [Json.asObj]

/-- The parts of a TMP band have the fields that are checked, with their types. -/
theorem validate_tmp_band_ok {band tmp host guest backhaul tmp_host radio : JsonObject}
    (hband : HttpBand band host guest backhaul)
    (htmp : TmpBand tmp host guest backhaul tmp_host radio) (band_name : String) :
    validate_tmp_band tmp_host guest backhaul radio band_name = .ok () := by
  have hkept : ∀ key ∉ MOVED, get tmp_host key = get host key := by
    intro key hkey
    exact get_eq_of_lookup ((htmp.kept key).trans (if_neg hkey))
  have hhost : Typed tmp_host ["ssid", "password", "encryption_mode"]
      ["enable", "enable_hide_ssid"] [] :=
    hband.host_typed.of_gets (by simp) (by simp) (by simp) fun key hkey => hkept key (by
      simp only [List.append_nil, List.cons_append, List.nil_append, List.mem_cons,
        List.not_mem_nil, or_false] at hkey
      rcases hkey with rfl | rfl | rfl | rfl | rfl <;> decide)
  have hradio : Typed radio ["channel", "htmode", "hwmode"] ["enable"] [] := by
    obtain ⟨mode, hmode⟩ := hband.host_typed.strings "mode" (by simp)
    obtain ⟨width, hwidth⟩ := hband.host_typed.strings "channel_width" (by simp)
    obtain ⟨text, htext, -⟩ := htmp.channel
    refine ⟨?_, ?_, by simp⟩
    · simp only [List.forall_mem_cons, List.not_mem_nil, false_implies, implies_true, and_true]
      exact ⟨⟨text, htext⟩, ⟨width, htmp.channel_width.trans hwidth⟩,
        ⟨mode, htmp.mode.trans hmode⟩⟩
    · simpa using htmp.enable
  unfold validate_tmp_band
  rw [require_types_ok hhost, require_types_ok hband.guest_typed,
    require_types_ok hband.backhaul_typed, require_types_ok hradio]
  rfl

/-- A TMP band has the shape of a band with the same values. -/
theorem tmp_band_shape_ok {band tmp host guest backhaul tmp_host radio : JsonObject}
    (hband : HttpBand band host guest backhaul)
    (htmp : TmpBand tmp host guest backhaul tmp_host radio) (band_name : String) :
    ∃ shape, tmp_band_shape tmp band_name = .ok shape ∧
      WlanBand.from_api shape = WlanBand.from_api band := by
  obtain ⟨channel, hchannel⟩ := hband.host_typed.integers "channel" (by simp)
  obtain ⟨mode, hmode⟩ := hband.host_typed.strings "mode" (by simp)
  obtain ⟨width, hwidth⟩ := hband.host_typed.strings "channel_width" (by simp)
  obtain ⟨text, htext, hradio⟩ := htmp.channel
  rw [get_int_of hchannel] at hradio
  have hshape : tmp_band_shape tmp band_name = .ok [
      ("host", .obj (assign "channel_width" (.str width) (assign "mode" (.str mode)
        (assign "channel" (.int channel) tmp_host)))),
      ("guest", .obj guest), ("backhaul", .obj backhaul)] := by
    unfold tmp_band_shape
    rw [required_object_eq_ok.mpr htmp.has_host, required_object_eq_ok.mpr htmp.has_guest,
      required_object_eq_ok.mpr htmp.has_backhaul, required_object_eq_ok.mpr htmp.has_radio]
    show (do
      validate_tmp_band tmp_host guest backhaul radio band_name
      let channel ← tmp_channel radio band_name
      return [("host", Json.obj (assign "channel_width" (.str (get_str radio "htmode"))
        (assign "mode" (.str (get_str radio "hwmode"))
          (assign "channel" (.int channel) tmp_host)))),
        ("guest", Json.obj guest), ("backhaul", Json.obj backhaul)]) = _
    rw [validate_tmp_band_ok hband htmp, tmp_channel_ok htext hradio,
      get_str_of (htmp.mode.trans hmode), get_str_of (htmp.channel_width.trans hwidth)]
    rfl
  refine ⟨_, hshape, ?_⟩
  unfold WlanBand.from_api
  rw [get_object_of hband.has_host, get_object_of hband.has_guest,
    get_object_of hband.has_backhaul, ← host_congr fun key =>
      get_eq_of_lookup (lookup_restored htmp.kept hchannel hmode hwidth key)]
  rfl

/-! ## The transformed configuration -/

/-- What the transformed configuration has under the key of a band. -/
inductive Shaped : Option Json → Option Json → Prop where
  | absent : Shaped none none
  | null : Shaped (some .null) none
  | band {band shape : JsonObject} : WlanBand.from_api shape = WlanBand.from_api band →
      Shaped (some (.obj band)) (some (.obj shape))

theorem tmp_bands_ok {http tmp : JsonObject} {names : List String} (hnodup : names.Nodup)
    (h : ∀ name ∈ names, BandForm (http.lookup name) (tmp.lookup name)) :
    ∃ shapes, tmp_bands tmp names = .ok shapes ∧
      (∀ name ∈ names, Shaped (http.lookup name) (shapes.lookup name)) ∧
      ∀ name ∉ names, shapes.lookup name = none := by
  induction names with
  | nil => exact ⟨[], rfl, by simp, fun _ _ => rfl⟩
  | cons name names ih =>
    rw [List.nodup_cons] at hnodup
    obtain ⟨shapes, hshapes, hin, hout⟩ :=
      ih hnodup.2 fun other hother => h other (List.mem_cons_of_mem _ hother)
    have hskip : Shaped (http.lookup name) none → get tmp name = .null →
        ∃ shapes, tmp_bands tmp (name :: names) = .ok shapes ∧
          (∀ other ∈ name :: names, Shaped (http.lookup other) (shapes.lookup other)) ∧
          ∀ other ∉ name :: names, shapes.lookup other = none := by
      intro hshaped hnull
      refine ⟨shapes, ?_, ?_, fun other hother => hout other (List.not_mem_of_not_mem_cons hother)⟩
      · rw [tmp_bands, hnull]
        exact hshapes
      · rw [List.forall_mem_cons, hout name hnodup.1]
        exact ⟨hshaped, hin⟩
    have hform := h name List.mem_cons_self
    cases hhttp : http.lookup name with
    | none =>
      cases htmp : tmp.lookup name with
      | none =>
        apply hskip
        · rw [hhttp]
          exact .absent
        · exact get_of_lookup htmp
      | some value =>
        rw [hhttp, htmp] at hform
        cases hform
    | some value =>
      cases htmp : tmp.lookup name with
      | none =>
        rw [hhttp, htmp] at hform
        cases hform
      | some value' =>
        rw [hhttp, htmp] at hform
        cases hform with
        | null =>
          apply hskip
          · rw [hhttp]
            exact .null
          · exact get_of_lookup htmp
        | @band band tmp_band host guest backhaul tmp_host radio hband htmp_band =>
          obtain ⟨shape, hshape, hsame⟩ := tmp_band_shape_ok hband htmp_band name
          have hget : get tmp name = .obj tmp_band := get_of_lookup htmp
          refine ⟨(name, .obj shape) :: shapes, ?_, ?_, ?_⟩
          · rw [tmp_bands, hget]
            simp only [hshape, hshapes]
            rfl
          · rw [List.forall_mem_cons, hhttp, lookup_cons, if_pos rfl]
            refine ⟨.band hsame, fun other hother => ?_⟩
            rw [lookup_cons, if_neg (ne_of_mem_of_not_mem hother hnodup.1)]
            exact hin other hother
          · intro other hother
            rw [List.mem_cons, not_or] at hother
            rw [lookup_cons, if_neg hother.1]
            exact hout other hother.2

theorem lookup_picked (keys : List String) (data : JsonObject) (key : String) :
    (picked keys data).lookup key = if key ∈ keys then data.lookup key else none := by
  unfold picked
  induction keys with
  | nil => rfl
  | cons k keys ih =>
    cases hk : data.lookup k with
    | none =>
      rw [List.filterMap_cons_none (by rw [hk]; rfl), ih]
      by_cases heq : key = k
      · subst heq
        simp [hk]
      · simp [heq]
    | some value =>
      rw [List.filterMap_cons_some (by rw [hk]; rfl), lookup_cons, ih]
      by_cases heq : key = k
      · subst heq
        simp [hk]
      · simp [heq]

/-- The key is there, and its value is null. -/
def is_null : Option Json → Bool
  | some .null => true
  | _ => false

/-- The configuration without the second bands that are null. -/
def without_null (http : JsonObject) (config : WlanConfig) : WlanConfig :=
  { config with
    band5_2 := if is_null (http.lookup "band5_2") then none else config.band5_2
    band6_2 := if is_null (http.lookup "band6_2") then none else config.band6_2 }

theorem get_object_of_shaped {http shaped : JsonObject} {name : String}
    (h : Shaped (http.lookup name) (shaped.lookup name)) :
    WlanBand.from_api (get_object shaped name) = WlanBand.from_api (get_object http name) := by
  unfold get_object json.get
  cases hhttp : http.lookup name <;> cases hshaped : shaped.lookup name <;>
    rw [hhttp, hshaped] at h <;> cases h
  · rfl
  · rename_i hsame
    exact hsame

theorem optional_band_of_shaped {http shaped : JsonObject} {name : String}
    (h : Shaped (http.lookup name) (shaped.lookup name)) :
    optional_band shaped name =
      (fun band => if is_null (http.lookup name) then none else band) <$>
        optional_band http name := by
  have hsame := get_object_of_shaped h
  unfold optional_band has_key
  rw [hsame]
  cases hhttp : http.lookup name <;> cases hshaped : shaped.lookup name <;>
    rw [hhttp, hshaped] at h <;> cases h
  · rfl
  · rw [get_object_of_null (get_of_lookup hhttp)]
    rfl
  · simp only [Option.isSome_some, if_true]
    cases WlanBand.from_api (get_object http name) <;> rfl

/-- The transformed configuration is the configuration, without the second bands that are null. -/
theorem config_of_shaped {http shaped : JsonObject}
    (hbands : ∀ name ∈ BAND_KEYS, Shaped (http.lookup name) (shaped.lookup name))
    (hothers : ∀ key ∈ ["iot", "mlo", "is_eg"], shaped.lookup key = http.lookup key) :
    WlanConfig.from_api shaped = without_null http <$> WlanConfig.from_api http := by
  have hiot : get_object shaped "iot" = get_object http "iot" :=
    get_object_eq (hothers "iot" (by decide))
  have hmlo : get_object shaped "mlo" = get_object http "mlo" :=
    get_object_eq (hothers "mlo" (by decide))
  have heg : get_bool shaped "is_eg" = get_bool http "is_eg" := by
    unfold get_bool
    rw [get_eq_of_lookup (hothers "is_eg" (by decide))]
  unfold WlanConfig.from_api
  rw [get_object_of_shaped (hbands "band2_4" (by decide)),
    get_object_of_shaped (hbands "band5_1" (by decide)),
    get_object_of_shaped (hbands "band6" (by decide)), hiot, hmlo, heg,
    optional_band_of_shaped (hbands "band5_2" (by decide)),
    optional_band_of_shaped (hbands "band6_2" (by decide))]
  cases WlanBand.from_api (get_object http "band2_4") with
  | error e => rfl
  | ok band2_4 =>
    cases WlanBand.from_api (get_object http "band5_1") with
    | error e => rfl
    | ok band5_1 =>
      cases WlanBand.from_api (get_object http "band6") with
      | error e => rfl
      | ok band6 =>
        cases IotHost.from_api (get_object (get_object http "iot") "host") with
        | error e => rfl
        | ok iot_host =>
          cases MloHost.from_api (get_object (get_object http "mlo") "host") with
          | error e => rfl
          | ok mlo_host =>
            cases optional_band http "band5_2" with
            | error e => rfl
            | ok band5_2 => cases optional_band http "band6_2" <;> rfl

/-- The TMP form is normalized to the view of the configuration without the second bands that are
null. -/
theorem normalize_tmp_eq {http tmp : JsonObject} (h : TmpForm http tmp)
    (include_passwords : Bool) : normalize_tmp_wlan_configuration tmp include_passwords =
      (fun config => wlan_view (without_null http config) include_passwords) <$>
        WlanConfig.from_api http := by
  obtain ⟨shapes, hshapes, hin, hout⟩ := tmp_bands_ok (by decide) h.bands
  have hsome : shapes ≠ [] := by
    rintro rfl
    obtain ⟨name, hname, band, hband⟩ := h.some_band
    have hshaped := hin name hname
    rw [hband] at hshaped
    cases hshaped
  have hlookup : ∀ key, (shapes ++ picked ["iot", "mlo", "is_eg"] tmp).lookup key =
      (shapes.lookup key).or (if key ∈ ["iot", "mlo", "is_eg"] then tmp.lookup key else none) := by
    intro key
    rw [List.lookup_append, lookup_picked]
  have hconfig : WlanConfig.from_api (shapes ++ picked ["iot", "mlo", "is_eg"] tmp) =
      without_null http <$> WlanConfig.from_api http := by
    apply config_of_shaped
    · intro name hname
      have hother : name ∉ ["iot", "mlo", "is_eg"] := by
        revert name
        decide
      rw [hlookup, if_neg hother, Option.or_none]
      exact hin name hname
    · intro key hkey
      have hband : key ∉ BAND_KEYS := by
        revert key
        decide
      rw [hlookup, hout key hband, if_pos hkey, Option.none_or]
      exact h.others key hkey
  unfold normalize_tmp_wlan_configuration
  rw [hshapes]
  show (if shapes = [] then _ else _) = _
  rw [if_neg hsome, hconfig]
  cases WlanConfig.from_api http <;> rfl

/-! ## Where the two views agree -/

/-- The normalized configuration of the HTTP interface. -/
def http_view (data : JsonObject) (include_passwords : Bool) : Except PyError JsonObject := do
  let config ← WlanConfig.from_api data
  return normalize_http_wlan_configuration config include_passwords

/-- Both end well and are the same to JSON, or both raise. -/
def Agree : Except PyError JsonObject → Except PyError JsonObject → Prop
  | .ok view, .ok view' => canonical (.obj view) = canonical (.obj view')
  | .error _, .error _ => True
  | _, _ => False

theorem is_null_iff {value : Option Json} : is_null value = true ↔ value = some .null := by
  unfold is_null
  split <;> simp_all

/-- A view shows a second band exactly if the configuration has it. -/
theorem mem_bands_view (config : WlanConfig) (include_passwords : Bool) :
    ("5ghz-2" ∈ (bands_view config include_passwords).map Prod.fst ↔ config.band5_2.isSome = true) ∧
    ("6ghz-2" ∈ (bands_view config include_passwords).map Prod.fst ↔
      config.band6_2.isSome = true) := by
  unfold bands_view
  cases config.band5_2 <;> cases config.band6_2 <;> simp

/-- Views that are the same to JSON show the same second bands. -/
theorem second_bands_of_canonical {config config' : WlanConfig} {include_passwords : Bool}
    (h : canonical (.obj (wlan_view config include_passwords)) =
      canonical (.obj (wlan_view config' include_passwords))) :
    config.band5_2.isSome = config'.band5_2.isSome ∧
      config.band6_2.isSome = config'.band6_2.isSome := by
  have hdistinct : ∀ config : WlanConfig,
      ((wlan_view config include_passwords).map Prod.fst).Nodup := by
    intro config
    simp [wlan_view]
  have hbands : canonical (.obj (bands_view config include_passwords)) =
      canonical (.obj (bands_view config' include_passwords)) := by
    have hsorted : sorted_fields (wlan_view config include_passwords) =
        sorted_fields (wlan_view config' include_passwords) := by
      unfold canonical at h
      exact Json.obj.inj h
    have hget := congrArg (get · "bands") hsorted
    simp only [get_sorted_fields (hdistinct _)] at hget
    exact hget
  have hmem := fun name => (keys_perm_of_canonical hbands).mem_iff (a := name)
  have h5 := hmem "5ghz-2"
  have h6 := hmem "6ghz-2"
  rw [(mem_bands_view config _).1, (mem_bands_view config' _).1] at h5
  rw [(mem_bands_view config _).2, (mem_bands_view config' _).2] at h6
  exact ⟨Bool.eq_iff_iff.mpr h5, Bool.eq_iff_iff.mpr h6⟩

theorem optional_bands_of_config {data : JsonObject} {config : WlanConfig}
    (h : WlanConfig.from_api data = .ok config) :
    optional_band data "band5_2" = .ok config.band5_2 ∧
      optional_band data "band6_2" = .ok config.band6_2 := by
  unfold WlanConfig.from_api at h
  simp only [bind_eq_ok] at h
  obtain ⟨_, -, _, -, _, -, _, -, _, -, _, h5, _, h6, h⟩ := h
  rw [← Except.ok.inj h]
  exact ⟨h5, h6⟩

/-- A second band that is null is there all the same. -/
theorem isSome_of_null {data : JsonObject} {key : String} {band : Option WlanBand}
    (hnull : data.lookup key = some .null) (h : optional_band data key = .ok band) :
    band.isSome = true := by
  have hkey : has_key data key = true := by
    unfold has_key
    rw [hnull]
    rfl
  unfold optional_band at h
  rw [if_pos hkey, get_object_of_null (get_of_lookup hnull)] at h
  cases h
  rfl

/-- Where the texts decode, the views are the same exactly if no second band is null. -/
theorem agree_of_config {http tmp : JsonObject} (hform : TmpForm http tmp) {config : WlanConfig}
    (hconfig : WlanConfig.from_api http = .ok config) (include_passwords : Bool) :
    Agree (http_view http include_passwords)
        (normalize_tmp_wlan_configuration tmp include_passwords) ↔
      http.lookup "band5_2" ≠ some .null ∧ http.lookup "band6_2" ≠ some .null := by
  obtain ⟨h5, h6⟩ := optional_bands_of_config hconfig
  unfold http_view
  rw [normalize_tmp_eq hform, hconfig]
  show canonical (.obj (wlan_view config include_passwords)) =
    canonical (.obj (wlan_view (without_null http config) include_passwords)) ↔ _
  constructor
  · intro h
    obtain ⟨hsome5, hsome6⟩ := second_bands_of_canonical h
    constructor
    · intro hnull
      rw [isSome_of_null hnull h5] at hsome5
      simp [without_null, is_null_iff.mpr hnull] at hsome5
    · intro hnull
      rw [isSome_of_null hnull h6] at hsome6
      simp [without_null, is_null_iff.mpr hnull] at hsome6
  · rintro ⟨hshown5, hshown6⟩
    have hsame : without_null http config = config := by
      unfold without_null
      rw [if_neg fun h => hshown5 (is_null_iff.mp h), if_neg fun h => hshown6 (is_null_iff.mp h)]
    rw [hsame]

/-- The two interfaces agree on a configuration exactly if neither of its second bands is null, or
one of its texts does not decode. -/
theorem wlan_normalizations_agree_exactly {http tmp : JsonObject} (hform : TmpForm http tmp)
    (include_passwords : Bool) :
    Agree (http_view http include_passwords)
        (normalize_tmp_wlan_configuration tmp include_passwords) ↔
      (http.lookup "band5_2" ≠ some .null ∧ http.lookup "band6_2" ≠ some .null) ∨
        ¬ Decodes (WlanConfig.texts http) := by
  rw [← config_made]
  cases hconfig : WlanConfig.from_api http with
  | error e =>
    have hraised : Agree (http_view http include_passwords)
        (normalize_tmp_wlan_configuration tmp include_passwords) := by
      unfold http_view
      rw [normalize_tmp_eq hform, hconfig]
      trivial
    exact iff_of_true hraised (Or.inr fun ⟨_, h⟩ => nomatch h)
  | ok config =>
    rw [agree_of_config hform hconfig]
    constructor
    · exact Or.inl
    · rintro (h | h)
      · exact h
      · exact absurd ⟨config, rfl⟩ h

/-! ## A second band that is null -/

def plain_host (channel : Int) : JsonObject := [
  ("ssid", .str "SG9tZQ=="), ("password", .str "c2VjcmV0"), ("encryption_mode", .str "psk2"),
  ("enable", .bool true), ("enable_hide_ssid", .bool false), ("channel", .int channel),
  ("mode", .str "11ax"), ("channel_width", .str "HT40")]

def plain_guest : JsonObject := [
  ("ssid", .str "R3Vlc3Q="), ("password", .str ""), ("encryption_mode", .str "psk2"),
  ("enable", .bool false), ("need_set_vlan", .bool false), ("vlan_id", .int 0)]

def plain_band (channel : Int) : JsonObject := [
  ("host", .obj (plain_host channel)), ("guest", .obj plain_guest),
  ("backhaul", .obj [("channel", .int channel)])]

def plain_tmp_host : JsonObject := [
  ("ssid", .str "SG9tZQ=="), ("password", .str "c2VjcmV0"), ("encryption_mode", .str "psk2"),
  ("enable", .bool true), ("enable_hide_ssid", .bool false)]

def plain_radio (channel : String) : JsonObject := [
  ("channel", .str channel), ("hwmode", .str "11ax"), ("htmode", .str "HT40"),
  ("enable", .bool true)]

def plain_tmp_band (channel : Int) (text : String) : JsonObject := [
  ("host", .obj plain_tmp_host), ("guest", .obj plain_guest),
  ("backhaul", .obj [("channel", .int channel)]), ("radio", .obj (plain_radio text))]

theorem plain_band_form {channel : Int} {text : String} (h : RadioChannel channel text) :
    BandForm (some (.obj (plain_band channel))) (some (.obj (plain_tmp_band channel text))) := by
  have hband : HttpBand (plain_band channel) (plain_host channel) plain_guest
      [("channel", .int channel)] := by
    refine ⟨rfl, rfl, rfl, ⟨?_, ?_, ?_⟩, ⟨?_, ?_, ?_⟩, ⟨?_, ?_, ?_⟩⟩
    all_goals simp only [List.forall_mem_cons, List.not_mem_nil, false_implies, implies_true,
      and_true]
    · exact ⟨⟨_, rfl⟩, ⟨_, rfl⟩, ⟨_, rfl⟩, ⟨_, rfl⟩, ⟨_, rfl⟩⟩
    · exact ⟨⟨_, rfl⟩, ⟨_, rfl⟩⟩
    · exact ⟨_, rfl⟩
    · exact ⟨⟨_, rfl⟩, ⟨_, rfl⟩, ⟨_, rfl⟩⟩
    · exact ⟨⟨_, rfl⟩, ⟨_, rfl⟩⟩
    · exact ⟨_, rfl⟩
    · exact ⟨_, rfl⟩
  have hkept : ∀ key, plain_tmp_host.lookup key =
      if key ∈ MOVED then none else (plain_host channel).lookup key := by
    intro key
    unfold plain_tmp_host plain_host MOVED
    simp only [lookup_cons, List.mem_cons, List.not_mem_nil, or_false]
    split_ifs <;> simp_all
  exact .band hband ⟨rfl, rfl, rfl, rfl, hkept, ⟨text, rfl, h⟩, rfl, rfl, ⟨_, rfl⟩⟩

/-- The second 5 GHz band is null. -/
def null_form : JsonObject × JsonObject :=
  ([("band2_4", .obj (plain_band 6)), ("band5_2", .null)],
    [("band2_4", .obj (plain_tmp_band 6 "6")), ("band5_2", .null)])

theorem null_form_ok : TmpForm null_form.1 null_form.2 := by
  refine ⟨?_, ⟨"band2_4", by decide, _, rfl⟩, ?_⟩
  all_goals simp only [BAND_KEYS, List.forall_mem_cons, List.not_mem_nil, false_implies,
    implies_true, and_true]
  · exact ⟨plain_band_form (Or.inl rfl), .absent, .null, .absent, .absent⟩
  · exact ⟨rfl, rfl, rfl⟩

theorem a_null_band_is_shown_once : ∃ http tmp, TmpForm http tmp ∧ ∀ include_passwords,
    ¬ Agree (http_view http include_passwords)
      (normalize_tmp_wlan_configuration tmp include_passwords) := by
  refine ⟨null_form.1, null_form.2, null_form_ok, fun include_passwords h => ?_⟩
  rw [agree_of_config null_form_ok rfl] at h
  exact h.1 rfl

/-- A network on no fixed channel in its first band, a null band, and a second 5 GHz band. -/
def auto_form : JsonObject × JsonObject :=
  ([("band2_4", .obj (plain_band 0)), ("band5_1", .null), ("band5_2", .obj (plain_band 36))],
    [("band2_4", .obj (plain_tmp_band 0 "AUTO")), ("band5_1", .null),
      ("band5_2", .obj (plain_tmp_band 36 "36"))])

theorem auto_form_ok : TmpForm auto_form.1 auto_form.2 := by
  refine ⟨?_, ⟨"band2_4", by decide, _, rfl⟩, ?_⟩
  all_goals simp only [BAND_KEYS, List.forall_mem_cons, List.not_mem_nil, false_implies,
    implies_true, and_true]
  · exact ⟨plain_band_form (Or.inr ⟨by decide, rfl⟩), .null, plain_band_form (Or.inl rfl), .absent,
      .absent⟩
  · exact ⟨rfl, rfl, rfl⟩

/-- Both bands are shown alike, with the passwords and without. -/
theorem the_auto_channel_agrees :
    (http_view auto_form.1 true).toOption.isSome = true ∧
      Agree (http_view auto_form.1 true) (normalize_tmp_wlan_configuration auto_form.2 true) ∧
      Agree (http_view auto_form.1 false) (normalize_tmp_wlan_configuration auto_form.2 false) := by
  have hbands : auto_form.1.lookup "band5_2" ≠ some .null ∧
      auto_form.1.lookup "band6_2" ≠ some .null :=
    ⟨(fun h => nomatch h), (fun h => nomatch h)⟩
  refine ⟨by decide +kernel, ?_, ?_⟩
  · exact (wlan_normalizations_agree_exactly auto_form_ok true).mpr (Or.inl hbands)
  · exact (wlan_normalizations_agree_exactly auto_form_ok false).mpr (Or.inl hbands)

end tplink_deco_api.service.wlan_normalization
