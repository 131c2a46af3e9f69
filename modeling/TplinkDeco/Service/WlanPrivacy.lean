-- What the WLAN view without passwords depends on: two configurations that differ in their
-- passwords only have one view, on both interfaces.
import TplinkDeco.Service.WlanNormalization

open dict json

namespace tplink_deco_api.service.wlan_normalization

open exceptions models

/-! ## Payloads that differ in their passwords -/

/-- The same value, or two objects whose fields are related under each key. -/
def Alike (related : String → Option Json → Option Json → Prop) (value value' : Option Json) :
    Prop :=
  value = value' ∨ ∃ fields fields', value = some (.obj fields) ∧ value' = some (.obj fields') ∧
    ∀ key, related key (fields.lookup key) (fields'.lookup key)

/-- A network, up to its password. -/
def NetworkAlike : Option Json → Option Json → Prop :=
  Alike fun key value value' => key = "password" ∨ value = value'

/-- A band, up to the passwords of its two networks. -/
def BandAlike : Option Json → Option Json → Prop :=
  Alike fun key value value' =>
    if key ∈ ["host", "guest"] then NetworkAlike value value' else value = value'

/-- The `iot` or the `mlo` section, up to the password of its network. -/
def SectionAlike : Option Json → Option Json → Prop :=
  Alike fun key value value' => if key = "host" then NetworkAlike value value' else value = value'

/-- Two payloads that differ in the values of password fields only. -/
def PayloadAlike (data data' : JsonObject) : Prop :=
  ∀ key, if key ∈ BAND_KEYS then BandAlike (data.lookup key) (data'.lookup key)
    else if key ∈ ["iot", "mlo"] then SectionAlike (data.lookup key) (data'.lookup key)
    else data.lookup key = data'.lookup key

section

variable {related : String → Option Json → Option Json → Prop} {data data' : JsonObject}
  {key : String}

theorem Alike.refl (value : Option Json) : Alike related value value := Or.inl rfl

theorem Alike.isSome {value value' : Option Json} (h : Alike related value value') :
    value.isSome = value'.isSome := by
  rcases h with rfl | ⟨fields, fields', rfl, rfl, -⟩ <;> rfl

/-- The same value that is no object, or two objects with related fields. -/
theorem Alike.same_or_objects {value value' : Option Json}
    (hrefl : ∀ key value, related key value value) (h : Alike related value value') :
    (value = value' ∧ ∀ fields, value ≠ some (.obj fields)) ∨
      ∃ fields fields', value = some (.obj fields) ∧ value' = some (.obj fields') ∧
        ∀ key, related key (fields.lookup key) (fields'.lookup key) := by
  rcases h with rfl | hobjects
  · by_cases hobject : ∃ fields, value = some (.obj fields)
    · obtain ⟨fields, rfl⟩ := hobject
      exact Or.inr ⟨fields, fields, rfl, rfl, fun key => hrefl key _⟩
    · exact Or.inl ⟨rfl, fun fields hfields => hobject ⟨fields, hfields⟩⟩
  · exact Or.inr hobjects

/-- The objects under a key are related under each of their keys. -/
theorem Alike.get_object (hrefl : ∀ key value, related key value value)
    (h : Alike related (data.lookup key) (data'.lookup key)) (name : String) :
    related name ((get_object data key).lookup name) ((get_object data' key).lookup name) := by
  rcases h with h | ⟨fields, fields', h, h', hfields⟩
  · rw [get_object_eq h]
    exact hrefl name _
  · rw [get_object_of (get_of_lookup h), get_object_of (get_of_lookup h')]
    exact hfields name

end

/-! ## What is read without the passwords -/

def WlanHost.without_password (host : WlanHost) : WlanHost := { host with password := "" }

def WlanGuest.without_password (guest : WlanGuest) : WlanGuest := { guest with password := "" }

def WlanBand.without_passwords (band : WlanBand) : WlanBand := { band with
  host := WlanHost.without_password band.host
  guest := WlanGuest.without_password band.guest }

def WlanConfig.without_passwords (config : WlanConfig) : WlanConfig := { config with
  band2_4 := WlanBand.without_passwords config.band2_4
  band5_1 := WlanBand.without_passwords config.band5_1
  band6 := WlanBand.without_passwords config.band6
  iot_host := { config.iot_host with password := "" }
  mlo_host := { config.mlo_host with password := "" }
  band5_2 := config.band5_2.map WlanBand.without_passwords
  band6_2 := config.band6_2.map WlanBand.without_passwords }

/-- The view shows no more than that. -/
theorem wlan_view_without_passwords (config : WlanConfig) :
    wlan_view (WlanConfig.without_passwords config) false = wlan_view config false := by
  unfold wlan_view bands_view WlanConfig.without_passwords
  cases config.band5_2 <;> cases config.band6_2 <;> rfl

/-! ## What is read of the fields of two networks -/

section

variable {data data' : JsonObject}

/-- The texts of two networks: the names are decoded from the same text. -/
theorem made_alike {α : Type} {make make' : String → String → α} {made made' : α}
    (hssid : get_str data "ssid" = get_str data' "ssid")
    (h : (do
      let ssid ← decode_b64 (get_str data "ssid")
      let password ← decode_b64 (get_str data "password")
      return make ssid password) = Except.ok made)
    (h' : (do
      let ssid ← decode_b64 (get_str data' "ssid")
      let password ← decode_b64 (get_str data' "password")
      return make' ssid password) = Except.ok made') :
    ∃ ssid password password', make ssid password = made ∧ make' ssid password' = made' := by
  simp only [bind_eq_ok] at h h'
  obtain ⟨ssid, hdecode, password, -, hmade⟩ := h
  obtain ⟨ssid', hdecode', password', -, hmade'⟩ := h'
  rw [hssid, hdecode'] at hdecode
  obtain rfl := Except.ok.inj hdecode
  exact ⟨ssid', password, password', Except.ok.inj hmade, Except.ok.inj hmade'⟩

variable (h : ∀ key, key = "password" ∨ data.lookup key = data'.lookup key)

include h

/-- The other fields of the two networks have the same values. -/
theorem get_alike (key : String) (hkey : key ≠ "password") : get data key = get data' key := by
  exact get_eq_of_lookup ((h key).resolve_left hkey)

theorem host_alike {host host' : WlanHost} (hhost : WlanHost.from_api data = .ok host)
    (hhost' : WlanHost.from_api data' = .ok host') :
    WlanHost.without_password host = WlanHost.without_password host' := by
  have hget := get_alike h
  obtain ⟨ssid, password, password', rfl, rfl⟩ :=
    made_alike (by simp [get_str, hget "ssid"]) hhost hhost'
  simp [WlanHost.without_password, get_str, get_int, get_bool, hget]

theorem guest_alike {guest guest' : WlanGuest} (hguest : WlanGuest.from_api data = .ok guest)
    (hguest' : WlanGuest.from_api data' = .ok guest') :
    WlanGuest.without_password guest = WlanGuest.without_password guest' := by
  have hget := get_alike h
  obtain ⟨ssid, password, password', rfl, rfl⟩ :=
    made_alike (by simp [get_str, hget "ssid"]) hguest hguest'
  have hvlan : has_key data "vlan_id" = has_key data' "vlan_id" := by
    simp [has_key, (h "vlan_id").resolve_left (by decide)]
  have hneed : has_key data "need_set_vlan" = has_key data' "need_set_vlan" := by
    simp [has_key, (h "need_set_vlan").resolve_left (by decide)]
  simp [WlanGuest.without_password, get_int, get_bool, hget, hvlan, hneed]

theorem iot_alike {iot iot' : IotHost} (hiot : IotHost.from_api data = .ok iot)
    (hiot' : IotHost.from_api data' = .ok iot') :
    { iot with password := "" } = { iot' with password := "" } := by
  have hget := get_alike h
  obtain ⟨ssid, password, password', rfl, rfl⟩ :=
    made_alike (by simp [get_str, hget "ssid"]) hiot hiot'
  simp [get_str, get_bool, hget]

theorem mlo_alike {mlo mlo' : MloHost} (hmlo : MloHost.from_api data = .ok mlo)
    (hmlo' : MloHost.from_api data' = .ok mlo') :
    { mlo with password := "" } = { mlo' with password := "" } := by
  have hget := get_alike h
  obtain ⟨ssid, password, password', rfl, rfl⟩ :=
    made_alike (by simp [get_str, hget "ssid"]) hmlo hmlo'
  simp [get_str_tuple, get_bool, hget]

end

/-! ## What is read of two payloads -/

section

variable {data data' : JsonObject}

theorem network_fields {key : String} (h : NetworkAlike (data.lookup key) (data'.lookup key)) :
    ∀ name, name = "password" ∨ (get_object data key).lookup name =
      (get_object data' key).lookup name := by
  exact Alike.get_object (fun _ _ => Or.inr rfl) h

theorem network_objects {fields fields' : JsonObject}
    (h : NetworkAlike (some (.obj fields)) (some (.obj fields'))) :
    ∀ name, name = "password" ∨ fields.lookup name = fields'.lookup name := by
  rcases h.same_or_objects (fun _ _ => Or.inr rfl) with ⟨-, hobject⟩ | ⟨_, _, hfields, hfields', h⟩
  · exact absurd rfl (hobject fields)
  · obtain ⟨rfl⟩ := hfields
    obtain ⟨rfl⟩ := hfields'
    exact h

theorem band_refl (key : String) (value : Option Json) :
    if key ∈ ["host", "guest"] then NetworkAlike value value else value = value := by
  split
  · exact Alike.refl value
  · rfl

/-- The fields of a band, under the same keys of its object. -/
theorem band_fields {key : String} (h : BandAlike (data.lookup key) (data'.lookup key)) :
    ∀ name, if name ∈ ["host", "guest"]
      then NetworkAlike ((get_object data key).lookup name) ((get_object data' key).lookup name)
      else (get_object data key).lookup name = (get_object data' key).lookup name :=
  Alike.get_object band_refl h

theorem band_alike (h : ∀ name, if name ∈ ["host", "guest"]
      then NetworkAlike (data.lookup name) (data'.lookup name)
      else data.lookup name = data'.lookup name)
    {band band' : WlanBand} (hband : WlanBand.from_api data = .ok band)
    (hband' : WlanBand.from_api data' = .ok band') :
    WlanBand.without_passwords band = WlanBand.without_passwords band' := by
  unfold WlanBand.from_api at hband hband'
  simp only [bind_eq_ok] at hband hband'
  obtain ⟨host, hhost, guest, hguest, hmade⟩ := hband
  obtain ⟨host', hhost', guest', hguest', hmade'⟩ := hband'
  obtain rfl := Except.ok.inj hmade
  obtain rfl := Except.ok.inj hmade'
  have hsame_host := host_alike (network_fields (h "host")) hhost hhost'
  have hsame_guest := guest_alike (network_fields (h "guest")) hguest hguest'
  have hlookup : data.lookup "backhaul" = data'.lookup "backhaul" := h "backhaul"
  have hbackhaul := get_object_eq hlookup
  simp [WlanBand.without_passwords, hsame_host, hsame_guest, hbackhaul]

theorem optional_band_alike {key : String} (h : BandAlike (data.lookup key) (data'.lookup key))
    {band band' : Option WlanBand} (hband : optional_band data key = .ok band)
    (hband' : optional_band data' key = .ok band') :
    band.map WlanBand.without_passwords = band'.map WlanBand.without_passwords := by
  have hkey : has_key data key = has_key data' key := h.isSome
  unfold optional_band at hband hband'
  rw [hkey] at hband
  split at hband
  · rename_i hthere
    rw [if_pos hthere] at hband'
    have hshown := band_fields h
    cases hmade : WlanBand.from_api (get_object data key) with
    | error e =>
      rw [hmade] at hband
      cases hband
    | ok made =>
      cases hmade' : WlanBand.from_api (get_object data' key) with
      | error e =>
        rw [hmade'] at hband'
        cases hband'
      | ok made' =>
        rw [hmade] at hband
        rw [hmade'] at hband'
        rw [← Except.ok.inj hband, ← Except.ok.inj hband', Option.map_some, Option.map_some,
          band_alike hshown hmade hmade']
  · rename_i hnone
    rw [if_neg hnone] at hband'
    rw [← Except.ok.inj hband, ← Except.ok.inj hband']

/-- The network of a section. -/
theorem section_network {key : String} (h : SectionAlike (data.lookup key) (data'.lookup key)) :
    ∀ name, name = "password" ∨
      (get_object (get_object data key) "host").lookup name =
        (get_object (get_object data' key) "host").lookup name := by
  have hfields : ∀ name, if name = "host"
      then NetworkAlike ((get_object data key).lookup name) ((get_object data' key).lookup name)
      else (get_object data key).lookup name = (get_object data' key).lookup name := by
    apply Alike.get_object _ h
    intro name value
    split
    · exact Alike.refl value
    · rfl
  exact network_fields (hfields "host")

theorem config_alike (h : PayloadAlike data data') {config config' : WlanConfig}
    (hconfig : WlanConfig.from_api data = .ok config)
    (hconfig' : WlanConfig.from_api data' = .ok config') :
    WlanConfig.without_passwords config = WlanConfig.without_passwords config' := by
  unfold WlanConfig.from_api at hconfig hconfig'
  simp only [bind_eq_ok] at hconfig hconfig'
  obtain ⟨_, h1, _, h2, _, h3, _, h4, _, h5, _, h6, _, h7, hmade⟩ := hconfig
  obtain ⟨_, h1', _, h2', _, h3', _, h4', _, h5', _, h6', _, h7', hmade'⟩ := hconfig'
  obtain rfl := Except.ok.inj hmade
  obtain rfl := Except.ok.inj hmade'
  have heg : get_bool data "is_eg" = get_bool data' "is_eg" := by
    have hlookup : data.lookup "is_eg" = data'.lookup "is_eg" := h "is_eg"
    unfold get_bool
    rw [get_eq_of_lookup hlookup]
  simp [WlanConfig.without_passwords, heg, band_alike (band_fields (h "band2_4")) h1 h1',
    band_alike (band_fields (h "band5_1")) h2 h2', band_alike (band_fields (h "band6")) h3 h3',
    iot_alike (section_network (h "iot")) h4 h4', mlo_alike (section_network (h "mlo")) h5 h5',
    optional_band_alike (h "band5_2") h6 h6', optional_band_alike (h "band6_2") h7 h7']

/-- Payloads that differ in their passwords have one view without passwords. -/
theorem view_alike (h : PayloadAlike data data') {config config' : WlanConfig}
    (hconfig : WlanConfig.from_api data = .ok config)
    (hconfig' : WlanConfig.from_api data' = .ok config') :
    wlan_view config false = wlan_view config' false := by
  rw [← wlan_view_without_passwords, config_alike h hconfig hconfig', wlan_view_without_passwords]

end

/-! ## What the TMP interface reads -/

/-- The parts of a band, and the shape made of them. -/
theorem tmp_band_shape_eq_ok {data shape : JsonObject} {band_name : String}
    (h : tmp_band_shape data band_name = .ok shape) :
    ∃ host guest backhaul radio channel, get data "host" = .obj host ∧
      get data "guest" = .obj guest ∧ get data "backhaul" = .obj backhaul ∧
      get data "radio" = .obj radio ∧ tmp_channel radio band_name = .ok channel ∧
      shape = [
        ("host", .obj (assign "channel_width" (.str (get_str radio "htmode"))
          (assign "mode" (.str (get_str radio "hwmode")) (assign "channel" (.int channel) host)))),
        ("guest", .obj guest), ("backhaul", .obj backhaul)] := by
  unfold tmp_band_shape at h
  simp only [bind_eq_ok, required_object_eq_ok] at h
  obtain ⟨host, hhost, guest, hguest, backhaul, hbackhaul, radio, hradio, _, -, channel, hchannel,
    hmade⟩ := h
  exact ⟨host, guest, backhaul, radio, channel, hhost, hguest, hbackhaul, hradio, hchannel,
    (Except.ok.inj hmade).symm⟩

section

variable {data data' : JsonObject}

/-- Two bands that differ in their passwords have shapes that differ in their passwords. -/
theorem shape_alike (h : ∀ name, if name ∈ ["host", "guest"]
      then NetworkAlike (data.lookup name) (data'.lookup name)
      else data.lookup name = data'.lookup name)
    {shape shape' : JsonObject} {band_name : String}
    (hshape : tmp_band_shape data band_name = .ok shape)
    (hshape' : tmp_band_shape data' band_name = .ok shape') :
    BandAlike (some (.obj shape)) (some (.obj shape')) := by
  obtain ⟨host, guest, backhaul, radio, channel, hhost, hguest, hbackhaul, hradio, hchannel, rfl⟩ :=
    tmp_band_shape_eq_ok hshape
  obtain ⟨host', guest', backhaul', radio', channel', hhost', hguest', hbackhaul', hradio',
    hchannel', rfl⟩ := tmp_band_shape_eq_ok hshape'
  have hkept : ∀ name, name ∉ ["host", "guest"] → get data name = get data' name := by
    intro name hname
    have hlookup := h name
    rw [if_neg hname] at hlookup
    exact get_eq_of_lookup hlookup
  obtain rfl : backhaul = backhaul' := by
    simpa [hbackhaul, hbackhaul'] using hkept "backhaul" (by decide)
  obtain rfl : radio = radio' := by simpa [hradio, hradio'] using hkept "radio" (by decide)
  obtain rfl : channel = channel' := Except.ok.inj (hchannel.symm.trans hchannel')
  have hhosts : NetworkAlike (data.lookup "host") (data'.lookup "host") := h "host"
  have hguests : NetworkAlike (data.lookup "guest") (data'.lookup "guest") := h "guest"
  rw [lookup_of_get (by simp) hhost, lookup_of_get (by simp) hhost'] at hhosts
  rw [lookup_of_get (by simp) hguest, lookup_of_get (by simp) hguest'] at hguests
  refine Or.inr ⟨_, _, rfl, rfl, fun name => ?_⟩
  simp only [lookup_cons]
  by_cases hname : name = "host"
  · -- the three fields of the radio are put in the same way into both of the hosts
    rw [if_pos (by simp [hname]), if_pos hname, if_pos hname]
    refine Or.inr ⟨_, _, rfl, rfl, fun key => ?_⟩
    rcases network_objects hhosts key with hkey | hkey
    · exact Or.inl hkey
    · right
      simp only [lookup_assign, hkey]
  · by_cases hname' : name = "guest"
    · rw [if_pos (by simp [hname']), if_neg hname, if_neg hname, if_pos hname', if_pos hname']
      exact hguests
    · rw [if_neg (by simp [hname, hname']), if_neg hname, if_neg hname, if_neg hname',
        if_neg hname']

theorem tmp_bands_alike (h : PayloadAlike data data') {names : List String}
    (hnames : ∀ name ∈ names, name ∈ BAND_KEYS) {bands bands' : JsonObject}
    (hbands : tmp_bands data names = .ok bands) (hbands' : tmp_bands data' names = .ok bands')
    (key : String) : BandAlike (bands.lookup key) (bands'.lookup key) := by
  induction names generalizing bands bands' with
  | nil =>
    rw [← Except.ok.inj hbands, ← Except.ok.inj hbands']
    exact Alike.refl _
  | cons name names ih =>
    have hrest : ∀ other ∈ names, other ∈ BAND_KEYS :=
      fun other hother => hnames other (List.mem_cons_of_mem _ hother)
    have hname := h name
    rw [if_pos (hnames name List.mem_cons_self)] at hname
    rw [tmp_bands] at hbands hbands'
    rcases hname.same_or_objects band_refl with ⟨hsame, hobject⟩ |
      ⟨band, band', hband, hband', hfields⟩
    · rw [← get_eq_of_lookup hsame] at hbands'
      cases hget : get data name with
      | null =>
        rw [hget] at hbands hbands'
        exact ih hrest hbands hbands'
      | obj band => exact absurd (lookup_of_get (by simp) hget) (hobject band)
      | _ =>
        rw [hget] at hbands
        cases hbands
    · have hget : get data name = .obj band := get_of_lookup hband
      have hget' : get data' name = .obj band' := get_of_lookup hband'
      rw [hget] at hbands
      rw [hget'] at hbands'
      simp only [bind_eq_ok] at hbands hbands'
      obtain ⟨shape, hshape, shapes, hshapes, hmade⟩ := hbands
      obtain ⟨shape', hshape', shapes', hshapes', hmade'⟩ := hbands'
      rw [← Except.ok.inj hmade, ← Except.ok.inj hmade', lookup_cons, lookup_cons]
      by_cases hkey : key = name
      · rw [if_pos hkey, if_pos hkey]
        exact shape_alike hfields hshape hshape'
      · rw [if_neg hkey, if_neg hkey]
        exact ih hrest hshapes hshapes'

/-- The bands that are looked for are all that the loop gives. -/
theorem lookup_tmp_bands {names : List String} {bands : JsonObject}
    (h : tmp_bands data names = .ok bands) {key : String} (hkey : key ∉ names) :
    bands.lookup key = none := by
  induction names generalizing bands with
  | nil =>
    rw [← Except.ok.inj h]
    rfl
  | cons name names ih =>
    rw [List.mem_cons, not_or] at hkey
    rw [tmp_bands] at h
    cases hget : get data name with
    | null =>
      rw [hget] at h
      exact ih h hkey.2
    | obj band =>
      rw [hget] at h
      simp only [bind_eq_ok] at h
      obtain ⟨shape, -, shapes, hshapes, hmade⟩ := h
      rw [← Except.ok.inj hmade, lookup_cons, if_neg hkey.1]
      exact ih hshapes hkey.2
    | _ =>
      rw [hget] at h
      cases h

/-- The transformed payloads differ in their passwords only. -/
theorem transformed_alike (h : PayloadAlike data data') {bands bands' : JsonObject}
    (hbands : tmp_bands data BAND_KEYS = .ok bands)
    (hbands' : tmp_bands data' BAND_KEYS = .ok bands') :
    PayloadAlike (bands ++ picked ["iot", "mlo", "is_eg"] data)
      (bands' ++ picked ["iot", "mlo", "is_eg"] data') := by
  intro key
  have hdata := h key
  rw [List.lookup_append, List.lookup_append, lookup_picked, lookup_picked]
  by_cases hband : key ∈ BAND_KEYS
  · have hother : key ∉ ["iot", "mlo", "is_eg"] := by
      have hapart : ∀ name ∈ BAND_KEYS, name ∉ ["iot", "mlo", "is_eg"] := by decide
      exact hapart key hband
    rw [if_pos hband, if_neg hother, if_neg hother, Option.or_none, Option.or_none]
    exact tmp_bands_alike h (fun _ => id) hbands hbands' key
  · rw [if_neg hband] at hdata ⊢
    rw [lookup_tmp_bands hbands hband, lookup_tmp_bands hbands' hband, Option.none_or,
      Option.none_or]
    by_cases hpicked : key ∈ ["iot", "mlo", "is_eg"]
    · rwa [if_pos hpicked, if_pos hpicked]
    · rw [if_neg hpicked, if_neg hpicked]
      split
      · exact Alike.refl none
      · rfl

end

/-! ## Both of the interfaces -/

theorem normalize_tmp_eq_ok {data view : JsonObject} {include_passwords : Bool}
    (h : normalize_tmp_wlan_configuration data include_passwords = .ok view) :
    ∃ bands config, tmp_bands data BAND_KEYS = .ok bands ∧
      WlanConfig.from_api (bands ++ picked ["iot", "mlo", "is_eg"] data) = .ok config ∧
      view = wlan_view config include_passwords := by
  unfold normalize_tmp_wlan_configuration at h
  rw [bind_eq_ok] at h
  obtain ⟨bands, hbands, h⟩ := h
  split at h
  · cases h
  · rw [bind_eq_ok] at h
    obtain ⟨config, hconfig, hmade⟩ := h
    exact ⟨bands, config, hbands, hconfig, (Except.ok.inj hmade).symm⟩

/-- The views without passwords do not depend on the passwords, on the HTTP interface and on the
TMP interface. -/
theorem wlan_views_hide_passwords {data data' : JsonObject} (h : PayloadAlike data data') :
    (∀ config config', WlanConfig.from_api data = .ok config →
      WlanConfig.from_api data' = .ok config' →
      normalize_http_wlan_configuration config false =
        normalize_http_wlan_configuration config' false) ∧
    ∀ view view', normalize_tmp_wlan_configuration data false = .ok view →
      normalize_tmp_wlan_configuration data' false = .ok view' → view = view' := by
  constructor
  · exact fun config config' hconfig hconfig' => view_alike h hconfig hconfig'
  · intro view view' hview hview'
    obtain ⟨bands, config, hbands, hconfig, rfl⟩ := normalize_tmp_eq_ok hview
    obtain ⟨bands', config', hbands', hconfig', rfl⟩ := normalize_tmp_eq_ok hview'
    exact view_alike (transformed_alike h hbands hbands') hconfig hconfig'

/-- A network of the TMP interface with a password, in Base64. -/
def secret_band (password : String) : JsonObject := [
  ("host", .obj [("ssid", .str ""), ("password", .str password), ("encryption_mode", .str "psk2"),
    ("enable", .bool true), ("enable_hide_ssid", .bool false)]),
  ("guest", .obj plain_guest), ("backhaul", .obj [("channel", .int 6)]),
  ("radio", .obj (plain_radio "6"))]

def secret_payload (password : String) : JsonObject := [("band2_4", .obj (secret_band password))]

theorem secret_payloads_alike (password password' : String) :
    PayloadAlike (secret_payload password) (secret_payload password') := by
  intro key
  unfold secret_payload
  simp only [lookup_cons]
  by_cases hkey : key = "band2_4"
  · rw [if_pos (by simp [hkey, BAND_KEYS]), if_pos hkey, if_pos hkey]
    refine Or.inr ⟨_, _, rfl, rfl, fun name => ?_⟩
    unfold secret_band
    simp only [lookup_cons]
    by_cases hname : name = "host"
    · rw [if_pos (by simp [hname]), if_pos hname, if_pos hname]
      refine Or.inr ⟨_, _, rfl, rfl, fun field => ?_⟩
      simp only [lookup_cons]
      by_cases hfield : field = "password"
      · exact Or.inl hfield
      · right
        rw [if_neg hfield, if_neg hfield]
    · rw [if_neg hname, if_neg hname]
      exact band_refl name _
  · rw [if_neg hkey, if_neg hkey]
    split
    · exact Alike.refl _
    · split
      · exact Alike.refl _
      · rfl

/-- The passwords are `abc` and `xyz`. -/
theorem two_passwords_have_one_view : ∃ view,
    normalize_tmp_wlan_configuration (secret_payload "YWJj") false = .ok view ∧
    normalize_tmp_wlan_configuration (secret_payload "eHl6") false = .ok view := by
  obtain ⟨view, hview⟩ : ∃ view,
      normalize_tmp_wlan_configuration (secret_payload "YWJj") false = .ok view := ⟨_, rfl⟩
  obtain ⟨view', hview'⟩ : ∃ view,
      normalize_tmp_wlan_configuration (secret_payload "eHl6") false = .ok view := ⟨_, rfl⟩
  obtain rfl := (wlan_views_hide_passwords (secret_payloads_alike _ _)).2 view view' hview hview'
  exact ⟨view, hview, hview'⟩

end tplink_deco_api.service.wlan_normalization
