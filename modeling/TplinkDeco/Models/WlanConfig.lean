-- The WLAN configuration of the HTTP interface, whose names and passwords are Base64.
import TplinkDeco.Exceptions
import TplinkDeco.Lib.Base64
import TplinkDeco.Models.Accessors

open json

namespace tplink_deco_api.models

open exceptions

/-- A `binascii.Error` is a `ValueError`. The message of a `UnicodeDecodeError` is left out. -/
def decode_b64 (value : String) : Except PyError String :=
  if value = "" then .ok value
  else
    match base64.decode value.toList with
    | .error message => .error (value_error message)
    | .ok data =>
      match text.decode data with
      | some decoded => .ok decoded
      | none => .error { cls := .UnicodeDecodeError }

/-- `key in data`. -/
def has_key (data : JsonObject) (key : String) : Bool := (data.lookup key).isSome

/-! ## One band -/

/-- A network of one band. -/
structure WlanHost where
  ssid : String
  password : String
  channel : Int
  enable : Bool
  mode : String
  channel_width : String
  enable_hide_ssid : Bool

/-- `WlanHost.from_api`. -/
def WlanHost.from_api (data : JsonObject) : Except PyError WlanHost := do
  let ssid ← decode_b64 (get_str data "ssid")
  let password ← decode_b64 (get_str data "password")
  return {
    ssid
    password
    channel := get_int data "channel"
    enable := get_bool data "enable"
    mode := get_str data "mode"
    channel_width := get_str data "channel_width"
    enable_hide_ssid := get_bool data "enable_hide_ssid" }

/-- The guest network of one band. -/
structure WlanGuest where
  ssid : String
  password : String
  enable : Bool
  vlan_id : Option Int
  need_set_vlan : Option Bool

/-- `WlanGuest.from_api`. -/
def WlanGuest.from_api (data : JsonObject) : Except PyError WlanGuest := do
  let ssid ← decode_b64 (get_str data "ssid")
  let password ← decode_b64 (get_str data "password")
  return {
    ssid
    password
    enable := get_bool data "enable"
    vlan_id := if has_key data "vlan_id" then some (get_int data "vlan_id") else none
    need_set_vlan :=
      if has_key data "need_set_vlan" then some (get_bool data "need_set_vlan") else none }

/-- The backhaul of one band. -/
structure WlanBackhaul where
  channel : Int

def WlanBackhaul.from_api (data : JsonObject) : WlanBackhaul := ⟨get_int data "channel"⟩

/-- The networks of one band. -/
structure WlanBand where
  host : WlanHost
  guest : WlanGuest
  backhaul : WlanBackhaul

/-- `WlanBand.from_api`. -/
def WlanBand.from_api (data : JsonObject) : Except PyError WlanBand := do
  let host ← WlanHost.from_api (get_object data "host")
  let guest ← WlanGuest.from_api (get_object data "guest")
  return { host, guest, backhaul := .from_api (get_object data "backhaul") }

/-! ## The configuration -/

/-- The network for the devices of the house. -/
structure IotHost where
  ssid : String
  password : String
  encryption_mode : String
  enable : Bool
  enable_2g : Bool
  enable_5g : Bool

/-- `IotHost.from_api`. -/
def IotHost.from_api (data : JsonObject) : Except PyError IotHost := do
  let ssid ← decode_b64 (get_str data "ssid")
  let password ← decode_b64 (get_str data "password")
  return {
    ssid
    password
    encryption_mode := get_str data "encryption_mode"
    enable := get_bool data "enable"
    enable_2g := get_bool data "enable_2g"
    enable_5g := get_bool data "enable_5g" }

/-- The network over several bands. -/
structure MloHost where
  ssid : String
  password : String
  enable : Bool
  band : List String
  enable_hide_ssid : Bool

/-- `MloHost.from_api`. -/
def MloHost.from_api (data : JsonObject) : Except PyError MloHost := do
  let ssid ← decode_b64 (get_str data "ssid")
  let password ← decode_b64 (get_str data "password")
  return {
    ssid
    password
    enable := get_bool data "enable"
    band := get_str_tuple data "band"
    enable_hide_ssid := get_bool data "enable_hide_ssid" }

/-- The wireless configuration. -/
structure WlanConfig where
  band2_4 : WlanBand
  band5_1 : WlanBand
  band6 : WlanBand
  iot_host : IotHost
  mlo_host : MloHost
  is_eg : Bool
  band5_2 : Option WlanBand
  band6_2 : Option WlanBand

/-- A band that a configuration can be without. -/
def optional_band (data : JsonObject) (key : String) : Except PyError (Option WlanBand) :=
  if has_key data key then some <$> WlanBand.from_api (get_object data key) else .ok none

/-- `WlanConfig.from_api`. -/
def WlanConfig.from_api (data : JsonObject) : Except PyError WlanConfig := do
  let band2_4 ← WlanBand.from_api (get_object data "band2_4")
  let band5_1 ← WlanBand.from_api (get_object data "band5_1")
  let band6 ← WlanBand.from_api (get_object data "band6")
  let iot_host ← IotHost.from_api (get_object (get_object data "iot") "host")
  let mlo_host ← MloHost.from_api (get_object (get_object data "mlo") "host")
  let band5_2 ← optional_band data "band5_2"
  let band6_2 ← optional_band data "band6_2"
  return {
    band2_4, band5_1, band6, iot_host, mlo_host, is_eg := get_bool data "is_eg", band5_2, band6_2 }

/-! ## The texts that are decoded -/

/-- The name and the password of one network. -/
def network_texts (data : JsonObject) : List String :=
  [get_str data "ssid", get_str data "password"]

/-- The encoded texts of one band. -/
def band_texts (data : JsonObject) : List String :=
  network_texts (get_object data "host") ++ network_texts (get_object data "guest")

/-- Each text is decoded. -/
def Decodes (texts : List String) : Prop := ∀ text ∈ texts, ∃ value, decode_b64 text = .ok value

theorem decodes_append {texts texts' : List String} :
    Decodes (texts ++ texts') ↔ Decodes texts ∧ Decodes texts' := List.forall_mem_append

/-- What is made of two decoded texts is made exactly if both of them decode. -/
theorem made_of_texts {α : Type} (data : JsonObject) (make : String → String → α) :
    (∃ made, (do
      let ssid ← decode_b64 (get_str data "ssid")
      let password ← decode_b64 (get_str data "password")
      return make ssid password) = Except.ok made) ↔ Decodes (network_texts data) := by
  unfold Decodes network_texts
  simp only [List.forall_mem_cons, List.not_mem_nil, false_implies, implies_true, and_true]
  cases decode_b64 (get_str data "ssid") with
  | error e => exact iff_of_false (fun ⟨_, h⟩ => nomatch h) (fun h => nomatch h.1)
  | ok ssid =>
    cases decode_b64 (get_str data "password") with
    | error e => exact iff_of_false (fun ⟨_, h⟩ => nomatch h) (fun h => nomatch h.2)
    | ok password => exact iff_of_true ⟨_, rfl⟩ ⟨⟨_, rfl⟩, ⟨_, rfl⟩⟩

theorem host_made (data : JsonObject) :
    (∃ host, WlanHost.from_api data = .ok host) ↔ Decodes (network_texts data) :=
  made_of_texts data _

theorem guest_made (data : JsonObject) :
    (∃ guest, WlanGuest.from_api data = .ok guest) ↔ Decodes (network_texts data) :=
  made_of_texts data _

theorem iot_made (data : JsonObject) :
    (∃ iot, IotHost.from_api data = .ok iot) ↔ Decodes (network_texts data) :=
  made_of_texts data _

theorem mlo_made (data : JsonObject) :
    (∃ mlo, MloHost.from_api data = .ok mlo) ↔ Decodes (network_texts data) :=
  made_of_texts data _

theorem band_made (data : JsonObject) :
    (∃ band, WlanBand.from_api data = .ok band) ↔ Decodes (band_texts data) := by
  unfold band_texts WlanBand.from_api
  rw [decodes_append, ← host_made, ← guest_made]
  simp only [bind_eq_ok]
  constructor
  · rintro ⟨_, host, hhost, guest, hguest, -⟩
    exact ⟨⟨host, hhost⟩, ⟨guest, hguest⟩⟩
  · rintro ⟨⟨host, hhost⟩, ⟨guest, hguest⟩⟩
    exact ⟨_, host, hhost, guest, hguest, rfl⟩

/-- The texts of a band that is not there are empty. -/
theorem bare_band : ∃ bare, WlanBand.from_api [] = .ok bare := ⟨_, rfl⟩

theorem optional_band_made (data : JsonObject) (key : String) :
    (∃ band, optional_band data key = .ok band) ↔ Decodes (band_texts (get_object data key)) := by
  rw [← band_made]
  unfold optional_band
  split
  · cases WlanBand.from_api (get_object data key) with
    | error e => exact iff_of_false (fun ⟨_, h⟩ => nomatch h) (fun ⟨_, h⟩ => nomatch h)
    | ok band => exact iff_of_true ⟨_, rfl⟩ ⟨_, rfl⟩
  · rename_i hkey
    have hlookup : data.lookup key = none :=
      Option.not_isSome_iff_eq_none.mp hkey
    rw [get_object_of_null (get_of_lookup hlookup)]
    exact iff_of_true ⟨_, rfl⟩ bare_band

/-- The texts of a configuration, in the order in which they are decoded. -/
def WlanConfig.texts (data : JsonObject) : List String :=
  band_texts (get_object data "band2_4") ++ band_texts (get_object data "band5_1") ++
    band_texts (get_object data "band6") ++
    network_texts (get_object (get_object data "iot") "host") ++
    network_texts (get_object (get_object data "mlo") "host") ++
    band_texts (get_object data "band5_2") ++ band_texts (get_object data "band6_2")

/-- A configuration is made exactly if all of its texts decode. -/
theorem config_made (data : JsonObject) :
    (∃ config, WlanConfig.from_api data = .ok config) ↔ Decodes (WlanConfig.texts data) := by
  unfold WlanConfig.texts WlanConfig.from_api
  rw [decodes_append, decodes_append, decodes_append, decodes_append, decodes_append,
    decodes_append, ← band_made (get_object data "band2_4"),
    ← band_made (get_object data "band5_1"), ← band_made (get_object data "band6"),
    ← iot_made, ← mlo_made (get_object (get_object data "mlo") "host"),
    ← optional_band_made data "band5_2", ← optional_band_made data "band6_2"]
  simp only [bind_eq_ok]
  constructor
  · rintro ⟨_, _, h1, _, h2, _, h3, _, h4, _, h5, _, h6, _, h7, -⟩
    exact ⟨⟨⟨⟨⟨⟨⟨_, h1⟩, ⟨_, h2⟩⟩, ⟨_, h3⟩⟩, ⟨_, h4⟩⟩, ⟨_, h5⟩⟩, ⟨_, h6⟩⟩, ⟨_, h7⟩⟩
  · rintro ⟨⟨⟨⟨⟨⟨⟨_, h1⟩, ⟨_, h2⟩⟩, ⟨_, h3⟩⟩, ⟨_, h4⟩⟩, ⟨_, h5⟩⟩, ⟨_, h6⟩⟩, ⟨_, h7⟩⟩
    exact ⟨_, _, h1, _, h2, _, h3, _, h4, _, h5, _, h6, _, h7, rfl⟩

end tplink_deco_api.models
