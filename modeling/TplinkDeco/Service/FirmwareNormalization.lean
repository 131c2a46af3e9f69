-- The firmware status of the two interfaces. One lists a row for each device and the other a
-- row for each release, and both show the same releases.
import Mathlib.Data.Finset.Sort
import Mathlib.Data.Prod.Lex
import Mathlib.Data.String.Basic
import TplinkDeco.Exceptions
import TplinkDeco.Lib.Dict
import TplinkDeco.Lib.Json
import TplinkDeco.Lib.Ordered

open dict json ordered

namespace tplink_deco_api.service.firmware_normalization

open exceptions

/-! ## The releases -/

/-- A release, with the nodes that it is for. -/
structure FirmwareRelease where
  device_model : String
  hardware_id : String
  oem_id : String
  latest_version : String
  need_to_download : Bool
  need_to_upgrade : Bool
  force_upgrade : Bool
  release_date : String
  file_size_bytes : Int
  release_note : Option String
  current_versions : Finset String := ∅
  device_ids : Finset String := ∅

/-- `FirmwareRelease.to_dict`. -/
def FirmwareRelease.to_dict (release : FirmwareRelease) : JsonObject := [
  ("device_model", .str release.device_model),
  ("hardware_id", .str release.hardware_id),
  ("oem_id", .str release.oem_id),
  ("latest_version", .str release.latest_version),
  ("current_versions", .arr (release.current_versions.sort.map .str)),
  ("device_ids", .arr (release.device_ids.sort.map .str)),
  ("need_to_download", .bool release.need_to_download),
  ("need_to_upgrade", .bool release.need_to_upgrade),
  ("force_upgrade", .bool release.force_upgrade),
  ("release_date", .str release.release_date),
  ("release_note", release.release_note.elim .null .str),
  ("file_size_bytes", .int release.file_size_bytes)]

/-- Tuples are compared from the left. -/
abbrev ReleaseKey :=
  String ×ₗ String ×ₗ String ×ₗ String ×ₗ Bool ×ₗ Bool ×ₗ Bool ×ₗ String ×ₗ Int

/-- The fields that tell two releases apart, in the order of the response. -/
def release_key (release : FirmwareRelease) : ReleaseKey :=
  toLex (release.device_model, toLex (release.hardware_id, toLex (release.oem_id,
    toLex (release.latest_version, toLex (release.need_to_download,
      toLex (release.need_to_upgrade, toLex (release.force_upgrade,
        toLex (release.release_date, release.file_size_bytes))))))))

/-- The releases that were gathered, each under its key. -/
abbrev Releases := Dict ReleaseKey FirmwareRelease

/-! ## The fields of a row -/

/-- The error of a row that is not as expected. -/
def failed (interface what : String) : PyError :=
  value_error s!"Failed to normalize {interface} firmware status: {what}"

/-- The value under a key, if it has its type. -/
def required {α : Type} (read : Json → Option α) (kind : String) (data : JsonObject)
    (key interface : String) : Except PyError α :=
  match read (get data key) with
  | some value => .ok value
  | none => .error (failed interface s!"{key} is not {kind}")

/-- The items of the array under a key, if they have their type. -/
def required_items {α : Type} (read : Json → Option α) (kind : String) (data : JsonObject)
    (key interface : String) : Except PyError (List α) := do
  let items ← required Json.asArr "an array" data key interface
  if items.all fun item => (read item).isSome then .ok (items.filterMap read)
  else .error (failed interface s!"{key} contains {kind}")

/-- `_required_rows`. -/
def required_rows (data : JsonObject) (interface : String) : Except PyError (List JsonObject) :=
  required_items Json.asObj "a non-object" data "fw_list" interface

/-- `_required_string`. -/
def required_string : JsonObject → String → String → Except PyError String :=
  required Json.asStr "a string"

/-- `_required_string_array`. -/
def required_string_array : JsonObject → String → String → Except PyError (List String) :=
  required_items Json.asStr "a non-string"

/-- `_required_bool`. -/
def required_bool : JsonObject → String → String → Except PyError Bool :=
  required Json.asBool "a boolean"

/-- `_required_int`. -/
def required_int : JsonObject → String → String → Except PyError Int :=
  required Json.asInt "an integer"

/-- The release of an HTTP row, which has no note. -/
def http_release (data : JsonObject) : Except PyError FirmwareRelease := do
  let device_model ← required_string data "device_model" "HTTP"
  let hardware_id ← required_string data "hw_id" "HTTP"
  let oem_id ← required_string data "oem_id" "HTTP"
  let latest_version ← required_string data "new_version" "HTTP"
  let need_to_download ← required_bool data "need_to_download" "HTTP"
  let need_to_upgrade ← required_bool data "need_to_upgrade" "HTTP"
  let force_upgrade ← required_bool data "need_force_upgrade" "HTTP"
  let release_date ← required_string data "release_date" "HTTP"
  let file_size_bytes ← required_int data "file_size" "HTTP"
  return {
    device_model, hardware_id, oem_id, latest_version, need_to_download, need_to_upgrade,
    force_upgrade, release_date, file_size_bytes, release_note := none }

/-- The release of a TMP row, which has no versions. -/
def tmp_release (data : JsonObject) : Except PyError FirmwareRelease := do
  let device_model ← required_string data "device_model" "TMP"
  let hardware_id ← required_string data "hw_id" "TMP"
  let oem_id ← required_string data "oem_id" "TMP"
  let latest_version ← required_string data "version" "TMP"
  let need_to_download ← required_bool data "need_to_download" "TMP"
  let need_to_upgrade ← required_bool data "need_to_upgrade" "TMP"
  let force_upgrade ← required_bool data "need_force_upgrade" "TMP"
  let release_date ← required_string data "release_date" "TMP"
  let file_size_bytes ← required_int data "file_size" "TMP"
  let release_note ← required_string data "release_note" "TMP"
  return {
    device_model, hardware_id, oem_id, latest_version, need_to_download, need_to_upgrade,
    force_upgrade, release_date, file_size_bytes, release_note := some release_note }

/-! ## The two accumulations -/

/-- `releases.setdefault(key, release)`, with what is added to it. -/
def accumulate (releases : Releases) (release : FirmwareRelease)
    (add : FirmwareRelease → FirmwareRelease) : Releases :=
  releases.set (release_key release) (add ((releases.get? (release_key release)).getD release))

/-- One turn of the loop of `normalize_http_firmware_status`. -/
def http_row (releases : Releases) (row : JsonObject) : Except PyError Releases := do
  let release ← http_release row
  let version ← required_string row "software_ver" "HTTP"
  let device ← required_string row "device_id" "HTTP"
  return accumulate releases release fun accumulated => { accumulated with
    current_versions := insert version accumulated.current_versions
    device_ids := insert device accumulated.device_ids }

/-- One turn of the loop of `normalize_tmp_firmware_status`. -/
def tmp_row (releases : Releases) (row : JsonObject) : Except PyError Releases := do
  let release ← tmp_release row
  let devices ← required_string_array row "device_id_list" "TMP"
  return accumulate releases release fun accumulated => { accumulated with
    device_ids := accumulated.device_ids ∪ devices.toFinset }

/-- The response of the gathered releases. -/
def firmware_view (releases : Releases) (unavailable_fields : List String) : JsonObject :=
  let ordered := by_key release_key (releases.entries.map Prod.snd)
  [("update_available", .bool (ordered.any fun release =>
      release.need_to_download || release.need_to_upgrade)),
    ("release_count", .int ordered.length),
    ("releases", .arr (ordered.map fun release => .obj release.to_dict)),
    ("unavailable_fields", .arr (unavailable_fields.map .str))]

/-- `normalize_http_firmware_status`. -/
def normalize_http_firmware_status (data : JsonObject) : Except PyError JsonObject := do
  let rows ← required_rows data "HTTP"
  let releases ← rows.foldlM http_row Dict.empty
  return firmware_view releases ["releases[].release_note"]

/-- `normalize_tmp_firmware_status`. -/
def normalize_tmp_firmware_status (data : JsonObject) : Except PyError JsonObject := do
  let rows ← required_rows data "TMP"
  let releases ← rows.foldlM tmp_row Dict.empty
  return firmware_view releases ["releases[].current_versions"]

/-! ## One row of either interface -/

/-- What a row adds to its release. -/
structure Sighting where
  release : FirmwareRelease
  versions : Finset String := ∅
  devices : Finset String

/-- What a row adds to its release. -/
def Sighting.add (sighting : Sighting) (accumulated : FirmwareRelease) : FirmwareRelease :=
  { accumulated with
    current_versions := sighting.versions ∪ accumulated.current_versions
    device_ids := sighting.devices ∪ accumulated.device_ids }

/-- What an HTTP row says. -/
def http_sighting (row : JsonObject) : Except PyError Sighting := do
  let release ← http_release row
  let version ← required_string row "software_ver" "HTTP"
  let device ← required_string row "device_id" "HTTP"
  return { release, versions := {version}, devices := {device} }

/-- What a TMP row says. -/
def tmp_sighting (row : JsonObject) : Except PyError Sighting := do
  let release ← tmp_release row
  let devices ← required_string_array row "device_id_list" "TMP"
  return { release, devices := devices.toFinset }

/-- One more row. -/
def sighted (releases : Releases) (sighting : Sighting) : Releases :=
  accumulate releases sighting.release sighting.add

/-- All rows. -/
def gathered (sightings : List Sighting) : Releases := sightings.foldl sighted Dict.empty

theorem http_row_map (releases : Releases) (row : JsonObject) :
    http_row releases row = (http_sighting row).map (sighted releases) := by
  unfold http_row http_sighting
  cases http_release row with
  | error e => rfl
  | ok release =>
    cases required_string row "software_ver" "HTTP" with
    | error e => rfl
    | ok version =>
      cases required_string row "device_id" "HTTP" with
      | error e => rfl
      | ok device => rfl

theorem tmp_row_map (releases : Releases) (row : JsonObject) :
    tmp_row releases row = (tmp_sighting row).map (sighted releases) := by
  unfold tmp_row tmp_sighting
  cases tmp_release row with
  | error e => rfl
  | ok release =>
    cases required_string_array row "device_id_list" "TMP" with
    | error e => rfl
    | ok devices =>
      have hadd : (fun accumulated : FirmwareRelease => { accumulated with
          device_ids := accumulated.device_ids ∪ devices.toFinset }) =
          Sighting.add { release, devices := devices.toFinset } := by
        funext accumulated
        unfold Sighting.add
        rw [Finset.empty_union, Finset.union_comm]
      show Except.ok (accumulate releases release _) = _
      rw [hadd]
      rfl

theorem http_row_eq {row : JsonObject} {sighting : Sighting} (h : http_sighting row = .ok sighting)
    (releases : Releases) : http_row releases row = .ok (sighted releases sighting) := by
  rw [http_row_map, h]
  rfl

theorem tmp_row_eq {row : JsonObject} {sighting : Sighting} (h : tmp_sighting row = .ok sighting)
    (releases : Releases) : tmp_row releases row = .ok (sighted releases sighting) := by
  rw [tmp_row_map, h]
  rfl

/-- Rows that can all be read are gathered one after another. -/
theorem foldlM_rows {turn : Releases → JsonObject → Except PyError Releases}
    {read : JsonObject → Except PyError Sighting}
    (hturn : ∀ row sighting, read row = .ok sighting →
      ∀ releases, turn releases row = .ok (sighted releases sighting))
    {rows : List JsonObject} (hrows : ∀ row ∈ rows, ∃ sighting, read row = .ok sighting)
    (releases : Releases) : ∃ sightings : List Sighting,
      rows.foldlM turn releases = .ok (sightings.foldl sighted releases) ∧
        ∀ sighting, sighting ∈ sightings ↔ ∃ row ∈ rows, read row = .ok sighting := by
  induction rows generalizing releases with
  | nil => exact ⟨[], rfl, by simp⟩
  | cons row rows ih =>
    obtain ⟨sighting, hread⟩ := hrows row List.mem_cons_self
    obtain ⟨sightings, hfold, hmem⟩ :=
      ih (fun row h => hrows row (List.mem_cons_of_mem _ h)) (sighted releases sighting)
    refine ⟨sighting :: sightings, ?_, ?_⟩
    · rw [List.foldlM_cons, hturn row sighting hread]
      exact hfold
    · intro other
      rw [List.mem_cons, hmem]
      constructor
      · rintro (rfl | ⟨row', hrow', hread'⟩)
        · exact ⟨row, List.mem_cons_self, hread⟩
        · exact ⟨row', List.mem_cons_of_mem _ hrow', hread'⟩
      · rintro ⟨row', hrow', hread'⟩
        rcases List.mem_cons.mp hrow' with rfl | hrow'
        · rw [hread] at hread'
          exact Or.inl (Except.ok.inj hread').symm
        · exact Or.inr ⟨row', hrow', hread'⟩

/-! ## What is gathered under a key -/

/-- What the sightings of one key make of its entry. -/
def entry (sightings : List Sighting) : Option FirmwareRelease :=
  sightings.foldl (fun entry sighting => some (sighting.add (entry.getD sighting.release))) none

theorem entry_snoc (sightings : List Sighting) (sighting : Sighting) :
    entry (sightings ++ [sighting]) =
      some (sighting.add ((entry sightings).getD sighting.release)) := by
  unfold entry
  rw [List.foldl_append]
  rfl

theorem entry_eq_none {sightings : List Sighting} : entry sightings = none ↔ sightings = [] := by
  induction sightings using List.reverseRecOn with
  | nil => exact iff_of_true rfl rfl
  | append_singleton sightings sighting _ => rw [entry_snoc]; simp

theorem get?_gathered (sightings : List Sighting) (key : ReleaseKey) :
    (gathered sightings).get? key =
      entry (sightings.filter (release_key ·.release = key)) :=
  Dict.get?_foldl_set (fun sighting : Sighting => release_key sighting.release)
    (fun sighting entry => sighting.add (entry.getD sighting.release)) sightings Dict.empty key

/-- The entry keeps the key, and holds the devices of all its sightings. -/
theorem entry_spec {key : ReleaseKey} {sightings : List Sighting} {release : FirmwareRelease}
    (hkey : ∀ sighting ∈ sightings, release_key sighting.release = key)
    (hfresh : ∀ sighting ∈ sightings, sighting.release.device_ids = ∅)
    (h : entry sightings = some release) : release_key release = key ∧ ∀ device,
      device ∈ release.device_ids ↔ ∃ sighting ∈ sightings, device ∈ sighting.devices := by
  induction sightings using List.reverseRecOn generalizing release with
  | nil => cases h
  | append_singleton sightings sighting ih =>
    have hlast : sighting ∈ sightings ++ [sighting] := by simp
    have hbefore : ∀ {P : Sighting → Prop}, (∀ s ∈ sightings ++ [sighting], P s) →
        ∀ s ∈ sightings, P s := fun hall s hs => hall s (List.mem_append_left _ hs)
    rw [entry_snoc] at h
    cases Option.some.inj h
    cases hentry : entry sightings with
    | none =>
      cases entry_eq_none.mp hentry
      refine ⟨hkey sighting hlast, fun device => ?_⟩
      simp [Sighting.add, hfresh sighting hlast]
    | some earlier =>
      obtain ⟨hearlier, hdevices⟩ := ih (hbefore hkey) (hbefore hfresh) hentry
      refine ⟨hearlier, fun device => ?_⟩
      show device ∈ sighting.devices ∪ earlier.device_ids ↔ _
      rw [Finset.mem_union, hdevices]
      simp only [List.mem_append, List.mem_singleton]
      constructor
      · rintro (hin | ⟨other, hother, hin⟩)
        · exact ⟨sighting, Or.inr rfl, hin⟩
        · exact ⟨other, Or.inl hother, hin⟩
      · rintro ⟨other, hother | rfl, hin⟩
        · exact Or.inr ⟨other, hother, hin⟩
        · exact Or.inl hin

/-! ## The releases that both list -/

/-- A release, with its devices, the version that each runs, and its note. -/
structure Release where
  device_model : String
  hardware_id : String
  oem_id : String
  latest_version : String
  need_to_download : Bool
  need_to_upgrade : Bool
  force_upgrade : Bool
  release_date : String
  file_size_bytes : Int
  devices : Finset String
  nonempty : devices.Nonempty
  current_version : String → String
  note : String

namespace Release

/-- The release of a row, with a note or without. -/
def read (release : Release) (release_note : Option String) : FirmwareRelease where
  device_model := release.device_model
  hardware_id := release.hardware_id
  oem_id := release.oem_id
  latest_version := release.latest_version
  need_to_download := release.need_to_download
  need_to_upgrade := release.need_to_upgrade
  force_upgrade := release.force_upgrade
  release_date := release.release_date
  file_size_bytes := release.file_size_bytes
  release_note := release_note

/-- What tells the release apart. -/
def key (release : Release) : ReleaseKey := release_key (release.read none)

/-- The release is new to some node. -/
def available (release : Release) : Bool := release.need_to_download || release.need_to_upgrade

end Release

/-- A row of one device of a release. -/
structure HttpRow (release : Release) (device : String) (row : JsonObject) : Prop where
  device_model : get row "device_model" = .str release.device_model
  hw_id : get row "hw_id" = .str release.hardware_id
  oem_id : get row "oem_id" = .str release.oem_id
  new_version : get row "new_version" = .str release.latest_version
  need_to_download : get row "need_to_download" = .bool release.need_to_download
  need_to_upgrade : get row "need_to_upgrade" = .bool release.need_to_upgrade
  need_force_upgrade : get row "need_force_upgrade" = .bool release.force_upgrade
  release_date : get row "release_date" = .str release.release_date
  file_size : get row "file_size" = .int release.file_size_bytes
  software_ver : get row "software_ver" = .str (release.current_version device)
  device_id : get row "device_id" = .str device

/-- A row of some devices of a release. -/
structure TmpRow (release : Release) (devices : List String) (row : JsonObject) : Prop where
  device_model : get row "device_model" = .str release.device_model
  hw_id : get row "hw_id" = .str release.hardware_id
  oem_id : get row "oem_id" = .str release.oem_id
  version : get row "version" = .str release.latest_version
  need_to_download : get row "need_to_download" = .bool release.need_to_download
  need_to_upgrade : get row "need_to_upgrade" = .bool release.need_to_upgrade
  need_force_upgrade : get row "need_force_upgrade" = .bool release.force_upgrade
  release_date : get row "release_date" = .str release.release_date
  file_size : get row "file_size" = .int release.file_size_bytes
  release_note : get row "release_note" = .str release.note
  device_id_list : get row "device_id_list" = .arr (devices.map .str)

/-- Every row is of a release and one of its devices, and every release has a row for each of its
devices at least. -/
structure HttpRows (releases : List Release) (rows : List JsonObject) : Prop where
  sound : ∀ row ∈ rows, ∃ release ∈ releases, ∃ device ∈ release.devices, HttpRow release device row
  complete : ∀ release ∈ releases, ∀ device ∈ release.devices, ∃ row ∈ rows,
    HttpRow release device row

/-- Every row is of a release and some of its devices, and the rows of a release name all of its
devices together. -/
structure TmpRows (releases : List Release) (rows : List JsonObject) : Prop where
  sound : ∀ row ∈ rows, ∃ release ∈ releases, ∃ devices,
    devices.toFinset ⊆ release.devices ∧ TmpRow release devices row
  complete : ∀ release ∈ releases, ∀ device ∈ release.devices, ∃ row ∈ rows, ∃ devices,
    device ∈ devices ∧ TmpRow release devices row

theorem required_ok {α : Type} {read : Json → Option α} {kind : String} {data : JsonObject}
    {key interface : String} {value : Json} {item : α} (hvalue : get data key = value)
    (hread : read value = some item) : required read kind data key interface = .ok item := by
  unfold required
  rw [hvalue, hread]

theorem required_string_ok {data : JsonObject} {key interface value : String}
    (h : get data key = .str value) : required_string data key interface = .ok value :=
  required_ok h rfl

theorem required_bool_ok {data : JsonObject} {key interface : String} {value : Bool}
    (h : get data key = .bool value) : required_bool data key interface = .ok value :=
  required_ok h rfl

theorem required_int_ok {data : JsonObject} {key interface : String} {value : Int}
    (h : get data key = .int value) : required_int data key interface = .ok value :=
  required_ok h rfl

theorem required_items_ok {α : Type} {read : Json → Option α} {kind : String} {data : JsonObject}
    {key interface : String} {items : List α} (make : α → Json)
    (hvalue : get data key = .arr (items.map make)) (hread : ∀ item, read (make item) = some item) :
    required_items read kind data key interface = .ok items := by
  have hall : ((items.map make).all fun item => (read item).isSome) = true := by
    rw [List.all_map, List.all_eq_true]
    intro item _
    rw [Function.comp_apply, hread]
    rfl
  have hitems : (items.map make).filterMap read = items := by
    have hsome : read ∘ make = some := funext hread
    rw [List.filterMap_map, hsome, List.filterMap_some]
  have harray : required Json.asArr "an array" data key interface = .ok (items.map make) :=
    required_ok hvalue rfl
  unfold required_items
  rw [harray]
  show (if ((items.map make).all fun item => (read item).isSome) = true
    then Except.ok ((items.map make).filterMap read) else _) = _
  rw [if_pos hall, hitems]

theorem HttpRow.sighting {release : Release} {device : String} {row : JsonObject}
    (h : HttpRow release device row) : http_sighting row = .ok {
      release := release.read none
      versions := {release.current_version device}
      devices := {device} } := by
  unfold http_sighting http_release
  rw [required_string_ok h.device_model, required_string_ok h.hw_id, required_string_ok h.oem_id,
    required_string_ok h.new_version, required_bool_ok h.need_to_download,
    required_bool_ok h.need_to_upgrade, required_bool_ok h.need_force_upgrade,
    required_string_ok h.release_date, required_int_ok h.file_size,
    required_string_ok h.software_ver, required_string_ok h.device_id]
  rfl

theorem TmpRow.sighting {release : Release} {devices : List String} {row : JsonObject}
    (h : TmpRow release devices row) : tmp_sighting row = .ok {
      release := release.read (some release.note)
      devices := devices.toFinset } := by
  have hdevices : required_string_array row "device_id_list" "TMP" = .ok devices :=
    required_items_ok .str h.device_id_list fun _ => rfl
  unfold tmp_sighting tmp_release
  rw [required_string_ok h.device_model, required_string_ok h.hw_id, required_string_ok h.oem_id,
    required_string_ok h.version, required_bool_ok h.need_to_download,
    required_bool_ok h.need_to_upgrade, required_bool_ok h.need_force_upgrade,
    required_string_ok h.release_date, required_int_ok h.file_size,
    required_string_ok h.release_note, hdevices]
  rfl

/-! ## The two views -/

/-- The dictionary holds the releases, each under its key and with its devices. -/
structure Gathers (releases : List Release) (gathered : Releases) : Prop where
  keys : ((gathered.entries.map Prod.snd).map release_key).Perm (releases.map Release.key)
  devices : ∀ accumulated ∈ gathered.entries.map Prod.snd, ∀ release ∈ releases,
    release_key accumulated = release.key → accumulated.device_ids = release.devices

/-- Sightings of the releases, which name all of their devices, gather them in any order. -/
theorem gathers_of_sightings {releases : List Release} {sightings : List Sighting}
    (hdistinct : (releases.map Release.key).Nodup)
    (hsound : ∀ sighting ∈ sightings, sighting.release.device_ids = ∅ ∧ ∃ release ∈ releases,
      release_key sighting.release = release.key ∧ sighting.devices ⊆ release.devices)
    (hcomplete : ∀ release ∈ releases, ∀ device ∈ release.devices, ∃ sighting ∈ sightings,
      release_key sighting.release = release.key ∧ device ∈ sighting.devices) :
    Gathers releases (gathered sightings) := by
  have hspec : ∀ {key accumulated}, (key, accumulated) ∈ (gathered sightings).entries →
      release_key accumulated = key ∧ ∀ device, device ∈ accumulated.device_ids ↔
        ∃ sighting ∈ sightings, release_key sighting.release = key ∧
          device ∈ sighting.devices := by
    intro key accumulated hmem
    have hget := (Dict.get?_eq_some _ key accumulated).mpr hmem
    rw [get?_gathered] at hget
    have hspec := entry_spec (fun sighting h => by simpa using (List.mem_filter.mp h).2)
      (fun sighting h => (hsound sighting (List.mem_filter.mp h).1).1) hget
    simpa [and_assoc] using hspec
  refine ⟨?_, ?_⟩
  · have hown : ((gathered sightings).entries.map Prod.snd).map release_key =
        (gathered sightings).keys := by
      rw [List.map_map]
      exact List.map_congr_left fun _ h => (hspec h).1
    have hnodup : (gathered sightings).keys.Nodup := (gathered sightings).nodup
    rw [hown, List.perm_ext_iff_of_nodup hnodup hdistinct]
    intro key
    rw [Dict.mem_keys, ← Option.ne_none_iff_exists', get?_gathered, ne_eq, entry_eq_none]
    simp only [List.filter_eq_nil_iff, decide_eq_true_eq, not_forall, not_not, List.mem_map]
    constructor
    · rintro ⟨sighting, hmem, rfl⟩
      obtain ⟨-, release, hrelease, hkey, -⟩ := hsound sighting hmem
      exact ⟨release, hrelease, hkey.symm⟩
    · rintro ⟨release, hrelease, rfl⟩
      obtain ⟨device, hdevice⟩ := release.nonempty
      obtain ⟨sighting, hmem, hkey, -⟩ := hcomplete release hrelease device hdevice
      exact ⟨sighting, hmem, hkey⟩
  · intro accumulated haccumulated release hrelease hkey
    obtain ⟨⟨key, _⟩, hmem, rfl⟩ := List.mem_map.mp haccumulated
    obtain ⟨rfl, hdevices⟩ := hspec hmem
    ext device
    rw [hdevices]
    constructor
    · rintro ⟨sighting, hsighting, hsame, hin⟩
      obtain ⟨-, release', hrelease', hkey', hsubset⟩ := hsound sighting hsighting
      have heq : release' = release :=
        List.inj_on_of_nodup_map hdistinct hrelease' hrelease (by rw [← hkey', hsame, hkey])
      exact heq ▸ hsubset hin
    · intro hin
      obtain ⟨sighting, hsighting, hsame, hin⟩ := hcomplete release hrelease device hin
      exact ⟨sighting, hsighting, hsame.trans hkey.symm, hin⟩

/-- The fields of a release that both interfaces give. -/
def shared (release : JsonObject) : JsonObject :=
  release.filter fun field => field.1 ∉ ["current_versions", "release_note"]

/-- These fields of a release. -/
def Release.shown (release : Release) : JsonObject :=
  shared { release.read none with device_ids := release.devices : FirmwareRelease }.to_dict

theorem shared_to_dict {accumulated : FirmwareRelease} {release : Release}
    (hkey : release_key accumulated = release.key)
    (hdevices : accumulated.device_ids = release.devices) :
    shared accumulated.to_dict = release.shown := by
  obtain ⟨model, hardware, oem, version, download, upgrade, force, date, size, note, versions,
    devices⟩ := accumulated
  unfold Release.key release_key Release.read at hkey
  simp only [EmbeddingLike.apply_eq_iff_eq, Prod.mk.injEq] at hkey
  obtain ⟨rfl, rfl, rfl, rfl, rfl, rfl, rfl, rfl, rfl⟩ := hkey
  cases hdevices
  rfl

theorem available_of_key {accumulated : FirmwareRelease} {release : Release}
    (hkey : release_key accumulated = release.key) :
    (accumulated.need_to_download || accumulated.need_to_upgrade) = release.available := by
  unfold Release.key release_key Release.read at hkey
  simp only [EmbeddingLike.apply_eq_iff_eq, Prod.mk.injEq] at hkey
  obtain ⟨-, -, -, -, hdownload, hupgrade, -⟩ := hkey
  rw [hdownload, hupgrade]
  rfl

/-- What a view shows of the releases. -/
structure Shows (releases : List Release) (view : JsonObject) (items : List JsonObject) : Prop where
  available : view.lookup "update_available" =
    some (.bool ((by_key Release.key releases).any Release.available))
  count : view.lookup "release_count" = some (.int releases.length)
  listed : view.lookup "releases" = some (.arr (items.map .obj))
  ordered : items.map shared = (by_key Release.key releases).map Release.shown

theorem firmware_view_shows {releases : List Release} {gathered : Releases}
    (h : Gathers releases gathered) (unavailable_fields : List String) :
    ∃ items, Shows releases (firmware_view gathered unavailable_fields) items := by
  have havailable : (by_key release_key (gathered.entries.map Prod.snd)).map
      (fun release => release.need_to_download || release.need_to_upgrade) =
        (by_key Release.key releases).map Release.available :=
    map_by_key_congr h.keys fun _ _ _ _ hkey => available_of_key hkey
  have hshared : (by_key release_key (gathered.entries.map Prod.snd)).map
      (fun release => shared release.to_dict) = (by_key Release.key releases).map Release.shown :=
    map_by_key_congr h.keys fun accumulated ha release hr hkey =>
      shared_to_dict hkey (h.devices accumulated ha release hr hkey)
  refine ⟨(by_key release_key (gathered.entries.map Prod.snd)).map FirmwareRelease.to_dict,
    ?_, ?_, ?_, ?_⟩
  · have hany := congrArg (List.any · id) havailable
    simp only [List.any_map, Function.id_comp] at hany
    exact congrArg (fun b => some (Json.bool b)) hany
  · have hlength := congrArg List.length havailable
    simp only [List.length_map, length_by_key] at hlength
    show some (Json.int (by_key release_key (gathered.entries.map Prod.snd)).length) = _
    rw [length_by_key, List.length_map, hlength]
  · show some (Json.arr _) = _
    rw [List.map_map]
    rfl
  · rw [List.map_map]
    exact hshared

theorem http_status_shows {releases : List Release} (hdistinct : (releases.map Release.key).Nodup)
    {data : JsonObject} {rows : List JsonObject} (hdata : get data "fw_list" = .arr (rows.map .obj))
    (hrows : HttpRows releases rows) : ∃ view items,
      normalize_http_firmware_status data = .ok view ∧ Shows releases view items := by
  obtain ⟨sightings, hfold, hmem⟩ := foldlM_rows (fun _ _ => http_row_eq)
    (fun row hrow => by
      obtain ⟨release, -, device, -, h⟩ := hrows.sound row hrow
      exact ⟨_, h.sighting⟩) Dict.empty
  have hgathers : Gathers releases (gathered sightings) := by
    apply gathers_of_sightings hdistinct
    · intro sighting hsighting
      obtain ⟨row, hrow, hread⟩ := (hmem sighting).mp hsighting
      obtain ⟨release, hrelease, device, hdevice, h⟩ := hrows.sound row hrow
      rw [h.sighting] at hread
      cases hread
      exact ⟨rfl, release, hrelease, rfl, by simpa using hdevice⟩
    · intro release hrelease device hdevice
      obtain ⟨row, hrow, h⟩ := hrows.complete release hrelease device hdevice
      exact ⟨_, (hmem _).mpr ⟨row, hrow, h.sighting⟩, rfl, Finset.mem_singleton_self device⟩
  obtain ⟨items, hitems⟩ := firmware_view_shows hgathers ["releases[].release_note"]
  refine ⟨_, items, ?_, hitems⟩
  have hrequired : required_rows data "HTTP" = .ok rows :=
    required_items_ok .obj hdata fun _ => rfl
  unfold normalize_http_firmware_status
  rw [hrequired]
  show (do
    let releases ← rows.foldlM http_row Dict.empty
    return firmware_view releases ["releases[].release_note"]) = _
  rw [hfold]
  rfl

theorem tmp_status_shows {releases : List Release} (hdistinct : (releases.map Release.key).Nodup)
    {data : JsonObject} {rows : List JsonObject} (hdata : get data "fw_list" = .arr (rows.map .obj))
    (hrows : TmpRows releases rows) : ∃ view items,
      normalize_tmp_firmware_status data = .ok view ∧ Shows releases view items := by
  obtain ⟨sightings, hfold, hmem⟩ := foldlM_rows (fun _ _ => tmp_row_eq)
    (fun row hrow => by
      obtain ⟨release, -, devices, -, h⟩ := hrows.sound row hrow
      exact ⟨_, h.sighting⟩) Dict.empty
  have hgathers : Gathers releases (gathered sightings) := by
    apply gathers_of_sightings hdistinct
    · intro sighting hsighting
      obtain ⟨row, hrow, hread⟩ := (hmem sighting).mp hsighting
      obtain ⟨release, hrelease, devices, hdevices, h⟩ := hrows.sound row hrow
      rw [h.sighting] at hread
      cases hread
      exact ⟨rfl, release, hrelease, rfl, hdevices⟩
    · intro release hrelease device hdevice
      obtain ⟨row, hrow, devices, hin, h⟩ := hrows.complete release hrelease device hdevice
      exact ⟨_, (hmem _).mpr ⟨row, hrow, h.sighting⟩, rfl, List.mem_toFinset.mpr hin⟩
  obtain ⟨items, hitems⟩ := firmware_view_shows hgathers ["releases[].current_versions"]
  refine ⟨_, items, ?_, hitems⟩
  have hrequired : required_rows data "TMP" = .ok rows :=
    required_items_ok .obj hdata fun _ => rfl
  unfold normalize_tmp_firmware_status
  rw [hrequired]
  show (do
    let releases ← rows.foldlM tmp_row Dict.empty
    return firmware_view releases ["releases[].current_versions"]) = _
  rw [hfold]
  rfl

/-- Both interfaces show the same releases, whatever the order of their rows and however often
they name a device. -/
theorem firmware_normalizations_agree (releases : List Release)
    (hdistinct : (releases.map Release.key).Nodup) (http tmp : JsonObject)
    (rows rows' : List JsonObject) (hhttp : get http "fw_list" = .arr (rows.map .obj))
    (htmp : get tmp "fw_list" = .arr (rows'.map .obj)) (hrows : HttpRows releases rows)
    (hrows' : TmpRows releases rows') :
    ∃ (view view' : JsonObject) (items items' : List JsonObject),
      normalize_http_firmware_status http = .ok view ∧
      normalize_tmp_firmware_status tmp = .ok view' ∧
      view.lookup "update_available" = view'.lookup "update_available" ∧
      view.lookup "release_count" = view'.lookup "release_count" ∧
      view.lookup "releases" = some (.arr (items.map .obj)) ∧
      view'.lookup "releases" = some (.arr (items'.map .obj)) ∧
      items.map shared = items'.map shared := by
  obtain ⟨view, items, hview, hshows⟩ := http_status_shows hdistinct hhttp hrows
  obtain ⟨view', items', hview', hshows'⟩ := tmp_status_shows hdistinct htmp hrows'
  refine ⟨view, view', items, items', hview, hview', ?_, ?_, hshows.listed, hshows'.listed, ?_⟩
  · rw [hshows.available, hshows'.available]
  · rw [hshows.count, hshows'.count]
  · rw [hshows.ordered, hshows'.ordered]

/-- A release that two nodes wait for. -/
def waiting_release : Release where
  device_model := "X50"
  hardware_id := "hw-1"
  oem_id := "oem-1"
  latest_version := "1.1.0"
  need_to_download := true
  need_to_upgrade := false
  force_upgrade := false
  release_date := "2024-01-01"
  file_size_bytes := 4096
  devices := {"node-2", "node-1"}
  nonempty := ⟨"node-2", by decide⟩
  current_version := fun device => if device = "node-1" then "1.0.0" else "1.0.1"
  note := "Stability improvements"

def waiting_http (device version : String) : JsonObject := [
  ("device_id", .str device), ("software_ver", .str version), ("device_model", .str "X50"),
  ("hw_id", .str "hw-1"), ("oem_id", .str "oem-1"), ("new_version", .str "1.1.0"),
  ("need_to_download", .bool true), ("need_to_upgrade", .bool false),
  ("need_force_upgrade", .bool false), ("release_date", .str "2024-01-01"),
  ("file_size", .int 4096)]

def waiting_tmp (devices : List String) : JsonObject := [
  ("device_id_list", .arr (devices.map .str)), ("device_model", .str "X50"),
  ("hw_id", .str "hw-1"), ("oem_id", .str "oem-1"), ("version", .str "1.1.0"),
  ("need_to_download", .bool true), ("need_to_upgrade", .bool false),
  ("need_force_upgrade", .bool false), ("release_date", .str "2024-01-01"),
  ("file_size", .int 4096), ("release_note", .str "Stability improvements")]

theorem waiting_http_row : HttpRow waiting_release "node-1" (waiting_http "node-1" "1.0.0") ∧
    HttpRow waiting_release "node-2" (waiting_http "node-2" "1.0.1") := by
  refine ⟨?_, ?_⟩ <;> constructor <;> rfl

theorem waiting_tmp_row (devices : List String) :
    TmpRow waiting_release devices (waiting_tmp devices) := by
  constructor <;> rfl

theorem the_waiting_release_agrees : ∃ (view view' : JsonObject) (items items' : List JsonObject),
    normalize_http_firmware_status [("fw_list", .arr [.obj (waiting_http "node-2" "1.0.1"),
      .obj (waiting_http "node-1" "1.0.0"), .obj (waiting_http "node-2" "1.0.1")])] = .ok view ∧
    normalize_tmp_firmware_status [("fw_list", .arr [.obj (waiting_tmp ["node-1"]),
      .obj (waiting_tmp ["node-2", "node-1"])])] = .ok view' ∧
    view.lookup "update_available" = view'.lookup "update_available" ∧
    view.lookup "release_count" = view'.lookup "release_count" ∧
    view.lookup "releases" = some (.arr (items.map .obj)) ∧
    view'.lookup "releases" = some (.arr (items'.map .obj)) ∧
    items.map shared = items'.map shared := by
  obtain ⟨hfirst, hsecond⟩ := waiting_http_row
  apply firmware_normalizations_agree [waiting_release] (List.nodup_singleton _) _ _
    [waiting_http "node-2" "1.0.1", waiting_http "node-1" "1.0.0", waiting_http "node-2" "1.0.1"]
    [waiting_tmp ["node-1"], waiting_tmp ["node-2", "node-1"]] rfl rfl
  · refine ⟨fun row hrow => ?_, fun release hrelease device hdevice => ?_⟩
    · refine ⟨waiting_release, List.mem_singleton_self _, ?_⟩
      simp only [List.mem_cons, List.not_mem_nil, or_false] at hrow
      rcases hrow with rfl | rfl | rfl
      · exact ⟨"node-2", by decide, hsecond⟩
      · exact ⟨"node-1", by decide, hfirst⟩
      · exact ⟨"node-2", by decide, hsecond⟩
    · cases List.mem_singleton.mp hrelease
      have hdevices : device = "node-2" ∨ device = "node-1" := by
        simpa [waiting_release] using hdevice
      rcases hdevices with rfl | rfl
      · exact ⟨_, List.mem_cons_self, hsecond⟩
      · exact ⟨_, List.mem_cons_of_mem _ List.mem_cons_self, hfirst⟩
  · refine ⟨fun row hrow => ?_, fun release hrelease device hdevice => ?_⟩
    · refine ⟨waiting_release, List.mem_singleton_self _, ?_⟩
      simp only [List.mem_cons, List.not_mem_nil, or_false] at hrow
      rcases hrow with rfl | rfl
      · exact ⟨_, by decide, waiting_tmp_row _⟩
      · exact ⟨_, by decide, waiting_tmp_row _⟩
    · cases List.mem_singleton.mp hrelease
      have hdevices : device ∈ ["node-2", "node-1"] := by
        simpa [waiting_release] using hdevice
      exact ⟨_, List.mem_cons_of_mem _ List.mem_cons_self, _, hdevices, waiting_tmp_row _⟩

end tplink_deco_api.service.firmware_normalization
