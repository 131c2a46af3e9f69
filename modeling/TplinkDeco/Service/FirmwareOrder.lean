-- The order of the rows of a firmware status. The view does not depend on it, and has what each
-- row has, as long as the rows of one release give one note.
import TplinkDeco.Service.FirmwareNormalization
import Mathlib.Data.List.Perm.Basic

open dict json ordered

namespace tplink_deco_api.service.firmware_normalization

open exceptions

/-! ## The rows, read first and gathered then -/

theorem foldlM_map {turn : Releases → JsonObject → Except PyError Releases}
    {read : JsonObject → Except PyError Sighting}
    (hturn : ∀ releases row, turn releases row = (read row).map (sighted releases))
    (rows : List JsonObject) (releases : Releases) :
    rows.foldlM turn releases = (rows.mapM read).map fun sightings =>
      sightings.foldl sighted releases := by
  induction rows generalizing releases with
  | nil => rfl
  | cons row rows ih =>
    rw [List.foldlM_cons, List.mapM_cons, hturn]
    cases read row with
    | error e => rfl
    | ok sighting =>
      show rows.foldlM turn (sighted releases sighting) = _
      rw [ih]
      cases rows.mapM read <;> rfl

theorem required_rows_ok {data : JsonObject} {rows : List JsonObject}
    (h : get data "fw_list" = .arr (rows.map .obj)) (interface : String) :
    required_rows data interface = .ok rows := required_items_ok .obj h fun _ => rfl

/-- Each row gives its sighting. -/
abbrev Sightings (read : JsonObject → Except PyError Sighting) (rows : List JsonObject)
    (sightings : List Sighting) : Prop :=
  List.Forall₂ (fun row sighting => read row = .ok sighting) rows sightings

/-- The view of the releases that the turns give, where each turn adds what its row gives. -/
theorem view_of_turns {turn : Releases → JsonObject → Except PyError Releases}
    {read : JsonObject → Except PyError Sighting}
    (hturn : ∀ releases row, turn releases row = (read row).map (sighted releases))
    {rows : List JsonObject} {unavailable_fields : List String} {view : JsonObject} :
    (do
      let releases ← rows.foldlM turn Dict.empty
      return firmware_view releases unavailable_fields) = (.ok view : Except PyError JsonObject) ↔
      ∃ sightings, Sightings read rows sightings ∧
        firmware_view (gathered sightings) unavailable_fields = view := by
  rw [foldlM_map hturn]
  simp only [← mapM_eq_ok]
  cases rows.mapM read with
  | error e => simp [Except.map, bind, Except.bind]
  | ok sightings => simp [Except.map, bind, Except.bind, pure, Except.pure, gathered]

section

variable {data view : JsonObject} {rows : List JsonObject}
  (h : get data "fw_list" = .arr (rows.map .obj))

include h

theorem normalize_http_iff : normalize_http_firmware_status data = .ok view ↔
    ∃ sightings, Sightings http_sighting rows sightings ∧
      firmware_view (gathered sightings) ["releases[].release_note"] = view := by
  unfold normalize_http_firmware_status
  rw [required_rows_ok h]
  exact view_of_turns http_row_map

theorem normalize_tmp_iff : normalize_tmp_firmware_status data = .ok view ↔
    ∃ sightings, Sightings tmp_sighting rows sightings ∧
      firmware_view (gathered sightings) ["releases[].current_versions"] = view := by
  unfold normalize_tmp_firmware_status
  rw [required_rows_ok h]
  exact view_of_turns tmp_row_map

end

section

variable {read : JsonObject → Except PyError Sighting} {rows rows' : List JsonObject}
  {sightings : List Sighting}

theorem sightings_perm (h : Sightings read rows sightings) (hperm : rows'.Perm rows) :
    ∃ sightings', Sightings read rows' sightings' ∧ sightings'.Perm sightings := by
  obtain ⟨sightings', hread, hsame⟩ := List.perm_comp_forall₂ hperm h
  exact ⟨sightings', hread, hsame⟩

theorem sighting_of_row (h : Sightings read rows sightings) {row : JsonObject}
    (hrow : row ∈ rows) : ∃ sighting ∈ sightings, read row = .ok sighting :=
  result_of_mapM (mapM_eq_ok.mpr h) hrow

theorem row_of_sighting (h : Sightings read rows sightings) {sighting : Sighting}
    (hsighting : sighting ∈ sightings) : ∃ row ∈ rows, read row = .ok sighting :=
  item_of_mapM (mapM_eq_ok.mpr h) hsighting

end

/-! ## What is gathered of the rows of one release -/

/-- A new release, without versions and devices. -/
def Fresh (sightings : List Sighting) : Prop :=
  ∀ sighting ∈ sightings, sighting.release.current_versions = ∅ ∧ sighting.release.device_ids = ∅

/-- The release has the fields and the note of one of its sightings, and the versions and the
devices of all of them. -/
structure Merged (sightings : List Sighting) (release : FirmwareRelease) : Prop where
  first : ∃ sighting ∈ sightings, release_key release = release_key sighting.release ∧
    release.release_note = sighting.release.release_note
  versions : ∀ version, version ∈ release.current_versions ↔
    ∃ sighting ∈ sightings, version ∈ sighting.versions
  devices : ∀ device, device ∈ release.device_ids ↔
    ∃ sighting ∈ sightings, device ∈ sighting.devices

theorem entry_merged {sightings : List Sighting} {release : FirmwareRelease}
    (hfresh : Fresh sightings) (h : entry sightings = some release) :
    Merged sightings release := by
  induction sightings using List.reverseRecOn generalizing release with
  | nil => cases h
  | append_singleton sightings sighting ih =>
    rw [entry_snoc] at h
    obtain rfl := Option.some.inj h
    have hlast := hfresh sighting (by simp)
    cases hentry : entry sightings with
    | none =>
      cases entry_eq_none.mp hentry
      refine ⟨⟨sighting, by simp, rfl, rfl⟩, fun version => ?_, fun device => ?_⟩
      · simp [Sighting.add, hlast.1]
      · simp [Sighting.add, hlast.2]
    | some earlier =>
      obtain ⟨⟨first, hfirst, hkey, hnote⟩, hversions, hdevices⟩ :=
        ih (fun s hs => hfresh s (List.mem_append_left _ hs)) hentry
      refine ⟨⟨first, by simp [hfirst], hkey, hnote⟩, fun version => ?_, fun device => ?_⟩
      · simp [Sighting.add, hversions, or_comm, or_and_right, exists_or]
      · simp [Sighting.add, hdevices, or_comm, or_and_right, exists_or]

theorem release_ext {release release' : FirmwareRelease}
    (hkey : release_key release = release_key release')
    (hnote : release.release_note = release'.release_note)
    (hversions : release.current_versions = release'.current_versions)
    (hdevices : release.device_ids = release'.device_ids) : release = release' := by
  obtain ⟨model, hardware, oem, version, download, upgrade, force, date, size, note, versions,
    devices⟩ := release
  unfold release_key at hkey
  simp only [EmbeddingLike.apply_eq_iff_eq, Prod.mk.injEq] at hkey
  obtain ⟨rfl, rfl, rfl, rfl, rfl, rfl, rfl, rfl, rfl⟩ := hkey
  cases hnote
  cases hversions
  cases hdevices
  rfl

/-- The sightings of one release. -/
def under (key : ReleaseKey) (sightings : List Sighting) : List Sighting :=
  sightings.filter (release_key ·.release = key)

theorem mem_under {key : ReleaseKey} {sightings : List Sighting} {sighting : Sighting} :
    sighting ∈ under key sightings ↔ sighting ∈ sightings ∧ release_key sighting.release = key := by
  simp [under]

section

variable {sightings : List Sighting} (hfresh : Fresh sightings)

include hfresh

theorem gathered_merged {key : ReleaseKey} {release : FirmwareRelease}
    (h : (key, release) ∈ (gathered sightings).entries) :
    release_key release = key ∧ Merged (under key sightings) release := by
  have hget := (Dict.get?_eq_some _ key release).mpr h
  rw [get?_gathered] at hget
  have hmerged : Merged (under key sightings) release :=
    entry_merged (fun s hs => hfresh s (mem_under.mp hs).1) hget
  obtain ⟨first, hfirst, hkey, -⟩ := hmerged.first
  exact ⟨hkey.trans (mem_under.mp hfirst).2, hmerged⟩

omit hfresh in
theorem mem_keys_gathered (key : ReleaseKey) :
    key ∈ (gathered sightings).keys ↔ ∃ sighting ∈ sightings,
      release_key sighting.release = key := by
  rw [Dict.mem_keys, ← Option.ne_none_iff_exists', get?_gathered, ne_eq, entry_eq_none]
  simp [List.filter_eq_nil_iff]

theorem release_keys_gathered :
    ((gathered sightings).entries.map Prod.snd).map release_key = (gathered sightings).keys := by
  rw [List.map_map]
  exact List.map_congr_left fun _ h => (gathered_merged hfresh h).1

/-- Every sighting is in the release of its key. -/
theorem release_of_sighting {sighting : Sighting} (h : sighting ∈ sightings) :
    ∃ release ∈ (gathered sightings).entries.map Prod.snd,
      release_key release = release_key sighting.release ∧
        Merged (under (release_key sighting.release) sightings) release := by
  have hkey : release_key sighting.release ∈ (gathered sightings).keys :=
    (mem_keys_gathered _).mpr ⟨sighting, h, rfl⟩
  obtain ⟨release, hrelease⟩ := (Dict.mem_keys _ _).mp hkey
  have hentry := (Dict.get?_eq_some _ _ _).mp hrelease
  obtain ⟨hown, hmerged⟩ := gathered_merged hfresh hentry
  exact ⟨release, List.mem_map_of_mem hentry, hown, hmerged⟩

end

/-- The sightings of one release have one note. -/
def OneNote (sightings : List Sighting) : Prop :=
  ∀ first ∈ sightings, ∀ second ∈ sightings,
    release_key first.release = release_key second.release →
      first.release.release_note = second.release.release_note

/-- Releases that are merged of the same sightings are the same. -/
theorem merged_eq {sightings sightings' : List Sighting} {release release' : FirmwareRelease}
    {key : ReleaseKey} (hsame : ∀ sighting, sighting ∈ sightings' ↔ sighting ∈ sightings)
    (hnote : OneNote sightings) (h : Merged (under key sightings) release)
    (h' : Merged (under key sightings') release') : release = release' := by
  have hmem : ∀ sighting, sighting ∈ under key sightings' ↔ sighting ∈ under key sightings := by
    intro sighting
    rw [mem_under, mem_under, hsame]
  obtain ⟨first, hfirst, hkey, hfirst_note⟩ := h.first
  obtain ⟨second, hsecond, hkey', hsecond_note⟩ := h'.first
  rw [hmem] at hsecond
  obtain ⟨hfirst, hfirst_key⟩ := mem_under.mp hfirst
  obtain ⟨hsecond, hsecond_key⟩ := mem_under.mp hsecond
  apply release_ext
  · rw [hkey, hkey', hfirst_key, hsecond_key]
  · rw [hfirst_note, hsecond_note]
    exact hnote first hfirst second hsecond (hfirst_key.trans hsecond_key.symm)
  · ext version
    simp only [h.versions, h'.versions, hmem]
  · ext device
    simp only [h.devices, h'.devices, hmem]

/-- With one note for each release, the view does not depend on the order. -/
theorem firmware_view_perm {sightings sightings' : List Sighting} (hfresh : Fresh sightings)
    (hnote : OneNote sightings) (hperm : sightings'.Perm sightings)
    (unavailable_fields : List String) :
    firmware_view (gathered sightings') unavailable_fields =
      firmware_view (gathered sightings) unavailable_fields := by
  have hfresh' : Fresh sightings' := fun s hs => hfresh s (hperm.mem_iff.mp hs)
  have hkeys : (((gathered sightings').entries.map Prod.snd).map release_key).Perm
      (((gathered sightings).entries.map Prod.snd).map release_key) := by
    have hnodup' : (gathered sightings').keys.Nodup := (gathered sightings').nodup
    have hnodup : (gathered sightings).keys.Nodup := (gathered sightings).nodup
    rw [release_keys_gathered hfresh', release_keys_gathered hfresh,
      List.perm_ext_iff_of_nodup hnodup' hnodup]
    intro key
    simp only [mem_keys_gathered, hperm.mem_iff]
  have hordered : (by_key release_key ((gathered sightings').entries.map Prod.snd)).map id =
      (by_key release_key ((gathered sightings).entries.map Prod.snd)).map id := by
    apply map_by_key_congr hkeys
    intro release' hrelease' release hrelease hkey
    obtain ⟨⟨key', _⟩, hentry', rfl⟩ := List.mem_map.mp hrelease'
    obtain ⟨⟨key, _⟩, hentry, rfl⟩ := List.mem_map.mp hrelease
    obtain ⟨hown', hmerged'⟩ := gathered_merged hfresh' hentry'
    obtain ⟨hown, hmerged⟩ := gathered_merged hfresh hentry
    obtain rfl : key' = key := by
      rw [← hown', ← hown]
      exact hkey
    exact (merged_eq (fun _ => hperm.mem_iff) hnote hmerged hmerged').symm
  rw [List.map_id, List.map_id] at hordered
  unfold firmware_view
  rw [hordered]

/-! ## What a row gives -/

theorem required_eq_ok {α : Type} {read : Json → Option α} {kind : String} {data : JsonObject}
    {key interface : String} {item : α} (h : required read kind data key interface = .ok item) :
    read (get data key) = some item := by
  unfold required at h
  split at h
  · rename_i hread
    rw [hread, Except.ok.inj h]
  · cases h

theorem required_string_eq_ok {data : JsonObject} {key interface value : String}
    (h : required_string data key interface = .ok value) : get data key = .str value := by
  have hread := required_eq_ok h
  cases hvalue : get data key with
  | str other =>
    rw [hvalue] at hread
    rw [Option.some.inj hread]
  | _ =>
    rw [hvalue] at hread
    cases hread

/-- The strings of an array, all of which are read. -/
theorem required_string_array_eq_ok {data : JsonObject} {key interface : String}
    {values : List String} (h : required_string_array data key interface = .ok values)
    {items : List Json} (hitems : get data key = .arr items) {value : String}
    (hvalue : .str value ∈ items) : value ∈ values := by
  unfold required_string_array required_items at h
  rw [bind_eq_ok] at h
  obtain ⟨items', hread, h⟩ := h
  have harray := required_eq_ok hread
  rw [hitems] at harray
  obtain rfl := Option.some.inj harray
  split at h
  · rw [← Except.ok.inj h]
    exact List.mem_filterMap.mpr ⟨.str value, hvalue, rfl⟩
  · cases h

theorem http_release_spec {row : JsonObject} {release : FirmwareRelease}
    (h : http_release row = .ok release) : release.release_note = none ∧
      release.current_versions = ∅ ∧ release.device_ids = ∅ := by
  unfold http_release at h
  simp only [bind_eq_ok] at h
  obtain ⟨_, -, _, -, _, -, _, -, _, -, _, -, _, -, _, -, _, -, hmade⟩ := h
  rw [← Except.ok.inj hmade]
  exact ⟨rfl, rfl, rfl⟩

theorem tmp_release_spec {row : JsonObject} {release : FirmwareRelease}
    (h : tmp_release row = .ok release) :
    (∃ note, get row "release_note" = .str note ∧ release.release_note = some note) ∧
      release.current_versions = ∅ ∧ release.device_ids = ∅ := by
  unfold tmp_release at h
  simp only [bind_eq_ok] at h
  obtain ⟨_, -, _, -, _, -, _, -, _, -, _, -, _, -, _, -, _, -, note, hnote, hmade⟩ := h
  rw [← Except.ok.inj hmade]
  exact ⟨⟨note, required_string_eq_ok hnote, rfl⟩, rfl, rfl⟩

theorem http_sighting_spec {row : JsonObject} {sighting : Sighting}
    (h : http_sighting row = .ok sighting) :
    http_release row = .ok sighting.release ∧
      (∀ version, get row "software_ver" = .str version → version ∈ sighting.versions) ∧
      ∀ device, get row "device_id" = .str device → device ∈ sighting.devices := by
  unfold http_sighting at h
  simp only [bind_eq_ok] at h
  obtain ⟨release, hrelease, version, hversion, device, hdevice, hmade⟩ := h
  rw [← Except.ok.inj hmade]
  refine ⟨hrelease, ?_, ?_⟩
  · intro other hother
    rw [required_string_eq_ok hversion] at hother
    cases hother
    exact Finset.mem_singleton_self version
  · intro other hother
    rw [required_string_eq_ok hdevice] at hother
    cases hother
    exact Finset.mem_singleton_self device

theorem tmp_sighting_spec {row : JsonObject} {sighting : Sighting}
    (h : tmp_sighting row = .ok sighting) :
    tmp_release row = .ok sighting.release ∧
      ∀ devices, get row "device_id_list" = .arr devices →
        ∀ device, .str device ∈ devices → device ∈ sighting.devices := by
  unfold tmp_sighting at h
  simp only [bind_eq_ok] at h
  obtain ⟨release, hrelease, devices, hdevices, hmade⟩ := h
  rw [← Except.ok.inj hmade]
  refine ⟨hrelease, fun items hitems device hdevice => ?_⟩
  exact List.mem_toFinset.mpr (required_string_array_eq_ok hdevices hitems hdevice)

/-! ## Rows in any order -/

/-- The view shows releases with different keys, and each row has its release. -/
def Lossless (kept : JsonObject → FirmwareRelease → Prop) (rows : List JsonObject)
    (view : JsonObject) : Prop :=
  ∃ releases : List FirmwareRelease,
    view.lookup "releases" = some (.arr (releases.map fun release => .obj release.to_dict)) ∧
    (releases.map release_key).Nodup ∧ ∀ row ∈ rows, ∃ release ∈ releases, kept row release

/-- The same view for the rows in any order. -/
def OrderFree (normalize : JsonObject → Except PyError JsonObject) (rows : List JsonObject)
    (view : JsonObject) : Prop :=
  ∀ (data' : JsonObject) (rows' : List JsonObject),
    get data' "fw_list" = .arr (rows'.map .obj) → rows'.Perm rows → normalize data' = .ok view

/-- The release of an HTTP row has its key, its device and its version. -/
structure HttpKept (row : JsonObject) (release : FirmwareRelease) : Prop where
  key : ∃ own, http_release row = .ok own ∧ release_key release = release_key own
  version : ∀ version, get row "software_ver" = .str version → version ∈ release.current_versions
  device : ∀ device, get row "device_id" = .str device → device ∈ release.device_ids

/-- The release of a TMP row has its key, its devices and its note. -/
structure TmpKept (row : JsonObject) (release : FirmwareRelease) : Prop where
  key : ∃ own, tmp_release row = .ok own ∧ release_key release = release_key own
  devices : ∀ devices, get row "device_id_list" = .arr devices →
    ∀ device, .str device ∈ devices → device ∈ release.device_ids
  note : ∀ note, get row "release_note" = .str note → release.release_note = some note

/-- Rows of one release give one note. -/
def RowsOneNote (rows : List JsonObject) : Prop :=
  ∀ first ∈ rows, ∀ second ∈ rows, ∀ release release', tmp_release first = .ok release →
    tmp_release second = .ok release' → release_key release = release_key release' →
      get first "release_note" = get second "release_note"

/-- The releases that a view shows. -/
def shown_releases (releases : Releases) : List FirmwareRelease :=
  by_key release_key (releases.entries.map Prod.snd)

theorem firmware_view_releases (releases : Releases) (unavailable_fields : List String) :
    (firmware_view releases unavailable_fields).lookup "releases" =
      some (.arr ((shown_releases releases).map fun release => .obj release.to_dict)) := rfl

theorem nodup_shown_releases {sightings : List Sighting} (hfresh : Fresh sightings) :
    ((shown_releases (gathered sightings)).map release_key).Nodup := by
  have hnodup : (gathered sightings).keys.Nodup := (gathered sightings).nodup
  rw [← release_keys_gathered hfresh] at hnodup
  exact ((perm_by_key release_key _).map release_key).nodup_iff.mpr hnodup

section

variable {rows : List JsonObject} {sightings : List Sighting}

theorem fresh_http (h : Sightings http_sighting rows sightings) : Fresh sightings := by
  intro sighting hsighting
  obtain ⟨row, -, hread⟩ := row_of_sighting h hsighting
  exact (http_release_spec (http_sighting_spec hread).1).2

theorem fresh_tmp (h : Sightings tmp_sighting rows sightings) : Fresh sightings := by
  intro sighting hsighting
  obtain ⟨row, -, hread⟩ := row_of_sighting h hsighting
  exact (tmp_release_spec (tmp_sighting_spec hread).1).2

/-- HTTP rows have no note. -/
theorem one_note_http (h : Sightings http_sighting rows sightings) : OneNote sightings := by
  have hnone : ∀ sighting ∈ sightings, sighting.release.release_note = none := by
    intro sighting hsighting
    obtain ⟨row, -, hread⟩ := row_of_sighting h hsighting
    exact (http_release_spec (http_sighting_spec hread).1).1
  intro first hfirst second hsecond _
  rw [hnone first hfirst, hnone second hsecond]

theorem one_note_tmp (h : Sightings tmp_sighting rows sightings) (hnote : RowsOneNote rows) :
    OneNote sightings := by
  intro first hfirst second hsecond hkey
  obtain ⟨row, hrow, hread⟩ := row_of_sighting h hfirst
  obtain ⟨row', hrow', hread'⟩ := row_of_sighting h hsecond
  have hrelease := (tmp_sighting_spec hread).1
  have hrelease' := (tmp_sighting_spec hread').1
  obtain ⟨note, hget, hown⟩ := (tmp_release_spec hrelease).1
  obtain ⟨note', hget', hown'⟩ := (tmp_release_spec hrelease').1
  have hsame := hnote row hrow row' hrow' _ _ hrelease hrelease' hkey
  rw [hget, hget', Json.str.injEq] at hsame
  rw [hown, hown', hsame]

theorem http_lossless (h : Sightings http_sighting rows sightings)
    (unavailable_fields : List String) :
    Lossless HttpKept rows (firmware_view (gathered sightings) unavailable_fields) := by
  have hfresh := fresh_http h
  refine ⟨_, firmware_view_releases _ _, nodup_shown_releases hfresh, fun row hrow => ?_⟩
  obtain ⟨sighting, hsighting, hread⟩ := sighting_of_row h hrow
  obtain ⟨hown, hversion, hdevice⟩ := http_sighting_spec hread
  obtain ⟨release, hrelease, hkey, hmerged⟩ := release_of_sighting hfresh hsighting
  have hunder := mem_under.mpr ⟨hsighting, rfl⟩
  refine ⟨release, mem_by_key.mpr hrelease, ⟨_, hown, hkey⟩, ?_, ?_⟩
  · exact fun version hget =>
      (hmerged.versions version).mpr ⟨sighting, hunder, hversion version hget⟩
  · exact fun device hget => (hmerged.devices device).mpr ⟨sighting, hunder, hdevice device hget⟩

/-- Rows of one release with one note. -/
theorem tmp_lossless (h : Sightings tmp_sighting rows sightings) (hnote : OneNote sightings)
    (unavailable_fields : List String) :
    Lossless TmpKept rows (firmware_view (gathered sightings) unavailable_fields) := by
  have hfresh := fresh_tmp h
  refine ⟨_, firmware_view_releases _ _, nodup_shown_releases hfresh, fun row hrow => ?_⟩
  obtain ⟨sighting, hsighting, hread⟩ := sighting_of_row h hrow
  obtain ⟨hown, hdevices⟩ := tmp_sighting_spec hread
  obtain ⟨release, hrelease, hkey, hmerged⟩ := release_of_sighting hfresh hsighting
  have hunder := mem_under.mpr ⟨hsighting, rfl⟩
  refine ⟨release, mem_by_key.mpr hrelease, ⟨_, hown, hkey⟩, ?_, ?_⟩
  · exact fun devices hget device hdevice =>
      (hmerged.devices device).mpr ⟨sighting, hunder, hdevices devices hget device hdevice⟩
  · intro note hget
    obtain ⟨first, hfirst, -, hfirst_note⟩ := hmerged.first
    obtain ⟨hfirst, hfirst_key⟩ := mem_under.mp hfirst
    obtain ⟨own, hget', hown_note⟩ := (tmp_release_spec hown).1
    rw [hget, Json.str.injEq] at hget'
    rw [hfirst_note, hnote first hfirst sighting hsighting hfirst_key, hown_note, hget']

end

/-- What is lossless has one note for the rows of one release. -/
theorem one_note_of_lossless {rows : List JsonObject} {view : JsonObject}
    (h : Lossless TmpKept rows view) : RowsOneNote rows := by
  obtain ⟨releases, -, hnodup, hkept⟩ := h
  intro first hfirst second hsecond release release' hrelease hrelease' hsame
  obtain ⟨kept, hmem, ⟨own, hown, hkey⟩, -, hnote⟩ := hkept first hfirst
  obtain ⟨kept', hmem', ⟨own', hown', hkey'⟩, -, hnote'⟩ := hkept second hsecond
  obtain rfl := Except.ok.inj (hrelease.symm.trans hown)
  obtain rfl := Except.ok.inj (hrelease'.symm.trans hown')
  obtain rfl : kept = kept' :=
    List.inj_on_of_nodup_map hnodup hmem hmem' (by rw [hkey, hkey', hsame])
  obtain ⟨note, hget, -⟩ := (tmp_release_spec hrelease).1
  obtain ⟨note', hget', -⟩ := (tmp_release_spec hrelease').1
  have heq := (hnote note hget).symm.trans (hnote' note' hget')
  rw [hget, hget', Option.some.inj heq]

/-- The HTTP view does not depend on the order of the rows and drops nothing of a row. The TMP view
does so exactly if the rows of one release give one note. -/
theorem firmware_rows_in_any_order {data view : JsonObject} {rows : List JsonObject}
    (hrows : get data "fw_list" = .arr (rows.map .obj)) :
    (normalize_http_firmware_status data = .ok view →
      OrderFree normalize_http_firmware_status rows view ∧ Lossless HttpKept rows view) ∧
    (normalize_tmp_firmware_status data = .ok view →
      (OrderFree normalize_tmp_firmware_status rows view ∧ Lossless TmpKept rows view ↔
        RowsOneNote rows)) := by
  constructor
  · intro hview
    obtain ⟨sightings, hread, rfl⟩ := (normalize_http_iff hrows).mp hview
    refine ⟨?_, http_lossless hread _⟩
    intro data' rows' hrows' hperm
    obtain ⟨sightings', hread', hperm'⟩ := sightings_perm hread hperm
    exact (normalize_http_iff hrows').mpr ⟨sightings', hread',
      firmware_view_perm (fresh_http hread) (one_note_http hread) hperm' _⟩
  · intro hview
    obtain ⟨sightings, hread, rfl⟩ := (normalize_tmp_iff hrows).mp hview
    constructor
    · exact fun h => one_note_of_lossless h.2
    · intro hnote
      have hone := one_note_tmp hread hnote
      refine ⟨?_, tmp_lossless hread hone _⟩
      intro data' rows' hrows' hperm
      obtain ⟨sightings', hread', hperm'⟩ := sightings_perm hread hperm
      exact (normalize_tmp_iff hrows').mpr ⟨sightings', hread',
        firmware_view_perm (fresh_tmp hread) hone hperm' _⟩

/-! ### A release with two notes -/

def noted_row (device note : String) : JsonObject := [
  ("device_id_list", .arr [.str device]), ("device_model", .str "X50"), ("hw_id", .str "hw-1"),
  ("oem_id", .str "oem-1"), ("version", .str "1.1.0"), ("need_to_download", .bool true),
  ("need_to_upgrade", .bool false), ("need_force_upgrade", .bool false),
  ("release_date", .str "2024-01-01"), ("file_size", .int 4096), ("release_note", .str note)]

def noted_rows : List JsonObject := [noted_row "node-1" "Fixes", noted_row "node-2" "Fixes, later"]

def status_of (rows : List JsonObject) : JsonObject := [("fw_list", .arr (rows.map .obj))]

/-- The note of the first release of a view. -/
def first_note (view : JsonObject) : Option String :=
  match view.lookup "releases" with
  | some (.arr (.obj release :: _)) => (get release "release_note").asStr
  | _ => none

/-- The second note is dropped, and the notes change with the order. -/
theorem two_notes_depend_on_order : ∃ view,
    normalize_tmp_firmware_status (status_of noted_rows) = .ok view ∧
    ¬ OrderFree normalize_tmp_firmware_status noted_rows view ∧
    ¬ Lossless TmpKept noted_rows view := by
  refine ⟨_, rfl, ?_, ?_⟩
  · intro h
    have hother := h (status_of noted_rows.reverse) noted_rows.reverse rfl (List.reverse_perm _)
    have hnotes := congrArg (fun view => view.toOption.bind first_note) hother
    exact absurd hnotes (by decide)
  · intro h
    have hnote : Json.str "Fixes" = Json.str "Fixes, later" :=
      one_note_of_lossless h (noted_row "node-1" "Fixes") (by simp [noted_rows])
        (noted_row "node-2" "Fixes, later") (by simp [noted_rows]) _ _ rfl rfl rfl
    exact absurd (Json.str.inj hnote) (by decide)

def waiting_rows : List JsonObject := [waiting_http "node-2" "1.0.1", waiting_http "node-1" "1.0.0"]

def fixed_rows : List JsonObject := [noted_row "node-1" "Fixes", noted_row "node-2" "Fixes"]

theorem fixed_rows_one_note : RowsOneNote fixed_rows := by
  intro first hfirst second hsecond _ _ _ _ _
  have hnote : ∀ row ∈ fixed_rows, get row "release_note" = .str "Fixes" := by
    intro row hrow
    simp only [fixed_rows, List.mem_cons, List.not_mem_nil, or_false] at hrow
    rcases hrow with rfl | rfl <;> rfl
  rw [hnote first hfirst, hnote second hsecond]

theorem the_waiting_rows_in_any_order :
    (∃ view, normalize_http_firmware_status (status_of waiting_rows) = .ok view ∧
      normalize_http_firmware_status (status_of waiting_rows.reverse) = .ok view) ∧
    ∃ view, normalize_tmp_firmware_status (status_of fixed_rows) = .ok view ∧
      normalize_tmp_firmware_status (status_of fixed_rows.reverse) = .ok view := by
  constructor
  · obtain ⟨view, hview⟩ : ∃ view,
        normalize_http_firmware_status (status_of waiting_rows) = .ok view := ⟨_, rfl⟩
    obtain ⟨hfree, -⟩ := (@firmware_rows_in_any_order _ _ waiting_rows rfl).1 hview
    exact ⟨view, hview, hfree _ _ rfl (List.reverse_perm _)⟩
  · obtain ⟨view, hview⟩ : ∃ view,
        normalize_tmp_firmware_status (status_of fixed_rows) = .ok view := ⟨_, rfl⟩
    obtain ⟨hfree, -⟩ :=
      ((@firmware_rows_in_any_order _ _ fixed_rows rfl).2 hview).mpr fixed_rows_one_note
    exact ⟨view, hview, hfree _ _ rfl (List.reverse_perm _)⟩

end tplink_deco_api.service.firmware_normalization
