-- The record of one client device, merged from the rows of five sources. The rows of
-- other devices leave it alone.
import TplinkDeco.Models.Accessors
import TplinkDeco.Surface.SemanticReads

open dict json text

namespace tplink_deco_api.surface

open endpoint_catalog models

/-! ## The devices -/

/-- A row of a client list after `ClientDevice.from_api`. -/
structure ClientDevice where
  mac : String
  ip : String := ""
  name : String := ""
  up_speed : Int := 0
  down_speed : Int := 0
  wire_type : String := ""
  connection_type : String := ""
  space_id : String := ""
  access_host : String := ""
  interface : String := ""
  client_type : String := ""
  owner_id : String := ""
  remain_time : Int := 0
  online : Bool := false
  client_mesh : Bool := false
  enable_priority : Bool := false

/-- `_normalized_client_device`. -/
def normalized_client_device (row : JsonObject) : ClientDevice where
  mac := normalize_mac (get_str row "mac")
  ip := get_str row "ip"
  name := get_str row "name"
  up_speed := get_int row "up_speed"
  down_speed := get_int row "down_speed"
  wire_type := get_str row "wire_type"
  connection_type := get_str row "connection_type"
  space_id := get_str row "space_id"
  access_host := get_str row "access_host"
  interface := get_str row "interface"
  client_type := get_str row "client_type"
  owner_id := get_str row "owner_id"
  remain_time := get_int row "remain_time"
  online := get_bool row "online"
  client_mesh := get_bool row "client_mesh"
  enable_priority := get_bool row "enable_priority"

/-- `ClientDevice.from_api({"mac": mac, "ip": ip})`. -/
def bare_client (mac : String) (ip : String := "") : ClientDevice where
  mac := normalize_mac mac
  ip := ip

/-! ## The records -/

/-- The record of one client device in a response. -/
structure DeviceRecord where
  mac : String
  ip : String
  name : String
  client_type : String
  status : String
  active : Bool
  access_status : String
  blocked : Bool
  reserved : Bool
  prioritized : Bool
  reservation_ip : Option String
  up_speed : Int
  down_speed : Int
  wire_type : String
  connection_type : String
  interface : String
  connected_node : Option String
  space_id : String
  access_host : String
  owner_id : String
  remain_time : Int
  client_mesh : Bool
  sources : List String

/-- The word for the status of a device. -/
def activity (active : Bool) : String := if active then "active" else "inactive"

/-- `_client_device_record`. -/
def client_device_record (client : ClientDevice) : DeviceRecord where
  mac := client.mac
  ip := client.ip
  name := client.name
  client_type := client.client_type
  status := activity client.online
  active := client.online
  access_status := "allowed"
  blocked := false
  reserved := false
  prioritized := client.enable_priority
  reservation_ip := none
  up_speed := client.up_speed
  down_speed := client.down_speed
  wire_type := client.wire_type
  connection_type := client.connection_type
  interface := client.interface
  connected_node := none
  space_id := client.space_id
  access_host := client.access_host
  owner_id := client.owner_id
  remain_time := client.remain_time
  client_mesh := client.client_mesh
  sources := []

/-- The sources with one more, unless it is there. -/
def append_source (sources : List String) (source : String) : List String :=
  if source ∈ sources then sources else sources ++ [source]

/-- `value`, if it is not empty, or else what stands there. -/
def kept (value there : String) : String := if value = "" then there else value

/-- The records that were made so far, each under its MAC address. -/
abbrev Records := Dict String DeviceRecord

/-- `records.setdefault(client.mac, _client_device_record(client))`, and the changes of it. -/
def upsert (records : Records) (client : ClientDevice) (change : DeviceRecord → DeviceRecord) :
    Records :=
  if client.mac = "" then records
  else records.set client.mac
    (change ((records.get? client.mac).getD (client_device_record client)))

/-- The changes of `_merge_client_device`. -/
def DeviceRecord.with_client (client : ClientDevice) (source : String)
    (connected_node : Option String) (record : DeviceRecord) : DeviceRecord :=
  let active := record.active || client.online
  { record with
    ip := kept client.ip record.ip
    name := kept client.name record.name
    client_type := kept client.client_type record.client_type
    wire_type := kept client.wire_type record.wire_type
    connection_type := kept client.connection_type record.connection_type
    interface := kept client.interface record.interface
    space_id := kept client.space_id record.space_id
    access_host := kept client.access_host record.access_host
    owner_id := kept client.owner_id record.owner_id
    up_speed := client.up_speed
    down_speed := client.down_speed
    remain_time := client.remain_time
    active := active
    status := activity active
    client_mesh := record.client_mesh || client.client_mesh
    prioritized := record.prioritized || client.enable_priority
    connected_node := if connected_node.getD "" = "" then record.connected_node else connected_node
    sources := append_source record.sources source }

/-- `_merge_client_device`. -/
def merge_client_device (records : Records) (client : ClientDevice) (source : String)
    (connected_node : Option String := none) : Records :=
  upsert records client (·.with_client client source connected_node)

/-- The changes of `_merge_blocked_device`. -/
def DeviceRecord.with_block (client : ClientDevice) (record : DeviceRecord) : DeviceRecord :=
  { record with
    name := kept client.name record.name
    client_type := kept client.client_type record.client_type
    blocked := true
    access_status := "blocked"
    sources := append_source record.sources "blocked_devices" }

/-- `_merge_blocked_device`. -/
def merge_blocked_device (records : Records) (client : ClientDevice) : Records :=
  upsert records client (·.with_block client)

/-- The changes of `_merge_device_speed`. -/
def DeviceRecord.with_speed (speed : JsonObject) (record : DeviceRecord) : DeviceRecord :=
  { record with
    up_speed := get_int speed "up_speed"
    down_speed := get_int speed "down_speed"
    sources := append_source record.sources "device_speeds" }

/-- `_merge_device_speed`. -/
def merge_device_speed (records : Records) (speed : JsonObject) : Records :=
  upsert records (bare_client (get_str speed "mac")) (·.with_speed speed)

/-- The changes of `_merge_reserved_device`. -/
def DeviceRecord.with_reservation (ip : String) (record : DeviceRecord) : DeviceRecord :=
  { record with
    ip := if record.ip = "" then ip else record.ip
    reserved := true
    reservation_ip := some ip
    sources := append_source record.sources "address_reservations" }

/-- `_merge_reserved_device`. -/
def merge_reserved_device (records : Records) (mac ip : String) : Records :=
  upsert records (bare_client mac ip) (·.with_reservation ip)

/-! ## The five sources -/

/-- The clients of the nodes, each with its node. -/
def node_rows (nodes : List NodeClientList) : List (String × ClientDevice) :=
  nodes.flatMap fun node =>
    (json_rows node.clients).map fun row => (node.node_mac, normalized_client_device row)

/-- The records that `client_device_resource` merges. -/
def device_records (clients : List JsonObject) (sources : ClientDeviceSources) : Records :=
  let records : Records := Dict.empty
  let records := clients.foldl (fun records row =>
    merge_client_device records (normalized_client_device row) "client_list") records
  let records := (node_rows sources.node_clients).foldl (fun records (node_mac, client) =>
    merge_client_device records client "clients_by_node" (some node_mac)) records
  let records := sources.blocked.foldl (fun records row =>
    merge_blocked_device records (normalized_client_device row)) records
  let records := sources.speeds.foldl merge_device_speed records
  sources.reservations.foldl (fun records row =>
    merge_reserved_device records (get_str row "mac") (get_str row "ip")) records

/-! ## One row after another -/

/-- A row of one of the sources. -/
inductive Sighting where
  | listed (client : ClientDevice)
  | assigned (node_mac : String) (client : ClientDevice)
  | blocked (client : ClientDevice)
  | speed (row : JsonObject)
  | reserved (mac ip : String)

namespace Sighting

/-- The client that a row makes a record of, where there is none. -/
def client : Sighting → ClientDevice
  | listed client => client
  | assigned _ client => client
  | blocked client => client
  | speed row => bare_client (get_str row "mac")
  | reserved mac ip => bare_client mac ip

/-- The name under which a record lists the source of a row. -/
def source : Sighting → String
  | listed _ => "client_list"
  | assigned _ _ => "clients_by_node"
  | blocked _ => "blocked_devices"
  | speed _ => "device_speeds"
  | reserved _ _ => "address_reservations"

/-- What a row changes in the record of its device. -/
def change : Sighting → DeviceRecord → DeviceRecord
  | listed client => (·.with_client client "client_list" none)
  | assigned node_mac client => (·.with_client client "clients_by_node" (some node_mac))
  | blocked client => (·.with_block client)
  | speed row => (·.with_speed row)
  | reserved _ ip => (·.with_reservation ip)

end Sighting

/-- The rows of the five sources in the order in which they are merged. -/
def sightings (clients : List JsonObject) (sources : ClientDeviceSources) : List Sighting :=
  clients.map (fun row => .listed (normalized_client_device row)) ++
    (node_rows sources.node_clients).map (fun row => .assigned row.1 row.2) ++
    sources.blocked.map (fun row => .blocked (normalized_client_device row)) ++
    sources.speeds.map .speed ++
    sources.reservations.map (fun row => .reserved (get_str row "mac") (get_str row "ip"))

theorem device_records_eq (clients : List JsonObject) (sources : ClientDeviceSources) :
    device_records clients sources = (sightings clients sources).foldl
      (fun records row => upsert records row.client row.change) Dict.empty := by
  unfold sightings
  rw [List.foldl_append, List.foldl_append, List.foldl_append, List.foldl_append]
  rw [List.foldl_map, List.foldl_map, List.foldl_map, List.foldl_map, List.foldl_map]
  rfl

/-- The rows of one device. -/
def rows_of (mac : String) (rows : List Sighting) : List Sighting :=
  rows.filter fun row => row.client.mac = mac

/-- What the rows of a device make of its record. -/
def changed (record : DeviceRecord) (rows : List Sighting) : DeviceRecord :=
  rows.foldl (fun record row => row.change record) record

/-- The record of a device, from its own rows: the first one makes it, and all of them change
it. -/
def merged : List Sighting → Option DeviceRecord
  | [] => none
  | row :: rows => some (changed (client_device_record row.client) (row :: rows))

theorem get?_upserts {mac : String} (hmac : mac ≠ "") (rows : List Sighting) :
    (rows.foldl (fun records row => upsert records row.client row.change) Dict.empty).get? mac =
      merged (rows_of mac rows) := by
  -- A row without a MAC address changes nothing.
  have hnamed : ∀ records : Records,
      rows.foldl (fun records row => upsert records row.client row.change) records =
        (rows.filter (·.client.mac ≠ "")).foldl (fun records row =>
          records.set row.client.mac (row.change
            ((records.get? row.client.mac).getD (client_device_record row.client)))) records := by
    intro records
    induction rows generalizing records with
    | nil => rfl
    | cons row rows ih =>
      rw [List.foldl_cons, ih]
      unfold upsert
      by_cases hempty : row.client.mac = ""
      · rw [List.filter_cons_of_neg (by simpa using hempty), if_pos hempty]
      · rw [List.filter_cons_of_pos (by simpa using hempty), if_neg hempty, List.foldl_cons]
  have hrows : (rows.filter (·.client.mac ≠ "")).filter (·.client.mac = mac) =
      rows_of mac rows := by
    rw [List.filter_filter]
    apply List.filter_congr
    intro row _
    by_cases heq : row.client.mac = mac
    · simp [heq, hmac]
    · simp [heq]
  have hfold : ∀ (rows : List Sighting) (record : DeviceRecord),
      rows.foldl (fun entry row => some (row.change
        ((entry : Option DeviceRecord).getD (client_device_record row.client)))) (some record) =
          some (changed record rows) := by
    intro rows
    induction rows with
    | nil => exact fun _ => rfl
    | cons row rows ih => exact fun record => ih (row.change record)
  rw [hnamed, Dict.get?_foldl_set (fun row : Sighting => row.client.mac) (fun row entry =>
    row.change (entry.getD (client_device_record row.client))), hrows]
  cases rows_of mac rows with
  | nil => rfl
  | cons row rows => exact hfold rows _

/-! ## What the rows make of a field -/

/-- A field that some rows write and the others leave has its last value. -/
theorem changed_last {β : Type} (field : DeviceRecord → β) (write : Sighting → Option β)
    (hstep : ∀ row record, field (row.change record) = (write row).getD (field record))
    (record : DeviceRecord) (rows : List Sighting) :
    field (changed record rows) = ((rows.filterMap write).getLast?).getD (field record) := by
  induction rows generalizing record with
  | nil => rfl
  | cons row rows ih =>
    show field (changed (row.change record) rows) = _
    rw [ih, hstep]
    cases hw : write row with
    | none => rw [List.filterMap_cons_none hw, Option.getD_none]
    | some value =>
      rw [List.filterMap_cons_some hw, List.getLast?_cons, Option.getD_some]
      cases (rows.filterMap write).getLast? <;> rfl

/-- The same where the field may have no value. -/
theorem changed_last_or {β : Type} (field : DeviceRecord → Option β) (write : Sighting → Option β)
    (hstep : ∀ row record, field (row.change record) = (write row).or (field record))
    (record : DeviceRecord) (rows : List Sighting) :
    field (changed record rows) = ((rows.filterMap write).getLast?).or (field record) := by
  induction rows generalizing record with
  | nil => rfl
  | cons row rows ih =>
    show field (changed (row.change record) rows) = _
    rw [ih, hstep]
    cases hw : write row with
    | none => rw [List.filterMap_cons_none hw, Option.none_or]
    | some value =>
      rw [List.filterMap_cons_some hw, List.getLast?_cons, Option.some_or]
      cases (rows.filterMap write).getLast? <;> rfl

/-- A flag that some rows raise stays up. -/
theorem changed_flag (flag : DeviceRecord → Bool) (raises : Sighting → Bool)
    (hstep : ∀ row record, flag (row.change record) = (flag record || raises row))
    (record : DeviceRecord) (rows : List Sighting) :
    flag (changed record rows) = (flag record || rows.any raises) := by
  induction rows generalizing record with
  | nil => exact (Bool.or_false _).symm
  | cons row rows ih =>
    show flag (changed (row.change record) rows) = _
    rw [ih, hstep, List.any_cons, Bool.or_assoc]

namespace Sighting

/-- The row blocks its device. -/
def blocks : Sighting → Bool
  | blocked _ => true
  | _ => false

/-- The row reserves an address for its device. -/
def reserves : Sighting → Bool
  | reserved _ _ => true
  | _ => false

/-- The row is one of a client list, and the client is online. -/
def comes_online : Sighting → Bool
  | listed client => client.online
  | assigned _ client => client.online
  | _ => false

/-- The address that the row reserves. -/
def reservation_ip : Sighting → Option String
  | reserved _ ip => some ip
  | _ => none

/-- The node, where it has a name. -/
def node : Sighting → Option String
  | assigned node_mac _ => if node_mac = "" then none else some node_mac
  | _ => none

/-- The two speeds of a row. -/
def speeds : Sighting → Option (Int × Int)
  | listed client => some (client.up_speed, client.down_speed)
  | assigned _ client => some (client.up_speed, client.down_speed)
  | speed row => some (get_int row "up_speed", get_int row "down_speed")
  | _ => none

end Sighting

section

variable (record : DeviceRecord) (rows : List Sighting)

theorem changed_mac : (changed record rows).mac = record.mac := by
  have h := changed_last DeviceRecord.mac (fun _ => none) (by
    rintro (_ | _ | _ | _ | _) _ <;> rfl) record rows
  rw [h, List.filterMap_none]
  rfl

theorem changed_blocked :
    (changed record rows).blocked = (record.blocked || rows.any Sighting.blocks) := by
  apply changed_flag
  rintro (_ | _ | _ | _ | _) record
  · exact (Bool.or_false _).symm
  · exact (Bool.or_false _).symm
  · exact (Bool.or_true _).symm
  · exact (Bool.or_false _).symm
  · exact (Bool.or_false _).symm

theorem changed_reserved :
    (changed record rows).reserved = (record.reserved || rows.any Sighting.reserves) := by
  apply changed_flag
  rintro (_ | _ | _ | _ | _) record
  · exact (Bool.or_false _).symm
  · exact (Bool.or_false _).symm
  · exact (Bool.or_false _).symm
  · exact (Bool.or_false _).symm
  · exact (Bool.or_true _).symm

theorem changed_active :
    (changed record rows).active = (record.active || rows.any Sighting.comes_online) := by
  apply changed_flag
  rintro (_ | _ | _ | _ | _) record
  · rfl
  · rfl
  · exact (Bool.or_false _).symm
  · exact (Bool.or_false _).symm
  · exact (Bool.or_false _).symm

theorem changed_access_status : (changed record rows).access_status =
    if rows.any Sighting.blocks then "blocked" else record.access_status := by
  have hstep : ∀ (row : Sighting) (record : DeviceRecord), (row.change record).access_status =
      if row.blocks then "blocked" else record.access_status := by
    rintro (_ | _ | _ | _ | _) record <;> rfl
  induction rows generalizing record with
  | nil => rfl
  | cons row rows ih =>
    show (changed (row.change record) rows).access_status = _
    rw [ih, hstep, List.any_cons]
    cases row.blocks <;> simp

theorem changed_reservation_ip : (changed record rows).reservation_ip =
    ((rows.filterMap Sighting.reservation_ip).getLast?).or record.reservation_ip := by
  apply changed_last_or
  rintro (_ | _ | _ | _ | _) record <;> rfl

theorem changed_connected_node : (changed record rows).connected_node =
    ((rows.filterMap Sighting.node).getLast?).or record.connected_node := by
  apply changed_last_or
  rintro (_ | ⟨node_mac, client⟩ | _ | _ | _) record
  · rfl
  · show (if (some node_mac).getD "" = "" then record.connected_node else some node_mac) = _
    unfold Sighting.node
    simp only [Option.getD_some]
    split <;> rfl
  · rfl
  · rfl
  · rfl

theorem changed_sources : (changed record rows).sources =
    rows.foldl (fun sources row => append_source sources row.source) record.sources := by
  induction rows generalizing record with
  | nil => rfl
  | cons row rows ih =>
    show (changed (row.change record) rows).sources = _
    rw [ih, List.foldl_cons]
    cases row <;> rfl

theorem changed_speeds :
    ((changed record rows).up_speed, (changed record rows).down_speed) =
      ((rows.filterMap Sighting.speeds).getLast?).getD (record.up_speed, record.down_speed) := by
  apply changed_last fun record => (record.up_speed, record.down_speed)
  rintro (_ | _ | _ | _ | _) record <;> rfl

end

/-! ## The rows of one device in the five sources -/

/-- The rows of one device in each of the five lists. -/
structure DeviceRows where
  listed : List ClientDevice
  assigned : List (String × ClientDevice)
  blocked : List ClientDevice
  speeds : List JsonObject
  reserved : List JsonObject

/-- The rows of a normalized MAC address. -/
def rows_for (mac : String) (clients : List JsonObject) (sources : ClientDeviceSources) :
    DeviceRows where
  listed := (clients.map normalized_client_device).filter (·.mac = mac)
  assigned := (node_rows sources.node_clients).filter (·.2.mac = mac)
  blocked := (sources.blocked.map normalized_client_device).filter (·.mac = mac)
  speeds := sources.speeds.filter fun row => normalize_mac (get_str row "mac") = mac
  reserved := sources.reservations.filter fun row => normalize_mac (get_str row "mac") = mac

namespace DeviceRows

variable (rows : DeviceRows)

def sightings : List Sighting :=
  rows.listed.map .listed ++ rows.assigned.map (fun row => .assigned row.1 row.2) ++
    rows.blocked.map .blocked ++ rows.speeds.map .speed ++
    rows.reserved.map (fun row => .reserved (get_str row "mac") (get_str row "ip"))

/-- The rows of the client lists. -/
def clients : List ClientDevice := rows.listed ++ rows.assigned.map Prod.snd

/-- The sources with rows, in the order in which they are merged. -/
def named : List String :=
  (if rows.listed = [] then [] else ["client_list"]) ++
    (if rows.assigned = [] then [] else ["clients_by_node"]) ++
    (if rows.blocked = [] then [] else ["blocked_devices"]) ++
    (if rows.speeds = [] then [] else ["device_speeds"]) ++
    (if rows.reserved = [] then [] else ["address_reservations"])

end DeviceRows

theorem rows_of_append (mac : String) (rows rows' : List Sighting) :
    rows_of mac (rows ++ rows') = rows_of mac rows ++ rows_of mac rows' :=
  List.filter_append rows rows'

theorem rows_of_map {ρ : Type} (mac : String) (make : ρ → Sighting) (key : ρ → String)
    (hkey : ∀ row, (make row).client.mac = key row) (rows : List ρ) :
    rows_of mac (rows.map make) = (rows.filter (key · = mac)).map make := by
  unfold rows_of
  rw [List.filter_map]
  congr 1
  apply List.filter_congr
  intro row _
  simp only [Function.comp_apply, hkey]

theorem rows_of_sightings (mac : String) (clients : List JsonObject)
    (sources : ClientDeviceSources) :
    rows_of mac (sightings clients sources) = (rows_for mac clients sources).sightings := by
  have hmade : ∀ (make : ClientDevice → Sighting) (rows : List JsonObject),
      (∀ client, (make client).client.mac = client.mac) →
      rows_of mac (rows.map fun row => make (normalized_client_device row)) =
        ((rows.map normalized_client_device).filter (·.mac = mac)).map make := by
    intro make rows hmake
    rw [← rows_of_map mac make ClientDevice.mac hmake, List.map_map]
    rfl
  have hassigned := rows_of_map mac (fun row : String × ClientDevice => .assigned row.1 row.2)
    (fun row => row.2.mac) (fun _ => rfl) (node_rows sources.node_clients)
  have hspeeds := rows_of_map mac .speed (fun row => normalize_mac (get_str row "mac"))
    (fun _ => rfl) sources.speeds
  have hreserved := rows_of_map mac
    (fun row => .reserved (get_str row "mac") (get_str row "ip"))
    (fun row => normalize_mac (get_str row "mac")) (fun _ => rfl) sources.reservations
  unfold sightings rows_for DeviceRows.sightings
  rw [rows_of_append, rows_of_append, rows_of_append, rows_of_append, hassigned, hspeeds,
    hreserved, hmade .listed clients fun _ => rfl, hmade .blocked sources.blocked fun _ => rfl]

/-- What the record of a device says, from the rows of this device. -/
structure Describes (mac : String) (rows : DeviceRows) (record : DeviceRecord) : Prop where
  mac : record.mac = mac
  sources : record.sources = rows.named
  blocked : record.blocked = true ↔ rows.blocked ≠ []
  access_status : record.access_status = if rows.blocked = [] then "allowed" else "blocked"
  reserved : record.reserved = true ↔ rows.reserved ≠ []
  reservation_ip : record.reservation_ip = rows.reserved.getLast?.map (get_str · "ip")
  connected_node : record.connected_node = ((rows.assigned.map Prod.fst).filter (· ≠ "")).getLast?
  speeds : ∀ row, rows.speeds.getLast? = some row →
    record.up_speed = get_int row "up_speed" ∧ record.down_speed = get_int row "down_speed"
  client_speeds : rows.speeds = [] → ∀ client, rows.clients.getLast? = some client →
    record.up_speed = client.up_speed ∧ record.down_speed = client.down_speed
  active : rows.clients ≠ [] →
    (record.active = true ↔ ∃ client ∈ rows.clients, client.online = true)
  created : rows.clients = [] →
    record.active = (rows.blocked.head?.map ClientDevice.online).getD false

section

variable (rows : DeviceRows)

theorem any_blocks : rows.sightings.any Sighting.blocks = decide (rows.blocked ≠ []) := by
  unfold DeviceRows.sightings
  cases rows.blocked <;> simp [Sighting.blocks, Function.comp_def]

theorem any_reserves : rows.sightings.any Sighting.reserves = decide (rows.reserved ≠ []) := by
  unfold DeviceRows.sightings
  cases rows.reserved <;> simp [Sighting.reserves, Function.comp_def]

theorem any_comes_online :
    rows.sightings.any Sighting.comes_online = rows.clients.any ClientDevice.online := by
  have hnone : ∀ {ρ : Type} (rows : List ρ), (rows.any fun _ => false) = false := by
    intro ρ rows
    simp
  unfold DeviceRows.sightings DeviceRows.clients
  simp only [List.any_append, List.any_map, Function.comp_def, Sighting.comes_online, hnone,
    Bool.or_false]

theorem filterMap_reservation_ip : rows.sightings.filterMap Sighting.reservation_ip =
    rows.reserved.map (get_str · "ip") := by
  unfold DeviceRows.sightings
  simp [List.filterMap_map, Sighting.reservation_ip, Function.comp_def]

theorem filterMap_node : rows.sightings.filterMap Sighting.node =
    (rows.assigned.map Prod.fst).filter (· ≠ "") := by
  have hassigned : ∀ assigned : List (String × ClientDevice),
      assigned.filterMap (fun row => Sighting.node (.assigned row.1 row.2)) =
        (assigned.map Prod.fst).filter (· ≠ "") := by
    intro assigned
    induction assigned with
    | nil => rfl
    | cons row assigned ih =>
      by_cases hempty : row.1 = ""
      · rw [List.filterMap_cons_none (by simp [Sighting.node, hempty]), List.map_cons,
          List.filter_cons_of_neg (by simpa using hempty), ih]
      · rw [List.filterMap_cons_some (by simp [Sighting.node, hempty]; rfl), List.map_cons,
          List.filter_cons_of_pos (by simpa using hempty), ih]
  have hnone : ∀ {ρ : Type} (make : ρ → Sighting) (rows : List ρ),
      (∀ row, (make row).node = none) → (rows.map make).filterMap Sighting.node = [] := by
    intro ρ make rows hmake
    rw [List.filterMap_map, List.filterMap_eq_nil_iff]
    exact fun row _ => hmake row
  unfold DeviceRows.sightings
  rw [List.filterMap_append, List.filterMap_append, List.filterMap_append, List.filterMap_append,
    hnone .listed _ fun _ => rfl, hnone .blocked _ fun _ => rfl, hnone .speed _ fun _ => rfl,
    hnone (fun row => .reserved (get_str row "mac") (get_str row "ip")) _ fun _ => rfl,
    List.filterMap_map]
  simpa using hassigned rows.assigned

theorem filterMap_speeds : rows.sightings.filterMap Sighting.speeds =
    rows.clients.map (fun client => (client.up_speed, client.down_speed)) ++
      rows.speeds.map (fun row => (get_int row "up_speed", get_int row "down_speed")) := by
  unfold DeviceRows.sightings DeviceRows.clients
  simp [List.filterMap_map, Sighting.speeds, Function.comp_def]

/-- The sources after rows of one of them. -/
def after_rows (empty : Bool) (source : String) (sources : List String) : List String :=
  if empty then sources else append_source sources source

theorem foldl_source {ρ : Type} (source : String) (make : ρ → Sighting)
    (hmake : ∀ row, (make row).source = source) (rows : List ρ) (sources : List String) :
    (rows.map make).foldl (fun sources row => append_source sources row.source) sources =
      after_rows rows.isEmpty source sources := by
  have hthere : ∀ (rows : List ρ) (sources : List String), source ∈ sources →
      (rows.map make).foldl (fun sources row => append_source sources row.source) sources =
        sources := by
    intro rows
    induction rows with
    | nil => exact fun _ _ => rfl
    | cons row rows ih =>
      intro sources hin
      rw [List.map_cons, List.foldl_cons, hmake, append_source, if_pos hin]
      exact ih sources hin
  cases rows with
  | nil => rfl
  | cons row rows =>
    rw [List.map_cons, List.foldl_cons, hmake]
    apply hthere
    unfold append_source
    split
    · assumption
    · simp

/-- Each source is named once, in the order in which they are merged. -/
theorem foldl_sources : rows.sightings.foldl
    (fun sources row => append_source sources row.source) [] = rows.named := by
  have hordered : ∀ b₁ b₂ b₃ b₄ b₅ : Bool,
      after_rows b₅ "address_reservations" (after_rows b₄ "device_speeds" (after_rows b₃
        "blocked_devices" (after_rows b₂ "clients_by_node" (after_rows b₁ "client_list" [])))) =
      (if b₁ then [] else ["client_list"]) ++ (if b₂ then [] else ["clients_by_node"]) ++
        (if b₃ then [] else ["blocked_devices"]) ++ (if b₄ then [] else ["device_speeds"]) ++
        (if b₅ then [] else ["address_reservations"]) := by decide
  unfold DeviceRows.sightings DeviceRows.named
  rw [List.foldl_append, List.foldl_append, List.foldl_append, List.foldl_append,
    foldl_source "client_list" .listed fun _ => rfl,
    foldl_source "clients_by_node"
      (fun row : String × ClientDevice => .assigned row.1 row.2) fun _ => rfl,
    foldl_source "blocked_devices" .blocked fun _ => rfl,
    foldl_source "device_speeds" .speed fun _ => rfl,
    foldl_source "address_reservations"
      (fun row => .reserved (get_str row "mac") (get_str row "ip")) fun _ => rfl, hordered]
  simp only [List.isEmpty_iff]

variable {rows}

/-- The row that makes the record comes from a client list, if any row does. A row of the traffic
or of the reservations says nothing of being online. -/
theorem first_client {first : Sighting} {rest : List Sighting}
    (h : rows.sightings = first :: rest) : first.client ∈ rows.clients ∨
      rows.clients = [] ∧
        first.client.online = (rows.blocked.head?.map ClientDevice.online).getD false := by
  obtain ⟨listed, assigned, blocked, speeds, reserved⟩ := rows
  unfold DeviceRows.sightings at h
  unfold DeviceRows.clients
  cases listed with
  | cons client listed =>
    cases h
    exact Or.inl List.mem_cons_self
  | nil =>
    cases assigned with
    | cons row assigned =>
      cases h
      exact Or.inl List.mem_cons_self
    | nil =>
      right
      refine ⟨rfl, ?_⟩
      cases blocked with
      | cons client blocked =>
        cases h
        rfl
      | nil =>
        cases speeds with
        | cons row speeds =>
          cases h
          rfl
        | nil =>
          cases reserved with
          | cons row reserved =>
            cases h
            rfl
          | nil => cases h

/-- The record that the rows of one device make says what they say. -/
theorem describes_of_merged {mac : String} {record : DeviceRecord}
    (hmac : ∀ row ∈ rows.sightings, row.client.mac = mac)
    (h : merged rows.sightings = some record) : Describes mac rows record := by
  obtain ⟨first, rest, hrows⟩ : ∃ first rest, rows.sightings = first :: rest := by
    cases hs : rows.sightings with
    | nil =>
      rw [hs] at h
      cases h
    | cons first rest => exact ⟨first, rest, rfl⟩
  have hrecord : record = changed (client_device_record first.client) rows.sightings := by
    rw [hrows] at h ⊢
    exact (Option.some.inj h).symm
  subst hrecord
  have hspeeds := changed_speeds (client_device_record first.client) rows.sightings
  rw [filterMap_speeds, List.getLast?_append] at hspeeds
  have hactive := changed_active (client_device_record first.client) rows.sightings
  rw [any_comes_online] at hactive
  refine ⟨?_, ?_, ?_, ?_, ?_, ?_, ?_, ?_, ?_, ?_, ?_⟩
  · rw [changed_mac]
    exact hmac first (by rw [hrows]; exact List.mem_cons_self)
  · rw [changed_sources]
    exact foldl_sources rows
  · rw [changed_blocked, any_blocks]
    simp [client_device_record]
  · rw [changed_access_status, any_blocks]
    by_cases hnone : rows.blocked = [] <;> simp [hnone, client_device_record]
  · rw [changed_reserved, any_reserves]
    simp [client_device_record]
  · rw [changed_reservation_ip, filterMap_reservation_ip, List.getLast?_map]
    exact Option.or_none
  · rw [changed_connected_node, filterMap_node]
    exact Option.or_none
  · intro row hlast
    rw [List.getLast?_map, hlast] at hspeeds
    simpa using hspeeds
  · intro hnone client hlast
    rw [hnone, List.getLast?_map, List.getLast?_map, hlast] at hspeeds
    simpa using hspeeds
  · intro hclients
    rw [hactive, Bool.or_eq_true, List.any_eq_true]
    constructor
    · rintro (honline | hany)
      · rcases first_client hrows with hin | ⟨hnone, -⟩
        · exact ⟨first.client, hin, honline⟩
        · exact absurd hnone hclients
      · exact hany
    · exact Or.inr
  · intro hnone
    rw [hactive, hnone, List.any_nil, Bool.or_false]
    rcases first_client hrows with hin | ⟨-, honline⟩
    · rw [hnone] at hin
      cases hin
    · exact honline

end

/-! ## `client_device_resource` -/

theorem mac_of_rows_for {mac : String} {clients : List JsonObject} {sources : ClientDeviceSources} :
    ∀ row ∈ (rows_for mac clients sources).sightings, row.client.mac = mac := by
  intro row hrow
  rw [← rows_of_sightings] at hrow
  simpa using (List.mem_filter.mp hrow).2

/-- No record is made of an address exactly if no source has a row of it. -/
theorem merged_eq_none {rows : DeviceRows} : merged rows.sightings = none ↔
    rows.listed = [] ∧ rows.assigned = [] ∧ rows.blocked = [] ∧ rows.speeds = [] ∧
      rows.reserved = [] := by
  have hempty : merged rows.sightings = none ↔ rows.sightings = [] := by
    cases rows.sightings with
    | nil => exact iff_of_true rfl rfl
    | cons row rows => exact iff_of_false (fun h => nomatch h) (List.cons_ne_nil row rows)
  rw [hempty]
  unfold DeviceRows.sightings
  simp

theorem ne_empty_of_is_mac {mac : String} (h : is_mac mac = true) : mac ≠ "" := by
  rintro rfl
  have hparts : "".splitOn ":" = [""] := splitOn_of_splits 1 (by decide) (by decide +kernel)
  unfold is_mac at h
  rw [hparts] at h
  exact absurd h (by decide)

/-- `client_device_resource` gives a record exactly if a row of some source has the address. -/
theorem mem_record_macs {mac : String} (hmac : mac ≠ "") (clients : List JsonObject)
    (sources : ClientDeviceSources) : mac ∈ record_macs clients sources ↔
      ∃ record, merged (rows_for mac clients sources).sightings = some record := by
  have hmade : (∃ record, merged (rows_for mac clients sources).sightings = some record) ↔
      merged (rows_for mac clients sources).sightings ≠ none := Option.ne_none_iff_exists'.symm
  rw [hmade, ne_eq, merged_eq_none]
  unfold record_macs rows_for node_rows
  simp only [List.mem_filter, List.mem_map, List.mem_append, List.filter_eq_nil_iff,
    List.mem_flatMap, decide_eq_true_eq]
  constructor
  · rintro ⟨⟨row, hrow, rfl⟩, -⟩ ⟨h1, h2, h3, h4, h5⟩
    rcases hrow with (((hrow | ⟨node, hnode, hrow⟩) | hrow) | hrow) | hrow
    · exact h1 _ ⟨row, hrow, rfl⟩ rfl
    · exact h2 (node.node_mac, normalized_client_device row) ⟨node, hnode, row, hrow, rfl⟩ rfl
    · exact h3 _ ⟨row, hrow, rfl⟩ rfl
    · exact h4 row hrow rfl
    · exact h5 row hrow rfl
  · intro h
    by_contra hnone
    have hno : ∀ row : JsonObject, ((((row ∈ clients ∨
        ∃ node ∈ sources.node_clients, row ∈ json_rows node.clients) ∨ row ∈ sources.blocked) ∨
          row ∈ sources.speeds) ∨ row ∈ sources.reservations) →
        normalize_mac (get_str row "mac") ≠ mac := by
      intro row hrow heq
      exact hnone ⟨⟨row, hrow, heq⟩, hmac⟩
    apply h
    refine ⟨?_, ?_, ?_, ?_, ?_⟩
    · rintro _ ⟨row, hrow, rfl⟩
      exact hno row (Or.inl (Or.inl (Or.inl (Or.inl hrow))))
    · rintro _ ⟨node, hnode, row, hrow, rfl⟩
      exact hno row (Or.inl (Or.inl (Or.inl (Or.inr ⟨node, hnode, hrow⟩))))
    · rintro _ ⟨row, hrow, rfl⟩
      exact hno row (Or.inl (Or.inl (Or.inr hrow)))
    · exact fun row hrow => hno row (Or.inl (Or.inr hrow))
    · exact fun row hrow => hno row (Or.inr hrow)

/-- A valid address has a record exactly if some source has a row of it. The record says what
the rows of the address say, and no other row has a part in it. -/
theorem client_details_merge (mac : String) (hvalid : is_mac (normalize_mac mac) = true)
    (clients : List JsonObject) (sources : ClientDeviceSources) :
    ((∃ record, (device_records clients sources).get? (normalize_mac mac) = some record) ↔
        normalize_mac mac ∈ record_macs clients sources) ∧
      (∀ record, (device_records clients sources).get? (normalize_mac mac) = some record →
        Describes (normalize_mac mac) (rows_for (normalize_mac mac) clients sources) record) ∧
      ∀ clients' sources',
        rows_for (normalize_mac mac) clients' sources' =
          rows_for (normalize_mac mac) clients sources →
        (device_records clients' sources').get? (normalize_mac mac) =
          (device_records clients sources).get? (normalize_mac mac) := by
  have hne := ne_empty_of_is_mac hvalid
  have hget : ∀ clients sources, (device_records clients sources).get? (normalize_mac mac) =
      merged (rows_for (normalize_mac mac) clients sources).sightings := by
    intro clients sources
    rw [device_records_eq, get?_upserts hne, rows_of_sightings]
  refine ⟨?_, ?_, ?_⟩
  · rw [mem_record_macs hne, hget]
  · intro record hrecord
    rw [hget] at hrecord
    exact describes_of_merged mac_of_rows_for hrecord
  · intro clients' sources' hrows
    rw [hget, hget, hrows]

/-- Rows of a printer in every source, among those of a camera. -/
def printer_rows : List JsonObject × ClientDeviceSources :=
  ([[("mac", .str "AA:BB:CC:DD:EE:0F"), ("online", .bool true), ("up_speed", .int 3)],
      [("mac", .str "aa:bb:cc:dd:ee:1f"), ("name", .str "camera"), ("up_speed", .int 900)]],
    { node_clients := [{ node_mac := "AA:BB:CC:DD:EE:02", clients := .arr [.obj [
        ("mac", .str "aa-bb-cc-dd-ee-0f"), ("online", .bool false)]] }],
      blocked := [[("mac", .str "AA:BB:CC:DD:EE:0F")]],
      speeds := [[("mac", .str "AA:BB:CC:DD:EE:0F"), ("up_speed", .int 12),
          ("down_speed", .int 34)],
        [("mac", .str "AA:BB:CC:DD:EE:1F"), ("up_speed", .int 901)]],
      reservations := [[("mac", .str "AA-BB-CC-DD-EE-0F"), ("ip", .str "10.0.0.9")]],
      errors := [] })

def printer_mac : String := "AA:BB:CC:DD:EE:0F"

theorem printer_rows_for :
    let rows := rows_for printer_mac printer_rows.1 printer_rows.2
    rows.named = ["client_list", "clients_by_node", "blocked_devices", "device_speeds",
        "address_reservations"] ∧
      rows.clients.map ClientDevice.online = [true, false] ∧
      rows.blocked.length = 1 ∧ rows.reserved.map (get_str · "ip") = ["10.0.0.9"] ∧
      rows.assigned.map Prod.fst = ["AA:BB:CC:DD:EE:02"] ∧
      rows.speeds.getLast?.map (fun row => (get_int row "up_speed", get_int row "down_speed")) =
        some (12, 34) := by decide +kernel

/-- The printer is blocked, reserved and active at its node, with the speeds of the traffic. -/
theorem the_printer_is_merged :
    ∃ record, (device_records printer_rows.1 printer_rows.2).get?
        (normalize_mac "aa-bb-cc-dd-ee-0f") = some record ∧
      record.mac = printer_mac ∧
      record.sources = ["client_list", "clients_by_node", "blocked_devices", "device_speeds",
        "address_reservations"] ∧
      record.active = true ∧ record.blocked = true ∧ record.access_status = "blocked" ∧
      record.reserved = true ∧ record.reservation_ip = some "10.0.0.9" ∧
      record.connected_node = some "AA:BB:CC:DD:EE:02" ∧ record.up_speed = 12 ∧
      record.down_speed = 34 := by
  have hparts : normalize_mac "aa-bb-cc-dd-ee-0f" = printer_mac ∧
      splits printer_mac ":" 18 0 0 0 [] = some ["AA", "BB", "CC", "DD", "EE", "0F"] ∧
      normalize_mac "aa-bb-cc-dd-ee-0f" ∈ record_macs printer_rows.1 printer_rows.2 := by
    decide +kernel
  have hvalid : is_mac (normalize_mac "aa-bb-cc-dd-ee-0f") = true :=
    is_mac_of_splits hparts.1 hparts.2.1 (by decide)
  obtain ⟨hmade, hdescribed, -⟩ :=
    client_details_merge "aa-bb-cc-dd-ee-0f" hvalid printer_rows.1 printer_rows.2
  obtain ⟨record, hrecord⟩ := hmade.mpr hparts.2.2
  have htold := hdescribed record hrecord
  rw [hparts.1] at htold
  obtain ⟨hnamed, honline, hblocked, hips, hnodes, hspeeds⟩ := printer_rows_for
  obtain ⟨row, hlast, hrow⟩ := Option.map_eq_some_iff.mp hspeeds
  obtain ⟨hup, hdown⟩ := htold.speeds row hlast
  have hsome : (rows_for printer_mac printer_rows.1 printer_rows.2).blocked ≠ [] :=
    List.ne_nil_of_length_pos (hblocked ▸ Nat.one_pos)
  have hreserved : (rows_for printer_mac printer_rows.1 printer_rows.2).reserved ≠ [] := by
    intro hnil
    rw [hnil] at hips
    cases hips
  have hany : true ∈ (rows_for printer_mac printer_rows.1 printer_rows.2).clients.map
      ClientDevice.online := honline ▸ List.mem_cons_self
  obtain ⟨client, hclient, honline⟩ := List.mem_map.mp hany
  refine ⟨record, hrecord, htold.mac, htold.sources.trans hnamed, ?_, htold.blocked.mpr hsome, ?_,
    htold.reserved.mpr hreserved, ?_, ?_, ?_, ?_⟩
  · exact (htold.active (List.ne_nil_of_mem hclient)).mpr ⟨client, hclient, honline⟩
  · rw [htold.access_status, if_neg hsome]
  · rw [htold.reservation_ip, ← List.getLast?_map, hips]
    rfl
  · rw [htold.connected_node, hnodes]
    rfl
  · rw [hup]
    exact congrArg Prod.fst hrow
  · rw [hdown]
    exact congrArg Prod.snd hrow

end tplink_deco_api.surface
