import GuardianPi.Backend.RowUpdates

namespace GuardianPi.Backend.Responses
open GuardianPi.Library GuardianPi.Library.Python GuardianPi.Library.Validation

def scanResultColumns : List TypedColumn := [
  ⟨"id", .uuid, false⟩, ⟨"device_id", .uuid, false⟩, ⟨"scan_type", .text (some 50), false⟩,
  ⟨"target", .text (some 1000), true⟩, ⟨"result", .text (some 50), false⟩, ⟨"risk_score", .integer, true⟩,
  ⟨"sha256_hash", .text (some 64), true⟩, ⟨"findings", .jsonDict, true⟩, ⟨"scanned_at", .dateTime, false⟩]

def auditLogColumns : List TypedColumn := [
  ⟨"id", .uuid, false⟩, ⟨"user_id", .uuid, true⟩, ⟨"device_id", .uuid, true⟩, ⟨"action", .text (some 100), false⟩,
  ⟨"category", .text (some 50), false⟩, ⟨"details", .jsonDict, true⟩, ⟨"ip_address", .text (some 45), true⟩,
  ⟨"user_agent", .text (some 500), true⟩, ⟨"hmac_signature", .text (some 64), false⟩,
  ⟨"previous_hash", .text (some 64), true⟩, ⟨"created_at", .dateTime, false⟩]

structure Archive extends Database where
  scanResults : List (TypedRow scanResultColumns)
  auditLogs : List (TypedRow auditLogColumns)

def references (deviceId : String) (row : Row) : Bool :=
  match row.lookup "device_id" with
  | some (some (.uuid other)) => other = deviceId
  | _ => false

def recordsOf {columns : List TypedColumn} (deviceId : String) (rows : List (TypedRow columns)) : List Row :=
  (rows.map TypedRow.row).filter (references deviceId)

/-- A text, `str` of an identifier, or `isoformat` of a date-time. -/
def shown : Option Attribute → Value
  | some (.str text) | some (.uuid text) | some (.datetime text) => .str text
  | _ => .null

def exported (device : TypedRow Table.devices.columns) (alerts scans : Nat) : Value := .obj [
  ("device", .obj [("id", shown (device.get "id")), ("hostname", shown (device.get "hostname")),
    ("os_type", shown (device.get "os_type")), ("registered_at", shown (device.get "registered_at"))]),
  ("alerts_count", .num (.int alerts)), ("scans_count", .num (.int scans)), ("export_format", .str "JSON"),
  ("gdpr_note", .str "This export contains all personally identifiable data associated with this device.")]

section
variable (db : Archive) (deviceId : String)

def gdprExport : Except Failure Value := do
  match ← scalarOneOrNone ((db.rows .devices).filter fun device => hasId deviceId device.row) with
  | none => .ok (.obj [("error", .str "Device not found")])
  | some device =>
      let alerts := recordsOf deviceId (db.rows .alerts)
      let scans := recordsOf deviceId db.scanResults
      .ok (exported device alerts.length scans.length)

def Archive.Contains : Prop :=
  ∃ device, (db.rows .devices).filter (fun device => hasId deviceId device.row) = [device]

structure SameRecords (db db' : Archive) (deviceId : String) : Prop where
  device : ((db.rows .devices).filter fun device => hasId deviceId device.row).map TypedRow.row =
    ((db'.rows .devices).filter fun device => hasId deviceId device.row).map TypedRow.row
  alerts : (recordsOf deviceId (db.rows .alerts)).Perm (recordsOf deviceId (db'.rows .alerts))
  scanResults : (recordsOf deviceId db.scanResults).Perm (recordsOf deviceId db'.scanResults)
  remediationActions :
    (recordsOf deviceId (db.rows .remediationActions)).Perm (recordsOf deviceId (db'.rows .remediationActions))
  auditLogs : (recordsOf deviceId db.auditLogs).Perm (recordsOf deviceId db'.auditLogs)

def Archive.readings (name : String) : List (Option Attribute) :=
  ((db.rows .devices).filter fun device => hasId deviceId device.row).map fun device => device.get name

def Shows (db db' : Archive) (deviceId : String) : Prop :=
  db.readings deviceId "hostname" ≠ db'.readings deviceId "hostname" ∨
  db.readings deviceId "os_type" ≠ db'.readings deviceId "os_type" ∨
  db.readings deviceId "registered_at" ≠ db'.readings deviceId "registered_at" ∨
  (recordsOf deviceId (db.rows .alerts)).length ≠ (recordsOf deviceId (db'.rows .alerts)).length ∨
  (recordsOf deviceId db.scanResults).length ≠ (recordsOf deviceId db'.scanResults).length

end

section
variable {db db' : Archive} {deviceId : String} {device device' : TypedRow Table.devices.columns}

theorem gdprExport_of_contains
    (only : (db.rows .devices).filter (fun device => hasId deviceId device.row) = [device]) :
    gdprExport db deviceId = .ok (exported device (recordsOf deviceId (db.rows .alerts)).length
      (recordsOf deviceId db.scanResults).length) := by
  unfold gdprExport
  rw [only]
  rfl

theorem get_id (same : hasId deviceId device.row = true) : device.get "id" = some (.uuid deviceId) := by
  unfold hasId at same
  split at same
  · rename_i other found
    rw [TypedRow.get, found, of_decide_eq_true same]
    rfl
  · cases same

theorem shown_eq_iff (device device' : TypedRow Table.devices.columns) {c : TypedColumn}
    (member : c ∈ Table.devices.columns) (required : c.nullable = false)
    (readable : (∃ bound, c.type = .text bound) ∨ c.type = .dateTime) :
    shown (device.get c.name) = shown (device'.get c.name) ↔ device.get c.name = device'.get c.name := by
  obtain ⟨v, read, accepted⟩ := device.exists_value (columns_distinct .devices) member required
  obtain ⟨v', read', accepted'⟩ := device'.exists_value (columns_distinct .devices) member required
  rw [read, read']
  rcases readable with ⟨bound, type⟩ | type
  · rw [type] at accepted accepted'
    obtain ⟨text, rfl⟩ := ColumnType.eq_str_of_accepts accepted
    obtain ⟨text', rfl⟩ := ColumnType.eq_str_of_accepts accepted'
    simp [shown]
  · rw [type] at accepted accepted'
    obtain ⟨text, rfl⟩ := ColumnType.eq_datetime_of_accepts accepted
    obtain ⟨text', rfl⟩ := ColumnType.eq_datetime_of_accepts accepted'
    simp [shown]

theorem exported_eq_iff (id : device.get "id" = device'.get "id") {alerts alerts' scans scans' : Nat} :
    exported device alerts scans = exported device' alerts' scans' ↔
      device.get "hostname" = device'.get "hostname" ∧ device.get "os_type" = device'.get "os_type" ∧
      device.get "registered_at" = device'.get "registered_at" ∧ alerts = alerts' ∧ scans = scans' := by
  have hostname := shown_eq_iff device device' (c := ⟨"hostname", .text (some 255), false⟩)
    (by simp [Table.columns]) rfl (Or.inl ⟨_, rfl⟩)
  have osType := shown_eq_iff device device' (c := ⟨"os_type", .text (some 50), false⟩)
    (by simp [Table.columns]) rfl (Or.inl ⟨_, rfl⟩)
  have registeredAt := shown_eq_iff device device' (c := ⟨"registered_at", .dateTime, false⟩)
    (by simp [Table.columns]) rfl (Or.inr rfl)
  dsimp only at hostname osType registeredAt
  rw [← hostname, ← osType, ← registeredAt]
  unfold exported
  simp [id, and_assoc]

theorem gdprExport_ne_iff (contains : db.Contains deviceId) (contains' : db'.Contains deviceId) :
    gdprExport db deviceId ≠ gdprExport db' deviceId ↔ Shows db db' deviceId := by
  obtain ⟨device, only⟩ := contains
  obtain ⟨device', only'⟩ := contains'
  have id : device.get "id" = device'.get "id" :=
    (get_id (mem_of_only only).2).trans (get_id (mem_of_only only').2).symm
  rw [gdprExport_of_contains only, gdprExport_of_contains only', ne_eq, Except.ok.injEq, exported_eq_iff id]
  unfold Shows Archive.readings
  rw [only, only']
  simp only [List.map_cons, List.map_nil, List.cons.injEq, and_true, not_and_or, ne_eq]

end

theorem gdprExport_complete_iff {db db' : Archive} {deviceId : String} (contains : db.Contains deviceId)
    (contains' : db'.Contains deviceId) :
    (¬ SameRecords db db' deviceId → gdprExport db deviceId ≠ gdprExport db' deviceId) ↔
      (¬ SameRecords db db' deviceId → Shows db db' deviceId) :=
  imp_congr_right fun _ => gdprExport_ne_iff contains contains'

def archive (hostname title : String) : Archive where
  rows
    | .devices => (fill Table.devices.columns [("hostname", some (.str hostname)), ("os_type", some (.str "linux")),
        ("os_version", some (.str "6.1")), ("architecture", some (.str "x86_64")), ("ram_mb", some (.int 8192)),
        ("cpu_cores", some (.int 8)), ("agent_version", some (.str "2.0.0"))]
        (Table.defaults "d1" "2026-01-01T00:00:00+00:00" .devices)).toOption.toList
    | .alerts => (fill Table.alerts.columns [("device_id", some (.uuid "d1")), ("severity", some (.str "high")),
        ("category", some (.str "intrusion")), ("title", some (.str title))]
        (Table.defaults "a1" "2026-01-02T00:00:00+00:00" .alerts)).toOption.toList
    | _ => []
  scanResults := []
  auditLogs := []

theorem hostname_exported : gdprExport (archive "laptop" "Reverse shell") "d1" ≠
    gdprExport (archive "desktop" "Reverse shell") "d1" := by
  have differ : (archive "laptop" "Reverse shell").readings "d1" "hostname" ≠
      (archive "desktop" "Reverse shell").readings "d1" "hostname" := by
    intro same
    have texts := congrArg (List.map fun v => isText v "laptop") same
    exact absurd texts (by decide +kernel)
  refine (gdprExport_complete_iff ?_ ?_).mpr (fun _ => Or.inl differ) fun same => ?_
  · exact List.length_eq_one_iff.mp (by decide +kernel)
  · exact List.length_eq_one_iff.mp (by decide +kernel)
  · have texts := congrArg (List.map fun row => isText (row.lookup "hostname").join "laptop") same.device
    exact absurd texts (by decide +kernel)

theorem alert_title_not_exported : ¬ (
    ¬ SameRecords (archive "laptop" "Reverse shell") (archive "laptop" "USB storage connected") "d1" →
      gdprExport (archive "laptop" "Reverse shell") "d1" ≠ gdprExport (archive "laptop" "USB storage connected") "d1") := by
  intro complete
  refine complete (fun same => ?_) ?_
  · have titles := same.alerts.map fun row => isText (row.lookup "title").join "Reverse shell"
    exact absurd titles (by decide +kernel)
  · rfl

end GuardianPi.Backend.Responses
