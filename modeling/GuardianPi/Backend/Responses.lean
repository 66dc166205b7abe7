import GuardianPi.Backend.Endpoints
import GuardianPi.Library.Validation

namespace GuardianPi.Backend.Responses
open GuardianPi.Library GuardianPi.Library.Python GuardianPi.Library.Validation

inductive Table where
  | devices
  | alerts
  | users
  | remediationActions
  | policies
  | investigations
  deriving DecidableEq

def Table.columns : Table → List TypedColumn
  | devices => [
      ⟨"id", .uuid, false⟩, ⟨"hostname", .text (some 255), false⟩, ⟨"os_type", .text (some 50), false⟩,
      ⟨"os_version", .text (some 100), false⟩, ⟨"architecture", .text (some 50), false⟩,
      ⟨"ram_mb", .integer, false⟩, ⟨"cpu_cores", .integer, false⟩,
      ⟨"cpu_model", .text (some 255), true⟩, ⟨"storage_gb", .integer, true⟩,
      ⟨"agent_version", .text (some 50), false⟩, ⟨"status", .text (some 50), false⟩,
      ⟨"is_rooted", .boolean, false⟩, ⟨"is_virtual", .boolean, false⟩,
      ⟨"is_compatible", .boolean, false⟩, ⟨"ip_address", .text (some 45), true⟩,
      ⟨"mac_address", .text (some 17), true⟩, ⟨"api_key_hash", .text (some 255), true⟩,
      ⟨"last_heartbeat", .dateTime, true⟩, ⟨"registered_at", .dateTime, false⟩,
      ⟨"metadata_json", .jsonDict, true⟩]
  | alerts => [
      ⟨"id", .uuid, false⟩, ⟨"device_id", .uuid, false⟩, ⟨"severity", .text (some 50), false⟩,
      ⟨"category", .text (some 100), false⟩, ⟨"title", .text (some 500), false⟩,
      ⟨"description", .text none, true⟩, ⟨"evidence", .jsonDict, true⟩,
      ⟨"status", .text (some 50), false⟩, ⟨"acknowledged_by", .uuid, true⟩,
      ⟨"source", .text (some 100), true⟩, ⟨"mitre_tactic", .text (some 100), true⟩,
      ⟨"mitre_technique", .text (some 100), true⟩, ⟨"created_at", .dateTime, false⟩,
      ⟨"resolved_at", .dateTime, true⟩]
  | users => [
      ⟨"id", .uuid, false⟩, ⟨"email", .text (some 255), false⟩, ⟨"password_hash", .text (some 255), false⟩,
      ⟨"full_name", .text (some 255), false⟩, ⟨"role", .text (some 50), false⟩,
      ⟨"is_active", .boolean, false⟩, ⟨"last_login", .dateTime, true⟩, ⟨"created_at", .dateTime, false⟩,
      ⟨"updated_at", .dateTime, false⟩, ⟨"mfa_secret", .text (some 255), true⟩]
  | remediationActions => [
      ⟨"id", .uuid, false⟩, ⟨"device_id", .uuid, false⟩, ⟨"alert_id", .uuid, true⟩,
      ⟨"initiated_by", .uuid, true⟩, ⟨"action_type", .text (some 100), false⟩,
      ⟨"status", .text (some 50), false⟩, ⟨"parameters", .jsonDict, true⟩,
      ⟨"rollback_data", .jsonDict, true⟩, ⟨"result_message", .text none, true⟩,
      ⟨"is_automated", .boolean, false⟩, ⟨"created_at", .dateTime, false⟩,
      ⟨"completed_at", .dateTime, true⟩]
  | policies => [
      ⟨"id", .uuid, false⟩, ⟨"name", .text (some 255), false⟩, ⟨"description", .text none, true⟩,
      ⟨"category", .text (some 100), false⟩, ⟨"rules", .jsonDict, false⟩,
      ⟨"severity", .text (some 50), false⟩, ⟨"is_enabled", .boolean, false⟩,
      ⟨"target_os", .jsonList, false⟩, ⟨"created_by", .uuid, true⟩, ⟨"created_at", .dateTime, false⟩,
      ⟨"updated_at", .dateTime, false⟩]
  | investigations => [
      ⟨"id", .uuid, false⟩, ⟨"title", .text (some 500), false⟩, ⟨"description", .text none, true⟩,
      ⟨"status", .text (some 50), false⟩, ⟨"priority", .text (some 50), false⟩,
      ⟨"assignee_id", .uuid, true⟩, ⟨"alert_ids", .jsonList, true⟩, ⟨"device_ids", .jsonList, true⟩,
      ⟨"timeline", .jsonList, true⟩, ⟨"findings", .text none, true⟩, ⟨"mitre_tactics", .jsonList, true⟩,
      ⟨"created_by", .uuid, true⟩, ⟨"created_at", .dateTime, false⟩, ⟨"updated_at", .dateTime, false⟩,
      ⟨"closed_at", .dateTime, true⟩]

def Table.response : Table → List Field
  | devices => [
      ⟨"id", .str, false⟩, ⟨"hostname", .str, false⟩, ⟨"os_type", .str, false⟩, ⟨"os_version", .str, false⟩,
      ⟨"architecture", .str, false⟩, ⟨"ram_mb", .int, false⟩, ⟨"cpu_cores", .int, false⟩,
      ⟨"agent_version", .str, false⟩, ⟨"status", .str, false⟩, ⟨"is_rooted", .bool, false⟩,
      ⟨"is_virtual", .bool, false⟩, ⟨"is_compatible", .bool, false⟩, ⟨"ip_address", .str, true⟩,
      ⟨"last_heartbeat", .datetime, true⟩, ⟨"registered_at", .datetime, false⟩]
  | alerts => [
      ⟨"id", .str, false⟩, ⟨"device_id", .str, false⟩, ⟨"severity", .str, false⟩, ⟨"category", .str, false⟩,
      ⟨"title", .str, false⟩, ⟨"description", .str, true⟩, ⟨"evidence", .dict, true⟩,
      ⟨"status", .str, false⟩, ⟨"source", .str, true⟩, ⟨"mitre_tactic", .str, true⟩,
      ⟨"mitre_technique", .str, true⟩, ⟨"created_at", .datetime, false⟩, ⟨"resolved_at", .datetime, true⟩]
  | users => [
      ⟨"id", .str, false⟩, ⟨"email", .str, false⟩, ⟨"full_name", .str, false⟩, ⟨"role", .str, false⟩,
      ⟨"is_active", .bool, false⟩, ⟨"last_login", .datetime, true⟩, ⟨"created_at", .datetime, false⟩]
  | remediationActions => [
      ⟨"id", .str, false⟩, ⟨"device_id", .str, false⟩, ⟨"action_type", .str, false⟩,
      ⟨"status", .str, false⟩, ⟨"parameters", .dict, true⟩, ⟨"result_message", .str, true⟩,
      ⟨"is_automated", .bool, false⟩, ⟨"created_at", .datetime, false⟩, ⟨"completed_at", .datetime, true⟩]
  | policies => [
      ⟨"id", .str, false⟩, ⟨"name", .str, false⟩, ⟨"description", .str, true⟩, ⟨"category", .str, false⟩,
      ⟨"rules", .dict, false⟩, ⟨"severity", .str, false⟩, ⟨"is_enabled", .bool, false⟩,
      ⟨"target_os", .list, false⟩, ⟨"created_at", .datetime, false⟩]
  | investigations => [
      ⟨"id", .str, false⟩, ⟨"title", .str, false⟩, ⟨"description", .str, true⟩, ⟨"status", .str, false⟩,
      ⟨"priority", .str, false⟩, ⟨"assignee_id", .str, true⟩, ⟨"alert_ids", .list, true⟩,
      ⟨"device_ids", .list, true⟩, ⟨"timeline", .list, true⟩, ⟨"findings", .str, true⟩,
      ⟨"mitre_tactics", .list, true⟩, ⟨"created_at", .datetime, false⟩, ⟨"updated_at", .datetime, false⟩,
      ⟨"closed_at", .datetime, true⟩]

def Table.defaults (id now : String) : Table → Row
  | devices => [("id", some (.uuid id)), ("status", some (.str "online")), ("is_rooted", some (.bool false)),
      ("is_virtual", some (.bool false)), ("is_compatible", some (.bool true)),
      ("registered_at", some (.datetime now))]
  | alerts => [("id", some (.uuid id)), ("status", some (.str "open")), ("created_at", some (.datetime now))]
  | users => [("id", some (.uuid id)), ("role", some (.str "viewer")), ("is_active", some (.bool true)),
      ("created_at", some (.datetime now)), ("updated_at", some (.datetime now))]
  | remediationActions => [("id", some (.uuid id)), ("status", some (.str "pending")),
      ("is_automated", some (.bool false)), ("created_at", some (.datetime now))]
  | policies => [("id", some (.uuid id)), ("severity", some (.str "medium")),
      ("is_enabled", some (.bool true)),
      ("target_os", some (.list [.str "windows", .str "linux", .str "macos", .str "raspberrypi"])),
      ("created_at", some (.datetime now)), ("updated_at", some (.datetime now))]
  | investigations => [("id", some (.uuid id)), ("status", some (.str "open")),
      ("priority", some (.str "medium")), ("timeline", some (.list [])),
      ("created_at", some (.datetime now)), ("updated_at", some (.datetime now))]

structure DeviceRegisterRequest where
  hostname : String
  osType : String
  osVersion : String
  architecture : String
  ramMb : Int
  cpuCores : Int
  cpuModel : Option String
  storageGb : Option Int
  agentVersion : String
  isRooted : Bool
  isVirtual : Bool
  ipAddress : Option String
  macAddress : Option String
  metadataJson : Option (List (String × Value))
  bounds : hostname.length ≤ 255 ∧ osVersion.length ≤ 100 ∧ architecture.length ≤ 50 ∧
    agentVersion.length ≤ 50
  known : osType ∈ ["windows", "linux", "macos", "android", "ios", "raspberrypi"]
  positive : 0 < ramMb ∧ 0 < cpuCores

structure AlertCreate where
  deviceId : String
  severity : String
  category : String
  title : String
  description : Option String
  evidence : Option (List (String × Value))
  source : Option String
  mitreTactic : Option String
  mitreTechnique : Option String
  bounds : category.length ≤ 100 ∧ title.length ≤ 500
  known : severity ∈ ["critical", "high", "medium", "low", "info"]

structure AlertUpdateRequest where
  status : String
  known : status ∈ ["acknowledged", "resolved", "false_positive"]

structure RemediationRequest where
  deviceId : String
  actionType : String
  parameters : List (String × Value)
  alertId : Option String
  known : actionType ∈
    ["quarantine_process", "block_ip", "disable_service", "isolate_endpoint", "kill_process"]

structure PolicyCreate where
  name : String
  description : Option String
  category : String
  rules : List (String × Value)
  severity : String
  isEnabled : Bool
  targetOs : List String
  bounds : name.length ≤ 255 ∧ category.length ≤ 100
  known : severity ∈ ["critical", "high", "medium", "low"]

structure InvestigationCreate where
  title : String
  description : Option String
  priority : String
  alertIds : Option (List String)
  deviceIds : Option (List String)
  mitreTactics : Option (List String)
  bound : title.length ≤ 500
  known : priority ∈ ["critical", "high", "medium", "low"]

inductive Submission where
  | registerDevice (r : DeviceRegisterRequest)
  | createAlert (r : AlertCreate)
  | updateAlert (alertId : String) (r : AlertUpdateRequest)
  | createUser (r : UserCreate)
  | createRemediation (r : RemediationRequest)
  | createPolicy (r : PolicyCreate)
  | createInvestigation (r : InvestigationCreate)

/-- `UUID(text)` as its canonical text, the id and the clock readings of the request, and the rows that
the database takes and commits. -/
structure Environment where
  rules : Rules
  parseUuid : String → Except PyError String
  hashpw : String → Except PyError String
  newId : String
  received : String
  flushed : String
  takes : Table → Row → Bool
  commits : Bool

structure Database where
  rows : (table : Table) → List (TypedRow table.columns)

structure Written where
  table : Table
  row : TypedRow table.columns
  database : Database

def text (s : Option String) : Option Attribute := s.map .str

def dict (fields : Option (List (String × Value))) : Option Attribute := fields.map .dict

def texts (items : Option (List String)) : Option Attribute := items.map fun s => .list (s.map .str)

section
variable (env : Environment) (currentUser : User) (db : Database)

def insert (table : Table) (kwargs : Row) : Except Failure Written := do
  let row ← raised (fill table.columns kwargs (table.defaults env.newId env.flushed))
  if !env.takes table row.row then .error (.python .integrityError)
  else .ok ⟨table, row, ⟨fun other =>
    if same : table = other then db.rows other ++ [same ▸ row] else db.rows other⟩⟩

def registerDevice (r : DeviceRegisterRequest) : Except Failure Written :=
  let compat := checkCompatibility
    ⟨r.osType, r.osVersion, r.architecture, r.ramMb, r.storageGb.getD 0⟩
  insert env db .devices [
    ("hostname", some (.str r.hostname)), ("os_type", some (.str r.osType)),
    ("os_version", some (.str r.osVersion)), ("architecture", some (.str r.architecture)),
    ("ram_mb", some (.int r.ramMb)), ("cpu_cores", some (.int r.cpuCores)),
    ("cpu_model", text r.cpuModel), ("storage_gb", r.storageGb.map .int),
    ("agent_version", some (.str r.agentVersion)), ("is_rooted", some (.bool r.isRooted)),
    ("is_virtual", some (.bool r.isVirtual)), ("is_compatible", some (.bool compat.isCompatible)),
    ("ip_address", text r.ipAddress), ("mac_address", text r.macAddress),
    ("metadata_json", dict r.metadataJson), ("last_heartbeat", some (.datetime env.received))]

def createAlert (r : AlertCreate) : Except Failure Written := do
  let deviceId ← raised (env.parseUuid r.deviceId)
  insert env db .alerts [
    ("device_id", some (.uuid deviceId)), ("severity", some (.str r.severity)),
    ("category", some (.str r.category)), ("title", some (.str r.title)),
    ("description", text r.description), ("evidence", dict r.evidence), ("source", text r.source),
    ("mitre_tactic", text r.mitreTactic), ("mitre_technique", text r.mitreTechnique)]

def hasId (id : String) (row : Row) : Bool :=
  match row.lookup "id" with
  | some (some (.uuid other)) => other = id
  | _ => false

def updateAlert (alertId : String) (r : AlertUpdateRequest) : Except Failure Written := do
  match ← scalarOneOrNone ((db.rows .alerts).filter fun alert => hasId alertId alert.row) with
  | none => httpException 404 "Alert not found"
  | some alert =>
      let alert ← raised (alert.set "status" (some (.str r.status)))
      let alert ← raised (alert.set "acknowledged_by" (some (.uuid currentUser.id)))
      let alert ← raised (if r.status = "resolved"
        then alert.set "resolved_at" (some (.datetime env.received)) else .ok alert)
      if !env.takes .alerts alert.row then .error (.python .integrityError)
      else .ok ⟨.alerts, alert, ⟨fun other =>
        if same : Table.alerts = other
        then (db.rows other).map fun row => if hasId alertId row.row then same ▸ alert else row
        else db.rows other⟩⟩

def createUser (r : UserCreate) : Except Failure Written := do
  let existing := (db.rows .users).filter fun user =>
    match user.row.lookup "email" with
    | some (some (.str email)) => email = r.email
    | _ => false
  match ← scalarOneOrNone existing with
  | some _ => httpException 409 "Email already registered"
  | none =>
      let passwordHash ← raised (env.hashpw r.password)
      insert env db .users [
        ("email", some (.str r.email)), ("password_hash", some (.str passwordHash)),
        ("full_name", some (.str r.fullName)), ("role", some (.str r.role))]

def createRemediation (r : RemediationRequest) : Except Failure Written := do
  let deviceId ← raised (env.parseUuid r.deviceId)
  let alertId ← match r.alertId with
    | none => .ok none
    | some given => if given = "" then .ok none else (raised (env.parseUuid given)).map some
  insert env db .remediationActions [
    ("device_id", some (.uuid deviceId)), ("alert_id", alertId.map .uuid),
    ("initiated_by", some (.uuid currentUser.id)), ("action_type", some (.str r.actionType)),
    ("parameters", some (.dict r.parameters)), ("status", some (.str "pending"))]

def createPolicy (r : PolicyCreate) : Except Failure Written :=
  insert env db .policies [
    ("name", some (.str r.name)), ("description", text r.description),
    ("category", some (.str r.category)), ("rules", some (.dict r.rules)),
    ("severity", some (.str r.severity)), ("is_enabled", some (.bool r.isEnabled)),
    ("target_os", texts (some r.targetOs)), ("created_by", some (.uuid currentUser.id))]

def createInvestigation (r : InvestigationCreate) : Except Failure Written :=
  insert env db .investigations [
    ("title", some (.str r.title)), ("description", text r.description),
    ("priority", some (.str r.priority)), ("alert_ids", texts r.alertIds),
    ("device_ids", texts r.deviceIds), ("mitre_tactics", texts r.mitreTactics),
    ("created_by", some (.uuid currentUser.id)),
    ("timeline", some (.list [.obj [("action", .str "created"),
      ("content", .str s!"Investigation created by {currentUser.email}"),
      ("timestamp", .str env.received), ("user", .str currentUser.email)]]))]

def write : Submission → Except Failure Written
  | .registerDevice r => registerDevice env db r
  | .createAlert r => createAlert env db r
  | .updateAlert alertId r => updateAlert env currentUser db alertId r
  | .createUser r => createUser env db r
  | .createRemediation r => createRemediation env currentUser db r
  | .createPolicy r => createPolicy env currentUser db r
  | .createInvestigation r => createInvestigation env currentUser db r

inductive Refusal where
  | failed (failure : Failure)
  | invalid (fields : List String)

/-- The handler inside `get_db`, which commits only what raises no exception. -/
def handle (s : Submission) : Except Refusal Row × Database :=
  match write env currentUser db s with
  | .error failure => (.error (.failed failure), db)
  | .ok written =>
      match modelValidate env.rules written.table.response written.row.row with
      | .error fields => (.error (.invalid fields), db)
      | .ok response => if env.commits then (.ok response, written.database)
          else (.error (.failed (.python .unavailable)), db)

end

def canonical : Option Attribute → Option Attribute
  | some (.uuid text) => some (.str text)
  | v => v

section
variable (env : Environment) (currentUser : User) (db : Database)

/-- The request succeeds with the row that it wrote, which is committed. -/
def Rendered (s : Submission) : Prop :=
  ∃ written response, write env currentUser db s = .ok written ∧
    handle env currentUser db s = (.ok response, written.database) ∧
    ∀ f ∈ written.table.response,
      response.lookup f.name = (written.row.row.lookup f.name).map canonical

def Written.refused (w : Written) : List String :=
  (w.table.response.map Field.name).filter (identifies w.table.columns w.row.row)

variable {env currentUser db}

theorem columns_distinct (table : Table) : (table.columns.map TypedColumn.name).Nodup := by
  cases table <;> decide +kernel

theorem response_reads (table : Table) :
    ∀ f ∈ table.response, ∃ c ∈ table.columns, f.reads c = true := by
  cases table <;> decide +kernel

theorem id_identifies (table : Table) (row : TypedRow table.columns) :
    ∃ f ∈ table.response, identifies table.columns row.row f.name = true := by
  have column : (⟨"id", .uuid, false⟩ : TypedColumn) ∈ table.columns := by
    cases table <;> exact List.mem_cons_self
  have field : (⟨"id", .str, false⟩ : Field) ∈ table.response := by
    cases table <;> exact List.mem_cons_self
  refine ⟨_, field, List.any_eq_true.mpr ⟨_, column, ?_⟩⟩
  obtain ⟨cell, found, admitted⟩ := row.fits.lookup (columns_distinct table) column
  cases cell with
  | none => cases admitted
  | some v => simp [found]

theorem handle_of_written {s : Submission} {written : Written}
    (wrote : write env currentUser db s = .ok written) :
    handle env currentUser db s = (.error (.invalid written.refused), db) := by
  have refused : modelValidate env.rules written.table.response written.row.row =
      .error written.refused :=
    modelValidate_error written.row.fits (columns_distinct _) (response_reads _)
      (id_identifies _ written.row)
  unfold handle
  rw [wrote]
  simp only [refused]

end

theorem never_rendered (env : Environment) (currentUser : User) (db : Database) (s : Submission) :
    ¬ Rendered env currentUser db s ∧ (handle env currentUser db s).2 = db ∧
      ∀ written, write env currentUser db s = .ok written →
        (handle env currentUser db s).1 = .error (.invalid written.refused) := by
  refine ⟨?_, ?_, fun written wrote => ?_⟩
  · rintro ⟨written, response, wrote, rendered, -⟩
    rw [handle_of_written wrote] at rendered
    cases rendered
  · cases wrote : write env currentUser db s with
    | ok written => rw [handle_of_written wrote]
    | error failure =>
        unfold handle
        rw [wrote]
  · rw [handle_of_written wrote]

def strictRules : Rules where
  convert type v := if type.has v then some v else none
  keeps _ _ has := if_pos has
  refuses _ := rfl

theorem registration_not_rendered :
    let env : Environment := ⟨strictRules, .ok, .ok, "7c1e4a52-0d3b-4b8e-9f10-3a6d5e2f8b41",
      "2026-01-01T00:00:00+00:00", "2026-01-01T00:00:00.000400+00:00", fun _ _ => true, true⟩
    let user : User := ⟨"", "", "", "", "", true, none⟩
    let request : DeviceRegisterRequest := ⟨"pi", "raspberrypi", "12", "arm64", 4096, 4, none, some 32,
      "2.0.0", false, false, none, none, none, by decide, by decide, by decide⟩
    (write env user ⟨fun _ => []⟩ (.registerDevice request)).toOption.isSome = true ∧
      ¬ Rendered env user ⟨fun _ => []⟩ (.registerDevice request) := by
  intro env user request
  refine ⟨by decide +kernel, ?_⟩
  rintro ⟨written, response, wrote, rendered, -⟩
  rw [handle_of_written wrote] at rendered
  cases rendered

end GuardianPi.Backend.Responses
