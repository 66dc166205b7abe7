import GuardianPi.Backend.AccessControl
import GuardianPi.Library.Counting
import GuardianPi.Library.Interleaving
import GuardianPi.Library.Keyed
import GuardianPi.RunLocal.Telemetry

namespace GuardianPi.RunLocal
open GuardianPi.Library GuardianPi.Library.Python GuardianPi.Library.Interleaving
open GuardianPi.Backend (Security Claims)

structure User where
  id : String
  email : String
  passwordHash : String
  fullName : String
  role : String
  isActive : Bool

structure Device where
  id : String
  hostname : String
  osType : String
  status : String

structure Alert where
  id : String
  fields : Orm.Fields Value
  status : String
  createdAt : String

structure Tables where
  users : List User
  devices : List Device
  alerts : List Alert

def Tables.empty : Tables := ⟨[], [], []⟩

def Tables.alertIds (db : Tables) : List String := db.alerts.map Alert.id

def alertRows (ids now : Nat → String) (pending : List (Orm.Fields Value)) : List Alert :=
  pending.mapIdx fun k fields => ⟨ids k, fields, "open", now k⟩

/-! ## The seed -/

def adminEmail : String := "admin@guardianpi.io"

def devicesData : List (String × String × String) := [
  ("WS-001", "windows", "online"), ("SRV-002", "linux", "online"), ("PI-003", "raspberrypi", "online"),
  ("MAC-004", "macos", "online"), ("LNX-005", "linux", "offline"), ("DRD-006", "android", "online")]

structure SeedAlert where
  severity : String
  category : String
  title : String
  hostname : String
  description : String
  mitre : Option (String × String)

def alertsData : List SeedAlert := [
  ⟨"critical", "malware", "Suspicious process: mimikatz.exe", "WS-001", "Credential dumping tool detected",
    some ("Credential Access", "T1003")⟩,
  ⟨"critical", "tamper", "Debugger attached to agent process", "SRV-002", "Anti-tamper violation detected",
    some ("Defense Evasion", "T1622")⟩,
  ⟨"high", "integrity", "File integrity change: /etc/shadow", "PI-003", "Critical system file modified",
    some ("Persistence", "T1098")⟩,
  ⟨"high", "intrusion", "Brute-force tool detected: hydra", "SRV-002", "Password attack tool running",
    some ("Credential Access", "T1110")⟩,
  ⟨"medium", "anomaly", "Connection spike: 250 active connections", "SRV-002", "Unusual network activity",
    some ("Command and Control", "T1571")⟩,
  ⟨"medium", "policy", "Unknown USB device connected", "WS-001", "Unauthorized peripheral",
    some ("Collection", "T1025")⟩,
  ⟨"low", "system", "Agent updated to v2.0.0", "MAC-004", "Routine agent update", none⟩]

def SeedAlert.fields (devices : List Device) (a : SeedAlert) : Orm.Fields Value :=
  [("severity", some (.str a.severity)), ("category", some (.str a.category)), ("title", some (.str a.title)),
    ("device_id",
      (devices.reverse.find? fun device => device.hostname = a.hostname).map fun device => .str device.id),
    ("description", some (.str a.description)), ("source", some (.str "agent")),
    ("mitre_tactic", a.mitre.map fun m => .str m.1), ("mitre_technique", a.mitre.map fun m => .str m.2)]

structure Minted where
  adminId : String
  passwordHash : String
  deviceIds : Nat → String
  alertIds : Nat → String
  now : Nat → String

def Minted.admin (m : Minted) : User := ⟨m.adminId, adminEmail, m.passwordHash, "Admin", "admin", true⟩

/-- A clash of primary keys ends the startup. -/
def seedData (m : Minted) (db : Tables) : Option Tables :=
  match db.users.filter fun user => user.email = adminEmail with
  | [] =>
      let users := db.users ++ [m.admin]
      let devices := db.devices ++
        devicesData.mapIdx fun k (hostname, osType, status) => ⟨m.deviceIds k, hostname, osType, status⟩
      let alerts := db.alerts ++ alertRows m.alertIds m.now (alertsData.map (SeedAlert.fields devices))
      if (users.map User.id).Nodup ∧ (devices.map Device.id).Nodup ∧ (alerts.map Alert.id).Nodup
        then some ⟨users, devices, alerts⟩ else none
  | [_] => some db
  | _ => none

/-! ## The routes -/

/-- Each start of the server draws a key of its own: no key decodes what another has signed. -/
structure LocalHost (Token : Type) where
  server : LocalServer
  security : Nat → Security Token
  apart : ∀ i j now payload, i ≠ j →
    (security i).jwt.decode now ((security j).jwt.encode payload) = none

inductive Answer (Token : Type) where
  | started
  | notStarted
  | unreachable
  | refused (statusCode : Nat)
  | tokens (accessToken refreshToken : Token)
  | ingested (events alertsCreated : Nat)
  | acknowledged

section
variable {Token : Type} (host : LocalHost Token)

def parseBody (body : List UInt8) : Option Value :=
  (Json.loadsBytes body).map (Json.map host.server.number)

def makeToken (user : User) (now : Int) : Claims :=
  [("sub", .str user.id), ("role", .str user.role), ("type", .str "access"), ("exp", .num (.int (now + 3600)))]

def makeRefresh (user : User) (now : Int) : Claims :=
  [("sub", .str user.id), ("type", .str "refresh"), ("exp", .num (.int (now + 604800)))]

/-- Whether SQLite takes a value as a parameter: its integers have 64 bits. -/
def bindable : Value → Bool
  | .arr _ | .obj _ => false
  | .num (.int n) => -2 ^ 63 ≤ n && n < 2 ^ 63
  | _ => true

def login (process : Nat) (db : Tables) (body : List UInt8) (now later : Int) (commits : Bool) : Answer Token :=
  match parseBody host body with
  | none => .refused 500
  | some body =>
      match Value.get body "email" .null, Value.get body "password" (.str "") with
      | .error _, _ | _, .error _ => .refused 500
      | .ok email, .ok password =>
          if bindable email then
            match db.users.filter fun user => Value.isStr email user.email with
            | [] => .refused 401
            | [user] =>
                match password with
                | .str plain =>
                    match (host.security process).checkpw plain user.passwordHash with
                    | .ok true =>
                        let jwt := (host.security process).jwt
                        if commits then .tokens (jwt.encode (makeToken user now)) (jwt.encode (makeRefresh user later))
                        else .refused 500
                    | .ok false => .refused 401
                    | .error _ => .refused 500
                | _ => .refused 500
            | _ => .refused 500
          else .refused 500

/-- Neither the type of a token nor the state of its user is looked at. -/
def getCurrentUser (process : Nat) (db : Tables) (now : Int) (authorization : Option Token) : Except Nat User :=
  match authorization with
  | none => .error 401
  | some token =>
      match (host.security process).jwt.decode now token with
      | none => .error 401
      | some payload =>
          match Json.lookup "sub" payload with
          | none => .error 500
          | some sub =>
              match db.users.filter fun user => Value.isStr sub user.id with
              | [] => .error 401
              | [user] => .ok user
              | _ => .error 500

def ingest (db : Tables) (body : List UInt8) (ids now : Nat → String) : Answer Token × Tables :=
  match parseBody host body with
  | none => (.refused 500, db)
  | some value =>
      match localAlerts value with
      | .error _ => (.refused 500, db)
      | .ok (events, pending) =>
          let alerts := db.alerts ++ alertRows ids now pending
          if pending.isEmpty ||
              (host.server.commits (db.alerts.map Alert.fields) pending && decide (alerts.map Alert.id).Nodup) then
            (.ingested events pending.length, { db with alerts })
          else (.refused 500, db)

def Alert.acknowledge (alertId : String) (alert : Alert) : Alert :=
  if alert.id = alertId then { alert with status := "acknowledged" } else alert

def ackAlert (db : Tables) (alertId : String) (commits : Bool) : Answer Token × Tables :=
  match db.alerts.filter fun alert => alert.id = alertId with
  | [] => (.refused 404, db)
  | [_] =>
      if commits then (.acknowledged, { db with alerts := db.alerts.map (Alert.acknowledge alertId) })
      else (.refused 500, db)
  | _ => (.refused 500, db)

end

def Alert.hasSeverity (severity : String) (a : Alert) : Bool :=
  match a.fields.lookup "severity" with
  | some (some (.str own)) => own = severity
  | _ => false

def listAlerts (db : Tables) (severity statusFilter : String) : List Alert :=
  (db.alerts.filter fun alert => (severity = "" || alert.hasSeverity severity) &&
    (statusFilter = "" || alert.status = statusFilter)).mergeSort fun a b => b.createdAt ≤ a.createdAt

def metricsText (devices online alerts openAlerts : Nat) : String :=
  s!"guardian_devices_total {devices}\nguardian_devices_online {online}\n" ++
    s!"guardian_alerts_total {alerts}\nguardian_alerts_open {openAlerts}\n"

def metrics (db : Tables) : String :=
  metricsText db.devices.length (db.devices.countP fun device => device.status = "online") db.alerts.length
    (db.alerts.countP fun alert => alert.status = "open")

/-! ## Runs of the server -/

inductive Op where
  | start (m : Minted)
  | login (body : List UInt8) (now later : Int) (commits : Bool)
  | ingest (body : List UInt8) (ids now : Nat → String)
  | ackAlert (alertId : String) (commits : Bool)

def Op.isStart : Op → Bool
  | .start _ => true
  | _ => false

structure State where
  db : Tables
  process : Option Nat
  starts : Nat

def State.empty : State := ⟨.empty, none, 0⟩

section
variable {Token : Type} (host : LocalHost Token)

def State.serve (s : State) (process : Nat) : Op → Answer Token × Tables
  | .start _ => (.unreachable, s.db)
  | .login body now later commits => (login host process s.db body now later commits, s.db)
  | .ingest body ids now => ingest host s.db body ids now
  | .ackAlert alertId commits => ackAlert s.db alertId commits

/-- A start stops the process that runs; without one no request is answered. -/
def State.answer (s : State) (op : Op) : State × Answer Token :=
  match op with
  | .start m =>
      match seedData m s.db with
      | some db => (⟨db, some s.starts, s.starts + 1⟩, .started)
      | none => (⟨s.db, none, s.starts + 1⟩, .notStarted)
  | op =>
      match s.process with
      | none => (s, .unreachable)
      | some process =>
          let (answer, db) := s.serve host process op
          ({ s with db }, answer)

abbrev Exchange (Token : Type) := Op × Answer Token

def serverStep (s : State) (op : Op) : State × List (Exchange Token) :=
  let (t, answer) := s.answer host op
  (t, [(op, answer)])

abbrev serverAfter (ops : List Op) : State := Interleaving.after (serverStep host) .empty ops

abbrev serverLog (ops : List Op) : List (Exchange Token) := outputs (serverStep host) .empty ops

end

section
variable {Token : Type}

def Exchange.started : Exchange Token → Bool
  | (.start _, .started) => true
  | _ => false

def Exchange.created : Exchange Token → Nat
  | (.ingest _ _ _, .ingested _ alertsCreated) => alertsCreated
  | _ => 0

def Exchange.acked? : Exchange Token → Option String
  | (.ackAlert alertId _, .acknowledged) => some alertId
  | _ => none

def createdIn (log : List (Exchange Token)) : Nat := (log.map Exchange.created).sum

def ackedIn (log : List (Exchange Token)) : List String := log.filterMap Exchange.acked?

structure Seeded (log : List (Exchange Token)) (db : Tables) : Prop where
  users : ∃ admin, db.users = [admin] ∧ admin.email = adminEmail
  devices : db.devices.map (fun device => (device.hostname, device.osType, device.status)) = devicesData
  alerts : db.alerts.length = 7 + createdIn log

structure Book (log : List (Exchange Token)) (s : State) : Prop where
  seeded : log.any Exchange.started = true → Seeded log s.db
  unseeded : log.any Exchange.started = false → s.db = .empty ∧ s.process = none ∧ createdIn log = 0
  distinct : s.db.alertIds.Nodup
  known : ∀ id ∈ ackedIn log, id ∈ s.db.alertIds
  status : ∀ a ∈ s.db.alerts, a.status = if a.id ∈ ackedIn log then "acknowledged" else "open"

variable {log : List (Exchange Token)} {s : State} {e : Exchange Token}

theorem createdIn_concat : createdIn (log ++ [e]) = createdIn log + e.created := by
  simp [createdIn]

theorem ackedIn_concat : ackedIn (log ++ [e]) = ackedIn log ++ e.acked?.toList := by
  rw [ackedIn, List.filterMap_append]
  cases acked : e.acked? <;> simp [ackedIn, acked]

theorem book_empty : Book ([] : List (Exchange Token)) .empty := by
  refine ⟨fun started => ?_, fun _ => ⟨rfl, rfl, rfl⟩, List.nodup_nil, ?_, ?_⟩
  · cases started
  · exact List.forall_mem_nil _
  · exact List.forall_mem_nil _

theorem Book.unchanged (book : Book log s) (silent : e.started = false ∧ e.created = 0 ∧ e.acked? = none)
    {t : State} (db : t.db = s.db) (process : s.process = none → t.process = none) : Book (log ++ [e]) t := by
  obtain ⟨started, created, acked⟩ := silent
  obtain ⟨seeded, unseeded, distinct, known, status⟩ := book
  have same : createdIn (log ++ [e]) = createdIn log := by rw [createdIn_concat, created, Nat.add_zero]
  have marks : ackedIn (log ++ [e]) = ackedIn log := by
    rw [ackedIn_concat, acked, Option.toList_none, List.append_nil]
  have ever : (log ++ [e]).any Exchange.started = log.any Exchange.started := by simp [started]
  refine ⟨fun h => ?_, fun h => ?_, ?_, ?_, ?_⟩
  · obtain ⟨users, devices, alerts⟩ := seeded (ever ▸ h)
    rw [← db] at users devices alerts
    exact ⟨users, devices, same ▸ alerts⟩
  · obtain ⟨empty, idle, none⟩ := unseeded (ever ▸ h)
    exact ⟨db.trans empty, process idle, same.trans none⟩
  · rw [db]
    exact distinct
  · rw [marks, db]
    exact known
  · rw [marks, db]
    exact status

theorem length_alertRows (ids now : Nat → String) (pending : List (Orm.Fields Value)) :
    (alertRows ids now pending).length = pending.length := List.length_mapIdx

theorem status_of_mem_alertRows {ids now : Nat → String} {pending : List (Orm.Fields Value)} {a : Alert}
    (member : a ∈ alertRows ids now pending) : a.status = "open" := by
  obtain ⟨k, fields, rfl⟩ := List.mem_mapIdx.mp member
  rfl

theorem Book.start {m : Minted} {db : Tables} (book : Book log s) (filled : seedData m s.db = some db) :
    Book (log ++ [(.start m, .started)]) ⟨db, some s.starts, s.starts + 1⟩ := by
  have same : createdIn (log ++ [(.start m, .started)]) = createdIn log := createdIn_concat
  have marks : ackedIn (log ++ [((.start m, .started) : Exchange Token)]) = ackedIn log := by
    rw [ackedIn_concat]
    exact List.append_nil _
  have ever : (log ++ [((.start m, .started) : Exchange Token)]).any Exchange.started = true := by
    simp [Exchange.started]
  cases before : log.any Exchange.started with
  | true =>
      obtain ⟨⟨admin, users, email⟩, devices, alerts⟩ := book.seeded before
      have kept : db = s.db := by
        rw [seedData, users, List.filter_singleton, decide_eq_true email] at filled
        exact (Option.some.inj filled).symm
      subst kept
      refine ⟨fun _ => ⟨⟨admin, users, email⟩, devices, same ▸ alerts⟩, fun h => ?_, book.distinct, ?_, ?_⟩
      · rw [ever] at h
        cases h
      · rw [marks]
        exact book.known
      · rw [marks]
        exact book.status
  | false =>
      obtain ⟨empty, -, nothing⟩ := book.unseeded before
      have unmarked : ackedIn log = [] := by
        rw [List.eq_nil_iff_forall_not_mem]
        intro id member
        have known := book.known id member
        rw [empty] at known
        cases known
      rw [empty] at filled
      simp only [seedData, Tables.empty, List.filter_nil, List.nil_append] at filled
      obtain ⟨fits, made⟩ := Option.ite_none_right_eq_some.mp filled
      obtain rfl := Option.some.inj made
      refine ⟨fun _ => ⟨⟨_, rfl, rfl⟩, rfl, ?_⟩, fun h => ?_, fits.2.2, ?_, fun a member => ?_⟩
      · rw [same, nothing, length_alertRows]
        rfl
      · rw [ever] at h
        cases h
      · rw [marks, unmarked]
        exact List.forall_mem_nil _
      · rw [marks, unmarked, if_neg List.not_mem_nil]
        exact status_of_mem_alertRows member

theorem ingest_cases (host : LocalHost Token) (db : Tables) (body : List UInt8) (ids now : Nat → String) :
    (ingest host db body ids now = (.refused 500, db)) ∨ ∃ events pending,
      ingest host db body ids now =
        (.ingested events pending.length, { db with alerts := db.alerts ++ alertRows ids now pending }) ∧
      (pending = [] ∨ ((db.alerts ++ alertRows ids now pending).map Alert.id).Nodup) := by
  unfold ingest
  cases parseBody host body with
  | none => exact Or.inl rfl
  | some value =>
      cases listed : localAlerts value with
      | error e => exact Or.inl (by simp only [listed])
      | ok given =>
          obtain ⟨events, pending⟩ := given
          simp only [listed]
          split_ifs with taken
          · refine Or.inr ⟨events, pending, rfl, ?_⟩
            rcases (Bool.or_eq_true _ _).mp taken with empty | taken
            · exact Or.inl (List.isEmpty_iff.mp empty)
            · exact Or.inr (of_decide_eq_true ((Bool.and_eq_true _ _).mp taken).2)
          · exact Or.inl rfl

theorem Book.ingested (book : Book log s) (process : s.process ≠ none) {body : List UInt8}
    {ids now : Nat → String} {events : Nat} {pending : List (Orm.Fields Value)}
    (fits : pending = [] ∨ ((s.db.alerts ++ alertRows ids now pending).map Alert.id).Nodup) :
    Book (log ++ [(.ingest body ids now, .ingested events pending.length)])
      { s with db := { s.db with alerts := s.db.alerts ++ alertRows ids now pending } } := by
  have marks : ackedIn (log ++ [((.ingest body ids now, .ingested events pending.length) : Exchange Token)]) =
      ackedIn log := by
    rw [ackedIn_concat]
    exact List.append_nil _
  have distinct : ((s.db.alerts ++ alertRows ids now pending).map Alert.id).Nodup := by
    rcases fits with rfl | distinct
    · rw [alertRows, List.mapIdx_nil, List.append_nil]
      exact book.distinct
    · exact distinct
  have ever : (log ++ [((.ingest body ids now, .ingested events pending.length) : Exchange Token)]).any
      Exchange.started = log.any Exchange.started := by simp [Exchange.started]
  refine ⟨fun h => ?_, fun h => ?_, distinct, ?_, ?_⟩
  · obtain ⟨users, devices, alerts⟩ := book.seeded (ever ▸ h)
    refine ⟨users, devices, ?_⟩
    rw [createdIn_concat, List.length_append, length_alertRows, alerts, Nat.add_assoc]
    rfl
  · exact absurd (book.unseeded (ever ▸ h)).2.1 process
  · intro id member
    rw [marks] at member
    rw [Tables.alertIds, List.map_append]
    exact List.mem_append_left _ (book.known id member)
  · rw [marks]
    intro a member
    rcases List.mem_append.mp member with old | new
    · exact book.status a old
    · have unmarked : a.id ∉ ackedIn log := by
        intro acked
        rw [List.map_append] at distinct
        exact (List.disjoint_of_nodup_append distinct) (book.known _ acked) (List.mem_map_of_mem new)
      rw [if_neg unmarked]
      exact status_of_mem_alertRows new

theorem ackAlert_cases (db : Tables) (distinct : db.alertIds.Nodup) (alertId : String) (commits : Bool) :
    (alertId ∈ db.alertIds ∧ commits = true) ∧ ackAlert db alertId commits = ((.acknowledged : Answer Token), { db with
      alerts := db.alerts.map (Alert.acknowledge alertId) }) ∨
    ¬ (alertId ∈ db.alertIds ∧ commits = true) ∧ ∃ statusCode,
      ackAlert db alertId commits = ((.refused statusCode : Answer Token), db) := by
  have selected := Keyed.filter_eq distinct alertId
  unfold ackAlert
  rw [selected]
  cases found : Keyed.get Alert.id db.alerts alertId with
  | none => exact Or.inr ⟨fun listed => Keyed.get_eq_none_iff.mp found listed.1, 404, rfl⟩
  | some alert =>
      have member : alert.id ∈ db.alertIds := List.mem_map_of_mem (Keyed.mem_of_get found)
      rw [Keyed.key_of_get found] at member
      cases commits with
      | true => exact Or.inl ⟨⟨member, rfl⟩, rfl⟩
      | false => exact Or.inr ⟨fun committed => Bool.false_ne_true committed.2, 500, rfl⟩

theorem id_acknowledge (alertId : String) (a : Alert) : (a.acknowledge alertId).id = a.id := by
  unfold Alert.acknowledge
  split_ifs <;> rfl

theorem Book.acknowledged (book : Book log s) (process : s.process ≠ none) {alertId : String} {commits : Bool}
    (member : alertId ∈ s.db.alertIds) :
    Book (log ++ [((.ackAlert alertId commits, .acknowledged) : Exchange Token)]) { s with db := { s.db with
      alerts := s.db.alerts.map (Alert.acknowledge alertId) } } := by
  have marks : ackedIn (log ++ [((.ackAlert alertId commits, .acknowledged) : Exchange Token)]) =
      ackedIn log ++ [alertId] := ackedIn_concat
  have ids : (s.db.alerts.map (Alert.acknowledge alertId)).map Alert.id = s.db.alertIds := by
    rw [List.map_map]
    apply List.map_congr_left
    intro a _
    exact id_acknowledge alertId a
  have ever : (log ++ [((.ackAlert alertId commits, .acknowledged) : Exchange Token)]).any Exchange.started =
      log.any Exchange.started := by simp [Exchange.started]
  refine ⟨fun h => ?_, fun h => ?_, ?_, ?_, ?_⟩
  · obtain ⟨users, devices, alerts⟩ := book.seeded (ever ▸ h)
    refine ⟨users, devices, ?_⟩
    rw [createdIn_concat, List.length_map, alerts]
    rfl
  · exact absurd (book.unseeded (ever ▸ h)).2.1 process
  · rw [Tables.alertIds, ids]
    exact book.distinct
  · rw [marks, Tables.alertIds, ids]
    intro id among
    rcases List.mem_append.mp among with old | new
    · exact book.known id old
    · exact List.mem_singleton.mp new ▸ member
  · rw [marks, List.forall_mem_map]
    intro a among
    have status := book.status a among
    by_cases here : a.id = alertId
    · simp [Alert.acknowledge, here]
    · simp [Alert.acknowledge, here, status]

theorem serverStep_down {host : LocalHost Token} {op : Op} (request : op.isStart = false)
    (down : s.process = none) : serverStep host s op = (s, [(op, .unreachable)]) := by
  cases op with
  | start m => cases request
  | _ => simp only [serverStep, State.answer, down]

theorem serverStep_up {host : LocalHost Token} {op : Op} {process : Nat} (request : op.isStart = false)
    (up : s.process = some process) : serverStep host s op =
      ({ s with db := (s.serve host process op).2 }, [(op, (s.serve host process op).1)]) := by
  cases op with
  | start m => cases request
  | _ => simp only [serverStep, State.answer, up]

theorem Book.request {host : LocalHost Token} (book : Book log s) {op : Op} {process : Nat}
    (request : op.isStart = false) (up : s.process = some process) :
    Book (log ++ [(op, (s.serve host process op).1)]) { s with db := (s.serve host process op).2 } := by
  have running : s.process ≠ none := by simp [up]
  cases op with
  | start m => cases request
  | login body now later commits => exact book.unchanged ⟨rfl, rfl, rfl⟩ rfl fun down => down
  | ingest body ids now =>
      rcases ingest_cases host s.db body ids now with refused | ⟨events, pending, answered, fits⟩
      · rw [State.serve, refused]
        exact book.unchanged ⟨rfl, rfl, rfl⟩ rfl fun down => down
      · rw [State.serve, answered]
        exact book.ingested running fits
  | ackAlert alertId commits =>
      rcases @ackAlert_cases Token s.db book.distinct alertId commits with
        ⟨⟨member, -⟩, answered⟩ | ⟨-, statusCode, refused⟩
      · rw [State.serve, answered]
        exact book.acknowledged running member
      · rw [State.serve, refused]
        exact book.unchanged ⟨rfl, rfl, rfl⟩ rfl fun down => down

theorem Book.step {host : LocalHost Token} (book : Book log s) (op : Op) :
    Book (log ++ (serverStep host s op).2) (serverStep host s op).1 := by
  cases kind : op.isStart with
  | true =>
      cases op with
      | start m =>
          cases filled : seedData m s.db with
          | some db =>
              have taken : serverStep host s (.start m) =
                  (⟨db, some s.starts, s.starts + 1⟩, [(.start m, .started)]) := by
                simp only [serverStep, State.answer, filled]
              rw [taken]
              exact book.start filled
          | none =>
              have failed : serverStep host s (.start m) =
                  (⟨s.db, none, s.starts + 1⟩, [(.start m, .notStarted)]) := by
                simp only [serverStep, State.answer, filled]
              rw [failed]
              exact book.unchanged ⟨rfl, rfl, rfl⟩ rfl fun _ => rfl
      | _ => cases kind
  | false =>
      cases up : s.process with
      | none =>
          rw [serverStep_down kind up]
          have silent : ∀ op : Op, Exchange.started (op, (.unreachable : Answer Token)) = false ∧
              Exchange.created (op, (.unreachable : Answer Token)) = 0 ∧
              Exchange.acked? (op, (.unreachable : Answer Token)) = none := by
            intro op
            cases op <;> exact ⟨rfl, rfl, rfl⟩
          exact book.unchanged (silent op) rfl fun down => down
      | some process =>
          rw [serverStep_up kind up]
          exact book.request kind up

theorem book_run (host : LocalHost Token) (ops : List Op) :
    Book (serverLog host ops) (serverAfter host ops) := by
  induction ops using List.reverseRecOn with
  | nil => exact book_empty
  | append_singleton ops op ih =>
      rw [serverLog, serverAfter, outputs_append, after_append]
      simpa [outputs, Interleaving.after] using ih.step op

end

theorem metrics_of_book {Token : Type} {log : List (Exchange Token)} {s : State} (book : Book log s)
    (started : log.any Exchange.started = true) : metrics s.db =
      metricsText 6 5 (7 + createdIn log) (7 + createdIn log - (ackedIn log).dedup.length) := by
  obtain ⟨-, devices, alerts⟩ := book.seeded started
  have all : s.db.devices.length = 6 := by
    rw [← List.length_map, devices]
    rfl
  have online : (s.db.devices.countP fun device => device.status = "online") = 5 := by
    have counted := congrArg (List.countP fun device => decide (device.2.2 = "online")) devices
    rw [List.countP_map] at counted
    exact counted
  have opened : (s.db.alerts.countP fun alert => alert.status = "open") =
      s.db.alerts.countP fun alert => alert.id ∉ ackedIn log := by
    apply List.countP_congr
    intro a member
    rw [book.status a member]
    by_cases acked : a.id ∈ ackedIn log <;> simp [acked]
  have unmarked := countP_unmarked Alert.id book.distinct book.known
  rw [metrics, all, online, opened, ← alerts, Nat.eq_sub_of_add_eq unmarked]

theorem mem_listAlerts {db : Tables} {severity status : String} {a : Alert} :
    a ∈ listAlerts db severity status ↔
      a ∈ db.alerts ∧ (severity = "" ∨ a.hasSeverity severity = true) ∧ (status = "" ∨ a.status = status) := by
  simp [listAlerts, List.mem_mergeSort]

/-- Whatever requests and restarts come, the tables are what the answers tell: the metrics count the seven alerts
of the seed, once, and those of every ingest, less the different ones acknowledged, and an acknowledgement
that can be committed succeeds exactly for an alert of these. -/
theorem local_alert_book {Token : Type} (host : LocalHost Token) (ops : List Op)
    (started : (serverLog host ops).any Exchange.started = true) :
    let s := serverAfter host ops
    let log := serverLog host ops
    let total := 7 + createdIn log
    metrics s.db = metricsText 6 5 total (total - (ackedIn log).dedup.length) ∧
      (∀ severity status, (listAlerts s.db severity status).Nodup ∧ ∀ a, a ∈ listAlerts s.db severity status ↔
        a ∈ s.db.alerts ∧ (severity = "" ∨ a.hasSeverity severity = true) ∧
          (status = "" ∨ (if a.id ∈ ackedIn log then "acknowledged" else "open") = status)) ∧
      ∀ alertId commits, (ackAlert s.db alertId commits).1 = (.acknowledged : Answer Token) ↔
        (∃ a ∈ listAlerts s.db "" "", a.id = alertId) ∧ commits = true := by
  intro s log total
  have book : Book log s := book_run host ops
  refine ⟨metrics_of_book book started, fun severity status => ⟨?_, fun a => ?_⟩, fun alertId commits => ?_⟩
  · exact (List.mergeSort_perm _ _).nodup_iff.mpr (book.distinct.of_map.filter _)
  · rw [mem_listAlerts]
    apply and_congr_right
    intro member
    rw [book.status a member]
  · have listed : (∃ a ∈ listAlerts s.db "" "", a.id = alertId) ↔ alertId ∈ s.db.alertIds := by
      simp [mem_listAlerts, Tables.alertIds]
    rw [listed]
    rcases @ackAlert_cases Token s.db book.distinct alertId commits with
      ⟨listed, answered⟩ | ⟨unlisted, statusCode, refused⟩
    · rw [answered]
      exact iff_of_true rfl listed
    · rw [refused]
      apply iff_of_false _ unlisted
      intro made
      cases made

def keyedDecode (process : Nat) (now : Int) (token : Nat × Claims) : Option Claims :=
  if token.1 = process then if Backend.unexpired now token.2 then some token.2 else none else none

theorem keyedDecode_eq_some_iff (process : Nat) (now : Int) (token : Nat × Claims) (claims : Claims) :
    keyedDecode process now token = some claims ↔
      token = (process, claims) ∧ Backend.unexpired now claims := by
  obtain ⟨signer, payload⟩ := token
  simp only [keyedDecode, Option.ite_none_right_eq_some, Option.some.injEq, Prod.mk.injEq]
  constructor
  · rintro ⟨rfl, live, rfl⟩
    exact ⟨⟨rfl, rfl⟩, live⟩
  · rintro ⟨⟨rfl, rfl⟩, live⟩
    exact ⟨rfl, live, rfl⟩

theorem keyedDecode_unique {process : Nat} {now now' : Int} {token : Nat × Claims} {claims claims' : Claims}
    (decoded : keyedDecode process now token = some claims)
    (decoded' : keyedDecode process now' token = some claims') : claims = claims' := by
  have carried := ((keyedDecode_eq_some_iff ..).mp decoded).1
  have carried' := ((keyedDecode_eq_some_iff ..).mp decoded').1
  exact congrArg Prod.snd (carried.symm.trans carried')

def keyed (process : Nat) : Security (Nat × Claims) where
  jwt := {
    encode := fun payload => (process, payload)
    decode := keyedDecode process
    live := Backend.unexpired
    decode_eq_some_iff := keyedDecode_eq_some_iff process
    decode_unique := keyedDecode_unique }
  live_iff _ _ _ := Iff.rfl
  jwtAccessTokenExpireMinutes := 60
  jwtRefreshTokenExpireMinutes := 10080
  agentApiKeys := []
  parseUuid := (Backend.plainSecurity []).parseUuid
  parseUuid_empty := (Backend.plainSecurity []).parseUuid_empty
  checkpw := (Backend.plainSecurity []).checkpw
  hashpw := (Backend.plainSecurity []).hashpw
  rendersUser _ := true

def keyedHost : LocalHost (Nat × Claims) where
  server := ⟨fun _ => .int 0, fun _ _ => true⟩
  security := keyed
  apart _ _ _ _ differ := if_neg (Ne.symm differ)

def minted : Minted :=
  ⟨"u", "admin123456", fun k => s!"d{k}", fun k => s!"a{k}", fun _ => "2026-01-01T00:00:00+00:00"⟩

def reportBody : List UInt8 := dumps (.obj [("device_id", .str "d1"), ("data", .obj [("events", .arr
  [.obj [("severity", .str "high"), ("title", .str "Port scan")], .obj [("severity", .str "low")]])])])

theorem local_alert_book_restarted :
    let ops : List Op := [.start minted, .ackAlert "a3" true, .ingest reportBody (fun k => s!"n{k}") minted.now,
      .start minted, .ackAlert "a3" true, .ackAlert "a4" false]
    metrics (serverAfter keyedHost ops).db = metricsText 6 5 8 7 := by
  intro ops
  have started : (serverLog keyedHost ops).any Exchange.started = true := by decide +kernel
  have log : ackedIn (serverLog keyedHost ops) = ["a3", "a3"] := by decide +kernel
  have created : createdIn (serverLog keyedHost ops) = 1 := by decide +kernel
  have counted := (local_alert_book keyedHost ops started).1
  rw [created, log] at counted
  exact counted

end GuardianPi.RunLocal
