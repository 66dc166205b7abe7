import GuardianPi.Backend.AlertDecisions
import GuardianPi.Library.Orm
import Mathlib.Data.List.Forall2

namespace GuardianPi.Backend
open GuardianPi.Library GuardianPi.Library.Python

def acceptsText (length : Option Nat) (v : Value) : Bool :=
  match v with
  | .str s => length.all fun n => s.length ≤ n
  | _ => false

def textColumn (name : String) (length : Option Nat) (nullable : Bool) (default : Option Value) :
    Orm.Column Value := ⟨name, acceptsText length, nullable, default⟩

def alertColumns (id createdAt : String) : List (Orm.Column Value) := [
  textColumn "id" none false (some (.str id)),
  textColumn "device_id" none false none,
  textColumn "severity" (some 50) false none,
  textColumn "category" (some 100) false none,
  textColumn "title" (some 500) false none,
  textColumn "description" none true none,
  ⟨"evidence", fun _ => true, true, none⟩,
  textColumn "status" (some 50) false (some (.str "open")),
  textColumn "acknowledged_by" none true none,
  textColumn "source" (some 100) true none,
  textColumn "mitre_tactic" (some 100) true none,
  textColumn "mitre_technique" (some 100) true none,
  textColumn "created_at" none false (some (.str createdAt)),
  textColumn "resolved_at" none true none]

def alertAttributes : List String :=
  (alertColumns "" "").map Orm.Column.name ++ ["device", "remediation_actions"]

/-- What the pipeline does not control: `UUID(text)` as its canonical text, new identifiers and clock
readings, and whether each transaction and each re-read of its row succeed. -/
structure Services where
  parseUuid : String → Except PyError String
  uuid4 : Nat → String
  now : Nat → String
  commits : Nat → Bool
  refreshes : Nat → Bool

structure Store where
  devices : List String
  alerts : List (Orm.Fields Value)
  transactions : Nat
  broadcasts : List Value
  published : List Value

def cell (v : Value) : Option Value :=
  match v with
  | .null => none
  | v => some v

def uncell (v : Option Value) : Value := v.getD .null

section
variable (services : Services) (deviceId : Value)

/-- `UUID(device_id) if device_id and device_id != "self" else None` -/
def deviceColumn : Except PyError (Option Value) :=
  if deviceId.truthy && !deviceId.isStr "self" then do
    let text ← deviceId.asStr
    let id ← services.parseUuid text
    return some (.str id)
  else return none

def referencesDevice (store : Store) (row : Orm.Fields Value) : Bool :=
  match row.lookup "device_id" with
  | some (some (.str id)) => id ∈ store.devices
  | _ => true

def insertAlert (alert : Orm.Fields Value) : ExceptT PyError (StateM Store) (Orm.Fields Value) := do
  let store ← get
  let i := store.transactions
  set { store with transactions := i + 1 }
  let row ← Orm.fill (alertColumns (services.uuid4 i) (services.now i)) alert
  if !referencesDevice store row then throw .integrityError
  if !services.commits i then throw .unavailable
  modify fun store => { store with alerts := store.alerts ++ [row] }
  if !services.refreshes i then throw .unavailable
  return row

def alertData (request : AlertRequest) (alert : Orm.Fields Value) : Except PyError Value := do
  let id ← Orm.getAttribute alert "id"
  let title ← Orm.getAttribute alert "title"
  let severity ← Orm.getAttribute alert "severity"
  let alertType ← Orm.getAttribute alert "alert_type"
  let createdAt ← Orm.getAttribute alert "created_at"
  return .obj [("id", uncell id), ("title", uncell title), ("severity", uncell severity),
    ("alert_type", uncell alertType), ("device_id", deviceId), ("details", request.details),
    ("created_at", uncell createdAt)]

def newAlertMessage (data : Value) (timestamp : String) : Value :=
  .obj [("type", .str "new_alert"), ("data", data), ("timestamp", .str timestamp)]

def alertArguments (device : Option Value) (request : AlertRequest) : Orm.Fields Value :=
  [("device_id", device), ("title", cell request.title), ("description", some (.str request.description)),
    ("severity", some (.str request.severity)), ("alert_type", cell request.alertType),
    ("source", some (.str "agent")), ("details", cell request.details)]

def storeAlert (request : AlertRequest) : ExceptT PyError (StateM Store) Value := do
  let device ← deviceColumn services deviceId
  let alert ← Orm.construct alertAttributes (alertArguments device request)
  let alert ← insertAlert services alert
  let data ← alertData deviceId request alert
  modify fun store =>
    let message := newAlertMessage data (services.now store.transactions)
    { store with broadcasts := store.broadcasts ++ [message], published := store.published ++ [message] }
  return data

def createAlert (request : AlertRequest) : StateM Store (Option Value) := do
  match ← (storeAlert services deviceId request).run with
  | .ok data => return some data
  | .error _ => return none

/-- `alert_type` is no attribute of `Alert`, so its constructor raises before anything is stored. -/
theorem createAlert_eq_none (request : AlertRequest) :
    createAlert services deviceId request = pure none := by
  have unmapped : "alert_type" ∉ alertAttributes := by decide
  have refused (device : Option Value) :
      Orm.construct alertAttributes (alertArguments device request) = .error .typeError := by
    have given : ("alert_type", cell request.alertType) ∈ alertArguments device request := by
      simp [alertArguments]
    exact Orm.construct_error given unmapped
  unfold createAlert storeAlert
  cases deviceColumn services deviceId with
  | error e => simp
  | ok device => simp [refused]

structure Stores (request : AlertRequest) (row : Orm.Fields Value) : Prop where
  device : (deviceColumn services deviceId).map some = .ok (row.lookup "device_id")
  severity : row.lookup "severity" = some (some (.str request.severity))
  title : row.lookup "title" = some (cell request.title)
  details : ∃ column, row.lookup column = some (cell request.details)
  filled : ∀ c ∈ alertColumns "" "", c.nullable = false → ∃ v, row.lookup c.name = some (some v)

structure Describes (request : AlertRequest) (alert : Value) : Prop where
  severity : Json.get? "severity" alert = some (.str request.severity)
  title : Json.get? "title" alert = some request.title
  details : Json.get? "details" alert = some request.details

variable (letters : Letters) (repr : Value → String)

def StoresAll (events : List Value) (store : Store) : Prop :=
  let requests := (asks letters repr events).2
  let r := (processTelemetryBatch letters repr (createAlert services deviceId) events).run store
  (∃ rows, r.2.alerts = store.alerts ++ rows ∧ List.Forall₂ (Stores services deviceId) requests rows) ∧
    ∀ alerts, r.1 = .ok alerts → List.Forall₂ Describes requests alerts

theorem createAll_createAlert (requests : List AlertRequest) :
    createAll (createAlert services deviceId) requests = pure [] := by
  induction requests with
  | nil => rfl
  | cons request requests ih => simp [createAll, createAlert_eq_none, ih]

theorem processTelemetryBatch_store (events : List Value) (store : Store) :
    (processTelemetryBatch letters repr (createAlert services deviceId) events).run store =
      ((asks letters repr events).1.map fun _ => [], store) := by
  rw [processTelemetryBatch_run, createAll_createAlert, asks_eq]
  cases (batchRequests letters repr events).1 <;> rfl

def quiet (event : Value) : Bool :=
  match readEvent event with
  | .ok f =>
      if f.isMetrics then
        match calculateAnomalyScore repr f.details with
        | .ok anomaly => anomaly.anomalyScore ≤ 30
        | .error _ => true
      else (f.found letters).isEmpty && (severityOf f.severity).isNone
  | .error _ => true

theorem eventRequests_eq_nil {event : Value} {requests : List AlertRequest}
    (asked : eventRequests letters repr event = .ok requests) :
    requests = [] ↔ quiet letters repr event = true := by
  unfold quiet
  cases read : readEvent event with
  | error e =>
      rw [eventRequests, read] at asked
      cases asked
  | ok f =>
      by_cases metrics : f.isMetrics = true
      · rw [eventRequests, read, ok_bind, if_pos metrics] at asked
        simp only [metrics, if_true]
        cases scored : calculateAnomalyScore repr f.details with
        | error e =>
            rw [scored] at asked
            cases asked
        | ok anomaly =>
            simp only [scored, ok_bind] at asked ⊢
            by_cases high : 30 < anomaly.anomalyScore
            · rw [if_pos high] at asked
              cases request : anomalyRequest anomaly f.details with
              | error e =>
                  rw [request] at asked
                  cases asked
              | ok request' =>
                  rw [request] at asked
                  cases asked
                  simpa using high
            · rw [if_neg high] at asked
              cases asked
              simpa using high
      · simp only [metrics]
        rcases requests_of_not_isMetrics letters repr read metrics asked with
          ⟨none, rfl⟩ | ⟨some, name, fields, -, rfl⟩
        · simp [none]
        · simp [some]

theorem asks_eq_nil_iff (events : List Value) : (asks letters repr events).2 = [] ↔
    ∀ e ∈ events.takeWhile processable, quiet letters repr e = true := by
  rw [asks_takeWhile, List.flatMap_eq_nil_iff]
  refine forall₂_congr fun e among => ?_
  have ok : (eventRequests letters repr e).isOk = true :=
    (eventRequests_isOk letters repr e).trans (List.mem_takeWhile_imp among)
  obtain ⟨requests, asked⟩ := isOk_iff.mp ok
  rw [asks_eq, ← eventRequests_eq_nil letters repr asked]
  simp [batchRequests, asked]

theorem storesAll_iff (events : List Value) (store : Store) :
    StoresAll services deviceId letters repr events store ↔
      ∀ e ∈ events.takeWhile processable, quiet letters repr e = true := by
  rw [← asks_eq_nil_iff letters repr, StoresAll, processTelemetryBatch_store]
  constructor
  · rintro ⟨⟨rows, stored, each⟩, -⟩
    obtain rfl : rows = [] := List.self_eq_append_right.mp stored
    exact List.forall₂_nil_right_iff.mp each
  · intro none
    rw [none]
    refine ⟨⟨[], (List.append_nil _).symm, .nil⟩, fun alerts ended => ?_⟩
    cases outcome : (asks letters repr events).1 with
    | error e =>
        rw [outcome] at ended
        cases ended
    | ok units =>
        rw [outcome] at ended
        cases ended
        exact .nil

end

theorem critical_event_not_stored :
    let device := "4b0a5e0e-9a3c-4c6e-8f43-0c5b8f2d7a11"
    let services : Services :=
      ⟨.ok, fun _ => "9d0f2c1e-5b7a-4e7f-b0a8-2f6d1c3e4a55", fun _ => "2026-01-01T00:00:00+00:00",
        fun _ => true, fun _ => true⟩
    let event : Value := .obj [("event_type", .str "usb_event"), ("severity", .str "critical"),
      ("title", .str "USB storage connected"), ("details", .obj [])]
    ¬ StoresAll services (.str device) Letters.ascii (fun _ => "") [event] ⟨[device], [], 0, [], []⟩ := by
  rintro device services event ⟨⟨rows, stored, each⟩, -⟩
  rw [processTelemetryBatch_store] at stored
  obtain rfl : rows = [] := List.self_eq_append_right.mp stored
  have asked : (asks Letters.ascii (fun _ => "") [event]).2.length = 1 := by decide +kernel
  rw [each.length_eq] at asked
  cases asked

end GuardianPi.Backend
