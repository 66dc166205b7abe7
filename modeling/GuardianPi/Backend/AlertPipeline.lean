import GuardianPi.Backend.Detection

namespace GuardianPi.Backend
open GuardianPi.Library GuardianPi.Library.Python

structure AlertRequest where
  title : Value
  description : String
  severity : String
  alertType : Value
  details : Value

structure EventFields where
  eventType : Value
  severity : Value
  title : Value
  details : Value

def readEvent (event : Value) : Except PyError EventFields := do
  let eventType ← event.get "event_type" (.str "")
  let severity ← event.get "severity" (.str "info")
  let title ← event.get "title" (.str "")
  let details ← event.get "details" (.obj [])
  return ⟨eventType, severity, title, details⟩

namespace EventFields

def isMetrics (f : EventFields) : Bool := f.eventType.isStr "system_metrics" && f.severity.isStr "info"

def isProcess (f : EventFields) : Bool := f.eventType.isStr "process_alert" || f.eventType.isStr "detection"

end EventFields

/-- `{**first, **details}` for a literal `first`. -/
def mergeDetails (first : List (String × Value)) (details : Value) : Except PyError Value :=
  match details with
  | .obj fields => .ok (.obj (first ++ fields))
  | _ => .error .typeError

def processName (details : Value) : Except PyError Value := do
  let name ← details.get "name" (.str "")
  details.get "process_name" name

def anomalyRequest (anomaly : Anomaly) (details : Value) : Except PyError AlertRequest := do
  let details ← mergeDetails [("anomaly", anomaly.value)] details
  return {
    title := .str s!"Anomaly detected: score {anomaly.anomalyScore}"
    description := "; ".intercalate anomaly.reasons
    severity := anomaly.riskLevel
    alertType := .str "anomaly"
    details }

def matchRequest (name : String) (details : Value) (m : RuleMatch) : Except PyError AlertRequest := do
  let details ← mergeDetails [("rule_id", .str m.ruleId), ("mitre_tactic", .str m.mitreTactic),
    ("mitre_technique", .str m.mitreTechnique)] details
  return {
    title := .str s!"{m.ruleName}: {name}"
    description := m.description
    severity := m.severity
    alertType := .str m.category
    details }

def severityOf (severity : Value) : Option String :=
  match severity with
  | .str s => if s ∈ ["critical", "high", "medium"] then some s else none
  | _ => none

section
variable (letters : Letters) (repr : Value → String)

def eventRequest (f : EventFields) (severity : String) : AlertRequest where
  title := f.title
  description := s!"{f.eventType.text repr}: {f.title.text repr}"
  severity := severity
  alertType := f.eventType
  details := f.details

def processMatches (f : EventFields) : Except PyError (String × List RuleMatch) :=
  if f.isProcess then do
    let name ← processName f.details
    let cmdline ← f.details.get "cmdline" (.str "")
    let found ← matchProcess letters name cmdline
    return (name.text repr, found)
  else return ("", [])

section
variable {σ A : Type} (createAlert : AlertRequest → StateM σ (Option A))

def createForMatches (name : String) (details : Value) :
    List RuleMatch → ExceptT PyError (StateM σ) (List A)
  | [] => return []
  | m :: rest => do
      let request ← matchRequest name details m
      let alert ← createAlert request
      let later ← createForMatches name details rest
      return alert.toList ++ later

def processEvent (event : Value) : ExceptT PyError (StateM σ) (List A) := do
  let f ← readEvent event
  if f.isMetrics then
    let anomaly ← calculateAnomalyScore repr f.details
    if 30 < anomaly.anomalyScore then
      let request ← anomalyRequest anomaly f.details
      let alert ← createAlert request
      return alert.toList
    else return []
  else
    let found ← processMatches letters repr f
    if found.2.isEmpty then
      match severityOf f.severity with
      | some severity =>
          let alert ← createAlert (eventRequest repr f severity)
          return alert.toList
      | none => return []
    else createForMatches createAlert found.1 f.details found.2

def processTelemetryBatch : List Value → ExceptT PyError (StateM σ) (List A)
  | [] => return []
  | event :: events => do
      let alerts ← processEvent letters repr createAlert event
      let later ← processTelemetryBatch events
      return alerts ++ later

def telemetryBatch (message : Value) : Except PyError (Value × List Value) := do
  let deviceId ← message.get "device_id" (.str "")
  let data ← message.get "data" (.obj [])
  let events ← data.get "events" (.arr [])
  if events.truthy then
    let events ← events.iterate
    return (deviceId, events)
  else return (deviceId, [])

def handleTelemetry (createAlert : Value → AlertRequest → StateM σ (Option A)) (message : Value) :
    ExceptT PyError (StateM σ) Unit := do
  let batch ← telemetryBatch message
  let _ ← processTelemetryBatch letters repr (createAlert batch.1) batch.2

end

end

end GuardianPi.Backend
