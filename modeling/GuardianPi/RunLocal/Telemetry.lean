import GuardianPi.Backend.Ingest

namespace GuardianPi.RunLocal
open GuardianPi.Library GuardianPi.Library.Python GuardianPi.Backend

structure LocalServer where
  number : Literal → PyNum
  commits : List (Orm.Fields Value) → List (Orm.Fields Value) → Bool

def localAlert (deviceId event : Value) : Except PyError (Option (Orm.Fields Value)) := do
  let sev ← Value.get event "severity" (.str "info")
  if severe sev then
    let title ← Value.get event "title" (.str "Agent event")
    let category ← Value.get event "event_type" (.str "agent")
    return some [("device_id", cell deviceId), ("severity", cell sev), ("title", cell title),
      ("category", cell category), ("source", some (.str "agent"))]
  else return none

def localAlerts (body : Value) : Except PyError (Nat × List (Orm.Fields Value)) := do
  let deviceId ← Value.get body "device_id" .null
  let data ← Value.get body "data" (.obj [])
  let events ← Value.get data "events" (.arr [])
  let items ← events.iterate
  let alerts ← items.mapM (localAlert deviceId)
  return (items.length, alerts.reduceOption)

def ingestedContent (events created : Nat) : Value :=
  .obj [("status", .str "ingested"), ("events", .num (.int events)),
    ("alerts_created", .num (.int created))]

/-- The answer's status and content, and the alerts of the server. A handler without a status code of
its own answers 200. -/
def ingestTelemetry (server : LocalServer) (body : List UInt8) (alerts : List (Orm.Fields Value)) :
    (Nat × Option Value) × List (Orm.Fields Value) :=
  match (Json.loadsBytes body).map (Json.map server.number) with
  | none => ((500, none), alerts)
  | some value =>
      match localAlerts value with
      | .error _ => ((500, none), alerts)
      | .ok (events, pending) =>
          if pending.isEmpty || server.commits alerts pending then
            ((200, some (ingestedContent events pending.length)), alerts ++ pending)
          else ((500, none), alerts)

def localRow (deviceId : Value) (fields : List (String × Value)) : Orm.Fields Value :=
  [("device_id", cell deviceId), ("severity", cell ((Json.lookup "severity" fields).getD (.str "info"))),
    ("title", cell ((Json.lookup "title" fields).getD (.str "Agent event"))),
    ("category", cell ((Json.lookup "event_type" fields).getD (.str "agent"))),
    ("source", some (.str "agent"))]

theorem severe_getD_info (fields : List (String × Value)) :
    severe ((Json.lookup "severity" fields).getD (.str "info")) = isSevere fields := by
  rw [isSevere]
  cases Json.lookup "severity" fields <;> rfl

theorem localAlert_obj (deviceId : Value) (fields : List (String × Value)) :
    localAlert deviceId (.obj fields) =
      .ok (if isSevere fields then some (localRow deviceId fields) else none) := by
  unfold localAlert
  simp only [Value.get, ok_bind, severe_getD_info]
  split_ifs <;> rfl

theorem localAlerts_obj (deviceId : Value) {body : List (String × Value)}
    (device : (Json.lookup "device_id" body).getD .null = deviceId)
    (events : List (List (String × Value)))
    (data : (Json.lookup "data" body).getD (.obj []) = eventsData events) :
    localAlerts (.obj body) =
      .ok (events.length, (events.filter isSevere).map (localRow deviceId)) := by
  have items : Value.get (eventsData events) "events" (.arr []) = .ok (.arr (events.map .obj)) := rfl
  have each : (events.map Json.obj).mapM (localAlert deviceId) =
      .ok (events.map fun fields => if isSevere fields then some (localRow deviceId fields) else none) := by
    rw [List.mapM_map]
    apply mapM_eq_ok_map
    intro fields _
    exact localAlert_obj deviceId fields
  have first : Value.get (.obj body) "device_id" .null = .ok deviceId := congrArg Except.ok device
  have second : Value.get (.obj body) "data" (.obj []) = .ok (eventsData events) :=
    congrArg Except.ok data
  simp only [localAlerts, first, second, items, ok_bind, Value.iterate, each, List.length_map,
    reduceOption_map_ite, pure_eq_ok]

theorem localAlerts_without_data {body : List (String × Value)}
    (absent : Json.lookup "data" body = none) : localAlerts (.obj body) = .ok (0, []) := by
  unfold localAlerts
  simp only [Value.get, ok_bind, absent]
  rfl

theorem ingestTelemetry_fine {server : LocalServer} {body : List UInt8}
    {alerts pending : List (Orm.Fields Value)} {value : Value} {events : Nat}
    (read : (Json.loadsBytes body).map (Json.map server.number) = some value)
    (listed : localAlerts value = .ok (events, pending))
    (fine : (ingestTelemetry server body alerts).1.1 < 400) :
    ingestTelemetry server body alerts =
      ((200, some (ingestedContent events pending.length)), alerts ++ pending) := by
  simp only [ingestTelemetry, read, listed] at fine ⊢
  split_ifs at fine ⊢
  · rfl
  · exact absurd fine (Nat.not_lt_of_le (show 400 ≤ 500 by decide))

end GuardianPi.RunLocal
