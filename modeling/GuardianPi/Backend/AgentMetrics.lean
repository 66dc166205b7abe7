import GuardianPi.Agent.TelemetrySender
import GuardianPi.Backend.AlertDecisions
import GuardianPi.EdgeAgent.Sender
import GuardianPi.Library.Decimal

namespace GuardianPi.Library.Python
open GuardianPi.Library

/-- A float of Go as `json.loads` reads it: a whole number below 10^21 is printed without a point. -/
def goNumber (q : Rat) : PyNum :=
  if q.den = 1 ∧ q.num.natAbs < 10 ^ 21 then .int q.num else .float (.finite q)

structure FloatReading (number : Literal → PyNum) where
  value : Rat
  pyText : Literal
  goText : Literal
  readsPy : number pyText = .float (.finite value)
  readsGo : number goText = goNumber value

structure CountReading (number : Literal → PyNum) where
  value : Int
  reads : number (Literal.ofInt value) = .int value

structure Readings (number : Literal → PyNum) where
  cpuPercent : FloatReading number
  ramPercent : FloatReading number
  diskPercent : FloatReading number
  uptimeSeconds : CountReading number
  activeConnections : CountReading number
  processCount : CountReading number

def CountReading.text {number : Literal → PyNum} (c : CountReading number) : Literal := Literal.ofInt c.value

end GuardianPi.Library.Python

namespace GuardianPi.Agent
open GuardianPi.Library GuardianPi.Library.Python

/-- What `_heartbeat_loop` queues. -/
def heartbeatCall {number : Literal → PyNum} (r : Readings number) (timestamp : String) : QueueCall where
  eventType := "heartbeat"
  severity := "info"
  details := [("cpu_percent", .num r.cpuPercent.pyText), ("ram_percent", .num r.ramPercent.pyText),
    ("disk_percent", .num r.diskPercent.pyText), ("uptime_seconds", .num r.uptimeSeconds.text),
    ("process_count", .num r.processCount.text), ("active_connections", .num r.activeConnections.text)]
  timestamp := timestamp

end GuardianPi.Agent

namespace GuardianPi.EdgeAgent
open GuardianPi.Library GuardianPi.Library.Python

def getSystemMetrics {number : Literal → PyNum} (r : Readings number) : List (String × GoValue) := [
  ("active_connections", .num (some r.activeConnections.text)), ("cpu_percent", .num (some r.cpuPercent.goText)),
  ("disk_percent", .num (some r.diskPercent.goText)), ("process_count", .num (some r.processCount.text)),
  ("ram_percent", .num (some r.ramPercent.goText)), ("uptime_seconds", .num (some r.uptimeSeconds.text))]

/-- What `RunTelemetry` emits at every tick. -/
def systemMetricsEvent {number : Literal → PyNum} (r : Readings number) (now : Int) : Event :=
  ⟨"system_metrics", "info", "System telemetry", some (getSystemMetrics r), formatRFC3339 now⟩

end GuardianPi.EdgeAgent

namespace GuardianPi.Backend
open GuardianPi.Library GuardianPi.Library.Python

def anomalyAlerts (requests : List AlertRequest) : List (String × Option Value) :=
  (requests.filter fun request => request.alertType.isStr "anomaly").map fun request =>
    (request.severity, (request.details.get? "anomaly").bind (Json.get? "anomaly_score"))

section
variable (letters : Letters) (repr : Value → String) {number : Literal → PyNum} (r : Readings number)

/-- Both events, as the server reads them, ask for the same anomaly alerts. -/
def ScoredAlike (timestamp : String) (now : Int) : Prop :=
  ∃ document, Json.traverse id (EdgeAgent.systemMetricsEvent r now).value = some document ∧
    anomalyAlerts (asks letters repr [Json.map number (Agent.heartbeatCall r timestamp).event.dict]).2 =
      anomalyAlerts (asks letters repr [Json.map number document]).2

def points : Int :=
  (if 95 < r.cpuPercent.value then 30 else if 80 < r.cpuPercent.value then 15 else 0) +
  (if 95 < r.ramPercent.value then 25 else 0) +
  (if 500 < r.activeConnections.value then 30 else if 200 < r.activeConnections.value then 15 else 0) +
  (if 500 < r.processCount.value then 10 else 0)

variable {letters repr r}

theorem gt_goNumber (q : Rat) (k : Int) : (goNumber q).gt k = decide ((k : Rat) < q) := by
  unfold goNumber
  split_ifs with whole
  · have same : (q.num : Rat) = q := Rat.coe_int_num_of_den_eq_one whole.1
    show decide (k < q.num) = _
    rw [decide_eq_decide]
    conv_rhs => rw [← same]
    exact Int.cast_lt.symm
  · rfl

theorem gt_int (n k : Int) : (PyNum.int n).gt k = decide (k < n) := rfl

theorem scorable_goNumber (least : Int) (q : Rat) : scorable least (.num (goNumber q)) = true := by
  unfold goNumber
  split_ifs with whole
  · have small : q.num.natAbs < 2 ^ 200 := whole.2.trans (by decide)
    simp [scorable, floatOfInt_isOk small]
  · rfl

def bandPoints (metric : PyNum) : List Band → Int
  | [] => 0
  | band :: bands => if metric.gt band.above then band.points else bandPoints metric bands

theorem finding_points {write : Value → Except PyError String} {metric : PyNum} {bands : List Band} {f : Finding}
    (found : finding write (.num metric) bands = .ok f) : f.1 = bandPoints metric bands := by
  induction bands with
  | nil =>
      obtain rfl := Except.ok.inj found
      rfl
  | cons band bands ih =>
      rw [finding] at found
      simp only [Value.gt, ok_bind] at found
      rw [bandPoints]
      split_ifs at found ⊢ with above
      · cases written : write (.num metric) with
        | error e =>
            rw [written] at found
            cases found
        | ok text =>
            rw [written] at found
            obtain rfl := Except.ok.inj found
            rfl
      · exact ih found

theorem anomalyScore_of_numbers {metrics : List (String × Value)} {cpu ram connections processes : PyNum} {a : Anomaly}
    (cpuRead : fieldOr metrics "cpu_percent" (.num (.int 0)) = .num cpu)
    (ramRead : fieldOr metrics "ram_percent" (.num (.int 0)) = .num ram)
    (connectionsRead : fieldOr metrics "active_connections" (.num (.int 0)) = .num connections)
    (processesRead : fieldOr metrics "process_count" (.num (.int 0)) = .num processes)
    (scored : calculateAnomalyScore repr (.obj metrics) = .ok a) : a.anomalyScore = min (
      (if cpu.gt 95 then 30 else if cpu.gt 80 then 15 else 0) + (if ram.gt 95 then 25 else 0) +
      (if connections.gt 500 then 30 else if connections.gt 200 then 15 else 0) +
      (if processes.gt 500 then 10 else 0)) 100 := by
  simp only [calculateAnomalyScore, get_obj, ok_bind, cpuRead, ramRead, connectionsRead, processesRead] at scored
  obtain ⟨c, cpuFound, scored⟩ := bind_eq_ok.mp scored
  obtain ⟨m, ramFound, scored⟩ := bind_eq_ok.mp scored
  obtain ⟨n, connectionsFound, scored⟩ := bind_eq_ok.mp scored
  obtain ⟨p, processesFound, scored⟩ := bind_eq_ok.mp scored
  obtain rfl := Except.ok.inj scored
  dsimp only
  rw [finding_points cpuFound, finding_points ramFound, finding_points connectionsFound, finding_points processesFound]
  rfl

theorem heartbeat_asks (timestamp : String) :
    (asks letters repr [Json.map number (Agent.heartbeatCall r timestamp).event.dict]).2 = [] := by
  simp only [asks_eq]
  rfl

def receivedMetrics (r : Readings number) : List (String × Value) := [
  ("active_connections", .num (.int r.activeConnections.value)), ("cpu_percent", .num (goNumber r.cpuPercent.value)),
  ("disk_percent", .num (goNumber r.diskPercent.value)), ("process_count", .num (.int r.processCount.value)),
  ("ram_percent", .num (goNumber r.ramPercent.value)), ("uptime_seconds", .num (.int r.uptimeSeconds.value))]

theorem systemMetrics_received (r : Readings number) (now : Int) : ∃ document,
    Json.traverse id (EdgeAgent.systemMetricsEvent r now).value = some document ∧
      readEvent (Json.map number document) =
        .ok ⟨.str "system_metrics", .str "info", .str "System telemetry", .obj (receivedMetrics r)⟩ := by
  refine ⟨_, rfl, ?_⟩
  unfold receivedMetrics
  rw [← r.activeConnections.reads, ← r.cpuPercent.readsGo, ← r.diskPercent.readsGo, ← r.processCount.reads,
    ← r.ramPercent.readsGo, ← r.uptimeSeconds.reads]
  rfl

theorem receivedMetrics_scored (repr : Value → String) (r : Readings number) :
    ∃ a, calculateAnomalyScore repr (.obj (receivedMetrics r)) = .ok a ∧ a.anomalyScore = min (points r) 100 := by
  have cpu : fieldOr (receivedMetrics r) "cpu_percent" (.num (.int 0)) = .num (goNumber r.cpuPercent.value) := rfl
  have ram : fieldOr (receivedMetrics r) "ram_percent" (.num (.int 0)) = .num (goNumber r.ramPercent.value) := rfl
  have connections : fieldOr (receivedMetrics r) "active_connections" (.num (.int 0)) =
      .num (.int r.activeConnections.value) := rfl
  have processes : fieldOr (receivedMetrics r) "process_count" (.num (.int 0)) =
      .num (.int r.processCount.value) := rfl
  have ok : (calculateAnomalyScore repr (.obj (receivedMetrics r))).isOk = true := by
    rw [calculateAnomalyScore_isOk, cpu, ram, connections, processes, scorable_goNumber, scorable_goNumber]
    rfl
  obtain ⟨a, scored⟩ := isOk_iff.mp ok
  refine ⟨a, scored, ?_⟩
  rw [anomalyScore_of_numbers cpu ram connections processes scored]
  simp only [gt_goNumber, gt_int, decide_eq_true_eq, points]
  norm_cast

theorem metrics_asks (letters : Letters) {event : Value} {title : Value} {metrics : List (String × Value)} {a : Anomaly}
    (read : readEvent event = .ok ⟨.str "system_metrics", .str "info", title, .obj metrics⟩)
    (scored : calculateAnomalyScore repr (.obj metrics) = .ok a) :
    anomalyAlerts (asks letters repr [event]).2 =
      if 30 < a.anomalyScore then [(a.riskLevel, (Json.get? "anomaly" (.obj (("anomaly", a.value) :: metrics))).bind
        (Json.get? "anomaly_score"))] else [] := by
  have metricsEvent : EventFields.isMetrics ⟨.str "system_metrics", .str "info", title, .obj metrics⟩ = true := rfl
  rw [asks_eq, batchRequests, eventRequests, read, ok_bind, if_pos metricsEvent, scored, ok_bind]
  split_ifs with high
  · rfl
  · rfl

end

theorem scored_alike_iff (letters : Letters) (repr : Value → String) {number : Literal → PyNum} (r : Readings number)
    (timestamp : String) (now : Int) : ScoredAlike letters repr r timestamp now ↔ points r ≤ 30 := by
  obtain ⟨document, sent, read⟩ := systemMetrics_received r now
  obtain ⟨a, scored, score⟩ := receivedMetrics_scored repr r
  have metrics := metrics_asks letters read scored
  constructor
  · rintro ⟨document', sent', same⟩
    obtain rfl := Option.some.inj (sent.symm.trans sent')
    by_contra high
    rw [heartbeat_asks, metrics, if_pos (by omega)] at same
    cases same
  · intro low
    refine ⟨document, sent, ?_⟩
    rw [heartbeat_asks, metrics, if_neg (by omega)]
    rfl

def sampleNumber (n : Literal) : PyNum :=
  if n.text = "97.5".toList then .float (.finite (195 / 2))
  else if n.text = "40.5".toList then .float (.finite (81 / 2))
  else .int (n.text.foldl (fun m c => 10 * m + (c.toNat - 48)) 0 : Nat)

def sampleFloat (q : Rat) (text : String) (written : isNumber text.toList = true)
    (reads : sampleNumber ⟨text.toList, written⟩ = .float (.finite q)) (fraction : q.den ≠ 1) :
    FloatReading sampleNumber where
  value := q
  pyText := ⟨text.toList, written⟩
  goText := ⟨text.toList, written⟩
  readsPy := reads
  readsGo := by rw [reads, goNumber, if_neg fun whole => fraction whole.1]

def exhausted : Readings sampleNumber where
  cpuPercent := sampleFloat (195 / 2) "97.5" (by decide +kernel) (by decide +kernel) (by decide +kernel)
  ramPercent := sampleFloat (195 / 2) "97.5" (by decide +kernel) (by decide +kernel) (by decide +kernel)
  diskPercent := sampleFloat (81 / 2) "40.5" (by decide +kernel) (by decide +kernel) (by decide +kernel)
  uptimeSeconds := ⟨86400, by decide +kernel⟩
  activeConnections := ⟨12, by decide +kernel⟩
  processCount := ⟨90, by decide +kernel⟩

theorem exhausted_scored_apart : ¬ ScoredAlike .ascii (fun _ => "") exhausted "2026-01-01T00:00:00+00:00" 0 := by
  rintro ⟨document, sent, same⟩
  obtain ⟨document', sent', read⟩ := systemMetrics_received exhausted 0
  obtain rfl := Option.some.inj (sent.symm.trans sent')
  obtain ⟨a, scored, score⟩ := receivedMetrics_scored (fun _ => "") exhausted
  have high : 30 < a.anomalyScore := by
    rw [score]
    decide +kernel
  rw [heartbeat_asks, metrics_asks .ascii read scored, if_pos high] at same
  cases same

end GuardianPi.Backend
