import GuardianPi.Backend.AlertDecisions
import GuardianPi.Library.Ladder
import Mathlib.Algebra.Order.BigOperators.Group.List
import Mathlib.Algebra.Order.Monoid.Prod
import Mathlib.Data.Rat.Cast.Order

namespace GuardianPi.Backend
open GuardianPi.Library GuardianPi.Library.Python

inductive Metric where
  | cpuPercent
  | ramPercent
  | activeConnections
  | processCount

def Metric.key : Metric → String
  | .cpuPercent => "cpu_percent"
  | .ramPercent => "ram_percent"
  | .activeConnections => "active_connections"
  | .processCount => "process_count"

def exactly : PyNum → Option Rat
  | .int n => some n
  | .float (.finite q) => some q
  | .float _ => none

def readMetric (fields : List (String × Value)) (metric : Metric) : Value :=
  fieldOr fields metric.key (.num (.int 0))

structure Metrics where
  fields : List (String × Value)
  value : Metric → Rat
  reads : ∀ metric, ∃ n, readMetric fields metric = .num n ∧ exactly n = some (value metric)
  written : ∀ metric ∈ [Metric.cpuPercent, .ramPercent],
    (Value.formatOneDecimal (readMetric fields metric)).isOk = true

instance : Preorder Metrics := Preorder.lift Metrics.value

abbrev Weight := Int × Nat

def Metric.steps : Metric → List (Rat × Weight)
  | .cpuPercent => [(95, 30, 1), (80, 15, 1)]
  | .ramPercent => [(95, 25, 1)]
  | .activeConnections => [(500, 30, 1), (200, 15, 1)]
  | .processCount => [(500, 10, 1)]

def weigh (value : Metric → Rat) (metric : Metric) : Weight := climb (0, 0) metric.steps (value metric)

def total (value : Metric → Rat) : Weight :=
  weigh value .cpuPercent + weigh value .ramPercent + weigh value .activeConnections + weigh value .processCount

theorem weigh_mono {v w : Metric → Rat} (le : v ≤ w) (metric : Metric) : weigh v metric ≤ weigh w metric := by
  have descending : (metric.steps.map Prod.snd ++ [(0, 0)]).Pairwise (· ≥ ·) := by
    cases metric <;> decide
  exact climb_monotone descending (le metric)

theorem total_mono {v w : Metric → Rat} (le : v ≤ w) : total v ≤ total w := by
  have each := weigh_mono le
  exact add_le_add (add_le_add (add_le_add (each _) (each _)) (each _)) (each _)

theorem weigh_points (value : Metric → Rat) (metric : Metric) : 0 ≤ (weigh value metric).1 ∧
    (weigh value metric).1 ≤ match metric with
      | .cpuPercent | .activeConnections => 30
      | .ramPercent => 25
      | .processCount => 10 := by
  have step := climb_mem (0, 0) metric.steps (value metric)
  revert step
  unfold weigh
  generalize climb (0, 0) metric.steps (value metric) = weight
  cases metric <;> revert weight <;> decide

theorem total_points (value : Metric → Rat) : 0 ≤ (total value).1 ∧ (total value).1 ≤ 95 := by
  obtain ⟨cpu, cpu_le⟩ := weigh_points value .cpuPercent
  obtain ⟨ram, ram_le⟩ := weigh_points value .ramPercent
  obtain ⟨connections, connections_le⟩ := weigh_points value .activeConnections
  obtain ⟨processes, processes_le⟩ := weigh_points value .processCount
  dsimp only at cpu_le ram_le connections_le processes_le
  simp only [total, Prod.fst_add]
  omega

theorem riskLevel_mono {s t : Int} (le : s ≤ t) : severityRank (riskLevel s) ≤ severityRank (riskLevel t) :=
  severityRank_mono 60 40 20 le

theorem gt_exactly {n : PyNum} {q : Rat} (exact : exactly n = some q) (k : Int) :
    n.gt k = decide ((k : Rat) < q) := by
  cases n with
  | int n =>
      obtain rfl := Option.some.inj exact
      change decide (k < n) = _
      rw [decide_eq_decide]
      exact Int.cast_lt.symm
  | float x =>
      cases x with
      | finite r =>
          obtain rfl := Option.some.inj exact
          rfl
      | _ => cases exact

def Finding.weight (f : Finding) : Weight := (f.1, f.2.length)

theorem finding_weight {write : Value → Except PyError String} {n : PyNum} {q : Rat} (exact : exactly n = some q)
    {bands : List Band} {f : Finding} (found : finding write (.num n) bands = .ok f) :
    f.weight = climb (0, 0) (bands.map fun band => ((band.above : Rat), band.points, 1)) q := by
  induction bands with
  | nil =>
      obtain rfl := Except.ok.inj found
      rfl
  | cons band bands ih =>
      rw [finding] at found
      simp only [Value.gt, ok_bind, gt_exactly exact, decide_eq_true_eq] at found
      rw [List.map_cons, climb]
      split_ifs at found ⊢ with above
      · obtain ⟨text, -, made⟩ := bind_eq_ok.mp found
        obtain rfl := Except.ok.inj made
        rfl
      · exact ih found

section
variable (repr : Value → String)

def findings (fields : List (String × Value)) : Except PyError (List Finding) := do
  let c ← cpuFinding (readMetric fields .cpuPercent)
  let r ← ramFinding (readMetric fields .ramPercent)
  let n ← connectionsFinding repr (readMetric fields .activeConnections)
  let p ← processesFinding repr (readMetric fields .processCount)
  return [c, r, n, p]

theorem calculateAnomalyScore_eq (fields : List (String × Value)) :
    calculateAnomalyScore repr (.obj fields) = (findings repr fields).map fun found =>
      let score := (found.map Prod.fst).sum
      ⟨min score 100, riskLevel score, found.flatMap Prod.snd⟩ := by
  simp only [calculateAnomalyScore, findings, get_obj, ok_bind, readMetric, Metric.key]
  cases cpuFinding (fieldOr fields "cpu_percent" (.num (.int 0))) with
  | error e => rfl
  | ok c =>
      cases ramFinding (fieldOr fields "ram_percent" (.num (.int 0))) with
      | error e => rfl
      | ok r =>
          cases connectionsFinding repr (fieldOr fields "active_connections" (.num (.int 0))) with
          | error e => rfl
          | ok n =>
              cases processesFinding repr (fieldOr fields "process_count" (.num (.int 0))) with
              | error e => rfl
              | ok p => simp [Except.map, pure, Except.pure, add_assoc]

theorem finding_of_metric (m : Metrics) (metric : Metric) {write : Value → Except PyError String}
    (writes : (write (readMetric m.fields metric)).isOk = true) {bands : List Band}
    (ladder : bands.map (fun band => ((band.above : Rat), band.points, 1)) = metric.steps) :
    ∃ f, finding write (readMetric m.fields metric) bands = .ok f ∧ f.weight = weigh m.value metric := by
  obtain ⟨n, read, exact⟩ := m.reads metric
  rw [read] at writes ⊢
  have numeric : comparable (.num n) = true := rfl
  have ok := (finding_isOk_of_comparable write numeric bands).mpr fun _ _ _ => writes
  obtain ⟨f, found⟩ := isOk_iff.mp ok
  refine ⟨f, found, ?_⟩
  rw [finding_weight exact found, ladder]
  rfl

theorem findings_weight (m : Metrics) : ∃ found, findings repr m.fields = .ok found ∧
    (found.map Finding.weight).sum = total m.value := by
  have cpu : ∃ f, cpuFinding (readMetric m.fields .cpuPercent) = .ok f ∧ f.weight = weigh m.value .cpuPercent :=
    finding_of_metric m .cpuPercent (m.written _ (by simp)) rfl
  have ram : ∃ f, ramFinding (readMetric m.fields .ramPercent) = .ok f ∧ f.weight = weigh m.value .ramPercent :=
    finding_of_metric m .ramPercent (m.written _ (by simp)) rfl
  have connections : ∃ f, connectionsFinding repr (readMetric m.fields .activeConnections) = .ok f ∧
      f.weight = weigh m.value .activeConnections := finding_of_metric m .activeConnections rfl rfl
  have processes : ∃ f, processesFinding repr (readMetric m.fields .processCount) = .ok f ∧
      f.weight = weigh m.value .processCount := finding_of_metric m .processCount rfl rfl
  obtain ⟨c, cpu, c_weight⟩ := cpu
  obtain ⟨r, ram, r_weight⟩ := ram
  obtain ⟨n, connections, n_weight⟩ := connections
  obtain ⟨p, processes, p_weight⟩ := processes
  refine ⟨[c, r, n, p], ?_, ?_⟩
  · simp only [findings, cpu, ram, connections, processes, ok_bind, pure, Except.pure]
  · simp [total, c_weight, r_weight, n_weight, p_weight, add_assoc]

theorem sum_weight (found : List Finding) :
    (found.map Finding.weight).sum = ((found.map Prod.fst).sum, (found.flatMap Prod.snd).length) := by
  induction found with
  | nil => rfl
  | cons f found ih => simp [ih, Finding.weight]

/-- The score is the sum of the points, which the cap never cuts. -/
theorem scored_total (m : Metrics) : ∃ found a, findings repr m.fields = .ok found ∧
    calculateAnomalyScore repr (.obj m.fields) = .ok a ∧ a.anomalyScore = (found.map Prod.fst).sum ∧
    a.anomalyScore = (total m.value).1 ∧ a.riskLevel = riskLevel (total m.value).1 ∧
    a.reasons.length = (total m.value).2 := by
  obtain ⟨found, read, weights⟩ := findings_weight repr m
  rw [sum_weight] at weights
  obtain ⟨points, reasons⟩ := Prod.ext_iff.mp weights
  have bound := (total_points m.value).2
  refine ⟨found, _, read, by rw [calculateAnomalyScore_eq, read]; rfl, ?_⟩
  dsimp only at points reasons ⊢
  rw [points]
  exact ⟨by omega, by omega, rfl, reasons⟩

end

section
variable (letters : Letters) (repr : Value → String)

def CarriesMetrics (event : Value) (m : Metrics) : Prop :=
  ∃ f, readEvent event = .ok f ∧ f.isMetrics = true ∧ f.details = .obj m.fields

def AsksAnomaly (event : Value) (severity : String) : Prop :=
  ∃ request ∈ (asks letters repr [event]).2, request.alertType = .str "anomaly" ∧ request.severity = severity

theorem asksAnomaly_iff {event : Value} {m : Metrics} (carries : CarriesMetrics event m) {a : Anomaly}
    (scored : calculateAnomalyScore repr (.obj m.fields) = .ok a) (severity : String) :
    AsksAnomaly letters repr event severity ↔ 30 < a.anomalyScore ∧ a.riskLevel = severity := by
  obtain ⟨f, read, metrics, details⟩ := carries
  have made : ∃ request, anomalyRequest a (.obj m.fields) = .ok request ∧ request.alertType = .str "anomaly" ∧
      request.severity = a.riskLevel := ⟨_, rfl, rfl, rfl⟩
  obtain ⟨request, made, type, risk⟩ := made
  rw [AsksAnomaly, asks_eq, batchRequests, eventRequests, read, ok_bind, if_pos metrics, details, scored, ok_bind,
    made, ok_bind]
  by_cases high : 30 < a.anomalyScore
  · simp [high, batchRequests, pure, Except.pure, type, risk]
  · simp [high, batchRequests, pure, Except.pure]

end

theorem anomaly_monotone (letters : Letters) (repr : Value → String) {m m' : Metrics} (le : m ≤ m') :
    ∃ found a a', findings repr m.fields = .ok found ∧ calculateAnomalyScore repr (.obj m.fields) = .ok a ∧
      calculateAnomalyScore repr (.obj m'.fields) = .ok a' ∧
      a.anomalyScore ≤ a'.anomalyScore ∧ severityRank a.riskLevel ≤ severityRank a'.riskLevel ∧
      a.reasons.length ≤ a'.reasons.length ∧
      0 ≤ a.anomalyScore ∧ a.anomalyScore ≤ 100 ∧ a.anomalyScore = (found.map Prod.fst).sum ∧
      ∀ event event', CarriesMetrics event m → CarriesMetrics event' m' →
        ∀ severity, AsksAnomaly letters repr event severity →
          ∃ severity', AsksAnomaly letters repr event' severity' ∧ severityRank severity ≤ severityRank severity' := by
  obtain ⟨found, a, read, scored, uncut, points, risk, reasons⟩ := scored_total repr m
  obtain ⟨-, a', -, scored', -, points', risk', reasons'⟩ := scored_total repr m'
  have totals : total m.value ≤ total m'.value := total_mono le
  obtain ⟨least, most⟩ := total_points m.value
  have score_le : a.anomalyScore ≤ a'.anomalyScore := by
    rw [points, points']
    exact totals.1
  have risk_le : severityRank a.riskLevel ≤ severityRank a'.riskLevel := by
    rw [risk, risk']
    exact riskLevel_mono totals.1
  have reasons_le : a.reasons.length ≤ a'.reasons.length := by
    rw [reasons, reasons']
    exact totals.2
  refine ⟨found, a, a', read, scored, scored', score_le, risk_le, reasons_le, by omega, by omega, uncut, ?_⟩
  intro event event' carries carries' severity asked
  obtain ⟨high, rfl⟩ := (asksAnomaly_iff letters repr carries scored severity).mp asked
  exact ⟨a'.riskLevel, (asksAnomaly_iff letters repr carries' scored' _).mpr ⟨high.trans_le score_le, rfl⟩, risk_le⟩

def Metrics.missing : Metrics where
  fields := []
  value _ := 0
  reads metric := ⟨.int 0, by cases metric <;> rfl, rfl⟩
  written := by decide +kernel

def Metrics.busy : Metrics where
  fields := [("cpu_percent", .num (.float (.finite (195 / 2)))), ("active_connections", .num (.int 600))]
  value metric := match metric with
    | .cpuPercent => 195 / 2
    | .activeConnections => 600
    | .ramPercent | .processCount => 0
  reads metric := by cases metric <;> exact ⟨_, rfl, rfl⟩
  written := by decide +kernel

theorem anomaly_monotone_busy :
    let repr : Value → String := fun _ => ""
    ∃ a a', calculateAnomalyScore repr (.obj []) = .ok a ∧
      calculateAnomalyScore repr (.obj Metrics.busy.fields) = .ok a' ∧
      a.anomalyScore ≤ a'.anomalyScore ∧ a.reasons.length ≤ a'.reasons.length := by
  intro repr
  have le : Metrics.missing ≤ Metrics.busy := by
    intro metric
    cases metric <;> decide +kernel
  obtain ⟨found, a, a', -, scored, scored', score, -, reasons, -⟩ := anomaly_monotone .ascii repr le
  exact ⟨a, a', scored, scored', score, reasons⟩

end GuardianPi.Backend
