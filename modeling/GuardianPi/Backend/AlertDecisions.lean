import GuardianPi.Backend.AlertPipeline

namespace GuardianPi.Backend
open GuardianPi.Library GuardianPi.Library.Python

section
variable (letters : Letters) (repr : Value → String)

def eventRequests (event : Value) : Except PyError (List AlertRequest) := do
  let f ← readEvent event
  if f.isMetrics then
    let anomaly ← calculateAnomalyScore repr f.details
    if 30 < anomaly.anomalyScore then
      let request ← anomalyRequest anomaly f.details
      return [request]
    else return []
  else
    let found ← processMatches letters repr f
    if found.2.isEmpty then return (severityOf f.severity).toList.map (eventRequest repr f)
    else found.2.mapM (matchRequest found.1 f.details)

def batchRequests : List Value → Except PyError Unit × List AlertRequest
  | [] => (.ok (), [])
  | event :: events =>
      match eventRequests letters repr event with
      | .error e => (.error e, [])
      | .ok requests =>
          let later := batchRequests events
          (later.1, requests ++ later.2)

variable {σ A : Type} (createAlert : AlertRequest → StateM σ (Option A))

def createAll : List AlertRequest → StateM σ (List A)
  | [] => return []
  | request :: requests => do
      let alert ← createAlert request
      let later ← createAll requests
      return alert.toList ++ later

theorem createAll_append (xs ys : List AlertRequest) : createAll createAlert (xs ++ ys) = (do
    let first ← createAll createAlert xs
    let later ← createAll createAlert ys
    return first ++ later) := by
  induction xs with
  | nil => simp [createAll]
  | cons x xs ih => simp [createAll, ih, ← List.append_assoc]

def matchAlert (name : String) (fields : List (String × Value)) (m : RuleMatch) : AlertRequest where
  title := .str s!"{m.ruleName}: {name}"
  description := m.description
  severity := m.severity
  alertType := .str m.category
  details := .obj ([("rule_id", .str m.ruleId), ("mitre_tactic", .str m.mitreTactic),
    ("mitre_technique", .str m.mitreTechnique)] ++ fields)

theorem matchRequest_obj (name : String) (fields : List (String × Value)) (m : RuleMatch) :
    matchRequest name (.obj fields) m = .ok (matchAlert name fields m) := rfl

theorem mapM_matchRequest (name : String) (fields : List (String × Value)) (found : List RuleMatch) :
    found.mapM (matchRequest name (.obj fields)) = .ok (found.map (matchAlert name fields)) :=
  mapM_eq_ok_map fun m _ => matchRequest_obj name fields m

theorem createForMatches_run (name : String) (fields : List (String × Value))
    (found : List RuleMatch) : (createForMatches createAlert name (.obj fields) found).run =
      .ok <$> createAll createAlert (found.map (matchAlert name fields)) := by
  induction found with
  | nil => rfl
  | cons m found ih =>
      simp [createForMatches, createAll, matchRequest_obj, ih, ExceptT.run_bind, Except.map]

theorem details_of_matches {f : EventFields} {name : String} {found : List RuleMatch}
    (h : processMatches letters repr f = .ok (name, found)) (some : found ≠ []) :
    ∃ fields, f.details = .obj fields := by
  unfold processMatches at h
  split_ifs at h
  · cases details : f.details with
    | obj fields => exact ⟨fields, rfl⟩
    | _ => simp [details, processName, Value.get] at h
  · cases h
    exact absurd rfl some

theorem processEvent_run (event : Value) :
    (processEvent letters repr createAlert event).run =
      match eventRequests letters repr event with
      | .ok requests => .ok <$> createAll createAlert requests
      | .error e => pure (.error e) := by
  unfold processEvent eventRequests
  cases readEvent event with
  | error e => simp
  | ok f =>
      by_cases metrics : f.isMetrics
      · cases scored : calculateAnomalyScore repr f.details with
        | error e => simp [metrics, scored]
        | ok anomaly =>
            by_cases high : 30 < anomaly.anomalyScore
            · cases asked : anomalyRequest anomaly f.details with
              | error e => simp [metrics, scored, high, asked]
              | ok request => simp [metrics, scored, high, asked, createAll, Except.map]
            · simp [metrics, scored, high, createAll]
      · cases found : processMatches letters repr f with
        | error e => simp [metrics, found]
        | ok found' =>
            obtain ⟨name, ms⟩ := found'
            by_cases empty : ms = []
            · cases severe : severityOf f.severity <;>
                simp [metrics, found, empty, severe, createAll, Except.map]
            · obtain ⟨fields, details⟩ := details_of_matches letters repr found empty
              simp [metrics, found, empty, details, mapM_matchRequest, createForMatches_run]

theorem processTelemetryBatch_run (events : List Value) :
    (processTelemetryBatch letters repr createAlert events).run =
      (fun alerts => (batchRequests letters repr events).1.map fun _ => alerts) <$>
        createAll createAlert (batchRequests letters repr events).2 := by
  induction events with
  | nil => rfl
  | cons event events ih =>
      have here := processEvent_run letters repr createAlert event
      rw [processTelemetryBatch, batchRequests, ExceptT.run_bind, here]
      cases eventRequests letters repr event with
      | error e => simp [createAll, Except.map]
      | ok requests =>
          simp [ih, createAll_append]
          cases (batchRequests letters repr events).1 <;> simp [Except.map]

/-! ## Recording what a batch asks for -/

def recorder (request : AlertRequest) : StateM (List AlertRequest) (Option Unit) :=
  fun log => (none, log ++ [request])

theorem createAll_recorder (requests log : List AlertRequest) :
    createAll recorder requests log = ([], log ++ requests) := by
  induction requests generalizing log with
  | nil =>
      rw [List.append_nil]
      rfl
  | cons request requests ih =>
      have later : createAll recorder requests (log ++ [request]) =
          ([], log ++ request :: requests) := by
        rw [ih, List.append_assoc, List.singleton_append]
      simp only [createAll, recorder, bind, StateT.bind, later]
      rfl

def asks (events : List Value) : Except PyError (List Unit) × List AlertRequest :=
  (processTelemetryBatch letters repr recorder events).run []

theorem asks_eq (events : List Value) : asks letters repr events =
    ((batchRequests letters repr events).1.map fun _ => [], (batchRequests letters repr events).2) := by
  rw [asks, processTelemetryBatch_run]
  simp [Functor.map, StateT.map, createAll_recorder, bind, pure]

end

/-! ## Events that can be processed -/

def scorable (least : Int) (metric : Value) : Bool :=
  match metric with
  | .num (.int n) => n ≤ least || (floatOfInt n).isOk
  | .num (.float _) | .bool _ => true
  | _ => false

def comparable (metric : Value) : Bool :=
  match metric with
  | .num _ | .bool _ => true
  | _ => false

def isString (v : Value) : Bool :=
  match v with
  | .str _ => true
  | _ => false

def fieldOr (fields : List (String × Value)) (key : String) (default : Value) : Value :=
  (Json.lookup key fields).getD default

def EventFields.processable (f : EventFields) : Bool :=
  if f.isMetrics then
    match f.details with
    | .obj metrics =>
        scorable 80 (fieldOr metrics "cpu_percent" (.num (.int 0))) &&
          (scorable 95 (fieldOr metrics "ram_percent" (.num (.int 0))) &&
            (comparable (fieldOr metrics "active_connections" (.num (.int 0))) &&
              comparable (fieldOr metrics "process_count" (.num (.int 0)))))
    | _ => false
  else if f.isProcess then
    match f.details with
    | .obj fields =>
        isString (fieldOr fields "process_name" (fieldOr fields "name" (.str ""))) &&
          isString (fieldOr fields "cmdline" (.str ""))
    | _ => false
  else true

def processable (event : Value) : Bool :=
  match readEvent event with
  | .ok f => f.processable
  | .error _ => false

section
variable (letters : Letters) (repr : Value → String)

theorem isOk_iff {α : Type} {x : Except PyError α} : x.isOk = true ↔ ∃ a, x = .ok a := by
  cases x <;> simp [Except.isOk, Except.toBool]

theorem gt_of_comparable {metric : Value} (h : comparable metric = true) (k : Int) :
    ∃ b, metric.gt k = .ok b := by
  cases metric with
  | num n => exact ⟨_, rfl⟩
  | bool b => exact ⟨_, rfl⟩
  | _ => cases h

theorem gt_of_not_comparable {metric : Value} (h : comparable metric = false) (k : Int) :
    metric.gt k = .error .typeError := by
  cases metric with
  | num n => cases h
  | bool b => cases h
  | _ => rfl

theorem finding_isOk_of_comparable (write : Value → Except PyError String) {metric : Value}
    (h : comparable metric = true) (bands : List Band) : (finding write metric bands).isOk = true ↔
      ∀ band ∈ bands, metric.gt band.above = .ok true → (write metric).isOk = true := by
  induction bands with
  | nil => simp [finding, isOk_iff]
  | cons band bands ih =>
      obtain ⟨above, compared⟩ := gt_of_comparable h band.above
      cases above with
      | false => simp [finding, compared, ih]
      | true =>
          have written : (finding write metric (band :: bands)).isOk = true ↔
              (write metric).isOk = true := by
            cases w : write metric <;> simp [finding, compared, w, isOk_iff]
          rw [written, List.forall_mem_cons]
          constructor
          · intro ok
            exact ⟨fun _ => ok, fun _ _ _ => ok⟩
          · intro all
            exact all.1 compared

theorem finding_isOk (write : Value → Except PyError String) (metric : Value) (band : Band)
    (bands : List Band) : (finding write metric (band :: bands)).isOk = true ↔
      comparable metric = true ∧
        ∀ b ∈ band :: bands, metric.gt b.above = .ok true → (write metric).isOk = true := by
  cases h : comparable metric with
  | true => simpa using finding_isOk_of_comparable write h (band :: bands)
  | false => simp [finding, gt_of_not_comparable h, isOk_iff]

theorem writeText_finding_isOk (metric : Value) (band : Band) (bands : List Band) :
    (finding (writeText repr) metric (band :: bands)).isOk = comparable metric := by
  rw [Bool.eq_iff_iff, finding_isOk]
  constructor
  · intro h
    exact h.1
  · intro h
    exact ⟨h, fun _ _ _ => rfl⟩

theorem formatOneDecimal_isOk {metric : Value} (h : ∀ n, metric ≠ .num (.int n))
    (numeric : comparable metric = true) : (Value.formatOneDecimal metric).isOk = true := by
  cases metric with
  | num n =>
      cases n with
      | int n => exact absurd rfl (h n)
      | float x => cases x <;> rfl
  | bool b => rfl
  | _ => cases numeric

theorem formatOneDecimal_finding_isOk (metric : Value) (band : Band) (bands : List Band)
    {least : Int} (attained : ∃ b ∈ band :: bands, b.above = least)
    (lower : ∀ b ∈ band :: bands, least ≤ b.above) :
    (finding Value.formatOneDecimal metric (band :: bands)).isOk = scorable least metric := by
  rw [Bool.eq_iff_iff, finding_isOk]
  cases metric with
  | num n =>
      cases n with
      | int n =>
          obtain ⟨b, member, rfl⟩ := attained
          have written : (Value.formatOneDecimal (.num (.int n))).isOk = (floatOfInt n).isOk := by
            cases h : floatOfInt n <;> simp [Value.formatOneDecimal, PyNum.formatOneDecimal, h] <;> rfl
          simp only [written, comparable, scorable, Value.gt, PyNum.gt, true_and, Bool.or_eq_true,
            decide_eq_true_eq, Except.ok.injEq]
          constructor
          · intro h
            by_cases above : n ≤ b.above
            · exact Or.inl above
            · exact Or.inr (h b member (not_le.mp above))
          · rintro (below | ok) c hc above
            · exact absurd above (not_lt.mpr (below.trans (lower c hc)))
            · exact ok
      | float x =>
          have ok := @formatOneDecimal_isOk (.num (.float x)) (by simp) rfl
          exact ⟨fun _ => rfl, fun _ => ⟨rfl, fun _ _ _ => ok⟩⟩
  | bool b =>
      have ok := @formatOneDecimal_isOk (.bool b) (by simp) rfl
      exact ⟨fun _ => rfl, fun _ => ⟨rfl, fun _ _ _ => ok⟩⟩
  | _ => simp [comparable, scorable]

theorem cpuFinding_isOk (cpu : Value) : (cpuFinding cpu).isOk = scorable 80 cpu :=
  formatOneDecimal_finding_isOk cpu _ _ (by simp) (by simp)

theorem ramFinding_isOk (ram : Value) : (ramFinding ram).isOk = scorable 95 ram :=
  formatOneDecimal_finding_isOk ram _ _ (by simp) (by simp)

theorem isOk_bind {α β : Type} (x : Except PyError α) {f : α → Except PyError β} {b : Bool}
    (h : ∀ a, (f a).isOk = b) : (x >>= f).isOk = (x.isOk && b) := by
  cases x with
  | ok a => exact h a
  | error e => rfl

theorem connectionsFinding_isOk (connections : Value) :
    (connectionsFinding repr connections).isOk = comparable connections :=
  writeText_finding_isOk repr connections _ _

theorem processesFinding_isOk (processes : Value) :
    (processesFinding repr processes).isOk = comparable processes :=
  writeText_finding_isOk repr processes _ _

theorem get_obj (fields : List (String × Value)) (key : String) (default : Value) :
    Value.get (.obj fields) key default = .ok (fieldOr fields key default) := rfl

theorem calculateAnomalyScore_isOk (metrics : List (String × Value)) :
    (calculateAnomalyScore repr (.obj metrics)).isOk =
      (scorable 80 (fieldOr metrics "cpu_percent" (.num (.int 0))) &&
        (scorable 95 (fieldOr metrics "ram_percent" (.num (.int 0))) &&
          (comparable (fieldOr metrics "active_connections" (.num (.int 0))) &&
            comparable (fieldOr metrics "process_count" (.num (.int 0)))))) := by
  simp only [calculateAnomalyScore, get_obj, ok_bind]
  rw [← cpuFinding_isOk, ← ramFinding_isOk, ← connectionsFinding_isOk repr,
    ← processesFinding_isOk repr]
  apply isOk_bind
  intro c
  apply isOk_bind
  intro r
  apply isOk_bind
  intro n
  exact (isOk_bind (b := true) _ fun p => rfl).trans (Bool.and_true _)

theorem processMatches_isOk {f : EventFields} (process : f.isProcess = true)
    (fields : List (String × Value)) (details : f.details = .obj fields) :
    (processMatches letters repr f).isOk =
      (isString (fieldOr fields "process_name" (fieldOr fields "name" (.str ""))) &&
        isString (fieldOr fields "cmdline" (.str ""))) := by
  rw [processMatches, if_pos process, details]
  simp only [processName, get_obj, ok_bind, matchProcess]
  cases name : fieldOr fields "process_name" (fieldOr fields "name" (.str "")) with
  | str name => cases fieldOr fields "cmdline" (.str "") <;> rfl
  | _ => rfl

theorem eventRequests_isOk (event : Value) :
    (eventRequests letters repr event).isOk = processable event := by
  unfold eventRequests processable
  cases readEvent event with
  | error e => rfl
  | ok f =>
      simp only [ok_bind, EventFields.processable]
      by_cases metrics : f.isMetrics = true
      · rw [if_pos metrics, if_pos metrics]
        cases details : f.details with
        | obj fields =>
            rw [isOk_bind (b := true), calculateAnomalyScore_isOk, Bool.and_true]
            intro anomaly
            split_ifs <;> rfl
        | _ => rfl
      · rw [if_neg metrics, if_neg metrics]
        by_cases process : f.isProcess = true
        · rw [if_pos process]
          cases details : f.details with
          | obj fields =>
              rw [isOk_bind (b := true), processMatches_isOk letters repr process fields details,
                Bool.and_true]
              intro found
              split_ifs
              · rfl
              · rw [mapM_matchRequest]
                rfl
          | _ => simp [processMatches, process, details, processName, Value.get]; rfl
        · rw [if_neg process, processMatches, if_neg process]
          rfl

theorem asks_takeWhile (events : List Value) : (asks letters repr events).2 =
    (events.takeWhile processable).flatMap fun e => (asks letters repr [e]).2 := by
  simp only [asks_eq]
  induction events with
  | nil => rfl
  | cons e events ih =>
      have ok := eventRequests_isOk letters repr e
      rw [batchRequests, List.takeWhile_cons, ← ok]
      cases asked : eventRequests letters repr e with
      | error error => rfl
      | ok requests => simp [Except.isOk, Except.toBool, batchRequests, asked, ih]

/-! ## One event does not silence the others -/

theorem batchRequests_ok {events : List Value} (h : ∀ e ∈ events, processable e = true) :
    batchRequests letters repr events =
      (.ok (), events.flatMap fun e => (batchRequests letters repr [e]).2) := by
  induction events with
  | nil => rfl
  | cons e events ih =>
      obtain ⟨here, later⟩ := List.forall_mem_cons.mp h
      obtain ⟨requests, code⟩ := isOk_iff.mp ((eventRequests_isOk letters repr e).trans here)
      simp [batchRequests, code, ih later]

theorem batchRequests_error {events : List Value} (h : ∃ e ∈ events, processable e = false) :
    ∃ error, (batchRequests letters repr events).1 = .error error := by
  induction events with
  | nil => simp at h
  | cons e events ih =>
      rw [batchRequests]
      cases code : eventRequests letters repr e with
      | error error => exact ⟨error, rfl⟩
      | ok requests =>
          have here : processable e = true := by
            rw [← eventRequests_isOk letters repr, code]
            rfl
          obtain ⟨f, member, bad⟩ := h
          rcases List.mem_cons.mp member with rfl | member
          · rw [here] at bad
            cases bad
          · exact ih ⟨f, member, bad⟩

def Isolates (events : List Value) : Prop :=
  (∃ alerts, (asks letters repr events).1 = .ok alerts) ∧
    (asks letters repr events).2 = events.flatMap (fun e => (asks letters repr [e]).2) ∧
    ∀ xs ys, events = xs ++ ys →
      (asks letters repr events).2 = (asks letters repr xs).2 ++ (asks letters repr ys).2

theorem isolates_iff (events : List Value) :
    Isolates letters repr events ↔ ∀ e ∈ events, processable e = true := by
  simp only [Isolates, asks_eq]
  constructor
  · rintro ⟨⟨alerts, ended⟩, -⟩
    by_contra bad
    obtain ⟨error, raised⟩ := batchRequests_error letters repr
      (by simpa using bad : ∃ e ∈ events, processable e = false)
    rw [raised] at ended
    cases ended
  · intro h
    refine ⟨⟨[], by rw [batchRequests_ok letters repr h]; rfl⟩, ?_, ?_⟩
    · rw [batchRequests_ok letters repr h]
    · rintro xs ys rfl
      obtain ⟨first, later⟩ := List.forall_mem_append.mp h
      rw [batchRequests_ok letters repr h, batchRequests_ok letters repr first,
        batchRequests_ok letters repr later, List.flatMap_append]

end

theorem null_details_silence_batch :
    let bad : Value := .obj [("event_type", .str "process_alert"), ("details", .null)]
    let good : Value := .obj [("event_type", .str "usb_event"), ("severity", .str "critical"),
      ("title", .str "USB storage connected")]
    let repr : Value → String := fun _ => ""
    (asks Letters.ascii repr [good]).2.map AlertRequest.severity = ["critical"] ∧
      (asks Letters.ascii repr [bad, good]).2.length = 0 ∧
      ¬ Isolates Letters.ascii repr [bad, good] := by
  intro bad good repr
  have raised : (asks Letters.ascii repr [bad, good]).1 = .error .attributeError := by decide +kernel
  refine ⟨by decide +kernel, by decide +kernel, ?_⟩
  rintro ⟨⟨alerts, ended⟩, -⟩
  rw [raised] at ended
  cases ended

/-! ## Matched rules replace the event's own severity -/

def severityRank (severity : String) : Nat :=
  if severity = "critical" then 4
  else if severity = "high" then 3
  else if severity = "medium" then 2
  else if severity = "low" then 1
  else 0

theorem severityRank_mono (critical high medium : Int) {s t : Int} (le : s ≤ t) :
    severityRank (if critical ≤ s then "critical" else if high ≤ s then "high"
      else if medium ≤ s then "medium" else "low") ≤
    severityRank (if critical ≤ t then "critical" else if high ≤ t then "high"
      else if medium ≤ t then "medium" else "low") := by
  have rank (u : Int) : severityRank (if critical ≤ u then "critical" else if high ≤ u then "high"
      else if medium ≤ u then "medium" else "low") =
        if critical ≤ u then 4 else if high ≤ u then 3 else if medium ≤ u then 2 else 1 := by
    split_ifs <;> rfl
  rw [rank, rank]
  split_ifs <;> omega

def eventSeverity (event : Value) : Option String :=
  match readEvent event with
  | .ok f => severityOf f.severity
  | .error _ => none

section
variable (letters : Letters) (repr : Value → String)

def EventFields.found (f : EventFields) : List RuleMatch :=
  if f.isProcess then
    match processName f.details, f.details.get "cmdline" (.str "") with
    | .ok (.str name), .ok (.str cmdline) => matchedRules letters sigmaRules name cmdline
    | _, _ => []
  else []

def eventMatches (event : Value) : List RuleMatch :=
  match readEvent event with
  | .ok f => f.found letters
  | .error _ => []

theorem processMatches_of_isOk {f : EventFields} (h : (processMatches letters repr f).isOk = true) :
    ∃ name, processMatches letters repr f = .ok (name, f.found letters) := by
  unfold processMatches EventFields.found at *
  by_cases process : f.isProcess = true
  · rw [if_pos process] at h ⊢
    rw [if_pos process]
    cases name : processName f.details with
    | error e => simp [name, isOk_iff] at h
    | ok name' =>
        cases cmd : f.details.get "cmdline" (.str "") with
        | error e => simp [name, cmd, isOk_iff] at h
        | ok cmd' =>
            simp only [name, cmd, ok_bind] at h ⊢
            cases name' <;> cases cmd' <;>
              first
              | exact ⟨_, rfl⟩
              | simp [matchProcess, Value.asStr, isOk_iff] at h
  · rw [if_neg process, if_neg process]
    exact ⟨"", rfl⟩

theorem not_isMetrics_of_severe {f : EventFields} {s : String} (h : severityOf f.severity = some s) :
    ¬ f.isMetrics = true := by
  intro metrics
  have info := (Bool.and_eq_true_iff.mp metrics).2
  cases severity : f.severity with
  | str t =>
      rw [severity] at info h
      obtain rfl : t = "info" := by simpa [Value.isStr] using info
      cases h
  | _ =>
      rw [severity] at info
      cases info

theorem requests_of_not_isMetrics {event : Value} {f : EventFields} {requests : List AlertRequest}
    (read : readEvent event = .ok f) (metrics : ¬ f.isMetrics = true)
    (asked : eventRequests letters repr event = .ok requests) :
    (f.found letters = [] ∧ requests = (severityOf f.severity).toList.map (eventRequest repr f)) ∨
      (f.found letters ≠ [] ∧ ∃ name fields, f.details = .obj fields ∧
        requests = (f.found letters).map (matchAlert name fields)) := by
  rw [eventRequests, read, ok_bind, if_neg metrics] at asked
  cases matched : processMatches letters repr f with
  | error e =>
      rw [matched] at asked
      cases asked
  | ok p =>
      obtain ⟨name, found⟩ := processMatches_of_isOk letters repr (isOk_iff.mpr ⟨p, matched⟩)
      simp only [found, ok_bind, List.isEmpty_iff] at asked
      by_cases none : f.found letters = []
      · rw [if_pos none] at asked
        exact Or.inl ⟨none, (Except.ok.inj asked).symm⟩
      · obtain ⟨fields, details⟩ := details_of_matches letters repr found none
        rw [if_neg none, details, mapM_matchRequest] at asked
        exact Or.inr ⟨none, name, fields, details, (Except.ok.inj asked).symm⟩

theorem severities_of_severe {event : Value} {s : String} {requests : List AlertRequest}
    (severe : eventSeverity event = some s)
    (asked : eventRequests letters repr event = .ok requests) :
    requests.map AlertRequest.severity = if eventMatches letters event = [] then [s]
      else (eventMatches letters event).map RuleMatch.severity := by
  unfold eventMatches eventSeverity at *
  cases read : readEvent event with
  | error e =>
      rw [read] at severe
      cases severe
  | ok f =>
      simp only [read] at severe ⊢
      rcases requests_of_not_isMetrics letters repr read (not_isMetrics_of_severe severe) asked with
        ⟨none, rfl⟩ | ⟨some, name, fields, -, rfl⟩
      · rw [if_pos none, severe]
        rfl
      · rw [if_neg some, List.map_map]
        rfl

/-- A severe event asks for one alert of its own severity where no rule matches it, and else for one
alert of each matching rule's severity in the order of the table. -/
theorem severe_event_alerts (event : Value) (s : String) (ok : processable event = true)
    (severe : eventSeverity event = some s) :
    let found := eventMatches letters event
    let requests := (asks letters repr [event]).2
    requests.map AlertRequest.severity = (if found = [] then [s] else found.map RuleMatch.severity) ∧
      ((∃ r ∈ requests, severityRank s ≤ severityRank r.severity) ↔
        found = [] ∨ ∃ m ∈ found, severityRank s ≤ severityRank m.severity) := by
  intro found requests
  obtain ⟨asked, code⟩ := isOk_iff.mp ((eventRequests_isOk letters repr event).trans ok)
  have severities := severities_of_severe letters repr severe code
  have same : requests = asked := by simp [requests, asks_eq, batchRequests, code]
  rw [same]
  refine ⟨severities, ?_⟩
  have ranks : (∃ r ∈ asked, severityRank s ≤ severityRank r.severity) ↔
      ∃ t ∈ asked.map AlertRequest.severity, severityRank s ≤ severityRank t := by
    simp
  rw [ranks, severities]
  by_cases none : found = []
  · simp [found, none]
  · simp [found, none]

end

theorem severe_event_alerts_mimikatz :
    let event : Value := .obj [("event_type", .str "process_alert"), ("severity", .str "high"),
      ("details", .obj [("process_name", .str "Mimikatz.exe"), ("cmdline", .str "")])]
    let repr : Value → String := fun _ => ""
    (asks Letters.ascii repr [event]).2.map AlertRequest.severity = ["critical"] ∧
      ∃ r ∈ (asks Letters.ascii repr [event]).2, severityRank "high" ≤ severityRank r.severity := by
  intro event repr
  obtain ⟨severities, high⟩ := severe_event_alerts Letters.ascii repr event "high"
    (by decide +kernel) (by decide +kernel)
  have found : (eventMatches Letters.ascii event).map RuleMatch.severity = ["critical"] := by
    decide +kernel
  have some : eventMatches Letters.ascii event ≠ [] := by
    intro none
    rw [none] at found
    cases found
  obtain ⟨m, member, critical⟩ := List.mem_map.mp (found ▸ List.mem_singleton_self "critical")
  rw [if_neg some, found] at severities
  exact ⟨severities, high.mpr (Or.inr ⟨m, member, by rw [critical]; decide⟩)⟩

theorem severe_event_downgraded :
    let event : Value := .obj [("event_type", .str "process_alert"), ("severity", .str "critical"),
      ("details", .obj [("process_name", .str "gdb"), ("cmdline", .str "")])]
    let repr : Value → String := fun _ => ""
    (asks Letters.ascii repr [event]).2.map AlertRequest.severity = ["medium"] ∧
      ¬ ∃ r ∈ (asks Letters.ascii repr [event]).2,
        severityRank "critical" ≤ severityRank r.severity := by
  decide +kernel

end GuardianPi.Backend
