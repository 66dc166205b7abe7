import GuardianPi.Backend.AlertDecisions

namespace GuardianPi.Backend
open GuardianPi.Library GuardianPi.Library.Python

def RuleMatch.verdict (m : RuleMatch) : List (String × Value) :=
  [("rule_id", .str m.ruleId), ("mitre_tactic", .str m.mitreTactic), ("mitre_technique", .str m.mitreTechnique)]

def Anomaly.verdict (a : Anomaly) : List (String × Value) := [("anomaly", a.value)]

section
variable (letters : Letters) (repr : Value → String)

def eventAnomaly (event : Value) : Option Anomaly :=
  match readEvent event with
  | .ok f =>
      if f.isMetrics then
        match calculateAnomalyScore repr f.details with
        | .ok anomaly => if 30 < anomaly.anomalyScore then some anomaly else none
        | .error _ => none
      else none
  | .error _ => none

def eventVerdicts (event : Value) : List (List (String × Value)) :=
  match eventAnomaly repr event with
  | some anomaly => [anomaly.verdict]
  | none => (eventMatches letters event).map RuleMatch.verdict

def detailOf (event : Value) (key : String) : Option Value :=
  match readEvent event with
  | .ok f => f.details.get? key
  | .error _ => none

def Carries (verdict : List (String × Value)) (request : AlertRequest) : Prop :=
  ∀ field ∈ verdict, request.details.get? field.1 = some field.2

def VerdictKept (event : Value) (requests : List AlertRequest) : Prop :=
  eventVerdicts letters repr event ≠ [] → List.Forall₂ Carries (eventVerdicts letters repr event) requests

structure VerdictsKept (events : List Value) : Prop where
  asked : (asks letters repr events).2 = (events.takeWhile processable).flatMap fun e => (asks letters repr [e]).2
  kept : ∀ e ∈ events.takeWhile processable, VerdictKept letters repr e (asks letters repr [e]).2

/-- The event brings no other value under a key of the server. -/
def NotForged (event : Value) : Prop :=
  ∀ verdict ∈ eventVerdicts letters repr event, ∀ field ∈ verdict,
    ∀ w, detailOf event field.1 = some w → w = field.2

variable {letters repr} {event : Value}

theorem lookup_verdict {verdict : List (String × Value)} (member : verdict ∈ eventVerdicts letters repr event) :
    ∀ field ∈ verdict, Json.lookup field.1 verdict = some field.2 := by
  unfold eventVerdicts at member
  split at member
  · obtain rfl := List.mem_singleton.mp member
    simp [Anomaly.verdict, Json.lookup]
  · obtain ⟨m, -, rfl⟩ := List.mem_map.mp member
    simp [RuleMatch.verdict, Json.lookup]

theorem found_of_isMetrics {f : EventFields} (metrics : f.isMetrics = true) : f.found letters = [] := by
  have name : f.eventType.isStr "system_metrics" = true := (Bool.and_eq_true_iff.mp metrics).1
  have other : ¬ f.isProcess = true := by
    unfold EventFields.isProcess
    cases type : f.eventType with
    | str text =>
        rw [type] at name
        obtain rfl : text = "system_metrics" := of_decide_eq_true name
        decide
    | _ => simp [Value.isStr]
  rw [EventFields.found, if_neg other]

/-- The details of an alert are the verdict and, after it, the fields of the event. -/
theorem details_of_verdicts {requests : List AlertRequest} (asked : eventRequests letters repr event = .ok requests)
    (some : eventVerdicts letters repr event ≠ []) : ∃ fields, (∀ key, detailOf event key = Json.lookup key fields) ∧
      requests.map AlertRequest.details = (eventVerdicts letters repr event).map fun verdict => .obj (verdict ++ fields) := by
  cases read : readEvent event with
  | error e =>
      rw [eventRequests, read] at asked
      cases asked
  | ok f =>
      have found : eventMatches letters event = f.found letters := by rw [eventMatches, read]
      have detail : ∀ key, detailOf event key = f.details.get? key := fun key => by rw [detailOf, read]
      unfold eventVerdicts eventAnomaly at some ⊢
      simp only [read, found] at some ⊢
      by_cases metrics : f.isMetrics = true
      · simp only [if_pos metrics] at some ⊢
        rw [eventRequests, read, ok_bind, if_pos metrics] at asked
        cases scored : calculateAnomalyScore repr f.details with
        | error e =>
            rw [scored] at asked
            cases asked
        | ok anomaly =>
            simp only [scored, ok_bind] at asked some ⊢
            by_cases high : 30 < anomaly.anomalyScore
            · rw [if_pos high] at asked
              simp only [if_pos high]
              cases details : f.details with
              | obj fields =>
                  rw [details] at asked
                  obtain rfl := Except.ok.inj asked
                  exact ⟨fields, fun key => by rw [detail, details]; rfl, rfl⟩
              | _ =>
                  rw [details] at asked
                  cases asked
            · simp only [if_neg high, found_of_isMetrics metrics] at some
              exact absurd rfl some
      · simp only [if_neg metrics] at some ⊢
        have matching : f.found letters ≠ [] := fun none => some (by rw [none]; rfl)
        rcases requests_of_not_isMetrics letters repr read metrics asked with ⟨none, -⟩ | ⟨-, name, fields, details, rfl⟩
        · exact absurd none matching
        · refine ⟨fields, fun key => by rw [detail, details]; rfl, ?_⟩
          rw [List.map_map, List.map_map]
          rfl

theorem verdictKept_iff (ok : processable event = true) :
    VerdictKept letters repr event (asks letters repr [event]).2 ↔ NotForged letters repr event := by
  obtain ⟨requests, asked⟩ := isOk_iff.mp ((eventRequests_isOk letters repr event).trans ok)
  have same : (asks letters repr [event]).2 = requests := by simp [asks_eq, batchRequests, asked]
  unfold VerdictKept NotForged
  rw [same]
  by_cases none : eventVerdicts letters repr event = []
  · simp [none]
  · obtain ⟨fields, detail, details⟩ := details_of_verdicts asked none
    have carried : List.Forall₂ Carries (eventVerdicts letters repr event) requests ↔
        ∀ verdict ∈ eventVerdicts letters repr event, ∀ field ∈ verdict,
          Json.lookup field.1 (verdict ++ fields) = some field.2 := by
      have mapped : List.Forall₂ Carries (eventVerdicts letters repr event) requests ↔
          List.Forall₂ (fun verdict details => ∀ field ∈ verdict, Json.get? field.1 details = some field.2)
            (eventVerdicts letters repr event) (requests.map AlertRequest.details) := by
        rw [List.forall₂_map_right_iff]
        rfl
      rw [mapped, details, List.forall₂_map_right_iff, List.forall₂_same]
      rfl
    rw [imp_iff_right none, carried]
    refine forall₂_congr fun verdict member => forall₂_congr fun field among => ?_
    rw [detail]
    exact Json.lookup_append_eq_some_iff (lookup_verdict member field among)

end

theorem verdicts_kept_iff (letters : Letters) (repr : Value → String) (events : List Value) :
    VerdictsKept letters repr events ↔ ∀ e ∈ events.takeWhile processable, NotForged letters repr e := by
  have each : ∀ e ∈ events.takeWhile processable,
      (VerdictKept letters repr e (asks letters repr [e]).2 ↔ NotForged letters repr e) := by
    intro e member
    exact verdictKept_iff (List.mem_takeWhile_imp member)
  constructor
  · intro kept e member
    exact (each e member).mp (kept.kept e member)
  · intro honest
    exact ⟨asks_takeWhile letters repr events, fun e member => (each e member).mpr (honest e member)⟩

def mimikatzDetection : Value := .obj [("event_type", .str "detection"), ("severity", .str "critical"),
  ("title", .str "Mimikatz Detection: mimikatz.exe"), ("details", .obj [("rule_id", .str "GPI-001"),
    ("rule_name", .str "Mimikatz Detection"), ("category", .str "credential_access"),
    ("mitre_tactic", .str "Credential Access"), ("mitre_technique", .str "T1003"), ("pid", .num (.int 4242)),
    ("process_name", .str "mimikatz.exe"), ("username", .str "root"), ("cmdline", .str "mimikatz.exe")])]

theorem rule_id_of_agent_kept : ¬ VerdictsKept .ascii (fun _ => "") [mimikatzDetection] := by
  intro kept
  have ok : processable mimikatzDetection = true := by decide +kernel
  have reached : mimikatzDetection ∈ [mimikatzDetection].takeWhile processable := by
    rw [List.takeWhile_cons, ok]
    exact List.mem_singleton_self _
  have honest := (verdictKept_iff ok).mp (kept.kept mimikatzDetection reached)
  have scored : eventAnomaly (fun _ => "") mimikatzDetection = none := by rfl
  have found : (eventMatches .ascii mimikatzDetection).map RuleMatch.ruleId = ["SIGMA-001"] := by decide +kernel
  obtain ⟨m, member, id⟩ := List.mem_map.mp (found ▸ List.mem_singleton_self "SIGMA-001")
  have verdict : m.verdict ∈ eventVerdicts .ascii (fun _ => "") mimikatzDetection := by
    rw [eventVerdicts, scored]
    exact List.mem_map_of_mem member
  have same := honest m.verdict verdict ("rule_id", .str m.ruleId) List.mem_cons_self (.str "GPI-001") rfl
  rw [id] at same
  exact absurd (Json.str.inj same) (by decide)

end GuardianPi.Backend
