import GuardianPi.Backend.AlertDecisions
import GuardianPi.Backend.RowUpdates
import GuardianPi.Library.Counting
import Mathlib.Algebra.Order.BigOperators.Group.List

namespace GuardianPi.Backend.Responses
open GuardianPi.Library GuardianPi.Library.Python GuardianPi.Library.Validation

def severityScores : List (String × Int) :=
  [("critical", 100), ("high", 75), ("medium", 50), ("low", 25), ("info", 5)]

def severityScore (severity : String) : Int := (severityScores.lookup severity).getD 0

/-- Without open alerts the two counts are left out. -/
structure DeviceRisk where
  riskScore : Int
  riskLevel : String
  openAlerts : Nat
  criticalCount : Option Nat
  highCount : Option Nat

def scoreLevel (riskScore : Int) : String :=
  if 80 ≤ riskScore then "critical" else if 60 ≤ riskScore then "high"
  else if 30 ≤ riskScore then "medium" else "low"

def riskOf (openAlerts : List String) : DeviceRisk :=
  if openAlerts.isEmpty then ⟨0, "low", 0, none, none⟩
  else
    let totalScore := (openAlerts.map severityScore).sum
    let riskScore := min 100 totalScore
    { riskScore
      riskLevel := scoreLevel riskScore
      openAlerts := openAlerts.length
      criticalCount := some (openAlerts.countP (· = "critical"))
      highCount := some (openAlerts.countP (· = "high")) }

def isUuid (v : Option Attribute) (id : String) : Bool :=
  match v with
  | some (.uuid other) => other = id
  | _ => false

def severityText (v : Option Attribute) : String :=
  match v with
  | some (.str s) => s
  | _ => ""

def isOpenOn (deviceId : String) (alert : TypedRow Table.alerts.columns) : Bool :=
  isUuid (alert.get "device_id") deviceId && isText (alert.get "status") "open"

def openSeverities (db : Database) (deviceId : String) : List String :=
  ((db.rows .alerts).filter (isOpenOn deviceId)).map fun alert => severityText (alert.get "severity")

def calculateDeviceRiskScore (db : Database) (deviceId : String) : DeviceRisk := riskOf (openSeverities db deviceId)

def DeviceRisk.AtMost (a b : DeviceRisk) : Prop :=
  a.riskScore ≤ b.riskScore ∧ severityRank a.riskLevel ≤ severityRank b.riskLevel

structure RiskLaws (risk : List String → DeviceRisk) : Prop where
  bounded : ∀ alerts, 0 ≤ (risk alerts).riskScore ∧ (risk alerts).riskScore ≤ 100
  unordered : ∀ alerts alerts', alerts.Perm alerts' → risk alerts = risk alerts'
  opened : ∀ alerts severity alerts', (risk (alerts ++ alerts')).AtMost (risk (alerts ++ severity :: alerts'))
  resolved : ∀ alerts i, (risk (alerts.eraseIdx i)).AtMost (risk alerts)
  critical : ∀ alerts, "critical" ∈ alerts → (risk alerts).riskLevel = "critical"
  counted : ∀ alerts, (risk alerts).openAlerts = alerts.length ∧
    (risk alerts).criticalCount.getD 0 + (risk alerts).highCount.getD 0 ≤ (risk alerts).openAlerts

theorem severityScore_nonneg (severity : String) : 0 ≤ severityScore severity := by
  have table : ∀ entry ∈ severityScores, 0 ≤ entry.2 := by decide
  unfold severityScore
  cases found : severityScores.lookup severity with
  | none => exact le_refl 0
  | some points =>
      obtain ⟨before, after, split, -⟩ := List.lookup_eq_some_iff.mp found
      exact table (severity, points) (split ▸ List.mem_append_right before List.mem_cons_self)

theorem riskOf_score (alerts : List String) : (riskOf alerts).riskScore = min 100 (alerts.map severityScore).sum ∧
    (riskOf alerts).riskLevel = scoreLevel (min 100 (alerts.map severityScore).sum) := by
  cases alerts with
  | nil => exact ⟨rfl, rfl⟩
  | cons severity alerts => exact ⟨rfl, rfl⟩

theorem scoreLevel_mono {s t : Int} (le : s ≤ t) : severityRank (scoreLevel s) ≤ severityRank (scoreLevel t) :=
  severityRank_mono 80 60 30 le

theorem sum_le_of_sublist {alerts alerts' : List String} (kept : alerts.Sublist alerts') :
    (alerts.map severityScore).sum ≤ (alerts'.map severityScore).sum := by
  apply (kept.map severityScore).sum_le_sum
  intro points member
  obtain ⟨severity, -, rfl⟩ := List.mem_map.mp member
  exact severityScore_nonneg severity

theorem atMost_of_sublist {alerts alerts' : List String} (kept : alerts.Sublist alerts') :
    (riskOf alerts).AtMost (riskOf alerts') := by
  have le : min 100 (alerts.map severityScore).sum ≤ min 100 (alerts'.map severityScore).sum :=
    min_le_min_left 100 (sum_le_of_sublist kept)
  unfold DeviceRisk.AtMost
  rw [(riskOf_score alerts).1, (riskOf_score alerts').1, (riskOf_score alerts).2, (riskOf_score alerts').2]
  exact ⟨le, scoreLevel_mono le⟩

theorem riskOf_perm {alerts alerts' : List String} (perm : alerts.Perm alerts') : riskOf alerts = riskOf alerts' := by
  unfold riskOf
  rw [perm.isEmpty_eq, perm.length_eq, perm.countP_eq, perm.countP_eq, (perm.map severityScore).sum_eq]

theorem riskLevel_of_critical {alerts : List String} (critical : "critical" ∈ alerts) :
    (riskOf alerts).riskLevel = "critical" := by
  have points : 100 ≤ (alerts.map severityScore).sum :=
    sum_le_of_sublist (List.singleton_sublist.mpr critical)
  rw [(riskOf_score alerts).2, min_eq_left points]
  rfl

theorem counts_le (alerts : List String) : (riskOf alerts).openAlerts = alerts.length ∧
    (riskOf alerts).criticalCount.getD 0 + (riskOf alerts).highCount.getD 0 ≤ (riskOf alerts).openAlerts := by
  cases alerts with
  | nil => exact ⟨rfl, le_refl 0⟩
  | cons severity alerts =>
      refine ⟨rfl, countP_add_countP_le ?_ (severity :: alerts)⟩
      intro severity critical
      rw [of_decide_eq_true critical]
      decide

section
variable {db : Database}

theorem openSeverities_append_sublist (deviceId : String) (alert : TypedRow Table.alerts.columns) :
    (openSeverities db deviceId).Sublist (openSeverities (db.append alert) deviceId) := by
  unfold openSeverities
  rw [rows_append, List.filter_append, List.map_append]
  exact List.sublist_append_left _ _

theorem filter_replaced_sublist {α : Type} {p c : α → Bool} {x : α} (dropped : p x = false) (rows : List α) :
    ((rows.map fun row => if c row then x else row).filter p).Sublist (rows.filter p) := by
  induction rows with
  | nil => exact List.Sublist.refl []
  | cons row rows ih =>
      rw [List.map_cons]
      by_cases here : c row = true
      · rw [if_pos here, List.filter_cons_of_neg (by simp [dropped])]
        exact ih.trans ((List.sublist_cons_self row rows).filter p)
      · rw [if_neg here, List.filter_cons, List.filter_cons]
        split_ifs
        · exact ih.cons_cons row
        · exact ih

theorem openSeverities_replace_sublist {id : String} {alert : TypedRow Table.alerts.columns} (deviceId : String)
    (closed : isText (alert.get "status") "open" = false) :
    (openSeverities (db.replace id alert) deviceId).Sublist (openSeverities db deviceId) := by
  unfold openSeverities
  rw [rows_replace]
  apply List.Sublist.map
  apply filter_replaced_sublist
  rw [isOpenOn, closed, Bool.and_false]

theorem atMost_createAlert (env : Environment) (currentUser : User) (db : Database) (r : AlertCreate)
    (deviceId : String) : (calculateDeviceRiskScore db deviceId).AtMost
      (calculateDeviceRiskScore (db.serve ⟨env, currentUser, .submit (.createAlert r)⟩) deviceId) := by
  apply atMost_of_sublist
  rcases serve_cases db ⟨env, currentUser, .submit (.createAlert r)⟩ with ⟨same, -⟩ | ⟨w, responds, after⟩
  · rw [same]
  · obtain ⟨device, -, made⟩ := failure_bind_eq_ok.mp (show createAlert env db r = .ok w from responds)
    obtain ⟨row, -, -, rfl⟩ := insert_eq_ok.mp made
    rw [after]
    exact openSeverities_append_sublist deviceId row

theorem not_open_of_alertUpdates {r : AlertUpdateRequest} {currentUser : User} {received : String}
    {old alert : TypedRow Table.alerts.columns}
    (made : old.setAll (alertUpdates received currentUser r) = .ok alert) :
    isText (alert.get "status") "open" = false := by
  rw [status_of_alertUpdates made]
  have known := r.known
  refine decide_eq_false fun opened => ?_
  rw [opened] at known
  exact absurd known (by decide)

theorem atMost_updateAlert (env : Environment) (currentUser : User) (db : Database) (alertId : String)
    (r : AlertUpdateRequest) (deviceId : String) :
    (calculateDeviceRiskScore (db.serve ⟨env, currentUser, .submit (.updateAlert alertId r)⟩) deviceId).AtMost
      (calculateDeviceRiskScore db deviceId) := by
  apply atMost_of_sublist
  rcases serve_cases db ⟨env, currentUser, .submit (.updateAlert alertId r)⟩ with ⟨same, -⟩ | ⟨w, responds, after⟩
  · rw [same]
  · rw [Served.Responds, perform, write, updateAlert_eq] at responds
    obtain ⟨old, updates, alert, -, assigned, set, -, rfl⟩ := update_eq_ok.mp responds
    obtain rfl := Except.ok.inj assigned
    rw [after]
    exact openSeverities_replace_sublist deviceId (not_open_of_alertUpdates set)

end

theorem deviceRisk_laws : RiskLaws riskOf ∧ ∀ env currentUser db deviceId,
    (∀ r, (calculateDeviceRiskScore db deviceId).AtMost
      (calculateDeviceRiskScore (db.serve ⟨env, currentUser, .submit (.createAlert r)⟩) deviceId)) ∧
    ∀ alertId r, (calculateDeviceRiskScore (db.serve ⟨env, currentUser, .submit (.updateAlert alertId r)⟩)
      deviceId).AtMost (calculateDeviceRiskScore db deviceId) := by
  constructor
  · constructor
    case bounded =>
      intro alerts
      rw [(riskOf_score alerts).1]
      have nonneg : 0 ≤ (alerts.map severityScore).sum := sum_le_of_sublist (List.nil_sublist alerts)
      omega
    case unordered => exact fun _ _ => riskOf_perm
    case opened =>
      intro alerts severity alerts'
      exact atMost_of_sublist ((List.sublist_cons_self severity alerts').append_left alerts)
    case resolved => exact fun alerts i => atMost_of_sublist (List.eraseIdx_sublist alerts i)
    case critical => exact fun _ => riskLevel_of_critical
    case counted => exact counts_le
  · intro env currentUser db deviceId
    exact ⟨fun r => atMost_createAlert env currentUser db r deviceId,
      fun alertId r => atMost_updateAlert env currentUser db alertId r deviceId⟩

end GuardianPi.Backend.Responses
