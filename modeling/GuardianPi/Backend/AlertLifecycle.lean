import GuardianPi.Backend.RowUpdates

namespace GuardianPi.Backend.Responses
open GuardianPi.Library GuardianPi.Library.Python GuardianPi.Library.Validation

def Resolved (alert : TypedRow Table.alerts.columns) : Prop := isText (alert.get "status") "resolved" = true

structure Lifecycle (alert : TypedRow Table.alerts.columns) : Prop where
  resolvedAt : (alert.get "resolved_at").isSome = true ↔ Resolved alert
  acknowledgedBy : (alert.get "acknowledged_by").isSome = true ↔ isText (alert.get "status") "open" = false

def LifecyclesKept (db : Database) : Prop := ∀ alert ∈ db.rows .alerts, Lifecycle alert

def StaysResolved (db : Database) (s : Served) : Prop :=
  ∀ alertId r, s.change = .submit (.updateAlert alertId r) → (∃ w, s.Responds db w) →
    ∀ alert ∈ db.rows .alerts, hasId alertId alert.row = true → Resolved alert → r.status = "resolved"

section
variable {env : Environment} {currentUser : User} {db : Database}

theorem lifecycle_of_createAlert {r : AlertCreate} {w : Written}
    (made : createAlert env db r = .ok w) (kept : LifecyclesKept db) : LifecyclesKept w.database := by
  obtain ⟨deviceId, -, made⟩ := failure_bind_eq_ok.mp made
  obtain ⟨row, filled, -, rfl⟩ := insert_eq_ok.mp made
  have status : row.get "status" = some (.str "open") := get_of_insert filled (by decide +kernel)
  have resolvedAt : row.get "resolved_at" = none := get_of_insert filled (by decide +kernel)
  have acknowledgedBy : row.get "acknowledged_by" = none := get_of_insert filled (by decide +kernel)
  unfold LifecyclesKept
  rw [rows_append]
  intro alert member
  rcases List.mem_append.mp member with old | new
  · exact kept alert old
  · obtain rfl := List.mem_singleton.mp new
    constructor <;> simp [Resolved, status, resolvedAt, acknowledgedBy, isText]

theorem lifecycle_updated_iff {r : AlertUpdateRequest} {old alert : TypedRow Table.alerts.columns} {received : String}
    (before : Lifecycle old) (made : old.setAll (alertUpdates received currentUser r) = .ok alert) :
    Lifecycle alert ↔ (Resolved old → r.status = "resolved") := by
  have read := get_of_alertUpdates made
  have status := status_of_alertUpdates made
  have acknowledgedBy : alert.get "acknowledged_by" = some (.uuid currentUser.id) := by
    rw [read]
    unfold alertUpdates
    split_ifs <;> simp [TypedRow.updated]
  have resolvedAt : alert.get "resolved_at" =
      if r.status = "resolved" then some (.datetime received) else old.get "resolved_at" := by
    rw [read]
    unfold alertUpdates
    split_ifs <;> simp [TypedRow.updated]
  have closed : r.status ≠ "open" := by
    intro opened
    have known := r.known
    rw [opened] at known
    exact absurd known (by decide)
  have acknowledged : (alert.get "acknowledged_by").isSome = true ↔ isText (alert.get "status") "open" = false := by
    rw [acknowledgedBy, status]
    simp [isText, closed]
  by_cases resolved : r.status = "resolved"
  · refine iff_of_true ⟨?_, acknowledged⟩ fun _ => resolved
    rw [resolvedAt, if_pos resolved, Resolved, status]
    simp [isText, resolved]
  · rw [if_neg resolved] at resolvedAt
    have other : ¬ Resolved alert := by
      rw [Resolved, status]
      simpa [isText] using resolved
    constructor
    · intro after reopened
      exact absurd (after.resolvedAt.mp (resolvedAt ▸ before.resolvedAt.mpr reopened)) other
    · intro stays
      refine ⟨?_, acknowledged⟩
      rw [resolvedAt, before.resolvedAt]
      exact iff_of_false (fun reopened => resolved (stays reopened)) other

theorem lifecyclesKept_updateAlert_iff {s : Served} {alertId : String} {r : AlertUpdateRequest} {w : Written}
    (kept : LifecyclesKept db) (change : s.change = .submit (.updateAlert alertId r)) (responds : s.Responds db w) :
    LifecyclesKept w.database ↔ StaysResolved db s := by
  have made := responds
  rw [Served.Responds, change, perform, write, updateAlert_eq] at made
  obtain ⟨old, updates, alert, only, assigned, set, -, rfl⟩ := update_eq_ok.mp made
  obtain rfl := Except.ok.inj assigned
  obtain ⟨member, id⟩ := mem_of_only only
  have step : LifecyclesKept (db.replace alertId alert) ↔ (Resolved old → r.status = "resolved") :=
    (forall_rows_replace kept only).trans (lifecycle_updated_iff (kept old member) set)
  rw [step]
  constructor
  · intro stays alertId' r' updates _ alert' among id' reopened
    obtain ⟨rfl, rfl⟩ : alertId = alertId' ∧ r = r' := by
      rw [change] at updates
      cases updates
      exact ⟨rfl, rfl⟩
    obtain rfl := eq_of_only only among id'
    exact stays reopened
  · intro stays
    exact stays alertId r change ⟨_, responds⟩ old member id

theorem lifecyclesKept_serve_iff {s : Served} (kept : LifecyclesKept db) :
    LifecyclesKept (db.serve s) ↔ StaysResolved db s := by
  rcases serve_cases db s with ⟨same, refused⟩ | ⟨w, responds, after⟩
  · rw [same]
    exact iff_of_true kept fun _ _ _ answered => absurd answered.choose_spec (refused _)
  · rw [after]
    by_cases here : s.change.table = .alerts
    · cases change : s.change with
      | submit submission =>
          cases submission with
          | createAlert r =>
              have made : createAlert s.env db r = .ok w := by
                rw [Served.Responds, change] at responds
                exact responds
              refine iff_of_true (lifecycle_of_createAlert made kept) fun alertId r' updates => ?_
              rw [change] at updates
              cases updates
          | updateAlert alertId r => exact lifecyclesKept_updateAlert_iff kept change responds
          | _ =>
              rw [change] at here
              cases here
      | _ =>
          rw [change] at here
          cases here
    · have rows : w.database.rows .alerts = db.rows .alerts := after ▸ serve_rows_other here
      refine iff_of_true ?_ fun alertId r updates => absurd (congrArg Change.table updates) here
      unfold LifecyclesKept
      rw [rows]
      exact kept

end

theorem lifecycles_kept_iff {start : Database} (kept : LifecyclesKept start) (requests : List Served) :
    Always servedStep LifecyclesKept start requests ↔ Along servedStep StaysResolved start requests := by
  refine always_total_iff_along (I := fun _ => True) trivial kept (fun db s _ here => ?_) requests
  exact ⟨lifecyclesKept_serve_iff here, fun _ => trivial⟩

def usbAlert : Served := servedAt "a1" "2026-01-01T00:00:00+00:00" (.submit (.createAlert ⟨"d1", "high", "intrusion",
  "USB storage connected", none, none, some "agent", none, none, by decide, by decide⟩))

def setStatus (status : String) (known : status ∈ ["acknowledged", "resolved", "false_positive"]) : Served :=
  servedAt "" "2026-01-01T00:01:00+00:00" (.submit (.updateAlert "a1" ⟨status, known⟩))

theorem resolved_alert_kept :
    Always servedStep LifecyclesKept .empty [usbAlert, setStatus "resolved" (by decide)] := by
  refine (lifecycles_kept_iff (fun _ member => absurd member List.not_mem_nil) _).mpr ⟨nofun, fun _ _ => ⟨?_, fun _ _ => trivial⟩⟩
  intro alertId r updates _ _ _ _ _
  cases updates
  rfl

theorem reopened_alert_keeps_resolved_at : ¬ Always servedStep LifecyclesKept .empty
    [usbAlert, setStatus "resolved" (by decide), setStatus "acknowledged" (by decide)] := by
  intro always
  have final := always _ [] (List.append_nil _).symm _ rfl
  unfold LifecyclesKept at final
  generalize after : Database.serve _ _ = db at final
  have columns : (db.rows .alerts).map (fun alert =>
      ((alert.get "resolved_at").isSome, isText (alert.get "status") "resolved")) = [(true, false)] := by
    rw [← after]
    decide +kernel
  obtain ⟨alert, member, read⟩ := List.mem_map.mp (columns ▸ List.mem_singleton_self (true, false))
  obtain ⟨set, status⟩ := Prod.mk.inj read
  have resolved := (final alert member).resolvedAt.mp set
  rw [Resolved, status] at resolved
  cases resolved

end GuardianPi.Backend.Responses
