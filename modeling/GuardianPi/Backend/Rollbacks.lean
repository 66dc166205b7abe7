import GuardianPi.Backend.RowUpdates

namespace GuardianPi.Backend.Responses
open GuardianPi.Library GuardianPi.Library.Python GuardianPi.Library.Validation

def Pending (action : TypedRow Table.remediationActions.columns) : Prop :=
  isText (action.get "status") "pending" = true

def Completed (action : TypedRow Table.remediationActions.columns) : Prop :=
  isText (action.get "status") "completed" = true

def RollsBack (id : String) (db : Database) (s : Served) : Prop :=
  (∃ r, s.change = .rollbackAction id r) ∧ ∃ w, s.Responds db w

/-- Some continuation completes the action, and then it can be rolled back. -/
def CanBeUndone (db : Database) (action : TypedRow Table.remediationActions.columns) : Prop :=
  ∃ later final, run servedStep db later = some final ∧
    ∃ after ∈ final.rows .remediationActions, after.get "id" = action.get "id" ∧ Completed after ∧
      ∃ id s, hasId id after.row = true ∧ RollsBack id final s

def PendingCanBeUndone (db : Database) : Prop :=
  ∀ action ∈ db.rows .remediationActions, Pending action → CanBeUndone db action

def RolledBackOnce (start : Database) (requests : List Served) : Prop :=
  ∀ id past s between s' rest, requests = past ++ s :: (between ++ s' :: rest) →
    ∀ db, run servedStep start past = some db → RollsBack id db s →
      ∀ db', run servedStep (db.serve s) between = some db' → ¬ RollsBack id db' s'

def NothingCreated (db : Database) (s : Served) : Prop :=
  ∀ r, s.change = .submit (.createRemediation r) → ¬ ∃ w, s.Responds db w

section
variable {env : Environment} {currentUser : User} {db : Database} {s : Served} {w : Written}

theorem createRemediation_eq_ok {r : RemediationRequest} (made : createRemediation env currentUser db r = .ok w) :
    ∃ action : TypedRow Table.remediationActions.columns,
      action.get "status" = some (.str "pending") ∧ w.database = db.append action := by
  obtain ⟨deviceId, alertId, made⟩ := insert_of_createRemediation made
  obtain ⟨row, filled, -, rfl⟩ := insert_eq_ok.mp made
  exact ⟨row, get_of_insert filled (by decide +kernel), rfl⟩

theorem rollbackAction_eq_ok {id : String} {r : RollbackRequest} (made : rollbackAction env db id r = .ok w) :
    ∃ old action : TypedRow Table.remediationActions.columns,
      (db.rows .remediationActions).filter (fun row => hasId id row.row) = [old] ∧ Completed old ∧
      action.get "status" = some (.str "rolled_back") ∧ w.database = db.replace id action := by
  obtain ⟨old, updates, action, only, assigned, set, -, rfl⟩ := update_eq_ok.mp made
  by_cases completed : isText (old.get "status") "completed" = true
  · rw [if_neg (by simp [completed])] at assigned
    obtain rfl := Except.ok.inj assigned
    have undone := get_of_updates (by simp [Table.columns]) set "status"
    exact ⟨old, action, only, completed, by simpa [TypedRow.updated] using undone, rfl⟩
  · rw [if_pos (by simp [completed])] at assigned
    cases assigned

inductive Acted (db : Database) (s : Served) : Prop where
  | untouched (rows : (db.serve s).rows .remediationActions = db.rows .remediationActions)
      (nothing : NothingCreated db s) (neither : ∀ id, ¬ RollsBack id db s)
  | created (action : TypedRow Table.remediationActions.columns) (pending : action.get "status" = some (.str "pending"))
      (rows : (db.serve s).rows .remediationActions = db.rows .remediationActions ++ [action])
      (something : ¬ NothingCreated db s) (neither : ∀ id, ¬ RollsBack id db s)
  | rolledBack (id : String) (old action : TypedRow Table.remediationActions.columns)
      (only : (db.rows .remediationActions).filter (fun row => hasId id row.row) = [old]) (completed : Completed old)
      (undone : action.get "status" = some (.str "rolled_back")) (after : db.serve s = db.replace id action)
      (same : ∀ other, RollsBack other db s → other = id) (nothing : NothingCreated db s)

theorem acted_of_table (other : s.change.table ≠ .remediationActions) : Acted db s := by
  refine .untouched (serve_rows_other other) (fun r change => ?_) fun id ⟨change, _⟩ => ?_
  · rw [change] at other
    exact absurd rfl other
  · obtain ⟨r, change⟩ := change
    rw [change] at other
    exact other rfl

theorem acted_serve (db : Database) (s : Served) : Acted db s := by
  rcases serve_cases db s with ⟨same, refused⟩ | ⟨w, responds, after⟩
  · refine .untouched (congrArg (Database.rows · _) same) (fun _ _ answered => ?_) fun id rollsBack => ?_
    · exact absurd answered.choose_spec (refused _)
    · exact absurd rollsBack.2.choose_spec (refused _)
  · have made := responds
    unfold Served.Responds at made
    cases change : s.change with
    | submit submission =>
        cases submission with
        | createRemediation r =>
            rw [change] at made
            obtain ⟨action, pending, appended⟩ := createRemediation_eq_ok made
            refine .created action pending (by rw [after, appended, rows_append]) ?_ ?_
            · exact fun nothing => nothing r change ⟨_, responds⟩
            · rintro id ⟨⟨r', change'⟩, -⟩
              cases change.symm.trans change'
        | _ =>
            apply acted_of_table
            rw [change]
            exact nofun
    | rollbackAction id r =>
        rw [change] at made
        obtain ⟨old, action, only, completed, undone, replaced⟩ := rollbackAction_eq_ok made
        refine .rolledBack id old action only completed undone (after.trans replaced) ?_ ?_
        · rintro other ⟨⟨r', change'⟩, -⟩
          exact (Change.rollbackAction.inj (change.symm.trans change')).1.symm
        · intro r' change'
          cases change.symm.trans change'
    | _ =>
        apply acted_of_table
        rw [change]
        exact nofun

def AllPending (db : Database) : Prop :=
  ∀ action ∈ db.rows .remediationActions, action.get "status" = some (.str "pending")

theorem allPending_serve (all : AllPending db) : AllPending (db.serve s) := by
  cases acted_serve db s with
  | untouched rows _ _ =>
      rw [AllPending, rows]
      exact all
  | created action pending rows _ _ =>
      rw [AllPending, rows]
      exact List.forall_mem_append.mpr ⟨all, List.forall_mem_singleton.mpr pending⟩
  | rolledBack id old action only completed _ _ _ _ =>
      rw [Completed, all old (mem_of_only only).1] at completed
      cases completed

theorem allPending_run {later : List Served} {final : Database} (all : AllPending db)
    (taken : run servedStep db later = some final) : AllPending final :=
  run_total_invariant (I := AllPending) all (fun _ _ => allPending_serve) taken

theorem pendingCanBeUndone_iff (all : AllPending db) :
    PendingCanBeUndone db ↔ db.rows .remediationActions = [] := by
  constructor
  · intro undone
    refine List.eq_nil_iff_forall_not_mem.mpr fun action member => ?_
    have pending : Pending action := by
      rw [Pending, all action member]
      rfl
    obtain ⟨later, final, taken, after, among, -, completed, -⟩ := undone action member pending
    rw [Completed, allPending_run all taken after among] at completed
    cases completed
  · intro none action member
    rw [none] at member
    cases member

theorem nothingCreated_iff (none : db.rows .remediationActions = []) :
    (db.serve s).rows .remediationActions = [] ↔ NothingCreated db s := by
  cases acted_serve db s with
  | untouched rows nothing _ => exact iff_of_true (rows.trans none) nothing
  | created action _ rows something _ =>
      refine iff_of_false ?_ something
      rw [rows]
      exact List.append_ne_nil_of_right_ne_nil _ (List.cons_ne_nil _ _)
  | rolledBack id old action only _ _ _ _ _ =>
      rw [none] at only
      cases only

def NotCompleted (id : String) (db : Database) : Prop :=
  ∀ action ∈ db.rows .remediationActions, hasId id action.row = true → ¬ Completed action

theorem not_completed_of_status {action : TypedRow Table.remediationActions.columns} {text : String}
    (status : action.get "status" = some (.str text)) (other : text ≠ "completed") : ¬ Completed action := by
  rw [Completed, status]
  exact fun completed => other (of_decide_eq_true completed)

theorem notCompleted_serve {id : String} (undone : NotCompleted id db) : NotCompleted id (db.serve s) := by
  cases acted_serve db s with
  | untouched rows _ _ =>
      rw [NotCompleted, rows]
      exact undone
  | created action pending rows _ _ =>
      rw [NotCompleted, rows]
      refine List.forall_mem_append.mpr ⟨undone, List.forall_mem_singleton.mpr fun _ => ?_⟩
      exact not_completed_of_status pending (by decide)
  | rolledBack other old action only _ rolledBack after _ _ =>
      rw [NotCompleted, after]
      refine (forall_rows_replace undone only).mpr fun _ => ?_
      exact not_completed_of_status rolledBack (by decide)

theorem notCompleted_of_rollsBack {id : String} (rollsBack : RollsBack id db s) : NotCompleted id (db.serve s) := by
  cases acted_serve db s with
  | untouched _ _ neither => exact absurd rollsBack (neither id)
  | created _ _ _ _ neither => exact absurd rollsBack (neither id)
  | rolledBack other old action only _ rolledBack after same _ =>
      obtain rfl := same id rollsBack
      rw [NotCompleted, after, rows_replace]
      refine List.forall_mem_map.mpr fun row _ => ?_
      split_ifs with here
      · exact fun _ => not_completed_of_status rolledBack (by decide)
      · exact fun same => absurd same here

theorem not_rollsBack {id : String} (undone : NotCompleted id db) : ¬ RollsBack id db s := by
  intro rollsBack
  cases acted_serve db s with
  | untouched _ _ neither => exact neither id rollsBack
  | created _ _ _ _ neither => exact neither id rollsBack
  | rolledBack other old action only completed _ _ same _ =>
      obtain rfl := same id rollsBack
      obtain ⟨member, here⟩ := mem_of_only only
      exact undone old member here completed

theorem rolledBack_once (start : Database) (requests : List Served) : RolledBackOnce start requests := by
  intro id past s between s' rest _ db _ rollsBack db' taken
  have undone : NotCompleted id db' :=
    run_total_invariant (notCompleted_of_rollsBack rollsBack) (fun _ _ => notCompleted_serve) taken
  exact not_rollsBack undone

end

theorem remediations_undone_iff {start : Database} (none : start.rows .remediationActions = [])
    (requests : List Served) :
    Always servedStep PendingCanBeUndone start requests ∧ RolledBackOnce start requests ↔
      Along servedStep NothingCreated start requests := by
  have all : AllPending start := fun action member => absurd (none ▸ member) List.not_mem_nil
  rw [and_iff_left (rolledBack_once start requests)]
  refine always_total_iff_along all ((pendingCanBeUndone_iff all).mpr none) (fun db s all here => ?_) requests
  have later : AllPending (db.serve s) := allPending_serve all
  refine ⟨?_, fun _ => later⟩
  rw [pendingCanBeUndone_iff later]
  exact nothingCreated_iff ((pendingCanBeUndone_iff all).mp here)

def isolate : Served := servedAt "r1" "2026-01-01T00:00:00+00:00" (.submit (.createRemediation
  ⟨"d1", "isolate_endpoint", [], none, by decide⟩))

def isolateUnknown : Served :=
  { isolate with env := { isolate.env with takes := fun table _ => table ≠ .remediationActions } }

theorem unknown_device_undone :
    let requests := [servedAt "a1" "2026-01-01T00:00:00+00:00" (.submit (.createAlert
        ⟨"d1", "high", "usb", "Unknown stick", none, none, none, none, none, by decide, by decide⟩)),
      isolateUnknown, servedAt "" "2026-01-01T00:00:10+00:00" (.rollbackAction "r1" ⟨"false alarm"⟩)]
    Always servedStep PendingCanBeUndone .empty requests ∧ RolledBackOnce .empty requests := by
  intro requests
  have refused (db : Database) : NothingCreated db isolateUnknown := by
    rintro r same ⟨w, responds⟩
    obtain ⟨deviceId, alertId, made⟩ := insert_of_createRemediation responds
    obtain ⟨row, -, taken, -⟩ := insert_eq_ok.mp made
    cases taken
  exact (remediations_undone_iff rfl requests).mpr
    ⟨nofun, fun _ _ => ⟨refused _, fun _ _ => ⟨nofun, fun _ _ => trivial⟩⟩⟩

theorem isolation_never_undone :
    ¬ (Always servedStep PendingCanBeUndone .empty [isolate] ∧ RolledBackOnce .empty [isolate]) := by
  intro ⟨always, _⟩
  have final := always [isolate] [] rfl _ rfl
  have all : AllPending (Database.serve .empty isolate) :=
    allPending_serve fun action member => absurd member List.not_mem_nil
  have stored : ((Database.serve .empty isolate).rows .remediationActions).length = 1 := by decide +kernel
  rw [(pendingCanBeUndone_iff all).mp final] at stored
  cases stored

end GuardianPi.Backend.Responses
