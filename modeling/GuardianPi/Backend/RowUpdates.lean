import GuardianPi.Backend.Investigations
import GuardianPi.Backend.Responses
import GuardianPi.Library.RowUpdate

namespace GuardianPi.Backend.Responses
open GuardianPi.Library GuardianPi.Library.Python GuardianPi.Library.Validation

def Database.append (db : Database) {table : Table} (row : TypedRow table.columns) : Database :=
  ⟨fun other => if same : table = other then db.rows other ++ [same ▸ row] else db.rows other⟩

def Database.replace (db : Database) {table : Table} (id : String) (row : TypedRow table.columns) :
    Database :=
  ⟨fun other => if same : table = other
    then (db.rows other).map fun old => if hasId id old.row then same ▸ row else old
    else db.rows other⟩

structure RollbackRequest where
  reason : String

structure DeviceHeartbeat where
  cpuPercent : PyFloat
  ramPercent : PyFloat
  diskPercent : PyFloat
  uptimeSeconds : Int
  activeConnections : Int
  processCount : Int

def DeviceHeartbeat.modelDump (h : DeviceHeartbeat) : Value :=
  .obj [("cpu_percent", .num (.float h.cpuPercent)), ("ram_percent", .num (.float h.ramPercent)),
    ("disk_percent", .num (.float h.diskPercent)), ("uptime_seconds", .num (.int h.uptimeSeconds)),
    ("active_connections", .num (.int h.activeConnections)), ("process_count", .num (.int h.processCount))]

def isText (v : Option Attribute) (text : String) : Bool :=
  match v with
  | some (.str s) => s = text
  | _ => false

def dictOf (v : Option Attribute) : List (String × Value) :=
  match v with
  | some (.dict fields) => fields
  | _ => []

def listOf (v : Option Attribute) : List Value :=
  match v with
  | some (.list items) => items
  | _ => []

section
variable (env : Environment) (currentUser : User) (db : Database)

/-- The handlers below select the row of an id, assign to its attributes and flush. -/
def update (table : Table) (id missing : String)
    (assignments : TypedRow table.columns → Except Failure Row) : Except Failure Written := do
  match ← scalarOneOrNone ((db.rows table).filter fun row => hasId id row.row) with
  | none => httpException 404 missing
  | some row =>
      let updates ← assignments row
      let row ← raised (row.setAll updates)
      if !env.takes table row.row then .error (.python .integrityError)
      else .ok ⟨table, row, db.replace id row⟩

def rollbackAction (actionId : String) (r : RollbackRequest) : Except Failure Written :=
  update env db .remediationActions actionId "Remediation action not found" fun action =>
    if !isText (action.get "status") "completed" then httpException 400 "Can only rollback completed actions"
    else .ok [("status", some (.str "rolled_back")),
      ("result_message", some (.str s!"Rolled back: {r.reason}"))]

def deviceHeartbeat (deviceId : String) (heartbeat : DeviceHeartbeat) : Except Failure Written :=
  update env db .devices deviceId "Device not found" fun device =>
    let kept := (dictOf (device.get "metadata_json")).filter fun field => field.1 ≠ "last_metrics"
    .ok [("last_heartbeat", some (.datetime env.received)), ("status", some (.str "online")),
      ("metadata_json", some (.dict (kept ++ [("last_metrics", heartbeat.modelDump)])))]

def investigationUpdates (r : Request) (inv : TypedRow Table.investigations.columns) : Row :=
  let timeline := some (.list (listOf (inv.get "timeline") ++ [r.entry]))
  match r with
  | .addTimelineEntry _ _ _ => [("timeline", timeline), ("status", some (.str "in_progress"))]
  | .closeInvestigation findings _ closedAt _ => [("status", some (.str "closed")),
      ("findings", some (.str findings)), ("closed_at", some (.datetime closedAt)), ("timeline", timeline)]

def editInvestigation (invId : String) (r : Request) : Except Failure Written :=
  update env db .investigations invId "Investigation not found" fun inv => .ok (investigationUpdates r inv)

def assignInvestigation (invId assigneeId : String) : Except Failure Written :=
  update env db .investigations invId "Investigation not found" fun _ =>
    .ok [("assignee_id", some (.uuid assigneeId))]

inductive Change where
  | submit (s : Submission)
  | rollbackAction (actionId : String) (r : RollbackRequest)
  | deviceHeartbeat (deviceId : String) (heartbeat : DeviceHeartbeat)
  | editInvestigation (invId : String) (r : Request)
  | assignInvestigation (invId assigneeId : String)

def perform : Change → Except Failure Written
  | .submit s => write env currentUser db s
  | .rollbackAction actionId r => rollbackAction env db actionId r
  | .deviceHeartbeat deviceId heartbeat => deviceHeartbeat env db deviceId heartbeat
  | .editInvestigation invId r => editInvestigation env db invId r
  | .assignInvestigation invId assigneeId => assignInvestigation env db invId assigneeId

end

structure Served where
  env : Environment
  currentUser : User
  change : Change

def Served.Responds (db : Database) (s : Served) (w : Written) : Prop :=
  perform s.env s.currentUser db s.change = .ok w

/-- What is written counts as committed as soon as the request reaches its response. -/
def Database.serve (db : Database) (s : Served) : Database :=
  match perform s.env s.currentUser db s.change with
  | .ok w => w.database
  | .error _ => db

def Submission.table : Submission → Table
  | .registerDevice _ => .devices
  | .createAlert _ | .updateAlert _ _ => .alerts
  | .createUser _ => .users
  | .createRemediation _ => .remediationActions
  | .createPolicy _ => .policies
  | .createInvestigation _ => .investigations

def Change.table : Change → Table
  | .submit s => s.table
  | .rollbackAction _ _ => .remediationActions
  | .deviceHeartbeat _ _ => .devices
  | .editInvestigation _ _ | .assignInvestigation _ _ => .investigations

inductive Effect (db : Database) : Written → Prop where
  | inserted {table : Table} (row : TypedRow table.columns) : Effect db ⟨table, row, db.append row⟩
  | replaced {table : Table} {id : String} (old row : TypedRow table.columns)
      (only : (db.rows table).filter (fun row => hasId id row.row) = [old]) :
      Effect db ⟨table, row, db.replace id row⟩

section
variable {env : Environment} {currentUser : User} {db : Database} {table untouched : Table} {w : Written}
  {id missing : String}

@[simp] theorem rows_append (row : TypedRow table.columns) :
    (db.append row).rows table = db.rows table ++ [row] := dif_pos rfl

@[simp] theorem rows_replace (row : TypedRow table.columns) :
    (db.replace id row).rows table = (db.rows table).map fun old => if hasId id old.row then row else old :=
  dif_pos rfl

theorem rows_append_other (row : TypedRow table.columns) (differ : table ≠ untouched) :
    (db.append row).rows untouched = db.rows untouched := dif_neg differ

theorem rows_replace_other (row : TypedRow table.columns) (differ : table ≠ untouched) :
    (db.replace id row).rows untouched = db.rows untouched := dif_neg differ

theorem Effect.rows_other (effect : Effect db w) (differ : w.table ≠ untouched) :
    w.database.rows untouched = db.rows untouched := by
  cases effect with
  | inserted row => exact rows_append_other row differ
  | replaced old row only => exact rows_replace_other row differ

theorem accepted_eq_ok {accepted : Bool} {e : Failure} {v w : Written} :
    (if (!accepted) = true then .error e else .ok v : Except Failure Written) = .ok w ↔
      accepted = true ∧ w = v := by
  cases accepted with
  | true => exact ⟨fun h => ⟨rfl, (Except.ok.inj h).symm⟩, fun h => congrArg Except.ok h.2.symm⟩
  | false => exact iff_of_false nofun nofun

theorem insert_eq_ok {kwargs : Row} : insert env db table kwargs = .ok w ↔
    ∃ row, fill table.columns kwargs (table.defaults env.newId env.flushed) = .ok row ∧
      env.takes table row.row = true ∧ w = ⟨table, row, db.append row⟩ := by
  unfold insert
  simp only [failure_bind_eq_ok, raised_eq_ok, accepted_eq_ok]
  rfl

theorem exists_insert_iff {kwargs : Row} (takes : ∀ row, env.takes table row = true) :
    (∃ w, insert env db table kwargs = .ok w) ↔ ∀ c ∈ table.columns,
      c.toColumn.admits ((kwargs ++ table.defaults env.newId env.flushed).lookup c.name).join = true := by
  rw [← exists_fill_iff]
  simp only [insert_eq_ok]
  constructor
  · rintro ⟨w, row, filled, -, -⟩
    exact ⟨row, filled⟩
  · rintro ⟨row, filled⟩
    exact ⟨_, row, filled, takes row.row, rfl⟩

theorem scalarOneOrNone_eq_ok {α : Type} {rows : List α} {row : α} :
    scalarOneOrNone rows = .ok (some row) ↔ rows = [row] := by
  match rows with
  | [] => simp [scalarOneOrNone]
  | [only] => simp [scalarOneOrNone]
  | _ :: _ :: _ => simp [scalarOneOrNone]

theorem update_eq_ok {assignments : TypedRow table.columns → Except Failure Row} :
    update env db table id missing assignments = .ok w ↔
      ∃ old updates row, (db.rows table).filter (fun row => hasId id row.row) = [old] ∧
        assignments old = .ok updates ∧ old.setAll updates = .ok row ∧ env.takes table row.row = true ∧
        w = ⟨table, row, db.replace id row⟩ := by
  unfold update
  rw [failure_bind_eq_ok]
  constructor
  · rintro ⟨selected, one, made⟩
    cases selected with
    | none => cases made
    | some old =>
        simp only [failure_bind_eq_ok, raised_eq_ok, accepted_eq_ok] at made
        obtain ⟨updates, assigned, row, set, taken, rfl⟩ := made
        exact ⟨old, updates, row, scalarOneOrNone_eq_ok.mp one, assigned, set, taken, rfl⟩
  · rintro ⟨old, updates, row, one, assigned, set, taken, rfl⟩
    refine ⟨some old, scalarOneOrNone_eq_ok.mpr one, ?_⟩
    simp only [failure_bind_eq_ok, raised_eq_ok, accepted_eq_ok]
    exact ⟨updates, assigned, row, set, taken, rfl⟩

theorem failure_ok_bind {α β : Type} (x : α) (f : α → Except Failure β) : (Except.ok x >>= f) = f x := rfl

theorem raised_setAll (row : TypedRow table.columns) (name : String) (v : Option Attribute) (updates : Row) :
    raised (row.setAll ((name, v) :: updates)) = (do
      let row ← raised (row.set name v)
      raised (row.setAll updates)) := by
  rw [TypedRow.setAll]
  cases row.set name v <;> rfl

def alertUpdates (received : String) (currentUser : User) (r : AlertUpdateRequest) : Row :=
  [("status", some (.str r.status)), ("acknowledged_by", some (.uuid currentUser.id))] ++
    if r.status = "resolved" then [("resolved_at", some (.datetime received))] else []

theorem updateAlert_eq (r : AlertUpdateRequest) : updateAlert env currentUser db id r =
    update env db .alerts id "Alert not found" fun _ => .ok (alertUpdates env.received currentUser r) := by
  unfold updateAlert update alertUpdates
  refine bind_congr fun selected => ?_
  cases selected with
  | none => rfl
  | some alert =>
      by_cases resolved : r.status = "resolved"
      · simp only [if_pos resolved, List.cons_append, List.nil_append, failure_ok_bind, raised_setAll, bind_assoc]
        rfl
      · simp only [if_neg resolved, List.append_nil, failure_ok_bind, raised_setAll, bind_assoc]
        rfl

theorem effect_of_insert {kwargs : Row} (made : insert env db table kwargs = .ok w) :
    Effect db w ∧ w.table = table := by
  obtain ⟨row, -, -, rfl⟩ := insert_eq_ok.mp made
  exact ⟨.inserted row, rfl⟩

theorem effect_of_update {assignments : TypedRow table.columns → Except Failure Row}
    (made : update env db table id missing assignments = .ok w) : Effect db w ∧ w.table = table := by
  obtain ⟨old, updates, row, only, -, -, -, rfl⟩ := update_eq_ok.mp made
  exact ⟨.replaced old row only, rfl⟩

theorem insert_of_createRemediation {r : RemediationRequest} (made : createRemediation env currentUser db r = .ok w) :
    ∃ deviceId alertId, insert env db .remediationActions [
      ("device_id", some (.uuid deviceId)), ("alert_id", Option.map .uuid alertId),
      ("initiated_by", some (.uuid currentUser.id)), ("action_type", some (.str r.actionType)),
      ("parameters", some (.dict r.parameters)), ("status", some (.str "pending"))] = .ok w := by
  obtain ⟨deviceId, -, made⟩ := failure_bind_eq_ok.mp made
  cases given : r.alertId with
  | none =>
      rw [given] at made
      exact ⟨deviceId, none, made⟩
  | some text =>
      rw [given] at made
      by_cases empty : text = ""
      · simp only [if_pos empty] at made
        exact ⟨deviceId, none, made⟩
      · simp only [if_neg empty] at made
        obtain ⟨alertId, -, made⟩ := failure_bind_eq_ok.mp made
        exact ⟨deviceId, alertId, made⟩

theorem effect_of_write {s : Submission} (made : write env currentUser db s = .ok w) :
    Effect db w ∧ w.table = s.table := by
  cases s with
  | registerDevice r => exact effect_of_insert made
  | createAlert r =>
      obtain ⟨deviceId, -, made⟩ := failure_bind_eq_ok.mp made
      exact effect_of_insert made
  | updateAlert alertId r =>
      rw [write, updateAlert_eq] at made
      exact effect_of_update made
  | createUser r =>
      obtain ⟨existing, -, made⟩ := failure_bind_eq_ok.mp made
      cases existing with
      | some user => cases made
      | none =>
          obtain ⟨passwordHash, -, made⟩ := failure_bind_eq_ok.mp made
          exact effect_of_insert made
  | createRemediation r =>
      obtain ⟨deviceId, alertId, made⟩ := insert_of_createRemediation made
      exact effect_of_insert made
  | createPolicy r => exact effect_of_insert made
  | createInvestigation r => exact effect_of_insert made

theorem effect_of_perform {c : Change} (made : perform env currentUser db c = .ok w) :
    Effect db w ∧ w.table = c.table := by
  cases c with
  | submit s => exact effect_of_write made
  | rollbackAction actionId r => exact effect_of_update made
  | deviceHeartbeat deviceId heartbeat => exact effect_of_update made
  | editInvestigation invId r => exact effect_of_update made
  | assignInvestigation invId assigneeId => exact effect_of_update made

theorem mem_of_only {old : TypedRow table.columns}
    (only : (db.rows table).filter (fun row => hasId id row.row) = [old]) :
    old ∈ db.rows table ∧ hasId id old.row = true := by
  have member : old ∈ (db.rows table).filter fun row => hasId id row.row := only ▸ List.mem_singleton_self old
  exact List.mem_filter.mp member

theorem eq_of_only {old row : TypedRow table.columns}
    (only : (db.rows table).filter (fun row => hasId id row.row) = [old]) (member : row ∈ db.rows table)
    (same : hasId id row.row = true) : row = old := by
  have filtered : row ∈ (db.rows table).filter fun row => hasId id row.row := List.mem_filter.mpr ⟨member, same⟩
  rw [only] at filtered
  exact List.mem_singleton.mp filtered

theorem forall_rows_replace {P : TypedRow table.columns → Prop} {old row : TypedRow table.columns}
    (all : ∀ r ∈ db.rows table, P r)
    (only : (db.rows table).filter (fun row => hasId id row.row) = [old]) :
    (∀ r ∈ (db.replace id row).rows table, P r) ↔ P row := by
  rw [rows_replace]
  constructor
  · intro every
    obtain ⟨member, same⟩ := mem_of_only only
    exact every row (List.mem_map.mpr ⟨old, member, if_pos same⟩)
  · intro changed r member
    obtain ⟨before, among, rfl⟩ := List.mem_map.mp member
    split_ifs
    · exact changed
    · exact all before among

theorem get_of_updates {old row : TypedRow table.columns} {updates : Row}
    (mapped : ∀ update ∈ updates, update.1 ∈ table.columns.map TypedColumn.name)
    (made : old.setAll updates = .ok row) (name : String) :
    row.get name = TypedRow.updated updates name (old.get name) :=
  TypedRow.get_of_setAll (columns_distinct table) (fun update member => List.mem_map.mp (mapped update member)) made name

theorem get_of_insert {kwargs : Row} {row : TypedRow table.columns}
    (made : fill table.columns kwargs (table.defaults env.newId env.flushed) = .ok row) {name : String}
    (column : name ∈ table.columns.map TypedColumn.name) :
    row.get name = ((kwargs ++ table.defaults env.newId env.flushed).lookup name).join := by
  obtain ⟨c, member, rfl⟩ := List.mem_map.mp column
  exact get_of_fill made (columns_distinct table) member

theorem get_of_alertUpdates {r : AlertUpdateRequest} {received : String} {old alert : TypedRow Table.alerts.columns}
    (made : old.setAll (alertUpdates received currentUser r) = .ok alert) (name : String) :
    alert.get name = TypedRow.updated (alertUpdates received currentUser r) name (old.get name) := by
  apply get_of_updates _ made
  intro update member
  unfold alertUpdates at member
  split_ifs at member <;> simp at member <;> rcases member with rfl | rfl | rfl <;> simp [Table.columns]

theorem status_of_alertUpdates {r : AlertUpdateRequest} {received : String} {old alert : TypedRow Table.alerts.columns}
    (made : old.setAll (alertUpdates received currentUser r) = .ok alert) :
    alert.get "status" = some (.str r.status) := by
  rw [get_of_alertUpdates made]
  unfold alertUpdates
  split_ifs <;> simp [TypedRow.updated]

variable {s : Served}

theorem serve_of_responds (responds : s.Responds db w) : db.serve s = w.database := by
  unfold Database.serve
  rw [show perform s.env s.currentUser db s.change = .ok w from responds]

theorem serve_cases (db : Database) (s : Served) :
    db.serve s = db ∧ (∀ w, ¬ s.Responds db w) ∨ ∃ w, s.Responds db w ∧ db.serve s = w.database := by
  cases made : perform s.env s.currentUser db s.change with
  | ok w => exact Or.inr ⟨w, made, serve_of_responds made⟩
  | error e =>
      refine Or.inl ⟨?_, fun w responds => ?_⟩
      · rw [Database.serve, made]
      · rw [Served.Responds, made] at responds
        cases responds

theorem serve_rows_other (differ : s.change.table ≠ untouched) :
    (db.serve s).rows untouched = db.rows untouched := by
  rcases serve_cases db s with ⟨same, -⟩ | ⟨w, responds, after⟩
  · rw [same]
  · obtain ⟨effect, here⟩ := effect_of_perform responds
    rw [after, effect.rows_other (here.trans_ne differ)]

end

def servedStep (db : Database) (s : Served) : Option Database := some (db.serve s)

def Database.empty : Database := ⟨fun _ => []⟩

def servedAt (newId now : String) (change : Change) : Served :=
  ⟨⟨strictRules, .ok, .ok, newId, now, now, fun _ _ => true, true⟩, ⟨"", "", "", "", "", true, none⟩, change⟩

end GuardianPi.Backend.Responses
