import GuardianPi.Backend.IngestTransaction
import GuardianPi.Backend.RowUpdates
import GuardianPi.Library.Counting

namespace GuardianPi.Backend.AlertStats
open GuardianPi.Library GuardianPi.Library.Python GuardianPi.Library.Validation
open Responses (AlertCreate AlertUpdateRequest)

abbrev Alert := Orm.Fields Value

def createArguments (device : String) (r : AlertCreate) : Alert :=
  [("device_id", some (.str device)), ("severity", some (.str r.severity)), ("category", some (.str r.category)),
    ("title", some (.str r.title)), ("description", r.description.map .str), ("evidence", r.evidence.map .obj),
    ("source", r.source.map .str), ("mitre_tactic", r.mitreTactic.map .str),
    ("mitre_technique", r.mitreTechnique.map .str)]

def textIn (column : String) (alert : Alert) : Option String :=
  match alert.lookup column with
  | some (some (.str text)) => some text
  | _ => none

def idOf (alert : Alert) : String := (textIn "id" alert).getD ""

def alertUpdates (now : String) (currentUser : User) (r : AlertUpdateRequest) : List (String × Value) :=
  [("status", .str r.status), ("acknowledged_by", .str currentUser.id)] ++
    if r.status = "resolved" then [("resolved_at", .str now)] else []

def updated (alert : Alert) (updates : List (String × Value)) : Alert :=
  updates.foldl (fun alert update => Orm.setAttribute alert update.1 (some update.2)) alert

section
variable {Datetime : Type} (d : Deployment Datetime)

/-- The row is committed once the handler has reached its response. -/
def createAlert (r : AlertCreate) (store : Store) : Except Failure Unit × Store :=
  match d.services.parseUuid r.deviceId >>= fun device => Orm.construct alertAttributes (createArguments device r) with
  | .error e => (.error (.python e), store)
  | .ok alert => (transact d store [alert]).map raised id

def updateAlert (currentUser : User) (alertId : String) (r : AlertUpdateRequest) (store : Store) :
    Except Failure Unit × Store :=
  match scalarOneOrNone (store.alerts.filter fun alert => idOf alert = alertId) with
  | .error e => (.error e, store)
  | .ok none => (httpException 404 "Alert not found", store)
  | .ok (some alert) =>
      let counted := { store with transactions := store.transactions + 1 }
      if d.flushes store.transactions && d.services.commits store.transactions then
        let alert := updated alert (alertUpdates (d.services.now store.transactions) currentUser r)
        (.ok (), { counted with alerts := store.alerts.map fun row => if idOf row = alertId then alert else row })
      else (.error (.python .unavailable), counted)

end

/-! ## The rows of the typed database -/

def textual : Attribute → Value
  | .str text | .uuid text | .datetime text => .str text
  | .int n => .num (.int n)
  | .bool b => .bool b
  | .dict fields => .obj fields
  | .list items => .arr items

def asTexts (row : Row) : Alert := row.map fun cell => (cell.1, cell.2.map textual)

/-- The inserted row is the one that `Responses.createAlert` writes. -/
theorem createAlert_row {Datetime : Type} {d : Deployment Datetime} {store after : Store} {r : AlertCreate}
    {env : Responses.Environment} {db : Responses.Database} {w : Responses.Written}
    (parse : d.services.parseUuid = env.parseUuid) (newId : d.services.uuid4 store.transactions = env.newId)
    (now : d.services.now store.transactions = env.flushed) (done : createAlert d r store = (.ok (), after))
    (written : Responses.createAlert env db r = .ok w) : after.alerts = store.alerts ++ [asTexts w.row.row] := by
  obtain ⟨device, parsed, inserted⟩ := failure_bind_eq_ok.mp written
  obtain ⟨typed, filled, -, rfl⟩ := Responses.insert_eq_ok.mp inserted
  rw [createAlert, parse, raised_eq_ok.mp parsed] at done
  have constructed : Orm.construct alertAttributes (createArguments device r) = .ok (createArguments device r) := rfl
  simp only [bind, Except.bind, constructed] at done
  cases session : transact d store [createArguments device r] with
  | mk answer after' =>
      rw [session] at done
      obtain ⟨answered, rfl⟩ := Prod.mk.inj done
      obtain rfl := raised_eq_ok.mp answered
      obtain ⟨rows, drawn, alerts⟩ := transact_ok session
      obtain ⟨row, _, made, none, rfl⟩ := List.forall₂_cons_left_iff.mp (mapM_eq_ok.mp drawn)
      obtain rfl := List.forall₂_nil_left_iff.mp none
      have same : row = asTexts typed.row := by
        rw [Orm.fill_eq_ok made, row_of_fill filled, Nat.add_zero, newId, now]
        have text : ∀ s : Option String, (s.map .str : Option Value) = (Responses.text s).map textual :=
          fun s => by cases s <;> rfl
        have dict : ∀ s, (s.map .obj : Option Value) = (Responses.dict s).map textual :=
          fun s => by cases s <;> rfl
        unfold createArguments
        rw [text, text, text, text, dict]
        rfl
      rw [← same]
      exact alerts

theorem setAttribute_asTexts (row : Row) (name : String) (v : Option Attribute) :
    asTexts (Orm.setAttribute row name v) = Orm.setAttribute (asTexts row) name (v.map textual) := by
  unfold asTexts Orm.setAttribute
  rw [List.map_map, List.map_map]
  apply List.map_congr_left
  intro cell _
  dsimp only [Function.comp]
  split_ifs <;> rfl

theorem setAll_asTexts {columns : List TypedColumn} {old new : TypedRow columns} {updates : Row}
    (made : old.setAll updates = .ok new) : asTexts new.row =
      updates.foldl (fun alert update => Orm.setAttribute alert update.1 (update.2.map textual)) (asTexts old.row) := by
  induction updates generalizing old with
  | nil =>
      obtain rfl := Except.ok.inj made
      rfl
  | cons update updates ih =>
      obtain ⟨middle, set, made⟩ := bind_eq_ok.mp made
      rw [ih made, List.foldl_cons, ← setAttribute_asTexts, row_of_set set]

theorem updated_asTexts {old alert : TypedRow Responses.Table.alerts.columns} {now : String} {currentUser : User}
    {r : AlertUpdateRequest} (made : old.setAll (Responses.alertUpdates now currentUser r) = .ok alert) :
    asTexts alert.row = updated (asTexts old.row) (alertUpdates now currentUser r) := by
  rw [setAll_asTexts made]
  unfold Responses.alertUpdates updated alertUpdates
  split_ifs <;> rfl

/-! ## The statistics -/

structure Stats where
  total : Nat
  critical : Nat
  high : Nat
  medium : Nat
  low : Nat
  info : Nat
  openCount : Nat
  resolvedCount : Nat

def getAlertStats (store : Store) : Stats :=
  let count column text := store.alerts.countP fun alert => textIn column alert = some text
  { total := store.alerts.length
    critical := count "severity" "critical"
    high := count "severity" "high"
    medium := count "severity" "medium"
    low := count "severity" "low"
    info := count "severity" "info"
    openCount := count "status" "open"
    resolvedCount := count "status" "resolved" }

/-! ## Sequences of requests -/

inductive Call (Datetime : Type) where
  | createAlert (r : AlertCreate)
  | ingestTelemetry (payload : TelemetryPayload PyNum Datetime)
  | updateAlert (currentUser : User) (alertId : String) (r : AlertUpdateRequest)

structure Book where
  store : Store
  updated : List String

def Book.start (devices : List String) : Book := ⟨⟨devices, [], 0, [], []⟩, []⟩

section
variable {Datetime : Type} (d : Deployment Datetime)

/-- The primary key refuses a transaction that repeats an id. -/
def keyed (before after : Store) : Store :=
  if (after.alerts.map idOf).Nodup then after else { before with transactions := after.transactions }

def Book.call (b : Book) : Call Datetime → Book
  | .createAlert r => { b with store := keyed b.store (createAlert d r b.store).2 }
  | .ingestTelemetry payload => { b with store := keyed b.store (ingestTelemetry d payload b.store).2 }
  | .updateAlert currentUser alertId r =>
      match updateAlert d currentUser alertId r b.store with
      | (.ok _, store) => ⟨store, alertId :: b.updated⟩
      | (.error _, store) => { b with store }

def Book.calls (b : Book) (calls : List (Call Datetime)) : Book := calls.foldl (Book.call d) b

end

def Book.neverUpdated (b : Book) : Nat := b.store.alerts.countP fun alert => idOf alert ∉ b.updated

structure AddsUp (b : Book) : Prop where
  severities : (getAlertStats b.store).total = (getAlertStats b.store).critical + (getAlertStats b.store).high +
    (getAlertStats b.store).medium + (getAlertStats b.store).low + (getAlertStats b.store).info
  statuses : (getAlertStats b.store).openCount + (getAlertStats b.store).resolvedCount ≤ (getAlertStats b.store).total
  opened : (getAlertStats b.store).openCount = b.neverUpdated

/-! ## What the handlers write -/

def severities : List String := ["critical", "high", "medium", "low", "info"]

def statuses : List String := ["open", "acknowledged", "resolved", "false_positive"]

structure Opened (alert : Alert) : Prop where
  severity : ∃ s ∈ severities, textIn "severity" alert = some s
  status : textIn "status" alert = some "open"

structure Opens (kwargs : Alert) : Prop where
  severity : ∃ s ∈ severities, kwargs.lookup "severity" = some (some (.str s))
  status : kwargs.lookup "status" = none

def Appends (before after : Store) : Prop :=
  ∃ rows, after.alerts = before.alerts ++ rows ∧ ∀ row ∈ rows, Opened row

theorem appends_of_same {before after : Store} (same : after.alerts = before.alerts) : Appends before after :=
  ⟨[], same.trans (List.append_nil _).symm, List.forall_mem_nil _⟩

theorem opens_createArguments (device : String) (r : AlertCreate) : Opens (createArguments device r) :=
  ⟨⟨r.severity, r.known, rfl⟩, rfl⟩

theorem opens_alertRow (device : String) {fields : List (String × Value)} (bad : isSevere fields = true) :
    Opens (alertRow device fields) := by
  refine ⟨?_, rfl⟩
  have value : (alertRow device fields).lookup "severity" =
      some (cell ((Json.lookup "severity" fields).getD .null)) := rfl
  rcases severe_cases bad with same | same | same <;> rw [value, same]
  · exact ⟨"critical", by decide, rfl⟩
  · exact ⟨"high", by decide, rfl⟩
  · exact ⟨"medium", by decide, rfl⟩

theorem opened_of_fill {id createdAt : String} {kwargs row : Alert} (opens : Opens kwargs)
    (filled : Orm.fill (alertColumns id createdAt) kwargs = .ok row) : Opened row := by
  have severity : textColumn "severity" (some 50) false none ∈ alertColumns id createdAt := by simp [alertColumns]
  have status : textColumn "status" (some 50) false (some (.str "open")) ∈ alertColumns id createdAt := by
    simp [alertColumns]
  obtain ⟨s, known, given⟩ := opens.severity
  constructor
  · refine ⟨s, known, ?_⟩
    rw [textIn, lookup_fill_textColumn severity filled, given]
    rfl
  · rw [textIn, lookup_fill_textColumn status filled, opens.status]
    rfl

section
variable {Datetime : Type} {d : Deployment Datetime} {store : Store}

theorem appends_transact {pending : List Alert} (opens : ∀ kwargs ∈ pending, Opens kwargs) :
    Appends store (transact d store pending).2 := by
  cases done : transact d store pending with
  | mk answer after =>
      cases answer with
      | error e => exact appends_of_same (transact_error done)
      | ok u =>
          obtain ⟨rows, filled, alerts⟩ := transact_ok done
          refine ⟨rows, alerts, ?_⟩
          intro row member
          obtain ⟨p, among, made⟩ := exists_of_mem_mapM filled member
          exact opened_of_fill (opens p.1 (List.fst_mem_of_mem_zipIdx among)) made

theorem appends_createAlert (r : AlertCreate) : Appends store (createAlert d r store).2 := by
  unfold createAlert
  cases made : d.services.parseUuid r.deviceId >>= fun device =>
      Orm.construct alertAttributes (createArguments device r) with
  | error e => exact appends_of_same rfl
  | ok alert =>
      obtain ⟨device, -, constructed⟩ := bind_eq_ok.mp made
      unfold Orm.construct at constructed
      split_ifs at constructed
      obtain rfl := Except.ok.inj constructed
      apply appends_transact
      rw [List.forall_mem_singleton]
      exact opens_createArguments device r

theorem opens_of_pendingAlerts {deviceId : String} {data : Value} {processed : Nat} {pending : List Alert}
    (made : pendingAlerts d deviceId data = .ok (processed, pending)) : ∀ kwargs ∈ pending, Opens kwargs := by
  obtain ⟨events, -, made⟩ := bind_eq_ok.mp made
  obtain ⟨items, -, made⟩ := bind_eq_ok.mp made
  obtain ⟨alerts, each, made⟩ := bind_eq_ok.mp made
  obtain ⟨-, rfl⟩ := Prod.mk.inj (Except.ok.inj made)
  intro kwargs member
  obtain ⟨event, -, made⟩ := exists_of_mem_mapM each (List.reduceOption_mem_iff.mp member)
  cases event with
  | obj fields =>
      rw [eventAlert_obj] at made
      split_ifs at made with bad
      · cases uuid : d.services.parseUuid deviceId with
        | error e =>
            rw [uuid] at made
            cases made
        | ok device =>
            rw [uuid] at made
            obtain rfl := Option.some.inj (Except.ok.inj made)
            exact opens_alertRow device bad
      · cases made
  | _ => cases made

theorem appends_ingestTelemetry (payload : TelemetryPayload PyNum Datetime) :
    Appends store (ingestTelemetry d payload store).2 := by
  unfold ingestTelemetry
  cases payloadData d payload with
  | error response => exact appends_of_same rfl
  | ok data =>
      cases made : pendingAlerts d payload.deviceId data with
      | error e =>
          simp only [made]
          exact appends_of_same rfl
      | ok result =>
          have appends : Appends store (transact d store result.2).2 :=
            appends_transact (opens_of_pendingAlerts made)
          simp only [made]
          cases done : transact d store result.2 with
          | mk answer after =>
              rw [done] at appends
              cases answer <;> exact appends

end

theorem textIn_setAttribute (alert : Alert) (name column text : String) :
    textIn column (Orm.setAttribute alert name (some (.str text))) =
      if column = name then (alert.lookup name).map fun _ => text else textIn column alert := by
  unfold textIn
  rw [Orm.lookup_setAttribute]
  split_ifs with same
  · cases alert.lookup name <;> rfl
  · rfl

theorem textIn_updated (alert : Alert) (now : String) (currentUser : User) (r : AlertUpdateRequest) {column : String}
    (other : column ≠ "acknowledged_by" ∧ column ≠ "resolved_at") :
    textIn column (updated alert (alertUpdates now currentUser r)) =
      if column = "status" then (alert.lookup "status").map fun _ => r.status else textIn column alert := by
  unfold updated alertUpdates
  by_cases resolved : r.status = "resolved"
  · simp [resolved, textIn_setAttribute, other]
  · simp [resolved, textIn_setAttribute, other]

/-! ## Every state that is reached -/

structure Known (ids : List String) (alert : Alert) : Prop where
  severity : ∃ s ∈ severities, textIn "severity" alert = some s
  status : ∃ s ∈ statuses, textIn "status" alert = some s ∧ (s = "open" ↔ idOf alert ∉ ids)

structure Book.Sound (b : Book) : Prop where
  known : ∀ alert ∈ b.store.alerts, Known b.updated alert
  distinct : (b.store.alerts.map idOf).Nodup
  stored : ∀ id ∈ b.updated, id ∈ b.store.alerts.map idOf

theorem sound_start (devices : List String) : (Book.start devices).Sound :=
  ⟨List.forall_mem_nil _, List.nodup_nil, List.forall_mem_nil _⟩

theorem sound_keyed {b : Book} (sound : b.Sound) {after : Store} (appends : Appends b.store after) :
    Book.Sound { b with store := keyed b.store after } := by
  obtain ⟨rows, alerts, opened⟩ := appends
  unfold keyed
  split_ifs with distinct
  · refine ⟨?_, distinct, ?_⟩
    · dsimp only
      rw [alerts] at distinct ⊢
      rw [List.map_append, List.nodup_append] at distinct
      rw [List.forall_mem_append]
      refine ⟨sound.known, fun row member => ?_⟩
      refine ⟨(opened row member).severity, "open", by decide, (opened row member).status, ?_⟩
      refine iff_of_true rfl fun touched => ?_
      -- the id of an alert that was updated is taken
      exact distinct.2.2 _ (sound.stored _ touched) _ (List.mem_map_of_mem member) rfl
    · intro id touched
      dsimp only
      rw [alerts, List.map_append]
      exact List.mem_append_left _ (sound.stored id touched)
  · exact ⟨sound.known, sound.distinct, sound.stored⟩

theorem sound_of_alerts {b : Book} (sound : b.Sound) {store : Store} (same : store.alerts = b.store.alerts) :
    Book.Sound { b with store } := by
  refine ⟨?_, ?_, ?_⟩
  · rw [same]
    exact sound.known
  · rw [same]
    exact sound.distinct
  · rw [same]
    exact sound.stored

theorem known_other {ids : List String} {alert : Alert} {id : String} (known : Known ids alert)
    (other : idOf alert ≠ id) : Known (id :: ids) alert := by
  obtain ⟨s, member, status, iff⟩ := known.status
  refine ⟨known.severity, s, member, status, iff.trans ?_⟩
  simp [other]

theorem status_ne_open (r : AlertUpdateRequest) : r.status ≠ "open" := by
  intro opened
  have known := r.known
  rw [opened] at known
  exact absurd known (by decide)

theorem known_updated {ids : List String} {alert : Alert} {id : String} (known : Known ids alert)
    (this : idOf alert = id) (now : String) (currentUser : User) (r : AlertUpdateRequest) :
    idOf (updated alert (alertUpdates now currentUser r)) = id ∧
      Known (id :: ids) (updated alert (alertUpdates now currentUser r)) := by
  have read : ∀ {column : String}, _ := @textIn_updated alert now currentUser r
  have same : idOf (updated alert (alertUpdates now currentUser r)) = id := by
    rw [← this, idOf, read (by decide)]
    rfl
  obtain ⟨s, -, status, -⟩ := known.status
  obtain ⟨severity, member, given⟩ := known.severity
  refine ⟨same, ⟨severity, member, (read (by decide)).trans given⟩, r.status, ?_, ?_, ?_⟩
  · exact List.mem_cons_of_mem "open" r.known
  · rw [read (by decide), if_pos rfl]
    cases found : alert.lookup "status" with
    | none =>
        rw [textIn, found] at status
        cases status
    | some v => rfl
  · rw [same]
    exact iff_of_false (status_ne_open r) (not_not_intro List.mem_cons_self)

section
variable {Datetime : Type} {d : Deployment Datetime}

theorem updateAlert_cases (currentUser : User) (alertId : String) (r : AlertUpdateRequest) (store : Store) :
    (∃ e after, updateAlert d currentUser alertId r store = (.error e, after) ∧ after.alerts = store.alerts) ∨
      ∃ alert after now, updateAlert d currentUser alertId r store = (.ok (), after) ∧
        alert ∈ store.alerts ∧ idOf alert = alertId ∧ after.alerts = store.alerts.map fun row =>
          if idOf row = alertId then updated alert (alertUpdates now currentUser r) else row := by
  have selected {alert : Alert} (only : store.alerts.filter (fun alert => idOf alert = alertId) = [alert]) :
      alert ∈ store.alerts ∧ idOf alert = alertId := by
    have member := List.mem_singleton_self alert
    rw [← only] at member
    exact (List.mem_filter.mp member).imp_right of_decide_eq_true
  unfold updateAlert
  generalize store.alerts.filter (fun alert => idOf alert = alertId) = found at selected ⊢
  match found with
  | [] => exact Or.inl ⟨_, store, rfl, rfl⟩
  | _ :: _ :: _ => exact Or.inl ⟨_, store, rfl, rfl⟩
  | [alert] =>
      obtain ⟨member, here⟩ := selected rfl
      dsimp only [scalarOneOrNone]
      split_ifs
      · exact Or.inr ⟨alert, _, _, rfl, member, here, rfl⟩
      · exact Or.inl ⟨_, _, rfl, rfl⟩

theorem sound_updateAlert {b : Book} (sound : b.Sound) (currentUser : User) (alertId : String)
    (r : AlertUpdateRequest) : (b.call d (.updateAlert currentUser alertId r)).Sound := by
  rw [Book.call]
  rcases updateAlert_cases (d := d) currentUser alertId r b.store with
    ⟨e, after, answer, same⟩ | ⟨alert, after, now, answer, member, here, alerts⟩
  · rw [answer]
    exact sound_of_alerts sound same
  · rw [answer]
    obtain ⟨kept, changed⟩ := known_updated (sound.known alert member) here now currentUser r
    have ids : after.alerts.map idOf = b.store.alerts.map idOf := by
      rw [alerts, List.map_map]
      refine List.map_congr_left fun row _ => ?_
      dsimp only [Function.comp]
      split_ifs with this
      · rw [kept, this]
      · rfl
    constructor
    case known =>
      dsimp only
      rw [alerts, List.forall_mem_map]
      intro row among
      split_ifs with this
      · exact changed
      · exact known_other (sound.known row among) this
    case distinct =>
      dsimp only
      rw [ids]
      exact sound.distinct
    case stored =>
      dsimp only
      rw [List.forall_mem_cons, ids]
      exact ⟨here ▸ List.mem_map_of_mem member, sound.stored⟩

theorem sound_call {b : Book} (sound : b.Sound) (c : Call Datetime) : (b.call d c).Sound := by
  cases c with
  | createAlert r => exact sound_keyed sound (appends_createAlert r)
  | ingestTelemetry payload => exact sound_keyed sound (appends_ingestTelemetry payload)
  | updateAlert currentUser alertId r => exact sound_updateAlert sound currentUser alertId r

theorem sound_calls {b : Book} (sound : b.Sound) (calls : List (Call Datetime)) : (b.calls d calls).Sound := by
  induction calls generalizing b with
  | nil => exact sound
  | cons c calls ih => exact ih (sound_call sound c)

end

theorem addsUp_of_sound {b : Book} (sound : b.Sound) : AddsUp b := by
  constructor
  case severities =>
    have listed : ∀ alert ∈ b.store.alerts, textIn "severity" alert ∈ severities.map some := by
      intro alert member
      obtain ⟨s, known, read⟩ := (sound.known alert member).severity
      rw [read]
      exact List.mem_map_of_mem known
    have sum := sum_countP_eq_length (textIn "severity") (by decide) listed
    simp only [severities, List.map_cons, List.map_nil, List.sum_cons, List.sum_nil] at sum
    unfold getAlertStats
    dsimp only
    omega
  case statuses =>
    apply countP_add_countP_le
    intro alert opened
    rw [of_decide_eq_true opened]
    decide
  case opened =>
    refine List.countP_congr fun alert member => ?_
    obtain ⟨s, -, status, iff⟩ := (sound.known alert member).status
    rw [status, decide_eq_true_iff, decide_eq_true_iff, Option.some.injEq, iff]

theorem stats_add_up {Datetime : Type} (d : Deployment Datetime) (devices : List String)
    (calls : List (Call Datetime)) : AddsUp ((Book.start devices).calls d calls) :=
  addsUp_of_sound (sound_calls (sound_start devices) calls)

end GuardianPi.Backend.AlertStats
