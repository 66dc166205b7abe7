import GuardianPi.Backend.AlertStore
import GuardianPi.Backend.Schemas
import GuardianPi.Library.Encodings
import Mathlib.Data.List.ReduceOption

namespace GuardianPi.Backend
open GuardianPi.Library GuardianPi.Library.Python

inductive Environment where
  | development
  | staging
  | production
  deriving DecidableEq

structure Settings where
  environment : Environment
  telemetryEncryptionKey : Option String

def Settings.isDevelopment (settings : Settings) : Bool := settings.environment = .development

inductive DecryptError where
  | python (e : PyError)
  | invalidTag

/-- A running server: its settings, the packages it calls (`number` and `datetime` read a number and
a date-time, `describe` writes an exception), and whether the database takes each transaction. -/
structure Deployment (Datetime : Type) where
  settings : Settings
  services : Services
  flushes : Nat → Bool
  aes : AESGCM
  number : Literal → PyNum
  datetime : Value → Option Datetime
  describe : DecryptError → String

inductive Response where
  | accepted (content : Value)
  | refused (code : Nat) (detail : String)
  | invalid
  | failed

def Response.status : Response → Nat
  | .accepted _ => 202
  | .refused code _ => code
  | .invalid => 422
  | .failed => 500

def Deployment.loads {Datetime : Type} (d : Deployment Datetime) (text : List UInt8) : Option Value :=
  (Json.loadsBytes text).map (Json.map d.number)

section
variable {Datetime : Type} (d : Deployment Datetime)

def decryptPayload (encryptedData nonce tag : String) : Except DecryptError Value :=
  let bytes : Except PyError _ := do
    let key ← match d.settings.telemetryEncryptionKey with
      | some key => b64decode key
      | none => .error .typeError
    let nonceBytes ← b64decode nonce
    let ct ← b64decode encryptedData
    let tagBytes ← b64decode tag
    if acceptsKey key then .ok (key, nonceBytes, ct ++ tagBytes) else .error .valueError
  match bytes with
  | .error e => .error (.python e)
  | .ok (key, nonceBytes, ciphertext) =>
      match d.aes.decrypt key nonceBytes ciphertext with
      | none => .error .invalidTag
      | some text =>
          match d.loads text with
          | none => .error (.python .decodeError)
          | some data => .ok data

def present (s : Option String) : Option String := s.filter fun text => text ≠ ""

def payloadData (payload : TelemetryPayload PyNum Datetime) : Except Response Value :=
  match present payload.encryptedData, present payload.nonce, present payload.tag with
  | some encryptedData, some nonce, some tag =>
      match decryptPayload d encryptedData nonce tag with
      | .ok data => .ok data
      | .error e => .error (.refused 400 ("Decryption failed: " ++ d.describe e))
  | _, _, _ =>
      match payload.data with
      | some (field :: fields) =>
          if d.settings.isDevelopment then .ok (.obj (field :: fields))
          else .error (.refused 400 "Encrypted payload required")
      | _ => .error (.refused 400 "Encrypted payload required")

/-! ## The alerts of a payload -/

def severe (severity : Value) : Bool :=
  severity.isStr "critical" || severity.isStr "high" || severity.isStr "medium"

def alarming (severity : String) : Bool := severe (.str severity)

def telemetryArguments (device : String) (event : Value) : Except PyError (Orm.Fields Value) := do
  let severity ← Value.get event "severity" .null
  let category ← Value.get event "event_type" (.str "telemetry")
  let title ← Value.get event "title" (.str "Telemetry Alert")
  let description ← Value.get event "description" .null
  let evidence ← Value.get event "details" .null
  return [("device_id", some (.str device)), ("severity", cell severity), ("category", cell category),
    ("title", cell title), ("description", cell description), ("evidence", cell evidence),
    ("source", some (.str "agent_telemetry"))]

def eventAlert (deviceId : String) (event : Value) : Except PyError (Option (Orm.Fields Value)) := do
  let severity ← Value.get event "severity" .null
  if severe severity then
    let device ← d.services.parseUuid deviceId
    let arguments ← telemetryArguments device event
    let alert ← Orm.construct alertAttributes arguments
    return some alert
  else return none

def pendingAlerts (deviceId : String) (data : Value) :
    Except PyError (Nat × List (Orm.Fields Value)) := do
  let events ← Value.get data "events" (.arr [])
  let items ← events.iterate
  let alerts ← items.mapM (eventAlert d deviceId)
  return (items.length, alerts.reduceOption)

/-! ## The transaction -/

def fillAlerts (store : Store) (pending : List (Orm.Fields Value)) :
    Except PyError (List (Orm.Fields Value)) :=
  pending.zipIdx.mapM fun p => Orm.fill (alertColumns (d.services.uuid4 (store.transactions + p.2))
    (d.services.now (store.transactions + p.2))) p.1

def flush (store : Store) (pending : List (Orm.Fields Value)) :
    Except PyError (List (Orm.Fields Value)) :=
  (fillAlerts d store pending).bind fun rows =>
    if rows.all (referencesDevice store) = false then .error .integrityError
    else if rows.isEmpty || d.flushes store.transactions then .ok rows
    else .error .unavailable

/-- The flush of the handler and the commit of `get_db`; a session without alerts sends nothing. -/
def transact (store : Store) (pending : List (Orm.Fields Value)) : Except PyError Unit × Store :=
  let counted := { store with transactions := store.transactions + pending.length }
  match flush d store pending with
  | .error e => (.error e, counted)
  | .ok rows =>
      if rows.isEmpty || d.services.commits store.transactions then
        (.ok (), { counted with alerts := store.alerts ++ rows })
      else (.error .unavailable, counted)

def acceptedContent (processed created : Nat) : Value :=
  .obj [("status", .str "accepted"), ("events_processed", .num (.int processed)),
    ("alerts_created", .num (.int created))]

def ingestTelemetry (payload : TelemetryPayload PyNum Datetime) (store : Store) : Response × Store :=
  match payloadData d payload with
  | .error response => (response, store)
  | .ok data =>
      match pendingAlerts d payload.deviceId data with
      | .error _ => (.failed, store)
      | .ok (processed, pending) =>
          match transact d store pending with
          | (.ok _, store) => (.accepted (acceptedContent processed pending.length), store)
          | (.error _, store) => (.failed, store)

/-- What FastAPI answers to a body that is no text, or none that the schema takes. -/
def unreadableBody (body : List UInt8) : Response :=
  if (Json.decodeUtf8 body).isSome then .invalid else .refused 400 "There was an error parsing the body"

def postTelemetry (body : List UInt8) (store : Store) : Response × Store :=
  match (d.loads body).bind (TelemetryPayload.validate d.datetime) with
  | none => (unreadableBody body, store)
  | some payload => ingestTelemetry d payload store

end

theorem le_status_unreadableBody (body : List UInt8) : 400 ≤ (unreadableBody body).status := by
  unfold unreadableBody
  split_ifs <;> decide

/-! ## Events that are objects -/

def isSevere (fields : List (String × Value)) : Bool :=
  severe ((Json.lookup "severity" fields).getD .null)

def alertRow (device : String) (fields : List (String × Value)) : Orm.Fields Value :=
  [("device_id", some (.str device)), ("severity", cell ((Json.lookup "severity" fields).getD .null)),
    ("category", cell ((Json.lookup "event_type" fields).getD (.str "telemetry"))),
    ("title", cell ((Json.lookup "title" fields).getD (.str "Telemetry Alert"))),
    ("description", cell ((Json.lookup "description" fields).getD .null)),
    ("evidence", cell ((Json.lookup "details" fields).getD .null)),
    ("source", some (.str "agent_telemetry"))]

theorem construct_alertRow (device : String) (fields : List (String × Value)) :
    Orm.construct alertAttributes (alertRow device fields) = .ok (alertRow device fields) := by
  have names : (alertRow device fields).map Prod.fst = ["device_id", "severity", "category", "title",
    "description", "evidence", "source"] := rfl
  have mapped : ∀ name ∈ (alertRow device fields).map Prod.fst, name ∈ alertAttributes := by
    rw [names]
    decide
  apply if_pos
  intro kw member
  exact mapped kw.1 (List.mem_map_of_mem member)

section
variable {Datetime : Type} (d : Deployment Datetime)

theorem eventAlert_obj (deviceId : String) (fields : List (String × Value)) :
    eventAlert d deviceId (.obj fields) =
      if isSevere fields then (d.services.parseUuid deviceId).map fun device => some (alertRow device fields)
      else .ok none := by
  unfold eventAlert
  simp only [Value.get, ok_bind]
  change (if isSevere fields then _ else _) = _
  split_ifs
  · cases d.services.parseUuid deviceId with
    | error e => rfl
    | ok device =>
        change (Orm.construct alertAttributes (alertRow device fields) >>= fun alert =>
          pure (some alert)) = _
        rw [construct_alertRow]
        rfl
  · rfl

def eventsData (events : List (List (String × Value))) : Value :=
  .obj [("events", .arr (events.map .obj))]

theorem pendingAlerts_eventsData (deviceId : String) (events : List (List (String × Value))) :
    pendingAlerts d deviceId (eventsData events) =
      (events.mapM fun fields => eventAlert d deviceId (.obj fields)).map fun alerts =>
        (events.length, alerts.reduceOption) := by
  have items : Value.get (eventsData events) "events" (.arr []) = .ok (.arr (events.map .obj)) := rfl
  have mapped : (events.map Json.obj).mapM (eventAlert d deviceId) =
      events.mapM fun fields => eventAlert d deviceId (.obj fields) := by
    rw [List.mapM_map]
    rfl
  simp only [pendingAlerts, items, ok_bind, Value.iterate, mapped, List.length_map]
  cases events.mapM fun fields => eventAlert d deviceId (.obj fields) <;> rfl

theorem pendingAlerts_of_calm (deviceId : String) {events : List (List (String × Value))}
    (calm : ∀ fields ∈ events, isSevere fields = false) :
    pendingAlerts d deviceId (eventsData events) = .ok (events.length, []) := by
  have each : (events.mapM fun fields => eventAlert d deviceId (.obj fields)) =
      .ok (events.map fun _ => none) := by
    apply mapM_eq_ok_map
    intro fields member
    rw [eventAlert_obj, calm fields member]
    rfl
  rw [pendingAlerts_eventsData, each]
  have none : (events.map fun _ => (none : Option (Orm.Fields Value))).reduceOption = [] := by
    simp [List.reduceOption]
  simp only [Except.map, none]

omit d in
theorem reduceOption_map_ite {α β : Type} (p : α → Bool) (f : α → β) (xs : List α) :
    (xs.map fun x => if p x then some (f x) else none).reduceOption = (xs.filter p).map f := by
  induction xs with
  | nil => rfl
  | cons x xs ih => cases kept : p x <;> simp [kept, ih]

theorem pendingAlerts_of_uuid {deviceId device : String}
    (uuid : d.services.parseUuid deviceId = .ok device) (events : List (List (String × Value))) :
    pendingAlerts d deviceId (eventsData events) =
      .ok (events.length, (events.filter isSevere).map (alertRow device)) := by
  have each : (events.mapM fun fields => eventAlert d deviceId (.obj fields)) =
      .ok (events.map fun fields => if isSevere fields then some (alertRow device fields) else none) := by
    apply mapM_eq_ok_map
    intro fields _
    rw [eventAlert_obj, uuid]
    split_ifs <;> rfl
  rw [pendingAlerts_eventsData, each]
  simp only [Except.map, reduceOption_map_ite]

theorem pendingAlerts_of_not_uuid {deviceId : String} {e : PyError}
    (malformed : d.services.parseUuid deviceId = .error e) {events : List (List (String × Value))}
    {fields : List (String × Value)} (member : fields ∈ events) (bad : isSevere fields = true) :
    ∀ r, pendingAlerts d deviceId (eventsData events) ≠ .ok r := by
  intro r accepted
  rw [pendingAlerts_eventsData] at accepted
  cases each : events.mapM fun fields => eventAlert d deviceId (.obj fields) with
  | error e =>
      rw [each] at accepted
      cases accepted
  | ok alerts =>
      obtain ⟨alert, here⟩ := exists_mapM_eq_ok.mp ⟨alerts, each⟩ fields member
      rw [eventAlert_obj, bad, malformed] at here
      cases here

/-! ## What the database takes -/

def fits (fields : List (String × Value)) : Bool :=
  let description := (Json.lookup "description" fields).getD .null
  acceptsText (some 100) ((Json.lookup "event_type" fields).getD (.str "telemetry")) &&
    acceptsText (some 500) ((Json.lookup "title" fields).getD (.str "Telemetry Alert")) &&
    ((cell description).isNone || acceptsText none description)

theorem severe_cases {severity : Value} (h : severe severity = true) :
    severity = .str "critical" ∨ severity = .str "high" ∨ severity = .str "medium" := by
  cases severity <;> simp_all [severe, Value.isStr, or_assoc]

theorem alertColumns_names (id createdAt : String) :
    ((alertColumns id createdAt).map Orm.Column.name).Nodup := by
  have names : (alertColumns id createdAt).map Orm.Column.name =
      (alertColumns "" "").map Orm.Column.name := rfl
  rw [names]
  decide

section
variable (name : String) (length : Option Nat) (nullable : Bool) (default : Option Value)

@[simp] theorem textColumn_name : (textColumn name length nullable default).name = name := rfl

@[simp] theorem textColumn_default : (textColumn name length nullable default).default = default := rfl

variable {name length nullable default} in
theorem lookup_fill_textColumn {id createdAt : String} {kwargs row : Orm.Fields Value}
    (column : textColumn name length nullable default ∈ alertColumns id createdAt)
    (filled : Orm.fill (alertColumns id createdAt) kwargs = .ok row) :
    row.lookup name = some ((kwargs.lookup name).getD default) :=
  Orm.lookup_fill filled column (alertColumns_names id createdAt)

@[simp] theorem textColumn_admits_none :
    (textColumn name length nullable default).admits none = nullable := rfl

@[simp] theorem textColumn_admits_str (text : String) :
    (textColumn name length nullable default).admits (some (.str text)) =
      length.all fun n => text.length ≤ n := rfl

@[simp] theorem textColumn_admits_cell (v : Value) :
    (textColumn name length false default).admits (cell v) = acceptsText length v := by
  cases v <;> rfl

@[simp] theorem textColumn_admits_optional (v : Value) :
    (textColumn name length true default).admits (cell v) =
      ((cell v).isNone || acceptsText length v) := by
  cases v <;> rfl

end

@[simp] theorem admits_any (name : String) (v : Option Value) :
    Orm.Column.admits ⟨name, fun _ => true, true, none⟩ v = true := by
  cases v <;> rfl

theorem fill_alertRow_iff (id createdAt device : String) {fields : List (String × Value)}
    (bad : isSevere fields = true) :
    (∃ row, Orm.fill (alertColumns id createdAt) (alertRow device fields) = .ok row) ↔
      fits fields = true := by
  have severity : acceptsText (some 50) ((Json.lookup "severity" fields).getD .null) = true := by
    rcases severe_cases bad with h | h | h
    all_goals
      rw [h]
      rfl
  rw [Orm.exists_fill_iff]
  simp [alertColumns, alertRow, List.lookup_cons, severity, fits, and_assoc]
  exact fun _ _ _ => by decide

theorem referencesDevice_of_fill {id createdAt device : String} {fields : List (String × Value)}
    {row : Orm.Fields Value}
    (filled : Orm.fill (alertColumns id createdAt) (alertRow device fields) = .ok row) (store : Store) :
    referencesDevice store row = decide (device ∈ store.devices) := by
  have column : textColumn "device_id" none false none ∈ alertColumns id createdAt := by
    simp [alertColumns]
  rw [referencesDevice, lookup_fill_textColumn column filled]
  rfl

variable {device : String} {events : List (List (String × Value))}

theorem exists_fillAlerts_iff (store : Store) (bad : ∀ fields ∈ events, isSevere fields = true) :
    (∃ rows, fillAlerts d store (events.map (alertRow device)) = .ok rows) ↔
      ∀ fields ∈ events, fits fields = true := by
  rw [fillAlerts, exists_mapM_eq_ok, List.zipIdx_map, List.forall_mem_map]
  have each : ∀ p ∈ events.zipIdx, (∃ row, Orm.fill
      (alertColumns (d.services.uuid4 (store.transactions + p.2))
        (d.services.now (store.transactions + p.2))) (alertRow device p.1) = .ok row) ↔
      fits p.1 = true := by
    intro p member
    apply fill_alertRow_iff
    exact bad p.1 (List.fst_mem_of_mem_zipIdx member)
  have both : (∀ p ∈ events.zipIdx, fits p.1 = true) ↔ ∀ fields ∈ events, fits fields = true := by
    rw [← List.forall_mem_map (P := fun fields => fits fields = true), List.zipIdx_map_fst]
  rw [← both]
  exact forall₂_congr each

theorem length_fillAlerts {store : Store} {pending rows : List (Orm.Fields Value)}
    (filled : fillAlerts d store pending = .ok rows) : rows.length = pending.length := by
  rw [← (mapM_eq_ok.mp filled).length_eq, List.length_zipIdx]

theorem references_of_fillAlerts {store : Store} {rows : List (Orm.Fields Value)}
    (filled : fillAlerts d store (events.map (alertRow device)) = .ok rows) :
    ∀ row ∈ rows, referencesDevice store row = decide (device ∈ store.devices) := by
  intro row member
  obtain ⟨p, among, made⟩ := exists_of_mem_mapM filled member
  obtain ⟨fields, -, same⟩ := List.mem_map.mp (List.fst_mem_of_mem_zipIdx among)
  rw [← same] at made
  exact referencesDevice_of_fill made store

theorem transact_nil (store : Store) : transact d store [] = (.ok (), store) := by
  have filled : fillAlerts d store [] = .ok [] := rfl
  simp [transact, flush, filled, Except.bind]

theorem transact_eq_ok {store : Store} {pending rows : List (Orm.Fields Value)}
    (filled : fillAlerts d store pending = .ok rows) : (transact d store pending).1 = .ok () ↔
      (∀ row ∈ rows, referencesDevice store row = true) ∧ (rows = [] ∨
        d.flushes store.transactions = true ∧ d.services.commits store.transactions = true) := by
  simp only [transact, flush, filled, Except.bind, ← List.all_eq_true]
  cases references : rows.all (referencesDevice store) with
  | false => simp
  | true =>
      cases rows with
      | nil => simp
      | cons row rows =>
          cases flushed : d.flushes store.transactions with
          | false => simp
          | true => cases d.services.commits store.transactions <;> simp

theorem transact_eq_error {store : Store} {pending : List (Orm.Fields Value)} {e : PyError}
    (refused : fillAlerts d store pending = .error e) :
    (transact d store pending).1 = .error e := by
  simp [transact, flush, refused, Except.bind]

theorem transact_iff {store : Store} (bad : ∀ fields ∈ events, isSevere fields = true)
    (some : events ≠ []) :
    (transact d store (events.map (alertRow device))).1 = .ok () ↔
      (∀ fields ∈ events, fits fields = true) ∧ device ∈ store.devices ∧
        d.flushes store.transactions = true ∧ d.services.commits store.transactions = true := by
  rw [← exists_fillAlerts_iff d store bad]
  cases filled : fillAlerts d store (events.map (alertRow device)) with
  | error e => simp [transact_eq_error d filled]
  | ok rows =>
      have length := length_fillAlerts d filled
      have references := references_of_fillAlerts d filled
      have filledRows : rows ≠ [] := by
        rintro rfl
        rw [List.length_map] at length
        exact some (List.length_eq_zero_iff.mp length.symm)
      have all : (∀ row ∈ rows, referencesDevice store row = true) ↔ device ∈ store.devices := by
        obtain ⟨row, member⟩ := List.exists_mem_of_ne_nil rows filledRows
        constructor
        · intro h
          simpa [references row member] using h row member
        · intro registered r member
          rw [references r member, decide_eq_true registered]
      rw [transact_eq_ok d filled, all]
      simp [filledRows]

/-! ## The answer -/

theorem payloadData_plain (deviceId : String) (timestamp : Datetime) :
    payloadData d ⟨deviceId, timestamp, none, some [("events", .arr (events.map .obj))], none, none⟩ =
      if d.settings.isDevelopment then .ok (eventsData events)
      else .error (.refused 400 "Encrypted payload required") := by
  simp [payloadData, present, eventsData]

theorem ingestTelemetry_calm {payload : TelemetryPayload PyNum Datetime}
    (data : payloadData d payload = .ok (eventsData events))
    (calm : ∀ fields ∈ events, isSevere fields = false) (store : Store) :
    ingestTelemetry d payload store = (.accepted (acceptedContent events.length 0), store) := by
  simp only [ingestTelemetry, data, pendingAlerts_of_calm d payload.deviceId calm, transact_nil,
    List.length_nil]

theorem ingestTelemetry_not_uuid {payload : TelemetryPayload PyNum Datetime}
    (data : payloadData d payload = .ok (eventsData events)) {e : PyError}
    (malformed : d.services.parseUuid payload.deviceId = .error e)
    {fields : List (String × Value)} (member : fields ∈ events) (bad : isSevere fields = true)
    (store : Store) : ingestTelemetry d payload store = (.failed, store) := by
  have refused := pendingAlerts_of_not_uuid d malformed member bad
  cases pending : pendingAlerts d payload.deviceId (eventsData events) with
  | error e => simp only [ingestTelemetry, data, pending]
  | ok r => exact absurd pending (refused r)

def Admits (store : Store) (deviceId : String) (events : List (List (String × Value))) : Prop :=
  (∀ fields ∈ events, isSevere fields = false) ∨
    ∃ device, d.services.parseUuid deviceId = .ok device ∧ device ∈ store.devices ∧
      (∀ fields ∈ events, isSevere fields = true → fits fields = true) ∧
      d.flushes store.transactions = true ∧ d.services.commits store.transactions = true

theorem ingestTelemetry_status_iff {payload : TelemetryPayload PyNum Datetime}
    (data : payloadData d payload = .ok (eventsData events)) (store : Store) :
    (ingestTelemetry d payload store).1.status = 202 ↔ Admits d store payload.deviceId events := by
  by_cases calm : ∀ fields ∈ events, isSevere fields = false
  · rw [ingestTelemetry_calm d data calm]
    exact ⟨fun _ => Or.inl calm, fun _ => rfl⟩
  · simp only [Admits, calm, false_or]
    obtain ⟨fields, member, bad⟩ : ∃ fields ∈ events, isSevere fields = true := by simpa using calm
    cases uuid : d.services.parseUuid payload.deviceId with
    | error e =>
        rw [ingestTelemetry_not_uuid d data uuid member bad]
        simp [Response.status]
    | ok device =>
        have severe : ∀ fields ∈ events.filter isSevere, isSevere fields = true :=
          fun _ h => (List.mem_filter.mp h).2
        have some : events.filter isSevere ≠ [] :=
          List.ne_nil_of_mem (List.mem_filter.mpr ⟨member, bad⟩)
        have answered : (ingestTelemetry d payload store).1.status = 202 ↔
            (transact d store ((events.filter isSevere).map (alertRow device))).1 = .ok () := by
          simp only [ingestTelemetry, data, pendingAlerts_of_uuid d uuid]
          rcases transact d store ((events.filter isSevere).map (alertRow device)) with ⟨_ | _, _⟩
          all_goals simp [Response.status]
        rw [answered, transact_iff d severe some]
        simp only [List.mem_filter, and_imp, Except.ok.injEq, exists_eq_left']
        exact and_left_comm

end

end GuardianPi.Backend
