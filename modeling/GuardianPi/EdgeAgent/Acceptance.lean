import GuardianPi.EdgeAgent.MessageFormat
import GuardianPi.Backend.Ingest

namespace GuardianPi.EdgeAgent
open GuardianPi.Library GuardianPi.Library.Python GuardianPi.Backend

/-- The device id of a start-up: what `registerDevice` returns, or else the cached one. -/
def AgentConfig.register (cfg : AgentConfig) (registered : Option String) : AgentConfig :=
  { cfg with deviceID := registered.getD cfg.deviceID }

def sentBody (deviceID : String) (now : Int) (batch : List Event) : Bytes :=
  (marshal (payloadValue deviceID (formatRFC3339 now) batch)).getD []

def Reads (e : Event) (fields : List (String × Value)) : Prop :=
  ∃ details, fields = [("event_type", .str e.eventType), ("severity", .str e.severity),
    ("title", .str e.title), ("details", details), ("timestamp", .str e.timestamp)]

theorem exists_reads (number : Literal → PyNum) {batch : List Event} {items : List (Json Literal)}
    (h : Json.traverseItems id (batch.map Event.value) = some items) :
    ∃ events, items.map (Json.map number) = events.map .obj ∧ List.Forall₂ Reads batch events := by
  induction batch generalizing items with
  | nil =>
      obtain rfl := Option.some.inj h
      exact ⟨[], rfl, .nil⟩
  | cons e batch ih =>
      obtain ⟨document, head, h⟩ := Option.bind_eq_some_iff.mp h
      obtain ⟨documents, tail, rfl⟩ := Option.map_eq_some_iff.mp h
      rw [value_traverse] at head
      obtain ⟨details, -, rfl⟩ := Option.map_eq_some_iff.mp head
      obtain ⟨events, same, reads⟩ := ih tail
      refine ⟨_ :: events, ?_, .cons ⟨Json.map number details, rfl⟩ reads⟩
      rw [List.map_cons, List.map_cons, same]
      rfl

theorem isSevere_of_reads {e : Event} {fields : List (String × Value)} (h : Reads e fields) :
    isSevere fields = alarming e.severity := by
  obtain ⟨details, rfl⟩ := h
  rfl

theorem fits_of_reads {e : Event} {fields : List (String × Value)} (h : Reads e fields) :
    fits fields = true ↔ e.eventType.length ≤ 100 ∧ e.title.length ≤ 500 := by
  obtain ⟨details, rfl⟩ := h
  simp [fits, Json.lookup, acceptsText, cell]

section
variable {Datetime : Type} (d : Deployment Datetime)

/-- The device is registered and the alerts of the batch fit their columns, if there are any. -/
def Acceptable (store : Store) (deviceID : String) (batch : List Event) : Prop :=
  (∀ e ∈ batch, alarming e.severity = false) ∨
    ∃ device, d.services.parseUuid deviceID = .ok device ∧ device ∈ store.devices ∧
      (∀ e ∈ batch, alarming e.severity = true → e.eventType.length ≤ 100 ∧ e.title.length ≤ 500) ∧
      d.flushes store.transactions = true ∧ d.services.commits store.transactions = true

theorem forall_reads_iff {P : Event → Prop} {Q : List (String × Value) → Prop}
    (same : ∀ e fields, Reads e fields → (P e ↔ Q fields)) {batch : List Event}
    {events : List (List (String × Value))} (h : List.Forall₂ Reads batch events) :
    (∀ e ∈ batch, P e) ↔ ∀ fields ∈ events, Q fields := by
  induction h with
  | nil => simp
  | cons here _ ih => rw [List.forall_mem_cons, List.forall_mem_cons, ih, same _ _ here]

theorem admits_iff {batch : List Event} {events : List (List (String × Value))}
    (h : List.Forall₂ Reads batch events) (store : Store) (deviceID : String) :
    Admits d store deviceID events ↔ Acceptable d store deviceID batch := by
  have calm : (∀ e ∈ batch, alarming e.severity = false) ↔
      ∀ fields ∈ events, isSevere fields = false := by
    apply forall_reads_iff _ h
    intro e fields reads
    rw [isSevere_of_reads reads]
  have columns : (∀ e ∈ batch, alarming e.severity = true →
      e.eventType.length ≤ 100 ∧ e.title.length ≤ 500) ↔
      ∀ fields ∈ events, isSevere fields = true → fits fields = true := by
    apply forall_reads_iff _ h
    intro e fields reads
    rw [isSevere_of_reads reads, fits_of_reads reads]
  rw [Admits, Acceptable, calm, columns]

theorem loads_nil : d.loads [] = none := by
  rw [Deployment.loads, loadsBytes_nil]
  rfl

theorem sentBody_status_iff (deviceID : String) {now : Int}
    (dated : (d.datetime (.str (formatRFC3339 now))).isSome) (batch : List Event) (store : Store) :
    (postTelemetry d (sentBody deviceID now batch) store).1.status = 202 ↔
      (∀ e ∈ batch, e.Marshals) ∧ d.settings.isDevelopment = true ∧
        Acceptable d store deviceID batch := by
  rw [← isSome_marshal_payload deviceID (formatRFC3339 now) batch]
  cases written : marshal (payloadValue deviceID (formatRFC3339 now) batch) with
  | none =>
      have empty : sentBody deviceID now batch = [] := by
        rw [sentBody, written]
        rfl
      have refused : (unreadableBody []).status ≠ 202 := by
        have above := le_status_unreadableBody []
        omega
      simp [postTelemetry, empty, loads_nil, refused]
  | some body =>
      have read := loadsBytes_marshal written
      obtain ⟨document, whole, -⟩ := Option.map_eq_some_iff.mp written
      rw [whole] at read
      rw [payload_traverse] at whole
      obtain ⟨items, each, rfl⟩ := Option.map_eq_some_iff.mp whole
      obtain ⟨events, mapped, reads⟩ := exists_reads d.number each
      obtain ⟨instant, date⟩ := Option.isSome_iff_exists.mp dated
      let payload : TelemetryPayload PyNum Datetime :=
        ⟨deviceID, instant, none, some [("events", .arr (events.map .obj))], none, none⟩
      have same : sentBody deviceID now batch = body := by
        rw [sentBody, written]
        rfl
      have answer : postTelemetry d (sentBody deviceID now batch) store =
          ingestTelemetry d payload store := by
        rw [same]
        simp only [postTelemetry, Deployment.loads, read, payloadDocument, Option.map_some, Json.map,
          Json.mapFields, Json.mapItems_eq, mapped]
        simp [TelemetryPayload.validate, Json.lookup, requiredStr, optionalStr, optionalDict, date,
          payload]
      have data := @payloadData_plain Datetime d events deviceID instant
      rw [answer, Option.isSome_some, ← admits_iff d reads]
      cases development : d.settings.isDevelopment with
      | false =>
          rw [development] at data
          simp [ingestTelemetry, payload, data, Response.status]
      | true =>
          rw [development] at data
          have status := ingestTelemetry_status_iff d
            (show payloadData d payload = .ok (eventsData events) from data) store
          simp [status, payload]

end

section
variable {cfg : AgentConfig} {env : Env} {fuel : Nat} {dir : Directory}

theorem sendBatch_posts (batch : List Event) (w : World) :
    ∃ queued, (sendBatch cfg env batch w).calls = w.calls ++
        .post ingestPath (sentBody cfg.deviceID (env.now w.readings) batch) (env.post w.posts) :: queued ∧
      ∀ c ∈ queued, ∃ found, c = .enqueue found (sentBody cfg.deviceID (env.now w.readings) batch) := by
  simp only [sendBatch]
  split_ifs
  · refine ⟨[], rfl, ?_⟩
    intro c member
    cases member
  · refine ⟨[.enqueue w.dir (sentBody cfg.deviceID (env.now w.readings) batch)], ?_, ?_⟩
    · simp [enqueue, post, sentBody]
    · intro c member
      exact ⟨w.dir, List.mem_singleton.mp member⟩

/-- A body that was queued when the agent started, or one that it has sent since. -/
def Origin (cfg : AgentConfig) (env : Env) (dir : Directory) (body : Bytes) : Prop :=
  (∃ p ∈ DiskQueue.queued dir, p.2 = body) ∨
    ∃ k batch, body = sentBody cfg.deviceID (env.now k) batch

structure Traced (cfg : AgentConfig) (env : Env) (dir : Directory) (s : Sender) : Prop where
  world : s.stopped = false → Formats (Origin cfg env dir) s.world
  posted : ∀ path body ok, .post path body ok ∈ s.world.calls → Origin cfg env dir body

theorem Traced.of_formats {s : Sender} (h : Formats (Origin cfg env dir) s.world) : Traced cfg env dir s :=
  ⟨fun _ => h, fun path body ok member => h.sent (.post path body ok) member body rfl⟩

theorem sendBatch_traced (whole : ∀ k written, (env.files k).write ≠ .torn written) {w : World}
    (h : Formats (Origin cfg env dir) w) (batch : List Event) :
    Formats (Origin cfg env dir) (sendBatch cfg env batch w) :=
  sendBatch_formats whole h fun k => Or.inr ⟨k, batch, rfl⟩

theorem step_traced (whole : ∀ k written, (env.files k).write ≠ .torn written) {s t : Sender}
    {i : Input} (h : Traced cfg env dir s) (taken : senderStep cfg env fuel s i = some t) :
    Traced cfg env dir t := by
  have world := h.world (running_of_step taken)
  unfold senderStep at taken
  split_ifs at taken
  cases i with
  | done =>
      obtain rfl := Option.some.inj taken
      refine ⟨nofun, ?_⟩
      intro path body ok member
      apply h.posted path body ok
      simp only [flushOnDone] at member
      split_ifs at member
      · simpa [enqueue] using member
      · exact member
  | event e =>
      obtain rfl := Option.some.inj taken
      apply Traced.of_formats
      simp only [onEvent]
      split_ifs
      · exact sendBatch_traced whole world _
      · exact world
  | tick =>
      obtain ⟨w, drained, rfl⟩ := Option.map_eq_some_iff.mp taken
      apply Traced.of_formats
      apply drainQueue_formats whole _ drained
      simp only [sendPending]
      split_ifs
      · exact sendBatch_traced whole world _
      · exact world

theorem run_traced (whole : ∀ k written, (env.files k).write ≠ .torn written) {inputs : List Input}
    {s : Sender} (reached : run (senderStep cfg env fuel) (Sender.start cfg dir) inputs = some s) :
    Traced cfg env dir s := by
  have start : Traced cfg env dir (Sender.start cfg dir) :=
    ⟨fun _ => ⟨fun p member => Or.inl ⟨p, member, rfl⟩, nofun⟩, nofun⟩
  apply run_invariant (I := fun _ => Traced cfg env dir) start _ reached
  intro _ _ _ _ h taken
  exact step_traced whole h taken

end

theorem ingest_accepts_iff {Datetime : Type} (d : Deployment Datetime) (loaded : AgentConfig)
    (registered : Option String) (env : Env)
    (dated : ∀ k, (d.datetime (.str (formatRFC3339 (env.now k)))).isSome) :
    let cfg := loaded.register registered
    (∀ batch w, ∃ queued, (sendBatch cfg env batch w).calls = w.calls ++
        .post ingestPath (sentBody cfg.deviceID (env.now w.readings) batch) (env.post w.posts) :: queued ∧
      ∀ c ∈ queued, ∃ found, c = .enqueue found (sentBody cfg.deviceID (env.now w.readings) batch)) ∧
    (∀ batch k store,
      (postTelemetry d (sentBody cfg.deviceID (env.now k) batch) store).1.status = 202 ↔
        (∀ e ∈ batch, e.Marshals) ∧ d.settings.isDevelopment = true ∧
          Acceptable d store cfg.deviceID batch) ∧
    ∀ fuel dir inputs s, run (senderStep cfg env fuel) (Sender.start cfg dir) inputs = some s →
      (∀ k written, (env.files k).write ≠ .torn written) →
      ∀ path body ok, .post path body ok ∈ s.world.calls → Origin cfg env dir body := by
  intro cfg
  refine ⟨fun batch w => sendBatch_posts batch w, ?_, ?_⟩
  · intro batch k store
    exact sentBody_status_iff d cfg.deviceID (dated k) batch store
  · intro fuel dir inputs s reached whole
    exact (run_traced whole reached).posted

theorem ingest_accepts_iff_outage :
    let device := "4b0a5e0e-9a3c-4c6e-8f43-0c5b8f2d7a11"
    let services : Services := ⟨fun text => if text = device then .ok device else .error .valueError,
      fun _ => "9d0f2c1e-5b7a-4e7f-b0a8-2f6d1c3e4a55", fun _ => "2026-01-01T00:00:00+00:00",
      fun _ => true, fun _ => true⟩
    let d : Deployment Value := ⟨⟨.development, none⟩, services, fun _ => true, default,
      fun _ => .int 0, some, fun _ => ""⟩
    let loaded : AgentConfig := ⟨"", 1, 50⟩
    let cfg := loaded.register (some device)
    let env : Env := ⟨fun k => k, fun k => decide (1 ≤ k), fun _ => .ok⟩
    let e : Event := ⟨"process_alert", "high", "Suspicious process", none, "t"⟩
    (∃ s, run (senderStep cfg env 2) (Sender.start cfg Directory.empty) [.event e, .tick] = some s ∧
      ∀ path body ok, .post path body ok ∈ s.world.calls → Origin cfg env Directory.empty body) ∧
    (postTelemetry d (sentBody cfg.deviceID (env.now 0) [e]) ⟨[device], [], 0, [], []⟩).1.status =
      202 := by
  intro device services d loaded cfg env e
  obtain ⟨-, accepts, traces⟩ := ingest_accepts_iff d loaded (some device) env fun _ => rfl
  have taken : (run (senderStep cfg env 2) (Sender.start cfg Directory.empty)
      [.event e, .tick]).isSome = true := by decide +kernel
  obtain ⟨s, reached⟩ := Option.isSome_iff_exists.mp taken
  refine ⟨⟨s, reached, traces 2 Directory.empty _ s reached fun _ _ => nofun⟩, ?_⟩
  apply (accepts [e] 0 _).mpr
  refine ⟨by decide +kernel, rfl, Or.inr ⟨device, rfl, List.mem_singleton_self _, ?_, rfl, rfl⟩⟩
  intro f member _
  obtain rfl := List.mem_singleton.mp member
  decide

theorem production_refuses_plain_telemetry :
    let device := "4b0a5e0e-9a3c-4c6e-8f43-0c5b8f2d7a11"
    let services : Services := ⟨fun text => if text = device then .ok device else .error .valueError,
      fun _ => "9d0f2c1e-5b7a-4e7f-b0a8-2f6d1c3e4a55", fun _ => "2026-01-01T00:00:00+00:00",
      fun _ => true, fun _ => true⟩
    let server (environment : Environment) : Deployment Value := ⟨⟨environment, none⟩, services,
      fun _ => true, default, fun _ => .int 0, some, fun _ => ""⟩
    let loaded : AgentConfig := ⟨"", 1, 50⟩
    let store : Store := ⟨[device], [], 0, [], []⟩
    let metrics : Event := ⟨"metrics", "low", "System metrics", none, "t"⟩
    let alert : Event := ⟨"process_alert", "high", "Suspicious process", none, "t"⟩
    (postTelemetry (server .production)
      (sentBody (loaded.register (some device)).deviceID 0 [metrics]) store).1.status ≠ 202 ∧
    (postTelemetry (server .development)
      (sentBody (loaded.register none).deviceID 0 [alert]) store).1.status ≠ 202 := by
  intro device services server loaded store metrics alert
  constructor
  · intro accepted
    obtain ⟨-, development, -⟩ := (sentBody_status_iff (server .production) _ rfl _ _).mp accepted
    cases development
  · intro accepted
    obtain ⟨-, -, calm | ⟨registered, uuid, -⟩⟩ :=
      (sentBody_status_iff (server .development) _ rfl _ _).mp accepted
    · have quiet := calm alert (List.mem_singleton_self _)
      cases quiet
    · cases uuid

end GuardianPi.EdgeAgent
