import GuardianPi.Agent.TelemetrySender
import GuardianPi.Backend.Ingest

namespace GuardianPi.Agent
open GuardianPi.Library GuardianPi.Library.Python GuardianPi.Backend

section
variable (number : Literal → PyNum)

def Event.fields (e : Event) : List (String × Value) :=
  [("event_type", .str e.eventType), ("severity", .str e.severity),
    ("details", .obj (Json.mapFields number e.details)), ("title", Json.map number e.title),
    ("timestamp", .str e.timestamp)]

theorem map_eventsPayload (events : List Event) :
    Json.map number (eventsPayload events) = eventsData (events.map (Event.fields number)) := by
  have each (e : Event) : Json.map number e.dict = .obj (e.fields number) := rfl
  simp only [eventsPayload, eventsData, Json.map, Json.mapFields, Json.mapItems_eq, List.map_map,
    Function.comp_def, each]

theorem isSevere_fields (e : Event) : isSevere (e.fields number) = alarming e.severity := rfl

end

theorem b64text_ne_empty {bytes : List UInt8} (some : bytes ≠ []) : b64text bytes ≠ "" := by
  intro empty
  have chars := congrArg String.toList empty
  rw [b64text, String.toList_ofList] at chars
  exact b64encode_ne_nil some chars

theorem present_b64text {bytes : List UInt8} (some : bytes ≠ []) :
    present (.some (b64text bytes)) = .some (b64text bytes) := by
  simp [present, b64text_ne_empty some]

theorem b64decode_b64text (bytes : List UInt8) : b64decode (b64text bytes) = .ok bytes :=
  b64decode_b64encode bytes

section
variable {Datetime : Type} (d : Deployment Datetime)

theorem loads_dumps (v : Json Literal) : d.loads (dumps v) = some (Json.map d.number v) := by
  rw [Deployment.loads, loadsBytes_dumps]
  rfl

/-- The key is shared with the server, or there is none and the server is a development server. -/
def Shared (key : Option String) : Prop :=
  match key.filter fun key => key ≠ "" with
  | none => d.settings.isDevelopment = true
  | some key => d.settings.telemetryEncryptionKey = some key

theorem ofKey_decodes {key : String} {crypto : TelemetryCrypto} (made : TelemetryCrypto.ofKey key = .ok crypto) :
    b64decode key = .ok crypto.key := by
  unfold TelemetryCrypto.ofKey at made
  cases bytes : b64decode key with
  | error e =>
      rw [bytes] at made
      cases made
  | ok bytes' =>
      rw [bytes, Except.bind] at made
      split_ifs at made
      obtain rfl := Except.ok.inj made
      rfl

theorem decryptPayload_encrypt {key : String} {crypto : TelemetryCrypto}
    (decoded : b64decode key = .ok crypto.key)
    (shared : d.settings.telemetryEncryptionKey = some key) (nonce : Nonce) (data : Json Literal) :
    let ciphertext := d.aes.encrypt crypto.key nonce (dumps data)
    let split := ciphertext.length - 16
    decryptPayload d (b64text (ciphertext.take split)) (b64text nonce) (b64text (ciphertext.drop split)) =
      .ok (Json.map d.number data) := by
  intro ciphertext split
  have opened := d.aes.decrypt_encrypt crypto.key nonce (dumps data) crypto.accepted nonce.2
  simp only [decryptPayload, shared, decoded, b64decode_b64text, ok_bind, crypto.accepted, if_true,
    List.take_append_drop, ciphertext, opened, loads_dumps]

omit d in
theorem encrypt_parts (aes : AESGCM) (crypto : TelemetryCrypto) (nonce : Nonce) (data : Json Literal) :
    let ciphertext := aes.encrypt crypto.key nonce (dumps data)
    ciphertext.take (ciphertext.length - 16) ≠ [] ∧ nonce.1 ≠ [] ∧
      ciphertext.drop (ciphertext.length - 16) ≠ [] := by
  intro ciphertext
  have length : ciphertext.length = (dumps data).length + 16 :=
    aes.length_encrypt crypto.key nonce _ crypto.accepted nonce.2
  have filled := List.length_pos_iff.mpr (dumps_ne_nil data)
  refine ⟨?_, ?_, ?_⟩
  · rw [← List.length_pos_iff, List.length_take]
    omega
  · rw [← List.length_pos_iff, nonce.2]
    decide
  · rw [← List.length_pos_iff, List.length_drop]
    omega

theorem payloadData_encrypt {key : String} {crypto : TelemetryCrypto} (decoded : b64decode key = .ok crypto.key)
    (shared : d.settings.telemetryEncryptionKey = some key) (nonce : Nonce) (data : Json Literal)
    (payload : TelemetryPayload PyNum Datetime) :
    let ciphertext := d.aes.encrypt crypto.key nonce (dumps data)
    let split := ciphertext.length - 16
    payloadData d { payload with
      encryptedData := some (b64text (ciphertext.take split))
      nonce := some (b64text nonce)
      tag := some (b64text (ciphertext.drop split)) } = .ok (Json.map d.number data) := by
  intro ciphertext split
  obtain ⟨ct, random, tag⟩ := encrypt_parts d.aes crypto nonce data
  simp only [payloadData, present_b64text ct, present_b64text random, present_b64text tag, ciphertext, split]
  rw [decryptPayload_encrypt d decoded shared nonce data]

theorem start_cases {key : Option String} {crypto : Option TelemetryCrypto}
    (start : (TelemetrySender.start key).map TelemetrySender.crypto = .ok crypto)
    (shared : Shared d key) : (crypto = none ∧ d.settings.isDevelopment = true) ∨
      ∃ text made, crypto = some made ∧ TelemetryCrypto.ofKey text = .ok made ∧
        d.settings.telemetryEncryptionKey = some text := by
  cases key with
  | none => exact Or.inl ⟨(Except.ok.inj start).symm, shared⟩
  | some text =>
      by_cases empty : text = ""
      · subst empty
        exact Or.inl ⟨(Except.ok.inj start).symm, shared⟩
      · simp only [TelemetrySender.start, if_neg empty] at start
        simp only [Shared, Option.filter_some, empty, ne_eq, not_false_eq_true, decide_true,
          if_true] at shared
        cases made : TelemetryCrypto.ofKey text with
        | error e =>
            rw [made] at start
            cases start
        | ok crypto' =>
            rw [made] at start
            exact Or.inr ⟨text, crypto', (Except.ok.inj start).symm, made, shared⟩

omit d in
theorem start_queue {key : Option String} {sender : TelemetrySender}
    (start : TelemetrySender.start key = .ok sender) : sender.queue = [] := by
  cases key with
  | none =>
      obtain rfl := Except.ok.inj start
      rfl
  | some text =>
      unfold TelemetrySender.start at start
      dsimp only at start
      split_ifs at start
      · obtain rfl := Except.ok.inj start
        rfl
      · cases made : TelemetryCrypto.ofKey text with
        | error e =>
            rw [made] at start
            cases start
        | ok crypto =>
            rw [made] at start
            obtain rfl := Except.ok.inj start
            rfl

theorem postTelemetry_document {key : Option String} {s : TelemetrySender}
    (start : (TelemetrySender.start key).map TelemetrySender.crypto = .ok s.crypto)
    (shared : Shared d key) (nonce : Nonce) {timestamp : String}
    (dated : (d.datetime (.str timestamp)).isSome) (store : Store) :
    ∃ payload : TelemetryPayload PyNum Datetime, payload.deviceId = "self" ∧
      payloadData d payload = .ok (eventsData (s.queue.map (Event.fields d.number))) ∧
      postTelemetry d (dumps (s.document d.aes nonce timestamp)) store =
        ingestTelemetry d payload store := by
  obtain ⟨instant, date⟩ := Option.isSome_iff_exists.mp dated
  have data := map_eventsPayload d.number s.queue
  rcases start_cases d start shared with ⟨plain, development⟩ | ⟨text, crypto, sealed, made, same⟩
  · let items := (s.queue.map (Event.fields d.number)).map Json.obj
    refine ⟨⟨"self", instant, none, some [("events", .arr items)], none, none⟩, rfl, ?_, ?_⟩
    · rw [payloadData_plain, if_pos development]
    · simp only [postTelemetry, loads_dumps, TelemetrySender.document, TelemetrySender.envelope, plain,
        List.cons_append, List.nil_append, Json.map, Json.mapFields, data]
      simp [TelemetryPayload.validate, Json.lookup, requiredStr, optionalStr, optionalDict, date,
        eventsData, items]
  · let ciphertext := d.aes.encrypt crypto.key nonce (dumps (eventsPayload s.queue))
    let split := ciphertext.length - 16
    refine ⟨⟨"self", instant, some (b64text (ciphertext.take split)), none, some (b64text nonce),
      some (b64text (ciphertext.drop split))⟩, rfl, ?_, ?_⟩
    · rw [← data]
      exact payloadData_encrypt d (ofKey_decodes made) same nonce (eventsPayload s.queue)
        ⟨"self", instant, none, none, none, none⟩
    · simp only [postTelemetry, loads_dumps, TelemetrySender.document, TelemetrySender.envelope, sealed,
        TelemetryCrypto.encrypt, List.cons_append, List.nil_append, Json.map, Json.mapFields]
      simp [TelemetryPayload.validate, Json.lookup, requiredStr, optionalStr, optionalDict, date]
      rfl

def Records (store : Store) (fields : List (String × Value)) (row : Orm.Fields Value) : Prop :=
  ∃ device ∈ store.devices, ∀ cell ∈ alertRow device fields, row.lookup cell.1 = some cell.2

def StoresEach (store : Store) (body : List UInt8) (events : List Event) : Prop :=
  let r := postTelemetry d body store
  r.1.status = 202 ∧ ∃ rows, r.2.alerts = store.alerts ++ rows ∧
    List.Forall₂ (fun e row => Records store (e.fields d.number) row)
      (events.filter fun e => alarming e.severity) rows

variable {d} {store : Store} {body : List UInt8} {payload : TelemetryPayload PyNum Datetime}
  {queue : List Event}

theorem storesEach_iff_of_calm
    (data : payloadData d payload = .ok (eventsData (queue.map (Event.fields d.number))))
    (read : postTelemetry d body store = ingestTelemetry d payload store)
    (calm : ∀ e ∈ queue, alarming e.severity = false) (events : List Event) :
    StoresEach d store body events ↔ ∀ e ∈ events, alarming e.severity = false := by
  have mild : ∀ fields ∈ queue.map (Event.fields d.number), isSevere fields = false := by
    rw [List.forall_mem_map]
    intro e member
    rw [isSevere_fields]
    exact calm e member
  have answer := ingestTelemetry_calm d data mild store
  rw [StoresEach, read, answer]
  constructor
  · rintro ⟨-, rows, stored, each⟩
    obtain rfl : rows = [] := List.self_eq_append_right.mp stored
    have none := List.forall₂_nil_right_iff.mp each
    simpa using none
  · intro h
    have none : events.filter (fun e => alarming e.severity) = [] := by simpa using h
    exact ⟨rfl, [], (List.append_nil _).symm, none ▸ .nil⟩

theorem not_storesEach_of_alarming
    (data : payloadData d payload = .ok (eventsData (queue.map (Event.fields d.number))))
    (read : postTelemetry d body store = ingestTelemetry d payload store) {error : PyError}
    (malformed : d.services.parseUuid payload.deviceId = .error error) {e : Event}
    (member : e ∈ queue) (alarm : alarming e.severity = true) (events : List Event) :
    (postTelemetry d body store).1 = .failed ∧ ¬ StoresEach d store body events := by
  have answer := ingestTelemetry_not_uuid d data malformed (List.mem_map_of_mem member) alarm store
  rw [StoresEach, read, answer]
  refine ⟨rfl, ?_⟩
  rintro ⟨accepted, -⟩
  cases accepted

end

theorem flush_accepted_iff {Datetime : Type} (d : Deployment Datetime) (key : Option String)
    (sender : TelemetrySender) (start : TelemetrySender.start key = .ok sender) (shared : Shared d key)
    (malformed : d.services.parseUuid "self" = .error .valueError) (nonce : Nonce) (timestamp : String)
    (dated : (d.datetime (.str timestamp)).isSome) (calls : List QueueCall) (queued : calls ≠ [])
    (store : Store) :
    let s := calls.foldl TelemetrySender.queueEvent sender
    ∃ body, s.flushBody d.aes nonce timestamp = some body ∧
      (StoresEach d store body s.queue ↔ ∀ e ∈ s.queue, alarming e.severity = false) ∧
      (StoresEach d store body (calls.map QueueCall.event) ↔
        ∀ c ∈ calls, alarming c.severity = false) := by
  intro s
  have empty : sender.queue = [] := start_queue start
  have listed : s.queue = (calls.map QueueCall.event).rtake maxQueue := queueAll_queue sender empty calls
  have kept : s.queue ≠ [] := by
    rw [listed, ← List.length_pos_iff, List.rtake, List.length_drop, List.length_map]
    have := List.length_pos_iff.mpr queued
    have capacity : maxQueue = 100 := rfl
    omega
  have among : ∀ e ∈ s.queue, e ∈ calls.map QueueCall.event := by
    rw [listed]
    exact fun e member => List.mem_of_mem_drop member
  have crypto : (TelemetrySender.start key).map TelemetrySender.crypto = .ok s.crypto := by
    rw [start, queueAll_crypto]
    rfl
  have flushed : s.flushBody d.aes nonce timestamp = some (dumps (s.document d.aes nonce timestamp)) := by
    simp [TelemetrySender.flushBody, kept]
  refine ⟨_, flushed, ?_⟩
  obtain ⟨payload, self, data, read⟩ := postTelemetry_document d crypto shared nonce dated store
  by_cases calm : ∀ e ∈ s.queue, alarming e.severity = false
  · have stores := storesEach_iff_of_calm data read calm
    exact ⟨stores s.queue, (stores _).trans List.forall_mem_map⟩
  · obtain ⟨e, member, alarm⟩ : ∃ e ∈ s.queue, alarming e.severity = true := by simpa using calm
    rw [← self] at malformed
    have refused := not_storesEach_of_alarming data read malformed member alarm
    obtain ⟨c, called, made⟩ := List.mem_map.mp (among e member)
    have severe : ¬ ∀ c ∈ calls, alarming c.severity = false := by
      intro h
      have quiet := h c called
      rw [← made] at alarm
      exact absurd (alarm.symm.trans quiet) (by decide)
    exact ⟨iff_of_false (refused _).2 calm, iff_of_false (refused _).2 severe⟩

theorem flush_accepted_iff_metrics :
    let device := "4b0a5e0e-9a3c-4c6e-8f43-0c5b8f2d7a11"
    let services : Services := ⟨fun text => if text = device then .ok device else .error .valueError,
      fun _ => "9d0f2c1e-5b7a-4e7f-b0a8-2f6d1c3e4a55", fun _ => "2026-01-01T00:00:00+00:00",
      fun _ => true, fun _ => true⟩
    let d : Deployment Value := ⟨⟨.development, none⟩, services, fun _ => true, default,
      fun _ => .int 0, some, fun _ => ""⟩
    let store : Store := ⟨[device], [], 0, [], []⟩
    let nonce : Nonce := ⟨List.replicate 12 7, rfl⟩
    let calls : List QueueCall := [⟨"metrics", "info", [], "2026-01-01T00:00:00+00:00"⟩]
    let s := calls.foldl TelemetrySender.queueEvent ⟨[], none⟩
    ∃ body, s.flushBody d.aes nonce "2026-01-01T00:00:10+00:00" = some body ∧
      StoresEach d store body s.queue := by
  intro device services d store nonce calls s
  obtain ⟨body, flushed, stores, -⟩ := flush_accepted_iff d none ⟨[], none⟩ rfl rfl rfl nonce
    "2026-01-01T00:00:10+00:00" rfl calls (List.cons_ne_nil _ _) store
  refine ⟨body, flushed, stores.mpr ?_⟩
  intro e member
  obtain rfl : e = QueueCall.event ⟨"metrics", "info", [], "2026-01-01T00:00:00+00:00"⟩ :=
    List.mem_singleton.mp member
  rfl

theorem critical_event_refused :
    let device := "4b0a5e0e-9a3c-4c6e-8f43-0c5b8f2d7a11"
    let services : Services := ⟨fun text => if text = device then .ok device else .error .valueError,
      fun _ => "9d0f2c1e-5b7a-4e7f-b0a8-2f6d1c3e4a55", fun _ => "2026-01-01T00:00:00+00:00",
      fun _ => true, fun _ => true⟩
    let d : Deployment Value := ⟨⟨.development, some "Z3VhcmRpYW4tcGkta2V5MQ=="⟩, services,
      fun _ => true, default, fun _ => .int 0, some, fun _ => ""⟩
    let store : Store := ⟨[device], [], 0, [], []⟩
    let nonce : Nonce := ⟨List.replicate 12 7, rfl⟩
    let c : QueueCall := ⟨"usb_event", "critical", [], "2026-01-01T00:00:00+00:00"⟩
    ∀ key, key = none ∨ key = some "Z3VhcmRpYW4tcGkta2V5MQ==" →
      ∃ sender body, TelemetrySender.start key = .ok sender ∧ Shared d key ∧
        (sender.queueEvent c).flushBody d.aes nonce "2026-01-01T00:00:10+00:00" = some body ∧
        (postTelemetry d body store).1 = .failed ∧ ¬ StoresEach d store body [c.event] := by
  intro device services d store nonce c key chosen
  have started : (TelemetrySender.start key).isOk = true ∧ Shared d key := by
    rcases chosen with rfl | rfl
    · exact ⟨rfl, rfl⟩
    · exact ⟨by decide +kernel, rfl⟩
  obtain ⟨ok, shared⟩ := started
  obtain ⟨sender, start⟩ := isOk_iff.mp ok
  have empty : sender.queue = [] := start_queue start
  have queue : (sender.queueEvent c).queue = [c.event] := by
    rw [queueEvent_queue, empty]
    rfl
  have crypto : (TelemetrySender.start key).map TelemetrySender.crypto =
      .ok (sender.queueEvent c).crypto := by
    rw [start]
    rfl
  obtain ⟨payload, self, data, read⟩ := postTelemetry_document d crypto shared nonce
    (show (d.datetime (.str "2026-01-01T00:00:10+00:00")).isSome from rfl) store
  have malformed : d.services.parseUuid payload.deviceId = .error .valueError := by
    rw [self]
    rfl
  have refused := not_storesEach_of_alarming data read malformed
    (queue ▸ List.mem_singleton_self c.event) rfl [c.event]
  refine ⟨sender, _, start, shared, ?_, refused⟩
  rw [TelemetrySender.flushBody, queue]
  rfl

end GuardianPi.Agent
