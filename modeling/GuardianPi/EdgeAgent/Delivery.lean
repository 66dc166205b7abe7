import GuardianPi.EdgeAgent.Acceptance
import GuardianPi.Backend.IngestTransaction

namespace GuardianPi.EdgeAgent
open GuardianPi.Library GuardianPi.Library.Python GuardianPi.Backend

/-- What becomes of a request and its answer on the wire. -/
inductive Link where
  | requestLost
  | answerLost
  | delivered
  deriving DecidableEq

/-- The bodies that the server answered with 202, and those of them whose answer was lost. -/
structure Server where
  store : Store
  handled : List Bytes
  unheard : List Bytes

section
variable {Datetime : Type} (d : Deployment Datetime)

def Server.handle (body : Bytes) (server : Server) : Nat × Server :=
  let r := postTelemetry d body server.store
  (r.1.status, { server with
    store := r.2, handled := if r.1.status = 202 then server.handled ++ [body] else server.handled })

/-- `SecureClient.Post` and the server: an error unless an answer comes back with a status below 400. -/
def exchange (link : Link) (body : Bytes) (server : Server) : Bool × Server :=
  match link with
  | .requestLost => (false, server)
  | .answerLost =>
      let r := server.handle d body
      (false, if r.1 = 202 then { r.2 with unheard := r.2.unheard ++ [body] } else r.2)
  | .delivered =>
      let r := server.handle d body
      (decide (r.1 < 400), r.2)

def exchanges (links : Nat → Link) : Nat → List Call → Server → Option Server
  | _, [], server => some server
  | n, .post _ body ok :: calls, server =>
      let r := exchange d (links n) body server
      if r.1 = ok then exchanges links (n + 1) calls r.2 else none
  | n, .enqueue _ _ :: calls, server => exchanges links n calls server
  | n, .dequeue _ :: calls, server => exchanges links n calls server

end

def eventsOf (bodies : List Bytes) : Multiset Event := ↑(bodies.flatMap eventsIn)

theorem eventsOf_append (first later : List Bytes) :
    eventsOf (first ++ later) = eventsOf first + eventsOf later := by
  simp [eventsOf]

theorem eventsOf_singleton (body : Bytes) : eventsOf [body] = ↑(eventsIn body) := by
  simp [eventsOf]

section
variable {Datetime : Type} {d : Deployment Datetime}

inductive Exchanged (d : Deployment Datetime) (body : Bytes) (server : Server) : Bool → Server → Prop
  | known (accepted : (postTelemetry d body server.store).1.status = 202) :
      Exchanged d body server true
        ⟨(postTelemetry d body server.store).2, server.handled ++ [body], server.unheard⟩
  | unknown (accepted : (postTelemetry d body server.store).1.status = 202) :
      Exchanged d body server false
        ⟨(postTelemetry d body server.store).2, server.handled ++ [body], server.unheard ++ [body]⟩
  | nothing (store : Store) (same : store.alerts = server.store.alerts) :
      Exchanged d body server false { server with store }

theorem postTelemetry_cases (body : Bytes) (store : Store) :
    (postTelemetry d body store).1.status = 202 ∨
      400 ≤ (postTelemetry d body store).1.status ∧ (postTelemetry d body store).2.alerts = store.alerts := by
  unfold postTelemetry
  split
  · exact Or.inr ⟨le_status_unreadableBody body, rfl⟩
  · rename_i payload _
    rcases ingestTelemetry_all_or_nothing d payload store with ⟨_, _, _, -, -, answer, -⟩ | refused
    · rw [answer]
      exact Or.inl rfl
    · exact Or.inr refused

theorem exchange_exchanged (link : Link) (body : Bytes) (server : Server) :
    Exchanged d body server (exchange d link body server).1 (exchange d link body server).2 := by
  have cases := @postTelemetry_cases _ d body server.store
  cases link with
  | requestLost => exact .nothing server.store rfl
  | answerLost =>
      simp only [exchange, Server.handle]
      rcases cases with accepted | ⟨refused, same⟩
      · simp only [accepted, if_true]
        exact .unknown accepted
      · have other : (postTelemetry d body server.store).1.status ≠ 202 := by omega
        simp only [other, if_false]
        exact .nothing _ same
  | delivered =>
      simp only [exchange, Server.handle]
      rcases cases with accepted | ⟨refused, same⟩
      · simp only [accepted, if_true]
        exact .known accepted
      · have other : (postTelemetry d body server.store).1.status ≠ 202 := by omega
        simp only [other, if_false, Nat.not_lt.mpr refused, decide_false]
        exact .nothing _ same

def Balanced (calls : List Call) (server : Server) : Prop :=
  acceptedEvents calls + eventsOf server.unheard = eventsOf server.handled

theorem acceptedEvents_post (calls : List Call) (path : String) (body : Bytes) (ok : Bool) :
    acceptedEvents (calls ++ [.post path body ok]) =
      acceptedEvents calls + if ok then ↑(eventsIn body) else 0 := by
  rw [acceptedEvents_append]
  cases ok <;> rfl

theorem Exchanged.balanced {calls : List Call} {server server' : Server} {body : Bytes} {ok : Bool}
    (done : Exchanged d body server ok server') (before : Balanced calls server) (path : String) :
    Balanced (calls ++ [.post path body ok]) server' := by
  unfold Balanced at before ⊢
  rw [acceptedEvents_post]
  cases done with
  | known accepted =>
      rw [eventsOf_append, eventsOf_singleton, ← before, if_pos rfl]
      exact add_right_comm _ _ _
  | unknown accepted =>
      rw [eventsOf_append, eventsOf_append, ← before, if_neg (by decide), add_zero, add_assoc]
  | nothing store same =>
      rw [if_neg (by decide), add_zero]
      exact before

theorem exchanges_induction {links : Nat → Link} {I : List Call → Server → Prop}
    (idle : ∀ {past server c}, I past server → (∀ path body ok, c ≠ .post path body ok) → I (past ++ [c]) server)
    {calls : List Call}
    (post : ∀ {past server path body ok server'}, .post path body ok ∈ calls → I past server →
      Exchanged d body server ok server' → I (past ++ [.post path body ok]) server')
    {n : Nat} {p : List Call} {server server' : Server} (start : I p server)
    (answered : exchanges d links n calls server = some server') : I (p ++ calls) server' := by
  induction calls generalizing n p server with
  | nil =>
      obtain rfl := Option.some.inj answered
      rwa [List.append_nil]
  | cons c calls ih =>
      have later := @ih fun member => post (List.mem_cons_of_mem _ member)
      rw [List.append_cons]
      cases c with
      | post path body ok =>
          simp only [exchanges] at answered
          split_ifs at answered with same
          have done := @exchange_exchanged _ d (links n) body server
          rw [same] at done
          exact later (post List.mem_cons_self start done) answered
      | enqueue found data => exact later (idle start fun _ _ _ => nofun) answered
      | dequeue data => exact later (idle start fun _ _ _ => nofun) answered

theorem exchanges_balanced {links : Nat → Link} {calls : List Call} {store : Store} {server : Server}
    (answered : exchanges d links 0 calls ⟨store, [], []⟩ = some server) : Balanced calls server := by
  refine exchanges_induction (I := Balanced) (p := []) ?_ ?_ ?_ answered
  · intro past server c before other
    unfold Balanced at before ⊢
    rw [acceptedEvents_idle past, before]
    cases c with
    | post path body ok => exact absurd rfl (other path body ok)
    | enqueue found data => rfl
    | dequeue data => rfl
  · intro past server path body ok server' _ before done
    exact done.balanced before path
  · simp [Balanced, acceptedEvents, eventsOf]

def Filed (d : Deployment Datetime) (deviceId : String) (fields : List (String × Value))
    (row : Orm.Fields Value) : Prop :=
  ∃ device id createdAt, d.services.parseUuid deviceId = .ok device ∧
    Orm.fill (alertColumns id createdAt) (alertRow device fields) = .ok row

theorem ingestTelemetry_filed {payload : TelemetryPayload PyNum Datetime}
    {events : List (List (String × Value))} (data : payloadData d payload = .ok (eventsData events))
    {store : Store} (accepted : (ingestTelemetry d payload store).1.status = 202) :
    ∃ rows, (ingestTelemetry d payload store).2.alerts = store.alerts ++ rows ∧
      List.Forall₂ (Filed d payload.deviceId) (events.filter isSevere) rows := by
  by_cases calm : ∀ fields ∈ events, isSevere fields = false
  · rw [ingestTelemetry_calm d data calm, List.filter_eq_nil_iff.mpr (by simpa using calm)]
    exact ⟨[], (List.append_nil _).symm, .nil⟩
  obtain ⟨fields, member, bad⟩ : ∃ fields ∈ events, isSevere fields = true := by simpa using calm
  cases uuid : d.services.parseUuid payload.deviceId with
  | error e =>
      rw [ingestTelemetry_not_uuid d data uuid member bad] at accepted
      cases accepted
  | ok device =>
      have pending := pendingAlerts_of_uuid d uuid events
      rcases done : transact d store ((events.filter isSevere).map (alertRow device)) with ⟨failure | _, store'⟩
      · simp only [ingestTelemetry, data, pending, done] at accepted
        cases accepted
      · obtain ⟨rows, filled, stored⟩ := transact_ok done
        have each := mapM_eq_ok.mp filled
        have first : (events.filter isSevere).map (alertRow device) =
            (((events.filter isSevere).map (alertRow device)).zipIdx).map Prod.fst :=
          (List.zipIdx_map_fst 0 _).symm
        have rowsOf : List.Forall₂ (fun pending row => ∃ id createdAt,
            Orm.fill (alertColumns id createdAt) pending = .ok row)
            ((events.filter isSevere).map (alertRow device)) rows := by
          rw [first, List.forall₂_map_left_iff]
          exact each.imp fun p row made => ⟨_, _, made⟩
        rw [List.forall₂_map_left_iff] at rowsOf
        refine ⟨rows, ?_, rowsOf.imp ?_⟩
        · simp only [ingestTelemetry, data, pending, done]
          exact stored
        · intro fields row made
          obtain ⟨id, createdAt, made⟩ := made
          exact ⟨device, id, createdAt, uuid, made⟩

structure AlertOf (d : Deployment Datetime) (deviceID : String) (e : Event) (row : Orm.Fields Value) :
    Prop where
  device : ∃ device, d.services.parseUuid deviceID = .ok device ∧
    row.lookup "device_id" = some (some (.str device))
  severity : row.lookup "severity" = some (some (.str e.severity))
  category : row.lookup "category" = some (some (.str e.eventType))
  title : row.lookup "title" = some (some (.str e.title))
  status : row.lookup "status" = some (some (.str "open"))

theorem Filed.alertOf {deviceID : String} {e : Event} {fields : List (String × Value)}
    {row : Orm.Fields Value} (filed : Filed d deviceID fields row) (reads : Reads e fields) :
    AlertOf d deviceID e row := by
  obtain ⟨device, id, createdAt, uuid, made⟩ := filed
  obtain ⟨details, rfl⟩ := reads
  have column (name : String) (length : Option Nat) (default : Option Value)
      (member : textColumn name length false default ∈ alertColumns id createdAt) :=
    lookup_fill_textColumn member made
  exact {
    device := ⟨device, uuid, column "device_id" none none (by simp [alertColumns])⟩
    severity := column "severity" (some 50) none (by simp [alertColumns])
    category := column "category" (some 100) none (by simp [alertColumns])
    title := column "title" (some 500) none (by simp [alertColumns])
    status := column "status" (some 50) (some (.str "open")) (by simp [alertColumns]) }

def Sent (d : Deployment Datetime) (deviceID : String) (body : Bytes) : Prop :=
  ∃ now batch, (d.datetime (.str (formatRFC3339 now))).isSome ∧ body = sentBody deviceID now batch

theorem postTelemetry_sentBody (d : Deployment Datetime) (deviceID : String) {now : Int} {batch : List Event}
    (dated : (d.datetime (.str (formatRFC3339 now))).isSome) (store : Store)
    (accepted : (postTelemetry d (sentBody deviceID now batch) store).1.status = 202) :
    eventsIn (sentBody deviceID now batch) = batch ∧
      ∃ payload events, postTelemetry d (sentBody deviceID now batch) store = ingestTelemetry d payload store ∧
        payload.deviceId = deviceID ∧ payloadData d payload = .ok (eventsData events) ∧
        List.Forall₂ Reads batch events := by
  obtain ⟨marshals, development, -⟩ := (sentBody_status_iff d deviceID dated batch store).mp accepted
  obtain ⟨body, written⟩ := Option.isSome_iff_exists.mp
    ((isSome_marshal_payload deviceID (formatRFC3339 now) batch).mpr marshals)
  have same : sentBody deviceID now batch = body := by
    rw [sentBody, written]
    rfl
  have read := loadsBytes_marshal written
  obtain ⟨document, whole, -⟩ := Option.map_eq_some_iff.mp written
  rw [whole] at read
  rw [payload_traverse] at whole
  obtain ⟨items, each, rfl⟩ := Option.map_eq_some_iff.mp whole
  obtain ⟨events, mapped, reads⟩ := exists_reads d.number each
  obtain ⟨instant, date⟩ := Option.isSome_iff_exists.mp dated
  rw [same]
  refine ⟨eventsIn_marshal written, ⟨deviceID, instant, none, some [("events", .arr (events.map .obj))], none,
    none⟩, events, ?_, rfl, ?_, reads⟩
  · simp only [postTelemetry, Deployment.loads, read, payloadDocument, Option.map_some, Json.map,
      Json.mapFields, Json.mapItems_eq, mapped]
    simp [TelemetryPayload.validate, Json.lookup, requiredStr, optionalStr, optionalDict, date]
  · simp [payloadData_plain, development]

theorem Sent.recorded {deviceID : String} {body : Bytes} (sent : Sent d deviceID body) {store : Store}
    (accepted : (postTelemetry d body store).1.status = 202) :
    ∃ rows, (postTelemetry d body store).2.alerts = store.alerts ++ rows ∧
      List.Forall₂ (AlertOf d deviceID) ((eventsIn body).filter fun e => alarming e.severity) rows := by
  obtain ⟨now, batch, dated, rfl⟩ := sent
  obtain ⟨whole, payload, events, answer, rfl, data, reads⟩ :=
    postTelemetry_sentBody d deviceID dated store accepted
  rw [answer] at accepted ⊢
  obtain ⟨rows, stored, filed⟩ := ingestTelemetry_filed data accepted
  refine ⟨rows, stored, ?_⟩
  have severe : List.Forall₂ Reads (batch.filter fun e => alarming e.severity) (events.filter isSevere) := by
    apply List.rel_filter _ reads
    intro e fields read
    simp only [isSevere_of_reads read]
  rw [whole]
  apply forall₂_comp _ severe filed
  intro e fields row read made
  exact made.alertOf read

def severeEvents (bodies : List Bytes) : List Event := (bodies.flatMap eventsIn).filter fun e => alarming e.severity

/-- The alerts that were added since `before` are those of the severe events handled since. -/
def Recorded (d : Deployment Datetime) (deviceID : String) (before : Store) (server : Server) : Prop :=
  ∃ rows, server.store.alerts = before.alerts ++ rows ∧
    List.Forall₂ (AlertOf d deviceID) (severeEvents server.handled) rows

theorem Recorded.handle {deviceID : String} {before : Store} {server : Server}
    (recorded : Recorded d deviceID before server) {body : Bytes} (sent : Sent d deviceID body)
    (accepted : (postTelemetry d body server.store).1.status = 202) (unheard : List Bytes) :
    Recorded d deviceID before
      ⟨(postTelemetry d body server.store).2, server.handled ++ [body], unheard⟩ := by
  obtain ⟨rows, stored, each⟩ := recorded
  obtain ⟨more, added, new⟩ := sent.recorded accepted
  refine ⟨rows ++ more, ?_, ?_⟩
  · simp only [added, stored, List.append_assoc]
  · have grown : severeEvents (server.handled ++ [body]) =
        severeEvents server.handled ++ (eventsIn body).filter fun e => alarming e.severity := by
      simp [severeEvents]
    rw [grown]
    exact List.rel_append each new

theorem Exchanged.recorded {deviceID : String} {before : Store} {server server' : Server} {body : Bytes}
    {ok : Bool} (done : Exchanged d body server ok server') (sent : Sent d deviceID body)
    (recorded : Recorded d deviceID before server) : Recorded d deviceID before server' := by
  cases done with
  | known accepted => exact recorded.handle sent accepted _
  | unknown accepted => exact recorded.handle sent accepted _
  | nothing store same =>
      obtain ⟨rows, stored, each⟩ := recorded
      exact ⟨rows, same.trans stored, each⟩

theorem exchanges_recorded {links : Nat → Link} {calls : List Call} {deviceID : String} {store : Store}
    {server : Server} (sent : ∀ path body ok, .post path body ok ∈ calls → Sent d deviceID body)
    (answered : exchanges d links 0 calls ⟨store, [], []⟩ = some server) :
    Recorded d deviceID store server := by
  refine exchanges_induction (I := fun _ => Recorded d deviceID store) (p := []) ?_ ?_ ?_ answered
  · intro _ _ _ before _
    exact before
  · intro _ _ path body ok _ member before done
    exact done.recorded (sent path body ok member) before
  · exact ⟨[], (List.append_nil _).symm, .nil⟩

end

theorem run_conserves {cfg : AgentConfig} {env : Env} {fuel : Nat} {dir : Directory} {inputs : List Input}
    {s : Sender} (reached : run (senderStep cfg env fuel) (Sender.start cfg dir) inputs = some s)
    (running : s.stopped = false) (distinct : Function.Injective env.now)
    (fresh : Fresh env (World.start dir)) (files : ∀ k, env.files k = .ok)
    (limit : UnderLimit cfg s.world.calls) (marshals : ∀ e ∈ received inputs, e.Marshals) :
    Conserves env dir inputs s.batch.toList s.world := by
  have start : Conserves env dir [] (Sender.start cfg dir).batch.toList (World.start dir) := by
    refine ⟨?_, ?_, fresh, fun p member => Or.inl member⟩
    · simp [received, ledger, acceptedEvents, Sender.start, World.start]
    · simp [Sender.start]
  refine run_invariant (I := fun past s => s.stopped = false → UnderLimit cfg s.world.calls →
    (∀ e ∈ received past, e.Marshals) → Conserves env dir past s.batch.toList s.world)
    (fun _ _ _ => start) ?_ reached running limit marshals
  intro past m i n inv taken running limit marshals
  have before := inv (running_of_step taken) (limit.of_prefix cfg (senderStep_calls taken))
    fun e he => marshals e (received_snoc past i ▸ List.mem_append_left _ he)
  exact step_conserves distinct files before taken running marshals limit

/-- Whatever the network loses, each event is handled, queued or pending, and handled again only after an
answer that was lost; the server holds one alert for each severe event of each body it handled. -/
theorem telemetry_delivered_at_least_once {Datetime : Type} (d : Deployment Datetime) (links : Nat → Link)
    (cfg : AgentConfig) (env : Env) (fuel : Nat) (dir : Directory) (inputs : List Input) (s : Sender)
    (reached : run (senderStep cfg env fuel) (Sender.start cfg dir) inputs = some s)
    (running : s.stopped = false) (distinct : Function.Injective env.now)
    (fresh : Fresh env (World.start dir)) (files : ∀ k, env.files k = .ok)
    (limit : UnderLimit cfg s.world.calls) (marshals : ∀ e ∈ received inputs, e.Marshals)
    (dated : ∀ k, (d.datetime (.str (formatRFC3339 (env.now k)))).isSome)
    (earlier : ∀ p ∈ DiskQueue.queued dir, Sent d cfg.deviceID p.2) (store : Store) (server : Server)
    (answered : exchanges d links 0 s.world.calls ⟨store, [], []⟩ = some server) :
    ↑(received inputs) + queuedEvents dir + eventsOf server.unheard =
        eventsOf server.handled + queuedEvents s.world.dir + ↑s.batch.toList ∧
      Recorded d cfg.deviceID store server := by
  constructor
  · obtain ⟨events, -, -⟩ := run_conserves reached running distinct fresh files limit marshals
    have balanced : acceptedEvents s.world.calls + eventsOf server.unheard = eventsOf server.handled :=
      exchanges_balanced answered
    rw [events, ledger, ← balanced]
    simp only [add_assoc, add_comm, add_left_comm]
  · apply exchanges_recorded _ answered
    intro path body ok member
    have whole : ∀ k written, (env.files k).write ≠ .torn written := by
      intro k written torn
      rw [files k] at torn
      cases torn
    rcases (run_traced whole reached).posted path body ok member with
      ⟨p, queued, rfl⟩ | ⟨k, batch, rfl⟩
    · exact earlier p queued
    · exact ⟨env.now k, batch, dated k, rfl⟩

theorem telemetry_delivered_at_least_once_unheard :
    let device := "4b0a5e0e-9a3c-4c6e-8f43-0c5b8f2d7a11"
    let services : Services := ⟨fun text => if text = device then .ok device else .error .valueError,
      fun _ => "9d0f2c1e-5b7a-4e7f-b0a8-2f6d1c3e4a55", fun _ => "2026-01-01T00:00:00+00:00",
      fun _ => true, fun _ => true⟩
    let d : Deployment Value := ⟨⟨.development, none⟩, services, fun _ => true, default,
      fun _ => .int 0, some, fun _ => ""⟩
    let links : Nat → Link := fun k => if k = 0 then .answerLost else .delivered
    let cfg : AgentConfig := ⟨device, 1, 50⟩
    let env : Env := ⟨fun k => k, fun k => decide (1 ≤ k), fun _ => .ok⟩
    let e : Event := ⟨"process_alert", "high", "Suspicious process", none, "t"⟩
    let store : Store := ⟨[device], [], 0, [], []⟩
    ∃ s server, run (senderStep cfg env 2) (Sender.start cfg Directory.empty) [.event e, .tick] = some s ∧
      exchanges d links 0 s.world.calls ⟨store, [], []⟩ = some server ∧
      ({e} : Multiset Event) + queuedEvents Directory.empty + eventsOf server.unheard =
        eventsOf server.handled + queuedEvents s.world.dir + ↑s.batch.toList ∧
      Recorded d device store server := by
  intro device services d links cfg env e store
  let start := Sender.start cfg Directory.empty
  have facts : (run (senderStep cfg env 2) start [.event e, .tick]).map (fun s =>
      (s.stopped, decide (UnderLimit cfg s.world.calls),
        (exchanges d links 0 s.world.calls ⟨store, [], []⟩).isSome)) = some (false, true, true) := by
    decide +kernel
  obtain ⟨s, reached, facts⟩ := Option.map_eq_some_iff.mp facts
  obtain ⟨running, facts⟩ := Prod.mk.inj facts
  obtain ⟨limit, answered⟩ := Prod.mk.inj facts
  obtain ⟨server, answered⟩ := Option.isSome_iff_exists.mp answered
  have marshals : ∀ f ∈ [e], (marshal f.value).isSome = true := by decide +kernel
  exact ⟨s, server, reached, answered, telemetry_delivered_at_least_once d links cfg env 2 Directory.empty
    [.event e, .tick] s reached running (fun j k same => Int.ofNat.inj same) (fun _ _ => List.not_mem_nil)
    (fun _ => rfl) (of_decide_eq_true limit) marshals (fun _ => rfl) nofun store server answered⟩

end GuardianPi.EdgeAgent
