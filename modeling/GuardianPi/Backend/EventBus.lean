import GuardianPi.Backend.AlertStore

namespace GuardianPi.Backend
open GuardianPi.Library GuardianPi.Library.Python

structure Message where
  sequence : Nat
  data : List UInt8
  deriving DecidableEq

section
variable (letters : Letters) (repr : Value → String) (services : Services)
  (loads : List UInt8 → Except PyError Value)

/-- The handler that `subscribe` installs for telemetry; answers whether it acks the message. -/
def handler (message : Message) : StateM Store Bool := fun store =>
  match loads message.data with
  | .error _ => (false, store)
  | .ok data =>
      match (handleTelemetry letters repr (createAlert services) data).run store with
      | (.ok _, store) => (true, store)
      | (.error _, store) => (false, store)

structure Delivery where
  message : Message
  acked : Bool
  store : Store

def deliver : Store → List Message → List Delivery × Store
  | store, [] => ([], store)
  | store, message :: messages =>
      let now := handler letters repr services loads message store
      let later := deliver now.2 messages
      (⟨message, now.1, now.2⟩ :: later.1, later.2)

def messageRequests (message : Message) : Except PyError (Value × List AlertRequest) := do
  let data ← loads message.data
  let batch ← telemetryBatch data
  return (batch.1, (asks letters repr batch.2).2)

/-- An ack means that each alert the message asks for is among the rows after the first `before`. -/
def AcksStored (before : Nat) (deliveries : List Delivery) : Prop :=
  ∀ d ∈ deliveries, d.acked = true → ∀ device requests,
    messageRequests letters repr loads d.message = .ok (device, requests) →
      ∀ request ∈ requests, ∃ row ∈ d.store.alerts.drop before, Stores services device request row

def contents (row : Orm.Fields Value) : Orm.Fields Value :=
  row.filter fun field => field.1 ≠ "id" ∧ field.1 ≠ "created_at"

def storedContents (store : Store) : Set (Orm.Fields Value) :=
  {c | ∃ row ∈ store.alerts, contents row = c}

def ExactlyOnce (store : Store) (messages : List Message) : Prop :=
  let run := deliver letters repr services loads store messages
  AcksStored letters repr services loads store.alerts.length run.1 ∧
    storedContents run.2 =
      storedContents (deliver letters repr services loads store messages.dedup).2

def acks (message : Message) : Bool :=
  match loads message.data with
  | .error _ => false
  | .ok data =>
      match telemetryBatch data with
      | .error _ => false
      | .ok batch => batch.2.all processable

theorem asks_isOk (events : List Value) :
    (asks letters repr events).1.isOk = events.all processable := by
  rw [asks_eq]
  cases all : events.all processable with
  | true =>
      rw [batchRequests_ok letters repr (List.all_eq_true.mp all)]
      rfl
  | false =>
      obtain ⟨error, raised⟩ := batchRequests_error letters repr
        (by simpa using all : ∃ e ∈ events, processable e = false)
      rw [raised]
      rfl

theorem handler_eq (message : Message) (store : Store) :
    handler letters repr services loads message store = (acks loads message, store) := by
  unfold handler acks
  cases loads message.data with
  | error e => rfl
  | ok data =>
      cases found : telemetryBatch data with
      | error e => simp only [handleTelemetry, found]; rfl
      | ok batch =>
          have code := processTelemetryBatch_store services batch.1 letters repr batch.2 store
          simp only [handleTelemetry, found, liftM_ok, pure_bind, ExceptT.run_bind]
          rw [← asks_isOk letters repr]
          simp only [bind, StateT.bind, code]
          cases (asks letters repr batch.2).1 <;> rfl

theorem deliver_eq (store : Store) (messages : List Message) :
    deliver letters repr services loads store messages =
      (messages.map fun message => ⟨message, acks loads message, store⟩, store) := by
  induction messages with
  | nil => rfl
  | cons message messages ih => simp only [deliver, handler_eq, ih, List.map_cons]

/-- The message has an event that cannot be processed, or asks for no alert, or is no telemetry. -/
def harmless (message : Message) : Bool :=
  match loads message.data with
  | .error _ => true
  | .ok data =>
      match telemetryBatch data with
      | .error _ => true
      | .ok batch => !batch.2.all processable || batch.2.all (quiet letters repr)

theorem harmless_iff (message : Message) : harmless letters repr loads message = true ↔
    (acks loads message = true → ∀ device requests,
      messageRequests letters repr loads message = .ok (device, requests) → requests = []) := by
  unfold harmless acks messageRequests
  cases loads message.data with
  | error e => simp
  | ok data =>
      cases found : telemetryBatch data with
      | error e => simp [found]
      | ok batch =>
          simp only [ok_bind, found, Bool.or_eq_true, Bool.not_eq_true']
          cases ok : batch.2.all processable with
          | false => simp
          | true =>
              have whole : batch.2.takeWhile processable = batch.2 :=
                List.takeWhile_eq_self_iff.mpr (List.all_eq_true.mp ok)
              have none := asks_eq_nil_iff letters repr batch.2
              rw [whole] at none
              simp only [List.all_eq_true, ← none]
              constructor
              · rintro (absurd | h) - device requests same
                · cases absurd
                · cases same
                  exact h
              · exact fun h => Or.inr (h trivial _ _ rfl)

theorem acksStored_iff (store : Store) (messages : List Message) :
    AcksStored letters repr services loads store.alerts.length
        (deliver letters repr services loads store messages).1 ↔
      ∀ message ∈ messages, harmless letters repr loads message = true := by
  simp only [AcksStored, deliver_eq, List.forall_mem_map, List.drop_length, harmless_iff]
  apply forall₂_congr
  intro message _
  apply imp_congr_right
  intro _
  apply forall₂_congr
  intro device requests
  apply imp_congr_right
  intro _
  rw [List.eq_nil_iff_forall_not_mem]
  simp

theorem exactlyOnce_iff (store : Store) (messages : List Message) :
    ExactlyOnce letters repr services loads store messages ↔
      ∀ message ∈ messages, harmless letters repr loads message = true := by
  rw [← acksStored_iff letters repr services loads store messages, ExactlyOnce]
  simp only [deliver_eq, and_true]

end

theorem acked_without_alert :
    let device := "4b0a5e0e-9a3c-4c6e-8f43-0c5b8f2d7a11"
    let services : Services :=
      ⟨.ok, fun _ => "9d0f2c1e-5b7a-4e7f-b0a8-2f6d1c3e4a55", fun _ => "2026-01-01T00:00:00+00:00",
        fun _ => true, fun _ => true⟩
    let event : Value := .obj [("event_type", .str "usb_event"), ("severity", .str "critical"),
      ("title", .str "USB storage connected"), ("details", .obj [])]
    let message : Value := .obj [("type", .str "telemetry"), ("device_id", .str device),
      ("data", .obj [("events", .arr [event])])]
    ¬ ExactlyOnce Letters.ascii (fun _ => "") services (fun _ => .ok message)
      ⟨[device], [], 0, [], []⟩ [⟨1, []⟩] := by
  rintro device services event message ⟨stored, -⟩
  have harmful : harmless Letters.ascii (fun _ => "") (fun _ => .ok message) ⟨1, []⟩ = false := by
    decide +kernel
  have harmless := (acksStored_iff Letters.ascii (fun _ => "") services (fun _ => .ok message)
    ⟨[device], [], 0, [], []⟩ [⟨1, []⟩]).mp stored ⟨1, []⟩ List.mem_cons_self
  rw [harmful] at harmless
  cases harmless

end GuardianPi.Backend
