import GuardianPi.Library.Encodings
import Mathlib.Data.List.DropRight

namespace GuardianPi.Agent
open GuardianPi.Library GuardianPi.Library.Python

structure TelemetryCrypto where
  key : List UInt8
  accepted : acceptsKey key = true

def TelemetryCrypto.ofKey (keyB64 : String) : Except PyError TelemetryCrypto :=
  (b64decode keyB64).bind fun key =>
    if accepted : acceptsKey key = true then .ok ⟨key, accepted⟩ else .error .valueError

/-- `os.urandom(12)` -/
abbrev Nonce := { nonce : List UInt8 // nonce.length = 12 }

def b64text (bytes : List UInt8) : String := String.ofList (b64encode bytes)

def TelemetryCrypto.encrypt (aes : AESGCM) (nonce : Nonce) (crypto : TelemetryCrypto)
    (data : Json Literal) : List (String × Json Literal) :=
  let ciphertext := aes.encrypt crypto.key nonce (dumps data)
  let ct := ciphertext.take (ciphertext.length - 16)
  let tag := ciphertext.drop (ciphertext.length - 16)
  [("encrypted_data", .str (b64text ct)), ("nonce", .str (b64text nonce)), ("tag", .str (b64text tag))]

structure QueueCall where
  eventType : String
  severity : String
  details : List (String × Json Literal)
  timestamp : String

structure Event where
  eventType : String
  severity : String
  details : List (String × Json Literal)
  title : Json Literal
  timestamp : String

def QueueCall.event (c : QueueCall) : Event where
  eventType := c.eventType
  severity := c.severity
  details := c.details
  title := (Json.lookup "title" c.details).getD (.str (c.eventType ++ " event"))
  timestamp := c.timestamp

def Event.dict (e : Event) : Json Literal :=
  .obj [("event_type", .str e.eventType), ("severity", .str e.severity), ("details", .obj e.details),
    ("title", e.title), ("timestamp", .str e.timestamp)]

structure TelemetrySender where
  queue : List Event
  crypto : Option TelemetryCrypto

def maxQueue : Nat := 100

def TelemetrySender.start (encryptionKey : Option String) : Except PyError TelemetrySender :=
  match encryptionKey with
  | none => .ok ⟨[], none⟩
  | some key => if key = "" then .ok ⟨[], none⟩ else (TelemetryCrypto.ofKey key).map (⟨[], some ·⟩)

def TelemetrySender.queueEvent (s : TelemetrySender) (c : QueueCall) : TelemetrySender :=
  let queue := s.queue ++ [c.event]
  { s with queue := if maxQueue ≤ queue.length then queue.rtake maxQueue else queue }

def eventsPayload (events : List Event) : Json Literal :=
  .obj [("events", .arr (events.map Event.dict))]

def TelemetrySender.envelope (aes : AESGCM) (nonce : Nonce) (s : TelemetrySender) :
    List (String × Json Literal) :=
  match s.crypto with
  | some crypto => crypto.encrypt aes nonce (eventsPayload s.queue)
  | none => [("data", eventsPayload s.queue)]

def TelemetrySender.document (aes : AESGCM) (nonce : Nonce) (timestamp : String)
    (s : TelemetrySender) : Json Literal :=
  .obj ([("device_id", .str "self"), ("timestamp", .str timestamp)] ++ s.envelope aes nonce)

def TelemetrySender.flushBody (aes : AESGCM) (nonce : Nonce) (timestamp : String)
    (s : TelemetrySender) : Option (List UInt8) :=
  if s.queue.isEmpty then none else some (dumps (s.document aes nonce timestamp))

theorem rtake_of_length_le {α : Type} {n : Nat} {xs : List α} (short : xs.length ≤ n) :
    xs.rtake n = xs := by
  rw [List.rtake, Nat.sub_eq_zero_of_le short, List.drop_zero]

theorem rtake_rtake_concat {α : Type} (n : Nat) (xs : List α) (x : α) :
    (xs.rtake n ++ [x]).rtake n = (xs ++ [x]).rtake n := by
  cases n with
  | zero => rw [List.rtake_zero, List.rtake_zero]
  | succ n =>
      rw [List.rtake_concat_succ, List.rtake_concat_succ]
      simp [List.rtake_eq_reverse_take_reverse, List.take_take]

theorem queueEvent_queue (s : TelemetrySender) (c : QueueCall) :
    (s.queueEvent c).queue = (s.queue ++ [c.event]).rtake maxQueue := by
  simp only [TelemetrySender.queueEvent]
  split_ifs with full
  · rfl
  · exact (rtake_of_length_le (Nat.le_of_not_le full)).symm

theorem queueAll_queue (s : TelemetrySender) (empty : s.queue = []) (calls : List QueueCall) :
    (calls.foldl TelemetrySender.queueEvent s).queue = (calls.map QueueCall.event).rtake maxQueue := by
  induction calls using List.reverseRecOn with
  | nil => simpa using empty
  | append_singleton calls c ih =>
      rw [List.foldl_append, List.foldl_cons, List.foldl_nil, queueEvent_queue, ih, List.map_append]
      exact rtake_rtake_concat _ _ _

theorem queueAll_crypto (s : TelemetrySender) (calls : List QueueCall) :
    (calls.foldl TelemetrySender.queueEvent s).crypto = s.crypto := by
  induction calls generalizing s with
  | nil => rfl
  | cons c calls ih => exact ih (s.queueEvent c)

end GuardianPi.Agent
