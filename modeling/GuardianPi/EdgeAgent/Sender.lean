import GuardianPi.EdgeAgent.DiskQueue
import GuardianPi.EdgeAgent.Marshal
import GuardianPi.Library.Calendar
import GuardianPi.Library.Slice
import GuardianPi.Library.Transition

namespace GuardianPi.EdgeAgent
open GuardianPi.Library

structure Event where
  eventType : String
  severity : String
  title : String
  details : Option (List (String × GoValue))
  timestamp : String

instance : Inhabited Event := ⟨⟨"", "", "", none, ""⟩⟩

def detailsValue (details : Option (List (String × GoValue))) : GoValue :=
  match details with
  | none => .null
  | some fields => .obj fields

def Event.value (e : Event) : GoValue :=
  .obj [("event_type", .str e.eventType), ("severity", .str e.severity), ("title", .str e.title),
    ("details", detailsValue e.details), ("timestamp", .str e.timestamp)]

def batchValue (batch : List Event) : GoValue := .arr (batch.map Event.value)

def payloadValue (deviceID timestamp : String) (batch : List Event) : GoValue :=
  .obj [("data", .obj [("events", batchValue batch)]), ("device_id", .str deviceID),
    ("timestamp", .str timestamp)]

/-- `time.Now().UTC().Format(time.RFC3339)` at a clock reading in nanoseconds. -/
def formatRFC3339 (now : Int) : String :=
  let seconds := now / 1000000000
  let date := civil (seconds / 86400)
  let clock := seconds % 86400
  padded 4 date.1 ++ "-" ++ padded 2 date.2.1 ++ "-" ++ padded 2 date.2.2 ++ "T" ++
    padded 2 (clock / 3600) ++ ":" ++ padded 2 (clock / 60 % 60) ++ ":" ++ padded 2 (clock % 60) ++ "Z"

example : formatRFC3339 1709210096123456789 = "2024-02-29T12:34:56Z" := by decide

structure AgentConfig where
  deviceID : String
  batchSize : Nat
  maxQueueSizeMB : Int

/-- The outcomes the sender does not control: clock readings, whether each `client.Post` returns
without an error, and the file operations of each queue call. -/
structure Env where
  now : Nat → Int
  post : Nat → Bool
  files : Nat → FileOutcomes

inductive Call where
  | post (path : String) (body : Bytes) (ok : Bool)
  | enqueue (found : Directory) (data : Bytes)
  | dequeue (data : Option Bytes)

structure World where
  dir : Directory
  calls : List Call
  readings : Nat
  posts : Nat
  queueCalls : Nat

def World.start (dir : Directory) : World := ⟨dir, [], 0, 0, 0⟩

def ingestPath : String := "/api/v1/telemetry/ingest"

def AgentConfig.queue (cfg : AgentConfig) : DiskQueue := ⟨cfg.maxQueueSizeMB⟩

section
variable (cfg : AgentConfig) (env : Env)

def post (body : Bytes) (w : World) : Bool × World :=
  let ok := env.post w.posts
  (ok, { w with calls := w.calls ++ [.post ingestPath body ok], posts := w.posts + 1 })

def enqueue (data : Bytes) (w : World) : World :=
  let r := cfg.queue.enqueue (env.files w.queueCalls) (env.now w.readings) data w.dir
  { w with
    dir := r.2
    calls := w.calls ++ [.enqueue w.dir data]
    readings := w.readings + 1
    queueCalls := w.queueCalls + 1 }

def dequeue (w : World) : Option Bytes × World :=
  let r := DiskQueue.dequeue (env.files w.queueCalls) w.dir
  (r.1, { w with dir := r.2, calls := w.calls ++ [.dequeue r.1], queueCalls := w.queueCalls + 1 })

/-- The body is nil where `json.Marshal` refuses the payload. -/
def sendBatch (batch : List Event) (w : World) : World :=
  let timestamp := formatRFC3339 (env.now w.readings)
  let body := (marshal (payloadValue cfg.deviceID timestamp batch)).getD []
  let r := post env body { w with readings := w.readings + 1 }
  if r.1 then r.2 else enqueue cfg env body r.2

def drainQueue : Nat → World → Option World
  | 0, _ => none
  | fuel + 1, w =>
      let r := dequeue env w
      match r.1 with
      | none => some r.2
      | some data =>
          let s := post env data r.2
          if s.1 then drainQueue fuel s.2 else some (enqueue cfg env data s.2)

inductive Input where
  | done
  | event (e : Event)
  | tick

structure Sender where
  batch : Slice Event
  world : World
  stopped : Bool

def Sender.start (dir : Directory) : Sender :=
  ⟨Slice.make cfg.batchSize, World.start dir, false⟩

def flushOnDone (s : Sender) : World :=
  if 0 < s.batch.len then
    enqueue cfg env ((marshal (batchValue s.batch.toList)).getD []) s.world
  else s.world

def onEvent (e : Event) (s : Sender) : Sender :=
  let batch := s.batch.append e
  if cfg.batchSize ≤ batch.len then
    { s with batch := batch.reset, world := sendBatch cfg env batch.toList s.world }
  else { s with batch }

def sendPending (s : Sender) : Sender :=
  if 0 < s.batch.len then
    { s with batch := s.batch.reset, world := sendBatch cfg env s.batch.toList s.world }
  else s

def senderStep (fuel : Nat) (s : Sender) (i : Input) : Option Sender :=
  if s.stopped then none
  else
    match i with
    | .done => some { s with world := flushOnDone cfg env s, stopped := true }
    | .event e => some (onEvent cfg env e s)
    | .tick =>
        let sent := sendPending cfg env s
        (drainQueue cfg env fuel sent.world).map fun w => { sent with world := w }

end

end GuardianPi.EdgeAgent
