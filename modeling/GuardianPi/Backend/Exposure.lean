import GuardianPi.Backend.AlertStore
import GuardianPi.Backend.Endpoints
import GuardianPi.Library.TwoRuns

namespace GuardianPi.Backend
open GuardianPi.Library GuardianPi.Library.Python

inductive Channel where
  | alerts
  | devices
  | telemetry
  deriving DecidableEq

structure Socket where
  channel : Channel
  isOpen : Bool
  pooled : Bool

structure Gateway where
  tables : Tables
  sockets : List Socket

inductive Seen where
  | response (r : HttpResponse)
  | accepted
  | frame (socket : Nat) (message : Value)
  | closed (socket : Nat)

namespace Gateway

def setSocket (s : Gateway) (i : Nat) (socket : Socket) : Gateway :=
  { s with sockets := s.sockets.set i socket }

def connect (s : Gateway) (channel : Channel) : List Seen × Gateway :=
  ([.accepted], { s with sockets := s.sockets ++ [⟨channel, true, true⟩] })

def listeners (s : Gateway) (channel : Channel) : List Nat :=
  (s.sockets.findIdxs fun socket => socket.channel = channel ∧ socket.pooled ∧ socket.isOpen)

/-- A connection to which sending fails leaves the pool. -/
def broadcast (s : Gateway) (channel : Channel) (message : Value) : List Seen × Gateway :=
  ((s.listeners channel).map fun i => .frame i message,
    { s with sockets := s.sockets.map fun socket =>
        if socket.channel = channel then { socket with pooled := socket.pooled && socket.isOpen }
        else socket })

end Gateway

def pong (timestamp : String) : Value :=
  .obj [("type", .str "pong"), ("timestamp", .str timestamp)]

def deviceUpdateMessage (data : Value) (timestamp : String) : Value :=
  .obj [("type", .str "device_update"), ("data", data), ("timestamp", .str timestamp)]

inductive Reply where
  | silent
  | message (v : Value)
  | crash

section
variable (loads : String → Option Value)

/-- What `/ws/alerts` does with a text: `msg.get` of what is no object raises. -/
def alertsReply (text timestamp : String) : Reply :=
  match loads text with
  | none => .silent
  | some (.obj fields) =>
      if (claim "type" fields).isStr "ping" then .message (pong timestamp) else .silent
  | some _ => .crash

def reply (channel : Channel) (text timestamp : String) : Reply :=
  match channel with
  | .alerts => alertsReply loads text timestamp
  | .devices | .telemetry => .silent

/-- An exception other than a disconnection ends the handler and leaves the socket in the pool. -/
def Gateway.receiveText (s : Gateway) (i : Nat) (text timestamp : String) : List Seen × Gateway :=
  match s.sockets[i]? with
  | some ⟨channel, true, pooled⟩ =>
      match reply loads channel text timestamp with
      | .silent => ([], s)
      | .message v => ([.frame i v], s)
      | .crash => ([.closed i], s.setSocket i ⟨channel, false, pooled⟩)
  | _ => ([], s)

def Gateway.disconnect (s : Gateway) (i : Nat) : List Seen × Gateway :=
  match s.sockets[i]? with
  | some socket => ([], s.setSocket i { socket with isOpen := false, pooled := false })
  | none => ([], s)

inductive ClientAct (Token : Type) where
  | request (r : ClientRequest Token)
  | connect (channel : Channel)
  | sendText (socket : Nat) (text : String)
  | disconnect (socket : Nat)

structure Visit (Token : Type) where
  users : List User
  now : Int
  timestamp : String
  act : ClientAct Token

/-- What two runs have in common: the acts of the client, and what else is stored of alerts and
devices. -/
inductive CommonEvent (Token : Type) where
  | visit (v : Visit Token)
  | store (alerts devices : List (Orm.Fields Value))

inductive HiddenEvent where
  | policies (policies : List Policy)
  | alert (data : Value) (timestamp : String)
  | deviceUpdate (data : Value) (timestamp : String)

def Gateway.hidden (s : Gateway) : HiddenEvent → List Seen × Gateway
  | .policies policies => ([], { s with tables := { s.tables with policies := policies } })
  | .alert data timestamp => s.broadcast .alerts (newAlertMessage data timestamp)
  | .deviceUpdate data timestamp => s.broadcast .devices (deviceUpdateMessage data timestamp)

variable {Token : Type} (sec : Security Token) (handlers : Handlers)

def Gateway.visit (s : Gateway) (v : Visit Token) : List Seen × Gateway :=
  match v.act with
  | .request r =>
      let answered := answer sec handlers v.users v.now s.tables r
      ([.response answered.1], { s with tables := answered.2 })
  | .connect channel => s.connect channel
  | .sendText i text => s.receiveText loads i text v.timestamp
  | .disconnect i => s.disconnect i

def Gateway.common (s : Gateway) : CommonEvent Token → List Seen × Gateway
  | .visit v => s.visit loads sec handlers v
  | .store alerts devices =>
      ([], { s with tables := { s.tables with alerts := alerts, devices := devices } })

def ClientAct.Unauthenticated (now : Int) : ClientAct Token → Prop
  | .request r => r.Unauthenticated sec now
  | _ => True

def ClientAct.Reveals : ClientAct Token → Prop
  | .request r => r.Reveals
  | .connect channel => channel ≠ .telemetry
  | _ => False

def CommonEvent.Unauthenticated : CommonEvent Token → Prop
  | .visit v => v.act.Unauthenticated sec v.now
  | .store _ _ => True

def CommonEvent.Reveals : CommonEvent Token → Prop
  | .visit v => v.act.Reveals
  | .store _ _ => False

def seen (alerts devices : List (Orm.Fields Value)) (policies : List Policy)
    (events : Schedule (CommonEvent Token) HiddenEvent) : List Seen :=
  observe (Gateway.common loads sec handlers) Gateway.hidden ⟨⟨policies, alerts, devices⟩, []⟩ events

/-- Whatever the policies are and whatever is broadcast, the client sees the same. -/
def LearnsNothing (alerts devices : List (Orm.Fields Value)) (common : List (CommonEvent Token)) : Prop :=
  ∀ (policies policies' : List Policy) (events events' : Schedule (CommonEvent Token) HiddenEvent),
    events.acts = common → events'.acts = common →
      seen loads sec handlers alerts devices policies events =
        seen loads sec handlers alerts devices policies' events'

def Gateway.Telemetry (s : Gateway) : Prop := ∀ socket ∈ s.sockets, socket.channel = .telemetry

structure Alike (s t : Gateway) : Prop where
  sockets : s.sockets = t.sockets
  telemetry : s.Telemetry

theorem broadcast_telemetry {s : Gateway} {channel : Channel} (message : Value)
    (telemetry : s.Telemetry) (other : channel ≠ .telemetry) : s.broadcast channel message = ([], s) := by
  have apart : ∀ socket ∈ s.sockets, ¬ socket.channel = channel := by
    intro socket member same
    exact other (same.symm.trans (telemetry socket member))
  have none : s.listeners channel = [] := by
    apply List.findIdxs_eq_nil_iff.mpr
    intro socket member
    exact decide_eq_false fun listens => apart socket member listens.1
  have same : s.sockets.map (fun socket => if socket.channel = channel then
      { socket with pooled := socket.pooled && socket.isOpen } else socket) = s.sockets :=
    (List.map_congr_left fun socket member => if_neg (apart socket member)).trans (List.map_id' _)
  rw [Gateway.broadcast, none, same]
  rfl

theorem telemetry_setSocket {s : Gateway} (telemetry : s.Telemetry) {i : Nat} {socket : Socket}
    (same : socket.channel = .telemetry) : (s.setSocket i socket).Telemetry := by
  intro other member
  rcases List.mem_or_eq_of_mem_set member with old | rfl
  · exact telemetry other old
  · exact same

variable {loads sec handlers}

theorem receiveText_telemetry {s : Gateway} (telemetry : s.Telemetry) (i : Nat) (text timestamp : String) :
    s.receiveText loads i text timestamp = ([], s) := by
  unfold Gateway.receiveText
  cases found : s.sockets[i]? with
  | none => rfl
  | some socket =>
      obtain ⟨channel, isOpen, pooled⟩ := socket
      obtain rfl : channel = .telemetry := telemetry _ (List.mem_of_getElem? found)
      cases isOpen <;> rfl

theorem alike_visit {s t : Gateway} (alike : Alike s t) {v : Visit Token}
    (unauthenticated : v.act.Unauthenticated sec v.now) (closed : ¬ v.act.Reveals) :
    (s.visit loads sec handlers v).1 = (t.visit loads sec handlers v).1 ∧
      Alike (s.visit loads sec handlers v).2 (t.visit loads sec handlers v).2 := by
  obtain ⟨users, now, timestamp, act⟩ := v
  obtain ⟨sockets, telemetry⟩ := alike
  have telemetry' : t.Telemetry := by
    rw [Gateway.Telemetry, ← sockets]
    exact telemetry
  cases act with
  | request r =>
      have ⟨response, answered⟩ : ∃ response, ∀ tables, answer sec handlers users now tables r =
          (response, tables) := answer_unauthenticated unauthenticated closed handlers
      simp only [Gateway.visit, answered]
      exact ⟨trivial, sockets, telemetry⟩
  | connect channel =>
      obtain rfl : channel = .telemetry := Classical.not_not.mp closed
      refine ⟨rfl, congrArg (· ++ _) sockets, fun socket member => ?_⟩
      rcases List.mem_append.mp member with old | new
      · exact telemetry socket old
      · obtain rfl := List.mem_singleton.mp new
        rfl
  | sendText i text =>
      simp only [Gateway.visit, receiveText_telemetry telemetry, receiveText_telemetry telemetry']
      exact ⟨trivial, sockets, telemetry⟩
  | disconnect i =>
      simp only [Gateway.visit, Gateway.disconnect, ← sockets]
      cases found : s.sockets[i]? with
      | none => exact ⟨rfl, sockets, telemetry⟩
      | some socket =>
          refine ⟨rfl, congrArg (List.set · i _) sockets, ?_⟩
          exact telemetry_setSocket telemetry (telemetry socket (List.mem_of_getElem? found))

theorem unwinds : Unwinds (Gateway.common loads sec handlers) Gateway.hidden Alike
    fun e => e.Unauthenticated sec ∧ ¬ e.Reveals where
  act := by
    intro s t e alike allowed
    cases e with
    | visit v => exact alike_visit alike allowed.1 allowed.2
    | store alerts devices => exact ⟨rfl, alike.sockets, alike.telemetry⟩
  hidden := by
    intro s t h alike
    cases h with
    | policies policies => exact ⟨rfl, alike.sockets, alike.telemetry⟩
    | alert data timestamp =>
        rw [Gateway.hidden, broadcast_telemetry _ alike.telemetry (by decide)]
        exact ⟨rfl, alike⟩
    | deviceUpdate data timestamp =>
        rw [Gateway.hidden, broadcast_telemetry _ alike.telemetry (by decide)]
        exact ⟨rfl, alike⟩

def agentPolicy (osType : String) : Policy := ⟨"", "", .obj [], "medium", true, some [osType]⟩

theorem getAgentPolicies_ne (alerts devices : List (Orm.Fields Value)) (osType : String) :
    getAgentPolicies ⟨[], alerts, devices⟩ osType ≠
      getAgentPolicies ⟨[agentPolicy osType], alerts, devices⟩ osType := by
  have targets : (agentPolicy osType).targets osType = true := List.contains_iff_mem.mpr
    (List.mem_singleton_self _)
  have matching : getAgentPolicies ⟨[agentPolicy osType], alerts, devices⟩ osType =
      .obj [("policies", .arr [(agentPolicy osType).content])] := by
    have kept : [agentPolicy osType].filter (fun p => p.targets osType) = [agentPolicy osType] :=
      List.filter_cons_of_pos targets
    change Json.obj [("policies", .arr (([agentPolicy osType].filter fun p => p.targets osType).map
      Policy.content))] = _
    rw [kept]
    rfl
  rw [matching]
  intro same
  cases same

theorem broadcast_connect_ne (s : Gateway) (channel : Channel) {message message' : Value}
    (differ : message ≠ message') :
    ((s.connect channel).2.broadcast channel message).1 ≠
      ((s.connect channel).2.broadcast channel message').1 := by
  have listens : s.sockets.length ∈ (s.connect channel).2.listeners channel := by
    simp [Gateway.listeners, Gateway.connect]
  intro same
  have frame := List.map_inj_left.mp same _ listens
  exact differ (Seen.frame.inj frame).2

theorem observe_connect (s : Gateway) {users : List User} {now : Int} {timestamp : String}
    {channel : Channel} {e : HiddenEvent} {message : Value}
    (sends : ∀ s, Gateway.hidden s e = s.broadcast channel message) :
    observe (Gateway.common loads sec handlers) Gateway.hidden s
        [.inl (.visit ⟨users, now, timestamp, .connect channel⟩), .inr e] =
      .accepted :: ((s.connect channel).2.broadcast channel message).1 := by
  change [Seen.accepted] ++ ((Gateway.hidden (s.connect channel).2 e).1 ++ []) = _
  rw [sends, List.append_nil]
  rfl

theorem not_learnsNothing {alerts devices : List (Orm.Fields Value)} {common : List (CommonEvent Token)}
    {v : Visit Token} (member : .visit v ∈ common) (reveals : v.act.Reveals) :
    ¬ LearnsNothing loads sec handlers alerts devices common := by
  obtain ⟨first, last, rfl⟩ := List.append_of_mem member
  intro nothing
  have same (part part' : Schedule (CommonEvent Token) HiddenEvent) (acts : part.acts = [.visit v])
      (acts' : part'.acts = [.visit v])
      (long : ∀ s, (observe (Gateway.common loads sec handlers) Gateway.hidden s part).length =
        (observe (Gateway.common loads sec handlers) Gateway.hidden s part').length)
      (differ : ∀ s, observe (Gateway.common loads sec handlers) Gateway.hidden s part ≠
        observe (Gateway.common loads sec handlers) Gateway.hidden s part') : False := by
    have whole (p : Schedule (CommonEvent Token) HiddenEvent) (one : p.acts = [.visit v]) :
        Schedule.acts (first.map Sum.inl ++ p ++ last.map Sum.inl) = first ++ .visit v :: last := by
      rw [Schedule.acts_append, Schedule.acts_append, Schedule.acts_map_inl, Schedule.acts_map_inl, one,
        List.append_assoc]
      rfl
    exact observe_ne (long _) (differ _) (nothing [] [] _ _ (whole part acts) (whole part' acts'))
  obtain ⟨users, now, timestamp, act⟩ := v
  cases act with
  | request r =>
      cases r with
      | getAgentPolicies osType =>
          apply same [.inr (.policies []), .inl _] [.inr (.policies [agentPolicy osType]), .inl _] rfl rfl
            fun _ => rfl
          intro s shown
          have content := congrArg HttpResponse.content (Seen.response.inj (List.cons.inj shown).1)
          exact getAgentPolicies_ne s.tables.alerts s.tables.devices osType content
      | _ => cases reveals
  | connect channel =>
      have heard {e e' : HiddenEvent} {message message' : Value}
          (sends : ∀ s, Gateway.hidden s e = s.broadcast channel message)
          (sends' : ∀ s, Gateway.hidden s e' = s.broadcast channel message')
          (differ : message ≠ message') : False := by
        apply same [.inl _, .inr e] [.inl _, .inr e'] rfl rfl
        · intro s
          rw [observe_connect s sends, observe_connect s sends']
          simp only [Gateway.broadcast, List.length_cons, List.length_map]
        · intro s shown
          rw [observe_connect s sends, observe_connect s sends'] at shown
          exact broadcast_connect_ne s channel differ (List.cons.inj shown).2
      cases channel with
      | telemetry => exact reveals rfl
      | alerts =>
          refine @heard (.alert (.bool true) "") (.alert (.bool false) "") _ _ (fun _ => rfl)
            (fun _ => rfl) ?_
          intro equal
          cases equal
      | devices =>
          refine @heard (.deviceUpdate (.bool true) "") (.deviceUpdate (.bool false) "") _ _
            (fun _ => rfl) (fun _ => rfl) ?_
          intro equal
          cases equal
  | _ => cases reveals

end

theorem learnsNothing_iff {Token : Type} (loads : String → Option Value) (sec : Security Token)
    (handlers : Handlers) (alerts devices : List (Orm.Fields Value)) (common : List (CommonEvent Token))
    (unauthenticated : ∀ e ∈ common, e.Unauthenticated sec) :
    LearnsNothing loads sec handlers alerts devices common ↔ ∀ e ∈ common, ¬ e.Reveals := by
  constructor
  · intro nothing e member reveals
    cases e with
    | visit v => exact not_learnsNothing member reveals nothing
    | store _ _ => exact reveals
  · intro closed policies policies' events events' acts acts'
    have empty (tables tables' : Tables) : Alike ⟨tables, []⟩ ⟨tables', []⟩ :=
      ⟨rfl, List.forall_mem_nil _⟩
    apply unwinds.observe_eq (empty _ _) (empty _ _) (acts.trans acts'.symm)
    rw [acts]
    intro e member
    exact ⟨unauthenticated e member, closed e member⟩

theorem refused_client_learns_nothing :
    let sec := plainSecurity ["gpi_key"]
    let handlers : Handlers := fun _ _ _ tables => (⟨200, .null, []⟩, tables)
    let expired := createAccessToken sec "4b0a5e0e-9a3c-4c6e-8f43-0c5b8f2d7a11" "admin" [] 100 "0"
    LearnsNothing (fun _ => none) sec handlers [] [] [
      .visit ⟨[], 10000, "", .request (.guarded .listPolicies (some expired) none (.accepted .null))⟩,
      .store [[]] [],
      .visit ⟨[], 10000, "", .request (.guarded .createAlert none (some "gpi_guess") (.accepted .null))⟩,
      .visit ⟨[], 10000, "", .connect .telemetry⟩] := by
  intro sec handlers expired
  have dead : ¬ ValidAccessToken sec 10000 expired := by
    rintro ⟨payload, decoded, -⟩
    obtain ⟨same, live⟩ := (sec.jwt.decode_eq_some_iff 10000 expired payload).mp decoded
    obtain rfl : accessPayload sec "4b0a5e0e-9a3c-4c6e-8f43-0c5b8f2d7a11" "admin" [] 100 "0" =
      payload := same
    have live : unexpired 10000
        (accessPayload sec "4b0a5e0e-9a3c-4c6e-8f43-0c5b8f2d7a11" "admin" [] 100 "0") := live
    exact absurd live (by decide)
  have guessed : "gpi_guess" ∉ sec.agentApiKeys := by decide
  apply (learnsNothing_iff (fun _ => none) sec handlers [] [] _ ?_).mpr
  · simp [CommonEvent.Reveals, ClientAct.Reveals, ClientRequest.Reveals]
  · simp [CommonEvent.Unauthenticated, ClientAct.Unauthenticated, ClientRequest.Unauthenticated, dead,
      guessed]

theorem policies_and_alerts_shown :
    let sec := plainSecurity ["gpi_key"]
    let handlers : Handlers := fun _ _ _ tables => (⟨200, .null, []⟩, tables)
    ¬ LearnsNothing (fun _ => none) sec handlers [] []
      [.visit ⟨[], 0, "", .request (.getAgentPolicies "linux")⟩] ∧
    ¬ LearnsNothing (fun _ => none) sec handlers [] [] [.visit ⟨[], 0, "", .connect .alerts⟩] := by
  intro sec handlers
  constructor
  · exact not_learnsNothing (List.mem_singleton_self _) trivial
  · exact not_learnsNothing (List.mem_singleton_self _) (show Channel.alerts ≠ .telemetry by decide)

end GuardianPi.Backend
