import GuardianPi.Library.JsonText
import GuardianPi.Backend.ConnectionPool

namespace GuardianPi.Backend.WebSocket
open GuardianPi.Library

/-- What `json.loads` makes of a text; `raised` stands for an exception other than `JSONDecodeError`. -/
inductive Loaded (ν : Type) where
  | value (v : Json ν)
  | jsonDecodeError
  | raised

inductive Sent where
  | ok
  | webSocketDisconnect
  | raised

/-- What the handler of a socket receives, and what the tasks of other sockets do meanwhile. -/
inductive Turn {σ : Type*} (ws : σ) where
  | text (data : String) (pong : Sent)
  | webSocketDisconnect
  | raised
  | joined (channel : String) (other : σ) (apart : other ≠ ws)
  | dropped (channel : String) (other : σ)

inductive Ended where
  | returned
  | raised

def isPing {ν : Type} (fields : List (String × Json ν)) : Bool :=
  match Json.lookup "type" fields with
  | some (.str s) => s = "ping"
  | _ => false

section
variable {σ : Type*} [DecidableEq σ] {ν : Type} (loads : String → Loaded ν) (ws : σ)

def alertsLoop (c : Connections σ) : List (Turn ws) → Connections σ × Option Ended
  | [] => (c, none)
  | .joined channel other _ :: turns => alertsLoop (c.add channel other) turns
  | .dropped channel other :: turns => alertsLoop (c.discard channel other) turns
  | .webSocketDisconnect :: _ => (c.discard "alerts" ws, some .returned)
  | .raised :: _ => (c, some .raised)
  | .text data pong :: turns =>
      match loads data with
      | .jsonDecodeError => alertsLoop c turns
      | .raised => (c, some .raised)
      | .value (.obj fields) =>
          if isPing fields then
            match pong with
            | .ok => alertsLoop c turns
            | .webSocketDisconnect => (c.discard "alerts" ws, some .returned)
            | .raised => (c, some .raised)
          else alertsLoop c turns
      -- no other value has a method `get`
      | .value _ => (c, some .raised)

def alertsWebsocket (accepted : Bool) (c : Connections σ) (turns : List (Turn ws)) :
    Connections σ × Option Ended :=
  if accepted then alertsLoop loads ws (c.add "alerts" ws) turns else (c, some .raised)

def LeavesNothing (result : Connections σ × Option Ended) : Prop :=
  result.2.isSome → ∀ channel, ws ∉ result.1.get channel

variable {ws}

def Turn.Fails : Turn ws → Prop
  | text data pong =>
      match loads data with
      | .jsonDecodeError => False
      | .raised => True
      | .value (.obj fields) => isPing fields = true ∧ pong = .raised
      | .value _ => True
  | raised => True
  | _ => False

def Turn.Leaves : Turn ws → Prop
  | text data pong => ∃ fields, loads data = .value (.obj fields) ∧ isPing fields = true ∧
      pong = .webSocketDisconnect
  | webSocketDisconnect => True
  | _ => False

/-- If the handler fails, then after a broadcast has dropped the socket. -/
def FailsDropped (turns : List (Turn ws)) : Prop :=
  ∀ past turn rest, turns = past ++ turn :: rest → (∀ t ∈ past, ¬ t.Fails loads ∧ ¬ t.Leaves loads) →
    turn.Fails loads → .dropped "alerts" ws ∈ past

variable {loads}

omit [DecidableEq σ] in
theorem failsDropped_cons {turn : Turn ws} {turns : List (Turn ws)} :
    FailsDropped loads (turn :: turns) ↔ ¬ turn.Fails loads ∧
      (turn.Leaves loads ∨ turn = .dropped "alerts" ws ∨ FailsDropped loads turns) := by
  constructor
  · intro excused
    have alive : ¬ turn.Fails loads := by
      intro fails
      exact List.not_mem_nil (excused [] turn turns rfl (by simp) fails)
    refine ⟨alive, ?_⟩
    by_cases leaves : turn.Leaves loads
    · exact .inl leaves
    · by_cases drop : turn = .dropped "alerts" ws
      · exact .inr (.inl drop)
      · refine .inr (.inr fun past t rest split before fails => ?_)
        have here := excused (turn :: past) t rest (by rw [split, List.cons_append])
          (List.forall_mem_cons.mpr ⟨⟨alive, leaves⟩, before⟩) fails
        exact (List.mem_cons.mp here).resolve_left (Ne.symm drop)
  · rintro ⟨alive, later⟩ past t rest split before fails
    cases past with
    | nil =>
        obtain ⟨rfl, -⟩ := List.cons.inj split
        exact absurd fails alive
    | cons first past =>
        obtain ⟨rfl, same⟩ := List.cons.inj split
        obtain ⟨⟨-, stays⟩, before⟩ := List.forall_mem_cons.mp before
        rcases later with leaves | rfl | excused
        · exact absurd leaves stays
        · exact List.mem_cons_self
        · exact List.mem_cons_of_mem _ (excused past t rest same before fails)

omit [DecidableEq σ] in
theorem failsDropped_skip {turn : Turn ws} {turns : List (Turn ws)} (alive : ¬ turn.Fails loads)
    (stays : ¬ turn.Leaves loads) (keeps : turn ≠ .dropped "alerts" ws) :
    FailsDropped loads (turn :: turns) ↔ FailsDropped loads turns := by
  simp [failsDropped_cons, alive, stays, keeps]

omit [DecidableEq σ] in
theorem leavesNothing_raised {c : Connections σ} (outside : ∀ channel, channel ≠ "alerts" → ws ∉ c.get channel)
    {turn : Turn ws} {turns : List (Turn ws)} (fails : turn.Fails loads) :
    LeavesNothing ws (c, some .raised) ↔ (ws ∈ c.get "alerts" → FailsDropped loads (turn :: turns)) := by
  rw [failsDropped_cons]
  constructor
  · intro nothing here
    exact absurd here (nothing rfl "alerts")
  · intro excused _ channel here
    by_cases alerts : channel = "alerts"
    · exact (excused (alerts ▸ here)).1 fails
    · exact outside channel alerts here

theorem leavesNothing_returned {c : Connections σ} (outside : ∀ channel, channel ≠ "alerts" → ws ∉ c.get channel)
    {turn : Turn ws} {turns : List (Turn ws)} (alive : ¬ turn.Fails loads) (leaves : turn.Leaves loads) :
    LeavesNothing ws (c.discard "alerts" ws, some .returned) ↔
      (ws ∈ c.get "alerts" → FailsDropped loads (turn :: turns)) := by
  refine iff_of_true (fun _ channel here => ?_) fun _ => failsDropped_cons.mpr ⟨alive, .inl leaves⟩
  obtain ⟨here, kept⟩ := (mem_discard ..).mp here
  by_cases alerts : channel = "alerts"
  · exact kept ⟨alerts, rfl⟩
  · exact outside channel alerts here

theorem alertsLoop_text (c : Connections σ) (data : String) (pong : Sent) (turns : List (Turn ws)) :
    ((Turn.text data pong : Turn ws).Fails loads ∧
      alertsLoop loads ws c (.text data pong :: turns) = (c, some .raised)) ∨
    (¬ (Turn.text data pong : Turn ws).Fails loads ∧ (Turn.text data pong : Turn ws).Leaves loads ∧
      alertsLoop loads ws c (.text data pong :: turns) = (c.discard "alerts" ws, some .returned)) ∨
    (¬ (Turn.text data pong : Turn ws).Fails loads ∧ ¬ (Turn.text data pong : Turn ws).Leaves loads ∧
      alertsLoop loads ws c (.text data pong :: turns) = alertsLoop loads ws c turns) := by
  unfold Turn.Fails Turn.Leaves
  cases loaded : loads data with
  | jsonDecodeError => simp [alertsLoop, loaded]
  | raised => simp [alertsLoop, loaded]
  | value v =>
      cases v with
      | obj fields => cases ping : isPing fields <;> cases pong <;> simp [alertsLoop, loaded, ping]
      | null | bool | num | str | arr => simp [alertsLoop, loaded]

theorem alertsLoop_iff {c : Connections σ} (outside : ∀ channel, channel ≠ "alerts" → ws ∉ c.get channel)
    (turns : List (Turn ws)) : LeavesNothing ws (alertsLoop loads ws c turns) ↔
      (ws ∈ c.get "alerts" → FailsDropped loads turns) := by
  induction turns generalizing c with
  | nil =>
      refine iff_of_true (fun ended => by cases ended) fun _ past turn rest split => ?_
      simp at split
  | cons turn turns ih =>
      cases turn with
      | joined channel other apart =>
          have same : ∀ channel', ws ∈ (c.add channel other).get channel' ↔ ws ∈ c.get channel' := by
            intro channel'
            simp [mem_add, Ne.symm apart]
          have skip : FailsDropped loads (.joined channel other apart :: turns) ↔ FailsDropped loads turns :=
            failsDropped_skip id id nofun
          rw [alertsLoop, ih fun channel' elsewhere => (same channel').not.mpr (outside channel' elsewhere), same,
            skip]
      | dropped channel other =>
          rw [alertsLoop, ih fun channel' elsewhere here =>
            outside channel' elsewhere ((mem_discard ..).mp here).1, mem_discard]
          by_cases mine : channel = "alerts" ∧ other = ws
          · obtain ⟨rfl, rfl⟩ := mine
            exact iff_of_true (fun here => absurd ⟨rfl, rfl⟩ here.2) fun _ => failsDropped_cons.mpr ⟨id, .inr (.inl rfl)⟩
          · have skip : FailsDropped loads (.dropped channel other :: turns) ↔ FailsDropped loads turns :=
              failsDropped_skip id id fun same => by
                cases same
                exact mine ⟨rfl, rfl⟩
            have kept : ¬ ("alerts" = channel ∧ ws = other) := fun same => mine ⟨same.1.symm, same.2.symm⟩
            rw [skip, and_iff_left kept]
      | webSocketDisconnect => exact leavesNothing_returned outside id trivial
      | raised => exact leavesNothing_raised outside trivial
      | text data pong =>
          rcases alertsLoop_text c data pong turns with ⟨fails, run⟩ | ⟨alive, leaves, run⟩ | ⟨alive, stays, run⟩
          · rw [run]
            exact leavesNothing_raised outside fails
          · rw [run]
            exact leavesNothing_returned outside alive leaves
          · rw [run, failsDropped_skip alive stays nofun]
            exact ih outside

theorem outside_add {c : Connections σ} (fresh : ∀ channel, ws ∉ c.get channel) (channel : String)
    (elsewhere : channel ≠ "alerts") : ws ∉ (c.add "alerts" ws).get channel := by
  simp [mem_add, elsewhere, fresh channel]

theorem inside_add (c : Connections σ) : ws ∈ (c.add "alerts" ws).get "alerts" := (mem_add ..).mpr (.inl ⟨rfl, rfl⟩)

theorem leavesNothing_iff {c : Connections σ} (fresh : ∀ channel, ws ∉ c.get channel) (accepted : Bool)
    (turns : List (Turn ws)) : LeavesNothing ws (alertsWebsocket loads ws accepted c turns) ↔
      (accepted = true → FailsDropped loads turns) := by
  cases accepted with
  | false => exact iff_of_true (fun _ => fresh) nofun
  | true => simpa [alertsWebsocket, inside_add] using alertsLoop_iff (outside_add fresh) turns

end

def strictLoads (text : String) : Loaded Literal := (Json.loads text.toList).elim .jsonDecodeError .value

def readsOther (text : String) : Bool :=
  match Json.loads text.toList with
  | none | some (.obj _) => false
  | some _ => true

theorem text_fails_iff {σ : Type*} {ws : σ} (text : String) :
    (Turn.text text .ok : Turn ws).Fails strictLoads ↔ readsOther text = true := by
  rcases read : Json.loads text.toList with _ | v
  · simp [Turn.Fails, strictLoads, readsOther, read]
  · cases v <;> simp [Turn.Fails, strictLoads, readsOther, read]

theorem ping_leaves_nothing : LeavesNothing 0 (alertsWebsocket strictLoads 0 true .start
    [.text "ack" .ok, .text "\x7b\"type\": \"ping\"\x7d" .ok, .webSocketDisconnect]) := by
  refine (leavesNothing_iff (fun channel => by simp) true _).mpr fun _ => ?_
  refine failsDropped_cons.mpr ⟨(text_fails_iff _).not.mpr (by decide +kernel), .inr (.inr ?_)⟩
  refine failsDropped_cons.mpr ⟨(text_fails_iff _).not.mpr (by decide +kernel), .inr (.inr ?_)⟩
  exact failsDropped_cons.mpr ⟨id, .inl trivial⟩

theorem array_leaves_socket : ¬ ∀ (loads : String → Loaded Literal) (ws : Nat) (c : Connections Nat),
    (∀ channel, ws ∉ c.get channel) → ∀ accepted turns,
      LeavesNothing ws (alertsWebsocket loads ws accepted c turns) := by
  intro nothing
  have fresh : ∀ channel, 0 ∉ (Connections.start : Connections Nat).get channel := fun channel => by simp
  have fails : (.text "[]" .ok : Turn 0).Fails strictLoads := (text_fails_iff _).mpr (by decide +kernel)
  have loop : LeavesNothing 0 (alertsLoop strictLoads 0 (Connections.start.add "alerts" 0) [.text "[]" .ok]) :=
    nothing strictLoads 0 .start fresh true [.text "[]" .ok]
  have dropped := (alertsLoop_iff (outside_add fresh) _).mp loop (inside_add _)
  exact List.not_mem_nil (dropped [] _ [] rfl (by simp) fails)

end GuardianPi.Backend.WebSocket
