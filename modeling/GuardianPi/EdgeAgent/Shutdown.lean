import GuardianPi.EdgeAgent.Conservation
import Mathlib.Data.List.Flatten

namespace GuardianPi.EdgeAgent
open GuardianPi.Library

inductive Collector where
  | telemetry
  | processMonitor
  | fileIntegrity
  | networkMonitor
  | detectionEngine
  deriving DecidableEq

structure Loop where
  pending : List Event
  returned : Bool

/-- `main` with its goroutines. `sent` records the events whose send has completed. -/
structure Agent where
  loops : Collector → Loop
  eventCh : List Event
  sender : Sender
  cancelled : Bool
  sent : List Event

def channelCapacity : Nat := 500

def Agent.start (cfg : AgentConfig) (dir : Directory) : Agent :=
  ⟨fun _ => ⟨[], false⟩, [], Sender.start cfg dir, false, []⟩

def Agent.setLoop (s : Agent) (c : Collector) (loop : Loop) : Agent :=
  { s with loops := Function.update s.loops c loop }

def Agent.push (s : Agent) (c : Collector) (e : Event) (rest : List Event) : Agent :=
  { s.setLoop c ⟨rest, false⟩ with eventCh := s.eventCh ++ [e], sent := s.sent ++ [e] }

theorem setLoop_self (s : Agent) (c : Collector) (loop : Loop) :
    (s.setLoop c loop).loops c = loop := Function.update_self ..

theorem setLoop_of_ne (s : Agent) {c d : Collector} (differ : d ≠ c) (loop : Loop) :
    (s.setLoop c loop).loops d = s.loops d := Function.update_of_ne differ ..

inductive Move where
  | tick (c : Collector) (events : List Event)
  | send (c : Collector)
  | leave (c : Collector)
  | cancel
  | receive
  | flush
  | done

section
variable (cfg : AgentConfig) (env : Env) (fuel : Nat)

/-- Each loop looks at the cancellation between its ticks only, and may take another tick even then.
The file integrity loop also returns by itself. -/
def agentStep (s : Agent) : Move → Option Agent
  | .tick c events =>
      if (s.loops c).pending.isEmpty && !(s.loops c).returned then
        some (s.setLoop c ⟨events, false⟩)
      else none
  | .send c =>
      match (s.loops c).pending with
      | [] => none
      | e :: rest =>
          if s.eventCh.length < channelCapacity then some (s.push c e rest) else none
  | .leave c =>
      if (s.loops c).pending.isEmpty && (s.cancelled || c = .fileIntegrity) then
        some (s.setLoop c ⟨[], true⟩)
      else none
  | .cancel => some { s with cancelled := true }
  | .receive =>
      match s.eventCh with
      | [] => none
      | e :: rest =>
          (senderStep cfg env fuel s.sender (.event e)).map fun sender =>
            { s with eventCh := rest, sender }
  | .flush => (senderStep cfg env fuel s.sender .tick).map fun sender => { s with sender }
  | .done =>
      if s.cancelled then
        (senderStep cfg env fuel s.sender .done).map fun sender => { s with sender }
      else none

inductive AgentSteps (s : Agent) : Move → Agent → Prop
  | tick (c : Collector) (events : List Event) (idle : (s.loops c).pending = [])
      (running : (s.loops c).returned = false) :
      AgentSteps s (.tick c events) (s.setLoop c ⟨events, false⟩)
  | send (c : Collector) (e : Event) (rest : List Event) (next : (s.loops c).pending = e :: rest)
      (room : s.eventCh.length < channelCapacity) :
      AgentSteps s (.send c) (s.push c e rest)
  | leave (c : Collector) (idle : (s.loops c).pending = [])
      (may : s.cancelled = true ∨ c = .fileIntegrity) :
      AgentSteps s (.leave c) (s.setLoop c ⟨[], true⟩)
  | cancel : AgentSteps s .cancel { s with cancelled := true }
  | receive (e : Event) (rest : List Event) (sender : Sender) (next : s.eventCh = e :: rest)
      (taken : senderStep cfg env fuel s.sender (.event e) = some sender) :
      AgentSteps s .receive { s with eventCh := rest, sender }
  | flush (sender : Sender) (taken : senderStep cfg env fuel s.sender .tick = some sender) :
      AgentSteps s .flush { s with sender }
  | done (sender : Sender) (cancelled : s.cancelled = true)
      (taken : senderStep cfg env fuel s.sender .done = some sender) :
      AgentSteps s .done { s with sender }

variable {cfg env fuel}

theorem agentStep_iff {s t : Agent} {m : Move} :
    agentStep cfg env fuel s m = some t ↔ AgentSteps cfg env fuel s m t := by
  constructor
  · intro taken
    cases m with
    | tick c events =>
        simp only [agentStep, Bool.and_eq_true, List.isEmpty_iff, Bool.not_eq_true'] at taken
        split_ifs at taken with h
        obtain rfl := Option.some.inj taken
        exact .tick c events h.1 h.2
    | send c =>
        simp only [agentStep] at taken
        split at taken
        · cases taken
        · rename_i e rest next
          split_ifs at taken with room
          obtain rfl := Option.some.inj taken
          exact .send c e rest next room
    | leave c =>
        simp only [agentStep, Bool.and_eq_true, List.isEmpty_iff, Bool.or_eq_true,
          decide_eq_true_eq] at taken
        split_ifs at taken with h
        obtain rfl := Option.some.inj taken
        exact .leave c h.1 h.2
    | cancel =>
        obtain rfl := Option.some.inj taken
        exact .cancel
    | receive =>
        simp only [agentStep] at taken
        split at taken
        · cases taken
        · rename_i e rest next
          obtain ⟨sender, moved, rfl⟩ := Option.map_eq_some_iff.mp taken
          exact .receive e rest sender next moved
    | flush =>
        obtain ⟨sender, moved, rfl⟩ := Option.map_eq_some_iff.mp taken
        exact .flush sender moved
    | done =>
        simp only [agentStep] at taken
        split_ifs at taken with cancelled
        obtain ⟨sender, moved, rfl⟩ := Option.map_eq_some_iff.mp taken
        exact .done sender cancelled moved
  · intro h
    cases h with
    | tick c events idle running => simp [agentStep, idle, running]
    | send c e rest next room => simp [agentStep, next, room]
    | leave c idle may => simp [agentStep, idle, may]
    | cancel => rfl
    | receive e rest sender next taken => simp [agentStep, next, taken]
    | flush sender taken => simp [agentStep, taken]
    | done sender cancelled taken => simp [agentStep, cancelled, taken]

variable (cfg env fuel)

/-! ## Waiting for the channel -/

def Collector.all : List Collector :=
  [.telemetry, .processMonitor, .fileIntegrity, .networkMonitor, .detectionEngine]

def Agent.pendingTotal (s : Agent) : Nat :=
  (Collector.all.map fun c => (s.loops c).pending.length).sum

def Agent.load (s : Agent) : Nat := s.eventCh.length + s.pendingTotal

def Agent.AllReturned (s : Agent) : Prop :=
  s.sender.stopped = true ∧ ∀ c, (s.loops c).returned = true

def Blocked (s : Agent) (c : Collector) : Prop :=
  (s.loops c).pending ≠ [] ∧ channelCapacity ≤ s.eventCh.length

def Hangs (s : Agent) : Prop :=
  s.sender.stopped = true ∧
    ∃ c, ∀ moves t, run (agentStep cfg env fuel) s moves = some t → Blocked t c

def CanFinish (s : Agent) : Prop :=
  ∃ moves t, run (agentStep cfg env fuel) s moves = some t ∧ t.AllReturned

/-- The channel has room for all that is still to be sent when the sender returns, and for the
events of every tick taken after that. -/
def Roomy (s : Agent) : Move → Prop
  | .done => s.load ≤ channelCapacity
  | .tick _ events => s.sender.stopped = true → s.load + events.length ≤ channelCapacity
  | _ => True

instance (s : Agent) (m : Move) : Decidable (Roomy s m) :=
  match m with
  | .done => inferInstanceAs (Decidable (s.load ≤ channelCapacity))
  | .tick _ events => inferInstanceAs
      (Decidable (s.sender.stopped = true → s.load + events.length ≤ channelCapacity))
  | .send _ | .leave _ | .cancel | .receive | .flush => inferInstanceAs (Decidable True)

theorem Collector.mem_all (c : Collector) : c ∈ Collector.all := by
  cases c <;> simp [Collector.all]

theorem pendingTotal_setLoop (s : Agent) (c : Collector) (pending : List Event) (returned : Bool) :
    (s.setLoop c ⟨pending, returned⟩).pendingTotal + (s.loops c).pending.length =
      s.pendingTotal + pending.length := by
  cases c <;>
    simp [Agent.pendingTotal, Agent.setLoop, Collector.all, Function.update] <;> omega

theorem length_pending_le (s : Agent) (c : Collector) :
    (s.loops c).pending.length ≤ s.pendingTotal := by
  cases c <;> simp [Agent.pendingTotal, Collector.all] <;> omega

theorem not_blocked {s : Agent} (room : s.load ≤ channelCapacity) (c : Collector) :
    ¬ Blocked s c := by
  intro ⟨waiting, full⟩
  have some := List.length_pos_iff.mpr waiting
  have le := length_pending_le s c
  unfold Agent.load at room
  omega

variable {cfg env fuel}

theorem senderStep_stopped {s t : Sender} {i : Input}
    (taken : senderStep cfg env fuel s i = some t) (h : i ≠ .done) : t.stopped = false := by
  have running := running_of_step taken
  unfold senderStep at taken
  split_ifs at taken
  cases i with
  | done => exact absurd rfl h
  | event e =>
      obtain rfl := Option.some.inj taken
      simp only [onEvent]
      split_ifs <;> exact running
  | tick =>
      obtain ⟨w, -, rfl⟩ := Option.map_eq_some_iff.mp taken
      simp only [sendPending]
      split_ifs <;> exact running

structure Sound (s : Agent) : Prop where
  bounded : s.eventCh.length ≤ channelCapacity
  room : s.sender.stopped = true → s.load ≤ channelCapacity

theorem pendingTotal_push {s : Agent} {c : Collector} {e : Event} {rest : List Event}
    (next : (s.loops c).pending = e :: rest) :
    (s.push c e rest).pendingTotal + 1 = s.pendingTotal := by
  have total := pendingTotal_setLoop s c rest false
  rw [next, List.length_cons] at total
  change (s.setLoop c ⟨rest, false⟩).pendingTotal + 1 = s.pendingTotal
  omega

theorem length_push (s : Agent) (c : Collector) (e : Event) (rest : List Event) :
    (s.push c e rest).eventCh.length = s.eventCh.length + 1 := List.length_append

theorem step_sound {s t : Agent} {m : Move} (sound : Sound s) (roomy : Roomy s m)
    (taken : agentStep cfg env fuel s m = some t) : Sound t := by
  obtain ⟨bounded, room⟩ := sound
  cases agentStep_iff.mp taken with
  | tick c events idle _ =>
      refine ⟨bounded, fun stopped => ?_⟩
      have total := pendingTotal_setLoop s c events false
      rw [idle, List.length_nil] at total
      have load := roomy stopped
      unfold Agent.load at load
      change s.eventCh.length + (s.setLoop c ⟨events, false⟩).pendingTotal ≤ channelCapacity
      omega
  | send c e rest next free =>
      refine ⟨?_, fun stopped => ?_⟩
      · rw [length_push]
        exact free
      · have load := room stopped
        have total := pendingTotal_push next
        unfold Agent.load at load ⊢
        rw [length_push]
        omega
  | leave c idle _ =>
      refine ⟨bounded, fun stopped => ?_⟩
      have load := room stopped
      have total := pendingTotal_setLoop s c [] true
      rw [idle] at total
      unfold Agent.load at load
      change s.eventCh.length + (s.setLoop c ⟨[], true⟩).pendingTotal ≤ channelCapacity
      omega
  | cancel => exact ⟨bounded, room⟩
  | receive e rest sender next moved =>
      refine ⟨?_, fun stopped => ?_⟩
      · rw [next, List.length_cons] at bounded
        exact Nat.le_of_succ_le bounded
      · exact absurd ((senderStep_stopped moved nofun).symm.trans stopped) nofun
  | flush sender moved =>
      refine ⟨bounded, fun stopped => ?_⟩
      exact absurd ((senderStep_stopped moved nofun).symm.trans stopped) nofun
  | done sender _ _ => exact ⟨bounded, fun _ => roomy⟩

/-! ## Every loop can come to its end -/

theorem canFinish_of_step {s t : Agent} (m : Move) (taken : agentStep cfg env fuel s m = some t)
    (h : CanFinish cfg env fuel t) : CanFinish cfg env fuel s := by
  obtain ⟨moves, u, reached, returned⟩ := h
  exact ⟨m :: moves, u, run_cons_eq_some.mpr ⟨t, taken, reached⟩, returned⟩

theorem senderStep_enabled_event {s : Sender} (running : s.stopped = false) (e : Event) :
    ∃ t, senderStep cfg env fuel s (.event e) = some t := by
  have stopped : ¬ s.stopped = true := by simp [running]
  exact ⟨_, if_neg stopped⟩

theorem canFinish_of_returned {s : Agent} (cancelled : s.cancelled = true)
    (returned : ∀ c, (s.loops c).returned = true) : CanFinish cfg env fuel s := by
  cases stopped : s.sender.stopped with
  | true => exact ⟨[], s, rfl, stopped, returned⟩
  | false =>
      have leaves : senderStep cfg env fuel s.sender .done =
          some { s.sender with world := flushOnDone cfg env s.sender, stopped := true } := by
        simp [senderStep, stopped]
      apply canFinish_of_step .done (agentStep_iff.mpr (.done _ cancelled leaves))
      exact ⟨[], _, rfl, rfl, returned⟩

theorem canFinish_of_idle (late : List Collector) {s : Agent} (cancelled : s.cancelled = true)
    (idle : ∀ c, (s.loops c).pending = [])
    (returned : ∀ c, c ∉ late → (s.loops c).returned = true) : CanFinish cfg env fuel s := by
  induction late generalizing s with
  | nil => exact canFinish_of_returned cancelled fun c => returned c List.not_mem_nil
  | cons c late ih =>
      apply canFinish_of_step (.leave c) (agentStep_iff.mpr (.leave c (idle c) (Or.inl cancelled)))
      refine ih (s := s.setLoop c ⟨[], true⟩) cancelled ?_ ?_
      · intro d
        by_cases same : d = c
        · rw [same, setLoop_self]
        · rw [setLoop_of_ne s same]
          exact idle d
      · intro d outside
        by_cases same : d = c
        · rw [same, setLoop_self]
        · rw [setLoop_of_ne s same]
          exact returned d (by simp [same, outside])

theorem exists_pending {s : Agent} (some : 0 < s.pendingTotal) :
    ∃ c e rest, (s.loops c).pending = e :: rest := by
  by_contra none
  have idle : ∀ c, (s.loops c).pending = [] := by
    intro c
    cases waiting : (s.loops c).pending with
    | nil => rfl
    | cons e rest => exact absurd ⟨c, e, rest, waiting⟩ none
  have zero : s.pendingTotal = 0 := by simp [Agent.pendingTotal, Collector.all, idle]
  omega

theorem canFinish {s : Agent} (cancelled : s.cancelled = true) (sound : Sound s) :
    CanFinish cfg env fuel s := by
  generalize left : s.pendingTotal = n
  induction n generalizing s with
  | zero =>
      apply canFinish_of_idle Collector.all cancelled
      · intro c
        have le := length_pending_le s c
        exact List.length_eq_zero_iff.mp (by omega)
      · intro c outside
        exact absurd c.mem_all outside
  | succ n ih =>
      obtain ⟨c, e, rest, next⟩ := exists_pending (s := s) (by omega)
      have send {s : Agent} (cancelled : s.cancelled = true) (sound : Sound s)
          (left : s.pendingTotal = n + 1) (next : (s.loops c).pending = e :: rest)
          (free : s.eventCh.length < channelCapacity) : CanFinish cfg env fuel s := by
        have sent : agentStep cfg env fuel s (.send c) = some (s.push c e rest) :=
          agentStep_iff.mpr (.send c e rest next free)
        have total := pendingTotal_push next
        have roomy : Roomy s (.send c) := trivial
        exact canFinish_of_step (.send c) sent (ih cancelled (step_sound sound roomy sent) (by omega))
      by_cases free : s.eventCh.length < channelCapacity
      · exact send cancelled sound left next free
      · -- The channel is full while there is more to send, so the sender is still receiving.
        have running : s.sender.stopped = false := by
          cases stopped : s.sender.stopped with
          | false => rfl
          | true =>
              have room := sound.room stopped
              unfold Agent.load at room
              omega
        cases waiting : s.eventCh with
        | nil => exact absurd (by rw [waiting]; decide) free
        | cons f tail =>
            obtain ⟨sender, moved⟩ := @senderStep_enabled_event cfg env fuel _ running f
            let t : Agent := { s with eventCh := tail, sender }
            have received : agentStep cfg env fuel s .receive = some t :=
              agentStep_iff.mpr (.receive f tail sender waiting moved)
            have roomy : Roomy s .receive := trivial
            have bounded := sound.bounded
            rw [waiting, List.length_cons] at bounded
            apply canFinish_of_step .receive received
            exact send (s := t) cancelled (step_sound sound roomy received) left next bounded

theorem agent_shutdown_completes (cfg : AgentConfig) (env : Env) (fuel : Nat) (dir : Directory)
    (moves : List Move) (s : Agent)
    (reached : run (agentStep cfg env fuel) (Agent.start cfg dir) moves = some s)
    (roomy : Along (agentStep cfg env fuel) Roomy (Agent.start cfg dir) moves) :
    ¬ Hangs cfg env fuel s ∧ (s.cancelled = true → CanFinish cfg env fuel s) := by
  have start : Sound (Agent.start cfg dir) := ⟨Nat.zero_le _, nofun⟩
  have sound : Sound s := by
    apply run_invariant_along (I := fun _ => Sound) start _ roomy reached
    intro _ _ _ _ sound roomy taken
    exact step_sound sound roomy taken
  refine ⟨?_, fun cancelled => canFinish cancelled sound⟩
  intro ⟨stopped, c, blocked⟩
  exact not_blocked (sound.room stopped) c (blocked [] s rfl)

theorem agent_shutdown_completes_small :
    let cfg : AgentConfig := ⟨"pi-1", 50, 50⟩
    let env : Env := ⟨fun k => k, fun _ => true, fun _ => .ok⟩
    let e : Event := ⟨"system_metrics", "info", "System telemetry", none, "t"⟩
    let moves := [.tick .telemetry [e], .send .telemetry, .cancel, .tick .telemetry [e], .done]
    ∃ s, run (agentStep cfg env 1) (Agent.start cfg Directory.empty) moves = some s ∧
      ¬ Hangs cfg env 1 s ∧ (s.cancelled = true → CanFinish cfg env 1 s) := by
  intro cfg env e moves
  have taken : (run (agentStep cfg env 1) (Agent.start cfg Directory.empty) moves).isSome = true := by
    decide +kernel
  obtain ⟨s, reached⟩ := Option.isSome_iff_exists.mp taken
  exact ⟨s, reached, agent_shutdown_completes cfg env 1 Directory.empty moves s reached
    (by decide +kernel)⟩

/-! ## A loop that waits for ever -/

theorem senderStep_of_stopped {s : Sender} (stopped : s.stopped = true) (i : Input) :
    senderStep cfg env fuel s i = none := if_pos stopped

theorem step_blocked {s t : Agent} {m : Move} {c : Collector} (stopped : s.sender.stopped = true)
    (blocked : Blocked s c) (taken : agentStep cfg env fuel s m = some t) :
    t.sender.stopped = true ∧ Blocked t c := by
  obtain ⟨waiting, full⟩ := blocked
  cases agentStep_iff.mp taken with
  | tick d events idle _ =>
      have differ : c ≠ d := by
        intro same
        exact waiting (same ▸ idle)
      exact ⟨stopped, by rwa [setLoop_of_ne s differ], full⟩
  | send d e rest _ free => exact absurd full (Nat.not_le.mpr free)
  | leave d idle _ =>
      have differ : c ≠ d := by
        intro same
        exact waiting (same ▸ idle)
      exact ⟨stopped, by rwa [setLoop_of_ne s differ], full⟩
  | cancel => exact ⟨stopped, waiting, full⟩
  | receive e rest sender _ moved =>
      rw [senderStep_of_stopped stopped] at moved
      cases moved
  | flush sender moved =>
      rw [senderStep_of_stopped stopped] at moved
      cases moved
  | done sender _ moved =>
      rw [senderStep_of_stopped stopped] at moved
      cases moved

theorem hangs_of_blocked {s : Agent} {c : Collector} (stopped : s.sender.stopped = true)
    (blocked : Blocked s c) : Hangs cfg env fuel s := by
  refine ⟨stopped, c, ?_⟩
  intro moves t reached
  have inv : t.sender.stopped = true ∧ Blocked t c := by
    apply run_invariant (I := fun _ s => s.sender.stopped = true ∧ Blocked s c) _ _ reached
    · exact ⟨stopped, blocked⟩
    · intro _ _ _ _ inv taken
      exact step_blocked inv.1 inv.2 taken
  exact inv.2

theorem run_sends {s : Agent} {c : Collector} (events rest : List Event)
    (pending : (s.loops c).pending = events ++ rest)
    (room : s.eventCh.length + events.length ≤ channelCapacity) :
    ∃ t, run (agentStep cfg env fuel) s (List.replicate events.length (.send c)) = some t ∧
      (t.loops c).pending = rest ∧ t.eventCh.length = s.eventCh.length + events.length ∧
      t.sender = s.sender := by
  induction events generalizing s with
  | nil => exact ⟨s, rfl, pending, rfl, rfl⟩
  | cons e events ih =>
      rw [List.length_cons] at room
      have sent : agentStep cfg env fuel s (.send c) = some (s.push c e (events ++ rest)) :=
        agentStep_iff.mpr (.send c e (events ++ rest) pending (by omega))
      have grown := length_push s c e (events ++ rest)
      obtain ⟨t, reached, left, length, sender⟩ := ih (s := s.push c e (events ++ rest))
        (congrArg Loop.pending (setLoop_self s c _)) (by omega)
      refine ⟨t, run_cons_eq_some.mpr ⟨_, sent, reached⟩, left, ?_, sender⟩
      rw [length, grown, List.length_cons]
      omega

theorem hangs_of_long_tick (dir : Directory) (c : Collector) (events : List Event) (e : Event)
    (long : events.length = channelCapacity) :
    ∃ s, run (agentStep cfg env fuel) (Agent.start cfg dir)
        (.tick c (events ++ [e]) ::
          (List.replicate channelCapacity (.send c) ++ [.cancel, .done])) = some s ∧
      Hangs cfg env fuel s := by
  let start := Agent.start cfg dir
  let scanning := start.setLoop c ⟨events ++ [e], false⟩
  have ticked : agentStep cfg env fuel start (.tick c (events ++ [e])) = some scanning :=
    agentStep_iff.mpr (.tick c _ rfl rfl)
  have pending : (scanning.loops c).pending = events ++ [e] :=
    congrArg Loop.pending (setLoop_self start c _)
  obtain ⟨t, sends, left, length, sender⟩ :=
    @run_sends cfg env fuel scanning c events [e] pending (by rw [long]; exact le_rfl)
  let leaving : Sender := { t.sender with world := flushOnDone cfg env t.sender, stopped := true }
  have leaves : senderStep cfg env fuel t.sender .done = some leaving := by
    rw [senderStep, if_neg]
    rw [sender]
    exact Bool.false_ne_true
  let cancelled : Agent := { t with cancelled := true }
  have done : agentStep cfg env fuel cancelled .done = some { cancelled with sender := leaving } :=
    agentStep_iff.mpr (.done leaving rfl leaves)
  have ends : run (agentStep cfg env fuel) t [.cancel, .done] =
      some { cancelled with sender := leaving } :=
    run_cons_eq_some.mpr ⟨cancelled, rfl, run_cons_eq_some.mpr ⟨_, done, rfl⟩⟩
  refine ⟨{ cancelled with sender := leaving }, ?_, ?_⟩
  · apply run_cons_eq_some.mpr
    refine ⟨scanning, ticked, ?_⟩
    rw [run_append, ← long, sends]
    exact ends
  · apply hangs_of_blocked (c := c) rfl
    refine ⟨left ▸ List.cons_ne_nil e [], ?_⟩
    change channelCapacity ≤ t.eventCh.length
    rw [length, long]
    exact Nat.le_add_left _ _

theorem detection_engine_hangs :
    let cfg : AgentConfig := ⟨"pi-1", 50, 50⟩
    let env : Env := ⟨fun k => k, fun _ => true, fun _ => .ok⟩
    let e : Event := ⟨"detection", "high", "Hydra Brute Force: hydra", none, "t"⟩
    let moves := .tick .detectionEngine (List.replicate 500 e ++ [e]) ::
      (List.replicate 500 (.send .detectionEngine) ++ [.cancel, .done])
    ∃ s, run (agentStep cfg env 1) (Agent.start cfg Directory.empty) moves = some s ∧
      Hangs cfg env 1 s := by
  intro cfg env e moves
  exact hangs_of_long_tick Directory.empty .detectionEngine (List.replicate 500 e) e
    List.length_replicate

/-! ## What is delivered -/

def eventsListed (body : Bytes) : List Event :=
  match Json.loadsBytes body with
  | some (.arr items) => items.filterMap eventOf
  | _ => eventsIn body

def delivered (w : World) : Multiset Event :=
  acceptedEvents w.calls + ↑((DiskQueue.queued w.dir).flatMap fun p => eventsListed p.2)

theorem eventsIn_sublist (body : Bytes) : (eventsIn body).Sublist (eventsListed body) := by
  unfold eventsListed
  split
  · rename_i items read
    rw [eventsIn, read]
    exact List.nil_sublist _
  · exact List.Sublist.refl _

theorem ledger_le_delivered (w : World) : ledger w ≤ delivered w := by
  apply add_le_add_right
  apply Multiset.coe_le.mpr
  exact (List.Sublist.flatMap_right _ fun p _ => eventsIn_sublist p.2).subperm

theorem eventsListed_marshal {batch : List Event} {data : Bytes}
    (h : marshal (batchValue batch) = some data) : eventsListed data = batch := by
  have read := loadsBytes_marshal h
  obtain ⟨document, whole, -⟩ := Option.map_eq_some_iff.mp h
  rw [whole] at read
  obtain ⟨items, each, rfl⟩ := Option.map_eq_some_iff.mp whole
  rw [eventsListed, read]
  exact filterMap_eventOf each

theorem isSome_marshal_batch {batch : List Event} (marshals : ∀ e ∈ batch, e.Marshals) :
    (marshal (batchValue batch)).isSome := by
  have each := (Json.isSome_traverseItems id (batch.map Event.value)).mpr
  rw [marshal, batchValue, Option.isSome_map, Json.traverse, Option.isSome_map]
  apply each
  rw [List.forall_mem_map]
  intro e member
  have here := marshals e member
  rwa [Event.Marshals, marshal, Option.isSome_map] at here

/-- The sender leaves an empty channel behind, and nothing is sent after that. -/
def Agent.Clean (s : Agent) : Move → Prop
  | .done => s.eventCh = []
  | .send _ => s.sender.stopped = false
  | _ => True

instance (s : Agent) (m : Move) : Decidable (s.Clean m) :=
  match m with
  | .done => decidable_of_iff (s.eventCh.isEmpty = true) List.isEmpty_iff
  | .send _ => inferInstanceAs (Decidable (s.sender.stopped = false))
  | .tick _ _ | .leave _ | .cancel | .receive | .flush => inferInstanceAs (Decidable True)

structure Delivers (env : Env) (dir : Directory) (s : Agent) : Prop where
  running : s.sender.stopped = false → ∃ inputs, s.sent = received inputs ++ s.eventCh ∧
    Conserves env dir inputs s.sender.batch.toList s.sender.world
  stopped : s.sender.stopped = true → (s.sent : Multiset Event) ≤ delivered s.sender.world

theorem step_grows {s t : Agent} {m : Move} (taken : agentStep cfg env fuel s m = some t) :
    s.sender.world.calls <+: t.sender.world.calls ∧ s.sent <+: t.sent := by
  cases agentStep_iff.mp taken with
  | tick | leave | cancel => exact ⟨List.prefix_refl _, List.prefix_refl _⟩
  | send c e rest _ _ => exact ⟨List.prefix_refl _, List.prefix_append _ _⟩
  | receive e rest sender _ moved => exact ⟨senderStep_calls moved, List.prefix_refl _⟩
  | flush sender moved => exact ⟨senderStep_calls moved, List.prefix_refl _⟩
  | done sender _ moved => exact ⟨senderStep_calls moved, List.prefix_refl _⟩

variable {dir : Directory}

theorem flushOnDone_delivers {s : Sender} {inputs : List Input} (files : ∀ k, env.files k = .ok)
    (conserves : Conserves env dir inputs s.batch.toList s.world)
    (marshals : ∀ e ∈ received inputs, e.Marshals)
    (limit : UnderLimit cfg (flushOnDone cfg env s).calls) :
    ↑(received inputs) ≤ delivered (flushOnDone cfg env s) := by
  obtain ⟨events, subset, tidy⟩ := conserves
  have kept : (↑(received inputs) : Multiset Event) ≤ ledger s.world + ↑s.batch.toList := by
    rw [← events]
    exact Multiset.le_add_right _ _
  apply kept.trans
  unfold flushOnDone at limit ⊢
  split_ifs at limit ⊢ with unsent
  · obtain ⟨data, written⟩ := Option.isSome_iff_exists.mp
      (isSome_marshal_batch fun e member => marshals e (subset member))
    rw [written, Option.getD_some] at limit ⊢
    have name := tidy.fresh s.world.readings le_rfl
    have stored := (queued_put name data).flatMap_right fun p => eventsListed p.2
    rw [List.flatMap_cons, eventsListed_marshal written] at stored
    have calls : acceptedEvents (enqueue cfg env data s.world).calls =
        acceptedEvents s.world.calls := acceptedEvents_idle s.world.calls rfl
    have moved : delivered (enqueue cfg env data s.world) =
        delivered s.world + ↑s.batch.toList := by
      rw [delivered, calls, enqueue_dir cfg files tidy.fresh limit, Multiset.coe_eq_coe.mpr stored,
        ← Multiset.coe_add, add_comm (s.batch.toList : Multiset Event), ← add_assoc, delivered]
    rw [moved]
    exact add_le_add_left (ledger_le_delivered s.world) _
  · have empty : s.batch.toList = [] := by
      rw [← List.length_eq_zero_iff, s.batch.length_toList]
      omega
    rw [empty]
    simpa using ledger_le_delivered s.world

theorem delivers_of_senderStep (distinct : Function.Injective env.now) (files : ∀ k, env.files k = .ok)
    {s t : Agent} {i : Input} (h : Delivers env dir s) (working : i ≠ .done)
    (moved : senderStep cfg env fuel s.sender i = some t.sender)
    (input : received [i] ++ t.eventCh = s.eventCh) (same : t.sent = s.sent)
    (limit : UnderLimit cfg t.sender.world.calls) (marshals : ∀ e ∈ t.sent, e.Marshals) :
    Delivers env dir t := by
  have before := running_of_step moved
  have after := senderStep_stopped moved working
  refine ⟨fun _ => ?_, fun stopped => absurd (after.symm.trans stopped) Bool.false_ne_true⟩
  obtain ⟨inputs, sent, conserves⟩ := h.running before
  have split : t.sent = received (inputs ++ [i]) ++ t.eventCh := by
    rw [same, sent, received_snoc, List.append_assoc, input]
  refine ⟨inputs ++ [i], split, ?_⟩
  apply step_conserves distinct files conserves moved after _ limit
  intro e member
  apply marshals
  rw [split]
  exact List.mem_append_left _ member

theorem step_delivers (distinct : Function.Injective env.now) (files : ∀ k, env.files k = .ok)
    {s t : Agent} {m : Move} (h : Delivers env dir s) (clean : s.Clean m)
    (taken : agentStep cfg env fuel s m = some t) (limit : UnderLimit cfg t.sender.world.calls)
    (marshals : ∀ e ∈ t.sent, e.Marshals) : Delivers env dir t := by
  cases agentStep_iff.mp taken with
  | tick | leave | cancel => exact ⟨h.running, h.stopped⟩
  | send c e rest _ _ =>
      refine ⟨fun running => ?_, fun stopped => ?_⟩
      · obtain ⟨inputs, sent, conserves⟩ := h.running running
        refine ⟨inputs, ?_, conserves⟩
        change s.sent ++ [e] = received inputs ++ (s.eventCh ++ [e])
        rw [sent, List.append_assoc]
      · exact absurd (clean.symm.trans stopped) nofun
  | receive e rest sender next moved =>
      exact delivers_of_senderStep (i := .event e) distinct files h nofun moved next.symm rfl limit marshals
  | flush sender moved =>
      exact delivers_of_senderStep (i := .tick) distinct files h nofun moved rfl rfl limit marshals
  | done sender _ moved =>
      have before := running_of_step moved
      obtain ⟨inputs, sent, conserves⟩ := h.running before
      have all : s.sent = received inputs := by
        rw [sent, clean, List.append_nil]
      unfold senderStep at moved
      split_ifs at moved
      obtain rfl := Option.some.inj moved
      refine ⟨nofun, fun _ => ?_⟩
      change (s.sent : Multiset Event) ≤ _
      rw [all]
      exact flushOnDone_delivers files conserves (fun e member => marshals e (all ▸ member)) limit

theorem agent_shutdown_delivers (cfg : AgentConfig) (env : Env) (fuel : Nat) (dir : Directory)
    (moves : List Move) (s : Agent)
    (reached : run (agentStep cfg env fuel) (Agent.start cfg dir) moves = some s)
    (returned : s.AllReturned)
    (clean : Along (agentStep cfg env fuel) Agent.Clean (Agent.start cfg dir) moves)
    (distinct : Function.Injective env.now) (fresh : Fresh env (World.start dir))
    (files : ∀ k, env.files k = .ok) (limit : UnderLimit cfg s.sender.world.calls)
    (marshals : ∀ e ∈ s.sent, e.Marshals) :
    (s.sent : Multiset Event) ≤ delivered s.sender.world := by
  have delivers : UnderLimit cfg s.sender.world.calls → (∀ e ∈ s.sent, e.Marshals) →
      Delivers env dir s := by
    refine run_invariant_along (I := fun _ s => UnderLimit cfg s.sender.world.calls →
      (∀ e ∈ s.sent, e.Marshals) → Delivers env dir s) ?_ ?_ clean reached
    · intro _ _
      refine ⟨fun _ => ⟨[], rfl, ?_, ?_, fresh, fun p member => Or.inl member⟩, nofun⟩
      · simp [received, ledger, acceptedEvents, Agent.start, Sender.start, World.start]
      · simp [Agent.start, Sender.start]
    · intro _ m i n inv clean taken limit marshals
      obtain ⟨calls, sent⟩ := step_grows taken
      have before := inv (limit.of_prefix cfg calls) fun e he => marshals e (sent.subset he)
      exact step_delivers distinct files before clean taken limit marshals
  exact (delivers limit marshals).stopped returned.1

theorem agent_shutdown_delivers_received :
    let cfg : AgentConfig := ⟨"pi-1", 50, 50⟩
    let env : Env := ⟨fun k => k, fun _ => true, fun _ => .ok⟩
    let e : Event := ⟨"process_alert", "high", "Suspicious process: nc", none, "t"⟩
    let moves := [.tick .processMonitor [e], .send .processMonitor, .receive, .cancel, .done] ++
      Collector.all.map .leave
    ∃ s, run (agentStep cfg env 1) (Agent.start cfg Directory.empty) moves = some s ∧
      (s.sent : Multiset Event) ≤ delivered s.sender.world := by
  intro cfg env e moves
  have facts : (run (agentStep cfg env 1) (Agent.start cfg Directory.empty) moves).map
      (fun s => (s.sender.stopped, Collector.all.all fun c => (s.loops c).returned,
        decide (UnderLimit cfg s.sender.world.calls), decide (∀ e ∈ s.sent, (marshal e.value).isSome)))
      = some (true, true, true, true) := by
    decide +kernel
  obtain ⟨s, reached, facts⟩ := Option.map_eq_some_iff.mp facts
  simp only [Prod.mk.injEq, List.all_eq_true, decide_eq_true_eq] at facts
  obtain ⟨stopped, loops, limit, marshals⟩ := facts
  exact ⟨s, reached, agent_shutdown_delivers cfg env 1 Directory.empty moves s reached
    ⟨stopped, fun c => loops c c.mem_all⟩ (by decide +kernel) (fun j k same => Int.ofNat.inj same)
    (fun _ _ => List.not_mem_nil) (fun _ => rfl) limit marshals⟩

theorem buffered_event_lost :
    let cfg : AgentConfig := ⟨"pi-1", 50, 50⟩
    let env : Env := ⟨fun k => k, fun _ => true, fun _ => .ok⟩
    let e : Event := ⟨"process_alert", "high", "Suspicious process: nc", none, "t"⟩
    let moves := [.tick .processMonitor [e], .send .processMonitor, .cancel, .done] ++
      Collector.all.map .leave
    ∃ s, run (agentStep cfg env 1) (Agent.start cfg Directory.empty) moves = some s ∧
      s.AllReturned ∧ UnderLimit cfg s.sender.world.calls ∧ (∀ e ∈ s.sent, e.Marshals) ∧
      ¬ (s.sent : Multiset Event) ≤ delivered s.sender.world := by
  intro cfg env e moves
  have marshals : ∀ f ∈ [e], (marshal f.value).isSome = true := by decide +kernel
  refine ⟨_, rfl, ⟨rfl, ?_⟩, nofun, marshals, ?_⟩
  · intro c
    cases c <;> rfl
  · intro le
    exact absurd (Multiset.card_le_card le) (by decide +kernel)

end

end GuardianPi.EdgeAgent
