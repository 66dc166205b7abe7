import GuardianPi.EdgeAgent.Delivery
import GuardianPi.EdgeAgent.Shutdown
import Mathlib.Algebra.BigOperators.Group.List.Basic

namespace GuardianPi.EdgeAgent
open GuardianPi.Library

def Move.made (c : Collector) : Move → List Event
  | .tick d events => if d = c then events else []
  | _ => []

def produced (c : Collector) (moves : List Move) : List Event := moves.flatMap (Move.made c)

def sentBy (c : Collector) (log : List (Collector × Event)) : List Event :=
  (log.filter fun p => p.1 = c).map Prod.snd

def total (events : Collector → List Event) : Multiset Event :=
  (Collector.all.map fun c => (events c : Multiset Event)).sum

theorem sentBy_concat (c d : Collector) (log : List (Collector × Event)) (e : Event) :
    sentBy c (log ++ [(d, e)]) = sentBy c log ++ if d = c then [e] else [] := by
  unfold sentBy
  split_ifs with same <;> simp [same]

theorem produced_concat (c : Collector) (moves : List Move) (m : Move) :
    produced c (moves ++ [m]) = produced c moves ++ m.made c := by
  rw [produced, List.flatMap_append, List.flatMap_singleton, produced]

theorem total_append (f g : Collector → List Event) : total (fun c => f c ++ g c) = total f + total g := by
  simp only [total, ← Multiset.coe_add, List.sum_map_add]

theorem total_sentBy (log : List (Collector × Event)) : total (fun c => sentBy c log) = ↑(log.map Prod.snd) := by
  induction log using List.reverseRecOn with
  | nil => rfl
  | append_singleton log p ih =>
      obtain ⟨d, e⟩ := p
      have last : total (fun c => if d = c then [e] else []) = {e} := by
        cases d <;> simp [total, Collector.all]
      simp only [sentBy_concat]
      rw [total_append, ih, last, List.map_append, ← Multiset.coe_add]
      rfl

section
variable {cfg : AgentConfig} {env : Env} {fuel : Nat} {dir : Directory}

structure ChannelOrder (cfg : AgentConfig) (env : Env) (fuel : Nat) (dir : Directory) (moves : List Move) (s : Agent) :
    Prop where
  loops : ∃ log, s.sent = log.map Prod.snd ∧
    ∀ c, sentBy c log ++ (s.loops c).pending = produced c moves
  sender : ∃ inputs, run (senderStep cfg env fuel) (Sender.start cfg dir) inputs = some s.sender ∧
    received inputs ++ s.eventCh = s.sent
  bounded : s.eventCh.length ≤ channelCapacity

theorem channelOrder_start : ChannelOrder cfg env fuel dir [] (Agent.start cfg dir) :=
  ⟨⟨[], rfl, fun _ => rfl⟩, ⟨[], rfl, rfl⟩, Nat.zero_le _⟩

theorem channelOrder_step {moves : List Move} {s t : Agent} {m : Move} (ordered : ChannelOrder cfg env fuel dir moves s)
    (given : agentStep cfg env fuel s m = some t) : ChannelOrder cfg env fuel dir (moves ++ [m]) t := by
  obtain ⟨⟨log, sent, each⟩, ⟨inputs, reached, order⟩, bounded⟩ := ordered
  -- What the sender takes in comes to the end of its own run.
  have moved {i : Input} {sender : Sender} (taken : senderStep cfg env fuel s.sender i = some sender) :
      run (senderStep cfg env fuel) (Sender.start cfg dir) (inputs ++ [i]) = some sender := by
    rw [run_append, reached]
    exact run_cons_eq_some.mpr ⟨sender, taken, rfl⟩
  have unmade (none : ∀ c, m.made c = []) : ∀ c, sentBy c log ++ (s.loops c).pending = produced c (moves ++ [m]) := by
    intro c
    rw [produced_concat, ← each, none, List.append_nil]
  cases agentStep_iff.mp given with
  | tick c events idle _ =>
      refine ⟨⟨log, sent, fun d => ?_⟩, ⟨inputs, reached, order⟩, bounded⟩
      rw [produced_concat, ← each, List.append_assoc]
      by_cases same : d = c
      · subst same
        rw [setLoop_self, idle]
        simp [Move.made]
      · rw [setLoop_of_ne s same]
        simp [Move.made, Ne.symm same]
  | send c e rest next room =>
      refine ⟨⟨log ++ [(c, e)], ?_, fun d => ?_⟩, ⟨inputs, reached, ?_⟩, ?_⟩
      · rw [List.map_append, ← sent]
        rfl
      · rw [produced_concat, ← each, sentBy_concat]
        by_cases same : d = c
        · subst same
          rw [Agent.push, setLoop_self, next]
          simp [Move.made]
        · rw [Agent.push, setLoop_of_ne s same]
          simp [Move.made, Ne.symm same]
      · rw [Agent.push, ← List.append_assoc, order]
      · rw [length_push]
        exact room
  | leave c idle _ =>
      refine ⟨⟨log, sent, fun d => ?_⟩, ⟨inputs, reached, order⟩, bounded⟩
      rw [← unmade fun _ => rfl]
      by_cases same : d = c
      · subst same
        rw [setLoop_self, idle]
      · rw [setLoop_of_ne s same]
  | cancel => exact ⟨⟨log, sent, unmade fun _ => rfl⟩, ⟨inputs, reached, order⟩, bounded⟩
  | receive e rest sender next taken =>
      rw [next, List.length_cons] at bounded
      refine ⟨⟨log, sent, unmade fun _ => rfl⟩, ⟨_, moved taken, ?_⟩, Nat.le_of_succ_le bounded⟩
      rw [received_snoc, List.append_assoc, ← order, next]
      rfl
  | flush sender taken =>
      refine ⟨⟨log, sent, unmade fun _ => rfl⟩, ⟨_, moved taken, ?_⟩, bounded⟩
      rw [received_snoc, List.append_assoc, ← order]
      rfl
  | done sender _ taken =>
      refine ⟨⟨log, sent, unmade fun _ => rfl⟩, ⟨_, moved taken, ?_⟩, bounded⟩
      rw [received_snoc, List.append_assoc, ← order]
      rfl

theorem run_ordered {moves : List Move} {s : Agent}
    (reached : run (agentStep cfg env fuel) (Agent.start cfg dir) moves = some s) :
    ChannelOrder cfg env fuel dir moves s := by
  refine run_invariant (I := ChannelOrder cfg env fuel dir) channelOrder_start ?_ reached
  intro _ _ _ _ ordered taken
  exact channelOrder_step ordered taken

/-- While the sender runs each event that a loop has made is in one place: accepted by the server, queued,
in the batch, in the channel or still with its loop. -/
theorem run_accounted {moves : List Move} {s : Agent}
    (reached : run (agentStep cfg env fuel) (Agent.start cfg dir) moves = some s)
    (running : s.sender.stopped = false) (distinct : Function.Injective env.now)
    (fresh : Fresh env (World.start dir)) (files : ∀ k, env.files k = .ok)
    (limit : UnderLimit cfg s.sender.world.calls) (marshals : ∀ c, ∀ e ∈ produced c moves, e.Marshals) :
    total (fun c => produced c moves) + queuedEvents dir =
      acceptedEvents s.sender.world.calls + queuedEvents s.sender.world.dir + ↑s.sender.batch.toList +
        ↑s.eventCh + total fun c => (s.loops c).pending := by
  obtain ⟨⟨log, sent, each⟩, ⟨inputs, own, order⟩, -⟩ := run_ordered reached
  have whole : total (fun c => produced c moves) =
      ↑(received inputs) + ↑s.eventCh + total fun c => (s.loops c).pending := by
    simp only [← each]
    rw [total_append, total_sentBy, ← sent, ← order, ← Multiset.coe_add]
  have taken : ∀ e ∈ received inputs, e.Marshals := by
    intro e member
    have among : e ∈ log.map Prod.snd := sent ▸ order ▸ List.mem_append_left _ member
    obtain ⟨⟨c, _⟩, logged, rfl⟩ := List.mem_map.mp among
    apply marshals c
    rw [← each]
    apply List.mem_append_left
    exact List.mem_map_of_mem (List.mem_filter.mpr ⟨logged, decide_eq_true rfl⟩)
  obtain ⟨events, -, -⟩ := run_conserves own running distinct fresh files limit taken
  rw [whole, ← ledger, ← events]
  simp only [add_assoc, add_comm, add_left_comm]

end

end GuardianPi.EdgeAgent
