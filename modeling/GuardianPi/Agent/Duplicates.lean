import GuardianPi.Agent.Acceptance
import GuardianPi.Agent.FlushTask
import GuardianPi.Backend.IngestTransaction
import GuardianPi.RunLocal.Telemetry

namespace GuardianPi.Agent
open GuardianPi.Library GuardianPi.Library.Python GuardianPi.Backend

structure Server (S : Type) where
  ingest : S → List UInt8 → Nat × S
  alerts : S → List (Orm.Fields Value)

def backendServer {Datetime : Type} (d : Deployment Datetime) : Server Store where
  ingest store body := ((postTelemetry d body store).1.status, (postTelemetry d body store).2)
  alerts := Store.alerts

def localServer (server : RunLocal.LocalServer) : Server (List (Orm.Fields Value)) where
  ingest alerts body :=
    ((RunLocal.ingestTelemetry server body alerts).1.1, (RunLocal.ingestTelemetry server body alerts).2)
  alerts := id

/-- The state of a run, with the events in requests that were answered and those of which the server
stored an alert: a row that a request adds is that of its next event with a severity that is stored. -/
structure Linked (S : Type) where
  agent : RunningSender
  server : S
  answered : List Queued
  stored : List Queued

def Queued.alarms (x : Queued) : Bool := alarming x.event.severity

inductive Move where
  | queueEvent (c : QueueCall)
  | flush
  | exchange (nonce : Nonce) (timestamp : String)
  | resume

section
variable {S : Type} (server : Server S) (aes : AESGCM) (crypto : Option TelemetryCrypto)

def requestBody (events : List Queued) (nonce : Nonce) (timestamp : String) : List UInt8 :=
  dumps (TelemetrySender.document aes nonce timestamp ⟨events.map Queued.event, crypto⟩)

/-- A request that is sent is handled and its answer arrives; one that ends in an error ends the
run. -/
def linkedStep (s : Linked S) : Move → Option (Linked S)
  | .queueEvent c => (s.agent.step (.queueEvent c)).map fun agent => { s with agent := agent }
  | .flush => (s.agent.step .flush).map fun agent => { s with agent := agent }
  | .resume => (s.agent.step (.resume .returned)).map fun agent => { s with agent := agent }
  | .exchange nonce timestamp =>
      match s.agent.task with
      | some ⟨events, .posting none⟩ =>
          let answer := server.ingest s.server (requestBody aes crypto events nonce timestamp)
          if 400 ≤ answer.1 then none
          else
            let added := (server.alerts answer.2).length - (server.alerts s.server).length
            (s.agent.step (.answer answer.1)).map fun agent =>
              ⟨agent, answer.2, s.answered ++ events, s.stored ++ (events.filter Queued.alarms).take added⟩
      | _ => none

end

def Linked.start {S : Type} (server : S) : Linked S := ⟨RunningSender.start, server, [], []⟩

def AtMostOnce {S : Type} (s : Linked S) : Prop := (s.stored.map Queued.serial).Nodup

/-- No request carries an event with a severity that is stored which an answered request has
carried. -/
def CarriesFresh {S : Type} (crypto : Option TelemetryCrypto) (s : Linked S) : Move → Prop
  | .exchange _ _ => ∀ task, s.agent.task = some task → crypto = none →
      ∀ x ∈ task.events.filter Queued.alarms, ∀ y ∈ s.answered.filter Queued.alarms,
        y.serial ≠ x.serial
  | _ => True

/-! ## Runs without errors -/

namespace RunningSender

def Calm (status : Nat) (s : RunningSender) : Prop :=
  ∀ task, s.task = some task → task.await = .entering ∨ task.await = .posting none ∨
    task.await = .posting (some status) ∨ task.await = .leaving .returned

theorem resume_calm {status : Nat} {s t : RunningSender} (calm : s.Calm status)
    (h : s.step (.resume .returned) = some t) :
    ∃ task, s.task = some task ∧
      (task.await = .entering ∧ t = s.waitAt task (.posting none) ∨
        task.await = .posting (some status) ∧
          t = (if status = 202 then s else s.extend task.events).waitAt task (.leaving .returned) ∨
        task.await = .leaving .returned ∧ t = { s with task := none }) := by
  obtain ⟨⟨events, await⟩, running, resumed⟩ := Option.bind_eq_some_iff.mp h
  refine ⟨⟨events, await⟩, running, ?_⟩
  rcases calm _ running with rfl | rfl | rfl | rfl
  · exact Or.inl ⟨rfl, (Option.some.inj resumed).symm⟩
  · cases resumed
  · exact Or.inr (Or.inl ⟨rfl, (Option.some.inj resumed).symm⟩)
  · exact Or.inr (Or.inr ⟨rfl, (Option.some.inj resumed).symm⟩)

theorem calm_queueEvent {status : Nat} {s : RunningSender} (calm : s.Calm status) (c : QueueCall) :
    (s.queueEvent c).Calm status := by
  rw [queueEvent_eq]
  exact calm

theorem calm_beginFlush {status : Nat} {s : RunningSender} (calm : s.Calm status) :
    s.beginFlush.Calm status := by
  unfold beginFlush
  split_ifs
  · exact calm
  · intro task running
    obtain rfl := Option.some.inj running
    exact Or.inl rfl

theorem calm_answer {s t : RunningSender} {status : Nat} (h : s.step (.answer status) = some t) :
    t.Calm status := by
  obtain ⟨events, -, rfl⟩ := answer_cases h
  intro task running
  obtain rfl := Option.some.inj running
  exact Or.inr (Or.inr (Or.inl rfl))

theorem calm_resume {s t : RunningSender} {status : Nat} (calm : s.Calm status)
    (h : s.step (.resume .returned) = some t) : t.Calm status := by
  obtain ⟨task, -, ⟨-, rfl⟩ | ⟨-, rfl⟩ | ⟨-, rfl⟩⟩ := resume_calm calm h
  · intro task running
    obtain rfl := Option.some.inj running
    exact Or.inr (Or.inl rfl)
  · intro task running
    obtain rfl := Option.some.inj running
    exact Or.inr (Or.inr (Or.inr rfl))
  · intro task running
    cases running

/-! ## Where every answer is 202 -/

def unsent (s : RunningSender) : List Queued :=
  match s.task with
  | some ⟨events, .entering⟩ => events
  | some ⟨events, .posting none⟩ => events
  | _ => []

def held (s : RunningSender) : List Queued :=
  match s.task with
  | some ⟨_, .leaving _⟩ => []
  | some ⟨events, _⟩ => events
  | none => []

structure SentOnce (s : RunningSender) : Prop where
  calm : s.Calm 202
  sorted : (s.delivered ++ s.unsent ++ s.queue).Pairwise fun x y => x.serial < y.serial
  bound : ∀ x ∈ s.delivered ++ s.unsent ++ s.queue, x.serial < s.queued.length

theorem sentOnce_of_line {s t : RunningSender} (inv : s.SentOnce) (calm : t.Calm 202)
    (line : t.delivered ++ t.unsent ++ t.queue = s.delivered ++ s.unsent ++ s.queue)
    (queued : t.queued = s.queued) : t.SentOnce :=
  ⟨calm, by rw [line]; exact inv.sorted, by rw [line, queued]; exact inv.bound⟩

theorem stamped_bound {s : RunningSender} {line : List Queued}
    (bound : ∀ x ∈ line, x.serial < s.queued.length) (c : QueueCall) :
    ∀ x ∈ line ++ [s.stamp c], x.serial < s.queued.length + 1 := by
  intro x member
  rcases List.mem_append.mp member with old | new
  · exact Nat.lt_succ_of_lt (bound x old)
  · obtain rfl := List.mem_singleton.mp new
    exact Nat.lt_succ_self _

theorem stamped_sublist (s : RunningSender) (front : List Queued) (c : QueueCall) :
    (front ++ (s.queue ++ [s.stamp c]).rtake maxQueue).Sublist (front ++ s.queue ++ [s.stamp c]) := by
  rw [List.append_assoc]
  exact (List.Sublist.refl _).append (List.drop_sublist _ _)

theorem sentOnce_queueEvent {s : RunningSender} (inv : s.SentOnce) (c : QueueCall) :
    (s.queueEvent c).SentOnce := by
  have unsent : (s.queueEvent c).unsent = s.unsent := rfl
  have sub := s.stamped_sublist (s.delivered ++ s.unsent) c
  have sorted : (s.delivered ++ s.unsent ++ s.queue ++ [s.stamp c]).Pairwise
      fun x y => x.serial < y.serial := by
    rw [List.pairwise_append]
    refine ⟨inv.sorted, List.pairwise_singleton _ _, fun x old y new => ?_⟩
    obtain rfl := List.mem_singleton.mp new
    exact inv.bound x old
  have calm := calm_queueEvent inv.calm c
  rw [queueEvent_eq] at unsent calm ⊢
  refine ⟨calm, sorted.sublist sub, fun x member => ?_⟩
  rw [List.length_append, List.length_singleton]
  exact stamped_bound inv.bound c x (sub.subset member)

theorem sentOnce_beginFlush {s : RunningSender} (inv : s.SentOnce) (idle : s.task = none) :
    s.beginFlush.SentOnce := by
  apply sentOnce_of_line inv (calm_beginFlush inv.calm)
  · have unsent : s.unsent = [] := by rw [RunningSender.unsent, idle]
    rw [unsent]
    unfold beginFlush
    split_ifs with empty
    · rw [unsent]
    · change s.delivered ++ s.queue ++ [] = s.delivered ++ [] ++ s.queue
      rw [List.append_nil, List.append_nil]
  · unfold beginFlush
    split_ifs <;> rfl

theorem sentOnce_answer {s t : RunningSender} (inv : s.SentOnce)
    (h : s.step (.answer 202) = some t) : t.SentOnce := by
  apply sentOnce_of_line inv (calm_answer h)
  · obtain ⟨events, running, rfl⟩ := answer_cases h
    have unsent : s.unsent = events := by rw [RunningSender.unsent, running]
    change s.delivered ++ events ++ [] ++ s.queue = _
    rw [unsent, List.append_nil]
  · obtain ⟨events, running, rfl⟩ := answer_cases h
    rfl

theorem sentOnce_resume {s t : RunningSender} (inv : s.SentOnce)
    (h : s.step (.resume .returned) = some t) : t.SentOnce := by
  apply sentOnce_of_line inv (calm_resume inv.calm h)
  · obtain ⟨⟨events, await⟩, running, ⟨rfl, rfl⟩ | ⟨rfl, rfl⟩ | ⟨rfl, rfl⟩⟩ := resume_calm inv.calm h
    · have unsent : s.unsent = events := by rw [RunningSender.unsent, running]
      rw [unsent]
      rfl
    · have unsent : s.unsent = [] := by rw [RunningSender.unsent, running]
      rw [unsent]
      rfl
    · have unsent : s.unsent = [] := by rw [RunningSender.unsent, running]
      rw [unsent]
      rfl
  · obtain ⟨task, -, ⟨-, rfl⟩ | ⟨-, rfl⟩ | ⟨-, rfl⟩⟩ := resume_calm inv.calm h
    all_goals rfl

/-! ## Where every answer is 200 -/

structure PutBack (s : RunningSender) : Prop where
  calm : s.Calm 200
  distinct : ((s.held ++ s.queue).map Queued.serial).Nodup
  bound : ∀ x ∈ s.held ++ s.queue, x.serial < s.queued.length

theorem putBack_of_perm {s t : RunningSender} (inv : s.PutBack) (calm : t.Calm 200)
    (same : (t.held ++ t.queue).Perm (s.held ++ s.queue)) (queued : t.queued = s.queued) :
    t.PutBack := by
  refine ⟨calm, (same.map Queued.serial).nodup_iff.mpr inv.distinct, fun x member => ?_⟩
  rw [queued]
  exact inv.bound x (same.subset member)

theorem putBack_queueEvent {s : RunningSender} (inv : s.PutBack) (c : QueueCall) :
    (s.queueEvent c).PutBack := by
  have sub := s.stamped_sublist s.held c
  have distinct : ((s.held ++ s.queue ++ [s.stamp c]).map Queued.serial).Nodup := by
    rw [List.map_append, List.nodup_append]
    refine ⟨inv.distinct, List.pairwise_singleton _ _, ?_⟩
    intro n old m new
    obtain ⟨x, member, rfl⟩ := List.mem_map.mp old
    obtain rfl := List.mem_singleton.mp new
    exact Nat.ne_of_lt (inv.bound x member)
  have calm := calm_queueEvent inv.calm c
  rw [queueEvent_eq] at calm ⊢
  refine ⟨calm, distinct.sublist (sub.map _), fun x member => ?_⟩
  rw [List.length_append, List.length_singleton]
  exact stamped_bound inv.bound c x (sub.subset member)

theorem putBack_beginFlush {s : RunningSender} (inv : s.PutBack) (idle : s.task = none) :
    s.beginFlush.PutBack := by
  apply putBack_of_perm inv (calm_beginFlush inv.calm)
  · have held : s.held = [] := by rw [RunningSender.held, idle]
    unfold beginFlush
    split_ifs
    · exact List.Perm.refl _
    · rw [held]
      exact List.Perm.of_eq (List.append_nil _)
  · unfold beginFlush
    split_ifs <;> rfl

theorem putBack_answer {s t : RunningSender} (inv : s.PutBack)
    (h : s.step (.answer 200) = some t) : t.PutBack := by
  apply putBack_of_perm inv (calm_answer h)
  · obtain ⟨events, running, rfl⟩ := answer_cases h
    have held : s.held = events := by rw [RunningSender.held, running]
    rw [held]
    exact List.Perm.refl _
  · obtain ⟨events, running, rfl⟩ := answer_cases h
    rfl

theorem putBack_resume {s t : RunningSender} (inv : s.PutBack)
    (h : s.step (.resume .returned) = some t) : t.PutBack := by
  apply putBack_of_perm inv (calm_resume inv.calm h)
  · obtain ⟨⟨events, await⟩, running, ⟨rfl, rfl⟩ | ⟨rfl, rfl⟩ | ⟨rfl, rfl⟩⟩ := resume_calm inv.calm h
    · have held : s.held = events := by rw [RunningSender.held, running]
      rw [held]
      exact List.Perm.refl _
    · have held : s.held = events := by rw [RunningSender.held, running]
      rw [held]
      change (s.queue ++ events).Perm (events ++ s.queue)
      exact List.perm_append_comm
    · have held : s.held = [] := by rw [RunningSender.held, running]
      rw [held]
      exact List.Perm.refl _
  · obtain ⟨task, -, ⟨-, rfl⟩ | ⟨-, rfl⟩ | ⟨-, rfl⟩⟩ := resume_calm inv.calm h
    all_goals rfl

end RunningSender

/-! ## The backend -/

section
variable {S : Type} {server : Server S} {aes : AESGCM} {crypto : Option TelemetryCrypto}

def Alone (agent agent' : RunningSender) : Prop :=
  (∃ c, agent' = agent.queueEvent c) ∨ agent.task = none ∧ agent' = agent.beginFlush ∨
    agent.step (.resume .returned) = some agent'

theorem exchange_cases {s t : Linked S} {nonce : Nonce} {timestamp : String}
    (h : linkedStep server aes crypto s (.exchange nonce timestamp) = some t) :
    ∃ events agent status holding, s.agent.task = some ⟨events, .posting none⟩ ∧
      server.ingest s.server (requestBody aes crypto events nonce timestamp) = (status, holding) ∧
      status < 400 ∧ s.agent.step (.answer status) = some agent ∧
        t = ⟨agent, holding, s.answered ++ events, s.stored ++ (events.filter Queued.alarms).take
          ((server.alerts holding).length - (server.alerts s.server).length)⟩ := by
  simp only [linkedStep] at h
  split at h
  · rename_i events running
    split_ifs at h with failed
    obtain ⟨agent, answered, rfl⟩ := Option.map_eq_some_iff.mp h
    exact ⟨events, agent, _, _, running, rfl, Nat.lt_of_not_le failed, answered, rfl⟩
  · cases h

theorem linkedStep_cases {s t : Linked S} {a : Move}
    (h : linkedStep server aes crypto s a = some t) :
    (∃ agent, t = { s with agent := agent } ∧ Alone s.agent agent ∧
      ∀ nonce timestamp, a ≠ .exchange nonce timestamp) ∨
    ∃ nonce timestamp events agent status holding, a = .exchange nonce timestamp ∧
      s.agent.task = some ⟨events, .posting none⟩ ∧
      server.ingest s.server (requestBody aes crypto events nonce timestamp) = (status, holding) ∧
      status < 400 ∧ s.agent.step (.answer status) = some agent ∧
        t = ⟨agent, holding, s.answered ++ events, s.stored ++ (events.filter Queued.alarms).take
          ((server.alerts holding).length - (server.alerts s.server).length)⟩ := by
  cases a with
  | queueEvent c =>
      have moved : (s.agent.step (.queueEvent c)).map (fun agent => { s with agent := agent }) =
          some t := h
      obtain ⟨agent, taken, rfl⟩ := Option.map_eq_some_iff.mp moved
      exact Or.inl ⟨agent, rfl, Or.inl ⟨c, (Option.some.inj taken).symm⟩, fun _ _ => Move.noConfusion⟩
  | flush =>
      have moved : (s.agent.step .flush).map (fun agent => { s with agent := agent }) = some t := h
      obtain ⟨agent, taken, rfl⟩ := Option.map_eq_some_iff.mp moved
      exact Or.inl ⟨agent, rfl, Or.inr (Or.inl (RunningSender.flush_cases taken)),
        fun _ _ => Move.noConfusion⟩
  | resume =>
      have moved : (s.agent.step (.resume .returned)).map (fun agent => { s with agent := agent }) =
          some t := h
      obtain ⟨agent, taken, rfl⟩ := Option.map_eq_some_iff.mp moved
      exact Or.inl ⟨agent, rfl, Or.inr (Or.inr taken), fun _ _ => Move.noConfusion⟩
  | exchange nonce timestamp =>
      obtain ⟨events, agent, status, holding, exchanged⟩ := exchange_cases h
      exact Or.inr ⟨nonce, timestamp, events, agent, status, holding, rfl, exchanged⟩

theorem sentOnce_alone {s agent : RunningSender} (inv : s.SentOnce) (moves : Alone s agent) :
    agent.SentOnce := by
  rcases moves with ⟨c, rfl⟩ | ⟨idle, rfl⟩ | taken
  · exact RunningSender.sentOnce_queueEvent inv c
  · exact RunningSender.sentOnce_beginFlush inv idle
  · exact RunningSender.sentOnce_resume inv taken

theorem delivered_alone {s agent : RunningSender} (moves : Alone s agent) :
    agent.delivered = s.delivered := by
  rcases moves with ⟨c, rfl⟩ | ⟨-, rfl⟩ | taken
  · rfl
  · unfold RunningSender.beginFlush
    split_ifs <;> rfl
  · obtain ⟨task, -, resumed⟩ := RunningSender.resume_cases taken
    cases resumed <;> rfl

theorem putBack_alone {s agent : RunningSender} (inv : s.PutBack) (moves : Alone s agent) :
    agent.PutBack := by
  rcases moves with ⟨c, rfl⟩ | ⟨idle, rfl⟩ | taken
  · exact RunningSender.putBack_queueEvent inv c
  · exact RunningSender.putBack_beginFlush inv idle
  · exact RunningSender.putBack_resume inv taken

end

theorem backend_status {Datetime : Type} {d : Deployment Datetime} {body : List UInt8}
    {store store' : Store} {status : Nat}
    (handled : (backendServer d).ingest store body = (status, store')) (fine : status < 400) :
    status = 202 := by
  obtain ⟨rfl, -⟩ := Prod.mk.inj handled
  unfold postTelemetry at fine ⊢
  split at fine
  · exact absurd fine (Nat.not_lt_of_le (le_status_unreadableBody body))
  · rename_i payload _
    by_cases refused : ∀ content, (ingestTelemetry d payload store).1 ≠ .accepted content
    · exact absurd fine (Nat.not_lt_of_le (ingestTelemetry_refused refused).1)
    · push Not at refused
      obtain ⟨content, accepted⟩ := refused
      rw [accepted]
      rfl

theorem backend_rows {Datetime : Type} (d : Deployment Datetime) {key : Option String}
    {crypto : Option TelemetryCrypto}
    (start : (TelemetrySender.start key).map TelemetrySender.crypto = .ok crypto)
    (shared : Shared d key) {nonce : Nonce} {timestamp : String}
    (dated : (d.datetime (.str timestamp)).isSome) {events : List Queued} {store store' : Store}
    {status : Nat} (handled : (backendServer d).ingest store
      (requestBody d.aes crypto events nonce timestamp) = (status, store')) (fine : status < 400) :
    ∃ rows, store'.alerts = store.alerts ++ rows ∧
      List.Forall₂ (fun x row => RowOf (.obj (x.event.fields d.number)) row)
        (events.filter Queued.alarms) rows := by
  obtain ⟨payload, -, data, read⟩ := postTelemetry_document (s := ⟨events.map Queued.event, crypto⟩)
    d start shared nonce dated store
  have answer : postTelemetry d (requestBody d.aes crypto events nonce timestamp) store =
      ingestTelemetry d payload store := read
  obtain ⟨rfl, rfl⟩ := Prod.mk.inj handled
  rw [answer] at fine ⊢
  by_cases refused : ∀ content, (ingestTelemetry d payload store).1 ≠ .accepted content
  · exact absurd fine (Nat.not_lt_of_le (ingestTelemetry_refused refused).1)
  · push Not at refused
    obtain ⟨content, accepted⟩ := refused
    obtain ⟨data', listed, rows, data'', items, -, stored, each⟩ := ingestTelemetry_accepted accepted
    obtain rfl := Except.ok.inj (data.symm.trans data'')
    obtain rfl := Except.ok.inj (show Except.ok (((events.map Queued.event).map
      (Event.fields d.number)).map Json.obj) = .ok listed from items)
    refine ⟨rows, stored, ?_⟩
    rw [List.map_map, List.map_map, List.filter_map, List.forall₂_map_left_iff] at each
    exact each

def StoredAlerts {Datetime : Type} (d : Deployment Datetime) (store : Store) (s : Linked Store) : Prop :=
  ∃ rows, s.server.alerts = store.alerts ++ rows ∧
    List.Forall₂ (fun x row => RowOf (.obj (x.event.fields d.number)) row) s.stored rows

/-- The alerts added to the backend's are those of the events counted as stored. -/
theorem backend_alerts_stored {Datetime : Type} (d : Deployment Datetime) {key : Option String}
    {crypto : Option TelemetryCrypto}
    (start : (TelemetrySender.start key).map TelemetrySender.crypto = .ok crypto) (shared : Shared d key)
    {store : Store} {moves : List Move} {t : Linked Store}
    (taken : run (linkedStep (backendServer d) d.aes crypto) (Linked.start store) moves = some t)
    (dated : ∀ nonce timestamp, .exchange nonce timestamp ∈ moves → (d.datetime (.str timestamp)).isSome) :
    StoredAlerts d store t := by
  revert dated
  refine run_invariant (I := fun past t => (∀ nonce timestamp, .exchange nonce timestamp ∈ past →
    (d.datetime (.str timestamp)).isSome) → StoredAlerts d store t) ?_ ?_ taken
  · exact fun _ => ⟨[], (List.append_nil _).symm, .nil⟩
  · intro past s a n before h dated
    obtain ⟨rows, alerts, stored⟩ := before fun nonce timestamp member =>
      dated nonce timestamp (List.mem_append_left _ member)
    obtain ⟨agent, rfl, -⟩ |
      ⟨nonce, timestamp, events, agent, status, held, rfl, -, handled, fine, -, rfl⟩ := linkedStep_cases h
    · exact ⟨rows, alerts, stored⟩
    · have read := dated nonce timestamp (List.mem_append_right _ (List.mem_singleton_self _))
      obtain ⟨more, added, each⟩ := backend_rows d start shared read handled fine
      have count : (held.alerts.length - s.server.alerts.length) = (events.filter Queued.alarms).length := by
        rw [added, List.length_append, each.length_eq, Nat.add_sub_cancel_left]
      refine ⟨rows ++ more, by rw [added, alerts, List.append_assoc], ?_⟩
      have whole : (events.filter Queued.alarms).take
          (((backendServer d).alerts held).length - ((backendServer d).alerts s.server).length) =
            events.filter Queued.alarms := List.take_of_length_le count.ge
      dsimp only
      rw [whole]
      exact List.rel_append stored each

structure StoredOnce (s : Linked Store) : Prop where
  agent : s.agent.SentOnce
  stored : s.stored.Sublist s.agent.delivered

theorem storedOnce_start (store : Store) : StoredOnce (Linked.start store) where
  agent := by
    refine ⟨?_, List.Pairwise.nil, List.forall_mem_nil _⟩
    intro task running
    cases running
  stored := List.Sublist.refl _

theorem storedOnce_step {Datetime : Type} (d : Deployment Datetime) (aes : AESGCM)
    (crypto : Option TelemetryCrypto) (s : Linked Store) (a : Move) (t : Linked Store)
    (inv : StoredOnce s) (h : linkedStep (backendServer d) aes crypto s a = some t) :
    StoredOnce t := by
  obtain ⟨agent, rfl, moves, -⟩ |
    ⟨nonce, timestamp, events, agent, status, store, rfl, running, handled, fine, answered, rfl⟩ :=
      linkedStep_cases h
  · exact ⟨sentOnce_alone inv.agent moves, by rw [delivered_alone moves]; exact inv.stored⟩
  · obtain rfl := backend_status handled fine
    refine ⟨RunningSender.sentOnce_answer inv.agent answered, ?_⟩
    obtain ⟨events', running', rfl⟩ := RunningSender.answer_cases answered
    obtain rfl : events = events' := by simpa using running.symm.trans running'
    exact inv.stored.append ((List.take_sublist _ _).trans List.filter_sublist)

theorem atMostOnce_of_storedOnce {s : Linked Store} (inv : StoredOnce s) : AtMostOnce s := by
  have delivered : (s.agent.delivered.map Queued.serial).Nodup := by
    have sorted := (List.pairwise_append.mp (List.pairwise_append.mp inv.agent.sorted).1).1
    exact (List.pairwise_map.mpr sorted).imp Nat.ne_of_lt
  exact delivered.sublist (inv.stored.map _)

/-! ## The local server -/

section
variable (server : RunLocal.LocalServer) (aes : AESGCM) (crypto : Option TelemetryCrypto)

def localPending (number : Literal → PyNum) (events : List Queued) : List (Orm.Fields Value) :=
  if crypto.isNone then
    (events.filter Queued.alarms).map fun x => RunLocal.localRow (.str "self") (x.event.fields number)
  else []

omit server in
theorem localAlerts_document (number : Literal → PyNum) (events : List Queued) (nonce : Nonce)
    (timestamp : String) :
    ∃ n, RunLocal.localAlerts (Json.map number (TelemetrySender.document aes nonce timestamp
      ⟨events.map Queued.event, crypto⟩)) = .ok (n, localPending crypto number events) := by
  cases crypto with
  | some crypto => exact ⟨0, RunLocal.localAlerts_without_data rfl⟩
  | none =>
      let payload := Json.map number (eventsPayload (events.map Queued.event))
      have whole : Json.map number (TelemetrySender.document aes nonce timestamp
          ⟨events.map Queued.event, none⟩) = .obj [("device_id", .str "self"),
            ("timestamp", .str timestamp), ("data", payload)] := rfl
      have data : (Json.lookup "data" [("device_id", .str "self"), ("timestamp", .str timestamp),
          ("data", payload)]).getD (.obj []) = _ :=
        map_eventsPayload number (events.map Queued.event)
      refine ⟨events.length, ?_⟩
      rw [whole]
      refine (RunLocal.localAlerts_obj (.str "self") rfl _ data).trans ?_
      rw [List.length_map, List.length_map, List.filter_map, List.filter_map, List.map_map, List.map_map]
      rfl

theorem local_rows {events : List Queued} {nonce : Nonce} {timestamp : String}
    {alerts alerts' : List (Orm.Fields Value)} {status : Nat}
    (handled : (localServer server).ingest alerts (requestBody aes crypto events nonce timestamp) =
      (status, alerts')) (fine : status < 400) :
    status = 200 ∧ alerts' = alerts ++ localPending crypto server.number events := by
  obtain ⟨n, listed⟩ := localAlerts_document aes crypto server.number events nonce timestamp
  have read : (Json.loadsBytes (requestBody aes crypto events nonce timestamp)).map
      (Json.map server.number) = some (Json.map server.number (TelemetrySender.document aes nonce
        timestamp ⟨events.map Queued.event, crypto⟩)) := by
    rw [requestBody, loadsBytes_dumps]
    rfl
  obtain ⟨rfl, rfl⟩ := Prod.mk.inj handled
  rw [RunLocal.ingestTelemetry_fine read listed fine]
  exact ⟨rfl, rfl⟩

theorem added_localPending (events : List Queued) (alerts : List (Orm.Fields Value)) :
    (events.filter Queued.alarms).take
        (((localServer server).alerts (alerts ++ localPending crypto server.number events)).length -
          ((localServer server).alerts alerts).length) =
      if crypto.isNone then events.filter Queued.alarms else [] := by
  change List.take ((alerts ++ localPending crypto server.number events).length - alerts.length) _ = _
  rw [List.length_append, Nat.add_sub_cancel_left, localPending]
  split_ifs
  · rw [List.length_map, List.take_length]
  · rfl

end

structure StoredEach (crypto : Option TelemetryCrypto) (s : Linked (List (Orm.Fields Value))) : Prop where
  agent : s.agent.PutBack
  stored : s.stored = if crypto.isNone then s.answered.filter Queued.alarms else []

theorem storedEach_start (crypto : Option TelemetryCrypto) (alerts : List (Orm.Fields Value)) :
    StoredEach crypto (Linked.start alerts) where
  agent := by
    refine ⟨?_, List.Pairwise.nil, List.forall_mem_nil _⟩
    intro task running
    cases running
  stored := (ite_self _).symm

theorem storedEach_step (server : RunLocal.LocalServer) (aes : AESGCM) (crypto : Option TelemetryCrypto)
    (s : Linked (List (Orm.Fields Value))) (a : Move) (t : Linked (List (Orm.Fields Value)))
    (inv : StoredEach crypto s) (once : AtMostOnce s)
    (h : linkedStep (localServer server) aes crypto s a = some t) :
    (AtMostOnce t ↔ CarriesFresh crypto s a) ∧ (AtMostOnce t → StoredEach crypto t) := by
  obtain ⟨agent, rfl, moves, alone⟩ |
    ⟨nonce, timestamp, events, agent, status, alerts, rfl, running, handled, fine, answered, rfl⟩ :=
      linkedStep_cases h
  · refine ⟨⟨fun _ => ?_, fun _ => once⟩, fun _ => ⟨putBack_alone inv.agent moves, inv.stored⟩⟩
    cases a with
    | exchange nonce timestamp => exact absurd rfl (alone nonce timestamp)
    | queueEvent c => trivial
    | flush => trivial
    | resume => trivial
  · obtain ⟨rfl, rfl⟩ := local_rows server aes crypto handled fine
    have distinct : (events.map Queued.serial).Nodup := by
      have held : s.agent.held = events := by rw [RunningSender.held, running]
      have all := inv.agent.distinct
      rw [held, List.map_append] at all
      exact (List.nodup_append.mp all).1
    rw [added_localPending]
    have stored : s.stored ++ (if crypto.isNone then events.filter Queued.alarms else []) =
        if crypto.isNone then (s.answered ++ events).filter Queued.alarms else [] := by
      rw [inv.stored, List.filter_append]
      split_ifs <;> rfl
    refine ⟨?_, fun _ => ⟨RunningSender.putBack_answer inv.agent answered, stored⟩⟩
    unfold AtMostOnce at once ⊢
    rw [stored]
    rw [inv.stored] at once
    simp only [CarriesFresh, running, Option.some.injEq, forall_eq']
    cases crypto with
    | some crypto => simp
    | none =>
        simp only [Option.isNone_none, if_true, forall_const] at once ⊢
        rw [List.filter_append, List.map_append, List.nodup_append]
        constructor
        · intro ⟨_, _, apart⟩ x carried y before
          exact apart _ (List.mem_map_of_mem before) _ (List.mem_map_of_mem carried)
        · intro fresh
          refine ⟨once, distinct.sublist (List.filter_sublist.map _), ?_⟩
          intro n old m new
          obtain ⟨y, before, rfl⟩ := List.mem_map.mp old
          obtain ⟨x, carried, rfl⟩ := List.mem_map.mp new
          exact fresh x carried y before

def StoredRows (server : RunLocal.LocalServer) (alerts : List (Orm.Fields Value))
    (s : Linked (List (Orm.Fields Value))) : Prop :=
  s.server = alerts ++
    s.stored.map fun x => RunLocal.localRow (.str "self") (x.event.fields server.number)

/-- The local server's alerts are those of the events counted as stored. -/
theorem local_alerts_stored {server : RunLocal.LocalServer} {aes : AESGCM}
    {crypto : Option TelemetryCrypto} {alerts : List (Orm.Fields Value)} {moves : List Move}
    {t : Linked (List (Orm.Fields Value))}
    (taken : run (linkedStep (localServer server) aes crypto) (Linked.start alerts) moves = some t) :
    StoredRows server alerts t := by
  have start : StoredRows server alerts (Linked.start alerts) := (List.append_nil alerts).symm
  refine run_invariant (I := fun _ => StoredRows server alerts) start ?_ taken
  intro _ s a n same h
  obtain ⟨agent, rfl, -⟩ |
    ⟨nonce, timestamp, events, agent, status, held, rfl, -, handled, fine, -, rfl⟩ :=
      linkedStep_cases h
  · exact same
  · obtain ⟨-, rfl⟩ := local_rows server aes crypto handled fine
    unfold StoredRows at same ⊢
    rw [added_localPending, List.map_append, ← List.append_assoc, ← same, localPending]
    split_ifs <;> rfl

theorem atMostOnce_iff {Datetime : Type} (d : Deployment Datetime) (server : RunLocal.LocalServer)
    (aes : AESGCM) (crypto : Option TelemetryCrypto) (store : Store)
    (alerts : List (Orm.Fields Value)) (moves moves' : List Move)
    (t : Linked (List (Orm.Fields Value)))
    (taken : run (linkedStep (localServer server) aes crypto) (Linked.start alerts) moves' = some t) :
    Always (linkedStep (backendServer d) aes crypto) AtMostOnce (Linked.start store) moves ∧
      (Always (linkedStep (localServer server) aes crypto) AtMostOnce (Linked.start alerts) moves' ↔
        Along (linkedStep (localServer server) aes crypto) (CarriesFresh crypto) (Linked.start alerts)
          moves') := by
  constructor
  · exact always_of_invariant (storedOnce_start store) (storedOnce_step d aes crypto)
      fun _ => atMostOnce_of_storedOnce
  · have once : AtMostOnce (Linked.start alerts) := List.Pairwise.nil
    exact always_iff_along (storedEach_start crypto alerts) once (storedEach_step server aes crypto) taken

def intrusion : QueueCall := ⟨"network_anomaly", "high", [], ""⟩

def zeroNonce : Nonce := ⟨List.replicate 12 0, List.length_replicate⟩

def openServer : RunLocal.LocalServer := ⟨fun _ => .int 0, fun _ _ => true⟩

theorem first_flush_stored_once :
    let services : Services := ⟨fun _ => .error .valueError, fun _ => "", fun _ => "", fun _ => true,
      fun _ => true⟩
    let d : Deployment Value := ⟨⟨.development, none⟩, services, fun _ => true, default,
      fun _ => .int 0, some, fun _ => ""⟩
    Always (linkedStep (backendServer d) default none) AtMostOnce (Linked.start ⟨[], [], 0, [], []⟩)
      [.queueEvent intrusion, .flush, .resume, .exchange zeroNonce ""] ∧
    Always (linkedStep (localServer openServer) default none) AtMostOnce (Linked.start [])
      [.queueEvent intrusion, .flush, .resume, .exchange zeroNonce ""] := by
  intro services d
  have taken : (run (linkedStep (localServer openServer) default none) (Linked.start [])
      [.queueEvent intrusion, .flush, .resume, .exchange zeroNonce ""]).isSome := by decide +kernel
  obtain ⟨t, taken⟩ := Option.isSome_iff_exists.mp taken
  obtain ⟨backend, localOnce⟩ := atMostOnce_iff d openServer default none ⟨[], [], 0, [], []⟩ [] _ _
    t taken
  refine ⟨backend, localOnce.mpr ?_⟩
  apply Along.mono (P := fun s _ => s.answered.isEmpty = true)
  · intro s a empty
    cases a with
    | exchange nonce timestamp =>
        intro task running plain x carried y before
        rw [List.isEmpty_iff.mp empty] at before
        cases before
    | queueEvent c => trivial
    | flush => trivial
    | resume => trivial
  · decide +kernel

theorem alert_stored_twice :
    ¬ Always (linkedStep (localServer openServer) default none) AtMostOnce (Linked.start [])
      [.queueEvent intrusion, .flush, .resume, .exchange zeroNonce "", .resume, .resume, .flush,
        .resume, .exchange zeroNonce ""] := by
  intro always
  have serials : (run (linkedStep (localServer openServer) default none) (Linked.start [])
      [.queueEvent intrusion, .flush, .resume, .exchange zeroNonce "", .resume, .resume, .flush,
        .resume, .exchange zeroNonce ""]).map (fun t => t.stored.map Queued.serial) =
          some [0, 0] := by decide +kernel
  obtain ⟨t, taken, stored⟩ := Option.map_eq_some_iff.mp serials
  have once : (t.stored.map Queued.serial).Nodup := always _ [] (List.append_nil _).symm t taken
  rw [stored] at once
  exact absurd once (by decide)

end GuardianPi.Agent
