import GuardianPi.Agent.TelemetrySender
import GuardianPi.Library.Transition

namespace GuardianPi.Agent
open GuardianPi.Library

inductive Outcome where
  | returned
  | exception
  | cancelled
  deriving DecidableEq

/-- The awaits of `flush`: the entry of the client, its `post`, with the status that the server has
answered, and its exit, with what is pending when the body of the `async with` is left. -/
inductive Await where
  | entering
  | posting (answer : Option Nat)
  | leaving (pending : Outcome)
  deriving DecidableEq

/-- An event with its place among all that were ever queued. -/
structure Queued where
  serial : Nat
  event : Event

structure FlushTask where
  events : List Queued
  await : Await

/-- The sender's queue and its running flush, with a ledger: the events ever queued, those in requests
answered 202 and those that were trimmed. -/
structure RunningSender where
  queue : List Queued
  task : Option FlushTask
  queued : List Queued
  delivered : List Queued
  trimmed : List Queued

namespace RunningSender

def start : RunningSender := ⟨[], none, [], [], []⟩

def stamp (s : RunningSender) (c : QueueCall) : Queued := ⟨s.queued.length, c.event⟩

def queueEvent (s : RunningSender) (c : QueueCall) : RunningSender :=
  let queue := s.queue ++ [s.stamp c]
  { s with
    queue := if maxQueue ≤ queue.length then queue.rtake maxQueue else queue
    queued := s.queued ++ [s.stamp c]
    trimmed := s.trimmed ++ queue.rdrop maxQueue }

def beginFlush (s : RunningSender) : RunningSender :=
  if s.queue.isEmpty then s else { s with queue := [], task := some ⟨s.queue, .entering⟩ }

def extend (s : RunningSender) (events : List Queued) : RunningSender :=
  { s with queue := s.queue ++ events }

def waitAt (s : RunningSender) (task : FlushTask) (await : Await) : RunningSender :=
  { s with task := some { task with await := await } }

/-- What the handlers of `flush` do: an exception puts the events back, a cancellation is none of
theirs. -/
def finish (s : RunningSender) (task : FlushTask) : Outcome → RunningSender
  | .exception => { s.extend task.events with task := none }
  | _ => { s with task := none }

def resume (s : RunningSender) (task : FlushTask) (how : Outcome) : Option RunningSender :=
  match task.await, how with
  | .entering, .returned => some (s.waitAt task (.posting none))
  | .entering, how => some (s.finish task how)
  | .posting none, .returned => none
  | .posting (some status), .returned =>
      let s := if status = 202 then s else s.extend task.events
      some (s.waitAt task (.leaving .returned))
  | .posting _, how => some (s.waitAt task (.leaving how))
  | .leaving pending, .returned => some (s.finish task pending)
  | .leaving _, how => some (s.finish task how)

end RunningSender

/-- The steps of a run. Flushes run one at a time, and what a task does between two awaits is one
step. -/
inductive Act where
  | queueEvent (c : QueueCall)
  | flush
  | answer (status : Nat)
  | resume (how : Outcome)

namespace RunningSender

def step (s : RunningSender) : Act → Option RunningSender
  | .queueEvent c => some (s.queueEvent c)
  | .flush => if s.task.isSome then none else some s.beginFlush
  | .answer status =>
      match s.task with
      | some ⟨events, .posting none⟩ =>
          let delivered := if status = 202 then s.delivered ++ events else s.delivered
          some ({ s with delivered := delivered }.waitAt ⟨events, .posting none⟩ (.posting (some status)))
      | _ => none
  | .resume how => s.task.bind fun task => s.resume task how

def requeued (s : RunningSender) : Act → List Queued
  | .resume how =>
      match s.task with
      | none => []
      | some ⟨events, .entering⟩ => if how = .exception then events else []
      | some ⟨events, .posting (some status)⟩ =>
          if how = .returned ∧ status ≠ 202 then events else []
      | some ⟨_, .posting none⟩ => []
      | some ⟨events, .leaving pending⟩ =>
          if how = .exception ∨ how = .returned ∧ pending = .exception then events else []
  | _ => []

def abandoned (s : RunningSender) : Act → List Queued
  | .resume how =>
      match s.task with
      | none => []
      | some ⟨events, .entering⟩ => if how = .cancelled then events else []
      | some ⟨_, .posting _⟩ => []
      | some ⟨events, .leaving pending⟩ =>
          if how = .cancelled ∧ pending ≠ .returned ∨ how = .returned ∧ pending = .cancelled then events
          else []
  | _ => []

theorem queueEvent_eq (s : RunningSender) (c : QueueCall) :
    s.queueEvent c =
      { s with
        queue := (s.queue ++ [s.stamp c]).rtake maxQueue
        queued := s.queued ++ [s.stamp c]
        trimmed := s.trimmed ++ (s.queue ++ [s.stamp c]).rdrop maxQueue } := by
  simp only [queueEvent]
  split_ifs with full
  · rfl
  · rw [rtake_of_length_le (Nat.le_of_not_le full)]

inductive Resumed (s : RunningSender) (how : Outcome) (task : FlushTask) : RunningSender → Prop where
  | waits (await : Await) (silent : s.requeued (.resume how) = [])
      (nothing : s.abandoned (.resume how) = []) (before : task.await ≠ .leaving .returned)
      (unanswered : ∀ status, await ≠ .posting (some status))
      (accepted : await = .leaving .returned → task.await = .posting (some 202)) :
      Resumed s how task (s.waitAt task await)
  | putsBack (all : s.requeued (.resume how) = task.events)
      (nothing : s.abandoned (.resume how) = []) :
      Resumed s how task ((s.extend task.events).waitAt task (.leaving .returned))
  | fails (all : s.requeued (.resume how) = task.events) (nothing : s.abandoned (.resume how) = []) :
      Resumed s how task { s.extend task.events with task := none }
  | drops (silent : s.requeued (.resume how) = []) (all : s.abandoned (.resume how) = task.events)
      (before : task.await ≠ .leaving .returned) : Resumed s how task { s with task := none }
  | ends (silent : s.requeued (.resume how) = []) (nothing : s.abandoned (.resume how) = [])
      (handled : task.await = .leaving .returned) : Resumed s how task { s with task := none }

theorem resume_cases {s t : RunningSender} {how : Outcome} (h : s.step (.resume how) = some t) :
    ∃ task, s.task = some task ∧ s.Resumed how task t := by
  obtain ⟨⟨events, await⟩, running, resumed⟩ := Option.bind_eq_some_iff.mp h
  refine ⟨⟨events, await⟩, running, ?_⟩
  cases await with
  | entering =>
      cases how with
      | returned =>
          obtain rfl := Option.some.inj resumed
          exact .waits _ (by simp [requeued, running]) (by simp [abandoned, running]) nofun nofun nofun
      | exception =>
          obtain rfl := Option.some.inj resumed
          exact .fails (by simp [requeued, running]) (by simp [abandoned, running])
      | cancelled =>
          obtain rfl := Option.some.inj resumed
          exact .drops (by simp [requeued, running]) (by simp [abandoned, running]) nofun
  | posting answer =>
      have nothing : s.abandoned (.resume how) = [] := by simp [abandoned, running]
      by_cases done : how = .returned
      · subst done
        cases answer with
        | none => cases resumed
        | some status =>
            by_cases accepted : status = 202
            · subst accepted
              obtain rfl := Option.some.inj resumed
              exact .waits _ (by simp [requeued, running]) nothing nofun nofun fun _ => rfl
            · simp only [resume, if_neg accepted] at resumed
              obtain rfl := Option.some.inj resumed
              exact .putsBack (by simp [requeued, running, accepted]) nothing
      · have left : s.waitAt ⟨events, .posting answer⟩ (.leaving how) = t := by
          cases how <;> cases answer <;> first | exact Option.some.inj resumed | exact absurd rfl done
        obtain rfl := left
        have silent : s.requeued (.resume how) = [] := by
          cases answer <;> simp [requeued, running, done]
        exact .waits _ silent nothing nofun nofun fun leaves => absurd (Await.leaving.inj leaves) done
  | leaving pending =>
      cases how with
      | returned =>
          obtain rfl := Option.some.inj resumed
          cases pending with
          | returned =>
              exact .ends (by simp [requeued, running]) (by simp [abandoned, running]) rfl
          | exception =>
              exact .fails (by simp [requeued, running]) (by simp [abandoned, running])
          | cancelled =>
              exact .drops (by simp [requeued, running]) (by simp [abandoned, running]) nofun
      | exception =>
          obtain rfl := Option.some.inj resumed
          exact .fails (by simp [requeued, running]) (by simp [abandoned, running])
      | cancelled =>
          obtain rfl := Option.some.inj resumed
          by_cases handled : pending = .returned
          · subst handled
            exact .ends (by simp [requeued, running]) (by simp [abandoned, running]) rfl
          · exact .drops (by simp [requeued, running]) (by simp [abandoned, running, handled])
              fun leaves => handled (Await.leaving.inj leaves)

theorem answer_cases {s t : RunningSender} {status : Nat} (h : s.step (.answer status) = some t) :
    ∃ events, s.task = some ⟨events, .posting none⟩ ∧
      t = { s with
        task := some ⟨events, .posting (some status)⟩
        delivered := if status = 202 then s.delivered ++ events else s.delivered } := by
  simp only [step] at h
  split at h
  · rename_i events running
    exact ⟨events, running, (Option.some.inj h).symm⟩
  · cases h

theorem flush_cases {s t : RunningSender} (h : s.step .flush = some t) :
    s.task = none ∧ t = s.beginFlush := by
  simp only [step] at h
  split_ifs at h with running
  exact ⟨Option.not_isSome_iff_eq_none.mp running, (Option.some.inj h).symm⟩

end RunningSender

end GuardianPi.Agent
