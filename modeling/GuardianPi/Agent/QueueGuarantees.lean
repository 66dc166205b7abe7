import GuardianPi.Agent.FlushTask

namespace GuardianPi.Agent
open GuardianPi.Library

namespace RunningSender

/-- The queue lists its events in the order in which they were queued, and all that was trimmed is
older. -/
structure InOrder (queue trimmed : List Queued) : Prop where
  sorted : queue.Pairwise fun x y => x.serial < y.serial
  oldest : ∀ x ∈ trimmed, ∀ y ∈ queue, x.serial < y.serial

def Ordered (s : RunningSender) : Prop := InOrder s.queue s.trimmed

def KeepsOrder (s : RunningSender) (a : Act) : Prop := s.requeued a = [] ∨ s.queue = []

instance (s : RunningSender) (a : Act) : Decidable (s.KeepsOrder a) :=
  inferInstanceAs (Decidable (_ = [] ∨ _ = []))

/-- What holds of a flush while it runs: its events were queued before those that are waiting, up to
events of its own that were put back. -/
structure Ahead (s : RunningSender) (events : List Queued) : Prop where
  nonempty : events ≠ []
  sorted : events.Pairwise fun x y => x.serial < y.serial
  bound : ∀ x ∈ events, x.serial < s.queued.length
  oldest : s.queue = [] → ∀ x ∈ s.trimmed, ∀ y ∈ events, x.serial < y.serial
  ahead : ∀ y ∈ s.queue, ∃ x ∈ events, x.serial ≤ y.serial

structure Numbered (s : RunningSender) : Prop where
  bound : ∀ x ∈ s.queue, x.serial < s.queued.length
  bound_trimmed : ∀ x ∈ s.trimmed, x.serial < s.queued.length
  running : ∀ task, s.task = some task → s.Ahead task.events

theorem mem_pushed {s : RunningSender} {c : QueueCall} {x : Queued} (inv : s.Numbered)
    (member : x ∈ s.queue ++ [s.stamp c]) : x.serial < s.queued.length + 1 := by
  rcases List.mem_append.mp member with old | new
  · exact Nat.lt_succ_of_lt (inv.bound x old)
  · obtain rfl := List.mem_singleton.mp new
    exact Nat.lt_succ_self _

theorem rdrop_append_rtake {α : Type} (xs : List α) (n : Nat) : xs.rdrop n ++ xs.rtake n = xs :=
  List.take_append_drop _ _

theorem mem_of_mem_rtake {α : Type} {xs : List α} {n : Nat} {x : α} (h : x ∈ xs.rtake n) : x ∈ xs :=
  List.mem_of_mem_drop h

theorem mem_of_mem_rdrop {α : Type} {xs : List α} {n : Nat} {x : α} (h : x ∈ xs.rdrop n) : x ∈ xs :=
  List.mem_of_mem_take h

theorem stamp_mem_rtake (s : RunningSender) (c : QueueCall) :
    s.stamp c ∈ (s.queue ++ [s.stamp c]).rtake maxQueue := by
  rw [maxQueue, List.rtake_concat_succ]
  exact List.mem_append_right _ List.mem_cons_self

theorem queueEvent_sorted {s : RunningSender} (inv : s.Numbered) (ordered : s.Ordered)
    (c : QueueCall) : (s.queue ++ [s.stamp c]).Pairwise fun x y => x.serial < y.serial := by
  rw [List.pairwise_append]
  refine ⟨ordered.sorted, List.pairwise_singleton _ _, fun x old y new => ?_⟩
  obtain rfl := List.mem_singleton.mp new
  exact inv.bound x old

theorem queueEvent_ordered {s : RunningSender} (inv : s.Numbered) (ordered : s.Ordered)
    (c : QueueCall) : (s.queueEvent c).Ordered := by
  rw [queueEvent_eq]
  have sorted := queueEvent_sorted inv ordered c
  refine ⟨sorted.drop, fun x gone y kept => ?_⟩
  rcases List.mem_append.mp gone with old | dropped
  · rcases List.mem_append.mp (mem_of_mem_rtake kept) with waiting | new
    · exact ordered.oldest x old y waiting
    · obtain rfl := List.mem_singleton.mp new
      exact inv.bound_trimmed x old
  · rw [← rdrop_append_rtake (s.queue ++ [s.stamp c]) maxQueue, List.pairwise_append] at sorted
    exact sorted.2.2 x dropped y kept

theorem queueEvent_numbered {s : RunningSender} (inv : s.Numbered) (c : QueueCall) :
    (s.queueEvent c).Numbered := by
  rw [queueEvent_eq]
  have length : (s.queued ++ [s.stamp c]).length = s.queued.length + 1 := by simp
  refine ⟨fun x kept => ?_, fun x gone => ?_, fun task running => ?_⟩
  · rw [length]
    exact mem_pushed inv (mem_of_mem_rtake kept)
  · rw [length]
    rcases List.mem_append.mp gone with old | dropped
    · exact Nat.lt_succ_of_lt (inv.bound_trimmed x old)
    · exact mem_pushed inv (mem_of_mem_rdrop dropped)
  · have first := inv.running task running
    refine ⟨first.nonempty, first.sorted, fun x member => ?_, fun empty => ?_, fun y kept => ?_⟩
    · rw [length]
      exact Nat.lt_succ_of_lt (first.bound x member)
    · have new := stamp_mem_rtake s c
      rw [show (s.queue ++ [s.stamp c]).rtake maxQueue = [] from empty] at new
      cases new
    · rcases List.mem_append.mp (mem_of_mem_rtake kept) with waiting | new
      · exact first.ahead y waiting
      · obtain rfl := List.mem_singleton.mp new
        obtain ⟨x, member⟩ := List.exists_mem_of_ne_nil _ first.nonempty
        exact ⟨x, member, Nat.le_of_lt (first.bound x member)⟩

theorem beginFlush_cases (s : RunningSender) :
    s.queue = [] ∧ s.beginFlush = s ∨
      s.queue ≠ [] ∧ s.beginFlush = { s with queue := [], task := some ⟨s.queue, .entering⟩ } := by
  cases empty : s.queue with
  | nil => exact Or.inl ⟨rfl, by simp [beginFlush, empty]⟩
  | cons x xs => exact Or.inr ⟨List.cons_ne_nil _ _, by simp [beginFlush, empty]⟩

theorem beginFlush_spec {s : RunningSender} (inv : s.Numbered) (ordered : s.Ordered) :
    s.beginFlush.Ordered ∧ s.beginFlush.Numbered := by
  rcases s.beginFlush_cases with ⟨-, same⟩ | ⟨nonempty, taken⟩
  · rw [same]
    exact ⟨ordered, inv⟩
  · rw [taken]
    refine ⟨⟨List.Pairwise.nil, fun _ _ => List.forall_mem_nil _⟩, List.forall_mem_nil _,
      inv.bound_trimmed, fun task running => ?_⟩
    obtain rfl := Option.some.inj running
    exact ⟨nonempty, ordered.sorted, inv.bound, fun _ => ordered.oldest, List.forall_mem_nil _⟩

theorem extend_ordered_iff {s : RunningSender} {task : FlushTask} (inv : s.Numbered)
    (running : s.task = some task) :
    (s.extend task.events).Ordered ↔ s.queue = [] := by
  have first := inv.running task running
  constructor
  · intro ordered
    by_contra nonempty
    obtain ⟨y, waiting⟩ := List.exists_mem_of_ne_nil _ nonempty
    obtain ⟨x, member, le⟩ := first.ahead y waiting
    have less := (List.pairwise_append.mp ordered.sorted).2.2 y waiting x member
    exact absurd (Nat.lt_of_lt_of_le less le) (Nat.lt_irrefl _)
  · intro empty
    have queue : (s.extend task.events).queue = task.events := by rw [extend, empty, List.nil_append]
    refine ⟨by rw [queue]; exact first.sorted, ?_⟩
    rw [queue]
    exact first.oldest empty

theorem extend_numbered {s : RunningSender} {task : FlushTask} (inv : s.Numbered)
    (running : s.task = some task) : (s.extend task.events).Numbered := by
  have first := inv.running task running
  refine ⟨fun x member => ?_, inv.bound_trimmed, fun task' running' => ?_⟩
  · rcases List.mem_append.mp member with old | back
    · exact inv.bound x old
    · exact first.bound x back
  · obtain rfl := Option.some.inj (running.symm.trans running')
    refine ⟨first.nonempty, first.sorted, first.bound, fun empty => ?_, fun y member => ?_⟩
    · exact absurd (List.append_eq_nil_iff.mp empty).2 first.nonempty
    · rcases List.mem_append.mp member with old | back
      · exact first.ahead y old
      · exact ⟨y, back, Nat.le_refl _⟩

theorem numbered_of_eq {s t : RunningSender} (inv : s.Numbered) (queue : t.queue = s.queue)
    (queued : t.queued = s.queued) (trimmed : t.trimmed = s.trimmed)
    (events : ∀ task', t.task = some task' → ∃ task, s.task = some task ∧ task'.events = task.events) :
    t.Numbered := by
  refine ⟨by rw [queue, queued]; exact inv.bound, by rw [trimmed, queued]; exact inv.bound_trimmed,
    fun task' running' => ?_⟩
  obtain ⟨task, running, same⟩ := events task' running'
  obtain ⟨nonempty, sorted, bound, oldest, ahead⟩ := inv.running task running
  rw [same]
  exact ⟨nonempty, sorted, by rw [queued]; exact bound, by rw [queue, trimmed]; exact oldest,
    by rw [queue]; exact ahead⟩

theorem order_step (s : RunningSender) (a : Act) (t : RunningSender) (inv : s.Numbered)
    (ordered : s.Ordered) (h : s.step a = some t) :
    (t.Ordered ↔ s.KeepsOrder a) ∧ (t.Ordered → t.Numbered) := by
  cases a with
  | queueEvent c =>
      obtain rfl := Option.some.inj h
      exact ⟨⟨fun _ => Or.inl rfl, fun _ => queueEvent_ordered inv ordered c⟩,
        fun _ => queueEvent_numbered inv c⟩
  | flush =>
      obtain ⟨-, rfl⟩ := flush_cases h
      obtain ⟨kept, numbered⟩ := beginFlush_spec inv ordered
      exact ⟨⟨fun _ => Or.inl rfl, fun _ => kept⟩, fun _ => numbered⟩
  | answer status =>
      obtain ⟨events, running, rfl⟩ := answer_cases h
      refine ⟨⟨fun _ => Or.inl rfl, fun _ => ordered⟩, fun _ => ?_⟩
      refine numbered_of_eq inv rfl rfl rfl fun task running' => ?_
      obtain rfl := Option.some.inj running'
      exact ⟨_, running, rfl⟩
  | resume how =>
      obtain ⟨task, running, resumed⟩ := resume_cases h
      have nonempty := (inv.running task running).nonempty
      cases resumed with
      | waits await silent =>
          refine ⟨⟨fun _ => Or.inl silent, fun _ => ordered⟩, fun _ => ?_⟩
          refine numbered_of_eq inv rfl rfl rfl fun task' running' => ?_
          obtain rfl := Option.some.inj running'
          exact ⟨_, running, rfl⟩
      | putsBack all =>
          refine ⟨?_, fun _ => ?_⟩
          · rw [KeepsOrder, all, or_iff_right nonempty]
            exact extend_ordered_iff inv running
          · refine numbered_of_eq (extend_numbered inv running) rfl rfl rfl fun task' running' => ?_
            obtain rfl := Option.some.inj running'
            exact ⟨_, running, rfl⟩
      | fails all =>
          refine ⟨?_, fun _ => ?_⟩
          · rw [KeepsOrder, all, or_iff_right nonempty]
            exact extend_ordered_iff inv running
          · refine numbered_of_eq (extend_numbered inv running) rfl rfl rfl fun task' running' => ?_
            cases running'
      | drops silent | ends silent =>
          refine ⟨⟨fun _ => Or.inl silent, fun _ => ordered⟩, fun _ => ?_⟩
          refine numbered_of_eq inv rfl rfl rfl fun task' running' => ?_
          cases running'

theorem start_numbered : start.Numbered :=
  ⟨List.forall_mem_nil _, List.forall_mem_nil _, fun _ running => by cases running⟩

theorem start_ordered : start.Ordered := ⟨List.Pairwise.nil, fun _ _ => List.forall_mem_nil _⟩

theorem always_ordered_iff (acts : List Act) (t : RunningSender)
    (taken : run step start acts = some t) :
    Always step Ordered start acts ↔ Along step KeepsOrder start acts :=
  always_iff_along start_numbered start_ordered order_step taken

def heartbeat : QueueCall := ⟨"heartbeat", "info", [], ""⟩

theorem ordered_when_sent : Always step Ordered start
    [.queueEvent heartbeat, .flush, .resume .returned, .queueEvent heartbeat, .answer 202,
      .resume .returned, .resume .returned] :=
  (always_ordered_iff _ _ rfl).mpr (by decide)

theorem requeued_behind_newer : ¬ Always step Ordered start
    [.queueEvent heartbeat, .flush, .resume .returned, .queueEvent heartbeat, .resume .exception,
      .resume .returned] := by
  intro always
  have serials : (run step start [.queueEvent heartbeat, .flush, .resume .returned,
      .queueEvent heartbeat, .resume .exception, .resume .returned]).map
        (fun t => t.queue.map Queued.serial) = some [1, 0] := rfl
  obtain ⟨t, taken, queue⟩ := Option.map_eq_some_iff.mp serials
  have sorted := List.pairwise_map.mpr (always _ [] (List.append_nil _).symm t taken).sorted
  rw [queue] at sorted
  exact absurd sorted (by decide)

/-! ## Bound -/

def Bounded (s : RunningSender) : Prop := s.queue.length ≤ maxQueue

def KeepsBound (s : RunningSender) (a : Act) : Prop :=
  s.queue.length + (s.requeued a).length ≤ maxQueue

instance (s : RunningSender) (a : Act) : Decidable (s.KeepsBound a) :=
  inferInstanceAs (Decidable (_ ≤ _))

theorem bound_step (s : RunningSender) (a : Act) (t : RunningSender) (_ : True) (bounded : s.Bounded)
    (h : s.step a = some t) : (t.Bounded ↔ s.KeepsBound a) ∧ (t.Bounded → True) := by
  refine ⟨?_, fun _ => trivial⟩
  cases a with
  | queueEvent c =>
      obtain rfl := Option.some.inj h
      refine ⟨fun _ => bounded, fun _ => ?_⟩
      rw [Bounded, queueEvent_eq]
      change ((s.queue ++ [s.stamp c]).rtake maxQueue).length ≤ maxQueue
      rw [List.rtake, List.length_drop]
      omega
  | flush =>
      obtain ⟨-, rfl⟩ := flush_cases h
      refine ⟨fun _ => bounded, fun _ => ?_⟩
      rcases s.beginFlush_cases with ⟨-, same⟩ | ⟨-, taken⟩
      · rw [same]
        exact bounded
      · rw [taken]
        exact Nat.zero_le _
  | answer status =>
      obtain ⟨events, -, rfl⟩ := answer_cases h
      exact ⟨fun _ => bounded, fun _ => bounded⟩
  | resume how =>
      obtain ⟨task, -, resumed⟩ := resume_cases h
      have back : (s.extend task.events).queue.length = s.queue.length + task.events.length :=
        List.length_append
      cases resumed with
      | waits await silent | drops silent | ends silent =>
          rw [KeepsBound, silent]
          exact Iff.rfl
      | putsBack all | fails all =>
          rw [KeepsBound, all, ← back]
          exact Iff.rfl

theorem always_bounded_iff (acts : List Act) (t : RunningSender)
    (taken : run step start acts = some t) :
    Always step Bounded start acts ↔ Along step KeepsBound start acts :=
  always_iff_along trivial (Nat.zero_le _) bound_step taken

theorem bounded_when_refused : Always step Bounded start
    [.queueEvent heartbeat, .flush, .resume .returned, .queueEvent heartbeat, .answer 500,
      .resume .returned, .resume .returned] :=
  (always_bounded_iff _ _ rfl).mpr (by decide)

theorem requeued_beyond_bound : ¬ Always step Bounded start
    (List.replicate 100 (.queueEvent heartbeat) ++ [.flush, .resume .returned, .queueEvent heartbeat,
      .answer 503, .resume .returned]) := by
  intro always
  have length : (run step start (List.replicate 100 (.queueEvent heartbeat) ++ [.flush,
      .resume .returned, .queueEvent heartbeat, .answer 503, .resume .returned])).map
        (fun t => t.queue.length) = some 101 := by decide +kernel
  obtain ⟨t, taken, queue⟩ := Option.map_eq_some_iff.mp length
  have bounded : t.queue.length ≤ maxQueue := always _ [] (List.append_nil _).symm t taken
  rw [queue] at bounded
  exact absurd bounded (by decide)

/-! ## Conservation -/

def Accounted (s : RunningSender) : Prop :=
  s.task = none → ∀ x ∈ s.queued, x ∈ s.queue ∨ x ∈ s.delivered ∨ x ∈ s.trimmed

def KeepsEvents (s : RunningSender) (a : Act) : Prop :=
  ∀ x ∈ s.abandoned a, x ∈ s.delivered ∨ x ∈ s.trimmed

structure Tracked (s : RunningSender) : Prop where
  serials : ∀ x ∈ s.queued, x.serial < s.queued.length
  waiting : ∀ x ∈ s.queue, x ∈ s.queued
  accounted : ∀ x ∈ s.queued, x ∈ s.queue ∨ x ∈ s.delivered ∨ x ∈ s.trimmed ∨
    ∃ task, s.task = some task ∧ task.await ≠ .leaving .returned ∧ x ∈ task.events
  held : ∀ task, s.task = some task → ∀ x ∈ task.events, x ∈ s.queued
  apart : ∀ task, s.task = some task → task.await ≠ .leaving .returned →
    ∀ x ∈ task.events, x ∉ s.queue
  answered : ∀ task, s.task = some task → task.await = .posting (some 202) →
    ∀ x ∈ task.events, x ∈ s.delivered

theorem Tracked.toAccounted {s : RunningSender} (inv : s.Tracked) : s.Accounted := by
  intro idle x member
  rcases inv.accounted x member with waiting | delivered | trimmed | ⟨task, running, -⟩
  · exact Or.inl waiting
  · exact Or.inr (Or.inl delivered)
  · exact Or.inr (Or.inr trimmed)
  · rw [idle] at running
    cases running

theorem queueEvent_tracked {s : RunningSender} (inv : s.Tracked) (c : QueueCall) :
    (s.queueEvent c).Tracked := by
  rw [queueEvent_eq]
  have length : (s.queued ++ [s.stamp c]).length = s.queued.length + 1 := by simp
  have kept : ∀ x ∈ s.queue ++ [s.stamp c], x ∈ (s.queue ++ [s.stamp c]).rtake maxQueue ∨
      x ∈ s.trimmed ++ (s.queue ++ [s.stamp c]).rdrop maxQueue := by
    intro x member
    rw [← rdrop_append_rtake (s.queue ++ [s.stamp c]) maxQueue] at member
    rcases List.mem_append.mp member with dropped | kept
    · exact Or.inr (List.mem_append_right _ dropped)
    · exact Or.inl kept
  refine ⟨fun x member => ?_, fun x member => ?_, fun x member => ?_, fun task running x member => ?_,
    fun task running await x member again => ?_, inv.answered⟩
  · rw [length]
    rcases List.mem_append.mp member with old | new
    · exact Nat.lt_succ_of_lt (inv.serials x old)
    · obtain rfl := List.mem_singleton.mp new
      exact Nat.lt_succ_self _
  · rcases List.mem_append.mp (mem_of_mem_rtake member) with old | new
    · exact List.mem_append_left _ (inv.waiting x old)
    · exact List.mem_append_right _ new
  · rcases List.mem_append.mp member with old | new
    · rcases inv.accounted x old with waiting | delivered | trimmed | flight
      · exact (kept x (List.mem_append_left _ waiting)).imp_right fun gone => Or.inr (Or.inl gone)
      · exact Or.inr (Or.inl delivered)
      · exact Or.inr (Or.inr (Or.inl (List.mem_append_left _ trimmed)))
      · exact Or.inr (Or.inr (Or.inr flight))
    · exact (kept x (List.mem_append_right _ new)).imp_right fun gone => Or.inr (Or.inl gone)
  · exact List.mem_append_left _ (inv.held task running x member)
  · rcases List.mem_append.mp (mem_of_mem_rtake again) with old | new
    · exact inv.apart task running await x member old
    · obtain rfl := List.mem_singleton.mp new
      exact absurd (inv.serials _ (inv.held task running _ member)) (Nat.lt_irrefl _)

theorem beginFlush_tracked {s : RunningSender} (inv : s.Tracked) (idle : s.task = none) :
    s.beginFlush.Tracked := by
  rcases s.beginFlush_cases with ⟨-, same⟩ | ⟨-, taken⟩
  · rw [same]
    exact inv
  · rw [taken]
    refine ⟨inv.serials, List.forall_mem_nil _, fun x member => ?_, fun task running => ?_,
      fun task running _ x _ => List.not_mem_nil, fun task running await => ?_⟩
    · rcases inv.toAccounted idle x member with waiting | delivered | trimmed
      · exact Or.inr (Or.inr (Or.inr ⟨_, rfl, by simp, waiting⟩))
      · exact Or.inr (Or.inl delivered)
      · exact Or.inr (Or.inr (Or.inl trimmed))
    · obtain rfl := Option.some.inj running
      exact inv.waiting
    · obtain rfl := Option.some.inj running
      cases await

theorem answer_tracked {s : RunningSender} (inv : s.Tracked) {events : List Queued}
    (running : s.task = some ⟨events, .posting none⟩) (status : Nat) :
    Tracked { s with
      task := some ⟨events, .posting (some status)⟩
      delivered := if status = 202 then s.delivered ++ events else s.delivered } := by
  have more : ∀ x ∈ s.delivered, x ∈ if status = 202 then s.delivered ++ events else s.delivered := by
    intro x member
    split_ifs
    · exact List.mem_append_left _ member
    · exact member
  refine ⟨inv.serials, inv.waiting, fun x member => ?_, fun task running' => ?_,
    fun task running' _ => ?_, fun task running' await x member => ?_⟩
  · rcases inv.accounted x member with waiting | delivered | trimmed | ⟨task, running', -, flight⟩
    · exact Or.inl waiting
    · exact Or.inr (Or.inl (more x delivered))
    · exact Or.inr (Or.inr (Or.inl trimmed))
    · obtain rfl := Option.some.inj (running.symm.trans running')
      exact Or.inr (Or.inr (Or.inr ⟨_, rfl, by simp, flight⟩))
  · obtain rfl := Option.some.inj running'
    exact inv.held ⟨events, .posting none⟩ running
  · obtain rfl := Option.some.inj running'
    exact inv.apart ⟨events, .posting none⟩ running (by simp)
  · obtain rfl := Option.some.inj running'
    obtain rfl : status = 202 := by simpa using await
    exact List.mem_append_right _ member

theorem tracked_of_idle {s t : RunningSender} (inv : s.Tracked) (queued : t.queued = s.queued)
    (idle : t.task = none) (waiting : ∀ x ∈ t.queue, x ∈ s.queued)
    (accounted : ∀ x ∈ s.queued, x ∈ t.queue ∨ x ∈ t.delivered ∨ x ∈ t.trimmed) : t.Tracked := by
  refine ⟨?_, ?_, ?_, fun task running => ?_, fun task running => ?_, fun task running => ?_⟩
  · rw [queued]
    exact inv.serials
  · rw [queued]
    exact waiting
  · intro x member
    rw [queued] at member
    rcases accounted x member with waiting | delivered | trimmed
    · exact Or.inl waiting
    · exact Or.inr (Or.inl delivered)
    · exact Or.inr (Or.inr (Or.inl trimmed))
  all_goals
    rw [idle] at running
    cases running

section
variable {s : RunningSender} {task : FlushTask} {x : Queued}

theorem Tracked.accounted_of_running (inv : s.Tracked) (running : s.task = some task) (member : x ∈ s.queued) :
    x ∈ s.queue ∨ x ∈ s.delivered ∨ x ∈ s.trimmed ∨ task.await ≠ .leaving .returned ∧ x ∈ task.events := by
  rcases inv.accounted x member with waiting | delivered | trimmed | ⟨task', running', rest⟩
  · exact Or.inl waiting
  · exact Or.inr (Or.inl delivered)
  · exact Or.inr (Or.inr (Or.inl trimmed))
  · obtain rfl := Option.some.inj (running.symm.trans running')
    exact Or.inr (Or.inr (Or.inr rest))

theorem Tracked.accounted_put_back (inv : s.Tracked) (running : s.task = some task) (member : x ∈ s.queued) :
    x ∈ s.queue ++ task.events ∨ x ∈ s.delivered ∨ x ∈ s.trimmed := by
  rcases inv.accounted_of_running running member with waiting | delivered | trimmed | ⟨-, held⟩
  · exact Or.inl (List.mem_append_left _ waiting)
  · exact Or.inr (Or.inl delivered)
  · exact Or.inr (Or.inr trimmed)
  · exact Or.inl (List.mem_append_right _ held)

theorem Tracked.queued_of_put_back (inv : s.Tracked) (running : s.task = some task)
    (member : x ∈ s.queue ++ task.events) : x ∈ s.queued := by
  rcases List.mem_append.mp member with waiting | held
  · exact inv.waiting x waiting
  · exact inv.held task running x held

end

theorem resume_tracked {s t : RunningSender} (inv : s.Tracked) {how : Outcome}
    (h : s.step (.resume how) = some t) (keeps : s.KeepsEvents (.resume how)) : t.Tracked := by
  obtain ⟨task, running, resumed⟩ := resume_cases h
  cases resumed with
  | waits await _ _ before unanswered accepted =>
      refine ⟨inv.serials, inv.waiting, fun x member => ?_, fun task' running' => ?_,
        fun task' running' _ => ?_, fun task' running' answered => ?_⟩
      · rcases inv.accounted_of_running running member with waiting | delivered | trimmed | ⟨-, held⟩
        · exact Or.inl waiting
        · exact Or.inr (Or.inl delivered)
        · exact Or.inr (Or.inr (Or.inl trimmed))
        · by_cases leaves : await = .leaving .returned
          · exact Or.inr (Or.inl (inv.answered task running (accepted leaves) x held))
          · exact Or.inr (Or.inr (Or.inr ⟨_, rfl, leaves, held⟩))
      · obtain rfl := Option.some.inj running'
        exact inv.held task running
      · obtain rfl := Option.some.inj running'
        exact inv.apart task running before
      · obtain rfl := Option.some.inj running'
        exact absurd answered (unanswered 202)
  | putsBack =>
      refine ⟨inv.serials, fun _ => inv.queued_of_put_back running, fun x member => ?_, fun task' running' => ?_,
        fun task' running' leaves => ?_, fun task' running' answered => ?_⟩
      · rcases inv.accounted_put_back running member with waiting | delivered | trimmed
        · exact Or.inl waiting
        · exact Or.inr (Or.inl delivered)
        · exact Or.inr (Or.inr (Or.inl trimmed))
      · obtain rfl := Option.some.inj running'
        exact inv.held task running
      · obtain rfl := Option.some.inj running'
        exact absurd rfl leaves
      · obtain rfl := Option.some.inj running'
        cases answered
  | fails =>
      refine tracked_of_idle inv ?_ ?_ (fun _ => inv.queued_of_put_back running) fun x member => ?_
      · rfl
      · rfl
      · exact inv.accounted_put_back running member
  | drops _ all =>
      refine tracked_of_idle inv ?_ ?_ inv.waiting fun x member => ?_
      · rfl
      · rfl
      rcases inv.accounted_of_running running member with waiting | delivered | trimmed | ⟨-, held⟩
      · exact Or.inl waiting
      · exact Or.inr (Or.inl delivered)
      · exact Or.inr (Or.inr trimmed)
      · exact Or.inr (keeps x (by rw [all]; exact held))
  | ends _ _ handled =>
      refine tracked_of_idle inv ?_ ?_ inv.waiting fun x member => ?_
      · rfl
      · rfl
      rcases inv.accounted_of_running running member with waiting | delivered | trimmed | ⟨before, -⟩
      · exact Or.inl waiting
      · exact Or.inr (Or.inl delivered)
      · exact Or.inr (Or.inr trimmed)
      · exact absurd handled before

theorem keepsEvents_of_accounted {s t : RunningSender} (inv : s.Tracked) {how : Outcome}
    (h : s.step (.resume how) = some t) (accounted : t.Accounted) : s.KeepsEvents (.resume how) := by
  obtain ⟨task, running, resumed⟩ := resume_cases h
  cases resumed with
  | waits _ _ nothing | putsBack _ nothing | fails _ nothing | ends _ nothing =>
      rw [KeepsEvents, nothing]
      exact List.forall_mem_nil _
  | drops _ all before =>
      rw [KeepsEvents, all]
      intro x gone
      rcases accounted rfl x (inv.held task running x gone) with waiting | known
      · exact absurd waiting (inv.apart task running before x gone)
      · exact known

theorem conservation_step (s : RunningSender) (a : Act) (t : RunningSender) (inv : s.Tracked)
    (_ : s.Accounted) (h : s.step a = some t) :
    (t.Accounted ↔ s.KeepsEvents a) ∧ (t.Accounted → t.Tracked) := by
  have always (tracked : t.Tracked) (nothing : s.abandoned a = []) :
      (t.Accounted ↔ s.KeepsEvents a) ∧ (t.Accounted → t.Tracked) := by
    refine ⟨⟨fun _ => ?_, fun _ => tracked.toAccounted⟩, fun _ => tracked⟩
    rw [KeepsEvents, nothing]
    exact List.forall_mem_nil _
  cases a with
  | queueEvent c =>
      obtain rfl := Option.some.inj h
      exact always (queueEvent_tracked inv c) rfl
  | flush =>
      obtain ⟨idle, rfl⟩ := flush_cases h
      exact always (beginFlush_tracked inv idle) rfl
  | answer status =>
      obtain ⟨events, running, rfl⟩ := answer_cases h
      exact always (answer_tracked inv running status) rfl
  | resume how =>
      refine ⟨⟨keepsEvents_of_accounted inv h, fun keeps => ?_⟩, fun accounted => ?_⟩
      · exact (resume_tracked inv h keeps).toAccounted
      · exact resume_tracked inv h (keepsEvents_of_accounted inv h accounted)

theorem start_tracked : start.Tracked := by
  refine ⟨List.forall_mem_nil _, List.forall_mem_nil _, List.forall_mem_nil _, ?_, ?_, ?_⟩
  all_goals
    intro task running
    cases running

theorem always_accounted_iff (acts : List Act) (t : RunningSender)
    (taken : run step start acts = some t) :
    Always step Accounted start acts ↔ Along step KeepsEvents start acts :=
  always_iff_along start_tracked start_tracked.toAccounted conservation_step taken

theorem accounted_when_refused : Always step Accounted start
    [.queueEvent heartbeat, .flush, .resume .returned, .answer 500, .resume .returned,
      .resume .cancelled] := by
  refine (always_accounted_iff _ _ rfl).mpr (Along.mono (P := fun s a => s.abandoned a = []) ?_ ?_)
  · intro s a nothing
    rw [KeepsEvents, nothing]
    exact List.forall_mem_nil _
  · decide

theorem lost_when_cancelled : ¬ Always step Accounted start
    [.queueEvent heartbeat, .flush, .resume .returned, .resume .cancelled, .resume .returned] := by
  intro always
  have facts : (run step start [.queueEvent heartbeat, .flush, .resume .returned, .resume .cancelled,
      .resume .returned]).map (fun t => (t.task.isNone, t.queued.length, t.queue.length,
        t.delivered.length, t.trimmed.length)) = some (true, 1, 0, 0, 0) := rfl
  obtain ⟨t, taken, counts⟩ := Option.map_eq_some_iff.mp facts
  simp only [Prod.mk.injEq, List.length_eq_zero_iff] at counts
  obtain ⟨idle, one, queue, delivered, trimmed⟩ := counts
  obtain ⟨x, member⟩ := List.exists_mem_of_length_pos (by rw [one]; exact Nat.one_pos)
  have accounted := always _ [] (List.append_nil _).symm t taken (Option.isNone_iff_eq_none.mp idle) x
    member
  rw [queue, delivered, trimmed] at accounted
  simp at accounted

end RunningSender

end GuardianPi.Agent
