import GuardianPi.Library.Transition
import GuardianPi.Library.Regex
import Mathlib.Data.List.AList
import Mathlib.Data.List.Infix
import Mathlib.Logic.Function.Basic

namespace GuardianPi.Agent.Quarantine
open Library

/-- A process keeps its name. One that gets the pid of another starts later. -/
structure Process where
  pid : Int
  startedAt : Nat
  name : String
  deriving DecidableEq

structure Host where
  clock : Nat
  process : Int → Option Process
  suspended : Process → Bool
  own : ∀ pid p, process pid = some p → p.pid = pid
  past : ∀ pid p, process pid = some p → p.startedAt < clock
  fresh : ∀ p, clock ≤ p.startedAt → suspended p = false

inductive HostEvent where
  | exits (pid : Int)
  | starts (pid : Int) (name : String)

inductive Signal where
  | suspend
  | resume
  deriving DecidableEq

namespace Host
variable (h : Host)

def Runs (p : Process) : Prop := h.process p.pid = some p

instance (p : Process) : Decidable (h.Runs p) := inferInstanceAs (Decidable (_ = _))

theorem own_exits (pid q : Int) (p : Process) (found : Function.update h.process pid none q = some p) :
    p.pid = q := by
  by_cases same : q = pid
  · simp [same] at found
  · exact h.own q p (by simpa [same] using found)

theorem past_exits (pid q : Int) (p : Process) (found : Function.update h.process pid none q = some p) :
    p.startedAt < h.clock := by
  by_cases same : q = pid
  · simp [same] at found
  · exact h.past q p (by simpa [same] using found)

theorem own_starts (pid : Int) (name : String) (q : Int) (p : Process)
    (found : Function.update h.process pid (some ⟨pid, h.clock, name⟩) q = some p) : p.pid = q := by
  by_cases same : q = pid
  · subst q
    obtain rfl : ⟨pid, h.clock, name⟩ = p := by simpa using found
    rfl
  · exact h.own q p (by simpa [same] using found)

theorem past_starts (pid : Int) (name : String) (q : Int) (p : Process)
    (found : Function.update h.process pid (some ⟨pid, h.clock, name⟩) q = some p) :
    p.startedAt < h.clock + 1 := by
  by_cases same : q = pid
  · subst q
    obtain rfl : ⟨pid, h.clock, name⟩ = p := by simpa using found
    exact Nat.lt_succ_self _
  · exact Nat.lt_succ_of_lt (h.past q p (by simpa [same] using found))

theorem fresh_starts (p : Process) (later : h.clock + 1 ≤ p.startedAt) : h.suspended p = false :=
  h.fresh p (Nat.le_of_succ_le later)

theorem fresh_signal {p : Process} (runs : h.Runs p) (stops : Bool) (q : Process) (later : h.clock ≤ q.startedAt) :
    Function.update h.suspended p stops q = false := by
  have other : q ≠ p := by
    rintro rfl
    exact absurd (h.past _ _ runs) (by omega)
  rw [Function.update_of_ne other]
  exact h.fresh q later

def event : HostEvent → Host
  | .exits pid => { h with
      process := Function.update h.process pid none
      own := h.own_exits pid
      past := h.past_exits pid }
  | .starts pid name =>
      if (h.process pid).isSome then h else { h with
        clock := h.clock + 1
        process := Function.update h.process pid (some ⟨pid, h.clock, name⟩)
        own := h.own_starts pid name
        past := h.past_starts pid name
        fresh := h.fresh_starts }

def after (events : List HostEvent) : Host := events.foldl event h

def signal (s : Signal) (p : Process) : Host :=
  if runs : h.Runs p then { h with
    suspended := Function.update h.suspended p (s = .suspend)
    fresh := h.fresh_signal runs (s = .suspend) }
  else h

end Host

/-! ## `QuarantineManager` -/

structure Rollback where
  pid : Int
  name : String
  status : String
  deriving DecidableEq

inductive Result where
  | quarantined (rollback : Rollback) (reason : String)
  | released (pid : Int) (name : String)
  | failure (error : String)
  deriving DecidableEq

inductive Raised where
  | valueError
  | noSuchProcess
  | accessDenied

/-- `signals` are all that were delivered. -/
structure Machine where
  host : Host
  quarantined : AList fun _ : Int => Rollback
  signals : List (Signal × Process)

/-- What happens on the host before a call to `psutil`, and whether access is denied. -/
structure Turn where
  before : List HostEvent
  denied : Bool

abbrev Psutil := EStateM Raised Machine

def Machine.later (m : Machine) (t : Turn) : Machine := { m with host := m.host.after t.before }

def Machine.remember (m : Machine) (pid : Int) (r : Rollback) : Machine :=
  { m with quarantined := m.quarantined.insert pid r }

def Machine.forget (m : Machine) (pid : Int) : Machine := { m with quarantined := m.quarantined.erase pid }

def Machine.deliver (m : Machine) (s : Signal) (p : Process) : Machine :=
  { m with host := m.host.signal s p, signals := m.signals ++ [(s, p)] }

def Turn.arrive (t : Turn) : Psutil Host := do
  modify fun m => m.later t
  if t.denied then throw .accessDenied else return (← get).host

def psutilProcess (pid : Int) (t : Turn) : Psutil Process := do
  if pid < 0 then throw .valueError
  else match (← t.arrive).process pid with
    | some p => return p
    | none => throw .noSuchProcess

def Process.readName (p : Process) (t : Turn) : Psutil String := do
  match (← t.arrive).process p.pid with
  | some q => return q.name
  | none => throw .noSuchProcess

/-- A signal never goes to another process that has got the pid. -/
def Process.signal (p : Process) (s : Signal) (t : Turn) : Psutil Unit := do
  if (← t.arrive).Runs p then
    modify fun m => m.deliver s p
  else throw .noSuchProcess

def protectedProcesses : List String := [
  "init", "systemd", "kernel", "launchd", "services.exe", "csrss.exe",
  "wininit.exe", "smss.exe", "lsass.exe", "svchost.exe", "explorer.exe",
  "winlogon.exe", "dwm.exe", "system", "system idle process"]

structure QuarantineTurns where
  process : Turn
  name : Turn
  suspend : Turn
  record : Turn
  log : Turn

structure ReleaseTurns where
  process : Turn
  resume : Turn
  log : Turn
  name : Turn

section
variable (letters : Letters)

def quarantineProcess (pid : Int) (reason : String) (t : QuarantineTurns) : Psutil Result :=
  tryCatch (do
    let proc ← psutilProcess pid t.process
    let name := letters.lower (← proc.readName t.name)
    if name ∈ protectedProcesses then
      return .failure s!"Protected process: {name}"
    if "guardian".toList <:+: name.toList then
      return .failure "Cannot quarantine self"
    proc.signal .suspend t.suspend
    let rollback : Rollback := ⟨pid, ← proc.readName t.record, "suspended"⟩
    modify fun m => m.remember pid rollback
    let _ ← proc.readName t.log
    return .quarantined rollback reason) fun
  | .noSuchProcess => return .failure "Process not found"
  | .accessDenied => return .failure "Access denied"
  | .valueError => throw .valueError

def releaseProcess (pid : Int) (t : ReleaseTurns) : Psutil Result :=
  tryCatch (do
    let proc ← psutilProcess pid t.process
    proc.signal .resume t.resume
    modify fun m => m.forget pid
    let _ ← proc.readName t.log
    return .released pid (← proc.readName t.name)) fun
  | .noSuchProcess => do
      modify fun m => m.forget pid
      return .failure "Process no longer exists"
  | .accessDenied => return .failure "Access denied"
  | .valueError => throw .valueError

def Machine.listQuarantined (m : Machine) : List Rollback := m.quarantined.entries.map Sigma.snd

inductive Call where
  | quarantine (pid : Int) (reason : String) (t : QuarantineTurns)
  | release (pid : Int) (t : ReleaseTurns)

def Call.run : Call → Psutil Result
  | quarantine pid reason t => quarantineProcess letters pid reason t
  | release pid t => releaseProcess pid t

def Machine.start (h : Host) : Machine := ⟨h, ∅, []⟩

end

/-! ## The host as time passes -/

namespace Host
variable {h k : Host} {p : Process} {s : Signal} {events : List HostEvent}

theorem suspended_event (e : HostEvent) : (h.event e).suspended = h.suspended := by
  cases e with
  | exits => rfl
  | starts =>
      simp only [event]
      split_ifs <;> rfl

@[simp] theorem suspended_after : (h.after events).suspended = h.suspended := by
  induction events generalizing h with
  | nil => rfl
  | cons e events ih => exact ih.trans (suspended_event e)

theorem clock_event (e : HostEvent) : h.clock ≤ (h.event e).clock := by
  cases e with
  | exits => exact le_rfl
  | starts =>
      simp only [event]
      split_ifs
      · exact le_rfl
      · exact Nat.le_succ _

theorem clock_after : h.clock ≤ (h.after events).clock := by
  induction events generalizing h with
  | nil => exact le_rfl
  | cons e events ih => exact (clock_event e).trans ih

theorem runs_of_event {e : HostEvent} (old : p.startedAt < h.clock) (runs : (h.event e).Runs p) :
    h.Runs p := by
  cases e with
  | exits pid =>
      by_cases same : p.pid = pid
      · simp [Runs, event, same] at runs
      · simpa [Runs, event, same] using runs
  | starts pid name =>
      simp only [event] at runs
      split_ifs at runs with taken
      · exact runs
      · by_cases same : p.pid = pid
        · obtain rfl : ⟨pid, h.clock, name⟩ = p := by simpa [Runs, same] using runs
          exact absurd old (lt_irrefl _)
        · simpa [Runs, same] using runs

theorem runs_of_after (old : p.startedAt < h.clock) (runs : (h.after events).Runs p) : h.Runs p := by
  induction events generalizing h with
  | nil => exact runs
  | cons e events ih => exact runs_of_event old (ih (old.trans_le (clock_event e)) runs)

@[simp] theorem process_signal : (h.signal s p).process = h.process := by
  unfold signal
  split_ifs <;> rfl

@[simp] theorem clock_signal : (h.signal s p).clock = h.clock := by
  unfold signal
  split_ifs <;> rfl

theorem suspended_signal (runs : h.Runs p) :
    (h.signal s p).suspended = Function.update h.suspended p (s = .suspend) := by
  rw [signal, dif_pos runs]

theorem process_after_congr (same : h.process = k.process) (clock : h.clock = k.clock) :
    (h.after events).process = (k.after events).process := by
  induction events generalizing h k with
  | nil => exact same
  | cons e events ih =>
      apply ih
      · cases e <;> simp only [event, same, clock]
        split_ifs <;> simp [same]
      · cases e <;> simp only [event, same, clock]
        split_ifs <;> simp [clock]

@[simp] theorem process_after_signal : ((h.signal s p).after events).process = (h.after events).process :=
  process_after_congr process_signal clock_signal

end Host

/-! ## Calls to `psutil` -/

section
variable {m : Machine} {t : Turn} {p q : Process} {pid : Int} {s : Signal}

theorem tryCatch_run {α : Type} (x : Psutil α) (handle : Raised → Psutil α) :
    (tryCatch x handle).run m = match x.run m with
      | .ok a m => .ok a m
      | .error e m => (handle e).run m := by
  change EStateM.tryCatch x handle m = _
  unfold EStateM.tryCatch EStateM.run
  cases x m <;> rfl

theorem throw_run {α : Type} (e : Raised) : (throw e : Psutil α).run m = .error e m := rfl

theorem arrive_denied (denied : t.denied) : t.arrive.run m = .error .accessDenied (m.later t) := by
  simp [Turn.arrive, denied, throw_run]

theorem arrive_allowed (allowed : ¬ t.denied) : t.arrive.run m = .ok (m.later t).host (m.later t) := by
  simp only [Turn.arrive, if_neg allowed, EStateM.run_bind, EStateM.run_modify, EStateM.run_get, EStateM.run_pure]

theorem process_negative (negative : pid < 0) : (psutilProcess pid t).run m = .error .valueError m := by
  simp [psutilProcess, negative, throw_run]

theorem process_denied (natural : ¬ pid < 0) (denied : t.denied) :
    (psutilProcess pid t).run m = .error .accessDenied (m.later t) := by
  simp [psutilProcess, natural, arrive_denied denied]

theorem process_opened (natural : ¬ pid < 0) (allowed : ¬ t.denied)
    (found : (m.later t).host.process pid = some p) : (psutilProcess pid t).run m = .ok p (m.later t) := by
  simp [psutilProcess, natural, arrive_allowed allowed, found]

theorem process_gone (natural : ¬ pid < 0) (allowed : ¬ t.denied)
    (gone : (m.later t).host.process pid = none) :
    (psutilProcess pid t).run m = .error .noSuchProcess (m.later t) := by
  simp [psutilProcess, natural, arrive_allowed allowed, gone, throw_run]

theorem readName_denied (denied : t.denied) :
    (p.readName t).run m = .error .accessDenied (m.later t) := by
  simp [Process.readName, arrive_denied denied]

theorem readName_found (allowed : ¬ t.denied) (found : (m.later t).host.process p.pid = some q) :
    (p.readName t).run m = .ok q.name (m.later t) := by
  simp [Process.readName, arrive_allowed allowed, found]

theorem readName_gone (allowed : ¬ t.denied) (gone : (m.later t).host.process p.pid = none) :
    (p.readName t).run m = .error .noSuchProcess (m.later t) := by
  simp [Process.readName, arrive_allowed allowed, gone, throw_run]

theorem signal_denied (denied : t.denied) :
    (p.signal s t).run m = .error .accessDenied (m.later t) := by
  simp [Process.signal, arrive_denied denied]

theorem signal_delivered (allowed : ¬ t.denied) (runs : (m.later t).host.Runs p) :
    (p.signal s t).run m = .ok () ((m.later t).deliver s p) := by
  simp [Process.signal, arrive_allowed allowed, runs]

theorem signal_gone (allowed : ¬ t.denied) (gone : ¬ (m.later t).host.Runs p) :
    (p.signal s t).run m = .error .noSuchProcess (m.later t) := by
  simp [Process.signal, arrive_allowed allowed, gone]

end

/-! ## One call -/

def machineOf : EStateM.Result Raised Machine Result → Machine
  | .ok _ m | .error _ m => m

def Guarded (letters : Letters) (name : String) : Prop :=
  letters.lower name ∈ protectedProcesses ∨ "guardian".toList <:+: (letters.lower name).toList

structure Reaches (m : Machine) (pid : Int) (t : QuarantineTurns) (p : Process) : Prop where
  natural : ¬ pid < 0
  opened : (m.later t.process).host.process pid = some p
  runs : (((m.later t.process).later t.name).later t.suspend).host.Runs p
  processAllowed : ¬ t.process.denied
  nameAllowed : ¬ t.name.denied
  suspendAllowed : ¬ t.suspend.denied

structure Suspends (letters : Letters) (m : Machine) (pid : Int) (t : QuarantineTurns) (p : Process) : Prop
    extends Reaches m pid t p where
  plain : ¬ Guarded letters p.name

structure Resumes (m : Machine) (pid : Int) (t : ReleaseTurns) (p : Process) : Prop where
  natural : ¬ pid < 0
  opened : (m.later t.process).host.process pid = some p
  runs : ((m.later t.process).later t.resume).host.Runs p
  processAllowed : ¬ t.process.denied
  resumeAllowed : ¬ t.resume.denied

structure Quiet (m n : Machine) : Prop where
  host : ∃ events, n.host = m.host.after events
  signals : n.signals = m.signals
  kept : n.quarantined = m.quarantined ∨ ∃ pid, n.quarantined = m.quarantined.erase pid ∧
    ∀ p, p.startedAt < m.host.clock → n.host.Runs p → p.pid ≠ pid

section
variable {letters : Letters} {m : Machine} {p : Process} {pid : Int} {reason : String}

theorem Host.after_after (h : Host) (events later : List HostEvent) :
    (h.after events).after later = h.after (events ++ later) := by
  simp [Host.after]

theorem runs_of_later {t : Turn} (old : p.startedAt < m.host.clock) (runs : (m.later t).host.Runs p) :
    m.host.Runs p := Host.runs_of_after old runs

theorem name_of_runs {t u : Turn} {q : Process} (opened : m.host.process p.pid = some p)
    (runs : ((m.later t).later u).host.Runs p) (found : (m.later t).host.process p.pid = some q) : q = p := by
  have old : p.startedAt < (m.later t).host.clock := (m.host.past _ _ opened).trans_le Host.clock_after
  have here : (m.later t).host.Runs p := runs_of_later old runs
  exact Option.some.inj (found.symm.trans here)

theorem quarantine_quiet {t : QuarantineTurns} (none : ∀ p, ¬ Suspends letters m pid t p) :
    Quiet m (machineOf ((quarantineProcess letters pid reason t).run m)) := by
  simp only [quarantineProcess, tryCatch_run, EStateM.run_bind]
  by_cases natural : pid < 0
  · simp only [process_negative natural]
    exact ⟨⟨[], rfl⟩, rfl, .inl rfl⟩
  by_cases processDenied : t.process.denied
  · simp only [process_denied natural processDenied]
    exact ⟨⟨_, rfl⟩, rfl, .inl rfl⟩
  rcases opened : (m.later t.process).host.process pid with _ | p
  · simp only [process_gone natural processDenied opened]
    exact ⟨⟨_, rfl⟩, rfl, .inl rfl⟩
  simp only [process_opened natural processDenied opened]
  have same : p.pid = pid := Host.own _ _ _ opened
  by_cases nameDenied : t.name.denied
  · simp only [readName_denied nameDenied]
    exact ⟨⟨_, Host.after_after ..⟩, rfl, .inl rfl⟩
  rcases named : ((m.later t.process).later t.name).host.process p.pid with _ | q
  · simp only [readName_gone nameDenied named]
    exact ⟨⟨_, Host.after_after ..⟩, rfl, .inl rfl⟩
  simp only [readName_found nameDenied named]
  split_ifs with isProtected isGuardian
  · exact ⟨⟨_, Host.after_after ..⟩, rfl, .inl rfl⟩
  · exact ⟨⟨_, Host.after_after ..⟩, rfl, .inl rfl⟩
  simp only [EStateM.run_bind]
  by_cases suspendDenied : t.suspend.denied
  · simp only [signal_denied suspendDenied]
    exact ⟨⟨_, (Host.after_after ..).trans (Host.after_after ..)⟩, rfl, .inl rfl⟩
  have gone : ¬ (((m.later t.process).later t.name).later t.suspend).host.Runs p := by
    intro runs
    obtain rfl : q = p := name_of_runs (by rwa [same]) runs named
    exact none q ⟨⟨natural, opened, runs, processDenied, nameDenied, suspendDenied⟩,
      not_or.mpr ⟨isProtected, isGuardian⟩⟩
  simp only [signal_gone suspendDenied gone]
  exact ⟨⟨_, (Host.after_after ..).trans (Host.after_after ..)⟩, rfl, .inl rfl⟩

def Fails : EStateM.Result Raised Machine Result → Prop
  | .ok (.failure _) _ => True
  | _ => False

def Denied (m : Machine) (first second : Turn) (p : Process) : Prop :=
  (m.later first).host.Runs p ∧
    (first.denied ∨ ((m.later first).later second).host.Runs p ∧ second.denied)

structure Looked (m : Machine) (first second : Turn) (p : Process)
    (ended : EStateM.Result Raised Machine Result) : Prop where
  host : ∃ events, (machineOf ended).host = m.host.after events
  signals : (machineOf ended).signals = m.signals
  fails : (machineOf ended).host.Runs p → (Fails ended ↔ first.denied ∨ second.denied)
  denied : Denied m first second p ↔ (machineOf ended).host.Runs p ∧ (first.denied ∨ second.denied)

section
variable {first second : Turn} {ended : EStateM.Result Raised Machine Result}

theorem looked_first (host : (machineOf ended).host = (m.later first).host)
    (signals : (machineOf ended).signals = m.signals) (fails : Fails ended)
    (cause : first.denied ∨ (m.later first).host.process p.pid = none) : Looked m first second p ended := by
  have stays (runs : (m.later first).host.Runs p) : first.denied := by
    refine cause.resolve_right fun gone => ?_
    cases gone.symm.trans runs
  refine ⟨⟨_, host⟩, signals, fun runs => iff_of_true fails (.inl (stays (host ▸ runs))), ?_⟩
  rw [host]
  constructor
  · intro ⟨runs, _⟩
    exact ⟨runs, .inl (stays runs)⟩
  · intro ⟨runs, _⟩
    exact ⟨runs, .inl (stays runs)⟩

theorem looked_second (old : p.startedAt < m.host.clock) (allowed : ¬ first.denied)
    (host : (machineOf ended).host = ((m.later first).later second).host)
    (signals : (machineOf ended).signals = m.signals)
    (fails : (machineOf ended).host.Runs p → (Fails ended ↔ second.denied)) :
    Looked m first second p ended := by
  refine ⟨⟨_, host.trans (Host.after_after ..)⟩, signals, ?_, ?_⟩
  · simpa only [or_iff_right allowed] using fails
  · rw [host, Denied, or_iff_right allowed, or_iff_right allowed]
    refine ⟨fun denied => denied.2, fun denied => ⟨?_, denied⟩⟩
    exact runs_of_later (old.trans_le Host.clock_after) denied.1

end

def Rollback.of (p : Process) : Rollback := ⟨p.pid, p.name, "suspended"⟩

structure Recorded (m : Machine) (t : QuarantineTurns) (p : Process)
    (ended : EStateM.Result Raised Machine Result) : Prop where
  looked : Looked m t.record t.log p ended
  recorded : (machineOf ended).host.Runs p → (machineOf ended).quarantined =
    if t.record.denied then m.quarantined else m.quarantined.insert p.pid (.of p)
  kept : (machineOf ended).quarantined = m.quarantined ∨
    ∃ r, r.pid = p.pid ∧ (machineOf ended).quarantined = m.quarantined.insert p.pid r

theorem quarantine_stops (reason : String) {t : QuarantineTurns} (s : Suspends letters m pid t p) :
    Recorded ((((m.later t.process).later t.name).later t.suspend).deliver .suspend p) t p
      ((quarantineProcess letters pid reason t).run m) := by
  obtain rfl : p.pid = pid := Host.own _ _ _ s.opened
  have old : p.startedAt < (m.later t.process).host.clock := Host.past _ _ _ s.opened
  have named : ((m.later t.process).later t.name).host.process p.pid = some p :=
    runs_of_later (old.trans_le Host.clock_after) s.runs
  obtain ⟨isProtected, isGuardian⟩ := not_or.mp s.plain
  simp only [quarantineProcess, tryCatch_run, EStateM.run_bind, process_opened s.natural s.processAllowed s.opened,
    readName_found s.nameAllowed named, if_neg isProtected, if_neg isGuardian,
    signal_delivered s.suspendAllowed s.runs, EStateM.run_modify]
  have old : p.startedAt < ((((m.later t.process).later t.name).later t.suspend).deliver .suspend p).host.clock :=
    (old.trans_le Host.clock_after).trans_le (Host.clock_after.trans Host.clock_signal.ge)
  generalize (((m.later t.process).later t.name).later t.suspend).deliver .suspend p = m' at old ⊢
  by_cases recordDenied : t.record.denied
  · simp only [readName_denied recordDenied]
    exact ⟨looked_first rfl rfl trivial (.inl recordDenied), fun _ => (if_pos recordDenied).symm, .inl rfl⟩
  rcases found : (m'.later t.record).host.process p.pid with _ | q
  · simp only [readName_gone recordDenied found]
    refine ⟨looked_first rfl rfl trivial (.inr found), fun runs => ?_, .inl rfl⟩
    cases found.symm.trans runs
  simp only [readName_found recordDenied found]
  have recorded (runs : ((m'.later t.record).later t.log).host.Runs p) :
      m'.quarantined.insert p.pid ⟨p.pid, q.name, "suspended"⟩ = m'.quarantined.insert p.pid (.of p) := by
    obtain rfl := Option.some.inj (found.symm.trans (runs_of_later (old.trans_le Host.clock_after) runs))
    rfl
  by_cases logDenied : t.log.denied
  · simp only [readName_denied logDenied]
    refine ⟨looked_second old recordDenied rfl rfl fun _ => iff_of_true trivial logDenied, fun runs => ?_,
      .inr ⟨_, rfl, rfl⟩⟩
    exact (recorded runs).trans (if_neg recordDenied).symm
  rcases logged : (((m'.later t.record).remember p.pid ⟨p.pid, q.name, "suspended"⟩).later t.log).host.process p.pid
    with _ | r
  · simp only [readName_gone logDenied logged]
    refine ⟨looked_second old recordDenied rfl rfl fun runs => ?_, fun runs => ?_, .inr ⟨_, rfl, rfl⟩⟩
    · cases logged.symm.trans runs
    · cases logged.symm.trans runs
  simp only [readName_found logDenied logged]
  refine ⟨looked_second old recordDenied rfl rfl fun _ => iff_of_false id logDenied, fun runs => ?_,
    .inr ⟨_, rfl, rfl⟩⟩
  exact (recorded runs).trans (if_neg recordDenied).symm

theorem release_quiet {t : ReleaseTurns} (none : ∀ p, ¬ Resumes m pid t p) :
    Quiet m (machineOf ((releaseProcess pid t).run m)) := by
  simp only [releaseProcess, tryCatch_run, EStateM.run_bind]
  by_cases natural : pid < 0
  · simp only [process_negative natural]
    exact ⟨⟨[], rfl⟩, rfl, .inl rfl⟩
  by_cases processDenied : t.process.denied
  · simp only [process_denied natural processDenied]
    exact ⟨⟨_, rfl⟩, rfl, .inl rfl⟩
  rcases opened : (m.later t.process).host.process pid with _ | p
  · simp only [process_gone natural processDenied opened]
    refine ⟨⟨_, rfl⟩, rfl, .inr ⟨pid, rfl, fun p _ runs same => ?_⟩⟩
    subst same
    cases opened.symm.trans runs
  simp only [process_opened natural processDenied opened]
  by_cases resumeDenied : t.resume.denied
  · simp only [signal_denied resumeDenied]
    exact ⟨⟨_, Host.after_after ..⟩, rfl, .inl rfl⟩
  have gone : ¬ ((m.later t.process).later t.resume).host.Runs p :=
    fun runs => none p ⟨natural, opened, runs, processDenied, resumeDenied⟩
  simp only [signal_gone resumeDenied gone]
  refine ⟨⟨_, Host.after_after ..⟩, rfl, .inr ⟨pid, rfl, fun q old runs same => gone ?_⟩⟩
  have here : (m.later t.process).host.Runs q := runs_of_later (old.trans_le Host.clock_after) runs
  obtain rfl : p = q := Option.some.inj (opened.symm.trans (same ▸ here))
  exact runs

theorem lookup_erase_erase (quarantined : AList fun _ : Int => Rollback) (q : Int) :
    ((quarantined.erase pid).erase pid).lookup q = (quarantined.erase pid).lookup q := by
  by_cases same : q = pid
  · rw [same, AList.lookup_erase, AList.lookup_erase]
  · rw [AList.lookup_erase_ne same]

theorem release_resumes {t : ReleaseTurns} (s : Resumes m pid t p) :
    Looked (((m.later t.process).later t.resume).deliver .resume p) t.log t.name p ((releaseProcess pid t).run m) ∧
      ∀ q, (machineOf ((releaseProcess pid t).run m)).quarantined.lookup q =
        (m.quarantined.erase p.pid).lookup q := by
  obtain rfl : p.pid = pid := Host.own _ _ _ s.opened
  have old : p.startedAt < (((m.later t.process).later t.resume).deliver .resume p).host.clock :=
    (Host.past _ _ _ s.opened).trans_le (Host.clock_after.trans Host.clock_signal.ge)
  simp only [releaseProcess, tryCatch_run, EStateM.run_bind, process_opened s.natural s.processAllowed s.opened,
    signal_delivered s.resumeAllowed s.runs, EStateM.run_modify]
  have erased : (((m.later t.process).later t.resume).deliver .resume p).quarantined = m.quarantined := rfl
  rw [← erased]
  generalize ((m.later t.process).later t.resume).deliver .resume p = m' at old ⊢
  by_cases logDenied : t.log.denied
  · simp only [readName_denied logDenied]
    exact ⟨looked_first rfl rfl trivial (.inl logDenied), fun _ => rfl⟩
  rcases logged : ((m'.forget p.pid).later t.log).host.process p.pid with _ | q
  · simp only [readName_gone logDenied logged]
    exact ⟨looked_first rfl rfl trivial (.inr logged), lookup_erase_erase _⟩
  simp only [readName_found logDenied logged]
  by_cases nameDenied : t.name.denied
  · simp only [readName_denied nameDenied]
    exact ⟨looked_second old logDenied rfl rfl fun _ => iff_of_true trivial nameDenied, fun _ => rfl⟩
  rcases named : (((m'.forget p.pid).later t.log).later t.name).host.process p.pid with _ | r
  · simp only [readName_gone nameDenied named]
    refine ⟨looked_second old logDenied rfl rfl fun runs => ?_, lookup_erase_erase _⟩
    cases named.symm.trans runs
  simp only [readName_found nameDenied named]
  exact ⟨looked_second old logDenied rfl rfl fun _ => iff_of_false id nameDenied, fun _ => rfl⟩

end

end GuardianPi.Agent.Quarantine
