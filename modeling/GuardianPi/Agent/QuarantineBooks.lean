import GuardianPi.Agent.QuarantineSafety
import GuardianPi.Library.History

namespace GuardianPi.Agent.Quarantine
open Library

def Stops (p : Process) (e : Signal × Process) : Prop := e = (.suspend, p)

def Continues (p : Process) (e : Signal × Process) : Prop := e = (.resume, p)

def Held (m : Machine) (p : Process) : Prop := Since (Stops p) (Continues p) m.signals

def Listed (m : Machine) (p : Process) : Prop := Rollback.of p ∈ m.listQuarantined

def Paired (signals : List (Signal × Process)) : Prop :=
  Each (fun past e => e.1 = .resume → Since (Stops e.2) (Continues e.2) past) signals

section
variable (letters : Letters) (m : Machine)

structure Undoes (c : Call) : Prop where
  resumes : Paired (m.next letters c).signals
  unchanged : Fails ((c.run letters).run m) → ∀ p, (m.next letters c).host.Runs p →
    (m.next letters c).host.suspended p = m.host.suspended p
  listed : ∀ p, Held (m.next letters c) p → (m.next letters c).host.Runs p → Listed (m.next letters c) p

/-- The calls that undo exactly what was done, or do nothing. A name that cannot be looked up makes a
call fail whose signal has been delivered. -/
def Exact : Call → Prop
  | .quarantine pid _ t => ∀ p, Suspends letters m pid t p →
      Denied (((m.later t.process).later t.name).later t.suspend) t.record t.log p →
      m.host.suspended p ∧ (t.record.denied → Listed m p)
  | .release pid t => ∀ p, Resumes m pid t p →
      Held m p ∧ ¬ Denied ((m.later t.process).later t.resume) t.log t.name p

structure Sound : Prop where
  past : ∀ e ∈ m.signals, e.2.startedAt < m.host.clock
  paired : Paired m.signals
  stopped : ∀ p, Held m p → m.host.Runs p → m.host.suspended p
  listed : ∀ p, Held m p → m.host.Runs p → Listed m p
  keyed : ∀ pid r, m.quarantined.lookup pid = some r → r.pid = pid

end

section
variable {letters : Letters} {m n : Machine} {p q : Process} {pid : Int} {reason : String} {s : Signal}

theorem sound_start (h : Host) : Sound (.start h) where
  past e here := absurd here List.not_mem_nil
  paired := each_nil
  stopped p held := absurd held not_since_nil
  listed p held := absurd held not_since_nil
  keyed pid r found := by simp [Machine.start] at found

theorem listed_iff (keyed : ∀ pid r, m.quarantined.lookup pid = some r → r.pid = pid) :
    Listed m p ↔ m.quarantined.lookup p.pid = some (.of p) := by
  constructor
  · intro listed
    obtain ⟨⟨pid, r⟩, here, rfl⟩ := List.mem_map.mp listed
    have found : m.quarantined.lookup pid = some (.of p) := AList.mem_lookup_iff.mpr here
    have same : p.pid = pid := keyed pid _ found
    rwa [same]
  · intro found
    exact List.mem_map.mpr ⟨⟨p.pid, .of p⟩, AList.mem_lookup_iff.mp found, rfl⟩

theorem held_old (sound : Sound m) (held : Held m p) : p.startedAt < m.host.clock := by
  obtain ⟨before, e, later, split, rfl, -⟩ := held
  exact sound.past (.suspend, p) (by simp [split])

theorem denied_deliver {s : Signal} {first second : Turn} :
    Denied (m.deliver s p) first second q ↔ Denied m first second q := by
  simp [Denied, Machine.deliver, Machine.later, Host.Runs, Host.after_after]

theorem Quiet.lookup (quiet : Quiet m n) (old : p.startedAt < m.host.clock) (runs : n.host.Runs p) :
    n.quarantined.lookup p.pid = m.quarantined.lookup p.pid := by
  rcases quiet.kept with same | ⟨pid, erased, others⟩
  · rw [same]
  · rw [erased, AList.lookup_erase_ne (others p old runs)]

theorem Quiet.sound (quiet : Quiet m n) (sound : Sound m) : Sound n := by
  obtain ⟨events, host⟩ := quiet.host
  have held {p : Process} : Held n p ↔ Held m p := by rw [Held, quiet.signals, Held]
  have before {p : Process} (held : Held m p) (runs : n.host.Runs p) : m.host.Runs p :=
    Host.runs_of_after (held_old sound held) (host ▸ runs)
  have keyed : ∀ pid r, n.quarantined.lookup pid = some r → r.pid = pid := by
    intro pid r found
    rcases quiet.kept with same | ⟨gone, erased, -⟩
    · exact sound.keyed pid r (same ▸ found)
    · by_cases same : pid = gone
      · subst same
        simp [erased] at found
      · rw [erased, AList.lookup_erase_ne same] at found
        exact sound.keyed pid r found
  refine ⟨?_, quiet.signals ▸ sound.paired, ?_, ?_, keyed⟩
  · intro e here
    rw [quiet.signals] at here
    rw [host]
    exact (sound.past e here).trans_le Host.clock_after
  · intro p now runs
    rw [host, Host.suspended_after]
    exact sound.stopped p (held.mp now) (before (held.mp now) runs)
  · intro p now runs
    rw [listed_iff keyed, quiet.lookup (held_old sound (held.mp now)) runs, ← listed_iff sound.keyed]
    exact sound.listed p (held.mp now) (before (held.mp now) runs)

theorem Quiet.undoes {c : Call} (quiet : Quiet m (m.next letters c)) (sound : Sound m) : Undoes letters m c := by
  obtain ⟨events, host⟩ := quiet.host
  have after := quiet.sound sound
  refine ⟨after.paired, fun _ p _ => ?_, after.listed⟩
  rw [host, Host.suspended_after]

structure Delivered (s : Signal) (p : Process) (m n : Machine) : Prop where
  signals : n.signals = m.signals ++ [(s, p)]
  suspended : n.host.suspended = Function.update m.host.suspended p (s = .suspend)
  started : p.startedAt < n.host.clock
  clock : m.host.clock ≤ n.host.clock
  runs : ∀ q, q.startedAt < m.host.clock → n.host.Runs q → m.host.Runs q
  lookup : ∀ q, q.startedAt < m.host.clock → n.host.Runs q → q ≠ p →
    n.quarantined.lookup q.pid = m.quarantined.lookup q.pid
  keyed : ∀ pid r, n.quarantined.lookup pid = some r → m.quarantined.lookup pid = some r ∨ r.pid = pid

theorem Looked.delivered {base : Machine} {first second : Turn} {events : List HostEvent}
    {ended : EStateM.Result Raised Machine Result} (opening : Turn)
    (looked : Looked (base.deliver s p) first second p ended)
    (host : base.host = (m.later opening).host.after events) (signals : base.signals = m.signals)
    (runs : base.host.Runs p) (opened : (m.later opening).host.Runs p)
    (lookup : ∀ pid, pid ≠ p.pid → (machineOf ended).quarantined.lookup pid = m.quarantined.lookup pid)
    (keyed : ∀ r, (machineOf ended).quarantined.lookup p.pid = some r →
      m.quarantined.lookup p.pid = some r ∨ r.pid = p.pid) :
    Delivered s p m (machineOf ended) := by
  obtain ⟨later, final⟩ := looked.host
  have process : (machineOf ended).host.process = ((m.later opening).host.after (events ++ later)).process := by
    rw [final, ← Host.after_after, ← host]
    exact Host.process_after_signal
  have clock : base.host.clock ≤ (machineOf ended).host.clock := by
    rw [final]
    exact Host.clock_signal.ge.trans Host.clock_after
  have before {q : Process} (old : q.startedAt < m.host.clock) (runs : (machineOf ended).host.Runs q) :
      (m.later opening).host.Runs q := by
    have here : ((m.later opening).host.after (events ++ later)).Runs q := by rwa [Host.Runs, ← process]
    exact Host.runs_of_after (old.trans_le Host.clock_after) here
  refine ⟨looked.signals.trans (congrArg (· ++ [(s, p)]) signals), ?_, (base.host.past _ _ runs).trans_le clock, ?_,
    fun q old runs => runs_of_later old (before old runs), ?_, ?_⟩
  · rw [final, Host.suspended_after, Machine.deliver, Host.suspended_signal runs, host, Host.suspended_after]
    exact congrArg (Function.update · p _) Host.suspended_after
  · refine le_trans ?_ clock
    rw [host]
    exact Host.clock_after.trans Host.clock_after
  · intro q old runs other
    refine lookup q.pid fun same => other ?_
    have here : (m.later opening).host.process q.pid = some q := before old runs
    rw [same] at here
    exact Option.some.inj (here.symm.trans opened)
  · intro pid r found
    by_cases same : pid = p.pid
    · subst same
      exact keyed r found
    · exact .inl (lookup pid same ▸ found)

theorem quarantine_delivered {t : QuarantineTurns} (s : Suspends letters m p.pid t p) :
    Delivered .suspend p m (m.next letters (.quarantine p.pid reason t)) := by
  rw [Machine.next, Call.run]
  have ended := quarantine_stops reason s
  refine ended.looked.delivered t.process (Host.after_after ..) rfl s.runs s.opened ?_ ?_
  · intro pid other
    rcases ended.kept with same | ⟨r, -, same⟩
    · rw [same]
      rfl
    · rw [same, AList.lookup_insert_ne other]
      rfl
  · intro r found
    rcases ended.kept with same | ⟨record, own, same⟩
    · exact .inl (same ▸ found)
    · rw [same, AList.lookup_insert] at found
      exact .inr (Option.some.inj found ▸ own)

theorem release_delivered {t : ReleaseTurns} (s : Resumes m p.pid t p) :
    Delivered .resume p m (m.next letters (.release p.pid t)) := by
  rw [Machine.next, Call.run]
  obtain ⟨looked, erased⟩ := release_resumes s
  refine looked.delivered t.process rfl rfl s.runs s.opened ?_ ?_
  · intro pid other
    rw [erased, AList.lookup_erase_ne other]
  · intro r found
    rw [erased, AList.lookup_erase] at found
    cases found

theorem Delivered.suspended_of_ne (d : Delivered s p m n) (other : q ≠ p) :
    n.host.suspended q = m.host.suspended q := by
  rw [d.suspended, Function.update_of_ne other]

theorem Delivered.held (d : Delivered s p m n) :
    Held n q ↔ (s = .suspend ∧ q = p) ∨ Held m q ∧ ¬ (s = .resume ∧ q = p) := by
  rw [Held, d.signals, since_concat, Held]
  simp [Stops, Continues, eq_comm]

theorem Delivered.keyed_of (d : Delivered s p m n) (sound : Sound m) (pid : Int) (r : Rollback)
    (found : n.quarantined.lookup pid = some r) : r.pid = pid :=
  (d.keyed pid r found).elim (sound.keyed pid r) id

theorem Delivered.listed (d : Delivered s p m n) (sound : Sound m) (held : Held m q) (runs : n.host.Runs q)
    (other : q ≠ p) : Listed n q := by
  have old := held_old sound held
  rw [listed_iff (d.keyed_of sound), d.lookup q old runs other, ← listed_iff sound.keyed]
  exact sound.listed q held (d.runs q old runs)

theorem Delivered.sound (d : Delivered s p m n) (sound : Sound m) (paired : Paired n.signals)
    (listed : ∀ q, Held n q → n.host.Runs q → Listed n q) : Sound n := by
  refine ⟨?_, paired, ?_, listed, d.keyed_of sound⟩
  · intro e here
    rw [d.signals, List.mem_append, List.mem_singleton] at here
    rcases here with before | rfl
    · exact (sound.past e before).trans_le d.clock
    · exact d.started
  · intro q held runs
    rcases d.held.mp held with ⟨rfl, rfl⟩ | ⟨held, kept⟩
    · simp [d.suspended]
    · by_cases same : q = p
      · subst q
        cases s with
        | suspend => simp [d.suspended]
        | resume => exact absurd ⟨rfl, rfl⟩ kept
      · rw [d.suspended_of_ne same]
        exact sound.stopped q held (d.runs q (held_old sound held) runs)

theorem Delivered.undoes_iff {c : Call} (d : Delivered s p m (m.next letters c)) (sound : Sound m) :
    Undoes letters m c ↔ Paired (m.next letters c).signals ∧
      (Fails ((c.run letters).run m) → (m.next letters c).host.Runs p →
        m.host.suspended p = decide (s = .suspend)) ∧
      (s = .suspend → (m.next letters c).host.Runs p → Listed (m.next letters c) p) := by
  constructor
  · intro undoes
    refine ⟨undoes.resumes, ?_, ?_⟩
    · intro fails runs
      rw [← undoes.unchanged fails p runs, d.suspended, Function.update_self]
    · intro suspend runs
      exact undoes.listed p (d.held.mpr (.inl ⟨suspend, rfl⟩)) runs
  · intro ⟨paired, unchanged, listed⟩
    refine ⟨paired, ?_, ?_⟩
    · intro fails q runs
      by_cases same : q = p
      · subst q
        rw [d.suspended, Function.update_self]
        exact (unchanged fails runs).symm
      · exact d.suspended_of_ne same
    · intro q held runs
      by_cases same : q = p
      · subst q
        rcases d.held.mp held with ⟨suspend, -⟩ | ⟨-, kept⟩
        · exact listed suspend runs
        · cases s with
          | suspend => exact listed rfl runs
          | resume => exact absurd ⟨rfl, rfl⟩ kept
      · rcases d.held.mp held with ⟨-, equal⟩ | ⟨before, -⟩
        · exact absurd equal same
        · exact d.listed sound before runs same

theorem undoes_quarantine {t : QuarantineTurns} (sound : Sound m) :
    Undoes letters m (.quarantine pid reason t) ↔ Exact letters m (.quarantine pid reason t) := by
  by_cases stops : ∃ p, Suspends letters m pid t p
  · obtain ⟨p, stops⟩ := stops
    obtain rfl : p.pid = pid := Host.own _ _ _ stops.opened
    have d : Delivered .suspend p m (m.next letters (.quarantine p.pid reason t)) := quarantine_delivered stops
    have ended := quarantine_stops reason stops
    have denied := denied_deliver.symm.trans ended.looked.denied
    have stopped (runs : (m.next letters (.quarantine p.pid reason t)).host.Runs p) :=
      ended.looked.fails runs
    have paired : Paired (m.next letters (.quarantine p.pid reason t)).signals := by
      rw [d.signals]
      exact each_concat.mpr ⟨sound.paired, nofun⟩
    rw [d.undoes_iff sound]
    constructor
    · intro ⟨_, unchanged, listed⟩ q stops' cause
      obtain rfl : p = q := Option.some.inj (stops.opened.symm.trans stops'.opened)
      obtain ⟨runs, cause⟩ := denied.mp cause
      refine ⟨unchanged ((stopped runs).mpr cause) runs, ?_⟩
      intro recordDenied
      have listed := listed rfl runs
      have kept := (ended.recorded runs).trans (if_pos recordDenied)
      rwa [Listed, Machine.listQuarantined, Machine.next, Call.run, kept] at listed
    · intro keeps
      refine ⟨paired, ?_, ?_⟩
      · intro fails runs
        have cause := denied.mpr ⟨runs, (stopped runs).mp fails⟩
        exact (keeps p stops cause).1
      · intro _ runs
        by_cases recordDenied : t.record.denied
        · have kept := (ended.recorded runs).trans (if_pos recordDenied)
          have cause := denied.mpr ⟨runs, .inl recordDenied⟩
          have listed := (keeps p stops cause).2 recordDenied
          rwa [Listed, Machine.listQuarantined, Machine.next, Call.run, kept]
        · have recorded := (ended.recorded runs).trans (if_neg recordDenied)
          rw [listed_iff (d.keyed_of sound), Machine.next, Call.run, recorded, AList.lookup_insert]
  · have none : ∀ p, ¬ Suspends letters m pid t p := not_exists.mp stops
    have quiet : Quiet m (m.next letters (.quarantine pid reason t)) := quarantine_quiet none
    exact iff_of_true (quiet.undoes sound) fun p stops => absurd stops (none p)

theorem undoes_release {t : ReleaseTurns} (sound : Sound m) :
    Undoes letters m (.release pid t) ↔ Exact letters m (.release pid t) := by
  by_cases resumes : ∃ p, Resumes m pid t p
  · obtain ⟨p, resumes⟩ := resumes
    obtain rfl : p.pid = pid := Host.own _ _ _ resumes.opened
    have d : Delivered .resume p m (m.next letters (.release p.pid t)) := release_delivered resumes
    have ended := (release_resumes resumes).1
    have denied := denied_deliver.symm.trans ended.denied
    have fails (runs : (m.next letters (.release p.pid t)).host.Runs p) := ended.fails runs
    have paired : Paired (m.next letters (.release p.pid t)).signals ↔ Held m p := by
      rw [d.signals, Paired, each_concat]
      exact ⟨fun each => each.2 rfl, fun held => ⟨sound.paired, fun _ => held⟩⟩
    rw [d.undoes_iff sound, paired]
    constructor
    · intro ⟨held, unchanged, _⟩ q resumes'
      obtain rfl : p = q := Option.some.inj (resumes.opened.symm.trans resumes'.opened)
      refine ⟨held, fun cause => ?_⟩
      obtain ⟨runs, cause⟩ := denied.mp cause
      have stopped := sound.stopped p held (d.runs p (held_old sound held) runs)
      cases stopped.symm.trans (unchanged ((fails runs).mpr cause) runs)
    · intro keeps
      obtain ⟨held, allowed⟩ := keeps p resumes
      refine ⟨held, ?_, ?_⟩
      · intro failed runs
        exact absurd (denied.mpr ⟨runs, (fails runs).mp failed⟩) allowed
      · intro suspend
        cases suspend
  · have none : ∀ p, ¬ Resumes m pid t p := not_exists.mp resumes
    have quiet : Quiet m (m.next letters (.release pid t)) := release_quiet none
    exact iff_of_true (quiet.undoes sound) fun p resumes => absurd resumes (none p)

theorem Undoes.sound {c : Call} (undoes : Undoes letters m c) (sound : Sound m) : Sound (m.next letters c) := by
  cases c with
  | quarantine pid reason t =>
      by_cases stops : ∃ p, Suspends letters m pid t p
      · obtain ⟨p, stops⟩ := stops
        obtain rfl : p.pid = pid := Host.own _ _ _ stops.opened
        exact (quarantine_delivered stops).sound sound undoes.resumes undoes.listed
      · exact Quiet.sound (quarantine_quiet (not_exists.mp stops)) sound
  | release pid t =>
      by_cases resumes : ∃ p, Resumes m pid t p
      · obtain ⟨p, resumes⟩ := resumes
        obtain rfl : p.pid = pid := Host.own _ _ _ resumes.opened
        exact (release_delivered resumes).sound sound undoes.resumes undoes.listed
      · exact Quiet.sound (release_quiet (not_exists.mp resumes)) sound

end

theorem release_undoes_iff (letters : Letters) (h : Host) (calls : List Call) :
    Along (fun m c => some (m.next letters c)) (Undoes letters) (.start h) calls ↔
      Along (fun m c => some (m.next letters c)) (Exact letters) (.start h) calls := by
  refine along_iff_along (sound_start h) (fun m c sound => ?_) (fun m c n sound undoes taken => ?_) calls
  · cases c with
    | quarantine pid reason t => exact undoes_quarantine sound
    | release pid t => exact undoes_release sound
  · obtain rfl := Option.some.inj taken
    exact undoes.sound sound

theorem foreign_process_released : ¬ ∀ (letters : Letters) (h : Host) (calls : List Call),
    Along (fun m c => some (m.next letters c)) (Undoes letters) (.start h) calls := by
  intro undoes
  let p : Process := ⟨7, 0, "backup"⟩
  have first := (undoes .ascii (.only p true) [.release 7 ⟨.calm, .calm, .calm, .calm⟩]).1
  have signals : ((Machine.start (.only p true)).next .ascii (.release 7 ⟨.calm, .calm, .calm, .calm⟩)).signals =
      [(.resume, p)] := by decide +kernel
  have held := first.resumes [] (.resume, p) [] signals rfl
  exact not_since_nil held

end GuardianPi.Agent.Quarantine
