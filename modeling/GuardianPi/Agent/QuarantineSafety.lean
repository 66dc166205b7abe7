import GuardianPi.Agent.Quarantine

namespace GuardianPi.Agent.Quarantine
open Library

section
variable (letters : Letters) (agent : Process)

def Machine.next (m : Machine) (c : Call) : Machine := machineOf ((c.run letters).run m)

def Safe (m : Machine) : Prop :=
  ∀ p, (.suspend, p) ∈ m.signals → letters.lower p.name ∉ protectedProcesses ∧ p ≠ agent

/-- A call that gets through to the agent finds a name that is left alone. -/
def Spares (m : Machine) : Call → Prop
  | .quarantine pid _ t => Reaches m pid t agent → Guarded letters agent.name
  | .release _ _ => True

variable {letters agent} {m : Machine}

theorem Quiet.safe_iff {n : Machine} (quiet : Quiet m n) : Safe letters agent n ↔ Safe letters agent m := by
  rw [Safe, quiet.signals]
  rfl

theorem safe_quarantine {pid : Int} {reason : String} {t : QuarantineTurns} (safe : Safe letters agent m) :
    Safe letters agent (m.next letters (.quarantine pid reason t)) ↔
      Spares letters agent m (.quarantine pid reason t) := by
  by_cases stops : ∃ p, Suspends letters m pid t p
  · obtain ⟨p, stops⟩ := stops
    have signals : (m.next letters (.quarantine pid reason t)).signals = m.signals ++ [(.suspend, p)] :=
      (quarantine_stops reason stops).looked.signals
    have plain : letters.lower p.name ∉ protectedProcesses := fun listed => stops.plain (.inl listed)
    constructor
    · intro next reaches
      obtain rfl : p = agent := Option.some.inj (stops.opened.symm.trans reaches.opened)
      exact absurd rfl (next p (by simp [signals])).2
    · intro spares q stopped
      rw [signals, List.mem_append] at stopped
      rcases stopped with before | now
      · exact safe q before
      · obtain rfl : q = p := by simpa using now
        refine ⟨plain, ?_⟩
        rintro rfl
        exact stops.plain (spares stops.toReaches)
  · have none : ∀ p, ¬ Suspends letters m pid t p := not_exists.mp stops
    have quiet : Quiet m (m.next letters (.quarantine pid reason t)) := quarantine_quiet none
    refine iff_of_true (quiet.safe_iff.mpr safe) fun reaches => ?_
    by_contra plain
    exact none agent ⟨reaches, plain⟩

theorem safe_release {pid : Int} {t : ReleaseTurns} (safe : Safe letters agent m) :
    Safe letters agent (m.next letters (.release pid t)) := by
  by_cases resumes : ∃ p, Resumes m pid t p
  · obtain ⟨p, resumes⟩ := resumes
    have signals : (m.next letters (.release pid t)).signals = m.signals ++ [(.resume, p)] :=
      (release_resumes resumes).1.signals
    intro q stopped
    rw [signals, List.mem_append] at stopped
    rcases stopped with before | now
    · exact safe q before
    · simp at now
  · have quiet : Quiet m (m.next letters (.release pid t)) := release_quiet (not_exists.mp resumes)
    exact quiet.safe_iff.mpr safe

theorem quarantine_safe_iff (letters : Letters) (agent : Process) (h : Host) (calls : List Call) :
    Always (fun m c => some (m.next letters c)) (Safe letters agent) (.start h) calls ↔
      Along (fun m c => some (m.next letters c)) (Spares letters agent) (.start h) calls := by
  have start : Safe letters agent (.start h) := fun p stopped => absurd stopped List.not_mem_nil
  refine always_total_iff_along (I := fun _ => True) trivial start (fun m c _ safe => ⟨?_, fun _ => trivial⟩) calls
  cases c with
  | quarantine pid reason t => exact safe_quarantine safe
  | release pid t => exact iff_of_true (safe_release safe) trivial

end

section
variable (p : Process)

theorem only_own (pid : Int) (q : Process) (found : (if pid = p.pid then some p else none) = some q) :
    q.pid = pid := by
  split_ifs at found with same
  obtain rfl := Option.some.inj found
  exact same.symm

theorem only_past (pid : Int) (q : Process) (found : (if pid = p.pid then some p else none) = some q) :
    q.startedAt < p.startedAt + 1 := by
  split_ifs at found with same
  obtain rfl := Option.some.inj found
  exact Nat.lt_succ_self _

theorem only_fresh (stopped : Bool) (q : Process) (later : p.startedAt + 1 ≤ q.startedAt) :
    (stopped && q = p) = false := by
  have other : q ≠ p := by
    rintro rfl
    exact absurd later (Nat.not_succ_le_self _)
  simp [other]

def Host.only (stopped : Bool) : Host where
  clock := p.startedAt + 1
  process pid := if pid = p.pid then some p else none
  suspended q := stopped && q = p
  own := only_own p
  past := only_past p
  fresh := only_fresh p stopped

end

def Turn.calm : Turn := ⟨[], false⟩

theorem python_agent_not_safe : ¬ ∀ (letters : Letters) (agent : Process) (h : Host) (calls : List Call),
    h.Runs agent → Always (fun m c => some (m.next letters c)) (Safe letters agent) (.start h) calls := by
  intro safe
  let agent : Process := ⟨4242, 0, "python3"⟩
  let calls : List Call := [.quarantine 4242 "" ⟨.calm, .calm, .calm, .calm, .calm⟩]
  have final := safe .ascii agent (.only agent false) calls (by decide) calls [] (List.append_nil _).symm _
    (run_total _ _)
  have stopped : (Signal.suspend, agent) ∈
      (calls.foldl (Machine.next .ascii) (.start (.only agent false))).signals := by decide +kernel
  exact (final agent stopped).2 rfl

end GuardianPi.Agent.Quarantine
