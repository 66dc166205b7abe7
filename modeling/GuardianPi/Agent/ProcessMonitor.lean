import GuardianPi.Agent.UsbMonitor
import GuardianPi.Library.FirstSeen

namespace GuardianPi.Agent.ProcessMonitor
open GuardianPi.Library
open GuardianPi.Agent.UsbMonitor (contains)

def suspiciousProcesses : List (String × String) :=
  [("hydra", "Brute-force attack tool"), ("nmap", "Network scanner"),
    ("netcat", "Network utility (potential backdoor)"), ("nc", "Netcat variant"),
    ("john", "Password cracker"), ("hashcat", "Password cracker"),
    ("mimikatz", "Credential dumper"), ("meterpreter", "Exploitation framework"),
    ("cobalt", "C2 framework indicator"), ("empire", "Post-exploitation framework"),
    ("lazagne", "Credential recovery tool"), ("responder", "LLMNR/NBT-NS poisoner")]

/-- What psutil says of a process; it gives `None` where it may not look. -/
structure Process where
  pid : Nat
  name : Option String
  username : Option String
  cpuPercent : Option Rat
  connections : Option Nat

inductive Alert where
  | suspicious (p : Process) (description : String)
  | highCpu (p : Process) (cpu : Rat)
  | manyConnections (p : Process) (connectionCount : Nat)

def Alert.severity : Alert → String
  | suspicious _ _ => "high"
  | highCpu _ _ | manyConnections _ _ => "medium"

def Alert.isNew : Alert → Bool
  | manyConnections _ _ => true
  | _ => false

def Alert.newPid? : Alert → Option Nat
  | manyConnections p _ => some p.pid
  | _ => none

section
variable (lower : String → String)

def suspicions (p : Process) : List Alert :=
  suspiciousProcesses.filterMap fun (badName, description) =>
    if contains (lower (p.name.getD "")) badName then some (.suspicious p description) else none

def usage (p : Process) : List Alert :=
  let cpu := p.cpuPercent.getD 0
  if 90 < cpu then [.highCpu p cpu] else []

def crowd (p : Process) : List Alert :=
  let connections := p.connections.getD 0
  if 20 < connections then [.manyConnections p connections] else []

/-- `proc.info` is there before the loop's body starts, which then raises nothing. -/
def checkProcess (s : List Nat × List Alert) (p : Process) : List Nat × List Alert :=
  let alerts := s.2 ++ suspicions lower p ++ usage p
  if p.pid ∈ s.1 then (s.1, alerts) else (p.pid :: s.1, alerts ++ crowd p)

def scan (baselinePids : List Nat) (processes : List Process) : List Nat × List Alert :=
  processes.foldl (checkProcess lower) (baselinePids, [])

def reports (baselinePids : List Nat) : List (List Process) → List (List Alert)
  | [] => []
  | processes :: later =>
      (scan lower baselinePids processes).2 :: reports (scan lower baselinePids processes).1 later

end

def standing (lower : String → String) (p : Process) : List Alert := suspicions lower p ++ usage p

section
variable {lower : String → String} {baselinePids : List Nat} {processes : List Process} {p : Process} {a : Alert}

theorem isNew_of_mem_suspicions (member : a ∈ suspicions lower p) : a.isNew = false := by
  obtain ⟨⟨badName, description⟩, -, found⟩ := List.mem_filterMap.mp member
  dsimp only at found
  split_ifs at found
  obtain rfl := Option.some.inj found
  rfl

theorem isNew_of_mem_usage (member : a ∈ usage p) : a.isNew = false := by
  unfold usage at member
  dsimp only at member
  split_ifs at member
  · obtain rfl := List.mem_singleton.mp member
    rfl
  · cases member

theorem mem_crowd : a ∈ crowd p ↔ ∃ n, 20 < n ∧ p.connections = some n ∧ a = .manyConnections p n := by
  unfold crowd
  cases p.connections with
  | none => simp
  | some n =>
      dsimp only [Option.getD_some]
      split_ifs with crowded <;> simp [crowded]

theorem isNew_of_mem_crowd (member : a ∈ crowd p) : a.isNew = true := by
  obtain ⟨n, -, -, rfl⟩ := mem_crowd.mp member
  rfl

theorem filter_standing (p : Process) :
    (standing lower p).filter (fun a => !a.isNew) = standing lower p ∧ (standing lower p).filter Alert.isNew = [] := by
  have old : ∀ a ∈ standing lower p, a.isNew = false :=
    List.forall_mem_append.mpr ⟨fun _ => isNew_of_mem_suspicions, fun _ => isNew_of_mem_usage⟩
  constructor
  · exact List.filter_eq_self.mpr fun a member => by rw [old a member]; rfl
  · exact List.filter_eq_nil_iff.mpr fun a member => by rw [old a member]; exact Bool.false_ne_true

theorem filter_crowd (p : Process) :
    (crowd p).filter (fun a => !a.isNew) = [] ∧ (crowd p).filter Alert.isNew = crowd p := by
  constructor
  · exact List.filter_eq_nil_iff.mpr fun a member => by rw [isNew_of_mem_crowd member]; exact Bool.false_ne_true
  · exact List.filter_eq_self.mpr fun a member => isNew_of_mem_crowd member

theorem checkProcess_eq (s : List Nat × List Alert) (p : Process) : checkProcess lower s p =
    (if p.pid ∈ s.1 then s.1 else p.pid :: s.1,
      s.2 ++ standing lower p ++ if p.pid ∈ s.1 then [] else crowd p) := by
  unfold checkProcess standing
  split_ifs <;> simp

theorem foldl_checkProcess (processes : List Process) (s : List Nat × List Alert) :
    (processes.foldl (checkProcess lower) s).1 = FirstSeen.mark Process.pid s.1 processes ∧
    (processes.foldl (checkProcess lower) s).2.filter (fun a => !a.isNew) =
      s.2.filter (fun a => !a.isNew) ++ processes.flatMap (standing lower) ∧
    (processes.foldl (checkProcess lower) s).2.filter Alert.isNew =
      s.2.filter Alert.isNew ++ (FirstSeen.fresh Process.pid s.1 processes).flatMap crowd := by
  induction processes generalizing s with
  | nil => simp [FirstSeen.mark, FirstSeen.fresh]
  | cons p processes ih =>
      obtain ⟨lasting, nothing⟩ := @filter_standing lower p
      obtain ⟨none, all⟩ := filter_crowd p
      rw [List.foldl_cons]
      obtain ⟨baseline, others, new⟩ := ih (checkProcess lower s p)
      rw [baseline, others, new, checkProcess_eq, FirstSeen.mark, FirstSeen.fresh, List.filter_append,
        List.filter_append, List.filter_append, List.filter_append, lasting, nothing, List.flatMap_cons]
      by_cases known : p.pid ∈ s.1
      · simp [known]
      · simp [known, none, all]

theorem scan_filter (baselinePids : List Nat) (processes : List Process) :
    (scan lower baselinePids processes).2.filter (fun a => !a.isNew) =
      processes.flatMap (standing lower) ∧
    (scan lower baselinePids processes).2.filter Alert.isNew =
      (FirstSeen.fresh Process.pid baselinePids processes).flatMap crowd :=
  (foldl_checkProcess processes (baselinePids, [])).2

theorem reports_eq (baselinePids : List Nat) (scans : List (List Process)) :
    (reports lower baselinePids scans).map (List.filter fun a => !a.isNew) =
      scans.map (List.flatMap (standing lower)) ∧
    (reports lower baselinePids scans).map (List.filter Alert.isNew) =
      (FirstSeen.rounds Process.pid baselinePids scans).map (List.flatMap crowd) := by
  induction scans generalizing baselinePids with
  | nil => exact ⟨rfl, rfl⟩
  | cons processes later ih =>
      obtain ⟨lasting, new⟩ := ih (scan lower baselinePids processes).1
      obtain ⟨others, first⟩ := @scan_filter lower baselinePids processes
      have baseline : (scan lower baselinePids processes).1 = FirstSeen.mark Process.pid baselinePids processes :=
        (foldl_checkProcess processes (baselinePids, [])).1
      simp only [reports, FirstSeen.rounds, List.map_cons]
      rw [lasting, new, others, first, baseline]
      exact ⟨rfl, rfl⟩

theorem exists_reported_iff {reported : List (List Alert)} {q : Alert → Bool} {i : Nat} {a : Alert} (yes : q a = true) :
    (∃ alerts, reported[i]? = some alerts ∧ a ∈ alerts) ↔
      ∃ alerts, (reported.map (List.filter q))[i]? = some alerts ∧ a ∈ alerts := by
  rw [List.getElem?_map]
  cases reported[i]? with
  | none => simp
  | some alerts => simp [yes]

theorem newPid?_eq_none (old : a.isNew = false) : a.newPid? = none := by
  cases a <;> first | rfl | cases old

theorem crowd_newPids (p : Process) : ((crowd p).filterMap Alert.newPid?).Sublist [p.pid] := by
  unfold crowd
  dsimp only
  split_ifs
  · exact List.Sublist.refl _
  · exact List.nil_sublist _

theorem flatMap_crowd_newPids (ps : List Process) :
    ((ps.flatMap crowd).filterMap Alert.newPid?).Sublist (ps.map Process.pid) := by
  induction ps with
  | nil => exact List.Sublist.slnil
  | cons p ps ih =>
      rw [List.flatMap_cons, List.filterMap_append, List.map_cons]
      exact (crowd_newPids p).append ih

theorem filterMap_newPid? (alerts : List Alert) :
    alerts.filterMap Alert.newPid? = (alerts.filter Alert.isNew).filterMap Alert.newPid? := by
  induction alerts with
  | nil => rfl
  | cons a alerts ih =>
      rw [List.filter_cons]
      split_ifs with new
      · rw [List.filterMap_cons, List.filterMap_cons, ih]
      · rw [List.filterMap_cons, newPid?_eq_none (Bool.eq_false_iff.mpr new), ih]

theorem newPids_nodup (baselinePids : List Nat) (scans : List (List Process)) :
    ((reports lower baselinePids scans).flatten.filterMap Alert.newPid?).Nodup := by
  have new := (@reports_eq lower baselinePids scans).2
  have together : (reports lower baselinePids scans).flatten.filter Alert.isNew =
      (FirstSeen.fresh Process.pid baselinePids scans.flatten).flatMap crowd := by
    rw [List.filter_flatten, new, ← FirstSeen.flatten_rounds, List.flatten_eq_flatMap, List.flatten_eq_flatMap,
      List.flatMap_assoc, List.flatMap_map]
    rfl
  rw [filterMap_newPid?, together]
  exact (FirstSeen.fresh_nodup _ _ _).sublist (flatMap_crowd_newPids _)

/-- Every scan repeats what it sees of its processes. A process is reported as new in the scan that
first lists its id, if the baseline does not and the first entry with the id has too many connections. -/
theorem processes_reported (lower : String → String) (baselinePids : List Nat) (scans : List (List Process)) :
    (reports lower baselinePids scans).map (List.filter fun a => !a.isNew) =
      scans.map (List.flatMap fun p => suspicions lower p ++ usage p) ∧
    ((reports lower baselinePids scans).map (List.filter Alert.isNew) =
      (FirstSeen.rounds Process.pid baselinePids scans).map (List.flatMap crowd) ∧
      ((reports lower baselinePids scans).flatten.filterMap Alert.newPid?).Nodup) ∧
    ∀ i p n, (∃ alerts, (reports lower baselinePids scans)[i]? = some alerts ∧ .manyConnections p n ∈ alerts) ↔
      20 < n ∧ p.connections = some n ∧ p.pid ∉ baselinePids ∧
        (∀ earlier ∈ scans.take i, ∀ q ∈ earlier, q.pid ≠ p.pid) ∧
        ∃ processes, scans[i]? = some processes ∧ processes.find? (fun q => q.pid = p.pid) = some p := by
  obtain ⟨lasting, new⟩ := @reports_eq lower baselinePids scans
  refine ⟨lasting, ⟨new, newPids_nodup baselinePids scans⟩, fun i p n => ?_⟩
  rw [exists_reported_iff (q := Alert.isNew) rfl, new, List.getElem?_map, FirstSeen.rounds_getElem?]
  cases scans[i]? with
  | none => simp
  | some processes =>
      simp only [Option.map_some, Option.some.injEq, exists_eq_left', List.mem_flatMap, mem_crowd,
        FirstSeen.mem_fresh_iff, FirstSeen.mem_mark, Alert.manyConnections.injEq, List.mem_flatten]
      constructor
      · rintro ⟨p', ⟨unseen, first⟩, m, many, connections, rfl, rfl⟩
        refine ⟨many, connections, fun known => unseen (Or.inl known), ?_, first⟩
        intro earlier before q among same
        exact unseen (Or.inr ⟨q, ⟨earlier, before, among⟩, same⟩)
      · rintro ⟨many, connections, unknown, new, first⟩
        refine ⟨p, ⟨?_, first⟩, n, many, connections, rfl, rfl⟩
        rintro (known | ⟨q, ⟨earlier, before, among⟩, same⟩)
        · exact unknown known
        · exact new earlier before q among same

example : (reports id [1] [[⟨2, some "sh", none, none, some 3⟩], [⟨2, some "sh", none, none, some 90⟩,
    ⟨3, some "nc", none, some 95, some 21⟩]]).map (List.map Alert.severity) = [[], ["high", "medium", "medium"]] := by
  decide +kernel

end

end GuardianPi.Agent.ProcessMonitor
