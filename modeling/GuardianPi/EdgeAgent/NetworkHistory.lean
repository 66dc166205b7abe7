import Mathlib.Data.Finset.Card
import Mathlib.Data.List.DropRight
import Mathlib.Data.List.ReduceOption
import GuardianPi.EdgeAgent.NetworkMonitor
import GuardianPi.Library.FirstSeen
import GuardianPi.Library.Interleaving

namespace GuardianPi.Agent.NetworkMonitor
open GuardianPi.Library GuardianPi.Library.Interleaving

def peer (c : Connection) : Option Address := if c.status = "ESTABLISHED" then c.raddr else none

def ips (connections : List Connection) : List String := (connections.filterMap peer).map Address.ip

def ports (connections : List Connection) : List Nat := (connections.filterMap peer).map Address.port

def listens (c : Connection) : List Alert :=
  match peer c with
  | none => []
  | some raddr => if c.localPort ∈ suspiciousPorts then [.listening c.localPort raddr.ip] else []

def average (counts : List Nat) : Rat := counts.sum / counts.length

/-- The alerts about a scan, given every earlier scan that psutil did not deny. -/
def reportAfter (earlier : List (List Connection)) : Option (List Connection) → List Alert
  | none => []
  | some connections =>
      let usual := average ((earlier.map List.length).rtake 59)
      let spike := 4 ≤ earlier.length ∧ usual * 3 < connections.length ∧ 50 < connections.length
      let ports := (ports connections).toFinset.card
      let new := ((ips connections).toFinset \ (earlier.flatMap ips).toFinset).card
      (if spike then [.spike connections.length usual] else []) ++ connections.flatMap listens ++
        (if 30 < ports then [.portScan ports] else []) ++ if 20 < new then [.burst new] else []

structure Remembers (scans : List (Option (List Connection))) (m : Monitor) : Prop where
  counts : m.connectionHistory = (scans.reduceOption.map List.length).rtake historyMax
  known : ∀ ip, ip ∈ m.knownRemoteIps ↔ ip ∈ scans.reduceOption.flatMap ips

theorem remember_rtake (counts : List Nat) (n : Nat) :
    remember (counts.rtake historyMax) n = counts.rtake 59 ++ [n] := by
  unfold remember List.rtake historyMax
  simp only [List.length_append, List.length_drop, List.length_singleton]
  split_ifs with full
  · have more : counts.length - 59 = counts.length - 60 + 1 := by omega
    have kept : counts.drop (counts.length - 60) ≠ [] := by
      apply List.ne_nil_of_length_pos
      rw [List.length_drop]
      omega
    rw [List.tail_append_of_ne_nil kept, List.tail_drop, more]
  · have few : counts.length - 59 = counts.length - 60 := by omega
    rw [few]

theorem spikeAlerts_rtake (counts : List Nat) (n : Nat) : spikeAlerts (counts.rtake 59 ++ [n]) n =
    if 4 ≤ counts.length ∧ average (counts.rtake 59) * 3 < n ∧ 50 < n
      then [.spike n (average (counts.rtake 59))] else [] := by
  have enough : 5 ≤ (counts.rtake 59 ++ [n]).length ↔ 4 ≤ counts.length := by
    simp only [List.rtake, List.length_append, List.length_drop, List.length_singleton]
    omega
  unfold spikeAlerts
  simp only [enough, List.dropLast_concat]
  by_cases many : 4 ≤ counts.length
  · simp only [many, true_and, if_true]
    rfl
  · simp only [many, false_and, if_false]

theorem analyze_of_unconnected (s : Scan) {c : Connection} (unconnected : peer c = none) : analyze s c = s := by
  unfold analyze
  unfold peer at unconnected
  split_ifs at unconnected with established
  · rw [unconnected]
  · cases c.raddr with
    | none => rfl
    | some raddr => exact if_pos established

theorem analyze_of_connected (s : Scan) {c : Connection} {raddr : Address} (connected : peer c = some raddr) :
    analyze s c =
      { alerts := s.alerts ++ listens c
        knownRemoteIps := if raddr.ip ∈ s.knownRemoteIps then s.knownRemoteIps else s.knownRemoteIps ++ [raddr.ip]
        newRemoteIps := if raddr.ip ∈ s.knownRemoteIps then s.newRemoteIps else s.newRemoteIps.insert raddr.ip
        remotePorts := s.remotePorts.insert raddr.port } := by
  have listened : listens c = if c.localPort ∈ suspiciousPorts then [.listening c.localPort raddr.ip] else [] := by
    rw [listens, connected]
  unfold peer at connected
  split_ifs at connected with established
  simp only [analyze, connected, listened, established, ne_eq, not_true_eq_false, if_false, ite_not, Scan.mk.injEq]
  refine ⟨?_, trivial, trivial, trivial⟩
  split_ifs with suspicious
  · rfl
  · exact (List.append_nil _).symm

structure Analyzed (start : Scan) (connections : List Connection) (s : Scan) : Prop where
  alerts : s.alerts = start.alerts ++ connections.flatMap listens
  known : ∀ ip, ip ∈ s.knownRemoteIps ↔ ip ∈ start.knownRemoteIps ∨ ip ∈ ips connections
  distinct : s.newRemoteIps.Nodup
  new : ∀ ip, ip ∈ s.newRemoteIps ↔ ip ∈ ips connections ∧ ip ∉ start.knownRemoteIps
  apart : s.remotePorts.Nodup
  ports : ∀ port, port ∈ s.remotePorts ↔ port ∈ ports connections

theorem analyzed_concat {start : Scan} {connections : List Connection} {s : Scan}
    (analyzed : Analyzed start connections s) (c : Connection) :
    Analyzed start (connections ++ [c]) (analyze s c) := by
  obtain ⟨alerts, known, distinct, new, apart, visited⟩ := analyzed
  cases connected : peer c with
  | none =>
      have same : ips (connections ++ [c]) = ips connections ∧ ports (connections ++ [c]) = ports connections := by
        simp [ips, ports, connected]
      have silent : (connections ++ [c]).flatMap listens = connections.flatMap listens := by
        simp [listens, connected]
      rw [analyze_of_unconnected s connected]
      refine ⟨?_, ?_, distinct, ?_, apart, ?_⟩
      · rw [alerts, silent]
      · rwa [same.1]
      · rwa [same.1]
      · rwa [same.2]
  | some raddr =>
      have more : ips (connections ++ [c]) = ips connections ++ [raddr.ip] ∧
          ports (connections ++ [c]) = ports connections ++ [raddr.port] := by
        simp [ips, ports, connected]
      rw [analyze_of_connected s connected]
      refine ⟨?_, fun ip => ?_, ?_, fun ip => ?_, apart.insert, fun port => ?_⟩
      · rw [alerts, List.flatMap_append, List.flatMap_singleton, List.append_assoc]
      · rw [more.1]
        dsimp only
        split_ifs with seen
        · have here := (known _).mp seen
          simp only [known, List.mem_append, List.mem_singleton]
          constructor
          · tauto
          · rintro (old | old | rfl) <;> tauto
        · simp [known, or_assoc]
      · dsimp only
        split_ifs
        · exact distinct
        · exact distinct.insert
      · rw [more.1]
        dsimp only
        have seen := known raddr.ip
        split_ifs with old
        · simp only [new, List.mem_append, List.mem_singleton]
          constructor
          · tauto
          · rintro ⟨here | rfl, unknown⟩ <;> tauto
        · rw [List.mem_insert_iff, new, List.mem_append, List.mem_singleton]
          constructor
          · rintro (rfl | found) <;> tauto
          · tauto
      · rw [more.2, List.mem_insert_iff, visited, List.mem_append, List.mem_singleton, or_comm]

theorem analyzed_foldl (start : Scan) (new : start.newRemoteIps = []) (ports : start.remotePorts = [])
    (connections : List Connection) : Analyzed start connections (connections.foldl analyze start) := by
  induction connections using List.reverseRecOn with
  | nil =>
      refine ⟨(List.append_nil _).symm, fun ip => ?_, ?_, fun ip => ?_, ?_, fun port => ?_⟩
      · simp [ips]
      · exact new ▸ List.nodup_nil
      · simp [new, ips]
      · exact ports ▸ List.nodup_nil
      · simp [ports, NetworkMonitor.ports]
  | append_singleton connections c ih =>
      rw [List.foldl_concat]
      exact analyzed_concat ih c

def Monitor.opening (m : Monitor) (connections : List Connection) : Scan :=
  ⟨spikeAlerts (remember m.connectionHistory connections.length) connections.length, m.knownRemoteIps, [], []⟩

theorem detectAnomalies_remembers (scans : List (Option (List Connection))) (m : Monitor)
    (scan : Option (List Connection)) (remembers : Remembers scans m) :
    Remembers (scans ++ [scan]) (detectAnomalies m scan).1 ∧
      (detectAnomalies m scan).2 = reportAfter scans.reduceOption scan := by
  have shown : (scans ++ [scan]).reduceOption = scans.reduceOption ++ scan.toList := by
    rw [List.reduceOption_append, List.reduceOption_singleton]
  cases scan with
  | none =>
      rw [Option.toList_none, List.append_nil] at shown
      exact ⟨⟨shown ▸ remembers.counts, shown ▸ remembers.known⟩, rfl⟩
  | some connections =>
      rw [Option.toList_some] at shown
      have history : remember m.connectionHistory connections.length =
          (scans.reduceOption.map List.length).rtake 59 ++ [connections.length] := by
        rw [remembers.counts, remember_rtake]
      obtain ⟨alerts, known, distinct, new, apart, visited⟩ := analyzed_foldl (m.opening connections) rfl rfl connections
      refine ⟨⟨?_, fun ip => ?_⟩, ?_⟩
      · rw [shown, List.map_append, List.map_singleton]
        exact history.trans (List.rtake_concat_succ _ 59 _).symm
      · rw [shown, List.flatMap_append, List.flatMap_singleton, List.mem_append, ← remembers.known]
        exact known ip
      · have burst : (ips connections).toFinset \ (scans.reduceOption.flatMap ips).toFinset =
            (connections.foldl analyze (m.opening connections)).newRemoteIps.toFinset := by
          ext ip
          rw [Finset.mem_sdiff, List.mem_toFinset, List.mem_toFinset, List.mem_toFinset, new, ← remembers.known]
          rfl
        have scanned : (ports connections).toFinset =
            (connections.foldl analyze (m.opening connections)).remotePorts.toFinset := by
          ext port
          rw [List.mem_toFinset, List.mem_toFinset, visited]
        have spike := spikeAlerts_rtake (scans.reduceOption.map List.length) connections.length
        rw [← history, List.length_map] at spike
        rw [show (m.opening connections).alerts = _ from spike] at alerts
        simp only [reportAfter, burst, scanned, List.toFinset_card_of_nodup distinct,
          List.toFinset_card_of_nodup apart, ← alerts]
        rfl

theorem scans_reported (scans : List (Option (List Connection))) (i : Nat) :
    (answers detectAnomalies .new scans)[i]? = scans[i]?.map (reportAfter (scans.take i).reduceOption) := by
  have fresh : Remembers [] .new := ⟨rfl, fun ip => Iff.rfl⟩
  have answered := answers_of_remembers (fun past => reportAfter past.reduceOption)
    detectAnomalies_remembers fresh scans i
  exact answered

end GuardianPi.Agent.NetworkMonitor

namespace GuardianPi.EdgeAgent
open GuardianPi.Library GuardianPi.Library.Interleaving
open GuardianPi.Agent.NetworkMonitor (Connection Monitor detectAnomalies listeningTitle reportAfter)

abbrev Anomaly := Int → Event

def Connected (conn : ConnectionStat) : Prop := conn.status = "ESTABLISHED" ∧ conn.raddr.ip ≠ ""

instance : DecidablePred Connected := fun _ => inferInstanceAs (Decidable (_ ∧ _))

def peerIPs (conns : List ConnectionStat) : List String := (conns.filter Connected).map fun conn => conn.raddr.ip

def spikeAnomalies (previous count : Nat) : List Anomaly :=
  if 0 < previous ∧ previous * 3 < count ∧ 50 < count then
    [networkAnomaly "high" ("Connection spike: " ++ (toString count ++ " (was " ++ toString previous ++ ")"))
      [("current_count", goNat count), ("previous_count", goNat previous)]]
  else []

def portAnomalies (conn : ConnectionStat) : List Anomaly :=
  if Connected conn then
    (suspiciousPorts.lookup conn.laddr.port.toNat).toList.map fun desc =>
      networkAnomaly "high" (listeningTitle conn.laddr.port.toNat)
        [("description", .str desc), ("local_port", goNat conn.laddr.port.toNat), ("remote_ip", .str conn.raddr.ip)]
  else []

def burstAnomalies (new : Nat) : List Anomaly :=
  if 20 < new then
    [networkAnomaly "medium" ("Burst of " ++ (toString new ++ " new remote connections")) [("new_ip_count", goNat new)]]
  else []

def stamped (clock : Nat → Int) (anomalies : List Anomaly) : List Event :=
  anomalies.mapIdx fun k anomaly => anomaly (clock k)

def sentAfter (earlier : List (List ConnectionStat)) (clock : Nat → Int) :
    Option (List ConnectionStat) → List Event
  | none => []
  | some conns =>
      let previous := (earlier.getLast?.map List.length).getD 0
      let new := ((peerIPs conns).toFinset \ (earlier.flatMap peerIPs).toFinset).card
      stamped clock (spikeAnomalies previous conns.length ++ conns.flatMap portAnomalies ++ burstAnomalies new)

section
variable {clock : Nat → Int} {anomalies : List Anomaly}

theorem send_eq {s : NetworkWatch} (sent : s.sent = stamped clock anomalies) (severity title : String)
    (details : List (String × GoValue)) : s.send clock severity title details =
      { s with sent := stamped clock (anomalies ++ [networkAnomaly severity title details]) } := by
  rw [NetworkWatch.send, sent, stamped, stamped, List.mapIdx_concat, List.length_mapIdx]

theorem checkSpike_eq (previous : Nat) (known : List String) (count : Nat) :
    checkSpike clock ⟨previous, known, 0, []⟩ count =
      ⟨previous, known, 0, stamped clock (spikeAnomalies previous count)⟩ := by
  unfold checkSpike spikeAnomalies
  split_ifs
  · have nothing : (NetworkWatch.mk previous known 0 []).sent = stamped clock [] := rfl
    exact send_eq nothing _ _ _
  · rfl

theorem checkBurst_eq {s : NetworkWatch} (sent : s.sent = stamped clock anomalies) :
    checkBurst clock s = { s with sent := stamped clock (anomalies ++ burstAnomalies s.newIPs) } := by
  unfold checkBurst burstAnomalies
  split_ifs
  · exact send_eq sent _ _ _
  · rw [List.append_nil, ← sent]

theorem checkPort_eq {s : NetworkWatch} (sent : s.sent = stamped clock anomalies) {conn : ConnectionStat}
    (connected : Connected conn) :
    checkPort clock s conn = { s with sent := stamped clock (anomalies ++ portAnomalies conn) } := by
  unfold checkPort portAnomalies
  rw [if_pos connected]
  cases suspiciousPorts.lookup conn.laddr.port.toNat with
  | some desc => exact send_eq sent _ _ _
  | none => rw [Option.toList_none, List.map_nil, List.append_nil, ← sent]

structure Counted (clock : Nat → Int) (anomalies : List Anomaly) (start : NetworkWatch)
    (conns : List ConnectionStat) (s : NetworkWatch) : Prop where
  sent : s.sent = stamped clock (anomalies ++ conns.flatMap portAnomalies)
  count : s.prevConnCount = start.prevConnCount
  known : s.knownRemoteIPs = FirstSeen.mark id start.knownRemoteIPs (peerIPs conns)
  new : s.newIPs = start.newIPs + (FirstSeen.fresh id start.knownRemoteIPs (peerIPs conns)).length

theorem counted_concat {start s : NetworkWatch} {conns : List ConnectionStat}
    (counted : Counted clock anomalies start conns s) (conn : ConnectionStat) :
    Counted clock anomalies start (conns ++ [conn]) (checkConnection clock s conn) := by
  unfold checkConnection
  by_cases connected : Connected conn
  · have more : peerIPs (conns ++ [conn]) = peerIPs conns ++ [conn.raddr.ip] := by
      simp [peerIPs, connected]
    have taken : ¬ (conn.status ≠ "ESTABLISHED" ∨ conn.raddr.ip = "") :=
      not_or.mpr ⟨not_not.mpr connected.1, connected.2⟩
    have sent : stamped clock (anomalies ++ conns.flatMap portAnomalies ++ portAnomalies conn) =
        stamped clock (anomalies ++ (conns ++ [conn]).flatMap portAnomalies) := by
      rw [List.flatMap_append, List.flatMap_singleton, List.append_assoc]
    have marked := FirstSeen.mark_concat id start.knownRemoteIPs (peerIPs conns) conn.raddr.ip
    have left := FirstSeen.fresh_concat id start.knownRemoteIPs (peerIPs conns) conn.raddr.ip
    rw [id_eq, ← counted.known] at marked left
    rw [if_neg taken, checkPort_eq counted.sent connected]
    dsimp only
    split_ifs with seen
    · rw [if_pos seen] at marked left
      refine ⟨sent, counted.count, ?_, ?_⟩
      · rw [more, marked]
      · rw [more, left, List.append_nil, counted.new]
    · rw [if_neg seen] at marked left
      refine ⟨sent, counted.count, ?_, ?_⟩
      · rw [more, marked]
      · rw [more, left, List.length_append, List.length_singleton, counted.new, Nat.add_assoc]
  · have same : peerIPs (conns ++ [conn]) = peerIPs conns := by
      simp [peerIPs, connected]
    have skipped : conn.status ≠ "ESTABLISHED" ∨ conn.raddr.ip = "" := by
      rw [Connected, not_and_or, not_not] at connected
      exact connected
    have silent : (conns ++ [conn]).flatMap portAnomalies = conns.flatMap portAnomalies := by
      simp [portAnomalies, connected]
    rw [if_pos skipped]
    exact ⟨silent ▸ counted.sent, counted.count, same ▸ counted.known, same ▸ counted.new⟩

theorem counted_foldl {start : NetworkWatch} (sent : start.sent = stamped clock anomalies)
    (conns : List ConnectionStat) :
    Counted clock anomalies start conns (conns.foldl (checkConnection clock) start) := by
  induction conns using List.reverseRecOn with
  | nil => exact ⟨by rw [List.flatMap_nil, List.append_nil]; exact sent, rfl, rfl, rfl⟩
  | append_singleton conns conn ih =>
      rw [List.foldl_concat]
      exact counted_concat ih conn

theorem networkTick_counted (s : NetworkWatch) (conns : List ConnectionStat) :
    ∃ m, Counted clock (spikeAnomalies s.prevConnCount conns.length) ⟨conns.length, s.knownRemoteIPs, 0, []⟩ conns m ∧
      networkTick clock s (some conns) = { m with
        sent := stamped clock (spikeAnomalies s.prevConnCount conns.length ++ conns.flatMap portAnomalies ++
          burstAnomalies m.newIPs) } := by
  let start : NetworkWatch :=
    ⟨conns.length, s.knownRemoteIPs, 0, stamped clock (spikeAnomalies s.prevConnCount conns.length)⟩
  obtain ⟨sent, count, known, new⟩ := @counted_foldl clock _ start rfl conns
  refine ⟨_, ⟨sent, count, known, new⟩, ?_⟩
  have opened : networkTick clock s (some conns) = checkBurst clock (conns.foldl (checkConnection clock) start) := by
    rw [networkTick, checkSpike_eq]
  rw [opened, checkBurst_eq sent]

structure Remembers (ticks : List (Option (List ConnectionStat))) (s : NetworkWatch) : Prop where
  count : s.prevConnCount = (ticks.reduceOption.getLast?.map List.length).getD 0
  known : ∀ ip, ip ∈ s.knownRemoteIPs ↔ ip ∈ ticks.reduceOption.flatMap peerIPs

theorem networkTick_remembers {ticks : List (Option (List ConnectionStat))} {s : NetworkWatch}
    (remembers : Remembers ticks s) (tick : Option (List ConnectionStat)) :
    Remembers (ticks ++ [tick]) (networkTick clock s tick) ∧
      (networkTick clock s tick).sent = sentAfter ticks.reduceOption clock tick := by
  have shown : (ticks ++ [tick]).reduceOption = ticks.reduceOption ++ tick.toList := by
    rw [List.reduceOption_append, List.reduceOption_singleton]
  cases tick with
  | none =>
      rw [Option.toList_none, List.append_nil] at shown
      exact ⟨⟨shown ▸ remembers.count, shown ▸ remembers.known⟩, rfl⟩
  | some conns =>
      rw [Option.toList_some] at shown
      obtain ⟨m, counted, tick⟩ := @networkTick_counted clock s conns
      obtain ⟨-, count, known, new⟩ := counted
      rw [tick]
      refine ⟨⟨?_, fun ip => ?_⟩, ?_⟩
      · rw [shown, List.getLast?_concat]
        exact count
      · rw [shown, List.flatMap_append, List.flatMap_singleton, List.mem_append, ← remembers.known]
        dsimp only
        rw [known, FirstSeen.mem_mark]
        simp
      · dsimp only [sentAfter]
        have burst : (FirstSeen.fresh id s.knownRemoteIPs (peerIPs conns)).length =
            ((peerIPs conns).toFinset \ (ticks.reduceOption.flatMap peerIPs).toFinset).card := by
          have seen : s.knownRemoteIPs.toFinset = (ticks.reduceOption.flatMap peerIPs).toFinset := by
            ext ip
            rw [List.mem_toFinset, List.mem_toFinset, remembers.known]
          rw [FirstSeen.length_fresh, List.map_id, seen]
        rw [new, Nat.zero_add, burst, remembers.count]

def tickStep (s : NetworkWatch) (tick : (Nat → Int) × Option (List ConnectionStat)) : NetworkWatch × List Event :=
  (networkTick tick.1 s tick.2, (networkTick tick.1 s tick.2).sent)

theorem ticks_sent (ticks : List ((Nat → Int) × Option (List ConnectionStat))) (i : Nat) :
    (answers tickStep ⟨0, [], 0, []⟩ ticks)[i]? =
      ticks[i]?.map fun tick => sentAfter ((ticks.take i).map Prod.snd).reduceOption tick.1 tick.2 := by
  have keeps : ∀ past s tick, Remembers (past.map Prod.snd) s →
      Remembers ((past ++ [tick]).map Prod.snd) (tickStep s tick).1 ∧
        (tickStep s tick).2 = sentAfter (past.map Prod.snd).reduceOption tick.1 tick.2 := by
    intro past s tick remembers
    rw [List.map_append, List.map_singleton]
    exact networkTick_remembers remembers tick.2
  have fresh : Remembers (List.map Prod.snd ([] : List ((Nat → Int) × _))) ⟨0, [], 0, []⟩ := ⟨rfl, fun ip => Iff.rfl⟩
  have answered := answers_of_remembers
    (fun past tick => sentAfter (past.map Prod.snd).reduceOption tick.1 tick.2) keeps fresh ticks i
  exact answered

end

/-- Each monitor reports of a scan what one would that kept all the scans before it: the Python one holds a
connection count against the mean of at most 59 before it, the edge agent's against the last, and both count
the remote addresses that no earlier scan was connected to. -/
theorem network_scans_reported (scans : List (Option (List Connection)))
    (ticks : List ((Nat → Int) × Option (List ConnectionStat))) (i : Nat) :
    (answers detectAnomalies .new scans)[i]? = scans[i]?.map (reportAfter (scans.take i).reduceOption) ∧
      (answers tickStep ⟨0, [], 0, []⟩ ticks)[i]? =
        ticks[i]?.map fun tick => sentAfter ((ticks.take i).map Prod.snd).reduceOption tick.1 tick.2 :=
  ⟨Agent.NetworkMonitor.scans_reported scans i, ticks_sent ticks i⟩

end GuardianPi.EdgeAgent
