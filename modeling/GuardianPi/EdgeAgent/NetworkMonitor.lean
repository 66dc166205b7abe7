import GuardianPi.Agent.NetworkMonitor
import GuardianPi.EdgeAgent.Sender

namespace GuardianPi.EdgeAgent
open GuardianPi.Library GuardianPi.Agent.NetworkMonitor

def suspiciousPorts : List (Nat × String) := [
  (4444, "Metasploit default"), (5555, "Common backdoor"), (1337, "Leet port (malware)"), (31337, "Back Orifice"),
  (6666, "IRC backdoor"), (6667, "IRC C2"), (8888, "Alternative HTTP (suspicious)"), (9999, "Common reverse shell"),
  (12345, "NetBus trojan"), (4443, "Alternative HTTPS C2")]

structure Addr where
  ip : String
  port : UInt32

structure ConnectionStat where
  status : String
  laddr : Addr
  raddr : Addr

structure NetworkWatch where
  prevConnCount : Nat
  knownRemoteIPs : List String
  newIPs : Nat
  sent : List Event

def networkAnomaly (severity title : String) (details : List (String × GoValue)) (now : Int) : Event where
  eventType := "network_anomaly"
  severity := severity
  title := title
  details := some details
  timestamp := formatRFC3339 now

def goNat (n : Nat) : GoValue := .num (some (Literal.ofInt n))

section
variable (clock : Nat → Int)

def NetworkWatch.send (s : NetworkWatch) (severity title : String) (details : List (String × GoValue)) :
    NetworkWatch :=
  { s with sent := s.sent ++ [networkAnomaly severity title details (clock s.sent.length)] }

def checkSpike (s : NetworkWatch) (count : Nat) : NetworkWatch :=
  if 0 < s.prevConnCount ∧ s.prevConnCount * 3 < count ∧ 50 < count then
    s.send clock "high" ("Connection spike: " ++ (toString count ++ " (was " ++ toString s.prevConnCount ++ ")"))
      [("current_count", goNat count), ("previous_count", goNat s.prevConnCount)]
  else s

def checkPort (s : NetworkWatch) (conn : ConnectionStat) : NetworkWatch :=
  match suspiciousPorts.lookup conn.laddr.port.toNat with
  | some desc => s.send clock "high" (listeningTitle conn.laddr.port.toNat)
      [("description", .str desc), ("local_port", goNat conn.laddr.port.toNat), ("remote_ip", .str conn.raddr.ip)]
  | none => s

def checkConnection (s : NetworkWatch) (conn : ConnectionStat) : NetworkWatch :=
  if conn.status ≠ "ESTABLISHED" ∨ conn.raddr.ip = "" then s
  else
    let s := checkPort clock s conn
    if conn.raddr.ip ∈ s.knownRemoteIPs then s
    else { s with knownRemoteIPs := conn.raddr.ip :: s.knownRemoteIPs, newIPs := s.newIPs + 1 }

def checkBurst (s : NetworkWatch) : NetworkWatch :=
  if 20 < s.newIPs then
    s.send clock "medium" ("Burst of " ++ (toString s.newIPs ++ " new remote connections"))
      [("new_ip_count", goNat s.newIPs)]
  else s

/-- One tick of `RunNetworkMonitor`; where `net.Connections` fails it does nothing. -/
def networkTick (s : NetworkWatch) : Option (List ConnectionStat) → NetworkWatch
  | none => { s with newIPs := 0, sent := [] }
  | some conns =>
      let s := checkSpike clock { s with newIPs := 0, sent := [] } conns.length
      let s := { s with prevConnCount := conns.length }
      checkBurst clock (conns.foldl (checkConnection clock) s)

end

def goSockets : Sockets ConnectionStat where
  suspiciousPorts := suspiciousPorts.map Prod.fst
  status := ConnectionStat.status
  localPort conn := conn.laddr.port.toNat
  hasRemote conn := conn.raddr.ip != ""

def sentTitles (clock : Nat → Int) (s : NetworkWatch) (conns : List ConnectionStat) : List String :=
  (networkTick clock s (some conns)).sent.map Event.title

section
variable {clock : Nat → Int} {port : Nat}

theorem send_other (s : NetworkWatch) (severity : String) {kind : String} {c : Char} {cs : List Char}
    (starts : kind.toList = c :: cs) (differ : c ≠ 'L') (rest : String) (details : List (String × GoValue)) :
    listeningTitle port ∈ (s.send clock severity (kind ++ rest) details).sent.map Event.title ↔
      listeningTitle port ∈ s.sent.map Event.title := by
  have other : listeningTitle port ≠ kind ++ rest := (ne_listeningTitle starts differ rest port).symm
  simp [NetworkWatch.send, networkAnomaly, other]

theorem checkSpike_listening (s : NetworkWatch) (count : Nat) :
    listeningTitle port ∈ (checkSpike clock s count).sent.map Event.title ↔
      listeningTitle port ∈ s.sent.map Event.title := by
  unfold checkSpike
  split_ifs
  · exact send_other s "high" rfl (by decide) _ _
  · exact Iff.rfl

theorem checkBurst_listening (s : NetworkWatch) :
    listeningTitle port ∈ (checkBurst clock s).sent.map Event.title ↔
      listeningTitle port ∈ s.sent.map Event.title := by
  unfold checkBurst
  split_ifs
  · exact send_other s "medium" rfl (by decide) _ _
  · exact Iff.rfl

theorem checkPort_listening (s : NetworkWatch) (conn : ConnectionStat) :
    listeningTitle port ∈ (checkPort clock s conn).sent.map Event.title ↔
      listeningTitle port ∈ s.sent.map Event.title ∨
        port ∈ goSockets.suspiciousPorts ∧ goSockets.localPort conn = port := by
  have listed : (suspiciousPorts.lookup conn.laddr.port.toNat).isSome = true ↔
      conn.laddr.port.toNat ∈ goSockets.suspiciousPorts := by
    rw [List.lookup_isSome_iff]
    simp [goSockets]
  unfold checkPort
  cases found : suspiciousPorts.lookup conn.laddr.port.toNat with
  | none =>
      rw [found] at listed
      refine (or_iff_left ?_).symm
      rintro ⟨suspicious, rfl⟩
      exact absurd (listed.mpr suspicious) (by simp)
  | some desc =>
      rw [found] at listed
      have suspicious := listed.mp rfl
      simp only [NetworkWatch.send, List.map_append, List.mem_append]
      apply or_congr_right
      simp only [List.map_singleton, networkAnomaly, List.mem_singleton, listeningTitle_injective.eq_iff]
      constructor
      · rintro rfl
        exact ⟨suspicious, rfl⟩
      · rintro ⟨-, rfl⟩
        rfl

theorem checkConnection_listening (s : NetworkWatch) (conn : ConnectionStat) :
    listeningTitle port ∈ (checkConnection clock s conn).sent.map Event.title ↔
      listeningTitle port ∈ s.sent.map Event.title ∨
        port ∈ goSockets.suspiciousPorts ∧ goSockets.Established conn ∧ goSockets.localPort conn = port := by
  unfold checkConnection
  by_cases skipped : conn.status ≠ "ESTABLISHED" ∨ conn.raddr.ip = ""
  · rw [if_pos skipped]
    refine (or_iff_left ?_).symm
    rintro ⟨-, ⟨established, remote⟩, -⟩
    exact skipped.elim (absurd established) (bne_iff_ne.mp remote)
  · rw [if_neg skipped]
    obtain ⟨status, remote⟩ := not_or.mp skipped
    have established : goSockets.Established conn := ⟨not_not.mp status, bne_iff_ne.mpr remote⟩
    have sent : (if conn.raddr.ip ∈ (checkPort clock s conn).knownRemoteIPs then checkPort clock s conn
        else { checkPort clock s conn with
          knownRemoteIPs := conn.raddr.ip :: (checkPort clock s conn).knownRemoteIPs,
          newIPs := (checkPort clock s conn).newIPs + 1 }).sent = (checkPort clock s conn).sent := by
      split_ifs <;> rfl
    simp only [sent, checkPort_listening, established, true_and]

theorem foldl_checkConnection_listening (conns : List ConnectionStat) (s : NetworkWatch) :
    listeningTitle port ∈ (conns.foldl (checkConnection clock) s).sent.map Event.title ↔
      listeningTitle port ∈ s.sent.map Event.title ∨ port ∈ goSockets.suspiciousPorts ∧
        ∃ conn ∈ conns, goSockets.Established conn ∧ goSockets.localPort conn = port := by
  induction conns generalizing s with
  | nil => simp
  | cons conn conns ih =>
      rw [List.foldl_cons, ih, checkConnection_listening, List.exists_mem_cons_iff, or_assoc, and_or_left]

theorem sentTitles_reportsEstablished (clock : Nat → Int) (s : NetworkWatch) :
    ReportsEstablished goSockets (sentTitles clock s) := by
  intro conns port
  unfold sentTitles networkTick
  rw [checkBurst_listening, foldl_checkConnection_listening]
  apply or_iff_right
  intro spike
  exact absurd ((checkSpike_listening { s with newIPs := 0, sent := [] } conns.length).mp spike) List.not_mem_nil

end

theorem listening_reported_iff (m : Monitor) (connections : List Connection) (clock : Nat → Int) (s : NetworkWatch)
    (conns : List ConnectionStat) :
    (ListeningReported pythonSockets (titles m) connections ↔ Unremarkable pythonSockets connections) ∧
      (ListeningReported goSockets (sentTitles clock s) conns ↔ Unremarkable goSockets conns) :=
  ⟨(titles_reportsEstablished m).listeningReported_iff connections,
    (sentTitles_reportsEstablished clock s).listeningReported_iff conns⟩

theorem backdoor_not_reported :
    ¬ ListeningReported pythonSockets (titles .new) [⟨"LISTEN", some ⟨"0.0.0.0", 4444⟩, none⟩] ∧
      ¬ ListeningReported goSockets (sentTitles (fun _ => 0) ⟨0, [], 0, []⟩) [⟨"LISTEN", ⟨"0.0.0.0", 4444⟩, ⟨"", 0⟩⟩] ∧
      listeningTitle 5555 ∈ titles .new [⟨"ESTABLISHED", some ⟨"10.0.0.2", 5555⟩, some ⟨"1.1.1.1", 443⟩⟩] := by
  refine ⟨?_, ?_, ?_⟩
  · intro reported
    have silent := (titles_reportsEstablished .new).listeningReported_iff _ |>.mp reported _ List.mem_cons_self
    exact (silent (by decide)).1 rfl
  · intro reported
    have silent := (sentTitles_reportsEstablished _ _).listeningReported_iff _ |>.mp reported _ List.mem_cons_self
    exact (silent (by decide)).1 rfl
  · rw [titles_reportsEstablished .new]
    exact ⟨by decide, _, List.mem_cons_self, ⟨rfl, rfl⟩, rfl⟩

end GuardianPi.EdgeAgent
