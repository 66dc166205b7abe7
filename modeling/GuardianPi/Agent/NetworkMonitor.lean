import GuardianPi.Library.Decimal
import GuardianPi.Library.Python

namespace GuardianPi.Agent.NetworkMonitor
open GuardianPi.Library GuardianPi.Library.Python

def listeningTitle (port : Nat) : String := "Listening on suspicious port " ++ toString port

structure Sockets (C : Type) where
  suspiciousPorts : List Nat
  status : C → String
  localPort : C → Nat
  hasRemote : C → Bool

section
variable {C : Type} (sockets : Sockets C)

def Sockets.Listening (c : C) : Prop := sockets.status c = "LISTEN"

instance : DecidablePred sockets.Listening := fun c => inferInstanceAs (Decidable (sockets.status c = "LISTEN"))

def Sockets.Established (c : C) : Prop := sockets.status c = "ESTABLISHED" ∧ sockets.hasRemote c = true

/-- A scan, given by the titles that it reports, reports the sockets that listen on a suspicious port;
connections in other states alone give no such report. -/
structure ListeningReported (titles : List C → List String) (connections : List C) : Prop where
  reported : ∀ port, listeningTitle port ∈ titles connections ↔ port ∈ sockets.suspiciousPorts ∧
    ∃ c ∈ connections, sockets.Listening c ∧ sockets.localPort c = port
  only : ∀ port, listeningTitle port ∉ titles (connections.filter fun c => ¬ sockets.Listening c)

/-- No socket on a suspicious port listens or is connected. -/
def Unremarkable (connections : List C) : Prop :=
  ∀ c ∈ connections, sockets.localPort c ∈ sockets.suspiciousPorts →
    ¬ sockets.Listening c ∧ ¬ sockets.Established c

def ReportsEstablished (titles : List C → List String) : Prop :=
  ∀ connections port, listeningTitle port ∈ titles connections ↔ port ∈ sockets.suspiciousPorts ∧
    ∃ c ∈ connections, sockets.Established c ∧ sockets.localPort c = port

variable {sockets} {titles : List C → List String}

theorem not_listening_of_established {c : C} (established : sockets.Established c) : ¬ sockets.Listening c := by
  intro listening
  have same := listening.symm.trans established.1
  exact absurd same (by decide)

theorem ReportsEstablished.listeningReported_iff (reports : ReportsEstablished sockets titles) (connections : List C) :
    ListeningReported sockets titles connections ↔ Unremarkable sockets connections := by
  constructor
  · intro holds c member suspicious
    have quiet : ∀ d ∈ connections, sockets.localPort d = sockets.localPort c → ¬ sockets.Established d := by
      intro d among same established
      apply holds.only (sockets.localPort c)
      rw [reports]
      have kept : d ∈ connections.filter fun c => ¬ sockets.Listening c :=
        List.mem_filter.mpr ⟨among, decide_eq_true (not_listening_of_established established)⟩
      exact ⟨suspicious, d, kept, established, same⟩
    refine ⟨?_, quiet c member rfl⟩
    intro listening
    have reported := (holds.reported (sockets.localPort c)).mpr ⟨suspicious, c, member, listening, rfl⟩
    obtain ⟨-, d, among, established, same⟩ := (reports _ _).mp reported
    exact quiet d among same established
  · intro unremarkable
    constructor
    case reported =>
      intro port
      rw [reports]
      apply and_congr_right
      intro suspicious
      have silent : ∀ c ∈ connections, sockets.localPort c = port →
          ¬ sockets.Listening c ∧ ¬ sockets.Established c := by
        rintro c member rfl
        exact unremarkable c member suspicious
      constructor
      · rintro ⟨c, member, established, same⟩
        exact absurd established (silent c member same).2
      · rintro ⟨c, member, listening, same⟩
        exact absurd listening (silent c member same).1
    case only =>
      intro port reported
      obtain ⟨suspicious, c, member, established, rfl⟩ := (reports _ _).mp reported
      exact (unremarkable c (List.mem_of_mem_filter member) suspicious).2 established

end

def suspiciousPorts : List Nat := [4444, 5555, 1337, 31337, 6666, 6667, 8888, 9999, 12345, 65535]

structure Address where
  ip : String
  port : Nat

structure Connection where
  status : String
  laddr : Option Address
  raddr : Option Address

inductive Alert where
  | spike (current : Nat) (average : Rat)
  | listening (localPort : Nat) (remoteIp : String)
  | portScan (portCount : Nat)
  | burst (newIpCount : Nat)

def Alert.severity : Alert → String
  | spike _ _ | listening _ _ => "high"
  | portScan _ | burst _ => "medium"

def Alert.title : Alert → String
  | spike current average => "Connection spike: " ++ (toString current ++ " (avg: " ++
      toString (roundHalfEven average.num.natAbs average.den) ++ ")")
  | listening localPort _ => listeningTitle localPort
  | portScan portCount => "Possible port scan: connections to " ++ (toString portCount ++ " ports")
  | burst newIpCount => "Burst of new connections: " ++ (toString newIpCount ++ " new IPs")

structure Monitor where
  connectionHistory : List Nat
  knownRemoteIps : List String

def Monitor.new : Monitor := ⟨[], []⟩

def historyMax : Nat := 60

def remember (history : List Nat) (current : Nat) : List Nat :=
  let history := history ++ [current]
  if historyMax < history.length then history.tail else history

def spikeAlerts (history : List Nat) (current : Nat) : List Alert :=
  if 5 ≤ history.length then
    let average : Rat := history.dropLast.sum / history.dropLast.length
    if average * 3 < current ∧ 50 < current then [.spike current average] else []
  else []

structure Scan where
  alerts : List Alert
  knownRemoteIps : List String
  newRemoteIps : List String
  remotePorts : List Nat

def Connection.localPort (c : Connection) : Nat := (c.laddr.map Address.port).getD 0

def analyze (s : Scan) (c : Connection) : Scan :=
  match c.raddr with
  | none => s
  | some raddr =>
      if c.status ≠ "ESTABLISHED" then s
      else
        let new := raddr.ip ∉ s.knownRemoteIps
        { alerts := if c.localPort ∈ suspiciousPorts then s.alerts ++ [.listening c.localPort raddr.ip] else s.alerts
          knownRemoteIps := if new then s.knownRemoteIps ++ [raddr.ip] else s.knownRemoteIps
          newRemoteIps := if new then s.newRemoteIps.insert raddr.ip else s.newRemoteIps
          remotePorts := s.remotePorts.insert raddr.port }

/-- Without the connections, psutil has denied the access. -/
def detectAnomalies (m : Monitor) : Option (List Connection) → Monitor × List Alert
  | none => (m, [])
  | some connections =>
      let history := remember m.connectionHistory connections.length
      let scan := connections.foldl analyze ⟨spikeAlerts history connections.length, m.knownRemoteIps, [], []⟩
      let ports := scan.remotePorts.length
      let ips := scan.newRemoteIps.length
      (⟨history, scan.knownRemoteIps⟩, scan.alerts ++ (if 30 < ports then [.portScan ports] else []) ++
        if 20 < ips then [.burst ips] else [])

def pythonSockets : Sockets Connection where
  suspiciousPorts := suspiciousPorts
  status := Connection.status
  localPort := Connection.localPort
  hasRemote c := c.raddr.isSome

def titles (m : Monitor) (connections : List Connection) : List String :=
  (detectAnomalies m (some connections)).2.map Alert.title

theorem listeningTitle_injective : Function.Injective listeningTitle := by
  intro p q same
  have digits : toString (p : Int) = toString (q : Int) := (String.append_right_inj _).mp same
  exact Int.ofNat.inj (toString_int_injective digits)

theorem head_append (s t : String) {c : Char} {cs : List Char} (starts : s.toList = c :: cs) :
    (s ++ t).toList.head? = some c := by
  rw [String.toList_append, starts]
  rfl

theorem ne_listeningTitle {kind : String} {c : Char} {cs : List Char} (starts : kind.toList = c :: cs)
    (differ : c ≠ 'L') (rest : String) (port : Nat) : kind ++ rest ≠ listeningTitle port := by
  intro same
  have own : (listeningTitle port).toList.head? = some 'L' := head_append "Listening on suspicious port " _ rfl
  rw [← same, head_append kind rest starts] at own
  exact differ (Option.some.inj own)

theorem title_eq_listeningTitle {a : Alert} {port : Nat} :
    a.title = listeningTitle port ↔ ∃ ip, a = .listening port ip := by
  cases a with
  | listening localPort ip =>
      constructor
      · intro same
        obtain rfl := listeningTitle_injective same
        exact ⟨ip, rfl⟩
      · rintro ⟨_, ⟨⟩⟩
        rfl
  | spike current average => exact iff_of_false (ne_listeningTitle rfl (by decide) _ port) (by simp)
  | portScan n => exact iff_of_false (ne_listeningTitle rfl (by decide) _ port) (by simp)
  | burst n => exact iff_of_false (ne_listeningTitle rfl (by decide) _ port) (by simp)

theorem analyze_alerts (s : Scan) (c : Connection) : (analyze s c).alerts = s.alerts ++ match c.raddr with
    | none => []
    | some raddr => if c.status = "ESTABLISHED" ∧ c.localPort ∈ suspiciousPorts
        then [.listening c.localPort raddr.ip] else [] := by
  unfold analyze
  cases c.raddr with
  | none => simp
  | some raddr =>
      by_cases established : c.status = "ESTABLISHED" <;> by_cases suspicious : c.localPort ∈ suspiciousPorts <;>
        simp [established, suspicious]

theorem analyze_listening (s : Scan) (c : Connection) (port : Nat) (ip : String) :
    .listening port ip ∈ (analyze s c).alerts ↔ .listening port ip ∈ s.alerts ∨
      port ∈ suspiciousPorts ∧ c.status = "ESTABLISHED" ∧ c.localPort = port ∧ c.raddr.map Address.ip = some ip := by
  rw [analyze_alerts, List.mem_append]
  apply or_congr_right
  cases c.raddr with
  | none => simp
  | some raddr =>
      dsimp only
      split_ifs with examined
      · rw [List.mem_singleton, Alert.listening.injEq, Option.map_some, Option.some.injEq]
        constructor
        · rintro ⟨rfl, rfl⟩
          exact ⟨examined.2, examined.1, rfl, rfl⟩
        · rintro ⟨-, -, rfl, rfl⟩
          exact ⟨rfl, rfl⟩
      · refine iff_of_false List.not_mem_nil ?_
        rintro ⟨suspicious, established, rfl, -⟩
        exact examined ⟨established, suspicious⟩

theorem foldl_analyze_listening (connections : List Connection) (s : Scan) (port : Nat) (ip : String) :
    .listening port ip ∈ (connections.foldl analyze s).alerts ↔ .listening port ip ∈ s.alerts ∨
      ∃ c ∈ connections, port ∈ suspiciousPorts ∧ c.status = "ESTABLISHED" ∧ c.localPort = port ∧
        c.raddr.map Address.ip = some ip := by
  induction connections generalizing s with
  | nil => simp
  | cons c connections ih => rw [List.foldl_cons, ih, analyze_listening, List.exists_mem_cons_iff, or_assoc]

theorem detectAnomalies_listening (m : Monitor) (connections : List Connection) (port : Nat) (ip : String) :
    .listening port ip ∈ (detectAnomalies m (some connections)).2 ↔
      ∃ c ∈ connections, port ∈ suspiciousPorts ∧ c.status = "ESTABLISHED" ∧ c.localPort = port ∧
        c.raddr.map Address.ip = some ip := by
  have spike : .listening port ip ∉
      spikeAlerts (remember m.connectionHistory connections.length) connections.length := by
    unfold spikeAlerts
    dsimp only
    split_ifs <;> simp
  have others (p : Prop) [Decidable p] (a : Alert) (other : a ≠ .listening port ip) :
      .listening port ip ∉ if p then [a] else [] := by
    split_ifs
    · exact fun member => other (List.mem_singleton.mp member).symm
    · exact List.not_mem_nil
  unfold detectAnomalies
  simp only [List.mem_append, others _ (.portScan _) (by simp), others _ (.burst _) (by simp), or_false]
  rw [foldl_analyze_listening]
  exact or_iff_right spike

theorem titles_reportsEstablished (m : Monitor) : ReportsEstablished pythonSockets (titles m) := by
  intro connections port
  have listed : listeningTitle port ∈ titles m connections ↔
      ∃ ip, .listening port ip ∈ (detectAnomalies m (some connections)).2 := by
    simp only [titles, List.mem_map, title_eq_listeningTitle]
    constructor
    · rintro ⟨_, member, ip, rfl⟩
      exact ⟨ip, member⟩
    · rintro ⟨ip, member⟩
      exact ⟨_, member, ip, rfl⟩
  rw [listed]
  simp only [detectAnomalies_listening]
  constructor
  · rintro ⟨ip, c, member, suspicious, established, here, remote⟩
    refine ⟨suspicious, c, member, ⟨established, ?_⟩, here⟩
    exact Option.isSome_map.symm.trans (Option.isSome_of_eq_some remote)
  · rintro ⟨suspicious, c, member, ⟨established, remote⟩, here⟩
    obtain ⟨raddr, connected⟩ := Option.isSome_iff_exists.mp remote
    exact ⟨raddr.ip, c, member, suspicious, established, here, congrArg (Option.map Address.ip) connected⟩

end GuardianPi.Agent.NetworkMonitor
