import GuardianPi.EdgeAgent.Detector

namespace GuardianPi.EdgeAgent
open GuardianPi.Library

def suspiciousProcesses : List (String × String) := [
  ("mimikatz", "Credential dumping tool"),
  ("hydra", "Brute-force attack tool"),
  ("nmap", "Network reconnaissance scanner"),
  ("netcat", "Network utility (potential backdoor)"),
  ("nc", "Netcat variant"),
  ("john", "Password cracking tool"),
  ("hashcat", "GPU password cracker"),
  ("meterpreter", "Metasploit payload"),
  ("cobalt", "C2 framework indicator"),
  ("empire", "Post-exploitation framework"),
  ("lazagne", "Credential recovery tool"),
  ("responder", "LLMNR/NBT-NS poisoner"),
  ("crackmapexec", "Network exploitation tool"),
  ("bloodhound", "AD enumeration tool"),
  ("rubeus", "Kerberos attack tool"),
  ("powershell -enc", "Encoded PowerShell (potential obfuscation)")]

/-- The order in which one `range` over the map goes through it. -/
abbrev RangeOrder := { order : List (String × String) // order.Perm suspiciousProcesses }

def isSuspiciousProcess (letters : Letters) (order : RangeOrder) (name : String) : Bool × String :=
  let lower := letters.lower name
  match order.val.find? fun entry => stringsContains lower entry.1 with
  | some entry => (true, entry.2)
  | none => (false, "")

/-- As many characters as fit, and a replacement character for each byte of one that is cut. -/
def takeBytes : Nat → List Char → List Char
  | _, [] => []
  | n, c :: cs => if c.utf8Size ≤ n then c :: takeBytes (n - c.utf8Size) cs
      else List.replicate n '\uFFFD'

def truncate (s : String) (maxLen : Nat) : String :=
  if s.utf8ByteSize ≤ maxLen then s else String.ofList (takeBytes maxLen s.toList) ++ "..."

structure Percent where
  above80 : Bool
  text : String
  number : Literal

/-- A process as one scan of the monitor finds it. The three readings of the clock are for the three
events it may cause. -/
structure MonitoredProcess where
  pid : Int32
  name : Option String
  order : RangeOrder
  username : String
  cmdline : String
  connections : Option Nat
  cpu : Percent
  suspiciousAt : Int
  newAt : Int
  cpuAt : Int

def processAlert (severity title : String) (details : List (String × GoValue)) (now : Int) : Event where
  eventType := "process_alert"
  severity := severity
  title := title
  details := some details
  timestamp := formatRFC3339 now

def suspiciousAlert (p : MonitoredProcess) (name desc : String) : Event :=
  processAlert "high" ("Suspicious process: " ++ name)
    [("cmdline", .str (truncate p.cmdline 500)), ("description", .str desc), ("name", .str name),
      ("pid", .num (some (Literal.ofInt p.pid.toInt))), ("username", .str p.username)]
    p.suspiciousAt

def newProcessAlert (p : MonitoredProcess) (name : String) (count : Nat) : Event :=
  processAlert "medium" ("New process with " ++ toString count ++ " connections: " ++ name)
    [("connection_count", .num (some (Literal.ofInt count))), ("name", .str name),
      ("pid", .num (some (Literal.ofInt p.pid.toInt)))]
    p.newAt

def highCpuAlert (p : MonitoredProcess) (name : String) : Event :=
  processAlert "medium" ("High CPU process: " ++ name ++ " (" ++ p.cpu.text ++ "%)")
    [("cpu_percent", .num (some p.cpu.number)), ("name", .str name),
      ("pid", .num (some (Literal.ofInt p.pid.toInt)))]
    p.cpuAt

structure Watchlist where
  knownPIDs : List Int32
  sent : List Event

def Watchlist.send (s : Watchlist) (e : Event) : Watchlist := { s with sent := s.sent ++ [e] }

def checkName (letters : Letters) (p : MonitoredProcess) (name : String) (s : Watchlist) :
    Watchlist :=
  let (isSusp, desc) := isSuspiciousProcess letters p.order name
  if isSusp then s.send (suspiciousAlert p name desc) else s

def checkConnections (p : MonitoredProcess) (name : String) (s : Watchlist) : Watchlist :=
  if p.pid ∈ s.knownPIDs then s
  else
    let s := { s with knownPIDs := p.pid :: s.knownPIDs }
    let conns := p.connections.getD 0
    if 20 < conns then s.send (newProcessAlert p name conns) else s

def checkCpu (p : MonitoredProcess) (name : String) (s : Watchlist) : Watchlist :=
  if p.cpu.above80 then s.send (highCpuAlert p name) else s

def checkProcess (letters : Letters) (s : Watchlist) (p : MonitoredProcess) : Watchlist :=
  match p.name with
  | none => s
  | some name => checkCpu p name (checkConnections p name (checkName letters p name s))

def monitorFrom (letters : Letters) (known : List Int32) :
    List (Option (List MonitoredProcess)) → List (List Event)
  | [] => []
  | none :: ticks => [] :: monitorFrom letters known ticks
  | some procs :: ticks =>
      let s := procs.foldl (checkProcess letters) ⟨known, []⟩
      s.sent :: monitorFrom letters s.knownPIDs ticks

def runProcessMonitor (letters : Letters) (ticks : List (Option (List MonitoredProcess))) :
    List (List Event) := monitorFrom letters [] ticks

/-! ## Lifetimes -/

/-- What one scan lists: each process with the lifetime of its id that it belongs to. -/
structure Listing {α : Type} (pid : α → Int32) where
  found : List (α × Nat)
  distinct : (found.map fun s => pid s.1).Nodup

section
variable {α : Type} {pid : α → Int32}

def Listing.processes (l : Listing pid) : List α := l.found.map Prod.fst

def scans (ticks : List (Option (Listing pid))) : List (Option (List α)) :=
  ticks.map fun tick => tick.map Listing.processes

def Lists (tick : Option (Listing pid)) (id : Int32) (life : Nat) (P : α → Prop) : Prop :=
  ∃ l ∈ tick, ∃ p, (p, life) ∈ l.found ∧ pid p = id ∧ P p

theorem life_unique {l : Listing pid} {p p' : α} {life life' : Nat} (h : (p, life) ∈ l.found)
    (h' : (p', life') ∈ l.found) (same : pid p = pid p') : p = p' ∧ life = life' := by
  have equal := List.inj_on_of_nodup_map l.distinct h h' same
  exact ⟨congrArg Prod.fst equal, congrArg Prod.snd equal⟩

end

def EveryInstanceDetected (table : RuleTable) (ticks : List (Option (Listing Process.pid))) : Prop :=
  ∀ rule ∈ table.rules, ∀ pid life,
    (∃ tick ∈ ticks, Lists tick pid life fun p => rule.matcher (p.matching rule.id) = true) →
    ∃ (i : Nat) (tick : Option (Listing Process.pid)) (sent : List Event),
      ticks[i]? = some tick ∧ Lists tick pid life (fun _ => True) ∧
      (runDetectionEngine table.rules (scans ticks))[i]? = some sent ∧
      ∃ e ∈ sent, e.detects rule.id pid = true

/-- No rule matches two instances that have one key: instances of the same id, or of ids that are
both replaced. -/
def KeysApart (table : RuleTable) (ticks : List (Option (Listing Process.pid))) : Prop :=
  ∀ rule ∈ table.rules, ∀ pid life pid' life',
    (∃ tick ∈ ticks, Lists tick pid life fun p => rule.matcher (p.matching rule.id) = true) →
    (∃ tick ∈ ticks, Lists tick pid' life' fun p => rule.matcher (p.matching rule.id) = true) →
    (pid = pid' ∨ Replaced pid ∧ Replaced pid') → pid = pid' ∧ life = life'

def MonitoredProcess.busy (p : MonitoredProcess) : Bool := 20 < p.connections.getD 0

def Event.isNewProcessAlert (e : Event) (pid : Int32) : Bool :=
  match e.details with
  | none => false
  | some fields =>
      e.eventType = "process_alert" && (Json.lookup "connection_count" fields).isSome &&
        match Json.lookup "pid" fields with
        | some (.num (some n)) => n.text = (Literal.ofInt pid.toInt).text
        | _ => false

def EveryBusyInstanceReported (letters : Letters)
    (ticks : List (Option (Listing MonitoredProcess.pid))) : Prop :=
  ∀ pid life i, (∃ tick ∈ ticks[i]?, Lists tick pid life fun p => p.busy = true) →
    (∀ tick ∈ ticks.take i, ¬ Lists tick pid life fun _ => True) →
    ∃ (j : Nat) (tick : Option (Listing MonitoredProcess.pid)) (sent : List Event),
      ticks[j]? = some tick ∧ Lists tick pid life (fun _ => True) ∧
      (runProcessMonitor letters (scans ticks))[j]? = some sent ∧
      ∃ e ∈ sent, e.isNewProcessAlert pid = true

def NamedFirst (ticks : List (Option (Listing MonitoredProcess.pid))) (pid : Int32) (life : Nat) :
    Prop :=
  ∃ j, (∃ tick ∈ ticks[j]?, Lists tick pid life fun p => p.name.isSome = true ∧ p.busy = true) ∧
    ∀ tick ∈ ticks.take j, ∀ life', ¬ Lists tick pid life' fun p => p.name.isSome = true

def BusyNamedFirst (ticks : List (Option (Listing MonitoredProcess.pid))) : Prop :=
  ∀ pid life i, (∃ tick ∈ ticks[i]?, Lists tick pid life fun p => p.busy = true) →
    (∀ tick ∈ ticks.take i, ¬ Lists tick pid life fun _ => True) → NamedFirst ticks pid life

/-! ## The detection engine -/

def labelledHits (rules : List DetectionRule) (tick : Option (Listing Process.pid)) :
    List (Hit × Nat) :=
  match tick with
  | none => []
  | some l => l.found.flatMap fun s => (processHits rules s.1).map fun h => (h, s.2)

theorem map_labelledHits (rules : List DetectionRule) (tick : Option (Listing Process.pid)) :
    (labelledHits rules tick).map Prod.fst = hits rules (tick.map Listing.processes) := by
  cases tick with
  | none => rfl
  | some l =>
      have each : ∀ s : Process × Nat,
          ((processHits rules s.1).map fun h => (h, s.2)).map Prod.fst = processHits rules s.1 := by
        intro s
        rw [List.map_map]
        exact List.map_id _
      simp only [labelledHits, List.map_flatMap, each]
      simp [hits, Listing.processes, List.flatMap_map]

theorem mem_labelledHits {rules : List DetectionRule} {tick : Option (Listing Process.pid)}
    {h : Hit} {life : Nat} :
    (h, life) ∈ labelledHits rules tick ↔
      ∃ l ∈ tick, (h.1, life) ∈ l.found ∧ h.2 ∈ rules ∧ h.2.matcher (h.1.matching h.2.id) = true := by
  cases tick with
  | none => simp [labelledHits]
  | some l =>
      constructor
      · intro member
        obtain ⟨⟨p, life'⟩, listed, member⟩ := List.mem_flatMap.mp member
        obtain ⟨h', member, equal⟩ := List.mem_map.mp member
        obtain ⟨rule, kept, rfl⟩ := List.mem_map.mp member
        obtain ⟨rfl, rfl⟩ := Prod.mk.inj equal
        obtain ⟨ruled, matched⟩ := List.mem_filter.mp kept
        exact ⟨l, rfl, listed, ruled, matched⟩
      · intro ⟨l', same, listed, ruled, matched⟩
        obtain rfl := Option.some.inj same
        apply List.mem_flatMap.mpr
        refine ⟨_, listed, List.mem_map.mpr ⟨h, List.mem_map.mpr ⟨h.2, ?_, rfl⟩, rfl⟩⟩
        exact List.mem_filter.mpr ⟨ruled, matched⟩

theorem runDetectionEngine_scans (rules : List DetectionRule)
    (ticks : List (Option (Listing Process.pid))) :
    runDetectionEngine rules (scans ticks) =
      (FirstSeen.rounds (fun x : Hit × Nat => x.1.key) [] (ticks.map (labelledHits rules))).map
        (List.map fun x => x.1.event) := by
  have groups : (scans ticks).map (hits rules) =
      (ticks.map (labelledHits rules)).map (List.map Prod.fst) := by
    rw [scans, List.map_map, List.map_map]
    exact List.map_congr_left fun tick _ => (map_labelledHits rules tick).symm
  rw [runDetectionEngine, engineFrom_eq, groups, FirstSeen.rounds_map, List.map_map]
  apply List.map_congr_left
  intro bs _
  exact List.map_map

section
variable {table : RuleTable} {ticks : List (Option (Listing Process.pid))}

theorem matched_of_hit {x : Hit × Nat} {as : List (Hit × Nat)}
    (group : as ∈ ticks.map (labelledHits table.rules)) (member : x ∈ as) :
    x.1.2 ∈ table.rules ∧ ∃ tick ∈ ticks, Lists tick x.1.1.pid x.2 fun p =>
      x.1.2.matcher (p.matching x.1.2.id) = true := by
  obtain ⟨tick, listed, rfl⟩ := List.mem_map.mp group
  obtain ⟨l, here, found, ruled, matched⟩ := mem_labelledHits.mp member
  exact ⟨ruled, tick, listed, l, here, x.1.1, found, rfl, matched⟩

theorem hit_of_matched {rule : DetectionRule} (ruled : rule ∈ table.rules) {pid : Int32} {life : Nat}
    (h : ∃ tick ∈ ticks, Lists tick pid life fun p => rule.matcher (p.matching rule.id) = true) :
    ∃ as ∈ ticks.map (labelledHits table.rules), ∃ x ∈ as,
      x.1.2 = rule ∧ x.1.1.pid = pid ∧ x.2 = life := by
  obtain ⟨tick, listed, l, here, p, found, same, matched⟩ := h
  refine ⟨_, List.mem_map_of_mem listed, ((p, rule), life), ?_, rfl, same, rfl⟩
  exact mem_labelledHits.mpr ⟨l, here, found, ruled, matched⟩

def hitLabel (x : Hit × Nat) : String × Int32 × Nat := (x.1.2.id, x.1.1.pid, x.2)

theorem hitLabel_eq {x y : Hit × Nat} :
    hitLabel x = hitLabel y ↔ x.1.2.id = y.1.2.id ∧ x.1.1.pid = y.1.1.pid ∧ x.2 = y.2 := by
  simp [hitLabel]

theorem everyInstanceDetected_iff_labels :
    EveryInstanceDetected table ticks ↔
      ∀ as ∈ ticks.map (labelledHits table.rules), ∀ a ∈ as,
        ∃ bs ∈ FirstSeen.rounds (fun x : Hit × Nat => x.1.key) []
          (ticks.map (labelledHits table.rules)), ∃ b ∈ bs, hitLabel b = hitLabel a := by
  constructor
  · intro detected as group a member
    obtain ⟨ruled, matched⟩ := matched_of_hit group member
    obtain ⟨i, tick, sent, there, ⟨l, here, p, found, same, -⟩, round, e, mem_sent, detects⟩ :=
      detected a.1.2 ruled a.1.1.pid a.2 matched
    rw [runDetectionEngine_scans, List.getElem?_map, Option.map_eq_some_iff] at round
    obtain ⟨bs, round, rfl⟩ := round
    obtain ⟨b, reported, rfl⟩ := List.mem_map.mp mem_sent
    obtain ⟨ids, pids⟩ := (detects_event b.1 _ _).mp detects
    refine ⟨bs, List.mem_of_getElem? round, b, reported, hitLabel_eq.mpr ⟨ids, pids, ?_⟩⟩
    obtain ⟨as', at_i, listed⟩ := FirstSeen.mem_of_mem_rounds round reported
    rw [List.getElem?_map, there, Option.map_some] at at_i
    obtain rfl := Option.some.inj at_i
    obtain ⟨l', here', found', -, -⟩ := mem_labelledHits.mp listed
    obtain rfl := Option.mem_unique here here'
    exact (life_unique found' found (pids.trans same.symm)).2
  · intro labels rule ruled pid life matched
    obtain ⟨as, group, a, member, rfl, rfl, rfl⟩ := hit_of_matched ruled matched
    obtain ⟨bs, round, b, reported, same⟩ := labels as group a member
    obtain ⟨ids, pids, lives⟩ := hitLabel_eq.mp same
    obtain ⟨i, round⟩ := List.mem_iff_getElem?.mp round
    obtain ⟨as', at_i, listed⟩ := FirstSeen.mem_of_mem_rounds round reported
    rw [List.getElem?_map, Option.map_eq_some_iff] at at_i
    obtain ⟨tick, there, rfl⟩ := at_i
    obtain ⟨l, here, found, -, -⟩ := mem_labelledHits.mp listed
    refine ⟨i, tick, bs.map fun x => x.1.event, there, ?_, ?_, b.1.event, ?_, ?_⟩
    · exact ⟨l, here, b.1.1, by rw [← lives]; exact found, pids, trivial⟩
    · rw [runDetectionEngine_scans, List.getElem?_map, round, Option.map_some]
    · exact List.mem_map_of_mem reported
    · exact (detects_event b.1 _ _).mpr ⟨ids, pids⟩

theorem keysApart_iff_labels :
    KeysApart table ticks ↔
      ∀ as ∈ ticks.map (labelledHits table.rules), ∀ a ∈ as,
        ∀ as' ∈ ticks.map (labelledHits table.rules), ∀ a' ∈ as',
          a.1.key = a'.1.key → hitLabel a = hitLabel a' := by
  constructor
  · intro apart as group a member as' group' a' member' same
    obtain ⟨ruled, matched⟩ := matched_of_hit group member
    obtain ⟨ruled', matched'⟩ := matched_of_hit group' member'
    obtain ⟨ids, pids⟩ := alertKey_eq_iff.mp same
    have rules : a.1.2 = a'.1.2 := rule_of_id ruled ruled' ids
    rw [← rules] at matched'
    exact hitLabel_eq.mpr ⟨ids, apart _ ruled _ _ _ _ matched matched' pids⟩
  · intro labels rule ruled pid life pid' life' matched matched' same
    obtain ⟨as, group, a, member, rfl, rfl, rfl⟩ := hit_of_matched ruled matched
    obtain ⟨as', group', a', member', rules, rfl, rfl⟩ := hit_of_matched ruled matched'
    have keys : a.1.key = a'.1.key :=
      alertKey_eq_iff.mpr ⟨congrArg DetectionRule.id rules.symm, same⟩
    exact (hitLabel_eq.mp (labels as group a member as' group' a' member' keys)).2

theorem everyInstanceDetected_iff : EveryInstanceDetected table ticks ↔ KeysApart table ticks := by
  rw [everyInstanceDetected_iff_labels, keysApart_iff_labels]
  apply FirstSeen.rounds_label_iff
  intro a b same
  obtain ⟨ids, pids, -⟩ := hitLabel_eq.mp same
  exact alertKey_eq_iff.mpr ⟨ids, Or.inl pids⟩

end

/-! ## The process monitor -/

def named (procs : List MonitoredProcess) : List MonitoredProcess :=
  procs.filter fun p => p.name.isSome

def MonitoredProcess.startsBusy (id : Int32) (p : MonitoredProcess) : Bool := p.busy && p.pid = id

section
variable {letters : Letters}

theorem isNewProcessAlert_newProcessAlert (p : MonitoredProcess) (name : String) (count : Nat)
    (id : Int32) : (newProcessAlert p name count).isNewProcessAlert id = decide (p.pid = id) := by
  simp [Event.isNewProcessAlert, newProcessAlert, processAlert, Json.lookup, literal_text_eq_iff]

theorem isNewProcessAlert_suspiciousAlert (p : MonitoredProcess) (name desc : String) (id : Int32) :
    (suspiciousAlert p name desc).isNewProcessAlert id = false := by
  simp [Event.isNewProcessAlert, suspiciousAlert, processAlert, Json.lookup]

theorem isNewProcessAlert_highCpuAlert (p : MonitoredProcess) (name : String) (id : Int32) :
    (highCpuAlert p name).isNewProcessAlert id = false := by
  simp [Event.isNewProcessAlert, highCpuAlert, processAlert, Json.lookup]

def Watchlist.reports (s : Watchlist) (id : Int32) : Bool := s.sent.any (·.isNewProcessAlert id)

theorem reports_send (s : Watchlist) (e : Event) (id : Int32) :
    (s.send e).reports id = (s.reports id || e.isNewProcessAlert id) := by
  simp [Watchlist.reports, Watchlist.send]

theorem checkName_spec (p : MonitoredProcess) (name : String) (s : Watchlist) :
    (checkName letters p name s).knownPIDs = s.knownPIDs ∧
      ∀ id, (checkName letters p name s).reports id = s.reports id := by
  unfold checkName
  obtain ⟨isSusp, desc⟩ := isSuspiciousProcess letters p.order name
  by_cases susp : isSusp = true
  · rw [susp]
    refine ⟨rfl, fun id => ?_⟩
    change (s.send _).reports id = _
    rw [reports_send, isNewProcessAlert_suspiciousAlert, Bool.or_false]
  · rw [Bool.eq_false_iff.mpr susp]
    exact ⟨rfl, fun _ => rfl⟩

theorem checkConnections_spec (p : MonitoredProcess) (name : String) (s : Watchlist) :
    (checkConnections p name s).knownPIDs = FirstSeen.mark MonitoredProcess.pid s.knownPIDs [p] ∧
      ∀ id, (checkConnections p name s).reports id = (s.reports id ||
        (FirstSeen.fresh MonitoredProcess.pid s.knownPIDs [p]).any (·.startsBusy id)) := by
  unfold checkConnections
  by_cases known : p.pid ∈ s.knownPIDs
  · simp [known, FirstSeen.mark, FirstSeen.fresh]
  · have id_reports : ∀ known, ({ s with knownPIDs := known } : Watchlist).reports = s.reports :=
      fun _ => rfl
    by_cases busy : 20 < p.connections.getD 0
    · refine ⟨by simp [known, busy, FirstSeen.mark, Watchlist.send], fun id => ?_⟩
      rw [if_neg known, if_pos busy, reports_send, isNewProcessAlert_newProcessAlert, id_reports]
      simp [known, busy, FirstSeen.fresh, MonitoredProcess.startsBusy, MonitoredProcess.busy]
    · refine ⟨by simp [known, busy, FirstSeen.mark], fun id => ?_⟩
      rw [if_neg known, if_neg busy, id_reports]
      simp [known, busy, FirstSeen.fresh, MonitoredProcess.startsBusy, MonitoredProcess.busy]

theorem checkCpu_spec (p : MonitoredProcess) (name : String) (s : Watchlist) :
    (checkCpu p name s).knownPIDs = s.knownPIDs ∧
      ∀ id, (checkCpu p name s).reports id = s.reports id := by
  unfold checkCpu
  split_ifs
  · refine ⟨rfl, fun id => ?_⟩
    rw [reports_send, isNewProcessAlert_highCpuAlert, Bool.or_false]
  · exact ⟨rfl, fun _ => rfl⟩

theorem checkProcess_spec (p : MonitoredProcess) (s : Watchlist) :
    (checkProcess letters s p).knownPIDs =
        FirstSeen.mark MonitoredProcess.pid s.knownPIDs (named [p]) ∧
      ∀ id, (checkProcess letters s p).reports id = (s.reports id ||
        (FirstSeen.fresh MonitoredProcess.pid s.knownPIDs (named [p])).any (·.startsBusy id)) := by
  cases name : p.name with
  | none => simp [checkProcess, named, name, FirstSeen.mark, FirstSeen.fresh]
  | some text =>
      have only : named [p] = [p] := by simp [named, name]
      obtain ⟨known, reports⟩ := @checkName_spec letters p text s
      obtain ⟨known', reports'⟩ := checkConnections_spec p text (checkName letters p text s)
      obtain ⟨known'', reports''⟩ := checkCpu_spec p text
        (checkConnections p text (checkName letters p text s))
      simp only [checkProcess, name, only]
      constructor
      · rw [known'', known', known]
      · intro id
        rw [reports'', reports', reports, known]

theorem foldl_checkProcess_spec (procs : List MonitoredProcess) (s : Watchlist) :
    (procs.foldl (checkProcess letters) s).knownPIDs =
        FirstSeen.mark MonitoredProcess.pid s.knownPIDs (named procs) ∧
      ∀ id, (procs.foldl (checkProcess letters) s).reports id = (s.reports id ||
        (FirstSeen.fresh MonitoredProcess.pid s.knownPIDs (named procs)).any (·.startsBusy id)) := by
  induction procs generalizing s with
  | nil => simp [named, FirstSeen.mark, FirstSeen.fresh]
  | cons p procs ih =>
      obtain ⟨known, reports⟩ := @checkProcess_spec letters p s
      obtain ⟨known', reports'⟩ := ih (checkProcess letters s p)
      have parts : named (p :: procs) = named [p] ++ named procs := List.filter_append [p] procs
      rw [List.foldl_cons, parts, FirstSeen.mark_append, FirstSeen.fresh_append]
      constructor
      · rw [known', known]
      · intro id
        rw [reports', reports, known, List.any_append, Bool.or_assoc]

theorem monitorFrom_reports (known : List Int32) (ticks : List (Option (List MonitoredProcess)))
    (id : Int32) :
    (monitorFrom letters known ticks).map (fun sent => sent.any (·.isNewProcessAlert id)) =
      (FirstSeen.rounds MonitoredProcess.pid known (ticks.map fun tick => named (tick.getD []))).map
        fun procs => procs.any (·.startsBusy id) := by
  induction ticks generalizing known with
  | nil => rfl
  | cons tick ticks ih =>
      cases tick with
      | none =>
          rw [monitorFrom, List.map_cons, ih]
          rfl
      | some procs =>
          obtain ⟨marked, reports⟩ := @foldl_checkProcess_spec letters procs ⟨known, []⟩
          rw [monitorFrom, List.map_cons, ih, marked]
          exact congrArg (· :: _) (reports id)

def namedSightings (tick : Option (Listing MonitoredProcess.pid)) : List (MonitoredProcess × Nat) :=
  match tick with
  | none => []
  | some l => l.found.filter fun s => s.1.name.isSome

theorem mem_namedSightings {tick : Option (Listing MonitoredProcess.pid)} {p : MonitoredProcess}
    {life : Nat} :
    (p, life) ∈ namedSightings tick ↔ ∃ l ∈ tick, (p, life) ∈ l.found ∧ p.name.isSome = true := by
  cases tick with
  | none => simp [namedSightings]
  | some l => simp [namedSightings]

theorem lists_iff_mem_namedSightings {tick : Option (Listing MonitoredProcess.pid)} {id : Int32}
    {life : Nat} {P : MonitoredProcess → Prop} :
    Lists tick id life (fun p => p.name.isSome = true ∧ P p) ↔
      ∃ p, (p, life) ∈ namedSightings tick ∧ p.pid = id ∧ P p := by
  constructor
  · intro ⟨l, here, p, found, same, named, holds⟩
    exact ⟨p, mem_namedSightings.mpr ⟨l, here, found, named⟩, same, holds⟩
  · intro ⟨p, member, same, holds⟩
    obtain ⟨l, here, found, named⟩ := mem_namedSightings.mp member
    exact ⟨l, here, p, found, same, named, holds⟩

theorem runProcessMonitor_scans (ticks : List (Option (Listing MonitoredProcess.pid))) (id : Int32) :
    (runProcessMonitor letters (scans ticks)).map (fun sent => sent.any (·.isNewProcessAlert id)) =
      (FirstSeen.rounds (fun s : MonitoredProcess × Nat => s.1.pid) []
        (ticks.map namedSightings)).map fun found => found.any fun s => s.1.startsBusy id := by
  have groups : (scans ticks).map (fun tick => named (tick.getD [])) =
      (ticks.map namedSightings).map (List.map Prod.fst) := by
    rw [scans, List.map_map, List.map_map]
    apply List.map_congr_left
    intro tick _
    cases tick with
    | none => rfl
    | some l => exact List.filter_map
  rw [runProcessMonitor, monitorFrom_reports, groups, FirstSeen.rounds_map, List.map_map]
  apply List.map_congr_left
  intro found _
  exact List.any_map

theorem forall_mem_take {α : Type} {xs : List α} {n : Nat} {P : α → Prop} :
    (∀ x ∈ xs.take n, P x) ↔ ∀ k < n, ∀ x, xs[k]? = some x → P x := by
  constructor
  · intro all k less x here
    apply all x
    apply List.mem_of_getElem? (i := k)
    rw [List.getElem?_take_of_lt less, here]
  · intro all x member
    obtain ⟨k, bound, rfl⟩ := List.mem_take_iff_getElem.mp member
    exact all k (by omega) _ (List.getElem?_eq_getElem (by omega))

variable {ticks : List (Option (Listing MonitoredProcess.pid))}

theorem namedFirst_iff_round {pid : Int32} {life : Nat} :
    NamedFirst ticks pid life ↔ ∃ (j : Nat) (found : List (MonitoredProcess × Nat)),
      (FirstSeen.rounds (fun s : MonitoredProcess × Nat => s.1.pid) []
        (ticks.map namedSightings))[j]? = some found ∧
      ∃ s ∈ found, s.1.pid = pid ∧ s.1.busy = true ∧ s.2 = life := by
  constructor
  · intro ⟨j, ⟨tick, there, lists⟩, new⟩
    obtain ⟨p, listed, rfl, busy⟩ := lists_iff_mem_namedSightings.mp lists
    have length : j < (FirstSeen.rounds (fun s : MonitoredProcess × Nat => s.1.pid) []
        (ticks.map namedSightings)).length := by
      rw [FirstSeen.length_rounds, List.length_map]
      exact (List.getElem?_eq_some_iff.mp there).1
    have round := List.getElem?_eq_getElem length
    have group : (ticks.map namedSightings)[j]? = some (namedSightings tick) := by
      rw [List.getElem?_map, Option.mem_def.mp there, Option.map_some]
    obtain ⟨s, reported, same⟩ := (FirstSeen.exists_mem_rounds_iff round p.pid).mpr
      ⟨⟨_, group, (p, life), listed, rfl⟩, by
        intro k less earlier at_k s member same
        rw [List.getElem?_map, Option.map_eq_some_iff] at at_k
        obtain ⟨tick', there', rfl⟩ := at_k
        apply forall_mem_take.mp new k less tick' there' s.2
        obtain ⟨l, here, found, named⟩ := mem_namedSightings.mp member
        exact ⟨l, here, s.1, found, same, named⟩⟩
    refine ⟨j, _, round, s, reported, same, ?_⟩
    obtain ⟨as, at_j, member⟩ := FirstSeen.mem_of_mem_rounds round reported
    obtain rfl := Option.some.inj (group.symm.trans at_j)
    obtain ⟨l, here, found, -⟩ := mem_namedSightings.mp member
    obtain ⟨l', here', found', -⟩ := mem_namedSightings.mp listed
    obtain rfl := Option.mem_unique here here'
    obtain ⟨process, lives⟩ := life_unique found found' same
    exact ⟨by rw [process]; exact busy, lives⟩
  · rintro ⟨j, found, round, s, reported, rfl, busy, rfl⟩
    obtain ⟨⟨as, at_j, -⟩, new⟩ :=
      (FirstSeen.exists_mem_rounds_iff round s.1.pid).mp ⟨s, reported, rfl⟩
    obtain ⟨as', at_j', member⟩ := FirstSeen.mem_of_mem_rounds round reported
    obtain rfl := Option.some.inj (at_j.symm.trans at_j')
    rw [List.getElem?_map, Option.map_eq_some_iff] at at_j
    obtain ⟨tick, there, rfl⟩ := at_j
    refine ⟨j, ⟨tick, there, lists_iff_mem_namedSightings.mpr ⟨s.1, member, rfl, busy⟩⟩, ?_⟩
    rw [forall_mem_take]
    intro k less tick' there' life' ⟨l, here, p, listed, same, named⟩
    have group : (ticks.map namedSightings)[k]? = some (namedSightings tick') := by
      rw [List.getElem?_map, there', Option.map_some]
    exact new k less _ group (p, life') (mem_namedSightings.mpr ⟨l, here, listed, named⟩) same

theorem reported_iff_namedFirst {pid : Int32} {life : Nat} :
    (∃ (j : Nat) (tick : Option (Listing MonitoredProcess.pid)) (sent : List Event),
      ticks[j]? = some tick ∧ Lists tick pid life (fun _ => True) ∧
      (runProcessMonitor letters (scans ticks))[j]? = some sent ∧
      ∃ e ∈ sent, e.isNewProcessAlert pid = true) ↔ NamedFirst ticks pid life := by
  have rounds (j : Nat) := congrArg (·[j]?) (@runProcessMonitor_scans letters ticks pid)
  simp only [List.getElem?_map] at rounds
  rw [namedFirst_iff_round]
  constructor
  · rintro ⟨j, tick, sent, there, ⟨l, here, p, listed, same, -⟩, at_j, alerted⟩
    have round := rounds j
    rw [at_j, Option.map_some, List.any_eq_true.mpr alerted, eq_comm, Option.map_eq_some_iff] at round
    obtain ⟨found, round, reports⟩ := round
    obtain ⟨s, reported, starts⟩ := List.any_eq_true.mp reports
    obtain ⟨busy, equal⟩ := Bool.and_eq_true_iff.mp starts
    have pids := of_decide_eq_true equal
    refine ⟨j, found, round, s, reported, pids, busy, ?_⟩
    obtain ⟨as, group, member⟩ := FirstSeen.mem_of_mem_rounds round reported
    rw [List.getElem?_map, there, Option.map_some] at group
    obtain rfl := Option.some.inj group
    obtain ⟨l', here', found', -⟩ := mem_namedSightings.mp member
    obtain rfl := Option.mem_unique here here'
    exact (life_unique found' listed (pids.trans same.symm)).2
  · rintro ⟨j, found, at_j, s, reported, rfl, busy, rfl⟩
    have round := rounds j
    have starts : (found.any fun q => q.1.startsBusy s.1.pid) = true := by
      apply List.any_eq_true.mpr
      exact ⟨s, reported, Bool.and_eq_true_iff.mpr ⟨busy, decide_eq_true rfl⟩⟩
    rw [at_j, Option.map_some, starts, Option.map_eq_some_iff] at round
    obtain ⟨sent, sent_at, alerted⟩ := round
    obtain ⟨as, group, member⟩ := FirstSeen.mem_of_mem_rounds at_j reported
    rw [List.getElem?_map, Option.map_eq_some_iff] at group
    obtain ⟨tick, there, rfl⟩ := group
    obtain ⟨l, here, listed, -⟩ := mem_namedSightings.mp member
    exact ⟨j, tick, sent, there, ⟨l, here, s.1, listed, rfl, trivial⟩, sent_at,
      List.any_eq_true.mp alerted⟩

theorem everyBusyInstanceReported_iff :
    EveryBusyInstanceReported letters ticks ↔ BusyNamedFirst ticks := by
  constructor
  · intro all pid life i busy first
    exact reported_iff_namedFirst.mp (all pid life i busy first)
  · intro all pid life i busy first
    exact reported_iff_namedFirst.mpr (all pid life i busy first)

end

theorem instances_reported_iff (letters : Letters) (table : RuleTable)
    (detection : List (Option (Listing Process.pid)))
    (monitoring : List (Option (Listing MonitoredProcess.pid))) :
    EveryInstanceDetected table detection ∧ EveryBusyInstanceReported letters monitoring ↔
      KeysApart table detection ∧ BusyNamedFirst monitoring :=
  and_congr everyInstanceDetected_iff everyBusyInstanceReported_iff

theorem reused_id_hides :
    let reading : Reading := ⟨"mimikatz", "root", "mimikatz", none, 0⟩
    let mimikatz (life : Nat) : Option (Listing Process.pid) :=
      some ⟨[(⟨7, fun _ => reading, fun _ => reading⟩, life)], List.nodup_singleton _⟩
    let connected (life count : Nat) : Option (Listing MonitoredProcess.pid) :=
      some ⟨[(⟨7, some "sh", ⟨suspiciousProcesses, List.Perm.refl _⟩, "root", "sh", some count,
        ⟨false, "0.0", Literal.ofInt 0⟩, 0, 0, 0⟩, life)], List.nodup_singleton _⟩
    ¬ EveryInstanceDetected (builtinTable Letters.ascii) [mimikatz 0, mimikatz 1] ∧
      ¬ EveryBusyInstanceReported Letters.ascii [connected 0 0, connected 1 21] := by
  intro reading mimikatz connected
  constructor
  · intro detected
    let rule := (builtinRules Letters.ascii).head (List.cons_ne_nil _ _)
    have matched : ∀ life, (mimikatz life) ∈ [mimikatz 0, mimikatz 1] →
        ∃ tick ∈ [mimikatz 0, mimikatz 1],
          Lists tick 7 life fun p => rule.matcher (p.matching rule.id) = true := by
      intro life listed
      refine ⟨_, listed, _, rfl, _, List.mem_singleton.mpr rfl, rfl, ?_⟩
      change rule.matcher reading = true
      decide +kernel
    have same := everyInstanceDetected_iff.mp detected rule (List.head_mem _) 7 0 7 1
      (matched 0 (by simp)) (matched 1 (by simp)) (Or.inl rfl)
    exact Nat.zero_ne_one same.2
  · intro reported
    have fresh : ∀ tick ∈ [connected 0 0, connected 1 21].take 1, ¬ Lists tick 7 1 fun _ => True := by
      intro tick member ⟨l, here, p, listed, _⟩
      obtain rfl := List.mem_singleton.mp member
      obtain rfl := Option.some.inj here
      exact Nat.one_ne_zero (congrArg Prod.snd (List.mem_singleton.mp listed))
    have busy : ∃ tick ∈ [connected 0 0, connected 1 21][1]?,
        Lists tick 7 1 fun p => p.busy = true :=
      ⟨_, rfl, _, rfl, _, List.mem_singleton.mpr rfl, rfl, rfl⟩
    have silent : ((runProcessMonitor Letters.ascii (scans [connected 0 0, connected 1 21])).all
        fun sent => !sent.any (·.isNewProcessAlert 7)) = true := by decide +kernel
    obtain ⟨j, tick, sent, -, -, at_j, e, member, alerted⟩ := reported 7 1 1 busy fresh
    have quiet := List.all_eq_true.mp silent sent (List.mem_of_getElem? at_j)
    rw [List.any_eq_true.mpr ⟨e, member, alerted⟩] at quiet
    exact absurd quiet Bool.false_ne_true

end GuardianPi.EdgeAgent
