import GuardianPi.EdgeAgent.Sender
import GuardianPi.Library.Decimal
import GuardianPi.Library.FirstSeen
import GuardianPi.Library.Regex
import Mathlib.Data.List.Infix

namespace GuardianPi.EdgeAgent
open GuardianPi.Library

structure Reading where
  name : String
  username : String
  cmdline : String
  parentName : Option String
  now : Int

structure DetectionRule where
  id : String
  name : String
  description : String
  severity : String
  category : String
  mitreTactic : String
  technique : String
  matcher : Reading → Bool

def stringsContains (s sub : String) : Bool := sub.toList <:+: s.toList

section
variable (letters : Letters)

def matchMimikatz (p : Reading) : Bool :=
  let lower := letters.lower (p.name ++ " " ++ p.cmdline)
  stringsContains lower "mimikatz" || stringsContains lower "sekurlsa" ||
    stringsContains lower "lsadump"

def matchReverseShell (p : Reading) : Bool :=
  let lower := letters.lower p.cmdline
  stringsContains lower "/dev/tcp/" || stringsContains lower "bash -i" ||
    (stringsContains lower "nc " && stringsContains lower "-e") ||
    (stringsContains lower "ncat" && stringsContains lower "--exec") ||
    (stringsContains lower "python" && stringsContains lower "socket" &&
      stringsContains lower "subprocess")

def matchCrontab (p : Reading) : Bool :=
  let lower := letters.lower p.cmdline
  stringsContains lower "crontab -e" || stringsContains lower "schtasks /create" ||
    stringsContains lower "at.exe"

def matchPowerShell (p : Reading) : Bool :=
  let lower := letters.lower p.cmdline
  stringsContains lower "powershell" &&
    (stringsContains lower "-enc" || stringsContains lower "-encodedcommand" ||
      stringsContains lower "frombase64")

def suspiciousParents : List String :=
  ["httpd", "nginx", "apache", "iis", "w3wp", "winword", "excel", "powerpnt", "outlook", "java",
    "node", "python"]

def matchChildProcess (p : Reading) : Bool :=
  if letters.lower p.name ∉ ["cmd.exe", "powershell.exe", "bash", "sh"] then false
  else
    match p.parentName with
    | none => false
    | some parentName =>
        let parentLower := letters.lower parentName
        suspiciousParents.any fun sp => stringsContains parentLower sp

def builtinRules : List DetectionRule := [
  { id := "GPI-001", name := "Mimikatz Detection"
    description := "Detects mimikatz credential dumping tool"
    severity := "critical", category := "credential_access"
    mitreTactic := "Credential Access", technique := "T1003"
    matcher := matchMimikatz letters },
  { id := "GPI-002", name := "Reverse Shell Detection"
    description := "Detects common reverse shell patterns"
    severity := "critical", category := "execution"
    mitreTactic := "Execution", technique := "T1059"
    matcher := matchReverseShell letters },
  { id := "GPI-003", name := "Hydra Brute Force"
    description := "Detects hydra brute-force attack tool"
    severity := "high", category := "credential_access"
    mitreTactic := "Credential Access", technique := "T1110"
    matcher := fun p => stringsContains (letters.lower p.name) "hydra" },
  { id := "GPI-004", name := "Suspicious Persistence (Crontab Edit)"
    description := "Detects processes modifying crontab or scheduled tasks"
    severity := "high", category := "persistence"
    mitreTactic := "Persistence", technique := "T1053"
    matcher := matchCrontab letters },
  { id := "GPI-005", name := "Encoded PowerShell Execution"
    description := "Detects base64-encoded PowerShell commands (obfuscation)"
    severity := "high", category := "execution"
    mitreTactic := "Defense Evasion", technique := "T1027"
    matcher := matchPowerShell letters },
  { id := "GPI-006", name := "Debugger Attachment"
    description := "Detects debugger tools that may be used for tampering"
    severity := "medium", category := "evasion"
    mitreTactic := "Defense Evasion", technique := "T1622"
    matcher := fun p => letters.lower p.name ∈ ["gdb", "lldb", "strace", "ltrace", "x64dbg.exe",
      "ollydbg.exe", "windbg.exe", "ida.exe", "ida64.exe"] },
  { id := "GPI-007", name := "Suspicious Child Process"
    description := "Detects shells spawned from unusual parent processes"
    severity := "high", category := "execution"
    mitreTactic := "Execution", technique := "T1059"
    matcher := matchChildProcess letters },
  { id := "GPI-008", name := "Network Reconnaissance"
    description := "Detects nmap and similar network scanning tools"
    severity := "medium", category := "discovery"
    mitreTactic := "Discovery", technique := "T1046"
    matcher := fun p => letters.lower p.name ∈ ["nmap", "masscan", "zmap", "rustscan"] }]

end

structure RuleTable where
  rules : List DetectionRule
  distinct : (rules.map DetectionRule.id).Nodup

def builtinTable (letters : Letters) : RuleTable := ⟨builtinRules letters, by simp [builtinRules]⟩

/-! ## Scanning -/

/-- A process as one scan finds it. It may change or exit while the scan runs, so each rule's matcher
and report, by the rule's id, have a reading of their own. -/
structure Process where
  pid : Int32
  matching : String → Reading
  reporting : String → Reading

/-- `string(rune(pid))`: an integer that is no code point gives the replacement character. -/
def runeChar (pid : Int32) : Char :=
  if 0 ≤ pid.toInt ∧ pid.toInt.toNat.isValidChar then Char.ofNat pid.toInt.toNat else '\uFFFD'

def alertKey (ruleId : String) (pid : Int32) : String :=
  "-".intercalate [ruleId, String.singleton (runeChar pid)]

def DetectionRule.event (rule : DetectionRule) (p : Process) : Event :=
  let reading := p.reporting rule.id
  { eventType := "detection"
    severity := rule.severity
    title := rule.name ++ ": " ++ reading.name
    details := some [
      ("category", .str rule.category),
      ("cmdline", .str reading.cmdline),
      ("description", .str rule.description),
      ("mitre_tactic", .str rule.mitreTactic),
      ("mitre_technique", .str rule.technique),
      ("pid", .num (some (Literal.ofInt p.pid.toInt))),
      ("process_name", .str reading.name),
      ("rule_id", .str rule.id),
      ("rule_name", .str rule.name),
      ("username", .str reading.username)]
    timestamp := formatRFC3339 reading.now }

structure Scan where
  alerted : List String
  sent : List Event

def checkRule (p : Process) (s : Scan) (rule : DetectionRule) : Scan :=
  let key := alertKey rule.id p.pid
  if key ∈ s.alerted then s
  else if rule.matcher (p.matching rule.id) then ⟨key :: s.alerted, s.sent ++ [rule.event p]⟩
  else s

def scan (rules : List DetectionRule) (alerted : List String) (procs : List Process) : Scan :=
  procs.foldl (fun s p => rules.foldl (checkRule p) s) ⟨alerted, []⟩

/-- The events that each tick sends, from the keys alerted so far. The process list of a tick is
`none` where it cannot be read. -/
def engineFrom (rules : List DetectionRule) (alerted : List String) :
    List (Option (List Process)) → List (List Event)
  | [] => []
  | none :: ticks => [] :: engineFrom rules alerted ticks
  | some procs :: ticks =>
      let s := scan rules alerted procs
      s.sent :: engineFrom rules s.alerted ticks

def runDetectionEngine (rules : List DetectionRule) (ticks : List (Option (List Process))) :
    List (List Event) := engineFrom rules [] ticks

/-! ## Keys -/

def Replaced (pid : Int32) : Prop :=
  pid.toInt < 0 ∨ 0xD800 ≤ pid.toInt ∧ pid.toInt ≤ 0xDFFF ∨ pid.toInt = 0xFFFD ∨
    0x10FFFF < pid.toInt

theorem toNat_runeChar {pid : Int32} (point : ¬ Replaced pid) :
    ((runeChar pid).toNat : Int) = pid.toInt := by
  unfold Replaced at point
  have valid : pid.toInt.toNat.isValidChar := by
    unfold Nat.isValidChar
    omega
  have char : runeChar pid = Char.ofNatAux pid.toInt.toNat valid := by
    rw [runeChar, if_pos ⟨by omega, valid⟩, Char.ofNat, dif_pos valid]
  rw [char]
  exact Int.toNat_of_nonneg (by omega)

theorem runeChar_of_replaced {pid : Int32} (replaced : Replaced pid) :
    runeChar pid = '\uFFFD' := by
  unfold runeChar
  split_ifs with valid
  · have fits := valid.2
    unfold Nat.isValidChar at fits
    unfold Replaced at replaced
    have point : pid.toInt.toNat = 0xFFFD := by omega
    rw [point]
  · rfl

theorem runeChar_eq_replacement {pid : Int32} : runeChar pid = '\uFFFD' ↔ Replaced pid := by
  refine ⟨?_, runeChar_of_replaced⟩
  intro same
  by_contra point
  have char := toNat_runeChar point
  have value : '\uFFFD'.toNat = 0xFFFD := rfl
  rw [same, value] at char
  unfold Replaced at point
  omega

theorem alertKey_toList (id : String) (pid : Int32) :
    (alertKey id pid).toList = id.toList ++ ['-', runeChar pid] := by
  rw [alertKey, String.intercalate_cons_cons, String.intercalate_singleton]
  simp

theorem runeChar_eq_iff {pid pid' : Int32} :
    runeChar pid = runeChar pid' ↔ pid = pid' ∨ Replaced pid ∧ Replaced pid' := by
  constructor
  · intro same
    by_cases replaced : Replaced pid
    · apply Or.inr
      refine ⟨replaced, ?_⟩
      rw [← runeChar_eq_replacement, ← same]
      exact runeChar_of_replaced replaced
    · have point : ¬ Replaced pid' := by
        rw [← runeChar_eq_replacement, ← same, runeChar_eq_replacement]
        exact replaced
      apply Or.inl
      apply Int32.toInt_inj.mp
      rw [← toNat_runeChar replaced, ← toNat_runeChar point, same]
  · intro h
    rcases h with same | ⟨replaced, replaced'⟩
    · rw [same]
    · rw [runeChar_of_replaced replaced, runeChar_of_replaced replaced']

theorem alertKey_eq_iff {id id' : String} {pid pid' : Int32} :
    alertKey id pid = alertKey id' pid' ↔
      id = id' ∧ (pid = pid' ∨ Replaced pid ∧ Replaced pid') := by
  rw [← runeChar_eq_iff]
  constructor
  · intro same
    have texts := congrArg String.toList same
    rw [alertKey_toList, alertKey_toList] at texts
    obtain ⟨ids, chars⟩ := List.append_inj' texts (by simp)
    exact ⟨String.toList_injective ids, by simpa using chars⟩
  · intro ⟨ids, chars⟩
    rw [alertKey, alertKey, ids, chars]

/-! ## Runs -/

abbrev Hit := Process × DetectionRule

def Hit.key (h : Hit) : String := alertKey h.2.id h.1.pid

def Hit.event (h : Hit) : Event := h.2.event h.1

def processHits (rules : List DetectionRule) (p : Process) : List Hit :=
  (rules.filter fun rule => rule.matcher (p.matching rule.id)).map fun rule => (p, rule)

def hits (rules : List DetectionRule) (tick : Option (List Process)) : List Hit :=
  (tick.getD []).flatMap (processHits rules)

theorem foldl_checkRule (p : Process) (rules : List DetectionRule) (s : Scan) :
    rules.foldl (checkRule p) s =
      ⟨FirstSeen.mark Hit.key s.alerted (processHits rules p),
        s.sent ++ (FirstSeen.fresh Hit.key s.alerted (processHits rules p)).map Hit.event⟩ := by
  induction rules generalizing s with
  | nil => simp [processHits, FirstSeen.mark, FirstSeen.fresh]
  | cons rule rules ih =>
      rw [List.foldl_cons, ih]
      by_cases matched : rule.matcher (p.matching rule.id) = true
      · have here : processHits (rule :: rules) p = (p, rule) :: processHits rules p := by
          simp [processHits, matched]
        rw [here, FirstSeen.mark, FirstSeen.fresh]
        by_cases known : alertKey rule.id p.pid ∈ s.alerted
        · simp [checkRule, known, Hit.key]
        · simp [checkRule, known, matched, Hit.key, Hit.event]
      · have here : processHits (rule :: rules) p = processHits rules p := by
          simp [processHits, matched]
        have idle : checkRule p s rule = s := by simp [checkRule, matched]
        rw [here, idle]

theorem foldl_processes (rules : List DetectionRule) (procs : List Process) (s : Scan) :
    procs.foldl (fun s p => rules.foldl (checkRule p) s) s =
      ⟨FirstSeen.mark Hit.key s.alerted (procs.flatMap (processHits rules)),
        s.sent ++ (FirstSeen.fresh Hit.key s.alerted
          (procs.flatMap (processHits rules))).map Hit.event⟩ := by
  induction procs generalizing s with
  | nil => simp [FirstSeen.mark, FirstSeen.fresh]
  | cons p procs ih =>
      rw [List.foldl_cons, foldl_checkRule, ih, List.flatMap_cons, FirstSeen.mark_append,
        FirstSeen.fresh_append, List.map_append, List.append_assoc]

theorem engineFrom_eq (rules : List DetectionRule) (alerted : List String)
    (ticks : List (Option (List Process))) :
    engineFrom rules alerted ticks =
      (FirstSeen.rounds Hit.key alerted (ticks.map (hits rules))).map (List.map Hit.event) := by
  induction ticks generalizing alerted with
  | nil => rfl
  | cons tick ticks ih =>
      cases tick with
      | none =>
          rw [engineFrom, ih]
          rfl
      | some procs =>
          rw [engineFrom, ih, scan, foldl_processes]
          rfl

def Event.detects (e : Event) (ruleId : String) (pid : Int32) : Bool :=
  match e.details with
  | none => false
  | some fields =>
      match Json.lookup "rule_id" fields, Json.lookup "pid" fields with
      | some (.str id), some (.num (some n)) =>
          id = ruleId && n.text = (Literal.ofInt pid.toInt).text
      | _, _ => false

theorem literal_text_eq_iff (pid pid' : Int32) :
    (Literal.ofInt pid.toInt).text = (Literal.ofInt pid'.toInt).text ↔ pid = pid' := by
  rw [← Int32.toInt_inj]
  constructor
  · intro text
    exact toString_int_injective (String.toList_injective text)
  · intro equal
    rw [equal]

theorem detects_event (h : Hit) (ruleId : String) (pid : Int32) :
    h.event.detects ruleId pid = true ↔ h.2.id = ruleId ∧ h.1.pid = pid := by
  rw [← literal_text_eq_iff h.1.pid pid]
  simp [Event.detects, Hit.event, DetectionRule.event, Json.lookup]

def Matches (rule : DetectionRule) (pid : Int32) (tick : Option (List Process)) : Prop :=
  ∃ procs ∈ tick, ∃ p ∈ procs, p.pid = pid ∧ rule.matcher (p.matching rule.id) = true

theorem mem_hits {rules : List DetectionRule} {tick : Option (List Process)} {h : Hit}
    (member : h ∈ hits rules tick) : h.2 ∈ rules ∧ Matches h.2 h.1.pid tick := by
  obtain ⟨p, listed, member⟩ := List.mem_flatMap.mp member
  obtain ⟨rule, kept, rfl⟩ := List.mem_map.mp member
  obtain ⟨ruled, matched⟩ := List.mem_filter.mp kept
  cases tick with
  | none => cases listed
  | some procs => exact ⟨ruled, procs, rfl, p, listed, rfl, matched⟩

theorem exists_hit {rules : List DetectionRule} {rule : DetectionRule} (ruled : rule ∈ rules)
    {pid : Int32} {tick : Option (List Process)} (matched : Matches rule pid tick) :
    ∃ h ∈ hits rules tick, h.2 = rule ∧ h.1.pid = pid := by
  obtain ⟨procs, rfl, p, listed, same, matched⟩ := matched
  refine ⟨(p, rule), ?_, rfl, same⟩
  apply List.mem_flatMap.mpr
  exact ⟨p, listed, List.mem_map.mpr ⟨rule, List.mem_filter.mpr ⟨ruled, matched⟩, rfl⟩⟩

/-! ## Every match is reported once -/

def FirstMatch (rule : DetectionRule) (pid : Int32) (ticks : List (Option (List Process)))
    (i : Nat) : Prop :=
  (∃ tick ∈ ticks[i]?, Matches rule pid tick) ∧ ∀ tick ∈ ticks.take i, ¬ Matches rule pid tick

def ReportsOnce (table : RuleTable) (ticks : List (Option (List Process))) : Prop :=
  ∀ rule ∈ table.rules, ∀ pid i sent, (runDetectionEngine table.rules ticks)[i]? = some sent →
    sent.countP (fun e => e.detects rule.id pid) ≤ 1 ∧
      ((∃ e ∈ sent, e.detects rule.id pid = true) ↔ FirstMatch rule pid ticks i)

/-- No rule holds for two process ids that the key replaces by the same character. -/
def Separate (table : RuleTable) (ticks : List (Option (List Process))) : Prop :=
  ∀ rule ∈ table.rules, ∀ p q, Replaced p → Replaced q → (∃ tick ∈ ticks, Matches rule p tick) →
    (∃ tick ∈ ticks, Matches rule q tick) → p = q

section
variable {table : RuleTable} {ticks : List (Option (List Process))}

theorem rule_of_id {rule rule' : DetectionRule} (h : rule ∈ table.rules)
    (h' : rule' ∈ table.rules) (same : rule.id = rule'.id) : rule = rule' :=
  List.inj_on_of_nodup_map table.distinct h h' same

theorem sent_round {i : Nat} {sent : List Event}
    (h : (runDetectionEngine table.rules ticks)[i]? = some sent) :
    ∃ reported, (FirstSeen.rounds Hit.key [] (ticks.map (hits table.rules)))[i]? = some reported ∧
      sent = reported.map Hit.event := by
  rw [runDetectionEngine, engineFrom_eq, List.getElem?_map, Option.map_eq_some_iff] at h
  obtain ⟨reported, found, rfl⟩ := h
  exact ⟨reported, found, rfl⟩

theorem hit_of_round {i : Nat} {reported : List Hit}
    (h : (FirstSeen.rounds Hit.key [] (ticks.map (hits table.rules)))[i]? = some reported)
    {hit : Hit} (member : hit ∈ reported) :
    hit.2 ∈ table.rules ∧ ∃ tick, ticks[i]? = some tick ∧ Matches hit.2 hit.1.pid tick := by
  obtain ⟨group, found, listed⟩ := FirstSeen.mem_of_mem_rounds h member
  rw [List.getElem?_map, Option.map_eq_some_iff] at found
  obtain ⟨tick, found, rfl⟩ := found
  obtain ⟨ruled, matched⟩ := mem_hits listed
  exact ⟨ruled, tick, found, matched⟩

theorem round_of_match {rule : DetectionRule} (ruled : rule ∈ table.rules) {pid : Int32} {i : Nat}
    {tick : Option (List Process)} (found : ticks[i]? = some tick)
    (matched : Matches rule pid tick) :
    ∃ j ≤ i, ∃ reported,
      (FirstSeen.rounds Hit.key [] (ticks.map (hits table.rules)))[j]? = some reported ∧
      ∃ hit ∈ reported, hit.key = alertKey rule.id pid := by
  obtain ⟨hit, member, rfl, rfl⟩ := exists_hit ruled matched
  apply FirstSeen.rounds_cover _ member (by simp)
  rw [List.getElem?_map, found, Option.map_some]

theorem countP_detects_le {i : Nat} {sent : List Event}
    (h : (runDetectionEngine table.rules ticks)[i]? = some sent) (ruleId : String) (pid : Int32) :
    sent.countP (fun e => e.detects ruleId pid) ≤ 1 := by
  obtain ⟨reported, found, rfl⟩ := sent_round h
  have keys : (reported.map Hit.key).Nodup := FirstSeen.rounds_nodup found
  rw [List.countP_map]
  calc reported.countP ((fun e => e.detects ruleId pid) ∘ Hit.event)
      ≤ reported.countP ((· == alertKey ruleId pid) ∘ Hit.key) := by
        apply List.countP_mono_left
        intro hit _ detected
        obtain ⟨rfl, rfl⟩ := (detects_event hit ruleId pid).mp detected
        exact beq_self_eq_true _
    _ = (reported.map Hit.key).count (alertKey ruleId pid) := List.countP_map.symm
    _ ≤ 1 := List.nodup_iff_count_le_one.mp keys _

theorem getElem?_of_mem_take {α : Type} {xs : List α} {i : Nat} {x : α} (h : x ∈ xs.take i) :
    ∃ j < i, xs[j]? = some x := by
  obtain ⟨j, less, rfl⟩ := List.mem_take_iff_getElem.mp h
  exact ⟨j, by omega, List.getElem?_eq_getElem (by omega)⟩

theorem firstMatch_of_sent {rule : DetectionRule} (ruled : rule ∈ table.rules) {pid : Int32}
    {i : Nat} {sent : List Event} (h : (runDetectionEngine table.rules ticks)[i]? = some sent)
    {e : Event} (member : e ∈ sent) (detected : e.detects rule.id pid = true) :
    FirstMatch rule pid ticks i := by
  obtain ⟨reported, found, rfl⟩ := sent_round h
  obtain ⟨hit, listed, rfl⟩ := List.mem_map.mp member
  obtain ⟨ids, rfl⟩ := (detects_event hit rule.id pid).mp detected
  obtain ⟨ruled', tick, now, matched⟩ := hit_of_round found listed
  obtain rfl : hit.2 = rule := rule_of_id ruled' ruled ids
  refine ⟨⟨tick, now, matched⟩, ?_⟩
  intro earlier before again
  obtain ⟨j, less, earlier_at⟩ := getElem?_of_mem_take before
  obtain ⟨k, le, reported', found', hit', listed', same⟩ := round_of_match ruled earlier_at again
  obtain ⟨rfl, -⟩ := FirstSeen.rounds_unique found' listed' found listed same
  omega

theorem sent_of_firstMatch (separate : Separate table ticks) {rule : DetectionRule}
    (ruled : rule ∈ table.rules) {pid : Int32} {i : Nat} {sent : List Event}
    (h : (runDetectionEngine table.rules ticks)[i]? = some sent)
    (first : FirstMatch rule pid ticks i) : ∃ e ∈ sent, e.detects rule.id pid = true := by
  obtain ⟨⟨tick, now, matched⟩, new⟩ := first
  obtain ⟨j, le, reported, found, hit, listed, same⟩ := round_of_match ruled now matched
  obtain ⟨ruled', tick', then', matched'⟩ := hit_of_round found listed
  obtain ⟨ids, pids⟩ := alertKey_eq_iff.mp same
  obtain rfl : hit.2 = rule := rule_of_id ruled' ruled ids
  obtain rfl : hit.1.pid = pid := by
    rcases pids with equal | ⟨replaced, replaced'⟩
    · exact equal
    · exact separate hit.2 ruled _ _ replaced replaced'
        ⟨tick', List.mem_of_getElem? then', matched'⟩ ⟨tick, List.mem_of_getElem? now, matched⟩
  have present : ¬ j < i := by
    intro less
    apply new tick' _ matched'
    apply List.mem_of_getElem? (i := j)
    rw [List.getElem?_take_of_lt less, then']
  obtain rfl : j = i := by omega
  obtain ⟨reported', found', rfl⟩ := sent_round h
  obtain rfl : reported = reported' := Option.some.inj (found.symm.trans found')
  exact ⟨hit.event, List.mem_map_of_mem listed, (detects_event hit _ _).mpr ⟨rfl, rfl⟩⟩

theorem exists_firstMatch {rule : DetectionRule} {pid : Int32}
    (h : ∃ tick ∈ ticks, Matches rule pid tick) :
    ∃ i < ticks.length, FirstMatch rule pid ticks i := by
  classical
  have somewhere : ∃ i : Nat, ∃ tick ∈ ticks[i]?, Matches rule pid tick := by
    obtain ⟨tick, member, matched⟩ := h
    obtain ⟨i, bound, rfl⟩ := List.getElem_of_mem member
    exact ⟨i, ticks[i], List.getElem?_eq_getElem bound, matched⟩
  obtain ⟨tick, now, matched⟩ := Nat.find_spec somewhere
  refine ⟨Nat.find somewhere, (List.getElem?_eq_some_iff.mp now).1, ⟨tick, now, matched⟩, ?_⟩
  intro earlier before again
  obtain ⟨j, less, earlier_at⟩ := getElem?_of_mem_take before
  exact Nat.find_min somewhere less ⟨earlier, earlier_at, again⟩

theorem sent_of_reportsOnce (once : ReportsOnce table ticks) {rule : DetectionRule}
    (ruled : rule ∈ table.rules) {pid : Int32} (h : ∃ tick ∈ ticks, Matches rule pid tick) :
    ∃ (i : Nat) (reported : List Hit),
      (FirstSeen.rounds Hit.key [] (ticks.map (hits table.rules)))[i]? = some reported ∧
      ∃ hit ∈ reported, hit.2.id = rule.id ∧ hit.1.pid = pid := by
  obtain ⟨i, bound, first⟩ := exists_firstMatch h
  have length : i < (runDetectionEngine table.rules ticks).length := by
    rw [runDetectionEngine, engineFrom_eq, List.length_map, FirstSeen.length_rounds,
      List.length_map]
    exact bound
  have sent := List.getElem?_eq_getElem length
  obtain ⟨e, member, detected⟩ := (once rule ruled pid i _ sent).2.mpr first
  obtain ⟨reported, found, same⟩ := sent_round sent
  rw [same] at member
  obtain ⟨hit, listed, rfl⟩ := List.mem_map.mp member
  exact ⟨i, reported, found, hit, listed, (detects_event hit rule.id pid).mp detected⟩

end

theorem reportsOnce_iff (table : RuleTable) (ticks : List (Option (List Process))) :
    ReportsOnce table ticks ↔ Separate table ticks := by
  constructor
  · intro once rule ruled p q replaced replaced' matched matched'
    obtain ⟨i, first, found, hit, listed, ids, rfl⟩ := sent_of_reportsOnce once ruled matched
    obtain ⟨j, second, found', hit', listed', ids', rfl⟩ := sent_of_reportsOnce once ruled matched'
    have same : hit.key = hit'.key :=
      alertKey_eq_iff.mpr ⟨ids.trans ids'.symm, Or.inr ⟨replaced, replaced'⟩⟩
    obtain ⟨-, rfl⟩ := FirstSeen.rounds_unique found listed found' listed' same
    rfl
  · intro separate rule ruled pid i sent h
    refine ⟨countP_detects_le h rule.id pid, ?_, sent_of_firstMatch separate ruled h⟩
    intro ⟨e, member, detected⟩
    exact firstMatch_of_sent ruled h member detected

theorem mimikatz_suppressed :
    let reading : Reading := ⟨"mimikatz", "root", "mimikatz", none, 0⟩
    let running (pid : Int32) : Process := ⟨pid, fun _ => reading, fun _ => reading⟩
    ¬ ReportsOnce (builtinTable Letters.ascii) [some [running 55296, running 55297]] := by
  intro reading running once
  let rules := builtinRules Letters.ascii
  let ticks := [some [running 55296, running 55297]]
  let rule := rules.head nofun
  have matched : Matches rule 55297 (some [running 55296, running 55297]) := by
    refine ⟨_, rfl, running 55297, ?_, rfl, ?_⟩
    · simp
    · decide +kernel
  have first : FirstMatch rule 55297 ticks 0 := ⟨⟨_, rfl, matched⟩, nofun⟩
  obtain ⟨e, member, detected⟩ := (once _ (List.head_mem _) _ _ _ rfl).2.mpr first
  have silent : (scan rules [] [running 55296, running 55297]).sent.any
      (fun e => e.detects rule.id 55297) = false := by decide +kernel
  rw [List.any_eq_false] at silent
  exact silent e member detected

end GuardianPi.EdgeAgent
