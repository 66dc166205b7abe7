import GuardianPi.Library.Python
import GuardianPi.Library.Regex
import Mathlib.Data.List.Infix

namespace GuardianPi.Backend
open GuardianPi.Library GuardianPi.Library.Python

inductive RuleCategory where
  | malware
  | credentialAccess
  | persistence
  | defenseEvasion
  | execution
  | lateralMovement
  | collection
  | c2
  deriving DecidableEq

def RuleCategory.value : RuleCategory → String
  | .malware => "malware"
  | .credentialAccess => "credential_access"
  | .persistence => "persistence"
  | .defenseEvasion => "defense_evasion"
  | .execution => "execution"
  | .lateralMovement => "lateral_movement"
  | .collection => "collection"
  | .c2 => "command_and_control"

structure DetectionRule where
  id : String
  name : String
  description : String
  severity : String
  category : RuleCategory
  mitreTactic : String
  mitreTechnique : String
  processNames : List String := []
  cmdlinePatterns : List String := []
  filePatterns : List String := []
  networkIndicators : List String := []

def sigmaRules : List DetectionRule := [
  { id := "SIGMA-001", name := "Mimikatz Credential Dumping"
    description := "Detects mimikatz and related credential access tools"
    severity := "critical", category := .credentialAccess
    mitreTactic := "Credential Access", mitreTechnique := "T1003"
    processNames := ["mimikatz", "sekurlsa", "kiwi"]
    cmdlinePatterns := ["sekurlsa::logonpasswords", "lsadump::", "privilege::debug"] },
  { id := "SIGMA-002", name := "Reverse Shell Detection"
    description := "Detects common reverse shell patterns across platforms"
    severity := "critical", category := .execution
    mitreTactic := "Execution", mitreTechnique := "T1059"
    cmdlinePatterns := [
      r"/dev/tcp/\d+\.\d+\.\d+\.\d+",
      r"bash\s+-i\s+>&\s+/dev/tcp",
      r"nc\s+.*-e\s+/bin/(sh|bash)",
      r"python.*socket.*subprocess",
      r"php\s+-r.*fsockopen",
      r"ruby.*TCPSocket.*exec"] },
  { id := "SIGMA-003", name := "Brute Force Tools"
    description := "Detects password cracking and brute force utilities"
    severity := "high", category := .credentialAccess
    mitreTactic := "Credential Access", mitreTechnique := "T1110"
    processNames := ["hydra", "john", "hashcat", "medusa", "ncrack", "patator"] },
  { id := "SIGMA-004", name := "Suspicious Persistence Mechanism"
    description := "Detects unauthorized persistence attempts"
    severity := "high", category := .persistence
    mitreTactic := "Persistence", mitreTechnique := "T1053"
    cmdlinePatterns := [
      r"crontab\s+-e", r"schtasks\s+/create",
      r"reg\s+add.*\\Run", r"launchctl\s+load",
      r"systemctl\s+enable"]
    filePatterns := [
      r"/etc/cron\.d/", r"\.bashrc$", r"\.profile$",
      r"\\Startup\\", r"LaunchAgents"] },
  { id := "SIGMA-005", name := "Encoded PowerShell Command"
    description := "Detects base64-encoded PowerShell execution"
    severity := "high", category := .defenseEvasion
    mitreTactic := "Defense Evasion", mitreTechnique := "T1027"
    cmdlinePatterns := [
      r"powershell.*-[eE](nc|ncodedcommand)",
      r"powershell.*[Ff]rom[Bb]ase64",
      r"powershell.*-[wW]\s+hidden"] },
  { id := "SIGMA-006", name := "Unusual Outbound Traffic"
    description := "Detects connections to known C2/malicious ports"
    severity := "medium", category := .c2
    mitreTactic := "Command and Control", mitreTechnique := "T1571"
    networkIndicators := ["4444", "5555", "1337", "31337", "9999"] },
  { id := "SIGMA-007", name := "Debugger/Tamper Tools"
    description := "Detects debugger attachment and tampering tools"
    severity := "medium", category := .defenseEvasion
    mitreTactic := "Defense Evasion", mitreTechnique := "T1622"
    processNames := ["gdb", "lldb", "strace", "ltrace", "x64dbg", "ollydbg", "windbg", "ida",
      "ida64"] },
  { id := "SIGMA-008", name := "Lateral Movement Tools"
    description := "Detects tools used for lateral movement"
    severity := "high", category := .lateralMovement
    mitreTactic := "Lateral Movement", mitreTechnique := "T1021"
    processNames := ["psexec", "wmiexec", "smbexec", "evil-winrm", "crackmapexec"] }]

theorem sigmaRules_parse : ∀ rule ∈ sigmaRules, ∀ pattern ∈ rule.cmdlinePatterns,
    (Regex.parse pattern).isSome = true := by
  decide +kernel

structure RuleMatch where
  ruleId : String
  ruleName : String
  severity : String
  category : String
  mitreTactic : String
  mitreTechnique : String
  description : String
  deriving DecidableEq

def contains (text part : String) : Bool := part.toList <:+: text.toList

section
variable (letters : Letters)

def DetectionRule.matched (rule : DetectionRule) (pnameLower cmdLower : String) : Bool :=
  (rule.processNames.any fun pattern => contains pnameLower (letters.lower pattern)) ||
    rule.cmdlinePatterns.any fun pattern => letters.reSearch pattern cmdLower

def DetectionRule.report (rule : DetectionRule) : RuleMatch where
  ruleId := rule.id
  ruleName := rule.name
  severity := rule.severity
  category := rule.category.value
  mitreTactic := rule.mitreTactic
  mitreTechnique := rule.mitreTechnique
  description := rule.description

def matchedRules (rules : List DetectionRule) (processName cmdline : String) : List RuleMatch :=
  let pnameLower := letters.lower processName
  let cmdLower := letters.lower cmdline
  (rules.filter fun rule => rule.matched letters pnameLower cmdLower).map DetectionRule.report

/-- A name or command line that is not a string has no `lower`. -/
def matchProcess (processName cmdline : Value) : Except PyError (List RuleMatch) := do
  let processName ← Value.asStr processName
  let cmdline ← Value.asStr cmdline
  return matchedRules letters sigmaRules processName cmdline

end

structure Anomaly where
  anomalyScore : Int
  riskLevel : String
  reasons : List String

def Anomaly.value (a : Anomaly) : Value :=
  .obj [("anomaly_score", .num (.int a.anomalyScore)), ("risk_level", .str a.riskLevel),
    ("reasons", .arr (a.reasons.map .str))]

abbrev Finding := Int × List String

structure Band where
  above : Int
  points : Int
  reason : String → String

/-- The first band that the metric is above counts; the reason quotes the metric as `write` gives it. -/
def finding (write : Value → Except PyError String) (metric : Value) :
    List Band → Except PyError Finding
  | [] => return (0, [])
  | band :: bands => do
      if ← metric.gt band.above then
        let text ← write metric
        return (band.points, [band.reason text])
      else finding write metric bands

def cpuFinding (cpu : Value) : Except PyError Finding :=
  finding Value.formatOneDecimal cpu [
    ⟨95, 30, fun text => s!"Extreme CPU usage: {text}%"⟩,
    ⟨80, 15, fun text => s!"High CPU usage: {text}%"⟩]

def ramFinding (ram : Value) : Except PyError Finding :=
  finding Value.formatOneDecimal ram [⟨95, 25, fun text => s!"Critical RAM usage: {text}%"⟩]

section
variable (repr : Value → String)

def writeText (v : Value) : Except PyError String := .ok (v.text repr)

def connectionsFinding (connections : Value) : Except PyError Finding :=
  finding (writeText repr) connections [
    ⟨500, 30, fun text => s!"Excessive connections: {text}"⟩,
    ⟨200, 15, fun text => s!"High connection count: {text}"⟩]

def processesFinding (processes : Value) : Except PyError Finding :=
  finding (writeText repr) processes [⟨500, 10, fun text => s!"High process count: {text}"⟩]

def riskLevel (score : Int) : String :=
  if 60 ≤ score then "critical"
  else if 40 ≤ score then "high"
  else if 20 ≤ score then "medium"
  else "low"

def calculateAnomalyScore (metrics : Value) : Except PyError Anomaly := do
  let cpu ← Value.get metrics "cpu_percent" (.num (.int 0))
  let ram ← Value.get metrics "ram_percent" (.num (.int 0))
  let connections ← Value.get metrics "active_connections" (.num (.int 0))
  let processes ← Value.get metrics "process_count" (.num (.int 0))
  let c ← cpuFinding cpu
  let r ← ramFinding ram
  let n ← connectionsFinding repr connections
  let p ← processesFinding repr processes
  let score := c.1 + r.1 + n.1 + p.1
  return ⟨min score 100, riskLevel score, c.2 ++ r.2 ++ n.2 ++ p.2⟩

end

end GuardianPi.Backend
