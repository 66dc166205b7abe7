import Mathlib.Data.Finset.Basic
import Mathlib.Logic.Function.Basic

namespace GuardianPi.Agent.FirewallManager

inductive Owner where
  | manager
  | other
  deriving DecidableEq

structure IptablesRule where
  source : Option String
  target : String
  options : List String
  deriving DecidableEq

structure NetshRule where
  name : String
  dir : String
  action : String
  remoteip : Option String
  deriving DecidableEq

/-- The three kinds of firewall, with who installed each entry. -/
structure Firewall where
  input : List (IptablesRule × Owner)
  advfirewall : List (NetshRule × Owner)
  guardianBlocked : String → Option Owner

inductive Command where
  | iptablesAppend (rule : IptablesRule)
  | iptablesDelete (rule : IptablesRule)
  | netshAdd (rule : NetshRule)
  | netshDelete (name : String)
  | pfctlAdd (ip : String)

def IptablesRule.args (r : IptablesRule) : List String :=
  r.source.elim [] (fun ip => ["-s", ip]) ++ ["-j", r.target] ++ r.options

def NetshRule.args (r : NetshRule) : List String :=
  [s!"name={r.name}", s!"dir={r.dir}", s!"action={r.action}"] ++
    r.remoteip.elim [] fun ip => [s!"remoteip={ip}"]

def Command.args : Command → List String
  | iptablesAppend rule => ["sudo", "iptables", "-A", "INPUT"] ++ rule.args
  | iptablesDelete rule => ["sudo", "iptables", "-D", "INPUT"] ++ rule.args
  | netshAdd rule => ["netsh", "advfirewall", "firewall", "add", "rule"] ++ rule.args
  | netshDelete name => ["netsh", "advfirewall", "firewall", "delete", "rule", s!"name={name}"]
  | pfctlAdd ip => ["sudo", "pfctl", "-t", "guardian_blocked", "-T", "add", ip]

def Command.hasNul (c : Command) : Bool := c.args.any fun arg => arg.toList.contains '\x00'

def Firewall.exec (fw : Firewall) : Command → Option Firewall
  | .iptablesAppend rule => some { fw with input := fw.input ++ [(rule, .manager)] }
  | .iptablesDelete rule =>
      if rule ∈ fw.input.map Prod.fst
      then some { fw with input := fw.input.eraseP fun r => r.1 = rule } else none
  | .netshAdd rule => some { fw with advfirewall := fw.advfirewall ++ [(rule, .manager)] }
  | .netshDelete name =>
      if name ∈ fw.advfirewall.map fun r => r.1.name
      then some { fw with advfirewall := fw.advfirewall.filter fun r => r.1.name ≠ name } else none
  | .pfctlAdd ip =>
      if (fw.guardianBlocked ip).isSome then some fw
      else some { fw with guardianBlocked := Function.update fw.guardianBlocked ip (some .manager) }

inductive Raised where
  | timeoutExpired
  | fileNotFoundError
  | valueError

inductive Completed where
  | returned
  | calledProcessError (text : String)
  | raised (e : Raised)

structure Manager where
  osType : String
  blockedIps : Finset String

inductive Result where
  | success (ip : String) (reason : Option String)
  | failure (error : String)

def isOctet (decimal : Char → Option Nat) (octet : List Char) : Bool :=
  1 ≤ octet.length && octet.length ≤ 3 && octet.all fun c => (decimal c).isSome

def octetValue (decimal : Char → Option Nat) (octet : List Char) : Nat :=
  octet.foldl (fun n c => 10 * n + (decimal c).getD 0) 0

/-- `decimal` is the value of a digit, of any script; `$` matches in front of a last line feed. -/
def validateIp (decimal : Char → Option Nat) (ip : String) : Bool :=
  let text := ip.toList
  let line := if text.getLast? = some '\n' then text.dropLast else text
  let octets := line.splitOn '.'
  octets.length = 4 && octets.all (isOctet decimal) &&
    octets.all fun octet => octetValue decimal octet ≤ 255

def isPrivate (ip : String) : Bool :=
  ip.startsWith "127." || ip.startsWith "10." || ip.startsWith "192.168."

def ruleName (ip : String) : String := "GuardianPi_Block_" ++ ip

def blockCommand (osType ip reason : String) : Option Command :=
  if osType = "linux" then
    some (.iptablesAppend ⟨some ip, "DROP", ["-m", "comment", "--comment", reason]⟩)
  else if osType = "windows" then some (.netshAdd ⟨ruleName ip, "in", "block", some ip⟩)
  else if osType = "darwin" then some (.pfctlAdd ip)
  else none

def unblockCommand (osType ip : String) : Option Command :=
  if osType = "linux" then some (.iptablesDelete ⟨some ip, "DROP", []⟩)
  else if osType = "windows" then some (.netshDelete (ruleName ip))
  else none

abbrev Runner := Firewall → Command → Completed × Firewall

/-- A NUL in an argument raises before the command is started. -/
def subprocessRun (run : Runner) (fw : Firewall) (c : Command) : Completed × Firewall :=
  if c.hasNul then (.raised .valueError, fw) else run fw c

section
variable (decimal : Char → Option Nat) (run : Runner) (m : Manager) (fw : Firewall)

def blockIp (ip reason : String) : Except Raised Result × Manager × Firewall :=
  if !validateIp decimal ip then (.ok (.failure "Invalid IP address"), m, fw)
  else if isPrivate ip then (.ok (.failure "Cannot block private/loopback IPs"), m, fw)
  else
    match blockCommand m.osType ip reason with
    | none => (.ok (.failure s!"Unsupported OS: {m.osType}"), m, fw)
    | some c =>
        match subprocessRun run fw c with
        | (.returned, fw) => (.ok (.success ip (some reason)),
            { m with blockedIps := insert ip m.blockedIps }, fw)
        | (.calledProcessError text, fw) => (.ok (.failure text), m, fw)
        | (.raised e, fw) => (.error e, m, fw)

def unblockIp (ip : String) : Except Raised Result × Manager × Firewall :=
  if !validateIp decimal ip then (.ok (.failure "Invalid IP address"), m, fw)
  else
    let completed : Completed × Firewall := match unblockCommand m.osType ip with
      | none => (.returned, fw)
      | some c => subprocessRun run fw c
    match completed with
    | (.returned, fw) => (.ok (.success ip none), { m with blockedIps := m.blockedIps.erase ip }, fw)
    | (.calledProcessError text, fw) => (.ok (.failure text), m, fw)
    | (.raised e, fw) => (.error e, m, fw)

end

/-- Commands that work: those that add may be refused, those that delete fail as `exec` does. -/
def working (takes : Command → Bool) : Runner := fun fw c =>
  match c, fw.exec c with
  | .iptablesDelete _, some fw | .netshDelete _, some fw => (.returned, fw)
  | c, some after => if takes c then (.returned, after) else (.calledProcessError "", fw)
  | _, none => (.calledProcessError "", fw)

def NoRule (osType ip : String) (fw : Firewall) : Prop :=
  if osType = "linux" then ∀ r ∈ fw.input, r.1.source ≠ some ip
  else if osType = "windows" then ∀ r ∈ fw.advfirewall, r.1.remoteip ≠ some ip
  else fw.guardianBlocked ip = none

section
variable (decimal : Char → Option Nat) (takes : Command → Bool) (m : Manager) (fw : Firewall)

def Blocks (ip reason : String) : Prop :=
  (blockIp decimal (working takes) m fw ip reason).1 = .ok (.success ip (some reason))

/-- After a block the undoing succeeds and leaves the firewall as it was. -/
def Undone (ip reason : String) : Prop :=
  let blocked := blockIp decimal (working takes) m fw ip reason
  let undone := unblockIp decimal (working takes) blocked.2.1 blocked.2.2 ip
  undone.1 = .ok (.success ip none) ∧ undone.2.2 = fw

variable {decimal takes m fw} {ip reason : String}

theorem working_returned {c : Command} {after : Firewall} (h : working takes fw c = (.returned, after)) :
    fw.exec c = some after := by
  unfold working at h
  cases executed : fw.exec c with
  | none => cases c <;> simp [executed] at h
  | some done =>
      cases c <;> simp only [executed] at h
      case iptablesDelete | netshDelete => exact congrArg some (Prod.mk.inj h).2
      all_goals
        split_ifs at h
        · exact congrArg some (Prod.mk.inj h).2
        · cases h

theorem subprocessRun_returned {run : Runner} {c : Command} {after : Firewall}
    (h : subprocessRun run fw c = (.returned, after)) :
    c.hasNul = false ∧ run fw c = (.returned, after) := by
  unfold subprocessRun at h
  split_ifs at h with nul
  · cases h
  · exact ⟨Bool.eq_false_iff.mpr nul, h⟩

theorem blockIp_success {run : Runner}
    (blocks : (blockIp decimal run m fw ip reason).1 = .ok (.success ip (some reason))) :
    validateIp decimal ip = true ∧ ∃ c after, blockCommand m.osType ip reason = some c ∧
      subprocessRun run fw c = (.returned, after) ∧
      (blockIp decimal run m fw ip reason).2 =
        ({ m with blockedIps := insert ip m.blockedIps }, after) := by
  unfold blockIp at blocks ⊢
  split_ifs at blocks ⊢ with invalid hidden
  · cases blocks
  · cases blocks
  · refine ⟨by simpa using invalid, ?_⟩
    cases command : blockCommand m.osType ip reason with
    | none =>
        rw [command] at blocks
        cases blocks
    | some c =>
        simp only [command] at blocks ⊢
        rcases ran : subprocessRun run fw c with ⟨returned | text | e, after⟩
        · exact ⟨c, after, rfl, ran, rfl⟩
        · simp only [ran] at blocks
          cases blocks
        · simp only [ran] at blocks
          cases blocks

theorem unblockIp_success {run : Runner}
    (undone : (unblockIp decimal run m fw ip).1 = .ok (.success ip none)) :
    (unblockCommand m.osType ip = none ∧ (unblockIp decimal run m fw ip).2.2 = fw) ∨
    ∃ c after, unblockCommand m.osType ip = some c ∧ subprocessRun run fw c = (.returned, after) ∧
      (unblockIp decimal run m fw ip).2.2 = after := by
  unfold unblockIp at undone ⊢
  split_ifs at undone ⊢ with invalid
  · cases undone
  · cases command : unblockCommand m.osType ip with
    | none => exact .inl ⟨rfl, rfl⟩
    | some c =>
        simp only [command] at undone ⊢
        rcases ran : subprocessRun run fw c with ⟨returned | text | e, after⟩
        · exact .inr ⟨c, after, rfl, ran, rfl⟩
        · simp only [ran] at undone
          cases undone
        · simp only [ran] at undone
          cases undone

theorem Blocks.ran (blocks : Blocks decimal takes m fw ip reason) :
    validateIp decimal ip = true ∧ ∃ c after, blockCommand m.osType ip reason = some c ∧
      c.hasNul = false ∧ fw.exec c = some after ∧
      (Undone decimal takes m fw ip reason ↔ ∃ n,
        unblockIp decimal (working takes) { m with blockedIps := insert ip m.blockedIps } after ip =
          (.ok (.success ip none), n, fw)) := by
  obtain ⟨valid, c, after, command, ran, state⟩ := blockIp_success blocks
  obtain ⟨clean, ran⟩ := subprocessRun_returned ran
  refine ⟨valid, c, after, command, clean, working_returned ran, ?_⟩
  simp only [Undone, state, Prod.ext_iff, exists_and_left, exists_and_right, exists_eq', true_and]

theorem hasNul_netshDelete {rule : NetshRule} (clean : (Command.netshAdd rule).hasNul = false) :
    (Command.netshDelete rule.name).hasNul = false := by
  simp only [Command.hasNul, Command.args, NetshRule.args, List.any_append, List.any_cons,
    Bool.or_eq_false_iff] at clean ⊢
  obtain ⟨⟨netsh, advfirewall, firewall, -, rule, -⟩, ⟨name, -⟩, -⟩ := clean
  exact ⟨netsh, advfirewall, firewall, by decide +kernel, rule, name, rfl⟩

/-- The rule that is appended has a comment, the rule to delete has none. -/
theorem linux_not_undone (os : m.osType = "linux") (noRule : NoRule m.osType ip fw)
    (blocks : Blocks decimal takes m fw ip reason) : ¬ Undone decimal takes m fw ip reason := by
  obtain ⟨-, c, after, command, -, added, undone_iff⟩ := blocks.ran
  simp only [blockCommand, os, if_true, Option.some.injEq] at command
  subst c
  obtain rfl : _ = after := Option.some.inj added
  rw [undone_iff]
  intro ⟨n, undone⟩
  obtain ⟨none, -⟩ | ⟨c, after, command, ran, -⟩ := unblockIp_success (congrArg Prod.fst undone)
  · simp [unblockCommand, os] at none
  · simp only [unblockCommand, os, if_true, Option.some.injEq] at command
    subst c
    have deleted := working_returned (subprocessRun_returned ran).2
    simp only [NoRule, os, if_true] at noRule
    have absent : (⟨some ip, "DROP", []⟩ : IptablesRule) ∉ fw.input.map Prod.fst := by
      intro found
      obtain ⟨r, here, same⟩ := List.mem_map.mp found
      exact noRule r here (by rw [same])
    simp [Firewall.exec, absent] at deleted

theorem darwin_not_undone (os : m.osType = "darwin") (noRule : NoRule m.osType ip fw)
    (blocks : Blocks decimal takes m fw ip reason) : ¬ Undone decimal takes m fw ip reason := by
  obtain ⟨-, c, after, command, -, added, undone_iff⟩ := blocks.ran
  simp only [blockCommand, os, String.reduceEq, if_false, if_true, Option.some.injEq] at command
  subst c
  have free : fw.guardianBlocked ip = none := by simpa [NoRule, os] using noRule
  simp only [Firewall.exec, free, Option.isSome_none, Bool.false_eq_true, if_false,
    Option.some.injEq] at added
  rw [undone_iff]
  intro ⟨n, undone⟩
  obtain ⟨-, kept⟩ | ⟨c, after, command, -, -⟩ := unblockIp_success (congrArg Prod.fst undone)
  · have same : after = fw := by rw [← kept, undone]
    rw [← added] at same
    have entry := congrArg (fun fw => fw.guardianBlocked ip) same
    simp [free] at entry
  · simp [unblockCommand, os] at command

theorem windows_undone_iff (os : m.osType = "windows") (blocks : Blocks decimal takes m fw ip reason) :
    Undone decimal takes m fw ip reason ↔ ∀ r ∈ fw.advfirewall, r.1.name ≠ ruleName ip := by
  obtain ⟨valid, c, after, command, clean, added, undone_iff⟩ := blocks.ran
  simp only [blockCommand, os, String.reduceEq, if_false, if_true, Option.some.injEq] at command
  subst c
  obtain rfl : _ = after := Option.some.inj added
  have clean := hasNul_netshDelete clean
  have deleted : unblockIp decimal (working takes) { m with blockedIps := insert ip m.blockedIps }
      { fw with advfirewall := fw.advfirewall ++ [(⟨ruleName ip, "in", "block", some ip⟩, .manager)] } ip =
      (.ok (.success ip none), { m with blockedIps := (insert ip m.blockedIps).erase ip },
        { fw with advfirewall := fw.advfirewall.filter fun r => r.1.name ≠ ruleName ip }) := by
    simp [unblockIp, valid, unblockCommand, os, subprocessRun, clean, working, Firewall.exec]
  rw [undone_iff, deleted]
  constructor
  · intro ⟨_, same⟩
    have kept := congrArg (fun out => out.2.2.advfirewall) same
    simpa [List.filter_eq_self] using kept
  · intro unused
    have kept : (fw.advfirewall.filter fun r => r.1.name ≠ ruleName ip) = fw.advfirewall := by
      simpa [List.filter_eq_self] using unused
    exact ⟨{ m with blockedIps := (insert ip m.blockedIps).erase ip }, by simp only [kept]⟩

theorem block_undone_iff (noRule : NoRule m.osType ip fw)
    (blocks : Blocks decimal takes m fw ip reason) :
    Undone decimal takes m fw ip reason ↔
      m.osType = "windows" ∧ ∀ r ∈ fw.advfirewall, r.1.name ≠ ruleName ip := by
  by_cases windows : m.osType = "windows"
  · rw [windows_undone_iff windows blocks]
    simp [windows]
  · have refused : ¬ Undone decimal takes m fw ip reason := by
      by_cases linux : m.osType = "linux"
      · exact linux_not_undone linux noRule blocks
      · by_cases darwin : m.osType = "darwin"
        · exact darwin_not_undone darwin noRule blocks
        · obtain ⟨-, c, after, command, -⟩ := blocks.ran
          simp [blockCommand, linux, windows, darwin] at command
    simp [windows, refused]

theorem blocks_of_taken {c : Command} {after : Firewall} (valid : validateIp decimal ip = true)
    (visible : isPrivate ip = false) (command : blockCommand m.osType ip reason = some c)
    (clean : c.hasNul = false) (executed : fw.exec c = some after) (taken : takes c = true) :
    Blocks decimal takes m fw ip reason := by
  have returned : working takes fw c = (.returned, after) := by
    cases c <;> simp [working, executed, taken]
  simp [Blocks, blockIp, valid, visible, command, subprocessRun, clean, returned]

end

def asciiDigit (c : Char) : Option Nat := if c.isDigit then some (c.toNat - '0'.toNat) else none

def Firewall.empty : Firewall := ⟨[], [], fun _ => none⟩

theorem eights_valid : validateIp asciiDigit "8.8.8.8" = true := by decide +kernel

theorem eights_public : isPrivate "8.8.8.8" = false := by simp [isPrivate]

def Firewall.used : Firewall :=
  { Firewall.empty with advfirewall := [(⟨ruleName "9.9.9.9", "in", "block", some "9.9.9.9"⟩, .manager),
      (⟨"Remote Desktop", "in", "allow", some "192.168.1.20"⟩, .other)] }

theorem windows_block_undone : Undone asciiDigit (fun _ => true) ⟨"windows", {"9.9.9.9"}⟩ .used "8.8.8.8" "scan" := by
  have noRule : NoRule "windows" "8.8.8.8" .used := by simp [NoRule, Firewall.used]
  have unused : ∀ r ∈ Firewall.used.advfirewall, r.1.name ≠ ruleName "8.8.8.8" := by decide +kernel
  exact (block_undone_iff noRule
    (blocks_of_taken eights_valid eights_public rfl (by decide +kernel) rfl rfl)).mpr ⟨rfl, unused⟩

theorem linux_block_stays : ¬ ∀ (decimal : Char → Option Nat) (takes : Command → Bool) (m : Manager)
    (fw : Firewall) (ip reason : String), m.osType ∈ ["linux", "windows", "darwin"] →
    NoRule m.osType ip fw → Blocks decimal takes m fw ip reason → Undone decimal takes m fw ip reason := by
  intro undone
  have noRule : NoRule "linux" "8.8.8.8" .empty := by simp [NoRule, Firewall.empty]
  have blocks : Blocks asciiDigit (fun _ => true) ⟨"linux", ∅⟩ .empty "8.8.8.8" "scan" :=
    blocks_of_taken eights_valid eights_public rfl (by decide +kernel) rfl rfl
  exact linux_not_undone rfl noRule blocks
    (undone asciiDigit _ ⟨"linux", ∅⟩ _ _ _ (by simp) noRule blocks)

end GuardianPi.Agent.FirewallManager
