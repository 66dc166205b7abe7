import GuardianPi.Library.Transition
import GuardianPi.Agent.FirewallManager

namespace GuardianPi.Agent.FirewallManager
open Library

inductive Outcome where
  | exitZero
  | nonZero (text : String)
  | timeout (done : Bool)
  | missing

/-- A command with nothing to delete cannot end with status 0. -/
def Outcome.runner : Outcome → Runner := fun o fw c =>
  match o, fw.exec c with
  | .exitZero, some after => (.returned, after)
  | .exitZero, none => (.calledProcessError "", fw)
  | .nonZero text, _ => (.calledProcessError text, fw)
  | .timeout true, some after => (.raised .timeoutExpired, after)
  | .timeout _, _ => (.raised .timeoutExpired, fw)
  | .missing, _ => (.raised .fileNotFoundError, fw)

inductive Call where
  | block (ip reason : String) (outcome : Outcome)
  | unblock (ip : String) (outcome : Outcome)

/-- `returned` tells whether the last call gave a result dictionary. -/
structure Books where
  manager : Manager
  firewall : Firewall
  returned : Bool

def Books.of (called : Except Raised Result × Manager × Firewall) : Books :=
  ⟨called.2.1, called.2.2, called.1.isOk⟩

def step (decimal : Char → Option Nat) (s : Books) : Call → Option Books
  | .block ip reason o => some (.of (blockIp decimal o.runner s.manager s.firewall ip reason))
  | .unblock ip o => some (.of (unblockIp decimal o.runner s.manager s.firewall ip))

def Books.start (osType : String) (fw : Firewall) : Books := ⟨⟨osType, ∅⟩, fw, true⟩

/-- The firewall holds a rule of this manager that blocks the address. -/
def Installed (osType : String) (fw : Firewall) (ip : String) : Prop :=
  if osType = "linux" then
    ∃ r ∈ fw.input, r.2 = .manager ∧ r.1.source = some ip ∧ r.1.target = "DROP"
  else if osType = "windows" then
    ∃ r ∈ fw.advfirewall, r.2 = .manager ∧ r.1.remoteip = some ip ∧ r.1.dir = "in" ∧ r.1.action = "block"
  else if osType = "darwin" then fw.guardianBlocked ip = some .manager
  else False

def Books.Accurate (s : Books) : Prop :=
  s.returned = true ∧
    ∀ ip, ip ∈ s.manager.blockedIps ↔ Installed s.manager.osType s.firewall ip

def Foreign (fw : Firewall) : Prop :=
  (∀ r ∈ fw.input, r.2 = .other) ∧ (∀ r ∈ fw.advfirewall, r.2 = .other) ∧
    ∀ ip, fw.guardianBlocked ip ≠ some .manager

def Exits (c : Command) (o : Outcome) : Prop :=
  c.hasNul = false ∧ (o = .exitZero ∨ ∃ text, o = .nonZero text)

/-- The calls that keep the books accurate. -/
def Keeps (decimal : Char → Option Nat) (s : Books) : Call → Prop
  | .block ip reason o => validateIp decimal ip = true → isPrivate ip = false →
      ∀ c, blockCommand s.manager.osType ip reason = some c → Exits c o ∧
        (o = .exitZero → s.manager.osType = "darwin" → s.firewall.guardianBlocked ip ≠ some .other)
  | .unblock ip o => validateIp decimal ip = true →
      (∀ c, unblockCommand s.manager.osType ip = some c → Exits c o) ∧
        (ip ∈ s.manager.blockedIps → s.manager.osType ≠ "darwin" ∧
          (o = .exitZero → s.manager.osType = "linux" →
            ⟨some ip, "DROP", []⟩ ∉ s.firewall.input.map Prod.fst))

/-! ## What a command installs -/

/-- The marks that tell the manager's rules from those that it deletes. -/
structure Marked (fw : Firewall) : Prop where
  input : ∀ r ∈ fw.input, r.2 = .manager → r.1.options ≠ []
  advfirewall : ∀ r ∈ fw.advfirewall, r.2 = .manager → ∀ ip, r.1.remoteip = some ip → r.1.name = ruleName ip

theorem ruleName_inj {ip q : String} : ruleName ip = ruleName q ↔ ip = q := String.append_right_inj _

theorem Foreign.marked {fw : Firewall} (foreign : Foreign fw) : Marked fw where
  input r here owned := by simp [foreign.1 r here] at owned
  advfirewall r here owned := by simp [foreign.2.1 r here] at owned

theorem Foreign.not_installed {osType : String} {fw : Firewall} (foreign : Foreign fw) (ip : String) :
    ¬ Installed osType fw ip := by
  unfold Installed
  split_ifs
  · intro ⟨r, here, owned, _⟩
    simp [foreign.1 r here] at owned
  · intro ⟨r, here, owned, _⟩
    simp [foreign.2.1 r here] at owned
  · exact foreign.2.2 ip
  · exact id

section
variable {osType ip reason : String} {fw after : Firewall} {c : Command}

theorem Marked.block (marked : Marked fw) (command : blockCommand osType ip reason = some c)
    (done : fw.exec c = some after) : Marked after := by
  unfold blockCommand at command
  split_ifs at command
  · obtain rfl := Option.some.inj command
    obtain rfl := Option.some.inj done
    refine ⟨?_, marked.advfirewall⟩
    intro r here owned
    obtain old | new := List.mem_append.mp here
    · exact marked.input r old owned
    · simp [List.mem_singleton.mp new]
  · obtain rfl := Option.some.inj command
    obtain rfl := Option.some.inj done
    refine ⟨marked.input, ?_⟩
    intro r here owned q remote
    obtain old | new := List.mem_append.mp here
    · exact marked.advfirewall r old owned q remote
    · simp_all
  · obtain rfl := Option.some.inj command
    simp only [Firewall.exec] at done
    split_ifs at done <;> obtain rfl := Option.some.inj done
    · exact marked
    · exact ⟨marked.input, marked.advfirewall⟩

theorem Marked.unblock (marked : Marked fw) (command : unblockCommand osType ip = some c)
    (done : fw.exec c = some after) : Marked after := by
  unfold unblockCommand at command
  split_ifs at command <;> obtain rfl := Option.some.inj command
  · simp only [Firewall.exec] at done
    split_ifs at done
    obtain rfl := Option.some.inj done
    exact ⟨fun r here => marked.input r (List.mem_of_mem_eraseP here), marked.advfirewall⟩
  · simp only [Firewall.exec] at done
    split_ifs at done
    obtain rfl := Option.some.inj done
    exact ⟨marked.input, fun r here => marked.advfirewall r (List.mem_of_mem_filter here)⟩

theorem installed_block (command : blockCommand osType ip reason = some c)
    (done : fw.exec c = some after) (q : String) :
    Installed osType after q ↔ Installed osType fw q ∨
      q = ip ∧ (osType = "darwin" → fw.guardianBlocked ip ≠ some .other) := by
  unfold blockCommand at command
  split_ifs at command with linux windows darwin
  · obtain rfl := Option.some.inj command
    obtain rfl := Option.some.inj done
    simp [Installed, linux, or_and_right, exists_or, eq_comm]
  · obtain rfl := Option.some.inj command
    obtain rfl := Option.some.inj done
    simp [Installed, windows, or_and_right, exists_or, eq_comm]
  · obtain rfl := Option.some.inj command
    simp only [Installed, darwin, String.reduceEq, if_false, if_true, true_imp_iff]
    simp only [Firewall.exec] at done
    by_cases same : q = ip
    · subst q
      rcases entry : fw.guardianBlocked ip with _ | owner
      · obtain rfl : _ = after := by simpa [entry] using done
        simp
      · obtain rfl : fw = after := by simpa [entry] using done
        cases owner <;> simp [entry]
    · split_ifs at done <;> obtain rfl := Option.some.inj done <;> simp [same]

theorem installed_unblock (marked : Marked fw) (command : unblockCommand osType ip = some c)
    (done : fw.exec c = some after) (q : String) :
    Installed osType after q ↔ Installed osType fw q ∧ (osType = "windows" → q ≠ ip) := by
  unfold unblockCommand at command
  split_ifs at command with linux windows <;> obtain rfl := Option.some.inj command
  · simp only [Firewall.exec] at done
    split_ifs at done
    obtain rfl := Option.some.inj done
    -- the rule that goes has no comment, so it is not the manager's
    have kept : ∀ r : IptablesRule × Owner, r.2 = .manager →
        (r ∈ fw.input.eraseP (fun r => r.1 = ⟨some ip, "DROP", []⟩) ↔ r ∈ fw.input) := by
      intro r owned
      refine ⟨List.mem_of_mem_eraseP, fun here => ?_⟩
      refine (List.mem_eraseP_of_neg ?_).mpr here
      have comment := marked.input r here owned
      simp only [decide_eq_true_eq]
      intro same
      exact comment (by rw [same])
    simp only [Installed, linux, if_true, String.reduceEq, false_imp_iff, and_true]
    constructor
    · rintro ⟨r, here, owned, rest⟩
      exact ⟨r, (kept r owned).mp here, owned, rest⟩
    · rintro ⟨r, here, owned, rest⟩
      exact ⟨r, (kept r owned).mpr here, owned, rest⟩
  · simp only [Firewall.exec] at done
    split_ifs at done
    obtain rfl := Option.some.inj done
    simp only [Installed, windows, String.reduceEq, if_false, if_true, List.mem_filter,
      decide_eq_true_eq, true_imp_iff]
    constructor
    · rintro ⟨r, ⟨here, name⟩, owned, remote, rest⟩
      refine ⟨⟨r, here, owned, remote, rest⟩, ?_⟩
      rintro rfl
      exact name (marked.advfirewall r here owned q remote)
    · rintro ⟨⟨r, here, owned, remote, rest⟩, differs⟩
      refine ⟨r, ⟨here, ?_⟩, owned, remote, rest⟩
      rw [marked.advfirewall r here owned q remote]
      exact fun same => differs (ruleName_inj.mp same)

end

/-! ## One call -/

theorem subprocessRun_cases (o : Outcome) (fw : Firewall) (c : Command) :
    (∃ after, o = .exitZero ∧ Exits c o ∧ fw.exec c = some after ∧
      subprocessRun o.runner fw c = (.returned, after)) ∨
    (∃ text, Exits c o ∧ (o = .exitZero → fw.exec c = none) ∧
      subprocessRun o.runner fw c = (.calledProcessError text, fw)) ∨
    (∃ e after, ¬ Exits c o ∧ subprocessRun o.runner fw c = (.raised e, after)) := by
  by_cases nul : c.hasNul = true
  · exact .inr (.inr ⟨.valueError, fw, by simp [Exits, nul], by simp [subprocessRun, nul]⟩)
  · rcases o with _ | text | done | _
    · cases executed : fw.exec c with
      | none => exact .inr (.inl ⟨"", by simp [Exits, nul], fun _ => rfl,
          by simp [subprocessRun, nul, Outcome.runner, executed]⟩)
      | some after => exact .inl ⟨after, rfl, by simp [Exits, nul], rfl,
          by simp [subprocessRun, nul, Outcome.runner, executed]⟩
    · exact .inr (.inl ⟨text, by simp [Exits, nul], by simp,
        by simp [subprocessRun, nul, Outcome.runner]⟩)
    · refine .inr (.inr ⟨.timeoutExpired, (Outcome.runner (.timeout done) fw c).2, by simp [Exits], ?_⟩)
      cases done <;> cases executed : fw.exec c <;>
        simp [subprocessRun, nul, Outcome.runner, executed]
    · exact .inr (.inr ⟨.fileNotFoundError, fw, by simp [Exits],
        by simp [subprocessRun, nul, Outcome.runner]⟩)

theorem exec_blockCommand {osType ip reason : String} {c : Command}
    (command : blockCommand osType ip reason = some c) (fw : Firewall) : fw.exec c ≠ none := by
  unfold blockCommand at command
  split_ifs at command <;> obtain rfl := Option.some.inj command
  · simp [Firewall.exec]
  · simp [Firewall.exec]
  · simp only [Firewall.exec]
    split_ifs <;> simp

theorem unblockCommand_cases {osType ip : String} {c : Command} (command : unblockCommand osType ip = some c) :
    (osType = "linux" ∧ c = .iptablesDelete ⟨some ip, "DROP", []⟩) ∨
      (osType = "windows" ∧ c = .netshDelete (ruleName ip)) := by
  unfold unblockCommand at command
  split_ifs at command with linux windows
  · exact .inl ⟨linux, (Option.some.inj command).symm⟩
  · exact .inr ⟨windows, (Option.some.inj command).symm⟩

section
variable {decimal : Char → Option Nat} {s t : Books} {ip reason : String} {o : Outcome}

theorem step_osType {call : Call} (next : step decimal s call = some t) :
    t.manager.osType = s.manager.osType := by
  cases call <;> obtain rfl := Option.some.inj next
  · simp only [Books.of, blockIp]
    split_ifs
    · rfl
    · rfl
    · split
      · rfl
      · split <;> rfl
  · simp only [Books.of, unblockIp]
    split_ifs
    · rfl
    · split <;> rfl

theorem blockIp_ignored (ignored : ∀ c, validateIp decimal ip = true → isPrivate ip = false →
    blockCommand s.manager.osType ip reason ≠ some c) :
    ∃ text, blockIp decimal o.runner s.manager s.firewall ip reason =
      (.ok (.failure text), s.manager, s.firewall) := by
  by_cases valid : validateIp decimal ip = true
  · by_cases hidden : isPrivate ip = true
    · exact ⟨"Cannot block private/loopback IPs", by simp [blockIp, valid, hidden]⟩
    · cases command : blockCommand s.manager.osType ip reason with
      | none => exact ⟨s!"Unsupported OS: {s.manager.osType}", by simp [blockIp, valid, hidden, command]⟩
      | some c => exact absurd command (ignored c valid (by simpa using hidden))
  · exact ⟨"Invalid IP address", by simp [blockIp, valid]⟩

theorem books_blockIp {c : Command} (valid : validateIp decimal ip = true) (visible : isPrivate ip = false)
    (command : blockCommand s.manager.osType ip reason = some c) :
    Books.of (blockIp decimal o.runner s.manager s.firewall ip reason) =
      match subprocessRun o.runner s.firewall c with
      | (.returned, after) => ⟨{ s.manager with blockedIps := insert ip s.manager.blockedIps }, after, true⟩
      | (.calledProcessError _, after) => ⟨s.manager, after, true⟩
      | (.raised _, after) => ⟨s.manager, after, false⟩ := by
  rcases ran : subprocessRun o.runner s.firewall c with ⟨completed, after⟩
  cases completed <;> simp [blockIp, valid, visible, command, ran, Books.of, Except.isOk, Except.toBool]

theorem books_unblockIp {c : Command} (valid : validateIp decimal ip = true)
    (command : unblockCommand s.manager.osType ip = some c) :
    Books.of (unblockIp decimal o.runner s.manager s.firewall ip) =
      match subprocessRun o.runner s.firewall c with
      | (.returned, after) =>
          ⟨{ s.manager with blockedIps := s.manager.blockedIps.erase ip }, after, true⟩
      | (.calledProcessError _, after) => ⟨s.manager, after, true⟩
      | (.raised _, after) => ⟨s.manager, after, false⟩ := by
  rcases ran : subprocessRun o.runner s.firewall c with ⟨completed, after⟩
  cases completed <;> simp [unblockIp, valid, command, ran, Books.of, Except.isOk, Except.toBool]

theorem not_accurate_of_raised {m : Manager} {fw : Firewall} : ¬ Books.Accurate ⟨m, fw, false⟩ :=
  fun accurate => absurd accurate.1 Bool.false_ne_true

theorem block_accurate (marked : Marked s.firewall) (accurate : s.Accurate)
    (taken : step decimal s (.block ip reason o) = some t) :
    (t.Accurate ↔ Keeps decimal s (.block ip reason o)) ∧ (t.Accurate → Marked t.firewall) := by
  obtain rfl := Option.some.inj taken
  by_cases ignored : ∀ c, validateIp decimal ip = true → isPrivate ip = false →
      blockCommand s.manager.osType ip reason ≠ some c
  · obtain ⟨text, same⟩ := blockIp_ignored (o := o) ignored
    have keeps : Keeps decimal s (.block ip reason o) := fun valid visible c command =>
      absurd command (ignored c valid visible)
    rw [same]
    exact ⟨iff_of_true ⟨rfl, accurate.2⟩ keeps, fun _ => marked⟩
  · push Not at ignored
    obtain ⟨c, valid, visible, command⟩ := ignored
    have keeps_iff : Keeps decimal s (.block ip reason o) ↔ Exits c o ∧ (o = .exitZero →
        s.manager.osType = "darwin" → s.firewall.guardianBlocked ip ≠ some .other) := by
      simp [Keeps, valid, visible, command]
    rw [keeps_iff, books_blockIp valid visible command]
    obtain ⟨after, zero, exits, done, ran⟩ | ⟨text, exits, undone, ran⟩ | ⟨e, after, raises, ran⟩ :=
      subprocessRun_cases o s.firewall c
    · rw [ran]
      subst zero
      refine ⟨?_, fun _ => marked.block command done⟩
      simp only [Books.Accurate, exits, true_and, true_imp_iff, Finset.mem_insert,
        installed_block command done, accurate.2]
      constructor
      · intro agree darwin owned
        obtain installed | ⟨-, free⟩ := (agree ip).mp (.inl rfl)
        · simp [Installed, darwin, owned] at installed
        · exact free darwin owned
      · intro free q
        rw [or_comm, and_iff_left free]
    · rw [ran]
      refine ⟨iff_of_true ⟨rfl, accurate.2⟩ ⟨exits, fun zero => ?_⟩, fun _ => marked⟩
      exact absurd (undone zero) (exec_blockCommand command _)
    · rw [ran]
      exact ⟨iff_of_false not_accurate_of_raised fun keeps => raises keeps.1,
        fun accurate => absurd accurate not_accurate_of_raised⟩

theorem forall_ne_and_iff {P : String → Prop} : (∀ q, q ≠ ip ∧ P q ↔ P q) ↔ ¬ P ip := by
  constructor
  · intro agree here
    exact ((agree ip).mpr here).1 rfl
  · intro absent q
    refine ⟨And.right, fun here => ⟨?_, here⟩⟩
    rintro rfl
    exact absent here

theorem accurate_erase_iff (marked : Marked s.firewall) (accurate : s.Accurate) {c : Command} {after : Firewall}
    (command : unblockCommand s.manager.osType ip = some c) (done : s.firewall.exec c = some after) :
    Books.Accurate ⟨{ s.manager with blockedIps := s.manager.blockedIps.erase ip }, after, true⟩ ↔
      (ip ∈ s.manager.blockedIps → s.manager.osType ≠ "darwin" ∧ (s.manager.osType = "linux" →
        ⟨some ip, "DROP", []⟩ ∉ s.firewall.input.map Prod.fst)) := by
  simp only [Books.Accurate, true_and, Finset.mem_erase, accurate.2, installed_unblock marked command done]
  obtain ⟨os, rfl⟩ | ⟨os, rfl⟩ := unblockCommand_cases command
  · have present : ⟨some ip, "DROP", []⟩ ∈ s.firewall.input.map Prod.fst := by
      by_contra absent
      simp [Firewall.exec, absent] at done
    simp only [os, String.reduceEq, false_imp_iff, and_true, forall_ne_and_iff]
    simp [present]
  · simp only [os, String.reduceEq, ne_eq, not_false_eq_true, false_imp_iff, and_true, true_imp_iff,
      implies_true, iff_true]
    exact fun q => And.comm

theorem unblock_accurate (marked : Marked s.firewall) (accurate : s.Accurate)
    (taken : step decimal s (.unblock ip o) = some t) :
    (t.Accurate ↔ Keeps decimal s (.unblock ip o)) ∧ (t.Accurate → Marked t.firewall) := by
  obtain rfl := Option.some.inj taken
  by_cases valid : validateIp decimal ip = true
  case neg =>
    have same : unblockIp decimal o.runner s.manager s.firewall ip =
        (.ok (.failure "Invalid IP address"), s.manager, s.firewall) := by simp [unblockIp, valid]
    rw [same]
    exact ⟨iff_of_true ⟨rfl, accurate.2⟩ fun holds => absurd holds valid, fun _ => marked⟩
  cases command : unblockCommand s.manager.osType ip with
  | none =>
      have called : Books.of (unblockIp decimal o.runner s.manager s.firewall ip) =
          ⟨{ s.manager with blockedIps := s.manager.blockedIps.erase ip }, s.firewall, true⟩ := by
        simp [unblockIp, valid, command, Books.of, Except.isOk, Except.toBool]
      rw [called]
      refine ⟨?_, fun _ => marked⟩
      have other : s.manager.osType ≠ "linux" ∧ s.manager.osType ≠ "windows" := by
        constructor <;> intro os <;> simp [unblockCommand, os] at command
      simp only [Books.Accurate, Keeps, valid, command, true_and, true_imp_iff, Finset.mem_erase,
        accurate.2, reduceCtorEq, false_imp_iff, implies_true, other, and_true, forall_ne_and_iff]
      constructor
      · intro absent installed
        exact absurd installed absent
      · intro free installed
        have darwin := free installed
        simp [Installed, other, darwin] at installed
  | some c =>
      rw [books_unblockIp valid command]
      obtain ⟨after, zero, exits, done, ran⟩ | ⟨text, exits, undone, ran⟩ | ⟨e, after, raises, ran⟩ :=
        subprocessRun_cases o s.firewall c
      · rw [ran, accurate_erase_iff marked accurate command done]
        subst zero
        refine ⟨?_, fun _ => marked.unblock command done⟩
        simp only [Keeps, valid, command, true_imp_iff, Option.some.injEq, forall_eq', exits, true_and]
      · rw [ran]
        refine ⟨iff_of_true ⟨rfl, accurate.2⟩ ?_, fun _ => marked⟩
        simp only [Keeps, valid, command, true_imp_iff, Option.some.injEq, forall_eq', exits, true_and]
        obtain ⟨os, rfl⟩ | ⟨os, rfl⟩ := unblockCommand_cases command
        · refine fun _ => ⟨by simp [os], fun zero _ present => ?_⟩
          simp [Firewall.exec, present] at undone
          exact undone zero
        · simp [os]
      · rw [ran]
        exact ⟨iff_of_false not_accurate_of_raised fun keeps => raises ((keeps valid).1 c command),
          fun accurate => absurd accurate not_accurate_of_raised⟩

theorem books_accurate_iff (osType : String) {fw : Firewall} (foreign : Foreign fw) (calls : List Call) :
    Always (step decimal) Books.Accurate (.start osType fw) calls ↔
      Along (step decimal) (Keeps decimal) (.start osType fw) calls := by
  have total : ∀ s call, ∃ t, step decimal s call = some t := by
    intro s call
    cases call <;> exact ⟨_, rfl⟩
  obtain ⟨t, taken⟩ := run_of_total total (.start osType fw) calls
  refine always_iff_along (I := fun s => Marked s.firewall) foreign.marked ⟨rfl, fun ip => ?_⟩ ?_ taken
  · exact iff_of_false (Finset.notMem_empty ip) (foreign.not_installed ip)
  · intro s call t marked accurate next
    cases call with
    | block ip reason o => exact block_accurate marked accurate next
    | unblock ip o => exact unblock_accurate marked accurate next

end

theorem windows_books_accurate : Always (step asciiDigit) Books.Accurate (.start "windows" .empty)
    [.block "8.8.8.8" "scan" .exitZero, .block "8.8.8.8" "scan" .exitZero,
      .unblock "8.8.8.8" .exitZero] := by
  refine (books_accurate_iff "windows" ⟨by simp [Firewall.empty], by simp [Firewall.empty],
    by simp [Firewall.empty]⟩ _).mpr ?_
  have block : ∀ s : Books, s.manager.osType = "windows" →
      Keeps asciiDigit s (.block "8.8.8.8" "scan" .exitZero) := by
    intro s os _ _ c command
    rw [os] at command
    obtain rfl := Option.some.inj command
    exact ⟨⟨by decide +kernel, .inl rfl⟩, by simp [os]⟩
  have unblock : ∀ s : Books, s.manager.osType = "windows" →
      Keeps asciiDigit s (.unblock "8.8.8.8" .exitZero) := by
    intro s os _
    refine ⟨fun c command => ?_, by simp [os]⟩
    rw [os] at command
    obtain rfl := Option.some.inj command
    exact ⟨by decide +kernel, .inl rfl⟩
  refine ⟨block _ rfl, fun s first => ⟨block s (step_osType first), fun t second => ⟨unblock t ?_, ?_⟩⟩⟩
  · exact (step_osType second).trans (step_osType first)
  · exact fun _ _ => trivial

theorem darwin_books_wrong : ¬ ∀ (decimal : Char → Option Nat) (osType : String) (fw : Firewall)
    (calls : List Call), Foreign fw → Always (step decimal) Books.Accurate (.start osType fw) calls := by
  intro accurate
  have foreign : Foreign .empty :=
    ⟨by simp [Firewall.empty], by simp [Firewall.empty], by simp [Firewall.empty]⟩
  have clean : (Command.pfctlAdd "8.8.8.8").hasNul = false := by decide +kernel
  have both : run (step asciiDigit) (.start "darwin" .empty)
      [.block "8.8.8.8" "scan" .exitZero, .unblock "8.8.8.8" .exitZero] =
      some ⟨⟨"darwin", ∅⟩, ⟨[], [], Function.update (fun _ => none) "8.8.8.8" (some .manager)⟩, true⟩ := by
    simp [run, step, Books.start, Books.of, blockIp, eights_valid, eights_public, blockCommand, subprocessRun,
      clean, Outcome.runner, Firewall.exec, Firewall.empty, unblockIp, unblockCommand, Except.isOk, Except.toBool]
  have last := accurate asciiDigit "darwin" .empty _ foreign _ [] (List.append_nil _).symm _ both
  have blocked := (last.2 "8.8.8.8").mpr (by simp [Installed])
  exact Finset.notMem_empty _ blocked

end GuardianPi.Agent.FirewallManager
