import GuardianPi.Backend.RowUpdates
import GuardianPi.EdgeAgent.Detector

namespace GuardianPi.EdgeAgent
open GuardianPi.Library

inductive Target where
  | linuxAmd64
  | linuxArm64
  | windowsAmd64
  | darwinArm64

def Target.goos : Target → String
  | linuxAmd64 | linuxArm64 => "linux"
  | windowsAmd64 => "windows"
  | darwinArm64 => "darwin"

def Target.goarch : Target → String
  | linuxAmd64 | windowsAmd64 => "amd64"
  | linuxArm64 | darwinArm64 => "arm64"

/-- What the system answers; memory and storage are in bytes. -/
structure Machine where
  hostname : String
  platformVersion : String
  cpuModels : List String
  numCpu : Nat
  memTotal : Nat
  diskTotal : Nat
  cpuinfo : Option String
  guest : Bool
  rooted : Bool

structure DeviceInfo where
  hostname : String
  osType : String
  osVersion : String
  architecture : String
  cpuModel : String
  cpuCores : Int
  ramMb : Int
  storageGb : Int
  isVirtual : Bool
  isRooted : Bool
  agentVersion : String

section
variable (letters : Letters) (target : Target) (machine : Machine)

def osType : String :=
  if target.goos = "linux" then
    if machine.cpuinfo.any fun data => stringsContains (letters.lower data) "raspberry" then "raspberrypi" else "linux"
  else if target.goos = "darwin" then "macos"
  else target.goos

def getDeviceInfo : DeviceInfo where
  hostname := machine.hostname
  osType := osType letters target machine
  osVersion := machine.platformVersion
  architecture := target.goarch
  cpuModel := machine.cpuModels.head?.getD "Unknown"
  cpuCores := machine.numCpu
  ramMb := (machine.memTotal / 1024 / 1024 : Nat)
  storageGb := (machine.diskTotal / 1024 / 1024 / 1024 : Nat)
  isVirtual := machine.guest
  isRooted := machine.rooted
  agentVersion := "2.0.0"

end

end GuardianPi.EdgeAgent

namespace GuardianPi.Backend.Responses
open GuardianPi.Library GuardianPi.Library.Python GuardianPi.Library.Validation
open GuardianPi.EdgeAgent (Target Machine DeviceInfo getDeviceInfo osType)

def parseDeviceInfo (info : DeviceInfo) : Option DeviceRegisterRequest :=
  if bounds : info.hostname.length ≤ 255 ∧ info.osVersion.length ≤ 100 ∧ info.architecture.length ≤ 50 ∧
      info.agentVersion.length ≤ 50 then
    if known : info.osType ∈ ["windows", "linux", "macos", "android", "ios", "raspberrypi"] then
      if positive : 0 < info.ramMb ∧ 0 < info.cpuCores then some {
        hostname := info.hostname
        osType := info.osType
        osVersion := info.osVersion
        architecture := info.architecture
        ramMb := info.ramMb
        cpuCores := info.cpuCores
        cpuModel := some info.cpuModel
        storageGb := some info.storageGb
        agentVersion := info.agentVersion
        isRooted := info.isRooted
        isVirtual := info.isVirtual
        ipAddress := none
        macAddress := none
        metadataJson := none
        bounds, known, positive }
      else none
    else none
  else none

section
variable (env : Environment) (db : Database) (letters : Letters) (target : Target) (machine : Machine)

def RegistersCompatible : Prop :=
  ∃ r w, parseDeviceInfo (getDeviceInfo letters target machine) = some r ∧ registerDevice env db r = .ok w ∧
    w.row.get "is_compatible" = some (.bool true)

/-- The request of the fingerprint leaves a new device behind that counts as compatible. -/
def YieldsCompatible (currentUser : User) : Prop :=
  ∃ r, parseDeviceInfo (getDeviceInfo letters target machine) = some r ∧
    ∃ device ∈ (handle env currentUser db (.registerDevice r)).2.rows .devices,
      device ∉ db.rows .devices ∧ device.get "is_compatible" = some (.bool true)

/-- Memory and storage reach the minimum that is stated for the operating system. -/
def ReachesMinimum : Prop :=
  ∃ reqs, minimumRequirements.lookup (osType letters target machine) = some reqs ∧
    reqs.minRamMb * 1024 ^ 2 ≤ machine.memTotal ∧ reqs.minStorageGb * 1024 ^ 3 ≤ machine.diskTotal

structure Takes : Prop where
  hostname : machine.hostname.length ≤ 255
  osVersion : machine.platformVersion.length ≤ 100
  cpuModel : (machine.cpuModels.head?.getD "Unknown").length ≤ 255
  cores : 0 < machine.numCpu ∧ machine.numCpu < 2 ^ 31
  ram : 0 < machine.memTotal / 1024 / 1024 ∧ machine.memTotal / 1024 / 1024 < 2 ^ 31
  storage : machine.diskTotal / 1024 / 1024 / 1024 < 2 ^ 31

end

section
variable {env : Environment} {db : Database} {letters : Letters} {target : Target} {machine : Machine}

theorem osType_known (letters : Letters) (target : Target) (machine : Machine) :
    ∃ reqs, minimumRequirements.lookup (osType letters target machine) = some reqs ∧
      (target.goarch ∈ reqs.architectures ↔ target.goarch = "arm64") := by
  have linux : ∀ target : Target, target.goos = "linux" →
      osType letters target machine = "raspberrypi" ∨ osType letters target machine = "linux" := by
    intro target same
    unfold osType
    rw [if_pos same]
    split_ifs
    · exact Or.inl rfl
    · exact Or.inr rfl
  cases target with
  | windowsAmd64 => exact ⟨_, rfl, by decide⟩
  | darwinArm64 => exact ⟨_, rfl, by decide⟩
  | linuxAmd64 =>
      rcases linux .linuxAmd64 rfl with marked | plain
      · rw [marked]
        exact ⟨_, rfl, by decide⟩
      · rw [plain]
        exact ⟨_, rfl, by decide⟩
  | linuxArm64 =>
      rcases linux .linuxArm64 rfl with marked | plain
      · rw [marked]
        exact ⟨_, rfl, by decide⟩
      · rw [plain]
        exact ⟨_, rfl, by decide⟩

theorem isCompatible_iff {r : CompatibilityCheckRequest} {reqs : Requirements}
    (found : minimumRequirements.lookup r.osType = some reqs) : (checkCompatibility r).isCompatible = true ↔
      r.architecture ∈ reqs.architectures ∧ reqs.minRamMb ≤ r.ramMb ∧ reqs.minStorageGb ≤ r.storageGb := by
  unfold checkCompatibility
  rw [found]
  simp only [List.isEmpty_iff, List.append_eq_nil_iff, ite_eq_right_iff, List.cons_ne_nil, imp_false, not_not, not_lt,
    and_assoc]

theorem osType_mem (letters : Letters) (target : Target) (machine : Machine) :
    osType letters target machine ∈ ["windows", "linux", "macos", "android", "ios", "raspberrypi"] := by
  unfold osType
  cases target <;> simp [Target.goos] <;> split_ifs <;> simp

theorem parseDeviceInfo_eq_some {info : DeviceInfo} {r : DeviceRegisterRequest} (parsed : parseDeviceInfo info = some r) :
    r.hostname = info.hostname ∧ r.osType = info.osType ∧ r.osVersion = info.osVersion ∧
      r.architecture = info.architecture ∧ r.ramMb = info.ramMb ∧ r.cpuCores = info.cpuCores ∧
      r.cpuModel = some info.cpuModel ∧ r.storageGb = some info.storageGb ∧ r.agentVersion = info.agentVersion ∧
      r.ipAddress = none ∧ r.macAddress = none ∧ r.metadataJson = none := by
  unfold parseDeviceInfo at parsed
  split_ifs at parsed
  obtain rfl := Option.some.inj parsed
  exact ⟨rfl, rfl, rfl, rfl, rfl, rfl, rfl, rfl, rfl, rfl, rfl, rfl⟩

theorem length_known {r : DeviceRegisterRequest} : r.osType.length ≤ 50 := by
  have short : ∀ name ∈ ["windows", "linux", "macos", "android", "ios", "raspberrypi"], name.length ≤ 50 := by decide
  exact short r.osType r.known

theorem exists_registerDevice_iff {info : DeviceInfo} {r : DeviceRegisterRequest}
    (takes : ∀ row, env.takes .devices row = true) (parsed : parseDeviceInfo info = some r) :
    (∃ w, registerDevice env db r = .ok w) ↔ info.cpuModel.length ≤ 255 ∧ info.ramMb < 2 ^ 31 ∧
      info.cpuCores < 2 ^ 31 ∧ -2 ^ 31 ≤ info.storageGb ∧ info.storageGb < 2 ^ 31 := by
  have osType := length_known (r := r)
  have online : "online".length ≤ 50 := by decide
  obtain ⟨hostname, -, osVersion, architecture, ramMb, cpuCores, cpuModel, storageGb, agentVersion, ipAddress, macAddress,
    metadataJson⟩ := parseDeviceInfo_eq_some parsed
  obtain ⟨hostnameBound, osVersionBound, architectureBound, agentVersionBound⟩ := r.bounds
  obtain ⟨ramPositive, coresPositive⟩ := r.positive
  unfold registerDevice
  rw [exists_insert_iff takes]
  simp only [Table.columns, List.mem_cons, List.not_mem_nil, or_false, Orm.Column.admits, text, cpuModel,
    Option.map_some, storageGb, Option.getD_some, ipAddress, Option.map_none, macAddress, dict, metadataJson,
    Table.defaults, List.cons_append, List.nil_append, List.lookup_cons, List.lookup_nil,
    TypedColumn.toColumn, ColumnType.accepts, Int.reducePow, Int.reduceNeg, Bool.decide_and, forall_eq_or_imp,
    String.reduceBEq, BEq.rfl, Option.join_some, Option.all_some, hostnameBound, decide_true, osType, osVersionBound,
    architectureBound, Bool.and_eq_true, decide_eq_true_eq, agentVersionBound, online, Option.join_none, forall_eq,
    and_self, and_true, true_and]
  omega

theorem parseDeviceInfo_isSome {info : DeviceInfo} : (∃ r, parseDeviceInfo info = some r) ↔
    (info.hostname.length ≤ 255 ∧ info.osVersion.length ≤ 100 ∧ info.architecture.length ≤ 50 ∧
      info.agentVersion.length ≤ 50) ∧
    info.osType ∈ ["windows", "linux", "macos", "android", "ios", "raspberrypi"] ∧ 0 < info.ramMb ∧ 0 < info.cpuCores := by
  unfold parseDeviceInfo
  split_ifs with bounds known positive
  · exact iff_of_true ⟨_, rfl⟩ ⟨bounds, known, positive⟩
  · exact iff_of_false exists_false fun h => positive h.2.2
  · exact iff_of_false exists_false fun h => known h.2.1
  · exact iff_of_false exists_false fun h => bounds h.1

theorem exists_parsed (letters : Letters) (target : Target) (t : Takes machine) :
    ∃ r, parseDeviceInfo (getDeviceInfo letters target machine) = some r := by
  have ram : (getDeviceInfo letters target machine).ramMb = (machine.memTotal / 1024 / 1024 : Nat) := rfl
  have cores : (getDeviceInfo letters target machine).cpuCores = machine.numCpu := rfl
  refine parseDeviceInfo_isSome.mpr ⟨⟨t.hostname, t.osVersion, ?_, ?_⟩, osType_mem letters target machine, ?_, ?_⟩
  · show target.goarch.length ≤ 50
    cases target <;> decide
  · show "2.0.0".length ≤ 50
    decide
  · have := t.ram
    omega
  · have := t.cores
    omega

theorem takes_iff (takes : ∀ row, env.takes .devices row = true) : Takes machine ↔
    ∃ r w, parseDeviceInfo (getDeviceInfo letters target machine) = some r ∧ registerDevice env db r = .ok w := by
  have ram : (getDeviceInfo letters target machine).ramMb = (machine.memTotal / 1024 / 1024 : Nat) := rfl
  have cores : (getDeviceInfo letters target machine).cpuCores = machine.numCpu := rfl
  have storage : (getDeviceInfo letters target machine).storageGb = (machine.diskTotal / 1024 / 1024 / 1024 : Nat) := rfl
  constructor
  · intro t
    obtain ⟨r, parsed⟩ := exists_parsed letters target t
    have registered : ∃ w, registerDevice env db r = .ok w := by
      have := t.ram
      have := t.cores
      have := t.storage
      exact (exists_registerDevice_iff takes parsed).mpr ⟨t.cpuModel, by omega, by omega, by omega, by omega⟩
    obtain ⟨w, made⟩ := registered
    exact ⟨r, w, parsed, made⟩
  · rintro ⟨r, w, parsed, made⟩
    obtain ⟨⟨hostname, osVersion, -⟩, -, ramPositive, coresPositive⟩ := parseDeviceInfo_isSome.mp ⟨r, parsed⟩
    obtain ⟨cpuModel, ramBound, coresBound, -, storageBound⟩ := (exists_registerDevice_iff takes parsed).mp ⟨w, made⟩
    exact ⟨hostname, osVersion, cpuModel, by omega, by omega, by omega⟩

theorem reachesMinimum_iff {reqs : Requirements}
    (found : minimumRequirements.lookup (osType letters target machine) = some reqs) :
    ReachesMinimum letters target machine ↔
      reqs.minRamMb ≤ (getDeviceInfo letters target machine).ramMb ∧
      reqs.minStorageGb ≤ (getDeviceInfo letters target machine).storageGb := by
  have ram : reqs.minRamMb * 1024 ^ 2 ≤ machine.memTotal ↔
      reqs.minRamMb ≤ (machine.memTotal / 1024 / 1024 : Nat) := by omega
  have storage : reqs.minStorageGb * 1024 ^ 3 ≤ machine.diskTotal ↔
      reqs.minStorageGb ≤ (machine.diskTotal / 1024 / 1024 / 1024 : Nat) := by omega
  constructor
  · rintro ⟨reqs', found', reached⟩
    obtain rfl := Option.some.inj (found.symm.trans found')
    exact ⟨ram.mp reached.1, storage.mp reached.2⟩
  · intro ⟨enough, room⟩
    exact ⟨reqs, found, ram.mpr enough, storage.mpr room⟩

theorem registersCompatible_iff (takes : ∀ row, env.takes .devices row = true) :
    RegistersCompatible env db letters target machine ↔
      Takes machine ∧ target.goarch = "arm64" ∧ ReachesMinimum letters target machine := by
  obtain ⟨reqs, found, arm⟩ := osType_known letters target machine
  have verdict : ∀ r w, parseDeviceInfo (getDeviceInfo letters target machine) = some r →
      registerDevice env db r = .ok w →
      (w.row.get "is_compatible" = some (.bool true) ↔
        target.goarch = "arm64" ∧ ReachesMinimum letters target machine) := by
    intro r w parsed made
    obtain ⟨-, sameOs, -, architecture, ramMb, -, -, storageGb, -⟩ := parseDeviceInfo_eq_some parsed
    obtain ⟨row, filled, -, rfl⟩ := insert_eq_ok.mp made
    have read : row.get "is_compatible" = some (.bool (checkCompatibility
        ⟨r.osType, r.osVersion, r.architecture, r.ramMb, r.storageGb.getD 0⟩).isCompatible) :=
      get_of_insert filled (by decide +kernel)
    have listed : minimumRequirements.lookup r.osType = some reqs := by rw [sameOs]; exact found
    have compatible := isCompatible_iff (r := ⟨r.osType, r.osVersion, r.architecture, r.ramMb, r.storageGb.getD 0⟩)
      listed
    rw [read, Option.some.injEq, Attribute.bool.injEq, compatible, architecture, ramMb, storageGb, ← arm,
      reachesMinimum_iff found]
    rfl
  rw [takes_iff takes]
  constructor
  · rintro ⟨r, w, parsed, made, compatible⟩
    exact ⟨⟨r, w, parsed, made⟩, (verdict r w parsed made).mp compatible⟩
  · rintro ⟨⟨r, w, parsed, made⟩, reached⟩
    exact ⟨r, w, parsed, made, (verdict r w parsed made).mpr reached⟩

theorem not_yieldsCompatible (currentUser : User) :
    ¬ YieldsCompatible env db letters target machine currentUser := by
  rintro ⟨r, -, device, new, fresh, -⟩
  rw [(never_rendered env currentUser db (.registerDevice r)).2.1] at new
  exact fresh new

end

/-- A fingerprint yields a compatible device exactly if the minimum is reached, exactly where it is not reached: every
registration is rolled back. The row that is rolled back says compatible exactly if the minimum is reached, exactly
where it is not reached or the target is one for `arm64` and the schema and the columns take the fingerprint. -/
theorem yields_iff_reached_iff {env : Environment} (takes : ∀ row, env.takes .devices row = true) (currentUser : User)
    (db : Database) (letters : Letters) (target : Target) (machine : Machine) :
    ((YieldsCompatible env db letters target machine currentUser ↔ ReachesMinimum letters target machine) ↔
      ¬ ReachesMinimum letters target machine) ∧
    ((RegistersCompatible env db letters target machine ↔ ReachesMinimum letters target machine) ↔
      (¬ ReachesMinimum letters target machine ∨ target.goarch = "arm64" ∧ Takes machine)) := by
  have rolledBack : ¬ YieldsCompatible env db letters target machine currentUser := not_yieldsCompatible currentUser
  rw [registersCompatible_iff takes]
  tauto

def registrar : Environment :=
  ⟨strictRules, .ok, .ok, "d1", "2026-01-01T00:00:00+00:00", "2026-01-01T00:00:00+00:00", fun _ _ => true, true⟩

def server : Machine :=
  ⟨"gateway", "24.04", ["Neoverse-N1"], 4, 8 * 1024 ^ 3, 100 * 1024 ^ 3, none, false, false⟩

theorem server_reachesMinimum (target : Target) (linux : target.goos = "linux") :
    ReachesMinimum .ascii target server := by
  cases target
  case windowsAmd64 | darwinArm64 => exact absurd linux (by decide)
  case linuxAmd64 | linuxArm64 => exact ⟨_, rfl, by decide, by decide⟩

theorem arm_server_rolled_back :
    ¬ (YieldsCompatible registrar .empty .ascii .linuxArm64 server ⟨"", "", "", "", "", true, none⟩ ↔
      ReachesMinimum .ascii .linuxArm64 server) ∧
    (RegistersCompatible registrar .empty .ascii .linuxArm64 server ↔
      ReachesMinimum .ascii .linuxArm64 server) := by
  obtain ⟨yields, registers⟩ := @yields_iff_reached_iff registrar (fun _ => rfl)
    ⟨"", "", "", "", "", true, none⟩ .empty .ascii .linuxArm64 server
  constructor
  · intro agrees
    exact yields.mp agrees (server_reachesMinimum .linuxArm64 rfl)
  · exact registers.mpr (Or.inr ⟨rfl, by constructor <;> decide⟩)

theorem amd_server_incompatible :
    ¬ (YieldsCompatible registrar .empty .ascii .linuxAmd64 server ⟨"", "", "", "", "", true, none⟩ ↔
      ReachesMinimum .ascii .linuxAmd64 server) ∧
    ¬ (RegistersCompatible registrar .empty .ascii .linuxAmd64 server ↔
      ReachesMinimum .ascii .linuxAmd64 server) := by
  have reached := server_reachesMinimum .linuxAmd64 rfl
  constructor
  · intro yields
    exact not_yieldsCompatible _ (yields.mpr reached)
  · intro compatible
    obtain ⟨-, arm, -⟩ := (registersCompatible_iff fun _ => rfl).mp (compatible.mpr reached)
    exact absurd arm (by decide)

end GuardianPi.Backend.Responses
