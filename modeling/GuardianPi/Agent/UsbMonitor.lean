import GuardianPi.Library.Python
import Mathlib.Data.List.Chain
import Mathlib.Data.List.Infix
import Mathlib.Data.List.Nodup

namespace GuardianPi.Agent.UsbMonitor
open GuardianPi.Library.Python

structure Partition where
  device : String
  mountpoint : String
  fstype : String
  opts : String

/-- What psutil says at one time: the partitions, and the size in bytes of each mount point where
`disk_usage` raises nothing. -/
structure Snapshot where
  partitions : List Partition
  diskUsage : String → Option Nat

structure Volume where
  mountpoint : String
  filesystem : String
  totalGb : Rat

inductive UsbEvent where
  | connected (device : String) (volume : Option Volume)
  | disconnected (device : String)

def UsbEvent.event : UsbEvent → String
  | connected _ _ => "usb_connected"
  | disconnected _ => "usb_disconnected"

def UsbEvent.device : UsbEvent → String
  | connected device _ | disconnected device => device

def UsbEvent.title : UsbEvent → String
  | connected device _ => s!"USB connected: {device}"
  | disconnected device => s!"USB disconnected: {device}"

structure Devices where
  list : List String
  distinct : list.Nodup

def Devices.empty : Devices := ⟨[], List.nodup_nil⟩

def Devices.add (s : Devices) (device : String) : Devices := ⟨s.list.insert device, List.Nodup.insert s.distinct⟩

def contains (text part : String) : Bool := part.toList <:+: text.toList

def totalGb (total : Nat) : Rat := (roundHalfEven (total * 100) (1024 ^ 3) : Rat) / 100

def Snapshot.connected (now : Snapshot) (p : Partition) : UsbEvent :=
  .connected p.device ((now.diskUsage p.mountpoint).map fun total => ⟨p.mountpoint, p.fstype, totalGb total⟩)

section
variable (lower : String → String)

def initiallyKnown (p : Partition) : Bool := contains (lower p.opts) "removable"

def initializeKnown (first : Snapshot) : Devices :=
  first.partitions.foldl (fun known p => if initiallyKnown lower p then known.add p.device else known) .empty

def checked (p : Partition) : Bool :=
  let opts := lower p.opts
  if contains opts "fixed" then false
  else if !contains opts "removable" && !contains opts "usb" then false
  else true

def checkPartition (known : Devices) (now : Snapshot) (s : Devices × List UsbEvent) (p : Partition) :
    Devices × List UsbEvent :=
  if checked lower p then
    (s.1.add p.device, if p.device ∉ known.list then s.2 ++ [now.connected p] else s.2)
  else s

def check (known : Devices) (now : Snapshot) : Devices × List UsbEvent :=
  let (current, events) := now.partitions.foldl (checkPartition lower known now) (.empty, [])
  (current, events ++ (known.list.filter (· ∉ current.list)).map .disconnected)

def reports (known : Devices) : List Snapshot → List (List UsbEvent)
  | [] => []
  | now :: later => (check lower known now).2 :: reports (check lower known now).1 later

def Present (s : Snapshot) (device : String) : Prop := ∃ p ∈ s.partitions, checked lower p = true ∧ p.device = device

instance (s : Snapshot) : DecidablePred (Present lower s) := fun device =>
  inferInstanceAs (Decidable (∃ p ∈ s.partitions, checked lower p = true ∧ p.device = device))

def isEvent (event device : String) (e : UsbEvent) : Bool := e.event = event && e.device = device

structure ReportsChanges (before now : Snapshot) (events : List UsbEvent) : Prop where
  connected : ∀ device, events.countP (isEvent "usb_connected" device) =
    if Present lower now device ∧ ¬ Present lower before device then 1 else 0
  disconnected : ∀ device, events.countP (isEvent "usb_disconnected" device) =
    if Present lower before device ∧ ¬ Present lower now device then 1 else 0

def ChangesReported (first : Snapshot) (checks : List Snapshot) : Prop :=
  List.Forall₂ (fun observed events => ReportsChanges lower observed.1 observed.2 events)
    ((first :: checks).zip checks) (reports lower (initializeKnown lower first) checks)

/-- The two tests of the options find the same devices. -/
def SameDevices (first : Snapshot) : Prop :=
  ∀ device, (∃ p ∈ first.partitions, initiallyKnown lower p = true ∧ p.device = device) ↔ Present lower first device

def partitionsOf (s : Snapshot) (device : String) : Nat :=
  s.partitions.countP fun p => checked lower p && p.device = device

/-- A device that comes has one partition that is checked. -/
def OnePartitionEach (before now : Snapshot) : Prop :=
  ∀ device, ¬ Present lower before device → partitionsOf lower now device ≤ 1

variable {lower} {known : Devices} {before now first : Snapshot}

theorem Devices.mem_add (s : Devices) {device d : String} : d ∈ (s.add device).list ↔ d = device ∨ d ∈ s.list :=
  List.mem_insert_iff

theorem mem_foldl_add (p : Partition → Bool) (partitions : List Partition) (s : Devices) (d : String) :
    d ∈ (partitions.foldl (fun s q => if p q then s.add q.device else s) s).list ↔
      d ∈ s.list ∨ ∃ q ∈ partitions, p q = true ∧ q.device = d := by
  induction partitions generalizing s with
  | nil => simp
  | cons q partitions ih =>
      rw [List.foldl_cons, ih, List.exists_mem_cons_iff, ← or_assoc]
      apply or_congr_left
      split_ifs with taken
      · rw [Devices.mem_add, or_comm, eq_comm]
        simp [taken]
      · simp [taken]

theorem mem_initializeKnown (d : String) : d ∈ (initializeKnown lower first).list ↔
    ∃ p ∈ first.partitions, initiallyKnown lower p = true ∧ p.device = d := by
  unfold initializeKnown
  rw [mem_foldl_add]
  simp [Devices.empty]

theorem foldl_checkPartition (partitions : List Partition) (s : Devices × List UsbEvent) :
    partitions.foldl (checkPartition lower known now) s =
      (partitions.foldl (fun s q => if checked lower q then s.add q.device else s) s.1,
        s.2 ++ (partitions.filter fun p => checked lower p && p.device ∉ known.list).map now.connected) := by
  induction partitions generalizing s with
  | nil => simp
  | cons p partitions ih =>
      rw [List.foldl_cons, ih, List.foldl_cons, List.filter_cons]
      unfold checkPartition
      by_cases taken : checked lower p = true
      · by_cases old : p.device ∈ known.list <;> simp [taken, old]
      · simp [taken]

theorem mem_check (d : String) : d ∈ (check lower known now).1.list ↔ Present lower now d := by
  unfold check
  rw [foldl_checkPartition]
  dsimp only
  rw [mem_foldl_add]
  simp [Devices.empty, Present]

theorem events_check : (check lower known now).2 =
    (now.partitions.filter fun p => checked lower p && p.device ∉ known.list).map now.connected ++
      (known.list.filter (· ∉ (check lower known now).1.list)).map .disconnected := by
  unfold check
  rw [foldl_checkPartition]
  rfl

theorem count_connected (d : String) : (check lower known now).2.countP (isEvent "usb_connected" d) =
    if d ∈ known.list then 0 else partitionsOf lower now d := by
  have none : ((known.list.filter (· ∉ (check lower known now).1.list)).map UsbEvent.disconnected).countP
      (isEvent "usb_connected" d) = 0 := by
    rw [List.countP_map]
    exact List.countP_eq_zero.mpr fun _ _ => by simp [isEvent, UsbEvent.event]
  rw [events_check, List.countP_append, none, List.countP_map, List.countP_filter, Nat.add_zero]
  split_ifs with old
  · refine List.countP_eq_zero.mpr fun p _ => ?_
    simp only [Function.comp, isEvent, Snapshot.connected, UsbEvent.event, UsbEvent.device]
    by_cases here : p.device = d
    · simp [here, old]
    · simp [here]
  · refine List.countP_congr fun p _ => ?_
    simp only [Function.comp, isEvent, Snapshot.connected, UsbEvent.event, UsbEvent.device]
    by_cases here : p.device = d
    · simp [here, old]
    · simp [here]

theorem count_disconnected (d : String) : (check lower known now).2.countP (isEvent "usb_disconnected" d) =
    if d ∈ known.list ∧ ¬ Present lower now d then 1 else 0 := by
  have none : ((now.partitions.filter fun p => checked lower p && p.device ∉ known.list).map now.connected).countP
      (isEvent "usb_disconnected" d) = 0 := by
    rw [List.countP_map]
    exact List.countP_eq_zero.mpr fun _ _ => by simp [isEvent, Snapshot.connected, UsbEvent.event]
  have gone : isEvent "usb_disconnected" d ∘ UsbEvent.disconnected = (· == d) := by
    funext device
    exact Bool.true_and _
  rw [events_check, List.countP_append, none, List.countP_map, gone, Nat.zero_add]
  change List.count d _ = _
  rw [List.Nodup.count (known.distinct.filter _)]
  simp [mem_check]

def Observed (lower : String → String) (known : Devices) (before : Snapshot) : Prop :=
  ∀ d, d ∈ known.list ↔ Present lower before d

theorem present_iff (d : String) : Present lower now d ↔ 0 < partitionsOf lower now d := by
  unfold Present partitionsOf
  rw [List.countP_pos_iff]
  simp only [Bool.and_eq_true, decide_eq_true_eq]

theorem reported_device_iff (d : String) :
    ((check lower known now).2.countP (isEvent "usb_connected" d) =
        (if Present lower now d ∧ ¬ Present lower before d then 1 else 0) ∧
      (check lower known now).2.countP (isEvent "usb_disconnected" d) =
        if Present lower before d ∧ ¬ Present lower now d then 1 else 0) ↔
      (d ∈ known.list ↔ Present lower before d) ∧ (¬ Present lower before d → partitionsOf lower now d ≤ 1) := by
  have taken : Present lower now d ↔ 0 < partitionsOf lower now d := present_iff d
  rw [count_connected, count_disconnected]
  -- a device that is there now tells by its connection, one that is not by its disconnection
  by_cases here : Present lower now d <;> by_cases held : d ∈ known.list <;>
    by_cases shown : Present lower before d <;> simp [here, held, shown] <;> simp [here] at taken <;> omega

theorem reportsChanges_check_iff : ReportsChanges lower before now (check lower known now).2 ↔
    Observed lower known before ∧ OnePartitionEach lower before now := by
  constructor
  · intro changes
    have device d := (reported_device_iff d).mp ⟨changes.connected d, changes.disconnected d⟩
    exact ⟨fun d => (device d).1, fun d => (device d).2⟩
  · intro h
    have device d := (reported_device_iff d).mpr ⟨h.1 d, h.2 d⟩
    exact ⟨fun d => (device d).1, fun d => (device d).2⟩

theorem observed_check : Observed lower (check lower known now).1 now := fun _ => mem_check _

theorem changesReported_from_iff (observed : Observed lower known before) (checks : List Snapshot) :
    List.Forall₂ (fun seen events => ReportsChanges lower seen.1 seen.2 events) ((before :: checks).zip checks)
      (reports lower known checks) ↔ (before :: checks).IsChain (OnePartitionEach lower) := by
  induction checks generalizing known before with
  | nil => simp [reports]
  | cons now checks ih =>
      rw [List.zip_cons_cons, reports, List.forall₂_cons, List.isChain_cons_cons, reportsChanges_check_iff]
      exact and_congr (and_iff_right observed) (ih observed_check)

end

/-- Before the first check nothing can go wrong; from then on the two tests must have found the same devices,
and no device may come with two partitions. -/
theorem changes_reported_iff (lower : String → String) (first : Snapshot) (checks : List Snapshot) :
    ChangesReported lower first checks ↔
      (checks = [] ∨ SameDevices lower first) ∧ (first :: checks).IsChain (OnePartitionEach lower) := by
  have same : Observed lower (initializeKnown lower first) first ↔ SameDevices lower first :=
    forall_congr' fun d => iff_congr (mem_initializeKnown d) Iff.rfl
  cases checks with
  | nil => simp [ChangesReported, reports]
  | cons now checks =>
      rw [ChangesReported, List.zip_cons_cons, reports, List.forall₂_cons, reportsChanges_check_iff, same,
        changesReported_from_iff observed_check, List.isChain_cons_cons]
      simp [and_assoc]

def asciiLower (s : String) : String := s.map Char.toLower

def stick : Partition := ⟨"E:", "E:", "FAT32", "rw,removable"⟩

def usbDisk : Partition := ⟨"/dev/sda1", "/media/usb", "vfat", "rw,usb"⟩

theorem untouched_disk_connected :
    ¬ ChangesReported asciiLower ⟨[usbDisk], fun _ => none⟩ [⟨[usbDisk], fun _ => none⟩] ∧
      ¬ ChangesReported asciiLower ⟨[], fun _ => none⟩
        [⟨[stick, { stick with mountpoint := "C:\\mnt" }], fun _ => none⟩] := by
  constructor
  · intro reported
    have connected := (List.forall₂_cons.mp reported).1.connected "/dev/sda1"
    rw [count_connected] at connected
    revert connected
    decide +kernel
  · intro reported
    have connected := (List.forall₂_cons.mp reported).1.connected "E:"
    rw [count_connected] at connected
    revert connected
    decide +kernel

end GuardianPi.Agent.UsbMonitor
