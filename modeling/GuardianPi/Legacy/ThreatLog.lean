import GuardianPi.Agent.UsbMonitor
import GuardianPi.Library.FirstSeen
import GuardianPi.Library.Interleaving
import GuardianPi.Library.Lines

namespace GuardianPi.Legacy
open GuardianPi.Library GuardianPi.Library.Lines GuardianPi.Library.Interleaving
open GuardianPi.Agent.UsbMonitor (Partition checked contains totalGb)

/-- How far a write gets: a text that cannot be encoded raises once the file has been opened. -/
inductive Write where
  | unopened
  | unencodable
  | written
  deriving DecidableEq

structure Attempt where
  timestamp : String
  write : Write
  plain : '\n' ∉ timestamp.toList ∧ '\r' ∉ timestamp.toList

def Attempt.succeeds (a : Attempt) : Bool := a.write = .written

inductive Entry where
  | usb (attempt : Attempt) (device : String)
  | threat (attempt : Attempt) (name : String)

def Entry.name : Entry → String
  | .usb _ device => device
  | .threat _ name => name

def Entry.attempt : Entry → Attempt
  | .usb attempt _ | .threat attempt _ => attempt

def Entry.succeeds (e : Entry) : Bool := e.attempt.succeeds

def Entry.label : Entry → String
  | .usb _ _ => "USB Storage Connected: "
  | .threat _ _ => "Threat Detected: "

def Entry.message (e : Entry) : String := e.label ++ e.name

def Entry.line (e : Entry) : List Char := ("[" ++ e.attempt.timestamp ++ "] " ++ e.message).toList

structure App where
  file : Option (List Char)
  knownDevices : List String

def App.empty : App := ⟨none, []⟩

/-- A request while it is served: its answer so far and what it has tried to log. -/
structure Serving (α : Type) where
  app : App
  found : List α
  attempted : List Entry

section
variable (lineEnd : LineEnd)

def writeTo (file : Option (List Char)) (e : Entry) : Option (List Char) :=
  match e.attempt.write with
  | .unopened => file
  | .unencodable => some (file.getD [])
  | .written => some (file.getD [] ++ lineEnd.write (e.line ++ ['\n']))

def logThreat (e : Entry) (app : App) : App := { app with file := writeTo lineEnd app.file e }

/-! ## `get_usb_devices` -/

structure Usage where
  total : Nat
  percent : Rat

structure UsbReading where
  partition : Partition
  usage : Option Usage
  attempt : Attempt

structure DeviceInfo where
  device : String
  mountpoint : String
  filesystem : String
  totalGb : Rat
  usedPercent : Rat

inductive UsbAnswer where
  | device (info : DeviceInfo)
  | error (text : String)

def UsbReading.device (r : UsbReading) : String := r.partition.device

def UsbReading.entry (r : UsbReading) : Entry := .usb r.attempt r.device

def UsbReading.info (r : UsbReading) (usage : Usage) : DeviceInfo :=
  ⟨r.device, r.partition.mountpoint, r.partition.fstype, totalGb usage.total, usage.percent⟩

/-- A device whose write fails is known from now on all the same. -/
def connect (r : UsbReading) (s : Serving UsbAnswer) : Serving UsbAnswer :=
  let app := { s.app with knownDevices := r.device :: s.app.knownDevices }
  { s with app := logThreat lineEnd r.entry app, attempted := s.attempted ++ [r.entry] }

variable (lower : String → String)

def checkPartition (s : Serving UsbAnswer) (r : UsbReading) : Serving UsbAnswer :=
  if checked lower r.partition then
    match r.usage with
    | none => s
    | some usage =>
        let s := { s with found := s.found ++ [.device (r.info usage)] }
        if r.device ∈ s.app.knownDevices then s else connect lineEnd r s
  else s

def getUsbDevices (readings : Except String (List UsbReading)) (app : App) : Serving UsbAnswer :=
  match readings with
  | .ok readings => readings.foldl (checkPartition lineEnd lower) ⟨app, [], []⟩
  | .error text => ⟨app, [.error text], []⟩

/-! ## `detect_threats` -/

def blacklist : List String := ["hydra", "nmap", "netcat", "nc", "john"]

structure ProcessReading where
  name : Option String
  attempts : String → Attempt

/-- A write that fails ends the process's fragments. -/
def checkFragments (name : String) (attempts : String → Attempt) : List String → Serving String → Serving String
  | [], s => s
  | bad :: later, s =>
      if contains name bad then
        let e := .threat (attempts bad) name
        let s := ⟨logThreat lineEnd e s.app, s.found ++ [name], s.attempted ++ [e]⟩
        if e.succeeds then checkFragments name attempts later s else s
      else checkFragments name attempts later s

def checkProcess (s : Serving String) (p : ProcessReading) : Serving String :=
  match p.name with
  | none => s
  | some name =>
      if name = "" then s
      else checkFragments lineEnd (lower name) p.attempts blacklist s

def detectThreats (processes : List ProcessReading) (app : App) : Serving String :=
  processes.foldl (checkProcess lineEnd lower) ⟨app, [], []⟩

end

def logs (opens : Bool) (app : App) : List Char :=
  match app.file with
  | some content => if opens then universalNewlines content else "No logs yet.".toList
  | none => "No logs yet.".toList

inductive Request where
  | usbApi (readings : Except String (List UsbReading))
  | getThreats (processes : List ProcessReading)
  | restart

def appStep (lineEnd : LineEnd) (lower : String → String) (app : App) : Request → App × List Entry
  | .usbApi readings =>
      let s := getUsbDevices lineEnd lower readings app
      (s.app, s.attempted)
  | .getThreats processes =>
      let s := detectThreats lineEnd lower processes app
      (s.app, s.attempted)
  | .restart => ({ app with knownDevices := [] }, [])

def fileAfter (lineEnd : LineEnd) (file : Option (List Char)) (entries : List Entry) : Option (List Char) :=
  entries.foldl (writeTo lineEnd) file

theorem fileAfter_append (lineEnd : LineEnd) (file : Option (List Char)) (first later : List Entry) :
    fileAfter lineEnd file (first ++ later) = fileAfter lineEnd (fileAfter lineEnd file first) later :=
  List.foldl_append

section
variable (lower : String → String)

def mounted (r : UsbReading) : Bool := checked lower r.partition && r.usage.isSome

def usbAttempts (known : List String) (readings : List UsbReading) : List Entry :=
  (FirstSeen.fresh UsbReading.device known (readings.filter (mounted lower))).map UsbReading.entry

def fragmentAttempts (name : String) (attempts : String → Attempt) : List String → List Entry
  | [] => []
  | bad :: later =>
      if contains name bad then
        .threat (attempts bad) name :: if (attempts bad).succeeds then fragmentAttempts name attempts later else []
      else fragmentAttempts name attempts later

def threatAttempts (p : ProcessReading) : List Entry :=
  match p.name with
  | none => []
  | some name => if name = "" then [] else fragmentAttempts (lower name) p.attempts blacklist

end

section
variable {lineEnd : LineEnd} {lower : String → String}

theorem checkPartition_of_unmounted {s : Serving UsbAnswer} {r : UsbReading} (unmounted : mounted lower r = false) :
    checkPartition lineEnd lower s r = s := by
  unfold mounted at unmounted
  unfold checkPartition
  cases usage : r.usage with
  | none => exact ite_self s
  | some usage =>
      rw [usage, Option.isSome_some, Bool.and_true] at unmounted
      rw [if_neg (Bool.eq_false_iff.mp unmounted)]

theorem checkPartition_of_mounted {s : Serving UsbAnswer} {r : UsbReading} (here : mounted lower r = true) :
    let t := checkPartition lineEnd lower s r
    let entries := if r.device ∈ s.app.knownDevices then [] else [r.entry]
    t.app = ⟨fileAfter lineEnd s.app.file entries, if r.device ∈ s.app.knownDevices then s.app.knownDevices
        else r.device :: s.app.knownDevices⟩ ∧ t.attempted = s.attempted ++ entries := by
  obtain ⟨removable, read⟩ := (Bool.and_eq_true _ _).mp here
  obtain ⟨usage, read⟩ := Option.isSome_iff_exists.mp read
  intro t entries
  have taken : t = checkPartition lineEnd lower s r := rfl
  rw [checkPartition, if_pos removable, read] at taken
  simp only at taken
  by_cases known : r.device ∈ s.app.knownDevices
  · simp [taken, entries, known, fileAfter]
  · simp [taken, entries, known, connect, logThreat, fileAfter]

theorem usbAttempts_cons {r : UsbReading} (here : mounted lower r = true) (known : List String)
    (readings : List UsbReading) : usbAttempts lower known (r :: readings) =
      (if r.device ∈ known then [] else [r.entry]) ++
        usbAttempts lower (if r.device ∈ known then known else r.device :: known) readings := by
  unfold usbAttempts
  rw [List.filter_cons_of_pos here, FirstSeen.fresh]
  by_cases seen : r.device ∈ known <;> simp [seen]

theorem mark_cons (r : UsbReading) (known : List String) (readings : List UsbReading) :
    FirstSeen.mark UsbReading.device known (r :: readings) =
      FirstSeen.mark UsbReading.device (if r.device ∈ known then known else r.device :: known) readings := by
  rw [FirstSeen.mark]
  split_ifs <;> rfl

theorem foldl_checkPartition (readings : List UsbReading) (s : Serving UsbAnswer) :
    let t := readings.foldl (checkPartition lineEnd lower) s
    let entries := usbAttempts lower s.app.knownDevices readings
    t.app = ⟨fileAfter lineEnd s.app.file entries,
      FirstSeen.mark UsbReading.device s.app.knownDevices (readings.filter (mounted lower))⟩ ∧
      t.attempted = s.attempted ++ entries := by
  induction readings generalizing s with
  | nil => simp [usbAttempts, FirstSeen.fresh, FirstSeen.mark, fileAfter]
  | cons r readings ih =>
      cases here : mounted lower r with
      | false =>
          have skipped : usbAttempts lower s.app.knownDevices (r :: readings) =
              usbAttempts lower s.app.knownDevices readings := by
            rw [usbAttempts, List.filter_cons_of_neg (Bool.eq_false_iff.mp here), ← usbAttempts]
          rw [List.foldl_cons, checkPartition_of_unmounted here, skipped,
            List.filter_cons_of_neg (Bool.eq_false_iff.mp here)]
          exact ih s
      | true =>
          obtain ⟨app, attempted⟩ := @checkPartition_of_mounted lineEnd lower s r here
          obtain ⟨app', attempted'⟩ := ih (checkPartition lineEnd lower s r)
          rw [app] at app' attempted'
          rw [attempted, List.append_assoc] at attempted'
          rw [List.foldl_cons, usbAttempts_cons here, List.filter_cons_of_pos here, mark_cons]
          dsimp only
          rw [fileAfter_append]
          exact ⟨app', attempted'⟩

theorem checkFragments_eq (name : String) (attempts : String → Attempt) (bads : List String) (s : Serving String) :
    let t := checkFragments lineEnd name attempts bads s
    let entries := fragmentAttempts name attempts bads
    t.app = ⟨fileAfter lineEnd s.app.file entries, s.app.knownDevices⟩ ∧ t.attempted = s.attempted ++ entries := by
  induction bads generalizing s with
  | nil => simp [checkFragments, fragmentAttempts, fileAfter]
  | cons bad bads ih =>
      rw [checkFragments, fragmentAttempts]
      by_cases part : contains name bad
      · have own : Entry.succeeds (.threat (attempts bad) name) = (attempts bad).succeeds := rfl
        simp only [if_pos part, own]
        cases (attempts bad).succeeds with
        | true =>
            simp only [if_true]
            refine And.imp id ?_ (ih _)
            intro attempted
            rw [attempted, List.append_assoc]
            rfl
        | false => exact ⟨rfl, rfl⟩
      · rw [if_neg part, if_neg part]
        exact ih s

theorem checkProcess_eq (p : ProcessReading) (s : Serving String) :
    let t := checkProcess lineEnd lower s p
    let entries := threatAttempts lower p
    t.app = ⟨fileAfter lineEnd s.app.file entries, s.app.knownDevices⟩ ∧ t.attempted = s.attempted ++ entries := by
  unfold checkProcess threatAttempts
  cases p.name with
  | none => simp [fileAfter]
  | some name =>
      by_cases empty : name = ""
      · simp [empty, fileAfter]
      · simp only [if_neg empty]
        exact checkFragments_eq (lower name) p.attempts blacklist s

theorem foldl_checkProcess (processes : List ProcessReading) (s : Serving String) :
    let t := processes.foldl (checkProcess lineEnd lower) s
    let entries := processes.flatMap (threatAttempts lower)
    t.app = ⟨fileAfter lineEnd s.app.file entries, s.app.knownDevices⟩ ∧ t.attempted = s.attempted ++ entries := by
  induction processes generalizing s with
  | nil => simp [fileAfter]
  | cons p processes ih =>
      obtain ⟨app, attempted⟩ := @checkProcess_eq lineEnd lower p s
      obtain ⟨app', attempted'⟩ := ih (checkProcess lineEnd lower s p)
      rw [app] at app'
      rw [attempted, List.append_assoc] at attempted'
      rw [List.foldl_cons, List.flatMap_cons]
      dsimp only
      rw [fileAfter_append]
      exact ⟨app', attempted'⟩

/-! ## Runs of the app -/

def Request.readings : Request → List UsbReading
  | .usbApi (.ok readings) => readings
  | _ => []

def Request.processes : Request → List ProcessReading
  | .getThreats processes => processes
  | _ => []

end

def stamp : Attempt := ⟨"2026-01-01 00:00:00", .written, by decide⟩

end GuardianPi.Legacy
