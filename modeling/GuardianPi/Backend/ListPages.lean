import GuardianPi.Library.Paging

namespace GuardianPi.Backend.ListPages
open GuardianPi.Library

/-- The columns that the lists filter and order by; times are in microseconds. -/
structure Device where
  id : String
  osType : String
  status : String
  deriving DecidableEq

structure Alert where
  id : String
  deviceId : String
  severity : String
  status : String
  createdAt : Int
  deriving DecidableEq

structure AuditLog where
  id : String
  action : String
  createdAt : Int
  deriving DecidableEq

structure Table (α : Type) (id : α → String) where
  rows : List α
  primaryKey : (rows.map id).Nodup

structure Listed (α : Type) where
  rows : List α
  total : Nat
  page : Nat
  pageSize : Nat

def asked (filter : Option String) : Option String := filter.filter fun text => text ≠ ""

def Device.matches (status osType : Option String) (d : Device) : Bool :=
  ((asked status).all fun s => d.status = s) && (asked osType).all fun os => d.osType = os

def Alert.matches (severity status deviceId : Option String) (a : Alert) : Bool :=
  ((asked severity).all fun s => a.severity = s) && ((asked status).all fun s => a.status = s) &&
    (asked deviceId).all fun id => a.deviceId = id

def AuditLog.matches (action : Option String) (l : AuditLog) : Bool :=
  (asked action).all fun s => l.action = s

section
variable (devices : Table Device Device.id) (alerts : Table Alert Alert.id) (logs : Table AuditLog AuditLog.id)

def matchingDevices (status osType : Option String) : List Device :=
  devices.rows.filter (Device.matches status osType)

/-- `uuid` gives the text of a UUID that a text stands for; other texts raise a `ValueError`. -/
def matchingAlerts (uuid : String → Option String) (severity status deviceId : Option String) :
    Option (List Alert) :=
  match asked deviceId with
  | none => some (alerts.rows.filter (Alert.matches severity status none))
  | some text => (uuid text).map fun id => alerts.rows.filter (Alert.matches severity status (some id))

def matchingLogs (action : Option String) : List AuditLog := logs.rows.filter (AuditLog.matches action)

def respond {α : Type} (matching order : List α) (page pageSize : Nat) : Listed α :=
  ⟨fetch order ((page - 1) * pageSize) pageSize, matching.length, page, pageSize⟩

def listDevices (order : List Device) (page pageSize : Nat) (status osType : Option String) :
    Option (Listed Device) :=
  some (respond (matchingDevices devices status osType) order page pageSize)

def listAlerts (uuid : String → Option String) (order : List Alert) (page pageSize : Nat)
    (severity status deviceId : Option String) : Option (Listed Alert) :=
  (matchingAlerts alerts uuid severity status deviceId).map fun matching => respond matching order page pageSize

def getAuditLog (order : List AuditLog) (page pageSize : Nat) (action : Option String) : Option (Listed AuditLog) :=
  some (respond (matchingLogs logs action) order page pageSize)

end

section
variable {α κ : Type} [LinearOrder κ] (key : α → κ)

/-- Each page is answered, and the pages together show every matching row once, whatever order the
database chooses for each. -/
def PagesOnce (matching : List α) (pageSize : Nat) (request : List α → Nat → Option (Listed α)) : Prop :=
  ∀ orders : Nat → List α, (∀ k, Ordered key matching (orders k)) → ∃ responses : Nat → Listed α,
    (∀ k, request (orders k) (k + 1) = some (responses k)) ∧
      ((List.range (pageCount (responses 0).total pageSize)).flatMap fun k => (responses k).rows).Perm matching

variable {key}

theorem pagesOnce_iff {matching : List α} (distinct : matching.Nodup) {pageSize : Nat} (pos : 0 < pageSize)
    {request : List α → Nat → Option (Listed α)}
    (responds : ∀ order page, request order page = some (respond matching order page pageSize)) :
    PagesOnce key matching pageSize request ↔ ∀ k, ¬ Straddled key matching (k * pageSize) := by
  rw [← pages_perm_iff distinct pos]
  refine forall₂_congr fun orders _ => ⟨?_, fun perm => ?_⟩
  · rintro ⟨responses, answered, perm⟩
    have same : ∀ k, responses k = respond matching (orders k) (k + 1) pageSize := by
      intro k
      exact Option.some.inj ((answered k).symm.trans (responds _ _))
    simpa only [same, respond, Nat.add_sub_cancel, pages] using perm
  · refine ⟨fun k => respond matching (orders k) (k + 1) pageSize, fun k => responds _ _, ?_⟩
    simpa only [respond, Nat.add_sub_cancel, pages] using perm

theorem Table.distinct {id : α → String} (table : Table α id) (p : α → Bool) : (table.rows.filter p).Nodup :=
  (List.Nodup.of_map id table.primaryKey).filter p

end

section
variable (devices : Table Device Device.id) (alerts : Table Alert Alert.id) (logs : Table AuditLog AuditLog.id)

theorem distinct_matchingAlerts {uuid : String → Option String} {severity status deviceId : Option String}
    {matching : List Alert} (query : matchingAlerts alerts uuid severity status deviceId = some matching) :
    matching.Nodup := by
  unfold matchingAlerts at query
  split at query
  · obtain rfl := Option.some.inj query
    exact alerts.distinct _
  · obtain ⟨id, -, rfl⟩ := Option.map_eq_some_iff.mp query
    exact alerts.distinct _

theorem listDevices_pagesOnce_iff {pageSize : Nat} (pos : 0 < pageSize) (status osType : Option String) :
    PagesOnce (fun _ => ()) (matchingDevices devices status osType) pageSize
        (fun order page => listDevices devices order page pageSize status osType) ↔
      (matchingDevices devices status osType).length ≤ pageSize := by
  rw [← straddled_unordered pos]
  exact pagesOnce_iff (devices.distinct _) pos fun _ _ => rfl

theorem lists_page_once_iff {pageSize : Nat} (pos : 0 < pageSize) :
    (∀ status osType, PagesOnce (fun _ => ()) (matchingDevices devices status osType) pageSize
        (fun order page => listDevices devices order page pageSize status osType) ↔
      (matchingDevices devices status osType).length ≤ pageSize) ∧
    (∀ uuid severity status deviceId matching,
      matchingAlerts alerts uuid severity status deviceId = some matching →
        (PagesOnce Alert.createdAt matching pageSize
            (fun order page => listAlerts alerts uuid order page pageSize severity status deviceId) ↔
          ∀ k, ¬ Straddled Alert.createdAt matching (k * pageSize))) ∧
    ∀ action, PagesOnce AuditLog.createdAt (matchingLogs logs action) pageSize
        (fun order page => getAuditLog logs order page pageSize action) ↔
      ∀ k, ¬ Straddled AuditLog.createdAt (matchingLogs logs action) (k * pageSize) := by
  refine ⟨listDevices_pagesOnce_iff devices pos, ?_, fun action => ?_⟩
  · intro uuid severity status deviceId matching query
    refine pagesOnce_iff (distinct_matchingAlerts alerts query) pos fun order page => ?_
    rw [listAlerts, query, Option.map_some]
  · exact pagesOnce_iff (logs.distinct _) pos fun _ _ => rfl

end

def twoDevices : Table Device Device.id := ⟨[⟨"a", "linux", "online"⟩, ⟨"b", "linux", "offline"⟩], by decide⟩

def fourAlerts : Table Alert Alert.id :=
  ⟨[⟨"a1", "d1", "high", "new", 1767225600000100⟩, ⟨"a2", "d1", "low", "new", 1767225600000100⟩,
    ⟨"a3", "d2", "high", "resolved", 1767225600000200⟩, ⟨"a4", "d1", "high", "new", 1767225600000300⟩], by decide⟩

theorem high_alerts_once : PagesOnce Alert.createdAt
    (fourAlerts.rows.filter fun a => a.severity = "high") 2
    (fun order page => listAlerts fourAlerts some order page 2 (some "high") none none) :=
  ((lists_page_once_iff twoDevices fourAlerts ⟨[], by decide⟩ (by decide)).2.1 some (some "high") none none _
    (by decide)).mpr fun k => not_straddled_of_nodup (by decide)

theorem devices_not_once : ¬ ∀ (devices : Table Device Device.id) (status osType : Option String) (pageSize : Nat),
    0 < pageSize → PagesOnce (fun _ => ()) (matchingDevices devices status osType) pageSize
      (fun order page => listDevices devices order page pageSize status osType) := by
  intro once
  have fits := (listDevices_pagesOnce_iff twoDevices (by decide) none none).mp (once twoDevices none none 1 (by decide))
  exact absurd fits (by decide)

end GuardianPi.Backend.ListPages
