import GuardianPi.Backend.AuditLog
import Mathlib.Data.List.Induction
import Mathlib.Data.Fintype.EquivFin
import Mathlib.Data.List.Perm.Basic

namespace GuardianPi.Backend
open GuardianPi.Library GuardianPi.Library.Python

section
variable {Stored Signature : Type} (services : AuditServices Stored Signature)

/-- Two calls whose arguments are equal but for the client's; `details` are compared as dicts. -/
structure SameEntry (c c' : AuditCall) : Prop where
  action : c.action = c'.action
  category : c.category = c'.category
  userId : c.userId = c'.userId
  deviceId : c.deviceId = c'.deviceId
  details : Json.Same c.detailsValue c'.detailsValue

def SameClient (c c' : AuditCall) : Prop :=
  c.ipAddress = c'.ipAddress ∧ c.userAgent = c'.userAgent

def ChangeShows (c c' : AuditCall) : Prop :=
  ¬ (SameEntry c c' ∧ SameClient c c') → c.entryData ≠ c'.entryData ∧
    ∀ row row', createAuditEntry services c = .ok row → createAuditEntry services c' = .ok row' →
      row.hmacSignature ≠ row'.hmacSignature

variable {services} {c c' : AuditCall}

theorem entryData_eq_iff_sameEntry (distinct : c.detailsValue.Distinct)
    (distinct' : c'.detailsValue.Distinct) (once : c.signedAt = c'.signedAt) :
    c.entryData = c'.entryData ↔ SameEntry c c' := by
  rw [entryData_eq_iff_fields, SignedAlike, ← Json.same_iff _ _ distinct distinct']
  constructor
  · rintro ⟨action, category, userId, deviceId, -, details⟩
    exact ⟨action, category, userId, deviceId, details⟩
  · rintro ⟨action, category, userId, deviceId, details⟩
    exact ⟨action, category, userId, deviceId, once, details⟩

end

theorem changeShows_iff {Stored Signature : Type} (services : AuditServices Stored Signature)
    (injective : Function.Injective services.hmac) (c c' : AuditCall)
    (distinct : c.detailsValue.Distinct) (distinct' : c'.detailsValue.Distinct)
    (once : c.signedAt = c'.signedAt) :
    ChangeShows services c c' ↔ ¬ (SameEntry c c' ∧ ¬ SameClient c c') := by
  have text := entryData_eq_iff_sameEntry distinct distinct' once
  constructor
  · intro shows ⟨same, client⟩
    exact (shows fun both => client both.2).1 (text.mpr same)
  · intro covered differ
    have apart : c.entryData ≠ c'.entryData := by
      intro equal
      have same := text.mp equal
      exact covered ⟨same, fun client => differ ⟨same, client⟩⟩
    refine ⟨apart, fun row row' made made' equal => apart ?_⟩
    rw [(createAuditEntry_eq_ok made).2, (createAuditEntry_eq_ok made').2] at equal
    exact injective equal

theorem swapped_details_show :
    let services : AuditServices (Json Literal) (List UInt8) := ⟨id, Json.sortKeys, fun _ => true⟩
    let call (details : List (String × Json Literal)) : AuditCall := ⟨"policy_update", "admin", none,
      none, some details, none, none, "", "2026-01-01T00:00:00.000100+00:00", ""⟩
    ChangeShows services (call [("from", .str "low"), ("to", .str "high")])
      (call [("to", .str "low"), ("from", .str "high")]) := by
  intro services call
  have keys (v w : String) : Json.Distinct (.obj [("from", Json.str v), ("to", .str w)] : Json Literal) :=
    ⟨show ["from", "to"].Nodup by decide, trivial, trivial, trivial⟩
  have keys' (v w : String) : Json.Distinct (.obj [("to", Json.str v), ("from", .str w)] : Json Literal) :=
    ⟨show ["to", "from"].Nodup by decide, trivial, trivial, trivial⟩
  apply (changeShows_iff services Function.injective_id (call _) (call _) (keys _ _) (keys' _ _) rfl).mpr
  rintro ⟨same, -⟩
  obtain ⟨-, ⟨value, found, equal⟩, -⟩ := same.details
  obtain rfl := Option.some.inj found
  exact absurd equal (show "low" ≠ "high" by decide)

theorem address_not_signed :
    let services : AuditServices (Json Literal) (List UInt8) := ⟨id, Json.sortKeys, fun _ => true⟩
    let login (ipAddress : String) : AuditCall := ⟨"login", "auth", none, none, none, some ipAddress,
      none, "", "2026-01-01T00:00:00.000100+00:00", ""⟩
    ¬ ChangeShows services (login "203.0.113.7") (login "198.51.100.9") := by
  intro services login shows
  have differ : ¬ (SameEntry (login "203.0.113.7") (login "198.51.100.9") ∧
      SameClient (login "203.0.113.7") (login "198.51.100.9")) :=
    fun both => absurd both.2.1 (by decide)
  exact (shows differ).1 rfl

section
variable {Stored Signature : Type} (services : AuditServices Stored Signature)

/-- Ids are primary keys; a call that fails stores nothing. -/
def auditStep (log : List (AuditLog Stored Signature)) (c : AuditCall) :
    List (AuditLog Stored Signature) :=
  match createAuditEntry services c with
  | .ok row => if row.id ∈ log.map fun r => r.id then log else log ++ [row]
  | .error _ => log

def auditLog (calls : List AuditCall) : List (AuditLog Stored Signature) :=
  calls.foldl (auditStep services) []

def Refused (c : AuditCall) : Prop :=
  services.accepts { c.columns services with hmacSignature := services.hmac c.entryData } = false

/-- Each entry but the first has one predecessor, in whatever log it stands. -/
def DeterminesPredecessor (calls : List AuditCall) : Prop :=
  ∀ i row, (auditLog services calls)[i + 1]? = some row → ∀ calls' j,
    (auditLog services calls')[j + 1]? = some row →
      (auditLog services calls')[j]? = (auditLog services calls)[i]?

end

inductive Tampered {Row : Type} : List Row → List Row → Prop where
  | delete (before : List Row) (row next : Row) (after : List Row) :
      Tampered (before ++ row :: next :: after) (before ++ next :: after)
  | insert (before : List Row) (row next : Row) (after : List Row) :
      Tampered (before ++ next :: after) (before ++ row :: next :: after)
  | reorder {log log' : List Row} (same : log'.Perm log) (moved : log' ≠ log) : Tampered log log'

section
variable {Stored Signature : Type} (services : AuditServices Stored Signature)

/-- Some verification of the chain accepts what the service writes and refuses this log once it was
tampered with. -/
def TamperingShows (calls : List AuditCall) : Prop :=
  ∃ verifies : List (AuditLog Stored Signature) → Prop, (∀ calls', verifies (auditLog services calls')) ∧
    ∀ log, Tampered (auditLog services calls) log → ¬ verifies log

def Written (row : AuditLog Stored Signature) : Prop := ∃ c, createAuditEntry services c = .ok row

def Chained (calls : List AuditCall) : Prop :=
  DeterminesPredecessor services calls ∧ TamperingShows services calls

variable {services}

theorem auditLog_concat (calls : List AuditCall) (c : AuditCall) :
    auditLog services (calls ++ [c]) = auditStep services (auditLog services calls) c :=
  List.foldl_concat ..

theorem exists_auditLog_iff {log : List (AuditLog Stored Signature)} :
    (∃ calls, auditLog services calls = log) ↔
      (∀ row ∈ log, Written services row) ∧ (log.map fun r => r.id).Nodup := by
  constructor
  · rintro ⟨calls, rfl⟩
    induction calls using List.reverseRecOn with
    | nil => exact ⟨List.forall_mem_nil _, List.nodup_nil⟩
    | append_singleton calls c ih =>
        obtain ⟨made, ids⟩ := ih
        rw [auditLog_concat, auditStep]
        cases created : createAuditEntry services c with
        | error e => exact ⟨made, ids⟩
        | ok row =>
            dsimp only
            split_ifs with taken
            · exact ⟨made, ids⟩
            · refine ⟨fun r member => ?_, ?_⟩
              · rcases List.mem_append.mp member with old | new
                · exact made r old
                · obtain rfl := List.mem_singleton.mp new
                  exact ⟨c, created⟩
              · rw [List.map_append, List.map_singleton, ← List.concat_eq_append]
                exact ids.concat taken
  · rintro ⟨made, ids⟩
    induction log using List.reverseRecOn with
    | nil => exact ⟨[], rfl⟩
    | append_singleton log row ih =>
        rw [List.map_append, List.map_singleton, ← List.concat_eq_append, List.nodup_concat] at ids
        obtain ⟨calls, rfl⟩ := ih (fun r member => made r (List.mem_append_left _ member)) ids.2
        obtain ⟨c, created⟩ := made row (List.mem_append_right _ (List.mem_singleton_self _))
        refine ⟨calls ++ [c], ?_⟩
        rw [auditLog_concat, auditStep, created]
        exact if_neg ids.1

theorem auditStep_eq_nil {log : List (AuditLog Stored Signature)} {c : AuditCall} :
    auditStep services log c = [] ↔ log = [] ∧ Refused services c := by
  unfold auditStep createAuditEntry Refused signAuditEntry
  dsimp only
  by_cases taken : services.accepts { c.columns services with hmacSignature := services.hmac c.entryData }
  · rw [if_pos taken, taken]
    dsimp only
    split_ifs with known
    · refine ⟨fun empty => ?_, fun both => False.elim both.2⟩
      rw [empty] at known
      exact absurd known List.not_mem_nil
    · exact ⟨fun empty => absurd empty (List.append_ne_nil_of_right_ne_nil _ (List.cons_ne_nil _ _)),
        fun both => False.elim both.2⟩
  · rw [if_neg taken]
    exact ⟨fun empty => ⟨empty, Bool.eq_false_iff.mpr taken⟩, fun both => both.1⟩

theorem auditLog_eq_nil {calls : List AuditCall} :
    auditLog services calls = [] ↔ ∀ c ∈ calls, Refused services c := by
  induction calls using List.reverseRecOn with
  | nil => exact ⟨fun _ => List.forall_mem_nil _, fun _ => rfl⟩
  | append_singleton calls c ih =>
      rw [auditLog_concat, auditStep_eq_nil, ih, List.forall_mem_append, List.forall_mem_singleton]

theorem written_of_mem {calls : List AuditCall} {row : AuditLog Stored Signature}
    (member : row ∈ auditLog services calls) : Written services row :=
  (exists_auditLog_iff.mp ⟨calls, rfl⟩).1 row member

theorem exists_pair {row next : AuditLog Stored Signature} (written : Written services row)
    (written' : Written services next) (apart : row.id ≠ next.id) :
    ∃ calls, auditLog services calls = [row, next] := by
  apply exists_auditLog_iff.mpr
  refine ⟨List.forall_mem_cons.mpr ⟨written, List.forall_mem_singleton.mpr written'⟩, ?_⟩
  rw [List.map_cons, List.nodup_cons, List.map_singleton, List.mem_singleton]
  exact ⟨apart, List.nodup_singleton _⟩

theorem determinesPredecessor_iff
    (fresh : ∀ ids : List String, ∃ row, Written services row ∧ row.id ∉ ids) {calls : List AuditCall} :
    DeterminesPredecessor services calls ↔ (auditLog services calls).length ≤ 1 := by
  constructor
  · intro determines
    match whole : auditLog services calls with
    | [] => exact Nat.zero_le 1
    | [_] => exact le_rfl
    | first :: second :: rest =>
        obtain ⟨other, written', apart⟩ := fresh [first.id, second.id]
        rw [List.mem_pair, not_or] at apart
        have member : second ∈ auditLog services calls := by
          rw [whole]
          exact List.mem_cons_of_mem _ List.mem_cons_self
        obtain ⟨calls', pair⟩ := exists_pair written' (written_of_mem member) apart.2
        have at_one : (auditLog services calls)[0 + 1]? = some second := by rw [whole]; rfl
        have at_one' : (auditLog services calls')[0 + 1]? = some second := by rw [pair]; rfl
        have same := determines 0 second at_one calls' 0 at_one'
        rw [whole, pair] at same
        obtain rfl : other = first := Option.some.inj same
        exact absurd rfl apart.1
  · intro short i row found
    have bound := (List.getElem?_eq_some_iff.mp found).1
    exact absurd short (by omega)

end

theorem chained_iff {Stored Signature : Type} (services : AuditServices Stored Signature)
    (fresh : ∀ ids : List String, ∃ row, Written services row ∧ row.id ∉ ids) (calls : List AuditCall) :
    Chained services calls ↔ ∀ c ∈ calls, Refused services c := by
  rw [← auditLog_eq_nil]
  constructor
  · rintro ⟨determines, verifies, accepts, refuses⟩
    match whole : auditLog services calls with
    | [] => rfl
    | [only] =>
        obtain ⟨other, written', apart⟩ := fresh [only.id]
        have member : only ∈ auditLog services calls := by
          rw [whole]
          exact List.mem_singleton_self _
        obtain ⟨calls', pair⟩ := exists_pair written' (written_of_mem member)
          fun same => apart (List.mem_singleton.mpr same)
        rw [whole] at refuses
        have accepted := accepts calls'
        rw [pair] at accepted
        exact absurd accepted (refuses _ (Tampered.insert [] other only []))
    | first :: second :: rest =>
        have short := (determinesPredecessor_iff fresh).mp determines
        rw [whole] at short
        exact absurd short (Nat.not_le_of_lt (Nat.succ_lt_succ (Nat.succ_pos _)))
  · intro empty
    refine ⟨?_, fun _ => True, fun _ => trivial, ?_⟩
    · rw [determinesPredecessor_iff fresh, empty]
      exact Nat.zero_le 1
    · intro log tampered
      rw [empty] at tampered
      generalize nothing : ([] : List (AuditLog Stored Signature)) = start at tampered
      cases tampered with
      | delete before row next after => exact absurd nothing (by simp)
      | insert before row next after => exact absurd nothing (by simp)
      | reorder same moved =>
          subst nothing
          exact absurd same.eq_nil moved

def openServices : AuditServices (Json Literal) (List UInt8) := ⟨id, Json.sortKeys, fun _ => true⟩

def loginCall (id : String) : AuditCall :=
  ⟨"login", "auth", none, none, none, none, none, id, "2026-01-01T00:00:00.000100+00:00",
    "2026-01-01T00:00:00.000900+00:00"⟩

def addressServices : AuditServices (Json Literal) (List UInt8) :=
  ⟨id, Json.sortKeys, fun row => row.ipAddress.all fun text => text.length ≤ 45⟩

def forwardedCall (id : String) : AuditCall :=
  { loginCall id with ipAddress := some "2001:0db8:0000:0000:0000:ff00:0042:8329, 192.0.2.60" }

theorem forwarded_calls_chained : Chained addressServices [forwardedCall "0", forwardedCall "1"] := by
  refine (chained_iff addressServices (fun ids => ?_) _).mpr ?_
  · have other : ∃ id : String, id ∉ ids := by
      obtain ⟨id, apart⟩ := Infinite.exists_notMem_finset ids.toFinset
      exact ⟨id, fun member => apart (List.mem_toFinset.mpr member)⟩
    obtain ⟨id, apart⟩ := other
    exact ⟨_, ⟨loginCall id, rfl⟩, apart⟩
  · have refused (id : String) : Refused addressServices (forwardedCall id) := rfl
    exact List.forall_mem_cons.mpr ⟨refused "0", List.forall_mem_singleton.mpr (refused "1")⟩

theorem deletion_unnoticed : ¬ Chained openServices [loginCall "0", loginCall "1"] := by
  rintro ⟨-, verifies, accepts, refuses⟩
  exact refuses _ (Tampered.delete [] _ _ []) (accepts [loginCall "1"])

end GuardianPi.Backend
