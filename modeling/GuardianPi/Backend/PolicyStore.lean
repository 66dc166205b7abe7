import GuardianPi.Backend.RowUpdates

namespace GuardianPi.Backend.Policies
open GuardianPi.Library GuardianPi.Library.Python GuardianPi.Library.Validation
open GuardianPi.Backend.Responses (PolicyCreate hasId strictRules)

/-- A JSON column holds an explicit `None` as the null of JSON, which is a value to the database. -/
def stored (c : TypedColumn) : TypedColumn :=
  { c with nullable := c.nullable || c.type = .jsonDict || c.type = .jsonList }

def columns : List TypedColumn := Responses.Table.policies.columns.map stored

abbrev Policy := TypedRow columns

theorem admits_stored {c : TypedColumn} {v : Option Attribute} (admitted : c.toColumn.admits v = true) :
    (stored c).toColumn.admits v = true := by
  cases v with
  | none =>
      have nullable : c.nullable = true := admitted
      show (c.nullable || _ || _) = true
      rw [nullable]
      rfl
  | some v => exact admitted

def inserted (row : TypedRow Responses.Table.policies.columns) : Policy where
  row := row.row
  fits := by
    apply List.forall₂_map_left_iff.mpr
    exact row.fits.imp fun _ _ cell => ⟨cell.1, admits_stored cell.2⟩

abbrev Given (α : Type) := Option (Option α)

structure PolicyUpdate where
  name : Given String
  description : Given String
  rules : Given (List (String × Value))
  severity : Given String
  isEnabled : Given Bool
  targetOs : Given (List String)

def dumped {α : Type} (name : String) (make : α → Attribute) : Given α → Row
  | none => []
  | some v => [(name, v.map make)]

def PolicyUpdate.modelDump (u : PolicyUpdate) : Row :=
  dumped "name" .str u.name ++ dumped "description" .str u.description ++ dumped "rules" .dict u.rules ++
    dumped "severity" .str u.severity ++ dumped "is_enabled" .bool u.isEnabled ++
    dumped "target_os" (fun items => .list (items.map .str)) u.targetOs

section
variable (env : Responses.Environment) (currentUser : User) (store : List Policy)

def createPolicy (r : PolicyCreate) : Except Failure (List Policy) := do
  let written ← Responses.createPolicy env currentUser .empty r
  .ok (store ++ (written.database.rows .policies).map inserted)

def updatePolicy (policyId : String) (u : PolicyUpdate) : Except Failure (List Policy) := do
  match ← scalarOneOrNone (store.filter fun policy => hasId policyId policy.row) with
  | none => httpException 404 "Policy not found"
  | some policy =>
      let policy ← raised (policy.setAll u.modelDump)
      if !env.takes .policies policy.row then .error (.python .integrityError)
      else .ok (store.map fun old => if hasId policyId old.row then policy else old)

def deletePolicy (policyId : String) : Except Failure (List Policy) := do
  match ← scalarOneOrNone (store.filter fun policy => hasId policyId policy.row) with
  | none => httpException 404 "Policy not found"
  | some _ => .ok (store.filter fun policy => !hasId policyId policy.row)

end

inductive Change where
  | createPolicy (r : PolicyCreate)
  | updatePolicy (policyId : String) (u : PolicyUpdate)
  | deletePolicy (policyId : String)

structure Served where
  env : Responses.Environment
  currentUser : User
  change : Change

def Served.perform (s : Served) (store : List Policy) : Except Failure (List Policy) :=
  match s.change with
  | .createPolicy r => Policies.createPolicy s.env s.currentUser store r
  | .updatePolicy policyId u => Policies.updatePolicy s.env store policyId u
  | .deletePolicy policyId => Policies.deletePolicy store policyId

/-- What is written counts as committed as soon as the request reaches its response. -/
def serve (store : List Policy) (s : Served) : List Policy :=
  match s.perform store with
  | .ok after => after
  | .error _ => store

def servedStep (store : List Policy) (s : Served) : Option (List Policy) := some (serve store s)

/-! ## The rules of creation -/

def severities : List String := ["critical", "high", "medium", "low"]

structure Meets (policy : Policy) : Prop where
  severity : ∃ text ∈ severities, policy.get "severity" = some (.str text)
  name : ∃ text : String, text.length ≤ 255 ∧ policy.get "name" = some (.str text)
  rules : ∃ fields, policy.get "rules" = some (.dict fields)
  isEnabled : ∃ b, policy.get "is_enabled" = some (.bool b)
  targetOs : ∃ names : List String, policy.get "target_os" = some (.list (names.map .str))

def AllMeet (store : List Policy) : Prop := ∀ policy ∈ store, Meets policy

structure PolicyUpdate.Meets (u : PolicyUpdate) : Prop where
  severity : ∀ v, u.severity = some v → ∃ text ∈ severities, v = some text
  name : ∀ v, u.name = some v → ∃ text : String, text.length ≤ 255 ∧ v = some text
  rules : u.rules ≠ some none
  isEnabled : u.isEnabled ≠ some none
  targetOs : u.targetOs ≠ some none

def RefusesBreaking (store : List Policy) (s : Served) : Prop :=
  ∀ policyId u, s.change = .updatePolicy policyId u → ¬ u.Meets →
    (∃ e, s.perform store = .error e) ∧ serve store s = store

/-- What `PolicyUpdate` lets through and the columns take, against the rules of creation. -/
structure PolicyUpdate.Allowed (u : PolicyUpdate) : Prop where
  severity : ∀ text, u.severity = some (some text) → text ∈ severities
  rules : u.rules ≠ some none
  targetOs : u.targetOs ≠ some none

def UpdatesAllowed (store : List Policy) (s : Served) : Prop :=
  ∀ policyId u, s.change = .updatePolicy policyId u → (∃ after, s.perform store = .ok after) → u.Allowed

/-! ## What is read back -/

structure PolicyUpdate.Sets (u : PolicyUpdate) (old policy : Policy) : Prop where
  severity : policy.get "severity" = (u.severity.map (Option.map .str)).getD (old.get "severity")
  name : policy.get "name" = (u.name.map (Option.map .str)).getD (old.get "name")
  rules : policy.get "rules" = (u.rules.map (Option.map .dict)).getD (old.get "rules")
  isEnabled : policy.get "is_enabled" = (u.isEnabled.map (Option.map .bool)).getD (old.get "is_enabled")
  targetOs : policy.get "target_os" =
    (u.targetOs.map (Option.map fun items => .list (items.map .str))).getD (old.get "target_os")

theorem columns_distinct : (columns.map TypedColumn.name).Nodup := by decide +kernel

section
variable {old policy : Policy} {u : PolicyUpdate}

@[simp] theorem updated_dumped {α : Type} (name other : String) (make : α → Attribute) (given : Given α)
    (before : Option Attribute) : TypedRow.updated (dumped name make given) other before =
      if name = other then (given.map (Option.map make)).getD before else before := by
  cases given <;> simp [dumped, TypedRow.updated]

theorem mapped_dumped {α : Type} {name : String} {make : α → Attribute} {given : Given α}
    (column : ∃ c ∈ columns, c.name = name) :
    ∀ update ∈ dumped name make given, ∃ c ∈ columns, c.name = update.1 := by
  cases given with
  | none => exact fun _ member => absurd member List.not_mem_nil
  | some v => exact List.forall_mem_singleton.mpr column

theorem mapped_modelDump (u : PolicyUpdate) :
    ∀ update ∈ u.modelDump, ∃ c ∈ columns, c.name = update.1 := by
  unfold PolicyUpdate.modelDump
  simp only [List.forall_mem_append]
  refine ⟨⟨⟨⟨⟨?_, ?_⟩, ?_⟩, ?_⟩, ?_⟩, ?_⟩ <;> exact mapped_dumped (by decide +kernel)

theorem get_of_update (made : old.setAll u.modelDump = .ok policy) (name : String) :
    policy.get name = TypedRow.updated u.modelDump name (old.get name) :=
  TypedRow.get_of_setAll columns_distinct (mapped_modelDump u) made name

theorem sets_of_update (made : old.setAll u.modelDump = .ok policy) : u.Sets old policy := by
  have read := get_of_update made
  constructor <;> simp [read, PolicyUpdate.modelDump, TypedRow.updated_append]

theorem exists_text (policy : Policy) {name : String} {bound : Option Nat}
    (column : (⟨name, .text bound, false⟩ : TypedColumn) ∈ columns) :
    ∃ text, ColumnType.accepts (.text bound) (.str text) = true ∧ policy.get name = some (.str text) := by
  obtain ⟨v, read, accepted⟩ := policy.exists_value columns_distinct column rfl
  obtain ⟨text, rfl⟩ := ColumnType.eq_str_of_accepts accepted
  exact ⟨text, accepted, read⟩

theorem exists_name (policy : Policy) :
    ∃ text : String, text.length ≤ 255 ∧ policy.get "name" = some (.str text) := by
  have column : (⟨"name", .text (some 255), false⟩ : TypedColumn) ∈ columns := by
    simp [columns, Responses.Table.columns, stored]
  obtain ⟨text, accepted, read⟩ := exists_text policy column
  exact ⟨text, of_decide_eq_true accepted, read⟩

theorem exists_isEnabled (policy : Policy) : ∃ b, policy.get "is_enabled" = some (.bool b) := by
  have column : (⟨"is_enabled", .boolean, false⟩ : TypedColumn) ∈ columns := by
    simp [columns, Responses.Table.columns, stored]
  obtain ⟨v, read, accepted⟩ := policy.exists_value columns_distinct column rfl
  obtain ⟨b, rfl⟩ := ColumnType.eq_bool_of_accepts accepted
  exact ⟨b, read⟩

theorem exists_severity (policy : Policy) : ∃ text, policy.get "severity" = some (.str text) := by
  have column : (⟨"severity", .text (some 50), false⟩ : TypedColumn) ∈ columns := by
    simp [columns, Responses.Table.columns, stored]
  obtain ⟨text, -, read⟩ := exists_text policy column
  exact ⟨text, read⟩

theorem meets_iff_allowed (made : old.setAll u.modelDump = .ok policy) : u.Meets ↔ u.Allowed := by
  constructor
  · intro meets
    refine ⟨fun text given => ?_, meets.rules, meets.targetOs⟩
    obtain ⟨same, known, equal⟩ := meets.severity _ given
    exact Option.some.inj equal ▸ known
  · intro allowed
    refine ⟨?_, ?_, allowed.rules, ?_, allowed.targetOs⟩
    · intro v given
      obtain ⟨text, read⟩ := exists_severity policy
      rw [(sets_of_update made).severity, given] at read
      cases v with
      | none => cases read
      | some text => exact ⟨text, allowed.severity text given, rfl⟩
    · intro v given
      obtain ⟨text, bound, read⟩ := exists_name policy
      rw [(sets_of_update made).name, given] at read
      cases v with
      | none => cases read
      | some name =>
          cases read
          exact ⟨_, bound, rfl⟩
    · intro given
      obtain ⟨b, read⟩ := exists_isEnabled policy
      rw [(sets_of_update made).isEnabled, given] at read
      cases read

theorem meets_update_iff (meets : Meets old) (made : old.setAll u.modelDump = .ok policy) :
    Meets policy ↔ u.Allowed := by
  constructor
  · intro after
    refine ⟨?_, ?_, ?_⟩
    · intro text given
      obtain ⟨same, known, read⟩ := after.severity
      rw [(sets_of_update made).severity, given] at read
      cases read
      exact known
    · intro given
      obtain ⟨fields, read⟩ := after.rules
      rw [(sets_of_update made).rules, given] at read
      cases read
    · intro given
      obtain ⟨names, read⟩ := after.targetOs
      rw [(sets_of_update made).targetOs, given] at read
      cases read
  · intro allowed
    refine ⟨?_, exists_name policy, ?_, exists_isEnabled policy, ?_⟩
    · obtain ⟨text, read⟩ := exists_severity policy
      refine ⟨text, ?_, read⟩
      rw [(sets_of_update made).severity] at read
      cases given : u.severity with
      | none =>
          obtain ⟨same, known, before⟩ := meets.severity
          rw [given, Option.map_none, Option.getD_none, before] at read
          cases read
          exact known
      | some v =>
          rw [given] at read
          cases v with
          | none => cases read
          | some same =>
              cases read
              exact allowed.severity _ given
    · rw [(sets_of_update made).rules]
      cases given : u.rules with
      | none => exact meets.rules
      | some v =>
          cases v with
          | none => exact absurd given allowed.rules
          | some fields => exact ⟨fields, rfl⟩
    · rw [(sets_of_update made).targetOs]
      cases given : u.targetOs with
      | none => exact meets.targetOs
      | some v =>
          cases v with
          | none => exact absurd given allowed.targetOs
          | some names => exact ⟨names, rfl⟩

end

/-! ## What a request does to the table -/

section
variable {env : Responses.Environment} {currentUser : User} {store after : List Policy} {policyId : String}

theorem createPolicy_eq_ok {r : PolicyCreate} (made : createPolicy env currentUser store r = .ok after) :
    ∃ policy, Meets policy ∧ after = store ++ [policy] := by
  obtain ⟨w, written, made⟩ := failure_bind_eq_ok.mp made
  obtain ⟨row, filled, -, rfl⟩ := Responses.insert_eq_ok.mp written
  obtain rfl := Except.ok.inj made
  refine ⟨inserted row, ⟨?_, exists_name _, ?_, exists_isEnabled _, ?_⟩, by simp [Responses.Database.empty]⟩
  · exact ⟨r.severity, r.known, Responses.get_of_insert filled (by decide +kernel)⟩
  · exact ⟨r.rules, Responses.get_of_insert filled (by decide +kernel)⟩
  · exact ⟨r.targetOs, Responses.get_of_insert filled (by decide +kernel)⟩

theorem updatePolicy_eq_ok {u : PolicyUpdate} (made : updatePolicy env store policyId u = .ok after) :
    ∃ old policy, old ∈ store ∧ hasId policyId old.row = true ∧ old.setAll u.modelDump = .ok policy ∧
      after = store.map fun old => if hasId policyId old.row then policy else old := by
  obtain ⟨selected, one, made⟩ := failure_bind_eq_ok.mp made
  cases selected with
  | none => cases made
  | some old =>
      obtain ⟨policy, set, made⟩ := failure_bind_eq_ok.mp made
      obtain ⟨member, same⟩ := List.mem_filter.mp (Responses.scalarOneOrNone_eq_ok.mp one ▸ List.mem_singleton_self old)
      split_ifs at made
      exact ⟨old, policy, member, same, raised_eq_ok.mp set, (Except.ok.inj made).symm⟩

theorem deletePolicy_eq_ok (made : deletePolicy store policyId = .ok after) :
    after = store.filter fun policy => !hasId policyId policy.row := by
  obtain ⟨selected, -, made⟩ := failure_bind_eq_ok.mp made
  cases selected with
  | none => cases made
  | some old => exact (Except.ok.inj made).symm

variable {s : Served}

theorem serve_of_ok (made : s.perform store = .ok after) : serve store s = after := by
  rw [serve, made]

theorem serve_of_error {e : Failure} (failed : s.perform store = .error e) : serve store s = store := by
  rw [serve, failed]

theorem refusesBreaking_iff : RefusesBreaking store s ↔ UpdatesAllowed store s := by
  constructor
  · intro refuses policyId u change ⟨after, made⟩
    by_contra breaking
    have performed := made
    rw [Served.perform, change] at performed
    obtain ⟨old, policy, -, -, set, -⟩ := updatePolicy_eq_ok performed
    obtain ⟨⟨e, failed⟩, -⟩ := refuses policyId u change fun meets => breaking ((meets_iff_allowed set).mp meets)
    rw [made] at failed
    cases failed
  · intro allowed policyId u change breaking
    cases made : s.perform store with
    | error e => exact ⟨⟨e, rfl⟩, serve_of_error made⟩
    | ok after =>
        have performed := made
        rw [Served.perform, change] at performed
        obtain ⟨old, policy, -, -, set, -⟩ := updatePolicy_eq_ok performed
        exact absurd ((meets_iff_allowed set).mpr (allowed policyId u change ⟨after, made⟩)) breaking

theorem allMeet_serve_iff (meet : AllMeet store) : AllMeet (serve store s) ↔ UpdatesAllowed store s := by
  cases made : s.perform store with
  | error e =>
      rw [serve_of_error made]
      refine iff_of_true meet fun _ _ _ carriedOut => ?_
      obtain ⟨after, performed⟩ := carriedOut
      cases made.symm.trans performed
  | ok after =>
      rw [serve_of_ok made]
      have performed := made
      rw [Served.perform] at performed
      cases change : s.change with
      | createPolicy r =>
          rw [change] at performed
          obtain ⟨policy, meets, rfl⟩ := createPolicy_eq_ok performed
          refine iff_of_true ?_ fun _ _ updates => absurd (change.symm.trans updates) nofun
          exact List.forall_mem_append.mpr ⟨meet, List.forall_mem_singleton.mpr meets⟩
      | updatePolicy policyId u =>
          rw [change] at performed
          obtain ⟨old, policy, member, same, set, rfl⟩ := updatePolicy_eq_ok performed
          have step := meets_update_iff (meet old member) set
          constructor
          · intro all policyId' u' updates _
            obtain ⟨-, rfl⟩ := Change.updatePolicy.inj (change.symm.trans updates)
            exact step.mp (all policy (List.mem_map.mpr ⟨old, member, if_pos same⟩))
          · intro allowed
            have meets := step.mpr (allowed policyId u change ⟨_, made⟩)
            refine List.forall_mem_map.mpr fun before among => ?_
            split_ifs
            · exact meets
            · exact meet before among
      | deletePolicy policyId =>
          rw [change] at performed
          obtain rfl := deletePolicy_eq_ok performed
          refine iff_of_true ?_ fun _ _ updates => absurd (change.symm.trans updates) nofun
          exact fun policy among => meet policy (List.mem_of_mem_filter among)

end

theorem policies_meet_iff {start : List Policy} (meet : AllMeet start) (requests : List Served) :
    Always servedStep AllMeet start requests ∧ Along servedStep RefusesBreaking start requests ↔
      Along servedStep UpdatesAllowed start requests := by
  have always : Always servedStep AllMeet start requests ↔ Along servedStep UpdatesAllowed start requests := by
    refine always_total_iff_along (I := fun _ => True) trivial meet (fun store s _ here => ?_) requests
    exact ⟨allMeet_serve_iff here, fun _ => trivial⟩
  constructor
  · intro ⟨meet, _⟩
    exact always.mp meet
  · intro allowed
    exact ⟨always.mpr allowed, allowed.mono fun _ _ => refusesBreaking_iff.mpr⟩

def adminAt (newId : String) (change : Change) : Served :=
  ⟨⟨strictRules, .ok, .ok, newId, "2026-01-01T00:00:00+00:00", "2026-01-01T00:00:00+00:00", fun _ _ => true, true⟩,
    ⟨"", "", "", "", "", true, none⟩, change⟩

theorem usb_bounds : "usb-control".length ≤ 255 ∧ "device".length ≤ 100 := by decide

theorem high_known : "high" ∈ ["critical", "high", "medium", "low"] := by decide

def usbPolicy : Served :=
  adminAt "p1" (.createPolicy
    ⟨"usb-control", none, "device", [], "high", true, ["linux"], usb_bounds, high_known⟩)

def setSeverity (text : String) : Served :=
  adminAt "" (.updatePolicy "p1" ⟨none, none, none, some (some text), none, none⟩)

theorem lowered_severity_meets :
    Always servedStep AllMeet [] [usbPolicy, setSeverity "low"] ∧
      Along servedStep RefusesBreaking [] [usbPolicy, setSeverity "low"] := by
  refine (policies_meet_iff (fun _ member => absurd member List.not_mem_nil) _).mpr ⟨nofun, fun _ _ => ⟨?_, fun _ _ => trivial⟩⟩
  intro policyId u change _
  obtain ⟨-, rfl⟩ := Change.updatePolicy.inj change
  constructor
  · intro text given
    cases given
    decide
  · exact (Option.some_ne_none _).symm
  · exact (Option.some_ne_none _).symm

theorem purple_severity_stored : ¬ (
    Always servedStep AllMeet [] [usbPolicy, setSeverity "purple"] ∧
      Along servedStep RefusesBreaking [] [usbPolicy, setSeverity "purple"]) := by
  intro ⟨always, _⟩
  have final := always _ [] (List.append_nil _).symm _ rfl
  unfold AllMeet at final
  generalize after : serve _ _ = store at final
  have columns : store.map (fun policy => Responses.isText (policy.get "severity") "purple") = [true] := by
    rw [← after]
    decide +kernel
  obtain ⟨policy, member, read⟩ := List.mem_map.mp (columns ▸ List.mem_singleton_self true)
  obtain ⟨text, known, severity⟩ := (final policy member).severity
  rw [severity] at read
  obtain rfl : text = "purple" := of_decide_eq_true read
  exact absurd known (by decide)

end GuardianPi.Backend.Policies
