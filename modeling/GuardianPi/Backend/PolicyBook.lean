import GuardianPi.Backend.PolicyStore
import GuardianPi.Library.Keyed

namespace GuardianPi.Backend.Policies
open GuardianPi.Library GuardianPi.Library.Python GuardianPi.Library.Validation
open GuardianPi.Backend.Responses (PolicyCreate hasId)

def textOf (v : Option Attribute) : String :=
  match v with
  | some (.str text) => text
  | _ => ""

def agentPolicy (policy : Policy) : Backend.Policy where
  id := match policy.get "id" with
    | some (.uuid id) => id
    | _ => ""
  name := textOf (policy.get "name")
  rules := match policy.get "rules" with
    | some (.dict fields) => .obj fields
    | _ => .null
  severity := textOf (policy.get "severity")
  isEnabled := match policy.get "is_enabled" with
    | some (.bool b) => b
    | _ => false
  targetOs := match policy.get "target_os" with
    | some (.list items) => some (items.filterMap fun
        | .str text => some text
        | _ => none)
    | _ => none

def idOf (policy : Policy) : String := (agentPolicy policy).id

theorem hasId_iff (id : String) (policy : Policy) : hasId id policy.row = decide (idOf policy = id) := by
  have column : (⟨"id", .uuid, false⟩ : TypedColumn) ∈ columns := List.mem_cons_self
  obtain ⟨v, read, accepted⟩ := policy.exists_value columns_distinct column rfl
  cases v with
  | uuid text =>
      have found : policy.row.lookup "id" = some (some (.uuid text)) := Option.join_eq_some_iff.mp read
      have own : idOf policy = text := by
        rw [idOf, agentPolicy, read]
      rw [hasId, found, own]
  | _ => cases accepted

/-! ## The requests that were carried out -/

def PolicyCreate.policy (r : PolicyCreate) (id : String) : Backend.Policy :=
  ⟨id, r.name, .obj r.rules, r.severity, r.isEnabled, some r.targetOs⟩

def PolicyUpdate.applied (u : PolicyUpdate) (p : Backend.Policy) : Backend.Policy where
  id := p.id
  name := u.name.join.getD p.name
  rules := (u.rules.map fun rules => (rules.map Json.obj).getD .null).getD p.rules
  severity := u.severity.join.getD p.severity
  isEnabled := u.isEnabled.join.getD p.isEnabled
  targetOs := u.targetOs.getD p.targetOs

def Served.subject (s : Served) : String :=
  match s.change with
  | .createPolicy _ => s.env.newId
  | .updatePolicy policyId _ => policyId
  | .deletePolicy policyId => policyId

/-- `get_db` commits what is answered; a creation and an update answer with their row, if the model of the
response takes it. -/
def Served.answered (response : List Field) (s : Served) (after : List Policy) : Bool :=
  let rendered := match s.change with
    | .deletePolicy _ => true
    | _ => (after.filter fun policy => hasId s.subject policy.row).all fun policy =>
        (modelValidate s.env.rules response policy.row).isOk
  rendered && s.env.commits

def Served.applied (s : Served) (before : Option Backend.Policy) : Option Backend.Policy :=
  match s.change with
  | .createPolicy r => some (PolicyCreate.policy r s.env.newId)
  | .updatePolicy _ u => before.map u.applied
  | .deletePolicy _ => none

/-- The policy of an id after the requests of `log`, which only those about it have a say in. -/
def inForce (start : List Policy) (log : List Served) (id : String) : Option Backend.Policy :=
  (log.filter fun s => s.subject = id).foldl (fun before s => s.applied before)
    ((Keyed.get idOf start id).map agentPolicy)

structure Ledger where
  store : List Policy
  log : List Served

def Ledger.serve (response : List Field) (h : Ledger) (s : Served) : Ledger :=
  match s.perform h.store with
  | .ok after => if s.answered response after then ⟨after, h.log ++ [s]⟩ else h
  | .error _ => h

theorem ledger_cases (response : List Field) (h : Ledger) (s : Served) : h.serve response s = h ∨
    ∃ after, s.perform h.store = .ok after ∧ s.answered response after = true ∧
      h.serve response s = ⟨after, h.log ++ [s]⟩ := by
  unfold Ledger.serve
  cases made : s.perform h.store with
  | error e => exact Or.inl rfl
  | ok after =>
      by_cases answered : s.answered response after = true
      · exact Or.inr ⟨after, rfl, answered, if_pos answered⟩
      · exact Or.inl (if_neg answered)

theorem inForce_snoc (start : List Policy) (log : List Served) (s : Served) (id : String) :
    inForce start (log ++ [s]) id =
      if id = s.subject then s.applied (inForce start log id) else inForce start log id := by
  unfold inForce
  rw [List.filter_append]
  by_cases same : s.subject = id
  · simp [same]
  · simp [same, Ne.symm same]

/-! ## What a request does to the row of an id -/

section
variable {env : Responses.Environment} {currentUser : User} {store after : List Policy} {policyId : String}

theorem createPolicy_row {r : PolicyCreate} (made : createPolicy env currentUser store r = .ok after) :
    ∃ policy, after = store ++ [policy] ∧ agentPolicy policy = PolicyCreate.policy r env.newId := by
  obtain ⟨w, written, made⟩ := failure_bind_eq_ok.mp made
  obtain ⟨row, filled, -, rfl⟩ := Responses.insert_eq_ok.mp written
  obtain rfl := Except.ok.inj made
  have read (name : String) (column : name ∈ Responses.Table.policies.columns.map TypedColumn.name) :
      (inserted row).get name = _ := Responses.get_of_insert filled column
  refine ⟨inserted row, by simp [Responses.Database.empty], ?_⟩
  unfold agentPolicy PolicyCreate.policy
  rw [read "id" (by decide +kernel), read "name" (by decide +kernel), read "rules" (by decide +kernel),
    read "severity" (by decide +kernel), read "is_enabled" (by decide +kernel),
    read "target_os" (by decide +kernel)]
  simp [List.lookup_cons, Responses.text, Responses.texts, textOf]
  rfl

theorem textOf_applied {given : Given String} {before : Option Attribute} {text : String}
    (written : (given.map (Option.map .str)).getD before = some (.str text)) :
    text = given.join.getD (textOf before) := by
  cases given with
  | none =>
      have same : before = some (.str text) := written
      rw [same]
      rfl
  | some v =>
      cases v with
      | none => cases written
      | some given =>
          cases written
          rfl

theorem agentPolicy_update {u : PolicyUpdate} {old policy : Policy} (made : old.setAll u.modelDump = .ok policy) :
    agentPolicy policy = u.applied (agentPolicy old) := by
  have sets := sets_of_update made
  have id : policy.get "id" = old.get "id" := by
    rw [get_of_update made]
    simp [PolicyUpdate.modelDump, TypedRow.updated_append]
  obtain ⟨name, -, readName⟩ := exists_name policy
  obtain ⟨severity, readSeverity⟩ := exists_severity policy
  obtain ⟨b, readEnabled⟩ := exists_isEnabled policy
  have nameSet := textOf_applied (sets.name.symm.trans readName)
  have severitySet := textOf_applied (sets.severity.symm.trans readSeverity)
  unfold agentPolicy PolicyUpdate.applied
  rw [id, readName, readSeverity, readEnabled, sets.rules, sets.targetOs]
  congr 1
  · cases u.rules with
    | none => rfl
    | some given => cases given <;> rfl
  · have written := sets.isEnabled.symm.trans readEnabled
    cases given : u.isEnabled with
    | none =>
        rw [given] at written
        have same : old.get "is_enabled" = some (.bool b) := written
        rw [same]
        rfl
    | some v =>
        rw [given] at written
        cases v with
        | none => cases written
        | some b' =>
            cases written
            rfl
  · cases u.targetOs with
    | none => rfl
    | some given =>
        cases given with
        | none => rfl
        | some names => simp [List.filterMap_map]

structure Ledger.Kept (start : List Policy) (h : Ledger) : Prop where
  distinct : Keyed.Distinct idOf h.store
  reads : ∀ id, (Keyed.get idOf h.store id).map agentPolicy = inForce start h.log id

/-- The id of a new policy is not that of a stored one. -/
def FreshId (h : Ledger) (s : Served) : Prop :=
  ∀ r, s.change = .createPolicy r → s.env.newId ∉ h.store.map idOf

theorem updated_eq_replace (policy : Policy) :
    (store.map fun old => if hasId policyId old.row then policy else old) =
      Keyed.replace idOf store policyId policy := by
  simp only [hasId_iff, decide_eq_true_eq]
  rfl

theorem deleted_eq_erase :
    (store.filter fun policy => !hasId policyId policy.row) = Keyed.erase idOf store policyId := by
  simp only [hasId_iff, ← decide_not]
  rfl

theorem kept_serve {start : List Policy} {response : List Field} {h : Ledger} {s : Served} (kept : h.Kept start)
    (fresh : FreshId h s) : (h.serve response s).Kept start := by
  rcases ledger_cases response h s with same | ⟨after, performed, -, served⟩
  · rw [same]
    exact kept
  rw [served]
  rw [Served.perform] at performed
  have step (same : ∀ id, (Keyed.get idOf after id).map agentPolicy =
      if id = s.subject then s.applied ((Keyed.get idOf h.store id).map agentPolicy)
      else (Keyed.get idOf h.store id).map agentPolicy) (distinct : Keyed.Distinct idOf after) :
      Ledger.Kept start ⟨after, h.log ++ [s]⟩ := by
    refine ⟨distinct, fun id => ?_⟩
    rw [inForce_snoc, ← kept.reads id]
    exact same id
  cases change : s.change with
  | createPolicy r =>
      rw [change] at performed
      obtain ⟨policy, rfl, reads⟩ := createPolicy_row performed
      have id : idOf policy = s.env.newId := by rw [idOf, reads]; rfl
      have absent : idOf policy ∉ h.store.map idOf := id ▸ fresh r change
      apply step _ (Keyed.distinct_append kept.distinct absent)
      intro other
      rw [Keyed.get_append_fresh absent, id]
      simp only [Served.subject, Served.applied, change]
      split_ifs
      · rw [Option.map_some, reads]
      · rfl
  | updatePolicy policyId u =>
      rw [change] at performed
      obtain ⟨old, policy, member, same, set, written⟩ := updatePolicy_eq_ok performed
      rw [updated_eq_replace] at written
      obtain rfl := written
      rw [hasId_iff, decide_eq_true_eq] at same
      have reads := agentPolicy_update set
      have id : idOf policy = policyId := by
        rw [idOf, reads]
        exact same
      apply step _ (Keyed.distinct_replace kept.distinct id)
      intro other
      rw [Keyed.get_replace id, ← same, Keyed.get_of_mem kept.distinct member, same]
      simp only [Served.subject, Served.applied, change]
      split_ifs with here
      · subst here
        rw [← same, Keyed.get_of_mem kept.distinct member]
        simp [reads]
      · rfl
  | deletePolicy policyId =>
      rw [change] at performed
      have written := deletePolicy_eq_ok performed
      rw [deleted_eq_erase] at written
      obtain rfl := written
      apply step _ (Keyed.distinct_erase kept.distinct policyId)
      intro other
      rw [Keyed.get_erase]
      simp only [Served.subject, Served.applied, change]
      split_ifs <;> rfl

end

def Ledger.tables (h : Ledger) : Tables := ⟨h.store.map agentPolicy, [], []⟩

end GuardianPi.Backend.Policies
