import GuardianPi.Backend.Authority
import GuardianPi.Backend.PolicyBook

namespace GuardianPi.Backend.Responses
open GuardianPi.Library GuardianPi.Library.Python GuardianPi.Library.Validation

/-- The routes that answer with their row, through the model of its table. -/
def Change.rendered : Change → Bool
  | .submit _ | .rollbackAction _ _ | .editInvestigation _ (.addTimelineEntry _ _ _) => true
  | .deviceHeartbeat _ _ | .editInvestigation _ (.closeInvestigation _ _ _ _) | .assignInvestigation _ _ => false

def Change.inserts : Change → Bool
  | .submit (.updateAlert _ _) => false
  | .submit _ => true
  | _ => false

/-- The id of the row into which a request writes the user who makes it. -/
def Change.signs (newId : String) : Change → Option String
  | .submit (.createRemediation _) | .submit (.createPolicy _) | .submit (.createInvestigation _) => some newId
  | .submit (.updateAlert alertId _) => some alertId
  | _ => none

section
variable {Token : Type} (sec : Security Token) (response : Table → List Field)

def Site.carryOut (site : Site) : SiteRequest Token → Option (User × Site)
  | .write r _ =>
      match r.check sec site.db with
      | .error _ => none
      | .ok caller =>
          match perform r.env (currentUserOf caller) site.db r.change with
          | .error _ => none
          | .ok w =>
              let rendered := !r.change.rendered || (modelValidate r.env.rules (response w.table) w.row.row).isOk
              if rendered && r.env.commits then some (currentUserOf caller, { site with db := w.database }) else none
  | .policy now credentials env change =>
      match requireRole sec ["admin"] site.db.users now credentials with
      | .error _ => none
      | .ok user =>
          let s : Policies.Served := ⟨env, user, change⟩
          match s.perform site.policies with
          | .error _ => none
          | .ok after =>
              if s.answered (response .policies) after then some (user, { site with policies := after }) else none

def SiteRequest.signs : SiteRequest Token → Table → Option String
  | .write r _, table => if r.change.table = table then r.change.signs r.env.newId else none
  | .policy _ _ env (.createPolicy _), .policies => some env.newId
  | .policy _ _ _ _, _ => none

structure Book where
  site : Site
  signer : Table → String → Option User

def Book.take (book : Book) (r : SiteRequest Token) : Book :=
  match book.site.carryOut sec response r with
  | none => book
  | some (user, site) =>
      ⟨site, fun table id => if r.signs table = some id then some user else book.signer table id⟩

/-- The id of a new row is not that of a stored one. -/
def SiteRequest.Fresh (site : Site) : SiteRequest Token → Prop
  | .write r _ => r.change.inserts = true → ∀ row ∈ site.db.rows r.change.table, hasId r.env.newId row.row = false
  | .policy _ _ env (.createPolicy _) => ∀ policy ∈ site.policies, hasId env.newId policy.row = false
  | .policy _ _ _ _ => True

end

def Site.rows (site : Site) : Table → List Row
  | .policies => site.policies.map TypedRow.row
  | table => (site.db.rows table).map TypedRow.row

/-- The column of a table that names a user, and the roles of which that user must be. -/
def Table.author : Table → Option (String × List String)
  | .remediationActions => some ("initiated_by", ["admin"])
  | .policies => some ("created_by", ["admin"])
  | .investigations => some ("created_by", ["admin", "analyst"])
  | .alerts => some ("acknowledged_by", ["admin", "analyst"])
  | .devices | .users => none

def cell (row : Row) (name : String) : Option Attribute := (row.lookup name).join

/-! ## What one request does to the names in a table -/

structure Turn (table : Table) (name : String) (user : User) (signed : Option String) (before after : List Row) :
    Prop where
  names : ∀ row ∈ after, ∀ id, hasId id row = true →
    signed = some id ∧ cell row name = some (.uuid user.id) ∨
      signed ≠ some id ∧ ((∃ old ∈ before, hasId id old = true ∧ cell row name = cell old name) ∨
        table = .alerts ∧ cell row name = none ∧ ∀ old ∈ before, hasId id old = false)
  keeps : table ≠ .policies → ∀ old ∈ before, ∀ id, hasId id old = true → ∃ row ∈ after, hasId id row = true
  present : ∀ id, signed = some id → ∃ row ∈ after, hasId id row = true

section
variable {table : Table} {name id other : String} {user : User} {signed : Option String} {before after : List Row}
  {row old : Row}

end

/-! ## The handlers -/

inductive Writes (env : Environment) (user : User) (db : Database) (name : String) (c : Change) : Written → Prop where
  | made {table : Table} (row : TypedRow table.columns) (inserts : c.inserts = true)
      (own : row.get "id" = some (.uuid env.newId)) (signs : c.signs env.newId = some env.newId)
      (named : row.get name = some (.uuid user.id)) : Writes env user db name c ⟨table, row, db.append row⟩
  | reported (row : TypedRow Table.alerts.columns) (inserts : c.inserts = true)
      (own : row.get "id" = some (.uuid env.newId)) (signs : c.signs env.newId = none)
      (nobody : row.get name = none) : Writes env user db name c ⟨.alerts, row, db.append row⟩
  | signed {table : Table} {id : String} (old row : TypedRow table.columns)
      (only : (db.rows table).filter (fun row => hasId id row.row) = [old]) (own : row.get "id" = old.get "id")
      (signs : c.signs env.newId = some id) (named : row.get name = some (.uuid user.id)) :
      Writes env user db name c ⟨table, row, db.replace id row⟩
  | edited {table : Table} {id : String} (old row : TypedRow table.columns)
      (only : (db.rows table).filter (fun row => hasId id row.row) = [old]) (own : row.get "id" = old.get "id")
      (signs : c.signs env.newId = none) (same : row.get name = old.get name) :
      Writes env user db name c ⟨table, row, db.replace id row⟩

section
variable {env : Environment} {currentUser : User} {db : Database} {c : Change} {w : Written} {name : String}
  {roles : List String}

end

/-! ## The requests -/

section
variable {Token : Type} {sec : Security Token} {response : Table → List Field} {site after : Site}
  {r : SiteRequest Token} {user : User} {table : Table} {name : String} {roles : List String}

def NamedBy (before : List Row) (table : Table) (name id : String) (row : Row) : Option User → Prop
  | some user => cell row name = some (.uuid user.id)
  | none => (∃ old ∈ before, hasId id old = true ∧ cell row name = cell old name) ∨
      table = .alerts ∧ cell row name = none

structure Book.Kept (start : Site) (book : Book) : Prop where
  names : ∀ table name roles, table.author = some (name, roles) → ∀ row ∈ book.site.rows table, ∀ id,
    hasId id row = true → NamedBy (start.rows table) table name id row (book.signer table id)
  empowered : ∀ table name roles, table.author = some (name, roles) → ∀ id user,
    book.signer table id = some user → Empowered book.site.db roles user
  present : ∀ table name roles, table.author = some (name, roles) → table ≠ .policies → ∀ id user,
    book.signer table id = some user → ∃ row ∈ book.site.rows table, hasId id row = true

end

end GuardianPi.Backend.Responses
