import Mathlib.Data.List.Infix
import GuardianPi.Backend.PolicyStore
import GuardianPi.Library.Transition

namespace GuardianPi.Backend.Responses
open GuardianPi.Library GuardianPi.Library.Python GuardianPi.Library.Validation

def Change.dependency : Change → Dependency
  | .submit (.registerDevice _) | .submit (.createAlert _) | .deviceHeartbeat _ _ => .agentApiKey
  | .submit (.updateAlert _ _) | .submit (.createInvestigation _) | .editInvestigation _ _ =>
      .role ["admin", "analyst"]
  | .submit (.createUser _) | .submit (.createRemediation _) | .submit (.createPolicy _)
  | .rollbackAction _ _ | .assignInvestigation _ _ => .role ["admin"]

def userOf (row : TypedRow Table.users.columns) : Option User :=
  match row.get "id", row.get "email", row.get "password_hash", row.get "full_name", row.get "role",
    row.get "is_active" with
  | some (.uuid id), some (.str email), some (.str passwordHash), some (.str fullName), some (.str role),
    some (.bool isActive) => some ⟨id, email, passwordHash, fullName, role, isActive, none⟩
  | _, _, _, _, _, _ => none

def Database.users (db : Database) : List User := (db.rows .users).filterMap userOf

structure ApiRequest (Token : Type) where
  now : Int
  credentials : Option Token
  apiKey : Option String
  env : Environment
  change : Change

def currentUserOf : Caller → User
  | .user user => user
  | .agent _ => ⟨"", "", "", "", "", true, none⟩

section
variable {Token : Type} (sec : Security Token)

def ApiRequest.check (db : Database) (r : ApiRequest Token) : Except Failure Caller :=
  r.change.dependency.check sec db.users r.now r.credentials r.apiKey

def Database.request (db : Database) (r : ApiRequest Token) : Database :=
  match r.check sec db with
  | .error _ => db
  | .ok caller => db.serve ⟨r.env, currentUserOf caller, r.change⟩

end

def Empowered (db : Database) (roles : List String) (user : User) : Prop :=
  user ∈ db.users ∧ user.isActive = true ∧ user.role ∈ roles

section
variable {Token : Type} {sec : Security Token} {db : Database} {r : ApiRequest Token} {caller : Caller}
  {roles : List String}

theorem mem_of_activeUser {users : List User} {detail id : String} {user : User}
    (found : activeUser detail users id = .ok user) : user ∈ users ∧ user.isActive = true := by
  obtain ⟨selected, one, found⟩ := failure_bind_eq_ok.mp found
  cases selected with
  | none => cases found
  | some row =>
      dsimp only at found
      split_ifs at found with inactive
      · cases found
      · obtain rfl := Except.ok.inj found
        have only := scalarOneOrNone_eq_ok.mp one
        have member : row ∈ users.filter fun user => user.id = id := only ▸ List.mem_singleton_self row
        exact ⟨List.mem_of_mem_filter member, by simpa using inactive⟩

theorem empowered_of_requireRole {now : Int} {credentials : Option Token} {user : User}
    (admitted : requireRole sec roles db.users now credentials = .ok user) : Empowered db roles user := by
  obtain ⟨current, allowed⟩ := requireRole_eq_ok.mp admitted
  cases credentials with
  | none => cases current
  | some token =>
      obtain ⟨_, _, -, -, -, -, active⟩ := getCurrentUser_ok_iff.mp current
      obtain ⟨member, isActive⟩ := mem_of_activeUser active
      exact ⟨member, isActive, allowed⟩

theorem map_eq_ok {α β : Type} {x : Except Failure α} {f : α → β} {y : β} (mapped : x.map f = .ok y) :
    ∃ a, x = .ok a ∧ f a = y := by
  cases x with
  | error e => cases mapped
  | ok a => exact ⟨a, rfl, Except.ok.inj mapped⟩

theorem empowered_of_check (route : r.change.dependency = .role roles) (admitted : r.check sec db = .ok caller) :
    Empowered db roles (currentUserOf caller) := by
  rw [ApiRequest.check, route] at admitted
  obtain ⟨user, required, rfl⟩ := map_eq_ok admitted
  exact empowered_of_requireRole required

theorem request_cases (sec : Security Token) (db : Database) (r : ApiRequest Token) :
    db.request sec r = db ∨ ∃ caller w, r.check sec db = .ok caller ∧
      perform r.env (currentUserOf caller) db r.change = .ok w ∧ db.request sec r = w.database := by
  unfold Database.request
  cases admitted : r.check sec db with
  | error e => exact Or.inl rfl
  | ok caller =>
      rcases serve_cases db ⟨r.env, currentUserOf caller, r.change⟩ with ⟨same, -⟩ | ⟨w, responds, after⟩
      · exact Or.inl same
      · exact Or.inr ⟨caller, w, rfl, responds, after⟩

theorem Empowered.later {user : User} (empowered : Empowered db roles user) {later : Database}
    (grown : db.rows .users <+: later.rows .users) : Empowered later roles user :=
  ⟨(grown.filterMap userOf).subset empowered.1, empowered.2⟩

end

inductive SiteRequest (Token : Type) where
  | write (r : ApiRequest Token) (elsewhere : r.change.table ≠ .policies)
  | policy (now : Int) (credentials : Option Token) (env : Environment) (change : Policies.Change)

def SiteRequest.apiKey {Token : Type} : SiteRequest Token → Option String
  | .write r _ => r.apiKey
  | .policy _ _ _ _ => none

/-- The table of the policies lets a null into its JSON columns and has its own type of rows. -/
structure Site where
  db : Database
  policies : List Policies.Policy

section
variable {Token : Type} (sec : Security Token)

def Site.request (site : Site) : SiteRequest Token → Site
  | .write r _ => { site with db := site.db.request sec r }
  | .policy now credentials env change =>
      match requireRole sec ["admin"] site.db.users now credentials with
      | .error _ => site
      | .ok user => { site with policies := Policies.serve site.policies ⟨env, user, change⟩ }

def siteStep (site : Site) (r : SiteRequest Token) : Option Site := some (site.request sec r)

end

section
variable {Token : Type} {sec : Security Token} {site : Site} {r : SiteRequest Token}

theorem policies_request_cases (sec : Security Token) (site : Site) (r : SiteRequest Token) :
    (site.request sec r).policies = site.policies ∨
      ∃ s, Empowered site.db ["admin"] s.currentUser ∧ (site.request sec r).db = site.db ∧
        (site.request sec r).policies = Policies.serve site.policies s := by
  cases r with
  | write r elsewhere => exact Or.inl rfl
  | policy now credentials env change =>
      cases required : requireRole sec ["admin"] site.db.users now credentials with
      | error e => exact Or.inl (by simp only [Site.request, required])
      | ok user =>
          refine Or.inr ⟨⟨env, user, change⟩, empowered_of_requireRole required, ?_, ?_⟩ <;>
            simp only [Site.request, required]

theorem db_request_cases (sec : Security Token) (site : Site) (r : SiteRequest Token) :
    (site.request sec r).db = site.db ∨
      ∃ w, r.apiKey = w.apiKey ∧ (site.request sec r).db = site.db.request sec w := by
  cases r with
  | write r elsewhere => exact Or.inr ⟨r, rfl, rfl⟩
  | policy now credentials env change =>
      refine Or.inl ?_
      simp only [Site.request]
      cases requireRole sec ["admin"] site.db.users now credentials <;> rfl

end

def oneUser (role : String) (known : role ∈ ["admin", "analyst", "viewer"]) : Site :=
  ⟨Database.empty.serve (servedAt "u1" "2026-01-01T00:00:00+00:00"
    (.submit (.createUser ⟨"one@guardian.pi", "correct horse", "One", role, by decide, by decide, known⟩))), []⟩

def tokenOf (role : String) : Claims := accessPayload (plainSecurity []) "u1" role [] 0 "0"

def requestOf (role : String) (submission : Submission) : ApiRequest Claims :=
  ⟨10, some (tokenOf role), none, (servedAt "r1" "2026-01-01T00:00:10+00:00" (.submit submission)).env,
    .submit submission⟩

def blockIp (role : String) : SiteRequest Claims :=
  .write (requestOf role (.createRemediation ⟨"d1", "block_ip", [], none, by decide⟩)) nofun

def controlUsb (role : String) : SiteRequest Claims :=
  .policy 10 (some (tokenOf role)) Policies.usbPolicy.env Policies.usbPolicy.change

def Powerless (db : Database) (roles : List String) : Prop := ∀ user, ¬ Empowered db roles user

section
variable {Token : Type} {sec : Security Token} {db t : Database} {site : Site} {r : ApiRequest Token} {table : Table}
  {roles more : List String}

theorem Powerless.fewer (powerless : Powerless db more) (fewer : roles ⊆ more) : Powerless db roles :=
  fun user empowered => powerless user ⟨empowered.1, empowered.2.1, fewer empowered.2.2⟩

theorem Powerless.of_users (powerless : Powerless db roles) (same : t.rows .users = db.rows .users) :
    Powerless t roles := by
  intro user ⟨member, rest⟩
  unfold Database.users at member
  rw [same] at member
  exact powerless user ⟨member, rest⟩

theorem request_of_powerless (powerless : Powerless db more) (route : r.change.dependency = .role roles)
    (fewer : roles ⊆ more) : db.request sec r = db := by
  rcases request_cases sec db r with same | ⟨caller, w, admitted, -, -⟩
  · exact same
  · exact absurd (empowered_of_check route admitted) (powerless.fewer fewer _)

theorem request_rows_other (differ : r.change.table ≠ table) :
    (db.request sec r).rows table = db.rows table := by
  rcases request_cases sec db r with same | ⟨caller, w, -, made, after⟩
  · rw [same]
  · obtain ⟨effect, here⟩ := effect_of_perform made
    rw [after, effect.rows_other (here.trans_ne differ)]

theorem dependency_of_admin {c : Change} (table : c.table ∈ [Table.users, .remediationActions, .policies]) :
    c.dependency = .role ["admin"] := by
  cases c with
  | submit s => cases s <;> first | rfl | simp [Change.table, Submission.table] at table
  | rollbackAction _ _ => rfl
  | deviceHeartbeat _ _ => simp [Change.table] at table
  | editInvestigation _ _ => simp [Change.table] at table
  | assignInvestigation _ _ => simp [Change.table] at table

theorem dependency_of_investigation {c : Change} (table : c.table = .investigations) :
    ∃ roles, c.dependency = .role roles ∧ roles ⊆ ["admin", "analyst"] := by
  cases c with
  | submit s => cases s <;> first | exact ⟨_, rfl, List.Subset.refl _⟩ | cases table
  | rollbackAction _ _ => cases table
  | deviceHeartbeat _ _ => cases table
  | editInvestigation _ _ => exact ⟨_, rfl, List.Subset.refl _⟩
  | assignInvestigation _ _ => exact ⟨_, rfl, by decide⟩

theorem dependency_of_device {c : Change} (table : c.table = .devices) : c.dependency = .agentApiKey := by
  cases c with
  | submit s => cases s <;> first | rfl | cases table
  | deviceHeartbeat _ _ => rfl
  | rollbackAction _ _ => cases table
  | editInvestigation _ _ => cases table
  | assignInvestigation _ _ => cases table

theorem admin_rows_request (powerless : Powerless db ["admin"])
    (among : table ∈ [Table.users, .remediationActions, .policies]) :
    (db.request sec r).rows table = db.rows table := by
  by_cases here : r.change.table = table
  · rw [request_of_powerless powerless (dependency_of_admin (here ▸ among)) (List.Subset.refl _)]
  · exact request_rows_other here

theorem analyst_rows_request (powerless : Powerless db ["admin", "analyst"]) :
    (db.request sec r).rows .investigations = db.rows .investigations ∧
      db.rows .alerts <+: (db.request sec r).rows .alerts := by
  constructor
  · by_cases here : r.change.table = .investigations
    · obtain ⟨roles, route, fewer⟩ := dependency_of_investigation here
      rw [request_of_powerless powerless route fewer]
    · exact request_rows_other here
  · rcases request_cases sec db r with same | ⟨caller, w, admitted, made, after⟩
    · rw [same]
    by_cases here : r.change.table = .alerts
    · cases change : r.change with
      | submit s =>
          rw [change] at made here
          cases s with
          | createAlert request =>
              obtain ⟨deviceId, -, made⟩ := failure_bind_eq_ok.mp made
              obtain ⟨row, -, -, rfl⟩ := insert_eq_ok.mp made
              rw [after, rows_append]
              exact List.prefix_append _ _
          | updateAlert alertId request =>
              have route : r.change.dependency = .role ["admin", "analyst"] := by rw [change]; rfl
              exact absurd (empowered_of_check route admitted) (powerless _)
          | _ => cases here
      | _ =>
          rw [change] at here
          cases here
    · rw [request_rows_other here]

theorem device_rows_request (keyless : ∀ key ∈ r.apiKey, key ∉ sec.agentApiKeys) :
    (db.request sec r).rows .devices = db.rows .devices := by
  by_cases here : r.change.table = .devices
  · rcases request_cases sec db r with same | ⟨caller, w, admitted, -, -⟩
    · rw [same]
    · rw [ApiRequest.check, dependency_of_device here] at admitted
      obtain ⟨key, valid, -⟩ := map_eq_ok admitted
      exact absurd valid (validateAgentApiKey_ne_ok keyless key)
  · exact request_rows_other here

theorem policies_site (powerless : Powerless site.db ["admin"]) (r : SiteRequest Token) :
    (site.request sec r).policies = site.policies := by
  rcases policies_request_cases sec site r with same | ⟨s, empowered, -, -⟩
  · exact same
  · exact absurd empowered (powerless _)

theorem admin_rows_site (powerless : Powerless site.db ["admin"]) (r : SiteRequest Token)
    (among : table ∈ [Table.users, .remediationActions, .policies]) :
    (site.request sec r).db.rows table = site.db.rows table := by
  rcases db_request_cases sec site r with same | ⟨w, -, written⟩
  · rw [same]
  · rw [written]
    exact admin_rows_request powerless among

theorem analyst_rows_site (powerless : Powerless site.db ["admin", "analyst"]) (r : SiteRequest Token) :
    (site.request sec r).db.rows .investigations = site.db.rows .investigations ∧
      site.db.rows .alerts <+: (site.request sec r).db.rows .alerts := by
  rcases db_request_cases sec site r with same | ⟨w, -, written⟩
  · rw [same]
    exact ⟨rfl, List.prefix_refl _⟩
  · rw [written]
    exact analyst_rows_request powerless

theorem device_rows_site {r : SiteRequest Token} (keyless : ∀ key ∈ r.apiKey, key ∉ sec.agentApiKeys) :
    (site.request sec r).db.rows .devices = site.db.rows .devices := by
  rcases db_request_cases sec site r with same | ⟨w, key, written⟩
  · rw [same]
  · rw [written]
    exact device_rows_request (key ▸ keyless)

end

theorem nobody_gains_authority {Token : Type} (sec : Security Token) (requests : List (SiteRequest Token))
    {site t : Site} (reached : run (siteStep sec) site requests = some t) :
    (Powerless site.db ["admin"] → t.policies = site.policies ∧
      ∀ table ∈ [Table.users, .remediationActions], t.db.rows table = site.db.rows table) ∧
    (Powerless site.db ["admin", "analyst"] → t.db.rows .investigations = site.db.rows .investigations ∧
      site.db.rows .alerts <+: t.db.rows .alerts) ∧
    ((∀ r ∈ requests, ∀ key ∈ r.apiKey, key ∉ sec.agentApiKeys) →
      t.db.rows .devices = site.db.rows .devices) := by
  refine ⟨?_, ?_, ?_⟩
  · intro powerless
    refine run_total_invariant (I := fun t => t.policies = site.policies ∧
      ∀ table ∈ [Table.users, .remediationActions], t.db.rows table = site.db.rows table)
      ⟨rfl, fun _ _ => rfl⟩ ?_ reached
    intro m r ⟨policies, same⟩
    have here : Powerless m.db ["admin"] := powerless.of_users (same .users List.mem_cons_self)
    refine ⟨(policies_site here r).trans policies, fun table among => ?_⟩
    rw [admin_rows_site here r (List.mem_append_left [Table.policies] among)]
    exact same table among
  · intro powerless
    have kept := run_total_invariant (I := fun t => t.db.rows .users = site.db.rows .users ∧
      t.db.rows .investigations = site.db.rows .investigations ∧
      site.db.rows .alerts <+: t.db.rows .alerts)
      ⟨rfl, rfl, List.prefix_refl _⟩ ?_ reached
    · exact kept.2
    intro m r ⟨users, investigations, alerts⟩
    have here := powerless.of_users users
    obtain ⟨sameInvestigations, moreAlerts⟩ := @analyst_rows_site _ sec _ here r
    refine ⟨?_, sameInvestigations.trans investigations, alerts.trans moreAlerts⟩
    rw [admin_rows_site (here.fewer (by decide)) r (by simp)]
    exact users
  · intro keyless
    refine run_invariant_along (I := fun _ t => t.db.rows .devices = site.db.rows .devices) rfl ?_
      (along_of_mem keyless site) reached
    intro _ m r n same keyless taken
    obtain rfl := Option.some.inj taken
    exact (device_rows_site keyless).trans same

theorem nobody_gains_authority_viewer :
    let site := oneUser "viewer" (by decide)
    ∃ t, run (siteStep (plainSecurity [])) site [blockIp "admin", controlUsb "admin"] = some t ∧
      t.policies = site.policies ∧ t.db.rows .remediationActions = site.db.rows .remediationActions ∧
      t.db.rows .devices = site.db.rows .devices := by
  intro site
  obtain ⟨administered, -, keyless⟩ :=
    @nobody_gains_authority _ (plainSecurity []) [blockIp "admin", controlUsb "admin"] site _ rfl
  have viewers : ∀ user ∈ site.db.users, user.role ∉ ["admin"] := by decide +kernel
  obtain ⟨policies, rows⟩ := administered fun user ⟨member, _, allowed⟩ => viewers user member allowed
  refine ⟨_, rfl, policies, rows _ (by simp), keyless ?_⟩
  intro r member key given
  rcases List.mem_cons.mp member with rfl | member
  · cases given
  · obtain rfl := List.mem_singleton.mp member
    cases given

end GuardianPi.Backend.Responses
