import GuardianPi.Backend.Auth
import GuardianPi.Library.Transition

namespace GuardianPi.Backend
open GuardianPi.Library GuardianPi.Library.Python

section
variable {Token : Type} {sec : Security Token} {now expire : Int} {payload claims : Claims}

theorem unexpired_iff (expires : Json.lookup "exp" payload = some (.num (.int expire))) :
    unexpired now payload ↔ now ≤ expire := by
  rw [unexpired, expires]
  constructor
  · intro h
    obtain ⟨_, same, early⟩ := h _ rfl
    obtain rfl := PyNum.int.inj (Json.num.inj same)
    exact early
  · intro early v given
    obtain rfl := Option.some.inj given
    exact ⟨_, rfl, early⟩

theorem decode_encode_iff (plain : PlainClaims payload)
    (expires : Json.lookup "exp" payload = some (.num (.int expire))) :
    sec.jwt.decode now (sec.jwt.encode payload) = some claims ↔ claims = payload ∧ now ≤ expire := by
  have once : sec.jwt.live expire payload :=
    (sec.live_iff _ _ plain).mpr ((unexpired_iff expires).mpr le_rfl)
  rw [TokenScheme.decode_encode_iff once, sec.live_iff _ _ plain, unexpired_iff expires]

end

/-! ## The tokens that the server has issued -/

inductive Issue where
  | access (subject role : String) (now : Int) (jti : String)
  | refresh (subject : String) (now : Int) (jti : String)

namespace Issue

def kind : Issue → String
  | access .. => "access"
  | refresh .. => "refresh"

def subject : Issue → String
  | access subject .. => subject
  | refresh subject .. => subject

variable {Token : Type} (sec : Security Token)

def expires : Issue → Int
  | access _ _ now _ => now + 60 * sec.jwtAccessTokenExpireMinutes
  | refresh _ now _ => now + 60 * sec.jwtRefreshTokenExpireMinutes

def payload : Issue → Claims
  | access subject role now jti => accessPayload sec subject role [] now jti
  | refresh subject now jti => refreshPayload sec subject now jti

def token (i : Issue) : Token := sec.jwt.encode (i.payload sec)

theorem lookup_type (i : Issue) : Json.lookup "type" (i.payload sec) = some (.str i.kind) := by
  cases i <;> rfl

theorem lookup_sub (i : Issue) : Json.lookup "sub" (i.payload sec) = some (.str i.subject) := by
  cases i <;> rfl

theorem lookup_exp (i : Issue) :
    Json.lookup "exp" (i.payload sec) = some (.num (.int (i.expires sec))) := by
  cases i <;> rfl

theorem plainClaims (i : Issue) : PlainClaims (i.payload sec) := by
  cases i with
  | access subject role now jti =>
      refine ⟨?_, ?_, ⟨_, rfl⟩, ?_⟩
      · simp [payload, accessPayload, Json.lookup]
      · simp [payload, accessPayload, Json.lookup]
      · simp [payload, accessPayload, Json.lookup]
  | refresh subject now jti =>
      refine ⟨?_, ?_, ⟨_, rfl⟩, ?_⟩
      · simp [payload, refreshPayload, Json.lookup]
      · simp [payload, refreshPayload, Json.lookup]
      · simp [payload, refreshPayload, Json.lookup]

theorem decode_token (i : Issue) (now : Int) (payload : Claims) :
    sec.jwt.decode now (i.token sec) = some payload ↔ payload = i.payload sec ∧ now ≤ i.expires sec :=
  decode_encode_iff (i.plainClaims sec) (i.lookup_exp sec)

end Issue

/-! ## Histories -/

/-- The table of users, and the tokens that have been issued. -/
structure Accounts where
  users : List User
  issued : List Issue

def Accounts.empty : Accounts := ⟨[], []⟩

/-- What the requests of the auth router do, and what is done in the database: rows that are added
and changes of a role or of the activity. -/
inductive AccountEvent (Token : Type) where
  | addUser (user : User)
  | setRole (id role : String)
  | setActive (id : String) (active : Bool)
  | createUser (credentials : Option Token) (request : UserCreate) (id : String) (now : Int)
  | login (request : LoginRequest) (now : Int) (m : Minting)
  | refreshToken (token : Token) (now : Int) (m : Minting)

def User.issues (user : User) (m : Minting) : List Issue :=
  [.access user.id user.role m.accessNow m.accessJti, .refresh user.id m.refreshNow m.refreshJti]

section
variable {Token : Type} (sec : Security Token)

def Accounts.update (s : Accounts) (id : String) (f : User → User) : Accounts :=
  { s with users := s.users.map fun user => if user.id = id then f user else user }

/-- A request that fails changes nothing. The id of a new row is a UUID. -/
def accountStep (s : Accounts) : AccountEvent Token → Option Accounts
  | .addUser user =>
      if (sec.parseUuid user.id).toOption = some user.id then
        (insertUser s.users user).toOption.map fun users => { s with users := users }
      else none
  | .setRole id role => some (s.update id fun user => { user with role := role })
  | .setActive id active => some (s.update id fun user => { user with isActive := active })
  | .createUser credentials request id now =>
      if (sec.parseUuid id).toOption = some id then
        match createUser sec s.users now credentials request id with
        | .ok (_, users) => some { s with users := users }
        | .error _ => some s
      else none
  | .login request now m =>
      match authenticate sec s.users request with
      | .ok user => some ⟨recordLogin s.users user now, s.issued ++ user.issues m⟩
      | .error _ => some s
  | .refreshToken token now m =>
      match refreshUser sec s.users now token with
      | .ok user => some { s with issued := s.issued ++ user.issues m }
      | .error _ => some s

structure Accounts.Sound (s : Accounts) : Prop where
  distinct : (s.users.map User.id).Nodup
  parsed : ∀ user ∈ s.users, sec.parseUuid user.id = .ok user.id
  subjects : ∀ i ∈ s.issued, sec.parseUuid i.subject = .ok i.subject

variable {sec} {s : Accounts}

theorem sound_empty : Accounts.empty.Sound sec :=
  ⟨List.nodup_nil, List.forall_mem_nil _, List.forall_mem_nil _⟩

theorem sound_map (inv : s.Sound sec) {f : User → User} (same : ∀ user, (f user).id = user.id) :
    ({ s with users := s.users.map f } : Accounts).Sound sec := by
  have ids : (s.users.map f).map User.id = s.users.map User.id := by
    rw [List.map_map]
    exact List.map_congr_left fun user _ => same user
  refine ⟨by rw [ids]; exact inv.distinct, ?_, inv.subjects⟩
  rw [List.forall_mem_map]
  intro user member
  rw [same]
  exact inv.parsed user member

theorem sound_insertUser (inv : s.Sound sec) {user : User} {users : List User}
    (id : sec.parseUuid user.id = .ok user.id) (inserted : insertUser s.users user = .ok users) :
    ({ s with users := users } : Accounts).Sound sec := by
  unfold insertUser at inserted
  split_ifs at inserted with taken
  obtain rfl := Except.ok.inj inserted
  have fresh : ∀ u ∈ s.users, u.id ≠ user.id := fun u member same => taken ⟨u, member, Or.inl same⟩
  refine ⟨?_, ?_, inv.subjects⟩
  · rw [List.map_append, List.nodup_append]
    refine ⟨inv.distinct, List.nodup_singleton _, ?_⟩
    intro _ old _ last
    obtain ⟨u, member, rfl⟩ := List.mem_map.mp old
    obtain rfl := List.mem_singleton.mp last
    exact fresh u member
  · intro u member
    rcases List.mem_append.mp member with old | new
    · exact inv.parsed u old
    · obtain rfl := List.mem_singleton.mp new
      exact id

theorem sound_issues (inv : s.Sound sec) {user : User} (id : sec.parseUuid user.id = .ok user.id)
    (m : Minting) : ({ s with issued := s.issued ++ user.issues m } : Accounts).Sound sec := by
  refine ⟨inv.distinct, inv.parsed, fun i member => ?_⟩
  rcases List.mem_append.mp member with old | new
  · exact inv.subjects i old
  · have about : i.subject = user.id := by
      rcases List.mem_pair.mp new with rfl | rfl <;> rfl
    rw [about]
    exact id

theorem mem_of_scalarOneOrNone {α : Type} {rows : List α} {row : α}
    (h : scalarOneOrNone rows = .ok (some row)) : row ∈ rows := by
  match rows, h with
  | [only], h =>
      obtain rfl := Option.some.inj (Except.ok.inj h)
      exact List.mem_singleton_self _

theorem authenticate_mem {users : List User} {request : LoginRequest} {user : User}
    (h : authenticate sec users request = .ok user) : user ∈ users := by
  obtain ⟨found, row, h⟩ := failure_bind_eq_ok.mp h
  cases found with
  | none => cases h
  | some other =>
      obtain ⟨verified, -, h⟩ := failure_bind_eq_ok.mp h
      split_ifs at h
      · cases h
      · cases h
      · obtain rfl := Except.ok.inj h
        exact (List.mem_filter.mp (mem_of_scalarOneOrNone row)).1

theorem createUser_cases {users users' : List User} {credentials : Option Token} {request : UserCreate}
    {id : String} {now : Int} {created : User}
    (h : createUser sec users now credentials request id = .ok (created, users')) :
    created.id = id ∧ insertUser users created = .ok users' := by
  obtain ⟨_, -, h⟩ := failure_bind_eq_ok.mp h
  obtain ⟨existing, -, h⟩ := failure_bind_eq_ok.mp h
  cases existing with
  | some _ => cases h
  | none =>
      obtain ⟨passwordHash, -, h⟩ := failure_bind_eq_ok.mp h
      obtain ⟨rows, inserted, h⟩ := failure_bind_eq_ok.mp h
      obtain ⟨response, rendered, h⟩ := failure_bind_eq_ok.mp h
      obtain ⟨rfl, rfl⟩ := Prod.mk.inj (Except.ok.inj h)
      unfold userResponse at rendered
      split_ifs at rendered
      obtain rfl := Except.ok.inj rendered
      exact ⟨rfl, inserted⟩

theorem parsed_of_toOption {id : String} (h : (sec.parseUuid id).toOption = some id) :
    sec.parseUuid id = .ok id := by
  cases parsed : sec.parseUuid id with
  | error e =>
      rw [parsed] at h
      cases h
  | ok text =>
      rw [parsed] at h
      exact congrArg _ (Option.some.inj h)

theorem sound_step (inv : s.Sound sec) {event : AccountEvent Token} {t : Accounts}
    (h : accountStep sec s event = some t) : t.Sound sec := by
  cases event with
  | addUser user =>
      simp only [accountStep] at h
      split_ifs at h with id
      obtain ⟨users, inserted, rfl⟩ := Option.map_eq_some_iff.mp h
      cases done : insertUser s.users user with
      | error e =>
          rw [done] at inserted
          cases inserted
      | ok rows =>
          rw [done] at inserted
          obtain rfl := Option.some.inj inserted
          exact sound_insertUser inv (parsed_of_toOption id) done
  | setRole id role =>
      obtain rfl := Option.some.inj h
      refine sound_map inv fun user => ?_
      split_ifs <;> rfl
  | setActive id active =>
      obtain rfl := Option.some.inj h
      refine sound_map inv fun user => ?_
      split_ifs <;> rfl
  | createUser credentials request id now =>
      simp only [accountStep] at h
      split_ifs at h with canonical
      cases done : createUser sec s.users now credentials request id with
      | error e =>
          rw [done] at h
          obtain rfl := Option.some.inj h
          exact inv
      | ok created =>
          rw [done] at h
          obtain rfl := Option.some.inj h
          obtain ⟨rfl, inserted⟩ := createUser_cases done
          exact sound_insertUser inv (parsed_of_toOption canonical) inserted
  | login request now m =>
      simp only [accountStep] at h
      cases done : authenticate sec s.users request with
      | error e =>
          rw [done] at h
          obtain rfl := Option.some.inj h
          exact inv
      | ok user =>
          rw [done] at h
          obtain rfl := Option.some.inj h
          have issued := sound_issues inv (inv.parsed user (authenticate_mem done)) m
          refine sound_map issued fun u => ?_
          split_ifs <;> rfl
  | refreshToken token now m =>
      simp only [accountStep] at h
      cases done : refreshUser sec s.users now token with
      | error e =>
          rw [done] at h
          obtain rfl := Option.some.inj h
          exact inv
      | ok user =>
          rw [done] at h
          obtain rfl := Option.some.inj h
          obtain ⟨_, _, _, -, -, -, -, member, -⟩ := (refreshUser_eq_ok inv.distinct).mp done
          exact sound_issues inv (inv.parsed user member) m

theorem sound_run {events : List (AccountEvent Token)} {t : Accounts}
    (reached : run (accountStep sec) Accounts.empty events = some t) : t.Sound sec :=
  run_invariant (I := fun _ s => s.Sound sec) sound_empty (fun _ _ _ _ inv h => sound_step inv h) reached

end

section
variable {Token : Type} (sec : Security Token)

def AdmitsToken (s : Accounts) (allowedRoles : List String) (now : Int) (token : Token) : Prop :=
  ∃ user, requireRole sec allowedRoles s.users now (some token) = .ok user

/-- A token of this kind that the server has issued is live, and its subject is an active user. -/
def Holds (s : Accounts) (kind : String) (now : Int) (token : Token) (user : User) : Prop :=
  ∃ i ∈ s.issued, i.token sec = token ∧ i.kind = kind ∧ now ≤ i.expires sec ∧
    user ∈ s.users ∧ user.id = i.subject ∧ user.isActive = true

/-- Only the server signs with its key. -/
def Genuine (s : Accounts) (token : Token) : Prop :=
  sec.jwt.Signed token → ∃ i ∈ s.issued, i.token sec = token

variable {sec} {s : Accounts} {now : Int} {token : Token} {user : User}

theorem subject_ne_empty (inv : s.Sound sec) {i : Issue} (member : i ∈ s.issued) : i.subject ≠ "" := by
  intro empty
  have parsed := inv.subjects i member
  rw [empty, sec.parseUuid_empty] at parsed
  cases parsed

theorem getCurrentUser_issued (inv : s.Sound sec) {i : Issue} (member : i ∈ s.issued) :
    getCurrentUser sec s.users now (some (i.token sec)) = .ok user ↔
      i.kind = "access" ∧ now ≤ i.expires sec ∧
        user ∈ s.users ∧ user.id = i.subject ∧ user.isActive = true := by
  have kind : claim "type" (i.payload sec) = .str i.kind := by rw [claim, i.lookup_type]; rfl
  have sub : claim "sub" (i.payload sec) = .str i.subject := by rw [claim, i.lookup_sub]; rfl
  rw [getCurrentUser_eq_ok inv.distinct]
  constructor
  · rintro ⟨payload, id, decoded, access, -, parsed, present, same, active⟩
    obtain ⟨rfl, early⟩ := (i.decode_token sec now payload).mp decoded
    rw [kind] at access
    rw [sub, uuid, inv.subjects i member] at parsed
    obtain rfl := Except.ok.inj parsed
    exact ⟨of_decide_eq_true access, early, present, same, active⟩
  · rintro ⟨access, early, present, same, active⟩
    refine ⟨i.payload sec, i.subject, (i.decode_token sec now _).mpr ⟨rfl, early⟩, ?_, ?_, ?_, present,
      same, active⟩
    · rw [kind]
      exact decide_eq_true access
    · rw [sub]
      exact decide_eq_true (subject_ne_empty inv member)
    · rw [sub]
      exact inv.subjects i member

theorem refreshUser_issued (inv : s.Sound sec) {i : Issue} (member : i ∈ s.issued) :
    refreshUser sec s.users now (i.token sec) = .ok user ↔
      i.kind = "refresh" ∧ now ≤ i.expires sec ∧
        user ∈ s.users ∧ user.id = i.subject ∧ user.isActive = true := by
  have kind : claim "type" (i.payload sec) = .str i.kind := by rw [claim, i.lookup_type]; rfl
  rw [refreshUser_eq_ok inv.distinct]
  constructor
  · rintro ⟨payload, sub, id, decoded, refresh, given, parsed, present, same, active⟩
    obtain ⟨rfl, early⟩ := (i.decode_token sec now payload).mp decoded
    rw [kind] at refresh
    obtain rfl := Option.some.inj ((i.lookup_sub sec).symm.trans given)
    rw [uuid, inv.subjects i member] at parsed
    obtain rfl := Except.ok.inj parsed
    exact ⟨of_decide_eq_true refresh, early, present, same, active⟩
  · rintro ⟨refresh, early, present, same, active⟩
    refine ⟨i.payload sec, .str i.subject, i.subject, (i.decode_token sec now _).mpr ⟨rfl, early⟩, ?_,
      i.lookup_sub sec, inv.subjects i member, present, same, active⟩
    rw [kind]
    exact decide_eq_true refresh

theorem currentUser_iff (inv : s.Sound sec) (genuine : Genuine sec s token) :
    getCurrentUser sec s.users now (some token) = .ok user ↔ Holds sec s "access" now token user := by
  constructor
  · intro current
    obtain ⟨payload, _, decoded, -⟩ := (getCurrentUser_eq_ok inv.distinct).mp current
    obtain ⟨i, member, rfl⟩ := genuine (TokenScheme.signed_of_decode decoded)
    exact ⟨i, member, rfl, (getCurrentUser_issued inv member).mp current⟩
  · rintro ⟨i, member, rfl, held⟩
    exact (getCurrentUser_issued inv member).mpr held

theorem refreshUser_iff (inv : s.Sound sec) (genuine : Genuine sec s token) :
    refreshUser sec s.users now token = .ok user ↔ Holds sec s "refresh" now token user := by
  constructor
  · intro current
    obtain ⟨payload, _, _, decoded, -⟩ := (refreshUser_eq_ok inv.distinct).mp current
    obtain ⟨i, member, rfl⟩ := genuine (TokenScheme.signed_of_decode decoded)
    exact ⟨i, member, rfl, (refreshUser_issued inv member).mp current⟩
  · rintro ⟨i, member, rfl, held⟩
    exact (refreshUser_issued inv member).mpr held

end

/-- After every history: who is admitted, that only the type and the subject of the claims count, that
no refresh token is admitted, and what a refresh issues. -/
theorem access_follows_users {Token : Type} (sec : Security Token) (events : List (AccountEvent Token))
    (s : Accounts) (reached : run (accountStep sec) Accounts.empty events = some s) (now : Int)
    (token : Token) (genuine : Genuine sec s token) :
    (∀ allowedRoles, AdmitsToken sec s allowedRoles now token ↔
      ∃ user, Holds sec s "access" now token user ∧ user.role ∈ allowedRoles) ∧
    (∀ allowedRoles other payload payload', sec.jwt.decode now token = some payload →
      sec.jwt.decode now other = some payload' →
      Json.lookup "type" payload = Json.lookup "type" payload' →
      Json.lookup "sub" payload = Json.lookup "sub" payload' →
      requireRole sec allowedRoles s.users now (some token) =
        requireRole sec allowedRoles s.users now (some other)) ∧
    (∀ allowedRoles, ∀ i ∈ s.issued, i.kind = "refresh" →
      ¬ AdmitsToken sec s allowedRoles now (i.token sec)) ∧
    (∀ m response, refreshToken sec s.users now token m = .ok response ↔
      ∃ user, Holds sec s "refresh" now token user ∧ response = tokenResponse sec user m) := by
  have inv := sound_run reached
  refine ⟨fun allowedRoles => ?_, ?_, ?_, fun m response => ?_⟩
  · apply exists_congr
    intro user
    rw [requireRole_eq_ok, currentUser_iff inv genuine]
  · intro allowedRoles other payload payload' decoded decoded' kind sub
    unfold requireRole
    rw [getCurrentUser_congr decoded decoded' kind sub]
  · rintro allowedRoles i member refresh ⟨user, admitted⟩
    have access := ((getCurrentUser_issued inv member).mp (requireRole_eq_ok.mp admitted).1).1
    rw [refresh] at access
    exact absurd access (by decide)
  · unfold refreshToken
    rw [failure_bind_eq_ok]
    apply exists_congr
    intro user
    rw [refreshUser_iff inv genuine]
    refine and_congr_right fun _ => ?_
    constructor
    · intro h
      exact (Except.ok.inj h).symm
    · rintro rfl
      rfl

theorem demoted_user_not_admitted :
    let sec := plainSecurity []
    let user : User := ⟨"4b0a5e0e-9a3c-4c6e-8f43-0c5b8f2d7a11", "a@example.com", "password", "A",
      "admin", true, none⟩
    let request : LoginRequest := ⟨"a@example.com", "password", by decide⟩
    let token := createAccessToken sec user.id "admin" [] 100 "0"
    ∃ s, run (accountStep sec) Accounts.empty [.addUser user, .login request 100 ⟨100, "0", 100, "1"⟩,
      .setRole user.id "viewer"] = some s ∧
      AdmitsToken sec s ["analyst", "viewer"] 200 token ∧ ¬ AdmitsToken sec s ["admin"] 200 token := by
  intro sec user request token
  let i : Issue := .access user.id "admin" 100 "0"
  let demoted : User := { user with role := "viewer", lastLogin := some 100 }
  let s : Accounts := ⟨[demoted], [i, .refresh user.id 100 "1"]⟩
  have reached : run (accountStep sec) Accounts.empty [.addUser user,
      .login request 100 ⟨100, "0", 100, "1"⟩, .setRole user.id "viewer"] = some s := rfl
  have issued : i ∈ s.issued := List.mem_cons_self
  obtain ⟨admits, -⟩ := access_follows_users sec _ s reached 200 token fun _ => ⟨i, issued, rfl⟩
  refine ⟨s, reached, (admits _).mpr ?_, fun admitted => ?_⟩
  · refine ⟨demoted, ⟨i, issued, rfl, rfl, by decide, List.mem_singleton_self _, rfl, rfl⟩, ?_⟩
    exact List.mem_pair.mpr (Or.inr rfl)
  · obtain ⟨u, ⟨_, -, -, -, -, member, -⟩, allowed⟩ := (admits _).mp admitted
    obtain rfl := List.mem_singleton.mp member
    exact absurd allowed (by decide)

end GuardianPi.Backend
