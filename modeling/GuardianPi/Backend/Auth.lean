import GuardianPi.Library.Python
import GuardianPi.Library.SignedToken
import Mathlib.Data.List.Nodup

namespace GuardianPi.Backend
open GuardianPi.Library GuardianPi.Library.Python

structure HTTPException where
  statusCode : Nat
  detail : String
  headers : List (String × String)

inductive Failure where
  | http (e : HTTPException)
  | python (e : PyError)
  | keyError
  | multipleResultsFound

/-- What is no `HTTPException` is answered with 500. -/
def Failure.statusCode : Failure → Nat
  | .http e => e.statusCode
  | .python _ | .keyError | .multipleResultsFound => 500

def httpException {α : Type} (statusCode : Nat) (detail : String)
    (headers : List (String × String) := []) : Except Failure α :=
  .error (.http ⟨statusCode, detail, headers⟩)

def raised {α : Type} : Except PyError α → Except Failure α := Except.mapError .python

def scalarOneOrNone {α : Type} : List α → Except Failure (Option α)
  | [] => .ok none
  | [row] => .ok (some row)
  | _ => .error .multipleResultsFound

/-! ## Tokens -/

abbrev Claims := List (String × Value)

def claim (name : String) (payload : Claims) : Value := (Json.lookup name payload).getD .null

def unexpired (now : Int) (payload : Claims) : Prop :=
  ∀ v, Json.lookup "exp" payload = some v → ∃ expire, v = .num (.int expire) ∧ now ≤ expire

instance (now : Int) (payload : Claims) : Decidable (unexpired now payload) :=
  match h : Json.lookup "exp" payload with
  | none => isTrue (by simp [unexpired, h])
  | some (.num (.int expire)) => decidable_of_iff (now ≤ expire) (by simp [unexpired, h])
  | some (.num (.float _)) | some .null | some (.bool _) | some (.str _) | some (.arr _)
  | some (.obj _) => isFalse (by simp [unexpired, h])

/-- The claims that the package checks are as the server writes them: texts, integer times, and no
claim that is only checked for others. -/
structure PlainClaims (payload : Claims) : Prop where
  texts : ∀ name ∈ ["sub", "jti"], ∀ v, Json.lookup name payload = some v → ∃ text, v = .str text
  issued : ∀ v, Json.lookup "iat" payload = some v → ∃ at', v = .num (.int at')
  expires : ∃ expire, Json.lookup "exp" payload = some (.num (.int expire))
  absent : ∀ name ∈ ["nbf", "aud", "at_hash"], Json.lookup name payload = none

structure User where
  id : String
  email : String
  passwordHash : String
  fullName : String
  role : String
  isActive : Bool
  lastLogin : Option Int
  deriving DecidableEq

/-- The settings and the packages that the functions below use: `jwt` signs with the server's key (of
claims that are not plain it may refuse what it likes), `parseUuid` gives the canonical text of a UUID, `rendersUser` is whether `UserResponse` takes a row. -/
structure Security (Token : Type) where
  jwt : TokenScheme Claims Int Token
  live_iff : ∀ now payload, PlainClaims payload → (jwt.live now payload ↔ unexpired now payload)
  jwtAccessTokenExpireMinutes : Int
  jwtRefreshTokenExpireMinutes : Int
  agentApiKeys : List String
  parseUuid : String → Except PyError String
  parseUuid_empty : parseUuid "" = .error .valueError
  checkpw : String → String → Except PyError Bool
  hashpw : String → Except PyError String
  rendersUser : User → Bool

def plainSecurity (agentApiKeys : List String) : Security Claims where
  jwt := {
    encode := id
    decode := fun now payload => if unexpired now payload then some payload else none
    live := unexpired
    decode_eq_some_iff := by simp [and_comm]
    decode_unique := by
      intro now now' token claims claims' decoded decoded'
      simp only [Option.ite_none_right_eq_some, Option.some.injEq] at decoded decoded'
      exact decoded.2.symm.trans decoded'.2 }
  live_iff _ _ _ := Iff.rfl
  jwtAccessTokenExpireMinutes := 30
  jwtRefreshTokenExpireMinutes := 10080
  agentApiKeys := agentApiKeys
  parseUuid text := if text = "" then .error .valueError else .ok text
  parseUuid_empty := rfl
  checkpw password hash := .ok (password = hash)
  hashpw := .ok
  rendersUser _ := false

section
variable {Token : Type} (sec : Security Token)

def accessPayload (subject role : String) (extraClaims : Claims) (now : Int) (jti : String) : Claims :=
  [("sub", .str subject), ("role", .str role), ("type", .str "access"), ("iat", .num (.int now)),
    ("exp", .num (.int (now + 60 * sec.jwtAccessTokenExpireMinutes))), ("jti", .str jti)] ++ extraClaims

def refreshPayload (subject : String) (now : Int) (jti : String) : Claims :=
  [("sub", .str subject), ("type", .str "refresh"), ("iat", .num (.int now)),
    ("exp", .num (.int (now + 60 * sec.jwtRefreshTokenExpireMinutes))), ("jti", .str jti)]

def createAccessToken (subject role : String) (extraClaims : Claims) (now : Int) (jti : String) : Token :=
  sec.jwt.encode (accessPayload sec subject role extraClaims now jti)

def createRefreshToken (subject : String) (now : Int) (jti : String) : Token :=
  sec.jwt.encode (refreshPayload sec subject now jti)

/-- `secrets.compare_digest` of two texts, which must be ASCII. -/
def compareDigest (a b : String) : Except PyError Bool :=
  if (a ++ b).toList.all fun c => c.toNat < 128 then .ok (a = b) else .error .typeError

def validateApiKey (apiKey : String) : Except PyError Bool :=
  sec.agentApiKeys.anyM (compareDigest apiKey)

def uuid : Value → Except PyError String
  | .str text => sec.parseUuid text
  | .null => .error .typeError
  | _ => .error .attributeError

/-! ## Dependencies -/

def wwwAuthenticate : List (String × String) := [("WWW-Authenticate", "Bearer")]

def activeUser (detail : String) (users : List User) (id : String) : Except Failure User := do
  match ← scalarOneOrNone (users.filter fun user => user.id = id) with
  | none => httpException 401 detail
  | some user => if !user.isActive then httpException 401 detail else .ok user

def currentUserBy (decodeToken : Token → Option Claims) (users : List User) (credentials : Option Token) :
    Except Failure User :=
  match credentials with
  | none => httpException 401 "Missing authentication credentials" wwwAuthenticate
  | some token =>
      match decodeToken token with
      | none => httpException 401 "Invalid or expired token" wwwAuthenticate
      | some payload =>
          if !(claim "type" payload).isStr "access" then httpException 401 "Invalid token type"
          else if !(claim "sub" payload).truthy then httpException 401 "Invalid token payload"
          else do
            let id ← raised (uuid sec (claim "sub" payload))
            activeUser "User not found or inactive" users id

def getCurrentUser (users : List User) (now : Int) (credentials : Option Token) : Except Failure User :=
  currentUserBy sec (sec.jwt.decode now) users credentials

def requireRole (allowedRoles : List String) (users : List User) (now : Int)
    (credentials : Option Token) : Except Failure User := do
  let currentUser ← getCurrentUser sec users now credentials
  let roles := String.intercalate ", " allowedRoles
  if currentUser.role ∉ allowedRoles then httpException 403 s!"Requires one of roles: {roles}"
  else .ok currentUser

def validateAgentApiKey (apiKey : Option String) : Except Failure String :=
  match apiKey with
  | none => httpException 401 "Invalid or missing API key"
  | some key =>
      if key = "" then httpException 401 "Invalid or missing API key"
      else do
        let valid ← raised (validateApiKey sec key)
        if !valid then httpException 401 "Invalid or missing API key" else .ok key

def decodeWsToken (now : Int) (token : Token) : Claims := (sec.jwt.decode now token).getD []

/-! ## The auth router -/

structure LoginRequest where
  email : String
  password : String
  bound : 8 ≤ password.length ∧ password.length ≤ 128

structure UserCreate where
  email : String
  password : String
  fullName : String
  role : String
  bound : 12 ≤ password.length ∧ password.length ≤ 128
  named : 1 ≤ fullName.length ∧ fullName.length ≤ 255
  known : role ∈ ["admin", "analyst", "viewer"]

structure TokenResponse (Token : Type) where
  accessToken : Token
  refreshToken : Token
  tokenType : String
  expiresIn : Int

structure Minting where
  accessNow : Int
  accessJti : String
  refreshNow : Int
  refreshJti : String

def tokenResponse (user : User) (m : Minting) : TokenResponse Token where
  accessToken := createAccessToken sec user.id user.role [] m.accessNow m.accessJti
  refreshToken := createRefreshToken sec user.id m.refreshNow m.refreshJti
  tokenType := "bearer"
  expiresIn := sec.jwtAccessTokenExpireMinutes * 60

def authenticate (users : List User) (request : LoginRequest) : Except Failure User := do
  match ← scalarOneOrNone (users.filter fun user => user.email = request.email) with
  | none => httpException 401 "Invalid email or password"
  | some user =>
      let verified ← raised (sec.checkpw request.password user.passwordHash)
      if !verified then httpException 401 "Invalid email or password"
      else if !user.isActive then httpException 403 "Account is disabled"
      else .ok user

def recordLogin (users : List User) (user : User) (now : Int) : List User :=
  users.map fun u => if u.id = user.id then { u with lastLogin := some now } else u

def login (users : List User) (request : LoginRequest) (now : Int) (m : Minting) :
    Except Failure (TokenResponse Token × List User) := do
  let user ← authenticate sec users request
  return (tokenResponse sec user m, recordLogin users user now)

def refreshUser (users : List User) (now : Int) (token : Token) : Except Failure User :=
  match sec.jwt.decode now token with
  | none => httpException 401 "Invalid refresh token"
  | some payload =>
      if !(claim "type" payload).isStr "refresh" then httpException 401 "Invalid token type"
      else do
        let sub ← (Json.lookup "sub" payload).elim (.error .keyError) .ok
        let id ← raised (uuid sec sub)
        activeUser "User not found" users id

def refreshToken (users : List User) (now : Int) (token : Token) (m : Minting) :
    Except Failure (TokenResponse Token) := do
  let user ← refreshUser sec users now token
  return tokenResponse sec user m

def insertUser (users : List User) (user : User) : Except Failure (List User) :=
  if ∃ u ∈ users, u.id = user.id ∨ u.email = user.email then .error (.python .integrityError)
  else .ok (users ++ [user])

def userResponse (user : User) : Except Failure User :=
  if sec.rendersUser user then .ok user else .error (.python .valueError)

def createUser (users : List User) (now : Int) (credentials : Option Token) (request : UserCreate)
    (id : String) : Except Failure (User × List User) := do
  let _ ← requireRole sec ["admin"] users now credentials
  match ← scalarOneOrNone (users.filter fun user => user.email = request.email) with
  | some _ => httpException 409 "Email already registered"
  | none =>
      let passwordHash ← raised (sec.hashpw request.password)
      let user : User := ⟨id, request.email, passwordHash, request.fullName, request.role, true, none⟩
      let users ← insertUser users user
      let response ← userResponse sec user
      return (response, users)

def getMe (users : List User) (now : Int) (credentials : Option Token) : Except Failure User := do
  let currentUser ← getCurrentUser sec users now credentials
  userResponse sec currentUser

end

/-! ## Who a request is from -/

section

theorem raised_eq_ok {α : Type} {r : Except PyError α} {x : α} : raised r = .ok x ↔ r = .ok x := by
  cases r with
  | error e => exact iff_of_false nofun nofun
  | ok y => exact ⟨fun h => congrArg _ (Except.ok.inj h), fun h => congrArg _ (Except.ok.inj h)⟩

theorem failure_bind_eq_ok {α β : Type} {r : Except Failure α} {f : α → Except Failure β} {y : β} :
    (r >>= f) = .ok y ↔ ∃ x, r = .ok x ∧ f x = .ok y := by
  cases r with
  | error e =>
      apply iff_of_false nofun
      rintro ⟨x, h, -⟩
      cases h
  | ok x =>
      constructor
      · intro h
        exact ⟨x, rfl, h⟩
      · rintro ⟨y, h, rest⟩
        obtain rfl := Except.ok.inj h
        exact rest

theorem scalarOneOrNone_filter {users : List User} (distinct : (users.map User.id).Nodup) (id : String) :
    scalarOneOrNone (users.filter fun user => user.id = id) =
      .ok (users.find? fun user => user.id = id) := by
  induction users with
  | nil => rfl
  | cons user users ih =>
      rw [List.map_cons, List.nodup_cons] at distinct
      by_cases same : user.id = id
      · have others : users.filter (fun user => user.id = id) = [] := by
          rw [List.filter_eq_nil_iff]
          intro other member
          have apart : other.id ≠ user.id := fun h => distinct.1 (h ▸ List.mem_map_of_mem member)
          simpa [same] using apart
        rw [List.filter_cons_of_pos (by simpa using same), others, List.find?_cons_of_pos (by simpa using same)]
        rfl
      · rw [List.filter_cons_of_neg (by simpa using same), List.find?_cons_of_neg (by simpa using same)]
        exact ih distinct.2

theorem find?_id_iff {users : List User} (distinct : (users.map User.id).Nodup) {id : String} {user : User} :
    users.find? (fun user => user.id = id) = some user ↔ user ∈ users ∧ user.id = id := by
  constructor
  · intro found
    exact ⟨List.mem_of_find?_eq_some found, by simpa using List.find?_some found⟩
  · rintro ⟨member, rfl⟩
    cases found : users.find? (fun u => u.id = user.id) with
    | none => exact absurd (decide_eq_true rfl) (List.find?_eq_none.mp found user member)
    | some other =>
        have same : other.id = user.id := by simpa using List.find?_some found
        rw [List.inj_on_of_nodup_map distinct (List.mem_of_find?_eq_some found) member same]

theorem activeUser_eq_ok {users : List User} (distinct : (users.map User.id).Nodup) {detail id : String}
    {user : User} :
    activeUser detail users id = .ok user ↔ user ∈ users ∧ user.id = id ∧ user.isActive = true := by
  rw [activeUser, scalarOneOrNone_filter distinct, ← and_assoc, ← find?_id_iff distinct]
  cases users.find? fun user => user.id = id with
  | none => exact iff_of_false nofun fun h => nomatch h.1
  | some other =>
      change (if !other.isActive then httpException 401 detail else Except.ok other) = _ ↔ _
      rw [Option.some.injEq]
      split_ifs with inactive
      · refine iff_of_false nofun ?_
        rintro ⟨rfl, active⟩
        rw [active] at inactive
        cases inactive
      · have active : other.isActive = true := by simpa using inactive
        constructor
        · intro h
          obtain rfl := Except.ok.inj h
          exact ⟨rfl, active⟩
        · rintro ⟨rfl, -⟩
          rfl

end

/-! ## What the dependencies ask of a token -/

section
variable {Token : Type} {sec : Security Token} {users : List User} {now : Int} {token : Token}
  {user : User}

theorem getCurrentUser_ok_iff : getCurrentUser sec users now (some token) = .ok user ↔
    ∃ payload id, sec.jwt.decode now token = some payload ∧
      (claim "type" payload).isStr "access" = true ∧ (claim "sub" payload).truthy = true ∧
      uuid sec (claim "sub" payload) = .ok id ∧ activeUser "User not found or inactive" users id = .ok user := by
  unfold getCurrentUser currentUserBy
  constructor
  · intro h
    cases decoded : sec.jwt.decode now token with
    | none =>
        simp only [decoded] at h
        cases h
    | some payload =>
        simp only [decoded] at h
        split_ifs at h with kind given
        · cases h
        · cases h
        · obtain ⟨id, parsed, active⟩ := failure_bind_eq_ok.mp h
          exact ⟨payload, id, rfl, by simpa using kind, by simpa using given, raised_eq_ok.mp parsed, active⟩
  · rintro ⟨payload, id, decoded, kind, given, parsed, active⟩
    simp only [decoded, kind, given, Bool.not_true, Bool.false_eq_true, if_false]
    exact failure_bind_eq_ok.mpr ⟨id, raised_eq_ok.mpr parsed, active⟩

theorem refreshUser_ok_iff : refreshUser sec users now token = .ok user ↔
    ∃ payload sub id, sec.jwt.decode now token = some payload ∧
      (claim "type" payload).isStr "refresh" = true ∧ Json.lookup "sub" payload = some sub ∧
      uuid sec sub = .ok id ∧ activeUser "User not found" users id = .ok user := by
  unfold refreshUser
  constructor
  · intro h
    cases decoded : sec.jwt.decode now token with
    | none =>
        simp only [decoded] at h
        cases h
    | some payload =>
        simp only [decoded] at h
        split_ifs at h with kind
        · cases h
        · obtain ⟨sub, given, h⟩ := failure_bind_eq_ok.mp h
          obtain ⟨id, parsed, active⟩ := failure_bind_eq_ok.mp h
          refine ⟨payload, sub, id, rfl, by simpa using kind, ?_, raised_eq_ok.mp parsed, active⟩
          cases found : Json.lookup "sub" payload with
          | none =>
              rw [found] at given
              cases given
          | some v =>
              rw [found] at given
              exact congrArg some (Except.ok.inj given)
  · rintro ⟨payload, sub, id, decoded, kind, given, parsed, active⟩
    simp only [decoded, kind, given, Bool.not_true, Bool.false_eq_true, if_false]
    exact failure_bind_eq_ok.mpr ⟨sub, rfl, failure_bind_eq_ok.mpr ⟨id, raised_eq_ok.mpr parsed, active⟩⟩

theorem getCurrentUser_eq_ok (distinct : (users.map User.id).Nodup) :
    getCurrentUser sec users now (some token) = .ok user ↔
      ∃ payload id, sec.jwt.decode now token = some payload ∧
        (claim "type" payload).isStr "access" = true ∧ (claim "sub" payload).truthy = true ∧
        uuid sec (claim "sub" payload) = .ok id ∧ user ∈ users ∧ user.id = id ∧ user.isActive = true := by
  rw [getCurrentUser_ok_iff]
  simp only [activeUser_eq_ok distinct]

theorem refreshUser_eq_ok (distinct : (users.map User.id).Nodup) :
    refreshUser sec users now token = .ok user ↔
      ∃ payload sub id, sec.jwt.decode now token = some payload ∧
        (claim "type" payload).isStr "refresh" = true ∧ Json.lookup "sub" payload = some sub ∧
        uuid sec sub = .ok id ∧ user ∈ users ∧ user.id = id ∧ user.isActive = true := by
  rw [refreshUser_ok_iff]
  simp only [activeUser_eq_ok distinct]

theorem requireRole_eq_ok {allowedRoles : List String} {credentials : Option Token} :
    requireRole sec allowedRoles users now credentials = .ok user ↔
      getCurrentUser sec users now credentials = .ok user ∧ user.role ∈ allowedRoles := by
  unfold requireRole
  rw [failure_bind_eq_ok]
  constructor
  · rintro ⟨other, current, checked⟩
    by_cases refused : other.role ∉ allowedRoles
    · rw [if_pos refused] at checked
      cases checked
    · rw [if_neg refused] at checked
      obtain rfl := Except.ok.inj checked
      exact ⟨current, Classical.not_not.mp refused⟩
  · rintro ⟨current, allowed⟩
    exact ⟨user, current, if_neg (not_not_intro allowed)⟩

theorem getCurrentUser_congr {token' : Token} {payload payload' : Claims}
    (decoded : sec.jwt.decode now token = some payload)
    (decoded' : sec.jwt.decode now token' = some payload')
    (kind : Json.lookup "type" payload = Json.lookup "type" payload')
    (sub : Json.lookup "sub" payload = Json.lookup "sub" payload') :
    getCurrentUser sec users now (some token) = getCurrentUser sec users now (some token') := by
  have sameKind : claim "type" payload = claim "type" payload' := by rw [claim, kind, ← claim]
  have sameSub : claim "sub" payload = claim "sub" payload' := by rw [claim, sub, ← claim]
  unfold getCurrentUser currentUserBy
  simp only [decoded, decoded']
  rw [sameKind, sameSub]

end

end GuardianPi.Backend
