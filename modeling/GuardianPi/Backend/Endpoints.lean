import GuardianPi.Backend.Auth
import GuardianPi.Library.Orm

namespace GuardianPi.Backend
open GuardianPi.Library GuardianPi.Library.Python

structure HttpResponse where
  status : Nat
  content : Value
  headers : List (String × String)

def Failure.response : Failure → HttpResponse
  | .http e => ⟨e.statusCode, .obj [("detail", .str e.detail)], e.headers⟩
  | .python _ | .keyError | .multipleResultsFound => ⟨500, .str "Internal Server Error", []⟩

structure Policy where
  id : String
  name : String
  rules : Value
  severity : String
  isEnabled : Bool
  targetOs : Option (List String)

def Policy.targets (p : Policy) (osType : String) : Bool := (p.targetOs.getD []).contains osType

def Policy.content (p : Policy) : Value :=
  .obj [("id", .str p.id), ("name", .str p.name), ("rules", p.rules), ("severity", .str p.severity)]

structure Tables where
  policies : List Policy
  alerts : List (Orm.Fields Value)
  devices : List (Orm.Fields Value)

def getAgentPolicies (tables : Tables) (osType : String) : Value :=
  let policies := tables.policies.filter fun p => p.isEnabled
  let matching := policies.filter fun p => p.targets osType
  .obj [("policies", .arr (matching.map Policy.content))]

structure Requirements where
  minRamMb : Int
  minStorageGb : Int
  architectures : List String

def minimumRequirements : List (String × Requirements) := [
  ("windows", ⟨2048, 5, ["x86_64", "arm64"]⟩),
  ("linux", ⟨512, 2, ["x86_64", "arm64", "armv7l"]⟩),
  ("macos", ⟨4096, 5, ["x86_64", "arm64"]⟩),
  ("raspberrypi", ⟨256, 2, ["armv7l", "arm64"]⟩),
  ("android", ⟨2048, 1, ["arm64", "armv7l"]⟩),
  ("ios", ⟨2048, 1, ["arm64"]⟩)]

structure CompatibilityCheckRequest where
  osType : String
  osVersion : String
  architecture : String
  ramMb : Int
  storageGb : Int

structure CompatibilityCheckResponse where
  isCompatible : Bool
  issues : List String
  recommendations : List String

def checkCompatibility (r : CompatibilityCheckRequest) : CompatibilityCheckResponse :=
  match minimumRequirements.lookup r.osType with
  | none => ⟨false, [s!"Unsupported OS: {r.osType}"], ["Use a supported platform"]⟩
  | some reqs =>
      let architecture := if r.architecture ∉ reqs.architectures then
        [s!"Unsupported architecture: {r.architecture}"] else []
      let small := r.ramMb < reqs.minRamMb
      let ram := if small then
        [s!"Insufficient RAM: {r.ramMb}MB (minimum {reqs.minRamMb}MB)"] else []
      let storage := if r.storageGb < reqs.minStorageGb then
        [s!"Insufficient storage: {r.storageGb}GB (minimum {reqs.minStorageGb}GB)"] else []
      let issues := architecture ++ ram ++ storage
      ⟨issues.isEmpty, issues, if small then ["Upgrade device RAM"] else []⟩

def CompatibilityCheckResponse.content (r : CompatibilityCheckResponse) : Value :=
  .obj [("is_compatible", .bool r.isCompatible), ("issues", .arr (r.issues.map .str)),
    ("recommendations", .arr (r.recommendations.map .str))]

inductive Dependency where
  | currentUser
  | role (allowedRoles : List String)
  | agentApiKey

inductive Caller where
  | user (user : User)
  | agent (apiKey : String)

inductive GuardedRoute where
  | createPolicy
  | listPolicies
  | getPolicy
  | updatePolicy
  | deletePolicy
  | createAlert
  | listAlerts
  | updateAlert
  | getAlertStats
  | registerDevice
  | listDevices
  | getDevice
  | deviceHeartbeat

def GuardedRoute.dependency : GuardedRoute → Dependency
  | createPolicy | updatePolicy | deletePolicy => .role ["admin"]
  | updateAlert => .role ["admin", "analyst"]
  | listPolicies | getPolicy | listAlerts | getAlertStats | listDevices | getDevice => .currentUser
  | createAlert | registerDevice | deviceHeartbeat => .agentApiKey

inductive BadBody where
  | undecodable
  | invalid (content : Value)

def BadBody.response : BadBody → HttpResponse
  | .undecodable => ⟨400, .obj [("detail", .str "There was an error parsing the body")], []⟩
  | .invalid content => ⟨422, content, []⟩

/-- What FastAPI finds in a request: a body that it cannot read, parameters that the schema refuses, or
the arguments of the handler. -/
inductive Input where
  | unreadable (body : BadBody)
  | refused (content : Value)
  | accepted (arguments : Value)

inductive ClientRequest (Token : Type) where
  | guarded (route : GuardedRoute) (credentials : Option Token) (apiKey : Option String) (input : Input)
  | getAgentPolicies (osType : String)
  | compatibilityCheck (body : Except BadBody CompatibilityCheckRequest)

section
variable {Token : Type} (sec : Security Token)

def Dependency.check (d : Dependency) (users : List User) (now : Int) (credentials : Option Token)
    (apiKey : Option String) : Except Failure Caller :=
  match d with
  | .currentUser => (getCurrentUser sec users now credentials).map .user
  | .role allowedRoles => (requireRole sec allowedRoles users now credentials).map .user
  | .agentApiKey => (validateAgentApiKey sec apiKey).map .agent

abbrev Handlers := GuardedRoute → Caller → Value → Tables → HttpResponse × Tables

/-- The body is read before the dependencies are called, its fields are checked after them. -/
def answer (handlers : Handlers) (users : List User) (now : Int) (tables : Tables) :
    ClientRequest Token → HttpResponse × Tables
  | .guarded route credentials apiKey input =>
      match input, route.dependency.check sec users now credentials apiKey with
      | .unreadable body, _ => (body.response, tables)
      | _, .error failure => (failure.response, tables)
      | .refused content, .ok _ => (⟨422, content, []⟩, tables)
      | .accepted arguments, .ok caller => handlers route caller arguments tables
  | .getAgentPolicies osType => (⟨200, getAgentPolicies tables osType, []⟩, tables)
  | .compatibilityCheck (.error body) => (body.response, tables)
  | .compatibilityCheck (.ok request) => (⟨200, (checkCompatibility request).content, []⟩, tables)

def ValidAccessToken (now : Int) (token : Token) : Prop :=
  ∃ payload, sec.jwt.decode now token = some payload ∧ (claim "type" payload).isStr "access" = true

def ClientRequest.Unauthenticated (now : Int) : ClientRequest Token → Prop
  | .guarded _ credentials apiKey _ => (∀ token ∈ credentials, ¬ ValidAccessToken sec now token) ∧
      ∀ key ∈ apiKey, key ∉ sec.agentApiKeys
  | _ => True

variable {sec} {users : List User} {now : Int} {credentials : Option Token} {apiKey : Option String}

theorem getCurrentUser_ne_ok (invalid : ∀ token ∈ credentials, ¬ ValidAccessToken sec now token)
    (user : User) : getCurrentUser sec users now credentials ≠ .ok user := by
  intro admitted
  cases credentials with
  | none => cases admitted
  | some token =>
      obtain ⟨payload, _, decoded, access, -⟩ := getCurrentUser_ok_iff.mp admitted
      exact invalid token rfl ⟨payload, decoded, access⟩

theorem mem_of_validateApiKey {key : String} (valid : validateApiKey sec key = .ok true) :
    key ∈ sec.agentApiKeys := by
  unfold validateApiKey at valid
  generalize sec.agentApiKeys = keys at valid ⊢
  induction keys with
  | nil => cases valid
  | cons validKey keys ih =>
      rw [List.anyM_cons] at valid
      cases same : compareDigest key validKey with
      | error e =>
          rw [same] at valid
          cases valid
      | ok equal =>
          cases equal with
          | true =>
              unfold compareDigest at same
              split_ifs at same
              exact List.mem_cons.mpr (Or.inl (of_decide_eq_true (Except.ok.inj same)))
          | false =>
              rw [same] at valid
              exact List.mem_cons_of_mem validKey (ih valid)

theorem validateAgentApiKey_ne_ok (invalid : ∀ key ∈ apiKey, key ∉ sec.agentApiKeys) (key : String) :
    validateAgentApiKey sec apiKey ≠ .ok key := by
  intro admitted
  cases apiKey with
  | none => cases admitted
  | some given =>
      unfold validateAgentApiKey at admitted
      dsimp only at admitted
      split_ifs at admitted
      · cases admitted
      · obtain ⟨valid, checked, admitted⟩ := failure_bind_eq_ok.mp admitted
        cases valid with
        | true => exact invalid given rfl (mem_of_validateApiKey (raised_eq_ok.mp checked))
        | false => cases admitted

theorem check_ne_ok (d : Dependency)
    (token : ∀ token ∈ credentials, ¬ ValidAccessToken sec now token)
    (key : ∀ key ∈ apiKey, key ∉ sec.agentApiKeys) (caller : Caller) :
    d.check sec users now credentials apiKey ≠ .ok caller := by
  have mapped {α : Type} {r : Except Failure α} {f : α → Caller} (never : ∀ x, r ≠ .ok x) :
      r.map f ≠ .ok caller := by
    cases r with
    | error e => exact nofun
    | ok x => exact absurd rfl (never x)
  cases d with
  | currentUser => exact mapped (getCurrentUser_ne_ok token)
  | role allowedRoles =>
      refine mapped fun user admitted => ?_
      exact getCurrentUser_ne_ok token user (requireRole_eq_ok.mp admitted).1
  | agentApiKey => exact mapped (validateAgentApiKey_ne_ok key)

def ClientRequest.Reveals : ClientRequest Token → Prop
  | .getAgentPolicies _ => True
  | _ => False

theorem answer_unauthenticated {r : ClientRequest Token} (unauthenticated : r.Unauthenticated sec now)
    (closed : ¬ r.Reveals) (handlers : Handlers) :
    ∃ response, ∀ tables, answer sec handlers users now tables r = (response, tables) := by
  cases r with
  | getAgentPolicies osType => exact absurd trivial closed
  | compatibilityCheck body => cases body <;> exact ⟨_, fun _ => rfl⟩
  | guarded route credentials apiKey input =>
      cases checked : route.dependency.check sec users now credentials apiKey with
      | ok caller =>
          exact absurd checked (check_ne_ok _ unauthenticated.1 unauthenticated.2 caller)
      | error failure =>
          simp only [answer, checked]
          cases input <;> exact ⟨_, fun _ => rfl⟩

end

end GuardianPi.Backend
