import GuardianPi.Backend.Auth
import GuardianPi.Backend.ListPages

namespace GuardianPi.Backend
open GuardianPi.Library GuardianPi.Library.Python

def Unauthorized {α : Type} (r : Except Failure α) : Prop :=
  ∃ e : HTTPException, r = .error (.http e) ∧ e.statusCode = 401

def isAscii (s : String) : Bool := s.toList.all fun c => c.toNat < 128

section
variable {Token : Type} (sec : Security Token)

def KeyAnswered (header : Option String) : Prop :=
  (∀ key, header = some key → key ∈ sec.agentApiKeys → validateAgentApiKey sec header = .ok key) ∧
    ((∀ key, header = some key → key ∉ sec.agentApiKeys) → Unauthorized (validateAgentApiKey sec header))

/-- The header is ASCII, and so is each key that stands before it, unless there is no key at all; an empty header
is not configured. -/
def KeyComparable (header : Option String) : Prop :=
  ∀ key, header = some key → if key = "" then "" ∉ sec.agentApiKeys
    else sec.agentApiKeys = [] ∨ isAscii key = true ∧ ∀ k ∈ sec.agentApiKeys.takeWhile (· ≠ key), isAscii k = true

def ActiveOrUnauthorized (users : ListPages.Table User User.id) (r : Except Failure User) : Prop :=
  (∃ user ∈ users.rows, user.isActive = true ∧ r = .ok user) ∨ Unauthorized r

def BearerAnswered (users : ListPages.Table User User.id) (now : Int) (credentials : Option Token) : Prop :=
  ActiveOrUnauthorized users (getCurrentUser sec users.rows now credentials)

def SubjectReadableBy (decodeToken : Token → Option Claims) (credentials : Option Token) : Prop :=
  ∀ token payload, credentials = some token → decodeToken token = some payload →
    (claim "type" payload).isStr "access" = true → (claim "sub" payload).truthy = true →
      (uuid sec (claim "sub" payload)).isOk = true

def SubjectReadable (now : Int) (credentials : Option Token) : Prop :=
  SubjectReadableBy sec (sec.jwt.decode now) credentials

variable {sec}

theorem compareDigest_eq (a b : String) :
    compareDigest a b = if isAscii a = true ∧ isAscii b = true then .ok (decide (a = b)) else .error .typeError := by
  unfold compareDigest isAscii
  rw [String.toList_append, List.all_append]
  simp only [Bool.and_eq_true]

theorem anyM_compareDigest (key : String) (keys : List String) : keys.anyM (compareDigest key) =
    if keys = [] ∨ isAscii key = true ∧ ∀ k ∈ keys.takeWhile (· ≠ key), isAscii k = true
    then .ok (decide (key ∈ keys)) else .error .typeError := by
  induction keys with
  | nil => rfl
  | cons k keys ih =>
      rw [List.anyM_cons, compareDigest_eq]
      by_cases ascii : isAscii key = true
      · by_cases same : key = k
        · subst k
          simp [ascii]
        · have passed : (k :: keys).takeWhile (· ≠ key) = k :: keys.takeWhile (· ≠ key) :=
            List.takeWhile_cons_of_pos (decide_eq_true (Ne.symm same))
          rw [passed]
          by_cases ascii' : isAscii k = true
          · rw [if_pos ⟨ascii, ascii'⟩, decide_eq_false same]
            change keys.anyM (compareDigest key) = _
            rw [ih]
            cases keys <;> simp [ascii, ascii', same]
          · simp [ascii, ascii']
      · simp [ascii]

theorem unauthorized_httpException {α : Type} (detail : String) (headers : List (String × String)) :
    Unauthorized (httpException 401 detail headers : Except Failure α) := ⟨_, rfl, rfl⟩

theorem not_unauthorized_raised {α : Type} (e : PyError) : ¬ Unauthorized (raised (.error e : Except PyError α)) := by
  rintro ⟨_, answered, -⟩
  cases answered

theorem keyAnswered_iff (header : Option String) : KeyAnswered sec header ↔ KeyComparable sec header := by
  unfold KeyAnswered KeyComparable
  cases header with
  | none => exact iff_of_true ⟨nofun, fun _ => unauthorized_httpException _ _⟩ nofun
  | some key =>
      simp only [Option.some.injEq, forall_eq']
      unfold validateAgentApiKey validateApiKey
      by_cases empty : key = ""
      · subst key
        rw [if_pos rfl]
        refine ⟨fun answered member => ?_, fun absent => ⟨fun member => absurd member absent, fun _ => ?_⟩⟩
        · cases answered.1 member
        · exact unauthorized_httpException _ _
      · simp only [empty, if_false]
        rw [anyM_compareDigest]
        split_ifs with comparable
        · refine iff_of_true ⟨fun member => ?_, fun absent => ?_⟩ comparable
          · rw [decide_eq_true member]
            rfl
          · rw [decide_eq_false absent]
            exact unauthorized_httpException _ _
        · refine iff_of_false ?_ comparable
          rintro ⟨here, absent⟩
          by_cases member : key ∈ sec.agentApiKeys
          · cases here member
          · obtain ⟨_, answered, -⟩ := absent member
            cases answered

theorem refused_answered (users : ListPages.Table User User.id) (detail : String) (headers : List (String × String)) :
    ActiveOrUnauthorized users (httpException 401 detail headers) := Or.inr (unauthorized_httpException detail headers)

theorem activeUser_answered (users : ListPages.Table User User.id) (detail id : String) :
    ActiveOrUnauthorized users (activeUser detail users.rows id) := by
  rw [activeUser, scalarOneOrNone_filter users.primaryKey]
  cases found : users.rows.find? fun user => user.id = id with
  | none => exact refused_answered users detail []
  | some user =>
      change ActiveOrUnauthorized users (if !user.isActive then httpException 401 detail else .ok user)
      cases active : user.isActive with
      | true => exact Or.inl ⟨user, List.mem_of_find?_eq_some found, active, rfl⟩
      | false => exact refused_answered users detail []

variable {decodeToken : Token → Option Claims}

theorem subjectReadableBy_some_iff {token : Token} {payload : Claims}
    (decoded : decodeToken token = some payload) : SubjectReadableBy sec decodeToken (some token) ↔
      ((claim "type" payload).isStr "access" = true → (claim "sub" payload).truthy = true →
        (uuid sec (claim "sub" payload)).isOk = true) := by
  constructor
  · intro readable
    exact readable token payload rfl decoded
  · intro readable
    rintro _ other ⟨⟩ live
    obtain rfl := Option.some.inj (decoded.symm.trans live)
    exact readable

theorem currentUserBy_of_decode {token : Token} {payload : Claims} {users : List User}
    (decoded : decodeToken token = some payload) : currentUserBy sec decodeToken users (some token) =
      if (!(claim "type" payload).isStr "access") = true then httpException 401 "Invalid token type"
      else if (!(claim "sub" payload).truthy) = true then httpException 401 "Invalid token payload"
      else raised (uuid sec (claim "sub" payload)) >>= activeUser "User not found or inactive" users := by
  unfold currentUserBy
  simp only [decoded]

theorem currentUserBy_answered_iff (users : ListPages.Table User User.id) (credentials : Option Token) :
    ActiveOrUnauthorized users (currentUserBy sec decodeToken users.rows credentials) ↔
      SubjectReadableBy sec decodeToken credentials := by
  cases credentials with
  | none => exact iff_of_true (refused_answered users "Missing authentication credentials" wwwAuthenticate) nofun
  | some token =>
      cases decoded : decodeToken token with
      | none =>
          unfold currentUserBy
          simp only [decoded]
          refine iff_of_true (refused_answered users _ _) ?_
          rintro _ payload ⟨⟩ live
          cases decoded.symm.trans live
      | some payload =>
          rw [subjectReadableBy_some_iff decoded, currentUserBy_of_decode decoded]
          cases (claim "type" payload).isStr "access" with
          | false => exact iff_of_true (refused_answered users _ _) nofun
          | true =>
              cases (claim "sub" payload).truthy with
              | false => exact iff_of_true (refused_answered users _ _) nofun
              | true =>
                  cases uuid sec (claim "sub" payload) with
                  | ok id => exact iff_of_true (activeUser_answered users _ id) fun _ _ => rfl
                  | error e =>
                      refine iff_of_false ?_ fun readable => Bool.noConfusion (readable rfl rfl)
                      rintro (⟨_, -, -, answered⟩ | answered)
                      · cases answered
                      · exact not_unauthorized_raised e answered

end

theorem credentials_answered_iff {Token : Type} (sec : Security Token) :
    (∀ header, KeyAnswered sec header ↔ KeyComparable sec header) ∧
      (∀ users now credentials, BearerAnswered sec users now credentials ↔ SubjectReadable sec now credentials) ∧
      ∀ (decodeToken : Token → Option Claims) users credentials,
        ActiveOrUnauthorized users (currentUserBy sec decodeToken users.rows credentials) ↔
          SubjectReadableBy sec decodeToken credentials :=
  ⟨keyAnswered_iff, fun users _ credentials => currentUserBy_answered_iff users credentials,
    fun _ users credentials => currentUserBy_answered_iff users credentials⟩

def oneAgent : Security Claims :=
  { plainSecurity ["agent-key"] with
    parseUuid := fun text => if (text.toList.filter (· ≠ '-')).length = 32 then .ok text else .error .valueError
    parseUuid_empty := rfl }

theorem accent_not_answered : ¬ KeyAnswered oneAgent (some "clé") ∧
    ¬ BearerAnswered oneAgent ⟨[], List.nodup_nil⟩ 0 (some [("sub", .str "admin"), ("type", .str "access")]) := by
  constructor
  · rintro ⟨-, refused⟩
    have absent : ∀ key, some "clé" = some key → key ∉ oneAgent.agentApiKeys := by
      rintro _ ⟨⟩
      decide
    exact not_unauthorized_raised .typeError (refused absent)
  · rintro (⟨_, member, -⟩ | refused)
    · cases member
    · exact not_unauthorized_raised .valueError refused

end GuardianPi.Backend
