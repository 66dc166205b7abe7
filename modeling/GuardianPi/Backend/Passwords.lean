import GuardianPi.Backend.Auth
import GuardianPi.Library.Encodings

namespace GuardianPi.Library.Python

def encodeText (text : String) : List UInt8 := Json.encodeUtf8 text.toList

def decodeText (bytes : List UInt8) : Except PyError String :=
  match Json.decodeUtf8 bytes with
  | some text => .ok (String.ofList text)
  | none => .error .valueError

theorem decodeText_encodeText (text : String) : decodeText (encodeText text) = .ok text := by
  simp [decodeText, encodeText, Json.decodeUtf8_encodeUtf8]

theorem encodeText_injective : Function.Injective encodeText := by
  intro s t same
  have read := decodeText_encodeText s
  rw [same, decodeText_encodeText] at read
  exact (Except.ok.inj read).symm

/-- The package `bcrypt`: 72 bytes of a password count, a hash is a text and carries its salt, and a
check hashes again. -/
structure Bcrypt (Salt : Type) where
  gensalt : Salt → List UInt8
  hashpw : List UInt8 → List UInt8 → Except PyError (List UInt8)
  checkpw : List UInt8 → List UInt8 → Except PyError Bool
  hashpw_text : ∀ password salt, ∃ hashed, hashpw password (gensalt salt) = .ok (encodeText hashed)
  hashpw_eq_iff : ∀ p q salt, hashpw p (gensalt salt) = hashpw q (gensalt salt) ↔ p.take 72 = q.take 72
  hashpw_hashed : ∀ p q salt hashed, hashpw p (gensalt salt) = .ok hashed → hashpw q hashed = hashpw q (gensalt salt)
  checkpw_eq : ∀ password hashed, checkpw password hashed =
    (hashpw password hashed).map fun again => decide (again = hashed)

end GuardianPi.Library.Python

namespace GuardianPi.Backend
open GuardianPi.Library GuardianPi.Library.Python

section
variable {Salt : Type} (b : Bcrypt Salt) (salt : Salt)

def hashPassword (password : String) : Except PyError String := do
  let hashed ← b.hashpw (encodeText password) (b.gensalt salt)
  decodeText hashed

def verifyPassword (plainPassword hashedPassword : String) : Except PyError Bool :=
  b.checkpw (encodeText plainPassword) (encodeText hashedPassword)

def OnlyRight (p q : String) : Prop :=
  ∃ hashed, hashPassword b salt p = .ok hashed ∧ verifyPassword b p hashed = .ok true ∧
    verifyPassword b q hashed = .ok false

variable {b salt} {p : String}

theorem hashPassword_eq_ok {hashed : String} : hashPassword b salt p = .ok hashed ↔
    b.hashpw (encodeText p) (b.gensalt salt) = .ok (encodeText hashed) := by
  obtain ⟨text, made⟩ := b.hashpw_text (encodeText p) salt
  rw [hashPassword, made, ok_bind, decodeText_encodeText, Except.ok.injEq, Except.ok.injEq,
    encodeText_injective.eq_iff]

theorem verifyPassword_hashed {hashed : String} (made : hashPassword b salt p = .ok hashed) (q : String) :
    verifyPassword b q hashed = .ok (decide ((encodeText q).take 72 = (encodeText p).take 72)) := by
  have made := hashPassword_eq_ok.mp made
  obtain ⟨text, other⟩ := b.hashpw_text (encodeText q) salt
  have same : encodeText text = encodeText hashed ↔ (encodeText q).take 72 = (encodeText p).take 72 := by
    rw [← b.hashpw_eq_iff _ _ salt, other, made, Except.ok.injEq]
  rw [verifyPassword, b.checkpw_eq, b.hashpw_hashed _ _ _ _ made, other]
  simp only [Except.map, same]

end

theorem only_right_iff {Salt : Type} (b : Bcrypt Salt) (salt : Salt) (created : UserCreate) (entered : LoginRequest) :
    OnlyRight b salt created.password entered.password ↔
      (encodeText created.password).take 72 ≠ (encodeText entered.password).take 72 := by
  obtain ⟨text, made⟩ := b.hashpw_text (encodeText created.password) salt
  have hashed := hashPassword_eq_ok.mpr made
  constructor
  · rintro ⟨other, made', -, refused⟩ same
    rw [verifyPassword_hashed made'] at refused
    simp [same] at refused
  · intro differ
    refine ⟨text, hashed, ?_, ?_⟩
    · simp [verifyPassword_hashed hashed]
    · simp [verifyPassword_hashed hashed, differ.symm]

theorem authenticate_hashed_iff {Salt Token : Type} (b : Bcrypt Salt) {salt : Salt} {sec : Security Token}
    (checks : sec.checkpw = verifyPassword b) {users : List User} {user : User} {request : LoginRequest}
    {password : String} (only : users.filter (fun u => u.email = request.email) = [user])
    (active : user.isActive = true) (made : hashPassword b salt password = .ok user.passwordHash) :
    authenticate sec users request = .ok user ↔
      (encodeText request.password).take 72 = (encodeText password).take 72 := by
  have verified := verifyPassword_hashed made request.password
  simp only [authenticate, only, scalarOneOrNone, checks, bind, Except.bind, raised, Except.mapError, verified]
  by_cases same : (encodeText request.password).take 72 = (encodeText password).take 72
  · simp [same, active]
  · simp [same, httpException]

def plainBcrypt : Bcrypt Unit where
  gensalt _ := []
  hashpw password _ := .ok (encodeText (String.ofList (b64encode (password.take 72))))
  checkpw password hashed := .ok (decide (encodeText (String.ofList (b64encode (password.take 72))) = hashed))
  hashpw_text password _ := ⟨_, rfl⟩
  hashpw_eq_iff p q _ := by
    rw [Except.ok.injEq, encodeText_injective.eq_iff]
    refine ⟨fun same => ?_, fun same => by rw [same]⟩
    have read := b64decode_b64encode (p.take 72)
    rw [same, b64decode_b64encode] at read
    exact (Except.ok.inj read).symm
  hashpw_hashed _ _ _ _ _ := rfl
  checkpw_eq _ _ := rfl

theorem long_password_shared : ∃ (created : UserCreate) (entered : LoginRequest),
    created.password = String.ofList (List.replicate 72 'a' ++ ['1']) ∧
    entered.password = String.ofList (List.replicate 72 'a' ++ ['2']) ∧
    created.password ≠ entered.password ∧ ¬ OnlyRight plainBcrypt () created.password entered.password := by
  refine ⟨⟨"a@example.com", String.ofList (List.replicate 72 'a' ++ ['1']), "A", "viewer", by decide +kernel,
    by decide +kernel, by decide +kernel⟩, ⟨"a@example.com", String.ofList (List.replicate 72 'a' ++ ['2']),
    by decide +kernel⟩, rfl, rfl, by decide +kernel, ?_⟩
  rintro ⟨hashed, made, -, refused⟩
  rw [verifyPassword_hashed made] at refused
  revert refused
  decide +kernel

end GuardianPi.Backend
