import GuardianPi.Library.Calendar
import GuardianPi.Library.Encodings
import GuardianPi.Library.SortedJson

namespace GuardianPi.Backend
open GuardianPi.Library GuardianPi.Library.Python

/-- The arguments of a call, the id that its row draws, and the ISO texts of two readings of the
clock: one for the signed text, one when the row is flushed. -/
structure AuditCall where
  action : String
  category : String
  userId : Option String
  deviceId : Option String
  details : Option (List (String × Json Literal))
  ipAddress : Option String
  userAgent : Option String
  id : String
  signedAt : String
  flushedAt : String

structure AuditColumns (Stored : Type) where
  id : String
  userId : Option String
  deviceId : Option String
  action : String
  category : String
  details : Stored
  ipAddress : Option String
  userAgent : Option String
  previousHash : Option String
  createdAt : String

structure AuditLog (Stored Signature : Type) extends AuditColumns Stored where
  hmacSignature : Signature

/-- HMAC-SHA256 with the server's key, what a JSONB column keeps of a value, and the rows that the
database takes. -/
structure AuditServices (Stored Signature : Type) where
  hmac : List UInt8 → Signature
  jsonb : Json Literal → Stored
  accepts : AuditLog Stored Signature → Bool

def textOrNull (text : Option String) : Json Literal := (text.map .str).getD .null

def AuditCall.detailsValue (c : AuditCall) : Json Literal := (c.details.map .obj).getD .null

def AuditCall.entryFields (c : AuditCall) : List (String × Json Literal) :=
  [("action", .str c.action), ("category", .str c.category), ("user_id", textOrNull c.userId),
    ("device_id", textOrNull c.deviceId), ("details", c.detailsValue), ("timestamp", .str c.signedAt)]

def AuditCall.entryData (c : AuditCall) : List UInt8 := dumps (Json.sortKeys (.obj c.entryFields))

section
variable {Stored Signature : Type} (services : AuditServices Stored Signature)

def signAuditEntry (entryData : List UInt8) : Signature := services.hmac entryData

def verifyAuditSignature [DecidableEq Signature] (entryData : List UInt8) (signature : Signature) : Bool :=
  signAuditEntry services entryData = signature

def AuditCall.columns (c : AuditCall) : AuditColumns Stored where
  id := c.id
  userId := c.userId
  deviceId := c.deviceId
  action := c.action
  category := c.category
  details := services.jsonb c.detailsValue
  ipAddress := c.ipAddress
  userAgent := c.userAgent
  previousHash := none
  createdAt := c.flushedAt

def createAuditEntry (c : AuditCall) : Except PyError (AuditLog Stored Signature) :=
  let row : AuditLog Stored Signature :=
    { c.columns services with hmacSignature := signAuditEntry services c.entryData }
  if services.accepts row then .ok row else .error .integrityError

/-- One reconstruction gives the signed text of every row from its columns. -/
def Verifiable [DecidableEq Signature] (calls : Set AuditCall) : Prop :=
  ∃ reconstruct : AuditColumns Stored → List UInt8, ∀ c ∈ calls, ∀ row,
    createAuditEntry services c = .ok row →
      verifyAuditSignature services (reconstruct row.toAuditColumns) row.hmacSignature = true

structure StoredAlike (c c' : AuditCall) : Prop where
  id : c.id = c'.id
  userId : c.userId = c'.userId
  deviceId : c.deviceId = c'.deviceId
  action : c.action = c'.action
  category : c.category = c'.category
  details : services.jsonb c.detailsValue = services.jsonb c'.detailsValue
  ipAddress : c.ipAddress = c'.ipAddress
  userAgent : c.userAgent = c'.userAgent
  flushedAt : c.flushedAt = c'.flushedAt

def Returns (c : AuditCall) : Prop := ∃ row, createAuditEntry services c = .ok row

def SignedAlike (c c' : AuditCall) : Prop :=
  c.signedAt = c'.signedAt ∧ Json.sortKeys c.detailsValue = Json.sortKeys c'.detailsValue

variable {services}

theorem storedAlike_iff {c c' : AuditCall} :
    StoredAlike services c c' ↔ c.columns services = c'.columns services := by
  constructor
  · rintro ⟨id, userId, deviceId, action, category, details, ipAddress, userAgent, flushedAt⟩
    unfold AuditCall.columns
    rw [id, userId, deviceId, action, category, details, ipAddress, userAgent, flushedAt]
  · intro same
    exact ⟨congrArg AuditColumns.id same, congrArg AuditColumns.userId same,
      congrArg AuditColumns.deviceId same, congrArg AuditColumns.action same,
      congrArg AuditColumns.category same, congrArg AuditColumns.details same,
      congrArg AuditColumns.ipAddress same, congrArg AuditColumns.userAgent same,
      congrArg AuditColumns.createdAt same⟩

theorem get?_entry (c : AuditCall) (key : String) :
    Json.get? key (Json.sortKeys (.obj c.entryFields)) =
      (Json.lookup key c.entryFields).map Json.sortKeys := by
  apply Json.get?_sortKeys
  change ["action", "category", "user_id", "device_id", "details", "timestamp"].Nodup
  decide

theorem textOrNull_inj {text text' : Option String} :
    Json.sortKeys (textOrNull text) = Json.sortKeys (textOrNull text') ↔ text = text' := by
  cases text <;> cases text' <;> simp [textOrNull, Json.sortKeys]

theorem entryData_eq_iff_fields {c c' : AuditCall} :
    c.entryData = c'.entryData ↔ c.action = c'.action ∧ c.category = c'.category ∧
      c.userId = c'.userId ∧ c.deviceId = c'.deviceId ∧ SignedAlike c c' := by
  constructor
  · intro same
    have value (key : String) : (Json.lookup key c.entryFields).map Json.sortKeys =
        (Json.lookup key c'.entryFields).map Json.sortKeys := by
      rw [← get?_entry, ← get?_entry]
      exact congrArg _ (dumps_injective same)
    refine ⟨Json.str.inj (Option.some.inj (value "action")),
      Json.str.inj (Option.some.inj (value "category")), ?_, ?_,
      Json.str.inj (Option.some.inj (value "timestamp")), Option.some.inj (value "details")⟩
    · exact textOrNull_inj.mp (Option.some.inj (value "user_id"))
    · exact textOrNull_inj.mp (Option.some.inj (value "device_id"))
  · rintro ⟨action, category, userId, deviceId, signedAt, details⟩
    have fields : Json.sortFields c.entryFields = Json.sortFields c'.entryFields := by
      simp only [AuditCall.entryFields, Json.sortFields, action, category, userId, deviceId, details,
        signedAt]
    unfold AuditCall.entryData
    rw [Json.sortKeys, Json.sortKeys, fields]

theorem entryData_eq_iff {c c' : AuditCall} (alike : StoredAlike services c c') :
    c.entryData = c'.entryData ↔ SignedAlike c c' := by
  rw [entryData_eq_iff_fields]
  constructor
  · rintro ⟨-, -, -, -, same⟩
    exact same
  · intro same
    exact ⟨alike.action, alike.category, alike.userId, alike.deviceId, same⟩

theorem createAuditEntry_eq_ok {c : AuditCall} {row : AuditLog Stored Signature}
    (made : createAuditEntry services c = .ok row) :
    row.toAuditColumns = c.columns services ∧ row.hmacSignature = services.hmac c.entryData := by
  unfold createAuditEntry at made
  dsimp only at made
  split_ifs at made
  obtain rfl := Except.ok.inj made
  exact ⟨rfl, rfl⟩

theorem verify_iff [DecidableEq Signature] (injective : Function.Injective services.hmac)
    {c : AuditCall} {row : AuditLog Stored Signature} (made : createAuditEntry services c = .ok row)
    (text : List UInt8) :
    verifyAuditSignature services text row.hmacSignature = true ↔ text = c.entryData := by
  rw [verifyAuditSignature, decide_eq_true_iff, (createAuditEntry_eq_ok made).2, signAuditEntry]
  exact injective.eq_iff

theorem signedAlike_of_verifiable [DecidableEq Signature] (injective : Function.Injective services.hmac)
    {calls : Set AuditCall} (verifiable : Verifiable services calls) {c c' : AuditCall}
    (member : c ∈ calls) (member' : c' ∈ calls) (returns : Returns services c)
    (returns' : Returns services c') (alike : StoredAlike services c c') : SignedAlike c c' := by
  obtain ⟨reconstruct, verifies⟩ := verifiable
  obtain ⟨row, made⟩ := returns
  obtain ⟨row', made'⟩ := returns'
  have text := (verify_iff injective made _).mp (verifies c member row made)
  have text' := (verify_iff injective made' _).mp (verifies c' member' row' made')
  apply (entryData_eq_iff alike).mp
  rw [← text, ← text', (createAuditEntry_eq_ok made).1, (createAuditEntry_eq_ok made').1,
    storedAlike_iff.mp alike]

end

theorem verifiable_iff {Stored Signature : Type} [DecidableEq Signature]
    (services : AuditServices Stored Signature) (injective : Function.Injective services.hmac)
    (calls : Set AuditCall) :
    Verifiable services calls ↔ ∀ c ∈ calls, ∀ c' ∈ calls, Returns services c → Returns services c' →
      StoredAlike services c c' → SignedAlike c c' := by
  constructor
  · intro verifiable c member c' member' returns returns' alike
    exact signedAlike_of_verifiable injective verifiable member member' returns returns' alike
  · intro determined
    -- the text that some call signed for a row with these columns
    classical
    refine ⟨fun columns => if signed : ∃ c ∈ calls, Returns services c ∧ c.columns services = columns
      then signed.choose.entryData else [], ?_⟩
    intro c member row made
    apply (verify_iff injective made _).mpr
    have signed : ∃ c ∈ calls, Returns services c ∧ c.columns services = row.toAuditColumns :=
      ⟨c, member, ⟨row, made⟩, (createAuditEntry_eq_ok made).1.symm⟩
    refine (dif_pos signed).trans ?_
    obtain ⟨member', returns, same⟩ := signed.choose_spec
    have alike : StoredAlike services signed.choose c :=
      storedAlike_iff.mpr (same.trans (createAuditEntry_eq_ok made).1)
    exact (entryData_eq_iff alike).mpr (determined _ member' c member returns ⟨row, made⟩ alike)

/-- The calls with details in `kept` whose row is flushed one of these delays, in microseconds, after
its text was signed. -/
def delayedCalls (kept : Set (Json Literal)) (delays : Set Int) : Set AuditCall :=
  { c | c.detailsValue ∈ kept ∧ ∃ signed flushed, Representable signed ∧ Representable flushed ∧
    c.signedAt = isoformat signed ∧ c.flushedAt = isoformat flushed ∧ flushed - signed ∈ delays }

section
variable {Stored Signature : Type} (services : AuditServices Stored Signature)

/-- No constraint of the table is on the signature or on `created_at`. -/
def Unconstrained : Prop := ∀ row row' : AuditLog Stored Signature,
  { row.toAuditColumns with createdAt := row'.createdAt } = row'.toAuditColumns →
    services.accepts row = services.accepts row'

/-- The column keeps apart what `json.dumps` writes differently. -/
def KeepsApart (kept : Set (Json Literal)) : Prop :=
  ∀ details ∈ kept, ∀ details' ∈ kept, services.jsonb details = services.jsonb details' →
    Json.sortKeys details = Json.sortKeys details'

variable {services}

theorem Unconstrained.returns (unconstrained : Unconstrained services) {c c' : AuditCall} (returns : Returns services c)
    (same : { c.columns services with createdAt := c'.flushedAt } = c'.columns services) :
    Returns services c' := by
  obtain ⟨row, made⟩ := returns
  unfold Returns createAuditEntry at *
  dsimp only at made ⊢
  rw [unconstrained _ { c'.columns services with hmacSignature := signAuditEntry services c'.entryData } same]
    at made
  split_ifs at made with accepted
  exact ⟨_, if_pos accepted⟩

def AuditCall.at (c : AuditCall) (signed flushed : Int) : AuditCall :=
  { c with signedAt := isoformat signed, flushedAt := isoformat flushed }

theorem at_columns (c : AuditCall) (signed flushed : Int) : (c.at signed flushed).columns services =
    { c.columns services with createdAt := isoformat flushed } := rfl

theorem Unconstrained.returns_at (unconstrained : Unconstrained services) {c : AuditCall} (returns : Returns services c)
    (signed flushed : Int) : Returns services (c.at signed flushed) :=
  unconstrained.returns returns rfl

theorem at_alike {c c' : AuditCall} (same : c.columns services = c'.columns services)
    (signed signed' flushed : Int) : StoredAlike services (c.at signed flushed) (c'.at signed' flushed) := by
  apply storedAlike_iff.mpr
  rw [at_columns, at_columns, same]

theorem representable_around {delay : Int} (short : |delay| ≤ 10 ^ 17) :
    Representable (10 ^ 17 - delay) ∧ Representable (10 ^ 17) := by
  have range := abs_le.mp short
  unfold Representable
  omega

theorem at_mem_delayedCalls {kept : Set (Json Literal)} {delays : Set Int} {c : AuditCall}
    (member : c.detailsValue ∈ kept) {delay flushed : Int} (occurs : delay ∈ delays)
    (signable : Representable (flushed - delay)) (flushable : Representable flushed) :
    c.at (flushed - delay) flushed ∈ delayedCalls kept delays := by
  refine ⟨member, flushed - delay, flushed, signable, flushable, rfl, rfl, ?_⟩
  rwa [sub_sub_cancel]

section
variable [DecidableEq Signature] (injective : Function.Injective services.hmac)
  (unconstrained : Unconstrained services) {kept : Set (Json Literal)} {delays : Set Int}
include injective unconstrained

theorem delay_eq_of_verifiable {c : AuditCall} (member : c.detailsValue ∈ kept)
    (returns : Returns services c) (verifiable : Verifiable services (delayedCalls kept delays))
    {delay delay' flushed : Int} (occurs : delay ∈ delays) (occurs' : delay' ∈ delays)
    (signable : Representable (flushed - delay)) (signable' : Representable (flushed - delay'))
    (flushable : Representable flushed) : delay = delay' := by
  have alike := signedAlike_of_verifiable injective verifiable
    (at_mem_delayedCalls member occurs signable flushable)
    (at_mem_delayedCalls member occurs' signable' flushable) (unconstrained.returns_at returns _ _)
    (unconstrained.returns_at returns _ _) (at_alike rfl _ _ _)
  have readings := (isoformat_inj signable signable').mp alike.1
  omega

theorem keepsApart_of_verifiable
    (taken : ∀ details ∈ kept, ∃ c : AuditCall, c.detailsValue = details ∧ Returns services c)
    (verifiable : Verifiable services (delayedCalls kept delays)) {delay flushed : Int}
    (occurs : delay ∈ delays) (signable : Representable (flushed - delay))
    (flushable : Representable flushed) : KeepsApart services kept := by
  intro details member details' member' stored
  obtain ⟨c, rfl, returns⟩ := taken details member
  obtain ⟨c', rfl, -⟩ := taken details' member'
  -- the same call but for the details, which are stored as those of `c` are
  let other : AuditCall := { c with details := c'.details }
  have columns : c.columns services = other.columns services :=
    congrArg (fun stored => { c.columns services with details := stored }) stored
  have returns' : Returns services other := unconstrained.returns returns columns
  exact (signedAlike_of_verifiable injective verifiable
    (at_mem_delayedCalls member occurs signable flushable)
    (at_mem_delayedCalls (c := other) member' occurs signable flushable)
    (unconstrained.returns_at returns _ _) (unconstrained.returns_at returns' _ _) (at_alike columns _ _ _)).2

end

end

/-- Whatever the ids and arguments: one reconstruction serves all rows exactly when the row is flushed
one fixed delay after its text was signed and the column loses nothing of the details. -/
theorem log_verifiable_iff {Stored Signature : Type} [DecidableEq Signature]
    (services : AuditServices Stored Signature) (injective : Function.Injective services.hmac)
    (unconstrained : Unconstrained services) (kept : Set (Json Literal)) (some : kept.Nonempty)
    (taken : ∀ details ∈ kept, ∃ c : AuditCall, c.detailsValue = details ∧ Returns services c)
    (delays : Set Int) (ever : delays.Nonempty) (short : ∀ delay ∈ delays, |delay| ≤ 10 ^ 17) :
    Verifiable services (delayedCalls kept delays) ↔ delays.Subsingleton ∧ KeepsApart services kept := by
  constructor
  · intro verifiable
    obtain ⟨details, member⟩ := some
    obtain ⟨c, rfl, returns⟩ := taken details member
    constructor
    · intro delay occurs delay' occurs'
      obtain ⟨signable, flushable⟩ := representable_around (short delay occurs)
      exact delay_eq_of_verifiable injective unconstrained member returns verifiable occurs occurs' signable
        (representable_around (short delay' occurs')).1 flushable
    · obtain ⟨delay, occurs⟩ := ever
      obtain ⟨signable, flushable⟩ := representable_around (short delay occurs)
      exact keepsApart_of_verifiable injective unconstrained taken verifiable occurs signable flushable
  · rintro ⟨one, apart⟩
    apply (verifiable_iff services injective _).mpr
    rintro c ⟨member, signed, flushed, representable, representable', signedAt, flushedAt, occurs⟩ c'
      ⟨member', signed', flushed', representable₁, representable₁', signedAt', flushedAt', occurs'⟩ - - alike
    have flushes : flushed = flushed' := by
      apply (isoformat_inj representable' representable₁').mp
      rw [← flushedAt, ← flushedAt', alike.flushedAt]
    have delay := one occurs occurs'
    refine ⟨?_, apart _ member _ member' alike.details⟩
    rw [signedAt, signedAt', show signed = signed' by omega]

theorem log_verifiable_constant_delay :
    let services : AuditServices (Json Literal) (List UInt8) := ⟨id, Json.sortKeys, fun _ => true⟩
    Verifiable services (delayedCalls (Set.range AuditCall.detailsValue) {250}) := by
  intro services
  have some : (Set.range AuditCall.detailsValue).Nonempty :=
    ⟨_, ⟨"login", "auth", none, none, none, none, none, "9d0f2c1e-5b7a-4e7f-b0a8-2f6d1c3e4a55", "", ""⟩, rfl⟩
  apply (log_verifiable_iff services Function.injective_id (fun _ _ _ => rfl)
    (Set.range AuditCall.detailsValue) some ?_ {250} (Set.singleton_nonempty 250) ?_).mpr
  · exact ⟨Set.subsingleton_singleton, fun _ _ _ _ => id⟩
  · rintro details ⟨c, rfl⟩
    exact ⟨c, rfl, _, rfl⟩
  · rintro delay rfl
    decide

theorem signing_time_lost :
    let services : AuditServices (Json Literal) (List UInt8) := ⟨id, Json.sortKeys, fun _ => true⟩
    let login (signed : Int) : AuditCall := ⟨"login", "auth", none, none, none, none, none,
      "9d0f2c1e-5b7a-4e7f-b0a8-2f6d1c3e4a55", isoformat signed, isoformat 1767225600000900⟩
    (∀ reconstruct : AuditColumns (Json Literal) → List UInt8,
      ∃ signed ∈ [(1767225600000100 : Int), 1767225600000200], ∃ row,
        createAuditEntry services (login signed) = .ok row ∧
        verifyAuditSignature services (reconstruct row.toAuditColumns) row.hmacSignature = false) ∧
      ¬ Verifiable services (delayedCalls Set.univ Set.univ) := by
  intro services login
  have lost (reconstruct : AuditColumns (Json Literal) → List UInt8) :
      ∃ signed ∈ [(1767225600000100 : Int), 1767225600000200], ∃ row,
        createAuditEntry services (login signed) = .ok row ∧
        verifyAuditSignature services (reconstruct row.toAuditColumns) row.hmacSignature = false := by
    by_contra every
    push Not at every
    have text (signed : Int) (member : signed ∈ [(1767225600000100 : Int), 1767225600000200]) :
        reconstruct ((login signed).columns services) = (login signed).entryData :=
      (verify_iff Function.injective_id (c := login signed) rfl _).mp
        (Bool.eq_true_of_not_eq_false (every signed member _ rfl))
    have first := text 1767225600000100 (by decide)
    have second := text 1767225600000200 (by decide)
    have alike := (entryData_eq_iff_fields.mp (first.symm.trans second)).2.2.2.2
    have readings := (isoformat_inj ⟨by decide, by decide⟩ ⟨by decide, by decide⟩).mp alike.1
    exact absurd readings (by decide)
  refine ⟨lost, ?_⟩
  rintro ⟨reconstruct, verifies⟩
  obtain ⟨signed, member, row, made, refused⟩ := lost reconstruct
  have range : Representable signed := by
    simp only [List.mem_cons, List.not_mem_nil, or_false] at member
    obtain rfl | rfl := member <;> exact ⟨by decide, by decide⟩
  have verified := verifies (login signed)
    ⟨trivial, signed, 1767225600000900, range, ⟨by decide, by decide⟩, rfl, rfl, trivial⟩ row made
  exact absurd verified (by rw [refused]; decide)

end GuardianPi.Backend
