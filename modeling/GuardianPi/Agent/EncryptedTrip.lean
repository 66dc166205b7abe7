import GuardianPi.Agent.Acceptance
import GuardianPi.Library.Decimal

namespace GuardianPi.Library.Python
open GuardianPi.Library

/-- A number with the text that `json.dumps` writes for it and `json.loads` reads back. -/
structure JsonNumber (number : Literal → PyNum) where
  value : PyNum
  text : Literal
  reads : number text = value

theorem map_reads {number : Literal → PyNum} (v : Json (JsonNumber number)) :
    Json.map number (Json.map JsonNumber.text v) = Json.map JsonNumber.value v := by
  have reads : (fun n : JsonNumber number => number n.text) = JsonNumber.value := funext JsonNumber.reads
  rw [Json.map_map, reads]

end GuardianPi.Library.Python

namespace GuardianPi.Agent
open GuardianPi.Library GuardianPi.Library.Python GuardianPi.Backend

def TelemetryCrypto.decrypt (aes : AESGCM) (number : Literal → PyNum) (crypto : TelemetryCrypto)
    (encryptedData nonce tag : String) : Except DecryptError Value :=
  let bytes : Except PyError _ := do
    let ct ← b64decode encryptedData
    let n ← b64decode nonce
    let t ← b64decode tag
    return (n, ct ++ t)
  match bytes with
  | .error e => .error (.python e)
  | .ok (n, ciphertext) =>
      match aes.decrypt crypto.key n ciphertext with
      | none => .error .invalidTag
      | some plaintext =>
          match Json.decodeUtf8 plaintext with
          | none => .error (.python .valueError)
          | some text =>
              match Json.loads text with
              | none => .error (.python .decodeError)
              | some data => .ok (Json.map number data)

section
variable (aes : AESGCM) (number : Literal → PyNum) (crypto : TelemetryCrypto) (nonce : Nonce)

theorem decrypt_encrypt (data : Json Literal) :
    let ciphertext := aes.encrypt crypto.key nonce (dumps data)
    let split := ciphertext.length - 16
    crypto.decrypt aes number (b64text (ciphertext.take split)) (b64text nonce) (b64text (ciphertext.drop split)) =
      .ok (Json.map number data) := by
  intro ciphertext split
  have opened := aes.decrypt_encrypt crypto.key nonce (dumps data) crypto.accepted nonce.2
  have text : Json.decodeUtf8 (dumps data) = some (Json.write defaultLayout data) := Json.decodeUtf8_encodeUtf8 _
  have read : Json.loads (Json.write defaultLayout data) = some data := Json.loads_write defaultLayout data
  simp only [TelemetryCrypto.decrypt, b64decode_b64text, ok_bind, pure, Except.pure, List.take_append_drop,
    ciphertext, split, opened, text, read]

end

theorem encrypted_trip {Datetime : Type} (d : Deployment Datetime) (crypto : TelemetryCrypto) (key : String)
    (shared : d.settings.telemetryEncryptionKey = some key) (decoded : b64decode key = .ok crypto.key)
    (nonce : Nonce) (fields : List (String × Json (JsonNumber d.number)))
    (payload : TelemetryPayload PyNum Datetime) :
    let data := Json.map JsonNumber.value (.obj fields)
    ∃ encryptedData sentNonce tag,
      crypto.encrypt d.aes nonce (Json.map JsonNumber.text (.obj fields)) =
        [("encrypted_data", .str encryptedData), ("nonce", .str sentNonce), ("tag", .str tag)] ∧
      crypto.decrypt d.aes d.number encryptedData sentNonce tag = .ok data ∧
      encryptedData ≠ "" ∧ sentNonce ≠ "" ∧ tag ≠ "" ∧
      payloadData d { payload with
        encryptedData := some encryptedData, nonce := some sentNonce, tag := some tag } = .ok data := by
  intro data
  obtain ⟨ct, random, tag⟩ := encrypt_parts d.aes crypto nonce (Json.map JsonNumber.text (.obj fields))
  refine ⟨_, _, _, rfl, ?_, b64text_ne_empty ct, b64text_ne_empty random, b64text_ne_empty tag, ?_⟩
  · rw [decrypt_encrypt, map_reads]
  · rw [payloadData_encrypt d decoded shared, map_reads]

theorem encrypted_trip_count :
    let device := "4b0a5e0e-9a3c-4c6e-8f43-0c5b8f2d7a11"
    let services : Services := ⟨fun text => if text = device then .ok device else .error .valueError,
      fun _ => "9d0f2c1e-5b7a-4e7f-b0a8-2f6d1c3e4a55", fun _ => "2026-01-01T00:00:00+00:00",
      fun _ => true, fun _ => true⟩
    let number (n : Literal) : PyNum := .int (n.text.foldl (fun m c => 10 * m + (c.toNat - 48)) 0 : Nat)
    let d : Deployment Value := ⟨⟨.production, some "Z3VhcmRpYW4tcGkta2V5MQ=="⟩, services, fun _ => true, default,
      number, some, fun _ => ""⟩
    let nonce : Nonce := ⟨List.replicate 12 7, rfl⟩
    ∃ (crypto : TelemetryCrypto) (encryptedData sentNonce tag : String),
      crypto.decrypt d.aes number encryptedData sentNonce tag = .ok (.obj [("count", .num (.int 12))]) ∧
      crypto.encrypt d.aes nonce (.obj [("count", .num (Literal.ofInt 12))]) =
        [("encrypted_data", .str encryptedData), ("nonce", .str sentNonce), ("tag", .str tag)] ∧
      payloadData d ⟨device, .null, some encryptedData, none, some sentNonce, some tag⟩ =
        .ok (.obj [("count", .num (.int 12))]) := by
  intro device services number d nonce
  let crypto : TelemetryCrypto := ⟨"guardian-pi-key1".toUTF8.toList, by decide +kernel⟩
  obtain ⟨encryptedData, sentNonce, tag, sent, opened, -, -, -, data⟩ := encrypted_trip d crypto
    "Z3VhcmRpYW4tcGkta2V5MQ==" rfl (by decide +kernel) nonce
    [("count", .num ⟨.int 12, Literal.ofInt 12, by decide +kernel⟩)] ⟨device, .null, none, none, none, none⟩
  exact ⟨crypto, encryptedData, sentNonce, tag, opened, sent, data⟩

end GuardianPi.Agent
