import GuardianPi.Library.JsonText
import GuardianPi.Library.Python

namespace GuardianPi.Library.Python

def escapeAscii (c : Char) : List Char :=
  if c = '"' then ['\\', '"']
  else if c = '\\' then ['\\', '\\']
  else if c = '\x08' then ['\\', 'b']
  else if c = '\x0c' then ['\\', 'f']
  else if c = '\n' then ['\\', 'n']
  else if c = '\r' then ['\\', 'r']
  else if c = '\t' then ['\\', 't']
  else if 32 ≤ c.toNat ∧ c.toNat < 127 then [c]
  else if c.toNat < 0x10000 then Json.unicodeEscape c
  else Json.surrogateEscapes c

theorem readChar_escapeAscii (c : Char) (rest : List Char) :
    Json.readChar (escapeAscii c ++ rest) = some (c, rest) := by
  unfold escapeAscii
  split_ifs with quote backslash b f n r t visible basic
  case pos =>
    subst quote
    rfl
  case pos =>
    subst backslash
    rfl
  case pos =>
    subst b
    rfl
  case pos =>
    subst f
    rfl
  case pos =>
    subst n
    rfl
  case pos =>
    subst r
    rfl
  case pos =>
    subst t
    rfl
  case pos => exact Json.readChar_plain (Nat.not_lt.mpr visible.1) backslash rest
  case pos => exact Json.readChar_unicodeEscape basic rest
  case neg => exact Json.readChar_surrogateEscapes (Nat.not_lt.mp basic) rest

def asciiEscape : Json.Escape where
  write := escapeAscii
  reads := readChar_escapeAscii
  opens := by
    intro c
    unfold escapeAscii Json.unicodeEscape Json.surrogateEscapes
    split_ifs with quote <;> simp [quote]

def defaultLayout : Json.Layout where
  escape := asciiEscape
  gap := [' ']
  blank := by
    intro c member
    obtain rfl := List.mem_singleton.mp member
    rfl

def dumps (v : Json Literal) : List UInt8 := Json.encodeUtf8 (Json.write defaultLayout v)

theorem loadsBytes_dumps (v : Json Literal) : Json.loadsBytes (dumps v) = some v := by
  rw [dumps, Json.loadsBytes, Json.decodeUtf8_encodeUtf8]
  exact Json.loads_write defaultLayout v

theorem dumps_injective : Function.Injective dumps := by
  intro v w same
  have read := loadsBytes_dumps v
  rw [same, loadsBytes_dumps] at read
  exact (Option.some.inj read).symm

theorem dumps_ne_nil (v : Json Literal) : dumps v ≠ [] := by
  intro empty
  have read := loadsBytes_dumps v
  have text : Json.decodeUtf8 [] = some [] := Json.decodeUtf8_encodeUtf8 []
  rw [empty, Json.loadsBytes, text] at read
  cases read

def base64Alphabet : List Char :=
  "ABCDEFGHIJKLMNOPQRSTUVWXYZabcdefghijklmnopqrstuvwxyz0123456789+/".toList

def base64Digit (n : Nat) : Char := base64Alphabet.getD n 'A'

def b64encode : List UInt8 → List Char
  | a :: b :: c :: rest =>
      base64Digit (a.toNat / 4) :: base64Digit (a.toNat % 4 * 16 + b.toNat / 16) ::
        base64Digit (b.toNat % 16 * 4 + c.toNat / 64) :: base64Digit (c.toNat % 64) :: b64encode rest
  | [a, b] =>
      [base64Digit (a.toNat / 4), base64Digit (a.toNat % 4 * 16 + b.toNat / 16),
        base64Digit (b.toNat % 16 * 4), '=']
  | [a] => [base64Digit (a.toNat / 4), base64Digit (a.toNat % 4 * 16), '=', '=']
  | [] => []

/-- `binascii.a2b_base64`: `quadPos` digits of the group are read, `leftover` are the bits of them
not yet written, and `pads` counts the `=` since the last digit. Other characters are skipped. -/
def a2bBase64 (quadPos leftover pads : Nat) : List Char → Except PyError (List UInt8)
  | [] => if quadPos = 0 then .ok [] else .error .valueError
  | c :: cs =>
      if c = '=' then
        if 2 ≤ quadPos then
          if 4 ≤ quadPos + (pads + 1) then .ok [] else a2bBase64 quadPos leftover (pads + 1) cs
        else a2bBase64 quadPos leftover pads cs
      else
        match base64Alphabet.idxOf? c with
        | none => a2bBase64 quadPos leftover pads cs
        | some digit =>
            match quadPos with
            | 0 => a2bBase64 1 digit 0 cs
            | 1 => (a2bBase64 2 (digit % 16) 0 cs).map (UInt8.ofNat (leftover * 4 + digit / 16) :: ·)
            | 2 => (a2bBase64 3 (digit % 4) 0 cs).map (UInt8.ofNat (leftover * 16 + digit / 4) :: ·)
            | _ => (a2bBase64 0 0 0 cs).map (UInt8.ofNat (leftover * 64 + digit) :: ·)

def b64decode (text : String) : Except PyError (List UInt8) :=
  if text.toList.all fun c => c.toNat < 128 then a2bBase64 0 0 0 text.toList else .error .valueError

theorem base64Digit_read : ∀ n, n < 64 → base64Digit n ≠ '=' ∧ (base64Digit n).toNat < 128 ∧
    base64Alphabet.idxOf? (base64Digit n) = some n := by decide +kernel

theorem a2bBase64_digit {n : Nat} (digit : n < 64) (leftover : Nat) (cs : List Char) :
    a2bBase64 0 0 0 (base64Digit n :: cs) = a2bBase64 1 n 0 cs ∧
    a2bBase64 1 leftover 0 (base64Digit n :: cs) =
      (a2bBase64 2 (n % 16) 0 cs).map (UInt8.ofNat (leftover * 4 + n / 16) :: ·) ∧
    a2bBase64 2 leftover 0 (base64Digit n :: cs) =
      (a2bBase64 3 (n % 4) 0 cs).map (UInt8.ofNat (leftover * 16 + n / 4) :: ·) ∧
    a2bBase64 3 leftover 0 (base64Digit n :: cs) =
      (a2bBase64 0 0 0 cs).map (UInt8.ofNat (leftover * 64 + n) :: ·) := by
  obtain ⟨pad, -, value⟩ := base64Digit_read n digit
  refine ⟨?_, ?_, ?_, ?_⟩
  all_goals simp only [a2bBase64, if_neg pad, value]

theorem ofNat_eq {n : Nat} {b : UInt8} (h : n = b.toNat) : UInt8.ofNat n = b := by
  rw [h, UInt8.ofNat_toNat]

theorem a2bBase64_b64encode (bytes : List UInt8) : a2bBase64 0 0 0 (b64encode bytes) = .ok bytes := by
  fun_induction b64encode bytes with
  | case1 a b c rest ih =>
      have := a.toNat_lt
      have := b.toNat_lt
      have := c.toNat_lt
      rw [(a2bBase64_digit (by omega) 0 _).1, (a2bBase64_digit (by omega) _ _).2.1,
        (a2bBase64_digit (by omega) _ _).2.2.1, (a2bBase64_digit (by omega) _ _).2.2.2, ih,
        ofNat_eq (show _ = a.toNat by omega), ofNat_eq (show _ = b.toNat by omega),
        ofNat_eq (show _ = c.toNat by omega)]
      rfl
  | case2 a b =>
      have := a.toNat_lt
      have := b.toNat_lt
      rw [(a2bBase64_digit (by omega) 0 _).1, (a2bBase64_digit (by omega) _ _).2.1,
        (a2bBase64_digit (by omega) _ _).2.2.1, ofNat_eq (show _ = a.toNat by omega),
        ofNat_eq (show _ = b.toNat by omega)]
      rfl
  | case3 a =>
      have := a.toNat_lt
      rw [(a2bBase64_digit (by omega) 0 _).1, (a2bBase64_digit (by omega) _ _).2.1,
        ofNat_eq (show _ = a.toNat by omega)]
      rfl
  | case4 => rfl

theorem b64encode_ascii (bytes : List UInt8) : ∀ c ∈ b64encode bytes, c.toNat < 128 := by
  have digit {n : Nat} (h : n < 64) : (base64Digit n).toNat < 128 := (base64Digit_read n h).2.1
  fun_induction b64encode bytes with
  | case1 a b c rest ih =>
      have := a.toNat_lt
      have := b.toNat_lt
      have := c.toNat_lt
      simp only [List.forall_mem_cons]
      exact ⟨digit (by omega), digit (by omega), digit (by omega), digit (by omega), ih⟩
  | case2 a b =>
      have := a.toNat_lt
      have := b.toNat_lt
      simp only [List.forall_mem_cons]
      exact ⟨digit (by omega), digit (by omega), digit (by omega), by decide, List.forall_mem_nil _⟩
  | case3 a =>
      have := a.toNat_lt
      simp only [List.forall_mem_cons]
      exact ⟨digit (by omega), digit (by omega), by decide, by decide, List.forall_mem_nil _⟩
  | case4 => exact List.forall_mem_nil _

theorem b64decode_b64encode (bytes : List UInt8) :
    b64decode (String.ofList (b64encode bytes)) = .ok bytes := by
  have ascii : (b64encode bytes).all (fun c => decide (c.toNat < 128)) = true := by
    simpa using b64encode_ascii bytes
  rw [b64decode, String.toList_ofList, if_pos ascii, a2bBase64_b64encode]

theorem b64encode_ne_nil {bytes : List UInt8} (some : bytes ≠ []) : b64encode bytes ≠ [] := by
  fun_cases b64encode bytes with
  | case4 => exact absurd rfl some
  | _ => exact List.cons_ne_nil _ _

example : b64decode "R3VhcmRpYW4gUGk=" = .ok "Guardian Pi".toUTF8.toList := by decide +kernel

def acceptsKey (key : List UInt8) : Bool := key.length = 16 || key.length = 24 || key.length = 32

/-- AES-GCM by its key, nonce and data; the last 16 bytes of what it writes are the tag. -/
structure AESGCM where
  encrypt : List UInt8 → List UInt8 → List UInt8 → List UInt8
  decrypt : List UInt8 → List UInt8 → List UInt8 → Option (List UInt8)
  decrypt_encrypt : ∀ key nonce data, acceptsKey key = true → nonce.length = 12 →
    decrypt key nonce (encrypt key nonce data) = some data
  length_encrypt : ∀ key nonce data, acceptsKey key = true → nonce.length = 12 →
    (encrypt key nonce data).length = data.length + 16

instance : Inhabited AESGCM where
  default := {
    encrypt := fun _ _ data => data ++ List.replicate 16 0
    decrypt := fun _ _ ciphertext => some (ciphertext.take (ciphertext.length - 16))
    decrypt_encrypt := by
      intro key nonce data _ _
      simp
    length_encrypt := by
      intro key nonce data _ _
      simp }

end GuardianPi.Library.Python
