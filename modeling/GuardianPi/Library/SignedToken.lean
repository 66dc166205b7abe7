import Mathlib.Logic.Function.Basic

namespace GuardianPi.Library

/-- Tokens that carry claims and are decoded at a time: only a signed token whose claims are live then is
decoded, to the claims that it was made from, and to the same ones at every time. -/
structure TokenScheme (Claims Time Token : Type) where
  encode : Claims → Token
  decode : Time → Token → Option Claims
  live : Time → Claims → Prop
  decode_eq_some_iff : ∀ now token claims,
    decode now token = some claims ↔ token = encode claims ∧ live now claims
  decode_unique : ∀ {now now' token claims claims'},
    decode now token = some claims → decode now' token = some claims' → claims = claims'

namespace TokenScheme

variable {Claims Time Token : Type} (scheme : TokenScheme Claims Time Token)

def Signed (token : Token) : Prop := ∃ claims, token = scheme.encode claims

variable {scheme} {now now' : Time} {token : Token} {claims claims' : Claims}

theorem signed_of_decode (h : scheme.decode now token = some claims) : scheme.Signed token :=
  ⟨claims, ((scheme.decode_eq_some_iff now token claims).mp h).1⟩

theorem decode_encode (h : scheme.live now claims) :
    scheme.decode now (scheme.encode claims) = some claims :=
  (scheme.decode_eq_some_iff now _ claims).mpr ⟨rfl, h⟩

theorem decode_encode_iff (once : scheme.live now' claims) :
    scheme.decode now (scheme.encode claims) = some claims' ↔
      claims' = claims ∧ scheme.live now claims := by
  constructor
  · intro decoded
    obtain rfl := scheme.decode_unique decoded (decode_encode once)
    exact ⟨rfl, ((scheme.decode_eq_some_iff now _ _).mp decoded).2⟩
  · rintro ⟨rfl, here⟩
    exact decode_encode here

end TokenScheme

end GuardianPi.Library
