import GuardianPi.Library.JsonText
import GuardianPi.EdgeAgent.Directory

namespace GuardianPi.EdgeAgent
open GuardianPi.Library

/-- A value as `json.Marshal` meets it, with a map as its fields in key order. A number is the
text that Go prints for it, `none` where a float is NaN or infinite. -/
abbrev GoValue := Json (Option Literal)

def escapeChar (c : Char) : List Char :=
  if c = '"' then ['\\', '"']
  else if c = '\\' then ['\\', '\\']
  else if c = '\x08' then ['\\', 'b']
  else if c = '\x0c' then ['\\', 'f']
  else if c = '\n' then ['\\', 'n']
  else if c = '\r' then ['\\', 'r']
  else if c = '\t' then ['\\', 't']
  else if c.toNat < 32 ∨ c = '<' ∨ c = '>' ∨ c = '&' ∨ c = '\u2028' ∨ c = '\u2029' then
    Json.unicodeEscape c
  else [c]

theorem readChar_escapeChar (c : Char) (rest : List Char) :
    Json.readChar (escapeChar c ++ rest) = some (c, rest) := by
  unfold escapeChar
  split_ifs with quote backslash b f n r t special
  case pos =>
    subst quote
    rfl
  case pos =>
    subst backslash
    rfl
  case pos =>
    subst b
    rfl
  case pos =>
    subst f
    rfl
  case pos =>
    subst n
    rfl
  case pos =>
    subst r
    rfl
  case pos =>
    subst t
    rfl
  case pos =>
    apply Json.readChar_unicodeEscape
    rcases special with low | rfl | rfl | rfl | rfl | rfl
    · omega
    all_goals decide
  case neg =>
    exact Json.readChar_plain (fun low => special (Or.inl low)) backslash rest

def goEscape : Json.Escape where
  write := escapeChar
  reads := readChar_escapeChar
  opens := by
    intro c
    unfold escapeChar Json.unicodeEscape
    split_ifs with quote <;> simp [quote]

def marshal (v : GoValue) : Option Bytes :=
  (v.traverse id).map fun document => Json.encodeUtf8 (document.render goEscape)

theorem loadsBytes_marshal {v : GoValue} {body : Bytes} (h : marshal v = some body) :
    Json.loadsBytes body = v.traverse id := by
  obtain ⟨document, whole, rfl⟩ := Option.map_eq_some_iff.mp h
  rw [Json.loadsBytes, Json.decodeUtf8_encodeUtf8, whole]
  exact Json.loads_render goEscape document

theorem loadsBytes_nil : Json.loadsBytes [] = none := by
  have text : Json.decodeUtf8 [] = some [] := Json.decodeUtf8_encodeUtf8 []
  rw [Json.loadsBytes, text]
  rfl

end GuardianPi.EdgeAgent
