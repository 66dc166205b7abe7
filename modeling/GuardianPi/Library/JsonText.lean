import GuardianPi.Library.Json

namespace GuardianPi.Library.Json

def isWhitespace (c : Char) : Bool := c = ' ' || c = '\t' || c = '\n' || c = '\r'

def skipWs (cs : List Char) : List Char := cs.dropWhile isWhitespace

def hexValue (c : Char) : Option Nat :=
  if c.isDigit then some (c.toNat - 48)
  else if 'a' ≤ c ∧ c ≤ 'f' then some (c.toNat - 87)
  else if 'A' ≤ c ∧ c ≤ 'F' then some (c.toNat - 55)
  else none

def readHex : List Char → Option (Nat × List Char)
  | a :: b :: c :: d :: cs =>
      match hexValue a, hexValue b, hexValue c, hexValue d with
      | some a, some b, some c, some d => some (((a * 16 + b) * 16 + c) * 16 + d, cs)
      | _, _, _, _ => none
  | _ => none

/-- What follows `\u`. A high surrogate is joined with the low one after it; a lone surrogate,
which no `Char` is, becomes the replacement character. -/
def readUnicode (cs : List Char) : Option (Char × List Char) :=
  match readHex cs with
  | none => none
  | some (high, rest) =>
      if high < 0xD800 ∨ 0xDFFF < high then some (Char.ofNat high, rest)
      else
        match rest with
        | '\\' :: 'u' :: more =>
            match readHex more with
            | some (low, rest') =>
                if high < 0xDC00 ∧ 0xDC00 ≤ low ∧ low ≤ 0xDFFF then
                  some (Char.ofNat (0x10000 + (high - 0xD800) * 0x400 + (low - 0xDC00)), rest')
                else some ('\uFFFD', rest)
            | none => some ('\uFFFD', rest)
        | _ => some ('\uFFFD', rest)

def readChar : List Char → Option (Char × List Char)
  | '\\' :: '"' :: cs => some ('"', cs)
  | '\\' :: '\\' :: cs => some ('\\', cs)
  | '\\' :: '/' :: cs => some ('/', cs)
  | '\\' :: 'b' :: cs => some ('\x08', cs)
  | '\\' :: 'f' :: cs => some ('\x0c', cs)
  | '\\' :: 'n' :: cs => some ('\n', cs)
  | '\\' :: 'r' :: cs => some ('\r', cs)
  | '\\' :: 't' :: cs => some ('\t', cs)
  | '\\' :: 'u' :: cs => readUnicode cs
  | '\\' :: _ => none
  | c :: cs => if c.toNat < 32 then none else some (c, cs)
  | [] => none

def readChars : Nat → List Char → Option (List Char × List Char)
  | _, '"' :: cs => some ([], cs)
  | 0, _ => none
  | fuel + 1, cs =>
      match readChar cs with
      | none => none
      | some (c, rest) => (readChars fuel rest).map fun r => (c :: r.1, r.2)

def readNumber (cs : List Char) : Option (Json Literal × List Char) :=
  if h : isNumber (cs.takeWhile isNumberChar) = true then
    some (.num ⟨_, h⟩, cs.dropWhile isNumberChar)
  else none

mutual
def readValue : Nat → List Char → Option (Json Literal × List Char)
  | 0, _ => none
  | fuel + 1, cs =>
      match cs with
      | 'n' :: 'u' :: 'l' :: 'l' :: rest => some (.null, rest)
      | 't' :: 'r' :: 'u' :: 'e' :: rest => some (.bool true, rest)
      | 'f' :: 'a' :: 'l' :: 's' :: 'e' :: rest => some (.bool false, rest)
      | '"' :: rest => (readChars fuel rest).map fun r => (.str (String.ofList r.1), r.2)
      | '[' :: rest =>
          match skipWs rest with
          | ']' :: rest => some (.arr [], rest)
          | rest => (readItems fuel rest).map fun r => (.arr r.1, r.2)
      | '{' :: rest =>
          match skipWs rest with
          | '}' :: rest => some (.obj [], rest)
          | rest => (readFields fuel rest).map fun r => (.obj r.1, r.2)
      | cs => readNumber cs
def readItems : Nat → List Char → Option (List (Json Literal) × List Char)
  | 0, _ => none
  | fuel + 1, cs =>
      (readValue fuel cs).bind fun v =>
        match skipWs v.2 with
        | ']' :: rest => some ([v.1], rest)
        | ',' :: rest => (readItems fuel (skipWs rest)).map fun r => (v.1 :: r.1, r.2)
        | _ => none
def readFields : Nat → List Char → Option (List (String × Json Literal) × List Char)
  | 0, _ => none
  | fuel + 1, '"' :: cs =>
      (readChars fuel cs).bind fun k =>
        match skipWs k.2 with
        | ':' :: rest =>
            (readValue fuel (skipWs rest)).bind fun v =>
              match skipWs v.2 with
              | '}' :: rest => some ([(String.ofList k.1, v.1)], rest)
              | ',' :: rest =>
                  (readFields fuel (skipWs rest)).map fun r => ((String.ofList k.1, v.1) :: r.1, r.2)
              | _ => none
        | _ => none
  | _, _ => none
end

def loads (cs : List Char) : Option (Json Literal) :=
  match readValue cs.length (skipWs cs) with
  | some (v, rest) => if skipWs rest = [] then some v else none
  | none => none

def decodeUtf8 (bytes : List UInt8) : Option (List Char) :=
  bytes.toByteArray.utf8Decode?.map Array.toList

def loadsBytes (bytes : List UInt8) : Option (Json Literal) := (decodeUtf8 bytes).bind loads

/-! ## Writing -/

def encodeUtf8 (cs : List Char) : List UInt8 := cs.flatMap String.utf8EncodeChar

theorem decodeUtf8_encodeUtf8 (cs : List Char) : decodeUtf8 (encodeUtf8 cs) = some cs := by
  have h := List.utf8Decode?_utf8Encode (l := cs)
  rw [List.utf8Encode] at h
  simp [decodeUtf8, encodeUtf8, h]

def hexDigits (n : Nat) : List Char :=
  [Nat.digitChar (n / 4096), Nat.digitChar (n / 256 % 16), Nat.digitChar (n / 16 % 16),
    Nat.digitChar (n % 16)]

def unicodeEscape (c : Char) : List Char := '\\' :: 'u' :: hexDigits c.toNat

theorem hexValue_digitChar : ∀ d, d < 16 → hexValue (Nat.digitChar d) = some d := by decide

theorem readHex_hexDigits {n : Nat} (short : n < 0x10000) (rest : List Char) :
    readHex (hexDigits n ++ rest) = some (n, rest) := by
  have value : (((n / 4096) * 16 + n / 256 % 16) * 16 + n / 16 % 16) * 16 + n % 16 = n := by omega
  simp only [hexDigits, List.cons_append, List.nil_append, readHex,
    hexValue_digitChar _ (show n / 4096 < 16 by omega),
    hexValue_digitChar _ (Nat.mod_lt _ (by decide : 0 < 16)), value]

theorem not_surrogate (c : Char) : c.toNat < 0xD800 ∨ 0xDFFF < c.toNat := by
  rcases c.valid with low | ⟨high, -⟩
  · exact Or.inl low
  · exact Or.inr high

theorem readChar_unicodeEscape {c : Char} (basic : c.toNat < 0x10000) (rest : List Char) :
    readChar (unicodeEscape c ++ rest) = some (c, rest) := by
  have hex := readHex_hexDigits basic rest
  simp only [unicodeEscape, List.cons_append, readChar, readUnicode, hex, not_surrogate c, if_true,
    Char.ofNat_toNat]

def surrogateEscapes (c : Char) : List Char :=
  '\\' :: 'u' :: (hexDigits (0xD800 + (c.toNat - 0x10000) / 0x400) ++
    '\\' :: 'u' :: hexDigits (0xDC00 + (c.toNat - 0x10000) % 0x400))

theorem readUnicode_surrogates {high low : Nat} (above : 0xD800 ≤ high) (below : high < 0xDC00)
    (above' : 0xDC00 ≤ low) (below' : low ≤ 0xDFFF) (rest : List Char) :
    readUnicode (hexDigits high ++ '\\' :: 'u' :: (hexDigits low ++ rest)) =
      some (Char.ofNat (0x10000 + (high - 0xD800) * 0x400 + (low - 0xDC00)), rest) := by
  have first := readHex_hexDigits (show high < 0x10000 by omega)
    ('\\' :: 'u' :: (hexDigits low ++ rest))
  have second := readHex_hexDigits (show low < 0x10000 by omega) rest
  have surrogate : ¬ (high < 0xD800 ∨ 0xDFFF < high) := by omega
  simp only [readUnicode, first, if_neg surrogate, second]
  exact if_pos ⟨below, above', below'⟩

theorem readChar_surrogateEscapes {c : Char} (astral : 0x10000 ≤ c.toNat) (rest : List Char) :
    readChar (surrogateEscapes c ++ rest) = some (c, rest) := by
  have bound : c.toNat < 0x110000 := by
    rcases c.valid with low | ⟨-, high⟩
    · exact low.trans (by decide)
    · exact high
  have pair := @readUnicode_surrogates (0xD800 + (c.toNat - 0x10000) / 0x400)
    (0xDC00 + (c.toNat - 0x10000) % 0x400) (by omega) (by omega) (by omega) (by omega) rest
  have value : 0x10000 + (0xD800 + (c.toNat - 0x10000) / 0x400 - 0xD800) * 0x400 +
      (0xDC00 + (c.toNat - 0x10000) % 0x400 - 0xDC00) = c.toNat := by omega
  rw [value, Char.ofNat_toNat] at pair
  rw [surrogateEscapes, List.cons_append, List.cons_append, List.append_assoc, readChar]
  exact pair

theorem readChar_plain {c : Char} (visible : ¬ c.toNat < 32) (backslash : c ≠ '\\')
    (rest : List Char) : readChar (c :: rest) = some (c, rest) := by
  rw [readChar]
  · rw [if_neg visible]
  all_goals
    intros
    simp_all

/-- A way of writing the characters of a string that `readChar` reads back. -/
structure Escape where
  write : Char → List Char
  reads : ∀ c rest, readChar (write c ++ rest) = some (c, rest)
  opens : ∀ c, (write c).head? ≠ some '"'

variable (esc : Escape)

def renderString (s : String) : List Char := '"' :: (s.toList.flatMap esc.write ++ ['"'])

mutual
def render : Json Literal → List Char
  | .null => "null".toList
  | .bool true => "true".toList
  | .bool false => "false".toList
  | .num n => n.text
  | .str s => renderString esc s
  | .arr [] => ['[', ']']
  | .arr (v :: vs) => '[' :: (render v ++ renderItems vs)
  | .obj [] => ['{', '}']
  | .obj ((k, v) :: fs) => '{' :: (renderString esc k ++ ':' :: (render v ++ renderFields fs))
def renderItems : List (Json Literal) → List Char
  | [] => [']']
  | v :: vs => ',' :: (render v ++ renderItems vs)
def renderFields : List (String × Json Literal) → List Char
  | [] => ['}']
  | (k, v) :: fs => ',' :: (renderString esc k ++ ':' :: (render v ++ renderFields fs))
end

structure Layout where
  escape : Escape
  gap : List Char
  blank : ∀ c ∈ gap, isWhitespace c = true

def Escape.compact : Layout := ⟨esc, [], nofun⟩

section
variable (layout : Layout)

mutual
def write : Json Literal → List Char
  | .null => "null".toList
  | .bool true => "true".toList
  | .bool false => "false".toList
  | .num n => n.text
  | .str s => renderString layout.escape s
  | .arr [] => ['[', ']']
  | .arr (v :: vs) => '[' :: (write v ++ writeItems vs)
  | .obj [] => ['{', '}']
  | .obj ((k, v) :: fs) =>
      '{' :: (renderString layout.escape k ++ ':' :: (layout.gap ++ (write v ++ writeFields fs)))
def writeItems : List (Json Literal) → List Char
  | [] => [']']
  | v :: vs => ',' :: (layout.gap ++ (write v ++ writeItems vs))
def writeFields : List (String × Json Literal) → List Char
  | [] => ['}']
  | (k, v) :: fs =>
      ',' :: (layout.gap ++
        (renderString layout.escape k ++ ':' :: (layout.gap ++ (write v ++ writeFields fs))))
end

end

mutual
theorem write_compact (v : Json Literal) : write esc.compact v = render esc v := by
  match v with
  | .null | .bool true | .bool false | .num _ | .str _ | .arr [] | .obj [] => rfl
  | .arr (v :: vs) => rw [write, render, write_compact v, writeItems_compact vs]
  | .obj ((k, v) :: fs) =>
      rw [write, render, write_compact v, writeFields_compact fs]
      rfl
theorem writeItems_compact (vs : List (Json Literal)) :
    writeItems esc.compact vs = renderItems esc vs := by
  match vs with
  | [] => rfl
  | v :: vs =>
      rw [writeItems, renderItems, write_compact v, writeItems_compact vs]
      rfl
theorem writeFields_compact (fs : List (String × Json Literal)) :
    writeFields esc.compact fs = renderFields esc fs := by
  match fs with
  | [] => rfl
  | (k, v) :: fs =>
      rw [writeFields, renderFields, write_compact v, writeFields_compact fs]
      rfl
end

/-! ## A document reads back -/

def Ends (rest : List Char) : Prop := ∀ c ∈ rest.head?, isNumberChar c = false

theorem write_ne_nil (c : Char) : esc.write c ≠ [] := by
  intro empty
  have h := esc.reads c []
  rw [empty] at h
  cases h

theorem length_le_write (s : List Char) : s.length ≤ (s.flatMap esc.write).length := by
  induction s with
  | nil => simp
  | cons c s ih =>
      have one := List.length_pos_iff.mpr (write_ne_nil esc c)
      rw [List.flatMap_cons, List.length_append, List.length_cons]
      omega

theorem readChars_write (s rest : List Char) (fuel : Nat) (enough : s.length ≤ fuel) :
    readChars fuel (s.flatMap esc.write ++ '"' :: rest) = some (s, rest) := by
  induction s generalizing fuel with
  | nil => simp [readChars]
  | cons c s ih =>
      cases fuel with
      | zero => simp at enough
      | succ fuel =>
          have tail := ih fuel (by simpa using enough)
          have head := esc.reads c (s.flatMap esc.write ++ '"' :: rest)
          have opens := esc.opens c
          rw [List.flatMap_cons, List.append_assoc]
          cases written : esc.write c with
          | nil => exact absurd written (write_ne_nil esc c)
          | cons d ds =>
              have notQuote : d ≠ '"' := by
                intro same
                rw [written, same] at opens
                exact opens rfl
              rw [written, List.cons_append] at head
              rw [List.cons_append, readChars]
              · simp only [head, tail, Option.map_some]
              · simpa using notQuote

theorem skipWs_of_head {cs : List Char} (h : ∀ c ∈ cs.head?, isWhitespace c = false) :
    skipWs cs = cs := by
  cases cs with
  | nil => rfl
  | cons c cs =>
      have solid := h c rfl
      simp [skipWs, solid]

theorem isNumberChar_cases {c : Char} (h : isNumberChar c = true) :
    c ≠ 'n' ∧ c ≠ 't' ∧ c ≠ 'f' ∧ c ≠ '"' ∧ c ≠ '[' ∧ c ≠ ']' ∧ c ≠ '{' ∧
      isWhitespace c = false := by
  refine ⟨?_, ?_, ?_, ?_, ?_, ?_, ?_, ?_⟩
  case refine_8 =>
    by_contra space
    simp only [Bool.not_eq_false, isWhitespace, Bool.or_eq_true, decide_eq_true_eq] at space
    rcases space with ((rfl | rfl) | rfl) | rfl <;> exact absurd h (by decide)
  all_goals
    rintro rfl
    exact absurd h (by decide)

theorem readValue_number {c : Char} (h : isNumberChar c = true) (fuel : Nat) (cs : List Char) :
    readValue (fuel + 1) (c :: cs) = readNumber (c :: cs) := by
  obtain ⟨n, t, f, quote, bracket, -, brace, -⟩ := isNumberChar_cases h
  rw [readValue] <;> intros <;> simp_all

theorem readNumber_literal (n : Literal) {rest : List Char} (ends : Ends rest) :
    readNumber (n.text ++ rest) = some (.num n, rest) := by
  have stop : rest.takeWhile isNumberChar = [] ∧ rest.dropWhile isNumberChar = rest := by
    cases rest with
    | nil => exact ⟨rfl, rfl⟩
    | cons c cs =>
        have h := ends c rfl
        simp [h]
  have taken : (n.text ++ rest).takeWhile isNumberChar = n.text := by
    rw [List.takeWhile_append_of_pos n.chars, stop.1, List.append_nil]
  have dropped : (n.text ++ rest).dropWhile isNumberChar = rest := by
    rw [List.dropWhile_append_of_pos n.chars, stop.2]
  have valid : isNumber ((n.text ++ rest).takeWhile isNumberChar) = true := by
    rw [taken]
    exact n.valid
  rw [readNumber, dif_pos valid, dropped]
  simp only [taken]

theorem readChars_string (k : String) (rest : List Char) (fuel : Nat)
    (enough : (renderString esc k).length ≤ fuel + 1) :
    readChars fuel (k.toList.flatMap esc.write ++ '"' :: rest) = some (k.toList, rest) := by
  apply readChars_write
  have short := length_le_write esc k.toList
  simp only [renderString, List.length_cons, List.length_append, List.length_nil] at enough
  omega

variable (layout : Layout)

theorem skipWs_gap (cs : List Char) : skipWs (layout.gap ++ cs) = skipWs cs :=
  List.dropWhile_append_of_pos layout.blank

theorem write_head (v : Json Literal) : ∃ c cs, write layout v = c :: cs ∧
    isWhitespace c = false ∧ c ≠ ']' := by
  match v with
  | .null | .bool true | .bool false | .str _ | .arr [] | .arr (_ :: _) | .obj [] | .obj ((_, _) :: _) =>
      exact ⟨_, _, rfl, rfl, by decide⟩
  | .num n =>
      cases text : n.text with
      | nil => exact absurd text n.ne_nil
      | cons c cs =>
          have number := isNumberChar_cases (n.chars c (text ▸ List.mem_cons_self))
          exact ⟨c, cs, by rw [write, text], number.2.2.2.2.2.2.2, number.2.2.2.2.2.1⟩

theorem skipWs_write (v : Json Literal) (rest : List Char) :
    skipWs (write layout v ++ rest) = write layout v ++ rest := by
  obtain ⟨c, cs, text, solid, -⟩ := write_head layout v
  apply skipWs_of_head
  rw [text]
  intro d hd
  obtain rfl : c = d := by simpa using hd
  exact solid

theorem ends_cons {c : Char} (h : isNumberChar c = false) (cs : List Char) : Ends (c :: cs) := by
  intro d hd
  obtain rfl : c = d := by simpa using hd
  exact h

theorem ends_writeItems (vs : List (Json Literal)) (rest : List Char) :
    Ends (writeItems layout vs ++ rest) := by
  cases vs with
  | nil => exact ends_cons (by decide) _
  | cons v vs => exact ends_cons (by decide) _

theorem ends_writeFields (fs : List (String × Json Literal)) (rest : List Char) :
    Ends (writeFields layout fs ++ rest) := by
  match fs with
  | [] | (_, _) :: _ => exact ends_cons (by decide) _

mutual
theorem readValue_write (v : Json Literal) (fuel : Nat) (rest : List Char)
    (enough : (write layout v).length ≤ fuel) (ends : Ends rest) :
    readValue fuel (write layout v ++ rest) = some (v, rest) := by
  match fuel, v with
  | 0, v =>
      obtain ⟨c, cs, text, -⟩ := write_head layout v
      simp [text] at enough
  | fuel + 1, .null => simp [write, readValue]
  | fuel + 1, .bool true => simp [write, readValue]
  | fuel + 1, .bool false => simp [write, readValue]
  | fuel + 1, .num n =>
      rw [write]
      cases text : n.text with
      | nil => exact absurd text n.ne_nil
      | cons c cs =>
          rw [List.cons_append, readValue_number (n.chars c (text ▸ List.mem_cons_self)),
            ← List.cons_append, ← text]
          exact readNumber_literal n ends
  | fuel + 1, .str s =>
      rw [write] at enough
      have chars := readChars_string layout.escape s rest fuel enough
      simp [write, renderString, readValue, chars]
  | fuel + 1, .arr [] =>
      have close : skipWs (']' :: rest) = ']' :: rest := skipWs_of_head (by simp [isWhitespace])
      simp [write, readValue, close]
  | fuel + 1, .obj [] =>
      have close : skipWs ('}' :: rest) = '}' :: rest := skipWs_of_head (by simp [isWhitespace])
      simp [write, readValue, close]
  | fuel + 1, .arr (v :: vs) =>
      rw [write, List.length_cons, List.length_append] at enough
      have items := readItems_write v vs fuel rest (by omega)
      rw [write, List.cons_append, List.append_assoc, readValue, skipWs_write]
      obtain ⟨c, cs, text, -, notClose⟩ := write_head layout v
      rw [text, List.cons_append] at items ⊢
      split
      · simp_all
      · simp only [items, Option.map_some]
  | fuel + 1, .obj ((k, v) :: fs) =>
      simp only [write, List.length_cons, List.length_append] at enough
      have fields := readFields_write k v fs fuel rest (by omega)
      have quote : ∀ cs, skipWs (renderString layout.escape k ++ cs) =
          renderString layout.escape k ++ cs :=
        fun cs => skipWs_of_head (by simp [renderString, isWhitespace])
      simp only [write, List.cons_append, List.append_assoc, readValue, quote]
      split
      · simp_all [renderString]
      · simp only [fields, Option.map_some]
theorem readItems_write (v : Json Literal) (vs : List (Json Literal)) (fuel : Nat)
    (rest : List Char) (enough : (write layout v).length + (writeItems layout vs).length ≤ fuel) :
    readItems fuel (write layout v ++ (writeItems layout vs ++ rest)) = some (v :: vs, rest) := by
  match fuel with
  | 0 =>
      obtain ⟨c, cs, text, -⟩ := write_head layout v
      simp [text] at enough
  | fuel + 1 =>
      have close : ∀ cs, skipWs (']' :: cs) = ']' :: cs :=
        fun cs => skipWs_of_head (by simp [isWhitespace])
      have comma : ∀ cs, skipWs (',' :: cs) = ',' :: cs :=
        fun cs => skipWs_of_head (by simp [isWhitespace])
      match vs with
      | [] =>
          simp only [writeItems, List.length_cons, List.length_nil] at enough
          have value := readValue_write v fuel (writeItems layout [] ++ rest) (by omega)
            (ends_writeItems layout [] rest)
          rw [readItems, value]
          simp [writeItems, close]
      | w :: ws =>
          simp only [writeItems, List.length_cons, List.length_append] at enough
          have value := readValue_write v fuel (writeItems layout (w :: ws) ++ rest) (by omega)
            (ends_writeItems layout (w :: ws) rest)
          have items := readItems_write w ws fuel rest (by omega)
          rw [readItems, value]
          simp only [writeItems, List.cons_append, List.append_assoc, Option.bind_some, comma,
            skipWs_gap, skipWs_write, items, Option.map_some]
theorem readFields_write (k : String) (v : Json Literal) (fs : List (String × Json Literal))
    (fuel : Nat) (rest : List Char)
    (enough : (renderString layout.escape k).length + (write layout v).length +
      (writeFields layout fs).length ≤ fuel) :
    readFields fuel (renderString layout.escape k ++
      ':' :: (layout.gap ++ (write layout v ++ (writeFields layout fs ++ rest)))) =
      some ((k, v) :: fs, rest) := by
  match fuel with
  | 0 => simp [renderString] at enough
  | fuel + 1 =>
      have solid : ∀ c cs, isWhitespace c = false → skipWs (c :: cs) = c :: cs :=
        fun c cs h => skipWs_of_head (by simpa using h)
      have chars := readChars_string layout.escape k
        (':' :: (layout.gap ++ (write layout v ++ (writeFields layout fs ++ rest)))) fuel (by omega)
      have value := readValue_write v fuel (writeFields layout fs ++ rest)
        (by simp only [renderString, List.length_cons] at enough; omega)
        (ends_writeFields layout fs rest)
      simp only [renderString, List.cons_append, List.append_assoc, List.nil_append, readFields,
        chars, Option.bind_some, solid ':' _ (by decide), skipWs_gap, skipWs_write, value,
        String.ofList_toList]
      match fs with
      | [] => simp [writeFields, solid '}' _ (by decide)]
      | (l, w) :: gs =>
          simp only [writeFields, List.length_cons, List.length_append] at enough
          have fields := readFields_write l w gs fuel rest (by omega)
          have quote : ∀ cs, skipWs (renderString layout.escape l ++ cs) =
              renderString layout.escape l ++ cs :=
            fun cs => skipWs_of_head (by simp [renderString, isWhitespace])
          simp only [writeFields, List.cons_append, List.append_assoc, solid ',' _ (by decide),
            skipWs_gap, quote, fields, Option.map_some]
end

theorem loads_write (v : Json Literal) : loads (write layout v) = some v := by
  have start : skipWs (write layout v) = write layout v := by
    simpa using skipWs_write layout v []
  have whole := readValue_write layout v (write layout v).length [] le_rfl (by simp [Ends])
  rw [List.append_nil] at whole
  have finish : skipWs [] = [] := rfl
  simp only [loads, start, whole, finish, if_true]

omit layout in
theorem loads_render (v : Json Literal) : loads (render esc v) = some v := by
  rw [← write_compact]
  exact loads_write esc.compact v

end GuardianPi.Library.Json
