import GuardianPi.Agent.PrivateAddresses
import GuardianPi.Library.Decimal
import GuardianPi.Library.GappedWords

namespace GuardianPi.Agent.FirewallManager
open GuardianPi.Library

structure IsGroup (group : List Char) : Prop where
  some_digit : 1 ≤ group.length
  at_most_three : group.length ≤ 3
  digits : ∀ c ∈ group, c.isDigit = true
  byte : Nat.ofDigitChars 10 group 0 ≤ 255

def DottedQuad (ip : String) : Prop :=
  ∃ groups : List (List Char), groups.length = 4 ∧ (∀ group ∈ groups, IsGroup group) ∧
    ip.toList = ['.'].intercalate groups

theorem dot_not_mem {group : List Char} (h : IsGroup group) : '.' ∉ group := by
  intro member
  exact absurd (h.digits '.' member) (by decide)

theorem dottedQuad_iff {ip : String} : DottedQuad ip ↔
    (ip.toList.splitOn '.').length = 4 ∧ ∀ group ∈ ip.toList.splitOn '.', IsGroup group := by
  constructor
  · intro ⟨groups, four, valid, text⟩
    have nonempty : groups ≠ [] := List.ne_nil_of_length_pos (by omega)
    rw [text, List.splitOn_intercalate '.' (fun group member => dot_not_mem (valid group member)) nonempty]
    exact ⟨four, valid⟩
  · intro ⟨four, valid⟩
    exact ⟨_, four, valid, (List.intercalate_splitOn '.').symm⟩

theorem DottedQuad.chars {ip : String} (quad : DottedQuad ip) {c : Char} (member : c ∈ ip.toList) :
    c.isDigit = true ∨ c = '.' := by
  by_cases dot : c = '.'
  · exact .inr dot
  · obtain ⟨group, inside, found⟩ := (mem_iff_splitOn dot ip.toList).mp member
    exact .inl (((dottedQuad_iff.mp quad).2 group inside).digits c found)

section
variable (decimal : Char → Option Nat)

def asciiChar (c : Char) : Char := (decimal c).elim c Nat.digitChar

/-- The text without a line feed at its end, with the ASCII digits of the same values. -/
def transcribed (ip : String) : String :=
  String.ofList ((if ip.toList.getLast? = some '\n' then ip.toList.dropLast else ip.toList).map (asciiChar decimal))

variable {decimal} (ascii : ∀ c : Char, c.toNat < 128 → decimal c = asciiDigit c)
  (small : ∀ c n, decimal c = some n → n < 10)

include small in
theorem ofDigitChars_map_asciiChar {octet : List Char} (known : ∀ c ∈ octet, (decimal c).isSome = true)
    (n : Nat) : Nat.ofDigitChars 10 (octet.map (asciiChar decimal)) n =
      octet.foldl (fun n c => 10 * n + (decimal c).getD 0) n := by
  induction octet generalizing n with
  | nil => rfl
  | cons c octet ih =>
      obtain ⟨value, digit⟩ := Option.isSome_iff_exists.mp (known c List.mem_cons_self)
      rw [List.map_cons, asciiChar, digit, Option.elim_some,
        Nat.ofDigitChars_cons_digitChar_of_lt_ten (small c value digit),
        ih (fun d member => known d (List.mem_cons_of_mem c member)), List.foldl_cons, digit, Option.getD_some]

include ascii

theorem decimal_of_isDigit {c : Char} (digit : c.isDigit = true) : decimal c = some (c.toNat - '0'.toNat) := by
  have range := isDigit_iff_toNat.mp digit
  rw [ascii c (by omega), asciiDigit, if_pos digit]

theorem decimal_dot : decimal '.' = none := by
  rw [ascii '.' (by decide)]
  rfl

theorem asciiChar_of_isDigit {c : Char} (digit : c.isDigit = true) : asciiChar decimal c = c := by
  have range := isDigit_iff_toNat.mp digit
  rw [asciiChar, decimal_of_isDigit ascii digit]
  apply Char.toNat_inj.mp
  show (Nat.digitChar (c.toNat - 48)).toNat = c.toNat
  rw [Nat.toNat_digitChar_of_lt_ten (by omega)]
  omega

include small

theorem isDigit_asciiChar (c : Char) : (asciiChar decimal c).isDigit = (decimal c).isSome := by
  unfold asciiChar
  cases value : decimal c with
  | some n => simp [Nat.isDigit_digitChar, small c n value]
  | none =>
      cases digit : c.isDigit with
      | false => simpa using digit
      | true => simp [decimal_of_isDigit ascii digit] at value

theorem asciiChar_eq_dot (c : Char) : asciiChar decimal c = '.' ↔ c = '.' := by
  constructor
  · intro dot
    have unknown : (decimal c).isSome = false := by
      rw [← isDigit_asciiChar ascii small, dot]
      rfl
    rwa [asciiChar, Option.isSome_eq_false_iff.mp unknown |> Option.isNone_iff_eq_none.mp] at dot
  · rintro rfl
    rw [asciiChar, decimal_dot ascii]
    rfl

theorem asciiChar_eq_self (c : Char) :
    asciiChar decimal c = c ↔ ((decimal c).isSome = true → c.isDigit = true) := by
  constructor
  · intro same known
    rwa [← isDigit_asciiChar ascii small, same] at known
  · intro plain
    by_cases known : (decimal c).isSome = true
    · exact asciiChar_of_isDigit ascii (plain known)
    · rw [asciiChar, Option.not_isSome_iff_eq_none.mp known]
      rfl

theorem isGroup_map_asciiChar (octet : List Char) : IsGroup (octet.map (asciiChar decimal)) ↔
    isOctet decimal octet = true ∧ octetValue decimal octet ≤ 255 := by
  have digits : (∀ c ∈ octet.map (asciiChar decimal), c.isDigit = true) ↔
      ∀ c ∈ octet, (decimal c).isSome = true := by
    rw [List.forall_mem_map]
    simp only [isDigit_asciiChar ascii small]
  simp only [isOctet, Bool.and_eq_true, decide_eq_true_eq, List.all_eq_true]
  constructor
  · intro group
    have known := digits.mp group.digits
    have byte := group.byte
    rw [ofDigitChars_map_asciiChar small known] at byte
    exact ⟨⟨⟨by simpa using group.some_digit, by simpa using group.at_most_three⟩, known⟩, byte⟩
  · intro ⟨⟨⟨some_digit, at_most_three⟩, known⟩, byte⟩
    rw [octetValue, ← ofDigitChars_map_asciiChar small known] at byte
    exact ⟨by simpa using some_digit, by simpa using at_most_three, digits.mpr known, byte⟩

theorem validateIp_iff (ip : String) : validateIp decimal ip = true ↔ DottedQuad (transcribed decimal ip) := by
  rw [dottedQuad_iff, transcribed, String.toList_ofList, splitOn_map (asciiChar_eq_dot ascii small),
    List.length_map, List.forall_mem_map]
  simp only [isGroup_map_asciiChar ascii small, validateIp, Bool.and_eq_true, decide_eq_true_eq, List.all_eq_true,
    and_assoc, forall_and]

theorem transcribed_eq_self_iff (ip : String) : transcribed decimal ip = ip ↔
    ip.toList.getLast? ≠ some '\n' ∧ ∀ c ∈ ip.toList, (decimal c).isSome = true → c.isDigit = true := by
  rw [transcribed, ← String.toList_inj, String.toList_ofList]
  split_ifs with feed
  · have shorter : (ip.toList.dropLast.map (asciiChar decimal)).length ≠ ip.toList.length := by
      obtain ⟨line, text⟩ := List.getLast?_eq_some_iff.mp feed
      simp [text]
    simp only [feed, ne_eq, not_true_eq_false, false_and, iff_false]
    exact fun same => shorter (congrArg List.length same)
  · have kept := @List.map_inj_left _ _ ip.toList (asciiChar decimal) id
    rw [List.map_id] at kept
    rw [kept]
    simp only [id, asciiChar_eq_self ascii small, ne_eq, feed, not_false_eq_true, true_and]

theorem DottedQuad.transcribed_eq {ip : String} (quad : DottedQuad ip) : transcribed decimal ip = ip := by
  rw [transcribed_eq_self_iff ascii small]
  constructor
  · intro feed
    obtain digit | dot := quad.chars (List.mem_of_getLast? feed)
    · exact absurd digit (by decide)
    · exact absurd dot (by decide)
  · intro c member known
    obtain digit | rfl := quad.chars member
    · exact digit
    · rw [decimal_dot ascii] at known
      exact absurd known (by decide)

end

inductive PatternLetter where
  | digit
  | dot

def PatternLetter.holds (decimal : Char → Option Nat) : PatternLetter → Char → Bool
  | .digit, c => (decimal c).isSome
  | .dot, c => c = '.'

def octetPattern : Regex PatternLetter :=
  .seq (.letter .digit) (.seq (.alt .epsilon (.letter .digit)) (.alt .epsilon (.letter .digit)))

def pattern : Regex PatternLetter :=
  .seq (.seq octetPattern (.letter .dot)) (.seq (.seq octetPattern (.letter .dot))
    (.seq (.seq octetPattern (.letter .dot)) octetPattern))

section
variable (decimal : Char → Option Nat) (isSpace : Char → Bool)

/-- `re.match(r'^…$', ip)`; `$` also matches in front of a last line feed. -/
def matchPattern (text : List Char) : Bool :=
  Regex.matchesWhole (PatternLetter.holds decimal) pattern text ||
    text.getLast? = some '\n' && Regex.matchesWhole (PatternLetter.holds decimal) pattern text.dropLast

def numeral (text : List Char) : Option Nat :=
  if (text.splitOn '_').all fun part => !part.isEmpty && part.all fun c => (decimal c).isSome then
    some (octetValue decimal (text.splitOn '_').flatten)
  else none

def int (text : List Char) : Option Int :=
  match (text.dropWhile isSpace).rdropWhile isSpace with
  | '+' :: digits => (numeral decimal digits).map Int.ofNat
  | '-' :: digits => (numeral decimal digits).map fun n => -Int.ofNat n
  | digits => (numeral decimal digits).map Int.ofNat

/-- `_validate_ip` as it is written, where `none` is a `ValueError`. -/
def validateIpText (ip : String) : Option Bool :=
  if !matchPattern decimal ip.toList then some false
  else (ip.toList.splitOn '.').allM fun octet => (int decimal isSpace octet).map fun n => 0 ≤ n && n ≤ 255

variable {decimal isSpace}

theorem matches_octetPattern {w : List Char} :
    Regex.Matches (PatternLetter.holds decimal) octetPattern w ↔ isOctet decimal w = true := by
  simp only [octetPattern, Regex.matches_seq, Regex.matches_alt, Regex.matches_letter, Regex.matches_epsilon,
    isOctet, Bool.and_eq_true, decide_eq_true_eq, List.all_eq_true]
  constructor
  · rintro ⟨_, _, rfl, ⟨c, rfl, hc⟩, _, _, rfl, rfl | ⟨d, rfl, hd⟩, rfl | ⟨e, rfl, he⟩⟩
    all_goals simp_all [PatternLetter.holds]
  · intro ⟨⟨positive, short⟩, known⟩
    match w with
    | [c] => exact ⟨[c], [], rfl, ⟨c, rfl, known c (by simp)⟩, [], [], rfl, .inl rfl, .inl rfl⟩
    | [c, d] =>
        exact ⟨[c], [d], rfl, ⟨c, rfl, known c (by simp)⟩, [d], [], rfl, .inr ⟨d, rfl, known d (by simp)⟩,
          .inl rfl⟩
    | [c, d, e] =>
        exact ⟨[c], [d, e], rfl, ⟨c, rfl, known c (by simp)⟩, [d], [e], rfl, .inr ⟨d, rfl, known d (by simp)⟩,
          .inr ⟨e, rfl, known e (by simp)⟩⟩
    | [] => exact absurd positive (by decide)
    | _ :: _ :: _ :: _ :: rest =>
        simp only [List.length_cons] at short
        omega

theorem matches_dotted_seq {r : Regex PatternLetter} {w : List Char} :
    Regex.Matches (PatternLetter.holds decimal) (.seq (.seq octetPattern (.letter .dot)) r) w ↔
      ∃ octet rest, w = octet ++ '.' :: rest ∧ isOctet decimal octet = true ∧
        Regex.Matches (PatternLetter.holds decimal) r rest := by
  rw [Regex.matches_seq]
  simp only [Regex.matches_seq, matches_octetPattern, Regex.matches_letter]
  constructor
  · rintro ⟨_, rest, rfl, ⟨octet, _, rfl, valid, c, rfl, dot⟩, h⟩
    obtain rfl : c = '.' := by simpa [PatternLetter.holds] using dot
    exact ⟨octet, rest, by simp, valid, h⟩
  · rintro ⟨octet, rest, rfl, valid, h⟩
    exact ⟨octet ++ ['.'], rest, by simp, ⟨octet, ['.'], rfl, valid, '.', rfl, rfl⟩, h⟩

theorem not_mem_octet {octet : List Char} (valid : isOctet decimal octet = true) {c : Char}
    (unknown : decimal c = none) : c ∉ octet := by
  intro member
  simp only [isOctet, Bool.and_eq_true, List.all_eq_true] at valid
  simpa [unknown] using valid.2 c member

variable (ascii : ∀ c : Char, c.toNat < 128 → decimal c = asciiDigit c)
include ascii

theorem matches_pattern {text : List Char} :
    Regex.Matches (PatternLetter.holds decimal) pattern text ↔
      (text.splitOn '.').length = 4 ∧ ∀ octet ∈ text.splitOn '.', isOctet decimal octet = true := by
  have free : ∀ octet, isOctet decimal octet = true → '.' ∉ octet :=
    fun octet valid => not_mem_octet valid (decimal_dot ascii)
  simp only [pattern, matches_dotted_seq, matches_octetPattern]
  constructor
  · rintro ⟨a, _, rfl, ha, b, _, rfl, hb, c, d, rfl, hc, hd⟩
    rw [List.splitOn_append_cons_self_of_not_mem (free a ha), List.splitOn_append_cons_self_of_not_mem (free b hb),
      List.splitOn_append_cons_self_of_not_mem (free c hc), List.splitOn_eq_singleton (free d hd)]
    simp [ha, hb, hc, hd]
  · intro ⟨four, valid⟩
    obtain ⟨a, b, c, d, parts⟩ := List.length_eq_four.mp four
    obtain ⟨tail, rfl, -, second⟩ := splitOn_cons_cons parts
    obtain ⟨tail, rfl, -, third⟩ := splitOn_cons_cons second
    obtain ⟨tail, rfl, -, last⟩ := splitOn_cons_cons third
    have joined : ['.'].intercalate (tail.splitOn '.') = tail := List.intercalate_splitOn '.'
    obtain rfl : d = tail := by
      rw [← joined, last]
      simp
    rw [parts] at valid
    simp only [List.forall_mem_cons] at valid
    exact ⟨a, _, rfl, valid.1, b, _, rfl, valid.2.1, c, d, rfl, valid.2.2.1, valid.2.2.2.1⟩

theorem matchPattern_iff (ip : String) : matchPattern decimal ip.toList = true ↔
    (octets ip).length = 4 ∧ ∀ octet ∈ octets ip, isOctet decimal octet = true := by
  rw [matchPattern, Bool.or_eq_true, Bool.and_eq_true, Regex.matchesWhole_iff, Regex.matchesWhole_iff,
    matches_pattern ascii, matches_pattern ascii, octets]
  split_ifs with feed
  · have rejected : ¬ ∀ octet ∈ ip.toList.splitOn '.', isOctet decimal octet = true := by
      intro valid
      have other : '\n' ≠ '.' := by decide
      obtain ⟨octet, inside, found⟩ := (mem_iff_splitOn other ip.toList).mp (List.mem_of_getLast? feed)
      exact not_mem_octet (valid octet inside) (ascii '\n' (by decide)) found
    simp [feed, rejected]
  · simp [feed]

variable (space : ∀ c, isSpace c = true → decimal c = none)
include space

theorem int_octet {octet blank : List Char} (valid : isOctet decimal octet = true)
    (spaces : ∀ c ∈ blank, isSpace c = true) :
    int decimal isSpace (octet ++ blank) = some (octetValue decimal octet : Int) := by
  have known : ∀ c ∈ octet, (decimal c).isSome = true := by
    simp only [isOctet, Bool.and_eq_true, List.all_eq_true] at valid
    exact valid.2
  have solid : ∀ c ∈ octet, isSpace c = false := by
    intro c member
    by_contra blank
    have none := space c (by simpa using blank)
    simpa [none] using known c member
  have nonempty : octet ≠ [] := by
    rintro rfl
    exact absurd valid (by simp [isOctet])
  have number : numeral decimal octet = some (octetValue decimal octet) := by
    have single : octet.splitOn '_' = [octet] :=
      List.splitOn_eq_singleton (not_mem_octet valid (ascii '_' (by decide)))
    have digits : (!octet.isEmpty && octet.all fun c => (decimal c).isSome) = true := by
      rw [Bool.and_eq_true, List.all_eq_true]
      exact ⟨by simpa using nonempty, known⟩
    rw [numeral, single, List.all_cons, digits]
    simp
  have unsigned : ∀ sign rest, decimal sign = none → octet ≠ sign :: rest := by
    rintro sign rest unknown rfl
    exact not_mem_octet valid unknown List.mem_cons_self
  rw [int, strip_append nonempty solid spaces]
  split
  · exact absurd rfl (unsigned '+' _ (ascii '+' (by decide)))
  · exact absurd rfl (unsigned '-' _ (ascii '-' (by decide)))
  · rw [number]
    rfl

/-- The expression leaves only texts that `int` reads, with the values of the octets. -/
theorem validateIpText_eq (feed : isSpace '\n' = true) (ip : String) :
    validateIpText decimal isSpace ip = some (validateIp decimal ip) := by
  have shape : validateIp decimal ip = (matchPattern decimal ip.toList &&
      (octets ip).all fun octet => octetValue decimal octet ≤ 255) := by
    rw [Bool.eq_iff_iff, Bool.and_eq_true, matchPattern_iff ascii]
    simp only [validateIp, octets, Bool.and_eq_true, decide_eq_true_eq, List.all_eq_true]
  rw [shape, validateIpText]
  cases found : matchPattern decimal ip.toList with
  | false => rfl
  | true =>
      obtain ⟨four, valid⟩ := (matchPattern_iff ascii ip).mp found
      obtain ⟨a, b, c, d, parts⟩ := List.length_eq_four.mp four
      obtain ⟨blank, spaces, split⟩ : ∃ blank : List Char, (∀ c ∈ blank, isSpace c = true) ∧
          ip.toList.splitOn '.' = [a, b, c, d ++ blank] := by
        rw [octets] at parts
        split_ifs at parts with last
        · refine ⟨['\n'], by simpa using feed, ?_⟩
          rw [← List.dropLast_append_getLast? '\n' last]
          have free : '.' ∉ ['\n'] := by decide
          have cut : ip.toList.dropLast.splitOn '.' = [a, b, c] ++ [d] := parts
          exact splitOn_append_of_not_mem free cut
        · exact ⟨[], by simp, by rw [parts, List.append_nil]⟩
      rw [parts] at valid
      simp only [List.forall_mem_cons] at valid
      obtain ⟨ha, hb, hc, hd, -⟩ := valid
      have read : ∀ octet, isOctet decimal octet = true →
          int decimal isSpace octet = some (octetValue decimal octet : Int) := by
        intro octet h
        simpa using int_octet ascii space h (List.forall_mem_nil _)
      rw [split, parts]
      simp only [Bool.not_true, Bool.false_eq_true, ↓reduceIte, List.allM, read a ha, read b hb, read c hc,
        int_octet ascii space hd spaces, Option.map_some, Int.natCast_nonneg, decide_true, Nat.cast_le_ofNat,
        Bool.true_and, Option.pure_def, Option.bind_eq_bind, Option.bind_some, List.all_cons, List.all_nil,
        Bool.and_true]
      cases decide (octetValue decimal a ≤ 255) <;> cases decide (octetValue decimal b ≤ 255) <;>
        cases decide (octetValue decimal c ≤ 255) <;> cases decide (octetValue decimal d ≤ 255) <;> rfl

end

theorem validateIp_exact_iff (decimal : Char → Option Nat)
    (ascii : ∀ c : Char, c.toNat < 128 → decimal c = asciiDigit c)
    (small : ∀ c n, decimal c = some n → n < 10) (ip : String) :
    (validateIp decimal ip = true ↔ DottedQuad ip) ↔
      (DottedQuad (transcribed decimal ip) →
        ip.toList.getLast? ≠ some '\n' ∧ ∀ c ∈ ip.toList, (decimal c).isSome = true → c.isDigit = true) := by
  rw [validateIp_iff ascii small, ← transcribed_eq_self_iff ascii small]
  constructor
  · intro agree quad
    exact (agree.mp quad).transcribed_eq ascii small
  · intro plain
    constructor
    · intro quad
      have same := plain quad
      rwa [same] at quad
    · intro quad
      rwa [quad.transcribed_eq ascii small]

theorem asciiDigit_lt_ten (c : Char) (n : Nat) (h : asciiDigit c = some n) : n < 10 := by
  unfold asciiDigit at h
  split_ifs at h with digit
  have range := isDigit_iff_toNat.mp digit
  rw [← Option.some.inj h]
  show c.toNat - 48 < 10
  omega

theorem validateIp_exact_dns : validateIp asciiDigit "8.8.8.8" = true ↔ DottedQuad "8.8.8.8" := by
  apply (validateIp_exact_iff asciiDigit (fun _ _ => rfl) asciiDigit_lt_ten "8.8.8.8").mpr
  intro _
  refine ⟨by decide, fun c _ known => ?_⟩
  unfold asciiDigit at known
  split_ifs at known with digit
  · exact digit
  · exact absurd known (by decide)

def twoScripts (c : Char) : Option Nat :=
  if 0x660 ≤ c.toNat ∧ c.toNat ≤ 0x669 then some (c.toNat - 0x660) else asciiDigit c

theorem line_feed_accepted :
    (validateIp twoScripts "8.8.8.8\n" = true ∧ ¬ DottedQuad "8.8.8.8\n") ∧
      validateIp twoScripts "٨.٨.٨.٨" = true ∧ ¬ DottedQuad "٨.٨.٨.٨" := by
  have feed : ¬ DottedQuad "8.8.8.8\n" := by
    intro quad
    have member : '\n' ∈ "8.8.8.8\n".toList := by decide
    exact absurd (quad.chars member) (by decide)
  have arabic : ¬ DottedQuad "٨.٨.٨.٨" := by
    intro quad
    have member : '٨' ∈ "٨.٨.٨.٨".toList := by decide
    exact absurd (quad.chars member) (by decide)
  exact ⟨⟨by decide +kernel, feed⟩, by decide +kernel, arabic⟩

end GuardianPi.Agent.FirewallManager
