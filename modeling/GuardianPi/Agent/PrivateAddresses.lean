import GuardianPi.Agent.FirewallManager
import GuardianPi.Library.Ipv4
import GuardianPi.Library.Separated

namespace GuardianPi.Agent.FirewallManager
open GuardianPi.Library GuardianPi.Library.Ipv4

def octets (ip : String) : List (List Char) :=
  (if ip.toList.getLast? = some '\n' then ip.toList.dropLast else ip.toList).splitOn '.'

def Denotes (decimal : Char → Option Nat) (ip : String) (x : Ipv4) : Prop :=
  (octets ip).map (octetValue decimal) = [x.a, x.b, x.c, x.d]

def privateNetworks : List Network :=
  [⟨⟨127, 0, 0, 0, by decide⟩, 8⟩, ⟨⟨10, 0, 0, 0, by decide⟩, 8⟩, ⟨⟨172, 16, 0, 0, by decide⟩, 12⟩,
    ⟨⟨192, 168, 0, 0, by decide⟩, 16⟩]

def DenotesPublic (decimal : Char → Option Nat) (ip : String) : Prop :=
  ∃ x, Denotes decimal ip x ∧ ∀ n ∈ privateNetworks, ¬ n.Contains x

section
variable (decimal : Char → Option Nat) (m : Manager) (fw : Firewall)

def Issues (ip reason : String) : Prop :=
  (blockIp decimal (fun fw _ => (.raised .timeoutExpired, fw)) m fw ip reason).1 = .error .timeoutExpired

/-- A command that could be run for a valid address. -/
def Startable (ip reason : String) : Prop :=
  validateIp decimal ip = true ∧ ∃ c, blockCommand m.osType ip reason = some c ∧ c.hasNul = false

/-- The numbers of the three prefixes are written without other digits, and 172.16 to 172.31 do not occur. -/
def PlainlySpelled (ip : String) : Prop :=
  ∀ a b c d, octets ip = [a, b, c, d] →
    (octetValue decimal a = 127 → a = "127".toList) ∧ (octetValue decimal a = 10 → a = "10".toList) ∧
    (octetValue decimal a = 192 → octetValue decimal b = 168 → a = "192".toList ∧ b = "168".toList) ∧
    ¬ (octetValue decimal a = 172 ∧ 16 ≤ octetValue decimal b ∧ octetValue decimal b ≤ 31)

variable {decimal m fw} {ip reason : String}

theorem issues_iff : Issues decimal m fw ip reason ↔ Startable decimal m ip reason ∧ isPrivate ip = false := by
  unfold Issues Startable blockIp
  cases validateIp decimal ip
  · simp
  · cases isPrivate ip
    · cases blockCommand m.osType ip reason with
      | none => simp
      | some c =>
          cases clean : c.hasNul <;> simp [subprocessRun, clean]
    · simp

theorem validateIp_octets (valid : validateIp decimal ip = true) : ∃ a b c d, octets ip = [a, b, c, d] ∧
    octetValue decimal a < 256 ∧ octetValue decimal b < 256 ∧ octetValue decimal c < 256 ∧
      octetValue decimal d < 256 := by
  have checked : (octets ip).length = 4 ∧ ∀ octet ∈ octets ip, octetValue decimal octet ≤ 255 := by
    simp only [validateIp, Bool.and_eq_true, decide_eq_true_eq, List.all_eq_true] at valid
    exact ⟨valid.1.1, valid.2⟩
  obtain ⟨four, small⟩ := checked
  obtain ⟨a, b, c, d, parts⟩ := List.length_eq_four.mp four
  rw [parts] at small
  simp only [List.forall_mem_cons] at small
  obtain ⟨a_le, b_le, c_le, d_le, -⟩ := small
  exact ⟨a, b, c, d, parts, Nat.lt_succ_of_le a_le, Nat.lt_succ_of_le b_le, Nat.lt_succ_of_le c_le,
    Nat.lt_succ_of_le d_le⟩

theorem isPrivate_iff {a b c d : List Char} (parts : octets ip = [a, b, c, d]) :
    isPrivate ip = true ↔ a = "127".toList ∨ a = "10".toList ∨ a = "192".toList ∧ b = "168".toList := by
  obtain ⟨tail, line, a_free, split⟩ := splitOn_cons_cons parts
  obtain ⟨tail', rfl, b_free, -⟩ := splitOn_cons_cons split
  have text : ∃ last, ip.toList = a ++ '.' :: (b ++ '.' :: last) := by
    split_ifs at line with feed
    · refine ⟨tail' ++ ['\n'], ?_⟩
      rw [← List.dropLast_append_getLast? '\n' feed, line]
      simp
    · exact ⟨tail', line⟩
  obtain ⟨last, text⟩ := text
  have dot : ".".toList = ['.'] := rfl
  have one (w : String) (free : '.' ∉ w.toList) : ip.startsWith (w ++ ".") = true ↔ a = w.toList := by
    rw [String.startsWith_string_iff, text, String.toList_append, dot, append_cons_prefix_iff free a_free]
    simp [eq_comm]
  have two (v w : String) (v_free : '.' ∉ v.toList) (w_free : '.' ∉ w.toList) :
      ip.startsWith (v ++ "." ++ w ++ ".") = true ↔ a = v.toList ∧ b = w.toList := by
    rw [String.startsWith_string_iff, text]
    simp only [String.toList_append, dot, List.append_assoc, List.cons_append, List.nil_append]
    rw [append_cons_prefix_iff v_free a_free, append_cons_prefix_iff w_free b_free]
    simp [eq_comm]
  have first := one "127" (by decide)
  have second := one "10" (by decide)
  have third := two "192" "168" (by decide) (by decide)
  simp only [isPrivate, Bool.or_eq_true, or_assoc]
  exact or_congr first (or_congr second third)

theorem denotesPublic_iff {a b c d : List Char} (parts : octets ip = [a, b, c, d])
    (small : octetValue decimal a < 256 ∧ octetValue decimal b < 256 ∧ octetValue decimal c < 256 ∧
      octetValue decimal d < 256) :
    DenotesPublic decimal ip ↔ octetValue decimal a ≠ 127 ∧ octetValue decimal a ≠ 10 ∧
      ¬ (octetValue decimal a = 172 ∧ octetValue decimal b / 16 = 1) ∧
      ¬ (octetValue decimal a = 192 ∧ octetValue decimal b = 168) := by
  let x : Ipv4 := ⟨_, _, _, _, small⟩
  have denoted : ∀ y, Denotes decimal ip y ↔ y = x := by
    intro ⟨a', b', c', d', small'⟩
    simp [Denotes, parts, x, eq_comm]
  have eight (base : Ipv4) : (Network.mk base 8).Contains x ↔ x.a = base.a := by
    rw [contains_iff base x (k := 0) (by decide)]
    simp [Nat.div_eq_of_lt x.octets.2.1, Nat.div_eq_of_lt base.octets.2.1]
  have twelve (base : Ipv4) := contains_iff base x (k := 4) (by decide)
  have sixteen (base : Ipv4) := contains_iff base x (k := 8) (by decide)
  simp only [DenotesPublic, denoted, exists_eq_left, privateNetworks, List.forall_mem_cons, eight]
  simp [twelve, sixteen, x]

theorem octetValue_prefix (ascii : ∀ c : Char, c.isDigit = true → decimal c = some (c.toNat - '0'.toNat)) :
    octetValue decimal ['1', '2', '7'] = 127 ∧ octetValue decimal ['1', '0'] = 10 ∧
      octetValue decimal ['1', '9', '2'] = 192 ∧ octetValue decimal ['1', '6', '8'] = 168 := by
  simp [octetValue, ascii]

theorem plainlySpelled_iff (ascii : ∀ c : Char, c.isDigit = true → decimal c = some (c.toNat - '0'.toNat))
    (valid : validateIp decimal ip = true) :
    PlainlySpelled decimal ip ↔ isPrivate ip = true ∨ DenotesPublic decimal ip := by
  obtain ⟨h127, h10, h192, h168⟩ := octetValue_prefix ascii
  obtain ⟨a, b, c, d, parts, small⟩ := validateIp_octets valid
  have spelled : PlainlySpelled decimal ip ↔
      (octetValue decimal a = 127 → a = "127".toList) ∧ (octetValue decimal a = 10 → a = "10".toList) ∧
      (octetValue decimal a = 192 → octetValue decimal b = 168 → a = "192".toList ∧ b = "168".toList) ∧
      ¬ (octetValue decimal a = 172 ∧ 16 ≤ octetValue decimal b ∧ octetValue decimal b ≤ 31) := by
    constructor
    · intro plain
      exact plain a b c d parts
    · intro plain a' b' c' d' parts'
      rw [parts] at parts'
      cases parts'
      exact plain
  rw [spelled, isPrivate_iff parts, denotesPublic_iff parts small]
  constructor
  · intro ⟨first, second, third, fourth⟩
    by_cases loop : octetValue decimal a = 127
    · exact .inl (.inl (first loop))
    by_cases ten : octetValue decimal a = 10
    · exact .inl (.inr (.inl (second ten)))
    by_cases lan : octetValue decimal a = 192 ∧ octetValue decimal b = 168
    · exact .inl (.inr (.inr (third lan.1 lan.2)))
    · exact .inr ⟨loop, ten, by omega, lan⟩
  · rintro ((rfl | rfl | ⟨rfl, rfl⟩) | ⟨loop, ten, middle, lan⟩)
    · simp [h127]
    · simp [h10]
    · simp [h192, h168]
    · exact ⟨fun h => absurd h loop, fun h => absurd h ten, fun h h' => absurd ⟨h, h'⟩ lan, by omega⟩

end

theorem never_private_iff (decimal : Char → Option Nat)
    (ascii : ∀ c : Char, c.isDigit = true → decimal c = some (c.toNat - '0'.toNat))
    (m : Manager) (fw : Firewall) (ip reason : String) :
    (Issues decimal m fw ip reason → DenotesPublic decimal ip) ↔
      (Startable decimal m ip reason → PlainlySpelled decimal ip) := by
  rw [issues_iff, and_imp]
  apply forall_congr'
  intro startable
  rw [plainlySpelled_iff ascii startable.1, or_iff_not_imp_left, Bool.not_eq_true]

theorem never_private_dns :
    Issues asciiDigit ⟨"linux", ∅⟩ .empty "8.8.8.8" "scan" ∧ DenotesPublic asciiDigit "8.8.8.8" := by
  have startable : Startable asciiDigit ⟨"linux", ∅⟩ "8.8.8.8" "scan" := ⟨by decide +kernel, _, rfl, by decide +kernel⟩
  have issues : Issues asciiDigit ⟨"linux", ∅⟩ .empty "8.8.8.8" "scan" := issues_iff.mpr ⟨startable, by simp [isPrivate]⟩
  refine ⟨issues, (never_private_iff asciiDigit (fun c digit => by simp [asciiDigit, digit]) _ _ _ _).mpr ?_ issues⟩
  intro _ a b c d parts
  have split : octets "8.8.8.8" = [['8'], ['8'], ['8'], ['8']] := by decide +kernel
  rw [split] at parts
  cases parts
  decide

/-- The third private network has no prefix, and a leading zero hides the second one. -/
theorem private_blocked :
    (Issues asciiDigit ⟨"linux", ∅⟩ .empty "172.16.0.1" "scan" ∧ ¬ DenotesPublic asciiDigit "172.16.0.1") ∧
      Issues asciiDigit ⟨"linux", ∅⟩ .empty "010.0.0.1" "scan" ∧ ¬ DenotesPublic asciiDigit "010.0.0.1" := by
  have third : octets "172.16.0.1" = [['1', '7', '2'], ['1', '6'], ['0'], ['1']] := by decide +kernel
  have second : octets "010.0.0.1" = [['0', '1', '0'], ['0'], ['0'], ['1']] := by decide +kernel
  rw [issues_iff, issues_iff, denotesPublic_iff third (by decide), denotesPublic_iff second (by decide)]
  refine ⟨⟨⟨⟨?_, _, rfl, ?_⟩, by simp [isPrivate]⟩, by decide⟩, ⟨⟨?_, _, rfl, ?_⟩, by simp [isPrivate]⟩, by decide⟩
  all_goals decide +kernel

end GuardianPi.Agent.FirewallManager
