import GuardianPi.Library.Decimal

namespace GuardianPi.Library

def civil (days : Int) : Int × Int × Int :=
  let shifted := days + 719468
  let era := shifted / 146097
  let doe := shifted % 146097
  let yoe := (doe - doe / 1460 + doe / 36524 - doe / 146096) / 365
  let doy := doe - (365 * yoe + yoe / 4 - yoe / 100)
  let mp := (5 * doy + 2) / 153
  let month := if mp < 10 then mp + 3 else mp - 9
  (yoe + era * 400 + if month ≤ 2 then 1 else 0, month, doy - (153 * mp + 2) / 5 + 1)

structure EraDay (doe c q y t : Int) : Prop where
  day : doe = 36524 * c + 1461 * q + 365 * y + t
  century : 0 ≤ c ∧ c ≤ 3
  cycle : 0 ≤ q ∧ q ≤ 24
  year : 0 ≤ y ∧ y ≤ 3
  rest : 0 ≤ t ∧ t ≤ 365
  leap : t = 365 → y = 3 ∧ (q = 24 → c = 3)

theorem exists_eraDay (doe : Int) (first : 0 ≤ doe) (last : doe < 146097) :
    ∃ c q y t, EraDay doe c q y t := by
  obtain ⟨c, century, r, day, few, leapCentury⟩ : ∃ c : Int, (0 ≤ c ∧ c ≤ 3) ∧ ∃ r,
      doe = 36524 * c + r ∧ (0 ≤ r ∧ r ≤ 36524) ∧ (r = 36524 → c = 3) := by
    by_cases final : doe = 146096
    · exact ⟨3, by omega, 36524, by omega, by omega, by omega⟩
    · exact ⟨doe / 36524, by omega, doe % 36524, by omega, by omega, by omega⟩
  obtain ⟨y, year, t, within, rest, leapYear⟩ : ∃ y : Int, (0 ≤ y ∧ y ≤ 3) ∧ ∃ t,
      r % 1461 = 365 * y + t ∧ (0 ≤ t ∧ t ≤ 365) ∧ (t = 365 → y = 3) := by
    by_cases final : r % 1461 = 1460
    · exact ⟨3, by omega, 365, by omega, by omega, by omega⟩
    · exact ⟨r % 1461 / 365, by omega, r % 1461 % 365, by omega, by omega, by omega⟩
  refine ⟨c, r / 1461, y, t, by omega, century, by omega, year, rest, ?_⟩
  intro full
  have late := leapYear full
  refine ⟨late, ?_⟩
  intro cycle
  apply leapCentury
  omega

theorem EraDay.yearOfEra {doe c q y t : Int} (era : EraDay doe c q y t) :
    (doe - doe / 1460 + doe / 36524 - doe / 146096) / 365 = 100 * c + 4 * q + y := by
  obtain ⟨day, ⟨hc, hc'⟩, ⟨hq, hq'⟩, ⟨hy, hy'⟩, ⟨ht, ht'⟩, leap⟩ := era
  have cycles : doe / 1460 = 25 * c + q ∧ 24 * c + q + 365 * y + t < 1460 ∨
      doe / 1460 = 25 * c + q + 1 ∧ 1460 ≤ 24 * c + q + 365 * y + t := by
    clear leap
    omega
  have centuries : doe / 36524 = c ∧ doe / 146096 = 0 ∨
      doe / 36524 = 4 ∧ doe / 146096 = 1 ∧ doe = 146096 := by
    by_cases final : doe = 146096
    · subst final
      exact Or.inr ⟨by decide, by decide, rfl⟩
    · left
      constructor <;> omega
  generalize doe / 1460 = a at *
  generalize doe / 36524 = b at *
  generalize doe / 146096 = d at *
  obtain ⟨rfl, few⟩ | ⟨rfl, many⟩ := cycles <;> obtain ⟨rfl, rfl⟩ | ⟨rfl, rfl, final⟩ := centuries <;>
    omega

theorem EraDay.dayOfYear {doe c q y t : Int} (era : EraDay doe c q y t) {yoe : Int}
    (year : yoe = 100 * c + 4 * q + y) : doe - (365 * yoe + yoe / 4 - yoe / 100) = t := by
  obtain ⟨day, century, cycle, years, -, -⟩ := era
  have quarter : yoe / 4 = 25 * c + q := by omega
  have hundred : yoe / 100 = c := by omega
  rw [quarter, hundred]
  omega

theorem civil_eq (days : Int) : ∃ year day : Int, 0 ≤ day ∧ day ≤ 365 ∧
    days + 719468 = 365 * year + year / 4 - year / 100 + year / 400 + day ∧
    civil days = (year + if (5 * day + 2) / 153 < 10 then 0 else 1,
      if (5 * day + 2) / 153 < 10 then (5 * day + 2) / 153 + 3 else (5 * day + 2) / 153 - 9,
      day - (153 * ((5 * day + 2) / 153) + 2) / 5 + 1) := by
  obtain ⟨c, q, y, t, era⟩ := exists_eraDay ((days + 719468) % 146097) (by omega) (by omega)
  refine ⟨100 * c + 4 * q + y + (days + 719468) / 146097 * 400, t, era.rest.1, era.rest.2, ?_, ?_⟩
  · obtain ⟨day, century, cycle, years, -, -⟩ := era
    have quotient := Int.mul_ediv_add_emod (days + 719468) 146097
    generalize (days + 719468) / 146097 = e at *
    generalize (days + 719468) % 146097 = doe at *
    omega
  · have day := era.dayOfYear rfl
    have bounds := era.rest
    unfold civil
    dsimp only
    rw [era.yearOfEra, day]
    split_ifs <;> simp only [Prod.mk.injEq] <;> omega

theorem civil_injective : Function.Injective civil := by
  intro days days' same
  obtain ⟨year, day, first, last, count, date⟩ := civil_eq days
  obtain ⟨year', day', first', last', count', date'⟩ := civil_eq days'
  rw [date, date', Prod.mk.injEq, Prod.mk.injEq] at same
  obtain ⟨sameYear, sameMonth, sameDay⟩ := same
  have month : (5 * day + 2) / 153 = (5 * day' + 2) / 153 := by
    clear sameYear sameDay count count'
    split_ifs at sameMonth <;> omega
  rw [month] at sameYear sameDay
  obtain rfl : day = day' := by omega
  obtain rfl : year = year' := by omega
  omega

theorem civil_range (days : Int) (first : -719162 ≤ days) (last : days ≤ 2932896) :
    (1 ≤ (civil days).1 ∧ (civil days).1 ≤ 9999) ∧ (1 ≤ (civil days).2.1 ∧ (civil days).2.1 ≤ 12) ∧
      1 ≤ (civil days).2.2 ∧ (civil days).2.2 ≤ 31 := by
  obtain ⟨year, day, early, late, count, date⟩ := civil_eq days
  rw [date]
  dsimp only
  refine ⟨?_, ?_, ?_⟩
  · have bounds : 0 ≤ year ∧ year ≤ 9999 := by omega
    have march : year = 0 → 10 ≤ (5 * day + 2) / 153 := by
      intro zero
      subst zero
      omega
    have february : year = 9999 → (5 * day + 2) / 153 < 10 := by
      intro final
      subst final
      omega
    clear count
    split_ifs <;> omega
  · clear count
    split_ifs <;> omega
  · omega

def padded (width : Nat) (n : Int) : String :=
  let digits := toString n
  String.ofList (List.replicate (width - digits.length) '0') ++ digits

theorem padded_toList (width n : Nat) : (padded width n).toList =
    List.replicate (width - (Nat.toDigits 10 n).length) '0' ++ Nat.toDigits 10 n := by
  rw [padded, String.toList_append, String.toList_ofList, toString_nat_toList, ← String.length_toList,
    toString_nat_toList]

theorem length_padded {width n : Nat} (fits : n < 10 ^ width) (wide : 0 < width) :
    (padded width n).length = width := by
  have digits : (Nat.toDigits 10 n).length ≤ width :=
    (Nat.length_toDigits_le_iff (by decide) wide).mpr fits
  rw [← String.length_toList, padded_toList, List.length_append, List.length_replicate]
  omega

theorem padded_injective (width : Nat) {m n : Nat} (same : padded width m = padded width n) : m = n := by
  have value (k : Nat) : Nat.ofDigitChars 10 (padded width k).toList 0 = k := by
    rw [padded_toList, Nat.ofDigitChars_append]
    simp
  rw [← value m, ← value n, same]

theorem padded_append_iff {width : Nat} (wide : 0 < width) {m n : Int} (hm : 0 ≤ m ∧ m < 10 ^ width)
    (hn : 0 ≤ n ∧ n < 10 ^ width) {rest rest' : String} :
    padded width m ++ rest = padded width n ++ rest' ↔ m = n ∧ rest = rest' := by
  obtain ⟨m, rfl⟩ := Int.eq_ofNat_of_zero_le hm.1
  obtain ⟨n, rfl⟩ := Int.eq_ofNat_of_zero_le hn.1
  have lengths : (padded width m).toList.length = (padded width n).toList.length := by
    rw [String.length_toList, String.length_toList, length_padded (by exact_mod_cast hm.2) wide,
      length_padded (by exact_mod_cast hn.2) wide]
  constructor
  · intro same
    have lists := congrArg String.toList same
    rw [String.toList_append, String.toList_append] at lists
    obtain ⟨field, others⟩ := List.append_inj lists lengths
    exact ⟨congrArg Nat.cast (padded_injective width (String.toList_inj.mp field)),
      String.toList_inj.mp others⟩
  · rintro ⟨same, rfl⟩
    rw [same]

def Representable (micros : Int) : Prop :=
  -62135596800000000 ≤ micros ∧ micros < 253402300800000000

/-- `datetime.isoformat()` of an instant in UTC: the microseconds are left out where they are zero. -/
def isoformat (micros : Int) : String :=
  let seconds := micros / 1000000
  let date := civil (seconds / 86400)
  let clock := seconds % 86400
  let micro := micros % 1000000
  padded 4 date.1 ++ ("-" ++ (padded 2 date.2.1 ++ ("-" ++ (padded 2 date.2.2 ++ ("T" ++
    (padded 2 (clock / 3600) ++ (":" ++ (padded 2 (clock / 60 % 60) ++ (":" ++ (padded 2 (clock % 60) ++
      (if micro = 0 then "+00:00" else "." ++ (padded 6 micro ++ "+00:00"))))))))))))

theorem micro_field_inj {a b : Int} (ha : 0 ≤ a ∧ a < 1000000) (hb : 0 ≤ b ∧ b < 1000000)
    (same : (if a = 0 then "+00:00" else "." ++ (padded 6 a ++ "+00:00")) =
      if b = 0 then "+00:00" else "." ++ (padded 6 b ++ "+00:00")) : a = b := by
  have dotted (c : Int) : "+00:00" ≠ "." ++ (padded 6 c ++ "+00:00") := by
    intro equal
    have heads := congrArg (fun text => text.toList.head?) equal
    simp [String.toList_append] at heads
  split_ifs at same with za zb zb
  · rw [za, zb]
  · exact absurd same (dotted b)
  · exact absurd same.symm (dotted a)
  · exact ((padded_append_iff (by decide) ha hb).mp (String.append_right_inj _ |>.mp same)).1

theorem isoformat_inj {s t : Int} (hs : Representable s) (ht : Representable t) :
    isoformat s = isoformat t ↔ s = t := by
  refine ⟨?_, congrArg isoformat⟩
  intro same
  obtain ⟨firstS, lastS⟩ := hs
  obtain ⟨firstT, lastT⟩ := ht
  have dateS := civil_range (s / 1000000 / 86400) (by omega) (by omega)
  have dateT := civil_range (t / 1000000 / 86400) (by omega) (by omega)
  unfold isoformat at same
  dsimp only at same
  rw [padded_append_iff (by decide) (by omega) (by omega), String.append_right_inj,
    padded_append_iff (by decide) (by omega) (by omega), String.append_right_inj,
    padded_append_iff (by decide) (by omega) (by omega), String.append_right_inj,
    padded_append_iff (by decide) (by omega) (by omega), String.append_right_inj,
    padded_append_iff (by decide) (by omega) (by omega), String.append_right_inj,
    padded_append_iff (by decide) (by omega) (by omega)] at same
  obtain ⟨year, month, day, hour, minute, second, micro⟩ := same
  have sameMicro := micro_field_inj (by omega) (by omega) micro
  have sameDay := civil_injective (Prod.ext year (Prod.ext month day))
  omega

example : isoformat 1767225600000100 = "2026-01-01T00:00:00.000100+00:00" := by decide

-- two instants are told apart by `isoformat_inj`, not by computing their texts
attribute [irreducible] isoformat

end GuardianPi.Library
