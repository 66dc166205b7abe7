import GuardianPi.Library.Json
import Mathlib.Data.Nat.Digits.Defs
import Mathlib.Data.String.Basic

namespace GuardianPi.Library

theorem isDigit_iff_toNat {c : Char} : c.isDigit = true ↔ 48 ≤ c.toNat ∧ c.toNat ≤ 57 :=
  Char.isDigit_iff_toNat

theorem digit_lt_digit {a b : Char} (ha : a.isDigit = true) (hb : b.isDigit = true) :
    a < b ↔ a.toNat - 48 < b.toNat - 48 := by
  have ra := isDigit_iff_toNat.mp ha
  have rb := isDigit_iff_toNat.mp hb
  rw [Char.lt_def, UInt32.lt_iff_toNat_lt]
  change a.toNat < b.toNat ↔ _
  omega

theorem digit_eq_digit {a b : Char} (ha : a.isDigit = true) (hb : b.isDigit = true) :
    a = b ↔ a.toNat - 48 = b.toNat - 48 := by
  have ra := isDigit_iff_toNat.mp ha
  have rb := isDigit_iff_toNat.mp hb
  rw [← Char.toNat_inj]
  omega

theorem ofDigitChars_cons_eq (c : Char) (cs : List Char) :
    Nat.ofDigitChars 10 (c :: cs) 0 =
      10 ^ cs.length * (c.toNat - 48) + Nat.ofDigitChars 10 cs 0 := by
  rw [Nat.ofDigitChars_cons, Nat.ofDigitChars_eq_ofDigitChars_zero]
  simp

theorem ofDigitChars_lt_pow {cs : List Char} (digits : ∀ c ∈ cs, c.isDigit = true) :
    Nat.ofDigitChars 10 cs 0 < 10 ^ cs.length := by
  induction cs with
  | nil => simp
  | cons c cs ih =>
      have tail := ih fun d hd => digits d (List.mem_cons_of_mem _ hd)
      have range := isDigit_iff_toNat.mp (digits c List.mem_cons_self)
      have head : c.toNat - 48 + 1 ≤ 10 := by omega
      rw [ofDigitChars_cons_eq, List.length_cons, pow_succ]
      calc 10 ^ cs.length * (c.toNat - 48) + Nat.ofDigitChars 10 cs 0
          < 10 ^ cs.length * (c.toNat - 48) + 10 ^ cs.length := by omega
        _ = 10 ^ cs.length * (c.toNat - 48 + 1) := by ring
        _ ≤ 10 ^ cs.length * 10 := Nat.mul_le_mul_left _ head

theorem leading_digit_lt {p a b u v : Nat} (hu : u < p) (hv : v < p) :
    p * a + u < p * b + v ↔ a < b ∨ a = b ∧ u < v := by
  rcases Nat.lt_trichotomy a b with h | rfl | h
  · have step : p * (a + 1) ≤ p * b := Nat.mul_le_mul_left _ h
    rw [Nat.mul_add] at step
    exact ⟨fun _ => Or.inl h, fun _ => by omega⟩
  · simp
  · have step : p * (b + 1) ≤ p * a := Nat.mul_le_mul_left _ h
    rw [Nat.mul_add] at step
    constructor <;> omega

theorem digits_lt_iff {xs ys : List Char} (width : xs.length = ys.length)
    (hx : ∀ c ∈ xs, c.isDigit = true) (hy : ∀ c ∈ ys, c.isDigit = true) :
    xs < ys ↔ Nat.ofDigitChars 10 xs 0 < Nat.ofDigitChars 10 ys 0 := by
  induction xs generalizing ys with
  | nil =>
      obtain rfl : ys = [] := List.length_eq_zero_iff.mp width.symm
      simp
  | cons x xs ih =>
      cases ys with
      | nil => simp at width
      | cons y ys =>
          have width' : xs.length = ys.length := by simpa using width
          have hx' : ∀ c ∈ xs, c.isDigit = true := fun c hc => hx c (List.mem_cons_of_mem _ hc)
          have hy' : ∀ c ∈ ys, c.isDigit = true := fun c hc => hy c (List.mem_cons_of_mem _ hc)
          have dx := hx x List.mem_cons_self
          have dy := hy y List.mem_cons_self
          rw [List.cons_lt_cons_iff, ih width' hx' hy', digit_lt_digit dx dy, digit_eq_digit dx dy,
            ofDigitChars_cons_eq, ofDigitChars_cons_eq, ← width']
          exact (leading_digit_lt (ofDigitChars_lt_pow hx')
            (width' ▸ ofDigitChars_lt_pow hy')).symm

def Digits (w : Nat) (t : Int) : Prop :=
  (toString t).length = w ∧ ∀ c ∈ (toString t).toList, c.isDigit = true

instance (w : Nat) (t : Int) : Decidable (Digits w t) :=
  @instDecidableAnd _ _ _ (List.decidableBAll _ _)

theorem toString_nat_toList (n : Nat) : (toString (n : Int)).toList = Nat.toDigits 10 n := by
  simp [Int.toString_eq_repr, Int.repr_eq_if, Nat.toList_repr]

theorem Digits.nonneg {w : Nat} {t : Int} (h : Digits w t) : 0 ≤ t := by
  by_contra negative
  have sign : '-' ∈ (toString t).toList := by
    simp [Int.toString_eq_repr, Int.repr_eq_if, negative]
  exact absurd (h.2 '-' sign) (by decide)

theorem toString_of_neg {t : Int} (negative : t < 0) : toString t = "-" ++ toString (-t) := by
  simp [Int.toString_eq_repr, Int.repr_eq_if, Int.not_le.mpr negative, Int.le_of_lt negative]

theorem toString_int_injective : Function.Injective (toString : Int → String) := by
  have nonneg : ∀ t : Int, 0 ≤ t → '-' ∉ (toString t).toList := by
    intro t ht sign
    obtain ⟨n, rfl⟩ := Int.eq_ofNat_of_zero_le ht
    rw [toString_nat_toList] at sign
    exact absurd (Nat.isDigit_of_mem_toDigits (by decide) (by decide) sign) (by decide)
  have value : ∀ m n : Nat, toString (m : Int) = toString (n : Int) → m = n := by
    intro m n h
    have h' := congrArg String.toList h
    rw [toString_nat_toList, toString_nat_toList] at h'
    simpa using congrArg (fun cs => Nat.ofDigitChars 10 cs 0) h'
  intro s t h
  rcases Int.lt_or_le s 0 with hs | hs <;> rcases Int.lt_or_le t 0 with ht | ht
  · rw [toString_of_neg hs, toString_of_neg ht, String.append_right_inj] at h
    obtain ⟨m, hm⟩ := Int.eq_ofNat_of_zero_le (show 0 ≤ -s by omega)
    obtain ⟨n, hn⟩ := Int.eq_ofNat_of_zero_le (show 0 ≤ -t by omega)
    rw [hm, hn] at h
    have := value m n h
    omega
  · exact absurd (by rw [← h, toString_of_neg hs]; simp) (nonneg t ht)
  · exact absurd (by rw [h, toString_of_neg ht]; simp) (nonneg s hs)
  · obtain ⟨m, rfl⟩ := Int.eq_ofNat_of_zero_le hs
    obtain ⟨n, rfl⟩ := Int.eq_ofNat_of_zero_le ht
    rw [value m n h]

theorem append_lt_append_iff {α : Type*} [LinearOrder α] {xs ys : List α}
    (width : xs.length = ys.length) (zs : List α) : xs ++ zs < ys ++ zs ↔ xs < ys := by
  induction xs generalizing ys with
  | nil =>
      obtain rfl : ys = [] := List.length_eq_zero_iff.mp width.symm
      simp
  | cons x xs ih =>
      cases ys with
      | nil => simp at width
      | cons y ys => simp [List.cons_lt_cons_iff, ih (by simpa using width)]

theorem Digits.lt_iff {w : Nat} {s t : Int} (hs : Digits w s) (ht : Digits w t) (suffix : String) :
    toString s ++ suffix < toString t ++ suffix ↔ s < t := by
  have width : (toString s).toList.length = (toString t).toList.length := by
    rw [String.length_toList, String.length_toList, hs.1, ht.1]
  rw [String.lt_iff_toList_lt, String.toList_append, String.toList_append,
    append_lt_append_iff width, digits_lt_iff width hs.2 ht.2]
  obtain ⟨m, rfl⟩ := Int.eq_ofNat_of_zero_le hs.nonneg
  obtain ⟨n, rfl⟩ := Int.eq_ofNat_of_zero_le ht.nonneg
  rw [toString_nat_toList, toString_nat_toList, Nat.ofDigitChars_ten_toDigits,
    Nat.ofDigitChars_ten_toDigits]
  exact Int.ofNat_lt.symm

theorem head_toDigits_ne_zero {n : Nat} (positive : 0 < n) :
    (Nat.toDigits 10 n).head? ≠ some '0' := by
  induction n using Nat.strongRecOn with
  | ind n ih =>
      by_cases small : n < 10
      · have digit : ∀ d, d < 10 → 0 < d → d.digitChar ≠ '0' := by decide
        rw [Nat.toDigits_of_lt_base small]
        simpa using digit n small positive
      · have leading := ih (n / 10) (by omega) (by omega)
        rw [Nat.toDigits_of_base_le (by decide) (by omega)]
        cases written : Nat.toDigits 10 (n / 10) with
        | nil => exact absurd written Nat.toDigits_ne_nil
        | cons c cs => simpa [written] using leading

theorem isNumber_digits (n : Nat) :
    (Nat.toDigits 10 n).all isNumberChar = true ∧ afterInt (Nat.toDigits 10 n) = some [] := by
  have digits : ∀ c ∈ Nat.toDigits 10 n, c.isDigit = true :=
    fun c hc => Nat.isDigit_of_mem_toDigits (by decide) (by decide) hc
  constructor
  · rw [List.all_eq_true]
    intro c hc
    simp [isNumberChar, digits c hc]
  · rcases Nat.eq_zero_or_pos n with rfl | positive
    · rfl
    · have leading := head_toDigits_ne_zero positive
      cases written : Nat.toDigits 10 n with
      | nil => exact absurd written Nat.toDigits_ne_nil
      | cons c cs =>
          rw [written] at digits leading
          have rest : cs.dropWhile Char.isDigit = [] := by
            rw [List.dropWhile_eq_nil_iff]
            exact fun d hd => digits d (List.mem_cons_of_mem _ hd)
          rw [afterInt, if_pos (digits c List.mem_cons_self), rest]
          simpa using leading

theorem isNumber_toString (t : Int) : isNumber (toString t).toList = true := by
  rcases Int.lt_or_le t 0 with negative | natural
  · obtain ⟨n, hn⟩ := Int.eq_ofNat_of_zero_le (show 0 ≤ -t by omega)
    have text : (toString t).toList = '-' :: Nat.toDigits 10 n := by
      rw [toString_of_neg negative, hn, String.toList_append, toString_nat_toList]
      rfl
    obtain ⟨chars, int⟩ := isNumber_digits n
    rw [isNumber, text, List.all_cons, chars, afterMinus, int]
    rfl
  · obtain ⟨n, rfl⟩ := Int.eq_ofNat_of_zero_le natural
    obtain ⟨chars, int⟩ := isNumber_digits n
    have plain : afterMinus (Nat.toDigits 10 n) = Nat.toDigits 10 n := by
      unfold afterMinus
      split
      · rename_i cs written
        have minus : '-' ∈ Nat.toDigits 10 n := written ▸ List.mem_cons_self
        exact absurd (Nat.isDigit_of_mem_toDigits (by decide) (by decide) minus) (by decide)
      · rfl
    rw [isNumber, toString_nat_toList, chars, plain, int]
    rfl

def Literal.ofInt (t : Int) : Literal := ⟨(toString t).toList, isNumber_toString t⟩

end GuardianPi.Library
