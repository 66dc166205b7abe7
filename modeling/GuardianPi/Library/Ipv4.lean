import Mathlib.Tactic.Ring
import Mathlib.Data.Nat.Basic
import Mathlib.Algebra.Order.Group.Nat

namespace GuardianPi.Library

structure Ipv4 where
  a : Nat
  b : Nat
  c : Nat
  d : Nat
  octets : a < 256 ∧ b < 256 ∧ c < 256 ∧ d < 256

namespace Ipv4

def value (x : Ipv4) : Nat := ((x.a * 256 + x.b) * 256 + x.c) * 256 + x.d

/-- The addresses that agree with one in their first bits. -/
structure Network where
  base : Ipv4
  bits : Nat

def Network.Contains (n : Network) (x : Ipv4) : Prop :=
  x.value / 2 ^ (32 - n.bits) = n.base.value / 2 ^ (32 - n.bits)

theorem two_pow_split {k : Nat} (h : k ≤ 8) : 2 ^ 8 = 2 ^ k * 2 ^ (8 - k) := by
  rw [← pow_add, Nat.add_sub_cancel' h]

theorem value_div (x : Ipv4) {k : Nat} (h : k ≤ 8) :
    x.value / 2 ^ (32 - (8 + k)) = 2 ^ k * x.a + x.b / 2 ^ (8 - k) := by
  have shift : 2 ^ (32 - (8 + k)) = 2 ^ 16 * 2 ^ (8 - k) := by
    rw [← pow_add]
    congr 1
    omega
  have upper : x.value / 2 ^ 16 = 2 ^ 8 * x.a + x.b := by
    obtain ⟨-, -, c, d⟩ := x.octets
    simp only [value]
    omega
  calc x.value / 2 ^ (32 - (8 + k))
      = (2 ^ (8 - k) * (2 ^ k * x.a) + x.b) / 2 ^ (8 - k) := by
        rw [shift, ← Nat.div_div_eq_div_mul, upper, two_pow_split h]
        ring_nf
    _ = 2 ^ k * x.a + x.b / 2 ^ (8 - k) := Nat.mul_add_div (Nat.two_pow_pos _) _ _

theorem second_div_lt (x : Ipv4) {k : Nat} (h : k ≤ 8) : x.b / 2 ^ (8 - k) < 2 ^ k := by
  apply Nat.div_lt_of_lt_mul
  rw [mul_comm, ← two_pow_split h]
  exact x.octets.2.1

theorem contains_iff (base x : Ipv4) {k : Nat} (h : k ≤ 8) :
    (Network.mk base (8 + k)).Contains x ↔ x.a = base.a ∧ x.b / 2 ^ (8 - k) = base.b / 2 ^ (8 - k) := by
  have first (y : Ipv4) : (2 ^ k * y.a + y.b / 2 ^ (8 - k)) / 2 ^ k = y.a := by
    rw [Nat.mul_add_div (Nat.two_pow_pos k), Nat.div_eq_of_lt (y.second_div_lt h), Nat.add_zero]
  rw [Network.Contains, value_div x h, value_div base h]
  constructor
  · intro same
    have a : x.a = base.a := by rw [← first x, same, first base]
    rw [a] at same
    exact ⟨a, Nat.add_left_cancel same⟩
  · intro ⟨a, b⟩
    rw [a, b]

end Ipv4

end GuardianPi.Library
