import Mathlib.Algebra.Ring.Nat
import Mathlib.Data.List.Count
import Mathlib.Data.List.Dedup
import Mathlib.Data.List.Nodup

namespace GuardianPi.Library

variable {α κ : Type*} {p q : α → Bool}

theorem countP_add_countP (disjoint : ∀ x, p x = true → q x = false) (xs : List α) :
    xs.countP p + xs.countP q = xs.countP fun x => p x || q x := by
  induction xs with
  | nil => rfl
  | cons x xs ih =>
      rw [List.countP_cons, List.countP_cons, List.countP_cons, ← ih]
      cases here : p x with
      | true =>
          rw [disjoint x here]
          simp
          omega
      | false =>
          cases q x <;> simp
          omega

theorem countP_add_countP_le (disjoint : ∀ x, p x = true → q x = false) (xs : List α) :
    xs.countP p + xs.countP q ≤ xs.length := by
  rw [countP_add_countP disjoint]
  exact List.countP_le_length

theorem sum_countP_eq_countP [DecidableEq κ] (key : α → κ) {keys : List κ} (distinct : keys.Nodup) (xs : List α) :
    (keys.map fun k => xs.countP fun x => key x = k).sum = xs.countP fun x => key x ∈ keys := by
  induction keys with
  | nil => simp
  | cons k keys ih =>
      obtain ⟨absent, distinct⟩ := List.nodup_cons.mp distinct
      have disjoint : ∀ x, decide (key x = k) = true → decide (key x ∈ keys) = false := by
        intro x here
        rw [of_decide_eq_true here]
        exact decide_eq_false absent
      rw [List.map_cons, List.sum_cons, ih distinct, countP_add_countP disjoint]
      exact List.countP_congr fun x _ => by simp

theorem sum_countP_eq_length [DecidableEq κ] (key : α → κ) {keys : List κ} (distinct : keys.Nodup) {xs : List α}
    (listed : ∀ x ∈ xs, key x ∈ keys) : (keys.map fun k => xs.countP fun x => key x = k).sum = xs.length := by
  rw [sum_countP_eq_countP key distinct, List.countP_eq_length]
  exact fun x member => decide_eq_true (listed x member)

theorem countP_unmarked [DecidableEq κ] (key : α → κ) {xs : List α} {marked : List κ} (distinct : (xs.map key).Nodup)
    (known : ∀ k ∈ marked, k ∈ xs.map key) :
    xs.countP (fun x => key x ∉ marked) + marked.dedup.length = xs.length := by
  have reached : marked.dedup.Perm ((xs.map key).filter fun k => k ∈ marked) := by
    rw [List.perm_ext_iff_of_nodup marked.nodup_dedup (distinct.filter _)]
    intro k
    simp only [List.mem_dedup, List.mem_filter, decide_eq_true_eq]
    exact ⟨fun member => ⟨known k member, member⟩, fun h => h.2⟩
  rw [reached.length_eq, ← List.countP_eq_length_filter, List.countP_map]
  have parts := List.length_eq_countP_add_countP (fun x => decide (key x ∉ marked)) (l := xs)
  simpa [Function.comp_def] using parts.symm

end GuardianPi.Library
