import Mathlib.Algebra.Order.Group.Defs
import Mathlib.Data.List.Chain
import Mathlib.Data.List.TakeWhile

namespace GuardianPi.Library

variable {T : Type*} [AddCommGroup T] [LinearOrder T] (gap : T)

/-- How many of the latest times follow one another by less than `gap`. Times stand latest first. -/
def burst : List T → Nat
  | [] => 0
  | [_] => 1
  | t :: s :: times => if t < s + gap then burst (s :: times) + 1 else 1

theorem burst_pos (t : T) (times : List T) : 0 < burst gap (t :: times) := by
  cases times with
  | nil => exact Nat.one_pos
  | cons s times =>
      rw [burst]
      split_ifs <;> exact Nat.succ_pos _

theorem lt_burst_iff (n : Nat) (times : List T) : n < burst gap times ↔
    n < times.length ∧ (times.take (n + 1)).IsChain fun t s => t < s + gap := by
  induction times generalizing n with
  | nil => simp [burst]
  | cons t times ih =>
      cases n with
      | zero => simp [burst_pos]
      | succ n =>
          cases times with
          | nil => simp [burst]
          | cons s times =>
              have shorter := ih n
              rw [burst]
              split_ifs with close
              · rw [Nat.add_lt_add_iff_right, shorter]
                simp [close]
              · simp [close]

variable [IsOrderedAddMonoid T]

theorem lt_length_recent_iff (n : Nat) {times : List T} (sorted : times.Pairwise (· ≥ ·)) (now : T) :
    n < (times.filter fun s => now < s + gap).length ↔ ∃ s ∈ times[n]?, now < s + gap := by
  induction times generalizing n with
  | nil => simp
  | cons t times ih =>
      obtain ⟨below, sorted⟩ := List.pairwise_cons.mp sorted
      by_cases recent : now < t + gap
      · cases n with
        | zero => simp [recent]
        | succ n => simpa [recent] using ih n sorted
      · have none : ∀ s ∈ t :: times, ¬ now < s + gap := by
          intro s hs close
          rcases List.mem_cons.mp hs with rfl | hs
          · exact recent close
          · exact recent (close.trans_le (add_le_add_left (below s hs) gap))
        rw [List.filter_eq_nil_iff.mpr fun s hs => by simpa using none s hs]
        constructor
        · intro h
          cases h
        · rintro ⟨s, hs, close⟩
          exact absurd close (none s (List.mem_of_getElem? hs))

section
variable (limit : Int) (I : T → Prop) [DecidablePred I]

def admitted : List T → Nat
  | [] => 0
  | t :: times =>
      admitted times + if I t ∧ (burst gap (t :: times) : Int) ≤ limit then 1 else 0

def AdmittedInBurst (times : List T) : Prop :=
  admitted gap limit I times = 0 ∨ ∃ x last rest, times = last :: rest ∧ I x ∧ x ≤ last ∧
    (last < x + gap → admitted gap limit I times ≤ burst gap times)

variable {limit I}

theorem admitted_le (nonneg : 0 ≤ limit) (short : ∀ x y, I x → I y → x ≤ y → y < x + gap)
    {times : List T} (sorted : times.Pairwise (· ≥ ·)) :
    (admitted gap limit I times : Int) ≤ limit ∧ AdmittedInBurst gap limit I times := by
  induction times with
  | nil => exact ⟨nonneg, Or.inl rfl⟩
  | cons t times ih =>
      obtain ⟨below, sorted⟩ := List.pairwise_cons.mp sorted
      obtain ⟨bound, earlier⟩ := ih sorted
      have positive := burst_pos gap t times
      by_cases admits : I t ∧ (burst gap (t :: times) : Int) ≤ limit
      · have one_more : admitted gap limit I (t :: times) = admitted gap limit I times + 1 := by
          rw [admitted, if_pos admits]
        suffices counted : ∃ x, I x ∧ x ≤ t ∧
            admitted gap limit I times + 1 ≤ burst gap (t :: times) by
          obtain ⟨x, hx, le, counted⟩ := counted
          rw [AdmittedInBurst, one_more]
          exact ⟨by have := admits.2; omega, Or.inr ⟨x, t, times, rfl, hx, le, fun _ => counted⟩⟩
        rcases earlier with zero | ⟨x, last, rest, rfl, hx, le, counts⟩
        · exact ⟨t, admits.1, le_rfl, by omega⟩
        · have next := below last List.mem_cons_self
          have close := short x t hx admits.1 (le.trans next)
          refine ⟨x, hx, le.trans next, ?_⟩
          rw [burst, if_pos (close.trans_le (add_le_add_left le gap))]
          exact Nat.succ_le_succ (counts (next.trans_lt close))
      · have same : admitted gap limit I (t :: times) = admitted gap limit I times := by
          rw [admitted, if_neg admits, Nat.add_zero]
        rw [AdmittedInBurst, same]
        refine ⟨bound, earlier.imp id ?_⟩
        rintro ⟨x, last, rest, rfl, hx, le, counts⟩
        have next := below last List.mem_cons_self
        refine ⟨x, t, _, rfl, hx, le.trans next, fun close => ?_⟩
        rw [burst, if_pos (close.trans_le (add_le_add_left le gap))]
        exact Nat.le_succ_of_le (counts (next.trans_lt close))

end

end GuardianPi.Library
