import Mathlib.Order.Monotone.Defs
import Mathlib.Data.List.Basic

namespace GuardianPi.Library

variable {K β : Type} [Preorder K] [DecidableLT K]

/-- The value of the first step that a reading is above. -/
def climb (bottom : β) : List (K × β) → K → β
  | [], _ => bottom
  | (above, value) :: steps, x => if above < x then value else climb bottom steps x

variable {bottom : β} {steps : List (K × β)}

theorem climb_mem (bottom : β) (steps : List (K × β)) (x : K) :
    climb bottom steps x ∈ steps.map Prod.snd ++ [bottom] := by
  induction steps with
  | nil => exact List.mem_singleton_self bottom
  | cons step steps ih =>
      rw [climb]
      split_ifs
      · exact List.mem_cons_self
      · exact List.mem_cons_of_mem _ ih

theorem climb_monotone [Preorder β] (descending : (steps.map Prod.snd ++ [bottom]).Pairwise (· ≥ ·)) :
    Monotone (climb bottom steps) := by
  intro x y le
  induction steps with
  | nil => exact le_refl bottom
  | cons step steps ih =>
      obtain ⟨most, rest⟩ := List.pairwise_cons.mp descending
      rw [climb, climb]
      by_cases first : step.1 < x
      · rw [if_pos first, if_pos (first.trans_le le)]
      · rw [if_neg first]
        split_ifs
        · exact most _ (climb_mem bottom steps x)
        · exact ih rest

end GuardianPi.Library
