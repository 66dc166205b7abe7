import Mathlib.Data.List.DropRight
import Mathlib.Data.List.Lex
import Mathlib.Order.Monotone.Defs
import Mathlib.Data.Nat.Digits.Defs

namespace GuardianPi.Library

structure DottedVersion where
  text : String
  dotted : ∀ part ∈ text.toList.splitOn '.', part ≠ [] ∧ part.all Char.isDigit = true

namespace DottedVersion

def components (v : DottedVersion) : List Nat :=
  (v.text.toList.splitOn '.').map fun part => Nat.ofDigitChars 10 part 0

/-- A component that is not there counts as zero, so zeros at the end do not count. -/
def key (v : DottedVersion) : List Nat := v.components.rdropWhile (· = 0)

instance : Preorder DottedVersion := Preorder.lift key

instance (v w : DottedVersion) : Decidable (v < w) := inferInstanceAs (Decidable (v.key < w.key))

theorem le_iff_not_lt {v w : DottedVersion} : w ≤ v ↔ ¬ v < w :=
  (not_lt (a := v.key) (b := w.key)).symm

end DottedVersion

example : (⟨"1.9", by decide +kernel⟩ : DottedVersion) < ⟨"1.10.0", by decide +kernel⟩ := by decide +kernel

end GuardianPi.Library
