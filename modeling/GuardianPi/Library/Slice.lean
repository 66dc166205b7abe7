import Mathlib.Data.List.Basic

namespace GuardianPi.Library

/-- A slice over a backing array of its own; cells from `len` on are spare or stale. -/
structure Slice (α : Type*) where
  backing : List α
  len : Nat
  bound : len ≤ backing.length

namespace Slice

variable {α : Type*}

def toList (s : Slice α) : List α := s.backing.take s.len

def make [Inhabited α] (cap : Nat) : Slice α := ⟨List.replicate cap default, 0, Nat.zero_le _⟩

def append (s : Slice α) (x : α) : Slice α :=
  if h : s.len < s.backing.length then
    ⟨s.backing.set s.len x, s.len + 1, by rw [List.length_set]; exact h⟩
  else ⟨s.toList ++ [x], s.len + 1, by simp [toList, s.bound]⟩

def reset (s : Slice α) : Slice α := ⟨s.backing, 0, Nat.zero_le _⟩

@[simp] theorem toList_make [Inhabited α] (cap : Nat) : (make cap : Slice α).toList = [] := by
  simp [make, toList]

@[simp] theorem toList_reset (s : Slice α) : s.reset.toList = [] := by
  simp [reset, toList]

theorem length_toList (s : Slice α) : s.toList.length = s.len := by
  simp [toList, s.bound]

@[simp] theorem toList_append (s : Slice α) (x : α) : (s.append x).toList = s.toList ++ [x] := by
  unfold append
  split_ifs with room
  · simp only [toList]
    rw [List.take_add_one, List.take_set_of_le (Nat.le_refl _), List.getElem?_set_self room]
    rfl
  · exact List.take_of_length_le (by simp [length_toList])

@[simp] theorem len_append (s : Slice α) (x : α) : (s.append x).len = s.len + 1 := by
  unfold append
  split_ifs <;> rfl

end Slice

end GuardianPi.Library
