import Mathlib.Data.List.Basic
import Mathlib.Data.List.DropRight
import Mathlib.Data.List.Infix

namespace GuardianPi.Library

variable {α : Type} {sep : α}

theorem append_cons_inj {u v s t : List α} (hu : sep ∉ u) (hv : sep ∉ v) :
    u ++ sep :: s = v ++ sep :: t ↔ u = v ∧ s = t := by
  induction u generalizing v with
  | nil =>
      cases v with
      | nil => simp
      | cons head tail => simp [List.ne_of_not_mem_cons hv]
  | cons head tail ih =>
      cases v with
      | nil => simp [(List.ne_of_not_mem_cons hu).symm]
      | cons head' tail' =>
          simp [ih (List.not_mem_of_not_mem_cons hu) (List.not_mem_of_not_mem_cons hv), and_assoc]

theorem append_cons_prefix_iff {u v : List α} (hu : sep ∉ u) (hv : sep ∉ v) (s t : List α) :
    u ++ sep :: s <+: v ++ sep :: t ↔ u = v ∧ s <+: t := by
  simp only [List.IsPrefix, List.append_assoc, List.cons_append, append_cons_inj hu hv, exists_and_left]

theorem prefix_cons_of_not_mem {w v : List α} (free : sep ∉ w) (h : w <+: sep :: v) : w = [] := by
  cases w with
  | nil => rfl
  | cons a w =>
      obtain ⟨rfl, -⟩ := List.cons_prefix_cons.mp h
      exact absurd List.mem_cons_self free

theorem infix_append_cons_iff {w : List α} (free : sep ∉ w) (u v : List α) :
    w <:+: u ++ sep :: v ↔ w <:+: u ∨ w <:+: v := by
  rw [List.infix_append_iff, List.infix_cons_iff]
  constructor
  · rintro (left | (starts | right) | ⟨l, r, rfl, ends, starts⟩)
    · exact .inl left
    · rw [prefix_cons_of_not_mem free starts]
      exact .inl List.nil_infix
    · exact .inr right
    · have none : r = [] := prefix_cons_of_not_mem (fun h => free (List.mem_append_right l h)) starts
      rw [none, List.append_nil]
      exact .inl ends.isInfix
  · rintro (left | right)
    · exact .inl left
    · exact .inr (.inl (.inr right))

@[elab_as_elim]
theorem separated_induction (sep : α) {motive : List α → Prop} (last : ∀ text, sep ∉ text → motive text)
    (more : ∀ front tail, sep ∉ front → motive tail → motive (front ++ sep :: tail)) (text : List α) :
    motive text := by
  induction h : text.length using Nat.strongRecOn generalizing text with
  | ind n ih =>
      by_cases found : sep ∈ text
      · obtain ⟨front, tail, rfl, free⟩ := List.eq_append_cons_of_mem found
        have shorter : tail.length < n := by
          rw [← h, List.length_append, List.length_cons]
          omega
        exact more front tail free (ih tail.length shorter tail rfl)
      · exact last text found

section
variable [DecidableEq α]

theorem splitOn_cons_cons {text a b : List α} {rest : List (List α)} (split : text.splitOn sep = a :: b :: rest) :
    ∃ tail, text = a ++ sep :: tail ∧ sep ∉ a ∧ tail.splitOn sep = b :: rest := by
  induction text using separated_induction sep with
  | last text free =>
      rw [List.splitOn_eq_singleton free] at split
      cases split
  | more front tail free =>
      rw [List.splitOn_append_cons_self_of_not_mem free] at split
      obtain ⟨rfl, rest⟩ := List.cons.inj split
      exact ⟨tail, rfl, free, rest⟩

theorem splitOn_map {β : Type} [DecidableEq β] {sep' : β} {f : α → β} (kept : ∀ a, f a = sep' ↔ a = sep)
    (text : List α) : (text.map f).splitOn sep' = (text.splitOn sep).map (List.map f) := by
  have free : ∀ part : List α, sep ∉ part → sep' ∉ part.map f := by
    intro part free found
    obtain ⟨a, member, equal⟩ := List.mem_map.mp found
    exact free ((kept a).mp equal ▸ member)
  induction text using separated_induction sep with
  | last text single =>
      rw [List.splitOn_eq_singleton single, List.splitOn_eq_singleton (free text single)]
      rfl
  | more front tail first ih =>
      rw [List.map_append, List.map_cons, (kept sep).mpr rfl,
        List.splitOn_append_cons_self_of_not_mem (free front first), ih,
        List.splitOn_append_cons_self_of_not_mem first]
      rfl

theorem splitOn_append_of_not_mem {w : List α} (free : sep ∉ w) {text last : List α} {parts : List (List α)}
    (split : text.splitOn sep = parts ++ [last]) : (text ++ w).splitOn sep = parts ++ [last ++ w] := by
  induction text using separated_induction sep generalizing parts with
  | last text single =>
      rw [List.splitOn_eq_singleton single] at split
      obtain ⟨rfl, rfl⟩ : parts = [] ∧ last = text := by
        cases parts with
        | nil => exact ⟨rfl, (List.cons.inj split).1.symm⟩
        | cons part parts => simp at split
      exact List.splitOn_eq_singleton (by simpa using ⟨single, free⟩)
  | more front tail first ih =>
      rw [List.splitOn_append_cons_self_of_not_mem first] at split
      cases parts with
      | nil => exact absurd (List.cons.inj split).2 (List.splitOn_ne_nil sep tail)
      | cons part parts =>
          obtain ⟨rfl, rest⟩ := List.cons.inj split
          rw [List.append_assoc, List.cons_append, List.splitOn_append_cons_self_of_not_mem first, ih rest]
          rfl

theorem infix_iff_splitOn {w : List α} (free : sep ∉ w) (text : List α) :
    w <:+: text ↔ ∃ line ∈ text.splitOn sep, w <:+: line := by
  induction text using separated_induction sep with
  | last text single => simp [List.splitOn_eq_singleton single]
  | more front tail first ih =>
      rw [List.splitOn_append_cons_self_of_not_mem first, List.exists_mem_cons_iff, infix_append_cons_iff free, ih]

theorem mem_iff_splitOn {a : α} (other : a ≠ sep) (text : List α) :
    a ∈ text ↔ ∃ line ∈ text.splitOn sep, a ∈ line := by
  have free : sep ∉ [a] := by simpa using other.symm
  simpa only [List.singleton_infix_iff] using infix_iff_splitOn free text

theorem not_mem_of_mem_splitOn (text : List α) : ∀ line ∈ text.splitOn sep, sep ∉ line := by
  induction text using separated_induction sep with
  | last text single => simpa [List.splitOn_eq_singleton single] using single
  | more front tail first ih =>
      rw [List.splitOn_append_cons_self_of_not_mem first, List.forall_mem_cons]
      exact ⟨first, ih⟩

end

theorem dropWhile_append_of_neg {p : α → Bool} {xs : List α} (nonempty : xs ≠ [])
    (solid : ∀ a ∈ xs, p a = false) (ys : List α) : (xs ++ ys).dropWhile p = xs ++ ys := by
  cases xs with
  | nil => exact absurd rfl nonempty
  | cons a xs => exact List.dropWhile_cons_of_neg (by simp [solid a List.mem_cons_self])

theorem strip_append {p : α → Bool} {xs ys : List α} (nonempty : xs ≠ [])
    (solid : ∀ a ∈ xs, p a = false) (blank : ∀ a ∈ ys, p a = true) :
    ((xs ++ ys).dropWhile p).rdropWhile p = xs := by
  have reversed : xs.reverse.dropWhile p = xs.reverse := by
    simpa using dropWhile_append_of_neg (by simpa using nonempty) (fun a h => solid a (List.mem_reverse.mp h)) []
  rw [dropWhile_append_of_neg nonempty solid, List.rdropWhile, List.reverse_append,
    List.dropWhile_append_of_pos fun a h => blank a (List.mem_reverse.mp h), reversed, List.reverse_reverse]

end GuardianPi.Library
