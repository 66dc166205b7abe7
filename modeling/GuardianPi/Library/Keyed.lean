import Mathlib.Data.List.Nodup

namespace GuardianPi.Library.Keyed

variable {κ α : Type*} [DecidableEq κ] (key : α → κ)

def get (xs : List α) (k : κ) : Option α := xs.find? fun x => key x = k

def replace (xs : List α) (k : κ) (y : α) : List α := xs.map fun x => if key x = k then y else x

def erase (xs : List α) (k : κ) : List α := xs.filter fun x => key x ≠ k

abbrev Distinct (xs : List α) : Prop := (xs.map key).Nodup

variable {key} {xs : List α} {k other : κ} {x y : α}

@[simp] theorem get_nil : get key [] k = none := rfl

theorem get_cons : get key (x :: xs) k = if key x = k then some x else get key xs k := by
  by_cases same : key x = k <;> simp [get, same]

theorem key_of_get (found : get key xs k = some x) : key x = k := by
  simpa using List.find?_some found

theorem mem_of_get (found : get key xs k = some x) : x ∈ xs := List.mem_of_find?_eq_some found

theorem get_eq_none_iff : get key xs k = none ↔ k ∉ xs.map key := by
  simp [get, List.find?_eq_none]

theorem get_of_mem (distinct : Distinct key xs) (member : x ∈ xs) : get key xs (key x) = some x := by
  cases found : get key xs (key x) with
  | none => exact absurd (List.mem_map_of_mem member) (get_eq_none_iff.mp found)
  | some y => rw [List.inj_on_of_nodup_map distinct (mem_of_get found) member (key_of_get found)]

theorem filter_eq (distinct : Distinct key xs) (k : κ) :
    xs.filter (fun x => key x = k) = (get key xs k).toList := by
  induction xs with
  | nil => rfl
  | cons x xs ih =>
      obtain ⟨fresh, rest⟩ := List.nodup_cons.mp distinct
      rw [get_cons]
      by_cases same : key x = k
      · subst same
        have none : get key xs (key x) = none := get_eq_none_iff.mpr fresh
        rw [List.filter_cons_of_pos (by simp), ih rest, none, if_pos rfl]
        rfl
      · rw [List.filter_cons_of_neg (by simpa using same), ih rest, if_neg same]

theorem get_append : get key (xs ++ [x]) k = (get key xs k).or (if key x = k then some x else none) := by
  rw [get, List.find?_append]
  by_cases same : key x = k <;> simp [get, same]

theorem get_append_fresh (fresh : key x ∉ xs.map key) :
    get key (xs ++ [x]) k = if k = key x then some x else get key xs k := by
  rw [get_append]
  by_cases same : key x = k
  · subst same
    rw [get_eq_none_iff.mpr fresh]
    simp
  · simp [same, Ne.symm same]

omit [DecidableEq κ] in
theorem distinct_append (distinct : Distinct key xs) (fresh : key x ∉ xs.map key) :
    Distinct key (xs ++ [x]) := by
  rw [Distinct, List.map_append, List.nodup_append]
  refine ⟨distinct, List.nodup_singleton _, ?_⟩
  rintro _ member _ last rfl
  exact fresh (List.mem_singleton.mp last ▸ member)

theorem map_key_replace (same : key y = k) : (replace key xs k y).map key = xs.map key := by
  rw [replace, List.map_map]
  apply List.map_congr_left
  intro x _
  by_cases here : key x = k <;> simp [here, same]

theorem get_replace (same : key y = k) :
    get key (replace key xs k y) other =
      if other = k then (get key xs k).map fun _ => y else get key xs other := by
  induction xs with
  | nil => simp [replace]
  | cons x xs ih =>
      have head : replace key (x :: xs) k y = (if key x = k then y else x) :: replace key xs k y := rfl
      rw [head, get_cons, ih, get_cons, get_cons]
      by_cases here : key x = k <;> by_cases there : other = k
      · simp [here, there, same]
      · simp [here, there, same, Ne.symm there]
      · simp [here, there]
      · simp [here, there]

theorem distinct_replace (distinct : Distinct key xs) (same : key y = k) : Distinct key (replace key xs k y) := by
  rw [Distinct, map_key_replace same]
  exact distinct

theorem get_erase : get key (erase key xs k) other = if other = k then none else get key xs other := by
  induction xs with
  | nil => simp [erase]
  | cons x xs ih =>
      rw [get_cons]
      by_cases here : key x = k
      · have gone : erase key (x :: xs) k = erase key xs k := List.filter_cons_of_neg (by simpa using here)
        rw [gone, ih]
        by_cases there : other = k
        · simp [there]
        · simp [there, here, Ne.symm there]
      · have kept : erase key (x :: xs) k = x :: erase key xs k := List.filter_cons_of_pos (by simpa using here)
        rw [kept, get_cons, ih]
        by_cases there : other = k
        · simp [there, here]
        · simp [there]

theorem distinct_erase (distinct : Distinct key xs) (k : κ) : Distinct key (erase key xs k) :=
  distinct.sublist (List.filter_sublist.map key)

end GuardianPi.Library.Keyed
