import Mathlib.Data.List.Rotate

namespace GuardianPi.Library.Rotation

variable {α : Type*} (accepts : α → Bool)

/-- One pass over a queue: entries are taken from its front until one is refused, which goes to its
back. The first list are the entries that were taken. -/
def pass : List α → List α × List α
  | [] => ([], [])
  | x :: xs => if accepts x then (x :: (pass xs).1, (pass xs).2) else ([], xs ++ [x])

def passes : Nat → List α → List α × List α
  | 0, xs => ([], xs)
  | n + 1, xs =>
      let r := pass accepts xs
      (r.1 ++ (passes n r.2).1, (passes n r.2).2)

variable {accepts} {x : α} {xs back : List α}

theorem pass_accepted (accepted : accepts x = true) :
    pass accepts (x :: xs) = (x :: (pass accepts xs).1, (pass accepts xs).2) := if_pos accepted

theorem pass_refused (refused : accepts x = false) : pass accepts (x :: xs) = ([], xs ++ [x]) :=
  if_neg (by simp [refused])

theorem passes_accepted (accepted : accepts x = true) (n : Nat) :
    passes accepts (n + 1) (x :: xs) =
      (x :: (passes accepts (n + 1) xs).1, (passes accepts (n + 1) xs).2) := by
  simp only [passes, pass_accepted accepted, List.cons_append]

theorem passes_refused (refused : accepts x = false) (n : Nat) :
    passes accepts (n + 1) (x :: xs) = passes accepts n (xs ++ [x]) := by
  simp only [passes, pass_refused refused, List.nil_append]

theorem passes_all_refused (all : ∀ x ∈ back, accepts x = false) (n : Nat) :
    passes accepts n back = ([], back.rotate n) := by
  induction n generalizing back with
  | zero => rw [List.rotate_zero, passes]
  | succ n ih =>
      cases back with
      | nil =>
          rw [passes, pass, ih all]
          simp
      | cons x back =>
          rw [passes_refused (all x List.mem_cons_self), List.rotate_cons_succ]
          apply ih
          intro y member
          exact all y (by simpa [or_comm] using member)

theorem passes_append (xs : List α) {back : List α} (refused : ∀ x ∈ back, accepts x = false) (n : Nat) :
    passes accepts (xs.countP (fun x => !accepts x) + (n + 1)) (xs ++ back) =
      (xs.filter accepts, (back ++ xs.filter fun x => !accepts x).rotate (n + 1)) := by
  induction xs generalizing back with
  | nil => simpa using passes_all_refused refused (n + 1)
  | cons x xs ih =>
      cases accepted : accepts x with
      | true =>
          have count : (x :: xs).countP (fun x => !accepts x) + (n + 1) =
              xs.countP (fun x => !accepts x) + n + 1 := by simp [accepted, Nat.add_assoc]
          rw [count, List.cons_append, passes_accepted accepted, Nat.add_assoc, ih refused]
          simp [accepted]
      | false =>
          have later : ∀ y ∈ back ++ [x], accepts y = false :=
            List.forall_mem_append.mpr ⟨refused, List.forall_mem_singleton.mpr accepted⟩
          have count : (x :: xs).countP (fun x => !accepts x) + (n + 1) =
              xs.countP (fun x => !accepts x) + (n + 1) + 1 := by
            simp [accepted]
            omega
          rw [count, List.cons_append, passes_refused accepted, List.append_assoc, ih later]
          simp [accepted]

theorem passes_eq {n : Nat} (many : xs.countP (fun x => !accepts x) < n) :
    passes accepts n xs = (xs.filter accepts, (xs.filter fun x => !accepts x).rotate n) := by
  obtain ⟨j, rfl⟩ : ∃ j, n = xs.countP (fun x => !accepts x) + (j + 1) :=
    ⟨n - xs.countP (fun x => !accepts x) - 1, by omega⟩
  have whole := passes_append xs (List.forall_mem_nil fun x => accepts x = false) j
  rw [List.append_nil, List.nil_append] at whole
  rw [whole, List.countP_eq_length_filter, ← List.rotate_rotate _ (List.length _), List.rotate_length]

end GuardianPi.Library.Rotation
