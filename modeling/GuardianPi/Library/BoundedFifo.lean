import Mathlib.Algebra.BigOperators.Group.List.Basic
import Mathlib.Algebra.Order.Ring.Int

namespace GuardianPi.Library.BoundedFifo

variable {α : Type*} (size : α → Int) (limit : Int)

def total (xs : List α) : Int := (xs.map size).sum

def shed : List α → List α
  | [] => []
  | x :: xs => if total size (x :: xs) ≤ limit then x :: xs else shed xs

def evicted : List α → List α
  | [] => []
  | x :: xs => if total size (x :: xs) ≤ limit then [] else x :: evicted xs

@[simp] theorem total_cons (x : α) (xs : List α) :
    total size (x :: xs) = size x + total size xs := by
  simp [total]

theorem evicted_append_shed (xs : List α) : evicted size limit xs ++ shed size limit xs = xs := by
  induction xs with
  | nil => rfl
  | cons x xs ih =>
      by_cases fits : total size (x :: xs) ≤ limit
      · simp only [evicted, shed, if_pos fits, List.nil_append]
      · simp only [evicted, shed, if_neg fits, List.cons_append, ih]

theorem shed_of_fits {xs : List α} (fits : total size xs ≤ limit) : shed size limit xs = xs := by
  cases xs with
  | nil => rfl
  | cons x xs => rw [shed, if_pos fits]

theorem shed_map {β : Type*} (f : β → α) (ys : List β) :
    shed size limit (ys.map f) = (shed (fun y => size (f y)) limit ys).map f := by
  induction ys with
  | nil => rfl
  | cons y ys ih =>
      have same : total size ((y :: ys).map f) = total (fun z => size (f z)) (y :: ys) := by
        simp [total, Function.comp_def]
      rw [List.map_cons, shed, shed, ← List.map_cons, same, ih]
      split_ifs <;> rfl

theorem shed_suffix (xs : List α) : shed size limit xs <:+ xs :=
  ⟨evicted size limit xs, evicted_append_shed size limit xs⟩

theorem shed_fits (xs : List α) :
    shed size limit xs = [] ∨ total size (shed size limit xs) ≤ limit := by
  induction xs with
  | nil => exact Or.inl rfl
  | cons x xs ih =>
      by_cases fits : total size (x :: xs) ≤ limit
      · rw [shed, if_pos fits]
        exact Or.inr fits
      · rw [shed, if_neg fits]
        exact ih

theorem evicted_length_le {xs dropped rest : List α} (split : xs = dropped ++ rest)
    (fits : total size rest ≤ limit) : (evicted size limit xs).length ≤ dropped.length := by
  induction xs generalizing dropped with
  | nil => simp [evicted]
  | cons x xs ih =>
      cases dropped with
      | nil =>
          obtain rfl : x :: xs = rest := split
          rw [evicted, if_pos fits]
      | cons y dropped =>
          have split' : xs = dropped ++ rest := (List.cons.inj split).2
          have shorter := ih split'
          by_cases within : total size (x :: xs) ≤ limit
          · rw [evicted, if_pos within]
            exact Nat.zero_le _
          · simpa only [evicted, if_neg within, List.length_cons, Nat.add_le_add_iff_right]
              using shorter

/-- `kept` is left of `xs` once the shortest prefix is dropped that brings the total within the
limit (all of `xs` where no prefix does). -/
def ShortestDrop (xs kept : List α) : Prop :=
  ∃ dropped, xs = dropped ++ kept ∧ (kept = [] ∨ total size kept ≤ limit) ∧
    ∀ dropped' rest, xs = dropped' ++ rest → total size rest ≤ limit →
      dropped.length ≤ dropped'.length

theorem shed_shortestDrop (xs : List α) : ShortestDrop size limit xs (shed size limit xs) :=
  ⟨evicted size limit xs, (evicted_append_shed size limit xs).symm, shed_fits size limit xs,
    fun _ _ => evicted_length_le size limit⟩

section
variable {size limit} {xs kept older newer : List α} {x : α}

theorem total_nonneg (nonneg : ∀ x, 0 ≤ size x) (xs : List α) : 0 ≤ total size xs := by
  induction xs with
  | nil => exact le_rfl
  | cons x xs ih =>
      rw [total_cons]
      exact Int.add_nonneg (nonneg x) ih

theorem total_suffix (nonneg : ∀ x, 0 ≤ size x) (h : kept <:+ xs) : total size kept ≤ total size xs := by
  obtain ⟨dropped, rfl⟩ := h
  have more := total_nonneg nonneg dropped
  rw [total, total, List.map_append, List.sum_append]
  rw [total] at more
  omega

theorem mem_shed_iff (nonneg : ∀ x, 0 ≤ size x) (nodup : (older ++ x :: newer).Nodup) :
    x ∈ shed size limit (older ++ x :: newer) ↔ total size (x :: newer) ≤ limit := by
  induction older with
  | nil =>
      rw [List.nil_append, shed]
      have gone : x ∉ newer := (List.nodup_cons.mp nodup).1
      split_ifs with fits
      · exact iff_of_true List.mem_cons_self fits
      · exact iff_of_false (fun here => gone ((shed_suffix size limit newer).subset here)) fits
  | cons y older ih =>
      rw [List.cons_append, shed]
      split_ifs with fits
      · refine iff_of_true (by simp) (le_trans (total_suffix nonneg ?_) fits)
        exact ⟨y :: older, rfl⟩
      · exact ih (List.nodup_cons.mp nodup).2

theorem suffix_shed (h : kept <:+ xs) (fits : total size kept ≤ limit) : kept <:+ shed size limit xs := by
  induction xs with
  | nil => exact h
  | cons x xs ih =>
      rw [shed]
      split_ifs with whole
      · exact h
      · rcases List.suffix_cons_iff.mp h with rfl | h
        · exact absurd fits whole
        · exact ih h

theorem shortestDrop_iff (nonneg : ∀ x, 0 ≤ size x) :
    ShortestDrop size limit xs kept ↔ kept = shed size limit xs := by
  constructor
  · rintro ⟨dropped, split, fits, shortest⟩
    by_cases within : 0 ≤ limit
    · have keptFits : total size kept ≤ limit := fits.elim (fun empty => by simpa [empty, total] using within) id
      have shedFits : total size (shed size limit xs) ≤ limit :=
        (shed_fits size limit xs).elim (fun empty => by simpa [empty, total] using within) id
      have longer := evicted_length_le size limit split keptFits
      have shorter := shortest _ _ (evicted_append_shed size limit xs).symm shedFits
      have same := split.symm.trans (evicted_append_shed size limit xs).symm
      exact (List.append_inj same (le_antisymm shorter longer)).2
    · have none {ys : List α} (h : ys = [] ∨ total size ys ≤ limit) : ys = [] :=
        h.resolve_right fun le => within ((total_nonneg nonneg ys).trans le)
      rw [none fits, none (shed_fits size limit xs)]
  · rintro rfl
    exact shed_shortestDrop size limit xs

end

inductive Op (α : Type*) where
  | enqueue (x : α)
  | dequeue
  | size

inductive Reply (α : Type*) where
  | done
  | front (x : Option α)
  | count (n : Nat)
  deriving DecidableEq

inductive Fate where
  | delivered
  | evicted
  deriving DecidableEq

def step (xs : List α) : Op α → Reply α × List (α × Fate) × List α
  | .enqueue x =>
      (.done, (evicted size limit xs).map fun y => (y, .evicted), shed size limit xs ++ [x])
  | .dequeue =>
      match xs with
      | [] => (.front none, [], [])
      | x :: rest => (.front (some x), [(x, .delivered)], rest)
  | .size => (.count xs.length, [], xs)

def perform : List α → List (Op α) → List (Reply α) × List (α × Fate) × List α
  | xs, [] => ([], [], xs)
  | xs, op :: ops =>
      let now := step size limit xs op
      let later := perform now.2.2 ops
      (now.1 :: later.1, now.2.1 ++ later.2.1, later.2.2)

def entered : List (Op α) → List α
  | [] => []
  | .enqueue x :: ops => x :: entered ops
  | _ :: ops => entered ops

def fronts : List (Reply α) → List α
  | [] => []
  | .front (some x) :: replies => x :: fronts replies
  | _ :: replies => fronts replies

def delivered (departed : List (α × Fate)) : List α :=
  (departed.filter fun p => p.2 = .delivered).map Prod.fst

theorem step_conserves (xs : List α) (op : Op α) :
    (step size limit xs op).2.1.map Prod.fst ++ (step size limit xs op).2.2 =
      xs ++ entered [op] := by
  cases op with
  | enqueue x =>
      simp only [step, List.map_map, Function.comp_def, List.map_id', entered]
      rw [← List.append_assoc, evicted_append_shed]
  | dequeue => cases xs <;> simp [step, entered]
  | size => simp [step, entered]

theorem step_delivered (xs : List α) (op : Op α) :
    delivered (step size limit xs op).2.1 = fronts [(step size limit xs op).1] := by
  cases op with
  | enqueue x => simp [step, delivered, fronts]
  | dequeue => cases xs <;> simp [step, delivered, fronts]
  | size => simp [step, delivered, fronts]

theorem entered_cons (op : Op α) (ops : List (Op α)) :
    entered (op :: ops) = entered [op] ++ entered ops := by
  cases op <;> rfl

theorem fronts_cons (r : Reply α) (rs : List (Reply α)) : fronts (r :: rs) = fronts [r] ++ fronts rs := by
  match r with
  | .done | .count _ | .front none | .front (some _) => rfl

theorem perform_conserves (xs : List α) (ops : List (Op α)) :
    (perform size limit xs ops).2.1.map Prod.fst ++ (perform size limit xs ops).2.2 =
      xs ++ entered ops := by
  induction ops generalizing xs with
  | nil => simp [perform, entered]
  | cons op ops ih =>
      rw [entered_cons, ← List.append_assoc, ← step_conserves size limit xs op]
      simp only [perform, List.map_append, List.append_assoc, ih]

theorem perform_delivered (xs : List α) (ops : List (Op α)) :
    delivered (perform size limit xs ops).2.1 = fronts (perform size limit xs ops).1 := by
  induction ops generalizing xs with
  | nil => rfl
  | cons op ops ih =>
      have now := step_delivered size limit xs op
      simp only [delivered] at now ih
      rw [perform, fronts_cons]
      simp only [delivered, List.filter_append, List.map_append, now, ih]

end GuardianPi.Library.BoundedFifo
