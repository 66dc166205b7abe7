import Mathlib.Data.List.Sort

namespace GuardianPi.Library

variable {α κ : Type*} [LinearOrder κ] {key : α → κ} {rows order order' : List α} {size n : Nat}

/-- One of the orders in which a database may list the rows, the greatest keys first. -/
def Ordered (key : α → κ) (rows order : List α) : Prop :=
  order.Perm rows ∧ order.Pairwise fun a b => key b ≤ key a

def fetch (order : List α) (offset limit : Nat) : List α := (order.drop offset).take limit

def pageCount (total size : Nat) : Nat := (total + size - 1) / size

def pages (orders : Nat → List α) (total size : Nat) : List α :=
  (List.range (pageCount total size)).flatMap fun k => fetch (orders k) (k * size) size

/-- The first `n` rows and the others share a key. -/
def Straddled (key : α → κ) (rows : List α) (n : Nat) : Prop :=
  ∃ v, rows.countP (fun a => v < key a) < n ∧ n < rows.countP fun a => v ≤ key a

theorem countP_reaching (rows : List α) (v : κ) : rows.countP (fun a => v ≤ key a) =
    rows.countP (fun a => v < key a) + rows.countP fun a => key a = v := by
  induction rows with
  | nil => rfl
  | cons a rows ih =>
      simp only [List.countP_cons, ih, decide_eq_true_eq]
      rcases lt_trichotomy v (key a) with below | rfl | above
      · simp only [below.le, below, below.ne', if_true, if_false]
        omega
      · simp only [le_refl, lt_irrefl, if_true, if_false]
        omega
      · simp only [above.not_ge, above.not_gt, above.ne, if_false]
        omega

theorem not_straddled_of_nodup (distinct : (rows.map key).Nodup) : ¬ Straddled key rows n := by
  rintro ⟨v, above, reaches⟩
  have once : rows.countP (fun a => key a = v) ≤ 1 := by
    have few := List.nodup_iff_count_le_one.mp distinct v
    rw [List.count, List.countP_map] at few
    exact few
  rw [countP_reaching] at reaches
  omega

theorem lt_pageCount {k total : Nat} (pos : 0 < size) : k < pageCount total size ↔ k * size < total := by
  rw [pageCount, ← Nat.succ_le_iff, Nat.le_div_iff_mul_le pos, Nat.succ_mul]
  omega

theorem place_bounds {before after : List α} {a : α}
    (sorted : (before ++ a :: after).Pairwise fun a b => key b ≤ key a) :
    (before ++ a :: after).countP (fun b => key a < key b) ≤ before.length ∧
      before.length < (before ++ a :: after).countP fun b => key a ≤ key b := by
  obtain ⟨-, rest, across⟩ := List.pairwise_append.mp sorted
  have later : ∀ b ∈ after, key b ≤ key a := (List.pairwise_cons.mp rest).1
  have earlier : ∀ b ∈ before, key a ≤ key b := fun b here => across b here a List.mem_cons_self
  constructor
  · have none : after.countP (fun b => key a < key b) = 0 := by
      simpa [List.countP_eq_zero] using later
    simp [List.countP_append, none, List.countP_le_length]
  · have all : before.countP (fun b => key a ≤ key b) = before.length := by
      simpa [List.countP_eq_length] using earlier
    simp only [List.countP_append, List.countP_cons, all, le_refl, decide_true, if_true]
    omega

theorem mem_fetch {before after : List α} {a : α} {offset limit : Nat} (distinct : (before ++ a :: after).Nodup) :
    a ∈ fetch (before ++ a :: after) offset limit ↔
      offset ≤ before.length ∧ before.length < offset + limit := by
  have once : a ∉ before ∧ a ∉ after := by
    obtain ⟨-, later, across⟩ := List.nodup_append.mp distinct
    exact ⟨fun here => across a here a List.mem_cons_self rfl, (List.nodup_cons.mp later).1⟩
  unfold fetch
  by_cases reached : offset ≤ before.length
  · have early : a ∉ (before.drop offset).take limit := fun here =>
      once.1 (List.mem_of_mem_drop (List.mem_of_mem_take here))
    rw [List.drop_append_of_le_length reached, List.take_append, List.mem_append, or_iff_right early,
      List.length_drop]
    cases left : limit - (before.length - offset) with
    | zero =>
        simp
        omega
    | succ left =>
        simp
        omega
  · have late : a ∉ ((before ++ a :: after).drop offset).take limit := by
      intro here
      obtain ⟨k, rfl⟩ : ∃ k, offset = before.length + (k + 1) := ⟨offset - before.length - 1, by omega⟩
      rw [List.drop_length_add_append, List.drop_succ_cons] at here
      exact once.2 (List.mem_of_mem_drop (List.mem_of_mem_take here))
    exact iff_of_false late fun inside => reached inside.1

theorem mem_page_iff (ordered : Ordered key rows order) (distinct : rows.Nodup) (pos : 0 < size)
    (clean : ∀ k, ¬ Straddled key rows (k * size)) {a : α} (here : a ∈ rows) (k : Nat) :
    a ∈ fetch order (k * size) size ↔ (rows.countP (fun b => key a ≤ key b) - 1) / size = k := by
  obtain ⟨perm, sorted⟩ := ordered
  obtain ⟨before, after, rfl⟩ := List.append_of_mem (perm.mem_iff.mpr here)
  obtain ⟨above, reaches⟩ := place_bounds sorted
  rw [perm.countP_eq] at above reaches
  have start : ¬ (before.length < k * size ∧ k * size < rows.countP fun b => key a ≤ key b) :=
    fun cut => clean k ⟨key a, above.trans_lt cut.1, cut.2⟩
  have finish : ¬ (before.length < (k + 1) * size ∧ (k + 1) * size < rows.countP fun b => key a ≤ key b) :=
    fun cut => clean (k + 1) ⟨key a, above.trans_lt cut.1, cut.2⟩
  rw [Nat.succ_mul] at finish
  rw [mem_fetch (perm.nodup_iff.mpr distinct), Nat.div_eq_iff pos]
  omega

theorem pages_perm (distinct : rows.Nodup) (pos : 0 < size) (clean : ∀ k, ¬ Straddled key rows (k * size))
    {orders : Nat → List α} (ordered : ∀ k, Ordered key rows (orders k)) :
    (pages orders rows.length size).Perm rows := by
  have listed : ∀ k, ∀ a ∈ fetch (orders k) (k * size) size, a ∈ rows := fun k a here =>
    (ordered k).1.mem_iff.mp (List.mem_of_mem_drop (List.mem_of_mem_take here))
  have once : (pages orders rows.length size).Nodup := by
    refine List.nodup_flatMap.mpr ⟨fun k _ => ?_, ?_⟩
    · have whole : (orders k).Nodup := (ordered k).1.nodup_iff.mpr distinct
      exact (whole.sublist (List.drop_sublist ..)).sublist (List.take_sublist ..)
    · refine List.nodup_range.imp fun {j k} apart a onJ onK => ?_
      have row := listed j a onJ
      rw [mem_page_iff (ordered j) distinct pos clean row] at onJ
      rw [mem_page_iff (ordered k) distinct pos clean row] at onK
      exact apart (onJ.symm.trans onK)
  refine (List.perm_ext_iff_of_nodup once distinct).mpr fun a => ?_
  simp only [pages, List.mem_flatMap, List.mem_range]
  constructor
  · rintro ⟨k, -, here⟩
    exact listed k a here
  · intro here
    refine ⟨_, ?_, (mem_page_iff (ordered _) distinct pos clean here _).mpr rfl⟩
    have counted : 0 < rows.countP fun b => key a ≤ key b := List.countP_pos_iff.mpr ⟨a, here, by simp⟩
    have most := List.countP_le_length (p := fun b => key a ≤ key b) (l := rows)
    rw [lt_pageCount pos]
    have below := Nat.div_mul_le_self (rows.countP (fun b => key a ≤ key b) - 1) size
    omega

theorem exists_ordered (key : α → κ) (rows : List α) : ∃ order, Ordered key rows order :=
  ⟨rows.insertionSort fun a b => key b ≤ key a, List.perm_insertionSort .., List.pairwise_insertionSort ..⟩

theorem Ordered.swap {before after : List α} {a b : α} (ordered : Ordered key rows (before ++ a :: b :: after))
    (same : key a = key b) : Ordered key rows (before ++ b :: a :: after) := by
  refine ⟨((List.Perm.swap a b after).append_left before).trans ordered.1, ?_⟩
  have sorted := ordered.2
  simp only [List.pairwise_append, List.pairwise_cons, List.mem_cons, forall_eq_or_imp] at sorted ⊢
  obtain ⟨first, ⟨⟨_, afterA⟩, afterB, last⟩, across⟩ := sorted
  exact ⟨first, ⟨⟨same.le, afterB⟩, afterA, last⟩, fun x here => ⟨(across x here).2.1, (across x here).1, (across x here).2.2⟩⟩

theorem split_pair (inside : n + 1 < order.length) :
    ∃ before a b after, order = before ++ a :: b :: after ∧ before.length = n := by
  refine ⟨order.take n, order[n], order[n + 1], order.drop (n + 2), ?_, ?_⟩
  · rw [← List.drop_eq_getElem_cons, ← List.drop_eq_getElem_cons, List.take_append_drop]
  · rw [List.length_take]
    omega

theorem straddled_pair {before after : List α} {a b : α} (ordered : Ordered key rows (before ++ a :: b :: after))
    (straddled : Straddled key rows (before.length + 1)) : key a = key b := by
  obtain ⟨v, above, reaches⟩ := straddled
  obtain ⟨perm, sorted⟩ := ordered
  have split : before ++ a :: b :: after = (before ++ [a]) ++ b :: after := by simp
  have descends : key b ≤ key a :=
    (List.pairwise_cons.mp (List.pairwise_append.mp sorted).2.1).1 b List.mem_cons_self
  have placeA := (place_bounds sorted).2
  have placeB := (place_bounds (split ▸ sorted)).1
  rw [← split, List.length_append, List.length_singleton] at placeB
  rw [perm.countP_eq] at placeA placeB
  have notAbove : key a ≤ v := by
    by_contra greater
    have fewer : rows.countP (fun c => key a ≤ key c) ≤ rows.countP fun c => v < key c :=
      List.countP_mono_left fun c _ reached => by
        simp only [decide_eq_true_eq] at reached ⊢
        exact (not_le.mp greater).trans_le reached
    omega
  have notBelow : v ≤ key b := by
    by_contra smaller
    have fewer : rows.countP (fun c => v ≤ key c) ≤ rows.countP fun c => key b < key c :=
      List.countP_mono_left fun c _ reached => by
        simp only [decide_eq_true_eq] at reached ⊢
        exact (not_le.mp smaller).trans_le reached
    omega
  exact le_antisymm (notAbove.trans notBelow) descends

theorem pages_overlap (distinct : rows.Nodup) (pos : 0 < size) {k : Nat} (straddled : Straddled key rows (k * size)) :
    ∃ orders : Nat → List α, (∀ k, Ordered key rows (orders k)) ∧ ¬ (pages orders rows.length size).Perm rows := by
  obtain ⟨v, above, reaches⟩ := straddled
  have most := List.countP_le_length (p := fun b => v ≤ key b) (l := rows)
  obtain ⟨order, ordered⟩ := exists_ordered key rows
  have sameLength := ordered.1.length_eq
  have inside : k * size - 1 + 1 < order.length := by omega
  obtain ⟨before, a, b, after, rfl, place⟩ := split_pair inside
  have place : before.length + 1 = k * size := by omega
  have sameKey := straddled_pair ordered (place ▸ ⟨v, above, reaches⟩)
  have swapped := ordered.swap sameKey
  obtain ⟨j, rfl⟩ : ∃ j, k = j + 1 := ⟨k - 1, by
    cases k with
    | zero => omega
    | succ j => rfl⟩
  rw [Nat.succ_mul] at place
  have onLast : a ∈ fetch (before ++ a :: b :: after) (j * size) size := by
    rw [mem_fetch (ordered.1.nodup_iff.mpr distinct)]
    omega
  have onNext : a ∈ fetch (before ++ b :: a :: after) ((j + 1) * size) size := by
    have split : before ++ b :: a :: after = (before ++ [b]) ++ a :: after := by simp
    rw [split, mem_fetch (split ▸ swapped.1.nodup_iff.mpr distinct), List.length_append, List.length_singleton,
      Nat.succ_mul]
    omega
  refine ⟨fun i => if i ≤ j then before ++ a :: b :: after else before ++ b :: a :: after, fun i => ?_, ?_⟩
  · dsimp only
    split_ifs
    · exact ordered
    · exact swapped
  · intro perm
    have apart := (List.nodup_flatMap.mp (perm.nodup_iff.mpr distinct)).2
    have counted : j + 1 < pageCount rows.length size := (lt_pageCount pos).mpr (by omega)
    have disjoint := List.pairwise_iff_getElem.mp apart j (j + 1) (by simp; omega) (by simpa using counted) (by omega)
    simp only [List.getElem_range, Function.onFun, le_refl, if_true, Nat.not_succ_le_self, if_false] at disjoint
    exact disjoint onLast onNext

theorem pages_perm_iff (distinct : rows.Nodup) (pos : 0 < size) :
    (∀ orders : Nat → List α, (∀ k, Ordered key rows (orders k)) → (pages orders rows.length size).Perm rows) ↔
      ∀ k, ¬ Straddled key rows (k * size) := by
  refine ⟨fun all k straddled => ?_, fun clean orders => pages_perm distinct pos clean⟩
  obtain ⟨orders, ordered, overlap⟩ := pages_overlap distinct pos straddled
  exact overlap (all orders ordered)

theorem straddled_unordered (pos : 0 < size) :
    (∀ k, ¬ Straddled (fun _ : α => ()) rows (k * size)) ↔ rows.length ≤ size := by
  constructor
  · intro clean
    by_contra more
    refine clean 1 ⟨(), ?_, ?_⟩
    · simpa using pos
    · simpa using more
  · rintro fits k ⟨v, above, reaches⟩
    have positive : 0 < k := Nat.pos_of_ne_zero fun zero => by simp [zero] at above
    have inside : k * size < rows.length := reaches.trans_le List.countP_le_length
    have first := Nat.le_mul_of_pos_left size positive
    omega

end GuardianPi.Library
