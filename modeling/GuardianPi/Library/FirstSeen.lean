import Mathlib.Data.Finset.Card
import Mathlib.Data.List.Nodup
import Mathlib.Data.List.TakeWhile

/-! # Reporting each key once

Items come in rounds. An item is reported when no item before it, in this round or an earlier one,
has its key. -/

namespace GuardianPi.Library.FirstSeen

variable {α κ : Type*} [DecidableEq κ] (key : α → κ)

def fresh (seen : List κ) : List α → List α
  | [] => []
  | a :: as => if key a ∈ seen then fresh seen as else a :: fresh (key a :: seen) as

def mark (seen : List κ) : List α → List κ
  | [] => seen
  | a :: as => if key a ∈ seen then mark seen as else mark (key a :: seen) as

def rounds (seen : List κ) : List (List α) → List (List α)
  | [] => []
  | as :: rest => fresh key seen as :: rounds (mark key seen as) rest

theorem mem_mark {seen : List κ} {as : List α} {k : κ} :
    k ∈ mark key seen as ↔ k ∈ seen ∨ ∃ a ∈ as, key a = k := by
  induction as generalizing seen with
  | nil => simp [mark]
  | cons a as ih =>
      unfold mark
      split_ifs with known
      · rw [ih, List.exists_mem_cons_iff]
        constructor
        · intro h
          exact h.imp_right Or.inr
        · rintro (h | rfl | h)
          · exact Or.inl h
          · exact Or.inl known
          · exact Or.inr h
      · rw [ih, List.mem_cons, List.exists_mem_cons_iff, eq_comm, or_comm (a := key a = k), or_assoc]

theorem fresh_sublist (seen : List κ) (as : List α) : (fresh key seen as).Sublist as := by
  induction as generalizing seen with
  | nil => exact List.Sublist.refl _
  | cons a as ih =>
      unfold fresh
      split_ifs
      · exact (ih seen).cons a
      · exact (ih _).cons_cons a

theorem key_not_mem_of_mem_fresh {seen : List κ} {as : List α} {a : α}
    (h : a ∈ fresh key seen as) : key a ∉ seen := by
  induction as generalizing seen with
  | nil => cases h
  | cons b as ih =>
      unfold fresh at h
      split_ifs at h with known
      · exact ih h
      · rcases List.mem_cons.mp h with rfl | h
        · exact known
        · intro member
          exact ih h (List.mem_cons_of_mem _ member)

theorem fresh_nodup (seen : List κ) (as : List α) : ((fresh key seen as).map key).Nodup := by
  induction as generalizing seen with
  | nil => exact List.nodup_nil
  | cons a as ih =>
      unfold fresh
      split_ifs
      · exact ih seen
      · refine List.nodup_cons.mpr ⟨?_, ih _⟩
        intro again
        obtain ⟨b, member, same⟩ := List.mem_map.mp again
        apply key_not_mem_of_mem_fresh key member
        rw [same]
        exact List.mem_cons_self

theorem exists_fresh {seen : List κ} {as : List α} {a : α} (member : a ∈ as)
    (unseen : key a ∉ seen) : ∃ b ∈ fresh key seen as, key b = key a := by
  induction as generalizing seen with
  | nil => cases member
  | cons c as ih =>
      unfold fresh
      by_cases same : key c = key a
      · rw [if_neg (same ▸ unseen)]
        exact ⟨c, List.mem_cons_self, same⟩
      · have later : a ∈ as := by
          apply (List.mem_cons.mp member).resolve_left
          rintro rfl
          exact same rfl
        split_ifs
        · exact ih later unseen
        · have still : key a ∉ key c :: seen := by
            intro hit
            rcases List.mem_cons.mp hit with hit | hit
            · exact same hit.symm
            · exact unseen hit
          obtain ⟨b, hb, equal⟩ := ih later still
          exact ⟨b, List.mem_cons_of_mem _ hb, equal⟩

theorem mem_map_fresh {seen : List κ} {as : List α} {k : κ} :
    k ∈ (fresh key seen as).map key ↔ k ∈ as.map key ∧ k ∉ seen := by
  constructor
  · intro member
    obtain ⟨a, new, rfl⟩ := List.mem_map.mp member
    exact ⟨List.mem_map_of_mem ((fresh_sublist key seen as).subset new), key_not_mem_of_mem_fresh key new⟩
  · rintro ⟨member, unseen⟩
    obtain ⟨a, among, rfl⟩ := List.mem_map.mp member
    obtain ⟨b, new, same⟩ := exists_fresh key among unseen
    exact List.mem_map.mpr ⟨b, new, same⟩

theorem length_fresh (seen : List κ) (as : List α) :
    (fresh key seen as).length = ((as.map key).toFinset \ seen.toFinset).card := by
  rw [← List.length_map (f := key), ← List.toFinset_card_of_nodup (fresh_nodup key seen as)]
  congr 1
  ext k
  rw [List.mem_toFinset, mem_map_fresh, Finset.mem_sdiff, List.mem_toFinset, List.mem_toFinset]

theorem mem_fresh_iff {seen : List κ} {as : List α} {a : α} :
    a ∈ fresh key seen as ↔ key a ∉ seen ∧ as.find? (fun b => key b = key a) = some a := by
  induction as generalizing seen with
  | nil => simp [fresh]
  | cons c as ih =>
      rw [fresh, List.find?_cons]
      by_cases same : key c = key a
      · rw [decide_eq_true same]
        split_ifs with known
        · rw [ih]
          rw [same] at known
          exact iff_of_false (fun h => h.1 known) (fun h => h.1 known)
        · rw [List.mem_cons, ih, ← same]
          simp [known, eq_comm]
      · rw [decide_eq_false same]
        split_ifs with known
        · exact ih
        · rw [List.mem_cons, ih, List.mem_cons]
          have differ : a ≠ c := fun equal => same (equal ▸ rfl)
          simp [differ, Ne.symm same]

theorem fresh_append (seen : List κ) (as bs : List α) :
    fresh key seen (as ++ bs) = fresh key seen as ++ fresh key (mark key seen as) bs := by
  induction as generalizing seen with
  | nil => rfl
  | cons a as ih =>
      rw [List.cons_append, fresh, fresh, mark]
      split_ifs
      · exact ih seen
      · rw [ih, List.cons_append]

theorem mark_append (seen : List κ) (as bs : List α) :
    mark key seen (as ++ bs) = mark key (mark key seen as) bs := by
  induction as generalizing seen with
  | nil => rfl
  | cons a as ih =>
      rw [List.cons_append, mark, mark]
      split_ifs
      · exact ih seen
      · exact ih _

theorem fresh_concat (seen : List κ) (as : List α) (a : α) : fresh key seen (as ++ [a]) =
    fresh key seen as ++ if key a ∈ mark key seen as then [] else [a] := by
  rw [fresh_append]
  rfl

theorem mark_concat (seen : List κ) (as : List α) (a : α) : mark key seen (as ++ [a]) =
    if key a ∈ mark key seen as then mark key seen as else key a :: mark key seen as := by
  rw [mark_append]
  rfl

variable {key}

theorem rounds_getElem? (seen : List κ) (groups : List (List α)) (i : Nat) : (rounds key seen groups)[i]? =
    groups[i]?.map (fresh key (mark key seen (groups.take i).flatten)) := by
  induction groups generalizing seen i with
  | nil => rfl
  | cons as rest ih =>
      cases i with
      | zero => rfl
      | succ i =>
          rw [rounds, List.getElem?_cons_succ, List.getElem?_cons_succ, List.take_succ_cons, List.flatten_cons,
            mark_append]
          exact ih _ _

theorem flatten_rounds (seen : List κ) (groups : List (List α)) :
    (rounds key seen groups).flatten = fresh key seen groups.flatten := by
  induction groups generalizing seen with
  | nil => rfl
  | cons as rest ih => rw [rounds, List.flatten_cons, List.flatten_cons, fresh_append, ih]

theorem length_rounds (seen : List κ) (groups : List (List α)) :
    (rounds key seen groups).length = groups.length := by
  induction groups generalizing seen with
  | nil => rfl
  | cons as rest ih => rw [rounds, List.length_cons, ih, List.length_cons]

section
variable {seen : List κ} {groups : List (List α)} {i : Nat} {bs : List α} {b : α}
  (h : (rounds key seen groups)[i]? = some bs)
include h

theorem fresh_of_rounds : ∃ as, groups[i]? = some as ∧
    fresh key (mark key seen (groups.take i).flatten) as = bs := by
  rw [rounds_getElem?] at h
  exact Option.map_eq_some_iff.mp h

theorem key_not_mem_of_mem_rounds (member : b ∈ bs) : key b ∉ seen := by
  obtain ⟨as, -, rfl⟩ := fresh_of_rounds h
  intro known
  exact key_not_mem_of_mem_fresh key member ((mem_mark key).mpr (Or.inl known))

theorem mem_of_mem_rounds (member : b ∈ bs) : ∃ as, groups[i]? = some as ∧ b ∈ as := by
  obtain ⟨as, here, rfl⟩ := fresh_of_rounds h
  exact ⟨as, here, (fresh_sublist key _ as).subset member⟩

theorem rounds_nodup : (bs.map key).Nodup := by
  obtain ⟨as, -, rfl⟩ := fresh_of_rounds h
  exact fresh_nodup key _ as

end

theorem rounds_unique {seen : List κ} {groups : List (List α)} {i j : Nat} {as bs : List α} {a b : α}
    (hi : (rounds key seen groups)[i]? = some as) (ha : a ∈ as)
    (hj : (rounds key seen groups)[j]? = some bs) (hb : b ∈ bs) (same : key a = key b) :
    i = j ∧ a = b := by
  induction groups generalizing seen i j with
  | nil => cases hi
  | cons cs rest ih =>
      have first : ∀ {c d : α} {k : Nat} {ds : List α}, c ∈ fresh key seen cs →
          (rounds key (mark key seen cs) rest)[k]? = some ds → d ∈ ds → key c ≠ key d := by
        intro c d k ds hc hk hd equal
        apply key_not_mem_of_mem_rounds hk hd
        exact (mem_mark key).mpr (Or.inr ⟨c, (fresh_sublist key seen cs).subset hc, equal⟩)
      cases i with
      | zero =>
          obtain rfl := Option.some.inj hi
          cases j with
          | zero =>
              obtain rfl := Option.some.inj hj
              exact ⟨rfl, List.inj_on_of_nodup_map (fresh_nodup key seen cs) ha hb same⟩
          | succ j => exact absurd same (first ha hj hb)
      | succ i =>
          cases j with
          | zero =>
              obtain rfl := Option.some.inj hj
              exact absurd same.symm (first hb hi ha)
          | succ j =>
              obtain ⟨rfl, equal⟩ := ih hi hj
              exact ⟨rfl, equal⟩

theorem rounds_cover {seen : List κ} {groups : List (List α)} {i : Nat} {as : List α} {a : α}
    (hi : groups[i]? = some as) (ha : a ∈ as) (unseen : key a ∉ seen) :
    ∃ j ≤ i, ∃ bs, (rounds key seen groups)[j]? = some bs ∧ ∃ b ∈ bs, key b = key a := by
  induction groups generalizing seen i with
  | nil => cases hi
  | cons cs rest ih =>
      by_cases now : ∃ c ∈ cs, key c = key a
      · obtain ⟨c, hc, equal⟩ := now
        obtain ⟨b, hb, same⟩ := exists_fresh key hc (equal ▸ unseen)
        exact ⟨0, Nat.zero_le i, _, rfl, b, hb, same.trans equal⟩
      · cases i with
        | zero =>
            obtain rfl := Option.some.inj hi
            exact absurd ⟨a, ha, rfl⟩ now
        | succ i =>
            have still : key a ∉ mark key seen cs := by
              intro hit
              exact ((mem_mark key).mp hit).elim unseen now
            obtain ⟨j, le, bs, found, hb⟩ := ih hi still
            exact ⟨j + 1, Nat.succ_le_succ le, bs, found, hb⟩

theorem exists_mem_rounds_iff {groups : List (List α)} {i : Nat} {bs : List α}
    (found : (rounds key [] groups)[i]? = some bs) (k : κ) :
    (∃ b ∈ bs, key b = k) ↔ (∃ as, groups[i]? = some as ∧ ∃ a ∈ as, key a = k) ∧
      ∀ j < i, ∀ as, groups[j]? = some as → ∀ a ∈ as, key a ≠ k := by
  constructor
  · rintro ⟨b, hb, rfl⟩
    obtain ⟨as, here, ha⟩ := mem_of_mem_rounds found hb
    refine ⟨⟨as, here, b, ha, rfl⟩, ?_⟩
    intro j less as' there a ha' same
    have unseen : key a ∉ ([] : List κ) := List.not_mem_nil
    obtain ⟨j', le, bs', found', b', hb', same'⟩ := rounds_cover there ha' unseen
    obtain ⟨rfl, -⟩ := rounds_unique found hb found' hb' (same.symm.trans same'.symm)
    exact absurd (Nat.lt_of_le_of_lt le less) (Nat.lt_irrefl _)
  · rintro ⟨⟨as, here, a, ha, rfl⟩, new⟩
    have unseen : key a ∉ ([] : List κ) := List.not_mem_nil
    obtain ⟨j, le, bs', found', b, hb, same⟩ := rounds_cover here ha unseen
    obtain ⟨as', there, hb'⟩ := mem_of_mem_rounds found' hb
    rcases Nat.lt_or_eq_of_le le with less | rfl
    · exact absurd same (new j less as' there b hb')
    · obtain rfl := Option.some.inj (found.symm.trans found')
      exact ⟨b, hb, same⟩

theorem rounds_label_iff {lab : Type*} {label : α → lab} {groups : List (List α)}
    (finer : ∀ a b, label a = label b → key a = key b) :
    (∀ as ∈ groups, ∀ a ∈ as, ∃ bs ∈ rounds key [] groups, ∃ b ∈ bs, label b = label a) ↔
      ∀ as ∈ groups, ∀ a ∈ as, ∀ as' ∈ groups, ∀ a' ∈ as', key a = key a' → label a = label a' := by
  constructor
  · intro all as has a ha as' has' a' ha' same
    obtain ⟨bs, hbs, b, hb, label_b⟩ := all as has a ha
    obtain ⟨bs', hbs', b', hb', label_b'⟩ := all as' has' a' ha'
    obtain ⟨i, found⟩ := List.mem_iff_getElem?.mp hbs
    obtain ⟨j, found'⟩ := List.mem_iff_getElem?.mp hbs'
    have keys : key b = key b' :=
      (finer _ _ label_b).trans (same.trans (finer _ _ label_b').symm)
    obtain ⟨-, rfl⟩ := rounds_unique found hb found' hb' keys
    exact label_b.symm.trans label_b'
  · intro apart as has a ha
    obtain ⟨i, here⟩ := List.mem_iff_getElem?.mp has
    have unseen : key a ∉ ([] : List κ) := List.not_mem_nil
    obtain ⟨j, -, bs, found, b, hb, same⟩ := rounds_cover here ha unseen
    obtain ⟨as', there, hb'⟩ := mem_of_mem_rounds found hb
    exact ⟨bs, List.mem_of_getElem? found, b, hb,
      apart as' (List.mem_of_getElem? there) b hb' as has a ha same⟩

section
variable {β : Type*} (f : β → α)

theorem fresh_map (seen : List κ) (bs : List β) :
    fresh key seen (bs.map f) = (fresh (fun b => key (f b)) seen bs).map f := by
  induction bs generalizing seen with
  | nil => rfl
  | cons b bs ih =>
      rw [List.map_cons, fresh, fresh]
      split_ifs
      · exact ih seen
      · rw [ih, List.map_cons]

theorem mark_map (seen : List κ) (bs : List β) :
    mark key seen (bs.map f) = mark (fun b => key (f b)) seen bs := by
  induction bs generalizing seen with
  | nil => rfl
  | cons b bs ih =>
      rw [List.map_cons, mark, mark]
      split_ifs
      · exact ih seen
      · exact ih _

theorem rounds_map (seen : List κ) (groups : List (List β)) :
    rounds key seen (groups.map (List.map f)) =
      (rounds (fun b => key (f b)) seen groups).map (List.map f) := by
  induction groups generalizing seen with
  | nil => rfl
  | cons bs rest ih =>
      rw [List.map_cons, rounds, rounds, List.map_cons, fresh_map, mark_map, ih]

end

end GuardianPi.Library.FirstSeen
