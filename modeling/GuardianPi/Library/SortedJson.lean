import GuardianPi.Library.Json
import Mathlib.Data.List.Nodup
import Mathlib.Data.List.Sort
import Mathlib.Data.String.Basic
import Mathlib.Order.Defs.LinearOrder

namespace GuardianPi.Library.Json

variable {ν : Type}

mutual
def sortKeys : Json ν → Json ν
  | .null => .null
  | .bool b => .bool b
  | .num n => .num n
  | .str s => .str s
  | .arr items => .arr (sortItems items)
  | .obj fields => .obj ((sortFields fields).insertionSort fun a b => a.1 ≤ b.1)
def sortItems : List (Json ν) → List (Json ν)
  | [] => []
  | v :: vs => sortKeys v :: sortItems vs
def sortFields : List (String × Json ν) → List (String × Json ν)
  | [] => []
  | (k, v) :: fs => (k, sortKeys v) :: sortFields fs
end

theorem sortFields_eq (fields : List (String × Json ν)) :
    sortFields fields = fields.map fun f => (f.1, sortKeys f.2) := by
  induction fields with
  | nil => rfl
  | cons f fields ih => rw [sortFields, ih, List.map_cons]

theorem lookup_eq_some_iff {fields : List (String × Json ν)} (distinct : (fields.map Prod.fst).Nodup)
    {key : String} {v : Json ν} : lookup key fields = some v ↔ (key, v) ∈ fields := by
  induction fields generalizing v with
  | nil => exact iff_of_false nofun List.not_mem_nil
  | cons f fields ih =>
      obtain ⟨k, w⟩ := f
      rw [List.map_cons, List.nodup_cons] at distinct
      rw [lookup, List.mem_cons, Prod.mk.injEq]
      by_cases here : k = key
      · subst here
        have later (u : Json ν) : (k, u) ∉ fields := fun member =>
          distinct.1 (List.mem_map.mpr ⟨(k, u), member, rfl⟩)
        have absent : lookup k fields = none :=
          Option.eq_none_iff_forall_ne_some.mpr fun u found => later u ((ih distinct.2).mp found)
        rw [absent, if_pos rfl, Option.none_or, Option.some.injEq]
        constructor
        · rintro rfl
          exact Or.inl ⟨rfl, rfl⟩
        · rintro (⟨-, rfl⟩ | member)
          · rfl
          · exact absurd member (later v)
      · rw [if_neg here, Option.or_none, ih distinct.2]
        constructor
        · exact Or.inr
        · rintro (⟨rfl, -⟩ | member)
          · exact absurd rfl here
          · exact member

theorem lookup_perm {fields fields' : List (String × Json ν)} (same : fields.Perm fields')
    (distinct : (fields.map Prod.fst).Nodup) (key : String) : lookup key fields = lookup key fields' := by
  apply Option.ext
  intro v
  rw [lookup_eq_some_iff distinct, lookup_eq_some_iff ((same.map Prod.fst).nodup_iff.mp distinct),
    same.mem_iff]

theorem lookup_sortFields (key : String) (fields : List (String × Json ν)) :
    lookup key (sortFields fields) = (lookup key fields).map sortKeys := by
  induction fields with
  | nil => rfl
  | cons f fields ih =>
      obtain ⟨k, v⟩ := f
      rw [sortFields, lookup, lookup, ih]
      cases lookup key fields with
      | some w => rfl
      | none =>
          rw [Option.map_none, Option.none_or, Option.none_or]
          split_ifs <;> rfl

theorem get?_sortKeys {fields : List (String × Json ν)} (distinct : (fields.map Prod.fst).Nodup)
    (key : String) : get? key (sortKeys (.obj fields)) = (lookup key fields).map sortKeys := by
  have keys : (sortFields fields).map Prod.fst = fields.map Prod.fst := by
    rw [sortFields_eq, List.map_map]
    rfl
  have sorted := lookup_perm (List.perm_insertionSort (fun a b => a.1 ≤ b.1) (sortFields fields)).symm
    (by rw [keys]; exact distinct) key
  rw [sortKeys, get?, ← sorted, lookup_sortFields]

mutual
def Distinct : Json ν → Prop
  | .arr items => DistinctItems items
  | .obj fields => (fields.map Prod.fst).Nodup ∧ DistinctFields fields
  | _ => True
def DistinctItems : List (Json ν) → Prop
  | [] => True
  | v :: vs => Distinct v ∧ DistinctItems vs
def DistinctFields : List (String × Json ν) → Prop
  | [] => True
  | (_, v) :: fs => Distinct v ∧ DistinctFields fs
end

mutual
/-- Equality as that of dicts, which are compared key by key. -/
def Same : Json ν → Json ν → Prop
  | .null, .null => True
  | .bool b, .bool c => b = c
  | .num m, .num n => m = n
  | .str s, .str t => s = t
  | .arr vs, .arr ws => SameItems vs ws
  | .obj fs, .obj gs => fs.length = gs.length ∧ SameFields fs gs
  | _, _ => False
def SameItems : List (Json ν) → List (Json ν) → Prop
  | [], [] => True
  | v :: vs, w :: ws => Same v w ∧ SameItems vs ws
  | _, _ => False
def SameFields : List (String × Json ν) → List (String × Json ν) → Prop
  | [], _ => True
  | (k, v) :: fs, gs => (∃ w, lookup k gs = some w ∧ Same v w) ∧ SameFields fs gs
end

theorem distinctFields_iff {fields : List (String × Json ν)} :
    DistinctFields fields ↔ ∀ f ∈ fields, f.2.Distinct := by
  induction fields with
  | nil => exact iff_of_true trivial (List.forall_mem_nil _)
  | cons f fields ih => rw [DistinctFields, ih, List.forall_mem_cons]

theorem map_fst_sortFields (fields : List (String × Json ν)) :
    (sortFields fields).map Prod.fst = fields.map Prod.fst := by
  rw [sortFields_eq, List.map_map]
  rfl

theorem insertionSort_eq_iff {fields fields' : List (String × Json ν)}
    (distinct : (fields.map Prod.fst).Nodup) :
    fields.insertionSort (fun a b => a.1 ≤ b.1) = fields'.insertionSort (fun a b => a.1 ≤ b.1) ↔
      fields.Perm fields' := by
  have perm := List.perm_insertionSort (fun a b : String × Json ν => a.1 ≤ b.1) fields
  have perm' := List.perm_insertionSort (fun a b : String × Json ν => a.1 ≤ b.1) fields'
  constructor
  · intro same
    rw [same] at perm
    exact perm.symm.trans perm'
  · intro same
    have total : Std.Total fun a b : String × Json ν => a.1 ≤ b.1 := ⟨fun a b => le_total a.1 b.1⟩
    have trans : IsTrans (String × Json ν) fun a b => a.1 ≤ b.1 := ⟨fun _ _ _ => le_trans⟩
    have antisymm : ∀ a b : String × Json ν, a ∈ fields.insertionSort (fun a b => a.1 ≤ b.1) →
        b ∈ fields'.insertionSort (fun a b => a.1 ≤ b.1) → a.1 ≤ b.1 → b.1 ≤ a.1 → a = b := by
      intro a b member member' below above
      exact List.inj_on_of_nodup_map distinct (perm.mem_iff.mp member)
        (same.mem_iff.mpr (perm'.mem_iff.mp member')) (le_antisymm below above)
    exact List.Perm.eq_of_pairwise antisymm (List.pairwise_insertionSort _ _)
      (List.pairwise_insertionSort _ _) (perm.trans (same.trans perm'.symm))

theorem perm_iff_subset {fields fields' : List (String × Json ν)}
    (distinct : (fields.map Prod.fst).Nodup) :
    fields.Perm fields' ↔ fields.length = fields'.length ∧ fields ⊆ fields' := by
  constructor
  · intro same
    exact ⟨same.length_eq, same.subset⟩
  · intro ⟨length, subset⟩
    exact (List.subperm_of_subset distinct.of_map subset).perm_of_length_le length.ge

mutual
theorem same_iff (v w : Json ν) (distinct : v.Distinct) (distinct' : w.Distinct) :
    Same v w ↔ sortKeys v = sortKeys w := by
  match v with
  | .null | .bool _ | .num _ | .str _ => cases w <;> simp [Same, sortKeys]
  | .arr vs =>
      cases w with
      | arr ws => rw [Same, sameItems_iff vs ws distinct distinct', sortKeys, sortKeys, arr.injEq]
      | _ => exact iff_of_false nofun nofun
  | .obj fs =>
      cases w with
      | obj gs =>
          have keys : ((sortFields fs).map Prod.fst).Nodup := by
            rw [map_fst_sortFields]
            exact distinct.1
          have length (fields : List (String × Json ν)) :
              (sortFields fields).length = fields.length := by
            rw [sortFields_eq, List.length_map]
          rw [Same, sameFields_iff fs gs distinct.2 distinct', sortKeys, sortKeys, obj.injEq,
            insertionSort_eq_iff keys, perm_iff_subset keys, length, length]
      | _ => exact iff_of_false nofun nofun
theorem sameItems_iff (vs ws : List (Json ν)) (distinct : DistinctItems vs)
    (distinct' : DistinctItems ws) : SameItems vs ws ↔ sortItems vs = sortItems ws := by
  match vs, ws with
  | [], [] => exact iff_of_true trivial rfl
  | [], w :: ws => exact iff_of_false nofun nofun
  | v :: vs, [] => exact iff_of_false nofun nofun
  | v :: vs, w :: ws =>
      rw [SameItems, same_iff v w distinct.1 distinct'.1, sameItems_iff vs ws distinct.2 distinct'.2,
        sortItems, sortItems, List.cons.injEq]
theorem sameFields_iff (fs gs : List (String × Json ν)) (distinct : DistinctFields fs)
    (distinct' : Distinct (.obj gs)) : SameFields fs gs ↔ sortFields fs ⊆ sortFields gs := by
  match fs with
  | [] => exact iff_of_true trivial (List.nil_subset _)
  | (k, v) :: fs =>
      have here : (∃ w, lookup k gs = some w ∧ Same v w) ↔ (k, sortKeys v) ∈ sortFields gs := by
        rw [sortFields_eq, List.mem_map]
        constructor
        · rintro ⟨w, found, same⟩
          have member := (lookup_eq_some_iff distinct'.1).mp found
          have among := distinctFields_iff.mp distinct'.2 _ member
          exact ⟨(k, w), member, Prod.ext rfl ((same_iff v w distinct.1 among).mp same).symm⟩
        · rintro ⟨⟨k', w⟩, member, equal⟩
          obtain ⟨rfl, sorted⟩ := Prod.mk.inj equal
          have among := distinctFields_iff.mp distinct'.2 _ member
          exact ⟨w, (lookup_eq_some_iff distinct'.1).mpr member,
            (same_iff v w distinct.1 among).mpr sorted.symm⟩
      rw [SameFields, here, sameFields_iff fs gs distinct.2 distinct', sortFields, List.cons_subset]
end

end GuardianPi.Library.Json
