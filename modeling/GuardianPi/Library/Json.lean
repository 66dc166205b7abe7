import Mathlib.Data.List.TakeWhile
import Mathlib.Data.Nat.Digits.Defs

namespace GuardianPi.Library

inductive Json (ν : Type) where
  | null
  | bool (b : Bool)
  | num (n : ν)
  | str (s : String)
  | arr (items : List (Json ν))
  | obj (fields : List (String × Json ν))

namespace Json

variable {ν μ : Type}

/-- The value of a key; of a repeated key the last one counts. -/
def lookup (key : String) : List (String × Json ν) → Option (Json ν)
  | [] => none
  | (k, v) :: fields => (lookup key fields).or (if k = key then some v else none)

def get? (key : String) : Json ν → Option (Json ν)
  | .obj fields => lookup key fields
  | _ => none

theorem lookup_append (key : String) (first later : List (String × Json ν)) :
    lookup key (first ++ later) = (lookup key later).or (lookup key first) := by
  induction first with
  | nil => exact (Option.or_none).symm
  | cons field first ih => rw [List.cons_append, lookup, lookup, ih, Option.or_assoc]

theorem lookup_append_eq_some_iff {key : String} {v : Json ν} {first later : List (String × Json ν)}
    (own : lookup key first = some v) :
    lookup key (first ++ later) = some v ↔ ∀ w, lookup key later = some w → w = v := by
  rw [lookup_append, own]
  cases lookup key later with
  | none => simp
  | some w => simp

mutual
def traverse (f : ν → Option μ) : Json ν → Option (Json μ)
  | .null => some .null
  | .bool b => some (.bool b)
  | .num n => (f n).map .num
  | .str s => some (.str s)
  | .arr items => (traverseItems f items).map .arr
  | .obj fields => (traverseFields f fields).map .obj
def traverseItems (f : ν → Option μ) : List (Json ν) → Option (List (Json μ))
  | [] => some []
  | v :: vs => (traverse f v).bind fun w => (traverseItems f vs).map fun ws => w :: ws
def traverseFields (f : ν → Option μ) : List (String × Json ν) → Option (List (String × Json μ))
  | [] => some []
  | (k, v) :: fs => (traverse f v).bind fun w => (traverseFields f fs).map fun gs => (k, w) :: gs
end

theorem isSome_traverseItems (f : ν → Option μ) (vs : List (Json ν)) :
    (traverseItems f vs).isSome ↔ ∀ v ∈ vs, (traverse f v).isSome := by
  induction vs with
  | nil => simp [traverseItems]
  | cons v vs ih =>
      rw [List.forall_mem_cons, ← ih, traverseItems]
      cases traverse f v <;> simp

mutual
def map (f : ν → μ) : Json ν → Json μ
  | .null => .null
  | .bool b => .bool b
  | .num n => .num (f n)
  | .str s => .str s
  | .arr items => .arr (mapItems f items)
  | .obj fields => .obj (mapFields f fields)
def mapItems (f : ν → μ) : List (Json ν) → List (Json μ)
  | [] => []
  | v :: vs => map f v :: mapItems f vs
def mapFields (f : ν → μ) : List (String × Json ν) → List (String × Json μ)
  | [] => []
  | (k, v) :: fs => (k, map f v) :: mapFields f fs
end

section
variable {κ : Type} (g : μ → κ) (f : ν → μ)

mutual
theorem map_map (v : Json ν) : map g (map f v) = map (fun n => g (f n)) v := by
  cases v with
  | null | bool | num | str => rfl
  | arr items => exact congrArg Json.arr (mapItems_mapItems items)
  | obj fields => exact congrArg Json.obj (mapFields_mapFields fields)
theorem mapItems_mapItems (vs : List (Json ν)) :
    mapItems g (mapItems f vs) = mapItems (fun n => g (f n)) vs := by
  cases vs with
  | nil => rfl
  | cons v vs => rw [mapItems, mapItems, mapItems, map_map v, mapItems_mapItems vs]
theorem mapFields_mapFields (fs : List (String × Json ν)) :
    mapFields g (mapFields f fs) = mapFields (fun n => g (f n)) fs := by
  cases fs with
  | nil => rfl
  | cons field fs => rw [mapFields, mapFields, mapFields, map_map field.2, mapFields_mapFields fs]
end

end

theorem mapItems_eq (f : ν → μ) (vs : List (Json ν)) : mapItems f vs = vs.map (map f) := by
  induction vs with
  | nil => rfl
  | cons v vs ih => rw [mapItems, ih, List.map_cons]

mutual
theorem map_some_of_traverse (v : Json (Option ν)) (w : Json ν) (h : traverse id v = some w) :
    map some w = v := by
  match v with
  | .null | .bool _ | .str _ =>
      obtain rfl := Option.some.inj h
      rfl
  | .num n =>
      obtain ⟨m, same, rfl⟩ := Option.map_eq_some_iff.mp h
      exact congrArg Json.num same.symm
  | .arr items =>
      obtain ⟨ws, whole, rfl⟩ := Option.map_eq_some_iff.mp h
      exact congrArg Json.arr (mapItems_some_of_traverse items ws whole)
  | .obj fields =>
      obtain ⟨ws, whole, rfl⟩ := Option.map_eq_some_iff.mp h
      exact congrArg Json.obj (mapFields_some_of_traverse fields ws whole)
theorem mapItems_some_of_traverse (vs : List (Json (Option ν))) (ws : List (Json ν))
    (h : traverseItems id vs = some ws) : mapItems some ws = vs := by
  match vs with
  | [] =>
      obtain rfl := Option.some.inj h
      rfl
  | v :: vs =>
      obtain ⟨w, head, h⟩ := Option.bind_eq_some_iff.mp h
      obtain ⟨ws, tail, rfl⟩ := Option.map_eq_some_iff.mp h
      rw [mapItems, map_some_of_traverse v w head, mapItems_some_of_traverse vs ws tail]
theorem mapFields_some_of_traverse (fs : List (String × Json (Option ν)))
    (gs : List (String × Json ν)) (h : traverseFields id fs = some gs) :
    mapFields some gs = fs := by
  match fs with
  | [] =>
      obtain rfl := Option.some.inj h
      rfl
  | (k, v) :: fs =>
      obtain ⟨w, head, h⟩ := Option.bind_eq_some_iff.mp h
      obtain ⟨gs, tail, rfl⟩ := Option.map_eq_some_iff.mp h
      rw [mapFields, map_some_of_traverse v w head, mapFields_some_of_traverse fs gs tail]
end

end Json

def isNumberChar (c : Char) : Bool :=
  c.isDigit || c = '-' || c = '+' || c = '.' || c = 'e' || c = 'E'

def afterMinus : List Char → List Char
  | '-' :: cs => cs
  | cs => cs

def afterInt : List Char → Option (List Char)
  | '0' :: cs => some cs
  | c :: cs => if c.isDigit then some (cs.dropWhile Char.isDigit) else none
  | [] => none

def afterFraction : List Char → List Char
  | '.' :: c :: cs => if c.isDigit then cs.dropWhile Char.isDigit else '.' :: c :: cs
  | cs => cs

def afterExponentSign : List Char → List Char
  | '+' :: cs => cs
  | '-' :: cs => cs
  | cs => cs

def afterExponent : List Char → List Char
  | [] => []
  | e :: cs =>
      match afterExponentSign cs with
      | c :: ds => if (e = 'e' ∨ e = 'E') ∧ c.isDigit then ds.dropWhile Char.isDigit else e :: cs
      | [] => e :: cs

def isNumber (cs : List Char) : Bool :=
  cs.all isNumberChar &&
    (afterInt (afterMinus cs)).map (fun ds => afterExponent (afterFraction ds)) = some []

structure Literal where
  text : List Char
  valid : isNumber text = true

theorem Literal.chars (n : Literal) : ∀ c ∈ n.text, isNumberChar c = true :=
  List.all_eq_true.mp (Bool.and_eq_true_iff.mp n.valid).1

theorem Literal.ne_nil (n : Literal) : n.text ≠ [] := by
  intro empty
  have valid := n.valid
  rw [empty] at valid
  exact absurd valid (by decide)

end GuardianPi.Library
