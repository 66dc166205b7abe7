import GuardianPi.Library.Orm
import Mathlib.Data.List.Nodup

namespace GuardianPi.Library.Validation
open GuardianPi.Library.Python

/-- An identifier is its canonical text, a date-time its ISO text. -/
inductive Attribute where
  | str (text : String)
  | int (n : Int)
  | bool (b : Bool)
  | uuid (text : String)
  | datetime (text : String)
  | dict (fields : List (String × Value))
  | list (items : List Value)

inductive ColumnType where
  | uuid
  | text (bound : Option Nat)
  | integer
  | boolean
  | dateTime
  | jsonDict
  | jsonList
  deriving DecidableEq

def ColumnType.accepts : ColumnType → Attribute → Bool
  | .uuid, .uuid _ => true
  | .text bound, .str s => bound.all fun n => s.length ≤ n
  | .integer, .int n => -2 ^ 31 ≤ n ∧ n < 2 ^ 31
  | .boolean, .bool _ => true
  | .dateTime, .datetime _ => true
  | .jsonDict, .dict _ => true
  | .jsonList, .list _ => true
  | _, _ => false

structure TypedColumn where
  name : String
  type : ColumnType
  nullable : Bool

def TypedColumn.toColumn (c : TypedColumn) : Orm.Column Attribute :=
  ⟨c.name, c.type.accepts, c.nullable, none⟩

abbrev Row := Orm.Fields Attribute

def Fits (columns : List TypedColumn) (row : Row) : Prop :=
  List.Forall₂ (fun c cell => cell.1 = c.name ∧ c.toColumn.admits cell.2 = true) columns row

structure TypedRow (columns : List TypedColumn) where
  row : Row
  fits : Fits columns row

theorem fits_of_fill {columns : List TypedColumn} {kwargs row : Row}
    (filled : Orm.fill (columns.map TypedColumn.toColumn) kwargs = .ok row) : Fits columns row := by
  have cells := List.forall₂_map_left_iff.mp (mapM_eq_ok.mp filled)
  refine cells.imp fun c cell made => ?_
  have admitted := Orm.exists_fillColumn_iff.mp ⟨cell, made⟩
  rw [Orm.fillColumn_eq_ok made]
  exact ⟨rfl, admitted⟩

def fill (columns : List TypedColumn) (kwargs defaults : Row) : Except PyError (TypedRow columns) :=
  match filled : Orm.fill (columns.map TypedColumn.toColumn) (kwargs ++ defaults) with
  | .ok row => .ok ⟨row, fits_of_fill filled⟩
  | .error e => .error e

theorem row_of_fill {columns : List TypedColumn} {kwargs defaults : Row} {t : TypedRow columns}
    (made : fill columns kwargs defaults = .ok t) :
    t.row = columns.map fun c => (c.name, ((kwargs ++ defaults).lookup c.name).join) := by
  unfold fill at made
  split at made
  · rename_i row filled
    obtain rfl := Except.ok.inj made
    change row = _
    rw [Orm.fill_eq_ok filled, List.map_map]
    apply List.map_congr_left
    intro c _
    change (c.name, ((kwargs ++ defaults).lookup c.name).getD none) = _
    cases (kwargs ++ defaults).lookup c.name <;> rfl
  · cases made

def TypedRow.set {columns : List TypedColumn} (r : TypedRow columns) (name : String)
    (v : Option Attribute) : Except PyError (TypedRow columns) :=
  if taken : ∀ c ∈ columns, c.name = name → c.toColumn.admits v = true then
    .ok {
      row := r.row.map fun cell => if cell.1 = name then (name, v) else cell
      fits := by
        apply List.forall₂_map_right_iff.mpr
        have both := (List.forall₂_and_left _ _).mpr ⟨fun c member => taken c member, r.fits⟩
        refine both.imp fun c cell h => ?_
        obtain ⟨takes, same, admitted⟩ := h
        split_ifs with here
        · exact ⟨here.symm.trans same, takes (same.symm.trans here)⟩
        · exact ⟨same, admitted⟩ }
  else .error .integrityError

theorem row_of_set {columns : List TypedColumn} {r t : TypedRow columns} {name : String} {v : Option Attribute}
    (made : r.set name v = .ok t) : t.row = Orm.setAttribute r.row name v := by
  unfold TypedRow.set at made
  split_ifs at made
  rw [← Except.ok.inj made]
  rfl

theorem Fits.lookup {columns : List TypedColumn} {row : Row} (fits : Fits columns row)
    (distinct : (columns.map TypedColumn.name).Nodup) {c : TypedColumn} (member : c ∈ columns) :
    ∃ cell, row.lookup c.name = some cell ∧ c.toColumn.admits cell = true :=
  Orm.lookup_of_forall₂ (R := fun (c : TypedColumn) cell => c.toColumn.admits cell = true) fits distinct member

inductive FieldType where
  | str
  | int
  | bool
  | datetime
  | dict
  | list
  deriving DecidableEq

def FieldType.has : FieldType → Attribute → Bool
  | .str, .str _ | .int, .int _ | .bool, .bool _ | .datetime, .datetime _ | .dict, .dict _
  | .list, .list _ => true
  | _, _ => false

def ColumnType.object : ColumnType → Option FieldType
  | .uuid => none
  | .text _ => some .str
  | .integer => some .int
  | .boolean => some .bool
  | .dateTime => some .datetime
  | .jsonDict => some .dict
  | .jsonList => some .list

theorem ColumnType.has_of_accepts {type : ColumnType} {object : FieldType} {v : Attribute}
    (same : type.object = some object) (accepted : type.accepts v = true) : object.has v = true := by
  cases type <;> cases same <;> cases v <;> first | rfl | cases accepted

/-- What a field makes of an attribute: it keeps an object of its type, and a text is not made of an
identifier. -/
structure Rules where
  convert : FieldType → Attribute → Option Attribute
  keeps : ∀ type v, type.has v = true → convert type v = some v
  refuses : ∀ text, convert .str (.uuid text) = none

structure Field where
  name : String
  type : FieldType
  optional : Bool

section
variable (rules : Rules)

def validateField (row : Row) (f : Field) : Option (String × Option Attribute) :=
  match row.lookup f.name with
  | none => none
  | some none => if f.optional then some (f.name, none) else none
  | some (some v) => (rules.convert f.type v).map fun w => (f.name, some w)

/-- The response, or the names of the fields that are refused. -/
def modelValidate (model : List Field) (row : Row) : Except (List String) Row :=
  match model.filter fun f => (validateField rules row f).isNone with
  | [] => .ok (model.filterMap (validateField rules row))
  | refused => .error (refused.map Field.name)

def Field.reads (f : Field) (c : TypedColumn) : Bool :=
  f.name = c.name && (f.optional || !c.nullable) && f.type = c.type.object.getD .str

def identifies (columns : List TypedColumn) (row : Row) (name : String) : Bool :=
  columns.any fun c => c.name = name && c.type = .uuid && (row.lookup name).any Option.isSome

variable {rules}

theorem convert_of_accepts {type : ColumnType} {v : Attribute} (accepted : type.accepts v = true) :
    rules.convert (type.object.getD .str) v = if type = .uuid then none else some v := by
  cases object : type.object with
  | none =>
      obtain rfl : type = .uuid := by cases type <;> first | rfl | cases object
      cases v with
      | uuid text => exact rules.refuses text
      | _ => cases accepted
  | some own =>
      have other : type ≠ .uuid := by
        rintro rfl
        cases object
      rw [Option.getD_some, if_neg other]
      exact rules.keeps own v (ColumnType.has_of_accepts object accepted)

theorem validateField_isNone {columns : List TypedColumn} {row : Row} (fits : Fits columns row)
    (distinct : (columns.map TypedColumn.name).Nodup) {f : Field} {c : TypedColumn}
    (member : c ∈ columns) (reads : f.reads c = true) :
    (validateField rules row f).isNone = identifies columns row f.name := by
  obtain ⟨cell, found, admitted⟩ := fits.lookup distinct member
  have parts := reads
  unfold Field.reads at parts
  simp only [Bool.and_eq_true, decide_eq_true_eq] at parts
  obtain ⟨⟨name, nullable⟩, type⟩ := parts
  rw [← name] at found
  have identifier : identifies columns row f.name = (decide (c.type = .uuid) && cell.isSome) := by
    unfold identifies
    rw [found, Bool.eq_iff_iff, List.any_eq_true]
    simp only [Bool.and_eq_true, decide_eq_true_eq, Option.any_some]
    constructor
    · rintro ⟨other, among, ⟨same, uuid⟩, given⟩
      have equal : other = c := List.inj_on_of_nodup_map distinct among member (same.trans name)
      rw [equal] at uuid
      exact ⟨uuid, given⟩
    · rintro ⟨uuid, given⟩
      exact ⟨c, member, ⟨name.symm, uuid⟩, given⟩
  rw [identifier]
  unfold validateField
  rw [found]
  cases cell with
  | none =>
      have absent : c.nullable = true := admitted
      rw [absent, Bool.not_true, Bool.or_false] at nullable
      simp [nullable]
  | some v =>
      have accepted : c.type.accepts v = true := admitted
      dsimp only
      rw [type, convert_of_accepts accepted]
      by_cases uuid : c.type = .uuid <;> simp [uuid]

theorem modelValidate_error {columns : List TypedColumn} {row : Row} (fits : Fits columns row)
    (distinct : (columns.map TypedColumn.name).Nodup) {model : List Field}
    (reads : ∀ f ∈ model, ∃ c ∈ columns, f.reads c = true)
    (identified : ∃ f ∈ model, identifies columns row f.name = true) :
    modelValidate rules model row =
      .error ((model.map Field.name).filter (identifies columns row)) := by
  have refused : (model.filter fun f => (validateField rules row f).isNone) =
      model.filter (identifies columns row ∘ Field.name) := by
    apply List.filter_congr
    intro f member
    obtain ⟨c, among, compatible⟩ := reads f member
    exact validateField_isNone fits distinct among compatible
  unfold modelValidate
  rw [refused, List.filter_map]
  obtain ⟨f, member, identifier⟩ := identified
  cases whole : model.filter (identifies columns row ∘ Field.name) with
  | nil => exact absurd identifier (List.filter_eq_nil_iff.mp whole f member)
  | cons first rest => rfl

end

end GuardianPi.Library.Validation
