import GuardianPi.Library.Validation

namespace GuardianPi.Library.Validation
open GuardianPi.Library.Python

theorem ColumnType.eq_str_of_accepts {bound : Option Nat} {v : Attribute}
    (accepted : (ColumnType.text bound).accepts v = true) : ∃ text, v = .str text := by
  cases v with
  | str text => exact ⟨text, rfl⟩
  | _ => cases accepted

theorem ColumnType.eq_datetime_of_accepts {v : Attribute} (accepted : ColumnType.dateTime.accepts v = true) :
    ∃ text, v = .datetime text := by
  cases v with
  | datetime text => exact ⟨text, rfl⟩
  | _ => cases accepted

theorem ColumnType.eq_bool_of_accepts {v : Attribute} (accepted : ColumnType.boolean.accepts v = true) :
    ∃ b, v = .bool b := by
  cases v with
  | bool b => exact ⟨b, rfl⟩
  | _ => cases accepted

namespace TypedRow

variable {columns : List TypedColumn} {r t : TypedRow columns} {name other : String} {v : Option Attribute}

def get (r : TypedRow columns) (name : String) : Option Attribute := (r.row.lookup name).join

def setAll (r : TypedRow columns) : Row → Except PyError (TypedRow columns)
  | [] => .ok r
  | (name, v) :: updates => do
      let r ← r.set name v
      r.setAll updates

def updated (updates : Row) (name : String) (before : Option Attribute) : Option Attribute :=
  updates.foldl (fun v update => if update.1 = name then update.2 else v) before

theorem updated_append (first later : Row) (name : String) (before : Option Attribute) :
    updated (first ++ later) name before = updated later name (updated first name before) :=
  List.foldl_append

theorem admits_get (r : TypedRow columns) (distinct : (columns.map TypedColumn.name).Nodup) {c : TypedColumn}
    (member : c ∈ columns) : c.toColumn.admits (r.get c.name) = true := by
  obtain ⟨cell, found, admitted⟩ := r.fits.lookup distinct member
  rw [get, found]
  exact admitted

theorem exists_value (r : TypedRow columns) (distinct : (columns.map TypedColumn.name).Nodup) {c : TypedColumn}
    (member : c ∈ columns) (required : c.nullable = false) :
    ∃ v, r.get c.name = some v ∧ c.type.accepts v = true := by
  have admitted := r.admits_get distinct member
  cases read : r.get c.name with
  | none =>
      rw [read] at admitted
      exact absurd (required.symm.trans admitted) Bool.false_ne_true
  | some v =>
      rw [read] at admitted
      exact ⟨v, rfl, admitted⟩

theorem get_of_set (column : ∃ c ∈ columns, c.name = name) (distinct : (columns.map TypedColumn.name).Nodup)
    (made : r.set name v = .ok t) : t.get other = if name = other then v else r.get other := by
  unfold get
  rw [row_of_set made, Orm.lookup_setAttribute]
  by_cases same : name = other
  · subst same
    obtain ⟨c, member, rfl⟩ := column
    obtain ⟨cell, found, -⟩ := r.fits.lookup distinct member
    simp [found]
  · simp [same, Ne.symm same]

theorem get_of_setAll (distinct : (columns.map TypedColumn.name).Nodup) {updates : Row}
    (mapped : ∀ update ∈ updates, ∃ c ∈ columns, c.name = update.1) (made : r.setAll updates = .ok t)
    (other : String) : t.get other = updated updates other (r.get other) := by
  induction updates generalizing r with
  | nil =>
      obtain rfl := Except.ok.inj made
      rfl
  | cons update updates ih =>
      obtain ⟨name, v⟩ := update
      obtain ⟨column, mapped⟩ := List.forall_mem_cons.mp mapped
      rw [setAll] at made
      cases first : r.set name v with
      | error e =>
          rw [first] at made
          cases made
      | ok m =>
          rw [first] at made
          rw [ih mapped made, get_of_set column distinct first]
          rfl

theorem exists_setAll (r : TypedRow columns) {updates : Row}
    (admitted : ∀ update ∈ updates, ∀ c ∈ columns, c.name = update.1 → c.toColumn.admits update.2 = true) :
    ∃ t, r.setAll updates = .ok t := by
  induction updates generalizing r with
  | nil => exact ⟨r, rfl⟩
  | cons update updates ih =>
      obtain ⟨name, v⟩ := update
      obtain ⟨here, later⟩ := List.forall_mem_cons.mp admitted
      obtain ⟨t, made⟩ : ∃ t, r.set name v = .ok t := ⟨_, dif_pos here⟩
      rw [setAll, made]
      exact ih t later

end TypedRow

theorem get_of_fill {columns : List TypedColumn} {kwargs defaults : Row} {t : TypedRow columns}
    (made : fill columns kwargs defaults = .ok t) (distinct : (columns.map TypedColumn.name).Nodup)
    {c : TypedColumn} (member : c ∈ columns) : t.get c.name = ((kwargs ++ defaults).lookup c.name).join := by
  rw [TypedRow.get, row_of_fill made, Orm.lookup_map_of_nodup _ distinct member]
  rfl

theorem exists_fill_iff {columns : List TypedColumn} {kwargs defaults : Row} :
    (∃ t, fill columns kwargs defaults = .ok t) ↔
      ∀ c ∈ columns, c.toColumn.admits ((kwargs ++ defaults).lookup c.name).join = true := by
  have cells : (∃ t, fill columns kwargs defaults = .ok t) ↔
      ∃ row, Orm.fill (columns.map TypedColumn.toColumn) (kwargs ++ defaults) = .ok row := by
    unfold fill
    constructor
    · rintro ⟨t, made⟩
      split at made
      · rename_i row filled
        exact ⟨row, filled⟩
      · cases made
    · rintro ⟨row, filled⟩
      split
      · exact ⟨_, rfl⟩
      · rename_i e failed
        cases filled.symm.trans failed
  rw [cells, Orm.exists_fill_iff, List.forall_mem_map]
  refine forall₂_congr fun c _ => ?_
  have read : ((kwargs ++ defaults).lookup c.toColumn.name).getD c.toColumn.default =
      ((kwargs ++ defaults).lookup c.name).join := by
    show ((kwargs ++ defaults).lookup c.name).getD none = _
    cases (kwargs ++ defaults).lookup c.name <;> rfl
  rw [read]

end GuardianPi.Library.Validation
