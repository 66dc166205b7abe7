import GuardianPi.Library.Python

namespace GuardianPi.Library.Orm
open GuardianPi.Library.Python

variable {V : Type}

/-- A mapped column; its default is what an insert that leaves it out would fill in. -/
structure Column (V : Type) where
  name : String
  accepts : V → Bool
  nullable : Bool
  default : Option V

abbrev Fields (V : Type) := List (String × Option V)

def construct (attributes : List String) (kwargs : Fields V) : Except PyError (Fields V) :=
  if ∀ kw ∈ kwargs, kw.1 ∈ attributes then .ok kwargs else .error .typeError

theorem construct_error {attributes : List String} {kwargs : Fields V} {kw : String × Option V}
    (given : kw ∈ kwargs) (unmapped : kw.1 ∉ attributes) :
    construct attributes kwargs = .error .typeError :=
  if_neg fun all => unmapped (all kw given)

def fillColumn (kwargs : Fields V) (c : Column V) : Except PyError (String × Option V) :=
  match (kwargs.lookup c.name).getD c.default with
  | none => if c.nullable then .ok (c.name, none) else .error .integrityError
  | some v => if c.accepts v then .ok (c.name, some v) else .error .integrityError

def fill (columns : List (Column V)) (kwargs : Fields V) : Except PyError (Fields V) :=
  columns.mapM (fillColumn kwargs)

theorem fillColumn_eq_ok {kwargs : Fields V} {c : Column V} {cell : String × Option V}
    (h : fillColumn kwargs c = .ok cell) :
    cell = (c.name, (kwargs.lookup c.name).getD c.default) := by
  unfold fillColumn at h
  split at h
  · rename_i absent
    split_ifs at h
    rw [absent]
    exact (Except.ok.inj h).symm
  · rename_i v given
    split_ifs at h
    rw [given]
    exact (Except.ok.inj h).symm

def Column.admits (c : Column V) (cell : Option V) : Bool :=
  match cell with
  | none => c.nullable
  | some v => c.accepts v

theorem exists_fillColumn_iff {kwargs : Fields V} {c : Column V} :
    (∃ cell, fillColumn kwargs c = .ok cell) ↔
      c.admits ((kwargs.lookup c.name).getD c.default) = true := by
  unfold fillColumn Column.admits
  split
  · split_ifs with nullable <;> simp [nullable]
  · rename_i v _
    split_ifs with accepted <;> simp [accepted]

theorem exists_fill_iff {columns : List (Column V)} {kwargs : Fields V} :
    (∃ row, fill columns kwargs = .ok row) ↔
      ∀ c ∈ columns, c.admits ((kwargs.lookup c.name).getD c.default) = true := by
  simp only [fill, exists_mapM_eq_ok, exists_fillColumn_iff]

theorem fill_eq_ok {columns : List (Column V)} {kwargs row : Fields V} (h : fill columns kwargs = .ok row) :
    row = columns.map fun c => (c.name, (kwargs.lookup c.name).getD c.default) := by
  have filled := mapM_eq_ok.mp h
  clear h
  induction filled with
  | nil => rfl
  | cons here _ ih => rw [fillColumn_eq_ok here, ih, List.map_cons]

theorem lookup_of_forall₂ {C W : Type} {key : C → String} {R : C → W → Prop} {cs : List C} {cells : List (String × W)}
    (each : List.Forall₂ (fun c cell => cell.1 = key c ∧ R c cell.2) cs cells) (distinct : (cs.map key).Nodup)
    {c : C} (member : c ∈ cs) : ∃ v, cells.lookup (key c) = some v ∧ R c v := by
  induction each with
  | nil => cases member
  | @cons first cell cs cells here _ ih =>
      obtain ⟨name, v⟩ := cell
      obtain ⟨rfl, related⟩ := here
      rw [List.map_cons, List.nodup_cons] at distinct
      rcases List.mem_cons.mp member with rfl | member
      · exact ⟨v, List.lookup_cons_self, related⟩
      · have other : (key c == key first) = false := by
          rw [beq_eq_false_iff_ne]
          intro same
          exact distinct.1 (same ▸ List.mem_map_of_mem member)
        rw [List.lookup_cons, other]
        exact ih distinct.2 member

theorem lookup_map_of_nodup {C W : Type} {key : C → String} (f : C → W) {cs : List C} (distinct : (cs.map key).Nodup)
    {c : C} (member : c ∈ cs) : (cs.map fun c => (key c, f c)).lookup (key c) = some (f c) := by
  have each : List.Forall₂ (fun c cell => cell.1 = key c ∧ cell.2 = f c) cs (cs.map fun c => (key c, f c)) :=
    List.forall₂_map_right_iff.mpr (List.forall₂_same.mpr fun _ _ => ⟨rfl, rfl⟩)
  obtain ⟨_, found, rfl⟩ := lookup_of_forall₂ (R := fun c v => v = f c) each distinct member
  exact found

theorem lookup_fill {columns : List (Column V)} {kwargs row : Fields V}
    (h : fill columns kwargs = .ok row) {c : Column V} (member : c ∈ columns)
    (distinct : (columns.map Column.name).Nodup) :
    row.lookup c.name = some ((kwargs.lookup c.name).getD c.default) := by
  rw [fill_eq_ok h]
  exact lookup_map_of_nodup _ distinct member

def getAttribute (row : Fields V) (name : String) : Except PyError (Option V) :=
  match row.lookup name with
  | some v => .ok v
  | none => .error .attributeError

def setAttribute (row : Fields V) (name : String) (v : Option V) : Fields V :=
  row.map fun cell => if cell.1 = name then (name, v) else cell

theorem lookup_cons_ite (key other : String) (v : Option V) (row : Fields V) :
    ((key, v) :: row).lookup other = if other = key then some v else row.lookup other := by
  by_cases same : other = key
  · rw [if_pos same, same]
    exact List.lookup_cons_self
  · rw [if_neg same, List.lookup_cons, beq_eq_false_iff_ne.mpr same]

theorem lookup_setAttribute (row : Fields V) (name other : String) (v : Option V) :
    (setAttribute row name v).lookup other =
      if other = name then (row.lookup name).map fun _ => v else row.lookup other := by
  induction row with
  | nil => simp [setAttribute]
  | cons cell row ih =>
      obtain ⟨key, old⟩ := cell
      have moved : setAttribute ((key, old) :: row) name v =
          (key, if key = name then v else old) :: setAttribute row name v := by
        unfold setAttribute
        by_cases here : key = name
        · subst key
          simp
        · simp [here]
      rw [moved, lookup_cons_ite, ih, lookup_cons_ite, lookup_cons_ite]
      by_cases asked : other = name
      · subst other
        by_cases here : name = key
        · simp [here]
        · simp [here]
      · by_cases here : other = key
        · subst key
          simp [asked]
        · simp [asked, here]

end GuardianPi.Library.Orm
