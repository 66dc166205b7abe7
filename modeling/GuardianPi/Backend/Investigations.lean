import GuardianPi.Library.Python
import GuardianPi.Library.Transition
import Mathlib.Data.List.Perm.Basic
import Mathlib.Logic.Function.Basic

namespace GuardianPi.Backend
open GuardianPi.Library GuardianPi.Library.Python

structure Investigation where
  status : String
  timeline : Option (List Value)
  findings : Option String
  closedAt : Option String

def Investigation.entries (inv : Investigation) : List Value := inv.timeline.getD []

structure TimelineEntry where
  action : String
  content : String
  metadata : Option (List (String × Value))

inductive Request where
  | addTimelineEntry (entry : TimelineEntry) (user timestamp : String)
  | closeInvestigation (findings user closedAt timestamp : String)

def metadataValue (metadata : Option (List (String × Value))) : Value :=
  match metadata with
  | none => .null
  | some fields => .obj fields

def Request.entry : Request → Value
  | .addTimelineEntry entry user timestamp =>
      .obj [("action", .str entry.action), ("content", .str entry.content),
        ("metadata", metadataValue entry.metadata), ("user", .str user), ("timestamp", .str timestamp)]
  | .closeInvestigation findings user _ timestamp =>
      .obj [("action", .str "closed"), ("content", .str s!"Investigation closed: {findings}"),
        ("user", .str user), ("timestamp", .str timestamp)]

/-- A column is written only where the new value differs from the one that was loaded. -/
def assign {α : Type} [DecidableEq α] (loaded new current : α) : α :=
  if new = loaded then current else new

def Investigation.addTimelineEntry (entry : Value) (loaded current : Investigation) : Investigation :=
  { current with
    timeline := some (loaded.entries ++ [entry])
    status := assign loaded.status "in_progress" current.status }

def Investigation.close (findings closedAt : String) (entry : Value)
    (loaded current : Investigation) : Investigation where
  status := assign loaded.status "closed" current.status
  findings := assign loaded.findings (some findings) current.findings
  closedAt := assign loaded.closedAt (some closedAt) current.closedAt
  timeline := some (loaded.entries ++ [entry])

def Request.write (r : Request) : Investigation → Investigation → Investigation :=
  match r with
  | .addTimelineEntry _ _ _ => Investigation.addTimelineEntry r.entry
  | .closeInvestigation findings _ closedAt _ => Investigation.close findings closedAt r.entry

theorem Request.entries_write (r : Request) (loaded current : Investigation) :
    (r.write loaded current).entries = loaded.entries ++ [r.entry] := by
  cases r <;> rfl

/-! ## Concurrent transactions -/

inductive Phase where
  | waiting
  | loaded (inv : Investigation)
  | flushed (loaded written : Investigation)
  | succeeded
  | failed

structure Database (ι : Type) where
  row : Option Investigation
  lock : Option ι
  phase : ι → Phase
  succeeded : List ι

inductive Action (ι : Type) where
  | select (i : ι)
  | update (i : ι)
  | commit (i : ι)
  | fail (i : ι)

section
variable {ι : Type} [DecidableEq ι] (requests : ι → Request)

def Database.start (row : Option Investigation) : Database ι := ⟨row, none, fun _ => .waiting, []⟩

def Database.setPhase (db : Database ι) (i : ι) (p : Phase) : Database ι :=
  { db with phase := Function.update db.phase i p }

def Database.entries (db : Database ι) : List Value := (db.row.map Investigation.entries).getD []

/-- An UPDATE waits while another transaction holds the row. -/
def databaseStep (db : Database ι) : Action ι → Option (Database ι)
  | .select i =>
      match db.phase i, db.row with
      | .waiting, some inv => some (db.setPhase i (.loaded inv))
      | .waiting, none => some (db.setPhase i .failed)
      | _, _ => none
  | .update i =>
      match db.phase i, db.row, db.lock with
      | .loaded inv, some current, none =>
          some { db.setPhase i (.flushed inv ((requests i).write inv current)) with lock := some i }
      | _, _, _ => none
  | .commit i =>
      match db.phase i with
      | .flushed _ written =>
          some { db.setPhase i .succeeded with
            row := some written, lock := none, succeeded := db.succeeded ++ [i] }
      | _ => none
  | .fail i =>
      match db.phase i with
      | .waiting | .loaded _ => some (db.setPhase i .failed)
      | .flushed _ _ => some { db.setPhase i .failed with lock := none }
      | _ => none

def Fresh (db : Database ι) : Action ι → Prop
  | .commit i => ∀ inv written, db.phase i = .flushed inv written → inv.entries = db.entries
  | _ => True

def Complete (before : List Value) (db : Database ι) : Prop :=
  ∃ added, db.entries = before ++ added ∧
    added.Perm (db.succeeded.map fun i => (requests i).entry)

/-! ## What one step does -/

variable {requests} {db t : Database ι} {a : Action ι} {before : List Value}

theorem databaseStep_spec (taken : databaseStep requests db a = some t) :
    match a with
    | .select i => t.row = db.row ∧ t.succeeded = db.succeeded ∧
        ∃ p, t.phase = Function.update db.phase i p ∧
          (p = .failed ∨ ∃ inv, db.row = some inv ∧ p = .loaded inv)
    | .update i => t.row = db.row ∧ t.succeeded = db.succeeded ∧
        ∃ inv current, db.phase i = .loaded inv ∧
          t.phase = Function.update db.phase i (.flushed inv ((requests i).write inv current))
    | .commit i => ∃ inv written, db.phase i = .flushed inv written ∧ t.row = some written ∧
        t.succeeded = db.succeeded ++ [i] ∧ t.phase = Function.update db.phase i .succeeded
    | .fail i => t.row = db.row ∧ t.succeeded = db.succeeded ∧
        t.phase = Function.update db.phase i .failed := by
  cases a with
  | select i =>
      simp only [databaseStep] at taken
      split at taken
      · rename_i inv _ row
        obtain rfl := Option.some.inj taken
        exact ⟨rfl, rfl, _, rfl, Or.inr ⟨inv, row, rfl⟩⟩
      · obtain rfl := Option.some.inj taken
        exact ⟨rfl, rfl, _, rfl, Or.inl rfl⟩
      · cases taken
  | update i =>
      simp only [databaseStep] at taken
      split at taken
      · rename_i inv current loaded _ _
        obtain rfl := Option.some.inj taken
        exact ⟨rfl, rfl, inv, current, loaded, rfl⟩
      · cases taken
  | commit i =>
      simp only [databaseStep] at taken
      split at taken
      · rename_i inv written flushed
        obtain rfl := Option.some.inj taken
        exact ⟨inv, written, flushed, rfl, rfl, rfl⟩
      · cases taken
  | fail i =>
      simp only [databaseStep] at taken
      split at taken
      · obtain rfl := Option.some.inj taken
        exact ⟨rfl, rfl, rfl⟩
      · obtain rfl := Option.some.inj taken
        exact ⟨rfl, rfl, rfl⟩
      · obtain rfl := Option.some.inj taken
        exact ⟨rfl, rfl, rfl⟩
      · cases taken

def Phase.seen : Phase → Option Investigation
  | .loaded inv | .flushed inv _ => some inv
  | _ => none

structure Bounded (requests : ι → Request) (before : List Value) (db : Database ι) : Prop where
  written : ∀ i inv w, db.phase i = .flushed inv w → w.entries = inv.entries ++ [(requests i).entry]
  committed : db.entries.length ≤ before.length + db.succeeded.length
  seen : ∀ i, ∀ inv ∈ (db.phase i).seen, inv.entries.length ≤ before.length + db.succeeded.length ∧
    (inv.entries.length = before.length + db.succeeded.length → inv.entries = db.entries)

structure Deficient (before : List Value) (db : Database ι) : Prop where
  committed : db.entries.length < before.length + db.succeeded.length
  seen : ∀ i, ∀ inv ∈ (db.phase i).seen, inv.entries.length < before.length + db.succeeded.length

theorem seen_of_update {phase : ι → Phase} {i j : ι} {p : Phase} {inv : Investigation}
    (h : inv ∈ (Function.update phase i p j).seen) : inv ∈ p.seen ∨ inv ∈ (phase j).seen := by
  by_cases same : j = i
  · subst same
    rw [Function.update_self] at h
    exact Or.inl h
  · rw [Function.update_of_ne same] at h
    exact Or.inr h

omit [DecidableEq ι] in
theorem entries_congr {c d : Database ι} (row : c.row = d.row) : c.entries = d.entries := by
  rw [Database.entries, row, Database.entries]

theorem step_keeps (taken : databaseStep requests db a = some t) (other : ∀ i, a ≠ .commit i) :
    t.entries = db.entries ∧ t.succeeded = db.succeeded ∧
      ∀ j, ∀ inv ∈ (t.phase j).seen,
        inv.entries = db.entries ∨ ∃ k, inv ∈ (db.phase k).seen := by
  have spec := databaseStep_spec taken
  cases a with
  | select i =>
      obtain ⟨row, same, p, phase, seen⟩ := spec
      refine ⟨entries_congr row, same, fun j inv h => ?_⟩
      rw [phase] at h
      rcases seen_of_update h with h | h
      · rcases seen with rfl | ⟨loaded, found, rfl⟩
        · cases h
        · obtain rfl := Option.some.inj h
          refine Or.inl ?_
          rw [Database.entries, found]
          rfl
      · exact Or.inr ⟨j, h⟩
  | update i =>
      obtain ⟨row, same, loaded, current, found, phase⟩ := spec
      refine ⟨entries_congr row, same, fun j inv h => Or.inr ?_⟩
      rw [phase] at h
      rcases seen_of_update h with h | h
      · refine ⟨i, ?_⟩
        rw [found]
        exact h
      · exact ⟨j, h⟩
  | commit i => exact absurd rfl (other i)
  | fail i =>
      obtain ⟨row, same, phase⟩ := spec
      refine ⟨entries_congr row, same, fun j inv h => Or.inr ⟨j, ?_⟩⟩
      rw [phase] at h
      rcases seen_of_update h with h | h
      · cases h
      · exact h

theorem step_written (taken : databaseStep requests db a = some t)
    (h : ∀ i inv w, db.phase i = .flushed inv w → w.entries = inv.entries ++ [(requests i).entry])
    (i : ι) (inv w : Investigation) (flushed : t.phase i = .flushed inv w) :
    w.entries = inv.entries ++ [(requests i).entry] := by
  have spec := databaseStep_spec taken
  have old {j : ι} {p : Phase} (phase : t.phase = Function.update db.phase j p)
      (new : ∀ inv w, p ≠ .flushed inv w) : w.entries = inv.entries ++ [(requests i).entry] := by
    rw [phase] at flushed
    by_cases same : i = j
    · subst same
      rw [Function.update_self] at flushed
      exact absurd flushed (new inv w)
    · rw [Function.update_of_ne same] at flushed
      exact h i inv w flushed
  cases a with
  | select j =>
      obtain ⟨-, -, p, phase, seen⟩ := spec
      apply old phase
      rcases seen with rfl | ⟨loaded, -, rfl⟩ <;> exact nofun
  | update j =>
      obtain ⟨-, -, loaded, current, -, phase⟩ := spec
      by_cases same : i = j
      · subst same
        rw [phase, Function.update_self] at flushed
        cases flushed
        exact Request.entries_write _ _ _
      · rw [phase, Function.update_of_ne same] at flushed
        exact h i inv w flushed
  | commit j =>
      obtain ⟨-, -, -, -, -, phase⟩ := spec
      exact old phase nofun
  | fail j =>
      obtain ⟨-, -, phase⟩ := spec
      exact old phase nofun

structure Commits (requests : ι → Request) (db t : Database ι) (i : ι) (inv : Investigation) :
    Prop where
  loaded : inv ∈ (db.phase i).seen
  flushed : ∃ w, db.phase i = .flushed inv w
  entries : t.entries = inv.entries ++ [(requests i).entry]
  succeeded : t.succeeded = db.succeeded ++ [i]
  seen : ∀ j, ∀ other ∈ (t.phase j).seen, other ∈ (db.phase j).seen

omit [DecidableEq ι] in
theorem Commits.length {i : ι} {inv : Investigation} (h : Commits requests db t i inv) :
    t.entries.length = inv.entries.length + 1 ∧ t.succeeded.length = db.succeeded.length + 1 := by
  rw [h.entries, h.succeeded]
  simp

theorem commit_spec (h : Bounded requests before db) {i : ι}
    (taken : databaseStep requests db (.commit i) = some t) : ∃ inv, Commits requests db t i inv := by
  obtain ⟨inv, w, flushed, row, succeeded, phase⟩ := databaseStep_spec taken
  refine ⟨inv, ?_, ⟨w, flushed⟩, ?_, succeeded, ?_⟩
  · rw [flushed]
    rfl
  · rw [Database.entries, row]
    exact h.written i inv w flushed
  · intro j other member
    rw [phase] at member
    rcases seen_of_update member with member | member
    · cases member
    · exact member

theorem step_cases (h : Bounded requests before db) (taken : databaseStep requests db a = some t) :
    (∃ i inv, a = .commit i ∧ Commits requests db t i inv) ∨
      t.entries = db.entries ∧ t.succeeded = db.succeeded ∧ ∀ j, ∀ inv ∈ (t.phase j).seen,
        inv.entries = db.entries ∨ ∃ k, inv ∈ (db.phase k).seen := by
  cases a with
  | commit i =>
      obtain ⟨inv, commits⟩ := commit_spec h taken
      exact Or.inl ⟨i, inv, rfl, commits⟩
  | select i => exact Or.inr (step_keeps taken nofun)
  | update i => exact Or.inr (step_keeps taken nofun)
  | fail i => exact Or.inr (step_keeps taken nofun)

theorem step_bounded (h : Bounded requests before db) (taken : databaseStep requests db a = some t) :
    Bounded requests before t := by
  have written := step_written taken h.written
  rcases step_cases h taken with ⟨i, inv, -, commits⟩ | ⟨entries, succeeded, seen⟩
  · obtain ⟨longer, more⟩ := commits.length
    refine ⟨written, ?_, ?_⟩
    · have := (h.seen i inv commits.loaded).1
      omega
    · intro j other member
      have := (h.seen j other (commits.seen j other member)).1
      constructor
      · omega
      · intro full
        omega
  · refine ⟨written, ?_, ?_⟩
    · rw [entries, succeeded]
      exact h.committed
    · intro j inv member
      rw [succeeded, entries]
      rcases seen j inv member with same | ⟨k, member⟩
      · rw [same]
        exact ⟨h.committed, fun _ => rfl⟩
      · exact h.seen k inv member

/-! ## Lost entries -/

theorem deficient_of_stale (h : Bounded requests before db)
    (taken : databaseStep requests db a = some t) (stale : ¬ Fresh db a) : Deficient before t := by
  cases a with
  | select i => exact absurd trivial stale
  | update i => exact absurd trivial stale
  | fail i => exact absurd trivial stale
  | commit i =>
      obtain ⟨inv, commits⟩ := commit_spec h taken
      obtain ⟨longer, more⟩ := commits.length
      have differ : inv.entries ≠ db.entries := by
        intro same
        apply stale
        intro inv' w' flushed'
        obtain ⟨w, flushed⟩ := commits.flushed
        rw [flushed] at flushed'
        cases flushed'
        exact same
      obtain ⟨bound, present⟩ := h.seen i inv commits.loaded
      have shorter := lt_of_le_of_ne bound (mt present differ)
      constructor
      · omega
      · intro j other member
        have := (h.seen j other (commits.seen j other member)).1
        omega

theorem step_deficient (h : Bounded requests before db) (lost : Deficient before db)
    (taken : databaseStep requests db a = some t) : Deficient before t := by
  rcases step_cases h taken with ⟨i, inv, -, commits⟩ | ⟨entries, succeeded, seen⟩
  · obtain ⟨longer, more⟩ := commits.length
    constructor
    · have := lost.seen i inv commits.loaded
      omega
    · intro j other member
      have := lost.seen j other (commits.seen j other member)
      omega
  · constructor
    · rw [entries, succeeded]
      exact lost.committed
    · intro j inv member
      rw [succeeded]
      rcases seen j inv member with same | ⟨k, member⟩
      · rw [same]
        exact lost.committed
      · exact lost.seen k inv member

omit [DecidableEq ι] in
theorem not_complete_of_deficient (lost : Deficient before db) : ¬ Complete requests before db := by
  rintro ⟨added, entries, perm⟩
  have length := perm.length_eq
  rw [List.length_map] at length
  have := lost.committed
  rw [entries, List.length_append] at this
  omega

theorem step_complete (h : Bounded requests before db) (complete : Complete requests before db)
    (fresh : Fresh db a) (taken : databaseStep requests db a = some t) :
    Complete requests before t := by
  obtain ⟨added, held, perm⟩ := complete
  rcases step_cases h taken with ⟨i, inv, rfl, commits⟩ | ⟨entries, succeeded, -⟩
  · obtain ⟨w, flushed⟩ := commits.flushed
    refine ⟨added ++ [(requests i).entry], ?_, ?_⟩
    · rw [commits.entries, fresh inv w flushed, held, List.append_assoc]
    · rw [commits.succeeded, List.map_append]
      exact perm.append_right _
  · exact ⟨added, entries.trans held, succeeded ▸ perm⟩

omit [DecidableEq ι] in
variable (requests) in
theorem start_bounded (row : Option Investigation) :
    Bounded requests (Database.start (ι := ι) row).entries (Database.start row) :=
  ⟨nofun, Nat.le_refl _, nofun⟩

end

theorem timeline_complete_iff {ι : Type} [DecidableEq ι] (requests : ι → Request)
    (row : Option Investigation) (actions : List (Action ι)) (db : Database ι)
    (reached : run (databaseStep requests) (Database.start row) actions = some db) :
    Complete requests (Database.start (ι := ι) row).entries db ↔
      Along (databaseStep requests) Fresh (Database.start row) actions := by
  have bounded := start_bounded requests row
  constructor
  · intro complete
    apply along_of_run (Q := fun db => ¬ Deficient (Database.start (ι := ι) row).entries db) bounded
      ?_ ?_ ?_ reached
    · intro lost
      exact not_complete_of_deficient lost complete
    · intro _ _ _ h taken
      exact step_bounded h taken
    · intro _ _ _ h taken kept lost
      exact kept (step_deficient h lost taken)
    · intro _ _ _ h taken kept
      by_contra stale
      exact kept (deficient_of_stale h taken stale)
  · intro fresh
    have both : Bounded requests (Database.start (ι := ι) row).entries db ∧
        Complete requests (Database.start (ι := ι) row).entries db := by
      apply run_invariant_along
        (I := fun _ db => Bounded requests (Database.start (ι := ι) row).entries db ∧
          Complete requests (Database.start (ι := ι) row).entries db)
        ⟨bounded, [], by simp, List.Perm.refl _⟩ ?_ fresh reached
      intro _ _ _ _ h allowed taken
      exact ⟨step_bounded h.1 taken, step_complete h.1 h.2 allowed taken⟩
    exact both.2

theorem timeline_complete_iff_sequential :
    let requests (i : Bool) : Request := .closeInvestigation "contained" "a@b" "t" (toString i)
    let row : Option Investigation := some ⟨"open", some [], none, none⟩
    let actions := [Action.select false, .update false, .commit false, .select true, .update true,
      .commit true]
    ∃ db, run (databaseStep requests) (Database.start row) actions = some db ∧
      db.entries.length = 2 ∧ Along (databaseStep requests) Fresh (Database.start row) actions := by
  intro requests row actions
  exact ⟨_, rfl, rfl, (timeline_complete_iff requests row actions _ rfl).mp
    ⟨[(requests false).entry, (requests true).entry], rfl, List.Perm.refl _⟩⟩

theorem timeline_loses_entry :
    let requests (i : Bool) : Request := .closeInvestigation "contained" "a@b" "t" (toString i)
    let row : Option Investigation := some ⟨"open", some [], none, none⟩
    let actions := [Action.select false, .select true, .update false, .commit false, .update true,
      .commit true]
    ∃ db, run (databaseStep requests) (Database.start row) actions = some db ∧
      db.succeeded = [false, true] ∧ ¬ Complete requests [] db := by
  intro requests row actions
  refine ⟨_, rfl, rfl, ?_⟩
  rintro ⟨added, entries, perm⟩
  have length := perm.length_eq
  rw [← List.nil_append added, ← entries] at length
  exact absurd length (by decide)

end GuardianPi.Backend
