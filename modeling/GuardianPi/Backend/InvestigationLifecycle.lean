import GuardianPi.Backend.RowUpdates
import GuardianPi.Backend.Investigations

namespace GuardianPi.Backend
open GuardianPi.Library GuardianPi.Library.Python

def Investigation.Closed (inv : Investigation) : Prop := inv.status = "closed"

def Investigation.Concluded (inv : Investigation) : Prop :=
  inv.closedAt.isSome = true ∧ inv.findings.isSome = true

def Investigation.Consistent (inv : Investigation) : Prop := inv.Closed ↔ inv.Concluded

structure Investigation.Follows (before after : Investigation) : Prop where
  timeline : before.entries <+: after.entries
  closed : before.Closed → after.Closed

def Request.isNote : Request → Bool
  | .addTimelineEntry _ _ _ => true
  | .closeInvestigation _ _ _ _ => false

section
variable {inv : Investigation}

theorem Investigation.Follows.refl (inv : Investigation) : inv.Follows inv :=
  ⟨List.prefix_refl _, id⟩

theorem assign_self {α : Type} [DecidableEq α] (loaded new : α) : assign loaded new loaded = new := by
  unfold assign
  split_ifs with same
  · exact same.symm
  · rfl

theorem write_addTimelineEntry (entry : TimelineEntry) (user timestamp : String) :
    (Request.addTimelineEntry entry user timestamp).write inv inv = { inv with
      timeline := some (inv.entries ++ [(Request.addTimelineEntry entry user timestamp).entry])
      status := "in_progress" } := by
  simp only [Request.write, Investigation.addTimelineEntry, assign_self]

theorem write_closeInvestigation (findings user closedAt timestamp : String) :
    (Request.closeInvestigation findings user closedAt timestamp).write inv inv = {
      status := "closed"
      timeline := some (inv.entries ++ [(Request.closeInvestigation findings user closedAt timestamp).entry])
      findings := some findings
      closedAt := some closedAt } := by
  simp only [Request.write, Investigation.close, assign_self]

theorem consistent_write_iff (consistent : inv.Consistent) (r : Request) :
    (r.write inv inv).Consistent ↔ (r.isNote = true → ¬ inv.Closed) := by
  cases r with
  | addTimelineEntry entry user timestamp =>
      rw [write_addTimelineEntry]
      have reopened : ¬ "in_progress" = "closed" := by decide
      calc
        _ ↔ ¬ inv.Concluded := iff_false_left reopened
        _ ↔ ¬ inv.Closed := not_congr consistent.symm
        _ ↔ _ := ⟨fun opened _ => opened, fun opened => opened rfl⟩
  | closeInvestigation findings user closedAt timestamp =>
      rw [write_closeInvestigation]
      exact iff_of_true (iff_of_true rfl ⟨rfl, rfl⟩) nofun

theorem follows_write {r : Request} (stays : r.isNote = true → ¬ inv.Closed) : inv.Follows (r.write inv inv) where
  timeline := by
    rw [Request.entries_write]
    exact List.prefix_append _ _
  closed := by
    intro closed
    cases r with
    | addTimelineEntry entry user timestamp => exact absurd closed (stays rfl)
    | closeInvestigation findings user closedAt timestamp =>
        rw [write_closeInvestigation]
        rfl

end

end GuardianPi.Backend

namespace GuardianPi.Backend.Responses
open GuardianPi.Library GuardianPi.Library.Python GuardianPi.Library.Validation

def textOf : Option Attribute → Option String
  | some (.str text) => some text
  | _ => none

def isoformat : Option Attribute → Option String
  | some (.datetime text) => some text
  | _ => none

def investigationOf (row : TypedRow Table.investigations.columns) : Investigation where
  status := (textOf (row.get "status")).getD ""
  timeline := some (listOf (row.get "timeline"))
  findings := textOf (row.get "findings")
  closedAt := isoformat (row.get "closed_at")

theorem investigationOf_updates {r : Request} {old inv : TypedRow Table.investigations.columns}
    (made : old.setAll (investigationUpdates r old) = .ok inv) :
    investigationOf inv = r.write (investigationOf old) (investigationOf old) ∧ inv.get "id" = old.get "id" := by
  have mapped : ∀ update ∈ investigationUpdates r old,
      update.1 ∈ Table.investigations.columns.map TypedColumn.name := by
    cases r <;> simp [investigationUpdates, Table.columns]
  have read := get_of_updates mapped made
  constructor
  · unfold investigationOf
    rw [read "status", read "timeline", read "findings", read "closed_at"]
    cases r with
    | addTimelineEntry entry user timestamp =>
        rw [write_addTimelineEntry]
        simp [investigationUpdates, TypedRow.updated, Investigation.entries, textOf, listOf]
    | closeInvestigation findings user closedAt timestamp =>
        rw [write_closeInvestigation]
        simp [investigationUpdates, TypedRow.updated, Investigation.entries, textOf, listOf, isoformat]
  · rw [read]
    cases r <;> simp [investigationUpdates, TypedRow.updated]

section
variable {env : Environment} {currentUser : User} {db : Database} {invId : String} {w : Written}

theorem createInvestigation_eq_ok {r : InvestigationCreate} (made : createInvestigation env currentUser db r = .ok w) :
    ∃ inv : TypedRow Table.investigations.columns, (investigationOf inv).Consistent ∧ w.database = db.append inv := by
  obtain ⟨row, filled, -, rfl⟩ := insert_eq_ok.mp made
  have status : row.get "status" = some (.str "open") := get_of_insert filled (by decide +kernel)
  have closedAt : row.get "closed_at" = none := get_of_insert filled (by decide +kernel)
  refine ⟨row, iff_of_false ?_ ?_, rfl⟩
  · simp [Investigation.Closed, investigationOf, status, textOf]
  · simp [Investigation.Concluded, investigationOf, closedAt, isoformat]

theorem editInvestigation_eq_ok {r : Request} (made : editInvestigation env db invId r = .ok w) :
    ∃ old inv, (db.rows .investigations).filter (fun row => hasId invId row.row) = [old] ∧
      investigationOf inv = r.write (investigationOf old) (investigationOf old) ∧
      inv.get "id" = old.get "id" ∧ w.database = db.replace invId inv := by
  obtain ⟨old, updates, inv, only, assigned, set, -, rfl⟩ := update_eq_ok.mp made
  obtain rfl := Except.ok.inj assigned
  obtain ⟨written, identity⟩ := investigationOf_updates set
  exact ⟨old, inv, only, written, identity, rfl⟩

theorem assignInvestigation_eq_ok {assigneeId : String} (made : assignInvestigation env db invId assigneeId = .ok w) :
    ∃ old inv, (db.rows .investigations).filter (fun row => hasId invId row.row) = [old] ∧
      investigationOf inv = investigationOf old ∧ inv.get "id" = old.get "id" ∧
      w.database = db.replace invId inv := by
  obtain ⟨old, updates, inv, only, assigned, set, -, rfl⟩ := update_eq_ok.mp made
  obtain rfl := Except.ok.inj assigned
  have read := get_of_updates (by simp [Table.columns]) set
  refine ⟨old, inv, only, ?_, ?_, rfl⟩
  · unfold investigationOf
    rw [read "status", read "timeline", read "findings", read "closed_at"]
    simp [TypedRow.updated]
  · simp [read, TypedRow.updated]

end

def InvestigationsKept (db : Database) : Prop :=
  ∀ inv ∈ db.rows .investigations, (investigationOf inv).Consistent

def Continues (db : Database) (s : Served) : Prop :=
  ∀ (i : Nat) (inv : TypedRow Table.investigations.columns), (db.rows .investigations)[i]? = some inv →
    ∃ after : TypedRow Table.investigations.columns, ((db.serve s).rows .investigations)[i]? = some after ∧
      after.get "id" = inv.get "id" ∧ (investigationOf inv).Follows (investigationOf after)

def NoLateNote (db : Database) (s : Served) : Prop :=
  ∀ invId r, s.change = .editInvestigation invId r → r.isNote = true → (∃ w, s.Responds db w) →
    ∀ inv ∈ db.rows .investigations, hasId invId inv.row = true → ¬ (investigationOf inv).Closed

section
variable {db : Database} {s : Served}

inductive Filed (db : Database) (s : Served) : Prop where
  | untouched (rows : (db.serve s).rows .investigations = db.rows .investigations) (allowed : NoLateNote db s)
  | created (inv : TypedRow Table.investigations.columns) (consistent : (investigationOf inv).Consistent)
      (rows : (db.serve s).rows .investigations = db.rows .investigations ++ [inv]) (allowed : NoLateNote db s)
  | assigned (id : String) (old inv : TypedRow Table.investigations.columns)
      (only : (db.rows .investigations).filter (fun row => hasId id row.row) = [old])
      (after : db.serve s = db.replace id inv) (same : investigationOf inv = investigationOf old)
      (identity : inv.get "id" = old.get "id") (allowed : NoLateNote db s)
  | edited (id : String) (r : Request) (old inv : TypedRow Table.investigations.columns)
      (only : (db.rows .investigations).filter (fun row => hasId id row.row) = [old])
      (after : db.serve s = db.replace id inv)
      (written : investigationOf inv = r.write (investigationOf old) (investigationOf old))
      (identity : inv.get "id" = old.get "id")
      (allowed : NoLateNote db s ↔ (r.isNote = true → ¬ (investigationOf old).Closed))

theorem noLateNote_of_ne {c : Change} (change : s.change = c) (other : ∀ id r, c ≠ .editInvestigation id r) :
    NoLateNote db s := by
  intro id r edits
  exact absurd (change.symm.trans edits) (other id r)

theorem filed_of_table (other : s.change.table ≠ .investigations) : Filed db s := by
  refine .untouched (serve_rows_other other) fun id r edits => ?_
  rw [edits] at other
  exact absurd rfl other

theorem filed_serve (db : Database) (s : Served) : Filed db s := by
  rcases serve_cases db s with ⟨same, refused⟩ | ⟨w, responds, after⟩
  · refine .untouched (congrArg (Database.rows · _) same) fun _ _ _ _ answered => ?_
    exact absurd answered.choose_spec (refused _)
  · have made := responds
    unfold Served.Responds at made
    cases change : s.change with
    | submit submission =>
        cases submission with
        | createInvestigation r =>
            rw [change] at made
            obtain ⟨inv, consistent, appended⟩ := createInvestigation_eq_ok made
            refine .created inv consistent ?_ (noLateNote_of_ne change nofun)
            rw [after, appended, rows_append]
        | _ =>
            apply filed_of_table
            rw [change]
            exact nofun
    | rollbackAction actionId r =>
        apply filed_of_table
        rw [change]
        exact nofun
    | deviceHeartbeat deviceId heartbeat =>
        apply filed_of_table
        rw [change]
        exact nofun
    | editInvestigation id r =>
        rw [change] at made
        obtain ⟨old, inv, only, written, identity, replaced⟩ := editInvestigation_eq_ok made
        refine .edited id r old inv only (after.trans replaced) written identity ⟨?_, ?_⟩
        · intro allowed note
          obtain ⟨member, same⟩ := mem_of_only only
          exact allowed id r change note ⟨_, responds⟩ old member same
        · intro stays id' r' edits note _ inv' member same
          obtain ⟨rfl, rfl⟩ := Change.editInvestigation.inj (change.symm.trans edits)
          rw [eq_of_only only member same]
          exact stays note
    | assignInvestigation id assigneeId =>
        rw [change] at made
        obtain ⟨old, inv, only, same, identity, replaced⟩ := assignInvestigation_eq_ok made
        exact .assigned id old inv only (after.trans replaced) same identity (noLateNote_of_ne change nofun)

theorem investigationsKept_serve_iff (kept : InvestigationsKept db) :
    InvestigationsKept (db.serve s) ↔ NoLateNote db s := by
  cases filed_serve db s with
  | untouched rows allowed =>
      refine iff_of_true ?_ allowed
      rw [InvestigationsKept, rows]
      exact kept
  | created inv consistent rows allowed =>
      refine iff_of_true ?_ allowed
      rw [InvestigationsKept, rows]
      exact List.forall_mem_append.mpr ⟨kept, List.forall_mem_singleton.mpr consistent⟩
  | assigned id old inv only after same identity allowed =>
      refine iff_of_true ?_ allowed
      rw [InvestigationsKept, after]
      refine (forall_rows_replace kept only).mpr ?_
      rw [same]
      exact kept old (mem_of_only only).1
  | edited id r old inv only after written identity allowed =>
      rw [allowed, InvestigationsKept, after]
      refine (forall_rows_replace kept only).trans ?_
      rw [written]
      exact consistent_write_iff (kept old (mem_of_only only).1) r

theorem replaced_continues {id : String} {old inv : TypedRow Table.investigations.columns}
    (only : (db.rows .investigations).filter (fun row => hasId id row.row) = [old])
    (after : db.serve s = db.replace id inv) (identity : inv.get "id" = old.get "id")
    (follows : (investigationOf old).Follows (investigationOf inv)) : Continues db s := by
  intro i row found
  rw [after, rows_replace, List.getElem?_map, found]
  refine ⟨_, rfl, ?_⟩
  dsimp only
  split_ifs with same
  · rw [eq_of_only only (List.mem_of_getElem? found) same]
    exact ⟨identity, follows⟩
  · exact ⟨rfl, .refl _⟩

theorem continues_of_noLateNote (allowed : NoLateNote db s) : Continues db s := by
  cases filed_serve db s with
  | untouched rows _ =>
      intro i inv found
      rw [rows]
      exact ⟨inv, found, rfl, .refl _⟩
  | created new _ rows _ =>
      intro i inv found
      obtain ⟨inside, -⟩ := List.getElem?_eq_some_iff.mp found
      rw [rows, List.getElem?_append_left inside]
      exact ⟨inv, found, rfl, .refl _⟩
  | assigned id old inv only after same identity _ =>
      refine replaced_continues only after identity ?_
      rw [same]
      exact .refl _
  | edited id r old inv only after written identity stays =>
      refine replaced_continues only after identity ?_
      rw [written]
      exact follows_write (stays.mp allowed)

end

theorem investigations_kept_iff {start : Database} (kept : InvestigationsKept start) (requests : List Served) :
    Always servedStep InvestigationsKept start requests ∧ Along servedStep Continues start requests ↔
      Along servedStep NoLateNote start requests := by
  have always : Always servedStep InvestigationsKept start requests ↔ Along servedStep NoLateNote start requests := by
    refine always_total_iff_along (I := fun _ => True) trivial kept (fun db s _ here => ?_) requests
    exact ⟨investigationsKept_serve_iff here, fun _ => trivial⟩
  constructor
  · intro ⟨kept, _⟩
    exact always.mp kept
  · intro allowed
    exact ⟨always.mpr allowed, allowed.mono fun _ _ => continues_of_noLateNote⟩

def openCase : Served := servedAt "i1" "2026-01-01T00:00:00+00:00" (.submit (.createInvestigation
  ⟨"Outbound beacon", none, "high", none, none, none, by decide, by decide⟩))

def noteAt (now : String) : Served := servedAt "" now (.editInvestigation "i1"
  (.addTimelineEntry ⟨"evidence", "Memory dump of the host", none⟩ "analyst@example.org" now))

def closeAt (now : String) : Served := servedAt "" now (.editInvestigation "i1"
  (.closeInvestigation "Contained" "analyst@example.org" now now))

theorem closed_case_kept :
    Always servedStep InvestigationsKept .empty [openCase, closeAt "2026-01-02T00:00:00+00:00"] ∧
      Along servedStep Continues .empty [openCase, closeAt "2026-01-02T00:00:00+00:00"] := by
  refine (investigations_kept_iff (fun _ member => absurd member List.not_mem_nil) _).mpr
    ⟨noLateNote_of_ne rfl nofun, fun _ _ => ⟨?_, fun _ _ => trivial⟩⟩
  intro id r edits note
  obtain ⟨-, rfl⟩ := Change.editInvestigation.inj edits
  cases note

theorem late_note_reopens : ¬ (
    Always servedStep InvestigationsKept .empty [openCase, closeAt "2026-01-02T00:00:00+00:00",
      noteAt "2026-01-03T00:00:00+00:00"] ∧
    Along servedStep Continues .empty [openCase, closeAt "2026-01-02T00:00:00+00:00",
      noteAt "2026-01-03T00:00:00+00:00"]) := by
  intro ⟨always, _⟩
  have final := always _ [] (List.append_nil _).symm _ rfl
  unfold InvestigationsKept at final
  generalize after : Database.serve _ _ = db at final
  have columns : (db.rows .investigations).map (fun inv => ((investigationOf inv).status,
      (investigationOf inv).closedAt.isSome, (investigationOf inv).findings.isSome)) = [("in_progress", true, true)] := by
    rw [← after]
    decide +kernel
  obtain ⟨inv, member, read⟩ := List.mem_map.mp (columns ▸ List.mem_singleton_self ("in_progress", true, true))
  simp only [Prod.mk.injEq] at read
  obtain ⟨status, closedAt, findings⟩ := read
  have closed := (final inv member).mpr ⟨closedAt, findings⟩
  exact absurd (status.symm.trans closed) (by decide)

end GuardianPi.Backend.Responses
