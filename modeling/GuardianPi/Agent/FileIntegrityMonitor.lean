import Mathlib.Data.List.AList
import Mathlib.Data.List.Induction

namespace GuardianPi.Agent.FileIntegrityMonitor

/-- `δ` stands for hex digests, which are never empty. -/
abbrev Baseline (δ : Type*) := AList fun _ : String => δ

structure Monitor (δ : Type*) where
  paths : List String
  baseline : Baseline δ

/-- `file` is the content of `fim_baseline.json`, where there is one. -/
structure State (δ : Type*) where
  monitor : Monitor δ
  file : Option (Baseline δ)

inductive Change (δ : Type*) where
  | deleted (path : String)
  | new (path : String)
  | modified (path : String) (previousHash currentHash : δ)
  deriving DecidableEq

def Change.path {δ : Type*} : Change δ → String
  | deleted path | new path | modified path _ _ => path

def Change.changeType {δ : Type*} : Change δ → String
  | deleted _ => "deleted"
  | new _ => "new"
  | modified _ _ _ => "modified"

def Change.title {δ : Type*} : Change δ → String
  | deleted path => s!"Monitored file deleted: {path}"
  | new path => s!"New file in monitored path: {path}"
  | modified path _ _ => s!"File modified: {path}"

def monitoredPaths : String → List String
  | "windows" => ["C:\\Windows\\System32\\drivers\\etc\\hosts", "C:\\Windows\\System32\\config"]
  | "linux" => ["/etc/passwd", "/etc/shadow", "/etc/hosts", "/etc/crontab", "/etc/ssh/sshd_config"]
  | "macos" => ["/etc/hosts", "/etc/passwd", "/etc/ssh/sshd_config"]
  | "raspberrypi" => ["/etc/passwd", "/etc/hosts", "/etc/crontab", "/boot/config.txt"]
  | _ => []

/-- `system` is `platform.system()` in lower case. -/
def paths (system : String) (customPaths : List String) : List String :=
  monitoredPaths (if system = "darwin" then "macos" else system) ++ customPaths

def loadBaseline {δ : Type*} (file : Option (Baseline δ)) : Baseline δ := file.getD ∅

def Monitor.new {δ : Type*} (paths : List String) (file : Option (Baseline δ)) : Monitor δ :=
  ⟨paths, loadBaseline file⟩

def State.start {δ : Type*} (paths : List String) (file : Option (Baseline δ)) : State δ :=
  ⟨.new paths file, file⟩

abbrev FileSystem (α : Type*) := String → Option α

section
variable {α δ : Type*} (sha256 : α → δ) (fs : FileSystem α)

def hashFile (path : String) : Option δ := (fs path).map sha256

def initializeBaseline (s : State δ) : State δ :=
  let baseline := s.monitor.paths.foldl
    (fun baseline path => (hashFile sha256 fs path).elim baseline (baseline.insert path)) s.monitor.baseline
  ⟨{ s.monitor with baseline := baseline }, some baseline⟩

variable [DecidableEq δ]

def checkPath (s : Baseline δ × List (Change δ)) (path : String) : Baseline δ × List (Change δ) :=
  match hashFile sha256 fs path, s.1.lookup path with
  | none, some _ => (s.1, s.2 ++ [.deleted path])
  | some current, none => (s.1.insert path current, s.2 ++ [.new path])
  | some current, some baseline =>
      if current ≠ baseline
      then (s.1.insert path current, s.2 ++ [.modified path baseline current]) else s
  | none, none => s

def check (s : State δ) : State δ × List (Change δ) :=
  if s.monitor.baseline.entries.isEmpty then (initializeBaseline sha256 fs s, [])
  else
    let (baseline, changes) := s.monitor.paths.foldl (checkPath sha256 fs) (s.monitor.baseline, [])
    (⟨{ s.monitor with baseline := baseline }, if changes.isEmpty then s.file else some baseline⟩, changes)

end

/-! ## Runs -/

inductive Event (α : Type*) where
  | initializeBaseline (fs : FileSystem α)
  | check (fs : FileSystem α)
  | restart

def Event.observed {α : Type*} (path : String) : Event α → Option α
  | initializeBaseline fs | check fs => fs path
  | restart => none

def lastSeen {α : Type*} (path : String) (events : List (Event α)) : Option α :=
  events.foldl (fun last e => (e.observed path).or last) none

theorem lastSeen_append {α : Type*} (path : String) (events : List (Event α)) (e : Event α) :
    lastSeen path (events ++ [e]) = (e.observed path).or (lastSeen path events) := by
  simp [lastSeen]

section
variable {α δ : Type*} [DecidableEq δ] (sha256 : α → δ)

def next (s : State δ) : Event α → State δ × List (List (Change δ))
  | .initializeBaseline fs => (initializeBaseline sha256 fs s, [])
  | .check fs => ((check sha256 fs s).1, [(check sha256 fs s).2])
  | .restart => (⟨.new s.monitor.paths s.file, s.file⟩, [])

def after (s : State δ) (events : List (Event α)) : State δ :=
  events.foldl (fun s e => (next sha256 s e).1) s

def reports (s : State δ) : List (Event α) → List (List (Change δ))
  | [] => []
  | e :: events => (next sha256 s e).2 ++ reports (next sha256 s e).1 events

variable {sha256} {fs : FileSystem α}

/-! ## One check -/

theorem checkPath_lookup (s : Baseline δ × List (Change δ)) (path q : String) :
    (checkPath sha256 fs s path).1.lookup q =
      if q = path then (hashFile sha256 fs q).or (s.1.lookup q) else s.1.lookup q := by
  by_cases same : q = path
  · subst q
    unfold checkPath
    rcases hashFile sha256 fs path with _ | current <;> rcases known : s.1.lookup path with _ | baseline <;> simp [known]
    split_ifs with equal <;> simp [known, equal]
  · unfold checkPath
    rcases hashFile sha256 fs path with _ | current <;> rcases s.1.lookup path with _ | baseline <;> simp [same]
    split_ifs <;> simp [same]

theorem foldl_checkPath_lookup (paths : List String) (s : Baseline δ × List (Change δ)) (q : String) :
    (paths.foldl (checkPath sha256 fs) s).1.lookup q =
      if q ∈ paths then (hashFile sha256 fs q).or (s.1.lookup q) else s.1.lookup q := by
  induction paths generalizing s with
  | nil => simp
  | cons path paths ih =>
      rw [List.foldl_cons, ih, checkPath_lookup]
      by_cases same : q = path
      · subst q
        by_cases again : path ∈ paths <;> simp [again, ← Option.or_assoc]
      · simp [same]

omit [DecidableEq δ] in
theorem foldl_initialize_lookup (paths : List String) (b : Baseline δ) (q : String) :
    (paths.foldl (fun b path => (hashFile sha256 fs path).elim b (b.insert path)) b).lookup q =
      if q ∈ paths then (hashFile sha256 fs q).or (b.lookup q) else b.lookup q := by
  induction paths generalizing b with
  | nil => simp
  | cons path paths ih =>
      rw [List.foldl_cons, ih]
      by_cases same : q = path
      · subst q
        by_cases again : path ∈ paths <;> cases hashFile sha256 fs path <;> simp [again]
      · cases hashFile sha256 fs path <;> simp [same]

theorem mem_checkPath (s : Baseline δ × List (Change δ)) (path q : String) (b h : δ) :
    .modified q b h ∈ (checkPath sha256 fs s path).2 ↔ .modified q b h ∈ s.2 ∨
      q = path ∧ s.1.lookup q = some b ∧ hashFile sha256 fs q = some h ∧ h ≠ b := by
  unfold checkPath
  by_cases same : q = path
  · subst q
    rcases current : hashFile sha256 fs path with _ | current <;>
      rcases known : s.1.lookup path with _ | baseline <;> simp
    split_ifs with equal
    · refine ⟨.inl, ?_⟩
      rintro (here | ⟨rfl, rfl, differs⟩)
      · exact here
      · exact absurd equal differs
    · simp only [List.mem_append, List.mem_singleton, Change.modified.injEq, true_and]
      constructor
      · rintro (here | ⟨rfl, rfl⟩)
        · exact .inl here
        · exact .inr ⟨rfl, rfl, equal⟩
      · rintro (here | ⟨rfl, rfl, -⟩)
        · exact .inl here
        · exact .inr ⟨rfl, rfl⟩
  · rcases hashFile sha256 fs path with _ | current <;> rcases s.1.lookup path with _ | baseline <;> simp [same]
    split_ifs <;> simp [same]

theorem mem_foldl_checkPath (paths : List String) (s : Baseline δ × List (Change δ)) (q : String) (b h : δ) :
    .modified q b h ∈ (paths.foldl (checkPath sha256 fs) s).2 ↔ .modified q b h ∈ s.2 ∨
      q ∈ paths ∧ s.1.lookup q = some b ∧ hashFile sha256 fs q = some h ∧ h ≠ b := by
  induction paths generalizing s with
  | nil => simp
  | cons path paths ih =>
      rw [List.foldl_cons, ih, mem_checkPath, checkPath_lookup]
      by_cases same : q = path
      · subst q
        -- the second time the digest is that of the baseline
        have again : ¬ ((hashFile sha256 fs path).or (s.1.lookup path) = some b ∧
            hashFile sha256 fs path = some h ∧ h ≠ b) := by
          rintro ⟨known, current, differs⟩
          simp [current, differs] at known
        simp only [if_true, again, and_false, or_false, List.mem_cons, true_or, true_and]
      · simp [same]

theorem foldl_checkPath_silent (paths : List String) (s : Baseline δ × List (Change δ)) :
    ∃ new, (paths.foldl (checkPath sha256 fs) s).2 = s.2 ++ new ∧
      (new = [] → (paths.foldl (checkPath sha256 fs) s).1 = s.1) := by
  induction paths generalizing s with
  | nil => exact ⟨[], by simp⟩
  | cons path paths ih =>
      have one : ∃ new, (checkPath sha256 fs s path).2 = s.2 ++ new ∧
          (new = [] → (checkPath sha256 fs s path).1 = s.1) := by
        unfold checkPath
        rcases hashFile sha256 fs path with _ | current <;> rcases s.1.lookup path with _ | baseline
        · exact ⟨[], by simp⟩
        · exact ⟨[_], rfl, by simp⟩
        · exact ⟨[_], rfl, by simp⟩
        · simp only
          split_ifs
          · exact ⟨[_], rfl, by simp⟩
          · exact ⟨[], by simp⟩
      obtain ⟨first, reported, kept⟩ := one
      obtain ⟨rest, reported', kept'⟩ := ih (checkPath sha256 fs s path)
      refine ⟨first ++ rest, by rw [List.foldl_cons, reported', reported, List.append_assoc], ?_⟩
      intro silent
      obtain ⟨noFirst, noRest⟩ := List.append_eq_nil_iff.mp silent
      rw [List.foldl_cons, kept' noRest, kept noFirst]

omit [DecidableEq δ] in
theorem initializeBaseline_lookup (s : State δ) (q : String) :
    (initializeBaseline sha256 fs s).monitor.baseline.lookup q =
      if q ∈ s.monitor.paths then (hashFile sha256 fs q).or (s.monitor.baseline.lookup q)
      else s.monitor.baseline.lookup q :=
  foldl_initialize_lookup s.monitor.paths s.monitor.baseline q

theorem check_lookup (s : State δ) (q : String) :
    (check sha256 fs s).1.monitor.baseline.lookup q =
      if q ∈ s.monitor.paths then (hashFile sha256 fs q).or (s.monitor.baseline.lookup q)
      else s.monitor.baseline.lookup q := by
  unfold check
  by_cases empty : s.monitor.baseline.entries.isEmpty = true
  · rw [if_pos empty]
    exact initializeBaseline_lookup s q
  · rw [if_neg empty]
    exact foldl_checkPath_lookup s.monitor.paths (s.monitor.baseline, []) q

def State.Saved (s : State δ) : Prop := s.monitor.baseline = loadBaseline s.file

theorem check_saved {s : State δ} (saved : s.Saved) : (check sha256 fs s).1.Saved := by
  unfold check
  by_cases empty : s.monitor.baseline.entries.isEmpty = true
  · rw [if_pos empty]
    rfl
  · rw [if_neg empty]
    have silent : ∃ new, (s.monitor.paths.foldl (checkPath sha256 fs) (s.monitor.baseline, [])).2 = [] ++ new ∧
        (new = [] → (s.monitor.paths.foldl (checkPath sha256 fs) (s.monitor.baseline, [])).1 =
          s.monitor.baseline) := foldl_checkPath_silent _ _
    obtain ⟨new, reported, kept⟩ := silent
    rcases walked : s.monitor.paths.foldl (checkPath sha256 fs) (s.monitor.baseline, []) with
      ⟨baseline, changes⟩
    simp only [walked, List.nil_append] at reported kept ⊢
    subst reported
    cases changes with
    | nil => exact (kept rfl).trans saved
    | cons change changes => rfl

theorem next_saved {s : State δ} (saved : s.Saved) (e : Event α) : (next sha256 s e).1.Saved := by
  cases e with
  | initializeBaseline fs => rfl
  | check fs => exact check_saved saved
  | restart => rfl

theorem next_paths (s : State δ) (e : Event α) : (next sha256 s e).1.monitor.paths = s.monitor.paths := by
  cases e with
  | initializeBaseline fs => rfl
  | check fs =>
      simp only [next, check]
      split_ifs <;> rfl
  | restart => rfl

theorem next_lookup {s : State δ} (saved : s.Saved) (e : Event α) {q : String} (monitored : q ∈ s.monitor.paths) :
    (next sha256 s e).1.monitor.baseline.lookup q =
      ((e.observed q).map sha256).or (s.monitor.baseline.lookup q) := by
  cases e with
  | initializeBaseline fs =>
      simp only [next, initializeBaseline_lookup, monitored, if_true]
      rfl
  | check fs =>
      simp only [next, check_lookup, monitored, if_true]
      rfl
  | restart =>
      rw [saved]
      rfl

theorem after_append (s : State δ) (events later : List (Event α)) :
    after sha256 s (events ++ later) = after sha256 (after sha256 s events) later := List.foldl_append

theorem after_saved {s : State δ} (saved : s.Saved) (events : List (Event α)) :
    (after sha256 s events).Saved := by
  induction events generalizing s with
  | nil => exact saved
  | cons e events ih => exact ih (next_saved saved e)

theorem after_paths (s : State δ) (events : List (Event α)) :
    (after sha256 s events).monitor.paths = s.monitor.paths := by
  induction events generalizing s with
  | nil => rfl
  | cons e events ih => exact (ih (next sha256 s e).1).trans (next_paths s e)

theorem after_lookup {s : State δ} (saved : s.Saved) (events : List (Event α)) {q : String}
    (monitored : q ∈ s.monitor.paths) :
    (after sha256 s events).monitor.baseline.lookup q =
      ((lastSeen q events).map sha256).or (s.monitor.baseline.lookup q) := by
  induction events using List.reverseRecOn with
  | nil => rfl
  | append_singleton events e ih =>
      have monitored' : q ∈ (after sha256 s events).monitor.paths := by rwa [after_paths]
      rw [after_append]
      refine (next_lookup (after_saved saved events) e monitored').trans ?_
      rw [ih, ← Option.or_assoc, lastSeen_append]
      cases e.observed q <;> simp

theorem reports_append (s : State δ) (events later : List (Event α)) :
    reports sha256 s (events ++ later) =
      reports sha256 s events ++ reports sha256 (after sha256 s events) later := by
  induction events generalizing s with
  | nil => rfl
  | cons e events ih => simp only [List.cons_append, reports, ih, List.append_assoc, after, List.foldl_cons]

theorem restart_eq {s : State δ} (saved : s.Saved) : next (α := α) sha256 s .restart = (s, []) := by
  rcases s with ⟨⟨paths, baseline⟩, file⟩
  obtain rfl : baseline = loadBaseline file := saved
  rfl

theorem mem_check {s : State δ} (nonempty : s.monitor.baseline ≠ ∅) (q : String) (b h : δ) :
    .modified q b h ∈ (check sha256 fs s).2 ↔ q ∈ s.monitor.paths ∧
      s.monitor.baseline.lookup q = some b ∧ hashFile sha256 fs q = some h ∧ h ≠ b := by
  have some_entry : s.monitor.baseline.entries.isEmpty = false := by
    rw [List.isEmpty_eq_false_iff]
    exact fun none => nonempty (AList.ext none)
  simp only [check, some_entry, Bool.false_eq_true, if_false]
  refine (mem_foldl_checkPath s.monitor.paths _ q b h).trans ?_
  simp

theorem baseline_follows (system : String) (customPaths : List String) (file : Option (Baseline δ))
    (events : List (Event α)) :
    let start : State δ := .start (paths system customPaths) file
    let s := after sha256 start events
    (∀ q ∈ paths system customPaths, s.monitor.baseline.lookup q =
      ((lastSeen q events).map sha256).or ((loadBaseline file).lookup q)) ∧
    (s.monitor.baseline ≠ ∅ → ∀ fs q b h, .modified q b h ∈ (check sha256 fs s).2 ↔
      q ∈ paths system customPaths ∧ s.monitor.baseline.lookup q = some b ∧
        hashFile sha256 fs q = some h ∧ h ≠ b) ∧
    ∀ later, reports sha256 start (events ++ .restart :: later) = reports sha256 start (events ++ later) := by
  have saved : (State.start (paths system customPaths) file).Saved := rfl
  refine ⟨fun q monitored => after_lookup saved events monitored, fun nonempty fs q b h => ?_, fun later => ?_⟩
  · have same : (after sha256 (.start (paths system customPaths) file) events).monitor.paths =
        paths system customPaths := after_paths _ events
    rw [mem_check nonempty, same]
  · rw [reports_append, reports_append, reports, restart_eq (after_saved saved events)]
    rfl

/-! ## Reports and changes -/

def changeOf (path : String) (current known : Option δ) : Option (Change δ) :=
  match current, known with
  | none, some _ => some (.deleted path)
  | some _, none => some (.new path)
  | some current, some known => if current ≠ known then some (.modified path known current) else none
  | none, none => none

theorem changeOf_path {path : String} {current known : Option δ} {c : Change δ}
    (change : changeOf path current known = some c) : c.path = path := by
  unfold changeOf at change
  split at change
  · exact Option.some.inj change ▸ rfl
  · exact Option.some.inj change ▸ rfl
  · split_ifs at change
    exact Option.some.inj change ▸ rfl
  · cases change

theorem checkPath_changes (s : Baseline δ × List (Change δ)) (path : String) :
    (checkPath sha256 fs s path).2 =
      s.2 ++ (changeOf path (hashFile sha256 fs path) (s.1.lookup path)).toList := by
  unfold checkPath changeOf
  rcases hashFile sha256 fs path with _ | current <;> rcases s.1.lookup path with _ | known <;> simp
  split_ifs <;> simp

theorem foldl_checkPath_changes {paths : List String} (distinct : paths.Nodup)
    (s : Baseline δ × List (Change δ)) :
    (paths.foldl (checkPath sha256 fs) s).2 =
      s.2 ++ paths.filterMap fun q => changeOf q (hashFile sha256 fs q) (s.1.lookup q) := by
  induction paths generalizing s with
  | nil => simp
  | cons path paths ih =>
      obtain ⟨once, distinct⟩ := List.nodup_cons.mp distinct
      have rest : (paths.filterMap fun q => changeOf q (hashFile sha256 fs q) ((checkPath sha256 fs s path).1.lookup q)) =
          paths.filterMap fun q => changeOf q (hashFile sha256 fs q) (s.1.lookup q) := by
        refine List.filterMap_congr fun q here => ?_
        have other : q ≠ path := fun same => once (same ▸ here)
        rw [checkPath_lookup, if_neg other]
      rw [List.foldl_cons, ih distinct, rest, checkPath_changes, List.append_assoc]
      cases reported : changeOf path (hashFile sha256 fs path) (s.1.lookup path) <;>
        simp [reported]

def Change.brief (c : Change δ) : String × Bool := (c.path, c.changeType = "deleted")

def observedChanges [DecidableEq α] (paths : List String) (prev fs : FileSystem α) : List (String × Bool) :=
  paths.filterMap fun q => if fs q ≠ prev q then some (q, (fs q).isNone) else none

theorem filterMap_eq_iff {l : List String} {f g : String → Option (String × Bool)}
    (own : ∀ q r, f q = some r → r.1 = q) (own' : ∀ q r, g q = some r → r.1 = q) :
    l.filterMap f = l.filterMap g ↔ ∀ q ∈ l, f q = g q := by
  refine ⟨fun same q here => ?_, List.filterMap_congr⟩
  have also : ∀ {f g : String → Option (String × Bool)}, (∀ q r, f q = some r → r.1 = q) →
      (∀ q r, g q = some r → r.1 = q) → l.filterMap f = l.filterMap g → ∀ r, f q = some r → g q = some r := by
    intro f g own own' same r found
    have listed : r ∈ l.filterMap g := same ▸ List.mem_filterMap.mpr ⟨q, here, found⟩
    obtain ⟨q', -, found'⟩ := List.mem_filterMap.mp listed
    rwa [← own q r found, own' q' r found']
  ext r
  exact ⟨also own own' same r, also own' own same.symm r⟩

/-- A path that was gone is there with other content than is on record, if anything is. -/
def Renewed (sha256 : α → δ) (prev fs : FileSystem α) (q : String) (known : Option δ) : Prop :=
  prev q = none → ∀ b, known = some b → ∃ c, fs q = some c ∧ sha256 c ≠ b

theorem changeOf_brief_iff [DecidableEq α] (injective : Function.Injective sha256) {prev fs : FileSystem α}
    {q : String} {known : Option δ} (last : ∀ c, prev q = some c → known = some (sha256 c)) :
    (changeOf q (hashFile sha256 fs q) known).map Change.brief =
        (if fs q ≠ prev q then some (q, (fs q).isNone) else none) ↔
      Renewed sha256 prev fs q known := by
  unfold Renewed hashFile
  cases before : prev q with
  | some c =>
      rw [last c before]
      rcases now : fs q with _ | d
      · simp [changeOf, Change.brief, Change.path, Change.changeType]
      · by_cases same : d = c
        · simp [changeOf, same]
        · simp [changeOf, same, injective.eq_iff, Change.brief, Change.path, Change.changeType]
  | none =>
      rcases now : fs q with _ | d <;> rcases known with _ | b
      · simp [changeOf]
      · simp [changeOf]
      · simp [changeOf, Change.brief, Change.path, Change.changeType]
      · by_cases same : sha256 d = b
        · simp [changeOf, same]
        · simp [changeOf, same, Change.brief, Change.path, Change.changeType]

/-- The digest on record after these checks, with the file that the monitor was started on. -/
def onRecord (sha256 : α → δ) (file : Option (Baseline δ)) (states : List (FileSystem α)) (q : String) : Option δ :=
  ((lastSeen q (states.map .check)).map sha256).or ((loadBaseline file).lookup q)

/-- Each check after the first, unless nothing is on record, reports the changes since the check
before it. -/
def ReportsChanges [DecidableEq α] (sha256 : α → δ) (paths : List String) (file : Option (Baseline δ))
    (states : List (FileSystem α)) : Prop :=
  ∀ past prev fs rest, states = past ++ prev :: fs :: rest →
    let s := after sha256 (.start paths file) ((past ++ [prev]).map .check)
    s.monitor.baseline ≠ ∅ → (check sha256 fs s).2.map Change.brief = observedChanges paths prev fs

theorem lastSeen_concat {past : List (FileSystem α)} {prev : FileSystem α} {q : String} {c : α}
    (readable : prev q = some c) : lastSeen q ((past ++ [prev]).map .check) = some c := by
  rw [List.map_append, List.map_singleton, lastSeen_append]
  simp [Event.observed, readable]

theorem check_reports_iff [DecidableEq α] (injective : Function.Injective sha256) {paths : List String}
    (distinct : paths.Nodup) (file : Option (Baseline δ)) (past : List (FileSystem α)) (prev fs : FileSystem α) :
    let s := after sha256 (.start paths file) ((past ++ [prev]).map .check)
    (s.monitor.baseline ≠ ∅ → (check sha256 fs s).2.map Change.brief = observedChanges paths prev fs) ↔
      ∀ q ∈ paths, Renewed sha256 prev fs q (onRecord sha256 file (past ++ [prev]) q) := by
  intro s
  have record : ∀ q ∈ paths, s.monitor.baseline.lookup q = onRecord sha256 file (past ++ [prev]) q :=
    fun q here => after_lookup (s := .start paths file) rfl _ here
  by_cases empty : s.monitor.baseline = ∅
  · refine iff_of_true (fun nonempty => absurd empty nonempty) fun q here _ b known => ?_
    rw [← record q here, empty] at known
    cases known
  · have some_entry : s.monitor.baseline.entries.isEmpty = false := by
      rw [List.isEmpty_eq_false_iff]
      exact fun none => empty (AList.ext none)
    have walked : (check sha256 fs s).2 =
        paths.filterMap fun q => changeOf q (hashFile sha256 fs q) (s.monitor.baseline.lookup q) := by
      have same : s.monitor.paths = paths := after_paths _ _
      simp only [check, some_entry, Bool.false_eq_true, if_false, same, foldl_checkPath_changes distinct,
        List.nil_append]
    simp only [ne_eq, empty, not_false_eq_true, true_imp_iff]
    rw [walked, List.map_filterMap, observedChanges, filterMap_eq_iff]
    · refine forall₂_congr fun q here => ?_
      rw [record q here]
      refine changeOf_brief_iff injective fun c readable => ?_
      rw [onRecord, lastSeen_concat readable]
      rfl
    · intro q r reported
      obtain ⟨c, change, rfl⟩ := Option.map_eq_some_iff.mp reported
      exact changeOf_path change
    · intro q r reported
      split_ifs at reported
      obtain rfl := Option.some.inj reported
      rfl

theorem reports_changes_iff [DecidableEq α] (injective : Function.Injective sha256) (system : String)
    (customPaths : List String) (distinct : (paths system customPaths).Nodup) (file : Option (Baseline δ))
    (states : List (FileSystem α)) :
    ReportsChanges sha256 (paths system customPaths) file states ↔
      ∀ past prev fs rest, states = past ++ prev :: fs :: rest → ∀ q ∈ paths system customPaths,
        Renewed sha256 prev fs q (onRecord sha256 file (past ++ [prev]) q) :=
  forall₅_congr fun past prev fs _ _ => check_reports_iff injective distinct file past prev fs

end

def hostsAndShadow (hosts shadow : Option String) : FileSystem String := fun q =>
  if q = "/etc/hosts" then hosts else if q = "/etc/shadow" then shadow else some "a"

theorem returned_file_reported : ReportsChanges (α := String) id (paths "linux" []) none
    [hostsAndShadow (some "a") none, hostsAndShadow none none, hostsAndShadow (some "b") (some "c")] := by
  refine (reports_changes_iff Function.injective_id "linux" [] (by decide) none _).mpr ?_
  intro past prev fs rest split q _ gone b known
  rcases past with _ | ⟨first, _ | ⟨second, past⟩⟩
  · obtain ⟨rfl, -⟩ := List.cons.inj split
    have absent : onRecord id none [hostsAndShadow (some "a") none] q = none := by
      simp [onRecord, lastSeen, Event.observed, gone, loadBaseline]
    cases absent.symm.trans known
  · simp only [List.cons_append, List.nil_append, List.cons.injEq] at split
    obtain ⟨rfl, rfl, rfl, -⟩ := split
    have record : onRecord id none ([hostsAndShadow (some "a") none] ++ [hostsAndShadow none none]) q =
        hostsAndShadow (some "a") none q := by
      simp [onRecord, lastSeen, Event.observed, gone, loadBaseline]
    rw [record] at known
    by_cases hosts : q = "/etc/hosts"
    · subst q
      obtain rfl : "a" = b := Option.some.inj known
      exact ⟨"b", rfl, by decide⟩
    · have same : hostsAndShadow (some "a") none q = hostsAndShadow none none q := by
        rw [hostsAndShadow, hostsAndShadow, if_neg hosts, if_neg hosts]
      cases known.symm.trans (same.trans gone)
  · have short := congrArg List.length split
    simp only [List.length_cons, List.length_append, List.length_nil] at short
    omega

theorem deletion_reported_again : ¬ ∀ (sha256 : String → String), Function.Injective sha256 →
    ∀ (system : String) (customPaths : List String), (paths system customPaths).Nodup →
      ∀ file states, ReportsChanges sha256 (paths system customPaths) file states := by
  intro reports
  let there : FileSystem String := fun _ => some "a"
  let gone : FileSystem String := fun q => if q = "/etc/hosts" then none else some "a"
  have distinct : (paths "linux" []).Nodup := by decide
  have exact_report := (check_reports_iff Function.injective_id distinct none [there] gone gone).mp
    (reports id Function.injective_id "linux" [] distinct none [there, gone, gone] [there] gone gone [] rfl)
  obtain ⟨c, back, -⟩ := exact_report "/etc/hosts" (by decide) rfl "a" rfl
  cases back

end GuardianPi.Agent.FileIntegrityMonitor
