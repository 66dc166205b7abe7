import GuardianPi.EdgeAgent.Sender
import Mathlib.Data.List.Infix
import Mathlib.Logic.Function.Basic

namespace GuardianPi.EdgeAgent
open GuardianPi.Library

structure File where
  object : Nat
  content : List UInt8
  readable : Bool

/-- Every path has a file object of its own, and no object is used again. -/
structure FileSystem where
  file : String → Option File
  nextObject : Nat
  fresh : ∀ path, ∀ f ∈ file path, f.object < nextObject
  single : ∀ path path', ∀ f ∈ file path, ∀ f' ∈ file path', f.object = f'.object → path = path'

/-- A write in place, which the watcher may report several times, or a new file renamed over the
path. -/
inductive Change where
  | write (path : String) (content : List UInt8) (again : Nat)
  | replace (path : String) (content : List UInt8) (readable : Bool)

def FileSystem.content (files : FileSystem) (path : String) : Option (List UInt8) :=
  (files.file path).map File.content

def FileSystem.write (files : FileSystem) (path : String) (content : List UInt8) : FileSystem where
  file := Function.update files.file path
    ((files.file path).map fun f => { f with content := content })
  nextObject := files.nextObject
  fresh := by
    intro p f here
    by_cases same : p = path
    · subst same
      rw [Function.update_self, Option.mem_map] at here
      obtain ⟨g, found, rfl⟩ := here
      exact files.fresh p g found
    · rw [Function.update_of_ne same] at here
      exact files.fresh p f here
  single := by
    have object : ∀ p, ∀ f ∈ Function.update files.file path
        ((files.file path).map fun f => { f with content := content }) p,
        ∃ g ∈ files.file p, g.object = f.object := by
      intro p f here
      by_cases same : p = path
      · subst same
        rw [Function.update_self, Option.mem_map] at here
        obtain ⟨g, found, rfl⟩ := here
        exact ⟨g, found, rfl⟩
      · rw [Function.update_of_ne same] at here
        exact ⟨f, here, rfl⟩
    intro p p' f here f' here' equal
    obtain ⟨g, found, sameObject⟩ := object p f here
    obtain ⟨g', found', sameObject'⟩ := object p' f' here'
    exact files.single p p' g found g' found' (by rw [sameObject, sameObject', equal])

def FileSystem.replace (files : FileSystem) (path : String) (content : List UInt8)
    (readable : Bool) : FileSystem where
  file := Function.update files.file path (some ⟨files.nextObject, content, readable⟩)
  nextObject := files.nextObject + 1
  fresh := by
    intro p f here
    by_cases same : p = path
    · subst same
      rw [Function.update_self, Option.mem_some_iff] at here
      rw [← here]
      exact Nat.lt_succ_self _
    · rw [Function.update_of_ne same] at here
      exact Nat.lt_succ_of_lt (files.fresh p f here)
  single := by
    intro p p' f here f' here' equal
    by_cases same : p = path
    · by_cases same' : p' = path
      · rw [same, same']
      · subst same
        rw [Function.update_self, Option.mem_some_iff] at here
        rw [Function.update_of_ne same'] at here'
        have less := files.fresh p' f' here'
        rw [← equal, ← here] at less
        exact absurd less (Nat.lt_irrefl _)
    · rw [Function.update_of_ne same] at here
      by_cases same' : p' = path
      · subst same'
        rw [Function.update_self, Option.mem_some_iff] at here'
        have less := files.fresh p f here
        rw [equal, ← here'] at less
        exact absurd less (Nat.lt_irrefl _)
      · rw [Function.update_of_ne same'] at here'
        exact files.single p p' f here f' here' equal

def FileSystem.apply (files : FileSystem) : Change → FileSystem
  | .write path content _ => files.write path content
  | .replace path content readable => files.replace path content readable

def Change.path : Change → String
  | .write path _ _ => path
  | .replace path _ _ => path

def Change.Replaces (c : Change) (path : String) : Prop :=
  ∃ content readable, c = .replace path content readable

/-- A watch of fsnotify, which follows the object that the path named when it was added. -/
structure Watch where
  path : String
  object : Nat
  deriving DecidableEq

def opWrite : UInt32 := 2

def opRemove : UInt32 := 4

def opRename : UInt32 := 8

def opChmod : UInt32 := 16

structure Notice where
  name : String
  op : UInt32

def watcherAdd (files : FileSystem) (watches : List Watch) (path : String) : List Watch :=
  match files.file path with
  | none => watches
  | some f => if f.readable then watches.insert ⟨path, f.object⟩ else watches

/-- What the watcher reports of a change: the object that loses its last name is reported as removed,
after the change of its attributes. -/
def notices (files : FileSystem) (watches : List Watch) (c : Change) : List Notice :=
  match files.file c.path with
  | none => []
  | some f =>
      (watches.filter fun w => w.object = f.object).flatMap fun w =>
        match c with
        | .write _ _ again => List.replicate (again + 1) ⟨w.path, opWrite⟩
        | .replace _ _ _ => [⟨w.path, opChmod⟩, ⟨w.path, opRemove⟩]

def keptWatches (files : FileSystem) (watches : List Watch) : Change → List Watch
  | .write _ _ _ => watches
  | .replace path _ _ =>
      match files.file path with
      | none => watches
      | some f => watches.filter fun w => w.object ≠ f.object

/-! ## `RunFileIntegrity` -/

section
variable (sha256 : List UInt8 → List UInt8) (clock : Nat → Int)

def hexText (bytes : List UInt8) : String :=
  String.ofList (bytes.flatMap fun b => [Nat.digitChar (b.toNat / 16), Nat.digitChar (b.toNat % 16)])

def hashText (content : List UInt8) : String := hexText (sha256 content)

def hashFile (files : FileSystem) (path : String) : Option String :=
  match files.file path with
  | none => none
  | some f => if f.readable then some (hashText sha256 f.content) else none

structure FileMonitor where
  baseline : String → Option String
  watches : List Watch
  sent : List Event

def fileEvent (now : Int) (path changeType oldHash newHash : String) : Event where
  eventType := "file_integrity"
  severity := "high"
  title := "File " ++ changeType ++ ": " ++ path
  details := some [("change_type", .str changeType), ("current_hash", .str newHash),
    ("path", .str path), ("previous_hash", .str oldHash)]
  timestamp := formatRFC3339 now

def Notice.relevant (notice : Notice) : Bool :=
  notice.op &&& (opWrite ||| opRemove ||| opRename) ≠ 0

def FileMonitor.handle (files : FileSystem) (m : FileMonitor) (notice : Notice) : FileMonitor :=
  if notice.relevant then
    let newHash := hashFile sha256 files notice.name
    let oldHash := (m.baseline notice.name).getD ""
    let changeType := if newHash.isNone then "deleted" else "modified"
    { m with
      sent := m.sent ++
        [fileEvent (clock m.sent.length) notice.name changeType oldHash (newHash.getD "")]
      baseline := match newHash with
        | none => m.baseline
        | some hash => Function.update m.baseline notice.name (some hash) }
  else m

def recordHash (files : FileSystem) (baseline : String → Option String) (path : String) :
    String → Option String :=
  match hashFile sha256 files path with
  | none => baseline
  | some hash => Function.update baseline path (some hash)

def FileMonitor.start (files : FileSystem) (paths : List String) : FileMonitor where
  baseline := paths.foldl (recordHash sha256 files) fun _ => none
  watches := paths.foldl (watcherAdd files) []
  sent := []

structure Host where
  files : FileSystem
  monitor : FileMonitor

def Host.start (files : FileSystem) (paths : List String) : Host :=
  ⟨files, .start sha256 files paths⟩

def Host.change (h : Host) (c : Change) : Host :=
  let files := h.files.apply c
  let watched := { h.monitor with watches := keptWatches h.files h.monitor.watches c }
  ⟨files, (notices h.files h.monitor.watches c).foldl (FileMonitor.handle sha256 clock files) watched⟩

def Host.changes (h : Host) (changes : List Change) : Host :=
  changes.foldl (Host.change sha256 clock) h

end

/-! ## One round of notices -/

def Event.detail (e : Event) (key : String) : Option GoValue := e.details.bind (Json.lookup key)

def Event.isChangeOf (e : Event) (path : String) : Bool :=
  e.eventType = "file_integrity" &&
    match e.detail "path" with
    | some (.str p) => p = path
    | _ => false

def Notice.marks (notice : Notice) (path : String) : Bool := notice.relevant && notice.name = path

section
variable {sha256 : List UInt8 → List UInt8} {clock : Nat → Int} {files : FileSystem}

@[simp] theorem relevant_write (name : String) : (⟨name, opWrite⟩ : Notice).relevant = true := by
  change decide (opWrite &&& (opWrite ||| opRemove ||| opRename) ≠ 0) = true
  decide

@[simp] theorem relevant_remove (name : String) : (⟨name, opRemove⟩ : Notice).relevant = true := by
  change decide (opRemove &&& (opWrite ||| opRemove ||| opRename) ≠ 0) = true
  decide

@[simp] theorem relevant_chmod (name : String) : (⟨name, opChmod⟩ : Notice).relevant = false := by
  change decide (opChmod &&& (opWrite ||| opRemove ||| opRename) ≠ 0) = false
  decide

theorem isChangeOf_fileEvent (now : Int) (name changeType oldHash newHash path : String) :
    (fileEvent now name changeType oldHash newHash).isChangeOf path = decide (name = path) := rfl

theorem detail_fileEvent (now : Int) (name changeType oldHash newHash : String) :
    (fileEvent now name changeType oldHash newHash).detail "previous_hash" =
      some (.str oldHash) := rfl

theorem handle_of_irrelevant {m : FileMonitor} {notice : Notice} (h : notice.relevant = false) :
    m.handle sha256 clock files notice = m := by
  simp [FileMonitor.handle, h]

theorem handle_watches (m : FileMonitor) (notice : Notice) :
    (m.handle sha256 clock files notice).watches = m.watches := by
  unfold FileMonitor.handle
  split <;> rfl

theorem handle_baseline (m : FileMonitor) (notice : Notice) (path : String) :
    (m.handle sha256 clock files notice).baseline path =
      if notice.marks path then (hashFile sha256 files path).or (m.baseline path)
      else m.baseline path := by
  by_cases relevant : notice.relevant = true
  · by_cases named : notice.name = path
    · subst named
      cases found : hashFile sha256 files notice.name with
      | none => simp [FileMonitor.handle, Notice.marks, relevant, found]
      | some hash => simp [FileMonitor.handle, Notice.marks, relevant, found]
    · have other : path ≠ notice.name := fun same => named same.symm
      cases found : hashFile sha256 files notice.name with
      | none => simp [FileMonitor.handle, Notice.marks, relevant, found, named]
      | some hash => simp [FileMonitor.handle, Notice.marks, relevant, found, named, other]
  · rw [handle_of_irrelevant (Bool.eq_false_iff.mpr relevant)]
    simp [Notice.marks, relevant]

theorem handleAll_watches (ns : List Notice) (m : FileMonitor) :
    (ns.foldl (FileMonitor.handle sha256 clock files) m).watches = m.watches := by
  induction ns generalizing m with
  | nil => rfl
  | cons notice ns ih => rw [List.foldl_cons, ih, handle_watches]

theorem handleAll_baseline (ns : List Notice) (m : FileMonitor) (path : String) :
    (ns.foldl (FileMonitor.handle sha256 clock files) m).baseline path =
      if ns.any (·.marks path) then (hashFile sha256 files path).or (m.baseline path)
      else m.baseline path := by
  induction ns generalizing m with
  | nil => rfl
  | cons notice ns ih =>
      rw [List.foldl_cons, ih, handle_baseline, List.any_cons]
      by_cases here : notice.marks path = true
      · rw [if_pos here, ← Option.or_assoc, Option.or_self, ite_self, here, Bool.true_or, if_pos rfl]
      · simp [here]

theorem handleAll_sent (ns : List Notice) (m : FileMonitor) (path : String) :
    ∃ news, (ns.foldl (FileMonitor.handle sha256 clock files) m).sent = m.sent ++ news ∧
      (news.filter (·.isChangeOf path)).head?.map (·.detail "previous_hash") =
        if ns.any (·.marks path) then some (some (.str ((m.baseline path).getD ""))) else none := by
  induction ns generalizing m with
  | nil => exact ⟨[], by simp⟩
  | cons notice ns ih =>
      obtain ⟨news, sent, first⟩ := ih (m.handle sha256 clock files notice)
      rw [List.foldl_cons, List.any_cons]
      by_cases relevant : notice.relevant = true
      · obtain ⟨e, step, about, previous⟩ : ∃ e,
            (m.handle sha256 clock files notice).sent = m.sent ++ [e] ∧
            e.isChangeOf path = decide (notice.name = path) ∧
            e.detail "previous_hash" = some (.str ((m.baseline notice.name).getD "")) := by
          rw [FileMonitor.handle, if_pos relevant]
          exact ⟨_, rfl, isChangeOf_fileEvent .., detail_fileEvent ..⟩
        refine ⟨e :: news, by rw [sent, step, List.append_assoc, List.singleton_append], ?_⟩
        by_cases named : notice.name = path
        · simp [about, named, previous, Notice.marks, relevant]
        · have untouched : notice.marks path = false := by simp [Notice.marks, named]
          rw [handle_baseline, untouched] at first
          simpa [about, named, untouched] using first
      · rw [handle_of_irrelevant (Bool.eq_false_iff.mpr relevant)] at sent first ⊢
        have untouched : notice.marks path = false := by simp [Notice.marks, relevant]
        exact ⟨news, sent, by rw [untouched, Bool.false_or]; exact first⟩

end

/-! ## Changes that are noticed -/

def Host.sentOf (sha256 : List UInt8 → List UInt8) (clock : Nat → Int) (h : Host) (c : Change)
    (path : String) : List Event :=
  ((h.change sha256 clock c).monitor.sent.drop h.monitor.sent.length).filter (·.isChangeOf path)

def Alters (files : FileSystem) (c : Change) (path : String) : Prop :=
  (files.apply c).content path ≠ files.content path

instance (files : FileSystem) (c : Change) (path : String) : Decidable (Alters files c path) :=
  inferInstanceAs (Decidable (_ ≠ _))

def Noticed (sha256 : List UInt8 → List UInt8) (clock : Nat → Int) (h : Host) (c : Change)
    (path : String) : Prop :=
  ∃ old ∈ h.files.content path, ∃ e, (h.sentOf sha256 clock c path).head? = some e ∧
    e.detail "previous_hash" = some (.str (hashText sha256 old))

def NoticesEvery (sha256 : List UInt8 → List UInt8) (clock : Nat → Int) (files : FileSystem)
    (paths : List String) (changes : List Change) (path : String) : Prop :=
  ∀ past c rest, changes = past ++ c :: rest →
    let before := (Host.start sha256 files paths).changes sha256 clock past
    Alters before.files c path → Noticed sha256 clock before c path

/-- The file can be read at start, and no change of its content follows a replacement. -/
def AltersInPlace (files : FileSystem) (changes : List Change) (path : String) : Prop :=
  ∀ past c rest, changes = past ++ c :: rest → Alters (past.foldl FileSystem.apply files) c path →
    (∃ f ∈ files.file path, f.readable = true) ∧ ∀ d ∈ past, ¬ d.Replaces path

section
variable {sha256 : List UInt8 → List UInt8} {clock : Nat → Int} {files : FileSystem}

theorem any_marks_notices (watches : List Watch) (c : Change) (path : String) :
    (notices files watches c).any (·.marks path) = true ↔
      ∃ f ∈ files.file c.path, ⟨path, f.object⟩ ∈ watches := by
  cases found : files.file c.path with
  | none => simp [notices, found]
  | some f =>
      have each : ∀ w : Watch, ((match c with
          | .write _ _ again => List.replicate (again + 1) (⟨w.path, opWrite⟩ : Notice)
          | .replace _ _ _ => [⟨w.path, opChmod⟩, ⟨w.path, opRemove⟩]).any (·.marks path)) =
            decide (w.path = path) := by
        intro w
        cases c with
        | write p content again => simp [Notice.marks]
        | replace p content readable => simp [Notice.marks]
      simp only [notices, found, List.any_flatMap, each]
      constructor
      · intro h
        obtain ⟨w, kept, named⟩ := List.any_eq_true.mp h
        obtain ⟨watched, same⟩ := List.mem_filter.mp kept
        refine ⟨f, rfl, ?_⟩
        rw [← of_decide_eq_true named, ← of_decide_eq_true same]
        exact watched
      · intro ⟨g, equal, watched⟩
        obtain rfl := Option.some.inj equal
        exact List.any_eq_true.mpr ⟨_, List.mem_filter.mpr ⟨watched, by simp⟩, by simp⟩

theorem mem_keptWatches (watches : List Watch) (c : Change) (w : Watch) :
    w ∈ keptWatches files watches c ↔
      w ∈ watches ∧ ¬ (c.Replaces c.path ∧ ∃ f ∈ files.file c.path, f.object = w.object) := by
  cases c with
  | write p content again => simp [keptWatches, Change.Replaces, Change.path]
  | replace p content readable =>
      cases found : files.file p with
      | none => simp [keptWatches, Change.path, found]
      | some f =>
          have replaces : (Change.replace p content readable).Replaces p := ⟨_, _, rfl⟩
          simp only [keptWatches, found, List.mem_filter, Change.path, replaces, true_and]
          constructor
          · intro ⟨watched, other⟩
            refine ⟨watched, fun ⟨g, equal, same⟩ => ?_⟩
            obtain rfl := Option.some.inj equal
            exact of_decide_eq_true other same.symm
          · intro ⟨watched, other⟩
            exact ⟨watched, decide_eq_true fun same => other ⟨f, rfl, same.symm⟩⟩

theorem change_watches (h : Host) (c : Change) :
    (h.change sha256 clock c).monitor.watches = keptWatches h.files h.monitor.watches c :=
  handleAll_watches _ _

theorem change_baseline (h : Host) (c : Change) (path : String) :
    (h.change sha256 clock c).monitor.baseline path =
      if (notices h.files h.monitor.watches c).any (·.marks path) then
        (hashFile sha256 (h.files.apply c) path).or (h.monitor.baseline path)
      else h.monitor.baseline path :=
  handleAll_baseline _ _ _

theorem head?_sentOf (h : Host) (c : Change) (path : String) :
    (h.sentOf sha256 clock c path).head?.map (·.detail "previous_hash") =
      if (notices h.files h.monitor.watches c).any (·.marks path) then
        some (some (.str ((h.monitor.baseline path).getD "")))
      else none := by
  obtain ⟨news, sent, first⟩ := @handleAll_sent sha256 clock (h.files.apply c)
    (notices h.files h.monitor.watches c)
    { h.monitor with watches := keptWatches h.files h.monitor.watches c } path
  rw [Host.sentOf, Host.change, sent, List.drop_left]
  exact first

theorem changes_append (h : Host) (past : List Change) (c : Change) :
    h.changes sha256 clock (past ++ [c]) = (h.changes sha256 clock past).change sha256 clock c := by
  rw [Host.changes, List.foldl_append, List.foldl_cons, List.foldl_nil, Host.changes]

theorem changes_files (h : Host) (past : List Change) :
    (h.changes sha256 clock past).files = past.foldl FileSystem.apply h.files := by
  induction past using List.reverseRecOn with
  | nil => rfl
  | append_singleton past c ih =>
      rw [changes_append, List.foldl_append, List.foldl_cons, List.foldl_nil, ← ih]
      rfl

theorem apply_of_path_ne {c : Change} {path : String} (other : path ≠ c.path) :
    (files.apply c).file path = files.file path := by
  cases c with
  | write p content again => exact Function.update_of_ne other _ _
  | replace p content readable => exact Function.update_of_ne other _ _

theorem path_of_alters {c : Change} {path : String} (h : Alters files c path) : c.path = path := by
  by_contra other
  exact h (by rw [FileSystem.content, FileSystem.content, apply_of_path_ne (Ne.symm other)])

theorem recordHash_self (baseline : String → Option String) (path : String) :
    recordHash sha256 files baseline path path = (hashFile sha256 files path).or (baseline path) := by
  unfold recordHash
  cases hashFile sha256 files path with
  | none => rfl
  | some hash => exact Function.update_self _ _ _

theorem recordHash_of_ne (baseline : String → Option String) {path p : String} (other : path ≠ p) :
    recordHash sha256 files baseline p path = baseline path := by
  unfold recordHash
  cases hashFile sha256 files p with
  | none => rfl
  | some hash => exact Function.update_of_ne other _ _

theorem foldl_recordHash (paths : List String) (baseline : String → Option String)
    (path : String) :
    paths.foldl (recordHash sha256 files) baseline path =
      if path ∈ paths then (hashFile sha256 files path).or (baseline path) else baseline path := by
  induction paths generalizing baseline with
  | nil => rfl
  | cons p paths ih =>
      rw [List.foldl_cons, ih]
      by_cases same : path = p
      · subst same
        rw [recordHash_self, ← Option.or_assoc, Option.or_self, ite_self, if_pos List.mem_cons_self]
      · simp [recordHash_of_ne, same]

theorem start_baseline (paths : List String) {path : String} (monitored : path ∈ paths) :
    (FileMonitor.start sha256 files paths).baseline path = hashFile sha256 files path := by
  refine (foldl_recordHash paths _ path).trans ?_
  rw [if_pos monitored, Option.or_none]

theorem mem_watcherAdd (watches : List Watch) (p : String) (w : Watch) :
    w ∈ watcherAdd files watches p ↔ w ∈ watches ∨
      w.path = p ∧ ∃ f ∈ files.file p, f.readable = true ∧ f.object = w.object := by
  cases found : files.file p with
  | none => simp [watcherAdd, found]
  | some f =>
      by_cases readable : f.readable = true
      · simp only [watcherAdd, found, readable, if_true, List.mem_insert_iff]
        constructor
        · intro h
          rcases h with rfl | old
          · exact Or.inr ⟨rfl, f, rfl, readable, rfl⟩
          · exact Or.inl old
        · intro h
          rcases h with old | ⟨rfl, g, equal, -, object⟩
          · exact Or.inr old
          · obtain rfl := Option.some.inj equal
            exact Or.inl (by rw [object])
      · simp [watcherAdd, found, readable]

theorem mem_start_watches (paths : List String) (w : Watch) :
    w ∈ (FileMonitor.start sha256 files paths).watches ↔
      w.path ∈ paths ∧ ∃ f ∈ files.file w.path, f.readable = true ∧ f.object = w.object := by
  suffices general : ∀ watches, w ∈ paths.foldl (watcherAdd files) watches ↔ w ∈ watches ∨
      w.path ∈ paths ∧ ∃ f ∈ files.file w.path, f.readable = true ∧ f.object = w.object by
    refine (general []).trans (or_iff_right List.not_mem_nil)
  induction paths with
  | nil => simp
  | cons p paths ih =>
      intro watches
      rw [List.foldl_cons, ih, mem_watcherAdd, List.mem_cons]
      constructor
      · intro h
        rcases h with (old | ⟨rfl, follows⟩) | ⟨listed, follows⟩
        · exact Or.inl old
        · exact Or.inr ⟨Or.inl rfl, follows⟩
        · exact Or.inr ⟨Or.inr listed, follows⟩
      · intro h
        rcases h with old | ⟨rfl | listed, follows⟩
        · exact Or.inl (Or.inl old)
        · exact Or.inl (Or.inr ⟨rfl, follows⟩)
        · exact Or.inr ⟨listed, follows⟩

structure Followed (sha256 : List UInt8 → List UInt8) (path : String) (first : File)
    (past : List Change) (h : Host) : Prop where
  watched : ∀ object, ⟨path, object⟩ ∈ h.monitor.watches ↔
    first.readable = true ∧ (∀ d ∈ past, ¬ d.Replaces path) ∧ object = first.object
  current : (∀ d ∈ past, ¬ d.Replaces path) → ∃ f ∈ h.files.file path,
    f.object = first.object ∧ f.readable = first.readable ∧
      (first.readable = true → h.monitor.baseline path = some (hashText sha256 f.content))

theorem followed_start {paths : List String} {path : String} {first : File}
    (monitored : path ∈ paths) (found : first ∈ files.file path) :
    Followed sha256 path first [] (Host.start sha256 files paths) where
  watched object := by
    refine (mem_start_watches paths ⟨path, object⟩).trans ?_
    constructor
    · intro ⟨_, f, here, readable, same⟩
      obtain rfl := Option.mem_unique here found
      exact ⟨readable, List.forall_mem_nil _, same.symm⟩
    · intro ⟨readable, _, same⟩
      exact ⟨monitored, first, found, readable, same.symm⟩
  current _ := by
    refine ⟨first, found, rfl, rfl, fun readable => ?_⟩
    refine (start_baseline paths monitored).trans ?_
    rw [hashFile, Option.mem_def.mp found]
    exact if_pos readable

theorem followed_change {path : String} {first : File} {past : List Change} {h : Host}
    (inv : Followed sha256 path first past h) (c : Change) :
    Followed sha256 path first (past ++ [c]) (h.change sha256 clock c) where
  watched object := by
    rw [change_watches, mem_keptWatches, inv.watched, List.forall_mem_append, List.forall_mem_singleton]
    constructor
    · intro ⟨⟨readable, unreplaced, same⟩, kept⟩
      refine ⟨readable, ⟨unreplaced, fun replaces => kept ?_⟩, same⟩
      obtain ⟨f, found, object, -⟩ := inv.current unreplaced
      obtain ⟨content, readable', rfl⟩ := replaces
      exact ⟨⟨content, readable', rfl⟩, f, found, object.trans same.symm⟩
    · intro ⟨readable, ⟨unreplaced, still⟩, same⟩
      refine ⟨⟨readable, unreplaced, same⟩, fun ⟨replaces, f, found, object⟩ => still ?_⟩
      obtain ⟨g, found', object', -⟩ := inv.current unreplaced
      have here : c.path = path :=
        h.files.single _ _ f found g found' (object.trans (same.trans object'.symm))
      rwa [here] at replaces
  current := by
    intro unreplaced
    rw [List.forall_mem_append, List.forall_mem_singleton] at unreplaced
    obtain ⟨f, found, object, readable, baseline⟩ := inv.current unreplaced.1
    obtain ⟨f', found', object', readable'⟩ : ∃ f' ∈ (h.files.apply c).file path,
        f'.object = f.object ∧ f'.readable = f.readable ∧
          (c.path ≠ path → f'.content = f.content) := by
      by_cases here : c.path = path
      · cases c with
        | write p content again =>
            obtain rfl : p = path := here
            refine ⟨{ f with content := content }, ?_, rfl, rfl, fun other => absurd rfl other⟩
            refine (Function.update_self _ _ _).trans ?_
            rw [Option.mem_def.mp found]
            rfl
        | replace p content again =>
            obtain rfl : p = path := here
            exact absurd ⟨_, _, rfl⟩ unreplaced.2
      · exact ⟨f, by rwa [apply_of_path_ne (Ne.symm here)], rfl, rfl, fun _ => rfl⟩
    obtain ⟨readable', untouched⟩ := readable'
    refine ⟨f', found', object'.trans object, readable'.trans readable, fun can => ?_⟩
    have hash : hashFile sha256 (h.files.apply c) path = some (hashText sha256 f'.content) := by
      rw [hashFile, Option.mem_def.mp found']
      exact if_pos (readable'.trans (readable.trans can))
    rw [change_baseline, hash]
    split_ifs with marked
    · rfl
    · rw [baseline can]
      apply congrArg (fun content => some (hashText sha256 content))
      refine (untouched fun here => marked ?_).symm
      rw [any_marks_notices, here]
      exact ⟨f, found, (inv.watched _).mpr ⟨can, unreplaced.1, object⟩⟩

theorem followed_changes {paths : List String} {path : String} {first : File}
    (monitored : path ∈ paths) (found : first ∈ files.file path) (past : List Change) :
    Followed sha256 path first past
      ((Host.start sha256 files paths).changes sha256 clock past) := by
  induction past using List.reverseRecOn with
  | nil => exact followed_start monitored found
  | append_singleton past c ih =>
      rw [changes_append]
      exact followed_change ih c

theorem noticed_iff {path : String} {first : File} {past : List Change} {h : Host}
    (inv : Followed sha256 path first past h) {c : Change} (here : c.path = path) :
    Noticed sha256 clock h c path ↔ first.readable = true ∧ ∀ d ∈ past, ¬ d.Replaces path := by
  have marked : (notices h.files h.monitor.watches c).any (·.marks path) = true ↔
      first.readable = true ∧ ∀ d ∈ past, ¬ d.Replaces path := by
    rw [any_marks_notices, here]
    constructor
    · intro ⟨f, _, watched⟩
      obtain ⟨readable, unreplaced, _⟩ := (inv.watched _).mp watched
      exact ⟨readable, unreplaced⟩
    · intro ⟨readable, unreplaced⟩
      obtain ⟨f, found, object, _⟩ := inv.current unreplaced
      exact ⟨f, found, (inv.watched _).mpr ⟨readable, unreplaced, object⟩⟩
  have sent := @head?_sentOf sha256 clock h c path
  constructor
  · intro ⟨old, _, e, first, _⟩
    by_contra unwatched
    rw [if_neg (fun h => unwatched (marked.mp h)), first] at sent
    exact absurd sent (by simp)
  · intro can
    obtain ⟨f, found, -, -, baseline⟩ := inv.current can.2
    rw [if_pos (marked.mpr can), baseline can.1] at sent
    obtain ⟨e, first, previous⟩ := Option.map_eq_some_iff.mp sent
    refine ⟨f.content, ?_, e, first, previous⟩
    rw [FileSystem.content, Option.mem_def.mp found]
    rfl

end

theorem noticesEvery_iff (sha256 : List UInt8 → List UInt8) (clock : Nat → Int)
    (files : FileSystem) (paths : List String) (changes : List Change) (path : String)
    (monitored : path ∈ paths) (present : (files.file path).isSome) :
    NoticesEvery sha256 clock files paths changes path ↔ AltersInPlace files changes path := by
  obtain ⟨first, found⟩ := Option.isSome_iff_exists.mp present
  have readable_iff : (∃ f ∈ files.file path, f.readable = true) ↔ first.readable = true := by
    rw [found]
    simp
  have each : ∀ past c, Alters (past.foldl FileSystem.apply files) c path →
      (Noticed sha256 clock ((Host.start sha256 files paths).changes sha256 clock past) c path ↔
        (∃ f ∈ files.file path, f.readable = true) ∧ ∀ d ∈ past, ¬ d.Replaces path) := by
    intro past c alters
    rw [readable_iff]
    exact noticed_iff (followed_changes monitored found past) (path_of_alters alters)
  constructor
  · intro notices past c rest split alters
    refine (each past c alters).mp (notices past c rest split ?_)
    rwa [changes_files]
  · intro inPlace past c rest split before alters
    rw [changes_files] at alters
    exact (each past c alters).mpr (inPlace past c rest split alters)

def FileSystem.onlyFile (path : String) (content : List UInt8) : FileSystem where
  file := fun p => if p = path then some ⟨0, content, true⟩ else none
  nextObject := 1
  fresh := by
    intro p f here
    by_cases same : p = path
    · rw [if_pos same, Option.mem_some_iff] at here
      rw [← here]
      exact Nat.zero_lt_one
    · rw [if_neg same] at here
      exact absurd here (Option.not_mem_none _)
  single := by
    intro p p' f here f' here' _
    by_cases same : p = path
    · by_cases same' : p' = path
      · rw [same, same']
      · rw [if_neg same'] at here'
        exact absurd here' (Option.not_mem_none _)
    · rw [if_neg same] at here
      exact absurd here (Option.not_mem_none _)

theorem write_then_replacement_noticed :
    NoticesEvery id (fun _ => 0) (.onlyFile "/etc/passwd" [1]) ["/etc/passwd"]
      [.write "/etc/passwd" [2] 0, .replace "/etc/passwd" [3] true] "/etc/passwd" := by
  apply (noticesEvery_iff _ _ _ _ _ _ List.mem_cons_self rfl).mpr
  intro past c rest split _
  refine ⟨⟨⟨0, [1], true⟩, rfl, rfl⟩, ?_⟩
  intro d earlier ⟨content, readable, replaced⟩
  subst replaced
  match past, split with
  | [e], split =>
      obtain rfl := List.mem_singleton.mp earlier
      exact Change.noConfusion (List.cons.inj split).1
  | e :: e' :: past, split => simp at split

theorem second_replacement_unnoticed :
    "/etc/passwd" ∈ ["/etc/passwd"] ∧
      ((FileSystem.onlyFile "/etc/passwd" [1]).file "/etc/passwd").isSome ∧
      ¬ NoticesEvery id (fun _ => 0) (.onlyFile "/etc/passwd" [1]) ["/etc/passwd"]
        [.replace "/etc/passwd" [2] true, .replace "/etc/passwd" [3] true] "/etc/passwd" := by
  refine ⟨List.mem_cons_self, rfl, fun notices => ?_⟩
  have silent : (((Host.start id (.onlyFile "/etc/passwd" [1]) ["/etc/passwd"]).changes id (fun _ => 0)
      [.replace "/etc/passwd" [2] true]).sentOf id (fun _ => 0)
      (.replace "/etc/passwd" [3] true) "/etc/passwd").head?.isNone = true := by decide +kernel
  obtain ⟨old, -, e, sent, -⟩ := notices [_] _ [] rfl (by decide)
  rw [sent] at silent
  exact absurd silent Bool.false_ne_true

end GuardianPi.EdgeAgent
