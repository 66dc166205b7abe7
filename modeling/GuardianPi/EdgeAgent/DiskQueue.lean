import GuardianPi.EdgeAgent.Directory

namespace GuardianPi.EdgeAgent

/-- `filepath.Ext`: what follows the last dot, the dot included. -/
def fileExt (name : String) : List Char :=
  let tail := (name.toList.reverse.takeWhile fun c => c ≠ '.').reverse
  if tail.length = name.length then [] else '.' :: tail

def fileName (now : Int) : String := toString now ++ ".gpi"

structure DiskQueue where
  maxSizeMB : Int

namespace DiskQueue

/-- The configured sizes keep this product far inside an int64. -/
def maxBytes (q : DiskQueue) : Int := q.maxSizeMB * 1024 * 1024

def isQueueFile (e : Entry) : Bool := !e.isDir && fileExt e.name = ".gpi".toList

def listFiles (io : FileOutcomes) (d : Directory) : Option (List String) :=
  if io.listDir then
    some (((d.entries.filter isQueueFile).map Entry.name).insertionSort (· ≤ ·))
  else none

def evict (io : FileOutcomes) (maxBytes : Int) : List String → Int → Directory → Directory
  | [], _, d => d
  | f :: files, totalSize, d =>
      if totalSize ≤ maxBytes then d
      else
        let freed := match d.find f with
          | some e => if io.stat f then e.size else 0
          | none => 0
        evict io maxBytes files (totalSize - freed) (if io.remove f then d.remove f else d)

def enforceLimit (q : DiskQueue) (io : FileOutcomes) (d : Directory) : Directory :=
  let entries := if io.readDir then d.entries else []
  let totalSize := ((entries.filter fun e => io.info e.name).map Entry.size).sum
  if totalSize ≤ q.maxBytes then d
  else evict io q.maxBytes ((listFiles io d).getD []) totalSize d

def enqueue (q : DiskQueue) (io : FileOutcomes) (now : Int) (data : Bytes) (d : Directory) :
    Bool × Directory :=
  (q.enforceLimit io d).writeFile io.write (fileName now) data

def dequeue (io : FileOutcomes) (d : Directory) : Option Bytes × Directory :=
  match listFiles io d with
  | none | some [] => (none, d)
  | some (f :: _) =>
      match d.readFile (io.readFile f) f with
      | none => (none, d)
      | some data => (some data, if io.remove f then d.remove f else d)

def size (io : FileOutcomes) (d : Directory) : Nat := ((listFiles io d).getD []).length

def queueFile (e : Entry) : Option (String × Bytes) :=
  match e.node with
  | .file data => if fileExt e.name = ".gpi".toList then some (e.name, data) else none
  | .subdirectory _ => none

def queued (d : Directory) : List (String × Bytes) := d.entries.filterMap queueFile

theorem queueFile_eq_some {e : Entry} {f : String} {data : Bytes} :
    queueFile e = some (f, data) ↔ e = ⟨f, .file data⟩ ∧ fileExt f = ".gpi".toList := by
  obtain ⟨name, node⟩ := e
  cases node with
  | subdirectory size => simp [queueFile]
  | file bytes =>
      by_cases ext : fileExt name = ".gpi".toList
      · simp only [queueFile, if_pos ext, Option.some.injEq, Prod.mk.injEq, Entry.mk.injEq,
          Node.file.injEq]
        constructor
        · intro h
          exact ⟨h, h.1 ▸ ext⟩
        · intro h
          exact h.1
      · simp only [queueFile, if_neg ext]
        constructor
        · intro h
          cases h
        · rintro ⟨same, h⟩
          cases same
          exact absurd h ext

theorem isQueueFile_eq (e : Entry) : isQueueFile e = (queueFile e).isSome := by
  obtain ⟨name, node⟩ := e
  cases node with
  | subdirectory size => rfl
  | file data =>
      by_cases ext : fileExt name = ".gpi".toList
      · simp only [isQueueFile, Entry.isDir, queueFile, ext, Bool.not_false, Bool.true_and,
          decide_true, if_true, Option.isSome_some]
      · simp only [isQueueFile, Entry.isDir, queueFile, ext, Bool.not_false, Bool.true_and,
          decide_false, if_false, Option.isSome_none]

theorem fileExt_fileName (now : Int) : fileExt (fileName now) = ".gpi".toList := by
  have reversed : (fileName now).toList.reverse =
      'i' :: 'p' :: 'g' :: '.' :: (toString now).toList.reverse := by
    simp [fileName]
  have length : (fileName now).length = (toString now).length + 4 := by
    rw [fileName, String.length_append]
    rfl
  simp [fileExt, reversed, length]

theorem names_eq_queued (d : Directory) :
    (d.entries.filter isQueueFile).map Entry.name = (queued d).map Prod.fst := by
  unfold queued
  induction d.entries with
  | nil => rfl
  | cons e es ih =>
      rw [List.filter_cons, isQueueFile_eq, List.filterMap_cons]
      cases h : queueFile e with
      | none => simpa using ih
      | some p =>
          obtain ⟨f, data⟩ := p
          have name : e.name = f := by rw [(queueFile_eq_some.mp h).1]
          simpa [name] using ih

theorem listFiles_ok (d : Directory) : listFiles .ok d = some ((queued d).map Prod.fst) := by
  have sorted : ((d.entries.filter isQueueFile).map Entry.name).Pairwise (· ≤ ·) :=
    List.pairwise_map.mpr ((d.sorted.filter _).imp le_of_lt)
  simp only [listFiles, FileOutcomes.ok_listDir, if_true]
  rw [sorted.insertionSort_eq, names_eq_queued]

theorem queued_sorted (d : Directory) : (queued d).Pairwise fun a b => a.1 < b.1 := by
  refine List.Pairwise.filterMap queueFile ?_ d.sorted
  intro a b below p hp q hq
  rw [(queueFile_eq_some.mp hp).1, (queueFile_eq_some.mp hq).1] at below
  exact below

theorem mem_queued {d : Directory} {f : String} {data : Bytes} :
    (f, data) ∈ queued d ↔ ⟨f, .file data⟩ ∈ d.entries ∧ fileExt f = ".gpi".toList := by
  simp only [queued, List.mem_filterMap, queueFile_eq_some]
  constructor
  · rintro ⟨e, he, rfl, ext⟩
    exact ⟨he, ext⟩
  · rintro ⟨he, ext⟩
    exact ⟨_, he, rfl, ext⟩

end DiskQueue

namespace Directory

theorem find_of_mem {d : Directory} {e : Entry} (h : e ∈ d.entries) : d.find e.name = some e := by
  have distinct := d.sorted
  unfold find
  generalize d.entries = es at h distinct
  induction es with
  | nil => cases h
  | cons g es ih =>
      obtain ⟨below, rest⟩ := List.pairwise_cons.mp distinct
      rcases List.mem_cons.mp h with rfl | h
      · simp
      · rw [List.find?_cons_of_neg, ih h rest]
        simpa using ne_of_lt (below e h)

theorem find_eq_none {d : Directory} {name : String} (h : name ∉ d.names) : d.find name = none := by
  rw [find, List.find?_eq_none]
  intro e he same
  exact h (List.mem_map.mpr ⟨e, he, by simpa using same⟩)

end Directory

namespace DiskQueue

theorem queued_remove (d : Directory) (f : String) :
    queued (d.remove f) = (queued d).filter fun p => p.1 ≠ f := by
  change (d.entries.filter fun e => e.name ≠ f).filterMap queueFile =
    (d.entries.filterMap queueFile).filter fun p => p.1 ≠ f
  induction d.entries with
  | nil => rfl
  | cons e es ih =>
      by_cases same : e.name = f
      · rw [List.filter_cons_of_neg (by simpa using same), List.filterMap_cons]
        cases h : queueFile e with
        | none => exact ih
        | some p =>
            have name : p.1 = f := by rw [← same, (queueFile_eq_some.mp h).1]
            rw [List.filter_cons_of_neg (by simpa using name)]
            exact ih
      · rw [List.filter_cons_of_pos (by simpa using same), List.filterMap_cons, List.filterMap_cons]
        cases h : queueFile e with
        | none => exact ih
        | some p =>
            have name : p.1 ≠ f := by
              intro hp
              exact same (by rw [(queueFile_eq_some.mp h).1, hp])
            rw [List.filter_cons_of_pos (by simpa using name), ← ih]

theorem queued_remove_head {d : Directory} {p : String × Bytes} {rest : List (String × Bytes)}
    (h : queued d = p :: rest) : queued (d.remove p.1) = rest := by
  have below := (List.pairwise_cons.mp (h ▸ queued_sorted d)).1
  rw [queued_remove, h, List.filter_cons_of_neg (by simp), List.filter_eq_self]
  intro q hq
  simpa using (ne_of_lt (below q hq)).symm

theorem dequeue_ok_nil {d : Directory} (h : queued d = []) : dequeue .ok d = (none, d) := by
  simp [dequeue, listFiles_ok, h]

theorem dequeue_ok_cons {d : Directory} {p : String × Bytes} {rest : List (String × Bytes)}
    (h : queued d = p :: rest) : dequeue .ok d = (some p.2, d.remove p.1) := by
  obtain ⟨f, data⟩ := p
  have stored : ⟨f, .file data⟩ ∈ d.entries := (mem_queued.mp (h ▸ List.mem_cons_self)).1
  have found : d.find f = some ⟨f, .file data⟩ := Directory.find_of_mem stored
  simp [dequeue, listFiles_ok, h, Directory.readFile, found]

theorem enforceLimit_ok_of_fits (q : DiskQueue) {d : Directory} (fits : d.totalSize ≤ q.maxBytes) :
    q.enforceLimit .ok d = d := by
  simp only [enforceLimit, FileOutcomes.ok_readDir, FileOutcomes.ok_info, if_true, List.filter_true]
  exact if_pos fits

theorem writeFile_done {d : Directory} {name : String} (fresh : name ∉ d.names) (data : Bytes) :
    d.writeFile .done name data = (true, d.put name data) := by
  simp [Directory.writeFile, Directory.find_eq_none fresh]

theorem queued_sublist {c d : Directory} (h : c.entries.Sublist d.entries) :
    (queued c).Sublist (queued d) := h.filterMap queueFile

theorem remove_sublist (d : Directory) (f : String) : (d.remove f).entries.Sublist d.entries :=
  List.filter_sublist

theorem evict_sublist (io : FileOutcomes) (maxBytes : Int) (files : List String) (totalSize : Int)
    (d : Directory) : (evict io maxBytes files totalSize d).entries.Sublist d.entries := by
  induction files generalizing totalSize d with
  | nil => exact List.Sublist.refl _
  | cons f files ih =>
      rw [evict]
      by_cases fits : totalSize ≤ maxBytes
      · rw [if_pos fits]
      · rw [if_neg fits]
        cases io.remove f with
        | true => exact (ih _ _).trans (remove_sublist d f)
        | false => exact ih _ _

theorem enforceLimit_sublist (q : DiskQueue) (io : FileOutcomes) (d : Directory) :
    (q.enforceLimit io d).entries.Sublist d.entries := by
  simp only [enforceLimit]
  split_ifs
  · exact List.Sublist.refl _
  · exact evict_sublist io _ _ _ d
  · exact List.Sublist.refl _
  · exact evict_sublist io _ _ _ d

theorem queued_writeFile {outcome : WriteOutcome} (whole : ∀ written, outcome ≠ .torn written)
    {d : Directory} {name : String} {data : Bytes} {p : String × Bytes}
    (h : p ∈ queued (d.writeFile outcome name data).2) : p ∈ queued d ∨ p.2 = data := by
  have stored : p ∈ queued (d.put name data) → p ∈ queued d ∨ p.2 = data := by
    intro hp
    obtain ⟨e, he, file⟩ := List.mem_filterMap.mp hp
    rcases Directory.mem_insertEntry he with rfl | he
    · exact Or.inr (Node.file.inj (Entry.mk.inj (queueFile_eq_some.mp file).1).2).symm
    · exact Or.inl (List.mem_filterMap.mpr ⟨e, he, file⟩)
  unfold Directory.writeFile at h
  split at h
  · exact Or.inl h
  · cases outcome with
    | done => exact stored h
    | refused => exact Or.inl h
    | torn written => exact absurd rfl (whole written)

theorem queued_enqueue (q : DiskQueue) {io : FileOutcomes}
    (whole : ∀ written, io.write ≠ .torn written) {now : Int} {data : Bytes} {d : Directory}
    {p : String × Bytes} (h : p ∈ queued (q.enqueue io now data d).2) :
    p ∈ queued d ∨ p.2 = data := by
  rcases queued_writeFile whole h with hp | same
  · apply Or.inl
    exact (queued_sublist (enforceLimit_sublist q io d)).subset hp
  · exact Or.inr same

theorem mem_listFiles {io : FileOutcomes} {d : Directory} {files : List String} {f : String}
    (listed : listFiles io d = some files) (member : f ∈ files) : fileExt f = ".gpi".toList := by
  unfold listFiles at listed
  split_ifs at listed
  obtain rfl := Option.some.inj listed
  obtain ⟨e, he, rfl⟩ := List.mem_map.mp ((List.mem_insertionSort _).mp member)
  have isFile := (List.mem_filter.mp he).2
  simp only [isQueueFile, Bool.and_eq_true, decide_eq_true_eq] at isFile
  exact isFile.2

theorem readFile_eq_some {ok : Bool} {d : Directory} {f : String} {data : Bytes}
    (h : d.readFile ok f = some data) : ⟨f, .file data⟩ ∈ d.entries := by
  unfold Directory.readFile at h
  split at h
  · rename_i name bytes found
    obtain rfl := Option.some.inj h
    have same : name = f := by simpa using List.find?_some found
    exact same ▸ List.mem_of_find?_eq_some found
  · cases h

theorem dequeue_queued (io : FileOutcomes) (d : Directory) :
    (∀ data, (dequeue io d).1 = some data → ∃ f, (f, data) ∈ queued d) ∧
      queued (dequeue io d).2 ⊆ queued d := by
  unfold dequeue
  split
  · exact ⟨nofun, List.Subset.refl _⟩
  · exact ⟨nofun, List.Subset.refl _⟩
  · rename_i f files listed
    split
    · exact ⟨nofun, List.Subset.refl _⟩
    · rename_i data read
      constructor
      · intro bytes same
        obtain rfl := Option.some.inj same
        exact ⟨f, mem_queued.mpr
          ⟨readFile_eq_some read, mem_listFiles listed List.mem_cons_self⟩⟩
      · dsimp only
        split_ifs
        · exact (queued_sublist (remove_sublist d f)).subset
        · exact List.Subset.refl _

end DiskQueue

end GuardianPi.EdgeAgent
