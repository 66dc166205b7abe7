import GuardianPi.EdgeAgent.DrainOrder
import GuardianPi.Library.Transition

namespace GuardianPi.EdgeAgent.DiskQueue
open GuardianPi.Library

theorem entry_size_nonneg (e : Entry) : 0 ≤ e.size := by
  obtain ⟨name, node⟩ := e
  cases node <;> exact Int.natCast_nonneg _

theorem sum_sizes_sublist {es fs : List Entry} (h : es.Sublist fs) :
    (es.map Entry.size).sum ≤ (fs.map Entry.size).sum := by
  induction h with
  | slnil => exact le_rfl
  | cons e _ ih =>
      rw [List.map_cons, List.sum_cons]
      exact ih.trans (le_add_of_nonneg_left (entry_size_nonneg e))
  | cons_cons e _ ih =>
      rw [List.map_cons, List.sum_cons, List.map_cons, List.sum_cons]
      exact Int.add_le_add_left ih _

/-- What `enforceLimit` adds up. -/
def measured (io : FileOutcomes) (d : Directory) : Int :=
  (((if io.readDir then d.entries else []).filter fun e => io.info e.name).map Entry.size).sum

theorem measured_le (io : FileOutcomes) (d : Directory) : measured io d ≤ d.totalSize := by
  apply sum_sizes_sublist
  refine List.filter_sublist.trans ?_
  split_ifs
  · exact List.Sublist.refl _
  · exact List.nil_sublist _

theorem enforceLimit_eq (q : DiskQueue) (io : FileOutcomes) (d : Directory) :
    q.enforceLimit io d = if measured io d ≤ q.maxBytes then d
      else evict io q.maxBytes ((listFiles io d).getD []) (measured io d) d := rfl

theorem enforceLimit_of_fits (q : DiskQueue) (io : FileOutcomes) {d : Directory}
    (fits : d.totalSize ≤ q.maxBytes) : q.enforceLimit io d = d := by
  rw [enforceLimit_eq, if_pos ((measured_le io d).trans fits)]

def replaced (d : Directory) (name : String) : Int := ((d.find name).map Entry.size).getD 0

theorem find_above {es : List Entry} {name : String} (above : ∀ e ∈ es, name < e.name) :
    (es.find? fun e => e.name = name) = none := by
  rw [List.find?_eq_none]
  intro e here same
  exact absurd (of_decide_eq_true same) (ne_of_gt (above e here))

theorem sum_insertEntry (new : Entry) {es : List Entry} (sorted : es.Pairwise fun a b => a.name < b.name) :
    ((Directory.insertEntry new es).map Entry.size).sum =
      (es.map Entry.size).sum - ((es.find? fun e => e.name = new.name).map Entry.size).getD 0 + new.size := by
  induction es with
  | nil => simp [Directory.insertEntry]
  | cons e es ih =>
      obtain ⟨below, rest⟩ := List.pairwise_cons.mp sorted
      rw [Directory.insertEntry]
      rcases lt_trichotomy new.name e.name with before | same | behind
      · have above : ∀ f ∈ e :: es, new.name < f.name := by
          intro f here
          rcases List.mem_cons.mp here with rfl | here
          · exact before
          · exact before.trans (below f here)
        rw [if_pos before, find_above above, List.map_cons, List.sum_cons]
        simp [add_comm]
      · rw [if_neg (same ▸ lt_irrefl _), if_pos same, List.find?_cons_of_pos (by simp [same])]
        simp [add_comm]
      · rw [if_neg behind.not_gt, if_neg behind.ne', List.find?_cons_of_neg (by simpa using behind.ne), List.map_cons,
          List.sum_cons, ih rest, List.map_cons, List.sum_cons]
        omega

theorem totalSize_put (d : Directory) (name : String) (data : Bytes) :
    (d.put name data).totalSize = d.totalSize - replaced d name + data.length :=
  sum_insertEntry ⟨name, .file data⟩ d.sorted

theorem totalSize_nonneg (d : Directory) : 0 ≤ d.totalSize := sum_sizes_sublist (List.nil_sublist _)

def Adds (q : DiskQueue) (io : FileOutcomes) (now : Int) (data : Bytes) (d : Directory) : Prop :=
  (q.enqueue io now data d).1 = true →
    (∀ p ∈ queued d, (q.enqueue io now data d).2.readFile true p.1 = some p.2) ∧
      (q.enqueue io now data d).2.entries.Perm (⟨fileName now, .file data⟩ :: d.entries) ∧
      size .ok (q.enqueue io now data d).2 = size .ok d + 1

theorem size_ok (d : Directory) : size .ok d = (queued d).length := by
  rw [size, listFiles_ok, Option.getD_some, List.length_map]

theorem readFile_of_mem {d : Directory} {f : String} {data : Bytes} (here : ⟨f, .file data⟩ ∈ d.entries) :
    d.readFile true f = some data := by
  have found : d.find f = some ⟨f, .file data⟩ := Directory.find_of_mem here
  simp [Directory.readFile, found]

theorem adds_put {now : Int} {data : Bytes} {d : Directory} (fresh : fileName now ∉ d.names) :
    (∀ p ∈ queued d, (d.put (fileName now) data).readFile true p.1 = some p.2) ∧
      (d.put (fileName now) data).entries.Perm (⟨fileName now, .file data⟩ :: d.entries) ∧
      size .ok (d.put (fileName now) data) = size .ok d + 1 := by
  refine ⟨?_, put_perm fresh data, ?_⟩
  · intro p here
    apply readFile_of_mem
    exact (put_perm fresh data).mem_iff.mpr (List.mem_cons_of_mem _ (mem_queued.mp here).1)
  · rw [size_ok, size_ok, (queued_put fresh data).length_eq, List.length_cons]

theorem fresh_of_find {d : Directory} {name : String} (absent : d.find name = none) : name ∉ d.names := by
  intro taken
  obtain ⟨e, here, rfl⟩ := List.mem_map.mp taken
  rw [Directory.find_of_mem here] at absent
  cases absent

theorem enqueue_adds_iff (q : DiskQueue) (io : FileOutcomes) (now : Int) (data : Bytes) {d : Directory}
    (fits : d.totalSize ≤ q.maxBytes) :
    Adds q io now data d ↔ (io.write = .done → ∀ p ∈ queued d, p.1 ≠ fileName now) := by
  rw [Adds, enqueue, enforceLimit_of_fits q io fits]
  cases written : io.write with
  | refused | torn =>
      refine iff_of_true (fun added => ?_) (fun done => ?_)
      · unfold Directory.writeFile at added
        split at added <;> cases added
      · cases done
  | done =>
      rcases found : d.find (fileName now) with _ | ⟨name, bytes | size⟩
      · have fresh := fresh_of_find found
        rw [writeFile_done fresh]
        refine iff_of_true (fun _ => adds_put fresh) fun _ p here same => ?_
        exact fresh (same ▸ List.mem_map_of_mem (mem_queued.mp here).1)
      · obtain rfl : name = fileName now := by simpa using List.find?_some found
        have stored : (⟨fileName now, .file bytes⟩ : Entry) ∈ d.entries := List.mem_of_find?_eq_some found
        have taken : fileName now ∈ d.names := List.mem_map_of_mem stored
        have queuedThen : (fileName now, bytes) ∈ queued d := mem_queued.mpr ⟨stored, fileExt_fileName now⟩
        refine iff_of_false (fun adds => ?_) fun apart => apart rfl _ queuedThen rfl
        have nil : (d.writeFile .done (fileName now) data).1 = true := by rw [Directory.writeFile, found]
        have grown := (adds nil).2.2
        have same := length_queued_write taken data
        rw [size_ok, size_ok] at grown
        omega
      · have directory : (d.writeFile .done (fileName now) data).1 = false := by rw [Directory.writeFile, found]
        refine iff_of_true (fun added => ?_) fun _ p here same => ?_
        · rw [directory] at added
          cases added
        · have file := Directory.find_of_mem (mem_queued.mp here).1
          rw [same, found] at file
          cases file

theorem enqueue_adds_second : Adds ⟨1⟩ .ok 7 [2] (Directory.empty.put (fileName 6) [1]) := by
  refine (enqueue_adds_iff ⟨1⟩ .ok 7 [2] (by decide +kernel)).mpr fun _ p here => ?_
  have queue : queued (Directory.empty.put (fileName 6) [1]) = [(fileName 6, [1])] := by decide +kernel
  rw [queue] at here
  rw [List.mem_singleton.mp here]
  decide +kernel

theorem enqueue_overwrites : ¬ ∀ (q : DiskQueue) (io : FileOutcomes) (now : Int) (data : Bytes) (d : Directory),
    d.totalSize ≤ q.maxBytes → Adds q io now data d := by
  intro adds
  have second := adds ⟨1⟩ .ok 7 [2] (Directory.empty.put (fileName 7) [1]) (by decide +kernel) (by decide +kernel)
  have size := second.2.2
  revert size
  decide +kernel

section
variable (q : DiskQueue) (d : Directory)

def InQuota (c : Call) : Prop := (q.call .ok d c).2.totalSize ≤ q.maxBytes

def Room : Call → Prop
  | .enqueue now data => d.totalSize - replaced d (fileName now) + data.length ≤ q.maxBytes
  | .dequeue | .size => 0 ≤ q.maxSizeMB

structure Stocked : Prop where
  files : ∀ e ∈ d.entries, e.isDir = false
  fits : d.entries = [] ∨ d.totalSize ≤ q.maxBytes

end

section
variable {q : DiskQueue} {d after : Directory}

theorem maxBytes_nonneg : 0 ≤ q.maxBytes ↔ 0 ≤ q.maxSizeMB := by
  unfold maxBytes
  omega

theorem Stocked.writeFile (stocked : Stocked q d) (name : String) (data : Bytes) :
    d.writeFile .done name data = (true, d.put name data) := by
  rcases found : d.find name with _ | ⟨n, bytes | size⟩
  · exact writeFile_done (fresh_of_find found) data
  · rw [Directory.writeFile, found]
  · cases stocked.files _ (List.mem_of_find?_eq_some found)

theorem Stocked.enqueue (stocked : Stocked q d) (now : Int) (data : Bytes) :
    q.enqueue .ok now data d = (true, d.put (fileName now) data) := by
  have kept : queued d = [] ∨ d.totalSize ≤ q.maxBytes :=
    stocked.fits.imp_left fun empty => by rw [queued, empty, List.filterMap_nil]
  rw [DiskQueue.enqueue, enforceLimit_of_kept q kept]
  exact stocked.writeFile (fileName now) data

theorem Stocked.put (stocked : Stocked q d) {name : String} {data : Bytes}
    (fits : (d.put name data).totalSize ≤ q.maxBytes) : Stocked q (d.put name data) where
  files e here := by
    rcases Directory.mem_insertEntry here with rfl | here
    · rfl
    · exact stocked.files e here
  fits := .inr fits

theorem Stocked.shrinks (stocked : Stocked q d) (less : after.entries.Sublist d.entries) :
    (after.totalSize ≤ q.maxBytes ↔ 0 ≤ q.maxSizeMB) ∧ Stocked q after := by
  have files : ∀ e ∈ after.entries, e.isDir = false := fun e here => stocked.files e (less.subset here)
  rcases stocked.fits with empty | fits
  · have none : after.entries = [] := List.sublist_nil.mp (empty ▸ less)
    refine ⟨?_, files, .inl none⟩
    rw [Directory.totalSize, none, ← maxBytes_nonneg]
    rfl
  · have smaller : after.totalSize ≤ q.maxBytes := (sum_sizes_sublist less).trans fits
    exact ⟨iff_of_true smaller (maxBytes_nonneg.mp ((totalSize_nonneg d).trans fits)), files, .inr smaller⟩

theorem dequeue_ok_sublist (d : Directory) : (dequeue .ok d).2.entries.Sublist d.entries := by
  cases files : queued d with
  | nil => rw [dequeue_ok_nil files]
  | cons p rest =>
      rw [dequeue_ok_cons files]
      exact remove_sublist d p.1

theorem Stocked.inQuota_iff (stocked : Stocked q d) (c : Call) : InQuota q d c ↔ Room q d c := by
  cases c with
  | enqueue now data => rw [InQuota, call, stocked.enqueue, totalSize_put, Room]
  | dequeue => exact (stocked.shrinks (dequeue_ok_sublist d)).1
  | size => exact (stocked.shrinks (List.Sublist.refl d.entries)).1

theorem Stocked.call (stocked : Stocked q d) {c : Call} (within : InQuota q d c) :
    Stocked q (q.call .ok d c).2 := by
  cases c with
  | enqueue now data =>
      rw [InQuota, DiskQueue.call, stocked.enqueue] at within
      rw [DiskQueue.call, stocked.enqueue]
      exact stocked.put within
  | dequeue => exact (stocked.shrinks (dequeue_ok_sublist d)).2
  | size => exact stocked

end

theorem quota_respected_iff (q : DiskQueue) (cs : List Call) :
    Along (fun d c => some (q.call .ok d c).2) (InQuota q) .empty cs ↔
      Along (fun d c => some (q.call .ok d c).2) (Room q) .empty cs := by
  have start : Stocked q .empty := ⟨fun e here => absurd here List.not_mem_nil, .inl rfl⟩
  refine along_iff_along start (fun d c stocked => stocked.inQuota_iff c) (fun d c after stocked within taken => ?_) cs
  obtain rfl := Option.some.inj taken
  exact stocked.call within

theorem quota_exceeded : ¬ ∀ (q : DiskQueue) (cs : List Call),
    Along (fun d c => some (q.call .ok d c).2) (InQuota q) .empty cs := by
  intro within
  have start : Stocked ⟨1⟩ .empty := ⟨fun e here => absurd here List.not_mem_nil, .inl rfl⟩
  obtain ⟨payload, length⟩ : ∃ payload : Bytes, payload.length = 600000 :=
    ⟨List.replicate 600000 0, List.length_replicate⟩
  have both := within ⟨1⟩ [.enqueue 10 payload, .enqueue 11 payload]
  have second := (both.2 _ rfl).1
  rw [(start.call both.1).inQuota_iff, Room, call, start.enqueue, totalSize_put] at second
  have absent : replaced (Directory.empty.put (fileName 10) payload) (fileName 11) = 0 := by
    have differ : fileName 10 ≠ fileName 11 := by decide +kernel
    simp [replaced, Directory.find, Directory.put, Directory.insertEntry, Directory.empty, differ]
  rw [absent] at second
  simp [length, replaced, Directory.find, Directory.totalSize, Directory.empty, maxBytes] at second

end GuardianPi.EdgeAgent.DiskQueue
