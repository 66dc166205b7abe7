import GuardianPi.EdgeAgent.FaultyDrain
import GuardianPi.EdgeAgent.QueueQuota

namespace GuardianPi.EdgeAgent.DiskQueue
open GuardianPi.Library

def storedSize (p : String × Bytes) : Int := payloadSize p.2

def seen (io : FileOutcomes) (p : String × Bytes) : Int := if io.stat p.1 then storedSize p else 0

def believed (io : FileOutcomes) (d : Directory) (older : List (String × Bytes)) : Int :=
  measured io d - BoundedFifo.total (seen io) older

structure EvictsShortest (q : DiskQueue) (io : FileOutcomes) (d : Directory) : Prop where
  files : BoundedFifo.ShortestDrop storedSize q.maxBytes (queued d) (queued (q.enforceLimit io d))
  others : ∀ e ∈ d.entries, queueFile e = none → e ∈ (q.enforceLimit io d).entries

/-- The loop gets to remove a file exactly if this and the newer ones exceed the quota. -/
def CountsQueueFiles (q : DiskQueue) (io : FileOutcomes) (d : Directory) : Prop :=
  ∀ older p newer, queued d = older ++ p :: newer →
    ((io.listDir ∧ io.remove p.1 ∧ q.maxBytes < believed io d older) ↔
      q.maxBytes < BoundedFifo.total storedSize (p :: newer))

theorem storedSize_nonneg (p : String × Bytes) : 0 ≤ storedSize p := Int.natCast_nonneg _

theorem seen_nonneg (io : FileOutcomes) (p : String × Bytes) : 0 ≤ seen io p := by
  unfold seen
  split_ifs
  · exact storedSize_nonneg p
  · exact le_rfl

section
variable {io : FileOutcomes} {maxBytes : Int} {d : Directory} {e : Entry}

theorem evict_cons {p : String × Bytes} {files : List String} {totalSize : Int}
    (stored : ⟨p.1, .file p.2⟩ ∈ d.entries) (exceeds : ¬ totalSize ≤ maxBytes) :
    evict io maxBytes (p.1 :: files) totalSize d =
      evict io maxBytes files (totalSize - seen io p) (if io.remove p.1 then d.remove p.1 else d) := by
  have found : d.find p.1 = some ⟨p.1, .file p.2⟩ := Directory.find_of_mem stored
  rw [evict, if_neg exceeds]
  simp only [found]
  rfl

theorem forall_split_cons {α : Type*} {x : α} {xs : List α} {P : List α → α → List α → Prop} :
    (∀ older y newer, x :: xs = older ++ y :: newer → P older y newer) ↔
      P [] x xs ∧ ∀ older y newer, xs = older ++ y :: newer → P (x :: older) y newer := by
  constructor
  · intro all
    exact ⟨all [] x xs rfl, fun older y newer split => all (x :: older) y newer (congrArg (x :: ·) split)⟩
  · intro ⟨first, rest⟩ older y newer split
    cases older with
    | nil =>
        obtain ⟨rfl, rfl⟩ := List.cons.inj split
        exact first
    | cons z older =>
        obtain ⟨rfl, tails⟩ := List.cons.inj split
        exact rest older y newer tails

theorem mem_remove_if {removed : Bool} {f : String} :
    e ∈ (if removed then d.remove f else d).entries ↔ e ∈ d.entries ∧ ¬ (removed ∧ e.name = f) := by
  cases removed <;> simp [Directory.remove]

theorem mem_evict {files : List (String × Bytes)} {totalSize : Int}
    (stored : ∀ p ∈ files, ⟨p.1, .file p.2⟩ ∈ d.entries) (nodup : (files.map Prod.fst).Nodup) :
    e ∈ (evict io maxBytes (files.map Prod.fst) totalSize d).entries ↔
      e ∈ d.entries ∧ ∀ older p newer, files = older ++ p :: newer → e.name = p.1 →
        ¬ (io.remove p.1 ∧ maxBytes < totalSize - BoundedFifo.total (seen io) older) := by
  induction files generalizing totalSize d with
  | nil =>
      refine (and_iff_left ?_).symm
      intro older p newer split
      simp at split
  | cons p files ih =>
      obtain ⟨apart, nodup⟩ := List.nodup_cons.mp nodup
      by_cases fits : totalSize ≤ maxBytes
      · rw [List.map_cons, evict, if_pos fits]
        refine (and_iff_left ?_).symm
        rintro older - newer - - ⟨-, exceeds⟩
        have taken := BoundedFifo.total_nonneg (seen_nonneg io) older
        omega
      · have kept : ∀ g ∈ files, ⟨g.1, .file g.2⟩ ∈ (if io.remove p.1 then d.remove p.1 else d).entries := by
          intro g here
          refine mem_remove_if.mpr ⟨stored g (List.mem_cons_of_mem _ here), fun gone => apart ?_⟩
          exact List.mem_map.mpr ⟨g, here, gone.2⟩
        have exceeds : maxBytes < totalSize - BoundedFifo.total (seen io) [] := by
          simpa [BoundedFifo.total] using fits
        rw [List.map_cons, evict_cons (stored p List.mem_cons_self) fits, ih kept nodup, mem_remove_if, and_assoc,
          forall_split_cons]
        refine and_congr_right fun _ => and_congr ?_ ?_
        · simp only [exceeds, and_true, not_and, imp_not_comm]
        · simp only [BoundedFifo.total_cons, sub_sub]

end

section
variable {q : DiskQueue} {io : FileOutcomes} {d : Directory}

theorem mem_enforceLimit {e : Entry} :
    e ∈ (q.enforceLimit io d).entries ↔ e ∈ d.entries ∧ ∀ older p newer, queued d = older ++ p :: newer →
      e.name = p.1 → ¬ (io.listDir ∧ io.remove p.1 ∧ q.maxBytes < believed io d older) := by
  rw [enforceLimit_eq]
  split_ifs with fits
  · refine (and_iff_left ?_).symm
    rintro older p newer - - ⟨-, -, exceeds⟩
    have taken := BoundedFifo.total_nonneg (seen_nonneg io) older
    rw [believed] at exceeds
    omega
  · by_cases listed : io.listDir = true
    · have stored : ∀ p ∈ queued d, ⟨p.1, .file p.2⟩ ∈ d.entries := fun p here => (mem_queued.mp here).1
      rw [listFiles_eq listed, Option.getD_some, mem_evict stored (queued_names_nodup d)]
      simp only [listed, true_and, believed]
    · have none : listFiles io d = none := if_neg listed
      rw [none, Option.getD_none, evict]
      refine (and_iff_left ?_).symm
      rintro older p newer - - ⟨there, -⟩
      exact listed there

theorem split_unique {older older' newer newer' : List (String × Bytes)} {p p' : String × Bytes}
    (split : queued d = older ++ p :: newer) (split' : queued d = older' ++ p' :: newer') (same : p.1 = p'.1) :
    older = older' := by
  have names := queued_names_nodup d
  have here : p ∈ queued d := by simp [split]
  have here' : p' ∈ queued d := by simp [split']
  obtain rfl : p = p' := List.inj_on_of_nodup_map names here here' same
  have nodup : (p :: (older ++ newer)).Nodup := List.nodup_middle.mp (split ▸ names.of_map)
  obtain ⟨before, after⟩ := not_or.mp (List.mem_append.not.mp (List.nodup_cons.mp nodup).1)
  exact ((List.append_cons_inj_of_notMem before after).mp (split.symm.trans split')).1

theorem mem_queued_enforceLimit {older newer : List (String × Bytes)} {p : String × Bytes}
    (split : queued d = older ++ p :: newer) : p ∈ queued (q.enforceLimit io d) ↔
      ¬ (io.listDir ∧ io.remove p.1 ∧ q.maxBytes < believed io d older) := by
  have here : p ∈ queued d := by simp [split]
  obtain ⟨stored, gpi⟩ := mem_queued.mp here
  rw [mem_queued, and_iff_left gpi, mem_enforceLimit, and_iff_right stored]
  constructor
  · intro kept
    exact kept older p newer split rfl
  · intro kept older' p' newer' split' same
    rwa [← same, ← split_unique split split' same]

theorem eq_of_mem_iff {xs ys : List (String × Bytes)} (hx : xs.Pairwise fun a b => a.1 < b.1)
    (hy : ys.Pairwise fun a b => a.1 < b.1) (same : ∀ p, p ∈ xs ↔ p ∈ ys) : xs = ys := by
  have distinct {zs : List (String × Bytes)} (h : zs.Pairwise fun a b => a.1 < b.1) : zs.Nodup :=
    h.imp fun below equal => absurd (equal ▸ below) (lt_irrefl _)
  have perm : xs.Perm ys := (List.perm_ext_iff_of_nodup (distinct hx) (distinct hy)).mpr same
  refine perm.eq_of_pairwise (fun a b _ _ below above => ?_) hx hy
  exact absurd above (lt_asymm below)

theorem enforceLimit_others {e : Entry} (here : e ∈ d.entries) (other : queueFile e = none) :
    e ∈ (q.enforceLimit io d).entries := by
  refine mem_enforceLimit.mpr ⟨here, fun older p newer split same => ?_⟩
  obtain ⟨stored, gpi⟩ := mem_queued.mp (split ▸ List.mem_append_right older List.mem_cons_self)
  have file : some e = some ⟨p.1, .file p.2⟩ :=
    calc some e = d.find e.name := (Directory.find_of_mem here).symm
      _ = d.find p.1 := congrArg d.find same
      _ = some ⟨p.1, .file p.2⟩ := Directory.find_of_mem stored
  have queue : queueFile e = some p := queueFile_eq_some.mpr ⟨Option.some.inj file, gpi⟩
  rw [other] at queue
  cases queue

theorem mem_shed_queued {maxBytes : Int} {older newer : List (String × Bytes)} {p : String × Bytes}
    (split : queued d = older ++ p :: newer) : p ∈ BoundedFifo.shed storedSize maxBytes (queued d) ↔
      ¬ maxBytes < BoundedFifo.total storedSize (p :: newer) := by
  rw [split, not_lt]
  exact BoundedFifo.mem_shed_iff storedSize_nonneg (split ▸ (queued_names_nodup d).of_map)

theorem EvictsShortest.counts (evicts : EvictsShortest q io d) : CountsQueueFiles q io d := by
  intro older p newer split
  have same := (BoundedFifo.shortestDrop_iff storedSize_nonneg).mp evicts.files
  rw [← not_iff_not, ← mem_shed_queued split, ← same, mem_queued_enforceLimit split]

theorem CountsQueueFiles.evicts (counts : CountsQueueFiles q io d) : EvictsShortest q io d := by
  refine ⟨(BoundedFifo.shortestDrop_iff storedSize_nonneg).mpr ?_, fun e => enforceLimit_others⟩
  have shed := BoundedFifo.shed_suffix storedSize q.maxBytes (queued d)
  refine eq_of_mem_iff (queued_sorted _) ((queued_sorted d).sublist shed.sublist) fun p => ?_
  by_cases here : p ∈ queued d
  · obtain ⟨older, newer, split⟩ := List.append_of_mem here
    rw [mem_queued_enforceLimit split, mem_shed_queued split, not_iff_not]
    exact counts older p newer split
  · refine iff_of_false (fun left => here ?_) fun left => here (shed.subset left)
    exact (queued_sublist (enforceLimit_sublist q io d)).subset left

theorem evictsShortest_iff (q : DiskQueue) (io : FileOutcomes) (d : Directory) :
    EvictsShortest q io d ↔ CountsQueueFiles q io d :=
  ⟨EvictsShortest.counts, CountsQueueFiles.evicts⟩

theorem total_queued_le (d : Directory) : BoundedFifo.total storedSize (queued d) ≤ d.totalSize := by
  unfold queued Directory.totalSize
  induction d.entries with
  | nil => exact le_rfl
  | cons e es ih =>
      rw [List.map_cons, List.sum_cons, List.filterMap_cons]
      cases file : queueFile e with
      | none => exact ih.trans (le_add_of_nonneg_left (entry_size_nonneg e))
      | some p =>
          have size : storedSize p = e.size := by
            obtain ⟨rfl, -⟩ := queueFile_eq_some.mp file
            rfl
          rw [BoundedFifo.total_cons, size]
          exact Int.add_le_add_left ih _

theorem evictsShortest_ok_iff (q : DiskQueue) (d : Directory) :
    EvictsShortest q .ok d ↔
      let kept := BoundedFifo.shed storedSize q.maxBytes (queued d)
      kept = [] ∨
        d.totalSize - BoundedFifo.total storedSize (queued d) + BoundedFifo.total storedSize kept ≤ q.maxBytes := by
  have others := total_queued_le d
  have believes {older p newer} (split : queued d = older ++ p :: newer) : believed .ok d older =
      d.totalSize - BoundedFifo.total storedSize (queued d) + BoundedFifo.total storedSize (p :: newer) := by
    have measure : measured .ok d = d.totalSize := by simp [measured, Directory.totalSize]
    have seenAll : seen .ok = storedSize := rfl
    rw [believed, measure, seenAll, split]
    simp only [BoundedFifo.total, List.map_append, List.sum_append]
    omega
  constructor
  · intro evicts
    rcases shed : BoundedFifo.shed storedSize q.maxBytes (queued d) with _ | ⟨p, newer⟩
    · exact .inl rfl
    · have split := (BoundedFifo.evicted_append_shed storedSize q.maxBytes (queued d)).symm
      rw [shed] at split
      have fits : BoundedFifo.total storedSize (p :: newer) ≤ q.maxBytes :=
        shed ▸ (BoundedFifo.shed_fits storedSize q.maxBytes (queued d)).resolve_left (by simp [shed])
      refine .inr (not_lt.mp fun exceeds => not_lt.mpr fits ?_)
      exact (evicts.counts _ p newer split).mp ⟨rfl, rfl, believes split ▸ exceeds⟩
  · intro room
    refine CountsQueueFiles.evicts fun older p newer split => ?_
    rw [believes split]
    constructor
    · intro evicted
      apply not_le.mp
      intro fits
      have exceeds := evicted.2.2
      have suffix := BoundedFifo.suffix_shed ⟨older, split.symm⟩ fits
      have total := BoundedFifo.total_suffix storedSize_nonneg suffix
      rcases room with empty | room
      · exact absurd (List.suffix_nil.mp (empty ▸ suffix)) (List.cons_ne_nil p newer)
      · omega
    · intro exceeds
      exact ⟨rfl, rfl, by omega⟩

end

theorem eviction_wipes_queue : ¬ ∀ (q : DiskQueue) (io : FileOutcomes) (d : Directory), EvictsShortest q io d := by
  intro evicts
  obtain ⟨notes, length⟩ : ∃ notes : Bytes, notes.length = 2000000 :=
    ⟨List.replicate 2000000 0, List.length_replicate⟩
  let d := (Directory.empty.put "7.gpi" [1]).put "notes.txt" notes
  have entries : d.entries = [⟨"7.gpi", .file [1]⟩, ⟨"notes.txt", .file notes⟩] := by
    have after : ¬ "notes.txt" < "7.gpi" := by decide +kernel
    simp [d, Directory.put, Directory.insertEntry, Directory.empty, after]
  have files : queued d = [] ++ ("7.gpi", [1]) :: [] := by
    have gpi : fileExt "7.gpi" = ['.', 'g', 'p', 'i'] := by decide +kernel
    have text : fileExt "notes.txt" ≠ ['.', 'g', 'p', 'i'] := by decide +kernel
    simp [queued, entries, queueFile, gpi, text]
  have same := (BoundedFifo.shortestDrop_iff storedSize_nonneg).mp (evicts ⟨1⟩ .ok d).files
  have kept : ("7.gpi", [1]) ∈ queued (enforceLimit ⟨1⟩ .ok d) := by
    rw [same, files]
    decide +kernel
  apply (mem_queued_enforceLimit files).mp kept
  simp [believed, measured, entries, Entry.size, length, BoundedFifo.total, maxBytes]

end GuardianPi.EdgeAgent.DiskQueue
