import GuardianPi.EdgeAgent.DiskQueue
import GuardianPi.Library.BoundedFifo
import GuardianPi.Library.Decimal

namespace GuardianPi.EdgeAgent.DiskQueue
open GuardianPi.Library

inductive Call where
  | enqueue (now : Int) (data : Bytes)
  | dequeue
  | size

inductive Answer where
  | enqueued (ok : Bool)
  | dequeued (data : Option Bytes)
  | size (n : Nat)
  deriving DecidableEq

def call (q : DiskQueue) (io : FileOutcomes) (d : Directory) : Call → Answer × Directory
  | .enqueue now data =>
      let r := q.enqueue io now data d
      (.enqueued r.1, r.2)
  | .dequeue =>
      let r := dequeue io d
      (.dequeued r.1, r.2)
  | .size => (.size (size io d), d)

def calls (q : DiskQueue) (io : FileOutcomes) : Directory → List Call → List Answer × Directory
  | d, [] => ([], d)
  | d, c :: cs =>
      let now := q.call io d c
      let later := calls q io now.2 cs
      (now.1 :: later.1, later.2)

def payloadSize (data : Bytes) : Int := data.length

def payloads (d : Directory) : List Bytes := (queued d).map Prod.snd

def Call.op : Call → BoundedFifo.Op Bytes
  | .enqueue _ data => .enqueue data
  | .dequeue => .dequeue
  | .size => .size

def answerOf : BoundedFifo.Reply Bytes → Answer
  | .done => .enqueued true
  | .front data => .dequeued data
  | .count n => .size n

def enqueued : List Call → List Bytes
  | [] => []
  | .enqueue _ data :: cs => data :: enqueued cs
  | _ :: cs => enqueued cs

def taken : List Answer → List Bytes
  | [] => []
  | .dequeued (some data) :: answers => data :: taken answers
  | _ :: answers => taken answers

def readings : List Call → List Int
  | [] => []
  | .enqueue now _ :: cs => now :: readings cs
  | _ :: cs => readings cs

def queueEntry (p : String × Bytes) : Entry := ⟨p.1, .file p.2⟩

theorem queued_of_entries {d : Directory} {files : List (String × Bytes)}
    (entries : d.entries = files.map queueEntry)
    (gpi : ∀ p ∈ files, fileExt p.1 = ".gpi".toList) : queued d = files := by
  have each : ∀ p ∈ files, (queueFile ∘ queueEntry) p = some p :=
    fun p hp => queueFile_eq_some.mpr ⟨rfl, gpi p hp⟩
  rw [queued, entries, List.filterMap_map, List.filterMap_congr each, List.filterMap_some]

theorem totalSize_of_entries {d : Directory} {files : List (String × Bytes)}
    (entries : d.entries = files.map queueEntry) :
    d.totalSize = BoundedFifo.total (fun p => payloadSize p.2) files := by
  rw [Directory.totalSize, entries, List.map_map]
  rfl

theorem remove_head_entries {d : Directory} {p : String × Bytes} {files : List (String × Bytes)}
    (entries : d.entries = (p :: files).map queueEntry) :
    (d.remove p.1).entries = files.map queueEntry := by
  have sorted := d.sorted
  rw [entries] at sorted
  have below := (List.pairwise_cons.mp sorted).1
  change (d.entries.filter fun e => e.name ≠ p.1) = files.map queueEntry
  rw [entries, List.map_cons, List.filter_cons_of_neg (by simp [queueEntry]), List.filter_eq_self]
  intro e he
  exact decide_eq_true (ne_of_lt (below e he)).symm

theorem evict_entries {d : Directory} {files : List (String × Bytes)} (maxBytes : Int)
    (entries : d.entries = files.map queueEntry) :
    (evict .ok maxBytes (files.map Prod.fst) d.totalSize d).entries =
      (BoundedFifo.shed (fun p => payloadSize p.2) maxBytes files).map queueEntry := by
  induction files generalizing d with
  | nil => simpa [evict, BoundedFifo.shed] using entries
  | cons p files ih =>
      have removed := remove_head_entries entries
      have found : d.find p.1 = some (queueEntry p) := by
        apply Directory.find_of_mem (e := queueEntry p)
        rw [entries]
        exact List.mem_cons_self
      have total : d.totalSize - (queueEntry p).size = (d.remove p.1).totalSize := by
        rw [totalSize_of_entries entries, totalSize_of_entries removed, BoundedFifo.total_cons]
        simp [queueEntry, Entry.size, payloadSize]
      rw [List.map_cons, evict, BoundedFifo.shed, ← totalSize_of_entries entries]
      by_cases fits : d.totalSize ≤ maxBytes
      · rw [if_pos fits, if_pos fits, entries]
      · rw [if_neg fits, if_neg fits]
        simp only [found, FileOutcomes.ok_stat, FileOutcomes.ok_remove, if_true, total]
        exact ih removed

theorem enforceLimit_entries (q : DiskQueue) {d : Directory} {files : List (String × Bytes)}
    (entries : d.entries = files.map queueEntry)
    (gpi : ∀ p ∈ files, fileExt p.1 = ".gpi".toList) :
    (q.enforceLimit .ok d).entries =
      (BoundedFifo.shed (fun p => payloadSize p.2) q.maxBytes files).map queueEntry := by
  by_cases fits : d.totalSize ≤ q.maxBytes
  · have whole := BoundedFifo.shed_of_fits _ _ (totalSize_of_entries entries ▸ fits)
    rw [enforceLimit_ok_of_fits q fits, whole, entries]
  · have loop := evict_entries q.maxBytes entries
    simp only [enforceLimit, FileOutcomes.ok_readDir, FileOutcomes.ok_info, if_true,
      List.filter_true, listFiles_ok, Option.getD_some, queued_of_entries entries gpi]
    rw [if_neg (by exact fits)]
    exact loop

theorem insertEntry_last {es : List Entry} {e : Entry} (last : ∀ f ∈ es, f.name < e.name) :
    Directory.insertEntry e es = es ++ [e] := by
  induction es with
  | nil => rfl
  | cons f fs ih =>
      have before := last f List.mem_cons_self
      rw [Directory.insertEntry, if_neg (not_lt_of_gt before), if_neg (ne_of_gt before),
        ih fun g hg => last g (List.mem_cons_of_mem _ hg)]
      rfl

def storedFile (r : Int × Bytes) : String × Bytes := (fileName r.1, r.2)

/-- The directory holds `stored` and nothing else, one file for each clock reading, and every
reading still to come is later; all are written with `w` digits. -/
structure Holds (w : Nat) (d : Directory) (stored : List (Int × Bytes)) (future : List Int) :
    Prop where
  entries : d.entries = (stored.map storedFile).map queueEntry
  increasing : (stored.map Prod.fst ++ future).Pairwise (· < ·)
  width : ∀ t ∈ stored.map Prod.fst ++ future, Digits w t

variable {w : Nat} {d : Directory} {stored : List (Int × Bytes)} {future : List Int}

theorem storedFile_gpi : ∀ p ∈ stored.map storedFile, fileExt p.1 = ".gpi".toList := by
  intro p hp
  obtain ⟨r, _, rfl⟩ := List.mem_map.mp hp
  exact fileExt_fileName r.1

theorem Holds.queued_eq (h : Holds w d stored future) : queued d = stored.map storedFile :=
  queued_of_entries h.entries storedFile_gpi

theorem Holds.payloads_eq (h : Holds w d stored future) : payloads d = stored.map Prod.snd := by
  rw [payloads, h.queued_eq, List.map_map]
  rfl

theorem Holds.enqueue (q : DiskQueue) {now : Int} (h : Holds w d stored (now :: future))
    (data : Bytes) :
    ∃ e, q.enqueue .ok now data d = (true, e) ∧
      Holds w e (BoundedFifo.shed (fun r => payloadSize r.2) q.maxBytes stored ++ [(now, data)])
        future := by
  let kept := BoundedFifo.shed (fun r => payloadSize r.2) q.maxBytes stored
  have keptSuffix : kept <:+ stored := BoundedFifo.shed_suffix _ _ stored
  have limited : (q.enforceLimit .ok d).entries = (kept.map storedFile).map queueEntry := by
    rw [enforceLimit_entries q h.entries storedFile_gpi, BoundedFifo.shed_map]
    rfl
  have later : ∀ e ∈ (q.enforceLimit .ok d).entries, e.name < fileName now := by
    intro e he
    rw [limited, List.map_map] at he
    obtain ⟨r, hr, rfl⟩ := List.mem_map.mp he
    have member : r.1 ∈ stored.map Prod.fst := List.mem_map_of_mem (keptSuffix.subset hr)
    have before : r.1 < now :=
      (List.pairwise_append.mp h.increasing).2.2 r.1 member now List.mem_cons_self
    exact ((h.width r.1 (List.mem_append_left _ member)).lt_iff
      (h.width now (List.mem_append_right _ List.mem_cons_self)) ".gpi").mpr before
  have fresh : fileName now ∉ (q.enforceLimit .ok d).names := by
    intro taken
    obtain ⟨e, he, same⟩ := List.mem_map.mp taken
    exact absurd (later e he) (same ▸ lt_irrefl _)
  refine ⟨_, writeFile_done fresh data, ?_, ?_, ?_⟩
  · change Directory.insertEntry _ (q.enforceLimit .ok d).entries = _
    rw [insertEntry_last later, limited]
    simp [kept, storedFile, queueEntry]
  · have sub : List.Sublist ((kept ++ [(now, data)]).map Prod.fst ++ future)
        (stored.map Prod.fst ++ now :: future) := by
      simpa using keptSuffix.sublist.map Prod.fst
    exact h.increasing.sublist sub
  · intro t ht
    apply h.width t
    simp only [List.map_append, List.map_cons, List.map_nil, List.append_assoc, List.cons_append,
      List.nil_append, List.mem_append] at ht ⊢
    exact ht.imp_left fun ht => List.map_subset _ keptSuffix.subset ht

theorem Holds.tail {r : Int × Bytes} {rest : List (Int × Bytes)}
    (h : Holds w d (r :: rest) future) : Holds w (d.remove (fileName r.1)) rest future where
  entries := remove_head_entries (p := storedFile r) h.entries
  increasing := (List.pairwise_cons.mp h.increasing).2
  width := fun t ht => h.width t (List.mem_cons_of_mem _ ht)

theorem call_refines (q : DiskQueue) {c : Call} (h : Holds w d stored (readings [c] ++ future)) :
    let spec := BoundedFifo.step payloadSize q.maxBytes (stored.map Prod.snd) c.op
    ∃ stored', (q.call .ok d c).1 = answerOf spec.1 ∧ stored'.map Prod.snd = spec.2.2 ∧
      Holds w (q.call .ok d c).2 stored' future := by
  cases c with
  | enqueue now data =>
      obtain ⟨e, code, holds⟩ := Holds.enqueue q h data
      refine ⟨_, ?_, ?_, by rw [call, code]; exact holds⟩
      · rw [call, code]
        rfl
      · rw [List.map_append, ← BoundedFifo.shed_map]
        rfl
  | dequeue =>
      cases stored with
      | nil =>
          have code := dequeue_ok_nil (h.queued_eq)
          exact ⟨[], by rw [call, code]; rfl, rfl, by rw [call, code]; exact h⟩
      | cons r rest =>
          have code := dequeue_ok_cons (h.queued_eq)
          exact ⟨rest, by rw [call, code]; rfl, rfl, by rw [call, code]; exact h.tail⟩
  | size =>
      refine ⟨stored, ?_, rfl, h⟩
      simp [call, size, listFiles_ok, h.queued_eq, Call.op, BoundedFifo.step, answerOf]

theorem readings_cons (c : Call) (cs : List Call) : readings (c :: cs) = readings [c] ++ readings cs := by
  cases c <;> rfl

theorem calls_refine (q : DiskQueue) (cs : List Call) (h : Holds w d stored (readings cs)) :
    let spec := BoundedFifo.perform payloadSize q.maxBytes (stored.map Prod.snd) (cs.map Call.op)
    (q.calls .ok d cs).1 = spec.1.map answerOf ∧ payloads (q.calls .ok d cs).2 = spec.2.2 := by
  induction cs generalizing d stored with
  | nil => exact ⟨rfl, h.payloads_eq⟩
  | cons c cs ih =>
      rw [readings_cons] at h
      obtain ⟨stored', answer, state, holds⟩ := call_refines q h
      have later := ih holds
      simp only [calls, List.map_cons, BoundedFifo.perform, ← state, answer]
      exact ⟨congrArg _ later.1, later.2⟩

theorem entered_op (cs : List Call) : BoundedFifo.entered (cs.map Call.op) = enqueued cs := by
  induction cs with
  | nil => rfl
  | cons c cs ih => cases c <;> simp [Call.op, BoundedFifo.entered, enqueued, ih]

theorem taken_answerOf (replies : List (BoundedFifo.Reply Bytes)) :
    taken (replies.map answerOf) = BoundedFifo.fronts replies := by
  induction replies with
  | nil => rfl
  | cons r replies ih =>
      match r with
      | .done | .count _ | .front none | .front (some _) =>
          simp [answerOf, taken, BoundedFifo.fronts, ih]

/-- A directory of queue files is a bounded first-in first-out queue: every call answers as the
queue does, entries leave in the order in which they entered, and those that leave without being
dequeued are the evicted ones. -/
theorem diskQueue_refines_boundedFifo (q : DiskQueue) (cs : List Call)
    (h : Holds w d stored (readings cs)) :
    let code := q.calls .ok d cs
    let spec := BoundedFifo.perform payloadSize q.maxBytes (stored.map Prod.snd) (cs.map Call.op)
    code.1 = spec.1.map answerOf ∧ payloads code.2 = spec.2.2 ∧
      spec.2.1.map Prod.fst ++ payloads code.2 = stored.map Prod.snd ++ enqueued cs ∧
      BoundedFifo.delivered spec.2.1 = taken code.1 ∧
      ∀ xs, BoundedFifo.ShortestDrop payloadSize q.maxBytes xs
        (BoundedFifo.shed payloadSize q.maxBytes xs) := by
  obtain ⟨answers, state⟩ := calls_refine q cs h
  refine ⟨answers, state, ?_, ?_, BoundedFifo.shed_shortestDrop _ _⟩
  · rw [state, BoundedFifo.perform_conserves, entered_op]
  · rw [answers, taken_answerOf, BoundedFifo.perform_delivered]

theorem diskQueue_refines_boundedFifo_two :
    let cs := [Call.enqueue 10 [7, 8], .size, .enqueue 11 [], .dequeue, .dequeue, .dequeue]
    let code := (DiskQueue.mk 1).calls .ok Directory.empty cs
    code.1 = [.enqueued true, .size 1, .enqueued true, .dequeued (some [7, 8]),
      .dequeued (some []), .dequeued none] ∧ payloads code.2 = [] := by
  have holds : Holds 2 Directory.empty [] [10, 11] :=
    ⟨rfl, by decide, by decide⟩
  obtain ⟨answers, state, -⟩ := diskQueue_refines_boundedFifo ⟨1⟩
    [Call.enqueue 10 [7, 8], .size, .enqueue 11 [], .dequeue, .dequeue, .dequeue] holds
  exact ⟨answers.trans (by decide), state.trans (by decide)⟩

end GuardianPi.EdgeAgent.DiskQueue
