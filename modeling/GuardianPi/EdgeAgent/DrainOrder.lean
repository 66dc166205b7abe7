import GuardianPi.EdgeAgent.Conservation
import GuardianPi.EdgeAgent.QueueRefinement

namespace GuardianPi.EdgeAgent
open GuardianPi.Library DiskQueue

theorem insertEntry_split {e : Entry} {es : List Entry} (fresh : ∀ f ∈ es, f.name ≠ e.name)
    (sorted : es.Pairwise fun a b => a.name < b.name) :
    ∃ before after, es = before ++ after ∧
      Directory.insertEntry e es = before ++ e :: after ∧
      (∀ f ∈ before, f.name < e.name) ∧ ∀ f ∈ after, e.name < f.name := by
  induction es with
  | nil => exact ⟨[], [], rfl, rfl, nofun, nofun⟩
  | cons f fs ih =>
      obtain ⟨below, rest⟩ := List.pairwise_cons.mp sorted
      have differ := fresh f List.mem_cons_self
      rw [Directory.insertEntry]
      split_ifs with first same
      · refine ⟨[], f :: fs, rfl, rfl, nofun, ?_⟩
        intro g hg
        rcases List.mem_cons.mp hg with rfl | hg
        · exact first
        · exact first.trans (below g hg)
      · exact absurd same.symm differ
      · obtain ⟨before, after, split, inserted, low, high⟩ :=
          ih (fun g hg => fresh g (List.mem_cons_of_mem _ hg)) rest
        refine ⟨f :: before, after, by rw [split]; rfl, by rw [inserted]; rfl, ?_, high⟩
        intro g hg
        rcases List.mem_cons.mp hg with rfl | hg
        · exact lt_of_le_of_ne (not_lt.mp first) differ
        · exact low g hg

theorem queued_put_split {d : Directory} {now : Int} (fresh : fileName now ∉ d.names)
    (data : Bytes) :
    ∃ before after, queued d = before ++ after ∧
      queued (d.put (fileName now) data) = before ++ (fileName now, data) :: after ∧
      (∀ p ∈ before, p.1 < fileName now) ∧ ∀ p ∈ after, fileName now < p.1 := by
  have differ : ∀ f ∈ d.entries, f.name ≠ fileName now := by
    intro f hf same
    exact fresh (List.mem_map.mpr ⟨f, hf, same⟩)
  obtain ⟨before, after, split, inserted, low, high⟩ :=
    insertEntry_split (e := ⟨fileName now, .file data⟩) differ d.sorted
  have new : queueFile ⟨fileName now, .file data⟩ = some (fileName now, data) :=
    queueFile_eq_some.mpr ⟨rfl, fileExt_fileName now⟩
  refine ⟨before.filterMap queueFile, after.filterMap queueFile, ?_, ?_, ?_, ?_⟩
  · rw [queued, split, List.filterMap_append]
  · change (Directory.insertEntry _ d.entries).filterMap queueFile = _
    rw [inserted, List.filterMap_append, List.filterMap_cons, new]
  · intro p hp
    obtain ⟨f, hf, file⟩ := List.mem_filterMap.mp hp
    rw [show p.1 = f.name by rw [(queueFile_eq_some.mp file).1]]
    exact low f hf
  · intro p hp
    obtain ⟨f, hf, file⟩ := List.mem_filterMap.mp hp
    rw [show p.1 = f.name by rw [(queueFile_eq_some.mp file).1]]
    exact high f hf

theorem snoc_eq_cons_iff {α : Type*} {xs : List α} {a : α} :
    xs ++ [a] = a :: xs ↔ ∀ x ∈ xs, x = a := by
  induction xs with
  | nil => simp
  | cons x xs ih =>
      rw [List.cons_append, List.cons.injEq, List.forall_mem_cons, ← ih]
      constructor
      · intro ⟨same, rest⟩
        exact ⟨same, same ▸ rest⟩
      · intro ⟨same, rest⟩
        exact ⟨same, same.symm ▸ rest⟩

/-! ## Putting a batch back -/

theorem enforceLimit_of_kept (q : DiskQueue) {d : Directory}
    (kept : queued d = [] ∨ d.totalSize ≤ q.maxBytes) : q.enforceLimit .ok d = d := by
  by_cases fits : d.totalSize ≤ q.maxBytes
  · exact enforceLimit_ok_of_fits q fits
  · have empty : queued d = [] := kept.resolve_right fits
    simp only [enforceLimit, FileOutcomes.ok_readDir, FileOutcomes.ok_info, if_true,
      List.filter_true, listFiles_ok, empty, List.map_nil, Option.getD_some, evict, ite_self]

theorem enforceLimit_evicts (q : DiskQueue) {d : Directory} {p : String × Bytes}
    {rest : List (String × Bytes)} (files : queued d = p :: rest)
    (exceeds : ¬ d.totalSize ≤ q.maxBytes) : (queued (q.enforceLimit .ok d)).Sublist rest := by
  have loop : (q.enforceLimit .ok d).entries.Sublist (d.remove p.1).entries := by
    simp only [enforceLimit, FileOutcomes.ok_readDir, FileOutcomes.ok_info, if_true,
      List.filter_true, listFiles_ok, files, List.map_cons, Option.getD_some]
    rw [if_neg (by exact exceeds), evict, if_neg (by exact exceeds)]
    exact evict_sublist _ _ _ _ _
  have removed := queued_sublist loop
  rwa [queued_remove_head files] at removed

theorem queued_names_nodup (d : Directory) : ((queued d).map Prod.fst).Nodup :=
  List.pairwise_map.mpr ((queued_sorted d).imp ne_of_lt)

theorem length_queued_write {d : Directory} {now : Int} (taken : fileName now ∈ d.names)
    (data : Bytes) :
    (queued (d.writeFile .done (fileName now) data).2).length ≤ (queued d).length := by
  obtain ⟨e, member, name⟩ := List.mem_map.mp taken
  have found : d.find (fileName now) = some e := name ▸ Directory.find_of_mem member
  obtain ⟨_, node⟩ := e
  cases node with
  | subdirectory size => rw [Directory.writeFile, found]
  | file bytes =>
      obtain rfl := name
      rw [Directory.writeFile, found]
      have old : fileName now ∈ (queued d).map Prod.fst :=
        List.mem_map.mpr ⟨_, mem_queued.mpr ⟨member, fileExt_fileName now⟩, rfl⟩
      have names : (queued (d.put (fileName now) data)).map Prod.fst ⊆ (queued d).map Prod.fst := by
        intro f hf
        obtain ⟨p, hp, rfl⟩ := List.mem_map.mp hf
        obtain ⟨g, hg, file⟩ := List.mem_filterMap.mp hp
        rcases Directory.mem_insertEntry hg with rfl | hg
        · have same := (Entry.mk.inj (queueFile_eq_some.mp file).1).1
          exact same ▸ old
        · exact List.mem_map_of_mem (List.mem_filterMap.mpr ⟨g, hg, file⟩)
      have le := (queued_names_nodup _).subperm names |>.length_le
      simpa using le

theorem length_queued_write_le (d : Directory) (now : Int) (data : Bytes) :
    (queued (d.writeFile .done (fileName now) data).2).length ≤ (queued d).length + 1 := by
  by_cases taken : fileName now ∈ d.names
  · exact (length_queued_write taken data).trans (Nat.le_succ _)
  · obtain ⟨before, after, split, stored, -⟩ := queued_put_split taken data
    rw [writeFile_done taken]
    simp only [stored, split, List.length_append, List.length_cons]
    omega

/-- The batch that is put back after a failed Post lands in front of the others. -/
def ReturnsFirst (q : DiskQueue) (now : Int) (data : Bytes) (d : Directory) : Prop :=
  fileName now ∉ d.names ∧ (queued d = [] ∨ d.totalSize ≤ q.maxBytes) ∧
    ∀ p ∈ queued d, p.1 < fileName now → p.2 = data

instance (q : DiskQueue) (now : Int) (data : Bytes) (d : Directory) :
    Decidable (ReturnsFirst q now data d) :=
  have : Decidable (queued d = []) := decidable_of_iff ((queued d).isEmpty = true) List.isEmpty_iff
  inferInstanceAs (Decidable (_ ∧ _ ∧ _))

theorem enqueue_first_iff (q : DiskQueue) (now : Int) (data : Bytes) (d : Directory) :
    payloads (q.enqueue .ok now data d).2 = data :: payloads d ↔ ReturnsFirst q now data d := by
  have bound : (queued (q.enforceLimit .ok d)).length ≤ (queued d).length :=
    (queued_sublist (enforceLimit_sublist q .ok d)).length_le
  by_cases kept : queued d = [] ∨ d.totalSize ≤ q.maxBytes
  · have same := enforceLimit_of_kept q kept
    by_cases fresh : fileName now ∉ d.names
    · obtain ⟨before, after, split, stored, low, high⟩ := queued_put_split fresh data
      have code : payloads (q.enqueue .ok now data d).2 =
          before.map Prod.snd ++ [data] ++ after.map Prod.snd := by
        simp only [DiskQueue.enqueue, same, FileOutcomes.ok_write, writeFile_done fresh, payloads,
          stored]
        simp
      have front : data :: payloads d = data :: before.map Prod.snd ++ after.map Prod.snd := by
        rw [payloads, split, List.map_append]
        rfl
      have earlier : (∀ p ∈ queued d, p.1 < fileName now → p.2 = data) ↔
          ∀ x ∈ before.map Prod.snd, x = data := by
        rw [List.forall_mem_map, split]
        constructor
        · intro h p member
          exact h p (List.mem_append_left _ member) (low p member)
        · intro h p member less
          rcases List.mem_append.mp member with member | member
          · exact h p member
          · exact absurd less (lt_asymm (high p member))
      rw [code, front, List.append_left_inj, snoc_eq_cons_iff, ← earlier]
      exact ⟨fun h => ⟨fresh, kept, h⟩, fun h => h.2.2⟩
    · have taken : fileName now ∈ d.names := by simpa using fresh
      have le := length_queued_write taken data
      constructor
      · intro h
        have length := congrArg List.length h
        simp only [DiskQueue.enqueue, same, FileOutcomes.ok_write, payloads, List.length_map,
          List.length_cons] at length
        omega
      · intro h
        exact absurd taken h.1
  · constructor
    · intro h
      obtain ⟨some, exceeds⟩ := not_or.mp kept
      obtain ⟨p, rest, files⟩ := List.exists_cons_of_ne_nil some
      have left := (enforceLimit_evicts q files exceeds).length_le
      have written := length_queued_write_le (q.enforceLimit .ok d) now data
      have length := congrArg List.length h
      simp only [DiskQueue.enqueue, FileOutcomes.ok_write, payloads, files, List.length_map,
        List.length_cons] at length
      omega
    · intro h
      exact absurd h.2.1 kept

/-! ## One drain -/

def acceptedBodies (calls : List Call) : List Bytes :=
  calls.filterMap fun c =>
    match c with
    | .post _ body true => some body
    | _ => none

def removeAll (d : Directory) (files : List (String × Bytes)) : Directory :=
  files.foldl (fun d p => d.remove p.1) d

structure Succeeds (env : Env) (w : World) (k : Nat) : Prop where
  le : k ≤ (queued w.dir).length
  ok : ∀ i < k, env.post (w.posts + i) = true
  fails : k < (queued w.dir).length → env.post (w.posts + k) = false

def successCount (env : Env) (w : World) : Nat :=
  (List.range (queued w.dir).length).findIdx fun i => !env.post (w.posts + i)

def KeepsPlace (cfg : AgentConfig) (env : Env) (w : World) (k : Nat) : Prop :=
  ∀ p rest, (queued w.dir).drop k = p :: rest →
    ReturnsFirst cfg.queue (env.now w.readings) p.2 (removeAll w.dir ((queued w.dir).take (k + 1)))

instance (cfg : AgentConfig) (env : Env) (w : World) (k : Nat) :
    Decidable (KeepsPlace cfg env w k) :=
  match left : (queued w.dir).drop k with
  | [] => isTrue fun p rest h => by rw [left] at h; cases h
  | p :: rest =>
      decidable_of_iff (ReturnsFirst cfg.queue (env.now w.readings) p.2
        (removeAll w.dir ((queued w.dir).take (k + 1)))) (by simp [KeepsPlace, left])

structure Drained (cfg : AgentConfig) (env : Env) (w : World) (k : Nat) (v : World) : Prop where
  accepted : ∃ calls, v.calls = w.calls ++ calls ∧ acceptedBodies calls = (payloads w.dir).take k
  empty : (queued w.dir).drop k = [] → queued v.dir = []
  back : ∀ p rest, (queued w.dir).drop k = p :: rest →
    v.dir = (cfg.queue.enqueue .ok (env.now w.readings) p.2
      (removeAll w.dir ((queued w.dir).take (k + 1)))).2

section
variable {cfg : AgentConfig} {env : Env}

theorem succeeds_successCount (env : Env) (w : World) : Succeeds env w (successCount env w) := by
  let n := (queued w.dir).length
  have length : (List.range n).length = n := List.length_range
  have le : successCount env w ≤ n := length ▸ List.findIdx_le_length
  refine ⟨le, ?_, ?_⟩
  · intro i less
    have goes := List.not_of_lt_findIdx (p := fun i => !env.post (w.posts + i)) less
    simpa using goes
  · intro less
    have stops := List.findIdx_getElem (p := fun i => !env.post (w.posts + i))
      (w := (by rw [length]; exact less : _ < (List.range n).length))
    simpa [successCount] using stops

theorem Succeeds.tail {w next : World} {k : Nat} (succeeds : Succeeds env w (k + 1))
    (length : (queued w.dir).length = (queued next.dir).length + 1) (posts : next.posts = w.posts + 1) :
    Succeeds env next k := by
  have shift : ∀ i, w.posts + (i + 1) = next.posts + i := by
    intro i
    omega
  refine ⟨?_, ?_, ?_⟩
  · have le := succeeds.le
    omega
  · intro i less
    rw [← shift]
    exact succeeds.ok (i + 1) (Nat.succ_lt_succ less)
  · intro less
    rw [← shift]
    exact succeeds.fails (by omega)

theorem drain_stops (files : ∀ k, env.files k = .ok) (fuel : Nat) {w : World} (succeeds : Succeeds env w 0) :
    ∃ v, drainQueue cfg env (fuel + 1) w = some v ∧ Drained cfg env w 0 v := by
  rcases dequeue_spec files w with ⟨none, same, empty⟩ | ⟨p, rest, queue, some, removed⟩
  · refine ⟨(dequeue env w).2, by simp only [drainQueue, none], ?_, ?_, ?_⟩
    · exact ⟨[.dequeue (dequeue env w).1], rfl, by simp [acceptedBodies]⟩
    · intro _
      rw [same, empty]
    · intro p rest h
      rw [empty] at h
      cases h
  · have refused : env.post w.posts = false := succeeds.fails (by simp [queue])
    have fails : (post env p.2 (dequeue env w).2).1 = false := refused
    refine ⟨enqueue cfg env p.2 (post env p.2 (dequeue env w).2).2,
      by simp only [drainQueue, some, fails, Bool.false_eq_true, if_false], ?_, ?_, ?_⟩
    · refine ⟨[.dequeue (dequeue env w).1, .post ingestPath p.2 (env.post w.posts),
        .enqueue (dequeue env w).2.dir p.2], ?_, ?_⟩
      · simp [enqueue, post, dequeue]
      · simp [acceptedBodies, refused]
    · intro h
      rw [queue] at h
      cases h
    · intro q tail h
      rw [queue] at h ⊢
      obtain ⟨rfl, rfl⟩ := List.cons.inj h
      change (cfg.queue.enqueue (env.files _) _ _ (dequeue env w).2.dir).2 = _
      rw [files, removed]
      rfl

theorem drain_spec (files : ∀ k, env.files k = .ok) {fuel k : Nat} {w : World}
    (enough : (queued w.dir).length < fuel) (succeeds : Succeeds env w k) :
    ∃ v, drainQueue cfg env fuel w = some v ∧ Drained cfg env w k v := by
  induction k generalizing fuel w with
  | zero =>
      obtain ⟨fuel, rfl⟩ : ∃ n, fuel = n + 1 := ⟨fuel - 1, by omega⟩
      exact drain_stops files fuel succeeds
  | succ k ih =>
      obtain ⟨fuel, rfl⟩ : ∃ n, fuel = n + 1 := ⟨fuel - 1, by omega⟩
      rcases dequeue_spec files w with ⟨none, same, empty⟩ | ⟨p, rest, queue, some, removed⟩
      · have le := succeeds.le
        rw [empty] at le
        cases le
      · have delivered : env.post w.posts = true := succeeds.ok 0 (Nat.succ_pos k)
        let next := (post env p.2 (dequeue env w).2).2
        have left : queued next.dir = rest := by
          change queued (dequeue env w).2.dir = rest
          rw [removed, queued_remove_head queue]
        have length : (queued w.dir).length = (queued next.dir).length + 1 := by
          rw [queue, left, List.length_cons]
        obtain ⟨v, drained, ⟨calls, grown, accepted⟩, empty, back⟩ :=
          @ih fuel next (by omega) (succeeds.tail length rfl)
        have posted : (post env p.2 (dequeue env w).2).1 = true := delivered
        rw [payloads, left] at accepted
        rw [left] at empty back
        refine ⟨v, by simp only [drainQueue, some, posted, if_true]; exact drained, ?_, ?_, ?_⟩
        · refine ⟨[.dequeue (dequeue env w).1, .post ingestPath p.2 true] ++ calls, ?_, ?_⟩
          · rw [grown]
            simp [next, post, dequeue, delivered]
          · rw [payloads, queue]
            exact congrArg (p.2 :: ·) accepted
        · rw [queue]
          exact empty
        · rw [queue]
          intro q tail h
          rw [back q tail h]
          change (cfg.queue.enqueue .ok _ _ (removeAll (dequeue env w).2.dir _)).2 = _
          rw [removed]
          rfl

theorem queued_removeAll {d : Directory} {files rest : List (String × Bytes)}
    (h : queued d = files ++ rest) : queued (removeAll d files) = rest := by
  induction files generalizing d with
  | nil => exact h
  | cons p files ih => exact ih (queued_remove_head h)

theorem drained_in_place_iff {k : Nat} {w v : World} (drained : Drained cfg env w k v) :
    payloads v.dir = (payloads w.dir).drop k ↔ KeepsPlace cfg env w k := by
  cases left : (queued w.dir).drop k with
  | nil =>
      have all : payloads v.dir = (payloads w.dir).drop k := by
        rw [payloads, drained.empty left, payloads, ← List.map_drop, left]
      refine ⟨fun _ => ?_, fun _ => all⟩
      intro p rest h
      rw [left] at h
      cases h
  | cons p rest =>
      have tail : (queued w.dir).drop (k + 1) = rest := by
        rw [← List.drop_drop, left]
        rfl
      have split : queued w.dir = (queued w.dir).take (k + 1) ++ rest := by
        rw [← tail, List.take_append_drop]
      have queue : (payloads w.dir).drop k =
          p.2 :: payloads (removeAll w.dir ((queued w.dir).take (k + 1))) := by
        rw [payloads, payloads, queued_removeAll split, ← List.map_drop, left]
        rfl
      rw [drained.back p rest left, queue, enqueue_first_iff]
      constructor
      · intro first q tail h
        obtain ⟨rfl, rfl⟩ := List.cons.inj (left.symm.trans h)
        exact first
      · intro keeps
        exact keeps p rest left

end

/-! ## Ticks and outages -/

inductive FlushOp where
  | batch (batch : List Event)
  | drain

/-- `queued` are the batches in the order in which they were first queued, `received` the queued
batches that the server accepted. -/
structure History where
  world : World
  queued : List Bytes
  received : List Bytes

def History.start (dir : Directory) : History := ⟨World.start dir, payloads dir, []⟩

def queuedBodies (calls : List Call) : List Bytes :=
  calls.filterMap fun c =>
    match c with
    | .enqueue _ data => some data
    | _ => none

section
variable (cfg : AgentConfig) (env : Env) (fuel : Nat)

def flushStep (s : History) : FlushOp → Option History
  | .batch batch =>
      let w := sendBatch cfg env batch s.world
      some { s with
        world := w, queued := s.queued ++ queuedBodies (w.calls.drop s.world.calls.length) }
  | .drain =>
      (drainQueue cfg env fuel s.world).map fun w =>
        { s with
          world := w, received := s.received ++ acceptedBodies (w.calls.drop s.world.calls.length) }

def InPlace (s : History) : FlushOp → Prop
  | .batch _ => env.post s.world.posts = false →
      ∀ p ∈ DiskQueue.queued s.world.dir, p.1 < fileName (env.now (s.world.readings + 1))
  | .drain => KeepsPlace cfg env s.world (successCount env s.world)

instance (s : History) (op : FlushOp) : Decidable (InPlace cfg env s op) :=
  match op with
  | .batch _ => inferInstanceAs (Decidable (env.post s.world.posts = false →
      ∀ p ∈ DiskQueue.queued s.world.dir, p.1 < fileName (env.now (s.world.readings + 1))))
  | .drain => inferInstanceAs (Decidable (KeepsPlace cfg env s.world (successCount env s.world)))

variable {cfg env fuel}

def Ordered (s : History) : Prop := (s.received ++ payloads s.world.dir).Sublist s.queued

theorem enqueue_last_sublist (q : DiskQueue) {now : Int} (data : Bytes) {d : Directory}
    (later : ∀ p ∈ DiskQueue.queued d, p.1 < fileName now) :
    (payloads (q.enqueue .ok now data d).2).Sublist (payloads d ++ [data]) := by
  let e := q.enforceLimit .ok d
  have kept : (DiskQueue.queued e).Sublist (DiskQueue.queued d) :=
    queued_sublist (enforceLimit_sublist q .ok d)
  have shorter : (payloads e).Sublist (payloads d ++ [data]) :=
    (kept.map Prod.snd).trans (List.sublist_append_left _ _)
  change (payloads (e.writeFile .done (fileName now) data).2).Sublist _
  by_cases taken : fileName now ∈ e.names
  · obtain ⟨⟨_, node⟩, member, rfl⟩ := List.mem_map.mp taken
    have found := Directory.find_of_mem member
    cases node with
    | subdirectory size =>
        rw [Directory.writeFile, found]
        exact shorter
    | file bytes =>
        have old := mem_queued.mpr ⟨member, fileExt_fileName now⟩
        exact absurd (later _ (kept.subset old)) (lt_irrefl _)
  · obtain ⟨before, after, split, stored, -, high⟩ := queued_put_split taken data
    have last : after = [] := by
      apply List.eq_nil_iff_forall_not_mem.mpr
      intro p member
      have listed : p ∈ DiskQueue.queued d :=
        kept.subset (split ▸ List.mem_append_right before member)
      exact lt_asymm (high p member) (later p listed)
    have before_eq : before = DiskQueue.queued e := by rw [split, last, List.append_nil]
    rw [writeFile_done taken, payloads, stored, last, before_eq, List.map_append]
    exact (kept.map Prod.snd).append (List.Sublist.refl _)

theorem sendBatch_accepted (batch : List Event) {w : World} (ok : env.post w.posts = true) :
    (sendBatch cfg env batch w).dir = w.dir ∧ ∃ body,
      (sendBatch cfg env batch w).calls = w.calls ++ [.post ingestPath body true] := by
  simp only [sendBatch, post, ok, if_true]
  exact ⟨trivial, _, rfl⟩

theorem sendBatch_refused (batch : List Event) {w : World} (fails : env.post w.posts = false) :
    ∃ body found, (sendBatch cfg env batch w).calls =
        w.calls ++ [.post ingestPath body false, .enqueue found body] ∧
      (sendBatch cfg env batch w).dir = (cfg.queue.enqueue (env.files w.queueCalls)
        (env.now (w.readings + 1)) body w.dir).2 := by
  simp only [sendBatch, post, fails, Bool.false_eq_true, if_false, enqueue, List.append_assoc]
  exact ⟨_, _, rfl, rfl⟩

theorem step_ordered (files : ∀ k, env.files k = .ok) {s t : History} {op : FlushOp}
    (ordered : Ordered s) (place : InPlace cfg env s op)
    (taken : flushStep cfg env fuel s op = some t) : Ordered t := by
  cases op with
  | batch batch =>
      obtain rfl := Option.some.inj taken
      cases sent : env.post s.world.posts with
      | true =>
          obtain ⟨dir, body, calls⟩ := @sendBatch_accepted cfg env batch _ sent
          unfold Ordered at ordered ⊢
          simp only [dir, calls, List.drop_left, queuedBodies, List.filterMap_cons,
            List.filterMap_nil, List.append_nil]
          exact ordered
      | false =>
          obtain ⟨body, found, calls, dir⟩ := @sendBatch_refused cfg env batch _ sent
          have last := enqueue_last_sublist cfg.queue body (place sent)
          unfold Ordered at ordered ⊢
          simp only [dir, calls, List.drop_left, queuedBodies, List.filterMap_cons,
            List.filterMap_nil, files]
          have grown := (List.Sublist.refl s.received).append last
          rw [← List.append_assoc] at grown
          exact grown.trans (ordered.append (List.Sublist.refl [body]))
  | drain =>
      obtain ⟨w, drained, rfl⟩ := Option.map_eq_some_iff.mp taken
      have succeeds := succeeds_successCount env s.world
      let more := max fuel ((DiskQueue.queued s.world.dir).length + 1)
      obtain ⟨v, again, result⟩ := @drain_spec cfg env files more _ s.world
        (Nat.lt_of_lt_of_le (Nat.lt_succ_self _) (le_max_right _ _)) succeeds
      obtain rfl : w = v :=
        Option.some.inj ((drainQueue_mono drained (le_max_left _ _)).symm.trans again)
      have left := (drained_in_place_iff result).mpr place
      obtain ⟨calls, grown, accepted⟩ := result.accepted
      unfold Ordered at ordered ⊢
      simp only [grown, List.drop_left, accepted, left, List.append_assoc, List.take_append_drop]
      exact ordered

theorem flush_ordered (files : ∀ k, env.files k = .ok) {dir : Directory} {ops : List FlushOp}
    {s : History} (place : Along (flushStep cfg env fuel) (InPlace cfg env) (History.start dir) ops)
    (reached : run (flushStep cfg env fuel) (History.start dir) ops = some s) :
    s.received.Sublist s.queued := by
  have ordered : Ordered s := by
    apply run_invariant_along (I := fun _ => Ordered) _ _ place reached
    · exact List.Sublist.refl _
    · intro _ _ _ _ ordered place taken
      exact step_ordered files ordered place taken
  exact (List.sublist_append_left _ _).trans ordered

end

theorem drainQueue_order_iff (cfg : AgentConfig) (env : Env) (files : ∀ k, env.files k = .ok) :
    (∀ w k fuel, (queued w.dir).length < fuel → Succeeds env w k →
      ∃ v calls, drainQueue cfg env fuel w = some v ∧ v.calls = w.calls ++ calls ∧
        acceptedBodies calls = (payloads w.dir).take k ∧
        (payloads v.dir = (payloads w.dir).drop k ↔ KeepsPlace cfg env w k)) ∧
    ∀ dir fuel ops s, run (flushStep cfg env fuel) (History.start dir) ops = some s →
      Along (flushStep cfg env fuel) (InPlace cfg env) (History.start dir) ops →
        s.received.Sublist s.queued := by
  constructor
  · intro w k fuel enough succeeds
    obtain ⟨v, drained, result⟩ := drain_spec files enough succeeds
    obtain ⟨calls, grown, accepted⟩ := result.accepted
    exact ⟨v, calls, drained, grown, accepted, drained_in_place_iff result⟩
  · intro dir fuel ops s reached place
    exact flush_ordered files place reached

theorem drainQueue_order_iff_outage :
    let cfg : AgentConfig := ⟨"pi-1", 1, 50⟩
    let env : Env := ⟨fun k => 12 + k, fun k => decide (2 ≤ k), fun _ => .ok⟩
    let up : Env := { env with post := fun _ => true }
    let w := World.start ((Directory.empty.put "10.gpi" [1]).put "11.gpi" [2])
    let first : Event := ⟨"process_alert", "high", "Suspicious process", none, "t"⟩
    let second : Event := ⟨"file_integrity", "high", "File changed", none, "t"⟩
    (∃ v calls, drainQueue cfg up 3 w = some v ∧ v.calls = w.calls ++ calls ∧ acceptedBodies calls = [[1], [2]]) ∧
    ∃ s, run (flushStep cfg env 3) (History.start Directory.empty) [.batch [first], .batch [second], .drain] =
        some s ∧ s.received.Sublist s.queued ∧ s.received.length = 2 := by
  intro cfg env up w first second
  let ops := [FlushOp.batch [first], .batch [second], .drain]
  have succeeds : Succeeds up w 2 :=
    ⟨by decide +kernel, fun _ _ => rfl, fun less => absurd less (by decide +kernel)⟩
  have taken : (run (flushStep cfg env 3) (History.start Directory.empty) ops).map
      (fun s => s.received.length) = some 2 := by decide +kernel
  obtain ⟨s, reached, both⟩ := Option.map_eq_some_iff.mp taken
  obtain ⟨v, calls, drained, grown, accepted, -⟩ :=
    (drainQueue_order_iff cfg up fun _ => rfl).1 w 2 3 (by decide +kernel) succeeds
  have stored : (payloads w.dir).take 2 = [[1], [2]] := by decide +kernel
  have runs := (drainQueue_order_iff cfg env fun _ => rfl).2
  exact ⟨⟨v, calls, drained, grown, accepted.trans stored⟩, s, reached,
    runs Directory.empty 3 ops s reached (by decide +kernel), both⟩

theorem outage_reorders_queue :
    let cfg : AgentConfig := ⟨"pi-1", 50, 50⟩
    let env : Env := ⟨fun k => 12 + k, fun k => decide (0 < k), fun _ => .ok⟩
    let dir := (Directory.empty.put "10.gpi" [1]).put "11.gpi" [2]
    (∃ v, drainQueue cfg env 3 (World.start dir) = some v ∧ payloads dir = [[1], [2]] ∧
      payloads v.dir = [[2], [1]]) ∧
    ∃ s, run (flushStep cfg env 3) (History.start dir) [.drain, .drain] = some s ∧
      s.queued = [[1], [2]] ∧ s.received = [[2], [1]] := by
  intro cfg env dir
  have drained : (drainQueue cfg env 3 (World.start dir)).map (fun v => payloads v.dir) =
      some [[2], [1]] := by decide +kernel
  have ended : (run (flushStep cfg env 3) (History.start dir) [.drain, .drain]).map
      (fun s => (s.queued, s.received)) = some ([[1], [2]], [[2], [1]]) := by decide +kernel
  obtain ⟨v, drained, left⟩ := Option.map_eq_some_iff.mp drained
  obtain ⟨s, reached, orders⟩ := Option.map_eq_some_iff.mp ended
  obtain ⟨queue, received⟩ := Prod.mk.inj orders
  exact ⟨⟨v, drained, by decide +kernel, left⟩, s, reached, queue, received⟩

end GuardianPi.EdgeAgent
