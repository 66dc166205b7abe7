import GuardianPi.EdgeAgent.DrainOrder

namespace GuardianPi.EdgeAgent
open GuardianPi.Library DiskQueue

theorem listFiles_eq {io : FileOutcomes} (listed : io.listDir = true) (d : Directory) :
    listFiles io d = some ((queued d).map Prod.fst) := by
  rw [← listFiles_ok, listFiles, listFiles, listed, FileOutcomes.ok_listDir]

theorem dequeue_faulty_nil {io : FileOutcomes} (listed : io.listDir = true) {d : Directory}
    (h : queued d = []) : DiskQueue.dequeue io d = (none, d) := by
  simp [DiskQueue.dequeue, listFiles_eq listed, h]

theorem dequeue_faulty_cons {io : FileOutcomes} (listed : io.listDir = true) {d : Directory}
    {p : String × Bytes} {rest : List (String × Bytes)} (h : queued d = p :: rest) :
    DiskQueue.dequeue io d =
      if io.readFile p.1 then (some p.2, if io.remove p.1 then d.remove p.1 else d) else (none, d) := by
  obtain ⟨f, data⟩ := p
  have stored := (mem_queued.mp (h ▸ List.mem_cons_self)).1
  have found : d.find f = some ⟨f, .file data⟩ := Directory.find_of_mem stored
  cases read : io.readFile f <;>
    simp [DiskQueue.dequeue, listFiles_eq listed, h, Directory.readFile, found, read]

section
variable (cfg : AgentConfig) (env : Env)

/-- `drainQueue`, with the files whose contents it posts. -/
def drainFiles : Nat → World → Option (World × List (String × Bytes))
  | 0, _ => none
  | fuel + 1, w =>
      let r := dequeue env w
      match r.1 with
      | none => some (r.2, [])
      | some data =>
          let file := (queued w.dir).head?.toList
          let s := post env data r.2
          if s.1 then (drainFiles fuel s.2).map fun t => (t.1, file ++ t.2)
          else some (enqueue cfg env data s.2, file)

theorem drainFiles_fst (fuel : Nat) (w : World) :
    (drainFiles cfg env fuel w).map Prod.fst = drainQueue cfg env fuel w := by
  induction fuel generalizing w with
  | zero => rfl
  | succ fuel ih =>
      simp only [drainFiles, drainQueue]
      cases (dequeue env w).1 with
      | none => rfl
      | some data =>
          dsimp only
          split_ifs
          · rw [← ih, Option.map_map]
            rfl
          · rfl

def postedBodies (calls : List Call) : List Bytes :=
  calls.filterMap fun c =>
    match c with
    | .post _ body _ => some body
    | _ => none

def Readable (f : String) : Prop := ∀ k, (env.files k).readFile f = true

/-- The drain ends; it posts no file twice and none that is not queued, and every readable one. -/
def Copes (w : World) : Prop :=
  ∃ fuel v posted, drainFiles cfg env fuel w = some (v, posted) ∧ posted.Sublist (queued w.dir) ∧
    ∀ p ∈ queued w.dir, Readable env p.1 → p ∈ posted

/-- From the call `k` of the queue on: a file that cannot be read, or that is read but cannot be
removed, has no readable file behind it, and the latter is not read a second time. -/
def Smooth : Nat → List (String × Bytes) → Prop
  | _, [] => True
  | k, p :: rest =>
      if (env.files k).readFile p.1 then
        if (env.files k).remove p.1 then Smooth (k + 1) rest
        else (env.files (k + 1)).readFile p.1 = false ∧ ∀ q ∈ rest, ¬ Readable env q.1
      else ∀ q ∈ rest, ¬ Readable env q.1

variable {cfg env}

section
variable (listed : ∀ k, (env.files k).listDir = true) (accepts : ∀ k, env.post k = true)
include listed

theorem drainFiles_nil {w : World} (h : queued w.dir = []) (fuel : Nat) :
    ∃ v, drainFiles cfg env (fuel + 1) w = some (v, []) := by
  have code : (dequeue env w).1 = none := by
    rw [dequeue, dequeue_faulty_nil (listed _) h]
  exact ⟨(dequeue env w).2, by simp only [drainFiles, code]⟩

theorem drainFiles_unreadable {w : World} {p : String × Bytes} {rest : List (String × Bytes)}
    (h : queued w.dir = p :: rest) (unread : (env.files w.queueCalls).readFile p.1 = false)
    (fuel : Nat) : ∃ v, drainFiles cfg env (fuel + 1) w = some (v, []) := by
  have code : (dequeue env w).1 = none := by
    rw [dequeue, dequeue_faulty_cons (listed _) h, unread]
    rfl
  exact ⟨(dequeue env w).2, by simp only [drainFiles, code]⟩

include accepts in
theorem drainFiles_read {w : World} {p : String × Bytes} {rest : List (String × Bytes)}
    (h : queued w.dir = p :: rest) (read : (env.files w.queueCalls).readFile p.1 = true) :
    ∃ next : World, next.queueCalls = w.queueCalls + 1 ∧
      next.dir = (if (env.files w.queueCalls).remove p.1 then w.dir.remove p.1 else w.dir) ∧
      ∀ fuel, drainFiles cfg env (fuel + 1) w =
        (drainFiles cfg env fuel next).map fun t => (t.1, p :: t.2) := by
  have code : dequeue env w = (some p.2, { w with
      dir := if (env.files w.queueCalls).remove p.1 then w.dir.remove p.1 else w.dir
      calls := w.calls ++ [.dequeue (some p.2)]
      queueCalls := w.queueCalls + 1 }) := by
    simp only [dequeue, dequeue_faulty_cons (listed _) h, read, if_true]
  refine ⟨(post env p.2 (dequeue env w).2).2, by rw [code]; rfl, by rw [code]; rfl, fun fuel => ?_⟩
  have delivered : (post env p.2 (dequeue env w).2).1 = true := accepts _
  have some : (dequeue env w).1 = some p.2 := by rw [code]
  simp only [drainFiles, some, delivered, if_true, h]
  rfl

theorem dequeued_head {w : World} {data : Bytes} (taken : (dequeue env w).1 = some data) :
    ∃ p, (queued w.dir).head? = some p ∧ data = p.2 := by
  cases files : queued w.dir with
  | nil =>
      rw [dequeue, dequeue_faulty_nil (listed _) files] at taken
      cases taken
  | cons p rest =>
      rw [dequeue, dequeue_faulty_cons (listed _) files] at taken
      refine ⟨p, rfl, ?_⟩
      cases read : (env.files w.queueCalls).readFile p.1 with
      | false =>
          rw [read] at taken
          cases taken
      | true =>
          rw [read] at taken
          exact (Option.some.inj taken).symm

theorem drainFiles_posts {fuel : Nat} {w v : World} {posted : List (String × Bytes)}
    (h : drainFiles cfg env fuel w = some (v, posted)) :
    ∃ calls, v.calls = w.calls ++ calls ∧ postedBodies calls = posted.map Prod.snd := by
  induction fuel generalizing w posted with
  | zero => cases h
  | succ fuel ih =>
      simp only [drainFiles] at h
      split at h
      · obtain ⟨rfl, rfl⟩ := Prod.mk.inj (Option.some.inj h)
        exact ⟨[.dequeue (dequeue env w).1], rfl, rfl⟩
      · rename_i data taken
        obtain ⟨p, head, same⟩ := dequeued_head listed taken
        rw [head] at h
        split_ifs at h with delivered
        · obtain ⟨t, drained, rest⟩ := Option.map_eq_some_iff.mp h
          obtain ⟨rfl, rfl⟩ := Prod.mk.inj rest
          obtain ⟨calls, grown, bodies⟩ := ih drained
          refine ⟨[.dequeue (dequeue env w).1, .post ingestPath data (env.post w.posts)] ++ calls,
            ?_, ?_⟩
          · rw [grown]
            simp [post, dequeue]
          · change data :: postedBodies calls = p.2 :: t.2.map Prod.snd
            rw [bodies, same]
        · obtain ⟨rfl, rfl⟩ := Prod.mk.inj (Option.some.inj h)
          refine ⟨[.dequeue (dequeue env w).1, .post ingestPath data (env.post w.posts),
            .enqueue (dequeue env w).2.dir data], ?_, ?_⟩
          · simp [enqueue, post, dequeue]
          · change [data] = [p.2]
            rw [same]

omit listed in
theorem head_not_mem {d : Directory} {p : String × Bytes} {rest : List (String × Bytes)}
    (h : queued d = p :: rest) : p ∉ rest := by
  have below := (List.pairwise_cons.mp (h ▸ queued_sorted d)).1
  intro member
  exact lt_irrefl _ (below p member)

theorem copes_nil {w : World} (h : queued w.dir = []) : Copes cfg env w := by
  obtain ⟨v, drained⟩ := @drainFiles_nil cfg env listed w h 0
  exact ⟨1, v, [], drained, List.nil_sublist _, by rw [h]; exact nofun⟩

theorem copes_unreadable {w : World} {p : String × Bytes} {rest : List (String × Bytes)}
    (h : queued w.dir = p :: rest) (unread : (env.files w.queueCalls).readFile p.1 = false) :
    Copes cfg env w ↔ ∀ q ∈ rest, ¬ Readable env q.1 := by
  have here : ¬ Readable env p.1 := by
    intro readable
    rw [readable] at unread
    cases unread
  constructor
  · intro ⟨fuel, v, posted, drained, _, all⟩ q member readable
    cases fuel with
    | zero => cases drained
    | succ fuel =>
        obtain ⟨u, stops⟩ := @drainFiles_unreadable cfg env listed w p rest h unread fuel
        obtain ⟨-, rfl⟩ := Prod.mk.inj (Option.some.inj (drained.symm.trans stops))
        have taken := all q (h ▸ List.mem_cons_of_mem _ member) readable
        cases taken
  · intro hidden
    obtain ⟨v, drained⟩ := @drainFiles_unreadable cfg env listed w p rest h unread 0
    refine ⟨1, v, [], drained, List.nil_sublist _, ?_⟩
    intro q member readable
    rw [h] at member
    rcases List.mem_cons.mp member with rfl | member
    · exact absurd readable here
    · exact absurd readable (hidden q member)

include accepts in
theorem copes_removed {w : World} {p : String × Bytes} {rest : List (String × Bytes)}
    (h : queued w.dir = p :: rest) (read : (env.files w.queueCalls).readFile p.1 = true)
    (removed : (env.files w.queueCalls).remove p.1 = true) :
    ∃ next : World, next.queueCalls = w.queueCalls + 1 ∧ queued next.dir = rest ∧
      (Copes cfg env w ↔ Copes cfg env next) := by
  obtain ⟨next, calls, dir, drains⟩ := @drainFiles_read cfg env listed accepts w p rest h read
  rw [removed, if_pos rfl] at dir
  have left : queued next.dir = rest := by rw [dir, queued_remove_head h]
  refine ⟨next, calls, left, ?_, ?_⟩
  · intro ⟨fuel, v, posted, drained, sub, all⟩
    cases fuel with
    | zero => cases drained
    | succ fuel =>
        rw [drains] at drained
        obtain ⟨t, later, same⟩ := Option.map_eq_some_iff.mp drained
        obtain ⟨rfl, rfl⟩ := Prod.mk.inj same
        rw [h] at sub all
        refine ⟨fuel, t.1, t.2, later, left ▸ List.cons_sublist_cons.mp sub, ?_⟩
        intro q member readable
        rw [left] at member
        rcases List.mem_cons.mp (all q (List.mem_cons_of_mem _ member) readable) with rfl | taken
        · exact absurd member (head_not_mem h)
        · exact taken
  · intro ⟨fuel, v, posted, drained, sub, all⟩
    rw [left] at sub all
    refine ⟨fuel + 1, v, p :: posted, by rw [drains, drained]; rfl, h ▸ sub.cons_cons p, ?_⟩
    intro q member readable
    rw [h] at member
    rcases List.mem_cons.mp member with rfl | member
    · exact List.mem_cons_self
    · exact List.mem_cons_of_mem _ (all q member readable)

include accepts in
theorem copes_stuck {w : World} {p : String × Bytes} {rest : List (String × Bytes)}
    (h : queued w.dir = p :: rest) (read : (env.files w.queueCalls).readFile p.1 = true)
    (stuck : (env.files w.queueCalls).remove p.1 = false) :
    Copes cfg env w ↔
      (env.files (w.queueCalls + 1)).readFile p.1 = false ∧ ∀ q ∈ rest, ¬ Readable env q.1 := by
  obtain ⟨next, calls, dir, drains⟩ := @drainFiles_read cfg env listed accepts w p rest h read
  rw [stuck] at dir
  have again : queued next.dir = p :: rest := by rw [dir]; exact h
  constructor
  · intro ⟨fuel, v, posted, drained, sub, all⟩
    rw [h] at sub all
    match fuel with
    | 0 => cases drained
    | 1 =>
        rw [drains] at drained
        cases drained
    | fuel + 2 =>
        rw [drains] at drained
        obtain ⟨t, later, same⟩ := Option.map_eq_some_iff.mp drained
        obtain ⟨rfl, rfl⟩ := Prod.mk.inj same
        have unread : (env.files next.queueCalls).readFile p.1 = false := by
          by_contra read
          obtain ⟨_, -, -, twice⟩ :=
            @drainFiles_read cfg env listed accepts next p rest again (by simpa using read)
          rw [twice] at later
          obtain ⟨u, -, rfl⟩ := Option.map_eq_some_iff.mp later
          have member := (List.cons_sublist_cons.mp sub).subset List.mem_cons_self
          exact head_not_mem h member
        obtain ⟨u, stops⟩ := @drainFiles_unreadable cfg env listed next p rest again unread fuel
        obtain rfl := Option.some.inj (later.symm.trans stops)
        refine ⟨calls ▸ unread, ?_⟩
        intro q member readable
        have taken := all q (List.mem_cons_of_mem _ member) readable
        obtain rfl := List.mem_singleton.mp taken
        exact head_not_mem h member
  · intro ⟨unread, hidden⟩
    rw [← calls] at unread
    obtain ⟨v, stops⟩ := @drainFiles_unreadable cfg env listed next p rest again unread 0
    refine ⟨2, v, [p], by rw [drains, stops]; rfl, by rw [h]; simp, ?_⟩
    intro q member readable
    rw [h] at member
    rcases List.mem_cons.mp member with rfl | member
    · exact List.mem_cons_self
    · exact absurd readable (hidden q member)

include accepts in
theorem copes_iff (w : World) : Copes cfg env w ↔ Smooth env w.queueCalls (queued w.dir) := by
  generalize files : queued w.dir = queue
  induction queue generalizing w with
  | nil => exact ⟨fun _ => trivial, fun _ => copes_nil listed files⟩
  | cons p rest ih =>
      rw [Smooth]
      cases read : (env.files w.queueCalls).readFile p.1 with
      | false => simpa using copes_unreadable listed files read
      | true =>
          cases removed : (env.files w.queueCalls).remove p.1 with
          | false => simpa using copes_stuck listed accepts files read removed
          | true =>
              obtain ⟨next, calls, left, same⟩ :=
                @copes_removed cfg env listed accepts w p rest files read removed
              rw [same, ih next left, calls]
              simp

include accepts in
theorem drainFiles_endless {w : World} {p : String × Bytes} {rest : List (String × Bytes)}
    (h : queued w.dir = p :: rest) (read : Readable env p.1)
    (stuck : ∀ k, (env.files k).remove p.1 = false) (fuel : Nat) :
    drainFiles cfg env fuel w = none := by
  induction fuel generalizing w with
  | zero => rfl
  | succ fuel ih =>
      obtain ⟨next, -, dir, drains⟩ := @drainFiles_read cfg env listed accepts w p rest h (read _)
      rw [stuck] at dir
      have again : queued next.dir = p :: rest := by rw [dir]; exact h
      rw [drains, ih again]
      rfl

end

end

theorem drainQueue_copes_iff (cfg : AgentConfig) (env : Env)
    (listed : ∀ k, (env.files k).listDir = true) (accepts : ∀ k, env.post k = true) (w : World) :
    (Copes cfg env w ↔ Smooth env w.queueCalls (queued w.dir)) ∧
    ∀ fuel, (drainFiles cfg env fuel w).map Prod.fst = drainQueue cfg env fuel w ∧
      ∀ v posted, drainFiles cfg env fuel w = some (v, posted) →
        ∃ calls, v.calls = w.calls ++ calls ∧ postedBodies calls = posted.map Prod.snd := by
  refine ⟨copes_iff listed accepts w, fun fuel => ⟨drainFiles_fst cfg env fuel w, ?_⟩⟩
  intro v posted drained
  exact drainFiles_posts listed drained

theorem drainQueue_copes_iff_two :
    let cfg : AgentConfig := ⟨"pi-1", 50, 50⟩
    let env : Env := ⟨fun k => 12 + k, fun _ => true, fun k =>
      { FileOutcomes.ok with readFile := fun f => f ≠ "11.gpi", remove := fun _ => k ≠ 1 }⟩
    let w := World.start ((Directory.empty.put "10.gpi" [1]).put "11.gpi" [2])
    (∀ k, (env.files k).listDir = true) ∧ (∀ k, env.post k = true) ∧ Copes cfg env w := by
  intro cfg env w
  have smooth : Smooth env w.queueCalls (queued w.dir) := by
    have files : queued w.dir = [("10.gpi", [1]), ("11.gpi", [2])] := by decide +kernel
    rw [files]
    simp [Smooth, env, w, World.start, FileOutcomes.ok]
  refine ⟨fun _ => rfl, fun _ => rfl, ?_⟩
  exact (drainQueue_copes_iff cfg env (fun _ => rfl) (fun _ => rfl) w).1.mpr smooth

theorem unreadable_file_hides_queue :
    let cfg : AgentConfig := ⟨"pi-1", 50, 50⟩
    let w := World.start ((Directory.empty.put "10.gpi" [1]).put "11.gpi" [2])
    let unreadable : Env := ⟨fun k => 12 + k, fun _ => true, fun _ =>
      { FileOutcomes.ok with readFile := fun f => f ≠ "10.gpi" }⟩
    let unremovable : Env := ⟨fun k => 12 + k, fun _ => true, fun _ =>
      { FileOutcomes.ok with remove := fun f => f ≠ "10.gpi" }⟩
    ((drainFiles cfg unreadable 3 w).map Prod.snd = some [] ∧ Readable unreadable "11.gpi" ∧
      ("11.gpi", [2]) ∈ queued w.dir) ∧ ¬ Copes cfg unreadable w ∧
    (∀ fuel, drainQueue cfg unremovable fuel w = none) ∧ ¬ Copes cfg unremovable w := by
  intro cfg w unreadable unremovable
  have files : queued w.dir = [("10.gpi", [1]), ("11.gpi", [2])] := by decide +kernel
  have readable : Readable unreadable "11.gpi" := fun _ => rfl
  have endless (fuel : Nat) : drainFiles cfg unremovable fuel w = none := by
    apply drainFiles_endless (fun _ => rfl) (fun _ => rfl) files
    · exact fun _ => rfl
    · exact fun _ => rfl
  refine ⟨⟨by decide +kernel, readable, by rw [files]; decide⟩, ?_, ?_, ?_⟩
  · rw [copes_unreadable (fun _ => rfl) files rfl]
    intro hidden
    exact hidden _ List.mem_cons_self readable
  · intro fuel
    rw [← drainFiles_fst, endless]
    rfl
  · intro ⟨fuel, v, posted, drained, _⟩
    rw [endless] at drained
    cases drained

end GuardianPi.EdgeAgent
