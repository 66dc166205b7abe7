import GuardianPi.EdgeAgent.DrainOrder
import GuardianPi.Library.Rotation

namespace GuardianPi.EdgeAgent
open GuardianPi.Library GuardianPi.Library.Rotation DiskQueue

def Judged (accepts : Bytes → Bool) (calls : List Call) : Prop :=
  ∀ path body ok, Call.post path body ok ∈ calls → ok = accepts body

def Call.judged (accepts : Bytes → Bool) : Call → Bool
  | .post _ body ok => ok = accepts body
  | _ => true

theorem judged_iff {accepts : Bytes → Bool} {calls : List Call} :
    Judged accepts calls ↔ ∀ c ∈ calls, c.judged accepts = true := by
  constructor
  · intro judged c member
    cases c with
    | post path body ok => exact decide_eq_true (judged path body ok member)
    | enqueue found data => rfl
    | dequeue data => rfl
  · intro each path body ok member
    exact of_decide_eq_true (each _ member)

theorem judged_append {accepts : Bytes → Bool} {first later : List Call} :
    Judged accepts (first ++ later) ↔ Judged accepts first ∧ Judged accepts later := by
  simp only [judged_iff, List.forall_mem_append]

def upcoming (env : Env) (readings n : Nat) : List Int := (List.range n).map fun k => env.now (readings + k)

theorem upcoming_succ (env : Env) (readings n : Nat) :
    upcoming env readings (n + 1) = env.now readings :: upcoming env (readings + 1) n := by
  simp [upcoming, List.range_succ_eq_map, Nat.add_comm, Nat.add_left_comm]

structure Lined (cfg : AgentConfig) (env : Env) (width n : Nat) (w : World) (stored : List (Int × Bytes)) :
    Prop where
  holds : Holds width w.dir stored (upcoming env w.readings n)
  fits : BoundedFifo.total (fun r => payloadSize r.2) stored ≤ cfg.queue.maxBytes

section
variable {cfg : AgentConfig} {env : Env} {width n : Nat} {w : World} {stored rest : List (Int × Bytes)}
  {r : Int × Bytes}

theorem Lined.payloads_eq (lined : Lined cfg env width n w stored) : payloads w.dir = stored.map Prod.snd :=
  lined.holds.payloads_eq

theorem upcoming_sublist (env : Env) (readings n : Nat) :
    (upcoming env readings n).Sublist (upcoming env readings (n + 1)) := by
  rw [upcoming, upcoming, List.range_succ, List.map_append]
  exact List.sublist_append_left _ _

theorem Lined.fewer (lined : Lined cfg env width (n + 1) w stored) : Lined cfg env width n w stored := by
  have sub := (List.Sublist.refl (stored.map Prod.fst)).append (upcoming_sublist env w.readings n)
  refine ⟨⟨lined.holds.entries, lined.holds.increasing.sublist sub, ?_⟩, lined.fits⟩
  intro t member
  exact lined.holds.width t (sub.subset member)

theorem dequeue_lined_nil (files : ∀ k, env.files k = .ok) (lined : Lined cfg env width n w []) :
    (dequeue env w).1 = none ∧ Lined cfg env width n (dequeue env w).2 [] := by
  rcases dequeue_spec files w with ⟨none, same, -⟩ | ⟨p, rest, queue, -⟩
  · refine ⟨none, ?_, lined.fits⟩
    rw [same]
    exact lined.holds
  · rw [lined.holds.queued_eq] at queue
    cases queue

theorem dequeue_lined_cons (files : ∀ k, env.files k = .ok) (lined : Lined cfg env width n w (r :: rest)) :
    (dequeue env w).1 = some r.2 ∧ Lined cfg env width n (dequeue env w).2 rest := by
  rcases dequeue_spec files w with ⟨-, -, empty⟩ | ⟨p, others, queue, front, removed⟩
  · rw [lined.holds.queued_eq] at empty
    cases empty
  · rw [lined.holds.queued_eq] at queue
    obtain ⟨rfl, -⟩ := List.cons.inj queue
    refine ⟨front, ?_, ?_⟩
    · rw [removed]
      exact lined.holds.tail
    · have size : (0 : Int) ≤ payloadSize r.2 := Int.natCast_nonneg _
      have fits := lined.fits
      rw [BoundedFifo.total_cons] at fits
      omega

theorem enqueue_lined (files : ∀ k, env.files k = .ok) (lined : Lined cfg env width (n + 1) w stored)
    (data : Bytes)
    (room : BoundedFifo.total (fun r => payloadSize r.2) stored + payloadSize data ≤ cfg.queue.maxBytes) :
    Lined cfg env width n (enqueue cfg env data w) (stored ++ [(env.now w.readings, data)]) := by
  have before := lined.holds
  rw [upcoming_succ] at before
  obtain ⟨d, made, holds⟩ := before.enqueue cfg.queue data
  rw [BoundedFifo.shed_of_fits _ _ lined.fits] at holds
  have after : (enqueue cfg env data w).dir = d := by
    simp only [enqueue, files, made]
  refine ⟨?_, ?_⟩
  · rw [after]
    exact holds
  · simpa [BoundedFifo.total] using room

theorem drain_pass (accepts : Bytes → Bool) (files : ∀ k, env.files k = .ok) {fuel : Nat}
    (lined : Lined cfg env width (n + 1) w stored) (enough : stored.length < fuel) :
    ∃ v calls stored', drainQueue cfg env fuel w = some v ∧ v.calls = w.calls ++ calls ∧
      Lined cfg env width n v stored' ∧ stored'.length ≤ stored.length ∧
      (Judged accepts calls → acceptedBodies calls = (pass accepts (stored.map Prod.snd)).1 ∧
        stored'.map Prod.snd = (pass accepts (stored.map Prod.snd)).2) := by
  induction stored generalizing w fuel with
  | nil =>
      obtain ⟨fuel, rfl⟩ : ∃ n, fuel = n + 1 := ⟨fuel - 1, by simp at enough; omega⟩
      obtain ⟨none, same⟩ := dequeue_lined_nil files lined
      refine ⟨(dequeue env w).2, [.dequeue (dequeue env w).1], [], by simp only [drainQueue, none], rfl,
        same.fewer, ?_⟩
      exact ⟨le_rfl, fun _ => ⟨rfl, rfl⟩⟩
  | cons r rest ih =>
      obtain ⟨fuel, rfl⟩ : ∃ n, fuel = n + 1 := ⟨fuel - 1, by simp at enough; omega⟩
      obtain ⟨front, after⟩ := dequeue_lined_cons files lined
      let posted := post env r.2 (dequeue env w).2
      have later : Lined cfg env width (n + 1) posted.2 rest := ⟨after.holds, after.fits⟩
      let first : List Call := [.dequeue (some r.2), .post ingestPath r.2 posted.1]
      have sent : posted.2.calls = w.calls ++ first := by
        simp [first, posted, post, dequeue, ← front]
      have code : drainQueue cfg env (fuel + 1) w =
          if posted.1 then drainQueue cfg env fuel posted.2 else some (enqueue cfg env r.2 posted.2) := by
        simp only [drainQueue, front]
        rfl
      have judge {calls : List Call} (judged : Judged accepts (first ++ calls)) : accepts r.2 = posted.1 :=
        (judged ingestPath r.2 posted.1 (by simp [first])).symm
      cases ok : posted.1 with
      | true =>
          obtain ⟨v, calls, stored', drained, grown, lined', shorter, result⟩ :=
            ih later (Nat.lt_of_succ_lt_succ enough)
          refine ⟨v, first ++ calls, stored', ?_, ?_, lined', shorter.trans (Nat.le_succ _), ?_⟩
          · rw [code, if_pos ok, drained]
          · rw [grown, sent, List.append_assoc]
          · intro judged
            obtain ⟨accepted, left⟩ := result (judged_append.mp judged).2
            rw [List.map_cons, pass_accepted ((judge judged).trans ok)]
            refine ⟨?_, left⟩
            rw [← accepted]
            simp [first, acceptedBodies, ok]
      | false =>
          have room := lined.fits
          rw [BoundedFifo.total_cons, add_comm] at room
          refine ⟨enqueue cfg env r.2 posted.2, first ++ [.enqueue posted.2.dir r.2],
            rest ++ [(env.now posted.2.readings, r.2)], ?_, ?_, enqueue_lined files later r.2 room, by simp, ?_⟩
          · rw [code, if_neg (by simp [ok])]
          · rw [enqueue_calls, sent, List.append_assoc]
          · intro judged
            rw [List.map_cons, pass_refused ((judge judged).trans ok), List.map_append]
            exact ⟨by simp [first, acceptedBodies, ok], rfl⟩

theorem drain_passes (accepts : Bytes → Bool) (files : ∀ k, env.files k = .ok) {fuel : Nat} (n : Nat)
    {s : History} (lined : Lined cfg env width n s.world stored) (enough : stored.length < fuel) :
    ∃ t calls, run (flushStep cfg env fuel) s (List.replicate n .drain) = some t ∧
      t.world.calls = s.world.calls ++ calls ∧
      (Judged accepts calls →
        t.received = s.received ++ (passes accepts n (stored.map Prod.snd)).1 ∧
          payloads t.world.dir = (passes accepts n (stored.map Prod.snd)).2) := by
  induction n generalizing s stored with
  | zero => exact ⟨s, [], rfl, by simp, fun _ => ⟨by simp [passes], lined.payloads_eq⟩⟩
  | succ n ih =>
      obtain ⟨v, calls, stored', drained, grown, lined', shorter, result⟩ :=
        drain_pass accepts files lined enough
      let next : History := { s with world := v, received := s.received ++ acceptedBodies calls }
      have step : flushStep cfg env fuel s .drain = some next := by
        simp [flushStep, drained, next, grown]
      obtain ⟨t, more, reached, grown', results⟩ := @ih _ next lined' (shorter.trans_lt enough)
      refine ⟨t, calls ++ more, run_cons_eq_some.mpr ⟨next, step, reached⟩, ?_, ?_⟩
      · rw [grown', ← List.append_assoc, ← grown]
      · intro judged
        obtain ⟨before, after⟩ := judged_append.mp judged
        obtain ⟨accepted, left⟩ := result before
        obtain ⟨received, queue⟩ := results after
        rw [left] at received queue
        refine ⟨?_, queue⟩
        rw [received, passes, ← accepted, List.append_assoc]

end

/-- A batch that the server refuses neither blocks the others nor leaves the queue: once there were more
drains than refused batches, the server has accepted all others, in their order, and holds up with the
refused ones, which the drains keep rotating. -/
theorem refused_batches_rotate (cfg : AgentConfig) (env : Env) (files : ∀ k, env.files k = .ok)
    (accepts : Bytes → Bool) {width n : Nat} {s : History} {stored : List (Int × Bytes)}
    (lined : Lined cfg env width n s.world stored)
    (many : (payloads s.world.dir).countP (fun body => !accepts body) < n) :
    ∀ fuel, (payloads s.world.dir).length < fuel →
      ∃ t calls, run (flushStep cfg env fuel) s (List.replicate n .drain) = some t ∧
        t.world.calls = s.world.calls ++ calls ∧
        (Judged accepts calls → t.received = s.received ++ (payloads s.world.dir).filter accepts ∧
          payloads t.world.dir = ((payloads s.world.dir).filter fun body => !accepts body).rotate n) := by
  intro fuel enough
  rw [lined.payloads_eq] at many enough ⊢
  rw [List.length_map] at enough
  have whole := passes_eq many
  obtain ⟨t, calls, reached, grown, result⟩ := drain_passes accepts files n lined enough
  refine ⟨t, calls, reached, grown, fun judged => ?_⟩
  simpa only [whole] using result judged

theorem refused_batches_rotate_poisoned :
    let cfg : AgentConfig := ⟨"pi-1", 50, 50⟩
    let env : Env := ⟨fun k => 12 + k, fun k => k == 1, fun _ => .ok⟩
    let s := History.start ((Directory.empty.put "10.gpi" [1]).put "11.gpi" [2])
    ∃ t, run (flushStep cfg env 3) s [.drain, .drain] = some t ∧ t.received = [[2]] ∧
      payloads t.world.dir = [[1]] := by
  intro cfg env s
  let accepts : Bytes → Bool := fun body => body == [2]
  have queue : payloads s.world.dir = [[1], [2]] := by decide +kernel
  have lined : Lined cfg env 2 2 s.world [(10, [1]), (11, [2])] :=
    ⟨⟨rfl, by decide +kernel, by decide +kernel⟩, by decide +kernel⟩
  obtain ⟨t, calls, reached, grown, result⟩ := refused_batches_rotate cfg env (fun _ => rfl) accepts lined
    (by decide +kernel) 3 (by decide +kernel)
  have answers : (run (flushStep cfg env 3) s [.drain, .drain]).map
      (fun t => t.world.calls.all (Call.judged accepts)) = some true := by decide +kernel
  rw [show List.replicate 2 FlushOp.drain = [.drain, .drain] from rfl] at reached
  rw [reached, Option.map_some, grown] at answers
  have judged : Judged accepts calls := judged_iff.mpr (List.all_eq_true.mp (Option.some.inj answers))
  obtain ⟨received, left⟩ := result judged
  refine ⟨t, reached, ?_, ?_⟩
  · rw [received, queue]
    decide
  · rw [left, queue]
    decide

end GuardianPi.EdgeAgent
