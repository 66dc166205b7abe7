import GuardianPi.EdgeAgent.Sender
import GuardianPi.Library.Decimal
import Mathlib.Algebra.Order.Group.Multiset

namespace GuardianPi.EdgeAgent
open GuardianPi.Library

def detailsOf : Json Literal → Option (Option (List (String × GoValue)))
  | .null => some none
  | .obj fields => some (some (Json.mapFields some fields))
  | _ => none

def eventOf : Json Literal → Option Event
  | .obj [("event_type", .str eventType), ("severity", .str severity), ("title", .str title),
      ("details", details), ("timestamp", .str timestamp)] =>
      (detailsOf details).map fun details => ⟨eventType, severity, title, details, timestamp⟩
  | _ => none

def eventsIn (body : Bytes) : List Event :=
  match ((Json.loadsBytes body).bind (Json.get? "data")).bind (Json.get? "events") with
  | some (.arr items) => items.filterMap eventOf
  | _ => []

theorem value_traverse (e : Event) : e.value.traverse id =
    ((detailsValue e.details).traverse id).map fun details =>
      .obj [("event_type", .str e.eventType), ("severity", .str e.severity), ("title", .str e.title),
        ("details", details), ("timestamp", .str e.timestamp)] := by
  cases h : (detailsValue e.details).traverse id <;>
    simp [Event.value, Json.traverse, Json.traverseFields, h]

theorem detailsOf_traverse {details : Option (List (String × GoValue))} {document : Json Literal}
    (h : (detailsValue details).traverse id = some document) :
    detailsOf document = some details := by
  cases details with
  | none =>
      obtain rfl := Option.some.inj h
      rfl
  | some fields =>
      obtain ⟨gs, whole, rfl⟩ := Option.map_eq_some_iff.mp h
      rw [detailsOf, Json.mapFields_some_of_traverse fields gs whole]

theorem eventOf_traverse {e : Event} {document : Json Literal}
    (h : e.value.traverse id = some document) : eventOf document = some e := by
  rw [value_traverse] at h
  obtain ⟨details, whole, rfl⟩ := Option.map_eq_some_iff.mp h
  simp only [eventOf, detailsOf_traverse whole, Option.map_some]

theorem map_eventOf {batch : List Event} {items : List (Json Literal)}
    (h : Json.traverseItems id (batch.map Event.value) = some items) :
    items.map eventOf = batch.map some := by
  induction batch generalizing items with
  | nil =>
      obtain rfl := Option.some.inj h
      rfl
  | cons e batch ih =>
      obtain ⟨document, head, h⟩ := Option.bind_eq_some_iff.mp h
      obtain ⟨documents, tail, rfl⟩ := Option.map_eq_some_iff.mp h
      rw [List.map_cons, List.map_cons, eventOf_traverse head, ih tail]

theorem filterMap_eventOf {batch : List Event} {items : List (Json Literal)}
    (h : Json.traverseItems id (batch.map Event.value) = some items) :
    items.filterMap eventOf = batch := by
  have each := congrArg (List.filterMap id) (map_eventOf h)
  simpa [List.filterMap_map] using each

def payloadDocument (deviceID timestamp : String) (items : List (Json Literal)) : Json Literal :=
  .obj [("data", .obj [("events", .arr items)]), ("device_id", .str deviceID),
    ("timestamp", .str timestamp)]

theorem payload_traverse (deviceID timestamp : String) (batch : List Event) :
    (payloadValue deviceID timestamp batch).traverse id =
      (Json.traverseItems id (batch.map Event.value)).map
        (payloadDocument deviceID timestamp) := by
  cases h : Json.traverseItems id (batch.map Event.value) <;>
    simp [payloadValue, batchValue, payloadDocument, Json.traverse, Json.traverseFields, h]

theorem eventsIn_marshal {deviceID timestamp : String} {batch : List Event} {body : Bytes}
    (h : marshal (payloadValue deviceID timestamp batch) = some body) : eventsIn body = batch := by
  have read := loadsBytes_marshal h
  obtain ⟨document, whole, -⟩ := Option.map_eq_some_iff.mp h
  rw [whole] at read
  rw [payload_traverse] at whole
  obtain ⟨items, items_eq, rfl⟩ := Option.map_eq_some_iff.mp whole
  simpa [eventsIn, read, payloadDocument, Json.get?, Json.lookup] using filterMap_eventOf items_eq

/-! ## The ledger -/

def Call.accepted : Call → List Event
  | .post _ body true => eventsIn body
  | _ => []

def acceptedEvents (calls : List Call) : Multiset Event := ↑(calls.flatMap Call.accepted)

def queuedEvents (d : Directory) : Multiset Event :=
  ↑((DiskQueue.queued d).flatMap fun p => eventsIn p.2)

def ledger (w : World) : Multiset Event := acceptedEvents w.calls + queuedEvents w.dir

theorem acceptedEvents_append (calls : List Call) (c : Call) :
    acceptedEvents (calls ++ [c]) = acceptedEvents calls + ↑c.accepted := by
  simp [acceptedEvents]

theorem acceptedEvents_idle (calls : List Call) {c : Call} (idle : c.accepted = []) :
    acceptedEvents (calls ++ [c]) = acceptedEvents calls := by
  rw [acceptedEvents_append, idle]
  exact add_zero _

theorem insertEntry_perm {e : Entry} {es : List Entry} (fresh : ∀ f ∈ es, f.name ≠ e.name) :
    (Directory.insertEntry e es).Perm (e :: es) := by
  induction es with
  | nil => rfl
  | cons f es ih =>
      have differ := fresh f List.mem_cons_self
      rw [Directory.insertEntry]
      split_ifs with before same
      · rfl
      · exact absurd same.symm differ
      · exact ((ih fun g hg => fresh g (List.mem_cons_of_mem _ hg)).cons f).trans
          (List.Perm.swap e f es)

theorem put_perm {d : Directory} {name : String} (fresh : name ∉ d.names) (data : Bytes) :
    (d.put name data).entries.Perm (⟨name, .file data⟩ :: d.entries) := by
  apply insertEntry_perm
  intro f hf same
  exact fresh (List.mem_map.mpr ⟨f, hf, same⟩)

theorem names_put {d : Directory} {name : String} (fresh : name ∉ d.names) (data : Bytes) :
    (d.put name data).names.Perm (name :: d.names) :=
  (put_perm fresh data).map Entry.name

theorem queued_put {d : Directory} {now : Int} (fresh : fileName now ∉ d.names) (data : Bytes) :
    (DiskQueue.queued (d.put (fileName now) data)).Perm
      ((fileName now, data) :: DiskQueue.queued d) := by
  have head : DiskQueue.queueFile ⟨fileName now, .file data⟩ = some (fileName now, data) :=
    DiskQueue.queueFile_eq_some.mpr ⟨rfl, DiskQueue.fileExt_fileName now⟩
  have whole := (put_perm fresh data).filterMap DiskQueue.queueFile
  rwa [List.filterMap_cons, head] at whole

theorem queuedEvents_put {d : Directory} {now : Int} (fresh : fileName now ∉ d.names)
    (data : Bytes) : queuedEvents (d.put (fileName now) data) = queuedEvents d + ↑(eventsIn data) := by
  have events := (queued_put fresh data).flatMap_right fun p => eventsIn p.2
  rw [List.flatMap_cons] at events
  rw [queuedEvents, queuedEvents, Multiset.coe_add, Multiset.coe_eq_coe]
  exact events.trans List.perm_append_comm

theorem fileName_injective : Function.Injective fileName := by
  intro s t same
  exact toString_int_injective ((String.append_left_inj ".gpi").mp same)

/-! ## What one call does to the ledger -/

section
variable (cfg : AgentConfig) (env : Env)

/-- No file carries the name that a clock reading still to come will give. -/
def Fresh (w : World) : Prop := ∀ k, w.readings ≤ k → fileName (env.now k) ∉ w.dir.names

def Kept (dir : Directory) (w : World) : Prop :=
  ∀ p ∈ DiskQueue.queued w.dir,
    p ∈ DiskQueue.queued dir ∨ ∃ found, Call.enqueue found p.2 ∈ w.calls

theorem Kept.later {dir : Directory} {w : World} (h : Kept dir w) {p : String × Bytes}
    (member : p ∈ DiskQueue.queued w.dir) {calls : List Call} (grown : w.calls <+: calls) :
    p ∈ DiskQueue.queued dir ∨ ∃ found, Call.enqueue found p.2 ∈ calls := by
  rcases h p member with old | ⟨found, call⟩
  · exact Or.inl old
  · exact Or.inr ⟨found, grown.subset call⟩

structure Tidy (dir : Directory) (w : World) : Prop where
  fresh : Fresh env w
  kept : Kept dir w

def Call.Fits : Call → Prop
  | .enqueue found _ => found.totalSize ≤ cfg.queue.maxBytes
  | _ => True

instance (c : Call) : Decidable (c.Fits cfg) :=
  match c with
  | .enqueue _ _ => inferInstanceAs (Decidable (_ ≤ _))
  | .post _ _ _ => inferInstanceAs (Decidable True)
  | .dequeue _ => inferInstanceAs (Decidable True)

def UnderLimit (calls : List Call) : Prop := ∀ c ∈ calls, c.Fits cfg

instance (calls : List Call) : Decidable (UnderLimit cfg calls) :=
  inferInstanceAs (Decidable (∀ c ∈ calls, c.Fits cfg))

theorem UnderLimit.of_prefix {earlier later : List Call} (h : UnderLimit cfg later)
    (grown : earlier <+: later) : UnderLimit cfg earlier := by
  intro c member
  apply h
  exact grown.subset member

@[simp] theorem post_calls (body : Bytes) (w : World) :
    (post env body w).2.calls = w.calls ++ [.post ingestPath body (post env body w).1] := rfl

@[simp] theorem enqueue_calls (data : Bytes) (w : World) :
    (enqueue cfg env data w).calls = w.calls ++ [.enqueue w.dir data] := rfl

theorem sendBatch_calls (batch : List Event) (w : World) :
    w.calls <+: (sendBatch cfg env batch w).calls := by
  simp only [sendBatch]
  split_ifs
  · exact List.prefix_append _ _
  · rw [enqueue_calls, post_calls, List.append_assoc]
    exact List.prefix_append _ _

theorem drainQueue_calls {fuel : Nat} {w v : World} (h : drainQueue cfg env fuel w = some v) :
    w.calls <+: v.calls := by
  induction fuel generalizing w with
  | zero => cases h
  | succ fuel ih =>
      have dequeued : w.calls <+: (dequeue env w).2.calls := List.prefix_append _ _
      simp only [drainQueue] at h
      split at h
      · obtain rfl := Option.some.inj h
        exact dequeued
      · rename_i data _
        have posted : w.calls <+: (post env data (dequeue env w).2).2.calls :=
          dequeued.trans (List.prefix_append _ _)
        split_ifs at h
        · exact posted.trans (ih h)
        · obtain rfl := Option.some.inj h
          exact posted.trans (List.prefix_append _ _)

variable {env} (distinct : Function.Injective env.now) (files : ∀ k, env.files k = .ok)
include files

theorem dequeue_spec (w : World) :
    (dequeue env w).1 = none ∧ (dequeue env w).2.dir = w.dir ∧ DiskQueue.queued w.dir = [] ∨
      ∃ p rest, DiskQueue.queued w.dir = p :: rest ∧ (dequeue env w).1 = some p.2 ∧
        (dequeue env w).2.dir = w.dir.remove p.1 := by
  cases h : DiskQueue.queued w.dir with
  | nil =>
      have code := DiskQueue.dequeue_ok_nil h
      exact Or.inl ⟨by rw [dequeue, files, code], by simp only [dequeue, files, code], rfl⟩
  | cons p rest =>
      have code := DiskQueue.dequeue_ok_cons h
      exact Or.inr ⟨p, rest, rfl, by rw [dequeue, files, code],
        by simp only [dequeue, files, code]⟩

theorem dequeue_ledger {w : World} {data : Bytes} (h : (dequeue env w).1 = some data) :
    ledger w = ledger (dequeue env w).2 + ↑(eventsIn data) := by
  rcases dequeue_spec files w with ⟨none, -⟩ | ⟨p, rest, queued, some, dir⟩
  · rw [h] at none
    cases none
  · obtain rfl : data = p.2 := Option.some.inj (h.symm.trans some)
    have calls : acceptedEvents (dequeue env w).2.calls = acceptedEvents w.calls :=
      acceptedEvents_idle w.calls rfl
    have removed := DiskQueue.queued_remove_head queued
    rw [ledger, ledger, calls, dir, queuedEvents, queuedEvents, removed, queued, List.flatMap_cons,
      add_assoc, Multiset.coe_add]
    exact congrArg _ (Multiset.coe_eq_coe.mpr List.perm_append_comm)

omit files in
theorem post_ledger (body : Bytes) (w : World) :
    ledger (post env body w).2 =
      ledger w + if (post env body w).1 then ↑(eventsIn body) else 0 := by
  rw [ledger, post_calls, acceptedEvents_append, ledger, add_right_comm]
  cases h : (post env body w).1 <;> rfl

theorem enqueue_dir {w : World} {data : Bytes} (fresh : Fresh env w)
    (limit : UnderLimit cfg (enqueue cfg env data w).calls) :
    (enqueue cfg env data w).dir = w.dir.put (fileName (env.now w.readings)) data := by
  have fits : w.dir.totalSize ≤ cfg.queue.maxBytes := limit (.enqueue w.dir data) (by simp)
  simp only [enqueue, files, DiskQueue.enqueue, DiskQueue.enforceLimit_ok_of_fits _ fits,
    FileOutcomes.ok_write, DiskQueue.writeFile_done (fresh w.readings le_rfl) data]

theorem enqueue_ledger {w : World} {data : Bytes} (fresh : Fresh env w)
    (limit : UnderLimit cfg (enqueue cfg env data w).calls) :
    ledger (enqueue cfg env data w) = ledger w + ↑(eventsIn data) := by
  have calls : acceptedEvents (enqueue cfg env data w).calls = acceptedEvents w.calls :=
    acceptedEvents_idle w.calls rfl
  rw [ledger, calls, enqueue_dir cfg files fresh limit,
    queuedEvents_put (fresh w.readings le_rfl), ledger, add_assoc]

include distinct in
theorem enqueue_tidy {dir : Directory} {w : World} {data : Bytes} (tidy : Tidy env dir w)
    (limit : UnderLimit cfg (enqueue cfg env data w).calls) :
    Tidy env dir (enqueue cfg env data w) := by
  obtain ⟨fresh, kept⟩ := tidy
  have name := fresh w.readings le_rfl
  constructor
  · intro k later taken
    rw [enqueue_dir cfg files fresh limit, (names_put name data).mem_iff, List.mem_cons] at taken
    change w.readings + 1 ≤ k at later
    rcases taken with same | taken
    · have := distinct (fileName_injective same)
      omega
    · exact fresh k (by omega) taken
  · intro p member
    rw [enqueue_dir cfg files fresh limit, (queued_put name data).mem_iff, List.mem_cons] at member
    rcases member with rfl | member
    · exact Or.inr ⟨w.dir, by simp⟩
    · exact kept.later member (List.prefix_append _ _)

theorem dequeue_tidy {dir : Directory} {w : World} (tidy : Tidy env dir w) :
    Tidy env dir (dequeue env w).2 := by
  obtain ⟨fresh, kept⟩ := tidy
  have shrinks : (dequeue env w).2.dir.names ⊆ w.dir.names ∧
      DiskQueue.queued (dequeue env w).2.dir ⊆ DiskQueue.queued w.dir := by
    rcases dequeue_spec files w with ⟨-, same, -⟩ | ⟨p, rest, queued, -, removed⟩
    · rw [same]
      exact ⟨List.Subset.refl _, List.Subset.refl _⟩
    · rw [removed, DiskQueue.queued_remove_head queued, queued]
      exact ⟨List.map_subset _ (List.filter_subset_self _), List.subset_cons_self _ _⟩
  constructor
  · intro k later taken
    exact fresh k later (shrinks.1 taken)
  · intro p member
    exact kept.later (shrinks.2 member) (List.prefix_append _ _)

omit files in
theorem post_tidy {dir : Directory} {w : World} (tidy : Tidy env dir w) (body : Bytes) :
    Tidy env dir (post env body w).2 := by
  refine ⟨tidy.fresh, ?_⟩
  intro p member
  exact tidy.kept.later member (List.prefix_append _ _)

/-! ## What the loops do to the ledger -/

include distinct in
theorem sendBatch_spec {dir : Directory} {batch : List Event} {w : World} (tidy : Tidy env dir w)
    (limit : UnderLimit cfg (sendBatch cfg env batch w).calls)
    (marshals : ∀ timestamp, (marshal (payloadValue cfg.deviceID timestamp batch)).isSome) :
    ledger (sendBatch cfg env batch w) = ledger w + ↑batch ∧
      Tidy env dir (sendBatch cfg env batch w) := by
  let timestamp := formatRFC3339 (env.now w.readings)
  obtain ⟨body, written⟩ := Option.isSome_iff_exists.mp (marshals timestamp)
  have events := eventsIn_marshal written
  let read : World := { w with readings := w.readings + 1 }
  have tidyRead : Tidy env dir read := ⟨fun k h => tidy.fresh k (Nat.le_of_succ_le h), tidy.kept⟩
  let posted := post env body read
  have later : Tidy env dir posted.2 := post_tidy tidyRead body
  have ledger_post : ledger posted.2 = ledger w + if posted.1 then ↑batch else 0 :=
    events ▸ post_ledger body read
  have sent : sendBatch cfg env batch w =
      if posted.1 then posted.2 else enqueue cfg env body posted.2 := by
    simp only [sendBatch, posted, timestamp] at written ⊢
    rw [written]
    rfl
  rw [sent] at limit ⊢
  cases ok : posted.1 with
  | true =>
      rw [ok] at ledger_post
      exact ⟨ledger_post, later⟩
  | false =>
      rw [ok] at ledger_post limit
      have moved := enqueue_ledger cfg files later.fresh limit
      rw [ledger_post, events] at moved
      exact ⟨by simpa using moved, enqueue_tidy cfg distinct files later limit⟩

include distinct in
theorem drainQueue_spec {dir : Directory} {fuel : Nat} {w v : World} (tidy : Tidy env dir w)
    (limit : UnderLimit cfg v.calls) (h : drainQueue cfg env fuel w = some v) :
    ledger v = ledger w ∧ Tidy env dir v := by
  induction fuel generalizing w with
  | zero => cases h
  | succ fuel ih =>
      have dequeued := dequeue_tidy files tidy
      simp only [drainQueue] at h
      split at h
      · rename_i none
        obtain rfl := Option.some.inj h
        rcases dequeue_spec files w with ⟨-, same, -⟩ | ⟨p, rest, -, some, -⟩
        · refine ⟨?_, dequeued⟩
          have calls : acceptedEvents (dequeue env w).2.calls = acceptedEvents w.calls :=
            acceptedEvents_idle w.calls rfl
          rw [ledger, calls, same, ledger]
        · rw [none] at some
          cases some
      · rename_i data some
        have before := dequeue_ledger files some
        have after := @post_ledger env data (dequeue env w).2
        have posted := post_tidy dequeued data
        cases ok : (post env data (dequeue env w).2).1 with
        | true =>
            rw [ok, if_pos rfl] at h after
            obtain ⟨rest, tidyRest⟩ := ih posted h
            exact ⟨by rw [rest, after, before], tidyRest⟩
        | false =>
            rw [ok, if_neg (by decide)] at h after
            obtain rfl := Option.some.inj h
            have back := enqueue_ledger cfg files posted.fresh limit
            exact ⟨by rw [back, after, before, add_zero],
              enqueue_tidy cfg distinct files posted limit⟩

/-! ## Runs of the sender -/

end

def received : List Input → List Event
  | [] => []
  | .event e :: inputs => e :: received inputs
  | _ :: inputs => received inputs

theorem received_snoc (inputs : List Input) (i : Input) :
    received (inputs ++ [i]) = received inputs ++ received [i] := by
  induction inputs with
  | nil => rfl
  | cons j inputs ih => cases j <;> simp [received, ih]

def Event.Marshals (e : Event) : Prop := (marshal e.value).isSome

theorem isSome_marshal_payload (deviceID timestamp : String) (batch : List Event) :
    (marshal (payloadValue deviceID timestamp batch)).isSome ↔ ∀ e ∈ batch, e.Marshals := by
  rw [marshal, payload_traverse, Option.isSome_map, Option.isSome_map, Json.isSome_traverseItems,
    List.forall_mem_map]
  simp only [Event.Marshals, marshal, Option.isSome_map]

def Conserves (env : Env) (dir : Directory) (past : List Input) (batch : List Event) (w : World) :
    Prop :=
  ↑(received past) + queuedEvents dir = ledger w + ↑batch ∧ batch ⊆ received past ∧ Tidy env dir w

theorem append_conserves {env : Env} {dir : Directory} {past : List Input} {batch : List Event}
    {w : World} (h : Conserves env dir past batch w) (e : Event) :
    Conserves env dir (past ++ [.event e]) (batch ++ [e]) w := by
  obtain ⟨events, subset, tidy⟩ := h
  rw [Conserves, received_snoc]
  refine ⟨?_, List.append_subset.mpr ⟨?_, List.subset_append_right _ _⟩, tidy⟩
  · rw [← Multiset.coe_add, ← Multiset.coe_add, ← add_assoc, ← events, add_right_comm]
    rfl
  · exact fun f hf => List.mem_append_left _ (subset hf)

section
variable {cfg : AgentConfig} {env : Env} (distinct : Function.Injective env.now)
  (files : ∀ k, env.files k = .ok) {fuel : Nat} {dir : Directory} {past : List Input}
include distinct files

theorem sendAll_conserves {batch : List Event} {w : World}
    (h : Conserves env dir past batch w) (marshals : ∀ e ∈ received past, e.Marshals)
    (limit : UnderLimit cfg (sendBatch cfg env batch w).calls) :
    Conserves env dir past [] (sendBatch cfg env batch w) := by
  obtain ⟨events, subset, tidy⟩ := h
  obtain ⟨sent, tidySent⟩ := sendBatch_spec cfg distinct files tidy limit
    fun timestamp => (isSome_marshal_payload cfg.deviceID timestamp batch).mpr
      fun e he => marshals e (subset he)
  refine ⟨?_, List.nil_subset _, tidySent⟩
  rw [events, sent]
  exact (add_zero _).symm

theorem onEvent_conserves {s : Sender} (h : Conserves env dir past s.batch.toList s.world)
    (e : Event) (marshals : ∀ f ∈ received (past ++ [.event e]), f.Marshals)
    (limit : UnderLimit cfg (onEvent cfg env e s).world.calls) :
    Conserves env dir (past ++ [.event e]) (onEvent cfg env e s).batch.toList
      (onEvent cfg env e s).world := by
  have appended := append_conserves h e
  rw [← Slice.toList_append] at appended
  simp only [onEvent] at limit ⊢
  split_ifs at limit ⊢
  · rw [Slice.toList_reset]
    exact sendAll_conserves distinct files appended marshals limit
  · exact appended

theorem sendPending_conserves {s : Sender} (h : Conserves env dir past s.batch.toList s.world)
    (marshals : ∀ f ∈ received past, f.Marshals)
    (limit : UnderLimit cfg (sendPending cfg env s).world.calls) :
    Conserves env dir past (sendPending cfg env s).batch.toList (sendPending cfg env s).world := by
  unfold sendPending at limit ⊢
  split_ifs at limit ⊢
  · rw [Slice.toList_reset]
    exact sendAll_conserves distinct files h marshals limit
  · exact h

theorem step_conserves {s t : Sender} {i : Input}
    (h : Conserves env dir past s.batch.toList s.world) (taken : senderStep cfg env fuel s i = some t)
    (running : t.stopped = false) (marshals : ∀ e ∈ received (past ++ [i]), e.Marshals)
    (limit : UnderLimit cfg t.world.calls) :
    Conserves env dir (past ++ [i]) t.batch.toList t.world := by
  unfold senderStep at taken
  split_ifs at taken
  cases i with
  | done =>
      obtain rfl := Option.some.inj taken
      cases running
  | event e =>
      obtain rfl := Option.some.inj taken
      exact onEvent_conserves distinct files h e marshals limit
  | tick =>
      obtain ⟨w, drained, rfl⟩ := Option.map_eq_some_iff.mp taken
      have same : Conserves env dir (past ++ [.tick]) s.batch.toList s.world := by
        simpa [Conserves, received_snoc, received] using h
      obtain ⟨events, subset, tidy⟩ := sendPending_conserves distinct files same marshals
        (limit.of_prefix cfg (drainQueue_calls cfg env drained))
      obtain ⟨kept, tidyDrained⟩ := drainQueue_spec cfg distinct files tidy limit drained
      exact ⟨by rw [events, kept], subset, tidyDrained⟩

end

theorem senderStep_calls {cfg : AgentConfig} {env : Env} {fuel : Nat} {s t : Sender} {i : Input}
    (taken : senderStep cfg env fuel s i = some t) : s.world.calls <+: t.world.calls := by
  unfold senderStep at taken
  split_ifs at taken
  cases i with
  | done =>
      obtain rfl := Option.some.inj taken
      simp only [flushOnDone]
      split_ifs
      · exact List.prefix_append _ _
      · exact List.prefix_refl _
  | event e =>
      obtain rfl := Option.some.inj taken
      simp only [onEvent]
      split_ifs
      · exact sendBatch_calls cfg env _ _
      · exact List.prefix_refl _
  | tick =>
      obtain ⟨w, drained, rfl⟩ := Option.map_eq_some_iff.mp taken
      refine List.IsPrefix.trans ?_ (drainQueue_calls cfg env drained)
      unfold sendPending
      split_ifs
      · exact sendBatch_calls cfg env _ _
      · exact List.prefix_refl _

theorem running_of_step {cfg : AgentConfig} {env : Env} {fuel : Nat} {s t : Sender} {i : Input}
    (taken : senderStep cfg env fuel s i = some t) : s.stopped = false := by
  cases h : s.stopped with
  | false => rfl
  | true => simp [senderStep, h] at taken

/-! ## Every run goes on -/

theorem drainQueue_mono {cfg : AgentConfig} {env : Env} {fuel more : Nat} {w v : World}
    (h : drainQueue cfg env fuel w = some v) (le : fuel ≤ more) :
    drainQueue cfg env more w = some v := by
  induction fuel generalizing more w with
  | zero => cases h
  | succ fuel ih =>
      obtain ⟨more, rfl⟩ : ∃ k, more = k + 1 := ⟨more - 1, by omega⟩
      simp only [drainQueue] at h ⊢
      split at h
      · exact h
      · split_ifs at h ⊢
        · exact ih h (Nat.le_of_succ_le_succ le)
        · exact h

theorem drainQueue_isSome {cfg : AgentConfig} {env : Env} (files : ∀ k, env.files k = .ok)
    {fuel : Nat} {w : World} (h : (DiskQueue.queued w.dir).length < fuel) :
    (drainQueue cfg env fuel w).isSome := by
  induction fuel generalizing w with
  | zero => cases h
  | succ fuel ih =>
      simp only [drainQueue]
      rcases dequeue_spec files w with ⟨none, -⟩ | ⟨p, rest, queued, some, removed⟩
      · rw [none]
        rfl
      · simp only [some]
        split_ifs
        · refine ih ?_
          change (DiskQueue.queued (dequeue env w).2.dir).length < fuel
          rw [removed, DiskQueue.queued_remove_head queued]
          rw [queued] at h
          exact Nat.lt_of_succ_lt_succ h
        · rfl

theorem senderStep_mono {cfg : AgentConfig} {env : Env} {fuel more : Nat} {s t : Sender} {i : Input}
    (taken : senderStep cfg env fuel s i = some t) (le : fuel ≤ more) :
    senderStep cfg env more s i = some t := by
  unfold senderStep at taken ⊢
  split_ifs at taken ⊢
  cases i with
  | done => exact taken
  | event e => exact taken
  | tick =>
      obtain ⟨w, drained, rfl⟩ := Option.map_eq_some_iff.mp taken
      simp only [drainQueue_mono drained le, Option.map_some]

theorem senderStep_enabled {cfg : AgentConfig} {env : Env} (files : ∀ k, env.files k = .ok)
    {s : Sender} (running : s.stopped = false) (i : Input) :
    ∃ fuel t, senderStep cfg env fuel s i = some t ∧ (i ≠ .done → t.stopped = false) := by
  have stopped : ¬ s.stopped = true := by simp [running]
  cases i with
  | done => exact ⟨0, _, if_neg stopped, fun h => absurd rfl h⟩
  | event e =>
      refine ⟨0, _, if_neg stopped, fun _ => ?_⟩
      simp only [onEvent]
      split_ifs <;> exact running
  | tick =>
      let fuel := (DiskQueue.queued (sendPending cfg env s).world.dir).length + 1
      obtain ⟨w, drained⟩ : ∃ w, drainQueue cfg env fuel (sendPending cfg env s).world = some w :=
        Option.isSome_iff_exists.mp (drainQueue_isSome files (Nat.lt_succ_self _))
      refine ⟨fuel, { sendPending cfg env s with world := w }, ?_, fun _ => ?_⟩
      · simp only [senderStep, if_neg stopped, drained, Option.map_some]
      · unfold sendPending
        split_ifs <;> exact running

/-- Every sequence of events and ticks can be run, with enough fuel for its drain loops. -/
theorem senderRun_total {cfg : AgentConfig} {env : Env} (files : ∀ k, env.files k = .ok)
    (inputs : List Input) (running : .done ∉ inputs) (s : Sender) (h : s.stopped = false) :
    ∃ fuel t, ∀ more, fuel ≤ more →
      run (senderStep cfg env more) s inputs = some t ∧ t.stopped = false := by
  induction inputs generalizing s with
  | nil => exact ⟨0, s, fun _ _ => ⟨rfl, h⟩⟩
  | cons i inputs ih =>
      obtain ⟨first, m, taken, goes⟩ := @senderStep_enabled cfg env files s h i
      have here : i ≠ .done := fun same => running (same ▸ List.mem_cons_self)
      obtain ⟨later, t, rest⟩ := ih (fun member => running (List.mem_cons_of_mem _ member)) m
        (goes here)
      refine ⟨max first later, t, fun more le => ?_⟩
      obtain ⟨tail, stopped⟩ := rest more (le_trans (le_max_right _ _) le)
      exact ⟨run_cons_eq_some.mpr
        ⟨m, senderStep_mono taken (le_trans (le_max_left _ _) le), tail⟩, stopped⟩

/-! ## The whole run -/

theorem sender_conserves_events (cfg : AgentConfig) (env : Env) (fuel : Nat) (dir : Directory)
    (inputs : List Input) (s : Sender)
    (reached : run (senderStep cfg env fuel) (Sender.start cfg dir) inputs = some s)
    (running : s.stopped = false) (distinct : Function.Injective env.now)
    (fresh : Fresh env (World.start dir)) (files : ∀ k, env.files k = .ok)
    (limit : UnderLimit cfg s.world.calls) (marshals : ∀ e ∈ received inputs, e.Marshals) :
    ↑(received inputs) + queuedEvents dir =
        acceptedEvents s.world.calls + queuedEvents s.world.dir + ↑s.batch.toList ∧
      Kept dir s.world := by
  have conserves : s.stopped = false → UnderLimit cfg s.world.calls →
      (∀ e ∈ received inputs, e.Marshals) → Conserves env dir inputs s.batch.toList s.world := by
    refine run_invariant (I := fun past s => s.stopped = false → UnderLimit cfg s.world.calls →
      (∀ e ∈ received past, e.Marshals) → Conserves env dir past s.batch.toList s.world)
      ?_ ?_ reached
    · intro _ _ _
      refine ⟨?_, ?_, fresh, fun p member => Or.inl member⟩
      · simp [received, ledger, acceptedEvents, Sender.start, World.start]
      · simp [Sender.start]
    · intro past m i n inv taken running limit marshals
      have before := inv (running_of_step taken) (limit.of_prefix cfg (senderStep_calls taken))
        fun e he => marshals e (received_snoc past i ▸ List.mem_append_left _ he)
      exact step_conserves distinct files before taken running marshals limit
  obtain ⟨events, -, tidy⟩ := conserves running limit marshals
  exact ⟨events, tidy.kept⟩

theorem sender_conserves_events_outage :
    let cfg : AgentConfig := ⟨"pi-1", 1, 50⟩
    let env : Env := ⟨fun k => k, fun k => decide (2 ≤ k), fun _ => .ok⟩
    let first : Event := ⟨"process_alert", "high", "Suspicious process", none, "t"⟩
    let second : Event := ⟨"metrics", "low", "System metrics", some [("cpu_percent", .null)], "t"⟩
    ∃ s, run (senderStep cfg env 3) (Sender.start cfg Directory.empty)
        [.event first, .event second, .tick] = some s ∧
      ({first, second} : Multiset Event) + queuedEvents Directory.empty =
        acceptedEvents s.world.calls + queuedEvents s.world.dir + ↑s.batch.toList := by
  intro cfg env first second
  let start := Sender.start cfg Directory.empty
  let inputs := [Input.event first, .event second, .tick]
  have facts : (run (senderStep cfg env 3) start inputs).map
      (fun s => (s.stopped, decide (UnderLimit cfg s.world.calls))) = some (false, true) := by
    decide +kernel
  obtain ⟨s, reached, facts⟩ := Option.map_eq_some_iff.mp facts
  obtain ⟨running, limit⟩ := Prod.mk.inj facts
  have marshals : ∀ e ∈ [first, second], (marshal e.value).isSome = true := by decide +kernel
  exact ⟨s, reached, (sender_conserves_events cfg env 3 Directory.empty inputs s reached running
    (fun j k same => Int.ofNat.inj same) (fun _ _ => List.not_mem_nil) (fun _ => rfl)
    (of_decide_eq_true limit) marshals).1⟩

end GuardianPi.EdgeAgent
