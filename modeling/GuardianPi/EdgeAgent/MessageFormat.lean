import GuardianPi.EdgeAgent.Conservation
import GuardianPi.Backend.Schemas

namespace GuardianPi.EdgeAgent
open GuardianPi.Library GuardianPi.Backend

def Call.body : Call → Option Bytes
  | .post _ body _ => some body
  | .enqueue _ data => some data
  | .dequeue _ => none

def collect (size : Nat) : List Event × List (List Event) → Input → List Event × List (List Event)
  | (pending, finished), .event e =>
      if size ≤ pending.length + 1 then ([], finished ++ [pending ++ [e]])
      else (pending ++ [e], finished)
  | (pending, finished), .tick | (pending, finished), .done =>
      if pending = [] then ([], finished) else ([], finished ++ [pending])

def batchesOf (size : Nat) (inputs : List Input) : List Event × List (List Event) :=
  inputs.foldl (collect size) ([], [])

section
variable {Datetime : Type} (datetime : Json Literal → Option Datetime) (cfg : AgentConfig)

/-- The server's schema accepts the body, which names the device and lists just the batch. -/
def Conforms (batch : List Event) (body : Bytes) : Prop :=
  ∃ document payload data items, Json.loadsBytes body = some document ∧
    TelemetryPayload.validate datetime document = some payload ∧
    payload.deviceId = cfg.deviceID ∧ payload.data = some data ∧
    Json.lookup "events" data = some (.arr items) ∧ items.map eventOf = batch.map some

theorem not_conforms_nil (batch : List Event) : ¬ Conforms datetime cfg batch [] := by
  rintro ⟨document, -, -, -, read, -⟩
  rw [loadsBytes_nil] at read
  cases read

theorem not_conforms_array {events : List Event} {body : Bytes}
    (written : marshal (batchValue events) = some body) (batch : List Event) :
    ¬ Conforms datetime cfg batch body := by
  rintro ⟨document, payload, -, -, read, accepted, -⟩
  rw [loadsBytes_marshal written, batchValue, Json.traverse] at read
  obtain ⟨items, -, rfl⟩ := Option.map_eq_some_iff.mp read
  cases accepted

theorem conforms_payload {timestamp : String} {batch : List Event} {body : Bytes}
    (date : (datetime (.str timestamp)).isSome)
    (written : marshal (payloadValue cfg.deviceID timestamp batch) = some body) :
    Conforms datetime cfg batch body := by
  have read := loadsBytes_marshal written
  obtain ⟨document, whole, -⟩ := Option.map_eq_some_iff.mp written
  rw [whole] at read
  rw [payload_traverse] at whole
  obtain ⟨items, each, rfl⟩ := Option.map_eq_some_iff.mp whole
  obtain ⟨instant, date⟩ := Option.isSome_iff_exists.mp date
  refine ⟨_, ⟨cfg.deviceID, instant, none, some [("events", .arr items)], none, none⟩, _, items,
    read, ?_, rfl, rfl, ?_, map_eventOf each⟩
  · simp [TelemetryPayload.validate, payloadDocument, Json.lookup, requiredStr, optionalStr,
      optionalDict, date]
  · simp [Json.lookup]

end

structure Formats (known : Bytes → Prop) (w : World) : Prop where
  queued : ∀ p ∈ DiskQueue.queued w.dir, known p.2
  sent : ∀ c ∈ w.calls, ∀ body ∈ c.body, known body

theorem Formats.mono {known known' : Bytes → Prop} {w : World} (h : Formats known w)
    (le : ∀ body, known body → known' body) : Formats known' w := by
  constructor
  · intro p hp
    apply le
    exact h.queued p hp
  · intro c hc body hb
    apply le
    exact h.sent c hc body hb

section
variable {cfg : AgentConfig} {env : Env} {known : Bytes → Prop}

theorem sent_append {calls : List Call} {c : Call} (h : ∀ c ∈ calls, ∀ body ∈ c.body, known body)
    (last : ∀ body ∈ c.body, known body) : ∀ d ∈ calls ++ [c], ∀ body ∈ d.body, known body := by
  intro d hd
  rcases List.mem_append.mp hd with hd | hd
  · exact h d hd
  · rw [List.mem_singleton.mp hd]
    exact last

theorem post_formats {w : World} (h : Formats known w) {body : Bytes} (hb : known body) :
    Formats known (post env body w).2 := by
  refine ⟨h.queued, ?_⟩
  apply sent_append h.sent
  rintro _ ⟨⟩
  exact hb

theorem enqueue_formats (whole : ∀ k written, (env.files k).write ≠ .torn written) {w : World}
    (h : Formats known w) {data : Bytes} (hd : known data) :
    Formats known (enqueue cfg env data w) := by
  constructor
  · intro p hp
    rcases DiskQueue.queued_enqueue cfg.queue (whole w.queueCalls) hp with hp | same
    · exact h.queued p hp
    · exact same ▸ hd
  · apply sent_append h.sent
    rintro _ ⟨⟩
    exact hd

theorem dequeue_formats {w : World} (h : Formats known w) :
    Formats known (dequeue env w).2 ∧ ∀ data, (dequeue env w).1 = some data → known data := by
  obtain ⟨contents, subset⟩ := DiskQueue.dequeue_queued (env.files w.queueCalls) w.dir
  refine ⟨⟨?_, sent_append h.sent nofun⟩, ?_⟩
  · intro p hp
    exact h.queued p (subset hp)
  · intro data some
    obtain ⟨f, member⟩ := contents data some
    exact h.queued _ member

theorem sendBatch_formats (whole : ∀ k written, (env.files k).write ≠ .torn written) {w : World}
    (h : Formats known w) {batch : List Event}
    (written : ∀ k, known ((marshal (payloadValue cfg.deviceID (formatRFC3339 (env.now k))
      batch)).getD [])) : Formats known (sendBatch cfg env batch w) := by
  have read : Formats known { w with readings := w.readings + 1 } := ⟨h.queued, h.sent⟩
  have posted := @post_formats env known _ read _ (written w.readings)
  unfold sendBatch
  dsimp only
  split_ifs
  · exact posted
  · exact enqueue_formats whole posted (written w.readings)

theorem drainQueue_formats (whole : ∀ k written, (env.files k).write ≠ .torn written) {fuel : Nat}
    {w v : World} (h : Formats known w) (drained : drainQueue cfg env fuel w = some v) :
    Formats known v := by
  induction fuel generalizing w with
  | zero => cases drained
  | succ fuel ih =>
      obtain ⟨dequeued, contents⟩ := @dequeue_formats env known w h
      simp only [drainQueue] at drained
      split at drained
      · obtain rfl := Option.some.inj drained
        exact dequeued
      · rename_i data some
        have posted := @post_formats env known _ dequeued _ (contents data some)
        split_ifs at drained
        · exact ih posted drained
        · obtain rfl := Option.some.inj drained
          exact enqueue_formats whole posted (contents data some)

end

/-- `json.Marshal` accepts each event that this turn of the loop sends, and the turn does not stop
the loop with events unsent. -/
def Sendable (cfg : AgentConfig) (s : Sender) : Input → Prop
  | .done => s.batch.len = 0
  | .event e => cfg.batchSize ≤ s.batch.len + 1 → ∀ f ∈ s.batch.toList ++ [e], f.Marshals
  | .tick => ∀ f ∈ s.batch.toList, f.Marshals

instance (e : Event) : Decidable e.Marshals :=
  inferInstanceAs (Decidable ((marshal e.value).isSome = true))

instance (cfg : AgentConfig) (s : Sender) (i : Input) : Decidable (Sendable cfg s i) :=
  match i with
  | .done => inferInstanceAs (Decidable (s.batch.len = 0))
  | .event e => inferInstanceAs
      (Decidable (cfg.batchSize ≤ s.batch.len + 1 → ∀ f ∈ s.batch.toList ++ [e], f.Marshals))
  | .tick => inferInstanceAs (Decidable (∀ f ∈ s.batch.toList, f.Marshals))

def Known {Datetime : Type} (datetime : Json Literal → Option Datetime) (cfg : AgentConfig)
    (batches : List (List Event)) (body : Bytes) : Prop :=
  ∃ batch ∈ batches, Conforms datetime cfg batch body

section
variable {Datetime : Type} {datetime : Json Literal → Option Datetime} {cfg : AgentConfig}
  {env : Env} {fuel : Nat} {earlier : List (List Event)}

structure Formatted (datetime : Json Literal → Option Datetime) (cfg : AgentConfig)
    (earlier : List (List Event)) (past : List Input) (s : Sender) : Prop where
  world : Formats (Known datetime cfg (earlier ++ (batchesOf cfg.batchSize past).2)) s.world
  batch : s.stopped = false → s.batch.toList = (batchesOf cfg.batchSize past).1

theorem batchesOf_snoc (size : Nat) (past : List Input) (i : Input) :
    batchesOf size (past ++ [i]) = collect size (batchesOf size past) i := by
  simp [batchesOf]

theorem Known.more {batches : List (List Event)} {body : Bytes} (h : Known datetime cfg batches body)
    (more : List (List Event)) : Known datetime cfg (batches ++ more) body := by
  obtain ⟨batch, member, conforms⟩ := h
  exact ⟨batch, List.mem_append_left more member, conforms⟩

theorem sendBatch_known (whole : ∀ k written, (env.files k).write ≠ .torn written)
    (dates : ∀ k, (datetime (.str (formatRFC3339 (env.now k)))).isSome) {w : World}
    {batches : List (List Event)} {batch : List Event} (h : Formats (Known datetime cfg batches) w)
    (marshals : ∀ f ∈ batch, f.Marshals) :
    Formats (Known datetime cfg (batches ++ [batch])) (sendBatch cfg env batch w) := by
  apply sendBatch_formats whole (h.mono fun body known => known.more [batch])
  intro k
  obtain ⟨body, written⟩ := Option.isSome_iff_exists.mp
    ((isSome_marshal_payload cfg.deviceID (formatRFC3339 (env.now k)) batch).mpr marshals)
  rw [written]
  exact ⟨batch, by simp, conforms_payload datetime cfg (dates k) written⟩

theorem onEvent_formatted (whole : ∀ k written, (env.files k).write ≠ .torn written)
    (dates : ∀ k, (datetime (.str (formatRFC3339 (env.now k)))).isSome) {past : List Input}
    {s : Sender} (h : Formatted datetime cfg earlier past s) (running : s.stopped = false) (e : Event)
    (sendable : Sendable cfg s (.event e)) :
    Formatted datetime cfg earlier (past ++ [.event e]) (onEvent cfg env e s) := by
  have length := s.batch.length_toList
  have pending := h.batch running
  by_cases full : cfg.batchSize ≤ s.batch.len + 1
  · have code : onEvent cfg env e s = { s with
        batch := (s.batch.append e).reset
        world := sendBatch cfg env (s.batch.toList ++ [e]) s.world } := by
      simp [onEvent, full]
    have batches : batchesOf cfg.batchSize (past ++ [.event e]) =
        ([], (batchesOf cfg.batchSize past).2 ++ [s.batch.toList ++ [e]]) := by
      rw [batchesOf_snoc, collect, ← pending, length, if_pos full]
    rw [code]
    refine ⟨?_, fun _ => by rw [batches, Slice.toList_reset]⟩
    rw [batches, ← List.append_assoc]
    exact sendBatch_known whole dates h.world (sendable full)
  · have code : onEvent cfg env e s = { s with batch := s.batch.append e } := by
      simp [onEvent, full]
    have batches : batchesOf cfg.batchSize (past ++ [.event e]) =
        (s.batch.toList ++ [e], (batchesOf cfg.batchSize past).2) := by
      rw [batchesOf_snoc, collect, ← pending, length, if_neg full]
    rw [code]
    exact ⟨batches ▸ h.world, fun _ => by rw [batches, Slice.toList_append]⟩

theorem sendPending_formatted (whole : ∀ k written, (env.files k).write ≠ .torn written)
    (dates : ∀ k, (datetime (.str (formatRFC3339 (env.now k)))).isSome) {past : List Input}
    {s : Sender} (h : Formatted datetime cfg earlier past s) (running : s.stopped = false)
    (sendable : Sendable cfg s .tick) :
    Formatted datetime cfg earlier (past ++ [.tick]) (sendPending cfg env s) := by
  have length := s.batch.length_toList
  have pending := h.batch running
  by_cases some : 0 < s.batch.len
  · have filled : s.batch.toList ≠ [] := by
      rw [← List.length_pos_iff, length]
      exact some
    have batches : batchesOf cfg.batchSize (past ++ [.tick]) =
        ([], (batchesOf cfg.batchSize past).2 ++ [s.batch.toList]) := by
      rw [batchesOf_snoc, collect, ← pending, if_neg filled]
    rw [sendPending, if_pos some]
    refine ⟨?_, fun _ => by rw [batches, Slice.toList_reset]⟩
    rw [batches, ← List.append_assoc]
    exact sendBatch_known whole dates h.world sendable
  · have empty : s.batch.toList = [] := by
      rw [← List.length_eq_zero_iff, length]
      exact Nat.eq_zero_of_not_pos some
    have batches : batchesOf cfg.batchSize (past ++ [.tick]) =
        ([], (batchesOf cfg.batchSize past).2) := by
      rw [batchesOf_snoc, collect, ← pending, if_pos empty]
    rw [sendPending, if_neg some]
    exact ⟨batches ▸ h.world, fun _ => by rw [batches, empty]⟩

theorem step_formatted (whole : ∀ k written, (env.files k).write ≠ .torn written)
    (dates : ∀ k, (datetime (.str (formatRFC3339 (env.now k)))).isSome) {past : List Input}
    {s t : Sender} {i : Input} (h : Formatted datetime cfg earlier past s)
    (sendable : Sendable cfg s i) (taken : senderStep cfg env fuel s i = some t) :
    Formatted datetime cfg earlier (past ++ [i]) t := by
  have running := running_of_step taken
  unfold senderStep at taken
  split_ifs at taken
  cases i with
  | done =>
      obtain rfl := Option.some.inj taken
      have idle : flushOnDone cfg env s = s.world := if_neg (Nat.not_lt.mpr (Nat.le_of_eq sendable))
      have empty : s.batch.toList = [] := by
        rw [← List.length_eq_zero_iff, s.batch.length_toList]
        exact sendable
      have batches : batchesOf cfg.batchSize (past ++ [.done]) =
          ([], (batchesOf cfg.batchSize past).2) := by
        rw [batchesOf_snoc, collect, ← h.batch running, if_pos empty]
      rw [idle]
      exact ⟨batches ▸ h.world, nofun⟩
  | event e =>
      obtain rfl := Option.some.inj taken
      exact onEvent_formatted whole dates h running e sendable
  | tick =>
      obtain ⟨w, drained, rfl⟩ := Option.map_eq_some_iff.mp taken
      obtain ⟨world, batch⟩ := sendPending_formatted whole dates h running sendable
      exact ⟨drainQueue_formats whole world drained, batch⟩

def Shaped {Datetime : Type} (datetime : Json Literal → Option Datetime) (cfg : AgentConfig)
    (calls : List Call) : Prop :=
  ∀ c ∈ calls, ∀ body ∈ c.body, ∃ batch, Conforms datetime cfg batch body

theorem Shaped.of_prefix {before after : List Call} (h : Shaped datetime cfg after)
    (grown : before <+: after) : Shaped datetime cfg before :=
  fun c hc => h c (grown.subset hc)

theorem marshals_of_sendBatch {batch : List Event} {w : World}
    (h : Shaped datetime cfg (sendBatch cfg env batch w).calls) : ∀ e ∈ batch, e.Marshals := by
  let timestamp := formatRFC3339 (env.now w.readings)
  let body := (marshal (payloadValue cfg.deviceID timestamp batch)).getD []
  have posted : Call.post ingestPath body (env.post w.posts) ∈ (sendBatch cfg env batch w).calls := by
    simp only [sendBatch]
    split_ifs <;> simp [body, timestamp, post]
  rw [← isSome_marshal_payload cfg.deviceID timestamp batch]
  obtain ⟨listed, conforms⟩ := h _ posted body rfl
  cases written : marshal (payloadValue cfg.deviceID timestamp batch) with
  | some _ => rfl
  | none =>
      have empty : body = [] := by simp only [body, written, Option.getD_none]
      exact absurd (empty ▸ conforms) (not_conforms_nil datetime cfg listed)

theorem not_shaped_flush {s : Sender} (unsent : 0 < s.batch.len) :
    ¬ Shaped datetime cfg (flushOnDone cfg env s).calls := by
  intro h
  rw [flushOnDone, if_pos unsent] at h
  let data := (marshal (batchValue s.batch.toList)).getD []
  obtain ⟨listed, conforms⟩ := h (.enqueue s.world.dir data) (by simp [data]) data rfl
  simp only [data] at conforms
  cases written : marshal (batchValue s.batch.toList) with
  | some body =>
      rw [written] at conforms
      exact not_conforms_array datetime cfg written listed conforms
  | none =>
      rw [written] at conforms
      exact not_conforms_nil datetime cfg listed conforms

theorem sendable_of_step {s t : Sender} {i : Input} (taken : senderStep cfg env fuel s i = some t)
    (h : Shaped datetime cfg t.world.calls) : Sendable cfg s i := by
  unfold senderStep at taken
  split_ifs at taken
  cases i with
  | done =>
      obtain rfl := Option.some.inj taken
      by_contra unsent
      exact not_shaped_flush (Nat.pos_of_ne_zero unsent) h
  | event e =>
      obtain rfl := Option.some.inj taken
      intro full
      apply marshals_of_sendBatch
      simpa [onEvent, full] using h
  | tick =>
      obtain ⟨w, drained, rfl⟩ := Option.map_eq_some_iff.mp taken
      have sent := h.of_prefix (drainQueue_calls cfg env drained)
      by_cases some : 0 < s.batch.len
      · rw [sendPending, if_pos some] at sent
        exact marshals_of_sendBatch sent
      · have empty : s.batch.toList = [] := by
          rw [← List.length_eq_zero_iff, s.batch.length_toList]
          exact Nat.eq_zero_of_not_pos some
        intro f hf
        rw [empty] at hf
        cases hf

end

theorem sender_format_iff {Datetime : Type} (datetime : Json Literal → Option Datetime)
    (cfg : AgentConfig) (env : Env) (fuel : Nat) (dir : Directory) (inputs : List Input) (s : Sender)
    (reached : run (senderStep cfg env fuel) (Sender.start cfg dir) inputs = some s)
    (dates : ∀ k, (datetime (.str (formatRFC3339 (env.now k)))).isSome)
    (whole : ∀ k written, (env.files k).write ≠ .torn written) (earlier : List (List Event))
    (before : ∀ p ∈ DiskQueue.queued dir, Known datetime cfg earlier p.2) :
    (∀ c ∈ s.world.calls, ∀ body ∈ c.body,
        Known datetime cfg (earlier ++ (batchesOf cfg.batchSize inputs).2) body) ↔
      Along (senderStep cfg env fuel) (Sendable cfg) (Sender.start cfg dir) inputs := by
  constructor
  · intro h
    have shaped : Shaped datetime cfg s.world.calls := fun c hc body hb =>
      let ⟨batch, _, conforms⟩ := h c hc body hb
      ⟨batch, conforms⟩
    apply along_of_run (I := fun _ => True) (Q := fun s => Shaped datetime cfg s.world.calls)
      trivial ?_ ?_ ?_ reached shaped
    · intro _ _ _ _ _
      trivial
    · intro _ _ _ _ taken later
      exact later.of_prefix (senderStep_calls taken)
    · intro _ _ _ _ taken later
      exact sendable_of_step taken later
  · intro sendable
    have start : Formatted datetime cfg earlier [] (Sender.start cfg dir) :=
      ⟨⟨fun p hp => (before p hp).more [], nofun⟩, fun _ => Slice.toList_make _⟩
    have formatted : Formatted datetime cfg earlier inputs s := by
      apply run_invariant_along start _ sendable reached
      intro _ _ _ _ h allowed taken
      exact step_formatted whole dates h allowed taken
    exact formatted.world.sent

theorem sender_format_iff_outage :
    let cfg : AgentConfig := ⟨"pi-1", 1, 50⟩
    let env : Env := ⟨fun k => k, fun k => decide (2 ≤ k), fun _ => .ok⟩
    let datetime : Json Literal → Option String := fun v =>
      match v with
      | .str text => some text
      | _ => none
    let first : Event := ⟨"process_alert", "high", "Suspicious process", none, "t"⟩
    let second : Event := ⟨"metrics", "low", "System metrics", none, "t"⟩
    ∃ s, run (senderStep cfg env 3) (Sender.start cfg Directory.empty)
        [.event first, .event second, .tick, .done] = some s ∧
      ∀ c ∈ s.world.calls, ∀ body ∈ c.body, Known datetime cfg [[first], [second]] body := by
  intro cfg env datetime first second
  let start := Sender.start cfg Directory.empty
  let inputs := [Input.event first, .event second, .tick, .done]
  have taken : (run (senderStep cfg env 3) start inputs).isSome = true := by decide +kernel
  obtain ⟨s, reached⟩ := Option.isSome_iff_exists.mp taken
  have sendable : Along (senderStep cfg env 3) (Sendable cfg) start inputs := by decide +kernel
  exact ⟨s, reached, (sender_format_iff datetime cfg env 3 Directory.empty inputs s reached
    (fun _ => rfl) (fun _ _ => nofun) [] (fun _ h => nomatch h)).mpr sendable⟩

theorem sender_format_fails_at_shutdown :
    let cfg : AgentConfig := ⟨"pi-1", 50, 50⟩
    let env : Env := ⟨fun k => k, fun _ => true, fun _ => .ok⟩
    let e : Event := ⟨"process_alert", "high", "Suspicious process", none, "t"⟩
    ∃ s, run (senderStep cfg env 1) (Sender.start cfg Directory.empty) [.event e, .done] = some s ∧
      ¬ ∀ c ∈ s.world.calls, ∀ body ∈ c.body,
        ∃ batch, Conforms (fun _ => some ()) cfg batch body := by
  intro cfg env e
  exact ⟨_, rfl, not_shaped_flush Nat.zero_lt_one⟩

end GuardianPi.EdgeAgent
