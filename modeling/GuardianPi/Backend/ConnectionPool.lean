import GuardianPi.Library.History
import GuardianPi.Library.Transition
import Mathlib.Algebra.GroupWithZero.Nat
import Mathlib.Data.List.AList
import Mathlib.Data.Finset.Card

namespace GuardianPi.Backend.WebSocket
open GuardianPi.Library

abbrev Connections (σ : Type*) := AList fun _ : String => Finset σ

section
variable {σ : Type*}

def Connections.start : Connections σ :=
  ⟨[⟨"alerts", ∅⟩, ⟨"devices", ∅⟩, ⟨"telemetry", ∅⟩], by simp [List.NodupKeys, List.keys]⟩

def Connections.get (c : Connections σ) (channel : String) : Finset σ := (c.lookup channel).getD ∅

@[simp] theorem get_start (channel : String) : (Connections.start : Connections σ).get channel = ∅ := by
  unfold Connections.get
  cases known : Connections.start.lookup channel with
  | none => rfl
  | some set =>
      have entry := AList.mem_lookup_iff.mp known
      simp only [Connections.start, List.mem_cons, Sigma.mk.injEq, List.not_mem_nil, or_false] at entry
      rcases entry with ⟨-, empty⟩ | ⟨-, empty⟩ | ⟨-, empty⟩ <;> exact eq_of_heq empty

variable [DecidableEq σ]

def Connections.add (c : Connections σ) (channel : String) (ws : σ) : Connections σ :=
  c.insert channel (insert ws (c.get channel))

def Connections.discard (c : Connections σ) (channel : String) (ws : σ) : Connections σ :=
  (c.lookup channel).elim c fun set => c.insert channel (set.erase ws)

theorem mem_add (c : Connections σ) (channel channel' : String) (ws ws' : σ) :
    ws' ∈ (c.add channel ws).get channel' ↔ channel' = channel ∧ ws' = ws ∨ ws' ∈ c.get channel' := by
  unfold Connections.add Connections.get
  by_cases same : channel' = channel
  · subst same
    simp
  · simp [same]

theorem mem_discard (c : Connections σ) (channel channel' : String) (ws ws' : σ) :
    ws' ∈ (c.discard channel ws).get channel' ↔
      ws' ∈ c.get channel' ∧ ¬ (channel' = channel ∧ ws' = ws) := by
  unfold Connections.discard Connections.get
  by_cases same : channel' = channel
  · subst same
    cases known : c.lookup channel' <;> simp [known, and_comm]
  · cases known : c.lookup channel <;> simp [same]

theorem mem_foldl_discard (dead : List σ) (c : Connections σ) (channel channel' : String) (ws' : σ) :
    ws' ∈ (dead.foldl (fun c ws => c.discard channel ws) c).get channel' ↔
      ws' ∈ c.get channel' ∧ ¬ (channel' = channel ∧ ws' ∈ dead) := by
  induction dead generalizing c with
  | nil => simp
  | cons ws dead ih =>
      rw [List.foldl_cons, ih, mem_discard, List.mem_cons]
      tauto

end

/-! ## Tasks -/

inductive Call (σ μ : Type*) where
  | connect (ws : σ) (channel : String)
  | disconnect (ws : σ) (channel : String)
  | broadcast (channel : String) (message : μ)

/-- What a task waits for. The lock is held over no await, so a task that asks for it gets it. -/
inductive Task (σ μ : Type*) where
  | accept (ws : σ) (channel : String)
  | join (ws : σ) (channel : String)
  | leave (ws : σ) (channel : String)
  | snapshot (channel : String) (message : μ)
  | send (channel : String) (message : μ) (ws : σ) (targets dead : List σ)
  | clean (channel : String) (dead : List σ)
  | finished

def Call.task {σ μ : Type*} : Call σ μ → Task σ μ
  | connect ws channel => .accept ws channel
  | disconnect ws channel => .leave ws channel
  | broadcast channel message => .snapshot channel message

def Task.loop {σ μ : Type*} (channel : String) (message : μ) (dead : List σ) : List σ → Task σ μ
  | ws :: targets => .send channel message ws targets dead
  | [] => if dead.isEmpty then .finished else .clean channel dead

inductive Event (σ τ μ : Type*) where
  | joined (t : τ) (channel : String) (ws : σ)
  | left (t : τ) (channel : String) (ws : σ)
  | snapshot (t : τ) (channel : String) (message : μ) (targets : List σ)
  | attempted (t : τ) (ws : σ) (message : μ)
  | sent (t : τ) (ws : σ) (ok : Bool)
  | dropped (t : τ) (channel : String) (ws : σ)

structure World (σ τ μ : Type*) where
  connections : Connections σ
  tasks : τ → Option (Task σ μ)
  history : List (Event σ τ μ)

def World.start {σ τ μ : Type*} : World σ τ μ := ⟨.start, fun _ => none, []⟩

inductive Label (σ τ μ : Type*) where
  | start (t : τ) (call : Call σ μ)
  | accepted (t : τ) (ok : Bool)
  | locked (t : τ)
  | listed (t : τ) (targets : List σ)
  | sent (t : τ) (ok : Bool)

section
variable {σ τ μ : Type*}

def Label.task : Label σ τ μ → τ
  | start t _ | accepted t _ | locked t | listed t _ | sent t _ => t

def attempt (t : τ) (message : μ) (targets : List σ) : List (Event σ τ μ) :=
  targets.head?.toList.map fun ws => .attempted t ws message

variable [DecidableEq σ] [DecidableEq τ]

/-- The set is listed in any order. -/
def step (w : World σ τ μ) : Label σ τ μ → Option (World σ τ μ)
  | .start t call =>
      if (w.tasks t).isNone then some { w with tasks := Function.update w.tasks t (some call.task) } else none
  | .accepted t ok =>
      match w.tasks t with
      | some (.accept ws channel) =>
          some { w with tasks := Function.update w.tasks t (some (if ok then .join ws channel else .finished)) }
      | _ => none
  | .locked t =>
      match w.tasks t with
      | some (.join ws channel) => some
          ⟨w.connections.add channel ws, Function.update w.tasks t (some .finished),
            w.history ++ [.joined t channel ws]⟩
      | some (.leave ws channel) => some
          ⟨w.connections.discard channel ws, Function.update w.tasks t (some .finished),
            w.history ++ [.left t channel ws]⟩
      | some (.clean channel dead) => some
          ⟨dead.foldl (fun c ws => c.discard channel ws) w.connections,
            Function.update w.tasks t (some .finished), w.history ++ dead.map (.dropped t channel)⟩
      | _ => none
  | .listed t targets =>
      match w.tasks t with
      | some (.snapshot channel message) =>
          if targets.Nodup ∧ targets.toFinset = w.connections.get channel then some
            { w with
              tasks := Function.update w.tasks t (some (.loop channel message [] targets))
              history := w.history ++ (.snapshot t channel message targets :: attempt t message targets) }
          else none
      | _ => none
  | .sent t ok =>
      match w.tasks t with
      | some (.send channel message ws targets dead) =>
          let dead := if ok then dead else dead ++ [ws]
          some { w with
            tasks := Function.update w.tasks t (some (.loop channel message dead targets))
            history := w.history ++ (.sent t ws ok :: attempt t message targets) }
      | _ => none

/-- The call that a schedule starts a task with. -/
def called (t : τ) (schedule : List (Label σ τ μ)) : Option (Call σ μ) :=
  schedule.findSome? fun
    | .start t' call => if t' = t then some call else none
    | _ => none

/-- What the `accept` of a task came to. -/
def accepted (t : τ) (schedule : List (Label σ τ μ)) : Option Bool :=
  schedule.findSome? fun
    | .accepted t' ok => if t' = t then some ok else none
    | _ => none

end

/-! ## What a call does -/

section
variable {σ τ μ : Type*}

def Event.task : Event σ τ μ → τ
  | joined t _ _ | left t _ _ | snapshot t _ _ _ | attempted t _ _ | sent t _ _ | dropped t _ _ => t

def exchange (t : τ) (message : μ) (answers : List (σ × Bool)) : List (Event σ τ μ) :=
  answers.flatMap fun a => [.attempted t a.1 message, .sent t a.1 a.2]

def failures (answers : List (σ × Bool)) : List σ := (answers.filter fun a => !a.2).map Prod.fst

def Loop (t : τ) (channel : String) (message : μ) (answers : List (σ × Bool)) (targets : List σ)
    (events : List (Event σ τ μ)) : Prop :=
  (answers.map Prod.fst ++ targets).Nodup ∧
    events = .snapshot t channel message (answers.map Prod.fst ++ targets) ::
      (exchange t message answers ++ attempt t message targets)

/-- All that a finished task has done: an accepted `connect` joined, a `disconnect` left, a
`broadcast` took one snapshot of its channel, sent its message to each target and dropped those
whose send failed. -/
def Done (t : τ) (accepted : Option Bool) (events : List (Event σ τ μ)) : Call σ μ → Prop
  | .connect ws channel =>
      accepted = some true ∧ events = [.joined t channel ws] ∨ accepted = some false ∧ events = []
  | .disconnect ws channel => events = [.left t channel ws]
  | .broadcast channel message => ∃ answers loop, Loop t channel message answers [] loop ∧
      events = loop ++ (failures answers).map (.dropped t channel)

def Form (t : τ) (call : Option (Call σ μ)) (accepted : Option Bool) (events : List (Event σ τ μ)) :
    Option (Task σ μ) → Prop
  | none => call = none ∧ accepted = none ∧ events = []
  | some (.accept ws channel) => call = some (.connect ws channel) ∧ accepted = none ∧ events = []
  | some (.join ws channel) => call = some (.connect ws channel) ∧ accepted = some true ∧ events = []
  | some (.leave ws channel) => call = some (.disconnect ws channel) ∧ events = []
  | some (.snapshot channel message) => call = some (.broadcast channel message) ∧ events = []
  | some (.send channel message ws targets dead) => call = some (.broadcast channel message) ∧
      ∃ answers, Loop t channel message answers (ws :: targets) events ∧ dead = failures answers
  | some (.clean channel dead) => ∃ message, call = some (.broadcast channel message) ∧
      ∃ answers, Loop t channel message answers [] events ∧ dead = failures answers
  | some .finished => ∃ c, call = some c ∧ Done t accepted events c

def Call.Makes : Call σ μ → Event σ τ μ → Prop
  | .connect ws channel, .joined _ channel' ws' => channel' = channel ∧ ws' = ws
  | .disconnect ws channel, .left _ channel' ws' => channel' = channel ∧ ws' = ws
  | .broadcast channel message, .snapshot _ channel' message' _ => channel' = channel ∧ message' = message
  | .broadcast _ message, .attempted _ _ message' => message' = message
  | .broadcast _ _, .sent _ _ _ => True
  | .broadcast channel _, .dropped _ channel' _ => channel' = channel
  | _, _ => False

variable {t t' : τ} {channel : String} {message : μ} {ws : σ} {targets dead : List σ}
  {call : Option (Call σ μ)} {answer : Option Bool} {answers : List (σ × Bool)}
  {events history : List (Event σ τ μ)} {w w' : World σ τ μ}

theorem task_of_mem_attempt {e : Event σ τ μ} (here : e ∈ attempt t message targets) : e.task = t := by
  cases targets with
  | nil => simp [attempt] at here
  | cons ws targets =>
      obtain rfl : e = _ := by simpa [attempt] using here
      rfl

theorem Loop.sent (loop : Loop t channel message answers (ws :: targets) events) (ok : Bool) :
    Loop t channel message (answers ++ [(ws, ok)]) targets
      (events ++ .sent t ws ok :: attempt t message targets) := by
  obtain ⟨distinct, rfl⟩ := loop
  constructor
  · simpa using distinct
  · simp [exchange, attempt]

theorem failures_append (answers : List (σ × Bool)) (ws : σ) (ok : Bool) :
    failures (answers ++ [(ws, ok)]) = if ok then failures answers else failures answers ++ [ws] := by
  cases ok <;> simp [failures]

theorem Loop.form (loop : Loop t channel message answers targets events)
    (asked : call = some (.broadcast channel message)) :
    Form t call answer events (some (.loop channel message (failures answers) targets)) := by
  cases targets with
  | cons ws targets => exact ⟨asked, answers, loop, rfl⟩
  | nil =>
      by_cases none : failures answers = []
      · simp only [Task.loop, none, List.isEmpty_nil, if_true]
        exact ⟨_, asked, answers, events, loop, by simp [none]⟩
      · simp only [Task.loop, List.isEmpty_iff, none, if_false]
        exact ⟨message, asked, answers, loop, rfl⟩

theorem Loop.makes (loop : Loop t channel message answers targets events) :
    ∀ e ∈ events, (Call.broadcast channel message).Makes e := by
  obtain ⟨-, rfl⟩ := loop
  intro e here
  rcases List.mem_cons.mp here with rfl | later
  · exact ⟨rfl, rfl⟩
  · rcases List.mem_append.mp later with answered | tried
    · obtain ⟨a, -, here⟩ := List.mem_flatMap.mp answered
      simp only [List.mem_cons, List.not_mem_nil, or_false] at here
      obtain rfl | rfl := here
      · rfl
      · trivial
    · cases targets with
      | nil => simp [attempt] at tried
      | cons ws targets =>
          obtain rfl : e = _ := by simpa [attempt] using tried
          rfl

theorem Done.makes {c : Call σ μ} (done : Done t answer events c) : ∀ e ∈ events, c.Makes e := by
  cases c with
  | connect ws channel =>
      rcases done with ⟨-, rfl⟩ | ⟨-, rfl⟩ <;> simp [Call.Makes]
  | disconnect ws channel =>
      obtain rfl := done
      simp [Call.Makes]
  | broadcast channel message =>
      obtain ⟨answers, loop, looped, rfl⟩ := done
      rw [List.forall_mem_append]
      refine ⟨looped.makes, ?_⟩
      intro e here
      obtain ⟨ws, -, rfl⟩ := List.mem_map.mp here
      rfl

theorem Form.makes {task : Option (Task σ μ)} (form : Form t call answer events task) :
    ∀ e ∈ events, ∃ c, call = some c ∧ c.Makes e := by
  intro e here
  match task, form with
  | some (.send _ _ _ _ _), ⟨asked, _, loop, _⟩ => exact ⟨_, asked, loop.makes e here⟩
  | some (.clean _ _), ⟨_, asked, _, loop, _⟩ => exact ⟨_, asked, loop.makes e here⟩
  | some .finished, ⟨c, asked, done⟩ => exact ⟨c, asked, done.makes e here⟩
  | none, ⟨_, _, silent⟩ | some (.accept _ _), ⟨_, _, silent⟩ | some (.join _ _), ⟨_, _, silent⟩
  | some (.leave _ _), ⟨_, silent⟩ | some (.snapshot _ _), ⟨_, silent⟩ =>
      rw [silent] at here
      cases here

theorem snapshot_mem_loop (loop : Loop t channel message answers targets events) {channel' : String}
    {message' : μ} {all : List σ} (here : .snapshot t channel' message' all ∈ events) :
    message' = message ∧ all = answers.map Prod.fst ++ targets := by
  obtain ⟨-, rfl⟩ := loop
  rcases List.mem_cons.mp here with first | later
  · cases first
    exact ⟨rfl, rfl⟩
  · cases targets <;> simp [exchange, attempt] at later

theorem dropped_not_mem_loop (loop : Loop t channel message answers targets events) (channel' : String)
    (ws : σ) : .dropped t channel' ws ∉ events := by
  obtain ⟨-, rfl⟩ := loop
  cases targets <;> simp [exchange, attempt]

theorem sent_mem_loop (loop : Loop t channel message answers targets events) (ws : σ) (ok : Bool) :
    .sent t ws ok ∈ events ↔ (ws, ok) ∈ answers := by
  obtain ⟨-, rfl⟩ := loop
  cases targets <;> simp [exchange, attempt]

variable [DecidableEq τ]

def attempts (t : τ) (history : List (Event σ τ μ)) : List (σ × μ) :=
  history.filterMap fun
    | .attempted t' ws message => if t' = t then some (ws, message) else none
    | _ => none

theorem attempts_append : attempts t (history ++ events) = attempts t history ++ attempts t events :=
  List.filterMap_append ..

theorem attempts_exchange (answers : List (σ × Bool)) :
    attempts t (exchange t message answers) = answers.map fun a => (a.1, message) := by
  induction answers with
  | nil => rfl
  | cons a answers ih =>
      have first : exchange t message (a :: answers) =
          [.attempted t a.1 message, .sent t a.1 a.2] ++ exchange t message answers := rfl
      rw [first, attempts_append, ih]
      simp [attempts]

theorem Loop.attempts (loop : Loop t channel message answers targets events) :
    attempts t events ++ targets.tail.map (fun ws => (ws, message)) =
      (answers.map Prod.fst ++ targets).map fun ws => (ws, message) := by
  obtain ⟨-, rfl⟩ := loop
  have skip : WebSocket.attempts t (.snapshot t channel message (answers.map Prod.fst ++ targets) ::
      (exchange t message answers ++ attempt t message targets)) =
        WebSocket.attempts t (exchange t message answers ++ attempt t message targets) := rfl
  rw [skip, attempts_append, attempts_exchange]
  cases targets <;> simp [attempt, WebSocket.attempts]

def own (t : τ) (history : List (Event σ τ μ)) : List (Event σ τ μ) :=
  history.filter fun e => e.task = t

theorem own_append : own t (history ++ events) = own t history ++ own t events := List.filter_append ..

theorem own_of_all (mine : ∀ e ∈ events, e.task = t) : own t events = events := by
  simpa [own, List.filter_eq_self] using mine

theorem own_of_none (others : ∀ e ∈ events, e.task ≠ t) : own t events = [] := by
  simpa [own, List.filter_eq_nil_iff] using others

theorem mem_own {e : Event σ τ μ} : e ∈ own t history ↔ e ∈ history ∧ e.task = t := by
  simp [own]

theorem attempts_own : attempts t (own t history) = attempts t history := by
  unfold attempts own
  rw [List.filterMap_filter]
  refine List.filterMap_congr fun e _ => ?_
  by_cases mine : e.task = t
  · rw [if_pos (decide_eq_true mine)]
  · rw [if_neg (by simpa using mine)]
    cases e <;> first | rfl | exact (if_neg mine).symm

/-! ## What the schedule says of a task -/

variable {schedule : List (Label σ τ μ)} {label : Label σ τ μ}

theorem called_start {c : Call σ μ} (fresh : called t schedule = none) :
    called t (schedule ++ [.start t c]) = some c := by
  rw [called, List.findSome?_append]
  rw [called] at fresh
  simp [fresh]

theorem accepted_accepted {ok : Bool} (fresh : accepted t schedule = none) :
    accepted t (schedule ++ [.accepted t ok]) = some ok := by
  rw [accepted, List.findSome?_append]
  rw [accepted] at fresh
  simp [fresh]

theorem called_of_not_start (other : ∀ c, label ≠ .start t c) :
    called t (schedule ++ [label]) = called t schedule := by
  rw [called, List.findSome?_append]
  cases label <;> simp_all [called]

theorem accepted_of_not_accepted (other : ∀ ok, label ≠ .accepted t ok) :
    accepted t (schedule ++ [label]) = accepted t schedule := by
  rw [accepted, List.findSome?_append]
  cases label <;> simp_all [accepted]

theorem forms_step {new : Task σ μ} (mine : label.task = t)
    (forms : ∀ t', Form t' (called t' schedule) (accepted t' schedule) (own t' history) (w.tasks t'))
    (made : ∀ e ∈ events, e.task = t)
    (form : Form t (called t (schedule ++ [label])) (accepted t (schedule ++ [label]))
      (own t history ++ events) (some new)) (t' : τ) :
    Form t' (called t' (schedule ++ [label])) (accepted t' (schedule ++ [label]))
      (own t' (history ++ events)) (Function.update w.tasks t (some new) t') := by
  rw [own_append]
  by_cases same : t' = t
  · subst t'
    rwa [Function.update_self, own_of_all made]
  · have others : own t' events = [] := own_of_none fun e here => by rw [made e here]; exact Ne.symm same
    have call : called t' (schedule ++ [label]) = called t' schedule :=
      called_of_not_start fun c start => same (by rw [← mine, start]; rfl)
    have answer : accepted t' (schedule ++ [label]) = accepted t' schedule :=
      accepted_of_not_accepted fun ok start => same (by rw [← mine, start]; rfl)
    rw [Function.update_of_ne same, others, List.append_nil, call, answer]
    exact forms t'

end

/-! ## Every schedule -/

section
variable {σ τ μ : Type*}

def Removes (channel : String) (ws : σ) (e : Event σ τ μ) : Prop :=
  ∃ t, e = .left t channel ws ∨ e = .dropped t channel ws

def Member (channel : String) (ws : σ) : List (Event σ τ μ) → Prop :=
  Since (fun e => ∃ t, e = .joined t channel ws) (Removes channel ws)

def Lists (past : List (Event σ τ μ)) : Event σ τ μ → Prop
  | .snapshot _ channel _ targets => ∀ ws, ws ∈ targets ↔ Member channel ws past
  | _ => True

variable {t : τ} {channel : String} {message : μ} {ws : σ} {targets : List σ}
  {events history : List (Event σ τ μ)} {w w' : World σ τ μ} {schedule : List (Label σ τ μ)}
  {label : Label σ τ μ}

def Idle (e : Event σ τ μ) : Prop :=
  ∀ channel ws, (¬ ∃ t, e = .joined t channel ws) ∧ ¬ Removes channel ws e

theorem member_append (idle : ∀ e ∈ events, Idle e) (channel : String) (ws : σ) :
    Member channel ws (history ++ events) ↔ Member channel ws history := by
  rw [Member, since_append fun e here => (idle e here channel ws).1]
  exact and_iff_left fun e here => (idle e here channel ws).2

theorem idle_of_mem_attempt {e : Event σ τ μ} (here : e ∈ attempt t message targets) : Idle e := by
  cases targets with
  | nil => simp [attempt] at here
  | cons target targets =>
      obtain rfl : e = _ := by simpa [attempt] using here
      simp [Idle, Removes]

theorem attempt_lists {past : List (Event σ τ μ)} {e : Event σ τ μ} (here : e ∈ attempt t message targets) :
    Lists past e := by
  cases targets with
  | nil => simp [attempt] at here
  | cons target targets =>
      obtain rfl : e = _ := by simpa [attempt] using here
      trivial

variable [DecidableEq τ]

structure Sound (schedule : List (Label σ τ μ)) (w : World σ τ μ) : Prop where
  members : ∀ channel ws, ws ∈ w.connections.get channel ↔ Member channel ws w.history
  lists : Each Lists w.history
  forms : ∀ t, Form t (called t schedule) (accepted t schedule) (own t w.history) (w.tasks t)

theorem sound_start : Sound [] (.start : World σ τ μ) where
  members channel ws := by simp [World.start, Member, not_since_nil]
  lists := each_nil
  forms t := ⟨rfl, rfl, rfl⟩

theorem Sound.quiet {new : Task σ μ} (sound : Sound schedule w) (mine : label.task = t)
    (form : Form t (called t (schedule ++ [label])) (accepted t (schedule ++ [label])) (own t w.history)
      (some new)) :
    Sound (schedule ++ [label]) { w with tasks := Function.update w.tasks t (some new) } := by
  refine ⟨sound.members, sound.lists, ?_⟩
  have forms := forms_step mine sound.forms (List.forall_mem_nil _) (by simpa using form)
  rwa [List.append_nil] at forms

theorem Sound.sends {e : Event σ τ μ} {answers : List (σ × Bool)} (sound : Sound schedule w)
    (mine : label.task = t) (asked : called t (schedule ++ [label]) = some (.broadcast channel message))
    (made : e.task = t) (idle : Idle e) (lists : Lists w.history e)
    (loop : Loop t channel message answers targets (own t w.history ++ e :: attempt t message targets)) :
    Sound (schedule ++ [label]) { w with
      tasks := Function.update w.tasks t (some (.loop channel message (failures answers) targets))
      history := w.history ++ e :: attempt t message targets } := by
  have all : ∀ e' ∈ e :: attempt t message targets, e'.task = t :=
    List.forall_mem_cons.mpr ⟨made, fun _ => task_of_mem_attempt⟩
  refine ⟨fun channel' ws => ?_, ?_, forms_step mine sound.forms all (loop.form asked)⟩
  · rw [sound.members, member_append (List.forall_mem_cons.mpr ⟨idle, fun _ => idle_of_mem_attempt⟩)]
  · rw [List.append_cons]
    exact (each_concat.mpr ⟨sound.lists, lists⟩).append fun _ _ => attempt_lists

theorem called_kept {c : Call σ μ} (asked : called t schedule = some c) (old : ∀ c, label ≠ .start t c) :
    called t (schedule ++ [label]) = some c :=
  (called_of_not_start old).trans asked

variable [DecidableEq σ]

theorem Sound.locked (sound : Sound schedule w) (next : step w (.locked t) = some w') :
    Sound (schedule ++ [.locked t]) w' := by
  have call : called t (schedule ++ [.locked t]) = called t schedule := called_of_not_start (by simp)
  have answer : accepted t (schedule ++ [.locked t]) = accepted t schedule :=
    accepted_of_not_accepted (by simp)
  simp only [step] at next
  split at next
  case h_1 ws channel waits =>
    obtain rfl := Option.some.inj next
    have before := sound.forms t
    rw [waits] at before
    obtain ⟨asked, ok, silent⟩ := before
    refine ⟨fun channel' ws' => ?_, each_concat.mpr ⟨sound.lists, trivial⟩,
      forms_step rfl sound.forms (by simp [Event.task]) ⟨_, call.trans asked, .inl ?_⟩⟩
    · rw [mem_add, sound.members, Member, since_concat]
      simp [Removes, eq_comm]
    · rw [answer, silent]
      exact ⟨ok, rfl⟩
  case h_2 ws channel waits =>
    obtain rfl := Option.some.inj next
    have before := sound.forms t
    rw [waits] at before
    obtain ⟨asked, silent⟩ := before
    refine ⟨fun channel' ws' => ?_, each_concat.mpr ⟨sound.lists, trivial⟩,
      forms_step rfl sound.forms (by simp [Event.task]) ⟨_, call.trans asked, ?_⟩⟩
    · rw [mem_discard, sound.members, Member, since_concat]
      simp [Removes, eq_comm]
    · rw [silent]
      rfl
  case h_3 channel dead waits =>
    obtain rfl := Option.some.inj next
    have before := sound.forms t
    rw [waits] at before
    obtain ⟨message, asked, answers, loop, rfl⟩ := before
    refine ⟨fun channel' ws' => ?_, ?_, forms_step rfl sound.forms (by simp [Event.task])
      ⟨_, call.trans asked, answers, _, loop, rfl⟩⟩
    · rw [mem_foldl_discard, sound.members, Member, since_append (by simp), List.forall_mem_map]
      refine and_congr_right' ⟨fun stays x here removed => ?_, fun stays removed => ?_⟩
      · obtain ⟨rfl, rfl⟩ : channel = channel' ∧ x = ws' := by simpa [Removes] using removed
        exact stays ⟨rfl, here⟩
      · obtain ⟨rfl, here⟩ := removed
        exact stays ws' here ⟨t, .inr rfl⟩
    · exact sound.lists.append (by simp [Lists])
  case h_4 => cases next

theorem Sound.step (sound : Sound schedule w) (next : step w label = some w') :
    Sound (schedule ++ [label]) w' := by
  cases label with
  | start t call =>
      simp only [WebSocket.step] at next
      split_ifs at next with free
      obtain rfl := Option.some.inj next
      have before := sound.forms t
      rw [Option.isNone_iff_eq_none.mp free] at before
      obtain ⟨fresh, unanswered, silent⟩ := before
      have answer : accepted t (schedule ++ [.start t call]) = none :=
        (accepted_of_not_accepted (by simp)).trans unanswered
      apply sound.quiet rfl
      cases call with
      | connect => exact ⟨called_start fresh, answer, silent⟩
      | disconnect | broadcast => exact ⟨called_start fresh, silent⟩
  | accepted t ok =>
      simp only [WebSocket.step] at next
      split at next
      case h_1 ws channel waits =>
        obtain rfl := Option.some.inj next
        have before := sound.forms t
        rw [waits] at before
        obtain ⟨asked, unanswered, silent⟩ := before
        have kept : called t (schedule ++ [.accepted t ok]) = some (.connect ws channel) :=
          called_kept asked (by simp)
        have answer : accepted t (schedule ++ [.accepted t ok]) = some ok := accepted_accepted unanswered
        apply sound.quiet rfl
        cases ok
        · exact ⟨_, kept, .inr ⟨answer, silent⟩⟩
        · exact ⟨kept, answer, silent⟩
      case h_2 => cases next
  | locked t => exact sound.locked next
  | listed t targets =>
      simp only [WebSocket.step] at next
      split at next
      case h_1 channel message waits =>
        split_ifs at next with all
        obtain rfl := Option.some.inj next
        obtain ⟨distinct, all⟩ := all
        have before := sound.forms t
        rw [waits] at before
        obtain ⟨asked, silent⟩ := before
        have loop : Loop t channel message [] targets
            (own t w.history ++ .snapshot t channel message targets :: attempt t message targets) := by
          rw [silent]
          exact ⟨distinct, rfl⟩
        have lists : Lists w.history (.snapshot t channel message targets) := by
          intro ws
          rw [← sound.members, ← all, List.mem_toFinset]
        exact sound.sends (t := t) rfl (called_kept asked (by simp)) rfl (by simp [Idle, Removes]) lists loop
      case h_2 => cases next
  | sent t ok =>
      simp only [WebSocket.step] at next
      split at next
      case h_1 channel message ws targets dead waits =>
        obtain rfl := Option.some.inj next
        have before := sound.forms t
        rw [waits] at before
        obtain ⟨asked, answers, loop, rfl⟩ := before
        rw [← failures_append answers ws ok]
        exact sound.sends (t := t) rfl (called_kept asked (by simp)) rfl (by simp [Idle, Removes]) trivial
          (loop.sent ok)
      case h_2 => cases next

/-! ## What is exact -/

omit [DecidableEq τ] [DecidableEq σ] in
theorem nodup_answers {answers : List (σ × Bool)} (distinct : (answers.map Prod.fst).Nodup)
    (failed : (ws, false) ∈ answers) : (ws, true) ∉ answers := by
  intro succeeded
  have same := List.inj_on_of_nodup_map distinct failed succeeded rfl
  cases same

def unsent : Option (Task σ μ) → List σ
  | some (.send _ _ _ targets _) => targets
  | _ => []

omit [DecidableEq τ] [DecidableEq σ] in
theorem Form.loop {task : Option (Task σ μ)} {call : Option (Call σ μ)} {answer : Option Bool}
    (form : Form t call answer events task) (asked : call = some (.broadcast channel message))
    (begun : events ≠ []) :
    ∃ answers targets loop, Loop t channel message answers targets loop ∧ targets.tail = unsent task ∧
      (events = loop ∨ events = loop ++ (failures answers).map (.dropped t channel)) := by
  match task, form with
  | some (.send _ _ ws targets _), ⟨asked', answers, loop, _⟩ =>
      cases asked.symm.trans asked'
      exact ⟨answers, ws :: targets, events, loop, rfl, .inl rfl⟩
  | some (.clean _ _), ⟨_, asked', answers, loop, _⟩ =>
      cases asked.symm.trans asked'
      exact ⟨answers, [], events, loop, rfl, .inl rfl⟩
  | some .finished, ⟨_, asked', done⟩ =>
      cases asked.symm.trans asked'
      obtain ⟨answers, loop, looped, split⟩ := done
      exact ⟨answers, [], loop, looped, rfl, .inr split⟩
  | none, ⟨_, _, silent⟩ | some (.accept _ _), ⟨_, _, silent⟩ | some (.join _ _), ⟨_, _, silent⟩
  | some (.leave _ _), ⟨_, silent⟩ | some (.snapshot _ _), ⟨_, silent⟩ => exact absurd silent begun

def Label.answer : Label σ τ μ → Option Bool
  | accepted _ ok | sent _ ok => some ok
  | _ => none

def Ends (t : τ) (w : World σ τ μ) : Prop := ∀ answers : Nat → Bool, ∃ more w',
  (∀ label ∈ more, label.task = t) ∧
    (∃ n, more.filterMap Label.answer = (List.range n).map answers) ∧
    run step w more = some w' ∧ w'.tasks t = some .finished

structure Exact (schedule : List (Label σ τ μ)) (w : World σ τ μ) : Prop where
  members : ∀ channel ws, ws ∈ w.connections.get channel ↔ Member channel ws w.history
  lists : Each Lists w.history
  made : ∀ e ∈ w.history, ∃ call, called e.task schedule = some call ∧ call.Makes e
  done : ∀ t call, called t schedule = some call → w.tasks t = some .finished →
    Done t (accepted t schedule) (own t w.history) call
  once : ∀ t channel message targets, .snapshot t channel message targets ∈ w.history → targets.Nodup ∧
    attempts t w.history ++ (unsent (w.tasks t)).map (fun ws => (ws, message)) =
      targets.map fun ws => (ws, message)
  kept : ∀ t channel ws, .dropped t channel ws ∈ w.history →
    .sent t ws false ∈ w.history ∧ .sent t ws true ∉ w.history
  apart : ∀ label w', step w label = some w' → ∀ t, t ≠ label.task → w'.tasks t = w.tasks t
  ends : ∀ t call, called t schedule = some call → Ends t w

omit [DecidableEq σ] in
theorem Sound.made (sound : Sound schedule w) {e : Event σ τ μ} (here : e ∈ w.history) :
    ∃ call, called e.task schedule = some call ∧ call.Makes e :=
  (sound.forms e.task).makes e (mem_own.mpr ⟨here, rfl⟩)

omit [DecidableEq σ] in
theorem Sound.done (sound : Sound schedule w) {call : Call σ μ} (asked : called t schedule = some call)
    (finished : w.tasks t = some .finished) : Done t (accepted t schedule) (own t w.history) call := by
  have form := sound.forms t
  rw [finished] at form
  obtain ⟨call', asked', done⟩ := form
  cases asked.symm.trans asked'
  exact done

omit [DecidableEq σ] in
theorem Sound.once (sound : Sound schedule w) (here : .snapshot t channel message targets ∈ w.history) :
    targets.Nodup ∧ attempts t w.history ++ (unsent (w.tasks t)).map (fun ws => (ws, message)) =
      targets.map fun ws => (ws, message) := by
  have mine : .snapshot t channel message targets ∈ own t w.history := mem_own.mpr ⟨here, rfl⟩
  obtain ⟨call, asked, makes⟩ := sound.made here
  cases call with
  | connect | disconnect => exact absurd makes id
  | broadcast channel' message' =>
      obtain ⟨answers, later, loop, looped, rest, split⟩ :=
        (sound.forms t).loop asked (List.ne_nil_of_mem mine)
      have begun : .snapshot t channel message targets ∈ loop := by
        rcases split with same | same <;> simpa [same] using mine
      have tried : attempts t (own t w.history) = attempts t loop := by
        rcases split with same | same
        · rw [same]
        · rw [same, attempts_append]
          simp [attempts]
      obtain ⟨rfl, rfl⟩ := snapshot_mem_loop looped begun
      rw [← attempts_own, tried, ← rest]
      exact ⟨looped.1, looped.attempts⟩

omit [DecidableEq σ] in
theorem Sound.kept (sound : Sound schedule w) (here : .dropped t channel ws ∈ w.history) :
    .sent t ws false ∈ w.history ∧ .sent t ws true ∉ w.history := by
  have mine : .dropped t channel ws ∈ own t w.history := mem_own.mpr ⟨here, rfl⟩
  obtain ⟨call, asked, makes⟩ := sound.made here
  cases call with
  | connect | disconnect => exact absurd makes id
  | broadcast channel' message' =>
      obtain ⟨answers, later, loop, looped, rest, split⟩ :=
        (sound.forms t).loop asked (List.ne_nil_of_mem mine)
      have outside := dropped_not_mem_loop looped channel ws
      have failed : (ws, false) ∈ answers := by
        rcases split with same | same
        · exact absurd (same ▸ mine) outside
        · rw [same, List.mem_append] at mine
          obtain ⟨_, failure, same⟩ := List.mem_map.mp (mine.resolve_left outside)
          cases same
          simpa [failures] using failure
      have sent_iff : ∀ ok, .sent t ws ok ∈ w.history ↔ (ws, ok) ∈ answers := by
        intro ok
        rw [← sent_mem_loop looped]
        have own_iff : .sent t ws ok ∈ own t w.history ↔ .sent t ws ok ∈ w.history := by
          simp [mem_own, Event.task]
        rw [← own_iff]
        rcases split with same | same <;> simp [same]
      rw [sent_iff, sent_iff]
      exact ⟨failed, nodup_answers (List.nodup_append.mp looped.1).1 failed⟩

theorem step_apart (next : step w label = some w') (other : t ≠ label.task) :
    w'.tasks t = w.tasks t := by
  cases label <;> simp only [step] at next
  case start =>
    split_ifs at next
    cases next
    exact Function.update_of_ne other ..
  case accepted | sent =>
    split at next <;> cases next
    exact Function.update_of_ne other ..
  case locked =>
    split at next <;> cases next <;> exact Function.update_of_ne other ..
  case listed =>
    split at next
    · split_ifs at next
      cases next
      exact Function.update_of_ne other ..
    · cases next

/-! ## Every task can end -/

theorem step_accepted (ok : Bool) (waits : w.tasks t = some (.accept ws channel)) :
    ∃ w', step w (.accepted t ok) = some w' ∧
      w'.tasks t = some (if ok then .join ws channel else .finished) := by
  simp only [step, waits, Option.some.injEq, exists_eq_left', Function.update_self]

theorem step_listed (waits : w.tasks t = some (.snapshot channel message)) :
    ∃ w', step w (.listed t (w.connections.get channel).toList) = some w' ∧
      w'.tasks t = some (.loop channel message [] (w.connections.get channel).toList) := by
  simp only [step, waits, Finset.nodup_toList, Finset.toList_toFinset, and_self, if_true,
    Option.some.injEq, exists_eq_left', Function.update_self]

theorem step_sent {dead : List σ} (ok : Bool) (waits : w.tasks t = some (.send channel message ws targets dead)) :
    ∃ w', step w (.sent t ok) = some w' ∧
      w'.tasks t = some (.loop channel message (if ok then dead else dead ++ [ws]) targets) := by
  simp only [step, waits, Option.some.injEq, exists_eq_left', Function.update_self]

def Task.AsksLock : Task σ μ → Prop
  | join _ _ | leave _ _ | clean _ _ => True
  | _ => False

theorem step_locked {task : Task σ μ} (waits : w.tasks t = some task) (asks : task.AsksLock) :
    ∃ w', step w (.locked t) = some w' ∧ w'.tasks t = some .finished := by
  cases task with
  | join | leave | clean =>
      simp only [step, waits, Option.some.injEq, exists_eq_left', Function.update_self]
  | accept | snapshot | send | finished => exact absurd asks id

theorem ends_of_finished (finished : w.tasks t = some .finished) : Ends t w := by
  intro answers
  exact ⟨[], w, by simp, ⟨0, rfl⟩, rfl, finished⟩

theorem ends_of_asksLock (task : Task σ μ) (waits : w.tasks t = some task) (asks : task.AsksLock) :
    Ends t w := by
  intro answers
  obtain ⟨w', next, finished⟩ := step_locked waits asks
  exact ⟨[.locked t], w', by simp [Label.task], ⟨0, rfl⟩, run_cons_eq_some.mpr ⟨w', next, rfl⟩, finished⟩

theorem Ends.cons (next : step w label = some w') (mine : label.task = t) (silent : label.answer = none)
    (ends : Ends t w') : Ends t w := by
  intro answers
  obtain ⟨more, last, own, ⟨n, given⟩, taken, finished⟩ := ends answers
  refine ⟨label :: more, last, List.forall_mem_cons.mpr ⟨mine, own⟩, ⟨n, ?_⟩,
    run_cons_eq_some.mpr ⟨w', next, taken⟩, finished⟩
  rwa [List.filterMap_cons_none silent]

theorem ends_of_answers (next : ∀ ok, ∃ label w', label.task = t ∧ label.answer = some ok ∧
    step w label = some w' ∧ Ends t w') : Ends t w := by
  intro answers
  obtain ⟨label, w', mine, answer, next, ends⟩ := next (answers 0)
  obtain ⟨more, last, own, ⟨n, given⟩, taken, finished⟩ := ends fun k => answers (k + 1)
  refine ⟨label :: more, last, List.forall_mem_cons.mpr ⟨mine, own⟩, ⟨n + 1, ?_⟩,
    run_cons_eq_some.mpr ⟨w', next, taken⟩, finished⟩
  rw [List.filterMap_cons_some answer, given, List.range_succ_eq_map, List.map_cons, List.map_map]
  rfl

theorem ends_of_loop (targets : List σ) {dead : List σ}
    (waits : w.tasks t = some (.loop channel message dead targets)) :
    Ends t w := by
  induction targets generalizing w dead with
  | nil =>
      by_cases clean : dead = []
      · exact ends_of_finished (by simpa [Task.loop, clean] using waits)
      · exact ends_of_asksLock (.clean channel dead) (by simpa [Task.loop, clean] using waits) trivial
  | cons ws targets ih =>
      apply ends_of_answers
      intro ok
      obtain ⟨w', next, waits⟩ := step_sent ok waits
      exact ⟨.sent t ok, w', rfl, rfl, next, ih waits⟩

theorem ends_of_task {task : Task σ μ} (waits : w.tasks t = some task) : Ends t w := by
  cases task with
  | accept ws channel =>
      apply ends_of_answers
      intro ok
      obtain ⟨w', next, waits⟩ := step_accepted ok waits
      refine ⟨.accepted t ok, w', rfl, rfl, next, ?_⟩
      cases ok
      · exact ends_of_finished waits
      · exact ends_of_asksLock (.join ws channel) waits trivial
  | join ws channel | leave ws channel | clean channel dead => exact ends_of_asksLock _ waits trivial
  | snapshot channel message =>
      obtain ⟨w', next, waits⟩ := step_listed waits
      exact Ends.cons next rfl rfl (ends_of_loop _ waits)
  | send channel message ws targets dead => exact ends_of_loop (ws :: targets) waits
  | finished => exact ends_of_finished waits

omit [DecidableEq σ] in
theorem Sound.begun (sound : Sound schedule w) {call : Call σ μ} (asked : called t schedule = some call) :
    ∃ task, w.tasks t = some task := by
  have form := sound.forms t
  cases here : w.tasks t with
  | some task => exact ⟨task, rfl⟩
  | none =>
      rw [here] at form
      cases asked.symm.trans form.1

theorem pool_exact (schedule : List (Label σ τ μ)) (taken : run step .start schedule = some w) :
    Exact schedule w := by
  have sound : Sound schedule w :=
    run_invariant sound_start (fun _ _ _ _ sound next => sound.step next) taken
  refine ⟨sound.members, sound.lists, fun e => sound.made, fun t call => sound.done,
    fun t channel message targets => sound.once, fun t channel ws => sound.kept,
    fun label w' next t => step_apart next, fun t call asked => ?_⟩
  obtain ⟨task, waits⟩ := sound.begun asked
  exact ends_of_task waits

end

/-- Three sockets join; in a broadcast the send to the first fails and the second leaves meanwhile. -/
def deadSocket : List (Label Nat Nat String) :=
  [.start 0 (.connect 0 "alerts"), .start 1 (.connect 1 "alerts"), .start 4 (.connect 4 "alerts"),
    .accepted 1 true, .accepted 0 true, .locked 1, .locked 0, .accepted 4 true, .locked 4,
    .start 2 (.broadcast "alerts" "new_alert"), .listed 2 [0, 4, 1], .sent 2 false,
    .start 3 (.disconnect 1 "alerts"), .locked 3, .sent 2 true, .sent 2 true, .locked 2]

theorem deadSocket_exact : ∃ w, run step .start deadSocket = some w ∧ Exact deadSocket w ∧
    w.connections.get "alerts" = {4} ∧ attempts 2 w.history = [0, 4, 1].map fun ws => (ws, "new_alert") :=
  ⟨_, rfl, pool_exact deadSocket rfl, rfl, rfl⟩

end GuardianPi.Backend.WebSocket
