import GuardianPi.Backend.AgentMetrics
import GuardianPi.EdgeAgent.Collected
import GuardianPi.EdgeAgent.FileIntegrity
import GuardianPi.EdgeAgent.NetworkHistory
import GuardianPi.EdgeAgent.ProcessReuse

namespace GuardianPi.EdgeAgent
open GuardianPi.Library GuardianPi.Library.Python GuardianPi.Backend
open GuardianPi.Agent.NetworkMonitor (listeningTitle)

section
variable {number : Literal → PyNum}

def resourceAlert (severity title : String) (r : Readings number) (now : Int) : Event :=
  ⟨"resource_alert", severity, title, some (getSystemMetrics r), formatRFC3339 now⟩

def highCpuUsage (r : Readings number) : Int → Event :=
  resourceAlert "medium" ("High CPU usage: " ++ oneDecimal r.cpuPercent.value ++ "%") r

def criticalRamUsage (r : Readings number) : Int → Event :=
  resourceAlert "high" ("Critical RAM usage: " ++ oneDecimal r.ramPercent.value ++ "%") r

def telemetryTick (r : Readings number) (clock : Nat → Int) : List Event :=
  systemMetricsEvent r (clock 0) ::
    ((if 90 < r.cpuPercent.value then [highCpuUsage r (clock 1)] else []) ++
      if 95 < r.ramPercent.value then [criticalRamUsage r (clock 2)] else [])

end

/-- What a loop finds on the host when it is its turn. -/
inductive Sight (number : Literal → PyNum) where
  | metrics (r : Readings number) (clock : Nat → Int)
  | processes (procs : Option (List MonitoredProcess))
  | notice (files : FileSystem) (notice : Notice) (now : Int)
  | connections (conns : Option (List ConnectionStat)) (clock : Nat → Int)
  | suspects (procs : Option (List Process))

def Sight.collector {number : Literal → PyNum} : Sight number → Collector
  | .metrics _ _ => .telemetry
  | .processes _ => .processMonitor
  | .notice _ _ _ => .fileIntegrity
  | .connections _ _ => .networkMonitor
  | .suspects _ => .detectionEngine

structure Locals where
  knownPIDs : List Int32
  files : FileMonitor
  network : NetworkWatch
  alerted : List String

structure Edge where
  locals : Locals
  agent : Agent

inductive EdgeMove (number : Literal → PyNum) where
  | look (sight : Sight number)
  | go (m : Move)

section
variable {number : Literal → PyNum} (letters : Letters) (sha256 : List UInt8 → List UInt8)

def look (locals : Locals) : Sight number → List Event × Locals
  | .metrics r clock => (telemetryTick r clock, locals)
  | .processes none | .suspects none => ([], locals)
  | .processes (some procs) =>
      let s := procs.foldl (checkProcess letters) ⟨locals.knownPIDs, []⟩
      (s.sent, { locals with knownPIDs := s.knownPIDs })
  | .notice files notice now =>
      let m := FileMonitor.handle sha256 (fun _ => now) files { locals.files with sent := [] } notice
      (m.sent, { locals with files := m })
  | .connections conns clock =>
      let s := networkTick clock locals.network conns
      (s.sent, { locals with network := s })
  | .suspects (some procs) =>
      let s := scan (builtinRules letters) locals.alerted procs
      (s.sent, { locals with alerted := s.alerted })

variable (cfg : AgentConfig) (env : Env) (fuel : Nat)

def edgeStep (s : Edge) : EdgeMove number → Option Edge
  | .look sight =>
      let (events, locals) := look letters sha256 s.locals sight
      (agentStep cfg env fuel s.agent (.tick sight.collector events)).map fun agent => ⟨locals, agent⟩
  | .go (.tick _ _) => none
  | .go m => (agentStep cfg env fuel s.agent m).map fun agent => { s with agent }

def Edge.start (files : FileSystem) (paths : List String) (dir : Directory) : Edge :=
  ⟨⟨[], .start sha256 files paths, ⟨0, [], 0, []⟩, []⟩, Agent.start cfg dir⟩

def ticks (locals : Locals) : List (EdgeMove number) → List Move
  | [] => []
  | .look sight :: later =>
      let (events, locals) := look letters sha256 locals sight
      .tick sight.collector events :: ticks locals later
  | .go m :: later => m :: ticks locals later

end

/-! ## What a look can give -/

/-- The reason that a loop has for an event that is to become an alert. -/
inductive Cause (letters : Letters) {number : Literal → PyNum} : Sight number → Event → Prop
  | cpu {r : Readings number} {clock : Nat → Int} (now : Int) (high : 90 < r.cpuPercent.value) :
      Cause letters (.metrics r clock) (highCpuUsage r now)
  | ram {r : Readings number} {clock : Nat → Int} (now : Int) (high : 95 < r.ramPercent.value) :
      Cause letters (.metrics r clock) (criticalRamUsage r now)
  | suspicious {procs : List MonitoredProcess} {p : MonitoredProcess} {name desc : String} (member : p ∈ procs)
      (named : p.name = some name) (found : isSuspiciousProcess letters p.order name = (true, desc)) :
      Cause letters (.processes (some procs)) (suspiciousAlert p name desc)
  | crowded {procs : List MonitoredProcess} {p : MonitoredProcess} {name : String} {count : Nat} (member : p ∈ procs)
      (named : p.name = some name) (connected : p.connections = some count) (many : 20 < count) :
      Cause letters (.processes (some procs)) (newProcessAlert p name count)
  | busy {procs : List MonitoredProcess} {p : MonitoredProcess} {name : String} (member : p ∈ procs)
      (named : p.name = some name) (high : p.cpu.above80 = true) :
      Cause letters (.processes (some procs)) (highCpuAlert p name)
  | changed {files : FileSystem} {notice : Notice} {now : Int} (relevant : notice.relevant = true)
      (changeType oldHash newHash : String) :
      Cause letters (.notice files notice now) (fileEvent now notice.name changeType oldHash newHash)
  | spike {conns : List ConnectionStat} {clock : Nat → Int} {previous : Nat} {anomaly : Anomaly} (now : Int)
      (listed : anomaly ∈ spikeAnomalies previous conns.length) :
      Cause letters (.connections (some conns) clock) (anomaly now)
  | port {conns : List ConnectionStat} {clock : Nat → Int} {conn : ConnectionStat} {anomaly : Anomaly} (now : Int)
      (member : conn ∈ conns) (listed : anomaly ∈ portAnomalies conn) :
      Cause letters (.connections (some conns) clock) (anomaly now)
  | burst {conns : List ConnectionStat} {clock : Nat → Int} {new : Nat} {anomaly : Anomaly} (now : Int)
      (few : new ≤ conns.length) (listed : anomaly ∈ burstAnomalies new) :
      Cause letters (.connections (some conns) clock) (anomaly now)
  | detected {procs : List Process} {p : Process} {rule : DetectionRule} (member : p ∈ procs)
      (ruled : rule ∈ builtinRules letters) (matched : rule.matcher (p.matching rule.id) = true) :
      Cause letters (.suspects (some procs)) (rule.event p)

def Printable (fields : List (String × GoValue)) : Prop :=
  ∀ field ∈ fields, (∃ s, field.2 = .str s) ∨ ∃ n, field.2 = .num (some n)

theorem marshals_of_printable {e : Event} {fields : List (String × GoValue)} (details : e.details = some fields)
    (printable : Printable fields) : e.Marshals := by
  have whole : (Json.traverseFields id fields).isSome := by
    clear details
    induction fields with
    | nil => rfl
    | cons field fields ih =>
        obtain ⟨here, later⟩ := List.forall_mem_cons.mp printable
        obtain ⟨document, rest⟩ := Option.isSome_iff_exists.mp (ih later)
        obtain ⟨key, v⟩ := field
        rcases here with ⟨s, rfl⟩ | ⟨n, rfl⟩ <;> simp [Json.traverseFields, Json.traverse, rest]
  obtain ⟨document, rest⟩ := Option.isSome_iff_exists.mp whole
  rw [Event.Marshals, marshal, Option.isSome_map, value_traverse, details]
  simp [detailsValue, Json.traverse, rest]

/-- Go can print the event, and where it becomes an alert there is a reason for it. -/
def Explained (letters : Letters) {number : Literal → PyNum} (sight : Sight number) (e : Event) : Prop :=
  e.Marshals ∧ (alarming e.severity = true → Cause letters sight e)

section
variable {number : Literal → PyNum} {letters : Letters} {sha256 : List UInt8 → List UInt8}

def AllExplained (letters : Letters) (sight : Sight number) (sent : List Event) : Prop :=
  ∀ e ∈ sent, Explained letters sight e

theorem explained_of_cause {sight : Sight number} {e : Event} {fields : List (String × GoValue)}
    (details : e.details = some fields) (printable : Printable fields) (cause : Cause letters sight e) :
    Explained letters sight e :=
  ⟨marshals_of_printable details printable, fun _ => cause⟩

theorem printable_metrics (r : Readings number) : Printable (getSystemMetrics r) := by
  simp [Printable, getSystemMetrics]

theorem telemetryTick_explained (r : Readings number) (clock : Nat → Int) :
    AllExplained letters (.metrics r clock) (telemetryTick r clock) := by
  unfold telemetryTick
  refine List.forall_mem_cons.mpr ⟨⟨marshals_of_printable rfl (printable_metrics r), nofun⟩, ?_⟩
  refine List.forall_mem_append.mpr ⟨fun e member => ?_, fun e member => ?_⟩
  · split_ifs at member with high
    · rw [List.mem_singleton.mp member]
      exact explained_of_cause rfl (printable_metrics r) (.cpu _ high)
    · cases member
  · split_ifs at member with high
    · rw [List.mem_singleton.mp member]
      exact explained_of_cause rfl (printable_metrics r) (.ram _ high)
    · cases member

theorem AllExplained.concat {sight : Sight number} {sent : List Event} (before : AllExplained letters sight sent)
    {e : Event} (here : Explained letters sight e) : AllExplained letters sight (sent ++ [e]) :=
  List.forall_mem_append.mpr ⟨before, List.forall_mem_singleton.mpr here⟩

theorem checkProcess_explained {procs : List MonitoredProcess} {p : MonitoredProcess} (member : p ∈ procs)
    {s : Watchlist} (before : AllExplained letters (.processes (some procs) : Sight number) s.sent) :
    AllExplained letters (.processes (some procs) : Sight number) (checkProcess letters s p).sent := by
  cases named : p.name with
  | none =>
      rw [checkProcess, named]
      exact before
  | some name =>
      rw [checkProcess, named]
      have suspects : AllExplained letters (.processes (some procs) : Sight number)
          (checkName letters p name s).sent := by
        rcases found : isSuspiciousProcess letters p.order name with ⟨_ | _, desc⟩
        · simpa [checkName, found] using before
        · simp only [checkName, found, if_true]
          exact before.concat (explained_of_cause rfl (by simp [Printable]) (.suspicious member named found))
      have crowds : AllExplained letters (.processes (some procs) : Sight number)
          (checkConnections p name (checkName letters p name s)).sent := by
        unfold checkConnections
        dsimp only
        split_ifs with known many
        · exact suspects
        · cases connected : p.connections with
          | none =>
              rw [connected] at many
              cases many
          | some count =>
              rw [connected] at many
              exact suspects.concat
                (explained_of_cause rfl (by simp [Printable]) (.crowded member named connected many))
        · exact suspects
      unfold checkCpu
      split_ifs with high
      · exact crowds.concat (explained_of_cause rfl (by simp [Printable]) (.busy member named high))
      · exact crowds

theorem mem_stamped {clock : Nat → Int} {anomalies : List Anomaly} {e : Event} (member : e ∈ stamped clock anomalies) :
    ∃ anomaly ∈ anomalies, ∃ now, e = anomaly now := by
  obtain ⟨k, bound, rfl⟩ := List.mem_mapIdx.mp member
  exact ⟨anomalies[k], List.getElem_mem bound, clock k, rfl⟩

theorem marshals_of_anomaly {previous count new : Nat} {conns : List ConnectionStat} {anomaly : Anomaly}
    (listed : anomaly ∈ spikeAnomalies previous count ++ conns.flatMap portAnomalies ++ burstAnomalies new)
    (now : Int) : (anomaly now).Marshals := by
  obtain ⟨severity, title, details, printable, rfl⟩ : ∃ severity title details, Printable details ∧
      anomaly = networkAnomaly severity title details := by
    rcases List.mem_append.mp listed with listed | listed
    · rcases List.mem_append.mp listed with listed | listed
      · unfold spikeAnomalies at listed
        split_ifs at listed
        · exact ⟨_, _, _, by simp [Printable, goNat], List.mem_singleton.mp listed⟩
        · cases listed
      · obtain ⟨conn, -, listed⟩ := List.mem_flatMap.mp listed
        unfold portAnomalies at listed
        split_ifs at listed
        · obtain ⟨desc, -, rfl⟩ := List.mem_map.mp listed
          exact ⟨_, _, _, by simp [Printable, goNat], rfl⟩
        · cases listed
    · unfold burstAnomalies at listed
      split_ifs at listed
      · exact ⟨_, _, _, by simp [Printable, goNat], List.mem_singleton.mp listed⟩
      · cases listed
  exact marshals_of_printable rfl printable

theorem networkTick_explained (s : NetworkWatch) (conns : List ConnectionStat) (clock : Nat → Int) :
    AllExplained letters (.connections (some conns) clock : Sight number) (networkTick clock s (some conns)).sent := by
  obtain ⟨m, counted, tick⟩ := @networkTick_counted clock s conns
  have few : m.newIPs ≤ conns.length := by
    rw [counted.new, Nat.zero_add]
    calc _ ≤ (peerIPs conns).length := (FirstSeen.fresh_sublist id _ _).length_le
      _ ≤ conns.length := by
        rw [peerIPs, List.length_map]
        exact List.length_filter_le _ _
  rw [tick]
  intro e member
  obtain ⟨anomaly, listed, now, rfl⟩ := mem_stamped member
  refine ⟨marshals_of_anomaly listed now, fun _ => ?_⟩
  rcases List.mem_append.mp listed with listed | listed
  · rcases List.mem_append.mp listed with listed | listed
    · exact .spike now listed
    · obtain ⟨conn, here, listed⟩ := List.mem_flatMap.mp listed
      exact .port now here listed
  · exact .burst now few listed

theorem look_explained (locals : Locals) (sight : Sight number) :
    AllExplained letters sight (look letters sha256 locals sight).1 := by
  cases sight with
  | metrics r clock => exact telemetryTick_explained r clock
  | processes procs =>
      cases procs with
      | none => exact List.forall_mem_nil _
      | some procs =>
          have start : AllExplained letters (.processes (some procs) : Sight number)
            (Watchlist.mk locals.knownPIDs []).sent := List.forall_mem_nil _
          exact List.foldlRecOn procs (checkProcess letters)
            (motive := fun s => AllExplained letters (.processes (some procs) : Sight number) s.sent) start
            fun _ before p member => checkProcess_explained member before
  | notice files notice now =>
      rw [look, FileMonitor.handle]
      by_cases relevant : notice.relevant = true
      · rw [if_pos relevant]
        refine AllExplained.concat (List.forall_mem_nil _) ?_
        exact explained_of_cause rfl (by simp [Printable]) (.changed relevant _ _ _)
      · rw [if_neg relevant]
        exact List.forall_mem_nil _
  | connections conns clock =>
      cases conns with
      | none => exact List.forall_mem_nil _
      | some conns => exact networkTick_explained locals.network conns clock
  | suspects procs =>
      cases procs with
      | none => exact List.forall_mem_nil _
      | some procs =>
          simp only [look, scan, foldl_processes, List.nil_append]
          intro e member
          obtain ⟨⟨p, rule⟩, hit, rfl⟩ := List.mem_map.mp member
          have among := (FirstSeen.fresh_sublist Hit.key _ _).subset hit
          obtain ⟨q, here, found⟩ := List.mem_flatMap.mp among
          obtain ⟨rule', matched, same⟩ := List.mem_map.mp found
          obtain ⟨rfl, rfl⟩ := Prod.mk.inj same
          obtain ⟨ruled, matched⟩ := List.mem_filter.mp matched
          exact explained_of_cause rfl (by simp [Printable]) (.detected here ruled matched)

/-! ## Runs of the whole agent -/

variable {cfg : AgentConfig} {env : Env} {fuel : Nat} {s t : Edge}

theorem edgeStep_go {m : Move} (given : edgeStep letters sha256 cfg env fuel s (.go m : EdgeMove number) = some t) :
    agentStep cfg env fuel s.agent m = some t.agent ∧ t.locals = s.locals := by
  cases m with
  | tick => cases given
  | send | leave | cancel | receive | flush | done =>
      simp only [edgeStep, Option.map_eq_some_iff] at given
      obtain ⟨agent, taken, rfl⟩ := given
      exact ⟨taken, rfl⟩

theorem agentStep_of_edgeStep {m : EdgeMove number} (given : edgeStep letters sha256 cfg env fuel s m = some t)
    (later : List (EdgeMove number)) : ∃ move,
      ticks letters sha256 s.locals (m :: later) = move :: ticks letters sha256 t.locals later ∧
      agentStep cfg env fuel s.agent move = some t.agent := by
  cases m with
  | look sight =>
      obtain ⟨agent, taken, rfl⟩ := Option.map_eq_some_iff.mp given
      exact ⟨_, rfl, taken⟩
  | go m =>
      obtain ⟨taken, same⟩ := edgeStep_go given
      rw [ticks, same]
      exact ⟨m, rfl, taken⟩

theorem run_ticks {moves : List (EdgeMove number)} (reached : run (edgeStep letters sha256 cfg env fuel) s moves = some t) :
    run (agentStep cfg env fuel) s.agent (ticks letters sha256 s.locals moves) = some t.agent := by
  induction moves generalizing s with
  | nil =>
      obtain rfl := Option.some.inj reached
      rfl
  | cons m moves ih =>
      obtain ⟨middle, given, rest⟩ := run_cons_eq_some.mp reached
      obtain ⟨move, split, taken⟩ := agentStep_of_edgeStep given moves
      rw [split]
      exact run_cons_eq_some.mpr ⟨middle.agent, taken, ih rest⟩

theorem produced_explained {moves : List (EdgeMove number)}
    (reached : run (edgeStep letters sha256 cfg env fuel) s moves = some t) (c : Collector) :
    ∀ e ∈ produced c (ticks letters sha256 s.locals moves),
      ∃ sight, .look sight ∈ moves ∧ sight.collector = c ∧ Explained letters sight e := by
  induction moves generalizing s with
  | nil => exact List.forall_mem_nil _
  | cons m moves ih =>
      obtain ⟨middle, given, rest⟩ := run_cons_eq_some.mp reached
      intro e member
      have later (there : e ∈ produced c (ticks letters sha256 middle.locals moves)) :
          ∃ sight, .look sight ∈ m :: moves ∧ sight.collector = c ∧ Explained letters sight e := by
        obtain ⟨sight, seen, own, explained⟩ := ih rest e there
        exact ⟨sight, List.mem_cons_of_mem _ seen, own, explained⟩
      cases m with
      | look sight =>
          obtain ⟨agent, taken, rfl⟩ := Option.map_eq_some_iff.mp given
          rcases List.mem_append.mp member with here | there
          · simp only [Move.made] at here
            split_ifs at here with own
            · exact ⟨sight, List.mem_cons_self, own, look_explained s.locals sight e here⟩
            · cases here
          · exact later there
      | go m =>
          obtain ⟨-, same⟩ := edgeStep_go given
          rcases List.mem_append.mp member with here | there
          · cases m with
            | tick => cases given
            | send | leave | cancel | receive | flush | done => cases here
          · rw [same] at later
            exact later there

end

/-- However the loops and the sender interleave, the channel keeps the order, each event has been seen by
its loop and can be sent, and where it is to become an alert there was a reason for it; and while the
sender runs each event is in one place. -/
theorem collected_events_accounted {number : Literal → PyNum} (letters : Letters)
    (sha256 : List UInt8 → List UInt8) (cfg : AgentConfig) (env : Env) (fuel : Nat) (files : FileSystem)
    (paths : List String) (dir : Directory) (moves : List (EdgeMove number)) (s : Edge)
    (reached : run (edgeStep letters sha256 cfg env fuel) (Edge.start sha256 cfg files paths dir) moves = some s) :
    let made := ticks letters sha256 (Edge.start sha256 cfg files paths dir).locals moves
    ChannelOrder cfg env fuel dir made s.agent ∧
      (∀ c, ∀ e ∈ produced c made,
        ∃ sight, .look sight ∈ moves ∧ sight.collector = c ∧ Explained letters sight e) ∧
      (s.agent.sender.stopped = false → Function.Injective env.now → Fresh env (World.start dir) →
        (∀ k, env.files k = .ok) → UnderLimit cfg s.agent.sender.world.calls →
        total (fun c => produced c made) + queuedEvents dir =
          acceptedEvents s.agent.sender.world.calls + queuedEvents s.agent.sender.world.dir +
            ↑s.agent.sender.batch.toList + ↑s.agent.eventCh + total fun c => (s.agent.loops c).pending) := by
  intro made
  have own : run (agentStep cfg env fuel) (Agent.start cfg dir) made = some s.agent := run_ticks reached
  have explained := produced_explained reached
  refine ⟨run_ordered own, explained, fun running distinct fresh works limit => ?_⟩
  refine run_accounted own running distinct fresh works limit fun c e member => ?_
  obtain ⟨sight, -, -, marshals, -⟩ := explained c e member
  exact marshals

theorem collected_events_accounted_busy :
    let number : Literal → PyNum := fun _ => .int 0
    let cfg : AgentConfig := ⟨"pi-1", 1, 50⟩
    let env : Env := ⟨fun k => k, fun k => decide (1 ≤ k), fun _ => .ok⟩
    let files : FileSystem := ⟨fun _ => none, 0, by simp, by simp⟩
    let tool : MonitoredProcess := ⟨7, some "nc", ⟨suspiciousProcesses, List.Perm.refl _⟩, "root", "nc -l 4444",
      some 1, ⟨false, "0.0", Literal.ofInt 0⟩, 0, 0, 0⟩
    let moves : List (EdgeMove number) := [.look (.processes (some [tool, tool])),
      .look (.connections (some [⟨"ESTABLISHED", ⟨"10.0.0.5", 4444⟩, ⟨"203.0.113.9", 40022⟩⟩]) fun _ => 0),
      .go (.send .processMonitor), .go (.send .networkMonitor), .go .receive]
    ∃ s, run (edgeStep .ascii id cfg env 1) (Edge.start id cfg files [] Directory.empty) moves = some s ∧
      total (fun c => produced c (ticks .ascii id (Edge.start id cfg files [] Directory.empty).locals moves)) +
          queuedEvents Directory.empty =
        acceptedEvents s.agent.sender.world.calls + queuedEvents s.agent.sender.world.dir +
          ↑s.agent.sender.batch.toList + ↑s.agent.eventCh + total (fun c => (s.agent.loops c).pending) ∧
      (s.agent.loops .processMonitor).pending.length = 1 ∧ s.agent.eventCh.length = 1 := by
  intro number cfg env files tool moves
  have facts : (run (edgeStep .ascii id cfg env 1) (Edge.start id cfg files [] Directory.empty) moves).map
      (fun s => (s.agent.sender.stopped, decide (UnderLimit cfg s.agent.sender.world.calls),
        (s.agent.loops .processMonitor).pending.length, s.agent.eventCh.length)) = some (false, true, 1, 1) := by
    decide +kernel
  obtain ⟨s, reached, facts⟩ := Option.map_eq_some_iff.mp facts
  obtain ⟨running, facts⟩ := Prod.mk.inj facts
  obtain ⟨limit, facts⟩ := Prod.mk.inj facts
  obtain ⟨pending, waiting⟩ := Prod.mk.inj facts
  obtain ⟨-, -, accounted⟩ := collected_events_accounted .ascii id cfg env 1 files [] Directory.empty moves s reached
  exact ⟨s, reached, accounted running (fun j k same => Int.ofNat.inj same) (fun _ _ => List.not_mem_nil)
    (fun _ => rfl) (of_decide_eq_true limit), pending, waiting⟩

end GuardianPi.EdgeAgent
