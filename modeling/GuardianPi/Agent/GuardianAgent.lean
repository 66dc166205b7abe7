import GuardianPi.Agent.FileIntegrityMonitor
import GuardianPi.Agent.NetworkMonitor
import GuardianPi.Agent.ProcessMonitor
import GuardianPi.Agent.QueueGuarantees
import GuardianPi.Library.Interleaving

namespace GuardianPi.Agent
open GuardianPi.Library GuardianPi.Library.Interleaving

structure AntiTamperEngine where
  binaryHash : Option String
  integrityVerified : Bool

namespace AntiTamperEngine

/-- Without its bytes, the agent's own file could not be read. -/
def computeSelfHash (sha256 : List UInt8 → String) (binary : Option (List UInt8)) : Option String :=
  binary.map sha256

def new (sha256 : List UInt8 → String) (binary : Option (List UInt8)) : AntiTamperEngine :=
  ⟨computeSelfHash sha256 binary, true⟩

def verifyIntegrity (sha256 : List UInt8 → String) (e : AntiTamperEngine) (binary : Option (List UInt8)) :
    AntiTamperEngine × Bool :=
  match e.binaryHash with
  | none => (e, true)
  | some known =>
      if computeSelfHash sha256 binary ≠ some known then ({ e with integrityVerified := false }, false)
      else (e, true)

theorem verifyIntegrity_spec (sha256 : List UInt8 → String) (e : AntiTamperEngine) (binary : Option (List UInt8)) :
    (e.verifyIntegrity sha256 binary).1.binaryHash = e.binaryHash ∧ (e.verifyIntegrity sha256 binary).2 =
      !(e.binaryHash.isSome && computeSelfHash sha256 binary ≠ e.binaryHash) := by
  obtain ⟨known, verified⟩ := e
  cases known with
  | none => exact ⟨rfl, rfl⟩
  | some known =>
      simp only [verifyIntegrity]
      split_ifs with differ <;> simp [differ]

end AntiTamperEngine

namespace GuardianAgent

/-! ## What the loops hand to the sender -/

structure Report where
  eventType : String
  severity : String
  details : List (String × Json Literal)

/-- What the agent needs of its host: `str.lower`, hex digests, the text of a float and the clock
reading of each `queue_event`. -/
structure Host where
  lower : String → String
  sha256 : List UInt8 → String
  floatText : Rat → Literal
  now : Nat → String

structure Heartbeat where
  cpuPercent : Rat
  ramPercent : Rat
  diskPercent : Rat
  uptimeSeconds : Int
  processCount : Nat
  activeConnections : Nat

section
variable (host : Host)

def int (n : Int) : Json Literal := .num (.ofInt n)

def float (r : Rat) : Json Literal := .num (host.floatText r)

def text : Option String → Json Literal
  | some s => .str s
  | none => .null

def Heartbeat.report (h : Heartbeat) : Report :=
  ⟨"heartbeat", "info", [("cpu_percent", float host h.cpuPercent), ("ram_percent", float host h.ramPercent),
    ("disk_percent", float host h.diskPercent), ("uptime_seconds", int h.uptimeSeconds),
    ("process_count", int h.processCount), ("active_connections", int h.activeConnections)]⟩

def nameText (name : Option String) : String := name.getD "None"

def processDetails : ProcessMonitor.Alert → List (String × Json Literal)
  | .suspicious p description =>
      [("severity", .str "high"), ("title", .str s!"Suspicious process: {nameText p.name}"), ("pid", int p.pid),
        ("process_name", text p.name), ("username", text p.username), ("description", .str description)]
  | .highCpu p cpu =>
      [("severity", .str "medium"),
        ("title", .str s!"High CPU usage: {nameText p.name} ({String.ofList (host.floatText cpu).text}%)"),
        ("pid", int p.pid), ("process_name", text p.name), ("cpu_percent", float host cpu)]
  | .manyConnections p connectionCount =>
      [("severity", .str "medium"), ("title", .str s!"New process with many connections: {nameText p.name}"),
        ("pid", int p.pid), ("connection_count", int connectionCount)]

def processReport (a : ProcessMonitor.Alert) : Report := ⟨"process_alert", a.severity, processDetails host a⟩

def changeReport (c : FileIntegrityMonitor.Change String) : Report :=
  ⟨"file_change", "high", [("path", .str c.path), ("change_type", .str c.changeType)] ++
    (match c with
      | .modified _ previousHash currentHash =>
          [("previous_hash", .str previousHash), ("current_hash", .str currentHash)]
      | _ => []) ++ [("title", .str c.title)]⟩

def networkReport (a : NetworkMonitor.Alert) : Report :=
  ⟨"network_anomaly", a.severity, [("severity", .str a.severity), ("title", .str a.title)] ++
    match a with
    | .spike current average => [("current", int current), ("average", float host average)]
    | .listening localPort remoteIp => [("local_port", int localPort), ("remote_ip", .str remoteIp)]
    | .portScan portCount => [("port_count", int portCount)]
    | .burst newIpCount => [("new_ip_count", int newIpCount)]⟩

def usbReport (e : UsbMonitor.UsbEvent) : Report :=
  ⟨"usb_event", "medium", [("event", .str e.event), ("device", .str e.device)] ++
    (match e with
      | .connected _ (some volume) => [("mountpoint", .str volume.mountpoint),
          ("filesystem", .str volume.filesystem), ("total_gb", float host volume.totalGb)]
      | _ => []) ++ [("title", .str e.title)]⟩

def tamperReport : Report :=
  ⟨"tamper_detected", "critical", [("message", .str "Agent binary integrity check failed")]⟩

end

/-! ## The loops -/

structure Modules where
  processMonitor : List Nat
  fileIntegrity : FileIntegrityMonitor.State String
  networkMonitor : NetworkMonitor.Monitor
  usbMonitor : UsbMonitor.Devices
  antiTamper : AntiTamperEngine

inductive Pass where
  | heartbeat (readings : Heartbeat)
  | processMonitor (processes : List ProcessMonitor.Process)
  | fileIntegrity (files : FileIntegrityMonitor.FileSystem (List UInt8))
  | networkMonitor (connections : Option (List NetworkMonitor.Connection))
  | usbMonitor (snapshot : UsbMonitor.Snapshot)
  | antiTamper (binary : Option (List UInt8))

section
variable (host : Host)

def processPass (baselinePids : List Nat) (processes : List ProcessMonitor.Process) : List Nat × List Report :=
  let (baselinePids, alerts) := ProcessMonitor.scan host.lower baselinePids processes
  (baselinePids, alerts.map (processReport host))

def filePass (s : FileIntegrityMonitor.State String) (files : FileIntegrityMonitor.FileSystem (List UInt8)) :
    FileIntegrityMonitor.State String × List Report :=
  let (s, changes) := FileIntegrityMonitor.check host.sha256 files s
  (s, changes.map changeReport)

def networkPass (m : NetworkMonitor.Monitor) (connections : Option (List NetworkMonitor.Connection)) :
    NetworkMonitor.Monitor × List Report :=
  let (m, anomalies) := NetworkMonitor.detectAnomalies m connections
  (m, anomalies.map (networkReport host))

def usbPass (known : UsbMonitor.Devices) (snapshot : UsbMonitor.Snapshot) : UsbMonitor.Devices × List Report :=
  let (known, events) := UsbMonitor.check host.lower known snapshot
  (known, events.map (usbReport host))

def tamperPass (e : AntiTamperEngine) (binary : Option (List UInt8)) : AntiTamperEngine × List Report :=
  let (e, verified) := e.verifyIntegrity host.sha256 binary
  (e, if !verified then [tamperReport] else [])

/-- A pass has no `await` between its first look at the host and its last `queue_event`. -/
def Modules.pass (m : Modules) : Pass → Modules × List Report
  | .heartbeat readings => (m, [readings.report host])
  | .processMonitor processes =>
      let (next, reports) := processPass host m.processMonitor processes
      ({ m with processMonitor := next }, reports)
  | .fileIntegrity files =>
      let (next, reports) := filePass host m.fileIntegrity files
      ({ m with fileIntegrity := next }, reports)
  | .networkMonitor connections =>
      let (next, reports) := networkPass host m.networkMonitor connections
      ({ m with networkMonitor := next }, reports)
  | .usbMonitor snapshot =>
      let (next, reports) := usbPass host m.usbMonitor snapshot
      ({ m with usbMonitor := next }, reports)
  | .antiTamper binary =>
      let (next, reports) := tamperPass host m.antiTamper binary
      ({ m with antiTamper := next }, reports)

end

/-! ## The agent -/

structure State where
  modules : Modules
  sender : RunningSender

inductive Op where
  | pass (p : Pass)
  | flush
  | answer (status : Nat)
  | resume (how : Outcome)

def queueReport (host : Host) (s : RunningSender) (r : Report) : RunningSender :=
  s.queueEvent ⟨r.eventType, r.severity, r.details, host.now s.queued.length⟩

def State.send (a : State) (act : Act) : Option State :=
  (a.sender.step act).map fun sender => { a with sender := sender }

def step (host : Host) (a : State) : Op → Option State
  | .pass p =>
      let (modules, reports) := a.modules.pass host p
      some ⟨modules, reports.foldl (queueReport host) a.sender⟩
  | .flush => a.send .flush
  | .answer status => a.send (.answer status)
  | .resume how => a.send (.resume how)

/-! ## Each loop by itself -/

inductive Loop where
  | heartbeat
  | processMonitor
  | fileIntegrity
  | networkMonitor
  | usbMonitor
  | antiTamper

def Loop.eventType : Loop → String
  | heartbeat => "heartbeat"
  | processMonitor => "process_alert"
  | fileIntegrity => "file_change"
  | networkMonitor => "network_anomaly"
  | usbMonitor => "usb_event"
  | antiTamper => "tamper_detected"

def Pass.readings? : Pass → Option Heartbeat
  | heartbeat readings => some readings
  | _ => none

def Pass.processes? : Pass → Option (List ProcessMonitor.Process)
  | processMonitor processes => some processes
  | _ => none

def Pass.files? : Pass → Option (FileIntegrityMonitor.FileSystem (List UInt8))
  | fileIntegrity files => some files
  | _ => none

def Pass.connections? : Pass → Option (Option (List NetworkMonitor.Connection))
  | networkMonitor connections => some connections
  | _ => none

def Pass.snapshot? : Pass → Option UsbMonitor.Snapshot
  | usbMonitor snapshot => some snapshot
  | _ => none

def Pass.binary? : Pass → Option (Option (List UInt8))
  | antiTamper binary => some binary
  | _ => none

def anomalies (m : NetworkMonitor.Monitor) : List (Option (List NetworkMonitor.Connection)) → List NetworkMonitor.Alert
  | [] => []
  | connections :: later =>
      (NetworkMonitor.detectAnomalies m connections).2 ++ anomalies (NetworkMonitor.detectAnomalies m connections).1 later

/-- What a loop reports over these passes, by the monitors' own runs. The digest of the agent's file at
its start is the one that the later ones are held against. -/
def Modules.alone (host : Host) (m : Modules) (passes : List Pass) : Loop → List Report
  | .heartbeat => (passes.filterMap Pass.readings?).map (Heartbeat.report host)
  | .processMonitor => (ProcessMonitor.reports host.lower m.processMonitor
      (passes.filterMap Pass.processes?)).flatten.map (processReport host)
  | .fileIntegrity => (FileIntegrityMonitor.reports host.sha256 m.fileIntegrity
      ((passes.filterMap Pass.files?).map .check)).flatten.map changeReport
  | .networkMonitor => (anomalies m.networkMonitor (passes.filterMap Pass.connections?)).map (networkReport host)
  | .usbMonitor => (UsbMonitor.reports host.lower m.usbMonitor
      (passes.filterMap Pass.snapshot?)).flatten.map (usbReport host)
  | .antiTamper => ((passes.filterMap Pass.binary?).filter fun binary => m.antiTamper.binaryHash.isSome &&
      AntiTamperEngine.computeSelfHash host.sha256 binary ≠ m.antiTamper.binaryHash).map fun _ => tamperReport

/-! ## The loops do not disturb each other -/

def isOf (loop : Loop) (r : Report) : Bool := r.eventType = loop.eventType

def Pass.loop : Pass → Loop
  | heartbeat _ => .heartbeat
  | processMonitor _ => .processMonitor
  | fileIntegrity _ => .fileIntegrity
  | networkMonitor _ => .networkMonitor
  | usbMonitor _ => .usbMonitor
  | antiTamper _ => .antiTamper

theorem eventType_injective : Function.Injective Loop.eventType := by
  intro first later same
  cases first <;> cases later <;> first | rfl | (exfalso; revert same; decide)

section
variable {host : Host}

theorem eventType_of_pass (m : Modules) (p : Pass) : ∀ r ∈ (m.pass host p).2, r.eventType = p.loop.eventType := by
  intro r member
  cases p with
  | heartbeat readings =>
      obtain rfl := List.mem_singleton.mp member
      rfl
  | processMonitor _ | fileIntegrity _ | networkMonitor _ | usbMonitor _ =>
      obtain ⟨a, -, rfl⟩ := List.mem_map.mp member
      rfl
  | antiTamper binary =>
      simp only [Modules.pass, tamperPass] at member
      split_ifs at member
      · obtain rfl := List.mem_singleton.mp member
        rfl
      · cases member

theorem component_of_pass {τ κ : Type*} {own : τ → κ → τ × List Report} {view : Modules → τ}
    {input : Pass → Option κ} (loop : Loop)
    (takes : ∀ m p k, input p = some k → p.loop = loop ∧ view (m.pass host p).1 = (own (view m) k).1 ∧
      (m.pass host p).2 = (own (view m) k).2)
    (ignores : ∀ m p, input p = none → p.loop ≠ loop ∧ view (m.pass host p).1 = view m) :
    Component (Modules.pass host) own view input (isOf loop) := by
  constructor
  · intro m p k given
    obtain ⟨rfl, next, answer⟩ := takes m p k given
    refine ⟨next, ?_⟩
    rw [← answer]
    exact List.filter_eq_self.mpr fun r member => decide_eq_true (eventType_of_pass m p r member)
  · intro m p given
    obtain ⟨other, same⟩ := ignores m p given
    refine ⟨same, List.filter_eq_nil_iff.mpr fun r member mine => ?_⟩
    have type := eventType_of_pass m p r member
    exact other (eventType_injective (type.symm.trans (of_decide_eq_true mine)))

theorem process_component : Component (Modules.pass host) (processPass host) Modules.processMonitor Pass.processes?
    (isOf .processMonitor) := by
  apply component_of_pass
  · intro m p processes given
    cases p <;> cases given
    exact ⟨rfl, rfl, rfl⟩
  · intro m p given
    cases p <;> cases given <;> exact ⟨nofun, rfl⟩

theorem file_component : Component (Modules.pass host) (filePass host) Modules.fileIntegrity Pass.files?
    (isOf .fileIntegrity) := by
  apply component_of_pass
  · intro m p files given
    cases p <;> cases given
    exact ⟨rfl, rfl, rfl⟩
  · intro m p given
    cases p <;> cases given <;> exact ⟨nofun, rfl⟩

theorem network_component : Component (Modules.pass host) (networkPass host) Modules.networkMonitor
    Pass.connections? (isOf .networkMonitor) := by
  apply component_of_pass
  · intro m p connections given
    cases p <;> cases given
    exact ⟨rfl, rfl, rfl⟩
  · intro m p given
    cases p <;> cases given <;> exact ⟨nofun, rfl⟩

theorem usb_component : Component (Modules.pass host) (usbPass host) Modules.usbMonitor Pass.snapshot?
    (isOf .usbMonitor) := by
  apply component_of_pass
  · intro m p snapshot given
    cases p <;> cases given
    exact ⟨rfl, rfl, rfl⟩
  · intro m p given
    cases p <;> cases given <;> exact ⟨nofun, rfl⟩

theorem tamper_component : Component (Modules.pass host) (tamperPass host) Modules.antiTamper Pass.binary?
    (isOf .antiTamper) := by
  apply component_of_pass
  · intro m p binary given
    cases p <;> cases given
    exact ⟨rfl, rfl, rfl⟩
  · intro m p given
    cases p <;> cases given <;> exact ⟨nofun, rfl⟩

theorem heartbeat_component : Component (Modules.pass host) (fun u readings => (u, [Heartbeat.report host readings]))
    (fun _ => ()) Pass.readings? (isOf .heartbeat) := by
  apply component_of_pass
  · intro m p readings given
    cases p <;> cases given
    exact ⟨rfl, rfl, rfl⟩
  · intro m p given
    cases p <;> cases given <;> exact ⟨nofun, rfl⟩

theorem tamper_outputs (e : AntiTamperEngine) (binaries : List (Option (List UInt8))) :
    outputs (tamperPass host) e binaries = (binaries.filter fun binary => e.binaryHash.isSome &&
      AntiTamperEngine.computeSelfHash host.sha256 binary ≠ e.binaryHash).map fun _ => tamperReport := by
  induction binaries generalizing e with
  | nil => rfl
  | cons binary later ih =>
      obtain ⟨kept, verified⟩ := AntiTamperEngine.verifyIntegrity_spec host.sha256 e binary
      have next : (tamperPass host e binary).1.binaryHash = e.binaryHash := kept
      have answer : (tamperPass host e binary).2 =
          if !(e.verifyIntegrity host.sha256 binary).2 then [tamperReport] else [] := rfl
      rw [outputs, ih, next, answer, verified, List.filter_cons, Bool.not_not]
      split_ifs <;> rfl

theorem outputs_detectAnomalies (m : NetworkMonitor.Monitor) (scans : List (Option (List NetworkMonitor.Connection))) :
    outputs NetworkMonitor.detectAnomalies m scans = anomalies m scans := by
  induction scans generalizing m with
  | nil => rfl
  | cons connections scans ih => rw [outputs, anomalies, ih]

theorem forall_mem_outputs (m : Modules) (passes : List Pass) :
    ∀ r ∈ outputs (Modules.pass host) m passes, ∃ loop, isOf loop r = true := by
  induction passes generalizing m with
  | nil => exact List.forall_mem_nil _
  | cons p later ih =>
      refine List.forall_mem_append.mpr ⟨fun r member => ⟨p.loop, ?_⟩, ih _⟩
      exact decide_eq_true (eventType_of_pass m p r member)

theorem outputs_alone (m : Modules) (passes : List Pass) (loop : Loop) :
    (outputs (Modules.pass host) m passes).filter (isOf loop) = m.alone host passes loop := by
  cases loop with
  | heartbeat =>
      rw [heartbeat_component.outputs_eq, Modules.alone]
      generalize passes.filterMap Pass.readings? = readings
      induction readings with
      | nil => rfl
      | cons h readings ih => rw [outputs, ih, List.map_cons, List.singleton_append]
  | processMonitor =>
      rw [process_component.outputs_eq, Modules.alone]
      exact (outputs_map _ _).trans (congrArg _ (outputs_eq_flatten (fun _ => rfl) (fun _ _ _ => rfl) _ _))
  | fileIntegrity =>
      rw [file_component.outputs_eq, Modules.alone]
      exact (outputs_map _ _).trans (congrArg _ (outputs_eq_flatten
        (r := fun s files => FileIntegrityMonitor.reports host.sha256 s (files.map .check))
        (fun _ => rfl) (fun _ _ _ => rfl) _ _))
  | networkMonitor =>
      rw [network_component.outputs_eq, Modules.alone]
      exact (outputs_map _ _).trans (congrArg _ (outputs_detectAnomalies _ _))
  | usbMonitor =>
      rw [usb_component.outputs_eq, Modules.alone]
      exact (outputs_map _ _).trans (congrArg _ (outputs_eq_flatten (r := UsbMonitor.reports host.lower)
        (fun _ => rfl) (fun _ _ _ => rfl) _ _))
  | antiTamper =>
      rw [tamper_component.outputs_eq, Modules.alone]
      exact tamper_outputs _ _

end

/-! ## What reaches the sender -/

def Op.pass? : Op → Option Pass
  | pass p => some p
  | _ => none

def reportOf (x : Queued) : Report := ⟨x.event.eventType, x.event.severity, x.event.details⟩

def Stamped (host : Host) (queued : List Queued) : Prop :=
  ∀ k x, queued[k]? = some x → x.serial = k ∧ x.event.timestamp = host.now k

def Uncancelled (s : RunningSender) : Prop := ∀ task, s.task = some task → task.await ≠ .leaving .cancelled

structure Kept (host : Host) (start : Modules) (past : List Op) (a : State) : Prop where
  modules : a.modules = after (Modules.pass host) start (past.filterMap Op.pass?)
  reported : a.sender.queued.map reportOf = outputs (Modules.pass host) start (past.filterMap Op.pass?)
  stamped : Stamped host a.sender.queued
  tracked : a.sender.Tracked
  uncancelled : Uncancelled a.sender

section
variable {host : Host} {s t : RunningSender}

theorem queued_queueReport (s : RunningSender) (r : Report) : (queueReport host s r).queued =
    s.queued ++ [s.stamp ⟨r.eventType, r.severity, r.details, host.now s.queued.length⟩] := rfl

theorem stamped_queueReport (stamped : Stamped host s.queued) (r : Report) :
    Stamped host (queueReport host s r).queued := by
  intro k x found
  rw [queued_queueReport, List.getElem?_append] at found
  split_ifs at found with old
  · exact stamped k x found
  · obtain ⟨here, rfl⟩ := List.getElem?_eq_some_iff.mp found
    rw [List.length_singleton] at here
    have last : k = s.queued.length := by omega
    subst last
    simp only [Nat.sub_self, List.getElem_singleton]
    exact ⟨rfl, rfl⟩

theorem foldl_queueReport (reports : List Report) (stamped : Stamped host s.queued) (tracked : s.Tracked) :
    (reports.foldl (queueReport host) s).queued.map reportOf = s.queued.map reportOf ++ reports ∧
      Stamped host (reports.foldl (queueReport host) s).queued ∧ (reports.foldl (queueReport host) s).Tracked ∧
      (reports.foldl (queueReport host) s).task = s.task := by
  induction reports generalizing s with
  | nil => exact ⟨(List.append_nil _).symm, stamped, tracked, rfl⟩
  | cons r reports ih =>
      obtain ⟨reported, later, kept, task⟩ := ih (stamped_queueReport stamped r) (RunningSender.queueEvent_tracked tracked _)
      refine ⟨?_, later, kept, task⟩
      rw [List.foldl_cons, reported, queued_queueReport, List.map_append, List.append_assoc]
      rfl

theorem beginFlush_kept (s : RunningSender) : s.beginFlush.queued = s.queued := by
  unfold RunningSender.beginFlush
  split_ifs <;> rfl

theorem uncancelled_waitAt {task : FlushTask} {await : Await} (other : await ≠ .leaving .cancelled) :
    Uncancelled (s.waitAt task await) := by
  intro later running
  obtain rfl := Option.some.inj running
  exact other

theorem uncancelled_idle (idle : s.task = none) : Uncancelled s := by
  intro task running
  rw [idle] at running
  cases running

theorem resume_kept {how : Outcome} (uncancelled : Uncancelled s) (runs : how ≠ .cancelled)
    (taken : s.step (.resume how) = some t) :
    t.queued = s.queued ∧ s.abandoned (.resume how) = [] ∧ Uncancelled t := by
  obtain ⟨⟨events, await⟩, running, resumed⟩ := Option.bind_eq_some_iff.mp taken
  have leaves : Await.leaving how ≠ .leaving .cancelled := fun same => runs (Await.leaving.inj same)
  cases await with
  | entering =>
      cases how with
      | cancelled => exact absurd rfl runs
      | returned =>
          obtain rfl := Option.some.inj resumed
          exact ⟨rfl, by simp [RunningSender.abandoned, running], uncancelled_waitAt (fun same => by cases same)⟩
      | exception =>
          obtain rfl := Option.some.inj resumed
          exact ⟨rfl, by simp [RunningSender.abandoned, running], uncancelled_idle rfl⟩
  | posting answer =>
      have nothing : s.abandoned (.resume how) = [] := by simp [RunningSender.abandoned, running]
      cases answer with
      | none =>
          cases how with
          | returned => cases resumed
          | exception | cancelled =>
              obtain rfl := Option.some.inj resumed
              exact ⟨rfl, nothing, uncancelled_waitAt leaves⟩
      | some status =>
          cases how with
          | returned =>
              obtain rfl := Option.some.inj resumed
              refine ⟨?_, nothing, uncancelled_waitAt (fun same => by cases same)⟩
              split_ifs <;> rfl
          | exception | cancelled =>
              obtain rfl := Option.some.inj resumed
              exact ⟨rfl, nothing, uncancelled_waitAt leaves⟩
  | leaving pending =>
      have here : pending ≠ .cancelled := fun same => uncancelled _ running (same ▸ rfl)
      have nothing : s.abandoned (.resume how) = [] := by simp [RunningSender.abandoned, running, runs, here]
      cases how with
      | cancelled => exact absurd rfl runs
      | returned =>
          obtain rfl := Option.some.inj resumed
          cases pending with
          | cancelled => exact absurd rfl here
          | returned | exception => exact ⟨rfl, nothing, uncancelled_idle rfl⟩
      | exception =>
          obtain rfl := Option.some.inj resumed
          exact ⟨rfl, nothing, uncancelled_idle rfl⟩

end

section
variable {host : Host} {start : Modules} {past : List Op} {a b : State}

theorem kept_start (host : Host) (start : Modules) : Kept host start [] ⟨start, RunningSender.start⟩ :=
  ⟨rfl, rfl, nofun, RunningSender.start_tracked, nofun⟩

theorem kept_pass (kept : Kept host start past a) (p : Pass) (taken : step host a (.pass p) = some b) :
    Kept host start (past ++ [.pass p]) b := by
  obtain rfl := Option.some.inj taken
  have passes : (past ++ [Op.pass p]).filterMap Op.pass? = past.filterMap Op.pass? ++ [p] := by
    rw [List.filterMap_append]
    rfl
  obtain ⟨reported, stamped, tracked, task⟩ :=
    foldl_queueReport (a.modules.pass host p).2 kept.stamped kept.tracked
  refine ⟨?_, ?_, stamped, tracked, ?_⟩
  · rw [passes, after_append, ← kept.modules]
    rfl
  · rw [passes, outputs_append, ← kept.modules, ← kept.reported]
    exact reported.trans (congrArg _ (List.append_nil _).symm)
  · intro later running
    exact kept.uncancelled later (task.symm.trans running)

theorem kept_send (kept : Kept host start past a) {op : Op} (send : op.pass? = none) {sender : RunningSender}
    (queued : sender.queued = a.sender.queued) (tracked : sender.Tracked) (uncancelled : Uncancelled sender) :
    Kept host start (past ++ [op]) ⟨a.modules, sender⟩ := by
  have passes : (past ++ [op]).filterMap Op.pass? = past.filterMap Op.pass? := by
    rw [List.filterMap_append, List.filterMap_cons_none send, List.filterMap_nil, List.append_nil]
  refine ⟨?_, ?_, ?_, tracked, uncancelled⟩
  · rw [passes]
    exact kept.modules
  · rw [passes, queued]
    exact kept.reported
  · rw [queued]
    exact kept.stamped

theorem kept_step (kept : Kept host start past a) {op : Op} (runs : op ≠ .resume .cancelled)
    (taken : step host a op = some b) : Kept host start (past ++ [op]) b := by
  cases op with
  | pass p => exact kept_pass kept p taken
  | flush =>
      obtain ⟨sender, sent, rfl⟩ := Option.map_eq_some_iff.mp taken
      obtain ⟨idle, rfl⟩ := RunningSender.flush_cases sent
      refine kept_send kept rfl (beginFlush_kept _) (RunningSender.beginFlush_tracked kept.tracked idle) ?_
      intro task running
      unfold RunningSender.beginFlush at running
      split_ifs at running
      · rw [idle] at running
        cases running
      · obtain rfl := Option.some.inj running
        exact nofun
  | answer status =>
      obtain ⟨sender, sent, rfl⟩ := Option.map_eq_some_iff.mp taken
      obtain ⟨events, running, rfl⟩ := RunningSender.answer_cases sent
      refine kept_send kept rfl rfl (RunningSender.answer_tracked kept.tracked running status) ?_
      intro task running
      obtain rfl := Option.some.inj running
      exact nofun
  | resume how =>
      obtain ⟨sender, sent, rfl⟩ := Option.map_eq_some_iff.mp taken
      have goes : how ≠ .cancelled := fun same => runs (same ▸ rfl)
      obtain ⟨queued, nothing, later⟩ := resume_kept kept.uncancelled goes sent
      refine kept_send kept rfl queued (RunningSender.resume_tracked kept.tracked sent ?_) later
      rw [RunningSender.KeepsEvents, nothing]
      exact List.forall_mem_nil _

end

/-- Whatever order the loops run in, the sender is given of each loop what its monitor would report by
itself, and nothing else. Until the agent is stopped, each event waits, is in flight, has been delivered
or was trimmed from a full queue. -/
theorem monitors_reach_the_sender (host : Host) (start : Modules) (ops : List Op)
    (runs : .resume .cancelled ∉ ops) {a : State} (reached : run (step host) ⟨start, .start⟩ ops = some a) :
    (∀ loop, (a.sender.queued.map reportOf).filter (isOf loop) = start.alone host (ops.filterMap Op.pass?) loop) ∧
    (∀ x ∈ a.sender.queued, ∃ loop, isOf loop (reportOf x) = true) ∧ Stamped host a.sender.queued ∧
    ∀ x ∈ a.sender.queued, x ∈ a.sender.queue ∨ x ∈ a.sender.delivered ∨ x ∈ a.sender.trimmed ∨
      ∃ task, a.sender.task = some task ∧ x ∈ task.events := by
  have kept : Kept host start ops a := by
    have goes : ∀ op ∈ ops, op ≠ .resume .cancelled := fun op member same => runs (same ▸ member)
    refine run_invariant_along (I := Kept host start) (kept_start host start) ?_ (along_of_mem goes _) reached
    exact fun _ _ _ _ kept goes taken => kept_step kept goes taken
  refine ⟨fun loop => ?_, fun x member => ?_, kept.stamped, fun x member => ?_⟩
  · rw [kept.reported]
    exact outputs_alone start _ loop
  · have reported : reportOf x ∈ a.sender.queued.map reportOf := List.mem_map_of_mem member
    rw [kept.reported] at reported
    exact forall_mem_outputs start _ _ reported
  · rcases kept.tracked.accounted x member with waiting | delivered | trimmed | ⟨task, running, -, held⟩
    · exact Or.inl waiting
    · exact Or.inr (Or.inl delivered)
    · exact Or.inr (Or.inr (Or.inl trimmed))
    · exact Or.inr (Or.inr (Or.inr ⟨task, running, held⟩))

def quietModules : Modules :=
  ⟨[1], ⟨⟨["/etc/passwd"], ∅⟩, none⟩, .new, .empty, .new (fun bytes => toString bytes) (some [1])⟩

theorem monitors_reach_the_sender_tampered :
    let host : Host := ⟨id, fun bytes => toString bytes, fun _ => .ofInt 0, fun k => toString k⟩
    let ops : List Op := [.pass (.antiTamper (some [2])), .flush, .pass (.processMonitor [⟨2, some "nc", none, none, none⟩]),
      .resume .returned, .pass (.antiTamper none)]
    ∃ a, run (step host) ⟨quietModules, .start⟩ ops = some a ∧ a.sender.queued.length = 3 ∧
      (a.sender.queued.map reportOf).filter (isOf .antiTamper) = [tamperReport, tamperReport] := by
  intro host ops
  have runs : Op.resume .cancelled ∉ ops := by simp [ops]
  have count : (run (step host) ⟨quietModules, .start⟩ ops).map (fun a => a.sender.queued.length) = some 3 := by
    decide +kernel
  obtain ⟨a, reached, three⟩ := Option.map_eq_some_iff.mp count
  obtain ⟨reports, -⟩ := monitors_reach_the_sender host quietModules ops runs reached
  exact ⟨a, reached, three, (reports .antiTamper).trans (by rfl)⟩

end GuardianAgent

end GuardianPi.Agent
