import GuardianPi.Backend.Endpoints
import GuardianPi.EdgeAgent.Delivery
import GuardianPi.EdgeAgent.Registration
import GuardianPi.Library.Interleaving

namespace GuardianPi.EdgeAgent
open GuardianPi.Library GuardianPi.Library.Python GuardianPi.Library.Validation GuardianPi.Library.Interleaving
open GuardianPi.Backend (Security validateAgentApiKey)
open GuardianPi.Backend.Responses

/-- What `GetSystemMetrics` reads; a percentage that JSON has no number for leaves the body empty. -/
structure SystemMetrics where
  cpuPercent : Option Rat
  ramPercent : Option Rat
  diskPercent : Option Rat
  uptimeSeconds : Nat
  activeConnections : Nat
  processCount : Nat

def SystemMetrics.heartbeat (m : SystemMetrics) : Option DeviceHeartbeat := do
  let cpuPercent ← m.cpuPercent
  let ramPercent ← m.ramPercent
  let diskPercent ← m.diskPercent
  return ⟨.finite cpuPercent, .finite ramPercent, .finite diskPercent, m.uptimeSeconds, m.activeConnections,
    m.processCount⟩

/-- `deviceOf` is the device that the server reads from the path of a heartbeat with the text in it, if any. -/
structure Api (Token : Type) where
  security : Security Token
  deviceOf : String → Option String

structure AgentProcess where
  apiKey : String
  deviceID : String

structure Fleet where
  db : Database
  agents : Nat → Option AgentProcess

def noUser : Backend.User := ⟨"", "", "", "", "", true, none⟩

structure Beat where
  deviceId : String
  received : String
  heartbeat : DeviceHeartbeat

section
variable {Token : Type} (api : Api Token)

def serveRegistration (env : Environment) (apiKey : String) (info : DeviceInfo) (db : Database) :
    Option String × Database :=
  match validateAgentApiKey api.security (some apiKey), parseDeviceInfo info with
  | .ok _, some request =>
      match handle env noUser db (.registerDevice request) with
      | (.ok response, db) =>
          match response.lookup "id" with
          | some (some (.str id)) => (some id, db)
          | _ => (some "", db)
      | (.error _, db) => (none, db)
  | _, _ => (none, db)

/-- `registerDevice`, whose failure leaves the agent with `GPI_DEVICE_ID`. -/
def registerAgent (env : Environment) (link : Link) (apiKey cachedID : String) (info : DeviceInfo) (db : Database) :
    AgentProcess × Database :=
  match link with
  | .requestLost => (⟨apiKey, cachedID⟩, db)
  | .answerLost => (⟨apiKey, cachedID⟩, (serveRegistration api env apiKey info db).2)
  | .delivered =>
      let (id, db) := serveRegistration api env apiKey info db
      (⟨apiKey, id.getD cachedID⟩, db)

def serveHeartbeat (env : Environment) (agent : AgentProcess) (metrics : SystemMetrics) (db : Database) :
    Database × List Beat :=
  match validateAgentApiKey api.security (some agent.apiKey), api.deviceOf agent.deviceID, metrics.heartbeat with
  | .ok _, some deviceId, some heartbeat =>
      match deviceHeartbeat env db deviceId heartbeat with
      | .ok written => if env.commits then (written.database, [⟨deviceId, env.received, heartbeat⟩]) else (db, [])
      | .error _ => (db, [])
  | _, _, _ => (db, [])

inductive FleetOp where
  | start (host : Nat) (apiKey cachedID : String) (info : DeviceInfo) (env : Environment) (link : Link)
  | heartbeat (host : Nat) (metrics : SystemMetrics) (env : Environment) (link : Link)

def fleetStep (s : Fleet) : FleetOp → Fleet × List Beat
  | .start host apiKey cachedID info env link =>
      let (agent, db) := registerAgent api env link apiKey cachedID info s.db
      (⟨db, Function.update s.agents host (some agent)⟩, [])
  | .heartbeat host metrics env link =>
      match s.agents host with
      | none => (s, [])
      | some agent =>
          if link = .requestLost then (s, [])
          else
            let (db, beats) := serveHeartbeat api env agent metrics s.db
            ({ s with db }, beats)

end

/-! ## What the devices keep -/

abbrev DeviceRow := TypedRow Table.devices.columns

def keptMetadata (device : DeviceRow) : List (String × Value) :=
  (dictOf (device.get "metadata_json")).filter fun field => field.1 ≠ "last_metrics"

def Beat.updates (beat : Beat) (device : DeviceRow) : Row :=
  [("last_heartbeat", some (.datetime beat.received)), ("status", some (.str "online")),
    ("metadata_json", some (.dict (keptMetadata device ++ [("last_metrics", beat.heartbeat.modelDump)])))]

def lastBeat (log : List Beat) (device : DeviceRow) : Option Beat :=
  (log.filter fun beat => hasId beat.deviceId device.row).getLast?

def readAfter (log : List Beat) (device : DeviceRow) (name : String) : Option Attribute :=
  match lastBeat log device with
  | none => device.get name
  | some beat => TypedRow.updated (beat.updates device) name (device.get name)

def Stands (log : List Beat) (before device : DeviceRow) : Prop :=
  ∀ name, device.get name = readAfter log before name

def lastStart (host : Nat) (ops : List FleetOp) : Option AgentProcess :=
  (ops.filterMap fun op => match op with
    | .start other apiKey cachedID _ _ _ => if other = host then some ⟨apiKey, cachedID⟩ else none
    | .heartbeat _ _ _ _ => none).getLast?

theorem hasId_eq (id : String) (device : DeviceRow) : hasId id device.row =
    match device.get "id" with
    | some (.uuid other) => decide (other = id)
    | _ => false := by
  unfold hasId TypedRow.get
  cases device.row.lookup "id" with
  | none => rfl
  | some cell =>
      cases cell with
      | none => rfl
      | some v => cases v <;> rfl

theorem updated_beat (beat : Beat) (device : DeviceRow) (name : String) (v : Option Attribute) :
    TypedRow.updated (beat.updates device) name v =
      if name = "metadata_json" then
        some (.dict (keptMetadata device ++ [("last_metrics", beat.heartbeat.modelDump)]))
      else if name = "status" then some (.str "online")
      else if name = "last_heartbeat" then some (.datetime beat.received)
      else v := by
  simp only [TypedRow.updated, Beat.updates, List.foldl_cons, List.foldl_nil, @eq_comm _ _ name]

theorem lastBeat_concat (log : List Beat) (beat : Beat) (device : DeviceRow) : lastBeat (log ++ [beat]) device =
    if hasId beat.deviceId device.row then some beat else lastBeat log device := by
  unfold lastBeat
  rw [List.filter_append, List.filter_singleton]
  cases own : hasId beat.deviceId device.row with
  | true => exact List.getLast?_concat
  | false =>
      rw [cond_false, List.append_nil]
      rfl

section
variable {log : List Beat} {before device : DeviceRow}

theorem Stands.id (stands : Stands log before device) : device.get "id" = before.get "id" := by
  rw [stands, readAfter]
  cases lastBeat log before with
  | none => rfl
  | some beat => exact updated_beat beat before "id" _

theorem Stands.selects (stands : Stands log before device) (id : String) :
    hasId id device.row = hasId id before.row := by
  rw [hasId_eq, hasId_eq, stands.id]

theorem Stands.kept (stands : Stands log before device) : keptMetadata device = keptMetadata before := by
  unfold keptMetadata
  rw [stands, readAfter]
  cases lastBeat log before with
  | none => rfl
  | some beat =>
      simp only [updated_beat, if_true, dictOf, List.filter_append, keptMetadata, List.filter_filter,
        Bool.and_self]
      simp

theorem Stands.other (stands : Stands log before device) {beat : Beat}
    (others : hasId beat.deviceId device.row = false) : Stands (log ++ [beat]) before device := by
  intro name
  rw [stands, readAfter, readAfter, lastBeat_concat, ← stands.selects, others]
  rfl

theorem Stands.beaten (stands : Stands log before device) {beat : Beat} (own : hasId beat.deviceId device.row = true)
    {after : DeviceRow} (made : device.setAll (beat.updates device) = .ok after) :
    Stands (log ++ [beat]) before after := by
  intro name
  have updates : beat.updates device = beat.updates before := by rw [Beat.updates, stands.kept, Beat.updates]
  have read : after.get name = TypedRow.updated (beat.updates device) name (device.get name) :=
    get_of_updates (by simp [Beat.updates, Table.columns]) made name
  have last : readAfter (log ++ [beat]) before name =
      TypedRow.updated (beat.updates before) name (before.get name) := by
    rw [readAfter, lastBeat_concat, ← stands.selects, own, if_pos rfl]
  rw [read, updates, last, updated_beat, updated_beat]
  -- A column that no heartbeat writes reads as it did.
  split_ifs with metadata status heartbeat
  · rfl
  · rfl
  · rfl
  · rw [stands, readAfter]
    cases lastBeat log before with
    | none => rfl
    | some earlier =>
        have left := updated_beat earlier before name (before.get name)
        rwa [if_neg metadata, if_neg status, if_neg heartbeat] at left

end

theorem countP_of_stand {log : List Beat} {start devices : List DeviceRow}
    (stand : List.Forall₂ (Stands log) start devices) (id : String) :
    (devices.countP fun device => hasId id device.row) = start.countP fun device => hasId id device.row := by
  induction stand with
  | nil => rfl
  | cons stands _ ih => rw [List.countP_cons, List.countP_cons, ih, stands.selects]

/-! ## Registrations and heartbeats -/

theorem handle_refuses (env : Environment) (user : Backend.User) (db : Database) (s : Submission) :
    ∃ refusal, handle env user db s = (.error refusal, db) := by
  cases wrote : write env user db s with
  | ok written => exact ⟨_, handle_of_written wrote⟩
  | error failure =>
      unfold handle
      rw [wrote]
      exact ⟨_, rfl⟩

section
variable {Token : Type} {api : Api Token} {env : Environment} {db : Database}

theorem serveRegistration_eq (apiKey : String) (info : DeviceInfo) :
    serveRegistration api env apiKey info db = (none, db) := by
  unfold serveRegistration
  split
  · rename_i request _ _
    obtain ⟨refusal, refused⟩ := handle_refuses env noUser db (.registerDevice request)
    rw [refused]
  · rfl

theorem registerAgent_eq (link : Link) (apiKey cachedID : String) (info : DeviceInfo) :
    registerAgent api env link apiKey cachedID info db = (⟨apiKey, cachedID⟩, db) := by
  cases link with
  | requestLost => rfl
  | answerLost => rw [registerAgent, serveRegistration_eq]
  | delivered =>
      rw [registerAgent, serveRegistration_eq]
      rfl

theorem deviceHeartbeat_taken {id : String} {heartbeat : DeviceHeartbeat} {w : Written}
    (made : deviceHeartbeat env db id heartbeat = .ok w) :
    ∃ old row : DeviceRow, (db.rows .devices).filter (fun row => hasId id row.row) = [old] ∧
      old.setAll (Beat.updates ⟨id, env.received, heartbeat⟩ old) = .ok row ∧ w.database = db.replace id row := by
  obtain ⟨old, updates, row, only, assigned, set, -, rfl⟩ := update_eq_ok.mp made
  obtain rfl := Except.ok.inj assigned
  exact ⟨old, row, only, set, rfl⟩

theorem exists_deviceHeartbeat_iff (takes : ∀ row, env.takes .devices row = true) {id : String}
    {heartbeat : DeviceHeartbeat} : (∃ w, deviceHeartbeat env db id heartbeat = .ok w) ↔
      ((db.rows .devices).countP fun device => hasId id device.row) = 1 := by
  rw [List.countP_eq_length_filter, List.length_eq_one_iff]
  constructor
  · rintro ⟨w, made⟩
    obtain ⟨old, -, only, -⟩ := deviceHeartbeat_taken made
    exact ⟨old, only⟩
  · rintro ⟨old, only⟩
    obtain ⟨row, set⟩ : ∃ row, old.setAll (Beat.updates ⟨id, env.received, heartbeat⟩ old) = .ok row := by
      apply TypedRow.exists_setAll
      have online : "online".length ≤ 50 := by decide
      simp [Beat.updates, Table.columns, TypedColumn.toColumn, Orm.Column.admits, ColumnType.accepts, online]
    exact ⟨_, update_eq_ok.mpr ⟨old, _, row, only, rfl, set, takes row.row, rfl⟩⟩

inductive Beaten (db : Database) : Database × List Beat → Prop where
  | refused : Beaten db (db, [])
  | taken {old row : DeviceRow} (beat : Beat)
      (only : (db.rows .devices).filter (fun row => hasId beat.deviceId row.row) = [old])
      (made : old.setAll (beat.updates old) = .ok row) : Beaten db (db.replace beat.deviceId row, [beat])

theorem beaten_serveHeartbeat (agent : AgentProcess) (metrics : SystemMetrics) :
    Beaten db (serveHeartbeat api env agent metrics db) := by
  unfold serveHeartbeat
  split
  · rename_i deviceId heartbeat _ _ _
    cases made : deviceHeartbeat env db deviceId heartbeat with
    | error e => exact .refused
    | ok w =>
        obtain ⟨old, row, only, set, after⟩ := deviceHeartbeat_taken made
        simp only
        split_ifs
        · rw [after]
          exact .taken ⟨deviceId, env.received, heartbeat⟩ only set
        · exact .refused
  · exact .refused

theorem replaced_stands {log : List Beat} {start : List DeviceRow} {old row : DeviceRow} {beat : Beat}
    (stand : List.Forall₂ (Stands log) start (db.rows .devices))
    (only : (db.rows .devices).filter (fun row => hasId beat.deviceId row.row) = [old])
    (made : old.setAll (beat.updates old) = .ok row) :
    List.Forall₂ (Stands (log ++ [beat])) start ((db.replace beat.deviceId row).rows .devices) := by
  rw [rows_replace, List.forall₂_map_right_iff]
  have each := (List.forall₂_and_left _ _).mpr ⟨fun device member => eq_of_only only member, stand.flip⟩
  refine (each.imp fun device before h => ?_).flip
  obtain ⟨own, (stands : Stands log before device)⟩ := h
  show Stands (log ++ [beat]) before (if hasId beat.deviceId device.row then row else device)
  split_ifs with here
  · obtain rfl := own here
    exact stands.beaten here made
  · exact stands.other (Bool.eq_false_of_not_eq_true here)

end

/-! ## Runs of a fleet -/

theorem lastStart_concat_start (host other : Nat) (ops : List FleetOp) (apiKey cachedID : String) (info : DeviceInfo)
    (env : Environment) (link : Link) : lastStart host (ops ++ [.start other apiKey cachedID info env link]) =
      if other = host then some ⟨apiKey, cachedID⟩ else lastStart host ops := by
  unfold lastStart
  rw [List.filterMap_append]
  by_cases same : other = host
  · simp [same]
  · simp [same]

theorem lastStart_concat_heartbeat (host other : Nat) (ops : List FleetOp) (metrics : SystemMetrics)
    (env : Environment) (link : Link) :
    lastStart host (ops ++ [.heartbeat other metrics env link]) = lastStart host ops := by
  unfold lastStart
  rw [List.filterMap_append]
  simp

structure Follows (start : Fleet) (ops : List FleetOp) (log : List Beat) (s : Fleet) : Prop where
  devices : List.Forall₂ (Stands log) (start.db.rows .devices) (s.db.rows .devices)
  agents : ∀ host, s.agents host = lastStart host ops

section
variable {Token : Type} {api : Api Token} {start s : Fleet} {ops : List FleetOp} {log : List Beat}

theorem follows_start (idle : ∀ host, start.agents host = none) : Follows start [] [] start where
  devices := List.forall₂_same.mpr fun _ _ _ => rfl
  agents := idle

theorem fleetStep_silent {host : Nat} {link : Link} (silent : s.agents host = none ∨ link = .requestLost)
    (metrics : SystemMetrics) (env : Environment) : fleetStep api s (.heartbeat host metrics env link) = (s, []) := by
  cases up : s.agents host with
  | none => simp only [fleetStep, up]
  | some agent =>
      rcases silent with down | lost
      · cases up.symm.trans down
      · simp only [fleetStep, up, if_pos lost]

theorem fleetStep_sent {host : Nat} {link : Link} {agent : AgentProcess} (up : s.agents host = some agent)
    (sent : link ≠ .requestLost) (metrics : SystemMetrics) (env : Environment) :
    fleetStep api s (.heartbeat host metrics env link) =
      ({ s with db := (serveHeartbeat api env agent metrics s.db).1 },
        (serveHeartbeat api env agent metrics s.db).2) := by
  simp only [fleetStep, up, if_neg sent]

theorem heartbeat_cases (s : Fleet) (host : Nat) (metrics : SystemMetrics) (env : Environment) (link : Link) :
    fleetStep api s (.heartbeat host metrics env link) = (s, []) ∨ ∃ w, Beaten s.db w ∧
      fleetStep api s (.heartbeat host metrics env link) = ({ s with db := w.1 }, w.2) := by
  by_cases lost : link = .requestLost
  · exact Or.inl (fleetStep_silent (Or.inr lost) metrics env)
  · cases up : s.agents host with
    | none => exact Or.inl (fleetStep_silent (Or.inl up) metrics env)
    | some agent => exact Or.inr ⟨_, beaten_serveHeartbeat agent metrics, fleetStep_sent up lost metrics env⟩

theorem Follows.step (follows : Follows start ops log s) (op : FleetOp) :
    Follows start (ops ++ [op]) (log ++ (fleetStep api s op).2) (fleetStep api s op).1 := by
  obtain ⟨devices, agents⟩ := follows
  cases op with
  | start host apiKey cachedID info env link =>
      simp only [fleetStep, registerAgent_eq, List.append_nil]
      refine ⟨devices, fun other => ?_⟩
      rw [lastStart_concat_start]
      split_ifs with same
      · subst same
        exact Function.update_self ..
      · exact (Function.update_of_ne (Ne.symm same) ..).trans (agents other)
  | heartbeat host metrics env link =>
      have still := fun other =>
        (agents other).trans (lastStart_concat_heartbeat other host ops metrics env link).symm
      rcases @heartbeat_cases _ api s host metrics env link with same | ⟨w, served, taken⟩
      · rw [same, List.append_nil]
        exact ⟨devices, still⟩
      · rw [taken]
        cases served with
        | refused => exact ⟨(List.append_nil log).symm ▸ devices, still⟩
        | taken beat only made => exact ⟨replaced_stands devices only made, still⟩

theorem follows_run (api : Api Token) (idle : ∀ host, start.agents host = none) (ops : List FleetOp) :
    Follows start ops (outputs (fleetStep api) start ops) (Interleaving.after (fleetStep api) start ops) := by
  induction ops using List.reverseRecOn with
  | nil => exact follows_start idle
  | append_singleton ops op ih =>
      rw [outputs_append, after_append]
      simpa [outputs, Interleaving.after] using ih.step op

theorem serveHeartbeat_taken_iff {env : Environment} (takes : ∀ row, env.takes .devices row = true)
    (commits : env.commits = true) {db : Database} {agent : AgentProcess} {metrics : SystemMetrics} :
    (serveHeartbeat api env agent metrics db).2 ≠ [] ↔ metrics.heartbeat.isSome = true ∧
      (∃ key, validateAgentApiKey api.security (some agent.apiKey) = .ok key) ∧
      ∃ id ∈ api.deviceOf agent.deviceID, ((db.rows .devices).countP fun device => hasId id device.row) = 1 := by
  unfold serveHeartbeat
  split
  · rename_i key deviceId heartbeat valid named read
    rw [read, named]
    simp only [valid, Option.isSome_some, Option.mem_some, exists_eq_left', true_and]
    have taken : (∃ w, deviceHeartbeat env db deviceId heartbeat = .ok w) ↔
        ((db.rows .devices).countP fun device => hasId deviceId device.row) = 1 := exists_deviceHeartbeat_iff takes
    rw [← taken]
    cases made : deviceHeartbeat env db deviceId heartbeat with
    | ok w => simp [commits]
    | error e => simp
  · rename_i other
    refine iff_of_false (fun beats => beats rfl) ?_
    rintro ⟨read, ⟨key, valid⟩, id, named, -⟩
    obtain ⟨heartbeat, read⟩ := Option.isSome_iff_exists.mp read
    exact other key id heartbeat valid named read

theorem beat_taken_iff {env : Environment} (takes : ∀ row, env.takes .devices row = true)
    (commits : env.commits = true) {host : Nat} {metrics : SystemMetrics} {link : Link} :
    (fleetStep api s (.heartbeat host metrics env link)).2 ≠ [] ↔
      link ≠ .requestLost ∧ metrics.heartbeat.isSome = true ∧ ∃ agent ∈ s.agents host,
        (∃ key, validateAgentApiKey api.security (some agent.apiKey) = .ok key) ∧
        ∃ id ∈ api.deviceOf agent.deviceID,
          ((s.db.rows .devices).countP fun device => hasId id device.row) = 1 := by
  by_cases lost : link = .requestLost
  · rw [fleetStep_silent (Or.inr lost)]
    exact iff_of_false (fun beats => beats rfl) fun h => h.1 lost
  · cases up : s.agents host with
    | none =>
        rw [fleetStep_silent (Or.inl up)]
        refine iff_of_false (fun beats => beats rfl) ?_
        rintro ⟨-, -, agent, running, -⟩
        cases running
    | some agent =>
        rw [fleetStep_sent up lost, serveHeartbeat_taken_iff takes commits]
        simp only [Option.mem_some, exists_eq_left', ne_eq, lost, not_false_eq_true, true_and]

end

/-- Over every run of agents that start and send heartbeats, with requests and answers lost, no agent is ever given a
device: each works under its `GPI_DEVICE_ID`, the devices are those of the start, each with its own last heartbeat
on it, and a heartbeat is taken exactly where that id names one of them. -/
theorem fleet_never_enrolled {Token : Type} (api : Api Token) (start : Fleet)
    (idle : ∀ host, start.agents host = none) (ops : List FleetOp) :
    let s := Interleaving.after (fleetStep api) start ops
    let log := outputs (fleetStep api) start ops
    (∀ host, s.agents host = lastStart host ops) ∧
      List.Forall₂ (Stands log) (start.db.rows .devices) (s.db.rows .devices) ∧
      ∀ host metrics env link, (∀ row, env.takes .devices row = true) → env.commits = true →
        ((fleetStep api s (.heartbeat host metrics env link)).2 ≠ [] ↔
          link ≠ .requestLost ∧ metrics.heartbeat.isSome = true ∧ ∃ agent ∈ lastStart host ops,
            (∃ key, validateAgentApiKey api.security (some agent.apiKey) = .ok key) ∧
            ∃ id ∈ api.deviceOf agent.deviceID,
              ((start.db.rows .devices).countP fun device => hasId id device.row) = 1) := by
  intro s log
  obtain ⟨devices, agents⟩ := follows_run api idle ops
  refine ⟨agents, devices, fun host metrics env link takes commits => ?_⟩
  have same := countP_of_stand devices
  rw [beat_taken_iff takes commits, agents host]
  simp only [s, same]

def keyedApi : Api Backend.Claims := ⟨Backend.plainSecurity ["gpi_key"], some⟩

def oneDevice : Database where
  rows
    | .devices => (fill Table.devices.columns [("hostname", some (.str "pi")), ("os_type", some (.str "raspberrypi")),
        ("os_version", some (.str "12")), ("architecture", some (.str "arm64")), ("ram_mb", some (.int 4096)),
        ("cpu_cores", some (.int 4)), ("agent_version", some (.str "2.0.0")), ("status", some (.str "offline"))]
        (Table.defaults "d1" "2026-01-01T00:00:00+00:00" .devices)).toOption.toList
    | _ => []

theorem fleet_never_enrolled_named :
    let info := getDeviceInfo .ascii .linuxArm64 Backend.Responses.server
    let ops : List FleetOp := [.start 0 "gpi_key" "d1" info registrar .delivered]
    (fleetStep keyedApi (Interleaving.after (fleetStep keyedApi) ⟨oneDevice, fun _ => none⟩ ops)
      (.heartbeat 0 ⟨some 3, some 20, some 40, 86400, 12, 90⟩ registrar .answerLost)).2 ≠ [] := by
  intro info ops
  have taken := (fleet_never_enrolled keyedApi ⟨oneDevice, fun _ => none⟩ (fun _ => rfl) ops).2.2 0
    ⟨some 3, some 20, some 40, 86400, 12, 90⟩ registrar .answerLost (fun _ => rfl) rfl
  have key : validateAgentApiKey keyedApi.security (some "gpi_key") = .ok "gpi_key" := by rfl
  have device : ((oneDevice.rows .devices).countP fun device => hasId "d1" device.row) = 1 := by decide +kernel
  exact taken.mpr ⟨by decide, rfl, ⟨"gpi_key", "d1"⟩, rfl, ⟨_, key⟩, "d1", rfl, device⟩

end GuardianPi.EdgeAgent
