import GuardianPi.Backend.RowUpdates

namespace GuardianPi.Backend.Responses
open GuardianPi.Library GuardianPi.Library.Python GuardianPi.Library.Validation

structure SecurityPosture where
  postureScore : Int
  totalDevices : Nat
  onlineDevices : Nat
  compromisedDevices : Nat
  openCriticalAlerts : Nat
  status : String

def postureScore (totalDevices compromised openCritical : Nat) : Int :=
  if totalDevices = 0 then 100 else max 0 (100 - compromised * 30 - openCritical * 10)

def getSecurityPosture (db : Database) : SecurityPosture :=
  let totalDevices := (db.rows .devices).length
  let compromised := (db.rows .devices).countP fun device => isText (device.get "status") "compromised"
  let openCritical := (db.rows .alerts).countP fun alert =>
    isText (alert.get "severity") "critical" && isText (alert.get "status") "open"
  let score := postureScore totalDevices compromised openCritical
  { postureScore := score
    totalDevices
    onlineDevices := (db.rows .devices).countP fun device => isText (device.get "status") "online"
    compromisedDevices := compromised
    openCriticalAlerts := openCritical
    status := if 80 ≤ score then "healthy" else if 50 ≤ score then "degraded" else "critical" }

inductive Report where
  | registerDevice (r : DeviceRegisterRequest)
  | deviceHeartbeat (deviceId : String) (heartbeat : DeviceHeartbeat)

def Report.change : Report → Change
  | .registerDevice r => .submit (.registerDevice r)
  | .deviceHeartbeat deviceId heartbeat => .deviceHeartbeat deviceId heartbeat

structure Reported where
  env : Environment
  currentUser : User
  report : Report

def Reported.served (r : Reported) : Served := ⟨r.env, r.currentUser, r.report.change⟩

def reportedStep (db : Database) (r : Reported) : Option Database := some (db.serve r.served)

def verdict (device : TypedRow Table.devices.columns) : Option String :=
  if isText (device.get "status") "compromised" then some "compromised"
  else if isText (device.get "status") "quarantined" then some "quarantined"
  else none

/-- The devices that were compromised or quarantined at the start still are, and the posture is no better. -/
structure NothingCleared (start db : Database) : Prop where
  kept : ∀ (i : Nat) (device : TypedRow Table.devices.columns), (start.rows .devices)[i]? = some device →
    (verdict device).isSome = true → ∃ after : TypedRow Table.devices.columns, (db.rows .devices)[i]? = some after ∧
      after.get "id" = device.get "id" ∧ verdict after = verdict device
  compromised : (getSecurityPosture start).compromisedDevices ≤ (getSecurityPosture db).compromisedDevices
  score : (getSecurityPosture db).postureScore ≤ (getSecurityPosture start).postureScore

def NoClearingHeartbeat (db : Database) (r : Reported) : Prop :=
  ∀ deviceId heartbeat, r.report = .deviceHeartbeat deviceId heartbeat → (∃ w, r.served.Responds db w) →
    ∀ device ∈ db.rows .devices, hasId deviceId device.row = true → verdict device = none

section
variable {env : Environment} {start db : Database} {r : Reported} {w : Written}

inductive Noted (db : Database) (r : Reported) : Prop where
  | untouched (rows : (db.serve r.served).rows .devices = db.rows .devices) (nothing : NoClearingHeartbeat db r)
  | registered (device : TypedRow Table.devices.columns) (online : verdict device = none)
      (rows : (db.serve r.served).rows .devices = db.rows .devices ++ [device]) (nothing : NoClearingHeartbeat db r)
  | heartbeat (id : String) (old device : TypedRow Table.devices.columns)
      (only : (db.rows .devices).filter (fun row => hasId id row.row) = [old])
      (same : device.get "id" = old.get "id") (online : verdict device = none)
      (after : db.serve r.served = db.replace id device) (iff : NoClearingHeartbeat db r ↔ verdict old = none)

theorem verdict_online {device : TypedRow Table.devices.columns} (status : device.get "status" = some (.str "online")) :
    verdict device = none := by
  unfold verdict
  rw [status]
  rfl

theorem registerDevice_eq_ok {r : DeviceRegisterRequest} (made : registerDevice env db r = .ok w) :
    ∃ device : TypedRow Table.devices.columns, verdict device = none ∧ w.database = db.append device := by
  obtain ⟨row, filled, -, rfl⟩ := insert_eq_ok.mp made
  exact ⟨row, verdict_online (get_of_insert filled (by decide +kernel)), rfl⟩

theorem deviceHeartbeat_eq_ok {id : String} {heartbeat : DeviceHeartbeat}
    (made : deviceHeartbeat env db id heartbeat = .ok w) :
    ∃ old device, (db.rows .devices).filter (fun row => hasId id row.row) = [old] ∧
      device.get "id" = old.get "id" ∧ verdict device = none ∧ w.database = db.replace id device := by
  obtain ⟨old, updates, device, only, assigned, set, -, rfl⟩ := update_eq_ok.mp made
  obtain rfl := Except.ok.inj assigned
  have read := get_of_updates (by simp [Table.columns]) set
  refine ⟨old, device, only, ?_, verdict_online ?_, rfl⟩
  · simp [read, TypedRow.updated]
  · simp [read, TypedRow.updated]

theorem noted_serve (db : Database) (r : Reported) : Noted db r := by
  rcases serve_cases db r.served with ⟨same, refused⟩ | ⟨w, responds, after⟩
  · refine .untouched (congrArg (Database.rows · _) same) fun _ _ _ answered => ?_
    exact absurd answered.choose_spec (refused _)
  · have made := responds
    unfold Served.Responds Reported.served at made
    cases report : r.report with
    | registerDevice request =>
        rw [report] at made
        obtain ⟨device, online, appended⟩ := registerDevice_eq_ok made
        refine .registered device online (by rw [after, appended, rows_append]) ?_
        intro id beat other
        cases report.symm.trans other
    | deviceHeartbeat id beat =>
        rw [report] at made
        obtain ⟨old, device, only, same, online, replaced⟩ := deviceHeartbeat_eq_ok made
        refine .heartbeat id old device only same online (after.trans replaced) ⟨?_, ?_⟩
        · intro nothing
          obtain ⟨member, same⟩ := mem_of_only only
          exact nothing id beat report ⟨_, responds⟩ old member same
        · intro unflagged id' beat' other _ device' among same
          obtain ⟨rfl, -⟩ := Report.deviceHeartbeat.inj (report.symm.trans other)
          rw [eq_of_only only among same]
          exact unflagged

theorem alerts_serve : (db.serve r.served).rows .alerts = db.rows .alerts := by
  apply serve_rows_other
  unfold Reported.served
  cases r.report <;> exact nofun

def verdicts (db : Database) : List (Option Attribute × Option String) :=
  (db.rows .devices).map fun device => (device.get "id", verdict device)

structure Kept (start db : Database) : Prop where
  devices : ∃ new, verdicts db = verdicts start ++ new ∧ ∀ v ∈ new, v.2 = none
  alerts : db.rows .alerts = start.rows .alerts

theorem kept_serve (kept : Kept start db) (nothing : NoClearingHeartbeat db r) : Kept start (db.serve r.served) := by
  refine ⟨?_, alerts_serve.trans kept.alerts⟩
  obtain ⟨new, devices, none⟩ := kept.devices
  unfold verdicts at devices ⊢
  cases noted_serve db r with
  | untouched rows _ =>
      rw [rows]
      exact ⟨new, devices, none⟩
  | registered device online rows _ =>
      refine ⟨new ++ [(device.get "id", verdict device)], ?_, ?_⟩
      · rw [rows, List.map_append, devices, List.append_assoc]
        rfl
      · exact List.forall_mem_append.mpr ⟨none, List.forall_mem_singleton.mpr online⟩
  | heartbeat id old device only same online after iff =>
      refine ⟨new, ?_, none⟩
      rw [after, rows_replace, List.map_map, ← devices]
      refine List.map_congr_left fun row member => ?_
      dsimp only [Function.comp]
      split_ifs with here
      · obtain rfl := eq_of_only only member here
        rw [same, online, iff.mp nothing]
      · rfl

theorem compromised_eq (db : Database) : (getSecurityPosture db).compromisedDevices =
    (verdicts db).countP fun v => v.2 = some "compromised" := by
  unfold getSecurityPosture verdicts
  rw [List.countP_map]
  refine List.countP_congr fun device _ => ?_
  unfold verdict
  dsimp only [Function.comp]
  split_ifs with compromised <;> simp [compromised]

theorem nothingCleared_of_kept (kept : Kept start db) : NothingCleared start db := by
  obtain ⟨new, devices, none⟩ := kept.devices
  have compromised : (getSecurityPosture db).compromisedDevices = (getSecurityPosture start).compromisedDevices := by
    have added : new.countP (fun v => v.2 = some "compromised") = 0 := by
      refine List.countP_eq_zero.mpr fun v member => ?_
      rw [none v member]
      simp
    rw [compromised_eq, compromised_eq, devices, List.countP_append, added, Nat.add_zero]
  have total : (start.rows .devices).length ≤ (db.rows .devices).length := by
    have lengths := congrArg List.length devices
    simp only [verdicts, List.length_append, List.length_map] at lengths
    omega
  refine ⟨?_, compromised.ge, ?_⟩
  · intro i device found flagged
    have before : (verdicts start)[i]? = some (device.get "id", verdict device) := by
      rw [verdicts, List.getElem?_map, found]
      rfl
    have later : (verdicts db)[i]? = some (device.get "id", verdict device) := by
      rw [devices, List.getElem?_append_left (List.getElem?_eq_some_iff.mp before).1, before]
    rw [verdicts, List.getElem?_map] at later
    obtain ⟨after, there, same⟩ := Option.map_eq_some_iff.mp later
    obtain ⟨identity, verdict⟩ := Prod.mk.inj same
    exact ⟨after, there, identity, verdict⟩
  · have openCritical : (getSecurityPosture db).openCriticalAlerts = (getSecurityPosture start).openCriticalAlerts := by
      unfold getSecurityPosture
      rw [kept.alerts]
    show postureScore _ (getSecurityPosture db).compromisedDevices (getSecurityPosture db).openCriticalAlerts ≤
      postureScore _ (getSecurityPosture start).compromisedDevices (getSecurityPosture start).openCriticalAlerts
    rw [compromised, openCritical]
    unfold postureScore
    split_ifs with noneNow noneBefore
    · exact le_rfl
    · omega
    · omega
    · exact le_rfl

theorem nothingCleared_serve_iff (kept : Kept start db) :
    NothingCleared start (db.serve r.served) ↔ NoClearingHeartbeat db r := by
  constructor
  · intro cleared
    cases noted_serve db r with
    | untouched _ nothing => exact nothing
    | registered _ _ _ nothing => exact nothing
    | heartbeat id old device only same online after iff =>
        refine iff.mpr ?_
        by_contra flagged
        obtain ⟨member, here⟩ := mem_of_only only
        obtain ⟨i, found⟩ := List.getElem?_of_mem member
        obtain ⟨new, devices, none⟩ := kept.devices
        have now : (verdicts db)[i]? = some (old.get "id", verdict old) := by
          rw [verdicts, List.getElem?_map, found]
          rfl
        have inside : i < (verdicts start).length := by
          by_contra outside
          rw [devices, List.getElem?_append_right (Nat.le_of_not_lt outside)] at now
          exact flagged (none _ (List.mem_of_getElem? now))
        rw [devices, List.getElem?_append_left inside, verdicts, List.getElem?_map] at now
        obtain ⟨first, there, equal⟩ := Option.map_eq_some_iff.mp now
        obtain ⟨-, verdict⟩ := Prod.mk.inj equal
        obtain ⟨later, reached, -, kept⟩ := cleared.kept i first there (verdict ▸ Option.isSome_iff_ne_none.mpr flagged)
        rw [after, rows_replace, List.getElem?_map, found] at reached
        obtain rfl := Option.some.inj reached
        dsimp only at kept
        rw [if_pos here, online, verdict] at kept
        exact flagged kept.symm
  · intro nothing
    exact nothingCleared_of_kept (kept_serve kept nothing)

end

theorem nothing_cleared_iff (start : Database) (requests : List Reported) :
    Always reportedStep (NothingCleared start) start requests ↔ Along reportedStep NoClearingHeartbeat start requests := by
  have kept : Kept start start := ⟨⟨[], (List.append_nil _).symm, nofun⟩, rfl⟩
  refine always_total_iff_along kept (nothingCleared_of_kept kept) (fun db r kept _ => ?_) requests
  have here := nothingCleared_serve_iff (r := r) kept
  exact ⟨here, fun cleared => kept_serve kept (here.mp cleared)⟩

def oneCompromised : Database where
  rows
    | .devices => (fill Table.devices.columns [("hostname", some (.str "gateway")), ("os_type", some (.str "linux")),
        ("os_version", some (.str "6.1")), ("architecture", some (.str "arm64")), ("ram_mb", some (.int 4096)),
        ("cpu_cores", some (.int 4)), ("agent_version", some (.str "2.0.0")), ("status", some (.str "compromised"))]
        (Table.defaults "d1" "2026-01-01T00:00:00+00:00" .devices)).toOption.toList
    | _ => []

def idleHeartbeat : Reported where
  env := ⟨strictRules, .ok, .ok, "", "2026-01-01T00:05:00+00:00", "2026-01-01T00:05:00+00:00", fun _ _ => true, true⟩
  currentUser := ⟨"", "", "", "", "", true, none⟩
  report := .deviceHeartbeat "d1" ⟨.finite 3, .finite 20, .finite 40, 86400, 12, 90⟩

theorem heartbeat_clears_compromise : ¬ Always reportedStep (NothingCleared oneCompromised) oneCompromised [idleHeartbeat] := by
  intro always
  have cleared := always [idleHeartbeat] [] rfl _ rfl
  have before : (getSecurityPosture oneCompromised).compromisedDevices = 1 := by decide +kernel
  have after : (getSecurityPosture (oneCompromised.serve idleHeartbeat.served)).compromisedDevices = 0 := by decide +kernel
  exact absurd (before.ge.trans (cleared.compromised.trans after.le)) (by decide)

end GuardianPi.Backend.Responses
