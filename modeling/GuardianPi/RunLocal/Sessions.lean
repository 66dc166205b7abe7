import GuardianPi.RunLocal.Server

namespace GuardianPi.RunLocal
open GuardianPi.Library GuardianPi.Library.Python GuardianPi.Library.Interleaving
open GuardianPi.Backend (Claims)

section
variable {Token : Type} {host : LocalHost Token} {s : State}

def State.me (host : LocalHost Token) (s : State) (now : Int) (authorization : Option Token) :
    Option (Except Nat User) :=
  s.process.map fun process => getCurrentUser host process s.db now authorization

theorem login_eq_tokens {process : Nat} {db : Tables} {body : List UInt8} {now later : Int} {commits : Bool}
    {access refresh : Token} (answered : login host process db body now later commits = .tokens access refresh) :
    ∃ user ∈ db.users, access = (host.security process).jwt.encode (makeToken user now) ∧
      refresh = (host.security process).jwt.encode (makeRefresh user later) := by
  unfold login at answered
  split at answered
  · cases answered
  split at answered
  · cases answered
  · cases answered
  split at answered
  · split at answered
    · cases answered
    · rename_i user selected
      split at answered
      · split at answered
        · split_ifs at answered
          cases answered
          have member := List.mem_of_mem_filter (selected ▸ List.mem_singleton_self user)
          exact ⟨user, member, rfl, rfl⟩
        · cases answered
        · cases answered
      · cases answered
    · cases answered
  · cases answered

theorem users_step {admin : User} (users : s.db.users = [admin]) (email : admin.email = adminEmail) (op : Op) :
    (serverStep host s op).1.db.users = [admin] := by
  cases kind : op.isStart with
  | true =>
      cases op with
      | start m =>
          have filled : seedData m s.db = some s.db := by
            rw [seedData, users, List.filter_singleton, decide_eq_true email]
            rfl
          simp only [serverStep, State.answer, filled]
          exact users
      | _ => cases kind
  | false =>
      cases up : s.process with
      | none =>
          rw [serverStep_down kind up]
          exact users
      | some process =>
          rw [serverStep_up kind up]
          cases op with
          | start m => cases kind
          | login body now later commits => exact users
          | ingest body ids now =>
              rcases ingest_cases host s.db body ids now with refused | ⟨events, pending, answered, -⟩
              · rw [State.serve, refused]
                exact users
              · rw [State.serve, answered]
                exact users
          | ackAlert alertId commits =>
              unfold State.serve ackAlert
              dsimp only
              split
              · exact users
              · split_ifs <;> exact users
              · exact users

theorem users_after {admin : User} (email : admin.email = adminEmail) (users : s.db.users = [admin])
    (ops : List Op) : (Interleaving.after (serverStep host) s ops).db.users = [admin] := by
  induction ops generalizing s with
  | nil => exact users
  | cons op ops ih => exact ih (users_step users email op)

theorem starts_step {process : Nat} (early : process < s.starts) (op : Op) :
    process < (serverStep host s op).1.starts ∧ ((serverStep host s op).1.process = some process ↔
      s.process = some process ∧ op.isStart = false) := by
  cases kind : op.isStart with
  | true =>
      cases op with
      | start m =>
          cases filled : seedData m s.db with
          | some db =>
              simp only [serverStep, State.answer, filled, Option.some.injEq]
              refine ⟨Nat.lt_succ_of_lt early, iff_of_false (Nat.ne_of_gt early) ?_⟩
              simp
          | none =>
              simp only [serverStep, State.answer, filled]
              refine ⟨Nat.lt_succ_of_lt early, ?_⟩
              simp
      | _ => cases kind
  | false =>
      cases up : s.process with
      | none =>
          rw [serverStep_down kind up]
          simp [up, early]
      | some running =>
          rw [serverStep_up kind up]
          simp [up, early]

theorem process_after {process : Nat} (early : process < s.starts) (ops : List Op) :
    (Interleaving.after (serverStep host) s ops).process = some process ↔
      s.process = some process ∧ ∀ op ∈ ops, op.isStart = false := by
  induction ops generalizing s with
  | nil => simp [Interleaving.after]
  | cons op ops ih =>
      obtain ⟨later, same⟩ := @starts_step _ host s process early op
      rw [Interleaving.after, ih later, same, List.forall_mem_cons, and_assoc]

theorem process_lt_step (early : ∀ process, s.process = some process → process < s.starts) (op : Op) {process : Nat}
    (runs : (serverStep host s op).1.process = some process) : process < (serverStep host s op).1.starts := by
  cases kind : op.isStart with
  | true =>
      cases op with
      | start m =>
          cases filled : seedData m s.db with
          | some db =>
              simp only [serverStep, State.answer, filled, Option.some.injEq] at runs ⊢
              exact runs ▸ Nat.lt_succ_self _
          | none =>
              simp only [serverStep, State.answer, filled] at runs
              cases runs
      | _ => cases kind
  | false =>
      cases up : s.process with
      | none =>
          rw [serverStep_down kind up] at runs ⊢
          exact early process runs
      | some running =>
          rw [serverStep_up kind up] at runs ⊢
          exact early process runs

theorem process_lt_starts (ops : List Op) {process : Nat} (runs : (serverAfter host ops).process = some process) :
    process < (serverAfter host ops).starts := by
  induction ops using List.reverseRecOn generalizing process with
  | nil => cases runs
  | append_singleton ops op ih =>
      rw [serverAfter, after_append] at runs ⊢
      exact process_lt_step (fun _ running => ih running) op runs

theorem plainClaims_makeToken (user : User) (now : Int) : Backend.PlainClaims (makeToken user now) := by
  refine ⟨?_, ?_, ⟨_, rfl⟩, ?_⟩ <;> simp [makeToken, Json.lookup]

theorem plainClaims_makeRefresh (user : User) (now : Int) : Backend.PlainClaims (makeRefresh user now) := by
  refine ⟨?_, ?_, ⟨_, rfl⟩, ?_⟩ <;> simp [makeRefresh, Json.lookup]

theorem getCurrentUser_iff {process : Nat} {db : Tables} {admin : User} (users : db.users = [admin])
    {payload : Claims} (plain : Backend.PlainClaims payload) {expire now : Int} (expires : Json.lookup "exp" payload = some (.num (.int expire)))
    (sub : Json.lookup "sub" payload = some (.str admin.id)) :
    getCurrentUser host process db now (some ((host.security process).jwt.encode payload)) = .ok admin ↔
      now ≤ expire := by
  have own : [admin].filter (fun user => Value.isStr (.str admin.id) user.id) = [admin] := by
    simp [Value.isStr]
  have decodes (claims : Claims) : (host.security process).jwt.decode now
      ((host.security process).jwt.encode payload) = some claims ↔ claims = payload ∧ now ≤ expire :=
    Backend.decode_encode_iff plain expires
  unfold getCurrentUser
  cases decoded : (host.security process).jwt.decode now ((host.security process).jwt.encode payload) with
  | none =>
      have expired : ¬ now ≤ expire := by
        intro live
        rw [(decodes payload).mpr ⟨rfl, live⟩] at decoded
        cases decoded
      simp only [decoded]
      exact iff_of_false (fun admitted => by cases admitted) expired
  | some claims =>
      obtain ⟨rfl, live⟩ := (decodes claims).mp decoded
      simp only [decoded, sub, users, own]
      exact iff_of_true trivial live

theorem me_iff {process : Nat} {admin : User} (users : s.db.users = [admin]) {payload : Claims}
    (plain : Backend.PlainClaims payload) {expire now : Int} (expires : Json.lookup "exp" payload = some (.num (.int expire)))
    (sub : Json.lookup "sub" payload = some (.str admin.id)) :
    s.me host now (some ((host.security process).jwt.encode payload)) = some (.ok admin) ↔
      s.process = some process ∧ now ≤ expire := by
  unfold State.me
  cases running : s.process with
  | none => simp
  | some other =>
      rw [Option.map_some, Option.some.injEq, Option.some.injEq]
      by_cases same : other = process
      · subst same
        rw [getCurrentUser_iff users plain expires sub]
        simp
      · have foreign := host.apart other process now payload same
        have refused : getCurrentUser host other s.db now (some ((host.security process).jwt.encode payload)) =
            .error 401 := by
          rw [getCurrentUser, foreign]
        rw [refused]
        exact iff_of_false (fun admitted => by cases admitted) fun h => same h.1

end

/-- The server has one account, and both tokens of a login open `/me` to it until they expire or the server
starts again. -/
theorem local_sessions {Token : Type} (host : LocalHost Token) (past later : List Op) (body : List UInt8)
    (t₀ t₁ : Int) (commits : Bool) (access refresh : Token)
    (answered : ((serverAfter host past).answer host (.login body t₀ t₁ commits)).2 = .tokens access refresh) :
    let s := serverAfter host (past ++ .login body t₀ t₁ commits :: later)
    ∃ admin, (serverAfter host past).db.users = [admin] ∧ s.db.users = [admin] ∧ ∀ now,
      (s.me host now (some access) = some (.ok admin) ↔
        (∀ op ∈ later, op.isStart = false) ∧ now ≤ t₀ + 3600) ∧
      (s.me host now (some refresh) = some (.ok admin) ↔
        (∀ op ∈ later, op.isStart = false) ∧ now ≤ t₁ + 604800) := by
  intro s
  have early := @process_lt_starts _ host past
  have book := book_run host past
  -- `b` is the state before the login, which changes nothing of it.
  generalize before : serverAfter host past = b at answered book early ⊢
  have request : Op.isStart (.login body t₀ t₁ commits) = false := rfl
  cases up : b.process with
  | none =>
      simp only [State.answer, up] at answered
      cases answered
  | some process =>
      simp only [State.answer, up, State.serve] at answered
      obtain ⟨user, member, rfl, rfl⟩ := login_eq_tokens answered
      obtain ⟨admin, users, email⟩ : ∃ admin, b.db.users = [admin] ∧ admin.email = adminEmail := by
        cases ever : (serverLog host past).any Exchange.started with
        | true => exact (book.seeded ever).users
        | false =>
            have idle := (book.unseeded ever).2.1
            rw [up] at idle
            cases idle
      obtain rfl : user = admin := by
        rw [users] at member
        exact List.mem_singleton.mp member
      have same : s = Interleaving.after (serverStep host) b (.login body t₀ t₁ commits :: later) := by
        rw [← before, ← after_append]
      have kept : s.db.users = [user] := same ▸ users_after email users _
      have runs : s.process = some process ↔ ∀ op ∈ later, op.isStart = false := by
        rw [same, process_after (early up), List.forall_mem_cons]
        simp [up, request]
      refine ⟨user, users, kept, fun now => ⟨?_, ?_⟩⟩
      · rw [me_iff kept (plainClaims_makeToken _ _) rfl rfl, runs]
      · rw [me_iff kept (plainClaims_makeRefresh _ _) rfl rfl, runs]

def adminLogin : List UInt8 := dumps (.obj [("email", .str adminEmail), ("password", .str "admin123456")])

theorem local_sessions_ended :
    let s := serverAfter keyedHost [.start minted, .login adminLogin 0 0 true, .start minted]
    s.db.users = [minted.admin] ∧
      s.me keyedHost 0 (some (0, makeToken minted.admin 0)) ≠ some (.ok minted.admin) := by
  intro s
  have parsed : parseBody keyedHost adminLogin =
      some (.obj [("email", .str adminEmail), ("password", .str "admin123456")]) := by
    rw [parseBody, adminLogin, loadsBytes_dumps]
    rfl
  have answered : ((serverAfter keyedHost [.start minted]).answer keyedHost (.login adminLogin 0 0 true)).2 =
      .tokens (0, makeToken minted.admin 0) (0, makeRefresh minted.admin 0) := by
    have up : (serverAfter keyedHost [.start minted]).process = some 0 := rfl
    simp only [State.answer, up, State.serve, login, parsed]
    rfl
  obtain ⟨admin, users, kept, opens⟩ := local_sessions keyedHost [.start minted] [.start minted] _ _ _ _ _ _ answered
  obtain rfl : minted.admin = admin := List.singleton_inj.mp users
  refine ⟨kept, fun admitted => ?_⟩
  have quiet := ((opens 0).1.mp admitted).1 _ List.mem_cons_self
  cases quiet

end GuardianPi.RunLocal
