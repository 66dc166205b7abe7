import GuardianPi.Backend.AccessControl

namespace GuardianPi.Mobile
open GuardianPi.Library GuardianPi.Backend

structure Storage (Token : Type) where
  accessToken : Option Token
  refreshToken : Option Token

def Storage.empty {Token : Type} : Storage Token := ⟨none, none⟩

inductive Link where
  | requestLost
  | answerLost
  | delivered
  deriving DecidableEq

inductive Writes where
  | neither
  | accessToken
  | both
  deriving DecidableEq

structure App (Token : Type) where
  accounts : Accounts
  storage : Storage Token

section
variable {Token : Type} (sec : Security Token)

def postLogin (s : Accounts) (email password : String) (now : Int) (m : Minting) :
    Option (TokenResponse Token) × Accounts :=
  if bound : 8 ≤ password.length ∧ password.length ≤ 128 then
    ((Backend.login sec s.users ⟨email, password, bound⟩ now m).toOption.map Prod.fst,
      (accountStep sec s (.login ⟨email, password, bound⟩ now m)).getD s)
  else (none, s)

def postRefresh (s : Accounts) (token : Token) (now : Int) (m : Minting) :
    Option (TokenResponse Token) × Accounts :=
  ((Backend.refreshToken sec s.users now token m).toOption, (accountStep sec s (.refreshToken token now m)).getD s)

def exchanged {Answer : Type} (link : Link) (s : Accounts) (served : Option Answer × Accounts) :
    Option Answer × Accounts :=
  match link with
  | .requestLost => (none, s)
  | .answerLost => (none, served.2)
  | .delivered => served

def login (app : App Token) (email password : String) (now : Int) (m : Minting) (link : Link) (writes : Writes) :
    Bool × App Token :=
  match exchanged link app.accounts (postLogin sec app.accounts email password now m) with
  | (none, accounts) => (false, { app with accounts := accounts })
  | (some data, accounts) =>
      match writes with
      | .neither => (false, { app with accounts := accounts })
      | .accessToken => (false, ⟨accounts, { app.storage with accessToken := some data.accessToken }⟩)
      | .both => (true, ⟨accounts, ⟨some data.accessToken, some data.refreshToken⟩⟩)

def refreshToken (app : App Token) (now : Int) (m : Minting) (link : Link) (written : Bool) : Bool × App Token :=
  match app.storage.refreshToken with
  | none => (false, app)
  | some token =>
      match exchanged link app.accounts (postRefresh sec app.accounts token now m) with
      | (none, accounts) => (false, { app with accounts := accounts })
      | (some data, accounts) =>
          if written then (true, ⟨accounts, { app.storage with accessToken := some data.accessToken }⟩)
          else (false, { app with accounts := accounts })

def logout (app : App Token) (deleted : Bool) : App Token :=
  if deleted then { app with storage := .empty } else app

/-- A whole call of the service, none overlapping another, or what others do to the accounts. -/
inductive AppEvent (Token : Type) where
  | account (event : AccountEvent Token)
  | login (email password : String) (now : Int) (m : Minting) (link : Link) (writes : Writes)
  | refreshToken (now : Int) (m : Minting) (link : Link) (written : Bool)
  | logout (deleted : Bool)

def appStep (app : App Token) : AppEvent Token → Option (App Token)
  | .account event => (accountStep sec app.accounts event).map fun accounts => { app with accounts := accounts }
  | .login email password now m link writes => some (login sec app email password now m link writes).2
  | .refreshToken now m link written => some (refreshToken sec app now m link written).2
  | .logout deleted => some (logout app deleted)

end

/-- The storage fails between the two writes of a login. -/
def AppEvent.Torn {Token : Type} (event : AppEvent Token) : Prop :=
  ∃ email password now m link, event = .login email password now m link .accessToken

/-! ## Sessions -/

/-- Somebody who is signed in: the role that the access token names, and what both tokens were made
of. -/
structure Session where
  subject : String
  role : String
  accessNow : Int
  accessJti : String
  refreshNow : Int
  refreshJti : String

namespace Session

def access (s : Session) : Issue := .access s.subject s.role s.accessNow s.accessJti

def refresh (s : Session) : Issue := .refresh s.subject s.refreshNow s.refreshJti

def ofLogin (user : User) (m : Minting) : Session :=
  ⟨user.id, user.role, m.accessNow, m.accessJti, m.refreshNow, m.refreshJti⟩

def renew (s : Session) (user : User) (m : Minting) : Session :=
  { s with role := user.role, accessNow := m.accessNow, accessJti := m.accessJti }

end Session

structure SignedIn where
  accounts : Accounts
  session : Option Session

section
variable {Token : Type} (sec : Security Token)

def SignedIn.storage (t : SignedIn) : Storage Token :=
  match t.session with
  | none => .empty
  | some s => ⟨some (s.access.token sec), some (s.refresh.token sec)⟩

def SignedIn.app (t : SignedIn) : App Token := ⟨t.accounts, t.storage sec⟩

def credentials (s : Accounts) (email password : String) : Option User :=
  if bound : 8 ≤ password.length ∧ password.length ≤ 128 then
    (authenticate sec s.users ⟨email, password, bound⟩).toOption
  else none

def Session.user (s : Session) (accounts : Accounts) (now : Int) : Option User :=
  if now ≤ s.refresh.expires sec then accounts.users.find? fun user => user.id = s.subject && user.isActive
  else none

/-- What the service is for: a login that is answered signs in, and a refresh keeps a session whose user is
still active. No token is read. -/
def sessionStep (t : SignedIn) : AppEvent Token → Option SignedIn
  | .account event => (accountStep sec t.accounts event).map fun accounts => { t with accounts := accounts }
  | .login email password now m link writes =>
      match credentials sec t.accounts email password with
      | none => some t
      | some user =>
          let accounts : Accounts := ⟨recordLogin t.accounts.users user now, t.accounts.issued ++ user.issues m⟩
          if link = .requestLost then some t
          else some ⟨accounts, if link = .delivered ∧ writes = .both then some (.ofLogin user m) else t.session⟩
  | .refreshToken now m link written =>
      match t.session with
      | none => some t
      | some s =>
          match s.user sec t.accounts now with
          | none => some t
          | some user =>
              let accounts : Accounts := { t.accounts with issued := t.accounts.issued ++ user.issues m }
              if link = .requestLost then some t
              else some ⟨accounts, some (if link = .delivered ∧ written = true then s.renew user m else s)⟩
  | .logout deleted => some { t with session := if deleted then none else t.session }

end

/-! ## The answers of the server -/

section
variable {Token : Type} {sec : Security Token} {accounts : Accounts} {t u : SignedIn}

theorem toOption_eq_some {α : Type} {r : Except Failure α} {x : α} : r.toOption = some x ↔ r = .ok x := by
  cases r with
  | error e => exact iff_of_false nofun nofun
  | ok y => exact ⟨fun same => congrArg _ (Option.some.inj same), fun same => congrArg some (Except.ok.inj same)⟩

theorem find?_active_iff {users : List User} (distinct : (users.map User.id).Nodup) {id : String} {user : User} :
    users.find? (fun u => u.id = id && u.isActive) = some user ↔
      user ∈ users ∧ user.id = id ∧ user.isActive = true := by
  constructor
  · intro found
    have holds := List.find?_some found
    rw [Bool.and_eq_true, decide_eq_true_eq] at holds
    exact ⟨List.mem_of_find?_eq_some found, holds⟩
  · rintro ⟨member, rfl, active⟩
    have some : (users.find? fun u => u.id = user.id && u.isActive).isSome := by
      rw [List.find?_isSome]
      exact ⟨user, member, by simp [active]⟩
    obtain ⟨other, found⟩ := Option.isSome_iff_exists.mp some
    have holds := List.find?_some found
    rw [Bool.and_eq_true, decide_eq_true_eq] at holds
    rw [found, List.inj_on_of_nodup_map distinct (List.mem_of_find?_eq_some found) member holds.1]

theorem session_user_iff (sound : accounts.Sound sec) {s : Session} {now : Int} {user : User} :
    s.user sec accounts now = some user ↔
      now ≤ s.refresh.expires sec ∧ user ∈ accounts.users ∧ user.id = s.subject ∧ user.isActive = true := by
  unfold Session.user
  split_ifs with live
  · rw [find?_active_iff sound.distinct]
    exact ⟨fun active => ⟨live, active⟩, And.right⟩
  · exact iff_of_false nofun fun held => live held.1

theorem refreshUser_session (sound : accounts.Sound sec) {s : Session} (issued : s.refresh ∈ accounts.issued) (now : Int) :
    (refreshUser sec accounts.users now (s.refresh.token sec)).toOption = s.user sec accounts now := by
  refine Option.ext fun user => ?_
  rw [toOption_eq_some, refreshUser_issued sound issued, session_user_iff sound]
  exact and_iff_right rfl

theorem postLogin_eq (email password : String) (now : Int) (m : Minting) :
    postLogin sec accounts email password now m = match credentials sec accounts email password with
      | none => (none, accounts)
      | some user => (some (tokenResponse sec user m),
          ⟨recordLogin accounts.users user now, accounts.issued ++ user.issues m⟩) := by
  unfold postLogin credentials
  split_ifs with bound
  · simp only [Backend.login, accountStep]
    cases authenticate sec accounts.users ⟨email, password, bound⟩ <;> rfl
  · rfl

theorem postRefresh_session (sound : accounts.Sound sec) {s : Session} (issued : s.refresh ∈ accounts.issued) (now : Int)
    (m : Minting) :
    postRefresh sec accounts (s.refresh.token sec) now m = match s.user sec accounts now with
      | none => (none, accounts)
      | some user => (some (tokenResponse sec user m), { accounts with issued := accounts.issued ++ user.issues m }) := by
  rw [← refreshUser_session sound issued]
  simp only [postRefresh, Backend.refreshToken, accountStep]
  cases refreshUser sec accounts.users now (s.refresh.token sec) <;> rfl

/-! ## The service keeps sessions -/

structure SignedIn.Sound (sec : Security Token) (t : SignedIn) : Prop where
  accounts : t.accounts.Sound sec
  issued : ∀ s, t.session = some s → s.access ∈ t.accounts.issued ∧ s.refresh ∈ t.accounts.issued

theorem login_app (t : SignedIn) (email password : String) (now : Int) (m : Minting) (link : Link) {writes : Writes}
    (whole : writes ≠ .accessToken) :
    some (login sec (t.app sec) email password now m link writes).2 =
      (sessionStep sec t (.login email password now m link writes)).map (SignedIn.app sec) := by
  simp only [login, sessionStep]
  rw [show (t.app sec).accounts = t.accounts from rfl, postLogin_eq]
  cases credentials sec t.accounts email password with
  | none => cases link <;> rfl
  | some user => cases link <;> cases writes <;> first | rfl | exact absurd rfl whole

theorem refreshToken_app (sound : t.Sound sec) (now : Int) (m : Minting) (link : Link) (written : Bool) :
    some (refreshToken sec (t.app sec) now m link written).2 =
      (sessionStep sec t (.refreshToken now m link written)).map (SignedIn.app sec) := by
  obtain ⟨accounts, session⟩ := t
  cases session with
  | none => rfl
  | some s =>
      have served := postRefresh_session sound.accounts (sound.issued s rfl).2 now m
      simp only [refreshToken, sessionStep, SignedIn.app, SignedIn.storage]
      rw [served]
      cases found : s.user sec accounts now with
      | none => cases link <;> rfl
      | some user =>
          have renewed : (tokenResponse sec user m).accessToken = (s.renew user m).access.token sec := by
            show sec.jwt.encode (accessPayload sec user.id user.role [] m.accessNow m.accessJti) = _
            rw [((session_user_iff sound.accounts).mp found).2.2.1]
            rfl
          cases link <;> cases written <;> try rfl
          exact congrArg (fun access => some (⟨⟨accounts.users, accounts.issued ++ user.issues m⟩,
            ⟨some access, some (s.refresh.token sec)⟩⟩ : App Token)) renewed

theorem appStep_app (sound : t.Sound sec) {event : AppEvent Token} (whole : ¬ event.Torn) :
    appStep sec (t.app sec) event = (sessionStep sec t event).map (SignedIn.app sec) := by
  cases event with
  | account event =>
      simp only [appStep, sessionStep, Option.map_map]
      rfl
  | login email password now m link writes =>
      apply login_app
      rintro rfl
      exact whole ⟨email, password, now, m, link, rfl⟩
  | refreshToken now m link written => exact refreshToken_app sound now m link written
  | logout deleted => cases deleted <;> rfl

theorem sound_session {accounts : Accounts} {session : Option Session} (sound : t.Sound sec)
    (next : accounts.Sound sec) (kept : ∀ i ∈ t.accounts.issued, i ∈ accounts.issued)
    (held : ∀ s, session = some s → t.session = some s ∨ s.access ∈ accounts.issued ∧ s.refresh ∈ accounts.issued) :
    SignedIn.Sound sec ⟨accounts, session⟩ := by
  refine ⟨next, fun s here => ?_⟩
  rcases held s here with before | issued
  · obtain ⟨access, refresh⟩ := sound.issued s before
    exact ⟨kept _ access, kept _ refresh⟩
  · exact issued

theorem issued_accountStep {s s' : Accounts} {event : AccountEvent Token} (taken : accountStep sec s event = some s') :
    ∀ i ∈ s.issued, i ∈ s'.issued := by
  intro i member
  cases event with
  | addUser user =>
      simp only [accountStep] at taken
      split_ifs at taken
      obtain ⟨users, -, rfl⟩ := Option.map_eq_some_iff.mp taken
      exact member
  | setRole _ _ | setActive _ _ =>
      obtain rfl := Option.some.inj taken
      exact member
  | createUser credentials request id now =>
      simp only [accountStep] at taken
      split_ifs at taken
      cases done : createUser sec s.users now credentials request id <;> rw [done] at taken <;>
        obtain rfl := Option.some.inj taken <;> exact member
  | login request now m =>
      simp only [accountStep] at taken
      cases done : authenticate sec s.users request <;> rw [done] at taken <;> obtain rfl := Option.some.inj taken
      · exact member
      · exact List.mem_append_left _ member
  | refreshToken token now m =>
      simp only [accountStep] at taken
      cases done : refreshUser sec s.users now token <;> rw [done] at taken <;> obtain rfl := Option.some.inj taken
      · exact member
      · exact List.mem_append_left _ member

theorem accountStep_credentials {email password : String} {user : User} (now : Int) (m : Minting)
    (right : credentials sec accounts email password = some user) :
    ∃ event, accountStep sec accounts event =
      some ⟨recordLogin accounts.users user now, accounts.issued ++ user.issues m⟩ := by
  unfold credentials at right
  split_ifs at right with bound
  refine ⟨.login ⟨email, password, bound⟩ now m, ?_⟩
  simp only [accountStep, toOption_eq_some.mp right]

theorem accountStep_session (sound : t.Sound sec) {s : Session} (here : t.session = some s) {now : Int} {user : User}
    (m : Minting) (active : s.user sec t.accounts now = some user) :
    ∃ event, accountStep sec t.accounts event = some { t.accounts with issued := t.accounts.issued ++ user.issues m } := by
  refine ⟨.refreshToken (s.refresh.token sec) now m, ?_⟩
  rw [← refreshUser_session sound.accounts (sound.issued s here).2, toOption_eq_some] at active
  simp only [accountStep, active]

theorem sound_sessionStep (sound : t.Sound sec) {event : AppEvent Token} (taken : sessionStep sec t event = some u) :
    u.Sound sec := by
  cases event with
  | account event =>
      obtain ⟨accounts, done, rfl⟩ := Option.map_eq_some_iff.mp taken
      exact sound_session sound (sound_step sound.accounts done) (issued_accountStep done) fun s => Or.inl
  | login email password now m link writes =>
      simp only [sessionStep] at taken
      cases right : credentials sec t.accounts email password with
      | none =>
          rw [right] at taken
          obtain rfl := Option.some.inj taken
          exact sound
      | some user =>
          obtain ⟨event, done⟩ := accountStep_credentials now m right
          rw [right] at taken
          dsimp only at taken
          split_ifs at taken with lost answered
          · obtain rfl := Option.some.inj taken
            exact sound
          · obtain rfl := Option.some.inj taken
            refine sound_session sound (sound_step sound.accounts done) (issued_accountStep done) fun s here => ?_
            obtain rfl := Option.some.inj here
            exact Or.inr ⟨List.mem_append_right _ List.mem_cons_self,
              List.mem_append_right _ (List.mem_cons_of_mem _ List.mem_cons_self)⟩
          · obtain rfl := Option.some.inj taken
            exact sound_session sound (sound_step sound.accounts done) (issued_accountStep done) fun s => Or.inl
  | refreshToken now m link written =>
      simp only [sessionStep] at taken
      cases here : t.session with
      | none =>
          rw [here] at taken
          obtain rfl := Option.some.inj taken
          exact sound
      | some s =>
          rw [here] at taken
          dsimp only at taken
          cases active : s.user sec t.accounts now with
          | none =>
              rw [active] at taken
              obtain rfl := Option.some.inj taken
              exact sound
          | some user =>
              obtain ⟨event, done⟩ := accountStep_session sound here m active
              rw [active] at taken
              dsimp only at taken
              split_ifs at taken with lost renewed
              · obtain rfl := Option.some.inj taken
                exact sound
              · obtain rfl := Option.some.inj taken
                have same := ((session_user_iff sound.accounts).mp active).2.2.1
                have access : (s.renew user m).access ∈ user.issues m := by
                  unfold Session.access Session.renew User.issues
                  rw [same]
                  exact List.mem_cons_self
                refine sound_session sound (sound_step sound.accounts done) (issued_accountStep done) fun s' later => ?_
                obtain rfl := Option.some.inj later
                refine Or.inr ⟨List.mem_append_right _ access, List.mem_append_left _ ?_⟩
                exact (sound.issued s here).2
              · obtain rfl := Option.some.inj taken
                refine sound_session sound (sound_step sound.accounts done) (issued_accountStep done) fun s' later => ?_
                exact Or.inl (here.trans later)
  | logout deleted =>
      obtain rfl := Option.some.inj taken
      refine sound_session sound sound.accounts (fun _ member => member) fun s here => ?_
      split_ifs at here
      exact Or.inl here

theorem refreshToken_answer (sound : t.Sound sec) {s : Session} (here : t.session = some s) (now : Int) (m : Minting)
    (link : Link) (written : Bool) : (refreshToken sec (t.app sec) now m link written).1 = true ↔
      link = .delivered ∧ written = true ∧ (s.user sec t.accounts now).isSome := by
  have served := postRefresh_session sound.accounts (sound.issued s here).2 now m
  simp only [refreshToken, SignedIn.app, SignedIn.storage, here]
  rw [served]
  cases s.user sec t.accounts now with
  | none => cases link <;> simp [exchanged]
  | some user => cases link <;> cases written <;> simp [exchanged]

end

/-- With one call of the service at a time, and unless the storage fails halfway through a login, the phone's two
tokens are those of one session after every call: it starts with an answered login, outlives lost requests and
answers, is renewed only while its user is active and its first refresh token lives, and admits its user as long as
the server has it active. -/
theorem phone_keeps_one_session {Token : Type} (sec : Security Token) (events : List (AppEvent Token))
    (whole : ∀ event ∈ events, ¬ event.Torn) :
    run (appStep sec) ⟨.empty, .empty⟩ events =
      (run (sessionStep sec) ⟨.empty, none⟩ events).map (SignedIn.app sec) ∧
    ∀ t s, run (sessionStep sec) ⟨.empty, none⟩ events = some t → t.session = some s → ∀ now,
      (∀ user, getCurrentUser sec t.accounts.users now (t.app sec).storage.accessToken = .ok user ↔
        now ≤ s.access.expires sec ∧ user ∈ t.accounts.users ∧ user.id = s.subject ∧ user.isActive = true) ∧
      ∀ m link written, (refreshToken sec (t.app sec) now m link written).1 = true ↔
        link = .delivered ∧ written = true ∧ (s.user sec t.accounts now).isSome := by
  have start : SignedIn.Sound sec ⟨.empty, none⟩ := ⟨sound_empty, nofun⟩
  refine ⟨run_image (f := SignedIn.app sec) (fun _ _ sound whole => appStep_app sound whole)
    (fun _ _ _ sound taken => sound_sessionStep sound taken) start whole, ?_⟩
  intro t s reached here now
  have sound : t.Sound sec := run_invariant (I := fun _ => SignedIn.Sound sec) start
    (fun _ _ _ _ sound taken => sound_sessionStep sound taken) reached
  refine ⟨fun user => ?_, refreshToken_answer sound here now⟩
  have token : (t.app sec).storage.accessToken = some (s.access.token sec) := by
    simp only [SignedIn.app, SignedIn.storage, here]
  rw [token, getCurrentUser_issued sound.accounts (sound.issued s here).1]
  exact and_iff_right rfl

def aUser : User := ⟨"4b0a5e0e-9a3c-4c6e-8f43-0c5b8f2d7a11", "a@example.com", "password", "A", "analyst", true, none⟩

theorem phone_keeps_one_session_renewed :
    let sec := plainSecurity []
    let events : List (AppEvent Claims) := [.account (.addUser aUser),
      .login "a@example.com" "password" 100 ⟨100, "0", 100, "1"⟩ .delivered .both,
      .refreshToken 1900 ⟨1900, "2", 1900, "3"⟩ .answerLost true,
      .refreshToken 1901 ⟨1901, "4", 1901, "5"⟩ .delivered true, .logout false]
    ∃ t, run (sessionStep sec) ⟨.empty, none⟩ events = some t ∧
      run (appStep sec) ⟨.empty, .empty⟩ events = some (t.app sec) ∧
      ∃ user, getCurrentUser sec t.accounts.users 3000 (t.app sec).storage.accessToken = .ok user := by
  intro sec events
  have whole : ∀ event ∈ events, ¬ event.Torn := by
    rintro event member ⟨email, password, now, m, link, rfl⟩
    simp [events] at member
  let s : Session := ⟨aUser.id, "analyst", 1901, "4", 100, "1"⟩
  have session : (run (sessionStep sec) ⟨.empty, none⟩ events).map SignedIn.session = some (some s) := by rfl
  obtain ⟨t, reached, here⟩ := Option.map_eq_some_iff.mp session
  obtain ⟨same, admits⟩ := phone_keeps_one_session sec events whole
  refine ⟨t, reached, ?_, { aUser with lastLogin := some 100 }, ?_⟩
  · rw [same, reached]
    rfl
  · have users : (run (sessionStep sec) ⟨.empty, none⟩ events).map (fun t => t.accounts.users) =
        some [{ aUser with lastLogin := some 100 }] := by rfl
    rw [reached] at users
    have rows : t.accounts.users = [{ aUser with lastLogin := some 100 }] := Option.some.inj users
    rw [(admits t s reached here 3000).1, rows]
    exact ⟨by decide, List.mem_singleton_self _, rfl, rfl⟩

end GuardianPi.Mobile
