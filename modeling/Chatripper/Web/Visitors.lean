import Mathlib
import Chatripper.Impersonation

/-!
# Who is answered over HTTP

A login makes a session, and a request that brings its token is answered as the user of the session.  The
two lookups of `get_user` are steps of their own here, between which clients and other requests do what
they like.

* `get_user_phases`       the two lookups are `WebSessionStore::get_user`;
* `Host.run_clients`      for the clients, a run goes on without the requests;
* `served_by_password`    whoever is answered has given the password of the account.
-/

namespace Chatripper
open ByteStr Utf8 Outcome

namespace Web

/-! ## the two lookups of a request -/

namespace WebSessionStore

/-- the first lookup: the token of a request, if it is good -/
def checkToken (cookies : List Bytes) (now refreshed : Int) (s : WebSessionStore) :
    Option QString × WebSessionStore :=
  let token := tokenFromRequest cookies
  if token = [] then (none, s)
  else
    let (valid, s) := validateToken token now refreshed s
    if !valid then (none, s) else (some token, s)

/-- the second lookup: the account of a token -/
def userOf (accounts_lookup_name : QHash Bytes AccId) (token : QString) (s : WebSessionStore) :
    Option AccId :=
  let username := usernameForToken token s
  if username = [] then none else accounts_lookup_name[toUtf8 username]?

/-- a request is answered by its two lookups, with what others do between them -/
theorem get_user_phases (accounts_lookup_name : QHash Bytes AccId) (cookies : List Bytes)
    (now refreshed : Int) (between : List SessionCall) (s : WebSessionStore) :
    (get_user accounts_lookup_name cookies now refreshed between s).1 =
      (checkToken cookies now refreshed s).1.bind fun token =>
        userOf accounts_lookup_name token (after (checkToken cookies now refreshed s).2 between) := by
  unfold get_user checkToken userOf
  dsimp only
  split
  · rfl
  · cases validateToken (tokenFromRequest cookies) now refreshed s with
    | mk valid s' =>
      cases valid with
      | false => rfl
      | true =>
        dsimp only
        rw [Bool.not_true, if_neg Bool.false_ne_true, if_neg Bool.false_ne_true, Option.bind_some]
        split <;> rfl

/-- a session that is there after the first lookup was there before it, for the same user -/
theorem checkToken_keeps {cookies : List Bytes} {now refreshed : Int} {s : WebSessionStore} {t : QString}
    {e : SessionEntry} (h : (checkToken cookies now refreshed s).2[t]? = some e) :
    ∃ e', s[t]? = some e' ∧ e'.username = e.username := by
  unfold checkToken validateToken at h
  dsimp only at h
  split at h
  · exact ⟨e, h, rfl⟩
  · cases hget : s[tokenFromRequest cookies]? with
    | none =>
      rw [hget] at h
      exact ⟨e, h, rfl⟩
    | some e' =>
      rw [hget] at h
      dsimp only at h
      split at h
      · have h : (s.erase (tokenFromRequest cookies))[t]? = some e := h
        rw [lookup_erase] at h
        split at h
        · cases h
        · exact ⟨e, h, rfl⟩
      · have h : (s.insert (tokenFromRequest cookies)
            { e' with expires := QDateTime.addSecs refreshed 3600 })[t]? = some e := h
        rw [lookup_insert] at h
        split at h
        · next ht =>
          cases h
          exact ⟨e', ht ▸ hget, rfl⟩
        · exact ⟨e, h, rfl⟩

/-- the account of a token is that of the user of its session -/
theorem userOf_some {accounts_lookup_name : QHash Bytes AccId} {token : QString} {s : WebSessionStore}
    {a : AccId} (h : userOf accounts_lookup_name token s = some a) :
    ∃ e, s[token]? = some e ∧ accounts_lookup_name[toUtf8 e.username]? = some a := by
  unfold userOf usernameForToken at h
  cases he : s[token]? with
  | none =>
    rw [he] at h
    cases h
  | some e =>
    rw [he] at h
    dsimp only at h
    split at h
    · cases h
    · exact ⟨e, rfl, h⟩

end WebSessionStore

/-! ## what a login does -/

namespace AuthRoute

section
variable {Addr : Type} {env : Env} {toString : Addr → QString} {arg : QString → Int → QString}
  {fromJson : Bytes → Option QJsonObject} {token : QString} {created : Int}
  {request : LoginRequest Addr} {server : WebServer} {w : World}

/-- the login makes a session for a user, with a password that the hash accepts -/
def Admits (env : Env) (toString : Addr → QString) (arg : QString → Int → QString)
    (fromJson : Bytes → Option QJsonObject) (token : QString) (created : Int) (username : QString)
    (hash : Bytes) (request : LoginRequest Addr) (server : WebServer) (w : World) : Prop :=
  CreatesSession env toString arg fromJson token created username request server w ∧
    ∃ obj, fromJson request.body = some obj ∧ obj.textOf "username" = username ∧
      env.validatePassword (toUtf8 (obj.textOf "password")) hash = true

variable (env toString arg fromJson token created request server) in
/-- without a handler a login leaves the world alone, and the sessions unless it admits the user of an
account -/
theorem login_cases (hactive : w.snakepit.hasEventHandler .AUTH_SASL_PLAIN = false) :
    (login env toString arg fromJson token created request server w).2 = w ∧
      ((login env toString arg fromJson token created request server w).1.2.webSessions =
          server.webSessions ∨
        ∃ username acc, Account.get_by_name w (toUtf8 username) = some acc ∧
          Admits env toString arg fromJson token created username (w.acc acc).m_password request server
            w) := by
  unfold Admits CreatesSession login
  cases RateLimiter.check toString arg server.limiter (limiterCall request) with
  | mk result limiter =>
    dsimp only
    cases result.allowed with
    | false => exact ⟨rfl, .inl rfl⟩
    | true =>
      rw [Bool.not_true, if_neg Bool.false_ne_true]
      cases hbody : fromJson request.body with
      | none => exact ⟨rfl, .inl rfl⟩
      | some obj =>
        dsimp only
        unfold checkCredentials
        dsimp only
        rw [hactive, if_neg Bool.false_ne_true]
        cases hacc : Account.get_by_name w (toUtf8 (obj.textOf "username")) with
        | none => exact ⟨rfl, .inl rfl⟩
        | some acc =>
          dsimp only
          cases hvalid : env.validatePassword (toUtf8 (obj.textOf "password")) (w.acc acc).m_password with
          | false => exact ⟨rfl, .inl rfl⟩
          | true =>
            exact ⟨rfl, .inr ⟨_, acc, hacc, ⟨rfl, rfl⟩, obj, rfl, rfl, hvalid⟩⟩

end

end AuthRoute

/-! ## the server with both its sides -/

open Worker AuthRoute WebSessionStore

/-- the server, the tokens of the requests between their two lookups, and who was answered -/
structure Host where
  world : World
  server : WebServer
  waiting : List QString := []
  served : List (QString × AccId) := []

/-- an event of the clients, a login with what its session is made with, and the two lookups of a request
that is for users only -/
inductive HostEvent (Addr : Type) where
  | irc (ev : Event)
  | login (request : LoginRequest Addr) (token : QString) (created : Int)
  | check (cookies : List Bytes) (now refreshed : Int)
  | lookup (i : Nat)

/-- the event of the clients, if it is one -/
def HostEvent.irc? {Addr : Type} : HostEvent Addr → Option Event
  | .irc ev => some ev
  | _ => none

namespace Host

section
variable {Addr : Type} (env : Env) (toString : Addr → QString) (arg : QString → Int → QString)
  (fromJson : Bytes → Option QJsonObject)

def step (s : Host) : HostEvent Addr → Except Fault Host
  | .irc ev => do
    let world ← Worker.step env s.world ev
    return { s with world }
  | .login request token created =>
    let ((_, server), world) :=
      login env toString arg fromJson token created request s.server s.world
    return { s with server, world }
  | .check cookies now refreshed =>
    let (token, webSessions) := WebSessionStore.checkToken cookies now refreshed s.server.webSessions
    return { s with
      server := { s.server with webSessions }
      waiting := s.waiting ++ token.toList }
  | .lookup i =>
    match s.waiting[i]? with
    | none => return s
    | some token =>
      let user := userOf s.world.ctx.accounts_lookup_name token s.server.webSessions
      return { s with
        waiting := s.waiting.eraseIdx i
        served := s.served ++ user.toList.map fun a => (token, a) }

/-- a login of the run made the token for a user, with a password that the hash accepts -/
def Admitted (token username : QString) (hash : Bytes) (s : Host) (evs : List (HostEvent Addr)) : Prop :=
  ∃ pre request created post m, evs = pre ++ .login request token created :: post ∧
    run (step env toString arg fromJson) s pre = .ok m ∧
    Admits env toString arg fromJson token created username hash request m.server m.world

end

section
variable {Addr : Type} {env : Env} {toString : Addr → QString} {arg : QString → Int → QString}
  {fromJson : Bytes → Option QJsonObject} {s s' : Host} {evs : List (HostEvent Addr)}

theorem step_irc_ok {ev : Event} (h : step env toString arg fromJson s (.irc ev) = .ok s') :
    ∃ world, Worker.step env s.world ev = .ok world ∧ s' = { s with world } := by
  obtain ⟨world, hw, h⟩ := bind_eq_ok.mp h
  cases h
  exact ⟨world, hw, rfl⟩

/-- **For the clients**, a run goes on without the requests. -/
theorem run_clients (hactive : s.world.snakepit.hasEventHandler .AUTH_SASL_PLAIN = false)
    (hrun : run (step env toString arg fromJson) s evs = .ok s') :
    run (Worker.step env) s.world (evs.filterMap HostEvent.irc?) = .ok s'.world := by
  induction evs generalizing s with
  | nil =>
    cases hrun
    rfl
  | cons ev evs ih =>
    rw [run_cons] at hrun
    obtain ⟨m, hm, hrest⟩ := bind_eq_ok.mp hrun
    cases ev with
    | irc ev =>
      obtain ⟨world, hw, rfl⟩ := step_irc_ok hm
      have hactive' : world.snakepit.hasEventHandler .AUTH_SASL_PLAIN = false := by
        have hrun1 : run (Worker.step env) s.world [ev] = .ok world := by
          rw [run_cons, hw]
          rfl
        unfold SnakePit.hasEventHandler at hactive ⊢
        rw [run_activeEvents hrun1]
        exact hactive
      show run (Worker.step env) s.world (ev :: evs.filterMap HostEvent.irc?) = _
      rw [run_cons, hw]
      exact ih hactive' hrest
    | login request token created =>
      have hworld : m.world = s.world := by
        cases hm
        exact (login_cases env toString arg fromJson token created request s.server hactive).1
      rw [← hworld] at hactive ⊢
      exact ih hactive hrest
    | check cookies now refreshed =>
      have hworld : m.world = s.world := by
        cases hm
        rfl
      rw [← hworld] at hactive ⊢
      exact ih hactive hrest
    | lookup i =>
      have hworld : m.world = s.world := by
        unfold step at hm
        dsimp only at hm
        split at hm <;> cases hm <;> rfl
      rw [← hworld] at hactive ⊢
      exact ih hactive hrest

theorem Admitted.later {token username : QString} {hash : Bytes} {more : List (HostEvent Addr)}
    (h : Admitted env toString arg fromJson token username hash s evs) :
    Admitted env toString arg fromJson token username hash s (evs ++ more) := by
  obtain ⟨pre, request, created, post, m, rfl, hrest⟩ := h
  exact ⟨pre, request, created, post ++ more, m, by rw [List.append_assoc, List.cons_append], hrest⟩

/-- a session is one that a login made, and whoever was answered is the user of one -/
structure Accounted (env : Env) (toString : Addr → QString) (arg : QString → Int → QString)
    (fromJson : Bytes → Option QJsonObject) (s : Host) (evs : List (HostEvent Addr)) (s' : Host) : Prop where
  sessions : ∀ (token : QString) (e : SessionEntry), s'.server.webSessions[token]? = some e → ∃ a,
    Account.get_by_name s.world (toUtf8 e.username) = some a ∧
      Admitted env toString arg fromJson token e.username (s.world.acc a).m_password s evs
  served : ∀ token a, (token, a) ∈ s'.served → ∃ username,
    Account.get_by_name s.world (toUtf8 username) = some a ∧
      Admitted env toString arg fromJson token username (s.world.acc a).m_password s evs

theorem Accounted.later (h : Accounted env toString arg fromJson s evs s') (s'' : Host)
    (hsessions : ∀ (token : QString) (e : SessionEntry), s''.server.webSessions[token]? = some e →
      ∃ e', s'.server.webSessions[token]? = some e' ∧ e'.username = e.username)
    (hserved : s''.served = s'.served) {more : List (HostEvent Addr)} :
    Accounted env toString arg fromJson s (evs ++ more) s'' where
  sessions token e he := by
    obtain ⟨e', he', huser⟩ := hsessions token e he
    obtain ⟨a, ha, hadmitted⟩ := h.sessions token e' he'
    rw [huser] at ha hadmitted
    exact ⟨a, ha, hadmitted.later⟩
  served token a hp := by
    obtain ⟨username, ha, hadmitted⟩ := h.served token a (hserved ▸ hp)
    exact ⟨username, ha, hadmitted.later⟩

/-- an account that a run leads to by its name had the name and its hash from the start -/
theorem named_before (hstart : Loaded s.world)
    (hactive : s.world.snakepit.hasEventHandler .AUTH_SASL_PLAIN = false)
    (hrun : run (step env toString arg fromJson) s evs = .ok s') {n : Bytes} {a : AccId}
    (ha : Account.get_by_name s'.world n = some a) :
    Account.get_by_name s.world n = some a ∧
      (s'.world.acc a).m_password = (s.world.acc a).m_password := by
  have hclients := run_clients hactive hrun
  have hinv := run_registryInv hstart.registryInv hclients
  obtain ⟨hmem, hname, hne⟩ := (hinv.name n a).mp ha
  have hnamed : (s'.world.acc a).m_name = n := hname
  obtain ⟨hlt, hrow⟩ := run_row hclients (hinv.made_lt a hmem) (hnamed ▸ hne)
  have hsame : (s'.world.acc a).m_name = (s.world.acc a).m_name := congrArg AccountRow.username hrow
  exact ⟨(hstart.name n a).mpr ⟨hlt, hsame.symm.trans hnamed⟩, congrArg AccountRow.password hrow⟩

/-- a login that gives the name and the password of an account makes a session of it -/
theorem Accounted.after_login {pre : List (HostEvent Addr)} {m m' : Host} (hstart : Loaded s.world)
    (hactive : s.world.snakepit.hasEventHandler .AUTH_SASL_PLAIN = false)
    (hactivem : m.world.snakepit.hasEventHandler .AUTH_SASL_PLAIN = false)
    (hpre : run (step env toString arg fromJson) s pre = .ok m)
    (hm : Accounted env toString arg fromJson s pre m) {request : LoginRequest Addr} {token : QString}
    {created : Int} (hstep : step env toString arg fromJson m (.login request token created) = .ok m') :
    Accounted env toString arg fromJson s (pre ++ [.login request token created]) m' := by
  have hserved : m'.served = m.served := by
    cases hstep
    rfl
  have hsessions : m'.server.webSessions = (login env toString arg fromJson token created request
      m.server m.world).1.2.webSessions := by
    cases hstep
    rfl
  obtain ⟨-, hsame | ⟨username, a, ha, hadmits⟩⟩ :=
    login_cases env toString arg fromJson token created request m.server hactivem
  · exact hm.later m' (fun _ e he => ⟨e, by rw [← hsame, ← hsessions]; exact he, rfl⟩) hserved
  · obtain ⟨hnamed, hhash⟩ := named_before hstart hactive hpre ha
    rw [hhash] at hadmits
    have hadmitted : Admitted env toString arg fromJson token username (s.world.acc a).m_password s
        (pre ++ [.login request token created]) := ⟨pre, request, created, [], m, rfl, hpre, hadmits⟩
    have hkept : Accounted env toString arg fromJson s (pre ++ [.login request token created])
        { m with served := m'.served } :=
      hm.later { m with served := m'.served } (fun _ e he => ⟨e, he, rfl⟩) hserved
    refine ⟨fun t e he => ?_, hkept.served⟩
    rw [hsessions, hadmits.1.2] at he
    unfold WebSessionStore.createSession at he
    rw [lookup_insert] at he
    split at he
    · next ht =>
      cases he
      exact ⟨a, hnamed, ht ▸ hadmitted⟩
    · obtain ⟨b, hb, hbadmitted⟩ := hm.sessions t e he
      exact ⟨b, hb, hbadmitted.later⟩

/-- whoever is answered is the user of the session of the token, which a login made -/
theorem Accounted.after_lookup {pre : List (HostEvent Addr)} {m m' : Host} (hstart : Loaded s.world)
    (hactive : s.world.snakepit.hasEventHandler .AUTH_SASL_PLAIN = false)
    (hpre : run (step env toString arg fromJson) s pre = .ok m)
    (hm : Accounted env toString arg fromJson s pre m) {i : Nat}
    (hstep : step env toString arg fromJson m (.lookup i) = .ok m') :
    Accounted env toString arg fromJson s (pre ++ [.lookup i]) m' := by
  unfold step at hstep
  dsimp only at hstep
  split at hstep
  · cases hstep
    exact hm.later m (fun _ e he => ⟨e, he, rfl⟩) rfl
  · next token _ =>
    cases hstep
    have hkept : Accounted env toString arg fromJson s (pre ++ [.lookup i]) m :=
      hm.later m (fun _ e he => ⟨e, he, rfl⟩) rfl
    refine ⟨hkept.sessions, fun t a hp => ?_⟩
    rcases List.mem_append.mp hp with hp | hp
    · exact hkept.served t a hp
    · obtain ⟨a', ha', he⟩ := List.mem_map.mp hp
      cases he
      obtain ⟨e, he, hlookup⟩ := userOf_some (Option.mem_toList.mp ha')
      obtain ⟨hnamed, -⟩ := named_before hstart hactive hpre hlookup
      obtain ⟨b, hb, hadmitted⟩ := hkept.sessions token e he
      rw [hnamed] at hb
      cases hb
      exact ⟨e.username, hnamed, hadmitted⟩

/-- **The run** keeps account of the sessions and of the answers. -/
theorem run_accounted (hstart : Loaded s.world)
    (hactive : s.world.snakepit.hasEventHandler .AUTH_SASL_PLAIN = false)
    (hempty : s.server.webSessions = ∅) (hnobody : s.served = [])
    (hrun : run (step env toString arg fromJson) s evs = .ok s') :
    Accounted env toString arg fromJson s evs s' := by
  refine run_history (I := fun evs s' => Accounted env toString arg fromJson s evs s') ?_
    (fun pre m ev m' hpre hm hstep => ?_) hrun
  · refine ⟨fun token e he => ?_, fun token a hp => ?_⟩
    · rw [hempty] at he
      cases he
    · rw [hnobody] at hp
      cases hp
  have hactivem : m.world.snakepit.hasEventHandler .AUTH_SASL_PLAIN = false := by
    unfold SnakePit.hasEventHandler at hactive ⊢
    rw [run_activeEvents (run_clients hactive hpre)]
    exact hactive
  cases ev with
  | irc ev =>
    obtain ⟨world, -, rfl⟩ := step_irc_ok hstep
    exact hm.later { m with world } (fun _ e he => ⟨e, he, rfl⟩) rfl
  | login request token created => exact hm.after_login hstart hactive hactivem hpre hstep
  | check cookies now refreshed =>
    have hserved : m'.served = m.served := by
      cases hstep
      rfl
    have hsessions : m'.server.webSessions =
        (checkToken cookies now refreshed m.server.webSessions).2 := by
      cases hstep
      rfl
    exact hm.later m' (fun _ e he => checkToken_keeps (hsessions ▸ he)) hserved
  | lookup i => exact hm.after_lookup hstart hactive hpre hstep

end

end Host

end Web

open Worker Web Startup

/-- **Nobody is answered without a password.**  After the start and any run of clients and requests since,
while no handler decides on SASL: whoever was answered over HTTP as the user of an account brought a token
that a login of the run had made, and the login gave the name and a password of the row of this account.
For the clients the run is one of theirs alone. -/
theorem served_by_password {Addr : Type} {senv : StartupEnv} {env : Env} {toString : Addr → QString}
    {arg : QString → Int → QString} {fromJson : Bytes → Option QJsonObject} {tables : Tables}
    (htables : tables.WellNamed) {file : Option Startup.Preload} (hfile : ∀ root ∈ file, root.Named)
    {snakepit : SnakePit} (hactive : snakepit.hasEventHandler .AUTH_SASL_PLAIN = false) {uuid : Uuid}
    (huuid : ∀ row ∈ (Ctx.init senv tables file).tables.accounts, row.id < uuid) (limiter : RateLimiter)
    {evs : List (HostEvent Addr)} {s : Host}
    (hrun : run (Host.step env toString arg fromJson)
      ⟨Ctx.launch senv tables file snakepit uuid, ⟨limiter, ∅⟩, [], []⟩ evs = .ok s) :
    run (Worker.step env) (Ctx.launch senv tables file snakepit uuid) (evs.filterMap HostEvent.irc?) =
        .ok s.world ∧
      ∀ token a, (token, a) ∈ s.served →
        ∃ row ∈ (Ctx.init senv tables file).tables.accounts, (s.world.acc a).reg.row = row ∧
          ∃ username, row.username = toUtf8 username ∧ Host.Admitted env toString arg fromJson token
            username row.password ⟨Ctx.launch senv tables file snakepit uuid, ⟨limiter, ∅⟩, [], []⟩ evs := by
  obtain ⟨hsettled, -⟩ := init_settled senv htables hfile
  have hconn (c : ConnId) : (Ctx.init senv tables file).w.conn c = {} :=
    congrFun (init_keepsLogins senv tables file).conn c
  have hstart : Loaded (Ctx.launch senv tables file snakepit uuid) := hsettled.loaded hconn snakepit huuid
  have hclients := Host.run_clients hactive hrun
  refine ⟨hclients, fun token a hp => ?_⟩
  obtain ⟨username, ha, hadmitted⟩ := (Host.run_accounted hstart hactive rfl rfl hrun).served token a hp
  obtain ⟨hlt, hname⟩ := (hstart.name _ _).mp ha
  have hne := hstart.named a hlt
  obtain ⟨hmem, hsame⟩ := run_keepsNamed hstart.registryInv ((hstart.made a).mpr hlt) hne hclients
  obtain ⟨-, hrow⟩ := run_row hclients ((run_registryInv hstart.registryInv hclients).made_lt a hmem)
    (hsame ▸ hne)
  exact ⟨_, hsettled.populated.row a hlt, hrow, username, hname, hadmitted⟩

/-- bob logs in, and asks for the users -/
def bobAsks : List (HostEvent QString) :=
  [.login ⟨"::1".toList, ascii "secret", 0, 0⟩ "t".toList 0, .check [ascii "session=t"] 1 1, .lookup 0]

def bobHost : Host := ⟨Ctx.launch clearStart oneChannel (some joinedFile) {} 100, ⟨{}, ∅⟩, [], []⟩

def bobStep : Host → HostEvent QString → Except Fault Host :=
  Host.step clearEnv id (fun s _ => s) fun body => some (AuthRoute.bobObject body)

set_option maxRecDepth 100000 in
theorem bobAsks_answered : (run bobStep bobHost bobAsks).toOption.map Host.served =
    some [("t".toList, 1)] := by
  unfold bobHost Ctx.launch Ctx.init
  rw [Startup.load_eq]
  decide

theorem served_by_password_bob : ∃ s, run bobStep bobHost bobAsks = .ok s ∧ ("t".toList, 1) ∈ s.served ∧
    ∃ row ∈ (Ctx.init clearStart oneChannel (some joinedFile)).tables.accounts,
      (s.world.acc 1).reg.row = row ∧ ∃ username, row.username = toUtf8 username ∧
        Host.Admitted clearEnv id (fun s _ => s) (fun body => some (AuthRoute.bobObject body)) "t".toList
          username row.password bobHost bobAsks := by
  obtain ⟨s, hs, hserved⟩ := Option.map_eq_some_iff.mp bobAsks_answered
  have hrun : run bobStep bobHost bobAsks = .ok s := by
    cases h : run bobStep bobHost bobAsks with
    | error e =>
      rw [h] at hs
      cases hs
    | ok s' =>
      rw [h] at hs
      cases hs
      rfl
  have hmem : ("t".toList, 1) ∈ s.served := by
    rw [hserved]
    exact List.mem_singleton.mpr rfl
  exact ⟨s, hrun, hmem, (served_by_password wellNamed_oneChannel named_joinedFile rfl
    (by rw [init_tables]; decide) {} hrun).2 _ _ hmem⟩

end Chatripper
