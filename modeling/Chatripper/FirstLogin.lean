import Mathlib
import Chatripper.Launch
import Chatripper.MetadataReplies
import Chatripper.Bcrypt.Verdicts
import Chatripper.Web.Login

/-!
# The first login

A user whom the preload file makes is given the hash of the password in the file.  The hash is there
whatever clients do after the start, and both logins let the user in with the password.

* `preload_stores`           a new user is stored with the hash;
* `run_keepsLogin`           a run of the server keeps the name and the hash of an account;
* `preloaded_user_logs_in`   the user logs in, over HTTP and with SASL PLAIN.
-/

namespace Chatripper
open ByteStr Utf8 Outcome

namespace Startup
variable {env : StartupEnv} {s : Startup} {n : Bytes}

/-! ## the hash of a new user -/

/-- nobody has the name yet, and rows can be made -/
structure Awaits (env : StartupEnv) (n : Bytes) (s : Startup) : Prop where
  known : s.ObjectsKnown
  fresh : s.FreshRows env
  absent : s.tables.accountId n = none

theorem Awaits.uncached (h : s.Awaits env n) : Account.get_by_name s.w n = none := by
  cases ha : Account.get_by_name s.w n with
  | none => rfl
  | some a =>
    have hid := h.known.account n (s.w.acc a).m_uid (congrArg (Option.map _) ha)
    rw [h.absent] at hid
    cases hid

theorem Awaits.no_row (h : s.Awaits env n) : (s.tables.accounts.find? fun r => r.username == n) = none :=
  Option.map_eq_none_iff.mp h.absent

/-- the account of another name is made -/
theorem account_get_or_create_awaits (h : s.Awaits env n) {username : Bytes}
    (hplain : toUtf8 (fromUtf8 username) = username) (hne : username ≠ n) (password : Bytes) :
    (s.account_get_or_create env username password).2.Awaits env n := by
  have hopened := account_get_or_create_opened env h.known hplain password
  refine ⟨hopened.known, (hopened.fresh h.fresh).1, ?_⟩
  unfold account_get_or_create
  rw [hplain]
  split
  · exact h.absent
  · split
    · exact h.absent
    · dsimp only [createUuid]
      split
      · show Option.map _ (List.find? _ (s.tables.accounts ++ [_])) = none
        rw [List.find?_append, h.no_row, List.find?_singleton, if_neg (by simpa using hne)]
        rfl
      · exact h.absent

theorem preload_server_awaits {p : Loading} (h : p.s.Awaits env n) {adminAccount : AccId}
    (hadmin : ServerStartup.IsAdmin adminAccount p.s) (name : QString) :
    (preload_server env adminAccount p name).s.Awaits env n ∧
      ServerStartup.IsAdmin adminAccount (preload_server env adminAccount p name).s := by
  obtain ⟨-, haccounts, -⟩ := server_get_or_create_rest env (s := p.s) (toUtf8 name) adminAccount
  obtain ⟨hknown, hlater, -⟩ := server_get_or_create_known env h.known (toUtf8 name) adminAccount
  obtain ⟨-, hfresh⟩ := server_get_or_create_fresh h.fresh (toUtf8 name)
    (Tables.mem_of_accountId hadmin.2)
  have habsent : (p.s.server_get_or_create env (toUtf8 name) adminAccount).2.tables.accountId n = none := by
    unfold Tables.accountId
    rw [haccounts]
    exact h.absent
  have hs : (preload_server env adminAccount p name).s =
      (p.s.server_get_or_create env (toUtf8 name) adminAccount).2 := by
    unfold preload_server
    dsimp only
    generalize p.s.server_get_or_create env (toUtf8 name) adminAccount = r
    obtain ⟨v?, s'⟩ := r
    cases v? <;> rfl
  rw [hs]
  exact ⟨⟨hknown, hfresh, habsent⟩, hadmin.later hlater⟩

variable (env) in
theorem preload_user_s (p : Loading) (user : PreloadUser) : (preload_user env p user).s =
    (p.s.account_get_or_create env (toUtf8 user.name) (toUtf8 user.password)).2 := by
  unfold preload_user
  dsimp only
  generalize p.s.account_get_or_create env (toUtf8 user.name) (toUtf8 user.password) = r
  obtain ⟨a?, s'⟩ := r
  cases a? <;> rfl

/-- the account that is made has the hash of the password -/
theorem account_get_or_create_stores (h : s.Awaits env n) (hname : Nameable n) (password : Bytes) :
    ∃ a, Account.get_by_name (s.account_get_or_create env n password).2.w n = some a ∧
      a < (s.account_get_or_create env n password).2.w.nextAcc ∧
      ((s.account_get_or_create env n password).2.w.acc a).m_password = env.hashPasswordBcrypt password := by
  have hcached : s.w.ctx.accounts_lookup_name[n]? = none := h.uncached
  have hfits : s.tables.AdmitsAccount ⟨env.createUuid s.made, n, env.hashPasswordBcrypt password⟩ := by
    refine ⟨h.fresh.account s.made le_rfl, fun hused => ?_⟩
    obtain ⟨row, hrow, rfl⟩ := List.mem_map.mp hused
    have hid := Tables.accountId_of_mem hrow
    rw [show s.tables.accountId row.username = none from h.absent] at hid
    cases hid
  obtain ⟨hstored, hhash⟩ := Account.create_from_db_stores (w := s.w) (env.createUuid s.made)
    (env.hashPasswordBcrypt password) h.uncached hname.ne_nil
  obtain ⟨w', he, -, hnext, -⟩ := Account.create_from_db_new (w := s.w) (env.createUuid s.made)
    (env.hashPasswordBcrypt password) h.uncached
  unfold account_get_or_create
  rw [hcached, hname.plain, h.no_row]
  dsimp only [createUuid]
  rw [dif_pos hfits]
  refine ⟨_, hstored, ?_, hhash⟩
  dsimp only
  rw [he, hnext]
  exact Nat.lt_succ_self _

/-- the account `n` has the hash -/
def Stores (w : World) (n hash : Bytes) : Prop :=
  ∃ a, Account.get_by_name w n = some a ∧ a < w.nextAcc ∧ (w.acc a).m_password = hash

theorem Stores.later {w w' : World} {hash : Bytes} (h : Stores w n hash) (hk : w.KeepsLogins w') :
    Stores w' n hash := by
  obtain ⟨a, ha, hlt, hhash⟩ := h
  exact ⟨a, hk.name n a ha, hlt.trans_le hk.nextAcc, (hk.password a hlt).trans hhash⟩

/-- the first user of a name that the database does not have -/
structure Preload.NewUser (file : Preload) (tables : Tables) (user : PreloadUser) : Prop where
  first : file.users.find? (fun other => other.name = user.name) = some user
  not_admin : user.name ≠ "admin".toList
  absent : tables.accountId (toUtf8 user.name) = none

/-- the loop over the users stores the first of a name that is awaited -/
theorem preload_users_store {users : List PreloadUser}
    (hnames : ∀ u ∈ users, u.name ≠ [] ∧ u.name.head? ≠ some bom) {user : PreloadUser}
    (hfirst : users.find? (fun other => other.name = user.name) = some user) {p : Loading}
    (hp : p.s.Awaits env (toUtf8 user.name)) :
    Stores (users.foldl (preload_user env) p).s.w (toUtf8 user.name)
      (env.hashPasswordBcrypt (toUtf8 user.password)) := by
  obtain ⟨-, before, after, husers, hothers⟩ := List.find?_eq_some_iff_append.mp hfirst
  have hnameable (u : PreloadUser) (hu : u ∈ users) : Nameable (toUtf8 u.name) :=
    nameable_of_text (hnames u hu).1 (hnames u hu).2
  have hmine := hnameable user (by rw [husers]; simp)
  rw [husers, List.foldl_append, List.foldl_cons]
  have hbefore := foldl_invariant (l := before) (f := preload_user env) (s := p)
    (I := fun p : Loading => p.s.Awaits env (toUtf8 user.name)) (fun p other hother hp => by
      have hnamed := hnameable other (by rw [husers]; exact List.mem_append_left _ hother)
      rw [preload_user_s]
      exact account_get_or_create_awaits hp hnamed.plain (fun h => by
        simpa [Function.LeftInverse.injective decode_toUtf8 h] using hothers other hother) _) hp
  generalize before.foldl (preload_user env) p = q at hbefore
  have hstored : Stores (preload_user env q user).s.w (toUtf8 user.name)
      (env.hashPasswordBcrypt (toUtf8 user.password)) := by
    rw [preload_user_s]
    exact account_get_or_create_stores hbefore hmine _
  exact hstored.later (foldl_keepsLogins (v := fun p : Loading => p.s.w) preload_user_keepsLogins after _)

/-- **A new user** is stored with the hash of the password in the file. -/
theorem preload_stores {tables : Tables} {file : Preload} (hfile : file.Named) {user : PreloadUser}
    (huser : file.NewUser tables user) (hfresh : (ofTables tables).FreshRows env) :
    Stores (Ctx.init env tables (some file)).w (toUtf8 user.name)
      (env.hashPasswordBcrypt (toUtf8 user.password)) := by
  have hstart : (ofTables tables).Awaits env (toUtf8 user.name) :=
    ⟨objectsKnown_ofTables tables, hfresh, huser.absent⟩
  have htext : ascii "admin" = toUtf8 "admin".toList := by decide
  have hne : ascii "admin" ≠ toUtf8 user.name := by
    rw [htext]
    exact fun he => huser.not_admin (Function.LeftInverse.injective decode_toUtf8 he).symm
  -- the administrator, and the servers
  have hopened := account_get_or_create_opened env hstart.known nameable_admin.plain (ascii "admin")
  have hawaits := account_get_or_create_awaits hstart nameable_admin.plain hne (ascii "admin")
  obtain ⟨admin, ha⟩ := Option.isSome_iff_exists.mp (hopened.fresh hfresh).2
  have hisadmin := hopened.account admin ha
  have hkeeps : ((ofTables tables).preload_from_file env (some file)).w.KeepsLogins
      (Ctx.init env tables (some file)).w := load_keepsLogins
  refine Stores.later ?_ hkeeps
  unfold preload_from_file
  dsimp only
  rcases he : (ofTables tables).account_get_or_create env (ascii "admin") (ascii "admin") with ⟨a?, s'⟩
  rw [he] at ha hawaits hisadmin
  cases ha
  dsimp only
  obtain ⟨hservers, -⟩ := foldl_invariant (l := file.servers) (s := { s := s' })
    (I := fun p : Loading => p.s.Awaits env (toUtf8 user.name) ∧ ServerStartup.IsAdmin admin p.s)
    (fun p name _ hp => preload_server_awaits hp.1 hp.2 name) ⟨hawaits, hisadmin⟩
  generalize file.servers.foldl (preload_server env admin) { s := s' } = q at hservers
  -- the users, and the channels, which leave the accounts as they are
  have hstored := preload_users_store (p := { q with
    accountsByName := q.accountsByName.insert "admin".toList admin }) hfile huser.first hservers
  exact hstored.later (foldl_keepsLogins (v := fun p : Loading => p.s.w) preload_channel_keepsLogins _ _)

end Startup

/-! ## a run keeps it -/

namespace Reg

/-- no step changes the hash of an account that was made -/
theorem SysStep.keepsPassword {l : SysLabel} {r r' : Reg} (hstep : SysStep l r r') {a : AccId}
    (ha : a < r.nextAcc) : (r'.acc a).m_password = (r.acc a).m_password := by
  cases hstep with
  | connect => rfl
  | disconnect =>
    rw [disconnect_acc]
    split <;> rfl
  | @conn c _ _ _ _ hstep =>
    cases hstep with
    | registerNew => rw [registerNew_acc, if_neg (Nat.ne_of_lt ha)]
    | @registerOld b =>
      rw [registerOld_acc]
      by_cases hx : a = b
      · rw [if_pos hx, hx]
      · rw [if_neg hx]
    | @rename b =>
      rw [rename_acc]
      by_cases hx : a = b
      · rw [if_pos hx, hx]
      · rw [if_neg hx]
    | @merge d b =>
      show (if a = b then _ else if a = d then _ else r.acc a : AccReg).m_password = _
      by_cases hb : a = b
      · rw [if_pos hb, hb]
        show (if b = d then _ else r.acc b : AccReg).m_password = _
        by_cases hd : b = d
        · rw [if_pos hd, hd]
        · rw [if_neg hd]
      · rw [if_neg hb]
        by_cases hd : a = d
        · rw [if_pos hd, hd]
        · rw [if_neg hd]
    | _ => rfl

end Reg

namespace Worker
open Startup

/-- **A run** keeps the name and the hash of an account. -/
theorem run_keepsLogin {env : Env} {w w' : World} {evs : List Event} {n hash : Bytes}
    (h : w.reg.RegistryInv) (hstores : Stores w n hash) (hrun : run (step env) w evs = .ok w') :
    Stores w' n hash := by
  obtain ⟨a, ha, hlt, hhash⟩ := hstores
  obtain ⟨hmem, hname, hne⟩ := (h.name n a).mp ha
  have hkept := run_inv_of_steps (P := fun _ => True) (C := fun _ _ => True) (I := fun r => r.RegistryInv ∧
      a ∈ r.accounts ∧ (r.acc a).m_name = n ∧ (r.acc a).m_password = hash) (fun _ _ _ _ _ => trivial)
    (fun l r r' _ hI hs => ?_) ⟨h, hmem, hname, hhash⟩ (allSteps_true w evs) hrun
  · obtain ⟨hinv, hmem', hname', hhash'⟩ := hkept
    exact ⟨a, (hinv.name n a).mpr ⟨hmem', hname', hne⟩, hinv.made_lt a hmem', hhash'⟩
  · obtain ⟨hinv, hmem', hname', hhash'⟩ := hI
    have hnamed : (r.acc a).m_name ≠ [] := by
      rw [hname']
      exact hne
    obtain ⟨hmem'', hname''⟩ := hs.keepsNamed hinv hmem' hnamed
    exact ⟨hs.registryInv hinv, hmem'', hname''.trans hname',
      (hs.keepsPassword (hinv.made_lt a hmem')).trans hhash'⟩

end Worker

/-! ## the hash of bcrypt -/

namespace Bcrypt

/-- `sql::hashPasswordBcrypt` of a password as UTF-8, as it is stored -/
def hashPasswordBcrypt (junk seed : Vector UInt8 16) (password : Bytes) : Bytes :=
  toUtf8 (fromUtf8 ((generateHash junk seed (toUtf8 (fromUtf8 password)) 12).getD []))

theorem toUtf8_fromUtf8_ascii {a : Bytes} (h : ∀ x ∈ a, x.toNat < 0x80) : toUtf8 (fromUtf8 a) = a := by
  obtain ⟨s, rfl⟩ := IsUtf8.of_ascii h
  refine toUtf8_fromUtf8.mpr ⟨s, fun hbom => ?_, rfl⟩
  have hfirst : (0xEF : UInt8) ∈ toUtf8 s := by
    cases s with
    | nil => cases hbom
    | cons c s =>
      obtain rfl : c = bom := by simpa using hbom
      exact List.mem_append_left _ List.mem_cons_self
  exact absurd (h _ hfirst) (by decide)

theorem hashPasswordBcrypt_eq (junk seed : Vector UInt8 16) (password : Bytes) :
    hashPasswordBcrypt junk seed password =
      hashed 98 (logRounds 12).toNat seed (toUtf8 (fromUtf8 password)) := by
  unfold hashPasswordBcrypt
  rw [generateHash_eq]
  exact toUtf8_fromUtf8_ascii (hashed_ascii (accepted_logRounds 12).le_31)

end Bcrypt

/-! ## both logins -/

open Startup Worker client_connection Web AuthRoute

/-- a response with a NUL is not taken for the name of the mechanism -/
theorem toBase64_ne_plain {response : Bytes} (h : 0 ∈ response) : toBase64 response ≠ ascii "PLAIN" := by
  intro he
  rw [← fromBase64_toBase64 response, he] at h
  exact absurd h (by decide)

/-- **The first login.**  The user of a new name in the preload file logs in with the password of the file,
or with another that begins with the same 72 bytes, after the start and whatever clients have done since:
over HTTP when the limiter lets the request through, and with SASL PLAIN when the password is not empty. -/
theorem preloaded_user_logs_in {senv : StartupEnv} {env : Env} {junk junk' : Vector UInt8 16}
    {seed : Bytes → Vector UInt8 16}
    (hhash : ∀ pw, senv.hashPasswordBcrypt pw = Bcrypt.hashPasswordBcrypt junk (seed pw) pw)
    (hvalid : ∀ q hash, env.validatePassword q hash = (Bcrypt.validatePassword junk' q hash == some true))
    {tables : Tables} (htables : tables.WellNamed) {file : Preload} (hfile : file.Named)
    {user : PreloadUser} (huser : file.NewUser tables user) (hfresh : (ofTables tables).FreshRows senv)
    {snakepit : SnakePit} {uuid : Uuid}
    (huuid : ∀ row ∈ (Ctx.init senv tables (some file)).tables.accounts, row.id < uuid)
    {evs : List Event} {w : World}
    (hrun : run (step env) (Ctx.launch senv tables (some file) snakepit uuid) evs = .ok w)
    (hactive : w.snakepit.hasEventHandler .AUTH_SASL_PLAIN = false) {password : QString}
    (hpass : (toUtf8 password).take 72 = (toUtf8 (fromUtf8 (toUtf8 user.password))).take 72) :
    (∀ (Addr : Type) (toString : Addr → QString) (arg : QString → Int → QString)
        (fromJson : Bytes → Option QJsonObject) (token : QString) (created : Int)
        (request : LoginRequest Addr) (server : WebServer) (obj : QJsonObject),
        fromJson request.body = some obj → obj.textOf "username" = user.name →
        obj.textOf "password" = password →
        (CreatesSession env toString arg fromJson token created user.name request server w ↔
          allowed toString arg request server = true)) ∧
      ∀ (c : ConnId) (args : List Bytes) (authz : Bytes),
        args.head? = some (toBase64 (authz ++ 0 :: (toUtf8 user.name ++ 0 :: toUtf8 password))) →
        0 ∉ authz → 0 ∉ toUtf8 user.name → 0 ∉ toUtf8 password → password ≠ [] →
        (w.conn c).logged_in = false →
        ∃ w', handleAUTHENTICATE env c args w = .ok w' ∧ (w'.conn c).logged_in = true := by
  have hstart : Loaded (Ctx.launch senv tables (some file) snakepit uuid) := by
    refine (init_settled senv htables ?_).1.loaded (fun c => ?_) snakepit huuid
    · rintro root ⟨⟩
      exact hfile
    · exact congrFun (init_keepsLogins senv tables (some file)).conn c
  have hstored : Stores (Ctx.launch senv tables (some file) snakepit uuid) (toUtf8 user.name)
      (senv.hashPasswordBcrypt (toUtf8 user.password)) := preload_stores hfile huser hfresh
  obtain ⟨acc, hacc, -, hpassword⟩ := run_keepsLogin hstart.registryInv hstored hrun
  rw [hhash, Bcrypt.hashPasswordBcrypt_eq] at hpassword
  have haccepts : env.validatePassword (toUtf8 password) (w.acc acc).m_password = true := by
    rw [hvalid, hpassword, Bcrypt.validatePassword_hashed junk' _ hpass]
    rfl
  have hstored_ne : (w.acc acc).m_password ≠ [] := by
    intro hempty
    have hlength := congrArg List.length hpassword
    rw [hempty, Bcrypt.length_hashed (by decide)] at hlength
    cases hlength
  constructor
  · intro Addr toString arg fromJson token created request server obj hbody hname htext
    rw [login_created_iff hactive hbody hname htext]
    exact and_iff_left ⟨acc, hacc, haccepts⟩
  · intro c args authz hargs hz hu hp hne hout
    have hresponse := fromBase64_toBase64 (authz ++ 0 :: (toUtf8 user.name ++ 0 :: toUtf8 password))
    have hplain := toBase64_ne_plain (List.mem_append_right authz
      (List.mem_cons_self : (0 : UInt8) ∈ 0 :: (toUtf8 user.name ++ 0 :: toUtf8 password)))
    refine (logged_in_plain_iff hactive hargs hplain (saslPlain_parts hresponse hz hu hp) hout).mpr
      ⟨acc, hacc, fun he => hne (toUtf8_eq_nil.mp he), hstored_ne, haccepts⟩

/-! ## bob, from the preload file -/

/-- a start-up that hashes with bcrypt -/
def bcryptStart : StartupEnv :=
  ⟨fun n => n + 4, Bcrypt.hashPasswordBcrypt (Vector.replicate 16 0) (Vector.replicate 16 7)⟩

/-- and a server that checks with it -/
def bcryptEnv : Env :=
  { Env.ascii with
    validatePassword := fun q hash => Bcrypt.validatePassword (Vector.replicate 16 1) q hash == some true }

/-- the server has started, and a client has connected -/
def bobConnected : World :=
  handleConnection false (ascii "127.0.0.1") (Ctx.launch bcryptStart oneChannel (some joinedFile) {} 100)

theorem newUser_bob : joinedFile.NewUser oneChannel ⟨"bob".toList, "secret".toList⟩ where
  first := rfl
  not_admin := by decide
  absent := by decide

theorem freshRows_oneChannel : (ofTables oneChannel).FreshRows bcryptStart where
  distinct _ _ h := Nat.add_right_cancel h
  account n _ h := by simp [oneChannel, ofTables, bcryptStart] at h
  server n _ h := by simp [oneChannel, ofTables, bcryptStart] at h
  channel n _ h := by simp [oneChannel, ofTables, bcryptStart] at h

theorem bobConnected_out : (bobConnected.conn 0).logged_in = false := by
  have hconn := congrFun (init_keepsLogins bcryptStart oneChannel (some joinedFile)).conn 0
  show (if _ = _ then _ else (Ctx.init bcryptStart oneChannel (some joinedFile)).w.conn 0 : Conn).logged_in = _
  split
  · rfl
  · rw [hconn]
    rfl

set_option maxRecDepth 10000 in
theorem preloaded_user_logs_in_bob :
    (CreatesSession bcryptEnv id (fun s _ => s) (fun b => some (bobObject b)) "t".toList 0 "bob".toList
        ⟨"::1".toList, ascii "secret", 0, 0⟩ quietServer bobConnected ↔
      allowed id (fun s _ => s) (⟨"::1".toList, ascii "secret", 0, 0⟩ : LoginRequest QString) quietServer =
        true) ∧
      ∃ w', handleAUTHENTICATE bcryptEnv 0
        [toBase64 ([] ++ 0 :: (toUtf8 "bob".toList ++ 0 :: toUtf8 "secret".toList))] bobConnected = .ok w' ∧
        (w'.conn 0).logged_in = true := by
  have hrun : run (step bcryptEnv) (Ctx.launch bcryptStart oneChannel (some joinedFile) {} 100)
      [.connect false (ascii "127.0.0.1")] = .ok bobConnected := rfl
  have hhash (pw : Bytes) : bcryptStart.hashPasswordBcrypt pw =
      Bcrypt.hashPasswordBcrypt (Vector.replicate 16 0) (Vector.replicate 16 7) pw := rfl
  have hvalid (q hash : Bytes) : bcryptEnv.validatePassword q hash =
      (Bcrypt.validatePassword (Vector.replicate 16 1) q hash == some true) := rfl
  have hpass : (toUtf8 "secret".toList).take 72 = (toUtf8 (fromUtf8 (toUtf8 "secret".toList))).take 72 := rfl
  have h := preloaded_user_logs_in hhash hvalid wellNamed_oneChannel (named_joinedFile joinedFile rfl)
    newUser_bob freshRows_oneChannel (by rw [init_tables]; decide) hrun rfl hpass
  refine ⟨h.1 QString id (fun s _ => s) (fun b => some (bobObject b)) _ _ _ _ _ rfl rfl rfl,
    h.2 0 _ [] rfl ?_ ?_ ?_ ?_ bobConnected_out⟩ <;> decide

end Chatripper
