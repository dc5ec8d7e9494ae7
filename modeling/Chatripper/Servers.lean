import Mathlib
import Chatripper.Core.Roles
import Chatripper.Restore

/-!
# Servers and their members

The preload file over the whole database.  Its part for servers, members and roles leaves the rest of the
start-up as it is.

* `preload_from_file_base`    the rest is what the preload file makes without that part;
* `init_of_start`             the initial load goes on from it.
-/

namespace Chatripper
open ByteStr Utf8

namespace ServerStartup
variable {env : ServerEnv} {s : ServerStartup}

/-! ## the rest of the start-up -/

theorem role_create_from_db_base (row : RoleRow) : (s.role_create_from_db row).2.base = s.base := by
  unfold role_create_from_db
  split <;> rfl

theorem permission_create_from_db_base (row : PermissionRow) :
    (s.permission_create_from_db row).2.base = s.base := by
  unfold permission_create_from_db
  split <;> rfl

theorem permission_get_or_create_base (roleId : Uuid) (flags : Int) :
    (s.permission_get_or_create env roleId flags).2.base = s.base := by
  unfold permission_get_or_create
  split
  · exact permission_create_from_db_base _
  · dsimp only
    split
    · exact permission_create_from_db_base _
    · rfl

theorem insert_account_role_base (account_id role_id : Uuid) :
    (s.insert_account_role account_id role_id).base = s.base := by
  unfold insert_account_role
  split <;> rfl

/-- a loop that leaves the start-up as it is -/
theorem foldl_base {α : Type} {f : ServerStartup → α → ServerStartup} (hf : ∀ s x, (f s x).base = s.base)
    (l : List α) (s : ServerStartup) : (l.foldl f s).base = s.base := by
  induction l generalizing s with
  | nil => rfl
  | cons x l ih => rw [List.foldl_cons, ih, hf]

theorem create_role_for_server_base (server : SrvId) (roleName : QString) (priority : Int)
    (assign : Bool) (perms : Int) :
    (s.create_role_for_server env server roleName priority assign perms).2.base = s.base := by
  unfold create_role_for_server
  dsimp only
  split
  · rfl
  · split
    · exact role_create_from_db_base _
    · split
      · have hassign (s : ServerStartup) (l : List AccId) (r : Uuid) :
            (if assign then
              l.foldl (fun s member => s.insert_account_role (s.base.w.acc member).m_uid r) s
            else s).base = s.base := by
          split
          · exact foldl_base (fun s x => insert_account_role_base _ _) _ _
          · rfl
        dsimp only
        rw [hassign, permission_get_or_create_base]
        exact role_create_from_db_base _
      · rfl

theorem assign_role_to_account_base (accountId : Uuid) (role : RoleRef) :
    (s.assign_role_to_account accountId role).base = s.base := by
  unfold assign_role_to_account
  split
  · rfl
  · exact insert_account_role_base _ _

theorem server_add_member_base (accountId serverId : Uuid) :
    (s.server_add_member accountId serverId).base = s.base := by
  unfold server_add_member
  split
  · rfl
  · split
    · rfl
    · split
      · dsimp only
        split
        · rfl
        · split
          · split <;> rfl
          · rw [assign_role_to_account_base]
            split <;> rfl
      · rfl

theorem load_server_member_base (server : SrvId) (row : MemberRow) :
    (s.load_server_member server row).base = s.base := by
  unfold load_server_member
  split <;> rfl

theorem open_server_base (server : SrvId) (owner : AccId) :
    (s.open_server env server owner).base = s.base := by
  unfold open_server
  dsimp only
  rw [foldl_base fun s row => load_server_member_base server row]
  show (server_add_member _ _ _).base = _
  rw [server_add_member_base, create_role_for_server_base]

theorem server_get_or_create_cached {name : Bytes} {server : SrvId} (owner : AccId)
    (h : s.base.servers_lookup_name[name]? = some server) :
    s.base.server_get_or_create env.toStartupEnv name owner = (some server, s.base) := by
  unfold Startup.server_get_or_create
  rw [h]

theorem open_found_base (owner : AccId) {r : Option SrvId × Startup}
    (h : s.base.tables.Grows r.2.tables) :
    ((s.open_found env owner r h).1, (s.open_found env owner r h).2.base) = r := by
  obtain ⟨v?, base⟩ := r
  cases v? with
  | none => rfl
  | some server => exact Prod.ext rfl (open_server_base server owner)

variable (env) in
theorem server_get_or_create_base (name : Bytes) (owner : AccId) :
    ((s.server_get_or_create env name owner).1, (s.server_get_or_create env name owner).2.base) =
      s.base.server_get_or_create env.toStartupEnv name owner := by
  unfold server_get_or_create
  cases hcached : s.base.servers_lookup_name[name]? with
  | some server => exact (server_get_or_create_cached owner hcached).symm
  | none => exact open_found_base owner _

theorem join_server_base (server : SrvId) (account : AccId) :
    (s.join_server server account).base = s.base :=
  server_add_member_base _ _

/-- the local variables that the rest of the start-up has -/
def Loading.toBase (p : Loading) : Startup.Loading :=
  ⟨p.s.base, p.serversByName, p.accountsByName⟩

variable (env) in
theorem preload_server_base (adminAccount : AccId) (p : Loading) (name : QString) :
    (preload_server env adminAccount p name).toBase =
      Startup.preload_server env.toStartupEnv adminAccount p.toBase name := by
  have hbase := server_get_or_create_base env (s := p.s) (toUtf8 name) adminAccount
  unfold preload_server Startup.preload_server
  dsimp only
  rw [show p.toBase.s = p.s.base from rfl, ← hbase]
  cases p.s.server_get_or_create env (toUtf8 name) adminAccount with
  | mk server? s' =>
    cases server? with
    | none => rfl
    | some server =>
      unfold Loading.toBase
      rw [join_server_base]

variable (env) in
theorem account_get_or_create_base (username password : Bytes) :
    ((s.account_get_or_create env username password).1,
        (s.account_get_or_create env username password).2.base) =
      s.base.account_get_or_create env.toStartupEnv username password := rfl

variable (env) in
theorem channel_get_or_create_base (name topic : Bytes) (owner : Option AccId)
    (server : Option SrvId) :
    ((s.channel_get_or_create env name topic owner server).1,
        (s.channel_get_or_create env name topic owner server).2.base) =
      s.base.channel_get_or_create env.toStartupEnv name topic owner server := rfl

variable (env) in
theorem preload_user_base (p : Loading) (user : PreloadUser) :
    (preload_user env p user).toBase =
      Startup.preload_user env.toStartupEnv p.toBase user.toPreloadUser := by
  have hbase := account_get_or_create_base env (s := p.s) (toUtf8 user.name)
    (toUtf8 user.password)
  unfold preload_user Startup.preload_user
  dsimp only
  rw [show p.toBase.s = p.s.base from rfl, ← hbase]
  cases p.s.account_get_or_create env (toUtf8 user.name) (toUtf8 user.password) with
  | mk account? s' =>
    cases account? with
    | none => rfl
    | some account =>
      dsimp only
      cases p.serversByName[user.server]? with
      | none => rfl
      | some server =>
        unfold Loading.toBase
        dsimp only
        rw [join_server_base]

theorem preload_member_base (accountsByName : QMap QString AccId) (server : Option SrvId)
    (channel : ChanId) (s : ServerStartup) (mname : QString) :
    (s.preload_member accountsByName server channel mname).base =
      s.base.preload_member accountsByName channel mname := by
  unfold preload_member Startup.preload_member
  cases accountsByName[mname]? with
  | none => rfl
  | some member => cases server <;> rfl

variable (env) in
theorem preload_channel_base (p : Loading) (channel : Startup.PreloadChannel) :
    (preload_channel env p channel).toBase =
      Startup.preload_channel env.toStartupEnv p.toBase channel := by
  have hmembers (accountsByName : QMap QString AccId) (server : Option SrvId) (ch : ChanId)
      (l : List QString) (s : ServerStartup) :
      (l.foldl (preload_member accountsByName server ch) s).base =
        l.foldl (Startup.preload_member accountsByName ch) s.base := by
    induction l generalizing s with
    | nil => rfl
    | cons mname l ih => rw [List.foldl_cons, List.foldl_cons, ih, preload_member_base]
  have hbase := channel_get_or_create_base env (s := p.s) (toUtf8 channel.name)
    (toUtf8 channel.topic) p.accountsByName[channel.owner]? p.serversByName[channel.server]?
  unfold preload_channel Startup.preload_channel
  dsimp only
  rw [show p.toBase.s = p.s.base from rfl,
    show p.toBase.accountsByName = p.accountsByName from rfl,
    show p.toBase.serversByName = p.serversByName from rfl, ← hbase]
  cases p.s.channel_get_or_create env (toUtf8 channel.name) (toUtf8 channel.topic)
    p.accountsByName[channel.owner]? p.serversByName[channel.server]? with
  | mk ch? s' =>
    cases ch? with
    | none => rfl
    | some ch =>
      unfold Loading.toBase
      dsimp only
      rw [hmembers]
      cases p.serversByName[channel.server]? <;> rfl

/-- the file without the servers of its users -/
def Preload.toBase (file : Preload) : Startup.Preload :=
  ⟨file.servers, file.users.map PreloadUser.toPreloadUser, file.channels⟩

/-- a loop of the preload file -/
theorem foldl_toBase {α β : Type} {f : Loading → α → Loading}
    {g : Startup.Loading → β → Startup.Loading} {k : α → β}
    (h : ∀ p x, (f p x).toBase = g p.toBase (k x)) (l : List α) (p : Loading) :
    (l.foldl f p).toBase = (l.map k).foldl g p.toBase := by
  induction l generalizing p with
  | nil => rfl
  | cons x l ih => rw [List.foldl_cons, List.map_cons, List.foldl_cons, ih, h]

/-- **The rest of the start-up.**  Servers, members and roles apart, the preload file leaves what it leaves
without them. -/
theorem preload_from_file_base (env : ServerEnv) (file : Option Preload) (s : ServerStartup) :
    (s.preload_from_file env file).base =
      s.base.preload_from_file env.toStartupEnv (file.map Preload.toBase) := by
  cases file with
  | none => rfl
  | some root =>
    have hbase := account_get_or_create_base env (s := s) (ascii "admin") (ascii "admin")
    unfold preload_from_file Startup.preload_from_file
    dsimp only [Option.map_some]
    rw [← hbase]
    cases s.account_get_or_create env (ascii "admin") (ascii "admin") with
    | mk account? s' =>
      cases account? with
      | none => rfl
      | some adminAccount =>
        have hservers := foldl_toBase (k := id)
          (fun p name => preload_server_base env adminAccount p name) root.servers { s := s' }
        rw [List.map_id] at hservers
        have husers := foldl_toBase (fun p user => preload_user_base env p user) root.users
        have hchannels := foldl_toBase (k := id)
          (fun p channel => preload_channel_base env p channel) root.channels
        have hrest (p : Loading) :
            ((root.channels.foldl (preload_channel env) (root.users.foldl (preload_user env) p)).toBase).s =
              (root.channels.foldl (Startup.preload_channel env.toStartupEnv)
                ((root.users.map PreloadUser.toPreloadUser).foldl
                  (Startup.preload_user env.toStartupEnv) p.toBase)).s := by
          rw [hchannels, husers, List.map_id]
        dsimp only
        refine (hrest _).trans ?_
        show (root.channels.foldl _ (List.foldl _ (⟨_, _, _⟩ : Startup.Loading) _)).s = _
        have hs := congrArg Startup.Loading.s hservers
        have hn := congrArg Startup.Loading.serversByName hservers
        have ha := congrArg Startup.Loading.accountsByName hservers
        dsimp only [Loading.toBase] at hs hn ha
        rw [hs, hn, ha]
        rfl

/-- **The initial load.**  It goes on from what the whole preload file leaves, and finds its tables. -/
theorem init_of_start (env : ServerEnv) (file : Option Preload) (d : AllTables) :
    Ctx.init env.toStartupEnv d.tables (file.map Preload.toBase) =
        ((ofAllTables d).preload_from_file env file).base.load ∧
      (Ctx.init env.toStartupEnv d.tables (file.map Preload.toBase)).tables =
        (d.start env file).tables := by
  have hbase := preload_from_file_base env file (ofAllTables d)
  have hinit : Ctx.init env.toStartupEnv d.tables (file.map Preload.toBase) =
      ((ofAllTables d).preload_from_file env file).base.load := by
    rw [hbase]
    rfl
  have hleft : Startup.Preloaded d.tables ((ofAllTables d).preload_from_file env file).base := by
    rw [hbase]
    exact Startup.preload_from_file_preloaded env.toStartupEnv d.tables (file.map Preload.toBase)
  refine ⟨hinit, ?_⟩
  rw [hinit, Startup.load_tables hleft]
  rfl

end ServerStartup

end Chatripper
