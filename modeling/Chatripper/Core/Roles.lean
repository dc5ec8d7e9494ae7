import Mathlib
import Chatripper.Core.Startup

/-!
# Servers, members and roles

What the preload file makes of servers beside their rows: who is a member, which roles there are, who
has them and what they permit.  It is laid over the start-up (`ServerStartup.base`), whose functions it
calls.  The uuids of roles and permissions are counted apart from the others.

* `RoleTables`, `AllTables`   the four tables, with their constraints, and all tables;
* `create_role_for_server`, `server_add_member`, `server_get_or_create`   the functions of `SQL`;
* `preload_from_file`         the preload file.

The icon and the colour of a role are NULL here, and creation dates are left out.
-/

namespace Chatripper
open ByteStr Utf8

abbrev RoleRef := Nat
abbrev PermissionId := Nat

/-! ## more rows -/

/-- rows were added -/
structure Tables.Grows (t t' : Tables) : Prop where
  accounts : t.accounts <+: t'.accounts
  servers : t.servers <+: t'.servers
  channels : t.channels <+: t'.channels
  account_channels : t.account_channels <+: t'.account_channels

namespace Tables
variable {t t' t'' : Tables}

theorem Grows.refl (t : Tables) : t.Grows t :=
  ⟨List.prefix_rfl, List.prefix_rfl, List.prefix_rfl, List.prefix_rfl⟩

theorem Grows.trans (h : t.Grows t') (h' : t'.Grows t'') : t.Grows t'' :=
  ⟨h.accounts.trans h'.accounts, h.servers.trans h'.servers, h.channels.trans h'.channels,
    h.account_channels.trans h'.account_channels⟩

theorem grows_addAccount (row : AccountRow) (h : t.AdmitsAccount row) : t.Grows (t.addAccount row h) :=
  { Grows.refl t with accounts := List.prefix_append _ _ }

theorem grows_addServer (row : ServerRow) (h : t.AdmitsServer row) : t.Grows (t.addServer row h) :=
  { Grows.refl t with servers := List.prefix_append _ _ }

theorem grows_addChannel (row : ChannelRow) (h : t.AdmitsChannel row) : t.Grows (t.addChannel row h) :=
  { Grows.refl t with channels := List.prefix_append _ _ }

theorem grows_addJoin (row : JoinRow) (h : t.AdmitsJoin row) : t.Grows (t.addJoin row h) :=
  { Grows.refl t with account_channels := List.prefix_append _ _ }

end Tables

namespace Startup
variable {env : StartupEnv} {s : Startup}

theorem server_create_from_db_tables (id : Uuid) (name : Bytes) (owner : Option AccId) :
    (s.server_create_from_db id name owner).2.tables = s.tables := by
  unfold server_create_from_db
  split <;> rfl

theorem channel_create_from_db_tables (id : Uuid) (name topic : Bytes) (owner : Option AccId)
    (server : Option SrvId) :
    (s.channel_create_from_db id name topic owner server).2.tables = s.tables := by
  unfold channel_create_from_db
  split <;> rfl

theorem channel_of_row_tables (row : ChannelRow) : (s.channel_of_row row).2.tables = s.tables :=
  channel_create_from_db_tables _ _ _ _ _

theorem account_get_or_create_grows (username password : Bytes) :
    s.tables.Grows (s.account_get_or_create env username password).2.tables := by
  unfold account_get_or_create
  split
  · exact Tables.Grows.refl _
  · split
    · exact Tables.Grows.refl _
    · dsimp only
      split
      · rename_i h
        exact Tables.grows_addAccount _ h
      · exact Tables.Grows.refl _

variable (env) in
theorem server_get_or_create_grows (name : Bytes) (owner : AccId) :
    s.tables.Grows (s.server_get_or_create env name owner).2.tables := by
  unfold server_get_or_create
  split
  · exact Tables.Grows.refl _
  · split
    · dsimp only
      rw [server_create_from_db_tables]
      exact Tables.Grows.refl _
    · dsimp only
      split
      · dsimp only
        rw [server_create_from_db_tables]
        rename_i h
        exact Tables.grows_addServer _ h
      · exact Tables.Grows.refl _

theorem channel_get_or_create_grows (name topic : Bytes) (owner : Option AccId)
    (server : Option SrvId) :
    s.tables.Grows (s.channel_get_or_create env name topic owner server).2.tables := by
  unfold channel_get_or_create
  split
  · exact Tables.Grows.refl _
  · split
    · dsimp only
      rw [channel_of_row_tables]
      exact Tables.Grows.refl _
    · split
      · exact Tables.Grows.refl _
      · dsimp only
        split
        · dsimp only
          rw [channel_create_from_db_tables]
          rename_i h
          exact Tables.grows_addChannel _ h
        · exact Tables.Grows.refl _

theorem channel_add_member_grows (account_id channel_id : Uuid) :
    s.tables.Grows (s.channel_add_member account_id channel_id).tables := by
  unfold channel_add_member
  split
  · rename_i h
    exact Tables.grows_addJoin _ h
  · exact Tables.Grows.refl _

end Startup

/-! ## tables -/

structure MemberRow where
  account_id : Uuid
  server_id : Uuid
  deriving DecidableEq

structure RoleRow where
  id : Uuid
  server_id : Uuid
  name : Bytes
  priority : Int
  deriving DecidableEq

structure AccountRoleRow where
  account_id : Uuid
  role_id : Uuid
  deriving DecidableEq

structure PermissionRow where
  id : Uuid
  role_id : Uuid
  permission_bits : Int
  deriving DecidableEq

/-- `server_members`, `roles`, `account_roles` and `permissions`, beside the tables that they refer to -/
structure RoleTables (t : Tables) where
  server_members : List MemberRow
  roles : List RoleRow
  account_roles : List AccountRoleRow
  permissions : List PermissionRow
  member_once : server_members.Nodup
  role_id : (roles.map RoleRow.id).Nodup
  role_name : (roles.map fun r => (r.server_id, r.name)).Nodup
  assigned_once : account_roles.Nodup
  permission_id : (permissions.map PermissionRow.id).Nodup
  member_account : ∀ r ∈ server_members, r.account_id ∈ t.accounts.map AccountRow.id
  member_server : ∀ r ∈ server_members, r.server_id ∈ t.servers.map ServerRow.id
  role_server : ∀ r ∈ roles, r.server_id ∈ t.servers.map ServerRow.id
  assigned_account : ∀ r ∈ account_roles, r.account_id ∈ t.accounts.map AccountRow.id
  assigned_role : ∀ r ∈ account_roles, r.role_id ∈ roles.map RoleRow.id
  permission_role : ∀ r ∈ permissions, r.role_id ∈ roles.map RoleRow.id

namespace RoleTables
variable {t t' : Tables}

theorem noRoleNames : (([] : List RoleRow).map fun r => (r.server_id, r.name)).Nodup :=
  List.nodup_nil

/-- before any server is made -/
def empty (t : Tables) : RoleTables t where
  server_members := []
  roles := []
  account_roles := []
  permissions := []
  member_once := List.nodup_nil
  role_id := List.nodup_nil
  role_name := noRoleNames
  assigned_once := List.nodup_nil
  permission_id := List.nodup_nil
  member_account := fun _ h => absurd h List.not_mem_nil
  member_server := fun _ h => absurd h List.not_mem_nil
  role_server := fun _ h => absurd h List.not_mem_nil
  assigned_account := fun _ h => absurd h List.not_mem_nil
  assigned_role := fun _ h => absurd h List.not_mem_nil
  permission_role := fun _ h => absurd h List.not_mem_nil

/-- the same rows beside more -/
def grow (r : RoleTables t) (h : t.Grows t') : RoleTables t' :=
  { r with
    member_account := fun m hm => List.map_subset _ h.accounts.subset (r.member_account m hm)
    member_server := fun m hm => List.map_subset _ h.servers.subset (r.member_server m hm)
    role_server := fun m hm => List.map_subset _ h.servers.subset (r.role_server m hm)
    assigned_account := fun m hm => List.map_subset _ h.accounts.subset (r.assigned_account m hm) }

variable (r : RoleTables t)

def AdmitsMember (row : MemberRow) : Prop :=
  row ∉ r.server_members ∧ row.account_id ∈ t.accounts.map AccountRow.id ∧
    row.server_id ∈ t.servers.map ServerRow.id

instance (row : MemberRow) : Decidable (r.AdmitsMember row) := inferInstanceAs (Decidable (_ ∧ _ ∧ _))

def addMember (row : MemberRow) (h : r.AdmitsMember row) : RoleTables t :=
  { r with
    server_members := r.server_members ++ [row]
    member_once := by
      rw [← List.concat_eq_append, List.nodup_concat]
      exact ⟨h.1, r.member_once⟩
    member_account := forall_mem_concat r.member_account h.2.1
    member_server := forall_mem_concat r.member_server h.2.2 }

def AdmitsRole (row : RoleRow) : Prop :=
  row.id ∉ r.roles.map RoleRow.id ∧
    (row.server_id, row.name) ∉ (r.roles.map fun r => (r.server_id, r.name)) ∧
    row.server_id ∈ t.servers.map ServerRow.id

instance (row : RoleRow) : Decidable (r.AdmitsRole row) := inferInstanceAs (Decidable (_ ∧ _ ∧ _))

def addRole (row : RoleRow) (h : r.AdmitsRole row) : RoleTables t :=
  { r with
    roles := r.roles ++ [row]
    role_id := nodup_map_concat r.role_id h.1
    role_name := nodup_map_concat r.role_name h.2.1
    role_server := forall_mem_concat r.role_server h.2.2
    assigned_role := fun m hm => mem_map_concat row (r.assigned_role m hm)
    permission_role := fun m hm => mem_map_concat row (r.permission_role m hm) }

def AdmitsAccountRole (row : AccountRoleRow) : Prop :=
  row ∉ r.account_roles ∧ row.account_id ∈ t.accounts.map AccountRow.id ∧
    row.role_id ∈ r.roles.map RoleRow.id

instance (row : AccountRoleRow) : Decidable (r.AdmitsAccountRole row) :=
  inferInstanceAs (Decidable (_ ∧ _ ∧ _))

def addAccountRole (row : AccountRoleRow) (h : r.AdmitsAccountRole row) : RoleTables t :=
  { r with
    account_roles := r.account_roles ++ [row]
    assigned_once := by
      rw [← List.concat_eq_append, List.nodup_concat]
      exact ⟨h.1, r.assigned_once⟩
    assigned_account := forall_mem_concat r.assigned_account h.2.1
    assigned_role := forall_mem_concat r.assigned_role h.2.2 }

def AdmitsPermission (row : PermissionRow) : Prop :=
  row.id ∉ r.permissions.map PermissionRow.id ∧ row.role_id ∈ r.roles.map RoleRow.id

instance (row : PermissionRow) : Decidable (r.AdmitsPermission row) :=
  inferInstanceAs (Decidable (_ ∧ _))

def addPermission (row : PermissionRow) (h : r.AdmitsPermission row) : RoleTables t :=
  { r with
    permissions := r.permissions ++ [row]
    permission_id := nodup_map_concat r.permission_id h.1
    permission_role := forall_mem_concat r.permission_role h.2 }

end RoleTables

structure AllTables where
  tables : Tables
  rows : RoleTables tables

/-- rows were added -/
structure AllTables.Grows (d d' : AllTables) : Prop where
  tables : d.tables.Grows d'.tables
  server_members : d.rows.server_members <+: d'.rows.server_members
  roles : d.rows.roles <+: d'.rows.roles
  account_roles : d.rows.account_roles <+: d'.rows.account_roles
  permissions : d.rows.permissions <+: d'.rows.permissions

namespace AllTables
variable {d d' d'' : AllTables}

theorem Grows.refl (d : AllTables) : d.Grows d :=
  ⟨Tables.Grows.refl _, List.prefix_rfl, List.prefix_rfl, List.prefix_rfl, List.prefix_rfl⟩

theorem Grows.trans (h : d.Grows d') (h' : d'.Grows d'') : d.Grows d'' :=
  ⟨h.tables.trans h'.tables, h.server_members.trans h'.server_members, h.roles.trans h'.roles,
    h.account_roles.trans h'.account_roles, h.permissions.trans h'.permissions⟩

end AllTables

/-! ## objects -/

structure Role where
  m_uid : Uuid := 0
  m_server_uid : Uuid := 0
  m_name : Bytes := []
  m_icon_uid : Uuid := 0
  m_color : Int := 0
  m_priority : Int := 0

structure Permission where
  m_uid : Uuid := 0
  m_role_uid : Uuid := 0
  m_flags : Int := 0

/-- what the start-up works on, with servers, roles and permissions -/
structure ServerStartup where
  base : Startup
  rows : RoleTables base.tables
  role : RoleRef → Role
  permission : PermissionId → Permission
  nextRole : Nat := 0
  nextPermission : Nat := 0
  roles_lookup_uuid : QHash Uuid RoleRef := ∅
  roles_lookup_name : QHash Bytes RoleRef := ∅
  permissions_lookup_uuid : QHash Uuid PermissionId := ∅
  /-- `Server::m_accounts` -/
  m_accounts : SrvId → QHash Uuid AccId
  /-- `Server::m_channels` -/
  m_channels : SrvId → QHash Uuid ChanId
  /-- `Server::m_roles` -/
  m_roles : SrvId → QHash Uuid RoleRef
  /-- how many uuids `createUuid` has made for roles and permissions -/
  made : Nat := 0

/-- the functions of the libraries -/
structure ServerEnv extends StartupEnv where
  /-- `QUuid::createUuid`, of a role or a permission -/
  createRoleUuid : Nat → Uuid

namespace ServerStartup

/-- a function of the start-up has run -/
def advance (s : ServerStartup) (base : Startup) (h : s.base.tables.Grows base.tables) : ServerStartup :=
  { s with base := base, rows := s.rows.grow h }

/-! ## caches -/

def role_by_uid (s : ServerStartup) (uid : Uuid) : Option RoleRef := s.roles_lookup_uuid[uid]?

def permission_by_uid (s : ServerStartup) (uid : Uuid) : Option PermissionId :=
  s.permissions_lookup_uuid[uid]?

/-- `Role::create_from_db`, with `role_insert_cache` -/
def role_create_from_db (row : RoleRow) (s : ServerStartup) : RoleRef × ServerStartup :=
  match s.role_by_uid row.id with
  | some ptr => (ptr, s)
  | none =>
    let role := s.nextRole
    (role, { s with
      nextRole := role + 1
      role := fun x =>
        if x = role then
          { m_uid := row.id, m_server_uid := row.server_id, m_name := row.name, m_priority := row.priority }
        else s.role x
      roles_lookup_uuid := s.roles_lookup_uuid.insert row.id role
      roles_lookup_name :=
        if row.name = [] then s.roles_lookup_name else s.roles_lookup_name.insert row.name role })

/-- `Permission::create_from_db`, with `permission_insert_cache` -/
def permission_create_from_db (row : PermissionRow) (s : ServerStartup) : PermissionId × ServerStartup :=
  match s.permission_by_uid row.id with
  | some ptr => (ptr, s)
  | none =>
    let perm := s.nextPermission
    (perm, { s with
      nextPermission := perm + 1
      permission := fun x =>
        if x = perm then { m_uid := row.id, m_role_uid := row.role_id, m_flags := row.permission_bits }
        else s.permission x
      permissions_lookup_uuid := s.permissions_lookup_uuid.insert row.id perm })

def add_account (v : SrvId) (acc : AccId) (s : ServerStartup) : ServerStartup :=
  { s with
    m_accounts := fun x =>
      if x = v then (s.m_accounts v).insert (s.base.w.acc acc).m_uid acc else s.m_accounts x }

def add_channel (v : SrvId) (channel : ChanId) (s : ServerStartup) : ServerStartup :=
  { s with
    m_channels := fun x =>
      if x = v then (s.m_channels v).insert (s.base.w.chan channel).uid channel else s.m_channels x }

def add_role (v : SrvId) (role : RoleRef) (s : ServerStartup) : ServerStartup :=
  { s with
    m_roles := fun x => if x = v then (s.m_roles v).insert (s.role role).m_uid role else s.m_roles x }

def role_by_name (v : SrvId) (name : Bytes) (s : ServerStartup) : Option RoleRef :=
  (s.m_roles v).values.find? fun role => (s.role role).m_name == name

def everyone : QString := "@everyone".toList

/-! ## roles and members -/

section
variable (env : ServerEnv)

/-- `QUuid::createUuid` -/
def createUuid (s : ServerStartup) : Uuid × ServerStartup :=
  (env.createRoleUuid s.made, { s with made := s.made + 1 })

def permission_get_or_create (roleId : Uuid) (flags : Int) (s : ServerStartup) :
    Option PermissionId × ServerStartup :=
  match s.rows.permissions.find? fun r => r.role_id == roleId with
  | some row => let (perm, s) := s.permission_create_from_db row; (some perm, s)
  | none =>
    let (uuid, s) := s.createUuid env
    let row : PermissionRow := ⟨uuid, roleId, flags⟩
    if h : s.rows.AdmitsPermission row then
      let s := { s with rows := s.rows.addPermission row h }
      let (perm, s) := s.permission_create_from_db row
      (some perm, s)
    else (none, s)

/-- `ON CONFLICT DO NOTHING` -/
def insert_account_role (account_id role_id : Uuid) (s : ServerStartup) : ServerStartup :=
  if h : s.rows.AdmitsAccountRole ⟨account_id, role_id⟩ then
    { s with rows := s.rows.addAccountRole _ h }
  else s

def create_role_for_server (server : SrvId) (roleName : QString) (priority : Int)
    (assignToExistingMembers : Bool) (defaultPermissions : Int) (s : ServerStartup) :
    Option RoleRef × ServerStartup :=
  let server_id := (s.base.server server).m_uid
  if server_id = 0 then (none, s)
  else
    match s.rows.roles.find? fun r => r.server_id == server_id && r.name == toUtf8 roleName with
    | some row =>
      let (role, s) := s.role_create_from_db row
      (some role, s.add_role server role)
    | none =>
      let (role_uid, s) := s.createUuid env
      let row : RoleRow := ⟨role_uid, server_id, toUtf8 roleName, priority⟩
      if h : s.rows.AdmitsRole row then
        let s := { s with rows := s.rows.addRole row h }
        let (role, s) := s.role_create_from_db row
        let s := s.add_role server role
        let (_, s) := s.permission_get_or_create env (s.role role).m_uid defaultPermissions
        let s :=
          if assignToExistingMembers then
            (s.m_accounts server).values.foldl
              (fun s member => s.insert_account_role (s.base.w.acc member).m_uid role_uid) s
          else s
        (some role, s)
      else (none, s)

def assign_role_to_account (accountId : Uuid) (role : RoleRef) (s : ServerStartup) : ServerStartup :=
  if accountId = 0 then s else s.insert_account_role accountId (s.role role).m_uid

def server_add_member (accountId serverId : Uuid) (s : ServerStartup) : ServerStartup :=
  if accountId = 0 ∨ serverId = 0 then s
  else if ⟨accountId, serverId⟩ ∈ s.rows.server_members then s
  else if h : s.rows.AdmitsMember ⟨accountId, serverId⟩ then
    let s := { s with rows := s.rows.addMember _ h }
    match s.base.server_by_uid serverId with
    | none => s
    | some server =>
      let s :=
        match Account.get_by_uid s.base.w accountId with
        | none => s
        | some account => s.add_account server account
      match s.role_by_name server (toUtf8 everyone) with
      | none => s
      | some everyone_role => s.assign_role_to_account accountId everyone_role
  else s

/-- the loop over the rows of the members of a server: those that are cached -/
def load_server_member (server : SrvId) (s : ServerStartup) (row : MemberRow) : ServerStartup :=
  match s.base.w.ctx.accounts_lookup_uuid[row.account_id]? with
  | none => s
  | some account => s.add_account server account

/-- a server that has just been made or found in the database -/
def open_server (server : SrvId) (owner : AccId) (s : ServerStartup) : ServerStartup :=
  let (_, s) := s.create_role_for_server env server everyone 0 true 0
  let server_id := (s.base.server server).m_uid
  let s := s.server_add_member (s.base.w.acc owner).m_uid server_id
  let s := s.add_account server owner
  (s.rows.server_members.filter fun r => r.server_id == server_id).foldl (load_server_member server) s

/-- the second half of `server_get_or_create`, with what the start-up found or made -/
def open_found (owner : AccId) (s : ServerStartup) (r : Option SrvId × Startup)
    (h : s.base.tables.Grows r.2.tables) : Option SrvId × ServerStartup :=
  let s := s.advance r.2 h
  match r.1 with
  | none => (none, s)
  | some server => (some server, s.open_server env server owner)

def server_get_or_create (name : Bytes) (owner : AccId) (s : ServerStartup) :
    Option SrvId × ServerStartup :=
  match s.base.servers_lookup_name[name]? with
  | some server => (some server, s)
  | none =>
    s.open_found env owner (s.base.server_get_or_create env.toStartupEnv name owner)
      (Startup.server_get_or_create_grows _ name owner)

def account_get_or_create (username password : Bytes) (s : ServerStartup) :
    Option AccId × ServerStartup :=
  let r := s.base.account_get_or_create env.toStartupEnv username password
  (r.1, s.advance r.2 (Startup.account_get_or_create_grows username password))

def channel_get_or_create (name topic : Bytes) (owner : Option AccId) (server : Option SrvId)
    (s : ServerStartup) : Option ChanId × ServerStartup :=
  let r := s.base.channel_get_or_create env.toStartupEnv name topic owner server
  (r.1, s.advance r.2 (Startup.channel_get_or_create_grows name topic owner server))

def channel_add_member (account_id channel_id : Uuid) (s : ServerStartup) : ServerStartup :=
  s.advance (s.base.channel_add_member account_id channel_id)
    (Startup.channel_add_member_grows account_id channel_id)

end

/-! ## the preload file -/

/-- a user in the file, with the name of a server -/
structure PreloadUser extends Startup.PreloadUser where
  server : QString

structure Preload where
  servers : List QString
  users : List PreloadUser
  channels : List Startup.PreloadChannel

/-- the local variables of `preload_from_file` -/
structure Loading where
  s : ServerStartup
  serversByName : QMap QString SrvId := ∅
  accountsByName : QMap QString AccId := ∅

section
variable (env : ServerEnv)

/-- the account is made a member of the server, in the database and in memory -/
def join_server (server : SrvId) (account : AccId) (s : ServerStartup) : ServerStartup :=
  (s.server_add_member (s.base.w.acc account).m_uid (s.base.server server).m_uid).add_account server
    account

def preload_server (adminAccount : AccId) (p : Loading) (name : QString) : Loading :=
  let serverName := toUtf8 name
  match p.s.server_get_or_create env serverName adminAccount with
  | (none, s) => { p with s }
  | (some server, s) =>
    { p with
      s := s.join_server server adminAccount
      serversByName := p.serversByName.insert (fromUtf8 serverName) server }

def preload_user (p : Loading) (user : PreloadUser) : Loading :=
  let uname := toUtf8 user.name
  match p.s.account_get_or_create env uname (toUtf8 user.password) with
  | (none, s) => { p with s }
  | (some account, s) =>
    let p := { p with s, accountsByName := p.accountsByName.insert (fromUtf8 uname) account }
    match p.serversByName[user.server]? with
    | none => p
    | some server => { p with s := p.s.join_server server account }

/-- a member of a channel is in the server of the channel, but only in memory -/
def preload_member (accountsByName : QMap QString AccId) (server : Option SrvId) (channel : ChanId)
    (s : ServerStartup) (mname : QString) : ServerStartup :=
  match accountsByName[mname]? with
  | none => s
  | some member =>
    let s := s.channel_add_member (s.base.w.acc member).m_uid (s.base.w.chan channel).uid
    match server with
    | none => s
    | some server => s.add_account server member

def preload_channel (p : Loading) (channel : Startup.PreloadChannel) : Loading :=
  let owner := p.accountsByName[channel.owner]?
  let server := p.serversByName[channel.server]?
  match p.s.channel_get_or_create env (toUtf8 channel.name) (toUtf8 channel.topic) owner server with
  | (none, s) => { p with s }
  | (some ch, s) =>
    let s :=
      match server with
      | none => s
      | some server => s.add_channel server ch
    { p with s := channel.members.foldl (preload_member p.accountsByName server ch) s }

/-- `none` for a file that cannot be opened or parsed -/
def preload_from_file (file : Option Preload) (s : ServerStartup) : ServerStartup :=
  match file with
  | none => s
  | some root =>
    match s.account_get_or_create env (ascii "admin") (ascii "admin") with
    | (none, s) => s
    | (some adminAccount, s) =>
      let p := root.servers.foldl (preload_server env adminAccount) { s }
      let p := { p with accountsByName := p.accountsByName.insert ("admin".toList) adminAccount }
      let p := root.users.foldl (preload_user env) p
      (root.channels.foldl (preload_channel env) p).s

end

def allTables (s : ServerStartup) : AllTables := ⟨s.base.tables, s.rows⟩

/-- the database, and nothing in memory -/
def ofAllTables (d : AllTables) : ServerStartup where
  base := Startup.ofTables d.tables
  rows := d.rows
  role := fun _ => {}
  permission := fun _ => {}
  m_accounts := fun _ => ∅
  m_channels := fun _ => ∅
  m_roles := fun _ => ∅

end ServerStartup

/-- the program is started: the database after the preload file -/
def AllTables.start (env : ServerEnv) (file : Option ServerStartup.Preload) (d : AllTables) : AllTables :=
  ((ServerStartup.ofAllTables d).preload_from_file env file).allTables

end Chatripper
