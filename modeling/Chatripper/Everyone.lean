import Mathlib
import Chatripper.RoleCaches
import Chatripper.Lib.Replay

/-!
# The role of everyone

Who is a member of a server in the database has the server's role of everyone there, however often the
program is started and with whatever preload files.  Every server that is cached holds the role
(`Orderly`), so that a member who joins later is given it.

* `RolesWritten`                  what the functions that write roles leave as it is;
* `create_role_for_server_written`, `server_add_member_enrolled`   the functions that write the rows;
* `start_complete`                one start;
* `starts_complete`               any number of starts, from a complete database.
-/

namespace Chatripper
open ByteStr Utf8

namespace ServerStartup
variable {env : ServerEnv} {s s' : ServerStartup}

/-! ## the functions that write the rows -/

/-- rows for members and roles may have been added -/
structure RowsWritten (env : ServerEnv) (s s' : ServerStartup) : Prop where
  base : s'.base = s.base
  grows : s.allTables.Grows s'.allTables
  known : s'.RolesKnown
  fresh : s'.FreshRoles env
  hasRole : ∀ v name, s.HasRole v name → s'.HasRole v name

/-- … but no members -/
structure RolesWritten (env : ServerEnv) (s s' : ServerStartup) : Prop
    extends RowsWritten env s s' where
  members : s'.allTables.rows.server_members = s.allTables.rows.server_members

theorem RowsWritten.refl (h : s.RolesKnown) (hf : s.FreshRoles env) : s.RowsWritten env s :=
  ⟨rfl, AllTables.Grows.refl _, h, hf, fun _ _ hrole => hrole⟩

theorem RowsWritten.trans {s'' : ServerStartup} (h : s.RowsWritten env s')
    (h' : s'.RowsWritten env s'') : s.RowsWritten env s'' :=
  ⟨h'.base.trans h.base, h.grows.trans h'.grows, h'.known, h'.fresh,
    fun v name hrole => h'.hasRole v name (h.hasRole v name hrole)⟩

theorem RolesWritten.refl (h : s.RolesKnown) (hf : s.FreshRoles env) : s.RolesWritten env s :=
  ⟨RowsWritten.refl h hf, rfl⟩

theorem RolesWritten.trans {s'' : ServerStartup} (h : s.RolesWritten env s')
    (h' : s'.RolesWritten env s'') : s.RolesWritten env s'' :=
  ⟨h.toRowsWritten.trans h'.toRowsWritten, h'.members.trans h.members⟩

theorem SameTables.fresh (h : s.SameTables s') (hf : s.FreshRoles env) : s'.FreshRoles env where
  distinct := hf.distinct
  role n hn := by
    rw [h.allTables]
    exact hf.role n (h.made ▸ hn)
  permission n hn := by
    rw [h.allTables]
    exact hf.permission n (h.made ▸ hn)

theorem RoleMade.written {row : RoleRow} {p : RoleRef} (hmade : s.RoleMade row s' p)
    (h : s.RolesKnown) (hf : s.FreshRoles env) : s.RolesWritten env s' where
  base := hmade.same.base
  grows := by
    rw [hmade.same.allTables]
    exact AllTables.Grows.refl _
  members := by rw [hmade.same.allTables]
  known := hmade.known
  fresh := hmade.same.fresh hf
  hasRole _ _ hrole := hmade.hasRole h hrole

/-- the role of a row, made and given to the server -/
theorem role_added (h : s.RolesKnown) (hf : s.FreshRoles env) {v : SrvId} (hv : v < s.base.nextSrv)
    {row : RoleRow} (hrow : row ∈ s.allTables.rows.roles)
    (hserver : row.server_id = (s.base.server v).m_uid) :
    s.RolesWritten env ((s.role_create_from_db row).2.add_role v (s.role_create_from_db row).1) ∧
      ((s.role_create_from_db row).2.add_role v (s.role_create_from_db row).1).HasRole v row.name ∧
      ((s.role_create_from_db row).2.add_role v (s.role_create_from_db row).1).allTables =
        s.allTables ∧
      (((s.role_create_from_db row).2.add_role v (s.role_create_from_db row).1).role
        (s.role_create_from_db row).1).m_uid = row.id := by
  have hmade := role_create_from_db_made h hrow
  have hwritten := hmade.written h hf
  obtain ⟨hknown, hrole, hkept⟩ := add_role_known hmade.known (v := v)
    (by rw [hmade.same.base]; exact hv) hmade.lt (by rw [hmade.same.allTables]; exact hrow)
    hmade.uid hmade.name (by rw [hmade.same.base]; exact hserver)
  refine ⟨⟨⟨hwritten.base, hwritten.grows, hknown, ⟨hf.distinct, ?_, ?_⟩,
    fun x name hx => hkept x name (hwritten.hasRole x name hx)⟩, hwritten.members⟩, hrole,
    hmade.same.allTables, hmade.uid⟩
  · exact hwritten.fresh.role
  · exact hwritten.fresh.permission

theorem permission_create_from_db_same (row : PermissionRow) :
    s.SameTables (s.permission_create_from_db row).2 ∧
      (s.RolesKnown → (s.permission_create_from_db row).2.RolesKnown) ∧
      ∀ v name, s.HasRole v name → (s.permission_create_from_db row).2.HasRole v name := by
  unfold permission_create_from_db
  split
  · exact ⟨⟨rfl, rfl, rfl, rfl, rfl⟩, id, fun _ _ => id⟩
  · exact ⟨⟨rfl, rfl, rfl, rfl, rfl⟩, fun h => ⟨h.servers, h.cached, h.held⟩, fun _ _ => id⟩

theorem permission_create_from_db_written (h : s.RolesKnown) (hf : s.FreshRoles env)
    (row : PermissionRow) : s.RolesWritten env (s.permission_create_from_db row).2 := by
  obtain ⟨hsame, hknown, hrole⟩ := permission_create_from_db_same (s := s) row
  refine ⟨⟨hsame.base, ?_, hknown h, hsame.fresh hf, hrole⟩, ?_⟩
  · rw [hsame.allTables]
    exact AllTables.Grows.refl _
  · rw [hsame.allTables]

theorem addPermission_written (h : s.RolesKnown) (hf : s.FreshRoles env) {roleId : Uuid} {flags : Int}
    (hfits : s.rows.AdmitsPermission ⟨env.createRoleUuid s.made, roleId, flags⟩) :
    s.RolesWritten env { s with made := s.made + 1, rows := s.rows.addPermission _ hfits } where
  base := rfl
  grows := { AllTables.Grows.refl s.allTables with permissions := List.prefix_append _ _ }
  members := rfl
  known := ⟨h.servers, h.cached, h.held⟩
  fresh := ⟨hf.distinct, fun n hn => hf.role n (Nat.le_of_succ_le hn),
    unused_concat hf.distinct hf.permission rfl⟩
  hasRole _ _ hrole := hrole

theorem addRole_written (h : s.RolesKnown) (hf : s.FreshRoles env) {row : RoleRow}
    (hid : row.id = env.createRoleUuid s.made) (hfits : s.rows.AdmitsRole row) :
    s.RolesWritten env { s with made := s.made + 1, rows := s.rows.addRole row hfits } where
  base := rfl
  grows := { AllTables.Grows.refl s.allTables with roles := List.prefix_append _ _ }
  members := rfl
  known := by
    refine ⟨h.servers, fun u p hp => ?_, fun v u p hp => ?_⟩
    · obtain ⟨hlt, huid, row, hrow, hrest⟩ := h.cached u p hp
      exact ⟨hlt, huid, row, List.mem_append_left _ hrow, hrest⟩
    · obtain ⟨hv, hlt, huid, row, hrow, hrest⟩ := h.held v u p hp
      exact ⟨hv, hlt, huid, row, List.mem_append_left _ hrow, hrest⟩
  fresh := ⟨hf.distinct, unused_concat hf.distinct hf.role hid,
    fun n hn => hf.permission n (Nat.le_of_succ_le hn)⟩
  hasRole _ _ hrole := hrole

theorem permission_get_or_create_written (h : s.RolesKnown) (hf : s.FreshRoles env) {roleId : Uuid}
    (hrole : roleId ∈ s.allTables.rows.roles.map RoleRow.id) (flags : Int) :
    s.RolesWritten env (s.permission_get_or_create env roleId flags).2 ∧
      (s.permission_get_or_create env roleId flags).2.allTables.rows.roles =
        s.allTables.rows.roles ∧
      ∃ row ∈ (s.permission_get_or_create env roleId flags).2.allTables.rows.permissions,
        row.role_id = roleId := by
  unfold permission_get_or_create
  cases hfind : s.rows.permissions.find? fun r => r.role_id == roleId with
  | some row =>
    have hid : row.role_id = roleId := by simpa using List.find?_some hfind
    dsimp only
    obtain ⟨hsame, -, -⟩ := permission_create_from_db_same (s := s) row
    refine ⟨permission_create_from_db_written h hf row, by rw [hsame.allTables], row, ?_, hid⟩
    rw [hsame.allTables]
    exact List.mem_of_find?_eq_some hfind
  | none =>
    dsimp only [createUuid]
    have hfits : s.rows.AdmitsPermission ⟨env.createRoleUuid s.made, roleId, flags⟩ :=
      ⟨hf.permission s.made le_rfl, hrole⟩
    rw [dif_pos hfits]
    have hadded := addPermission_written h hf hfits
    obtain ⟨hsame, -, -⟩ := permission_create_from_db_same
      (s := { s with made := s.made + 1, rows := s.rows.addPermission _ hfits })
      ⟨env.createRoleUuid s.made, roleId, flags⟩
    refine ⟨hadded.trans (permission_create_from_db_written hadded.known hadded.fresh _), ?_,
      ⟨env.createRoleUuid s.made, roleId, flags⟩, ?_, rfl⟩
    · rw [hsame.allTables]
      rfl
    · rw [hsame.allTables]
      exact List.mem_append_right _ List.mem_cons_self

theorem insert_account_role_admitted {account_id role_id : Uuid}
    (hfits : s.rows.AdmitsAccountRole ⟨account_id, role_id⟩) :
    s.insert_account_role account_id role_id = { s with rows := s.rows.addAccountRole _ hfits } :=
  dif_pos hfits

theorem insert_account_role_refused {account_id role_id : Uuid}
    (hfits : ¬ s.rows.AdmitsAccountRole ⟨account_id, role_id⟩) :
    s.insert_account_role account_id role_id = s :=
  dif_neg hfits

theorem insert_account_role_written (h : s.RolesKnown) (hf : s.FreshRoles env)
    (account_id role_id : Uuid) : s.RolesWritten env (s.insert_account_role account_id role_id) := by
  by_cases hfits : s.rows.AdmitsAccountRole ⟨account_id, role_id⟩
  · rw [insert_account_role_admitted hfits]
    exact ⟨⟨rfl, { AllTables.Grows.refl s.allTables with account_roles := List.prefix_append _ _ },
      ⟨h.servers, h.cached, h.held⟩, ⟨hf.distinct, hf.role, hf.permission⟩, fun _ _ hrole => hrole⟩,
      rfl⟩
  · rw [insert_account_role_refused hfits]
    exact RolesWritten.refl h hf

theorem insert_account_role_roles (account_id role_id : Uuid) :
    (s.insert_account_role account_id role_id).allTables.rows.roles = s.allTables.rows.roles := by
  by_cases hfits : s.rows.AdmitsAccountRole ⟨account_id, role_id⟩
  · rw [insert_account_role_admitted hfits]
    rfl
  · rw [insert_account_role_refused hfits]

/-- an account of the database is given a role of the database -/
theorem mem_insert_account_role {account_id role_id : Uuid}
    (hacc : account_id ∈ s.base.tables.accounts.map AccountRow.id)
    (hrole : role_id ∈ s.allTables.rows.roles.map RoleRow.id) :
    ⟨account_id, role_id⟩ ∈ (s.insert_account_role account_id role_id).allTables.rows.account_roles := by
  by_cases hfits : s.rows.AdmitsAccountRole ⟨account_id, role_id⟩
  · rw [insert_account_role_admitted hfits]
    exact List.mem_append_right _ List.mem_cons_self
  · rw [insert_account_role_refused hfits]
    by_contra hmem
    exact hfits ⟨hmem, hacc, hrole⟩

theorem insert_account_roles_written (role_id : Uuid) (l : List AccId) (h : s.RolesKnown)
    (hf : s.FreshRoles env) :
    s.RolesWritten env (l.foldl (fun s member =>
      s.insert_account_role (s.base.w.acc member).m_uid role_id) s) ∧
    (l.foldl (fun s member =>
      s.insert_account_role (s.base.w.acc member).m_uid role_id) s).allTables.rows.roles =
        s.allTables.rows.roles := by
  induction l generalizing s with
  | nil => exact ⟨RolesWritten.refl h hf, rfl⟩
  | cons member l ih =>
    have hstep := insert_account_role_written h hf (s.base.w.acc member).m_uid role_id
    obtain ⟨hrest, hroles⟩ := ih hstep.known hstep.fresh
    exact ⟨hstep.trans hrest, hroles.trans (insert_account_role_roles _ _)⟩

/-- every role has a row of permissions -/
def Permitted (d : AllTables) : Prop :=
  ∀ row ∈ d.rows.roles, ∃ perm ∈ d.rows.permissions, perm.role_id = row.id

/-- the server of the id has a role of the name -/
def RoleOf (d : AllTables) (server_id : Uuid) (name : Bytes) : Prop :=
  ∃ row ∈ d.rows.roles, row.server_id = server_id ∧ row.name = name

theorem create_role_for_server_found {v : SrvId} (hid : (s.base.server v).m_uid ≠ 0) {name : QString}
    {row : RoleRow} (hfind : (s.rows.roles.find? fun r =>
      r.server_id == (s.base.server v).m_uid && r.name == toUtf8 name) = some row)
    (priority : Int) (assign : Bool) (perms : Int) :
    s.create_role_for_server env v name priority assign perms =
      (some (s.role_create_from_db row).1,
        (s.role_create_from_db row).2.add_role v (s.role_create_from_db row).1) := by
  unfold create_role_for_server
  dsimp only
  rw [if_neg hid, hfind]

/-- the role of a new row is given to the server, permissions and members -/
def newRole (env : ServerEnv) (v : SrvId) (row : RoleRow) (assign : Bool) (perms : Int)
    (s : ServerStartup) : ServerStartup :=
  let r := s.role_create_from_db row
  let s := r.2.add_role v r.1
  let s := (s.permission_get_or_create env (s.role r.1).m_uid perms).2
  if assign then
    (s.m_accounts v).values.foldl
      (fun s member => s.insert_account_role (s.base.w.acc member).m_uid row.id) s
  else s

theorem create_role_for_server_new {v : SrvId} (hid : (s.base.server v).m_uid ≠ 0) {name : QString}
    (hfind : (s.rows.roles.find? fun r =>
      r.server_id == (s.base.server v).m_uid && r.name == toUtf8 name) = none) {priority : Int}
    (hfits : s.rows.AdmitsRole
      ⟨env.createRoleUuid s.made, (s.base.server v).m_uid, toUtf8 name, priority⟩)
    (assign : Bool) (perms : Int) :
    (s.create_role_for_server env v name priority assign perms).2 =
      newRole env v ⟨env.createRoleUuid s.made, (s.base.server v).m_uid, toUtf8 name, priority⟩ assign
        perms { s with made := s.made + 1, rows := s.rows.addRole _ hfits } := by
  unfold create_role_for_server
  dsimp only
  rw [if_neg hid, hfind]
  exact congrArg Prod.snd (dif_pos hfits)

theorem newRole_written (h : s.RolesKnown) (hf : s.FreshRoles env) {v : SrvId}
    (hv : v < s.base.nextSrv) {row : RoleRow} (hrow : row ∈ s.allTables.rows.roles)
    (hserver : row.server_id = (s.base.server v).m_uid) (assign : Bool) (perms : Int) :
    s.RolesWritten env (newRole env v row assign perms s) ∧
      (newRole env v row assign perms s).HasRole v row.name ∧
      (newRole env v row assign perms s).allTables.rows.roles = s.allTables.rows.roles ∧
      ∃ perm ∈ (newRole env v row assign perms s).allTables.rows.permissions, perm.role_id = row.id := by
  obtain ⟨hwritten, hrole, hall, huid⟩ := role_added h hf hv hrow hserver
  unfold newRole
  dsimp only
  rw [huid]
  have hid : row.id ∈ ((s.role_create_from_db row).2.add_role v
      (s.role_create_from_db row).1).allTables.rows.roles.map RoleRow.id := by
    rw [hall]
    exact List.mem_map_of_mem hrow
  obtain ⟨hperm, hroles, perm, hmem, hpid⟩ :=
    permission_get_or_create_written hwritten.known hwritten.fresh hid perms
  have hwritten := hwritten.trans hperm
  have hrole := hperm.hasRole _ _ hrole
  rw [hall] at hroles
  by_cases hassign : assign = true
  · rw [if_pos hassign]
    obtain ⟨hassign, hsame⟩ := insert_account_roles_written row.id _ hwritten.known hwritten.fresh
    exact ⟨hwritten.trans hassign, hassign.hasRole _ _ hrole, hsame.trans hroles, perm,
      hassign.grows.permissions.subset hmem, hpid⟩
  · rw [if_neg hassign]
    exact ⟨hwritten, hrole, hroles, perm, hmem, hpid⟩

/-- **`create_role_for_server`**: the server holds the role, and the role has a row with permissions. -/
theorem create_role_for_server_written (h : s.RolesKnown) (hf : s.FreshRoles env) {v : SrvId}
    (hv : s.base.Found v) (hid : (s.base.server v).m_uid ≠ 0)
    (name : QString) (priority : Int) (assign : Bool) (perms : Int)
    (hperm : Permitted s.allTables) :
    s.RolesWritten env (s.create_role_for_server env v name priority assign perms).2 ∧
      (s.create_role_for_server env v name priority assign perms).2.HasRole v (toUtf8 name) ∧
      RoleOf (s.create_role_for_server env v name priority assign perms).2.allTables
        (s.base.server v).m_uid (toUtf8 name) ∧
      Permitted (s.create_role_for_server env v name priority assign perms).2.allTables := by
  obtain ⟨hlt, -, hmem⟩ := h.servers.uid _ _ hv
  cases hfind : s.rows.roles.find? fun r =>
      r.server_id == (s.base.server v).m_uid && r.name == toUtf8 name with
  | some row =>
    have hmatch : row.server_id = (s.base.server v).m_uid ∧ row.name = toUtf8 name := by
      simpa using List.find?_some hfind
    have hrow : row ∈ s.allTables.rows.roles := List.mem_of_find?_eq_some hfind
    obtain ⟨hwritten, hrole, hall, -⟩ := role_added h hf hlt hrow hmatch.1
    rw [create_role_for_server_found hid hfind]
    dsimp only
    rw [hall, ← hmatch.2]
    exact ⟨hwritten, hrole, ⟨row, hrow, hmatch.1, rfl⟩, hperm⟩
  | none =>
    have hfits : s.rows.AdmitsRole ⟨env.createRoleUuid s.made, (s.base.server v).m_uid, toUtf8 name,
        priority⟩ := by
      refine ⟨hf.role s.made le_rfl, fun hused => ?_, hmem⟩
      obtain ⟨row, hrow, heq⟩ := List.mem_map.mp hused
      have hnone := List.find?_eq_none.mp hfind row hrow
      simp only [Prod.mk.injEq] at heq
      simp [heq.1, heq.2] at hnone
    have hadded := addRole_written h hf rfl hfits
    obtain ⟨hwritten, hrole, hroles, perm, hpmem, hpid⟩ := newRole_written hadded.known hadded.fresh
      hlt (List.mem_append_right _ List.mem_cons_self) rfl assign perms
    rw [create_role_for_server_new hid hfind hfits]
    refine ⟨hadded.trans hwritten, hrole, ⟨⟨env.createRoleUuid s.made, (s.base.server v).m_uid,
      toUtf8 name, priority⟩, ?_, rfl, rfl⟩, fun row hrow => ?_⟩
    · rw [hroles]
      exact List.mem_append_right _ List.mem_cons_self
    · rw [hroles] at hrow
      rcases List.mem_append.mp hrow with hold | hnew
      · obtain ⟨perm, hmem, hid⟩ := hperm row hold
        exact ⟨perm, (hadded.trans hwritten).grows.permissions.subset hmem, hid⟩
      · rw [List.mem_singleton.mp hnew]
        exact ⟨perm, hpmem, hpid⟩

/-! ## members -/

/-- every member has the role of everyone of the server -/
def Enrolled (d : AllTables) : Prop :=
  ∀ m ∈ d.rows.server_members, ∃ row ∈ d.rows.roles, row.server_id = m.server_id ∧
    row.name = toUtf8 everyone ∧ ⟨m.account_id, row.id⟩ ∈ d.rows.account_roles

theorem RolesWritten.enrolled (hw : s.RolesWritten env s') (h : Enrolled s.allTables) :
    Enrolled s'.allTables := by
  intro m hm
  rw [hw.members] at hm
  obtain ⟨row, hrow, hserver, hname, hassigned⟩ := h m hm
  exact ⟨row, hw.grows.roles.subset hrow, hserver, hname, hw.grows.account_roles.subset hassigned⟩

theorem server_add_member_skipped {accountId serverId : Uuid}
    (h : accountId = 0 ∨ serverId = 0 ∨ ⟨accountId, serverId⟩ ∈ s.rows.server_members ∨
      ¬ s.rows.AdmitsMember ⟨accountId, serverId⟩) : s.server_add_member accountId serverId = s := by
  unfold server_add_member
  by_cases hzero : accountId = 0 ∨ serverId = 0
  · rw [if_pos hzero]
  · rw [if_neg hzero]
    by_cases hmem : (⟨accountId, serverId⟩ : MemberRow) ∈ s.rows.server_members
    · rw [if_pos hmem]
    · rw [if_neg hmem]
      refine dif_neg ?_
      tauto

/-- the row of a member is inserted, and the server given the account -/
def withMember (v : SrvId) (row : MemberRow) (hfits : s.rows.AdmitsMember row) : ServerStartup :=
  match Account.get_by_uid s.base.w row.account_id with
  | none => { s with rows := s.rows.addMember _ hfits }
  | some account => { s with rows := s.rows.addMember _ hfits }.add_account v account

theorem withMember_written (h : s.RolesKnown) (hf : s.FreshRoles env) (v : SrvId) {row : MemberRow}
    (hfits : s.rows.AdmitsMember row) :
    s.RowsWritten env (withMember v row hfits) ∧
      (withMember v row hfits).allTables = ⟨s.base.tables, s.rows.addMember row hfits⟩ := by
  unfold withMember
  split <;> exact ⟨⟨rfl,
    { AllTables.Grows.refl s.allTables with server_members := List.prefix_append _ _ },
    ⟨h.servers, h.cached, h.held⟩, ⟨hf.distinct, hf.role, hf.permission⟩, fun _ _ hrole => hrole⟩, rfl⟩

theorem server_add_member_admitted {accountId serverId : Uuid} (ha : accountId ≠ 0) (hs : serverId ≠ 0)
    (hfits : s.rows.AdmitsMember ⟨accountId, serverId⟩) {v : SrvId}
    (hv : s.base.server_by_uid serverId = some v) {p : RoleRef}
    (hp : s.role_by_name v (toUtf8 everyone) = some p) :
    s.server_add_member accountId serverId =
      (withMember v ⟨accountId, serverId⟩ hfits).insert_account_role accountId (s.role p).m_uid := by
  unfold server_add_member withMember
  rw [if_neg (by tauto), if_neg hfits.1]
  refine (dif_pos hfits).trans ?_
  dsimp only
  rw [hv]
  dsimp only
  cases Account.get_by_uid s.base.w accountId with
  | none =>
    have hrole : role_by_name v (toUtf8 everyone) { s with rows := s.rows.addMember _ hfits } = some p := hp
    dsimp only
    rw [hrole]
    exact if_neg ha
  | some account =>
    have hrole : role_by_name v (toUtf8 everyone)
        ({ s with rows := s.rows.addMember _ hfits }.add_account v account) = some p := hp
    dsimp only
    rw [hrole]
    exact if_neg ha

/-- **`server_add_member`**: a new member is given the role of everyone, which the server holds. -/
theorem server_add_member_enrolled (h : s.RolesKnown) (hf : s.FreshRoles env) {v : SrvId}
    (hv : s.base.Found v)
    (hrole : s.HasRole v (toUtf8 everyone)) (he : Enrolled s.allTables) (accountId : Uuid) :
    s.RowsWritten env (s.server_add_member accountId (s.base.server v).m_uid) ∧
      (s.server_add_member accountId (s.base.server v).m_uid).allTables.rows.roles =
        s.allTables.rows.roles ∧
      Enrolled (s.server_add_member accountId (s.base.server v).m_uid).allTables := by
  by_cases hskip : accountId = 0 ∨ (s.base.server v).m_uid = 0 ∨
      ⟨accountId, (s.base.server v).m_uid⟩ ∈ s.rows.server_members ∨
      ¬ s.rows.AdmitsMember ⟨accountId, (s.base.server v).m_uid⟩
  · rw [server_add_member_skipped hskip]
    exact ⟨RowsWritten.refl h hf, rfl, he⟩
  · obtain ⟨ha, hs, -, hfits⟩ : accountId ≠ 0 ∧ (s.base.server v).m_uid ≠ 0 ∧
        ⟨accountId, (s.base.server v).m_uid⟩ ∉ s.rows.server_members ∧
        s.rows.AdmitsMember ⟨accountId, (s.base.server v).m_uid⟩ := by tauto
    obtain ⟨p, hp, row, hrow, hid, hname, hserver⟩ := role_by_name_some h hrole
    obtain ⟨hwritten, hall⟩ := withMember_written h hf v hfits
    rw [server_add_member_admitted ha hs hfits hv hp]
    have hassign := insert_account_role_written hwritten.known hwritten.fresh accountId (s.role p).m_uid
    have hroles : ((withMember v ⟨accountId, (s.base.server v).m_uid⟩ hfits).insert_account_role
        accountId (s.role p).m_uid).allTables.rows.roles = s.allTables.rows.roles := by
      rw [insert_account_role_roles, hall]
      rfl
    refine ⟨hwritten.trans hassign.toRowsWritten, hroles, fun m hm => ?_⟩
    rw [hroles]
    rw [hassign.members, hall] at hm
    rcases List.mem_append.mp hm with hm | hm
    · obtain ⟨row, hrow, hserver, hname, hassigned⟩ := he m hm
      exact ⟨row, hrow, hserver, hname,
        (hwritten.trans hassign.toRowsWritten).grows.account_roles.subset hassigned⟩
    · rw [List.mem_singleton.mp hm]
      refine ⟨row, hrow, hserver, hname, ?_⟩
      rw [hid]
      refine mem_insert_account_role ?_ ?_
      · rw [hwritten.base]
        exact hfits.2.1
      · rw [hall]
        exact List.mem_map.mpr ⟨row, hrow, hid⟩

/-! ## the preload file -/

/-- what holds of the database between two starts -/
structure Complete (d : AllTables) : Prop where
  server_id : ∀ row ∈ d.tables.servers, row.id ≠ 0
  everyone : ∀ row ∈ d.tables.servers, RoleOf d row.id (toUtf8 everyone)
  permitted : Permitted d
  enrolled : Enrolled d

/-- what holds between two functions of the start-up -/
structure Orderly (env : ServerEnv) (s : ServerStartup) : Prop where
  known : s.RolesKnown
  fresh : s.FreshRoles env
  ready : ∀ u v, s.base.server_by_uid u = some v → s.HasRole v (toUtf8 everyone)
  complete : Complete s.allTables

theorem Orderly.found (h : s.Orderly env) {v : SrvId}
    (hv : s.base.Found v) : (s.base.server v).m_uid ≠ 0 := by
  obtain ⟨row, hrow, hid⟩ := List.mem_map.mp (h.known.servers.uid _ _ hv).2.2
  rw [← hid]
  exact h.complete.server_id row hrow

theorem RowsWritten.permitted (hw : s.RowsWritten env s')
    (hroles : s'.allTables.rows.roles = s.allTables.rows.roles) (h : Permitted s.allTables) :
    Permitted s'.allTables := by
  intro row hrow
  rw [hroles] at hrow
  obtain ⟨perm, hmem, hid⟩ := h row hrow
  exact ⟨perm, hw.grows.permissions.subset hmem, hid⟩

theorem RoleOf.grows {d d' : AllTables} (hg : d.Grows d') {server_id : Uuid} {name : Bytes}
    (h : RoleOf d server_id name) : RoleOf d' server_id name := by
  obtain ⟨row, hrow, hrest⟩ := h
  exact ⟨row, hg.roles.subset hrow, hrest⟩

/-- rows were written beside complete tables -/
theorem RowsWritten.orderly (hw : s.RowsWritten env s') (h : s.Orderly env)
    (hp : Permitted s'.allTables) (he : Enrolled s'.allTables) : s'.Orderly env := by
  have hservers : s'.allTables.tables.servers = s.allTables.tables.servers :=
    congrArg (fun b => b.tables.servers) hw.base
  refine ⟨hw.known, hw.fresh, fun u v hv => ?_, fun row hrow => ?_, fun row hrow => ?_, hp, he⟩
  · rw [hw.base] at hv
    exact hw.hasRole _ _ (h.ready u v hv)
  · rw [hservers] at hrow
    exact h.complete.server_id row hrow
  · rw [hservers] at hrow
    exact (h.complete.everyone row hrow).grows hw.grows

/-- a server is given an account -/
theorem add_account_orderly (h : s.Orderly env) (v : SrvId) (account : AccId) :
    (s.add_account v account).Orderly env :=
  ⟨⟨h.known.servers, h.known.cached, h.known.held⟩,
    ⟨h.fresh.distinct, h.fresh.role, h.fresh.permission⟩, h.ready,
    ⟨h.complete.server_id, h.complete.everyone, h.complete.permitted, h.complete.enrolled⟩⟩

theorem add_channel_orderly (h : s.Orderly env) (v : SrvId) (channel : ChanId) :
    (s.add_channel v channel).Orderly env :=
  ⟨⟨h.known.servers, h.known.cached, h.known.held⟩,
    ⟨h.fresh.distinct, h.fresh.role, h.fresh.permission⟩, h.ready,
    ⟨h.complete.server_id, h.complete.everyone, h.complete.permitted, h.complete.enrolled⟩⟩

theorem server_add_member_orderly (h : s.Orderly env) {v : SrvId}
    (hv : s.base.Found v) (accountId : Uuid) :
    (s.server_add_member accountId (s.base.server v).m_uid).Orderly env := by
  obtain ⟨hwritten, hroles, he⟩ := server_add_member_enrolled h.known h.fresh hv (h.ready _ _ hv)
    h.complete.enrolled accountId
  exact hwritten.orderly h (hwritten.permitted hroles h.complete.permitted) he

theorem join_server_orderly (h : s.Orderly env) {v : SrvId}
    (hv : s.base.Found v) (account : AccId) :
    (s.join_server v account).Orderly env :=
  add_account_orderly (server_add_member_orderly h hv _) v account

theorem load_members_orderly (h : s.Orderly env) (v : SrvId) (l : List MemberRow) :
    (l.foldl (load_server_member v) s).Orderly env := by
  induction l generalizing s with
  | nil => exact h
  | cons row l ih =>
    refine ih ?_
    unfold load_server_member
    split
    · exact h
    · exact add_account_orderly h v _

/-- a function of the start-up that makes no server -/
theorem advance_orderly (h : s.Orderly env) {base : Startup} (hsame : s.base.SameServers base)
    (hg : s.base.tables.Grows base.tables) : (s.advance base hg).Orderly env := by
  have hrows : (s.advance base hg).allTables.tables.servers = s.allTables.tables.servers := hsame.rows
  refine ⟨⟨hsame.known h.known.servers, h.known.cached, fun v u p hp => ?_⟩,
    ⟨h.fresh.distinct, h.fresh.role, h.fresh.permission⟩, fun u v hv => h.ready u v ?_,
    ⟨?_, ?_, h.complete.permitted, h.complete.enrolled⟩⟩
  · show v < base.nextSrv ∧ _ ∧ _ ∧ ∃ row ∈ s.allTables.rows.roles, _ ∧ _ ∧
      row.server_id = (base.server v).m_uid
    rw [hsame.nextSrv, hsame.server]
    exact h.known.held v u p hp
  · unfold Startup.server_by_uid
    rw [← hsame.by_uid]
    exact hv
  · rw [hrows]
    exact h.complete.server_id
  · rw [hrows]
    exact h.complete.everyone

/-- **A server is opened**: it gets the role of everyone, and its owner is a member. -/
theorem open_server_orderly (h : s.RolesKnown) (hf : s.FreshRoles env) {v : SrvId}
    (hv : s.base.Found v)
    (hid : ∀ row ∈ s.base.tables.servers, row.id ≠ 0)
    (hready : ∀ u x, s.base.server_by_uid u = some x → x = v ∨ s.HasRole x (toUtf8 everyone))
    (hserved : ∀ row ∈ s.base.tables.servers,
      row.id = (s.base.server v).m_uid ∨ RoleOf s.allTables row.id (toUtf8 everyone))
    (hp : Permitted s.allTables) (he : Enrolled s.allTables) (owner : AccId) :
    (s.open_server env v owner).Orderly env := by
  obtain ⟨row, hrow, hrowid⟩ := List.mem_map.mp (h.servers.uid _ _ hv).2.2
  have hzero : (s.base.server v).m_uid ≠ 0 := by
    rw [← hrowid]
    exact hid row hrow
  obtain ⟨hw, hrole, hrow, hpermitted⟩ :=
    create_role_for_server_written h hf hv hzero everyone 0 true 0 hp
  unfold open_server
  dsimp only
  obtain ⟨s1, hs1⟩ : ∃ s1, s1 = (s.create_role_for_server env v everyone 0 true 0).2 := ⟨_, rfl⟩
  rw [← hs1] at hw hrole hrow hpermitted ⊢
  have hservers : s1.allTables.tables.servers = s.base.tables.servers :=
    congrArg (fun b => b.tables.servers) hw.base
  have horderly : s1.Orderly env := by
    refine ⟨hw.known, hw.fresh, fun u x hx => ?_, ⟨?_, fun r hr => ?_, hpermitted, hw.enrolled he⟩⟩
    · rw [hw.base] at hx
      rcases hready u x hx with rfl | hx
      · exact hrole
      · exact hw.hasRole x _ hx
    · rw [hservers]
      exact hid
    · rw [hservers] at hr
      rcases hserved r hr with heq | hr
      · rw [heq]
        exact hrow
      · exact hr.grows hw.grows
  exact load_members_orderly (add_account_orderly
    (server_add_member_orderly horderly (by rw [hw.base]; exact hv) _) v owner) v _

/-- a server that the start-up has found or made -/
theorem open_found_orderly (h : s.Orderly env) (hz : ∀ n, env.createUuid n ≠ 0) {base : Startup}
    {v : SrvId} {name : Bytes} (hopened : s.base.ServerOpened name base v)
    (hids : ∀ row ∈ base.tables.servers, row ∈ s.base.tables.servers ∨ ∃ n, row.id = env.createUuid n)
    (owner : AccId) (hg : s.base.tables.Grows base.tables) :
    ((s.advance base hg).open_server env v owner).Orderly env := by
  have hknown : (s.advance base hg).RolesKnown := by
    refine ⟨hopened.known, h.known.cached, fun x u p hp => ?_⟩
    obtain ⟨hx, hlt, huid, row, hrow, hrid, hname, hserver⟩ := h.known.held x u p hp
    refine ⟨hx.trans_le hopened.nextSrv, hlt, huid, row, hrow, hrid, hname, ?_⟩
    show row.server_id = (base.server x).m_uid
    rw [hopened.server x hx]
    exact hserver
  refine open_server_orderly hknown ⟨h.fresh.distinct, h.fresh.role, h.fresh.permission⟩ hopened.found
    (fun row hrow => ?_) (fun u x hx => ?_) (fun row hrow => ?_) h.complete.permitted
    h.complete.enrolled owner
  · rcases hids row hrow with hold | ⟨n, hn⟩
    · exact h.complete.server_id row hold
    · rw [hn]
      exact hz n
  · rcases hopened.new u x hx with hold | hnew
    · exact Or.inr (h.ready u x hold)
    · exact Or.inl hnew
  · rcases hopened.rows row hrow with hold | hnew
    · exact Or.inr (h.complete.everyone row hold)
    · exact Or.inl hnew

theorem server_get_or_create_orderly (h : s.Orderly env) (hz : ∀ n, env.createUuid n ≠ 0) (name : Bytes)
    (owner : AccId) :
    (s.server_get_or_create env name owner).2.Orderly env ∧
      ∀ v, (s.server_get_or_create env name owner).1 = some v →
        (s.server_get_or_create env name owner).2.base.Found v := by
  unfold server_get_or_create
  cases hcached : s.base.servers_lookup_name[name]? with
  | some v =>
    refine ⟨h, fun x hx => ?_⟩
    rw [← Option.some.inj hx]
    exact (h.known.servers.name name v hcached).1
  | none =>
    have hids := Startup.server_get_or_create_ids env.toStartupEnv (s := s.base) name owner
    have hopen (r : Option SrvId × Startup) (hg : s.base.tables.Grows r.2.tables)
        (hids : ∀ row ∈ r.2.tables.servers, row ∈ s.base.tables.servers ∨ ∃ n, row.id = env.createUuid n)
        (hr : (∃ v base, r = (some v, base) ∧ s.base.ServerOpened name base v) ∨
          ∃ base, r = (none, base) ∧ s.base.SameServers base) :
        (s.open_found env owner r hg).2.Orderly env ∧
          ∀ v, (s.open_found env owner r hg).1 = some v →
            (s.open_found env owner r hg).2.base.Found v := by
      rcases hr with ⟨v, base, rfl, hopened⟩ | ⟨base, rfl, hsame⟩
      · refine ⟨open_found_orderly h hz hopened hids owner hg, fun x hx => ?_⟩
        have hb : (s.open_found env owner (some v, base) hg).2.base = base :=
          congrArg Prod.snd (open_found_base owner hg)
        rw [← Option.some.inj hx, hb]
        exact hopened.found
      · refine ⟨advance_orderly h hsame hg, fun x hx => ?_⟩
        cases hx
    exact hopen _ _ hids (Startup.server_get_or_create_opened _ h.known.servers name owner)

/-- what holds between two steps of `preload_from_file` -/
structure Loading.Orderly (env : ServerEnv) (p : Loading) : Prop where
  state : p.s.Orderly env
  servers : ∀ (n : QString) v, p.serversByName[n]? = some v → p.s.base.Found v

theorem preload_server_orderly (hz : ∀ n, env.createUuid n ≠ 0) (adminAccount : AccId) {p : Loading}
    (h : p.Orderly env) (name : QString) : (preload_server env adminAccount p name).Orderly env := by
  obtain ⟨hstate, hfound⟩ := server_get_or_create_orderly h.state hz (toUtf8 name) adminAccount
  have hbase := congrArg Prod.snd
    (server_get_or_create_base env (s := p.s) (toUtf8 name) adminAccount)
  dsimp only at hbase
  have hkept (n : QString) (v : SrvId) (hv : p.serversByName[n]? = some v) :
      (p.s.server_get_or_create env (toUtf8 name) adminAccount).2.base.Found v := by
    rw [hbase]
    exact Startup.server_get_or_create_found h.state.known.servers _ _ (h.servers n v hv)
  unfold preload_server
  dsimp only
  generalize p.s.server_get_or_create env (toUtf8 name) adminAccount = r at hstate hfound hkept
  obtain ⟨v?, s'⟩ := r
  cases v? with
  | none => exact ⟨hstate, hkept⟩
  | some server =>
    refine ⟨join_server_orderly hstate (hfound server rfl) adminAccount, fun n v hv => ?_⟩
    dsimp only
    rw [join_server_base]
    rw [lookup_insert] at hv
    split at hv
    · rw [← Option.some.inj hv]
      exact hfound server rfl
    · exact hkept n v hv

/-- an account is made, and nothing is done to servers -/
theorem account_get_or_create_orderly (h : s.Orderly env) (username password : Bytes) :
    (s.account_get_or_create env username password).2.Orderly env ∧
      ∀ v, s.base.Found v → (s.account_get_or_create env username password).2.base.Found v :=
  have hsame := Startup.account_get_or_create_sameServers env.toStartupEnv (s := s.base)
    username password
  ⟨advance_orderly h hsame _, fun _ hv => hsame.found hv⟩

theorem preload_user_orderly {p : Loading} (h : p.Orderly env) (user : PreloadUser) :
    (preload_user env p user).Orderly env := by
  obtain ⟨hstate, hfound⟩ :=
    account_get_or_create_orderly h.state (toUtf8 user.name) (toUtf8 user.password)
  unfold preload_user
  dsimp only
  generalize p.s.account_get_or_create env (toUtf8 user.name) (toUtf8 user.password) = r
    at hstate hfound
  obtain ⟨a?, s'⟩ := r
  cases a? with
  | none => exact ⟨hstate, fun n v hv => hfound v (h.servers n v hv)⟩
  | some account =>
    dsimp only
    cases hserver : p.serversByName[user.server]? with
    | none => exact ⟨hstate, fun n v hv => hfound v (h.servers n v hv)⟩
    | some server =>
      refine ⟨join_server_orderly hstate (hfound server (h.servers _ _ hserver)) account,
        fun n v hv => ?_⟩
      dsimp only
      rw [join_server_base]
      exact hfound v (h.servers n v hv)

theorem preload_member_orderly (h : s.Orderly env) (accountsByName : QMap QString AccId)
    (server : Option SrvId) (channel : ChanId) (mname : QString) :
    (s.preload_member accountsByName server channel mname).Orderly env ∧
      s.base.SameServers (s.preload_member accountsByName server channel mname).base := by
  unfold preload_member
  cases accountsByName[mname]? with
  | none => exact ⟨h, Startup.SameServers.refl _⟩
  | some member =>
    have hsame := Startup.channel_add_member_sameServers (s := s.base) (s.base.w.acc member).m_uid
      (s.base.w.chan channel).uid
    have hstate := advance_orderly h hsame (Startup.channel_add_member_grows _ _)
    cases server with
    | none => exact ⟨hstate, hsame⟩
    | some server => exact ⟨add_account_orderly hstate _ _, hsame⟩

theorem preload_members_orderly (h : s.Orderly env) (accountsByName : QMap QString AccId)
    (server : Option SrvId) (channel : ChanId) (members : List QString) :
    (members.foldl (preload_member accountsByName server channel) s).Orderly env ∧
      s.base.SameServers (members.foldl (preload_member accountsByName server channel) s).base := by
  induction members generalizing s with
  | nil => exact ⟨h, Startup.SameServers.refl _⟩
  | cons mname members ih =>
    obtain ⟨hstep, hsame⟩ := preload_member_orderly h accountsByName server channel mname
    obtain ⟨hrest, hsames⟩ := ih hstep
    exact ⟨hrest, hsame.trans hsames⟩

theorem preload_channel_orderly {p : Loading} (h : p.Orderly env) (channel : Startup.PreloadChannel) :
    (preload_channel env p channel).Orderly env := by
  unfold preload_channel
  dsimp only
  generalize p.accountsByName[channel.owner]? = owner
  generalize p.serversByName[channel.server]? = server
  have hsame := Startup.channel_get_or_create_sameServers env.toStartupEnv (s := p.s.base)
    (toUtf8 channel.name) (toUtf8 channel.topic) owner server
  have hstate : (p.s.channel_get_or_create env (toUtf8 channel.name) (toUtf8 channel.topic) owner
      server).2.Orderly env := advance_orderly h.state hsame _
  replace hsame : p.s.base.SameServers (p.s.channel_get_or_create env (toUtf8 channel.name)
      (toUtf8 channel.topic) owner server).2.base := hsame
  generalize p.s.channel_get_or_create env (toUtf8 channel.name) (toUtf8 channel.topic) owner server = r
    at hstate hsame
  obtain ⟨ch?, s'⟩ := r
  cases ch? with
  | none => exact ⟨hstate, fun n v hv => hsame.found (h.servers n v hv)⟩
  | some ch =>
    cases server with
    | none =>
      obtain ⟨hmembers, hsames⟩ :=
        preload_members_orderly hstate p.accountsByName none ch channel.members
      exact ⟨hmembers, fun n v hv => hsames.found (hsame.found (h.servers n v hv))⟩
    | some server =>
      obtain ⟨hmembers, hsames⟩ := preload_members_orderly (add_channel_orderly hstate server ch)
        p.accountsByName (some server) ch channel.members
      exact ⟨hmembers, fun n v hv => hsames.found (hsame.found (h.servers n v hv))⟩

theorem preload_from_file_orderly (h : s.Orderly env) (hz : ∀ n, env.createUuid n ≠ 0)
    (file : Option Preload) : (s.preload_from_file env file).Orderly env := by
  cases file with
  | none => exact h
  | some root =>
    obtain ⟨hstate, -⟩ := account_get_or_create_orderly h (ascii "admin") (ascii "admin")
    unfold preload_from_file
    dsimp only
    generalize s.account_get_or_create env (ascii "admin") (ascii "admin") = r at hstate
    obtain ⟨a?, s'⟩ := r
    cases a? with
    | none => exact hstate
    | some adminAccount =>
      have hservers : Loading.Orderly env (root.servers.foldl (preload_server env adminAccount)
          { s := s' }) := by
        refine foldl_invariant (I := Loading.Orderly env) (l := root.servers)
          (fun p name _ hp => preload_server_orderly hz adminAccount hp name) ⟨hstate, fun n v hv => ?_⟩
        rw [Std.ExtTreeMap.getElem?_empty] at hv
        cases hv
      have husers := foldl_invariant (I := Loading.Orderly env) (l := root.users)
        (fun p user _ hp => preload_user_orderly hp user)
        (s := { root.servers.foldl (preload_server env adminAccount) { s := s' } with
          accountsByName := (root.servers.foldl (preload_server env adminAccount)
            { s := s' }).accountsByName.insert ("admin".toList) adminAccount })
        ⟨hservers.state, hservers.servers⟩
      exact (foldl_invariant (I := Loading.Orderly env) (l := root.channels)
        (fun p channel _ hp => preload_channel_orderly hp channel) husers).state

end ServerStartup

/-! ## starts -/

open ServerStartup

/-- `createUuid` makes uuids that differ and are not null, and that no role or permission has -/
structure ServerEnv.FreshFor (env : ServerEnv) (d : AllTables) : Prop where
  not_null : ∀ n, env.createUuid n ≠ 0
  distinct : Function.Injective env.createRoleUuid
  role : ∀ n, env.createRoleUuid n ∉ d.rows.roles.map RoleRow.id
  permission : ∀ n, env.createRoleUuid n ∉ d.rows.permissions.map PermissionRow.id

theorem orderly_ofAllTables {env : ServerEnv} {d : AllTables} (hf : env.FreshFor d)
    (h : Complete d) : (ofAllTables d).Orderly env := by
  refine ⟨⟨⟨fun _ _ hx => ?_, fun _ _ hx => ?_⟩, fun _ _ hx => ?_, fun _ _ _ hx => ?_⟩,
    ⟨hf.distinct, fun n _ => hf.role n, fun n _ => hf.permission n⟩, fun _ _ hx => ?_, h⟩
  all_goals cases hx

/-- **One start.**  The preload file leaves complete tables complete. -/
theorem start_complete {env : ServerEnv} {d : AllTables} (hf : env.FreshFor d) (h : Complete d)
    (file : Option Preload) : Complete (d.start env file) :=
  (preload_from_file_orderly (orderly_ofAllTables hf h) hf.not_null file).complete

/-- the databases that starts of the program lead to, each with new uuids -/
inductive Starts (d : AllTables) : AllTables → Prop
  | none : Starts d d
  | start {d' : AllTables} (env : ServerEnv) (file : Option Preload) :
    Starts d d' → env.FreshFor d' → Starts d (d'.start env file)

/-- **Every start.**  From complete tables only complete ones are reached: all servers have their role of
everyone, all members have it, and all roles have permissions. -/
theorem starts_complete {d d' : AllTables} (h : Complete d) (hstarts : Starts d d') : Complete d' := by
  induction hstarts with
  | none => exact h
  | start env file _ hf ih => exact start_complete hf ih file

/-! ## the tables that `create_schema` makes -/

namespace NoRows

theorem server_name : (([] : List ChannelRow).map fun r => (r.server_id, r.name)).Nodup :=
  List.nodup_nil

theorem server_owner : ∀ r ∈ ([] : List ServerRow),
    r.account_owner_id ∈ ([] : List AccountRow).map AccountRow.id :=
  fun _ h => absurd h List.not_mem_nil

theorem channel_server : ∀ r ∈ ([] : List ChannelRow),
    r.server_id ∈ ([] : List ServerRow).map ServerRow.id :=
  fun _ h => absurd h List.not_mem_nil

theorem channel_owner : ∀ r ∈ ([] : List ChannelRow), ∀ id, r.account_owner_id = some id →
    id ∈ ([] : List AccountRow).map AccountRow.id :=
  fun _ h => absurd h List.not_mem_nil

theorem joined_account : ∀ r ∈ ([] : List JoinRow),
    r.account_id ∈ ([] : List AccountRow).map AccountRow.id :=
  fun _ h => absurd h List.not_mem_nil

theorem joined_channel : ∀ r ∈ ([] : List JoinRow),
    r.channel_id ∈ ([] : List ChannelRow).map ChannelRow.id :=
  fun _ h => absurd h List.not_mem_nil

end NoRows

def AllTables.empty : AllTables where
  tables := {
    accounts := [], servers := [], channels := [], account_channels := []
    account_id := List.nodup_nil
    username := List.nodup_nil
    server_id := List.nodup_nil
    channel_id := List.nodup_nil
    server_name := NoRows.server_name
    joined_once := List.nodup_nil
    server_owner := NoRows.server_owner
    channel_server := NoRows.channel_server
    channel_owner := NoRows.channel_owner
    joined_account := NoRows.joined_account
    joined_channel := NoRows.joined_channel }
  rows := RoleTables.empty _

theorem complete_empty : Complete AllTables.empty :=
  ⟨fun _ h => absurd h List.not_mem_nil, fun _ h => absurd h List.not_mem_nil,
    fun _ h => absurd h List.not_mem_nil, fun _ h => absurd h List.not_mem_nil⟩

/-- a server with one user -/
def oneServer : Preload :=
  ⟨["master".toList], [⟨⟨"bob".toList, "secret".toList⟩, "master".toList⟩], []⟩

def countingEnv (n : Nat) : ServerEnv where
  createUuid := fun k => n + k + 1
  hashPasswordBcrypt := fun pw => pw
  createRoleUuid := fun k => n + k + 1

theorem starts_complete_oneServer :
    Complete (AllTables.empty.start (countingEnv 0) (some oneServer)) :=
  starts_complete complete_empty (.start (countingEnv 0) (some oneServer) .none
    ⟨fun _ => Nat.succ_ne_zero _, fun _ _ h => Nat.add_left_cancel (Nat.add_right_cancel h),
      fun _ => List.not_mem_nil, fun _ => List.not_mem_nil⟩)

end Chatripper
