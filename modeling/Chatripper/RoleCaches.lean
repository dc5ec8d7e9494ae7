import Mathlib
import Chatripper.Servers
import Chatripper.Core.Rooms

/-!
# The caches of servers and roles

The functions of the start-up cache a server or a role when they make its object, and look there before
they make another.  What is cached has its row, and what a server holds has a row of this server.

* `ServersKnown`, `RolesKnown`    the caches and the database agree;
* `server_get_or_create_opened`   the server that is returned is that of the row of the name;
* `role_create_from_db_made`      a role is that of its row, cached or made.
-/

namespace Chatripper
open ByteStr Utf8

/-- the keys after the next one are those of no row, also when the next one is used -/
theorem unused_concat {α : Type} {key : α → Uuid} {l : List α} {row : α} {make : Nat → Uuid} {k : Nat}
    (hd : Function.Injective make) (hf : ∀ n, k ≤ n → make n ∉ l.map key) (hrow : key row = make k) :
    ∀ n, k + 1 ≤ n → make n ∉ (l ++ [row]).map key := by
  intro n hn hmem
  rw [List.map_append, List.map_singleton] at hmem
  rcases List.mem_append.mp hmem with hmem | hmem
  · exact hf n (Nat.le_of_succ_le hn) hmem
  · have heq := hd ((List.mem_singleton.mp hmem).trans hrow)
    omega

/-! ## servers and their rows -/

/-- the row that `SELECT … FROM servers WHERE name = ?` returns first -/
def Tables.serverId (t : Tables) (name : Bytes) : Option Uuid :=
  (t.servers.find? fun r => r.name == name).map ServerRow.id

theorem Tables.Grows.serverId {t t' : Tables} (h : t.Grows t') {name : Bytes} {id : Uuid}
    (hid : t.serverId name = some id) : t'.serverId name = some id := by
  obtain ⟨row, hrow, rfl⟩ := Option.map_eq_some_iff.mp hid
  exact Option.map_eq_some_iff.mpr ⟨row, h.servers.find?_eq_some hrow, rfl⟩

theorem Tables.mem_of_serverId {t : Tables} {name : Bytes} {id : Uuid} (h : t.serverId name = some id) :
    id ∈ t.servers.map ServerRow.id := by
  obtain ⟨row, hrow, rfl⟩ := Option.map_eq_some_iff.mp h
  exact List.mem_map_of_mem (List.mem_of_find?_eq_some hrow)

namespace Startup
variable {env : StartupEnv} {s s' : Startup}

/-- the cached servers have rows -/
structure ServersKnown (s : Startup) : Prop where
  uid : ∀ u v, s.server_by_uid u = some v →
    v < s.nextSrv ∧ (s.server v).m_uid = u ∧ u ∈ s.tables.servers.map ServerRow.id
  name : ∀ (n : Bytes) v, s.servers_lookup_name[n]? = some v →
    s.server_by_uid (s.server v).m_uid = some v ∧ s.tables.serverId n = some (s.server v).m_uid

/-- servers are as they were -/
structure SameServers (s s' : Startup) : Prop where
  server : s'.server = s.server
  nextSrv : s'.nextSrv = s.nextSrv
  by_uid : s'.servers_lookup_uuid = s.servers_lookup_uuid
  by_name : s'.servers_lookup_name = s.servers_lookup_name
  rows : s'.tables.servers = s.tables.servers

/-- `server_get_or_create` returned a server -/
structure ServerOpened (s : Startup) (name : Bytes) (s' : Startup) (v : SrvId) : Prop where
  known : s'.ServersKnown
  nextSrv : s.nextSrv ≤ s'.nextSrv
  server : ∀ x < s.nextSrv, s'.server x = s.server x
  kept : ∀ u x, s.server_by_uid u = some x → s'.server_by_uid u = some x
  new : ∀ u x, s'.server_by_uid u = some x → s.server_by_uid u = some x ∨ x = v
  found : s'.server_by_uid (s'.server v).m_uid = some v
  id : s'.tables.serverId name = some (s'.server v).m_uid
  rows : ∀ row ∈ s'.tables.servers, row ∈ s.tables.servers ∨ row.id = (s'.server v).m_uid

theorem SameServers.refl (s : Startup) : s.SameServers s := ⟨rfl, rfl, rfl, rfl, rfl⟩

theorem SameServers.trans {s'' : Startup} (h : s.SameServers s') (h' : s'.SameServers s'') :
    s.SameServers s'' :=
  ⟨h'.server.trans h.server, h'.nextSrv.trans h.nextSrv, h'.by_uid.trans h.by_uid,
    h'.by_name.trans h.by_name, h'.rows.trans h.rows⟩

theorem SameServers.known (h : s.SameServers s') (hs : s.ServersKnown) : s'.ServersKnown := by
  have huid (u : Uuid) : s'.server_by_uid u = s.server_by_uid u := by
    unfold server_by_uid
    rw [h.by_uid]
  have hid (n : Bytes) : s'.tables.serverId n = s.tables.serverId n := by
    unfold Tables.serverId
    rw [h.rows]
  constructor
  · intro u v hv
    rw [h.nextSrv, h.server, h.rows]
    exact hs.uid u v ((huid u).symm.trans hv)
  · intro n v hv
    rw [huid, hid, h.server]
    rw [h.by_name] at hv
    exact hs.name n v hv

theorem channel_create_from_db_sameServers (id : Uuid) (name topic : Bytes) (owner : Option AccId)
    (server : Option SrvId) :
    s.SameServers (s.channel_create_from_db id name topic owner server).2 := by
  unfold channel_create_from_db
  split
  · exact SameServers.refl s
  · exact ⟨rfl, rfl, rfl, rfl, rfl⟩

variable (env) in
theorem account_get_or_create_sameServers (username password : Bytes) :
    s.SameServers (s.account_get_or_create env username password).2 := by
  unfold account_get_or_create
  split
  · exact SameServers.refl s
  · split
    · exact ⟨rfl, rfl, rfl, rfl, rfl⟩
    · dsimp only
      split <;> exact ⟨rfl, rfl, rfl, rfl, rfl⟩

variable (env) in
theorem channel_get_or_create_sameServers (name topic : Bytes) (owner : Option AccId)
    (server : Option SrvId) :
    s.SameServers (s.channel_get_or_create env name topic owner server).2 := by
  unfold channel_get_or_create
  split
  · exact SameServers.refl s
  · split
    · exact channel_create_from_db_sameServers _ _ _ _ _
    · split
      · exact SameServers.refl s
      · dsimp only
        split
        · refine SameServers.trans ?_ (channel_create_from_db_sameServers _ _ _ _ _)
          exact ⟨rfl, rfl, rfl, rfl, rfl⟩
        · exact ⟨rfl, rfl, rfl, rfl, rfl⟩

theorem channel_add_member_sameServers (account_id channel_id : Uuid) :
    s.SameServers (s.channel_add_member account_id channel_id) := by
  unfold channel_add_member
  split <;> exact ⟨rfl, rfl, rfl, rfl, rfl⟩

theorem server_create_from_db_opened (h : s.ServersKnown) {id : Uuid} {name : Bytes}
    (owner : Option AccId) (hrow : s.tables.serverId name = some id) :
    s.ServerOpened name (s.server_create_from_db id name owner).2
      (s.server_create_from_db id name owner).1 := by
  unfold server_create_from_db
  cases hcached : s.server_by_uid id with
  | some v =>
    have huid := (h.uid id v hcached).2.1
    refine ⟨h, le_rfl, fun _ _ => rfl, fun _ _ hx => hx, fun _ _ hx => Or.inl hx, ?_, ?_,
      fun _ hrow => Or.inl hrow⟩
    · rw [huid, hcached]
    · rw [hrow, huid]
  | none =>
    dsimp only
    have hlookup (u : Uuid) : (s.servers_lookup_uuid.insert id s.nextSrv)[u]? =
        if u = id then some s.nextSrv else s.server_by_uid u := lookup_insert _ _ _ _
    have hnew : (if s.nextSrv = s.nextSrv then { m_uid := id, m_name := name, m_owner := owner }
        else s.server s.nextSrv : Server).m_uid = id := by
      rw [if_pos rfl]
    have hserver (x : SrvId) (hx : x < s.nextSrv) :
        (if x = s.nextSrv then { m_uid := id, m_name := name, m_owner := owner }
          else s.server x : Server) = s.server x := if_neg (Nat.ne_of_lt hx)
    have hkept (u : Uuid) (x : SrvId) (hx : s.server_by_uid u = some x) :
        (s.servers_lookup_uuid.insert id s.nextSrv)[u]? = some x := by
      rw [hlookup, if_neg, hx]
      rintro rfl
      rw [hcached] at hx
      cases hx
    refine ⟨⟨fun u v hv => ?_, fun n v hv => ?_⟩, Nat.le_succ _, hserver, hkept, fun u x hx => ?_,
      ?_, ?_, fun _ hrow => Or.inl hrow⟩
    · have hv := (hlookup u).symm.trans hv
      split at hv
      · rename_i hu
        rw [← Option.some.inj hv, hu]
        exact ⟨Nat.lt_succ_self _, hnew, Tables.mem_of_serverId hrow⟩
      · obtain ⟨hlt, huid, hmem⟩ := h.uid u v hv
        exact ⟨Nat.lt_succ_of_lt hlt, (congrArg Server.m_uid (hserver v hlt)).trans huid, hmem⟩
    · have hold (hv : s.servers_lookup_name[n]? = some v) :
          (s.servers_lookup_uuid.insert id s.nextSrv)[(s.server v).m_uid]? = some v ∧
            s.tables.serverId n = some (s.server v).m_uid ∧ v < s.nextSrv := by
        obtain ⟨hfound, hid⟩ := h.name n v hv
        exact ⟨hkept _ _ hfound, hid, (h.uid _ _ hfound).1⟩
      have hgoal (huid : (if v = s.nextSrv then { m_uid := id, m_name := name, m_owner := owner }
            else s.server v : Server) = s.server v) (hv : s.servers_lookup_name[n]? = some v) :
          (s.servers_lookup_uuid.insert id s.nextSrv)[(if v = s.nextSrv then
              { m_uid := id, m_name := name, m_owner := owner } else s.server v : Server).m_uid]? =
                some v ∧ s.tables.serverId n = some (if v = s.nextSrv then
              { m_uid := id, m_name := name, m_owner := owner } else s.server v : Server).m_uid := by
        rw [huid]
        exact ⟨(hold hv).1, (hold hv).2.1⟩
      split at hv
      · exact hgoal (hserver v (hold hv).2.2) hv
      · rw [lookup_insert] at hv
        split at hv
        · rename_i hn
          rw [← Option.some.inj hv, hn]
          refine ⟨?_, ?_⟩
          · show (s.servers_lookup_uuid.insert id s.nextSrv)[_]? = _
            rw [hnew, hlookup, if_pos rfl]
          · rw [hrow, hnew]
        · exact hgoal (hserver v (hold hv).2.2) hv
    · have hx := (hlookup u).symm.trans hx
      split at hx
      · exact Or.inr (Option.some.inj hx).symm
      · exact Or.inl hx
    · show (s.servers_lookup_uuid.insert id s.nextSrv)[_]? = _
      rw [hnew, hlookup, if_pos rfl]
    · show s.tables.serverId name = _
      rw [hrow, hnew]

variable (env) in
theorem server_get_or_create_opened (h : s.ServersKnown) (name : Bytes) (owner : AccId) :
    (∃ v s', s.server_get_or_create env name owner = (some v, s') ∧ s.ServerOpened name s' v) ∨
      ∃ s', s.server_get_or_create env name owner = (none, s') ∧ s.SameServers s' := by
  unfold server_get_or_create
  cases hcached : s.servers_lookup_name[name]? with
  | some v =>
    obtain ⟨hfound, hid⟩ := h.name name v hcached
    exact Or.inl ⟨v, s, rfl, h, le_rfl, fun _ _ => rfl, fun _ _ hx => hx, fun _ _ hx => Or.inl hx, hfound,
      hid, fun _ hrow => Or.inl hrow⟩
  | none =>
    cases hrow : s.tables.servers.find? fun r => r.name == name with
    | some row =>
      have hid : s.tables.serverId name = some row.id := Option.map_eq_some_iff.mpr ⟨row, hrow, rfl⟩
      have hname : row.name = name := by simpa using List.find?_some hrow
      dsimp only
      rw [hname]
      exact Or.inl ⟨_, _, rfl, server_create_from_db_opened h _ hid⟩
    | none =>
      dsimp only [createUuid]
      split
      · rename_i hfits
        -- the row is the first of its name
        have hid : (s.tables.addServer _ hfits).serverId name = some (env.createUuid s.made) := by
          unfold Tables.serverId Tables.addServer
          rw [List.find?_append, hrow]
          simp
        have hgrows := Tables.grows_addServer _ hfits
        have hknown : ServersKnown { s with
            made := s.made + 1, tables := s.tables.addServer _ hfits } := by
          refine ⟨fun u v hv => ?_, fun n v hv => ?_⟩
          · obtain ⟨hlt, huid, hmem⟩ := h.uid u v hv
            exact ⟨hlt, huid, (hgrows.servers.map _).subset hmem⟩
          · exact ⟨(h.name n v hv).1, hgrows.serverId (h.name n v hv).2⟩
        have hopened := server_create_from_db_opened hknown (some owner) hid
        refine Or.inl ⟨_, _, rfl, hopened.known, hopened.nextSrv, hopened.server, hopened.kept,
          hopened.new, hopened.found, hopened.id, fun row hmem => ?_⟩
        rcases hopened.rows row hmem with hmem | hrow
        · rcases List.mem_append.mp hmem with hmem | hmem
          · exact Or.inl hmem
          · have hsome := hopened.id
            rw [server_create_from_db_tables, hid] at hsome
            rw [List.mem_singleton.mp hmem]
            exact Or.inr (Option.some.inj hsome)
        · exact Or.inr hrow
      · exact Or.inr ⟨_, rfl, rfl, rfl, rfl, rfl, rfl⟩

/-- the server is cached under its uid -/
def Found (v : SrvId) (s : Startup) : Prop := s.server_by_uid (s.server v).m_uid = some v

theorem SameServers.found (h : s.SameServers s') {v : SrvId} (hv : s.Found v) : s'.Found v := by
  unfold Found server_by_uid
  rw [h.by_uid, h.server]
  exact hv

theorem ServerOpened.kept_found {name : Bytes} {x : SrvId} (h : s.ServerOpened name s' x)
    (hs : s.ServersKnown) {v : SrvId} (hv : s.Found v) : s'.Found v := by
  have hfound := h.kept _ _ hv
  rw [← h.server v (hs.uid _ _ hv).1] at hfound
  exact hfound

theorem server_get_or_create_found (h : s.ServersKnown) (name : Bytes) (owner : AccId) {v : SrvId}
    (hv : s.Found v) : (s.server_get_or_create env name owner).2.Found v := by
  rcases server_get_or_create_opened env h name owner with
    ⟨x, s', he, hopened⟩ | ⟨s', he, hsame⟩
  · rw [he]
    exact hopened.kept_found h hv
  · rw [he]
    exact hsame.found hv

variable (env) in
theorem server_get_or_create_ids (name : Bytes) (owner : AccId) :
    ∀ row ∈ (s.server_get_or_create env name owner).2.tables.servers,
      row ∈ s.tables.servers ∨ ∃ n, row.id = env.createUuid n := by
  unfold server_get_or_create
  intro row hrow
  split at hrow
  · exact Or.inl hrow
  · split at hrow
    · dsimp only at hrow
      rw [server_create_from_db_tables] at hrow
      exact Or.inl hrow
    · dsimp only [createUuid] at hrow
      split at hrow
      · dsimp only at hrow
        rw [server_create_from_db_tables] at hrow
        rcases List.mem_append.mp hrow with hold | hnew
        · exact Or.inl hold
        · rw [List.mem_singleton.mp hnew]
          exact Or.inr ⟨s.made, rfl⟩
      · exact Or.inl hrow

end Startup

/-! ## roles and their rows -/

namespace ServerStartup
variable {env : ServerEnv} {s s' : ServerStartup}

/-- the cached roles, and those that servers hold, have rows -/
structure RolesKnown (s : ServerStartup) : Prop where
  servers : s.base.ServersKnown
  cached : ∀ u p, s.role_by_uid u = some p → p < s.nextRole ∧ (s.role p).m_uid = u ∧
    ∃ row ∈ s.allTables.rows.roles, row.id = u ∧ row.name = (s.role p).m_name
  held : ∀ v (u : Uuid) p, (s.m_roles v)[u]? = some p → v < s.base.nextSrv ∧ p < s.nextRole ∧
    (s.role p).m_uid = u ∧ ∃ row ∈ s.allTables.rows.roles, row.id = u ∧
      row.name = (s.role p).m_name ∧ row.server_id = (s.base.server v).m_uid

/-- the server holds a role of the name -/
def HasRole (v : SrvId) (name : Bytes) (s : ServerStartup) : Prop :=
  ∃ (u : Uuid) (p : RoleRef), (s.m_roles v)[u]? = some p ∧ (s.role p).m_name = name

/-- the uuids to come are those of no role and of no permission -/
structure FreshRoles (env : ServerEnv) (s : ServerStartup) : Prop where
  distinct : Function.Injective env.createRoleUuid
  role : ∀ n, s.made ≤ n → env.createRoleUuid n ∉ s.allTables.rows.roles.map RoleRow.id
  permission : ∀ n, s.made ≤ n →
    env.createRoleUuid n ∉ s.allTables.rows.permissions.map PermissionRow.id

/-- the database, the servers and what they hold are as they were -/
structure SameTables (s s' : ServerStartup) : Prop where
  base : s'.base = s.base
  allTables : s'.allTables = s.allTables
  m_accounts : s'.m_accounts = s.m_accounts
  m_roles : s'.m_roles = s.m_roles
  made : s'.made = s.made

theorem RoleTables.eq_of_id {t : Tables} {r : RoleTables t} {row row' : RoleRow} (hrow : row ∈ r.roles)
    (hrow' : row' ∈ r.roles) (h : row.id = row'.id) : row = row' :=
  List.inj_on_of_nodup_map r.role_id hrow hrow' h

/-- `Role::create_from_db` returns the role of the row -/
structure RoleMade (s : ServerStartup) (row : RoleRow) (s' : ServerStartup) (p : RoleRef) : Prop where
  known : s'.RolesKnown
  same : s.SameTables s'
  nextRole : s.nextRole ≤ s'.nextRole
  role : ∀ x < s.nextRole, s'.role x = s.role x
  lt : p < s'.nextRole
  uid : (s'.role p).m_uid = row.id
  name : (s'.role p).m_name = row.name

theorem role_create_from_db_made (h : s.RolesKnown) {row : RoleRow}
    (hrow : row ∈ s.allTables.rows.roles) :
    s.RoleMade row (s.role_create_from_db row).2 (s.role_create_from_db row).1 := by
  unfold role_create_from_db
  cases hcached : s.role_by_uid row.id with
  | some p =>
    obtain ⟨hlt, huid, row', hrow', hid, hname⟩ := h.cached _ _ hcached
    have hsame := RoleTables.eq_of_id hrow' hrow hid
    rw [hsame] at hname
    exact ⟨h, ⟨rfl, rfl, rfl, rfl, rfl⟩, le_rfl, fun _ _ => rfl, hlt, huid, hname.symm⟩
  | none =>
    dsimp only
    have hnew : (if s.nextRole = s.nextRole then
        { m_uid := row.id, m_server_uid := row.server_id, m_name := row.name, m_priority := row.priority }
        else s.role s.nextRole : Role) =
        { m_uid := row.id, m_server_uid := row.server_id, m_name := row.name,
          m_priority := row.priority } := if_pos rfl
    have hold (x : RoleRef) (hx : x < s.nextRole) : (if x = s.nextRole then
        { m_uid := row.id, m_server_uid := row.server_id, m_name := row.name, m_priority := row.priority }
        else s.role x : Role) = s.role x := if_neg (Nat.ne_of_lt hx)
    refine ⟨⟨h.servers, fun u p hp => ?_, fun v u p hp => ?_⟩, ⟨rfl, rfl, rfl, rfl, rfl⟩, Nat.le_succ _,
      hold, Nat.lt_succ_self _, congrArg Role.m_uid hnew, congrArg Role.m_name hnew⟩
    · have hp := (lookup_insert _ _ _ _).symm.trans hp
      split at hp
      · rename_i hu
        rw [← Option.some.inj hp, hu]
        exact ⟨Nat.lt_succ_self _, congrArg Role.m_uid hnew, row, hrow, rfl,
          (congrArg Role.m_name hnew).symm⟩
      · obtain ⟨hlt, huid, row', hrow', hid, hname⟩ := h.cached u p hp
        have hsame := hold p hlt
        exact ⟨Nat.lt_succ_of_lt hlt, (congrArg Role.m_uid hsame).trans huid, row', hrow', hid,
          hname.trans (congrArg Role.m_name hsame).symm⟩
    · obtain ⟨hv, hlt, huid, row', hrow', hid, hname, hserver⟩ := h.held v u p hp
      have hsame := hold p hlt
      exact ⟨hv, Nat.lt_succ_of_lt hlt, (congrArg Role.m_uid hsame).trans huid, row', hrow', hid,
        hname.trans (congrArg Role.m_name hsame).symm, hserver⟩

theorem RoleMade.hasRole {row : RoleRow} {p : RoleRef} (hmade : s.RoleMade row s' p) (h : s.RolesKnown)
    {v : SrvId} {name : Bytes} (hrole : s.HasRole v name) : s'.HasRole v name := by
  obtain ⟨u, q, hq, hname⟩ := hrole
  refine ⟨u, q, ?_, ?_⟩
  · rw [hmade.same.m_roles, hq]
  · rw [hmade.role q (h.held v u q hq).2.1, hname]

theorem add_role_known (h : s.RolesKnown) {v : SrvId} {p : RoleRef} (hv : v < s.base.nextSrv)
    (hp : p < s.nextRole) {row : RoleRow} (hrow : row ∈ s.allTables.rows.roles)
    (hid : (s.role p).m_uid = row.id) (hname : (s.role p).m_name = row.name)
    (hserver : row.server_id = (s.base.server v).m_uid) :
    (s.add_role v p).RolesKnown ∧ (s.add_role v p).HasRole v row.name ∧
      ∀ x name, s.HasRole x name → (s.add_role v p).HasRole x name := by
  have hadd (x : SrvId) (u : Uuid) : ((s.add_role v p).m_roles x)[u]? =
      if x = v ∧ u = row.id then some p else (s.m_roles x)[u]? := by
    show (if x = v then (s.m_roles v).insert (s.role p).m_uid p else s.m_roles x)[u]? = _
    rw [hid]
    by_cases hx : x = v
    · rw [if_pos hx, hx, lookup_insert]
      simp
    · rw [if_neg hx, if_neg fun hxu => hx hxu.1]
  refine ⟨⟨h.servers, h.cached, fun x u q hq => ?_⟩, ⟨row.id, p, ?_, hname⟩, fun x name hrole => ?_⟩
  · rw [hadd] at hq
    split at hq
    · rename_i hxu
      rw [← Option.some.inj hq, hxu.1, hxu.2]
      exact ⟨hv, hp, hid, row, hrow, rfl, hname.symm, hserver⟩
    · exact h.held x u q hq
  · rw [hadd, if_pos ⟨rfl, rfl⟩]
  · obtain ⟨u, q, hq, hq'⟩ := hrole
    by_cases hxu : x = v ∧ u = row.id
    · -- the role that it takes the place of is of the same row
      refine ⟨u, p, by rw [hadd, if_pos hxu], ?_⟩
      obtain ⟨-, -, -, row', hrow', hid', hname', -⟩ := h.held x u q hq
      have hsame := RoleTables.eq_of_id hrow' hrow (hid'.trans hxu.2)
      rw [hsame, hq'] at hname'
      exact hname.trans hname'
    · exact ⟨u, q, by rw [hadd, if_neg hxu, hq], hq'⟩

/-- a role that a server holds is found by its name, and has a row -/
theorem role_by_name_some (h : s.RolesKnown) {v : SrvId} {name : Bytes} (hrole : s.HasRole v name) :
    ∃ p, s.role_by_name v name = some p ∧ ∃ row ∈ s.allTables.rows.roles, row.id = (s.role p).m_uid ∧
      row.name = name ∧ row.server_id = (s.base.server v).m_uid := by
  obtain ⟨u, q, hq, hname⟩ := hrole
  have hsome : (s.role_by_name v name).isSome = true := by
    unfold role_by_name
    rw [List.find?_isSome]
    exact ⟨q, mem_values.mpr ⟨u, hq⟩, beq_iff_eq.mpr hname⟩
  obtain ⟨p, hp⟩ := Option.isSome_iff_exists.mp hsome
  refine ⟨p, hp, ?_⟩
  obtain ⟨u', hp'⟩ := mem_values.mp (List.mem_of_find?_eq_some hp)
  have hfind : ((s.m_roles v).values.find? fun role => (s.role role).m_name == name) = some p := hp
  have hpname : (s.role p).m_name = name := by simpa using List.find?_some hfind
  obtain ⟨-, -, huid, row, hrow, hid, hrowname, hserver⟩ := h.held v u' p hp'
  exact ⟨row, hrow, hid.trans huid.symm, hrowname.trans hpname, hserver⟩

end ServerStartup

end Chatripper
