import Mathlib
import Chatripper.Everyone

/-!
# What the start-up writes

The functions of the start-up only add rows, and the objects that they cache are those of the rows of
their names.

* `preload_server_grows`, `preload_user_grows`, `preload_channel_grows`   rows are added;
* `account_get_or_create_opened`, `server_get_or_create_known`, `channel_get_or_create_opened`   the object
  that is returned has the id of the row, which is made if there is none and uuids are new.
-/

namespace Chatripper
open ByteStr Utf8

/-! ## rows are only added -/

namespace ServerStartup
variable {env : ServerEnv} {s : ServerStartup}

theorem role_create_from_db_allTables (row : RoleRow) :
    (s.role_create_from_db row).2.allTables = s.allTables := by
  unfold role_create_from_db
  split <;> rfl

variable (env) in
theorem permission_get_or_create_grows (roleId : Uuid) (flags : Int) :
    s.allTables.Grows (s.permission_get_or_create env roleId flags).2.allTables := by
  unfold permission_get_or_create
  split
  · rw [(permission_create_from_db_same _).1.allTables]
    exact AllTables.Grows.refl _
  · dsimp only [createUuid]
    split
    · rw [(permission_create_from_db_same _).1.allTables]
      exact { AllTables.Grows.refl s.allTables with permissions := List.prefix_append _ _ }
    · exact AllTables.Grows.refl _

theorem insert_account_role_grows (account_id role_id : Uuid) :
    s.allTables.Grows (s.insert_account_role account_id role_id).allTables := by
  by_cases hfits : s.rows.AdmitsAccountRole ⟨account_id, role_id⟩
  · rw [insert_account_role_admitted hfits]
    exact { AllTables.Grows.refl s.allTables with account_roles := List.prefix_append _ _ }
  · rw [insert_account_role_refused hfits]
    exact AllTables.Grows.refl _

/-- a loop whose rounds add rows -/
theorem foldl_grows {α : Type} {f : ServerStartup → α → ServerStartup}
    (hf : ∀ (s : ServerStartup) x, s.allTables.Grows (f s x).allTables) (l : List α) (s : ServerStartup) :
    s.allTables.Grows (l.foldl f s).allTables := by
  induction l generalizing s with
  | nil => exact AllTables.Grows.refl _
  | cons x l ih => exact (hf s x).trans (ih (f s x))

theorem newRole_grows (v : SrvId) (row : RoleRow) (assign : Bool) (perms : Int) :
    s.allTables.Grows (newRole env v row assign perms s).allTables := by
  unfold newRole
  dsimp only
  have hadded : s.allTables.Grows
      ((s.role_create_from_db row).2.add_role v (s.role_create_from_db row).1).allTables := by
    show s.allTables.Grows (s.role_create_from_db row).2.allTables
    rw [role_create_from_db_allTables]
    exact AllTables.Grows.refl _
  have hperm := hadded.trans (permission_get_or_create_grows env ((add_role v
    (s.role_create_from_db row).1 (s.role_create_from_db row).2).role
      (s.role_create_from_db row).1).m_uid perms)
  by_cases hassign : assign = true
  · rw [if_pos hassign]
    exact hperm.trans (foldl_grows (fun s member => insert_account_role_grows _ _) _ _)
  · rw [if_neg hassign]
    exact hperm

theorem create_role_for_server_grows (v : SrvId) (name : QString) (priority : Int) (assign : Bool)
    (perms : Int) :
    s.allTables.Grows (s.create_role_for_server env v name priority assign perms).2.allTables := by
  by_cases hid : (s.base.server v).m_uid = 0
  · unfold create_role_for_server
    dsimp only
    rw [if_pos hid]
    exact AllTables.Grows.refl _
  · cases hfind : s.rows.roles.find? fun r =>
        r.server_id == (s.base.server v).m_uid && r.name == toUtf8 name with
    | some row =>
      rw [create_role_for_server_found hid hfind]
      show s.allTables.Grows (s.role_create_from_db row).2.allTables
      rw [role_create_from_db_allTables]
      exact AllTables.Grows.refl _
    | none =>
      by_cases hfits : s.rows.AdmitsRole
          ⟨env.createRoleUuid s.made, (s.base.server v).m_uid, toUtf8 name, priority⟩
      · rw [create_role_for_server_new hid hfind hfits]
        refine AllTables.Grows.trans ?_ (newRole_grows _ _ _ _)
        exact { AllTables.Grows.refl s.allTables with roles := List.prefix_append _ _ }
      · have hrefused : (s.create_role_for_server env v name priority assign perms).2 =
            { s with made := s.made + 1 } := by
          unfold create_role_for_server
          dsimp only
          rw [if_neg hid, hfind]
          exact congrArg Prod.snd (dif_neg hfits)
        rw [hrefused]
        exact AllTables.Grows.refl _

theorem assign_role_to_account_grows (accountId : Uuid) (role : RoleRef) :
    s.allTables.Grows (s.assign_role_to_account accountId role).allTables := by
  unfold assign_role_to_account
  split
  · exact AllTables.Grows.refl _
  · exact insert_account_role_grows _ _

/-- the rest of `server_add_member` after the row is inserted -/
theorem server_add_member_inserted {accountId serverId : Uuid} (ha : accountId ≠ 0)
    (hs : serverId ≠ 0) (hfits : s.rows.AdmitsMember ⟨accountId, serverId⟩) :
    AllTables.Grows ⟨s.base.tables, s.rows.addMember _ hfits⟩
      (s.server_add_member accountId serverId).allTables := by
  unfold server_add_member
  rw [if_neg (by tauto), if_neg hfits.1, dif_pos hfits]
  dsimp only
  split
  · exact AllTables.Grows.refl _
  · split
    · -- the server holds no role of everyone
      split <;> exact AllTables.Grows.refl _
    · split
      · exact assign_role_to_account_grows (s := { s with rows := s.rows.addMember _ hfits }) _ _
      · exact assign_role_to_account_grows
          (s := { s with rows := s.rows.addMember _ hfits }.add_account _ _) _ _

theorem server_add_member_grows (accountId serverId : Uuid) :
    s.allTables.Grows (s.server_add_member accountId serverId).allTables := by
  by_cases hskip : accountId = 0 ∨ serverId = 0 ∨ ⟨accountId, serverId⟩ ∈ s.rows.server_members ∨
      ¬ s.rows.AdmitsMember ⟨accountId, serverId⟩
  · rw [server_add_member_skipped hskip]
    exact AllTables.Grows.refl _
  · obtain ⟨ha, hs, hfits⟩ : accountId ≠ 0 ∧ serverId ≠ 0 ∧
        s.rows.AdmitsMember ⟨accountId, serverId⟩ := by tauto
    refine AllTables.Grows.trans ?_ (server_add_member_inserted ha hs hfits)
    exact { AllTables.Grows.refl s.allTables with server_members := List.prefix_append _ _ }

/-- the account is a member of the server, if both have ids -/
def Member (d : AllTables) (accountId serverId : Uuid) : Prop :=
  accountId = 0 ∨ serverId = 0 ∨ ⟨accountId, serverId⟩ ∈ d.rows.server_members

theorem Member.grows {d d' : AllTables} {accountId serverId : Uuid} (h : Member d accountId serverId)
    (hg : d.Grows d') : Member d' accountId serverId :=
  Or.imp_right (Or.imp_right (hg.server_members.subset ·)) h

theorem server_add_member_member {accountId serverId : Uuid}
    (ha : accountId ∈ s.base.tables.accounts.map AccountRow.id)
    (hs : serverId ∈ s.base.tables.servers.map ServerRow.id) :
    Member (s.server_add_member accountId serverId).allTables accountId serverId := by
  by_cases hskip : Member s.allTables accountId serverId
  · exact hskip.grows (server_add_member_grows _ _)
  · obtain ⟨ha0, hs0, hnew⟩ : accountId ≠ 0 ∧ serverId ≠ 0 ∧
        ⟨accountId, serverId⟩ ∉ s.rows.server_members := by
      unfold Member at hskip
      exact ⟨fun h => hskip (Or.inl h), fun h => hskip (Or.inr (Or.inl h)),
        fun h => hskip (Or.inr (Or.inr h))⟩
    have hfits : s.rows.AdmitsMember ⟨accountId, serverId⟩ := ⟨hnew, ha, hs⟩
    exact Or.inr (Or.inr ((server_add_member_inserted ha0 hs0 hfits).server_members.subset
      (List.mem_append_right _ List.mem_cons_self)))

/-- a member is not added again -/
theorem server_add_member_same {accountId serverId : Uuid} (h : Member s.allTables accountId serverId) :
    s.server_add_member accountId serverId = s := by
  refine server_add_member_skipped ?_
  rcases h with h | h | h
  · exact Or.inl h
  · exact Or.inr (Or.inl h)
  · exact Or.inr (Or.inr (Or.inl h))

theorem join_server_grows (v : SrvId) (account : AccId) :
    s.allTables.Grows (s.join_server v account).allTables :=
  server_add_member_grows _ _

theorem load_server_member_allTables (v : SrvId) (row : MemberRow) :
    (s.load_server_member v row).allTables = s.allTables := by
  unfold load_server_member
  split <;> rfl

theorem load_server_members_allTables (v : SrvId) (l : List MemberRow) (s : ServerStartup) :
    (l.foldl (load_server_member v) s).allTables = s.allTables := by
  induction l generalizing s with
  | nil => rfl
  | cons row l ih => rw [List.foldl_cons, ih, load_server_member_allTables]

theorem open_server_grows (v : SrvId) (owner : AccId) :
    s.allTables.Grows (s.open_server env v owner).allTables := by
  unfold open_server
  dsimp only
  rw [load_server_members_allTables]
  exact (create_role_for_server_grows v everyone 0 true 0).trans (server_add_member_grows _ _)

/-- a server that has its role and its owner is opened without a change of the database -/
theorem open_server_same {v : SrvId} (hid : (s.base.server v).m_uid ≠ 0)
    (hrole : RoleOf s.allTables (s.base.server v).m_uid (toUtf8 everyone)) {owner : AccId}
    (hmember : Member s.allTables (s.base.w.acc owner).m_uid (s.base.server v).m_uid) :
    (s.open_server env v owner).allTables = s.allTables := by
  unfold open_server
  dsimp only
  rw [load_server_members_allTables]
  obtain ⟨row, hrow, hserver, hname⟩ := hrole
  obtain ⟨found, hfind⟩ : ∃ found, (s.rows.roles.find? fun r =>
      r.server_id == (s.base.server v).m_uid && r.name == toUtf8 everyone) = some found := by
    refine Option.isSome_iff_exists.mp (List.find?_isSome.mpr ⟨row, hrow, ?_⟩)
    rw [hserver, hname, beq_self_eq_true, beq_self_eq_true]
    rfl
  rw [create_role_for_server_found hid hfind]
  have hall : ((s.role_create_from_db found).2.add_role v (s.role_create_from_db found).1).allTables =
      s.allTables := role_create_from_db_allTables found
  have hbase : ((s.role_create_from_db found).2.add_role v (s.role_create_from_db found).1).base =
      s.base := role_create_from_db_base found
  dsimp only
  rw [hbase, server_add_member_same (by rw [hall]; exact hmember)]
  exact hall

theorem advance_grows {base : Startup} (hg : s.base.tables.Grows base.tables) :
    s.allTables.Grows (s.advance base hg).allTables :=
  { AllTables.Grows.refl s.allTables with tables := hg }

theorem advance_same {base : Startup} (hg : s.base.tables.Grows base.tables)
    (h : base.tables = s.base.tables) : (s.advance base hg).allTables = s.allTables := by
  have hrows (t : Tables) (ht : t = s.base.tables) (hg : s.base.tables.Grows t) :
      (⟨t, s.rows.grow hg⟩ : AllTables) = ⟨s.base.tables, s.rows⟩ := by
    subst ht
    rfl
  exact hrows base.tables h hg

variable (env) in
theorem server_get_or_create_grows (name : Bytes) (owner : AccId) :
    s.allTables.Grows (s.server_get_or_create env name owner).2.allTables := by
  unfold server_get_or_create
  split
  · exact AllTables.Grows.refl _
  · unfold open_found
    dsimp only
    split
    · exact advance_grows _
    · exact (advance_grows _).trans (open_server_grows _ _)

theorem preload_server_grows (adminAccount : AccId) (p : Loading) (name : QString) :
    p.s.allTables.Grows (preload_server env adminAccount p name).s.allTables := by
  have hgrows := server_get_or_create_grows env (s := p.s) (toUtf8 name) adminAccount
  unfold preload_server
  dsimp only
  generalize p.s.server_get_or_create env (toUtf8 name) adminAccount = r at hgrows
  obtain ⟨v?, s'⟩ := r
  cases v? with
  | none => exact hgrows
  | some v => exact hgrows.trans (join_server_grows _ _)

theorem preload_user_grows (p : Loading) (user : PreloadUser) :
    p.s.allTables.Grows (preload_user env p user).s.allTables := by
  have hgrows : p.s.allTables.Grows
      (p.s.account_get_or_create env (toUtf8 user.name) (toUtf8 user.password)).2.allTables :=
    advance_grows _
  unfold preload_user
  dsimp only
  generalize p.s.account_get_or_create env (toUtf8 user.name) (toUtf8 user.password) = r at hgrows
  obtain ⟨a?, s'⟩ := r
  cases a? with
  | none => exact hgrows
  | some account =>
    dsimp only
    cases p.serversByName[user.server]? with
    | none => exact hgrows
    | some server => exact hgrows.trans (join_server_grows _ _)

theorem preload_member_grows (accountsByName : QMap QString AccId) (server : Option SrvId)
    (channel : ChanId) (s : ServerStartup) (mname : QString) :
    s.allTables.Grows (s.preload_member accountsByName server channel mname).allTables := by
  unfold preload_member
  cases accountsByName[mname]? with
  | none => exact AllTables.Grows.refl _
  | some member => cases server <;> exact advance_grows (Startup.channel_add_member_grows _ _)

variable (env) in
theorem preload_channel_grows (p : Loading) (channel : Startup.PreloadChannel) :
    p.s.allTables.Grows (preload_channel env p channel).s.allTables := by
  unfold preload_channel
  dsimp only
  generalize p.accountsByName[channel.owner]? = owner
  generalize p.serversByName[channel.server]? = server
  have hgrows : p.s.allTables.Grows (p.s.channel_get_or_create env (toUtf8 channel.name)
      (toUtf8 channel.topic) owner server).2.allTables := advance_grows _
  generalize p.s.channel_get_or_create env (toUtf8 channel.name) (toUtf8 channel.topic) owner server = r
    at hgrows
  obtain ⟨ch?, s'⟩ := r
  cases ch? with
  | none => exact hgrows
  | some ch =>
    refine hgrows.trans (AllTables.Grows.trans ?_ (foldl_grows (preload_member_grows _ _ _) _ _))
    cases server <;> exact AllTables.Grows.refl _

end ServerStartup

/-! ## rows and objects -/

namespace Tables
variable {t t' : Tables}

/-- the row of the name, which is unique -/
def accountId (t : Tables) (username : Bytes) : Option Uuid :=
  (t.accounts.find? fun r => r.username == username).map AccountRow.id

/-- the row that `SELECT … FROM channels WHERE name = ?` returns first -/
def channelId (t : Tables) (name : Bytes) : Option Uuid :=
  (t.channels.find? fun r => r.name == name).map ChannelRow.id

theorem Grows.accountId (h : t.Grows t') {n : Bytes} {id : Uuid} (hid : t.accountId n = some id) :
    t'.accountId n = some id := by
  obtain ⟨row, hrow, rfl⟩ := Option.map_eq_some_iff.mp hid
  exact Option.map_eq_some_iff.mpr ⟨row, h.accounts.find?_eq_some hrow, rfl⟩

theorem Grows.channelId (h : t.Grows t') {n : Bytes} {id : Uuid} (hid : t.channelId n = some id) :
    t'.channelId n = some id := by
  obtain ⟨row, hrow, rfl⟩ := Option.map_eq_some_iff.mp hid
  exact Option.map_eq_some_iff.mpr ⟨row, h.channels.find?_eq_some hrow, rfl⟩

theorem mem_of_accountId {n : Bytes} {id : Uuid} (h : t.accountId n = some id) :
    id ∈ t.accounts.map AccountRow.id := by
  obtain ⟨row, hrow, rfl⟩ := Option.map_eq_some_iff.mp h
  exact List.mem_map_of_mem (List.mem_of_find?_eq_some hrow)

theorem mem_of_channelId {n : Bytes} {id : Uuid} (h : t.channelId n = some id) :
    id ∈ t.channels.map ChannelRow.id := by
  obtain ⟨row, hrow, rfl⟩ := Option.map_eq_some_iff.mp h
  exact List.mem_map_of_mem (List.mem_of_find?_eq_some hrow)

end Tables

namespace Startup
variable {env : StartupEnv} {s s' s'' : Startup}

/-- the cached objects are those of the rows of their names -/
structure ObjectsKnown (s : Startup) : Prop where
  servers : s.ServersKnown
  cached : s.w.Cached
  account : ∀ n u, s.w.nameUid n = some u → s.tables.accountId n = some u
  channel : ∀ (n : Bytes) c, s.w.ctx.channels[n]? = some c →
    c < s.w.nextChan ∧ s.tables.channelId n = some (s.w.chan c).uid

theorem objectsKnown_ofTables (tables : Tables) : (ofTables tables).ObjectsKnown := by
  refine ⟨⟨fun _ _ hx => ?_, fun _ _ hx => ?_⟩, ⟨fun _ _ hx => ?_, fun _ _ hx => ?_⟩, fun _ _ hx => ?_,
    fun _ _ hx => ?_⟩
  all_goals cases hx

/-- the uuids to come are those of no row -/
structure FreshRows (env : StartupEnv) (s : Startup) : Prop where
  distinct : Function.Injective env.createUuid
  account : ∀ n, s.made ≤ n → env.createUuid n ∉ s.tables.accounts.map AccountRow.id
  server : ∀ n, s.made ≤ n → env.createUuid n ∉ s.tables.servers.map ServerRow.id
  channel : ∀ n, s.made ≤ n → env.createUuid n ∉ s.tables.channels.map ChannelRow.id

/-- objects were made, and those that were there keep their uids -/
structure Later (s s' : Startup) : Prop where
  tables : s.tables.Grows s'.tables
  nextAcc : s.w.nextAcc ≤ s'.w.nextAcc
  acc : ∀ a < s.w.nextAcc, (s'.w.acc a).m_uid = (s.w.acc a).m_uid
  found : s.ServersKnown → ∀ v, s.Found v → s'.Found v ∧ (s'.server v).m_uid = (s.server v).m_uid

theorem Later.refl (s : Startup) : s.Later s :=
  ⟨Tables.Grows.refl _, le_rfl, fun _ _ => rfl, fun _ _ hv => ⟨hv, rfl⟩⟩

theorem ObjectsKnown.grow (h : s.ObjectsKnown) {t : Tables} (hg : s.tables.Grows t) (m : Nat) :
    ObjectsKnown { s with tables := t, made := m } where
  servers := by
    refine ⟨fun u v hv => ?_, fun n v hv => ?_⟩
    · obtain ⟨hlt, huid, hmem⟩ := h.servers.uid u v hv
      exact ⟨hlt, huid, (hg.servers.map _).subset hmem⟩
    · exact ⟨(h.servers.name n v hv).1, hg.serverId (h.servers.name n v hv).2⟩
  cached := h.cached
  account n u hu := hg.accountId (h.account n u hu)
  channel n c hc := ⟨(h.channel n c hc).1, hg.channelId (h.channel n c hc).2⟩

/-- an account that is made for the row of its name -/
theorem account_made_known (h : s.ObjectsKnown) {id : Uuid} {username : Bytes}
    (hid : s.tables.accountId username = some id) (hnew : s.w.nameUid username = none)
    (password : Bytes) :
    ∃ a w', Account.create_from_db id username password s.w = (a, w') ∧
      ObjectsKnown { s with w := w' } ∧ s.Later { s with w := w' } ∧ a < w'.nextAcc ∧
      (w'.acc a).m_uid = id := by
  obtain ⟨a, w', he, hmore, hcached, hlt, huid, hnames⟩ :=
    Account.create_from_db_spec id username password h.cached
  rw [hnew] at huid hnames
  refine ⟨a, w', he, ⟨⟨h.servers.uid, h.servers.name⟩, hcached, fun n u hu => ?_, fun n c hc => ?_⟩,
    ⟨Tables.Grows.refl _, hmore.nextAcc, hmore.uid, fun _ _ hv => ⟨hv, rfl⟩⟩, hlt, huid⟩
  · rw [hnames] at hu
    split at hu
    · rename_i hn
      rw [hn.1, ← Option.some.inj hu]
      exact hid
    · exact h.account n u hu
  · rw [hmore.channels] at hc
    show c < w'.nextChan ∧ s.tables.channelId n = some (w'.chan c).uid
    rw [hmore.nextChan, hmore.chan]
    exact h.channel n c hc

theorem nameUid_of_uncached {username : Bytes}
    (h : s.w.ctx.accounts_lookup_name[username]? = none) : s.w.nameUid username = none := by
  show (s.w.ctx.accounts_lookup_name[username]?).map _ = none
  rw [h]
  rfl

/-- `account_get_or_create` returns the account of the row of the name -/
structure AccountOpened (env : StartupEnv) (s : Startup) (username : Bytes) (s' : Startup)
    (a? : Option AccId) : Prop where
  known : s'.ObjectsKnown
  later : s.Later s'
  account : ∀ a, a? = some a → a < s'.w.nextAcc ∧ s'.tables.accountId username = some (s'.w.acc a).m_uid
  same : (s.tables.accountId username).isSome = true → a?.isSome = true ∧ s'.tables = s.tables
  fresh : s.FreshRows env → s'.FreshRows env ∧ a?.isSome = true

theorem accountId_none {username : Bytes}
    (hrow : s.tables.accounts.find? (fun r => r.username == username) = none) :
    s.tables.accountId username = none := by
  unfold Tables.accountId
  rw [hrow]
  rfl

theorem accountId_addAccount {row : AccountRow}
    (hrow : s.tables.accounts.find? (fun r => r.username == row.username) = none)
    (hfits : s.tables.AdmitsAccount row) :
    (s.tables.addAccount row hfits).accountId row.username = some row.id := by
  unfold Tables.accountId Tables.addAccount
  rw [List.find?_append, hrow]
  simp

/-- a name that no row has is free for a row with a new uuid -/
theorem FreshRows.admitsAccount (hf : s.FreshRows env) {username : Bytes}
    (hrow : s.tables.accounts.find? (fun r => r.username == username) = none) (password : Bytes) :
    s.tables.AdmitsAccount ⟨env.createUuid s.made, username, password⟩ := by
  refine ⟨hf.account s.made le_rfl, fun hused => ?_⟩
  obtain ⟨row, hmem, hname⟩ := List.mem_map.mp hused
  have hnone := List.find?_eq_none.mp hrow row hmem
  simp [hname] at hnone

variable (env) in
theorem account_get_or_create_opened (h : s.ObjectsKnown) {username : Bytes}
    (hplain : toUtf8 (fromUtf8 username) = username) (password : Bytes) :
    s.AccountOpened env username (s.account_get_or_create env username password).2
      (s.account_get_or_create env username password).1 := by
  unfold account_get_or_create
  cases hcached : s.w.ctx.accounts_lookup_name[username]? with
  | some a =>
    have huid : s.w.nameUid username = some (s.w.acc a).m_uid := by
      show (s.w.ctx.accounts_lookup_name[username]?).map _ = _
      rw [hcached]
      rfl
    refine ⟨h, Later.refl s, fun x hx => ?_, fun _ => ⟨rfl, rfl⟩, fun hf => ⟨hf, rfl⟩⟩
    rw [← Option.some.inj hx]
    exact ⟨h.cached.name username a hcached, h.account username _ huid⟩
  | none =>
    have hnew := nameUid_of_uncached hcached
    rw [hplain]
    cases hrow : s.tables.accounts.find? fun r => r.username == username with
    | some row =>
      have hname : row.username = username := by simpa using List.find?_some hrow
      have hid : s.tables.accountId username = some row.id :=
        Option.map_eq_some_iff.mpr ⟨row, hrow, rfl⟩
      obtain ⟨a, w', he, hknown, hlater, hlt, huid⟩ := account_made_known h hid hnew row.password
      have hof : s.account_of_row row = (a, { s with w := w' }) := by
        unfold account_of_row
        rw [hname, he]
      dsimp only
      rw [hof]
      refine ⟨hknown, hlater, fun x hx => ?_, fun _ => ⟨rfl, rfl⟩, fun hf => ⟨?_, rfl⟩⟩
      · rw [← Option.some.inj hx]
        exact ⟨hlt, hid.trans (congrArg some huid.symm)⟩
      · exact ⟨hf.distinct, hf.account, hf.server, hf.channel⟩
    | none =>
      dsimp only [createUuid]
      by_cases hfits : s.tables.AdmitsAccount
          ⟨env.createUuid s.made, username, env.hashPasswordBcrypt password⟩
      · have hid : (s.tables.addAccount _ hfits).accountId username = some (env.createUuid s.made) :=
          accountId_addAccount hrow hfits
        have hgrown := h.grow (Tables.grows_addAccount _ hfits) (s.made + 1)
        obtain ⟨a, w', he, hknown, hlater, hlt, huid⟩ := account_made_known hgrown hid hnew
          (env.hashPasswordBcrypt password)
        rw [dif_pos hfits]
        dsimp only
        rw [he]
        refine ⟨hknown, ⟨Tables.grows_addAccount _ hfits, hlater.nextAcc, hlater.acc,
          fun _ _ hv => ⟨hv, rfl⟩⟩, fun x hx => ?_,
          fun hsome => ?_, fun hf => ⟨?_, rfl⟩⟩
        · rw [← Option.some.inj hx]
          exact ⟨hlt, hid.trans (congrArg some huid.symm)⟩
        · rw [accountId_none hrow] at hsome
          cases hsome
        · exact ⟨hf.distinct, unused_concat hf.distinct hf.account rfl,
            fun n hn => hf.server n (Nat.le_of_succ_le hn), fun n hn => hf.channel n (Nat.le_of_succ_le hn)⟩
      · rw [dif_neg hfits]
        refine ⟨h.grow (Tables.Grows.refl _) _, ⟨Tables.Grows.refl _, le_rfl, fun _ _ => rfl,
          fun _ _ hv => ⟨hv, rfl⟩⟩, fun x hx => ?_, fun hsome => ?_, fun hf => ?_⟩
        · cases hx
        · rw [accountId_none hrow] at hsome
          cases hsome
        · exact absurd (hf.admitsAccount hrow _) hfits

theorem server_create_from_db_rest (id : Uuid) (name : Bytes) (owner : Option AccId) :
    (s.server_create_from_db id name owner).2.w = s.w ∧
      (s.server_create_from_db id name owner).2.tables = s.tables ∧
      (s.server_create_from_db id name owner).2.made = s.made := by
  unfold server_create_from_db
  split <;> exact ⟨rfl, rfl, rfl⟩

variable (env) in
/-- what `server_get_or_create` does beside servers -/
theorem server_get_or_create_rest (name : Bytes) (owner : AccId) :
    (s.server_get_or_create env name owner).2.w = s.w ∧
      (s.server_get_or_create env name owner).2.tables.accounts = s.tables.accounts ∧
      (s.server_get_or_create env name owner).2.tables.channels = s.tables.channels := by
  unfold server_get_or_create
  split
  · exact ⟨rfl, rfl, rfl⟩
  · split
    · dsimp only
      obtain ⟨hw, ht, -⟩ := server_create_from_db_rest (s := s) ‹ServerRow›.id ‹ServerRow›.name
        (Account.get_by_uid s.w ‹ServerRow›.account_owner_id)
      rw [hw, ht]
      exact ⟨rfl, rfl, rfl⟩
    · dsimp only [createUuid]
      split
      · rename_i hfits
        obtain ⟨hw, ht, -⟩ := server_create_from_db_rest
          (s := { s with made := s.made + 1, tables := s.tables.addServer _ hfits })
          (env.createUuid s.made) name (some owner)
        dsimp only
        rw [hw, ht]
        exact ⟨rfl, rfl, rfl⟩
      · exact ⟨rfl, rfl, rfl⟩

variable (env) in
/-- a server whose row is there is returned, and nothing is written -/
theorem server_get_or_create_same {name : Bytes} (h : (s.tables.serverId name).isSome = true)
    (owner : AccId) :
    (s.server_get_or_create env name owner).1.isSome = true ∧
      (s.server_get_or_create env name owner).2.tables = s.tables := by
  obtain ⟨id, hid⟩ := Option.isSome_iff_exists.mp h
  obtain ⟨row, hrow, -⟩ := Option.map_eq_some_iff.mp hid
  unfold server_get_or_create
  rw [hrow]
  split
  · exact ⟨rfl, rfl⟩
  · exact ⟨rfl, (server_create_from_db_rest _ _ _).2.1⟩

/-- a new server is made, and the uuids to come are still new -/
theorem server_get_or_create_fresh (hf : s.FreshRows env) (name : Bytes) {owner : AccId}
    (howner : (s.w.acc owner).m_uid ∈ s.tables.accounts.map AccountRow.id) :
    (s.server_get_or_create env name owner).1.isSome = true ∧
      (s.server_get_or_create env name owner).2.FreshRows env := by
  unfold server_get_or_create
  split
  · exact ⟨rfl, hf⟩
  · split
    · dsimp only
      obtain ⟨-, ht, hm⟩ := server_create_from_db_rest (s := s) ‹ServerRow›.id ‹ServerRow›.name
        (Account.get_by_uid s.w ‹ServerRow›.account_owner_id)
      refine ⟨rfl, hf.distinct, ?_, ?_, ?_⟩ <;> rw [ht, hm]
      exacts [hf.account, hf.server, hf.channel]
    · dsimp only [createUuid]
      have hfits : s.tables.AdmitsServer ⟨env.createUuid s.made, name, (s.w.acc owner).m_uid⟩ :=
        ⟨hf.server s.made le_rfl, howner⟩
      rw [dif_pos hfits]
      obtain ⟨-, ht, hm⟩ := server_create_from_db_rest
        (s := { s with made := s.made + 1, tables := s.tables.addServer _ hfits })
        (env.createUuid s.made) name (some owner)
      dsimp only
      refine ⟨rfl, hf.distinct, ?_, ?_, ?_⟩ <;> rw [ht, hm]
      · exact fun n hn => hf.account n (Nat.le_of_succ_le hn)
      · exact unused_concat hf.distinct hf.server rfl
      · exact fun n hn => hf.channel n (Nat.le_of_succ_le hn)

variable (env) in
theorem server_get_or_create_known (h : s.ObjectsKnown) (name : Bytes) (owner : AccId) :
    (s.server_get_or_create env name owner).2.ObjectsKnown ∧
      s.Later (s.server_get_or_create env name owner).2 ∧
      ∀ v, (s.server_get_or_create env name owner).1 = some v →
        (s.server_get_or_create env name owner).2.Found v ∧
        (s.server_get_or_create env name owner).2.tables.serverId name =
          some ((s.server_get_or_create env name owner).2.server v).m_uid := by
  have hgrows := server_get_or_create_grows env (s := s) name owner
  obtain ⟨hw, haccounts, hchannels⟩ := server_get_or_create_rest env (s := s) name owner
  have hcase := server_get_or_create_opened env h.servers name owner
  generalize s.server_get_or_create env name owner = r at hgrows hw haccounts hchannels hcase ⊢
  obtain ⟨v?, s'⟩ := r
  dsimp only at hgrows hw haccounts hchannels ⊢
  have hobjects (hs : s'.ServersKnown) : s'.ObjectsKnown := by
    refine ⟨hs, by rw [hw]; exact h.cached, fun n u hu => ?_, fun n c hc => ?_⟩
    · rw [hw] at hu
      exact hgrows.accountId (h.account n u hu)
    · rw [hw] at hc ⊢
      exact ⟨(h.channel n c hc).1, hgrows.channelId (h.channel n c hc).2⟩
  have hlater (hfound : ∀ v, s.Found v → s'.Found v ∧ (s'.server v).m_uid = (s.server v).m_uid) :
      s.Later s' := by
    refine ⟨hgrows, by rw [hw], fun a _ => by rw [hw], fun _ => hfound⟩
  rcases hcase with ⟨v, s1, he, hopened⟩ | ⟨s1, he, hsame⟩
  · cases he
    refine ⟨hobjects hopened.known, hlater fun x hx => ⟨hopened.kept_found h.servers hx, ?_⟩,
      fun x hx => ?_⟩
    · rw [hopened.server x (h.servers.uid _ _ hx).1]
    · rw [← Option.some.inj hx]
      exact ⟨hopened.found, hopened.id⟩
  · cases he
    refine ⟨hobjects (hsame.known h.servers), hlater fun x hx => ⟨hsame.found hx, ?_⟩, fun x hx => ?_⟩
    · rw [hsame.server]
    · cases hx

/-- a channel that is made for the row of its name -/
theorem channel_made_known (h : s.ObjectsKnown) {id : Uuid} {name : Bytes}
    (hid : s.tables.channelId name = some id) (hnew : s.w.ctx.channels[name]? = none) (topic : Bytes)
    (owner : Option AccId) (server : Option SrvId) :
    ∃ c s', s.channel_create_from_db id name topic owner server = (c, s') ∧ s'.ObjectsKnown ∧
      s.Later s' ∧ s'.tables = s.tables ∧ s'.made = s.made ∧ c < s'.w.nextChan ∧
      (s'.w.chan c).uid = id := by
  unfold channel_create_from_db
  rw [hnew]
  have hobj : (if s.w.nextChan = s.w.nextChan then { uid := id, m_name := name, m_topic := topic }
      else s.w.chan s.w.nextChan : Channel).uid = id := by rw [if_pos rfl]
  refine ⟨_, _, rfl, ⟨⟨h.servers.uid, h.servers.name⟩, ⟨h.cached.name, h.cached.uid⟩, h.account,
    fun n c hc => ?_⟩, ⟨Tables.Grows.refl _, le_rfl, fun _ _ => rfl, fun _ _ hv => ⟨hv, rfl⟩⟩, rfl, rfl,
    Nat.lt_succ_self _, hobj⟩
  have hc := (lookup_insert _ _ _ _).symm.trans hc
  split at hc
  · rename_i hn
    rw [← Option.some.inj hc, hn]
    exact ⟨Nat.lt_succ_self _, hid.trans (congrArg some hobj.symm)⟩
  · obtain ⟨hlt, hcid⟩ := h.channel n c hc
    refine ⟨Nat.lt_succ_of_lt hlt, hcid.trans (congrArg some ?_)⟩
    exact (congrArg Channel.uid (if_neg (Nat.ne_of_lt hlt))).symm

/-- `channel_get_or_create` returns the channel of the row of the name -/
structure ChannelOpened (env : StartupEnv) (s : Startup) (name : Bytes) (server : Option SrvId)
    (s' : Startup) (c? : Option ChanId) : Prop where
  known : s'.ObjectsKnown
  later : s.Later s'
  channel : ∀ c, c? = some c → s'.tables.channelId name = some (s'.w.chan c).uid
  same : (s.tables.channelId name).isSome = true → c?.isSome = true ∧ s'.tables = s.tables
  unmade : s.tables.channelId name = none → server = none → c? = none ∧ s'.tables = s.tables
  fresh : s.FreshRows env → s'.FreshRows env ∧ (server.isSome = true → c?.isSome = true)

theorem channelId_none {name : Bytes}
    (hrow : s.tables.channels.find? (fun r => r.name == name) = none) :
    s.tables.channelId name = none := by
  unfold Tables.channelId
  rw [hrow]
  rfl

theorem channelId_addChannel {row : ChannelRow}
    (hrow : s.tables.channels.find? (fun r => r.name == row.name) = none)
    (hfits : s.tables.AdmitsChannel row) :
    (s.tables.addChannel row hfits).channelId row.name = some row.id := by
  unfold Tables.channelId Tables.addChannel
  rw [List.find?_append, hrow]
  simp

/-- a name that no row has is free for a row with a new uuid, if its server and its owner have rows -/
theorem FreshRows.admitsChannel (hf : s.FreshRows env) {name : Bytes}
    (hrow : s.tables.channels.find? (fun r => r.name == name) = none) {server_id : Uuid}
    (hserver : server_id ∈ s.tables.servers.map ServerRow.id) {owner_id : Option Uuid}
    (howner : ∀ id, owner_id = some id → id ∈ s.tables.accounts.map AccountRow.id) (topic : Option Bytes) :
    s.tables.AdmitsChannel ⟨env.createUuid s.made, server_id, name, topic, owner_id⟩ := by
  refine ⟨hf.channel s.made le_rfl, fun hused => ?_, hserver, howner⟩
  obtain ⟨row, hmem, heq⟩ := List.mem_map.mp hused
  have hnone := List.find?_eq_none.mp hrow row hmem
  simp only [Prod.mk.injEq] at heq
  simp [heq.2] at hnone

theorem channel_get_or_create_opened (h : s.ObjectsKnown) (name topic : Bytes) {owner : Option AccId}
    (howner : ∀ a ∈ owner, (s.w.acc a).m_uid ∈ s.tables.accounts.map AccountRow.id)
    {server : Option SrvId}
    (hserver : ∀ v ∈ server, (s.server v).m_uid ∈ s.tables.servers.map ServerRow.id) :
    s.ChannelOpened env name server (s.channel_get_or_create env name topic owner server).2
      (s.channel_get_or_create env name topic owner server).1 := by
  unfold channel_get_or_create
  cases hcached : s.w.ctx.channels[name]? with
  | some c =>
    have hid := (h.channel name c hcached).2
    refine ⟨h, Later.refl s, fun x hx => ?_, fun _ => ⟨rfl, rfl⟩, fun hnone => ?_, fun hf => ⟨hf, fun _ => rfl⟩⟩
    · rw [← Option.some.inj hx]
      exact hid
    · rw [hid] at hnone
      cases hnone
  | none =>
    cases hrow : s.tables.channels.find? fun r => r.name == name with
    | some row =>
      have hname : row.name = name := by simpa using List.find?_some hrow
      have hid : s.tables.channelId name = some row.id :=
        Option.map_eq_some_iff.mpr ⟨row, hrow, rfl⟩
      obtain ⟨c, s', he, hknown, hlater, ht, hm, hlt, huid⟩ := channel_made_known h hid hcached
        (row.topic.getD []) (s.accountOf (row.account_owner_id.getD 0)) (s.serverOf row.server_id)
      have hof : s.channel_of_row row = (c, s') := by
        unfold channel_of_row
        rw [hname, he]
      dsimp only
      rw [hof]
      refine ⟨hknown, hlater, fun x hx => ?_, fun _ => ⟨rfl, ht⟩, fun hnone => ?_,
        fun hf => ⟨?_, fun _ => rfl⟩⟩
      · rw [← Option.some.inj hx, ht, huid]
        exact hid
      · rw [hid] at hnone
        cases hnone
      · refine ⟨hf.distinct, ?_, ?_, ?_⟩ <;> rw [ht, hm]
        exacts [hf.account, hf.server, hf.channel]
    | none =>
      have habsent : s.tables.channelId name = none := channelId_none hrow
      cases server with
      | none =>
        refine ⟨h, Later.refl s, fun x hx => ?_, fun hsome => ?_, fun _ _ => ⟨rfl, rfl⟩,
          fun hf => ⟨hf, fun hsome => ?_⟩⟩
        · cases hx
        · rw [habsent] at hsome
          cases hsome
        · cases hsome
      | some v =>
        dsimp only [createUuid]
        by_cases hfits : s.tables.AdmitsChannel
            { id := env.createUuid s.made, server_id := (s.server v).m_uid, name, topic := some topic
              account_owner_id := owner.map fun a => (s.w.acc a).m_uid }
        · have hid : (s.tables.addChannel _ hfits).channelId name = some (env.createUuid s.made) :=
            channelId_addChannel hrow hfits
          have hgrown := h.grow (Tables.grows_addChannel _ hfits) (s.made + 1)
          obtain ⟨c, s', he, hknown, hlater, ht, hm, hlt, huid⟩ := channel_made_known hgrown hid hcached
            topic owner (some v)
          rw [dif_pos hfits]
          dsimp only
          rw [he]
          refine ⟨hknown, ⟨(Tables.grows_addChannel _ hfits).trans hlater.tables, hlater.nextAcc,
            hlater.acc, fun hs x hx => hlater.found hgrown.servers x hx⟩, fun x hx => ?_, fun hsome => ?_,
            fun _ hnone => ?_, fun hf => ⟨?_, fun _ => rfl⟩⟩
          · rw [← Option.some.inj hx, ht, huid]
            exact hid
          · rw [habsent] at hsome
            cases hsome
          · cases hnone
          · refine ⟨hf.distinct, ?_, ?_, ?_⟩ <;> rw [ht, hm]
            · exact fun n hn => hf.account n (Nat.le_of_succ_le hn)
            · exact fun n hn => hf.server n (Nat.le_of_succ_le hn)
            · exact unused_concat hf.distinct hf.channel rfl
        · rw [dif_neg hfits]
          refine ⟨h.grow (Tables.Grows.refl _) _, ⟨Tables.Grows.refl _, le_rfl, fun _ _ => rfl,
            fun _ _ hv => ⟨hv, rfl⟩⟩, fun x hx => ?_, fun hsome => ?_, fun _ hnone => ?_, fun hf => ?_⟩
          · cases hx
          · rw [habsent] at hsome
            cases hsome
          · cases hnone
          · refine absurd (hf.admitsChannel hrow (hserver v rfl) (fun id hid => ?_) _) hfits
            obtain ⟨a, ha, rfl⟩ := Option.map_eq_some_iff.mp hid
            exact howner a ha

/-- the account is joined to the channel after `channel_add_member` -/
theorem channel_add_member_joined {account_id channel_id : Uuid}
    (ha : account_id ∈ s.tables.accounts.map AccountRow.id)
    (hc : channel_id ∈ s.tables.channels.map ChannelRow.id) :
    ⟨account_id, channel_id⟩ ∈ (s.channel_add_member account_id channel_id).tables.account_channels := by
  unfold channel_add_member
  by_cases hfits : s.tables.AdmitsJoin ⟨account_id, channel_id⟩
  · rw [dif_pos hfits]
    exact List.mem_append_right _ List.mem_cons_self
  · rw [dif_neg hfits]
    by_contra hnew
    exact hfits ⟨hnew, ha, hc⟩

theorem channel_add_member_same {account_id channel_id : Uuid}
    (h : ⟨account_id, channel_id⟩ ∈ s.tables.account_channels) :
    s.channel_add_member account_id channel_id = s :=
  dif_neg fun hfits => hfits.1 h

end Startup

end Chatripper
