import Mathlib
import Chatripper.Seeding

/-!
# What the preload file asks for

A file asks for rows: its servers, each with the administrator in it, its users, each in the server that
the file names, and its channels with their members.  The function that comes to an entry makes the rows,
or finds them and changes nothing.

* `ServerAsked`, `UserAsked`, `ChannelAsked`, `ChannelJoined`            the rows of an entry;
* `preload_server_made`, `preload_user_made`, `preload_channel_joined`   the functions make them;
* `preload_server_same`, `preload_user_same`, `preload_channel_same`     where they are, nothing changes.
-/

namespace Chatripper
open ByteStr Utf8

/-! ## what a file asks for -/

namespace ServerStartup
variable {env : ServerEnv} {s : ServerStartup} {file : Preload}

/-- the name of an account that members of channels can refer to -/
def Preload.HasUser (file : Preload) (n : QString) : Prop :=
  n = "admin".toList ∨ ∃ user ∈ file.users, user.name = n

/-- no name of a server or user starts with a byte-order mark, which reading it back would drop -/
structure Preload.Unmarked (file : Preload) : Prop where
  server : ∀ name ∈ file.servers, name.head? ≠ some bom
  user : ∀ user ∈ file.users, user.name.head? ≠ some bom

/-- the row of a server, with the administrator in it -/
def ServerAsked (name : QString) (d : AllTables) : Prop :=
  ∃ id a, d.tables.serverId (toUtf8 name) = some id ∧
    d.tables.accountId (ascii "admin") = some a ∧ Member d a id

/-- the row of a user, in the server that the file names -/
def UserAsked (file : Preload) (user : PreloadUser) (d : AllTables) : Prop :=
  ∃ a, d.tables.accountId (toUtf8 user.name) = some a ∧ (user.server ∈ file.servers →
    ∃ id, d.tables.serverId (toUtf8 user.server) = some id ∧ Member d a id)

/-- the row of a channel in a server of the file -/
def ChannelAsked (file : Preload) (c : Startup.PreloadChannel) (d : AllTables) : Prop :=
  c.server ∈ file.servers → ∃ id, d.tables.channelId (toUtf8 c.name) = some id

/-- the members of a channel that is there -/
def ChannelJoined (file : Preload) (c : Startup.PreloadChannel) (d : AllTables) : Prop :=
  ∀ id, d.tables.channelId (toUtf8 c.name) = some id → ∀ m ∈ c.members, file.HasUser m →
    ∃ a, d.tables.accountId (toUtf8 m) = some a ∧ ⟨a, id⟩ ∈ d.tables.account_channels

/-- accounts, servers, their members and channels -/
structure Asked (file : Preload) (d : AllTables) : Prop where
  admin : ∃ id, d.tables.accountId (ascii "admin") = some id
  server : ∀ name ∈ file.servers, ServerAsked name d
  user : ∀ user ∈ file.users, UserAsked file user d
  channel : ∀ c ∈ file.channels, ChannelAsked file c d

def Joins (file : Preload) (d : AllTables) : Prop := ∀ c ∈ file.channels, ChannelJoined file c d

/-- every server has an id and the role of everyone -/
def Served (d : AllTables) : Prop :=
  ∀ row ∈ d.tables.servers, row.id ≠ 0 ∧ RoleOf d row.id (toUtf8 everyone)

/-- the local variables of `preload_from_file` agree with the database -/
structure Loading.Sound (file : Preload) (p : Loading) : Prop where
  known : p.s.base.ObjectsKnown
  server : ∀ (n : QString) v, p.serversByName[n]? = some v → n ∈ file.servers ∧ p.s.base.Found v ∧
    p.s.base.tables.serverId (toUtf8 n) = some (p.s.base.server v).m_uid
  account : ∀ (n : QString) a, p.accountsByName[n]? = some a → file.HasUser n ∧ a < p.s.base.w.nextAcc ∧
    p.s.base.tables.accountId (toUtf8 n) = some (p.s.base.w.acc a).m_uid

/-- the account of the administrator -/
def IsAdmin (a : AccId) (s : Startup) : Prop :=
  a < s.w.nextAcc ∧ s.tables.accountId (ascii "admin") = some (s.w.acc a).m_uid

/-- the maps agree with the database also after more was made -/
theorem Loading.Sound.later {p : Loading} (h : p.Sound file) {s' : ServerStartup}
    (hl : p.s.base.Later s'.base) (hk : s'.base.ObjectsKnown) : Loading.Sound file { p with s := s' } where
  known := hk
  server n v hv := by
    obtain ⟨hmem, hfound, hid⟩ := h.server n v hv
    obtain ⟨hfound', huid⟩ := hl.found h.known.servers v hfound
    refine ⟨hmem, hfound', ?_⟩
    rw [huid]
    exact hl.tables.serverId hid
  account n a ha := by
    obtain ⟨huser, hlt, hid⟩ := h.account n a ha
    refine ⟨huser, hlt.trans_le hl.nextAcc, ?_⟩
    show s'.base.tables.accountId (toUtf8 n) = some (s'.base.w.acc a).m_uid
    rw [hl.acc a hlt]
    exact hl.tables.accountId hid

theorem IsAdmin.later {a : AccId} {s s' : Startup} (h : IsAdmin a s) (hl : s.Later s') : IsAdmin a s' := by
  refine ⟨h.1.trans_le hl.nextAcc, ?_⟩
  rw [hl.acc a h.1]
  exact hl.tables.accountId h.2

/-! ## servers -/

variable (env) in
/-- a server that is there, with its role and its owner, is returned without a change of the database -/
theorem server_get_or_create_same (h : s.base.ObjectsKnown) {name : Bytes} {id : Uuid}
    (hid : s.base.tables.serverId name = some id) (hzero : id ≠ 0)
    (hrole : RoleOf s.allTables id (toUtf8 everyone)) {owner : AccId}
    (hmember : Member s.allTables (s.base.w.acc owner).m_uid id) :
    (s.server_get_or_create env name owner).2.allTables = s.allTables := by
  unfold server_get_or_create
  split
  · rfl
  · have hgrows := Startup.server_get_or_create_grows env.toStartupEnv (s := s.base) name owner
    obtain ⟨-, -, hopened⟩ := Startup.server_get_or_create_known env.toStartupEnv h name owner
    obtain ⟨hw, -, -⟩ := Startup.server_get_or_create_rest env.toStartupEnv (s := s.base) name
      owner
    obtain ⟨hsome, htables⟩ := Startup.server_get_or_create_same env.toStartupEnv
      (Option.isSome_iff_exists.mpr ⟨id, hid⟩) owner
    have hopen (r : Option SrvId × Startup) (hg : s.base.tables.Grows r.2.tables)
        (hopened : ∀ v, r.1 = some v → r.2.Found v ∧ r.2.tables.serverId name = some (r.2.server v).m_uid)
        (hw : r.2.w = s.base.w) (hsome : r.1.isSome = true) (htables : r.2.tables = s.base.tables) :
        (s.open_found env owner r hg).2.allTables = s.allTables := by
      obtain ⟨v?, base⟩ := r
      obtain ⟨v, rfl⟩ := Option.isSome_iff_exists.mp hsome
      have huid : (base.server v).m_uid = id := by
        have hfound := (hopened v rfl).2
        dsimp only at htables hfound
        rw [htables, hid] at hfound
        exact (Option.some.inj hfound).symm
      have hall := advance_same hg htables
      refine Eq.trans (open_server_same (s := s.advance base hg) ?_ ?_ ?_) hall
      · exact huid ▸ hzero
      · rw [hall]
        exact huid ▸ hrole
      · rw [hall]
        show Member s.allTables (base.w.acc owner).m_uid (base.server v).m_uid
        rw [huid]
        dsimp only at hw
        rw [hw]
        exact hmember
    exact hopen _ _ hopened hw hsome htables

variable (env) in
theorem server_get_or_create_opened (h : s.base.ObjectsKnown) (name : Bytes) (owner : AccId) :
    (s.server_get_or_create env name owner).2.base.ObjectsKnown ∧
      s.base.Later (s.server_get_or_create env name owner).2.base ∧
      ∀ v, (s.server_get_or_create env name owner).1 = some v →
        (s.server_get_or_create env name owner).2.base.Found v ∧
        (s.server_get_or_create env name owner).2.base.tables.serverId name =
          some ((s.server_get_or_create env name owner).2.base.server v).m_uid := by
  have hbase := server_get_or_create_base env (s := s) name owner
  have hknown := Startup.server_get_or_create_known env.toStartupEnv h name owner
  rw [← hbase] at hknown
  exact hknown

theorem server_get_or_create_fresh (hf : s.base.FreshRows env.toStartupEnv) (name : Bytes)
    {owner : AccId} (howner : IsAdmin owner s.base) :
    (s.server_get_or_create env name owner).1.isSome = true ∧
      (s.server_get_or_create env name owner).2.base.FreshRows env.toStartupEnv := by
  have hbase := server_get_or_create_base env (s := s) name owner
  have hmade := Startup.server_get_or_create_fresh hf name (Tables.mem_of_accountId howner.2)
  rw [← hbase] at hmade
  exact hmade

theorem preload_server_some {adminAccount : AccId} {p : Loading} {name : QString} {v : SrvId}
    {s' : ServerStartup} (he : p.s.server_get_or_create env (toUtf8 name) adminAccount = (some v, s')) :
    preload_server env adminAccount p name =
      { p with
        s := s'.join_server v adminAccount
        serversByName := p.serversByName.insert (fromUtf8 (toUtf8 name)) v } := by
  unfold preload_server
  dsimp only
  rw [he]

theorem preload_server_none {adminAccount : AccId} {p : Loading} {name : QString}
    {s' : ServerStartup} (he : p.s.server_get_or_create env (toUtf8 name) adminAccount = (none, s')) :
    preload_server env adminAccount p name = { p with s := s' } := by
  unfold preload_server
  dsimp only
  rw [he]

variable (env) in
theorem preload_server_sound {p : Loading} (h : p.Sound file) (adminAccount : AccId) {name : QString}
    (hmem : name ∈ file.servers) (hplain : name.head? ≠ some bom) :
    (preload_server env adminAccount p name).Sound file ∧
      p.s.base.Later (preload_server env adminAccount p name).s.base := by
  obtain ⟨hknown, hlater, hserver⟩ :=
    server_get_or_create_opened env h.known (toUtf8 name) adminAccount
  rcases he : p.s.server_get_or_create env (toUtf8 name) adminAccount with ⟨v?, s'⟩
  rw [he] at hknown hlater hserver
  cases v? with
  | none =>
    rw [preload_server_none he]
    exact ⟨h.later hlater hknown, hlater⟩
  | some v =>
    have hbase : (s'.join_server v adminAccount).base = s'.base := join_server_base v adminAccount
    have hold := h.later hlater hknown
    rw [preload_server_some he]
    refine ⟨⟨by rw [hbase]; exact hknown, fun n x hx => ?_, fun n a ha => ?_⟩, by rw [hbase]; exact hlater⟩
    · dsimp only at hx ⊢
      rw [lookup_insert, fromUtf8_toUtf8.mpr hplain] at hx
      rw [hbase]
      split at hx
      · rename_i hn
        rw [hn, ← Option.some.inj hx]
        exact ⟨hmem, hserver v rfl⟩
      · exact hold.server n x hx
    · dsimp only
      rw [hbase]
      exact hold.account n a ha

theorem preload_server_made {p : Loading} (h : p.Sound file) (hf : p.s.base.FreshRows env.toStartupEnv)
    {adminAccount : AccId} (hadmin : IsAdmin adminAccount p.s.base) {name : QString}
    (hplain : name.head? ≠ some bom) :
    (preload_server env adminAccount p name).s.base.FreshRows env.toStartupEnv ∧
      (∀ n : QString, n = name ∨ (p.serversByName[n]?).isSome = true →
        ((preload_server env adminAccount p name).serversByName[n]?).isSome = true) ∧
      ServerAsked name (preload_server env adminAccount p name).s.allTables := by
  obtain ⟨hknown, hlater, hserver⟩ :=
    server_get_or_create_opened env h.known (toUtf8 name) adminAccount
  obtain ⟨hsome, hfresh⟩ := server_get_or_create_fresh hf (toUtf8 name) hadmin
  rcases he : p.s.server_get_or_create env (toUtf8 name) adminAccount with ⟨v?, s'⟩
  rw [he] at hknown hlater hserver hsome hfresh
  obtain ⟨v, rfl⟩ := Option.isSome_iff_exists.mp hsome
  have hbase : (s'.join_server v adminAccount).base = s'.base := join_server_base v adminAccount
  have hadmin' := hadmin.later hlater
  obtain ⟨hfound, hid⟩ := hserver v rfl
  rw [preload_server_some he]
  refine ⟨by rw [hbase]; exact hfresh, fun n hn => ?_, (s'.base.server v).m_uid,
    (s'.base.w.acc adminAccount).m_uid, ?_, ?_, ?_⟩
  · dsimp only
    rw [lookup_insert, fromUtf8_toUtf8.mpr hplain]
    split
    · rfl
    · exact hn.resolve_left ‹_›
  · show (s'.join_server v adminAccount).base.tables.serverId _ = _
    rw [hbase]
    exact hid
  · show (s'.join_server v adminAccount).base.tables.accountId _ = _
    rw [hbase]
    exact hadmin'.2
  · exact server_add_member_member (Tables.mem_of_accountId hadmin'.2) (Tables.mem_of_serverId hid)

/-- what a server needs for its preloading to write nothing -/
theorem preload_server_same {p : Loading} (h : p.Sound file) {adminAccount : AccId}
    (hadmin : IsAdmin adminAccount p.s.base) {name : QString} (hasked : ServerAsked name p.s.allTables)
    (hserved : Served p.s.allTables) :
    (preload_server env adminAccount p name).s.allTables = p.s.allTables := by
  obtain ⟨id, u, hid, hu, hmember⟩ := hasked
  have hadminid : u = (p.s.base.w.acc adminAccount).m_uid := Option.some.inj (hu.symm.trans hadmin.2)
  rw [hadminid] at hmember
  obtain ⟨row, hrow, hrowid⟩ := List.mem_map.mp (Tables.mem_of_serverId hid)
  obtain ⟨hzero, hrole⟩ := hserved row hrow
  rw [hrowid] at hzero hrole
  have hsame := server_get_or_create_same env h.known hid hzero hrole hmember
  obtain ⟨hknown, hlater, hserver⟩ :=
    server_get_or_create_opened env h.known (toUtf8 name) adminAccount
  rcases he : p.s.server_get_or_create env (toUtf8 name) adminAccount with ⟨v?, s'⟩
  rw [he] at hsame hlater hserver
  cases v? with
  | none =>
    rw [preload_server_none he]
    exact hsame
  | some v =>
    rw [preload_server_some he]
    have huid : (s'.base.server v).m_uid = id := by
      have hfound := (hserver v rfl).2
      rw [hlater.tables.serverId hid] at hfound
      exact (Option.some.inj hfound).symm
    show (s'.server_add_member (s'.base.w.acc adminAccount).m_uid (s'.base.server v).m_uid).allTables = _
    rw [server_add_member_same, hsame]
    rw [hsame, huid, hlater.acc _ hadmin.1]
    exact hmember

/-! ## users -/

variable (env) in
theorem account_get_or_create_opened (h : s.base.ObjectsKnown) {name : QString}
    (hplain : name.head? ≠ some bom) (password : Bytes) :
    Startup.AccountOpened env.toStartupEnv s.base (toUtf8 name)
      (s.account_get_or_create env (toUtf8 name) password).2.base
      (s.account_get_or_create env (toUtf8 name) password).1 :=
  Startup.account_get_or_create_opened env.toStartupEnv h (congrArg toUtf8 (fromUtf8_toUtf8.mpr hplain)) password

theorem preload_user_none {p : Loading} {user : PreloadUser} {s' : ServerStartup}
    (he : p.s.account_get_or_create env (toUtf8 user.name) (toUtf8 user.password) = (none, s')) :
    preload_user env p user = { p with s := s' } := by
  unfold preload_user
  dsimp only
  rw [he]

/-- the account of a user, in the server that the file names -/
def seat (server : Option SrvId) (account : AccId) (s : ServerStartup) : ServerStartup :=
  match server with
  | none => s
  | some server => s.join_server server account

theorem preload_user_some {p : Loading} {user : PreloadUser} {a : AccId} {s' : ServerStartup}
    (he : p.s.account_get_or_create env (toUtf8 user.name) (toUtf8 user.password) = (some a, s')) :
    preload_user env p user =
      { s := seat p.serversByName[user.server]? a s'
        serversByName := p.serversByName
        accountsByName := p.accountsByName.insert (fromUtf8 (toUtf8 user.name)) a } := by
  unfold preload_user
  dsimp only
  rw [he]
  dsimp only
  cases p.serversByName[user.server]? <;> rfl

theorem seat_base (server : Option SrvId) (a : AccId) : (seat server a s).base = s.base := by
  cases server with
  | none => rfl
  | some v => exact join_server_base v a

theorem preload_user_sound {p : Loading} (h : p.Sound file) {user : PreloadUser}
    (hmem : user ∈ file.users) (hplain : user.name.head? ≠ some bom) :
    (preload_user env p user).Sound file ∧ p.s.base.Later (preload_user env p user).s.base := by
  have hopened := account_get_or_create_opened env h.known hplain (toUtf8 user.password)
  rcases he : p.s.account_get_or_create env (toUtf8 user.name) (toUtf8 user.password) with ⟨a?, s'⟩
  rw [he] at hopened
  cases a? with
  | none =>
    rw [preload_user_none he]
    exact ⟨h.later hopened.later hopened.known, hopened.later⟩
  | some a =>
    have hold := h.later hopened.later hopened.known
    rw [preload_user_some he]
    refine ⟨⟨by rw [seat_base]; exact hopened.known, fun n v hv => ?_, fun n x hx => ?_⟩,
      by rw [seat_base]; exact hopened.later⟩
    · dsimp only
      rw [seat_base]
      exact hold.server n v hv
    · dsimp only at hx ⊢
      rw [lookup_insert, fromUtf8_toUtf8.mpr hplain] at hx
      rw [seat_base]
      split at hx
      · rename_i hn
        rw [hn, ← Option.some.inj hx]
        exact ⟨Or.inr ⟨user, hmem, rfl⟩, hopened.account a rfl⟩
      · exact hold.account n x hx

/-- the users before are listed, and this one if it has an account -/
theorem preload_user_listed {p : Loading} {user : PreloadUser} (hplain : user.name.head? ≠ some bom)
    (hsome : (p.s.account_get_or_create env (toUtf8 user.name) (toUtf8 user.password)).1.isSome = true)
    (n : QString) (hn : n = user.name ∨ (p.accountsByName[n]?).isSome = true) :
    ((preload_user env p user).accountsByName[n]?).isSome = true := by
  rcases he : p.s.account_get_or_create env (toUtf8 user.name) (toUtf8 user.password) with ⟨a?, s'⟩
  rw [he] at hsome
  obtain ⟨a, rfl⟩ := Option.isSome_iff_exists.mp hsome
  rw [preload_user_some he]
  dsimp only
  rw [lookup_insert, fromUtf8_toUtf8.mpr hplain]
  split
  · rfl
  · exact hn.resolve_left ‹_›

theorem preload_user_serversByName (p : Loading) (user : PreloadUser) :
    (preload_user env p user).serversByName = p.serversByName := by
  rcases he : p.s.account_get_or_create env (toUtf8 user.name) (toUtf8 user.password) with ⟨a?, s'⟩
  cases a? with
  | none => rw [preload_user_none he]
  | some a => rw [preload_user_some he]

theorem preload_user_made {p : Loading} (h : p.Sound file) (hf : p.s.base.FreshRows env.toStartupEnv)
    (hservers : ∀ n ∈ file.servers, (p.serversByName[n]?).isSome = true) {user : PreloadUser}
    (hplain : user.name.head? ≠ some bom) :
    (preload_user env p user).s.base.FreshRows env.toStartupEnv ∧
      UserAsked file user (preload_user env p user).s.allTables := by
  have hopened := account_get_or_create_opened env h.known hplain (toUtf8 user.password)
  obtain ⟨hfresh, hsome⟩ := hopened.fresh hf
  rcases he : p.s.account_get_or_create env (toUtf8 user.name) (toUtf8 user.password) with ⟨a?, s'⟩
  rw [he] at hopened hfresh hsome
  obtain ⟨a, rfl⟩ := Option.isSome_iff_exists.mp hsome
  obtain ⟨-, haid⟩ := hopened.account a rfl
  have hold := h.later hopened.later hopened.known
  rw [preload_user_some he]
  refine ⟨by rw [seat_base]; exact hfresh, (s'.base.w.acc a).m_uid, ?_, fun hserver => ?_⟩
  · show (seat _ a s').base.tables.accountId _ = _
    rw [seat_base]
    exact haid
  · obtain ⟨v, hv⟩ := Option.isSome_iff_exists.mp (hservers _ hserver)
    obtain ⟨-, -, hvid⟩ := hold.server _ v hv
    refine ⟨(s'.base.server v).m_uid, ?_, ?_⟩
    · show (seat _ a s').base.tables.serverId _ = _
      rw [seat_base]
      exact hvid
    · rw [hv]
      exact server_add_member_member (Tables.mem_of_accountId haid) (Tables.mem_of_serverId hvid)

theorem preload_user_same {p : Loading} (h : p.Sound file) {user : PreloadUser}
    (hplain : user.name.head? ≠ some bom) (hasked : UserAsked file user p.s.allTables) :
    (preload_user env p user).s.allTables = p.s.allTables := by
  obtain ⟨u, hu, hmember⟩ := hasked
  have hopened := account_get_or_create_opened env h.known hplain (toUtf8 user.password)
  obtain ⟨hsome, htables⟩ := hopened.same (Option.isSome_iff_exists.mpr ⟨u, hu⟩)
  have hall : (p.s.account_get_or_create env (toUtf8 user.name) (toUtf8 user.password)).2.allTables =
      p.s.allTables := advance_same _ htables
  rcases he : p.s.account_get_or_create env (toUtf8 user.name) (toUtf8 user.password) with ⟨a?, s'⟩
  rw [he] at hopened hall
  cases a? with
  | none =>
    rw [preload_user_none he]
    exact hall
  | some a =>
    rw [preload_user_some he]
    dsimp only
    cases hv : p.serversByName[user.server]? with
    | none => exact hall
    | some v =>
      obtain ⟨-, haid⟩ := hopened.account a rfl
      obtain ⟨hserver, hfound, hvid⟩ := h.server _ v hv
      have hauid : (s'.base.w.acc a).m_uid = u := by
        rw [hopened.later.tables.accountId hu] at haid
        exact (Option.some.inj haid).symm
      show (s'.server_add_member (s'.base.w.acc a).m_uid (s'.base.server v).m_uid).allTables = _
      rw [server_add_member_same, hall]
      rw [hall, hauid, (hopened.later.found h.known.servers v hfound).2]
      obtain ⟨id, hid, hmember⟩ := hmember hserver
      rw [Option.some.inj (hvid.symm.trans hid)]
      exact hmember

end ServerStartup

/-! ## channels and their members -/

namespace Startup
variable {env : StartupEnv} {s s' s'' : Startup}

/-- only rows of `account_channels` were added -/
structure OnlyJoins (s s' : Startup) : Prop where
  w : s'.w = s.w
  servers : s.SameServers s'
  accounts : s'.tables.accounts = s.tables.accounts
  channels : s'.tables.channels = s.tables.channels
  joins : s.tables.account_channels <+: s'.tables.account_channels
  made : s'.made = s.made

theorem OnlyJoins.refl (s : Startup) : s.OnlyJoins s :=
  ⟨rfl, SameServers.refl s, rfl, rfl, List.prefix_rfl, rfl⟩

theorem OnlyJoins.trans (h : s.OnlyJoins s') (h' : s'.OnlyJoins s'') : s.OnlyJoins s'' :=
  ⟨h'.w.trans h.w, h.servers.trans h'.servers, h'.accounts.trans h.accounts,
    h'.channels.trans h.channels, h.joins.trans h'.joins, h'.made.trans h.made⟩

theorem channel_add_member_joins (account_id channel_id : Uuid) :
    s.OnlyJoins (s.channel_add_member account_id channel_id) := by
  unfold channel_add_member
  split
  · exact ⟨rfl, ⟨rfl, rfl, rfl, rfl, rfl⟩, rfl, rfl, List.prefix_append _ _, rfl⟩
  · exact OnlyJoins.refl s

theorem OnlyJoins.grows (h : s.OnlyJoins s') : s.tables.Grows s'.tables where
  accounts := by rw [h.accounts]
  servers := by rw [h.servers.rows]
  channels := by rw [h.channels]
  account_channels := h.joins

theorem OnlyJoins.known (h : s.OnlyJoins s') (hk : s.ObjectsKnown) : s'.ObjectsKnown where
  servers := h.servers.known hk.servers
  cached := by rw [h.w]; exact hk.cached
  account n u hu := by
    rw [h.w] at hu
    exact h.grows.accountId (hk.account n u hu)
  channel n c hc := by
    rw [h.w] at hc ⊢
    exact ⟨(hk.channel n c hc).1, h.grows.channelId (hk.channel n c hc).2⟩

theorem OnlyJoins.later (h : s.OnlyJoins s') : s.Later s' where
  tables := h.grows
  nextAcc := by rw [h.w]
  acc a _ := by rw [h.w]
  found _ v hv := ⟨h.servers.found hv, by rw [h.servers.server]⟩

theorem OnlyJoins.fresh (h : s.OnlyJoins s') (hf : s.FreshRows env) : s'.FreshRows env where
  distinct := hf.distinct
  account := by rw [h.made, h.accounts]; exact hf.account
  server := by rw [h.made, h.servers.rows]; exact hf.server
  channel := by rw [h.made, h.channels]; exact hf.channel

theorem Later.trans (h : s.Later s') (hs : s.ServersKnown → s'.ServersKnown) (h' : s'.Later s'') :
    s.Later s'' where
  tables := h.tables.trans h'.tables
  nextAcc := h.nextAcc.trans h'.nextAcc
  acc a ha := (h'.acc a (ha.trans_le h.nextAcc)).trans (h.acc a ha)
  found hk v hv := by
    obtain ⟨hfound, huid⟩ := h.found hk v hv
    obtain ⟨hfound', huid'⟩ := h'.found (hs hk) v hfound
    exact ⟨hfound', huid'.trans huid⟩

end Startup

namespace ServerStartup
variable {env : ServerEnv} {s : ServerStartup} {file : Preload}

theorem preload_member_joins (accountsByName : QMap QString AccId) (server : Option SrvId)
    (channel : ChanId) (s : ServerStartup) (m : QString) :
    s.base.OnlyJoins (s.preload_member accountsByName server channel m).base := by
  rw [preload_member_base]
  unfold Startup.preload_member
  split
  · exact Startup.OnlyJoins.refl _
  · exact Startup.channel_add_member_joins _ _

/-- the loop over the members of a channel -/
theorem preload_members_joins (accountsByName : QMap QString AccId) (server : Option SrvId)
    (channel : ChanId) (l : List QString) (s : ServerStartup) :
    s.base.OnlyJoins (l.foldl (preload_member accountsByName server channel) s).base := by
  induction l generalizing s with
  | nil => exact Startup.OnlyJoins.refl _
  | cons m l ih => exact (preload_member_joins accountsByName server channel s m).trans (ih _)

/-- a member that is on the heap is joined -/
theorem preload_member_joined {accountsByName : QMap QString AccId} (server : Option SrvId)
    {channel : ChanId} {m : QString} {a : AccId} (hm : accountsByName[m]? = some a)
    (ha : (s.base.w.acc a).m_uid ∈ s.base.tables.accounts.map AccountRow.id)
    (hc : (s.base.w.chan channel).uid ∈ s.base.tables.channels.map ChannelRow.id) :
    ⟨(s.base.w.acc a).m_uid, (s.base.w.chan channel).uid⟩ ∈
      (s.preload_member accountsByName server channel m).base.tables.account_channels := by
  rw [preload_member_base]
  unfold Startup.preload_member
  rw [hm]
  exact Startup.channel_add_member_joined ha hc

theorem preload_members_joined {accountsByName : QMap QString AccId} (server : Option SrvId)
    {channel : ChanId} {a : AccId} {l : List QString} {m : QString} (hm : m ∈ l)
    (hma : accountsByName[m]? = some a)
    (ha : (s.base.w.acc a).m_uid ∈ s.base.tables.accounts.map AccountRow.id)
    (hc : (s.base.w.chan channel).uid ∈ s.base.tables.channels.map ChannelRow.id) :
    ⟨(s.base.w.acc a).m_uid, (s.base.w.chan channel).uid⟩ ∈
      (l.foldl (preload_member accountsByName server channel) s).base.tables.account_channels := by
  induction l generalizing s with
  | nil => cases hm
  | cons x l ih =>
    rw [List.foldl_cons]
    have hstep := preload_member_joins accountsByName server channel s x
    rcases List.mem_cons.mp hm with rfl | hm
    · exact (preload_members_joins accountsByName server channel l _).joins.subset
        (preload_member_joined server hma ha hc)
    · rw [← hstep.w]
      refine ih hm ?_ ?_
      · rw [hstep.w, hstep.accounts]
        exact ha
      · rw [hstep.w, hstep.channels]
        exact hc

/-- members that are joined are not joined again -/
theorem preload_members_same {accountsByName : QMap QString AccId} (server : Option SrvId)
    {channel : ChanId} {l : List QString} (h : ∀ m ∈ l, ∀ a, accountsByName[m]? = some a →
      ⟨(s.base.w.acc a).m_uid, (s.base.w.chan channel).uid⟩ ∈ s.base.tables.account_channels) :
    (l.foldl (preload_member accountsByName server channel) s).allTables = s.allTables := by
  induction l generalizing s with
  | nil => rfl
  | cons x l ih =>
    rw [List.foldl_cons]
    have hstep := preload_member_joins accountsByName server channel s x
    have hsame : (s.preload_member accountsByName server channel x).allTables = s.allTables := by
      unfold preload_member
      cases hx : accountsByName[x]? with
      | none => rfl
      | some a =>
        have hall := advance_same (s := s) (Startup.channel_add_member_grows (s.base.w.acc a).m_uid
          (s.base.w.chan channel).uid) (congrArg Startup.tables
            (Startup.channel_add_member_same (h x List.mem_cons_self a hx)))
        cases server <;> exact hall
    rw [ih, hsame]
    intro m hm a ha
    rw [hstep.w]
    exact hstep.joins.subset (h m (List.mem_cons_of_mem _ hm) a ha)

/-- the channel is put in the list of its server -/
def list_channel (server : Option SrvId) (channel : ChanId) (s : ServerStartup) : ServerStartup :=
  match server with
  | none => s
  | some server => s.add_channel server channel

theorem list_channel_allTables (server : Option SrvId) (channel : ChanId) :
    (list_channel server channel s).allTables = s.allTables ∧
      (list_channel server channel s).base = s.base := by
  cases server <;> exact ⟨rfl, rfl⟩

theorem preload_channel_none {p : Loading} {c : Startup.PreloadChannel} {s' : ServerStartup}
    (he : p.s.channel_get_or_create env (toUtf8 c.name) (toUtf8 c.topic) p.accountsByName[c.owner]?
      p.serversByName[c.server]? = (none, s')) : preload_channel env p c = { p with s := s' } := by
  unfold preload_channel
  dsimp only
  rw [he]

theorem preload_channel_some {p : Loading} {c : Startup.PreloadChannel} {ch : ChanId}
    {s' : ServerStartup}
    (he : p.s.channel_get_or_create env (toUtf8 c.name) (toUtf8 c.topic) p.accountsByName[c.owner]?
      p.serversByName[c.server]? = (some ch, s')) :
    preload_channel env p c =
      { p with
        s := c.members.foldl (preload_member p.accountsByName p.serversByName[c.server]? ch)
          (list_channel p.serversByName[c.server]? ch s') } := by
  unfold preload_channel
  dsimp only
  rw [he]
  dsimp only
  cases p.serversByName[c.server]? <;> rfl

variable (env) in
/-- the channel of a file, found or made -/
theorem channel_get_or_create_opened {p : Loading} (h : p.Sound file) (c : Startup.PreloadChannel) :
    Startup.ChannelOpened env.toStartupEnv p.s.base (toUtf8 c.name) p.serversByName[c.server]?
      (p.s.channel_get_or_create env (toUtf8 c.name) (toUtf8 c.topic) p.accountsByName[c.owner]?
        p.serversByName[c.server]?).2.base
      (p.s.channel_get_or_create env (toUtf8 c.name) (toUtf8 c.topic) p.accountsByName[c.owner]?
        p.serversByName[c.server]?).1 := by
  refine Startup.channel_get_or_create_opened h.known _ _ (fun a ha => ?_) fun v hv => ?_
  · exact Tables.mem_of_accountId (h.account _ a ha).2.2
  · exact Tables.mem_of_serverId (h.server _ v hv).2.2

variable (env) in
theorem preload_channel_sound {p : Loading} (h : p.Sound file) (c : Startup.PreloadChannel) :
    (preload_channel env p c).Sound file ∧
      (preload_channel env p c).serversByName = p.serversByName ∧
      (preload_channel env p c).accountsByName = p.accountsByName ∧
      p.s.base.Later (preload_channel env p c).s.base := by
  have hopened := channel_get_or_create_opened env h c
  rcases he : p.s.channel_get_or_create env (toUtf8 c.name) (toUtf8 c.topic)
    p.accountsByName[c.owner]? p.serversByName[c.server]? with ⟨ch?, s'⟩
  rw [he] at hopened
  cases ch? with
  | none =>
    rw [preload_channel_none he]
    exact ⟨h.later hopened.later hopened.known, rfl, rfl, hopened.later⟩
  | some ch =>
    have hjoins := preload_members_joins p.accountsByName p.serversByName[c.server]? ch c.members
      (list_channel p.serversByName[c.server]? ch s')
    rw [(list_channel_allTables _ ch).2] at hjoins
    have hlater := hopened.later.trans (fun _ => hopened.known.servers) hjoins.later
    rw [preload_channel_some he]
    exact ⟨h.later hlater (hjoins.known hopened.known), rfl, rfl, hlater⟩

/-- a channel of the file is made if its server is known -/
theorem preload_channel_made {p : Loading} (h : p.Sound file) (hf : p.s.base.FreshRows env.toStartupEnv)
    (c : Startup.PreloadChannel) :
    (preload_channel env p c).s.base.FreshRows env.toStartupEnv ∧
      ((p.serversByName[c.server]?).isSome = true →
        ∃ id, (preload_channel env p c).s.base.tables.channelId (toUtf8 c.name) = some id) := by
  have hopened := channel_get_or_create_opened env h c
  obtain ⟨hfresh, hsome⟩ := hopened.fresh hf
  rcases he : p.s.channel_get_or_create env (toUtf8 c.name) (toUtf8 c.topic)
    p.accountsByName[c.owner]? p.serversByName[c.server]? with ⟨ch?, s'⟩
  rw [he] at hopened hfresh hsome
  cases ch? with
  | none =>
    rw [preload_channel_none he]
    exact ⟨hfresh, fun hserver => absurd (hsome hserver) Bool.false_ne_true⟩
  | some ch =>
    have hjoins := preload_members_joins p.accountsByName p.serversByName[c.server]? ch c.members
      (list_channel p.serversByName[c.server]? ch s')
    rw [(list_channel_allTables _ ch).2] at hjoins
    rw [preload_channel_some he]
    exact ⟨hjoins.fresh hfresh, fun _ => ⟨_, hjoins.grows.channelId (hopened.channel ch rfl)⟩⟩

/-- the members of a channel that is there, or made, are joined -/
theorem preload_channel_joined {p : Loading} (h : p.Sound file)
    (hall : ∀ n, file.HasUser n → (p.accountsByName[n]?).isSome = true) (c : Startup.PreloadChannel)
    (hsome : (p.s.channel_get_or_create env (toUtf8 c.name) (toUtf8 c.topic) p.accountsByName[c.owner]?
      p.serversByName[c.server]?).1.isSome = true) :
    ChannelJoined file c (preload_channel env p c).s.allTables := by
  have hopened := channel_get_or_create_opened env h c
  rcases he : p.s.channel_get_or_create env (toUtf8 c.name) (toUtf8 c.topic)
    p.accountsByName[c.owner]? p.serversByName[c.server]? with ⟨ch?, s'⟩
  rw [he] at hopened hsome
  obtain ⟨ch, rfl⟩ := Option.isSome_iff_exists.mp hsome
  have hbase := (list_channel_allTables (s := s') p.serversByName[c.server]? ch).2
  have hjoins := preload_members_joins p.accountsByName p.serversByName[c.server]? ch c.members
    (list_channel p.serversByName[c.server]? ch s')
  have hold := h.later hopened.later hopened.known
  rw [preload_channel_some he]
  intro id hid m hm huser
  obtain ⟨a, ha⟩ := Option.isSome_iff_exists.mp (hall m huser)
  obtain ⟨-, -, haid⟩ := hold.account m a ha
  have hchid := hopened.channel ch rfl
  have hjoined := preload_members_joined p.serversByName[c.server]? (s := list_channel
    p.serversByName[c.server]? ch s') hm ha (by rw [hbase]; exact Tables.mem_of_accountId haid)
      (by rw [hbase]; exact Tables.mem_of_channelId hchid)
  rw [hbase] at hjoined hjoins
  have hid' := hjoins.grows.channelId hchid
  replace hid := hid'.symm.trans hid
  refine ⟨_, hjoins.grows.accountId haid, ?_⟩
  rw [← Option.some.inj hid]
  exact hjoined

variable (env) in
/-- a channel of the file is there, or is not made -/
theorem channel_get_or_create_same {p : Loading} (h : p.Sound file) {c : Startup.PreloadChannel}
    (hasked : ChannelAsked file c p.s.allTables) :
    (p.s.channel_get_or_create env (toUtf8 c.name) (toUtf8 c.topic) p.accountsByName[c.owner]?
        p.serversByName[c.server]?).2.base.tables = p.s.base.tables ∧
      ((p.s.channel_get_or_create env (toUtf8 c.name) (toUtf8 c.topic) p.accountsByName[c.owner]?
          p.serversByName[c.server]?).1.isSome = true ∨
        p.s.base.tables.channelId (toUtf8 c.name) = none) := by
  have hopened := channel_get_or_create_opened env h c
  cases hid : p.s.base.tables.channelId (toUtf8 c.name) with
  | some id =>
    obtain ⟨hsome, ht⟩ := hopened.same (Option.isSome_iff_exists.mpr ⟨id, hid⟩)
    exact ⟨ht, Or.inl hsome⟩
  | none =>
    refine ⟨(hopened.unmade hid ?_).2, Or.inr rfl⟩
    cases hv : p.serversByName[c.server]? with
    | none => rfl
    | some v =>
      obtain ⟨id, hid'⟩ := hasked (h.server _ v hv).1
      cases hid.symm.trans hid'

/-- a channel of the file that is not there and has no server, or whose members are joined -/
theorem preload_channel_same {p : Loading} (h : p.Sound file) (c : Startup.PreloadChannel)
    (hasked : ChannelAsked file c p.s.allTables)
    (hjoined : ChannelJoined file c p.s.allTables) :
    (preload_channel env p c).s.allTables = p.s.allTables := by
  have hopened := channel_get_or_create_opened env h c
  obtain ⟨hsame, -⟩ := channel_get_or_create_same env h hasked
  have hall : (p.s.channel_get_or_create env (toUtf8 c.name) (toUtf8 c.topic)
      p.accountsByName[c.owner]? p.serversByName[c.server]?).2.allTables = p.s.allTables :=
    advance_same _ hsame
  rcases he : p.s.channel_get_or_create env (toUtf8 c.name) (toUtf8 c.topic)
    p.accountsByName[c.owner]? p.serversByName[c.server]? with ⟨ch?, s'⟩
  rw [he] at hopened hall hsame
  cases ch? with
  | none =>
    rw [preload_channel_none he]
    exact hall
  | some ch =>
    obtain ⟨hlisted, hbase⟩ := list_channel_allTables (s := s') p.serversByName[c.server]? ch
    rw [preload_channel_some he]
    dsimp only
    rw [preload_members_same, hlisted, hall]
    intro m hm a ha
    rw [hbase]
    obtain ⟨huser, hlt, haid⟩ := h.account m a ha
    have hchid := hopened.channel ch rfl
    dsimp only at hsame
    rw [hsame] at hchid ⊢
    rw [hopened.later.acc a hlt]
    obtain ⟨u, hu, hjoin⟩ := hjoined _ hchid m hm huser
    rw [Option.some.inj (haid.symm.trans hu)]
    exact hjoin

end ServerStartup

end Chatripper
