import Mathlib
import Chatripper.Asked
import Chatripper.Lib.Replay

/-!
# Starting again

The preload file is read at every start.  What it asks for is in the database after the first, and a start
that finds it there leaves the database as it is.  A channel without a server is the exception: it is not
made, and when a later one of its name is, its members join at the second start.

* `start_asked`            a start makes what the file asks for;
* `start_fixed`            a start that finds it changes nothing;
* `restart`, `restart_twice`   so that the second start, or else the third, changes nothing.
-/

namespace Chatripper
open ByteStr Utf8

namespace ServerStartup
variable {env : ServerEnv} {s : ServerStartup} {file : Preload}

/-! ## a start -/

theorem ServerAsked.grows {d d' : AllTables} (hg : d.Grows d') {name : QString} (h : ServerAsked name d) :
    ServerAsked name d' := by
  obtain ⟨id, a, hid, ha, hmember⟩ := h
  exact ⟨id, a, hg.tables.serverId hid, hg.tables.accountId ha, hmember.grows hg⟩

theorem UserAsked.grows {d d' : AllTables} (hg : d.Grows d') {user : PreloadUser}
    (h : UserAsked file user d) : UserAsked file user d' := by
  obtain ⟨a, ha, hmember⟩ := h
  refine ⟨a, hg.tables.accountId ha, fun hserver => ?_⟩
  obtain ⟨id, hid, hm⟩ := hmember hserver
  exact ⟨id, hg.tables.serverId hid, hm.grows hg⟩

theorem ChannelAsked.grows {d d' : AllTables} (hg : d.Grows d') {c : Startup.PreloadChannel}
    (h : ChannelAsked file c d) : ChannelAsked file c d' := by
  intro hserver
  obtain ⟨id, hid⟩ := h hserver
  exact ⟨id, hg.tables.channelId hid⟩

/-- a channel that is there keeps its members -/
theorem ChannelJoined.grows {d d' : AllTables} (hg : d.Grows d') {c : Startup.PreloadChannel}
    (h : ChannelJoined file c d) (hc : ∃ id, d.tables.channelId (toUtf8 c.name) = some id) :
    ChannelJoined file c d' := by
  intro id hid m hm huser
  obtain ⟨id', hid'⟩ := hc
  cases hid.symm.trans (hg.tables.channelId hid')
  obtain ⟨a, ha, hjoin⟩ := h id hid' m hm huser
  exact ⟨a, hg.tables.accountId ha, hg.tables.account_channels.subset hjoin⟩

theorem Asked.grows {d d' : AllTables} (hg : d.Grows d') (h : Asked file d) : Asked file d' where
  admin := by
    obtain ⟨id, hid⟩ := h.admin
    exact ⟨id, hg.tables.accountId hid⟩
  server name hname := (h.server name hname).grows hg
  user user huser := (h.user user huser).grows hg
  channel c hc := (h.channel c hc).grows hg

/-- the loop over the servers of the file -/
theorem preload_servers_made {p : Loading} {adminAccount : AccId} (hplain : file.Unmarked)
    (h : p.Sound file) (hf : p.s.base.FreshRows env.toStartupEnv) (ha : IsAdmin adminAccount p.s.base) :
    (∀ name ∈ file.servers,
        ((file.servers.foldl (preload_server env adminAccount) p).serversByName[name]?).isSome = true ∧
          ServerAsked name (file.servers.foldl (preload_server env adminAccount) p).s.allTables) ∧
      Loading.Sound file (file.servers.foldl (preload_server env adminAccount) p) ∧
      (file.servers.foldl (preload_server env adminAccount) p).s.base.FreshRows env.toStartupEnv ∧
      IsAdmin adminAccount (file.servers.foldl (preload_server env adminAccount) p).s.base := by
  have hstep (q : Loading) (name : QString) (hname : name ∈ file.servers)
      (hq : q.Sound file ∧ q.s.base.FreshRows env.toStartupEnv ∧ IsAdmin adminAccount q.s.base) :
      (preload_server env adminAccount q name).Sound file ∧
        (preload_server env adminAccount q name).s.base.FreshRows env.toStartupEnv ∧
        IsAdmin adminAccount (preload_server env adminAccount q name).s.base := by
    obtain ⟨hsound, hfresh, hadmin⟩ := hq
    obtain ⟨hsound', hlater⟩ := preload_server_sound _ hsound adminAccount hname (hplain.server _ hname)
    exact ⟨hsound', (preload_server_made hsound hfresh hadmin (hplain.server _ hname)).1,
      hadmin.later hlater⟩
  refine ⟨foldl_makes (R := fun name q => (q.serversByName[name]?).isSome = true ∧
      ServerAsked name q.s.allTables) hstep (fun q name hname hq => ?_)
      (fun q name other hother hq hname => ?_) ⟨h, hf, ha⟩, foldl_invariant hstep ⟨h, hf, ha⟩⟩
  · obtain ⟨-, hlisted, hasked⟩ := preload_server_made hq.1 hq.2.1 hq.2.2 (hplain.server _ hname)
    exact ⟨hlisted name (Or.inl rfl), hasked⟩
  · obtain ⟨-, hlisted, -⟩ := preload_server_made hq.1 hq.2.1 hq.2.2 (hplain.server _ hother)
    exact ⟨hlisted name (Or.inr hname.1), hname.2.grows (preload_server_grows _ _ _)⟩

/-- what the loop over the users needs and keeps -/
structure UsersLoop (env : ServerEnv) (file : Preload) (p : Loading) : Prop where
  sound : p.Sound file
  fresh : p.s.base.FreshRows env.toStartupEnv
  servers : ∀ n ∈ file.servers, (p.serversByName[n]?).isSome = true
  admin : (p.accountsByName["admin".toList]?).isSome = true

theorem UsersLoop.isSome {p : Loading} (h : UsersLoop env file p) {user : PreloadUser}
    (hplain : user.name.head? ≠ some bom) :
    (p.s.account_get_or_create env (toUtf8 user.name) (toUtf8 user.password)).1.isSome = true :=
  ((account_get_or_create_opened env h.sound.known hplain (toUtf8 user.password)).fresh
    h.fresh).2

theorem UsersLoop.step {p : Loading} (h : UsersLoop env file p) {user : PreloadUser}
    (huser : user ∈ file.users) (hplain : user.name.head? ≠ some bom) :
    UsersLoop env file (preload_user env p user) where
  sound := (preload_user_sound h.sound huser hplain).1
  fresh := (preload_user_made h.sound h.fresh h.servers hplain).1
  servers := by
    rw [preload_user_serversByName]
    exact h.servers
  admin := preload_user_listed hplain (h.isSome hplain) _ (Or.inr h.admin)

/-- the loop over the users of the file -/
theorem preload_users_made {p : Loading} (hplain : file.Unmarked) (h : UsersLoop env file p) :
    (∀ user ∈ file.users,
        ((file.users.foldl (preload_user env) p).accountsByName[user.name]?).isSome = true ∧
          UserAsked file user (file.users.foldl (preload_user env) p).s.allTables) ∧
      UsersLoop env file (file.users.foldl (preload_user env) p) := by
  have hstep (q : Loading) (user : PreloadUser) (huser : user ∈ file.users)
      (hq : UsersLoop env file q) : UsersLoop env file (preload_user env q user) :=
    hq.step huser (hplain.user _ huser)
  refine ⟨foldl_makes (R := fun user q => (q.accountsByName[user.name]?).isSome = true ∧
      UserAsked file user q.s.allTables) hstep (fun q user huser hq => ?_)
      (fun q user other hother hq huser => ?_) h, foldl_invariant hstep h⟩
  · exact ⟨preload_user_listed (hplain.user _ huser) (hq.isSome (hplain.user _ huser)) _ (Or.inl rfl),
      (preload_user_made hq.sound hq.fresh hq.servers (hplain.user _ huser)).2⟩
  · exact ⟨preload_user_listed (hplain.user _ hother) (hq.isSome (hplain.user _ hother)) _
      (Or.inr huser.1), huser.2.grows (preload_user_grows _ _)⟩

/-- what the loop over the channels needs and keeps -/
structure ChannelsLoop (env : ServerEnv) (file : Preload) (p : Loading) : Prop where
  sound : p.Sound file
  fresh : p.s.base.FreshRows env.toStartupEnv
  servers : ∀ n ∈ file.servers, (p.serversByName[n]?).isSome = true
  users : ∀ n, file.HasUser n → (p.accountsByName[n]?).isSome = true

theorem preload_channels_made {p : Loading} (h : ChannelsLoop env file p) :
    ∀ c ∈ file.channels, c.server ∈ file.servers →
      (∃ id, (file.channels.foldl (preload_channel env) p).s.base.tables.channelId (toUtf8 c.name) =
        some id) ∧
      ChannelJoined file c (file.channels.foldl (preload_channel env) p).s.allTables := by
  have hstep (q : Loading) (c : Startup.PreloadChannel) (hq : ChannelsLoop env file q) :
      ChannelsLoop env file (preload_channel env q c) := by
    obtain ⟨hsound, hservers, haccounts, -⟩ := preload_channel_sound env hq.sound c
    refine ⟨hsound, (preload_channel_made hq.sound hq.fresh c).1, ?_, ?_⟩
    · rw [hservers]
      exact hq.servers
    · rw [haccounts]
      exact hq.users
  refine foldl_makes (R := fun c q => c.server ∈ file.servers →
    (∃ id, q.s.base.tables.channelId (toUtf8 c.name) = some id) ∧ ChannelJoined file c q.s.allTables)
    (fun q c _ hq => hstep q c hq) (fun q c _ hq hserver => ?_) (fun q c other _ hq hc hserver => ?_) h
  · have hsome := ((channel_get_or_create_opened env hq.sound c).fresh hq.fresh).2
      (hq.servers _ hserver)
    exact ⟨(preload_channel_made hq.sound hq.fresh c).2 (hq.servers _ hserver),
      preload_channel_joined hq.sound hq.users c hsome⟩
  · obtain ⟨⟨id, hid⟩, hjoined⟩ := hc hserver
    have hgrows := preload_channel_grows env q other
    exact ⟨⟨id, hgrows.tables.channelId hid⟩, hjoined.grows hgrows ⟨id, hid⟩⟩

/-- the account of the administrator, which `preload_from_file` makes first -/
theorem admin_opened (env : ServerEnv) (d : AllTables) :
    Startup.AccountOpened env.toStartupEnv (ofAllTables d).base (ascii "admin")
      ((ofAllTables d).account_get_or_create env (ascii "admin") (ascii "admin")).2.base
      ((ofAllTables d).account_get_or_create env (ascii "admin") (ascii "admin")).1 :=
  Startup.account_get_or_create_opened env.toStartupEnv (Startup.objectsKnown_ofTables d.tables) (by decide) _

variable (file) in
theorem preload_from_file_some {adminAccount : AccId} {s' : ServerStartup}
    (he : s.account_get_or_create env (ascii "admin") (ascii "admin") = (some adminAccount, s')) :
    s.preload_from_file env (some file) =
      (file.channels.foldl (preload_channel env) (file.users.foldl (preload_user env)
        { file.servers.foldl (preload_server env adminAccount) { s := s' } with
          accountsByName := (file.servers.foldl (preload_server env adminAccount)
            { s := s' }).accountsByName.insert "admin".toList adminAccount })).s := by
  unfold preload_from_file
  dsimp only
  rw [he]

variable (file) in
/-- the maps are empty at first -/
theorem sound_initial {s' : ServerStartup} (h : s'.base.ObjectsKnown) :
    Loading.Sound file { s := s' } := by
  refine ⟨h, fun n v hv => ?_, fun n a ha => ?_⟩
  · rw [Std.ExtTreeMap.getElem?_empty] at hv
    cases hv
  · rw [Std.ExtTreeMap.getElem?_empty] at ha
    cases ha

theorem Loading.Sound.withAdmin {p : Loading} (h : p.Sound file) {adminAccount : AccId}
    (ha : IsAdmin adminAccount p.s.base) :
    Loading.Sound file { p with accountsByName := p.accountsByName.insert "admin".toList adminAccount } where
  known := h.known
  server := h.server
  account n a hn := by
    rw [lookup_insert] at hn
    split at hn
    · rename_i hadmin
      rw [hadmin, ← Option.some.inj hn]
      exact ⟨Or.inl rfl, ha⟩
    · exact h.account n a hn

theorem foldl_allTables_grows {α : Type} {f : Loading → α → Loading}
    (hf : ∀ (p : Loading) x, p.s.allTables.Grows (f p x).s.allTables) (l : List α) (p : Loading) :
    p.s.allTables.Grows (l.foldl f p).s.allTables :=
  foldl_invariant (I := fun q : Loading => p.s.allTables.Grows q.s.allTables)
    (fun q x _ hq => hq.trans (hf q x)) (AllTables.Grows.refl _)

/-- **One start.**  What the file asks for is there, and the members of the channels whose servers are in
the file are joined. -/
theorem start_asked {d : AllTables} (hf : (Startup.ofTables d.tables).FreshRows env.toStartupEnv)
    (hplain : file.Unmarked) :
    Asked file (d.start env (some file)) ∧
      ∀ c ∈ file.channels, c.server ∈ file.servers → ChannelJoined file c (d.start env (some file)) := by
  have hopened := admin_opened env d
  obtain ⟨hfresh, hsome⟩ := hopened.fresh hf
  rcases he : (ofAllTables d).account_get_or_create env (ascii "admin") (ascii "admin") with ⟨a?, s'⟩
  rw [he] at hopened hfresh hsome
  obtain ⟨adminAccount, rfl⟩ := Option.isSome_iff_exists.mp hsome
  have hstart : d.start env (some file) = _ :=
    congrArg ServerStartup.allTables (preload_from_file_some file he)
  rw [hstart]
  obtain ⟨hservers, hsound, hfresh, hadmin⟩ := preload_servers_made hplain
    (sound_initial file hopened.known) hfresh (hopened.account adminAccount rfl)
  generalize file.servers.foldl (preload_server env adminAccount) { s := s' } = p at *
  obtain ⟨husers, hloop⟩ := preload_users_made
    (p := { p with accountsByName := p.accountsByName.insert "admin".toList adminAccount }) hplain
    ⟨hsound.withAdmin hadmin, hfresh, fun n hn => (hservers n hn).1, by
      dsimp only
      rw [lookup_insert, if_pos rfl]
      rfl⟩
  have hgrows : p.s.allTables.Grows (file.users.foldl (preload_user env)
      { p with accountsByName := p.accountsByName.insert "admin".toList adminAccount }).s.allTables :=
    foldl_allTables_grows preload_user_grows file.users
      { p with accountsByName := p.accountsByName.insert "admin".toList adminAccount }
  generalize file.users.foldl (preload_user env)
    { p with accountsByName := p.accountsByName.insert "admin".toList adminAccount } = q at *
  have hchannels := preload_channels_made (p := q) ⟨hloop.sound, hloop.fresh, hloop.servers, by
    rintro n (rfl | ⟨user, huser, rfl⟩)
    · exact hloop.admin
    · exact (husers user huser).1⟩
  have hgrows' : q.s.allTables.Grows (file.channels.foldl (preload_channel env) q).s.allTables :=
    foldl_allTables_grows (preload_channel_grows env) _ _
  refine ⟨⟨?_, fun name hname => ?_, fun user huser => ?_, fun c hc hserver => ?_⟩,
    fun c hc hserver => (hchannels c hc hserver).2⟩
  · exact ⟨_, (hgrows.trans hgrows').tables.accountId hadmin.2⟩
  · exact (hservers name hname).2.grows (hgrows.trans hgrows')
  · exact (husers user huser).2.grows hgrows'
  · exact (hchannels c hc hserver).1

/-! ## a start after another -/

variable (env) in
/-- only members of channels are added -/
theorem preload_channel_tables {p : Loading} (h : p.Sound file) {c : Startup.PreloadChannel}
    (hasked : ChannelAsked file c p.s.allTables) :
    (preload_channel env p c).s.base.tables.servers = p.s.base.tables.servers ∧
      (preload_channel env p c).s.base.tables.channels = p.s.base.tables.channels := by
  obtain ⟨hsame, -⟩ := channel_get_or_create_same env h hasked
  rcases he : p.s.channel_get_or_create env (toUtf8 c.name) (toUtf8 c.topic)
    p.accountsByName[c.owner]? p.serversByName[c.server]? with ⟨ch?, s'⟩
  rw [he] at hsame
  cases ch? with
  | none =>
    rw [preload_channel_none he, ← hsame]
    exact ⟨rfl, rfl⟩
  | some ch =>
    have hjoins := preload_members_joins p.accountsByName p.serversByName[c.server]? ch c.members
      (list_channel p.serversByName[c.server]? ch s')
    rw [(list_channel_allTables _ ch).2] at hjoins
    rw [preload_channel_some he, ← hsame]
    exact ⟨hjoins.servers.rows, hjoins.channels⟩

/-- what the loops of a later start need and keep, with the database at first -/
structure LaterLoop (file : Preload) (d : AllTables) (p : Loading) : Prop where
  sound : p.Sound file
  users : ∀ n, file.HasUser n → (p.accountsByName[n]?).isSome = true
  grows : d.Grows p.s.allTables
  servers : p.s.base.tables.servers = d.tables.servers
  channels : p.s.base.tables.channels = d.tables.channels

theorem LaterLoop.step {d : AllTables} (hd : Asked file d) {p : Loading} (h : LaterLoop file d p)
    {c : Startup.PreloadChannel} (hc : c ∈ file.channels) :
    LaterLoop file d (preload_channel env p c) := by
  obtain ⟨hsound, -, haccounts, -⟩ := preload_channel_sound env h.sound c
  obtain ⟨hservers, hchannels⟩ :=
    preload_channel_tables env h.sound ((hd.channel c hc).grows h.grows)
  refine ⟨hsound, ?_, h.grows.trans (preload_channel_grows _ _ _), hservers.trans h.servers,
    hchannels.trans h.channels⟩
  rw [haccounts]
  exact h.users

theorem channelId_congr {t t' : Tables} (h : t'.channels = t.channels) (n : Bytes) :
    t'.channelId n = t.channelId n := by
  unfold Tables.channelId
  rw [h]

variable (env) in
/-- the members of all channels that are there are joined -/
theorem preload_channels_joined {d : AllTables} (hd : Asked file d) {p : Loading}
    (h : LaterLoop file d p) :
    (∀ c ∈ file.channels,
        ChannelJoined file c (file.channels.foldl (preload_channel env) p).s.allTables) ∧
      LaterLoop file d (file.channels.foldl (preload_channel env) p) := by
  have hstep (q : Loading) (c : Startup.PreloadChannel) (hc : c ∈ file.channels)
      (hq : LaterLoop file d q) : LaterLoop file d (preload_channel env q c) := hq.step hd hc
  refine ⟨foldl_makes (R := fun c q => ChannelJoined file c q.s.allTables) hstep (fun q c hc hq => ?_)
    (fun q c other hother hq hjoined => ?_) h, foldl_invariant hstep h⟩
  · obtain ⟨-, hsome | hnone⟩ :=
      channel_get_or_create_same env hq.sound ((hd.channel c hc).grows hq.grows)
    · exact preload_channel_joined hq.sound hq.users c hsome
    · intro id hid
      have hsame := channelId_congr ((hstep q c hc hq).channels.trans hq.channels.symm) (toUtf8 c.name)
      rw [hnone] at hsame
      cases hid.symm.trans hsame
  · have hsame := channelId_congr ((hstep q other hother hq).channels.trans hq.channels.symm)
      (toUtf8 c.name)
    intro id hid
    exact hjoined.grows (preload_channel_grows _ _ _) ⟨id, hsame.symm.trans hid⟩ id hid

variable (env) in
/-- the loop over the servers finds everything -/
theorem preload_servers_again {d : AllTables} (hd : Asked file d) (hserved : Served d)
    (hplain : file.Unmarked) {adminAccount : AccId} {p : Loading} (h : p.Sound file)
    (ha : IsAdmin adminAccount p.s.base) (hall : p.s.allTables = d) :
    (file.servers.foldl (preload_server env adminAccount) p).s.allTables = d ∧
      Loading.Sound file (file.servers.foldl (preload_server env adminAccount) p) ∧
      IsAdmin adminAccount (file.servers.foldl (preload_server env adminAccount) p).s.base := by
  have hstep (q : Loading) (name : QString) (hname : name ∈ file.servers)
      (hq : q.Sound file ∧ IsAdmin adminAccount q.s.base) :
      (preload_server env adminAccount q name).Sound file ∧
        IsAdmin adminAccount (preload_server env adminAccount q name).s.base := by
    obtain ⟨hsound, hlater⟩ := preload_server_sound env hq.1 adminAccount hname
      (hplain.server _ hname)
    exact ⟨hsound, hq.2.later hlater⟩
  refine ⟨?_, foldl_invariant hstep ⟨h, ha⟩⟩
  rw [← hall] at hd hserved ⊢
  exact foldl_leaves (v := fun q : Loading => q.s.allTables)
    (R := fun name d => ServerAsked name d ∧ Served d) hstep
    (fun q name _ hq hname => preload_server_same hq.1 hq.2 hname.1 hname.2) ⟨h, ha⟩
    fun name hname => ⟨hd.server name hname, hserved⟩

variable (env) in
/-- the loop over the users finds everything -/
theorem preload_users_again {d : AllTables} (hd : Asked file d) (hplain : file.Unmarked) {p : Loading}
    (h : p.Sound file) (hall : p.s.allTables = d)
    (hadmin : (p.accountsByName["admin".toList]?).isSome = true) :
    Loading.Sound file (file.users.foldl (preload_user env) p) ∧
      (file.users.foldl (preload_user env) p).s.allTables = d ∧
      ∀ n, file.HasUser n → ((file.users.foldl (preload_user env) p).accountsByName[n]?).isSome = true := by
  have hlisted (q : Loading) (user : PreloadUser) (huser : user ∈ file.users)
      (hq : q.Sound file ∧ q.s.allTables = d) (n : QString)
      (hn : n = user.name ∨ (q.accountsByName[n]?).isSome = true) :
      ((preload_user env q user).accountsByName[n]?).isSome = true := by
    have hopened := account_get_or_create_opened env hq.1.known (hplain.user _ huser)
      (toUtf8 user.password)
    obtain ⟨a, ha, -⟩ := hq.2.symm ▸ hd.user user huser
    exact preload_user_listed (hplain.user _ huser)
      (hopened.same (Option.isSome_iff_exists.mpr ⟨a, ha⟩)).1 n hn
  have hstep (q : Loading) (user : PreloadUser) (huser : user ∈ file.users)
      (hq : (q.Sound file ∧ q.s.allTables = d) ∧ (q.accountsByName["admin".toList]?).isSome = true) :
      ((preload_user env q user).Sound file ∧ (preload_user env q user).s.allTables = d) ∧
        ((preload_user env q user).accountsByName["admin".toList]?).isSome = true := by
    obtain ⟨hq, hqadmin⟩ := hq
    refine ⟨⟨(preload_user_sound hq.1 huser (hplain.user _ huser)).1, ?_⟩,
      hlisted q user huser hq _ (Or.inr hqadmin)⟩
    rw [preload_user_same hq.1 (hplain.user _ huser) (hq.2.symm ▸ hd.user user huser), hq.2]
  obtain ⟨⟨hsound, hsame⟩, hqadmin⟩ := foldl_invariant hstep ⟨⟨h, hall⟩, hadmin⟩
  have hall := foldl_makes (R := fun user (q : Loading) => (q.accountsByName[user.name]?).isSome = true)
    hstep (fun q user huser hq => hlisted q user huser hq.1 _ (Or.inl rfl))
    (fun q user other hother hq huser => hlisted q other hother hq.1 _ (Or.inr huser))
    ⟨⟨h, hall⟩, hadmin⟩
  refine ⟨hsound, hsame, ?_⟩
  rintro n (rfl | ⟨user, huser, rfl⟩)
  · exact hqadmin
  · exact hall user huser

/-- a start that finds everything but members of channels -/
theorem start_again (env : ServerEnv) {d : AllTables} (hd : Asked file d) (hserved : Served d)
    (hplain : file.Unmarked) :
    ∃ p, d.start env (some file) = (file.channels.foldl (preload_channel env) p).s.allTables ∧
      p.s.allTables = d ∧ LaterLoop file d p := by
  have hopened := admin_opened env d
  obtain ⟨id, hid⟩ := hd.admin
  obtain ⟨hsome, htables⟩ := hopened.same (Option.isSome_iff_exists.mpr ⟨id, hid⟩)
  have hall : ((ofAllTables d).account_get_or_create env (ascii "admin") (ascii "admin")).2.allTables =
      d := advance_same _ htables
  rcases he : (ofAllTables d).account_get_or_create env (ascii "admin") (ascii "admin") with ⟨a?, s'⟩
  rw [he] at hopened hsome hall
  obtain ⟨adminAccount, rfl⟩ := Option.isSome_iff_exists.mp hsome
  have hstart : d.start env (some file) = _ :=
    congrArg ServerStartup.allTables (preload_from_file_some file he)
  obtain ⟨hsame, hsound, hadmin⟩ := preload_servers_again env hd hserved hplain
    (sound_initial file hopened.known) (hopened.account adminAccount rfl) hall
  obtain ⟨husound, husame, husers⟩ := preload_users_again env hd hplain
    (hsound.withAdmin hadmin) hsame (by
      dsimp only
      rw [lookup_insert, if_pos rfl]
      rfl)
  refine ⟨_, hstart, husame, husound, husers, ?_, ?_, ?_⟩
  · rw [husame]
    exact AllTables.Grows.refl d
  · exact congrArg (fun d => d.tables.servers) husame
  · exact congrArg (fun d => d.tables.channels) husame

/-- **A start that finds everything** changes nothing. -/
theorem start_fixed (env : ServerEnv) {d : AllTables} (hd : Asked file d) (hserved : Served d)
    (hjoins : Joins file d) (hplain : file.Unmarked) : d.start env (some file) = d := by
  obtain ⟨p, hstart, hall, hloop⟩ := start_again env hd hserved hplain
  rw [hstart]
  have hsame := foldl_leaves (f := preload_channel env) (v := fun q : Loading => q.s.allTables)
    (J := LaterLoop file d) (R := fun c e => ChannelAsked file c e ∧ ChannelJoined file c e)
    (l := file.channels) (fun q c hc hq => hq.step hd hc)
    (fun q c _ hq hc => preload_channel_same hq.sound c hc.1 hc.2) hloop
    (fun c hc => by
      rw [hall]
      exact ⟨hd.channel c hc, hjoins c hc⟩)
  exact hsame.trans hall

/-- a start that finds everything else joins the members of channels -/
theorem start_joins (env : ServerEnv) {d : AllTables} (hd : Asked file d) (hserved : Served d)
    (hplain : file.Unmarked) :
    Joins file (d.start env (some file)) ∧ Asked file (d.start env (some file)) ∧
      Served (d.start env (some file)) := by
  obtain ⟨p, hstart, -, hloop⟩ := start_again env hd hserved hplain
  rw [hstart]
  obtain ⟨hjoins, hlater⟩ := preload_channels_joined env hd hloop
  refine ⟨hjoins, hd.grows hlater.grows, fun row hrow => ?_⟩
  have hrow : row ∈ d.tables.servers := hlater.servers ▸ hrow
  exact ⟨(hserved row hrow).1, (hserved row hrow).2.grows hlater.grows⟩

end ServerStartup

/-! ## starting again -/

open ServerStartup

/-- `createUuid` makes uuids that differ, and that no row of the database has -/
structure ServerEnv.NewFor (env : ServerEnv) (d : AllTables) : Prop extends env.FreshFor d where
  rows : (Startup.ofTables d.tables).FreshRows env.toStartupEnv

theorem served_of_complete {d : AllTables} (h : Complete d) : Served d :=
  fun row hrow => ⟨h.server_id row hrow, h.everyone row hrow⟩

/-- **The second start.**  If every channel of the file is in a server of the file, a start after another
with the same file leaves the database as it is. -/
theorem restart {env : ServerEnv} {d : AllTables} {file : ServerStartup.Preload} (h : Complete d)
    (hnew : env.NewFor d) (hplain : file.Unmarked) (hservers : ∀ c ∈ file.channels, c.server ∈ file.servers)
    (env' : ServerEnv) :
    (d.start env (some file)).start env' (some file) = d.start env (some file) := by
  obtain ⟨hasked, hjoined⟩ := start_asked hnew.rows hplain
  have hserved := served_of_complete (start_complete hnew.toFreshFor h (some file))
  exact start_fixed env' hasked hserved (fun c hc => hjoined c hc (hservers c hc)) hplain

theorem newFor_empty : (countingEnv 0).NewFor AllTables.empty where
  not_null _ := Nat.succ_ne_zero _
  distinct _ _ h := Nat.add_left_cancel (Nat.add_right_cancel h)
  role _ := List.not_mem_nil
  permission _ := List.not_mem_nil
  rows := ⟨fun _ _ h => Nat.add_left_cancel (Nat.add_right_cancel h), fun _ _ => List.not_mem_nil,
    fun _ _ => List.not_mem_nil, fun _ _ => List.not_mem_nil⟩

theorem unmarked_oneServer : oneServer.Unmarked := by
  constructor <;> decide

theorem restart_oneServer :
    (AllTables.empty.start (countingEnv 0) (some oneServer)).start (countingEnv 100) (some oneServer) =
      AllTables.empty.start (countingEnv 0) (some oneServer) :=
  restart complete_empty newFor_empty unmarked_oneServer (fun _ h => absurd h List.not_mem_nil) _

/-- a channel without a server, and again with one -/
def twoEntries : ServerStartup.Preload :=
  ⟨["master".toList], [⟨⟨"bob".toList, "secret".toList⟩, "master".toList⟩],
    [⟨"#x".toList, "admin".toList, [], [], ["bob".toList]⟩,
      ⟨"#x".toList, "admin".toList, [], "master".toList, []⟩]⟩

/-- **The third start.**  Wherever the channels of the file are, a start after two others leaves the
database as it is. -/
theorem restart_twice {env : ServerEnv} {d : AllTables} {file : ServerStartup.Preload} (h : Complete d)
    (hnew : env.NewFor d) (hplain : file.Unmarked) (env' env'' : ServerEnv) :
    ((d.start env (some file)).start env' (some file)).start env'' (some file) =
      (d.start env (some file)).start env' (some file) := by
  obtain ⟨hasked, -⟩ := start_asked hnew.rows hplain
  have hserved := served_of_complete (start_complete hnew.toFreshFor h (some file))
  obtain ⟨hjoins, hasked', hserved'⟩ := start_joins env' hasked hserved hplain
  exact start_fixed env'' hasked' hserved' hjoins hplain

theorem unmarked_twoEntries : twoEntries.Unmarked := by
  constructor <;> decide

theorem restart_twice_twoEntries :
    ((AllTables.empty.start (countingEnv 0) (some twoEntries)).start (countingEnv 100)
        (some twoEntries)).start (countingEnv 200) (some twoEntries) =
      (AllTables.empty.start (countingEnv 0) (some twoEntries)).start (countingEnv 100)
        (some twoEntries) :=
  restart_twice complete_empty newFor_empty unmarked_twoEntries _ _

set_option maxRecDepth 10000 in
/-- its members join only at the second start -/
example : ((AllTables.empty.start (countingEnv 0) (some twoEntries)).start (countingEnv 100)
    (some twoEntries)).tables.account_channels.length = 1 ∧
      (AllTables.empty.start (countingEnv 0) (some twoEntries)).tables.account_channels = [] := by
  decide

end Chatripper
