import Mathlib
import Chatripper.Credentials
import Chatripper.Membership

/-!
# The server as it starts

`Ctx::Ctx` makes the preload file and the database into the objects that the server runs on.  The state
that it leaves is one from which a run may start: the registries hold an account for every row, the
channels list their members and the members their channels, and no client is there.

* `Reg.Populated`, `Startup.Settled`   what every function of the start-up keeps;
* `init_settled`           the initial load leaves it;
* `init_started`           the server starts from it.
-/

namespace Chatripper
open ByteStr Utf8

/-! ## the registries -/

namespace Tables
variable {t : Tables}

theorem accountId_of_mem {row : AccountRow} (hrow : row ∈ t.accounts) :
    t.accountId row.username = some row.id := by
  obtain ⟨r, hr⟩ : ∃ r, (t.accounts.find? fun r => r.username == row.username) = some r :=
    Option.isSome_iff_exists.mp (List.find?_isSome.mpr ⟨row, hrow, beq_self_eq_true _⟩)
  have hname : r.username = row.username := by simpa using List.find?_some hr
  rw [eq_of_username (List.mem_of_find?_eq_some hr) hrow hname] at hr
  exact Option.map_eq_some_iff.mpr ⟨row, hr, rfl⟩

end Tables

/-- the row that an account is made of -/
def AccReg.row (k : AccReg) : AccountRow := ⟨k.m_uid, k.m_name, k.m_password⟩

namespace Reg

/-- every account is made of a row, and is in the registries under its uid, its name and its nick; nobody
is connected -/
structure Populated (t : Tables) (r : Reg) : Prop where
  made : ∀ a, a ∈ r.accounts ↔ a < r.nextAcc
  row : ∀ a < r.nextAcc, (r.acc a).row ∈ t.accounts
  named : ∀ a < r.nextAcc, (r.acc a).m_name ≠ []
  nick_name : ∀ a < r.nextAcc, (r.acc a).m_nick = (r.acc a).m_name
  uuid : ∀ (u : Uuid) a, r.accounts_lookup_uuid[u]? = some a ↔ a < r.nextAcc ∧ (r.acc a).m_uid = u
  name : ∀ (n : Bytes) a, r.accounts_lookup_name[n]? = some a ↔ a < r.nextAcc ∧ (r.acc a).m_name = n
  nick : ∀ (n : Bytes) a, r.irc_nicks[n]? = some a ↔ a < r.nextAcc ∧ (r.acc a).m_name = n
  unlisted : ∀ a, (r.acc a).connections = []

/-- an account that is made of a row -/
def populate (id : Uuid) (username password : Bytes) (r : Reg) : Reg :=
  { r with
    acc := fun x => if x = r.nextAcc then ⟨id, username, username, password, []⟩ else r.acc x
    accounts := r.accounts.insert r.nextAcc
    accounts_lookup_uuid := r.accounts_lookup_uuid.insert id r.nextAcc
    accounts_lookup_name := r.accounts_lookup_name.insert username r.nextAcc
    irc_nicks := r.irc_nicks.insert username r.nextAcc
    nextAcc := r.nextAcc + 1 }

section
variable {t t' : Tables} {r : Reg}

theorem Populated.grow (h : Populated t r) (hg : t.Grows t') : Populated t' r :=
  { h with row := fun a ha => hg.accounts.subset (h.row a ha) }

/-- a registry whose keys are a field of the accounts, which the new account has alone -/
theorem insert_new {K : Type} [Ord K] [Std.TransOrd K] [Std.LawfulEqOrd K] [DecidableEq K] {m : QHash K AccId}
    {n : Nat} {f g : AccId → K} (hm : ∀ (k : K) a, m[k]? = some a ↔ a < n ∧ f a = k)
    (hold : ∀ a < n, g a = f a) (hnew : ∀ a < n, f a ≠ g n) (k : K) (a : AccId) :
    (m.insert (g n) n)[k]? = some a ↔ a < n + 1 ∧ g a = k := by
  rw [lookup_insert]
  by_cases hk : k = g n
  · rw [if_pos hk, Option.some_inj, hk]
    constructor
    · rintro rfl
      exact ⟨Nat.lt_succ_self _, rfl⟩
    · rintro ⟨hlt, hga⟩
      rcases Nat.lt_succ_iff_lt_or_eq.mp hlt with hlt | rfl
      · exact absurd ((hold a hlt).symm.trans hga) (hnew a hlt)
      · rfl
  · rw [if_neg hk, hm]
    constructor
    · rintro ⟨hlt, hfa⟩
      exact ⟨Nat.lt_succ_of_lt hlt, (hold a hlt).trans hfa⟩
    · rintro ⟨hlt, hga⟩
      rcases Nat.lt_succ_iff_lt_or_eq.mp hlt with hlt | rfl
      · exact ⟨hlt, (hold a hlt).symm.trans hga⟩
      · exact absurd hga.symm hk

theorem Populated.populate (h : Populated t r) {id : Uuid} {username password : Bytes}
    (hrow : ⟨id, username, password⟩ ∈ t.accounts) (hnew : r.accounts_lookup_name[username]? = none)
    (hname : username ≠ []) : Populated t (r.populate id username password) := by
  have hold {a : AccId} (ha : a < r.nextAcc) : (r.populate id username password).acc a = r.acc a :=
    if_neg (Nat.ne_of_lt ha)
  have hfresh : (r.populate id username password).acc r.nextAcc =
      ⟨id, username, username, password, []⟩ := if_pos rfl
  have hname_ne (a : AccId) (ha : a < r.nextAcc) : (r.acc a).m_name ≠ username := by
    intro he
    rw [(h.name username a).mpr ⟨ha, he⟩] at hnew
    cases hnew
  have hid_ne (a : AccId) (ha : a < r.nextAcc) : (r.acc a).m_uid ≠ id := by
    intro he
    have hsame : (r.acc a).row = ⟨id, username, password⟩ :=
      List.inj_on_of_nodup_map t.account_id (h.row a ha) hrow he
    exact hname_ne a ha (congrArg AccountRow.username hsame)
  have hkey {p : AccReg → Prop} (hp : ∀ a < r.nextAcc, p (r.acc a))
      (hpnew : p ⟨id, username, username, password, []⟩) :
      ∀ a < r.nextAcc + 1, p ((r.populate id username password).acc a) := by
    intro a ha
    rcases Nat.lt_succ_iff_lt_or_eq.mp ha with ha | rfl
    · rw [hold ha]
      exact hp a ha
    · rw [hfresh]
      exact hpnew
  have hnick := insert_new (f := fun a => (r.acc a).m_name)
    (g := fun a => ((r.populate id username password).acc a).m_name) h.nick
    (fun a ha => by rw [hold ha]) (fun a ha => by rw [hfresh]; exact hname_ne a ha)
  have hlookup := insert_new (f := fun a => (r.acc a).m_name)
    (g := fun a => ((r.populate id username password).acc a).m_name) h.name
    (fun a ha => by rw [hold ha]) (fun a ha => by rw [hfresh]; exact hname_ne a ha)
  have huuid := insert_new (f := fun a => (r.acc a).m_uid)
    (g := fun a => ((r.populate id username password).acc a).m_uid) h.uuid
    (fun a ha => by rw [hold ha]) (fun a ha => by rw [hfresh]; exact hid_ne a ha)
  rw [hfresh] at hnick hlookup huuid
  refine ⟨fun a => ?_, hkey (p := fun k => k.row ∈ t.accounts) h.row hrow,
    hkey (p := fun k => k.m_name ≠ []) h.named hname,
    hkey (p := fun k => k.m_nick = k.m_name) h.nick_name rfl, huuid, hlookup, hnick, fun a => ?_⟩
  · show a ∈ r.accounts.insert r.nextAcc ↔ a < r.nextAcc + 1
    rw [Std.ExtTreeSet.mem_insert, h.made, Nat.lt_succ_iff_lt_or_eq, Std.LawfulEqOrd.compare_eq_iff_eq,
      or_comm, eq_comm]
  · by_cases ha : a = r.nextAcc
    · rw [ha, hfresh]
    · exact (congrArg AccReg.connections (if_neg ha)).trans (h.unlisted a)

end

end Reg

/-- a new account in the registries -/
theorem Account.create_from_db_reg {w : World} {username : Bytes} (id : Uuid) (password : Bytes)
    (hnew : get_by_name w username = none) (hname : username ≠ []) :
    (create_from_db id username password w).2.reg = w.reg.populate id username password := by
  unfold create_from_db
  rw [hnew]
  ext1
  case acc =>
    funext x
    show (if x = w.nextAcc then _ else w.acc x : Account).reg = if x = w.nextAcc then _ else _
    by_cases hx : x = w.nextAcc
    · rw [if_pos hx, if_pos hx]
      rfl
    · rw [if_neg hx, if_neg hx]
      rfl
  case accounts_lookup_uuid =>
    show w.ctx.accounts_lookup_uuid.insert (if w.nextAcc = w.nextAcc then _ else _ : Account).m_uid _ = _
    rw [if_pos rfl]
    rfl
  case accounts_lookup_name =>
    show (if (if w.nextAcc = w.nextAcc then _ else _ : Account).m_name = [] then _ else
      w.ctx.accounts_lookup_name.insert (if w.nextAcc = w.nextAcc then _ else _ : Account).m_name _) = _
    rw [if_pos rfl, if_neg hname]
    rfl
  case irc_nicks =>
    show w.ctx.irc_nicks.insert (if (if w.nextAcc = w.nextAcc then _ else _ : Account).m_nick = [] then _
      else (if w.nextAcc = w.nextAcc then _ else _ : Account).m_nick) _ = _
    rw [if_pos rfl, if_neg hname]
    rfl
  all_goals rfl

/-- a new account is in no channel -/
theorem Account.create_from_db_rooms {w : World} {username : Bytes} (id : Uuid) (password : Bytes)
    (hnew : get_by_name w username = none) :
    (create_from_db id username password w).2.rooms = w.rooms.newAcc w.nextAcc := by
  unfold create_from_db
  rw [hnew]
  ext1
  case listed =>
    funext x
    show (if x = w.nextAcc then _ else w.acc x : Account).channels = _
    by_cases hx : x = w.nextAcc
    · rw [if_pos hx]
      exact (if_pos hx).symm
    · rw [if_neg hx]
      exact (if_neg hx).symm
  all_goals rfl

namespace Startup
variable {env : StartupEnv} {s s' : Startup}

/-! ## what the start-up keeps -/

/-- the accounts are those of the rows, and the members of the channels have them in their lists -/
structure Settled (s : Startup) : Prop where
  populated : s.w.reg.Populated s.tables
  usernames : ∀ row ∈ s.tables.accounts, row.username ≠ []
  names : (s.tables.channels.map ChannelRow.name).Nodup
  keyed : s.w.rooms.Keyed
  agree : s.w.rooms.Agree
  distinct : ∀ ch, (s.w.chan ch).m_members.Nodup
  members : ∀ ch, ∀ a ∈ (s.w.chan ch).m_members, a < s.w.nextAcc

/-- rows are added, and the objects stay -/
theorem Settled.rows (h : s.Settled) (hw : s'.w = s.w) (hg : s.tables.Grows s'.tables)
    (husernames : ∀ row ∈ s'.tables.accounts, row.username ≠ [])
    (hnames : (s'.tables.channels.map ChannelRow.name).Nodup) : s'.Settled := by
  refine ⟨?_, husernames, hnames, ?_, ?_, ?_, ?_⟩ <;> rw [hw]
  exacts [h.populated.grow hg, h.keyed, h.agree, h.distinct, h.members]

/-- an account is made of a row -/
theorem Settled.account (h : s.Settled) {id : Uuid} {username password : Bytes}
    (hrow : ⟨id, username, password⟩ ∈ s.tables.accounts) (hname : username ≠ []) :
    Settled { s with w := (Account.create_from_db id username password s.w).2 } := by
  cases hnew : Account.get_by_name s.w username with
  | some a =>
    rw [Account.create_from_db_cached hnew]
    exact h
  | none =>
    have hreg := Account.create_from_db_reg id password hnew hname
    have hrooms := Account.create_from_db_rooms id password hnew
    have hpopulated : (Account.create_from_db id username password s.w).2.reg.Populated s.tables := by
      rw [hreg]
      exact h.populated.populate hrow hnew hname
    have hchan : (Account.create_from_db id username password s.w).2.chan = s.w.chan := by
      unfold Account.create_from_db
      rw [hnew]
      rfl
    have hnext : (Account.create_from_db id username password s.w).2.nextAcc = s.w.nextAcc + 1 :=
      congrArg Reg.nextAcc hreg
    refine ⟨hpopulated, h.usernames, h.names, ?_, ?_, ?_, ?_⟩
    · rw [hrooms]
      exact h.keyed.newAcc
    · rw [hrooms]
      exact h.agree.newAcc fun ch hmem => Nat.lt_irrefl _ (h.members ch _ hmem)
    · rw [hchan]
      exact h.distinct
    · intro ch a ha
      rw [hchan] at ha
      rw [hnext]
      exact Nat.lt_succ_of_lt (h.members ch a ha)

theorem account_of_row_settled (h : s.Settled) {row : AccountRow} (hrow : row ∈ s.tables.accounts) :
    (s.account_of_row row).2.Settled :=
  h.account hrow (h.usernames row hrow)

/-- the rooms with a new channel -/
theorem channel_create_from_db_rooms (id : Uuid) {name : Bytes} (topic : Bytes) (owner : Option AccId)
    (server : Option SrvId) (hnew : s.w.ctx.channels[name]? = none) :
    (s.channel_create_from_db id name topic owner server).2.w.rooms = s.w.rooms.create name := by
  unfold channel_create_from_db
  rw [hnew]
  ext1
  case name =>
    funext x
    show (if x = s.w.nextChan then _ else s.w.chan x : Channel).m_name = if x = s.w.nextChan then _ else _
    by_cases hx : x = s.w.nextChan
    · rw [if_pos hx, if_pos hx]
    · rw [if_neg hx, if_neg hx]
      rfl
  case members =>
    funext x
    show (if x = s.w.nextChan then _ else s.w.chan x : Channel).m_members =
      if x = s.w.nextChan then _ else _
    by_cases hx : x = s.w.nextChan
    · rw [if_pos hx, if_pos hx]
    · rw [if_neg hx, if_neg hx]
      rfl
  case index =>
    funext x
    exact lookup_insert _ _ _ _
  all_goals rfl

/-- making a channel changes no account -/
theorem channel_create_from_db_reg (id : Uuid) (name topic : Bytes) (owner : Option AccId)
    (server : Option SrvId) :
    (s.channel_create_from_db id name topic owner server).2.w.reg = s.w.reg ∧
      (s.channel_create_from_db id name topic owner server).2.tables = s.tables := by
  unfold channel_create_from_db
  split <;> exact ⟨rfl, rfl⟩

theorem Settled.channel (h : s.Settled) (id : Uuid) (name topic : Bytes) (owner : Option AccId)
    (server : Option SrvId) : (s.channel_create_from_db id name topic owner server).2.Settled := by
  cases hnew : s.w.ctx.channels[name]? with
  | some ch =>
    rw [channel_create_from_db_cached hnew]
    exact h
  | none =>
    obtain ⟨hreg, htables⟩ := channel_create_from_db_reg (s := s) id name topic owner server
    have hrooms := channel_create_from_db_rooms id topic owner server hnew
    have hmembers (ch : ChanId) :
        ((s.channel_create_from_db id name topic owner server).2.w.chan ch).m_members =
          if ch = s.w.nextChan then [] else (s.w.chan ch).m_members :=
      congrFun (congrArg (fun R : Rooms => R.members) hrooms) ch
    refine ⟨?_, ?_, ?_, ?_, ?_, fun ch => ?_, fun ch a ha => ?_⟩
    · rw [hreg, htables]
      exact h.populated
    · rw [htables]
      exact h.usernames
    · rw [htables]
      exact h.names
    · rw [hrooms]
      exact h.keyed.create hnew
    · rw [hrooms]
      exact h.agree.create h.keyed
    · rw [hmembers]
      split
      · exact List.nodup_nil
      · exact h.distinct ch
    · rw [hmembers] at ha
      have hnext : (s.channel_create_from_db id name topic owner server).2.w.nextAcc = s.w.nextAcc :=
        congrArg Reg.nextAcc hreg
      rw [hnext]
      split at ha
      · cases ha
      · exact h.members ch a ha

/-! ## the preload file -/

/-- the name that a row has is the one that is asked for, which is not empty -/
structure Nameable (username : Bytes) : Prop where
  plain : toUtf8 (fromUtf8 username) = username
  ne_nil : username ≠ []

variable (env) in
theorem account_get_or_create_settled (h : s.Settled) {username : Bytes} (hname : Nameable username)
    (password : Bytes) : (s.account_get_or_create env username password).2.Settled := by
  unfold account_get_or_create
  rw [hname.plain]
  split
  · exact h
  · cases hrow : s.tables.accounts.find? fun r => r.username == username with
    | some row => exact account_of_row_settled h (List.mem_of_find?_eq_some hrow)
    | none =>
      dsimp only [createUuid]
      split
      · rename_i hfits
        have hadded : Settled { s with made := s.made + 1, tables := s.tables.addAccount _ hfits } :=
          h.rows rfl (Tables.grows_addAccount _ hfits) (forall_mem_concat h.usernames hname.ne_nil) h.names
        exact hadded.account (List.mem_append_right _ List.mem_cons_self) hname.ne_nil
      · exact h.rows rfl (Tables.Grows.refl _) h.usernames h.names

variable (env) in
theorem server_get_or_create_settled (h : s.Settled) (name : Bytes) (owner : AccId) :
    (s.server_get_or_create env name owner).2.Settled := by
  obtain ⟨hw, haccounts, hchannels⟩ := server_get_or_create_rest env (s := s) name owner
  refine h.rows hw (server_get_or_create_grows env name owner) ?_ ?_
  · rw [haccounts]
    exact h.usernames
  · rw [hchannels]
    exact h.names

variable (env) in
theorem channel_get_or_create_settled (h : s.Settled) (name topic : Bytes) (owner : Option AccId)
    (server : Option SrvId) : (s.channel_get_or_create env name topic owner server).2.Settled := by
  unfold channel_get_or_create
  split
  · exact h
  · cases hrow : s.tables.channels.find? fun r => r.name == name with
    | some row => exact h.channel _ _ _ _ _
    | none =>
      cases server with
      | none => exact h
      | some v =>
        dsimp only [createUuid]
        by_cases hfits : s.tables.AdmitsChannel
            { id := env.createUuid s.made, server_id := (s.server v).m_uid, name, topic := some topic
              account_owner_id := owner.map fun a => (s.w.acc a).m_uid }
        · have hnew : name ∉ s.tables.channels.map ChannelRow.name := by
            intro hused
            obtain ⟨row, hmem, hrn⟩ := List.mem_map.mp hused
            have hnone := List.find?_eq_none.mp hrow row hmem
            simp [hrn] at hnone
          have hadded : Settled { s with made := s.made + 1, tables := s.tables.addChannel _ hfits } :=
            h.rows rfl (Tables.grows_addChannel _ hfits) h.usernames (nodup_map_concat h.names hnew)
          rw [dif_pos hfits]
          exact hadded.channel _ _ _ _ _
        · rw [dif_neg hfits]
          exact h.rows rfl (Tables.Grows.refl _) h.usernames h.names

theorem channel_add_member_settled (h : s.Settled) (account_id channel_id : Uuid) :
    (s.channel_add_member account_id channel_id).Settled := by
  have hjoins := channel_add_member_joins (s := s) account_id channel_id
  refine h.rows hjoins.w hjoins.grows ?_ ?_
  · rw [hjoins.accounts]
    exact h.usernames
  · rw [hjoins.channels]
    exact h.names

/-- every user of the file has a name, without a byte-order mark before it -/
def Preload.Named (file : Preload) : Prop :=
  ∀ user ∈ file.users, user.name ≠ [] ∧ user.name.head? ≠ some bom

theorem nameable_of_text {n : QString} (hne : n ≠ []) (hplain : n.head? ≠ some bom) :
    Nameable (toUtf8 n) :=
  ⟨congrArg toUtf8 (fromUtf8_toUtf8.mpr hplain), fun h => hne (toUtf8_eq_nil.mp h)⟩

variable (env) in
theorem preload_server_settled (adminAccount : AccId) {p : Loading} (h : p.s.Settled) (name : QString) :
    (preload_server env adminAccount p name).s.Settled := by
  have hs := server_get_or_create_settled env h (toUtf8 name) adminAccount
  unfold preload_server
  dsimp only
  generalize p.s.server_get_or_create env (toUtf8 name) adminAccount = r at hs
  obtain ⟨v?, s'⟩ := r
  cases v? <;> exact hs

variable (env) in
theorem preload_user_settled {p : Loading} (h : p.s.Settled) {user : PreloadUser}
    (hname : Nameable (toUtf8 user.name)) : (preload_user env p user).s.Settled := by
  have hs := account_get_or_create_settled env h hname (toUtf8 user.password)
  unfold preload_user
  dsimp only
  generalize p.s.account_get_or_create env (toUtf8 user.name) (toUtf8 user.password) = r at hs
  obtain ⟨a?, s'⟩ := r
  cases a? <;> exact hs

variable (env) in
theorem preload_channel_settled {p : Loading} (h : p.s.Settled) (channel : PreloadChannel) :
    (preload_channel env p channel).s.Settled := by
  unfold preload_channel
  dsimp only
  have hs := channel_get_or_create_settled env h (toUtf8 channel.name) (toUtf8 channel.topic)
    p.accountsByName[channel.owner]? p.serversByName[channel.server]?
  generalize p.s.channel_get_or_create env (toUtf8 channel.name) (toUtf8 channel.topic)
    p.accountsByName[channel.owner]? p.serversByName[channel.server]? = r at hs
  obtain ⟨ch?, s'⟩ := r
  cases ch? with
  | none => exact hs
  | some ch =>
    refine foldl_invariant (I := Settled) (fun s m _ hs => ?_) hs
    unfold preload_member
    split
    · exact hs
    · exact channel_add_member_settled hs _ _

theorem nameable_admin : Nameable (ascii "admin") := by
  constructor <;> decide

variable (env) in
/-- the preload file -/
theorem preload_from_file_settled (h : s.Settled) {file : Option Preload}
    (hfile : ∀ root ∈ file, root.Named) : (s.preload_from_file env file).Settled := by
  cases file with
  | none => exact h
  | some root =>
    have hadmin := account_get_or_create_settled env h nameable_admin (ascii "admin")
    unfold preload_from_file
    dsimp only
    generalize s.account_get_or_create env (ascii "admin") (ascii "admin") = r at hadmin
    obtain ⟨a?, s'⟩ := r
    cases a? with
    | none => exact hadmin
    | some admin =>
      have hservers := foldl_invariant (I := fun p : Loading => p.s.Settled) (l := root.servers)
        (fun p name _ hp => preload_server_settled env admin hp name) (s := { s := s' }) hadmin
      dsimp only
      refine foldl_invariant (I := fun p : Loading => p.s.Settled)
        (fun p channel _ hp => preload_channel_settled env hp channel) ?_
      refine foldl_invariant (I := fun p : Loading => p.s.Settled) (fun p user hu hp => ?_) hservers
      obtain ⟨hne, hplain⟩ := hfile root rfl user hu
      exact preload_user_settled env hp (nameable_of_text hne hplain)

/-! ## the initial load -/

/-- accounts become members of a channel that none of them is in -/
theorem addMembers_settled (h : s.Settled) {ch : ChanId}
    (hch : s.w.ctx.channels[(s.w.chan ch).m_name]? = some ch) {accounts : List AccId}
    (hdistinct : ((s.w.chan ch).m_members ++ accounts).Nodup) (hlt : ∀ a ∈ accounts, a < s.w.nextAcc) :
    (s.addMembers ch accounts).Settled := by
  induction accounts generalizing s with
  | nil => exact h
  | cons acc accounts ih =>
    obtain ⟨hacc, htail⟩ := List.forall_mem_cons.mp hlt
    have hrooms : (s.addMembers ch [acc]).w.rooms =
        { s.w.rooms with toHalls := s.w.rooms.toHalls.enlist ch acc } := Channel.rooms_enlist ch acc s.w
    have hreg : (s.addMembers ch [acc]).w.reg = s.w.reg := (World.reg_updAcc (f := fun a =>
      { a with channels := a.channels.insert (s.w.chan ch).m_name s.w.ctx.channels[(s.w.chan ch).m_name]? })
      (s.w.updChan ch _) rfl).trans (World.reg_updChan _ _ _)
    have hmembers (x : ChanId) : ((s.addMembers ch [acc]).w.chan x).m_members =
        if x = ch then (s.w.chan ch).m_members ++ [acc] else (s.w.chan x).m_members :=
      congrFun (congrArg (fun R : Rooms => R.members) hrooms) x
    have hname (x : ChanId) : ((s.addMembers ch [acc]).w.chan x).m_name = (s.w.chan x).m_name :=
      congrFun (congrArg (fun R : Rooms => R.name) hrooms) x
    have hone : ((s.w.chan ch).m_members ++ [acc]).Nodup := by
      refine hdistinct.sublist (List.Sublist.append_left ?_ _)
      simp
    have hstep : (s.addMembers ch [acc]).Settled := by
      refine ⟨?_, h.usernames, h.names, ?_, ?_, fun x => ?_, fun x a ha => ?_⟩
      · rw [hreg]
        exact h.populated
      · rw [hrooms]
        exact h.keyed.enlist hch
      · rw [hrooms]
        exact h.agree.enlist h.keyed hch
      · rw [hmembers]
        split
        · exact hone
        · exact h.distinct x
      · rw [hmembers] at ha
        show a < s.w.nextAcc
        split at ha
        · rcases List.mem_append.mp ha with ha | ha
          · exact h.members ch a ha
          · rw [List.mem_singleton.mp ha]
            exact hacc
        · exact h.members x a ha
    refine ih hstep ?_ ?_ htail
    · rw [hname]
      exact hch
    · rw [hmembers, if_pos rfl, List.append_assoc]
      exact hdistinct

/-- an account that is cached for the name of a row has the id of the row -/
theorem Settled.resolved (h : s.Settled) {row : AccountRow} (hrow : row ∈ s.tables.accounts) :
    s.resolved row = row.id := by
  unfold Startup.resolved World.nameUid
  cases ha : Account.get_by_name s.w row.username with
  | none => rfl
  | some a =>
    obtain ⟨hlt, hname⟩ := (h.populated.name _ _).mp ha
    exact congrArg AccountRow.id (Tables.eq_of_username (h.populated.row a hlt) hrow hname)

theorem Settled.cached (h : s.Settled) : s.w.Cached :=
  ⟨fun n a ha => ((h.populated.name n a).mp ha).1, fun u a ha => (h.populated.uuid u a).mp ha⟩

theorem append_accounts_settled (h : s.Settled) {rows : List AccountRow}
    (hrows : ∀ r ∈ rows, r ∈ s.tables.accounts) (l : List AccId) :
    (rows.foldl append_account (l, s)).2.Settled := by
  have hboth := foldl_invariant (I := fun p : List AccId × Startup => p.2.Settled ∧ p.2.tables = s.tables)
    (f := append_account) (l := rows) (s := (l, s)) (fun p row hrow hp => ?_) ⟨h, rfl⟩
  · exact hboth.1
  · refine ⟨account_of_row_settled hp.1 ?_, hp.2⟩
    rw [hp.2]
    exact hrows row hrow

/-- the members that are loaded for a channel -/
theorem channel_get_members_settled (h : s.Settled) (channel_id : Uuid) :
    ∃ l s', s.channel_get_members channel_id = (l, s') ∧ s'.Settled ∧ s.Grown s' ∧ l.Nodup ∧
      ∀ a ∈ l, a < s'.w.nextAcc := by
  obtain ⟨l, s', he, hgrown, hlt, huids⟩ := channel_get_members_spec h.cached channel_id
  refine ⟨l, s', he, ?_, hgrown, List.Nodup.of_map (fun a => (s'.w.acc a).m_uid) ?_, hlt⟩
  · have hs : (s.channel_get_members channel_id).2.Settled := by
      unfold channel_get_members
      split
      · exact h
      · exact append_accounts_settled h (fun r hr => Tables.mem_members hr) []
    rw [he] at hs
    exact hs
  · rw [huids]
    split
    · exact List.nodup_nil
    · have hids : (s.tables.members channel_id).map s.resolved = s.tables.joined channel_id := by
        rw [← Tables.members_id]
        exact List.map_congr_left fun r hr => h.resolved (Tables.mem_members hr)
      rw [hids]
      refine (List.nodup_map_iff_inj_on (s.tables.joined_once.filter _)).mpr fun x hx y hy hxy => ?_
      have hxc : x.channel_id = channel_id := by simpa using (List.mem_filter.mp hx).2
      have hyc : y.channel_id = channel_id := by simpa using (List.mem_filter.mp hy).2
      obtain ⟨xa, xc⟩ := x
      obtain ⟨ya, yc⟩ := y
      dsimp only at hxy hxc hyc
      rw [hxy, hxc, hyc]

/-- the channel is under its name already -/
theorem mapWorld_insert_same {ch : ChanId} (hch : s.w.ctx.channels[(s.w.chan ch).m_name]? = some ch) :
    (s.mapWorld fun w => w.updCtx fun x =>
      { x with channels := x.channels.insert (w.chan ch).m_name ch }) = s := by
  have hins : s.w.ctx.channels.insert (s.w.chan ch).m_name ch = s.w.ctx.channels := by
    apply Std.ExtTreeMap.ext_getElem?
    intro n
    rw [lookup_insert]
    split
    · rename_i hn
      rw [hn, hch]
    · rfl
  show { s with w := { s.w with ctx := { s.w.ctx with
    channels := s.w.ctx.channels.insert (s.w.chan ch).m_name ch } } } = s
  rw [hins]

/-- a round of the loop over the channels, for a channel that nothing was loaded for -/
theorem loadMembers_settled (h : s.Settled) {ch : ChanId}
    (hch : s.w.ctx.channels[(s.w.chan ch).m_name]? = some ch) (hempty : (s.w.chan ch).m_members = []) :
    (s.loadMembers ch).Settled := by
  obtain ⟨l, s', he, hs', hgrown, hnodup, hlt⟩ := channel_get_members_settled h (s.w.chan ch).uid
  unfold loadMembers
  rw [mapWorld_insert_same hch]
  dsimp only
  rw [he]
  refine addMembers_settled hs' ?_ ?_ hlt
  · rw [hgrown.world.channels, hgrown.world.chan]
    exact hch
  · rw [hgrown.world.chan, hempty]
    exact hnodup

/-- the loop over the channels, each of which is listed once -/
theorem loadMembers_run_settled {cs : List ChanId} (h : s.Settled)
    (hcs : ∀ c ∈ cs, s.w.ctx.channels[(s.w.chan c).m_name]? = some c)
    (hempty : ∀ c ∈ cs, (s.w.chan c).m_members = []) (hnodup : cs.Nodup) :
    (cs.foldl loadMembers s).Settled := by
  induction cs generalizing s with
  | nil => exact h
  | cons c cs ih =>
    obtain ⟨hc, htail⟩ := List.forall_mem_cons.mp hcs
    obtain ⟨hempty_c, hempty_tail⟩ := List.forall_mem_cons.mp hempty
    obtain ⟨hnot, hnodup⟩ := List.nodup_cons.mp hnodup
    obtain ⟨hkept, -, huids⟩ := loadMembers_spec h.cached h.members hc
    refine ih (loadMembers_settled h hc hempty_c) (fun x hx => ?_) (fun x hx => ?_) hnodup
    · rw [hkept.channels, hkept.chan_name]
      exact htail x hx
    · have hne : x ≠ c := fun he => hnot (he ▸ hx)
      have hsame : (s.loadMembers c).memberUids x = s.memberUids x := by rw [huids, if_neg hne]
      unfold memberUids at hsame
      rw [hempty_tail x hx] at hsame
      exact List.map_eq_nil_iff.mp hsame

theorem channel_get_all_settled (h : s.Settled) : s.channel_get_all.2.Settled := by
  unfold channel_get_all
  rw [Pages.foldPages_eq _ _ (by decide)]
  exact foldl_invariant (I := fun p : List ChanId × Startup => p.2.Settled)
    (fun p row _ hp => hp.channel _ _ _ _ _) h

/-- the objects of rows have the names of the rows, under which they are cached -/
theorem names_of_objects {rows : List ChannelRow} {l : List ChanId} (hkeyed : s.w.rooms.Keyed)
    (hall : List.Forall₂ (fun row c => s.w.ctx.channels[row.name]? = some c) rows l) :
    l.map (fun c => (s.w.chan c).m_name) = rows.map ChannelRow.name ∧
      ∀ c ∈ l, s.w.ctx.channels[(s.w.chan c).m_name]? = some c := by
  induction hall with
  | nil => exact ⟨rfl, fun c hc => (by cases hc)⟩
  | @cons row c rows l hrow _ ih =>
    have hname : (s.w.chan c).m_name = row.name := (hkeyed.index row.name c hrow).1
    rw [List.map_cons, List.map_cons, ih.1, hname]
    refine ⟨rfl, List.forall_mem_cons.mpr ⟨?_, ih.2⟩⟩
    rw [hname]
    exact hrow

/-- the initial load: the channels have their members, and the accounts are to be loaded -/
theorem load_settled {t0 : Tables} (h : s.Settled) (hpre : Preloaded t0 s) :
    ∃ s1 : Startup, s1.Settled ∧ s.load = s1.account_get_all.2 := by
  obtain ⟨l, s1, he, hopened, -, hall⟩ := channel_get_all_spec hpre.named
  have hs1 : s1.Settled := by
    have hsettled := channel_get_all_settled h
    rw [he] at hsettled
    exact hsettled
  obtain ⟨hnames, hlisted⟩ := names_of_objects hs1.keyed hall
  have hnodup : l.Nodup := by
    refine List.Nodup.of_map (fun c => (s1.w.chan c).m_name) ?_
    rw [hnames]
    exact h.names
  have hloaded := loadMembers_run_settled hs1 hlisted (fun c _ => hopened.unjoined hpre.unjoined c) hnodup
  refine ⟨_, hloaded, ?_⟩
  unfold load
  rw [he]

/-- nothing is in memory yet -/
theorem settled_ofTables {tables : Tables} (husernames : ∀ row ∈ tables.accounts, row.username ≠ [])
    (hnames : (tables.channels.map ChannelRow.name).Nodup) : (ofTables tables).Settled where
  populated :=
    { made := fun a => ⟨fun h => absurd h Std.ExtTreeSet.not_mem_empty, fun h => absurd h (Nat.not_lt_zero a)⟩
      row := fun a h => absurd h (Nat.not_lt_zero a)
      named := fun a h => absurd h (Nat.not_lt_zero a)
      nick_name := fun a h => absurd h (Nat.not_lt_zero a)
      uuid := fun u a => ⟨fun h => (by cases h), fun h => absurd h.1 (Nat.not_lt_zero a)⟩
      name := fun n a => ⟨fun h => (by cases h), fun h => absurd h.1 (Nat.not_lt_zero a)⟩
      nick := fun n a => ⟨fun h => (by cases h), fun h => absurd h.1 (Nat.not_lt_zero a)⟩
      unlisted := fun _ => rfl }
  usernames := husernames
  names := hnames
  keyed := ⟨fun n ch h => (by cases h), fun a n p h => (by cases h), fun c n ch h => (by cases h),
    fun ch a h => (by cases h)⟩
  agree := fun a ch => ⟨fun h => (by cases h), fun h => (by cases h)⟩
  distinct := fun _ => List.nodup_nil
  members := fun ch a h => (by cases h)

/-- the row is that of a cached account -/
def HasAccount (s : Startup) (row : AccountRow) : Prop :=
  ∃ a, Account.get_by_name s.w row.username = some a ∧ (s.w.acc a).reg.row = row

/-- an account that is cached for the name of a row is made of the row -/
theorem Settled.hasAccount (h : s.Settled) {row : AccountRow} (hrow : row ∈ s.tables.accounts) {a : AccId}
    (ha : Account.get_by_name s.w row.username = some a) : s.HasAccount row := by
  obtain ⟨hlt, hname⟩ := (h.populated.name _ _).mp ha
  exact ⟨a, ha, Tables.eq_of_username (h.populated.row a hlt) hrow hname⟩

theorem account_of_row_cached {row : AccountRow} (hname : row.username ≠ []) :
    ∃ a, Account.get_by_name (s.account_of_row row).2.w row.username = some a := by
  unfold account_of_row
  dsimp only
  cases hnew : Account.get_by_name s.w row.username with
  | some a =>
    rw [Account.create_from_db_cached hnew]
    exact ⟨a, hnew⟩
  | none =>
    obtain ⟨w', he, -, -, -, hnames, -⟩ := Account.create_from_db_new row.id row.password hnew
    rw [he]
    exact ⟨s.w.nextAcc, by rw [hnames, if_pos ⟨rfl, hname⟩]⟩

theorem account_get_all_settled (h : s.Settled) : s.account_get_all.2.Settled := by
  unfold account_get_all
  rw [Pages.foldPages_eq _ _ (by decide)]
  exact append_accounts_settled h (fun r hr => hr) []

/-- every row has its account when the accounts are loaded -/
theorem account_get_all_accounts (h : s.Settled) :
    ∀ row ∈ s.account_get_all.2.tables.accounts, s.account_get_all.2.HasAccount row := by
  have hsettled := account_get_all_settled h
  have htables : s.account_get_all.2.tables = s.tables := (account_get_all_grown h.cached).tables
  have hcached : ∀ row ∈ s.tables.accounts,
      ∃ a, Account.get_by_name s.account_get_all.2.w row.username = some a := by
    unfold account_get_all
    rw [Pages.foldPages_eq _ _ (by decide)]
    exact foldl_makes (f := append_account) (l := s.tables.accounts) (s := ([], s)) (I := fun _ => True)
      (R := fun row p => ∃ a, Account.get_by_name p.2.w row.username = some a) (fun _ _ _ _ => trivial)
      (fun p row hrow _ => account_of_row_cached (h.usernames row hrow))
      (fun p row other _ _ hmade => by
        obtain ⟨a, ha⟩ := hmade
        exact ⟨a, (append_account_keepsLogins p other).name _ a ha⟩) trivial
  intro row hrow
  obtain ⟨a, ha⟩ := hcached row (htables ▸ hrow)
  exact hsettled.hasAccount hrow ha

end Startup

/-! ## the server -/

open Startup

/-- every account has a name, and no two channels have the same -/
structure Tables.WellNamed (t : Tables) : Prop where
  usernames : ∀ row ∈ t.accounts, row.username ≠ []
  channels : (t.channels.map ChannelRow.name).Nodup

/-- the initial load -/
theorem init_settled (env : StartupEnv) {tables : Tables} {file : Option Preload}
    (htables : tables.WellNamed) (hfile : ∀ root ∈ file, root.Named) :
    (Ctx.init env tables file).Settled ∧
      ∀ row ∈ (Ctx.init env tables file).tables.accounts, (Ctx.init env tables file).HasAccount row := by
  obtain ⟨s1, hs1, he⟩ := load_settled
    (preload_from_file_settled env (settled_ofTables htables.usernames htables.channels) hfile)
    (preload_from_file_preloaded env tables file)
  unfold Ctx.init
  rw [he]
  exact ⟨account_get_all_settled hs1, account_get_all_accounts hs1⟩

/-- the server after `Ctx::Ctx`, which has loaded the modules and makes the uuids from `uuid` on -/
def Ctx.launch (env : StartupEnv) (tables : Tables) (file : Option Preload) (snakepit : SnakePit)
    (uuid : Uuid) : World :=
  { (Ctx.init env tables file).w with snakepit, nextUuid := uuid }

theorem Startup.Settled.loaded {s : Startup} (h : s.Settled) (hconn : ∀ c, s.w.conn c = {})
    (snakepit : SnakePit) {uuid : Uuid} (huuid : ∀ row ∈ s.tables.accounts, row.id < uuid) :
    Worker.Loaded { s.w with snakepit, nextUuid := uuid } := by
  have hp := h.populated
  have huid (a : AccId) (ha : a < s.w.nextAcc) : (s.w.acc a).m_uid < uuid := huuid _ (hp.row a ha)
  have hinj (a b : AccId) (ha : a < s.w.nextAcc) (hb : b < s.w.nextAcc)
      (he : (s.w.acc a).m_uid = (s.w.acc b).m_uid) : a = b := by
    have hsame := (hp.uuid (s.w.acc b).m_uid b).mpr ⟨hb, rfl⟩
    rw [(hp.uuid (s.w.acc b).m_uid a).mpr ⟨ha, he⟩] at hsame
    exact Option.some.inj hsame
  refine ⟨⟨fun c => ?_, fun c => ?_, hp.unlisted, fun u a hu => ?_⟩, hp.made, hp.named, huid, hinj,
    hp.uuid, hp.name, fun n a => ?_⟩
  · show (s.w.conn c).live = false
    rw [hconn]
  · show (s.w.conn c).is_ready = false ∧ (s.w.conn c).m_account = none
    rw [hconn]
    exact ⟨rfl, rfl⟩
  · obtain ⟨hlt, -⟩ := (hp.name u a).mp hu
    exact ⟨hlt, hp.named a hlt⟩
  · refine (hp.nick n a).trans (and_congr_right fun ha => ?_)
    show (s.w.acc a).m_name = n ↔ (s.w.acc a).m_nick = n
    rw [show (s.w.acc a).m_nick = (s.w.acc a).m_name from hp.nick_name a ha]

/-- **The server starts.**  If every account of the database and of the preload file has a name, and no two
channels have the same, then a run may start from what the initial load leaves: the registries are those of
the accounts, the channels list their members, each once, and the members their channels, and nobody is
connected.  Every row of the accounts has its account, and every account is made of a row. -/
theorem init_started (env : StartupEnv) {tables : Tables} {file : Option Preload}
    (htables : tables.WellNamed) (hfile : ∀ root ∈ file, root.Named) (snakepit : SnakePit) {uuid : Uuid}
    (huuid : ∀ row ∈ (Ctx.init env tables file).tables.accounts, row.id < uuid) :
    Worker.Started (Ctx.launch env tables file snakepit uuid) ∧
      (∀ row ∈ (Ctx.init env tables file).tables.accounts, (Ctx.init env tables file).HasAccount row) ∧
      ∀ a < (Ctx.init env tables file).w.nextAcc,
        ((Ctx.init env tables file).w.acc a).reg.row ∈ (Ctx.init env tables file).tables.accounts := by
  obtain ⟨h, haccounts⟩ := init_settled env htables hfile
  have hkeeps := init_keepsLogins env tables file
  have hconn (c : ConnId) : (Ctx.init env tables file).w.conn c = {} := congrFun hkeeps.conn c
  refine ⟨⟨h.loaded hconn snakepit huuid, h.keyed, h.members, h.distinct, h.agree, fun c => ?_, hkeeps.queue⟩,
    haccounts, h.populated.row⟩
  show ((Ctx.init env tables file).w.conn c).channels = ∅ ∧
    ((Ctx.init env tables file).w.conn c).channel_members = ∅
  rw [hconn]
  exact ⟨rfl, rfl⟩

/-- the administrator, his server, and a preload file that adds a user to a channel of it -/
def joinedFile : Preload :=
  ⟨["master".toList], [⟨"bob".toList, "secret".toList⟩],
    [⟨"#new".toList, "admin".toList, "topic".toList, "master".toList, ["bob".toList, "admin".toList]⟩]⟩

theorem wellNamed_oneChannel : oneChannel.WellNamed := by
  constructor <;> decide

theorem named_joinedFile : ∀ root ∈ some joinedFile, root.Named := by
  rintro root ⟨⟩ user hu
  obtain rfl : user = ⟨"bob".toList, "secret".toList⟩ := List.mem_singleton.mp hu
  constructor <;> decide

theorem init_tables (env : StartupEnv) (tables : Tables) (file : Option Preload) :
    (Ctx.init env tables file).tables = ((ofTables tables).preload_from_file env file).tables :=
  load_tables (preload_from_file_preloaded env tables file)

set_option maxRecDepth 10000 in
theorem init_started_joinedFile :
    Worker.Started (Ctx.launch ⟨fun n => n + 4, fun pw => pw⟩ oneChannel (some joinedFile) {} 100) ∧
      (∀ row ∈ (Ctx.init ⟨fun n => n + 4, fun pw => pw⟩ oneChannel (some joinedFile)).tables.accounts,
        (Ctx.init ⟨fun n => n + 4, fun pw => pw⟩ oneChannel (some joinedFile)).HasAccount row) ∧
      ∀ a < (Ctx.init ⟨fun n => n + 4, fun pw => pw⟩ oneChannel (some joinedFile)).w.nextAcc,
        ((Ctx.init ⟨fun n => n + 4, fun pw => pw⟩ oneChannel (some joinedFile)).w.acc a).reg.row ∈
          (Ctx.init ⟨fun n => n + 4, fun pw => pw⟩ oneChannel (some joinedFile)).tables.accounts :=
  init_started _ wellNamed_oneChannel named_joinedFile {} (by rw [init_tables]; decide)

end Chatripper
