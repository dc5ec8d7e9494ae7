import Mathlib
import Chatripper.Core.Loaders

/-!
# Restoring the channels

`Ctx::Ctx` loads the channels before the accounts, and servers only as far as the preload file has
them: an owner or a server that is not cached yet is a null pointer.

* `load_row`        what the initial load makes of a row;
* `preload_from_file_preloaded`   what the preload file leaves;
* `restored_iff`    when every channel is restored.
-/

namespace Chatripper
open ByteStr Utf8

namespace Startup
variable {s s' s'' : Startup} {t0 : Tables}

/-! ## what a row is restored as -/

/-- the uid of `accountOwner()` -/
def ownerUid (s : Startup) (ch : ChanId) : Option Uuid := (s.m_owner ch).map fun a => (s.w.acc a).m_uid

/-- the uid of `server()` -/
def serverUid (s : Startup) (ch : ChanId) : Option Uuid :=
  (s.m_server ch).map fun v => (s.server v).m_uid

/-- the channel of a row is there, with its topic, its members, its owner and its server -/
structure RestoredAs (s : Startup) (row : ChannelRow) (ch : ChanId) : Prop where
  present : s.w.ctx.channels[row.name]? = some ch
  uid : (s.w.chan ch).uid = row.id
  topic : (s.w.chan ch).m_topic = row.topic.getD []
  members : s.memberUids ch = s.tables.joined row.id
  owner : ∀ id, row.account_owner_id = some id → id ∈ s.tables.accounts.map AccountRow.id →
    s.ownerUid ch = some id
  server : row.server_id ∈ s.tables.servers.map ServerRow.id → s.serverUid ch = some row.server_id

/-- no other row of the channels has the name -/
def UniqueName (t : Tables) (row : ChannelRow) : Prop := ∀ r ∈ t.channels, r.name = row.name → r = row

def Restored (s : Startup) : Prop :=
  ∀ row ∈ s.tables.channels, UniqueName s.tables row → ∃ ch, s.RestoredAs row ch

/-- what a row needs of the caches before the channels are loaded: the account and the server that a
row of the database refers to, and no account under the name of another -/
structure Resolvable (t0 : Tables) (s : Startup) (row : ChannelRow) : Prop where
  owner : row ∈ t0.channels → ∀ id, row.account_owner_id = some id →
    id ≠ 0 ∧ (Account.get_by_uid s.w id).isSome = true
  server : row ∈ t0.channels → row.server_id ≠ 0 ∧ (s.server_by_uid row.server_id).isSome = true
  id : row.id = 0 → s.tables.joined 0 = []
  names : row.id ≠ 0 → ∀ r ∈ s.tables.members row.id, ∀ u, s.w.nameUid r.username = some u → u = r.id

/-- what the preload file leaves -/
structure Preloaded (t0 : Tables) (s : Startup) : Prop where
  cached : s.w.Cached
  servers : ∀ u v, s.server_by_uid u = some v → (s.server v).m_uid = u
  named : Named t0 s
  unjoined : ∀ c, (s.w.chan c).m_members = []
  old : ∀ row ∈ t0.channels, row ∈ s.tables.channels
  new : ∀ row ∈ s.tables.channels, row ∉ t0.channels → ∃ c, s.w.ctx.channels[row.name]? = some c ∧
    s.ownerUid c = row.account_owner_id ∧ s.serverUid c = some row.server_id ∧
    ∀ a, s.m_owner c = some a → a < s.w.nextAcc

/-- the uid of what a column refers to, in a cache by uid -/
theorem found_uid {α : Type} {find : Uuid → Option α} {uid : α → Uuid}
    (hfind : ∀ u x, find u = some x → uid x = u) {u v : Uuid} :
    (if u = 0 then none else find u).map uid = some v ↔ v = u ∧ u ≠ 0 ∧ (find u).isSome = true := by
  split
  · rename_i hu
    constructor
    · intro h
      cases h
    · intro h
      exact absurd hu h.2.1
  · rename_i hu
    cases hx : find u with
    | none => simp
    | some x =>
      rw [Option.map_some, hfind u x hx, Option.some_inj]
      exact ⟨fun h => ⟨h.symm, hu, rfl⟩, fun h => h.1.symm⟩

theorem accountOf_uid (hs : s.w.Cached) {u v : Uuid} :
    (s.accountOf u).map (fun a => (s.w.acc a).m_uid) = some v ↔
      v = u ∧ u ≠ 0 ∧ (Account.get_by_uid s.w u).isSome = true :=
  found_uid fun u a ha => (hs.uid u a ha).2

theorem serverOf_uid (hs : ∀ u v, s.server_by_uid u = some v → (s.server v).m_uid = u) {u x : Uuid} :
    (s.serverOf u).map (fun v => (s.server v).m_uid) = some x ↔
      x = u ∧ u ≠ 0 ∧ (s.server_by_uid u).isSome = true :=
  found_uid hs

/-- a name that one row has is that of one object in a list of objects for rows -/
theorem count_forall₂ {R : ChannelRow → ChanId → Prop} {rows : List ChannelRow} {l : List ChanId}
    (h : List.Forall₂ R rows l) {row : ChannelRow} {ch : ChanId}
    (hiff : ∀ r ∈ rows, ∀ c, R r c → (c = ch ↔ r = row)) : l.count ch = rows.count row := by
  induction h with
  | nil => rfl
  | @cons r c rows l hrc _ ih =>
    obtain ⟨hhead, htail⟩ := List.forall_mem_cons.mp hiff
    rw [List.count_cons, List.count_cons, ih htail]
    by_cases hr : r = row
    · rw [(hhead c hrc).mpr hr, hr, beq_self_eq_true, beq_self_eq_true]
    · rw [beq_eq_false_iff_ne.mpr hr, beq_eq_false_iff_ne.mpr fun hc => hr ((hhead c hrc).mp hc)]

/-- the name of an object is that of its row -/
theorem Named.m_name (hs : Named t0 s) {n : Bytes} {c : ChanId}
    (hc : s.w.ctx.channels[n]? = some c) : (s.w.chan c).m_name = n := by
  obtain ⟨-, row, -, hrow, hobj, -⟩ := hs n c hc
  rw [hobj]
  exact hrow

/-- the initial load: the channels are made, then each is given its members -/
theorem load_spec (h : Preloaded t0 s) :
    ∃ l s1, s.Opened s1 ∧ Named t0 s1 ∧
      List.Forall₂ (fun row c => s1.w.ctx.channels[row.name]? = some c) s.tables.channels l ∧
      s1.Kept s.load ∧ ∀ ch, l.count ch = 1 → s.load.memberUids ch = s1.loaded ch := by
  obtain ⟨l, s1, he, hopened, hnamed, hall⟩ := channel_get_all_spec h.named
  have hlisted : ∀ c ∈ l, s1.w.ctx.channels[(s1.w.chan c).m_name]? = some c := by
    intro c hc
    obtain ⟨i, hi, hget⟩ := List.getElem_of_mem hc
    have hi' : i < s.tables.channels.length := by
      rw [hall.length_eq]
      exact hi
    have hR := (List.forall₂_iff_get.mp hall).2 i hi' hi
    rw [List.get_eq_getElem, List.get_eq_getElem, hget] at hR
    rw [hnamed.m_name hR]
    exact hR
  have hunjoined := hopened.unjoined h.unjoined
  have hbounded : s1.Bounded := by
    intro c a ha
    rw [hunjoined] at ha
    cases ha
  obtain ⟨hkept, hb, -, honce⟩ := loadMembers_run (hopened.cached h.cached) hbounded hlisted
  have hgrown := account_get_all_grown hkept.cached
  have hload : s.load = (l.foldl loadMembers s1).account_get_all.2 := by
    unfold load
    rw [he]
  rw [hload]
  refine ⟨l, s1, hopened, hnamed, hall, hkept.trans hgrown.kept, fun ch hch => ?_⟩
  rw [hgrown.memberUids hb, honce ch hch]
  unfold memberUids
  rw [hunjoined]
  rfl

/-- a row that alone has its name is loaded as one object, which is listed once -/
theorem unique_object {l : List ChanId} (hs : Named t0 s)
    (hall : List.Forall₂ (fun row c => s.w.ctx.channels[row.name]? = some c) s.tables.channels l)
    {row : ChannelRow} (hrow : row ∈ s.tables.channels) (hunique : UniqueName s.tables row) :
    ∃ ch, s.w.ctx.channels[row.name]? = some ch ∧ MadeOf t0 s row ch ∧ l.count ch = 1 := by
  obtain ⟨ch, hch⟩ : ∃ ch, s.w.ctx.channels[row.name]? = some ch := by
    obtain ⟨i, hi, hget⟩ := List.getElem_of_mem hrow
    have hi' : i < l.length := by
      rw [← hall.length_eq]
      exact hi
    have hR := (List.forall₂_iff_get.mp hall).2 i hi hi'
    rw [List.get_eq_getElem, hget] at hR
    exact ⟨_, hR⟩
  refine ⟨ch, hch, ?_, ?_⟩
  · obtain ⟨-, r, hr, hname, hmade⟩ := hs row.name ch hch
    rw [hunique r hr hname] at hmade
    exact hmade
  · have hiff : ∀ r ∈ s.tables.channels, ∀ c, s.w.ctx.channels[r.name]? = some c →
        (c = ch ↔ r = row) := by
      intro r hr c hc
      constructor
      · rintro rfl
        exact hunique r hr ((hs.m_name hc).symm.trans (hs.m_name hch))
      · rintro rfl
        rw [hch] at hc
        exact (Option.some.inj hc).symm
    rw [count_forall₂ hall hiff]
    exact List.count_eq_one_of_mem (List.Nodup.of_map _ s.tables.channel_id) hrow

/-- the uid of an account that was there stays -/
theorem load_ownerUid {s1 : Startup} (hopened : s.Opened s1) (hkept : s1.Kept s.load)
    {ch : ChanId} (hlt : ∀ a, s1.m_owner ch = some a → a < s.w.nextAcc) :
    s.load.ownerUid ch = (s1.m_owner ch).map fun a => (s.w.acc a).m_uid := by
  unfold ownerUid
  have howner : s.load.m_owner = s1.m_owner := by rw [hkept.rest]
  rw [howner]
  cases ha : s1.m_owner ch with
  | none => rfl
  | some a =>
    rw [Option.map_some, Option.map_some, hkept.uid a (by rw [hopened.nextAcc]; exact hlt a ha),
      hopened.acc]

theorem load_serverUid {s1 : Startup} (hopened : s.Opened s1) (hkept : s1.Kept s.load)
    (ch : ChanId) : s.load.serverUid ch = (s1.m_server ch).map fun v => (s.server v).m_uid := by
  unfold serverUid
  have hserver : s.load.m_server = s1.m_server := by rw [hkept.rest]
  have hservers : s.load.server = s1.server := by rw [hkept.rest]
  rw [hserver, hservers, hopened.server]

/-- the members are right when no row is loaded as the account of another -/
theorem members_iff {row : ChannelRow} :
    (if row.id = 0 then [] else (s.tables.members row.id).map s.resolved) = s.tables.joined row.id ↔
      (row.id = 0 → s.tables.joined 0 = []) ∧ (row.id ≠ 0 →
        ∀ r ∈ s.tables.members row.id, ∀ u, s.w.nameUid r.username = some u → u = r.id) := by
  by_cases hid : row.id = 0
  · rw [if_pos hid, hid]
    constructor
    · intro hnil
      exact ⟨fun _ => hnil.symm, fun hne => absurd rfl hne⟩
    · intro hnil
      exact (hnil.1 rfl).symm
  · rw [if_neg hid, ← Tables.members_id, List.map_inj_left]
    constructor
    · intro hres
      refine ⟨fun h0 => absurd h0 hid, fun _ r hr u hu => ?_⟩
      have hr' := hres r hr
      unfold resolved at hr'
      rw [hu] at hr'
      exact hr'
    · intro hnames r hr
      unfold resolved
      cases hu : s.w.nameUid r.username with
      | none => rfl
      | some u => exact hnames.2 hid r hr u hu

section
variable (h : Preloaded t0 s)
include h

theorem load_tables : s.load.tables = s.tables := by
  obtain ⟨l, s1, hopened, -, -, hkept, -⟩ := load_spec h
  rw [hkept.tables, hopened.tables]

/-- **the initial load**, for a row that alone has its name -/
theorem load_row {row : ChannelRow} (hrow : row ∈ s.tables.channels)
    (hunique : UniqueName s.tables row) :
    ∃ ch, s.load.w.ctx.channels[row.name]? = some ch ∧
      bare (s.load.w.chan ch) = objectOf row ∧
      s.load.memberUids ch =
        (if row.id = 0 then [] else (s.tables.members row.id).map s.resolved) ∧
      (row ∈ t0.channels →
        s.load.ownerUid ch =
            (s.accountOf (row.account_owner_id.getD 0)).map (fun a => (s.w.acc a).m_uid) ∧
          s.load.serverUid ch = (s.serverOf row.server_id).map fun v => (s.server v).m_uid) ∧
      (row ∉ t0.channels →
        s.load.ownerUid ch = row.account_owner_id ∧ s.load.serverUid ch = some row.server_id) := by
  obtain ⟨l, s1, hopened, hnamed, hall, hkept, honce⟩ := load_spec h
  rw [← hopened.tables] at hall hrow hunique
  obtain ⟨ch, hch, hmade, hcount⟩ := unique_object hnamed hall hrow hunique
  rw [hopened.tables] at hrow
  obtain ⟨hobj, hrefs⟩ := hmade
  refine ⟨ch, by rw [hkept.channels, hch], ?_, ?_, fun hrow0 => ?_, fun hrow0 => ?_⟩
  · rw [hkept.chan, hobj]
    rfl
  · rw [honce ch hcount]
    unfold loaded
    rw [hobj, hopened.tables]
    simp only [objectOf, funext hopened.resolved]
  · obtain ⟨howner, hserver⟩ := hrefs hrow0
    rw [hopened.accountOf] at howner
    rw [hopened.serverOf] at hserver
    have hlt : ∀ a, s1.m_owner ch = some a → a < s.w.nextAcc := by
      intro a ha
      rw [howner] at ha
      unfold accountOf at ha
      split at ha
      · cases ha
      · exact (h.cached.uid _ a ha).1
    rw [load_ownerUid hopened hkept hlt, load_serverUid hopened hkept, howner, hserver]
    exact ⟨rfl, rfl⟩
  · obtain ⟨c, hc, howner, hserver, hlt0⟩ := h.new row hrow hrow0
    have hcc : c = ch := by
      have hc1 := hopened.channels row.name c hc
      rw [hch] at hc1
      exact (Option.some.inj hc1).symm
    rw [hcc] at hc howner hserver hlt0
    obtain ⟨-, hmo, hms⟩ := hopened.kept ch (h.named row.name ch hc).1
    have hlt : ∀ a, s1.m_owner ch = some a → a < s.w.nextAcc := by
      intro a ha
      rw [hmo] at ha
      exact hlt0 a ha
    rw [load_ownerUid hopened hkept hlt, load_serverUid hopened hkept, hmo, hms]
    exact ⟨howner, hserver⟩

/-- **a row is restored when what it refers to can be resolved** -/
theorem restoredAs_iff {row : ChannelRow} (hrow : row ∈ s.tables.channels)
    (hunique : UniqueName s.tables row) :
    (∃ ch, s.load.RestoredAs row ch) ↔ Resolvable t0 s row := by
  obtain ⟨ch, hch, hobj, hmembers, hold, hnew⟩ := load_row h hrow hunique
  have howner (ho : ∀ id, row.account_owner_id = some id → s.load.ownerUid ch = some id) :
      row ∈ t0.channels → ∀ id, row.account_owner_id = some id →
        id ≠ 0 ∧ (Account.get_by_uid s.w id).isSome = true := by
    intro hrow0 id hid
    have hou := ho id hid
    rw [(hold hrow0).1, hid, Option.getD_some, accountOf_uid h.cached] at hou
    exact hou.2
  constructor
  · rintro ⟨ch', hr⟩
    have hcc : ch' = ch := Option.some.inj (hr.present.symm.trans hch)
    rw [hcc] at hr
    have hm := hr.members
    rw [hmembers, load_tables h, members_iff] at hm
    refine ⟨howner fun id hid => hr.owner id hid ?_, fun hrow0 => ?_, hm.1, hm.2⟩
    · rw [load_tables h]
      exact s.tables.channel_owner row hrow id hid
    · have hs := hr.server (by rw [load_tables h]; exact s.tables.channel_server row hrow)
      rw [(hold hrow0).2, serverOf_uid h.servers] at hs
      exact hs.2
  · intro hr
    refine ⟨ch, hch, ?_, ?_, ?_, fun id hid _ => ?_, fun _ => ?_⟩
    · exact congrArg Channel.uid hobj
    · exact congrArg Channel.m_topic hobj
    · rw [hmembers, load_tables h]
      exact members_iff.mpr ⟨hr.id, hr.names⟩
    · by_cases hrow0 : row ∈ t0.channels
      · rw [(hold hrow0).1, hid, Option.getD_some, accountOf_uid h.cached]
        exact ⟨rfl, hr.owner hrow0 id hid⟩
      · rw [(hnew hrow0).1, hid]
    · by_cases hrow0 : row ∈ t0.channels
      · rw [(hold hrow0).2, serverOf_uid h.servers]
        exact ⟨rfl, hr.server hrow0⟩
      · exact (hnew hrow0).2

end

/-! ## what the preload file leaves -/

/-- before the channels of the preload file -/
structure Early (t0 : Tables) (s : Startup) : Prop where
  cached : s.w.Cached
  servers : ∀ u v, s.server_by_uid u = some v → v < s.nextSrv ∧ (s.server v).m_uid = u
  channels : ∀ n : Bytes, s.w.ctx.channels[n]? = none
  unjoined : ∀ c, (s.w.chan c).m_members = []
  rows : s.tables.channels = t0.channels

theorem Early.preloaded (h : Early t0 s) : Preloaded t0 s where
  cached := h.cached
  servers u v hv := (h.servers u v hv).2
  named n c hc := by
    rw [h.channels] at hc
    cases hc
  unjoined := h.unjoined
  old row hrow := by
    rw [h.rows]
    exact hrow
  new row hrow hnew := by
    rw [h.rows] at hrow
    exact absurd hrow hnew

theorem Early.ofTables (t0 : Tables) : Early t0 (ofTables t0) where
  cached := ⟨fun _ _ h => (by cases h), fun _ _ h => (by cases h)⟩
  servers _ _ h := by cases h
  channels _ := rfl
  unjoined _ := rfl
  rows := rfl

/-- accounts were made -/
theorem Early.grown (h : Early t0 s) {w : World} (hg : s.w.MoreAccounts w) (hw : w.Cached) :
    Early t0 { s with w := w } where
  cached := hw
  servers := h.servers
  channels n := by
    show w.ctx.channels[n]? = none
    rw [hg.channels]
    exact h.channels n
  unjoined c := by
    show (w.chan c).m_members = []
    rw [hg.chan]
    exact h.unjoined c
  rows := h.rows

section
variable (env : StartupEnv)

theorem account_get_or_create_early (h : Early t0 s) (username password : Bytes) :
    ∃ a? s', s.account_get_or_create env username password = (a?, s') ∧ Early t0 s' ∧
      s.w.nextAcc ≤ s'.w.nextAcc ∧ ∀ a, a? = some a → a < s'.w.nextAcc := by
  unfold account_get_or_create
  split
  · rename_i a ha
    refine ⟨some a, s, rfl, h, le_rfl, fun a' ha' => ?_⟩
    rw [← Option.some.inj ha']
    exact h.cached.name username a ha
  · split
    · rename_i row hrow
      obtain ⟨a, w', he, hgrown, hcached, hlt, -⟩ := Account.create_from_db_spec
        row.id row.username row.password h.cached
      refine ⟨some a, { s with w := w' }, ?_, h.grown hgrown hcached, hgrown.nextAcc, ?_⟩
      · unfold account_of_row
        rw [he]
      · intro a' ha'
        rw [← Option.some.inj ha']
        exact hlt
    · unfold createUuid
      dsimp only
      split
      · rename_i hfits
        obtain ⟨a, w', he, hgrown, hcached, hlt, -⟩ := Account.create_from_db_spec
          (env.createUuid s.made) username (env.hashPasswordBcrypt password) h.cached
        have hearly : Early t0 { s with
            made := s.made + 1, tables := s.tables.addAccount _ hfits } :=
          ⟨h.cached, h.servers, h.channels, h.unjoined, h.rows⟩
        refine ⟨some a, _, by rw [he], hearly.grown hgrown hcached, hgrown.nextAcc, ?_⟩
        intro a' ha'
        rw [← Option.some.inj ha']
        exact hlt
      · refine ⟨none, _, rfl, ⟨h.cached, h.servers, h.channels, h.unjoined, h.rows⟩, le_rfl, ?_⟩
        intro a ha
        cases ha

theorem server_create_from_db_early (h : Early t0 s) (id : Uuid) (name : Bytes)
    (owner : Option AccId) :
    Early t0 (s.server_create_from_db id name owner).2 ∧
      (s.server_create_from_db id name owner).2.w = s.w := by
  unfold server_create_from_db
  split
  · exact ⟨h, rfl⟩
  · refine ⟨⟨h.cached, ?_, h.channels, h.unjoined, h.rows⟩, rfl⟩
    intro u v hv
    have hins : (if u = id then some s.nextSrv else s.server_by_uid u) = some v :=
      (lookup_insert _ _ _ _).symm.trans hv
    show v < s.nextSrv + 1 ∧ (if v = s.nextSrv then _ else s.server v : Server).m_uid = u
    split at hins
    · rename_i hu
      rw [← Option.some.inj hins, if_pos rfl]
      exact ⟨Nat.lt_succ_self _, hu.symm⟩
    · obtain ⟨hlt, huid⟩ := h.servers u v hins
      rw [if_neg (Nat.ne_of_lt hlt)]
      exact ⟨Nat.lt_succ_of_lt hlt, huid⟩

theorem server_get_or_create_early (h : Early t0 s) (name : Bytes) (owner : AccId) :
    Early t0 (s.server_get_or_create env name owner).2 ∧
      (s.server_get_or_create env name owner).2.w = s.w := by
  unfold server_get_or_create
  split
  · exact ⟨h, rfl⟩
  · split
    · exact server_create_from_db_early h _ _ _
    · unfold createUuid
      dsimp only
      split
      · rename_i hfits
        have hearly : Early t0 { s with
            made := s.made + 1, tables := s.tables.addServer _ hfits } :=
          ⟨h.cached, h.servers, h.channels, h.unjoined, h.rows⟩
        exact server_create_from_db_early hearly _ _ _
      · exact ⟨⟨h.cached, h.servers, h.channels, h.unjoined, h.rows⟩, rfl⟩

/-- the accounts that `preload_from_file` has by name are on the heap -/
def Loading.Known (p : Loading) : Prop :=
  ∀ (n : QString) a, p.accountsByName[n]? = some a → a < p.s.w.nextAcc

theorem preload_server_early (adminAccount : AccId) {p : Loading} (h : Early t0 p.s)
    (hp : p.accountsByName = ∅) (name : QString) :
    Early t0 (preload_server env adminAccount p name).s ∧
      (preload_server env adminAccount p name).s.w = p.s.w ∧
      (preload_server env adminAccount p name).accountsByName = ∅ := by
  obtain ⟨hearly, hw⟩ := server_get_or_create_early env h (toUtf8 name) adminAccount
  unfold preload_server
  dsimp only
  split
  · rename_i s' he
    rw [he] at hearly hw
    exact ⟨hearly, hw, hp⟩
  · rename_i v s' he
    rw [he] at hearly hw
    exact ⟨hearly, hw, hp⟩

theorem preload_user_early {p : Loading} (h : Early t0 p.s) (hp : p.Known) (user : PreloadUser) :
    Early t0 (preload_user env p user).s ∧ (preload_user env p user).Known := by
  obtain ⟨a?, s', he, hearly, hle, hlt⟩ :=
    account_get_or_create_early env h (toUtf8 user.name) (toUtf8 user.password)
  unfold preload_user
  dsimp only
  rw [he]
  cases a? with
  | none => exact ⟨hearly, fun n a ha => (hp n a ha).trans_le hle⟩
  | some account =>
    refine ⟨hearly, fun n a ha => ?_⟩
    have hins := (lookup_insert _ _ _ _).symm.trans ha
    split at hins
    · rw [← Option.some.inj hins]
      exact hlt account rfl
    · exact (hp n a hins).trans_le hle

theorem Opened.uids (ho : s.Opened s') {c : ChanId} (hc : c < s.w.nextChan) :
    s'.ownerUid c = s.ownerUid c ∧ s'.serverUid c = s.serverUid c := by
  obtain ⟨-, hmo, hms⟩ := ho.kept c hc
  unfold ownerUid serverUid
  rw [hmo, hms, ho.acc, ho.server]
  exact ⟨rfl, rfl⟩

/-- a channel was made of a row -/
theorem Preloaded.opened (h : Preloaded t0 s) (ho : s.Opened s') (hn : Named t0 s') :
    Preloaded t0 s' where
  cached := ho.cached h.cached
  servers u v hv := by
    rw [ho.server_by_uid] at hv
    rw [ho.server]
    exact h.servers u v hv
  named := hn
  unjoined := ho.unjoined h.unjoined
  old row hrow := by
    rw [ho.tables]
    exact h.old row hrow
  new row hrow hnew := by
    rw [ho.tables] at hrow
    obtain ⟨c, hc, howner, hserver, hlt⟩ := h.new row hrow hnew
    have hmade := (h.named row.name c hc).1
    obtain ⟨hou, hsu⟩ := ho.uids hmade
    refine ⟨c, ho.channels _ _ hc, hou.trans howner, hsu.trans hserver, ?_⟩
    rw [(ho.kept c hmade).2.1, ho.nextAcc]
    exact hlt

/-- a channel is made with its row, if no row has its name -/
theorem new_channel_preloaded (h : Preloaded t0 s) {row : ChannelRow} {owner : Option AccId}
    {v : SrvId} (hlt : ∀ a, owner = some a → a < s.w.nextAcc)
    (howner : (owner.map fun a => (s.w.acc a).m_uid) = row.account_owner_id)
    (hserver : (s.server v).m_uid = row.server_id) (hname : s.w.ctx.channels[row.name]? = none)
    (hrows : ∀ r ∈ s.tables.channels, r.name ≠ row.name) (hfits : s.tables.AdmitsChannel row) :
    ∃ c s', channel_create_from_db row.id row.name (row.topic.getD []) owner (some v)
        { s with tables := s.tables.addChannel row hfits } = (c, s') ∧
      Preloaded t0 s' ∧ s'.w.nextAcc = s.w.nextAcc := by
  obtain ⟨s', he, ho, hnext, hobj, hmo, hms, hchannels⟩ :=
    channel_create_from_db_new (s := { s with tables := s.tables.addChannel row hfits })
      row.id (row.topic.getD []) owner (some v) hname
  have htables : s'.tables.channels = s.tables.channels ++ [row] :=
    congrArg Tables.channels ho.tables
  have hrow0 : row ∉ t0.channels := fun hrow => hrows row (h.old row hrow) rfl
  refine ⟨s.w.nextChan, s', he, ⟨ho.cached h.cached, fun u x hx => ?_, fun n c hc => ?_,
    ho.unjoined h.unjoined, fun r hr => ?_, fun r hr hr0 => ?_⟩, ho.nextAcc⟩
  · rw [ho.server_by_uid] at hx
    rw [ho.server]
    exact h.servers u x hx
  · rw [hchannels] at hc
    rw [hnext, htables]
    split at hc
    · rename_i hn
      rw [← Option.some.inj hc]
      exact ⟨Nat.lt_succ_self _, row, List.mem_append_right _ List.mem_cons_self, hn.symm, hobj,
        fun hrow => absurd hrow hrow0⟩
    · obtain ⟨hc', r, hr, hrn, hmade⟩ := h.named n c hc
      exact ⟨Nat.lt_succ_of_lt hc', r, List.mem_append_left _ hr, hrn, hmade.opened ho hc'⟩
  · rw [htables]
    exact List.mem_append_left _ (h.old r hr)
  · rw [htables] at hr
    rcases List.mem_append.mp hr with hr | hr
    · obtain ⟨c, hc, hou, hsu, hcl⟩ := h.new r hr hr0
      have hmade := (h.named r.name c hc).1
      obtain ⟨hou', hsu'⟩ := ho.uids hmade
      refine ⟨c, ho.channels _ _ hc, hou'.trans hou, hsu'.trans hsu, ?_⟩
      rw [(ho.kept c hmade).2.1, ho.nextAcc]
      exact hcl
    · rw [List.mem_singleton.mp hr]
      refine ⟨s.w.nextChan, by rw [hchannels, if_pos rfl], ?_⟩
      unfold ownerUid serverUid
      rw [hmo, hms, ho.acc, ho.server, ho.nextAcc]
      exact ⟨howner, congrArg some hserver, hlt⟩

theorem channel_get_or_create_preloaded (h : Preloaded t0 s) (name topic : Bytes)
    {owner : Option AccId} (hlt : ∀ a, owner = some a → a < s.w.nextAcc) (server : Option SrvId) :
    Preloaded t0 (s.channel_get_or_create env name topic owner server).2 ∧
      (s.channel_get_or_create env name topic owner server).2.w.nextAcc = s.w.nextAcc := by
  unfold channel_get_or_create
  split
  · exact ⟨h, rfl⟩
  · rename_i hname
    split
    · rename_i row hrow
      obtain ⟨c, s', he, ho, hn, -⟩ := channel_of_row_spec h.named (List.mem_of_find?_eq_some hrow)
      rw [he]
      exact ⟨h.opened ho hn, ho.nextAcc⟩
    · rename_i hnone
      cases server with
      | none => exact ⟨h, rfl⟩
      | some v =>
        unfold createUuid
        dsimp only
        have hmade : Preloaded t0 { s with made := s.made + 1 } :=
          ⟨h.cached, h.servers, h.named, h.unjoined, h.old, h.new⟩
        split
        · rename_i hfits
          have hrows : ∀ r ∈ s.tables.channels, r.name ≠ name := by
            intro r hr
            simpa using List.find?_eq_none.mp hnone r hr
          obtain ⟨c, s', he, hp, hnext⟩ :=
            new_channel_preloaded hmade (v := v) hlt rfl rfl hname hrows hfits
          simp only [Option.getD_some] at he
          rw [he]
          exact ⟨hp, hnext⟩
        · exact ⟨hmade, rfl⟩

theorem channel_add_member_preloaded (h : Preloaded t0 s) (account_id channel_id : Uuid) :
    Preloaded t0 (s.channel_add_member account_id channel_id) ∧
      (s.channel_add_member account_id channel_id).w = s.w := by
  unfold channel_add_member
  split
  · exact ⟨⟨h.cached, h.servers, h.named, h.unjoined, h.old, h.new⟩, rfl⟩
  · exact ⟨h, rfl⟩

theorem preload_members_preloaded (h : Preloaded t0 s) (accountsByName : QMap QString AccId)
    (ch : ChanId) (members : List QString) :
    Preloaded t0 (members.foldl (preload_member accountsByName ch) s) ∧
      (members.foldl (preload_member accountsByName ch) s).w = s.w := by
  induction members generalizing s with
  | nil => exact ⟨h, rfl⟩
  | cons mname members ih =>
    have hone : Preloaded t0 (preload_member accountsByName ch s mname) ∧
        (preload_member accountsByName ch s mname).w = s.w := by
      unfold preload_member
      split
      · exact ⟨h, rfl⟩
      · exact channel_add_member_preloaded h _ _
    obtain ⟨hp, hw⟩ := ih hone.1
    exact ⟨hp, hw.trans hone.2⟩

theorem preload_channel_preloaded {p : Loading} (h : Preloaded t0 p.s) (hp : p.Known)
    (channel : PreloadChannel) :
    Preloaded t0 (preload_channel env p channel).s ∧ (preload_channel env p channel).Known := by
  obtain ⟨hpre, hnext⟩ := channel_get_or_create_preloaded env h (toUtf8 channel.name)
    (toUtf8 channel.topic) (hp channel.owner) p.serversByName[channel.server]?
  unfold preload_channel
  dsimp only
  split
  · rename_i s' he
    rw [he] at hpre hnext
    refine ⟨hpre, fun n a ha => ?_⟩
    show a < s'.w.nextAcc
    rw [hnext]
    exact hp n a ha
  · rename_i c s' he
    rw [he] at hpre hnext
    obtain ⟨hmem, hw⟩ := preload_members_preloaded hpre p.accountsByName c channel.members
    refine ⟨hmem, fun n a ha => ?_⟩
    show a < (List.foldl _ s' _).w.nextAcc
    rw [hw, hnext]
    exact hp n a ha

theorem preload_servers_early (adminAccount : AccId) (names : List QString) {p : Loading}
    (h : Early t0 p.s) (hp : p.accountsByName = ∅) :
    Early t0 (names.foldl (preload_server env adminAccount) p).s ∧
      (names.foldl (preload_server env adminAccount) p).s.w = p.s.w ∧
      (names.foldl (preload_server env adminAccount) p).accountsByName = ∅ := by
  induction names generalizing p with
  | nil => exact ⟨h, rfl, hp⟩
  | cons name names ih =>
    obtain ⟨h1, hw1, hp1⟩ := preload_server_early env adminAccount h hp name
    obtain ⟨h', hw', hp'⟩ := ih h1 hp1
    exact ⟨h', hw'.trans hw1, hp'⟩

theorem preload_users_early (users : List PreloadUser) {p : Loading} (h : Early t0 p.s)
    (hp : p.Known) :
    Early t0 (users.foldl (preload_user env) p).s ∧ (users.foldl (preload_user env) p).Known := by
  induction users generalizing p with
  | nil => exact ⟨h, hp⟩
  | cons user users ih =>
    obtain ⟨h1, hp1⟩ := preload_user_early env h hp user
    exact ih h1 hp1

theorem preload_channels_preloaded (channels : List PreloadChannel) {p : Loading}
    (h : Preloaded t0 p.s) (hp : p.Known) :
    Preloaded t0 (channels.foldl (preload_channel env) p).s := by
  induction channels generalizing p with
  | nil => exact h
  | cons channel channels ih =>
    obtain ⟨h1, hp1⟩ := preload_channel_preloaded env h hp channel
    exact ih h1 hp1

/-- **what the preload file leaves**, whatever is in it -/
theorem preload_from_file_preloaded (t0 : Tables) (file : Option Preload) :
    Preloaded t0 ((ofTables t0).preload_from_file env file) := by
  have hearly := Early.ofTables t0
  cases file with
  | none => exact hearly.preloaded
  | some root =>
    obtain ⟨a?, s1, he, h1, -, hlt⟩ :=
      account_get_or_create_early env hearly (ascii "admin") (ascii "admin")
    unfold preload_from_file
    dsimp only
    rw [he]
    cases a? with
    | none => exact h1.preloaded
    | some admin =>
      dsimp only
      obtain ⟨h2, hw2, hp2⟩ := preload_servers_early env admin root.servers (p := { s := s1 }) h1 rfl
      obtain ⟨p, hp⟩ : ∃ p, p = root.servers.foldl (preload_server env admin) { s := s1 } :=
        ⟨_, rfl⟩
      rw [← hp] at h2 hw2 hp2 ⊢
      have hknown : Loading.Known
          { p with accountsByName := p.accountsByName.insert "admin".toList admin } := by
        intro n a ha
        have hins := (lookup_insert _ _ _ _).symm.trans ha
        show a < p.s.w.nextAcc
        rw [hw2]
        split at hins
        · rw [← Option.some.inj hins]
          exact hlt admin rfl
        · rw [hp2] at hins
          cases hins
      obtain ⟨h3, hp3⟩ := preload_users_early env root.users
        (p := { p with accountsByName := p.accountsByName.insert "admin".toList admin }) h2 hknown
      exact preload_channels_preloaded env root.channels h3.preloaded hp3

end

/-- **The channels are restored exactly when every row that alone has its name can be resolved from
the caches that the preload file leaves.** -/
theorem restored_iff (env : StartupEnv) (tables : Tables) (file : Option Preload) :
    Restored (Ctx.init env tables file) ↔
      ∀ row ∈ ((ofTables tables).preload_from_file env file).tables.channels,
        UniqueName ((ofTables tables).preload_from_file env file).tables row →
          Resolvable tables ((ofTables tables).preload_from_file env file) row := by
  have h := preload_from_file_preloaded env tables file
  unfold Restored Ctx.init
  rw [load_tables h]
  exact forall₂_congr fun row hrow => forall_congr' fun hunique => restoredAs_iff h hrow hunique

/-- without a preload file no channel that alone has its name is restored -/
theorem restored_unopened (env : StartupEnv) (tables : Tables) :
    Restored (Ctx.init env tables none) ↔ ∀ row ∈ tables.channels, ¬ UniqueName tables row := by
  have h := preload_from_file_preloaded env tables none
  unfold Restored Ctx.init
  rw [load_tables h]
  refine forall₂_congr fun row hrow => forall_congr' fun hunique => ?_
  rw [restoredAs_iff h hrow hunique, iff_false]
  intro hr
  have hserver := (hr.server hrow).2
  cases hserver

/-- an account, its server and a channel of both -/
def oneChannel : Tables where
  accounts := [⟨1, ascii "admin", []⟩]
  servers := [⟨2, ascii "master", 1⟩]
  channels := [⟨3, 2, ascii "test", none, some 1⟩]
  account_channels := [⟨1, 3⟩]
  account_id := by decide
  username := by decide
  server_id := by decide
  channel_id := by decide
  server_name := by decide
  joined_once := by decide
  server_owner := by decide
  channel_server := by decide
  channel_owner := by decide
  joined_account := by decide
  joined_channel := by decide

theorem restored_false : ¬ Restored (Ctx.init ⟨fun n => n + 4, fun pw => pw⟩ oneChannel none) := by
  rw [restored_unopened]
  intro h
  exact h ⟨3, 2, ascii "test", none, some 1⟩ List.mem_cons_self fun r hr _ => List.mem_singleton.mp hr

end Startup

end Chatripper
