import Mathlib
import Chatripper.Core.Startup

/-!
# What the loaders do

`create_from_db` gives what is cached for a name; the rest of the heap stays as it was.

* `create_from_db_spec`, `append_accounts`   the accounts of rows (`Grown`);
* `loadMembers_run`                          the members of the channels (`Kept`);
* `append_channels`                          the channels of rows (`Opened`).
-/

namespace Chatripper
open ByteStr Utf8

/-! ## the caches of accounts -/

/-- the uid that a name is cached with -/
def World.nameUid (w : World) (name : Bytes) : Option Uuid :=
  (Account.get_by_name w name).map fun a => (w.acc a).m_uid

/-- what is cached is an account of the heap, under its uid -/
structure World.Cached (w : World) : Prop where
  name : ∀ n a, Account.get_by_name w n = some a → a < w.nextAcc
  uid : ∀ u a, Account.get_by_uid w u = some a → a < w.nextAcc ∧ (w.acc a).m_uid = u

/-- accounts were made, and nothing else was done -/
structure World.MoreAccounts (w w' : World) : Prop where
  nextAcc : w.nextAcc ≤ w'.nextAcc
  uid : ∀ a < w.nextAcc, (w'.acc a).m_uid = (w.acc a).m_uid
  nextChan : w'.nextChan = w.nextChan
  chan : w'.chan = w.chan
  channels : w'.ctx.channels = w.ctx.channels

theorem World.MoreAccounts.refl (w : World) : w.MoreAccounts w := ⟨le_rfl, fun _ _ => rfl, rfl, rfl, rfl⟩

theorem World.MoreAccounts.trans {w w' w'' : World} (h : w.MoreAccounts w') (h' : w'.MoreAccounts w'') :
    w.MoreAccounts w'' where
  nextAcc := h.nextAcc.trans h'.nextAcc
  uid a ha := (h'.uid a (ha.trans_le h.nextAcc)).trans (h.uid a ha)
  nextChan := h'.nextChan.trans h.nextChan
  chan := h'.chan.trans h.chan
  channels := h'.channels.trans h.channels

namespace Account
variable {id : Uuid} {username password : Bytes} {w : World}

/-- what is cached for a name is given back -/
theorem create_from_db_cached {a : AccId} (h : get_by_name w username = some a) :
    create_from_db id username password w = (a, w) := by
  unfold create_from_db
  rw [h]

variable (id password)

/-- **what `create_from_db` makes** -/
theorem create_from_db_new (h : get_by_name w username = none) :
    ∃ w', create_from_db id username password w = (w.nextAcc, w') ∧ w.MoreAccounts w' ∧
      w'.nextAcc = w.nextAcc + 1 ∧ (w'.acc w.nextAcc).m_uid = id ∧
      (∀ n, get_by_name w' n =
        if n = username ∧ username ≠ [] then some w.nextAcc else get_by_name w n) ∧
      ∀ u, get_by_uid w' u = if u = id then some w.nextAcc else get_by_uid w u := by
  unfold create_from_db
  rw [h]
  refine ⟨_, rfl, ⟨Nat.le_succ _, ?_, rfl, rfl, rfl⟩, rfl, ?_, ?_, ?_⟩
  · intro a ha
    exact congrArg Account.m_uid (if_neg (Nat.ne_of_lt ha))
  · exact congrArg Account.m_uid (if_pos rfl)
  · intro n
    unfold get_by_name Ctx.irc_nicks_insert_cache Ctx.account_insert_cache
    simp only [World.updCtx, World.updAcc, if_pos]
    by_cases hname : username = []
    · rw [if_pos hname, if_neg fun hn => hn.2 hname]
    · rw [if_neg hname, lookup_insert]
      simp [hname]
  · intro u
    unfold get_by_uid Ctx.irc_nicks_insert_cache Ctx.account_insert_cache
    simp only [World.updCtx, World.updAcc, if_pos]
    exact lookup_insert _ _ _ _

variable (username)

/-- **`create_from_db`**: an account of the uid that the name is cached with, or else of the row's -/
theorem create_from_db_spec (hw : w.Cached) :
    ∃ a w', create_from_db id username password w = (a, w') ∧ w.MoreAccounts w' ∧ w'.Cached ∧
      a < w'.nextAcc ∧ (w'.acc a).m_uid = (w.nameUid username).getD id ∧
      ∀ n, w'.nameUid n =
        if n = username ∧ username ≠ [] then some ((w.nameUid username).getD id)
        else w.nameUid n := by
  cases hname : get_by_name w username with
  | some a =>
    have huid : w.nameUid username = some (w.acc a).m_uid := by
      unfold World.nameUid
      rw [hname]
      rfl
    refine ⟨a, w, create_from_db_cached hname, World.MoreAccounts.refl w, hw, hw.name _ _ hname, ?_, ?_⟩
    · rw [huid]
      rfl
    · intro n
      split
      · rename_i hn
        rw [hn.1, huid]
        rfl
      · rfl
  | none =>
    obtain ⟨w', he, hgrown, hnext, hnew, hnames, huids⟩ :=
      create_from_db_new id password hname
    have huid : w.nameUid username = none := by
      unfold World.nameUid
      rw [hname]
      rfl
    have hlt : w.nextAcc < w'.nextAcc := by rw [hnext]; exact Nat.lt_succ_self _
    refine ⟨w.nextAcc, w', he, hgrown, ⟨?_, ?_⟩, hlt, by rw [hnew, huid]; rfl, ?_⟩
    · intro n a ha
      rw [hnames] at ha
      split at ha
      · rw [← Option.some.inj ha]
        exact hlt
      · exact (hw.name n a ha).trans hlt
    · intro u a ha
      rw [huids] at ha
      split at ha
      · rename_i hu
        rw [← Option.some.inj ha, hu]
        exact ⟨hlt, hnew⟩
      · obtain ⟨hlt', hau⟩ := hw.uid u a ha
        exact ⟨hlt'.trans hlt, (hgrown.uid a hlt').trans hau⟩
    · intro n
      rw [huid]
      unfold World.nameUid
      rw [hnames]
      split
      · rw [Option.map_some, hnew]
        rfl
      · cases hn : get_by_name w n with
        | none => rfl
        | some a =>
          rw [Option.map_some, Option.map_some, hgrown.uid a (hw.name n a hn)]

end Account

namespace Startup
variable {s s' s'' : Startup}

/-! ## loading accounts -/

/-- the uid of the account that a row is loaded as -/
def resolved (s : Startup) (row : AccountRow) : Uuid := (s.w.nameUid row.username).getD row.id

/-- rows of `accounts` were loaded -/
structure Grown (s s' : Startup) : Prop where
  world : s.w.MoreAccounts s'.w
  rest : s' = { s with w := s'.w }
  cached : s'.w.Cached
  resolved : ∀ r ∈ s.tables.accounts, s'.resolved r = s.resolved r

theorem Grown.refl (hs : s.w.Cached) : s.Grown s := ⟨World.MoreAccounts.refl _, rfl, hs, fun _ _ => rfl⟩

theorem Grown.tables (h : s.Grown s') : s'.tables = s.tables := by rw [h.rest]

theorem Grown.trans (h : s.Grown s') (h' : s'.Grown s'') : s.Grown s'' where
  world := h.world.trans h'.world
  rest := by
    rw [h'.rest, h.rest]
  cached := h'.cached
  resolved r hr := by
    rw [h'.resolved r (by rw [h.tables]; exact hr), h.resolved r hr]

theorem account_of_row_spec (hs : s.w.Cached) {row : AccountRow} (hrow : row ∈ s.tables.accounts) :
    ∃ a s', s.account_of_row row = (a, s') ∧ s.Grown s' ∧ a < s'.w.nextAcc ∧
      (s'.w.acc a).m_uid = s.resolved row := by
  obtain ⟨a, w', he, hgrown, hcached, hlt, huid, hnames⟩ := Account.create_from_db_spec
    row.id row.username row.password hs
  refine ⟨a, { s with w := w' }, ?_, ⟨hgrown, rfl, hcached, ?_⟩, hlt, huid⟩
  · unfold account_of_row
    rw [he]
  · intro r hr
    unfold resolved
    rw [hnames]
    split
    · rename_i hname
      rw [Tables.eq_of_username hr hrow hname.1]
      rfl
    · rfl

/-- **rows of `accounts` are loaded** in their order -/
theorem append_accounts (hs : s.w.Cached) {rows : List AccountRow}
    (hrows : ∀ r ∈ rows, r ∈ s.tables.accounts) (l : List AccId) :
    ∃ l' s', rows.foldl append_account (l, s) = (l ++ l', s') ∧ s.Grown s' ∧
      (∀ a ∈ l', a < s'.w.nextAcc) ∧
      l'.map (fun a => (s'.w.acc a).m_uid) = rows.map s.resolved := by
  induction rows generalizing s l with
  | nil => exact ⟨[], s, by rw [List.append_nil]; rfl, Grown.refl hs, by simp, rfl⟩
  | cons row rows ih =>
    obtain ⟨hrow, htail⟩ := List.forall_mem_cons.mp hrows
    obtain ⟨a, s1, he, hgrown, hlt, huid⟩ := account_of_row_spec hs hrow
    have htail1 : ∀ r ∈ rows, r ∈ s1.tables.accounts := by
      rw [hgrown.tables]
      exact htail
    obtain ⟨l', s', hfold, hgrown', hlts, huids⟩ := ih hgrown.cached htail1 (l ++ [a])
    refine ⟨a :: l', s', ?_, hgrown.trans hgrown', ?_, ?_⟩
    · rw [List.foldl_cons, show append_account (l, s) row = (l ++ [a], s1) from
        by unfold append_account; rw [he], hfold, List.append_assoc]
      rfl
    · exact List.forall_mem_cons.mpr ⟨hlt.trans_le hgrown'.world.nextAcc, hlts⟩
    · rw [List.map_cons, List.map_cons, hgrown'.world.uid a hlt, huid, huids]
      congr 1
      exact List.map_congr_left fun r hr => hgrown.resolved r (htail r hr)

theorem channel_get_members_spec (hs : s.w.Cached) (channel_id : Uuid) :
    ∃ l s', s.channel_get_members channel_id = (l, s') ∧ s.Grown s' ∧
      (∀ a ∈ l, a < s'.w.nextAcc) ∧
      l.map (fun a => (s'.w.acc a).m_uid) =
        if channel_id = 0 then [] else (s.tables.members channel_id).map s.resolved := by
  unfold channel_get_members
  split
  · exact ⟨[], s, rfl, Grown.refl hs, by simp, rfl⟩
  · exact append_accounts hs (fun r hr => Tables.mem_members hr) []

theorem account_get_all_grown (hs : s.w.Cached) : s.Grown s.account_get_all.2 := by
  unfold account_get_all
  rw [Pages.foldPages_eq _ _ (by decide)]
  obtain ⟨l, s', he, hgrown, -⟩ := append_accounts hs (fun r hr => hr) []
  rw [List.drop_zero, he]
  exact hgrown


/-! ## loading members -/

/-- a channel before its members are loaded -/
def bare (c : Channel) : Channel := { c with m_members := [] }

/-- members were loaded: of a channel nothing but its members is new -/
structure Kept (s s' : Startup) : Prop where
  rest : s' = { s with w := s'.w }
  nextAcc : s.w.nextAcc ≤ s'.w.nextAcc
  uid : ∀ a < s.w.nextAcc, (s'.w.acc a).m_uid = (s.w.acc a).m_uid
  cached : s'.w.Cached
  resolved : ∀ r ∈ s.tables.accounts, s'.resolved r = s.resolved r
  chan : ∀ ch, bare (s'.w.chan ch) = bare (s.w.chan ch)
  channels : s'.w.ctx.channels = s.w.ctx.channels

theorem Grown.kept (h : s.Grown s') : s.Kept s' :=
  ⟨h.rest, h.world.nextAcc, h.world.uid, h.cached, h.resolved, fun ch => by rw [h.world.chan],
    h.world.channels⟩

theorem Kept.tables (h : s.Kept s') : s'.tables = s.tables := by rw [h.rest]

theorem Kept.chan_uid (h : s.Kept s') (ch : ChanId) : (s'.w.chan ch).uid = (s.w.chan ch).uid :=
  calc (s'.w.chan ch).uid = (bare (s'.w.chan ch)).uid := rfl
    _ = (bare (s.w.chan ch)).uid := congrArg Channel.uid (h.chan ch)

theorem Kept.chan_name (h : s.Kept s') (ch : ChanId) :
    (s'.w.chan ch).m_name = (s.w.chan ch).m_name :=
  calc (s'.w.chan ch).m_name = (bare (s'.w.chan ch)).m_name := rfl
    _ = (bare (s.w.chan ch)).m_name := congrArg Channel.m_name (h.chan ch)

theorem Kept.trans (h : s.Kept s') (h' : s'.Kept s'') : s.Kept s'' where
  rest := by rw [h'.rest, h.rest]
  nextAcc := h.nextAcc.trans h'.nextAcc
  uid a ha := (h'.uid a (ha.trans_le h.nextAcc)).trans (h.uid a ha)
  cached := h'.cached
  resolved r hr := by rw [h'.resolved r (by rw [h.tables]; exact hr), h.resolved r hr]
  chan ch := (h'.chan ch).trans (h.chan ch)
  channels := h'.channels.trans h.channels

/-- every member is an account of the heap -/
def Bounded (s : Startup) : Prop := ∀ ch, ∀ a ∈ (s.w.chan ch).m_members, a < s.w.nextAcc

def memberUids (s : Startup) (ch : ChanId) : List Uuid :=
  (s.w.chan ch).m_members.map fun a => (s.w.acc a).m_uid

/-- what the members of a channel are loaded as -/
def loaded (s : Startup) (ch : ChanId) : List Uuid :=
  if (s.w.chan ch).uid = 0 then [] else (s.tables.members (s.w.chan ch).uid).map s.resolved

theorem Kept.loaded (h : s.Kept s') (ch : ChanId) : s'.loaded ch = s.loaded ch := by
  unfold Startup.loaded
  rw [h.chan_uid, h.tables]
  split
  · rfl
  · exact List.map_congr_left fun r hr => h.resolved r (Tables.mem_members hr)

theorem Grown.memberUids (h : s.Grown s') (hb : s.Bounded) (ch : ChanId) :
    s'.memberUids ch = s.memberUids ch := by
  unfold Startup.memberUids
  rw [h.world.chan]
  exact List.map_congr_left fun a ha => h.world.uid a (hb ch a ha)

theorem Grown.bounded (h : s.Grown s') (hb : s.Bounded) : s'.Bounded := by
  intro ch a ha
  rw [h.world.chan] at ha
  exact (hb ch a ha).trans_le h.world.nextAcc

/-- an account joins a channel that nothing has been loaded for it -/
theorem addMembers_spec (hs : s.w.Cached) (ch : ChanId) (accounts : List AccId) :
    s.Kept (s.addMembers ch accounts) ∧
      (s.addMembers ch accounts).w.nextAcc = s.w.nextAcc ∧
      (∀ a, ((s.addMembers ch accounts).w.acc a).m_uid = (s.w.acc a).m_uid) ∧
      ∀ x, ((s.addMembers ch accounts).w.chan x).m_members =
        if x = ch then (s.w.chan ch).m_members ++ accounts else (s.w.chan x).m_members := by
  induction accounts generalizing s with
  | nil =>
    refine ⟨(Grown.refl hs).kept, rfl, fun _ => rfl, fun x => ?_⟩
    split
    · rename_i hx
      rw [hx, List.append_nil]
      rfl
    · rfl
  | cons acc accounts ih =>
    have hone : s.addMembers ch (acc :: accounts) = (s.addMembers ch [acc]).addMembers ch accounts :=
      rfl
    have huid (a : AccId) : ((s.addMembers ch [acc]).w.acc a).m_uid = (s.w.acc a).m_uid := by
      show (if a = acc then _ else _ : Account).m_uid = _
      split
      · rename_i ha
        rw [ha]
        rfl
      · rfl
    have hchan (x : ChanId) : (s.addMembers ch [acc]).w.chan x =
        if x = ch then { s.w.chan ch with m_members := (s.w.chan ch).m_members ++ [acc] }
        else s.w.chan x := rfl
    have hname (n : Bytes) : (s.addMembers ch [acc]).w.nameUid n = s.w.nameUid n :=
      congrArg (Option.map · (Account.get_by_name s.w n)) (funext huid)
    have hkept : s.Kept (s.addMembers ch [acc]) := by
      refine ⟨rfl, le_rfl, fun a _ => huid a, ⟨hs.name, fun u a ha => ?_⟩, fun r _ => ?_,
        fun x => ?_, rfl⟩
      · rw [huid]
        exact hs.uid u a ha
      · unfold resolved
        rw [hname]
      · rw [hchan]
        split
        · rename_i hx
          rw [hx]
          rfl
        · rfl
    obtain ⟨hkept', hnext, huids, hmem⟩ := ih hkept.cached
    refine ⟨hkept.trans hkept', hnext, fun a => (huids a).trans (huid a), fun x => ?_⟩
    rw [hone, hmem, hchan, hchan]
    by_cases hx : x = ch
    · rw [if_pos hx, if_pos hx, if_pos rfl, List.append_assoc]
      rfl
    · rw [if_neg hx, if_neg hx, if_neg hx]

/-- a round of the loop loads the members of its channel -/
theorem loadMembers_spec (hs : s.w.Cached) (hb : s.Bounded) {c : ChanId}
    (hc : s.w.ctx.channels[(s.w.chan c).m_name]? = some c) :
    s.Kept (s.loadMembers c) ∧ (s.loadMembers c).Bounded ∧
      ∀ ch, (s.loadMembers c).memberUids ch =
        if ch = c then s.memberUids c ++ s.loaded c else s.memberUids ch := by
  have hsame : s.mapWorld (fun w => w.updCtx fun x =>
      { x with channels := x.channels.insert (w.chan c).m_name c }) = s := by
    have hins : s.w.ctx.channels.insert (s.w.chan c).m_name c = s.w.ctx.channels := by
      apply Std.ExtTreeMap.ext_getElem?
      intro n
      rw [lookup_insert]
      split
      · rename_i hn
        rw [hn, hc]
      · rfl
    show { s with w := { s.w with ctx := { s.w.ctx with
      channels := s.w.ctx.channels.insert (s.w.chan c).m_name c } } } = s
    rw [hins]
  obtain ⟨l, s1, he, hgrown, hlt, huids⟩ := channel_get_members_spec hs (s.w.chan c).uid
  have hload : s.loadMembers c = s1.addMembers c l := by
    unfold loadMembers
    simp only [hsame, he]
  obtain ⟨hkept, hnext, huid, hmem⟩ := addMembers_spec hgrown.cached c l
  have hb1 : s1.Bounded := hgrown.bounded hb
  rw [hload]
  refine ⟨hgrown.kept.trans hkept, ?_, ?_⟩
  · intro ch a ha
    rw [hmem] at ha
    rw [hnext]
    split at ha
    · rcases List.mem_append.mp ha with ha | ha
      · exact hb1 c a ha
      · exact hlt a ha
    · exact hb1 ch a ha
  · intro ch
    have hl : s1.loaded c = l.map fun a => (s1.w.acc a).m_uid := by
      rw [hgrown.kept.loaded, huids]
      rfl
    rw [← hgrown.memberUids hb, ← hgrown.memberUids hb, ← hgrown.kept.loaded, hl]
    unfold memberUids
    rw [hmem, funext huid]
    split
    · rw [List.map_append]
    · rfl

/-- **the loop over the channels** loads the members of a channel as often as the channel is listed -/
theorem loadMembers_run {cs : List ChanId} (hs : s.w.Cached) (hb : s.Bounded)
    (hcs : ∀ c ∈ cs, s.w.ctx.channels[(s.w.chan c).m_name]? = some c) :
    s.Kept (cs.foldl loadMembers s) ∧ (cs.foldl loadMembers s).Bounded ∧
      (∀ ch ∉ cs, (cs.foldl loadMembers s).memberUids ch = s.memberUids ch) ∧
      ∀ ch, cs.count ch = 1 →
        (cs.foldl loadMembers s).memberUids ch = s.memberUids ch ++ s.loaded ch := by
  induction cs generalizing s with
  | nil =>
    refine ⟨(Grown.refl hs).kept, hb, fun _ _ => rfl, fun ch hch => ?_⟩
    rw [List.count_nil] at hch
    omega
  | cons c cs ih =>
    obtain ⟨hc, htail⟩ := List.forall_mem_cons.mp hcs
    obtain ⟨hkept, hb1, hstep⟩ := loadMembers_spec hs hb hc
    have htail1 : ∀ x ∈ cs, (s.loadMembers c).w.ctx.channels[((s.loadMembers c).w.chan x).m_name]? =
        some x := by
      intro x hx
      rw [hkept.channels, hkept.chan_name]
      exact htail x hx
    obtain ⟨hkept', hb', hout, honce⟩ := ih hkept.cached hb1 htail1
    rw [List.foldl_cons]
    refine ⟨hkept.trans hkept', hb', fun ch hch => ?_, fun ch hch => ?_⟩
    · rw [List.mem_cons, not_or] at hch
      rw [hout ch hch.2, hstep, if_neg hch.1]
    · rw [List.count_cons] at hch
      by_cases hx : ch = c
      · rw [hx, beq_self_eq_true, if_pos rfl] at hch
        have hnot : ch ∉ cs := by
          rw [hx]
          apply List.count_eq_zero.mp
          omega
        rw [hout ch hnot, hstep, if_pos hx, hx]
      · rw [beq_eq_false_iff_ne.mpr (Ne.symm hx)] at hch
        rw [honce ch (by simpa using hch), hstep, if_neg hx, hkept.loaded]


/-! ## loading channels -/

/-- the object of a row, before its members are loaded -/
def objectOf (row : ChannelRow) : Channel :=
  { uid := row.id, m_name := row.name, m_topic := row.topic.getD [] }

/-- channels were made, and nothing else was done -/
structure Opened (s s' : Startup) : Prop where
  rest : s' = { s with w := s'.w, m_owner := s'.m_owner, m_server := s'.m_server }
  acc : s'.w.acc = s.w.acc
  nextAcc : s'.w.nextAcc = s.w.nextAcc
  name : ∀ n, Account.get_by_name s'.w n = Account.get_by_name s.w n
  uid : ∀ u, Account.get_by_uid s'.w u = Account.get_by_uid s.w u
  nextChan : s.w.nextChan ≤ s'.w.nextChan
  kept : ∀ c < s.w.nextChan,
    s'.w.chan c = s.w.chan c ∧ s'.m_owner c = s.m_owner c ∧ s'.m_server c = s.m_server c
  channels : ∀ (n : Bytes) c, s.w.ctx.channels[n]? = some c → s'.w.ctx.channels[n]? = some c
  unjoined : (∀ c, (s.w.chan c).m_members = []) → ∀ c, (s'.w.chan c).m_members = []

theorem Opened.refl (s : Startup) : s.Opened s :=
  ⟨rfl, rfl, rfl, fun _ => rfl, fun _ => rfl, le_rfl, fun _ _ => ⟨rfl, rfl, rfl⟩, fun _ _ h => h,
    fun h => h⟩

theorem Opened.trans (h : s.Opened s') (h' : s'.Opened s'') : s.Opened s'' where
  rest := by rw [h'.rest, h.rest]
  acc := h'.acc.trans h.acc
  nextAcc := h'.nextAcc.trans h.nextAcc
  name n := (h'.name n).trans (h.name n)
  uid u := (h'.uid u).trans (h.uid u)
  nextChan := h.nextChan.trans h'.nextChan
  kept c hc := by
    obtain ⟨h1, h2, h3⟩ := h.kept c hc
    obtain ⟨h1', h2', h3'⟩ := h'.kept c (hc.trans_le h.nextChan)
    exact ⟨h1'.trans h1, h2'.trans h2, h3'.trans h3⟩
  channels n c hc := h'.channels n c (h.channels n c hc)
  unjoined hs := h'.unjoined (h.unjoined hs)

section
variable (h : s.Opened s')
include h

theorem Opened.tables : s'.tables = s.tables := by rw [h.rest]

theorem Opened.server : s'.server = s.server := by rw [h.rest]

theorem Opened.server_by_uid (u : Uuid) : s'.server_by_uid u = s.server_by_uid u := by rw [h.rest]; rfl

theorem Opened.cached (hs : s.w.Cached) : s'.w.Cached where
  name n a ha := by
    rw [h.name] at ha
    rw [h.nextAcc]
    exact hs.name n a ha
  uid u a ha := by
    rw [h.uid] at ha
    rw [h.nextAcc, h.acc]
    exact hs.uid u a ha

theorem Opened.resolved (row : AccountRow) : s'.resolved row = s.resolved row := by
  unfold Startup.resolved World.nameUid
  rw [h.name, h.acc]

theorem Opened.accountOf (u : Uuid) : s'.accountOf u = s.accountOf u := by
  unfold Startup.accountOf
  rw [h.uid]

theorem Opened.serverOf (u : Uuid) : s'.serverOf u = s.serverOf u := by
  unfold Startup.serverOf
  rw [h.server_by_uid]

end

section
variable {id : Uuid} {name topic : Bytes} {owner : Option AccId} {server : Option SrvId}

theorem channel_create_from_db_cached {ch : ChanId} (h : s.w.ctx.channels[name]? = some ch) :
    s.channel_create_from_db id name topic owner server = (ch, s) := by
  unfold channel_create_from_db
  rw [h]

variable (id topic owner server)

/-- **what `Channel::create_from_db` makes** -/
theorem channel_create_from_db_new (h : s.w.ctx.channels[name]? = none) :
    ∃ s', s.channel_create_from_db id name topic owner server = (s.w.nextChan, s') ∧
      s.Opened s' ∧ s'.w.nextChan = s.w.nextChan + 1 ∧
      s'.w.chan s.w.nextChan = { uid := id, m_name := name, m_topic := topic } ∧
      s'.m_owner s.w.nextChan = owner ∧ s'.m_server s.w.nextChan = server ∧
      ∀ n : Bytes, s'.w.ctx.channels[n]? =
        if n = name then some s.w.nextChan else s.w.ctx.channels[n]? := by
  unfold channel_create_from_db
  rw [h]
  refine ⟨_, rfl, ?_, rfl, if_pos rfl, if_pos rfl, if_pos rfl, fun n => lookup_insert _ _ _ _⟩
  refine ⟨rfl, rfl, rfl, fun _ => rfl, fun _ => rfl, Nat.le_succ _, fun c hc => ?_, fun n c hc => ?_,
    fun hs c => ?_⟩
  · have hne : c ≠ s.w.nextChan := Nat.ne_of_lt hc
    exact ⟨if_neg hne, if_neg hne, if_neg hne⟩
  · have hne : n ≠ name := by
      rintro rfl
      rw [h] at hc
      cases hc
    exact (lookup_insert _ _ _ _).trans ((if_neg hne).trans hc)
  · show (if c = s.w.nextChan then _ else s.w.chan c : Channel).m_members = []
    split
    · rfl
    · exact hs c

end

variable {t0 : Tables}

/-- a channel as `create_from_db` makes it of a row that the database had -/
def MadeOf (t0 : Tables) (s : Startup) (row : ChannelRow) (c : ChanId) : Prop :=
  s.w.chan c = objectOf row ∧
    (row ∈ t0.channels → s.m_owner c = s.accountOf (row.account_owner_id.getD 0) ∧
      s.m_server c = s.serverOf row.server_id)

/-- what is cached for a name is the channel of a row of this name -/
def Named (t0 : Tables) (s : Startup) : Prop :=
  ∀ (n : Bytes) c, s.w.ctx.channels[n]? = some c →
    c < s.w.nextChan ∧ ∃ row ∈ s.tables.channels, row.name = n ∧ MadeOf t0 s row c

theorem MadeOf.opened {row : ChannelRow} {c : ChanId} (h : s.Opened s') (hc : c < s.w.nextChan)
    (hm : MadeOf t0 s row c) : MadeOf t0 s' row c := by
  obtain ⟨hobj, hrefs⟩ := hm
  obtain ⟨hchan, howner, hserver⟩ := h.kept c hc
  refine ⟨hchan.trans hobj, fun hrow => ?_⟩
  rw [howner, hserver, h.accountOf, h.serverOf]
  exact hrefs hrow

/-- a row is loaded as the channel that its name is cached with -/
theorem channel_of_row_spec (hs : Named t0 s) {row : ChannelRow} (hrow : row ∈ s.tables.channels) :
    ∃ c s', s.channel_of_row row = (c, s') ∧ s.Opened s' ∧ Named t0 s' ∧
      s'.w.ctx.channels[row.name]? = some c := by
  unfold channel_of_row
  cases hname : s.w.ctx.channels[row.name]? with
  | some c => exact ⟨c, s, channel_create_from_db_cached hname, Opened.refl s, hs, hname⟩
  | none =>
    obtain ⟨s', he, hopened, hnext, hobj, howner, hserver, hchannels⟩ :=
      channel_create_from_db_new row.id (row.topic.getD [])
        (s.accountOf (row.account_owner_id.getD 0)) (s.serverOf row.server_id) hname
    refine ⟨s.w.nextChan, s', he, hopened, ?_, by rw [hchannels, if_pos rfl]⟩
    intro n c hc
    rw [hchannels] at hc
    rw [hnext, hopened.tables]
    split at hc
    · rename_i hn
      rw [← Option.some.inj hc]
      refine ⟨Nat.lt_succ_self _, row, hrow, hn.symm, hobj, fun _ => ?_⟩
      rw [howner, hserver, hopened.accountOf, hopened.serverOf]
      exact ⟨rfl, rfl⟩
    · obtain ⟨hlt, row', hrow', hn', hmade⟩ := hs n c hc
      exact ⟨Nat.lt_succ_of_lt hlt, row', hrow', hn', hmade.opened hopened hlt⟩

/-- **rows of `channels` are loaded**, each as what its name is cached with in the end -/
theorem append_channels {rows : List ChannelRow} (hs : Named t0 s)
    (hrows : ∀ r ∈ rows, r ∈ s.tables.channels) (l : List ChanId) :
    ∃ l' s', rows.foldl append_channel (l, s) = (l ++ l', s') ∧ s.Opened s' ∧ Named t0 s' ∧
      List.Forall₂ (fun row c => s'.w.ctx.channels[row.name]? = some c) rows l' := by
  induction rows generalizing s l with
  | nil => exact ⟨[], s, by rw [List.append_nil]; rfl, Opened.refl s, hs, List.Forall₂.nil⟩
  | cons row rows ih =>
    obtain ⟨hrow, htail⟩ := List.forall_mem_cons.mp hrows
    obtain ⟨c, s1, he, hopened, hnamed, hc⟩ := channel_of_row_spec hs hrow
    have htail1 : ∀ r ∈ rows, r ∈ s1.tables.channels := by
      rw [hopened.tables]
      exact htail
    obtain ⟨l', s', hfold, hopened', hnamed', hall⟩ := ih hnamed htail1 (l ++ [c])
    refine ⟨c :: l', s', ?_, hopened.trans hopened', hnamed',
      List.Forall₂.cons (hopened'.channels _ _ hc) hall⟩
    rw [List.foldl_cons, show append_channel (l, s) row = (l ++ [c], s1) from
      by unfold append_channel; rw [he], hfold, List.append_assoc]
    rfl

theorem channel_get_all_spec (hs : Named t0 s) :
    ∃ l s', s.channel_get_all = (l, s') ∧ s.Opened s' ∧ Named t0 s' ∧
      List.Forall₂ (fun row c => s'.w.ctx.channels[row.name]? = some c) s.tables.channels l := by
  unfold channel_get_all
  rw [Pages.foldPages_eq _ _ (by decide), List.drop_zero]
  exact append_channels hs (fun r hr => hr) []

end Startup

end Chatripper
