import Mathlib
import Chatripper.Irc.Stores
import Chatripper.Ghosts

/-!
# The metadata of a channel is its own

Every channel has a store of its own that follows the requests on it, and nothing else.  The store of
the server is made from the rows of the channel's id when the first request on the channel comes; a
channel that `get_or_create` makes has the null id, as all others of its kind.

* `ownStore`, `record`         the store of a channel, and what an event does to it;
* `step_ownStore`              the step lemma;
* `channel_stores_isolated`    GET and LIST return what the channel's own store has;
* `shared_rows_returned`       two channels without ids share their rows.
-/

namespace Chatripper
open ByteStr Utf8 Outcome

/-! ## reading requests -/

namespace Metadata

section
variable {env : Env} {ref : MetaRef} {ev : QEventMetadata} {w : World}

/-- GET and LIST -/
def reads (env : Env) (ev : QEventMetadata) : Bool :=
  requestCmd env ev == "GET".toList || requestCmd env ev == "LIST".toList

/-- what a loop leaves in a map was there before, or one round has put it there -/
theorem lookup_foldl {ι : Type} {f : QMap QString QVariant → ι → QMap QString QVariant} {l : List ι}
    {P : QString → QVariant → Prop} (hf : ∀ i ∈ l, ∀ s k v, (f s i)[k]? = some v →
      s[k]? = some v ∨ P k v) (s : QMap QString QVariant) {k : QString} {v : QVariant}
    (h : (l.foldl f s)[k]? = some v) : s[k]? = some v ∨ P k v := by
  induction l generalizing s with
  | nil => exact Or.inl h
  | cons i l ih =>
    rw [List.foldl_cons] at h
    rcases ih (fun j hj => hf j (List.mem_cons_of_mem _ hj)) _ h with h | h
    · exact hf i List.mem_cons_self s k v h
    · exact Or.inr h

theorem lookup_insert_some {s : QMap QString QVariant} {key k : QString} {u v : QVariant}
    (h : (s.insert key u)[k]? = some v) : s[k]? = some v ∨ k = key ∧ v = u := by
  rw [lookup_insert] at h
  by_cases hk : k = key
  · rw [if_pos hk] at h
    exact Or.inr ⟨hk, (Option.some.inj h).symm⟩
  · rw [if_neg hk] at h
    exact Or.inl h

/-- GET and LIST return values of the store -/
theorem handle_reads (hreads : reads env ev = true) (hfresh : ev.metadata = ∅) :
    ∃ values : QMap QString QVariant,
      handle env ref ev w = .ok ({ ev with metadata := values }, save ref (load env ref w) w) ∧
        ∀ (k : QString) v, values[k]? = some v → (load env ref w).kv[k]? = some v := by
  have hempty (k : QString) (v : QVariant) : ¬ ev.metadata[k]? = some v := by
    rw [hfresh, Std.ExtTreeMap.getElem?_empty]
    intro h
    cases h
  have hcmd : requestCmd env ev = "GET".toList ∨ requestCmd env ev = "LIST".toList := by
    unfold reads at hreads
    simpa using hreads
  unfold requestCmd at hcmd
  unfold handle
  dsimp only
  rcases hcmd with hget | hlist
  · rw [hget, if_neg (by decide), if_neg (by decide), if_neg (by decide), if_pos rfl]
    refine ⟨_, rfl, fun k v h => ?_⟩
    have hpick := lookup_foldl (P := fun k v => (load env ref w).kv[k]? = some v)
      (fun key _ s k v h => ?_) _ h
    · exact hpick.resolve_left (hempty k v)
    · cases hkey : (load env ref w).kv[fromUtf8 key]? with
      | none =>
        rw [hkey] at h
        exact Or.inl h
      | some u =>
        rw [hkey] at h
        rcases lookup_insert_some h with h | ⟨rfl, rfl⟩
        · exact Or.inl h
        · exact Or.inr hkey
  · rw [hlist, if_neg (by decide), if_neg (by decide), if_pos rfl]
    refine ⟨_, rfl, fun k v h => ?_⟩
    have hall := lookup_foldl (P := fun k v => (load env ref w).kv[k]? = some v)
      (fun kv hkv s k v h => ?_) _ h
    · exact hall.resolve_left (hempty k v)
    · rcases lookup_insert_some h with h | ⟨rfl, rfl⟩
      · exact Or.inl h
      · exact Or.inr (Std.ExtTreeMap.mem_toList_iff_getElem?_eq_some.mp hkv)

end

end Metadata

namespace client_connection
open World

section
variable {env : Env} {c : ConnId} {line : Bytes} {w : World} {ref : MetaRef} {ev : QEventMetadata}

theorem metadataTargetOf_some {target : Bytes} {event : QEventMetadata}
    (h : metadataTargetOf c target event w = .ok (some (ref, ev))) :
    ev.metadata = event.metadata ∧ ∀ ch, ref = .channel ch → ∃ n : Bytes, w.ctx.channels[n]? = some ch := by
  unfold metadataTargetOf at h
  split at h
  · obtain ⟨ch, hch, heq⟩ := Option.map_eq_some_iff.mp (Except.ok.inj h)
    cases heq
    refine ⟨rfl, fun x hx => ?_⟩
    cases hx
    exact ⟨_, hch⟩
  · obtain ⟨a, -, h⟩ := bind_eq_ok.mp h
    split at h
    · cases h
      exact ⟨rfl, fun x hx => by cases hx⟩
    · obtain ⟨b, -, heq⟩ := Option.map_eq_some_iff.mp (Except.ok.inj h)
      cases heq
      exact ⟨rfl, fun x hx => by cases hx⟩

/-- a request comes from a METADATA line -/
theorem lineRequest_some (h : lineRequest c line w = some (ref, ev)) : ∃ target subcmd rest,
    lineCommand c line w = some (.METADATA, target :: subcmd :: rest) ∧
      (w.conn c).capabilities.has .METADATA = true ∧ metadataTargetOf c target
        { account := (w.conn c).m_account, subcmd := subcmd, args := rest } w =
          .ok (some (ref, ev)) := by
  obtain ⟨⟨cmd, args⟩, hcmd, h⟩ := Option.bind_eq_some_iff.mp h
  replace h : metadataRequest c cmd args w = some (ref, ev) := h
  unfold metadataRequest at h
  split at h
  · next target subcmd rest =>
    refine ⟨target, subcmd, rest, hcmd, ?_⟩
    split at h
    · next hcap =>
      refine ⟨hcap, ?_⟩
      cases htarget : metadataTargetOf c target
          { account := (w.conn c).m_account, subcmd := subcmd, args := rest } w with
      | error e =>
        rw [htarget] at h
        cases h
      | ok r =>
        rw [htarget] at h
        have hr : r = some (ref, ev) := h
        rw [hr]
    · cases h
  · cases h

/-- a request on a channel is on one of the index -/
theorem lineRequest_channel {ch : ChanId} (h : lineRequest c line w = some (.channel ch, ev)) :
    ∃ n : Bytes, w.ctx.channels[n]? = some ch := by
  obtain ⟨target, subcmd, rest, -, -, htarget⟩ := lineRequest_some h
  exact (metadataTargetOf_some htarget).2 ch rfl

/-- the store answers the request -/
theorem parseIncoming_request (env : Env) (h : lineRequest c line w = some (ref, ev)) :
    ev.metadata = ∅ ∧ parseIncoming env c line w =
      Metadata.handle env ref ev (handlerWorld c line w) >>= fun r => .ok (metadata env c r.1 r.2) := by
  obtain ⟨target, subcmd, rest, hcmd, hcap, htarget⟩ := lineRequest_some h
  obtain ⟨sp, hsp⟩ := handlerWorld_eq c line w
  refine ⟨(metadataTargetOf_some htarget).1, ?_⟩
  rw [parseIncoming_eq, hcmd, hsp]
  show handleMETADATA env c (target :: subcmd :: rest) { w with snakepit := sp } = _
  unfold handleMETADATA
  rw [if_neg (by simp), if_pos hcap]
  show (metadataTargetOf c target
    { account := (w.conn c).m_account, subcmd := subcmd, args := rest } w >>= _) = _
  rw [htarget]
  rfl

end

end client_connection

/-! ## the store of a channel -/

/-- what the store of a channel has, or is going to be made with: the rows of its id, and nothing when
it has none -/
def Settings.ownStore (env : Env) (s : Settings) (ch : ChanId) : QMap QString QVariant :=
  if ch < s.nextChan then
    match s.metadata ch with
    | some m => m.kv
    | none => if s.uid ch = 0 then ∅ else env.tableKv s.stored (s.uid ch)
  else ∅

namespace Settings

section
variable {env : Env} {s s' : Settings} {ch : ChanId}

theorem ownStore_some {m : Metadata} (hch : ch < s.nextChan) (h : s.metadata ch = some m) :
    s.ownStore env ch = m.kv := by
  unfold ownStore
  rw [if_pos hch, h]

theorem ownStore_none (hch : ch < s.nextChan) (h : s.metadata ch = none) :
    s.ownStore env ch = if s.uid ch = 0 then ∅ else env.tableKv s.stored (s.uid ch) := by
  unfold ownStore
  rw [if_pos hch, h]

/-- the store depends on these -/
theorem ownStore_congr (hnext : s'.nextChan = s.nextChan) (huid : s'.uid ch = s.uid ch)
    (hmetadata : s'.metadata ch = s.metadata ch) (hrows : ch < s.nextChan → s.metadata ch = none →
      s.uid ch ≠ 0 → env.tableKv s'.stored (s.uid ch) = env.tableKv s.stored (s.uid ch)) :
    s'.ownStore env ch = s.ownStore env ch := by
  by_cases hch : ch < s.nextChan
  · cases hm : s.metadata ch with
    | some m => rw [ownStore_some hch hm, ownStore_some (hnext ▸ hch) (hmetadata.trans hm)]
    | none =>
      rw [ownStore_none hch hm, ownStore_none (hnext ▸ hch) (hmetadata.trans hm), huid]
      by_cases hnull : s.uid ch = 0
      · rw [if_pos hnull, if_pos hnull]
      · rw [if_neg hnull, if_neg hnull, hrows hch hm hnull]
  · unfold ownStore
    rw [if_neg hch, if_neg (hnext ▸ hch)]

theorem KeepsStores.ownStore (h : KeepsStores s s') : s'.ownStore env = s.ownStore env := by
  funext ch
  by_cases hch : ch < s.nextChan
  · obtain ⟨huid, hmetadata⟩ := h.old ch hch
    unfold Settings.ownStore
    rw [if_pos hch, if_pos (Nat.lt_of_lt_of_le hch h.nextChan), hmetadata, huid, h.stored]
  · have hold : s.ownStore env ch = ∅ := if_neg hch
    rw [hold]
    by_cases hnew : ch < s'.nextChan
    · obtain ⟨huid, hmetadata⟩ := h.made ch hnew (Nat.le_of_not_lt hch)
      rw [ownStore_none hnew hmetadata, if_pos huid]
    · exact if_neg hnew

/-- no two channels of the database have the same id -/
def DistinctIds (s : Settings) : Prop :=
  ∀ ch ch', ch < s.nextChan → ch' < s.nextChan → s.uid ch = s.uid ch' → s.uid ch ≠ 0 → ch = ch'

theorem KeepsStores.distinctIds (h : KeepsStores s s') (hs : s.DistinctIds) : s'.DistinctIds := by
  have hold (ch : ChanId) (hch : ch < s'.nextChan) (hne : s'.uid ch ≠ 0) :
      ch < s.nextChan ∧ s'.uid ch = s.uid ch := by
    by_cases hlt : ch < s.nextChan
    · exact ⟨hlt, (h.old ch hlt).1⟩
    · exact absurd (h.made ch hch (Nat.le_of_not_lt hlt)).1 hne
  intro ch ch' hch hch' heq hne
  obtain ⟨hlt, hu⟩ := hold ch hch hne
  obtain ⟨hlt', hu'⟩ := hold ch' hch' (heq ▸ hne)
  apply hs ch ch' hlt hlt'
  · rw [← hu, ← hu', heq]
  · rw [← hu]
    exact hne

end

end Settings

/-- the channels that the rooms refer to have been made -/
structure Site.ChannelsMade (s : Site) : Prop where
  member : ∀ ch a, a ∈ s.rooms.members ch → ch < s.rooms.nextChan
  index : ∀ n ch, s.rooms.index n = some ch → ch < s.rooms.nextChan
  listed : ∀ a (n : Bytes) ch, (s.rooms.listed a)[n]? = some (some ch) → ch < s.rooms.nextChan

theorem Site.ChannelsMade.step {l : SiteLabel} {s s' : Site} (h : s.ChannelsMade)
    (hstep : SiteStep l s s') : s'.ChannelsMade := by
  obtain ⟨hmember, hindex, hlisted⟩ := hstep.made h.member h.index h.listed
  exact ⟨hmember, hindex, hlisted⟩

/-! ## recording the requests -/

namespace Worker
open World client_connection Settings

/-- what the requests on a channel leave in its own store.  An account with the id of the channel writes
into the rows that the store is made from. -/
def record (env : Env) (w w' : World) (ev : Event) (own : ChanId → QMap QString QVariant) :
    ChanId → QMap QString QVariant :=
  match eventRequest w ev with
  | none => own
  | some (.channel b, q) => fun ch =>
    if ch = b then Metadata.requestKv env (.channel b) q (own b) else own ch
  | some (.account a, _) => fun ch =>
    if ch < w.nextChan ∧ (w.chan ch).m_metadata.isNone ∧ (w.chan ch).uid ≠ 0 ∧
        (w.chan ch).uid = (w.acc a).m_uid then
      env.tableKv w'.sql (w.chan ch).uid
    else own ch

/-- an event, with the stores that are recorded -/
def recordedStep (env : Env) (s : World × (ChanId → QMap QString QVariant)) (ev : Event) :
    Except Fault (World × (ChanId → QMap QString QVariant)) :=
  (step env s.1 ev).map fun w' => (w', record env s.1 w' ev s.2)

/-- the first request on a channel that has no id, while the table has rows without an id -/
def opensShared (env : Env) (w : World) (ev : Event) : Bool :=
  match eventRequest w ev with
  | some (.channel b, _) =>
    (w.chan b).m_metadata.isNone && (w.chan b).uid == 0 && !(env.metadataRows w.sql 0).isEmpty
  | _ => false

section
variable {env : Env} {w w' : World} {ev : Event}

theorem eventRequest_channel {b : ChanId} {q : QEventMetadata}
    (h : eventRequest w ev = some (.channel b, q)) : ∃ n : Bytes, w.ctx.channels[n]? = some b := by
  cases ev with
  | line c line =>
    replace h : (if (w.conn c).live then lineRequest c line w else none) = some (.channel b, q) := h
    split at h
    · exact lineRequest_channel h
    · cases h
  | connect _ _ => cases h
  | deliver _ => cases h
  | disconnect _ => cases h

/-- the store of a request is the channel's own -/
theorem load_own (hkeyed : KeyedTable env) {b : ChanId} {q : QEventMetadata}
    (hb : b < w.nextChan) (hreq : eventRequest w ev = some (.channel b, q))
    (hshared : opensShared env w ev = false) :
    (Metadata.load env (.channel b) w).kv = w.settings.ownStore env b := by
  cases hm : (w.chan b).m_metadata with
  | some m =>
    rw [ownStore_some hb hm]
    unfold Metadata.load
    show (Option.getD (w.chan b).m_metadata _).kv = _
    rw [hm]
    rfl
  | none =>
    rw [ownStore_none hb hm]
    unfold Metadata.load
    show (Option.getD (w.chan b).m_metadata _).kv = _
    rw [hm]
    show (Metadata.metadata_get env (w.chan b).uid w).kv = _
    rw [Metadata.metadata_get_kv]
    show _ = if (w.chan b).uid = 0 then _ else env.tableKv (w.sql.filter _) (w.chan b).uid
    by_cases hnull : (w.chan b).uid = 0
    · unfold opensShared at hshared
      rw [hreq] at hshared
      dsimp only at hshared
      rw [hm, hnull] at hshared
      have hrows : env.metadataRows w.sql 0 = [] := by simpa using hshared
      rw [if_pos hnull, hnull]
      unfold Env.tableKv
      rw [hrows]
      rfl
    · rw [if_neg hnull, hkeyed.filter]

/-- **One event.**  The stores follow what is recorded. -/
theorem step_ownStore (hkeyed : KeyedTable env) (hdistinct : w.settings.DistinctIds)
    (hindex : ∀ (n : Bytes) ch, w.ctx.channels[n]? = some ch → ch < w.nextChan)
    (hshared : opensShared env w ev = false) (h : step env w ev = .ok w') :
    w'.settings.DistinctIds ∧
      w'.settings.ownStore env = record env w w' ev (w.settings.ownStore env) := by
  have hstores := step_stores h
  unfold record
  cases hreq : eventRequest w ev with
  | none =>
    rw [hreq] at hstores
    have hkeeps : KeepsStores w.settings w'.settings := hstores
    exact ⟨hkeeps.distinctIds hdistinct, hkeeps.ownStore⟩
  | some p =>
    obtain ⟨ref, q⟩ := p
    rw [hreq] at hstores
    obtain ⟨m, hm, hset⟩ := hstores
    rw [hset]
    refine ⟨hdistinct, funext fun ch => ?_⟩
    -- the statements of the request leave the rows of other ids alone
    have hrows (id : Uuid) (hid : Metadata.ref_id ref w ≠ id) :
        env.tableKv (w.settings.stored ++ Metadata.requestSql env ref q w) id =
          env.tableKv w.settings.stored id :=
      hkeyed.other (fun s hs => (Metadata.requestSql_about hs).2 id hid) _
    cases ref with
    | account a =>
      show _ = if _ then env.tableKv w'.sql (w.chan ch).uid else w.settings.ownStore env ch
      split
      · next hch =>
        obtain ⟨hlt, hnone, hne, -⟩ := hch
        have hsql : w'.settings.stored =
            w.settings.stored ++ Metadata.requestSql env (.account a) q w :=
          congrArg Settings.stored hset
        rw [ownStore_none hlt (Option.isNone_iff_eq_none.mp hnone), ← hkeyed.filter w'.sql]
        show (if (w.chan ch).uid = 0 then _ else _) = env.tableKv w'.settings.stored _
        rw [if_neg hne, hsql]
        rfl
      · next hch =>
        refine ownStore_congr rfl rfl rfl ?_
        intro hlt hnone hne
        apply hrows
        intro heq
        exact hch ⟨hlt, Option.isNone_iff_eq_none.mpr hnone, hne, heq.symm⟩
    | channel b =>
      obtain ⟨n, hn⟩ := eventRequest_channel hreq
      have hb : b < w.nextChan := hindex n b hn
      show _ = if ch = b then _ else w.settings.ownStore env ch
      by_cases hch : ch = b
      · rw [if_pos hch, hch, ownStore_some hb (if_pos rfl), hm, load_own hkeyed hb hreq hshared]
      · rw [if_neg hch]
        refine ownStore_congr rfl rfl (if_neg hch) ?_
        intro hlt hnone hne
        apply hrows
        intro heq
        exact hch (hdistinct ch b hlt hb heq.symm hne)

theorem step_channelsMade (hmade : w.site.ChannelsMade) (h : step env w ev = .ok w') :
    w'.site.ChannelsMade := by
  obtain ⟨ls, hchain⟩ := step_site h
  exact hchain.inv (P := fun _ => True) (I := Site.ChannelsMade)
    (fun _ _ _ _ hs hstep => hs.step hstep.1) (fun _ _ => trivial) hmade

/-- a run, with the stores that are recorded -/
theorem run_recorded {evs : List Event} {own own' : ChanId → QMap QString QVariant}
    (hkeyed : KeyedTable env) (hdistinct : w.settings.DistinctIds)
    (hmade : w.site.ChannelsMade)
    (hshared : AllSteps (step env) (fun w ev => opensShared env w ev = false) w (evs ++ [ev]))
    (hown : own = w.settings.ownStore env)
    (hrun : run (recordedStep env) (w, own) evs = .ok (w', own')) :
    own' = w'.settings.ownStore env ∧ opensShared env w' ev = false ∧ w'.site.ChannelsMade := by
  induction evs generalizing w own with
  | nil =>
    cases hrun
    exact ⟨hown, hshared.1, hmade⟩
  | cons e evs ih =>
    rw [run_cons] at hrun
    obtain ⟨⟨w1, own1⟩, hone, hrun⟩ := bind_eq_ok.mp hrun
    obtain ⟨w2, hstep, heq⟩ : ∃ w2, step env w e = .ok w2 ∧
        (w2, record env w w2 e own) = (w1, own1) := by
      cases hs : step env w e with
      | error x =>
        replace hone : (step env w e).map _ = _ := hone
        rw [hs] at hone
        cases hone
      | ok w2 =>
        replace hone : (step env w e).map _ = _ := hone
        rw [hs] at hone
        exact ⟨w2, rfl, Except.ok.inj hone⟩
    cases heq
    obtain ⟨hdistinct1, hown1⟩ := step_ownStore hkeyed hdistinct hmade.index hshared.1 hstep
    refine ih hdistinct1 (step_channelsMade hmade hstep) (hshared.2 _ hstep) ?_ hrun
    rw [hown1, hown]

/-- **The stores of channels are isolated.**  In every run in which no channel without an id gets its
first request while there are rows without an id, GET and LIST on a channel return what the requests
on this channel have left in its store. -/
theorem channel_stores_isolated {evs : List Event} {own : ChanId → QMap QString QVariant} {c : ConnId}
    {line : Bytes} {b : ChanId} {q : QEventMetadata} (hkeyed : KeyedTable env) (hstart : Started w)
    (hdistinct : w.settings.DistinctIds)
    (hshared : AllSteps (step env) (fun w ev => opensShared env w ev = false) w
      (evs ++ [.line c line]))
    (hrun : run (recordedStep env) (w, w.settings.ownStore env) evs = .ok (w', own))
    (hreq : eventRequest w' (.line c line) = some (.channel b, q))
    (hreads : Metadata.reads env q = true) :
    ∃ (values : QMap QString QVariant) (w2 : World), w2.out = w'.out ∧
      step env w' (.line c line) = .ok (metadata env c { q with metadata := values } w2) ∧
        ∀ (k : QString) v, values[k]? = some v → (own b)[k]? = some v := by
  have hghost := hstart.ghostInv
  obtain ⟨hown, hlast, hmade⟩ := run_recorded hkeyed hdistinct
    ⟨fun ch a ha => (hghost.member ch a ha).2, hghost.index, hghost.listed⟩ hshared rfl hrun
  obtain ⟨n, hn⟩ := eventRequest_channel hreq
  have hb : b < w'.nextChan := hmade.index n b hn
  have hload := load_own hkeyed hb hreq hlast
  replace hreq : (if (w'.conn c).live then lineRequest c line w' else none) =
      some (.channel b, q) := hreq
  split at hreq
  · next hlive =>
    obtain ⟨hfresh, hparse⟩ := parseIncoming_request env hreq
    obtain ⟨sp, hsp⟩ := handlerWorld_eq c line w'
    obtain ⟨values, hhandle, hvalues⟩ := @Metadata.handle_reads env (.channel b) q
      (handlerWorld c line w') hreads hfresh
    refine ⟨values, Metadata.save (.channel b) (Metadata.load env (.channel b)
      (handlerWorld c line w')) (handlerWorld c line w'), ?_, ?_, fun k v hv => ?_⟩
    · rw [hsp]
      rfl
    · show (if (w'.conn c).live then parseIncoming env c line w' else .ok w') = _
      rw [if_pos hlive, hparse, hhandle]
      rfl
    · have hv := hvalues k v hv
      rw [hsp] at hv
      rw [hown, ← hload]
      exact hv
  · cases hreq

end

/-! ## a table -/

/-- what a statement does to the rows of an id -/
def tableStep (id : Uuid) (rows : List (QString × Bytes × Option Uuid)) (s : SqlStmt) :
    List (QString × Bytes × Option Uuid) :=
  match s with
  | .metadata_upsert key value ref_id _ =>
    if ref_id = id then
      rows.filter (fun row => row.1 != fromUtf8 key) ++ [(fromUtf8 key, value, none)]
    else rows
  | .metadata_remove key ref_id =>
    if ref_id = id then rows.filter fun row => row.1 != fromUtf8 key else rows
  | _ => rows

/-- the rows of an id after some statements -/
def tableRows (sql : List SqlStmt) (id : Uuid) : List (QString × Bytes × Option Uuid) :=
  sql.foldl (tableStep id) []

/-- what a statement about an id does to its keys and values -/
def tableEffect : SqlStmt → QMap QString QVariant → QMap QString QVariant
  | .metadata_upsert key value _ _, kv =>
    (kv.erase (fromUtf8 key)).insert (fromUtf8 key) (.bytes value)
  | .metadata_remove key _, kv => kv.erase (fromUtf8 key)
  | _, kv => kv

/-- a server whose database starts without rows -/
def keyedEnv : Env := { Env.ascii with metadataRows := tableRows }

theorem rowsKv_concat (rows : List (QString × Bytes × Option Uuid)) (row : QString × Bytes × Option Uuid) :
    rowsKv (rows ++ [row]) = (rowsKv rows).insert row.1 (.bytes row.2.1) := by
  unfold rowsKv
  rw [List.foldl_append]
  rfl

theorem rowsKv_filter (key : QString) (rows : List (QString × Bytes × Option Uuid)) :
    rowsKv (rows.filter fun row => row.1 != key) = (rowsKv rows).erase key := by
  induction rows using List.reverseRecOn with
  | nil => rfl
  | append_singleton rows row ih =>
    rw [List.filter_append, rowsKv_concat]
    apply Std.ExtTreeMap.ext_getElem?
    intro k
    rw [Std.ExtTreeMap.getElem?_erase, lookup_insert]
    by_cases hrow : row.1 = key
    · rw [List.filter_cons_of_neg (by simp [hrow]), List.filter_nil, List.append_nil, ih,
        Std.ExtTreeMap.getElem?_erase, hrow]
      by_cases hk : k = key
      · rw [hk, if_pos (Std.compare_eq_iff_eq.mpr rfl), if_pos (Std.compare_eq_iff_eq.mpr rfl)]
      · rw [if_neg hk]
    · rw [List.filter_cons_of_pos (by simp [hrow]), List.filter_nil, rowsKv_concat, lookup_insert, ih,
        Std.ExtTreeMap.getElem?_erase]
      by_cases hk : k = row.1
      · rw [if_pos hk, if_pos hk, if_neg]
        intro h
        exact hrow (hk.symm.trans (Std.compare_eq_iff_eq.mp h).symm)
      · rw [if_neg hk, if_neg hk]

theorem rowsKv_tableStep (id : Uuid) (rows : List (QString × Bytes × Option Uuid)) (s : SqlStmt) :
    rowsKv (tableStep id rows s) =
      if s.writes id then tableEffect s (rowsKv rows) else rowsKv rows := by
  cases s with
  | metadata_upsert key value ref_id ref_type =>
    show rowsKv (if ref_id = id then _ else _) = if (ref_id == id) = true then _ else _
    by_cases hid : ref_id = id
    · rw [if_pos hid, if_pos (beq_iff_eq.mpr hid), rowsKv_concat, rowsKv_filter]
      rfl
    · rw [if_neg hid, if_neg fun h => hid (beq_iff_eq.mp h)]
  | metadata_remove key ref_id =>
    show rowsKv (if ref_id = id then _ else _) = if (ref_id == id) = true then _ else _
    by_cases hid : ref_id = id
    · rw [if_pos hid, if_pos (beq_iff_eq.mpr hid), rowsKv_filter]
      rfl
    · rw [if_neg hid, if_neg fun h => hid (beq_iff_eq.mp h)]
  | insert_message msg => rfl
  | metadata_subscribe_bulk ref_id keys account_id => rfl
  | metadata_unsubscribe_bulk ref_id keys account_id => rfl

theorem keyedEnv_keyedTable : KeyedTable keyedEnv := by
  refine ⟨tableEffect, fun sql s id => ?_⟩
  show rowsKv (tableRows (sql ++ [s]) id) = if s.writes id then _ else rowsKv (tableRows sql id)
  unfold tableRows
  rw [List.foldl_append, List.foldl_cons, List.foldl_nil, rowsKv_tableStep]
  rfl

/-- ann makes two channels, and sets a topic on the first -/
def annSets : List Event :=
  [.connect false (ascii "127.0.0.1"), .line 0 (ascii "CAP REQ :draft/metadata"),
    .line 0 (ascii "NICK ann"), .line 0 (ascii "USER u 0 * :U"), .line 0 (ascii "CAP END"),
    .line 0 (ascii "JOIN #a"), .line 0 (ascii "JOIN #b"), .line 0 (ascii "METADATA #a SET topic :tea")]

theorem empty_distinctIds : World.empty.settings.DistinctIds := by
  intro ch ch' hch
  cases hch

set_option maxRecDepth 8000 in
/-- the second channel returns the topic of the first -/
theorem shared_rows_returned : KeyedTable keyedEnv ∧ World.empty.settings.DistinctIds ∧
    ∃ (w' : World) (own : ChanId → QMap QString QVariant) (q : QEventMetadata),
      run (recordedStep keyedEnv) (World.empty, World.empty.settings.ownStore keyedEnv)
        annSets = .ok (w', own) ∧
      eventRequest w' (.line 0 (ascii "METADATA #b GET topic")) = some (.channel 1, q) ∧
        ∃ (reply : QEventMetadata) (w2 : World), Metadata.handle keyedEnv (.channel 1) q w' = .ok (reply, w2) ∧
          reply.metadata["topic".toList]? = some (.bytes (ascii "tea")) ∧
            (own 0)["topic".toList]? = some (.bytes (ascii "tea")) ∧
              (own 1)["topic".toList]? = none :=
  ⟨keyedEnv_keyedTable, empty_distinctIds, _, _, _, rfl, rfl, _, _, rfl, rfl, rfl, rfl⟩

set_option maxRecDepth 8000 in
/-- the first channel returns what was set on it -/
theorem channel_stores_isolated_ann : ∃ (w' : World) (own : ChanId → QMap QString QVariant)
    (q : QEventMetadata) (values : QMap QString QVariant) (w2 : World),
    run (recordedStep keyedEnv) (World.empty, World.empty.settings.ownStore keyedEnv) annSets =
        .ok (w', own) ∧
      step keyedEnv w' (.line 0 (ascii "METADATA #a GET topic")) =
          .ok (metadata keyedEnv 0 { q with metadata := values } w2) ∧
        ∀ (k : QString) v, values[k]? = some v → (own 0)[k]? = some v := by
  have hcheck : checkSteps (step keyedEnv) (fun w ev => !opensShared keyedEnv w ev) World.empty
      (annSets ++ [.line 0 (ascii "METADATA #a GET topic")]) = true := by
    have hsplit : annSets ++ [.line 0 (ascii "METADATA #a GET topic")] =
        annSets.take 4 ++ .line 0 (ascii "CAP END") ::
          (annSets.drop 5 ++ [.line 0 (ascii "METADATA #a GET topic")]) := rfl
    rw [hsplit, @check_ended keyedEnv _ 0 World.empty (annSets.take 4) rfl
      ⟨fun e => by cases e <;> rfl, rfl, rfl, rfl, rfl, rfl, rfl, rfl, rfl⟩]
    rfl
  have hend : ∃ w' own q, run (recordedStep keyedEnv)
      (World.empty, World.empty.settings.ownStore keyedEnv) annSets = .ok (w', own) ∧
        eventRequest w' (.line 0 (ascii "METADATA #a GET topic")) = some (.channel 0, q) ∧
          Metadata.reads keyedEnv q = true := ⟨_, _, _, rfl, rfl, rfl⟩
  obtain ⟨w', own, q, hrun, hreq, hreads⟩ := hend
  obtain ⟨values, w2, -, hstep, hvalues⟩ := channel_stores_isolated keyedEnv_keyedTable empty_started
    empty_distinctIds ((allSteps_of_check hcheck).mono fun w ev h => by simpa using h) hrun hreq hreads
  exact ⟨w', own, q, values, w2, hrun, hstep, hvalues⟩

end Worker

end Chatripper
