import Mathlib
import Chatripper.Irc.KeyReplies
import Chatripper.Irc.Worker

/-!
# What METADATA says about a store

A reply tells what the store has after the request, if the request is not a CLEAR and if what it shows
is text.  A CLEAR is answered with an empty value for the key that it has removed.  A value comes back
as text, and so does a key, which loses a byte order mark on the way.

* `Truthful`               a reply and a store;
* `Answers`                the replies that a request asks for;
* `Answerable`             when it gets them;
* `replies_truthful_iff`   the replies of a request.
-/

/-! ## text -/

namespace Utf8
open ByteStr

theorem fromUtf8_bom (s : QString) : fromUtf8 (toUtf8 (bom :: s)) = s := decode_toUtf8 s

/-- what is read again is shorter by a byte order mark -/
theorem length_reread (s : QString) : (fromUtf8 (toUtf8 s)).length ≤ s.length ∧
    (fromUtf8 (toUtf8 s) ≠ s → (fromUtf8 (toUtf8 s)).length < s.length) := by
  cases s with
  | nil => exact ⟨le_refl _, fun h => absurd rfl h⟩
  | cons x s =>
    by_cases hx : x = bom
    · rw [hx, fromUtf8_bom]
      exact ⟨Nat.le_succ _, fun _ => Nat.lt_succ_self _⟩
    · have hsame : fromUtf8 (toUtf8 (x :: s)) = x :: s := by
        rw [fromUtf8_toUtf8, List.head?_cons]
        exact fun h => hx (Option.some.inj h)
      rw [hsame]
      exact ⟨le_refl _, fun h => absurd rfl h⟩

/-- octets of text that does not start with a byte order mark -/
theorem toUtf8_fromUtf8 {b : Bytes} :
    toUtf8 (fromUtf8 b) = b ↔ ∃ s : QString, s.head? ≠ some bom ∧ b = toUtf8 s := by
  constructor
  · intro h
    refine ⟨fromUtf8 b, ?_, h.symm⟩
    rw [← fromUtf8_toUtf8, h]
  · rintro ⟨s, hs, rfl⟩
    rw [fromUtf8_toUtf8.mpr hs]

end Utf8

namespace Chatripper
open ByteStr Utf8 Outcome

/-- a value that is shown as it is -/
def QVariant.IsText (v : QVariant) : Prop :=
  ∃ s : QString, s.head? ≠ some bom ∧ v = .bytes (toUtf8 s)

theorem QVariant.isText_iff {v : QVariant} : v.IsText ↔ v = .bytes (toUtf8 v.toString) := by
  constructor
  · rintro ⟨s, hs, rfl⟩
    show QVariant.bytes (toUtf8 s) = .bytes (toUtf8 (fromUtf8 (toUtf8 s)))
    rw [fromUtf8_toUtf8.mpr hs]
  · intro h
    cases v with
    | null => cases h
    | str s => cases h
    | bytes b =>
      have hb : b = toUtf8 (fromUtf8 b) := QVariant.bytes.inj h
      obtain ⟨s, hs, he⟩ := toUtf8_fromUtf8.mp hb.symm
      exact ⟨s, hs, congrArg QVariant.bytes he⟩

namespace client_connection
open World Metadata

/-! ## replies and the store -/

/-- a reply about `key` speaks of what `key` is read as -/
def Truthful (kv : QMap QString QVariant) : KeyReply → Prop
  | .keyValue key value => kv[fromUtf8 key]? = some (.bytes value)
  | .notSet key => kv[fromUtf8 key]? = none

/-- the keys of a store that are not internal -/
def visibleKeys (kv : QMap QString QVariant) : List QString :=
  kv.keys.filter fun k => !internal (toUtf8 k)

/-- GET is answered with a reply for each key, LIST with a value for each key of the store, SET and
CLEAR with a reply for their key -/
def Answers (cmd : QString) (args : List Bytes) (kv : QMap QString QVariant) (replies : List KeyReply) :
    Prop :=
  if cmd = "GET".toList then replies.map KeyReply.key = args
  else if cmd = "LIST".toList then
    ((replies.filter KeyReply.isValue).map fun r => fromUtf8 r.key).Perm (visibleKeys kv)
  else replies.map (fun r => fromUtf8 r.key) = (args.take 1).map fromUtf8

/-- what is shown is text, and nothing is removed -/
def Answerable (cmd : QString) (args : List Bytes) (kv : QMap QString QVariant) : Prop :=
  if cmd = "GET".toList then ∀ key ∈ args, ∀ v, kv[fromUtf8 key]? = some v → v.IsText
  else if cmd = "LIST".toList then
    ∀ (k : QString) v, kv[k]? = some v → internal (toUtf8 k) = false → k.head? ≠ some bom ∧ v.IsText
  else if cmd = "SET".toList then args = [] ∨ ∃ key value rest, args = key :: value :: rest ∧
    internal (toUtf8 (fromUtf8 key)) = false ∧ (fromUtf8 key).head? ≠ some bom ∧
      (QVariant.bytes value).IsText
  else args = []

/-- the keys that a request names -/
def requestKeys (cmd : QString) (args : List Bytes) : List Bytes :=
  if cmd = "GET".toList then args else args.take 1

section
variable {kv shown : QMap QString QVariant} {key : Bytes} {args : List Bytes}

theorem truthful_keyReply : Truthful kv (keyReply kv key) ↔
    ∀ v, kv[fromUtf8 key]? = some v → v.IsText := by
  unfold keyReply
  cases hv : kv[fromUtf8 key]? with
  | none =>
    constructor
    · intro _ v h
      cases h
    · intro _
      exact hv
  | some v =>
    constructor
    · intro h u hu
      have hsame : kv[fromUtf8 key]? = some (.bytes (toUtf8 v.toString)) := h
      rw [hv] at hsame
      cases hu
      exact QVariant.isText_iff.mpr (Option.some.inj hsame)
    · intro h
      show kv[fromUtf8 key]? = some (.bytes (toUtf8 v.toString))
      rw [hv, ← QVariant.isText_iff.mp (h v rfl)]

theorem key_keyReply : (keyReply shown key).key = key := by
  unfold keyReply
  split <;> rfl

theorem map_key_keyReplies (keys : List Bytes) :
    (keyReplies shown keys).map KeyReply.key = keys.filter fun key => !internal key := by
  unfold keyReplies
  rw [List.map_map]
  exact List.map_id'' (fun key => key_keyReply) _

theorem keyReplies_congr {keys : List Bytes}
    (h : ∀ key ∈ keys, shown[fromUtf8 key]? = kv[fromUtf8 key]?) :
    keyReplies shown keys = keyReplies kv keys := by
  unfold keyReplies
  apply List.map_congr_left
  intro key hkey
  unfold keyReply
  rw [h key (List.mem_of_mem_filter hkey)]

theorem keyReplies_visible {keys : List Bytes} (h : ∀ key ∈ keys, internal key = false) :
    keyReplies shown keys = keys.map (keyReply shown) := by
  unfold keyReplies
  rw [List.filter_eq_self.mpr fun key hkey => by rw [h key hkey]; rfl]

theorem keyReplies_internal (h : internal key = true) : keyReplies shown [key] = [] := by
  unfold keyReplies
  rw [List.filter_cons_of_neg (by rw [h]; decide)]
  rfl

theorem keyReplies_keys : keyReplies kv (kv.keys.map toUtf8) =
    (visibleKeys kv).map fun k => keyReply kv (toUtf8 k) := by
  unfold keyReplies visibleKeys
  rw [List.filter_map, List.map_map]
  rfl

theorem mem_visibleKeys {k : QString} :
    k ∈ visibleKeys kv ↔ (∃ v, kv[k]? = some v) ∧ internal (toUtf8 k) = false := by
  unfold visibleKeys
  rw [List.mem_filter, Std.ExtTreeMap.mem_keys, Std.ExtTreeMap.mem_iff_isSome_getElem?,
    Option.isSome_iff_exists, Bool.not_eq_true']

/-- a list that is permuted by something that makes strings shorter stays as it is -/
theorem reread_of_perm {l : List QString}
    (h : (l.map fun k => fromUtf8 (toUtf8 k)).Perm l) : ∀ k ∈ l, fromUtf8 (toUtf8 k) = k := by
  intro k hk
  by_contra hne
  have hsum : (l.map fun k => (fromUtf8 (toUtf8 k)).length).sum < (l.map List.length).sum :=
    List.sum_lt_sum _ _ (fun x _ => (length_reread x).1) ⟨k, hk, (length_reread k).2 hne⟩
  have hperm := (h.map List.length).sum_eq
  rw [List.map_map] at hperm
  exact absurd hperm (Nat.ne_of_lt hsum)

/-- GET -/
theorem get_iff (hkeys : ∀ key ∈ args, internal key = false) :
    ((∀ r ∈ keyReplies kv args, Truthful kv r) ∧ (keyReplies kv args).map KeyReply.key = args) ↔
      ∀ key ∈ args, ∀ v, kv[fromUtf8 key]? = some v → v.IsText := by
  have hall : (keyReplies kv args).map KeyReply.key = args := by
    rw [map_key_keyReplies, List.filter_eq_self.mpr fun key hkey => by rw [hkeys key hkey]; rfl]
  rw [and_iff_left hall, keyReplies_visible hkeys, List.forall_mem_map]
  exact forall₂_congr fun key _ => truthful_keyReply

/-- LIST -/
theorem list_iff : ((∀ r ∈ keyReplies kv (kv.keys.map toUtf8), Truthful kv r) ∧
    (((keyReplies kv (kv.keys.map toUtf8)).filter KeyReply.isValue).map
      fun r => fromUtf8 r.key).Perm (visibleKeys kv)) ↔
    ∀ (k : QString) v, kv[k]? = some v → internal (toUtf8 k) = false →
      k.head? ≠ some bom ∧ v.IsText := by
  rw [keyReplies_keys, List.forall_mem_map]
  constructor
  · rintro ⟨htruth, hperm⟩
    -- as many values as keys: every reply is a value
    have hlength : (((visibleKeys kv).map fun k => keyReply kv (toUtf8 k)).filter
        KeyReply.isValue).length = ((visibleKeys kv).map fun k => keyReply kv (toUtf8 k)).length := by
      rw [List.length_map]
      exact (List.length_map _).symm.trans hperm.length_eq
    have hfilter := List.filter_eq_self.mpr (List.length_filter_eq_length_iff.mp hlength)
    rw [hfilter, List.map_map] at hperm
    have hreread := reread_of_perm (l := visibleKeys kv) ?_
    · intro k v hv hvisible
      have hk : k ∈ visibleKeys kv := mem_visibleKeys.mpr ⟨⟨v, hv⟩, hvisible⟩
      have hsame := hreread k hk
      refine ⟨fromUtf8_toUtf8.mp hsame, truthful_keyReply.mp (htruth k hk) v ?_⟩
      rw [hsame]
      exact hv
    · refine List.Perm.trans (List.Perm.of_eq ?_) hperm
      apply List.map_congr_left
      intro k _
      show _ = fromUtf8 (keyReply kv (toUtf8 k)).key
      rw [key_keyReply]
  · intro h
    have hsame (k : QString) (hk : k ∈ visibleKeys kv) : ∃ v, kv[k]? = some v ∧ v.IsText ∧
        fromUtf8 (toUtf8 k) = k := by
      obtain ⟨⟨v, hv⟩, hvisible⟩ := mem_visibleKeys.mp hk
      obtain ⟨hbom, htext⟩ := h k v hv hvisible
      exact ⟨v, hv, htext, fromUtf8_toUtf8.mpr hbom⟩
    constructor
    · intro k hk
      obtain ⟨v, hv, htext, hk⟩ := hsame k hk
      rw [truthful_keyReply, hk]
      intro u hu
      rw [hv] at hu
      cases hu
      exact htext
    · have hvalue : ∀ r ∈ (visibleKeys kv).map fun k => keyReply kv (toUtf8 k), r.isValue = true := by
        rw [List.forall_mem_map]
        intro k hk
        obtain ⟨v, hv, -, hk⟩ := hsame k hk
        unfold keyReply
        rw [hk, hv]
        rfl
      rw [List.filter_eq_self.mpr hvalue, List.map_map]
      apply List.Perm.of_eq
      calc (visibleKeys kv).map _ = (visibleKeys kv).map id := by
            apply List.map_congr_left
            intro k hk
            obtain ⟨v, -, -, hk⟩ := hsame k hk
            show fromUtf8 (keyReply kv (toUtf8 k)).key = k
            rw [key_keyReply, hk]
        _ = visibleKeys kv := List.map_id _

theorem keys_single (k : QString) (v : QVariant) :
    ((∅ : QMap QString QVariant).insert k v).keys = [k] := by
  apply List.perm_singleton.mp
  rw [List.perm_ext_iff_of_nodup Std.ExtTreeMap.nodup_keys (List.nodup_singleton k)]
  intro x
  rw [Std.ExtTreeMap.mem_keys, Std.ExtTreeMap.mem_iff_isSome_getElem?, lookup_insert,
    Std.ExtTreeMap.getElem?_empty, List.mem_singleton]
  split <;> simp [*]

/-- one reply, for the key that came back -/
theorem single_iff {k : QString} {v : QVariant} {kv' : QMap QString QVariant} :
    ((∀ r ∈ keyReplies ((∅ : QMap QString QVariant).insert k v) [toUtf8 k], Truthful kv' r) ∧
      (keyReplies ((∅ : QMap QString QVariant).insert k v) [toUtf8 k]).map (fun r => fromUtf8 r.key) =
        [k]) ↔
    internal (toUtf8 k) = false ∧ k.head? ≠ some bom ∧
      kv'[k]? = some (.bytes (toUtf8 v.toString)) := by
  cases hinternal : internal (toUtf8 k) with
  | true =>
    rw [keyReplies_internal hinternal]
    simp
  | false =>
    rw [keyReplies_visible fun key hkey => by rw [List.mem_singleton.mp hkey]; exact hinternal]
    rw [List.map_singleton, List.forall_mem_singleton, List.map_singleton, key_keyReply,
      List.singleton_inj, fromUtf8_toUtf8]
    constructor
    · rintro ⟨htruth, hbom⟩
      refine ⟨rfl, hbom, ?_⟩
      unfold keyReply at htruth
      rw [fromUtf8_toUtf8.mpr hbom, lookup_insert, if_pos rfl] at htruth
      have hsame : kv'[fromUtf8 (toUtf8 k)]? = some (.bytes (toUtf8 v.toString)) := htruth
      rw [fromUtf8_toUtf8.mpr hbom] at hsame
      exact hsame
    · rintro ⟨-, hbom, hsame⟩
      refine ⟨?_, hbom⟩
      unfold keyReply
      rw [fromUtf8_toUtf8.mpr hbom, lookup_insert, if_pos rfl]
      show kv'[fromUtf8 (toUtf8 k)]? = some (.bytes (toUtf8 v.toString))
      rw [fromUtf8_toUtf8.mpr hbom]
      exact hsame

theorem no_replies : keyReplies shown ((∅ : QMap QString QVariant).keys.map toUtf8) = [] := by
  rw [Std.ExtTreeMap.keys_eq_nil_iff.mpr rfl]
  rfl

end

/-! ## requests -/

section
variable {env : Env} {ref : MetaRef} {ev : QEventMetadata} {kv : QMap QString QVariant}

/-- the replies to a permitted request -/
def requestReplies (env : Env) (ev : QEventMetadata) (kv : QMap QString QVariant) : List KeyReply :=
  keyReplies (shownKv env ev kv) (keysToSend (requestCmd env ev) ev.args (shownKv env ev kv))

theorem requestReplies_iff (hshows : shows env ev) (hpermitted : Permitted env ref ev)
    (hkeys : ∀ key ∈ requestKeys (requestCmd env ev) ev.args, internal key = false) :
    ((∀ r ∈ requestReplies env ev kv, Truthful (requestKv env ref ev kv) r) ∧
      Answers (requestCmd env ev) ev.args (requestKv env ref ev kv) (requestReplies env ev kv)) ↔
      Answerable (requestCmd env ev) ev.args kv := by
  unfold Answers Answerable
  unfold requestKeys at hkeys
  rcases hshows with hcmd | hcmd | hcmd | hcmd
  · have hkv : requestKv env ref ev kv = kv := by
      unfold requestKv
      rw [hcmd, if_neg (by decide), if_neg (by decide)]
    have hreplies : requestReplies env ev kv = keyReplies kv ev.args := by
      unfold requestReplies keysToSend
      rw [if_pos hcmd]
      apply keyReplies_congr
      intro key hkey
      unfold shownKv
      rw [hcmd, if_neg (by decide), if_neg (by decide), if_neg (by decide), lookup_picked,
        if_pos (List.mem_map_of_mem hkey), Std.ExtTreeMap.getElem?_empty, Option.or_none]
    rw [if_pos hcmd] at hkeys
    rw [hkv, hreplies, if_pos hcmd, if_pos hcmd]
    exact get_iff hkeys
  · have hkv : requestKv env ref ev kv = kv := by
      unfold requestKv
      rw [hcmd, if_neg (by decide), if_neg (by decide)]
    have hreplies : requestReplies env ev kv = keyReplies kv (kv.keys.map toUtf8) := by
      unfold requestReplies keysToSend shownKv
      rw [hcmd, if_neg (by decide), if_neg (by decide), if_pos rfl, if_neg (by decide)]
    rw [hkv, hreplies, hcmd, if_neg (by decide), if_pos rfl, if_neg (by decide), if_pos rfl]
    exact list_iff
  · have hkv : requestKv env ref ev kv = _ := if_pos hcmd
    have hshown : shownKv env ev kv = _ := if_pos hcmd
    unfold requestReplies keysToSend
    rw [hkv, hshown, hcmd, if_neg (by decide), if_neg (by decide), if_neg (by decide),
      if_neg (by decide), if_neg (by decide), if_pos rfl]
    cases hargs : ev.args with
    | nil =>
      rw [no_replies]
      simp
    | cons key rest =>
      cases rest with
      | nil =>
        rw [no_replies]
        simp
      | cons value rest =>
        dsimp only
        rw [if_pos (hpermitted (Or.inl hcmd)), keys_single]
        refine single_iff.trans ?_
        rw [lookup_insert, if_pos rfl, Option.some.injEq, ← QVariant.isText_iff]
        constructor
        · rintro ⟨hvisible, hbom, htext⟩
          exact Or.inr ⟨key, value, rest, rfl, hvisible, hbom, htext⟩
        · rintro (h | ⟨key', value', rest', h, hanswer⟩)
          · cases h
          · cases h
            exact hanswer
  · have hkv : requestKv env ref ev kv = _ :=
      (if_neg (by rw [hcmd]; decide)).trans (if_pos hcmd)
    have hshown : shownKv env ev kv = _ :=
      (if_neg (by rw [hcmd]; decide)).trans (if_pos hcmd)
    unfold requestReplies keysToSend
    rw [hkv, hshown, hcmd, if_neg (by decide), if_neg (by decide), if_neg (by decide),
      if_neg (by decide), if_neg (by decide), if_neg (by decide)]
    cases hargs : ev.args with
    | nil =>
      rw [no_replies]
      simp
    | cons key rest =>
      dsimp only
      rw [if_pos (hpermitted (Or.inr hcmd)), keys_single]
      refine single_iff.trans ?_
      -- the key is gone
      rw [lookup_erase, if_pos rfl]
      simp

theorem metadataTarget_saved {c : ConnId} {w : World} (m : Metadata) (ss : List SqlStmt) :
    metadataTarget c ev (saved ref m ss w) = metadataTarget c ev w := by
  unfold metadataTarget
  cases ev.dest with
  | some dest =>
    have hnick : ((saved ref m ss w).acc dest).m_nick = (w.acc dest).m_nick := by
      cases ref with
      | account a =>
        show (if dest = a then _ else w.acc dest : Account).m_nick = _
        split
        · next h => rw [h]
        · rfl
      | channel ch => rfl
    have hconn : (saved ref m ss w).conn = w.conn := by cases ref <;> rfl
    dsimp only
    unfold accNick
    rw [hnick, hconn]
  | none =>
    cases ev.channel with
    | none => rfl
    | some x =>
      cases ref with
      | account a => rfl
      | channel ch =>
        show ascii "#" ++ (if x = ch then _ else w.chan x : Channel).m_name = _
        split
        · next h => rw [h]
        · rfl

theorem metadataTargetOf_fresh {c : ConnId} {target subcmd : Bytes} {args : List Bytes}
    {account : Option AccId} {w : World}
    (h : metadataTargetOf c target { account := account, subcmd := subcmd, args := args } w =
      .ok (some (ref, ev))) :
    ev.args = args ∧ ev.metadata = ∅ ∧ ev.error_code = [] ∧ ev.subscriptions = ∅ := by
  unfold metadataTargetOf at h
  split at h
  · obtain ⟨ch, hch, heq⟩ := Option.map_eq_some_iff.mp (Except.ok.inj h)
    cases heq
    exact ⟨rfl, rfl, rfl, rfl⟩
  · obtain ⟨a, -, h⟩ := bind_eq_ok.mp h
    split at h
    · cases h
      exact ⟨rfl, rfl, rfl, rfl⟩
    · obtain ⟨b, -, heq⟩ := Option.map_eq_some_iff.mp (Except.ok.inj h)
      cases heq
      exact ⟨rfl, rfl, rfl, rfl⟩

end

/-- **The replies of a request.**  They tell what the store has after it, one for each key that was
asked for, if and only if nothing was to be removed and all that is shown is text. -/
theorem replies_truthful_iff (env : Env) (c : ConnId) (target subcmd : Bytes) (args : List Bytes)
    (w : World) (ref : MetaRef) (ev : QEventMetadata)
    (hcap : (w.conn c).capabilities.has .METADATA = true)
    (htarget : metadataTargetOf c target
      { account := (w.conn c).m_account, subcmd := subcmd, args := args } w = .ok (some (ref, ev)))
    (hshows : shows env ev) (hpermitted : Permitted env ref ev)
    (hkeys : ∀ key ∈ requestKeys (requestCmd env ev) args, internal key = false) :
    ∃ w' replies, handleMETADATA env c (target :: subcmd :: args) w = .ok w' ∧
      w'.out = w.out ++ (replyLines env (requestCmd env ev) (env.id128 w.nextBatch) (w.nick c)
        (metadataTarget c ev w) replies).map (fun line => (c, line)) ∧
      (((∀ r ∈ replies, Truthful (load env ref w').kv r) ∧
        Answers (requestCmd env ev) args (load env ref w').kv replies) ↔
        Answerable (requestCmd env ev) args (load env ref w).kv) := by
  obtain ⟨hargs, hfresh, herror, hsubs⟩ := metadataTargetOf_fresh htarget
  obtain ⟨m, hm, hhandle⟩ := @handle_shown env ref ev w hshows hpermitted hfresh
  subst hargs
  obtain ⟨w1, hw1⟩ : ∃ w1, w1 = saved ref m (requestSql env ref ev w) w := ⟨_, rfl⟩
  obtain ⟨ev1, hev1⟩ : ∃ ev1, ev1 =
    { ev with metadata := shownKv env ev (load env ref w).kv } := ⟨_, rfl⟩
  rw [← hw1, ← hev1] at hhandle
  have hrun : handleMETADATA env c (target :: subcmd :: ev.args) w =
      .ok (metadata env c ev1 w1) := by
    unfold handleMETADATA
    rw [if_neg (by simp), if_pos hcap]
    show (metadataTargetOf c target
      { account := (w.conn c).m_account, subcmd := subcmd, args := ev.args } w >>= _) = _
    rw [htarget]
    show (Metadata.handle env ref ev w >>= _) = _
    rw [hhandle]
    rfl
  have hreg : w1.reg = w.reg := by
    have hsat : Sat _ (fun r => r.2.reg = w.reg) (Metadata.handle env ref ev w) :=
      Metadata.handle_sat
    rw [hhandle] at hsat
    exact hsat
  have hnick : w1.nick c = w.nick c := nick_eq hreg c
  have htargetName : metadataTarget c ev1 w1 = metadataTarget c ev w := by
    rw [hw1, metadataTarget_saved, hev1]
    rfl
  have hout : w1.out = w.out ∧ w1.nextBatch = w.nextBatch := by
    rw [hw1]
    cases ref <;> exact ⟨rfl, rfl⟩
  have hsends := @metadata_sends env c ev1 w1 (by rw [hev1]; exact hshows) (by rw [hev1]; exact herror)
    (by rw [hev1]; exact hsubs)
  rw [hnick, htargetName, hout.2] at hsends
  refine ⟨_, requestReplies env ev (load env ref w).kv, hrun, ?_, ?_⟩
  · rw [hsends]
    show w1.out ++ _ = _
    rw [hout.1, hev1]
    rfl
  · have hload : load env ref (metadata env c ev1 w1) = m := by
      rw [hsends]
      have hsaved : load env ref w1 = m := by rw [hw1, load_saved]
      rw [← hsaved]
      cases ref <;> rfl
    rw [hload, hm]
    exact requestReplies_iff hshows hpermitted hkeys

/-- ann has set a key of her own -/
def annSetsKey : List Worker.Event :=
  [.connect false (ascii "127.0.0.1"), .line 0 (ascii "CAP REQ :draft/metadata"),
    .line 0 (ascii "NICK ann"), .line 0 (ascii "USER u 0 * :U"), .line 0 (ascii "CAP END"),
    .line 0 (ascii "METADATA * SET a :b")]

set_option maxRecDepth 8000 in
/-- a CLEAR is answered with a value for the key that is gone -/
theorem cleared_key_shown : ∃ w w', run (Worker.step Env.ascii) World.empty annSetsKey = .ok w ∧
    handleMETADATA Env.ascii 0 [ascii "*", ascii "CLEAR", ascii "a"] w = .ok w' ∧
      w'.out = w.out ++ [(0, ascii ":irc.local 761 ann * a * :" ++ crlf)] ∧
        (load Env.ascii (.account 0) w').kv["a".toList]? = none :=
  ⟨_, _, rfl, rfl, rfl, rfl⟩

def annGetsKey : QEventMetadata :=
  { account := some 0, dest := some 0, subcmd := ascii "GET", args := [ascii "a", ascii "c"] }

set_option maxRecDepth 8000 in
/-- ann asks for the key, and for one that she has not set -/
theorem replies_truthful_iff_ann : ∃ w w' replies,
    run (Worker.step Env.ascii) World.empty annSetsKey = .ok w ∧
      handleMETADATA Env.ascii 0 [ascii "*", ascii "GET", ascii "a", ascii "c"] w = .ok w' ∧
        w'.out = w.out ++ (replyLines Env.ascii "GET".toList (ascii "1") (ascii "ann") (ascii "*")
          replies).map (fun line => (0, line)) ∧
        (∀ r ∈ replies, Truthful (load Env.ascii (.account 0) w').kv r) ∧
          replies.map KeyReply.key = [ascii "a", ascii "c"] := by
  have hend : ∃ w, run (Worker.step Env.ascii) World.empty annSetsKey = .ok w ∧
      (w.conn 0).capabilities.has .METADATA = true ∧
      metadataTargetOf 0 (ascii "*")
        { account := (w.conn 0).m_account, subcmd := ascii "GET", args := [ascii "a", ascii "c"] } w =
          .ok (some (.account 0, annGetsKey)) ∧
      (load Env.ascii (.account 0) w).kv["a".toList]? = some (.bytes (ascii "b")) ∧
      (load Env.ascii (.account 0) w).kv["c".toList]? = none ∧
      w.nextBatch = 1 ∧ w.nick 0 = ascii "ann" ∧ metadataTarget 0 annGetsKey w = ascii "*" :=
    ⟨_, rfl, rfl, rfl, rfl, rfl, rfl, rfl, rfl⟩
  obtain ⟨w, hrun, hcap, htarget, ha, hc, hbatch, hnick, hname⟩ := hend
  obtain ⟨w', replies, hstep, hout, hiff⟩ := replies_truthful_iff Env.ascii 0 (ascii "*") (ascii "GET")
    [ascii "a", ascii "c"] w (.account 0) annGetsKey hcap htarget (Or.inl rfl)
    (fun h => absurd h (by decide)) (by decide)
  rw [hbatch, hnick, hname] at hout
  refine ⟨w, w', replies, hrun, hstep, hout, ?_⟩
  apply hiff.mpr
  intro key hkey v hv
  have hkeys : key = ascii "a" ∨ key = ascii "c" := by simpa using hkey
  rcases hkeys with rfl | rfl
  · have hsame : some v = some (.bytes (ascii "b")) := hv.symm.trans ha
    exact ⟨"b".toList, by decide, Option.some.inj hsame⟩
  · have hnone : some v = none := hv.symm.trans hc
    cases hnone

end client_connection

end Chatripper
