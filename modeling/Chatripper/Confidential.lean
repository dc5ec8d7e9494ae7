import Mathlib
import Chatripper.Lib.TwoRuns
import Chatripper.Irc.KeyReplies
import Chatripper.MetadataReplies

/-!
# Internal keys

Two servers whose stores differ in keys that start with `__`, and in nothing else, send the same lines
for the same METADATA requests, and their stores go on differing in such keys only.  The exception is a
byte order mark: it hides an internal key from the filter, and reading drops it again.

* `Alike`       two worlds that differ in internal keys;
* `Unmarked`, `Discreet`    a request that no byte order mark leads to an internal key;
* `request_alike`   one request;
* `internal_keys_confidential`   a run.
-/

namespace Chatripper
open ByteStr Utf8 Outcome client_connection

/-! ## stores -/

namespace Metadata

/-- the same but for internal keys -/
def KvAlike (kv kv' : QMap QString QVariant) : Prop :=
  ∀ k : QString, internal (toUtf8 k) = false → kv'[k]? = kv[k]?

structure Alike (m m' : Metadata) : Prop where
  kv : KvAlike m.kv m'.kv
  subscribers : m'.subscribers = m.subscribers

/-- neither store is loaded, or both are -/
def StoresAlike : Option Metadata → Option Metadata → Prop
  | none, none => True
  | some m, some m' => Alike m m'
  | _, _ => False

section
variable {kv kv' : QMap QString QVariant} {m m' : Metadata}

theorem Alike.refl (m : Metadata) : Alike m m := ⟨fun _ _ => rfl, rfl⟩

theorem KvAlike.insert (h : KvAlike kv kv') (key : QString) (v : QVariant) :
    KvAlike (kv.insert key v) (kv'.insert key v) := by
  intro k hk
  rw [lookup_insert, lookup_insert, h k hk]

theorem KvAlike.erase (h : KvAlike kv kv') (key : QString) :
    KvAlike (kv.erase key) (kv'.erase key) := by
  intro k hk
  rw [lookup_erase, lookup_erase, h k hk]

/-- the keys that LIST shows are the same -/
theorem KvAlike.visibleKeys (h : KvAlike kv kv') : visibleKeys kv' = visibleKeys kv := by
  have hsorted (kv : QMap QString QVariant) :
      (client_connection.visibleKeys kv).Pairwise fun a b => compare a b = .lt :=
    Std.ExtTreeMap.ordered_keys.sublist List.filter_sublist
  refine List.Perm.eq_of_pairwise ?_ (hsorted kv') (hsorted kv) ?_
  · intro a b _ _ hab hba
    have hlt : compare a a = .lt := Std.TransCmp.lt_trans hab hba
    rw [Std.compare_self] at hlt
    cases hlt
  · have hnodup (kv : QMap QString QVariant) : (client_connection.visibleKeys kv).Nodup :=
      Std.ExtTreeMap.nodup_keys.filter _
    rw [List.perm_ext_iff_of_nodup (hnodup kv') (hnodup kv)]
    intro k
    rw [mem_visibleKeys, mem_visibleKeys]
    apply and_congr_left
    intro hk
    rw [h k hk]

end

end Metadata

/-! ## worlds -/

/-- two worlds that differ in the internal keys of stores -/
structure World.Alike (w w' : World) : Prop where
  acc : ∀ a, w'.acc a = { w.acc a with m_metadata := (w'.acc a).m_metadata } ∧
    Metadata.StoresAlike (w.acc a).m_metadata (w'.acc a).m_metadata
  chan : ∀ ch, w'.chan ch = { w.chan ch with m_metadata := (w'.chan ch).m_metadata } ∧
    Metadata.StoresAlike (w.chan ch).m_metadata (w'.chan ch).m_metadata
  rest : w' = { w with acc := w'.acc, chan := w'.chan }

namespace World

section
variable {w w' : World}

theorem Alike.conn (h : Alike w w') : w'.conn = w.conn := by rw [h.rest]

theorem Alike.ctx (h : Alike w w') : w'.ctx = w.ctx := by rw [h.rest]

theorem Alike.sql (h : Alike w w') : w'.sql = w.sql := by rw [h.rest]

theorem Alike.nextBatch (h : Alike w w') : w'.nextBatch = w.nextBatch := by
  rw [h.rest]

theorem Alike.out (h : Alike w w') : w'.out = w.out := by rw [h.rest]

theorem Alike.accNick (h : Alike w w') (a : AccId) : w'.accNick a = w.accNick a := by
  unfold World.accNick
  rw [(h.acc a).1]

theorem Alike.nick (h : Alike w w') (c : ConnId) : w'.nick c = w.nick c := by
  unfold World.nick
  rw [h.conn]
  cases (w.conn c).m_account with
  | none => rfl
  | some a => exact h.accNick a

theorem Alike.emit (h : Alike w w') (c : ConnId) (data : Bytes) :
    Alike (w.emit c data) (w'.emit c data) :=
  ⟨h.acc, h.chan, congrArg (World.emit c data) h.rest⟩

theorem Alike.emits (h : Alike w w') (c : ConnId) (lines : List Bytes) :
    Alike (w.emits c lines) (w'.emits c lines) :=
  ⟨h.acc, h.chan, congrArg (World.emits c lines) h.rest⟩

theorem Alike.exec (h : Alike w w') (s : SqlStmt) : Alike (w.exec s) (w'.exec s) :=
  ⟨h.acc, h.chan, congrArg (World.exec s) h.rest⟩

theorem Alike.batch (h : Alike w w') (n : Uuid) :
    Alike { w with nextBatch := n } { w' with nextBatch := n } :=
  ⟨h.acc, h.chan, congrArg (fun w : World => { w with nextBatch := n }) h.rest⟩

end

end World

namespace Metadata
open World

section
variable {env : Env} {w w' : World} {m m' : Metadata} {ref : MetaRef}

theorem ref_id_alike (h : w.Alike w') : ref_id ref w' = ref_id ref w := by
  cases ref with
  | account a =>
    show (w'.acc a).m_uid = _
    rw [(h.acc a).1]
    rfl
  | channel ch =>
    show (w'.chan ch).uid = _
    rw [(h.chan ch).1]
    rfl

theorem Alike.save (h : w.Alike w') (hm : Alike m m') : (save ref m w).Alike (save ref m' w') := by
  cases ref with
  | account a =>
    have hrest : save (.account a) m' w' =
        { save (.account a) m w with acc := (save (.account a) m' w').acc, chan := w'.chan } :=
      congrArg (fun v : World => { v with acc := (Metadata.save (.account a) m' w').acc }) h.rest
    refine ⟨fun x => ?_, h.chan, hrest⟩
    show (if x = a then { w'.acc a with m_metadata := some m' } else w'.acc x : Account) =
        { (if x = a then { w.acc a with m_metadata := some m } else w.acc x : Account) with
          m_metadata := (if x = a then { w'.acc a with m_metadata := some m' }
            else w'.acc x : Account).m_metadata } ∧
      StoresAlike (if x = a then { w.acc a with m_metadata := some m } else w.acc x : Account).m_metadata
        (if x = a then { w'.acc a with m_metadata := some m' } else w'.acc x : Account).m_metadata
    by_cases hx : x = a
    · rw [if_pos hx, if_pos hx]
      exact ⟨congrArg (fun k : Account => { k with m_metadata := some m' }) (h.acc a).1, hm⟩
    · rw [if_neg hx, if_neg hx]
      exact h.acc x
  | channel ch =>
    have hrest : save (.channel ch) m' w' =
        { save (.channel ch) m w with acc := w'.acc, chan := (save (.channel ch) m' w').chan } :=
      congrArg (fun v : World => { v with chan := (Metadata.save (.channel ch) m' w').chan }) h.rest
    refine ⟨h.acc, fun x => ?_, hrest⟩
    show (if x = ch then { w'.chan ch with m_metadata := some m' } else w'.chan x : Channel) =
        { (if x = ch then { w.chan ch with m_metadata := some m } else w.chan x : Channel) with
          m_metadata := (if x = ch then { w'.chan ch with m_metadata := some m' }
            else w'.chan x : Channel).m_metadata } ∧
      StoresAlike (if x = ch then { w.chan ch with m_metadata := some m } else w.chan x : Channel).m_metadata
        (if x = ch then { w'.chan ch with m_metadata := some m' } else w'.chan x : Channel).m_metadata
    by_cases hx : x = ch
    · rw [if_pos hx, if_pos hx]
      exact ⟨congrArg (fun k : Channel => { k with m_metadata := some m' }) (h.chan ch).1, hm⟩
    · rw [if_neg hx, if_neg hx]
      exact h.chan x

/-- what the databases give differs in internal keys only -/
def TablesAlike (env env' : Env) : Prop :=
  ∀ (w : World) id, Alike (metadata_get env id w) (metadata_get env' id w)

theorem load_alike {env' : Env} (htables : TablesAlike env env') (h : w.Alike w') (ref : MetaRef) :
    Alike (load env ref w) (load env' ref w') := by
  have hget : metadata_get env' (ref_id ref w') w' = metadata_get env' (ref_id ref w) w := by
    unfold metadata_get
    rw [ref_id_alike h, h.sql, h.ctx]
  have hstored : StoresAlike (stored ref w) (stored ref w') := by
    cases ref with
    | account a => exact (h.acc a).2
    | channel ch => exact (h.chan ch).2
  unfold load
  rw [hget]
  cases hs : stored ref w with
  | none =>
    cases hs' : stored ref w' with
    | none => exact htables w (ref_id ref w)
    | some m' =>
      rw [hs, hs'] at hstored
      exact hstored.elim
  | some m =>
    cases hs' : stored ref w' with
    | none =>
      rw [hs, hs'] at hstored
      exact hstored.elim
    | some m' =>
      rw [hs, hs'] at hstored
      exact hstored

end

end Metadata

/-- the same server on another database -/
def Env.withRows (env : Env) (rows : List SqlStmt → Uuid → List (QString × Bytes × Option Uuid)) :
    Env :=
  { env with metadataRows := rows }

/-! ## the answer -/

namespace client_connection
open World Metadata

section
variable {env : Env} {rows : List SqlStmt → Uuid → List (QString × Bytes × Option Uuid)} {c : ConnId}
  {w w' : World} {e : QEventMetadata} {md : QMap QString QVariant}

/-- the same replies about keys -/
def RepliesAlike (env : Env) (e : QEventMetadata) (md : QMap QString QVariant) : Prop :=
  keyReplies md (keysToSend (requestCmd env e) e.args md) =
    keyReplies e.metadata (keysToSend (requestCmd env e) e.args e.metadata)

theorem metadataTarget_alike (h : w.Alike w') :
    metadataTarget c { e with metadata := md } w' = metadataTarget c e w := by
  unfold metadataTarget
  dsimp only
  rw [h.conn]
  cases e.dest with
  | some dest =>
    dsimp only
    rw [h.accNick]
  | none =>
    cases e.channel with
    | none => rfl
    | some ch =>
      dsimp only
      rw [(h.chan ch).1]

theorem metadataLines_alike (h : w.Alike w') (lead targetName : Bytes) {keys keys' : List Bytes}
    (hreplies : keyReplies md keys' = keyReplies e.metadata keys) :
    (metadataLines c e lead targetName keys w).Alike
      (metadataLines c { e with metadata := md } lead targetName keys' w') := by
  rw [metadataLines_eq, metadataLines_eq, hreplies, h.nick]
  exact h.emits c _

theorem metadata_alike (h : w.Alike w') (hreplies : RepliesAlike env e md) :
    (metadata env c e w).Alike (metadata (env.withRows rows) c { e with metadata := md } w') := by
  have hsubs (f : QString × QSet AccId → World → World)
      (hf : ∀ kv w w', World.Alike w w' → (f kv w).Alike (f kv w'))
      (l : List (QString × QSet AccId)) (w w' : World) (h : w.Alike w') :
      (l.foldl (fun w kv => f kv w) w).Alike (l.foldl (fun w kv => f kv w) w') := by
    induction l generalizing w w' with
    | nil => exact h
    | cons kv l ih => exact ih _ _ (hf kv w w' h)
  unfold metadata Env.withRows
  dsimp only
  rw [metadataTarget_alike h]
  by_cases herror : e.error_code ≠ []
  · rw [if_pos herror, if_pos herror]
    exact h.emit c _
  · rw [if_neg herror, if_neg herror]
    refine hsubs (fun kv w =>
      if kv.2.toList.map w.accNick = [] then w
      else w.emit c (words [ascii ":" ++ env.serverName, ascii "770", w.nick c, toUtf8 kv.1,
        join (ascii " ") (kv.2.toList.map w.accNick), crlf])) ?_ _ _ _ ?_
    · intro kv w w' h
      have hnicks : w'.accNick = w.accNick := funext h.accNick
      rw [hnicks, h.nick]
      split
      · exact h
      · exact h.emit c _
    · unfold RepliesAlike keysToSend requestCmd at hreplies
      by_cases hframed : env.toUpper (fromUtf8 e.subcmd) = "GET".toList ∨
          env.toUpper (fromUtf8 e.subcmd) = "LIST".toList ∨
          env.toUpper (fromUtf8 e.subcmd) = "SYNC".toList
      · rw [if_pos hframed, if_pos hframed, h.nextBatch]
        exact (metadataLines_alike ((h.batch _).emit c _) _ _ hreplies).emit c _
      · rw [if_neg hframed, if_neg hframed]
        have hget : ¬ env.toUpper (fromUtf8 e.subcmd) = "GET".toList := fun hget =>
          hframed (Or.inl hget)
        rw [if_neg hget, if_neg hget] at hreplies
        split
        · exact metadataLines_alike h _ _ hreplies
        · exact h

/-- no byte order mark leads to an internal key -/
def Unmarked (env : Env) (ref : MetaRef) (e : QEventMetadata) (w : World) : Prop :=
  (requestCmd env e = "GET".toList →
    ∀ key ∈ e.args, internal (toUtf8 (fromUtf8 key)) = true → internal key = true) ∧
  (requestCmd env e = "LIST".toList →
    ∀ k : QString, bom :: k ∈ (load env ref w).kv → internal (toUtf8 k) = false)

theorem get_alike {kv kv' : QMap QString QVariant} (h : KvAlike kv kv') {args : List Bytes}
    (hunmarked : ∀ key ∈ args, internal (toUtf8 (fromUtf8 key)) = true → internal key = true)
    (s : QMap QString QVariant) :
    keyReplies (picked kv' args s) args = keyReplies (picked kv args s) args := by
  unfold keyReplies
  apply List.map_congr_left
  intro key hkey
  obtain ⟨hmem, hvisible⟩ := List.mem_filter.mp hkey
  have hread : internal (toUtf8 (fromUtf8 key)) = false := by
    rw [Bool.eq_false_iff]
    intro hinternal
    rw [hunmarked key hmem hinternal] at hvisible
    cases hvisible
  unfold keyReply
  rw [lookup_picked, lookup_picked, h _ hread]

theorem list_alike {kv kv' : QMap QString QVariant} (h : KvAlike kv kv')
    (hunmarked : ∀ k : QString, bom :: k ∈ kv → internal (toUtf8 k) = false) :
    keyReplies kv' (kv'.keys.map toUtf8) = keyReplies kv (kv.keys.map toUtf8) := by
  rw [keyReplies_keys, keyReplies_keys, h.visibleKeys]
  apply List.map_congr_left
  intro k hk
  obtain ⟨⟨v, hv⟩, hvisible⟩ := mem_visibleKeys.mp hk
  have hread : internal (toUtf8 (fromUtf8 (toUtf8 k))) = false := by
    by_cases hbom : k.head? = some bom
    · cases k with
      | nil => cases hbom
      | cons x k =>
        obtain rfl : x = bom := Option.some.inj hbom
        rw [fromUtf8_bom]
        apply hunmarked
        rw [Std.ExtTreeMap.mem_iff_isSome_getElem?, hv]
        rfl
    · rw [fromUtf8_toUtf8.mpr hbom]
      exact hvisible
  unfold keyReply
  rw [h _ hread]

/-- the two sides of a request: worlds and events -/
def HandledAlike (env : Env) (p p' : QEventMetadata × World) : Prop :=
  p.2.Alike p'.2 ∧ ∃ md, p'.1 = { p.1 with metadata := md } ∧ RepliesAlike env p.1 md

theorem HandledAlike.same (h : w.Alike w') (e : QEventMetadata) : HandledAlike env (e, w) (e, w') :=
  ⟨h, e.metadata, rfl, rfl⟩

theorem sub_alike {m m' : Metadata} {ref : MetaRef} (h : w.Alike w') (hm : Alike m m') (actor : AccId)
    (keys : List Bytes) : (sub ref actor keys m w).Alike (sub ref actor keys m' w') := by
  have huid : (w'.acc actor).m_uid = (w.acc actor).m_uid := by rw [(h.acc actor).1]
  unfold sub
  rw [ref_id_alike h, huid, hm.subscribers]
  refine World.Alike.exec (Metadata.Alike.save h ?_) _
  exact ⟨hm.kv, rfl⟩

theorem unsub_alike {m m' : Metadata} {ref : MetaRef} (h : w.Alike w') (hm : Alike m m')
    (actor : AccId) (keys : List Bytes) :
    (unsub ref actor keys m w).Alike (unsub ref actor keys m' w') := by
  have huid : (w'.acc actor).m_uid = (w.acc actor).m_uid := by rw [(h.acc actor).1]
  unfold unsub
  rw [ref_id_alike h, huid, hm.subscribers]
  refine World.Alike.exec (Metadata.Alike.save h ?_) _
  exact ⟨hm.kv, rfl⟩

theorem handle_alike {ref : MetaRef} (htables : TablesAlike env (env.withRows rows))
    (h : w.Alike w') (hfresh : e.metadata = ∅) (hunmarked : Unmarked env ref e w) :
    Both (HandledAlike env) (Metadata.handle env ref e w)
      (Metadata.handle (env.withRows rows) ref e w') := by
  have hload := load_alike htables h ref
  obtain ⟨m, hm⟩ : ∃ m, m = load env ref w := ⟨_, rfl⟩
  obtain ⟨m', hm'⟩ : ∃ m', m' = load (env.withRows rows) ref w' := ⟨_, rfl⟩
  unfold Unmarked at hunmarked
  rw [← hm, ← hm'] at hload
  rw [← hm] at hunmarked
  have hs : (save ref m w).Alike (save ref m' w') := Metadata.Alike.save h hload
  have hnick (a : AccId) : (save ref m' w').accNick a = (save ref m w).accNick a := hs.accNick a
  unfold Metadata.handle
  dsimp only
  rw [← hm, ← hm']
  refine Both.ite (fun _ => ?_) fun _ => Both.ite (fun _ => ?_) fun _ => Both.ite (fun hlist => ?_)
    fun _ => Both.ite (fun hget => ?_) fun _ => Both.ite (fun _ => ?_) fun _ => Both.ite (fun _ => ?_)
    fun _ => Both.ite (fun _ => ?_) fun _ => ?_
  · split
    · split
      · rw [hnick]
        exact HandledAlike.same hs _
      · next key value rest _ _ =>
        refine ⟨?_, _, rfl, rfl⟩
        unfold Metadata.set
        rw [ref_id_alike hs]
        refine World.Alike.exec (Metadata.Alike.save hs ?_) _
        exact ⟨hload.kv.insert _ _, hload.subscribers⟩
    · exact HandledAlike.same hs _
  · split
    · split
      · rw [hnick]
        exact HandledAlike.same hs _
      · refine ⟨?_, _, rfl, rfl⟩
        unfold remove
        rw [ref_id_alike hs]
        refine World.Alike.exec (Metadata.Alike.save hs ?_) _
        exact ⟨hload.kv.erase _, hload.subscribers⟩
    · exact HandledAlike.same hs _
  · refine ⟨hs, _, rfl, ?_⟩
    unfold RepliesAlike keysToSend requestCmd
    dsimp only
    rw [hfresh, foldl_insert_toList, foldl_insert_toList, hlist, if_neg (by decide), if_neg (by decide)]
    exact list_alike hload.kv (hunmarked.2 hlist)
  · refine ⟨hs, _, rfl, ?_⟩
    unfold RepliesAlike keysToSend requestCmd
    dsimp only
    rw [hget, if_pos rfl, if_pos rfl]
    exact get_alike hload.kv (hunmarked.1 hget) _
  · cases e.account with
    | none => exact rfl
    | some actor => exact ⟨sub_alike hs hload actor _, _, rfl, rfl⟩
  · cases e.account with
    | none => exact rfl
    | some actor => exact ⟨unsub_alike hs hload actor _, _, rfl, rfl⟩
  · rw [hload.subscribers]
    exact HandledAlike.same hs _
  · exact HandledAlike.same hs _

/-! ## requests -/

theorem metadataTargetOf_alike (h : w.Alike w') (target : Bytes) :
    metadataTargetOf c target e w' = metadataTargetOf c target e w := by
  unfold metadataTargetOf Channel.get Ctx.irc_nick_get
  rw [h.conn, h.ctx]
  cases (w.conn c).m_account with
  | none => rfl
  | some a =>
    dsimp only [deref, bind, Except.bind]
    rw [h.accNick]

/-- the request of a METADATA is plain -/
def Discreet (env : Env) (w : World) (r : ConnId × List Bytes) : Prop :=
  ∀ ref ev, metadataRequest r.1 .METADATA r.2 w = some (ref, ev) → Unmarked env ref ev w

theorem request_alike (htables : TablesAlike env (env.withRows rows)) (h : w.Alike w')
    (args : List Bytes) (hunmarked : Discreet env w (c, args)) :
    Both World.Alike (handleMETADATA env c args w) (handleMETADATA (env.withRows rows) c args w') := by
  have hshort (w w' : World) (h : w.Alike w') :
      (reply_num env c 461 (ascii "METADATA :Not enough parameters") w).Alike
        (reply_num (env.withRows rows) c 461 (ascii "METADATA :Not enough parameters") w') := by
    unfold reply_num
    rw [h.nick]
    exact h.emit c _
  cases args with
  | nil => exact hshort w w' h
  | cons target args =>
    cases args with
    | nil => exact hshort w w' h
    | cons subcmd rest =>
      unfold handleMETADATA
      refine Both.ite (fun hlength => absurd hlength (by simp)) fun _ => ?_
      rw [h.conn]
      refine Both.ite (fun hcap => ?_) fun _ => h
      show Both _ (metadataTargetOf c target
          { account := (w.conn c).m_account, subcmd := subcmd, args := rest } w >>= _)
        (metadataTargetOf c target
          { account := (w.conn c).m_account, subcmd := subcmd, args := rest } w' >>= _)
      rw [metadataTargetOf_alike h]
      cases htarget : metadataTargetOf c target
          { account := (w.conn c).m_account, subcmd := subcmd, args := rest } w with
      | error x => exact rfl
      | ok r =>
        cases r with
        | none =>
          show World.Alike (send_raw env c _ w) (send_raw env c _ w')
          rw [h.nick]
          exact h.emit c _
        | some p =>
          obtain ⟨ref, ev⟩ := p
          obtain ⟨-, hfresh, -⟩ := metadataTargetOf_fresh htarget
          have hrequest : metadataRequest c .METADATA (target :: subcmd :: rest) w =
              some (ref, ev) := by
            unfold metadataRequest
            dsimp only
            rw [if_pos hcap, htarget]
            rfl
          refine (handle_alike htables h hfresh (hunmarked ref ev hrequest)).bind ?_
          intro p p' hp
          obtain ⟨hworlds, md, hev, hreplies⟩ := hp
          obtain ⟨ev', w1'⟩ := p'
          obtain rfl : ev' = _ := hev
          exact metadata_alike hworlds hreplies

end

/-- a METADATA of a connection -/
def request (env : Env) (w : World) (r : ConnId × List Bytes) : Except Fault World :=
  handleMETADATA env r.1 r.2 w

/-- **A run.**  Two servers that differ in internal keys send the same lines, and go on differing in
internal keys only, as long as no byte order mark leads to such a key. -/
theorem internal_keys_confidential {env : Env}
    {rows : List SqlStmt → Uuid → List (QString × Bytes × Option Uuid)} {w w' : World}
    {reqs : List (ConnId × List Bytes)} (htables : TablesAlike env (env.withRows rows))
    (h : w.Alike w') (hunmarked : AllSteps (request env) (Discreet env) w reqs) :
    Both (fun v v' => v'.out = v.out ∧ World.Alike v v') (run (request env) w reqs)
      (run (request (env.withRows rows)) w' reqs) := by
  refine Both.mono ?_ (fun v v' hv => ⟨hv.out, hv⟩)
  exact run_both (fun v v' r hv hr => request_alike htables hv r.2 hr) h hunmarked

/-- the name of an internal key, and its octets after a byte order mark -/
def secretKey : QString := "__x".toList

def hiddenKey : Bytes := toUtf8 (bom :: secretKey)

def secretStore (value : Bytes) : Metadata where
  kv := (∅ : QMap QString QVariant).insert secretKey (.bytes value)

def annReady : Conn where
  m_account := some 0
  is_ready := true
  capabilities := Flags.setAll ⟨0⟩ [.METADATA]

def annAccount (value : Bytes) : Account where
  m_nick := ascii "ann"
  connections := [0]
  m_metadata := some (secretStore value)

/-- ann is ready, and her store has an internal key -/
def annKeeps (value : Bytes) : World :=
  { World.empty with conn := fun _ => annReady, acc := fun _ => annAccount value }

theorem annKeeps_alike (value value' : Bytes) : (annKeeps value).Alike (annKeeps value') := by
  have hkv : Alike (secretStore value) (secretStore value') := by
    refine ⟨fun k hk => ?_, rfl⟩
    have hne : k ≠ secretKey := by
      intro h
      rw [h] at hk
      exact absurd hk (by decide)
    unfold secretStore
    rw [lookup_insert, lookup_insert, if_neg hne, if_neg hne]
  exact ⟨fun _ => ⟨rfl, hkv⟩, fun _ => ⟨rfl, trivial⟩, rfl⟩

/-- a byte order mark before the key, and its value is shown -/
theorem hidden_key_shown : (annKeeps (ascii "s")).Alike (annKeeps (ascii "t")) ∧ ∃ w1 w1',
    request Env.ascii (annKeeps (ascii "s")) (0, [ascii "*", ascii "GET", hiddenKey]) = .ok w1 ∧
    request Env.ascii (annKeeps (ascii "t")) (0, [ascii "*", ascii "GET", hiddenKey]) = .ok w1' ∧
    (0, ascii "@batch=1 761 ann * " ++ hiddenKey ++ ascii " * :s" ++ crlf) ∈ w1.out ∧
    (0, ascii "@batch=1 761 ann * " ++ hiddenKey ++ ascii " * :t" ++ crlf) ∈ w1'.out ∧
      w1'.out ≠ w1.out := by
  refine ⟨annKeeps_alike _ _, _, _, rfl, rfl, ?_, ?_, ?_⟩
  · exact List.mem_of_getElem? (i := 1) rfl
  · exact List.mem_of_getElem? (i := 1) rfl
  · intro h
    have hline := congrArg (fun out : List (ConnId × Bytes) => out[1]?) h
    exact absurd hline (by decide)

/-- ann lists her store -/
theorem internal_keys_confidential_ann : ∃ w1 w1',
    run (request Env.ascii) (annKeeps (ascii "s")) [(0, [ascii "*", ascii "LIST"])] = .ok w1 ∧
    run (request (Env.ascii.withRows Env.ascii.metadataRows)) (annKeeps (ascii "t"))
      [(0, [ascii "*", ascii "LIST"])] = .ok w1' ∧ w1'.out = w1.out := by
  have hunmarked : AllSteps (request Env.ascii) (Discreet Env.ascii) (annKeeps (ascii "s"))
      [(0, [ascii "*", ascii "LIST"])] := by
    refine ⟨fun ref ev h => ?_, fun _ _ => trivial⟩
    have hrequest : metadataRequest 0 .METADATA [ascii "*", ascii "LIST"] (annKeeps (ascii "s")) =
        some (.account 0, { account := some 0, dest := some 0, subcmd := ascii "LIST", args := [] }) :=
      rfl
    rw [hrequest] at h
    cases h
    refine ⟨fun h => absurd h (by decide), fun _ k hk => ?_⟩
    have hmem : bom :: k ∈ (∅ : QMap QString QVariant).insert secretKey (.bytes (ascii "s")) := hk
    rw [Std.ExtTreeMap.mem_insert] at hmem
    rcases hmem with hmem | hmem
    · have hhead : secretKey.head? = some bom := congrArg List.head? (Std.compare_eq_iff_eq.mp hmem)
      exact absurd hhead (by decide)
    · exact absurd hmem Std.ExtTreeMap.not_mem_empty
  have hboth := internal_keys_confidential (fun w id => Alike.refl _)
    (annKeeps_alike (ascii "s") (ascii "t")) hunmarked
  have hrun : ∃ w1, run (request Env.ascii) (annKeeps (ascii "s")) [(0, [ascii "*", ascii "LIST"])] =
      .ok w1 := ⟨_, rfl⟩
  obtain ⟨w1, hrun⟩ := hrun
  obtain ⟨w1', hrun', hout, -⟩ := hboth.of_ok hrun
  exact ⟨w1, w1', hrun, hrun', hout⟩

end client_connection

end Chatripper
