import Mathlib
import Chatripper.Core.Maps
import Chatripper.Irc.Stores

/-!
# The replies about keys

A GET, LIST, SET or CLEAR is answered with one line for each key that is not internal: 761 with the
value that the request event came back with, or 766.  GET and LIST are framed by a batch.

* `shownKv`          the values that the event comes back with;
* `handle_shown`     the store's side of a request;
* `metadata_sends`   the lines.
-/

namespace Chatripper
open ByteStr Utf8 Outcome

/-! ## the store's side -/

namespace Metadata

section
variable {env : Env} {ref : MetaRef} {ev : QEventMetadata} {w : World}

/-- a request that is answered key by key -/
def shows (env : Env) (ev : QEventMetadata) : Prop :=
  requestCmd env ev = "GET".toList ∨ requestCmd env ev = "LIST".toList ∨
    requestCmd env ev = "SET".toList ∨ requestCmd env ev = "CLEAR".toList

/-- what a GET picks for the keys that it is asked for -/
def picked (kv : QMap QString QVariant) (args : List Bytes) (s : QMap QString QVariant) :
    QMap QString QVariant :=
  args.foldl (fun s key =>
    match kv[fromUtf8 key]? with
    | some v => s.insert (fromUtf8 key) v
    | none => s) s

/-- the values that a permitted request comes back with -/
def shownKv (env : Env) (ev : QEventMetadata) (kv : QMap QString QVariant) : QMap QString QVariant :=
  if requestCmd env ev = "SET".toList then
    match ev.args with
    | key :: value :: _ => (∅ : QMap QString QVariant).insert (fromUtf8 key) (.bytes value)
    | _ => ∅
  else if requestCmd env ev = "CLEAR".toList then
    match ev.args with
    | key :: _ => (∅ : QMap QString QVariant).insert (fromUtf8 key) .null
    | [] => ∅
  else if requestCmd env ev = "LIST".toList then kv
  else picked kv ev.args ∅

/-- a GET comes back with what the store has for each key that was asked for -/
theorem lookup_picked (kv : QMap QString QVariant) (args : List Bytes) (s : QMap QString QVariant)
    (k : QString) : (picked kv args s)[k]? =
      if k ∈ args.map fromUtf8 then kv[k]?.or s[k]? else s[k]? := by
  induction args generalizing s with
  | nil => rfl
  | cons key args ih =>
    have hone : (picked kv [key] s)[k]? = if k = fromUtf8 key then kv[k]?.or s[k]? else s[k]? := by
      unfold picked
      rw [List.foldl_cons, List.foldl_nil]
      by_cases hk : k = fromUtf8 key
      · rw [if_pos hk, hk]
        cases kv[fromUtf8 key]? with
        | none => rfl
        | some v =>
          dsimp only
          rw [lookup_insert, if_pos rfl]
          rfl
      · rw [if_neg hk]
        cases kv[fromUtf8 key]? with
        | none => rfl
        | some v =>
          dsimp only
          rw [lookup_insert, if_neg hk]
    have hcons : picked kv (key :: args) s = picked kv args (picked kv [key] s) := rfl
    rw [hcons, ih, hone, List.map_cons]
    by_cases hk : k = fromUtf8 key
    · have hmem : k ∈ fromUtf8 key :: args.map fromUtf8 := hk ▸ List.mem_cons_self
      rw [if_pos hk, if_pos hmem, ← Option.or_assoc, Option.or_self, ite_self]
    · rw [if_neg hk]
      apply if_congr
      · rw [List.mem_cons, or_iff_right hk]
      · rfl
      · rfl

/-- SET and CLEAR may be refused -/
def Permitted (env : Env) (ref : MetaRef) (ev : QEventMetadata) : Prop :=
  requestCmd env ev = "SET".toList ∨ requestCmd env ev = "CLEAR".toList → refused ref ev = none

/-- **The store.**  What a permitted request comes back with. -/
theorem handle_shown (hshows : shows env ev) (hpermitted : Permitted env ref ev)
    (hfresh : ev.metadata = ∅) : ∃ m : Metadata, m.kv = requestKv env ref ev (load env ref w).kv ∧
      handle env ref ev w = .ok ({ ev with metadata := shownKv env ev (load env ref w).kv },
        saved ref m (requestSql env ref ev w) w) := by
  have hsat : Sat (fun _ => True) (fun r => Requested env ref ev w r.2) (handle env ref ev w) :=
    handle_request
  have hshown : ∃ w', handle env ref ev w =
      .ok ({ ev with metadata := shownKv env ev (load env ref w).kv }, w') := by
    have hblank : { ev with metadata := (∅ : QMap QString QVariant) } = ev := by rw [← hfresh]
    unfold handle
    dsimp only
    rcases hshows with hcmd | hcmd | hcmd | hcmd
    · have hkv : shownKv env ev (load env ref w).kv = _ :=
        (if_neg (by rw [hcmd]; decide)).trans ((if_neg (by rw [hcmd]; decide)).trans
          (if_neg (by rw [hcmd]; decide)))
      unfold requestCmd at hcmd
      rw [hcmd, if_neg (by decide), if_neg (by decide), if_neg (by decide), if_pos rfl, hkv, hfresh]
      exact ⟨_, rfl⟩
    · have hkv : shownKv env ev (load env ref w).kv = _ :=
        (if_neg (by rw [hcmd]; decide)).trans ((if_neg (by rw [hcmd]; decide)).trans
          (if_pos hcmd))
      unfold requestCmd at hcmd
      rw [hcmd, if_neg (by decide), if_neg (by decide), if_pos rfl, hkv, hfresh,
        foldl_insert_toList]
      exact ⟨_, rfl⟩
    · have hkv : shownKv env ev (load env ref w).kv = _ := if_pos hcmd
      have hallowed := hpermitted (Or.inl hcmd)
      unfold requestCmd at hcmd
      rw [hcmd, if_pos rfl]
      split
      · next key value rest hargs =>
        rw [hargs] at hkv
        rw [hallowed, hkv, hfresh]
        exact ⟨_, rfl⟩
      · next hshort =>
        have hnone : shownKv env ev (load env ref w).kv = ∅ := by
          rw [hkv]
          split
          · next key value rest hargs => exact (hshort key value rest hargs).elim
          · rfl
        rw [hnone, hblank]
        exact ⟨_, rfl⟩
    · have hkv : shownKv env ev (load env ref w).kv = _ :=
        (if_neg (by rw [hcmd]; decide)).trans (if_pos hcmd)
      have hallowed := hpermitted (Or.inr hcmd)
      unfold requestCmd at hcmd
      rw [hcmd, if_neg (by decide), if_pos rfl]
      split
      · next key rest hargs =>
        rw [hargs] at hkv
        rw [hallowed, hkv, hfresh]
        exact ⟨_, rfl⟩
      · next hargs =>
        rw [hargs] at hkv
        rw [hkv]
        dsimp only
        rw [hblank]
        exact ⟨_, rfl⟩
  obtain ⟨w', hw'⟩ := hshown
  rw [hw'] at hsat
  obtain ⟨m, hm, heq⟩ := hsat
  refine ⟨m, hm, ?_⟩
  rw [hw']
  exact congrArg (fun x => Except.ok (_, x)) heq

end

end Metadata

/-! ## the lines -/

namespace client_connection
open World Metadata

/-- a reply about a key: `RPL_KEYVALUE` or `RPL_KEYNOTSET` -/
inductive KeyReply where
  | keyValue (key value : Bytes)
  | notSet (key : Bytes)

namespace KeyReply

def key : KeyReply → Bytes
  | keyValue key _ => key
  | notSet key => key

def isValue : KeyReply → Bool
  | keyValue _ _ => true
  | notSet _ => false

def line (lead nick targetName : Bytes) : KeyReply → Bytes
  | keyValue key value => words [lead, ascii "761", nick, targetName, key, ascii "*",
      ascii ":" ++ value ++ crlf]
  | notSet key => words [lead, ascii "766", nick, targetName, key, ascii ":key not set" ++ crlf]

end KeyReply

/-- a key that is of the server only -/
def internal (key : Bytes) : Bool := (ascii "__").isPrefixOf key

def keyReply (shown : QMap QString QVariant) (key : Bytes) : KeyReply :=
  match shown[fromUtf8 key]? with
  | none => .notSet key
  | some value => .keyValue key (toUtf8 value.toString)

def keyReplies (shown : QMap QString QVariant) (keys : List Bytes) : List KeyReply :=
  (keys.filter fun key => !internal key).map (keyReply shown)

/-- is the answer framed by a batch -/
def framed (cmd : QString) : Prop := cmd = "GET".toList ∨ cmd = "LIST".toList ∨ cmd = "SYNC".toList

instance (cmd : QString) : Decidable (framed cmd) := inferInstanceAs (Decidable (_ ∨ _ ∨ _))

/-- the keys of the request or of the values that came back -/
def keysToSend (cmd : QString) (args : List Bytes) (shown : QMap QString QVariant) : List Bytes :=
  if cmd = "GET".toList then args else shown.keys.map toUtf8

/-- the lines of the answer -/
def replyLines (env : Env) (cmd : QString) (batchRef nick targetName : Bytes)
    (replies : List KeyReply) : List Bytes :=
  if framed cmd then
    [words [ascii ":" ++ env.serverName, ascii "BATCH +" ++ batchRef ++ ascii " metadata" ++ crlf]] ++
      replies.map (KeyReply.line (ascii "@batch=" ++ batchRef) nick targetName) ++
      [words [ascii ":" ++ env.serverName, ascii "BATCH -" ++ batchRef ++ crlf]]
  else replies.map (KeyReply.line (ascii ":" ++ env.serverName) nick targetName)

end client_connection

/-- a connection is sent these lines -/
def World.emits (c : ConnId) (lines : List Bytes) (w : World) : World :=
  { w with out := w.out ++ lines.map fun line => (c, line) }

theorem World.emits_nil (c : ConnId) (w : World) : w.emits c [] = w := by
  unfold emits
  rw [List.map_nil, List.append_nil]

theorem World.emits_cons (c : ConnId) (line : Bytes) (lines : List Bytes) (w : World) :
    w.emits c (line :: lines) = (w.emit c line).emits c lines := by
  unfold emits emit
  rw [List.map_cons, List.append_cons]

theorem World.emits_concat (c : ConnId) (line : Bytes) (lines : List Bytes) (w : World) :
    w.emits c (lines ++ [line]) = (w.emits c lines).emit c line := by
  unfold emits emit
  rw [List.map_append, ← List.append_assoc]
  rfl

namespace client_connection
open World Metadata

section
variable {env : Env} {c : ConnId} {ev : QEventMetadata} {w : World}

theorem metadataLines_eq (lead targetName : Bytes) (keys : List Bytes) (w : World) :
    metadataLines c ev lead targetName keys w =
      w.emits c ((keyReplies ev.metadata keys).map (KeyReply.line lead (w.nick c) targetName)) := by
  induction keys generalizing w with
  | nil => exact (emits_nil c w).symm
  | cons key keys ih =>
    unfold metadataLines at ih ⊢
    rw [List.foldl_cons]
    unfold keyReplies at ih ⊢
    by_cases hkey : internal key = true
    · rw [List.filter_cons_of_neg (by rw [hkey]; decide)]
      unfold internal at hkey
      rw [if_pos hkey]
      exact ih w
    · have hvisible : internal key = false := Bool.eq_false_iff.mpr hkey
      rw [List.filter_cons_of_pos (by rw [hvisible]; rfl), List.map_cons, List.map_cons, emits_cons]
      unfold internal at hkey
      rw [if_neg hkey]
      cases hshown : ev.metadata[fromUtf8 key]? with
      | none =>
        have hreply : keyReply ev.metadata key = .notSet key := by
          unfold keyReply
          rw [hshown]
        rw [hreply]
        exact ih (w.emit c _)
      | some value =>
        have hreply : keyReply ev.metadata key = .keyValue key (toUtf8 value.toString) := by
          unfold keyReply
          rw [hshown]
        rw [hreply]
        exact ih (w.emit c _)

/-- **The answer.**  What `metadata` sends when there is no error and no subscription. -/
theorem metadata_sends (hshows : shows env ev) (herror : ev.error_code = [])
    (hsubs : ev.subscriptions = ∅) :
    metadata env c ev w =
      { w with nextBatch := if framed (requestCmd env ev) then w.nextBatch + 1 else w.nextBatch }.emits c
        (replyLines env (requestCmd env ev) (env.id128 w.nextBatch) (w.nick c) (metadataTarget c ev w)
          (keyReplies ev.metadata (keysToSend (requestCmd env ev) ev.args ev.metadata))) := by
  unfold metadata
  dsimp only
  rw [if_neg (by rw [herror]; exact fun h => h rfl), hsubs]
  show List.foldl _ _ (∅ : QMap QString (QSet AccId)).toList = _
  rw [Std.ExtTreeMap.toList_eq_nil_iff.mpr rfl, List.foldl_nil]
  unfold replyLines
  by_cases hframed : framed (requestCmd env ev)
  · rw [if_pos hframed, if_pos hframed, emits_concat, List.cons_append, emits_cons, List.nil_append]
    unfold framed requestCmd at hframed
    rw [if_pos hframed, metadataLines_eq]
    rfl
  · have hdirect : requestCmd env ev = "SET".toList ∨ requestCmd env ev = "CLEAR".toList := by
      rcases hshows with h | h | h | h
      · exact absurd (Or.inl h) hframed
      · exact absurd (Or.inr (Or.inl h)) hframed
      · exact Or.inl h
      · exact Or.inr h
    have hkeys : keysToSend (requestCmd env ev) ev.args ev.metadata = ev.metadata.keys.map toUtf8 :=
      if_neg fun h => hframed (Or.inl h)
    rw [if_neg hframed, if_neg hframed, hkeys]
    unfold framed requestCmd at hframed
    unfold requestCmd at hdirect
    rw [if_neg hframed, if_pos hdirect, metadataLines_eq]

end

end client_connection

end Chatripper
