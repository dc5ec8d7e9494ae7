import Mathlib
import Chatripper.Core.World

/-!
# `Metadata`: the key-value store of an account or a channel

A store is made from the database when it is first asked for.  `handle` runs a request on it: the
request event goes in and comes back with the values, the subscriptions or the refusal that the
reply is built from.
-/

namespace Chatripper
open ByteStr Utf8 Outcome

/-- the owner of a store: `m_account` or `m_channel` -/
inductive MetaRef where
  | account (a : AccId)
  | channel (ch : ChanId)

namespace Metadata

def ref_id (ref : MetaRef) (w : World) : Uuid :=
  match ref with
  | .account a => (w.acc a).m_uid
  | .channel ch => (w.chan ch).uid

def ref_type : MetaRef → RefType
  | .account _ => .Account
  | .channel _ => .Channel

/-- `sql::metadata_get` -/
def metadata_get (env : Env) (id : Uuid) (w : World) : Metadata :=
  (env.metadataRows w.sql id).foldl (fun m row =>
    { kv := m.kv.insert row.1 (.bytes row.2.1)
      subscribers := match row.2.2.bind fun u => w.ctx.accounts_lookup_uuid[u]? with
        | none => m.subscribers
        | some acc => m.subscribers.insert row.1 ((m.subscribers.getD row.1 ∅).insert acc) }) {}

def stored (ref : MetaRef) (w : World) : Option Metadata :=
  match ref with
  | .account a => (w.acc a).m_metadata
  | .channel ch => (w.chan ch).m_metadata

/-- `metadata()` of the owner -/
def load (env : Env) (ref : MetaRef) (w : World) : Metadata :=
  (stored ref w).getD (metadata_get env (ref_id ref w) w)

def save (ref : MetaRef) (m : Metadata) (w : World) : World :=
  match ref with
  | .account a => w.updAcc a fun k => { k with m_metadata := some m }
  | .channel ch => w.updChan ch fun k => { k with m_metadata := some m }

def set (ref : MetaRef) (key value : Bytes) (m : Metadata) (w : World) : World :=
  (save ref { m with kv := m.kv.insert (fromUtf8 key) (.bytes value) } w).exec
    (.metadata_upsert key value (ref_id ref w) (ref_type ref))

def remove (ref : MetaRef) (key : Bytes) (m : Metadata) (w : World) : World :=
  (save ref { m with kv := m.kv.erase (fromUtf8 key) } w).exec
    (.metadata_remove key (ref_id ref w))

def subscribe (s : QMap QString (QSet AccId)) (key : Bytes) (actor : AccId) :
    QMap QString (QSet AccId) :=
  s.insert (fromUtf8 key) ((s.getD (fromUtf8 key) ∅).insert actor)

def sub (ref : MetaRef) (actor : AccId) (keys : List Bytes) (m : Metadata) (w : World) : World :=
  (save ref { m with subscribers := keys.foldl (fun s k => subscribe s k actor) m.subscribers }
    w).exec (.metadata_subscribe_bulk (ref_id ref w) keys (w.acc actor).m_uid)

def unsub (ref : MetaRef) (actor : AccId) (keys : List Bytes) (m : Metadata) (w : World) : World :=
  (save ref { m with subscribers := keys.foldl (fun s k =>
      match s[fromUtf8 k]? with
      | none => s
      | some subs => s.insert (fromUtf8 k) (subs.erase actor)) m.subscribers }
    w).exec (.metadata_unsubscribe_bulk (ref_id ref w) keys (w.acc actor).m_uid)

/-- someone else's account may not be written -/
def refused (ref : MetaRef) (event : QEventMetadata) : Option AccId :=
  match ref, event.account with
  | .account a, some actor => if actor ≠ a then some a else none
  | _, _ => none

def refuse (event : QEventMetadata) (error_target key : Bytes) : QEventMetadata :=
  { event with
    error_code := ascii "KEY_NO_PERMISSION", error_target := error_target, error_key := key }

/-- the store `ref` handles a request -/
def handle (env : Env) (ref : MetaRef) (event : QEventMetadata) (w : World) :
    Except Fault (QEventMetadata × World) :=
  let m := load env ref w
  let w := save ref m w
  let cmd := env.toUpper (fromUtf8 event.subcmd)
  if cmd = "SET".toList then
    match event.args with
    | key :: value :: _ =>
      match refused ref event with
      | some a => .ok (refuse event (w.accNick a) key, w)
      | none =>
        .ok ({ event with metadata := event.metadata.insert (fromUtf8 key) (.bytes value) },
          set ref key value m w)
    | _ => .ok (event, w)
  else if cmd = "CLEAR".toList then
    match event.args with
    | key :: _ =>
      match refused ref event with
      | some a => .ok (refuse event (w.accNick a) key, w)
      | none =>
        .ok ({ event with metadata := event.metadata.insert (fromUtf8 key) .null },
          remove ref key m w)
    | [] => .ok (event, w)
  else if cmd = "LIST".toList then
    .ok ({ event with
      metadata := m.kv.toList.foldl (fun s kv => s.insert kv.1 kv.2) event.metadata }, w)
  else if cmd = "GET".toList then
    .ok ({ event with
      metadata := event.args.foldl (fun s key =>
        match m.kv[fromUtf8 key]? with
        | some v => s.insert (fromUtf8 key) v
        | none => s) event.metadata }, w)
  else if cmd = "SUB".toList then do
    let actor ← deref .nullAccount event.account
    .ok ({ event with
      subscriptions := event.args.foldl (fun s k => subscribe s k actor) event.subscriptions },
      sub ref actor event.args m w)
  else if cmd = "UNSUB".toList then do
    let actor ← deref .nullAccount event.account
    .ok ({ event with
      subscriptions := event.args.foldl (fun s k => subscribe s k actor) event.subscriptions },
      unsub ref actor event.args m w)
  else if cmd = "SUBS".toList then
    .ok ({ event with
      subscriptions := m.subscribers.toList.foldl (fun s kv =>
        match event.account with
        | some actor =>
          if kv.2.contains actor then s.insert kv.1 ((s.getD kv.1 ∅).insert actor) else s
        | none => s) event.subscriptions }, w)
  else .ok (event, w)

/-! ## what a request leaves alone -/

@[simp] theorem reg_save (ref : MetaRef) (m : Metadata) (w : World) :
    (save ref m w).reg = w.reg := by
  cases ref with
  | account a => exact World.reg_updAcc (f := fun k => { k with m_metadata := some m }) w rfl
  | channel ch => rfl

section
variable {env : Env} {ref : MetaRef} {ev : QEventMetadata} {w w' : World}

/-- what a request does: the store is saved as it was loaded, and then perhaps changed, along with
one statement that inserts no message -/
inductive Handled (ref : MetaRef) (w : World) : World → Prop
  | read (m : Metadata) : Handled ref w (save ref m w)
  | write (m m' : Metadata) (s : SqlStmt) (hs : ∀ msg, s ≠ .insert_message msg) :
    Handled ref w ((save ref m' (save ref m w)).exec s)

/-- frame rule of a request: what a save and a statement leave alone, it leaves alone -/
theorem Handled.keeps {α : Type} {v : World → α} (hsave : ∀ m w, v (save ref m w) = v w)
    (hexec : ∀ s w, (∀ msg, s ≠ .insert_message msg) → v (w.exec s) = v w)
    (h : Handled ref w w') : v w' = v w := by
  cases h with
  | read m => exact hsave m w
  | write m m' s hs =>
    calc v ((save ref m' (save ref m w)).exec s)
      _ = v (save ref m' (save ref m w)) := hexec s _ hs
      _ = v (save ref m w) := hsave m' _
      _ = v w := hsave m w

theorem handle_handled :
    Sat (fun e => e = .nullAccount ∧ ev.account = none) (fun r => Handled ref w r.2)
      (handle env ref ev w) := by
  have hactor : Sat (fun e => e = .nullAccount ∧ ev.account = none) (fun _ => True)
      (deref .nullAccount ev.account) := by
    cases ev.account with
    | none => exact ⟨rfl, rfl⟩
    | some a => exact trivial
  unfold handle
  dsimp only
  refine Sat.ite (fun _ => ?_) fun _ => Sat.ite (fun _ => ?_) fun _ => Sat.ite (fun _ => ?_)
    fun _ => Sat.ite (fun _ => ?_) fun _ => Sat.ite (fun _ => ?_) fun _ => Sat.ite (fun _ => ?_)
    fun _ => Sat.ite (fun _ => ?_) fun _ => ?_
  · split
    · split
      · exact .read _
      · exact .write _ _ _ nofun
    · exact .read _
  · split
    · split
      · exact .read _
      · exact .write _ _ _ nofun
    · exact .read _
  · exact .read _
  · exact .read _
  · exact hactor.bind fun actor _ => .write _ _ _ nofun
  · exact hactor.bind fun actor _ => .write _ _ _ nofun
  · exact .read _
  · exact .read _

theorem handle_sat :
    Sat (fun e => e = .nullAccount ∧ ev.account = none) (fun r => r.2.reg = w.reg)
      (handle env ref ev w) :=
  handle_handled.mono (fun _ he => he) fun _ h => h.keeps (reg_save ref) fun _ _ _ => rfl

end

end Metadata

end Chatripper
