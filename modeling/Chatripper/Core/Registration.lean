import Mathlib
import Chatripper.Core.World

/-!
# The registration machine

What one connection can do to the registration view `Reg`, as a labelled step relation: give its
nick, clear a task, be refused, register with a new account or the one it has logged in to, change
the nick of its account, log in, and bring an anonymous account into the one it logs in to.
Connecting and disconnecting are functions.  Nothing here knows about lines or replies.
-/

namespace Chatripper
open ByteStr

/-- `nick.isEmpty() ? "*" : nick` -/
def star (nick : Bytes) : Bytes := if nick = [] then ascii "*" else nick

namespace Reg

def updConn (r : Reg) (c : ConnId) (f : ConnReg → ConnReg) : Reg :=
  { r with conn := fun x => if x = c then f (r.conn c) else r.conn x }

def updAcc (r : Reg) (a : AccId) (f : AccReg → AccReg) : Reg :=
  { r with acc := fun x => if x = a then f (r.acc a) else r.acc x }

theorem updConn_self {r : Reg} {c : ConnId} {f : ConnReg → ConnReg} (h : f (r.conn c) = r.conn c) :
    r.updConn c f = r := by
  ext1
  case conn =>
    funext x
    show (if x = c then f (r.conn c) else r.conn x) = r.conn x
    by_cases hx : x = c
    · rw [if_pos hx, h, hx]
    · rw [if_neg hx]
  all_goals rfl

theorem updConn_updConn (r : Reg) (c : ConnId) (f g : ConnReg → ConnReg) :
    (r.updConn c f).updConn c g = r.updConn c fun k => g (f k) := by
  ext1
  case conn =>
    funext x
    show (if x = c then g (if c = c then f (r.conn c) else r.conn c)
      else if x = c then f (r.conn c) else r.conn x) = if x = c then g (f (r.conn c)) else r.conn x
    by_cases hx : x = c
    · rw [if_pos hx, if_pos rfl, if_pos hx]
    · rw [if_neg hx, if_neg hx, if_neg hx]
  all_goals rfl

def log (r : Reg) (t : Trace) : Reg := { r with setups := r.setups ++ [t] }

/-- `client_connection::nick` -/
def nick (r : Reg) (c : ConnId) : Bytes :=
  match (r.conn c).m_account with
  | some a => star (r.acc a).m_nick
  | none => star (r.conn c).m_nick

/-- `account_remove_cache` -/
def removeAccount (r : Reg) (a : AccId) : Reg :=
  { r with
    accounts := r.accounts.erase a
    accounts_lookup_uuid := r.accounts_lookup_uuid.erase (r.acc a).m_uid
    accounts_lookup_name :=
      if (r.acc a).m_name = [] then r.accounts_lookup_name
      else r.accounts_lookup_name.erase (r.acc a).m_name }

/-! ## the operations -/

def giveNick (c : ConnId) (n : Bytes) (r : Reg) : Reg :=
  r.updConn c fun k => { k with m_nick := n, setup_tasks := k.setup_tasks.clear .NICK }

def clear (c : ConnId) (t : ConnectionSetupTasks) (r : Reg) : Reg :=
  r.updConn c fun k => { k with setup_tasks := k.setup_tasks.clear t }

/-- connection `c` becomes ready on account `a` -/
def attach (c : ConnId) (a : AccId) (r : Reg) : Reg :=
  let account_nick := star (r.acc a).m_nick
  let r := r.updConn c fun k =>
    { k with m_account := some a, m_nick := account_nick, is_ready := true }
  let r := r.updAcc a fun k => { k with connections := k.connections ++ [c] }
  { r with irc_nicks := r.irc_nicks.insert account_nick a }

/-- an anonymous account for connection `c` -/
def createAccount (c : ConnId) (r : Reg) : Reg :=
  let a := r.nextAcc
  let r' := r.updAcc a fun _ =>
    { m_uid := r.nextUuid, m_name := [], m_nick := (r.conn c).m_nick, m_password := []
      connections := [] }
  { r' with
    accounts := r.accounts.insert a
    accounts_lookup_uuid := r.accounts_lookup_uuid.insert r.nextUuid a
    nextAcc := r.nextAcc + 1
    nextUuid := r.nextUuid + 1 }

/-- setup goes past its first guard, ends with the account and greets -/
def register (c : ConnId) (a : AccId) (prepare : Reg → Reg) (r : Reg) : Reg :=
  ((prepare (r.log (.finalize c))).attach c a).log (.welcome c)

def registerNew (c : ConnId) (r : Reg) : Reg := r.register c r.nextAcc (createAccount c)

def registerOld (c : ConnId) (a : AccId) (r : Reg) : Reg := r.register c a id

def rename (a self : AccId) (old new : Bytes) (r : Reg) : Reg :=
  let r' := r.updAcc a fun k => { k with m_nick := new }
  { r' with
    irc_nicks := (r.irc_nicks.erase old).insert (toLower new) self }

/-- `logged_in = true`, on account `a` when there was none -/
def login (c : ConnId) (a : AccId) (r : Reg) : Reg :=
  r.updConn c fun k => { k with m_account := k.m_account.getD a, logged_in := true }

/-- account `a` takes over the connections of `source` -/
def merge (a source : AccId) (r : Reg) : Reg :=
  let conns := (r.acc source).connections
  let r := r.updAcc a fun k => { k with connections := k.connections ++ conns }
  (r.updAcc source fun k => { k with connections := [] }).removeAccount source

/-- a connection is constructed -/
def connect (r : Reg) : Reg :=
  let r' := r.updConn r.nextConn fun _ => { ({} : Conn).reg with live := true }
  { r' with
    nextConn := r.nextConn + 1, nextUuid := r.nextUuid + 1 }

/-- `onSocketDisconnected` on the account -/
def leaveAccount (c : ConnId) (a : AccId) (nick : Bytes) (r : Reg) : Reg :=
  let r := r.updAcc a fun k => { k with connections := k.connections.filter (· != c) }
  if (r.acc a).m_name = [] then
    let r := { r with irc_nicks := r.irc_nicks.erase nick }
    match r.accounts_lookup_uuid[(r.acc a).m_uid]? with
    | none => r
    | some self => r.removeAccount self
  else r

def disconnect (c : ConnId) (r : Reg) : Reg :=
  let r := match (r.conn c).m_account with
    | some a => r.leaveAccount c a (r.nick c)
    | none => r
  r.updConn c fun k => { k with live := false }

/-! ## the fields after an operation -/

section
variable (r : Reg) (c x : ConnId) (a b : AccId)

@[simp] theorem updConn_conn (f : ConnReg → ConnReg) :
    (r.updConn c f).conn x = if x = c then f (r.conn c) else r.conn x := rfl
@[simp] theorem updAcc_acc (f : AccReg → AccReg) :
    (r.updAcc a f).acc b = if b = a then f (r.acc a) else r.acc b := rfl

@[simp] theorem giveNick_conn (n : Bytes) : (r.giveNick c n).conn x =
    if x = c then { r.conn c with
      m_nick := n, setup_tasks := (r.conn c).setup_tasks.clear .NICK } else r.conn x := rfl
@[simp] theorem clear_conn (t : ConnectionSetupTasks) : (r.clear c t).conn x =
    if x = c then { r.conn c with setup_tasks := (r.conn c).setup_tasks.clear t } else r.conn x := rfl
@[simp] theorem login_conn : (r.login c a).conn x =
    if x = c then { r.conn c with
      m_account := (r.conn c).m_account.getD a, logged_in := true } else r.conn x := rfl
@[simp] theorem rename_conn (old new : Bytes) : (r.rename a b old new).conn = r.conn := rfl
@[simp] theorem merge_conn : (r.merge a b).conn = r.conn := rfl
@[simp] theorem log_conn (t : Trace) : (r.log t).conn = r.conn := rfl

@[simp] theorem registerOld_conn : (r.registerOld c a).conn x =
    if x = c then { r.conn c with
      m_account := some a, m_nick := star (r.acc a).m_nick, is_ready := true } else r.conn x := rfl
@[simp] theorem registerNew_conn : (r.registerNew c).conn x =
    if x = c then { r.conn c with
      m_account := some r.nextAcc, m_nick := star (r.conn c).m_nick, is_ready := true }
    else r.conn x := by
  simp [registerNew, register, attach, createAccount, log, updConn, updAcc]

theorem disconnect_conn : (r.disconnect c).conn x =
    if x = c then { r.conn c with live := false } else r.conn x := by
  have hleave (a : AccId) (nick : Bytes) : (r.leaveAccount c a nick).conn = r.conn := by
    unfold leaveAccount
    dsimp only
    split
    · split <;> rfl
    · rfl
  unfold disconnect
  rw [updConn_conn]
  cases (r.conn c).m_account with
  | none => rfl
  | some a =>
    dsimp only
    rw [hleave]

@[simp] theorem giveNick_acc (n : Bytes) : (r.giveNick c n).acc = r.acc := rfl
@[simp] theorem clear_acc (t : ConnectionSetupTasks) : (r.clear c t).acc = r.acc := rfl
@[simp] theorem login_acc : (r.login c a).acc = r.acc := rfl
@[simp] theorem log_acc (t : Trace) : (r.log t).acc = r.acc := rfl
@[simp] theorem rename_acc (self : AccId) (old new : Bytes) : (r.rename a self old new).acc b =
    if b = a then { r.acc a with m_nick := new } else r.acc b := rfl
@[simp] theorem registerOld_acc : (r.registerOld c a).acc b =
    if b = a then { r.acc a with connections := (r.acc a).connections ++ [c] } else r.acc b := rfl
@[simp] theorem registerNew_acc : (r.registerNew c).acc b =
    if b = r.nextAcc then
      { m_uid := r.nextUuid, m_name := [], m_nick := (r.conn c).m_nick, m_password := []
        connections := [c] }
    else r.acc b := by
  by_cases h : b = r.nextAcc
  · simp [registerNew, register, attach, createAccount, log, updConn, updAcc, h]
  · simp [registerNew, register, attach, createAccount, log, updConn, updAcc, h]

theorem disconnect_acc : (r.disconnect c).acc b =
    if (r.conn c).m_account = some b then
      { r.acc b with connections := (r.acc b).connections.filter (· != c) }
    else r.acc b := by
  have hleave (a : AccId) (nick : Bytes) : (r.leaveAccount c a nick).acc b =
      if b = a then { r.acc a with connections := (r.acc a).connections.filter (· != c) }
      else r.acc b := by
    unfold leaveAccount
    dsimp only
    split
    · split <;> rfl
    · rfl
  unfold disconnect
  show Reg.acc (match (r.conn c).m_account with | some a => _ | none => r) b = _
  cases (r.conn c).m_account with
  | none => rfl
  | some a =>
    dsimp only
    rw [hleave]
    by_cases h : b = a
    · rw [if_pos h, if_pos (by rw [h]), h]
    · rw [if_neg h, if_neg fun he => h (Option.some.inj he).symm]

theorem disconnect_next : (r.disconnect c).nextConn = r.nextConn ∧
    (r.disconnect c).nextAcc = r.nextAcc ∧ (r.disconnect c).nextUuid = r.nextUuid ∧
    (r.disconnect c).activeEvents = r.activeEvents := by
  unfold disconnect leaveAccount
  dsimp only
  split
  · split
    · split <;> exact ⟨rfl, rfl, rfl, rfl⟩
    · exact ⟨rfl, rfl, rfl, rfl⟩
  · exact ⟨rfl, rfl, rfl, rfl⟩

/-! ### the registries -/

@[simp] theorem registerNew_irc_nicks : (r.registerNew c).irc_nicks =
    r.irc_nicks.insert (star (r.conn c).m_nick) r.nextAcc := by
  simp [registerNew, register, attach, createAccount, log, updConn, updAcc]

/-- a connection that goes enters no name -/
theorem disconnect_lookup_name {u : Bytes} {a : AccId}
    (h : (r.disconnect c).accounts_lookup_name[u]? = some a) :
    r.accounts_lookup_name[u]? = some a := by
  unfold disconnect at h
  replace h : (Reg.accounts_lookup_name
    (match (r.conn c).m_account with | some a => _ | none => r))[u]? = _ := h
  cases hacc : (r.conn c).m_account with
  | none =>
    rw [hacc] at h
    exact h
  | some b =>
    rw [hacc] at h
    dsimp only at h
    unfold leaveAccount at h
    dsimp only at h
    split at h
    · split at h
      · exact h
      · unfold removeAccount at h
        dsimp only at h
        split at h
        · exact h
        · rw [lookup_erase] at h
          split at h
          · cases h
          · exact h
    · exact h

/-- a registry entry goes with a connection only under its own nick -/
theorem disconnect_irc_nicks {n : Bytes} (h : ∀ a, (r.conn c).m_account = some a → n ≠ r.nick c) :
    (r.disconnect c).irc_nicks[n]? = r.irc_nicks[n]? := by
  unfold disconnect
  show (Reg.irc_nicks (match (r.conn c).m_account with | some a => _ | none => r))[n]? = _
  cases hacc : (r.conn c).m_account with
  | none => rfl
  | some a =>
    dsimp only
    unfold leaveAccount
    dsimp only
    split
    · have herase : (r.irc_nicks.erase (r.nick c))[n]? = r.irc_nicks[n]? := by
        rw [lookup_erase, if_neg (h a hacc)]
      split <;> exact herase
    · rfl

/-- a uuid is forgotten with a connection only when it leads to the same account -/
theorem disconnect_lookup_uuid {u : Uuid}
    (h : ∀ a self, (r.conn c).m_account = some a →
      r.accounts_lookup_uuid[(r.acc a).m_uid]? = some self → u ≠ (r.acc self).m_uid) :
    (r.disconnect c).accounts_lookup_uuid[u]? = r.accounts_lookup_uuid[u]? := by
  unfold disconnect
  show (Reg.accounts_lookup_uuid (match (r.conn c).m_account with | some a => _ | none => r))[u]? = _
  cases hacc : (r.conn c).m_account with
  | none => rfl
  | some a =>
    dsimp only
    unfold leaveAccount
    dsimp only
    have huid (b : AccId) : ((r.updAcc a fun k =>
        { k with connections := k.connections.filter (· != c) }).acc b).m_uid = (r.acc b).m_uid := by
      rw [updAcc_acc]
      by_cases hb : b = a
      · rw [if_pos hb, hb]
      · rw [if_neg hb]
    split
    · split
      · rfl
      · next self hself =>
        unfold removeAccount
        dsimp only
        rw [lookup_erase, if_neg]
        · rfl
        · refine fun he => h a self hacc ?_ (he.trans (huid self))
          rw [← huid a]
          exact hself
    · rfl

end

/-! ## the steps of a line -/

inductive Label where
  | giveNick (n : Bytes)
  | clear (t : ConnectionSetupTasks)
  | refuse
  | registerNew (n : Bytes)
  | registerOld (a : AccId)
  | rename (a self : AccId) (old new : Bytes)
  | login (a : AccId)
  | relogin (b : AccId)
  | merge (a source : AccId)

/-- a step of a login -/
def Label.isLogin : Label → Bool
  | .login _ | .relogin _ | .merge _ _ => true
  | _ => false

/-- may the setup be finished now -/
def Finishing (r : Reg) (c : ConnId) : Prop :=
  (r.conn c).is_ready = false ∧ (r.conn c).setup_tasks.empty = true

/-- connection `c` is live and ready on account `a` -/
def Online (r : Reg) (c : ConnId) (a : AccId) : Prop :=
  (r.conn c).live = true ∧ (r.conn c).is_ready = true ∧ (r.conn c).m_account = some a

section
variable {r : Reg} {c d : ConnId} {a : AccId}

/-- a connection changes, but not whether it is on line -/
theorem online_updConn {f : ConnReg → ConnReg}
    (hf : (f (r.conn c)).live = (r.conn c).live ∧ (f (r.conn c)).is_ready = (r.conn c).is_ready ∧
      (f (r.conn c)).m_account = (r.conn c).m_account) :
    (r.updConn c f).Online d a ↔ r.Online d a := by
  unfold Online
  rw [updConn_conn]
  by_cases hx : d = c
  · rw [if_pos hx, hf.1, hf.2.1, hf.2.2, hx]
  · rw [if_neg hx]

theorem online_registerNew : (r.registerNew c).Online d a ↔
    (d = c ∧ (r.conn c).live = true ∧ a = r.nextAcc) ∨ (d ≠ c ∧ r.Online d a) := by
  unfold Online
  rw [registerNew_conn]
  by_cases hx : d = c
  · rw [if_pos hx]
    refine ⟨fun h => Or.inl ⟨hx, h.1, (Option.some.inj h.2.2).symm⟩, ?_⟩
    rintro (⟨-, hlive, rfl⟩ | ⟨hne, -⟩)
    · exact ⟨hlive, rfl, rfl⟩
    · exact absurd hx hne
  · rw [if_neg hx]
    refine ⟨fun h => Or.inr ⟨hx, h⟩, ?_⟩
    rintro (⟨he, -⟩ | ⟨-, h⟩)
    · exact absurd he hx
    · exact h

theorem online_connect (h : r.connect.Online d a) : d ≠ r.nextConn ∧ r.Online d a := by
  have hconn : r.connect.conn d =
      if d = r.nextConn then { ({} : Conn).reg with live := true } else r.conn d := rfl
  unfold Online at h ⊢
  rw [hconn] at h
  by_cases hx : d = r.nextConn
  · rw [if_pos hx] at h
    cases h.2.2
  · rw [if_neg hx] at h
    exact ⟨hx, h⟩

theorem online_disconnect : (r.disconnect c).Online d a ↔ d ≠ c ∧ r.Online d a := by
  unfold Online
  rw [disconnect_conn]
  by_cases hx : d = c
  · rw [if_pos hx]
    exact ⟨fun h => (by cases h.1), fun h => absurd hx h.1⟩
  · rw [if_neg hx]
    exact ⟨fun h => ⟨hx, h⟩, fun h => h.2⟩

theorem disconnect_none (hacc : (r.conn c).m_account = none) :
    r.disconnect c = r.updConn c fun k => { k with live := false } := by
  unfold disconnect
  rw [hacc]

theorem disconnect_some (hacc : (r.conn c).m_account = some a) :
    r.disconnect c =
      (r.leaveAccount c a (r.nick c)).updConn c fun k => { k with live := false } := by
  unfold disconnect
  rw [hacc]

end

inductive Step (c : ConnId) : Label → Reg → Reg → Prop
  | giveNick {n : Bytes} {r : Reg} (hn : n ≠ []) (htask : (r.conn c).setup_tasks.has .NICK = true)
      (hnick : (r.conn c).m_nick = []) : Step c (.giveNick n) r (r.giveNick c n)
  | clear {t : ConnectionSetupTasks} {r : Reg} (ht : t ≠ .NICK)
      (htask : (r.conn c).setup_tasks.has t = true) : Step c (.clear t) r (r.clear c t)
  | refuse {r : Reg} (h : r.Finishing c) : Step c .refuse r (r.log (.finalize c))
  | registerNew {r : Reg} (h : r.Finishing c) (hacc : (r.conn c).m_account = none)
      (hfree : r.irc_nicks[toLower (r.conn c).m_nick]? = none) :
      Step c (.registerNew (r.conn c).m_nick) r (r.registerNew c)
  | registerOld {a : AccId} {r : Reg} (h : r.Finishing c) (hacc : (r.conn c).m_account = some a) :
      Step c (.registerOld a) r (r.registerOld c a)
  | rename {a self : AccId} {old new : Bytes} {r : Reg} (hacc : (r.conn c).m_account = some a)
      (hself : r.accounts_lookup_uuid[(r.acc a).m_uid]? = some self) (hnew : new ≠ [])
      (hfree : r.irc_nicks[toLower new]? = none ∨ r.irc_nicks[toLower new]? = some self)
      (hold : r.activeEvents.has .NICK_CHANGE = false → old = star (r.acc a).m_nick) :
      Step c (.rename a self old new) r (r.rename a self old new)
  | login {a : AccId} {u : Bytes} {r : Reg} (hacc : (r.conn c).m_account = none)
      (hname : r.accounts_lookup_name[u]? = some a) : Step c (.login a) r (r.login c a)
  | relogin {a b : AccId} {r : Reg} (hacc : (r.conn c).m_account = some b)
      (hname : (r.acc b).m_name ≠ []) : Step c (.relogin b) r (r.login c a)
  | merge {a b : AccId} {u : Bytes} {r : Reg} (hacc : (r.conn c).m_account = some b)
      (hanon : (r.acc b).m_name = []) (hname : r.accounts_lookup_name[u]? = some a) :
      Step c (.merge a b) r ((r.merge a b).login c a)

end Reg

end Chatripper
