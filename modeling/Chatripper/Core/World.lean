import Mathlib
import Chatripper.Lib.Outcome
import Chatripper.Core.Types
import Chatripper.Python.SnakePit

/-!
# The state of the server

`World` holds the heaps of connections, accounts and channels, the registries of `Ctx`, the Python
bridge and what the server has sent: `out` is the data handed to the sockets, `sql` the statements
sent to the database, `queue` the calls posted with `Qt::QueuedConnection`.  `Env` is what the
server reads and never writes.  A method called through a null pointer, a list position that is not
there and an uncaught exception are the constructors of `Fault`.

`trace` is a ghost: no code reads it.
-/

namespace Chatripper
open ByteStr Utf8

inductive Fault where
  /-- a method called through a null `Account` pointer -/
  | nullAccount
  /-- a method called through a null `Channel` pointer -/
  | nullChannel
  /-- `QList::at` or `first` at a position that is not there -/
  | outOfRange
  /-- a C++ exception that nothing catches -/
  | uncaught
  deriving DecidableEq

/-- a method call through a pointer -/
def deref {α : Type} (e : Fault) : Option α → Except Fault α
  | some a => .ok a
  | none => .error e

/-- `QList::at` -/
def listAt {α : Type} (l : List α) (i : Nat) : Except Fault α := deref .outOfRange l[i]?

/-! ## heap objects -/

/-- `g::defaultHost` -/
def defaultHost : Bytes := ascii "kroket.io"

structure Metadata where
  kv : QMap QString QVariant := ∅
  subscribers : QMap QString (QSet AccId) := ∅

structure Account where
  m_uid : Uuid := 0
  m_name : Bytes := []
  m_nick : Bytes := []
  m_password : Bytes := []
  m_host : Bytes := defaultHost
  connections : List ConnId := []
  /-- may hold null pointers -/
  channels : QHash Bytes (Option ChanId) := ∅
  m_metadata : Option Metadata := none

structure Channel where
  /-- null for a channel made by `get_or_create` -/
  uid : Uuid := 0
  m_name : Bytes
  m_topic : Bytes := []
  m_key : Bytes := []
  m_members : List AccId := []
  m_ban_masks : QSet Bytes := ∅
  m_limit : Int := 0
  channel_modes : Flags ChannelModes := Flags.setAll ⟨0⟩ [.NO_OUTSIDE_MSGS, .TOPIC_PROTECTED]
  m_metadata : Option Metadata := none

/-- a `client_connection`; its input buffer belongs to the transport -/
structure Conn where
  setup_tasks : Flags ConnectionSetupTasks := Flags.setAll ⟨0⟩ [.CAP_EXCHANGE, .NICK, .USER]
  capabilities : Flags PROTOCOL_CAPABILITY := ⟨0⟩
  user_modes : Flags UserModes := ⟨0⟩
  /-- `m_websocket != nullptr` -/
  isWebSocket : Bool := false
  logged_in : Bool := false
  user : Bytes := []
  realname : Bytes := []
  channels : QMap Bytes ChanId := ∅
  /-- a null channel pointer may be a key -/
  channel_members : QMap (Option ChanId) (QSet AccId) := ∅
  m_account : Option AccId := none
  is_ready : Bool := false
  user_already_exists : Bool := false
  m_nick : Bytes := []
  m_passGiven : Bytes := []
  m_host : Bytes := defaultHost
  m_uid : Uuid := 0
  ip : Bytes := []
  /-- `forceDisconnect` was called -/
  closing : Bool := false
  /-- constructed and not yet disconnected -/
  live : Bool := false

structure Ctx where
  accounts : QSet AccId := ∅
  accounts_lookup_name : QHash Bytes AccId := ∅
  accounts_lookup_uuid : QHash Uuid AccId := ∅
  irc_nicks : QHash Bytes AccId := ∅
  channels : QHash Bytes ChanId := ∅

/-! ## effects -/

/-- a call posted to the thread of a connection -/
inductive QueuedCall where
  | channel_part (ev : QEventChannelPart)
  | change_nick (ev : QEventNickChange)
  | channel_rename (ev : QEventChannelRename)

inductive RefType where
  | Channel | Account
  deriving DecidableEq

/-- a function of `sql` called with its bound values -/
inductive SqlStmt where
  | insert_message (msg : QEventMessage)
  | metadata_upsert (key value : Bytes) (ref_id : Uuid) (ref_type : RefType)
  | metadata_remove (key : Bytes) (ref_id : Uuid)
  | metadata_subscribe_bulk (ref_id : Uuid) (keys : List Bytes) (account_id : Uuid)
  | metadata_unsubscribe_bulk (ref_id : Uuid) (keys : List Bytes) (account_id : Uuid)

/-- ghost record of what has happened -/
inductive Trace where
  /-- `try_finalize_setup` went past its first guard -/
  | finalize (c : ConnId)
  /-- the 001 reply -/
  | welcome (c : ConnId)
  /-- `client_connection::message` sent this datum -/
  | message (c : ConnId) (data : Bytes)

/-! ## the environment -/

/-- what a `ThreadedServer` is constructed with -/
structure ThreadedServer where
  capabilities : List QString := (["soju.im/FILEHOST", "draft/metadata", "draft/metadata-2",
    "message-tags", "multi-prefix", "extended-join", "chghost", "account-tag", "account-notify",
    "echo-message", "znc.in/self-message", "sasl", "draft/channel-rename",
    "extended-isupport"] : List String).map String.toList
  /-- a hash, in whatever order it iterates -/
  isupport : List (Bytes × Bytes) := ([("AWAYLEN", "390"), ("BOT", "B"), ("CASEMAPPING", "ascii"),
    ("CHANLIMIT", "#:100"), ("CHANMODES", "Ibe,k,fl,CEMRUimnstu"), ("CHANNELLEN", "64"),
    ("CHANTYPES", "#"), ("ELIST", "U"), ("EXCEPTS", ""), ("EXTBAN", ",m"), ("FORWARD", "f"),
    ("INVEX", ""), ("KICKLEN", "390"), ("MAXLIST", "beI:60"), ("MAXTARGETS", "4"), ("MODES", ""),
    ("MONITOR", "100"), ("MSGREFTYPES", "msgid,timestamp"), ("NETWORK", "chatripper"),
    ("NICKLEN", "32"), ("PREFIX", "(qaohv)~&@%+"), ("RPCHAN", "E"), ("RPUSER", "E"),
    ("SAFELIST", ""), ("SAFERATE", ""), ("STATUSMSG", "~&@%+"),
    ("TARGMAX",
      "NAMES:1,LIST:1,KICK:,WHOIS:1,USERHOST:10,PRIVMSG:4,TAGMSG:4,NOTICE:4,MONITOR:100"),
    ("TOPICLEN", "390"), ("UTF8MAPPING", "rfc8265"), ("UTF8ONLY", ""), ("WHOX", "")]
    : List (String × String)).map fun p => (ascii p.1, ascii p.2)
  m_password : Bytes := []

structure Env where
  serverName : Bytes
  server : ThreadedServer := {}
  motd : Bytes := []
  /-- the Unicode classes `\p{L}` and `\p{N}` -/
  isLetter : Char → Bool
  isNumber : Char → Bool
  /-- `QString::toUpper` -/
  toUpper : QString → QString
  /-- `bcrypt::validatePassword` of a candidate and a stored hash -/
  validatePassword : Bytes → Bytes → Bool
  /-- rows of the query in `metadata_get`: key, value and subscriber -/
  metadataRows : List SqlStmt → Uuid → List (QString × Bytes × Option Uuid)
  /-- text of a `QUuid` in the `Id128` format -/
  id128 : Uuid → Bytes

/-! ## the state -/

structure World where
  conn : ConnId → Conn
  acc : AccId → Account
  chan : ChanId → Channel
  nextConn : Nat := 0
  nextAcc : Nat := 0
  nextChan : Nat := 0
  /-- `QUuid::createUuid` counts up -/
  nextUuid : Uuid := 1
  nextBatch : Uuid := 1
  ctx : Ctx := {}
  /-- the function-static of `handleCAP` -/
  client_cap_version : Int := 0
  snakepit : SnakePit := {}
  queue : List (ConnId × QueuedCall) := []
  out : List (ConnId × Bytes) := []
  sql : List SqlStmt := []
  trace : List Trace := []

namespace World

def updConn (w : World) (c : ConnId) (f : Conn → Conn) : World :=
  { w with conn := fun x => if x = c then f (w.conn c) else w.conn x }

def updAcc (w : World) (a : AccId) (f : Account → Account) : World :=
  { w with acc := fun x => if x = a then f (w.acc a) else w.acc x }

def updChan (w : World) (ch : ChanId) (f : Channel → Channel) : World :=
  { w with chan := fun x => if x = ch then f (w.chan ch) else w.chan x }

def updCtx (w : World) (f : Ctx → Ctx) : World := { w with ctx := f w.ctx }

/-- `emit sendData(data)` -/
def emit (c : ConnId) (data : Bytes) (w : World) : World := { w with out := w.out ++ [(c, data)] }

def log (t : Trace) (w : World) : World := { w with trace := w.trace ++ [t] }

def exec (s : SqlStmt) (w : World) : World := { w with sql := w.sql ++ [s] }

/-- `QMetaObject::invokeMethod` with `Qt::QueuedConnection` -/
def post (c : ConnId) (q : QueuedCall) (w : World) : World := { w with queue := w.queue ++ [(c, q)] }

/-- `Account::nick` -/
def accNick (w : World) (a : AccId) : Bytes :=
  if (w.acc a).m_nick = [] then ascii "*" else (w.acc a).m_nick

/-- `Account::prefix` -/
def accPrefix (w : World) (a : AccId) (nick_override : Bytes) : Bytes :=
  (if nick_override = [] then (w.acc a).m_nick else nick_override) ++ ascii "!" ++
    (if (w.acc a).m_name = [] then ascii "user" else (w.acc a).m_name) ++ ascii "@" ++
    (w.acc a).m_host

section
variable (w : World)

@[simp] theorem updConn_conn (c x : ConnId) (f : Conn → Conn) :
    (w.updConn c f).conn x = if x = c then f (w.conn c) else w.conn x := rfl
@[simp] theorem updConn_acc (c : ConnId) (f : Conn → Conn) : (w.updConn c f).acc = w.acc := rfl
@[simp] theorem updConn_chan (c : ConnId) (f : Conn → Conn) : (w.updConn c f).chan = w.chan := rfl
@[simp] theorem updConn_ctx (c : ConnId) (f : Conn → Conn) : (w.updConn c f).ctx = w.ctx := rfl
@[simp] theorem updConn_trace (c : ConnId) (f : Conn → Conn) :
    (w.updConn c f).trace = w.trace := rfl

theorem updConn_updConn (c : ConnId) (f g : Conn → Conn) :
    (w.updConn c f).updConn c g = w.updConn c fun k => g (f k) := by
  have hconn : (fun x => if x = c then g (if c = c then f (w.conn c) else w.conn c)
      else if x = c then f (w.conn c) else w.conn x) =
      fun x => if x = c then g (f (w.conn c)) else w.conn x := by
    funext x
    by_cases hx : x = c
    · rw [if_pos hx, if_pos rfl, if_pos hx]
    · rw [if_neg hx, if_neg hx, if_neg hx]
  exact congrArg (fun F => ({ w with conn := F } : World)) hconn

@[simp] theorem updAcc_acc (a x : AccId) (f : Account → Account) :
    (w.updAcc a f).acc x = if x = a then f (w.acc a) else w.acc x := rfl
@[simp] theorem updAcc_conn (a : AccId) (f : Account → Account) :
    (w.updAcc a f).conn = w.conn := rfl
@[simp] theorem updAcc_chan (a : AccId) (f : Account → Account) :
    (w.updAcc a f).chan = w.chan := rfl
@[simp] theorem updAcc_ctx (a : AccId) (f : Account → Account) : (w.updAcc a f).ctx = w.ctx := rfl
@[simp] theorem updAcc_trace (a : AccId) (f : Account → Account) :
    (w.updAcc a f).trace = w.trace := rfl

@[simp] theorem updChan_chan (ch x : ChanId) (f : Channel → Channel) :
    (w.updChan ch f).chan x = if x = ch then f (w.chan ch) else w.chan x := rfl
@[simp] theorem updChan_conn (ch : ChanId) (f : Channel → Channel) :
    (w.updChan ch f).conn = w.conn := rfl
@[simp] theorem updChan_acc (ch : ChanId) (f : Channel → Channel) :
    (w.updChan ch f).acc = w.acc := rfl
@[simp] theorem updChan_ctx (ch : ChanId) (f : Channel → Channel) :
    (w.updChan ch f).ctx = w.ctx := rfl
@[simp] theorem updChan_trace (ch : ChanId) (f : Channel → Channel) :
    (w.updChan ch f).trace = w.trace := rfl

end

end World

/-! ## the registration view

What registration, login and disconnection decide: the fields that say who a connection is, the
identity of every account and the registries.  Most functions leave all of it alone. -/

structure ConnReg where
  setup_tasks : Flags ConnectionSetupTasks
  is_ready : Bool
  m_account : Option AccId
  m_nick : Bytes
  logged_in : Bool
  live : Bool

def Conn.reg (k : Conn) : ConnReg :=
  ⟨k.setup_tasks, k.is_ready, k.m_account, k.m_nick, k.logged_in, k.live⟩

structure AccReg where
  m_uid : Uuid
  m_name : Bytes
  m_nick : Bytes
  m_password : Bytes
  connections : List ConnId

def Account.reg (a : Account) : AccReg :=
  ⟨a.m_uid, a.m_name, a.m_nick, a.m_password, a.connections⟩

/-- is it about the setup of a connection -/
def Trace.isSetup : Trace → Bool
  | .message _ _ => false
  | _ => true

@[ext]
structure Reg where
  conn : ConnId → ConnReg
  acc : AccId → AccReg
  accounts : QSet AccId
  accounts_lookup_name : QHash Bytes AccId
  accounts_lookup_uuid : QHash Uuid AccId
  irc_nicks : QHash Bytes AccId
  nextConn : Nat
  nextAcc : Nat
  nextUuid : Uuid
  activeEvents : Flags QIRCEvent
  setups : List Trace

namespace World

def reg (w : World) : Reg where
  conn c := (w.conn c).reg
  acc a := (w.acc a).reg
  accounts := w.ctx.accounts
  accounts_lookup_name := w.ctx.accounts_lookup_name
  accounts_lookup_uuid := w.ctx.accounts_lookup_uuid
  irc_nicks := w.ctx.irc_nicks
  nextConn := w.nextConn
  nextAcc := w.nextAcc
  nextUuid := w.nextUuid
  activeEvents := w.snakepit.m_activeEvents
  setups := w.trace.filter Trace.isSetup

section
variable (w : World)

@[simp] theorem reg_conn (c : ConnId) : w.reg.conn c = (w.conn c).reg := rfl

theorem reg_updConn {c : ConnId} {f : Conn → Conn} (h : (f (w.conn c)).reg = (w.conn c).reg) :
    (w.updConn c f).reg = w.reg := by
  unfold reg
  congr 1
  funext x
  rw [updConn_conn]
  by_cases hx : x = c
  · rw [if_pos hx, h, hx]
  · rw [if_neg hx]

theorem reg_updAcc {a : AccId} {f : Account → Account} (h : (f (w.acc a)).reg = (w.acc a).reg) :
    (w.updAcc a f).reg = w.reg := by
  unfold reg
  congr 1
  funext x
  rw [updAcc_acc]
  by_cases hx : x = a
  · rw [if_pos hx, h, hx]
  · rw [if_neg hx]

@[simp] theorem reg_updChan (ch : ChanId) (f : Channel → Channel) :
    (w.updChan ch f).reg = w.reg := rfl
@[simp] theorem reg_emit (c : ConnId) (data : Bytes) : (w.emit c data).reg = w.reg := rfl
@[simp] theorem reg_log_message (c : ConnId) (data : Bytes) :
    (w.log (.message c data)).reg = w.reg := by
  unfold reg log
  rw [List.filter_append]
  simp [Trace.isSetup]
@[simp] theorem reg_exec (s : SqlStmt) : (w.exec s).reg = w.reg := rfl
@[simp] theorem reg_post (c : ConnId) (q : QueuedCall) : (w.post c q).reg = w.reg := rfl

/-- equal views agree on a connection -/
theorem reg_conn_eq {w w' : World} (h : w'.reg = w.reg) (c : ConnId) :
    (w'.conn c).reg = (w.conn c).reg := congrArg (fun r => r.conn c) h

theorem m_account_eq {w w' : World} (h : w'.reg = w.reg) (c : ConnId) :
    (w'.conn c).m_account = (w.conn c).m_account := congrArg ConnReg.m_account (reg_conn_eq h c)

end

end World

/-! ## the content view

What clients talk about: channels, metadata, the database and the messages delivered. -/

structure Content where
  chan : ChanId → Channel
  channels : QHash Bytes ChanId
  acc_metadata : AccId → Option Metadata
  sql : List SqlStmt
  messages : List (ConnId × Bytes)

/-- the deliveries of a ghost record -/
def messagesOf (t : List Trace) : List (ConnId × Bytes) :=
  t.filterMap fun
    | .message c data => some (c, data)
    | _ => none

namespace World

def content (w : World) : Content where
  chan := w.chan
  channels := w.ctx.channels
  acc_metadata a := (w.acc a).m_metadata
  sql := w.sql
  messages := messagesOf w.trace

section
variable (w : World)

@[simp] theorem content_updConn (c : ConnId) (f : Conn → Conn) :
    (w.updConn c f).content = w.content := rfl
@[simp] theorem content_emit (c : ConnId) (data : Bytes) :
    (w.emit c data).content = w.content := rfl
@[simp] theorem content_post (c : ConnId) (q : QueuedCall) :
    (w.post c q).content = w.content := rfl

theorem content_updAcc {a : AccId} {f : Account → Account}
    (h : (f (w.acc a)).m_metadata = (w.acc a).m_metadata) :
    (w.updAcc a f).content = w.content := by
  unfold content
  congr 1
  funext x
  rw [updAcc_acc]
  by_cases hx : x = a
  · rw [if_pos hx, h, hx]
  · rw [if_neg hx]

theorem content_updCtx {f : Ctx → Ctx} (h : (f w.ctx).channels = w.ctx.channels) :
    (w.updCtx f).content = w.content := by
  unfold content updCtx
  rw [h]

theorem content_log {t : Trace} (h : messagesOf [t] = []) : (w.log t).content = w.content := by
  unfold content log messagesOf
  rw [List.filterMap_append]
  unfold messagesOf at h
  rw [h, List.append_nil]

end

/-! ## Python hooks -/

/-- `g::ctx->snakepit->event` -/
def event {α : Type} [Gadget α] (e : QIRCEvent) (ev : α) (w : World) : Option α × World :=
  let (r, sp) := w.snakepit.event e ev
  (r, { w with snakepit := sp })

/-- the hook of an operation that a handler may cancel: nothing when it was cancelled, else the
event to go on with -/
def consult {α : Type} [Gadget α] (e : QIRCEvent) (cancelled : α → Bool) (ev : α) (w : World) :
    Option α × World :=
  if w.snakepit.hasEventHandler e then
    match w.event e ev with
    | (some ev', w) => (if cancelled ev' then none else some ev', w)
    | (none, w) => (some ev, w)
  else (some ev, w)

@[simp] theorem reg_event {α : Type} [Gadget α] (e : QIRCEvent) (ev : α) (w : World) :
    (w.event e ev).2.reg = w.reg := by
  show Reg.mk _ _ _ _ _ _ _ _ _ (w.snakepit.event e ev).2.m_activeEvents _ = w.reg
  rw [w.snakepit.event_activeEvents]
  rfl

@[simp] theorem content_event {α : Type} [Gadget α] (e : QIRCEvent) (ev : α) (w : World) :
    (w.event e ev).2.content = w.content := rfl

@[simp] theorem content_consult {α : Type} [Gadget α] (e : QIRCEvent) (cancelled : α → Bool)
    (ev : α) (w : World) : (w.consult e cancelled ev).2.content = w.content := by
  unfold consult
  split
  · have h := content_event e ev w
    cases hr : w.event e ev with
    | mk r w' =>
      rw [hr] at h
      cases r with
      | none => exact h
      | some ev' => exact h
  · rfl

@[simp] theorem reg_consult {α : Type} [Gadget α] (e : QIRCEvent) (cancelled : α → Bool) (ev : α)
    (w : World) : (w.consult e cancelled ev).2.reg = w.reg := by
  unfold consult
  split
  · have h := reg_event e ev w
    cases hr : w.event e ev with
    | mk r w' =>
      rw [hr] at h
      cases r with
      | none => exact h
      | some ev' => exact h
  · rfl

theorem consult_keeps {α β : Type} [Gadget α] {p : α → β}
    (hp : ∀ f v a, p (Gadget.write f v a) = p a) {e : QIRCEvent} {cancelled : α → Bool} {ev ev' : α}
    {w : World} (h : (w.consult e cancelled ev).1 = some ev') : p ev' = p ev := by
  unfold consult at h
  split at h
  · have hk (r : α) (hr : (w.event e ev).1 = some r) : p r = p ev := SnakePit.event_keeps hp hr
    cases hr : w.event e ev with
    | mk r w' =>
      rw [hr] at h hk
      cases r with
      | none => cases h; rfl
      | some r =>
        dsimp only at h
        split at h
        · cases h
        · cases h; exact hk ev' rfl
  · cases h; rfl

/-- no module handles any event -/
def NoHandlers (w : World) : Prop := ∀ e, w.snakepit.hasEventHandler e = false

theorem NoHandlers.of_activeEvents {w w' : World} (hpy : w.NoHandlers)
    (h : w'.reg.activeEvents = w.reg.activeEvents) : w'.NoHandlers := by
  intro e
  have hquiet : w.reg.activeEvents.has e = false := hpy e
  rw [← h] at hquiet
  exact hquiet

theorem consult_of_noHandlers {α : Type} [Gadget α] {e : QIRCEvent} {cancelled : α → Bool} {ev : α}
    {w : World} (h : w.NoHandlers) : w.consult e cancelled ev = (some ev, w) := by
  unfold consult
  rw [h e]
  rfl

/-- a server that nobody has connected to -/
def empty : World where
  conn _ := {}
  acc _ := {}
  chan _ := { m_name := [] }

end World

/-- a server whose letters and digits are the ASCII ones -/
def Env.ascii : Env where
  serverName := ByteStr.ascii "irc.local"
  isLetter c := c.isAlpha
  isNumber c := c.isDigit
  toUpper s := s.map Char.toUpper
  validatePassword candidate stored := candidate == stored
  metadataRows _ _ := []
  id128 u := number u

end Chatripper
