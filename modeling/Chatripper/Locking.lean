import Mathlib
import Chatripper.Irc.ModeWalk
import Chatripper.Core.Startup
import Chatripper.Lib.Locks

/-!
# What the operations lock

Each operation with the requests it makes for the locks of objects, next to what it does.  An account
is locked for each of its getters, a connection for its prefix and its channel lists, a channel or a
server around the operation.

* `Locked`               a computation and its requests;
* `join_result`, …       the computations are those without locks;
* `calm_join`, …         most operations ask for the lock of an object once at a time;
* `self_deadlock_iff`    a key, a ban and a merge that has something to move ask for their own lock.
-/

namespace Chatripper
open ByteStr Outcome Locks

abbrev RoleId := Nat

/-- the objects with a lock of their own -/
inductive Lockable where
  | ctx
  | server (s : SrvId)
  | channel (ch : ChanId)
  | conn (c : ConnId)
  | account (a : AccId)
  | role (r : RoleId)
  deriving DecidableEq

abbrev Requests := List (Act Lockable)

structure Locked (α : Type) where
  requests : Requests
  result : Except Fault α

namespace Locked

instance : Monad Locked where
  pure a := ⟨[], .ok a⟩
  bind x f :=
    match x.result with
    | .error e => ⟨x.requests, .error e⟩
    | .ok a => ⟨x.requests ++ (f a).requests, (f a).result⟩

/-- a step that makes these requests -/
def call {α : Type} (requests : Requests) (result : Except Fault α) : Locked α := ⟨requests, result⟩

/-- a locker is in scope -/
def locker {α : Type} (o : Lockable) (m : Mode) (x : Locked α) : Locked α :=
  ⟨within o m x.requests, x.result⟩

section
variable {α β : Type} {kind : Lockable → Prop}

@[simp] theorem result_pure (a : α) : (pure a : Locked α).result = .ok a := rfl
@[simp] theorem result_call (acts : Requests) (x : Except Fault α) : (call acts x).result = x := rfl
@[simp] theorem result_locker (o : Lockable) (m : Mode) (x : Locked α) :
    (locker o m x).result = x.result := rfl

@[simp] theorem result_bind (x : Locked α) (f : α → Locked β) :
    (x >>= f).result = x.result >>= fun a => (f a).result := by
  obtain ⟨requests, result⟩ := x
  cases result <;> rfl

theorem result_foldlM {f : β → α → Locked β} {g : β → α → Except Fault β}
    (h : ∀ b a, (f b a).result = g b a) (l : List α) (b : β) :
    (l.foldlM f b).result = l.foldlM g b := by
  induction l generalizing b with
  | nil => rfl
  | cons a l ih =>
    rw [List.foldlM_cons, List.foldlM_cons, result_bind, h]
    exact congrArg _ (funext ih)

/-- the requests of a computation are calm -/
def IsCalm (kind : Lockable → Prop) (x : Locked α) : Prop := Calm kind x.requests

theorem IsCalm.bind {x : Locked α} {f : α → Locked β} (hx : x.IsCalm kind)
    (hf : ∀ a, (f a).IsCalm kind) : (x >>= f).IsCalm kind := by
  obtain ⟨requests, result⟩ := x
  cases result with
  | error e => exact hx
  | ok a => exact Calm.append hx (hf a)

theorem IsCalm.foldlM {f : β → α → Locked β} (hf : ∀ b a, (f b a).IsCalm kind) (l : List α) (b : β) :
    (l.foldlM f b).IsCalm kind := by
  induction l generalizing b with
  | nil => exact Calm.nil
  | cons a l ih =>
    rw [List.foldlM_cons]
    exact (hf b a).bind ih

end
end Locked

open Locked

/-! ## accounts and connections -/

/-- a getter of an account -/
def readAccount (a : AccId) : Requests := within (.account a) .read []

namespace Locking

section
variable (w : World) (c : ConnId)

/-- `client_connection::nick` -/
def nick : Requests := ((w.conn c).m_account.map readAccount).getD []

/-- `client_connection::prefix` -/
def connPrefix : Requests := within (.conn c) .read (nick w c)

/-- `client_connection::channel_join` -/
def channel_join (event : QEventChannelJoin) : Requests :=
  match event.channel with
  | none => []
  | some ch =>
    if event.account ≠ (w.conn c).m_account then
      match event.account with
      | none => []
      | some account => readAccount account ++ within (.conn c) .write []
    else if (w.conn c).channels.contains (w.chan ch).m_name then
      nick w c ++ within (.conn c) .write []
    else
      nick w c ++ within (.conn c) .write [] ++ connPrefix w c ++
        (if (w.chan ch).m_topic = [] then nick w c else []) ++
        (w.chan ch).m_members.flatMap fun acc => readAccount acc ++ readAccount acc

/-- the nick of the one that a message is for -/
def messageTarget (message : QEventMessage) : Requests :=
  if message.channel = none then (message.dest.map readAccount).getD [] else []

def messagePrefix (message : QEventMessage) : Requests :=
  if message.account = (w.conn c).m_account then
    if (w.conn c).capabilities.has .ECHO_MESSAGE then connPrefix w c
    else if (w.conn c).capabilities.has .ZNC_SELF_MESSAGE ∧ (w.conn c).m_uid ≠ message.conn_id then
      connPrefix w c
    else []
  else (message.account.map readAccount).getD []

/-- `buildMessageTags`: the name of the sender -/
def messageTags (message : QEventMessage) : Requests :=
  if (w.conn c).capabilities.has .MESSAGE_TAGS ∧ (w.conn c).capabilities.has .ACCOUNT_TAG then
    (message.account.map readAccount).getD []
  else []

/-- `client_connection::message` -/
def message (m : QEventMessage) : Locked World := do
  let target ← call (messageTarget m) (client_connection.messageTarget m w)
  match ← call (messagePrefix w c m) (client_connection.messagePrefix c m w) with
  | none => pure w
  | some _prefix =>
    let data := client_connection.messageData c m w _prefix target
    call (messageTags w c m) (.ok ((w.emit c data).log (.message c data)))

end

/-! ## channels -/

section
variable (env : Env)

/-- the connections of the account that joins -/
def joinOwn (ch : ChanId) (account : AccId) (event : QEventChannelJoin) (w : World) : Locked World :=
  (w.acc account).connections.foldlM (fun w conn =>
    if (w.conn conn).channels.contains (w.chan ch).m_name then pure w
    else call (channel_join w conn event) (client_connection.channel_join env conn event w)) w

def joinNotify (chan_ptr : Option ChanId) (account : AccId) (event : QEventChannelJoin) (w : World)
    (conn : ConnId) : Locked World :=
  let known := (w.conn conn).channel_members.getD chan_ptr ∅
  let w := w.updConn conn fun k =>
    { k with channel_members := k.channel_members.insert chan_ptr known }
  if known.contains account then pure w
  else call (channel_join w conn event) (client_connection.channel_join env conn event w)

def join (ch : ChanId) (event : QEventChannelJoin) (w : World) : Locked World :=
  let chan_ptr := Channel.get w (w.chan ch).m_name
  match if event.from_system then (some event, w) else w.consult .CHANNEL_JOIN (·.cancel) event with
  | (none, w) => pure w
  | (some event, w) => locker (.channel ch) .write do
    let account ← call [] (deref .nullAccount event.account)
    let w ← joinOwn env ch account event (Channel.addMember ch chan_ptr account w)
    (w.chan ch).m_members.foldlM (fun w member => do
      call (readAccount member ++ readAccount account) (.ok ())
      if (w.acc member).m_uid = (w.acc account).m_uid then pure w
      else (w.acc member).connections.foldlM (joinNotify env chan_ptr account event) w) w

/-- the names of the members are logged, once for each of their connections -/
def part (ch : ChanId) (event : QEventChannelPart) (w : World) : Locked (Bool × World) :=
  let requests :=
    match if event.from_system then (some event, w) else w.consult .CHANNEL_PART (·.cancel) event with
    | (none, _) => []
    | (some event, w) =>
      if (event.account.filter fun a => (w.chan ch).m_members.contains a).isNone then
        within (.channel ch) .read []
      else
        within (.channel ch) .read [] ++
          within (.channel ch) .read ((w.chan ch).m_members.flatMap fun member =>
            (w.acc member).connections.flatMap fun _ => readAccount member) ++
          within (.channel ch) .write []
  call requests (.ok (Channel.part ch event w))

/-- `sql::insert_message` -/
def insert_message (message : QEventMessage) (w : World) : Locked World :=
  call ((message.account.map readAccount).getD []) (.ok (w.exec (.insert_message message)))

def channelMessage (ch : ChanId) (message : QEventMessage) (w : World) : Locked World :=
  let ev_type := if message.tag_msg then QIRCEvent.TAG_MSG else .CHANNEL_MSG
  let deliver (message : QEventMessage) (w : World) : Locked World := do
    let w ← insert_message message w
    locker (.channel ch) .read ((w.chan ch).m_members.foldlM (fun w member =>
      (w.acc member).connections.foldlM (fun w _conn => Locking.message w _conn message) w) w)
  if w.snakepit.hasEventHandler ev_type then
    match w.event ev_type message with
    | (some message, w) => if message.cancelled then pure w else deliver message w
    | (none, w) => pure w
  else deliver message w

/-- `setName` of the channel that is renamed -/
def setName (ch : ChanId) : Requests := within (.channel ch) .write []

def rename (event : QEventChannelRename) (w : World) : Locked (Bool × World) :=
  let requests :=
    if event.old_name = event.new_name then []
    else ((Channel.get w (w.chan event.channel).m_name).map setName).getD []
  call requests (.ok (Channel.rename event w))

def setKey (ch : ChanId) (k : Bytes) (w : World) : Locked World :=
  locker (.channel ch) .write (pure (w.updChan ch fun x => { x with m_key := k }))

def addBan (ch : ChanId) (mask : Bytes) (w : World) : Locked World :=
  locker (.channel ch) .write (pure (if mask = [] then w
    else w.updChan ch fun x => { x with m_ban_masks := x.m_ban_masks.insert mask }))

def removeBan (ch : ChanId) (mask : Bytes) (w : World) : Locked World :=
  locker (.channel ch) .write (pure (if mask = [] then w
    else w.updChan ch fun x => { x with m_ban_masks := x.m_ban_masks.erase mask }))

def setFlag (ch : ChanId) (mode : ChannelModes) (adding : Bool) (w : World) : World :=
  w.updChan ch fun k => { k with
    channel_modes := if adding then k.channel_modes.set mode else k.channel_modes.clear mode }

def setMode (ch : ChanId) (mode : ChannelModes) (adding : Bool) (arg : Bytes) (w : World) :
    Locked World :=
  locker (.channel ch) .write
    (match mode with
    | .KEY => do
      let w ← setKey ch (if adding then arg else []) w
      pure (setFlag ch .KEY adding w)
    | .LIMIT => pure (w.updChan ch (Channel.setMode .LIMIT adding arg))
    | .BAN =>
      if arg = [] then pure w
      else if adding then addBan ch arg w
      else removeBan ch arg w
    | mode => pure (setFlag ch mode adding w))

end

/-! ## servers -/

/-- a server with what it holds -/
structure ServerObject extends Server where
  m_channels : QHash Uuid ChanId := ∅
  m_roles : QHash Uuid RoleId := ∅

section
variable (s source : SrvId) (server : SrvId → ServerObject)

def add_channel : Requests := within (.server s) .write []

/-- the uid of the role is its own getter -/
def add_role (r : RoleId) : Requests := within (.server s) .write (within (.role r) .read [])

/-- `Ctx::server_remove_cache` -/
def server_remove_cache : Requests :=
  within .ctx .write (within (.server source) .read [] ++ within (.server source) .read [] ++
    if (server source).m_name = [] then [] else within (.server source) .read [])

/-- the requests of `Server::merge` -/
def merge : Requests :=
  within (.server s) .write
    (((server source).m_channels.toList.flatMap fun _ => add_channel s) ++
      ((server source).m_roles.toList.flatMap fun role => add_role s role.2) ++
      server_remove_cache source server)

end

/-! ## what they do -/

section
variable {env : Env} {w : World} {c : ConnId} {ch : ChanId}

theorem message_result (m : QEventMessage) :
    (message w c m).result = client_connection.message c m w := by
  unfold message client_connection.message
  rw [result_bind, result_call]
  cases client_connection.messageTarget m w with
  | error e => rfl
  | ok target =>
    show (call _ (client_connection.messagePrefix c m w) >>= _).result = _
    rw [result_bind, result_call]
    cases client_connection.messagePrefix c m w with
    | error e => rfl
    | ok r => cases r <;> rfl

theorem setMode_result (mode : ChannelModes) (adding : Bool) (arg : Bytes) :
    (setMode ch mode adding arg w).result = .ok (w.updChan ch (Channel.setMode mode adding arg)) := by
  unfold setMode
  rw [result_locker]
  cases mode with
  | KEY => exact congrArg Except.ok (World.updChan_updChan w ch _ _)
  | BAN =>
    unfold Channel.setMode addBan removeBan
    by_cases harg : arg = []
    · simp only [if_pos harg]
      exact congrArg Except.ok (w.updChan_same ch).symm
    · simp only [if_neg harg]
      cases adding <;> rfl
  | _ => rfl

theorem joinOwn_result (a : AccId) (ev : QEventChannelJoin) :
    (joinOwn env ch a ev w).result = Channel.joinOwn env ch a ev w := by
  refine result_foldlM (fun w conn => ?_) _ w
  split <;> rfl

theorem joinNotify_result (chan_ptr : Option ChanId) (a : AccId) (ev : QEventChannelJoin) :
    (joinNotify env chan_ptr a ev w c).result = Channel.joinNotify env chan_ptr a ev w c := by
  unfold joinNotify Channel.joinNotify
  dsimp only
  split <;> rfl

theorem join_result (ev : QEventChannelJoin) :
    (join env ch ev w).result = Channel.join env ch ev w := by
  unfold join Channel.join
  dsimp only
  generalize (if ev.from_system then (some ev, w) else w.consult .CHANNEL_JOIN (·.cancel) ev) = hook
  obtain ⟨_ | event, w1⟩ := hook
  · rfl
  · dsimp only
    rw [result_locker, result_bind, result_call]
    cases deref Fault.nullAccount event.account with
    | error e => rfl
    | ok account =>
      show (joinOwn _ _ _ _ _ >>= _).result = _
      rw [result_bind, joinOwn_result]
      refine congrArg (Bind.bind _) (funext fun w2 => ?_)
      refine result_foldlM (fun w3 member => ?_) _ w2
      rw [result_bind]
      show (if _ then _ else _ : Locked World).result = _
      split
      · rfl
      · exact result_foldlM (fun w4 conn => joinNotify_result _ _ _) _ w3

theorem channelMessage_result (m : QEventMessage) :
    (channelMessage ch m w).result = Channel.message ch m w := by
  have hdeliver (m : QEventMessage) (w : World) :
      (insert_message m w >>= fun w => locker (.channel ch) .read
        ((w.chan ch).m_members.foldlM (fun w member =>
          (w.acc member).connections.foldlM (fun w _conn => message w _conn m) w) w)).result =
      ((w.exec (.insert_message m)).chan ch).m_members.foldlM
        (fun w member => Account.messageAll member m w) (w.exec (.insert_message m)) := by
    rw [result_bind]
    exact result_foldlM (fun w1 member => result_foldlM (fun w2 conn => message_result m) _ w1) _ _
  unfold channelMessage Channel.message
  dsimp only
  generalize (if m.tag_msg then QIRCEvent.TAG_MSG else .CHANNEL_MSG) = e
  generalize w.event e m = answer
  split
  · obtain ⟨_ | event, w1⟩ := answer
    · rfl
    · dsimp only
      split
      · rfl
      · exact hdeliver _ _
  · exact hdeliver _ _

end

/-! ## what they ask for -/

section
variable {env : Env} {w : World} {c : ConnId} {ch : ChanId}

/-- accounts -/
def IsAccount : Lockable → Prop
  | .account _ => True
  | _ => False

/-- connections and accounts: what is asked for under the lock of a channel -/
def IsClient : Lockable → Prop
  | .account _ => True
  | .conn _ => True
  | _ => False

theorem calm_readAccount (a : AccId) : Calm IsAccount (readAccount a) := Calm.single .read trivial

theorem client_of_account (o : Lockable) (h : IsAccount o) : IsClient o := by
  cases o <;> first | exact trivial | cases h

theorem calm_nick : Calm IsAccount (nick w c) := by
  unfold nick
  cases (w.conn c).m_account with
  | none => exact Calm.nil
  | some a => exact calm_readAccount a

/-- the nick is read under the lock of the connection, which is not that of an account -/
theorem calm_connPrefix : Calm IsClient (connPrefix w c) :=
  Calm.within .read trivial client_of_account id calm_nick

theorem calm_option (a : Option AccId) : Calm IsClient ((a.map readAccount).getD []) := by
  cases a with
  | none => exact Calm.nil
  | some a => exact (calm_readAccount a).mono client_of_account

theorem calm_channel_join (ev : QEventChannelJoin) : Calm IsClient (channel_join w c ev) := by
  have hnick : Calm IsClient (nick w c) := calm_nick.mono client_of_account
  have hlists : Calm IsClient (within (Lockable.conn c) .write []) := Calm.single .write trivial
  have hread (a : AccId) : Calm IsClient (readAccount a) := (calm_readAccount a).mono client_of_account
  unfold channel_join
  split
  · exact Calm.nil
  · split
    · split
      · exact Calm.nil
      · next account _ => exact (hread account).append hlists
    · split
      · exact hnick.append hlists
      · refine (((hnick.append hlists).append calm_connPrefix).append ?_).append ?_
        · split
          · exact hnick
          · exact Calm.nil
        · exact Calm.flatMap fun acc _ => (hread acc).append (hread acc)

theorem calm_message (m : QEventMessage) : (message w c m).IsCalm IsClient := by
  unfold message
  refine IsCalm.bind ?_ fun target => IsCalm.bind ?_ fun r => ?_
  · show Calm IsClient (messageTarget m)
    unfold messageTarget
    split
    · exact calm_option _
    · exact Calm.nil
  · show Calm IsClient (messagePrefix w c m)
    unfold messagePrefix
    split
    · split
      · exact calm_connPrefix
      · split
        · exact calm_connPrefix
        · exact Calm.nil
    · exact calm_option _
  · cases r with
    | none => exact Calm.nil
    | some _prefix =>
      show Calm IsClient (messageTags w c m)
      unfold messageTags
      split
      · exact calm_option _
      · exact Calm.nil

/-- what is asked for under the lock of a channel leaves that lock alone -/
theorem calm_locker {x : Locked World} (m : Mode) (h : x.IsCalm IsClient) :
    (locker (.channel ch) m x).IsCalm fun _ => True :=
  Calm.within m trivial (fun _ _ => trivial) id h

theorem calm_join (ev : QEventChannelJoin) : (join env ch ev w).IsCalm fun _ => True := by
  have hnotify (chan_ptr : Option ChanId) (a : AccId) (ev : QEventChannelJoin) (w : World) (c : ConnId) :
      (joinNotify env chan_ptr a ev w c).IsCalm IsClient := by
    unfold joinNotify
    dsimp only
    split
    · exact Calm.nil
    · exact calm_channel_join ev
  unfold join
  dsimp only
  split
  · exact Calm.nil
  · refine calm_locker .write (IsCalm.bind Calm.nil fun account => IsCalm.bind ?_ fun w1 => ?_)
    · refine IsCalm.foldlM (fun w2 conn => ?_) _ _
      split
      · exact Calm.nil
      · exact calm_channel_join _
    · refine IsCalm.foldlM (fun w2 member => IsCalm.bind ?_ fun _ => ?_) _ _
      · exact ((calm_readAccount member).append (calm_readAccount account)).mono client_of_account
      · split
        · exact Calm.nil
        · exact IsCalm.foldlM (hnotify _ _ _) _ _

theorem calm_part (ev : QEventChannelPart) : (part ch ev w).IsCalm fun _ => True := by
  have hone (m : Mode) : Calm (fun _ => True) (within (Lockable.channel ch) m []) := Calm.single m trivial
  show Calm _ _
  unfold part
  dsimp only [call]
  split
  · exact Calm.nil
  · split
    · exact hone .read
    · refine ((hone .read).append ?_).append (hone .write)
      have hnames (w : World) : Calm IsAccount ((w.chan ch).m_members.flatMap fun member =>
          (w.acc member).connections.flatMap fun _ => readAccount member) :=
        Calm.flatMap fun member _ => Calm.flatMap fun _ _ => calm_readAccount member
      exact (hnames _).within .read trivial (fun _ _ => trivial) id

theorem calm_channelMessage (m : QEventMessage) : (channelMessage ch m w).IsCalm fun _ => True := by
  have hdeliver (m : QEventMessage) (w : World) :
      (insert_message m w >>= fun w => locker (.channel ch) .read
        ((w.chan ch).m_members.foldlM (fun w member =>
          (w.acc member).connections.foldlM (fun w _conn => message w _conn m) w) w)).IsCalm
        fun _ => True := by
    refine IsCalm.bind ((calm_option m.account).mono fun _ _ => trivial) fun w1 => ?_
    exact calm_locker .read
      (IsCalm.foldlM (fun w2 member => IsCalm.foldlM (fun w3 conn => calm_message m) _ w2) _ w1)
  unfold channelMessage
  dsimp only
  generalize (if m.tag_msg then QIRCEvent.TAG_MSG else .CHANNEL_MSG) = e
  generalize w.event e m = answer
  split
  · obtain ⟨_ | event, w1⟩ := answer
    · exact Calm.nil
    · dsimp only
      split
      · exact Calm.nil
      · exact hdeliver _ _
  · exact hdeliver _ _

theorem calm_rename (ev : QEventChannelRename) : (rename ev w).IsCalm fun _ => True := by
  show Calm _ _
  unfold rename
  dsimp only [call]
  split
  · exact Calm.nil
  · cases Channel.get w (w.chan ev.channel).m_name with
    | none => exact Calm.nil
    | some channel_from => exact Calm.single .write trivial

end

/-! ## the calls -/

/-- a call of one of the operations -/
inductive Call where
  | join (ch : ChanId) (event : QEventChannelJoin)
  | part (ch : ChanId) (event : QEventChannelPart)
  | message (ch : ChanId) (m : QEventMessage)
  | rename (event : QEventChannelRename)
  | addBan (ch : ChanId) (mask : Bytes)
  | removeBan (ch : ChanId) (mask : Bytes)
  | setKey (ch : ChanId) (k : Bytes)
  | setMode (ch : ChanId) (mode : ChannelModes) (adding : Bool) (arg : Bytes)
  | merge (s source : SrvId)

section
variable (env : Env) (w : World) (server : SrvId → ServerObject)

def Call.requests : Call → Requests
  | .join ch event => (Locking.join env ch event w).requests
  | .part ch event => (Locking.part ch event w).requests
  | .message ch m => (channelMessage ch m w).requests
  | .rename event => (Locking.rename event w).requests
  | .addBan ch mask => (Locking.addBan ch mask w).requests
  | .removeBan ch mask => (Locking.removeBan ch mask w).requests
  | .setKey ch k => (Locking.setKey ch k w).requests
  | .setMode ch mode adding arg => (Locking.setMode ch mode adding arg w).requests
  | .merge s source => Locking.merge s source server

/-- the call uses a setter that locks, under the same lock -/
def Call.Nests : Call → Prop
  | .setMode _ mode _ arg => mode = .KEY ∨ mode = .BAN ∧ arg ≠ []
  | .merge s source =>
    s = source ∨ (server source).m_channels.toList ≠ [] ∨ (server source).m_roles.toList ≠ []
  | _ => False

end

/-- a thread that makes these requests asks for no held lock in write mode, and gets through -/
structure NoSelfDeadlock (requests : Requests) : Prop where
  rewrites : NeverRewrites requests
  completes : run requests [] = some []

section
variable {env : Env} {w : World} {server : SrvId → ServerObject}

theorem noSelfDeadlock_of_calm {requests : Requests} (h : Calm (fun _ => True) requests) :
    NoSelfDeadlock requests :=
  ⟨neverRewrites_of_run (by rw [h.run_eq]; rfl), h.run_eq⟩

theorem not_noSelfDeadlock {requests : Requests} (h : run requests [] = none) :
    ¬NoSelfDeadlock requests := fun hn => by
  rw [hn.completes] at h
  cases h

/-- the lock of a channel is asked for in a setter of the same channel -/
theorem setMode_blocks {ch : ChanId} {mode : ChannelModes} {adding : Bool} {arg : Bytes}
    (h : mode = .KEY ∨ mode = .BAN ∧ arg ≠ []) :
    run (setMode ch mode adding arg w).requests [] = none := by
  have hnested : run (within (Lockable.channel ch) .write (within (Lockable.channel ch) .write [])) [] =
      none := run_nested .write _
  rcases h with rfl | ⟨rfl, harg⟩
  · exact hnested
  · show run (within _ _ (if arg = [] then pure w else if adding then addBan ch arg w
      else removeBan ch arg w : Locked World).requests) [] = none
    rw [if_neg harg]
    split
    · exact hnested
    · exact hnested

theorem calm_setMode {ch : ChanId} {mode : ChannelModes} {adding : Bool} {arg : Bytes}
    (h : ¬(mode = .KEY ∨ mode = .BAN ∧ arg ≠ [])) :
    (setMode ch mode adding arg w).IsCalm fun _ => True := by
  refine calm_locker .write ?_
  cases mode with
  | KEY => exact absurd (.inl rfl) h
  | BAN =>
    have harg : arg = [] := not_not.mp fun harg => h (.inr ⟨rfl, harg⟩)
    show (if arg = [] then _ else _ : Locked World).IsCalm IsClient
    rw [if_pos harg]
    exact Calm.nil
  | _ => exact Calm.nil

/-- what moves locks the server again, and so does reading the name of the server itself -/
theorem merge_blocks {s source : SrvId} (h : s = source ∨ (server source).m_channels.toList ≠ [] ∨
    (server source).m_roles.toList ≠ []) : run (merge s source server) [] = none := by
  unfold merge
  cases hchannels : (server source).m_channels.toList with
  | cons channel channels => exact run_nested .write _
  | nil =>
    cases hroles : (server source).m_roles.toList with
    | cons role roles => exact run_nested .write _
    | nil =>
      rcases h with rfl | h | h
      · exact run_rewrite (a := [.lock Lockable.ctx .write]) .read rfl
          (List.mem_cons_of_mem _ List.mem_cons_self) _
      · exact absurd hchannels h
      · exact absurd hroles h

theorem calm_merge {s source : SrvId} (h : ¬(s = source ∨ (server source).m_channels.toList ≠ [] ∨
    (server source).m_roles.toList ≠ [])) : Calm (fun _ => True) (merge s source server) := by
  rw [not_or, not_or, not_not, not_not] at h
  obtain ⟨hne, hchannels, hroles⟩ := h
  have hread : Calm (fun o => o = Lockable.server source) (within (Lockable.server source) .read []) :=
    Calm.single .read rfl
  -- the directory is locked under `s`, and the name is read under both
  have hreads : Calm (fun o => o = Lockable.server source)
      (within (.server source) .read [] ++ within (.server source) .read [] ++
        if (server source).m_name = [] then [] else within (.server source) .read []) := by
    refine (hread.append hread).append ?_
    split
    · exact Calm.nil
    · exact hread
  have hcache : Calm (fun o => o = .ctx ∨ o = Lockable.server source) (server_remove_cache source server) :=
    hreads.within .write (.inl rfl) (fun _ ho => .inr ho) fun ho => by cases ho
  unfold merge
  rw [hchannels, hroles, List.flatMap_nil, List.flatMap_nil, List.nil_append, List.nil_append]
  refine hcache.within .write trivial (fun _ _ => trivial) fun ho => ?_
  rcases ho with ho | ho
  · cases ho
  · cases ho
    exact hne rfl

/-- **No thread waits for itself**, if and only if the call is not one that sets a key, adds or removes
a ban mask, or merges a server that has channels or roles, or the server itself. -/
theorem self_deadlock_iff (op : Call) :
    NoSelfDeadlock (op.requests env w server) ↔ ¬op.Nests server := by
  cases op with
  | join ch event => exact iff_of_true (noSelfDeadlock_of_calm (calm_join event)) id
  | part ch event => exact iff_of_true (noSelfDeadlock_of_calm (calm_part event)) id
  | message ch m => exact iff_of_true (noSelfDeadlock_of_calm (calm_channelMessage m)) id
  | rename event => exact iff_of_true (noSelfDeadlock_of_calm (calm_rename event)) id
  | addBan ch mask => exact iff_of_true (noSelfDeadlock_of_calm (Calm.single .write trivial)) id
  | removeBan ch mask => exact iff_of_true (noSelfDeadlock_of_calm (Calm.single .write trivial)) id
  | setKey ch k => exact iff_of_true (noSelfDeadlock_of_calm (Calm.single .write trivial)) id
  | setMode ch mode adding arg =>
    by_cases h : mode = .KEY ∨ mode = .BAN ∧ arg ≠ []
    · exact iff_of_false (not_noSelfDeadlock (setMode_blocks h)) (not_not.mpr h)
    · exact iff_of_true (noSelfDeadlock_of_calm (calm_setMode h)) h
  | merge s source =>
    by_cases h : s = source ∨ (server source).m_channels.toList ≠ [] ∨
      (server source).m_roles.toList ≠ []
    · exact iff_of_false (not_noSelfDeadlock (merge_blocks h)) (not_not.mpr h)
    · exact iff_of_true (noSelfDeadlock_of_calm (calm_merge h)) h

end

/-- `MODE +k` of a channel -/
theorem setKey_self_deadlock : ¬NoSelfDeadlock
    ((Call.setMode 0 .KEY true (ascii "k")).requests Env.ascii World.empty fun _ => {}) :=
  not_noSelfDeadlock (setMode_blocks (.inl rfl))

end Locking
end Chatripper
