import Mathlib
import Chatripper.Irc.Utils

/-!
# What a connection is sent

The parts of `client_connection` that write to their own socket: the reply helpers and the
notifications `message`, `channel_join`, `channel_part`, `change_nick`, `channel_rename` and
`metadata`, which other connections call.  A notification reads and writes its own connection and
nothing that the registration view shows.
-/

namespace Chatripper
open ByteStr Utf8 Outcome

namespace World

/-- `client_connection::nick` -/
def nick (w : World) (c : ConnId) : Bytes :=
  match (w.conn c).m_account with
  | some a => w.accNick a
  | none => if (w.conn c).m_nick = [] then ascii "*" else (w.conn c).m_nick

/-- `client_connection::prefix` -/
def connPrefix (w : World) (c : ConnId) : Bytes :=
  w.nick c ++ ascii "!" ++
    (if (w.conn c).user = [] then ascii "user" else (w.conn c).user) ++ ascii "@" ++
    (w.conn c).m_host

theorem nick_eq {w w' : World} (h : w'.reg = w.reg) (c : ConnId) : w'.nick c = w.nick c := by
  have hacc (a : AccId) : (w'.acc a).m_nick = (w.acc a).m_nick :=
    congrArg (fun r => (r.acc a).m_nick) h
  have hnick : (w'.conn c).m_nick = (w.conn c).m_nick :=
    congrArg ConnReg.m_nick (reg_conn_eq h c)
  unfold nick accNick
  rw [m_account_eq h c, hnick]
  cases (w.conn c).m_account with
  | none => rfl
  | some a => simp only [hacc]

end World

namespace client_connection
open World

/-! ## reply helpers -/

/-- `send_raw` puts the server's name before a line -/
def rawLine (env : Env) (line : Bytes) : Bytes :=
  ascii ":" ++ env.serverName ++ ascii " " ++ line ++ crlf

theorem rawLine_inj {env : Env} {line line' : Bytes} (h : rawLine env line = rawLine env line') :
    line = line' := by
  unfold rawLine at h
  exact List.append_cancel_left (List.append_cancel_right h)

def send_raw (env : Env) (c : ConnId) (line : Bytes) (w : World) : World :=
  w.emit c (ascii ":" ++ env.serverName ++ ascii " " ++ line ++ crlf)

def reply_num (env : Env) (c : ConnId) (code : Nat) (text : Bytes) (w : World) : World :=
  let target := if w.nick c = [] then ascii "*" else w.nick c
  send_raw env c (rightJustified 3 48 (number code) ++ ascii " " ++ target ++ ascii " :" ++ text) w

def reply_self (c : ConnId) (command args : Bytes) (w : World) : World :=
  w.emit c (ascii ":" ++ w.connPrefix c ++ ascii " " ++ command ++
    (if args = [] then [] else ascii " " ++ args) ++ crlf)

def forceDisconnect (c : ConnId) (w : World) : World :=
  w.updConn c fun k => { k with closing := true }

/-! ## a message -/

/-- the prefix a message is shown with, or nothing when the recipient is not sent it -/
def messagePrefix (c : ConnId) (message : QEventMessage) (w : World) :
    Except Fault (Option Bytes) :=
  let k := w.conn c
  if message.account = k.m_account then
    if k.capabilities.has .ECHO_MESSAGE then .ok (some (w.connPrefix c))
    else if k.capabilities.has .ZNC_SELF_MESSAGE ∧ k.m_uid ≠ message.conn_id then
      .ok (some (w.connPrefix c))
    else .ok none
  else (deref .nullAccount message.account).map fun src => some (w.accPrefix src [])

def messageTarget (message : QEventMessage) (w : World) : Except Fault Bytes :=
  match message.channel with
  | none => (deref .nullAccount message.dest).map w.accNick
  | some ch => .ok (ascii "#" ++ (w.chan ch).m_name)

def messageData (c : ConnId) (message : QEventMessage) (w : World) ( _prefix target : Bytes) :
    Bytes :=
  let tag_prefix := buildMessageTags message (message.account.map w.acc) (w.conn c).capabilities
  join (ascii " ") ([ tag_prefix ++ ascii ":" ++ _prefix,
    if message.tag_msg then ascii "TAGMSG" else ascii "PRIVMSG", target] ++
    if message.tag_msg then [] else [ascii ":" ++ message.text]) ++ crlf

def message (c : ConnId) (message : QEventMessage) (w : World) : Except Fault World := do
  let target ← messageTarget message w
  match ← messagePrefix c message w with
  | none => .ok w
  | some _prefix =>
    let data := messageData c message w _prefix target
    .ok ((w.emit c data).log (.message c data))

/-! ## channel events -/

/-- `channel_members[channel] << account` -/
def addMember (ch : Option ChanId) (a : AccId) (k : Conn) : Conn :=
  { k with channel_members := k.channel_members.insert ch ((k.channel_members.getD ch ∅).insert a) }

/-- the lines that a joining connection is sent after its own JOIN -/
def joinReplies (env : Env) (c : ConnId) (ch : ChanId) (account_nick : Bytes) (w : World) : World :=
  let name := (w.chan ch).m_name
  let topic := (w.chan ch).m_topic
  let names := (w.chan ch).m_members.map fun acc =>
    if w.accNick acc = [] then (w.acc acc).m_name else w.accNick acc
  let w := if topic = [] then reply_num env c 331 (ascii "#" ++ name ++ ascii " :No topic is set") w
    else send_raw env c (ascii "332 " ++ account_nick ++ ascii " #" ++ name ++ ascii " :" ++ topic) w
  let w := send_raw env c
    (ascii "353 " ++ account_nick ++ ascii " = #" ++ name ++ ascii " :" ++ join (ascii " ") names) w
  send_raw env c
    (ascii "366 " ++ account_nick ++ ascii " #" ++ name ++ ascii " :End of NAMES list") w

def channel_join (env : Env) (c : ConnId) (event : QEventChannelJoin) (w : World) :
    Except Fault World :=
  match event.channel with
  | none => .ok w
  | some ch =>
    let channel_name := (w.chan ch).m_name
    if event.account ≠ (w.conn c).m_account then do
      let account ← deref .nullAccount event.account
      let w := w.emit c
        (ascii ":" ++ w.accPrefix account [] ++ ascii " JOIN :#" ++ channel_name ++ crlf)
      .ok (w.updConn c (addMember (some ch) account))
    else if (w.conn c).channels.contains channel_name then .ok w
    else
      let account_nick := w.nick c
      let w := w.updConn c fun k =>
        { k with
          channel_members := k.channel_members.insert (some ch)
            ((w.chan ch).m_members.foldl (fun s m => s.insert m)
              (k.channel_members.getD (some ch) ∅))
          channels := k.channels.insert channel_name ch }
      let w := reply_self c (ascii "JOIN") (ascii ":#" ++ channel_name) w
      .ok (joinReplies env c ch account_nick w)

def channel_part (c : ConnId) (event : QEventChannelPart) (w : World) : Except Fault World := do
  let channel_name := (w.chan event.channel).m_name
  let account ← deref .nullAccount event.account
  let me ← deref .nullAccount (w.conn c).m_account
  if (w.acc account).m_uid = (w.acc me).m_uid then
    let w := w.updConn c fun k =>
      { k with
        channel_members := k.channel_members.erase (some event.channel)
        channels := k.channels.erase channel_name }
    .ok (reply_self c (ascii "PART") (ascii ":#" ++ channel_name) w)
  else if ((w.conn c).channel_members.getD (some event.channel) ∅).contains account then
    let reason := if event.message = [] then [] else ascii " :" ++ event.message
    let w := w.emit c
      (ascii ":" ++ w.accPrefix account [] ++ ascii " PART #" ++ channel_name ++ reason ++ crlf)
    .ok (w.updConn c fun k =>
      { k with channel_members := k.channel_members.erase (some event.channel) })
  else .ok w

def channel_rename (c : ConnId) (event : QEventChannelRename) (w : World) : World :=
  if event.old_name = event.new_name then w
  else
    let from_channel := ascii "#" ++ event.old_name
    let to_channel := ascii "#" ++ event.new_name
    if (w.conn c).capabilities.has .CHANNEL_RENAME then
      let message := if event.message = [] then [] else ascii ": " ++ event.message
      w.emit c (ascii ":" ++ w.connPrefix c ++ ascii " RENAME " ++ from_channel ++ ascii " " ++
        to_channel ++ message ++ crlf)
    else
      let w := w.emit c (ascii ":" ++ w.connPrefix c ++ ascii " PART #" ++ from_channel ++
        ascii ":Changing the channel name" ++ crlf)
      w.emit c (ascii ":" ++ w.connPrefix c ++ ascii " JOIN #" ++ to_channel ++ crlf)

def change_nick (c : ConnId) (event : QEventNickChange) (w : World) : Except Fault World :=
  let k := w.conn c
  if event.account = k.m_account then
    if k.m_nick = w.nick c then .ok w
    else
      .ok (w.emit c (ascii ":" ++ event.old_nick ++ ascii "!" ++ k.user ++ ascii "@" ++ k.m_host ++
        ascii " NICK :" ++ event.new_nick ++ crlf))
  else do
    let account ← deref .nullAccount event.account
    .ok (w.emit c (ascii ":" ++ w.accPrefix account event.old_nick ++ ascii " NICK :" ++
      event.new_nick ++ crlf))

/-! ## metadata replies -/

/-- `msg.join(" ")` -/
def words (l : List Bytes) : Bytes := join (ascii " ") l

/-- a 761 or 766 line for every key that does not start with `__` -/
def metadataLines (c : ConnId) (event : QEventMetadata) (lead targetName : Bytes)
    (keysToSend : List Bytes) (w : World) : World :=
  keysToSend.foldl (fun w key =>
    if (ascii "__").isPrefixOf key then w
    else match event.metadata[fromUtf8 key]? with
      | none => w.emit c
          (words [lead, ascii "766", w.nick c, targetName, key, ascii ":key not set" ++ crlf])
      | some value => w.emit c
          (words [lead, ascii "761", w.nick c, targetName, key, ascii "*",
            ascii ":" ++ toUtf8 value.toString ++ crlf])) w

def metadataTarget (c : ConnId) (event : QEventMetadata) (w : World) : Bytes :=
  match event.dest with
  | some dest => if event.account = (w.conn c).m_account then ascii "*" else w.accNick dest
  | none => match event.channel with
    | some ch => ascii "#" ++ (w.chan ch).m_name
    | none => ascii "*"

def metadata (env : Env) (c : ConnId) (event : QEventMetadata) (w : World) : World :=
  let serverPrefix := ascii ":" ++ env.serverName
  let targetName := metadataTarget c event w
  if event.error_code ≠ [] then
    w.emit c (words [serverPrefix, ascii "FAIL METADATA " ++ event.error_code, targetName,
      event.error_key, ascii ":You do not have permission to modify metadata" ++ crlf])
  else
    let cmd := env.toUpper (fromUtf8 event.subcmd)
    let keys := event.metadata.keys.map toUtf8
    let w :=
      if cmd = "GET".toList ∨ cmd = "LIST".toList ∨ cmd = "SYNC".toList then
        let batchRef := env.id128 w.nextBatch
        let w := { w with nextBatch := w.nextBatch + 1 }
        let w := w.emit c (words [serverPrefix, ascii "BATCH +" ++ batchRef ++ ascii " metadata" ++ crlf])
        let w := metadataLines c event (ascii "@batch=" ++ batchRef) targetName
          (if cmd = "GET".toList then event.args else keys) w
        w.emit c (words [serverPrefix, ascii "BATCH -" ++ batchRef ++ crlf])
      else if cmd = "SET".toList ∨ cmd = "CLEAR".toList then
        metadataLines c event serverPrefix targetName keys w
      else w
    event.subscriptions.toList.foldl (fun w kv =>
      let nicks := kv.2.toList.map w.accNick
      if nicks = [] then w
      else w.emit c (words [serverPrefix, ascii "770", w.nick c, toUtf8 kv.1,
        join (ascii " ") nicks, crlf])) w

/-! ## what a notification leaves alone -/

section
variable (env : Env) (c : ConnId) (w : World)

@[simp] theorem reg_send_raw (line : Bytes) : (send_raw env c line w).reg = w.reg := rfl
@[simp] theorem reg_reply_num (code : Nat) (text : Bytes) :
    (reply_num env c code text w).reg = w.reg := rfl
@[simp] theorem reg_reply_self (command args : Bytes) :
    (reply_self c command args w).reg = w.reg := rfl
@[simp] theorem reg_forceDisconnect : (forceDisconnect c w).reg = w.reg := w.reg_updConn rfl

@[simp] theorem content_send_raw (line : Bytes) :
    (send_raw env c line w).content = w.content := rfl
@[simp] theorem content_reply_num (code : Nat) (text : Bytes) :
    (reply_num env c code text w).content = w.content := rfl
@[simp] theorem content_reply_self (command args : Bytes) :
    (reply_self c command args w).content = w.content := rfl
@[simp] theorem content_forceDisconnect : (forceDisconnect c w).content = w.content := rfl

@[simp] theorem reg_joinReplies (ch : ChanId) (account_nick : Bytes) :
    (joinReplies env c ch account_nick w).reg = w.reg := by
  unfold joinReplies
  dsimp only
  rw [reg_send_raw, reg_send_raw]
  split <;> rfl

@[simp] theorem reg_channel_rename (event : QEventChannelRename) :
    (channel_rename c event w).reg = w.reg := by
  unfold channel_rename
  split
  · rfl
  · dsimp only
    split <;> rfl

@[simp] theorem reg_metadataLines (event : QEventMetadata) (lead targetName : Bytes)
    (keysToSend : List Bytes) :
    (metadataLines c event lead targetName keysToSend w).reg = w.reg := by
  refine foldl_keeps (fun w key => ?_) keysToSend w
  split
  · rfl
  · split <;> rfl

@[simp] theorem reg_metadata (event : QEventMetadata) : (metadata env c event w).reg = w.reg := by
  unfold metadata
  dsimp only
  split
  · rfl
  · refine (foldl_keeps (fun w kv => ?_) _ _).trans ?_
    · split <;> rfl
    · split
      · rw [reg_emit, reg_metadataLines]
        rfl
      · split
        · rw [reg_metadataLines]
        · rfl

end

/-- the fault of an operation that needs an account -/
def OnlyWithout (a : Option AccId) (e : Fault) : Prop := e = .nullAccount ∧ a = none

theorem sat_deref {a : Option AccId} {Q : AccId → Prop} (h : ∀ x, a = some x → Q x) :
    Sat (OnlyWithout a) Q (deref .nullAccount a) := by
  cases a with
  | none => exact ⟨rfl, rfl⟩
  | some x => exact h x rfl

/-- a message that has an account and a target always reaches its recipient -/
theorem message_sat {c : ConnId} {ev : QEventMessage} {w : World}
    (hto : ev.channel ≠ none ∨ ev.dest ≠ none) :
    Sat (OnlyWithout ev.account) (fun w' => w'.reg = w.reg) (message c ev w) := by
  have htarget : Sat (OnlyWithout ev.account) (fun _ => True) (messageTarget ev w) := by
    unfold messageTarget
    cases hch : ev.channel with
    | some ch => exact trivial
    | none =>
      cases hd : ev.dest with
      | none => exact absurd hto (by simp [hch, hd])
      | some d => exact trivial
  have hpre : Sat (OnlyWithout ev.account) (fun _ => True) (messagePrefix c ev w) := by
    unfold messagePrefix
    dsimp only
    refine Sat.ite (fun _ => ?_) (fun _ => ?_)
    · refine Sat.ite (fun _ => trivial) (fun _ => Sat.ite (fun _ => trivial) (fun _ => trivial))
    · cases ev.account with
      | none => exact ⟨rfl, rfl⟩
      | some a => exact trivial
  unfold message
  refine htarget.bind fun target _ => hpre.bind fun pre _ => ?_
  cases pre with
  | none => exact rfl
  | some p => exact reg_log_message _ c _

theorem channel_join_sat {env : Env} {c : ConnId} {ev : QEventChannelJoin} {w : World} :
    Sat (OnlyWithout ev.account) (fun w' => w'.reg = w.reg) (channel_join env c ev w) := by
  unfold channel_join
  split
  · exact rfl
  · dsimp only
    refine Sat.ite (fun _ => ?_) (fun _ => Sat.ite (fun _ => rfl) (fun _ => ?_))
    · refine (sat_deref (Q := fun _ => True) fun _ _ => trivial).bind fun a _ => ?_
      exact (reg_updConn _ rfl).trans rfl
    · show World.reg _ = _
      rw [reg_joinReplies, reg_reply_self]
      exact reg_updConn _ rfl

theorem channel_part_sat {c : ConnId} {ev : QEventChannelPart} {w : World} :
    Sat (fun e => OnlyWithout ev.account e ∨ OnlyWithout (w.conn c).m_account e)
      (fun w' => w'.reg = w.reg) (channel_part c ev w) := by
  unfold channel_part
  dsimp only
  refine ((sat_deref (Q := fun _ => True) fun _ _ => trivial).mono
    (fun _ => Or.inl) fun _ h => h).bind fun a _ => ?_
  refine ((sat_deref (Q := fun _ => True) fun _ _ => trivial).mono
    (fun _ => Or.inr) fun _ h => h).bind fun me _ => ?_
  refine Sat.ite (fun _ => ?_) (fun _ => Sat.ite (fun _ => ?_) (fun _ => rfl))
  · show World.reg _ = _
    rw [reg_reply_self]
    exact reg_updConn _ rfl
  · exact (reg_updConn _ rfl).trans rfl

theorem change_nick_sat {c : ConnId} {ev : QEventNickChange} {w : World} :
    Sat (OnlyWithout ev.account) (fun w' => w'.reg = w.reg) (change_nick c ev w) := by
  unfold change_nick
  dsimp only
  refine Sat.ite (fun _ => Sat.ite (fun _ => rfl) (fun _ => rfl)) (fun _ => ?_)
  exact (sat_deref (Q := fun _ => True) fun _ _ => trivial).bind fun a _ => rfl

end client_connection

end Chatripper
