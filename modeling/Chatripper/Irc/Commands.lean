import Mathlib
import Chatripper.Core.Metadata
import Chatripper.Irc.Modes

/-!
# The commands of a ready connection

One handler for each command.  A handler reads its arguments with `listAt`, after whatever check
the source makes, and calls methods through `m_account` where the source does.  The specification
of each says which faults it can stop at, and that it leaves the registration view alone.
-/

namespace Chatripper
open ByteStr Utf8 Outcome

namespace client_connection
open World

/-- an argument that is read when there are enough -/
def optionalArg (args : List Bytes) (i : Nat) : Except Fault Bytes :=
  if i < args.length then listAt args i else .ok []

/-! ## joining and leaving -/

/-- one name of the list of a JOIN -/
def joinOne (env : Env) (c : ConnId) (w : World) (name : Bytes) : Except Fault World :=
  let channel_name := name.drop 1
  if channel_name = [] then .ok w
  else
    let m_account := (w.conn c).m_account
    let (channel, w) := Channel.get_or_create channel_name w
    Channel.join env channel { account := m_account, channel := some channel } w

def handleJOIN (env : Env) (c : ConnId) (args : List Bytes) (w : World) : Except Fault World :=
  if args = [] then .ok (reply_num env c 461 (ascii "JOIN :Not enough parameters") w)
  else do
    let chans ← listAt args 0
    (split 44 chans).foldlM (joinOne env c) w

/-- the names of a PART, up to the first that was left -/
def partLoop (env : Env) (c : ConnId) (_nick message : Bytes) : List Bytes → World → World
  | [], w => w
  | name :: chans, w =>
    if startsWithHash name then
      let channel_name := name.drop 1
      let refused := send_raw env c
        (ascii "442 " ++ _nick ++ ascii " " ++ channel_name ++ ascii " :You're not on that channel")
      match Channel.get w channel_name with
      | none => partLoop env c _nick message chans (refused w)
      | some chan_ptr =>
        match Channel.part chan_ptr
          { channel := chan_ptr, account := (w.conn c).m_account, message := message } w with
        | (true, w) => w
        | (false, w) => partLoop env c _nick message chans (refused w)
    else partLoop env c _nick message chans w

def handlePART (env : Env) (c : ConnId) (args : List Bytes) (w : World) : Except Fault World :=
  if args = [] then .ok (reply_num env c 461 (ascii "PART :Not enough parameters") w)
  else do
    let chans ← listAt args 0
    let message ← optionalArg args 1
    .ok (partLoop env c (w.nick c) message (split 44 chans) w)

/-! ## messages -/

/-- the event made from the arguments of a PRIVMSG or TAGMSG -/
def messageEvent (c : ConnId) (tags : QMap QString QVariant) (args : List Bytes) (text : Bytes)
    (tag_msg : Bool) (w : World) : QEventMessage where
  account := (w.conn c).m_account
  conn_id := (w.conn c).m_uid
  text := text
  nick := w.nick c
  raw := join (ascii " ") args
  user := (w.conn c).user
  host := (w.conn c).m_host
  tags := tags
  tag_msg := tag_msg

/-- the common end of `handlePRIVMSG` and `handleTAGMSG` -/
def relay (env : Env) (c : ConnId) (target : Bytes) (msg : QEventMessage) (w : World) :
    Except Fault World :=
  let unknown := send_raw env c
    (ascii "401 " ++ w.nick c ++ ascii " " ++ target ++ ascii " :No such nick/channel")
  if startsWithHash target then
    match Channel.get w (target.drop 1) with
    | none => .ok (unknown w)
    | some chan_ptr => Channel.message chan_ptr { msg with channel := some chan_ptr } w
  else
    match Ctx.irc_nick_get w target with
    | none => .ok (unknown w)
    | some dest => do
      let m_account ← deref .nullAccount (w.conn c).m_account
      Account.message m_account { msg with dest := some dest } w

def handlePRIVMSG (env : Env) (c : ConnId) (tags : QMap QString QVariant) (args : List Bytes)
    (w : World) : Except Fault World :=
  if args.length < 2 then
    .ok (reply_num env c 461 (ascii "PRIVMSG :Not enough parameters") w)
  else do
    let target ← listAt args 0
    let text ← listAt args 1
    relay env c target (messageEvent c tags args text false w) w

def handleTAGMSG (env : Env) (c : ConnId) (tags : QMap QString QVariant) (args : List Bytes)
    (w : World) : Except Fault World :=
  if args = [] then .ok (reply_num env c 461 (ascii "TAGMSG :Not enough parameters") w)
  else do
    let target ← listAt args 0
    relay env c target (messageEvent c tags args [] true w) w

/-! ## metadata -/

/-- the store a METADATA request is about, and the event with its target -/
def metadataTargetOf (c : ConnId) (target : Bytes) (event : QEventMetadata) (w : World) :
    Except Fault (Option (MetaRef × QEventMetadata)) :=
  if startsWithHash target then
    .ok ((Channel.get w (target.drop 1)).map fun chan =>
      (.channel chan, { event with channel := some chan }))
  else do
    let m_account ← deref .nullAccount (w.conn c).m_account
    if target = ascii "*" ∨ target = w.accNick m_account then
      .ok (some (.account m_account, { event with dest := some m_account }))
    else
      .ok ((Ctx.irc_nick_get w target).map fun dest =>
        (.account dest, { event with dest := some dest }))

def handleMETADATA (env : Env) (c : ConnId) (args : List Bytes) (w : World) : Except Fault World :=
  if args.length < 2 then
    .ok (reply_num env c 461 (ascii "METADATA :Not enough parameters") w)
  else if (w.conn c).capabilities.has .METADATA then do
    let target ← listAt args 0
    let subcmd ← listAt args 1
    let event : QEventMetadata :=
      { account := (w.conn c).m_account, subcmd := subcmd, args := args.drop 2 }
    match ← metadataTargetOf c target event w with
    | none =>
      .ok (send_raw env c
        (ascii "401 " ++ w.nick c ++ ascii " " ++ target ++ ascii " :No such nick/channel") w)
    | some (ref, event) => do
      let (event, w) ← Metadata.handle env ref event w
      .ok (metadata env c event w)
  else .ok w

/-! ## the other commands -/

def handleQUIT (c : ConnId) (_args : List Bytes) (w : World) : Except Fault World :=
  .ok (forceDisconnect c w)

def withoutHash (name : Bytes) : Bytes := if startsWithHash name then name.drop 1 else name

def handleRENAME (c : ConnId) (args : List Bytes) (w : World) : Except Fault World :=
  if args = [] ∨ args.length ≤ 1 then .ok w
  else do
    let from_channel ← (listAt args 0).map withoutHash
    let to_channel ← (listAt args 1).map withoutHash
    let fail (reason text : Bytes) : World :=
      w.emit c (words [ascii ":" ++ w.connPrefix c, ascii "FAIL RENAME " ++ reason,
        ascii "#" ++ from_channel, ascii "#" ++ to_channel, text ++ crlf])
    match Channel.get w from_channel, Channel.get w to_channel with
    | none, _ => .ok (fail (ascii "CANNOT_RENAME") (ascii ":Channel to rename does not exist"))
    | some _, some _ =>
      .ok (fail (ascii "CHANNEL_NAME_IN_USE") (ascii ":Channel already exists"))
    | some channel_from, none => do
      let message ← optionalArg args 2
      .ok (Channel.rename
        { old_name := from_channel, new_name := to_channel, account := (w.conn c).m_account
          message := message, channel := channel_from } w).2

def handleCHATHISTORY (env : Env) (c : ConnId) (args : List Bytes) (w : World) :
    Except Fault World :=
  if args = [] ∨ args.length ≤ 3 then .ok w
  else do
    let channel ← listAt args 1
    match Channel.get w (channel.drop 1) with
    | none => .ok w
    | some ch =>
      .ok (send_raw env c (ascii "BATCH -123")
        (send_raw env c (ascii "BATCH +123 chathistory #" ++ (w.chan ch).m_name) w))

/-- connections of the same server object -/
def concurrent_peers (c : ConnId) (w : World) : Nat :=
  (List.range w.nextConn).countP fun d =>
    (w.conn d).live && (w.conn d).isWebSocket == (w.conn c).isWebSocket

def handleLUSERS (env : Env) (c : ConnId) (w : World) : World :=
  let count_users := number w.ctx.accounts.size
  let count_peers := number (concurrent_peers c w)
  let w := send_raw env c (words [ascii "251", w.nick c, ascii "There are", count_users,
    ascii "users,", count_peers, ascii "connected peers,",
    ascii "and 0 services on 1 server(s)" ++ crlf]) w
  send_raw env c (words [ascii "252", w.nick c, ascii "I have", count_users, ascii "users,",
    count_peers, ascii "connected peers"]) w

def MAX_CONTENT_LEN : Nat := 400

/-- `line.mid(pos, MAX_CONTENT_LEN)` for each `pos` below the size, in steps of that length -/
def chunks (line : Bytes) : List Bytes :=
  (List.range ((line.length + (MAX_CONTENT_LEN - 1)) / MAX_CONTENT_LEN)).map fun i =>
    (line.drop (i * MAX_CONTENT_LEN)).take MAX_CONTENT_LEN

def handleMOTD (env : Env) (c : ConnId) (w : World) : World :=
  let _nick := w.nick c
  let motd_text := if env.motd = [] then ascii "Welcome!" else env.motd
  let w := send_raw env c
    (ascii "375 " ++ _nick ++ ascii " :- " ++ env.serverName ++ ascii " Message of the day -") w
  let w := (split LF motd_text).foldl (fun w rawLine =>
    (chunks (trimmed rawLine)).foldl (fun w chunk =>
      send_raw env c (ascii "372 " ++ _nick ++ ascii " :" ++ chunk) w) w) w
  send_raw env c (ascii "376 " ++ _nick ++ ascii " :End of MOTD command.") w

def whoLine (c : ConnId) (raw_channel_arg : Bytes) (w : World) (acc : AccId) : Bytes :=
  let _nick := w.accNick acc
  let host := if (w.acc acc).m_host = [] then defaultHost else (w.acc acc).m_host
  let status := (if (w.acc acc).connections = [] then ascii "G" else ascii "H") ++
    (if (w.acc acc).m_name = ascii "admin" then ascii "@" else [])
  words [ascii "354", w.nick c, raw_channel_arg, ascii "~u", host, _nick, status, ascii "0",
    ascii "*", _nick]

def handleWHO (env : Env) (c : ConnId) (args : List Bytes) (w : World) : Except Fault World :=
  if args.length < 1 then .ok (reply_num env c 461 (ascii "WHO :Not enough parameters") w)
  else do
    let raw_channel_arg ← listAt args 0
    match Channel.get w (withoutHash raw_channel_arg) with
    | none =>
      .ok (send_raw env c
        (ascii "401 " ++ w.nick c ++ ascii " " ++ raw_channel_arg ++
          ascii " :No such nick/channel") w)
    | some ch =>
      let w := (w.chan ch).m_members.foldl
        (fun w acc => send_raw env c (whoLine c raw_channel_arg w acc) w) w
      .ok (send_raw env c (words [ascii "315", w.nick c, raw_channel_arg,
        ascii ":End of WHO list"]) w)

def handlePING (env : Env) (c : ConnId) (args : List Bytes) (w : World) : Except Fault World :=
  if args = [] then .ok (reply_num env c 409 (ascii "No origin specified") w)
  else do
    let token ← deref .outOfRange args.getLast?
    .ok (w.emit c (ascii "PONG " ++ env.serverName ++ ascii " :" ++ token ++ crlf))

/-! ## faults and frames -/

theorem optionalArg_sat {E : Fault → Prop} {args : List Bytes} {i : Nat} :
    Sat E (fun _ => True) (optionalArg args i) :=
  Sat.ite (fun h => (sat_listAt h).mono (fun _ he => he) fun _ _ => trivial) fun _ => trivial

theorem optionalArg_ok (args : List Bytes) (i : Nat) : ∃ message, optionalArg args i = .ok message := by
  cases h : optionalArg args i with
  | ok message => exact ⟨message, rfl⟩
  | error e => exact (optionalArg_sat (E := fun _ => False)).of_error h |>.elim

theorem length_pos_of_ne {args : List Bytes} (h : ¬ args = []) : 0 < args.length :=
  List.length_pos_iff.mpr h

section
variable {env : Env} {c : ConnId} {args : List Bytes} {w : World}

/-- a handler that calls methods through `m_account` and does nothing else that can stop it -/
def NeedsAccount (c : ConnId) (w : World) : Fault → Prop := OnlyWithout (w.conn c).m_account

theorem needsAccount_congr {w' : World} (h : w'.reg = w.reg) :
    NeedsAccount c w' = NeedsAccount c w := by
  unfold NeedsAccount
  rw [m_account_eq h c]

theorem handleJOIN_sat :
    Sat (NeedsAccount c w) (fun w' => w'.reg = w.reg) (handleJOIN env c args w) := by
  unfold handleJOIN
  refine Sat.ite (fun _ => rfl) fun h => (sat_listAt (length_pos_of_ne h)).bind fun chans _ => ?_
  refine Sat.foldlM rfl fun w1 name _ h1 => ?_
  unfold joinOne
  refine Sat.ite (fun _ => h1) fun _ => ?_
  rw [← needsAccount_congr h1]
  exact Channel.join_sat.mono (fun _ he => he) fun w2 h2 =>
    h2.trans ((Channel.reg_get_or_create _ w1).trans h1)

theorem reg_partLoop (_nick message : Bytes) (chans : List Bytes) (w : World) :
    (partLoop env c _nick message chans w).reg = w.reg := by
  induction chans generalizing w with
  | nil => rfl
  | cons name chans ih =>
    unfold partLoop
    split
    · dsimp only
      split
      · rw [ih, reg_send_raw]
      · next chan_ptr _ =>
        have hpart := Channel.reg_part chan_ptr
          { channel := chan_ptr, account := (w.conn c).m_account, message := message } w
        split
        · next he => rw [he] at hpart; exact hpart
        · next he => rw [he] at hpart; rw [ih, reg_send_raw]; exact hpart
    · exact ih w

theorem handlePART_sat {E : Fault → Prop} :
    Sat E (fun w' => w'.reg = w.reg) (handlePART env c args w) := by
  unfold handlePART
  refine Sat.ite (fun _ => rfl) fun h => (sat_listAt (length_pos_of_ne h)).bind fun chans _ => ?_
  exact optionalArg_sat.bind fun message _ => reg_partLoop _ _ _ w

theorem relay_sat {target : Bytes} {msg : QEventMessage}
    (hacc : msg.account = (w.conn c).m_account) :
    Sat (NeedsAccount c w) (fun w' => w'.reg = w.reg) (relay env c target msg w) := by
  unfold relay NeedsAccount
  dsimp only
  rw [← hacc]
  refine Sat.ite (fun _ => ?_) fun _ => ?_
  · split
    · exact rfl
    · exact Channel.message_sat { msg with channel := _ } nofun
  · split
    · exact rfl
    · refine (sat_deref (Q := fun _ => True) fun _ _ => trivial).bind fun a _ => ?_
      exact Account.message_sat { msg with dest := _ } nofun

theorem handlePRIVMSG_sat {tags : QMap QString QVariant} :
    Sat (NeedsAccount c w) (fun w' => w'.reg = w.reg) (handlePRIVMSG env c tags args w) := by
  unfold handlePRIVMSG
  refine Sat.ite (fun _ => rfl) fun h => (sat_listAt (by omega)).bind fun target _ => ?_
  exact (sat_listAt (by omega)).bind fun text _ => relay_sat rfl

theorem handleTAGMSG_sat {tags : QMap QString QVariant} :
    Sat (NeedsAccount c w) (fun w' => w'.reg = w.reg) (handleTAGMSG env c tags args w) := by
  unfold handleTAGMSG
  refine Sat.ite (fun _ => rfl) fun h => (sat_listAt (length_pos_of_ne h)).bind fun target _ => ?_
  exact relay_sat rfl

theorem handleMETADATA_sat :
    Sat (NeedsAccount c w) (fun w' => w'.reg = w.reg) (handleMETADATA env c args w) := by
  unfold handleMETADATA
  refine Sat.ite (fun _ => rfl) fun h => Sat.ite (fun _ => ?_) fun _ => rfl
  refine (sat_listAt (by omega)).bind fun target _ => (sat_listAt (by omega)).bind fun subcmd _ => ?_
  have htarget (event : QEventMetadata) : Sat (NeedsAccount c w)
      (fun r => ∀ p, r = some p → p.2.account = event.account)
      (metadataTargetOf c target event w) := by
    unfold metadataTargetOf
    refine Sat.ite (fun _ => ?_) fun _ => ?_
    · intro p hp
      obtain ⟨ch, -, rfl⟩ := Option.map_eq_some_iff.mp hp
      rfl
    · refine (sat_deref (Q := fun _ => True) fun _ _ => trivial).bind fun a _ => ?_
      refine Sat.ite (fun _ => ?_) fun _ => ?_
      · intro p hp
        cases hp
        rfl
      · intro p hp
        obtain ⟨dest, -, rfl⟩ := Option.map_eq_some_iff.mp hp
        rfl
  refine (htarget _).bind fun r hr => ?_
  cases r with
  | none => exact rfl
  | some p =>
    have hacc := hr p rfl
    refine (Metadata.handle_sat.mono (fun e he => ?_) fun _ h => h).bind fun q hq => ?_
    · rw [hacc] at he
      exact he
    · exact (reg_metadata env c q.2 q.1).trans hq

theorem handleRENAME_sat {E : Fault → Prop} :
    Sat E (fun w' => w'.reg = w.reg) (handleRENAME c args w) := by
  have hread (i : Nat) (h : i < args.length) :
      Sat E (fun _ => True) ((listAt args i).map withoutHash) := by
    unfold listAt
    rw [List.getElem?_eq_getElem h]
    exact trivial
  unfold handleRENAME
  refine Sat.ite (fun _ => rfl) fun h => ?_
  have hlen : 1 < args.length := by
    by_contra hlt
    exact h (Or.inr (by omega))
  refine (hread 0 (by omega)).bind fun from_channel _ => (hread 1 hlen).bind fun to_channel _ => ?_
  dsimp only
  split
  · exact rfl
  · exact rfl
  · exact optionalArg_sat.bind fun message _ => Channel.reg_rename _ w

/-! ### commands that only answer -/

section
-- `v` is a view of the world that what is sent to the connection leaves alone
variable {β : Type} {v : World → β} {E : Fault → Prop}

theorem handleCHATHISTORY_keeps (hemit : ∀ data w, v (emit c data w) = v w) :
    Sat E (fun w' => v w' = v w) (handleCHATHISTORY env c args w) := by
  unfold handleCHATHISTORY
  refine Sat.ite (fun _ => rfl) fun h => ?_
  have hlen : 1 < args.length := by
    by_contra hlt
    exact h (Or.inr (by omega))
  refine (sat_listAt hlen).bind fun channel _ => ?_
  split
  · exact rfl
  · exact (hemit _ _).trans (hemit _ w)

theorem handleMOTD_keeps (hemit : ∀ data w, v (emit c data w) = v w) :
    v (handleMOTD env c w) = v w := by
  have hline (prefixed line : Bytes) (w1 : World) :
      v ((chunks line).foldl (fun w chunk => send_raw env c (prefixed ++ chunk) w) w1) = v w1 :=
    foldl_keeps (v := v) (fun w2 chunk => hemit _ w2) _ w1
  unfold handleMOTD
  dsimp only
  refine (hemit _ _).trans ?_
  refine (foldl_keeps (v := v) ?_ _ _).trans (hemit _ w)
  exact fun w1 rawLine => hline _ (trimmed rawLine) w1

theorem handleWHO_keeps (hemit : ∀ data w, v (emit c data w) = v w) :
    Sat E (fun w' => v w' = v w) (handleWHO env c args w) := by
  unfold handleWHO
  refine Sat.ite (fun _ => hemit _ w) fun h => (sat_listAt (by omega)).bind fun target _ => ?_
  split
  · exact hemit _ w
  · exact (hemit _ _).trans (foldl_keeps (v := v) (fun w1 acc => hemit _ w1) _ w)

theorem handlePING_keeps (hemit : ∀ data w, v (emit c data w) = v w) :
    Sat E (fun w' => v w' = v w) (handlePING env c args w) := by
  unfold handlePING
  refine Sat.ite (fun _ => hemit _ w) fun h => ?_
  cases hl : args.getLast? with
  | none => exact absurd (List.getLast?_eq_none_iff.mp hl) h
  | some token => exact hemit _ w

end

theorem handleCHATHISTORY_sat {E : Fault → Prop} :
    Sat E (fun w' => w'.reg = w.reg) (handleCHATHISTORY env c args w) :=
  handleCHATHISTORY_keeps fun _ _ => rfl

@[simp] theorem reg_handleLUSERS : (handleLUSERS env c w).reg = w.reg := rfl
@[simp] theorem content_handleLUSERS : (handleLUSERS env c w).content = w.content := rfl

@[simp] theorem reg_handleMOTD : (handleMOTD env c w).reg = w.reg :=
  handleMOTD_keeps (v := World.reg) fun _ _ => rfl

@[simp] theorem content_handleMOTD : (handleMOTD env c w).content = w.content :=
  handleMOTD_keeps (v := World.content) fun _ _ => rfl

theorem handleWHO_sat {E : Fault → Prop} :
    Sat E (fun w' => w'.reg = w.reg) (handleWHO env c args w) :=
  handleWHO_keeps fun _ _ => rfl

theorem handlePING_sat {E : Fault → Prop} :
    Sat E (fun w' => w'.reg = w.reg ∧ w'.content = w.content) (handlePING env c args w) := by
  have hboth : Sat E (fun w' => (w'.reg, w'.content) = (w.reg, w.content)) (handlePING env c args w) :=
    handlePING_keeps (v := fun w1 : World => (w1.reg, w1.content)) fun _ _ => rfl
  exact hboth.mono (fun _ he => he) fun _ h => Prod.mk.inj h

end

end client_connection

end Chatripper
