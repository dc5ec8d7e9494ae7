import Mathlib
import Chatripper.Irc.Delivery
import Chatripper.Irc.Worker

/-!
# Who is sent messages

`client_connection::message` runs for PRIVMSG and TAGMSG lines only, and only those to a channel are
put into the table of messages.  Every other command and event leaves both records as they were.

* `handle_silent`   the other commands;
* `step_heard`      one event, with no handler active: a line sends its deliveries;
* `step_inserted`   and inserts its event when it goes to a channel.
-/

namespace Chatripper
open ByteStr Utf8 Outcome

/-- does it insert a message -/
def SqlStmt.isMessage : SqlStmt → Bool
  | .insert_message _ => true
  | _ => false

namespace World

/-- what `client_connection::message` has sent -/
def heard (w : World) : List (ConnId × Bytes) := messagesOf w.trace

/-- the statements that put a message into its table -/
def inserted (w : World) : List SqlStmt := w.sql.filter SqlStmt.isMessage

/-- what a message leaves behind -/
def told (w : World) : List (ConnId × Bytes) × List SqlStmt := (w.heard, w.inserted)

section
variable (w : World)

@[simp] theorem told_updConn (c : ConnId) (f : Conn → Conn) :
    (w.updConn c f).told = w.told := rfl
@[simp] theorem told_emit (c : ConnId) (data : Bytes) : (w.emit c data).told = w.told := rfl

theorem told_of_content {w' : World} (h : w'.content = w.content) : w'.told = w.told :=
  congrArg (fun k : Content => (k.messages, k.sql.filter SqlStmt.isMessage)) h

theorem told_exec {s : SqlStmt} (h : s.isMessage = false) : (w.exec s).told = w.told := by
  have hinserted : (w.exec s).inserted = w.inserted := by
    show (w.sql ++ [s]).filter SqlStmt.isMessage = w.sql.filter SqlStmt.isMessage
    rw [List.filter_append, List.filter_cons_of_neg (by rw [h]; exact Bool.false_ne_true),
      List.filter_nil, List.append_nil]
  exact congrArg (Prod.mk w.heard) hinserted

theorem told_consult {α : Type} [Gadget α] (e : QIRCEvent) (cancelled : α → Bool) (ev : α) :
    (w.consult e cancelled ev).2.told = w.told :=
  told_of_content w (w.content_consult e cancelled ev)

theorem told_postAll (accs : List AccId) (q : QueuedCall) : (postAll accs q w).told = w.told := by
  refine foldl_keeps (v := told) ?_ accs w
  intro w a
  exact foldl_keeps (v := told) (f := fun w conn => w.post conn q) (fun _ _ => rfl) _ w

end

end World

/-! ## what is not a message -/

/-- the computation sends no message -/
abbrev Silent (w : World) (r : Except Fault World) : Prop :=
  Sat (fun _ => True) (fun w' => w'.told = w.told) r

namespace client_connection
open World

section
variable {env : Env} {c : ConnId} {w : World}

theorem channel_join_silent {ev : QEventChannelJoin} : Silent w (channel_join env c ev w) := by
  unfold channel_join
  split
  · exact rfl
  · dsimp only
    refine Sat.ite (fun _ => Sat.bind_any fun a => rfl) fun _ => Sat.ite (fun _ => rfl) fun _ => ?_
    show World.told (joinReplies _ _ _ _ _) = _
    unfold joinReplies
    dsimp only
    split <;> rfl

theorem channel_part_silent {ev : QEventChannelPart} : Silent w (channel_part c ev w) := by
  unfold channel_part
  refine Sat.bind_any fun account => Sat.bind_any fun me => ?_
  exact Sat.ite (fun _ => rfl) fun _ => Sat.ite (fun _ => rfl) fun _ => rfl

theorem told_channel_rename (ev : QEventChannelRename) :
    (channel_rename c ev w).told = w.told := by
  unfold channel_rename
  split
  · rfl
  · dsimp only
    split <;> rfl

theorem queuedCall_silent {q : QueuedCall} : Silent w (queuedCall c q w) := by
  cases q with
  | channel_part ev => exact channel_part_silent
  | change_nick ev =>
    show Silent w (change_nick c ev w)
    unfold change_nick
    dsimp only
    exact Sat.ite (fun _ => Sat.ite (fun _ => rfl) fun _ => rfl) fun _ => Sat.bind_any fun a => rfl
  | channel_rename ev => exact told_channel_rename ev

theorem told_metadata (ev : QEventMetadata) : (metadata env c ev w).told = w.told := by
  have hlines (lead targetName : Bytes) (keys : List Bytes) (w : World) :
      (metadataLines c ev lead targetName keys w).told = w.told := by
    refine foldl_keeps (v := told) ?_ keys w
    intro w key
    split
    · rfl
    · split <;> rfl
  unfold metadata
  dsimp only
  split
  · rfl
  · refine (foldl_keeps (v := told) ?_ _ _).trans ?_
    · intro w kv
      split <;> rfl
    · split
      · rw [told_emit, hlines]
        rfl
      · split
        · exact hlines _ _ _ _
        · rfl

end

end client_connection

namespace Channel
open World client_connection

section
variable {env : Env} {ch : ChanId} {w : World}

theorem join_silent {ev : QEventChannelJoin} : Silent w (join env ch ev w) := by
  have hadd (ptr : Option ChanId) (a : AccId) (w1 : World) : (addMember ch ptr a w1).told = w1.told := by
    unfold addMember
    split <;> rfl
  exact join_keeps rfl (w.told_consult _ _ _) (fun ptr a w1 h => (hadd ptr a w1).trans h)
    (fun _ _ _ _ h => h) fun _ _ _ h =>
      channel_join_silent.mono (fun _ he => he) fun _ h2 => h2.trans h

theorem told_part (ev : QEventChannelPart) : (part ch ev w).2.told = w.told :=
  part_keeps (Q := fun w1 => w1.told = w.told) rfl (w.told_consult _ _ _)
    (fun _ _ w1 h => (told_postAll w1 _ _).trans h) fun _ _ h => h

theorem told_rename (ev : QEventChannelRename) : (rename ev w).2.told = w.told := by
  unfold rename
  split
  · rfl
  · split
    · rfl
    · have hhook : (if w.snakepit.hasEventHandler .CHANNEL_RENAME then
          ((w.event .CHANNEL_RENAME ev).1.getD ev, (w.event .CHANNEL_RENAME ev).2)
        else (ev, w)).2.told = w.told := by
        split <;> rfl
      exact (told_postAll _ _ _).trans hhook

end

end Channel

/-! ## the commands -/

namespace client_connection
open World

section
variable {env : Env} {c : ConnId} {args : List Bytes} {w : World}

theorem told_get_or_create (name : Bytes) (w : World) :
    (Channel.get_or_create name w).2.told = w.told := by
  unfold Channel.get_or_create
  split <;> rfl

theorem handleJOIN_silent : Silent w (handleJOIN env c args w) := by
  unfold handleJOIN
  refine Sat.ite (fun _ => rfl) fun _ => Sat.bind_any fun chans => ?_
  refine Sat.foldlM rfl fun w1 name _ h1 => ?_
  unfold joinOne
  refine Sat.ite (fun _ => h1) fun _ => ?_
  refine Channel.join_silent.mono (fun _ he => he) fun w2 h2 => ?_
  exact h2.trans ((told_get_or_create _ w1).trans h1)

theorem told_partLoop (_nick message : Bytes) (chans : List Bytes) (w : World) :
    (partLoop env c _nick message chans w).told = w.told := by
  induction chans generalizing w with
  | nil => rfl
  | cons name chans ih =>
    unfold partLoop
    split
    · dsimp only
      split
      · rw [ih]
        rfl
      · next chan_ptr _ =>
        have hpart := @Channel.told_part chan_ptr w
          { channel := chan_ptr, account := (w.conn c).m_account, message := message }
        split
        · next he => rw [he] at hpart; exact hpart
        · next he => rw [he] at hpart; rw [ih]; exact hpart
    · exact ih w

theorem handlePART_silent : Silent w (handlePART env c args w) := by
  unfold handlePART
  refine Sat.ite (fun _ => rfl) fun _ => Sat.bind_any fun chans => Sat.bind_any fun message => ?_
  exact told_partLoop _ message _ w

theorem handleRENAME_silent : Silent w (handleRENAME c args w) := by
  unfold handleRENAME
  refine Sat.ite (fun _ => rfl) fun _ => Sat.bind_any fun from_channel => Sat.bind_any fun to_channel => ?_
  dsimp only
  split
  · exact rfl
  · exact rfl
  · exact Sat.bind_any fun message => Channel.told_rename _

theorem handleCHATHISTORY_silent : Silent w (handleCHATHISTORY env c args w) :=
  handleCHATHISTORY_keeps fun _ _ => rfl

theorem handleWHO_silent : Silent w (handleWHO env c args w) := handleWHO_keeps fun _ _ => rfl

theorem handleMODE_silent : Silent w (handleMODE env c args w) :=
  handleMODE_keeps (fun _ _ => rfl) (fun _ _ _ => rfl) fun _ _ _ _ _ => rfl

theorem handleMETADATA_silent : Silent w (handleMETADATA env c args w) := by
  have hsave (ref : MetaRef) (m : Metadata) (w1 : World) : (Metadata.save ref m w1).told = w1.told := by
    cases ref <;> rfl
  have hhandle (ref : MetaRef) (ev : QEventMetadata) :
      Sat (fun _ => True) (fun r => r.2.told = w.told) (Metadata.handle env ref ev w) := by
    have hexec (s : SqlStmt) (w1 : World) (hs : ∀ msg, s ≠ .insert_message msg) :
        (w1.exec s).told = w1.told := by
      refine told_exec w1 ?_
      cases s with
      | insert_message msg => exact absurd rfl (hs msg)
      | _ => rfl
    exact Metadata.handle_handled.mono (fun _ _ => trivial) fun _ h => h.keeps (hsave ref) hexec
  unfold handleMETADATA
  refine Sat.ite (fun _ => rfl) fun _ => Sat.ite (fun _ => ?_) fun _ => rfl
  refine Sat.bind_any fun target => Sat.bind_any fun subcmd => Sat.bind_any fun r => ?_
  cases r with
  | none => exact rfl
  | some p => exact (hhandle p.1 p.2).bind fun q hq => (told_metadata q.1).trans hq

/-! ### the setup -/

theorem rejoin_silent {a : AccId} : Silent w (rejoin env a w) :=
  Sat.foldlM rfl fun _ _ _ h1 => Sat.bind_any fun _ =>
    Channel.join_silent.mono (fun _ he => he) fun _ h2 => h2.trans h1

theorem told_enrol : (enrol c w).2.told = w.told := by
  have hsync (n : Bytes) (w1 : World) : (syncNick c n w1).told = w1.told := by
    unfold syncNick
    dsimp only
    split <;> rfl
  have hobtain : (obtainAccount c w).2.told = w.told := by
    unfold obtainAccount
    split <;> rfl
  unfold enrol
  exact (hsync _ _).trans hobtain

theorem told_handleMOTD (w : World) : (handleMOTD env c w).told = w.told :=
  handleMOTD_keeps (v := World.told) fun _ _ => rfl

theorem told_welcomeLines (account_nick : Bytes) (w : World) :
    (welcomeLines env c account_nick w).told = w.told := by
  have hsupport (w1 : World) : (isupportLines env c account_nick w1).told = w1.told := by
    have hfold : ((env.server.isupport.foldl (isupportStep env c (ascii "005 " ++ account_nick ++
        ascii " ")) (ascii "005 " ++ account_nick ++ ascii " ", w1)).2).told = w1.told := by
      refine foldl_keeps (v := fun s : Bytes × World => s.2.told) ?_ _ _
      intro s it
      unfold isupportStep
      dsimp only
      split <;> rfl
    unfold isupportLines
    dsimp only
    split
    · exact hfold
    · exact hfold
  have hlog (w1 : World) : (w1.log (.welcome c)).told = w1.told :=
    told_of_content w1 (w1.content_log rfl)
  unfold welcomeLines
  dsimp only
  rw [told_handleMOTD]
  refine (hsupport _).trans ?_
  exact hlog (reply_num env c 1 (ascii "Hi, welcome to IRC") w)

theorem greet_silent {a : AccId} : Silent w (greet env c a w) := by
  have hmark : Silent w (markRegistered env c (w.nick c) (welcomeLines env c (w.accNick a) w)) := by
    unfold markRegistered
    refine Sat.ite (fun _ => ?_) fun _ => told_welcomeLines _ w
    exact handleMODE_silent.mono (fun _ he => he) fun w1 h1 => h1.trans (told_welcomeLines _ w)
  unfold greet
  exact hmark.bind fun w1 h1 => rejoin_silent.mono (fun _ he => he) fun w2 h2 => h2.trans h1

theorem try_finalize_setup_silent : Silent w (try_finalize_setup env c w) := by
  have hlog : (w.log (.finalize c)).told = w.told := told_of_content w (w.content_log rfl)
  unfold try_finalize_setup
  refine Sat.ite (fun _ => rfl) fun _ => ?_
  dsimp only
  split
  · next reply hrefused =>
    refine Eq.trans ?_ hlog
    unfold setupRefused at hrefused
    dsimp only at hrefused
    split at hrefused
    · cases hrefused
      rfl
    · split at hrefused
      · cases hrefused
        rfl
      · cases hrefused
  · exact greet_silent.bind fun w1 h1 => h1.trans (told_enrol.trans hlog)

theorem handleCAP_silent : Silent w (handleCAP env c args w) := by
  unfold handleCAP
  refine Sat.ite (fun _ => Sat.bind_any fun sub_cmd => ?_) fun _ => rfl
  refine Sat.ite (fun _ => Sat.ite (fun _ => ?_) fun _ => ?_) fun _ =>
    Sat.ite (fun _ => Sat.ite (fun _ => rfl) fun _ => ?_) fun _ =>
      Sat.ite (fun _ => rfl) fun _ => Sat.ite (fun _ => try_finalize_setup_silent) fun _ => rfl
  · exact Sat.bind_any fun version => told_of_content w (content_capLS _)
  · exact told_of_content w (content_capLS _)
  · exact Sat.bind_any fun line => told_of_content w (content_capREQ line)

theorem handleNICK_silent : Silent w (handleNICK env c args w) := by
  unfold handleNICK
  refine Sat.ite (fun _ => rfl) fun _ => Sat.bind_any fun new_nick => ?_
  refine Sat.ite (fun _ => rfl) fun _ => Sat.ite (fun _ => rfl) fun _ =>
    Sat.ite (fun _ => ?_) fun _ => Sat.ite (fun _ => rfl) fun _ => ?_
  · have hset : Silent w (setNick c new_nick w) := Sat.ite (fun _ => trivial) fun _ => rfl
    exact hset.bind fun w1 h1 => try_finalize_setup_silent.mono (fun _ he => he) fun w2 h2 => h2.trans h1
  · unfold changeOwnNick
    refine Sat.ite (fun _ => rfl) fun _ => Sat.bind_any fun m_account => ?_
    have hset : Sat (fun _ => True) (fun r : Bool × World => r.2.content = w.content)
        (Account.setNick m_account
          { new_nick := new_nick, old_nick := w.nick c, account := some m_account } w) :=
      setNick_sat.mono (fun _ _ => trivial) fun r hr => hr.1
    refine hset.bind fun r hr => ?_
    refine (told_of_content w ?_ : World.told _ = _)
    show World.content (if r.1 then r.2 else reply_num env c 433 new_nick r.2) = _
    split <;> exact hr

theorem handleUSER_silent : Silent w (handleUSER env c args w) := by
  unfold handleUSER
  refine Sat.ite (fun _ => rfl) fun _ => Sat.ite (fun _ => rfl) fun _ => ?_
  refine Sat.bind_any fun user => Sat.bind_any fun realname => Sat.ite (fun _ => rfl) fun _ => ?_
  exact try_finalize_setup_silent.mono (fun _ he => he) fun w1 h1 => h1

theorem handleAUTHENTICATE_silent : Silent w (handleAUTHENTICATE env c args w) := by
  unfold handleAUTHENTICATE
  refine Sat.ite (fun _ => rfl) fun _ => Sat.bind_any fun arg => ?_
  refine Sat.ite (fun _ => rfl) fun _ => Sat.ite (fun _ => rfl) fun _ => ?_
  refine Sat.bind_any fun username => Sat.bind_any fun password => ?_
  show World.told (authenticate env c username password w) = w.told
  apply told_of_content
  unfold authenticate
  split
  · rfl
  · next account _ =>
    have hverify := Account.content_verifyPassword env account
      { username := username, password := password, ip := (w.conn c).ip } w
    dsimp only
    split
    · exact hverify
    · exact (content_login env c account username _).trans hverify

/-! ## one command -/

/-- the commands that send messages -/
def Command.relays : Command → Bool
  | .PRIVMSG | .TAGMSG => true
  | _ => false

theorem handle_silent {tags : QMap QString QVariant} {cmd : Command} (hcmd : cmd.relays = false) :
    Silent w (handle env c tags cmd args w) := by
  cases cmd with
  | PASS => exact handlePASS_sat.mono (fun _ he => he) fun _ h => told_of_content w h.2
  | NICK => exact handleNICK_silent
  | USER => exact handleUSER_silent
  | PING => exact handlePING_keeps (v := World.told) fun _ _ => rfl
  | JOIN =>
    show Silent w (dispatchJOIN env c args w)
    unfold dispatchJOIN
    exact Sat.bind_any fun p => Sat.ite (fun _ => rfl) fun _ => handleJOIN_silent
  | PART => exact handlePART_silent
  | PRIVMSG => cases hcmd
  | TAGMSG => cases hcmd
  | CHATHISTORY => exact handleCHATHISTORY_silent
  | RENAME => exact handleRENAME_silent
  | METADATA => exact handleMETADATA_silent
  | MOTD => exact told_handleMOTD w
  | WHO => exact handleWHO_silent
  | AUTHENTICATE => exact handleAUTHENTICATE_silent
  | CAP => exact handleCAP_silent
  | MODE => exact handleMODE_silent
  | _ => exact rfl

theorem lineEvent_of_quiet {line : Bytes}
    (h : ∀ cmd args, lineCommand c line w = some (cmd, args) → cmd.relays = false) :
    lineEvent c line w = none := by
  unfold lineEvent
  cases hcmd : lineCommand c line w with
  | none => rfl
  | some p =>
    obtain ⟨cmd, args⟩ := p
    have hquiet := h cmd args hcmd
    rw [Option.bind_some]
    cases cmd with
    | PRIVMSG => cases hquiet
    | TAGMSG => cases hquiet
    | _ => rfl

theorem deliveries_of_quiet {line : Bytes}
    (h : ∀ cmd args, lineCommand c line w = some (cmd, args) → cmd.relays = false) :
    deliveries c line w = [] := by
  unfold deliveries
  rw [lineEvent_of_quiet h]

/-- a line that is no message leaves behind what was there -/
theorem parseIncoming_quiet {line : Bytes} {w' : World} (hpy : w.NoHandlers)
    (hquiet : ∀ cmd args, lineCommand c line w = some (cmd, args) → cmd.relays = false)
    (h : parseIncoming env c line w = .ok w') : w'.told = w.told := by
  rw [parseIncoming_eq, handlerWorld_of_noHandlers hpy] at h
  cases hcmd : lineCommand c line w with
  | none =>
    rw [hcmd] at h
    cases h
    rfl
  | some p =>
    rw [hcmd] at h
    exact (handle_silent (hquiet p.1 p.2 hcmd)).of_ok h

/-- with no handler active a line sends its deliveries -/
theorem parseIncoming_heard {line : Bytes} {w' : World} (hpy : w.NoHandlers)
    (hacc : ∀ c, (w.conn c).is_ready = true → (w.conn c).m_account ≠ none)
    (h : parseIncoming env c line w = .ok w') : w'.heard = w.heard ++ deliveries c line w := by
  by_cases hquiet : ∀ cmd args, lineCommand c line w = some (cmd, args) → cmd.relays = false
  · rw [deliveries_of_quiet hquiet, List.append_nil]
    exact congrArg Prod.fst (parseIncoming_quiet hpy hquiet h)
  · push Not at hquiet
    obtain ⟨cmd, args, hcmd, hrelays⟩ := hquiet
    have hready : (w.conn c).is_ready = true := by
      rcases lineCommand_gate hcmd with hearly | hready
      · cases cmd with
        | PRIVMSG => cases hearly
        | TAGMSG => cases hearly
        | _ => exact absurd rfl hrelays
      · exact hready
    obtain ⟨a, ha⟩ := Option.ne_none_iff_exists'.mp (hacc c hready)
    have hmsg : cmd = .PRIVMSG ∨ cmd = .TAGMSG := by
      cases cmd with
      | PRIVMSG => exact Or.inl rfl
      | TAGMSG => exact Or.inr rfl
      | _ => exact absurd rfl hrelays
    obtain ⟨w1, hw1, hsent⟩ := @line_delivers w env c line cmd args a hpy ha hcmd hmsg
    rw [hw1] at h
    cases h
    exact hsent

/-! ### the table of messages -/

theorem message_inserted {ev : QEventMessage} :
    Sat (fun _ => True) (fun w' => w'.inserted = w.inserted) (message c ev w) := by
  unfold message
  refine Sat.bind_any fun target => Sat.bind_any fun shown => ?_
  cases shown with
  | none => exact rfl
  | some p => exact rfl

theorem messageAll_inserted {a : AccId} {ev : QEventMessage} :
    Sat (fun _ => True) (fun w' => w'.inserted = w.inserted) (Account.messageAll a ev w) :=
  Sat.foldlM rfl fun _ _ _ h => message_inserted.mono (fun _ he => he) fun _ h' => h'.trans h

theorem account_message_inserted {a : AccId} {ev : QEventMessage} (hpy : w.NoHandlers) :
    Sat (fun _ => True) (fun w' => w'.inserted = w.inserted) (Account.message a ev w) := by
  unfold Account.message
  dsimp only
  rw [consult_of_noHandlers hpy]
  refine Sat.bind_any fun dest => messageAll_inserted.bind fun w1 h1 => ?_
  exact messageAll_inserted.mono (fun _ he => he) fun w2 h2 => h2.trans h1

theorem channel_message_inserted {ch : ChanId} {ev : QEventMessage} (hpy : w.NoHandlers) :
    Sat (fun _ => True) (fun w' => w'.inserted = w.inserted ++ [.insert_message ev])
      (Channel.message ch ev w) := by
  unfold Channel.message
  dsimp only
  rw [hpy]
  have hexec : (w.exec (.insert_message ev)).inserted = w.inserted ++ [.insert_message ev] := by
    show (w.sql ++ [_]).filter SqlStmt.isMessage = _
    rw [List.filter_append]
    rfl
  exact Sat.foldlM hexec fun _ _ _ h =>
    messageAll_inserted.mono (fun _ he => he) fun _ h' => h'.trans h

/-- what a line puts into the table of messages: its event, when it goes to a channel -/
def insertions (c : ConnId) (line : Bytes) (w : World) : List QEventMessage :=
  ((lineEvent c line w).filter fun msg => msg.channel.isSome).toList

theorem relay_inserted {target : Bytes} {msg : QEventMessage} (hpy : w.NoHandlers)
    (hch : msg.channel = none) : Sat (fun _ => True) (fun w' => w'.inserted = w.inserted ++
      ((addressed target msg w).filter fun msg => msg.channel.isSome).toList.map .insert_message)
      (relay env c target msg w) := by
  unfold relay addressed
  dsimp only
  by_cases hhash : startsWithHash target = true
  · rw [if_pos hhash, if_pos hhash]
    cases Channel.get w (target.drop 1) with
    | none => exact (List.append_nil _).symm
    | some ch => exact channel_message_inserted hpy
  · rw [if_neg hhash, if_neg hhash]
    cases Ctx.irc_nick_get w target with
    | none => exact (List.append_nil _).symm
    | some dest =>
      refine Sat.bind_any fun m_account => (account_message_inserted hpy).mono (fun _ he => he) ?_
      intro w' h'
      rw [Option.map_some, Option.filter_some, if_neg (by rw [hch]; exact Bool.false_ne_true)]
      exact h'.trans (List.append_nil _).symm

/-- with no handler active a line inserts its event -/
theorem parseIncoming_inserted {line : Bytes} {w' : World} (hpy : w.NoHandlers)
    (h : parseIncoming env c line w = .ok w') :
    w'.inserted = w.inserted ++ (insertions c line w).map .insert_message := by
  by_cases hquiet : ∀ cmd args, lineCommand c line w = some (cmd, args) → cmd.relays = false
  · unfold insertions
    rw [lineEvent_of_quiet hquiet]
    exact (congrArg Prod.snd (parseIncoming_quiet hpy hquiet h)).trans (List.append_nil _).symm
  · push Not at hquiet
    obtain ⟨cmd, args, hcmd, hrelays⟩ := hquiet
    rw [parseIncoming_eq, hcmd, handlerWorld_of_noHandlers hpy] at h
    unfold insertions lineEvent
    rw [hcmd, Option.bind_some]
    dsimp only
    generalize lineTags c line w = tags at h ⊢
    refine Sat.of_ok (E := fun _ => True) (Q := fun w' => w'.inserted = w.inserted ++
      ((commandEvent c tags cmd args w).filter fun msg => msg.channel.isSome).toList.map
        .insert_message) ?_ h
    cases cmd with
    | PRIVMSG =>
      show Sat _ _ (handlePRIVMSG env c tags args w)
      cases args with
      | nil => exact (List.append_nil _).symm
      | cons target args =>
        cases args with
        | nil => exact (List.append_nil _).symm
        | cons text rest =>
          unfold handlePRIVMSG
          rw [if_neg (by simp)]
          exact relay_inserted hpy rfl
    | TAGMSG =>
      show Sat _ _ (handleTAGMSG env c tags args w)
      cases args with
      | nil => exact (List.append_nil _).symm
      | cons target rest =>
        unfold handleTAGMSG
        rw [if_neg (List.cons_ne_nil _ _)]
        exact relay_inserted hpy rfl
    | _ => exact absurd rfl hrelays

theorem told_onSocketDisconnected (c : ConnId) (w : World) :
    (onSocketDisconnected c w).told = w.told := by
  have haccount (a : AccId) (n : Bytes) :
      (Account.onConnectionDisconnected a c n w).told = w.told := by
    unfold Account.onConnectionDisconnected
    dsimp only
    split
    · rfl
    · split <;> rfl
  unfold onSocketDisconnected
  cases (w.conn c).m_account with
  | none => rfl
  | some a => exact haccount a _

end

end client_connection

/-! ## one event -/

namespace Worker
open World client_connection

/-- what an event sends as messages when no handler is active -/
def eventDeliveries (w : World) : Event → List (ConnId × Bytes)
  | .line c line => if (w.conn c).live then deliveries c line w else []
  | _ => []

/-- what an event inserts as messages when no handler is active -/
def eventInsertions (w : World) : Event → List QEventMessage
  | .line c line => if (w.conn c).live then insertions c line w else []
  | _ => []

section
variable {env : Env} {w w' : World}

/-- an event that is no line leaves behind what was there -/
theorem step_told {ev : Event} (hline : ∀ c line, ev ≠ .line c line)
    (h : step env w ev = .ok w') : w'.told = w.told := by
  cases ev with
  | connect isWebSocket ip =>
    cases h
    rfl
  | line c line => exact absurd rfl (hline c line)
  | deliver c =>
    have h : deliver c w = .ok w' := h
    unfold deliver at h
    split at h
    · cases h
      rfl
    · dsimp only at h
      split at h
      · have hcall := queuedCall_silent.of_ok h
        exact hcall
      · cases h
        rfl
  | disconnect c =>
    cases h
    split
    · exact told_onSocketDisconnected c w
    · rfl

/-- **One event.**  With no handler active, only a line sends messages, and it sends its deliveries. -/
theorem step_heard {ev : Event} (hpy : w.NoHandlers)
    (hacc : ∀ c, (w.conn c).is_ready = true → (w.conn c).m_account ≠ none)
    (h : step env w ev = .ok w') : w'.heard = w.heard ++ eventDeliveries w ev := by
  cases ev with
  | line c line =>
    have h : (if (w.conn c).live then parseIncoming env c line w else .ok w) = .ok w' := h
    unfold eventDeliveries
    dsimp only
    by_cases hlive : (w.conn c).live = true
    · rw [if_pos hlive] at h ⊢
      exact parseIncoming_heard hpy hacc h
    · rw [if_neg hlive] at h ⊢
      cases h
      exact (List.append_nil _).symm
  | _ => exact (congrArg Prod.fst (step_told (fun _ _ he => by cases he) h)).trans (List.append_nil _).symm

/-- **One event.**  With no handler active, only a line to a channel inserts a message. -/
theorem step_inserted {ev : Event} (hpy : w.NoHandlers) (h : step env w ev = .ok w') :
    w'.inserted = w.inserted ++ (eventInsertions w ev).map .insert_message := by
  cases ev with
  | line c line =>
    have h : (if (w.conn c).live then parseIncoming env c line w else .ok w) = .ok w' := h
    unfold eventInsertions
    dsimp only
    by_cases hlive : (w.conn c).live = true
    · rw [if_pos hlive] at h ⊢
      exact parseIncoming_inserted hpy h
    · rw [if_neg hlive] at h ⊢
      cases h
      exact (List.append_nil _).symm
  | _ => exact (congrArg Prod.snd (step_told (fun _ _ he => by cases he) h)).trans (List.append_nil _).symm

end

end Worker

end Chatripper
