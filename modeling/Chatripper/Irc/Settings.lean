import Mathlib
import Chatripper.Irc.Registering

/-!
# User modes, user names and the metadata of channels

What MODE, USER and METADATA write.  No other function changes it, but for the channels that a JOIN
makes and the `+r` of a setup that is finished.

* `World.settings`   the view;
* `step_modes`    what one event does to it.
-/

namespace Chatripper
open ByteStr Utf8 Outcome

/-- is it about metadata -/
def SqlStmt.isMetadata : SqlStmt → Bool
  | .insert_message _ => false
  | _ => true

@[ext]
structure Settings where
  user_modes : ConnId → Flags UserModes
  user : ConnId → Bytes
  m_host : ConnId → Bytes
  uid : ChanId → Uuid
  metadata : ChanId → Option Metadata
  nextChan : ChanId
  stored : List SqlStmt

namespace World

def settings (w : World) : Settings where
  user_modes c := (w.conn c).user_modes
  user c := (w.conn c).user
  m_host c := (w.conn c).m_host
  uid ch := (w.chan ch).uid
  metadata ch := (w.chan ch).m_metadata
  nextChan := w.nextChan
  stored := w.sql.filter SqlStmt.isMetadata

section
variable (w : World)

theorem settings_updConn {c : ConnId} {f : Conn → Conn}
    (h : (f (w.conn c)).user_modes = (w.conn c).user_modes ∧ (f (w.conn c)).user = (w.conn c).user ∧
      (f (w.conn c)).m_host = (w.conn c).m_host) : (w.updConn c f).settings = w.settings := by
  have hsame (x : ConnId) : ((w.updConn c f).conn x).user_modes = (w.conn x).user_modes ∧
      ((w.updConn c f).conn x).user = (w.conn x).user ∧
      ((w.updConn c f).conn x).m_host = (w.conn x).m_host := by
    rw [updConn_conn]
    by_cases hx : x = c
    · rw [if_pos hx, hx]
      exact h
    · rw [if_neg hx]
      exact ⟨rfl, rfl, rfl⟩
  ext1
  case user_modes => exact funext fun x => (hsame x).1
  case user => exact funext fun x => (hsame x).2.1
  case m_host => exact funext fun x => (hsame x).2.2
  all_goals rfl

theorem settings_updChan {ch : ChanId} {f : Channel → Channel}
    (h : (f (w.chan ch)).uid = (w.chan ch).uid ∧
      (f (w.chan ch)).m_metadata = (w.chan ch).m_metadata) :
    (w.updChan ch f).settings = w.settings := by
  have hsame (x : ChanId) : ((w.updChan ch f).chan x).uid = (w.chan x).uid ∧
      ((w.updChan ch f).chan x).m_metadata = (w.chan x).m_metadata := by
    rw [updChan_chan]
    by_cases hx : x = ch
    · rw [if_pos hx, hx]
      exact h
    · rw [if_neg hx]
      exact ⟨rfl, rfl⟩
  ext1
  case uid => exact funext fun x => (hsame x).1
  case metadata => exact funext fun x => (hsame x).2
  all_goals rfl

@[simp] theorem settings_updAcc (a : AccId) (f : Account → Account) :
    (w.updAcc a f).settings = w.settings := rfl
@[simp] theorem settings_emit (c : ConnId) (data : Bytes) :
    (w.emit c data).settings = w.settings := rfl
@[simp] theorem settings_log (t : Trace) : (w.log t).settings = w.settings := rfl
@[simp] theorem settings_post (c : ConnId) (q : QueuedCall) :
    (w.post c q).settings = w.settings := rfl

theorem settings_insert_message (msg : QEventMessage) :
    (w.exec (.insert_message msg)).settings = w.settings := by
  ext1
  case stored =>
    show (w.sql ++ [SqlStmt.insert_message msg]).filter SqlStmt.isMetadata = _
    rw [List.filter_append]
    exact List.append_nil _
  all_goals rfl

@[simp] theorem settings_event {α : Type} [Gadget α] (e : QIRCEvent) (ev : α) :
    (w.event e ev).2.settings = w.settings := rfl

@[simp] theorem settings_consult {α : Type} [Gadget α] (e : QIRCEvent) (cancelled : α → Bool)
    (ev : α) : (w.consult e cancelled ev).2.settings = w.settings := by
  unfold consult
  split
  · have h := settings_event w e ev
    cases hr : w.event e ev with
    | mk r w' =>
      rw [hr] at h
      cases r with
      | none => exact h
      | some ev' => exact h
  · rfl

theorem settings_postAll (accs : List AccId) (q : QueuedCall) :
    (postAll accs q w).settings = w.settings :=
  foldl_keeps (v := settings)
    (fun w _ => foldl_keeps (v := settings) (fun w conn => w.settings_post conn q) _ w) accs w

end

end World

/-! ## what a connection is sent -/

namespace client_connection
open World

section
variable (env : Env) (c : ConnId) (w : World)

@[simp] theorem settings_send_raw (line : Bytes) :
    (send_raw env c line w).settings = w.settings := rfl
@[simp] theorem settings_reply_num (code : Nat) (text : Bytes) :
    (reply_num env c code text w).settings = w.settings := rfl
@[simp] theorem settings_reply_self (command args : Bytes) :
    (reply_self c command args w).settings = w.settings := rfl
@[simp] theorem settings_forceDisconnect : (forceDisconnect c w).settings = w.settings :=
  w.settings_updConn ⟨rfl, rfl, rfl⟩

@[simp] theorem settings_joinReplies (ch : ChanId) (account_nick : Bytes) :
    (joinReplies env c ch account_nick w).settings = w.settings := by
  unfold joinReplies
  dsimp only
  rw [settings_send_raw, settings_send_raw]
  split <;> rfl

@[simp] theorem settings_channel_rename (event : QEventChannelRename) :
    (channel_rename c event w).settings = w.settings := by
  unfold channel_rename
  split
  · rfl
  · dsimp only
    split <;> rfl

theorem settings_metadataLines (event : QEventMetadata) (lead targetName : Bytes)
    (keysToSend : List Bytes) :
    (metadataLines c event lead targetName keysToSend w).settings = w.settings := by
  refine foldl_keeps (v := settings) (fun w key => ?_) keysToSend w
  split
  · rfl
  · split <;> rfl

theorem settings_metadata (event : QEventMetadata) :
    (metadata env c event w).settings = w.settings := by
  unfold metadata
  dsimp only
  split
  · rfl
  · refine (foldl_keeps (v := settings) (fun w kv => ?_) _ _).trans ?_
    · split <;> rfl
    · split
      · rw [settings_emit, settings_metadataLines]
        rfl
      · split
        · rw [settings_metadataLines]
        · rfl

end

section
variable {env : Env} {c : ConnId} {w : World}

theorem message_settings {ev : QEventMessage} :
    Sat (fun _ => True) (fun w' => w'.settings = w.settings) (message c ev w) := by
  unfold message
  refine Sat.bind_any fun target => Sat.bind_any fun pre => ?_
  cases pre with
  | none => exact rfl
  | some p => exact rfl

theorem change_nick_settings {ev : QEventNickChange} :
    Sat (fun _ => True) (fun w' => w'.settings = w.settings) (change_nick c ev w) := by
  unfold change_nick
  dsimp only
  refine Sat.ite (fun _ => Sat.ite (fun _ => rfl) fun _ => rfl) fun _ => ?_
  exact Sat.bind_any fun a => rfl

theorem channel_join_settings {ev : QEventChannelJoin} :
    Sat (fun _ => True) (fun w' => w'.settings = w.settings) (channel_join env c ev w) := by
  unfold channel_join
  split
  · exact rfl
  · dsimp only
    refine Sat.ite (fun _ => Sat.bind_any fun a => ?_) fun _ => Sat.ite (fun _ => rfl) fun _ => ?_
    · exact (settings_updConn _ ⟨rfl, rfl, rfl⟩).trans rfl
    · show World.settings _ = _
      rw [settings_joinReplies, settings_reply_self]
      exact w.settings_updConn ⟨rfl, rfl, rfl⟩

theorem channel_part_settings {ev : QEventChannelPart} :
    Sat (fun _ => True) (fun w' => w'.settings = w.settings) (channel_part c ev w) := by
  unfold channel_part
  refine Sat.bind_any fun account => Sat.bind_any fun me => ?_
  refine Sat.ite (fun _ => ?_) fun _ => Sat.ite (fun _ => ?_) fun _ => rfl
  · show World.settings _ = _
    rw [settings_reply_self]
    exact w.settings_updConn ⟨rfl, rfl, rfl⟩
  · exact (settings_updConn _ ⟨rfl, rfl, rfl⟩).trans rfl

theorem queuedCall_settings {q : QueuedCall} :
    Sat (fun _ => True) (fun w' => w'.settings = w.settings) (queuedCall c q w) := by
  cases q with
  | channel_part ev => exact channel_part_settings
  | change_nick ev => exact change_nick_settings
  | channel_rename ev => exact settings_channel_rename c w ev

end

end client_connection

/-! ## accounts and channels -/

namespace Account
open World

section
variable {env : Env} {a : AccId} {w : World}

theorem messageAll_settings {ev : QEventMessage} :
    Sat (fun _ => True) (fun w' => w'.settings = w.settings) (messageAll a ev w) :=
  Sat.foldlM rfl fun _ _ _ h => client_connection.message_settings.mono (fun _ he => he)
    fun _ h' => h'.trans h

theorem message_settings {ev : QEventMessage} :
    Sat (fun _ => True) (fun w' => w'.settings = w.settings) (message a ev w) := by
  unfold message
  dsimp only
  generalize (if ev.tag_msg then QIRCEvent.TAG_MSG else .PRIVATE_MSG) = e
  have hhook := w.settings_consult e (·.cancel) ev
  cases hc : w.consult e (·.cancel) ev with
  | mk r w1 =>
    rw [hc] at hhook
    cases r with
    | none => exact hhook
    | some ev' =>
      refine Sat.bind_any fun d => messageAll_settings.bind fun w2 h2 => ?_
      exact messageAll_settings.mono (fun _ he => he) fun w3 h3 => h3.trans (h2.trans hhook)

theorem setNick_settings {ev : QEventNickChange} :
    Sat (fun _ => True) (fun r => r.2.settings = w.settings) (setNick a ev w) := by
  unfold setNick
  have hhook := w.settings_consult .NICK_CHANGE (·.cancel) ev
  cases hc : w.consult .NICK_CHANGE (·.cancel) ev with
  | mk r w1 =>
    rw [hc] at hhook
    cases r with
    | none => exact hhook
    | some ev' =>
      dsimp only
      cases hr : renameInRegistry a ev' w1 with
      | none => exact hhook
      | some p =>
        obtain ⟨self, w2⟩ := p
        have hrename : w2.settings = w1.settings := by
          unfold renameInRegistry at hr
          split at hr
          · cases hr
          · split at hr
            · cases hr
            · dsimp only at hr
              split at hr
              · cases hr
              · cases hr
                rfl
        exact Sat.bind_any fun l => (settings_postAll _ _ _).trans (hrename.trans hhook)

theorem settings_verifyPassword (auth : QEventAuthUser) :
    (verifyPassword env a auth w).2.settings = w.settings := by
  unfold verifyPassword
  split
  · rfl
  · split
    · have h := w.settings_event .AUTH_SASL_PLAIN auth
      split <;> next he => rw [he] at h; exact h
    · rfl

theorem settings_onConnectionDisconnected (conn : ConnId) (nick : Bytes) :
    (onConnectionDisconnected a conn nick w).settings = w.settings := by
  unfold onConnectionDisconnected
  dsimp only
  split
  · rfl
  · split <;> rfl

theorem settings_merge (source : AccId) : (merge a source w).settings = w.settings := by
  unfold merge
  split
  · rfl
  · have hclear (w1 : World) : (Ctx.account_remove_cache source (clearConnections source w1)).settings =
        w1.settings := rfl
    refine (hclear _).trans ?_
    exact foldl_keeps (v := settings) (f := fun w conn => add_connection a conn w)
      (fun w conn => rfl) _ w

end

end Account

namespace Channel
open World client_connection

section
variable {env : Env} {ch : ChanId} {w : World}

theorem settings_addMember (chan_ptr : Option ChanId) (a : AccId) :
    (addMember ch chan_ptr a w).settings = w.settings := by
  unfold addMember enlist
  split
  · rfl
  · exact (settings_updAcc _ _ _).trans (w.settings_updChan ⟨rfl, rfl⟩)

theorem join_settings {ev : QEventChannelJoin} :
    Sat (fun _ => True) (fun w' => w'.settings = w.settings) (join env ch ev w) :=
  join_keeps rfl (w.settings_consult _ _ _) (fun _ a _ h => (settings_addMember _ a).trans h)
    (fun _ _ _ w1 h => (w1.settings_updConn ⟨rfl, rfl, rfl⟩).trans h) fun _ _ _ h =>
      channel_join_settings.mono (fun _ he => he) fun _ h2 => h2.trans h

theorem settings_part (ev : QEventChannelPart) : (part ch ev w).2.settings = w.settings :=
  part_keeps (Q := fun w1 => w1.settings = w.settings) rfl (w.settings_consult _ _ _)
    (fun _ _ _ h => (settings_postAll _ _ _).trans h)
    fun _ w1 h => (w1.settings_updChan ⟨rfl, rfl⟩).trans h

theorem message_settings {ev : QEventMessage} :
    Sat (fun _ => True) (fun w' => w'.settings = w.settings) (message ch ev w) := by
  have hdeliver (ev' : QEventMessage) (w1 : World) (h1 : w1.settings = w.settings) :
      Sat (fun _ => True) (fun w' => w'.settings = w.settings)
        (((w1.exec (.insert_message ev')).chan ch).m_members.foldlM
          (fun w member => Account.messageAll member ev' w) (w1.exec (.insert_message ev'))) :=
    Sat.foldlM ((w1.settings_insert_message ev').trans h1) fun w2 member _ h2 =>
      Account.messageAll_settings.mono (fun _ he => he) fun w3 h3 => h3.trans h2
  unfold message
  dsimp only
  generalize (if ev.tag_msg then QIRCEvent.TAG_MSG else .CHANNEL_MSG) = e
  refine Sat.ite (fun _ => ?_) fun _ => hdeliver ev w rfl
  have hhook := w.settings_event e ev
  cases hc : w.event e ev with
  | mk r w1 =>
    rw [hc] at hhook
    cases r with
    | none => exact hhook
    | some ev' => exact Sat.ite (fun _ => hhook) fun _ => hdeliver ev' w1 hhook

theorem settings_rename (ev : QEventChannelRename) : (rename ev w).2.settings = w.settings := by
  unfold rename
  split
  · rfl
  · split
    · rfl
    · next channel_from _ =>
      have hhook : (if w.snakepit.hasEventHandler .CHANNEL_RENAME then
          ((w.event .CHANNEL_RENAME ev).1.getD ev, (w.event .CHANNEL_RENAME ev).2)
        else (ev, w)).2.settings = w.settings := by
        split <;> rfl
      have hname (w1 : World) (n : Bytes) (h1 : w1.settings = w.settings) :
          (w1.updChan channel_from fun k => { k with m_name := n }).settings = w.settings :=
        (w1.settings_updChan ⟨rfl, rfl⟩).trans h1
      exact (settings_postAll _ _ _).trans (hname _ _ hhook)

end

end Channel

/-! ## what changes the settings -/

namespace Settings

/-- a channel without an id is made -/
def create (s : Settings) : Settings :=
  { s with
    uid := fun x => if x = s.nextChan then 0 else s.uid x
    metadata := fun x => if x = s.nextChan then none else s.metadata x
    nextChan := s.nextChan + 1 }

def setModes (s : Settings) (c : ConnId) (modes : Flags UserModes) : Settings :=
  { s with user_modes := fun x => if x = c then modes else s.user_modes x }

def setUser (s : Settings) (c : ConnId) (user : Bytes) : Settings :=
  { s with user := fun x => if x = c then user else s.user x }

/-- a connection starts with no modes, no user name and the default host -/
def connect (s : Settings) (c : ConnId) : Settings :=
  { s with
    user_modes := fun x => if x = c then ⟨0⟩ else s.user_modes x
    user := fun x => if x = c then [] else s.user x
    m_host := fun x => if x = c then defaultHost else s.m_host x }

/-- channels are made, and nothing else happens -/
inductive Made : Settings → Settings → Prop
  | refl (s : Settings) : Made s s
  | create {s s' : Settings} (h : Made s.create s') : Made s s'

theorem Made.trans {s s1 s' : Settings} (h : Made s s1) (h' : Made s1 s') : Made s s' := by
  induction h with
  | refl s => exact h'
  | create _ ih => exact .create (ih h')

theorem Made.user_modes {s s' : Settings} (h : Made s s') :
    s'.user_modes = s.user_modes ∧ s'.user = s.user ∧ s'.m_host = s.m_host := by
  induction h with
  | refl s => exact ⟨rfl, rfl, rfl⟩
  | create _ ih => exact ih

end Settings

/-! ## the commands -/

namespace client_connection
open World

section
variable {env : Env} {c : ConnId} {args : List Bytes} {w : World}

theorem settings_get_or_create (name : Bytes) (w : World) :
    Settings.Made w.settings (Channel.get_or_create name w).2.settings := by
  unfold Channel.get_or_create
  split
  · exact .refl _
  · refine .create (Eq.subst (motive := fun s => Settings.Made w.settings.create s) ?_ (.refl _))
    ext1
    case uid =>
      funext x
      show (if x = w.nextChan then 0 else (w.chan x).uid) =
        (if x = w.nextChan then _ else w.chan x : Channel).uid
      split <;> rfl
    case metadata =>
      funext x
      show (if x = w.nextChan then none else (w.chan x).m_metadata) =
        (if x = w.nextChan then _ else w.chan x : Channel).m_metadata
      split <;> rfl
    all_goals rfl

theorem handleJOIN_settings :
    Sat (fun _ => True) (fun w' => Settings.Made w.settings w'.settings) (handleJOIN env c args w) := by
  unfold handleJOIN
  refine Sat.ite (fun _ => .refl _) fun _ => Sat.bind_any fun chans => ?_
  refine Sat.foldlM (.refl _) fun w1 name _ h1 => ?_
  unfold joinOne
  refine Sat.ite (fun _ => h1) fun _ => ?_
  refine Channel.join_settings.mono (fun _ he => he) fun w2 h2 => ?_
  rw [h2]
  exact h1.trans (settings_get_or_create _ w1)

theorem settings_partLoop (_nick message : Bytes) (chans : List Bytes) (w : World) :
    (partLoop env c _nick message chans w).settings = w.settings := by
  induction chans generalizing w with
  | nil => rfl
  | cons name chans ih =>
    unfold partLoop
    split
    · dsimp only
      split
      · rw [ih, settings_send_raw]
      · next chan_ptr _ =>
        have hpart := @Channel.settings_part chan_ptr w
          { channel := chan_ptr, account := (w.conn c).m_account, message := message }
        split
        · next he => rw [he] at hpart; exact hpart
        · next he => rw [he] at hpart; rw [ih, settings_send_raw]; exact hpart
    · exact ih w

theorem handlePART_settings :
    Sat (fun _ => True) (fun w' => w'.settings = w.settings) (handlePART env c args w) := by
  unfold handlePART
  refine Sat.ite (fun _ => rfl) fun _ => Sat.bind_any fun chans => Sat.bind_any fun message => ?_
  exact settings_partLoop _ message _ w

theorem relay_settings {target : Bytes} {msg : QEventMessage} :
    Sat (fun _ => True) (fun w' => w'.settings = w.settings) (relay env c target msg w) := by
  unfold relay
  dsimp only
  refine Sat.ite (fun _ => ?_) fun _ => ?_
  · split
    · exact rfl
    · exact Channel.message_settings
  · split
    · exact rfl
    · exact Sat.bind_any fun a => Account.message_settings

theorem handlePRIVMSG_settings {tags : QMap QString QVariant} :
    Sat (fun _ => True) (fun w' => w'.settings = w.settings) (handlePRIVMSG env c tags args w) := by
  unfold handlePRIVMSG
  exact Sat.ite (fun _ => rfl) fun _ => Sat.bind_any fun _ => Sat.bind_any fun _ => relay_settings

theorem handleTAGMSG_settings {tags : QMap QString QVariant} :
    Sat (fun _ => True) (fun w' => w'.settings = w.settings) (handleTAGMSG env c tags args w) := by
  unfold handleTAGMSG
  exact Sat.ite (fun _ => rfl) fun _ => Sat.bind_any fun _ => relay_settings

theorem handleRENAME_settings :
    Sat (fun _ => True) (fun w' => w'.settings = w.settings) (handleRENAME c args w) := by
  unfold handleRENAME
  refine Sat.ite (fun _ => rfl) fun _ => Sat.bind_any fun from_channel => Sat.bind_any fun to_channel => ?_
  dsimp only
  split
  · exact rfl
  · exact rfl
  · exact Sat.bind_any fun message => Channel.settings_rename _

theorem handleCHATHISTORY_settings :
    Sat (fun _ => True) (fun w' => w'.settings = w.settings) (handleCHATHISTORY env c args w) :=
  handleCHATHISTORY_keeps fun _ _ => rfl

theorem settings_handleMOTD : (handleMOTD env c w).settings = w.settings :=
  handleMOTD_keeps (v := World.settings) fun _ _ => rfl

theorem handleWHO_settings :
    Sat (fun _ => True) (fun w' => w'.settings = w.settings) (handleWHO env c args w) :=
  handleWHO_keeps fun _ _ => rfl

theorem handlePING_settings :
    Sat (fun _ => True) (fun w' => w'.settings = w.settings) (handlePING env c args w) :=
  handlePING_keeps fun _ _ => rfl

theorem handlePASS_settings :
    Sat (fun _ => True) (fun w' => w'.settings = w.settings) (handlePASS env c args w) := by
  unfold handlePASS
  exact Sat.ite (fun _ => rfl) fun _ => Sat.bind_any fun pass => w.settings_updConn ⟨rfl, rfl, rfl⟩

/-! ### MODE -/

/-- what a list of mode letters does to the modes of a connection -/
def changeModes (adding : Bool) (letters : Bytes) (modes : Flags UserModes) : Flags UserModes :=
  letters.foldl (fun modes letter =>
    match lookupLetter userModesTable letter with
    | none => modes
    | some mode => if adding then modes.set mode else modes.clear mode) modes

theorem settings_userModeChange (adding : Bool) (letters : Bytes) :
    (userModeChange env c adding letters w).settings =
      w.settings.setModes c (changeModes adding letters (w.conn c).user_modes) := by
  have hwalk (letters : Bytes) (s : ModeWalk) :
      (letters.foldl (userModeStep c adding) s).world.settings =
        s.world.settings.setModes c (changeModes adding letters (s.world.conn c).user_modes) := by
    induction letters generalizing s with
    | nil =>
      ext1
      case user_modes =>
        funext x
        show (s.world.conn x).user_modes = if x = c then (s.world.conn c).user_modes else _
        by_cases hx : x = c
        · rw [if_pos hx, hx]
        · rw [if_neg hx]
          rfl
      all_goals rfl
    | cons letter letters ih =>
      rw [List.foldl_cons, ih]
      unfold userModeStep changeModes
      rw [List.foldl_cons]
      cases lookupLetter userModesTable letter with
      | none => rfl
      | some mode =>
        dsimp only
        unfold applyUserMode
        rw [updConn_conn, if_pos rfl]
        ext1
        case user_modes =>
          funext x
          show (if x = c then _ else (if x = c then _ else s.world.conn x : Conn).user_modes) =
            if x = c then _ else (s.world.conn x).user_modes
          by_cases hx : x = c
          · rw [if_pos hx, if_pos hx]
          · rw [if_neg hx, if_neg hx, if_neg hx]
        case user =>
          funext x
          show (if x = c then _ else s.world.conn x : Conn).user = (s.world.conn x).user
          split
          · next hx => rw [hx]
          · rfl
        case m_host =>
          funext x
          show (if x = c then _ else s.world.conn x : Conn).m_host = (s.world.conn x).m_host
          split
          · next hx => rw [hx]
          · rfl
        all_goals rfl
  have h := hwalk letters { world := w }
  unfold userModeChange
  dsimp only
  split
  · exact h
  · split <;> exact h

theorem setMode_settings (mode : ChannelModes) (adding : Bool) (arg : Bytes) (k : Channel) :
    (Channel.setMode mode adding arg k).uid = k.uid ∧
      (Channel.setMode mode adding arg k).m_metadata = k.m_metadata := by
  unfold Channel.setMode
  dsimp only
  split
  · exact ⟨rfl, rfl⟩
  · split
    · split
      · split <;> exact ⟨rfl, rfl⟩
      · exact ⟨rfl, rfl⟩
    · exact ⟨rfl, rfl⟩
  · split
    · exact ⟨rfl, rfl⟩
    · split <;> exact ⟨rfl, rfl⟩
  · exact ⟨rfl, rfl⟩

theorem channelModeChange_settings {target : Bytes} {adding : Bool} {letters : Bytes} :
    Sat (fun _ => True) (fun w' => w'.settings = w.settings)
      (channelModeChange env c target adding letters args w) :=
  channelModeChange_keeps (fun _ _ => rfl)
    (fun _ mode adding arg w => w.settings_updChan (setMode_settings mode adding arg _)) target letters

/-- the change of the own modes that a MODE asks for: its sign and its letters -/
def ownModes (c : ConnId) (args : List Bytes) (w : World) : Option (Bool × Bytes) :=
  match args with
  | target :: (sign :: letters) :: _ =>
    if target = w.nick c ∧ (sign = 43 ∨ sign = 45) ∧
        ¬ (startsWithHash target = true ∧ sign :: letters = ascii "b") then
      some (sign == 43, letters)
    else none
  | _ => none

theorem handleMODE_settings :
    Sat (fun _ => True) (fun w' => w'.settings = match ownModes c args w with
      | some (adding, letters) =>
        w.settings.setModes c (changeModes adding letters (w.conn c).user_modes)
      | none => w.settings) (handleMODE env c args w) := by
  unfold handleMODE
  cases args with
  | nil => exact rfl
  | cons target args =>
    refine Sat.ite (fun h => absurd h (by simp)) fun _ => ?_
    show Sat _ _ (if (target :: args).length = 1 then _ else _)
    cases args with
    | nil =>
      show World.settings (modeQuery env c target w) = _
      exact modeQuery_keeps (fun _ _ => rfl) target
    | cons requested_modes args =>
      refine Sat.ite (fun h => absurd h (by simp)) fun _ => ?_
      show Sat _ _ (if startsWithHash target = true ∧ requested_modes = ascii "b" then _ else _)
      by_cases hban : startsWithHash target = true ∧ requested_modes = ascii "b"
      · rw [if_pos hban]
        have hquery : (banQuery env c target w).settings = w.settings :=
          banQuery_keeps (fun _ _ => rfl) target
        have hnone : ownModes c (target :: requested_modes :: args) w = none := by
          unfold ownModes
          cases requested_modes with
          | nil => rfl
          | cons sign letters => exact if_neg fun h => h.2.2 hban
        rw [hnone]
        exact hquery
      · rw [if_neg hban]
        cases requested_modes with
        | nil => exact rfl
        | cons sign letters =>
          unfold ownModes
          dsimp only
          by_cases hsign : sign ≠ 43 ∧ sign ≠ 45
          · rw [if_pos hsign, if_neg fun h => h.2.1.elim hsign.1 hsign.2]
            exact rfl
          · have hsign' : sign = 43 ∨ sign = 45 := by
              by_contra hx
              exact hsign (not_or.mp hx)
            rw [if_neg hsign]
            by_cases htarget : target = w.nick c
            · rw [if_pos htarget, if_pos ⟨htarget, hsign', hban⟩]
              exact settings_userModeChange _ letters
            · rw [if_neg htarget, if_neg fun h => htarget h.1]
              exact Sat.ite (fun _ => channelModeChange_settings) fun _ => rfl

/-! ### the setup -/

theorem handleAUTHENTICATE_settings :
    Sat (fun _ => True) (fun w' => w'.settings = w.settings) (handleAUTHENTICATE env c args w) := by
  have hlogin (a : AccId) (u : Bytes) (w1 : World) : (login env c a u w1).settings = w1.settings := by
    have hlogged (w2 : World) :
        (w2.updConn c fun k => { k with logged_in := true }).settings = w2.settings :=
      w2.settings_updConn ⟨rfl, rfl, rfl⟩
    unfold login
    dsimp only
    rw [hlogged, settings_reply_num, settings_reply_num]
    split
    · exact Account.settings_merge _
    · exact w1.settings_updConn ⟨rfl, rfl, rfl⟩
  unfold handleAUTHENTICATE
  refine Sat.ite (fun _ => settings_forceDisconnect c _) fun _ => Sat.bind_any fun arg => ?_
  refine Sat.ite (fun _ => rfl) fun _ => Sat.ite (fun _ => rfl) fun _ => ?_
  refine Sat.bind_any fun username => Sat.bind_any fun password => ?_
  show World.settings (authenticate env c username password w) = w.settings
  unfold authenticate
  split
  · exact settings_forceDisconnect c _
  · next account _ =>
    have hverify := @Account.settings_verifyPassword env account w
      { username := username, password := password, ip := (w.conn c).ip }
    dsimp only
    split
    · exact (settings_forceDisconnect c _).trans hverify
    · exact (hlogin account username _).trans hverify

theorem settings_clearTask (t : ConnectionSetupTasks) : (clearTask c t w).settings = w.settings :=
  w.settings_updConn ⟨rfl, rfl, rfl⟩

theorem rejoin_settings {a : AccId} :
    Sat (fun _ => True) (fun w' => w'.settings = w.settings) (rejoin env a w) :=
  Sat.foldlM rfl fun _ _ _ h1 => Sat.bind_any fun _ =>
    Channel.join_settings.mono (fun _ he => he) fun _ h2 => h2.trans h1

theorem logged_in_updConn (w : World) {f : Conn → Conn}
    (hf : (f (w.conn c)).logged_in = (w.conn c).logged_in) :
    ((w.updConn c f).conn c).logged_in = (w.conn c).logged_in := by
  rw [updConn_conn, if_pos rfl]
  exact hf

theorem enrol_settings : (enrol c w).2.settings = w.settings ∧
    ((enrol c w).2.conn c).logged_in = (w.conn c).logged_in := by
  have hsync (n : Bytes) (w1 : World) : (syncNick c n w1).settings = w1.settings ∧
      ((syncNick c n w1).conn c).logged_in = (w1.conn c).logged_in := by
    unfold syncNick
    dsimp only
    split
    · exact ⟨rfl, rfl⟩
    · exact ⟨(settings_emit _ _ _).trans (w1.settings_updConn ⟨rfl, rfl, rfl⟩),
        logged_in_updConn w1 (f := fun k => { k with m_nick := n }) rfl⟩
  have hmake (a : AccId) (w1 : World) :
      (w1.updConn c fun k => { k with m_account := some a }).settings = w1.settings ∧
        ((w1.updConn c fun k => { k with m_account := some a }).conn c).logged_in =
          (w1.conn c).logged_in := ⟨w1.settings_updConn ⟨rfl, rfl, rfl⟩, logged_in_updConn w1 rfl⟩
  have hobtain : (obtainAccount c w).2.settings = w.settings ∧
      ((obtainAccount c w).2.conn c).logged_in = (w.conn c).logged_in := by
    unfold obtainAccount
    split
    · exact ⟨rfl, rfl⟩
    · exact ⟨(hmake _ _).1.trans rfl, (hmake _ _).2.trans rfl⟩
  unfold enrol
  exact ⟨(hsync _ _).1.trans hobtain.1, (hsync _ _).2.trans hobtain.2⟩

/-- an attempt to finish the setup marks the connection as registered, if it does anything -/
def Attempt (c : ConnId) (logged_in : Bool) (s s' : Settings) : Prop :=
  s' = s ∨ logged_in = true ∧ s' = s.setModes c ((s.user_modes c).set .REGISTERED)

theorem markRegistered_settings {_nick : Bytes} :
    Sat (fun _ => True) (fun w' => Attempt c (w.conn c).logged_in w.settings w'.settings)
      (markRegistered env c _nick w) := by
  unfold markRegistered
  refine Sat.ite (fun hlogged => ?_) fun _ => Or.inl rfl
  refine handleMODE_settings.mono (fun _ he => he) fun w1 h1 => ?_
  have hown : ownModes c [_nick, ascii "+r"] w = some (true, ascii "r") ∨
      ownModes c [_nick, ascii "+r"] w = none := ite_eq_or_eq _ _ _
  rcases hown with hown | hown
  · rw [hown] at h1
    exact Or.inr ⟨hlogged, h1⟩
  · rw [hown] at h1
    exact Or.inl h1

theorem try_finalize_setup_settings :
    Sat (fun _ => True) (fun w' => Attempt c (w.conn c).logged_in w.settings w'.settings)
      (try_finalize_setup env c w) := by
  unfold try_finalize_setup
  refine Sat.ite (fun _ => Or.inl rfl) fun _ => ?_
  have hlog : (w.log (.finalize c)).settings = w.settings := rfl
  have hreply (reply : World → World)
      (h : setupRefused env c (w.log (.finalize c)) = some reply) (w1 : World) :
      (reply w1).settings = w1.settings := by
    unfold setupRefused at h
    dsimp only at h
    split at h
    · rw [← Option.some.inj h]
      rfl
    · split at h
      · rw [← Option.some.inj h]
        rfl
      · cases h
  dsimp only
  split
  · next reply hrefused =>
    exact Or.inl ((settings_forceDisconnect c _).trans ((hreply reply hrefused _).trans hlog))
  · have henrol := @enrol_settings c (w.log (.finalize c))
    have hprint := @prints_welcomeLines env c (enrol c (w.log (.finalize c))).2
      ((enrol c (w.log (.finalize c))).2.accNick (enrol c (w.log (.finalize c))).1)
    have hwelcome : (welcomeLines env c ((enrol c (w.log (.finalize c))).2.accNick
        (enrol c (w.log (.finalize c))).1) (enrol c (w.log (.finalize c))).2).settings = w.settings := by
      obtain ⟨out, trace, he⟩ := hprint
      rw [he]
      exact henrol.1
    have hlogged : ((welcomeLines env c ((enrol c (w.log (.finalize c))).2.accNick
        (enrol c (w.log (.finalize c))).1) (enrol c (w.log (.finalize c))).2).conn c).logged_in =
        (w.conn c).logged_in := by
      rw [hprint.conn]
      exact henrol.2
    have hgreet : Sat (fun _ => True)
        (fun w' => Attempt c (w.conn c).logged_in w.settings w'.settings)
        (greet env c (enrol c (w.log (.finalize c))).1 (enrol c (w.log (.finalize c))).2) := by
      unfold greet
      refine markRegistered_settings.bind fun w1 h1 => ?_
      rw [hwelcome, hlogged] at h1
      refine rejoin_settings.mono (fun _ he => he) fun w2 h2 => ?_
      rw [h2]
      exact h1
    refine hgreet.bind fun w1 h1 => ?_
    show Attempt c _ _ (setReady c w1).settings
    have hset : (setReady c w1).settings = w1.settings := w1.settings_updConn ⟨rfl, rfl, rfl⟩
    rw [hset]
    exact h1

/-- the same after a task was cleared -/
theorem clearTask_settings {t : ConnectionSetupTasks} {w1 : World}
    (hlogged : (w1.conn c).logged_in = (w.conn c).logged_in) :
    Sat (fun _ => True) (fun w' => Attempt c (w.conn c).logged_in w1.settings w'.settings)
      (try_finalize_setup env c (clearTask c t w1)) := by
  refine try_finalize_setup_settings.mono (fun _ he => he) fun w2 h2 => ?_
  have hclear : ((clearTask c t w1).conn c).logged_in = (w.conn c).logged_in :=
    (congrArg Conn.logged_in (if_pos rfl)).trans hlogged
  rw [settings_clearTask, hclear] at h2
  exact h2

theorem handleCAP_settings :
    Sat (fun _ => True) (fun w' => Attempt c (w.conn c).logged_in w.settings w'.settings)
      (handleCAP env c args w) := by
  have hls (version : Option Int) : (capLS env c version w).settings = w.settings := by
    unfold capLS
    dsimp only
    split
    · split <;> rfl
    · rfl
  have hreq (line : Bytes) : (capREQ env c line w).settings = w.settings := by
    unfold capREQ
    dsimp only
    split
    · exact (World.settings_updConn _ ⟨rfl, rfl, rfl⟩).trans rfl
    · rfl
  unfold handleCAP
  refine Sat.ite (fun _ => Sat.bind_any fun sub_cmd => ?_) fun _ => Or.inl rfl
  refine Sat.ite (fun _ => Sat.ite (fun _ => ?_) fun _ => Or.inl (hls none)) fun _ =>
    Sat.ite (fun _ => Sat.ite (fun _ => Or.inl rfl) fun _ => ?_) fun _ =>
      Sat.ite (fun _ => Or.inl rfl) fun _ => Sat.ite (fun _ => ?_) fun _ => Or.inl rfl
  · exact Sat.bind_any fun version => Or.inl (hls (toInt? version))
  · exact Sat.bind_any fun line => Or.inl (hreq line)
  · exact clearTask_settings rfl

theorem handleNICK_settings :
    Sat (fun _ => True) (fun w' => Attempt c (w.conn c).logged_in w.settings w'.settings)
      (handleNICK env c args w) := by
  unfold handleNICK
  refine Sat.ite (fun _ => Or.inl rfl) fun _ => Sat.bind_any fun new_nick => ?_
  refine Sat.ite (fun _ => Or.inl rfl) fun _ => Sat.ite (fun _ => Or.inl rfl) fun _ =>
    Sat.ite (fun _ => ?_) fun _ => Sat.ite (fun _ => Or.inl rfl) fun _ => ?_
  · have hset : Sat (fun _ => True) (fun w' => w'.settings = w.settings ∧
        (w'.conn c).logged_in = (w.conn c).logged_in) (setNick c new_nick w) :=
      Sat.ite (fun _ => trivial) fun _ =>
        ⟨w.settings_updConn ⟨rfl, rfl, rfl⟩, logged_in_updConn w rfl⟩
    refine hset.bind fun w1 h1 => ?_
    rw [← h1.1]
    exact clearTask_settings h1.2
  · unfold changeOwnNick
    refine Sat.ite (fun _ => Or.inl rfl) fun _ => Sat.bind_any fun m_account => ?_
    refine Account.setNick_settings.bind fun r hr => Or.inl ?_
    show World.settings (if r.1 then r.2 else reply_num env c 433 new_nick r.2) = _
    split <;> exact hr

/-- a USER gives the connection its name, and then attempts to finish -/
theorem handleUSER_settings :
    Sat (fun _ => True) (fun w' => w'.settings = w.settings ∨
      ∃ user, args[0]? = some user ∧ 4 ≤ args.length ∧
        Attempt c (w.conn c).logged_in (w.settings.setUser c user) w'.settings)
      (handleUSER env c args w) := by
  unfold handleUSER
  refine Sat.ite (fun _ => Or.inl rfl) fun _ => Sat.ite (fun _ => Or.inl rfl) fun hlen => ?_
  have hread : Sat (fun _ => True) (fun user => args[0]? = some user) (listAt args 0) :=
    sat_listAt (by omega)
  refine hread.bind fun user huser => Sat.bind_any fun realname => ?_
  obtain ⟨w1, hw1⟩ : ∃ w1, w1 = w.updConn c fun k => { k with user := user, realname := realname } :=
    ⟨_, rfl⟩
  have hset : w1.settings = w.settings.setUser c user := by
    rw [hw1]
    ext1
    case user_modes =>
      funext x
      show (if x = c then _ else w.conn x : Conn).user_modes = (w.conn x).user_modes
      split
      · next hx => rw [hx]
      · rfl
    case user =>
      funext x
      show (if x = c then _ else w.conn x : Conn).user = if x = c then user else (w.conn x).user
      split <;> rfl
    case m_host =>
      funext x
      show (if x = c then _ else w.conn x : Conn).m_host = (w.conn x).m_host
      split
      · next hx => rw [hx]
      · rfl
    all_goals rfl
  have hlogged : (w1.conn c).logged_in = (w.conn c).logged_in := by
    rw [hw1]
    exact logged_in_updConn w rfl
  rw [← hw1]
  refine Sat.ite (fun _ => ?_) fun _ => ?_
  · refine Or.inr ⟨user, huser, by omega, Or.inl ?_⟩
    exact (settings_forceDisconnect c _).trans hset
  · obtain ⟨w2, hw2⟩ : ∃ w2, w2 = w1.updConn c fun k =>
        { k with user_already_exists :=
            k.user_already_exists || Ctx.account_username_exists w1 user } := ⟨_, rfl⟩
    have hset2 : w2.settings = w.settings.setUser c user := by
      rw [hw2, ← hset]
      exact w1.settings_updConn ⟨rfl, rfl, rfl⟩
    have hlogged2 : (w2.conn c).logged_in = (w.conn c).logged_in := by
      rw [hw2, ← hlogged]
      exact logged_in_updConn w1 rfl
    rw [← hw2]
    refine (clearTask_settings hlogged2).mono (fun _ he => he) fun w3 h3 => ?_
    rw [hset2] at h3
    exact Or.inr ⟨user, huser, by omega, h3⟩

/-! ### METADATA -/

/-- a store is written, and a statement about it executed -/
theorem handleMETADATA_users :
    Sat (fun _ => True) (fun w' => w'.settings.user_modes = w.settings.user_modes ∧
      w'.settings.user = w.settings.user ∧ w'.settings.m_host = w.settings.m_host)
      (handleMETADATA env c args w) := by
  have hsave (ref : MetaRef) (m : Metadata) (w1 : World) : (Metadata.save ref m w1).conn = w1.conn := by
    cases ref <;> rfl
  have hconn (w1 : World) (h : w1.conn = w.conn) : w1.settings.user_modes = w.settings.user_modes ∧
      w1.settings.user = w.settings.user ∧ w1.settings.m_host = w.settings.m_host := by
    unfold World.settings
    rw [h]
    exact ⟨rfl, rfl, rfl⟩
  have hhandle (ref : MetaRef) (ev : QEventMetadata) :
      Sat (fun _ => True) (fun r => r.2.conn = w.conn) (Metadata.handle env ref ev w) :=
    Metadata.handle_handled.mono (fun _ _ => trivial) fun _ h => h.keeps (hsave ref) fun _ _ _ => rfl
  unfold handleMETADATA
  refine Sat.ite (fun _ => ⟨rfl, rfl, rfl⟩) fun _ => Sat.ite (fun _ => ?_) fun _ => ⟨rfl, rfl, rfl⟩
  refine Sat.bind_any fun target => Sat.bind_any fun subcmd => Sat.bind_any fun r => ?_
  cases r with
  | none => exact ⟨rfl, rfl, rfl⟩
  | some p =>
    refine (hhandle p.1 p.2).bind fun q hq => ?_
    show (metadata env c q.1 q.2).settings.user_modes = _ ∧ (metadata env c q.1 q.2).settings.user = _ ∧
      (metadata env c q.1 q.2).settings.m_host = _
    rw [settings_metadata]
    exact hconn q.2 hq

/-! ## one command -/

/-- the modes after a command of connection `c` -/
def ModesEffect (c : ConnId) (cmd : Command) (args : List Bytes) (w : World)
    (user_modes : ConnId → Flags UserModes) : Prop :=
  user_modes = w.settings.user_modes ∨
    (∃ adding letters, cmd = .MODE ∧ ownModes c args w = some (adding, letters) ∧ user_modes =
      (w.settings.setModes c (changeModes adding letters (w.conn c).user_modes)).user_modes) ∨
    ((w.conn c).logged_in = true ∧ user_modes =
      (w.settings.setModes c ((w.conn c).user_modes.set .REGISTERED)).user_modes)

theorem handle_modes {tags : QMap QString QVariant} {cmd : Command} :
    Sat (fun _ => True) (fun w' => ModesEffect c cmd args w w'.settings.user_modes)
      (handle env c tags cmd args w) := by
  have hsame (w' : World) (h : w'.settings = w.settings) :
      ModesEffect c cmd args w w'.settings.user_modes := Or.inl (by rw [h])
  have hattempt (s : Settings) (hs : s.user_modes = w.settings.user_modes) (w' : World)
      (h : Attempt c (w.conn c).logged_in s w'.settings) :
      ModesEffect c cmd args w w'.settings.user_modes := by
    rcases h with h | ⟨hlogged, h⟩
    · rw [h]
      exact Or.inl hs
    · refine Or.inr (Or.inr ⟨hlogged, ?_⟩)
      rw [h]
      show (fun x => if x = c then (s.user_modes c).set .REGISTERED else s.user_modes x) = _
      rw [hs]
      rfl
  have hquiet {r : Except Fault World}
      (h : Sat (fun _ => True) (fun w' => w'.settings = w.settings) r) :
      Sat (fun _ => True) (fun w' => ModesEffect c cmd args w w'.settings.user_modes) r :=
    h.mono (fun _ he => he) hsame
  have hfinish {r : Except Fault World}
      (h : Sat (fun _ => True) (fun w' => Attempt c (w.conn c).logged_in w.settings w'.settings) r) :
      Sat (fun _ => True) (fun w' => ModesEffect c cmd args w w'.settings.user_modes) r :=
    h.mono (fun _ he => he) (hattempt w.settings rfl)
  cases cmd with
  | PASS => exact hquiet handlePASS_settings
  | NICK => exact hfinish handleNICK_settings
  | USER =>
    refine handleUSER_settings.mono (fun _ he => he) fun w' h => ?_
    rcases h with h | ⟨user, -, -, h⟩
    · exact hsame w' h
    · exact hattempt (w.settings.setUser c user) rfl w' h
  | PING => exact hquiet handlePING_settings
  | PONG => exact hsame w rfl
  | JOIN =>
    show Sat _ _ (dispatchJOIN env c args w)
    unfold dispatchJOIN
    refine Sat.bind_any fun p => Sat.ite (fun _ => hsame w rfl) fun _ => ?_
    exact handleJOIN_settings.mono (fun _ he => he) fun w' h => Or.inl h.user_modes.1
  | PART => exact hquiet handlePART_settings
  | PRIVMSG => exact hquiet handlePRIVMSG_settings
  | TAGMSG => exact hquiet handleTAGMSG_settings
  | QUIT => exact hsame _ (settings_forceDisconnect c w)
  | NAMES => exact hsame w rfl
  | CHATHISTORY => exact hquiet handleCHATHISTORY_settings
  | RENAME => exact hquiet handleRENAME_settings
  | METADATA => exact handleMETADATA_users.mono (fun _ he => he) fun w' h => Or.inl h.1
  | TOPIC => exact hsame w rfl
  | LUSERS => exact hsame _ rfl
  | MOTD => exact hsame _ settings_handleMOTD
  | WHO => exact hquiet handleWHO_settings
  | AUTHENTICATE => exact hquiet handleAUTHENTICATE_settings
  | CAP => exact hfinish handleCAP_settings
  | MODE =>
    refine handleMODE_settings.mono (fun _ he => he) fun w' h => ?_
    cases hown : ownModes c args w with
    | none =>
      rw [hown] at h
      exact hsame w' h
    | some p =>
      rw [hown] at h
      refine Or.inr (Or.inl ⟨p.1, p.2, rfl, hown, ?_⟩)
      rw [h]

/-! ## one line -/

theorem settings_handlerWorld (line : Bytes) : (handlerWorld c line w).settings = w.settings := by
  have hraw : (rawHook c line w).2.settings = w.settings := by
    unfold rawHook
    split
    · have h := w.settings_event .RAW_MSG ({ raw := line, ip := (w.conn c).ip } : QEventRawMessage)
      split <;> next he => rw [he] at h; exact h
    · rfl
  have hverify (line : Bytes) (w1 : World) : (verifyTags c line w1).settings = w1.settings := by
    unfold verifyTags
    split <;> rfl
  unfold handlerWorld
  split <;> next he => rw [he] at hraw; first | exact hraw | exact (hverify _ _).trans hraw

theorem ownModes_congr {w' : World} (h : w'.reg = w.reg) : ownModes c args w' = ownModes c args w := by
  unfold ownModes
  rw [World.nick_eq h c]

theorem parseIncoming_modes {line : Bytes} :
    Sat (fun _ => True) (fun w' => w'.settings.user_modes = w.settings.user_modes ∨
      ∃ cmd args, lineCommand c line w = some (cmd, args) ∧
        ModesEffect c cmd args w w'.settings.user_modes) (parseIncoming env c line w) := by
  rw [parseIncoming_eq]
  have hset := settings_handlerWorld (c := c) (w := w) line
  cases hcmd : lineCommand c line w with
  | none => exact Or.inl (congrArg Settings.user_modes hset)
  | some p =>
    refine handle_modes.mono (fun _ he => he) fun w' h => Or.inr ⟨p.1, p.2, rfl, ?_⟩
    unfold ModesEffect at h ⊢
    rw [hset, conn_handlerWorld, ownModes_congr (reg_handlerWorld line)] at h
    exact h

end

end client_connection

/-! ## one event -/

namespace Worker
open World client_connection

section
variable {env : Env} {w w' : World}

theorem settings_handleConnection (isWebSocket : Bool) (ip : Bytes) (w : World) :
    (handleConnection isWebSocket ip w).settings = w.settings.connect w.nextConn := by
  ext1
  case user_modes =>
    funext x
    show (if x = w.nextConn then _ else w.conn x : Conn).user_modes =
      if x = w.nextConn then ⟨0⟩ else (w.conn x).user_modes
    split <;> rfl
  case user =>
    funext x
    show (if x = w.nextConn then _ else w.conn x : Conn).user =
      if x = w.nextConn then [] else (w.conn x).user
    split <;> rfl
  case m_host =>
    funext x
    show (if x = w.nextConn then _ else w.conn x : Conn).m_host =
      if x = w.nextConn then defaultHost else (w.conn x).m_host
    split <;> rfl
  all_goals rfl

theorem deliver_settings {c : ConnId} (h : deliver c w = .ok w') : w'.settings = w.settings := by
  unfold deliver at h
  split at h
  · cases h
    rfl
  · next d q _ =>
    dsimp only at h
    split at h
    · have hcall := queuedCall_settings.of_ok h
      exact hcall
    · cases h
      rfl

theorem settings_onSocketDisconnected (c : ConnId) (w : World) :
    (onSocketDisconnected c w).settings = w.settings := by
  unfold onSocketDisconnected
  refine (settings_updConn _ ⟨rfl, rfl, rfl⟩).trans ?_
  split
  · exact Account.settings_onConnectionDisconnected c _
  · rfl

/-- the modes of all connections after an event -/
def EventModes (w : World) (ev : Event) (user_modes : ConnId → Flags UserModes) : Prop :=
  match ev with
  | .connect _ _ => user_modes = (w.settings.connect w.nextConn).user_modes
  | .line c line => user_modes = w.settings.user_modes ∨
      ∃ cmd args, (w.conn c).live = true ∧ lineCommand c line w = some (cmd, args) ∧
        ModesEffect c cmd args w user_modes
  | .deliver _ => user_modes = w.settings.user_modes
  | .disconnect _ => user_modes = w.settings.user_modes

/-- **One event.** -/
theorem step_modes {ev : Event} (h : step env w ev = .ok w') :
    EventModes w ev w'.settings.user_modes := by
  cases ev with
  | connect isWebSocket ip =>
    cases h
    exact congrArg Settings.user_modes (settings_handleConnection isWebSocket ip w)
  | line c line =>
    have h : (if (w.conn c).live then parseIncoming env c line w else .ok w) = .ok w' := h
    by_cases hlive : (w.conn c).live = true
    · rw [if_pos hlive] at h
      rcases parseIncoming_modes.of_ok h with h | ⟨cmd, args, hcmd, h⟩
      · exact Or.inl h
      · exact Or.inr ⟨cmd, args, hlive, hcmd, h⟩
    · rw [if_neg hlive] at h
      cases h
      exact Or.inl rfl
  | deliver c => exact congrArg Settings.user_modes (deliver_settings h)
  | disconnect c =>
    cases h
    show Settings.user_modes (World.settings (if (w.conn c).live = true then _ else w)) = _
    split
    · exact congrArg Settings.user_modes (settings_onSocketDisconnected c w)
    · rfl

end

end Worker

end Chatripper
