import Mathlib
import Chatripper.Core.Account

/-!
# `Channel`

Looking a channel up, joining and leaving it, sending to it, renaming it and setting its modes.  A
message goes to every connection of every member; a part and a rename are posted to them.
-/

namespace Chatripper
open ByteStr Utf8 Outcome

namespace Channel
open client_connection

def get (w : World) (channel_name : Bytes) : Option ChanId := w.ctx.channels[channel_name]?

def get_or_create (channel_name : Bytes) (w : World) : ChanId × World :=
  match get w channel_name with
  | some ch => (ch, w)
  | none =>
    let ch := w.nextChan
    let w := { w with nextChan := w.nextChan + 1 }.updChan ch fun _ => { m_name := channel_name }
    (ch, w.updCtx fun x => { x with channels := x.channels.insert channel_name ch })

/-! ## joining and leaving -/

/-- `m_members << account`, and the channel in the account's own list -/
def enlist (ch : ChanId) (chan_ptr : Option ChanId) (account : AccId) (w : World) : World :=
  let w' := w.updChan ch fun k => { k with m_members := k.m_members ++ [account] }
  w'.updAcc account fun k => { k with channels := k.channels.insert (w.chan ch).m_name chan_ptr }

def addMember (ch : ChanId) (chan_ptr : Option ChanId) (account : AccId) (w : World) : World :=
  if (w.chan ch).m_members.contains account then w else enlist ch chan_ptr account w

/-- make sure the connections of the joining account are in the channel -/
def joinOwn (env : Env) (ch : ChanId) (account : AccId) (event : QEventChannelJoin) (w : World) :
    Except Fault World :=
  (w.acc account).connections.foldlM (fun w conn =>
    if (w.conn conn).channels.contains (w.chan ch).m_name then .ok w
    else channel_join env conn event w) w

/-- notify a member connection; `operator[]` puts a missing key into the map -/
def joinNotify (env : Env) (chan_ptr : Option ChanId) (account : AccId) (event : QEventChannelJoin)
    (w : World) (conn : ConnId) : Except Fault World :=
  let known := (w.conn conn).channel_members.getD chan_ptr ∅
  let w := w.updConn conn fun k =>
    { k with channel_members := k.channel_members.insert chan_ptr known }
  if known.contains account then .ok w else channel_join env conn event w

def join (env : Env) (ch : ChanId) (event : QEventChannelJoin) (w : World) : Except Fault World :=
  let chan_ptr := get w (w.chan ch).m_name
  match if event.from_system then (some event, w) else w.consult .CHANNEL_JOIN (·.cancel) event with
  | (none, w) => .ok w
  | (some event, w) => do
    let account ← deref .nullAccount event.account
    let w ← joinOwn env ch account event (addMember ch chan_ptr account w)
    (w.chan ch).m_members.foldlM (fun w member =>
      if (w.acc member).m_uid = (w.acc account).m_uid then .ok w
      else (w.acc member).connections.foldlM (joinNotify env chan_ptr account event) w) w

def part (ch : ChanId) (event : QEventChannelPart) (w : World) : Bool × World :=
  match if event.from_system then (some event, w) else w.consult .CHANNEL_PART (·.cancel) event with
  | (none, w) => (false, w)
  | (some event, w) =>
    match event.account.filter fun a => (w.chan ch).m_members.contains a with
    | none => (false, w)
    | some account =>
      let w := postAll (w.chan ch).m_members (.channel_part event) w
      (true, w.updChan ch fun k => { k with m_members := k.m_members.filter (· != account) })

/-- the members that the database has; the caller has just entered the channel in `ctx.channels` -/
def addMembers (ch : ChanId) (accounts : List AccId) (w : World) : World :=
  accounts.foldl (fun w acc => enlist ch (get w (w.chan ch).m_name) acc w) w

/-! ## sending -/

def message (ch : ChanId) (message : QEventMessage) (w : World) : Except Fault World :=
  let ev_type := if message.tag_msg then QIRCEvent.TAG_MSG else .CHANNEL_MSG
  let deliver (message : QEventMessage) (w : World) : Except Fault World :=
    let w := w.exec (.insert_message message)
    (w.chan ch).m_members.foldlM (fun w member => Account.messageAll member message w) w
  if w.snakepit.hasEventHandler ev_type then
    match w.event ev_type message with
    | (some message, w) => if message.cancelled then .ok w else deliver message w
    | (none, w) => .ok w
  else deliver message w

/-! ## renaming -/

/-- the answer of a hook is only looked at when it is a nick change, which it never is -/
def rename (event : QEventChannelRename) (w : World) : Bool × World :=
  if event.old_name = event.new_name then (false, w)
  else match get w (w.chan event.channel).m_name with
    | none => (false, w)
    | some channel_from =>
      let (event, w) :=
        if w.snakepit.hasEventHandler .CHANNEL_RENAME then
          let (r, w) := w.event .CHANNEL_RENAME event
          (r.getD event, w)
        else (event, w)
      let w := w.updChan channel_from fun k => { k with m_name := event.new_name }
      (true, postAll (w.chan event.channel).m_members (.channel_rename event) w)

/-! ## modes -/

def setMode (mode : ChannelModes) (adding : Bool) (arg : Bytes) (k : Channel) : Channel :=
  let modes := if adding then k.channel_modes.set mode else k.channel_modes.clear mode
  match mode with
  | .KEY => { k with m_key := if adding then arg else [], channel_modes := modes }
  | .LIMIT =>
    if adding then
      match toInt? arg with
      | some newLimit =>
        if 0 ≤ newLimit then { k with m_limit := newLimit, channel_modes := modes } else k
      | none => k
    else { k with m_limit := 0, channel_modes := modes }
  | .BAN =>
    if arg = [] then k
    else if adding then { k with m_ban_masks := k.m_ban_masks.insert arg }
    else { k with m_ban_masks := k.m_ban_masks.erase arg }
  | _ => { k with channel_modes := modes }

/-! ## what these leave alone -/

@[simp] theorem reg_get_or_create (name : Bytes) (w : World) :
    (get_or_create name w).2.reg = w.reg := by
  unfold get_or_create
  split <;> rfl

@[simp] theorem reg_addMember (ch : ChanId) (chan_ptr : Option ChanId) (a : AccId) (w : World) :
    (addMember ch chan_ptr a w).reg = w.reg := by
  unfold addMember enlist
  split
  · rfl
  · exact (World.reg_updAcc _ rfl).trans rfl

theorem joinOwn_sat {env : Env} {ch : ChanId} {a : AccId} {ev : QEventChannelJoin} {w : World} :
    Sat (OnlyWithout ev.account) (fun w' => w'.reg = w.reg) (joinOwn env ch a ev w) :=
  Sat.foldlM rfl fun _ _ _ h =>
    Sat.ite (fun _ => h) fun _ => channel_join_sat.mono (fun _ he => he) fun _ h' => h'.trans h

theorem joinNotify_sat {env : Env} {chan_ptr : Option ChanId} {a : AccId} {ev : QEventChannelJoin}
    {w : World} {conn : ConnId} :
    Sat (OnlyWithout ev.account) (fun w' => w'.reg = w.reg)
      (joinNotify env chan_ptr a ev w conn) := by
  unfold joinNotify
  dsimp only
  have hupd (known : QSet AccId) : (w.updConn conn fun k =>
      { k with channel_members := k.channel_members.insert chan_ptr known }).reg = w.reg :=
    w.reg_updConn rfl
  exact Sat.ite (fun _ => hupd _) fun _ =>
    channel_join_sat.mono (fun _ he => he) fun _ h' => h'.trans (hupd _)

/-- joining needs an account and leaves the registration view alone -/
theorem join_sat {env : Env} {ch : ChanId} {ev : QEventChannelJoin} {w : World} :
    Sat (OnlyWithout ev.account) (fun w' => w'.reg = w.reg) (join env ch ev w) := by
  unfold join
  dsimp only
  have hhook : ∃ r w1, (if ev.from_system then (some ev, w)
        else w.consult .CHANNEL_JOIN (·.cancel) ev) = (r, w1) ∧ w1.reg = w.reg ∧
        ∀ ev', r = some ev' → ev'.account = ev.account := by
    split
    · exact ⟨_, _, rfl, rfl, fun ev' h => by cases h; rfl⟩
    · refine ⟨_, _, rfl, w.reg_consult _ _ _, fun ev' h => ?_⟩
      exact congrArg Prod.fst
        (World.consult_keeps (p := QEventChannelJoin.addressees) join_addressees h)
  obtain ⟨r, w1, he, hreg, hacc⟩ := hhook
  rw [he]
  cases r with
  | none => exact hreg
  | some ev' =>
    rw [← hacc ev' rfl]
    refine (sat_deref (Q := fun _ => True) fun _ _ => trivial).bind fun a _ => ?_
    refine joinOwn_sat.bind fun w2 h2 => ?_
    rw [reg_addMember] at h2
    refine Sat.foldlM (h2.trans hreg) fun w3 member _ h3 => Sat.ite (fun _ => h3) fun _ => ?_
    exact Sat.foldlM h3 fun w4 conn _ h4 =>
      joinNotify_sat.mono (fun _ he => he) fun _ h' => h'.trans h4

section
variable {Q : World → Prop} {env : Env} {ch : ChanId} {w : World}

/-- what the hook, the lists of members and the notices keep, a join keeps -/
theorem join_keeps {ev : QEventChannelJoin} (hw : Q w)
    (hhook : Q (w.consult .CHANNEL_JOIN (·.cancel) ev).2)
    (hadd : ∀ chan_ptr a w1, Q w1 → Q (addMember ch chan_ptr a w1))
    (hknown : ∀ chan_ptr known conn w1, Q w1 → Q (w1.updConn conn fun k =>
      { k with channel_members := k.channel_members.insert chan_ptr known }))
    (hjoin : ∀ conn ev' w1, Q w1 → Sat (fun _ => True) Q (channel_join env conn ev' w1)) :
    Sat (fun _ => True) Q (join env ch ev w) := by
  have hfirst : Q (if ev.from_system then (some ev, w)
      else w.consult .CHANNEL_JOIN (·.cancel) ev).2 := by
    split
    · exact hw
    · exact hhook
  unfold join
  dsimp only
  cases hc : (if ev.from_system then (some ev, w) else w.consult .CHANNEL_JOIN (·.cancel) ev) with
  | mk r w1 =>
    rw [hc] at hfirst
    cases r with
    | none => exact hfirst
    | some ev' =>
      refine Sat.bind_any fun a => ?_
      have hown : Sat (fun _ => True) Q
          (joinOwn env ch a ev' (addMember ch (get w (w.chan ch).m_name) a w1)) :=
        Sat.foldlM (hadd _ a w1 hfirst) fun w2 conn _ h2 =>
          Sat.ite (fun _ => h2) fun _ => hjoin conn ev' w2 h2
      refine hown.bind fun w2 h2 => Sat.foldlM h2 fun w3 member _ h3 => ?_
      refine Sat.ite (fun _ => h3) fun _ => Sat.foldlM h3 fun w4 conn _ h4 => ?_
      unfold joinNotify
      have h5 := hknown (get w (w.chan ch).m_name)
        ((w4.conn conn).channel_members.getD (get w (w.chan ch).m_name) ∅) conn w4 h4
      exact Sat.ite (fun _ => h5) fun _ => hjoin conn ev' _ h5

theorem part_keeps {ev : QEventChannelPart} (hw : Q w)
    (hhook : Q (w.consult .CHANNEL_PART (·.cancel) ev).2)
    (hpost : ∀ members q w1, Q w1 → Q (postAll members q w1))
    (hleave : ∀ account w1, Q w1 → Q (w1.updChan ch fun k =>
      { k with m_members := k.m_members.filter (· != account) })) : Q (part ch ev w).2 := by
  have hfirst : Q (if ev.from_system then (some ev, w)
      else w.consult .CHANNEL_PART (·.cancel) ev).2 := by
    split
    · exact hw
    · exact hhook
  unfold part
  cases hc : (if ev.from_system then (some ev, w) else w.consult .CHANNEL_PART (·.cancel) ev) with
  | mk r w1 =>
    rw [hc] at hfirst
    cases r with
    | none => exact hfirst
    | some ev' =>
      dsimp only
      split
      · exact hfirst
      · exact hleave _ _ (hpost _ _ w1 hfirst)

end

theorem reg_part (ch : ChanId) (ev : QEventChannelPart) (w : World) :
    (part ch ev w).2.reg = w.reg :=
  part_keeps (Q := fun w1 => w1.reg = w.reg) rfl (w.reg_consult _ _ _)
    (fun _ _ _ h => (Account.reg_postAll _ _ _).trans h) fun _ _ h => h

theorem message_sat {ch : ChanId} (ev : QEventMessage) {w : World} (hto : ev.channel ≠ none) :
    Sat (OnlyWithout ev.account) (fun w' => w'.reg = w.reg) (message ch ev w) := by
  have hdeliver (ev' : QEventMessage) (w1 : World) (hev : ev'.addressees = ev.addressees)
      (hreg : w1.reg = w.reg) : Sat (OnlyWithout ev.account) (fun w' => w'.reg = w.reg)
        ((w1.chan ch).m_members.foldlM (fun w member => Account.messageAll member ev' w)
          (w1.exec (.insert_message ev'))) := by
    have hacc : ev'.account = ev.account := congrArg Prod.fst hev
    have hch : ev'.channel = ev.channel := congrArg (·.2.2.1) hev
    refine Sat.foldlM hreg fun w2 member _ h2 => ?_
    rw [← hacc]
    exact (Account.messageAll_sat (Or.inl (by rw [hch]; exact hto))).mono (fun _ he => he)
      fun _ h' => h'.trans h2
  unfold message
  dsimp only
  generalize (if ev.tag_msg then QIRCEvent.TAG_MSG else .CHANNEL_MSG) = e
  split
  · have hreg := w.reg_event e ev
    have hkeep (ev' : QEventMessage) (h : (w.event e ev).1 = some ev') :
        ev'.addressees = ev.addressees := SnakePit.event_keeps message_addressees h
    cases hr : w.event e ev with
    | mk r w1 =>
      rw [hr] at hreg hkeep
      cases r with
      | none => exact hreg
      | some ev' => exact Sat.ite (fun _ => hreg) fun _ => hdeliver ev' w1 (hkeep ev' rfl) hreg
  · exact hdeliver ev w rfl rfl

theorem reg_rename (ev : QEventChannelRename) (w : World) : (rename ev w).2.reg = w.reg := by
  unfold rename
  split
  · rfl
  · split
    · rfl
    · have hhook : (if w.snakepit.hasEventHandler .CHANNEL_RENAME then
          ((w.event .CHANNEL_RENAME ev).1.getD ev, (w.event .CHANNEL_RENAME ev).2)
        else (ev, w)).2.reg = w.reg := by
        split
        · exact w.reg_event .CHANNEL_RENAME ev
        · rfl
      exact (Account.reg_postAll _ _ _).trans hhook

end Channel

end Chatripper
