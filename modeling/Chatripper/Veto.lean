import Mathlib
import Chatripper.Auth
import Chatripper.Irc.Worker

/-!
# A handler that cancels

An operation with a hook asks the handlers of its event first.  A handler that cancels the event and
returns it stops six of the seven operations.  `Channel::rename` tests the answer for the type of
another event and goes on.

* `consult_vetoed`      the answer of a handler that cancels;
* `veto_honoured_iff`   which operations a handler stops.
-/

namespace Chatripper
open ByteStr Utf8 Outcome

/-! ## one enabled handler -/

def Handler.enabled (h : Handler) : Bool := h.owner == some true

theorem callLoop_none {hs : List Handler} (h : hs.filter Handler.enabled = []) (o : PyObj)
    (result : CallResult) : QIRC.callLoop hs o result = (o, result) := by
  induction hs with
  | nil => rfl
  | cons k hs ih =>
    have hk : ¬ k.enabled = true := by
      intro hk
      rw [List.filter_cons_of_pos hk] at h
      cases h
    rw [List.filter_cons_of_neg hk] at h
    unfold QIRC.callLoop
    split
    · exact ih h
    · exact ih h
    · next hon =>
      apply absurd _ hk
      unfold Handler.enabled
      rw [hon]
      rfl

/-- the handlers that are not enabled are passed by -/
theorem callLoop_single {hs : List Handler} {h : Handler} (hone : hs.filter Handler.enabled = [h])
    (o : PyObj) (result : CallResult) : awaited (QIRC.callLoop hs o result) = h.body o := by
  induction hs with
  | nil => cases hone
  | cons k hs ih =>
    by_cases hk : k.enabled = true
    · rw [List.filter_cons_of_pos hk, List.cons.injEq] at hone
      obtain ⟨rfl, hnone⟩ := hone
      have hon : k.owner = some true := beq_iff_eq.mp hk
      unfold QIRC.callLoop
      rw [hon]
      dsimp only
      by_cases hasync : k.isAsync = true
      · rw [if_pos hasync, callLoop_none hnone]
        rfl
      · rw [if_neg hasync]
        cases hbody : k.body o with
        | mk o' r =>
          cases r with
          | raised => rfl
          | none => rfl
          | plain =>
            dsimp only
            rw [callLoop_none hnone]
            rfl
          | passed =>
            dsimp only
            rw [callLoop_none hnone]
            rfl
          | object p =>
            dsimp only
            rw [callLoop_none hnone]
            rfl
    · rw [List.filter_cons_of_neg hk] at hone
      unfold QIRC.callLoop
      split
      · exact ih hone
      · exact ih hone
      · next hon =>
        apply absurd _ hk
        unfold Handler.enabled
        rw [hon]
        rfl

/-- in the interpreter whose turn it is one handler of the event is enabled, and it cancels the event
and returns it -/
def Vetoes {α : Type} [Gadget α] (sp : SnakePit) (e : QIRCEvent) (a : α) : Prop :=
  sp.hasEventHandler e = true ∧ ∃ s q h p, (sp.target e).1 = some s ∧ s.interp = some q ∧
    (q.handlers e).filter Handler.enabled = [h] ∧
    returnedEvent (h.body (Gadget.toPy a)) = some p ∧ p.cancelled = true ∧ p.writesCancel = true

/-- the turn of the interpreters goes on -/
def World.turn (e : QIRCEvent) (w : World) : World :=
  { w with snakepit := (w.snakepit.target e).2 }

section
variable {α : Type} [Gadget α] (cancel : α → Bool) {e : QIRCEvent} {a : α} {w : World}
  (hwrite : ∀ f v a, cancel (Gadget.write f v a) =
    if f = "_cancel" then v.toBool?.getD (cancel a) else cancel a)
include hwrite

theorem event_vetoed (h : Vetoes w.snakepit e a) :
    ∃ a', w.event e a = (some a', w.turn e) ∧ cancel a' = true := by
  obtain ⟨-, s, q, k, p, hs, hq, hone, hreturned, hcancelled, hwrites⟩ := h
  obtain ⟨hannotated, hdirty⟩ := Bool.and_eq_true_iff.mp hwrites
  have hbool : (p.attr "_cancel").toBool? = some true := beq_iff_eq.mp hcancelled
  have hcancel : cancel (updateGadgetFromPyDataclass a p) = true := by
    rw [update_cancel hwrite, hannotated, hdirty, hbool]
    rfl
  have hout : writeBack a (q.outcome e a) = some (updateGadgetFromPyDataclass a p) := by
    have houtcome : q.outcome e a = k.body (Gadget.toPy a) := callLoop_single hone _ _
    rw [houtcome]
    revert hreturned
    cases k.body (Gadget.toPy a) with
    | mk o r =>
      intro hreturned
      cases r with
      | passed => rw [Option.some.inj hreturned]; rfl
      | object o' => rw [Option.some.inj hreturned]; rfl
      | _ => cases hreturned
  refine ⟨_, ?_, hcancel⟩
  have hevent : w.event e a = ((w.snakepit.target e).1.bind fun s => s.executeFunction e a,
      w.turn e) := rfl
  have hexec : s.executeFunction e a = s.interp.bind fun q => writeBack a (q.outcome e a) := rfl
  rw [hevent, hs, Option.bind_some, hexec, hq, Option.bind_some, hout]

theorem consult_vetoed (h : Vetoes w.snakepit e a) : w.consult e cancel a = (none, w.turn e) := by
  obtain ⟨a', hevent, hcancel⟩ := event_vetoed cancel hwrite h
  unfold World.consult
  rw [if_pos h.1, hevent]
  dsimp only
  rw [if_pos hcancel]

end

/-! ## the flag of the event classes -/

/-- of the properties of a class only `_cancel` writes the flag -/
theorem writeProp_cancel {α : Type} {props : List (String × (PyVal → α → α))} {cancel : α → Bool}
    {put : Bool → α → α}
    (hlast : props.find? (fun p => p.1 == "_cancel") = some ("_cancel", boolProp put))
    (hput : ∀ b a, cancel (put b a) = b)
    (hkeep : ∀ q ∈ props, q.1 ≠ "_cancel" → ∀ v a, cancel (q.2 v a) = cancel a) (f : String)
    (v : PyVal) (a : α) : cancel (writeProp props f v a) =
      if f = "_cancel" then v.toBool?.getD (cancel a) else cancel a := by
  by_cases hf : f = "_cancel"
  · subst hf
    rw [if_pos rfl]
    unfold writeProp
    rw [hlast]
    dsimp only
    unfold boolProp
    cases v.toBool? with
    | none => rfl
    | some b => exact hput b a
  · rw [if_neg hf]
    refine writeProp_keeps (fun q hq hname v a => ?_) v a
    exact hkeep q hq (hname ▸ hf) v a

theorem message_cancel (f : String) (v : PyVal) (e : QEventMessage) :
    (Gadget.write f v e).cancel = if f = "_cancel" then v.toBool?.getD e.cancel else e.cancel := by
  refine @writeProp_cancel _ _ (fun e : QEventMessage => e.cancel)
    (fun b e => { e with cancel := b }) rfl (fun b a => rfl) (fun q hq hne v a => ?_) f v e
  simp only [List.mem_cons, List.not_mem_nil, or_false] at hq
  rcases hq with rfl | rfl | rfl | rfl | rfl | rfl | rfl | rfl | rfl | rfl
  case inr.inr.inr.inr.inr.inl => cases v <;> rfl
  case inr.inr.inr.inr.inr.inr.inr.inr.inr => exact absurd rfl hne
  all_goals
    first
    | refine bytesProp_keeps (p := fun e : QEventMessage => e.cancel) (fun b e => ?_) v a
      rfl
    | refine boolProp_keeps (p := fun e : QEventMessage => e.cancel) (fun b e => ?_) v a
      rfl

theorem join_cancel (f : String) (v : PyVal) (e : QEventChannelJoin) :
    (Gadget.write f v e).cancel = if f = "_cancel" then v.toBool?.getD e.cancel else e.cancel := by
  refine @writeProp_cancel _ _ (fun e : QEventChannelJoin => e.cancel)
    (fun b e => { e with cancel := b }) rfl (fun b a => rfl) (fun q hq hne v a => ?_) f v e
  simp only [List.mem_cons, List.not_mem_nil, or_false] at hq
  rcases hq with rfl | rfl | rfl | rfl
  case inr.inr.inr => exact absurd rfl hne
  all_goals
    first
    | refine bytesProp_keeps (p := fun e : QEventChannelJoin => e.cancel) (fun b e => ?_) v a
      rfl
    | refine boolProp_keeps (p := fun e : QEventChannelJoin => e.cancel) (fun b e => ?_) v a
      rfl

theorem part_cancel (f : String) (v : PyVal) (e : QEventChannelPart) :
    (Gadget.write f v e).cancel = if f = "_cancel" then v.toBool?.getD e.cancel else e.cancel := by
  refine @writeProp_cancel _ _ (fun e : QEventChannelPart => e.cancel)
    (fun b e => { e with cancel := b }) rfl (fun b a => rfl) (fun q hq hne v a => ?_) f v e
  simp only [List.mem_cons, List.not_mem_nil, or_false] at hq
  rcases hq with rfl | rfl | rfl | rfl
  case inr.inr.inr => exact absurd rfl hne
  all_goals
    first
    | refine bytesProp_keeps (p := fun e : QEventChannelPart => e.cancel) (fun b e => ?_) v a
      rfl
    | refine boolProp_keeps (p := fun e : QEventChannelPart => e.cancel) (fun b e => ?_) v a
      rfl

/-- the channel of a rename is no property -/
theorem rename_channel (f : String) (v : PyVal) (e : QEventChannelRename) :
    (Gadget.write f v e).channel = e.channel := by
  refine writeProp_keeps (p := fun e : QEventChannelRename => e.channel) (fun q hq _ v a => ?_) v e
  simp only [List.mem_cons, List.not_mem_nil, or_false] at hq
  rcases hq with rfl | rfl | rfl | rfl | rfl
  all_goals
    first
    | refine bytesProp_keeps (p := fun e : QEventChannelRename => e.channel) (fun b e => ?_) v a
      rfl
    | refine boolProp_keeps (p := fun e : QEventChannelRename => e.channel) (fun b e => ?_) v a
      rfl

theorem nickChange_cancel (f : String) (v : PyVal) (e : QEventNickChange) :
    (Gadget.write f v e).cancel = if f = "_cancel" then v.toBool?.getD e.cancel else e.cancel := by
  refine @writeProp_cancel _ _ (fun e : QEventNickChange => e.cancel)
    (fun b e => { e with cancel := b }) rfl (fun b a => rfl) (fun q hq hne v a => ?_) f v e
  simp only [List.mem_cons, List.not_mem_nil, or_false] at hq
  rcases hq with rfl | rfl | rfl | rfl | rfl
  case inr.inr.inr.inr => exact absurd rfl hne
  all_goals
    first
    | refine bytesProp_keeps (p := fun e : QEventNickChange => e.cancel) (fun b e => ?_) v a
      rfl
    | refine boolProp_keeps (p := fun e : QEventNickChange => e.cancel) (fun b e => ?_) v a
      rfl

/-! ## the operations with a hook -/

/-- an operation that a command calls, with the event it has made -/
inductive Guarded where
  | channelMessage (ch : ChanId) (event : QEventMessage)
  | privateMessage (a : AccId) (event : QEventMessage)
  | join (ch : ChanId) (event : QEventChannelJoin)
  | part (ch : ChanId) (event : QEventChannelPart)
  | rename (event : QEventChannelRename)
  | setNick (a : AccId) (event : QEventNickChange)

namespace Guarded
open World

/-- the kind of the event, CHANNEL_MSG, PRIVATE_MSG or TAG_MSG for a message -/
def kind : Guarded → QIRCEvent
  | .channelMessage _ event => if event.tag_msg then .TAG_MSG else .CHANNEL_MSG
  | .privateMessage _ event => if event.tag_msg then .TAG_MSG else .PRIVATE_MSG
  | .join _ _ => .CHANNEL_JOIN
  | .part _ _ => .CHANNEL_PART
  | .rename _ => .CHANNEL_RENAME
  | .setNick _ _ => .NICK_CHANGE

def run (env : Env) : Guarded → World → Except Fault World
  | .channelMessage ch event, w => Channel.message ch event w
  | .privateMessage a event, w => Account.message a event w
  | .join ch event, w => Channel.join env ch event w
  | .part ch event, w => .ok (Channel.part ch event w).2
  | .rename event, w => .ok (Channel.rename event w).2
  | .setNick a event, w => (Account.setNick a event w).map Prod.snd

/-- the event of a client's command is not from the system -/
def FromClient : Guarded → Prop
  | .join _ event => event.from_system = false
  | .part _ event => event.from_system = false
  | _ => True

/-- a handler cancels the event -/
def Vetoed (w : World) (g : Guarded) : Prop :=
  match g with
  | .channelMessage _ event => Vetoes w.snakepit g.kind event
  | .privateMessage _ event => Vetoes w.snakepit g.kind event
  | .join _ event => Vetoes w.snakepit g.kind event
  | .part _ event => Vetoes w.snakepit g.kind event
  | .rename event => Vetoes w.snakepit g.kind event
  | .setNick _ event => Vetoes w.snakepit g.kind event

/-- members, names, nicks and stored messages stay, and nobody but connection `c` is sent a line, now
or by a queued call -/
structure Untouched (c : ConnId) (w w' : World) : Prop where
  members : ∀ ch, (w'.chan ch).m_members = (w.chan ch).m_members
  names : ∀ ch, (w'.chan ch).m_name = (w.chan ch).m_name
  channels : w'.ctx.channels = w.ctx.channels
  nicks : ∀ a, (w'.acc a).m_nick = (w.acc a).m_nick
  irc_nicks : w'.ctx.irc_nicks = w.ctx.irc_nicks
  stored : w'.sql = w.sql
  lines : ∃ lines, w'.out = w.out ++ lines ∧ ∀ l ∈ lines, l.1 = c
  calls : ∃ calls, w'.queue = w.queue ++ calls ∧ ∀ q ∈ calls, q.1 = c

/-- the name that a rename goes on with: a handler may have written it -/
def newName (event : QEventChannelRename) (w : World) : Bytes :=
  ((w.event .CHANNEL_RENAME event).1.getD event).new_name

/-- a rename that has a channel to rename, and that gives it another name or has somebody else to
tell -/
def Renames (c : ConnId) (w : World) : Guarded → Prop
  | .rename event => event.old_name ≠ event.new_name ∧
      ∃ x, Channel.get w (w.chan event.channel).m_name = some x ∧
        (newName event w ≠ (w.chan x).m_name ∨
          ∃ d ∈ (w.chan event.channel).m_members.flatMap fun a => (w.acc a).connections, d ≠ c)
  | _ => False

section
variable {c : ConnId} {w : World}

theorem untouched_turn (c : ConnId) (e : QIRCEvent) (w : World) : Untouched c w (w.turn e) where
  members _ := rfl
  names _ := rfl
  channels := rfl
  nicks _ := rfl
  irc_nicks := rfl
  stored := rfl
  lines := ⟨[], (List.append_nil _).symm, fun _ h => by cases h⟩
  calls := ⟨[], (List.append_nil _).symm, fun _ h => by cases h⟩

theorem untouched_refl (c : ConnId) (w : World) : Untouched c w w where
  members _ := rfl
  names _ := rfl
  channels := rfl
  nicks _ := rfl
  irc_nicks := rfl
  stored := rfl
  lines := ⟨[], (List.append_nil _).symm, fun _ h => by cases h⟩
  calls := ⟨[], (List.append_nil _).symm, fun _ h => by cases h⟩

/-- six of the operations stop -/
theorem run_vetoed {env : Env} {g : Guarded} (hclient : g.FromClient) (hveto : g.Vetoed w)
    (hrename : ∀ event, g ≠ .rename event) : g.run env w = .ok (w.turn g.kind) := by
  cases g with
  | channelMessage ch event =>
    have hveto : Vetoes w.snakepit (kind (.channelMessage ch event)) event := hveto
    obtain ⟨event', hevent, hcancel⟩ := event_vetoed (fun e : QEventMessage => e.cancel) message_cancel hveto
    have hactive : w.snakepit.hasEventHandler (if event.tag_msg then .TAG_MSG else .CHANNEL_MSG) = true :=
      hveto.1
    have hevent' : w.event (if event.tag_msg then .TAG_MSG else .CHANNEL_MSG) event = _ := hevent
    show Channel.message ch event w = _
    unfold Channel.message
    dsimp only
    rw [if_pos hactive, hevent']
    exact if_pos hcancel
  | privateMessage a event =>
    have hveto : Vetoes w.snakepit (kind (.privateMessage a event)) event := hveto
    have hconsult := consult_vetoed (fun e : QEventMessage => e.cancel) message_cancel hveto
    have hconsult' : w.consult (if event.tag_msg then .TAG_MSG else .PRIVATE_MSG) (·.cancel) event = _ :=
      hconsult
    show Account.message a event w = _
    unfold Account.message
    dsimp only
    rw [hconsult']
  | join ch event =>
    have hveto : Vetoes w.snakepit .CHANNEL_JOIN event := hveto
    have hclient : event.from_system = false := hclient
    show Channel.join env ch event w = _
    unfold Channel.join
    rw [hclient, if_neg Bool.false_ne_true, consult_vetoed (fun e : QEventChannelJoin => e.cancel) join_cancel hveto]
    rfl
  | part ch event =>
    have hveto : Vetoes w.snakepit .CHANNEL_PART event := hveto
    have hclient : event.from_system = false := hclient
    show Except.ok (Channel.part ch event w).2 = _
    unfold Channel.part
    rw [hclient, if_neg Bool.false_ne_true, consult_vetoed (fun e : QEventChannelPart => e.cancel) part_cancel hveto]
    rfl
  | rename event => exact absurd rfl (hrename event)
  | setNick a event =>
    have hveto : Vetoes w.snakepit .NICK_CHANGE event := hveto
    show (Account.setNick a event w).map Prod.snd = _
    unfold Account.setNick
    rw [consult_vetoed (fun e : QEventNickChange => e.cancel) nickChange_cancel hveto]
    rfl

/-- what a rename with an active handler does: it asks, and then renames -/
theorem run_rename {env : Env} {event : QEventChannelRename} {x : ChanId}
    (hactive : w.snakepit.hasEventHandler .CHANNEL_RENAME = true)
    (hne : event.old_name ≠ event.new_name)
    (hget : Channel.get w (w.chan event.channel).m_name = some x) :
    ∃ event', run env (.rename event) w = .ok (postAll (w.chan event.channel).m_members
      (.channel_rename event')
      ((w.turn .CHANNEL_RENAME).updChan x fun k => { k with m_name := newName event w })) := by
  obtain ⟨event', hevent⟩ : ∃ event', event' = (w.event .CHANNEL_RENAME event).1.getD event := ⟨_, rfl⟩
  have hchannel : event'.channel = event.channel := by
    rw [hevent]
    cases hr : (w.event .CHANNEL_RENAME event).1 with
    | none => rfl
    | some r => exact SnakePit.event_keeps rename_channel hr
  have hmembers : (((w.turn .CHANNEL_RENAME).updChan x fun k =>
      { k with m_name := newName event w }).chan event'.channel).m_members =
      (w.chan event.channel).m_members := by
    rw [hchannel, updChan_chan]
    split
    · next hx => rw [hx]; rfl
    · rfl
  refine ⟨event', ?_⟩
  show Except.ok (Channel.rename event w).2 = _
  unfold Channel.rename
  rw [if_neg hne, hget]
  dsimp only
  rw [if_pos hactive]
  dsimp only
  rw [← hevent, ← hmembers]
  unfold newName
  rw [← hevent]
  rfl

theorem untouched_rename_iff {env : Env} {event : QEventChannelRename}
    (hactive : w.snakepit.hasEventHandler .CHANNEL_RENAME = true) :
    ∃ w', run env (.rename event) w = .ok w' ∧
      (Untouched c w w' ↔ ¬ Renames c w (.rename event)) := by
  by_cases hne : event.old_name = event.new_name
  · refine ⟨w, ?_, iff_of_true (untouched_refl c w) fun h => h.1 hne⟩
    show Except.ok (Channel.rename event w).2 = _
    unfold Channel.rename
    rw [if_pos hne]
  · cases hget : Channel.get w (w.chan event.channel).m_name with
    | none =>
      refine ⟨w, ?_, iff_of_true (untouched_refl c w) fun h => ?_⟩
      · show Except.ok (Channel.rename event w).2 = _
        unfold Channel.rename
        rw [if_neg hne, hget]
      · obtain ⟨-, x, hx, -⟩ := h
        rw [hget] at hx
        cases hx
    | some x =>
      obtain ⟨event', hrun⟩ := @run_rename w env event x hactive hne hget
      refine ⟨_, hrun, ?_⟩
      rw [postAll_eq]
      constructor
      · intro h hren
        obtain ⟨-, y, hy, hchanged⟩ := hren
        rw [hget] at hy
        obtain rfl : x = y := Option.some.inj hy
        rcases hchanged with hname | ⟨d, hd, hother⟩
        · have hsame : (if x = x then _ else _ : Channel).m_name = (w.chan x).m_name := h.names x
          rw [if_pos rfl] at hsame
          exact hname hsame
        · obtain ⟨calls, hcalls, hown⟩ := h.calls
          have hqueue : w.queue ++ ((w.chan event.channel).m_members.flatMap fun a =>
              (w.acc a).connections).map (fun d => (d, QueuedCall.channel_rename event')) =
              w.queue ++ calls := hcalls
          apply hother
          apply hown (d, .channel_rename event')
          rw [← List.append_cancel_left hqueue]
          exact List.mem_map.mpr ⟨d, hd, rfl⟩
      · intro hnot
        have hquiet : newName event w = (w.chan x).m_name ∧
            ∀ d ∈ (w.chan event.channel).m_members.flatMap fun a => (w.acc a).connections, d = c := by
          constructor
          · by_contra hname
            exact hnot ⟨hne, x, hget, Or.inl hname⟩
          · intro d hd
            by_contra hother
            exact hnot ⟨hne, x, hget, Or.inr ⟨d, hd, hother⟩⟩
        have hchan (ch : ChanId) : (((w.turn .CHANNEL_RENAME).updChan x fun k =>
            { k with m_name := newName event w }).chan ch) = w.chan ch := by
          rw [updChan_chan, hquiet.1]
          split
          · next hx => rw [hx]; rfl
          · rfl
        exact
          { members := fun ch => congrArg Channel.m_members (hchan ch)
            names := fun ch => congrArg Channel.m_name (hchan ch)
            channels := rfl
            nicks := fun _ => rfl
            irc_nicks := rfl
            stored := rfl
            lines := ⟨[], (List.append_nil _).symm, fun _ h => by cases h⟩
            calls := by
              refine ⟨_, rfl, fun q hq => ?_⟩
              obtain ⟨d, hd, rfl⟩ := List.mem_map.mp hq
              exact hquiet.2 d hd }

/-- **The veto.**  In every state, an operation of connection `c` whose event a handler cancels leaves
the server as it was and sends nobody else a line, unless it is a channel rename that gets as far as
asking. -/
theorem veto_honoured_iff {env : Env} {g : Guarded} (hclient : g.FromClient) (hveto : g.Vetoed w) :
    ∃ w', g.run env w = .ok w' ∧ (Untouched c w w' ↔ ¬ g.Renames c w) := by
  by_cases hrename : ∃ event, g = .rename event
  · obtain ⟨event, rfl⟩ := hrename
    have hveto : Vetoes w.snakepit .CHANNEL_RENAME event := hveto
    exact untouched_rename_iff hveto.1
  · have hnot : ∀ event, g ≠ .rename event := fun event he => hrename ⟨event, he⟩
    refine ⟨_, run_vetoed hclient hveto hnot, iff_of_true (untouched_turn c g.kind w) fun h => ?_⟩
    cases g with
    | rename event => exact hnot event rfl
    | _ => exact h

end

end Guarded

/-! ## a rename that is cancelled -/

namespace Worker
open World client_connection

/-- `event.cancel("")`, `return event` -/
def cancelEvent (o : PyObj) : PyObj × PyReturn :=
  ({ o with
      attr := fun f => if f = "_cancel" then .bool true else o.attr f
      dirty := fun f => f = "_cancel" || o.dirty f }, .passed)

/-- a module that lets no channel be renamed -/
def noRenames : World :=
  { World.empty with
    snakepit :=
      { m_activeEvents := Flags.set ⟨0⟩ .CHANNEL_RENAME
        m_snakes := [⟨some ⟨fun _ => [{ owner := some true, body := cancelEvent }]⟩⟩] } }

/-- ann and bob are in `#x` -/
def annAndBobInX : List Event :=
  registration 0 false "ann" ++ registration 1 false "bob" ++
    [.line 0 (ascii "JOIN #x"), .line 1 (ascii "JOIN #x")]

/-- what ann's `RENAME #x #y` asks for -/
def renameEvent : QEventChannelRename where
  old_name := ascii "x"
  new_name := ascii "y"
  message := []
  account := some 0
  channel := 0

set_option maxRecDepth 8000 in
/-- the channel is renamed, and bob is to be told -/
theorem rename_not_vetoed : ∃ w w', run (step Env.ascii) noRenames annAndBobInX = .ok w ∧
    (w.conn 0).is_ready = true ∧ Guarded.Vetoed w (.rename renameEvent) ∧
    Guarded.run Env.ascii (.rename renameEvent) w = .ok w' ∧
    parseIncoming Env.ascii 0 (ascii "RENAME #x #y") w = .ok w' ∧
    (w.chan 0).m_name = ascii "x" ∧ (w'.chan 0).m_name = ascii "y" ∧
    ¬ Guarded.Untouched 0 w w' := by
  have hend : ∃ w w', run (step Env.ascii) noRenames annAndBobInX = .ok w ∧
      (w.conn 0).is_ready = true ∧ w.snakepit = noRenames.snakepit ∧
      Guarded.run Env.ascii (.rename renameEvent) w = .ok w' ∧
      parseIncoming Env.ascii 0 (ascii "RENAME #x #y") w = .ok w' ∧
      (w.chan 0).m_name = ascii "x" ∧ (w'.chan 0).m_name = ascii "y" :=
    ⟨_, _, rfl, rfl, rfl, rfl, rfl, rfl, rfl⟩
  obtain ⟨w, w', hrun, hready, hpit, hop, hline, hx, hy⟩ := hend
  refine ⟨w, w', hrun, hready, ?_, hop, hline, hx, hy, fun h => ?_⟩
  · show Vetoes w.snakepit .CHANNEL_RENAME renameEvent
    rw [hpit]
    exact ⟨rfl, _, _, _, _, rfl, rfl, rfl, rfl, rfl, rfl⟩
  · have hname := h.names 0
    rw [hx, hy] at hname
    exact absurd hname (by decide)

set_option maxRecDepth 8000 in
/-- the same operation, at the general theorem -/
theorem veto_honoured_iff_rename : ∃ w w', run (step Env.ascii) noRenames annAndBobInX = .ok w ∧
    Guarded.run Env.ascii (.rename renameEvent) w = .ok w' ∧
    (Guarded.Untouched 0 w w' ↔ ¬ Guarded.Renames 0 w (.rename renameEvent)) := by
  have hend : ∃ w, run (step Env.ascii) noRenames annAndBobInX = .ok w ∧
      w.snakepit = noRenames.snakepit := ⟨_, rfl, rfl⟩
  obtain ⟨w, hrun, hpit⟩ := hend
  have hveto : Guarded.Vetoed w (.rename renameEvent) := by
    show Vetoes w.snakepit .CHANNEL_RENAME renameEvent
    rw [hpit]
    exact ⟨rfl, _, _, _, _, rfl, rfl, rfl, rfl, rfl, rfl⟩
  have hclient : Guarded.FromClient (.rename renameEvent) := trivial
  obtain ⟨w', hop, hiff⟩ := @Guarded.veto_honoured_iff 0 w Env.ascii _ hclient hveto
  exact ⟨w, w', hrun, hop, hiff⟩

end Worker

end Chatripper
