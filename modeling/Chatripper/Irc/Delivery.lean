import Mathlib
import Chatripper.Irc.LineSteps

/-!
# What a message delivers

With no handler active, a PRIVMSG or TAGMSG line is one `QEventMessage` that is shown to a list of
connections.  Each of them is sent one datum, and nothing else that a datum depends on changes.

* `relay_delivers`   a known target gets the event: every recipient is sent its datum;
* `line_delivers`    the same for a whole line.
-/

namespace Chatripper
open ByteStr Utf8 Outcome

namespace client_connection
open World

/-- the heaps are the same -/
def SameHeap (w w' : World) : Prop := w'.conn = w.conn ∧ w'.acc = w.acc ∧ w'.chan = w.chan

/-- the prefix that recipient `r` is shown for a message of account `a`, or nothing -/
def shownPrefix (r : ConnId) (a : AccId) (conn_id : Uuid) (w : World) : Option Bytes :=
  let k := w.conn r
  if k.m_account = some a then
    if k.capabilities.has .ECHO_MESSAGE ∨ k.capabilities.has .ZNC_SELF_MESSAGE ∧ k.m_uid ≠ conn_id
    then some (w.connPrefix r) else none
  else some (w.accPrefix a [])

/-- the target that a message is shown with -/
def shownTarget (msg : QEventMessage) (w : World) : Bytes :=
  match msg.channel, msg.dest with
  | some ch, _ => ascii "#" ++ (w.chan ch).m_name
  | none, some d => w.accNick d
  | none, none => []

/-- what recipient `r` is sent -/
def datum (r : ConnId) (msg : QEventMessage) (w : World) : Option Bytes :=
  msg.account.bind fun a => (shownPrefix r a msg.conn_id w).map fun p =>
    messageData r msg w p (shownTarget msg w)

/-- the connections that a message is offered to -/
def recipients (msg : QEventMessage) (w : World) : List ConnId :=
  match msg.channel with
  | some ch => (w.chan ch).m_members.flatMap fun member => (w.acc member).connections
  | none => (msg.dest.toList ++ msg.account.toList).flatMap fun a => (w.acc a).connections

def deliveriesTo (msg : QEventMessage) (w : World) (rs : List ConnId) : List (ConnId × Bytes) :=
  rs.filterMap fun r => (datum r msg w).map fun d => (r, d)

/-- the connections are sent their data, and the heaps stay -/
structure Delivers (msg : QEventMessage) (w : World) (rs : List ConnId) (w' : World) : Prop where
  heap : SameHeap w w'
  messages : messagesOf w'.trace = messagesOf w.trace ++ deliveriesTo msg w rs
  out : w'.out = w.out ++ deliveriesTo msg w rs

section
variable {msg : QEventMessage} {w w' : World}

theorem datum_congr (h : SameHeap w w') (r : ConnId) : datum r msg w' = datum r msg w := by
  obtain ⟨hconn, hacc, hchan⟩ := h
  have hnick (a : AccId) : w'.accNick a = w.accNick a := by
    unfold accNick
    rw [hacc]
  have hcnick : w'.nick r = w.nick r := by
    unfold nick
    simp only [hconn, hnick]
  have hcpre : w'.connPrefix r = w.connPrefix r := by
    unfold connPrefix
    rw [hconn, hcnick]
  have hapre (a : AccId) : w'.accPrefix a [] = w.accPrefix a [] := by
    unfold accPrefix
    rw [hacc]
  have htarget : shownTarget msg w' = shownTarget msg w := by
    unfold shownTarget
    simp only [hchan, hnick]
  have hdata (p t : Bytes) : messageData r msg w' p t = messageData r msg w p t := by
    unfold messageData
    rw [hconn, hacc]
  unfold datum shownPrefix
  simp only [hconn, hcpre, hapre, htarget, hdata]

theorem deliveriesTo_congr (h : SameHeap w w') (rs : List ConnId) :
    deliveriesTo msg w' rs = deliveriesTo msg w rs := by
  unfold deliveriesTo
  simp only [datum_congr h]

theorem deliveriesTo_append (rs rs' : List ConnId) :
    deliveriesTo msg w (rs ++ rs') = deliveriesTo msg w rs ++ deliveriesTo msg w rs' :=
  List.filterMap_append

theorem Delivers.nil : Delivers msg w [] w :=
  ⟨⟨rfl, rfl, rfl⟩, (List.append_nil _).symm, (List.append_nil _).symm⟩

/-- deliveries one after the other -/
theorem Delivers.trans {w1 : World} {rs rs' : List ConnId} (h : Delivers msg w rs w1)
    (h' : Delivers msg w1 rs' w') : Delivers msg w (rs ++ rs') w' := by
  obtain ⟨⟨hconn, hacc, hchan⟩, hmsgs, hout⟩ := h
  obtain ⟨⟨hconn', hacc', hchan'⟩, hmsgs', hout'⟩ := h'
  refine ⟨⟨hconn'.trans hconn, hacc'.trans hacc, hchan'.trans hchan⟩, ?_, ?_⟩
  · rw [hmsgs', hmsgs, deliveriesTo_congr ⟨hconn, hacc, hchan⟩, deliveriesTo_append,
      List.append_assoc]
  · rw [hout', hout, deliveriesTo_congr ⟨hconn, hacc, hchan⟩, deliveriesTo_append,
      List.append_assoc]

/-- a loop delivers to what its steps deliver to -/
theorem Delivers.foldlM {α : Type} {f : World → α → Except Fault World} {g : α → List ConnId}
    (h : ∀ w1 x, SameHeap w w1 → ∃ w', f w1 x = .ok w' ∧ Delivers msg w1 (g x) w')
    (xs : List α) : ∀ w1, SameHeap w w1 →
      ∃ w', xs.foldlM f w1 = .ok w' ∧ Delivers msg w1 (xs.flatMap g) w' := by
  induction xs with
  | nil => exact fun w1 _ => ⟨w1, rfl, .nil⟩
  | cons x xs ih =>
    intro w1 hw1
    obtain ⟨w2, hx, hdx⟩ := h w1 x hw1
    have hw2 : SameHeap w w2 := ⟨hdx.heap.1.trans hw1.1, hdx.heap.2.1.trans hw1.2.1,
      hdx.heap.2.2.trans hw1.2.2⟩
    obtain ⟨w', hxs, hdxs⟩ := ih w2 hw2
    refine ⟨w', ?_, hdx.trans hdxs⟩
    rw [List.foldlM_cons, hx]
    exact hxs

section
variable {a : AccId} (hacc : msg.account = some a) (hto : msg.channel ≠ none ∨ msg.dest ≠ none)
include hacc hto

/-- one recipient -/
theorem message_delivers (r : ConnId) (w : World) :
    ∃ w', message r msg w = .ok w' ∧ Delivers msg w [r] w' := by
  have htarget : messageTarget msg w = .ok (shownTarget msg w) := by
    unfold messageTarget shownTarget
    cases hch : msg.channel with
    | some ch => rfl
    | none =>
      cases hd : msg.dest with
      | none => exact absurd hto (by simp [hch, hd])
      | some d => rfl
  have hpre : messagePrefix r msg w = .ok (shownPrefix r a msg.conn_id w) := by
    unfold messagePrefix shownPrefix
    rw [hacc]
    dsimp only
    by_cases hown : (w.conn r).m_account = some a
    · rw [if_pos hown.symm, if_pos hown]
      by_cases hecho : (w.conn r).capabilities.has .ECHO_MESSAGE = true
      · rw [if_pos hecho, if_pos (Or.inl hecho)]
      · rw [if_neg hecho]
        by_cases hself : (w.conn r).capabilities.has .ZNC_SELF_MESSAGE = true ∧
            (w.conn r).m_uid ≠ msg.conn_id
        · rw [if_pos hself, if_pos (Or.inr hself)]
        · rw [if_neg hself, if_neg (not_or.mpr ⟨hecho, hself⟩)]
    · rw [if_neg (Ne.symm hown), if_neg hown]
      rfl
  have hdatum : datum r msg w = (shownPrefix r a msg.conn_id w).map fun p =>
      messageData r msg w p (shownTarget msg w) := by
    unfold datum
    rw [hacc]
    rfl
  have hone : deliveriesTo msg w [r] = ((datum r msg w).map fun d => (r, d)).toList := by
    unfold deliveriesTo
    cases hd : datum r msg w <;> simp [hd]
  unfold message
  rw [htarget, hpre]
  cases hp : shownPrefix r a msg.conn_id w with
  | none =>
    rw [hp] at hdatum
    rw [hdatum] at hone
    refine ⟨w, rfl, ⟨rfl, rfl, rfl⟩, ?_, ?_⟩
    · rw [hone]
      exact (List.append_nil _).symm
    · rw [hone]
      exact (List.append_nil _).symm
  | some p =>
    rw [hp] at hdatum
    rw [hdatum] at hone
    refine ⟨_, rfl, ⟨rfl, rfl, rfl⟩, ?_, ?_⟩
    · rw [hone]
      show List.filterMap _ (w.trace ++ [_]) = _
      rw [List.filterMap_append]
      rfl
    · rw [hone]
      rfl

theorem messageAll_delivers (member : AccId) (w : World) :
    ∃ w', Account.messageAll member msg w = .ok w' ∧
      Delivers msg w (w.acc member).connections w' := by
  have h := Delivers.foldlM (w := w) (g := fun r => [r])
    (fun w1 r _ => message_delivers hacc hto r w1) (w.acc member).connections w ⟨rfl, rfl, rfl⟩
  rw [List.flatMap_singleton'] at h
  exact h

theorem channel_message_delivers {ch : ChanId} (hch : msg.channel = some ch) (hpy : w.NoHandlers) :
    ∃ w', Channel.message ch msg w = .ok w' ∧ Delivers msg w (recipients msg w) w' := by
  have hrec : recipients msg w =
      (w.chan ch).m_members.flatMap fun member => (w.acc member).connections := by
    unfold recipients
    rw [hch]
  have hsame : SameHeap w (w.exec (.insert_message msg)) := ⟨rfl, rfl, rfl⟩
  have hmember (w1 : World) (member : AccId) (hw1 : SameHeap w w1) :
      ∃ w', Account.messageAll member msg w1 = .ok w' ∧
        Delivers msg w1 (w.acc member).connections w' := by
    rw [← hw1.2.1]
    exact messageAll_delivers hacc hto member w1
  obtain ⟨w', hw', hd⟩ := Delivers.foldlM hmember (w.chan ch).m_members _ hsame
  refine ⟨w', ?_, ?_⟩
  · unfold Channel.message
    dsimp only
    rw [hpy]
    exact hw'
  · rw [hrec]
    exact ⟨hd.heap, hd.messages, hd.out⟩

theorem account_message_delivers {d : AccId} (hch : msg.channel = none) (hdest : msg.dest = some d)
    (hpy : w.NoHandlers) :
    ∃ w', Account.message a msg w = .ok w' ∧ Delivers msg w (recipients msg w) w' := by
  have hrec : recipients msg w = (w.acc d).connections ++ (w.acc a).connections := by
    unfold recipients
    rw [hch, hdest, hacc]
    simp
  obtain ⟨w1, hw1, hd1⟩ := messageAll_delivers hacc hto d w
  obtain ⟨w2, hw2, hd2⟩ := messageAll_delivers hacc hto a w1
  refine ⟨w2, ?_, ?_⟩
  · unfold Account.message
    dsimp only
    rw [consult_of_noHandlers hpy]
    dsimp only
    rw [hdest]
    show (Account.messageAll d msg w >>= fun w => Account.messageAll a msg w) = _
    rw [hw1]
    exact hw2
  · rw [hrec]
    rw [hd1.heap.2.1] at hd2
    exact hd1.trans hd2

end

/-! ## the event of a line -/

/-- the event with the channel or account that a target names -/
def addressed (target : Bytes) (msg : QEventMessage) (w : World) : Option QEventMessage :=
  if startsWithHash target then
    (Channel.get w (target.drop 1)).map fun chan_ptr => { msg with channel := some chan_ptr }
  else (Ctx.irc_nick_get w target).map fun dest => { msg with dest := some dest }

/-- the event that a PRIVMSG or TAGMSG sends -/
def commandEvent (c : ConnId) (tags : QMap QString QVariant) (cmd : Command) (args : List Bytes)
    (w : World) : Option QEventMessage :=
  match cmd, args with
  | .PRIVMSG, target :: text :: _ => addressed target (messageEvent c tags args text false w) w
  | .TAGMSG, target :: _ => addressed target (messageEvent c tags args [] true w) w
  | _, _ => none

/-- the event that a line sends -/
def lineEvent (c : ConnId) (line : Bytes) (w : World) : Option QEventMessage :=
  (lineCommand c line w).bind fun p => commandEvent c (lineTags c line w) p.1 p.2 w

/-- what a line delivers -/
def deliveries (c : ConnId) (line : Bytes) (w : World) : List (ConnId × Bytes) :=
  match lineEvent c line w with
  | some msg => deliveriesTo msg w (recipients msg w)
  | none => []

theorem relay_delivers {env : Env} {c : ConnId} {target : Bytes} {a : AccId}
    (hc : (w.conn c).m_account = some a) (hacc : msg.account = some a) (hch : msg.channel = none)
    (hpy : w.NoHandlers) :
    ∃ w', relay env c target msg w = .ok w' ∧ messagesOf w'.trace = messagesOf w.trace ++
      match addressed target msg w with
      | some msg => deliveriesTo msg w (recipients msg w)
      | none => [] := by
  unfold relay addressed
  dsimp only
  by_cases hhash : startsWithHash target = true
  · rw [if_pos hhash, if_pos hhash]
    cases hget : Channel.get w (target.drop 1) with
    | none => exact ⟨_, rfl, (List.append_nil _).symm⟩
    | some ch =>
      have hacc' : ({ msg with channel := some ch } : QEventMessage).account = some a := hacc
      obtain ⟨w', hw', hd⟩ := channel_message_delivers hacc' (Or.inl nofun) rfl hpy
      exact ⟨w', hw', hd.messages⟩
  · rw [if_neg hhash, if_neg hhash]
    cases hget : Ctx.irc_nick_get w target with
    | none => exact ⟨_, rfl, (List.append_nil _).symm⟩
    | some d =>
      have hacc' : ({ msg with dest := some d } : QEventMessage).account = some a := hacc
      obtain ⟨w', hw', hd⟩ := account_message_delivers hacc' (Or.inr nofun) hch rfl hpy
      refine ⟨w', ?_, hd.messages⟩
      show (deref .nullAccount (w.conn c).m_account >>= fun m_account =>
        Account.message m_account { msg with dest := some d } w) = _
      rw [hc]
      exact hw'

theorem handlerWorld_of_noHandlers (hpy : w.NoHandlers) (c : ConnId) (line : Bytes) :
    handlerWorld c line w = w := by
  unfold handlerWorld rawHook
  rw [hpy]
  show verifyTags c line w = w
  unfold verifyTags
  rw [hpy, Bool.and_false]
  rfl

/-- **A message line.**  With no handler active, a PRIVMSG or TAGMSG of a connection with an account
runs to its end and delivers its event. -/
theorem line_delivers {env : Env} {c : ConnId} {line : Bytes} {cmd : Command} {args : List Bytes}
    {a : AccId} (hpy : w.NoHandlers) (hc : (w.conn c).m_account = some a)
    (hcmd : lineCommand c line w = some (cmd, args)) (hmsg : cmd = .PRIVMSG ∨ cmd = .TAGMSG) :
    ∃ w', parseIncoming env c line w = .ok w' ∧
      messagesOf w'.trace = messagesOf w.trace ++ deliveries c line w := by
  unfold deliveries lineEvent
  rw [parseIncoming_eq, hcmd, handlerWorld_of_noHandlers hpy]
  generalize lineTags c line w = tags
  rcases hmsg with rfl | rfl
  · show ∃ w', handlePRIVMSG env c tags args w = .ok w' ∧ _
    match args with
    | [] => exact ⟨_, rfl, (List.append_nil _).symm⟩
    | [_] => exact ⟨_, rfl, (List.append_nil _).symm⟩
    | target :: text :: rest =>
      have hlen : ¬ (target :: text :: rest).length < 2 := by simp
      unfold handlePRIVMSG
      rw [if_neg hlen]
      exact relay_delivers hc hc rfl hpy
  · show ∃ w', handleTAGMSG env c tags args w = .ok w' ∧ _
    match args with
    | [] => exact ⟨_, rfl, (List.append_nil _).symm⟩
    | target :: rest =>
      unfold handleTAGMSG
      rw [if_neg (List.cons_ne_nil _ _)]
      exact relay_delivers hc hc rfl hpy

end

end client_connection

end Chatripper
