import Mathlib
import Chatripper.Irc.Heard
import Chatripper.Fidelity
import Chatripper.AccountTag

/-!
# Output within the negotiated capabilities

A message is written for each recipient with the capabilities of that recipient: its tags, whether an
own message comes back, and the form of a channel rename.  The command of a TAGMSG is the exception.
It is sent to every recipient.

* `messageConfined_iff`   one datum of `client_connection::message`;
* `renameConfined`        the lines of `channel_rename`;
* `confined_iff`          a run: everything is within the capabilities when every TAGMSG is wanted.
-/

namespace Chatripper
open ByteStr Utf8 Outcome

/-- after `lead` the line goes on with this command -/
def HasCommand (word lead line : Bytes) : Prop :=
  ∃ rest, line = lead ++ ascii " " ++ word ++ ascii " " ++ rest

/-- commands of different first letters -/
theorem HasCommand.head {word lead : Bytes} {b : UInt8} {rest : Bytes} (hword : word ≠ [])
    (h : HasCommand word lead (lead ++ ascii " " ++ (b :: rest))) : word.head? = some b := by
  obtain ⟨rest', h⟩ := h
  rw [List.append_assoc _ word, List.append_assoc _ (word ++ _), List.append_cancel_left_eq] at h
  cases word with
  | nil => exact absurd rfl hword
  | cons b' word =>
    cases h
    rfl

namespace client_connection
open World

/-! ## messages -/

/-- the tags that a recipient is shown -/
def shownTags (r : ConnId) (msg : QEventMessage) (w : World) : Bytes :=
  buildMessageTags msg (msg.account.map w.acc) (w.conn r).capabilities

/-- a datum that connection `r` is sent for a message of connection `c` is within its capabilities -/
structure MessageConfined (c r : ConnId) (msg : QEventMessage) (w : World) (data : Bytes) : Prop where
  tags : data.head? = some 64 → (w.conn r).capabilities.has .MESSAGE_TAGS = true
  tagmsg : ∀ a p, msg.account = some a → shownPrefix r a msg.conn_id w = some p →
    HasCommand (ascii "TAGMSG") (shownTags r msg w ++ ascii ":" ++ p) data →
      (w.conn r).capabilities.has .MESSAGE_TAGS = true
  own : msg.account = (w.conn r).m_account →
    (w.conn r).capabilities.has .ECHO_MESSAGE = true ∨
      (w.conn r).capabilities.has .ZNC_SELF_MESSAGE = true ∧ r ≠ c

/-- the recipient is sent a copy: it is of another account, or has asked for its own messages -/
def SentCopy (msg : QEventMessage) (w : World) (r : ConnId) : Prop :=
  (w.conn r).m_account = msg.account →
    (w.conn r).capabilities.has .ECHO_MESSAGE = true ∨
      (w.conn r).capabilities.has .ZNC_SELF_MESSAGE = true ∧ (w.conn r).m_uid ≠ msg.conn_id

section
variable {env : Env} {c r : ConnId} {w : World} {msg : QEventMessage} {a : AccId} {p target : Bytes}

theorem shownTags_of_unset (h : (w.conn r).capabilities.has .MESSAGE_TAGS = false) :
    shownTags r msg w = [] := by
  unfold shownTags buildMessageTags
  rw [h]
  rfl

/-- after tags and prefix a datum has its command -/
theorem messageData_command : ∃ rest, messageData r msg w p target =
    shownTags r msg w ++ ascii ":" ++ p ++ ascii " " ++
      ((if msg.tag_msg then ascii "TAGMSG" else ascii "PRIVMSG") ++ ascii " " ++ rest) := by
  unfold messageData shownTags
  cases msg.tag_msg with
  | true => exact ⟨target ++ crlf, by simp [join]⟩
  | false => exact ⟨target ++ ascii " " ++ (ascii ":" ++ msg.text) ++ crlf, by simp [join]⟩

theorem shownPrefix_isSome (hacc : msg.account = some a) :
    (∃ p, shownPrefix r a msg.conn_id w = some p) ↔ SentCopy msg w r := by
  unfold shownPrefix SentCopy
  rw [hacc]
  dsimp only
  by_cases hown : (w.conn r).m_account = some a
  · rw [if_pos hown]
    split
    · next h => exact ⟨fun _ _ => h, fun _ => ⟨_, rfl⟩⟩
    · next h => exact ⟨fun ⟨_, hp⟩ => (by cases hp), fun hs => absurd (hs hown) h⟩
  · rw [if_neg hown]
    exact ⟨fun _ h => absurd h hown, fun _ => ⟨_, rfl⟩⟩

/-- **One datum.**  It is within the capabilities unless it is a TAGMSG to someone without
message-tags. -/
theorem messageConfined_iff (hacc : msg.account = some a) (hconn : msg.conn_id = (w.conn c).m_uid)
    (hp : shownPrefix r a msg.conn_id w = some p) :
    MessageConfined c r msg w (messageData r msg w p target) ↔
      (msg.tag_msg = true → (w.conn r).capabilities.has .MESSAGE_TAGS = true) := by
  obtain ⟨rest, hdata⟩ := @messageData_command r w msg p target
  constructor
  · intro h htag
    apply h.tagmsg a p hacc hp
    rw [hdata, htag, if_pos rfl]
    refine ⟨rest, ?_⟩
    simp only [List.append_assoc]
  · intro h
    refine ⟨?_, ?_, ?_⟩
    · intro hhead
      by_contra hno
      rw [Bool.not_eq_true] at hno
      rw [hdata, shownTags_of_unset hno] at hhead
      cases hhead
    · intro a' p' hacc' hp' hcmd
      apply h
      rw [hacc] at hacc'
      cases hacc'
      rw [hp] at hp'
      cases hp'
      by_contra hno
      rw [Bool.not_eq_true] at hno
      rw [hdata, hno] at hcmd
      exact absurd (hcmd.head (by decide)) (by decide)
    · intro hown
      have hcopy := (shownPrefix_isSome hacc).mp ⟨p, hp⟩
      rcases hcopy hown.symm with hecho | ⟨hznc, huid⟩
      · exact Or.inl hecho
      · refine Or.inr ⟨hznc, ?_⟩
        intro hrc
        rw [hrc] at huid
        exact huid hconn.symm

/-- every recipient that is sent a copy of a TAGMSG has message-tags -/
def Wanted (msg : QEventMessage) (w : World) : Prop :=
  msg.tag_msg = true → ∀ r ∈ recipients msg w, SentCopy msg w r →
    (w.conn r).capabilities.has .MESSAGE_TAGS = true

theorem deliveries_confined_iff (hacc : msg.account = some a) (hconn : msg.conn_id = (w.conn c).m_uid) :
    (∀ d ∈ deliveriesTo msg w (recipients msg w), MessageConfined c d.1 msg w d.2) ↔ Wanted msg w := by
  have hdatum (r : ConnId) (p : Bytes) (hp : shownPrefix r a msg.conn_id w = some p) :
      datum r msg w = some (messageData r msg w p (shownTarget msg w)) := by
    unfold datum
    rw [hacc, Option.bind_some, hp]
    rfl
  constructor
  · intro h htag r hr hcopy
    obtain ⟨p, hp⟩ := (shownPrefix_isSome hacc).mpr hcopy
    have hmem : (r, messageData r msg w p (shownTarget msg w)) ∈
        deliveriesTo msg w (recipients msg w) := by
      refine List.mem_filterMap.mpr ⟨r, hr, ?_⟩
      rw [hdatum r p hp]
      rfl
    exact (messageConfined_iff hacc hconn hp).mp (h _ hmem) htag
  · intro h d hd
    obtain ⟨r, hr, hd⟩ := List.mem_filterMap.mp hd
    obtain ⟨data, hdata, rfl⟩ := Option.map_eq_some_iff.mp hd
    have hpre : ∃ p, shownPrefix r a msg.conn_id w = some p := by
      unfold datum at hdata
      rw [hacc, Option.bind_some] at hdata
      obtain ⟨p, hp, -⟩ := Option.map_eq_some_iff.mp hdata
      exact ⟨p, hp⟩
    obtain ⟨p, hp⟩ := hpre
    rw [hdatum r p hp] at hdata
    cases hdata
    apply (messageConfined_iff hacc hconn hp).mpr
    intro htag
    exact h htag r hr ((shownPrefix_isSome hacc).mp ⟨p, hp⟩)

theorem lineEvent_conn {line : Bytes} (h : lineEvent c line w = some msg) :
    msg.conn_id = (w.conn c).m_uid := by
  have haddr {target : Bytes} {m : QEventMessage} (h : addressed target m w = some msg) :
      msg.conn_id = m.conn_id := by
    unfold addressed at h
    split at h
    · obtain ⟨ch, -, rfl⟩ := Option.map_eq_some_iff.mp h
      rfl
    · obtain ⟨d, -, rfl⟩ := Option.map_eq_some_iff.mp h
      rfl
  unfold lineEvent at h
  obtain ⟨⟨cmd, args⟩, -, h⟩ := Option.bind_eq_some_iff.mp h
  unfold commandEvent at h
  split at h
  · exact haddr h
  · exact haddr h
  · cases h

/-! ## renames -/

/-- a line of `channel_rename` is within the capabilities -/
def RenameConfined (c : ConnId) (w : World) (line : Bytes) : Prop :=
  HasCommand (ascii "RENAME") (ascii ":" ++ w.connPrefix c) line →
    (w.conn c).capabilities.has .CHANNEL_RENAME = true

theorem renameConfined (ev : QEventChannelRename) : ∃ lines : List Bytes,
    (channel_rename c ev w).out = w.out ++ lines.map (fun line => (c, line)) ∧
      ∀ line ∈ lines, RenameConfined c w line := by
  have hother (b : UInt8) (rest : Bytes) (hb : b ≠ 82) :
      RenameConfined c w (ascii ":" ++ w.connPrefix c ++ ascii " " ++ (b :: rest)) := by
    intro hcmd
    have hhead := hcmd.head (by decide)
    exact absurd (Option.some.inj hhead).symm hb
  unfold channel_rename
  by_cases hsame : ev.old_name = ev.new_name
  · rw [if_pos hsame]
    exact ⟨[], (List.append_nil _).symm, fun _ h => (by cases h)⟩
  rw [if_neg hsame]
  dsimp only
  by_cases hcap : (w.conn c).capabilities.has .CHANNEL_RENAME = true
  · rw [if_pos hcap]
    exact ⟨[_], rfl, fun _ _ _ => hcap⟩
  · rw [if_neg hcap]
    refine ⟨[ascii ":" ++ w.connPrefix c ++ ascii " PART #" ++ (ascii "#" ++ ev.old_name) ++
        ascii ":Changing the channel name" ++ crlf,
      ascii ":" ++ w.connPrefix c ++ ascii " JOIN #" ++ (ascii "#" ++ ev.new_name) ++ crlf], ?_, ?_⟩
    · show (w.out ++ [_]) ++ [_] = _
      rw [List.append_assoc]
      rfl
    · intro line hline
      have hpart : ascii " PART #" = ascii " " ++ 80 :: ascii "ART #" := rfl
      have hjoin : ascii " JOIN #" = ascii " " ++ 74 :: ascii "OIN #" := rfl
      rw [hpart, hjoin] at hline
      simp only [List.mem_cons, List.not_mem_nil, or_false] at hline
      rcases hline with rfl | rfl
      · have h := hother 80 (ascii "ART #" ++ (ascii "#" ++ ev.old_name) ++
          ascii ":Changing the channel name" ++ crlf) (by decide)
        simpa only [List.append_assoc, List.cons_append] using h
      · have h := hother 74 (ascii "OIN #" ++ (ascii "#" ++ ev.new_name) ++ crlf) (by decide)
        simpa only [List.append_assoc, List.cons_append] using h

end

end client_connection

/-! ## runs -/

namespace Worker
open World client_connection

/-- the call that the connection runs next -/
def nextCall (c : ConnId) (w : World) : Option QueuedCall :=
  (w.queue.find? fun p => p.1 == c).map Prod.snd

/-- what an event makes `message` and `channel_rename` send is within the capabilities -/
def Confined (env : Env) (w : World) (ev : Event) : Prop :=
  ∀ w', step env w ev = .ok w' →
    (∃ sent, w'.heard = w.heard ++ sent ∧ ∀ d ∈ sent, ∃ c line msg, ev = .line c line ∧
      lineEvent c line w = some msg ∧ MessageConfined c d.1 msg w d.2) ∧
    ∀ c rename, ev = .deliver c → nextCall c w = some (.channel_rename rename) →
      ∃ lines : List Bytes, w'.out = w.out ++ lines.map (fun line => (c, line)) ∧
        ∀ line ∈ lines, RenameConfined c w line

/-- a TAGMSG line is sent to connections with message-tags only -/
def TagmsgWanted (w : World) (ev : Event) : Prop :=
  ∀ c line msg, ev = .line c line → (w.conn c).live = true → lineEvent c line w = some msg →
    Wanted msg w

section
variable {env : Env} {w : World} {ev : Event}

/-- a line with an event runs to its end -/
theorem lineEvent_runs {c : ConnId} {line : Bytes} {msg : QEventMessage} (hpy : w.NoHandlers)
    (hacc : ∀ c, (w.conn c).is_ready = true → (w.conn c).m_account ≠ none)
    (h : lineEvent c line w = some msg) : ∃ a w', msg.account = some a ∧
      parseIncoming env c line w = .ok w' ∧ w'.heard = w.heard ++ deliveries c line w := by
  have hsender := (lineEvent_eq h).2
  unfold lineEvent at h
  obtain ⟨⟨cmd, args⟩, hcmd, h⟩ := Option.bind_eq_some_iff.mp h
  have hmsg : cmd = .PRIVMSG ∨ cmd = .TAGMSG := by
    cases cmd with
    | PRIVMSG => exact Or.inl rfl
    | TAGMSG => exact Or.inr rfl
    | _ => cases h
  have hready : (w.conn c).is_ready = true := by
    rcases lineCommand_gate hcmd with hearly | hready
    · rcases hmsg with rfl | rfl <;> cases hearly
    · exact hready
  obtain ⟨a, ha⟩ := Option.ne_none_iff_exists'.mp (hacc c hready)
  obtain ⟨w', hw', hsent⟩ := @line_delivers w env c line cmd args a hpy ha hcmd hmsg
  exact ⟨a, w', hsender.trans ha, hw', hsent⟩

theorem step_confined_iff (hpy : w.NoHandlers)
    (hacc : ∀ c, (w.conn c).is_ready = true → (w.conn c).m_account ≠ none) :
    Confined env w ev ↔ TagmsgWanted w ev := by
  constructor
  · intro h c line msg hev hlive hevent
    obtain ⟨a, w', ha, hline, hheard⟩ := @lineEvent_runs env _ _ _ _ hpy hacc hevent
    have hstep : step env w ev = .ok w' := by
      rw [hev]
      show (if (w.conn c).live then parseIncoming env c line w else .ok w) = _
      rw [if_pos hlive]
      exact hline
    obtain ⟨⟨sent, hsent, hall⟩, -⟩ := h w' hstep
    have hsame : sent = deliveries c line w := by
      rw [hheard] at hsent
      exact (List.append_cancel_left hsent).symm
    apply (deliveries_confined_iff ha (lineEvent_conn hevent)).mp
    intro d hd
    have hdel : deliveries c line w = deliveriesTo msg w (recipients msg w) := by
      unfold deliveries
      rw [hevent]
    rw [← hdel, ← hsame] at hd
    obtain ⟨c', line', msg', hev', hevent', hconf⟩ := hall d hd
    rw [hev] at hev'
    cases hev'
    rw [hevent] at hevent'
    cases hevent'
    exact hconf
  · intro h w' hstep
    constructor
    · refine ⟨eventDeliveries w ev, step_heard hpy hacc hstep, ?_⟩
      intro d hd
      cases ev with
      | line c line =>
        unfold eventDeliveries at hd
        dsimp only at hd
        by_cases hlive : (w.conn c).live = true
        · rw [if_pos hlive] at hd
          unfold deliveries at hd
          cases hevent : lineEvent c line w with
          | none =>
            rw [hevent] at hd
            cases hd
          | some msg =>
            rw [hevent] at hd
            obtain ⟨a, -, ha, -⟩ := @lineEvent_runs env _ _ _ _ hpy hacc hevent
            exact ⟨c, line, msg, rfl, hevent, (deliveries_confined_iff ha
              (lineEvent_conn hevent)).mpr (h c line msg rfl hlive hevent) d hd⟩
        · rw [if_neg hlive] at hd
          cases hd
      | _ => cases hd
    · intro c rename hev hnext
      obtain ⟨⟨d, q⟩, hfind, hq⟩ := Option.map_eq_some_iff.mp hnext
      have hq : q = .channel_rename rename := hq
      have hstep : deliver c w = .ok w' := by
        rw [hev] at hstep
        exact hstep
      unfold deliver at hstep
      rw [hfind, hq] at hstep
      dsimp only at hstep
      split at hstep
      · have hout := @renameConfined c
          { w with queue := w.queue.eraseP fun p => p.1 == c } rename
        cases hstep
        exact hout
      · cases hstep
        exact ⟨[], (List.append_nil _).symm, fun _ hl => (by cases hl)⟩

/-- **Confinement.**  In every run of a server without Python handlers, everything that `message` and
`channel_rename` send is within the capabilities of the connection it is sent to, if and only if
every connection that is sent a TAGMSG has message-tags. -/
theorem confined_iff (hidle : Idle w) (hpy : w.NoHandlers) (evs : List Event) :
    AllSteps (step env) (Confined env) w evs ↔ AllSteps (step env) TagmsgWanted w evs := by
  refine allSteps_congr (I := fun w => w.NoHandlers ∧ ∀ c, w.reg.ReadyHasAccount c) ?_ ?_ ?_
  · intro s ev s' hs _ hstep
    refine ⟨step_noHandlers hs.1 hstep, ?_⟩
    intro c
    obtain ⟨ls, hchain, -⟩ := step_chain hstep
    exact hchain.inv (I := fun r => r.ReadyHasAccount c) (P := fun _ => True)
      (fun _ _ _ _ hr hl => hl.readyHasAccount hr) (fun _ _ => trivial) (hs.2 c)
  · intro s ev hs
    exact step_confined_iff hs.1 hs.2
  · refine ⟨hpy, ?_⟩
    intro c hready
    have hno : (w.conn c).is_ready = true := hready
    rw [(hidle.unready c).1] at hno
    cases hno

end

/-- ann has message-tags, bob has not -/
def annTagged : List Event := taggedRegistration 0 "ann" ++ registration 1 false "bob"

theorem confined_iff_ann : AllSteps (step Env.ascii) (Confined Env.ascii) World.empty annTagged ↔
    AllSteps (step Env.ascii) TagmsgWanted World.empty annTagged :=
  confined_iff empty_idle empty_quiet annTagged

set_option maxRecDepth 8000 in
/-- **TAGMSG.**  ann sends bob a TAGMSG, and bob is sent it. -/
theorem tagmsg_unasked : ¬ AllSteps (step Env.ascii) (Confined Env.ascii) World.empty
    (annTagged ++ [.line 0 (ascii "TAGMSG bob")]) := by
  intro h
  have hend : ∃ w msg, run (step Env.ascii) World.empty annTagged = .ok w ∧ w.NoHandlers ∧
      (w.conn 0).live = true ∧ lineEvent 0 (ascii "TAGMSG bob") w = some msg ∧ msg.tag_msg = true ∧
      1 ∈ recipients msg w ∧ (w.conn 1).m_account ≠ msg.account ∧
      (w.conn 1).capabilities.has .MESSAGE_TAGS = false := by
    have hsplit : annTagged = (taggedRegistration 0 "ann").take 4 ++
        .line 0 (ascii "CAP END") :: registration 1 false "bob" := rfl
    rw [hsplit, @run_ended Env.ascii _ 0 World.empty ((taggedRegistration 0 "ann").take 4) rfl
      ⟨fun e => by cases e <;> rfl, rfl, rfl, rfl, rfl, rfl, rfl, rfl, rfl⟩ _]
    rw [run_registered (⟨⟨rfl, fun e => by cases e <;> rfl, by decide, by decide⟩, rfl, rfl⟩ :
      LetsIn Env.ascii 1 "bob" _)]
    exact ⟨_, _, rfl, fun e => by cases e <;> rfl, rfl, rfl, rfl, by decide, by decide, rfl⟩
  obtain ⟨w, msg, hrun, hpy, hlive, hevent, htag, hmem, hother, hunset⟩ := hend
  have hlast := allSteps_iff.mp h annTagged (.line 0 (ascii "TAGMSG bob")) [] w rfl hrun
  have hacc (c : ConnId) : (w.conn c).is_ready = true → (w.conn c).m_account ≠ none :=
    run_readyHasAccount empty_idle hrun c
  have hwanted := (step_confined_iff hpy hacc).mp hlast 0 _ msg rfl hlive hevent htag 1 hmem
    fun hsame => absurd hsame hother
  rw [hunset] at hwanted
  cases hwanted

end Worker

end Chatripper
