import Mathlib
import Chatripper.Framing
import Chatripper.Safety
import Chatripper.Fanout
import Chatripper.Irc.Registering

/-!
# The text of a channel message

From the bytes on the sender's socket to the line on the recipient's: the text between ` :` and the
line end comes out as it went in.

* `plainCommand_messageLine`   the line is split into command, target and text;
* `parse_messageLine`          the line is one call of `Channel::message`;
* `filter_deliveriesTo`        a recipient that is offered a message once is sent its datum once;
* `text_fidelity`              the whole way.
-/

namespace Chatripper
open ByteStr Utf8 Lines Outcome

namespace client_connection
open World

/-- `PRIVMSG #name :text` -/
def messageLine (name text : Bytes) : Bytes :=
  ascii "PRIVMSG" ++ SP :: (35 :: name ++ SP :: 58 :: text)

/-! ## reading the line -/

section
variable {name text : Bytes}

theorem messageLine_head : (messageLine name text).head? ≠ some 64 := by
  have hhead : (messageLine name text).head? = some 80 := rfl
  rw [hhead]
  decide

theorem LF_not_mem_messageLine (hname : LF ∉ name) (htext : LF ∉ text) :
    LF ∉ messageLine name text := by
  have hcmd : LF ∉ ascii "PRIVMSG" := by decide
  have hsp : LF ≠ SP := by decide
  have hhash : LF ≠ 35 := by decide
  have hcolon : LF ≠ 58 := by decide
  unfold messageLine
  simp [hcmd, hsp, hhash, hcolon, hname, htext]

/-- the line starts with a letter and ends with the text -/
theorem trimmed_messageLine {y : UInt8} (hlast : text.getLast? = some y)
    (hy : isSpace y = false) : trimmed (messageLine name text) = messageLine name text := by
  obtain ⟨body, rfl⟩ := List.getLast?_eq_some_iff.mp hlast
  have hends : messageLine name (body ++ [y]) =
      80 :: (ascii "RIVMSG" ++ SP :: (35 :: name ++ SP :: 58 :: body)) ++ [y] := by
    unfold messageLine
    simp only [List.append_assoc, List.cons_append]
    rfl
  rw [hends]
  exact trimmed_of_ends (by decide) hy

theorem split_messageLine (hname : SP ∉ name) (htext : text ≠ []) :
    split_irc (messageLine name text) = [ascii "PRIVMSG", 35 :: name, text] := by
  have hcmd : SP ∉ ascii "PRIVMSG" := by decide
  have hhash : SP ∉ (35 :: name : Bytes) := by
    rw [List.mem_cons, not_or]
    exact ⟨by decide, hname⟩
  have hfind : indexOf SP (messageLine name text) = some (ascii "PRIVMSG").length :=
    indexOf_append hcmd _
  have htake : (messageLine name text).take (ascii "PRIVMSG").length = ascii "PRIVMSG" :=
    List.take_left' rfl
  have hdrop : (messageLine name text).drop ((ascii "PRIVMSG").length + 1) =
      35 :: name ++ SP :: 58 :: text := rfl
  have hcolon : indexOfSub [SP, 58] (35 :: name ++ SP :: 58 :: text) =
      some (35 :: name : Bytes).length := indexOfSub_append hhash text
  have hparams : (35 :: name ++ SP :: 58 :: text).take (35 :: name : Bytes).length =
      35 :: name := List.take_left' rfl
  have htrailing : (35 :: name ++ SP :: 58 :: text).drop ((35 :: name : Bytes).length + 2) =
      text := by
    rw [← List.drop_drop, List.drop_left' rfl]
    rfl
  unfold split_irc
  rw [hfind]
  dsimp only
  rw [htake, hdrop, hcolon]
  simp only [hparams, htrailing, split_of_not_mem hhash, if_neg htext]
  rfl

theorem plainCommand_messageLine (hname : SP ∉ name) {y : UInt8}
    (hlast : text.getLast? = some y) (hy : isSpace y = false) :
    plainCommand (messageLine name text) = some (.PRIVMSG, [35 :: name, text]) := by
  have htext : text ≠ [] := by
    rintro rfl
    cases hlast
  unfold plainCommand
  rw [trimmed_messageLine hlast hy, split_messageLine hname htext]
  rfl

end

/-! ## one line -/

/-- what `Channel::message` is called with -/
def channelMessage (c : ConnId) (ch : ChanId) (name text : Bytes) (w : World) : QEventMessage :=
  { messageEvent c ∅ [35 :: name, text] text false w with channel := some ch }

section
variable {env : Env} {c : ConnId} {w : World} {name text : Bytes} {ch : ChanId}

theorem parse_messageLine (hpy : w.NoHandlers) (hready : (w.conn c).is_ready = true)
    (hch : Channel.get w name = some ch) (hname : SP ∉ name) {y : UInt8}
    (hlast : text.getLast? = some y) (hy : isSpace y = false) :
    parseIncoming env c (messageLine name text) w =
      Channel.message ch (channelMessage c ch name text w) w := by
  rw [parseIncoming_plain hpy messageLine_head (plainCommand_messageLine hname hlast hy)
    (Or.inr hready)]
  show relay env c (35 :: name) (messageEvent c ∅ [35 :: name, text] text false w) w = _
  have hhash : startsWithHash (35 :: name) = true := rfl
  have hget : Channel.get w ((35 :: name).drop 1) = some ch := hch
  unfold relay
  dsimp only
  rw [if_pos hhash, hget]
  rfl

/-- a recipient that is offered a message once is sent its datum once -/
theorem filter_deliveriesTo {msg : QEventMessage} {rs : List ConnId} {d : ConnId} {data : Bytes}
    (hnodup : rs.Nodup) (hd : d ∈ rs) (hdata : datum d msg w = some data) :
    (deliveriesTo msg w rs).filter (fun p => p.1 == d) = [(d, data)] := by
  unfold deliveriesTo
  induction rs with
  | nil => cases hd
  | cons r rs ih =>
    obtain ⟨hr, hrs⟩ := List.nodup_cons.mp hnodup
    -- the rest holds nothing for `r`
    have hrest : d = r → ((rs.filterMap fun r => (datum r msg w).map fun x => (r, x)).filter
        fun p => p.1 == d) = [] := by
      intro he
      rw [List.filter_eq_nil_iff]
      intro p hp hpd
      obtain ⟨s, hs, hsp⟩ := List.mem_filterMap.mp hp
      obtain ⟨x, -, rfl⟩ := Option.map_eq_some_iff.mp hsp
      have hsd : s = d := by simpa using hpd
      rw [he] at hsd
      exact hr (hsd ▸ hs)
    rcases List.mem_cons.mp hd with rfl | hd
    · rw [List.filterMap_cons_some (by rw [hdata]; rfl), List.filter_cons_of_pos (by simp),
        hrest rfl]
    · have hne : r ≠ d := fun he => hr (he ▸ hd)
      cases hx : datum r msg w with
      | none =>
        rw [List.filterMap_cons_none (by rw [hx]; rfl)]
        exact ih hrs hd
      | some x =>
        rw [List.filterMap_cons_some (by rw [hx]; rfl), List.filter_cons_of_neg (by simpa using hne)]
        exact ih hrs hd

/-- what another member is sent -/
theorem datum_channelMessage {a : AccId} {d : ConnId} (hc : (w.conn c).m_account = some a)
    (hd : (w.conn d).m_account ≠ some a) :
    datum d (channelMessage c ch name text w) w =
      some (buildMessageTags (channelMessage c ch name text w) (some (w.acc a))
          (w.conn d).capabilities ++
        ascii ":" ++ w.accPrefix a [] ++ ascii " PRIVMSG #" ++ (w.chan ch).m_name ++ ascii " :" ++
          text ++ crlf) := by
  have hacc : (channelMessage c ch name text w).account = some a := hc
  have hshown : shownPrefix d a (channelMessage c ch name text w).conn_id w =
      some (w.accPrefix a []) := by
    unfold shownPrefix
    rw [if_neg hd]
  have htarget : shownTarget (channelMessage c ch name text w) w =
      ascii "#" ++ (w.chan ch).m_name := rfl
  unfold datum
  rw [hacc, Option.bind_some, hshown, htarget, Option.map_some]
  unfold messageData
  rw [hacc, Option.map_some]
  have hplain : (channelMessage c ch name text w).tag_msg = false := rfl
  have htext : (channelMessage c ch name text w).text = text := rfl
  have hcmd : ascii " PRIVMSG #" = ascii " " ++ ascii "PRIVMSG" ++ ascii " " ++ ascii "#" := rfl
  have hcolon : ascii " :" = ascii " " ++ ascii ":" := rfl
  dsimp only
  rw [hplain, htext, hcmd, hcolon]
  simp [join, List.intercalate_cons_cons]

end

end client_connection

/-! ## the whole way -/

/-- no step of the system makes a connection ready without an account -/
theorem Reg.SysStep.readyHasAccount {l : SysLabel} {r r' : Reg} {c : ConnId} (h : SysStep l r r')
    (hinv : r.ReadyHasAccount c) : r'.ReadyHasAccount c := by
  cases h with
  | connect =>
    intro hready
    unfold Reg.connect at hready ⊢
    rw [updConn_conn] at hready ⊢
    split at hready
    · cases hready
    · next hc =>
      rw [if_neg hc]
      exact hinv hready
  | @conn d l r r' hlive h =>
    by_cases hd : c = d
    · rw [hd] at hinv ⊢
      exact h.readyHasAccount hinv
    · unfold ReadyHasAccount at hinv ⊢
      cases h <;> simpa [hd] using hinv
  | disconnect =>
    intro hready
    rw [disconnect_conn] at hready ⊢
    split at hready
    · next hc =>
      rw [if_pos hc]
      exact hc ▸ hinv (hc ▸ hready)
    · next hc =>
      rw [if_neg hc]
      exact hinv hready

namespace Worker
open World client_connection

section
variable {env : Env} {w w' : World} {evs : List Event} {c d : ConnId}

/-- in every state of a run, a ready connection has an account -/
theorem run_readyHasAccount (hidle : Idle w) (hrun : run (step env) w evs = .ok w') (c : ConnId) :
    w'.reg.ReadyHasAccount c := by
  refine run_inv_of_steps (I := fun r => r.ReadyHasAccount c) (C := fun _ _ => True)
    (P := fun _ => True) (fun _ _ _ _ _ => trivial) (fun l r r' _ hI hs => hs.readyHasAccount hI)
    ?_ (allSteps_true w evs) hrun
  intro hready
  have hno : (w.conn c).is_ready = true := hready
  rw [(hidle.unready c).1] at hno
  cases hno

/-- **The text of a channel message.**  In every state of every run, the bytes of one PRIVMSG with
its line end reach the socket of a ready connection in some deliveries.  Every connection of a member
that is not the sender's is sent one line, with the text as it is. -/
theorem text_fidelity {name text : Bytes} {ch : ChanId} {member : AccId} {ds : List Bytes}
    {y : UInt8} (hidle : Idle w) (hnodup : ∀ x, (w.chan x).m_members.Nodup)
    (hrun : run (step env) w evs = .ok w') (hpy : w'.NoHandlers)
    (hready : (w'.conn c).is_ready = true) (hch : Channel.get w' name = some ch)
    (hmember : member ∈ (w'.chan ch).m_members) (hd : d ∈ (w'.acc member).connections)
    (hother : (w'.conn d).m_account ≠ (w'.conn c).m_account)
    (hname : SP ∉ name ∧ LF ∉ name) (htext : LF ∉ text)
    (hlast : text.getLast? = some y) (hy : isSpace y = false)
    (hstream : ds.flatten = messageLine name text ++ crlf)
    (hlen : ds.flatten.length ≤ MAX_BUFFER_SIZE) :
    ∃ a wire', (w'.conn c).m_account = some a ∧
      run (onReadyRead env c) { world := w' } ds = .ok wire' ∧
      wire'.world.out.filter (fun p => p.1 == d) = w'.out.filter (fun p => p.1 == d) ++
        [(d, buildMessageTags (channelMessage c ch name text w') (some (w'.acc a))
            (w'.conn d).capabilities ++
          ascii ":" ++ w'.accPrefix a [] ++ ascii " PRIVMSG #" ++ (w'.chan ch).m_name ++
            ascii " :" ++ text ++ crlf)] := by
  obtain ⟨a, hacc⟩ : ∃ a, (w'.conn c).m_account = some a :=
    Option.ne_none_iff_exists'.mp (run_readyHasAccount hidle hrun c hready)
  rw [hacc] at hother
  -- the framing hands over the line
  have hno : LF ∉ messageLine name text := LF_not_mem_messageLine hname.2 htext
  have hcr : LF ∉ messageLine name text ++ [CR] := by
    rw [List.mem_append, not_or]
    exact ⟨hno, by decide⟩
  have hline : ds.flatten = (messageLine name text ++ [CR]) ++ LF :: [] := by
    rw [hstream, List.append_assoc]
    rfl
  have hchop : chopCR (messageLine name text ++ [CR]) = messageLine name text := by
    unfold chopCR
    rw [List.getLast?_concat, if_pos rfl, List.dropLast_concat]
  have hfits : AllSteps (onReadyRead env c) (fun wire d => overflows wire d = false)
      { world := w' } ds := noOverflow_of_short (by rw [List.nil_append]; exact hlen)
  have hwhole := (framing hfits).1
  rw [hline, wholeStream_line hcr, hchop] at hwhole
  -- the line is one call, which delivers
  have hsends : (channelMessage c ch name text w').account = some a := hacc
  obtain ⟨w1, hw1, hdel⟩ := channel_message_delivers hsends
    (Or.inl (Option.some_ne_none ch)) rfl hpy
  have hparse : parseIncoming env c (messageLine name text) w' =
      Channel.message ch (channelMessage c ch name text w') w' :=
    parse_messageLine hpy hready hch hname.1 hlast hy
  rw [hparse, hw1] at hwhole
  refine ⟨a, _, hacc, hwhole, ?_⟩
  have hrec : d ∈ recipients (channelMessage c ch name text w') w' :=
    List.mem_flatMap.mpr ⟨member, hmember, hd⟩
  have hnd : (recipients (channelMessage c ch name text w') w').Nodup :=
    recipients_nodup (run_listInv hidle hrun) (run_membersNodup hnodup hrun ch) rfl
  show w1.out.filter (fun p => p.1 == d) = _
  rw [hdel.out, List.filter_append,
    filter_deliveriesTo hnd hrec (datum_channelMessage hacc hother)]

end

/-- a text with spaces and colons, cut in front of its last letter -/
def cutText : List Bytes := [ascii "PRIVMSG #x :  a : :", ascii "b\r\n"]

set_option maxRecDepth 8000 in
/-- bob is sent what ann wrote -/
theorem text_fidelity_ann : ∃ w wire', run (step Env.ascii) World.empty annAndBob = .ok w ∧
    run (onReadyRead Env.ascii 0) { world := w } cutText = .ok wire' ∧
    wire'.world.out.filter (fun p => p.1 == 1) = w.out.filter (fun p => p.1 == 1) ++
      [(1, ascii ":ann!user@kroket.io PRIVMSG #x :  a : :b\r\n")] := by
  have hend : ∃ w, run (step Env.ascii) World.empty annAndBob = .ok w ∧ w.NoHandlers ∧
      (w.conn 0).is_ready = true ∧ Channel.get w (ascii "x") = some 0 ∧
      (w.chan 0).m_members = [0, 1] ∧ (w.acc 1).connections = [1] ∧
      (w.conn 1).m_account = some 1 ∧ (w.conn 0).m_account = some 0 ∧
      (w.conn 1).capabilities = ⟨0⟩ ∧ w.accPrefix 0 [] = ascii "ann!user@kroket.io" ∧
      (w.chan 0).m_name = ascii "x" :=
    ⟨_, rfl, fun e => by cases e <;> rfl, rfl, rfl, rfl, rfl, rfl, rfl, rfl, rfl, rfl⟩
  obtain ⟨w, hrun, hpy, hready, hch, hmembers, hlist, hbob, hann, hcaps, hprefix, hname⟩ := hend
  have hother : (w.conn 1).m_account ≠ (w.conn 0).m_account := by
    rw [hbob, hann]
    decide
  have hmember : 1 ∈ (w.chan 0).m_members := by
    rw [hmembers]
    decide
  have hlisted : 1 ∈ (w.acc 1).connections := by
    rw [hlist]
    decide
  obtain ⟨a, wire', hacc, hwire, hout⟩ :=
    @text_fidelity Env.ascii World.empty w annAndBob 0 1 (ascii "x") (ascii "  a : :b") 0 1 cutText 98
      empty_idle (fun _ => List.nodup_nil) hrun hpy hready hch hmember hlisted hother
      ⟨by decide, by decide⟩ (by decide) (by decide) (by decide) rfl (by decide)
  rw [hann] at hacc
  cases hacc
  rw [hcaps, hprefix, hname] at hout
  exact ⟨w, wire', hrun, hwire, hout⟩

end Worker

end Chatripper
