import Mathlib
import Chatripper.Lib.Changes
import Chatripper.Directory
import Chatripper.Irc.Stores

/-!
# A client that follows its own nick

A client learns its nick from the 001 reply and from the NICK lines whose source is the nick it has.  The
server posts every change of the account to the connection, and sends a line when the call runs, unless
the account then has the nick that the connection registered with.

* `nickLine`          a NICK line, as a client reads it;
* `changesFor`        the changes that wait for a connection;
* `step_tracked`      one change or one call: the client, after the changes that wait, has the nick;
* `nick_tracked`      when no call waits, the client has the nick of the account;
* `nick_not_tracked`  back to the first nick, and the client is not told.
-/

namespace Chatripper
open ByteStr Utf8 Outcome

/-! ## what a client reads -/

/-- a NICK line: the nick of its source, and the nick that it gives -/
def nickLine (data : Bytes) : Option (Bytes × Bytes) :=
  match data with
  | 58 :: rest =>
    let source := rest.takeWhile (· != SP)
    let text := rest.dropWhile (· != SP)
    if (ascii " NICK :").isPrefixOf text then
      some (source.takeWhile (· != 33), (text.drop 7).take (text.length - 9))
    else none
  | _ => none

/-- the NICK lines among what connection `c` is sent -/
def nickLines (c : ConnId) (out : List (ConnId × Bytes)) : List (Bytes × Bytes) :=
  (out.filter fun p => p.1 == c).filterMap fun p => nickLine p.2

/-- the nick can be the source of a line -/
def plainNick (n : Bytes) : Bool := !n.contains SP && !n.contains 33

theorem ne_of_not_mem {b : UInt8} {s : Bytes} (hs : b ∉ s) : ∀ x ∈ s, (x != b) = true :=
  fun _ hx => bne_iff_ne.mpr fun h => hs (h ▸ hx)

theorem takeWhile_stop {b : UInt8} {s : Bytes} (hs : b ∉ s) (rest : Bytes) :
    (s ++ b :: rest).takeWhile (· != b) = s := by
  rw [List.takeWhile_append_of_pos (ne_of_not_mem hs), List.takeWhile_cons_of_neg (by simp),
    List.append_nil]

theorem dropWhile_stop {b : UInt8} {s : Bytes} (hs : b ∉ s) (rest : Bytes) :
    (s ++ b :: rest).dropWhile (· != b) = b :: rest := by
  rw [List.dropWhile_append_of_pos (ne_of_not_mem hs), List.dropWhile_cons_of_neg (by simp)]

theorem nickLine_cons (rest : Bytes) : nickLine (58 :: rest) =
    if (ascii " NICK :").isPrefixOf (rest.dropWhile (· != SP)) then
      some ((rest.takeWhile (· != SP)).takeWhile (· != 33),
        ((rest.dropWhile (· != SP)).drop 7).take ((rest.dropWhile (· != SP)).length - 9))
    else none := rfl

/-- what `change_nick` sends reads back as the change -/
theorem nickLine_sent {old new user host : Bytes} (hold : plainNick old = true) (huser : SP ∉ user)
    (hhost : SP ∉ host) :
    nickLine (ascii ":" ++ old ++ ascii "!" ++ user ++ ascii "@" ++ host ++ ascii " NICK :" ++ new ++
      crlf) = some (old, new) := by
  have hplain : SP ∉ old ∧ (33 : UInt8) ∉ old := by
    unfold plainNick at hold
    simpa using hold
  have hsource : SP ∉ old ++ 33 :: (user ++ 64 :: host) := by
    simp only [List.mem_append, List.mem_cons, not_or]
    exact ⟨hplain.1, by decide, huser, by decide, hhost⟩
  have htext : ascii ":" ++ old ++ ascii "!" ++ user ++ ascii "@" ++ host ++ ascii " NICK :" ++ new ++
      crlf = 58 :: ((old ++ 33 :: (user ++ 64 :: host)) ++ SP :: (ascii "NICK :" ++ new ++ crlf)) := by
    have hcolon : ascii ":" = [58] := rfl
    have hbang : ascii "!" = [33] := rfl
    have hat : ascii "@" = [64] := rfl
    have hnick : ascii " NICK :" = SP :: ascii "NICK :" := rfl
    rw [hcolon, hbang, hat, hnick]
    simp
  have hcommand : (ascii " NICK :").isPrefixOf (SP :: (ascii "NICK :" ++ new ++ crlf)) = true := rfl
  rw [htext, nickLine_cons, takeWhile_stop hsource, dropWhile_stop hsource, if_pos hcommand,
    takeWhile_stop hplain.2]
  have hlen : (SP :: (ascii "NICK :" ++ new ++ crlf)).length - 9 = new.length := by
    show (ascii "NICK :" ++ new ++ crlf).length + 1 - 9 = new.length
    rw [List.length_append, List.length_append]
    show 6 + new.length + 2 + 1 - 9 = new.length
    omega
  have hdrop : (SP :: (ascii "NICK :" ++ new ++ crlf)).drop 7 = new ++ crlf := rfl
  rw [hlen, hdrop, List.take_left]

/-! ## the calls that wait -/

/-- the nick changes that wait for connection `c` -/
def changesFor (c : ConnId) (queue : List (ConnId × QueuedCall)) : List (Bytes × Bytes) :=
  queue.filterMap fun
    | (d, .change_nick ev) => if d = c then some (ev.old_nick, ev.new_nick) else none
    | _ => none

section
variable {c d : ConnId} {q : QueuedCall} {queue : List (ConnId × QueuedCall)}

theorem changesFor_append (queue queue' : List (ConnId × QueuedCall)) :
    changesFor c (queue ++ queue') = changesFor c queue ++ changesFor c queue' :=
  List.filterMap_append

theorem changesFor_cons_ne (h : d ≠ c) : changesFor c ((d, q) :: queue) = changesFor c queue := by
  cases q with
  | change_nick ev => exact List.filterMap_cons_none (if_neg h)
  | channel_part ev => rfl
  | channel_rename ev => rfl

/-- a call of another connection is taken -/
theorem changesFor_eraseP_ne (h : d ≠ c) :
    changesFor c (queue.eraseP fun p => p.1 == d) = changesFor c queue := by
  induction queue with
  | nil => rfl
  | cons p queue ih =>
    obtain ⟨x, q⟩ := p
    by_cases hx : x = d
    · rw [List.eraseP_cons_of_pos (by simp [hx]), changesFor_cons_ne (hx ▸ h)]
    · rw [List.eraseP_cons_of_neg (by simp [hx]), ← List.singleton_append, changesFor_append, ih,
        ← changesFor_append, List.singleton_append]

/-- the next change is taken -/
theorem changesFor_eraseP_self {ev : QEventNickChange}
    (h : queue.find? (fun p => p.1 == c) = some (c, .change_nick ev)) :
    changesFor c queue =
      (ev.old_nick, ev.new_nick) :: changesFor c (queue.eraseP fun p => p.1 == c) := by
  induction queue with
  | nil => cases h
  | cons p queue ih =>
    obtain ⟨x, q⟩ := p
    by_cases hx : x = c
    · rw [List.find?_cons_of_pos (by simp [hx])] at h
      cases h
      rw [List.eraseP_cons_of_pos (by simp)]
      exact List.filterMap_cons_some (if_pos rfl)
    · rw [List.find?_cons_of_neg (by simp [hx])] at h
      rw [List.eraseP_cons_of_neg (by simp [hx]), changesFor_cons_ne hx, changesFor_cons_ne hx, ih h]

/-- calls posted to a list of connections -/
theorem changesFor_posted (ev : QEventNickChange) (conns : List ConnId) :
    changesFor c (conns.map fun conn => (conn, .change_nick ev)) =
      List.replicate (conns.count c) (ev.old_nick, ev.new_nick) := by
  induction conns with
  | nil => rfl
  | cons d conns ih =>
    rw [List.map_cons]
    by_cases hd : d = c
    · rw [hd, List.count_cons_self, List.replicate_succ, ← ih]
      exact List.filterMap_cons_some (if_pos rfl)
    · rw [changesFor_cons_ne hd, ih, List.count_cons_of_ne hd]

end

/-- a connection that one account lists once is listed once among some accounts with this one -/
theorem count_flatMap_listed {c : ConnId} {a : AccId} {f : AccId → List ConnId}
    (hlisted : ∀ b, (f b).count c = if b = a then 1 else 0) (accs : List AccId) :
    (accs.flatMap f).count c = accs.count a := by
  induction accs with
  | nil => rfl
  | cons b accs ih =>
    rw [List.flatMap_cons, List.count_append, ih, hlisted b]
    by_cases hb : b = a
    · rw [if_pos hb, hb, List.count_cons_self, Nat.add_comm]
    · rw [if_neg hb, List.count_cons_of_ne hb, Nat.zero_add]

/-- the members of some channels, with the accounts that were there before -/
theorem mem_channelMembers {w : World} {l : List (Option ChanId)} {s s' : QSet AccId} {a : AccId}
    (ha : a ∈ s) (h : Account.channelMembers w l s = .ok s') : a ∈ s' := by
  have hall : Sat (fun _ => True) (fun s' => a ∈ s') (Account.channelMembers w l s) := by
    refine Sat.foldlM ha fun s1 channel _ h1 => Sat.bind_any fun ch => ?_
    have hmembers (l : List AccId) (s2 : QSet AccId) (h2 : a ∈ s2) :
        a ∈ l.foldl (fun s acc => s.insert acc) s2 := by
      induction l generalizing s2 with
      | nil => exact h2
      | cons b l ih =>
        apply ih
        exact Std.ExtTreeSet.mem_insert.mpr (Or.inr h2)
    exact hmembers _ _ h1
  exact hall.of_ok h

/-- what the registry part of a nick change does -/
theorem renameInRegistry_world {a self : AccId} {ev : QEventNickChange} {w w' : World}
    (h : Account.renameInRegistry a ev w = some (self, w')) :
    w.ctx.accounts_lookup_uuid[(w.acc a).m_uid]? = some self ∧ ev.new_nick ≠ [] ∧
      ∃ nicks, w' = ({ w with ctx := { w.ctx with irc_nicks := nicks } } : World).updAcc a
        fun k => { k with m_nick := ev.new_nick } := by
  unfold Account.renameInRegistry at h
  split at h
  · cases h
  · next hnew =>
    split at h
    · cases h
    · next s hs =>
      dsimp only at h
      split at h
      · cases h
      · cases h
        exact ⟨hs, hnew, _, rfl⟩

/-- the handlers of a hook change the interpreters only -/
theorem World.consult_world {α : Type} [Gadget α] {e : QIRCEvent} {cancelled : α → Bool} {ev : α}
    {w w' : World} {r : Option α} (h : w.consult e cancelled ev = (r, w')) :
    ∃ sp, w' = { w with snakepit := sp } := by
  unfold World.consult at h
  split at h
  · have hevent : (w.event e ev).2 = { w with snakepit := _ } := rfl
    cases hr : w.event e ev with
    | mk q w1 =>
      rw [hr] at h hevent
      cases q with
      | none =>
        cases h
        exact ⟨_, hevent⟩
      | some ev' =>
        cases h
        exact ⟨_, hevent⟩
  · cases h
    exact ⟨w.snakepit, rfl⟩

/-- no handler changes whose nick it is -/
theorem nickChange_account (f : String) (v : PyVal) (e : QEventNickChange) :
    (Gadget.write f v e).account = e.account := by
  refine writeProp_keeps (fun q hq _ v a => ?_) v e
  simp only [List.mem_cons, List.not_mem_nil, or_false] at hq
  rcases hq with rfl | rfl | rfl | rfl | rfl
  all_goals
    first
    | refine bytesProp_keeps (p := QEventNickChange.account) (fun b e => ?_) v a
      rfl
    | refine boolProp_keeps (p := QEventNickChange.account) (fun b e => ?_) v a
      rfl

/-! ## one event -/

namespace client_connection
open World

/-- a call that runs sends data to its connection only, and posts nothing -/
theorem queuedCall_sends {c : ConnId} {q : QueuedCall} {w : World} :
    Sat (fun _ => True) (fun w' => w'.queue = w.queue ∧
      ∃ sent, w'.out = w.out ++ sent ∧ ∀ p ∈ sent, p.1 = c) (queuedCall c q w) := by
  have hnone : w.queue = w.queue ∧ ∃ sent, w.out = w.out ++ sent ∧ ∀ p ∈ sent, p.1 = c :=
    ⟨rfl, [], (List.append_nil _).symm, fun _ hp => absurd hp List.not_mem_nil⟩
  have hone (data : Bytes) : w.queue = w.queue ∧
      ∃ sent, w.out ++ [(c, data)] = w.out ++ sent ∧ ∀ p ∈ sent, p.1 = c :=
    ⟨rfl, [(c, data)], rfl, fun p hp => by rw [List.mem_singleton.mp hp]⟩
  cases q with
  | channel_part ev =>
    show Sat _ _ (channel_part c ev w)
    unfold channel_part
    refine Sat.bind_any fun account => Sat.bind_any fun me => ?_
    exact Sat.ite (fun _ => hone _) fun _ => Sat.ite (fun _ => hone _) fun _ => hnone
  | change_nick ev =>
    show Sat _ _ (change_nick c ev w)
    unfold change_nick
    dsimp only
    refine Sat.ite (fun _ => Sat.ite (fun _ => hnone) fun _ => hone _) fun _ => ?_
    exact Sat.bind_any fun account => hone _
  | channel_rename ev =>
    show (channel_rename c ev w).queue = w.queue ∧
      ∃ sent, (channel_rename c ev w).out = w.out ++ sent ∧ ∀ p ∈ sent, p.1 = c
    unfold channel_rename
    split
    · exact hnone
    · dsimp only
      split
      · exact hone _
      · refine ⟨rfl, [_, _], List.append_assoc _ _ _, fun p hp => ?_⟩
        rcases List.mem_cons.mp hp with rfl | hp
        · rfl
        · rw [List.mem_singleton.mp hp]

end client_connection

namespace Worker
open World client_connection Changes

/-- connection `c` is the client's: it registered with this nick on account `a`, which lists it once, and
only changes of the account wait for it -/
structure Follows (c : ConnId) (a : AccId) (first : Bytes) (w : World) : Prop where
  live : (w.conn c).live = true
  account : (w.conn c).m_account = some a
  first : (w.conn c).m_nick = first
  user : SP ∉ (w.conn c).user
  host : SP ∉ (w.conn c).m_host
  uid : w.ctx.accounts_lookup_uuid[(w.acc a).m_uid]? = some a
  listed : ∀ b, (w.acc b).connections.count c = if b = a then 1 else 0
  own : ∀ q, (c, q) ∈ w.queue → ∃ ev, q = .change_nick ev ∧ ev.account = some a

/-- the next call of a connection, when it is a nick change -/
def nextChange (c : ConnId) (w : World) : Option QEventNickChange :=
  (w.queue.find? fun p => p.1 == c).bind fun
    | (_, .change_nick ev) => some ev
    | _ => none

/-- the event is a nick change of account `a`, or a call that runs -/
def changesNick (env : Env) (a : AccId) (w : World) : Event → Bool
  | .deliver _ => true
  | ev => (nickChangeOf env w ev).any fun p => p.1 == a

/-- what an event does for the client on connection `c` -/
inductive Tells (env : Env) (c : ConnId) (a : AccId) (first : Bytes) (w : World) (ev : Event)
    (w' : World) (sent : List (ConnId × Bytes)) : Prop
  | nothing (hnick : w'.accNick a = w.accNick a)
      (hqueue : changesFor c w'.queue = changesFor c w.queue) (hsent : nickLines c sent = [])
  | posted (e : QEventNickChange) (hev : nickChangeOf env w ev = some (a, e))
      (hnick : w'.accNick a = e.new_nick)
      (hqueue : changesFor c w'.queue = changesFor c w.queue ++ [(e.old_nick, e.new_nick)])
      (hsent : sent = [])
  | called (e : QEventNickChange) (hev : ev = .deliver c) (hnext : nextChange c w = some e)
      (hnick : w'.accNick a = w.accNick a)
      (hqueue : changesFor c w.queue = (e.old_nick, e.new_nick) :: changesFor c w'.queue)
      (hsent : plainNick e.old_nick = true →
        nickLines c sent = if w.accNick a = first then [] else [(e.old_nick, e.new_nick)])
      (hskip : w.accNick a = first → nickLines c sent = [])

section
variable {env : Env} {c : ConnId} {a : AccId} {first : Bytes} {w w' : World} {ev : Event}

theorem Follows.congr (h : Follows c a first w) (hreg : w'.reg = w.reg)
    (hset : w'.settings = w.settings) (hqueue : ∀ q, (c, q) ∈ w'.queue → (c, q) ∈ w.queue) :
    Follows c a first w' := by
  have hconn : (w'.conn c).reg = (w.conn c).reg := reg_conn_eq hreg c
  have hacc (b : AccId) : (w'.acc b).reg = (w.acc b).reg := congrArg (fun r => r.acc b) hreg
  have huuid : w'.ctx.accounts_lookup_uuid = w.ctx.accounts_lookup_uuid :=
    congrArg Reg.accounts_lookup_uuid hreg
  have huid : (w'.acc a).m_uid = (w.acc a).m_uid := congrArg AccReg.m_uid (hacc a)
  refine ⟨(congrArg ConnReg.live hconn).trans h.live, (congrArg ConnReg.m_account hconn).trans h.account,
    (congrArg ConnReg.m_nick hconn).trans h.first, ?_, ?_, ?_, fun b => ?_, fun q hq => h.own q (hqueue q hq)⟩
  · have huser : (w'.conn c).user = (w.conn c).user := congrFun (congrArg Settings.user hset) c
    rw [huser]
    exact h.user
  · have hhost : (w'.conn c).m_host = (w.conn c).m_host := congrFun (congrArg Settings.m_host hset) c
    rw [hhost]
    exact h.host
  · rw [huuid, huid]
    exact h.uid
  · have hlist : (w'.acc b).connections = (w.acc b).connections := congrArg AccReg.connections (hacc b)
    rw [hlist]
    exact h.listed b

theorem accNick_congr (hreg : w'.reg = w.reg) : w'.accNick a = w.accNick a := by
  have hnick : (w'.acc a).m_nick = (w.acc a).m_nick := congrArg (fun r => (r.acc a).m_nick) hreg
  unfold accNick
  rw [hnick]

/-- data for others -/
theorem nickLines_others {d : ConnId} (hd : d ≠ c) {sent : List (ConnId × Bytes)}
    (h : ∀ p ∈ sent, p.1 = d) : nickLines c sent = [] := by
  have hnone : sent.filter (fun p => p.1 == c) = [] := by
    rw [List.filter_eq_nil_iff]
    intro p hp
    rw [h p hp]
    simpa using hd
  unfold nickLines
  rw [hnone, List.filterMap_nil]

theorem nickLines_append (out out' : List (ConnId × Bytes)) :
    nickLines c (out ++ out') = nickLines c out ++ nickLines c out' := by
  unfold nickLines
  rw [List.filter_append, List.filterMap_append]

theorem nickLines_one (data : Bytes) : nickLines c [(c, data)] = (nickLine data).toList := by
  unfold nickLines
  rw [List.filter_cons_of_pos (by simp), List.filter_nil]
  cases hline : nickLine data with
  | none => exact List.filterMap_cons_none hline
  | some p => exact List.filterMap_cons_some hline

/-- **A call runs.** -/
theorem deliver_tells {d : ConnId} (h : Follows c a first w) (hstep : deliver d w = .ok w') :
    Follows c a first w' ∧ ∃ sent, w'.out = w.out ++ sent ∧
      Tells env c a first w (.deliver d) w' sent := by
  have hreg : w'.reg = w.reg := deliver_sat.of_ok hstep
  have hset : w'.settings = w.settings := deliver_settings hstep
  have hnick : w'.accNick a = w.accNick a := accNick_congr hreg
  have hdone (hqueue : w'.queue = w.queue) (hout : w'.out = w.out) :
      Follows c a first w' ∧ ∃ sent, w'.out = w.out ++ sent ∧
        Tells env c a first w (.deliver d) w' sent := by
    refine ⟨h.congr hreg hset fun q hq => hqueue ▸ hq, [], ?_, .nothing hnick (by rw [hqueue]) rfl⟩
    rw [hout, List.append_nil]
  unfold deliver at hstep
  split at hstep
  · cases hstep
    exact hdone rfl rfl
  · next x q hfind =>
    have hx : x = d := by simpa using List.find?_some hfind
    rw [hx] at hfind
    obtain ⟨w1, hw1⟩ : ∃ w1 : World, w1 = { w with queue := w.queue.eraseP fun p => p.1 == d } :=
      ⟨_, rfl⟩
    have hqueue1 : w1.queue = w.queue.eraseP fun p => p.1 == d := by rw [hw1]
    replace hstep : (if (w.conn d).live then queuedCall d q w1 else .ok w1) = .ok w' := by
      rw [hw1]
      exact hstep
    have hsends : w'.queue = w1.queue ∧ ∃ sent, w'.out = w.out ++ sent ∧ ∀ p ∈ sent, p.1 = d := by
      split at hstep
      · have hcall := queuedCall_sends.of_ok hstep
        rw [hw1] at hcall ⊢
        exact hcall
      · cases hstep
        refine ⟨rfl, [], ?_, fun p hp => absurd hp List.not_mem_nil⟩
        rw [hw1, List.append_nil]
    obtain ⟨hqueue, sent, hout, hsent⟩ := hsends
    have hfollows : Follows c a first w' := by
      refine h.congr hreg hset fun q hq => ?_
      rw [hqueue, hqueue1] at hq
      exact List.mem_of_mem_eraseP hq
    by_cases hd : d = c
    · -- the call is a change of the account
      rw [hd] at hfind hqueue1
      obtain ⟨e, rfl, hacc⟩ := h.own q (List.mem_of_find?_eq_some hfind)
      have hnext : nextChange c w = some e := by
        unfold nextChange
        rw [hfind]
        rfl
      have hrest : changesFor c w.queue = (e.old_nick, e.new_nick) :: changesFor c w'.queue := by
        rw [changesFor_eraseP_self hfind, hqueue, hqueue1]
      rw [hd, if_pos h.live] at hstep
      have hcall : change_nick c e w1 = .ok w' := hstep
      have hconn : w1.conn = w.conn := by rw [hw1]
      have hnick1 : w1.nick c = w.accNick a := by
        unfold World.nick
        rw [hconn, h.account, hw1]
        rfl
      unfold change_nick at hcall
      dsimp only at hcall
      rw [hconn, hacc, h.account, if_pos rfl, h.first, hnick1] at hcall
      refine ⟨hfollows, ?_⟩
      by_cases hskip : first = w.accNick a
      · rw [if_pos hskip] at hcall
        cases hcall
        refine ⟨[], ?_, .called e (by rw [hd]) hnext hnick hrest (fun _ => ?_) fun _ => rfl⟩
        · rw [hw1, List.append_nil]
        · rw [if_pos hskip.symm]
          rfl
      · obtain ⟨data, hdata⟩ : ∃ data, data = ascii ":" ++ e.old_nick ++ ascii "!" ++
            (w.conn c).user ++ ascii "@" ++ (w.conn c).m_host ++ ascii " NICK :" ++ e.new_nick ++
            crlf := ⟨_, rfl⟩
        rw [if_neg hskip, ← hdata] at hcall
        cases hcall
        refine ⟨[(c, data)], ?_, .called e (by rw [hd]) hnext hnick hrest (fun hplain => ?_)
          fun hs => ?_⟩
        · rw [hw1]
          rfl
        · rw [if_neg (Ne.symm hskip), nickLines_one, hdata, nickLine_sent hplain h.user h.host]
          rfl
        · exact absurd hs.symm hskip
    · refine ⟨hfollows, sent, hout, .nothing hnick ?_ (nickLines_others hd hsent)⟩
      rw [hqueue, hqueue1, changesFor_eraseP_ne hd]

/-- **A nick changes.** -/
theorem change_tells {e : QEventNickChange} (h : Follows c a first w)
    (hev : nickChangeOf env w ev = some (a, e)) (hstep : step env w ev = .ok w') :
    Follows c a first w' ∧ w'.out = w.out ∧ Tells env c a first w ev w' [] := by
  cases ev with
  | line d line =>
    have hchange : (if (w.conn d).live then lineNickChange env d line w else none) = some (a, e) := hev
    split at hchange
    · next hlive =>
      have hline : (if (w.conn d).live then parseIncoming env d line w else .ok w) = .ok w' := hstep
      rw [if_pos hlive, parseIncoming_eq] at hline
      unfold lineNickChange at hchange
      split at hchange
      · next args hcmd =>
        rw [hcmd] at hline
        obtain ⟨-, n, w1, self, w2, l, hconsult, hren, hl, hposted⟩ := handleNICK_posts hchange hline
        obtain ⟨sp, hsp⟩ := handlerWorld_eq d line w
        obtain ⟨sp1, hsp1⟩ := consult_world hconsult
        have hwhose : e.account = some a :=
          World.consult_keeps (p := QEventNickChange.account) nickChange_account
            (congrArg Prod.fst hconsult)
        rw [hsp] at hsp1
        obtain ⟨hself, hnew, nicks, hw2⟩ := renameInRegistry_world hren
        rw [hsp1] at hself hw2
        obtain rfl : a = self := Option.some.inj (h.uid.symm.trans hself)
        have hacc (b : AccId) : w2.acc b =
            if b = a then { w.acc a with m_nick := e.new_nick } else w.acc b := by rw [hw2]; rfl
        have hconns (b : AccId) : (w2.acc b).connections = (w.acc b).connections := by
          rw [hacc]
          split
          · next hb => rw [hb]
          · rfl
        have hposts : changesFor c ((l.toList.flatMap fun b => (w2.acc b).connections).map
            fun conn => (conn, .change_nick e)) = [(e.old_nick, e.new_nick)] := by
          have ha : a ∈ l := mem_channelMembers Std.ExtTreeSet.mem_insert_self hl
          have hnodup : l.toList.Nodup := Std.ExtTreeSet.distinct_toList.imp fun hne heq =>
            hne (Std.compare_eq_iff_eq.mpr heq)
          have honce : l.toList.count a = 1 :=
            List.count_eq_one_of_mem hnodup (Std.ExtTreeSet.mem_toList.mpr ha)
          rw [changesFor_posted, count_flatMap_listed (fun b => by rw [hconns]; exact h.listed b), honce]
          rfl
        rw [postAll_eq] at hposted
        have hqueue : w'.queue = w.queue ++ (l.toList.flatMap fun b => (w2.acc b).connections).map
            fun conn => (conn, .change_nick e) := by
          rw [hposted, hw2]
          rfl
        have hconn : w'.conn = w.conn := by
          rw [hposted, hw2]
          rfl
        have hacc' : w'.acc = w2.acc := by rw [hposted]
        have huuid : w'.ctx.accounts_lookup_uuid = w.ctx.accounts_lookup_uuid := by
          rw [hposted, hw2]
          rfl
        have huid : (w'.acc a).m_uid = (w.acc a).m_uid := by
          rw [hacc', hacc, if_pos rfl]
        have hout : w'.out = w.out := by
          rw [hposted, hw2]
          rfl
        refine ⟨⟨?_, ?_, ?_, ?_, ?_, ?_, fun b => ?_, fun q hq => ?_⟩, hout,
          .posted e hev ?_ ?_ rfl⟩
        · rw [hconn]; exact h.live
        · rw [hconn]; exact h.account
        · rw [hconn]; exact h.first
        · rw [hconn]; exact h.user
        · rw [hconn]; exact h.host
        · rw [huuid, huid]; exact h.uid
        · rw [hacc', hconns]; exact h.listed b
        · rw [hqueue] at hq
          rcases List.mem_append.mp hq with hq | hq
          · exact h.own q hq
          · obtain ⟨conn, -, hpair⟩ := List.mem_map.mp hq
            cases hpair
            exact ⟨e, rfl, hwhose⟩
        · unfold World.accNick
          rw [hacc', hacc, if_pos rfl]
          exact if_neg hnew
        · rw [hqueue, changesFor_append, hposts]
      · cases hchange
    · cases hchange
  | connect => cases hev
  | deliver => cases hev
  | disconnect => cases hev

/-- **One event.** -/
theorem step_tells (h : Follows c a first w) (hev : changesNick env a w ev = true)
    (hstep : step env w ev = .ok w') : Follows c a first w' ∧ ∃ sent, w'.out = w.out ++ sent ∧
      Tells env c a first w ev w' sent := by
  have hchange (hany : (nickChangeOf env w ev).any (fun p => p.1 == a) = true) :
      Follows c a first w' ∧ ∃ sent, w'.out = w.out ++ sent ∧ Tells env c a first w ev w' sent := by
    obtain ⟨⟨b, e⟩, hev, hb⟩ := (Option.any_eq_true _ _).mp hany
    have hb : b = a := by simpa using hb
    rw [hb] at hev
    obtain ⟨hfollows, hout, htells⟩ := change_tells h hev hstep
    exact ⟨hfollows, [], by rw [hout, List.append_nil], htells⟩
  cases ev with
  | deliver d => exact deliver_tells h hstep
  | line d line => exact hchange hev
  | connect isWebSocket ip => exact hchange hev
  | disconnect d => exact hchange hev

end

/-! ## runs -/

/-- the nick that the client on connection `c` has in a state that a run from `start` reaches -/
def clientNick (c : ConnId) (a : AccId) (start w : World) : Bytes :=
  follow (start.accNick a) (nickLines c (w.out.drop start.out.length))

/-- a change runs while the account has the nick that the connection registered with: then the client
has it too.  A change that is sent has a source that can be read, and no handler of a change puts
another nick into its place -/
def told (env : Env) (c : ConnId) (a : AccId) (nick : Bytes) (w : World) : Event → Bool
  | .deliver d => d != c || (nextChange c w).all fun e =>
    if w.accNick a = (w.conn c).m_nick then nick == w.accNick a else plainNick e.old_nick
  | ev => (nickChangeOf env w ev).all fun p => p.2.old_nick == w.accNick a

/-- connection `c` has just been welcomed: it has the nick of its account, and no call waits for it -/
structure Welcomed (c : ConnId) (a : AccId) (w : World) : Prop extends
    Follows c a (w.accNick a) w where
  quiet : ∀ q, (c, q) ∉ w.queue

/-- what holds along the run -/
structure Tracking (c : ConnId) (a : AccId) (start w : World) : Prop extends
    Follows c a (start.accNick a) w where
  out : ∃ sent, w.out = start.out ++ sent
  leads : LeadsTo (w.accNick a) (changesFor c w.queue)
  synced : follow (clientNick c a start w) (changesFor c w.queue) = w.accNick a

section
variable {env : Env} {c : ConnId} {a : AccId} {start w w' : World} {ev : Event} {evs : List Event}

theorem clientNick_append {sent sent' : List (ConnId × Bytes)} (hw : w.out = start.out ++ sent)
    (hw' : w'.out = w.out ++ sent') :
    clientNick c a start w' = follow (clientNick c a start w) (nickLines c sent') := by
  unfold clientNick
  rw [hw', hw, List.append_assoc, List.drop_left, List.drop_left, nickLines_append, follow_append]

theorem changesFor_eq_nil {queue : List (ConnId × QueuedCall)}
    (h : ∀ e, (c, QueuedCall.change_nick e) ∉ queue) : changesFor c queue = [] := by
  unfold changesFor
  rw [List.filterMap_eq_nil_iff]
  rintro ⟨d, q⟩ hp
  cases q with
  | change_nick e =>
    have hd : d ≠ c := by
      rintro rfl
      exact h e hp
    exact if_neg hd
  | channel_part e => rfl
  | channel_rename e => rfl

theorem Welcomed.tracking (h : Welcomed c a start) : Tracking c a start start := by
  have hnone : changesFor c start.queue = [] := changesFor_eq_nil fun e => h.quiet _
  refine ⟨h.toFollows, ⟨[], (List.append_nil _).symm⟩, ?_, ?_⟩
  · rw [hnone]
    exact trivial
  · rw [hnone]
    unfold clientNick
    rw [List.drop_length]
    rfl

theorem told_posted {nick : Bytes} {e : QEventNickChange} (hev : nickChangeOf env w ev = some (a, e))
    (h : told env c a nick w ev = true) : e.old_nick = w.accNick a := by
  have hall : (nickChangeOf env w ev).all (fun p => p.2.old_nick == w.accNick a) = true := by
    cases ev with
    | deliver d => cases hev
    | line d line => exact h
    | connect isWebSocket ip => exact h
    | disconnect d => exact h
  rw [hev] at hall
  simpa using hall

theorem told_called {nick : Bytes} {e : QEventNickChange} (hev : ev = .deliver c)
    (hnext : nextChange c w = some e) (h : told env c a nick w ev = true) :
    if w.accNick a = (w.conn c).m_nick then nick = w.accNick a else plainNick e.old_nick = true := by
  rw [hev] at h
  replace h : (c != c || (nextChange c w).all fun e =>
    if w.accNick a = (w.conn c).m_nick then nick == w.accNick a else plainNick e.old_nick) = true := h
  rw [hnext] at h
  split
  · next hback => simpa [hback] using h
  · next hback => simpa [hback] using h

/-- **One event.**  The client, after the changes that wait for it, has the nick of the account. -/
theorem step_tracked (h : Tracking c a start w) (hev : changesNick env a w ev = true)
    (htold : told env c a (clientNick c a start w) w ev = true) (hstep : step env w ev = .ok w') :
    Tracking c a start w' := by
  obtain ⟨hfollows, sent, hout, htells⟩ := step_tells h.toFollows hev hstep
  obtain ⟨before, hbefore⟩ := h.out
  have hall : ∃ sent, w'.out = start.out ++ sent := by
    refine ⟨before ++ sent, ?_⟩
    rw [hout, hbefore, List.append_assoc]
  have hclient := clientNick_append (c := c) (a := a) hbefore hout
  cases htells with
  | nothing hnick hqueue hsent =>
    refine ⟨hfollows, hall, ?_, ?_⟩
    · rw [hnick, hqueue]
      exact h.leads
    · rw [hclient, hsent, hqueue, hnick]
      exact h.synced
  | posted e hchange hnick hqueue hsent =>
    have hold : e.old_nick = w.accNick a := told_posted hchange htold
    refine ⟨hfollows, hall, ?_, ?_⟩
    · rw [hqueue, hnick, hold]
      exact h.leads.concat e.new_nick
    · rw [hclient, hsent, hqueue, hnick, follow_append]
      show follow (follow (clientNick c a start w) (changesFor c w.queue)) _ = _
      rw [h.synced, hold]
      exact if_pos rfl
  | called e hdeliver hnext hnick hqueue hsent hskip =>
    have hheard := told_called hdeliver hnext htold
    have hleads : LeadsTo (w.accNick a) (changesFor c w'.queue) := by
      have hleads := h.leads
      rw [hqueue] at hleads
      exact hleads.2
    refine ⟨hfollows, hall, ?_, ?_⟩
    · rw [hnick]
      exact hleads
    · rw [hclient, hnick]
      rw [h.first] at hheard
      by_cases hback : w.accNick a = start.accNick a
      · -- no line: the client has the nick already
        rw [if_pos hback] at hheard
        rw [hskip hback, hheard]
        exact follow_self hleads
      · rw [if_neg hback] at hheard
        have hsynced := h.synced
        rw [hqueue] at hsynced
        rw [hsent hheard, if_neg hback]
        exact hsynced

/-- **A client tracks its nick.**  In every run of nick changes of its account in which it is told of
every change, a client that follows the NICK lines from the nick it was welcomed with has the nick of
its account whenever no change waits for its connection. -/
theorem nick_tracked (hstart : Welcomed c a start)
    (hchanges : AllSteps (step env) (fun w ev => changesNick env a w ev = true) start evs)
    (htold : AllSteps (step env) (fun w ev => told env c a (clientNick c a start w) w ev = true) start
      evs)
    (hrun : run (step env) start evs = .ok w') (hdone : ∀ e, (c, QueuedCall.change_nick e) ∉ w'.queue) :
    clientNick c a start w' = w'.accNick a := by
  have hend : Tracking c a start w' :=
    run_inv (C := fun w ev => changesNick env a w ev = true ∧
      told env c a (clientNick c a start w) w ev = true) (I := Tracking c a start)
      (fun w ev w' hw hc hstep => step_tracked hw hc.1 hc.2 hstep) hstart.tracking (hchanges.and htold) hrun
  have hsynced := hend.synced
  rw [changesFor_eq_nil hdone] at hsynced
  exact hsynced

end

set_option maxRecDepth 8000 in
/-- ann has registered, and is welcomed -/
theorem ann_welcomed : ∃ w, run (step Env.ascii) World.empty (registration 0 false "ann") = .ok w ∧
    Welcomed 0 0 w ∧ w.accNick 0 = ascii "ann" := by
  rw [run_registered ann_letsIn]
  refine ⟨_, rfl, ⟨⟨rfl, rfl, rfl, by decide, by decide, rfl, fun b => ?_, fun q hq => ?_⟩,
    fun q hq => ?_⟩, rfl⟩
  · cases b with
    | zero => rfl
    | succ n => rfl
  · cases hq
  · cases hq

/-- she changes her nick, and changes it back -/
def thereAndBack : List Event :=
  [.line 0 (ascii "NICK bea"), .deliver 0, .line 0 (ascii "NICK ann"), .deliver 0]

/-- she changes her nick twice -/
def onward : List Event :=
  [.line 0 (ascii "NICK bea"), .deliver 0, .line 0 (ascii "NICK cat"), .deliver 0]

set_option maxRecDepth 8000 in
/-- she is not told that she has her first nick again -/
theorem nick_not_tracked : ∃ w w', run (step Env.ascii) World.empty (registration 0 false "ann") = .ok w ∧
    Welcomed 0 0 w ∧ AllSteps (step Env.ascii) (fun w ev => changesNick Env.ascii 0 w ev = true) w
      thereAndBack ∧ run (step Env.ascii) w thereAndBack = .ok w' ∧ w'.queue = [] ∧
    clientNick 0 0 w w' = ascii "bea" ∧ w'.accNick 0 = ascii "ann" := by
  have hend : ∃ w w', run (step Env.ascii) World.empty (registration 0 false "ann") = .ok w ∧
      checkSteps (step Env.ascii) (changesNick Env.ascii 0) w thereAndBack = true ∧
        run (step Env.ascii) w thereAndBack = .ok w' ∧ w'.queue = [] ∧
          clientNick 0 0 w w' = ascii "bea" ∧ w'.accNick 0 = ascii "ann" := by
    rw [run_registered ann_letsIn]
    exact ⟨_, _, rfl, rfl, rfl, rfl, rfl, rfl⟩
  obtain ⟨w, w', hready, hcheck, hrun, hqueue, hclient, hnick⟩ := hend
  obtain ⟨v, hv, hwelcomed, -⟩ := ann_welcomed
  obtain rfl : w = v := Except.ok.inj (hready.symm.trans hv)
  exact ⟨w, w', hready, hwelcomed, allSteps_of_check hcheck, hrun, hqueue, hclient, hnick⟩

set_option maxRecDepth 8000 in
/-- she is told of both changes -/
theorem nick_tracked_onward : ∃ w w',
    run (step Env.ascii) World.empty (registration 0 false "ann") = .ok w ∧
      run (step Env.ascii) w onward = .ok w' ∧ clientNick 0 0 w w' = w'.accNick 0 := by
  have hend : ∃ w w', run (step Env.ascii) World.empty (registration 0 false "ann") = .ok w ∧
      checkSteps (step Env.ascii) (changesNick Env.ascii 0) w onward = true ∧
        checkSteps (step Env.ascii) (fun u ev => told Env.ascii 0 0 (clientNick 0 0 w u) u ev) w onward =
            true ∧
          run (step Env.ascii) w onward = .ok w' ∧ w'.queue = [] := by
    rw [run_registered ann_letsIn]
    exact ⟨_, _, rfl, rfl, rfl, rfl, rfl⟩
  obtain ⟨w, w', hready, hchanges, htold, hrun, hqueue⟩ := hend
  obtain ⟨v, hv, hwelcomed, -⟩ := ann_welcomed
  obtain rfl : w = v := Except.ok.inj (hready.symm.trans hv)
  refine ⟨w, w', hready, hrun, nick_tracked hwelcomed (allSteps_of_check hchanges)
    (allSteps_of_check htold) hrun fun e he => ?_⟩
  rw [hqueue] at he
  cases he

end Worker

end Chatripper
