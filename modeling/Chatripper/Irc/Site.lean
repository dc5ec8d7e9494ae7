import Mathlib
import Chatripper.Irc.RoomSteps

/-!
# The server and its rooms

A `Site` is the registration view together with the rooms.  A step of the system carries the rooms
along: a new connection and a new account are in no channel, and an account that a connection
registers with goes back into the channels of its list.  The other steps change the rooms only.

* `SiteStep`      one step, with the guards of the code;
* `Allowed`       the steps that an event may take, and where it takes them;
* `step_site`     every event is a chain of these.
-/

namespace Chatripper
open ByteStr Utf8 Outcome

structure Site where
  reg : Reg
  rooms : Rooms

def World.site (w : World) : Site := ⟨w.reg, w.rooms⟩

inductive SiteLabel where
  | sys (l : Reg.SysLabel)
  | create (c : ConnId) (n : Bytes)
  | join (c : ConnId) (a : AccId) (ch : ChanId)
  | part (c : ConnId) (a : AccId) (ch : ChanId)
  | rename (c : ConnId) (ch : ChanId) (n : Bytes)
  | deliver (c : ConnId)

/-- the rooms after a step of the system from `r` to `r'` -/
def Rooms.follow (l : Reg.SysLabel) (r r' : Reg) (R : Rooms) : Rooms :=
  match l with
  | .connect => R.newConn r.nextConn
  | .conn _ (.registerNew _) => R.newAcc r.nextAcc
  | .conn _ (.registerOld a) => R.rejoin r'.ties a
  | _ => R

inductive SiteStep : SiteLabel → Site → Site → Prop
  | sys {l : Reg.SysLabel} {r r' : Reg} {R : Rooms} (h : Reg.SysStep l r r') :
      SiteStep (.sys l) ⟨r, R⟩ ⟨r', R.follow l r r'⟩
  | create {c : ConnId} {n : Bytes} {r : Reg} {R : Rooms} (h : R.index n = none) :
      SiteStep (.create c n) ⟨r, R⟩ ⟨r, R.create n⟩
  | join {c : ConnId} {a : AccId} {ch : ChanId} {r : Reg} {R : Rooms}
      (hacc : (r.conn c).m_account = some a) (hch : ∃ n, R.index n = some ch) :
      SiteStep (.join c a ch) ⟨r, R⟩ ⟨r, R.join r.ties ch a⟩
  | part {c : ConnId} {a : AccId} {ch : ChanId} {r : Reg} {R : Rooms}
      (hacc : (r.conn c).m_account = some a) (hch : ∃ n, R.index n = some ch)
      (hmem : a ∈ R.members ch) : SiteStep (.part c a ch) ⟨r, R⟩ ⟨r, R.part r.ties ch a⟩
  | rename {c : ConnId} {ch : ChanId} {n : Bytes} {r : Reg} {R : Rooms} :
      SiteStep (.rename c ch n) ⟨r, R⟩ ⟨r, R.rename ch n⟩
  | deliver {c : ConnId} {ch : ChanId} {a : AccId} {l : List (ChanId × AccId)} {r : Reg} {R : Rooms}
      (hfirst : R.pending c = (ch, a) :: l) (hlive : (r.conn c).live = true) :
      SiteStep (.deliver c) ⟨r, R⟩ ⟨r, (R.take c).channelPart r.ties c ch a⟩
  | lose {c : ConnId} {ch : ChanId} {a : AccId} {l : List (ChanId × AccId)} {r : Reg} {R : Rooms}
      (hfirst : R.pending c = (ch, a) :: l) (hdead : (r.conn c).live = false) :
      SiteStep (.deliver c) ⟨r, R⟩ ⟨r, R.take c⟩

/-- what the earlier steps of the same line leave as it was -/
structure Near (w : World) (s : Site) : Prop where
  acc : s.reg.acc = w.reg.acc
  account : ∀ c, (s.reg.conn c).m_account = (w.conn c).m_account
  live : ∀ c, (s.reg.conn c).live = (w.conn c).live
  accounts : s.reg.accounts = w.ctx.accounts
  pending : s.rooms.pending = w.rooms.pending

theorem Near.refl (w : World) : Near w w.site := ⟨rfl, fun _ => rfl, fun _ => rfl, rfl, rfl⟩

namespace client_connection
open World

/-! ## what a line is about -/

/-- the channel names of a JOIN, without their first byte -/
def joinNames : Command → List Bytes → List Bytes
  | .JOIN, p :: _ => ((split 44 p).map (·.drop 1)).filter (· != [])
  | _, _ => []

/-- the channel of a name in a PART, when the account is a member of it -/
def partTarget (a : AccId) (w : World) (name : Bytes) : Option ChanId :=
  if startsWithHash name then
    (Channel.get w (name.drop 1)).filter fun ch => (w.chan ch).m_members.contains a
  else none

/-- the channels of a PART that the connection's account is a member of -/
def partTargets (c : ConnId) (cmd : Command) (args : List Bytes) (w : World) :
    List (AccId × ChanId) :=
  match cmd, args, (w.conn c).m_account with
  | .PART, p :: _, some a => ((split 44 p).filterMap (partTarget a w)).map fun ch => (a, ch)
  | _, _, _ => []

/-- does a RENAME find its channel, and no channel of the new name -/
def renames (cmd : Command) (args : List Bytes) (w : World) : Bool :=
  match cmd, args with
  | .RENAME, p :: q :: _ =>
    (Channel.get w (withoutHash p)).isSome && (Channel.get w (withoutHash q)).isNone
  | _, _ => false

/-- the state in which a line tries to finish the setup -/
def finishWorld (env : Env) (c : ConnId) (cmd : Command) (args : List Bytes) (w : World) :
    Option World :=
  match cmd, args with
  | .NICK, n :: _ =>
    if isValidNick env n ∧ (w.conn c).setup_tasks.has .NICK then some (giveNick c n w) else none
  | .USER, u :: _ :: _ :: _ :: _ =>
    if u.length ≤ 16 ∧ (w.conn c).setup_tasks.has .USER then some (clearTask c .USER w) else none
  | .CAP, sub_cmd :: _ =>
    if sub_cmd = ascii "END" ∧ (w.conn c).setup_tasks.has .CAP_EXCHANGE then
      some (clearTask c .CAP_EXCHANGE w)
    else none
  | _, _ => none

/-- the account that a line registers its connection with, when that account is there already -/
def registeringAccount (env : Env) (c : ConnId) (cmd : Command) (args : List Bytes) (w : World) :
    Option AccId :=
  (finishWorld env c cmd args w).bind fun w' =>
    if (w'.conn c).is_ready = false ∧ (w'.conn c).setup_tasks.empty ∧
        (setupRefused env c w').isNone then
      (w'.conn c).m_account
    else none

/-- the steps that a command may take, and the states in which it takes them -/
def CommandSite (env : Env) (c : ConnId) (cmd : Command) (args : List Bytes) (w : World) :
    SiteLabel → Site → Prop
  | .sys (.conn d k), s => d = c ∧ lineLabel env c cmd args w k ∧ Near w s ∧ s.rooms = w.rooms ∧
      ∀ a, k = .registerOld a → registeringAccount env c cmd args w = some a
  | .create d n, s => d = c ∧ n ∈ joinNames cmd args ∧ Near w s
  | .join d a ch, s => d = c ∧ (w.conn c).is_ready = true ∧ (w.conn c).m_account = some a ∧
      (∃ n ∈ joinNames cmd args, s.rooms.index n = some ch ∧
        (w.rooms.index n = some ch ∨ w.rooms.nextChan ≤ ch)) ∧ Near w s
  | .part d a ch, s => d = c ∧ (a, ch) ∈ partTargets c cmd args w ∧ s = w.site
  | .rename d _ _, s => d = c ∧ renames cmd args w = true ∧ s = w.site
  | _, _ => False

/-- a chain of steps of the site, each of them as `G` says -/
def SiteEffect (G : SiteLabel → Site → Prop) (w w' : World) : Prop :=
  ∃ ls, Chain (fun l s s' => SiteStep l s s' ∧ G l s) ls w.site w'.site

section
variable {env : Env} {c : ConnId} {w w' : World} {G : SiteLabel → Site → Prop}

theorem SiteEffect.stay (hreg : w'.reg = w.reg) (hrooms : w'.rooms = w.rooms) : SiteEffect G w w' :=
  ⟨[], by unfold World.site; rw [hreg, hrooms]; exact .nil _⟩

theorem SiteEffect.one {l : SiteLabel} (h : SiteStep l w.site w'.site) (hG : G l w.site) :
    SiteEffect G w w' := ⟨[l], .one ⟨h, hG⟩⟩

theorem SiteEffect.trans {m : World} (h : SiteEffect G w m) (h' : SiteEffect G m w') :
    SiteEffect G w w' := by
  obtain ⟨ls, hls⟩ := h
  obtain ⟨ms, hms⟩ := h'
  exact ⟨ls ++ ms, hls.append hms⟩

theorem SiteEffect.mono {G' : SiteLabel → Site → Prop} (hG : ∀ l s, G l s → G' l s)
    (h : SiteEffect G w w') : SiteEffect G' w w' := by
  obtain ⟨ls, hls⟩ := h
  exact ⟨ls, hls.mono fun l s s' hs => ⟨hs.1, hG l s hs.2⟩⟩

/-- one step of the connection's machine that carries the rooms along -/
theorem SiteEffect.conn {l : Reg.Label} (hlive : (w.conn c).live = true)
    (hstep : Reg.Step c l w.reg w'.reg)
    (hrooms : w'.rooms = w.rooms.follow (.conn c l) w.reg w'.reg) (hG : G (.sys (.conn c l)) w.site) :
    SiteEffect G w w' := by
  refine .one ?_ hG
  unfold World.site
  rw [hrooms]
  exact .sys (.conn hlive hstep)

/-! ## finishing the setup -/

/-- the steps of an attempt to finish the setup -/
def FinishSite (env : Env) (c : ConnId) (w : World) : SiteLabel → Site → Prop
  | .sys (.conn d k), s => d = c ∧ finishLabel env c w k ∧ s = w.site ∧
      ∀ a, k = .registerOld a → w.reg.Finishing c ∧ setupRefused env c w = none
  | _, _ => False

/-- an account without channels has none to go back to -/
theorem rejoin_newAcc (t : Ties) (a : AccId) (R : Rooms) : (R.newAcc a).rejoin t a = R.newAcc a := by
  have hempty : (R.newAcc a).listed a = ∅ := if_pos rfl
  have hnone : ((R.newAcc a).listed a).values = [] := by
    refine List.eq_nil_iff_forall_not_mem.mpr fun v hv => ?_
    obtain ⟨k, hk⟩ := mem_values.mp hv
    rw [hempty] at hk
    simp at hk
  unfold Rooms.rejoin
  rw [hnone]
  rfl

theorem try_finalize_setup_site (hlive : (w.conn c).live = true) :
    Sat (fun _ => True) (SiteEffect (FinishSite env c w) w) (try_finalize_setup env c w) := by
  unfold try_finalize_setup
  dsimp only
  refine Sat.ite (fun _ => SiteEffect.stay rfl rfl) fun hguard => ?_
  have hfin : w.reg.Finishing c := by
    simp only [Bool.or_eq_true, Bool.not_eq_true', not_or, Bool.not_eq_true,
      Bool.not_eq_false] at hguard
    exact hguard
  rw [setupRefused_log]
  cases href : setupRefused env c w with
  | some reply =>
    have hreply := setupRefused_reply href (w.log (.finalize c))
    have hrooms : (reply (w.log (.finalize c))).rooms = w.rooms := by
      unfold setupRefused at href
      dsimp only at href
      split at href
      · cases href
        rfl
      · split at href
        · cases href
          rfl
        · cases href
    refine SiteEffect.conn (l := .refuse) hlive ?_ ?_
      ⟨rfl, by rw [finishLabel, href]; exact Option.some_ne_none reply, rfl, fun a h => by cases h⟩
    · rw [reg_forceDisconnect, hreply.1, reg_log_setup _ rfl]
      exact .refuse hfin
    · rw [rooms_forceDisconnect, hrooms]
      rfl
  | none =>
    have henrol := enrol_register (w := w.log (.finalize c)) (reg_log_setup w rfl)
    have hrooms := rooms_enrol (c := c) (w := w.log (.finalize c))
    refine (greet_sat.and greet_rooms).mono (fun _ _ => trivial) (fun _ h => h) |>.bind
      fun w1 h1 => ?_
    have hreg : (setReady c w1).reg =
        ((enrol c (w.log (.finalize c))).2.reg.updConn c fun k =>
          { k with is_ready := true }).log (.welcome c) := by
      rw [reg_setReady, h1.1]
      rfl
    have hties : (setReady c w1).reg.ties = (enrol c (w.log (.finalize c))).2.reg.ties := by
      rw [hreg]
      exact ties_updConn (r := (enrol c (w.log (.finalize c))).2.reg)
        (f := fun k => { k with is_ready := true }) rfl
    have hready : (setReady c w1).rooms = w1.rooms := w1.rooms_updConn ⟨rfl, rfl⟩
    rcases henrol with ⟨ha, hacc, hnew⟩ | ⟨hacc, hold⟩
    · refine SiteEffect.conn (l := .registerNew (w.conn c).m_nick) hlive ?_ ?_
        ⟨rfl, ⟨hfin, hacc, rfl, href⟩, rfl, fun a h => by cases h⟩
      · rw [hreg, hnew]
        exact .registerNew hfin hacc (setupRefused_none href hacc)
      · rw [hready, h1.2, hrooms, if_pos hacc, ha]
        exact rejoin_newAcc _ _ _
    · refine SiteEffect.conn (l := .registerOld (enrol c (w.log (.finalize c))).1) hlive ?_ ?_
        ⟨rfl, hacc, rfl, fun _ _ => ⟨hfin, href⟩⟩
      · rw [hreg, hold]
        exact .registerOld hfin hacc
      · rw [hready, h1.2, hrooms, if_neg (by rw [hacc]; exact Option.some_ne_none _), ← hties]
        rfl

/-! ## NICK, USER, CAP -/

/-- a connection changes in its setup only -/
theorem near_updConn {f : Conn → Conn}
    (hf : (f (w.conn c)).m_account = (w.conn c).m_account ∧ (f (w.conn c)).live = (w.conn c).live)
    (hrooms : (w.updConn c f).rooms = w.rooms) : Near w (w.updConn c f).site := by
  have hconn (d : ConnId) : ((w.updConn c f).conn d).m_account = (w.conn d).m_account ∧
      ((w.updConn c f).conn d).live = (w.conn d).live := by
    rw [updConn_conn]
    by_cases hd : d = c
    · rw [if_pos hd, hd]
      exact hf
    · rw [if_neg hd]
      exact ⟨rfl, rfl⟩
  refine ⟨rfl, fun d => (hconn d).1, fun d => (hconn d).2, rfl, ?_⟩
  show (w.updConn c f).rooms.pending = _
  rw [hrooms]

/-- the second half of a line that tries to finish the setup in the state `w1` -/
theorem site_of_finish {cmd : Command} {args : List Bytes} {w1 w2 : World} (hnear : Near w w1.site)
    (hrooms : w1.rooms = w.rooms) (hfinish : finishWorld env c cmd args w = some w2)
    (hreg : w1.reg = w2.reg) (hpass : (w1.conn c).m_passGiven = (w2.conn c).m_passGiven)
    (hlabel : ∀ k, finishLabel env c w1 k → lineLabel env c cmd args w k) :
    ∀ l s, FinishSite env c w1 l s → CommandSite env c cmd args w l s := by
  intro l s h
  match l, h with
  | .sys (.conn d k), ⟨hd, hk, hs, hold⟩ =>
    refine ⟨hd, hlabel k hk, hs ▸ hnear, by rw [hs]; exact hrooms, fun a ha => ?_⟩
    obtain ⟨hfin, href⟩ := hold a ha
    have hacc : (w1.conn c).m_account = some a := by
      rw [ha] at hk
      exact hk
    unfold registeringAccount
    rw [hfinish, Option.bind_some, if_pos]
    · exact (m_account_eq hreg c).symm.trans hacc
    · have hfin2 : w2.reg.Finishing c := hreg ▸ hfin
      refine ⟨hfin2.1, hfin2.2, ?_⟩
      rw [← setupRefused_congr hreg hpass, href]
      rfl

theorem handleNICK_site {args : List Bytes} (hlive : (w.conn c).live = true) :
    Sat (fun _ => True) (SiteEffect (CommandSite env c .NICK args w) w) (handleNICK env c args w) := by
  unfold handleNICK
  refine Sat.ite (fun _ => SiteEffect.stay rfl rfl) fun h => ?_
  refine ((sat_listAt (E := fun _ => True) (length_pos_of_ne h))).bind fun n hn => ?_
  refine Sat.ite (fun _ => SiteEffect.stay rfl rfl) fun hvalid => ?_
  have hvalid : isValidNick env n = true := by simpa using hvalid
  refine Sat.ite (fun _ => SiteEffect.stay rfl rfl) fun hfree => ?_
  refine Sat.ite (fun htask => ?_) fun htask => Sat.ite (fun _ => SiteEffect.stay rfl rfl)
    fun hempty => ?_
  · unfold setNick
    by_cases hnick : (w.conn c).m_nick = []
    · rw [if_neg (not_not.mpr hnick)]
      show Sat _ _ (try_finalize_setup env c (giveNick c n w))
      have hgiven : NickGiven env c args n w := ⟨hn, hvalid, htask⟩
      have hrooms : (giveNick c n w).rooms = w.rooms := by
        unfold giveNick
        rw [rooms_clearTask]
        exact w.rooms_updConn ⟨rfl, rfl⟩
      have hconn (d : ConnId) : ((giveNick c n w).conn d).m_account = (w.conn d).m_account ∧
          ((giveNick c n w).conn d).live = (w.conn d).live := by
        unfold giveNick clearTask
        rw [updConn_conn, updConn_conn, updConn_conn, if_pos rfl]
        by_cases hd : d = c
        · rw [if_pos hd, hd]
          exact ⟨rfl, rfl⟩
        · rw [if_neg hd, if_neg hd]
          exact ⟨rfl, rfl⟩
      have hnear : Near w (giveNick c n w).site :=
        ⟨rfl, fun d => (hconn d).1, fun d => (hconn d).2, rfl, congrArg Rooms.pending hrooms⟩
      have hfinish : finishWorld env c .NICK args w = some (giveNick c n w) := by
        cases args with
        | nil => exact absurd rfl h
        | cons m rest =>
          cases hn
          exact if_pos ⟨hvalid, htask⟩
      refine (try_finalize_setup_site ((hconn c).2.trans hlive)).mono (fun _ he => he)
        fun w' hw' => ?_
      refine SiteEffect.trans (m := giveNick c n w) ?_ (hw'.mono (site_of_finish hnear hrooms
        hfinish rfl rfl fun k hk => nickLabel_of_finish hgiven hk))
      refine SiteEffect.conn (l := .giveNick n) hlive ?_ hrooms
        ⟨rfl, hgiven, .refl w, rfl, fun a ha => by cases ha⟩
      rw [reg_giveNick]
      exact .giveNick (isValidNick_ne_nil hvalid) htask hnick
    · rw [if_pos hnick]
      exact trivial
  · have hempty : (w.conn c).setup_tasks.empty = true := by simpa using hempty
    have hrooms : Sat (fun _ => True) (fun w' => w'.rooms = w.rooms) (changeOwnNick env c n w) := by
      unfold changeOwnNick
      refine Sat.ite (fun _ => rfl) fun _ => Sat.bind_any fun a => ?_
      refine Account.setNick_rooms.bind fun r hr => ?_
      show World.rooms (if r.1 then r.2 else reply_num env c 433 n r.2) = w.rooms
      split <;> exact hr
    refine ((changeOwnNick_sat hn hvalid hfree hempty).and hrooms).mono (fun _ _ => trivial)
      fun w' h' => ?_
    obtain ⟨⟨-, hreg | ⟨l, hl, hstep⟩⟩, hrooms⟩ := h'
    · exact .stay hreg hrooms
    · -- the setup is done, so the step is no step of it
      have hno : ∀ m, ¬ NickGiven env c args m w := fun m hm => htask hm.2.2
      cases l with
      | rename a self old new =>
        exact .conn hlive hstep hrooms ⟨rfl, hl, .refl w, rfl, fun a ha => by cases ha⟩
      | giveNick m => exact absurd hl (hno m)
      | _ => exact absurd hl.choose_spec.1 (hno _)

theorem handleUSER_site {args : List Bytes} (hlive : (w.conn c).live = true) :
    Sat (fun _ => True) (SiteEffect (CommandSite env c .USER args w) w) (handleUSER env c args w) := by
  unfold handleUSER
  refine Sat.ite (fun _ => SiteEffect.stay rfl rfl) fun htask => ?_
  have htask : (w.conn c).setup_tasks.has .USER = true := by simpa using htask
  refine Sat.ite (fun _ => SiteEffect.stay rfl rfl) fun hlen => ?_
  refine (sat_listAt (E := fun _ => True) (by omega)).bind fun u hu => ?_
  refine (sat_listAt (E := fun _ => True) (by omega)).bind fun rn _ => ?_
  dsimp only
  have hreg1 : (w.updConn c fun k => { k with user := u, realname := rn }).reg = w.reg :=
    w.reg_updConn rfl
  have hrooms1 : (w.updConn c fun k => { k with user := u, realname := rn }).rooms = w.rooms :=
    w.rooms_updConn ⟨rfl, rfl⟩
  refine Sat.ite (fun _ => SiteEffect.stay ?_ ?_) fun hshort => ?_
  · rw [reg_forceDisconnect, reg_reply_num, hreg1]
  · rw [rooms_forceDisconnect, rooms_reply_num, hrooms1]
  · have hgiven : UserGiven c args w := ⟨by omega, ⟨u, hu, by omega⟩, htask⟩
    suffices hall : ∀ w2, w2 = clearTask c .USER ((w.updConn c fun k =>
        { k with user := u, realname := rn }).updConn c fun k =>
          { k with user_already_exists :=
              k.user_already_exists || Ctx.account_username_exists w u }) →
        Sat (fun _ => True) (SiteEffect (CommandSite env c .USER args w) w)
          (try_finalize_setup env c w2) from hall _ rfl
    intro w2 hw2
    have hreg2 : w2.reg = (clearTask c .USER w).reg := by
      rw [hw2, reg_clearTask, World.reg_updConn _ rfl, hreg1, reg_clearTask]
    have hrooms2 : w2.rooms = w.rooms := by
      rw [hw2, rooms_clearTask, World.rooms_updConn _ ⟨rfl, rfl⟩, hrooms1]
    have hnear : Near w w2.site := by
      have hclear : Near w (clearTask c .USER w).site :=
        near_updConn ⟨rfl, rfl⟩ (rooms_clearTask _)
      unfold World.site at hclear ⊢
      rw [hreg2, hrooms2, ← rooms_clearTask (c := c) (w := w) .USER]
      exact hclear
    have hlive2 : (w2.conn c).live = true := (hnear.live c).trans hlive
    have hpass : (w2.conn c).m_passGiven = ((clearTask c .USER w).conn c).m_passGiven := by
      rw [hw2]
      simp [clearTask]
    have hfinish : finishWorld env c .USER args w = some (clearTask c .USER w) := by
      obtain ⟨v, x, y, z, rest, rfl⟩ : ∃ v x y z rest, args = v :: x :: y :: z :: rest := by
        rcases args with _ | ⟨v, _ | ⟨x, _ | ⟨y, _ | ⟨z, rest⟩⟩⟩⟩
        case cons.cons.cons.cons => exact ⟨v, x, y, z, rest, rfl⟩
        all_goals exact absurd (by simp) hlen
      cases hu
      exact if_pos ⟨by omega, htask⟩
    refine (try_finalize_setup_site hlive2).mono (fun _ he => he) fun w' hw' => ?_
    refine SiteEffect.trans (m := w2) ?_ (hw'.mono (site_of_finish hnear hrooms2 hfinish hreg2
      hpass fun k hk => userLabel_of_finish hgiven (finishLabel_congr hreg2 hpass hk)))
    refine SiteEffect.conn (l := .clear .USER) hlive ?_ hrooms2
      ⟨rfl, ⟨rfl, hgiven⟩, .refl w, rfl, fun a ha => by cases ha⟩
    rw [hreg2, reg_clearTask]
    exact .clear (by decide) htask

theorem handleCAP_site {args : List Bytes} (hlive : (w.conn c).live = true) :
    Sat (fun _ => True) (SiteEffect (CommandSite env c .CAP args w) w) (handleCAP env c args w) := by
  unfold handleCAP
  refine Sat.ite (fun htask => ?_) fun _ => SiteEffect.stay rfl rfl
  cases args with
  | nil => exact trivial
  | cons sub_cmd rest =>
    show Sat _ _ (if sub_cmd = ascii "LS" then _ else _)
    refine Sat.ite (fun _ => Sat.ite (fun _ => ?_) fun _ => ?_) fun _ => Sat.ite (fun _ => ?_) fun _ =>
      Sat.ite (fun _ => ?_) fun _ => Sat.ite (fun hend => ?_) fun _ => SiteEffect.stay rfl rfl
    · exact Sat.bind_any fun v => SiteEffect.stay (reg_capLS _) (rooms_capLS _)
    · exact SiteEffect.stay (reg_capLS _) (rooms_capLS _)
    · exact Sat.ite (fun _ => SiteEffect.stay rfl rfl) fun _ =>
        Sat.bind_any fun l => SiteEffect.stay (reg_capREQ l) (rooms_capREQ l)
    · exact SiteEffect.stay rfl rfl
    · have hended : CapEnded c (sub_cmd :: rest) w := ⟨by rw [hend]; rfl, htask⟩
      have hrooms := rooms_clearTask (c := c) (w := w) .CAP_EXCHANGE
      have hnear : Near w (clearTask c .CAP_EXCHANGE w).site := near_updConn ⟨rfl, rfl⟩ hrooms
      have hfinish : finishWorld env c .CAP (sub_cmd :: rest) w =
          some (clearTask c .CAP_EXCHANGE w) := if_pos ⟨hend, htask⟩
      refine (try_finalize_setup_site ((hnear.live c).trans hlive)).mono (fun _ he => he)
        fun w' hw' => ?_
      refine SiteEffect.trans (m := clearTask c .CAP_EXCHANGE w) ?_ (hw'.mono (site_of_finish hnear
        hrooms hfinish rfl rfl fun k hk => capLabel_of_finish hended hk))
      refine SiteEffect.conn (l := .clear .CAP_EXCHANGE) hlive ?_ hrooms
        ⟨rfl, ⟨rfl, hended⟩, .refl w, rfl, fun a ha => by cases ha⟩
      rw [reg_clearTask]
      exact .clear (by decide) htask

theorem handleAUTHENTICATE_site {args : List Bytes} (hlive : (w.conn c).live = true) :
    Sat (fun _ => True) (SiteEffect (CommandSite env c .AUTHENTICATE args w) w)
      (handleAUTHENTICATE env c args w) := by
  refine ((handleAUTHENTICATE_one (E := fun _ => True)).and handleAUTHENTICATE_rooms).mono
    (fun _ _ => trivial) fun w' h' => ?_
  obtain ⟨⟨-, hreg | ⟨l, hl, hstep⟩⟩, hrooms⟩ := h'
  · exact .stay hreg hrooms
  · have hlabel : lineLabel env c .AUTHENTICATE args w l := hl
    cases l with
    | login a => exact .conn hlive hstep hrooms ⟨rfl, hlabel, .refl w, rfl, fun a ha => by cases ha⟩
    | relogin a => exact .conn hlive hstep hrooms ⟨rfl, hlabel, .refl w, rfl, fun a ha => by cases ha⟩
    | merge a b => exact .conn hlive hstep hrooms ⟨rfl, hlabel, .refl w, rfl, fun a ha => by cases ha⟩
    | _ => cases hl

/-! ## JOIN, PART, RENAME -/

/-- one name of a JOIN -/
theorem joinOne_site {cmd : Command} {args : List Bytes} {name : Bytes} {w1 : World}
    (hready : (w.conn c).is_ready = true)
    (hname : name.drop 1 ≠ [] → name.drop 1 ∈ joinNames cmd args) (hreg : w1.reg = w.reg)
    (hpending : w1.rooms.pending = w.rooms.pending)
    (hindex : ∀ n ch, w1.rooms.index n = some ch → w.rooms.index n = some ch ∨ w.rooms.nextChan ≤ ch)
    (hnext : w.rooms.nextChan ≤ w1.rooms.nextChan) :
    Sat (fun _ => True) (fun w' => SiteEffect (CommandSite env c cmd args w) w1 w' ∧
      w'.reg = w.reg ∧ w'.rooms.pending = w.rooms.pending ∧
      (∀ n ch, w'.rooms.index n = some ch → w.rooms.index n = some ch ∨ w.rooms.nextChan ≤ ch) ∧
      w.rooms.nextChan ≤ w'.rooms.nextChan) (joinOne env c w1 name) := by
  have hnear {w2 : World} (hreg2 : w2.reg = w.reg) (hp : w2.rooms.pending = w.rooms.pending) :
      Near w w2.site := by
    have h := Near.refl w
    refine ⟨?_, fun d => ?_, fun d => ?_, ?_, hp⟩
    · exact congrArg Reg.acc hreg2
    · exact m_account_eq hreg2 d
    · exact congrArg ConnReg.live (reg_conn_eq hreg2 d)
    · exact congrArg Reg.accounts hreg2
  unfold joinOne
  dsimp only
  refine Sat.ite (fun _ => ⟨.stay rfl rfl, hreg, hpending, hindex, hnext⟩) fun hne => ?_
  -- the channel is there after `get_or_create`
  obtain ⟨ch, w2, hget, hch, heff, hreg2, hp2, hindex2, hnext2⟩ : ∃ ch w2,
      Channel.get_or_create (name.drop 1) w1 = (ch, w2) ∧ w2.rooms.index (name.drop 1) = some ch ∧
      SiteEffect (CommandSite env c cmd args w) w1 w2 ∧ w2.reg = w.reg ∧
      w2.rooms.pending = w.rooms.pending ∧
      (∀ n ch, w2.rooms.index n = some ch → w.rooms.index n = some ch ∨ w.rooms.nextChan ≤ ch) ∧
      w.rooms.nextChan ≤ w2.rooms.nextChan := by
    rcases Channel.get_or_create_rooms (name.drop 1) w1 with ⟨ch, hch, he⟩ | ⟨hnone, w2, he, hr, hg⟩
    · exact ⟨ch, w1, he, hch, .stay rfl rfl, hreg, hpending, hindex, hnext⟩
    · refine ⟨w1.nextChan, w2, he, ?_, ?_, hg.trans hreg, ?_, fun n ch hn => ?_, ?_⟩
      · rw [hr]
        exact if_pos rfl
      · refine .one (l := .create c (name.drop 1)) ?_ ⟨rfl, hname hne, hnear hreg hpending⟩
        unfold World.site
        rw [hr, hg]
        exact .create hnone
      · rw [hr]
        exact hpending
      · rw [hr] at hn
        replace hn : (if n = name.drop 1 then some w1.nextChan else w1.rooms.index n) = some ch := hn
        split at hn
        · cases hn
          exact Or.inr hnext
        · exact hindex n ch hn
      · rw [hr]
        exact Nat.le_succ_of_le hnext
  rw [hget]
  dsimp only
  have hjoin := @Channel.join_sat env ch
    { account := (w1.conn c).m_account, channel := some ch } w2
  have hrooms := @Channel.join_rooms env ch
    { account := (w1.conn c).m_account, channel := some ch } w2 rfl
  refine (hjoin.and hrooms).mono (fun _ _ => trivial) fun w3 h3 => ?_
  obtain ⟨hreg3, ⟨hsame, -⟩ | ⟨a, ha, h3⟩⟩ := h3
  · refine ⟨heff.trans (.stay hreg3 hsame), hreg3.trans hreg2, ?_, ?_, ?_⟩
    · rw [hsame]
      exact hp2
    · rw [hsame]
      exact hindex2
    · rw [hsame]
      exact hnext2
  · have hacc : (w.conn c).m_account = some a := by
      rw [← m_account_eq hreg c]
      exact ha
    have hp3 : w3.rooms.pending = w.rooms.pending := by
      rw [h3, Rooms.join_pending]
      exact hp2
    refine ⟨heff.trans (.one (l := .join c a ch) ?_ ?_), hreg3.trans hreg2, hp3, ?_, ?_⟩
    · unfold World.site
      rw [h3, hreg3]
      refine .join ?_ ⟨name.drop 1, hch⟩
      show (w2.conn c).m_account = some a
      rw [m_account_eq hreg2 c]
      exact hacc
    · exact ⟨rfl, hready, hacc, ⟨name.drop 1, hname hne, hch, hindex2 _ _ hch⟩, hnear hreg2 hp2⟩
    · rw [h3, Rooms.join_index]
      exact hindex2
    · rw [h3, Rooms.join_toHalls, Halls.addMember_nextChan]
      exact hnext2

theorem dispatchJOIN_site {args : List Bytes} (hready : (w.conn c).is_ready = true) :
    Sat (fun _ => True) (SiteEffect (CommandSite env c .JOIN args w) w) (dispatchJOIN env c args w) := by
  unfold dispatchJOIN
  refine Sat.bind_any fun p => Sat.ite (fun _ => SiteEffect.stay rfl rfl) fun _ => ?_
  unfold handleJOIN
  refine Sat.ite (fun _ => SiteEffect.stay rfl rfl) fun h => ?_
  refine (sat_listAt (E := fun _ => True) (length_pos_of_ne h)).bind fun chans hchans => ?_
  have hnames (name : Bytes) (hmem : name ∈ split 44 chans) (hne : name.drop 1 ≠ []) :
      name.drop 1 ∈ joinNames .JOIN args := by
    cases args with
    | nil => cases hchans
    | cons q rest =>
      cases hchans
      exact List.mem_filter.mpr ⟨List.mem_map_of_mem hmem, by simpa using hne⟩
  have hloop := Sat.foldlM (E := fun _ => True) (l := split 44 chans) (f := joinOne env c) (b := w)
    (I := fun w' => SiteEffect (CommandSite env c .JOIN args w) w w' ∧
      w'.reg = w.reg ∧ w'.rooms.pending = w.rooms.pending ∧
      (∀ n ch, w'.rooms.index n = some ch → w.rooms.index n = some ch ∨ w.rooms.nextChan ≤ ch) ∧
      w.rooms.nextChan ≤ w'.rooms.nextChan)
    ⟨.stay rfl rfl, rfl, rfl, fun _ _ => Or.inl, Nat.le_refl _⟩
    fun w1 name hmem h1 => (joinOne_site hready (hnames name hmem) h1.2.1 h1.2.2.1 h1.2.2.2.1
      h1.2.2.2.2).mono (fun _ he => he) fun w2 h2 => ⟨h1.1.trans h2.1, h2.2⟩
  exact hloop.mono (fun _ he => he) fun _ h' => h'.1

/-- the loop of a PART stops at the first channel that was left -/
theorem partLoop_site {args : List Bytes} {p _nick message : Bytes} (hp : args[0]? = some p)
    {names : List Bytes} (hnames : ∀ n ∈ names, n ∈ split 44 p) {w1 : World} (hreg : w1.reg = w.reg)
    (hrooms : w1.rooms = w.rooms) :
    SiteEffect (CommandSite env c .PART args w) w (partLoop env c _nick message names w1) := by
  induction names generalizing w1 with
  | nil => exact .stay hreg hrooms
  | cons name names ih =>
    have hrest {w2 : World} (h2 : w2.reg = w.reg) (h2' : w2.rooms = w.rooms) :=
      ih (fun n hn => hnames n (List.mem_cons_of_mem _ hn)) h2 h2'
    unfold partLoop
    split
    · next hhash =>
      dsimp only
      split
      · exact hrest hreg hrooms
      · next ch hch =>
        have hpreg := Channel.reg_part ch
          { channel := ch, account := (w1.conn c).m_account, message := message } w1
        have hprooms := Channel.part_rooms ch
          { channel := ch, account := (w1.conn c).m_account, message := message } w1 rfl
        split
        · next w2 he =>
          rw [he] at hpreg hprooms
          rcases hprooms with ⟨hfalse, -⟩ | ⟨a, ha, hmem, -, hr⟩
          · cases hfalse
          · have hacc : (w.conn c).m_account = some a := by
              rw [← m_account_eq hreg c]
              exact ha
            have hget : Channel.get w (name.drop 1) = some ch := by
              rw [Channel.rooms_get, ← hrooms]
              exact hch
            have hmem : a ∈ w.rooms.members ch := hrooms ▸ hmem
            refine .one (l := .part c a ch) ?_ ⟨rfl, ?_, rfl⟩
            · unfold World.site
              rw [hpreg, hr, hreg, hrooms]
              exact .part hacc ⟨_, hget⟩ hmem
            · cases args with
              | nil => cases hp
              | cons q rest =>
                cases hp
                unfold partTargets
                rw [hacc]
                refine List.mem_map_of_mem
                  (List.mem_filterMap.mpr ⟨name, hnames name List.mem_cons_self, ?_⟩)
                have hin : (w.chan ch).m_members.contains a = true := List.contains_iff_mem.mpr hmem
                unfold partTarget
                rw [if_pos hhash, hget, Option.filter_some, if_pos hin]
        · next w2 he =>
          rw [he] at hpreg hprooms
          rcases hprooms with ⟨-, hsame⟩ | ⟨a, -, -, htrue, -⟩
          · exact hrest (hpreg.trans hreg) (hsame.trans hrooms)
          · cases htrue
    · exact hrest hreg hrooms

theorem handlePART_site {args : List Bytes} :
    Sat (fun _ => True) (SiteEffect (CommandSite env c .PART args w) w) (handlePART env c args w) := by
  unfold handlePART
  refine Sat.ite (fun _ => SiteEffect.stay rfl rfl) fun h => ?_
  refine (sat_listAt (E := fun _ => True) (length_pos_of_ne h)).bind fun chans hchans => ?_
  exact Sat.bind_any fun message => partLoop_site hchans (fun _ hn => hn) rfl rfl

theorem handleRENAME_site {args : List Bytes} :
    Sat (fun _ => True) (SiteEffect (CommandSite env c .RENAME args w) w)
      (handleRENAME c args w) := by
  unfold handleRENAME
  refine Sat.ite (fun _ => SiteEffect.stay rfl rfl) fun h => ?_
  obtain ⟨p, q, rest, rfl⟩ : ∃ p q rest, args = p :: q :: rest := by
    cases args with
    | nil => exact absurd (Or.inl rfl) h
    | cons p l =>
      cases l with
      | nil => exact absurd (Or.inr (Nat.le_refl 1)) h
      | cons q rest => exact ⟨p, q, rest, rfl⟩
  have hfirst : Sat (fun _ => True) (fun n => n = withoutHash p)
      ((listAt (p :: q :: rest) 0).map withoutHash) := rfl
  have hsecond : Sat (fun _ => True) (fun n => n = withoutHash q)
      ((listAt (p :: q :: rest) 1).map withoutHash) := rfl
  refine hfirst.bind fun from_channel hp => hsecond.bind fun to_channel hq => ?_
  subst hp hq
  · dsimp only
    split
    · exact SiteEffect.stay rfl rfl
    · exact SiteEffect.stay rfl rfl
    · next channel_from hfrom hto =>
      refine Sat.bind_any fun message => ?_
      have hreg := Channel.reg_rename
        { old_name := withoutHash p, new_name := withoutHash q, account := (w.conn c).m_account
          message := message, channel := channel_from } w
      rcases Channel.rename_rooms
        { old_name := withoutHash p, new_name := withoutHash q, account := (w.conn c).m_account
          message := message, channel := channel_from } w with hr | ⟨ch, n, hr⟩
      · exact SiteEffect.stay hreg hr
      · refine SiteEffect.one (l := .rename c ch n) ?_ ⟨rfl, ?_, rfl⟩
        · unfold World.site
          rw [hr, hreg]
          exact .rename
        · show ((Channel.get w (withoutHash p)).isSome &&
            (Channel.get w (withoutHash q)).isNone) = true
          rw [hfrom, hto]
          rfl

/-! ## a line -/

/-- a handler that changes neither view -/
theorem quiet_site {E : Fault → Prop} {r : Except Fault World}
    (hreg : Sat E (fun w' => w'.reg = w.reg) r)
    (hrooms : Sat (fun _ => True) (fun w' => w'.rooms = w.rooms) r) :
    Sat (fun _ => True) (SiteEffect G w) r :=
  (hreg.and hrooms).mono (fun _ _ => trivial) fun _ h => .stay h.1 h.2

/-- **One command.**  Its handler moves the site by the steps that the command may take. -/
theorem handle_site {tags : QMap QString QVariant} {cmd : Command} {args : List Bytes}
    (hgate : cmd.early = true ∨ (w.conn c).is_ready = true) (hlive : (w.conn c).live = true) :
    Sat (fun _ => True) (SiteEffect (CommandSite env c cmd args w) w)
      (handle env c tags cmd args w) := by
  cases cmd with
  | PASS =>
    exact quiet_site ((handlePASS_sat (E := fun _ => True)).mono (fun _ he => he) fun _ h => h.1)
      handlePASS_rooms
  | NICK => exact handleNICK_site hlive
  | USER => exact handleUSER_site hlive
  | PING =>
    exact quiet_site ((handlePING_sat (E := fun _ => True)).mono (fun _ he => he) fun _ h => h.1)
      handlePING_rooms
  | PONG => exact SiteEffect.stay rfl rfl
  | JOIN =>
    rcases hgate with h | h
    · cases h
    · exact dispatchJOIN_site h
  | PART => exact handlePART_site
  | PRIVMSG => exact quiet_site handlePRIVMSG_sat handlePRIVMSG_rooms
  | TAGMSG => exact quiet_site handleTAGMSG_sat handleTAGMSG_rooms
  | QUIT => exact SiteEffect.stay (reg_forceDisconnect c w) (rooms_forceDisconnect c w)
  | NAMES => exact SiteEffect.stay rfl rfl
  | CHATHISTORY => exact quiet_site (handleCHATHISTORY_sat (E := fun _ => True)) handleCHATHISTORY_rooms
  | RENAME => exact handleRENAME_site
  | METADATA => exact quiet_site handleMETADATA_sat handleMETADATA_rooms
  | TOPIC => exact SiteEffect.stay rfl rfl
  | LUSERS => exact SiteEffect.stay rfl rfl
  | MOTD => exact SiteEffect.stay reg_handleMOTD rooms_handleMOTD
  | WHO => exact quiet_site (handleWHO_sat (E := fun _ => True)) handleWHO_rooms
  | AUTHENTICATE => exact handleAUTHENTICATE_site hlive
  | CAP => exact handleCAP_site hlive
  | MODE => exact quiet_site (handleMODE_sat (E := fun _ => True)) handleMODE_rooms

theorem rooms_handlerWorld (line : Bytes) : (handlerWorld c line w).rooms = w.rooms := by
  have hraw : (rawHook c line w).2.rooms = w.rooms := by
    unfold rawHook
    split
    · have h := w.rooms_event .RAW_MSG ({ raw := line, ip := (w.conn c).ip } : QEventRawMessage)
      split <;> next he => rw [he] at h; exact h
    · rfl
  have hverify (line : Bytes) (w : World) : (verifyTags c line w).rooms = w.rooms := by
    unfold verifyTags
    split <;> rfl
  unfold handlerWorld
  split <;> next he => rw [he] at hraw; first | exact hraw | exact (hverify _ _).trans hraw

theorem site_handlerWorld (line : Bytes) : (handlerWorld c line w).site = w.site := by
  unfold World.site
  rw [reg_handlerWorld, rooms_handlerWorld]

/-- the steps that a line may take -/
def LineSite (env : Env) (c : ConnId) (line : Bytes) (w : World) (l : SiteLabel) (s : Site) : Prop :=
  ∃ cmd args, lineCommand c line w = some (cmd, args) ∧
    CommandSite env c cmd args (handlerWorld c line w) l s

theorem parseIncoming_site {line : Bytes} (hlive : (w.conn c).live = true) :
    Sat (fun _ => True) (SiteEffect (LineSite env c line w) w) (parseIncoming env c line w) := by
  rw [parseIncoming_eq]
  have hreg := reg_handlerWorld (c := c) (w := w) line
  have hrooms := rooms_handlerWorld (c := c) (w := w) line
  have hconn := conn_handlerWorld (c := c) (w := w) line
  cases hcmd : lineCommand c line w with
  | none => exact SiteEffect.stay hreg hrooms
  | some p =>
    obtain ⟨cmd, args⟩ := p
    have hgate := lineCommand_gate hcmd
    rw [← hconn] at hgate hlive
    refine (handle_site hgate hlive).mono (fun _ he => he) fun w' h => ?_
    exact (SiteEffect.stay hreg hrooms).trans (h.mono fun l s hs => ⟨cmd, args, hcmd, hs⟩)

end

end client_connection

/-! ## an event -/

namespace Worker
open World client_connection

/-- the next call of the connection is a `channel_part` -/
def partNext (c : ConnId) (w : World) : Option QEventChannelPart :=
  match w.queue.find? fun p => p.1 == c with
  | some (_, .channel_part ev) => some ev
  | _ => none

/-- the steps that an event may take, and the states in which it takes them -/
def Allowed (env : Env) (w : World) : Event → SiteLabel → Site → Prop
  | .connect _ _, .sys .connect, s => s = w.site
  | .line c line, l, s => (w.conn c).live = true ∧ LineSite env c line w l s
  | .deliver c, .deliver d, s => d = c ∧ s = w.site ∧ (partNext c w).isSome
  | .disconnect c, .sys (.disconnect d), s => d = c ∧ s = w.site
  | _, _, _ => False

/-- a test of the command that a line is handled as -/
def onCommand (p : ConnId → Command → List Bytes → World → Bool) (w : World) : Event → Bool
  | .line c line => (w.conn c).live &&
    (lineCommand c line w).any fun q => p c q.1 q.2 (handlerWorld c line w)
  | _ => false

section
variable {env : Env} {w w' : World}

theorem Allowed.command {p : ConnId → Command → List Bytes → World → Bool} {c : ConnId}
    {line : Bytes} {l : SiteLabel} {s : Site} (h : Allowed env w (.line c line) l s)
    (hp : onCommand p w (.line c line) = false) : ∃ cmd args,
      p c cmd args (handlerWorld c line w) = false ∧
        CommandSite env c cmd args (handlerWorld c line w) l s := by
  obtain ⟨hlive, cmd, args, hcmd, hsite⟩ := h
  refine ⟨cmd, args, ?_, hsite⟩
  replace hp : ((w.conn c).live &&
    (lineCommand c line w).any fun q => p c q.1 q.2 (handlerWorld c line w)) = false := hp
  rw [hlive, hcmd] at hp
  exact hp

/-- calls that are posted to other connections -/
theorem parts_of_others {c : ConnId} {q : List (ConnId × QueuedCall)} (hq : ∀ p ∈ q, p.1 ≠ c) :
    q.filterMap (partFor c) = [] := by
  refine List.filterMap_eq_nil_iff.mpr fun p hp => ?_
  have hne := hq p hp
  obtain ⟨d, call⟩ := p
  cases call with
  | channel_part ev => exact if_neg hne
  | _ => rfl

/-- the next call, when it is a part, is the first part that waits -/
theorem partNext_pending {c : ConnId} {ev : QEventChannelPart} {a : AccId}
    (hnext : partNext c w = some ev) (ha : ev.account = some a) :
    ∃ l, w.rooms.pending c = (ev.channel, a) :: l := by
  unfold partNext at hnext
  split at hnext
  · next d ev' hfirst =>
    cases hnext
    have hd : d = c := by simpa using List.find?_some hfirst
    subst hd
    obtain ⟨-, l, m, hq, hl⟩ := List.find?_eq_some_iff_append.mp hfirst
    have hnone : l.filterMap (partFor d) = [] := parts_of_others fun p hp => by simpa using hl p hp
    have hpart : partFor d (d, .channel_part ev) = some (ev.channel, a) := by
      show (if d = d then ev.account.map fun a => (ev.channel, a) else none) = _
      rw [if_pos rfl, ha]
      rfl
    refine ⟨m.filterMap (partFor d), ?_⟩
    show w.queue.filterMap (partFor d) = _
    rw [hq, List.filterMap_append, hnone, List.filterMap_cons, hpart]
    rfl
  · cases hnext

/-- the calls of `channel_part` to a connection, after the event loop has taken its next call -/
theorem pending_erase {c : ConnId} {q : List (ConnId × QueuedCall)} {d : ConnId} {call : QueuedCall}
    (hfirst : q.find? (fun p => p.1 == c) = some (d, call)) (x : ConnId) :
    (q.eraseP fun p => p.1 == c).filterMap (partFor x) =
      if x = c ∧ (partFor c (d, call)).isSome then (q.filterMap (partFor c)).tail
      else q.filterMap (partFor x) := by
  have hd : d = c := by simpa using List.find?_some hfirst
  subst hd
  obtain ⟨-, l, m, rfl, hl⟩ := List.find?_eq_some_iff_append.mp hfirst
  have herase : ((l ++ (d, call) :: m).eraseP fun p => p.1 == d) = l ++ m := by
    rw [List.eraseP_append_right _ fun p hp => by simpa using hl p hp]
    rw [List.eraseP_cons_of_pos (by simp)]
  have hnone : l.filterMap (partFor d) = [] := parts_of_others fun p hp => by simpa using hl p hp
  rw [herase]
  simp only [List.filterMap_append, List.filterMap_cons]
  by_cases hx : x = d
  · subst hx
    cases hp : partFor x (x, call) with
    | none => simp
    | some y => simp [hnone]
  · have hother : partFor x (d, call) = none := by
      cases call with
      | channel_part ev => exact if_neg (Ne.symm hx)
      | _ => rfl
    rw [hother, if_neg fun h => hx h.1]

/-- the next call of a connection is run, or lost with the connection -/
theorem deliver_site {c : ConnId} (h : deliver c w = .ok w') :
    SiteEffect (Allowed env w (.deliver c)) w w' := by
  unfold deliver at h
  split at h
  · cases h
    exact .stay rfl rfl
  · next d call hfirst =>
    dsimp only at h
    have hd : d = c := by simpa using List.find?_some hfirst
    subst hd
    obtain ⟨w1, hw1⟩ : ∃ w1, w1 = { w with queue := w.queue.eraseP fun p => p.1 == d } := ⟨_, rfl⟩
    have h : (if (w1.conn d).live then queuedCall d call w1 else .ok w1) = .ok w' := by
      subst hw1
      exact h
    have hreg1 : w1.reg = w.reg := by rw [hw1]; rfl
    have hlive1 : (w1.conn d).live = (w.conn d).live := by rw [hw1]
    have hrooms1 : w1.rooms =
        if (partFor d (d, call)).isSome then w.rooms.take d else w.rooms := by
      have herase := pending_erase hfirst
      rw [hw1]
      by_cases hpart : (partFor d (d, call)).isSome = true
      · rw [if_pos hpart]
        ext1
        case pending =>
          funext x
          refine (herase x).trans ?_
          show _ = if x = d then (w.rooms.pending d).tail else w.rooms.pending x
          by_cases hx : x = d
          · rw [if_pos ⟨hx, hpart⟩, if_pos hx]
            rfl
          · rw [if_neg fun hc => hx hc.1, if_neg hx]
            rfl
        all_goals rfl
      · rw [if_neg hpart]
        ext1
        case pending =>
          funext x
          refine (herase x).trans ?_
          rw [if_neg fun hc => hpart hc.2]
          rfl
        all_goals rfl
    cases call with
    | channel_part ev =>
      have hpart : partFor d (d, .channel_part ev) = ev.account.map fun a => (ev.channel, a) :=
        if_pos rfl
      rw [hpart] at hrooms1
      cases hacc : ev.account with
      | none =>
        rw [hacc] at hrooms1
        by_cases hlive : (w1.conn d).live = true
        · rw [if_pos hlive] at h
          have h : channel_part d ev w1 = .ok w' := h
          unfold channel_part at h
          rw [hacc] at h
          cases h
        · rw [if_neg hlive] at h
          cases h
          exact .stay hreg1 hrooms1
      | some a =>
        rw [hacc] at hrooms1
        replace hrooms1 : w1.rooms = w.rooms.take d := hrooms1
        have hnext : partNext d w = some ev := by
          unfold partNext
          rw [hfirst]
        obtain ⟨l, hpending⟩ := partNext_pending hnext hacc
        refine .one (l := .deliver d) ?_ ⟨rfl, rfl, by rw [hnext]; rfl⟩
        unfold World.site
        by_cases hlive : (w1.conn d).live = true
        · rw [if_pos hlive] at h
          have hreg' : w'.reg = w1.reg := channel_part_sat.of_ok h
          have hrooms' := (channel_part_rooms hacc).of_ok h
          rw [hrooms', hreg', hrooms1, hreg1]
          exact .deliver hpending (hlive1.symm.trans hlive)
        · rw [if_neg hlive] at h
          cases h
          rw [hrooms1, hreg1]
          exact .lose hpending (hlive1.symm.trans (Bool.not_eq_true _ ▸ hlive))
    | change_nick ev =>
      replace hrooms1 : w1.rooms = w.rooms := hrooms1
      by_cases hlive : (w1.conn d).live = true
      · rw [if_pos hlive] at h
        have hreg' : w'.reg = w1.reg := change_nick_sat.of_ok h
        have hrooms' : w'.rooms = w1.rooms := change_nick_rooms.of_ok h
        exact .stay (hreg'.trans hreg1) (hrooms'.trans hrooms1)
      · rw [if_neg hlive] at h
        cases h
        exact .stay hreg1 hrooms1
    | channel_rename ev =>
      replace hrooms1 : w1.rooms = w.rooms := hrooms1
      by_cases hlive : (w1.conn d).live = true
      · rw [if_pos hlive] at h
        cases h
        exact .stay ((reg_channel_rename d w1 ev).trans hreg1)
          ((rooms_channel_rename d w1 ev).trans hrooms1)
      · rw [if_neg hlive] at h
        cases h
        exact .stay hreg1 hrooms1

theorem rooms_handleConnection (isWebSocket : Bool) (ip : Bytes) :
    (handleConnection isWebSocket ip w).rooms = w.rooms.newConn w.nextConn := by
  unfold handleConnection
  ext1
  case entered =>
    funext x n
    show (if x = w.nextConn then _ else w.conn x : Conn).channels[n]? =
      if x = w.nextConn then none else _
    by_cases hx : x = w.nextConn
    · rw [if_pos hx, if_pos hx]
      exact Std.ExtTreeMap.getElem?_empty
    · rw [if_neg hx, if_neg hx]
      rfl
  case roster =>
    funext x p b
    show ((if x = w.nextConn then _ else w.conn x : Conn).channel_members.getD p ∅).contains b =
      (!decide (x = w.nextConn) && ((w.conn x).channel_members.getD p ∅).contains b)
    by_cases hx : x = w.nextConn
    · rw [if_pos hx]
      simp [hx]
    · rw [if_neg hx]
      simp [hx]
  all_goals rfl

/-- **One event.**  Every event moves the site by steps that it may take. -/
theorem step_site {ev : Event} (h : step env w ev = .ok w') :
    SiteEffect (Allowed env w ev) w w' := by
  cases ev with
  | connect isWebSocket ip =>
    cases h
    refine .one (l := .sys .connect) ?_ rfl
    unfold World.site
    rw [reg_handleConnection, rooms_handleConnection]
    exact .sys (.connect _)
  | line c line =>
    have h : (if (w.conn c).live then parseIncoming env c line w else .ok w) = .ok w' := h
    by_cases hlive : (w.conn c).live = true
    · rw [if_pos hlive] at h
      exact ((parseIncoming_site hlive).of_ok h).mono fun _ _ hl => ⟨hlive, hl⟩
    · rw [if_neg hlive] at h
      cases h
      exact .stay rfl rfl
  | deliver c => exact deliver_site h
  | disconnect c =>
    cases h
    by_cases hlive : (w.conn c).live = true
    · rw [if_pos hlive]
      have hrooms : (onSocketDisconnected c w).rooms = w.rooms := by
        unfold onSocketDisconnected
        dsimp only
        refine (World.rooms_updConn _ ⟨rfl, rfl⟩).trans ?_
        split
        · exact Account.rooms_onConnectionDisconnected _ _ _ _
        · rfl
      refine .one (l := .sys (.disconnect c)) ?_ ⟨rfl, rfl⟩
      unfold World.site
      rw [reg_onSocketDisconnected, hrooms]
      exact .sys (.disconnect hlive)
    · rw [if_neg hlive]
      exact .stay rfl rfl

/-- an invariant of the steps that the events of a run may take is one of the run -/
theorem run_site {I : Site → Prop} {C : World → Event → Prop}
    (hI : ∀ w ev l s s', C w ev → I w.site → I s → Allowed env w ev l s → SiteStep l s s' → I s')
    {evs : List Event} (h0 : I w.site) (hC : AllSteps (step env) C w evs)
    (h : run (step env) w evs = .ok w') : I w'.site := by
  refine run_inv (I := fun w => I w.site) (fun w ev w' hw hc hs => ?_) h0 hC h
  obtain ⟨ls, hchain⟩ := step_site hs
  exact hchain.inv (P := fun _ => True) (fun l s s' _ hs hstep => hI w ev l s s' hc hw hs hstep.2
    hstep.1) (fun _ _ => trivial) hw

end

end Worker

end Chatripper
