import Mathlib
import Chatripper.Core.Registration
import Chatripper.Irc.Setup

/-!
# The setup handlers run the registration machine

Each operation of the server on the registration view is the operation of the same name on `Reg`,
and each setup handler is a chain of at most two steps of the machine.  A handler that leaves the
connection short of ready changes no content.
-/

namespace Chatripper
open ByteStr Utf8 Outcome

namespace World

theorem reg_updConn_eq (w : World) (c : ConnId) {f : Conn → Conn} {g : ConnReg → ConnReg}
    (h : ∀ k, (f k).reg = g k.reg) : (w.updConn c f).reg = w.reg.updConn c g := by
  ext1
  case conn =>
    funext x
    show (if x = c then f (w.conn c) else w.conn x).reg = if x = c then g (w.conn c).reg else _
    by_cases hx : x = c
    · rw [if_pos hx, if_pos hx, h]
    · rw [if_neg hx, if_neg hx]
      rfl
  all_goals rfl

theorem reg_updAcc_eq (w : World) (a : AccId) {f : Account → Account} {g : AccReg → AccReg}
    (h : ∀ k, (f k).reg = g k.reg) : (w.updAcc a f).reg = w.reg.updAcc a g := by
  ext1
  case acc =>
    funext x
    show (if x = a then f (w.acc a) else w.acc x).reg = if x = a then g (w.acc a).reg else _
    by_cases hx : x = a
    · rw [if_pos hx, if_pos hx, h]
    · rw [if_neg hx, if_neg hx]
      rfl
  all_goals rfl

theorem reg_log_setup (w : World) {t : Trace} (h : t.isSetup = true) :
    (w.log t).reg = w.reg.log t := by
  ext1
  case setups =>
    show (w.trace ++ [t]).filter _ = _
    rw [List.filter_append, List.filter_cons_of_pos h]
    rfl
  all_goals rfl

theorem nick_eq_reg (w : World) (c : ConnId) : w.nick c = w.reg.nick c := by
  unfold nick Reg.nick
  cases h : (w.conn c).m_account with
  | none =>
    have h' : (w.reg.conn c).m_account = none := h
    rw [h']
    rfl
  | some a =>
    have h' : (w.reg.conn c).m_account = some a := h
    rw [h']
    rfl

theorem accNick_eq (w : World) (a : AccId) : w.accNick a = star (w.reg.acc a).m_nick := rfl

end World

namespace client_connection
open World

section
variable {env : Env} {c : ConnId} {w : World}

/-! ## finishing the setup -/

theorem reg_isupportStep (base : Bytes) (s : Bytes × World) (it : Bytes × Bytes) :
    (isupportStep env c base s it).2.reg = s.2.reg := by
  unfold isupportStep
  dsimp only
  split <;> rfl

theorem reg_isupportLines (account_nick : Bytes) :
    (isupportLines env c account_nick w).reg = w.reg := by
  have h := foldl_keeps (v := fun s : Bytes × World => s.2.reg)
    (@reg_isupportStep env c (ascii "005 " ++ account_nick ++ ascii " "))
    env.server.isupport (ascii "005 " ++ account_nick ++ ascii " ", w)
  unfold isupportLines
  dsimp only
  split
  · exact h
  · exact h

theorem reg_welcomeLines (account_nick : Bytes) :
    (welcomeLines env c account_nick w).reg = w.reg.log (.welcome c) := by
  unfold welcomeLines
  dsimp only
  rw [reg_handleMOTD, reg_handleLUSERS, reg_isupportLines, reg_reply_num, reg_reply_num,
    reg_reply_num, reg_log_setup _ rfl, reg_reply_num]

theorem markRegistered_sat {E : Fault → Prop} {_nick : Bytes} :
    Sat E (fun w' => w'.reg = w.reg) (markRegistered env c _nick w) :=
  Sat.ite (fun _ => handleMODE_sat) fun _ => rfl

/-- only a null pointer in the account's channel list stops the joins -/
theorem rejoin_sat {a : AccId} :
    Sat (fun e => e = .nullChannel) (fun w' => w'.reg = w.reg) (rejoin env a w) := by
  refine Sat.foldlM rfl fun w1 channel _ h1 => ?_
  cases channel with
  | none => exact rfl
  | some ch =>
    show Sat _ _ (Channel.join env ch
      { from_system := true, channel := some ch, account := some a } w1)
    refine Sat.mono Channel.join_sat (fun e he => ?_) fun w2 h2 => h2.trans h1
    exact absurd he.2 (by simp)

theorem greet_sat {a : AccId} :
    Sat (fun e => e = .nullChannel) (fun w' => w'.reg = w.reg.log (.welcome c))
      (greet env c a w) := by
  unfold greet
  refine markRegistered_sat.bind fun w1 h1 => rejoin_sat.mono (fun _ he => he) fun w2 h2 => ?_
  rw [h2, h1, reg_welcomeLines]

theorem reg_syncNick (account_nick : Bytes) :
    (syncNick c account_nick w).reg =
      w.reg.updConn c fun k => { k with m_nick := account_nick } := by
  unfold syncNick
  dsimp only
  split
  · next h =>
    refine (Reg.updConn_self ?_).symm
    show { (w.conn c).reg with m_nick := account_nick } = (w.conn c).reg
    rw [h]
    rfl
  · exact w.reg_updConn_eq c (f := fun k => { k with m_nick := account_nick }) fun _ => rfl

theorem reg_create :
    (Account.create (w.conn c).m_nick w).2.reg = w.reg.createAccount c := by
  ext1
  case acc =>
    funext x
    show (if x = w.nextAcc then _ else _ : Account).reg = if x = w.nextAcc then _ else _
    split <;> rfl
  case accounts_lookup_name =>
    show (if ((if w.nextAcc = w.nextAcc then _ else _ : Account)).m_name = [] then _ else _) = _
    rw [if_pos rfl]
    rfl
  case accounts_lookup_uuid =>
    show Std.ExtTreeMap.insert _ ((if w.nextAcc = w.nextAcc then _ else _ : Account)).m_uid _ = _
    rw [if_pos rfl]
    rfl
  all_goals rfl

theorem obtainAccount_old {a : AccId} (h : (w.conn c).m_account = some a) :
    obtainAccount c w = (a, w) := by
  unfold obtainAccount
  rw [h]

theorem obtainAccount_new (h : (w.conn c).m_account = none) :
    (obtainAccount c w).1 = w.nextAcc ∧
      (obtainAccount c w).2.reg = (w.reg.createAccount c).updConn c fun k =>
        { k with m_account := some w.nextAcc } := by
  unfold obtainAccount
  rw [h]
  refine ⟨rfl, ?_⟩
  rw [← reg_create]
  exact reg_updConn_eq _ c (f := fun k => { k with m_account := some w.nextAcc }) fun _ => rfl

theorem reg_add_connection (a : AccId) :
    (Account.add_connection a c w).reg =
      w.reg.updAcc a fun k => { k with connections := k.connections ++ [c] } :=
  reg_updAcc_eq w a (f := fun k => { k with connections := k.connections ++ [c] }) fun _ => rfl

/-- the registration view of a connection tied to account `a` in `r`, short of being ready -/
theorem reg_enrol {a : AccId} {r : Reg} {w1 : World} (ho : obtainAccount c w = (a, w1))
    (hw1 : w1.reg = r.updConn c fun k => { k with m_account := some a }) :
    (enrol c w).1 = a ∧
      (enrol c w).2.reg.updConn c (fun k => { k with is_ready := true }) = r.attach c a := by
  have hsync := reg_syncNick (c := c) (w := w1) (w1.accNick a)
  have hnick : w1.accNick a = star (r.acc a).m_nick := by
    rw [accNick_eq, hw1]
    rfl
  rw [hw1, Reg.updConn_updConn, hnick] at hsync
  have hadd := reg_add_connection (c := c) (w := syncNick c (star (r.acc a).m_nick) w1) a
  rw [hsync] at hadd
  have hown : (Account.add_connection a c (syncNick c (star (r.acc a).m_nick) w1)).nick c =
      star (r.acc a).m_nick := by
    rw [nick_eq_reg, hadd]
    simp [Reg.nick, Reg.updConn, Reg.updAcc]
  unfold enrol
  rw [ho]
  refine ⟨rfl, ?_⟩
  dsimp only
  rw [hnick, hown]
  show Reg.updConn { (Account.add_connection a c (syncNick c (star (r.acc a).m_nick) w1)).reg with
    irc_nicks := (Account.add_connection a c
      (syncNick c (star (r.acc a).m_nick) w1)).reg.irc_nicks.insert (star (r.acc a).m_nick) a } c
    (fun k => { k with is_ready := true }) = _
  rw [hadd]
  ext1
  case conn =>
    funext x
    show (if x = c then _ else if x = c then _ else r.conn x) = if x = c then _ else r.conn x
    by_cases hx : x = c
    · rw [if_pos hx, if_pos hx]
      simp [Reg.updConn, Reg.updAcc]
    · rw [if_neg hx, if_neg hx, if_neg hx]
  all_goals rfl

end

/-! ## what a handler does -/

/-- the effect of a handler of `c`: a chain of steps whose labels meet `P`, and no content while the
connection is short of ready -/
def Effect (c : ConnId) (P : Reg.Label → Prop) (w w' : World) : Prop :=
  ∃ ls, Chain (Reg.Step c) ls w.reg w'.reg ∧ (∀ l ∈ ls, P l) ∧
    ((w'.conn c).is_ready = false → w'.content = w.content)

section
variable {env : Env} {c : ConnId} {w : World} {P Q : Reg.Label → Prop}

theorem Effect.stay {w' : World} (hreg : w'.reg = w.reg) (hcontent : w'.content = w.content) :
    Effect c P w w' :=
  ⟨[], hreg ▸ .nil _, nofun, fun _ => hcontent⟩

theorem Effect.one {w' : World} {l : Reg.Label} (hl : P l) (hstep : Reg.Step c l w.reg w'.reg)
    (hcontent : (w'.conn c).is_ready = false → w'.content = w.content) : Effect c P w w' :=
  ⟨[l], .one hstep, fun _ h => by rw [List.mem_singleton.mp h]; exact hl, hcontent⟩

theorem Effect.cons {w1 w' : World} {l : Reg.Label} (h : Effect c P w1 w') (hl : P l)
    (hstep : Reg.Step c l w.reg w1.reg) (hcontent : w1.content = w.content) : Effect c P w w' := by
  obtain ⟨ls, hchain, hls, hrest⟩ := h
  refine ⟨l :: ls, .cons hstep hchain, fun m hm => ?_, fun hr => (hrest hr).trans hcontent⟩
  rcases List.mem_cons.mp hm with rfl | hm
  · exact hl
  · exact hls m hm

/-- the effect of a handler that takes one step or none, and changes no content -/
def AtMostOne (c : ConnId) (P : Reg.Label → Prop) (w w' : World) : Prop :=
  w'.content = w.content ∧ (w'.reg = w.reg ∨ ∃ l, P l ∧ Reg.Step c l w.reg w'.reg)

theorem AtMostOne.effect {w' : World} (h : AtMostOne c P w w') : Effect c P w w' := by
  obtain ⟨hcontent, hreg | ⟨l, hl, hstep⟩⟩ := h
  · exact .stay hreg hcontent
  · exact .one hl hstep fun _ => hcontent

theorem Effect.mono {w' : World} (hPQ : ∀ l, P l → Q l) (h : Effect c P w w') : Effect c Q w w' := by
  obtain ⟨ls, hchain, hls, hrest⟩ := h
  exact ⟨ls, hchain, fun l hl => hPQ l (hls l hl), hrest⟩

/-! ## `try_finalize_setup` -/

theorem content_log_finalize : (w.log (.finalize c)).content = w.content := w.content_log rfl

theorem setupRefused_log : setupRefused env c (w.log (.finalize c)) = setupRefused env c w := rfl

/-- a refusal is a reply to the connection -/
theorem setupRefused_reply {reply : World → World} (h : setupRefused env c w = some reply)
    (w1 : World) : (reply w1).reg = w1.reg ∧ (reply w1).content = w1.content := by
  unfold setupRefused at h
  dsimp only at h
  split at h
  · cases h; exact ⟨rfl, rfl⟩
  · split at h
    · cases h; exact ⟨rfl, rfl⟩
    · cases h

/-- the nick of a connection without an account is free when its setup is not refused -/
theorem setupRefused_none (h : setupRefused env c w = none) (hacc : (w.conn c).m_account = none) :
    w.ctx.irc_nicks[toLower (w.conn c).m_nick]? = none := by
  unfold setupRefused at h
  dsimp only at h
  split at h
  · cases h
  · split at h
    · cases h
    · next hn =>
      by_contra hne
      exact hn ⟨hacc, hne⟩

theorem enrol_register {r : Reg} (hr : w.reg = r.log (.finalize c)) :
    ((enrol c w).1 = w.nextAcc ∧ (w.conn c).m_account = none ∧
      ((enrol c w).2.reg.updConn c fun k => { k with is_ready := true }).log (.welcome c) =
        r.register c r.nextAcc (Reg.createAccount c)) ∨
    ((w.conn c).m_account = some (enrol c w).1 ∧
      ((enrol c w).2.reg.updConn c fun k => { k with is_ready := true }).log (.welcome c) =
        r.register c (enrol c w).1 id) := by
  cases hacc : (w.conn c).m_account with
  | none =>
    obtain ⟨h1, h2⟩ := obtainAccount_new hacc
    obtain ⟨ha, hreg⟩ := reg_enrol (show obtainAccount c w = (_, (obtainAccount c w).2) by rw [← h1]) h2
    refine Or.inl ⟨ha, rfl, ?_⟩
    rw [hreg, hr]
    have : w.nextAcc = r.nextAcc := congrArg Reg.nextAcc hr
    rw [this]
    rfl
  | some a =>
    have hk : (w.reg.updConn c fun k => { k with m_account := some a }) = w.reg :=
      Reg.updConn_self (by
        show { (w.conn c).reg with m_account := some a } = (w.conn c).reg
        rw [← hacc]
        rfl)
    obtain ⟨ha, hreg⟩ := reg_enrol (obtainAccount_old hacc) hk.symm
    refine Or.inr ⟨by rw [ha], ?_⟩
    rw [hreg, hr, ha]
    rfl

theorem reg_setReady : (setReady c w).reg = w.reg.updConn c fun k => { k with is_ready := true } :=
  reg_updConn_eq w c (f := fun k => { k with is_ready := true }) fun _ => rfl

/-- the attempt to finish the setup in this state makes an account with this nick -/
structure Registers (env : Env) (c : ConnId) (n : Bytes) (w : World) : Prop where
  finishing : w.reg.Finishing c
  anonymous : (w.conn c).m_account = none
  nick : (w.conn c).m_nick = n
  accepted : setupRefused env c w = none

/-- the labels of an attempt to finish the setup -/
def finishLabel (env : Env) (c : ConnId) (w : World) : Reg.Label → Prop
  | .refuse => setupRefused env c w ≠ none
  | .registerNew n => Registers env c n w
  | .registerOld a => (w.conn c).m_account = some a
  | _ => False

theorem setupRefused_congr {w' : World} (hreg : w'.reg = w.reg)
    (hpass : (w'.conn c).m_passGiven = (w.conn c).m_passGiven) :
    setupRefused env c w' = setupRefused env c w := by
  have hnick : (w'.conn c).m_nick = (w.conn c).m_nick :=
    congrArg ConnReg.m_nick (reg_conn_eq hreg c)
  have hnicks : w'.ctx.irc_nicks = w.ctx.irc_nicks := congrArg Reg.irc_nicks hreg
  unfold setupRefused Ctx.irc_nick_get
  dsimp only
  rw [hpass, m_account_eq hreg, hnick, hnicks]

theorem finishLabel_congr {w' : World} (hreg : w'.reg = w.reg)
    (hpass : (w'.conn c).m_passGiven = (w.conn c).m_passGiven) {l : Reg.Label}
    (h : finishLabel env c w' l) : finishLabel env c w l := by
  cases l with
  | refuse => exact fun he => h ((setupRefused_congr hreg hpass).trans he)
  | registerNew n =>
    exact ⟨hreg ▸ h.finishing, (m_account_eq hreg c).symm.trans h.anonymous,
      (congrArg ConnReg.m_nick (reg_conn_eq hreg c)).symm.trans h.nick,
      (setupRefused_congr hreg hpass).symm.trans h.accepted⟩
  | registerOld a => exact (m_account_eq hreg c).symm.trans h
  | giveNick => cases h
  | clear => cases h
  | rename => cases h
  | login => cases h
  | relogin => cases h
  | merge => cases h

/-- an attempt to finish the setup takes one step of the machine, or none -/
theorem try_finalize_setup_one :
    Sat (fun e => e = .nullChannel) (fun w' => (w'.reg = w.reg ∧ w'.content = w.content) ∨
      ∃ l, finishLabel env c w l ∧ Reg.Step c l w.reg w'.reg ∧
        ((w'.conn c).is_ready = false → w'.content = w.content))
      (try_finalize_setup env c w) := by
  unfold try_finalize_setup
  dsimp only
  refine Sat.ite (fun _ => Or.inl ⟨rfl, rfl⟩) fun hguard => ?_
  have hfin : w.reg.Finishing c := by
    simp only [Bool.or_eq_true, Bool.not_eq_true', not_or, Bool.not_eq_true,
      Bool.not_eq_false] at hguard
    exact hguard
  rw [setupRefused_log]
  cases href : setupRefused env c w with
  | some reply =>
    have hreply := setupRefused_reply href (w.log (.finalize c))
    refine Or.inr ⟨.refuse, by rw [finishLabel, href]; nofun, ?_, fun _ => ?_⟩
    · rw [reg_forceDisconnect, hreply.1, reg_log_setup _ rfl]
      exact .refuse hfin
    · rw [content_forceDisconnect, hreply.2, content_log_finalize]
  | none =>
    have henrol := enrol_register (w := w.log (.finalize c)) (reg_log_setup w rfl)
    refine greet_sat.bind fun w1 h1 => ?_
    have hreg : (setReady c w1).reg =
        ((enrol c (w.log (.finalize c))).2.reg.updConn c fun k =>
          { k with is_ready := true }).log (.welcome c) := by
      rw [reg_setReady, h1]
      rfl
    have hready : ((setReady c w1).conn c).is_ready = true := by
      unfold setReady
      rw [updConn_conn, if_pos rfl]
    have hcontent : ((setReady c w1).conn c).is_ready = false →
        (setReady c w1).content = w.content := fun h => absurd (hready.symm.trans h) nofun
    rcases henrol with ⟨-, hacc, hnew⟩ | ⟨hacc, hold⟩
    · refine Or.inr ⟨.registerNew (w.conn c).m_nick, ⟨hfin, hacc, rfl, href⟩, ?_, hcontent⟩
      rw [hreg, hnew]
      exact .registerNew hfin hacc (setupRefused_none href hacc)
    · refine Or.inr ⟨.registerOld (enrol c (w.log (.finalize c))).1, hacc, ?_, hcontent⟩
      rw [hreg, hold]
      exact .registerOld hfin hacc

theorem try_finalize_setup_sat :
    Sat (fun e => e = .nullChannel) (Effect c (finishLabel env c w) w)
      (try_finalize_setup env c w) := by
  apply try_finalize_setup_one.mono (fun _ he => he)
  intro w' h
  obtain ⟨hreg, hcontent⟩ | ⟨l, hl, hstep, hcontent⟩ := h
  · exact Effect.stay hreg hcontent
  · exact Effect.one hl hstep hcontent

/-! ## NICK -/

/-- the registry part of a nick change is the machine's `rename` -/
theorem reg_renameInRegistry {a self : AccId} {ev : QEventNickChange} {w' : World}
    (h : Account.renameInRegistry a ev w = some (self, w')) :
    w'.reg = w.reg.rename a self ev.old_nick ev.new_nick ∧ w'.content = w.content ∧
      ev.new_nick ≠ [] ∧ w.ctx.accounts_lookup_uuid[(w.acc a).m_uid]? = some self ∧
      (w.ctx.irc_nicks[toLower ev.new_nick]? = none ∨
        w.ctx.irc_nicks[toLower ev.new_nick]? = some self) := by
  unfold Account.renameInRegistry at h
  split at h
  · cases h
  · next hnew =>
    split at h
    · cases h
    · next s hs =>
      dsimp only at h
      split at h
      · cases h
      · next hfree =>
        cases h
        refine ⟨?_, ?_, hnew, hs, ?_⟩
        · refine (reg_updAcc_eq _ a (f := fun k => { k with m_nick := ev.new_nick })
            (g := fun k => { k with m_nick := ev.new_nick }) fun _ => rfl).trans ?_
          rfl
        · exact World.content_updAcc _ rfl
        · by_contra hne
          rw [not_or] at hne
          exact hfree hne

theorem setNick_sat {a : AccId} {ev : QEventNickChange} :
    Sat (fun e => e = .nullChannel)
      (fun r : Bool × World => r.2.content = w.content ∧ (r.2.reg = w.reg ∨
        ∃ self ev', r.2.reg = w.reg.rename a self ev'.old_nick ev'.new_nick ∧ ev'.new_nick ≠ [] ∧
          (w.consult .NICK_CHANGE (·.cancel) ev).1 = some ev' ∧
          (Account.renameInRegistry a ev' (w.consult .NICK_CHANGE (·.cancel) ev).2).isSome ∧
          w.reg.accounts_lookup_uuid[(w.reg.acc a).m_uid]? = some self ∧
          (w.reg.irc_nicks[toLower ev'.new_nick]? = none ∨
            w.reg.irc_nicks[toLower ev'.new_nick]? = some self) ∧
          (w.reg.activeEvents.has .NICK_CHANGE = false → ev'.old_nick = ev.old_nick)))
      (Account.setNick a ev w) := by
  unfold Account.setNick
  have hreg := w.reg_consult .NICK_CHANGE (·.cancel) ev
  have hcont := w.content_consult .NICK_CHANGE (·.cancel) ev
  have hold : w.snakepit.m_activeEvents.has .NICK_CHANGE = false →
      w.consult .NICK_CHANGE (·.cancel) ev = (some ev, w) := fun h => by
    unfold World.consult SnakePit.hasEventHandler
    rw [h]
    rfl
  cases hc : w.consult .NICK_CHANGE (·.cancel) ev with
  | mk r w1 =>
    rw [hc] at hreg hcont hold
    cases r with
    | none => exact ⟨hcont, Or.inl hreg⟩
    | some ev' =>
      dsimp only
      cases hr : Account.renameInRegistry a ev' w1 with
      | none => exact ⟨hcont, Or.inl hreg⟩
      | some p =>
        obtain ⟨self, w2⟩ := p
        obtain ⟨h1, h2, h3, h4, h5⟩ := reg_renameInRegistry hr
        refine (Account.channelMembers_sat _ _ _).bind fun l _ => ⟨?_, Or.inr ?_⟩
        · exact (Account.content_postAll _ _ _).trans (h2.trans hcont)
        · refine ⟨self, ev', ?_, h3, rfl, by rw [hr]; rfl, ?_, ?_, fun h => ?_⟩
          · rw [← hreg]
            exact (Account.reg_postAll _ _ _).trans h1
          · rw [← hreg]
            exact h4
          · rw [← hreg]
            exact h5
          · cases hold h
            rfl

/-- the nick of the setup is given -/
def giveNick (c : ConnId) (n : Bytes) (w : World) : World :=
  clearTask c .NICK (w.updConn c fun k => { k with m_nick := n })

theorem reg_giveNick (n : Bytes) : (giveNick c n w).reg = w.reg.giveNick c n := by
  unfold giveNick clearTask
  rw [reg_updConn_eq _ c (g := fun k => { k with setup_tasks := k.setup_tasks.clear .NICK })
      fun _ => rfl,
    reg_updConn_eq _ c (g := fun k => { k with m_nick := n }) fun _ => rfl,
    Reg.updConn_updConn]
  rfl

/-- a valid nick for a connection that has yet to give one -/
def NickGiven (env : Env) (c : ConnId) (args : List Bytes) (n : Bytes) (w : World) : Prop :=
  args[0]? = some n ∧ isValidNick env n = true ∧ (w.conn c).setup_tasks.has .NICK = true

/-- the nick change that a NICK line makes, as the handlers of NICK_CHANGE leave it -/
def nickChange (env : Env) (c : ConnId) (args : List Bytes) (w : World) :
    Option (AccId × QEventNickChange) :=
  match args, (w.conn c).m_account with
  | n :: _, some a =>
    if isValidNick env n ∧ Ctx.irc_nick_get w (toLower n) = none ∧
        (w.conn c).setup_tasks.empty ∧ n ≠ w.nick c then
      let r := w.consult .NICK_CHANGE (·.cancel)
        { new_nick := n, old_nick := w.nick c, account := some a }
      (r.1.filter fun ev => (Account.renameInRegistry a ev r.2).isSome).map fun ev => (a, ev)
    else none
  | _, _ => none

/-- the labels of a NICK line -/
def nickLabel (env : Env) (c : ConnId) (args : List Bytes) (w : World) : Reg.Label → Prop
  | .giveNick n => NickGiven env c args n w
  | .rename a _ old new =>
    ∃ ev, nickChange env c args w = some (a, ev) ∧ ev.old_nick = old ∧ ev.new_nick = new
  | l => ∃ n, NickGiven env c args n w ∧ finishLabel env c (giveNick c n w) l

theorem nickLabel_of_finish {args : List Bytes} {n : Bytes} {l : Reg.Label}
    (hn : NickGiven env c args n w) (h : finishLabel env c (giveNick c n w) l) :
    nickLabel env c args w l := by
  cases l <;> first | exact ⟨n, hn, h⟩ | cases h

/-- NICK follows a null `m_account`: the tasks are done, the account is not there, and the nick is
a valid one other than the connection's own -/
def NickOnNull (env : Env) (c : ConnId) (args : List Bytes) (w : World) : Prop :=
  (w.conn c).setup_tasks.empty = true ∧ (w.conn c).m_account = none ∧
    ∃ n, args[0]? = some n ∧ isValidNick env n = true ∧ n ≠ w.nick c

/-- the account of a connection changes its nick -/
theorem changeOwnNick_sat {args : List Bytes} {n : Bytes} (hn : args[0]? = some n)
    (hvalid : isValidNick env n = true)
    (hfree : ¬ ((w.conn c).m_account ≠ none ∧ Ctx.irc_nick_get w (toLower n) ≠ none))
    (hempty : (w.conn c).setup_tasks.empty = true) :
    Sat (fun e => e ≠ .outOfRange ∧ (e = .nullAccount → NickOnNull env c args w))
      (AtMostOne c (nickLabel env c args w) w) (changeOwnNick env c n w) := by
  unfold changeOwnNick
  dsimp only
  refine Sat.ite (fun _ => ⟨rfl, Or.inl rfl⟩) fun hne => ?_
  cases hacc : (w.conn c).m_account with
  | none => exact ⟨nofun, fun _ => ⟨hempty, hacc, n, hn, hvalid, hne⟩⟩
  | some a =>
    refine (setNick_sat.mono (fun e he => ?_) fun _ hr => hr).bind fun r hr => ?_
    · subst he
      exact ⟨nofun, nofun⟩
    · have hkept : (if r.1 then r.2 else reply_num env c 433 n r.2).reg = r.2.reg ∧
          (if r.1 then r.2 else reply_num env c 433 n r.2).content = r.2.content := by
        split <;> exact ⟨rfl, rfl⟩
      obtain ⟨hcont, hreg | ⟨self, ev, hreg, hnew, hev, hsome, hself, hfree', hold⟩⟩ := hr
      · exact ⟨hkept.2.trans hcont, Or.inl (hkept.1.trans hreg)⟩
      · have hchange : nickChange env c args w = some (a, ev) := by
          cases args with
          | nil => cases hn
          | cons m rest =>
            obtain rfl : m = n := Option.some.inj hn
            have hnick : Ctx.irc_nick_get w (toLower m) = none := by
              by_contra hx
              exact hfree ⟨by rw [hacc]; nofun, hx⟩
            unfold nickChange
            rw [hacc]
            dsimp only
            rw [if_pos ⟨hvalid, hnick, hempty, hne⟩, hev, Option.filter_some, if_pos hsome]
            rfl
        refine ⟨hkept.2.trans hcont, Or.inr
          ⟨.rename a self ev.old_nick ev.new_nick, ⟨ev, hchange, rfl, rfl⟩, ?_⟩⟩
        show Reg.Step c _ _ (if r.1 then r.2 else reply_num env c 433 n r.2).reg
        rw [hkept.1, hreg]
        refine .rename hacc hself hnew hfree' fun h => ?_
        rw [hold h]
        show w.nick c = _
        unfold World.nick
        rw [hacc]
        rfl

theorem handleNICK_sat {args : List Bytes} :
    Sat (fun e => e ≠ .outOfRange ∧ (e = .nullAccount → NickOnNull env c args w))
      (Effect c (nickLabel env c args w) w) (handleNICK env c args w) := by
  unfold handleNICK
  refine Sat.ite (fun _ => Effect.stay rfl rfl) fun h => ?_
  refine (sat_listAt (length_pos_of_ne h)).bind fun n hn => ?_
  refine Sat.ite (fun _ => Effect.stay rfl rfl) fun hvalid => ?_
  have hvalid : isValidNick env n = true := by simpa using hvalid
  refine Sat.ite (fun _ => Effect.stay rfl rfl) fun hfree => ?_
  refine Sat.ite (fun htask => ?_) fun htask => Sat.ite (fun _ => Effect.stay rfl rfl) fun hempty => ?_
  · -- the nick of the setup
    unfold setNick
    by_cases hnick : (w.conn c).m_nick = []
    · rw [if_neg (not_not.mpr hnick)]
      refine try_finalize_setup_sat.mono (fun e he => ?_) fun w' hw' => ?_
      · subst he
        exact ⟨nofun, nofun⟩
      · have hgiven : NickGiven env c args n w := ⟨hn, hvalid, htask⟩
        refine Effect.cons (l := .giveNick n)
          (hw'.mono fun l hl => nickLabel_of_finish hgiven hl) hgiven ?_ rfl
        show Reg.Step c _ w.reg (giveNick c n w).reg
        rw [reg_giveNick]
        exact .giveNick (isValidNick_ne_nil hvalid) htask hnick
    · rw [if_pos hnick]
      exact ⟨nofun, nofun⟩
  · -- the nick of the account
    have hempty : (w.conn c).setup_tasks.empty = true := by simpa using hempty
    exact (changeOwnNick_sat hn hvalid hfree hempty).mono (fun _ he => he) fun _ h => h.effect

/-! ## PASS, USER and CAP -/

theorem handlePASS_sat {E : Fault → Prop} {args : List Bytes} :
    Sat E (fun w' => w'.reg = w.reg ∧ w'.content = w.content) (handlePASS env c args w) := by
  unfold handlePASS
  refine Sat.ite (fun _ => ⟨rfl, rfl⟩) fun h => ?_
  exact (sat_listAt (length_pos_of_ne h)).bind fun pass _ =>
    ⟨w.reg_updConn rfl, w.content_updConn c _⟩

theorem reg_clearTask (t : ConnectionSetupTasks) (w : World) :
    (clearTask c t w).reg = w.reg.clear c t :=
  reg_updConn_eq w c (f := fun k => { k with setup_tasks := k.setup_tasks.clear t }) fun _ => rfl

/-- a user name that is accepted from a connection that has yet to give one -/
def UserGiven (c : ConnId) (args : List Bytes) (w : World) : Prop :=
  4 ≤ args.length ∧ (∃ u, args[0]? = some u ∧ u.length ≤ 16) ∧
    (w.conn c).setup_tasks.has .USER = true

/-- the labels of a USER line; the attempt to finish does not look at the user name -/
def userLabel (env : Env) (c : ConnId) (args : List Bytes) (w : World) : Reg.Label → Prop
  | .clear t => t = .USER ∧ UserGiven c args w
  | l => UserGiven c args w ∧ finishLabel env c (clearTask c .USER w) l

theorem userLabel_of_finish {args : List Bytes} {l : Reg.Label} (hu : UserGiven c args w)
    (h : finishLabel env c (clearTask c .USER w) l) : userLabel env c args w l := by
  cases l <;> first | exact ⟨hu, h⟩ | cases h

theorem handleUSER_sat {args : List Bytes} :
    Sat (fun e => e = .nullChannel) (Effect c (userLabel env c args w) w)
      (handleUSER env c args w) := by
  unfold handleUSER
  refine Sat.ite (fun _ => Effect.stay rfl rfl) fun htask => ?_
  have htask : (w.conn c).setup_tasks.has .USER = true := by simpa using htask
  refine Sat.ite (fun _ => Effect.stay rfl rfl) fun hlen => ?_
  refine (sat_listAt (by omega)).bind fun u hu => (sat_listAt (by omega)).bind fun rn _ => ?_
  dsimp only
  have hreg1 : (w.updConn c fun k => { k with user := u, realname := rn }).reg = w.reg :=
    w.reg_updConn rfl
  refine Sat.ite (fun _ => Effect.stay ?_ rfl) fun hshort => ?_
  · rw [reg_forceDisconnect, reg_reply_num, hreg1]
  · refine try_finalize_setup_sat.mono (fun _ he => he) fun w' hw' => ?_
    have hgiven : UserGiven c args w := ⟨by omega, ⟨u, hu, by omega⟩, htask⟩
    have hreg2 : (clearTask c .USER ((w.updConn c fun k => { k with user := u, realname := rn }).updConn
        c fun k => { k with user_already_exists :=
          k.user_already_exists || Ctx.account_username_exists w u })).reg =
        (clearTask c .USER w).reg := by
      rw [reg_clearTask, World.reg_updConn _ rfl, hreg1, reg_clearTask]
    refine Effect.cons (l := .clear .USER) (hw'.mono fun l hl =>
      userLabel_of_finish hgiven (finishLabel_congr hreg2 (by simp [clearTask]) hl))
      ⟨rfl, hgiven⟩ ?_ rfl
    refine hreg2.symm ▸ ?_
    rw [reg_clearTask]
    exact .clear nofun htask

/-- CAP END during the capability exchange -/
def CapEnded (c : ConnId) (args : List Bytes) (w : World) : Prop :=
  args[0]? = some (ascii "END") ∧ (w.conn c).setup_tasks.has .CAP_EXCHANGE = true

/-- the labels of a CAP line -/
def capLabel (env : Env) (c : ConnId) (args : List Bytes) (w : World) : Reg.Label → Prop
  | .clear t => t = .CAP_EXCHANGE ∧ CapEnded c args w
  | l => CapEnded c args w ∧ finishLabel env c (clearTask c .CAP_EXCHANGE w) l

theorem capLabel_of_finish {args : List Bytes} {l : Reg.Label} (hc : CapEnded c args w)
    (h : finishLabel env c (clearTask c .CAP_EXCHANGE w) l) : capLabel env c args w l := by
  cases l <;> first | exact ⟨hc, h⟩ | cases h

theorem reg_capLS (version : Option Int) : (capLS env c version w).reg = w.reg := by
  unfold capLS
  dsimp only
  split
  · split <;> rfl
  · rfl

theorem content_capLS (version : Option Int) : (capLS env c version w).content = w.content := by
  unfold capLS
  dsimp only
  split
  · split <;> rfl
  · rfl

theorem reg_capREQ (line : Bytes) : (capREQ env c line w).reg = w.reg := by
  unfold capREQ
  dsimp only
  split
  · exact (World.reg_updConn _ rfl).trans rfl
  · rfl

theorem content_capREQ (line : Bytes) : (capREQ env c line w).content = w.content := by
  unfold capREQ
  dsimp only
  split <;> rfl

/-- CAP reads its first argument unguarded while the capability exchange is on -/
theorem handleCAP_sat {args : List Bytes} :
    Sat (fun e => e = .nullChannel ∨
        e = .outOfRange ∧ args = [] ∧ (w.conn c).setup_tasks.has .CAP_EXCHANGE = true)
      (Effect c (capLabel env c args w) w) (handleCAP env c args w) := by
  unfold handleCAP
  refine Sat.ite (fun htask => ?_) fun _ => Effect.stay rfl rfl
  cases args with
  | nil => exact Or.inr ⟨rfl, rfl, htask⟩
  | cons sub_cmd rest =>
    show Sat _ _ (if sub_cmd = ascii "LS" then _ else _)
    refine Sat.ite (fun _ => Sat.ite (fun h => ?_) fun _ => ?_) fun _ => Sat.ite (fun _ => ?_) fun _ =>
      Sat.ite (fun _ => ?_) fun _ => Sat.ite (fun hend => ?_) fun _ => Effect.stay rfl rfl
    · exact (sat_listAt (by omega)).bind fun v _ =>
        Effect.stay (reg_capLS _) (content_capLS _)
    · exact Effect.stay (reg_capLS _) (content_capLS _)
    · refine Sat.ite (fun _ => Effect.stay rfl rfl) fun h => ?_
      exact (sat_listAt (by omega)).bind fun l _ =>
        Effect.stay (reg_capREQ l) (content_capREQ l)
    · exact Effect.stay rfl rfl
    · refine try_finalize_setup_sat.mono (fun _ he => Or.inl he) fun w' hw' => ?_
      have hended : CapEnded c (sub_cmd :: rest) w := ⟨by rw [hend]; rfl, htask⟩
      refine Effect.cons (l := .clear .CAP_EXCHANGE)
        (hw'.mono fun l hl => capLabel_of_finish hended hl) ⟨rfl, hended⟩ ?_ rfl
      rw [reg_clearTask]
      exact .clear nofun htask

/-! ## AUTHENTICATE -/

/-- the event of an attempt to log in -/
def authEvent (c : ConnId) (username password : Bytes) (w : World) : QEventAuthUser :=
  { username := username, password := password, ip := (w.conn c).ip }

/-- the account that the parameters of an AUTHENTICATE prove to own -/
def provenAccount (env : Env) (c : ConnId) (args : List Bytes) (w : World) : Option AccId :=
  match args with
  | [] => none
  | arg :: _ =>
    if arg = ascii "PLAIN" then none
    else match saslPlain arg with
      | [_, username, password] =>
        (Account.get_by_name w username).bind fun account =>
          if (Account.verifyPassword env account (authEvent c username password w) w).1.cancelled then
            none
          else some account
      | _ => none

/-- the labels of an AUTHENTICATE line -/
def authLabel (env : Env) (c : ConnId) (args : List Bytes) (w : World) : Reg.Label → Prop
  | .login a => provenAccount env c args w = some a
  | .relogin _ => (provenAccount env c args w).isSome
  | .merge a b => provenAccount env c args w = some a ∧ (w.conn c).m_account = some b ∧
      (w.acc b).m_name = []
  | _ => False

theorem reg_removeAccount (a : AccId) : (Ctx.account_remove_cache a w).reg = w.reg.removeAccount a := by
  unfold Ctx.account_remove_cache Reg.removeAccount
  ext1 <;> rfl

theorem reg_adopt (a : AccId) (conns : List ConnId) :
    (conns.foldl (fun w conn => Account.add_connection a conn w) w).reg =
      w.reg.updAcc a fun k => { k with connections := k.connections ++ conns } := by
  induction conns generalizing w with
  | nil =>
    ext1
    case acc =>
      funext x
      show (w.acc x).reg = if x = a then _ else _
      split
      · next h => rw [h, List.append_nil]; rfl
      · rfl
    all_goals rfl
  | cons d conns ih =>
    rw [List.foldl_cons, ih, reg_add_connection]
    ext1
    case acc =>
      funext x
      simp only [Reg.updAcc]
      by_cases hx : x = a
      · simp [hx]
      · simp [hx]
    all_goals rfl

theorem reg_merge {a source : AccId} (h : (w.acc source).m_name = []) :
    (Account.merge a source w).reg = w.reg.merge a source := by
  unfold Account.merge Account.is_logged_in
  rw [h]
  show World.reg (Ctx.account_remove_cache source _) = _
  rw [reg_removeAccount]
  unfold Reg.merge
  dsimp only
  rw [← show (w.acc source).connections = (w.reg.acc source).connections from rfl, ← reg_adopt]
  congr 1
  exact reg_updAcc_eq _ source (f := fun k => { k with connections := [] }) fun _ => rfl

theorem content_account_remove_cache (a : AccId) :
    (Ctx.account_remove_cache a w).content = w.content := w.content_updCtx rfl

theorem content_merge (a source : AccId) : (Account.merge a source w).content = w.content := by
  unfold Account.merge
  split
  · rfl
  · rw [content_account_remove_cache]
    refine (World.content_updAcc _ rfl).trans ?_
    exact foldl_keeps (v := World.content) (fun w conn => World.content_updAcc w rfl) _ w

theorem reg_logged (u : Bytes) :
    ((reply_num env c 903 (ascii "SASL authentication successful")
      (reply_num env c 900 (ascii "You are now logged in as " ++ u) w)).updConn c fun k =>
        { k with logged_in := true }).reg =
      w.reg.updConn c fun k => { k with logged_in := true } :=
  (reg_updConn_eq _ c (f := fun k => { k with logged_in := true }) fun _ => rfl).trans rfl

/-- `logged_in` is all that a login changes on a connection with an account -/
theorem updConn_logged {r : Reg} {a b : AccId} (h : (r.conn c).m_account = some b) :
    (r.updConn c fun k => { k with logged_in := true }) = r.login c a := by
  ext1
  case conn =>
    funext x
    show (if x = c then _ else _ : ConnReg) = if x = c then _ else _
    rw [h]
    rfl
  all_goals rfl

theorem reg_login (env : Env) (c : ConnId) (a : AccId) (u : Bytes) (w : World) :
    (login env c a u w).reg =
      match (w.conn c).m_account with
      | none => w.reg.login c a
      | some b => if (w.acc b).m_name = [] then (w.reg.merge a b).login c a else w.reg.login c a := by
  unfold login
  cases hacc : (w.conn c).m_account with
  | none =>
    dsimp only
    rw [reg_logged, reg_updConn_eq _ c (g := fun k => { k with m_account := some a }) fun _ => rfl,
      Reg.updConn_updConn]
    ext1
    case conn =>
      funext x
      show (if x = c then _ else _ : ConnReg) = if x = c then _ else _
      have h : (w.reg.conn c).m_account = none := hacc
      rw [h]
      rfl
    all_goals rfl
  | some b =>
    dsimp only
    rw [reg_logged]
    by_cases hb : (w.acc b).m_name = []
    · rw [if_pos hb, reg_merge hb]
      exact updConn_logged (r := w.reg.merge a b) hacc
    · have hskip : Account.merge a b w = w := by
        unfold Account.merge Account.is_logged_in
        rw [if_pos (by simpa using hb)]
      rw [hskip, if_neg hb]
      exact updConn_logged (r := w.reg) hacc

theorem content_login (env : Env) (c : ConnId) (a : AccId) (u : Bytes) (w : World) :
    (login env c a u w).content = w.content := by
  unfold login
  cases (w.conn c).m_account with
  | none => rfl
  | some b => exact content_merge a b

/-- one line of the server is sent that is not the numeric -/
def Answered (env : Env) (c : ConnId) (numeric : Bytes) (w w' : World) : Prop :=
  ∃ line, w'.out = w.out ++ [(c, rawLine env line)] ∧
    line.take 3 ≠ numeric

/-- an AUTHENTICATE either proves an account, and logs in to it, or changes nothing here -/
theorem handleAUTHENTICATE_cases (env : Env) (c : ConnId) (args : List Bytes) (w : World) :
    ∃ w', handleAUTHENTICATE env c args w = .ok w' ∧
      ((provenAccount env c args w = none ∧ w'.reg = w.reg ∧ w'.content = w.content ∧
          Answered env c (ascii "903") w w') ∨
        ∃ a u w1, provenAccount env c args w = some a ∧ Account.get_by_name w u = some a ∧
          w1.reg = w.reg ∧ w1.content = w.content ∧ w1.out = w.out ∧ w' = login env c a u w1) := by
  have hrefused (text : Bytes) (w : World) :
      Answered env c (ascii "903") w (reply_num env c 900 text w) :=
    ⟨_, rfl, by simp [show rightJustified 3 48 (number 900) = ascii "900" by decide, ascii]⟩
  unfold handleAUTHENTICATE provenAccount
  cases args with
  | nil => exact ⟨_, rfl, Or.inl ⟨rfl, reg_forceDisconnect c _, rfl, ascii "uwot?", rfl, by decide⟩⟩
  | cons arg rest =>
    rw [if_neg (List.cons_ne_nil _ _)]
    show ∃ w', (if arg = ascii "PLAIN" then _ else _) = _ ∧ _
    dsimp only
    by_cases hplain : arg = ascii "PLAIN"
    · rw [if_pos hplain, if_pos hplain]
      exact ⟨_, rfl, Or.inl ⟨rfl, rfl, rfl, ascii "AUTHENTICATE +", rfl, by decide⟩⟩
    rw [if_neg hplain, if_neg hplain]
    match hspl : saslPlain arg with
    | [] => exact ⟨_, rfl, Or.inl ⟨rfl, rfl, rfl, hrefused _ _⟩⟩
    | [_] => exact ⟨_, rfl, Or.inl ⟨rfl, rfl, rfl, hrefused _ _⟩⟩
    | [_, _] => exact ⟨_, rfl, Or.inl ⟨rfl, rfl, rfl, hrefused _ _⟩⟩
    | _ :: _ :: _ :: _ :: _ =>
      refine ⟨reply_num env c 900 (ascii "SASL authentication failed") w, ?_,
        Or.inl ⟨rfl, rfl, rfl, hrefused _ _⟩⟩
      rw [if_pos (by simp)]
    | [authz, username, pw] =>
      refine ⟨authenticate env c username pw w, rfl, ?_⟩
      dsimp only
      unfold authenticate
      cases hname : Account.get_by_name w username with
      | none => exact Or.inl ⟨rfl, reg_forceDisconnect c _, rfl, hrefused _ _⟩
      | some a =>
        have hreg := Account.reg_verifyPassword env a (authEvent c username pw w) w
        have hcont := Account.content_verifyPassword env a (authEvent c username pw w) w
        have hout := Account.out_verifyPassword env a (authEvent c username pw w) w
        rw [Option.bind_some]
        unfold authEvent at hreg hcont hout ⊢
        dsimp only
        cases hv : Account.verifyPassword env a
            { username := username, password := pw, ip := (w.conn c).ip } w with
        | mk auth w1 =>
          rw [hv] at hreg hcont hout
          dsimp only
          by_cases hcancel : auth.cancelled = true
          · rw [if_pos hcancel, if_pos hcancel]
            refine Or.inl ⟨rfl, (reg_forceDisconnect c _).trans hreg, hcont, ?_⟩
            obtain ⟨line, hline, hne⟩ := hrefused (ascii "SASL authentication failed" ++
              if auth.reason = [] then [] else ascii ": " ++ auth.reason) w1
            refine ⟨line, ?_, hne⟩
            rw [← hout]
            exact hline
          · rw [if_neg hcancel, if_neg hcancel]
            exact Or.inr ⟨a, username, w1, rfl, hname, hreg, hcont, hout, rfl⟩

/-- a login is one step of the machine -/
theorem handleAUTHENTICATE_one {E : Fault → Prop} {args : List Bytes} :
    Sat E (AtMostOne c (authLabel env c args w) w) (handleAUTHENTICATE env c args w) := by
  obtain ⟨w', hw', ⟨-, hreg, hcont, -⟩ | ⟨a, u, w1, hproven, hname, hreg1, hcont1, -, rfl⟩⟩ :=
    handleAUTHENTICATE_cases env c args w
  · rw [hw']
    exact ⟨hcont, Or.inl hreg⟩
  · rw [hw']
    have hcont := (content_login env c a u w1).trans hcont1
    have hreg := reg_login env c a u w1
    have hacc1 := m_account_eq hreg1 c
    refine ⟨hcont, Or.inr ?_⟩
    cases hacc : (w.conn c).m_account with
    | none =>
      rw [hacc1, hacc, hreg1] at hreg
      refine ⟨.login a, hproven, ?_⟩
      rw [hreg]
      exact .login hacc hname
    | some b =>
      have hname1 : (w1.acc b).m_name = (w.acc b).m_name :=
        congrArg (fun r => (r.acc b).m_name) hreg1
      rw [hacc1, hacc, hreg1] at hreg
      dsimp only at hreg
      rw [hname1] at hreg
      by_cases hb : (w.acc b).m_name = []
      · rw [if_pos hb] at hreg
        refine ⟨.merge a b, ⟨hproven, hacc, hb⟩, ?_⟩
        rw [hreg]
        exact .merge hacc hb hname
      · rw [if_neg hb] at hreg
        refine ⟨.relogin b, by rw [authLabel, hproven]; rfl, ?_⟩
        rw [hreg]
        exact .relogin hacc hb

theorem handleAUTHENTICATE_sat {E : Fault → Prop} {args : List Bytes} :
    Sat E (Effect c (authLabel env c args w) w) (handleAUTHENTICATE env c args w) :=
  handleAUTHENTICATE_one.mono (fun _ he => he) fun _ h => h.effect

end

end client_connection

end Chatripper
