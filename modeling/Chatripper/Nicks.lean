import Mathlib
import Chatripper.Irc.Registering

/-!
# Nick uniqueness

The registry `irc_nicks` decides whether a nick is free, and every lookup folds the nick to lower
case.  A new account is entered under its nick as it was given, so a nick with an upper-case letter
is entered where no lookup finds it.

* `SysStep.nickInv`         while new accounts register under lower-case nicks, every account on line
  owns the registry entry of its folded nick;
* `nicks_differ_of_lower`   hence two accounts on line have nicks that differ after folding, in every
  state of every run.
-/

namespace Chatripper
open ByteStr Utf8 Outcome

theorem star_of_ne {n : Bytes} (h : n ≠ []) : star n = n := if_neg h

namespace Reg

/-- the registries lead to account `a` -/
structure Owns (r : Reg) (a : AccId) : Prop where
  made : a < r.nextAcc
  uid_lt : (r.acc a).m_uid < r.nextUuid
  uuid : r.accounts_lookup_uuid[(r.acc a).m_uid]? = some a
  named : (r.acc a).m_nick ≠ []
  nick : r.irc_nicks[toLower (r.acc a).m_nick]? = some a

structure NickInv (r : Reg) : Prop where
  quiet : r.activeEvents.has .NICK_CHANGE = false
  /-- a connection that is not ready has no account, and a nick once it has given one -/
  pending : ∀ c, (r.conn c).live = true → (r.conn c).is_ready = false →
    (r.conn c).m_account = none ∧
      ((r.conn c).setup_tasks.has .NICK = false → (r.conn c).m_nick ≠ [])
  owns : ∀ c a, r.Online c a → r.Owns a
  alone : ∀ c d a, r.Online c a → r.Online d a → c = d

/-- new accounts have lower-case nicks, and nobody logs in -/
def SysLabel.Lower : SysLabel → Prop
  | .conn _ (.registerNew n) => toLower n = n
  | .conn _ (.login _) => False
  | .conn _ (.relogin _) => False
  | .conn _ (.merge _ _) => False
  | _ => True

section
variable {r : Reg} {c : ConnId}

/-- the nicks of two accounts on line differ after folding -/
theorem NickInv.differ (h : NickInv r) {c d : ConnId} {a b : AccId} (ha : r.Online c a)
    (hb : r.Online d b) (hab : a ≠ b) :
    toLower (star (r.acc a).m_nick) ≠ toLower (star (r.acc b).m_nick) := by
  have hoa := h.owns c a ha
  have hob := h.owns d b hb
  rw [star_of_ne hoa.named, star_of_ne hob.named]
  intro he
  have hsame := hoa.nick
  rw [he, hob.nick] at hsame
  exact hab (Option.some.inj hsame).symm

/-- the key that one account on line is entered under is not another's nick -/
theorem Owns.key_ne {a b : AccId} (ha : r.Owns a) (hb : r.Owns b) (hab : a ≠ b) :
    toLower (r.acc b).m_nick ≠ star (r.acc a).m_nick := by
  rw [star_of_ne ha.named]
  intro he
  have hfold : toLower (r.acc a).m_nick = (r.acc a).m_nick := by rw [← he, toLower_idem]
  have hsame := ha.nick
  rw [hfold, ← he, hb.nick] at hsame
  exact hab (Option.some.inj hsame).symm

theorem Owns.uid_ne {a b : AccId} (ha : r.Owns a) (hb : r.Owns b) (hab : a ≠ b) :
    (r.acc b).m_uid ≠ (r.acc a).m_uid := by
  intro he
  have hsame := ha.uuid
  rw [← he, hb.uuid] at hsame
  exact hab (Option.some.inj hsame).symm

/-! ## one step -/

/-- a connection changes its tasks or its nick only -/
theorem NickInv.updConn {f : ConnReg → ConnReg} (h : NickInv r)
    (hf : ∀ k, (f k).live = k.live ∧ (f k).is_ready = k.is_ready ∧ (f k).m_account = k.m_account)
    (hpending : (f (r.conn c)).setup_tasks.has .NICK = false →
      (r.conn c).setup_tasks.has .NICK = false → (r.conn c).m_nick ≠ [] →
        (f (r.conn c)).m_nick ≠ [])
    (hgive : (f (r.conn c)).setup_tasks.has .NICK = false →
      (r.conn c).setup_tasks.has .NICK = true → (f (r.conn c)).m_nick ≠ []) :
    NickInv (r.updConn c f) := by
  have honline (d : ConnId) (a : AccId) (hd : (r.updConn c f).Online d a) : r.Online d a := by
    unfold Online at hd ⊢
    rw [updConn_conn] at hd
    by_cases hx : d = c
    · rw [if_pos hx, (hf _).1, (hf _).2.1, (hf _).2.2] at hd
      rw [hx]
      exact hd
    · rw [if_neg hx] at hd
      exact hd
  refine ⟨h.quiet, fun d hlive hready => ?_, fun d a hd => ?_, fun d e a hd he => ?_⟩
  · rw [updConn_conn] at hlive hready ⊢
    by_cases hx : d = c
    · rw [if_pos hx] at hlive hready ⊢
      rw [(hf _).1] at hlive
      rw [(hf _).2.1] at hready
      obtain ⟨hacc, hnick⟩ := h.pending c hlive hready
      refine ⟨(hf _).2.2.trans hacc, fun ht => ?_⟩
      cases hold : (r.conn c).setup_tasks.has .NICK with
      | true => exact hgive ht hold
      | false => exact hpending ht hold (hnick hold)
    · rw [if_neg hx] at hlive hready ⊢
      exact h.pending d hlive hready
  · obtain ⟨h1, h2, h3, h4, h5⟩ := h.owns d a (honline d a hd)
    exact ⟨h1, h2, h3, h4, h5⟩
  · exact h.alone d e a (honline d a hd) (honline e a he)

theorem NickInv.registerNew (h : NickInv r) (hlive : (r.conn c).live = true) (hfin : r.Finishing c)
    (hfree : r.irc_nicks[toLower (r.conn c).m_nick]? = none)
    (hlower : toLower (r.conn c).m_nick = (r.conn c).m_nick) : NickInv (r.registerNew c) := by
  have hnick : (r.conn c).m_nick ≠ [] :=
    (h.pending c hlive hfin.1).2 (Flags.not_has_of_empty hfin.2 _)
  have honline (d : ConnId) (a : AccId) (hd : (r.registerNew c).Online d a) :
      (d = c ∧ a = r.nextAcc) ∨ (d ≠ c ∧ r.Online d a) := by
    unfold Online at hd ⊢
    rw [registerNew_conn] at hd
    by_cases hx : d = c
    · rw [if_pos hx] at hd
      exact Or.inl ⟨hx, (Option.some.inj hd.2.2).symm⟩
    · rw [if_neg hx] at hd
      exact Or.inr ⟨hx, hd⟩
  refine ⟨h.quiet, fun d hl hr => ?_, fun d a hd => ?_, fun d e a hd he => ?_⟩
  · rw [registerNew_conn] at hl hr ⊢
    by_cases hx : d = c
    · rw [if_pos hx] at hr
      cases hr
    · rw [if_neg hx] at hl hr ⊢
      exact h.pending d hl hr
  · rcases honline d a hd with ⟨-, rfl⟩ | ⟨-, hold⟩
    · -- the new account
      have hacc : ((r.registerNew c).acc r.nextAcc).m_nick = (r.conn c).m_nick := by simp
      have huid : ((r.registerNew c).acc r.nextAcc).m_uid = r.nextUuid := by simp
      refine ⟨Nat.lt_succ_self _, ?_, ?_, ?_, ?_⟩
      · rw [huid]
        exact Nat.lt_succ_self _
      · rw [huid]
        show (r.accounts_lookup_uuid.insert r.nextUuid r.nextAcc)[r.nextUuid]? = _
        rw [lookup_insert, if_pos rfl]
      · rw [hacc]
        exact hnick
      · rw [hacc, registerNew_irc_nicks, lookup_insert, star_of_ne hnick, if_pos hlower]
    · -- an account that was on line before
      have ho := h.owns d a hold
      have hacc : (r.registerNew c).acc a = r.acc a := by
        rw [registerNew_acc, if_neg (Nat.ne_of_lt ho.made)]
      refine ⟨Nat.lt_succ_of_lt ho.made, ?_, ?_, ?_, ?_⟩
      · rw [hacc]
        exact Nat.lt_succ_of_lt ho.uid_lt
      · rw [hacc]
        show (r.accounts_lookup_uuid.insert r.nextUuid r.nextAcc)[(r.acc a).m_uid]? = _
        rw [lookup_insert, if_neg (Nat.ne_of_lt ho.uid_lt)]
        exact ho.uuid
      · rw [hacc]
        exact ho.named
      · rw [hacc, registerNew_irc_nicks, lookup_insert, star_of_ne hnick, if_neg]
        · exact ho.nick
        · intro he
          rw [← hlower] at he
          have hsome := ho.nick
          rw [he, hfree] at hsome
          cases hsome
  · rcases honline d a hd with ⟨rfl, rfl⟩ | ⟨-, hold⟩
    · rcases honline e _ he with ⟨rfl, -⟩ | ⟨-, hold'⟩
      · rfl
      · exact absurd (h.owns e _ hold').made (Nat.lt_irrefl _)
    · rcases honline e a he with ⟨-, rfl⟩ | ⟨-, hold'⟩
      · exact absurd (h.owns d _ hold).made (Nat.lt_irrefl _)
      · exact h.alone d e a hold hold'

theorem NickInv.rename {a self : AccId} {old new : Bytes} (h : NickInv r) (hon : r.Online c a)
    (hself : r.accounts_lookup_uuid[(r.acc a).m_uid]? = some self) (hnew : new ≠ [])
    (hfree : r.irc_nicks[toLower new]? = none ∨ r.irc_nicks[toLower new]? = some self)
    (hold : old = star (r.acc a).m_nick) : NickInv (r.rename a self old new) := by
  have hoa := h.owns c a hon
  have hsa : self = a := by
    rw [hoa.uuid] at hself
    exact (Option.some.inj hself).symm
  subst hsa
  have huid (b : AccId) : ((r.rename self self old new).acc b).m_uid = (r.acc b).m_uid := by
    rw [rename_acc]
    by_cases hb : b = self
    · rw [if_pos hb, hb]
    · rw [if_neg hb]
  refine ⟨h.quiet, h.pending, fun d b hd => ?_, h.alone⟩
  have hob := h.owns d b hd
  refine ⟨hob.made, ?_, ?_, ?_, ?_⟩
  · rw [huid]
    exact hob.uid_lt
  · rw [huid]
    exact hob.uuid
  · rw [rename_acc]
    by_cases hb : b = self
    · rw [if_pos hb]
      exact hnew
    · rw [if_neg hb]
      exact hob.named
  · show ((r.irc_nicks.erase old).insert (toLower new) self)[_]? = _
    rw [rename_acc]
    by_cases hb : b = self
    · rw [if_pos hb, lookup_insert, if_pos rfl, hb]
    · have hkey : toLower (r.acc b).m_nick ≠ toLower new := by
        intro he
        have hsome := hob.nick
        rw [he] at hsome
        rcases hfree with hf | hf
        · rw [hf] at hsome
          cases hsome
        · rw [hf] at hsome
          exact hb (Option.some.inj hsome).symm
      rw [if_neg hb, lookup_insert, if_neg hkey, lookup_erase, if_neg]
      · exact hob.nick
      · rw [hold]
        exact hoa.key_ne hob (Ne.symm hb)

theorem NickInv.connect (h : NickInv r) : NickInv r.connect := by
  have hconn (d : ConnId) : r.connect.conn d =
      if d = r.nextConn then { ({} : Conn).reg with live := true } else r.conn d := rfl
  have honline (d : ConnId) (a : AccId) (hd : r.connect.Online d a) : r.Online d a := by
    unfold Online at hd ⊢
    rw [hconn] at hd
    by_cases hx : d = r.nextConn
    · rw [if_pos hx] at hd
      cases hd.2.2
    · rw [if_neg hx] at hd
      exact hd
  refine ⟨h.quiet, fun d hl hr => ?_, fun d a hd => ?_, fun d e a hd he => ?_⟩
  · rw [hconn] at hl hr ⊢
    by_cases hx : d = r.nextConn
    · rw [if_pos hx]
      exact ⟨rfl, fun ht => absurd ht (by decide)⟩
    · rw [if_neg hx] at hl hr ⊢
      exact h.pending d hl hr
  · obtain ⟨h1, h2, h3, h4, h5⟩ := h.owns d a (honline d a hd)
    exact ⟨h1, Nat.lt_succ_of_lt h2, h3, h4, h5⟩
  · exact h.alone d e a (honline d a hd) (honline e a he)

theorem NickInv.disconnect (h : NickInv r) (hlive : (r.conn c).live = true) :
    NickInv (r.disconnect c) := by
  have hdead {d : ConnId} (hd : ((r.disconnect c).conn d).live = true) :
      d ≠ c ∧ (r.disconnect c).conn d = r.conn d := by
    rw [disconnect_conn] at hd ⊢
    by_cases hx : d = c
    · rw [if_pos hx] at hd
      cases hd
    · exact ⟨hx, if_neg hx⟩
  have honline (d : ConnId) (a : AccId) (hd : (r.disconnect c).Online d a) :
      d ≠ c ∧ r.Online d a := by
    obtain ⟨hx, hsame⟩ := hdead hd.1
    unfold Online at hd ⊢
    rw [hsame] at hd
    exact ⟨hx, hd⟩
  -- the connection that goes is on line on another account, or has none
  have hother (d : ConnId) (b : AccId) (hx : d ≠ c) (hd : r.Online d b) (a : AccId)
      (ha : (r.conn c).m_account = some a) : r.Owns a ∧ a ≠ b := by
    have hready : (r.conn c).is_ready = true := by
      by_contra hne
      rw [(h.pending c hlive (Bool.not_eq_true _ ▸ hne)).1] at ha
      cases ha
    have hc : r.Online c a := ⟨hlive, hready, ha⟩
    refine ⟨h.owns c a hc, fun he => ?_⟩
    subst he
    exact hx (h.alone d c a hd hc)
  obtain ⟨-, hnextAcc, hnextUuid, hevents⟩ := disconnect_next r c
  refine ⟨hevents ▸ h.quiet, fun d hl hr => ?_, fun d b hd => ?_, fun d e a hd he => ?_⟩
  · obtain ⟨-, hsame⟩ := hdead hl
    rw [hsame] at hl hr ⊢
    exact h.pending d hl hr
  · obtain ⟨hx, hd⟩ := honline d b hd
    have hob := h.owns d b hd
    have hacc : ((r.disconnect c).acc b).m_uid = (r.acc b).m_uid ∧
        ((r.disconnect c).acc b).m_nick = (r.acc b).m_nick := by
      rw [disconnect_acc]
      split <;> exact ⟨rfl, rfl⟩
    refine ⟨hnextAcc ▸ hob.made, ?_, ?_, ?_, ?_⟩
    · rw [hacc.1, hnextUuid]
      exact hob.uid_lt
    · rw [hacc.1, disconnect_lookup_uuid]
      · exact hob.uuid
      · intro a self ha hself
        obtain ⟨hoa, hab⟩ := hother d b hx hd a ha
        rw [hoa.uuid] at hself
        cases hself
        exact hoa.uid_ne hob hab
    · rw [hacc.2]
      exact hob.named
    · rw [hacc.2, disconnect_irc_nicks]
      · exact hob.nick
      · intro a ha
        obtain ⟨hoa, hab⟩ := hother d b hx hd a ha
        unfold nick
        rw [ha]
        exact hoa.key_ne hob hab
  · exact h.alone d e a (honline d a hd).2 (honline e a he).2

/-- **One step.**  With lower-case registrations and no login, the invariant stays. -/
theorem SysStep.nickInv {l : SysLabel} {r r' : Reg} (hl : l.Lower) (h : NickInv r)
    (hstep : SysStep l r r') : NickInv r' := by
  cases hstep with
  | connect => exact h.connect
  | disconnect hlive => exact h.disconnect hlive
  | @conn c _ _ _ hlive hstep =>
    cases hstep with
    | giveNick hn => exact h.updConn (fun _ => ⟨rfl, rfl, rfl⟩) (fun _ _ _ => hn) fun _ _ => hn
    | clear ht =>
      refine h.updConn (fun _ => ⟨rfl, rfl, rfl⟩) (fun _ _ hnick => hnick) fun hgone hthere => ?_
      rw [Flags.has_clear, hthere] at hgone
      simp [Ne.symm ht] at hgone
    | refuse => exact ⟨h.quiet, h.pending, fun d a hd => (by
        obtain ⟨h1, h2, h3, h4, h5⟩ := h.owns d a hd
        exact ⟨h1, h2, h3, h4, h5⟩), h.alone⟩
    | registerNew hfin hacc hfree => exact h.registerNew hlive hfin hfree hl
    | registerOld hfin hacc =>
      rw [(h.pending c hlive hfin.1).1] at hacc
      cases hacc
    | @rename a _ _ _ _ hacc hself hnew hfree hold =>
      have hready : (r.conn c).is_ready = true := by
        by_contra hne
        rw [(h.pending c hlive (Bool.not_eq_true _ ▸ hne)).1] at hacc
        cases hacc
      exact h.rename ⟨hlive, hready, hacc⟩ hself hnew hfree (hold h.quiet)
    | login => exact hl.elim
    | relogin => exact hl.elim
    | merge => exact hl.elim

end

end Reg

/-! ## runs of the server -/

namespace client_connection
open World

instance (r : Reg) (c : ConnId) : Decidable (r.Finishing c) :=
  inferInstanceAs (Decidable (_ ∧ _))

/-- the nick of the account that an attempt to finish the setup makes -/
def finishingNick (env : Env) (c : ConnId) (w : World) : Option Bytes :=
  if w.reg.Finishing c ∧ (w.conn c).m_account = none ∧ (setupRefused env c w).isNone then
    some (w.conn c).m_nick
  else none

/-- the nick under which a line registers a new account -/
def registeringNick (env : Env) (c : ConnId) (line : Bytes) (w : World) : Option Bytes :=
  let w' := handlerWorld c line w
  let tasks := (w'.conn c).setup_tasks
  match lineCommand c line w with
  | some (.NICK, n :: _) =>
    if isValidNick env n ∧ tasks.has .NICK then finishingNick env c (giveNick c n w') else none
  | some (.USER, u :: rest) =>
    if 3 ≤ rest.length ∧ u.length ≤ 16 ∧ tasks.has .USER then
      finishingNick env c (clearTask c .USER w')
    else none
  | some (.CAP, sub_cmd :: _) =>
    if sub_cmd = ascii "END" ∧ tasks.has .CAP_EXCHANGE then
      finishingNick env c (clearTask c .CAP_EXCHANGE w')
    else none
  | _ => none

section
variable {env : Env} {c : ConnId} {line n : Bytes} {w : World}

theorem Registers.finishingNick (h : Registers env c n w) : finishingNick env c w = some n := by
  unfold client_connection.finishingNick
  rw [if_pos ⟨h.finishing, h.anonymous, by rw [h.accepted]; rfl⟩, h.nick]

/-- a registration comes from a line that says under which nick -/
theorem LineLabel.registeringNick (h : LineLabel env c line w (.registerNew n)) :
    registeringNick env c line w = some n := by
  obtain ⟨cmd, args, hcmd, hl⟩ := h
  unfold client_connection.registeringNick
  dsimp only
  rw [hcmd]
  cases cmd with
  | NICK =>
    obtain ⟨n', ⟨hn, hvalid, htask⟩, hreg⟩ := hl
    cases args with
    | nil => cases hn
    | cons m rest =>
      cases hn
      dsimp only
      rw [if_pos ⟨hvalid, htask⟩]
      exact Registers.finishingNick hreg
  | USER =>
    obtain ⟨⟨hlen, ⟨u, hu, hshort⟩, htask⟩, hreg⟩ := hl
    cases args with
    | nil => cases hu
    | cons m rest =>
      cases hu
      dsimp only
      rw [if_pos ⟨Nat.le_of_succ_le_succ hlen, hshort, htask⟩]
      exact Registers.finishingNick hreg
  | CAP =>
    obtain ⟨⟨hsub, htask⟩, hreg⟩ := hl
    cases args with
    | nil => cases hsub
    | cons m rest =>
      cases hsub
      dsimp only
      rw [if_pos ⟨rfl, htask⟩]
      exact Registers.finishingNick hreg
  | _ => cases hl

end

end client_connection

namespace Worker
open World client_connection

/-- the event is an AUTHENTICATE line -/
def isLogin (w : World) : Event → Bool
  | .line c line =>
    match lineCommand c line w with
    | some (.AUTHENTICATE, _) => true
    | _ => false
  | _ => false

/-- the nick under which the event registers a new account -/
def registered (env : Env) (w : World) : Event → Option Bytes
  | .line c line => registeringNick env c line w
  | _ => none

/-- a server that nobody is connected to; accounts and registries may be there -/
def NobodyConnected (w : World) : Prop := ∀ c, (w.conn c).live = false

section
variable {env : Env} {w w' : World} {evs : List Event}

/-- an event that is no AUTHENTICATE line takes no step of a login -/
theorem EventLabel.not_login {ev : Event} {c : ConnId} {l : Reg.Label} (hlogin : isLogin w ev = false)
    (h : EventLabel env w ev (.conn c l)) : l.isLogin = false := by
  cases ev with
  | line d line =>
    by_contra hl
    obtain ⟨args, hcmd⟩ := h.2.auth (Bool.not_eq_false _ ▸ hl)
    unfold isLogin at hlogin
    dsimp only at hlogin
    rw [hcmd] at hlogin
    cases hlogin
  | connect => cases h
  | deliver => cases h
  | disconnect => cases h

theorem EventLabel.lower {ev : Event} {l : Reg.SysLabel} (hlogin : isLogin w ev = false)
    (hlower : ∀ n ∈ registered env w ev, toLower n = n) (h : EventLabel env w ev l) : l.Lower := by
  cases l with
  | conn d k =>
    have hk := h.not_login hlogin
    cases k with
    | registerNew n =>
      cases ev with
      | line c line => exact hlower n h.2.registeringNick
      | connect => cases h
      | deliver => cases h
      | disconnect => cases h
    | login => cases hk
    | relogin => cases hk
    | merge => cases hk
    | _ => trivial
  | _ => trivial

/-- **Nick uniqueness.**  In every run of registrations, nick changes and disconnections without
Python handlers in which new accounts have lower-case nicks, and in every state of it, two accounts
on line have nicks that differ after folding. -/
theorem nicks_differ_of_lower (hempty : NobodyConnected w) (hpy : w.NoHandlers)
    (hlogin : AllSteps (step env) (fun w ev => isLogin w ev = false) w evs)
    (hlower : AllSteps (step env) (fun w ev => ∀ n ∈ registered env w ev, toLower n = n) w evs)
    (hrun : run (step env) w evs = .ok w') {c d : ConnId} {a b : AccId} (ha : w'.reg.Online c a)
    (hb : w'.reg.Online d b) (hab : a ≠ b) : toLower (w'.accNick a) ≠ toLower (w'.accNick b) := by
  have hdead {c : ConnId} (hlive : (w.reg.conn c).live = true) : False := by
    have h : (w.reg.conn c).live = false := hempty c
    rw [h] at hlive
    cases hlive
  have hinit : w.reg.NickInv :=
    ⟨hpy .NICK_CHANGE, fun _ h _ => (hdead h).elim, fun _ _ h => (hdead h.1).elim,
      fun _ _ _ h => (hdead h.1).elim⟩
  have hinv : w'.reg.NickInv := by
    refine run_inv_of_steps (P := Reg.SysLabel.Lower) (C := fun w ev => isLogin w ev = false ∧
        ∀ n ∈ registered env w ev, toLower n = n) (fun _ _ _ hC hl => hl.lower hC.1 hC.2)
      (fun _ _ _ hl hI h => h.nickInv hl hI) hinit (hlogin.and hlower) hrun
  exact hinv.differ ha hb hab

end

set_option maxRecDepth 4000 in
/-- two clients register as Bob -/
theorem nicks_collide : ∃ w', run (step Env.ascii) World.empty
      (registration 0 false "Bob" ++ registration 1 false "Bob") = .ok w' ∧
    w'.reg.Online 0 0 ∧ w'.reg.Online 1 1 ∧ toLower (w'.accNick 0) = toLower (w'.accNick 1) :=
  ⟨_, run_both (letsIn_empty (by decide) (by decide))
    (letsIn_second (by decide) (by decide) rfl) false, ⟨rfl, rfl, rfl⟩, ⟨rfl, rfl, rfl⟩, rfl⟩

set_option maxRecDepth 4000 in
theorem nicks_differ_of_lower_two : ∃ w', run (step Env.ascii) World.empty
      (registration 0 false "bob" ++ registration 1 false "eve") = .ok w' ∧
    toLower (w'.accNick 0) ≠ toLower (w'.accNick 1) := by
  have hbobIn : LetsIn Env.ascii 0 "bob" World.empty := letsIn_empty (by decide) (by decide)
  have heveIn : LetsIn Env.ascii 1 "eve" (letIn Env.ascii 0 false "bob" World.empty) :=
    letsIn_second (by decide) (by decide) rfl
  have hlogin : checkSteps (step Env.ascii) (fun w ev => !isLogin w ev) World.empty
      (registration 0 false "bob" ++ registration 1 false "eve") = true := by
    rw [check_registration hbobIn]
    rfl
  have hlower : checkSteps (step Env.ascii)
      (fun w ev => (registered Env.ascii w ev).all fun n => toLower n == n) World.empty
      (registration 0 false "bob" ++ registration 1 false "eve") = true := by
    rw [check_registration hbobIn]
    rfl
  have hend : ∃ w', run (step Env.ascii) World.empty (registration 0 false "bob" ++ registration 1 false "eve") =
      .ok w' ∧ w'.reg.Online 0 0 ∧ w'.reg.Online 1 1 :=
    ⟨_, run_both hbobIn heveIn false, ⟨rfl, rfl, rfl⟩, ⟨rfl, rfl, rfl⟩⟩
  obtain ⟨w', hrun, hbob, heve⟩ := hend
  refine ⟨w', hrun, nicks_differ_of_lower (fun _ => rfl) (fun e => by cases e <;> rfl) ?_ ?_ hrun
    hbob heve (by decide)⟩
  · exact (allSteps_of_check hlogin).mono fun w ev h => by simpa using h
  · exact (allSteps_of_check hlower).mono fun w ev h n hn => by
      rw [Option.mem_def.mp hn] at h
      simpa using h

end Worker

end Chatripper
