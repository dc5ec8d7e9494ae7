import Mathlib
import Chatripper.FirstLogin

/-!
# Nobody comes in without a password

While no handler decides on SASL, a client speaks for a named account only after a line of its own has
given the password of that account, checked against the hash that the database had when the server started.

* `SysStep.takes_account`, `SysStep.logs_in`   what a step of a login is;
* `provenAccount_password`   a response that proves an account has its password;
* `run_row`                  the name and the hash of an account are those of its row;
* `logged_in_by_password`    every login of a run from the start has a password.
-/

namespace Chatripper
open ByteStr Utf8 Outcome

/-! ## the steps of a login -/

namespace Reg

section
variable {l : SysLabel} {r r' : Reg} {c : ConnId} {a : AccId}

/-- an account that has a name after a step had it before, with the same row -/
theorem SysStep.row_back (hstep : SysStep l r r') (ha : a < r'.nextAcc) (hname : (r'.acc a).m_name ≠ []) :
    a < r.nextAcc ∧ (r'.acc a).row = (r.acc a).row := by
  have hsame {b : AccId} {k : AccReg} (hk : k.row = (r.acc b).row) :
      (if a = b then k else r.acc a).row = (r.acc a).row := by
    split
    · next hx => rw [hk, hx]
    · rfl
  cases hstep with
  | connect => exact ⟨ha, rfl⟩
  | @disconnect c =>
    rw [(disconnect_next r c).2.1] at ha
    refine ⟨ha, ?_⟩
    rw [disconnect_acc]
    split <;> rfl
  | conn _ hstep =>
    cases hstep with
    | registerNew =>
      rw [registerNew_acc] at hname ⊢
      by_cases hx : a = r.nextAcc
      · rw [if_pos hx] at hname
        exact absurd rfl hname
      · rw [if_neg hx]
        exact ⟨Nat.lt_of_le_of_ne (Nat.le_of_lt_succ ha) hx, rfl⟩
    | @registerOld b =>
      rw [registerOld_acc]
      exact ⟨ha, hsame rfl⟩
    | @rename b =>
      rw [rename_acc]
      exact ⟨ha, hsame rfl⟩
    | @merge d b =>
      refine ⟨ha, ?_⟩
      show (if a = b then _ else if a = d then _ else r.acc a : AccReg).row = _
      by_cases hb : a = b
      · rw [if_pos hb, hb]
        show (if b = d then _ else r.acc b : AccReg).row = _
        by_cases hd : b = d
        · rw [if_pos hd, hd]
          rfl
        · rw [if_neg hd]
      · rw [if_neg hb]
        exact hsame rfl
    | _ => exact ⟨ha, rfl⟩

/-- a connection comes to a named account by a login to it -/
theorem SysStep.takes_account (hstep : SysStep l r r') (hname : (r'.acc a).m_name ≠ [])
    (hbefore : (r.conn c).m_account ≠ some a) (hafter : (r'.conn c).m_account = some a) :
    l = .conn c (.login a) := by
  cases hstep with
  | connect =>
    replace hafter : (if c = r.nextConn then _ else r.conn c : ConnReg).m_account = some a := hafter
    split at hafter
    · cases hafter
    · exact absurd hafter hbefore
  | disconnect =>
    rw [disconnect_conn] at hafter
    split at hafter
    · next hx => exact absurd (hx ▸ hafter) hbefore
    · exact absurd hafter hbefore
  | @conn d _ _ _ hlive hstep =>
    by_cases hd : c = d
    · subst hd
      cases hstep with
      | giveNick =>
        rw [giveNick_conn, if_pos rfl] at hafter
        exact absurd hafter hbefore
      | clear =>
        rw [clear_conn, if_pos rfl] at hafter
        exact absurd hafter hbefore
      | registerNew =>
        rw [registerNew_conn, if_pos rfl] at hafter
        rw [← Option.some.inj hafter, registerNew_acc, if_pos rfl] at hname
        exact absurd rfl hname
      | registerOld h hacc =>
        rw [registerOld_conn, if_pos rfl] at hafter
        exact absurd (hacc.trans hafter) hbefore
      | login hacc =>
        rw [login_conn, if_pos rfl, hacc] at hafter
        cases hafter
        rfl
      | relogin hacc =>
        rw [login_conn, if_pos rfl, hacc] at hafter
        exact absurd (hacc.trans hafter) hbefore
      | merge hacc =>
        rw [login_conn, if_pos rfl, merge_conn, hacc] at hafter
        exact absurd (hacc.trans hafter) hbefore
      | refuse => exact absurd hafter hbefore
      | rename => exact absurd hafter hbefore
    · have hsame : r'.conn c = r.conn c := by
        cases hstep <;> simp [hd]
      exact absurd (hsame ▸ hafter) hbefore

/-- a connection is logged in by a step of a login -/
theorem SysStep.logs_in (hstep : SysStep l r r') (hbefore : (r.conn c).logged_in = false)
    (hafter : (r'.conn c).logged_in = true) : ∃ k, l = .conn c k ∧ k.isLogin = true := by
  have hnot {k : ConnReg} (hk : k.logged_in = true) (he : k.logged_in = (r.conn c).logged_in) : False := by
    rw [he, hbefore] at hk
    cases hk
  cases hstep with
  | connect =>
    replace hafter : (if c = r.nextConn then _ else r.conn c : ConnReg).logged_in = true := hafter
    split at hafter
    · cases hafter
    · exact (hnot hafter rfl).elim
  | disconnect =>
    rw [disconnect_conn] at hafter
    split at hafter
    · next hx => exact (hnot hafter (by rw [hx])).elim
    · exact (hnot hafter rfl).elim
  | @conn d _ _ _ hlive hstep =>
    by_cases hd : c = d
    · subst hd
      cases hstep with
      | login => exact ⟨_, rfl, rfl⟩
      | relogin => exact ⟨_, rfl, rfl⟩
      | merge => exact ⟨_, rfl, rfl⟩
      | _ => exact (hnot hafter (by simp)).elim
    · exact (hnot hafter (by cases hstep <;> simp [hd])).elim

end

end Reg

/-! ## what a response proves -/

namespace client_connection
open World

/-- the line is an AUTHENTICATE that gives the name of a row and a password that its hash accepts -/
def GivesPassword (env : Env) (c : ConnId) (line : Bytes) (row : AccountRow) (w : World) : Prop :=
  ∃ args arg authz password, lineCommand c line w = some (.AUTHENTICATE, args) ∧ args.head? = some arg ∧
    arg ≠ ascii "PLAIN" ∧ saslPlain arg = [authz, row.username, password] ∧ password ≠ [] ∧
    row.password ≠ [] ∧ env.validatePassword password row.password = true

section
variable {env : Env} {c : ConnId} {args : List Bytes} {line : Bytes} {a : AccId} {w : World}

/-- without a handler, an account is proved by its password -/
theorem provenAccount_password (hactive : w.snakepit.hasEventHandler .AUTH_SASL_PLAIN = false)
    (h : provenAccount env c args w = some a) : ∃ arg authz username password,
      args.head? = some arg ∧ arg ≠ ascii "PLAIN" ∧ saslPlain arg = [authz, username, password] ∧
      Account.get_by_name w username = some a ∧ password ≠ [] ∧ (w.acc a).m_password ≠ [] ∧
      env.validatePassword password (w.acc a).m_password = true := by
  unfold provenAccount at h
  split at h
  · cases h
  · next arg rest =>
    split at h
    · cases h
    · next hplain =>
      split at h
      · next authz username password hcred =>
        obtain ⟨b, hb, h⟩ := Option.bind_eq_some_iff.mp h
        unfold Account.verifyPassword authEvent at h
        dsimp only at h
        rw [hactive, if_neg Bool.false_ne_true] at h
        by_cases hempty : password = [] ∨ (w.acc b).m_password = []
        · rw [if_pos hempty] at h
          cases h
        · rw [if_neg hempty] at h
          cases hvalid : env.validatePassword password (w.acc b).m_password with
          | false =>
            rw [hvalid] at h
            cases h
          | true =>
            rw [hvalid] at h
            cases h
            rw [not_or] at hempty
            exact ⟨arg, authz, username, password, rfl, hplain, hcred, hb, hempty.1, hempty.2, hvalid⟩
      · cases h

/-- a step of a login is one of a line that gives a password -/
theorem LineLabel.gives {k : Reg.Label} (h : LineLabel env c line w k) (hk : k.isLogin = true)
    (hinv : w.reg.RegistryInv) (hactive : w.snakepit.hasEventHandler .AUTH_SASL_PLAIN = false) :
    ∃ a ∈ w.ctx.accounts, (w.acc a).m_name ≠ [] ∧ GivesPassword env c line (w.acc a).reg.row w ∧
      ∀ b, k = .login b → b = a := by
  obtain ⟨args, hcmd⟩ := h.auth hk
  obtain ⟨cmd, args', hcmd', hlabel⟩ := h
  rw [hcmd] at hcmd'
  cases hcmd'
  have hreg := reg_handlerWorld (c := c) (w := w) line
  have hproven : ∃ a, provenAccount env c args (handlerWorld c line w) = some a ∧
      ∀ b, k = .login b → b = a := by
    cases k with
    | login a =>
      have ha : provenAccount env c args (handlerWorld c line w) = some a := hlabel
      exact ⟨a, ha, fun b hb => by cases hb; rfl⟩
    | relogin b =>
      obtain ⟨a, ha⟩ := Option.isSome_iff_exists.mp hlabel
      exact ⟨a, ha, nofun⟩
    | merge a b => exact ⟨a, hlabel.1, nofun⟩
    | _ => cases hk
  obtain ⟨a, ha, hlogin⟩ := hproven
  have hquiet : (handlerWorld c line w).snakepit.hasEventHandler .AUTH_SASL_PLAIN = false := by
    have hsame : (handlerWorld c line w).snakepit.m_activeEvents = w.snakepit.m_activeEvents :=
      congrArg Reg.activeEvents hreg
    unfold SnakePit.hasEventHandler
    rw [hsame]
    exact hactive
  obtain ⟨arg, authz, username, password, harg, hplain, hcred, hname, hpass, hhash, hvalid⟩ :=
    provenAccount_password hquiet ha
  have hlookup : w.reg.accounts_lookup_name[username]? = some a := hreg ▸ hname
  obtain ⟨hmem, huser, hne⟩ := (hinv.name username a).mp hlookup
  have hstored : ((handlerWorld c line w).acc a).m_password = (w.acc a).m_password :=
    congrArg (fun r => (r.acc a).m_password) hreg
  rw [hstored] at hhash hvalid
  have hnamed : (w.acc a).m_name = username := huser
  refine ⟨a, hmem, hnamed ▸ hne, ⟨args, arg, authz, password, hcmd, harg, hplain, ?_, hpass, hhash, hvalid⟩,
    hlogin⟩
  rw [hcred, ← hnamed]
  rfl

end

end client_connection

/-! ## what a run needs for a login -/

namespace Worker
open client_connection

/-- a line of the connection has given the password of the row -/
def Gave (env : Env) (c : ConnId) (row : AccountRow) (w : World) (evs : List Event) : Prop :=
  ∃ pre line post m, evs = pre ++ .line c line :: post ∧ run (step env) w pre = .ok m ∧
    GivesPassword env c line row m

section
variable {env : Env} {w w' : World} {evs : List Event} {c : ConnId} {a : AccId}

theorem EventLabel.line {ev : Event} {k : Reg.Label} (h : EventLabel env w ev (.conn c k)) :
    ∃ line, ev = .line c line ∧ LineLabel env c line w k := by
  cases ev with
  | line d line =>
    obtain ⟨rfl, hlabel⟩ := h
    exact ⟨line, rfl, hlabel⟩
  | _ => cases h

theorem run_activeEvents (hrun : run (step env) w evs = .ok w') :
    w'.snakepit.m_activeEvents = w.snakepit.m_activeEvents :=
  run_inv_of_steps (I := fun r => r.activeEvents = w.reg.activeEvents) (C := fun _ _ => True)
    (P := fun _ => True) (fun _ _ _ _ _ => trivial) (fun _ _ _ _ hI hs => hs.activeEvents.trans hI) rfl
    (allSteps_true w evs) hrun

/-- **A run** keeps the rows of the accounts, and gives no other account a name. -/
theorem run_row (hrun : run (step env) w evs = .ok w') (ha : a < w'.nextAcc)
    (hname : (w'.acc a).m_name ≠ []) : a < w.nextAcc ∧ (w'.acc a).reg.row = (w.acc a).reg.row := by
  refine run_inv_of_steps (I := fun r => ∀ a < r.nextAcc, (r.acc a).m_name ≠ [] →
      a < w.nextAcc ∧ (r.acc a).row = (w.acc a).reg.row) (C := fun _ _ => True) (P := fun _ => True)
    (fun _ _ _ _ _ => trivial) (fun l r r' _ hI hs a ha hname => ?_) (fun a ha _ => ⟨ha, rfl⟩)
    (allSteps_true w evs) hrun a ha hname
  obtain ⟨hlt, hrow⟩ := hs.row_back ha hname
  rw [hrow]
  refine hI a hlt ?_
  rw [← show (r'.acc a).m_name = (r.acc a).m_name from congrArg AccountRow.username hrow]
  exact hname

/-- what only a step of a login on the connection brings about, a line brings about that gives a password -/
theorem run_gives {P : Reg → Prop} {Q : Reg.Label → Prop}
    (hP : ∀ l r r', r.RegistryInv → Reg.SysStep l r r' → ¬ P r → P r' →
      ∃ k, l = .conn c k ∧ k.isLogin = true ∧ Q k)
    (hinv : w.reg.RegistryInv) (hactive : w.snakepit.hasEventHandler .AUTH_SASL_PLAIN = false)
    (hrun : run (step env) w evs = .ok w') (hbefore : ¬ P w.reg) (hafter : P w'.reg) :
    ∃ k a, Q k ∧ (∀ b, k = .login b → b = a) ∧ a < w.nextAcc ∧ Gave env c (w.acc a).reg.row w evs := by
  obtain ⟨pre, ev, post, m, m', hevs, hpre, hstep, hm, hm'⟩ :=
    run_flips (P := fun w => P w.reg) hrun hbefore hafter
  have hinvm := run_registryInv hinv hpre
  have hactivem : m.snakepit.hasEventHandler .AUTH_SASL_PLAIN = false := by
    unfold SnakePit.hasEventHandler
    rw [run_activeEvents hpre]
    exact hactive
  obtain ⟨ls, hchain, hls⟩ := step_chain hstep
  -- if no label of the event is a login with `Q`, the chain keeps `P` from coming about
  obtain ⟨k, hk, hlogin, hQ⟩ : ∃ k, EventLabel env m ev (.conn c k) ∧ k.isLogin = true ∧ Q k := by
    by_contra hnone
    have hkeeps := hchain.inv (I := fun r => r.RegistryInv ∧ ¬ P r)
      (P := fun l => ∀ k, l = .conn c k → k.isLogin = true → ¬ Q k) (fun l r r' hl hI hs => ?_)
      (fun l hl k he hlogin hQ => hnone ⟨k, he ▸ hls l hl, hlogin, hQ⟩) ⟨hinvm, hm⟩
    · exact hkeeps.2 hm'
    · refine ⟨hs.registryInv hI.1, fun hr' => ?_⟩
      obtain ⟨k, he, hlogin, hQ⟩ := hP l r r' hI.1 hs hI.2 hr'
      exact hl k he hlogin hQ
  obtain ⟨line, rfl, hlabel⟩ := hk.line
  obtain ⟨a, hmem, hname, hgives, hsame⟩ := hlabel.gives hlogin hinvm hactivem
  obtain ⟨hlt, hrow⟩ := run_row hpre (hinvm.made_lt a hmem) hname
  refine ⟨k, a, hQ, hsame, hlt, pre, line, post, m, hevs, hpre, ?_⟩
  rw [← hrow]
  exact hgives

/-- a connection that is logged in has given a password -/
theorem run_logged_in (hinv : w.reg.RegistryInv)
    (hactive : w.snakepit.hasEventHandler .AUTH_SASL_PLAIN = false)
    (hrun : run (step env) w evs = .ok w') (hout : (w.conn c).logged_in = false)
    (hlogged : (w'.conn c).logged_in = true) : ∃ a < w.nextAcc, Gave env c (w.acc a).reg.row w evs := by
  have hbefore : ¬ (w.reg.conn c).logged_in = true := fun h => Bool.false_ne_true (hout.symm.trans h)
  have hgives := run_gives (P := fun r => (r.conn c).logged_in = true) (Q := fun _ => True) (c := c)
    (fun l r r' _ hs hr hr' => ?_) hinv hactive hrun hbefore hlogged
  · obtain ⟨_, a, -, -, hlt, hgave⟩ := hgives
    exact ⟨a, hlt, hgave⟩
  · obtain ⟨k, he, hk⟩ := hs.logs_in (Bool.eq_false_of_not_eq_true hr) hr'
    exact ⟨k, he, hk, trivial⟩

/-- a connection that has come to a named account has given its password -/
theorem run_account (hinv : w.reg.RegistryInv)
    (hactive : w.snakepit.hasEventHandler .AUTH_SASL_PLAIN = false)
    (hrun : run (step env) w evs = .ok w') (hout : (w.conn c).m_account = none)
    (hacc : (w'.conn c).m_account = some a) (hname : (w'.acc a).m_name ≠ []) :
    a < w.nextAcc ∧ Gave env c (w'.acc a).reg.row w evs := by
  have hmade : a < w'.nextAcc := (run_registryInv hinv hrun).made c a hacc
  obtain ⟨hlt, hrow⟩ := run_row hrun hmade hname
  have hbefore : ¬ ((w.reg.conn c).m_account = some a ∧ (w.reg.acc a).m_name ≠ []) := by
    rintro ⟨h, -⟩
    cases hout.symm.trans h
  have hgives := run_gives (P := fun r => (r.conn c).m_account = some a ∧ (r.acc a).m_name ≠ [])
    (Q := fun k => k = .login a) (c := c) (fun l r r' hI hs hr hr' => ?_) hinv hactive hrun hbefore
    ⟨hacc, hname⟩
  · obtain ⟨_, b, rfl, hb, -, hgave⟩ := hgives
    obtain rfl := hb a rfl
    rw [hrow]
    exact ⟨hlt, hgave⟩
  · refine ⟨_, hs.takes_account hr'.2 (fun he => hr ⟨he, ?_⟩) hr'.1, rfl, rfl⟩
    obtain ⟨-, hback⟩ := hs.row_back ((hI.made c a he).trans_le hs.nextAcc_le) hr'.2
    rw [← show (r'.acc a).m_name = (r.acc a).m_name from congrArg AccountRow.username hback]
    exact hr'.2

end

end Worker

open Worker client_connection Startup

/-- **Nobody comes in without a password.**  After the start and whatever clients have done since, while no
handler decides on SASL: a client that is logged in has given the password of a row of the accounts, and
one that speaks for a named account has given that of the row of this account.  The hash is the one that
the row had when the server started. -/
theorem logged_in_by_password {senv : StartupEnv} {env : Env} {tables : Tables}
    (htables : tables.WellNamed) {file : Option Startup.Preload} (hfile : ∀ root ∈ file, root.Named)
    {snakepit : SnakePit} (hactive : snakepit.hasEventHandler .AUTH_SASL_PLAIN = false) {uuid : Uuid}
    (huuid : ∀ row ∈ (Ctx.init senv tables file).tables.accounts, row.id < uuid)
    {evs : List Event} {w : World}
    (hrun : run (step env) (Ctx.launch senv tables file snakepit uuid) evs = .ok w) (c : ConnId) :
    ((w.conn c).logged_in = true → ∃ row ∈ (Ctx.init senv tables file).tables.accounts,
        Gave env c row (Ctx.launch senv tables file snakepit uuid) evs) ∧
      ∀ a, (w.conn c).m_account = some a → (w.acc a).m_name ≠ [] →
        (w.acc a).reg.row ∈ (Ctx.init senv tables file).tables.accounts ∧
          Gave env c (w.acc a).reg.row (Ctx.launch senv tables file snakepit uuid) evs := by
  obtain ⟨hsettled, -⟩ := init_settled senv htables hfile
  have hconn (c : ConnId) : (Ctx.init senv tables file).w.conn c = {} :=
    congrFun (init_keepsLogins senv tables file).conn c
  have hinv : (Ctx.launch senv tables file snakepit uuid).reg.RegistryInv :=
    (hsettled.loaded hconn snakepit huuid).registryInv
  have hrow : ∀ a < (Ctx.launch senv tables file snakepit uuid).nextAcc,
      ((Ctx.launch senv tables file snakepit uuid).acc a).reg.row ∈
        (Ctx.init senv tables file).tables.accounts := hsettled.populated.row
  constructor
  · intro hlogged
    obtain ⟨a, hlt, hgave⟩ := run_logged_in hinv hactive hrun (congrArg Conn.logged_in (hconn c)) hlogged
    exact ⟨_, hrow a hlt, hgave⟩
  · intro a hacc hname
    obtain ⟨hlt, hgave⟩ := run_account hinv hactive hrun (congrArg Conn.m_account (hconn c)) hacc hname
    obtain ⟨-, hsame⟩ := run_row hrun ((run_registryInv hinv hrun).made c a hacc) hname
    exact ⟨hsame ▸ hrow a hlt, hgave⟩

/-- bob connects and logs in -/
def bobLogin : List Event :=
  [.connect false (ascii "127.0.0.1"), .line 0 (ascii "AUTHENTICATE AGJvYgBzZWNyZXQ=")]

/-- a start-up that keeps the passwords themselves -/
def clearStart : StartupEnv := ⟨fun n => n + 4, fun pw => pw⟩

/-- and a server that compares them -/
def clearEnv : Env := { Env.ascii with validatePassword := fun q hash => q == hash }

set_option maxRecDepth 100000 in
theorem logged_in_by_password_bob : ∃ w,
    run (step clearEnv) (Ctx.launch clearStart oneChannel (some joinedFile) {} 100) bobLogin = .ok w ∧
      (w.conn 0).logged_in = true ∧
      ∃ row ∈ (Ctx.init clearStart oneChannel (some joinedFile)).tables.accounts,
        Gave clearEnv 0 row (Ctx.launch clearStart oneChannel (some joinedFile) {} 100) bobLogin := by
  have hlogin : (run (step clearEnv) (Ctx.launch clearStart oneChannel (some joinedFile) {} 100)
      bobLogin).toOption.map (fun w => (w.conn 0).logged_in) = some true := by
    unfold Ctx.launch Ctx.init
    rw [load_eq]
    decide
  cases hrun : run (step clearEnv) (Ctx.launch clearStart oneChannel (some joinedFile) {} 100) bobLogin with
  | error e =>
    rw [hrun] at hlogin
    cases hlogin
  | ok w =>
    rw [hrun] at hlogin
    have hlogged : (w.conn 0).logged_in = true := Option.some.inj hlogin
    exact ⟨w, rfl, hlogged, (logged_in_by_password wellNamed_oneChannel named_joinedFile rfl
      (by rw [init_tables]; decide) hrun 0).1 hlogged⟩

end Chatripper
