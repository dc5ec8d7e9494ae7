import Mathlib
import Chatripper.Safety
import Chatripper.Irc.Registering
import Chatripper.Irc.Stores

/-!
# Connect bootstrap

A connection is set up by its NICK, USER and CAP END, in whatever order they come.

* `parseIncoming_attempts`   a line attempts to finish the setup at most once, when it clears the
  last task;
* `becomes_ready`            a connection gets ready after the three lines, on an account that has it;
* `session_awaiting`         the three lines in any order, with PING, PONG, PASS, CAP LS and CAP REQ
  in between, lead to the same state.
-/

namespace Chatripper
open ByteStr Utf8 Outcome

/-! ## attempts to finish -/

/-- `try_finalize_setup` went past its first guard for `c` -/
def Trace.finalizes (c : ConnId) : Trace → Bool
  | .finalize d => d == c
  | _ => false

/-- `c` was greeted -/
def Trace.welcomes (c : ConnId) : Trace → Bool
  | .welcome d => d == c
  | _ => false

namespace Reg

/-- what an attempt to finish the setup of `c` records -/
def Recorded (c : ConnId) (r r' : Reg) : Prop :=
  r'.setups = r.setups ++ [.finalize c] ∨ r'.setups = r.setups ++ [.finalize c, .welcome c]

/-- the setup of `c` has been attempted at most once, and not while a task is left -/
structure Once (c : ConnId) (r : Reg) : Prop where
  waiting : (r.conn c).setup_tasks.empty = false →
    r.setups.countP (Trace.finalizes c) = 0 ∧ r.setups.countP (Trace.welcomes c) = 0
  finalizes : r.setups.countP (Trace.finalizes c) ≤ 1
  welcomes : r.setups.countP (Trace.welcomes c) ≤ 1

/-- a line records no attempt, or it clears the last task and records one -/
def Attempts (c : ConnId) (r r' : Reg) : Prop :=
  (r'.setups = r.setups ∧
    ((r.conn c).setup_tasks.empty = true → (r'.conn c).setup_tasks.empty = true)) ∨
  ((r.conn c).setup_tasks.empty = false ∧ (r'.conn c).setup_tasks.empty = true ∧ Recorded c r r')

theorem Attempts.once {c : ConnId} {r r' : Reg} (h : Attempts c r r') (hr : Once c r) :
    Once c r' := by
  rcases h with ⟨hsetups, hempty⟩ | ⟨hleft, hdone, hrec⟩
  · refine ⟨fun hw => ?_, ?_, ?_⟩
    · rw [hsetups]
      apply hr.waiting
      by_contra hne
      rw [hempty (by simpa using hne)] at hw
      cases hw
    · rw [hsetups]; exact hr.finalizes
    · rw [hsetups]; exact hr.welcomes
  · obtain ⟨hfin, hwel⟩ := hr.waiting hleft
    have hcounts : r'.setups.countP (Trace.finalizes c) ≤ 1 ∧
        r'.setups.countP (Trace.welcomes c) ≤ 1 := by
      rcases hrec with hrec | hrec
      · rw [hrec, List.countP_append, List.countP_append, hfin, hwel]
        simp [Trace.finalizes, Trace.welcomes]
      · rw [hrec, List.countP_append, List.countP_append, hfin, hwel]
        simp [Trace.finalizes, Trace.welcomes]
    refine ⟨fun hw => ?_, hcounts.1, hcounts.2⟩
    rw [hdone] at hw
    cases hw

theorem Attempts.refl {c : ConnId} {r r' : Reg} (h : r' = r) : Attempts c r r' := by
  rw [h]
  exact Or.inl ⟨rfl, fun h => h⟩

/-- a login attempts nothing -/
theorem Step.login_setups {c : ConnId} {l : Label} {r r' : Reg} (h : Step c l r r')
    (hl : l.isLogin = true) :
    r'.setups = r.setups ∧ (r'.conn c).setup_tasks = (r.conn c).setup_tasks ∧
      (r'.conn c).is_ready = (r.conn c).is_ready := by
  cases h with
  | login => exact ⟨rfl, by simp, by simp⟩
  | relogin => exact ⟨rfl, by simp, by simp⟩
  | merge => exact ⟨rfl, by simp, by simp⟩
  | _ => cases hl

theorem login_chain {c : ConnId} {ls : List Label} {r r' : Reg} (h : Chain (Step c) ls r r')
    (hls : ∀ l ∈ ls, l.isLogin = true) :
    r'.setups = r.setups ∧ (r'.conn c).setup_tasks = (r.conn c).setup_tasks ∧
      (r'.conn c).is_ready = (r.conn c).is_ready := by
  induction h with
  | nil => exact ⟨rfl, rfl, rfl⟩
  | cons hstep _ ih =>
    obtain ⟨h1, h2, h3⟩ := hstep.login_setups (hls _ List.mem_cons_self)
    obtain ⟨i1, i2, i3⟩ := ih fun l hl => hls l (List.mem_cons_of_mem _ hl)
    exact ⟨i1.trans h1, i2.trans h2, i3.trans h3⟩

end Reg

namespace client_connection
open World

section
variable {env : Env} {c : ConnId} {w : World}

/-- one attempt, which is recorded when no task is left -/
def Tried (c : ConnId) (r r' : Reg) : Prop :=
  (r'.conn c).setup_tasks = (r.conn c).setup_tasks ∧
    (r'.setups = r.setups ∨ (r.conn c).setup_tasks.empty = true ∧ Reg.Recorded c r r')

theorem setups_registerNew (r : Reg) (c : ConnId) :
    (r.registerNew c).setups = r.setups ++ [.finalize c, .welcome c] := by
  simp [Reg.registerNew, Reg.register, Reg.attach, Reg.createAccount, Reg.log, Reg.updConn,
    Reg.updAcc]

theorem setups_registerOld (r : Reg) (c : ConnId) (a : AccId) :
    (r.registerOld c a).setups = r.setups ++ [.finalize c, .welcome c] := by
  simp [Reg.registerOld, Reg.register, Reg.attach, Reg.log, Reg.updConn, Reg.updAcc]

theorem tried_of_step {l : Reg.Label} {r' : Reg} (hl : finishLabel env c w l)
    (h : Reg.Step c l w.reg r') : Tried c w.reg r' := by
  cases h with
  | refuse h => exact ⟨rfl, Or.inr ⟨h.2, Or.inl rfl⟩⟩
  | registerNew h =>
    refine ⟨?_, Or.inr ⟨h.2, Or.inr ?_⟩⟩
    · rw [Reg.registerNew_conn, if_pos rfl]
    · exact setups_registerNew _ c
  | registerOld h =>
    refine ⟨?_, Or.inr ⟨h.2, Or.inr ?_⟩⟩
    · rw [Reg.registerOld_conn, if_pos rfl]
    · exact setups_registerOld _ c _
  | giveNick => cases hl
  | clear => cases hl
  | rename => cases hl
  | login => cases hl
  | relogin => cases hl
  | merge => cases hl

theorem try_finalize_tried :
    Sat (fun _ => True) (fun w' => Tried c w.reg w'.reg) (try_finalize_setup env c w) := by
  apply try_finalize_setup_one.mono (fun _ _ => trivial)
  intro w' h
  obtain ⟨hreg, -⟩ | ⟨l, hl, hstep, -⟩ := h
  · exact ⟨congrArg (fun r => (r.conn c).setup_tasks) hreg, Or.inl (congrArg Reg.setups hreg)⟩
  · exact tried_of_step hl hstep

/-- after a task is cleared, the attempt that follows is the only one -/
theorem attempts_of_cleared {w1 w' : World} {t : ConnectionSetupTasks}
    (htask : (w.conn c).setup_tasks.has t = true) (h : Tried c w1.reg w'.reg)
    (hsetups : w1.reg.setups = w.reg.setups) : Reg.Attempts c w.reg w'.reg := by
  have hleft : (w.conn c).setup_tasks.empty = false := by
    by_contra hne
    rw [Flags.not_has_of_empty (by simpa using hne)] at htask
    cases htask
  obtain ⟨htasks, hsame | ⟨hempty, hrec⟩⟩ := h
  · refine Or.inl ⟨hsame.trans hsetups, fun he => ?_⟩
    have he : (w.conn c).setup_tasks.empty = true := he
    rw [hleft] at he
    cases he
  · refine Or.inr ⟨hleft, ?_, ?_⟩
    · rw [htasks]
      exact hempty
    · unfold Reg.Recorded at hrec ⊢
      rw [hsetups] at hrec
      exact hrec

/-- with no task left a NICK line can only rename -/
theorem attempts_nick {args : List Bytes} {l : Reg.Label} {r' : Reg}
    (hnone : ∀ t, ¬ (w.conn c).setup_tasks.has t = true) (hl : nickLabel env c args w l)
    (hstep : Reg.Step c l w.reg r') : Reg.Attempts c w.reg r' := by
  cases hstep with
  | rename => exact Or.inl ⟨rfl, fun h => h⟩
  | giveNick => exact absurd hl.2.2 (hnone _)
  | clear _ htask => exact absurd htask (hnone _)
  | refuse => obtain ⟨n, hn, -⟩ := hl; exact absurd hn.2.2 (hnone _)
  | registerNew => obtain ⟨n, hn, -⟩ := hl; exact absurd hn.2.2 (hnone _)
  | registerOld => obtain ⟨n, hn, -⟩ := hl; exact absurd hn.2.2 (hnone _)
  | login => obtain ⟨n, hn, -⟩ := hl; exact absurd hn.2.2 (hnone _)
  | relogin => obtain ⟨n, hn, -⟩ := hl; exact absurd hn.2.2 (hnone _)
  | merge => obtain ⟨n, hn, -⟩ := hl; exact absurd hn.2.2 (hnone _)

theorem handleNICK_attempts {args : List Bytes} :
    Sat (fun _ => True) (fun w' => Reg.Attempts c w.reg w'.reg) (handleNICK env c args w) := by
  unfold handleNICK
  apply Sat.ite
  · intro _
    exact .refl rfl
  intro hargs
  apply (sat_listAt (length_pos_of_ne hargs)).bind
  intro n hn
  apply Sat.ite
  · intro _
    exact .refl rfl
  intro hvalid
  apply Sat.ite
  · intro _
    exact .refl rfl
  intro hfree
  apply Sat.ite
  · intro htask
    unfold setNick
    by_cases hnick : (w.conn c).m_nick ≠ []
    · rw [if_pos hnick]
      exact trivial
    · rw [if_neg hnick]
      apply try_finalize_tried.mono (fun _ h => h)
      intro w' h
      exact attempts_of_cleared htask h rfl
  intro htask
  apply Sat.ite
  · intro _
    exact .refl rfl
  intro hempty
  have hempty : (w.conn c).setup_tasks.empty = true := by simpa using hempty
  have hnone (t : ConnectionSetupTasks) : ¬ (w.conn c).setup_tasks.has t = true := by
    rw [Flags.not_has_of_empty hempty]
    exact Bool.false_ne_true
  apply (changeOwnNick_sat hn (by simpa using hvalid) hfree hempty).mono (fun _ _ => trivial)
  intro w' h
  obtain ⟨-, hreg | ⟨l, hl, hstep⟩⟩ := h
  · exact .refl hreg
  · exact attempts_nick hnone hl hstep

theorem handleUSER_attempts {args : List Bytes} :
    Sat (fun _ => True) (fun w' => Reg.Attempts c w.reg w'.reg) (handleUSER env c args w) := by
  unfold handleUSER
  apply Sat.ite
  · intro _
    exact .refl rfl
  intro htask
  have htask : (w.conn c).setup_tasks.has .USER = true := by simpa using htask
  apply Sat.ite
  · intro _
    exact .refl rfl
  intro hlen
  apply (sat_listAt (by omega)).bind
  intro u _
  apply (sat_listAt (by omega)).bind
  intro realname _
  apply Sat.ite
  · intro _
    apply Reg.Attempts.refl
    rw [reg_forceDisconnect, reg_reply_num]
    exact w.reg_updConn rfl
  · intro _
    apply try_finalize_tried.mono (fun _ h => h)
    intro w' h
    exact attempts_of_cleared htask h rfl

/-- `handleCAP` attempts to finish after END only -/
theorem handleCAP_attempts {args : List Bytes} :
    Sat (fun _ => True) (fun w' => Reg.Attempts c w.reg w'.reg) (handleCAP env c args w) := by
  unfold handleCAP
  refine Sat.ite (fun htask => ?_) fun _ => Reg.Attempts.refl rfl
  cases args with
  | nil => exact trivial
  | cons sub_cmd rest =>
    show Sat _ _ (if sub_cmd = ascii "LS" then _ else _)
    refine Sat.ite (fun _ => Sat.ite (fun h => ?_) fun _ => ?_) fun _ => Sat.ite (fun _ => ?_) fun _ =>
      Sat.ite (fun _ => ?_) fun _ => Sat.ite (fun _ => ?_) fun _ => Reg.Attempts.refl rfl
    · exact (sat_listAt (by omega)).bind fun v _ => .refl (reg_capLS _)
    · exact .refl (reg_capLS _)
    · refine Sat.ite (fun _ => .refl rfl) fun h => ?_
      exact (sat_listAt (by omega)).bind fun l _ => .refl (reg_capREQ l)
    · exact .refl rfl
    · apply try_finalize_tried.mono (fun _ h => h)
      intro w' h
      exact attempts_of_cleared htask h rfl

theorem authLabel_isLogin {args : List Bytes} {l : Reg.Label} (h : authLabel env c args w l) :
    l.isLogin = true := by
  cases l with
  | login => rfl
  | relogin => rfl
  | merge => rfl
  | _ => cases h

/-- **One line** attempts to finish the setup at most once. -/
theorem parseIncoming_attempts {line : Bytes} :
    Sat (fun _ => True) (fun w' => Reg.Attempts c w.reg w'.reg) (parseIncoming env c line w) := by
  rw [parseIncoming_eq]
  have hreg := reg_handlerWorld (c := c) (w := w) line
  cases hcmd : lineCommand c line w with
  | none => exact .refl hreg
  | some p =>
    obtain ⟨cmd, args⟩ := p
    have hgate := lineCommand_gate hcmd
    rw [← conn_handlerWorld (c := c) (w := w) line] at hgate
    rw [← hreg]
    have heffect : Sat (CommandFault env c cmd args (handlerWorld c line w))
        (Effect c (lineLabel env c cmd args (handlerWorld c line w)) (handlerWorld c line w))
        (handle env c (lineTags c line w) cmd args (handlerWorld c line w)) := handle_sat hgate
    dsimp only
    cases cmd with
    | NICK => exact handleNICK_attempts
    | USER => exact handleUSER_attempts
    | CAP => exact handleCAP_attempts
    | AUTHENTICATE =>
      apply heffect.mono (fun _ _ => trivial)
      intro w' h
      obtain ⟨ls, hchain, hls, -⟩ := h
      obtain ⟨hsetups, htasks, -⟩ := Reg.login_chain hchain fun l hl => authLabel_isLogin (hls l hl)
      refine Or.inl ⟨hsetups, ?_⟩
      intro hempty
      rw [htasks]
      exact hempty
    | _ =>
      apply heffect.mono (fun _ _ => trivial)
      intro w' h
      obtain ⟨ls, hchain, hls, -⟩ := h
      exact .refl (hchain.eq_of_not hls fun _ h => h)

end

/-! ## becoming ready -/

/-- the line clears this setup task -/
def Clears (env : Env) (c : ConnId) (line : Bytes) (w : World) : ConnectionSetupTasks → Prop
  | .NICK => ∃ args n, lineCommand c line w = some (.NICK, args) ∧ args[0]? = some n ∧
      isValidNick env n = true
  | .USER => ∃ args u, lineCommand c line w = some (.USER, args) ∧ 4 ≤ args.length ∧
      args[0]? = some u ∧ u.length ≤ 16
  | .CAP_EXCHANGE => ∃ args, lineCommand c line w = some (.CAP, args) ∧
      args[0]? = some (ascii "END")

/-- connection `c` is among the connections of its account -/
def Attached (c : ConnId) (w : World) : Prop :=
  ∃ a, (w.conn c).m_account = some a ∧ c ∈ (w.acc a).connections

section
variable {env : Env} {c : ConnId} {w w' : World} {line : Bytes}

theorem clears_of_giveNick {n : Bytes} (h : LineLabel env c line w (.giveNick n)) :
    Clears env c line w .NICK := by
  obtain ⟨cmd, args, hcmd, hl⟩ := h
  cases cmd with
  | NICK => exact ⟨args, n, hcmd, hl.1, hl.2.1⟩
  | USER => exact hl.2.elim
  | CAP => exact hl.2.elim
  | AUTHENTICATE => exact hl.elim
  | _ => exact hl.elim

theorem clears_of_clear {t : ConnectionSetupTasks} (h : LineLabel env c line w (.clear t)) :
    Clears env c line w t := by
  obtain ⟨cmd, args, hcmd, hl⟩ := h
  cases cmd with
  | NICK =>
    obtain ⟨n, -, hl⟩ := hl
    exact hl.elim
  | USER =>
    obtain ⟨rfl, hfour, ⟨u, hu, hlen⟩, -⟩ := hl
    exact ⟨args, u, hcmd, hfour, hu, hlen⟩
  | CAP =>
    obtain ⟨rfl, hend, -⟩ := hl
    exact ⟨args, hcmd, hend⟩
  | AUTHENTICATE => exact hl.elim
  | _ => exact hl.elim

/-- only such a line clears a task -/
theorem clears_of_parseIncoming {t : ConnectionSetupTasks}
    (h : parseIncoming env c line w = .ok w') (hbefore : (w.conn c).setup_tasks.has t = true)
    (hafter : (w'.conn c).setup_tasks.has t = false) : Clears env c line w t := by
  obtain ⟨ls, hchain, hls, -⟩ := parseIncoming_sat.of_ok h
  by_contra hnot
  have hkept : (w'.reg.conn c).setup_tasks.has t = true := by
    refine hchain.inv (I := fun r => (r.conn c).setup_tasks.has t = true)
      (P := LineLabel env c line w) ?_ hls hbefore
    intro l r r' hl hhas hstep
    cases hstep with
    | giveNick =>
      rw [Reg.giveNick_conn, if_pos rfl, Flags.has_clear, hhas]
      have hne : t ≠ .NICK := fun he => hnot (he ▸ clears_of_giveNick hl)
      rw [decide_eq_false hne]
      rfl
    | clear =>
      rw [Reg.clear_conn, if_pos rfl, Flags.has_clear, hhas]
      have hne : t ≠ _ := fun he => hnot (he ▸ clears_of_clear hl)
      rw [decide_eq_false hne]
      rfl
    | refuse => exact hhas
    | registerNew => rw [Reg.registerNew_conn, if_pos rfl]; exact hhas
    | registerOld => rw [Reg.registerOld_conn, if_pos rfl]; exact hhas
    | rename => exact hhas
    | login => rw [Reg.login_conn, if_pos rfl]; exact hhas
    | relogin => rw [Reg.login_conn, if_pos rfl]; exact hhas
    | merge => rw [Reg.login_conn, if_pos rfl]; exact hhas
  have hkept : (w'.conn c).setup_tasks.has t = true := hkept
  rw [hafter] at hkept
  cases hkept

/-- the setup of a ready connection is complete -/
def Complete (c : ConnId) (r : Reg) : Prop :=
  (r.conn c).is_ready = true → (r.conn c).setup_tasks.empty = true ∧
    ∃ a, (r.conn c).m_account = some a ∧ c ∈ (r.acc a).connections

theorem Complete.step {l : Reg.Label} {r r' : Reg} (hr : Complete c r) (hl : l.isLogin = false)
    (h : Reg.Step c l r r') : Complete c r' := by
  intro hready
  cases h with
  | giveNick hn htask =>
    rw [Reg.giveNick_conn, if_pos rfl] at hready
    rw [Flags.not_has_of_empty (hr hready).1] at htask
    cases htask
  | clear ht htask =>
    rw [Reg.clear_conn, if_pos rfl] at hready
    rw [Flags.not_has_of_empty (hr hready).1] at htask
    cases htask
  | refuse => exact hr hready
  | registerNew h =>
    rw [Reg.registerNew_conn, if_pos rfl]
    refine ⟨h.2, _, rfl, ?_⟩
    rw [Reg.registerNew_acc, if_pos rfl]
    exact List.mem_singleton_self c
  | registerOld h =>
    rw [Reg.registerOld_conn, if_pos rfl]
    refine ⟨h.2, _, rfl, ?_⟩
    rw [Reg.registerOld_acc, if_pos rfl]
    exact List.mem_append_right _ (List.mem_singleton_self c)
  | rename =>
    obtain ⟨hempty, a, hacc, hmem⟩ := hr hready
    refine ⟨hempty, a, hacc, ?_⟩
    rw [Reg.rename_acc]
    split
    · next he => exact he ▸ hmem
    · exact hmem
  | login => cases hl
  | relogin => cases hl
  | merge => cases hl

/-- the line that makes a connection ready leaves it attached, with no task -/
theorem complete_of_parseIncoming (h : parseIncoming env c line w = .ok w')
    (hbefore : (w.conn c).is_ready = false) (hafter : (w'.conn c).is_ready = true) :
    (w'.conn c).setup_tasks.empty = true ∧ Attached c w' := by
  obtain ⟨ls, hchain, hls, -⟩ := parseIncoming_sat.of_ok h
  have hstart : Complete c w.reg := by
    intro hready
    have hready : (w.conn c).is_ready = true := hready
    rw [hbefore] at hready
    cases hready
  by_cases hlogin : ∃ l ∈ ls, l.isLogin = true
  · obtain ⟨l, hl, hlogin⟩ := hlogin
    obtain ⟨args, hauth⟩ := (hls l hl).auth hlogin
    have hall : ∀ m ∈ ls, m.isLogin = true := by
      intro m hm
      obtain ⟨cmd, args', hcmd, hlabel⟩ := hls m hm
      rw [hauth] at hcmd
      cases hcmd
      exact authLabel_isLogin hlabel
    have hsame : (w'.conn c).is_ready = (w.conn c).is_ready := (Reg.login_chain hchain hall).2.2
    rw [hafter, hbefore] at hsame
    cases hsame
  · have hall : ∀ l ∈ ls, l.isLogin = false := by
      intro l hl
      by_contra hne
      exact hlogin ⟨l, hl, by simpa using hne⟩
    exact hchain.inv (I := Complete c) (P := fun l => l.isLogin = false)
      (fun l r r' hl hr hstep => hr.step hl hstep) hall hstart hafter

end

/-! ## runs of one connection -/

/-- what happens on the other connections between two lines of `c`: nothing to the setup of `c` -/
structure Meanwhile (c : ConnId) extends Interference c where
  silent : ∀ w, (act w).trace.countP (Trace.finalizes c) = w.trace.countP (Trace.finalizes c) ∧
    (act w).trace.countP (Trace.welcomes c) = w.trace.countP (Trace.welcomes c)

/-- a line of `c`, after whatever the others did -/
def setupStep (env : Env) (c : ConnId) (w : World) (i : Meanwhile c × Bytes) :
    Except Fault World := lineStep env c w (i.1.toInterference, i.2)

/-- a connection that has just been constructed -/
structure Fresh (c : ConnId) (w : World) : Prop where
  initial : Initial c w
  logged_in : (w.conn c).logged_in = false
  untried : w.trace.countP (Trace.finalizes c) = 0 ∧ w.trace.countP (Trace.welcomes c) = 0

/-- a line of the run meets `C` in the state it finds -/
def Happens (env : Env) (c : ConnId) (C : Bytes → World → Prop) (w : World)
    (is : List (Meanwhile c × Bytes)) : Prop :=
  ∃ pre i post m, is = pre ++ i :: post ∧ run (setupStep env c) w pre = .ok m ∧
    C i.2 (i.1.act m)

section
variable {env : Env} {c : ConnId} {w w' : World}

theorem countP_setups {p : Trace → Bool} (hp : ∀ t, p t = true → t.isSetup = true) :
    w.reg.setups.countP p = w.trace.countP p := by
  show (w.trace.filter Trace.isSetup).countP p = _
  rw [List.countP_filter]
  congr 1
  funext t
  cases ht : p t with
  | true => rw [hp t ht, Bool.and_true]
  | false => rfl

theorem countP_finalizes :
    w.reg.setups.countP (Trace.finalizes c) = w.trace.countP (Trace.finalizes c) := by
  apply countP_setups
  intro t ht
  cases t with
  | message => cases ht
  | _ => rfl

theorem countP_welcomes :
    w.reg.setups.countP (Trace.welcomes c) = w.trace.countP (Trace.welcomes c) := by
  apply countP_setups
  intro t ht
  cases t with
  | message => cases ht
  | _ => rfl

/-! ### lines of the others -/

theorem other_step {d : ConnId} (hd : c ≠ d) {l : Reg.Label} {r r' : Reg} (h : Reg.Step d l r r') :
    r'.conn c = r.conn c ∧
      r'.setups.countP (Trace.finalizes c) = r.setups.countP (Trace.finalizes c) ∧
      r'.setups.countP (Trace.welcomes c) = r.setups.countP (Trace.welcomes c) := by
  have hfin : Trace.finalizes c (.finalize d) = false := beq_eq_false_iff_ne.mpr (Ne.symm hd)
  have hwel : Trace.welcomes c (.welcome d) = false := beq_eq_false_iff_ne.mpr (Ne.symm hd)
  have hnot : Trace.finalizes c (.welcome d) = false ∧ Trace.welcomes c (.finalize d) = false :=
    ⟨rfl, rfl⟩
  have htwo : (r.setups ++ [Trace.finalize d, Trace.welcome d]).countP (Trace.finalizes c) =
        r.setups.countP (Trace.finalizes c) ∧
      (r.setups ++ [Trace.finalize d, Trace.welcome d]).countP (Trace.welcomes c) =
        r.setups.countP (Trace.welcomes c) := by
    rw [List.countP_append, List.countP_append]
    simp [hfin, hwel, hnot]
  cases h with
  | giveNick => exact ⟨if_neg hd, rfl, rfl⟩
  | clear => exact ⟨if_neg hd, rfl, rfl⟩
  | refuse =>
    refine ⟨rfl, ?_⟩
    show (r.setups ++ [Trace.finalize d]).countP _ = _ ∧ (r.setups ++ [Trace.finalize d]).countP _ = _
    rw [List.countP_append, List.countP_append]
    simp [hfin, hnot]
  | registerNew =>
    refine ⟨by rw [Reg.registerNew_conn, if_neg hd], ?_⟩
    rw [setups_registerNew]
    exact htwo
  | registerOld =>
    refine ⟨by rw [Reg.registerOld_conn, if_neg hd], ?_⟩
    rw [setups_registerOld]
    exact htwo
  | rename => exact ⟨rfl, rfl, rfl⟩
  | login => exact ⟨by rw [Reg.login_conn, if_neg hd], rfl, rfl⟩
  | relogin => exact ⟨by rw [Reg.login_conn, if_neg hd], rfl, rfl⟩
  | merge => exact ⟨by rw [Reg.login_conn, if_neg hd, Reg.merge_conn], rfl, rfl⟩

/-- a line of another connection is such an interference -/
theorem other_line {d : ConnId} (hd : c ≠ d) {line : Bytes}
    (h : parseIncoming env d line w = .ok w') :
    (w'.conn c).reg = (w.conn c).reg ∧
      w'.trace.countP (Trace.finalizes c) = w.trace.countP (Trace.finalizes c) ∧
      w'.trace.countP (Trace.welcomes c) = w.trace.countP (Trace.welcomes c) := by
  obtain ⟨ls, hchain, -, -⟩ := parseIncoming_sat.of_ok h
  rw [← countP_finalizes, ← countP_finalizes, ← countP_welcomes, ← countP_welcomes]
  show w'.reg.conn c = w.reg.conn c ∧ _
  generalize w.reg = r at hchain ⊢
  generalize w'.reg = r' at hchain ⊢
  induction hchain with
  | nil => exact ⟨rfl, rfl, rfl⟩
  | cons hstep _ ih =>
    obtain ⟨h1, h2, h3⟩ := other_step hd hstep
    obtain ⟨i1, i2, i3⟩ := ih
    exact ⟨i1.trans h1, i2.trans h2, i3.trans h3⟩

theorem Fresh.once (h : Fresh c w) : Reg.Once c w.reg := by
  obtain ⟨hfin, hwel⟩ := h.untried
  rw [← countP_finalizes] at hfin
  rw [← countP_welcomes] at hwel
  exact ⟨fun _ => ⟨hfin, hwel⟩, by omega, by omega⟩

theorem once_act (i : Meanwhile c) (h : Reg.Once c w.reg) : Reg.Once c (i.act w).reg := by
  have hkeeps : ((i.act w).reg.conn c) = w.reg.conn c := i.keeps w
  obtain ⟨hfin, hwel⟩ := i.silent w
  rw [← countP_finalizes, ← countP_finalizes] at hfin
  rw [← countP_welcomes, ← countP_welcomes] at hwel
  obtain ⟨h1, h2, h3⟩ := h
  refine ⟨?_, ?_, ?_⟩
  · rw [hkeeps, hfin, hwel]
    exact h1
  · rw [hfin]
    exact h2
  · rw [hwel]
    exact h3

theorem once_run {is : List (Meanwhile c × Bytes)} (h : Fresh c w)
    (hrun : run (setupStep env c) w is = .ok w') : Reg.Once c w'.reg := by
  apply run_inv (I := fun w => Reg.Once c w.reg) (C := fun _ _ => True) _ h.once
    (allSteps_true w is) hrun
  intro w i w' hw _ hstep
  exact (parseIncoming_attempts.of_ok hstep).once (once_act i.1 hw)

/-- a task that a run clears is cleared by a line of it -/
theorem happens_clears {is : List (Meanwhile c × Bytes)} {t : ConnectionSetupTasks}
    (hrun : run (setupStep env c) w is = .ok w') (hbefore : (w.conn c).setup_tasks.has t = true)
    (hafter : (w'.conn c).setup_tasks.has t = false) :
    Happens env c (fun line w => Clears env c line w t) w is := by
  obtain ⟨pre, i, post, m, m', his, hpre, hstep, hm, hm'⟩ :=
    run_flips (P := fun w => (w.conn c).setup_tasks.has t = false) hrun
      (by rw [hbefore]; exact Bool.noConfusion) hafter
  have hkeeps : ((i.1.act m).conn c).setup_tasks = (m.conn c).setup_tasks :=
    congrArg ConnReg.setup_tasks (i.1.keeps m)
  refine ⟨pre, i, post, m, his, hpre, clears_of_parseIncoming hstep ?_ hm'⟩
  rw [hkeeps]
  simpa using hm

/-- the step of a run that makes the connection ready, after the three lines that it needs -/
theorem becomes_ready {is : List (Meanwhile c × Bytes)} (h : Fresh c w)
    (hrun : run (setupStep env c) w is = .ok w') (hready : (w'.conn c).is_ready = true) :
    ∃ pre i post m m', is = pre ++ i :: post ∧ run (setupStep env c) w pre = .ok m ∧
      setupStep env c m i = .ok m' ∧ (m.conn c).is_ready = false ∧
      (m'.conn c).is_ready = true ∧ Attached c m' ∧
      ∀ t, Happens env c (fun line w => Clears env c line w t) w (pre ++ [i]) := by
  obtain ⟨pre, i, post, m, m', his, hpre, hstep, hm, hm'⟩ :=
    run_flips (P := fun w => (w.conn c).is_ready = true) hrun
      (by rw [h.initial.2.1]; exact Bool.noConfusion) hready
  have hm : (m.conn c).is_ready = false := by simpa using hm
  have hkeeps : ((i.1.act m).conn c).is_ready = (m.conn c).is_ready :=
    congrArg ConnReg.is_ready (i.1.keeps m)
  obtain ⟨hempty, hattached⟩ := complete_of_parseIncoming hstep (hkeeps.trans hm) hm'
  have hrun' : run (setupStep env c) w (pre ++ [i]) = .ok m' := by
    rw [run_append, hpre]
    show run (setupStep env c) m [i] = _
    rw [run_cons, hstep]
    rfl
  refine ⟨pre, i, post, m, m', his, hpre, hstep, hm, hm', hattached, fun t => ?_⟩
  apply happens_clears hrun' _ (Flags.not_has_of_empty hempty t)
  rw [h.initial.1]
  cases t <;> rfl

end

/-! ## one registration in any order -/

/-- a connection up to the capabilities and the password given -/
def erase (k : Conn) : Conn := { k with capabilities := ⟨0⟩, m_passGiven := [] }

/-- the state up to what `c` negotiated and gave as a password, the output, the ghost record and
what the handlers remember -/
def settled (c : ConnId) (w : World) : World :=
  { w.updConn c erase with client_cap_version := 0, snakepit := {}, out := [], trace := [] }

/-- what the line that clears a task leaves on the connection -/
def given (n user_name realname : Bytes) (exists_already : Bool) :
    ConnectionSetupTasks → Conn → Conn
  | .NICK, k => { k with m_nick := n, setup_tasks := k.setup_tasks.clear .NICK }
  | .USER, k => { k with
      user := user_name, realname := realname
      user_already_exists := k.user_already_exists || exists_already
      setup_tasks := k.setup_tasks.clear .USER }
  | .CAP_EXCHANGE, k => { k with setup_tasks := k.setup_tasks.clear .CAP_EXCHANGE }

def give (c : ConnId) (n user_name realname : Bytes) (w : World) (t : ConnectionSetupTasks) : World :=
  w.updConn c (given n user_name realname (Ctx.account_username_exists w user_name) t)

/-- the connection is ready on a new account -/
def enrolled (c : ConnId) (n : Bytes) (w : World) : World :=
  let a := w.nextAcc
  let w := (Account.create n w).2.updConn c fun k => { k with m_account := some a }
  setReady c (Ctx.irc_nicks_insert_cache n a (Account.add_connection a c w))

section
variable {env : Env} {c : ConnId} {w w' : World} {n user_name realname : Bytes}

theorem settled_updConn {f : Conn → Conn} (hf : ∀ k, erase (f k) = f (erase k)) :
    settled c (w.updConn c f) = (settled c w).updConn c f := by
  have hconn : ((w.updConn c f).updConn c erase) = ((w.updConn c erase).updConn c f) := by
    rw [updConn_updConn, updConn_updConn]
    congr 1
    funext k
    exact hf k
  exact congrArg (fun w : World => { w with
    client_cap_version := 0, snakepit := {}, out := [], trace := [] }) hconn

/-- what is erased does not matter -/
theorem settled_erased {f : Conn → Conn} (hf : ∀ k, erase (f k) = erase k) :
    settled c (w.updConn c f) = settled c w := by
  have hconn : ((w.updConn c f).updConn c erase) = w.updConn c erase := by
    rw [updConn_updConn]
    congr 1
    funext k
    exact hf k
  exact congrArg (fun w : World => { w with
    client_cap_version := 0, snakepit := {}, out := [], trace := [] }) hconn

theorem settled_conn : (settled c w).conn c = erase (w.conn c) := if_pos rfl

theorem giveNick_eq : giveNick c n w = give c n user_name realname w .NICK := by
  unfold giveNick clearTask
  rw [updConn_updConn]
  rfl

theorem giveUser_eq : giveUser c user_name realname w = give c n user_name realname w .USER := by
  unfold giveUser clearTask
  rw [updConn_updConn, updConn_updConn]
  rfl

theorem settled_give (t : ConnectionSetupTasks) :
    settled c (give c n user_name realname w t) = give c n user_name realname (settled c w) t := by
  apply settled_updConn
  intro k
  cases t <;> rfl

theorem settled_gives (ts : List ConnectionSetupTasks) :
    settled c (ts.foldl (give c n user_name realname) w) =
      ts.foldl (give c n user_name realname) (settled c w) := by
  induction ts generalizing w with
  | nil => rfl
  | cons t ts ih =>
    rw [List.foldl_cons, List.foldl_cons, ih, settled_give]

theorem settled_enrolled :
    settled c (enrolled c n w) = enrolled c n (settled c w) := by
  have hconn : settled c ((Account.create n w).2.updConn c fun k =>
        { k with m_account := some w.nextAcc }) =
      (Account.create n (settled c w)).2.updConn c fun k => { k with m_account := some w.nextAcc } := by
    rw [settled_updConn]
    · rfl
    · intro k
      rfl
  unfold enrolled setReady
  dsimp only
  rw [settled_updConn]
  · exact congrArg (fun w' => (Ctx.irc_nicks_insert_cache n w.nextAcc
      (Account.add_connection w.nextAcc c w')).updConn c fun k => { k with is_ready := true }) hconn
  · intro k
    rfl

/-- the order in which they are given does not matter -/
theorem give_comm (t t' : ConnectionSetupTasks) :
    give c n user_name realname (give c n user_name realname w t) t' =
      give c n user_name realname (give c n user_name realname w t') t := by
  unfold give
  rw [updConn_updConn, updConn_updConn]
  congr 1
  funext k
  cases t <;> cases t' <;> simp only [given, Flags.clear_comm, updConn_ctx, Ctx.account_username_exists]

/-- a connection without an account gets a new one under the nick it gave -/
theorem enrol_fresh (hacc : (w.conn c).m_account = none) (hnick : (w.conn c).m_nick = n)
    (hne : n ≠ []) : enrol c w = (w.nextAcc, Ctx.irc_nicks_insert_cache n w.nextAcc
      (Account.add_connection w.nextAcc c ((Account.create n w).2.updConn c
        fun k => { k with m_account := some w.nextAcc }))) := by
  have hobtain : obtainAccount c w = (w.nextAcc, (Account.create n w).2.updConn c fun k =>
      { k with m_account := some w.nextAcc }) := by
    unfold obtainAccount
    rw [hacc, hnick]
    rfl
  have hnew : ((Account.create n w).2.updConn c fun k =>
      { k with m_account := some w.nextAcc }).acc w.nextAcc =
        { m_nick := n, m_uid := w.nextUuid } := if_pos rfl
  have hown : ((Account.create n w).2.updConn c fun k =>
      { k with m_account := some w.nextAcc }).conn c =
        { w.conn c with m_account := some w.nextAcc } := if_pos rfl
  generalize ((Account.create n w).2.updConn c fun k =>
    { k with m_account := some w.nextAcc }) = w1 at hobtain hnew hown ⊢
  have haccNick : w1.accNick w.nextAcc = n := by
    unfold accNick
    rw [hnew, if_neg hne]
  have hsync : syncNick c n w1 = w1 := by
    unfold syncNick
    dsimp only
    rw [if_pos (by rw [hown]; exact hnick.symm)]
  have hjoined : (Account.add_connection w.nextAcc c w1).nick c = n := by
    have hconn : ((Account.add_connection w.nextAcc c w1).conn c).m_account = some w.nextAcc := by
      show (w1.conn c).m_account = _
      rw [hown]
    have hacc : (Account.add_connection w.nextAcc c w1).acc w.nextAcc =
        { w1.acc w.nextAcc with connections := (w1.acc w.nextAcc).connections ++ [c] } := if_pos rfl
    unfold World.nick
    rw [hconn]
    dsimp only
    unfold accNick
    rw [hacc, hnew, if_neg hne]
  unfold enrol
  rw [hobtain]
  dsimp only
  rw [haccNick, hsync, hjoined]

/-- the greeting is all that is lost -/
theorem settled_finished (env : Env) (hacc : (w.conn c).m_account = none) (hnick : (w.conn c).m_nick = n)
    (hne : n ≠ []) : settled c (finished env c w) = settled c (enrolled c n w) ∧
      ((finished env c w).conn c).m_passGiven = (w.conn c).m_passGiven := by
  have henrol : enrol c (w.log (.finalize c)) = _ := enrol_fresh hacc hnick hne
  obtain ⟨out, trace, hprints⟩ := @prints_welcomeLines env c
    (enrol c (w.log (.finalize c))).2
    ((enrol c (w.log (.finalize c))).2.accNick (enrol c (w.log (.finalize c))).1)
  unfold finished
  dsimp only
  rw [hprints, henrol]
  refine ⟨rfl, ?_⟩
  unfold setReady
  rw [updConn_conn, if_pos rfl]
  show ((w.updConn c fun k => { k with m_account := some w.nextAcc }).conn c).m_passGiven = _
  rw [updConn_conn, if_pos rfl]

/-! ## the lines of a registration -/

/-- what a client sends to register: one line for each task, and others that clear none -/
inductive Sent (n user_name realname : Bytes) : Command × List Bytes → Prop
  | nick (rest : List Bytes) : Sent n user_name realname (.NICK, n :: rest)
  | user (host server : Bytes) (rest : List Bytes) :
      Sent n user_name realname (.USER, user_name :: host :: server :: realname :: rest)
  | cap_end (rest : List Bytes) : Sent n user_name realname (.CAP, ascii "END" :: rest)
  | cap_ls (rest : List Bytes) : Sent n user_name realname (.CAP, ascii "LS" :: rest)
  | cap_req (rest : List Bytes) : Sent n user_name realname (.CAP, ascii "REQ" :: rest)
  | pass (args : List Bytes) : Sent n user_name realname (.PASS, args)
  | ping (args : List Bytes) : Sent n user_name realname (.PING, args)
  | pong (args : List Bytes) : Sent n user_name realname (.PONG, args)

/-- the task that a command of a registration clears -/
def taskOf : Command × List Bytes → Option ConnectionSetupTasks
  | (.NICK, _) => some .NICK
  | (.USER, _) => some .USER
  | (.CAP, sub_cmd :: _) => if sub_cmd = ascii "END" then some .CAP_EXCHANGE else none
  | _ => none

/-- the tasks that a registration clears, in its order -/
def tasksOf (items : List (Bytes × Command × List Bytes)) : List ConnectionSetupTasks :=
  items.filterMap fun i => taskOf i.2

/-- the password given after a command -/
def passAfter (pass : Bytes) : Command × List Bytes → Bytes
  | (.PASS, new :: _) => new
  | _ => pass

/-- a line of the registration, with the command it is read as -/
def sessionStep (env : Env) (c : ConnId) (w : World) (i : Bytes × Command × List Bytes) :
    Except Fault World := parseIncoming env c i.1 w

/-- what is left to clear in the course of a registration -/
structure Awaiting (c : ConnId) (n : Bytes) (ts : List ConnectionSetupTasks) (w : World) : Prop where
  has : ∀ t, (w.conn c).setup_tasks.has t = true ↔ t ∈ ts
  within : (w.conn c).setup_tasks.Within
  account : (w.conn c).m_account = none
  ready : (w.conn c).is_ready = false
  logged_in : (w.conn c).logged_in = false
  nick : (w.conn c).m_nick = if .NICK ∈ ts then [] else n
  free : Ctx.irc_nick_get w (toLower n) = none

theorem Awaiting.congr {ts : List ConnectionSetupTasks} (h : Awaiting c n ts w)
    (hsettled : settled c w' = settled c w) : Awaiting c n ts w' := by
  have hconn : erase (w'.conn c) = erase (w.conn c) := by
    rw [← settled_conn, ← settled_conn, hsettled]
  have htasks := congrArg Conn.setup_tasks hconn
  have hacc := congrArg Conn.m_account hconn
  have hready := congrArg Conn.is_ready hconn
  have hlogged := congrArg Conn.logged_in hconn
  have hnick := congrArg Conn.m_nick hconn
  have hctx := congrArg World.ctx hsettled
  have htasks : (w'.conn c).setup_tasks = (w.conn c).setup_tasks := htasks
  have hctx : w'.ctx = w.ctx := hctx
  refine ⟨?_, htasks ▸ h.within, hacc.trans h.account, hready.trans h.ready,
    hlogged.trans h.logged_in, hnick.trans h.nick, ?_⟩
  · rw [htasks]
    exact h.has
  · unfold Ctx.irc_nick_get
    rw [hctx]
    exact h.free

theorem Awaiting.give (user_name realname : Bytes) {t : ConnectionSetupTasks}
    {ts : List ConnectionSetupTasks} (h : Awaiting c n (t :: ts) w) (hnodup : (t :: ts).Nodup) :
    Awaiting c n ts (give c n user_name realname w t) := by
  have htasks : ((client_connection.give c n user_name realname w t).conn c).setup_tasks =
      (w.conn c).setup_tasks.clear t := by
    unfold client_connection.give
    rw [updConn_conn, if_pos rfl]
    cases t <;> rfl
  have hother (t' : ConnectionSetupTasks) : t' ∈ ts → t' ≠ t := by
    rintro hmem rfl
    exact (List.nodup_cons.mp hnodup).1 hmem
  have hkept : ((client_connection.give c n user_name realname w t).conn c).m_account = none ∧
      ((client_connection.give c n user_name realname w t).conn c).is_ready = false ∧
      ((client_connection.give c n user_name realname w t).conn c).logged_in = false := by
    unfold client_connection.give
    rw [updConn_conn, if_pos rfl]
    cases t <;> exact ⟨h.account, h.ready, h.logged_in⟩
  refine ⟨?_, ?_, hkept.1, hkept.2.1, hkept.2.2, ?_, h.free⟩
  · intro t'
    rw [htasks, Flags.has_clear]
    have hhas := h.has t'
    rw [List.mem_cons] at hhas
    by_cases he : t' = t
    · subst he
      simpa using (List.nodup_cons.mp hnodup).1
    · rw [decide_eq_false he, Bool.not_false, Bool.and_true, hhas]
      simp [he]
  · rw [htasks]
    exact h.within.clear t
  · unfold client_connection.give
    rw [updConn_conn, if_pos rfl]
    cases t with
    | NICK => exact (if_neg (List.nodup_cons.mp hnodup).1).symm
    | USER =>
      show (w.conn c).m_nick = _
      rw [h.nick]
      simp
    | CAP_EXCHANGE =>
      show (w.conn c).m_nick = _
      rw [h.nick]
      simp

theorem settled_handlerWorld (line : Bytes) : settled c (handlerWorld c line w) = settled c w := by
  obtain ⟨sp, hsp⟩ := handlerWorld_eq c line w
  rw [hsp]
  rfl

theorem settled_capLS (version : Option Int) : settled c (capLS env c version w) = settled c w ∧
    ((capLS env c version w).conn c).m_passGiven = (w.conn c).m_passGiven := by
  unfold capLS
  cases version with
  | none => exact ⟨rfl, rfl⟩
  | some ver =>
    dsimp only
    split <;> exact ⟨rfl, rfl⟩

theorem settled_capREQ (line : Bytes) : settled c (capREQ env c line w) = settled c w ∧
    ((capREQ env c line w).conn c).m_passGiven = (w.conn c).m_passGiven := by
  unfold capREQ
  dsimp only
  split
  · refine ⟨?_, ?_⟩
    · rw [settled_erased]
      · rfl
      · intro k
        rfl
    · rw [updConn_conn, if_pos rfl]
      rfl
  · exact ⟨rfl, rfl⟩

/-- a command that clears no task -/
theorem handle_idle (env : Env) (w : World) {cmd : Command × List Bytes}
    (hsent : Sent n user_name realname cmd)
    (hidle : taskOf cmd = none) (tags : QMap QString QVariant) :
    ∃ w', handle env c tags cmd.1 cmd.2 w = .ok w' ∧ settled c w' = settled c w ∧
      (w'.conn c).m_passGiven = passAfter (w.conn c).m_passGiven cmd := by
  cases hsent with
  | nick => cases hidle
  | user => cases hidle
  | cap_end => cases hidle
  | pong args => exact ⟨w, rfl, rfl, rfl⟩
  | ping args =>
    show ∃ w', handlePING env c args w = .ok w' ∧ _
    unfold handlePING
    cases args with
    | nil => exact ⟨_, rfl, rfl, rfl⟩
    | cons arg args =>
      have hlast : (arg :: args).getLast? = some ((arg :: args).getLast (List.cons_ne_nil _ _)) :=
        List.getLast?_eq_some_getLast _
      rw [if_neg (List.cons_ne_nil _ _), hlast]
      exact ⟨_, rfl, rfl, rfl⟩
  | pass args =>
    cases args with
    | nil => exact ⟨_, rfl, rfl, rfl⟩
    | cons new rest =>
      refine ⟨w.updConn c fun k => { k with m_passGiven := new }, rfl, ?_, ?_⟩
      · apply settled_erased
        intro k
        rfl
      · rw [updConn_conn, if_pos rfl]
        rfl
  | cap_ls rest =>
    show ∃ w', handleCAP env c (ascii "LS" :: rest) w = .ok w' ∧ _
    unfold handleCAP
    by_cases hexch : (w.conn c).setup_tasks.has .CAP_EXCHANGE = true
    · rw [if_pos hexch]
      cases rest with
      | nil => exact ⟨capLS env c none w, rfl, settled_capLS none⟩
      | cons version rest => exact ⟨capLS env c (toInt? version) w, rfl, settled_capLS _⟩
    · rw [if_neg hexch]
      exact ⟨w, rfl, rfl, rfl⟩
  | cap_req rest =>
    show ∃ w', handleCAP env c (ascii "REQ" :: rest) w = .ok w' ∧ _
    unfold handleCAP
    by_cases hexch : (w.conn c).setup_tasks.has .CAP_EXCHANGE = true
    · rw [if_pos hexch]
      cases rest with
      | nil => exact ⟨send_raw env c (ascii "CAP * NAK :") w, rfl, rfl, rfl⟩
      | cons line rest => exact ⟨capREQ env c line w, rfl, settled_capREQ line⟩
    · rw [if_neg hexch]
      exact ⟨w, rfl, rfl, rfl⟩

/-- a command that clears a task tries to finish -/
theorem handle_task {cmd : Command × List Bytes} {t : ConnectionSetupTasks}
    {ts : List ConnectionSetupTasks} (hvalid : isValidNick env n = true)
    (hshort : user_name.length ≤ 16) (hwait : Awaiting c n (t :: ts) w)
    (hsent : Sent n user_name realname cmd) (htask : taskOf cmd = some t)
    (tags : QMap QString QVariant) :
    handle env c tags cmd.1 cmd.2 w =
      try_finalize_setup env c (give c n user_name realname w t) := by
  have hhas : (w.conn c).setup_tasks.has t = true := (hwait.has t).mpr List.mem_cons_self
  cases hsent with
  | nick rest =>
    cases htask
    have hempty : (w.conn c).m_nick = [] := by
      rw [hwait.nick, if_pos List.mem_cons_self]
    rw [← giveNick_eq]
    exact handleNICK_setup hvalid hwait.account hhas hempty rest
  | user host server rest =>
    cases htask
    rw [← giveUser_eq]
    exact handleUSER_setup hhas hshort rest
  | cap_end rest =>
    cases htask
    exact handleCAP_end hhas rest
  | cap_ls => cases htask
  | cap_req => cases htask
  | pass => cases htask
  | ping => cases htask
  | pong => cases htask

theorem tasksOf_none {i : Bytes × Command × List Bytes} (h : taskOf i.2 = none)
    (items : List (Bytes × Command × List Bytes)) : tasksOf (i :: items) = tasksOf items :=
  List.filterMap_cons_none h

theorem tasksOf_some {i : Bytes × Command × List Bytes} {t : ConnectionSetupTasks}
    (h : taskOf i.2 = some t) (items : List (Bytes × Command × List Bytes)) :
    tasksOf (i :: items) = t :: tasksOf items := List.filterMap_cons_some h

theorem sessionStep_eq {i : Bytes × Command × List Bytes} (h : lineCommand c i.1 w = some i.2) :
    sessionStep env c w i =
      handle env c (lineTags c i.1 w) i.2.1 i.2.2 (handlerWorld c i.1 w) := by
  unfold sessionStep
  rw [parseIncoming_eq, h]

theorem sessionStep_idle (env : Env) {i : Bytes × Command × List Bytes}
    (hreads : lineCommand c i.1 w = some i.2) (hsent : Sent n user_name realname i.2) (hidle : taskOf i.2 = none) :
    ∃ w', sessionStep env c w i = .ok w' ∧ settled c w' = settled c w ∧
      (w'.conn c).m_passGiven = passAfter (w.conn c).m_passGiven i.2 := by
  obtain ⟨w', hstep, hsettled, hpass⟩ :=
    handle_idle env (handlerWorld c i.1 w) hsent hidle (lineTags c i.1 w)
  rw [conn_handlerWorld] at hpass
  exact ⟨w', (sessionStep_eq hreads).trans hstep, hsettled.trans (settled_handlerWorld i.1), hpass⟩

theorem passGiven_give (t : ConnectionSetupTasks) :
    ((give c n user_name realname w t).conn c).m_passGiven = (w.conn c).m_passGiven := by
  unfold give
  rw [updConn_conn, if_pos rfl]
  cases t <;> rfl

/-- the line that clears a task which is not the last -/
theorem sessionStep_task {i : Bytes × Command × List Bytes} {t : ConnectionSetupTasks}
    {ts : List ConnectionSetupTasks} (hvalid : isValidNick env n = true)
    (hshort : user_name.length ≤ 16) (hreads : lineCommand c i.1 w = some i.2)
    (hsent : Sent n user_name realname i.2) (htask : taskOf i.2 = some t)
    (hnodup : (t :: ts).Nodup) (hsome : ts ≠ []) (hwait : Awaiting c n (t :: ts) w) :
    ∃ w', sessionStep env c w i = .ok w' ∧ Awaiting c n ts w' ∧
      settled c w' = settled c (give c n user_name realname w t) ∧
      (w'.conn c).m_passGiven = (w.conn c).m_passGiven := by
  have hsettled := settled_handlerWorld (c := c) (w := w) i.1
  have hwait1 := hwait.congr hsettled
  have hgiven := hwait1.give user_name realname hnodup
  obtain ⟨t', ht'⟩ := List.exists_mem_of_ne_nil ts hsome
  refine ⟨_, ?_, hgiven, ?_, ?_⟩
  · rw [sessionStep_eq hreads, handle_task hvalid hshort hwait1 hsent htask]
    apply try_finalize_waiting
    apply Bool.eq_false_iff.mpr
    intro hempty
    have hhas := (hgiven.has t').mpr ht'
    rw [Flags.not_has_of_empty hempty] at hhas
    cases hhas
  · rw [settled_give, hsettled, ← settled_give]
  · rw [passGiven_give, conn_handlerWorld]

/-- the line that clears the last -/
theorem sessionStep_last {i : Bytes × Command × List Bytes} {t : ConnectionSetupTasks}
    (hvalid : isValidNick env n = true) (hshort : user_name.length ≤ 16)
    (hserver : env.server.m_password = []) (hreads : lineCommand c i.1 w = some i.2)
    (hsent : Sent n user_name realname i.2) (htask : taskOf i.2 = some t)
    (hwait : Awaiting c n [t] w) :
    ∃ w', sessionStep env c w i = .ok w' ∧
      settled c w' = settled c (enrolled c n (give c n user_name realname w t)) ∧
      (w'.conn c).m_passGiven = (w.conn c).m_passGiven := by
  have hsettled := settled_handlerWorld (c := c) (w := w) i.1
  have hwait1 := hwait.congr hsettled
  have hgiven := hwait1.give user_name realname (List.nodup_singleton t)
  have hnick : ((give c n user_name realname (handlerWorld c i.1 w) t).conn c).m_nick = n := by
    rw [hgiven.nick, if_neg List.not_mem_nil]
  have hempty := (Flags.empty_iff hgiven.within).mpr fun t' => by
    apply Bool.eq_false_iff.mpr
    intro hhas
    exact List.not_mem_nil ((hgiven.has t').mp hhas)
  have hfree : Ctx.irc_nick_get (give c n user_name realname (handlerWorld c i.1 w) t) (toLower
      ((give c n user_name realname (handlerWorld c i.1 w) t).conn c).m_nick) = none := by
    rw [hnick]
    exact hgiven.free
  obtain ⟨hfinished, hpass⟩ :=
    settled_finished env hgiven.account hnick (isValidNick_ne_nil hvalid)
  refine ⟨_, ?_, hfinished.trans ?_, hpass.trans ?_⟩
  · rw [sessionStep_eq hreads, handle_task hvalid hshort hwait1 hsent htask]
    exact try_finalize_new ⟨hgiven.ready, hempty⟩ hgiven.account hgiven.logged_in
      (setupRefused_free hserver hfree)
  · rw [settled_enrolled, settled_give, hsettled, ← settled_give, ← settled_enrolled]
  · rw [passGiven_give, conn_handlerWorld]

theorem taskOf_passAfter {cmd : Command × List Bytes} {t : ConnectionSetupTasks}
    (h : taskOf cmd = some t) (pass : Bytes) : passAfter pass cmd = pass := by
  obtain ⟨k, args⟩ := cmd
  cases k with
  | PASS => cases h
  | _ => rfl

/-- lines that clear no task -/
theorem session_idle {items : List (Bytes × Command × List Bytes)}
    (hsent : ∀ i ∈ items, Sent n user_name realname i.2)
    (hreads : AllSteps (sessionStep env c) (fun w i => lineCommand c i.1 w = some i.2) w items)
    (hidle : tasksOf items = []) :
    ∃ w', run (sessionStep env c) w items = .ok w' ∧ settled c w' = settled c w ∧
      (w'.conn c).m_passGiven =
        (items.map Prod.snd).foldl passAfter (w.conn c).m_passGiven := by
  induction items generalizing w with
  | nil => exact ⟨w, rfl, rfl, rfl⟩
  | cons i items ih =>
    have hnone : taskOf i.2 = none := List.filterMap_eq_nil_iff.mp hidle i List.mem_cons_self
    obtain ⟨w1, hstep, hsettled, hpass⟩ :=
      sessionStep_idle env hreads.1 (hsent i List.mem_cons_self) hnone
    rw [tasksOf_none hnone] at hidle
    obtain ⟨w', hrun, hsettled', hpass'⟩ :=
      ih (fun j hj => hsent j (List.mem_cons_of_mem _ hj)) (hreads.2 w1 hstep) hidle
    refine ⟨w', ?_, hsettled'.trans hsettled, ?_⟩
    · rw [run_cons, hstep]
      exact hrun
    · rw [hpass', hpass]
      rfl

/-- **The order of a registration.** -/
theorem session_awaiting (hvalid : isValidNick env n = true) (hshort : user_name.length ≤ 16)
    (hserver : env.server.m_password = []) {items : List (Bytes × Command × List Bytes)}
    (hsent : ∀ i ∈ items, Sent n user_name realname i.2)
    (hreads : AllSteps (sessionStep env c) (fun w i => lineCommand c i.1 w = some i.2) w items)
    {ts : List ConnectionSetupTasks} (hts : tasksOf items = ts)
    (hnodup : ts.Nodup) (hsome : ts ≠ []) (hwait : Awaiting c n ts w) :
    ∃ w', run (sessionStep env c) w items = .ok w' ∧
      settled c w' = settled c (enrolled c n (ts.foldl (give c n user_name realname) w)) ∧
      (w'.conn c).m_passGiven =
        (items.map Prod.snd).foldl passAfter (w.conn c).m_passGiven := by
  induction items generalizing w ts with
  | nil => exact absurd hts.symm hsome
  | cons i items ih =>
    have hi := hsent i List.mem_cons_self
    have hrest : ∀ j ∈ items, Sent n user_name realname j.2 :=
      fun j hj => hsent j (List.mem_cons_of_mem _ hj)
    cases htask : taskOf i.2 with
    | none =>
      obtain ⟨w1, hstep, hsettled, hpass⟩ := sessionStep_idle env hreads.1 hi htask
      rw [tasksOf_none htask] at hts
      obtain ⟨w', hrun, hsettled', hpass'⟩ :=
        ih hrest (hreads.2 w1 hstep) hts hnodup hsome (hwait.congr hsettled)
      refine ⟨w', ?_, ?_, ?_⟩
      · rw [run_cons, hstep]
        exact hrun
      · rw [hsettled', settled_enrolled, settled_gives, hsettled, ← settled_gives,
          ← settled_enrolled]
      · rw [hpass', hpass]
        rfl
    | some t =>
      rw [tasksOf_some htask] at hts
      subst hts
      cases hmore : tasksOf items with
      | nil =>
        rw [hmore] at hwait
        obtain ⟨w1, hstep, hsettled, hpass⟩ :=
          sessionStep_last hvalid hshort hserver hreads.1 hi htask hwait
        obtain ⟨w', hrun, hsettled', hpass'⟩ := session_idle hrest (hreads.2 w1 hstep) hmore
        refine ⟨w', ?_, hsettled'.trans hsettled, ?_⟩
        · rw [run_cons, hstep]
          exact hrun
        · rw [hpass', hpass, List.map_cons, List.foldl_cons, taskOf_passAfter htask]
      | cons t' ts =>
        have hne : tasksOf items ≠ [] := by
          rw [hmore]
          exact List.cons_ne_nil t' ts
        obtain ⟨w1, hstep, hwait1, hsettled, hpass⟩ :=
          sessionStep_task hvalid hshort hreads.1 hi htask hnodup hne hwait
        obtain ⟨w', hrun, hsettled', hpass'⟩ :=
          ih hrest (hreads.2 w1 hstep) rfl (List.nodup_cons.mp hnodup).2 hne hwait1
        refine ⟨w', ?_, ?_, ?_⟩
        · rw [run_cons, hstep]
          exact hrun
        · rw [hsettled', settled_enrolled, settled_gives, hsettled, ← settled_gives,
            ← settled_enrolled, ← hmore]
          rfl
        · rw [hpass', hpass, List.map_cons, List.foldl_cons, taskOf_passAfter htask]

theorem give_perm {ts ts' : List ConnectionSetupTasks} (h : ts.Perm ts') :
    ts.foldl (give c n user_name realname) w = ts'.foldl (give c n user_name realname) w := by
  have hcomm : RightCommutative (give c n user_name realname) := ⟨fun _ t t' => give_comm t t'⟩
  exact h.foldl_eq w

theorem ready_enrolled : ((enrolled c n w).conn c).is_ready = true := by
  unfold enrolled setReady
  dsimp only
  rw [updConn_conn, if_pos rfl]

end

/-! ## the machine -/

/-- a NICK, a USER and a CAP END of one user with the commands that may stand between them, each
line read as its command in the state it finds -/
structure Session (env : Env) (c : ConnId) (n user_name realname : Bytes) (w : World)
    (items : List (Bytes × Command × List Bytes)) : Prop where
  valid : isValidNick env n = true
  short : user_name.length ≤ 16
  server : env.server.m_password = []
  free : Ctx.irc_nick_get w (toLower n) = none
  sent : ∀ i ∈ items, Sent n user_name realname i.2
  reads : AllSteps (sessionStep env c) (fun w i => lineCommand c i.1 w = some i.2) w items
  once : (tasksOf items).Perm [.NICK, .USER, .CAP_EXCHANGE]

/-- in this run a line has made the connection ready, after a NICK, a USER and a CAP END; it left
the connection with an account that has it among its connections -/
def BecameReady (env : Env) (c : ConnId) (w : World) (is : List (Meanwhile c × Bytes)) : Prop :=
  ∃ pre i post m m', is = pre ++ i :: post ∧ run (setupStep env c) w pre = .ok m ∧
    setupStep env c m i = .ok m' ∧ (m.conn c).is_ready = false ∧ (m'.conn c).is_ready = true ∧
    Attached c m' ∧ ∀ t, Happens env c (fun line w => Clears env c line w t) w (pre ++ [i])

section
variable {env : Env} {c : ConnId} {w : World}

/-- a new connection awaits all three -/
theorem Fresh.awaiting (h : Fresh c w) {n : Bytes} (hfree : Ctx.irc_nick_get w (toLower n) = none)
    {ts : List ConnectionSetupTasks} (hts : ts.Perm [.NICK, .USER, .CAP_EXCHANGE]) :
    Awaiting c n ts w := by
  obtain ⟨⟨htasks, hready, hacc, hnick⟩, hlogged, -⟩ := h
  have hall (t : ConnectionSetupTasks) : t ∈ ts := by
    apply hts.mem_iff.mpr
    cases t <;> decide
  refine ⟨?_, ?_, hacc, hready, hlogged, ?_, hfree⟩
  · intro t
    rw [htasks]
    refine ⟨fun _ => hall t, fun _ => ?_⟩
    cases t <;> rfl
  · rw [htasks]
    exact ((Flags.within_zero.set _).set _).set _
  · rw [hnick, if_pos (hall .NICK)]

/-- **The registration machine.**  From a new connection, in every run of its lines and whatever
happens on the others in between: the setup is finished at most once and greeted at most once; the
connection gets ready only after a valid NICK, a USER and a CAP END, on an account that has it; and
a line that leaves it short of ready changes no channel and no metadata and delivers nothing.  One
NICK with a free nick, one USER and one CAP END lead to the same state in whatever order they come
and whatever harmless lines come with them. -/
theorem registration_machine (h : Fresh c w) :
    (∀ is : List (Meanwhile c × Bytes),
      (∀ w', run (setupStep env c) w is = .ok w' →
        w'.trace.countP (Trace.finalizes c) ≤ 1 ∧ w'.trace.countP (Trace.welcomes c) ≤ 1 ∧
          ((w'.conn c).is_ready = true → BecameReady env c w is)) ∧
      AllSteps (setupStep env c) (fun w i => ∀ w', setupStep env c w i = .ok w' →
        (w'.conn c).is_ready = false → w'.content = (i.1.act w).content) w is) ∧
    ∀ n user_name realname items, Session env c n user_name realname w items →
      ∃ w', run (sessionStep env c) w items = .ok w' ∧ (w'.conn c).is_ready = true ∧
        settled c w' = settled c (enrolled c n
          ([.NICK, .USER, .CAP_EXCHANGE].foldl (give c n user_name realname) w)) ∧
        (w'.conn c).m_passGiven =
          (items.map Prod.snd).foldl passAfter (w.conn c).m_passGiven := by
  refine ⟨fun is => ⟨fun w' hrun => ?_, ?_⟩, ?_⟩
  · have honce := once_run h hrun
    rw [← countP_finalizes, ← countP_welcomes]
    exact ⟨honce.finalizes, honce.welcomes, becomes_ready h hrun⟩
  · apply (allSteps_true w is).mono
    intro w i _ w' hstep hready
    obtain ⟨ls, -, -, hcontent⟩ := parseIncoming_sat.of_ok hstep
    exact hcontent hready
  · intro n user_name realname items hs
    have hnodup : (tasksOf items).Nodup := hs.once.nodup_iff.mpr (by decide)
    have hsome : tasksOf items ≠ [] := by
      intro hnil
      have hlen := hs.once.length_eq
      rw [hnil] at hlen
      cases hlen
    obtain ⟨w', hrun, hsettled, hpass⟩ := session_awaiting hs.valid hs.short hs.server hs.sent
      hs.reads rfl hnodup hsome (h.awaiting hs.free hs.once)
    rw [give_perm hs.once] at hsettled
    refine ⟨w', hrun, ?_, hsettled, hpass⟩
    have hconn := settled_conn (c := c) (w := w')
    rw [hsettled, settled_conn] at hconn
    exact (congrArg Conn.is_ready hconn).symm.trans ready_enrolled

end

/-- CAP LS and a password first, then the three lines with a PING between them -/
def bobRegisters : List (Bytes × Command × List Bytes) :=
  [(ascii "CAP LS 302", .CAP, [ascii "LS", ascii "302"]), (ascii "PASS x", .PASS, [ascii "x"]),
    (ascii "USER bob 0 * :Bob", .USER, [ascii "bob", ascii "0", ascii "*", ascii "Bob"]),
    (ascii "CAP REQ :message-tags", .CAP, [ascii "REQ", ascii "message-tags"]),
    (ascii "CAP END", .CAP, [ascii "END"]), (ascii "PING 1", .PING, [ascii "1"]),
    (ascii "NICK bob", .NICK, [ascii "bob"])]

theorem fresh_empty (c : ConnId) : Fresh c World.empty :=
  ⟨⟨rfl, rfl, rfl, rfl⟩, rfl, rfl, rfl⟩

set_option maxRecDepth 8000 in
theorem session_bob :
    Session Env.ascii 0 (ascii "bob") (ascii "bob") (ascii "Bob") World.empty bobRegisters where
  valid := rfl
  short := by decide
  server := rfl
  free := rfl
  sent := by
    intro i hi
    fin_cases hi
    · exact .cap_ls _
    · exact .pass _
    · exact .user _ _ _
    · exact .cap_req _
    · exact .cap_end _
    · exact .ping _
    · exact .nick _
  reads := by
    have hcheck : AllSteps (sessionStep Env.ascii 0)
        (fun w i => decide (lineCommand 0 i.1 w = some i.2) = true) World.empty bobRegisters :=
      allSteps_of_check rfl
    exact hcheck.mono fun w i hi => of_decide_eq_true hi
  once := by decide

theorem registration_machine_bob :
    ∃ w', run (sessionStep Env.ascii 0) World.empty bobRegisters = .ok w' ∧
      (w'.conn 0).is_ready = true ∧ (w'.conn 0).m_passGiven = ascii "x" := by
  obtain ⟨w', hrun, hready, -, hpass⟩ :=
    (registration_machine (fresh_empty 0)).2 _ _ _ _ session_bob
  exact ⟨w', hrun, hready, hpass⟩

end client_connection

end Chatripper
