import Mathlib
import Chatripper.Irc.Settings
import Chatripper.Irc.Registering

/-!
# Modes that a client may not give itself

The server marks a connection that has logged in with `+r` through the same handler that a client's
MODE reaches, and that handler sets whatever bit a letter stands for.

* `has_changeModes`   the bits after a list of letters;
* `step_unprivileged`   one event keeps the connections unprivileged unless a client grants itself a
  mode;
* `privileges_iff`    the same over a run.
-/

namespace Chatripper
open ByteStr Utf8 Outcome

namespace Reg

/-- a connection that has logged in stays so -/
theorem SysStep.logged_in {l : SysLabel} {r r' : Reg} (h : SysStep l r r') (hl : l ≠ .connect)
    {d : ConnId} (hd : (r.conn d).logged_in = true) : (r'.conn d).logged_in = true := by
  have hupd (r : Reg) (c : ConnId) (f : ConnReg → ConnReg) (hd : (r.conn d).logged_in = true)
      (hf : ∀ k, k.logged_in = true → (f k).logged_in = true) :
      ((r.updConn c f).conn d).logged_in = true := by
    rw [updConn_conn]
    split
    · next hx => exact hf _ (hx ▸ hd)
    · exact hd
  cases h with
  | connect => exact absurd rfl hl
  | @disconnect c _ _ =>
    rw [disconnect_conn]
    split
    · next hx => exact hx ▸ hd
    · exact hd
  | conn _ h =>
    cases h with
    | giveNick => exact hupd _ _ _ hd fun _ hk => hk
    | clear => exact hupd _ _ _ hd fun _ hk => hk
    | refuse => exact hd
    | registerNew =>
      rw [registerNew_conn]
      split
      · next hx => exact hx ▸ hd
      · exact hd
    | registerOld =>
      rw [registerOld_conn]
      split
      · next hx => exact hx ▸ hd
      · exact hd
    | rename => exact hd
    | login => exact hupd _ _ _ hd fun _ _ => rfl
    | relogin => exact hupd _ _ _ hd fun _ _ => rfl
    | merge => exact hupd _ _ _ hd fun _ _ => rfl

end Reg

namespace client_connection
open World

/-! ## the letters -/

/-- a letter of the list stands for the mode -/
def named (letters : Bytes) (e : UserModes) : Bool :=
  letters.any fun letter => lookupLetter userModesTable letter == some e

/-- letters that are added set their modes, letters that are removed clear them -/
theorem has_changeModes (adding : Bool) (letters : Bytes) (modes : Flags UserModes) (e : UserModes) :
    (changeModes adding letters modes).has e =
      if adding then modes.has e || named letters e else modes.has e && !named letters e := by
  unfold changeModes
  induction letters generalizing modes with
  | nil => cases adding <;> simp [named]
  | cons letter letters ih =>
    have hnamed : named (letter :: letters) e =
        (lookupLetter userModesTable letter == some e || named letters e) := List.any_cons
    rw [List.foldl_cons, ih, hnamed]
    cases lookupLetter userModesTable letter with
    | none => simp
    | some mode =>
      dsimp only
      by_cases he : e = mode
      · subst he
        cases adding with
        | true => simp [Flags.has_set]
        | false => simp [Flags.has_clear]
      · have hne : (some mode == some e) = false := by
          rw [beq_eq_false_iff_ne]
          intro h
          exact he (Option.some.inj h).symm
        rw [hne, Bool.false_or]
        cases adding with
        | true => simp [Flags.has_set, he]
        | false => simp [Flags.has_clear, he]

/-! ## the modes of a connection -/

/-- `+r` only after a login, and no operator -/
structure Unprivileged (k : Conn) : Prop where
  registered : k.user_modes.has .REGISTERED = true → k.logged_in = true
  operator : k.user_modes.has .IRC_OPERATOR = false
  localOperator : k.user_modes.has .LOCAL_OPERATOR = false

/-- the modes that a connection may not add to its own -/
def privileged (letters : Bytes) (logged_in : Bool) : Bool :=
  named letters .IRC_OPERATOR || named letters .LOCAL_OPERATOR ||
    named letters .REGISTERED && !logged_in

theorem unprivileged_adding {k k' : Conn} {letters : Bytes} (h : Unprivileged k)
    (hmodes : k'.user_modes = changeModes true letters k.user_modes)
    (hlogged : k'.logged_in = k.logged_in) :
    Unprivileged k' ↔ privileged letters k.logged_in = false := by
  have hhas (e : UserModes) : k'.user_modes.has e = (k.user_modes.has e || named letters e) := by
    rw [hmodes, has_changeModes]
    rfl
  constructor
  · intro h'
    have hop := h'.operator
    have hlocal := h'.localOperator
    have hreg := h'.registered
    rw [hhas, Bool.or_eq_false_iff] at hop hlocal
    rw [hhas, hlogged] at hreg
    unfold privileged
    rw [hop.2, hlocal.2, Bool.false_or, Bool.false_or, Bool.and_eq_false_iff, Bool.not_eq_false']
    by_cases hr : named letters .REGISTERED = true
    · right
      apply hreg
      rw [hr, Bool.or_true]
    · left
      exact Bool.not_eq_true _ ▸ hr
  · intro hp
    unfold privileged at hp
    rw [Bool.or_eq_false_iff, Bool.or_eq_false_iff, Bool.and_eq_false_iff, Bool.not_eq_false'] at hp
    obtain ⟨⟨hop, hlocal⟩, hreg⟩ := hp
    refine ⟨fun hr => ?_, ?_, ?_⟩
    · rw [hhas, Bool.or_eq_true_iff] at hr
      rw [hlogged]
      rcases hr with hr | hr
      · exact h.registered hr
      · rcases hreg with hreg | hreg
        · rw [hreg] at hr
          cases hr
        · exact hreg
    · rw [hhas, h.operator, hop]
      rfl
    · rw [hhas, h.localOperator, hlocal]
      rfl

theorem Unprivileged.sub {k k' : Conn} (h : Unprivileged k)
    (hmodes : ∀ e, k'.user_modes.has e = true → k.user_modes.has e = true)
    (hlogged : k.logged_in = true → k'.logged_in = true) : Unprivileged k' := by
  refine ⟨fun hr => hlogged (h.registered (hmodes _ hr)), ?_, ?_⟩
  · by_contra hop
    have hk := hmodes _ (Bool.not_eq_false _ ▸ hop)
    rw [h.operator] at hk
    cases hk
  · by_contra hop
    have hk := hmodes _ (Bool.not_eq_false _ ▸ hop)
    rw [h.localOperator] at hk
    cases hk

theorem Unprivileged.set_registered {k k' : Conn} (h : Unprivileged k)
    (hmodes : k'.user_modes = k.user_modes.set .REGISTERED) (hlogged : k'.logged_in = true) :
    Unprivileged k' := by
  refine ⟨fun _ => hlogged, ?_, ?_⟩
  · rw [hmodes, Flags.has_set, h.operator]
    rfl
  · rw [hmodes, Flags.has_set, h.localOperator]
    rfl

end client_connection

namespace Worker
open World client_connection

/-- a MODE of a client on its own nick that adds a mode it may not give itself -/
def selfGrants (w : World) : Event → Bool
  | .line c line => (w.conn c).live && match lineCommand c line w with
    | some (.MODE, args) => match ownModes c args w with
      | some (true, letters) => privileged letters (w.conn c).logged_in
      | _ => false
    | _ => false
  | _ => false

section
variable {env : Env} {w w' : World}

/-- logins are kept, but for a connection that is made -/
theorem step_logged_in {ev : Event} (h : step env w ev = .ok w')
    (hev : ∀ isWebSocket ip, ev ≠ .connect isWebSocket ip) {d : ConnId}
    (hd : (w.conn d).logged_in = true) : (w'.conn d).logged_in = true := by
  obtain ⟨ls, hchain, hls⟩ := step_chain h
  exact hchain.inv (I := fun r => (r.conn d).logged_in = true) (P := fun l => l ≠ .connect)
    (fun _ _ _ hl hr hs => hs.logged_in hl hr) (fun l hl he => by
      have hlabel := hls l hl
      rw [he] at hlabel
      cases ev with
      | connect isWebSocket ip => exact hev isWebSocket ip rfl
      | line c line => exact hlabel
      | deliver c => exact hlabel
      | disconnect c => exact hlabel) hd

/-- **One event.** -/
theorem step_unprivileged {ev : Event} (hI : ∀ d, Unprivileged (w.conn d))
    (h : step env w ev = .ok w') (hno : selfGrants w ev = false) (d : ConnId) :
    Unprivileged (w'.conn d) := by
  have hmodes := step_modes h
  have hkeep (hev : ∀ isWebSocket ip, ev ≠ .connect isWebSocket ip)
      (hsame : (w'.conn d).user_modes = (w.conn d).user_modes) : Unprivileged (w'.conn d) := by
    refine (hI d).sub (fun e he => ?_) (step_logged_in h hev)
    rw [← hsame]
    exact he
  cases ev with
  | connect isWebSocket ip =>
    cases h
    show Unprivileged (if d = w.nextConn then _ else w.conn d)
    split
    · have hnone (e : UserModes) : (⟨0⟩ : Flags UserModes).has e = false :=
        Flags.not_has_of_empty rfl e
      refine ⟨fun hr => ?_, hnone _, hnone _⟩
      have hr : (⟨0⟩ : Flags UserModes).has .REGISTERED = true := hr
      rw [hnone] at hr
      cases hr
    · exact hI d
  | deliver c => exact hkeep (fun _ _ he => by cases he) (congrFun hmodes d)
  | disconnect c => exact hkeep (fun _ _ he => by cases he) (congrFun hmodes d)
  | line c line =>
    have hline : ∀ isWebSocket ip, Event.line c line ≠ .connect isWebSocket ip := fun _ _ he => by
      cases he
    rcases hmodes with hsame | ⟨cmd, args, hlive, hcmd, hsame | ⟨adding, letters, rfl, hown, hset⟩ |
      ⟨hlogged, hset⟩⟩
    · exact hkeep hline (congrFun hsame d)
    · exact hkeep hline (congrFun hsame d)
    · by_cases hd : d = c
      · subst hd
        have hset' : (w'.conn d).user_modes = changeModes adding letters (w.conn d).user_modes :=
          (congrFun hset d).trans (if_pos rfl)
        have hlogged := step_logged_in h hline (d := d)
        cases adding with
        | false =>
          refine (hI d).sub (fun e he => ?_) hlogged
          rw [hset', has_changeModes] at he
          exact (Bool.and_eq_true_iff.mp he).1
        | true =>
          have hpriv : privileged letters (w.conn d).logged_in = false := by
            have hno : ((w.conn d).live && match lineCommand d line w with
              | some (.MODE, args) => match ownModes d args w with
                | some (true, letters) => privileged letters (w.conn d).logged_in
                | _ => false
              | _ => false) = false := hno
            rw [hlive, hcmd, Bool.true_and] at hno
            dsimp only at hno
            rw [hown] at hno
            exact hno
          have hmid := (@unprivileged_adding (w.conn d)
            { w.conn d with user_modes := changeModes true letters (w.conn d).user_modes } letters
            (hI d) rfl rfl).mpr hpriv
          refine hmid.sub (fun e he => ?_) hlogged
          rw [hset'] at he
          exact he
      · exact hkeep hline ((congrFun hset d).trans (if_neg hd))
    · by_cases hd : d = c
      · subst hd
        exact (hI d).set_registered ((congrFun hset d).trans (if_pos rfl))
          (step_logged_in h hline hlogged)
      · exact hkeep hline ((congrFun hset d).trans (if_neg hd))

/-- a client that grants itself a mode has it -/
theorem step_privileged {ev : Event} (hI : ∀ d, Unprivileged (w.conn d))
    (hgrants : selfGrants w ev = true) :
    ∃ w' d, step env w ev = .ok w' ∧ ¬ Unprivileged (w'.conn d) := by
  cases ev with
  | line c line =>
    have hgrants : ((w.conn c).live && match lineCommand c line w with
      | some (.MODE, args) => match ownModes c args w with
        | some (true, letters) => privileged letters (w.conn c).logged_in
        | _ => false
      | _ => false) = true := hgrants
    obtain ⟨hlive, hgrants⟩ := Bool.and_eq_true_iff.mp hgrants
    split at hgrants
    · next args hcmd =>
      split at hgrants
      · next letters hown =>
        have hreg := reg_handlerWorld (c := c) (w := w) line
        have hset := settings_handlerWorld (c := c) (w := w) line
        have hconn := conn_handlerWorld (c := c) (w := w) line
        have hstep : step env w (.line c line) = handleMODE env c args (handlerWorld c line w) := by
          show (if (w.conn c).live then parseIncoming env c line w else .ok w) = _
          rw [if_pos hlive, parseIncoming_eq, hcmd]
          rfl
        have hkeeps : Sat (fun _ => False) (fun w' => w'.reg = (handlerWorld c line w).reg)
            (handleMODE env c args (handlerWorld c line w)) := handleMODE_sat
        have hsat := hkeeps.and handleMODE_settings
        rw [hstep]
        cases hr : handleMODE env c args (handlerWorld c line w) with
        | error e => exact (hsat.of_error hr).1.elim
        | ok w' =>
          obtain ⟨hreg', hset'⟩ := hsat.of_ok hr
          rw [ownModes_congr hreg, hown, hset, hconn] at hset'
          refine ⟨w', c, rfl, fun h' => ?_⟩
          have hmodes : (w'.conn c).user_modes = changeModes true letters (w.conn c).user_modes :=
            (congrFun (congrArg Settings.user_modes hset') c).trans (if_pos rfl)
          have hlogged : (w'.conn c).logged_in = (w.conn c).logged_in :=
            congrArg ConnReg.logged_in (reg_conn_eq (hreg'.trans hreg) c)
          rw [(unprivileged_adding (hI c) hmodes hlogged).mp h'] at hgrants
          cases hgrants
      · cases hgrants
    · cases hgrants
  | _ => cases hgrants

/-- **User modes.**  From a state in which no connection is privileged, no connection is in any state
of a run if and only if no client adds `o` or `O` to its own modes, or `r` before it has logged in. -/
theorem privileges_iff (hI : ∀ d, Unprivileged (w.conn d)) (evs : List Event) :
    AllSteps (step env) (fun w ev => ∀ w', step env w ev = .ok w' → ∀ d, Unprivileged (w'.conn d))
        w evs ↔
      AllSteps (step env) (fun w ev => selfGrants w ev = false) w evs := by
  refine allSteps_congr (I := fun w => ∀ d, Unprivileged (w.conn d))
    (fun w ev w' _ hall hs => hall w' hs) (fun w ev hw => ?_) hI
  constructor
  · intro hall
    by_contra hgrants
    obtain ⟨w', d, hs, hnot⟩ := @step_privileged env w ev hw (Bool.not_eq_false _ ▸ hgrants)
    exact hnot (hall w' hs d)
  · intro hno w' hs d
    exact step_unprivileged hw hs hno d

end

/-- ann registers and makes herself an operator -/
def annPromotes : List Event := registration 0 false "ann" ++ [.line 0 (ascii "MODE ann +oOr")]

set_option maxRecDepth 8000 in
/-- she has not logged in -/
theorem self_granted : ∃ w', run (step Env.ascii) World.empty annPromotes = .ok w' ∧
    (w'.conn 0).user_modes.has .IRC_OPERATOR = true ∧
    (w'.conn 0).user_modes.has .LOCAL_OPERATOR = true ∧
    (w'.conn 0).user_modes.has .REGISTERED = true ∧ (w'.conn 0).logged_in = false ∧
    ¬ Unprivileged (w'.conn 0) := by
  have hend : ∃ w', run (step Env.ascii) World.empty annPromotes = .ok w' ∧
      (w'.conn 0).user_modes.has .IRC_OPERATOR = true ∧
      (w'.conn 0).user_modes.has .LOCAL_OPERATOR = true ∧
      (w'.conn 0).user_modes.has .REGISTERED = true ∧ (w'.conn 0).logged_in = false := by
    unfold annPromotes
    rw [run_registration ann_letsIn]
    exact ⟨_, rfl, rfl, rfl, rfl, rfl⟩
  obtain ⟨w', hrun, hop, hlocal, hreg, hlogged⟩ := hend
  refine ⟨w', hrun, hop, hlocal, hreg, hlogged, fun h => ?_⟩
  rw [h.operator] at hop
  cases hop

/-- the same run, at the general theorem -/
theorem privileges_iff_ann :
    AllSteps (step Env.ascii)
        (fun w ev => ∀ w', step Env.ascii w ev = .ok w' → ∀ d, Unprivileged (w'.conn d))
        World.empty annPromotes ↔
      AllSteps (step Env.ascii) (fun w ev => selfGrants w ev = false) World.empty annPromotes := by
  have hnone (e : UserModes) : (⟨0⟩ : Flags UserModes).has e = false :=
    Flags.not_has_of_empty rfl e
  refine privileges_iff (fun d => ⟨fun hr => ?_, hnone _, hnone _⟩) annPromotes
  have hr : (⟨0⟩ : Flags UserModes).has .REGISTERED = true := hr
  rw [hnone] at hr
  cases hr

end Worker

end Chatripper
