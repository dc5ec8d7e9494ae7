import Mathlib
import Chatripper.Irc.LineSteps

/-!
# Null accounts and missing parameters

`Fault` makes two kinds of undefined behaviour visible.  Neither is excluded by the code, and here
is exactly when each happens.

* `null_account_iff`   over every run of lines on one connection, a method is called through a null
  account only by a NICK that follows a refused setup;
* `out_of_range_iff`   for every line and state, a missing parameter is read only by a bare JOIN and
  a bare CAP.

The first rests on an invariant of the registration machine: a ready connection has an account.
-/

namespace Chatripper
open ByteStr Utf8 Outcome

/-! ## a ready connection has an account -/

def Reg.ReadyHasAccount (c : ConnId) (r : Reg) : Prop :=
  (r.conn c).is_ready = true → (r.conn c).m_account ≠ none

namespace Reg

theorem Step.readyHasAccount {c : ConnId} {l : Label} {r r' : Reg} (h : Step c l r r')
    (hinv : ReadyHasAccount c r) : ReadyHasAccount c r' := by
  unfold ReadyHasAccount at hinv ⊢
  cases h with
  | giveNick => simpa using hinv
  | clear => simpa using hinv
  | refuse => exact hinv
  | registerNew => simp
  | registerOld => simp
  | rename => exact hinv
  | login => simp
  | relogin => simp
  | merge => simp

end Reg

namespace client_connection
open World

/-- what happens on other connections between two lines of `c`: anything but a change of the setup
of `c` itself -/
structure Interference (c : ConnId) where
  act : World → World
  keeps : ∀ w, ((act w).conn c).reg = (w.conn c).reg

/-- a line of `c`, after whatever the others did -/
def lineStep (env : Env) (c : ConnId) (w : World) (i : Interference c × Bytes) :
    Except Fault World := parseIncoming env c i.2 (i.1.act w)

/-- the setup state that `init()` leaves -/
def Initial (c : ConnId) (w : World) : Prop :=
  (w.conn c).setup_tasks = ({} : Conn).setup_tasks ∧ (w.conn c).is_ready = false ∧
    (w.conn c).m_account = none ∧ (w.conn c).m_nick = []

/-- the line is a NICK with a valid new nick, and the connection has no setup task and no account
left: an attempt to finish its setup was refused -/
def NickAfterRefusal (env : Env) (c : ConnId) (line : Bytes) (w : World) : Prop :=
  ∃ args, lineCommand c line w = some (.NICK, args) ∧ NickOnNull env c args w

section
variable {env : Env} {c : ConnId}

/-- such a NICK does follow the null pointer -/
theorem handleNICK_null {args : List Bytes} {w : World} (h : NickOnNull env c args w) :
    handleNICK env c args w = .error .nullAccount := by
  obtain ⟨hempty, hacc, n, hn, hvalid, hne⟩ := h
  have htask : (w.conn c).setup_tasks.has .NICK = false := Flags.not_has_of_empty hempty _
  have hargs : args ≠ [] := by
    rintro rfl
    cases hn
  have hread : listAt args 0 = .ok n := by
    unfold listAt
    rw [hn]
    rfl
  unfold handleNICK
  rw [if_neg hargs, hread]
  show (if !isValidNick env n then _ else _) = _
  rw [hvalid, hacc, htask, hempty]
  show changeOwnNick env c n w = _
  unfold changeOwnNick
  dsimp only
  rw [if_neg hne, hacc]
  rfl

/-- the step of one line, in a state where a ready connection has an account -/
theorem parseIncoming_null_iff {line : Bytes} {w : World} (hinv : w.reg.ReadyHasAccount c) :
    parseIncoming env c line w = .error .nullAccount ↔ NickAfterRefusal env c line w := by
  constructor
  · intro h
    obtain ⟨cmd, args, hcmd, hfault⟩ := parseIncoming_sat.of_error h
    rcases hfault.null rfl with ⟨hacc, hready⟩ | ⟨rfl, hnick⟩
    · exact absurd hacc (hinv hready)
    · exact ⟨args, hcmd, hnick⟩
  · rintro ⟨args, hcmd, hnick⟩
    rw [parseIncoming_eq, hcmd]
    exact handleNICK_null ((NickOnNull.congr (reg_handlerWorld line)).mpr hnick)

theorem lineStep_readyHasAccount {w w' : World} {i : Interference c × Bytes}
    (hinv : w.reg.ReadyHasAccount c) (h : lineStep env c w i = .ok w') :
    w'.reg.ReadyHasAccount c := by
  have hact : (i.1.act w).reg.ReadyHasAccount c := by
    unfold Reg.ReadyHasAccount
    rw [World.reg_conn, i.1.keeps w]
    exact hinv
  obtain ⟨ls, hchain, -, -⟩ := parseIncoming_sat.of_ok h
  exact hchain.inv (P := fun _ => True) (fun _ _ _ _ hI hstep => hstep.readyHasAccount hI)
    (fun _ _ => trivial) hact

/-- **Null accounts.**  In every run of lines on a connection from its initial state, with anything
happening on the others in between, every method call through an account pointer finds an account if
and only if no line of the run is a NICK after a refused setup. -/
theorem null_account_iff {w : World} (hinit : Initial c w) (is : List (Interference c × Bytes)) :
    AllSteps (lineStep env c) (fun w i => lineStep env c w i ≠ .error .nullAccount) w is ↔
      AllSteps (lineStep env c) (fun w i => ¬ NickAfterRefusal env c i.2 (i.1.act w)) w is := by
  have hinv : w.reg.ReadyHasAccount c := fun h => absurd (h.symm.trans hinit.2.1) nofun
  refine allSteps_congr (I := fun w => w.reg.ReadyHasAccount c)
    (fun w i w' hI _ h => lineStep_readyHasAccount hI h) (fun w i hI => ?_) hinv
  have hact : (i.1.act w).reg.ReadyHasAccount c := by
    unfold Reg.ReadyHasAccount
    rw [World.reg_conn, i.1.keeps w]
    exact hI
  exact not_congr (parseIncoming_null_iff hact)

end

/-- nothing happens on the other connections -/
def Interference.none (c : ConnId) : Interference c := ⟨id, fun _ => rfl⟩

def alone (c : ConnId) (lines : List String) : List (Interference c × Bytes) :=
  lines.map fun l => (.none c, ascii l)

/-- a server with a password -/
def guardedEnv : Env := { Env.ascii with server := { m_password := ascii "secret" } }

/-- a registration refused for its password, then a second NICK -/
theorem null_account_reached :
    Initial 0 World.empty ∧
      run (lineStep guardedEnv 0) World.empty
        (alone 0 ["NICK bob", "USER bob 0 * :Bob", "CAP END", "NICK eve"]) =
          .error .nullAccount :=
  ⟨⟨rfl, rfl, rfl, rfl⟩, rfl⟩

theorem null_account_iff_refused :
    AllSteps (lineStep guardedEnv 0)
        (fun w i => lineStep guardedEnv 0 w i ≠ .error .nullAccount) World.empty
        (alone 0 ["NICK bob", "USER bob 0 * :Bob", "CAP END", "NICK eve"]) ↔
      AllSteps (lineStep guardedEnv 0)
        (fun w i => ¬ NickAfterRefusal guardedEnv 0 i.2 (i.1.act w)) World.empty
        (alone 0 ["NICK bob", "USER bob 0 * :Bob", "CAP END", "NICK eve"]) :=
  null_account_iff ⟨rfl, rfl, rfl, rfl⟩ _

/-! ## missing parameters -/

/-- the line is a bare JOIN of a ready connection, or a bare CAP during the capability exchange -/
def BareCommand (c : ConnId) (line : Bytes) (w : World) : Prop :=
  ∃ cmd, lineCommand c line w = some (cmd, []) ∧
    (cmd = .JOIN ∨ cmd = .CAP ∧ (w.conn c).setup_tasks.has .CAP_EXCHANGE = true)

/-- a bare JOIN or CAP reads the parameter that is not there -/
theorem handle_bare {env : Env} {c : ConnId} {tags : QMap QString QVariant} {cmd : Command}
    {w : World} (h : cmd = .JOIN ∨ cmd = .CAP ∧ (w.conn c).setup_tasks.has .CAP_EXCHANGE = true) :
    handle env c tags cmd [] w = .error .outOfRange := by
  rcases h with rfl | ⟨rfl, htask⟩
  · rfl
  · show handleCAP env c [] w = _
    unfold handleCAP
    rw [if_pos htask]
    rfl

/-- **Missing parameters.**  In every state and for every line, the handlers read only parameters
that are there if and only if the line is no bare JOIN or CAP. -/
theorem out_of_range_iff (env : Env) (c : ConnId) (line : Bytes) (w : World) :
    parseIncoming env c line w ≠ .error .outOfRange ↔ ¬ BareCommand c line w := by
  refine not_congr ⟨fun h => ?_, ?_⟩
  · obtain ⟨cmd, args, hcmd, hfault⟩ := parseIncoming_sat.of_error h
    obtain ⟨rfl, ⟨rfl, -⟩ | ⟨rfl, htask⟩⟩ := hfault.range rfl
    · exact ⟨.JOIN, hcmd, Or.inl rfl⟩
    · exact ⟨.CAP, hcmd, Or.inr ⟨rfl, htask⟩⟩
  · rintro ⟨cmd, hcmd, hbare⟩
    rw [parseIncoming_eq, hcmd]
    refine handle_bare (hbare.imp_right fun h => ⟨h.1, ?_⟩)
    rw [conn_handlerWorld]
    exact h.2

theorem bare_cap_out_of_range :
    parseIncoming Env.ascii 0 (ascii "CAP") World.empty = .error .outOfRange := rfl

end client_connection

end Chatripper
