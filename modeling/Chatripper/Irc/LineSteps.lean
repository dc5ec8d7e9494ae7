import Mathlib
import Chatripper.Irc.SetupSteps
import Chatripper.Irc.Dispatch

/-!
# What one line does

`handle_sat` collects the handlers: the faults that each command can stop at, and the steps of the
registration machine it takes.  `parseIncoming_sat` is the same for a whole line.  A line that runs
no command leaves both views of the world alone.
-/

namespace Chatripper
open ByteStr Utf8 Outcome

namespace client_connection
open World

/-- the labels of a command -/
def lineLabel (env : Env) (c : ConnId) (cmd : Command) (args : List Bytes) (w : World) :
    Reg.Label → Prop :=
  match cmd with
  | .NICK => nickLabel env c args w
  | .USER => userLabel env c args w
  | .CAP => capLabel env c args w
  | .AUTHENTICATE => authLabel env c args w
  | _ => fun _ => False

/-- a command without the parameter that it reads first -/
def NoFirstArg (c : ConnId) (cmd : Command) (args : List Bytes) (w : World) : Prop :=
  args = [] ∧ (cmd = .JOIN ∧ (w.conn c).is_ready = true ∨
    cmd = .CAP ∧ (w.conn c).setup_tasks.has .CAP_EXCHANGE = true)

/-- the faults a command can stop at -/
structure CommandFault (env : Env) (c : ConnId) (cmd : Command) (args : List Bytes) (w : World)
    (e : Fault) : Prop where
  null : e = .nullAccount → (w.conn c).m_account = none ∧ (w.conn c).is_ready = true ∨
    cmd = .NICK ∧ NickOnNull env c args w
  range : e = .outOfRange → NoFirstArg c cmd args w

section
variable {env : Env} {c : ConnId} {w : World} {P : Reg.Label → Prop}

/-- what a ready connection does to channels is not looked at -/
theorem Effect.ready {w' : World} (hready : (w.conn c).is_ready = true) (hreg : w'.reg = w.reg) :
    Effect c P w w' := by
  refine ⟨[], hreg ▸ .nil _, nofun, fun h => ?_⟩
  have : (w'.conn c).is_ready = (w.conn c).is_ready := congrArg ConnReg.is_ready (reg_conn_eq hreg c)
  rw [this, hready] at h
  cases h

theorem CommandFault.of_nullChannel {cmd : Command} {args : List Bytes} {e : Fault}
    (he : e = .nullChannel) : CommandFault env c cmd args w e :=
  ⟨fun h => (by rw [he] at h; cases h), fun h => (by rw [he] at h; cases h)⟩

theorem CommandFault.of_needsAccount {cmd : Command} {args : List Bytes} {e : Fault}
    (hready : (w.conn c).is_ready = true) (he : NeedsAccount c w e) :
    CommandFault env c cmd args w e :=
  ⟨fun _ => Or.inl ⟨he.2, hready⟩, fun h => (by rw [he.1] at h; cases h)⟩

/-- a handler of a ready connection that may call methods through `m_account` -/
theorem ready_sat {cmd : Command} {args : List Bytes} {r : Except Fault World}
    (hready : (w.conn c).is_ready = true)
    (h : Sat (NeedsAccount c w) (fun w' => w'.reg = w.reg) r) :
    Sat (CommandFault env c cmd args w) (Effect c P w) r :=
  h.mono (fun _ he => .of_needsAccount hready he) fun _ h' => .ready hready h'

theorem dispatchJOIN_sat {parts : List Bytes} (hready : (w.conn c).is_ready = true) :
    Sat (CommandFault env c .JOIN parts w) (Effect c P w) (dispatchJOIN env c parts w) := by
  unfold dispatchJOIN
  by_cases h : parts = []
  · rw [h]
    exact ⟨fun h => (by cases h), fun _ => ⟨rfl, Or.inl ⟨rfl, hready⟩⟩⟩
  · refine (sat_listAt (length_pos_of_ne h)).bind fun p _ => ?_
    exact Sat.ite (fun _ => Effect.stay rfl rfl) fun _ => ready_sat hready handleJOIN_sat

/-- **One command.**  Every handler takes steps of the registration machine only, and stops at a
null account or a missing parameter only where `CommandFault` says so. -/
theorem handle_sat {tags : QMap QString QVariant} {cmd : Command} {args : List Bytes}
    (hgate : cmd.early = true ∨ (w.conn c).is_ready = true) :
    Sat (CommandFault env c cmd args w) (Effect c (lineLabel env c cmd args w) w)
      (handle env c tags cmd args w) := by
  have hready (h : cmd.early = false) : (w.conn c).is_ready = true := by
    rcases hgate with h' | h'
    · rw [h] at h'; cases h'
    · exact h'
  cases cmd with
  | PASS => exact handlePASS_sat.mono (fun _ he => he) fun _ h => Effect.stay h.1 h.2
  | NICK =>
    exact handleNICK_sat.mono (fun e he => ⟨fun h => Or.inr ⟨rfl, he.2 h⟩, fun h => absurd h he.1⟩)
      fun _ h => h
  | USER => exact handleUSER_sat.mono (fun _ he => .of_nullChannel he) fun _ h => h
  | PING => exact handlePING_sat.mono (fun _ he => he) fun _ h => Effect.stay h.1 h.2
  | PONG => exact Effect.stay rfl rfl
  | JOIN => exact dispatchJOIN_sat (hready rfl)
  | PART => exact ready_sat (hready rfl) handlePART_sat
  | PRIVMSG => exact ready_sat (hready rfl) handlePRIVMSG_sat
  | TAGMSG => exact ready_sat (hready rfl) handleTAGMSG_sat
  | QUIT => exact Effect.stay (reg_forceDisconnect c w) rfl
  | NAMES => exact Effect.stay rfl rfl
  | CHATHISTORY => exact ready_sat (hready rfl) handleCHATHISTORY_sat
  | RENAME => exact ready_sat (hready rfl) handleRENAME_sat
  | METADATA => exact ready_sat (hready rfl) handleMETADATA_sat
  | TOPIC => exact Effect.stay rfl rfl
  | LUSERS => exact Effect.stay reg_handleLUSERS content_handleLUSERS
  | MOTD => exact Effect.stay reg_handleMOTD content_handleMOTD
  | WHO => exact ready_sat (hready rfl) handleWHO_sat
  | AUTHENTICATE => exact handleAUTHENTICATE_sat
  | CAP =>
    refine handleCAP_sat.mono (fun e he => ?_) fun _ h => h
    rcases he with he | ⟨he, hargs, htask⟩
    · exact .of_nullChannel he
    · exact ⟨fun h => (by rw [he] at h; cases h), fun _ => ⟨hargs, Or.inr ⟨rfl, htask⟩⟩⟩
  | MODE => exact ready_sat (hready rfl) handleMODE_sat

/-! ## a line -/

theorem content_rawHook (line : Bytes) : (rawHook c line w).2.content = w.content := by
  unfold rawHook
  split
  · have h := w.content_event .RAW_MSG ({ raw := line, ip := (w.conn c).ip } : QEventRawMessage)
    split <;> next he => rw [he] at h; exact h
  · rfl

theorem content_verifyTags (line : Bytes) : (verifyTags c line w).content = w.content := by
  unfold verifyTags
  split <;> rfl

theorem conn_rawHook (line : Bytes) : (rawHook c line w).2.conn = w.conn := by
  unfold rawHook
  split
  · have h : (w.event .RAW_MSG
        ({ raw := line, ip := (w.conn c).ip } : QEventRawMessage)).2.conn = w.conn := rfl
    split <;> next he => rw [he] at h; exact h
  · rfl

theorem conn_verifyTags (line : Bytes) : (verifyTags c line w).conn = w.conn := by
  unfold verifyTags
  split <;> rfl

/-- the gate that a command went through -/
theorem commandLine_gate {line : Bytes} {cmd : Command} {args : List Bytes}
    (h : commandLine c line w = some (cmd, args)) :
    cmd.early = true ∨ (w.conn c).is_ready = true := by
  unfold commandLine at h
  split at h
  · cases h
  · obtain ⟨k, -, hk⟩ := Option.bind_eq_some_iff.mp h
    split at hk
    · next hg => cases hk; exact Bool.or_eq_true_iff.mp hg
    · cases hk

/-- the world in which the handler of a line runs -/
def handlerWorld (c : ConnId) (line : Bytes) (w : World) : World :=
  match rawHook c line w with
  | (none, w) => w
  | (some line, w) => verifyTags c line w

/-- the tags of a line -/
def lineTags (c : ConnId) (line : Bytes) (w : World) : QMap QString QVariant :=
  match rawHook c line w with
  | (none, _) => ∅
  | (some line, w) => (takeTags c line w).1

/-- a line runs the handler of its command, or nothing -/
theorem parseIncoming_eq (env : Env) (c : ConnId) (line : Bytes) (w : World) :
    parseIncoming env c line w =
      match lineCommand c line w with
      | none => .ok (handlerWorld c line w)
      | some (cmd, args) => handle env c (lineTags c line w) cmd args (handlerWorld c line w) := by
  unfold parseIncoming lineCommand handlerWorld lineTags
  cases hraw : rawHook c line w with
  | mk r w1 =>
    cases r with
    | none => rfl
    | some line' =>
      dsimp only
      have hcmd : commandLine c (takeTags c line' w1).2 (verifyTags c line' w1) =
          commandLine c (takeTags c line' w1).2 w1 := by
        unfold commandLine
        rw [conn_verifyTags]
      unfold runLine
      dsimp only
      rewrite [hcmd]
      cases commandLine c (takeTags c line' w1).2 w1 with
      | none => rfl
      | some p => rfl

theorem reg_handlerWorld (line : Bytes) : (handlerWorld c line w).reg = w.reg := by
  unfold handlerWorld
  have h := reg_rawHook c line w
  split <;> next he => rw [he] at h; first | exact h | exact (reg_verifyTags c _ _).trans h

theorem content_handlerWorld (line : Bytes) : (handlerWorld c line w).content = w.content := by
  unfold handlerWorld
  have h := content_rawHook (c := c) (w := w) line
  split <;> next he => rw [he] at h; first | exact h | exact (content_verifyTags _).trans h

theorem conn_handlerWorld (line : Bytes) : (handlerWorld c line w).conn = w.conn := by
  unfold handlerWorld
  have h := conn_rawHook (c := c) (w := w) line
  split <;> next he => rw [he] at h; first | exact h | exact (conn_verifyTags _).trans h

theorem lineCommand_gate {line : Bytes} {cmd : Command} {args : List Bytes}
    (h : lineCommand c line w = some (cmd, args)) :
    cmd.early = true ∨ (w.conn c).is_ready = true := by
  have hconn := conn_rawHook (c := c) (w := w) line
  unfold lineCommand at h
  split at h
  · cases h
  · next he =>
    rw [he] at hconn
    rw [← hconn]
    exact commandLine_gate h

/-- the labels of a line -/
def LineLabel (env : Env) (c : ConnId) (line : Bytes) (w : World) (l : Reg.Label) : Prop :=
  ∃ cmd args, lineCommand c line w = some (cmd, args) ∧
    lineLabel env c cmd args (handlerWorld c line w) l

/-- only AUTHENTICATE logs in -/
theorem LineLabel.auth {l : Reg.Label} {line : Bytes}
    (h : LineLabel env c line w l) (hl : l.isLogin = true) :
    ∃ args, lineCommand c line w = some (.AUTHENTICATE, args) := by
  obtain ⟨cmd, args, hcmd, h⟩ := h
  cases cmd with
  | AUTHENTICATE => exact ⟨args, hcmd⟩
  | NICK =>
    cases l with
    | login => obtain ⟨_, _, h⟩ := h; cases h
    | relogin => obtain ⟨_, _, h⟩ := h; cases h
    | merge => obtain ⟨_, _, h⟩ := h; cases h
    | _ => cases hl
  | USER =>
    cases l with
    | login => cases h.2
    | relogin => cases h.2
    | merge => cases h.2
    | _ => cases hl
  | CAP =>
    cases l with
    | login => cases h.2
    | relogin => cases h.2
    | merge => cases h.2
    | _ => cases hl
  | _ => cases h

/-- the faults a line can stop at -/
def LineFault (env : Env) (c : ConnId) (line : Bytes) (w : World) (e : Fault) : Prop :=
  ∃ cmd args, lineCommand c line w = some (cmd, args) ∧ CommandFault env c cmd args w e

theorem NickOnNull.congr {w' : World} (h : w'.reg = w.reg) {args : List Bytes} :
    NickOnNull env c args w' ↔ NickOnNull env c args w := by
  unfold NickOnNull
  have h1 : (w'.conn c).setup_tasks = (w.conn c).setup_tasks :=
    congrArg ConnReg.setup_tasks (reg_conn_eq h c)
  rw [h1, m_account_eq h c, World.nick_eq h c]

/-- **One line.**  The line takes steps of the registration machine that come from its command. -/
theorem parseIncoming_sat {line : Bytes} :
    Sat (LineFault env c line w) (Effect c (LineLabel env c line w) w)
      (parseIncoming env c line w) := by
  rw [parseIncoming_eq]
  have hreg := reg_handlerWorld (c := c) (w := w) line
  have hcontent := content_handlerWorld (c := c) (w := w) line
  have hconn := conn_handlerWorld (c := c) (w := w) line
  cases hcmd : lineCommand c line w with
  | none => exact Effect.stay hreg hcontent
  | some p =>
    obtain ⟨cmd, args⟩ := p
    have hgate := lineCommand_gate hcmd
    rw [← hconn] at hgate
    refine (handle_sat hgate).mono (fun e he => ⟨cmd, args, hcmd, ⟨fun h => ?_, fun h => ?_⟩⟩)
      fun w' h => ?_
    · have := he.null h
      rw [hconn, NickOnNull.congr hreg] at this
      exact this
    · have := he.range h
      unfold NoFirstArg at this ⊢
      rw [hconn] at this
      exact this
    · obtain ⟨ls, hchain, hls, hrest⟩ := h
      exact ⟨ls, hreg ▸ hchain, fun l hl => ⟨cmd, args, hcmd, hls l hl⟩,
        fun hr => (hrest hr).trans hcontent⟩

end

end client_connection

end Chatripper
