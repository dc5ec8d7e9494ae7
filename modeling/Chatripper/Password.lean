import Mathlib
import Chatripper.Membership
import Chatripper.Irc.Registering

/-!
# The server password

`main` reads `-P`, the servers are constructed, and a connection that finishes its setup is checked
against `ThreadedServer::password`.  The option is stored as the message of the day; the field that
the check reads is set nowhere.

* `opens`                    whatever the option is, a client gets in without a PASS;
* `password_not_enforced`    so no password is enforced.
-/

namespace Chatripper
open ByteStr Utf8 Outcome

/-! ## the start of the program -/

/-- the values of the command line that reach the servers -/
structure Options where
  /-- `parser.value(passOpt)` -/
  password : QString := []

/-- the globals of `g` that `main` sets and the servers read -/
structure Globals where
  irc_motd : Bytes := []
  irc_motd_last_modified : Int := 0

/-- the assignments of `main` -/
def mainGlobals (o : Options) : Globals := { irc_motd := toUtf8 o.password }

/-- the file at `g::irc_motd_path`, with its time of modification -/
inductive MotdFile where
  | missing
  | unreadable (lastModified : Int)
  | readable (lastModified : Int) (motdData : Bytes)

namespace ThreadedServer

def reloadMotd (file : MotdFile) (g : Globals) : Globals :=
  match file with
  | .missing => { irc_motd := ascii "Welcome!", irc_motd_last_modified := 0 }
  | .unreadable lastModified =>
    if lastModified = g.irc_motd_last_modified then g
    else { irc_motd := ascii "Welcome!", irc_motd_last_modified := 0 }
  | .readable lastModified motdData =>
    if lastModified = g.irc_motd_last_modified then g
    else { irc_motd := motdData, irc_motd_last_modified := lastModified }

def motd (file : MotdFile) (g : Globals) : Bytes := (reloadMotd file g).irc_motd

def password (s : ThreadedServer) : Bytes := s.m_password

end ThreadedServer

/-- what the connections of a program run with; `Ctx` constructs the servers with a number of threads
and of connections -/
def program (base : Env) (file : MotdFile) (o : Options) : Env :=
  { base with server := {}, motd := ThreadedServer.motd file (mainGlobals o) }

/-- the option is what a client is shown when the file was last changed at time 0 -/
theorem motd_shows_password (motdData : Bytes) (o : Options) :
    ThreadedServer.motd (.readable 0 motdData) (mainGlobals o) = toUtf8 o.password := rfl

namespace Worker
open World client_connection

/-! ## enforcing -/

def passParameter : Option (Command × List Bytes) → Option Bytes
  | some (.PASS, pass :: _) => some pass
  | _ => none

/-- the first parameter of a PASS that the event has connection `c` process -/
def passOf (c : ConnId) (w : World) : Event → Option Bytes
  | .line d line => if d = c ∧ (w.conn d).live then passParameter (lineCommand d line w) else none
  | _ => none

/-- the first parameter of the last PASS that a run has connection `c` process -/
def lastPass (env : Env) (c : ConnId) : World → List Event → Option Bytes
  | _, [] => none
  | w, ev :: evs =>
    match step env w ev with
    | .ok w' => (lastPass env c w' evs).or (passOf c w ev)
    | .error _ => none

/-- whoever becomes ready has given the password, and no other one since -/
def PasswordEnforced (env : Env) (p : Bytes) : Prop :=
  ∀ w evs w1 ev w2 c, Started w → run (step env) w evs = .ok w1 → step env w1 ev = .ok w2 →
    (w1.conn c).is_ready = false → (w2.conn c).is_ready = true → lastPass env c w evs = some p

section
variable {env : Env} {w : World}

theorem plainCommand_nick : plainCommand (ascii "NICK _") = some (.NICK, [ascii "_"]) := by decide

/-- the underscore is a nick whatever the letters are -/
theorem isValidNick_underscore (env : Env) : isValidNick env (ascii "_") = true := by
  have htext : fromUtf8 (ascii "_") = ['_'] := by decide
  have hspecial : nickSpecial.contains '_' = true := by decide
  unfold isValidNick
  rw [htext]
  show (isNickFirst env '_' && _ && _) = true
  unfold isNickFirst
  rw [hspecial, Bool.or_true]
  rfl

/-- a client connects and gives a nick and a user -/
def underscoreSetup (c : ConnId) : List Event :=
  [.connect false (ascii "127.0.0.1"), .line c (ascii "NICK _"), .line c (ascii "USER u 0 * :U")]

/-- connection `c` after these lines -/
def underscoreWorld (w : World) : World :=
  giveUser w.nextConn (ascii "u") (ascii "U") (giveNick w.nextConn (ascii "_")
    (handleConnection false (ascii "127.0.0.1") w))

theorem underscoreWorld_eq : underscoreWorld w = userGiven w.nextConn false "_" w := rfl

theorem spells_underscore (hpy : w.NoHandlers) : Spells env w.nextConn "_" w :=
  ⟨rfl, hpy, plainCommand_nick, isValidNick_underscore env⟩

theorem run_underscore (hpy : w.NoHandlers) :
    run (step env) w (underscoreSetup w.nextConn) = .ok (underscoreWorld w) := by
  have hline : ascii ("NICK " ++ "_") = ascii "NICK _" := by decide
  have hnick := @step_nick env w w.nextConn false "_" (spells_underscore hpy)
  have huser := @step_user env w w.nextConn false "_" (spells_underscore hpy)
  rw [hline] at hnick
  unfold underscoreSetup
  rw [run_cons]
  show (step env (handleConnection false (ascii "127.0.0.1") w) _ >>= fun w => _) = _
  rw [hnick]
  show (step env (nickGiven w.nextConn false "_" w) _ >>= fun w => _) = _
  rw [huser]
  rfl

/-- **Getting in.**  On a server without a password a client whose nick is free becomes ready without
a PASS. -/
theorem opens (hserver : env.server.m_password = []) (hpy : w.NoHandlers)
    (hfree : Ctx.irc_nick_get w (ascii "_") = none) :
    ∃ w1 w2, run (step env) w (underscoreSetup w.nextConn) = .ok w1 ∧
      step env w1 (.line w.nextConn (ascii "CAP END")) = .ok w2 ∧
      (w1.conn w.nextConn).is_ready = false ∧ (w2.conn w.nextConn).is_ready = true := by
  have hlower : toLower (ascii "_") = ascii "_" := by decide
  have hin : LetsIn env w.nextConn "_" w :=
    ⟨spells_underscore hpy, hserver, by rw [hlower]; exact hfree⟩
  refine ⟨_, _, run_underscore hpy, step_end hin.awaits, ?_, congrArg Conn.is_ready (if_pos rfl)⟩
  rw [underscoreWorld_eq, userGiven_conn rfl]

/-- a line of another command is no PASS -/
theorem passOf_other {c d : ConnId} {line : Bytes} {cmd : Command} {args : List Bytes}
    (hpy : w.NoHandlers) (hhead : line.head? ≠ some 64)
    (hline : plainCommand line = some (cmd, args)) (hearly : cmd.early = true) (hcmd : cmd ≠ .PASS) :
    passOf c w (.line d line) = none := by
  show (if d = c ∧ (w.conn d).live then _ else none) = _
  rw [lineCommand_plain hpy hhead, commandLine_plain hline (Or.inl hearly)]
  split
  · cases cmd with
    | PASS => exact absurd rfl hcmd
    | _ => rfl
  · rfl

theorem lastPass_none {c : ConnId} {evs : List Event}
    (h : AllSteps (step env) (fun w ev => passOf c w ev = none) w evs) :
    lastPass env c w evs = none := by
  induction evs generalizing w with
  | nil => rfl
  | cons ev evs ih =>
    unfold lastPass
    cases hstep : step env w ev with
    | error e => rfl
    | ok w' =>
      dsimp only
      rw [ih (h.2 w' hstep), h.1]
      rfl

theorem lastPass_underscore (hpy : w.NoHandlers) (c : ConnId) :
    lastPass env c w (underscoreSetup w.nextConn) = none := by
  refine lastPass_none ⟨rfl, fun w1 h1 => ⟨?_, fun w2 h2 => ⟨?_, fun _ _ => trivial⟩⟩⟩
  · exact passOf_other (step_noHandlers hpy h1) (by decide) plainCommand_nick rfl (by decide)
  · exact passOf_other (step_noHandlers (step_noHandlers hpy h1) h2) (by decide) plainCommand_user
      rfl (by decide)

/-- **The password.**  No password given with -P is enforced. -/
theorem password_not_enforced (base : Env) (file : MotdFile) (o : Options) :
    ¬ PasswordEnforced (program base file o) (toUtf8 o.password) := by
  intro h
  have hpy : World.empty.NoHandlers := fun e => by cases e <;> rfl
  obtain ⟨w1, w2, hrun, hstep, hbefore, hafter⟩ :=
    opens (show (program base file o).server.m_password = [] from rfl) hpy Std.ExtTreeMap.getElem?_empty
  have hlast := h _ _ _ _ _ _ empty_started hrun hstep hbefore hafter
  rw [lastPass_underscore hpy] at hlast
  cases hlast

/-- ann gives another password -/
def annGuesses : List Event :=
  [.connect false (ascii "127.0.0.1"), .line 0 (ascii "PASS guess"), .line 0 (ascii "NICK ann"),
    .line 0 (ascii "USER u 0 * :U")]

/-- the program was given the password `secret` -/
def secretProgram : Env := program Env.ascii .missing { password := "secret".toList }

set_option maxRecDepth 8000 in
/-- ann gets in -/
theorem password_guessed : ¬ PasswordEnforced secretProgram (ascii "secret") := by
  intro h
  have hrun : ∃ w1 w2, run (step secretProgram) World.empty annGuesses = .ok w1 ∧
      step secretProgram w1 (.line 0 (ascii "CAP END")) = .ok w2 ∧ (w1.conn 0).is_ready = false ∧
      (w2.conn 0).is_ready = true ∧
      lastPass secretProgram 0 World.empty annGuesses = some (ascii "guess") :=
    ⟨_, _, rfl, rfl, rfl, rfl, rfl⟩
  obtain ⟨w1, w2, hrun, hstep, hbefore, hafter, hlast⟩ := hrun
  have hsecret := h _ _ _ _ _ _ empty_started hrun hstep hbefore hafter
  rw [hlast] at hsecret
  exact absurd hsecret (by decide)

end

end Worker

end Chatripper
