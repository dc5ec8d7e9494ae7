import Mathlib
import Chatripper.Irc.Worker
import Chatripper.Irc.Delivery

/-!
# A connection sets itself up

What PASS, NICK, USER and CAP END do on a connection that has not logged in, as equations.  While a
setup task is left the connection waits; with the last one it gets its account, is greeted and ready.

* `Prints`   only the data for the sockets and the ghost record have changed;
* `try_finalize_waiting`, `try_finalize_new`   the two outcomes of an attempt to finish;
* `handleNICK_setup`, `handleUSER_setup`, `handleCAP_end`   the commands that attempt it;
* `run_registration`   a client registers, and the run goes on.
-/

namespace Chatripper
open ByteStr Utf8 Outcome

/-! ## printing -/

/-- only `out` and the ghost record differ -/
def Prints (w w' : World) : Prop :=
  ∃ (out : List (ConnId × Bytes)) (trace : List Trace), w' = { w with out := out, trace := trace }

namespace Prints

theorem refl (w : World) : Prints w w := ⟨w.out, w.trace, rfl⟩

theorem trans {w w1 w2 : World} (h : Prints w w1) (h' : Prints w1 w2) : Prints w w2 := by
  obtain ⟨out, trace, rfl⟩ := h
  obtain ⟨out', trace', rfl⟩ := h'
  exact ⟨out', trace', rfl⟩

theorem emit (w : World) (c : ConnId) (data : Bytes) : Prints w (w.emit c data) := ⟨_, _, rfl⟩

theorem log (w : World) (t : Trace) : Prints w (w.log t) := ⟨_, _, rfl⟩

theorem foldl {α : Type} {f : World → α → World} (h : ∀ w x, Prints w (f w x)) (l : List α)
    (w : World) : Prints w (l.foldl f w) := by
  induction l generalizing w with
  | nil => exact refl w
  | cons x l ih => exact (h w x).trans (ih (f w x))

theorem setReady {w w' : World} (h : Prints w w') (c : ConnId) :
    Prints (client_connection.setReady c w) (client_connection.setReady c w') := by
  obtain ⟨out, trace, rfl⟩ := h
  exact ⟨out, trace, rfl⟩

section
variable {w w' : World} (h : Prints w w')
include h

theorem eq : w' = { w with out := w'.out, trace := w'.trace } := by
  obtain ⟨out, trace, rfl⟩ := h
  rfl

theorem conn : w'.conn = w.conn := by
  obtain ⟨out, trace, rfl⟩ := h
  rfl

theorem acc : w'.acc = w.acc := by
  obtain ⟨out, trace, rfl⟩ := h
  rfl

end

end Prints

namespace client_connection
open World

section
variable {env : Env} {c : ConnId} {w : World}

theorem prints_reply_num (code : Nat) (text : Bytes) : Prints w (reply_num env c code text w) :=
  .emit w c _

theorem prints_isupportLines (account_nick : Bytes) :
    Prints w (isupportLines env c account_nick w) := by
  have hstep (base : Bytes) (s : Bytes × World) (it : Bytes × Bytes) :
      Prints s.2 (isupportStep env c base s it).2 := by
    unfold isupportStep
    dsimp only
    split
    · exact .emit _ _ _
    · exact .refl _
  have hfold (base : Bytes) (l : List (Bytes × Bytes)) (s : Bytes × World) :
      Prints s.2 (l.foldl (isupportStep env c base) s).2 := by
    induction l generalizing s with
    | nil => exact .refl _
    | cons it l ih => exact (hstep base s it).trans (ih _)
  unfold isupportLines
  dsimp only
  split
  · exact hfold _ _ (_, w)
  · exact (hfold _ _ (_, w)).trans (.emit _ _ _)

theorem prints_handleLUSERS : Prints w (handleLUSERS env c w) := (Prints.emit w c _).trans (.emit _ c _)

theorem prints_handleMOTD : Prints w (handleMOTD env c w) := by
  unfold handleMOTD
  dsimp only
  refine ((Prints.emit w c _).trans (Prints.foldl (fun w rawLine => ?_) _ _)).trans (.emit _ c _)
  exact Prints.foldl (fun w chunk => .emit w c _) _ _

/-- the greeting is printed -/
theorem prints_welcomeLines (account_nick : Bytes) :
    Prints w (welcomeLines env c account_nick w) := by
  unfold welcomeLines
  dsimp only
  refine Prints.trans ?_ prints_handleMOTD
  refine Prints.trans ?_ prints_handleLUSERS
  refine Prints.trans ?_ (prints_isupportLines account_nick)
  apply Prints.trans _ (prints_reply_num 4 _)
  apply Prints.trans _ (prints_reply_num 3 _)
  apply Prints.trans _ (prints_reply_num 2 _)
  exact (prints_reply_num 1 _).trans (.log _ _)

/-! ## finishing the setup -/

theorem try_finalize_waiting (h : (w.conn c).setup_tasks.empty = false) :
    try_finalize_setup env c w = .ok w := by
  unfold try_finalize_setup
  dsimp only
  rw [h, Bool.not_false, Bool.or_true, if_pos rfl]

/-- without a server password only a nick in use is refused -/
theorem setupRefused_free (hserver : env.server.m_password = [])
    (hfree : Ctx.irc_nick_get w (toLower (w.conn c).m_nick) = none) :
    setupRefused env c w = none := by
  unfold setupRefused
  dsimp only
  rw [if_neg fun h => h.1 hserver, if_neg fun h => h.2 hfree]

/-- a connection that becomes ready on a new account -/
def finished (env : Env) (c : ConnId) (w : World) : World :=
  let (a, w) := enrol c (w.log (.finalize c))
  setReady c (welcomeLines env c (w.accNick a) w)

theorem prints_syncNick (account_nick : Bytes) :
    Prints (w.updConn c fun k => { k with m_nick := account_nick }) (syncNick c account_nick w) := by
  unfold syncNick
  dsimp only
  split
  · next h =>
    have hself : (w.updConn c fun k => { k with m_nick := account_nick }) = w := by
      show ({ w with conn := _ } : World) = w
      have hconn : (fun x => if x = c then { w.conn c with m_nick := account_nick } else w.conn x) =
          w.conn := by
        funext x
        by_cases hx : x = c
        · rw [if_pos hx, h, hx]
        · rw [if_neg hx]
      rw [hconn]
    rw [hself]
    exact .refl w
  · exact .emit _ _ _

/-- a new account is in no channel -/
theorem enrol_new (hacc : (w.conn c).m_account = none) :
    ((enrol c w).2.conn c).logged_in = (w.conn c).logged_in ∧
      ((enrol c w).2.acc (enrol c w).1).channels = ∅ := by
  have hsync := prints_syncNick (c := c) (w := (obtainAccount c w).2)
    ((obtainAccount c w).2.accNick (obtainAccount c w).1)
  have hnew : (obtainAccount c w).2.conn c = { w.conn c with m_account := some w.nextAcc } ∧
      (obtainAccount c w).1 = w.nextAcc ∧
      ((obtainAccount c w).2.acc w.nextAcc).channels = ∅ := by
    unfold obtainAccount Account.create
    rw [hacc]
    refine ⟨if_pos rfl, rfl, ?_⟩
    exact congrArg Account.channels (if_pos rfl)
  unfold enrol
  dsimp only
  refine ⟨?_, ?_⟩
  · show ((syncNick c _ (obtainAccount c w).2).conn c).logged_in = _
    rw [hsync.conn, updConn_conn, if_pos rfl, hnew.1]
  · show (if _ then _ else _ : Account).channels = ∅
    rw [if_pos rfl]
    show ((syncNick c _ (obtainAccount c w).2).acc _).channels = ∅
    rw [hsync.acc, updConn_acc, hnew.2.1]
    exact hnew.2.2

theorem prints_finished :
    Prints (setReady c (enrol c (w.log (.finalize c))).2) (finished env c w) :=
  (prints_welcomeLines _).setReady c

/-- **The end of a setup.**  Nobody is logged in and the nick is free: the connection gets a new
account and is ready. -/
theorem try_finalize_new (hfin : w.reg.Finishing c) (hacc : (w.conn c).m_account = none)
    (hlog : (w.conn c).logged_in = false) (href : setupRefused env c w = none) :
    try_finalize_setup env c w = .ok (finished env c w) := by
  have hready : (w.conn c).is_ready = false := hfin.1
  have htasks : (w.conn c).setup_tasks.empty = true := hfin.2
  obtain ⟨hlogged, hchannels⟩ := enrol_new (c := c) (w := w.log (.finalize c)) hacc
  have hprints : Prints (enrol c (w.log (.finalize c))).2 (welcomeLines env c
      ((enrol c (w.log (.finalize c))).2.accNick (enrol c (w.log (.finalize c))).1)
      (enrol c (w.log (.finalize c))).2) := prints_welcomeLines _
  unfold try_finalize_setup finished
  dsimp only
  rw [hready, htasks, Bool.not_true, Bool.or_false, if_neg Bool.false_ne_true]
  rw [setupRefused_log, href]
  show (greet env c _ _ >>= fun w => Except.ok (setReady c w)) = _
  unfold greet markRegistered
  rw [hprints.conn, hlogged, if_neg (by rw [show (w.log (.finalize c)).conn = w.conn from rfl, hlog]; decide)]
  show (rejoin env _ _ >>= fun w => Except.ok (setReady c w)) = _
  unfold rejoin
  rw [hprints.acc, hchannels]
  rfl

/-! ## the commands -/

theorem handleNICK_setup {n : Bytes} (hvalid : isValidNick env n = true)
    (hacc : (w.conn c).m_account = none) (htask : (w.conn c).setup_tasks.has .NICK = true)
    (hnick : (w.conn c).m_nick = []) (rest : List Bytes) :
    handleNICK env c (n :: rest) w = try_finalize_setup env c (giveNick c n w) := by
  unfold handleNICK
  rw [if_neg (List.cons_ne_nil _ _)]
  show (if !isValidNick env n then _ else _) = _
  rw [hvalid, Bool.not_true, if_neg Bool.false_ne_true, if_neg fun h => h.1 hacc, if_pos htask]
  unfold setNick
  rw [if_neg (not_not.mpr hnick)]
  rfl

/-- the user of the setup is given -/
def giveUser (c : ConnId) (user_name realname : Bytes) (w : World) : World :=
  clearTask c .USER ((w.updConn c fun k => { k with user := user_name, realname := realname }).updConn
    c fun k => { k with user_already_exists :=
      k.user_already_exists || Ctx.account_username_exists w user_name })

theorem handleUSER_setup {u x y realname : Bytes} (htask : (w.conn c).setup_tasks.has .USER = true)
    (hlen : u.length ≤ 16) (rest : List Bytes) :
    handleUSER env c (u :: x :: y :: realname :: rest) w =
      try_finalize_setup env c (giveUser c u realname w) := by
  have hfour : ¬ (u :: x :: y :: realname :: rest).length < 4 := by simp
  have hlong : ¬ u.length > 16 := by omega
  unfold handleUSER
  rw [htask, Bool.not_true, if_neg Bool.false_ne_true, if_neg hfour]
  show (if u.length > 16 then _ else _) = _
  rw [if_neg hlong]
  rfl

theorem handleCAP_end (htask : (w.conn c).setup_tasks.has .CAP_EXCHANGE = true) (rest : List Bytes) :
    handleCAP env c (ascii "END" :: rest) w =
      try_finalize_setup env c (clearTask c .CAP_EXCHANGE w) := by
  unfold handleCAP
  rw [if_pos htask]
  rfl

/-! ## lines without tags -/

theorem rawHook_of_noHandlers (hpy : w.NoHandlers) (line : Bytes) :
    rawHook c line w = (some line, w) := by
  unfold rawHook
  rw [hpy]
  rfl

theorem takeTags_plain {line : Bytes} (hhead : line.head? ≠ some 64) :
    takeTags c line w = (∅, trimmed line) := by
  have hreads : readsTags c line w = false := by
    unfold readsTags
    rw [beq_eq_false_iff_ne.mpr hhead, Bool.and_false, Bool.false_and]
  unfold takeTags
  rw [hreads, if_neg Bool.false_ne_true]

theorem lineCommand_plain {line : Bytes} (hpy : w.NoHandlers) (hhead : line.head? ≠ some 64) :
    lineCommand c line w = commandLine c (trimmed line) w := by
  unfold lineCommand
  rw [rawHook_of_noHandlers hpy]
  dsimp only
  rw [takeTags_plain hhead]

theorem lineTags_plain {line : Bytes} (hpy : w.NoHandlers) (hhead : line.head? ≠ some 64) :
    lineTags c line w = ∅ := by
  unfold lineTags
  rw [rawHook_of_noHandlers hpy]
  dsimp only
  rw [takeTags_plain hhead]

/-- the command and parameters that a line without tags spells -/
def plainCommand (line : Bytes) : Option (Command × List Bytes) :=
  match split_irc (trimmed line) with
  | [] => none
  | name :: args => (commandOf name).map fun cmd => (cmd, args)

/-- it runs when it needs no setup or the connection is ready -/
theorem commandLine_plain {line : Bytes} {cmd : Command} {args : List Bytes}
    (hline : plainCommand line = some (cmd, args))
    (hgate : cmd.early = true ∨ (w.conn c).is_ready = true) :
    commandLine c (trimmed line) w = some (cmd, args) := by
  unfold plainCommand at hline
  unfold commandLine
  cases hsplit : split_irc (trimmed line) with
  | nil =>
    rw [hsplit] at hline
    cases hline
  | cons name parts =>
    rw [hsplit] at hline
    obtain ⟨k, hk, he⟩ := Option.map_eq_some_iff.mp hline
    cases he
    dsimp only
    rw [hk]
    exact if_pos (Bool.or_eq_true_iff.mpr hgate)

theorem parseIncoming_plain {line : Bytes} {cmd : Command} {args : List Bytes}
    (hpy : w.NoHandlers) (hhead : line.head? ≠ some 64)
    (hline : plainCommand line = some (cmd, args))
    (hgate : cmd.early = true ∨ (w.conn c).is_ready = true) :
    parseIncoming env c line w = handle env c ∅ cmd args w := by
  rw [parseIncoming_eq, lineCommand_plain hpy hhead, commandLine_plain hline hgate,
    lineTags_plain hpy hhead, handlerWorld_of_noHandlers hpy]

end

end client_connection

/-! ## a registration -/

namespace Worker
open World client_connection

section
variable (env : Env) (c : ConnId) (isWebSocket : Bool) (nick : String) (w : World)

/-- the connection has given its nick -/
def nickGiven : World :=
  giveNick c (ascii nick) (handleConnection isWebSocket (ascii "127.0.0.1") w)

/-- the connection has given its nick and its user -/
def userGiven : World := giveUser c (ascii "u") (ascii "U") (nickGiven c isWebSocket nick w)

/-- CAP END has made the connection ready; the greeting is only in what was sent and recorded -/
def ended : World :=
  let w := clearTask c .CAP_EXCHANGE w
  { setReady c (enrol c (w.log (.finalize c))).2 with
    out := (finished env c w).out, trace := (finished env c w).trace }

/-- the connection has given its nick, its user and CAP END -/
def letIn : World := ended env c (userGiven c isWebSocket nick w)

/-- only CAP END is missing -/
structure Awaits : Prop where
  quiet : w.NoHandlers
  live : (w.conn c).live = true
  exchanging : (w.conn c).setup_tasks.has .CAP_EXCHANGE = true
  last : ((w.conn c).setup_tasks.clear .CAP_EXCHANGE).empty = true
  unready : (w.conn c).is_ready = false
  unbound : (w.conn c).m_account = none
  anonymous : (w.conn c).logged_in = false
  server : env.server.m_password = []
  free : Ctx.irc_nick_get w (toLower (w.conn c).m_nick) = none

/-- nobody handles events, and the text after NICK is a nick -/
structure Spells : Prop where
  next : w.nextConn = c
  quiet : w.NoHandlers
  line : plainCommand (ascii ("NICK " ++ nick)) = some (.NICK, [ascii nick])
  valid : isValidNick env (ascii nick) = true

/-- a client that registers as connection `c` is let in under this nick -/
structure LetsIn : Prop extends Spells env c nick w where
  server : env.server.m_password = []
  free : Ctx.irc_nick_get w (toLower (ascii nick)) = none

end

section
variable {env : Env} {w : World} {c : ConnId} {isWebSocket : Bool} {nick : String}

/-- a command that needs no setup -/
theorem step_early {line : Bytes} {cmd : Command} {args : List Bytes}
    (hpy : w.NoHandlers) (hlive : (w.conn c).live = true) (hhead : line.head? ≠ some 64)
    (hline : plainCommand line = some (cmd, args)) (hearly : cmd.early = true) :
    step env w (.line c line) = handle env c ∅ cmd args w := by
  show (if (w.conn c).live then _ else _) = _
  rw [if_pos hlive]
  exact parseIncoming_plain hpy hhead hline (Or.inl hearly)

/-- the tasks of a new connection, and what NICK, USER and CAP END leave of them -/
theorem setupTasks : ({} : Conn).setup_tasks.has .NICK = true ∧
    (({} : Conn).setup_tasks.clear .NICK).empty = false ∧
    (({} : Conn).setup_tasks.clear .NICK).has .USER = true ∧
    ((({} : Conn).setup_tasks.clear .NICK).clear .USER).empty = false ∧
    ((({} : Conn).setup_tasks.clear .NICK).clear .USER).has .CAP_EXCHANGE = true ∧
    (((({} : Conn).setup_tasks.clear .NICK).clear .USER).clear .CAP_EXCHANGE).empty = true := by
  decide

theorem nickGiven_conn (h : w.nextConn = c) : (nickGiven c isWebSocket nick w).conn c =
    { m_uid := w.nextUuid, isWebSocket := isWebSocket, ip := ascii "127.0.0.1", live := true
      m_nick := ascii nick, setup_tasks := ({} : Conn).setup_tasks.clear .NICK } := by
  subst h
  unfold nickGiven giveNick clearTask handleConnection
  simp only [updConn_conn, if_true]

theorem userGiven_conn (h : w.nextConn = c) : (userGiven c isWebSocket nick w).conn c =
    { m_uid := w.nextUuid, isWebSocket := isWebSocket, ip := ascii "127.0.0.1", live := true
      m_nick := ascii nick, user := ascii "u", realname := ascii "U"
      setup_tasks := (({} : Conn).setup_tasks.clear .NICK).clear .USER
      user_already_exists := Ctx.account_username_exists w (ascii "u") } := by
  subst h
  unfold userGiven nickGiven giveUser giveNick clearTask handleConnection
  simp only [updConn_conn, if_true]
  rfl

theorem plainCommand_user : plainCommand (ascii "USER u 0 * :U") =
    some (.USER, [ascii "u", ascii "0", ascii "*", ascii "U"]) := by decide

theorem plainCommand_cap : plainCommand (ascii "CAP END") = some (.CAP, [ascii "END"]) := by decide

theorem step_nick (h : Spells env c nick w) :
    step env (handleConnection isWebSocket (ascii "127.0.0.1") w)
      (.line c (ascii ("NICK " ++ nick))) = .ok (nickGiven c isWebSocket nick w) := by
  have hconn : (handleConnection isWebSocket (ascii "127.0.0.1") w).conn c =
      { m_uid := w.nextUuid, isWebSocket := isWebSocket, ip := ascii "127.0.0.1", live := true } :=
    if_pos h.next.symm
  have hhead : (ascii ("NICK " ++ nick)).head? ≠ some 64 := by
    unfold ascii
    rw [String.toList_append]
    exact fun he => absurd (Option.some.inj he) (by decide)
  have hpy : (handleConnection isWebSocket (ascii "127.0.0.1") w).NoHandlers := h.quiet
  rw [step_early hpy (by rw [hconn]) hhead h.line rfl]
  refine (handleNICK_setup h.valid (by rw [hconn]) ?_ (by rw [hconn]) []).trans
    (try_finalize_waiting ?_)
  · rw [hconn]
    exact setupTasks.1
  · show ((nickGiven c isWebSocket nick w).conn c).setup_tasks.empty = false
    rw [nickGiven_conn h.next]
    exact setupTasks.2.1

theorem step_user (h : Spells env c nick w) :
    step env (nickGiven c isWebSocket nick w) (.line c (ascii "USER u 0 * :U")) =
      .ok (userGiven c isWebSocket nick w) := by
  have hpy : (nickGiven c isWebSocket nick w).NoHandlers := h.quiet
  have hconn := @nickGiven_conn w c isWebSocket nick h.next
  rw [step_early hpy (by rw [hconn]) (by decide) plainCommand_user rfl]
  refine (handleUSER_setup ?_ (by decide) []).trans (try_finalize_waiting ?_)
  · rw [hconn]
    exact setupTasks.2.2.1
  · show ((userGiven c isWebSocket nick w).conn c).setup_tasks.empty = false
    rw [userGiven_conn h.next]
    exact setupTasks.2.2.2.1

/-- **CAP END.** -/
theorem step_end (h : Awaits env c w) :
    step env w (.line c (ascii "CAP END")) = .ok (ended env c w) := by
  have hlast : (clearTask c .CAP_EXCHANGE w).conn c = { w.conn c with
      setup_tasks := (w.conn c).setup_tasks.clear .CAP_EXCHANGE } := if_pos rfl
  unfold ended
  rw [← prints_finished.eq, step_early h.quiet h.live (by decide) plainCommand_cap rfl]
  refine (handleCAP_end h.exchanging []).trans (try_finalize_new ⟨?_, ?_⟩ ?_ ?_ ?_)
  · exact (congrArg Conn.is_ready hlast).trans h.unready
  · exact (congrArg (fun k => k.setup_tasks.empty) hlast).trans h.last
  · rw [hlast]
    exact h.unbound
  · rw [hlast]
    exact h.anonymous
  · refine setupRefused_free h.server ?_
    rw [hlast]
    exact h.free

theorem LetsIn.awaits (h : LetsIn env c nick w) : Awaits env c (userGiven c isWebSocket nick w) := by
  have hconn := @userGiven_conn w c isWebSocket nick h.next
  refine ⟨h.quiet, ?_, ?_, ?_, ?_, ?_, ?_, h.server, ?_⟩
  all_goals rw [hconn]
  · exact setupTasks.2.2.2.2.1
  · exact setupTasks.2.2.2.2.2
  · exact h.free

/-- a run up to CAP END, and on from it -/
theorem run_ended {w0 : World} {evs : List Event} (hrun : run (step env) w0 evs = .ok w)
    (h : Awaits env c w) (rest : List Event) :
    run (step env) w0 (evs ++ .line c (ascii "CAP END") :: rest) =
      run (step env) (ended env c w) rest := by
  rw [run_append, hrun, ok_bind, run_cons, step_end h, ok_bind]

/-- the checks of a run up to CAP END, and on from it -/
theorem check_ended {w0 : World} {evs : List Event} (hrun : run (step env) w0 evs = .ok w)
    (h : Awaits env c w) (C : World → Event → Bool) (rest : List Event) :
    checkSteps (step env) C w0 (evs ++ .line c (ascii "CAP END") :: rest) =
      (checkSteps (step env) C w0 evs && (C w (.line c (ascii "CAP END")) &&
        checkSteps (step env) C (ended env c w) rest)) := by
  rw [checkSteps_append hrun, checkSteps, step_end h]

theorem run_userGiven (h : LetsIn env c nick w) : run (step env) w
    [.connect isWebSocket (ascii "127.0.0.1"), .line c (ascii ("NICK " ++ nick)),
      .line c (ascii "USER u 0 * :U")] = .ok (userGiven c isWebSocket nick w) := by
  rw [run_cons]
  show (step env (handleConnection isWebSocket (ascii "127.0.0.1") w) _ >>= fun w => _) = _
  rw [step_nick h.toSpells]
  show (step env (nickGiven c isWebSocket nick w) _ >>= fun w => _) = _
  rw [step_user h.toSpells]
  rfl

/-- **A registration.**  The run goes on with a connection that is ready. -/
theorem run_registration (h : LetsIn env c nick w) (isWebSocket : Bool) (evs : List Event) :
    run (step env) w (registration c isWebSocket nick ++ evs) =
      run (step env) (letIn env c isWebSocket nick w) evs :=
  run_ended (run_userGiven h) h.awaits evs

/-- the same when nothing comes after it -/
theorem run_registered (h : LetsIn env c nick w) (isWebSocket : Bool) :
    run (step env) w (registration c isWebSocket nick) =
      .ok (letIn env c isWebSocket nick w) := by
  rw [← List.append_nil (registration c isWebSocket nick), run_registration h, run_nil]

/-- the checks of a registration, and of what comes after it -/
theorem check_registration (h : LetsIn env c nick w) (isWebSocket : Bool)
    (C : World → Event → Bool) (evs : List Event) :
    checkSteps (step env) C w (registration c isWebSocket nick ++ evs) =
      (checkSteps (step env) C w ((registration c isWebSocket nick).take 3) &&
        (C (userGiven c isWebSocket nick w) (.line c (ascii "CAP END")) &&
          checkSteps (step env) C (letIn env c isWebSocket nick w) evs)) :=
  check_ended (run_userGiven h) h.awaits C evs

/-- no module is loaded on the way, and nobody else connects -/
theorem enrol_kept : (enrol c w).2.snakepit = w.snakepit ∧ (enrol c w).2.nextConn = w.nextConn := by
  have hobtain : (obtainAccount c w).2.snakepit = w.snakepit ∧
      (obtainAccount c w).2.nextConn = w.nextConn := by
    unfold obtainAccount
    cases (w.conn c).m_account <;> exact ⟨rfl, rfl⟩
  have hsync (n : Bytes) (u : World) : (syncNick c n u).snakepit = u.snakepit ∧
      (syncNick c n u).nextConn = u.nextConn := by
    simp only [syncNick]
    split <;> exact ⟨rfl, rfl⟩
  exact ⟨(hsync _ _).1.trans hobtain.1, (hsync _ _).2.trans hobtain.2⟩

theorem letIn_quiet (hpy : w.NoHandlers) : (letIn env c isWebSocket nick w).NoHandlers := by
  intro e
  have hsnake : (letIn env c isWebSocket nick w).snakepit = w.snakepit := enrol_kept.1
  rw [hsnake]
  exact hpy e

theorem letIn_nextConn : (letIn env c isWebSocket nick w).nextConn = w.nextConn + 1 := enrol_kept.2

theorem empty_quiet : World.empty.NoHandlers := fun e => by cases e <;> rfl

/-- the first client of a server without accounts -/
theorem letsIn_empty (hline : plainCommand (ascii ("NICK " ++ nick)) = some (.NICK, [ascii nick]))
    (hvalid : isValidNick Env.ascii (ascii nick) = true) : LetsIn Env.ascii 0 nick World.empty :=
  ⟨⟨rfl, empty_quiet, hline, hvalid⟩, rfl, Std.ExtTreeMap.getElem?_empty⟩

theorem ann_letsIn : LetsIn Env.ascii 0 "ann" World.empty := letsIn_empty (by decide) (by decide)

/-- the second client, under a nick that is still free -/
theorem letsIn_second {first : String}
    (hline : plainCommand (ascii ("NICK " ++ nick)) = some (.NICK, [ascii nick]))
    (hvalid : isValidNick Env.ascii (ascii nick) = true)
    (hfree : Ctx.irc_nick_get (letIn Env.ascii 0 isWebSocket first World.empty)
      (toLower (ascii nick)) = none) :
    LetsIn Env.ascii 1 nick (letIn Env.ascii 0 isWebSocket first World.empty) :=
  ⟨⟨letIn_nextConn, letIn_quiet empty_quiet, hline, hvalid⟩, rfl, hfree⟩

/-- two registrations, one after the other -/
theorem run_pair {d : ConnId} {second : String} (hfirst : LetsIn env c nick w)
    (hsecond : LetsIn env d second (letIn env c isWebSocket nick w)) (isWebSocket' : Bool)
    (evs : List Event) :
    run (step env) w (registration c isWebSocket nick ++ registration d isWebSocket' second ++ evs) =
      run (step env) (letIn env d isWebSocket' second (letIn env c isWebSocket nick w)) evs := by
  rw [List.append_assoc, run_registration hfirst, run_registration hsecond]

/-- the same when nothing comes after them -/
theorem run_both {d : ConnId} {second : String} (hfirst : LetsIn env c nick w)
    (hsecond : LetsIn env d second (letIn env c isWebSocket nick w)) (isWebSocket' : Bool) :
    run (step env) w (registration c isWebSocket nick ++ registration d isWebSocket' second) =
      .ok (letIn env d isWebSocket' second (letIn env c isWebSocket nick w)) := by
  rw [run_registration hfirst, run_registered hsecond]

/-- the checks of two registrations, and of what comes after them -/
theorem check_pair {d : ConnId} {second : String} (hfirst : LetsIn env c nick w)
    (hsecond : LetsIn env d second (letIn env c isWebSocket nick w)) (isWebSocket' : Bool)
    (C : World → Event → Bool) (evs : List Event) :
    checkSteps (step env) C w
        (registration c isWebSocket nick ++ registration d isWebSocket' second ++ evs) =
      (checkSteps (step env) C w ((registration c isWebSocket nick).take 3) &&
        (C (userGiven c isWebSocket nick w) (.line c (ascii "CAP END")) &&
          (checkSteps (step env) C (letIn env c isWebSocket nick w)
              ((registration d isWebSocket' second).take 3) &&
            (C (userGiven d isWebSocket' second (letIn env c isWebSocket nick w))
                (.line d (ascii "CAP END")) &&
              checkSteps (step env) C
                (letIn env d isWebSocket' second (letIn env c isWebSocket nick w)) evs)))) := by
  rw [List.append_assoc, check_registration hfirst, check_registration hsecond]

end

end Worker

end Chatripper
