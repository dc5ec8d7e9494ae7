import Mathlib
import Chatripper.Framing
import Chatripper.Irc.Registering

/-!
# Lines after a forced disconnect

`forceDisconnect` asks the socket to close and returns.  Neither the drain loop nor the dispatcher
looks at that, so the lines that follow in the buffer run as ever.

* `World.beyond`               the server as the others see it: what a connection keeps for itself
  and what it is sent are left out;
* `answersOnly`                commands that leave all of that alone, and refused ones;
* `no_effect_after_close`      a buffer whose later lines only run such commands has no effect after
  the line that closes;
* `message_after_quit`         one where bob gets a message of somebody who has quit.
-/

namespace Chatripper
open ByteStr Utf8 Lines Outcome

/-- without what the connection alone holds: the state of its setup and its capabilities -/
def Conn.shared (k : Conn) : Conn :=
  { k with
    setup_tasks := ⟨0⟩, capabilities := ⟨0⟩, user := [], realname := [],
    user_already_exists := false, m_passGiven := [], closing := false }

/-- registries, accounts, channels, metadata, modes, and what goes to other connections -/
structure Beyond where
  conn : ConnId → Conn
  acc : AccId → Account
  chan : ChanId → Channel
  ctx : Ctx
  queue : List (ConnId × QueuedCall)
  out : List (ConnId × Bytes)
  sql : List SqlStmt

namespace World

/-- the server as the connections other than `c` see it -/
def beyond (c : ConnId) (w : World) : Beyond where
  conn x := if x = c then (w.conn c).shared else w.conn x
  acc := w.acc
  chan := w.chan
  ctx := w.ctx
  queue := w.queue
  out := w.out.filter fun p => p.1 != c
  sql := w.sql

section
variable {c : ConnId} (w : World)

theorem beyond_emit (data : Bytes) : (w.emit c data).beyond c = w.beyond c := by
  have hout : (w.out ++ [(c, data)]).filter (fun p => p.1 != c) =
      w.out.filter fun p => p.1 != c := by
    rw [List.filter_append]
    simp
  show Beyond.mk _ _ _ _ _ ((w.out ++ [(c, data)]).filter fun p => p.1 != c) _ = _
  rw [hout]
  rfl

theorem beyond_updConn {f : Conn → Conn} (h : (f (w.conn c)).shared = (w.conn c).shared) :
    (w.updConn c f).beyond c = w.beyond c := by
  have hconn : (fun x => if x = c then ((w.updConn c f).conn c).shared else
      (w.updConn c f).conn x) = fun x => if x = c then (w.conn c).shared else w.conn x := by
    funext x
    by_cases hx : x = c
    · rw [if_pos hx, if_pos hx, updConn_conn, if_pos rfl, h]
    · rw [if_neg hx, if_neg hx, updConn_conn, if_neg hx]
  show Beyond.mk (fun x => if x = c then ((w.updConn c f).conn c).shared else
      (w.updConn c f).conn x) _ _ _ _ _ _ = _
  rw [hconn]
  rfl

end

end World

namespace client_connection
open World

section
variable {env : Env} {c : ConnId} {w : World}

theorem beyond_send_raw (line : Bytes) (w : World) :
    (send_raw env c line w).beyond c = w.beyond c :=
  w.beyond_emit _

theorem beyond_reply_num (code : Nat) (text : Bytes) (w : World) :
    (reply_num env c code text w).beyond c = w.beyond c :=
  beyond_send_raw _ w

theorem beyond_forceDisconnect (w : World) : (forceDisconnect c w).beyond c = w.beyond c :=
  w.beyond_updConn rfl

/-! ## commands that only answer -/

/-- a NICK that is not taken up -/
def nickRefused (env : Env) (c : ConnId) (args : List Bytes) (w : World) : Prop :=
  ∀ new_nick, args[0]? = some new_nick →
    isValidNick env new_nick = false ∨
    ((w.conn c).m_account ≠ none ∧ Ctx.irc_nick_get w (toLower new_nick) ≠ none) ∨
    ((w.conn c).setup_tasks.has .NICK = false ∧
      ((w.conn c).setup_tasks.empty = false ∨ new_nick = w.nick c))

/-- a USER that is not taken up -/
def userRefused (c : ConnId) (args : List Bytes) (w : World) : Prop :=
  (w.conn c).setup_tasks.has .USER = false ∨ args.length < 4 ∨
    ∃ user_name, args[0]? = some user_name ∧ 16 < user_name.length

/-- there is no such channel, or nobody of that name -/
def unknownTarget (target : Bytes) (w : World) : Prop :=
  if startsWithHash target then Channel.get w (target.drop 1) = none
  else Ctx.irc_nick_get w target = none

/-- the command answers its sender, or changes what its connection alone holds, and no more -/
def answersOnly (env : Env) (c : ConnId) (cmd : Command) (args : List Bytes) (w : World) : Prop :=
  match cmd with
  | .PASS | .PING | .PONG | .QUIT | .NAMES | .CHATHISTORY | .TOPIC | .LUSERS | .MOTD | .WHO => True
  | .NICK => nickRefused env c args w
  | .USER => userRefused c args w
  | .CAP => (w.conn c).setup_tasks.has .CAP_EXCHANGE = false ∨
      ∃ sub_cmd, args[0]? = some sub_cmd ∧ sub_cmd ≠ ascii "END"
  | .AUTHENTICATE => provenAccount env c args w = none
  | .JOIN => args = [ascii ":"]
  | .PART => args = []
  | .PRIVMSG => args.length < 2 ∨ ∃ target, args[0]? = some target ∧ unknownTarget target w
  | .TAGMSG => args = [] ∨ ∃ target, args[0]? = some target ∧ unknownTarget target w
  | .RENAME => args.length ≤ 1
  | .METADATA => args.length < 2 ∨ (w.conn c).capabilities.has .METADATA = false
  | .MODE => args.length ≤ 1

/-- what the others see is as it was, and the server goes on -/
abbrev Unseen (c : ConnId) (w : World) (r : Except Fault World) : Prop :=
  Sat (fun _ => False) (fun w' => w'.beyond c = w.beyond c) r

theorem handlePASS_unseen {args : List Bytes} : Unseen c w (handlePASS env c args w) := by
  unfold handlePASS
  refine Sat.ite (fun _ => beyond_reply_num _ _ w) fun h => ?_
  exact (sat_listAt (length_pos_of_ne h)).bind fun pass _ => w.beyond_updConn rfl

theorem handlePING_unseen {args : List Bytes} : Unseen c w (handlePING env c args w) :=
  handlePING_keeps fun _ w1 => w1.beyond_emit _

theorem handleCHATHISTORY_unseen {args : List Bytes} :
    Unseen c w (handleCHATHISTORY env c args w) :=
  handleCHATHISTORY_keeps fun _ w1 => w1.beyond_emit _

theorem beyond_handleLUSERS : (handleLUSERS env c w).beyond c = w.beyond c :=
  (beyond_send_raw _ _).trans (beyond_send_raw _ w)

theorem beyond_handleMOTD : (handleMOTD env c w).beyond c = w.beyond c :=
  handleMOTD_keeps (v := fun w1 : World => w1.beyond c) fun _ w1 => w1.beyond_emit _

theorem handleWHO_unseen {args : List Bytes} : Unseen c w (handleWHO env c args w) :=
  handleWHO_keeps fun _ w1 => w1.beyond_emit _

theorem handleNICK_unseen {args : List Bytes} (h : nickRefused env c args w) :
    Unseen c w (handleNICK env c args w) := by
  unfold handleNICK
  refine Sat.ite (fun _ => beyond_reply_num _ _ w) fun hargs => ?_
  refine (sat_listAt (length_pos_of_ne hargs)).bind fun new_nick hn => ?_
  refine Sat.ite (fun _ => beyond_reply_num _ _ w) fun hvalid => ?_
  refine Sat.ite (fun _ => beyond_reply_num _ _ w) fun hfree => ?_
  obtain hbad | htaken | ⟨htask, hrest⟩ := h new_nick hn
  · rw [hbad] at hvalid
    exact absurd rfl hvalid
  · exact absurd htaken hfree
  · rw [if_neg (by rw [htask]; exact Bool.false_ne_true)]
    refine Sat.ite (fun _ => beyond_reply_num _ _ w) fun hdone => ?_
    obtain hopen | hown := hrest
    · rw [hopen] at hdone
      exact absurd rfl hdone
    · unfold changeOwnNick
      rw [if_pos hown]
      exact beyond_reply_num _ _ w

theorem handleUSER_unseen {args : List Bytes} (h : userRefused c args w) :
    Unseen c w (handleUSER env c args w) := by
  unfold handleUSER
  refine Sat.ite (fun _ => beyond_reply_num _ _ w) fun htask => ?_
  refine Sat.ite (fun _ => beyond_reply_num _ _ w) fun hlen => ?_
  refine (sat_listAt (by omega)).bind fun user_name hu => ?_
  refine (sat_listAt (by omega)).bind fun realname _ => ?_
  obtain hgiven | hshort | ⟨u, hu', hlong⟩ := h
  · rw [hgiven] at htask
    exact absurd rfl htask
  · exact absurd hshort hlen
  · rw [hu'] at hu
    cases hu
    dsimp only
    rw [if_pos hlong]
    refine (beyond_forceDisconnect _).trans ((beyond_reply_num _ _ _).trans ?_)
    exact w.beyond_updConn rfl

theorem beyond_capLS (version : Option Int) : (capLS env c version w).beyond c = w.beyond c := by
  unfold capLS
  dsimp only
  split
  · split
    · exact beyond_send_raw _ _
    · exact beyond_send_raw _ w
  · exact beyond_send_raw _ w

theorem beyond_capREQ (line : Bytes) : (capREQ env c line w).beyond c = w.beyond c := by
  unfold capREQ
  dsimp only
  split
  · exact (beyond_updConn _ rfl).trans (beyond_send_raw _ w)
  · exact beyond_send_raw _ w

theorem handleCAP_unseen {args : List Bytes}
    (h : (w.conn c).setup_tasks.has .CAP_EXCHANGE = false ∨
      ∃ sub_cmd, args[0]? = some sub_cmd ∧ sub_cmd ≠ ascii "END") :
    Unseen c w (handleCAP env c args w) := by
  unfold handleCAP
  refine Sat.ite (fun htask => ?_) fun _ => rfl
  obtain hdone | ⟨sub_cmd, hsub, hend⟩ := h
  · rw [hdone] at htask
    cases htask
  · obtain ⟨hpos, -⟩ := List.getElem?_eq_some_iff.mp hsub
    refine (sat_listAt hpos).bind fun sub hsub' => ?_
    rw [hsub] at hsub'
    cases hsub'
    refine Sat.ite (fun _ => ?_) fun _ => Sat.ite (fun _ => ?_) fun _ =>
      Sat.ite (fun _ => beyond_send_raw _ w) fun _ => ?_
    · refine Sat.ite (fun _ => ?_) fun _ => beyond_capLS none
      exact (sat_listAt (by omega)).bind fun v _ => beyond_capLS (toInt? v)
    · refine Sat.ite (fun _ => beyond_send_raw _ w) fun _ => ?_
      exact (sat_listAt (by omega)).bind fun line _ => beyond_capREQ line
    · rw [if_neg hend]
      exact rfl

theorem relay_unseen {target : Bytes} {msg : QEventMessage} (h : unknownTarget target w) :
    Unseen c w (relay env c target msg w) := by
  unfold relay
  unfold unknownTarget at h
  dsimp only
  by_cases hhash : startsWithHash target = true
  · rw [if_pos hhash] at h ⊢
    rw [h]
    exact beyond_send_raw _ w
  · rw [if_neg hhash] at h ⊢
    rw [h]
    exact beyond_send_raw _ w

theorem beyond_modeQuery {target : Bytes} : (modeQuery env c target w).beyond c = w.beyond c :=
  modeQuery_keeps (v := fun w1 : World => w1.beyond c) (fun data w1 => w1.beyond_emit data) target

theorem beyond_verifyPassword (a : AccId) (auth : QEventAuthUser) :
    (Account.verifyPassword env a auth w).2.beyond c = w.beyond c := by
  unfold Account.verifyPassword
  split
  · rfl
  · split
    · have h : (w.event .AUTH_SASL_PLAIN auth).2.beyond c = w.beyond c := rfl
      split <;> next he => rw [he] at h; exact h
    · rfl

theorem authenticate_unseen {username password : Bytes}
    (h : ∀ account, Account.get_by_name w username = some account →
      (Account.verifyPassword env account (authEvent c username password w) w).1.cancelled = true) :
    (authenticate env c username password w).beyond c = w.beyond c := by
  unfold authenticate
  cases hname : Account.get_by_name w username with
  | none => exact (beyond_forceDisconnect _).trans (beyond_reply_num _ _ w)
  | some account =>
    have hcancel := h account hname
    have hkeep : (Account.verifyPassword env account (authEvent c username password w) w).2.beyond c =
        w.beyond c := beyond_verifyPassword account _
    unfold authEvent at hcancel hkeep
    dsimp only
    rw [if_pos hcancel]
    exact (beyond_forceDisconnect _).trans ((beyond_reply_num _ _ _).trans hkeep)

theorem handleAUTHENTICATE_unseen {args : List Bytes} (h : provenAccount env c args w = none) :
    Unseen c w (handleAUTHENTICATE env c args w) := by
  unfold handleAUTHENTICATE
  refine Sat.ite (fun _ => (beyond_forceDisconnect _).trans (beyond_send_raw _ w)) fun hargs => ?_
  refine (sat_listAt (length_pos_of_ne hargs)).bind fun arg harg => ?_
  refine Sat.ite (fun _ => beyond_send_raw _ w) fun hplain => ?_
  refine Sat.ite (fun _ => beyond_reply_num _ _ w) fun hthree => ?_
  refine (sat_listAt (by omega)).bind fun username hu => ?_
  refine (sat_listAt (by omega)).bind fun password hp => ?_
  apply authenticate_unseen
  intro account hname
  -- the three parts are the ones that `provenAccount` looks at
  obtain ⟨authz, hspl⟩ : ∃ authz, saslPlain arg = [authz, username, password] := by
    have hlen : (saslPlain arg).length = 3 := by simpa using hthree
    obtain ⟨x, y, z, hxyz⟩ := List.length_eq_three.mp hlen
    rw [hxyz] at hu hp
    cases hu
    cases hp
    exact ⟨x, hxyz⟩
  unfold provenAccount at h
  cases args with
  | nil => cases harg
  | cons arg' rest =>
    cases harg
    dsimp only at h
    rw [if_neg hplain, hspl] at h
    dsimp only at h
    rw [hname, Option.bind_some] at h
    by_contra hno
    rw [if_neg hno] at h
    cases h

/-- **Commands that only answer.** -/
theorem handle_unseen {tags : QMap QString QVariant} {cmd : Command} {args : List Bytes}
    (h : answersOnly env c cmd args w) : Unseen c w (handle env c tags cmd args w) := by
  cases cmd with
  | PASS => exact handlePASS_unseen
  | NICK => exact handleNICK_unseen h
  | USER => exact handleUSER_unseen h
  | PING => exact handlePING_unseen
  | PONG => exact rfl
  | JOIN =>
    have hargs : args = [ascii ":"] := h
    rw [hargs]
    exact rfl
  | PART =>
    have hargs : args = [] := h
    rw [hargs]
    exact beyond_reply_num _ _ w
  | PRIVMSG =>
    show Unseen c w (handlePRIVMSG env c tags args w)
    unfold handlePRIVMSG
    refine Sat.ite (fun _ => beyond_reply_num _ _ w) fun hlen => ?_
    refine (sat_listAt (by omega)).bind fun target ht => ?_
    refine (sat_listAt (by omega)).bind fun text _ => ?_
    obtain hshort | ⟨target', ht', hunknown⟩ := h
    · exact absurd hshort hlen
    · rw [ht] at ht'
      cases ht'
      exact relay_unseen hunknown
  | TAGMSG =>
    show Unseen c w (handleTAGMSG env c tags args w)
    unfold handleTAGMSG
    refine Sat.ite (fun _ => beyond_reply_num _ _ w) fun hargs => ?_
    refine (sat_listAt (length_pos_of_ne hargs)).bind fun target ht => ?_
    obtain hnone | ⟨target', ht', hunknown⟩ := h
    · exact absurd hnone hargs
    · rw [ht] at ht'
      cases ht'
      exact relay_unseen hunknown
  | QUIT => exact beyond_forceDisconnect w
  | NAMES => exact rfl
  | CHATHISTORY => exact handleCHATHISTORY_unseen
  | RENAME =>
    have hlen : args.length ≤ 1 := h
    show Unseen c w (handleRENAME c args w)
    unfold handleRENAME
    rw [if_pos (Or.inr hlen)]
    exact rfl
  | METADATA =>
    show Unseen c w (handleMETADATA env c args w)
    unfold handleMETADATA
    refine Sat.ite (fun _ => beyond_reply_num _ _ w) fun hlen => ?_
    refine Sat.ite (fun hcap => ?_) fun _ => rfl
    obtain hshort | hno := h
    · exact absurd hshort hlen
    · rw [hno] at hcap
      cases hcap
  | TOPIC => exact rfl
  | LUSERS => exact beyond_handleLUSERS
  | MOTD => exact beyond_handleMOTD
  | WHO => exact handleWHO_unseen
  | AUTHENTICATE => exact handleAUTHENTICATE_unseen h
  | CAP => exact handleCAP_unseen h
  | MODE =>
    have hlen : args.length ≤ 1 := h
    show Unseen c w (handleMODE env c args w)
    unfold handleMODE
    refine Sat.ite (fun _ => rfl) fun hpos => ?_
    refine (sat_listAt (by omega)).bind fun target _ => ?_
    rw [if_pos (by omega)]
    exact beyond_modeQuery

/-! ## lines -/

theorem beyond_rawHook (line : Bytes) : (rawHook c line w).2.beyond c = w.beyond c := by
  unfold rawHook
  split
  · have h : (w.event .RAW_MSG
        ({ raw := line, ip := (w.conn c).ip } : QEventRawMessage)).2.beyond c = w.beyond c := rfl
    split <;> next he => rw [he] at h; exact h
  · rfl

theorem beyond_verifyTags (line : Bytes) : (verifyTags c line w).beyond c = w.beyond c := by
  unfold verifyTags
  split <;> rfl

theorem beyond_handlerWorld (line : Bytes) : (handlerWorld c line w).beyond c = w.beyond c := by
  unfold handlerWorld
  have h := beyond_rawHook (c := c) (w := w) line
  split <;> next he => rw [he] at h; first | exact h | exact (beyond_verifyTags _).trans h

/-- the line runs no command, or one that only answers -/
def lineAnswersOnly (env : Env) (c : ConnId) (w : World) (line : Bytes) : Prop :=
  ∀ cmd args, lineCommand c line w = some (cmd, args) →
    answersOnly env c cmd args (handlerWorld c line w)

theorem parseIncoming_unseen {line : Bytes} (h : lineAnswersOnly env c w line) :
    Unseen c w (parseIncoming env c line w) := by
  rw [parseIncoming_eq]
  have hworld := beyond_handlerWorld (c := c) (w := w) line
  cases hcmd : lineCommand c line w with
  | none => exact hworld
  | some p =>
    obtain ⟨cmd, args⟩ := p
    refine (handle_unseen (h cmd args hcmd)).mono (fun _ he => he) fun w' hw' => ?_
    exact hw'.trans hworld

/-- lines that only answer, one after the other -/
theorem parseLines_unseen {ls : List Bytes}
    (h : AllSteps (fun w line => parseIncoming env c line w) (lineAnswersOnly env c) w ls) :
    Unseen c w (parseLines env c ls w) := by
  induction ls generalizing w with
  | nil => exact rfl
  | cons line ls ih =>
    rw [parseLines_cons]
    refine (sat_of (fun w' hw' => ⟨hw', (parseIncoming_unseen h.1).of_ok hw'⟩) fun e he =>
      (parseIncoming_unseen h.1).of_error he).bind
        (Q := fun w' => parseIncoming env c line w = .ok w' ∧ w'.beyond c = w.beyond c) ?_
    intro w' hw'
    exact (ih (h.2 w' hw'.1)).mono (fun _ he => he) fun w'' hw'' => hw''.trans hw'.2

/-! ## the drain loop -/

/-- a line of the buffer makes its handler call `forceDisconnect`; `post` follows it -/
structure ClosesAt (env : Env) (c : ConnId) (wire : Wire) (line : Bytes) (post : List Bytes)
    (w0 w1 : World) : Prop where
  buffer : ∃ pre, (lines LF wire.m_buffer).map chopCR = pre ++ line :: post ∧
    parseLines env c pre wire.world = .ok w0
  before : (w0.conn c).closing = false
  step : parseIncoming env c line w0 = .ok w1
  after : (w1.conn c).closing = true

/-- the drain loop is at the line that closes, then at what follows -/
theorem ClosesAt.drain {wire : Wire} {line : Bytes} {post : List Bytes} {w0 w1 w2 : World}
    (h : ClosesAt env c wire line post w0 w1) (hpost : parseLines env c post w1 = .ok w2) :
    ∃ wire', drain env c wire = .ok wire' ∧ wire'.world = w2 := by
  obtain ⟨pre, hbuf, hpre⟩ := h.buffer
  have hrun : parseLines env c (pre ++ line :: post) wire.world = .ok w2 := by
    rw [parseLines_append, hpre]
    show parseLines env c (line :: post) w0 = .ok w2
    rw [parseLines_cons, h.step]
    exact hpost
  rw [drain_eq]
  unfold wholeStream
  dsimp only
  rw [hbuf, hrun]
  exact ⟨_, rfl, rfl⟩

/-- **After a forced disconnect.**  When every later line of the buffer only answers, in the state
that it is read in, the others see nothing of these lines: not after any of them, and not when the
buffer is empty. -/
theorem no_effect_after_close {wire : Wire} {line : Bytes} {post : List Bytes} {w0 w1 : World}
    (hclose : ClosesAt env c wire line post w0 w1)
    (hpost : AllSteps (fun w line => parseIncoming env c line w) (lineAnswersOnly env c) w1 post) :
    (∃ wire', client_connection.drain env c wire = .ok wire' ∧
      wire'.world.beyond c = w1.beyond c) ∧
    ∀ now later, post = now ++ later →
      ∃ w2, parseLines env c now w1 = .ok w2 ∧ w2.beyond c = w1.beyond c := by
  have hall (now later : List Bytes) (hsplit : post = now ++ later) :
      ∃ w2, parseLines env c now w1 = .ok w2 ∧ w2.beyond c = w1.beyond c := by
    rw [hsplit] at hpost
    have hunseen := parseLines_unseen (allSteps_append_left hpost)
    cases hnow : parseLines env c now w1 with
    | ok w2 => exact ⟨w2, rfl, hunseen.of_ok hnow⟩
    | error e => exact (hunseen.of_error hnow).elim
  refine ⟨?_, hall⟩
  obtain ⟨w2, hw2, hsame⟩ := hall post [] (List.append_nil post).symm
  obtain ⟨wire', hdrain, rfl⟩ := hclose.drain hw2
  exact ⟨wire', hdrain, hsame⟩

end

/-- ann and bob have registered, and ann's socket has had this to read -/
def annSends (data : String) (w : World) : Wire := { m_buffer := ascii data, world := w }

set_option maxRecDepth 8000 in
/-- ann quits, and what she says next reaches bob -/
theorem message_after_quit : ∃ w w0 w1 wire',
    run (Worker.step Env.ascii) World.empty
      (Worker.registration 0 false "ann" ++ Worker.registration 1 false "bob") = .ok w ∧
    ClosesAt Env.ascii 0 (annSends "QUIT\r\nPRIVMSG bob :hi\r\n" w) (ascii "QUIT")
      [ascii "PRIVMSG bob :hi"] w0 w1 ∧
    drain Env.ascii 0 (annSends "QUIT\r\nPRIVMSG bob :hi\r\n" w) = .ok wire' ∧
    wire'.world.out = w1.out ++ [(1, ascii ":ann!user@kroket.io PRIVMSG bob :hi\r\n")] ∧
    wire'.world.beyond 0 ≠ w1.beyond 0 := by
  have hend : ∃ w w1 w2, run (Worker.step Env.ascii) World.empty
      (Worker.registration 0 false "ann" ++ Worker.registration 1 false "bob") = .ok w ∧
      (w.conn 0).closing = false ∧ parseIncoming Env.ascii 0 (ascii "QUIT") w = .ok w1 ∧
      (w1.conn 0).closing = true ∧
      parseLines Env.ascii 0 [ascii "PRIVMSG bob :hi"] w1 = .ok w2 ∧
      w2.out = w1.out ++ [(1, ascii ":ann!user@kroket.io PRIVMSG bob :hi\r\n")] := by
    rw [Worker.run_both Worker.ann_letsIn (Worker.letsIn_second (by decide) (by decide) rfl)]
    exact ⟨_, _, _, rfl, rfl, rfl, rfl, rfl, rfl⟩
  obtain ⟨w, w1, w2, hrun, hopen, hquit, hclosed, hmsg, hout⟩ := hend
  have hclose : ClosesAt Env.ascii 0 (annSends "QUIT\r\nPRIVMSG bob :hi\r\n" w) (ascii "QUIT")
      [ascii "PRIVMSG bob :hi"] w w1 := ⟨⟨[], rfl, rfl⟩, hopen, hquit, hclosed⟩
  obtain ⟨wire', hdrain, hworld⟩ := hclose.drain hmsg
  rw [← hworld] at hout
  refine ⟨w, w, w1, wire', hrun, hclose, hdrain, hout, fun hsame => ?_⟩
  have hlen := congrArg (fun b : Beyond => b.out.length) hsame
  unfold World.beyond at hlen
  dsimp only at hlen
  rw [hout, List.filter_append, List.length_append] at hlen
  simp at hlen

set_option maxRecDepth 8000 in
/-- a ping and a look at who is there change nothing -/
theorem no_effect_after_close_ping : ∃ w w1 wire',
    ClosesAt Env.ascii 0 (annSends "QUIT\r\nPING 1\r\nWHO #x\r\n" w) (ascii "QUIT")
      [ascii "PING 1", ascii "WHO #x"] w w1 ∧
    drain Env.ascii 0 (annSends "QUIT\r\nPING 1\r\nWHO #x\r\n" w) = .ok wire' ∧
    wire'.world.beyond 0 = w1.beyond 0 := by
  have hend : ∃ w w1 w2, run (Worker.step Env.ascii) World.empty
      (Worker.registration 0 false "ann") = .ok w ∧
      (w.conn 0).closing = false ∧ parseIncoming Env.ascii 0 (ascii "QUIT") w = .ok w1 ∧
      (w1.conn 0).closing = true ∧
      lineCommand 0 (ascii "PING 1") w1 = some (.PING, [ascii "1"]) ∧
      parseIncoming Env.ascii 0 (ascii "PING 1") w1 = .ok w2 ∧
      lineCommand 0 (ascii "WHO #x") w2 = some (.WHO, [ascii "#x"]) := by
    rw [Worker.run_registered Worker.ann_letsIn]
    exact ⟨_, _, _, rfl, rfl, rfl, rfl, rfl, rfl, rfl⟩
  obtain ⟨w, w1, w2, -, hopen, hquit, hclosed, hping, hw2, hwho⟩ := hend
  have hclose : ClosesAt Env.ascii 0 (annSends "QUIT\r\nPING 1\r\nWHO #x\r\n" w)
      (ascii "QUIT") [ascii "PING 1", ascii "WHO #x"] w w1 :=
    ⟨⟨[], rfl, rfl⟩, hopen, hquit, hclosed⟩
  have hpingOnly : lineAnswersOnly Env.ascii 0 w1 (ascii "PING 1") := by
    intro cmd args hcmd
    rw [hping] at hcmd
    cases hcmd
    trivial
  have hwhoOnly : lineAnswersOnly Env.ascii 0 w2 (ascii "WHO #x") := by
    intro cmd args hcmd
    rw [hwho] at hcmd
    cases hcmd
    trivial
  obtain ⟨⟨wire', hdrain, hsame⟩, -⟩ := no_effect_after_close hclose
    ⟨hpingOnly, fun w2' hw2' => by
      have he : w2' = w2 := Except.ok.inj (hw2'.symm.trans hw2)
      rw [he]
      exact ⟨hwhoOnly, fun _ _ => trivial⟩⟩
  exact ⟨w, w1, wire', hclose, hdrain, hsame⟩

end client_connection

end Chatripper
