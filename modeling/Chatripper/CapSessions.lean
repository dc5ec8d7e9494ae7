import Mathlib
import Chatripper.Password

/-!
# CAP sessions side by side

`handleCAP` keeps the version that a client announces in a variable of the process, and LIST reads
it.  It decides only whether values after a `=` are listed, and no capability of the server has one.
So what a connection is told is a function of its own lines.

* `handleCAP_replies`      one line: its reply, and the connection it touches;
* `received_run`           any interleaving: every connection receives its own transcript;
* `sessions_independent`   the same as alone in another process.
-/

namespace Chatripper
open ByteStr Utf8 Outcome

namespace client_connection
open World Worker

/-- a CAP command of a connection -/
structure CapLine where
  c : ConnId
  sub_cmd : Bytes
  rest : List Bytes

def capStep (env : Env) (w : World) (l : CapLine) : Except Fault World :=
  handleCAP env l.c (l.sub_cmd :: l.rest) w

/-- the lines that were sent to a connection -/
def received (c : ConnId) (w : World) : List Bytes := (w.out.filter fun p => p.1 == c).map Prod.snd

/-- the lines of one connection, under the number it has in its own process -/
def ownLines (c : ConnId) (lines : List CapLine) : List CapLine :=
  (lines.filter fun l => l.c == c).map fun l => { l with c := 0 }

/-- a process that has accepted sockets, and nothing else -/
def opened (socks : List (Bool × Bytes)) : World :=
  socks.foldl (fun w s => handleConnection s.1 s.2 w) World.empty

/-! ## one line -/

/-- the reply to a line while capabilities are exchanged -/
def capReply (env : Env) (sub_cmd : Bytes) (rest : List Bytes) : List Bytes :=
  if sub_cmd = ascii "LS" then [ascii "CAP * LS :" ++ joinSpace env.server.capabilities]
  else if sub_cmd = ascii "REQ" then
    match rest with
    | [] => [ascii "CAP * NAK :"]
    | line :: _ =>
      let requested := requestedCaps line
      if requested.filter (availableCap env) ≠ [] ∧
          requested.filter (fun r => !availableCap env r) = [] then
        [ascii "CAP * ACK :" ++ joinSpace (requested.filter (availableCap env))]
      else [ascii "CAP * NAK :" ++ joinSpace requested]
  else if sub_cmd = ascii "LIST" then [ascii "CAP * LIST :" ++ joinSpace env.server.capabilities]
  else []

/-- what a connection receives for its lines -/
def transcript (env : Env) : Bool → List CapLine → List Bytes
  | _, [] => []
  | exchanging, l :: ls =>
    (if exchanging then (capReply env l.sub_cmd l.rest).map (rawLine env) else []) ++
      transcript env (exchanging && l.sub_cmd != ascii "END") ls

/-- no capability has a value -/
def Plain (env : Env) : Prop := env.server.capabilities.map capName = env.server.capabilities

section
variable {env : Env} {w : World}

/-- the exchange is on, and the nick is awaited -/
def exchanging (w : World) (c : ConnId) : Bool := (w.conn c).setup_tasks.has .CAP_EXCHANGE

/-- what a line does that leaves the setup tasks alone -/
structure Told (env : Env) (l : CapLine) (w w' : World) : Prop where
  out : w'.out = w.out ++
    (if exchanging w l.c then capReply env l.sub_cmd l.rest else []).map fun t => (l.c, rawLine env t)
  own : exchanging w' l.c = (exchanging w l.c && l.sub_cmd != ascii "END")
  nick : ∀ x, (w'.conn x).setup_tasks.has .NICK = (w.conn x).setup_tasks.has .NICK
  others : ∀ x, x ≠ l.c → exchanging w' x = exchanging w x

theorem capLS_out (hplain : Plain env) (c : ConnId) (version : Option Int) :
    (capLS env c version w).out =
        w.out ++ [(c, rawLine env (ascii "CAP * LS :" ++ joinSpace env.server.capabilities))] ∧
      (capLS env c version w).conn = w.conn := by
  unfold capLS
  cases version with
  | none =>
    dsimp only
    rw [hplain]
    exact ⟨rfl, rfl⟩
  | some ver =>
    dsimp only
    split
    · exact ⟨rfl, rfl⟩
    · rw [hplain]
      exact ⟨rfl, rfl⟩

/-- the version makes no difference -/
theorem capLIST_out (hplain : Plain env) (c : ConnId) :
    (capLIST env c w).out =
        w.out ++ [(c, rawLine env (ascii "CAP * LIST :" ++ joinSpace env.server.capabilities))] ∧
      (capLIST env c w).conn = w.conn := by
  unfold capLIST
  dsimp only
  rw [hplain, ite_self]
  exact ⟨rfl, rfl⟩

theorem capREQ_out (c : ConnId) (line : Bytes) (rest : List Bytes) :
    (capREQ env c line w).out =
        w.out ++ (capReply env (ascii "REQ") (line :: rest)).map (fun t => (c, rawLine env t)) ∧
      ∀ x, ((capREQ env c line w).conn x).setup_tasks = (w.conn x).setup_tasks := by
  have hls : ¬ ascii "REQ" = ascii "LS" := by decide
  unfold capREQ capReply
  dsimp only
  rw [if_neg hls, if_pos rfl]
  split
  · refine ⟨rfl, ?_⟩
    intro x
    rw [updConn_conn]
    split
    · next h => rw [h]; rfl
    · rfl
  · exact ⟨rfl, fun _ => rfl⟩

/-- a reply, and nothing else -/
theorem told_reply {c : ConnId} {sub_cmd : Bytes} {rest : List Bytes} {w' : World}
    (hexch : exchanging w c = true) (hend : sub_cmd ≠ ascii "END")
    (hout : w'.out = w.out ++ (capReply env sub_cmd rest).map fun t => (c, rawLine env t))
    (htasks : ∀ x, (w'.conn x).setup_tasks = (w.conn x).setup_tasks) :
    Told env ⟨c, sub_cmd, rest⟩ w w' where
  out := by
    dsimp only
    rw [hexch, if_pos rfl]
    exact hout
  own := by
    unfold exchanging at hexch ⊢
    dsimp only
    rw [htasks, hexch, bne_iff_ne.mpr hend, Bool.true_and]
  nick x := by rw [htasks]
  others x _ := by unfold exchanging; rw [htasks]

theorem has_clearTask (c x : ConnId) (w : World) (e e' : ConnectionSetupTasks) :
    ((clearTask c e w).conn x).setup_tasks.has e' =
      ((w.conn x).setup_tasks.has e' && !(decide (x = c) && decide (e' = e))) := by
  unfold clearTask
  rw [updConn_conn]
  by_cases hx : x = c
  · rw [if_pos hx, hx, decide_eq_true rfl, Bool.true_and]
    exact Flags.has_clear _ _ _
  · rw [if_neg hx, decide_eq_false hx, Bool.false_and, Bool.not_false, Bool.and_true]

/-- END waits for the nick -/
theorem end_waits {c : ConnId} (hnick : (w.conn c).setup_tasks.has .NICK = true) :
    ((clearTask c .CAP_EXCHANGE w).conn c).setup_tasks.empty = false := by
  apply Bool.eq_false_iff.mpr
  intro hempty
  have hno := Flags.not_has_of_empty hempty ConnectionSetupTasks.NICK
  rw [has_clearTask, hnick] at hno
  revert hno
  simp

theorem told_end {c : ConnId} {rest : List Bytes} :
    Told env ⟨c, ascii "END", rest⟩ w (clearTask c .CAP_EXCHANGE w) where
  out := by
    have hnone : capReply env (ascii "END") rest = [] := rfl
    show w.out = _
    rw [hnone, ite_self, List.map_nil, List.append_nil]
  own := by
    unfold exchanging
    rw [has_clearTask]
    simp
  nick x := by
    rw [has_clearTask]
    simp
  others x hx := by
    have hx : x ≠ c := hx
    unfold exchanging
    rw [has_clearTask, decide_eq_false hx]
    simp

/-- after END nothing is answered -/
theorem told_silent {l : CapLine} (hexch : exchanging w l.c = false) : Told env l w w where
  out := by rw [hexch, if_neg Bool.false_ne_true, List.map_nil, List.append_nil]
  own := by rw [hexch, Bool.false_and]
  nick _ := rfl
  others _ _ := rfl

theorem received_told {l : CapLine} {w' : World} (h : Told env l w w') (c : ConnId) :
    received c w' = received c w ++ if l.c = c then
      (if exchanging w l.c then (capReply env l.sub_cmd l.rest).map (rawLine env) else []) else [] := by
  unfold received
  rw [h.out, List.filter_append, List.map_append]
  congr 1
  by_cases hc : l.c = c
  · subst hc
    rw [if_pos rfl]
    cases exchanging w l.c with
    | true => simp [List.filter_map, Function.comp_def]
    | false => rfl
  · rw [if_neg hc]
    simp [List.filter_map, Function.comp_def, hc]

theorem handleCAP_replies (hplain : Plain env) (c : ConnId) (sub_cmd : Bytes) (rest : List Bytes)
    (hnick : (w.conn c).setup_tasks.has .NICK = true) :
    ∃ w', handleCAP env c (sub_cmd :: rest) w = .ok w' ∧ Told env ⟨c, sub_cmd, rest⟩ w w' := by
  unfold handleCAP
  by_cases hexch : (w.conn c).setup_tasks.has .CAP_EXCHANGE = true
  · rw [if_pos hexch]
    by_cases hls : sub_cmd = ascii "LS"
    · subst hls
      cases rest with
      | nil =>
        obtain ⟨hout, hconn⟩ := capLS_out (w := w) hplain c none
        exact ⟨capLS env c none w, rfl, told_reply hexch (by decide) hout fun x => by rw [hconn]⟩
      | cons version rest =>
        obtain ⟨hout, hconn⟩ := capLS_out (w := w) hplain c (toInt? version)
        exact ⟨capLS env c (toInt? version) w, rfl,
          told_reply hexch (by decide) hout fun x => by rw [hconn]⟩
    by_cases hreq : sub_cmd = ascii "REQ"
    · subst hreq
      cases rest with
      | nil =>
        exact ⟨send_raw env c (ascii "CAP * NAK :") w, rfl,
          told_reply hexch (by decide) rfl fun _ => rfl⟩
      | cons line rest =>
        obtain ⟨hout, htasks⟩ := @capREQ_out env w c line rest
        exact ⟨capREQ env c line w, rfl, told_reply hexch (by decide) hout htasks⟩
    by_cases hlist : sub_cmd = ascii "LIST"
    · subst hlist
      obtain ⟨hout, hconn⟩ := capLIST_out (w := w) hplain c
      exact ⟨capLIST env c w, rfl, told_reply hexch (by decide) hout fun x => by rw [hconn]⟩
    by_cases hend : sub_cmd = ascii "END"
    · subst hend
      refine ⟨clearTask c .CAP_EXCHANGE w, ?_, told_end⟩
      exact try_finalize_waiting (end_waits hnick)
    · have hnone : capReply env sub_cmd rest = [] := by
        unfold capReply
        rw [if_neg hls, if_neg hreq, if_neg hlist]
      refine ⟨w, ?_, told_reply hexch hend ?_ fun _ => rfl⟩
      · have hsub : listAt (sub_cmd :: rest) 0 = .ok sub_cmd := rfl
        rw [hsub]
        dsimp only [bind, Except.bind]
        rw [if_neg hls, if_neg hreq, if_neg hlist, if_neg hend]
      · show w.out = w.out ++ (capReply env sub_cmd rest).map _
        rw [hnone, List.map_nil, List.append_nil]
  · rw [if_neg hexch]
    exact ⟨w, rfl, told_silent (Bool.eq_false_iff.mpr hexch)⟩

/-- any interleaving of lines -/
theorem received_run (hplain : Plain env) (lines : List CapLine)
    (hnick : ∀ x, (w.conn x).setup_tasks.has .NICK = true) (c : ConnId) :
    ∃ w', run (capStep env) w lines = .ok w' ∧
      received c w' = received c w ++
        transcript env (exchanging w c) (lines.filter fun l => l.c == c) := by
  induction lines generalizing w with
  | nil => exact ⟨w, rfl, (List.append_nil _).symm⟩
  | cons l lines ih =>
    obtain ⟨w1, h1, htold⟩ := handleCAP_replies hplain l.c l.sub_cmd l.rest (hnick l.c)
    have hnick1 : ∀ x, (w1.conn x).setup_tasks.has .NICK = true := by
      intro x
      rw [htold.nick]
      exact hnick x
    obtain ⟨w2, h2, hrec⟩ := ih hnick1
    refine ⟨w2, ?_, ?_⟩
    · have hstep : capStep env w l = .ok w1 := h1
      rw [run_cons, hstep]
      exact h2
    rw [hrec, received_told htold]
    by_cases hl : l.c = c
    · subst hl
      rw [List.filter_cons_of_pos (by simp), htold.own, if_pos rfl, List.append_assoc]
      rfl
    · rw [List.filter_cons_of_neg (by simpa using hl), htold.others c (Ne.symm hl), if_neg hl,
        List.append_nil]

/-- the numbers of the connections do not matter -/
theorem transcript_own (exch : Bool) (c : ConnId) (lines : List CapLine) :
    transcript env exch ((ownLines c lines).filter fun l => l.c == 0) =
      transcript env exch (lines.filter fun l => l.c == c) := by
  have hown : (ownLines c lines).filter (fun l => l.c == 0) = ownLines c lines := by
    apply List.filter_eq_self.mpr
    intro l hl
    obtain ⟨l', _, rfl⟩ := List.mem_map.mp hl
    rfl
  rw [hown]
  unfold ownLines
  induction lines.filter (fun l => l.c == c) generalizing exch with
  | nil => rfl
  | cons l ls ih =>
    rw [List.map_cons]
    unfold transcript
    rw [ih]

end

/-! ## processes -/

theorem opened_fresh (socks : List (Bool × Bytes)) :
    (opened socks).out = [] ∧ ∀ x, ((opened socks).conn x).setup_tasks = ({} : Conn).setup_tasks := by
  unfold opened
  have hstart : World.empty.out = [] ∧
      ∀ x, (World.empty.conn x).setup_tasks = ({} : Conn).setup_tasks := ⟨rfl, fun _ => rfl⟩
  generalize World.empty = w at hstart ⊢
  induction socks generalizing w with
  | nil => exact hstart
  | cons s socks ih =>
    apply ih
    refine ⟨hstart.1, ?_⟩
    intro x
    unfold handleConnection
    rw [updConn_conn]
    split
    · rfl
    · exact hstart.2 x

theorem plain_program (base : Env) (file : MotdFile) (o : Options) : Plain (program base file o) := by
  show ({} : ThreadedServer).capabilities.map capName = ({} : ThreadedServer).capabilities
  decide

/-- **Sessions.**  Whatever CAP commands the connections of a process send and in whatever order,
each of them receives what it receives for its own commands alone in a process of its own. -/
theorem sessions_independent (base : Env) (file : MotdFile) (o : Options)
    (socks : List (Bool × Bytes)) (sock : Bool × Bytes) (lines : List CapLine) (c : ConnId) :
    ∃ w alone, run (capStep (program base file o)) (opened socks) lines = .ok w ∧
      run (capStep (program base file o)) (opened [sock]) (ownLines c lines) = .ok alone ∧
      received c w = received 0 alone := by
  have hplain := plain_program base file o
  obtain ⟨hout, htasks⟩ := opened_fresh socks
  obtain ⟨hout1, htasks1⟩ := opened_fresh [sock]
  obtain ⟨w, hrun, hrec⟩ := received_run hplain lines (w := opened socks)
    (fun x => by rw [htasks]; rfl) c
  obtain ⟨alone, hrun1, hrec1⟩ := received_run hplain (ownLines c lines) (w := opened [sock])
    (fun x => by rw [htasks1]; rfl) 0
  refine ⟨w, alone, hrun, hrun1, ?_⟩
  have hexch : exchanging (opened socks) c = true := by
    unfold exchanging
    rw [htasks]
    rfl
  have hexch1 : exchanging (opened [sock]) 0 = true := by
    unfold exchanging
    rw [htasks1]
    rfl
  rw [hrec, hrec1, transcript_own, hexch, hexch1]
  unfold received
  rw [hout, hout1, List.filter_nil, List.filter_nil]

end client_connection

end Chatripper
