import Mathlib
import Chatripper.Core.World

/-!
# Connection slots

A `ThreadedServer` counts the connections of every address and takes no more than `m_max_per_ip`.
`incomingConnection` counts up on the thread of the server; the workers count down.  A socket on the
WebSocket port is handed to a `QWebSocketServer` in between, which says nothing when the handshake
fails, so the slot of such a socket is never given back.

* `step_balance`        what an event does to the count and to the sockets;
* `slots_balance`       the count is that of the open sockets and of the failed handshakes;
* `slots_returned_iff`  so it is right as long as no handshake fails.
-/

namespace Chatripper
open Outcome

/-! ## the server and its sockets -/

/-- where a socket is on its way -/
inductive Stage where
  /-- `Worker::handleConnection` is posted -/
  | posted
  /-- with the `QWebSocketServer` -/
  | handshake
  /-- a `client_connection` owns it -/
  | established
  | closed
  deriving DecidableEq

structure Socket where
  /-- 0 when `getpeername` fails -/
  remote_ip : Nat
  local_port : Nat
  stage : Stage := .posted

/-- a `ThreadedServer` with its workers; which worker has a socket makes no difference -/
structure Acceptor where
  m_max_per_ip : Int
  wsServerListeningPort : Nat
  activeConnections : QHash Nat Int := ∅
  /-- all sockets so far, each with its place for a handle -/
  sockets : List Socket := []

namespace Acceptor

/-- `activeConnections[ip]`, 0 when absent -/
def slots (ip : Nat) (s : Acceptor) : Int := s.activeConnections.getD ip 0

/-- `QHash::operator[]` enters a 0 where nothing is -/
def touch (ip : Nat) (m : QHash Nat Int) : QHash Nat Int :=
  if ip ∈ m then m else m.insert ip 0

/-- `if (--activeConnections[ip] <= 0) activeConnections.remove(ip)` -/
def release (ip : Nat) (m : QHash Nat Int) : QHash Nat Int :=
  let n := m.getD ip 0 - 1
  if n ≤ 0 then m.erase ip else m.insert ip n

def incomingConnection (remote_ip local_port : Nat) (s : Acceptor) : Acceptor :=
  let accepted := s.sockets ++ [{ remote_ip := remote_ip, local_port := local_port }]
  if remote_ip ≠ 0 then
    if s.slots remote_ip ≥ s.m_max_per_ip then
      { s with activeConnections := touch remote_ip s.activeConnections }
    else
      { s with
        activeConnections := s.activeConnections.insert remote_ip (s.slots remote_ip + 1)
        sockets := accepted }
  else { s with sockets := accepted }

/-! ## the events -/

/-- socket `i` goes on to the next stage -/
def goto (i : Nat) (k : Socket) (stage : Stage) (s : Acceptor) : Acceptor :=
  { s with sockets := s.sockets.set i { k with stage := stage } }

/-- the socket is closed and its slot given back -/
def drop (i : Nat) (k : Socket) (s : Acceptor) : Acceptor :=
  { s.goto i k .closed with activeConnections := release k.remote_ip s.activeConnections }

def handleConnection (i : Nat) (k : Socket) (setSocketDescriptor : Bool) (s : Acceptor) : Acceptor :=
  if !setSocketDescriptor then s.drop i k
  else if k.local_port = s.wsServerListeningPort then s.goto i k .handshake
  else s.goto i k .established

inductive Event where
  | incoming (remote_ip local_port : Nat)
  /-- the worker takes the socket; does `setSocketDescriptor` succeed -/
  | handleConnection (i : Nat) (setSocketDescriptor : Bool)
  /-- `QWebSocketServer::newConnection` -/
  | newConnection (i : Nat)
  /-- the handshake fails, or the peer is gone before it is complete -/
  | handshakeFailed (i : Nat)
  /-- `client_connection::disconnected` -/
  | disconnected (i : Nat)

/-- socket `i`, if it is at that stage -/
def socketAt (i : Nat) (stage : Stage) (s : Acceptor) : Option Socket :=
  s.sockets[i]?.filter fun k => k.stage == stage

/-- an event of a socket that is not at its stage does not occur -/
def step (s : Acceptor) : Event → Except Fault Acceptor
  | .incoming remote_ip local_port => .ok (s.incomingConnection remote_ip local_port)
  | .handleConnection i ok =>
    .ok (match s.socketAt i .posted with
      | some k => s.handleConnection i k ok
      | none => s)
  | .newConnection i =>
    .ok (match s.socketAt i .handshake with
      | some k => s.goto i k .established
      | none => s)
  | .handshakeFailed i =>
    .ok (match s.socketAt i .handshake with
      | some k => s.goto i k .closed
      | none => s)
  | .disconnected i =>
    .ok (match s.socketAt i .established with
      | some k => s.drop i k
      | none => s)

/-- accepted from the address and not yet closed -/
def isOpen (ip : Nat) (k : Socket) : Bool := decide (k.remote_ip = ip ∧ k.stage ≠ .closed)

def openFrom (ip : Nat) (s : Acceptor) : Nat := s.sockets.countP (isOpen ip)

/-- the event is a failed handshake with a client at the address -/
def handshakeLost (ip : Nat) (s : Acceptor) : Event → Nat
  | .handshakeFailed i =>
    match s.socketAt i .handshake with
    | some k => if k.remote_ip = ip then 1 else 0
    | none => 0
  | _ => 0

/-! ## what an event does -/

section
variable {ip : Nat} {s : Acceptor}

theorem getD_insert (m : QHash Nat Int) (k x : Nat) (v : Int) :
    (m.insert k v).getD x 0 = if x = k then v else m.getD x 0 := by
  rw [Std.ExtTreeMap.getD_insert]
  exact if_congr (Std.compare_eq_iff_eq.trans eq_comm) rfl rfl

theorem getD_touch (m : QHash Nat Int) (k x : Nat) : (touch k m).getD x 0 = m.getD x 0 := by
  unfold touch
  split
  · rfl
  · next hnot =>
    rw [getD_insert]
    split
    · next h =>
      rw [h, Std.ExtTreeMap.getD_eq_fallback hnot]
    · rfl

theorem getD_release_other (m : QHash Nat Int) {k x : Nat} (h : x ≠ k) :
    (release k m).getD x 0 = m.getD x 0 := by
  unfold release
  dsimp only
  split
  · rw [Std.ExtTreeMap.getD_erase, if_neg fun hc => h (Std.compare_eq_iff_eq.mp hc).symm]
  · rw [getD_insert, if_neg h]

/-- the slot is there to be given back -/
theorem getD_release_self (m : QHash Nat Int) (k : Nat) (h : 1 ≤ m.getD k 0) :
    (release k m).getD k 0 = m.getD k 0 - 1 := by
  unfold release
  dsimp only
  split
  · rw [Std.ExtTreeMap.getD_erase, if_pos (Std.compare_eq_iff_eq.mpr rfl)]
    omega
  · rw [getD_insert, if_pos rfl]

theorem socketAt_some {i : Nat} {stage : Stage} {k : Socket} (h : s.socketAt i stage = some k) :
    s.sockets[i]? = some k ∧ k.stage = stage := by
  obtain ⟨hi, hk⟩ := Option.filter_eq_some_iff.mp h
  exact ⟨hi, by simpa using hk⟩

theorem openFrom_goto {i : Nat} {k : Socket} (h : s.sockets[i]? = some k) (hopen : k.stage ≠ .closed)
    (stage : Stage) : (s.goto i k stage).openFrom ip + (if k.remote_ip = ip then 1 else 0) =
      s.openFrom ip + (if k.remote_ip = ip ∧ stage ≠ .closed then 1 else 0) := by
  obtain ⟨hlt, hi⟩ := List.getElem?_eq_some_iff.mp h
  have hpos : isOpen ip k = true → 0 < s.sockets.countP (isOpen ip) := by
    intro ho
    exact List.countP_pos_iff.mpr ⟨k, List.mem_of_getElem? h, ho⟩
  unfold openFrom goto
  dsimp only
  rw [List.countP_set hlt, hi]
  by_cases hip : k.remote_ip = ip
  · have ho : isOpen ip k = true := decide_eq_true ⟨hip, hopen⟩
    have hp := hpos ho
    rw [if_pos ho, if_pos hip]
    by_cases hs : stage = .closed
    · simp [isOpen, hip, hs]
      omega
    · simp [isOpen, hip, hs]
      omega
  · simp [isOpen, hip]

/-- the count is that of the open sockets and `lost` more -/
def Counts (ip : Nat) (s : Acceptor) (lost : Nat) : Prop := s.slots ip = s.openFrom ip + lost

section
variable {i lost : Nat} {k : Socket}

theorem Counts.goto {stage : Stage} (h : Counts ip s lost) (hi : s.sockets[i]? = some k)
    (hopen : k.stage ≠ .closed) (hstage : stage ≠ .closed) : Counts ip (s.goto i k stage) lost := by
  have hcount := @openFrom_goto ip _ _ _ hi hopen stage
  have hsame : (s.goto i k stage).openFrom ip = s.openFrom ip := by
    simp only [hstage, ne_eq, not_false_iff, and_true] at hcount
    omega
  unfold Counts at h ⊢
  rw [hsame]
  exact h

/-- a socket is closed and keeps its slot -/
theorem Counts.lose (h : Counts ip s lost) (hi : s.sockets[i]? = some k)
    (hopen : k.stage ≠ .closed) :
    Counts ip (s.goto i k .closed) (lost + if k.remote_ip = ip then 1 else 0) := by
  have hcount := @openFrom_goto ip _ _ _ hi hopen .closed
  unfold Counts at h ⊢
  show s.slots ip = _
  rw [h]
  simp only [ne_eq, not_true, and_false, if_false] at hcount
  omega

theorem Counts.drop (h : Counts ip s lost) (hi : s.sockets[i]? = some k)
    (hopen : k.stage ≠ .closed) : Counts ip (s.drop i k) lost := by
  have hcount := @openFrom_goto ip _ _ _ hi hopen .closed
  simp only [ne_eq, not_true, and_false, if_false] at hcount
  unfold Counts at h ⊢
  show (release k.remote_ip s.activeConnections).getD ip 0 = ((s.goto i k .closed).openFrom ip : Int) + lost
  by_cases hip : k.remote_ip = ip
  · rw [if_pos hip] at hcount
    have hone : 1 ≤ s.activeConnections.getD ip 0 := by
      unfold slots at h
      omega
    rw [hip, getD_release_self _ _ hone]
    unfold slots at h
    omega
  · rw [if_neg hip] at hcount
    rw [getD_release_other _ (Ne.symm hip)]
    unfold slots at h
    omega

theorem Counts.incoming {port remote_ip : Nat} (hip : ip ≠ 0) (h : Counts ip s lost) :
    Counts ip (s.incomingConnection remote_ip port) lost := by
  have hopen : List.countP (isOpen ip) (s.sockets ++ [⟨remote_ip, port, .posted⟩]) =
      s.openFrom ip + if remote_ip = ip then 1 else 0 := by
    rw [List.countP_append]
    simp [openFrom, isOpen]
  unfold Counts at h ⊢
  unfold incomingConnection
  dsimp only
  split
  · split
    · -- rejected
      show (touch remote_ip s.activeConnections).getD ip 0 = _
      rw [getD_touch]
      exact h
    · show (s.activeConnections.insert remote_ip _).getD ip 0 = ((List.countP _ _ : Nat) : Int) + lost
      rw [hopen, getD_insert]
      unfold slots at h ⊢
      by_cases heq : remote_ip = ip
      · rw [if_pos heq.symm, if_pos heq, heq, h]
        omega
      · rw [if_neg (Ne.symm heq), if_neg heq, h]
        omega
  · next hzero =>
    have hne : remote_ip ≠ ip := by
      intro heq
      rw [heq] at hzero
      exact hzero hip
    show s.slots ip = ((List.countP _ _ : Nat) : Int) + lost
    rw [hopen, if_neg hne, h]
    omega

end

/-- **One event.**  Only a failed handshake takes a slot away. -/
theorem step_balance {s' : Acceptor} {lost : Nat} {ev : Event} (hip : ip ≠ 0)
    (h : Counts ip s lost) (hs : step s ev = .ok s') :
    Counts ip s' (lost + handshakeLost ip s ev) := by
  cases ev with
  | incoming remote_ip local_port =>
    cases hs
    exact h.incoming hip
  | handleConnection i ok =>
    cases hs
    cases hat : s.socketAt i .posted with
    | none => exact h
    | some k =>
      obtain ⟨hi, hstage⟩ := socketAt_some hat
      have hopen : k.stage ≠ .closed := by
        rw [hstage]
        decide
      show Counts ip (s.handleConnection i k ok) lost
      unfold handleConnection
      split
      · exact h.drop hi hopen
      · split
        · exact h.goto hi hopen (by decide)
        · exact h.goto hi hopen (by decide)
  | newConnection i =>
    cases hs
    cases hat : s.socketAt i .handshake with
    | none => exact h
    | some k =>
      obtain ⟨hi, hstage⟩ := socketAt_some hat
      apply h.goto hi _ (by decide)
      rw [hstage]
      decide
  | handshakeFailed i =>
    cases hs
    cases hat : s.socketAt i .handshake with
    | none =>
      have hnone : handshakeLost ip s (.handshakeFailed i) = 0 := by
        simp only [handshakeLost, hat]
      rw [hnone]
      exact h
    | some k =>
      have hone : handshakeLost ip s (.handshakeFailed i) = if k.remote_ip = ip then 1 else 0 := by
        simp only [handshakeLost, hat]
      obtain ⟨hi, hstage⟩ := socketAt_some hat
      rw [hone]
      apply h.lose hi
      rw [hstage]
      decide
  | disconnected i =>
    cases hs
    cases hat : s.socketAt i .established with
    | none => exact h
    | some k =>
      obtain ⟨hi, hstage⟩ := socketAt_some hat
      apply h.drop hi
      rw [hstage]
      decide

/-! ## runs -/

theorem slots_balance {s' : Acceptor} {lost : Nat} {evs : List Event} (hip : ip ≠ 0)
    (h : Counts ip s lost) (hrun : run step s evs = .ok s') :
    Counts ip s' (lost + tally step (handshakeLost ip) s evs) := by
  induction evs generalizing s lost with
  | nil =>
    cases hrun
    exact h
  | cons ev evs ih =>
    rw [run_cons] at hrun
    obtain ⟨m, hm, hrun⟩ := bind_eq_ok.mp hrun
    have hrest := ih (step_balance hip h hm) hrun
    unfold tally
    rw [hm]
    dsimp only
    rw [← Nat.add_assoc]
    exact hrest

/-- the count is right, and an address without connections is let in -/
def SlotsReturned (ip : Nat) (s : Acceptor) : Prop :=
  s.slots ip = s.openFrom ip ∧ (s.openFrom ip = 0 → 0 < s.m_max_per_ip →
    ∀ port, (s.incomingConnection ip port).openFrom ip = 1)

/-- a server before the first socket -/
def idle (m_max_per_ip : Int) (wsServerListeningPort : Nat) : Acceptor where
  m_max_per_ip := m_max_per_ip
  wsServerListeningPort := wsServerListeningPort

theorem let_in {port : Nat} (hcount : s.slots ip = s.openFrom ip) (hnone : s.openFrom ip = 0)
    (hmax : 0 < s.m_max_per_ip) : (s.incomingConnection ip port).openFrom ip = 1 := by
  have hroom : ¬ s.slots ip ≥ s.m_max_per_ip := by
    rw [hcount, hnone]
    omega
  have hopen : List.countP (isOpen ip) (s.sockets ++ [⟨ip, port, .posted⟩]) = 1 := by
    unfold openFrom at hnone
    rw [List.countP_append, hnone]
    simp [isOpen]
  unfold incomingConnection
  dsimp only
  rw [if_neg hroom]
  split
  · exact hopen
  · exact hopen

/-- **The slots.**  They are all given back exactly when no handshake with the address fails. -/
theorem slots_returned_iff (m_max_per_ip : Int) (wsServerListeningPort : Nat) {ip : Nat}
    (hip : ip ≠ 0) {evs : List Event} {s' : Acceptor}
    (hrun : run step (idle m_max_per_ip wsServerListeningPort) evs = .ok s') :
    SlotsReturned ip s' ↔ AllSteps step (fun s ev => handshakeLost ip s ev = 0)
      (idle m_max_per_ip wsServerListeningPort) evs := by
  have hstart : Counts ip (idle m_max_per_ip wsServerListeningPort) 0 := by
    show (∅ : QHash Nat Int).getD ip 0 = _
    rw [Std.ExtTreeMap.getD_empty]
    rfl
  have hbalance := slots_balance hip hstart hrun
  unfold Counts at hbalance
  rw [← tally_eq_zero]
  constructor
  · intro h
    have hcount := h.1
    omega
  · intro hnone
    rw [hnone] at hbalance
    have hcount : s'.slots ip = s'.openFrom ip := by
      rw [hbalance]
      simp
    refine ⟨hcount, ?_⟩
    intro hopen hmax port
    exact let_in hcount hopen hmax

end

/-- a client at address 7 gives up in the handshake -/
def abortedHandshake : List Event :=
  [.incoming 7 8200, .handleConnection 0 true, .handshakeFailed 0]

/-- the client is gone and its slot is not given back -/
theorem slot_leaked : ∃ s, run step (idle 10 8200) abortedHandshake = .ok s ∧
    s.openFrom 7 = 0 ∧ s.slots 7 = 1 ∧ ¬ SlotsReturned 7 s := by
  have hend : ∃ s, run step (idle 10 8200) abortedHandshake = .ok s ∧ s.openFrom 7 = 0 ∧
      s.slots 7 = 1 := ⟨_, rfl, rfl, rfl⟩
  obtain ⟨s, hrun, hopen, hslots⟩ := hend
  refine ⟨s, hrun, hopen, hslots, ?_⟩
  intro h
  have hcount := h.1
  rw [hopen, hslots] at hcount
  cases hcount

/-- a client completes the handshake and goes, another one's descriptor fails -/
def completedHandshake : List Event :=
  [.incoming 7 8200, .incoming 7 6667, .handleConnection 0 true, .newConnection 0,
    .handleConnection 1 false, .disconnected 0]

theorem slots_returned_completed : ∃ s, run step (idle 2 8200) completedHandshake = .ok s ∧
    (SlotsReturned 7 s ↔ AllSteps step (fun s ev => handshakeLost 7 s ev = 0) (idle 2 8200)
      completedHandshake) := by
  have hend : ∃ s, run step (idle 2 8200) completedHandshake = .ok s := ⟨_, rfl⟩
  obtain ⟨s, hrun⟩ := hend
  exact ⟨s, hrun, slots_returned_iff 2 8200 (by decide) hrun⟩

end Acceptor

end Chatripper
