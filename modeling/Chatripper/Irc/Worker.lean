import Mathlib
import Chatripper.Irc.LineSteps

/-!
# The server as a whole

A worker owns connections.  It constructs one for every socket, hands it the lines that arrive, runs
the calls that were posted to it and drops it when its socket is gone.  `Event` is one of these and
`step` what it does; the events of all connections interleave in any order.

* `Reg.SysStep`   the same on the registration view: connect, a step of one live connection's
  machine, disconnect;
* `step_chain`    every event is a chain of these, with labels that come from its line.
-/

namespace Chatripper
open ByteStr Utf8 Outcome

namespace client_connection
open World

/-- a connection that has lost its socket leaves its account and is deleted -/
def onSocketDisconnected (c : ConnId) (w : World) : World :=
  let _nick := w.nick c
  let w := match (w.conn c).m_account with
    | some m_account => Account.onConnectionDisconnected m_account c _nick w
    | none => w
  w.updConn c fun k => { k with live := false }

def queuedCall (c : ConnId) (q : QueuedCall) (w : World) : Except Fault World :=
  match q with
  | .channel_part ev => channel_part c ev w
  | .change_nick ev => change_nick c ev w
  | .channel_rename ev => .ok (channel_rename c ev w)

end client_connection

namespace Worker
open World client_connection

def handleConnection (isWebSocket : Bool) (ip : Bytes) (w : World) : World :=
  { w with nextConn := w.nextConn + 1, nextUuid := w.nextUuid + 1 }.updConn w.nextConn fun _ =>
    { m_uid := w.nextUuid, isWebSocket := isWebSocket, ip := ip, live := true }

/-- the event loop takes the next call posted to a connection; a deleted one loses it -/
def deliver (c : ConnId) (w : World) : Except Fault World :=
  match w.queue.find? fun p => p.1 == c with
  | none => .ok w
  | some (_, q) =>
    let w := { w with queue := w.queue.eraseP fun p => p.1 == c }
    if (w.conn c).live then queuedCall c q w else .ok w

inductive Event where
  | connect (isWebSocket : Bool) (ip : Bytes)
  | line (c : ConnId) (line : Bytes)
  | deliver (c : ConnId)
  | disconnect (c : ConnId)

def step (env : Env) (w : World) : Event → Except Fault World
  | .connect isWebSocket ip => .ok (handleConnection isWebSocket ip w)
  | .line c line => if (w.conn c).live then parseIncoming env c line w else .ok w
  | .deliver c => deliver c w
  | .disconnect c => .ok (if (w.conn c).live then onSocketDisconnected c w else w)

/-- a client connects and registers -/
def registration (c : ConnId) (isWebSocket : Bool) (nick : String) : List Event :=
  [.connect isWebSocket (ascii "127.0.0.1"), .line c (ascii ("NICK " ++ nick)),
    .line c (ascii "USER u 0 * :U"), .line c (ascii "CAP END")]

end Worker

/-! ## the registration view -/

namespace Reg

inductive SysLabel where
  | connect
  | conn (c : ConnId) (l : Label)
  | disconnect (c : ConnId)

inductive SysStep : SysLabel → Reg → Reg → Prop
  | connect (r : Reg) : SysStep .connect r r.connect
  | conn {c : ConnId} {l : Label} {r r' : Reg} (hlive : (r.conn c).live = true)
      (h : Step c l r r') : SysStep (.conn c l) r r'
  | disconnect {c : ConnId} {r : Reg} (hlive : (r.conn c).live = true) :
      SysStep (.disconnect c) r (r.disconnect c)

/-- a step of the machine keeps every connection alive or dead -/
theorem Step.live {c : ConnId} {l : Label} {r r' : Reg} (h : Step c l r r') (x : ConnId) :
    (r'.conn x).live = (r.conn x).live := by
  by_cases hx : x = c
  · subst hx
    cases h <;> simp
  · cases h <;> simp [hx]

theorem SysStep.nextAcc_le {l : SysLabel} {r r' : Reg} (h : SysStep l r r') :
    r.nextAcc ≤ r'.nextAcc := by
  cases h with
  | connect => exact Nat.le_refl _
  | conn _ h =>
    cases h with
    | registerNew => exact Nat.le_succ _
    | _ => exact Nat.le_refl _
  | disconnect => exact Nat.le_of_eq (disconnect_next r _).2.1.symm

/-- no step changes what Python listens to -/
theorem SysStep.activeEvents {l : SysLabel} {r r' : Reg} (h : SysStep l r r') :
    r'.activeEvents = r.activeEvents := by
  cases h with
  | connect => rfl
  | conn _ h => cases h <;> rfl
  | disconnect => exact (disconnect_next r _).2.2.2

/-- the steps of one live connection are steps of the system -/
theorem chain_conn {c : ConnId} {ls : List Label} {r r' : Reg} (h : Chain (Step c) ls r r')
    (hlive : (r.conn c).live = true) : Chain SysStep (ls.map (.conn c)) r r' := by
  induction h with
  | nil r => exact .nil r
  | cons h _ ih => exact .cons (.conn hlive h) (ih ((h.live c).trans hlive))

end Reg

namespace client_connection
open World

section
variable {c : ConnId} {w : World}

theorem reg_onConnectionDisconnected (a : AccId) (nick : Bytes) :
    (Account.onConnectionDisconnected a c nick w).reg = w.reg.leaveAccount c a nick := by
  have hleave : (w.updAcc a fun k => { k with connections := k.connections.filter (· != c) }).reg =
      w.reg.updAcc a fun k => { k with connections := k.connections.filter (· != c) } :=
    reg_updAcc_eq w a (f := fun k => { k with connections := k.connections.filter (· != c) })
      fun _ => rfl
  unfold Account.onConnectionDisconnected Reg.leaveAccount Account.is_logged_in
  dsimp only
  rw [← hleave]
  generalize (w.updAcc a fun k => { k with connections := k.connections.filter (· != c) }) = w1
  have hname : (w1.reg.acc a).m_name = (w1.acc a).m_name := rfl
  by_cases h : (w1.acc a).m_name = []
  · rw [if_neg (by simp [h]), if_pos (hname.trans h)]
    unfold Account.get_by_uid
    cases hself : w1.ctx.accounts_lookup_uuid[(w1.acc a).m_uid]? with
    | none =>
      have hcache : (Ctx.irc_nicks_remove_cache nick w1).ctx.accounts_lookup_uuid[
        ((Ctx.irc_nicks_remove_cache nick w1).acc a).m_uid]? = none := hself
      have hreg : w1.reg.accounts_lookup_uuid[(w1.reg.acc a).m_uid]? = none := hself
      rw [hcache, hreg]
      rfl
    | some self =>
      have hcache : (Ctx.irc_nicks_remove_cache nick w1).ctx.accounts_lookup_uuid[
        ((Ctx.irc_nicks_remove_cache nick w1).acc a).m_uid]? = some self := hself
      have hreg : w1.reg.accounts_lookup_uuid[(w1.reg.acc a).m_uid]? = some self := hself
      rw [hcache, hreg]
      exact reg_removeAccount self
  · rw [if_pos (by simpa using h), if_neg (fun he => h (hname.symm.trans he))]

theorem reg_onSocketDisconnected : (onSocketDisconnected c w).reg = w.reg.disconnect c := by
  unfold onSocketDisconnected Reg.disconnect
  dsimp only
  rw [reg_updConn_eq _ c (g := fun k => { k with live := false }) fun _ => rfl]
  cases hacc : (w.conn c).m_account with
  | none =>
    have h : (w.reg.conn c).m_account = none := hacc
    rw [h]
  | some a =>
    have h : (w.reg.conn c).m_account = some a := hacc
    rw [h]
    dsimp only
    rw [reg_onConnectionDisconnected, nick_eq_reg]

theorem queuedCall_sat {q : QueuedCall} :
    Sat (fun _ => True) (fun w' => w'.reg = w.reg) (queuedCall c q w) := by
  cases q with
  | channel_part ev => exact channel_part_sat.mono (fun _ _ => trivial) fun _ h => h
  | change_nick ev => exact change_nick_sat.mono (fun _ _ => trivial) fun _ h => h
  | channel_rename ev => exact reg_channel_rename c w ev

end

end client_connection

namespace Worker
open World client_connection

section
variable {env : Env} {w w' : World}

theorem reg_handleConnection (isWebSocket : Bool) (ip : Bytes) :
    (handleConnection isWebSocket ip w).reg = w.reg.connect := by
  unfold handleConnection Reg.connect
  rw [reg_updConn_eq _ _ (g := fun _ => { ({} : Conn).reg with live := true }) fun _ => rfl]
  rfl

theorem deliver_sat {c : ConnId} :
    Sat (fun _ => True) (fun w' => w'.reg = w.reg) (deliver c w) := by
  unfold deliver
  split
  · exact rfl
  · exact Sat.ite (fun _ => queuedCall_sat) fun _ => rfl

/-- the labels of an event -/
def EventLabel (env : Env) (w : World) : Event → Reg.SysLabel → Prop
  | .connect _ _, .connect => True
  | .line c line, .conn d l => d = c ∧ LineLabel env c line w l
  | .disconnect c, .disconnect d => d = c
  | _, _ => False

/-- **One event.**  Every event takes steps of the system on the registration view. -/
theorem step_chain {ev : Event} (h : step env w ev = .ok w') :
    ∃ ls, Chain Reg.SysStep ls w.reg w'.reg ∧ ∀ l ∈ ls, EventLabel env w ev l := by
  cases ev with
  | connect isWebSocket ip =>
    cases h
    refine ⟨[.connect], .one ?_, fun l hl => by rw [List.mem_singleton.mp hl]; trivial⟩
    rw [reg_handleConnection]
    exact .connect _
  | line c line =>
    have h : (if (w.conn c).live then parseIncoming env c line w else .ok w) = .ok w' := h
    by_cases hlive : (w.conn c).live = true
    · rw [if_pos hlive] at h
      obtain ⟨ls, hchain, hls, -⟩ := parseIncoming_sat.of_ok h
      refine ⟨ls.map (.conn c), Reg.chain_conn hchain hlive, fun l hl => ?_⟩
      obtain ⟨k, hk, rfl⟩ := List.mem_map.mp hl
      exact ⟨rfl, hls k hk⟩
    · rw [if_neg hlive] at h
      cases h
      exact ⟨[], .nil _, nofun⟩
  | deliver c =>
    have hreg : w'.reg = w.reg := deliver_sat.of_ok h
    exact ⟨[], hreg ▸ .nil _, nofun⟩
  | disconnect c =>
    cases h
    by_cases hlive : (w.conn c).live = true
    · rw [if_pos hlive]
      refine ⟨[.disconnect c], .one ?_, fun l hl => by rw [List.mem_singleton.mp hl]; rfl⟩
      rw [reg_onSocketDisconnected]
      exact .disconnect hlive
    · rw [if_neg hlive]
      exact ⟨[], .nil _, nofun⟩

theorem step_noHandlers {ev : Event} (hpy : w.NoHandlers) (h : step env w ev = .ok w') :
    w'.NoHandlers := by
  obtain ⟨ls, hchain, -⟩ := step_chain h
  have hsame : w'.reg.activeEvents = w.reg.activeEvents :=
    hchain.inv (I := fun r => r.activeEvents = w.reg.activeEvents) (P := fun _ => True)
      (fun _ _ _ _ hr hs => hs.activeEvents.trans hr) (fun _ _ => trivial) rfl
  exact hpy.of_activeEvents hsame

/-- a run keeps what the chain of every event that meets `C` keeps -/
theorem run_inv_of_events {I : Reg → Prop} {C : World → Event → Prop}
    (hI : ∀ w ev ls r', C w ev → I w.reg → Chain Reg.SysStep ls w.reg r' →
      (∀ l ∈ ls, EventLabel env w ev l) → I r') {evs : List Event} (h0 : I w.reg)
    (hC : AllSteps (step env) C w evs) (h : run (step env) w evs = .ok w') : I w'.reg := by
  refine run_inv (I := fun w => I w.reg) (fun w ev w' hw hc hs => ?_) h0 hC h
  obtain ⟨ls, hchain, hls⟩ := step_chain hs
  exact hI w ev ls _ hc hw hchain hls

/-- an invariant of the system's steps with these labels is one of a run whose events have them -/
theorem run_inv_of_steps {I : Reg → Prop} {C : World → Event → Prop} {P : Reg.SysLabel → Prop}
    (hP : ∀ w ev l, C w ev → EventLabel env w ev l → P l)
    (hI : ∀ l r r', P l → I r → Reg.SysStep l r r' → I r') {evs : List Event} (h0 : I w.reg)
    (hC : AllSteps (step env) C w evs) (h : run (step env) w evs = .ok w') : I w'.reg :=
  run_inv_of_events (fun w ev _ _ hc hw hchain hls =>
    hchain.inv hI (fun l hl => hP w ev l hc (hls l hl)) hw) h0 hC h

end

end Worker

end Chatripper
