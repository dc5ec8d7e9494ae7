import Mathlib
import Chatripper.Irc.SetupSteps

/-!
# What is sent stays sent

No computation makes the list of sent lines shorter.  A setup that is finished makes it longer by more
than one line.

* `KeepsSent`        a computation takes nothing back;
* `greeted_grows`    the greeting of a new connection.
-/

namespace Chatripper
open ByteStr Utf8 Outcome

/-- the computation takes back nothing that was sent -/
abbrev KeepsSent (w : World) (r : Except Fault World) : Prop :=
  Sat (fun _ => True) (fun w' => w.out.length ≤ w'.out.length) r

theorem KeepsSent.trans {w w1 : World} {r : Except Fault World} (h : w.out.length ≤ w1.out.length)
    (hr : KeepsSent w1 r) : KeepsSent w r := hr.mono (fun _ he => he) fun _ h' => h.trans h'

namespace client_connection
open World

section
variable {env : Env} {c : ConnId} {w : World}

theorem emit_grows (c : ConnId) (data : Bytes) : w.out.length ≤ (w.emit c data).out.length := by
  show _ ≤ (w.out ++ [(c, data)]).length
  rw [List.length_append]
  exact Nat.le_add_right _ _

theorem length_reply_num (code : Nat) (text : Bytes) :
    (reply_num env c code text w).out.length = w.out.length + 1 := List.length_append

theorem joinReplies_grows (ch : ChanId) (account_nick : Bytes) :
    w.out.length ≤ (joinReplies env c ch account_nick w).out.length := by
  unfold joinReplies
  dsimp only
  refine le_trans ?_ (emit_grows _ _)
  refine le_trans ?_ (emit_grows _ _)
  split
  · exact emit_grows _ _
  · exact emit_grows _ _

theorem channel_join_grows {ev : QEventChannelJoin} : KeepsSent w (channel_join env c ev w) := by
  unfold channel_join
  split
  · exact Nat.le_refl _
  · next ch _ =>
    dsimp only
    refine Sat.ite (fun _ => Sat.bind_any fun a => ?_) fun _ => ?_
    · exact emit_grows (w := w) c _
    · refine Sat.ite (fun _ => Nat.le_refl _) fun _ => ?_
      refine le_trans ?_ (joinReplies_grows ch (w.nick c))
      exact emit_grows (w := w.updConn c _) c _

theorem userModeChange_grows (adding : Bool) (letters : Bytes) :
    w.out.length ≤ (userModeChange env c adding letters w).out.length := by
  have hwalk : (letters.foldl (userModeStep c adding) { world := w }).world.out = w.out := by
    refine foldl_keeps (v := fun s : ModeWalk => s.world.out) (fun s letter => ?_) letters _
    unfold userModeStep
    split <;> rfl
  unfold userModeChange
  dsimp only
  rw [← hwalk]
  split
  · exact emit_grows _ _
  · split
    · exact emit_grows _ _
    · exact emit_grows _ _

theorem channelModeChange_grows {target : Bytes} {adding : Bool} {letters : Bytes}
    {args : List Bytes} : KeepsSent w (channelModeChange env c target adding letters args w) := by
  unfold channelModeChange
  split
  · exact emit_grows _ _
  · next ch _ =>
    have hwalk : Sat (fun _ => True) (fun s : ModeWalk => s.world.out = w.out)
        (letters.foldlM (channelModeStep ch adding args) { world := w }) :=
      channelModeWalk_keeps (fun _ _ _ _ _ => rfl) ch letters
    refine hwalk.bind fun s hs => ?_
    rw [← hs]
    refine Sat.ite (fun _ => emit_grows _ _) fun _ => Sat.ite (fun _ => ?_) fun _ => emit_grows _ _
    exact Nat.le_refl _

/-- MODE with the letters to change -/
theorem handleMODE_grows (target requested : Bytes) :
    KeepsSent w (handleMODE env c [target, requested] w) := by
  have hban : w.out.length ≤ (banQuery env c target w).out.length := by
    unfold banQuery
    split <;> exact emit_grows _ _
  unfold handleMODE
  show KeepsSent w (if startsWithHash target = true ∧ requested = ascii "b" then _ else _)
  refine Sat.ite (fun _ => hban) fun _ => ?_
  cases requested with
  | nil => exact emit_grows _ _
  | cons sign letters =>
    refine Sat.ite (fun _ => emit_grows _ _) fun _ => ?_
    refine Sat.ite (fun _ => userModeChange_grows _ _) fun _ => ?_
    exact Sat.ite (fun _ => channelModeChange_grows) fun _ => emit_grows _ _

end

end client_connection

namespace Channel
open World client_connection

section
variable {env : Env} {ch : ChanId} {w : World}

theorem join_grows {ev : QEventChannelJoin} : KeepsSent w (join env ch ev w) := by
  have hhook : (w.consult .CHANNEL_JOIN (·.cancel) ev).2.out = w.out := by
    unfold consult event
    split
    · split <;> next he => exact congrArg (fun p => p.2.out) he.symm
    · rfl
  have hadd (ptr : Option ChanId) (a : AccId) (w1 : World) : (addMember ch ptr a w1).out = w1.out := by
    unfold addMember
    split <;> rfl
  refine join_keeps (Nat.le_refl _) (Nat.le_of_eq (congrArg List.length hhook.symm)) ?_
    (fun _ _ _ _ h => h) fun conn ev' w1 h => KeepsSent.trans h channel_join_grows
  intro ptr a w1 h
  rw [hadd]
  exact h

end

end Channel

namespace client_connection
open World

section
variable {env : Env} {c : ConnId} {w : World}

theorem rejoin_grows {a : AccId} : KeepsSent w (rejoin env a w) :=
  Sat.foldlM (Nat.le_refl _) fun _ _ _ h => Sat.bind_any fun _ => KeepsSent.trans h Channel.join_grows

theorem isupportLines_grows (account_nick : Bytes) :
    w.out.length ≤ (isupportLines env c account_nick w).out.length := by
  have hstep (base : Bytes) (s : Bytes × World) (it : Bytes × Bytes) :
      s.2.out.length ≤ (isupportStep env c base s it).2.out.length := by
    unfold isupportStep
    dsimp only
    split
    · exact emit_grows _ _
    · exact Nat.le_refl _
  have hfold := foldl_grows (v := fun s : Bytes × World => s.2.out.length)
    (hstep (ascii "005 " ++ account_nick ++ ascii " ")) env.server.isupport
    (ascii "005 " ++ account_nick ++ ascii " ", w)
  unfold isupportLines
  dsimp only
  split
  · exact hfold
  · exact le_trans hfold (emit_grows _ _)

theorem handleMOTD_grows : w.out.length ≤ (handleMOTD env c w).out.length := by
  unfold handleMOTD
  dsimp only
  refine le_trans ?_ (emit_grows _ _)
  refine le_trans (emit_grows c _) (foldl_grows (v := fun w : World => w.out.length) ?_ _ _)
  intro w rawLine
  exact foldl_grows (v := fun w : World => w.out.length) (fun w chunk => emit_grows _ _) _ w

/-- the greeting is more than one line -/
theorem welcomeLines_grows (account_nick : Bytes) :
    w.out.length + 2 ≤ (welcomeLines env c account_nick w).out.length := by
  unfold welcomeLines
  dsimp only
  refine le_trans ?_ handleMOTD_grows
  refine le_trans ?_ (le_trans (emit_grows c _) (emit_grows c _))
  refine le_trans ?_ (isupportLines_grows account_nick)
  refine le_trans ?_ (Nat.le_of_eq (length_reply_num _ _).symm)
  rw [length_reply_num, length_reply_num]
  show _ ≤ (reply_num env c 1 _ w).out.length + 1 + 1 + 1
  rw [length_reply_num]
  omega

theorem enrol_grows : w.out.length ≤ (enrol c w).2.out.length := by
  have hobtain : (obtainAccount c w).2.out = w.out := by
    unfold obtainAccount
    split <;> rfl
  unfold enrol syncNick
  dsimp only
  show _ ≤ (if _ then _ else _ : World).out.length
  rw [← hobtain]
  split
  · exact Nat.le_refl _
  · exact emit_grows (w := (obtainAccount c w).2.updConn c _) c _

/-- a setup that is finished sends more than one line -/
theorem greeted_grows :
    Sat (fun _ => True) (fun w' : World => w.out.length + 2 ≤ w'.out.length)
      (greet env c (enrol c w).1 (enrol c w).2) := by
  have henrol : w.out.length ≤ (enrol c w).2.out.length := enrol_grows
  have hwelcome : w.out.length + 2 ≤
      (welcomeLines env c ((enrol c w).2.accNick (enrol c w).1) (enrol c w).2).out.length :=
    le_trans (Nat.add_le_add_right henrol 2) (welcomeLines_grows _)
  unfold greet markRegistered
  refine Sat.bind (Q := fun w' : World => w.out.length + 2 ≤ w'.out.length) ?_ fun w1 h1 => ?_
  · refine Sat.ite (fun _ => ?_) fun _ => hwelcome
    exact (handleMODE_grows _ _).mono (fun _ he => he) fun _ h => le_trans hwelcome h
  · exact rejoin_grows.mono (fun _ he => he) fun _ h => le_trans h1 h

end

end client_connection

end Chatripper
