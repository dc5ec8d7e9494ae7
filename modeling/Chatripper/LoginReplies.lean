import Mathlib
import Chatripper.Links

/-!
# What a 903 promises

The replies 900 and 903 are sent whatever became of the account of the connection: `merge` takes the
connections over, but the connection keeps the account that it had.

* `login_sent`        an accepted login sends the 900 of its user, and the 903;
* `login_binds_iff`   after a 903 the connection has the account that was named in the 900.
-/

namespace Chatripper
open ByteStr Outcome

namespace client_connection
open World

/-- the data sent between two states -/
def sentSince (w w' : World) : List (ConnId × Bytes) := w'.out.drop w.out.length

/-- the text of a numeric reply -/
def numericText (w : World) (c : ConnId) (numeric text : Bytes) : Bytes :=
  numeric ++ ascii " " ++ (if w.nick c = [] then ascii "*" else w.nick c) ++ ascii " :" ++ text

section
variable (env : Env) (c : ConnId) (w w' : World)

/-- 903 was sent -/
def Replies903 : Prop := ∃ rest, (c, rawLine env (ascii "903" ++ rest)) ∈ sentSince w w'

/-- the success of `username` was replied -/
def RepliesTo (username : Bytes) : Prop :=
  sentSince w w' =
    [(c, rawLine env (numericText w' c (ascii "900") (ascii "You are now logged in as " ++ username))),
      (c, rawLine env (numericText w' c (ascii "903") (ascii "SASL authentication successful")))]

/-- with a 903 the connection is logged in and has the account that the 900 names, else it is as
before -/
structure LoginBinds : Prop where
  bound : Replies903 env c w w' → (w'.conn c).logged_in = true ∧ ∃ username a,
    RepliesTo env c w w' username ∧ Account.get_by_name w username = some a ∧
      (w'.conn c).m_account = some a
  unbound : ¬Replies903 env c w w' → (w'.conn c).m_account = (w.conn c).m_account ∧
    (w'.conn c).logged_in = (w.conn c).logged_in

end

section
variable {env : Env} {c : ConnId} {args : List Bytes} {username : Bytes} {a : AccId} {w w1 w' : World}

theorem sentSince_append {l : List (ConnId × Bytes)} (h : w'.out = w.out ++ l) :
    sentSince w w' = l := by
  unfold sentSince
  rw [h, List.drop_left]

/-- the user of a success can be read off its 900 -/
theorem RepliesTo.user {username' : Bytes} (h : RepliesTo env c w w' username)
    (h' : RepliesTo env c w w' username') : username = username' := by
  have he := h.symm.trans h'
  rw [List.cons.injEq, Prod.mk.injEq] at he
  have hline := rawLine_inj he.1.2
  unfold numericText at hline
  exact List.append_cancel_left (List.append_cancel_left hline)

/-- a line that is no 903 -/
theorem Answered.not_replies903 (h : Answered env c (ascii "903") w w') : ¬Replies903 env c w w' := by
  rintro ⟨rest, hmem⟩
  obtain ⟨line, hout, hne⟩ := h
  rw [sentSince_append hout, List.mem_singleton, Prod.mk.injEq] at hmem
  apply hne
  rw [← rawLine_inj hmem.2]
  rfl

theorem nick_logged : (w.updConn c fun k => { k with logged_in := true }).nick c = w.nick c := by
  unfold nick
  rw [updConn_conn, if_pos rfl]
  rfl

/-- what a merge does not touch -/
theorem out_merge {b : AccId} : (Account.merge a b w).out = w.out := by
  unfold Account.merge
  split
  · rfl
  · exact foldl_keeps (v := World.out)
      (fun (w : World) conn => (rfl : (Account.add_connection a conn w).out = w.out)) _ w

/-- what is sent once the account is bound -/
theorem out_logged (text text' : Bytes) :
    ((reply_num env c 903 text' (reply_num env c 900 text w)).updConn c fun k =>
      { k with logged_in := true }).out =
    w.out ++ [(c, rawLine env (numericText w c (ascii "900") text)),
      (c, rawLine env (numericText w c (ascii "903") text'))] :=
  List.append_assoc _ _ _

/-- an accepted login is answered with success -/
theorem login_sent (hout : w1.out = w.out) : RepliesTo env c w (login env c a username w1) username := by
  refine sentSince_append ?_
  unfold login
  extract_lets w2 w3 w4
  have hw2 : w2.out = w.out := by
    rw [← hout]
    unfold w2
    cases (w1.conn c).m_account with
    | none => rfl
    | some b => exact out_merge
  have hnick : numericText (w4.updConn c fun k => { k with logged_in := true }) c = numericText w2 c := by
    unfold numericText
    rw [nick_logged]
    rfl
  rw [hnick, ← hw2]
  exact out_logged _ _

/-- what an accepted login leaves on the connection -/
theorem login_conn_self : ((login env c a username w).conn c).logged_in = true ∧
    ((login env c a username w).conn c).m_account = some ((w.conn c).m_account.getD a) := by
  have hconn : ((login env c a username w).conn c).reg = (w.reg.login c a).conn c := by
    have h := congrArg (fun r => Reg.conn r c) (reg_login env c a username w)
    refine h.trans ?_
    split
    · rfl
    · split <;> rfl
  have hself : (w.reg.login c a).conn c =
      { (w.conn c).reg with m_account := (w.conn c).m_account.getD a, logged_in := true } := if_pos rfl
  rw [hself] at hconn
  exact ⟨congrArg ConnReg.logged_in hconn, congrArg ConnReg.m_account hconn⟩

/-- **A login binds the connection**, if and only if the connection has no account yet or is already
bound to the one that is proved. -/
theorem login_binds_iff : (∃ w', handleAUTHENTICATE env c args w = .ok w' ∧ LoginBinds env c w w') ↔
    ∀ a, provenAccount env c args w = some a →
      (w.conn c).m_account = none ∨ (w.conn c).m_account = some a := by
  obtain ⟨w', hw', ⟨hnone, hreg, -, hanswer⟩ | ⟨a, u, w1, hproven, hname, hreg, -, hout, rfl⟩⟩ :=
    handleAUTHENTICATE_cases env c args w
  · have hconn := reg_conn_eq hreg c
    refine iff_of_true ⟨w', hw', fun h => absurd h hanswer.not_replies903, fun _ => ?_⟩ ?_
    · exact ⟨congrArg ConnReg.m_account hconn, congrArg ConnReg.logged_in hconn⟩
    · intro a ha
      rw [hnone] at ha
      cases ha
  · have hsent : RepliesTo env c w (login env c a u w1) u := login_sent hout
    have h903 : Replies903 env c w (login env c a u w1) := by
      refine ⟨_, hsent ▸ List.mem_cons_of_mem _ (List.mem_singleton.mpr (Prod.ext rfl ?_))⟩
      show rawLine env _ = rawLine env (numericText _ c (ascii "903") _)
      unfold numericText
      simp only [List.append_assoc]
    have haccount : ((login env c a u w1).conn c).m_account = some ((w.conn c).m_account.getD a) := by
      rw [login_conn_self.2]
      exact congrArg (fun k => some (k.m_account.getD a)) (reg_conn_eq hreg c)
    constructor
    · rintro ⟨w', he, h⟩ a' ha'
      rw [hw'] at he
      cases he
      rw [hproven] at ha'
      cases ha'
      obtain ⟨-, username, b, huser, hb, hbound⟩ := h.bound h903
      rw [← hsent.user huser, hname] at hb
      cases hb
      rw [haccount] at hbound
      cases hold : (w.conn c).m_account with
      | none => exact .inl rfl
      | some old =>
        rw [hold] at hbound
        exact .inr hbound
    · intro hcond
      refine ⟨_, hw', fun _ => ⟨login_conn_self.1, u, a, hsent, hname, ?_⟩, fun h => absurd h903 h⟩
      rw [haccount]
      rcases hcond a hproven with hold | hold <;> rw [hold] <;> rfl

end
end client_connection

namespace Worker
open client_connection World

set_option maxRecDepth 4000 in
/-- who is on line as eve proves to own bob, and is told so -/
theorem late_login_unbound : ∃ w w', run (step Env.ascii) bobServer (registration 0 false "eve") = .ok w ∧
    handleAUTHENTICATE Env.ascii 0 [ascii "AGJvYgBw"] w = .ok w' ∧ ¬LoginBinds Env.ascii 0 w w' := by
  rw [run_registered eve_letsIn]
  refine ⟨_, _, rfl, rfl, fun h => ?_⟩
  obtain ⟨-, username, a, -, hname, hbound⟩ :=
    h.bound (not_not.mp fun hnot => by cases (h.unbound hnot).2)
  cases hbound
  -- the only name is that of bob, who is account 0
  change ((∅ : QHash Bytes AccId).insert (ascii "bob") 0)[username]? = some 1 at hname
  rw [lookup_insert] at hname
  split at hname
  · cases hname
  · simp at hname

end Worker
end Chatripper
