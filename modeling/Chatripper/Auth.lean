import Mathlib
import Chatripper.Irc.SetupSteps

/-!
# SASL PLAIN through a Python handler

While a handler of AUTH_SASL_PLAIN is active, `verifyPassword` lets the handler decide.  The event
starts un-cancelled, so the decision is refused only by an exception, by a missing interpreter and
by an event that comes back with `_cancel` written.

* `outcome_handler`     what a call returns is what an enabled handler returned, or None;
* `fail_closed_iff`     the login needs an approving handler if and only if the call does not end in
  None, in a value that is no event or in an event whose `_cancel` is set but not written back.
-/

namespace Chatripper
open ByteStr Utf8 Outcome

/-! ## the value of a call -/

/-- a call that returns something other than None returns what an enabled handler returned -/
theorem callLoop_handler (hs : List Handler) (o : PyObj) (result : CallResult) :
    awaited (QIRC.callLoop hs o result) = awaited (o, result) ∨
      ∃ h ∈ hs, h.owner = some true ∧ ∃ o', awaited (QIRC.callLoop hs o result) = h.body o' := by
  induction hs generalizing o result with
  | nil => exact Or.inl rfl
  | cons h hs ih =>
    have hlater (o1 : PyObj) (result1 : CallResult) (hr : awaited (o1, result1) = awaited (o, result) ∨
        (h.owner = some true ∧ ∃ o', awaited (o1, result1) = h.body o')) :
        awaited (QIRC.callLoop hs o1 result1) = awaited (o, result) ∨
          ∃ k ∈ h :: hs, k.owner = some true ∧
            ∃ o', awaited (QIRC.callLoop hs o1 result1) = k.body o' := by
      rcases ih o1 result1 with he | ⟨k, hk, hon, o', he⟩
      · rw [he]
        rcases hr with hr | ⟨hon, o', hr⟩
        · exact Or.inl hr
        · exact Or.inr ⟨h, List.mem_cons_self, hon, o', hr⟩
      · exact Or.inr ⟨k, List.mem_cons_of_mem _ hk, hon, o', he⟩
    unfold QIRC.callLoop
    split
    · exact hlater o result (Or.inl rfl)
    · exact hlater o result (Or.inl rfl)
    · next hon =>
      split
      · exact hlater o (.coroutine h.body) (Or.inr ⟨hon, o, rfl⟩)
      · split
        · next o' he => exact Or.inr ⟨h, List.mem_cons_self, hon, o, he.symm⟩
        · next o' he => exact Or.inr ⟨h, List.mem_cons_self, hon, o, he.symm⟩
        · next o' r _ _ he => exact hlater o' (.ret r) (Or.inr ⟨hon, o, he.symm⟩)

theorem outcome_handler (q : QIRC) (a : QEventAuthUser) :
    (q.outcome .AUTH_SASL_PLAIN a).2 = .none ∨ ∃ h ∈ q.handlers .AUTH_SASL_PLAIN,
      h.owner = some true ∧ ∃ o, q.outcome .AUTH_SASL_PLAIN a = h.body o := by
  unfold QIRC.outcome QIRC.call
  rcases callLoop_handler (q.handlers .AUTH_SASL_PLAIN) (Gadget.toPy a) (.ret .none) with he | he
  · left
    rw [he]
    rfl
  · exact Or.inr he

/-! ## the event that comes back -/

def PyObj.cancelled (o : PyObj) : Bool := (o.attr "_cancel").toBool? == some true

/-- `_cancel` is an annotated field and dirty -/
def PyObj.writesCancel (o : PyObj) : Bool := o.annotations.contains "_cancel" && o.dirty "_cancel"

def returnedEvent : PyObj × PyReturn → Option PyObj
  | (o, .passed) => some o
  | (_, .object p) => some p
  | _ => none

/-- the flag of an event whose `_cancel` property writes it and no other property does -/
theorem update_cancel {α : Type} [Gadget α] {cancel : α → Bool}
    (hwrite : ∀ f v a, cancel (Gadget.write f v a) =
      if f = "_cancel" then v.toBool?.getD (cancel a) else cancel a) (a : α) (o : PyObj) :
    cancel (updateGadgetFromPyDataclass a o) =
      if o.annotations.contains "_cancel" && (o.dirty "_cancel" || Gadget.isVariantMap α "_cancel")
      then (o.attr "_cancel").toBool?.getD (cancel a) else cancel a := by
  unfold updateGadgetFromPyDataclass
  induction o.annotations generalizing a with
  | nil => rfl
  | cons f fs ih =>
    rw [List.foldl_cons, ih]
    by_cases hf : f = "_cancel"
    · subst hf
      by_cases hd : (o.dirty "_cancel" || Gadget.isVariantMap α "_cancel") = true
      · rw [if_pos hd, hwrite, if_pos rfl]
        cases (o.attr "_cancel").toBool? <;> simp [hd]
      · simp [hd]
    · have hstep : cancel (if o.dirty f || Gadget.isVariantMap α f then
          Gadget.write f (o.attr f) a else a) = cancel a := by
        split
        · rw [hwrite, if_neg hf]
        · rfl
      have hc : (f :: fs).contains "_cancel" = fs.contains "_cancel" := by
        simp [Ne.symm hf]
      rw [hstep, hc]

/-- an event that was un-cancelled comes back cancelled when `_cancel` is set and written back -/
theorem cancel_writeBack {a : QEventAuthUser} (ha : a.cancel = false) (o : PyObj) :
    (updateGadgetFromPyDataclass a o).cancel = (o.writesCancel && o.cancelled) := by
  have hmap : Gadget.isVariantMap QEventAuthUser "_cancel" = false := rfl
  have hupdate := @update_cancel QEventAuthUser _ (fun e => e.cancel) authUser_cancel a o
  rw [hupdate, ha, hmap, Bool.or_false]
  unfold PyObj.writesCancel PyObj.cancelled
  split
  · next h =>
    rw [h, Bool.true_and]
    cases (o.attr "_cancel").toBool? with
    | none => rfl
    | some b => cases b <;> rfl
  · next h =>
    rw [Bool.not_eq_true] at h
    rw [h]
    rfl

/-! ## who decided -/

/-- how the Python call that an event would now make ends; nothing without an interpreter -/
def pyOutcome (w : World) (a : QEventAuthUser) : Option (PyObj × PyReturn) :=
  (w.snakepit.target .AUTH_SASL_PLAIN).1.bind fun s =>
    s.interp.map fun q => q.outcome .AUTH_SASL_PLAIN a

/-- an enabled handler of the chosen interpreter ran last and returned an event that is not
cancelled -/
def Approved (w : World) (a : QEventAuthUser) : Prop :=
  ∃ s q h o p, (w.snakepit.target .AUTH_SASL_PLAIN).1 = some s ∧ s.interp = some q ∧
    h ∈ q.handlers .AUTH_SASL_PLAIN ∧ h.owner = some true ∧
    q.outcome .AUTH_SASL_PLAIN a = h.body o ∧ returnedEvent (h.body o) = some p ∧
    p.cancelled = false

/-- the call ends in None or in a value that is no event, or in a cancelled event whose `_cancel`
is not written back -/
def FailsOpen (w : World) (a : QEventAuthUser) : Prop :=
  match pyOutcome w a with
  | none => False
  | some (_, .raised) => False
  | some (_, .none) => True
  | some (_, .plain) => True
  | some (o, .passed) => o.cancelled = true ∧ o.writesCancel = false
  | some (_, .object p) => p.cancelled = true ∧ p.writesCancel = false

/-- approval is the return of an un-cancelled event -/
theorem approved_iff {w : World} {a : QEventAuthUser} :
    Approved w a ↔ ∃ out p, pyOutcome w a = some out ∧ returnedEvent out = some p ∧
      p.cancelled = false := by
  unfold pyOutcome
  constructor
  · rintro ⟨s, q, h, o, p, hs, hq, -, -, he, hp, hcancel⟩
    refine ⟨h.body o, p, ?_, hp, hcancel⟩
    rw [hs, ← he]
    show (s.interp.map _) = _
    rw [hq]
    rfl
  · rintro ⟨out, p, hout, hp, hcancel⟩
    obtain ⟨s, hs, hout⟩ := Option.bind_eq_some_iff.mp hout
    obtain ⟨q, hq, rfl⟩ := Option.map_eq_some_iff.mp hout
    rcases outcome_handler q a with hnone | ⟨h, hh, hon, o, he⟩
    · exfalso
      cases hr : q.outcome .AUTH_SASL_PLAIN a with
      | mk o r =>
        rw [hr] at hp hnone
        cases hnone
        cases hp
    · exact ⟨s, q, h, o, p, hs, hq, hh, hon, he, he ▸ hp, hcancel⟩

/-- with a handler active, the verdict is that of the event that comes back, or a refusal -/
theorem verifyPassword_event {env : Env} {acc : AccId} {a : QEventAuthUser} {w : World}
    (hstored : (w.acc acc).m_password ≠ []) (hpass : a.password ≠ [])
    (hactive : w.snakepit.hasEventHandler .AUTH_SASL_PLAIN = true) :
    (Account.verifyPassword env acc a w).1.cancel =
      ((w.event .AUTH_SASL_PLAIN a).1.map fun r => r.cancel).getD true := by
  unfold Account.verifyPassword
  rw [if_neg (by rintro (h | h); exacts [hpass h, hstored h]), if_pos hactive]
  cases w.event .AUTH_SASL_PLAIN a with
  | mk r w1 =>
    cases r with
    | none => rfl
    | some r => rfl

/-- is the event un-cancelled after a call that ended like this -/
def Uncancelled : Option (PyObj × PyReturn) → Bool
  | none => false
  | some (_, .raised) => false
  | some (_, .none) => true
  | some (_, .plain) => true
  | some (o, .passed) => !(o.writesCancel && o.cancelled)
  | some (_, .object p) => !(p.writesCancel && p.cancelled)

theorem writeBack_cancel {a : QEventAuthUser} (ha : a.cancel = false) (out : PyObj × PyReturn) :
    ((writeBack a out).map fun r => r.cancel).getD true = !Uncancelled (some out) := by
  obtain ⟨o, r⟩ := out
  cases r with
  | raised => rfl
  | none => exact ha
  | plain => exact ha
  | passed =>
    show (updateGadgetFromPyDataclass a o).cancel = !(!(o.writesCancel && o.cancelled))
    rw [cancel_writeBack ha, Bool.not_not]
  | object p =>
    show (updateGadgetFromPyDataclass a p).cancel = !(!(p.writesCancel && p.cancelled))
    rw [cancel_writeBack ha, Bool.not_not]

theorem event_cancel {a : QEventAuthUser} {w : World} (ha : a.cancel = false) :
    ((w.event .AUTH_SASL_PLAIN a).1.map fun r => r.cancel).getD true =
      !Uncancelled (pyOutcome w a) := by
  have he : (w.event .AUTH_SASL_PLAIN a).1 =
      (w.snakepit.target .AUTH_SASL_PLAIN).1.bind fun s =>
        s.interp.bind fun q => writeBack a (q.outcome .AUTH_SASL_PLAIN a) := rfl
  rw [he]
  unfold pyOutcome
  cases (w.snakepit.target .AUTH_SASL_PLAIN).1 with
  | none => rfl
  | some s =>
    rw [Option.bind_some, Option.bind_some]
    cases s.interp with
    | none => rfl
    | some q => exact writeBack_cancel ha _

/-- an event is left un-cancelled by an approving handler and by nothing else, unless the call fails
open -/
theorem uncancelled_iff {a : QEventAuthUser} {w : World} :
    Uncancelled (pyOutcome w a) = true ↔ Approved w a ∨ FailsOpen w a := by
  rw [approved_iff]
  unfold FailsOpen
  cases pyOutcome w a with
  | none => simp [Uncancelled]
  | some out =>
    obtain ⟨o, r⟩ := out
    cases r with
    | raised => simp [Uncancelled, returnedEvent]
    | none => simp [Uncancelled, returnedEvent]
    | plain => simp [Uncancelled, returnedEvent]
    | passed =>
      cases hc : o.cancelled <;> cases hw : o.writesCancel <;>
        simp [Uncancelled, returnedEvent, hc, hw]
    | object p =>
      cases hc : p.cancelled <;> cases hw : p.writesCancel <;>
        simp [Uncancelled, returnedEvent, hc, hw]

/-- an approved call does not fail open -/
theorem not_failsOpen_of_approved {a : QEventAuthUser} {w : World} (h : Approved w a) :
    ¬ FailsOpen w a := by
  obtain ⟨⟨o, r⟩, p, hout, hp, hcancel⟩ := approved_iff.mp h
  unfold FailsOpen
  rw [hout]
  cases r with
  | passed => cases hp; simp [hcancel]
  | object p => cases hp; simp [hcancel]
  | raised => cases hp
  | none => cases hp
  | plain => cases hp

namespace client_connection
open World

section
variable {env : Env} {c : ConnId} {args : List Bytes} {arg authz username password : Bytes}
  {acc : AccId} {w : World}

/-- a response with three parts is a login attempt -/
theorem handleAUTHENTICATE_plain (harg : args.head? = some arg) (hplain : arg ≠ ascii "PLAIN")
    (hcred : saslPlain arg = [authz, username, password]) :
    handleAUTHENTICATE env c args w = .ok (authenticate env c username password w) := by
  cases args with
  | nil => cases harg
  | cons x rest =>
    cases harg
    unfold handleAUTHENTICATE
    rw [if_neg (List.cons_ne_nil _ _)]
    show (if arg = ascii "PLAIN" then _ else _) = _
    rw [if_neg hplain, hcred]
    rfl

/-- an attempt sets `logged_in` exactly when the event comes back un-cancelled -/
theorem logged_in_authenticate (hacc : Account.get_by_name w username = some acc) :
    ((authenticate env c username password w).conn c).logged_in =
      if (Account.verifyPassword env acc (authEvent c username password w) w).1.cancel then
        (w.conn c).logged_in else true := by
  have hreg := Account.reg_verifyPassword env acc (authEvent c username password w) w
  unfold authenticate
  rw [hacc]
  unfold authEvent at hreg ⊢
  dsimp only
  cases hv : Account.verifyPassword env acc
    { username := username, password := password, ip := (w.conn c).ip } w with
  | mk auth w1 =>
    rw [hv] at hreg
    show ((if auth.cancel = true then _ else _ : World).conn c).logged_in = _
    by_cases hc : auth.cancel = true
    · rw [if_pos hc, if_pos hc]
      refine congrArg ConnReg.logged_in (World.reg_conn_eq ?_ c)
      rw [reg_forceDisconnect, reg_reply_num]
      exact hreg
    · rw [if_neg hc, if_neg hc]
      show (if c = c then _ else _ : Conn).logged_in = true
      rw [if_pos rfl]

/-- **SASL through a handler.**  For every attempt with non-empty passwords while a handler is
active, an un-cancelled event means that an enabled handler approved, and any other outcome leaves
`logged_in` alone, if and only if the Python call does not fail open. -/
theorem sasl_fail_closed_iff (hactive : w.snakepit.hasEventHandler .AUTH_SASL_PLAIN = true)
    (harg : args.head? = some arg) (hplain : arg ≠ ascii "PLAIN")
    (hcred : saslPlain arg = [authz, username, password])
    (hacc : Account.get_by_name w username = some acc) (hstored : (w.acc acc).m_password ≠ [])
    (hpass : password ≠ []) :
    ((Account.verifyPassword env acc (authEvent c username password w) w).1.cancel = false →
        Approved w (authEvent c username password w)) ∧
      (∃ w', handleAUTHENTICATE env c args w = .ok w' ∧
        (¬ Approved w (authEvent c username password w) →
          (w'.conn c).logged_in = (w.conn c).logged_in)) ↔
    ¬ FailsOpen w (authEvent c username password w) := by
  have hcancel : (Account.verifyPassword env acc (authEvent c username password w) w).1.cancel =
      !Uncancelled (pyOutcome w (authEvent c username password w)) :=
    (verifyPassword_event hstored hpass hactive).trans (event_cancel rfl)
  constructor
  · rintro ⟨happroved, -⟩ hopen
    refine not_failsOpen_of_approved (happroved ?_) hopen
    rw [hcancel, uncancelled_iff.mpr (Or.inr hopen)]
    rfl
  · intro hclosed
    have happroved : (Account.verifyPassword env acc (authEvent c username password w) w).1.cancel =
        false → Approved w (authEvent c username password w) := by
      intro h
      rw [hcancel, Bool.not_eq_false'] at h
      exact (uncancelled_iff.mp h).resolve_right hclosed
    refine ⟨happroved, _, handleAUTHENTICATE_plain harg hplain hcred, fun hnot => ?_⟩
    rw [logged_in_authenticate hacc, if_pos (Bool.of_not_eq_false fun h => hnot (happroved h))]

end

/-! ## a handler that falls off its end -/

/-- one interpreter with one enabled handler -/
def handledBy (body : PyObj → PyObj × PyReturn) : SnakePit :=
  { m_activeEvents := Flags.set ⟨0⟩ .AUTH_SASL_PLAIN
    m_snakes := [⟨some ⟨fun _ => [{ owner := some true, body := body }]⟩⟩] }

/-- the account bob with a password -/
def bobWorld (body : PyObj → PyObj × PyReturn) : World :=
  { World.empty with
    acc := fun _ => { m_name := ascii "bob", m_password := ascii "hash" }
    ctx := { accounts_lookup_name := (∅ : QHash Bytes AccId).insert (ascii "bob") 0 }
    snakepit := handledBy body }

/-- the handler sets the reason and returns nothing -/
theorem sasl_none_logs_in :
    ∃ w', handleAUTHENTICATE Env.ascii 0 [ascii "AGJvYgBw"] (bobWorld fun o => (o, .none)) = .ok w' ∧
      ¬ Approved (bobWorld fun o => (o, .none))
        (authEvent 0 (ascii "bob") (ascii "p") (bobWorld fun o => (o, .none))) ∧
      (w'.conn 0).logged_in = true := by
  refine ⟨_, rfl, ?_, rfl⟩
  rw [approved_iff]
  rintro ⟨out, p, hout, hp, -⟩
  cases hout
  cases hp

theorem sasl_fail_closed_iff_raised :
    ((Account.verifyPassword Env.ascii 0 (authEvent 0 (ascii "bob") (ascii "p")
          (bobWorld fun o => (o, .raised))) (bobWorld fun o => (o, .raised))).1.cancel = false →
        Approved (bobWorld fun o => (o, .raised))
          (authEvent 0 (ascii "bob") (ascii "p") (bobWorld fun o => (o, .raised)))) ∧
      (∃ w', handleAUTHENTICATE Env.ascii 0 [ascii "AGJvYgBw"] (bobWorld fun o => (o, .raised)) =
          .ok w' ∧
        (¬ Approved (bobWorld fun o => (o, .raised))
            (authEvent 0 (ascii "bob") (ascii "p") (bobWorld fun o => (o, .raised))) →
          (w'.conn 0).logged_in = ((bobWorld fun o => (o, .raised)).conn 0).logged_in)) ↔
    ¬ FailsOpen (bobWorld fun o => (o, .raised))
      (authEvent 0 (ascii "bob") (ascii "p") (bobWorld fun o => (o, .raised))) :=
  sasl_fail_closed_iff rfl rfl (by decide)
    (show saslPlain _ = [[], ascii "bob", ascii "p"] by decide)
    (show Account.get_by_name _ _ = some 0 from rfl) (by decide) (by decide)

end client_connection

end Chatripper
