import Mathlib

/-!
# The locks that one thread takes

Read-write locks that are not recursive: a thread that asks to write under a lock that it holds, or
to read under one that it holds for writing, waits for itself.  Nobody else holds any.

* `run`             the requests of a thread, until one is not granted;
* `Calm`            requests for objects of a kind only, each granted and given back in the end;
* `Calm.within`     requests for objects that are not of the kind of a held one.
-/

namespace Locks

inductive Mode where
  | read | write
  deriving DecidableEq

inductive Act (O : Type) where
  | lock (o : O) (m : Mode)
  | unlock (o : O)

/-- what a thread holds, the last lock first -/
abbrev Held (O : Type) := List (O × Mode)

section
variable {O : Type} [DecidableEq O]

def granted (held : Held O) (o : O) : Mode → Bool
  | .write => held.all fun h => h.1 != o
  | .read => held.all fun h => h.1 != o || h.2 == .read

/-- what is held after some requests; nothing when one of them is never granted -/
def run : List (Act O) → Held O → Option (Held O)
  | [], held => some held
  | .lock o m :: acts, held => if granted held o m then run acts ((o, m) :: held) else none
  | .unlock o :: acts, held => run acts (held.eraseP fun h => h.1 == o)

/-- a lock around some requests -/
def within (o : O) (m : Mode) (acts : List (Act O)) : List (Act O) := .lock o m :: acts ++ [.unlock o]

/-- no lock that is held is asked for in write mode -/
def NeverRewrites (acts : List (Act O)) : Prop :=
  ∀ pre o post held, acts = pre ++ .lock o .write :: post → run pre [] = some held →
    ∀ m, (o, m) ∉ held

/-- the requests are for objects of a kind, and leave what is held as it was -/
def Calm (kind : O → Prop) (acts : List (Act O)) : Prop :=
  ∀ held : Held O, (∀ h ∈ held, ¬kind h.1) → run acts held = some held

theorem granted_of_not_held {held : Held O} {o : O} (h : ∀ x ∈ held, x.1 ≠ o) (m : Mode) :
    granted held o m = true := by
  cases m with
  | read => exact List.all_eq_true.mpr fun x hx => by simp [h x hx]
  | write => exact List.all_eq_true.mpr fun x hx => by simp [h x hx]

/-- a held lock is not granted for writing -/
theorem not_granted_write {held : Held O} {o : O} {m : Mode} (h : (o, m) ∈ held) :
    granted held o .write = false := by
  refine Bool.eq_false_iff.mpr fun hall => ?_
  have hne := List.all_eq_true.mp hall (o, m) h
  simp at hne

/-- a lock that is held for writing is not granted -/
theorem not_granted {held : Held O} {o : O} (h : (o, .write) ∈ held) (m : Mode) :
    granted held o m = false := by
  cases m with
  | write => exact not_granted_write h
  | read =>
    refine Bool.eq_false_iff.mpr fun hall => ?_
    have hne := List.all_eq_true.mp hall (o, .write) h
    simp at hne

theorem run_append (a b : List (Act O)) (held : Held O) :
    run (a ++ b) held = (run a held).bind fun held' => run b held' := by
  induction a generalizing held with
  | nil => rfl
  | cons act a ih =>
    cases act with
    | lock o m =>
      rw [List.cons_append, run, run]
      split
      · exact ih _
      · rfl
    | unlock o => exact ih _

/-- requests that are all granted ask for no held lock in write mode -/
theorem neverRewrites_of_run {acts : List (Act O)} (h : (run acts []).isSome = true) :
    NeverRewrites acts := by
  rintro pre o post held rfl hpre m hmem
  rw [run_append, hpre, Option.bind_some, run, not_granted_write hmem, if_neg Bool.false_ne_true] at h
  cases h

/-! ## requests that are granted -/

section
variable {kind kind' : O → Prop} {a b acts : List (Act O)} {o : O}

theorem Calm.nil : Calm kind ([] : List (Act O)) := fun _ _ => rfl

theorem Calm.append (ha : Calm kind a) (hb : Calm kind b) : Calm kind (a ++ b) := by
  intro held h
  rw [run_append, ha held h]
  exact hb held h

theorem Calm.mono (hk : ∀ o, kind o → kind' o) (h : Calm kind acts) : Calm kind' acts :=
  fun held hheld => h held fun x hx hkind => hheld x hx (hk _ hkind)

/-- a lock of the kind around requests for objects of another -/
theorem Calm.within (m : Mode) (ho : kind o) (hsub : ∀ x, kind' x → kind x) (hout : ¬kind' o)
    (h : Calm kind' acts) : Calm kind (within o m acts) := by
  intro held hheld
  have hfree : ∀ x ∈ held, x.1 ≠ o := by
    rintro x hx rfl
    exact hheld x hx ho
  have hinner : run acts ((o, m) :: held) = some ((o, m) :: held) := by
    refine h _ fun x hx hkind => ?_
    rcases List.mem_cons.mp hx with rfl | hx
    · exact hout hkind
    · exact hheld x hx (hsub _ hkind)
  unfold Locks.within
  rw [List.cons_append, run, granted_of_not_held hfree, if_pos rfl, run_append, hinner]
  show some (List.eraseP _ ((o, m) :: held)) = some held
  rw [List.eraseP_cons_of_pos (by simp)]

/-- a lock that is taken and given back -/
theorem Calm.single (m : Mode) (ho : kind o) : Calm kind (Locks.within o m []) := by
  have hnil : Calm (fun _ : O => False) ([] : List (Act O)) := .nil
  exact hnil.within m ho (fun _ h => h.elim) id

theorem Calm.flatMap {α : Type} {l : List α} {f : α → List (Act O)} (h : ∀ x ∈ l, Calm kind (f x)) :
    Calm kind (l.flatMap f) := by
  induction l with
  | nil => exact Calm.nil
  | cons x l ih =>
    obtain ⟨hx, hl⟩ := List.forall_mem_cons.mp h
    rw [List.flatMap_cons]
    exact hx.append (ih hl)

/-- a thread that holds nothing gets all that it asks for -/
theorem Calm.run_eq (h : Calm kind acts) : run acts [] = some [] :=
  h [] fun _ hx => absurd hx List.not_mem_nil

/-- a lock that is asked for inside of itself -/
theorem run_rewrite {held : Held O} (m : Mode) (ha : run a [(o, Mode.write)] = some held)
    (ho : (o, Mode.write) ∈ held) (rest : List (Act O)) :
    run (Locks.within o .write (a ++ .lock o m :: rest)) [] = none := by
  unfold Locks.within
  rw [List.cons_append, run, granted_of_not_held (fun _ hx => absurd hx List.not_mem_nil), if_pos rfl,
    List.append_assoc, run_append, ha, Option.bind_some, List.cons_append, run, not_granted ho,
    if_neg Bool.false_ne_true]

/-- at once -/
theorem run_nested (m : Mode) (rest : List (Act O)) :
    run (Locks.within o .write (.lock o m :: rest)) [] = none :=
  run_rewrite (a := []) m rfl (List.mem_singleton.mpr rfl) rest

end
end
end Locks
