import Mathlib
import Chatripper.Core.World

/-!
# Flags are sets

A `Flags E` stands for the set of the constants whose bits are on.  A program starts with none and
calls `set` and `clear` with one constant or more; on sets these calls add and take away.

* `members_call`       a call does to the word what it does to the set;
* `mem_onSets_iff`     a constant is in the set if the last call that names it adds it;
* `flags_refine_sets`  what `has`, `empty` and `==` say after any calls.
-/

namespace Chatripper

/-- a call of the variadic `set` or `clear` -/
inductive FlagCall (E : Type) where
  | set (e : E) (es : List E)
  | clear (e : E) (es : List E)

namespace FlagCall

section
variable {E : Type}

/-! ## calls on sets -/

def named : FlagCall E → List E
  | .set e es => e :: es
  | .clear e es => e :: es

def adds : FlagCall E → Bool
  | .set _ _ => true
  | .clear _ _ => false

def onSet (s : Set E) (call : FlagCall E) : Set E :=
  if call.adds then s ∪ {e | e ∈ call.named} else s \ {e | e ∈ call.named}

/-- the set after calls, from the empty one -/
def onSets (calls : List (FlagCall E)) : Set E := calls.foldl onSet ∅

/-- the last call that names a constant adds it -/
def LastAdds (e : E) (calls : List (FlagCall E)) : Prop :=
  ∃ front call back, calls = front ++ call :: back ∧ e ∈ call.named ∧ call.adds = true ∧
    ∀ c ∈ back, e ∉ c.named

theorem lastAdds_named {e : E} {calls : List (FlagCall E)} {call : FlagCall E}
    (h : e ∈ call.named) : LastAdds e (calls ++ [call]) ↔ call.adds = true := by
  constructor
  · rintro ⟨front, last, back, he, -, hadds, hback⟩
    rcases List.eq_nil_or_concat' back with rfl | ⟨back, c, rfl⟩
    · obtain ⟨-, rfl⟩ := List.append_singleton_inj.mp he
      exact hadds
    · rw [← List.cons_append, ← List.append_assoc] at he
      obtain ⟨-, rfl⟩ := List.append_singleton_inj.mp he
      exact absurd h (hback _ List.mem_concat_self)
  · intro hadds
    exact ⟨calls, call, [], rfl, h, hadds, fun c hc => absurd hc List.not_mem_nil⟩

theorem lastAdds_unnamed {e : E} {calls : List (FlagCall E)} {call : FlagCall E}
    (h : e ∉ call.named) : LastAdds e (calls ++ [call]) ↔ LastAdds e calls := by
  constructor
  · rintro ⟨front, last, back, he, hlast, hadds, hback⟩
    rcases List.eq_nil_or_concat' back with rfl | ⟨back, c, rfl⟩
    · obtain ⟨-, rfl⟩ := List.append_singleton_inj.mp he
      exact absurd hlast h
    · rw [← List.cons_append, ← List.append_assoc] at he
      obtain ⟨rfl, rfl⟩ := List.append_singleton_inj.mp he
      exact ⟨front, last, back, rfl, hlast, hadds, fun x hx => hback x (List.mem_append_left _ hx)⟩
  · rintro ⟨front, last, back, rfl, hlast, hadds, hback⟩
    refine ⟨front, last, back ++ [call], by simp, hlast, hadds, fun x hx => ?_⟩
    rcases List.mem_append.mp hx with hx | hx
    · exact hback x hx
    · rw [List.mem_singleton.mp hx]
      exact h

theorem mem_onSet {e : E} {s : Set E} {call : FlagCall E} :
    e ∈ onSet s call ↔ if call.adds then e ∈ s ∨ e ∈ call.named else e ∈ s ∧ e ∉ call.named := by
  unfold onSet
  split
  · exact Iff.rfl
  · exact Iff.rfl

/-- **The last call decides.** -/
theorem mem_onSets_iff {e : E} {calls : List (FlagCall E)} :
    e ∈ onSets calls ↔ LastAdds e calls := by
  induction calls using List.reverseRecOn with
  | nil =>
    refine iff_of_false (Set.notMem_empty e) ?_
    rintro ⟨front, call, back, he, -⟩
    simp at he
  | append_singleton calls call ih =>
    unfold onSets at ih ⊢
    rw [List.foldl_append, List.foldl_cons, List.foldl_nil, mem_onSet, ih]
    by_cases hnamed : e ∈ call.named
    · rw [lastAdds_named hnamed]
      simp [hnamed]
    · rw [lastAdds_unnamed hnamed]
      simp [hnamed]

end

/-! ## calls on words -/

section
variable {E : Type} [FlagEnum E]

/-- the constants whose bits are on -/
def members (f : Flags E) : Set E := {e | f.has e = true}

/-- each of the constants is set or cleared, one after the other -/
def call (f : Flags E) : FlagCall E → Flags E
  | .set e es => f.setAll (e :: es)
  | .clear e es => (e :: es).foldl Flags.clear f

/-- the word after calls, from `Flags(0)` -/
def flagsAfter (calls : List (FlagCall E)) : Flags E := calls.foldl call ⟨0⟩

/-- `operator==` -/
def equal (f g : Flags E) : Bool := f.bits == g.bits

theorem mem_foldl_set {e : E} {f : Flags E} {es : List E} :
    e ∈ members (es.foldl Flags.set f) ↔ e ∈ members f ∨ e ∈ es := by
  classical
  induction es generalizing f with
  | nil => simp
  | cons x es ih =>
    have hset : e ∈ members (f.set x) ↔ e ∈ members f ∨ e = x := by
      simp [members, Flags.has_set]
    rw [List.foldl_cons, ih, hset, List.mem_cons, or_assoc]

theorem mem_foldl_clear {e : E} {f : Flags E} {es : List E} :
    e ∈ members (es.foldl Flags.clear f) ↔ e ∈ members f ∧ e ∉ es := by
  classical
  induction es generalizing f with
  | nil => simp
  | cons x es ih =>
    have hclear : e ∈ members (f.clear x) ↔ e ∈ members f ∧ e ≠ x := by
      simp [members, Flags.has_clear]
    rw [List.foldl_cons, ih, hclear, List.mem_cons, not_or, and_assoc]

/-- **One call.** -/
theorem members_call (f : Flags E) (c : FlagCall E) : members (call f c) = onSet (members f) c := by
  ext e
  rw [mem_onSet]
  cases c with
  | set x es => exact mem_foldl_set
  | clear x es => exact mem_foldl_clear

/-- no call turns on a bit that is no constant -/
theorem within_call {f : Flags E} (h : f.Within) (c : FlagCall E) : (call f c).Within := by
  have hset (es : List E) {f : Flags E} (h : f.Within) : (es.foldl Flags.set f).Within := by
    induction es generalizing f with
    | nil => exact h
    | cons x es ih => exact ih (h.set x)
  have hclear (es : List E) {f : Flags E} (h : f.Within) : (es.foldl Flags.clear f).Within := by
    induction es generalizing f with
    | nil => exact h
    | cons x es ih => exact ih (h.clear x)
  cases c with
  | set x es => exact hset _ h
  | clear x es => exact hclear _ h

/-- **Any calls.**  The word stands for the set, and has no other bit. -/
theorem flagsAfter_refines (calls : List (FlagCall E)) :
    members (flagsAfter calls) = onSets calls ∧ (flagsAfter calls).Within := by
  induction calls using List.reverseRecOn with
  | nil =>
    refine ⟨?_, Flags.within_zero⟩
    ext e
    exact iff_of_false (fun h => absurd ((Flags.not_has_of_empty rfl e).symm.trans h) nofun)
      (Set.notMem_empty e)
  | append_singleton calls c ih =>
    unfold flagsAfter onSets at ih ⊢
    rw [List.foldl_append, List.foldl_append]
    exact ⟨(members_call _ c).trans (congrArg (onSet · c) ih.1), within_call ih.2 c⟩

/-- two words without other bits are equal when they have the same constants -/
theorem equal_iff {f g : Flags E} (hf : f.Within) (hg : g.Within) :
    equal f g = true ↔ members f = members g := by
  unfold equal
  rw [beq_iff_eq]
  constructor
  · intro h
    ext e
    show f.has e = true ↔ g.has e = true
    rw [Flags.has_eq, Flags.has_eq, h]
  · intro h
    have hbit (e : E) : f.bits.getLsbD (FlagEnum.bit e) = g.bits.getLsbD (FlagEnum.bit e) := by
      rw [← Flags.has_eq, ← Flags.has_eq]
      exact Bool.eq_iff_iff.mpr (Set.ext_iff.mp h e)
    apply BitVec.eq_of_getLsbD_eq
    intro i _
    by_cases hi : ∃ e : E, FlagEnum.bit e = i
    · obtain ⟨e, rfl⟩ := hi
      exact hbit e
    · -- a bit that is no constant is off in both
      rw [Bool.eq_false_iff.mpr fun h => hi (hf i h), Bool.eq_false_iff.mpr fun h => hi (hg i h)]

/-- **Flags are sets.**  A constant is in a word if the last call that names it is a `set`, a word is
empty if that is so of no constant, and two words are equal if it is so of the same constants. -/
theorem flags_refine_sets (calls calls' : List (FlagCall E)) :
    (∀ e, (flagsAfter calls).has e = true ↔ LastAdds e calls) ∧
      ((flagsAfter calls).empty = true ↔ ∀ e, ¬ LastAdds e calls) ∧
      (equal (flagsAfter calls) (flagsAfter calls') = true ↔
        ∀ e, LastAdds e calls ↔ LastAdds e calls') := by
  obtain ⟨hmembers, hwithin⟩ := flagsAfter_refines calls
  obtain ⟨hmembers', hwithin'⟩ := flagsAfter_refines calls'
  have hhas (e : E) : (flagsAfter calls).has e = true ↔ LastAdds e calls := by
    rw [← mem_onSets_iff, ← hmembers]
    exact Iff.rfl
  refine ⟨hhas, ?_, ?_⟩
  · rw [Flags.empty_iff hwithin]
    exact forall_congr' fun e => Bool.eq_false_iff.trans (not_congr (hhas e))
  · rw [equal_iff hwithin hwithin', hmembers, hmembers', Set.ext_iff]
    exact forall_congr' fun e => iff_congr mem_onSets_iff mem_onSets_iff

end

/-- the tasks of a new connection -/
example : flagsAfter [.set .CAP_EXCHANGE [.NICK, .USER]] = ({} : Conn).setup_tasks := rfl

end FlagCall

end Chatripper
