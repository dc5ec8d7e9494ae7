import Mathlib

/-!
# Bit flags of an enumeration

A `Flags E` is a 32-bit word with one bit for each constant of `E`.  The class `FlagEnum` holds
what makes an enumeration usable: each constant is a distinct power of two that fits the word.
`set`, `clear`, `has` and `empty` are the bit operations; `has_set`, `has_clear` and `empty_iff`
say that the word is the set of the constants whose bit is on.
-/

/-- an enumeration whose constants are distinct bits of a 32-bit word -/
class FlagEnum (E : Type) where
  bit : E → Nat
  bit_lt : ∀ e, bit e < 32
  bit_inj : ∀ e e', bit e = bit e' → e = e'

structure Flags (E : Type) where
  bits : BitVec 32 := 0
  deriving DecidableEq

namespace Flags

section
variable {E : Type} [FlagEnum E]

/-- `static_cast<T>(e)` -/
def mask (e : E) : BitVec 32 := BitVec.twoPow 32 (FlagEnum.bit e)

def set (f : Flags E) (e : E) : Flags E := ⟨f.bits ||| mask e⟩

def clear (f : Flags E) (e : E) : Flags E := ⟨f.bits &&& ~~~ mask e⟩

def has (f : Flags E) (e : E) : Bool := (f.bits &&& mask e) != 0

def empty (f : Flags E) : Bool := f.bits == 0

/-- the variadic `set` -/
def setAll (f : Flags E) (es : List E) : Flags E := es.foldl set f

theorem has_eq (f : Flags E) (e : E) : f.has e = f.bits.getLsbD (FlagEnum.bit e) := by
  unfold has mask
  rw [BitVec.and_twoPow]
  have hlt := FlagEnum.bit_lt e
  split
  · next h =>
    rw [h, bne_iff_ne]
    intro h0
    have := congrArg (fun x : BitVec 32 => x.getLsbD (FlagEnum.bit e)) h0
    simp [hlt] at this
  · next h => simpa using h

theorem getLsbD_set (f : Flags E) (e : E) (i : Nat) :
    (f.set e).bits.getLsbD i = (f.bits.getLsbD i || decide (i = FlagEnum.bit e)) := by
  have hlt := FlagEnum.bit_lt e
  show (f.bits ||| mask e).getLsbD i = _
  rw [BitVec.getLsbD_or, mask, BitVec.getLsbD_twoPow]
  by_cases h : i = FlagEnum.bit e
  · subst h; simp [hlt]
  · simp [h, Ne.symm h]

theorem getLsbD_clear (f : Flags E) (e : E) (i : Nat) :
    (f.clear e).bits.getLsbD i = (f.bits.getLsbD i && !decide (i = FlagEnum.bit e)) := by
  show (f.bits &&& ~~~ mask e).getLsbD i = _
  rw [BitVec.getLsbD_and, BitVec.getLsbD_not, mask, BitVec.getLsbD_twoPow]
  by_cases hi : i < 32
  · have hlt := FlagEnum.bit_lt e
    by_cases h : i = FlagEnum.bit e
    · subst h; simp [hlt]
    · simp [h, Ne.symm h, hi]
  · simp [BitVec.getLsbD_of_ge f.bits i (by omega)]

theorem bit_eq_iff (e e' : E) : FlagEnum.bit e = FlagEnum.bit e' ↔ e = e' :=
  ⟨FlagEnum.bit_inj e e', congrArg FlagEnum.bit⟩

theorem has_set [DecidableEq E] (f : Flags E) (e e' : E) :
    (f.set e).has e' = (f.has e' || decide (e' = e)) := by
  rw [has_eq, has_eq, getLsbD_set]
  simp only [bit_eq_iff]

theorem has_clear [DecidableEq E] (f : Flags E) (e e' : E) :
    (f.clear e).has e' = (f.has e' && !decide (e' = e)) := by
  rw [has_eq, has_eq, getLsbD_clear]
  simp only [bit_eq_iff]

theorem clear_comm (f : Flags E) (e e' : E) : (f.clear e).clear e' = (f.clear e').clear e := by
  unfold clear
  congr 1
  rw [BitVec.and_assoc, BitVec.and_comm (~~~ mask e), ← BitVec.and_assoc]

/-- no bit outside the constants -/
def Within (f : Flags E) : Prop := ∀ i, f.bits.getLsbD i = true → ∃ e : E, FlagEnum.bit e = i

theorem within_zero : Within (⟨0⟩ : Flags E) := by
  intro i h
  simp at h

theorem Within.set {f : Flags E} (h : f.Within) (e : E) : (f.set e).Within := by
  intro i hi
  rw [getLsbD_set] at hi
  rcases Bool.or_eq_true_iff.mp hi with hi | hi
  · exact h i hi
  · exact ⟨e, (of_decide_eq_true hi).symm⟩

theorem Within.clear {f : Flags E} (h : f.Within) (e : E) : (f.clear e).Within := by
  intro i hi
  rw [getLsbD_clear, Bool.and_eq_true] at hi
  exact h i hi.1

theorem not_has_of_empty {f : Flags E} (h : f.empty = true) (e : E) : f.has e = false := by
  have h0 : f.bits = 0 := by simpa [empty] using h
  rw [has_eq, h0]
  simp

theorem empty_iff {f : Flags E} (h : f.Within) : f.empty = true ↔ ∀ e : E, f.has e = false := by
  constructor
  · exact not_has_of_empty
  · intro hn
    have h0 : f.bits = 0 := by
      apply BitVec.eq_of_getLsbD_eq
      intro i _
      show f.bits.getLsbD i = (0#32).getLsbD i
      rw [BitVec.getLsbD_zero]
      by_contra hi
      obtain ⟨e, rfl⟩ := h i (by simpa using hi)
      rw [← has_eq, hn e] at hi
      exact hi rfl
    simp [empty, h0]

end

end Flags
