import Mathlib

/-!
# Changes of one sign

Items are applied to a state one after the other.  Each can turn one bit of the state, and every item
turns its bit to the same value.

* `Turns`             what an item does to the bits;
* `turned`            the bits that the items have turned, in the order in which they did it;
* `mem_turned`        these are the bits that differ in the end;
* `Turns.value`       and what they are then;
* `foldl_eq_self`     when nothing is turned.
-/

section
variable {σ ι E : Type}

/-- an item leaves the bits of the others alone, and turns its own to `b` or not at all -/
structure Turns (has : σ → E → Bool) (bit : ι → E) (apply : σ → ι → σ) (b : Bool) : Prop where
  other : ∀ s i e, e ≠ bit i → has (apply s i) e = has s e
  own : ∀ s i, has (apply s i) (bit i) = has s (bit i) ∨ has (apply s i) (bit i) = b

/-- the bits of the items that have turned theirs -/
def turned (has : σ → E → Bool) (bit : ι → E) (apply : σ → ι → σ) : σ → List ι → List E
  | _, [] => []
  | s, i :: is =>
    if has s (bit i) = has (apply s i) (bit i) then turned has bit apply (apply s i) is
    else bit i :: turned has bit apply (apply s i) is

theorem turned_cons {has : σ → E → Bool} {bit : ι → E} {apply : σ → ι → σ} (s : σ) (i : ι)
    (is : List ι) : turned has bit apply s (i :: is) =
      turned has bit apply s [i] ++ turned has bit apply (apply s i) is := by
  simp only [turned]
  split <;> rfl

namespace Turns
variable {has : σ → E → Bool} {bit : ι → E} {apply : σ → ι → σ} {b : Bool}
  (h : Turns has bit apply b)
include h

theorem step (s : σ) (i : ι) (e : E) : has (apply s i) e = has s e ∨ has (apply s i) e = b := by
  by_cases he : e = bit i
  · rw [he]
    exact h.own s i
  · exact .inl (h.other s i e he)

/-- a bit that is `b` stays `b` -/
theorem stays {s : σ} {e : E} (hb : has s e = b) (is : List ι) : has (is.foldl apply s) e = b := by
  induction is generalizing s with
  | nil => exact hb
  | cons i is ih =>
    apply ih
    rcases h.step s i e with hs | hs
    · rw [hs, hb]
    · exact hs

/-- a bit that differs in the end is `b` -/
theorem value {s : σ} {e : E} {is : List ι} (hne : has s e ≠ has (is.foldl apply s) e) :
    has (is.foldl apply s) e = b := by
  induction is generalizing s with
  | nil => exact absurd rfl hne
  | cons i is ih =>
    rcases h.step s i e with hs | hs
    · rw [← hs] at hne
      exact ih hne
    · exact h.stays hs is

theorem mem_turned {s : σ} {e : E} {is : List ι} :
    e ∈ turned has bit apply s is ↔ has s e ≠ has (is.foldl apply s) e := by
  induction is generalizing s with
  | nil => exact ⟨fun he => absurd he List.not_mem_nil, fun hne => absurd rfl hne⟩
  | cons i is ih =>
    rw [List.foldl_cons]
    unfold turned
    by_cases hsame : has s (bit i) = has (apply s i) (bit i)
    · -- nothing is turned by `i`
      rw [if_pos hsame, ih]
      by_cases he : e = bit i
      · rw [he, ← hsame]
      · rw [h.other s i e he]
    · rw [if_neg hsame, List.mem_cons, ih]
      have hb : has (apply s i) (bit i) = b := (h.own s i).resolve_left fun hs => hsame hs.symm
      by_cases he : e = bit i
      · -- the bit that `i` turns is turned for good
        rw [he]
        refine iff_of_true (.inl rfl) ?_
        rw [h.stays hb is, ← hb]
        exact hsame
      · rw [h.other s i e he]
        exact or_iff_right he

theorem nodup_turned (s : σ) (is : List ι) : (turned has bit apply s is).Nodup := by
  induction is generalizing s with
  | nil => exact List.nodup_nil
  | cons i is ih =>
    unfold turned
    by_cases hsame : has s (bit i) = has (apply s i) (bit i)
    · rw [if_pos hsame]
      exact ih _
    · rw [if_neg hsame]
      refine List.nodup_cons.mpr ⟨fun hmem => ?_, ih _⟩
      have hb : has (apply s i) (bit i) = b := (h.own s i).resolve_left fun hs => hsame hs.symm
      have hne := h.mem_turned.mp hmem
      rw [h.stays hb is, hb] at hne
      exact hne rfl

section
variable (hown : ∀ s i, has (apply s i) (bit i) = b) (hsame : ∀ s i, has s (bit i) = b → apply s i = s)
include hown

/-- the bit of an item is `b` in the end, if items do turn their bits -/
theorem reaches {s : σ} {is : List ι} {i : ι} (hi : i ∈ is) :
    has (is.foldl apply s) (bit i) = b := by
  obtain ⟨front, back, rfl⟩ := List.append_of_mem hi
  rw [List.foldl_append, List.foldl_cons]
  exact h.stays (hown _ i) back

include hsame

/-- nothing changes just when the bits of the items are `b` -/
theorem foldl_eq_self {s : σ} {is : List ι} :
    is.foldl apply s = s ↔ ∀ i ∈ is, has s (bit i) = b := by
  constructor
  · intro heq i hi
    rw [← heq]
    exact h.reaches hown hi
  · intro hall
    induction is with
    | nil => rfl
    | cons i is ih =>
      rw [List.foldl_cons, hsame s i (hall i List.mem_cons_self)]
      exact ih fun j hj => hall j (List.mem_cons_of_mem i hj)

theorem turned_eq_nil {s : σ} {is : List ι} :
    turned has bit apply s is = [] ↔ is.foldl apply s = s := by
  rw [List.eq_nil_iff_forall_not_mem]
  constructor
  · intro hnone
    apply (h.foldl_eq_self hown hsame).mpr
    intro i hi
    have heq : has s (bit i) = has (is.foldl apply s) (bit i) :=
      not_not.mp fun hne => hnone _ (h.mem_turned.mpr hne)
    rw [heq]
    exact h.reaches hown hi
  · intro heq e he
    have hne := h.mem_turned.mp he
    rw [heq] at hne
    exact hne rfl

end

end Turns

end
