import Mathlib
import Chatripper.Lib.Outcome

/-!
# Two computations side by side

`Both R x y` says that two computations end alike: with results that `R` relates, or with the same
fault.  The rules follow the shape of the computations, and `run_both` is induction over two runs that
take the same events; in `run_prune` the second run leaves some out.
-/

namespace Outcome

section
variable {ε α β γ δ σ τ ι : Type}

def Both (R : α → β → Prop) : Except ε α → Except ε β → Prop
  | .ok a, .ok b => R a b
  | .error e, .error e' => e = e'
  | _, _ => False

theorem Both.mono {R R' : α → β → Prop} {x : Except ε α} {y : Except ε β} (h : Both R x y)
    (hR : ∀ a b, R a b → R' a b) : Both R' x y := by
  cases x with
  | ok a =>
    cases y with
    | ok b => exact hR a b h
    | error e => exact h
  | error e =>
    cases y with
    | ok b => exact h
    | error e' => exact h

theorem Both.bind {R : α → β → Prop} {S : γ → δ → Prop} {x : Except ε α} {y : Except ε β}
    {f : α → Except ε γ} {g : β → Except ε δ} (h : Both R x y)
    (hfg : ∀ a b, R a b → Both S (f a) (g b)) : Both S (x >>= f) (y >>= g) := by
  cases x with
  | ok a =>
    cases y with
    | ok b => exact hfg a b h
    | error e => exact h.elim
  | error e =>
    cases y with
    | ok b => exact h.elim
    | error e' => exact h

theorem Both.ite {R : α → β → Prop} {c : Prop} [Decidable c] {x x' : Except ε α} {y y' : Except ε β}
    (h : c → Both R x y) (h' : ¬ c → Both R x' y') :
    Both R (if c then x else x') (if c then y else y') := by
  by_cases hc : c
  · rw [if_pos hc, if_pos hc]
    exact h hc
  · rw [if_neg hc, if_neg hc]
    exact h' hc

theorem Both.of_ok {R : α → β → Prop} {x : Except ε α} {y : Except ε β} {a : α} (h : Both R x y)
    (hx : x = .ok a) : ∃ b, y = .ok b ∧ R a b := by
  rw [hx] at h
  cases y with
  | ok b => exact ⟨b, rfl, h⟩
  | error e => exact h.elim

theorem Both.and_sat {R : α → β → Prop} {E E' : ε → Prop} {Q : α → Prop} {Q' : β → Prop}
    {x : Except ε α} {y : Except ε β} (h : Both R x y) (hx : Sat E Q x) (hy : Sat E' Q' y) :
    Both (fun a b => R a b ∧ Q a ∧ Q' b) x y := by
  cases x with
  | ok a =>
    cases y with
    | ok b => exact ⟨h, hx, hy⟩
    | error e => exact h.elim
  | error e =>
    cases y with
    | ok b => exact h.elim
    | error e' => exact h

/-- **Two runs.**  What a step keeps of a relation between the states, the runs keep. -/
theorem run_both {f : σ → ι → Except ε σ} {g : τ → ι → Except ε τ} {C : σ → ι → Prop}
    {R : σ → τ → Prop} (hstep : ∀ s t i, R s t → C s i → Both R (f s i) (g t i)) {s : σ} {t : τ}
    {is : List ι} (h : R s t) (hC : AllSteps f C s is) : Both R (run f s is) (run g t is) := by
  induction is generalizing s t with
  | nil => exact h
  | cons i is ih =>
    obtain ⟨hi, hC⟩ := hC
    rw [run_cons, run_cons]
    have hone := hstep s t i h hi
    cases hs : f s i with
    | ok s' =>
      obtain ⟨t', ht, h'⟩ := hone.of_ok hs
      rw [ht]
      exact ih h' (hC s' hs)
    | error e =>
      rw [hs] at hone
      cases ht : g t i with
      | ok t' =>
        rw [ht] at hone
        exact hone.elim
      | error e' =>
        rw [ht] at hone
        exact hone

/-- the events of a run without those that are not kept, each looked at in the state that it finds -/
def prune (step : σ → ι → Except ε σ) (keep : σ → ι → Bool) : σ → List ι → List ι
  | _, [] => []
  | s, i :: is =>
    let rest := match step s i with
      | .ok s' => prune step keep s' is
      | .error _ => []
    if keep s i then i :: rest else rest

/-- **A pruned run** goes alongside, when a kept event keeps the relation and a dropped one keeps it
with the other side standing still. -/
theorem run_prune {step : σ → ι → Except ε σ} {keep : σ → ι → Bool} {C : σ → ι → Prop}
    {R : σ → σ → Prop}
    (hkept : ∀ s t i, R s t → C s i → keep s i = true → Both R (step s i) (step t i))
    (hdropped : ∀ s t i s', R s t → C s i → keep s i = false → step s i = .ok s' → R s' t)
    {s t s' : σ} {is : List ι} (h : R s t) (hC : AllSteps step C s is)
    (hrun : run step s is = .ok s') :
    ∃ t', run step t (prune step keep s is) = .ok t' ∧ R s' t' := by
  induction is generalizing s t with
  | nil =>
    cases hrun
    exact ⟨t, rfl, h⟩
  | cons i is ih =>
    obtain ⟨hi, hC⟩ := hC
    rw [run_cons] at hrun
    obtain ⟨s1, hs1, hrun⟩ := bind_eq_ok.mp hrun
    unfold prune
    dsimp only
    rw [hs1]
    dsimp only
    cases hkeep : keep s i with
    | true =>
      obtain ⟨t1, ht1, h1⟩ := (hkept s t i h hi hkeep).of_ok hs1
      obtain ⟨t', ht', h'⟩ := ih h1 (hC s1 hs1) hrun
      refine ⟨t', ?_, h'⟩
      rw [if_pos rfl, run_cons, ht1]
      exact ht'
    | false =>
      rw [if_neg Bool.false_ne_true]
      exact ih (hdropped s t i s1 h hi hkeep hs1) (hC s1 hs1) hrun

end

end Outcome
