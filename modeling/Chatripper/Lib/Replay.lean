import Mathlib

/-!
# Loops that make what is not there

A loop takes a state through the steps of a list of items.  Each step makes what its item asks for; a
step that finds it changes nothing of what is looked at.

* `foldl_makes`     after the loop everything is there;
* `foldl_leaves`    a loop that finds everything changes nothing.
-/

namespace Chatripper

section
variable {σ ι δ : Type*} {f : σ → ι → σ} {l : List ι}

theorem foldl_invariant {I : σ → Prop} (hI : ∀ s, ∀ x ∈ l, I s → I (f s x)) {s : σ} (hs : I s) :
    I (l.foldl f s) := by
  induction l generalizing s with
  | nil => exact hs
  | cons x l ih =>
    obtain ⟨hx, hl⟩ := List.forall_mem_cons.mp fun y hy => fun s => hI s y hy
    exact ih (fun s y hy => hl y hy s) (hx s hs)

/-- what an item asks for is there after its step, and stays -/
theorem foldl_makes {I : σ → Prop} {R : ι → σ → Prop} (hI : ∀ s, ∀ x ∈ l, I s → I (f s x))
    (hR : ∀ s, ∀ x ∈ l, I s → R x (f s x)) (hkeep : ∀ s x, ∀ y ∈ l, I s → R x s → R x (f s y)) {s : σ}
    (hs : I s) : ∀ x ∈ l, R x (l.foldl f s) := by
  induction l generalizing s with
  | nil =>
    intro x hx
    cases hx
  | cons y l ih =>
    have hy := hI s y List.mem_cons_self hs
    have htail : ∀ s, ∀ x ∈ l, I s → I (f s x) := fun s x hx => hI s x (List.mem_cons_of_mem _ hx)
    intro x hx
    rw [List.foldl_cons]
    rcases List.mem_cons.mp hx with rfl | hx
    · have hrest := foldl_invariant (I := fun s => I s ∧ R x s) (l := l) (f := f)
        (fun s z hz hs => ⟨htail s z hz hs.1, hkeep s x z (List.mem_cons_of_mem _ hz) hs.1 hs.2⟩)
        ⟨hy, hR s x List.mem_cons_self hs⟩
      exact hrest.2
    · exact ih htail (fun s x hx => hR s x (List.mem_cons_of_mem _ hx))
        (fun s x z hz => hkeep s x z (List.mem_cons_of_mem _ hz)) hy x hx

/-- a step that finds what its item asks for changes nothing -/
theorem foldl_leaves {J : σ → Prop} {v : σ → δ} {R : ι → δ → Prop}
    (hJ : ∀ s, ∀ x ∈ l, J s → J (f s x))
    (hsame : ∀ s, ∀ x ∈ l, J s → R x (v s) → v (f s x) = v s) {s : σ} (hs : J s)
    (hR : ∀ x ∈ l, R x (v s)) : v (l.foldl f s) = v s := by
  have hrun := foldl_invariant (I := fun t => J t ∧ v t = v s) (l := l) (f := f)
    (fun t x hx ht => ⟨hJ t x hx ht.1, by
      rw [hsame t x hx ht.1 (by rw [ht.2]; exact hR x hx), ht.2]⟩) ⟨hs, rfl⟩
  exact hrun.2

end

end Chatripper
