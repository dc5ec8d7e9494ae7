import Mathlib

/-!
# Feistel networks

A block has two halves.  A round mixes a function of the first half into the second, and the halves
change places.  The function of a round need not be invertible; mixing the same value in twice has to
give back the half.

* `rounds_reverse`     the rounds in the opposite order, on the halves exchanged, undo a network;
* `network_reverse`    the same with the ends mixed with values of their own.
-/

namespace Feistel

section
variable {α : Type} {mix : α → α → α}

/-- mixing a value in a second time takes it out -/
def Cancels (mix : α → α → α) : Prop := ∀ a b, mix (mix a b) b = a

def round (mix : α → α → α) (f : α → α) (x : α × α) : α × α := (mix x.2 (f x.1), x.1)

/-- the rounds of the functions `fs`, the first of them first -/
def rounds (mix : α → α → α) (fs : List (α → α)) (x : α × α) : α × α :=
  fs.foldl (fun x f => round mix f x) x

theorem rounds_nil (x : α × α) : rounds mix [] x = x := rfl

theorem rounds_cons (f : α → α) (fs : List (α → α)) (x : α × α) :
    rounds mix (f :: fs) x = rounds mix fs (round mix f x) := rfl

theorem rounds_append (fs gs : List (α → α)) (x : α × α) :
    rounds mix (fs ++ gs) x = rounds mix gs (rounds mix fs x) := by
  unfold rounds
  rw [List.foldl_append]

theorem round_swap (h : Cancels mix) (f : α → α) (x : α × α) :
    round mix f (round mix f x).swap = x.swap := by
  show (mix (mix x.2 (f x.1)) (f x.1), x.1) = (x.2, x.1)
  rw [h]

theorem rounds_reverse (h : Cancels mix) (fs : List (α → α)) (x : α × α) :
    rounds mix fs.reverse (rounds mix fs x).swap = x.swap := by
  induction fs generalizing x with
  | nil => rfl
  | cons f fs ih =>
    rw [rounds_cons, List.reverse_cons, rounds_append, ih, rounds_cons, rounds_nil]
    exact round_swap h f x

/-- rounds between two values that are mixed into the first half before and after -/
def network (mix : α → α → α) (fs : List (α → α)) (before after : α) (x : α × α) : α × α :=
  let y := rounds mix fs (mix x.1 before, x.2)
  (mix y.2 after, y.1)

theorem network_reverse (h : Cancels mix) (fs : List (α → α)) (before after : α) (x : α × α) :
    network mix fs.reverse after before (network mix fs before after x) = x := by
  have hrev := rounds_reverse h fs (mix x.1 before, x.2)
  unfold network
  dsimp only
  rw [h, show (_, _) = (rounds mix fs (mix x.1 before, x.2)).swap from rfl, hrev]
  exact Prod.ext (h _ _) rfl

end

end Feistel
