import Mathlib

/-!
# Following a value that changes

A change is a pair of the value before and the value after.  A reader has a value of its own and applies
the changes that start from it.

* `LeadsTo`       changes one after the other, the last one to a value;
* `follow_self`   a reader that has the last value already keeps it.
-/

namespace Changes

section
variable {α : Type}

/-- where the changes start, or `y` -/
def start (y : α) (es : List (α × α)) : α := es.head?.elim y Prod.fst

/-- every change starts where the one before ends, and the last one ends in `y` -/
def LeadsTo (y : α) : List (α × α) → Prop
  | [] => True
  | e :: es => e.2 = start y es ∧ LeadsTo y es

theorem LeadsTo.concat {x : α} {es : List (α × α)} (h : LeadsTo x es) (y : α) :
    LeadsTo y (es ++ [(x, y)]) := by
  induction es with
  | nil => exact ⟨rfl, trivial⟩
  | cons e es ih =>
    refine ⟨?_, ih h.2⟩
    rw [h.1]
    cases es with
    | nil => rfl
    | cons f es => rfl

variable [DecidableEq α]

/-- a change is applied by a reader that has the value before -/
def apply (x : α) (e : α × α) : α := if e.1 = x then e.2 else x

def follow (x : α) (es : List (α × α)) : α := es.foldl apply x

theorem follow_cons (x : α) (e : α × α) (es : List (α × α)) :
    follow x (e :: es) = follow (apply x e) es := rfl

theorem follow_append (x : α) (es fs : List (α × α)) :
    follow x (es ++ fs) = follow (follow x es) fs := List.foldl_append

/-- a reader that has the first value comes to the last -/
theorem follow_start {y : α} {es : List (α × α)} (h : LeadsTo y es) : follow (start y es) es = y := by
  induction es with
  | nil => rfl
  | cons e es ih =>
    have hfirst : apply (start y (e :: es)) e = e.2 := if_pos rfl
    rw [follow_cons, hfirst, h.1]
    exact ih h.2

theorem follow_cases {y : α} {es : List (α × α)} (h : LeadsTo y es) (x : α) :
    follow x es = x ∨ follow x es = y := by
  induction es generalizing x with
  | nil => exact Or.inl rfl
  | cons e es ih =>
    rw [follow_cons]
    unfold apply
    by_cases hx : e.1 = x
    · rw [if_pos hx, h.1]
      exact Or.inr (follow_start h.2)
    · rw [if_neg hx]
      exact ih h.2 x

/-- a reader that has the last value already keeps it -/
theorem follow_self {y : α} {es : List (α × α)} (h : LeadsTo y es) : follow y es = y := by
  rcases follow_cases h y with h | h <;> exact h

end

end Changes
