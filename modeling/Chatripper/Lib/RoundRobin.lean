import Mathlib

/-!
# Taking turns

A cursor goes round `n` places.  `Balanced` says that the places before the cursor have had one
turn more than those from the cursor on.

* `Balanced.next`   it holds after the place at the cursor has had its turn;
* `Balanced.fair`   no place is two turns ahead of another.
-/

namespace RoundRobin

/-- the cursor after one turn -/
def next (n cursor : Nat) : Nat := (cursor + 1) % n

/-- how many of the turns fell to place `i` -/
def turnsOf (turns : List Nat) (i : Nat) : Nat := turns.count i

structure Balanced (n cursor : Nat) (turns : List Nat) : Prop where
  inRange : cursor < n
  rounds : ∃ k, ∀ i < n, turnsOf turns i = k + if i < cursor then 1 else 0

section
variable {n cursor : Nat} {turns : List Nat}

theorem balanced_start (hn : 0 < n) : Balanced n 0 [] := by
  refine ⟨hn, 0, ?_⟩
  intro i _
  simp [turnsOf]

theorem turnsOf_concat (i j : Nat) :
    turnsOf (turns ++ [j]) i = turnsOf turns i + if j = i then 1 else 0 := by
  unfold turnsOf
  rw [List.count_append, List.count_singleton]
  simp [beq_iff_eq]

theorem next_lt (hn : 0 < n) : next n cursor < n := Nat.mod_lt _ hn

theorem Balanced.next (h : Balanced n cursor turns) :
    Balanced n (next n cursor) (turns ++ [cursor]) := by
  obtain ⟨hlt, k, hk⟩ := h
  by_cases hlast : cursor + 1 = n
  · -- the last place: the round is complete
    have hnext : RoundRobin.next n cursor = 0 := by
      unfold RoundRobin.next
      rw [hlast, Nat.mod_self]
    refine ⟨next_lt (by omega), k + 1, ?_⟩
    intro i hi
    rw [turnsOf_concat, hk i hi, hnext]
    by_cases hi' : cursor = i
    · simp [hi']
    · have hbefore : i < cursor := by omega
      simp [hbefore, hi']
  · have hnext : RoundRobin.next n cursor = cursor + 1 := by
      unfold RoundRobin.next
      apply Nat.mod_eq_of_lt
      omega
    refine ⟨next_lt (by omega), k, ?_⟩
    intro i hi
    rw [turnsOf_concat, hk i hi, hnext]
    by_cases hi' : cursor = i
    · simp [hi']
    · by_cases hbefore : i < cursor
      · simp [hi', hbefore, Nat.lt_succ_of_lt hbefore]
      · have hafter : ¬ i < cursor + 1 := by omega
        simp [hi', hbefore, hafter]

theorem Balanced.fair (h : Balanced n cursor turns) {i j : Nat} (hi : i < n) (hj : j < n) :
    turnsOf turns i ≤ turnsOf turns j + 1 := by
  obtain ⟨-, k, hk⟩ := h
  rw [hk i hi, hk j hj]
  split <;> split <;> omega

end

end RoundRobin
