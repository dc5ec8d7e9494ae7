import Mathlib

/-!
# Lines of a stream

A stream is cut at every separator: `lines` are the parts that a separator ends, `remainder` is
what follows the last one.  Main facts:

* `cut_induction`      a stream has no separator, or starts with a line;
* `remainder_append`   what a part leaves goes in front of the next;
* `stream_eq`          the lines, each with its separator, and the remainder are the stream.
-/

namespace Lines

section
variable {α : Type} [DecidableEq α] {sep : α}

def lines (sep : α) (s : List α) : List (List α) := (s.splitOn sep).dropLast

def remainder (sep : α) (s : List α) : List α :=
  (s.splitOn sep).getLast (List.splitOn_ne_nil sep s)

theorem lines_of_not_mem {p : List α} (h : sep ∉ p) : lines sep p = [] := by
  unfold lines
  rw [List.splitOn_eq_singleton h]
  rfl

theorem remainder_of_not_mem {p : List α} (h : sep ∉ p) : remainder sep p = p := by
  unfold remainder
  simp only [List.splitOn_eq_singleton h, List.getLast_singleton]

theorem lines_line {p : List α} (h : sep ∉ p) (r : List α) :
    lines sep (p ++ sep :: r) = p :: lines sep r := by
  unfold lines
  rw [List.splitOn_append_cons_self_of_not_mem h]
  exact List.dropLast_cons_of_ne_nil (List.splitOn_ne_nil sep r)

theorem remainder_line {p : List α} (h : sep ∉ p) (r : List α) :
    remainder sep (p ++ sep :: r) = remainder sep r := by
  unfold remainder
  simp only [List.splitOn_append_cons_self_of_not_mem h]
  exact List.getLast_cons (List.splitOn_ne_nil sep r)

/-- a stream has no separator, or starts with a line -/
theorem cut_induction (sep : α) {P : List α → Prop} (hnone : ∀ p, sep ∉ p → P p)
    (hline : ∀ p r, sep ∉ p → P r → P (p ++ sep :: r)) (s : List α) : P s := by
  induction hn : s.length using Nat.strong_induction_on generalizing s with
  | _ n ih =>
    by_cases hs : sep ∈ s
    · obtain ⟨p, r, rfl, hp⟩ := List.eq_append_cons_of_mem hs
      apply hline p r hp
      apply ih r.length _ r rfl
      rw [← hn]
      simp
      omega
    · exact hnone s hs

theorem not_mem_remainder (s : List α) : sep ∉ remainder sep s := by
  induction s using cut_induction sep with
  | hnone p hp => rwa [remainder_of_not_mem hp]
  | hline p r hp ih => rwa [remainder_line hp]

theorem length_remainder_le (sep : α) (s : List α) : (remainder sep s).length ≤ s.length := by
  induction s using cut_induction sep with
  | hnone p hp => rw [remainder_of_not_mem hp]
  | hline p r hp ih =>
    rw [remainder_line hp, List.length_append, List.length_cons]
    omega

/-- what is left of the first part goes in front of the second -/
theorem remainder_append (a b : List α) :
    remainder sep (a ++ b) = remainder sep (remainder sep a ++ b) := by
  induction a using cut_induction sep with
  | hnone p hp => rw [remainder_of_not_mem hp]
  | hline p r hp ih => rw [List.append_assoc, List.cons_append, remainder_line hp, remainder_line hp, ih]

theorem lines_replicate {p : List α} (h : sep ∉ p) (n : Nat) :
    lines sep (List.replicate n (p ++ [sep])).flatten = List.replicate n p ∧
      remainder sep (List.replicate n (p ++ [sep])).flatten = [] := by
  induction n with
  | zero => exact ⟨lines_of_not_mem List.not_mem_nil, remainder_of_not_mem List.not_mem_nil⟩
  | succ n ih =>
    rw [List.replicate_succ, List.flatten_cons, List.append_assoc, List.singleton_append, lines_line h,
      remainder_line h, ih.1, ih.2]
    exact ⟨rfl, rfl⟩

/-- nothing of the stream is lost, nothing comes twice -/
theorem stream_eq (s : List α) :
    s = (lines sep s).flatMap (fun l => l ++ [sep]) ++ remainder sep s := by
  induction s using cut_induction sep with
  | hnone p hp => rw [lines_of_not_mem hp, remainder_of_not_mem hp, List.flatMap_nil, List.nil_append]
  | hline p r hp ih =>
    rw [lines_line hp, remainder_line hp, List.flatMap_cons, List.append_assoc, ← ih]
    simp

end

end Lines
