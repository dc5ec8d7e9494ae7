import Mathlib

/-!
# Reading round and round

A cursor reads a text of `n` places again and again: a cursor that has come to the end goes on from the
beginning before it reads.  Of an empty text it reads place 0.

* `wrap_cursor`        where the read number `r` is;
* `wrap_lt`            it is inside the text;
* `takeWhile_reads`    a text that ends with a mark read `N` times: up to the mark it is what was read.
-/

namespace Cyclic

/-- the place that a cursor at `j` reads -/
def wrap (n j : Nat) : Nat := if j ≥ n then 0 else j

/-- the place of the read number `r` -/
def place (n r : Nat) : Nat := r % max n 1

/-- the cursor after `r` reads from the beginning -/
def cursor (n : Nat) : Nat → Nat
  | 0 => 0
  | r + 1 => wrap n (cursor n r) + 1

section
variable {n : Nat}

theorem cursor_zero : cursor n 0 = 0 := rfl

theorem cursor_succ (r : Nat) : cursor n (r + 1) = wrap n (cursor n r) + 1 := rfl

theorem place_lt (r : Nat) : place n r < max n 1 := Nat.mod_lt _ (by omega)

theorem wrap_lt (j : Nat) : wrap n j < max n 1 := by
  unfold wrap
  split <;> omega

theorem wrap_cursor (r : Nat) : wrap n (cursor n r) = place n r := by
  induction r with
  | zero => simp [cursor_zero, wrap, place]
  | succ r ih =>
    rw [cursor_succ, ih]
    have hlt := place_lt (n := n) r
    unfold place at hlt ⊢
    by_cases hlast : r % max n 1 + 1 = max n 1
    · -- the end of the text
      have hmod : (r + 1) % max n 1 = 0 := by
        rw [← Nat.mod_add_mod, hlast, Nat.mod_self]
      rw [hmod]
      unfold wrap
      rw [if_pos (by omega)]
    · have hmod : (r + 1) % max n 1 = r % max n 1 + 1 := by
        rw [← Nat.mod_add_mod]
        exact Nat.mod_eq_of_lt (by omega)
      rw [hmod]
      unfold wrap
      rw [if_neg (by omega)]

theorem place_of_lt {r : Nat} (h : r < n) : place n r = r := Nat.mod_eq_of_lt (by omega)

end

/-! ## texts that end with a mark -/

section
variable {α : Type} {z : α} {p : List α}

/-- the first `N` places of the text and the mark after it, read round and round -/
def reads (z : α) (N : Nat) (p : List α) : List α :=
  (List.range N).map fun r => (p ++ [z]).getD (place (min p.length N + 1) r) z

theorem reads_of_long {N : Nat} (h : N ≤ p.length) : reads z N p = p.take N := by
  apply List.ext_getElem
  · simp [reads, h]
  · intro r hr _
    have hr : r < N := by simpa [reads] using hr
    have hplace : place (min p.length N + 1) r = r := place_of_lt (by omega)
    simp [reads, hplace, List.getElem?_append_left (show r < p.length by omega),
      List.getElem?_eq_getElem (show r < p.length by omega)]

/-- a short text is read up to the mark first -/
theorem reads_of_short {N : Nat} (h : p.length < N) : ∃ l, reads z N p = p ++ z :: l := by
  refine ⟨(reads z N p).drop (p.length + 1), ?_⟩
  have hfirst : (reads z N p).take (p.length + 1) = p ++ [z] := by
    apply List.ext_getElem
    · simp [reads]
      omega
    · intro r hr _
      have hr : r < p.length + 1 := by simp [reads] at hr; omega
      have hplace : place (min p.length N + 1) r = r := place_of_lt (by omega)
      have hlen : r < (p ++ [z]).length := by simp; omega
      simp only [reads, List.getElem_take, List.getElem_map, List.getElem_range, hplace,
        List.getD_eq_getElem?_getD, List.getElem?_eq_getElem hlen, Option.getD_some]
  rw [← List.take_append_drop (p.length + 1) (reads z N p), hfirst]
  simp

/-- a text is read as another is when they begin alike -/
theorem reads_congr {q : List α} {N : Nat} (h : p.take N = q.take N) : reads z N p = reads z N q := by
  have hlen := congrArg List.length h
  simp only [List.length_take] at hlen
  by_cases hp : N ≤ p.length
  · rw [reads_of_long hp, reads_of_long (by omega), h]
  · rw [List.take_of_length_le (by omega), List.take_of_length_le (by omega)] at h
    rw [h]

variable [DecidableEq α]

theorem takeWhile_reads (hz : z ∉ p) (N : Nat) :
    (reads z N p).takeWhile (· ≠ z) = p.take N := by
  have hp : ∀ x ∈ p, decide (x ≠ z) = true := by
    intro x hx
    exact decide_eq_true fun h => hz (h ▸ hx)
  by_cases h : N ≤ p.length
  · rw [reads_of_long h, List.takeWhile_eq_self_iff]
    intro x hx
    exact hp x (List.mem_of_mem_take hx)
  · obtain ⟨l, hl⟩ := reads_of_short (z := z) (p := p) (N := N) (by omega)
    rw [hl, List.takeWhile_append_of_pos hp, List.takeWhile_cons_of_neg (by simp), List.append_nil,
      List.take_of_length_le (by omega)]

end

end Cyclic
