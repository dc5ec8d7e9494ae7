import Mathlib

/-!
# Reading a table page by page

A query with `LIMIT` and `OFFSET` is repeated until a page is not full.

* `foldPages_eq`     what is done to every row is done to the rows of the table, once and in order;
* `foldAnswers_eq`   when each query has an order of its own, it is done to the rows that are `seen`;
* `seen_once_iff`    each row is seen once if and only if no two pages have a row in common;
* `apart_all_iff`    so it is for all orders if and only if the table has no more rows than a page.
-/

namespace Pages

variable {ρ σ : Type} (limit : Nat) (f : σ → ρ → σ) (rows : List ρ)

/-- the rows of `LIMIT limit OFFSET offset` -/
def page (offset : Nat) : List ρ := (rows.drop offset).take limit

theorem page_full {offset : Nat} (hlimit : 0 < limit) (h : ¬ (page limit rows offset).length < limit) :
    offset < rows.length := by
  unfold page at h
  rw [List.length_take, List.length_drop] at h
  omega

/-- the loop over the pages from `offset` on; a limit of zero would not end -/
def foldPages (offset : Nat) (s : σ) : σ :=
  if h : (page limit rows offset).length < limit ∨ limit = 0 then (page limit rows offset).foldl f s
  else
    have : offset < rows.length :=
      page_full limit rows (Nat.pos_of_ne_zero fun h0 => h (Or.inr h0)) fun hl => h (Or.inl hl)
    foldPages (offset + limit) ((page limit rows offset).foldl f s)
termination_by rows.length - offset

variable {limit}

theorem foldPages_eq (hlimit : 0 < limit) (offset : Nat) (s : σ) :
    foldPages limit f rows offset s = (rows.drop offset).foldl f s := by
  fun_induction foldPages limit f rows offset s with
  | case1 offset s h =>
    have hl : (page limit rows offset).length < limit := h.resolve_right (Nat.ne_of_gt hlimit)
    have hall : page limit rows offset = rows.drop offset := by
      unfold page at hl ⊢
      rw [List.length_take] at hl
      apply List.take_of_length_le
      omega
    rw [hall]
  | case2 offset s h hlt ih =>
    rw [ih]
    unfold page
    rw [← List.foldl_append, ← List.drop_drop, List.take_append_drop]

/-! ## an order for each query -/

variable {rows}

/-- what the queries of a table answer: the query at an offset has the rows in some order, or fails -/
structure Answers (rows : List ρ) where
  order : Nat → Option (List ρ)
  perm : ∀ offset l, order offset = some l → l.Perm rows

namespace Answers

/-- no query fails -/
def Complete (q : Answers rows) : Prop := ∀ offset, (q.order offset).isSome

/-- every query has the rows in the same order -/
def fixed (rows : List ρ) : Answers rows where
  order _ := some rows
  perm _ l h := by
    cases h
    exact List.Perm.refl rows

/-- the second page is asked in another order than the rest: the first row is in it again -/
def turned (limit : Nat) (r : ρ) (tail : List ρ) : Answers (r :: tail) where
  order offset :=
    if offset = limit then some (tail.take limit ++ r :: tail.drop limit) else some (r :: tail)
  perm offset l h := by
    split at h
    · cases h
      refine List.perm_middle.trans ?_
      rw [List.take_append_drop]
    · cases h
      exact List.Perm.refl _

theorem turned_complete (limit : Nat) (r : ρ) (tail : List ρ) : (turned limit r tail).Complete := by
  intro offset
  unfold turned
  dsimp only
  split <;> rfl

end Answers

variable (limit)

/-- the rows that the query at an offset returns -/
def window (q : Answers rows) (offset : Nat) : List ρ :=
  match q.order offset with
  | none => []
  | some l => page limit l offset

theorem answer_full {q : Answers rows} {l : List ρ} {offset : Nat} (hl : q.order offset = some l)
    (h : ¬ ((page limit l offset).length < limit ∨ limit = 0)) : offset < rows.length := by
  rw [not_or] at h
  rw [← (q.perm offset l hl).length_eq]
  exact page_full limit l (Nat.pos_of_ne_zero h.2) h.1

/-- the loop over the queries from `offset` on; it ends when one fails -/
def foldAnswers (q : Answers rows) (offset : Nat) (s : σ) : σ :=
  match hl : q.order offset with
  | none => s
  | some l =>
    if h : (page limit l offset).length < limit ∨ limit = 0 then (page limit l offset).foldl f s
    else
      have : offset < rows.length := answer_full limit hl h
      foldAnswers q (offset + limit) ((page limit l offset).foldl f s)
termination_by rows.length - offset

/-- the rows that the loop comes to -/
def seen (q : Answers rows) (offset : Nat) : List ρ :=
  match hl : q.order offset with
  | none => []
  | some l =>
    if h : (page limit l offset).length < limit ∨ limit = 0 then page limit l offset
    else
      have : offset < rows.length := answer_full limit hl h
      page limit l offset ++ seen q (offset + limit)
termination_by rows.length - offset

section
variable {limit} {q : Answers rows} {offset : Nat}

/-- nothing is seen once a query fails -/
theorem seen_of_none (hl : q.order offset = none) : seen limit q offset = [] := by
  unfold seen
  split
  · rfl
  · next l hl' =>
    rw [hl] at hl'
    cases hl'

theorem seen_of_order {l : List ρ} (hl : q.order offset = some l) : seen limit q offset =
    if (page limit l offset).length < limit ∨ limit = 0 then page limit l offset
    else page limit l offset ++ seen limit q (offset + limit) := by
  conv_lhs => unfold seen
  split
  · next hl' =>
    rw [hl] at hl'
    cases hl'
  · next l' hl' =>
    rw [hl] at hl'
    cases hl'
    rfl

end

theorem foldAnswers_eq (q : Answers rows) (offset : Nat) (s : σ) :
    foldAnswers limit f q offset s = (seen limit q offset).foldl f s := by
  fun_induction foldAnswers limit f q offset s with
  | case1 offset s hl =>
    rw [seen_of_none hl]
    rfl
  | case2 offset s l hl h => rw [seen_of_order hl, if_pos h]
  | case3 offset s l hl h hlt ih => rw [ih, seen_of_order hl, if_neg h, List.foldl_append]

/-! ## what is seen, page by page -/

variable {limit}

/-- the offsets of the pages, from the last one back -/
theorem offset_induction {n : Nat} {P : Nat → Prop} (hlimit : 0 < limit)
    (last : ∀ offset, n < offset + limit → P offset)
    (more : ∀ offset, offset + limit ≤ n → P (offset + limit) → P offset) (offset : Nat) :
    P offset := by
  by_cases h : offset + limit ≤ n
  · exact more offset h (offset_induction hlimit last more (offset + limit))
  · exact last offset (by omega)
termination_by n - offset

section
variable {q : Answers rows}

theorem window_of_order {l : List ρ} {offset : Nat} (hl : q.order offset = some l) :
    window limit q offset = page limit l offset := by
  unfold window
  rw [hl]

theorem mem_window {r : ρ} {offset : Nat} (h : r ∈ window limit q offset) : r ∈ rows := by
  unfold window at h
  split at h
  · cases h
  · next l hl => exact (q.perm offset l hl).mem_iff.mp (List.mem_of_mem_drop (List.mem_of_mem_take h))

theorem nodup_window (hrows : rows.Nodup) (offset : Nat) : (window limit q offset).Nodup := by
  unfold window
  split
  · exact List.nodup_nil
  · next l hl =>
    have hl : l.Nodup := (q.perm offset l hl).nodup_iff.mpr hrows
    exact (hl.sublist (List.drop_sublist offset l)).sublist (List.take_sublist limit _)

theorem length_window (hq : q.Complete) (offset : Nat) :
    (window limit q offset).length = min limit (rows.length - offset) := by
  obtain ⟨l, hl⟩ := Option.isSome_iff_exists.mp (hq offset)
  unfold window page
  rw [hl]
  dsimp only
  rw [List.length_take, List.length_drop, (q.perm offset l hl).length_eq]

/-- no row is at an offset past the end -/
theorem window_past (hq : q.Complete) {offset : Nat} (h : rows.length ≤ offset) : window limit q offset = [] := by
  apply List.eq_nil_of_length_eq_zero
  rw [length_window hq]
  omega

theorem seen_last (hq : q.Complete) {offset : Nat} (h : rows.length < offset + limit) :
    seen limit q offset = window limit q offset := by
  obtain ⟨l, hl⟩ := Option.isSome_iff_exists.mp (hq offset)
  have hpage : window limit q offset = page limit l offset := window_of_order hl
  have hlen : (window limit q offset).length = min limit (rows.length - offset) :=
    length_window hq offset
  rw [seen_of_order hl, if_pos, hpage]
  rw [← hpage]
  omega

theorem seen_more (hq : q.Complete) (hlimit : 0 < limit) {offset : Nat} (h : offset + limit ≤ rows.length) :
    seen limit q offset = window limit q offset ++ seen limit q (offset + limit) := by
  obtain ⟨l, hl⟩ := Option.isSome_iff_exists.mp (hq offset)
  have hpage : window limit q offset = page limit l offset := window_of_order hl
  have hlen : (window limit q offset).length = min limit (rows.length - offset) :=
    length_window hq offset
  rw [seen_of_order hl, if_neg, hpage]
  rw [← hpage]
  omega

theorem offset_next (offset limit i : Nat) : offset + limit + i * limit = offset + (i + 1) * limit := by
  rw [Nat.succ_mul]
  omega

/-- as many rows are seen as there are -/
theorem length_seen (hq : q.Complete) (hlimit : 0 < limit) (offset : Nat) :
    (seen limit q offset).length = rows.length - offset := by
  induction offset using offset_induction hlimit (n := rows.length) with
  | last offset h =>
    rw [seen_last hq h, length_window hq]
    omega
  | more offset h ih =>
    rw [seen_more hq hlimit h, List.length_append, ih, length_window hq]
    omega

theorem mem_seen (hq : q.Complete) (hlimit : 0 < limit) {r : ρ} (offset : Nat) :
    r ∈ seen limit q offset ↔ ∃ i, r ∈ window limit q (offset + i * limit) := by
  induction offset using offset_induction hlimit (n := rows.length) with
  | last offset h =>
    rw [seen_last hq h]
    constructor
    · intro hr
      exact ⟨0, by simpa using hr⟩
    · rintro ⟨i, hr⟩
      cases i with
      | zero => simpa using hr
      | succ i =>
        have hpast : rows.length ≤ offset + (i + 1) * limit := by
          rw [Nat.succ_mul]
          omega
        rw [window_past hq hpast] at hr
        exact absurd hr List.not_mem_nil
  | more offset h ih =>
    rw [seen_more hq hlimit h, List.mem_append, ih]
    constructor
    · rintro (hr | ⟨i, hr⟩)
      · exact ⟨0, by simpa using hr⟩
      · exact ⟨i + 1, by rwa [← offset_next]⟩
    · rintro ⟨i, hr⟩
      cases i with
      | zero => exact .inl (by simpa using hr)
      | succ i => exact .inr ⟨i, by rwa [offset_next]⟩

theorem nodup_seen_iff (hq : q.Complete) (hlimit : 0 < limit) (hrows : rows.Nodup) (offset : Nat) :
    (seen limit q offset).Nodup ↔ ∀ i j, i < j → List.Disjoint
      (window limit q (offset + i * limit)) (window limit q (offset + j * limit)) := by
  induction offset using offset_induction hlimit (n := rows.length) with
  | last offset h =>
    rw [seen_last hq h]
    refine iff_of_true (nodup_window hrows offset) fun i j hij => ?_
    have hle : limit ≤ j * limit := Nat.le_mul_of_pos_left limit (by omega)
    have hpast : rows.length ≤ offset + j * limit := by omega
    rw [window_past hq hpast]
    exact List.disjoint_nil_right _
  | more offset h ih =>
    rw [seen_more hq hlimit h, List.nodup_append', ih]
    constructor
    · rintro ⟨-, hrest, hfirst⟩ i j hij
      cases j with
      | zero => exact absurd hij (Nat.not_lt_zero i)
      | succ j =>
        rw [← offset_next offset limit j]
        cases i with
        | zero =>
          intro r hr hr'
          exact hfirst (by simpa using hr) ((mem_seen hq hlimit _).mpr ⟨j, hr'⟩)
        | succ i =>
          rw [← offset_next offset limit i]
          exact hrest i j (by omega)
    · intro hall
      refine ⟨nodup_window hrows offset, fun i j hij => ?_, fun r hr hr' => ?_⟩
      · rw [offset_next, offset_next]
        exact hall (i + 1) (j + 1) (by omega)
      · obtain ⟨j, hj⟩ := (mem_seen hq hlimit _).mp hr'
        rw [offset_next] at hj
        exact hall 0 (j + 1) (by omega) (by simpa using hr) hj

end

/-- no row is on two pages -/
def Apart (limit : Nat) (q : Answers rows) : Prop :=
  ∀ i j, i < j → List.Disjoint (window limit q (i * limit)) (window limit q (j * limit))

section
variable [DecidableEq ρ]

/-- each row is seen once -/
def SeenOnce (limit : Nat) (q : Answers rows) : Prop := ∀ r ∈ rows, (seen limit q 0).count r = 1

/-- **One order for each query.** -/
theorem seen_once_iff {q : Answers rows} (hq : q.Complete) (hlimit : 0 < limit)
    (hrows : rows.Nodup) : SeenOnce limit q ↔ Apart limit q := by
  have hnodup := nodup_seen_iff hq hlimit hrows 0
  simp only [Nat.zero_add] at hnodup
  refine Iff.trans ?_ hnodup
  have hsub : seen limit q 0 ⊆ rows := by
    intro r hr
    obtain ⟨i, hi⟩ := (mem_seen hq hlimit 0).mp hr
    exact mem_window hi
  constructor
  · intro h
    rw [List.nodup_iff_count_le_one]
    intro r
    by_cases hr : r ∈ rows
    · exact (h r hr).le
    · rw [List.count_eq_zero.mpr fun hmem => hr (hsub hmem)]
      exact Nat.zero_le 1
  · intro h r hr
    have hperm : (seen limit q 0).Perm rows :=
      (h.subperm hsub).perm_of_length_le (length_seen hq hlimit 0).ge
    exact List.count_eq_one_of_mem h (hperm.mem_iff.mpr hr)

end

/-- in the turned order a row is seen twice -/
theorem turned_not_apart (hlimit : 0 < limit) {r : ρ} {tail : List ρ} (h : limit ≤ tail.length) :
    ¬ Apart limit (Answers.turned limit r tail) := by
  intro hapart
  have htake (l : List ρ) : r ∈ (r :: l).take limit := by
    cases limit with
    | zero => exact absurd hlimit (Nat.lt_irrefl 0)
    | succ n => exact List.mem_cons_self
  have hlen : (tail.take limit).length = limit := List.length_take_of_le h
  have hfirst : (Answers.turned limit r tail).order 0 = some (r :: tail) := if_neg (by omega)
  have hsecond : (Answers.turned limit r tail).order limit =
      some (tail.take limit ++ r :: tail.drop limit) := if_pos rfl
  refine hapart 0 1 Nat.one_pos (a := r) ?_ ?_
  · rw [Nat.zero_mul, window_of_order hfirst]
    exact htake tail
  · rw [Nat.one_mul, window_of_order hsecond]
    unfold page
    rw [List.drop_left' hlen]
    exact htake _

/-- **All orders.** -/
theorem apart_all_iff (hlimit : 0 < limit) :
    (∀ q : Answers rows, q.Complete → Apart limit q) ↔ rows.length ≤ limit := by
  constructor
  · intro hall
    by_contra hlong
    cases rows with
    | nil => exact hlong (Nat.zero_le limit)
    | cons r tail =>
      rw [List.length_cons] at hlong
      exact turned_not_apart hlimit (by omega) (hall _ (Answers.turned_complete limit r tail))
  · intro hshort q hq i j hij
    have hle : limit ≤ j * limit := Nat.le_mul_of_pos_left limit (by omega)
    have hpast : rows.length ≤ j * limit := by omega
    rw [window_past hq hpast]
    exact List.disjoint_nil_right _

/-- with one order for all queries the two loops are the same -/
theorem foldAnswers_fixed (offset : Nat) (s : σ) :
    foldAnswers limit f (Answers.fixed rows) offset s = foldPages limit f rows offset s := by
  fun_induction foldPages limit f rows offset s with
  | case1 offset s h =>
    rw [foldAnswers]
    exact dif_pos h
  | case2 offset s h hlt ih =>
    rw [foldAnswers]
    exact (dif_neg h).trans ih

end Pages
