import Mathlib

/-!
# Counting in windows of time

A window begins with a request and lasts for `D`.  At most `k` requests are allowed in it, the first of
them included.  The first request that comes after it begins the next.

* `next`             a request;
* `after`, `allowed`  the window after a sequence of requests, and those that were allowed;
* `Counted`          what the window knows of them;
* `inside_allowed`   no interval as long as a window holds more than `2 * k` of them;
* `next_denied`      when a request is denied;
* `next_over`        a request begins a window when the last is over.
-/

namespace FixedWindow

structure Window where
  count : Int
  start : Int

/-- a request at time `n`: the window after it, and whether it is allowed -/
def next (k D : Int) (s : Option Window) (n : Int) : Option Window × Bool :=
  match s with
  | none => (some ⟨1, n⟩, true)
  | some x =>
    if x.start + D ≤ n then (some ⟨1, n⟩, true)
    else if x.count < k then (some ⟨x.count + 1, x.start⟩, true)
    else (some x, false)

/-- the window after requests -/
def after (k D : Int) (ns : List Int) : Option Window := ns.foldl (fun s n => (next k D s n).1) none

/-- the requests that are allowed, from a window on -/
def allowedFrom (k D : Int) : Option Window → List Int → List Int
  | _, [] => []
  | s, n :: ns =>
    if (next k D s n).2 then n :: allowedFrom k D (next k D s n).1 ns
    else allowedFrom k D (next k D s n).1 ns

def allowed (k D : Int) (ns : List Int) : List Int := allowedFrom k D none ns

/-- how many are at `t` or later and before `u` -/
def inside (t u : Int) (ns : List Int) : Nat := ns.countP fun n => decide (t ≤ n) && decide (n < u)

section
variable {t u v n : Int} {ns : List Int}

theorem inside_concat : inside t u (ns ++ [n]) = inside t u ns + if t ≤ n ∧ n < u then 1 else 0 := by
  unfold inside
  rw [List.countP_append, List.countP_singleton]
  by_cases h : t ≤ n ∧ n < u
  · rw [if_pos h, decide_eq_true h.1, decide_eq_true h.2]
    rfl
  · rw [if_neg h, if_neg]
    rw [← Bool.decide_and, decide_eq_true_iff]
    exact h

/-- a smaller interval holds fewer -/
theorem inside_mono {t' u' : Int} (h : ∀ n ∈ ns, t ≤ n → n < u → t' ≤ n ∧ n < u') :
    inside t u ns ≤ inside t' u' ns := by
  unfold inside
  apply List.countP_mono_left
  intro n hn hin
  rw [← Bool.decide_and, decide_eq_true_iff] at hin ⊢
  exact h n hn hin.1 hin.2

theorem inside_split (htv : t ≤ v) (hvu : v ≤ u) :
    inside t u ns = inside t v ns + inside v u ns := by
  induction ns using List.reverseRecOn with
  | nil => rfl
  | append_singleton ns n ih =>
    rw [inside_concat, inside_concat, inside_concat, ih]
    split_ifs <;> omega

end

section
variable (k D : Int) (ns : List Int) (n : Int)

theorem after_concat : after k D (ns ++ [n]) = (next k D (after k D ns) n).1 := by
  unfold after
  rw [List.foldl_append]
  rfl

theorem allowedFrom_concat (s : Option Window) : allowedFrom k D s (ns ++ [n]) =
    allowedFrom k D s ns ++
      if (next k D (ns.foldl (fun s n => (next k D s n).1) s) n).2 then [n] else [] := by
  induction ns generalizing s with
  | nil => 
    show allowedFrom k D s [n] = [] ++ _
    unfold allowedFrom
    rfl
  | cons m ns ih =>
    rw [List.cons_append, allowedFrom, allowedFrom, ih, List.foldl_cons]
    split
    · rfl
    · rfl

theorem allowed_concat : allowed k D (ns ++ [n]) =
    allowed k D ns ++ if (next k D (after k D ns) n).2 then [n] else [] :=
  allowedFrom_concat k D ns n none

end

/-- what a window knows of the requests `ns` that were allowed, none of them after `l` -/
structure Counted (k D l : Int) (x : Window) (ns : List Int) : Prop where
  count : x.count = inside x.start (x.start + D) ns
  pos : 1 ≤ x.count
  le : x.count ≤ k
  began : x.start ∈ ns
  last : x.start ≤ l
  within : ∀ n ∈ ns, n < x.start + D ∧ n ≤ l
  before : ∀ t, x.start - D ≤ t → (inside t x.start ns : Int) ≤ k
  bound : ∀ t, (inside t (t + D) ns : Int) ≤ 2 * k

section
variable {k D l n : Int} {x : Window} {ns : List Int}

theorem inside_eq_zero {t u : Int} (h : ∀ n ∈ ns, ¬ (t ≤ n ∧ n < u)) : inside t u ns = 0 := by
  unfold inside
  rw [List.countP_eq_zero]
  intro n hn
  rw [← Bool.decide_and, decide_eq_true_iff]
  exact h n hn

theorem Counted.first (hk : 1 ≤ k) (hD : 0 < D) : Counted k D n ⟨1, n⟩ [n] where
  count := by
    have h : inside n (n + D) ([] ++ [n]) = 0 + 1 := by
      rw [inside_concat, if_pos ⟨le_refl n, by omega⟩]
      rfl
    exact (congrArg Int.ofNat h).symm
  pos := le_refl _
  le := hk
  began := List.mem_singleton.mpr rfl
  last := le_refl _
  within m hm := by
    rw [List.mem_singleton.mp hm]
    constructor
    · show n < n + D
      omega
    · exact le_refl n
  before t _ := by
    have h : inside t n [n] = 0 := inside_eq_zero fun m hm => by
      rw [List.mem_singleton.mp hm]
      omega
    show ((inside t n [n] : Nat) : Int) ≤ k
    rw [h]
    omega
  bound t := by
    have h : inside t (t + D) ([] ++ [n]) ≤ 0 + 1 := by
      rw [inside_concat]
      split_ifs
      · exact le_refl 1
      · exact Nat.zero_le 1
    have h' : inside t (t + D) [n] ≤ 1 := h
    omega

theorem Counted.later (h : Counted k D l x ns) (hl : l ≤ n) : Counted k D n x ns :=
  { h with
    last := h.last.trans hl
    within := fun m hm => ⟨(h.within m hm).1, (h.within m hm).2.trans hl⟩ }

/-- the requests since the window began are those that it has counted -/
theorem Counted.inside_le (h : Counted k D l x ns) {t u : Int} (ht : x.start ≤ t) :
    (inside t u ns : Int) ≤ x.count := by
  rw [h.count]
  have hle : inside t u ns ≤ inside x.start (x.start + D) ns :=
    inside_mono fun m hm htm _ => ⟨ht.trans htm, (h.within m hm).1⟩
  omega

theorem Counted.reset (hk : 1 ≤ k) (hD : 0 < D) (h : Counted k D l x ns) (hl : l ≤ n)
    (hn : x.start + D ≤ n) : Counted k D n ⟨1, n⟩ (ns ++ [n]) where
  count := by
    have hzero : inside n (n + D) ns = 0 := inside_eq_zero fun m hm hin => by
      have := (h.within m hm).1
      omega
    show (1 : Int) = (inside n (n + D) (ns ++ [n]) : Nat)
    rw [inside_concat, hzero, if_pos ⟨le_refl n, by omega⟩]
    rfl
  pos := le_refl _
  le := hk
  began := List.mem_append_right ns (List.mem_singleton.mpr rfl)
  last := le_refl _
  within m hm := by
    show m < n + D ∧ m ≤ n
    rcases List.mem_append.mp hm with hm | hm
    · have := (h.within m hm).2
      omega
    · rw [List.mem_singleton.mp hm]
      omega
  before t ht := by
    show ((inside t n (ns ++ [n]) : Nat) : Int) ≤ k
    change n - D ≤ t at ht
    rw [inside_concat, if_neg (by omega), Nat.add_zero]
    exact (h.inside_le (by omega)).trans h.le
  bound t := by
    rw [inside_concat]
    by_cases hin : t ≤ n ∧ n < t + D
    · -- what was allowed before `n` and lies in the interval was counted by the old window
      have hle := (h.inside_le (t := t) (u := t + D) (by omega)).trans h.le
      rw [if_pos hin]
      omega
    · rw [if_neg hin]
      exact h.bound t

theorem Counted.more (h : Counted k D l x ns) (hl : l ≤ n) (hn : ¬ x.start + D ≤ n)
    (hc : x.count < k) : Counted k D n ⟨x.count + 1, x.start⟩ (ns ++ [n]) where
  count := by
    show x.count + 1 = (inside x.start (x.start + D) (ns ++ [n]) : Nat)
    have hstart := h.last.trans hl
    rw [inside_concat, if_pos ⟨hstart, by omega⟩, h.count]
    omega
  pos := by
    have := h.pos
    show 1 ≤ x.count + 1
    omega
  le := hc
  began := List.mem_append_left [n] h.began
  last := h.last.trans hl
  within m hm := by
    show m < x.start + D ∧ m ≤ n
    rcases List.mem_append.mp hm with hm | hm
    · have := h.within m hm
      omega
    · rw [List.mem_singleton.mp hm]
      omega
  before t ht := by
    have hstart := h.last.trans hl
    show ((inside t x.start (ns ++ [n]) : Nat) : Int) ≤ k
    rw [inside_concat, if_neg (by omega), Nat.add_zero]
    exact h.before t ht
  bound t := by
    have hstart := h.last.trans hl
    rw [inside_concat]
    by_cases hin : t ≤ n ∧ n < t + D
    · rw [if_pos hin]
      by_cases ht : x.start ≤ t
      · have hle := h.inside_le (u := t + D) ht
        omega
      · -- the interval reaches back into the window before
        have hsplit : inside t (t + D) ns = inside t x.start ns + inside x.start (t + D) ns :=
          inside_split (by omega) (by omega)
        have hbefore := h.before t (by omega)
        have hle := h.inside_le (u := t + D) (le_refl x.start)
        omega
    · rw [if_neg hin]
      exact h.bound t

theorem next_over (h : x.start + D ≤ n) : next k D (some x) n = (some ⟨1, n⟩, true) := by
  unfold next
  dsimp only
  rw [if_pos h]

theorem next_counts (h : ¬ x.start + D ≤ n) (hc : x.count < k) :
    next k D (some x) n = (some ⟨x.count + 1, x.start⟩, true) := by
  unfold next
  dsimp only
  rw [if_neg h, if_pos hc]

theorem next_full (h : ¬ x.start + D ≤ n) (hc : ¬ x.count < k) :
    next k D (some x) n = (some x, false) := by
  unfold next
  dsimp only
  rw [if_neg h, if_neg hc]

/-- **What the window knows after any requests.** -/
theorem counted_after (hk : 1 ≤ k) (hD : 0 < D) (hsorted : ns.Pairwise (· ≤ ·))
    (hl : ∀ m ∈ ns, m ≤ l) :
    (∀ x, after k D ns = some x → Counted k D l x (allowed k D ns)) ∧
      (after k D ns = none → allowed k D ns = []) := by
  induction ns using List.reverseRecOn generalizing l with
  | nil => exact ⟨fun x hx => (by cases hx), fun _ => rfl⟩
  | append_singleton ns n ih =>
    obtain ⟨hearlier, -, hlast⟩ := List.pairwise_append.mp hsorted
    have hle : ∀ m ∈ ns, m ≤ n := fun m hm => hlast m hm n (List.mem_singleton.mpr rfl)
    obtain ⟨hsome, hnone⟩ := ih hearlier hle
    have hnl := hl n (List.mem_append_right ns (List.mem_singleton.mpr rfl))
    rw [after_concat, allowed_concat]
    cases hx : after k D ns with
    | none =>
      rw [hnone hx]
      refine ⟨fun x h => ?_, fun h => (by cases h)⟩
      cases h
      exact (Counted.first hk hD).later hnl
    | some x =>
      have h := hsome x hx
      by_cases hover : x.start + D ≤ n
      · rw [next_over hover]
        refine ⟨fun x' hx' => ?_, fun h => (by cases h)⟩
        cases hx'
        exact (h.reset hk hD (le_refl n) hover).later hnl
      · by_cases hc : x.count < k
        · rw [next_counts hover hc]
          refine ⟨fun x' hx' => ?_, fun h => (by cases h)⟩
          cases hx'
          exact (h.more (le_refl n) hover hc).later hnl
        · rw [next_full hover hc, if_neg Bool.false_ne_true, List.append_nil]
          refine ⟨fun x' hx' => ?_, fun h => (by cases h)⟩
          cases hx'
          exact h.later hnl

/-- **No interval as long as a window holds more than `2 * k` of the requests that are allowed.** -/
theorem inside_allowed (hk : 1 ≤ k) (hD : 0 < D) (hsorted : ns.Pairwise (· ≤ ·)) (t : Int) :
    (inside t (t + D) (allowed k D ns) : Int) ≤ 2 * k := by
  obtain ⟨l, hl⟩ : ∃ l, ∀ m ∈ ns, m ≤ l := by
    obtain ⟨l, hl⟩ := ns.toFinset.bddAbove
    exact ⟨l, fun m hm => hl (List.mem_toFinset.mpr hm)⟩
  obtain ⟨hsome, hnone⟩ := counted_after hk hD hsorted hl
  cases hx : after k D ns with
  | none =>
    rw [hnone hx]
    show ((0 : Nat) : Int) ≤ 2 * k
    omega
  | some x => exact (hsome x hx).bound t

/-- a request is denied when the window has not ended and has allowed all that it allows -/
theorem next_denied {s : Option Window} :
    (next k D s n).2 = false ↔ ∃ x, s = some x ∧ n < x.start + D ∧ k ≤ x.count := by
  unfold next
  cases s with
  | none => exact iff_of_false (fun h => (by cases h)) (by rintro ⟨x, hx, -⟩; cases hx)
  | some x =>
    dsimp only
    split_ifs with hover hc
    · refine iff_of_false (fun h => absurd h (by decide)) ?_
      rintro ⟨x', hx', hn, -⟩
      cases hx'
      omega
    · refine iff_of_false (fun h => absurd h (by decide)) ?_
      rintro ⟨x', hx', -, hk⟩
      cases hx'
      omega
    · exact iff_of_true rfl ⟨x, rfl, by omega, by omega⟩

/-- a window that has allowed all that it allows stays as it is until it is over -/
theorem foldl_full (hk : k ≤ x.count) (hns : ∀ n ∈ ns, n < x.start + D) :
    ns.foldl (fun s n => (next k D s n).1) (some x) = some x := by
  induction ns with
  | nil => rfl
  | cons n ns ih =>
    have hn := hns n List.mem_cons_self
    rw [List.foldl_cons, next_full (by omega) (by omega)]
    exact ih fun m hm => hns m (List.mem_cons_of_mem n hm)

end

end FixedWindow
