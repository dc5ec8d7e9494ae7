import Mathlib

/-!
# Computations that may stop with a fault, and runs of a step function

A fallible computation is an `Except`.  `Sat E Q r` is its specification: a fault satisfies `E`
and a result satisfies `Q`.  The rules follow the shape of a computation (`Sat.bind`, `Sat.ite`,
`Sat.foldlM`).

A system is a step function from a state and an event to the next state or a fault; a run is the
fold of it over a list of events.  `AllSteps C` says that every step that a run takes meets `C`;
`run_inv` is induction over a run.
-/

namespace Outcome

section
variable {ε α β σ ι : Type}

def Sat (E : ε → Prop) (Q : α → Prop) : Except ε α → Prop
  | .ok a => Q a
  | .error x => E x

@[simp] theorem sat_ok {E : ε → Prop} {Q : α → Prop} {a : α} : Sat E Q (.ok a) ↔ Q a := Iff.rfl
@[simp] theorem sat_pure {E : ε → Prop} {Q : α → Prop} {a : α} :
    Sat E Q (pure a : Except ε α) ↔ Q a := Iff.rfl
@[simp] theorem sat_error {E : ε → Prop} {Q : α → Prop} {x : ε} :
    Sat E Q (.error x) ↔ E x := Iff.rfl
@[simp] theorem sat_throw {E : ε → Prop} {Q : α → Prop} {x : ε} :
    Sat E Q (throw x : Except ε α) ↔ E x := Iff.rfl

theorem Sat.bind {E : ε → Prop} {Q : α → Prop} {R : β → Prop} {x : Except ε α}
    {f : α → Except ε β} (hx : Sat E Q x) (hf : ∀ a, Q a → Sat E R (f a)) : Sat E R (x >>= f) := by
  cases x with
  | ok a => exact hf a hx
  | error e => exact hx

/-- the first part may give anything -/
theorem Sat.bind_any {R : β → Prop} {x : Except ε α} {f : α → Except ε β}
    (hf : ∀ a, Sat (fun _ => True) R (f a)) : Sat (fun _ => True) R (x >>= f) := by
  cases x with
  | ok a => exact hf a
  | error e => exact trivial

theorem Sat.mono {E E' : ε → Prop} {Q Q' : α → Prop} {x : Except ε α} (h : Sat E Q x)
    (hE : ∀ e, E e → E' e) (hQ : ∀ a, Q a → Q' a) : Sat E' Q' x := by
  cases x with
  | ok a => exact hQ a h
  | error e => exact hE e h

theorem Sat.and {E E' : ε → Prop} {Q Q' : α → Prop} {x : Except ε α} (h : Sat E Q x)
    (h' : Sat E' Q' x) : Sat (fun e => E e ∧ E' e) (fun a => Q a ∧ Q' a) x := by
  cases x with
  | ok a => exact ⟨h, h'⟩
  | error e => exact ⟨h, h'⟩

theorem Sat.ite {E : ε → Prop} {Q : α → Prop} {c : Prop} [Decidable c] {x y : Except ε α}
    (hx : c → Sat E Q x) (hy : ¬ c → Sat E Q y) : Sat E Q (if c then x else y) := by
  by_cases h : c
  · rw [if_pos h]; exact hx h
  · rw [if_neg h]; exact hy h

/-- loop rule: the invariant holds before, and one round keeps it -/
theorem Sat.foldlM {E : ε → Prop} {I : β → Prop} {f : β → ι → Except ε β} {l : List ι} {b : β}
    (hb : I b) (hf : ∀ b i, i ∈ l → I b → Sat E I (f b i)) : Sat E I (l.foldlM f b) := by
  induction l generalizing b with
  | nil => exact hb
  | cons i l ih =>
    rw [List.foldlM_cons]
    exact (hf b i List.mem_cons_self hb).bind fun b' hb' =>
      ih hb' fun c j hj hc => hf c j (List.mem_cons_of_mem _ hj) hc

/-- loop rule: a view of the state goes through a pure loop of its own -/
theorem Sat.foldlM_view {E : ε → Prop} {I : β → Prop} {v : β → α} {g : α → ι → α}
    {f : β → ι → Except ε β} {l : List ι} {b : β} (hb : I b)
    (hf : ∀ b i, i ∈ l → I b → Sat E (fun b' => I b' ∧ v b' = g (v b) i) (f b i)) :
    Sat E (fun b' => I b' ∧ v b' = l.foldl g (v b)) (l.foldlM f b) := by
  induction l generalizing b with
  | nil => exact ⟨hb, rfl⟩
  | cons i l ih =>
    rw [List.foldlM_cons]
    refine (hf b i List.mem_cons_self hb).bind fun b' hb' => ?_
    rw [List.foldl_cons, ← hb'.2]
    exact ih hb'.1 fun c j hj hc => hf c j (List.mem_cons_of_mem _ hj) hc

/-- frame rule of a pure loop: a view that every round keeps is kept -/
theorem foldl_keeps {v : β → α} {f : β → ι → β} (h : ∀ b i, v (f b i) = v b) (l : List ι) (b : β) :
    v (l.foldl f b) = v b := by
  induction l generalizing b with
  | nil => rfl
  | cons i l ih => rw [List.foldl_cons, ih, h]

/-- a measure that no round makes smaller -/
theorem foldl_grows {v : β → Nat} {f : β → ι → β} (h : ∀ b i, v b ≤ v (f b i)) (l : List ι) (b : β) :
    v b ≤ v (l.foldl f b) := by
  induction l generalizing b with
  | nil => exact Nat.le_refl _
  | cons i l ih => exact (h b i).trans (ih (f b i))

/-- a loop whose rounds do nothing -/
theorem foldlM_eq_self {f : β → ι → Except ε β} {l : List ι} {b : β}
    (h : ∀ i ∈ l, f b i = .ok b) : l.foldlM f b = .ok b := by
  induction l with
  | nil => rfl
  | cons i l ih =>
    rw [List.foldlM_cons, h i List.mem_cons_self]
    exact ih fun j hj => h j (List.mem_cons_of_mem _ hj)

theorem Sat.of_ok {E : ε → Prop} {Q : α → Prop} {x : Except ε α} {a : α} (h : Sat E Q x)
    (e : x = .ok a) : Q a := by
  rw [e] at h; exact h

theorem Sat.of_error {E : ε → Prop} {Q : α → Prop} {x : Except ε α} {e : ε} (h : Sat E Q x)
    (he : x = .error e) : E e := by
  rw [he] at h; exact h

theorem sat_of {E : ε → Prop} {Q : α → Prop} {x : Except ε α} (hQ : ∀ a, x = .ok a → Q a)
    (hE : ∀ e, x = .error e → E e) : Sat E Q x := by
  cases x with
  | ok a => exact hQ a rfl
  | error e => exact hE e rfl

theorem ok_bind (a : α) (f : α → Except ε β) : (Except.ok a >>= f) = f a := rfl

theorem bind_eq_ok {x : Except ε α} {f : α → Except ε β} {b : β} :
    (x >>= f) = .ok b ↔ ∃ a, x = .ok a ∧ f a = .ok b := by
  cases x with
  | ok a => exact ⟨fun h => ⟨a, rfl, h⟩, fun ⟨_, h, h'⟩ => by cases h; exact h'⟩
  | error e => exact ⟨fun h => (by cases h), fun ⟨_, h, _⟩ => (by cases h)⟩

/-! ## runs -/

/-- the state after the events of a list, or the fault that stopped the run -/
def run (step : σ → ι → Except ε σ) (s : σ) (is : List ι) : Except ε σ := is.foldlM step s

/-- every step taken from `s` along the events meets `C` -/
def AllSteps (step : σ → ι → Except ε σ) (C : σ → ι → Prop) : σ → List ι → Prop
  | _, [] => True
  | s, i :: is => C s i ∧ ∀ s', step s i = .ok s' → AllSteps step C s' is

variable {step : σ → ι → Except ε σ}

theorem run_nil (s : σ) : run step s [] = .ok s := rfl

theorem run_cons (s : σ) (i : ι) (is : List ι) :
    run step s (i :: is) = step s i >>= fun s' => run step s' is := List.foldlM_cons

theorem run_append (s : σ) (is js : List ι) :
    run step s (is ++ js) = run step s is >>= fun s' => run step s' js := List.foldlM_append

/-- induction over a run whose steps all meet `C` -/
theorem run_inv {C : σ → ι → Prop} {I : σ → Prop} (hstep : ∀ s i s', I s → C s i →
    step s i = .ok s' → I s') {s s' : σ} {is : List ι} (hs : I s) (hC : AllSteps step C s is)
    (h : run step s is = .ok s') : I s' := by
  induction is generalizing s with
  | nil => cases h; exact hs
  | cons i is ih =>
    rw [run_cons] at h
    obtain ⟨m, hm, h⟩ := bind_eq_ok.mp h
    exact ih (hstep s i m hs hC.1 hm) (hC.2 m hm) h

theorem AllSteps.mono {C D : σ → ι → Prop} (hCD : ∀ s i, C s i → D s i) {s : σ} {is : List ι}
    (h : AllSteps step C s is) : AllSteps step D s is := by
  induction is generalizing s with
  | nil => exact trivial
  | cons i is ih => exact ⟨hCD s i h.1, fun s' hs' => ih (h.2 s' hs')⟩

theorem AllSteps.and {C D : σ → ι → Prop} {s : σ} {is : List ι} (hC : AllSteps step C s is)
    (hD : AllSteps step D s is) : AllSteps step (fun s i => C s i ∧ D s i) s is := by
  induction is generalizing s with
  | nil => exact trivial
  | cons i is ih => exact ⟨⟨hC.1, hD.1⟩, fun s' hs' => ih (hC.2 s' hs') (hD.2 s' hs')⟩

/-- `AllSteps`, computed -/
def checkSteps (step : σ → ι → Except ε σ) (C : σ → ι → Bool) : σ → List ι → Bool
  | _, [] => true
  | s, i :: is => C s i && match step s i with
    | .ok s' => checkSteps step C s' is
    | .error _ => true

theorem allSteps_of_check {C : σ → ι → Bool} {s : σ} {is : List ι}
    (h : checkSteps step C s is = true) : AllSteps step (fun s i => C s i = true) s is := by
  induction is generalizing s with
  | nil => exact trivial
  | cons i is ih =>
    obtain ⟨hc, hrest⟩ := Bool.and_eq_true_iff.mp h
    refine ⟨hc, fun s' hs' => ih ?_⟩
    rw [hs'] at hrest
    exact hrest

theorem checkSteps_append {C : σ → ι → Bool} {s s' : σ} {is js : List ι} (h : run step s is = .ok s') :
    checkSteps step C s (is ++ js) = (checkSteps step C s is && checkSteps step C s' js) := by
  induction is generalizing s with
  | nil =>
    cases h
    rfl
  | cons i is ih =>
    rw [run_cons] at h
    obtain ⟨m, hm, h⟩ := bind_eq_ok.mp h
    rw [List.cons_append, checkSteps, checkSteps, hm, Bool.and_assoc]
    exact congrArg (C s i && ·) (ih h)

theorem allSteps_true (s : σ) (is : List ι) : AllSteps step (fun _ _ => True) s is := by
  induction is generalizing s with
  | nil => exact trivial
  | cons i is ih => exact ⟨trivial, fun s' _ => ih s'⟩

theorem allSteps_append_left {C : σ → ι → Prop} {s : σ} {is js : List ι}
    (h : AllSteps step C s (is ++ js)) : AllSteps step C s is := by
  induction is generalizing s with
  | nil => exact trivial
  | cons i is ih => exact ⟨h.1, fun s' hs' => ih (h.2 s' hs')⟩

/-- a property that holds after a run and not before it comes about in one of its steps -/
theorem run_flips {P : σ → Prop} {s s' : σ} {is : List ι} (h : run step s is = .ok s')
    (hbefore : ¬ P s) (hafter : P s') :
    ∃ pre i post m m', is = pre ++ i :: post ∧ run step s pre = .ok m ∧ step m i = .ok m' ∧
      ¬ P m ∧ P m' := by
  induction is generalizing s with
  | nil =>
    cases h
    exact absurd hafter hbefore
  | cons i is ih =>
    rw [run_cons] at h
    obtain ⟨m, hm, h⟩ := bind_eq_ok.mp h
    by_cases hP : P m
    · exact ⟨[], i, is, s, m, rfl, rfl, hm, hbefore, hP⟩
    · obtain ⟨pre, j, post, n, n', he, hpre, hj, hn, hn'⟩ := ih h hP
      refine ⟨i :: pre, j, post, n, n', by rw [he]; rfl, ?_, hj, hn, hn'⟩
      rw [run_cons, hm]
      exact hpre

/-- induction over a run, of what is said of the events so far and the state after them -/
theorem run_history {I : List ι → σ → Prop} {s s' : σ} (h0 : I [] s)
    (hstep : ∀ is m i m', run step s is = .ok m → I is m → step m i = .ok m' → I (is ++ [i]) m')
    {is : List ι} (h : run step s is = .ok s') : I is s' := by
  induction is using List.reverseRecOn generalizing s' with
  | nil =>
    cases h
    exact h0
  | append_singleton is i ih =>
    rw [run_append] at h
    obtain ⟨m, hm, h⟩ := bind_eq_ok.mp h
    rw [run_cons] at h
    obtain ⟨m', hm', h⟩ := bind_eq_ok.mp h
    cases h
    exact hstep is m i s' hm (ih hm) hm'

/-- along a run that keeps `I`, every step is taken in a state where `I` holds -/
theorem allSteps_keep {C : σ → ι → Prop} {I : σ → Prop}
    (hstep : ∀ s i s', I s → C s i → step s i = .ok s' → I s') {s : σ} {is : List ι} (hs : I s)
    (h : AllSteps step C s is) : AllSteps step (fun s i => I s ∧ C s i) s is := by
  induction is generalizing s with
  | nil => exact trivial
  | cons i is ih => exact ⟨⟨hs, h.1⟩, fun s' hs' => ih (hstep s i s' hs h.1 hs') (h.2 s' hs')⟩

/-- what holds at the end of a run, and before every step after which it holds, held all along -/
theorem allSteps_back {P : σ → Prop} (hback : ∀ s i s', step s i = .ok s' → P s' → P s)
    {s s' : σ} {is : List ι} (h : run step s is = .ok s') (hend : P s') :
    P s ∧ AllSteps step (fun s _ => P s) s is := by
  induction is generalizing s with
  | nil =>
    cases h
    exact ⟨hend, trivial⟩
  | cons i is ih =>
    rw [run_cons] at h
    obtain ⟨m, hm, h⟩ := bind_eq_ok.mp h
    obtain ⟨hP, hall⟩ := ih h
    have hs : P s := hback s i m hm hP
    refine ⟨hs, hs, fun n hn => ?_⟩
    rw [hm] at hn
    cases hn
    exact hall

/-- along a run that keeps `I`, two step conditions that agree where `I` holds are the same -/
theorem allSteps_congr {C D : σ → ι → Prop} {I : σ → Prop}
    (hstep : ∀ s i s', I s → C s i → step s i = .ok s' → I s')
    (hCD : ∀ s i, I s → (C s i ↔ D s i)) {s : σ} {is : List ι} (hs : I s) :
    AllSteps step C s is ↔ AllSteps step D s is := by
  induction is generalizing s with
  | nil => exact Iff.rfl
  | cons i is ih =>
    show (C s i ∧ _) ↔ (D s i ∧ _)
    rw [← hCD s i hs]
    refine and_congr_right fun hc => forall_congr' fun s' => forall_congr' fun hs' => ?_
    exact ih (hstep s i s' hs hc hs')

/-- the steps of a run, each with the state it is taken in -/
theorem allSteps_iff {C : σ → ι → Prop} {s : σ} {is : List ι} :
    AllSteps step C s is ↔
      ∀ pre i post m, is = pre ++ i :: post → run step s pre = .ok m → C m i := by
  induction is generalizing s with
  | nil => simp [AllSteps]
  | cons i is ih =>
    constructor
    · rintro ⟨hc, hrest⟩ pre j post m e hm
      cases pre with
      | nil =>
        obtain ⟨rfl, rfl⟩ := List.cons.inj e
        cases hm
        exact hc
      | cons k pre =>
        obtain ⟨rfl, rfl⟩ := List.cons.inj e
        rw [run_cons] at hm
        obtain ⟨s', hs', hm⟩ := bind_eq_ok.mp hm
        exact (ih.mp (hrest s' hs')) pre j post m rfl hm
    · intro h
      refine ⟨h [] i is s rfl rfl, fun s' hs' => ih.mpr fun pre j post m e hm => ?_⟩
      refine h (i :: pre) j post m (by rw [e]; rfl) ?_
      rw [run_cons, hs']
      exact hm

/-- the sum of `f` over the steps of a run -/
def tally (step : σ → ι → Except ε σ) (f : σ → ι → Nat) : σ → List ι → Nat
  | _, [] => 0
  | s, i :: is => f s i + match step s i with
    | .ok s' => tally step f s' is
    | .error _ => 0

/-- a sum is zero when every part is -/
theorem tally_eq_zero {f : σ → ι → Nat} {s : σ} {is : List ι} :
    tally step f s is = 0 ↔ AllSteps step (fun s i => f s i = 0) s is := by
  induction is generalizing s with
  | nil => exact ⟨fun _ => trivial, fun _ => rfl⟩
  | cons i is ih =>
    unfold tally AllSteps
    cases hstep : step s i with
    | error e =>
      dsimp only
      rw [Nat.add_zero]
      exact ⟨fun h => ⟨h, fun s' hs' => (by cases hs')⟩, fun h => h.1⟩
    | ok m =>
      dsimp only
      rw [Nat.add_eq_zero_iff, ih]
      constructor
      · intro h
        refine ⟨h.1, ?_⟩
        intro s' hs'
        cases hs'
        exact h.2
      · intro h
        exact ⟨h.1, h.2 m rfl⟩

/-- what a run brings in is what it gives out and what is left in store -/
theorem tally_balance {C : σ → ι → Prop} {I : σ → Prop} {f g : σ → ι → Nat} {store : σ → Nat}
    (hstep : ∀ s i s', I s → C s i → step s i = .ok s' →
      I s' ∧ store s + f s i = g s i + store s') {s s' : σ} {is : List ι} (hs : I s)
    (hC : AllSteps step C s is) (h : run step s is = .ok s') :
    store s + tally step f s is = tally step g s is + store s' := by
  induction is generalizing s with
  | nil =>
    cases h
    exact Nat.add_comm _ _
  | cons i is ih =>
    rw [run_cons] at h
    obtain ⟨m, hm, h⟩ := bind_eq_ok.mp h
    obtain ⟨hI, hone⟩ := hstep s i m hs hC.1 hm
    have hrest := ih hI (hC.2 m hm) h
    unfold tally
    rw [hm]
    dsimp only
    omega

end

/-! ## labelled chains -/

section
variable {L S : Type} {Step : L → S → S → Prop}

/-- steps with these labels, one after the other -/
inductive Chain (Step : L → S → S → Prop) : List L → S → S → Prop
  | nil (s : S) : Chain Step [] s s
  | cons {l : L} {ls : List L} {s s' s'' : S} (h : Step l s s') (hs : Chain Step ls s' s'') :
      Chain Step (l :: ls) s s''

theorem Chain.one {l : L} {s s' : S} (h : Step l s s') : Chain Step [l] s s' := .cons h (.nil s')

theorem Chain.append {ls ms : List L} {s s' s'' : S} (h : Chain Step ls s s')
    (h' : Chain Step ms s' s'') : Chain Step (ls ++ ms) s s'' := by
  induction h with
  | nil s => exact h'
  | cons h _ ih => exact .cons h (ih h')

theorem Chain.mono {Step' : L → S → S → Prop} (hstep : ∀ l s s', Step l s s' → Step' l s s')
    {ls : List L} {s s' : S} (h : Chain Step ls s s') : Chain Step' ls s s' := by
  induction h with
  | nil s => exact .nil s
  | cons h _ ih => exact .cons (hstep _ _ _ h) ih

/-- a chain whose labels do not exist -/
theorem Chain.eq_of_not {P : L → Prop} {ls : List L} {s s' : S} (h : Chain Step ls s s')
    (hP : ∀ l ∈ ls, P l) (hnot : ∀ l, ¬ P l) : s' = s := by
  cases h with
  | nil => rfl
  | cons => exact absurd (hP _ List.mem_cons_self) (hnot _)

/-- induction over a chain whose labels all meet `P` -/
theorem Chain.inv {I : S → Prop} {P : L → Prop} (hstep : ∀ l s s', P l → I s → Step l s s' → I s')
    {ls : List L} {s s' : S} (h : Chain Step ls s s') (hP : ∀ l ∈ ls, P l) (hs : I s) : I s' := by
  induction h with
  | nil s => exact hs
  | cons h _ ih =>
    exact ih (fun l hl => hP l (List.mem_cons_of_mem _ hl))
      (hstep _ _ _ (hP _ List.mem_cons_self) hs h)

end

end Outcome
