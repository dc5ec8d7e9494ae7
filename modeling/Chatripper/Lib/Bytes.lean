import Mathlib

/-!
# Byte strings

Byte strings are lists of octets.  The operations are the ones of a byte-array class with
`indexOf`, `split`, `trimmed`, `toLower` and decimal conversion; positions that may be absent are
`Option`s.  Main facts:

* `indexOf_append`      the first occurrence of a byte after a part without it;
* `indexOfSub_append`   the same for a two-byte pattern;
* `split_join`          words without the separator are the pieces of the text they are joined to;
* `trimmed_of_ends`     trimming does nothing when both ends are not white space;
* `toLower_idem`        folding to lower case twice is folding once.
-/

namespace ByteStr

abbrev Bytes := List UInt8

/-- the octets of an ASCII literal -/
def ascii (s : String) : Bytes := s.toList.map fun c => UInt8.ofNat c.toNat

def LF : UInt8 := 10
def CR : UInt8 := 13
def SP : UInt8 := 32

def crlf : Bytes := [CR, LF]

/-! ## searching and splitting -/

def indexOf (b : UInt8) (xs : Bytes) : Option Nat := xs.idxOf? b

/-- position of the first occurrence of `pat` -/
def indexOfSub (pat : Bytes) : Bytes → Option Nat
  | [] => if pat = [] then some 0 else none
  | x :: xs => if pat.isPrefixOf (x :: xs) then some 0 else (indexOfSub pat xs).map (· + 1)

def split (sep : UInt8) (xs : Bytes) : List Bytes := xs.splitOn sep

def join (sep : Bytes) (l : List Bytes) : Bytes := sep.intercalate l

theorem indexOf_none {b : UInt8} {xs : Bytes} : indexOf b xs = none ↔ b ∉ xs :=
  List.idxOf?_eq_none_iff

theorem indexOf_append {b : UInt8} {p : Bytes} (h : b ∉ p) (r : Bytes) :
    indexOf b (p ++ b :: r) = some p.length := by
  induction p with
  | nil => simp [indexOf, List.idxOf?_cons]
  | cons x p ih =>
    have hx : b ≠ x := List.ne_of_not_mem_cons h
    have hp : b ∉ p := List.not_mem_of_not_mem_cons h
    have ih' := ih hp
    unfold indexOf at ih' ⊢
    rw [List.cons_append, List.idxOf?_cons, if_neg (by simpa using Ne.symm hx), ih']
    rfl

/-- a found position cuts the string at the first occurrence -/
theorem indexOf_some {b : UInt8} {xs : Bytes} {n : Nat} (h : indexOf b xs = some n) :
    b ∉ xs.take n ∧ xs = xs.take n ++ b :: xs.drop (n + 1) := by
  obtain ⟨hn, hb, hlt⟩ := List.idxOf?_eq_some_iff.mp h
  refine ⟨fun hm => ?_, ?_⟩
  · obtain ⟨j, hj, e⟩ := List.mem_iff_getElem.mp hm
    rw [List.length_take] at hj
    rw [List.getElem_take] at e
    have := hlt j (by omega)
    simp [e] at this
  · have hb' : xs[n] = b := by simpa using hb
    rw [← hb', ← List.drop_eq_getElem_cons hn, List.take_append_drop]

/-- the pattern `x y` is found at the first `x` when what precedes has no `x` -/
theorem indexOfSub_append {x y : UInt8} {p : Bytes} (h : x ∉ p) (r : Bytes) :
    indexOfSub [x, y] (p ++ x :: y :: r) = some p.length := by
  induction p with
  | nil => simp [indexOfSub]
  | cons z p ih =>
    have hz : x ≠ z := List.ne_of_not_mem_cons h
    have hp : x ∉ p := List.not_mem_of_not_mem_cons h
    have hne : (x == z) = false := by simpa using hz
    rw [List.cons_append, indexOfSub, ih hp]
    simp [List.isPrefixOf, hne]

/-- the pattern `x y` is not where there is no `x` -/
theorem indexOfSub_none {x y : UInt8} {p : Bytes} (h : x ∉ p) : indexOfSub [x, y] p = none := by
  induction p with
  | nil => simp [indexOfSub]
  | cons z p ih =>
    have hz : x ≠ z := List.ne_of_not_mem_cons h
    have hp : x ∉ p := List.not_mem_of_not_mem_cons h
    have hne : (x == z) = false := by simpa using hz
    rw [indexOfSub, ih hp]
    simp [List.isPrefixOf, hne]

/-- an `x` that no `y` follows does not start the pattern -/
theorem indexOfSub_skip {x y : UInt8} {p q : Bytes} (hp : x ∉ p) (hq : q.head? ≠ some y) :
    indexOfSub [x, y] (p ++ x :: q) = (indexOfSub [x, y] q).map (· + (p.length + 1)) := by
  induction p with
  | nil =>
    have hfirst : [x, y].isPrefixOf (x :: q) = false := by
      cases q with
      | nil => simp [List.isPrefixOf]
      | cons z q =>
        have hz : (y == z) = false := by
          rw [beq_eq_false_iff_ne]
          rintro rfl
          exact hq rfl
        simp [List.isPrefixOf, hz]
    rw [List.nil_append, indexOfSub, hfirst]
    rfl
  | cons z p ih =>
    have hz : x ≠ z := List.ne_of_not_mem_cons hp
    have hne : (x == z) = false := by simpa using hz
    rw [List.cons_append, indexOfSub, ih (List.not_mem_of_not_mem_cons hp)]
    have hfirst : [x, y].isPrefixOf (z :: (p ++ x :: q)) = false := by
      simp [List.isPrefixOf, hne]
    rw [hfirst, if_neg Bool.false_ne_true, Option.map_map]
    congr 1

theorem split_of_not_mem {sep : UInt8} {xs : Bytes} (h : sep ∉ xs) : split sep xs = [xs] :=
  List.splitOn_eq_singleton h

/-- every piece of a split is made of bytes of the whole -/
theorem mem_of_mem_split {sep b : UInt8} {xs piece : Bytes} (hp : piece ∈ split sep xs)
    (hb : b ∈ piece) : b ∈ xs := by
  have h : join [sep] (split sep xs) = xs := List.intercalate_splitOn sep
  rw [← h]
  generalize split sep xs = l at hp
  unfold join
  induction l with
  | nil => cases hp
  | cons q l ih =>
    rcases List.mem_cons.mp hp with rfl | hq
    · cases l with
      | nil => simpa [List.intercalate] using hb
      | cons _ _ => rw [List.intercalate_cons_cons]; simp [hb]
    · cases l with
      | nil => cases hq
      | cons r l => rw [List.intercalate_cons_cons]; simp [ih hq]

/-- no piece of a split has the separator -/
theorem not_mem_of_mem_split {sep : UInt8} {xs piece : Bytes} (h : piece ∈ split sep xs) :
    sep ∉ piece := by
  unfold split at h
  induction xs generalizing piece with
  | nil =>
    rw [List.splitOn_nil, List.mem_singleton] at h
    rw [h]
    exact List.not_mem_nil
  | cons x xs ih =>
    rw [List.splitOn_cons_eq_if_modifyHead] at h
    by_cases hx : (x == sep) = true
    · rw [if_pos hx] at h
      rcases List.mem_cons.mp h with rfl | h
      · exact List.not_mem_nil
      · exact ih h
    · rw [if_neg hx] at h
      cases hs : xs.splitOn sep with
      | nil => exact absurd hs (List.splitOn_ne_nil sep xs)
      | cons p ps =>
        rw [hs] at h ih
        rcases List.mem_cons.mp h with rfl | h
        · rw [List.mem_cons, not_or]
          exact ⟨fun he => hx (by rw [he]; exact beq_self_eq_true x), ih List.mem_cons_self⟩
        · exact ih (List.mem_cons_of_mem _ h)

/-! ## joining -/

section
variable {sep : Bytes} {l m : List Bytes} {x y : Bytes}

theorem join_singleton : join sep [x] = x := List.intercalate_singleton

theorem join_cons_of_ne_nil (hl : l ≠ []) : join sep (x :: l) = x ++ sep ++ join sep l :=
  List.intercalate_cons_of_ne_nil hl

theorem join_append (hl : l ≠ []) (hm : m ≠ []) :
    join sep (l ++ m) = join sep l ++ sep ++ join sep m := by
  induction l with
  | nil => exact absurd rfl hl
  | cons x l ih =>
    cases l with
    | nil => rw [List.singleton_append, join_cons_of_ne_nil hm, join_singleton]
    | cons y l =>
      rw [List.cons_append, join_cons_of_ne_nil (by simp), ih (List.cons_ne_nil _ _),
        join_cons_of_ne_nil (List.cons_ne_nil _ _)]
      simp only [List.append_assoc]

/-- the last word of one text and the first of another become one -/
theorem join_glue : join sep (l ++ [x]) ++ join sep (y :: m) = join sep (l ++ (x ++ y) :: m) := by
  have hm : x ++ join sep (y :: m) = join sep ((x ++ y) :: m) := by
    by_cases hm : m = []
    · rw [hm, join_singleton, join_singleton]
    · rw [join_cons_of_ne_nil hm, join_cons_of_ne_nil hm]
      simp only [List.append_assoc]
  by_cases hl : l = []
  · rw [hl, List.nil_append, List.nil_append, join_singleton, hm]
  · rw [join_append hl (List.cons_ne_nil _ _), join_append hl (List.cons_ne_nil _ _), join_singleton, ← hm]
    simp only [List.append_assoc]

theorem split_join {b : UInt8} (hl : l ≠ []) (h : ∀ x ∈ l, b ∉ x) : split b (join [b] l) = l :=
  List.splitOn_intercalate b h hl

end

/-! ## trimming -/

/-- space, `\t`, `\n`, `\v`, `\f`, `\r` -/
def isSpace (b : UInt8) : Bool := b == 32 || (9 ≤ b && b ≤ 13)

def trimmed (xs : Bytes) : Bytes := (xs.dropWhile isSpace).rdropWhile isSpace

theorem trimmed_of_ends {x y : UInt8} {xs : Bytes} (hx : isSpace x = false)
    (hy : isSpace y = false) : trimmed (x :: xs ++ [y]) = x :: xs ++ [y] := by
  unfold trimmed
  rw [List.cons_append, List.dropWhile_cons_of_neg (by simp [hx]), ← List.cons_append]
  exact List.rdropWhile_concat_neg _ _ _ (by simp [hy])

/-! ## letter case -/

/-- ASCII letters only, as a byte string has no other notion of case -/
def lowerByte (b : UInt8) : UInt8 := if 65 ≤ b ∧ b ≤ 90 then b + 32 else b

def toLower (xs : Bytes) : Bytes := xs.map lowerByte

theorem lowerByte_idem (b : UInt8) : lowerByte (lowerByte b) = lowerByte b := by
  unfold lowerByte
  by_cases h : 65 ≤ b ∧ b ≤ 90
  · have h2 : ¬ (65 ≤ b + 32 ∧ b + 32 ≤ 90) := by
      rintro ⟨-, h3⟩
      simp only [UInt8.le_iff_toNat_le, UInt8.toNat_add, UInt8.reduceToNat] at h h3
      omega
    rw [if_pos h, if_neg h2]
  · rw [if_neg h, if_neg h]

@[simp] theorem toLower_idem (xs : Bytes) : toLower (toLower xs) = toLower xs := by
  unfold toLower
  rw [List.map_map]
  exact List.map_congr_left fun b _ => lowerByte_idem b

/-! ## decimal numbers -/

def number (n : Nat) : Bytes := (Nat.toDigits 10 n).map fun c => UInt8.ofNat c.toNat

def rightJustified (width : Nat) (fill : UInt8) (xs : Bytes) : Bytes :=
  List.replicate (width - xs.length) fill ++ xs

/-- value of a string of decimal digits -/
def digits? (xs : Bytes) : Option Nat :=
  if xs = [] then none
  else xs.foldl
    (fun acc b => acc.bind fun n => if 48 ≤ b ∧ b ≤ 57 then some (n * 10 + (b.toNat - 48)) else none)
    (some 0)

/-- a signed decimal that fits a 32-bit `int`; leading white space is skipped -/
def toInt? (xs : Bytes) : Option Int :=
  let fits (n : Int) := if -2147483648 ≤ n ∧ n ≤ 2147483647 then some n else none
  match xs.dropWhile isSpace with
  | 45 :: ds => (digits? ds).bind fun n => fits (-(n : Int))
  | 43 :: ds => (digits? ds).bind fun n => fits n
  | ds => (digits? ds).bind fun n => fits n

example : toInt? (ascii "-42") = some (-42) := by decide
example : number 353 = ascii "353" := by decide

end ByteStr
