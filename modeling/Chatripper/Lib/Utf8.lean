import Mathlib
import Chatripper.Lib.Bytes

/-!
# Text and its UTF-8 octets

Text is a list of Unicode scalar values.  `toUtf8` writes it, `fromUtf8` reads any byte string:
a leading byte order mark is dropped and every byte that starts no well-formed sequence gives
one replacement character.

* `decode_encodeChar`   reading what was written for one character;
* `fromUtf8_toUtf8`     text that does not start with a byte order mark survives the round trip;
* `mem_toUtf8`          an ASCII byte of the octets is that character of the text;
* `mem_fromUtf8`        an ASCII character that was read is a byte of the octets;
* `IsUtf8.cut`          octets of text may be cut in front of a byte that starts a character.
-/

namespace Utf8
open ByteStr

abbrev QString := List Char

/-- U+FFFD -/
def replacement : Char := Char.ofNat 0xFFFD
/-- U+FEFF -/
def bom : Char := Char.ofNat 0xFEFF

def encodeChar (c : Char) : Bytes :=
  let n := c.toNat
  if n < 0x80 then [UInt8.ofNat n]
  else if n < 0x800 then [UInt8.ofNat (0xC0 + n / 64), UInt8.ofNat (0x80 + n % 64)]
  else if n < 0x10000 then
    [UInt8.ofNat (0xE0 + n / 4096), UInt8.ofNat (0x80 + n / 64 % 64), UInt8.ofNat (0x80 + n % 64)]
  else
    [UInt8.ofNat (0xF0 + n / 262144), UInt8.ofNat (0x80 + n / 4096 % 64),
      UInt8.ofNat (0x80 + n / 64 % 64), UInt8.ofNat (0x80 + n % 64)]

def toUtf8 (s : QString) : Bytes := s.flatMap encodeChar

def isTail (b : UInt8) : Bool := 0x80 ≤ b.toNat && b.toNat < 0xC0

def two (b0 b1 : UInt8) : Option Char :=
  let n := (b0.toNat - 0xC0) * 64 + (b1.toNat - 0x80)
  if 0xC0 ≤ b0.toNat ∧ b0.toNat < 0xE0 ∧ isTail b1 ∧ 0x80 ≤ n then some (Char.ofNat n) else none

def three (b0 b1 b2 : UInt8) : Option Char :=
  let n := (b0.toNat - 0xE0) * 4096 + (b1.toNat - 0x80) * 64 + (b2.toNat - 0x80)
  if 0xE0 ≤ b0.toNat ∧ b0.toNat < 0xF0 ∧ isTail b1 ∧ isTail b2 ∧ 0x800 ≤ n ∧
      ¬ (0xD800 ≤ n ∧ n < 0xE000) then some (Char.ofNat n) else none

def four (b0 b1 b2 b3 : UInt8) : Option Char :=
  let n := (b0.toNat - 0xF0) * 262144 + (b1.toNat - 0x80) * 4096 + (b2.toNat - 0x80) * 64
    + (b3.toNat - 0x80)
  if 0xF0 ≤ b0.toNat ∧ b0.toNat < 0xF8 ∧ isTail b1 ∧ isTail b2 ∧ isTail b3 ∧ 0x10000 ≤ n ∧
      n < 0x110000 then some (Char.ofNat n) else none

/-- the character that starts with `b0`, and how many of the following bytes belong to it -/
def first (b0 : UInt8) (bs : Bytes) : Char × Nat :=
  if b0.toNat < 0x80 then (Char.ofNat b0.toNat, 0)
  else match bs with
    | [] => (replacement, 0)
    | b1 :: bs1 =>
      match two b0 b1, bs1 with
      | some c, _ => (c, 1)
      | none, [] => (replacement, 0)
      | none, b2 :: bs2 =>
        match three b0 b1 b2, bs2 with
        | some c, _ => (c, 2)
        | none, [] => (replacement, 0)
        | none, b3 :: _ => ((four b0 b1 b2 b3).getD replacement, if (four b0 b1 b2 b3).isSome then 3 else 0)

/-- decode after `skip` bytes that belong to the character before -/
def decodeSkip : Nat → Bytes → QString
  | _, [] => []
  | 0, b0 :: bs => (first b0 bs).1 :: decodeSkip (first b0 bs).2 bs
  | skip + 1, _ :: bs => decodeSkip skip bs

def decode (bs : Bytes) : QString := decodeSkip 0 bs

def fromUtf8 (bs : Bytes) : QString :=
  match bs with
  | 0xEF :: 0xBB :: 0xBF :: rest => decode rest
  | bs => decode bs

/-! ## the round trip -/

theorem toNat_lt (c : Char) : c.toNat < 0x110000 := by
  have h := c.valid
  simp only [UInt32.isValidChar, Nat.isValidChar] at h
  show c.val.toNat < _
  omega

theorem not_surrogate (c : Char) : ¬ (0xD800 ≤ c.toNat ∧ c.toNat < 0xE000) := by
  have h := c.valid
  simp only [UInt32.isValidChar, Nat.isValidChar] at h
  show ¬ (0xD800 ≤ c.val.toNat ∧ c.val.toNat < 0xE000)
  omega

theorem toNat_byte {n : Nat} (h : n < 256) : (UInt8.ofNat n).toNat = n := by
  rw [UInt8.toNat_ofNat']
  exact Nat.mod_eq_of_lt h

@[simp] theorem ofNat_toNat (c : Char) : Char.ofNat c.toNat = c := Char.ofNat_toNat c

theorem first_encodeChar (c : Char) :
    ∃ b0 bs, encodeChar c = b0 :: bs ∧ ∀ rest, first b0 (bs ++ rest) = (c, bs.length) := by
  have hlt := toNat_lt c
  have hs := not_surrogate c
  unfold encodeChar
  by_cases h1 : c.toNat < 0x80
  · refine ⟨UInt8.ofNat c.toNat, [], by simp [h1], fun rest => ?_⟩
    unfold first
    rw [toNat_byte (by omega), if_pos h1, ofNat_toNat]
    rfl
  · by_cases h2 : c.toNat < 0x800
    · refine ⟨UInt8.ofNat (0xC0 + c.toNat / 64), [UInt8.ofNat (0x80 + c.toNat % 64)],
        by simp [h1, h2], fun rest => ?_⟩
      have e : two (UInt8.ofNat (0xC0 + c.toNat / 64)) (UInt8.ofNat (0x80 + c.toNat % 64))
          = some c := by
        have en : (0xC0 + c.toNat / 64 - 0xC0) * 64 + (0x80 + c.toNat % 64 - 0x80) = c.toNat := by
          omega
        unfold two isTail
        rw [toNat_byte (by omega), toNat_byte (by omega), en]
        simp only [ofNat_toNat, Bool.and_eq_true, decide_eq_true_eq]
        exact if_pos (by omega)
      unfold first
      rw [toNat_byte (by omega), if_neg (by omega)]
      simp only [List.singleton_append, e]
      rfl
    · by_cases h3 : c.toNat < 0x10000
      · refine ⟨UInt8.ofNat (0xE0 + c.toNat / 4096), [UInt8.ofNat (0x80 + c.toNat / 64 % 64),
          UInt8.ofNat (0x80 + c.toNat % 64)], by simp [h1, h2, h3], fun rest => ?_⟩
        have e2 : two (UInt8.ofNat (0xE0 + c.toNat / 4096))
            (UInt8.ofNat (0x80 + c.toNat / 64 % 64)) = none := by
          unfold two
          rw [toNat_byte (by omega), toNat_byte (by omega)]
          exact if_neg (by omega)
        have e : three (UInt8.ofNat (0xE0 + c.toNat / 4096))
            (UInt8.ofNat (0x80 + c.toNat / 64 % 64)) (UInt8.ofNat (0x80 + c.toNat % 64))
            = some c := by
          have en : (0xE0 + c.toNat / 4096 - 0xE0) * 4096 + (0x80 + c.toNat / 64 % 64 - 0x80) * 64
              + (0x80 + c.toNat % 64 - 0x80) = c.toNat := by omega
          unfold three isTail
          rw [toNat_byte (by omega), toNat_byte (by omega), toNat_byte (by omega), en]
          simp only [ofNat_toNat, Bool.and_eq_true, decide_eq_true_eq]
          exact if_pos (by omega)
        unfold first
        rw [toNat_byte (by omega), if_neg (by omega)]
        simp only [List.cons_append, List.nil_append, e2, e]
        rfl
      · refine ⟨UInt8.ofNat (0xF0 + c.toNat / 262144), [UInt8.ofNat (0x80 + c.toNat / 4096 % 64),
          UInt8.ofNat (0x80 + c.toNat / 64 % 64), UInt8.ofNat (0x80 + c.toNat % 64)],
          by simp [h1, h2, h3], fun rest => ?_⟩
        have e2 : two (UInt8.ofNat (0xF0 + c.toNat / 262144))
            (UInt8.ofNat (0x80 + c.toNat / 4096 % 64)) = none := by
          unfold two
          rw [toNat_byte (by omega), toNat_byte (by omega)]
          exact if_neg (by omega)
        have e3 : three (UInt8.ofNat (0xF0 + c.toNat / 262144))
            (UInt8.ofNat (0x80 + c.toNat / 4096 % 64)) (UInt8.ofNat (0x80 + c.toNat / 64 % 64))
            = none := by
          unfold three
          rw [toNat_byte (by omega), toNat_byte (by omega), toNat_byte (by omega)]
          exact if_neg (by omega)
        have e : four (UInt8.ofNat (0xF0 + c.toNat / 262144))
            (UInt8.ofNat (0x80 + c.toNat / 4096 % 64)) (UInt8.ofNat (0x80 + c.toNat / 64 % 64))
            (UInt8.ofNat (0x80 + c.toNat % 64)) = some c := by
          have en : (0xF0 + c.toNat / 262144 - 0xF0) * 262144
              + (0x80 + c.toNat / 4096 % 64 - 0x80) * 4096 + (0x80 + c.toNat / 64 % 64 - 0x80) * 64
              + (0x80 + c.toNat % 64 - 0x80) = c.toNat := by omega
          unfold four isTail
          rw [toNat_byte (by omega), toNat_byte (by omega), toNat_byte (by omega),
            toNat_byte (by omega), en]
          simp only [ofNat_toNat, Bool.and_eq_true, decide_eq_true_eq]
          exact if_pos (by omega)
        unfold first
        rw [toNat_byte (by omega), if_neg (by omega)]
        simp only [List.cons_append, List.nil_append, e2, e3, e]
        rfl

theorem decodeSkip_append (skip rest : Bytes) :
    decodeSkip skip.length (skip ++ rest) = decode rest := by
  induction skip with
  | nil => rfl
  | cons b skip ih => exact ih

theorem decode_encodeChar (c : Char) (rest : Bytes) :
    decode (encodeChar c ++ rest) = c :: decode rest := by
  obtain ⟨b0, bs, e, hf⟩ := first_encodeChar c
  rw [e, List.cons_append]
  unfold decode
  rw [decodeSkip, hf, decodeSkip_append]
  rfl

theorem decode_toUtf8 (s : QString) : decode (toUtf8 s) = s := by
  induction s with
  | nil => rfl
  | cons c s ih =>
    show decode (encodeChar c ++ toUtf8 s) = _
    rw [decode_encodeChar, ih]

theorem decode_bom (rest : Bytes) : decode (0xEF :: 0xBB :: 0xBF :: rest) = bom :: decode rest :=
  decode_encodeChar bom rest

/-- a leading byte order mark is the only thing the round trip loses -/
theorem fromUtf8_toUtf8 {s : QString} : fromUtf8 (toUtf8 s) = s ↔ s.head? ≠ some bom := by
  have hd := decode_toUtf8 s
  unfold fromUtf8
  split
  · next rest e =>
    rw [e, decode_bom] at hd
    rw [← hd]
    simp only [List.head?_cons, ne_eq, not_true_eq_false, iff_false]
    intro h
    have := congrArg List.length h
    simp at this
  · next hne =>
    rw [hd]
    simp only [true_iff]
    intro h
    cases s with
    | nil => cases h
    | cons c s =>
      obtain rfl : c = bom := by simpa using h
      exact hne (toUtf8 s) rfl

/-! ## ASCII bytes of the octets -/

theorem encodeChar_ascii {c : Char} (h : c.toNat < 0x80) : encodeChar c = [UInt8.ofNat c.toNat] := by
  simp [encodeChar, h]

theorem encodeChar_high {c : Char} (h : ¬ c.toNat < 0x80) : ∀ b ∈ encodeChar c, 0x80 ≤ b.toNat := by
  have hlt := toNat_lt c
  unfold encodeChar
  simp only [h, if_false]
  intro b hb
  split at hb
  · simp only [List.mem_cons, List.not_mem_nil, or_false] at hb
    rcases hb with rfl | rfl <;> rw [toNat_byte (by omega)] <;> omega
  · split at hb
    · simp only [List.mem_cons, List.not_mem_nil, or_false] at hb
      rcases hb with rfl | rfl | rfl <;> rw [toNat_byte (by omega)] <;> omega
    · simp only [List.mem_cons, List.not_mem_nil, or_false] at hb
      rcases hb with rfl | rfl | rfl | rfl <;> rw [toNat_byte (by omega)] <;> omega

theorem encodeChar_ne_nil (c : Char) : encodeChar c ≠ [] := by
  unfold encodeChar
  simp only
  split_ifs <;> simp

theorem mem_encodeChar {b : UInt8} (hb : b.toNat < 0x80) (c : Char) :
    b ∈ encodeChar c ↔ c = Char.ofNat b.toNat := by
  by_cases h : c.toNat < 0x80
  · rw [encodeChar_ascii h, List.mem_singleton]
    constructor
    · rintro rfl
      rw [toNat_byte (by omega), ofNat_toNat]
    · intro e
      have hv : (Char.ofNat b.toNat).toNat = b.toNat := by
        rw [Char.toNat_ofNat, if_pos (Or.inl (by omega))]
      rw [e, hv, UInt8.ofNat_toNat]
  · constructor
    · intro hm
      have := encodeChar_high h b hm
      omega
    · intro e
      rw [e, Char.toNat_ofNat, if_pos (Or.inl (by omega))] at h
      omega

theorem mem_toUtf8 {b : UInt8} (hb : b.toNat < 0x80) (s : QString) :
    b ∈ toUtf8 s ↔ Char.ofNat b.toNat ∈ s := by
  unfold toUtf8
  simp only [List.mem_flatMap, mem_encodeChar hb]
  constructor
  · rintro ⟨c, hc, rfl⟩; exact hc
  · intro h; exact ⟨_, h, rfl⟩

@[simp] theorem toUtf8_nil : toUtf8 [] = [] := rfl

theorem toUtf8_cons (c : Char) (s : QString) : toUtf8 (c :: s) = encodeChar c ++ toUtf8 s := rfl

theorem toUtf8_append (s t : QString) : toUtf8 (s ++ t) = toUtf8 s ++ toUtf8 t :=
  List.flatMap_append

theorem toUtf8_eq_nil {s : QString} : toUtf8 s = [] ↔ s = [] := by
  cases s with
  | nil => simp
  | cons c s => simp [toUtf8_cons, encodeChar_ne_nil]

/-! ## ASCII characters of the text -/

theorem toNat_ofNat {n : Nat} (h : n < 0x110000) (hs : ¬ (0xD800 ≤ n ∧ n < 0xE000)) :
    (Char.ofNat n).toNat = n := by
  rw [Char.toNat_ofNat, if_pos]
  show n < 0xD800 ∨ 0xDFFF < n ∧ n < 0x110000
  omega

theorem isTail_lt {b : UInt8} (h : isTail b = true) : b.toNat - 0x80 < 64 := by
  unfold isTail at h
  simp only [Bool.and_eq_true, decide_eq_true_eq] at h
  omega

theorem high_two {b0 b1 : UInt8} {c : Char} (h : two b0 b1 = some c) : 0x80 ≤ c.toNat := by
  unfold two at h
  dsimp only at h
  split at h
  · next hn =>
    obtain ⟨-, hlt, ht, hn⟩ := hn
    have := isTail_lt ht
    rw [← Option.some.inj h, toNat_ofNat (by omega) (by omega)]
    exact hn
  · cases h

theorem high_three {b0 b1 b2 : UInt8} {c : Char} (h : three b0 b1 b2 = some c) : 0x80 ≤ c.toNat := by
  unfold three at h
  dsimp only at h
  split at h
  · next hn =>
    obtain ⟨-, hlt, ht, ht', hn, hs⟩ := hn
    have := isTail_lt ht
    have := isTail_lt ht'
    rw [← Option.some.inj h, toNat_ofNat (by omega) hs]
    omega
  · cases h

theorem high_four {b0 b1 b2 b3 : UInt8} : 0x80 ≤ ((four b0 b1 b2 b3).getD replacement).toNat := by
  unfold four
  dsimp only
  split
  · next hn =>
    obtain ⟨-, -, -, -, -, hn, hlt⟩ := hn
    rw [Option.getD_some, toNat_ofNat hlt (by omega)]
    omega
  · decide

/-- an ASCII character is read from its own byte -/
theorem first_ascii {b0 : UInt8} {bs : Bytes} (h : (first b0 bs).1.toNat < 0x80) :
    (first b0 bs).1 = Char.ofNat b0.toNat ∧ b0.toNat < 0x80 := by
  unfold first at h ⊢
  by_cases hb : b0.toNat < 0x80
  · rw [if_pos hb]
    exact ⟨rfl, hb⟩
  · rw [if_neg hb] at h
    have hrep : ¬ replacement.toNat < 0x80 := by decide
    split at h
    · exact absurd h hrep
    · split at h
      · next h2 => exact absurd h (not_lt.mpr (high_two h2))
      · exact absurd h hrep
      · split at h
        · next h3 => exact absurd h (not_lt.mpr (high_three h3))
        · exact absurd h hrep
        · exact absurd h (not_lt.mpr high_four)

theorem mem_decodeSkip {c : Char} (hc : c.toNat < 0x80) {skip : Nat} {bs : Bytes}
    (h : c ∈ decodeSkip skip bs) : UInt8.ofNat c.toNat ∈ bs := by
  induction bs generalizing skip with
  | nil =>
    cases skip <;> cases h
  | cons b bs ih =>
    cases skip with
    | succ skip => exact List.mem_cons_of_mem _ (ih h)
    | zero =>
      rcases List.mem_cons.mp h with he | h
      · obtain ⟨hfirst, hb⟩ : (first b bs).1 = Char.ofNat b.toNat ∧ b.toNat < 0x80 :=
          first_ascii (by rw [← he]; exact hc)
        rw [he, hfirst, toNat_ofNat (by omega) (by omega), UInt8.ofNat_toNat]
        exact List.mem_cons_self
      · exact List.mem_cons_of_mem _ (ih h)

/-- an ASCII character of the text is a byte of the octets -/
theorem mem_fromUtf8 {c : Char} (hc : c.toNat < 0x80) {bs : Bytes} (h : c ∈ fromUtf8 bs) :
    UInt8.ofNat c.toNat ∈ bs := by
  unfold fromUtf8 at h
  split at h
  · refine List.mem_cons_of_mem _ (List.mem_cons_of_mem _ (List.mem_cons_of_mem _ ?_))
    exact mem_decodeSkip hc h
  · exact mem_decodeSkip hc h

example : fromUtf8 [0x61, 0xC3, 0xA9, 0xFF, 0xE2, 0x82] = ['a', 'é', replacement, replacement, replacement] := by
  decide

/-! ## where characters end -/

/-- well-formed text -/
def IsUtf8 (b : Bytes) : Prop := ∃ s, b = toUtf8 s

/-- bytes of a character after the first -/
theorem isTail_encodeChar {c : Char} {a b : Bytes} {x : UInt8} (h : encodeChar c = a ++ x :: b)
    (ha : a ≠ []) : isTail x = true := by
  have hlt := toNat_lt c
  have htail (n : Nat) (hn : n < 64) : isTail (UInt8.ofNat (0x80 + n)) = true := by
    unfold isTail
    rw [toNat_byte (by omega), Bool.and_eq_true, decide_eq_true_eq, decide_eq_true_eq]
    omega
  obtain ⟨y, a, rfl⟩ := List.exists_cons_of_ne_nil ha
  have hmem : x ∈ (encodeChar c).tail := by
    rw [h]
    exact List.mem_append_right _ List.mem_cons_self
  unfold encodeChar at hmem
  dsimp only at hmem
  split at hmem
  · cases hmem
  · split at hmem
    · simp only [List.tail_cons, List.mem_cons, List.not_mem_nil, or_false] at hmem
      rw [hmem]
      exact htail _ (by omega)
    · split at hmem
      · simp only [List.tail_cons, List.mem_cons, List.not_mem_nil, or_false] at hmem
        rcases hmem with rfl | rfl <;> exact htail _ (by omega)
      · simp only [List.tail_cons, List.mem_cons, List.not_mem_nil, or_false] at hmem
        rcases hmem with rfl | rfl | rfl <;> exact htail _ (by omega)

theorem not_isTail_of_ascii {x : UInt8} (h : x.toNat < 0x80) : isTail x = false := by
  unfold isTail
  rw [Bool.and_eq_false_iff, decide_eq_false_iff_not]
  omega

/-- the first byte of a character -/
theorem not_isTail_head (c : Char) : ∀ x ∈ (encodeChar c).head?, isTail x = false := by
  have hlt := toNat_lt c
  intro x hx
  have hcases : x.toNat < 0x80 ∨ 0xC0 ≤ x.toNat := by
    unfold encodeChar at hx
    dsimp only at hx
    split at hx
    · cases hx
      rw [toNat_byte (by omega)]
      omega
    · split at hx
      · cases hx
        rw [toNat_byte (by omega)]
        omega
      · split at hx <;> cases hx <;> rw [toNat_byte (by omega)] <;> omega
  unfold isTail
  rw [Bool.and_eq_false_iff, decide_eq_false_iff_not, decide_eq_false_iff_not]
  omega

namespace IsUtf8

theorem nil : IsUtf8 [] := ⟨[], rfl⟩

theorem ascii_byte {x : UInt8} (hx : x.toNat < 0x80) : IsUtf8 [x] := by
  refine ⟨[Char.ofNat x.toNat], ?_⟩
  have hv : (Char.ofNat x.toNat).toNat = x.toNat := by
    rw [Char.toNat_ofNat, if_pos (Or.inl (by omega))]
  show [x] = encodeChar (Char.ofNat x.toNat) ++ []
  rw [encodeChar_ascii (by omega), hv, UInt8.ofNat_toNat, List.append_nil]

theorem append {a b : Bytes} (ha : IsUtf8 a) (hb : IsUtf8 b) : IsUtf8 (a ++ b) := by
  obtain ⟨s, rfl⟩ := ha
  obtain ⟨t, rfl⟩ := hb
  exact ⟨s ++ t, (toUtf8_append s t).symm⟩

/-- text does not start inside a character -/
theorem head {b : Bytes} (h : IsUtf8 b) : ∀ x ∈ b.head?, isTail x = false := by
  obtain ⟨s, rfl⟩ := h
  intro x hx
  cases s with
  | nil => cases hx
  | cons c s =>
    rw [toUtf8_cons, List.head?_append_of_ne_nil _ (encodeChar_ne_nil c)] at hx
    exact not_isTail_head c x hx

/-- what follows text in a text is text -/
theorem right {a b : Bytes} (ha : IsUtf8 a) (h : IsUtf8 (a ++ b)) : IsUtf8 b := by
  obtain ⟨s, rfl⟩ := ha
  obtain ⟨t, ht⟩ := h
  induction s generalizing t with
  | nil => exact ⟨t, ht⟩
  | cons c s ih =>
    rw [toUtf8_cons, List.append_assoc] at ht
    have hdecode := congrArg decode ht
    rw [decode_encodeChar, decode_toUtf8] at hdecode
    cases t with
    | nil => cases hdecode
    | cons d t =>
      cases (List.cons.inj hdecode).1
      rw [toUtf8_cons] at ht
      exact ih t (List.append_cancel_left ht)

/-- a text may be cut in front of a byte that starts a character -/
theorem cut {a b : Bytes} (h : IsUtf8 (a ++ b)) (hb : ∀ x ∈ b.head?, isTail x = false) : IsUtf8 a := by
  obtain ⟨s, hs⟩ := h
  induction s generalizing a with
  | nil => exact (List.append_eq_nil_iff.mp hs).1 ▸ nil
  | cons c s ih =>
    rw [toUtf8_cons] at hs
    rcases List.append_eq_append_iff.mp hs with ⟨a', hc, hb'⟩ | ⟨a', ha', hs'⟩
    · -- the cut is in the first character, or at its end
      by_cases ha : a = []
      · exact ha ▸ nil
      cases a' with
      | nil =>
        rw [List.append_nil] at hc
        exact ⟨[c], by rw [← hc]; exact (List.append_nil _).symm⟩
      | cons x a' =>
        rw [hb'] at hb
        have htail := isTail_encodeChar hc ha
        rw [hb x rfl] at htail
        cases htail
    · rw [ha']
      exact append ⟨[c], (List.append_nil _).symm⟩ (ih hs'.symm)

theorem of_mem_split {sep : UInt8} (hsep : sep.toNat < 0x80) {text piece : Bytes} (h : IsUtf8 text)
    (hp : piece ∈ split sep text) : IsUtf8 piece := by
  have hjoin : join [sep] (split sep text) = text := List.intercalate_splitOn sep
  rw [← hjoin] at h
  generalize split sep text = l at h hp
  induction l with
  | nil => cases hp
  | cons p l ih =>
    by_cases hl : l = []
    · subst hl
      have hone : join [sep] [p] = p := List.intercalate_singleton
      rw [List.mem_singleton.mp hp, ← hone]
      exact h
    · have hcons : join [sep] (p :: l) = p ++ (sep :: join [sep] l) := by
        unfold join
        rw [List.intercalate_cons_of_ne_nil hl, List.append_assoc]
        rfl
      rw [hcons] at h
      have hp' : IsUtf8 p := cut h fun x hx => by cases hx; exact not_isTail_of_ascii hsep
      rcases List.mem_cons.mp hp with rfl | hp
      · exact hp'
      · have hrest : IsUtf8 ([sep] ++ join [sep] l) := right hp' h
        exact ih (right (ascii_byte hsep) hrest) hp

theorem of_ascii {a : Bytes} (h : ∀ x ∈ a, x.toNat < 0x80) : IsUtf8 a := by
  induction a with
  | nil => exact nil
  | cons x a ih =>
    obtain ⟨hx, ha⟩ := List.forall_mem_cons.mp h
    exact append (ascii_byte hx) (ih ha)

theorem lt_of_isSpace {x : UInt8} (h : isSpace x = true) : x.toNat < 0x80 := by
  unfold isSpace at h
  rw [Bool.or_eq_true, beq_iff_eq, Bool.and_eq_true, decide_eq_true_eq, decide_eq_true_eq] at h
  rcases h with rfl | ⟨-, h⟩
  · decide
  · have hle := UInt8.le_iff_toNat_le.mp h
    exact lt_of_le_of_lt hle (by decide)

theorem trimmed {text : Bytes} (h : IsUtf8 text) : IsUtf8 (trimmed text) := by
  have hdrop : IsUtf8 (text.dropWhile isSpace) := by
    rw [← List.takeWhile_append_dropWhile (p := isSpace) (l := text)] at h
    refine right (of_ascii fun x hx => ?_) h
    exact lt_of_isSpace (List.mem_takeWhile_imp hx)
  unfold ByteStr.trimmed
  generalize text.dropWhile isSpace = t at hdrop
  induction t using List.reverseRecOn with
  | nil => exact hdrop
  | append_singleton t x ih =>
    rw [List.rdropWhile_concat]
    split
    · next hx =>
      exact ih (cut hdrop fun y hy => by cases hy; exact not_isTail_of_ascii (lt_of_isSpace hx))
    · exact hdrop

end IsUtf8

end Utf8
