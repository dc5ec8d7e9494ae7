import Mathlib
import Chatripper.Lib.Bytes

/-!
# The base 64 of bcrypt

Three bytes are four characters, and no character fills up what is missing at the end.  The decoder is
told how many bytes are wanted; it stops at a character that is not one of the 64, and reads memory that
ends somewhere: a read outside is `none`.

* `decode_base64_encode`   what is decoded is what was encoded;
* `decode_base64_isSome`   how far the decoder reads.
-/

namespace Chatripper.Bcrypt
open ByteStr

def Base64Code : Bytes := ascii "./ABCDEFGHIJKLMNOPQRSTUVWXYZabcdefghijklmnopqrstuvwxyz0123456789"

def index_64 : Bytes :=
  [255, 255, 255, 255, 255, 255, 255, 255, 255, 255,
   255, 255, 255, 255, 255, 255, 255, 255, 255, 255,
   255, 255, 255, 255, 255, 255, 255, 255, 255, 255,
   255, 255, 255, 255, 255, 255, 255, 255, 255, 255,
   255, 255, 255, 255, 255, 255, 0, 1, 54, 55,
   56, 57, 58, 59, 60, 61, 62, 63, 255, 255,
   255, 255, 255, 255, 255, 2, 3, 4, 5, 6,
   7, 8, 9, 10, 11, 12, 13, 14, 15, 16,
   17, 18, 19, 20, 21, 22, 23, 24, 25, 26, 27,
   255, 255, 255, 255, 255, 255, 28, 29, 30,
   31, 32, 33, 34, 35, 36, 37, 38, 39, 40,
   41, 42, 43, 44, 45, 46, 47, 48, 49, 50,
   51, 52, 53, 255, 255, 255, 255, 255]

def CHAR64 (c : UInt8) : UInt8 := if c > 127 then 255 else index_64.getD c.toNat 255

/-- `Base64Code[c]` -/
def char64 (c : UInt8) : UInt8 := Base64Code.getD c.toNat 0

/-- without the NUL at the end -/
def encode_base64 : (data : Bytes) → Bytes
  | [] => []
  | [c1] => [char64 (c1 >>> 2), char64 ((c1 &&& 0x03) <<< 4)]
  | [c1, c2] =>
    [char64 (c1 >>> 2), char64 (((c1 &&& 0x03) <<< 4) ||| ((c2 >>> 4) &&& 0x0f)),
     char64 ((c2 &&& 0x0f) <<< 2)]
  | c1 :: c2 :: c3 :: data =>
    char64 (c1 >>> 2) :: char64 (((c1 &&& 0x03) <<< 4) ||| ((c2 >>> 4) &&& 0x0f)) ::
    char64 (((c2 &&& 0x0f) <<< 2) ||| ((c3 >>> 6) &&& 0x03)) :: char64 (c3 &&& 0x3f) ::
    encode_base64 data

/-- the bytes that are written to a buffer of `len` bytes -/
def decode_base64 (len : Nat) (data : Bytes) : Option Bytes :=
  match len with
  | 0 => some []
  | len + 1 => do
    let c1 := CHAR64 (← data[0]?)
    let c2 := CHAR64 (← data[1]?)
    if c1 = 255 ∨ c2 = 255 then
      return []
    let b1 := (c1 <<< 2) ||| ((c2 &&& 0x30) >>> 4)
    match len with
    | 0 => return [b1]
    | len + 1 =>
      let c3 := CHAR64 (← data[2]?)
      if c3 = 255 then
        return [b1]
      let b2 := ((c2 &&& 0x0f) <<< 4) ||| ((c3 &&& 0x3c) >>> 2)
      match len with
      | 0 => return [b1, b2]
      | len + 1 =>
        let c4 := CHAR64 (← data[3]?)
        if c4 = 255 then
          return [b1, b2]
        let b3 := ((c3 &&& 0x03) <<< 6) ||| c4
        return b1 :: b2 :: b3 :: (← decode_base64 len (data.drop 4))

/-! ## the alphabet -/

theorem index_64_Base64Code : ∀ i : Fin 64, CHAR64 (char64 (UInt8.ofNat i)) = UInt8.ofNat i := by
  decide +kernel

theorem Base64Code_ne_zero : ∀ i : Fin 64, char64 (UInt8.ofNat i) ≠ 0 := by decide +kernel

theorem Base64Code_ascii : ∀ i : Fin 64, (char64 (UInt8.ofNat i)).toNat < 0x80 := by decide +kernel

/-- the number of a character -/
def IsSextet (c : UInt8) : Prop := c &&& 0x3f = c

theorem IsSextet.toNat_lt {c : UInt8} (h : IsSextet c) : c.toNat < 64 := by
  rw [← h, UInt8.toNat_and]
  exact lt_of_le_of_lt Nat.and_le_right (by decide)

theorem IsSextet.ne_255 {c : UInt8} (h : IsSextet c) : c ≠ 255 := by
  intro hc
  have hlt := h.toNat_lt
  rw [hc] at hlt
  exact absurd hlt (by decide)

theorem IsSextet.CHAR64 {c : UInt8} (h : IsSextet c) : CHAR64 (char64 c) = c := by
  have htable := index_64_Base64Code ⟨c.toNat, h.toNat_lt⟩
  rwa [UInt8.ofNat_toNat] at htable

theorem IsSextet.char64_ne_zero {c : UInt8} (h : IsSextet c) : char64 c ≠ 0 := by
  have htable := Base64Code_ne_zero ⟨c.toNat, h.toNat_lt⟩
  rwa [UInt8.ofNat_toNat] at htable

theorem IsSextet.char64_ascii {c : UInt8} (h : IsSextet c) : (char64 c).toNat < 0x80 := by
  have htable := Base64Code_ascii ⟨c.toNat, h.toNat_lt⟩
  rwa [UInt8.ofNat_toNat] at htable

theorem eq_of_bits {a b : UInt8} (h : ∀ i < 8, a.toBitVec.getLsbD i = b.toBitVec.getLsbD i) : a = b :=
  UInt8.eq_of_toBitVec_eq (BitVec.eq_of_getLsbD_eq h)

/-! ## groups of three bytes -/

section
variable (a b c : UInt8)

def sextet1 : UInt8 := a >>> 2
def sextet2 : UInt8 := ((a &&& 0x03) <<< 4) ||| ((b >>> 4) &&& 0x0f)
def sextet3 : UInt8 := ((b &&& 0x0f) <<< 2) ||| ((c >>> 6) &&& 0x03)
def sextet4 : UInt8 := c &&& 0x3f

theorem isSextet1 : IsSextet (sextet1 a) := by
  unfold sextet1 IsSextet
  apply eq_of_bits
  intro i hi
  interval_cases i <;> simp

theorem isSextet2 : IsSextet (sextet2 a b) := by
  unfold sextet2 IsSextet
  apply eq_of_bits
  intro i hi
  interval_cases i <;> simp

theorem isSextet3 : IsSextet (sextet3 b c) := by
  unfold sextet3 IsSextet
  apply eq_of_bits
  intro i hi
  interval_cases i <;> simp

theorem isSextet4 : IsSextet (sextet4 c) := by
  unfold sextet4 IsSextet
  apply eq_of_bits
  intro i hi
  interval_cases i <;> simp

theorem join_first : (sextet1 a <<< 2) ||| ((sextet2 a b &&& 0x30) >>> 4) = a := by
  unfold sextet1 sextet2
  apply eq_of_bits
  intro i hi
  interval_cases i <;> simp

theorem join_second : ((sextet2 a b &&& 0x0f) <<< 4) ||| ((sextet3 b c &&& 0x3c) >>> 2) = b := by
  unfold sextet2 sextet3
  apply eq_of_bits
  intro i hi
  interval_cases i <;> simp

theorem join_third : ((sextet3 b c &&& 0x03) <<< 6) ||| sextet4 c = c := by
  unfold sextet3 sextet4
  apply eq_of_bits
  intro i hi
  interval_cases i <;> simp

/-- what is missing at the end counts as zero -/
theorem sextet2_end : sextet2 a 0 = (a &&& 0x03) <<< 4 := by
  unfold sextet2
  simp

theorem sextet3_end : sextet3 b 0 = (b &&& 0x0f) <<< 2 := by
  unfold sextet3
  simp

end

theorem encode_base64_one (a : UInt8) :
    encode_base64 [a] = [char64 (sextet1 a), char64 (sextet2 a 0)] := by
  rw [sextet2_end]
  rfl

theorem encode_base64_two (a b : UInt8) :
    encode_base64 [a, b] = [char64 (sextet1 a), char64 (sextet2 a b), char64 (sextet3 b 0)] := by
  rw [sextet3_end]
  rfl

theorem encode_base64_cons (a b c : UInt8) (data : Bytes) :
    encode_base64 (a :: b :: c :: data) =
      char64 (sextet1 a) :: char64 (sextet2 a b) :: char64 (sextet3 b c) :: char64 (sextet4 c) ::
        encode_base64 data := rfl

theorem length_encode_base64 (data : Bytes) :
    (encode_base64 data).length = (4 * data.length + 2) / 3 := by
  induction data using encode_base64.induct with
  | case1 => rfl
  | case2 a => simp [encode_base64_one]
  | case3 a b => simp [encode_base64_two]
  | case4 a b c data ih =>
    rw [encode_base64_cons]
    simp only [List.length_cons, ih]
    omega

/-- every character is one of the alphabet -/
theorem mem_encode_base64 {x : UInt8} {data : Bytes} (h : x ∈ encode_base64 data) :
    ∃ c, IsSextet c ∧ x = char64 c := by
  induction data using encode_base64.induct with
  | case1 => cases h
  | case2 a =>
    rw [encode_base64_one] at h
    simp only [List.mem_cons, List.not_mem_nil, or_false] at h
    rcases h with rfl | rfl
    exacts [⟨_, isSextet1 a, rfl⟩, ⟨_, isSextet2 a 0, rfl⟩]
  | case3 a b =>
    rw [encode_base64_two] at h
    simp only [List.mem_cons, List.not_mem_nil, or_false] at h
    rcases h with rfl | rfl | rfl
    exacts [⟨_, isSextet1 a, rfl⟩, ⟨_, isSextet2 a b, rfl⟩, ⟨_, isSextet3 b 0, rfl⟩]
  | case4 a b c data ih =>
    rw [encode_base64_cons] at h
    simp only [List.mem_cons] at h
    rcases h with rfl | rfl | rfl | rfl | h
    exacts [⟨_, isSextet1 a, rfl⟩, ⟨_, isSextet2 a b, rfl⟩, ⟨_, isSextet3 b c, rfl⟩,
      ⟨_, isSextet4 c, rfl⟩, ih h]

/-- a NUL is no character -/
theorem zero_notMem_encode_base64 (data : Bytes) : 0 ∉ encode_base64 data := by
  intro h
  obtain ⟨c, hc, hzero⟩ := mem_encode_base64 h
  exact hc.char64_ne_zero hzero.symm

theorem encode_base64_ascii {data : Bytes} : ∀ x ∈ encode_base64 data, x.toNat < 0x80 := by
  intro x h
  obtain ⟨c, hc, rfl⟩ := mem_encode_base64 h
  exact hc.char64_ascii

theorem decode_base64_encode (data rest : Bytes) :
    decode_base64 data.length (encode_base64 data ++ rest) = some data := by
  induction data using encode_base64.induct with
  | case1 => rfl
  | case2 a =>
    rw [encode_base64_one]
    simp [decode_base64, (isSextet1 a).CHAR64, (isSextet2 a 0).CHAR64, (isSextet1 a).ne_255,
      (isSextet2 a 0).ne_255, join_first]
  | case3 a b =>
    rw [encode_base64_two]
    simp [decode_base64, (isSextet1 a).CHAR64, (isSextet2 a b).CHAR64, (isSextet3 b 0).CHAR64,
      (isSextet1 a).ne_255, (isSextet2 a b).ne_255, (isSextet3 b 0).ne_255, join_first, join_second]
  | case4 a b c data ih =>
    rw [encode_base64_cons]
    simp [decode_base64, (isSextet1 a).CHAR64, (isSextet2 a b).CHAR64, (isSextet3 b c).CHAR64,
      (isSextet4 c).CHAR64, (isSextet1 a).ne_255, (isSextet2 a b).ne_255, (isSextet3 b c).ne_255,
      (isSextet4 c).ne_255, join_first, join_second, join_third, ih]

/-! ## how far the decoder reads -/

/-- the decoder reads the characters of `len` bytes at most -/
theorem decode_base64_isSome (len : Nat) (data : Bytes) (h : (4 * len + 2) / 3 ≤ data.length) :
    ∃ out, decode_base64 len data = some out ∧ out.length ≤ len := by
  induction len using Nat.strongRecOn generalizing data with
  | ind len ih =>
    unfold decode_base64
    rcases len with _ | _ | _ | len
    · exact ⟨[], rfl, le_refl 0⟩
    · -- two characters
      obtain _ | ⟨x, _ | ⟨y, data⟩⟩ := data
      · simp at h
      · simp at h
      · by_cases h1 : CHAR64 x = 255 ∨ CHAR64 y = 255
        · exact ⟨[], by simp [h1], by simp⟩
        · exact ⟨_, by simp [h1]; rfl, by simp⟩
    · obtain _ | ⟨x, _ | ⟨y, _ | ⟨z, data⟩⟩⟩ := data
      · simp at h
      · simp at h
      · simp at h
      · by_cases h1 : CHAR64 x = 255 ∨ CHAR64 y = 255
        · exact ⟨[], by simp [h1], by simp⟩
        · by_cases h2 : CHAR64 z = 255
          · exact ⟨_, by simp [h1, h2]; rfl, by simp⟩
          · exact ⟨_, by simp [h1, h2]; rfl, by simp⟩
    · obtain _ | ⟨x, _ | ⟨y, _ | ⟨z, _ | ⟨u, data⟩⟩⟩⟩ := data
      · simp at h; omega
      · simp at h; omega
      · simp at h; omega
      · simp at h; omega
      · simp only [List.length_cons] at h
        obtain ⟨out, hout, hlen⟩ := ih len (by omega) data (by omega)
        by_cases h1 : CHAR64 x = 255 ∨ CHAR64 y = 255
        · exact ⟨[], by simp [h1], by simp⟩
        · by_cases h2 : CHAR64 z = 255
          · exact ⟨_, by simp [h1, h2]; rfl, by simp⟩
          · by_cases h3 : CHAR64 u = 255
            · exact ⟨_, by simp [h1, h2, h3]; rfl, by simp⟩
            · exact ⟨_, by simp [h1, h2, h3, hout]; rfl, by simp; exact hlen⟩

end Chatripper.Bcrypt
