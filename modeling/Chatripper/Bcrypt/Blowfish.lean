import Mathlib
import Chatripper.Lib.Bytes
import Chatripper.Lib.Cyclic
import Chatripper.Lib.Feistel
import Chatripper.Bcrypt.InitState

/-!
# Blowfish

The block cipher, and the two ways in which a key is worked into its state: `Blowfish_expand0state`, and
`Blowfish_expandstate`, which mixes a salt in.  A key and a salt are memory that is read round and round
(`Stream`); a stream carries the proof that what is read is inside.

* `Blowfish_decipher_encipher`, `Blowfish_encipher_decipher`   the cipher is a Feistel network, whatever the state is;
* `expandKey_congr`          the key counts for no more than the bytes it gives for the subkeys;
* `Blowfish_expandstate_zeros`   a salt of zeros is no salt.
-/

namespace Chatripper.Bcrypt
open ByteStr

/-! ## the cipher -/

/-- the byte of `x` from bit `k` on -/
def octet (x k : UInt32) : Fin 256 :=
  ⟨((x >>> k) &&& 0xFF).toNat, by
    rw [UInt32.toNat_and]
    exact lt_of_le_of_lt Nat.and_le_right (by decide)⟩

/-- the function of the rounds -/
def F (s : Vector UInt32 1024) (x : UInt32) : UInt32 :=
  ((s.get ⟨(octet x 24).val, by omega⟩
    + s.get ⟨0x100 + (octet x 16).val, by omega⟩)
    ^^^ s.get ⟨0x200 + (octet x 8).val, by omega⟩)
    + s.get ⟨0x300 + (octet x 0).val, by omega⟩

def BLFRND (c : BlowfishContext) (i j : UInt32) (n : Fin subkeys) : UInt32 :=
  i ^^^ (F c.S j ^^^ c.P.get n)

def Blowfish_encipher (c : BlowfishContext) (x : UInt32 × UInt32) : UInt32 × UInt32 :=
  let Xl := x.1
  let Xr := x.2
  let Xl := Xl ^^^ c.P.get 0
  let Xr := BLFRND c Xr Xl 1
  let Xl := BLFRND c Xl Xr 2
  let Xr := BLFRND c Xr Xl 3
  let Xl := BLFRND c Xl Xr 4
  let Xr := BLFRND c Xr Xl 5
  let Xl := BLFRND c Xl Xr 6
  let Xr := BLFRND c Xr Xl 7
  let Xl := BLFRND c Xl Xr 8
  let Xr := BLFRND c Xr Xl 9
  let Xl := BLFRND c Xl Xr 10
  let Xr := BLFRND c Xr Xl 11
  let Xl := BLFRND c Xl Xr 12
  let Xr := BLFRND c Xr Xl 13
  let Xl := BLFRND c Xl Xr 14
  let Xr := BLFRND c Xr Xl 15
  let Xl := BLFRND c Xl Xr 16
  (Xr ^^^ c.P.get 17, Xl)

def Blowfish_decipher (c : BlowfishContext) (x : UInt32 × UInt32) : UInt32 × UInt32 :=
  let Xl := x.1
  let Xr := x.2
  let Xl := Xl ^^^ c.P.get 17
  let Xr := BLFRND c Xr Xl 16
  let Xl := BLFRND c Xl Xr 15
  let Xr := BLFRND c Xr Xl 14
  let Xl := BLFRND c Xl Xr 13
  let Xr := BLFRND c Xr Xl 12
  let Xl := BLFRND c Xl Xr 11
  let Xr := BLFRND c Xr Xl 10
  let Xl := BLFRND c Xl Xr 9
  let Xr := BLFRND c Xr Xl 8
  let Xl := BLFRND c Xl Xr 7
  let Xr := BLFRND c Xr Xl 6
  let Xl := BLFRND c Xl Xr 5
  let Xr := BLFRND c Xr Xl 4
  let Xl := BLFRND c Xl Xr 3
  let Xr := BLFRND c Xr Xl 2
  let Xl := BLFRND c Xl Xr 1
  (Xr ^^^ c.P.get 0, Xl)

def blf_enc (c : BlowfishContext) : (data : List UInt32) → (blocks : Nat) → List UInt32
  | l :: r :: data, blocks + 1 =>
    let d := Blowfish_encipher c (l, r)
    d.1 :: d.2 :: blf_enc c data blocks
  | data, _ => data

def blf_dec (c : BlowfishContext) : (data : List UInt32) → (blocks : Nat) → List UInt32
  | l :: r :: data, blocks + 1 =>
    let d := Blowfish_decipher c (l, r)
    d.1 :: d.2 :: blf_dec c data blocks
  | data, _ => data

/-! ## the key -/

/-- memory of which the first `databytes` bytes are read, or byte 0 if that is none -/
structure Stream where
  data : Bytes
  databytes : Nat
  inside : max databytes 1 ≤ data.length

/-- the byte that a cursor at `j` reads -/
def Stream.read (s : Stream) (j : Nat) : UInt8 :=
  s.data.get ⟨Cyclic.wrap s.databytes j, lt_of_lt_of_le (Cyclic.wrap_lt j) s.inside⟩

/-- four bytes, and the cursor after them -/
def Blowfish_stream2word (s : Stream) (current : Nat) : UInt32 × Nat :=
  (List.range 4).foldl
    (fun x _ => ((x.1 <<< 8) ||| (s.read x.2).toUInt32, Cyclic.wrap s.databytes x.2 + 1)) (0, current)

/-- the variables of the loops -/
structure Expanding where
  c : BlowfishContext
  datal : UInt32 := 0
  datar : UInt32 := 0
  j : Nat := 0

namespace Expanding

/-- `c->P[i] ^ temp` -/
def addKey (key : Stream) (s : Expanding) (i : Fin subkeys) : Expanding :=
  let x := Blowfish_stream2word key s.j
  { s with c := { s.c with P := s.c.P.set i (s.c.P.get i ^^^ x.1) i.isLt }, j := x.2 }

/-- two words of the salt -/
def addSalt (salt : Stream) (s : Expanding) : Expanding :=
  let x := Blowfish_stream2word salt s.j
  let y := Blowfish_stream2word salt x.2
  { s with datal := s.datal ^^^ x.1, datar := s.datar ^^^ y.1, j := y.2 }

def encipher (s : Expanding) : Expanding :=
  let d := Blowfish_encipher s.c (s.datal, s.datar)
  { s with datal := d.1, datar := d.2 }

/-- the subkeys number `2 * i` and the next -/
def storeP (s : Expanding) (i : Fin 9) : Expanding :=
  let P := s.c.P.set (2 * i.val) s.datal (by show _ < 18; omega)
  { s with c := { s.c with P := P.set (2 * i.val + 1) s.datar (by show _ < 18; omega) } }

/-- the words of the S-boxes number `2 * k` and the next -/
def storeS (s : Expanding) (k : Fin 512) : Expanding :=
  let S := s.c.S.set (2 * k.val) s.datal (by omega)
  { s with c := { s.c with S := S.set (2 * k.val + 1) s.datar (by omega) } }

end Expanding

/-- the first loop of both -/
def expandKey (key : Stream) (c : BlowfishContext) : BlowfishContext :=
  ((List.finRange subkeys).foldl (fun s i => s.addKey key i) { c : Expanding }).c

def Blowfish_expand0state (c : BlowfishContext) (key : Stream) : BlowfishContext :=
  let s : Expanding := { c := expandKey key c }
  let s := (List.finRange 9).foldl (fun s i => s.encipher.storeP i) s
  -- the S-boxes one after the other
  let s := (List.finRange 512).foldl (fun s k => s.encipher.storeS k) s
  s.c

def Blowfish_expandstate (c : BlowfishContext) (data key : Stream) : BlowfishContext :=
  let s : Expanding := { c := expandKey key c }
  let s := (List.finRange 9).foldl (fun s i => (s.addSalt data).encipher.storeP i) s
  let s := (List.finRange 512).foldl (fun s k => (s.addSalt data).encipher.storeS k) s
  s.c

def blf_key (k : Stream) : BlowfishContext := Blowfish_expand0state Blowfish_initstate k

/-! ## deciphering -/

/-- the functions of the rounds number 1 to 16 -/
def roundFunctions (c : BlowfishContext) : List (UInt32 → UInt32) :=
  [1, 2, 3, 4, 5, 6, 7, 8, 9, 10, 11, 12, 13, 14, 15, 16].map fun n x => F c.S x ^^^ c.P.get n

theorem xor_cancels : Feistel.Cancels fun a b : UInt32 => a ^^^ b := by
  intro a b
  show a ^^^ b ^^^ b = a
  rw [UInt32.xor_assoc, UInt32.xor_self, UInt32.xor_zero]

section
variable (c : BlowfishContext)

theorem Blowfish_encipher_eq (x : UInt32 × UInt32) :
    Blowfish_encipher c x =
      Feistel.network (· ^^^ ·) (roundFunctions c) (c.P.get 0) (c.P.get 17) x := rfl

theorem Blowfish_decipher_eq (x : UInt32 × UInt32) :
    Blowfish_decipher c x =
      Feistel.network (· ^^^ ·) (roundFunctions c).reverse (c.P.get 17) (c.P.get 0) x := rfl

theorem Blowfish_decipher_encipher (x : UInt32 × UInt32) :
    Blowfish_decipher c (Blowfish_encipher c x) = x := by
  rw [Blowfish_encipher_eq, Blowfish_decipher_eq]
  exact Feistel.network_reverse xor_cancels _ _ _ x

theorem Blowfish_encipher_decipher (x : UInt32 × UInt32) :
    Blowfish_encipher c (Blowfish_decipher c x) = x := by
  have hrev := Feistel.network_reverse xor_cancels (roundFunctions c).reverse (c.P.get 17) (c.P.get 0) x
  rw [List.reverse_reverse] at hrev
  rw [Blowfish_encipher_eq, Blowfish_decipher_eq]
  exact hrev

theorem blf_dec_enc (data : List UInt32) (blocks : Nat) :
    blf_dec c (blf_enc c data blocks) blocks = data := by
  fun_induction blf_enc c data blocks with
  | case1 l r data blocks d ih =>
    show (Blowfish_decipher c d).1 :: (Blowfish_decipher c d).2 :: _ = _
    rw [Blowfish_decipher_encipher, ih]
  | case2 data blocks h =>
    unfold blf_dec
    split
    · exact absurd rfl (h _ _ _ _ rfl)
    · rfl

end

/-! ## what of a key and of a salt counts -/

namespace Stream

/-- the byte of the read number `r` -/
def byte (s : Stream) (r : Nat) : UInt8 :=
  s.data.get ⟨Cyclic.place s.databytes r, lt_of_lt_of_le (Cyclic.place_lt r) s.inside⟩

def bytes (s : Stream) (k : Nat) : Bytes := (List.range k).map s.byte

theorem read_cursor (s : Stream) (r : Nat) : s.read (Cyclic.cursor s.databytes r) = s.byte r := by
  unfold read byte
  simp only [Cyclic.wrap_cursor]

theorem byte_of_bytes {s t : Stream} {k r : Nat} (h : s.bytes k = t.bytes k) (hr : r < k) :
    s.byte r = t.byte r :=
  List.map_inj_left.1 h r (List.mem_range.2 hr)

end Stream

/-- the word of the reads number `r` to `r + 3` -/
def wordAt (s : Stream) (r : Nat) : UInt32 :=
  (List.range 4).foldl (fun x i => (x <<< 8) ||| (s.byte (r + i)).toUInt32) 0

theorem Blowfish_stream2word_cursor (s : Stream) (r : Nat) :
    Blowfish_stream2word s (Cyclic.cursor s.databytes r) =
      (wordAt s r, Cyclic.cursor s.databytes (r + 4)) := by
  show (_, _) = (_, _)
  simp only [List.range, List.range.loop, List.foldl_cons, List.foldl_nil, wordAt, ← Cyclic.cursor_succ,
    Stream.read_cursor, Nat.add_zero, Nat.add_assoc, Nat.reduceAdd]

theorem wordAt_congr {s t : Stream} {k r : Nat} (h : s.bytes k = t.bytes k) (hr : r + 4 ≤ k) :
    wordAt s r = wordAt t r := by
  have hbyte : ∀ i < 4, s.byte (r + i) = t.byte (r + i) := by
    intro i hi
    exact Stream.byte_of_bytes h (by omega)
  simp only [wordAt, List.range, List.range.loop, List.foldl_cons, List.foldl_nil,
    hbyte 0 (by omega), hbyte 1 (by omega), hbyte 2 (by omega), hbyte 3 (by omega)]

theorem foldl_addKey_congr {key key' : Stream} {k : Nat} (h : key.bytes k = key'.bytes k)
    {l : List (Fin subkeys)} {s s' : Expanding} {r : Nat} (hc : s.c = s'.c)
    (hj : s.j = Cyclic.cursor key.databytes r) (hj' : s'.j = Cyclic.cursor key'.databytes r)
    (hr : r + 4 * l.length ≤ k) :
    (l.foldl (fun s i => s.addKey key i) s).c = (l.foldl (fun s i => s.addKey key' i) s').c := by
  induction l generalizing s s' r with
  | nil => exact hc
  | cons i l ih =>
    rw [List.length_cons] at hr
    have hword : wordAt key r = wordAt key' r := wordAt_congr h (by omega)
    rw [List.foldl_cons, List.foldl_cons]
    apply ih (r := r + 4)
    · simp only [Expanding.addKey, hj, hj', Blowfish_stream2word_cursor, hc, hword]
    · simp only [Expanding.addKey, hj, Blowfish_stream2word_cursor]
    · simp only [Expanding.addKey, hj', Blowfish_stream2word_cursor]
    · omega

/-- the eighteen subkeys take 72 bytes -/
theorem expandKey_congr {key key' : Stream} (h : key.bytes 72 = key'.bytes 72) (c : BlowfishContext) :
    expandKey key c = expandKey key' c := by
  unfold expandKey
  apply foldl_addKey_congr h (r := 0) rfl rfl rfl
  rw [List.length_finRange]
  exact le_refl 72

theorem Blowfish_expand0state_congr {key key' : Stream} (h : key.bytes 72 = key'.bytes 72)
    (c : BlowfishContext) : Blowfish_expand0state c key = Blowfish_expand0state c key' := by
  unfold Blowfish_expand0state
  rw [expandKey_congr h]

theorem Blowfish_expandstate_congr {key key' : Stream} (h : key.bytes 72 = key'.bytes 72)
    (c : BlowfishContext) (data : Stream) :
    Blowfish_expandstate c data key = Blowfish_expandstate c data key' := by
  unfold Blowfish_expandstate
  rw [expandKey_congr h]

/-! ## a salt of zeros -/

theorem Blowfish_stream2word_zeros {s : Stream} (h : ∀ b ∈ s.data, b = 0) (j : Nat) :
    (Blowfish_stream2word s j).1 = 0 := by
  have hread (j : Nat) : s.read j = 0 := h _ (List.get_mem _ _)
  simp [Blowfish_stream2word, List.range, List.range.loop, hread]

/-- the same but for the cursor -/
def Expanding.Alike (s t : Expanding) : Prop := s.c = t.c ∧ s.datal = t.datal ∧ s.datar = t.datar

theorem addSalt_alike {salt : Stream} (h : ∀ b ∈ salt.data, b = 0) {s t : Expanding}
    (hst : s.Alike t) : (s.addSalt salt).Alike t := by
  obtain ⟨hc, hl, hr⟩ := hst
  refine ⟨hc, ?_, ?_⟩
  · show s.datal ^^^ (Blowfish_stream2word salt s.j).1 = t.datal
    rw [Blowfish_stream2word_zeros h, UInt32.xor_zero, hl]
  · show s.datar ^^^ (Blowfish_stream2word salt _).1 = t.datar
    rw [Blowfish_stream2word_zeros h, UInt32.xor_zero, hr]

theorem Expanding.Alike.encipher {s t : Expanding} (h : s.Alike t) : s.encipher.Alike t.encipher := by
  obtain ⟨hc, hl, hr⟩ := h
  refine ⟨hc, ?_, ?_⟩ <;> simp only [Expanding.encipher, hc, hl, hr]

theorem Expanding.Alike.storeP {s t : Expanding} (h : s.Alike t) (i : Fin 9) :
    (s.storeP i).Alike (t.storeP i) := by
  obtain ⟨hc, hl, hr⟩ := h
  refine ⟨?_, hl, hr⟩
  simp only [Expanding.storeP, hc, hl, hr]

theorem Expanding.Alike.storeS {s t : Expanding} (h : s.Alike t) (k : Fin 512) :
    (s.storeS k).Alike (t.storeS k) := by
  obtain ⟨hc, hl, hr⟩ := h
  refine ⟨?_, hl, hr⟩
  simp only [Expanding.storeS, hc, hl, hr]

/-- **No salt.**  A salt of zeros expands the state as no salt does. -/
theorem Blowfish_expandstate_zeros {data : Stream} (h : ∀ b ∈ data.data, b = 0) (c : BlowfishContext)
    (key : Stream) : Blowfish_expandstate c data key = Blowfish_expand0state c key := by
  unfold Blowfish_expandstate Blowfish_expand0state
  have hP := List.foldl_rel (l := List.finRange 9) (r := Expanding.Alike)
    (f := fun s i => (s.addSalt data).encipher.storeP i) (g := fun s i => s.encipher.storeP i)
    (a := { c := expandKey key c }) (b := { c := expandKey key c }) ⟨rfl, rfl, rfl⟩
    fun i _ s t hst => (addSalt_alike h hst).encipher.storeP i
  have hS := List.foldl_rel (l := List.finRange 512) (r := Expanding.Alike)
    (f := fun s k => (s.addSalt data).encipher.storeS k) (g := fun s k => s.encipher.storeS k) hP
    fun k _ s t hst => (addSalt_alike h hst).encipher.storeS k
  exact hS.1

end Chatripper.Bcrypt
