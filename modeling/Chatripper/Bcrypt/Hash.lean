import Mathlib
import Chatripper.Bcrypt.Base64
import Chatripper.Bcrypt.Blowfish

/-!
# The password hash

`bcrypt::generateHash` and `bcrypt::validatePassword`, over `node_bcrypt`.  A `const char *` is what can
be read from it on, and a read outside of that is `none`.  The salt that `node_bcrypt` decodes into is not
initialised: the bytes that decoding does not write are a parameter, `junk`.

* `node_bcrypt_settings`   on a hash `node_bcrypt` reads the settings and the salt in front;
* `node_bcrypt_result`     what it gives is an error, or the settings and the salt that it read and the hash
                           under them.
-/

namespace Chatripper.Bcrypt
open ByteStr

def BCRYPT_VERSION : UInt8 := 50
def BCRYPT_MAXSALT : Nat := 16
def BCRYPT_BLOCKS : Nat := 6
def BCRYPT_MINROUNDS : Nat := 16

/-- `'$'` -/
def DOLLAR : UInt8 := 36

/-- `":"` -/
def error : Bytes := [58]

/-! ## strings of C -/

def isspace (b : UInt8) : Bool := b == 32 || (9 ≤ b && b ≤ 13)

def isdigit (b : UInt8) : Bool := 48 ≤ b && b ≤ 57

def digits (s : Bytes) : Nat := (s.takeWhile isdigit).foldl (fun n d => 10 * n + (d.toNat - 48)) 0

def atoi (s : Bytes) : Int :=
  match s.dropWhile isspace with
  | 43 :: s => digits s
  | 45 :: s => -digits s
  | s => digits s

/-- where the NUL is -/
def strlen (s : Bytes) : Option Nat := indexOf 0 s

/-- `%2.2u` of a number below 100 -/
def twoDigits (n : Nat) : Bytes := [48 + UInt8.ofNat (n / 10), 48 + UInt8.ofNat (n % 10)]

/-! ## hashing -/

/-- `key` and `key_len` after the version is known; the callers give `c_str` and `size` of a string -/
def keyStream (minor : UInt8) (password : Bytes) : Stream :=
  { data := password ++ [0]
    databytes :=
      if minor ≤ 97 then (password.length + if minor ≥ 97 then 1 else 0) % 256
      else min password.length 72 + 1
    inside := by
      have hmod := Nat.mod_le (password.length + if minor ≥ 97 then 1 else 0) 256
      simp only [List.length_append, List.length_singleton]
      split at hmod <;> split <;> omega }

def saltStream (csalt : Vector UInt8 16) : Stream :=
  { data := csalt.toList
    databytes := BCRYPT_MAXSALT
    inside := by rw [Vector.length_toList]; decide }

/-- the state after the loop over the rounds -/
def hashState (key : Stream) (csalt : Vector UInt8 16) (rounds : Nat) : BlowfishContext :=
  (fun state => Blowfish_expand0state (Blowfish_expand0state state key) (saltStream csalt))^[rounds]
    (Blowfish_expandstate Blowfish_initstate (saltStream csalt) key)

def orphean : Stream :=
  { data := ascii "OrpheanBeholderScryDoubt"
    databytes := 4 * BCRYPT_BLOCKS
    inside := by decide }

/-- the next `n` words -/
def streamWords (s : Stream) (j : Nat) : Nat → List UInt32
  | 0 => []
  | n + 1 =>
    let x := Blowfish_stream2word s j
    x.1 :: streamWords s x.2 n

/-- the bytes of a word, the highest first -/
def wordBytes (w : UInt32) : Bytes :=
  [(w >>> 24).toUInt8, (w >>> 16).toUInt8, (w >>> 8).toUInt8, w.toUInt8]

/-- the 64 encryptions -/
def ciphertext (state : BlowfishContext) : Bytes :=
  ((fun cdata => blf_enc state cdata (BCRYPT_BLOCKS / 2))^[64] (streamWords orphean 0 BCRYPT_BLOCKS)).flatMap
    wordBytes

/-- what is written to `encrypted` -/
def encrypted (minor : UInt8) (logr : Nat) (csalt : Vector UInt8 16) (text : Bytes) : Bytes :=
  DOLLAR :: BCRYPT_VERSION :: (if minor = 0 then [] else [minor]) ++ DOLLAR :: twoDigits (logr % 32) ++
    DOLLAR :: encode_base64 csalt.toList ++ encode_base64 (text.take (4 * BCRYPT_BLOCKS - 1))

/-- the end of `node_bcrypt`: hash with the salt at `salt` -/
def hash_with (junk : Vector UInt8 16) (minor : UInt8) (logr : Nat) (password salt : Bytes) :
    Option Bytes := do
  if (← strlen salt) * 3 / 4 < BCRYPT_MAXSALT then
    return error
  let decoded ← decode_base64 BCRYPT_MAXSALT salt
  let csalt : Vector UInt8 16 := Vector.ofFn fun i => decoded.getD i (junk.get i)
  let state := hashState (keyStream minor password) csalt (2 ^ logr)
  return encrypted minor logr csalt (ciphertext state)

/-- the middle of `node_bcrypt`: the number of rounds is at `salt` -/
def read_rounds (junk : Vector UInt8 16) (minor : UInt8) (password salt : Bytes) : Option Bytes := do
  -- out of sync with the entry
  if (← salt[2]?) ≠ DOLLAR then
    return error
  let n := atoi salt
  if n > 31 ∨ n < 0 then
    return error
  let logr := n.toNat
  if 2 ^ logr < BCRYPT_MINROUNDS then
    return error
  hash_with junk minor logr password (salt.drop 3)

/-- the string in `encrypted` afterwards -/
def node_bcrypt (junk : Vector UInt8 16) (password salt : Bytes) : Option Bytes := do
  let salt := salt.drop 1
  let version ← salt[0]?
  -- `char` is signed
  if version.toInt8 > BCRYPT_VERSION.toInt8 then
    return error
  let c ← salt[1]?
  if c = DOLLAR then
    read_rounds junk 0 password (salt.drop 2)
  else if c = 97 ∨ c = 98 then
    read_rounds junk c password (salt.drop 3)
  else
    return error

def encode_salt (csalt : Vector UInt8 16) (minor logr : UInt8) : Bytes :=
  DOLLAR :: BCRYPT_VERSION :: minor :: DOLLAR :: twoDigits (logr &&& 0x1F).toNat ++
    DOLLAR :: encode_base64 csalt.toList

def bcrypt_gensalt (minor log_rounds : UInt8) (seed : Vector UInt8 16) : Bytes :=
  let log_rounds := if log_rounds < 4 then 4 else if log_rounds > 31 then 31 else log_rounds
  encode_salt seed minor log_rounds

/-- a string of 61 NULs that `text` is written to, cut to 60 characters -/
def resize60 (text : Bytes) : Bytes := (text ++ List.replicate (61 - text.length) 0).take 60

/-- `seed` is what `arc4random_buf` gives -/
def generateHash (junk seed : Vector UInt8 16) (password : Bytes) (rounds : UInt32) : Option Bytes := do
  let salt := bcrypt_gensalt 98 rounds.toUInt8 seed
  let hash ← node_bcrypt junk password (salt ++ [0])
  return resize60 hash

def validatePassword (junk : Vector UInt8 16) (password hash : Bytes) : Option Bool := do
  let got ← node_bcrypt junk password (hash ++ [0])
  return hash == resize60 got

/-! ## the text of a hash -/

/-- what stands in front of a hash -/
def settings (minor : UInt8) (logr : Nat) (csalt : Vector UInt8 16) : Bytes :=
  DOLLAR :: BCRYPT_VERSION :: (if minor = 0 then [] else [minor]) ++ DOLLAR :: twoDigits logr ++
    DOLLAR :: encode_base64 csalt.toList

/-- the hash of a password under given settings -/
def hashed (minor : UInt8) (logr : Nat) (csalt : Vector UInt8 16) (password : Bytes) : Bytes :=
  settings minor logr csalt ++
    encode_base64 ((ciphertext (hashState (keyStream minor password) csalt (2 ^ logr))).take 23)

/-- settings that `node_bcrypt` accepts -/
structure Accepted (minor : UInt8) (logr : Nat) : Prop where
  minor_mem : minor = 0 ∨ minor = 97 ∨ minor = 98
  four_le : 4 ≤ logr
  le_31 : logr ≤ 31

section
variable {minor : UInt8} {logr : Nat} {csalt junk : Vector UInt8 16} {password : Bytes}

theorem encrypted_eq (h : logr ≤ 31) (text : Bytes) :
    encrypted minor logr csalt text = settings minor logr csalt ++ encode_base64 (text.take 23) := by
  unfold encrypted settings
  rw [Nat.mod_eq_of_lt (by omega)]
  rfl

theorem length_settings (h : minor ≠ 0) : (settings minor logr csalt).length = 29 := by
  simp [settings, h, twoDigits, length_encode_base64]

theorem length_settings_zero : (settings 0 logr csalt).length = 28 := by
  simp [settings, twoDigits, length_encode_base64]

/-! ## lengths -/

theorem length_streamWords (s : Stream) (j n : Nat) : (streamWords s j n).length = n := by
  induction n generalizing j with
  | zero => rfl
  | succ n ih =>
    unfold streamWords
    rw [List.length_cons, ih]

theorem length_blf_enc (c : BlowfishContext) (data : List UInt32) (blocks : Nat) :
    (blf_enc c data blocks).length = data.length := by
  fun_induction blf_enc c data blocks with
  | case1 l r data blocks d ih => rw [List.length_cons, List.length_cons, ih]; rfl
  | case2 => rfl

theorem length_ciphertext (state : BlowfishContext) : (ciphertext state).length = 24 := by
  have hiter (n : Nat) (l : List UInt32) :
      ((fun cdata => blf_enc state cdata (BCRYPT_BLOCKS / 2))^[n] l).length = l.length := by
    induction n generalizing l with
    | zero => rfl
    | succ n ih => rw [Function.iterate_succ_apply, ih, length_blf_enc]
  have hword (w : UInt32) : (wordBytes w).length = 4 := rfl
  unfold ciphertext
  simp only [List.length_flatMap, hword, List.map_const', List.sum_replicate, hiter, length_streamWords]
  rfl

theorem length_hashed (h : minor ≠ 0) : (hashed minor logr csalt password).length = 60 := by
  unfold hashed
  rw [List.length_append, length_settings h, length_encode_base64, List.length_take, length_ciphertext]
  rfl

theorem length_hashed_zero : (hashed 0 logr csalt password).length = 59 := by
  unfold hashed
  rw [List.length_append, length_settings_zero, length_encode_base64, List.length_take, length_ciphertext]
  rfl

variable (minor logr csalt password) in
theorem length_hashed_le : (hashed minor logr csalt password).length ≤ 60 := by
  by_cases h : minor = 0
  · rw [h, length_hashed_zero]
    decide
  · exact (length_hashed h).le

theorem resize60_of_length {text : Bytes} (h : text.length = 60) : resize60 text = text := by
  unfold resize60
  exact List.take_left' h

/-- the string ends with the text, then come NULs -/
theorem resize60_nul {text : Bytes} (h : text.length ≤ 60) :
    ∃ l, resize60 text ++ [0] = text ++ 0 :: l := by
  refine ⟨List.replicate (60 - text.length) 0, ?_⟩
  unfold resize60
  rw [List.take_append, List.take_of_length_le h, List.take_replicate, List.append_assoc,
    ← List.replicate_succ', ← List.replicate_succ]
  congr 2
  omega

/-! ## what `node_bcrypt` gives -/

theorem atoi_twoDigits (h : logr ≤ 31) (rest : Bytes) :
    atoi (twoDigits logr ++ DOLLAR :: rest) = logr := by
  interval_cases logr <;> rfl

/-- from where the salt begins -/
theorem decode_csalt (rest : Bytes) :
    decode_base64 BCRYPT_MAXSALT (encode_base64 csalt.toList ++ rest) = some csalt.toList := by
  have hdecode := decode_base64_encode csalt.toList rest
  rwa [Vector.length_toList] at hdecode

theorem ofFn_getD : (Vector.ofFn fun i : Fin 16 => csalt.toList.getD i (junk.get i)) = csalt := by
  apply Vector.ext
  intro i hi
  simp [List.getD_eq_getElem?_getD]

variable (csalt) in
theorem strlen_salt {rest : Bytes} (hrest : 0 ∈ rest) :
    ∃ n, strlen (encode_base64 csalt.toList ++ rest) = some n ∧ 22 ≤ n := by
  obtain ⟨p, r, rfl, hp⟩ := List.eq_append_cons_of_mem hrest
  have hout : 0 ∉ encode_base64 csalt.toList ++ p := by
    rw [List.mem_append]
    rintro (h | h)
    · exact zero_notMem_encode_base64 _ h
    · exact hp h
  refine ⟨(encode_base64 csalt.toList ++ p).length, ?_, ?_⟩
  · unfold strlen
    rw [← List.append_assoc]
    exact indexOf_append hout r
  · rw [List.length_append, length_encode_base64, Vector.length_toList]
    omega

theorem hash_with_salt (h31 : logr ≤ 31) {rest : Bytes} (hrest : 0 ∈ rest) :
    hash_with junk minor logr password (encode_base64 csalt.toList ++ rest) =
      some (hashed minor logr csalt password) := by
  obtain ⟨n, hn, h22⟩ := strlen_salt csalt hrest
  have hlen : ¬ n * 3 / 4 < BCRYPT_MAXSALT := by
    show ¬ n * 3 / 4 < 16
    omega
  unfold hash_with
  simp only [hn, decode_csalt, Option.bind_eq_bind, Option.bind_some, if_neg hlen, ofFn_getD,
    encrypted_eq h31]
  rfl

variable (csalt junk password) in
theorem read_rounds_salt (h : Accepted minor logr) {rest : Bytes} (hrest : 0 ∈ rest) :
    read_rounds junk minor password
        (twoDigits logr ++ DOLLAR :: (encode_base64 csalt.toList ++ rest)) =
      some (hashed minor logr csalt password) := by
  have hrounds : ¬ 2 ^ logr < BCRYPT_MINROUNDS := by
    have hpow := Nat.pow_le_pow_right (show 0 < 2 by decide) h.four_le
    show ¬ 2 ^ logr < 16
    omega
  have hrange : ¬ ((logr : Int) > 31 ∨ (logr : Int) < 0) := by
    have h31 := h.le_31
    omega
  have hmark (l : Bytes) : (twoDigits logr ++ DOLLAR :: l)[2]? = some DOLLAR := rfl
  have hdrop (l : Bytes) : (twoDigits logr ++ DOLLAR :: l).drop 3 = l := rfl
  unfold read_rounds
  simp only [hmark, hdrop, Option.bind_eq_bind, Option.bind_some, ne_eq, not_true_eq_false, if_false,
    atoi_twoDigits h.le_31, if_neg hrange, Int.toNat_natCast, if_neg hrounds]
  exact hash_with_salt h.le_31 hrest

theorem node_bcrypt_settings (h : Accepted minor logr) {rest : Bytes} (hrest : 0 ∈ rest) :
    node_bcrypt junk password (settings minor logr csalt ++ rest) =
      some (hashed minor logr csalt password) := by
  have hrounds := read_rounds_salt csalt junk password h hrest
  have hplain (l : Bytes) : node_bcrypt junk password (DOLLAR :: BCRYPT_VERSION :: DOLLAR :: l) =
    read_rounds junk 0 password l := rfl
  have ha (l : Bytes) : node_bcrypt junk password (DOLLAR :: BCRYPT_VERSION :: 97 :: DOLLAR :: l) =
    read_rounds junk 97 password l := rfl
  have hb (l : Bytes) : node_bcrypt junk password (DOLLAR :: BCRYPT_VERSION :: 98 :: DOLLAR :: l) =
    read_rounds junk 98 password l := rfl
  unfold settings
  obtain rfl | rfl | rfl := h.minor_mem
  · simpa [hplain] using hrounds
  · simpa [ha] using hrounds
  · simpa [hb] using hrounds

theorem hash_with_result {salt out : Bytes} (h31 : logr ≤ 31)
    (h : hash_with junk minor logr password salt = some out) :
    out = error ∨ ∃ csalt, out = hashed minor logr csalt password := by
  unfold hash_with at h
  obtain ⟨n, -, h⟩ := Option.bind_eq_some_iff.1 h
  by_cases hlen : n * 3 / 4 < BCRYPT_MAXSALT
  · rw [if_pos hlen] at h
    exact Or.inl (Option.some_inj.1 h).symm
  · rw [if_neg hlen] at h
    obtain ⟨decoded, -, h⟩ := Option.bind_eq_some_iff.1 h
    refine Or.inr ⟨Vector.ofFn fun i => decoded.getD i (junk.get i), ?_⟩
    rw [← Option.some_inj.1 h, encrypted_eq h31]
    rfl

theorem read_rounds_result {salt out : Bytes} (hminor : minor = 0 ∨ minor = 97 ∨ minor = 98)
    (h : read_rounds junk minor password salt = some out) :
    out = error ∨ ∃ logr csalt, Accepted minor logr ∧ out = hashed minor logr csalt password := by
  unfold read_rounds at h
  obtain ⟨c, -, h⟩ := Option.bind_eq_some_iff.1 h
  by_cases hc : c ≠ DOLLAR
  · rw [if_pos hc] at h
    exact Or.inl (Option.some_inj.1 h).symm
  rw [if_neg hc] at h
  by_cases hrange : atoi salt > 31 ∨ atoi salt < 0
  · rw [if_pos hrange] at h
    exact Or.inl (Option.some_inj.1 h).symm
  rw [if_neg hrange] at h
  by_cases hrounds : 2 ^ (atoi salt).toNat < BCRYPT_MINROUNDS
  · rw [if_pos hrounds] at h
    exact Or.inl (Option.some_inj.1 h).symm
  rw [if_neg hrounds] at h
  have h31 : (atoi salt).toNat ≤ 31 := by omega
  have hfour : 4 ≤ (atoi salt).toNat := by
    by_contra hlt
    exact hrounds (Nat.pow_lt_pow_right (by decide) (show (atoi salt).toNat < 4 by omega))
  obtain herror | ⟨csalt, hout⟩ := hash_with_result h31 h
  · exact Or.inl herror
  · exact Or.inr ⟨_, csalt, ⟨hminor, hfour, h31⟩, hout⟩

/-- the result is an error, or a hash under accepted settings -/
theorem node_bcrypt_result {salt out : Bytes} (h : node_bcrypt junk password salt = some out) :
    out = error ∨
      ∃ minor logr csalt, Accepted minor logr ∧ out = hashed minor logr csalt password := by
  unfold node_bcrypt at h
  obtain ⟨version, -, h⟩ := Option.bind_eq_some_iff.1 h
  by_cases hversion : version.toInt8 > BCRYPT_VERSION.toInt8
  · rw [if_pos hversion] at h
    exact Or.inl (Option.some_inj.1 h).symm
  rw [if_neg hversion] at h
  obtain ⟨c, -, h⟩ := Option.bind_eq_some_iff.1 h
  by_cases hplain : c = DOLLAR
  · rw [if_pos hplain] at h
    exact (read_rounds_result (Or.inl rfl) h).imp_right fun hout => ⟨0, hout⟩
  rw [if_neg hplain] at h
  by_cases hminor : c = 97 ∨ c = 98
  · rw [if_pos hminor] at h
    exact (read_rounds_result (Or.inr hminor) h).imp_right fun hout => ⟨c, hout⟩
  · rw [if_neg hminor] at h
    exact Or.inl (Option.some_inj.1 h).symm

end

end Chatripper.Bcrypt
