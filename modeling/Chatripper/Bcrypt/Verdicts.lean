import Mathlib
import Chatripper.Bcrypt.Hash

/-!
# Which passwords a hash accepts

* `validatePassword_spec`     the hashes that accept a password, and those that are read beyond their end;
* `validatePassword_generateHash`   the password that was hashed is accepted, and so is every password that
  begins with the same 72 bytes;
* `keyStream_bytes_iff`       of passwords without a NUL the first 72 bytes count, all of them;
* `validatePassword_wraps`    a hash of version `a` takes the length of a password modulo 256.
-/

namespace Chatripper.Bcrypt
open ByteStr

section
variable {minor : UInt8} {logr : Nat} {csalt junk seed : Vector UInt8 16} {password : Bytes}

/-! ## the key -/

/-- a version `b` reads the first 72 bytes of a password, or a shorter one and its NUL round and round -/
theorem keyStream_bytes (p : Bytes) : (keyStream 98 p).bytes 72 = Cyclic.reads 0 72 p := by
  unfold Stream.bytes Cyclic.reads
  apply List.map_congr_left
  intro r _
  unfold Stream.byte
  rw [List.get_eq_getElem, List.getD_eq_getElem]
  rfl

theorem keyStream_bytes_congr {p q : Bytes} (h : p.take 72 = q.take 72) :
    (keyStream 98 p).bytes 72 = (keyStream 98 q).bytes 72 := by
  rw [keyStream_bytes, keyStream_bytes]
  exact Cyclic.reads_congr h

/-- **The key.**  Passwords without a NUL give the subkeys the same bytes exactly when they begin with the
same 72 bytes. -/
theorem keyStream_bytes_iff {p q : Bytes} (hp : 0 ∉ p) (hq : 0 ∉ q) :
    (keyStream 98 p).bytes 72 = (keyStream 98 q).bytes 72 ↔ p.take 72 = q.take 72 := by
  refine ⟨?_, keyStream_bytes_congr⟩
  intro h
  rw [keyStream_bytes, keyStream_bytes] at h
  rw [← Cyclic.takeWhile_reads hp 72, ← Cyclic.takeWhile_reads hq 72, h]

theorem keyStream_bytes_iff_secret :
    (keyStream 98 (ascii "secret")).bytes 72 = (keyStream 98 (ascii "Secret")).bytes 72 ↔
      (ascii "secret").take 72 = (ascii "Secret").take 72 :=
  keyStream_bytes_iff (by decide) (by decide)

theorem hashState_congr {key key' : Stream} (h : key.bytes 72 = key'.bytes 72)
    (csalt : Vector UInt8 16) (rounds : Nat) : hashState key csalt rounds = hashState key' csalt rounds := by
  have hround : (fun state => Blowfish_expand0state (Blowfish_expand0state state key) (saltStream csalt)) =
      fun state => Blowfish_expand0state (Blowfish_expand0state state key') (saltStream csalt) :=
    funext fun state => by rw [Blowfish_expand0state_congr h]
  unfold hashState
  rw [Blowfish_expandstate_congr h, hround]

theorem hashed_congr {p q : Bytes}
    (h : (keyStream minor p).bytes 72 = (keyStream minor q).bytes 72) :
    hashed minor logr csalt p = hashed minor logr csalt q := by
  unfold hashed
  rw [hashState_congr h]

/-! ## a hash that was made -/

/-- the number of rounds that `bcrypt_gensalt` takes -/
def logRounds (rounds : UInt32) : UInt8 :=
  if rounds.toUInt8 < 4 then 4 else if rounds.toUInt8 > 31 then 31 else rounds.toUInt8

theorem accepted_logRounds (rounds : UInt32) : Accepted 98 (logRounds rounds).toNat := by
  refine ⟨Or.inr (Or.inr rfl), ?_, ?_⟩
  all_goals
    unfold logRounds
    split
    · decide
    · rename_i h4
      split
      · decide
      · rename_i h31
        simp only [UInt8.lt_iff_toNat_lt, not_lt, gt_iff_lt] at h4 h31
        assumption

theorem bcrypt_gensalt_eq (rounds : UInt32) :
    bcrypt_gensalt 98 rounds.toUInt8 seed = settings 98 (logRounds rounds).toNat seed := by
  have h31 := (accepted_logRounds rounds).le_31
  have hand : (logRounds rounds &&& 0x1F).toNat = (logRounds rounds).toNat := by
    rw [UInt8.toNat_and]
    show (logRounds rounds).toNat &&& (2 ^ 5 - 1) = _
    rw [Nat.and_two_pow_sub_one_eq_mod]
    exact Nat.mod_eq_of_lt (by omega)
  show encode_salt seed 98 (logRounds rounds) = _
  unfold encode_salt
  rw [hand]
  rfl

theorem generateHash_eq (rounds : UInt32) :
    generateHash junk seed password rounds =
      some (hashed 98 (logRounds rounds).toNat seed password) := by
  show (node_bcrypt junk password (bcrypt_gensalt 98 rounds.toUInt8 seed ++ [0]) >>=
    fun hash => some (resize60 hash)) = _
  rw [bcrypt_gensalt_eq, node_bcrypt_settings (accepted_logRounds rounds) (List.mem_singleton.2 rfl)]
  exact congrArg some (resize60_of_length (length_hashed (by decide)))

/-! ## a hash that is checked -/

/-- the strings that a password is checked against -/
def Fits (password hash : Bytes) : Prop :=
  ∃ minor logr csalt, Accepted minor logr ∧ hash = resize60 (hashed minor logr csalt password)

theorem node_bcrypt_resize60 (h : Accepted minor logr) :
    node_bcrypt junk password (resize60 (hashed minor logr csalt password) ++ [0]) =
      some (hashed minor logr csalt password) := by
  obtain ⟨l, hl⟩ := resize60_nul (length_hashed_le minor logr csalt password)
  rw [hl]
  unfold hashed
  rw [List.append_assoc]
  exact node_bcrypt_settings h (by simp)

theorem node_bcrypt_error : node_bcrypt junk password (resize60 error ++ [0]) = some error := rfl

variable (junk) in
theorem validatePassword_iff {hash : Bytes} :
    validatePassword junk password hash = some true ↔
      hash = resize60 error ∨ Fits password hash := by
  unfold validatePassword
  constructor
  · intro h
    obtain ⟨got, hgot, h⟩ := Option.bind_eq_some_iff.1 h
    have heq : hash = resize60 got := by simpa using h
    obtain rfl | ⟨minor, logr, csalt, hacc, rfl⟩ := node_bcrypt_result hgot
    · exact Or.inl heq
    · exact Or.inr ⟨minor, logr, csalt, hacc, heq⟩
  · rintro (rfl | ⟨minor, logr, csalt, hacc, rfl⟩)
    · rw [node_bcrypt_error]
      simp
    · rw [node_bcrypt_resize60 hacc]
      simp

/-! ## reads beyond the end of a hash -/

variable (minor logr junk password) in
theorem hash_with_isSome {salt : Bytes} (h0 : 0 ∈ salt) :
    (hash_with junk minor logr password salt).isSome = true := by
  obtain ⟨p, r, rfl, hp⟩ := List.eq_append_cons_of_mem h0
  have hlen : strlen (p ++ 0 :: r) = some p.length := indexOf_append hp r
  unfold hash_with
  rw [hlen]
  show (if p.length * 3 / 4 < 16 then _ else _ : Option Bytes).isSome = true
  split
  · rfl
  · rename_i hlong
    obtain ⟨out, hout, -⟩ := decode_base64_isSome BCRYPT_MAXSALT (p ++ 0 :: r) (by
      rw [List.length_append]
      show (4 * 16 + 2) / 3 ≤ _
      omega)
    rw [hout]
    rfl

theorem read_rounds_none_iff {text : Bytes} :
    read_rounds junk minor password (text ++ [0]) = none ↔ text.length ≤ 1 := by
  unfold read_rounds
  constructor
  · intro h
    by_contra hlong
    have hsome : ∃ c, (text ++ [0])[2]? = some c ∧ (c = DOLLAR → 3 ≤ text.length) := by
      by_cases h3 : 3 ≤ text.length
      · exact ⟨text[2], by rw [List.getElem?_append_left h3, List.getElem?_eq_getElem h3], fun _ => h3⟩
      · have htwo : text.length = 2 := by omega
        refine ⟨0, ?_, fun hc => absurd hc (by decide)⟩
        rw [List.getElem?_append_right htwo.le, htwo]
        rfl
    obtain ⟨c, hc, h3⟩ := hsome
    rw [hc] at h
    change (if c ≠ DOLLAR then _ else _) = _ at h
    by_cases hdollar : c = DOLLAR
    · have hsplit : (text ++ [0]).drop 3 = text.drop 3 ++ [0] := List.drop_append_of_le_length (h3 hdollar)
      have hnul : 0 ∈ (text ++ [0]).drop 3 := by
        rw [hsplit]
        simp
      have hash := hash_with_isSome minor (atoi (text ++ [0])).toNat junk password hnul
      rw [if_neg (by simpa using hdollar)] at h
      by_cases hrange : atoi (text ++ [0]) > 31 ∨ atoi (text ++ [0]) < 0
      · rw [if_pos hrange] at h
        cases h
      rw [if_neg hrange] at h
      by_cases hrounds : 2 ^ (atoi (text ++ [0])).toNat < BCRYPT_MINROUNDS
      · rw [if_pos hrounds] at h
        cases h
      rw [if_neg hrounds] at h
      rw [h] at hash
      cases hash
    · rw [if_pos hdollar] at h
      cases h
  · intro h
    have hnone : (text ++ [0])[2]? = none := by
      rw [List.getElem?_eq_none_iff, List.length_append]
      exact Nat.succ_le_succ h
    rw [hnone]
    rfl

/-- the hash ends within its settings, where `node_bcrypt` does not look for the end -/
def EndsEarly : Bytes → Prop
  | _ :: version :: c :: rest =>
    version.toInt8 ≤ BCRYPT_VERSION.toInt8 ∧
      (c = DOLLAR ∧ rest.length ≤ 1 ∨ (c = 97 ∨ c = 98) ∧ rest.length ≤ 2)
  | [_, _] => False
  | _ => True

/-- `node_bcrypt` from the version on -/
theorem node_bcrypt_cons (x version c : UInt8) (rest : Bytes) :
    node_bcrypt junk password (x :: version :: c :: rest) =
      if version.toInt8 > BCRYPT_VERSION.toInt8 then some error
      else if c = DOLLAR then read_rounds junk 0 password rest
      else if c = 97 ∨ c = 98 then read_rounds junk c password (rest.drop 1)
      else some error := rfl

variable (junk password) in
theorem node_bcrypt_none_iff {hash : Bytes} :
    node_bcrypt junk password (hash ++ [0]) = none ↔ EndsEarly hash := by
  obtain _ | ⟨x, _ | ⟨version, _ | ⟨c, rest⟩⟩⟩ := hash
  · exact iff_of_true rfl trivial
  · exact iff_of_true rfl trivial
  · refine iff_of_false ?_ not_false
    show node_bcrypt junk password (x :: version :: 0 :: []) ≠ none
    rw [node_bcrypt_cons]
    by_cases hversion : version.toInt8 > BCRYPT_VERSION.toInt8
    · simp [hversion]
    · simp [hversion, DOLLAR]
  · show node_bcrypt junk password (x :: version :: c :: (rest ++ [0])) = none ↔ _ ∧ _
    rw [node_bcrypt_cons, ← Int8.not_lt]
    by_cases hversion : version.toInt8 > BCRYPT_VERSION.toInt8
    · simp [hversion]
    rw [if_neg hversion]
    by_cases hplain : c = DOLLAR
    · rw [if_pos hplain, read_rounds_none_iff, hplain]
      simp [DOLLAR, hversion]
    rw [if_neg hplain]
    by_cases hminor : c = 97 ∨ c = 98
    · rw [if_pos hminor]
      obtain _ | ⟨y, rest⟩ := rest
      · -- nothing is left to read
        exact iff_of_true rfl ⟨hversion, Or.inr ⟨hminor, by simp⟩⟩
      · show read_rounds junk c password (rest ++ [0]) = none ↔ _
        rw [read_rounds_none_iff]
        simp [hplain, hminor, hversion]
    · rw [if_neg hminor]
      simp [hplain, hminor]

theorem validatePassword_none_iff {hash : Bytes} :
    validatePassword junk password hash = none ↔ EndsEarly hash := by
  rw [← node_bcrypt_none_iff junk password]
  unfold validatePassword
  rw [Option.bind_eq_bind, Option.bind_eq_none_iff]
  constructor
  · intro h
    cases hgot : node_bcrypt junk password (hash ++ [0]) with
    | none => rfl
    | some got => exact absurd (h got hgot) (by simp)
  · intro h got hgot
    rw [h] at hgot
    cases hgot

/-- what was in memory before does not decide -/
theorem validatePassword_junk (junk junk' : Vector UInt8 16) (password hash : Bytes) :
    validatePassword junk password hash = validatePassword junk' password hash := by
  cases h : validatePassword junk password hash with
  | none => rw [validatePassword_none_iff] at h; exact (validatePassword_none_iff.2 h).symm
  | some verdict =>
    cases h' : validatePassword junk' password hash with
    | none =>
      rw [validatePassword_none_iff.2 (validatePassword_none_iff.1 h')] at h
      cases h
    | some verdict' =>
      have htrue : verdict = true ↔ verdict' = true := by
        rw [← Option.some_inj, ← h, validatePassword_iff, ← validatePassword_iff junk', h',
          Option.some_inj]
      rw [Bool.eq_iff_iff.2 htrue]

/-- **A password is checked.**  Beyond the end of a stored hash is read exactly when the hash ends within
its settings.  A password is accepted exactly by the hashes that can be made of it, and by the error that
`node_bcrypt` returns, stored as a hash.  What was in memory before does not decide. -/
theorem validatePassword_spec (junk junk' : Vector UInt8 16) (password hash : Bytes) :
    (validatePassword junk password hash = none ↔ EndsEarly hash) ∧
      (validatePassword junk password hash = some true ↔
        hash = resize60 error ∨ Fits password hash) ∧
      validatePassword junk password hash = validatePassword junk' password hash :=
  ⟨validatePassword_none_iff, validatePassword_iff junk, validatePassword_junk junk junk' password hash⟩

/-! ## what of a password counts -/

theorem hash_with_congr {p q salt : Bytes}
    (h : (keyStream minor p).bytes 72 = (keyStream minor q).bytes 72) :
    hash_with junk minor logr p salt = hash_with junk minor logr q salt := by
  unfold hash_with
  simp only [hashState_congr h]

theorem read_rounds_congr {p q salt : Bytes}
    (h : (keyStream minor p).bytes 72 = (keyStream minor q).bytes 72) :
    read_rounds junk minor p salt = read_rounds junk minor q salt := by
  unfold read_rounds
  simp only [hash_with_congr h]

theorem validatePassword_congr {p q hash : Bytes} (hminor : hash[2]? = some minor)
    (h97 : minor = 97 ∨ minor = 98)
    (h : (keyStream minor p).bytes 72 = (keyStream minor q).bytes 72) :
    validatePassword junk p hash = validatePassword junk q hash := by
  obtain _ | ⟨x, _ | ⟨version, _ | ⟨c, rest⟩⟩⟩ := hash
  · cases hminor
  · cases hminor
  · cases hminor
  · obtain rfl : c = minor := by simpa using hminor
    have hplain : c ≠ DOLLAR := by
      obtain rfl | rfl := h97 <;> decide
    have hcons (r : Bytes) : node_bcrypt junk r (x :: version :: c :: rest ++ [0]) =
        if version.toInt8 > BCRYPT_VERSION.toInt8 then some error
        else read_rounds junk c r ((rest ++ [0]).drop 1) := by
      show node_bcrypt junk r (x :: version :: c :: (rest ++ [0])) = _
      rw [node_bcrypt_cons, if_neg hplain, if_pos h97]
    unfold validatePassword
    rw [hcons, hcons, read_rounds_congr h]

/-- a hash of version `b` accepts the passwords that begin with the same 72 bytes -/
theorem validatePassword_hashed (junk seed : Vector UInt8 16) {p q : Bytes} (h : q.take 72 = p.take 72)
    (rounds : UInt32) :
    validatePassword junk q (hashed 98 (logRounds rounds).toNat seed p) = some true := by
  rw [validatePassword_iff]
  refine Or.inr ⟨98, _, seed, accepted_logRounds rounds, ?_⟩
  rw [hashed_congr (keyStream_bytes_congr h)]
  exact (resize60_of_length (length_hashed (by decide))).symm

/-- **The password that was hashed.**  A hash accepts the password that it was made of and every other that
begins with the same 72 bytes, whatever the random bytes and the rounds are, and whatever was in memory. -/
theorem validatePassword_generateHash (junk junk' seed : Vector UInt8 16) {p q : Bytes}
    (h : q.take 72 = p.take 72) (rounds : UInt32) :
    (do validatePassword junk' q (← generateHash junk seed p rounds)) = some true := by
  rw [generateHash_eq]
  exact validatePassword_hashed junk' seed h rounds

theorem validatePassword_generateHash_secret :
    (do
      let hash ← generateHash (Vector.replicate 16 0) (Vector.replicate 16 7) (ascii "secret") 12
      validatePassword (Vector.replicate 16 1) (ascii "secret") hash) = some true :=
  validatePassword_generateHash _ _ _ rfl 12

/-- a hash of version `b` is ASCII text -/
theorem hashed_ascii (h31 : logr ≤ 31) : ∀ x ∈ hashed 98 logr seed password, x.toNat < 0x80 := by
  have hdigit {n : Nat} (hn : n < 10) : ((48 : UInt8) + UInt8.ofNat n).toNat < 0x80 := by
    have hall : ∀ n < 10, ((48 : UInt8) + UInt8.ofNat n).toNat < 0x80 := by decide
    exact hall n hn
  have htens : logr / 10 < 10 := by omega
  have hones : logr % 10 < 10 := by omega
  have hdigits : ∀ x ∈ twoDigits logr, x.toNat < 0x80 :=
    List.forall_mem_cons.mpr ⟨hdigit htens, List.forall_mem_cons.mpr ⟨hdigit hones, fun x hx => (by cases hx)⟩⟩
  have hsettings : settings 98 logr seed =
      [36, 50, 98, 36] ++ twoDigits logr ++ [36] ++ encode_base64 seed.toList := by
    unfold settings
    rw [if_neg (by decide)]
    simp [DOLLAR, BCRYPT_VERSION]
  have hversion : ∀ x ∈ ([36, 50, 98, 36] : Bytes), x.toNat < 0x80 := by simp
  have hdollar : ∀ x ∈ ([36] : Bytes), x.toNat < 0x80 := by simp
  unfold hashed
  rw [hsettings]
  simp only [List.forall_mem_append]
  exact ⟨⟨⟨⟨hversion, hdigits⟩, hdollar⟩, encode_base64_ascii⟩, encode_base64_ascii⟩

/-! ## version a -/

/-- the bytes of a password that version `a` reads -/
def counted (p : Bytes) : Bytes := (p ++ [0]).take (max ((p.length + 1) % 256) 1)

theorem byte_keyStream_97 (p : Bytes) (r : Nat) :
    (keyStream 97 p).byte r = (counted p).getD (Cyclic.place ((p.length + 1) % 256) r) 0 := by
  have hlt := Cyclic.place_lt (n := (p.length + 1) % 256) r
  have hin := (keyStream 97 p).inside
  have hdata : (keyStream 97 p).data = p ++ [0] := rfl
  have hbytes : (keyStream 97 p).databytes = (p.length + 1) % 256 := rfl
  rw [hdata, hbytes] at hin
  have hcount : Cyclic.place ((p.length + 1) % 256) r < (counted p).length := by
    unfold counted
    rw [List.length_take]
    omega
  rw [List.getD_eq_getElem _ _ hcount]
  simp only [counted, List.getElem_take]
  rfl

theorem keyStream_97_congr {p q : Bytes} (hlen : p.length % 256 = q.length % 256)
    (hcounted : counted p = counted q) : (keyStream 97 p).bytes 72 = (keyStream 97 q).bytes 72 := by
  have hmod : (p.length + 1) % 256 = (q.length + 1) % 256 := by omega
  unfold Stream.bytes
  apply List.map_congr_left
  intro r _
  rw [byte_keyStream_97, byte_keyStream_97, hmod, hcounted]

/-- **Version a.**  Under a hash of version `a` the length of a password is taken modulo 256: passwords
whose lengths agree so, and whose first bytes up to that number agree, are accepted alike. -/
theorem validatePassword_wraps {p q hash : Bytes} (junk : Vector UInt8 16)
    (hminor : hash[2]? = some 97) (hlen : p.length % 256 = q.length % 256)
    (hcounted : counted p = counted q) :
    validatePassword junk p hash = validatePassword junk q hash :=
  validatePassword_congr hminor (Or.inl rfl) (keyStream_97_congr hlen hcounted)

/-- one byte of 256 counts -/
theorem counted_256 (x y : UInt8) : (x :: List.replicate 255 y).length % 256 = 0 ∧
    counted (x :: List.replicate 255 y) = [x] := by
  unfold counted
  rw [List.length_cons, List.length_replicate]
  exact ⟨rfl, rfl⟩

theorem validatePassword_wraps_256 :
    validatePassword (Vector.replicate 16 0) (120 :: List.replicate 255 120)
        (hashed 97 4 (Vector.replicate 16 0) (120 :: List.replicate 255 120)) =
      validatePassword (Vector.replicate 16 0) (120 :: List.replicate 255 121)
        (hashed 97 4 (Vector.replicate 16 0) (120 :: List.replicate 255 120)) :=
  validatePassword_wraps _ rfl ((counted_256 120 120).1.trans (counted_256 120 121).1.symm)
    ((counted_256 120 120).2.trans (counted_256 120 121).2.symm)

end

end Chatripper.Bcrypt
