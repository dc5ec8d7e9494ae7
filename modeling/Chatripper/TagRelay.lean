import Mathlib
import Chatripper.TagRoundTrip

/-!
# Tags that are relayed

A line's tags are read by the server, written again for every recipient and read once more there.
What comes out of the first reading has no separators, so the second finds the same entries; it may
still lose a byte order mark at the start of a key or a value, and a backslash at the end of a value.

* `parseMessageTags_read`   the keys and values that a line is read as;
* `reread_eq_iff`           the values that are read the same again;
* `relay_lossless_iff`      the maps that are read the same again.
-/

namespace Chatripper
open ByteStr Utf8

/-! ## what a line is read as -/

/-- null, or text that is not empty -/
def ValueRead (v : QVariant) : Prop := v = .null ∨ ∃ s, v = .str s ∧ s ≠ []

/-- a key without separators; it may be empty -/
def KeyRead (key : QString) : Prop := ';' ∉ key ∧ '=' ∉ key ∧ ' ' ∉ key

theorem KeyRead.not_mem {key : QString} (h : KeyRead key) {b : UInt8}
    (hb : b = SEMI ∨ b = EQUALS ∨ b = SP) : b ∉ toUtf8 key := by
  rcases hb with rfl | rfl | rfl
  · exact fun hm => h.1 ((mem_toUtf8 (by decide) key).mp hm)
  · exact fun hm => h.2.1 ((mem_toUtf8 (by decide) key).mp hm)
  · exact fun hm => h.2.2 ((mem_toUtf8 (by decide) key).mp hm)

/-- no key has a separator, and every value is one that an entry has -/
def TagsRead (tags : QMap QString QVariant) : Prop :=
  ∀ (k : QString) (v : QVariant), tags[k]? = some v → KeyRead k ∧ ValueRead v

theorem parseTag_read {rawTag : Bytes} (hsemi : SEMI ∉ rawTag) (hspace : SP ∉ rawTag) :
    KeyRead (parseTag rawTag).1 ∧ ValueRead (parseTag rawTag).2 := by
  have hvalue (s : QString) :
      ValueRead (if unescapeTagValue s = [] then .null else .str (unescapeTagValue s)) := by
    by_cases h : unescapeTagValue s = []
    · rw [if_pos h]
      exact Or.inl rfl
    · rw [if_neg h]
      exact Or.inr ⟨_, rfl, h⟩
  have hkey {bs : Bytes} (h : SEMI ∉ bs ∧ EQUALS ∉ bs ∧ SP ∉ bs) : KeyRead (fromUtf8 bs) :=
    ⟨fun hm => h.1 (mem_fromUtf8 (c := ';') (by decide) hm),
      fun hm => h.2.1 (mem_fromUtf8 (c := '=') (by decide) hm),
      fun hm => h.2.2 (mem_fromUtf8 (c := ' ') (by decide) hm)⟩
  unfold parseTag
  cases hidx : indexOf EQUALS rawTag with
  | none => exact ⟨hkey ⟨hsemi, indexOf_none.mp hidx, hspace⟩, hvalue []⟩
  | some n =>
    exact ⟨hkey ⟨fun hm => hsemi (List.mem_of_mem_take hm), (indexOf_some hidx).1,
      fun hm => hspace (List.mem_of_mem_take hm)⟩, hvalue (fromUtf8 (rawTag.drop (n + 1)))⟩

theorem foldl_insertTag_read {l : List Bytes} (hl : ∀ t ∈ l, SEMI ∉ t ∧ SP ∉ t)
    {m : QMap QString QVariant} (hm : TagsRead m) : TagsRead (l.foldl insertTag m) := by
  induction l generalizing m with
  | nil => exact hm
  | cons t l ih =>
    obtain ⟨hsemi, hspace⟩ := hl t List.mem_cons_self
    apply ih fun x hx => hl x (List.mem_cons_of_mem _ hx)
    intro k v h
    unfold insertTag at h
    split at h
    · exact hm k v h
    · rw [lookup_insert] at h
      split at h
      · next hk =>
        cases h
        rw [hk]
        exact parseTag_read hsemi hspace
      · exact hm k v h

/-- the tags of any line -/
theorem parseMessageTags_read (line : Bytes) : TagsRead (parseMessageTags line).1 := by
  have hempty : TagsRead ∅ := by
    intro k v h
    rw [Std.ExtTreeMap.getElem?_empty] at h
    cases h
  unfold parseMessageTags
  split
  · cases hidx : indexOf SP line with
    | none => exact hempty
    | some spaceIdx =>
      refine foldl_insertTag_read (fun t ht => ⟨not_mem_of_mem_split ht, fun hm => ?_⟩) hempty
      have hline : SP ∈ (line.drop 1).take (spaceIdx - 1) := mem_of_mem_split ht hm
      have hbefore : (line.drop 1).take (spaceIdx - 1) = (line.take spaceIdx).drop 1 := by
        rw [List.drop_take]
      rw [hbefore] at hline
      exact (indexOf_some hidx).1 (List.mem_of_mem_drop hline)
  · exact hempty

/-! ## reading again -/

theorem fromUtf8_bom (s : QString) : fromUtf8 (toUtf8 (bom :: s)) = s := decode_toUtf8 s

/-- a key is read again without its byte order mark -/
theorem key_reread (k : QString) :
    fromUtf8 (toUtf8 k) = if k.head? = some bom then k.tail else k := by
  split
  · next h =>
    cases k with
    | nil => cases h
    | cons c k =>
      obtain rfl : c = bom := Option.some.inj h
      exact fromUtf8_bom k
  · next h => exact fromUtf8_toUtf8.mpr h

/-- text that is read the same again -/
def TextKept (s : QString) : Prop := s.head? ≠ some bom ∧ s.getLast? ≠ some '\\'

theorem length_unescape_escapeText (s : QString) :
    (unescapeTagValue (escapeText s)).length ≤ s.length := by
  by_cases h : s.getLast? = some '\\'
  · rw [unescape_escapeText_back h, List.length_dropLast]
    omega
  · rw [unescape_escapeText h]

/-- other text comes out shorter -/
theorem length_reread {s : QString} (h : ¬ TextKept s) :
    (unescapeTagValue (fromUtf8 (escapeTagValue (toUtf8 s)))).length < s.length := by
  rw [escapeTagValue_toUtf8]
  by_cases hbom : s.head? = some bom
  · cases s with
    | nil => cases hbom
    | cons c s =>
      obtain rfl : c = bom := Option.some.inj hbom
      have hplain : ¬ EscapedChar bom := by
        unfold EscapedChar
        decide
      have hescape : escapeText (bom :: s) = bom :: escapeText s := by
        show escapeChar bom _ ++ escapeText s = _
        rw [escapeChar_plain hplain]
        rfl
      rw [hescape, fromUtf8_bom, List.length_cons]
      have := length_unescape_escapeText s
      omega
  · have hback : s.getLast? = some '\\' := by
      by_contra hlast
      exact h ⟨hbom, hlast⟩
    have hpos : 0 < s.length := by
      cases s with
      | nil => cases hback
      | cons c s => exact Nat.succ_pos _
    rw [fromUtf8_escapeText (fromUtf8_toUtf8.mpr hbom), unescape_escapeText_back hback,
      List.length_dropLast]
    omega

theorem reread_eq_iff {v : QVariant} (hv : ValueRead v) :
    v.reread = v ↔ ∀ s, v = .str s → TextKept s := by
  rcases hv with rfl | ⟨s, rfl, hne⟩
  · exact ⟨fun _ s h => (by cases h), fun _ => rfl⟩
  · constructor
    · intro h t ht
      obtain rfl : s = t := QVariant.str.inj ht
      by_contra hkept
      have hlt := length_reread hkept
      unfold QVariant.reread at h
      dsimp only at h
      split at h
      · cases h
      · have htext := QVariant.str.inj h
        replace htext : unescapeTagValue (fromUtf8 (escapeTagValue (toUtf8 s))) = s := htext
        rw [htext] at hlt
        exact absurd hlt (lt_irrefl _)
    · intro h
      obtain ⟨hbom, hback⟩ := h s rfl
      have hok : ValueOk (.str s) := Or.inr ⟨s, rfl, hback, fromUtf8_toUtf8.mpr hbom⟩
      rw [reread_of_ok hok]
      exact if_neg fun he => hne (toUtf8_eq_nil.mp he)

/-! ## the whole map -/

/-- tags that a recipient reads as the server has read them -/
def Relayable (tags : QMap QString QVariant) : Prop :=
  ∀ (k : QString) (v : QVariant), tags[k]? = some v →
    k.head? ≠ some bom ∧ ∀ s, v = .str s → TextKept s

section
variable {K V : Type} [Ord K] [Std.TransOrd K] [Std.LawfulEqOrd K] [DecidableEq K]

/-- an entry of a map made by insertions comes from one of them -/
theorem mem_of_foldl_insert {α : Type} {f : α → K} {g : α → V} {l : List α} {m : QMap K V} {k : K}
    {v : V} (h : (l.foldl (fun m p => m.insert (f p) (g p)) m)[k]? = some v) :
    m[k]? = some v ∨ ∃ p ∈ l, f p = k ∧ g p = v := by
  induction l generalizing m with
  | nil => exact Or.inl h
  | cons p l ih =>
    rcases ih h with h | ⟨q, hq, he⟩
    · rw [lookup_insert] at h
      split at h
      · next hk => exact Or.inr ⟨p, List.mem_cons_self, hk.symm, Option.some.inj h⟩
      · exact Or.inl h
    · exact Or.inr ⟨q, List.mem_cons_of_mem _ hq, he⟩

end

section
variable {tags : QMap QString QVariant}

/-- a map that its own keys are read from again has no key with a byte order mark: the longest such
key would come from a longer one -/
theorem keys_kept (h : ∀ (k : QString) (v : QVariant), tags[k]? = some v →
    ∃ (k' : QString) (v' : QVariant), tags[k']? = some v' ∧ fromUtf8 (toUtf8 k') = k) {k : QString} {v : QVariant}
    (hk : tags[k]? = some v) : k.head? ≠ some bom := by
  intro hbom
  have hmem {k : QString} {v : QVariant} : (k, v) ∈ tags.toList ↔ tags[k]? = some v :=
    Std.ExtTreeMap.mem_toList_iff_getElem?_eq_some
  have hlong (n : Nat) : ∃ (k : QString) (v : QVariant),
      tags[k]? = some v ∧ k.head? = some bom ∧ n ≤ k.length := by
    induction n with
    | zero => exact ⟨k, v, hk, hbom, Nat.zero_le _⟩
    | succ n ih =>
      obtain ⟨k1, v1, hk1, hbom1, hlen⟩ := ih
      obtain ⟨k2, v2, hk2, he⟩ := h k1 v1 hk1
      rw [key_reread] at he
      split at he
      · next hbom2 =>
        refine ⟨k2, v2, hk2, hbom2, ?_⟩
        have hcut := congrArg List.length he
        rw [List.length_tail] at hcut
        cases k2 with
        | nil => cases hbom2
        | cons c k2 =>
          rw [List.length_cons] at hcut ⊢
          omega
      · next hbom2 =>
        rw [he] at hbom2
        exact absurd hbom1 hbom2
  obtain ⟨k1, v1, hk1, -, hlen⟩ := hlong ((tags.toList.map fun p => p.1.length).sum + 1)
  have hle : k1.length ≤ (tags.toList.map fun p => p.1.length).sum :=
    List.le_sum_of_mem (List.mem_map.mpr ⟨(k1, v1), hmem.mpr hk1, rfl⟩)
  omega

/-- what the entries of a map are read as -/
def readAgain (pairs : List (QString × QVariant)) : QMap QString QVariant :=
  pairs.foldl (fun m p => m.insert (fromUtf8 (toUtf8 p.1)) p.2.reread) ∅

theorem readAgain_eq_iff (hread : TagsRead tags) : readAgain tags.toList = tags ↔ Relayable tags := by
  have hmem {k : QString} {v : QVariant} : (k, v) ∈ tags.toList ↔ tags[k]? = some v :=
    Std.ExtTreeMap.mem_toList_iff_getElem?_eq_some
  have hdistinct : tags.toList.Pairwise fun p q => p.1 ≠ q.1 :=
    Std.ExtTreeMap.distinct_keys_toList.imp fun hne he => hne (Std.compare_eq_iff_eq.mpr he)
  have hempty (k : QString) : (∅ : QMap QString QVariant)[k]? = none := Std.ExtTreeMap.getElem?_empty
  -- once no key has a byte order mark, only the values can differ
  have hvalues (hkeys : ∀ (k : QString) (v : QVariant), tags[k]? = some v → k.head? ≠ some bom)
      (k : QString) : (readAgain tags.toList)[k]? = tags[k]?.map QVariant.reread := by
    have hsame : readAgain tags.toList =
        tags.toList.foldl (fun m p => m.insert p.1 p.2.reread) ∅ := by
      refine List.foldl_ext _ _ _ fun m p hp => ?_
      rw [fromUtf8_toUtf8.mpr (hkeys p.1 p.2 (hmem.mp hp))]
    obtain ⟨hin, hout⟩ := lookup_foldl (f := QVariant.reread) tags.toList ∅ hdistinct k
    rw [hsame]
    cases hk : tags[k]? with
    | some v => exact hin v (hmem.mpr hk)
    | none =>
      rw [hout fun v hv => ?_, hempty]
      · rfl
      · rw [hmem.mp hv] at hk
        cases hk
  constructor
  · intro h
    have hkeys : ∀ (k : QString) (v : QVariant), tags[k]? = some v → k.head? ≠ some bom := by
      intro k v hk
      refine keys_kept (fun k1 v1 hk1 => ?_) hk
      rw [← h] at hk1
      rcases mem_of_foldl_insert hk1 with hk1 | ⟨p, hp, he, -⟩
      · rw [hempty] at hk1
        cases hk1
      · exact ⟨p.1, p.2, hmem.mp hp, he⟩
    intro k v hk
    refine ⟨hkeys k v hk, (reread_eq_iff (hread k v hk).2).mp ?_⟩
    have hagain := hvalues hkeys k
    rw [h, hk] at hagain
    exact (Option.some.inj hagain).symm
  · intro h
    apply Std.ExtTreeMap.ext_getElem?
    intro k
    rw [hvalues fun k v hk => (h k v hk).1]
    cases hk : tags[k]? with
    | none => rfl
    | some v => exact congrArg some ((reread_eq_iff (hread k v hk).2).mpr (h k v hk).2)

end

/-- **The relay of tags.**  The tags of a line, with keys that are not empty, are written for a
recipient without the account-tag and within the length limit.  He reads the same tags if and only if
no key and no value starts with a byte order mark and no value ends in a backslash. -/
theorem relay_lossless_iff {line rest : Bytes} {msg : QEventMessage} {src : Option Account}
    {capabilities : Flags PROTOCOL_CAPABILITY} (htags : msg.tags = (parseMessageTags line).1)
    (hkeys : ∀ (k : QString) (v : QVariant), msg.tags[k]? = some v → k ≠ [])
    (hcap : capabilities.has .MESSAGE_TAGS = true) (haccount : capabilities.has .ACCOUNT_TAG = false)
    (hlen : (tagBlock (tagEntries msg src capabilities)).length ≤ max_tag_data + 2)
    (hrest : rest.head? ≠ some 64) :
    (parseMessageTags (buildMessageTags msg src capabilities ++ rest)).1 = msg.tags ↔
      Relayable msg.tags := by
  have hread : TagsRead msg.tags := by
    rw [htags]
    exact parseMessageTags_read line
  have hmem {k : QString} {v : QVariant} : (k, v) ∈ msg.tags.toList ↔ msg.tags[k]? = some v :=
    Std.ExtTreeMap.mem_toList_iff_getElem?_eq_some
  have hentries : tagEntries msg src capabilities =
      msg.tags.toList.map fun p => buildTag p.1 p.2 := by
    unfold tagEntries accountEntry
    cases src with
    | none => rfl
    | some a =>
      dsimp only
      rw [haccount, if_neg fun h => Bool.false_ne_true h.1]
      rfl
  have hplain : ∀ p ∈ msg.tags.toList, KeyPlain p.1 := by
    intro p hp
    obtain ⟨⟨hsemi, hequals, hspace⟩, -⟩ := hread p.1 p.2 (hmem.mp hp)
    exact ⟨hkeys p.1 p.2 (hmem.mp hp), hsemi, hequals, hspace⟩
  rw [(parse_build_pairs hcap hentries hplain hlen hrest).1]
  exact readAgain_eq_iff hread

/-- a message with the tags of a line -/
def taggedMessage (line : Bytes) : QEventMessage where
  account := none
  conn_id := 0
  text := ascii "hi"
  nick := ascii "bob"
  raw := ascii "#a hi"
  user := ascii "bob"
  host := defaultHost
  tags := (parseMessageTags line).1

/-- a recipient with message-tags -/
def tagsOnly : Flags PROTOCOL_CAPABILITY := Flags.setAll ⟨0⟩ [.MESSAGE_TAGS]

/-- the value of the tag is `b` and an escaped backslash -/
def backslashLine : Bytes := ascii "@a=b\\\\ PRIVMSG #a :hi"

theorem backslash_keys : ∀ (k : QString) (v : QVariant),
    (taggedMessage backslashLine).tags[k]? = some v → k ≠ [] := by
  intro k v h
  have htags : (taggedMessage backslashLine).tags =
      (∅ : QMap QString QVariant).insert "a".toList (.str "b\\".toList) := rfl
  rw [htags, lookup_insert] at h
  split at h
  · next hk =>
    rw [hk]
    decide
  · rw [Std.ExtTreeMap.getElem?_empty] at h
    cases h

/-- the recipient reads `b` -/
theorem backslash_lost :
    (tagBlock (tagEntries (taggedMessage backslashLine) none tagsOnly)).length ≤ max_tag_data + 2 ∧
      (parseMessageTags (buildMessageTags (taggedMessage backslashLine) none tagsOnly ++
        ascii ":bob PRIVMSG #a :hi")).1 ≠ (taggedMessage backslashLine).tags := by
  refine ⟨by decide, fun h => ?_⟩
  have hread := congrArg (fun m : QMap QString QVariant => m["a".toList]?) h
  have hlost : (parseMessageTags (buildMessageTags (taggedMessage backslashLine) none tagsOnly ++
      ascii ":bob PRIVMSG #a :hi")).1["a".toList]? = some (.str "b".toList) := rfl
  have hkept : (taggedMessage backslashLine).tags["a".toList]? = some (.str "b\\".toList) := rfl
  replace hread : (parseMessageTags (buildMessageTags (taggedMessage backslashLine) none tagsOnly ++
      ascii ":bob PRIVMSG #a :hi")).1["a".toList]? =
    (taggedMessage backslashLine).tags["a".toList]? := hread
  rw [hlost, hkept] at hread
  exact absurd hread (by decide)

/-- the same line, at the general theorem -/
theorem relay_lossless_iff_backslash :
    (parseMessageTags (buildMessageTags (taggedMessage backslashLine) none tagsOnly ++
        ascii ":bob PRIVMSG #a :hi")).1 = (taggedMessage backslashLine).tags ↔
      Relayable (taggedMessage backslashLine).tags :=
  relay_lossless_iff rfl backslash_keys (by decide) (by decide) (by decide) (by decide)

end Chatripper
