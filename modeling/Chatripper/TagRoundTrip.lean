import Mathlib
import Chatripper.Irc.Utils

/-!
# The tag block round trip

`buildMessageTags` escapes a value as octets and `parseMessageTags` unescapes it as text.  The two
meet because escaping the octets of a text is the same as escaping its characters.

* `escapeTagValue_toUtf8`   that fact;
* `parse_build`             a block that is not cut off is read back as the tags it was built from.
-/

namespace Chatripper
open ByteStr Utf8

/-! ## escaping text -/

/-- what is written for a character -/
def escapeChar (c : Char) (last : Bool) : QString :=
  if c = ';' then ['\\', ':']
  else if c = ' ' then ['\\', 's']
  else if c = '\\' then if last then [] else ['\\', '\\']
  else if c = '\r' then ['\\', 'r']
  else if c = '\n' then ['\\', 'n']
  else [c]

def escapeText : QString → QString
  | [] => []
  | c :: rest => escapeChar c (rest == []) ++ escapeText rest

/-- the octets that are escaped -/
def Escaped (b : UInt8) : Prop := b = SEMI ∨ b = SP ∨ b = BACKSLASH ∨ b = CR ∨ b = LF

/-- the characters that are escaped -/
def EscapedChar (c : Char) : Prop := c = ';' ∨ c = ' ' ∨ c = '\\' ∨ c = '\r' ∨ c = '\n'

theorem escapeTagByte_plain {b : UInt8} (h : ¬ Escaped b) (last : Bool) :
    escapeTagByte b last = [b] := by
  unfold Escaped at h
  push Not at h
  obtain ⟨h1, h2, h3, h4, h5⟩ := h
  unfold escapeTagByte
  rw [if_neg h1, if_neg h2, if_neg h3, if_neg h4, if_neg h5]

theorem escapeChar_plain {c : Char} (h : ¬ EscapedChar c) (last : Bool) : escapeChar c last = [c] := by
  unfold EscapedChar at h
  push Not at h
  obtain ⟨h1, h2, h3, h4, h5⟩ := h
  unfold escapeChar
  rw [if_neg h1, if_neg h2, if_neg h3, if_neg h4, if_neg h5]

theorem escapeTagValue_plain {bs : Bytes} (h : ∀ b ∈ bs, ¬ Escaped b) (rest : Bytes) :
    escapeTagValue (bs ++ rest) = bs ++ escapeTagValue rest := by
  induction bs with
  | nil => rfl
  | cons b bs ih =>
    have hb : ¬ Escaped b := h b List.mem_cons_self
    have hbs : ∀ b ∈ bs, ¬ Escaped b := fun b hb => h b (List.mem_cons_of_mem _ hb)
    show escapeTagByte b _ ++ escapeTagValue (bs ++ rest) = _
    rw [escapeTagByte_plain hb, ih hbs]
    rfl

/-- only the escaped characters are encoded with escaped octets -/
theorem encodeChar_plain {c : Char} (h : ¬ EscapedChar c) : ∀ b ∈ encodeChar c, ¬ Escaped b := by
  intro b hb hesc
  have hlt : b.toNat < 0x80 := by
    rcases hesc with rfl | rfl | rfl | rfl | rfl <;> decide
  have hc : c = Char.ofNat b.toNat := (mem_encodeChar hlt c).mp hb
  apply h
  rw [hc]
  unfold EscapedChar
  rcases hesc with rfl | rfl | rfl | rfl | rfl <;> decide

/-- escaping the octets of a text escapes its characters -/
theorem escapeTagValue_toUtf8 (s : QString) : escapeTagValue (toUtf8 s) = toUtf8 (escapeText s) := by
  induction s with
  | nil => rfl
  | cons c s ih =>
    have hlast : (toUtf8 s == []) = (s == []) := by
      by_cases hs : s = []
      · rw [hs]
        rfl
      · have hs' : toUtf8 s ≠ [] := fun h => hs (toUtf8_eq_nil.mp h)
        rw [beq_false_of_ne hs, beq_false_of_ne hs']
    show _ = toUtf8 (escapeChar c (s == []) ++ escapeText s)
    rw [toUtf8_cons, toUtf8_append, ← ih]
    by_cases hc : EscapedChar c
    · rcases hc with rfl | rfl | rfl | rfl | rfl
      · rfl
      · rfl
      · show escapeTagByte BACKSLASH (toUtf8 s == []) ++ escapeTagValue (toUtf8 s) = _
        rw [hlast]
        cases s == [] <;> rfl
      · rfl
      · rfl
    · have hone : toUtf8 [c] = encodeChar c := List.append_nil _
      rw [escapeChar_plain hc, escapeTagValue_plain (encodeChar_plain hc), hone]

theorem unescape_cons {c : Char} (h : c ≠ '\\') (rest : QString) :
    unescapeTagValue (c :: rest) = c :: unescapeTagValue rest := by
  cases rest with
  | nil =>
    show (if c = '\\' then [] else [c]) = _
    rw [if_neg h]
    rfl
  | cons d rest =>
    show (if c = '\\' then _ else _) = _
    rw [if_neg h]

/-- what is written for a character is read back as it, but for a final backslash -/
theorem unescape_escape_cons {c : Char} {s : QString} (h : s ≠ [] ∨ c ≠ '\\') :
    unescapeTagValue (escapeText (c :: s)) = c :: unescapeTagValue (escapeText s) := by
  have hpair (x y : Char) (hx : unescapeChar x = y) :
      unescapeTagValue ('\\' :: x :: escapeText s) = y :: unescapeTagValue (escapeText s) := by
    show unescapeChar x :: unescapeTagValue (escapeText s) = _
    rw [hx]
  show unescapeTagValue (escapeChar c (s == []) ++ escapeText s) = _
  by_cases hc : EscapedChar c
  · rcases hc with rfl | rfl | rfl | rfl | rfl
    · exact hpair ':' ';' rfl
    · exact hpair 's' ' ' rfl
    · have hne : s ≠ [] := h.resolve_right fun hn => hn rfl
      rw [beq_false_of_ne hne]
      exact hpair '\\' '\\' rfl
    · exact hpair 'r' '\r' rfl
    · exact hpair 'n' '\n' rfl
  · have hback : c ≠ '\\' := fun he => hc (Or.inr (Or.inr (Or.inl he)))
    rw [escapeChar_plain hc, List.singleton_append, unescape_cons hback]

/-- text that does not end in a backslash is unescaped to itself -/
theorem unescape_escapeText {s : QString} (h : s.getLast? ≠ some '\\') :
    unescapeTagValue (escapeText s) = s := by
  induction s with
  | nil => rfl
  | cons c s ih =>
    cases s with
    | nil =>
      have hc : c ≠ '\\' := fun hc => h (congrArg some hc)
      rw [unescape_escape_cons (Or.inr hc)]
      rfl
    | cons d s =>
      rw [List.getLast?_cons_cons] at h
      rw [unescape_escape_cons (Or.inl (List.cons_ne_nil d s)), ih h]

/-- text that ends in a backslash loses it -/
theorem unescape_escapeText_back {s : QString} (h : s.getLast? = some '\\') :
    unescapeTagValue (escapeText s) = s.dropLast := by
  induction s with
  | nil => cases h
  | cons c s ih =>
    cases s with
    | nil =>
      obtain rfl : c = '\\' := Option.some.inj h
      rfl
    | cons d s =>
      rw [List.getLast?_cons_cons] at h
      rw [unescape_escape_cons (Or.inl (List.cons_ne_nil d s)), ih h]
      rfl

/-- escaping puts no byte order mark at the start -/
theorem fromUtf8_escapeText {s : QString} (h : fromUtf8 (toUtf8 s) = s) :
    fromUtf8 (toUtf8 (escapeText s)) = escapeText s := by
  rw [fromUtf8_toUtf8] at h ⊢
  cases s with
  | nil => exact nofun
  | cons c s =>
    show (escapeChar c (s == []) ++ escapeText s).head? ≠ some bom
    by_cases hc : EscapedChar c
    · rcases hc with rfl | rfl | rfl | rfl | rfl
      · exact fun he => absurd (Option.some.inj he) (by decide)
      · exact fun he => absurd (Option.some.inj he) (by decide)
      · cases s with
        | nil => exact nofun
        | cons d s => exact fun he => absurd (Option.some.inj he) (by decide)
      · exact fun he => absurd (Option.some.inj he) (by decide)
      · exact fun he => absurd (Option.some.inj he) (by decide)
    · rw [escapeChar_plain hc]
      exact h

theorem not_mem_escapeTagByte {b : UInt8} (h : b = SEMI ∨ b = SP) (x : UInt8) (last : Bool) :
    b ∉ escapeTagByte x last := by
  by_cases hx : Escaped x
  · rcases h with rfl | rfl <;> rcases hx with rfl | rfl | rfl | rfl | rfl <;> cases last <;> decide
  · rw [escapeTagByte_plain hx, List.mem_singleton]
    rintro rfl
    rcases h with rfl | rfl
    · exact hx (Or.inl rfl)
    · exact hx (Or.inr (Or.inl rfl))

/-- escaping leaves no separator -/
theorem not_mem_escapeTagValue {b : UInt8} (h : b = SEMI ∨ b = SP) (value : Bytes) :
    b ∉ escapeTagValue value := by
  induction value with
  | nil => exact List.not_mem_nil
  | cons x rest ih =>
    show b ∉ escapeTagByte x (rest == []) ++ escapeTagValue rest
    rw [List.mem_append, not_or]
    exact ⟨not_mem_escapeTagByte h x _, ih⟩

/-! ## one tag -/

/-- an empty value is read as a null variant -/
def QVariant.received (v : QVariant) : QVariant := if v.toByteArray = [] then .null else v

/-- null, or text that survives the encoding and does not end in a backslash -/
def ValueOk (v : QVariant) : Prop :=
  v = .null ∨ ∃ s, v = .str s ∧ s.getLast? ≠ some '\\' ∧ fromUtf8 (toUtf8 s) = s

/-- a key without separators -/
structure KeyPlain (key : QString) : Prop where
  nonempty : key ≠ []
  semi : ';' ∉ key
  equals : '=' ∉ key
  space : ' ' ∉ key

/-- the value that is read from what is written for `v` -/
def QVariant.reread (v : QVariant) : QVariant :=
  let unescaped := unescapeTagValue (fromUtf8 (escapeTagValue v.toByteArray))
  if unescaped = [] then .null else .str unescaped

/-- a key without separators that survives the encoding -/
structure KeyOk (key : QString) : Prop where
  nonempty : key ≠ []
  semi : ';' ∉ key
  equals : '=' ∉ key
  space : ' ' ∉ key
  lossless : fromUtf8 (toUtf8 key) = key

section
variable {key : QString} {v : QVariant}

theorem KeyOk.plain (h : KeyOk key) : KeyPlain key := ⟨h.nonempty, h.semi, h.equals, h.space⟩

theorem KeyPlain.not_mem (h : KeyPlain key) {b : UInt8} (hb : b = SEMI ∨ b = EQUALS ∨ b = SP) :
    b ∉ toUtf8 key := by
  rcases hb with rfl | rfl | rfl
  · exact fun hm => h.semi ((mem_toUtf8 (by decide) key).mp hm)
  · exact fun hm => h.equals ((mem_toUtf8 (by decide) key).mp hm)
  · exact fun hm => h.space ((mem_toUtf8 (by decide) key).mp hm)

theorem not_mem_buildTag {b : UInt8} (hkey : b ∉ toUtf8 key) (hb : b = SEMI ∨ b = SP) :
    b ∉ buildTag key v := by
  unfold buildTag
  dsimp only
  split
  · exact hkey
  · rw [List.mem_append, List.mem_cons, not_or, not_or]
    refine ⟨hkey, ?_, not_mem_escapeTagValue hb _⟩
    rcases hb with rfl | rfl <;> decide

theorem buildTag_ne_nil (h : KeyPlain key) : buildTag key v ≠ [] := by
  have hkey : toUtf8 key ≠ [] := fun he => h.nonempty (toUtf8_eq_nil.mp he)
  unfold buildTag
  dsimp only
  split
  · exact hkey
  · simp

/-- key and value are read separately -/
theorem parseTag_buildTag_plain (hequals : EQUALS ∉ toUtf8 key) (v : QVariant) :
    parseTag (buildTag key v) = (fromUtf8 (toUtf8 key), v.reread) := by
  unfold buildTag QVariant.reread
  dsimp only
  by_cases hempty : v.toByteArray = []
  · rw [if_pos hempty, hempty]
    unfold parseTag
    rw [indexOf_none.mpr hequals]
    rfl
  · rw [if_neg hempty]
    have hkey : (toUtf8 key ++ EQUALS :: escapeTagValue v.toByteArray).take (toUtf8 key).length =
        toUtf8 key := List.take_left
    have hvalue : (toUtf8 key ++ EQUALS :: escapeTagValue v.toByteArray).drop
        ((toUtf8 key).length + 1) = escapeTagValue v.toByteArray := by
      rw [← List.drop_drop, List.drop_left]
      rfl
    unfold parseTag
    rw [indexOf_append hequals]
    dsimp only
    rw [hkey, hvalue]

theorem reread_of_ok (hv : ValueOk v) : v.reread = v.received := by
  unfold QVariant.reread QVariant.received
  rcases hv with rfl | ⟨s, rfl, hlast, hloss⟩
  · rfl
  · have htext : QVariant.toByteArray (.str s) = toUtf8 s := rfl
    dsimp only
    rw [htext, escapeTagValue_toUtf8, fromUtf8_escapeText hloss, unescape_escapeText hlast]
    exact if_congr toUtf8_eq_nil.symm rfl rfl

/-- a tag is read back as it was written -/
theorem parseTag_buildTag (h : KeyOk key) (hv : ValueOk v) :
    parseTag (buildTag key v) = (key, v.received) := by
  rw [parseTag_buildTag_plain (h.plain.not_mem (Or.inr (Or.inl rfl))), h.lossless, reread_of_ok hv]

end

/-! ## the block -/

section
variable {K V : Type} [Ord K] [Std.TransOrd K] [Std.LawfulEqOrd K] [DecidableEq K]

/-- the lookups of a map made by inserting pairs with different keys -/
theorem lookup_foldl {f : V → V} (l : List (K × V)) (m : QMap K V)
    (hl : l.Pairwise fun p q => p.1 ≠ q.1) (k : K) :
    (∀ v, (k, v) ∈ l → (l.foldl (fun m p => m.insert p.1 (f p.2)) m)[k]? = some (f v)) ∧
      ((∀ v, (k, v) ∉ l) → (l.foldl (fun m p => m.insert p.1 (f p.2)) m)[k]? = m[k]?) := by
  induction l generalizing m with
  | nil => exact ⟨fun v hv => (by cases hv), fun _ => rfl⟩
  | cons p l ih =>
    obtain ⟨hp, hl⟩ := List.pairwise_cons.mp hl
    obtain ⟨hin, hout⟩ := ih (m.insert p.1 (f p.2)) hl
    rw [List.foldl_cons]
    constructor
    · intro v hv
      rcases List.mem_cons.mp hv with rfl | hv
      · have hnot : ∀ v', (k, v') ∉ l := fun v' hv' => hp _ hv' rfl
        rw [hout hnot, lookup_insert, if_pos rfl]
      · exact hin v hv
    · intro hnot
      have hk : k ≠ p.1 := fun he => hnot p.2 (by rw [he]; exact List.mem_cons_self)
      rw [hout fun v hv => hnot v (List.mem_cons_of_mem _ hv), lookup_insert, if_neg hk]

end

/-- the account-tag as a pair -/
def accountPair (src : Option Account) (capabilities : Flags PROTOCOL_CAPABILITY) :
    List (QString × QVariant) :=
  match src with
  | some a =>
    if capabilities.has .ACCOUNT_TAG ∧ a.m_name ≠ [] then
      [("account".toList, .str (fromUtf8 a.m_name))]
    else []
  | none => []

/-- the tags that a block is read as -/
def receivedTags (tags : QMap QString QVariant) (src : Option Account)
    (capabilities : Flags PROTOCOL_CAPABILITY) : QMap QString QVariant :=
  (accountPair src capabilities).foldl (fun m p => m.insert p.1 p.2)
    (tags.map fun _ v => v.received)

/-- the name of a sender survives the encoding and does not end in a backslash -/
def SenderOk (src : Option Account) : Prop :=
  ∀ a, src = some a → toUtf8 (fromUtf8 a.m_name) = a.m_name ∧ a.m_name.getLast? ≠ some BACKSLASH

theorem accountPair_key {src : Option Account} {capabilities : Flags PROTOCOL_CAPABILITY}
    {p : QString × QVariant} (h : p ∈ accountPair src capabilities) : p.1 = "account".toList := by
  unfold accountPair at h
  split at h
  · split at h
    · rw [List.mem_singleton.mp h]
    · cases h
  · cases h

theorem accountPair_value {src : Option Account} {capabilities : Flags PROTOCOL_CAPABILITY}
    (hsrc : SenderOk src) {p : QString × QVariant} (h : p ∈ accountPair src capabilities) :
    ValueOk p.2 ∧ p.2.received = p.2 := by
  unfold accountPair at h
  split at h
  · next a =>
    split at h
    · next hname =>
      rw [List.mem_singleton.mp h]
      obtain ⟨hloss, hlast⟩ := hsrc a rfl
      refine ⟨Or.inr ⟨fromUtf8 a.m_name, rfl, fun he => hlast ?_, by rw [hloss]⟩, ?_⟩
      · obtain ⟨l, hl⟩ := List.getLast?_eq_some_iff.mp he
        rw [← hloss, hl, toUtf8_append]
        exact List.getLast?_concat
      · unfold QVariant.received
        exact if_neg (by rw [show QVariant.toByteArray (.str (fromUtf8 a.m_name)) = a.m_name from hloss]
                         exact hname.2)
    · cases h
  · cases h

theorem accountEntry_eq {src : Option Account} (capabilities : Flags PROTOCOL_CAPABILITY)
    (hsrc : SenderOk src) :
    accountEntry src capabilities =
      (accountPair src capabilities).map fun p => buildTag p.1 p.2 := by
  unfold accountEntry accountPair
  cases src with
  | none => rfl
  | some a =>
    dsimp only
    obtain ⟨hloss, -⟩ := hsrc a rfl
    by_cases h : capabilities.has .ACCOUNT_TAG = true ∧ a.m_name ≠ []
    · rw [if_pos h, if_pos h]
      have hvalue : QVariant.toByteArray (.str (fromUtf8 a.m_name)) = a.m_name := hloss
      show _ = [buildTag "account".toList (.str (fromUtf8 a.m_name))]
      unfold buildTag
      rw [hvalue, if_neg h.2]
      rfl
    · rw [if_neg h, if_neg h]
      rfl

/-- a list of tags is read from the entries it was written as -/
theorem foldl_insertTag {pairs : List (QString × QVariant)} (h : ∀ p ∈ pairs, KeyPlain p.1)
    (m : QMap QString QVariant) :
    (pairs.map fun p => buildTag p.1 p.2).foldl insertTag m =
      pairs.foldl (fun m p => m.insert (fromUtf8 (toUtf8 p.1)) p.2.reread) m := by
  induction pairs generalizing m with
  | nil => rfl
  | cons p pairs ih =>
    have hkey := h p List.mem_cons_self
    have hstep : insertTag m (buildTag p.1 p.2) = m.insert (fromUtf8 (toUtf8 p.1)) p.2.reread := by
      unfold insertTag
      rw [if_neg (buildTag_ne_nil hkey),
        parseTag_buildTag_plain (hkey.not_mem (Or.inr (Or.inl rfl)))]
    rw [List.map_cons, List.foldl_cons, List.foldl_cons, hstep,
      ih fun q hq => h q (List.mem_cons_of_mem _ hq)]

/-- inserting the account first or last makes the same map -/
theorem foldl_received {tags : QMap QString QVariant} {src : Option Account}
    {capabilities : Flags PROTOCOL_CAPABILITY} (hsrc : SenderOk src)
    (htags : ∀ (k : QString) (v : QVariant), tags[k]? = some v → k ≠ "account".toList) :
    (accountPair src capabilities ++ tags.toList).foldl (fun m p => m.insert p.1 p.2.received) ∅ =
      receivedTags tags src capabilities := by
  have hmem {k : QString} {v : QVariant} : (k, v) ∈ tags.toList ↔ tags[k]? = some v :=
    Std.ExtTreeMap.mem_toList_iff_getElem?_eq_some
  have haccount : (accountPair src capabilities).Pairwise fun p q => p.1 ≠ q.1 := by
    unfold accountPair
    cases src with
    | none => exact .nil
    | some a =>
      dsimp only
      split
      · exact List.pairwise_singleton _ _
      · exact .nil
  have hdistinct : (accountPair src capabilities ++ tags.toList).Pairwise fun p q => p.1 ≠ q.1 := by
    refine List.pairwise_append.mpr ⟨haccount, ?_, fun p hp q hq he => ?_⟩
    · refine Std.ExtTreeMap.distinct_keys_toList.imp fun hne he => hne ?_
      exact Std.compare_eq_iff_eq.mpr he
    · rw [accountPair_key hp] at he
      exact htags q.1 q.2 (hmem.mp hq) he.symm
  apply Std.ExtTreeMap.ext_getElem?
  intro k
  obtain ⟨hin, hout⟩ := lookup_foldl (f := QVariant.received) _ ∅ hdistinct k
  obtain ⟨hin', hout'⟩ := lookup_foldl (f := id) _ (tags.map fun _ v => v.received) haccount k
  have hreceived : receivedTags tags src capabilities = (accountPair src capabilities).foldl
      (fun m p => m.insert p.1 (id p.2)) (tags.map fun _ v => v.received) := rfl
  rw [hreceived]
  by_cases hk : ∃ v, (k, v) ∈ accountPair src capabilities
  · obtain ⟨v, hv⟩ := hk
    rw [hin v (List.mem_append_left _ hv), hin' v hv, (accountPair_value hsrc hv).2]
    rfl
  · have hnot : ∀ v, (k, v) ∉ accountPair src capabilities := fun v hv => hk ⟨v, hv⟩
    rw [hout' hnot, Std.ExtTreeMap.getElem?_map]
    cases htag : tags[k]? with
    | some v => exact hin v (List.mem_append_right _ (hmem.mpr htag))
    | none =>
      rw [hout fun v hv => ?_]
      · simp
      · rcases List.mem_append.mp hv with hv | hv
        · exact hnot v hv
        · have hsome := hmem.mp hv
          rw [htag] at hsome
          cases hsome

theorem not_mem_join {b sep : UInt8} {entries : List Bytes} (hsep : b ≠ sep)
    (h : ∀ e ∈ entries, b ∉ e) : b ∉ join [sep] entries := by
  induction entries with
  | nil => exact List.not_mem_nil
  | cons e es ih =>
    have he := h e List.mem_cons_self
    have hes := ih fun x hx => h x (List.mem_cons_of_mem _ hx)
    cases es with
    | nil =>
      have hone : join [sep] [e] = e := by simp [join, List.intercalate]
      rw [hone]
      exact he
    | cons e' es =>
      have hcons : join [sep] (e :: e' :: es) = e ++ sep :: join [sep] (e' :: es) := by
        unfold join
        rw [List.intercalate_cons_cons]
        simp
      rw [hcons, List.mem_append, List.mem_cons, not_or, not_or]
      exact ⟨he, hsep, hes⟩

/-- the tag data of a line ends at its first space -/
theorem parseMessageTags_data {data : Bytes} (h : SP ∉ data) (rest : Bytes) :
    parseMessageTags (64 :: data ++ SP :: rest) =
      ((split SEMI data).foldl insertTag ∅, some (data.length + 1)) := by
  have hspace : SP ∉ 64 :: data := by
    rw [List.mem_cons, not_or]
    exact ⟨by decide, h⟩
  have hdata : ((64 :: data ++ SP :: rest).drop 1).take ((64 :: data).length - 1) = data :=
    List.take_left
  unfold parseMessageTags
  rw [if_pos (show (64 :: data ++ SP :: rest).head? = some 64 from rfl), indexOf_append hspace rest]
  dsimp only
  rw [hdata]
  rfl

/-- a line that starts with a block is cut at the end of it -/
theorem parseMessageTags_block {entries : List Bytes} (hne : entries ≠ [])
    (h : ∀ e ∈ entries, SEMI ∉ e ∧ SP ∉ e) (rest : Bytes) :
    parseMessageTags (tagBlock entries ++ rest) =
      (entries.foldl insertTag ∅, some ((join [SEMI] entries).length + 1)) := by
  have hsplit : split SEMI (join [SEMI] entries) = entries :=
    List.splitOn_intercalate SEMI (fun e he => (h e he).1) hne
  have hline : tagBlock entries ++ rest = 64 :: join [SEMI] entries ++ SP :: rest := by
    unfold tagBlock
    simp
  rw [hline, parseMessageTags_data (not_mem_join (by decide) fun e he => (h e he).2), hsplit]

/-- a block within the length limit is read as its pairs; it ends at its final space -/
theorem parse_build_pairs {msg : QEventMessage} {src : Option Account}
    {capabilities : Flags PROTOCOL_CAPABILITY} {pairs : List (QString × QVariant)} {rest : Bytes}
    (hcap : capabilities.has .MESSAGE_TAGS = true)
    (hentries : tagEntries msg src capabilities = pairs.map fun p => buildTag p.1 p.2)
    (hpairs : ∀ p ∈ pairs, KeyPlain p.1)
    (hlen : (tagBlock (tagEntries msg src capabilities)).length ≤ max_tag_data + 2)
    (hrest : rest.head? ≠ some 64) :
    (parseMessageTags (buildMessageTags msg src capabilities ++ rest)).1 =
        pairs.foldl (fun m p => m.insert (fromUtf8 (toUtf8 p.1)) p.2.reread) ∅ ∧
      (buildMessageTags msg src capabilities ≠ [] →
        ∃ pre, buildMessageTags msg src capabilities = pre ++ [SP] ∧
          (parseMessageTags (buildMessageTags msg src capabilities ++ rest)).2 = some pre.length) := by
  have hclean : ∀ e ∈ tagEntries msg src capabilities, SEMI ∉ e ∧ SP ∉ e := by
    intro e he
    rw [hentries] at he
    obtain ⟨p, hp, rfl⟩ := List.mem_map.mp he
    exact ⟨not_mem_buildTag ((hpairs p hp).not_mem (Or.inl rfl)) (Or.inl rfl),
      not_mem_buildTag ((hpairs p hp).not_mem (Or.inr (Or.inr rfl))) (Or.inr rfl)⟩
  have hmap : (tagEntries msg src capabilities).foldl insertTag ∅ =
      pairs.foldl (fun m p => m.insert (fromUtf8 (toUtf8 p.1)) p.2.reread) ∅ := by
    rw [hentries, foldl_insertTag hpairs]
  have hbuild : buildMessageTags msg src capabilities =
      if tagEntries msg src capabilities = [] then []
      else tagBlock (tagEntries msg src capabilities) := by
    unfold buildMessageTags
    dsimp only
    rw [if_pos hcap, List.take_of_length_le hlen]
  by_cases hnone : tagEntries msg src capabilities = []
  · rw [hbuild, if_pos hnone]
    refine ⟨?_, fun h => absurd rfl h⟩
    rw [← hmap, hnone]
    unfold parseMessageTags
    rw [List.nil_append, if_neg hrest]
    rfl
  · rw [hbuild, if_neg hnone, parseMessageTags_block hnone hclean]
    refine ⟨hmap, fun _ => ⟨64 :: join [SEMI] (tagEntries msg src capabilities), rfl, rfl⟩⟩

/-- **The tag round trip.**  For tags whose keys have no separator and whose values do not end in a
backslash, a block that is within the length limit is read back, in front of a line that starts with a
colon, as the tags it was built from; it ends at its final space. -/
theorem parse_build {msg : QEventMessage} {src : Option Account}
    {capabilities : Flags PROTOCOL_CAPABILITY} {rest : Bytes}
    (hcap : capabilities.has .MESSAGE_TAGS = true)
    (htags : ∀ (k : QString) (v : QVariant), msg.tags[k]? = some v →
      KeyOk k ∧ k ≠ "account".toList ∧ ValueOk v)
    (hsrc : SenderOk src)
    (hlen : (tagBlock (tagEntries msg src capabilities)).length ≤ max_tag_data + 2)
    (hrest : rest.head? = some 58) :
    (parseMessageTags (buildMessageTags msg src capabilities ++ rest)).1 =
        receivedTags msg.tags src capabilities ∧
      (buildMessageTags msg src capabilities ≠ [] →
        ∃ pre, buildMessageTags msg src capabilities = pre ++ [SP] ∧
          (parseMessageTags (buildMessageTags msg src capabilities ++ rest)).2 = some pre.length) := by
  have hmem {k : QString} {v : QVariant} : (k, v) ∈ msg.tags.toList ↔ msg.tags[k]? = some v :=
    Std.ExtTreeMap.mem_toList_iff_getElem?_eq_some
  -- the pairs that are written, the account first
  have hpairs : ∀ p ∈ accountPair src capabilities ++ msg.tags.toList, KeyOk p.1 ∧ ValueOk p.2 := by
    intro p hp
    rcases List.mem_append.mp hp with hp | hp
    · refine ⟨?_, (accountPair_value hsrc hp).1⟩
      rw [accountPair_key hp]
      exact ⟨by decide, by decide, by decide, by decide, by decide⟩
    · obtain ⟨hkey, -, hvalue⟩ := htags p.1 p.2 (hmem.mp hp)
      exact ⟨hkey, hvalue⟩
  have hentries : tagEntries msg src capabilities =
      (accountPair src capabilities ++ msg.tags.toList).map fun p => buildTag p.1 p.2 := by
    unfold tagEntries
    rw [accountEntry_eq capabilities hsrc, List.map_append]
  obtain ⟨hparse, hend⟩ := parse_build_pairs hcap hentries
    (fun p hp => (hpairs p hp).1.plain) hlen (show rest.head? ≠ some 64 by rw [hrest]; decide)
  refine ⟨?_, hend⟩
  -- reading them back gives the same map
  rw [hparse, ← foldl_received hsrc fun k v hk => (htags k v hk).2.1]
  refine List.foldl_ext _ _ _ fun m p hp => ?_
  rw [(hpairs p hp).1.lossless, reread_of_ok (hpairs p hp).2]

/-- a tag with every kind of escape and one without a value -/
def sampleMessage : QEventMessage where
  account := none
  conn_id := 0
  text := ascii "hi"
  nick := ascii "bob"
  raw := ascii "#a hi"
  user := ascii "bob"
  host := defaultHost
  tags := ((∅ : QMap QString QVariant).insert "+draft/reply".toList
    (.str "a;b c\\d\r\n".toList)).insert "typing".toList .null

def bobSender : Option Account := some { m_name := ascii "bob" }

def tagCapabilities : Flags PROTOCOL_CAPABILITY := Flags.setAll ⟨0⟩ [.MESSAGE_TAGS, .ACCOUNT_TAG]

theorem parse_build_sample :
    (parseMessageTags (buildMessageTags sampleMessage bobSender tagCapabilities ++
        ascii ":bob PRIVMSG #a :hi")).1 =
        receivedTags sampleMessage.tags bobSender tagCapabilities ∧
      (buildMessageTags sampleMessage bobSender tagCapabilities ≠ [] →
        ∃ pre, buildMessageTags sampleMessage bobSender tagCapabilities = pre ++ [SP] ∧
          (parseMessageTags (buildMessageTags sampleMessage bobSender tagCapabilities ++
            ascii ":bob PRIVMSG #a :hi")).2 = some pre.length) := by
  refine parse_build (by decide) (fun k v h => ?_) (fun a h => ?_) (by decide) (by decide)
  · have h : (((∅ : QMap QString QVariant).insert "+draft/reply".toList
        (.str "a;b c\\d\r\n".toList)).insert "typing".toList .null)[k]? = some v := h
    rw [lookup_insert, lookup_insert] at h
    split at h
    · next hk =>
      cases h
      rw [hk]
      exact ⟨⟨by decide, by decide, by decide, by decide, by decide⟩, by decide, Or.inl rfl⟩
    · split at h
      · next hk =>
        cases h
        rw [hk]
        exact ⟨⟨by decide, by decide, by decide, by decide, by decide⟩, by decide,
          Or.inr ⟨_, rfl, by decide, by decide⟩⟩
      · simp at h
  · cases h
    exact ⟨by decide, by decide⟩

end Chatripper
