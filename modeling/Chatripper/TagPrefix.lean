import Mathlib
import Chatripper.Injection
import Chatripper.TagRoundTrip

/-!
# The tag prefix at its limit

The limit cuts bytes off the assembled block.  A block within it is well formed whatever the values
and the sender are, since they are escaped; of a longer one the final space is cut off, which is the
only one.

* `length_escapeTagValue`   how long a value gets;
* `length_tagBlock`         how long the block gets;
* `tag_prefix_iff`          the prefix is well formed.
-/

namespace Chatripper
open ByteStr Utf8

/-! ## sizes -/

instance : DecidablePred Escaped := fun b =>
  inferInstanceAs (Decidable (b = SEMI ∨ b = SP ∨ b = BACKSLASH ∨ b = CR ∨ b = LF))

/-- the size of an escaped value: two bytes for `;`, space, backslash, CR and LF, but none for a
backslash at the end -/
def escapedSize : Bytes → Nat
  | [] => 0
  | c :: rest =>
    (if c = BACKSLASH ∧ rest = [] then 0 else if Escaped c then 2 else 1) + escapedSize rest

/-- the size of an item, with its value if there is one -/
def itemSize (key value : Bytes) : Nat :=
  if value = [] then key.length else key.length + 1 + escapedSize value

/-- the account-tag, and then the tags of the message, as octets -/
def items (msg : QEventMessage) (src : Option Account) (capabilities : Flags PROTOCOL_CAPABILITY) :
    List (Bytes × Bytes) :=
  (match src with
    | some a =>
      if capabilities.has .ACCOUNT_TAG ∧ a.m_name ≠ [] then [(ascii "account", a.m_name)] else []
    | none => []) ++ msg.tags.toList.map fun kv => (toUtf8 kv.1, kv.2.toByteArray)

/-- the `@`, and the items with a byte after each -/
def blockSize (msg : QEventMessage) (src : Option Account)
    (capabilities : Flags PROTOCOL_CAPABILITY) : Nat :=
  1 + ((items msg src capabilities).map fun it => itemSize it.1 it.2 + 1).sum

theorem length_escapeTagByte (c : UInt8) (last : Bool) : (escapeTagByte c last).length =
    if c = BACKSLASH ∧ last = true then 0 else if Escaped c then 2 else 1 := by
  by_cases hc : Escaped c
  · rcases hc with rfl | rfl | rfl | rfl | rfl <;> cases last <;> rfl
  · rw [escapeTagByte_plain hc, if_neg hc, if_neg fun h => hc (.inr (.inr (.inl h.1)))]
    rfl

theorem length_escapeTagValue (value : Bytes) :
    (escapeTagValue value).length = escapedSize value := by
  induction value with
  | nil => rfl
  | cons c rest ih =>
    show (escapeTagByte c (rest == []) ++ escapeTagValue rest).length = _
    rw [List.length_append, ih, length_escapeTagByte]
    simp only [beq_iff_eq]
    rfl

/-- an item as it is written -/
def writtenItem (it : Bytes × Bytes) : Bytes :=
  if it.2 = [] then it.1 else it.1 ++ EQUALS :: escapeTagValue it.2

theorem length_writtenItem (it : Bytes × Bytes) : (writtenItem it).length = itemSize it.1 it.2 := by
  unfold writtenItem itemSize
  split
  · rfl
  · rw [List.length_append, List.length_cons, length_escapeTagValue]
    omega

theorem tagEntries_items (msg : QEventMessage) (src : Option Account)
    (capabilities : Flags PROTOCOL_CAPABILITY) :
    tagEntries msg src capabilities = (items msg src capabilities).map writtenItem := by
  have htags : (msg.tags.toList.map fun kv => buildTag kv.1 kv.2) =
      (msg.tags.toList.map fun kv => (toUtf8 kv.1, kv.2.toByteArray)).map writtenItem := by
    rw [List.map_map]
    rfl
  unfold tagEntries items accountEntry
  rw [List.map_append, htags]
  cases src with
  | none => rfl
  | some a =>
    dsimp only
    split
    · next h =>
      have hitem : writtenItem (ascii "account", a.m_name) =
          ascii "account=" ++ escapeTagValue a.m_name := if_neg h.2
      rw [List.map_singleton, hitem]
    · rfl

theorem length_join {entries : List Bytes} (hne : entries ≠ []) :
    (join [SEMI] entries).length + 1 = (entries.map fun e => e.length + 1).sum := by
  induction entries with
  | nil => exact absurd rfl hne
  | cons e es ih =>
    cases es with
    | nil => rw [join_singleton, List.map_singleton, List.sum_singleton]
    | cons e' es =>
      have hrest := ih (List.cons_ne_nil e' es)
      rw [join_cons_of_ne_nil (List.cons_ne_nil e' es), List.length_append, List.length_append,
        List.length_singleton, List.map_cons, List.sum_cons, ← hrest]
      omega

/-- **The size of the block.** -/
theorem length_tagBlock {msg : QEventMessage} {src : Option Account}
    {capabilities : Flags PROTOCOL_CAPABILITY} (hne : tagEntries msg src capabilities ≠ []) :
    (tagBlock (tagEntries msg src capabilities)).length = blockSize msg src capabilities := by
  have hsum := length_join hne
  have hsizes : ((tagEntries msg src capabilities).map fun e => e.length + 1) =
      (items msg src capabilities).map fun it => itemSize it.1 it.2 + 1 := by
    rw [tagEntries_items, List.map_map]
    exact List.map_congr_left fun it _ => congrArg (· + 1) (length_writtenItem it)
  rw [hsizes] at hsum
  unfold tagBlock blockSize
  rw [List.length_cons, List.length_append, List.length_singleton, hsum, Nat.add_comm]

/-! ## the prefix -/

/-- a prefix for the block of `entries`: it starts with `@` and ends with its only space, has no line
end, is within the limit, and its items are whole ones of the block -/
structure TagPrefix (entries : List Bytes) ( tag_prefix : Bytes) : Prop where
  size : tag_prefix.length ≤ max_tag_data + 2
  clean : Clean tag_prefix
  shape : ∃ data, tag_prefix = 64 :: (data ++ [SP]) ∧ SP ∉ data ∧
    ∀ item ∈ split SEMI data, item ∈ split SEMI (join [SEMI] entries)

/-- a key that is written as it is -/
structure KeyWritten (key : QString) : Prop where
  plain : KeyPlain key
  cr : '\r' ∉ key
  lf : '\n' ∉ key

section
variable {msg : QEventMessage} {src : Option Account} {capabilities : Flags PROTOCOL_CAPABILITY}

theorem entry_plain (hkeys : ∀ (k : QString) v, msg.tags[k]? = some v → KeyWritten k) :
    ∀ e ∈ tagEntries msg src capabilities, SP ∉ e ∧ Clean e := by
  intro e he
  rcases List.mem_append.mp he with he | he
  · refine ⟨?_, clean_accountEntry he⟩
    unfold accountEntry at he
    split at he
    · split at he
      · rw [List.mem_singleton.mp he, List.mem_append, not_or]
        exact ⟨by decide, not_mem_escapeTagValue (.inr rfl) _⟩
      · cases he
    · cases he
  · obtain ⟨kv, hkv, rfl⟩ := List.mem_map.mp he
    have hkey := hkeys kv.1 kv.2 (Std.ExtTreeMap.mem_toList_iff_getElem?_eq_some.mp hkv)
    refine ⟨not_mem_buildTag (hkey.plain.not_mem (.inr (.inr rfl))) (.inr rfl), ?_⟩
    have hclean := (clean_buildTag (buildTag kv.1 kv.2).length.succ kv.1 kv.2).mpr
      (Clean.take ⟨fun h => hkey.cr ((mem_toUtf8 (by decide) _).mp h),
        fun h => hkey.lf ((mem_toUtf8 (by decide) _).mp h)⟩ _)
    rw [List.take_of_length_le (Nat.le_succ _)] at hclean
    exact hclean

/-- a block within the limit -/
theorem tagPrefix_whole (hkeys : ∀ (k : QString) v, msg.tags[k]? = some v → KeyWritten k)
    (hsize : (tagBlock (tagEntries msg src capabilities)).length ≤ max_tag_data + 2) :
    TagPrefix (tagEntries msg src capabilities) (tagBlock (tagEntries msg src capabilities)) where
  size := hsize
  clean := by
    have hjoin : Clean (join [SEMI] (tagEntries msg src capabilities)) :=
      ⟨not_mem_join (by decide) fun e he => (entry_plain hkeys e he).2.1,
        not_mem_join (by decide) fun e he => (entry_plain hkeys e he).2.2⟩
    have hat : Clean ([64] ++ (join [SEMI] (tagEntries msg src capabilities) ++ [SP])) :=
      clean_append.mpr ⟨by decide, clean_append.mpr ⟨hjoin, by decide⟩⟩
    exact hat
  shape := ⟨_, rfl, not_mem_join (by decide) fun e he => (entry_plain hkeys e he).1, fun _ h => h⟩

/-- the space of a longer block is cut off -/
theorem not_tagPrefix_cut {entries : List Bytes} (hspace : ∀ e ∈ entries, SP ∉ e)
    (hsize : max_tag_data + 2 < (tagBlock entries).length) :
    ¬ TagPrefix entries ((tagBlock entries).take (max_tag_data + 2)) := by
  intro h
  obtain ⟨data, hdata, -⟩ := h.shape
  have hcut : (tagBlock entries).take (max_tag_data + 2) =
      64 :: (join [SEMI] entries).take (max_tag_data + 1) := by
    unfold tagBlock at hsize ⊢
    rw [List.length_cons, List.length_append, List.length_singleton] at hsize
    show 64 :: (join [SEMI] entries ++ [SP]).take (max_tag_data + 1) = _
    rw [List.take_append_of_le_length (by omega)]
  rw [hcut] at hdata
  have hmem : SP ∈ (join [SEMI] entries).take (max_tag_data + 1) := by
    rw [(List.cons.inj hdata).2]
    exact List.mem_append_right _ (List.mem_singleton.mpr rfl)
  exact not_mem_join (by decide) hspace (List.mem_of_mem_take hmem)

/-- **The tag prefix is well formed**, if and only if the block is not longer than the limit. -/
theorem tag_prefix_iff (hkeys : ∀ (k : QString) v, msg.tags[k]? = some v → KeyWritten k) :
    (buildMessageTags msg src capabilities = [] ∨
      TagPrefix (tagEntries msg src capabilities) (buildMessageTags msg src capabilities)) ↔
    (capabilities.has .MESSAGE_TAGS = true → blockSize msg src capabilities ≤ max_tag_data + 2) := by
  unfold buildMessageTags
  dsimp only
  by_cases hcap : capabilities.has .MESSAGE_TAGS = true
  · rw [if_pos hcap, forall_prop_of_true hcap]
    by_cases hnone : tagEntries msg src capabilities = []
    · rw [if_pos hnone]
      have hitems : items msg src capabilities = [] := by
        rw [tagEntries_items] at hnone
        exact List.map_eq_nil_iff.mp hnone
      refine iff_of_true (.inl rfl) ?_
      unfold blockSize
      rw [hitems]
      decide
    · rw [if_neg hnone, ← length_tagBlock hnone]
      constructor
      · rintro (h | h)
        · cases h
        · by_contra hlong
          exact not_tagPrefix_cut (fun e he => (entry_plain hkeys e he).1) (Nat.not_le.mp hlong) h
      · intro hsize
        rw [List.take_of_length_le hsize]
        exact .inr (tagPrefix_whole hkeys hsize)
  · rw [if_neg hcap]
    exact iff_of_true (.inl rfl) fun h => absurd h hcap

end

/-! ## one tag -/

/-- a message with the tag `a` -/
def aTagged (value : QString) : QEventMessage where
  account := none
  conn_id := 0
  text := ascii "hi"
  nick := ascii "bob"
  raw := ascii "#a hi"
  user := ascii "bob"
  host := defaultHost
  tags := (∅ : QMap QString QVariant).insert ['a'] (.str value)

/-- a recipient with message-tags -/
def tagReader : Flags PROTOCOL_CAPABILITY := Flags.setAll ⟨0⟩ [.MESSAGE_TAGS]

theorem aTagged_keys (value : QString) :
    ∀ (k : QString) v, (aTagged value).tags[k]? = some v → KeyWritten k := by
  intro k v hk
  rw [show (aTagged value).tags[k]? = if k = ['a'] then _ else _ from lookup_insert _ _ _ _] at hk
  split at hk
  · next hka =>
    rw [hka]
    exact ⟨⟨by decide, by decide, by decide, by decide⟩, by decide, by decide⟩
  · cases hk

theorem tag_prefix_iff_space :
    (buildMessageTags (aTagged "b c".toList) none tagReader = [] ∨
      TagPrefix (tagEntries (aTagged "b c".toList) none tagReader)
        (buildMessageTags (aTagged "b c".toList) none tagReader)) ↔
    (tagReader.has .MESSAGE_TAGS = true →
      blockSize (aTagged "b c".toList) none tagReader ≤ max_tag_data + 2) :=
  tag_prefix_iff (aTagged_keys _)

theorem escapedSize_replicate (n : Nat) : escapedSize (toUtf8 (List.replicate n 'x')) = n := by
  induction n with
  | zero => rfl
  | succ n ih =>
    rw [List.replicate_succ, toUtf8_cons]
    show 1 + escapedSize (toUtf8 (List.replicate n 'x')) = n + 1
    rw [ih, Nat.add_comm]

/-- a value that does not fit costs the prefix its space -/
theorem tag_prefix_cut : ¬ ∀ (msg : QEventMessage) (src : Option Account)
    (capabilities : Flags PROTOCOL_CAPABILITY),
    (∀ (k : QString) v, msg.tags[k]? = some v → KeyWritten k) →
      buildMessageTags msg src capabilities = [] ∨
        TagPrefix (tagEntries msg src capabilities) (buildMessageTags msg src capabilities) := by
  intro h
  obtain ⟨value, hvalue⟩ : ∃ value : QString, value = List.replicate 4095 'x' := ⟨_, rfl⟩
  have hne : tagEntries (aTagged value) none tagReader ≠ [] := List.cons_ne_nil _ _
  have hbytes : toUtf8 value ≠ [] := by
    intro he
    have hempty := toUtf8_eq_nil.mp he
    rw [hvalue] at hempty
    cases hempty
  have hsize : blockSize (aTagged value) none tagReader = 4099 := by
    have hitem : itemSize (toUtf8 ['a']) (toUtf8 value) = 4097 := by
      unfold itemSize
      rw [if_neg hbytes, hvalue, escapedSize_replicate]
      rfl
    show 1 + (itemSize (toUtf8 ['a']) (toUtf8 value) + 1 + 0) = 4099
    rw [hitem]
  have hlong : max_tag_data + 2 < (tagBlock (tagEntries (aTagged value) none tagReader)).length := by
    rw [length_tagBlock hne, hsize]
    decide
  have hcut : buildMessageTags (aTagged value) none tagReader =
      (tagBlock (tagEntries (aTagged value) none tagReader)).take (max_tag_data + 2) := rfl
  rcases h (aTagged value) none tagReader (aTagged_keys value) with hnil | hprefixed
  · cases hnil
  · rw [hcut] at hprefixed
    exact not_tagPrefix_cut (fun e he => (entry_plain (aTagged_keys value) e he).1) hlong hprefixed

end Chatripper
