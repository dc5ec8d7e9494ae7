import Mathlib
import Chatripper.Lib.Bytes
import Chatripper.Lib.Utf8
import Chatripper.Lib.Flags

/-!
# Identifiers, enumerations and events

The shared pointers of the server are identifiers into the heaps of `World`; a pointer that may
be null is an `Option`.  `QMap` and `QHash` are both ordered maps: a `QMap` iterates in key order,
a `QHash` or `QSet` in an order that no result may depend on.  The event classes are those of `qtypes.h`.
-/

namespace Chatripper
open ByteStr Utf8

abbrev ConnId := Nat
abbrev AccId := Nat
abbrev ChanId := Nat

/-- `QUuid`; `0` is the null uuid -/
abbrev Uuid := Nat

abbrev QMap (K V : Type) [Ord K] := Std.ExtTreeMap K V
abbrev QHash (K V : Type) [Ord K] := Std.ExtTreeMap K V
abbrev QSet (K : Type) [Ord K] := Std.ExtTreeSet K

section
variable {K V : Type} [Ord K] [Std.TransOrd K] [Std.LawfulEqOrd K] [DecidableEq K]

theorem lookup_insert (m : QMap K V) (k x : K) (v : V) :
    (m.insert k v)[x]? = if x = k then some v else m[x]? := by
  rw [Std.ExtTreeMap.getElem?_insert]
  exact if_congr (Std.compare_eq_iff_eq.trans eq_comm) rfl rfl

theorem lookup_erase (m : QMap K V) (k x : K) :
    (m.erase k)[x]? = if x = k then none else m[x]? := by
  rw [Std.ExtTreeMap.getElem?_erase]
  exact if_congr (Std.compare_eq_iff_eq.trans eq_comm) rfl rfl

end

/-- the variants that reach message tags and metadata -/
inductive QVariant where
  | null
  | str (s : QString)
  | bytes (b : Bytes)
  deriving DecidableEq

def QVariant.toByteArray : QVariant → Bytes
  | .null => []
  | .str s => toUtf8 s
  | .bytes b => b

def QVariant.toString : QVariant → QString
  | .null => []
  | .str s => s
  | .bytes b => fromUtf8 b

/-! ## enumerations -/

inductive ConnectionSetupTasks where
  | CAP_EXCHANGE | NICK | USER
  deriving DecidableEq

instance : FlagEnum ConnectionSetupTasks where
  bit
    | .CAP_EXCHANGE => 0
    | .NICK => 1
    | .USER => 2
  bit_lt e := by cases e <;> decide
  bit_inj e e' h := by cases e <;> cases e' <;> first | rfl | exact absurd h (by decide)

inductive PROTOCOL_CAPABILITY where
  | MULTI_PREFIX | MESSAGE_TAGS | EXTENDED_JOIN | CHGHOST | ACCOUNT_TAG | ACCOUNT_NOTIFY
  | ECHO_MESSAGE | ZNC_SELF_MESSAGE | FISH | CHANNEL_RENAME | METADATA | FILEHOST
  | EXTENDED_ISUPPORT
  deriving DecidableEq

instance : FlagEnum PROTOCOL_CAPABILITY where
  bit
    | .MULTI_PREFIX => 0
    | .MESSAGE_TAGS => 1
    | .EXTENDED_JOIN => 2
    | .CHGHOST => 3
    | .ACCOUNT_TAG => 4
    | .ACCOUNT_NOTIFY => 5
    | .ECHO_MESSAGE => 6
    | .ZNC_SELF_MESSAGE => 7
    | .FISH => 8
    | .CHANNEL_RENAME => 9
    | .METADATA => 10
    | .FILEHOST => 11
    | .EXTENDED_ISUPPORT => 12
  bit_lt e := by cases e <;> decide
  bit_inj e e' h := by cases e <;> cases e' <;> first | rfl | exact absurd h (by decide)

inductive ChannelModes where
  | INVITE_ONLY | MODERATED | NO_OUTSIDE_MSGS | QUIET | SECRET | TOPIC_PROTECTED | BAN | KEY
  | LIMIT
  deriving DecidableEq

instance : FlagEnum ChannelModes where
  bit
    | .INVITE_ONLY => 0
    | .MODERATED => 1
    | .NO_OUTSIDE_MSGS => 2
    | .QUIET => 3
    | .SECRET => 4
    | .TOPIC_PROTECTED => 5
    | .BAN => 6
    | .KEY => 7
    | .LIMIT => 8
  bit_lt e := by cases e <;> decide
  bit_inj e e' h := by cases e <;> cases e' <;> first | rfl | exact absurd h (by decide)

inductive UserModes where
  | INVISIBLE | CLOAK | BLOCK_PM_FROM_UNREGISTERED | BEEP_BOOP_BOT | DEAF | REGISTERED
  | CALLER_ID | HIDE_CHANNELS | BLOCK_CTCP | SECURE | IRC_OPERATOR | LOCAL_OPERATOR | WALLOPS
  | SERVER_NOTICES | PROTECTED | SERVICE_BOT
  deriving DecidableEq

instance : FlagEnum UserModes where
  bit
    | .INVISIBLE => 0
    | .CLOAK => 1
    | .BLOCK_PM_FROM_UNREGISTERED => 2
    | .BEEP_BOOP_BOT => 3
    | .DEAF => 4
    | .REGISTERED => 5
    | .CALLER_ID => 6
    | .HIDE_CHANNELS => 7
    | .BLOCK_CTCP => 8
    | .SECURE => 9
    | .IRC_OPERATOR => 10
    | .LOCAL_OPERATOR => 11
    | .WALLOPS => 12
    | .SERVER_NOTICES => 13
    | .PROTECTED => 14
    | .SERVICE_BOT => 15
  bit_lt e := by cases e <;> decide
  bit_inj e e' h := by cases e <;> cases e' <;> first | rfl | exact absurd h (by decide)

/-- the rows of `initializeUserModesLookup`, in the key order of `userModesLookup` -/
def userModesTable : List (UserModes × UInt8) :=
  [(.INVISIBLE, 105), (.CLOAK, 120), (.BLOCK_PM_FROM_UNREGISTERED, 82), (.BEEP_BOOP_BOT, 98),
    (.DEAF, 100), (.REGISTERED, 114), (.CALLER_ID, 103), (.HIDE_CHANNELS, 112), (.BLOCK_CTCP, 99),
    (.SECURE, 90), (.IRC_OPERATOR, 111), (.LOCAL_OPERATOR, 79), (.WALLOPS, 119),
    (.SERVER_NOTICES, 115), (.PROTECTED, 113), (.SERVICE_BOT, 107)]

/-- the rows of `initializeChannelModesLookup`, in the key order of `channelModesLookup` -/
def channelModesTable : List (ChannelModes × UInt8) :=
  [(.INVITE_ONLY, 105), (.MODERATED, 109), (.NO_OUTSIDE_MSGS, 110), (.QUIET, 113), (.SECRET, 115),
    (.TOPIC_PROTECTED, 116), (.BAN, 98), (.KEY, 107), (.LIMIT, 108)]

/-- `userModesLookupLetter`, `channelModesLookupLetter` -/
def lookupLetter {E : Type} (table : List (E × UInt8)) (letter : UInt8) : Option E :=
  (table.find? fun row => row.2 == letter).map Prod.fst

example : userModesTable.map Prod.snd = ascii "ixRbdrgpcZoOwsqk" := by decide
example : channelModesTable.map Prod.snd = ascii "imnqstbkl" := by decide

inductive QIRCEvent where
  | AUTH_SASL_PLAIN | CHANNEL_MSG | PRIVATE_MSG | CHANNEL_JOIN | CHANNEL_PART | RAW_MSG
  | PEER_MAX_CONNECTIONS | NICK_CHANGE | CHANNEL_RENAME | TAG_MSG | VERIFY_MSG_TAGS
  deriving DecidableEq

instance : FlagEnum QIRCEvent where
  bit
    | .AUTH_SASL_PLAIN => 0
    | .CHANNEL_MSG => 1
    | .PRIVATE_MSG => 2
    | .CHANNEL_JOIN => 3
    | .CHANNEL_PART => 4
    | .RAW_MSG => 5
    | .PEER_MAX_CONNECTIONS => 6
    | .NICK_CHANGE => 7
    | .CHANNEL_RENAME => 8
    | .TAG_MSG => 9
    | .VERIFY_MSG_TAGS => 10
  bit_lt e := by cases e <;> decide
  bit_inj e e' h := by cases e <;> cases e' <;> first | rfl | exact absurd h (by decide)

/-! ## events -/

structure QEventBase where
  reason : Bytes := []
  /-- `_cancel` -/
  cancel : Bool := false

def QEventBase.cancelled (e : QEventBase) : Bool := e.cancel

structure QEventChannelRename extends QEventBase where
  old_name : Bytes
  new_name : Bytes
  message : Bytes
  account : Option AccId
  channel : ChanId

structure QEventNickChange extends QEventBase where
  old_nick : Bytes
  new_nick : Bytes
  from_server : Bool := false
  account : Option AccId

structure QEventRawMessage extends QEventBase where
  raw : Bytes
  ip : Bytes

structure QEventChannelJoin extends QEventBase where
  channel : Option ChanId
  account : Option AccId
  password : Bytes := []
  from_system : Bool := false

structure QEventChannelPart extends QEventBase where
  channel : ChanId
  account : Option AccId
  message : Bytes := []
  from_system : Bool := false

structure QEventMessage extends QEventBase where
  conn_id : Uuid
  tags : QMap QString QVariant
  nick : Bytes
  host : Bytes
  text : Bytes
  user : Bytes
  raw : Bytes
  account : Option AccId
  dest : Option AccId := none
  channel : Option ChanId := none
  from_system : Bool := false
  tag_msg : Bool := false

structure QEventMetadata extends QEventBase where
  account : Option AccId
  dest : Option AccId := none
  channel : Option ChanId := none
  subcmd : Bytes
  args : List Bytes
  metadata : QMap QString QVariant := ∅
  error_code : Bytes := []
  error_target : Bytes := []
  error_key : Bytes := []
  subscriptions : QMap QString (QSet AccId) := ∅

structure QEventAuthUser extends QEventBase where
  username : Bytes
  password : Bytes
  ip : Bytes
  from_system : Bool := false

end Chatripper
