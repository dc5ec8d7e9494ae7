import Mathlib
import Chatripper.Core.World

/-!
# `irc/utils`: nick names and message tags

A nick is matched as text.  The tag block of a message is written by `buildMessageTags` and read
by `parseMessageTags`; a value is escaped as octets and unescaped as text.
-/

namespace Chatripper
open ByteStr Utf8

/-! ## nicks -/

def nickSpecial : QString := ['[', ']', '\\', Char.ofNat 96, '_', '^', '{', '|', '}']

def isNickFirst (env : Env) (c : Char) : Bool := env.isLetter c || nickSpecial.contains c

def isNickRest (env : Env) (c : Char) : Bool :=
  env.isLetter c || env.isNumber c || nickSpecial.contains c || c == '-'

/-- the pattern ends in `$`, which also matches before a final newline -/
def isValidNick (env : Env) (nick : Bytes) : Bool :=
  let s := fromUtf8 nick
  match if s.getLast? = some '\n' then s.dropLast else s with
  | [] => false
  | c :: rest => isNickFirst env c && decide (rest.length ≤ 8) && rest.all (isNickRest env)

theorem isValidNick_ne_nil {env : Env} {nick : Bytes} (h : isValidNick env nick = true) :
    nick ≠ [] := by
  rintro rfl
  cases h

/-- a character that is neither a letter nor one of the others does not start a nick -/
theorem isValidNick_head {env : Env} {c : Char} (hc : c.toNat < 0x80) (hfirst : isNickFirst env c = false)
    (rest : Bytes) : isValidNick env (UInt8.ofNat c.toNat :: rest) = false := by
  have hb : (UInt8.ofNat c.toNat).toNat = c.toNat := toNat_byte (by omega)
  have hdecode : decode (UInt8.ofNat c.toNat :: rest) = c :: decode rest := by
    have h := decode_encodeChar c rest
    rw [encodeChar_ascii hc] at h
    exact h
  have htext : fromUtf8 (UInt8.ofNat c.toNat :: rest) = c :: decode rest := by
    unfold fromUtf8
    split
    · next he =>
      have h := congrArg UInt8.toNat (List.cons.inj he).1
      rw [hb] at h
      change c.toNat = 239 at h
      omega
    · exact hdecode
  unfold isValidNick
  rw [htext]
  dsimp only
  cases decode rest with
  | nil =>
    split
    · next h =>
      split at h
      · rfl
      · rfl
    · next d t h =>
      split at h
      · cases h
      · cases h
        rw [hfirst]
        rfl
  | cons d t =>
    have hhead : ∃ t', (if (c :: d :: t).getLast? = some '\n' then (c :: d :: t).dropLast
        else c :: d :: t) = c :: t' := by
      split
      · exact ⟨(d :: t).dropLast, rfl⟩
      · exact ⟨d :: t, rfl⟩
    obtain ⟨t', ht'⟩ := hhead
    rw [ht']
    dsimp only
    rw [hfirst]
    rfl

/-! ## writing tags -/

def BACKSLASH : UInt8 := 92
def SEMI : UInt8 := 59
def EQUALS : UInt8 := 61

/-- what is written for a byte; a backslash only when it is not the last byte -/
def escapeTagByte (c : UInt8) (last : Bool) : Bytes :=
  if c = SEMI then [BACKSLASH, 58]
  else if c = SP then [BACKSLASH, 115]
  else if c = BACKSLASH then if last then [] else [BACKSLASH, BACKSLASH]
  else if c = CR then [BACKSLASH, 114]
  else if c = LF then [BACKSLASH, 110]
  else [c]

def escapeTagValue : Bytes → Bytes
  | [] => []
  | c :: rest => escapeTagByte c (rest == []) ++ escapeTagValue rest

/-- an entry of `QEventMessage::tags` as it is written -/
def buildTag (key : QString) (v : QVariant) : Bytes :=
  let value := v.toByteArray
  if value = [] then toUtf8 key else toUtf8 key ++ EQUALS :: escapeTagValue value

/-- the account-tag, if applicable -/
def accountEntry (src : Option Account) (capabilities : Flags PROTOCOL_CAPABILITY) : List Bytes :=
  match src with
  | some a =>
    if capabilities.has .ACCOUNT_TAG ∧ a.m_name ≠ [] then
      [ascii "account=" ++ escapeTagValue a.m_name]
    else []
  | none => []

/-- the entries of the block, `account` first -/
def tagEntries (message : QEventMessage) (src : Option Account)
    (capabilities : Flags PROTOCOL_CAPABILITY) : List Bytes :=
  accountEntry src capabilities ++ message.tags.toList.map fun kv => buildTag kv.1 kv.2

/-- the block before the length limit -/
def tagBlock (entries : List Bytes) : Bytes := 64 :: (join [SEMI] entries ++ [SP])

def max_tag_data : Nat := 4094

def buildMessageTags (message : QEventMessage) (src : Option Account)
    (capabilities : Flags PROTOCOL_CAPABILITY) : Bytes :=
  if capabilities.has .MESSAGE_TAGS then
    let entries := tagEntries message src capabilities
    if entries = [] then []
    -- two more for the `@` and the space
    else (tagBlock entries).take (max_tag_data + 2)
  else []

/-! ## reading tags -/

def unescapeChar : Char → Char
  | ':' => ';'
  | 's' => ' '
  | 'r' => '\r'
  | 'n' => '\n'
  | c => c

def unescapeTagValue : QString → QString
  | [] => []
  | [c] => if c = '\\' then [] else [c]
  | c :: next :: rest =>
    if c = '\\' then unescapeChar next :: unescapeTagValue rest
    else c :: unescapeTagValue (next :: rest)

/-- key and value of an entry; an empty value is a null variant -/
def parseTag (rawTag : Bytes) : QString × QVariant :=
  let (key, value) := match indexOf EQUALS rawTag with
    | none => (fromUtf8 rawTag, [])
    | some eqIdx => (fromUtf8 (rawTag.take eqIdx), fromUtf8 (rawTag.drop (eqIdx + 1)))
  let unescaped := unescapeTagValue value
  (key, if unescaped = [] then .null else .str unescaped)

def insertTag (tags : QMap QString QVariant) (rawTag : Bytes) : QMap QString QVariant :=
  if rawTag = [] then tags else tags.insert (parseTag rawTag).1 (parseTag rawTag).2

/-- the tags, and `tagsEndPos` unless it is `-1` -/
def parseMessageTags (line : Bytes) : QMap QString QVariant × Option Nat :=
  if line.head? = some 64 then
    match indexOf SP line with
    | none => (∅, none)
    | some spaceIdx =>
      let tagData := (line.drop 1).take (spaceIdx - 1)
      ((split SEMI tagData).foldl insertTag ∅, some spaceIdx)
  else (∅, none)

example : escapeTagValue (ascii "a;b c\\") = ascii "a\\:b\\sc" := by decide

end Chatripper
