import Mathlib
import Chatripper.Irc.Setup

/-!
# From a line to its handler

`parseIncoming` hands a line to the RAW_MSG handlers, takes a tag block off it, splits it and runs
the handler of its command.  Most commands need a ready connection.
-/

namespace Chatripper
open ByteStr Utf8 Outcome

namespace client_connection
open World

/-! ## splitting -/

/-- command, non-empty parameters and the text after the first ` :` unless it is empty -/
def split_irc (line : Bytes) : List Bytes :=
  match indexOf SP line with
  | none => [line]
  | some sp =>
    let cmd := line.take sp
    let rest := line.drop (sp + 1)
    let (rest, trailing) := match indexOfSub [SP, 58] rest with
      | none => (rest, [])
      | some colon => (rest.take colon, rest.drop (colon + 2))
    cmd :: (split SP rest).filter (· != []) ++ if trailing = [] then [] else [trailing]

/-! ## commands -/

inductive Command where
  | PASS | NICK | USER | PING | PONG | JOIN | PART | PRIVMSG | TAGMSG | QUIT | NAMES | CHATHISTORY
  | RENAME | METADATA | TOPIC | LUSERS | MOTD | WHO | AUTHENTICATE | CAP | MODE
  deriving DecidableEq

def commandTable : List (Bytes × Command) :=
  [(ascii "PASS", .PASS), (ascii "NICK", .NICK), (ascii "USER", .USER), (ascii "PING", .PING),
    (ascii "PONG", .PONG), (ascii "JOIN", .JOIN), (ascii "PART", .PART),
    (ascii "PRIVMSG", .PRIVMSG), (ascii "TAGMSG", .TAGMSG), (ascii "QUIT", .QUIT),
    (ascii "NAMES", .NAMES), (ascii "CHATHISTORY", .CHATHISTORY), (ascii "RENAME", .RENAME),
    (ascii "METADATA", .METADATA), (ascii "TOPIC", .TOPIC), (ascii "LUSERS", .LUSERS),
    (ascii "MOTD", .MOTD), (ascii "WHO", .WHO), (ascii "AUTHENTICATE", .AUTHENTICATE),
    (ascii "CAP", .CAP), (ascii "MODE", .MODE)]

def commandOf (cmd : Bytes) : Option Command :=
  (commandTable.find? fun row => row.1 == cmd).map Prod.snd

/-- the commands that `parseIncoming` looks at before the connection is ready -/
def Command.early : Command → Bool
  | .PASS | .NICK | .USER | .PING | .PONG | .QUIT | .MOTD | .AUTHENTICATE | .CAP => true
  | _ => false

/-- JOIN looks at its first parameter before it knows that there is one -/
def dispatchJOIN (env : Env) (c : ConnId) (parts : List Bytes) (w : World) : Except Fault World := do
  let p ← listAt parts 0
  if p = ascii ":" ∧ parts.length = 1 then .ok w else handleJOIN env c parts w

def handle (env : Env) (c : ConnId) (tags : QMap QString QVariant) (cmd : Command)
    (parts : List Bytes) (w : World) : Except Fault World :=
  match cmd with
  | .PASS => handlePASS env c parts w
  | .NICK => handleNICK env c parts w
  | .USER => handleUSER env c parts w
  | .PING => handlePING env c parts w
  | .PONG => .ok w
  | .JOIN => dispatchJOIN env c parts w
  | .PART => handlePART env c parts w
  | .PRIVMSG => handlePRIVMSG env c tags parts w
  | .TAGMSG => handleTAGMSG env c tags parts w
  | .QUIT => handleQUIT c parts w
  | .NAMES => .ok w
  | .CHATHISTORY => handleCHATHISTORY env c parts w
  | .RENAME => handleRENAME c parts w
  | .METADATA => handleMETADATA env c parts w
  | .TOPIC => .ok w
  | .LUSERS => .ok (handleLUSERS env c w)
  | .MOTD => .ok (handleMOTD env c w)
  | .WHO => handleWHO env c parts w
  | .AUTHENTICATE => handleAUTHENTICATE env c parts w
  | .CAP => handleCAP env c parts w
  | .MODE => handleMODE env c parts w

/-! ## one line -/

/-- the RAW_MSG handlers: nothing when the line was cancelled -/
def rawHook (c : ConnId) (line : Bytes) (w : World) : Option Bytes × World :=
  if w.snakepit.hasEventHandler .RAW_MSG then
    match w.event .RAW_MSG ({ raw := line, ip := (w.conn c).ip } : QEventRawMessage) with
    | (some raw, w) => (if raw.cancelled then none else some raw.raw, w)
    | (none, w) => (some line, w)
  else (some line, w)

/-- does the connection read tags on this line -/
def readsTags (c : ConnId) (line : Bytes) (w : World) : Bool :=
  (w.conn c).m_account.isSome && line.head? == some 64 &&
    (w.conn c).capabilities.has .MESSAGE_TAGS

/-- the tags, and the trimmed rest of the line -/
def takeTags (c : ConnId) (line : Bytes) (w : World) : QMap QString QVariant × Bytes :=
  if readsTags c line w then
    let (tags, tagsEnd) := parseMessageTags line
    (tags, trimmed (match tagsEnd with
      | none => line
      | some n => line.drop (n + 1)))
  else (∅, trimmed line)

/-- the answer of the VERIFY_MSG_TAGS handlers has another type than the one it is tested for -/
def verifyTags (c : ConnId) (line : Bytes) (w : World) : World :=
  if readsTags c line w && w.snakepit.hasEventHandler .VERIFY_MSG_TAGS then
    { w with snakepit := (w.snakepit.target .VERIFY_MSG_TAGS).2 }
  else w

/-- the command of a split line, with its parameters, when the connection may run it -/
def commandLine (c : ConnId) (line : Bytes) (w : World) : Option (Command × List Bytes) :=
  match split_irc line with
  | [] => none
  | cmd :: parts =>
    (commandOf cmd).bind fun k =>
      if k.early || (w.conn c).is_ready then some (k, parts) else none

def runLine (env : Env) (c : ConnId) (line : Bytes) (w : World) : Except Fault World :=
  let (tags, rest) := takeTags c line w
  let w := verifyTags c line w
  match commandLine c rest w with
  | none => .ok w
  | some (cmd, parts) => handle env c tags cmd parts w

def parseIncoming (env : Env) (c : ConnId) (line : Bytes) (w : World) : Except Fault World :=
  match rawHook c line w with
  | (none, w) => .ok w
  | (some line, w) => runLine env c line w

/-- the command that a line runs -/
def lineCommand (c : ConnId) (line : Bytes) (w : World) : Option (Command × List Bytes) :=
  match rawHook c line w with
  | (none, _) => none
  | (some line, w) => commandLine c (takeTags c line w).2 w

/-! ## the dispatch has no effect of its own -/

theorem reg_rawHook (c : ConnId) (line : Bytes) (w : World) :
    (rawHook c line w).2.reg = w.reg := by
  unfold rawHook
  split
  · have h := w.reg_event .RAW_MSG ({ raw := line, ip := (w.conn c).ip } : QEventRawMessage)
    split <;> next he => rw [he] at h; exact h
  · rfl

theorem reg_verifyTags (c : ConnId) (line : Bytes) (w : World) :
    (verifyTags c line w).reg = w.reg := by
  unfold verifyTags
  split
  · show Reg.mk _ _ _ _ _ _ _ _ _ (w.snakepit.target .VERIFY_MSG_TAGS).2.m_activeEvents _ = w.reg
    rw [w.snakepit.target_activeEvents]
    rfl
  · rfl

example : split_irc (ascii "PRIVMSG #a  b :c :d ") =
    [ascii "PRIVMSG", ascii "#a", ascii "b", ascii "c :d "] := by decide

end client_connection

end Chatripper
