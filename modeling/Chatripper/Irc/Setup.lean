import Mathlib
import Chatripper.Irc.Commands

/-!
# Connection setup: CAP, PASS, NICK, USER, AUTHENTICATE

A new connection has three setup tasks.  CAP END, NICK and USER each clear one and try to finish
the setup; `try_finalize_setup` goes on when none is left.  AUTHENTICATE gives the connection an
account at any time.
-/

namespace Chatripper
open ByteStr Utf8 Outcome

namespace client_connection
open World

/-! ## finishing the setup -/

def IRC_MAX_LEN : Nat := 480

def isupportToken (it : Bytes × Bytes) : Bytes :=
  if it.2 = [] then it.1 else it.1 ++ ascii "=" ++ it.2

/-- a token is added to the current 005 line, which is sent first when it would get too long -/
def isupportStep (env : Env) (c : ConnId) (base : Bytes) (s : Bytes × World) (it : Bytes × Bytes) :
    Bytes × World :=
  let token := isupportToken it
  let s :=
    if s.1.length + token.length + 1 > IRC_MAX_LEN then
      (base, send_raw env c (s.1 ++ ascii ":are supported by this server") s.2)
    else s
  (if s.1 = base then s.1 ++ token else s.1 ++ ascii " " ++ token, s.2)

def isupportLines (env : Env) (c : ConnId) (account_nick : Bytes) (w : World) : World :=
  let base := ascii "005 " ++ account_nick ++ ascii " "
  let s := env.server.isupport.foldl (isupportStep env c base) (base, w)
  if s.1 = base then s.2
  else send_raw env c (s.1 ++ ascii " :are supported by this server") s.2

/-- the numerics that greet a client -/
def welcomeLines (env : Env) (c : ConnId) (account_nick : Bytes) (w : World) : World :=
  let w := (reply_num env c 1 (ascii "Hi, welcome to IRC") w).log (.welcome c)
  let w := reply_num env c 2
    (ascii "Your host is " ++ env.serverName ++ ascii ", running version chatripper-0.1") w
  let w := reply_num env c 3
    (ascii "This server was created Dec 21 1989 at 13:37:00 (lie)") w
  let w := reply_num env c 4 (env.serverName ++ ascii " wut-7.2.2+bla.7.3 what is this.") w
  handleMOTD env c (handleLUSERS env c (isupportLines env c account_nick w))

/-- the account of the connection, made now when it has none -/
def obtainAccount (c : ConnId) (w : World) : AccId × World :=
  match (w.conn c).m_account with
  | some a => (a, w)
  | none =>
    let (a, w) := Account.create (w.conn c).m_nick w
    (a, w.updConn c fun k => { k with m_account := some a })

/-- the account's nick takes precedence over the one given on the connection -/
def syncNick (c : ConnId) (account_nick : Bytes) (w : World) : World :=
  let k := w.conn c
  if account_nick = k.m_nick then w
  else
    let w := w.updConn c fun k => { k with m_nick := account_nick }
    w.emit c (ascii ":" ++ k.m_nick ++ ascii "!" ++ k.user ++ ascii "@" ++ k.m_host ++
      ascii " NICK :" ++ account_nick ++ crlf)

/-- connection and account are tied together and the nick is entered -/
def enrol (c : ConnId) (w : World) : AccId × World :=
  let (a, w) := obtainAccount c w
  let w := Account.add_connection a c (syncNick c (w.accNick a) w)
  (a, Ctx.irc_nicks_insert_cache (w.nick c) a w)

def rejoin (env : Env) (a : AccId) (w : World) : Except Fault World :=
  (w.acc a).channels.values.foldlM (fun w channel => do
    let ch ← deref .nullChannel channel
    Channel.join env ch { from_system := true, channel := channel, account := some a } w) w

/-- MODE +r on the own nick of a connection that has logged in -/
def markRegistered (env : Env) (c : ConnId) (_nick : Bytes) (w : World) : Except Fault World :=
  if (w.conn c).logged_in then handleMODE env c [_nick, ascii "+r"] w else .ok w

def greet (env : Env) (c : ConnId) (a : AccId) (w : World) : Except Fault World := do
  let w ← markRegistered env c (w.nick c) (welcomeLines env c (w.accNick a) w)
  rejoin env a w

def setReady (c : ConnId) (w : World) : World := w.updConn c fun k => { k with is_ready := true }

/-- the answer to a setup that may not be finished: a wrong server password or a nick in use -/
def setupRefused (env : Env) (c : ConnId) (w : World) : Option (World → World) :=
  let k := w.conn c
  let server_password := env.server.m_password
  if server_password ≠ [] ∧ (k.m_passGiven = [] ∨ k.m_passGiven ≠ server_password) then
    some (reply_num env c 464 (ascii "Password incorrect"))
  else if k.m_account = none ∧ Ctx.irc_nick_get w (toLower k.m_nick) ≠ none then
    some (reply_num env c 433 (k.m_nick ++ ascii " :Nickname is already in use"))
  else none

def try_finalize_setup (env : Env) (c : ConnId) (w : World) : Except Fault World :=
  let k := w.conn c
  if k.is_ready || !k.setup_tasks.empty then .ok w
  else
    let w := w.log (.finalize c)
    match setupRefused env c w with
    | some reply => .ok (forceDisconnect c (reply w))
    | none => do
      let (a, w) := enrol c w
      let w ← greet env c a w
      .ok (setReady c w)

def clearTask (c : ConnId) (task : ConnectionSetupTasks) (w : World) : World :=
  w.updConn c fun k => { k with setup_tasks := k.setup_tasks.clear task }

/-! ## CAP -/

/-- `c.section('=', 0, 0)` -/
def capName (cap : QString) : QString := cap.takeWhile (· != '=')

def joinSpace (l : List QString) : Bytes := toUtf8 ([' '].intercalate l)

/-- the constant of an acknowledged capability -/
def capabilityOf (cap : QString) : Option PROTOCOL_CAPABILITY :=
  if cap = "multi-prefix".toList then some .MULTI_PREFIX
  else if cap = "extended-join".toList then some .EXTENDED_JOIN
  else if cap = "chghost".toList then some .CHGHOST
  else if cap = "echo-message".toList then some .ECHO_MESSAGE
  else if cap = "znc.in/self-message".toList then some .ZNC_SELF_MESSAGE
  else if cap = "message-tags".toList then some .MESSAGE_TAGS
  else if cap = "draft/metadata".toList ∨ cap = "draft/metadata-2".toList then some .METADATA
  else if cap = "soju.im/FILEHOST".toList then some .FILEHOST
  else if cap = "extended-isupport".toList then some .EXTENDED_ISUPPORT
  else none

def capLS (env : Env) (c : ConnId) (version : Option Int) (w : World) : World :=
  let caps := env.server.capabilities
  match version with
  | some ver =>
    if 302 ≤ ver then
      send_raw env c (ascii "CAP * LS :" ++ joinSpace caps)
        { w with client_cap_version := max w.client_cap_version ver }
    else send_raw env c (ascii "CAP * LS :" ++ joinSpace (caps.map capName)) w
  | none => send_raw env c (ascii "CAP * LS :" ++ joinSpace (caps.map capName)) w

/-- the words of a request -/
def requestedCaps (line : Bytes) : List QString :=
  let reqLine := fromUtf8 line
  ((if reqLine.head? = some ':' then reqLine.drop 1 else reqLine).splitOn ' ').filter (· != [])

def availableCap (env : Env) (r : QString) : Bool :=
  let cap_name := if r.head? = some '-' then r.drop 1 else r
  env.server.capabilities.any fun cap => capName cap == cap_name

def setCap (f : Flags PROTOCOL_CAPABILITY) (cap : QString) : Flags PROTOCOL_CAPABILITY :=
  match capabilityOf cap with
  | some e => f.set e
  | none => f

def capREQ (env : Env) (c : ConnId) (line : Bytes) (w : World) : World :=
  let requested := requestedCaps line
  let ack := requested.filter (availableCap env)
  let nak := requested.filter fun r => !availableCap env r
  if ack ≠ [] ∧ nak = [] then
    let w := send_raw env c (ascii "CAP * ACK :" ++ joinSpace ack) w
    w.updConn c fun k => { k with capabilities := ack.foldl setCap k.capabilities }
  else send_raw env c (ascii "CAP * NAK :" ++ joinSpace requested) w

def capLIST (env : Env) (c : ConnId) (w : World) : World :=
  let enabled := env.server.capabilities
  send_raw env c (ascii "CAP * LIST :" ++
    joinSpace (if 302 ≤ w.client_cap_version then enabled else enabled.map capName)) w

/-- the first argument is read without a check -/
def handleCAP (env : Env) (c : ConnId) (args : List Bytes) (w : World) : Except Fault World :=
  if (w.conn c).setup_tasks.has .CAP_EXCHANGE then do
    let sub_cmd ← listAt args 0
    if sub_cmd = ascii "LS" then
      if args.length ≥ 2 then do
        let version ← listAt args 1
        .ok (capLS env c (toInt? version) w)
      else .ok (capLS env c none w)
    else if sub_cmd = ascii "REQ" then
      if args.length < 2 then .ok (send_raw env c (ascii "CAP * NAK :") w)
      else do
        let line ← listAt args 1
        .ok (capREQ env c line w)
    else if sub_cmd = ascii "LIST" then .ok (capLIST env c w)
    else if sub_cmd = ascii "END" then try_finalize_setup env c (clearTask c .CAP_EXCHANGE w)
    else .ok w
  else .ok w

/-! ## PASS, NICK, USER -/

def handlePASS (env : Env) (c : ConnId) (args : List Bytes) (w : World) : Except Fault World :=
  if args = [] then .ok (reply_num env c 461 (ascii "PASS :Not enough parameters") w)
  else do
    let pass ← listAt args 0
    .ok (w.updConn c fun k => { k with m_passGiven := pass })

/-- `client_connection::setNick`; the nick may be set once -/
def setNick (c : ConnId) (new_nick : Bytes) (w : World) : Except Fault World :=
  if (w.conn c).m_nick ≠ [] then .error .uncaught
  else .ok (w.updConn c fun k => { k with m_nick := new_nick })

/-- NICK after the setup tasks are done: the account changes its nick -/
def changeOwnNick (env : Env) (c : ConnId) (new_nick : Bytes) (w : World) : Except Fault World :=
  let account_nick := w.nick c
  if new_nick = account_nick then .ok (reply_num env c 431 (ascii "Your nick is already that") w)
  else do
    let m_account ← deref .nullAccount (w.conn c).m_account
    let (changed, w) ← Account.setNick m_account
      { new_nick := new_nick, old_nick := account_nick, account := some m_account } w
    .ok (if changed then w else reply_num env c 433 new_nick w)

def handleNICK (env : Env) (c : ConnId) (args : List Bytes) (w : World) : Except Fault World :=
  if args = [] then .ok (reply_num env c 431 (ascii "No nickname given") w)
  else do
    let new_nick ← listAt args 0
    if !isValidNick env new_nick then
      .ok (reply_num env c 432 (new_nick ++ ascii " :Erroneous nickname") w)
    else if (w.conn c).m_account ≠ none ∧ Ctx.irc_nick_get w (toLower new_nick) ≠ none then
      .ok (reply_num env c 433 new_nick w)
    else if (w.conn c).setup_tasks.has .NICK then do
      let w ← setNick c new_nick w
      try_finalize_setup env c (clearTask c .NICK w)
    else if !(w.conn c).setup_tasks.empty then
      .ok (reply_num env c 432 (ascii "Finish connect bootstrap first") w)
    else changeOwnNick env c new_nick w

def handleUSER (env : Env) (c : ConnId) (args : List Bytes) (w : World) : Except Fault World :=
  if !(w.conn c).setup_tasks.has .USER then
    .ok (reply_num env c 461 (ascii "USER :User already specified") w)
  else if args.length < 4 then
    .ok (reply_num env c 461 (ascii "USER :Not enough parameters") w)
  else do
    let user_name ← listAt args 0
    let realname ← listAt args 3
    let w := w.updConn c fun k => { k with user := user_name, realname := realname }
    if user_name.length > 16 then
      .ok (forceDisconnect c (reply_num env c 461
        (ascii "USER :Your user is too long (more than 16 characters)") w))
    else
      let w := w.updConn c fun k =>
        { k with user_already_exists :=
            k.user_already_exists || Ctx.account_username_exists w user_name }
      try_finalize_setup env c (clearTask c .USER w)

/-! ## AUTHENTICATE -/

def base64Digit (ch : UInt8) : Option Nat :=
  if 65 ≤ ch ∧ ch ≤ 90 then some (ch.toNat - 65)
  else if 97 ≤ ch ∧ ch ≤ 122 then some (ch.toNat - 97 + 26)
  else if 48 ≤ ch ∧ ch ≤ 57 then some (ch.toNat - 48 + 52)
  else if ch = 43 then some 62
  else if ch = 47 then some 63
  else none

/-- `QByteArray::fromBase64`; other characters are skipped -/
def fromBase64 (input : Bytes) : Bytes :=
  (input.foldl (fun (s : Nat × Nat × Bytes) ch =>
    let (buf, nbits, out) := s
    match base64Digit ch with
    | none => s
    | some d =>
      let buf := buf * 64 + d
      let nbits := nbits + 6
      if 8 ≤ nbits then
        (buf % 2 ^ (nbits - 8), nbits - 8, out ++ [UInt8.ofNat (buf / 2 ^ (nbits - 8))])
      else (buf, nbits, out)) (0, 0, [])).2.2

/-- the connection takes the account it has proved to own -/
def login (env : Env) (c : ConnId) (account : AccId) (username : Bytes) (w : World) : World :=
  let w := match (w.conn c).m_account with
    | some m_account => Account.merge account m_account w
    | none => w.updConn c fun k => { k with m_account := some account }
  let w := reply_num env c 900 (ascii "You are now logged in as " ++ username) w
  let w := reply_num env c 903 (ascii "SASL authentication successful") w
  w.updConn c fun k => { k with logged_in := true }

/-- the credentials of a SASL PLAIN response -/
def saslPlain (arg : Bytes) : List Bytes := split 0 (fromBase64 arg)

def authenticate (env : Env) (c : ConnId) (username password : Bytes) (w : World) : World :=
  match Account.get_by_name w username with
  | none => forceDisconnect c (reply_num env c 900 (ascii "SASL authentication failed") w)
  | some account =>
    let (auth, w) := Account.verifyPassword env account
      { username := username, password := password, ip := (w.conn c).ip } w
    if auth.cancelled then
      let reply := ascii "SASL authentication failed" ++
        if auth.reason = [] then [] else ascii ": " ++ auth.reason
      forceDisconnect c (reply_num env c 900 reply w)
    else login env c account username w

def handleAUTHENTICATE (env : Env) (c : ConnId) (args : List Bytes) (w : World) :
    Except Fault World :=
  if args = [] then .ok (forceDisconnect c (send_raw env c (ascii "uwot?") w))
  else do
    let arg ← listAt args 0
    if arg = ascii "PLAIN" then .ok (send_raw env c (ascii "AUTHENTICATE +") w)
    else
      let plain_spl := saslPlain arg
      if plain_spl.length ≠ 3 then
        .ok (reply_num env c 900 (ascii "SASL authentication failed") w)
      else do
        let username ← listAt plain_spl 1
        let password ← listAt plain_spl 2
        .ok (authenticate env c username password w)

example : fromBase64 (ascii "AGJvYgBw") = 0 :: ascii "bob" ++ 0 :: ascii "p" := by decide

end client_connection

end Chatripper
