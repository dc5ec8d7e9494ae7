import Mathlib
import Chatripper.Auth
import Chatripper.Web.SessionStore

/-!
# The two logins

A client logs in with a SASL PLAIN response, or over HTTP with a JSON object.  Both look the account
up by its name and ask bcrypt.  `verifyPassword` refuses a password or a stored hash that is empty
before it asks; the route does not.

* `fromBase64_toBase64`     a response carries what the client encoded;
* `login_created_iff`       when the route makes a session;
* `same_credentials_iff`    when the two agree.
-/

namespace Chatripper
open ByteStr Utf8 World

/-! ## base64, as a client writes it -/

def base64Char (d : Nat) : UInt8 :=
  if d < 26 then UInt8.ofNat (65 + d)
  else if d < 52 then UInt8.ofNat (71 + d)
  else if d < 62 then UInt8.ofNat (d - 4)
  else if d = 62 then 43
  else 47

def toBase64 : Bytes → Bytes
  | [] => []
  | [x] => [base64Char (x.toNat / 4), base64Char (x.toNat % 4 * 16), 61, 61]
  | [x, y] =>
    [base64Char (x.toNat / 4), base64Char (x.toNat % 4 * 16 + y.toNat / 16),
      base64Char (y.toNat % 16 * 4), 61]
  | x :: y :: z :: rest =>
    base64Char (x.toNat / 4) :: base64Char (x.toNat % 4 * 16 + y.toNat / 16) ::
      base64Char (y.toNat % 16 * 4 + z.toNat / 64) :: base64Char (z.toNat % 64) :: toBase64 rest

namespace client_connection

/-- one character of base64: the bits at hand, how many they are, and the octets so far -/
def base64Step (s : Nat × Nat × Bytes) (ch : UInt8) : Nat × Nat × Bytes :=
  match base64Digit ch with
  | none => s
  | some d =>
    if 8 ≤ s.2.1 + 6 then
      ((s.1 * 64 + d) % 2 ^ (s.2.1 + 6 - 8), s.2.1 + 6 - 8,
        s.2.2 ++ [UInt8.ofNat ((s.1 * 64 + d) / 2 ^ (s.2.1 + 6 - 8))])
    else (s.1 * 64 + d, s.2.1 + 6, s.2.2)

theorem fromBase64_eq (input : Bytes) :
    fromBase64 input = (input.foldl base64Step (0, 0, [])).2.2 := rfl

theorem base64Digit_char {d : Nat} (h : d < 64) : base64Digit (base64Char d) = some d := by
  have hall : ∀ d < 64, base64Digit (base64Char d) = some d := by decide
  exact hall d h

theorem base64Step_char {d : Nat} (h : d < 64) (buf nbits : Nat) (out : Bytes) :
    base64Step (buf, nbits, out) (base64Char d) =
      if 8 ≤ nbits + 6 then ((buf * 64 + d) % 2 ^ (nbits + 6 - 8), nbits + 6 - 8,
        out ++ [UInt8.ofNat ((buf * 64 + d) / 2 ^ (nbits + 6 - 8))])
      else (buf * 64 + d, nbits + 6, out) := by
  unfold base64Step
  rw [base64Digit_char h]

/-- a digit that completes an octet -/
theorem base64Step_octet {d buf nbits r : Nat} (h : d < 64) (out : Bytes) (x : UInt8)
    (hbits : nbits = 2 ∨ nbits = 4 ∨ nbits = 6)
    (hx : buf * 64 + d = x.toNat * 2 ^ (nbits - 2) + r) (hrest : r < 2 ^ (nbits - 2)) :
    base64Step (buf, nbits, out) (base64Char d) = (r, nbits - 2, out ++ [x]) := by
  have hpos : 0 < 2 ^ (nbits - 2) := Nat.two_pow_pos _
  have hsub : nbits + 6 - 8 = nbits - 2 := by omega
  rw [base64Step_char h, if_pos (by omega), hsub, hx, Nat.mul_comm, Nat.mul_add_mod,
    Nat.mod_eq_of_lt hrest, Nat.mul_add_div hpos, Nat.div_eq_of_lt hrest, Nat.add_zero,
    UInt8.ofNat_toNat]

theorem base64Step_first {d : Nat} (h : d < 64) (out : Bytes) :
    base64Step (0, 0, out) (base64Char d) = (d, 6, out) := by
  rw [base64Step_char h, if_neg (by decide), Nat.zero_mul, Nat.zero_add]

theorem base64Step_pad (s : Nat × Nat × Bytes) : base64Step s 61 = s := rfl

theorem foldl_toBase64 (xs out : Bytes) :
    ((toBase64 xs).foldl base64Step (0, 0, out)).2.2 = out ++ xs := by
  induction xs using toBase64.induct generalizing out with
  | case1 => exact (List.append_nil out).symm
  | case2 x =>
    have hx := x.toNat_lt
    simp only [toBase64, List.foldl_cons, List.foldl_nil, base64Step_pad]
    rw [base64Step_first (by omega),
      base64Step_octet (by omega) out x (.inr (.inr rfl)) (r := 0) (by omega) (by decide)]
  | case3 x y =>
    have hx := x.toNat_lt
    have hy := y.toNat_lt
    simp only [toBase64, List.foldl_cons, List.foldl_nil, base64Step_pad]
    rw [base64Step_first (by omega),
      base64Step_octet (by omega) out x (.inr (.inr rfl)) (r := y.toNat / 16) (by omega)
        (by omega),
      base64Step_octet (by omega) (out ++ [x]) y (.inr (.inl rfl)) (r := 0) (by omega) (by decide),
      List.append_assoc]
    rfl
  | case4 x y z rest ih =>
    have hx := x.toNat_lt
    have hy := y.toNat_lt
    have hz := z.toNat_lt
    simp only [toBase64, List.foldl_cons]
    rw [base64Step_first (by omega),
      base64Step_octet (by omega) out x (.inr (.inr rfl)) (r := y.toNat / 16) (by omega)
        (by omega),
      base64Step_octet (by omega) (out ++ [x]) y (.inr (.inl rfl)) (r := z.toNat / 64) (by omega)
        (by omega),
      base64Step_octet (by omega) (out ++ [x] ++ [y]) z (.inl rfl) (r := 0) (by omega) (by decide),
      ih]
    simp only [List.append_assoc, List.cons_append, List.nil_append]

/-- **A response carries what the client encoded.** -/
theorem fromBase64_toBase64 (xs : Bytes) : fromBase64 (toBase64 xs) = xs := by
  rw [fromBase64_eq, foldl_toBase64, List.nil_append]

/-- the credentials of a response, if nothing in it has a NUL octet -/
theorem saslPlain_parts {arg authz username password : Bytes}
    (harg : fromBase64 arg = authz ++ 0 :: (username ++ 0 :: password)) (hz : 0 ∉ authz)
    (hu : 0 ∉ username) (hp : 0 ∉ password) : saslPlain arg = [authz, username, password] := by
  unfold saslPlain split
  rw [harg, List.splitOn_append_cons_self_of_not_mem hz,
    List.splitOn_append_cons_self_of_not_mem hu, List.splitOn_eq_singleton hp]

end client_connection

namespace Web

/-! ## the route -/

/-- a JSON value, by what `toString` makes of it -/
inductive QJsonValue where
  | text (s : QString)
  | other

def QJsonValue.toString : QJsonValue → QString
  | .text s => s
  | .other => []

abbrev QJsonObject := QHash QString QJsonValue

/-- the text of a member, empty when there is none -/
def QJsonObject.textOf (obj : QJsonObject) (name : String) : QString :=
  (obj[name.toList]?.map QJsonValue.toString).getD []

inductive StatusCode where
  | Ok | Created | BadRequest | Unauthorized | NotFound | PayloadTooLarge | UnsupportedMediaType
  | TooManyRequests | InternalServerError
  deriving DecidableEq

structure QHttpServerResponse where
  data : Bytes
  status : StatusCode
  headers : List (QString × QString) := []

structure WebServer where
  limiter : RateLimiter
  webSessions : WebSessionStore

/-- a request, with the readings of the clock of its check -/
structure LoginRequest (Addr : Type) where
  ip : Addr
  body : Bytes
  now : Int
  later : Int

namespace AuthRoute

def create_session (username token : QString) (now : Int) (server : WebServer) :
    QHttpServerResponse × WebServer :=
  ({ data := ascii "\x7b\n    \"ok\": true\n\x7d\n"
     status := .Created
     headers := [("Set-Cookie".toList,
       "session=".toList ++ token ++ "; Path=/; HttpOnly; SameSite=Lax".toList)] },
    { server with
      webSessions := WebSessionStore.createSession token username 3600 now server.webSessions })

def invalidCredentials : QHttpServerResponse :=
  { data := ascii "invalid credentials", status := .Unauthorized }

section
-- `fromJson` is an object, or nothing when the text is no JSON or no object; `token` and
-- `created` are what the session is made with
variable {Addr : Type} (env : Env) (toString : Addr → QString) (arg : QString → Int → QString)
  (fromJson : Bytes → Option QJsonObject) (token : QString) (created : Int)

/-- the request as its check counts it -/
def limiterCall (request : LoginRequest Addr) : CheckCall Addr :=
  { addr := request.ip, msg := "Too many logins, retry after %1 seconds".toList, now := request.now,
    later := request.later }

/-- the part of `POST /api/1/login` after the body was read -/
def checkCredentials (ip : Addr) (username password : QString) (server : WebServer) (w : World) :
    (QHttpServerResponse × WebServer) × World :=
  let event : QEventAuthUser :=
    { username := toUtf8 username, password := toUtf8 password, ip := toUtf8 (toString ip) }
  if w.snakepit.hasEventHandler .AUTH_SASL_PLAIN then
    match w.event .AUTH_SASL_PLAIN event with
    | (some resPtr, w) =>
      if !resPtr.cancelled then (create_session username token created server, w)
      else ((invalidCredentials, server), w)
    | (none, w) => ((invalidCredentials, server), w)
  else
    match Account.get_by_name w (toUtf8 username) with
    | none => ((invalidCredentials, server), w)
    | some account =>
      if !env.validatePassword (toUtf8 password) (w.acc account).m_password then
        ((invalidCredentials, server), w)
      else (create_session username token created server, w)

/-- `POST /api/1/login` -/
def login (request : LoginRequest Addr) (server : WebServer) (w : World) :
    (QHttpServerResponse × WebServer) × World :=
  let (result, limiter) := RateLimiter.check toString arg server.limiter (limiterCall request)
  let server := { server with limiter }
  if !result.allowed then (({ data := toUtf8 result.msg, status := .TooManyRequests }, server), w)
  else match fromJson request.body with
    | none => (({ data := ascii "invalid json", status := .BadRequest }, server), w)
    | some obj =>
      checkCredentials env toString token created request.ip (obj.textOf "username")
        (obj.textOf "password") server w

/-- is the request let through -/
def allowed (request : LoginRequest Addr) (server : WebServer) : Bool :=
  (RateLimiter.check toString arg server.limiter (limiterCall request)).1.allowed

/-- the request makes a session of a user -/
def CreatesSession (username : QString) (request : LoginRequest Addr) (server : WebServer)
    (w : World) : Prop :=
  (login env toString arg fromJson token created request server w).1.1.status = .Created ∧
    (login env toString arg fromJson token created request server w).1.2.webSessions =
      WebSessionStore.createSession token username 3600 created server.webSessions

end

/-! ## when they agree -/

section
variable {Addr : Type} {env : Env} {toString : Addr → QString} {arg : QString → Int → QString}
  {fromJson : Bytes → Option QJsonObject} {token : QString} {created : Int}
  {request : LoginRequest Addr} {server : WebServer} {obj : QJsonObject}
  {username password : QString} {w : World}

/-- without a handler the route makes a session when the account has a hash that bcrypt accepts -/
theorem login_created_iff (hactive : w.snakepit.hasEventHandler .AUTH_SASL_PLAIN = false)
    (hbody : fromJson request.body = some obj) (huser : obj.textOf "username" = username)
    (hpass : obj.textOf "password" = password) :
    CreatesSession env toString arg fromJson token created username request server w ↔
      allowed toString arg request server = true ∧
        ∃ acc, Account.get_by_name w (toUtf8 username) = some acc ∧
          env.validatePassword (toUtf8 password) (w.acc acc).m_password = true := by
  have hdenied {r : QHttpServerResponse} {server' : WebServer} {p : Prop}
      (hr : r.status ≠ .Created) (hp : ¬ p) :
      (((r, server'), w).1.1.status = .Created ∧ ((r, server'), w).1.2.webSessions =
        WebSessionStore.createSession token username 3600 created server.webSessions) ↔ p :=
    iff_of_false (fun h => hr h.1) hp
  unfold CreatesSession login allowed
  cases RateLimiter.check toString arg server.limiter (limiterCall request) with
  | mk result limiter =>
    dsimp only
    cases result.allowed with
    | false => exact hdenied (fun h => by cases h) fun h => Bool.false_ne_true h.1
    | true =>
      rw [if_neg (by decide), hbody]
      dsimp only
      unfold checkCredentials
      rw [huser, hpass, hactive, if_neg Bool.false_ne_true]
      cases hacc : Account.get_by_name w (toUtf8 username) with
      | none =>
        refine hdenied (by decide) ?_
        rintro ⟨-, acc, hacc', -⟩
        cases hacc'
      | some acc =>
        dsimp only
        cases hvalid : env.validatePassword (toUtf8 password) (w.acc acc).m_password with
        | false =>
          rw [if_pos (by decide)]
          refine hdenied (by decide) ?_
          rintro ⟨-, acc', hacc', hvalid'⟩
          cases hacc'
          rw [hvalid] at hvalid'
          cases hvalid'
        | true =>
          rw [if_neg (by decide)]
          exact iff_of_true ⟨rfl, rfl⟩ ⟨rfl, acc, rfl, hvalid⟩

end

end AuthRoute

end Web

namespace client_connection

section
variable {env : Env} {c : ConnId} {args : List Bytes} {arg authz username password : Bytes}
  {w : World}

/-- without a handler a response logs in to an account whose hash bcrypt accepts, unless the
password or the hash is empty -/
theorem logged_in_plain_iff (hactive : w.snakepit.hasEventHandler .AUTH_SASL_PLAIN = false)
    (hargs : args.head? = some arg) (hplain : arg ≠ ascii "PLAIN")
    (hcred : saslPlain arg = [authz, username, password]) (hout : (w.conn c).logged_in = false) :
    (∃ w', handleAUTHENTICATE env c args w = .ok w' ∧ (w'.conn c).logged_in = true) ↔
      ∃ acc, Account.get_by_name w username = some acc ∧ password ≠ [] ∧
        (w.acc acc).m_password ≠ [] ∧
        env.validatePassword password (w.acc acc).m_password = true := by
  rw [handleAUTHENTICATE_plain hargs hplain hcred]
  have hok : (∃ w', (Except.ok (authenticate env c username password w) : Except Fault World) =
      .ok w' ∧ (w'.conn c).logged_in = true) ↔
        ((authenticate env c username password w).conn c).logged_in = true := by
    constructor
    · rintro ⟨w', hw', hlogged⟩
      cases hw'
      exact hlogged
    · intro h
      exact ⟨_, rfl, h⟩
  rw [hok]
  cases hacc : Account.get_by_name w username with
  | none =>
    have hreg : (authenticate env c username password w).reg = w.reg := by
      unfold authenticate
      rw [hacc]
      exact reg_forceDisconnect c _
    have hlogged : ((authenticate env c username password w).conn c).logged_in = false :=
      (congrArg ConnReg.logged_in (World.reg_conn_eq hreg c)).trans hout
    rw [hlogged]
    simp
  | some acc =>
    rw [logged_in_authenticate hacc, hout]
    unfold Account.verifyPassword authEvent
    dsimp only
    by_cases hempty : password = [] ∨ (w.acc acc).m_password = []
    · rw [if_pos hempty]
      refine iff_of_false (by simp) ?_
      rintro ⟨acc', hacc', hp, hs, -⟩
      cases hacc'
      exact hempty.elim hp hs
    · rw [if_neg hempty, hactive, if_neg Bool.false_ne_true]
      rw [not_or] at hempty
      simp [hempty.1, hempty.2]

end

end client_connection

namespace Web.AuthRoute
open client_connection

section
variable {Addr : Type} {env : Env} {toString : Addr → QString} {arg : QString → Int → QString}
  {fromJson : Bytes → Option QJsonObject} {token : QString} {created : Int}
  {request : LoginRequest Addr} {server : WebServer} {obj : QJsonObject}
  {username password : QString} {c : ConnId} {args : List Bytes} {response authz : Bytes}
  {w : World}

/-- **Both logins accept the same credentials**, if and only if the limiter lets an account
whose hash bcrypt accepts through just when neither its hash nor the password is empty. -/
theorem same_credentials_iff (hactive : w.snakepit.hasEventHandler .AUTH_SASL_PLAIN = false)
    (hbody : fromJson request.body = some obj) (huser : obj.textOf "username" = username)
    (hpass : obj.textOf "password" = password) (hargs : args.head? = some response)
    (hresponse : fromBase64 response = authz ++ 0 :: (toUtf8 username ++ 0 :: toUtf8 password))
    (hz : 0 ∉ authz) (hu : 0 ∉ toUtf8 username) (hp : 0 ∉ toUtf8 password)
    (hout : (w.conn c).logged_in = false) :
    (CreatesSession env toString arg fromJson token created username request server w ↔
        ∃ w', handleAUTHENTICATE env c args w = .ok w' ∧ (w'.conn c).logged_in = true) ↔
      ∀ acc, Account.get_by_name w (toUtf8 username) = some acc →
        env.validatePassword (toUtf8 password) (w.acc acc).m_password = true →
        (allowed toString arg request server = true ↔
          toUtf8 password ≠ [] ∧ (w.acc acc).m_password ≠ []) := by
  have hplain : response ≠ ascii "PLAIN" := by
    rintro rfl
    have hnul : (0 : UInt8) ∈ fromBase64 (ascii "PLAIN") := by
      rw [hresponse]
      exact List.mem_append_right authz List.mem_cons_self
    exact absurd hnul (by decide)
  rw [login_created_iff hactive hbody huser hpass,
    logged_in_plain_iff hactive hargs hplain (saslPlain_parts hresponse hz hu hp) hout]
  constructor
  · intro hagree acc hacc hvalid
    constructor
    · intro hallowed
      obtain ⟨acc', hacc', hp', hs', -⟩ := hagree.mp ⟨hallowed, acc, hacc, hvalid⟩
      rw [hacc] at hacc'
      cases hacc'
      exact ⟨hp', hs'⟩
    · rintro ⟨hp', hs'⟩
      exact (hagree.mpr ⟨acc, hacc, hp', hs', hvalid⟩).1
  · intro hcond
    constructor
    · rintro ⟨hallowed, acc, hacc, hvalid⟩
      obtain ⟨hp', hs'⟩ := (hcond acc hacc hvalid).mp hallowed
      exact ⟨acc, hacc, hp', hs', hvalid⟩
    · rintro ⟨acc, hacc, hp', hs', hvalid⟩
      exact ⟨(hcond acc hacc hvalid).mpr ⟨hp', hs'⟩, acc, hacc, hvalid⟩

end

/-! ## bob, without a password -/

/-- a hash that starts with its version -/
def versioned : Env :=
  { Env.ascii with validatePassword := fun candidate stored => ascii "$2b$" ++ candidate == stored }

/-- the account bob with the hash of a password -/
def bobStored (password : Bytes) : World :=
  { World.empty with
    acc := fun _ => { m_name := ascii "bob", m_password := ascii "$2b$" ++ password }
    ctx := { accounts_lookup_name := (∅ : QHash Bytes AccId).insert (ascii "bob") 0 } }

/-- what is read of a body that is bob's password -/
def bobObject (body : Bytes) : QJsonObject :=
  ((∅ : QHash QString QJsonValue).insert "username".toList (.text "bob".toList)).insert
    "password".toList (.text (fromUtf8 body))

def quietServer : WebServer := { limiter := {}, webSessions := ∅ }

/-- bob, whose password is empty, is let in by the route and not by SASL -/
theorem same_credentials_false :
    ¬ (CreatesSession versioned id (fun s _ => s) (fun b => some (bobObject b)) "t".toList 0
        "bob".toList ⟨"::1".toList, [], 0, 0⟩ quietServer (bobStored []) ↔
      ∃ w', handleAUTHENTICATE versioned 0 [toBase64 (0 :: ascii "bob" ++ [0])] (bobStored []) =
        .ok w' ∧ (w'.conn 0).logged_in = true) := by
  intro hagree
  obtain ⟨w', hw', hlogged⟩ := hagree.mp ⟨by rfl, rfl⟩
  cases hw'
  cases hlogged

theorem same_credentials_iff_p :
    (CreatesSession versioned id (fun s _ => s) (fun b => some (bobObject b)) "t".toList 0
        "bob".toList ⟨"::1".toList, ascii "p", 0, 0⟩ quietServer (bobStored (ascii "p")) ↔
      ∃ w', handleAUTHENTICATE versioned 0 [toBase64 (0 :: (ascii "bob" ++ 0 :: ascii "p"))]
        (bobStored (ascii "p")) = .ok w' ∧ (w'.conn 0).logged_in = true) ↔
    ∀ acc, Account.get_by_name (bobStored (ascii "p")) (ascii "bob") = some acc →
      versioned.validatePassword (ascii "p") ((bobStored (ascii "p")).acc acc).m_password = true →
      (allowed id (fun s _ => s) (⟨"::1".toList, ascii "p", 0, 0⟩ : LoginRequest QString)
        quietServer = true ↔ ascii "p" ≠ [] ∧ ((bobStored (ascii "p")).acc acc).m_password ≠ []) := by
  have hbody : (fun b => some (bobObject b)) (ascii "p") = some (bobObject (ascii "p")) := rfl
  have hresponse : fromBase64 (toBase64 (0 :: (ascii "bob" ++ 0 :: ascii "p"))) =
      [] ++ 0 :: (toUtf8 "bob".toList ++ 0 :: toUtf8 ['p']) := fromBase64_toBase64 _
  have hz : (0 : UInt8) ∉ ([] : Bytes) := by decide
  have hu : 0 ∉ toUtf8 "bob".toList := by decide
  have hp : 0 ∉ toUtf8 ['p'] := by decide
  exact same_credentials_iff rfl hbody (by rfl) (by rfl) rfl hresponse hz hu hp rfl

end Web.AuthRoute

end Chatripper
