import Mathlib
import Chatripper.Web.Files

/-!
# Who sends a request

A route finds out who sends a request from its headers: the address in `X-Forwarded-For`, when there
is one, and the token of a session in a cookie.  Here each list operation that needs an element is
partial, and where one fails the server goes down.

* `tokenFromRequest_eq`       the token is always found out, and is the one of the session store;
* `ipFromRequest_ok_iff`      when the address is;
* `answer_ok_iff`             when a route answers;
* `identification_total_iff`  when nothing that a request asks for fails;
* `run_serves_iff`            when the server is still up after requests.
-/

namespace Chatripper
open ByteStr Utf8 Outcome

namespace Web

/-- the values of the headers that say who sends a request -/
structure Request where
  forwarded : List Bytes
  cookies : List Bytes

/-- `QList::first` -/
def first {α : Type} (l : List α) : Except Fault α := listAt l 0

/-- `QString::split` with `Qt::SkipEmptyParts` -/
def splitSkip (sep : Char) (s : QString) : List QString := (s.splitOn sep).filter fun p => !p.isEmpty

/-! ## the helpers -/

namespace Checked

section
-- `parse` makes an address of a text
variable {Addr : Type} (parse : QString → Addr) (remoteAddress : Addr)

def ipFromRequest (request : Request) : Except Fault Addr :=
  let forwarded := request.forwarded
  if forwarded ≠ [] then do
    let value ← first forwarded
    let parts := splitSkip ',' (fromUtf8 value)
    let part ← first parts
    return parse (trimmedText part)
  else return remoteAddress

end

/-- the token of a `name=value` pair -/
def sessionOf (p : Bytes) : Except Fault (Option QString) :=
  let pair := splitSkip '=' (fromUtf8 p)
  if pair.length = 2 then do
    let name ← listAt pair 0
    if trimmedText name = "session".toList then
      let value ← listAt pair 1
      return some (trimmedText value)
    else return none
  else return none

/-- the loop over the pieces of a cookie -/
def firstSession : List Bytes → Except Fault QString
  | [] => return []
  | p :: parts => do
    match ← sessionOf p with
    | some token => return token
    | none => firstSession parts

def tokenFromRequest (cookies : List Bytes) : Except Fault QString :=
  if cookies = [] then return []
  else do
    let value ← first cookies
    firstSession (split 59 value)

/-- the same on text; nothing calls it -/
def tokenFromCookies (cookies : List QString) : Except Fault QString :=
  if cookies = [] then return []
  else do
    let value ← first cookies
    firstSession (split 59 (toUtf8 value))

/-- `WebSessionStore::get_user` with the partial token -/
def get_user (accounts_lookup_name : QHash Bytes AccId) (cookies : List Bytes) (now refreshed : Int)
    (between : List SessionCall) (s : WebSessionStore) :
    Except Fault (Option AccId × WebSessionStore) := do
  let token ← tokenFromRequest cookies
  if token = [] then return (none, s)
  else
    let (valid, s) := WebSessionStore.validateToken token now refreshed s
    if !valid then return (none, s)
    else
      let s := WebSessionStore.after s between
      let username := WebSessionStore.usernameForToken token s
      if username = [] then return (none, s)
      else return (accounts_lookup_name[toUtf8 username]?, s)

end Checked

/-! ## the routes -/

/-- the web server with what its routes read and write -/
structure WebState where
  m_loginRateLimiter : RateLimiter
  m_uploadRateLimiter : RateLimiter
  webSessions : WebSessionStore
  files : Uploads
  world : World

/-- the library functions of the routes -/
structure WebLibrary (Addr : Type) where
  env : Env
  toString : Addr → QString
  arg : QString → Int → QString
  fromJson : Bytes → Option QJsonObject
  toJson : QString → QString → Bytes
  parse : QString → Addr

/-- a request's route with what else it is served with: the readings of the clock, what others do
meanwhile, the file system, and the text of the accounts or the channels -/
inductive RouteCall (Addr : Type) where
  | login (body : Bytes) (now later created : Int) (token : QString)
  | upload (post : UploadRoute.Post Addr)
  | static (fs : FileSystem) (currentPath path : QString) (now later : Int)
  | users (validated refreshed : Int) (between : List SessionCall) (content : Bytes)
  | channels (validated refreshed : Int) (between : List SessionCall) (content : Bytes)

/-- does a route ask for the address -/
def RouteCall.asksAddress {Addr : Type} : RouteCall Addr → Bool
  | .login .. => true
  | .upload _ => true
  | .static .. => true
  | .users .. => false
  | .channels .. => false

/-- a list that is for users only -/
def listing (validated refreshed : Int) (between : List SessionCall) (content : Bytes)
    (s : WebState) (request : Request) : Except Fault (QHttpServerResponse × WebState) := do
  let (current_user, webSessions) ← Checked.get_user s.world.ctx.accounts_lookup_name
    request.cookies validated refreshed between s.webSessions
  let s := { s with webSessions }
  if current_user = none then return ({ data := ascii "Unauthorized", status := .Unauthorized }, s)
  else return ({ data := content, status := .Ok }, s)

section
variable {Addr : Type} (lib : WebLibrary Addr)

/-- a route answers a request that comes from an address -/
def answer (remoteAddress : Addr) (s : WebState) (request : Request) :
    RouteCall Addr → Except Fault (QHttpServerResponse × WebState)
  | .login body now later created token => do
    let ip ← Checked.ipFromRequest lib.parse remoteAddress request
    let ((response, server), world) := AuthRoute.login lib.env lib.toString lib.arg lib.fromJson token
      created { ip, body, now, later } ⟨s.m_loginRateLimiter, s.webSessions⟩ s.world
    return (response,
      { s with m_loginRateLimiter := server.limiter, webSessions := server.webSessions, world })
  | .upload post => do
    let ip ← Checked.ipFromRequest lib.parse remoteAddress request
    let post :=
      { post with
        ip
        cookies := request.cookies
        accounts_lookup_name := s.world.ctx.accounts_lookup_name
        server := ⟨s.m_uploadRateLimiter, s.webSessions⟩ }
    let (result, _) := RateLimiter.check lib.toString lib.arg post.server.limiter
      { addr := ip, msg := "Too many requests, retry after %1 seconds".toList, now := post.now,
        later := post.later }
    -- `upload` finds out who posts once the limiter has let the post through
    let _ ← if result.allowed then Checked.tokenFromRequest request.cookies else pure []
    let ((response, server), files) := UploadRoute.upload lib.toString lib.arg lib.toJson post s.files
    return (response,
      { s with m_uploadRateLimiter := server.limiter, webSessions := server.webSessions, files })
  | .static fs currentPath path now later => do
    let ip ← Checked.ipFromRequest lib.parse remoteAddress request
    let ((response, _), limiter) := StaticRoute.serve fs lib.toString lib.arg
      (g.staticDirectory currentPath) path ip now later s.m_uploadRateLimiter
    return (response, { s with m_uploadRateLimiter := limiter })
  | .users validated refreshed between content =>
    listing validated refreshed between content s request
  | .channels validated refreshed between content =>
    listing validated refreshed between content s request

end

/-! ## tokens -/

theorem splitSkip_eq_nil {sep : Char} {s : QString} : splitSkip sep s = [] ↔ ∀ c ∈ s, c = sep := by
  unfold splitSkip
  induction s with
  | nil => simp
  | cons x s ih =>
    rw [List.splitOn_cons_eq_if_modifyHead, List.forall_mem_cons, ← ih]
    by_cases hx : x = sep
    · simp [hx]
    · rw [if_neg (by simpa using hx)]
      refine iff_of_false ?_ fun h => hx h.1
      cases hparts : s.splitOn sep with
      | nil => exact absurd hparts (List.splitOn_ne_nil sep s)
      | cons p parts => simp

namespace Checked

theorem sessionOf_eq (p : Bytes) : sessionOf p = .ok (Web.sessionOf p) := by
  have hsplit : ((fromUtf8 p).splitOn '=').filter (fun s => !s.isEmpty) =
    splitSkip '=' (fromUtf8 p) := rfl
  unfold sessionOf Web.sessionOf
  rw [hsplit]
  cases splitSkip '=' (fromUtf8 p) with
  | nil => rfl
  | cons name rest =>
    cases rest with
    | nil => rfl
    | cons value rest =>
      cases rest with
      | nil =>
        show (if trimmedText name = "session".toList then _ else _) =
          Except.ok (if trimmedText name = "session".toList then _ else _)
        by_cases hname : trimmedText name = "session".toList
        · rw [if_pos hname, if_pos hname]
          rfl
        · rw [if_neg hname, if_neg hname]
          rfl
      | cons _ _ => rfl

theorem firstSession_eq (parts : List Bytes) :
    firstSession parts = .ok ((parts.findSome? Web.sessionOf).getD []) := by
  induction parts with
  | nil => rfl
  | cons p parts ih =>
    rw [firstSession, sessionOf_eq, ok_bind, List.findSome?_cons]
    cases Web.sessionOf p with
    | none => exact ih
    | some token => rfl

theorem tokenFromRequest_eq (cookies : List Bytes) :
    tokenFromRequest cookies = .ok (Web.tokenFromRequest cookies) := by
  cases cookies with
  | nil => rfl
  | cons value cookies => exact firstSession_eq (split 59 value)

theorem tokenFromCookies_eq (cookies : List QString) :
    tokenFromCookies cookies = .ok (Web.tokenFromRequest (cookies.map toUtf8)) := by
  cases cookies with
  | nil => rfl
  | cons value cookies => exact firstSession_eq (split 59 (toUtf8 value))

theorem get_user_eq (accounts_lookup_name : QHash Bytes AccId) (cookies : List Bytes)
    (now refreshed : Int) (between : List SessionCall) (s : WebSessionStore) :
    get_user accounts_lookup_name cookies now refreshed between s =
      .ok (WebSessionStore.get_user accounts_lookup_name cookies now refreshed between s) := by
  unfold get_user WebSessionStore.get_user
  rw [tokenFromRequest_eq, ok_bind]
  dsimp only
  split_ifs <;> rfl

end Checked

/-! ## the address -/

/-- what `fromUtf8` reads -/
def withoutBom (value : Bytes) : Bytes :=
  match value with
  | 0xEF :: 0xBB :: 0xBF :: rest => rest
  | value => value

/-- the first `X-Forwarded-For`, if there is one, has something other than commas -/
def Named (request : Request) : Prop :=
  ∀ value ∈ request.forwarded.head?, ∃ b ∈ withoutBom value, b ≠ 44

instance (request : Request) : Decidable (Named request) :=
  inferInstanceAs (Decidable (∀ value ∈ request.forwarded.head?, ∃ b ∈ withoutBom value, b ≠ 44))

theorem fromUtf8_eq (value : Bytes) : fromUtf8 value = decode (withoutBom value) := by
  by_cases hbom : ∃ rest, value = 0xEF :: 0xBB :: 0xBF :: rest
  · obtain ⟨rest, rfl⟩ := hbom
    rfl
  · have hall : withoutBom value = value := by
      unfold withoutBom
      split
      · exact absurd ⟨_, rfl⟩ hbom
      · rfl
    rw [hall]
    unfold fromUtf8
    split
    · exact absurd ⟨_, rfl⟩ hbom
    · rfl

/-- a comma is read from a comma only -/
theorem first_comma {b : UInt8} {bs : Bytes} (h : (Utf8.first b bs).1 = ',') : b = 44 := by
  obtain ⟨hchar, hb⟩ : (Utf8.first b bs).1 = Char.ofNat b.toNat ∧ b.toNat < 0x80 :=
    first_ascii (by rw [h]; decide)
  have hcomma : b.toNat = ','.toNat := by
    rw [← toNat_ofNat (n := b.toNat) (by omega) (by omega), ← hchar, h]
  rw [← UInt8.ofNat_toNat (x := b), hcomma]
  rfl

theorem decode_commas {value : Bytes} : (∀ c ∈ decode value, c = ',') ↔ ∀ b ∈ value, b = 44 := by
  induction value with
  | nil => exact iff_of_true (fun c hc => by cases hc) (fun b hb => by cases hb)
  | cons b value ih =>
    show (∀ c ∈ (Utf8.first b value).1 :: decodeSkip (Utf8.first b value).2 value, c = ',') ↔ _
    rw [List.forall_mem_cons, List.forall_mem_cons, ← ih]
    -- what follows a comma is read from its beginning
    have hrest : b = 44 → decodeSkip (Utf8.first b value).2 value = decode value := by
      rintro rfl
      rfl
    constructor
    · rintro ⟨hc, h⟩
      have hb := first_comma hc
      exact ⟨hb, by rwa [hrest hb] at h⟩
    · rintro ⟨hb, h⟩
      refine ⟨?_, by rwa [hrest hb]⟩
      subst hb
      rfl

theorem parts_eq_nil {value : Bytes} :
    splitSkip ',' (fromUtf8 value) = [] ↔ ∀ b ∈ withoutBom value, b = 44 := by
  rw [splitSkip_eq_nil, fromUtf8_eq, decode_commas]

/-- what comes after cannot fail -/
theorem bind_ok_iff {ε α β : Type} {x : Except ε α} {f : α → Except ε β}
    (hf : ∀ a, ∃ r, f a = .ok r) : (∃ r, (x >>= f) = .ok r) ↔ ∃ a, x = .ok a := by
  constructor
  · rintro ⟨r, h⟩
    obtain ⟨a, ha, -⟩ := bind_eq_ok.mp h
    exact ⟨a, ha⟩
  · rintro ⟨a, ha⟩
    obtain ⟨r, hr⟩ := hf a
    exact ⟨r, by rw [ha, ok_bind, hr]⟩

theorem first_ok_iff {α : Type} {l : List α} : (∃ a, first l = .ok a) ↔ l ≠ [] := by
  cases l with
  | nil => exact iff_of_false (fun ⟨a, h⟩ => nomatch h) (fun h => h rfl)
  | cons a l => exact iff_of_true ⟨a, rfl⟩ (List.cons_ne_nil a l)

section
variable {Addr : Type} {parse : QString → Addr} {remoteAddress : Addr}

theorem ipFromRequest_ok_iff {request : Request} :
    (∃ ip, Checked.ipFromRequest parse remoteAddress request = .ok ip) ↔ Named request := by
  unfold Checked.ipFromRequest Named
  cases request.forwarded with
  | nil => exact iff_of_true ⟨remoteAddress, rfl⟩ (fun value h => by cases h)
  | cons value forwarded =>
    have hnamed : (∀ v ∈ (value :: forwarded).head?, ∃ b ∈ withoutBom v, b ≠ 44) ↔
        splitSkip ',' (fromUtf8 value) ≠ [] := by
      rw [ne_eq, parts_eq_nil]
      simp
    rw [hnamed, ← first_ok_iff]
    exact bind_ok_iff fun part => ⟨parse (trimmedText part), rfl⟩

end

/-! ## the answers -/

section
variable {Addr : Type} {lib : WebLibrary Addr} {remoteAddress : Addr}

theorem listing_ok (validated refreshed : Int) (between : List SessionCall) (content : Bytes)
    (s : WebState) (request : Request) :
    ∃ r, listing validated refreshed between content s request = .ok r := by
  unfold listing
  rw [Checked.get_user_eq, ok_bind]
  dsimp only
  split
  · exact ⟨_, rfl⟩
  · exact ⟨_, rfl⟩

/-- an address is all that a route can fail to find out -/
theorem asked_ok_iff {α : Type} {request : Request} {f : Addr → Except Fault α}
    (hf : ∀ ip, ∃ r, f ip = .ok r) :
    (∃ r, (Checked.ipFromRequest lib.parse remoteAddress request >>= f) = .ok r) ↔
      Named request := (bind_ok_iff hf).trans ipFromRequest_ok_iff

theorem answer_ok_iff (s : WebState) (request : Request) (call : RouteCall Addr) :
    (∃ r, answer lib remoteAddress s request call = .ok r) ↔
      (call.asksAddress = true → Named request) := by
  have asks {P : Prop} : P ↔ (true = true → P) := ⟨fun h _ => h, fun h => h rfl⟩
  cases call with
  | login body now later created token => exact (asked_ok_iff fun ip => ⟨_, rfl⟩).trans asks
  | upload post =>
    refine (asked_ok_iff fun ip => ?_).trans asks
    dsimp only
    rw [Checked.tokenFromRequest_eq]
    split
    · exact ⟨_, rfl⟩
    · exact ⟨_, rfl⟩
  | static fs currentPath path now later => exact (asked_ok_iff fun ip => ⟨_, rfl⟩).trans asks
  | users validated refreshed between content =>
    exact iff_of_true (listing_ok validated refreshed between content s request) (fun h => nomatch h)
  | channels validated refreshed between content =>
    exact iff_of_true (listing_ok validated refreshed between content s request) (fun h => nomatch h)

end

section
variable {Addr : Type} (lib : WebLibrary Addr)

/-- the server after a request, from an address and for a route -/
def step (s : WebState) (served : Addr × Request × RouteCall Addr) : Except Fault WebState :=
  (answer lib served.1 s served.2.1 served.2.2).map Prod.snd

theorem step_ok_iff (s : WebState) (served : Addr × Request × RouteCall Addr) :
    (∃ s', step lib s served = .ok s') ↔ (served.2.2.asksAddress = true → Named served.2.1) := by
  have hanswer : (∃ r, answer lib served.1 s served.2.1 served.2.2 = .ok r) ↔ _ :=
    answer_ok_iff s served.2.1 served.2.2
  rw [← hanswer]
  unfold step
  cases answer lib served.1 s served.2.1 served.2.2 with
  | ok r => exact iff_of_true ⟨r.2, rfl⟩ ⟨r, rfl⟩
  | error e => exact iff_of_false (fun ⟨_, h⟩ => nomatch h) (fun ⟨_, h⟩ => nomatch h)

/-- **Requests.**  The server is up after them if each that is asked for its address has one. -/
theorem run_serves_iff (s : WebState) (served : List (Addr × Request × RouteCall Addr)) :
    (∃ s', run (step lib) s served = .ok s') ↔
      ∀ r ∈ served, r.2.2.asksAddress = true → Named r.2.1 := by
  induction served generalizing s with
  | nil => exact iff_of_true ⟨s, rfl⟩ (fun r h => by cases h)
  | cons r served ih =>
    rw [List.forall_mem_cons, ← step_ok_iff lib s r, run_cons]
    constructor
    · rintro ⟨s', h⟩
      obtain ⟨m, hm, h⟩ := bind_eq_ok.mp h
      exact ⟨⟨m, hm⟩, (ih m).mp ⟨s', h⟩⟩
    · rintro ⟨⟨m, hm⟩, h⟩
      obtain ⟨s', hs'⟩ := (ih m).mpr h
      exact ⟨s', by rw [hm, ok_bind, hs']⟩

end

/-! ## the identification of a request -/

/-- everything that a request is asked for is found out, whichever route asks -/
def Identified {Addr : Type} (lib : WebLibrary Addr) (remoteAddress : Addr) (request : Request) :
    Prop :=
  (∃ ip, Checked.ipFromRequest lib.parse remoteAddress request = .ok ip) ∧
  (∃ token, Checked.tokenFromRequest request.cookies = .ok token) ∧
  (∀ cookies, ∃ token, Checked.tokenFromCookies cookies = .ok token) ∧
  ∀ s call, ∃ r, answer lib remoteAddress s request call = .ok r

/-- the address decides, and only routes that ask for it can fail -/
theorem identification_total_iff {Addr : Type} (lib : WebLibrary Addr) (remoteAddress : Addr)
    (request : Request) :
    (Identified lib remoteAddress request ↔ Named request) ∧
    (∃ token, Checked.tokenFromRequest request.cookies = .ok token) ∧
    (∀ cookies, ∃ token, Checked.tokenFromCookies cookies = .ok token) ∧
    ∀ s (call : RouteCall Addr), call.asksAddress = false →
      ∃ r, answer lib remoteAddress s request call = .ok r := by
  have htoken : ∃ token, Checked.tokenFromRequest request.cookies = .ok token :=
    ⟨_, Checked.tokenFromRequest_eq request.cookies⟩
  have hcookies (cookies : List QString) :
      ∃ token, Checked.tokenFromCookies cookies = .ok token :=
    ⟨_, Checked.tokenFromCookies_eq cookies⟩
  refine ⟨⟨fun h => ipFromRequest_ok_iff.mp h.1, fun h => ?_⟩, htoken, hcookies, fun s call hcall => ?_⟩
  · refine ⟨ipFromRequest_ok_iff.mpr h, htoken, hcookies, fun s call => ?_⟩
    exact (answer_ok_iff s request call).mpr fun _ => h
  · exact (answer_ok_iff s request call).mpr fun hasks => by rw [hcall] at hasks; cases hasks

/-- a library whose addresses are texts -/
def WebLibrary.texts : WebLibrary QString where
  env := Env.ascii
  toString := id
  arg msg _ := msg
  fromJson _ := none
  toJson name value := toUtf8 (name ++ value)
  parse := id

/-- a server that has not served yet -/
def WebState.empty : WebState :=
  { m_loginRateLimiter := { m_maxRequests := 3, m_windowSeconds := 5 }
    m_uploadRateLimiter := { m_maxRequests := 3, m_windowSeconds := 5 }
    webSessions := ∅
    files := ∅
    world := World.empty }

/-- a header that is a comma stops a login, a name before the comma does not -/
theorem comma_unidentified :
    Checked.ipFromRequest id ([] : QString) ⟨[ascii ","], []⟩ = .error .outOfRange ∧
    answer WebLibrary.texts [] WebState.empty ⟨[ascii ","], []⟩
      (.login (ascii "\x7b\x7d") 0 0 0 []) = .error .outOfRange ∧
    Checked.ipFromRequest id ([] : QString) ⟨[ascii "10.0.0.1,"], []⟩ = .ok "10.0.0.1".toList := by
  refine ⟨by decide, rfl, by decide⟩

end Web

end Chatripper
