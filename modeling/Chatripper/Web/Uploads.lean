import Mathlib
import Chatripper.Web.Login

/-!
# Uploaded files

A user posts a body with a name in its `Content-Disposition`, and is told the URL that it can be
fetched at.  The name is checked when the file is written and, in another way, when it is fetched:
there a name with two dots in a row is refused.  All users write to one directory.

* `responses_mem`       what a post is answered does not depend on the files;
* `lookup_uploaded`     a file has the body of some post of its name;
* `retrievable_iff`     when every URL leads to the body that was posted.
-/

namespace Chatripper
open ByteStr Utf8

namespace Web

/-! ## texts -/

/-- what stands after the first `pat` -/
def afterText (pat : QString) : QString → Option QString
  | [] => if pat = [] then some [] else none
  | c :: s => if pat.isPrefixOf (c :: s) then some ((c :: s).drop pat.length) else afterText pat s

def containsText (pat s : QString) : Bool := (afterText pat s).isSome

/-- `QFileInfo::fileName`, what stands after the last slash -/
def fileName (path : QString) : QString := path.rtakeWhile (· != '/')

def isNameChar (c : Char) : Bool := c.isAlphanum || c == '.' || c == '_' || c == '-'

/-- the pattern ends in `$`, which also matches before a final newline -/
def validName (s : QString) : Bool :=
  match if s.getLast? = some '\n' then s.dropLast else s with
  | [] => false
  | c :: rest => (c :: rest).all isNameChar

/-- the letters of a uuid, and what stands between its groups -/
def uuidLetters : List Char := ['a', 'b', 'c', 'd', 'e', 'f', '-']

/-- a uuid as text, without braces -/
def UuidText : Type := { s : QString // s ≠ [] ∧ ∀ c ∈ s, c.isDigit ∨ c ∈ uuidLetters }

/-- a path that may be served -/
def sanitizePath (path : QString) : Option QString :=
  if containsText "..".toList path then none else some path

/-! ## the routes -/

/-- the files of `uploadsDirectory` by their names -/
abbrev Uploads := QHash QString Bytes

namespace UploadRoute

def MAX_UPLOAD_SIZE : Nat := 5 * 1024 * 1024

def kAcceptedTypes : List QString :=
  ["image/jpeg".toList, "image/png".toList, "image/gif".toList, "video/mp4".toList,
    "video/webm".toList, "text/plain".toList]

/-- a post as it reaches the server: what it says, the clock and the calls of others while it is
served, the uuids that are made for it, the accounts, the limiter and the sessions -/
structure Post (Addr : Type) where
  ip : Addr
  body : Bytes
  cookies : List Bytes
  contentType : Bytes
  contentDisposition : Bytes
  now : Int
  later : Int
  validated : Int
  refreshed : Int
  between : List SessionCall
  unnamed : UuidText
  fallback : UuidText
  accounts_lookup_name : QHash Bytes AccId
  server : WebServer

def safeFileName (filename : QString) (uuid : UuidText) : QString :=
  let base := fileName filename
  if !validName base then uuid.1 else base

section
-- `toJson` is the text of an object with one member
variable {Addr : Type} (toString : Addr → QString) (arg : QString → Int → QString)
  (toJson : QString → QString → Bytes)

/-- the name that a post is written under -/
def filenameOf (post : Post Addr) : QString :=
  let contentDisposition := fromUtf8 post.contentDisposition
  match afterText "filename=".toList contentDisposition with
  | some section1 =>
    safeFileName ((trimmedText section1).filter (· != '"')) post.fallback
  | none => safeFileName post.unnamed.1 post.fallback

/-- the checks before a file is written: what a refused post is answered -/
def refusal (post : Post Addr) : Option QHttpServerResponse × WebServer :=
  let contentType := fromUtf8 post.contentType
  let (result, limiter) := RateLimiter.check toString arg post.server.limiter
    { addr := post.ip, msg := "Too many requests, retry after %1 seconds".toList, now := post.now,
      later := post.later }
  let server := { post.server with limiter }
  if !result.allowed then (some { data := toUtf8 result.msg, status := .TooManyRequests }, server)
  else
    let (current_user, webSessions) := WebSessionStore.get_user post.accounts_lookup_name post.cookies
      post.validated post.refreshed post.between server.webSessions
    let server := { server with webSessions }
    if current_user = none then
      (some { data := ascii "Unauthorized", status := .Unauthorized }, server)
    else if MAX_UPLOAD_SIZE < post.body.length then
      (some { data := ascii "File too large", status := .PayloadTooLarge }, server)
    else if "multipart/form-data".toList.isPrefixOf contentType then
      (some { data := ascii "Unsupported upload type multipart/form-data"
              status := .UnsupportedMediaType }, server)
    else if !kAcceptedTypes.contains contentType then
      (some { data := ascii "Unsupported media type", status := .UnsupportedMediaType }, server)
    else if post.body = [] then
      (some { data := ascii "empty body", status := .BadRequest }, server)
    else (none, server)

/-- the two names that are directories cannot be written to -/
def opens (filename : QString) : Bool := filename != ".".toList && filename != "..".toList

/-- where a file is fetched -/
def fileUrl (filename : QString) : QString := "/files/".toList ++ filename

/-- `POST /api/1/file/upload` -/
def upload (post : Post Addr) (files : Uploads) : (QHttpServerResponse × WebServer) × Uploads :=
  match refusal toString arg post with
  | (some refused, server) => ((refused, server), files)
  | (none, server) =>
    let filename := filenameOf post
    if !opens filename then
      (({ data := ascii "failed to write file", status := .InternalServerError }, server), files)
    else
      (({ data := toJson "url".toList (fileUrl filename), status := .Created
          headers := [("Location".toList, fileUrl filename)] }, server),
        files.insert filename post.body)

/-- `GET /files/<arg>` -/
def serve (file : QString) (files : Uploads) : QHttpServerResponse :=
  match sanitizePath file with
  | none => { data := ascii "Invalid filename", status := .BadRequest }
  | some safePath =>
    let safeFile := fileName safePath
    if !validName safeFile then { data := ascii "Invalid filename", status := .BadRequest }
    else match files[safeFile]? with
      | none => { data := ascii "Not Found", status := .NotFound }
      | some content => { data := content, status := .Ok }

/-- the files after posts -/
def after (files : Uploads) (posts : List (Post Addr)) : Uploads :=
  posts.foldl (fun files post => (upload toString arg toJson post files).2) files

/-- posts with what they are answered -/
def responses (files : Uploads) : List (Post Addr) → List (Post Addr × QHttpServerResponse)
  | [] => []
  | post :: posts =>
    (post, (upload toString arg toJson post files).1.1) ::
      responses (upload toString arg toJson post files).2 posts

/-- every URL that was answered leads to the body that was posted -/
def Retrievable (files : Uploads) (posts : List (Post Addr)) : Prop :=
  ∀ p ∈ responses toString arg toJson files posts, p.2.status = .Created →
    ∀ f, ("Location".toList, fileUrl f) ∈ p.2.headers →
      serve f (after toString arg toJson files posts) = { data := p.1.body, status := .Ok }

/-- a post that is not refused, with a name that can be written to -/
def Stored (post : Post Addr) : Prop :=
  (refusal toString arg post).1 = none ∧ opens (filenameOf post) = true

end

/-! ## names -/

theorem isNameChar_of_uuid {c : Char} (h : c.isDigit ∨ c ∈ uuidLetters) :
    isNameChar c = true := by
  rcases h with h | h
  · unfold isNameChar Char.isAlphanum
    rw [h, Bool.or_true]
    rfl
  · have hall : uuidLetters.all isNameChar = true := rfl
    exact List.all_eq_true.mp hall c h

theorem validName_of_all {s : QString} (hne : s ≠ []) (hall : ∀ c ∈ s, isNameChar c = true) :
    validName s = true := by
  have hlast : s.getLast? ≠ some '\n' := by
    intro h
    have hnl := hall '\n' (List.mem_of_getLast? h)
    exact absurd hnl (by decide)
  unfold validName
  rw [if_neg hlast]
  cases s with
  | nil => exact absurd rfl hne
  | cons c rest => exact List.all_eq_true.mpr hall

theorem validName_uuid (uuid : UuidText) : validName uuid.1 = true :=
  validName_of_all uuid.2.1 fun c hc => isNameChar_of_uuid (uuid.2.2 c hc)

theorem isNameChar_of_validName {s : QString} (h : validName s = true) {c : Char} (hc : c ∈ s) :
    isNameChar c = true ∨ c = '\n' := by
  unfold validName at h
  by_cases hlast : s.getLast? = some '\n'
  · obtain ⟨front, rfl⟩ := List.getLast?_eq_some_iff.mp hlast
    rw [if_pos hlast, List.dropLast_concat] at h
    rcases List.mem_append.mp hc with hc | hc
    · cases front with
      | nil => exact absurd hc List.not_mem_nil
      | cons x rest => exact .inl (List.all_eq_true.mp h c hc)
    · exact .inr (List.mem_singleton.mp hc)
  · rw [if_neg hlast] at h
    cases s with
    | nil => exact absurd hc List.not_mem_nil
    | cons x rest => exact .inl (List.all_eq_true.mp h c hc)

/-- a valid name has no slash -/
theorem fileName_of_validName {s : QString} (h : validName s = true) : fileName s = s := by
  unfold fileName
  rw [List.rtakeWhile_eq_self_iff]
  intro c hc
  rw [bne_iff_ne]
  rintro rfl
  rcases isNameChar_of_validName h hc with hname | hnl
  · exact absurd hname (by decide)
  · exact absurd hnl (by decide)

theorem validName_safeFileName (filename : QString) (uuid : UuidText) :
    validName (safeFileName filename uuid) = true := by
  unfold safeFileName
  dsimp only
  by_cases h : validName (fileName filename) = true
  · rw [if_neg (by rw [h]; decide)]
    exact h
  · rw [if_pos (by simpa using h)]
    exact validName_uuid uuid

section
variable {Addr : Type} {toString : Addr → QString} {arg : QString → Int → QString}
  {toJson : QString → QString → Bytes} {files : Uploads} {posts : List (Post Addr)}

theorem validName_filenameOf (post : Post Addr) : validName (filenameOf post) = true := by
  unfold filenameOf
  dsimp only
  cases afterText "filename=".toList (fromUtf8 post.contentDisposition) with
  | none => exact validName_safeFileName _ _
  | some section1 => exact validName_safeFileName _ _

/-! ## what is served -/

/-- a valid name is served unless it has two dots in a row -/
theorem serve_eq {f : QString} (h : validName f = true) : serve f files =
    if containsText "..".toList f then { data := ascii "Invalid filename", status := .BadRequest }
    else (files[f]?.map fun content => ({ data := content, status := .Ok } : QHttpServerResponse)).getD
      { data := ascii "Not Found", status := .NotFound } := by
  unfold serve sanitizePath
  cases containsText "..".toList f with
  | true => rfl
  | false =>
    rw [if_neg Bool.false_ne_true, if_neg Bool.false_ne_true]
    dsimp only
    rw [fileName_of_validName h, h, if_neg (by decide)]
    cases files[f]? with
    | none => rfl
    | some content => rfl

/-! ## what a post does -/

theorem upload_stored {post : Post Addr} (h : Stored toString arg post) :
    upload toString arg toJson post files =
      (({ data := toJson "url".toList (fileUrl (filenameOf post)), status := .Created
          headers := [("Location".toList, fileUrl (filenameOf post))] },
        (refusal toString arg post).2), files.insert (filenameOf post) post.body) := by
  obtain ⟨hrefusal, hopens⟩ := h
  unfold upload
  cases hr : refusal toString arg post with
  | mk refused server =>
    rw [hr] at hrefusal
    cases hrefusal
    dsimp only
    rw [hopens, if_neg (by decide)]

theorem refusal_ne_created {post : Post Addr} {r : QHttpServerResponse}
    (h : (refusal toString arg post).1 = some r) : r.status ≠ .Created := by
  unfold refusal at h
  dsimp only at h
  split_ifs at h <;> first | (cases h; exact fun h => by cases h)

/-- a post that is not stored leaves the files and is not told a URL -/
theorem upload_not_stored {post : Post Addr} (h : ¬ Stored toString arg post) :
    (upload toString arg toJson post files).2 = files ∧
      (upload toString arg toJson post files).1.1.status ≠ .Created := by
  unfold upload
  cases hr : refusal toString arg post with
  | mk refused server =>
    cases refused with
    | some r => exact ⟨rfl, refusal_ne_created (congrArg Prod.fst hr)⟩
    | none =>
      have hopens : opens (filenameOf post) = false := by
        rw [← Bool.not_eq_true]
        exact fun hopens => h ⟨congrArg Prod.fst hr, hopens⟩
      dsimp only
      rw [hopens, if_pos (by decide)]
      exact ⟨rfl, fun h => by cases h⟩

/-- what a post is answered does not depend on the files -/
theorem responses_mem {p : Post Addr × QHttpServerResponse} :
    p ∈ responses toString arg toJson files posts ↔
      p.1 ∈ posts ∧ p.2 = (upload toString arg toJson p.1 ∅).1.1 := by
  have hindep (post : Post Addr) (files : Uploads) : (upload toString arg toJson post files).1.1 =
      (upload toString arg toJson post ∅).1.1 := by
    by_cases h : Stored toString arg post
    · rw [upload_stored h, upload_stored h]
    · unfold upload
      cases refusal toString arg post with
      | mk refused server =>
        cases refused with
        | some r => rfl
        | none =>
          dsimp only
          split_ifs
          · rfl
          · rfl
  induction posts generalizing files with
  | nil => exact iff_of_false List.not_mem_nil fun h => List.not_mem_nil h.1
  | cons post posts ih =>
    obtain ⟨q, r⟩ := p
    rw [responses, List.mem_cons, List.mem_cons, hindep post files]
    refine (or_congr Iff.rfl ih).trans ?_
    constructor
    · rintro (h | ⟨hq, hr⟩)
      · cases h
        exact ⟨.inl rfl, rfl⟩
      · exact ⟨.inr hq, hr⟩
    · rintro ⟨rfl | hq, hr⟩
      · exact .inl (Prod.ext rfl hr)
      · exact .inr ⟨hq, hr⟩

/-- a file that was posted has the body of some post of its name -/
theorem lookup_uploaded {p : Post Addr} (hp : p ∈ posts) (hstored : Stored toString arg p) :
    ∃ q ∈ posts, Stored toString arg q ∧ filenameOf q = filenameOf p ∧
      (after toString arg toJson files posts)[filenameOf p]? = some q.body := by
  induction posts using List.reverseRecOn with
  | nil => exact absurd hp List.not_mem_nil
  | append_singleton posts last ih =>
    have hafter : after toString arg toJson files (posts ++ [last]) =
        (upload toString arg toJson last (after toString arg toJson files posts)).2 := by
      unfold after
      rw [List.foldl_append]
      rfl
    rw [hafter]
    have hlast : last ∈ posts ++ [last] := List.mem_append_right posts List.mem_cons_self
    have hearlier (hne : ¬ (Stored toString arg last ∧ filenameOf last = filenameOf p))
        (hp : p ∈ posts) : ∃ q ∈ posts ++ [last], Stored toString arg q ∧
          filenameOf q = filenameOf p ∧
          (upload toString arg toJson last (after toString arg toJson files posts)).2[
            filenameOf p]? = some q.body := by
      obtain ⟨q, hq, hqs, hqn, hlookup⟩ := ih hp
      refine ⟨q, List.mem_append_left _ hq, hqs, hqn, ?_⟩
      by_cases hls : Stored toString arg last
      · rw [upload_stored hls, lookup_insert, if_neg fun he => hne ⟨hls, he.symm⟩]
        exact hlookup
      · rw [(upload_not_stored hls).1]
        exact hlookup
    by_cases hl : Stored toString arg last ∧ filenameOf last = filenameOf p
    · refine ⟨last, hlast, hl.1, hl.2, ?_⟩
      rw [upload_stored hl.1, lookup_insert, if_pos hl.2.symm]
    · rcases List.mem_append.mp hp with hp | hp
      · exact hearlier hl hp
      · cases List.mem_singleton.mp hp
        exact absurd ⟨hstored, rfl⟩ hl

theorem fileUrl_injective : Function.Injective fileUrl :=
  List.append_right_injective "/files/".toList

/-- **Every URL leads to the body that was posted**, if and only if no name has two dots in a row and
no two posts of one name have different bodies. -/
theorem retrievable_iff (files : Uploads) (posts : List (Post Addr)) :
    Retrievable toString arg toJson files posts ↔
      ∀ p ∈ posts, Stored toString arg p →
        containsText "..".toList (filenameOf p) = false ∧
          ∀ q ∈ posts, Stored toString arg q → filenameOf q = filenameOf p → q.body = p.body := by
  have hserved {p : Post Addr} (hp : p ∈ posts) (hs : Stored toString arg p)
      (h : Retrievable toString arg toJson files posts) :
      serve (filenameOf p) (after toString arg toJson files posts) =
        { data := p.body, status := .Ok } := by
    have hup : upload toString arg toJson p ∅ = _ := upload_stored hs
    refine h (p, (upload toString arg toJson p ∅).1.1) (responses_mem.mpr ⟨hp, rfl⟩) ?_ _ ?_
    · rw [hup]
    · rw [hup]
      exact List.mem_cons_self
  constructor
  · intro h p hp hs
    have hserve := hserved hp hs h
    rw [serve_eq (validName_filenameOf p)] at hserve
    have hdots : containsText "..".toList (filenameOf p) = false := by
      rw [← Bool.not_eq_true]
      intro hdots
      rw [if_pos hdots] at hserve
      have hstatus : StatusCode.BadRequest = .Ok := congrArg QHttpServerResponse.status hserve
      cases hstatus
    refine ⟨hdots, fun q hq hqs hname => ?_⟩
    have hserveq := hserved hq hqs h
    rw [hname, serve_eq (validName_filenameOf p), hserve] at hserveq
    exact (congrArg QHttpServerResponse.data hserveq).symm
  · rintro h ⟨p, r⟩ hmem hcreated f hf
    obtain ⟨hp, hr⟩ := responses_mem.mp hmem
    change r = (upload toString arg toJson p ∅).1.1 at hr
    subst hr
    have hs : Stored toString arg p := by
      by_contra hns
      exact (upload_not_stored hns).2 hcreated
    rw [upload_stored hs] at hf
    have hname : f = filenameOf p :=
      fileUrl_injective (congrArg Prod.snd (List.mem_singleton.mp hf))
    subst hname
    obtain ⟨hdots, hbody⟩ := h p hp hs
    have hkept : ∃ q ∈ posts, Stored toString arg q ∧ filenameOf q = filenameOf p ∧
        (after toString arg toJson files posts)[filenameOf p]? = some q.body := lookup_uploaded hp hs
    obtain ⟨q, hq, hqs, hqn, hlookup⟩ := hkept
    rw [serve_eq (validName_filenameOf p), hdots, if_neg Bool.false_ne_true, hlookup,
      ← hbody q hq hqs hqn]
    rfl

end

/-! ## a name with two dots in a row -/

def shortUuid : UuidText :=
  ⟨['-'], List.cons_ne_nil _ _, fun c hc => .inr (by rw [List.mem_singleton.mp hc]; decide)⟩

/-- bob, logged in, posts one letter -/
def bobPost (contentDisposition : Bytes) : Post QString where
  ip := "::1".toList
  body := ascii "x"
  cookies := [ascii "session=t"]
  contentType := ascii "text/plain"
  contentDisposition
  now := 0
  later := 0
  validated := 0
  refreshed := 0
  between := []
  unnamed := shortUuid
  fallback := shortUuid
  accounts_lookup_name := (∅ : QHash Bytes AccId).insert (ascii "bob") 0
  server :=
    { limiter := {}
      webSessions := WebSessionStore.createSession "t".toList "bob".toList 3600 0 ∅ }

set_option maxRecDepth 8000 in
/-- the post is answered with a URL, and the URL is refused -/
theorem retrievable_false :
    (upload id (fun s _ => s) (fun _ _ => []) (bobPost (ascii "filename=\"a..b\"")) ∅).1.1.status =
        .Created ∧
      ¬ Retrievable id (fun s _ => s) (fun _ _ => []) ∅ [bobPost (ascii "filename=\"a..b\"")] := by
  refine ⟨rfl, fun h => ?_⟩
  have hserve := h (bobPost (ascii "filename=\"a..b\""), _) List.mem_cons_self rfl "a..b".toList
    List.mem_cons_self
  have hstatus : StatusCode.BadRequest = .Ok := congrArg QHttpServerResponse.status hserve
  cases hstatus

end UploadRoute

end Web

end Chatripper
