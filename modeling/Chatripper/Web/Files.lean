import Mathlib
import Chatripper.Lib.Paths
import Chatripper.Web.Uploads

/-!
# Files that are served

Three routes look for a file: GET and HEAD of an upload by the last part of their argument, and the
static route by the whole path of its URL.  What each does to the file system is recorded, path by
path.  A path is refused if it has two dots in a row anywhere.

* `getFile_serve`     GET on the paths of a directory is GET on its files;
* `served_inside`     every path that is tested or returned stays inside the directory of its route.
-/

namespace Chatripper
open ByteStr Utf8

namespace Web

/-! ## directories -/

/-- `QDir::filePath` -/
def filePath (dir fileName : QString) : QString :=
  if fileName.head? = some '/' then fileName
  else if fileName = [] then dir
  else if dir ≠ [] ∧ dir.getLast? ≠ some '/' then dir ++ '/' :: fileName
  else dir ++ fileName

namespace g

section
variable (currentPath : QString)

def configDirectory : QString := filePath currentPath "data/".toList

def uploadsDirectory : QString := configDirectory currentPath ++ "uploads/".toList

def staticDirectory : QString := configDirectory currentPath ++ "static/".toList

end

end g

/-! ## the file system -/

/-- what the file system answers about a path -/
structure FileSystem where
  fileExists : QString → Bool
  fromFile : QString → QHttpServerResponse
  size : QString → Nat

/-- a question to the file system -/
inductive FileAccess where
  | tested (path : QString)
  | returned (path : QString)
  | described (path : QString)
  deriving DecidableEq

def FileAccess.path : FileAccess → QString
  | .tested path => path
  | .returned path => path
  | .described path => path

/-- an answer, and what was asked for it -/
abbrev Served : Type := QHttpServerResponse × List FileAccess

def invalidFilename : QHttpServerResponse :=
  { data := ascii "Invalid filename", status := .BadRequest }

def notFound : QHttpServerResponse := { data := ascii "Not Found", status := .NotFound }

/-! ## the routes -/

section
variable (fs : FileSystem)

/-- the end of each route: a file that is not there is not found -/
def lookup (filePath : QString) (found : QHttpServerResponse) (access : FileAccess) : Served :=
  if !fs.fileExists filePath then (notFound, [.tested filePath])
  else (found, [.tested filePath, access])

namespace UploadRoute

/-- `GET /files/<arg>` -/
def getFile (uploadsDirectory arg : QString) : Served :=
  match sanitizePath arg with
  | none => (invalidFilename, [])
  | some safePath =>
    let safeFile := fileName safePath
    if !validName safeFile then (invalidFilename, [])
    else
      let filePath := uploadsDirectory ++ "/".toList ++ safeFile
      lookup fs filePath (fs.fromFile filePath) (.returned filePath)

/-- `HEAD /files/<arg>`, which does not check the name -/
def headFile (uploadsDirectory arg : QString) : Served :=
  match sanitizePath arg with
  | none => (invalidFilename, [])
  | some safePath =>
    let safeFile := fileName safePath
    let filePath := uploadsDirectory ++ "/".toList ++ safeFile
    lookup fs filePath
      { data := [], status := .Ok
        headers := [("Content-Length".toList, (toString (fs.size filePath)).toList)] }
      (.described filePath)

end UploadRoute

namespace StaticRoute

variable {Addr : Type} (toString : Addr → QString) (arg : QString → Int → QString)

/-- `/static/<arg>`; the path is that of the URL, from its first slash on -/
def serve (staticDirectory path : QString) (ip : Addr) (now later : Int) (limiter : RateLimiter) :
    Served × RateLimiter :=
  let (result, limiter) := RateLimiter.check toString arg limiter
    { addr := ip, msg := "Too many requests, retry after %1 seconds".toList, now, later }
  if !result.allowed then
    (({ data := toUtf8 result.msg, status := .TooManyRequests }, []), limiter)
  else match sanitizePath path with
    | none => (({ data := ascii "Invalid path", status := .BadRequest }, []), limiter)
    | some safePath =>
      let filePath := staticDirectory ++ "/".toList ++ safePath
      (lookup fs filePath (fs.fromFile filePath) (.returned filePath), limiter)

end StaticRoute

end

/-! ## what a path has in it -/

theorem containsText_iff {pat s : QString} : containsText pat s = true ↔ pat <:+: s := by
  unfold containsText
  induction s with
  | nil =>
    rw [List.infix_nil]
    rw [afterText]
    split
    · next h => simp [h]
    · next h => simp [h]
  | cons c s ih =>
    rw [List.infix_cons_iff, ← ih, ← List.isPrefixOf_iff_prefix, afterText]
    split
    · next h => simp [h]
    · next h => simp [h]

theorem sanitizePath_some {path safePath : QString} (h : sanitizePath path = some safePath) :
    safePath = path ∧ ¬ ['.', '.'] <:+: path := by
  unfold sanitizePath at h
  split at h
  · cases h
  · next hdots =>
    rw [containsText_iff] at hdots
    exact ⟨(Option.some.inj h).symm, hdots⟩

theorem fileName_suffix (path : QString) : fileName path <:+ path := List.rtakeWhile_suffix _ _

/-! ## staying inside -/

/-- the directory, or something below it -/
def Inside (root path : QString) : Prop := Paths.Inside '/' '.' root path

theorem inside_join {root path : QString} (hroot : root ≠ []) (h : ¬ ['.', '.'] <:+: path) :
    Inside root (root ++ "/".toList ++ path) := by
  rw [List.append_assoc]
  exact Paths.inside_of_no_dots hroot h

theorem uploadsDirectory_ne_nil (currentPath : QString) : g.uploadsDirectory currentPath ≠ [] :=
  List.append_ne_nil_of_right_ne_nil _ (by decide)

theorem staticDirectory_ne_nil (currentPath : QString) : g.staticDirectory currentPath ≠ [] :=
  List.append_ne_nil_of_right_ne_nil _ (by decide)

section
variable {fs : FileSystem} {root : QString}

/-- the last part of an accepted path has no two dots in a row -/
theorem no_dots_fileName {arg safePath : QString} (h : sanitizePath arg = some safePath) :
    ¬ ['.', '.'] <:+: fileName safePath := by
  obtain ⟨rfl, hdots⟩ := sanitizePath_some h
  exact fun hin => hdots (hin.trans (fileName_suffix safePath).isInfix)

theorem lookup_paths {path : QString} {found : QHttpServerResponse} {access a : FileAccess}
    (haccess : access.path = path) (ha : a ∈ (lookup fs path found access).2) : a.path = path := by
  unfold lookup at ha
  split at ha
  · rw [List.mem_singleton.mp ha]
    rfl
  · rcases List.mem_pair.mp ha with rfl | rfl
    · rfl
    · exact haccess

theorem getFile_paths (arg : QString) {a : FileAccess} (ha : a ∈ (UploadRoute.getFile fs root arg).2) :
    ∃ safePath, sanitizePath arg = some safePath ∧
      a.path = root ++ "/".toList ++ fileName safePath := by
  unfold UploadRoute.getFile at ha
  cases hsafe : sanitizePath arg with
  | none =>
    rw [hsafe] at ha
    cases ha
  | some safePath =>
    rw [hsafe] at ha
    dsimp only at ha
    split at ha
    · cases ha
    · exact ⟨safePath, rfl, lookup_paths rfl ha⟩

theorem headFile_paths (arg : QString) {a : FileAccess}
    (ha : a ∈ (UploadRoute.headFile fs root arg).2) :
    ∃ safePath, sanitizePath arg = some safePath ∧
      a.path = root ++ "/".toList ++ fileName safePath := by
  unfold UploadRoute.headFile at ha
  cases hsafe : sanitizePath arg with
  | none =>
    rw [hsafe] at ha
    cases ha
  | some safePath =>
    rw [hsafe] at ha
    exact ⟨safePath, rfl, lookup_paths rfl ha⟩

theorem static_paths {Addr : Type} {toString : Addr → QString} {arg : QString → Int → QString}
    (path : QString) {ip : Addr} {now later : Int} {limiter : RateLimiter} {a : FileAccess}
    (ha : a ∈ (StaticRoute.serve fs toString arg root path ip now later limiter).1.2) :
    ∃ safePath, sanitizePath path = some safePath ∧ a.path = root ++ "/".toList ++ safePath := by
  unfold StaticRoute.serve at ha
  dsimp only at ha
  split at ha
  · cases ha
  · cases hsafe : sanitizePath path with
    | none =>
      rw [hsafe] at ha
      cases ha
    | some safePath =>
      rw [hsafe] at ha
      exact ⟨safePath, rfl, lookup_paths rfl ha⟩

end

/-- **Served files stay inside their directory.**  Whatever the argument or the path, GET, HEAD and
the static route ask the file system only about paths inside it. -/
theorem served_inside {Addr : Type} (fs : FileSystem) (toString : Addr → QString)
    (arg : QString → Int → QString) (currentPath : QString) (file path : QString) (ip : Addr)
    (now later : Int) (limiter : RateLimiter) :
    (∀ a ∈ (UploadRoute.getFile fs (g.uploadsDirectory currentPath) file).2,
        Inside (g.uploadsDirectory currentPath) a.path) ∧
      (∀ a ∈ (UploadRoute.headFile fs (g.uploadsDirectory currentPath) file).2,
        Inside (g.uploadsDirectory currentPath) a.path) ∧
      ∀ a ∈ (StaticRoute.serve fs toString arg (g.staticDirectory currentPath) path ip now later
          limiter).1.2, Inside (g.staticDirectory currentPath) a.path := by
  refine ⟨fun a ha => ?_, fun a ha => ?_, fun a ha => ?_⟩
  · obtain ⟨safePath, hsafe, he⟩ := getFile_paths file ha
    rw [he]
    exact inside_join (uploadsDirectory_ne_nil currentPath) (no_dots_fileName hsafe)
  · obtain ⟨safePath, hsafe, he⟩ := headFile_paths file ha
    rw [he]
    exact inside_join (uploadsDirectory_ne_nil currentPath) (no_dots_fileName hsafe)
  · obtain ⟨safePath, hsafe, he⟩ := static_paths path ha
    obtain ⟨rfl, hdots⟩ := sanitizePath_some hsafe
    rw [he]
    exact inside_join (staticDirectory_ne_nil currentPath) hdots

/-! ## the files of a directory -/

/-- the file system that has these files in a directory, and nothing else -/
def FileSystem.ofUploads (root : QString) (files : Uploads) : FileSystem where
  fileExists path := path == root ++ "/".toList ++ fileName path && files.contains (fileName path)
  fromFile path :=
    match files[fileName path]? with
    | some content => { data := content, status := .Ok }
    | none => notFound
  size path := (files.getD (fileName path) []).length

/-- what stands after the last slash of a joined path -/
theorem fileName_join (dir path : QString) : fileName (dir ++ "/".toList ++ path) = fileName path := by
  unfold fileName
  have hslash : "/".toList = ['/'] := rfl
  induction path using List.reverseRecOn with
  | nil =>
    rw [hslash, List.append_nil, List.rtakeWhile_concat, List.rtakeWhile_nil]
    rfl
  | append_singleton path c ih =>
    rw [← List.append_assoc, List.rtakeWhile_concat, List.rtakeWhile_concat, ih]

theorem lookup_ofUploads {root name : QString} {files : Uploads} {access : FileAccess}
    (hname : validName name = true) :
    (lookup (.ofUploads root files) (root ++ "/".toList ++ name)
        ((FileSystem.ofUploads root files).fromFile (root ++ "/".toList ++ name)) access).1 =
      match files[name]? with
      | none => notFound
      | some content => { data := content, status := .Ok } := by
  have hfile : fileName (root ++ "/".toList ++ name) = name :=
    (fileName_join root name).trans (UploadRoute.fileName_of_validName hname)
  have hthere : (FileSystem.ofUploads root files).fileExists (root ++ "/".toList ++ name) =
      files[name]?.isSome := by
    show (_ == root ++ "/".toList ++ fileName (root ++ "/".toList ++ name) && files.contains _) = _
    rw [hfile, beq_self_eq_true, Bool.true_and, Std.ExtTreeMap.contains_eq_isSome_getElem?]
  have hcontent : (FileSystem.ofUploads root files).fromFile (root ++ "/".toList ++ name) =
      match files[name]? with
      | some content => { data := content, status := .Ok }
      | none => notFound := by
    show (match files[fileName (root ++ "/".toList ++ name)]? with | some _ => _ | none => _) = _
    rw [hfile]
  unfold lookup
  rw [hthere, hcontent]
  cases files[name]? with
  | none => rfl
  | some content => rfl

/-- **GET.**  On the paths of a directory the route does what it does on the files by their names. -/
theorem getFile_serve (root arg : QString) (files : Uploads) :
    (UploadRoute.getFile (.ofUploads root files) root arg).1 = UploadRoute.serve arg files := by
  unfold UploadRoute.getFile UploadRoute.serve
  cases sanitizePath arg with
  | none => rfl
  | some safePath =>
    dsimp only
    by_cases hvalid : validName (fileName safePath) = true
    · rw [hvalid, if_neg (by decide), if_neg (by decide)]
      exact lookup_ofUploads hvalid
    · rw [Bool.not_eq_true] at hvalid
      rw [hvalid, if_pos (by decide), if_pos (by decide)]
      rfl

end Web

end Chatripper
