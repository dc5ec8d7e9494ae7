import Mathlib
import Chatripper.Lib.Lines
import Chatripper.Irc.Worker

/-!
# From the socket to lines

A `Wire` is the TCP side of a connection: the bytes that wait for a newline, and the server behind.
`onReadyRead` reads what the socket has, in chunks, and hands every complete line to
`parseIncoming`; too much data without a newline loses the connection.

* `readAvailable_some`   the read loop appends all that is there;
* `drain_eq`             the second loop runs the lines of the buffer and keeps the remainder;
* `wholeStream_append`   a stream may be cut anywhere.
-/

namespace Chatripper
open ByteStr Lines Outcome

structure Wire where
  m_buffer : Bytes := []
  world : World
  /-- ghost: the lines handed to `parseIncoming` -/
  parsed : List Bytes := []

namespace client_connection

def CHUNK_SIZE : Nat := 1024
def MAX_BUFFER_SIZE : Nat := 1024

/-- `endsWith('\r')` and `chop(1)` -/
def chopCR (raw : Bytes) : Bytes := if raw.getLast? = some CR then raw.dropLast else raw

/-- the first loop of `onReadyRead`: the buffer, or nothing once it is too long -/
def readAvailable (m_buffer available : Bytes) : Option Bytes :=
  if available = [] then some m_buffer
  else
    let m_buffer := m_buffer ++ available.take CHUNK_SIZE
    if m_buffer.length > MAX_BUFFER_SIZE then none
    else readAvailable m_buffer (available.drop CHUNK_SIZE)
termination_by available.length
decreasing_by
  have hpos : 0 < available.length := List.length_pos_iff.mpr ‹¬available = []›
  rw [List.length_drop, CHUNK_SIZE]
  omega

/-- the second loop of `onReadyRead` -/
def drain (env : Env) (c : ConnId) (wire : Wire) : Except Fault Wire :=
  match h : indexOf LF wire.m_buffer with
  | none => .ok wire
  | some n => do
    let raw := chopCR (wire.m_buffer.take n)
    let m_buffer := wire.m_buffer.drop (n + 1)
    let world ← parseIncoming env c raw wire.world
    drain env c { m_buffer := m_buffer, world := world, parsed := wire.parsed ++ [raw] }
termination_by wire.m_buffer.length
decreasing_by
  have hlen := congrArg List.length (indexOf_some h).2
  simp at hlen ⊢
  omega

/-- the socket has `available` to read -/
def onReadyRead (env : Env) (c : ConnId) (wire : Wire) (available : Bytes) : Except Fault Wire :=
  match readAvailable wire.m_buffer available with
  | none => .ok { wire with m_buffer := [], world := onSocketDisconnected c wire.world }
  | some m_buffer => drain env c { wire with m_buffer := m_buffer }

/-! ## the two loops -/

theorem readAvailable_some {buf avail buf' : Bytes} (h : readAvailable buf avail = some buf') :
    buf' = buf ++ avail := by
  induction buf, avail using readAvailable.induct with
  | case1 buf =>
    rw [readAvailable, if_pos rfl] at h
    cases h
    rw [List.append_nil]
  | case2 buf avail hne _ hlong =>
    rw [readAvailable, if_neg hne, if_pos hlong] at h
    cases h
  | case3 buf avail hne _ hlong ih =>
    rw [readAvailable, if_neg hne, if_neg hlong] at h
    rw [ih h, List.append_assoc, List.take_append_drop]

theorem readAvailable_of_le {buf avail : Bytes} (h : (buf ++ avail).length ≤ MAX_BUFFER_SIZE) :
    readAvailable buf avail = some (buf ++ avail) := by
  by_cases hne : avail = []
  · rw [readAvailable, if_pos hne, hne, List.append_nil]
  · have hchunk : avail.length ≤ CHUNK_SIZE := by
      rw [List.length_append] at h
      unfold MAX_BUFFER_SIZE at h
      unfold CHUNK_SIZE
      omega
    rw [readAvailable, if_neg hne, List.take_of_length_le hchunk, List.drop_of_length_le hchunk,
      if_neg (by omega), readAvailable, if_pos rfl]

section
variable {env : Env} {c : ConnId}

/-- lines one after the other -/
def parseLines (env : Env) (c : ConnId) (ls : List Bytes) (w : World) : Except Fault World :=
  ls.foldlM (fun w line => parseIncoming env c line w) w

theorem parseLines_cons (line : Bytes) (ls : List Bytes) (w : World) :
    parseLines env c (line :: ls) w = parseIncoming env c line w >>= parseLines env c ls :=
  List.foldlM_cons

theorem parseLines_append (ls ms : List Bytes) (w : World) :
    parseLines env c (ls ++ ms) w = parseLines env c ls w >>= parseLines env c ms :=
  List.foldlM_append

theorem drain_of_not_mem {wire : Wire} (h : LF ∉ wire.m_buffer) : drain env c wire = .ok wire := by
  rw [drain]
  split
  · rfl
  · next n hn => rw [indexOf_none.mpr h] at hn; cases hn

theorem drain_line {p r : Bytes} (h : LF ∉ p) (w : World) (parsed : List Bytes) :
    drain env c ⟨p ++ LF :: r, w, parsed⟩ =
      parseIncoming env c (chopCR p) w >>= fun w => drain env c ⟨r, w, parsed ++ [chopCR p]⟩ := by
  rw [drain]
  split
  · next hn => rw [indexOf_append h] at hn; cases hn
  · next n hn =>
    rw [indexOf_append h] at hn
    cases hn
    have htake : (p ++ LF :: r).take p.length = p := List.take_left' rfl
    have hdrop : (p ++ LF :: r).drop (p.length + 1) = r := by
      rw [← List.drop_drop, List.drop_left' rfl]
      rfl
    dsimp only
    rw [htake, hdrop]

/-- the lines of a stream, each without one trailing CR, in their order; what follows the last
newline waits -/
def wholeStream (env : Env) (c : ConnId) (wire : Wire) (stream : Bytes) : Except Fault Wire := do
  let raws := (lines LF stream).map chopCR
  let world ← parseLines env c raws wire.world
  .ok { m_buffer := remainder LF stream, world := world, parsed := wire.parsed ++ raws }

theorem wholeStream_of_not_mem {stream : Bytes} (h : LF ∉ stream) (wire : Wire) :
    wholeStream env c wire stream = .ok { wire with m_buffer := stream } := by
  unfold wholeStream
  rw [lines_of_not_mem h, remainder_of_not_mem h]
  show Except.ok (⟨stream, wire.world, wire.parsed ++ []⟩ : Wire) = _
  rw [List.append_nil]

theorem wholeStream_line {p : Bytes} (h : LF ∉ p) (r : Bytes) (wire : Wire) :
    wholeStream env c wire (p ++ LF :: r) =
      parseIncoming env c (chopCR p) wire.world >>= fun w =>
        wholeStream env c { wire with world := w, parsed := wire.parsed ++ [chopCR p] } r := by
  unfold wholeStream
  rw [lines_line h, remainder_line h, List.map_cons]
  dsimp only
  rw [parseLines_cons]
  cases parseIncoming env c (chopCR p) wire.world with
  | error e => rfl
  | ok w1 =>
    simp only [List.append_assoc, List.singleton_append]
    rfl

/-- what is left of the first part goes in front of the second -/
theorem wholeStream_append (wire : Wire) (a b : Bytes) :
    wholeStream env c wire (a ++ b) =
      wholeStream env c wire a >>= fun wire => wholeStream env c wire (wire.m_buffer ++ b) := by
  induction a using cut_induction LF generalizing wire with
  | hnone p hp =>
    rw [wholeStream_of_not_mem hp]
    rfl
  | hline p r hp ih =>
    rw [List.append_assoc, List.cons_append, wholeStream_line hp, wholeStream_line hp]
    cases parseIncoming env c (chopCR p) wire.world with
    | error e => rfl
    | ok w1 => exact ih _

theorem wholeStream_buffer {wire wire' : Wire} {stream : Bytes}
    (h : wholeStream env c wire stream = .ok wire') : wire'.m_buffer = remainder LF stream := by
  obtain ⟨w1, -, h⟩ := bind_eq_ok.mp h
  cases h
  rfl

/-- **The drain loop** runs the lines of the buffer and leaves what follows the last newline. -/
theorem drain_eq (wire : Wire) : drain env c wire = wholeStream env c wire wire.m_buffer := by
  obtain ⟨buf, w, parsed⟩ := wire
  induction buf using cut_induction LF generalizing w parsed with
  | hnone p hp => rw [drain_of_not_mem hp, wholeStream_of_not_mem hp]
  | hline p r hp ih =>
    rw [drain_line hp, wholeStream_line hp]
    cases parseIncoming env c (chopCR p) w with
    | error e => rfl
    | ok w1 => exact ih w1 _

/-! ## deliveries -/

/-- the read loop takes its overflow branch -/
def overflows (wire : Wire) (available : Bytes) : Bool :=
  (readAvailable wire.m_buffer available).isNone

theorem onReadyRead_eq {wire : Wire} {available : Bytes}
    (h : overflows wire available = false) :
    onReadyRead env c wire available = wholeStream env c wire (wire.m_buffer ++ available) := by
  unfold onReadyRead
  cases hread : readAvailable wire.m_buffer available with
  | none =>
    have hover : overflows wire available = true := by
      unfold overflows
      rw [hread]
      rfl
    rw [h] at hover
    cases hover
  | some buf =>
    have hbuf : buf = wire.m_buffer ++ available := readAvailable_some hread
    dsimp only
    rw [drain_eq, hbuf]
    rfl

end

end client_connection

end Chatripper
