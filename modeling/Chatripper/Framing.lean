import Mathlib
import Chatripper.Irc.Transport

/-!
# Framing

However the stream of a client is cut into deliveries, the server runs the lines of the whole
stream.  The buffer between two deliveries is the remainder of what has come so far, which is the
invariant of the run.

* `run_onReadyRead`   a run without overflow is the whole stream at once;
* `framing`           what is parsed, what is left, and that the cuts do not matter.
-/

namespace Chatripper
open ByteStr Lines Outcome

namespace client_connection

section
variable {env : Env} {c : ConnId}

/-- a run without overflow, from a buffer without a complete line -/
theorem run_onReadyRead {wire : Wire} {ds : List Bytes} (hbuf : LF ∉ wire.m_buffer)
    (hno : AllSteps (onReadyRead env c) (fun wire d => overflows wire d = false) wire ds) :
    run (onReadyRead env c) wire ds = wholeStream env c wire (wire.m_buffer ++ ds.flatten) := by
  induction ds generalizing wire with
  | nil =>
    rw [List.flatten_nil, List.append_nil, wholeStream_of_not_mem hbuf]
    rfl
  | cons d ds ih =>
    have hstep : onReadyRead env c wire d = wholeStream env c wire (wire.m_buffer ++ d) :=
      onReadyRead_eq hno.1
    rw [run_cons, hstep, List.flatten_cons, ← List.append_assoc,
      wholeStream_append wire (wire.m_buffer ++ d) ds.flatten]
    cases hone : wholeStream env c wire (wire.m_buffer ++ d) with
    | error e => rfl
    | ok wire' =>
      have hrest : LF ∉ wire'.m_buffer := by
        rw [wholeStream_buffer hone]
        exact not_mem_remainder _
      exact ih hrest (hno.2 wire' (hstep.trans hone))

/-- a short stream does not overflow, whatever the deliveries are -/
theorem noOverflow_of_short {wire : Wire} {ds : List Bytes}
    (h : (wire.m_buffer ++ ds.flatten).length ≤ MAX_BUFFER_SIZE) :
    AllSteps (onReadyRead env c) (fun wire d => overflows wire d = false) wire ds := by
  induction ds generalizing wire with
  | nil => trivial
  | cons d ds ih =>
    rw [List.flatten_cons, ← List.append_assoc, List.length_append] at h
    have hno : overflows wire d = false := by
      unfold overflows
      rw [readAvailable_of_le (by omega)]
      rfl
    refine ⟨hno, fun wire' hstep => ih ?_⟩
    rw [onReadyRead_eq hno] at hstep
    have hle := length_remainder_le LF (wire.m_buffer ++ d)
    rw [wholeStream_buffer hstep, List.length_append]
    omega

/-- **Framing.**  When no delivery overflows, the run is that of the whole stream: the lines handed
to `parseIncoming` are the lines of the stream, each without one trailing CR, and the buffer is what
follows the last newline.  Another way to cut the stream gives the same run. -/
theorem framing {w : World} {ds : List Bytes}
    (hno : AllSteps (onReadyRead env c) (fun wire d => overflows wire d = false)
      { world := w } ds) :
    run (onReadyRead env c) { world := w } ds = wholeStream env c { world := w } ds.flatten ∧
    (∀ wire', run (onReadyRead env c) { world := w } ds = .ok wire' →
      wire'.parsed = (lines LF ds.flatten).map chopCR ∧
      wire'.m_buffer = remainder LF ds.flatten) ∧
    ds.flatten = (lines LF ds.flatten).flatMap (fun l => l ++ [LF]) ++ remainder LF ds.flatten ∧
    ∀ es : List Bytes, es.flatten = ds.flatten →
      AllSteps (onReadyRead env c) (fun wire d => overflows wire d = false) { world := w } es →
      run (onReadyRead env c) { world := w } es = run (onReadyRead env c) { world := w } ds := by
  have hempty : LF ∉ ({ world := w } : Wire).m_buffer := List.not_mem_nil
  have hrun := run_onReadyRead hempty hno
  rw [List.nil_append] at hrun
  refine ⟨hrun, fun wire' h => ?_, stream_eq _, fun es hes hno' => ?_⟩
  · rw [hrun] at h
    obtain ⟨w', -, h⟩ := bind_eq_ok.mp h
    cases h
    exact ⟨rfl, rfl⟩
  · rw [hrun, run_onReadyRead hempty hno', hes]
    rfl

end

/-- a line in three deliveries, its CR and its LF apart -/
def cutNick : List Bytes := [ascii "NICK an", ascii "n\r", ascii "\nCAP E"]

set_option maxRecDepth 8000 in
/-- the cuts do not matter -/
theorem framing_cutNick : ∃ wire : Wire,
    run (onReadyRead Env.ascii 0) { world := Worker.handleConnection false [] World.empty }
      cutNick = .ok wire ∧
    run (onReadyRead Env.ascii 0) { world := Worker.handleConnection false [] World.empty }
      [ascii "NICK ann\r\nCAP E"] = .ok wire ∧
    wire.parsed = [ascii "NICK ann"] ∧ wire.m_buffer = ascii "CAP E" := by
  have hshort : ([] ++ cutNick.flatten : Bytes).length ≤ MAX_BUFFER_SIZE := by decide
  have hsame : ([ascii "NICK ann\r\nCAP E"] : List Bytes).flatten = cutNick.flatten := rfl
  have hstream : ∃ wire, wholeStream Env.ascii 0
      { world := Worker.handleConnection false [] World.empty } cutNick.flatten = .ok wire :=
    ⟨_, rfl⟩
  obtain ⟨wire, hwire⟩ := hstream
  obtain ⟨hrun, hend, -, hcut⟩ := framing (noOverflow_of_short hshort)
  rw [hwire] at hrun
  obtain ⟨hparsed, hbuf⟩ := hend wire hrun
  have hone := hcut _ hsame (noOverflow_of_short (by rw [hsame]; exact hshort))
  exact ⟨wire, hrun, hone.trans hrun, hparsed, hbuf⟩

end client_connection

end Chatripper
