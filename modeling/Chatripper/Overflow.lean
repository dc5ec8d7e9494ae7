import Mathlib
import Chatripper.Framing

/-!
# Overflow

The read loop looks at the size of the buffer before any line is taken out.  It overflows when what
waits for its newline and the next delivery are too long together, however short the lines are.

* `overflows_iff`     one delivery;
* `no_overflow_iff`   the deliveries of a stream.
-/

namespace Chatripper
open ByteStr Lines Outcome

namespace client_connection

section
variable {env : Env} {c : ConnId} {wire : Wire}

/-! ## one delivery -/

theorem readAvailable_le {buf avail buf' : Bytes} (hbuf : buf.length ≤ MAX_BUFFER_SIZE)
    (h : readAvailable buf avail = some buf') : buf'.length ≤ MAX_BUFFER_SIZE := by
  induction buf, avail using readAvailable.induct with
  | case1 buf =>
    rw [readAvailable, if_pos rfl] at h
    cases h
    exact hbuf
  | case2 buf avail hne _ hlong =>
    rw [readAvailable, if_neg hne, if_pos hlong] at h
    cases h
  | case3 buf avail hne _ hlong ih =>
    rw [readAvailable, if_neg hne, if_neg hlong] at h
    exact ih (Nat.not_lt.mp hlong) h

/-- **A delivery** overflows when it and the buffer are too long together. -/
theorem overflows_iff {available : Bytes} (hbuf : wire.m_buffer.length ≤ MAX_BUFFER_SIZE) :
    overflows wire available = false ↔
      wire.m_buffer.length + available.length ≤ MAX_BUFFER_SIZE := by
  rw [← List.length_append]
  unfold overflows
  constructor
  · intro h
    cases hread : readAvailable wire.m_buffer available with
    | none =>
      rw [hread] at h
      cases h
    | some buf =>
      rw [← readAvailable_some hread]
      exact readAvailable_le hbuf hread
  · intro h
    rw [readAvailable_of_le h]
    rfl

theorem onReadyRead_buffer {wire' : Wire} {d : Bytes} (hno : overflows wire d = false)
    (h : onReadyRead env c wire d = .ok wire') :
    wire'.m_buffer = remainder LF (wire.m_buffer ++ d) := by
  rw [onReadyRead_eq hno] at h
  exact wholeStream_buffer h

end

/-! ## the deliveries of a stream -/

section
variable (env : Env) (c : ConnId)

/-- no delivery takes the overflow branch -/
def NoOverflow (wire : Wire) (ds : List Bytes) : Prop :=
  AllSteps (onReadyRead env c) (fun wire d => overflows wire d = false) wire ds

/-- each delivery fits behind what waits for its newline, if no earlier line has stopped the server -/
def Fits (wire : Wire) (ds : List Bytes) : Prop :=
  ∀ pre d post, ds = pre ++ d :: post → (∃ wire', run (onReadyRead env c) wire pre = .ok wire') →
    (remainder LF (wire.m_buffer ++ pre.flatten)).length + d.length ≤ MAX_BUFFER_SIZE

end

section
variable {env : Env} {c : ConnId} {wire : Wire}

theorem noOverflow_iff_fits {ds : List Bytes} (hline : LF ∉ wire.m_buffer)
    (hbuf : wire.m_buffer.length ≤ MAX_BUFFER_SIZE) :
    NoOverflow env c wire ds ↔ Fits env c wire ds := by
  induction ds generalizing wire with
  | nil => exact iff_of_true trivial fun pre d post h => absurd h.symm (by simp)
  | cons d ds ih =>
    have hfirst : overflows wire d = false ↔
        (remainder LF (wire.m_buffer ++ [].flatten)).length + d.length ≤ MAX_BUFFER_SIZE := by
      rw [List.flatten_nil, List.append_nil, remainder_of_not_mem hline]
      exact overflows_iff hbuf
    -- what a delivery that fits leaves, the others find
    have hnext {wire' : Wire} (hno : overflows wire d = false)
        (hstep : onReadyRead env c wire d = .ok wire') :
        (NoOverflow env c wire' ds ↔ Fits env c wire' ds) ∧ ∀ pre : List Bytes,
          remainder LF (wire'.m_buffer ++ pre.flatten) =
            remainder LF (wire.m_buffer ++ (d :: pre).flatten) := by
      have hrest : wire'.m_buffer = remainder LF (wire.m_buffer ++ d) := onReadyRead_buffer hno hstep
      have hle := length_remainder_le LF (wire.m_buffer ++ d)
      rw [← hrest, List.length_append] at hle
      refine ⟨ih ?_ (hle.trans ((overflows_iff hbuf).mp hno)), fun pre => ?_⟩
      · rw [hrest]
        exact not_mem_remainder _
      · rw [List.flatten_cons, ← List.append_assoc, remainder_append (wire.m_buffer ++ d), hrest]
    constructor
    · rintro ⟨hno, hall⟩ pre x post hds ⟨wire2, hrun⟩
      cases pre with
      | nil =>
        cases hds
        exact hfirst.mp hno
      | cons y pre =>
        cases hds
        rw [run_cons] at hrun
        obtain ⟨wire', hstep, hrun⟩ := bind_eq_ok.mp hrun
        obtain ⟨hiff, hsame⟩ := hnext hno hstep
        rw [← hsame]
        exact hiff.mp (hall wire' hstep) pre x post rfl ⟨wire2, hrun⟩
    · intro hfits
      have hno : overflows wire d = false := hfirst.mpr (hfits [] d ds rfl ⟨wire, rfl⟩)
      refine ⟨hno, fun wire' hstep => ?_⟩
      obtain ⟨hiff, hsame⟩ := hnext hno hstep
      refine hiff.mpr fun pre x post hds ⟨wire2, hrun⟩ => ?_
      rw [hsame]
      refine hfits (d :: pre) x post (by rw [hds]; rfl) ⟨wire2, ?_⟩
      rw [run_cons, hstep]
      exact hrun

/-- **No delivery overflows**, if and only if each fits behind what waits for its newline. -/
theorem no_overflow_iff {w : World} {ds : List Bytes} :
    NoOverflow env c { world := w } ds ↔ Fits env c { world := w } ds :=
  noOverflow_iff_fits List.not_mem_nil (Nat.zero_le _)

end

/-! ## short lines -/

/-- no line is longer than the buffer, its newline included, the last one without a newline neither -/
def ShortLines (stream : Bytes) : Prop :=
  (∀ l ∈ lines LF stream, l.length + 1 ≤ MAX_BUFFER_SIZE) ∧
    (remainder LF stream).length ≤ MAX_BUFFER_SIZE

/-- many lines in one delivery -/
def pings : Bytes := (List.replicate 205 (ascii "PING" ++ [LF])).flatten

theorem pings_overflow : ShortLines pings ∧
    ¬ ∀ (env : Env) (c : ConnId) (w : World) (ds : List Bytes), ShortLines ds.flatten →
      NoOverflow env c { world := w } ds := by
  have hping : LF ∉ ascii "PING" := by decide
  obtain ⟨hlines, hrest⟩ := lines_replicate hping 205
  have hshort : ShortLines pings := by
    constructor
    · intro l hl
      unfold pings at hl
      rw [hlines] at hl
      rw [List.eq_of_mem_replicate hl]
      decide
    · unfold pings
      rw [hrest]
      exact Nat.zero_le _
  refine ⟨hshort, fun h => ?_⟩
  have hno := h Env.ascii 0 World.empty [pings] (by rwa [List.flatten_singleton])
  have hfits := no_overflow_iff.mp hno [] pings [] rfl ⟨_, rfl⟩
  have hlength : pings.length = 1025 := by
    unfold pings
    rw [List.length_flatten, List.map_replicate, List.sum_replicate]
    rfl
  rw [hlength] at hfits
  exact absurd (Nat.le_trans (Nat.le_add_left _ _) hfits) (by decide)

end client_connection

end Chatripper
