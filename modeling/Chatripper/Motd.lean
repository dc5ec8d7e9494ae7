import Mathlib
import Chatripper.Irc.Commands

/-!
# The message of the day

A line is cut every 400 bytes, whatever stands there.

* `chunkLoop_ends`        the loop over a line ends, with the chunks;
* `chunks_utf8_iff`       the chunks are text if and only if no cut is inside a character;
* `motd_preserved_iff`    the replies hold the lines of the text.
-/

namespace Chatripper
open ByteStr Utf8

namespace client_connection
open World

/-- the loop of the source over `pos`; nothing when the steps do not suffice -/
def chunkLoop : Nat → Bytes → Nat → Option (List Bytes)
  | 0, _, _ => none
  | steps + 1, line, pos =>
    if pos < line.length then
      (chunkLoop steps line (pos + MAX_CONTENT_LEN)).map fun rest =>
        (line.drop pos).take MAX_CONTENT_LEN :: rest
    else some []

def motdLines (env : Env) : List Bytes :=
  split LF (if env.motd = [] then ascii "Welcome!" else env.motd)

/-- the content of a 372 -/
def motdReply (w : World) (c : ConnId) (content : Bytes) : Bytes :=
  ascii "372 " ++ w.nick c ++ ascii " :" ++ content

section
variable (env : Env) (c : ConnId) (w w' : World)

/-- the replies to MOTD are the lines of the text in pieces that are text of their own -/
def MotdPreserved : Prop := ∃ (contents : List (List Bytes)) (start stop : Bytes),
  w'.out = w.out ++ ((c, rawLine env (ascii "375 " ++ start)) ::
    contents.flatten.map (fun content => (c, rawLine env (motdReply w c content))) ++
      [(c, rawLine env (ascii "376 " ++ stop))]) ∧
    contents.map List.flatten = (motdLines env).map trimmed ∧
    ∀ pieces ∈ contents, ∀ content ∈ pieces,
      content ≠ [] ∧ content.length ≤ MAX_CONTENT_LEN ∧ IsUtf8 content

/-- no byte at a multiple of the length continues a character -/
def CutsBetween (text : Bytes) : Prop :=
  ∀ (i : Nat) (x : UInt8), text[i * MAX_CONTENT_LEN]? = some x → isTail x = false

end

/-! ## the chunks of a line -/

section
variable {line : Bytes}

/-- the first chunk, and those of what is left -/
theorem chunks_of_ne_nil (h : line ≠ []) :
    chunks line = line.take MAX_CONTENT_LEN :: chunks (line.drop MAX_CONTENT_LEN) := by
  have hpos := List.length_pos_of_ne_nil h
  have hcount : (line.length + (MAX_CONTENT_LEN - 1)) / MAX_CONTENT_LEN =
      ((line.drop MAX_CONTENT_LEN).length + (MAX_CONTENT_LEN - 1)) / MAX_CONTENT_LEN + 1 := by
    rw [List.length_drop]
    unfold MAX_CONTENT_LEN
    omega
  unfold chunks
  rw [hcount, List.range_succ_eq_map, List.map_cons, List.map_map]
  refine congrArg₂ _ (by rw [Nat.zero_mul]; rfl) (List.map_congr_left fun i _ => ?_)
  show (line.drop ((i + 1) * MAX_CONTENT_LEN)).take _ = ((line.drop MAX_CONTENT_LEN).drop (i * _)).take _
  rw [List.drop_drop, Nat.succ_mul, Nat.add_comm]

/-- what is shown of the chunks, from the empty line and one chunk at a time -/
theorem chunks_induction {P : Bytes → Prop} (nil : P []) (more : ∀ line, line ≠ [] →
    P (line.drop MAX_CONTENT_LEN) → P line) (line : Bytes) : P line := by
  induction hn : line.length using Nat.strong_induction_on generalizing line with
  | _ n ih =>
    by_cases h : line = []
    · exact h ▸ nil
    · refine more line h (ih _ ?_ _ rfl)
      have hpos := List.length_pos_of_ne_nil h
      rw [List.length_drop, ← hn]
      unfold MAX_CONTENT_LEN
      omega

theorem flatten_chunks (line : Bytes) : (chunks line).flatten = line := by
  induction line using chunks_induction with
  | nil => rfl
  | more line h ih => rw [chunks_of_ne_nil h, List.flatten_cons, ih, List.take_append_drop]

theorem chunk_size : ∀ content ∈ chunks line, content ≠ [] ∧ content.length ≤ MAX_CONTENT_LEN := by
  induction line using chunks_induction with
  | nil => exact fun _ h => absurd h List.not_mem_nil
  | more line h ih =>
    rw [chunks_of_ne_nil h, List.forall_mem_cons]
    refine ⟨⟨?_, List.length_take_le _ _⟩, ih⟩
    rw [Ne, List.take_eq_nil_iff]
    exact fun hor => hor.elim (by decide) h

/-- the loop ends with the chunks -/
theorem chunkLoop_ends {steps pos : Nat} (h : (chunks (line.drop pos)).length < steps) :
    chunkLoop steps line pos = some (chunks (line.drop pos)) := by
  induction steps generalizing pos with
  | zero => exact absurd h (Nat.not_lt_zero _)
  | succ steps ih =>
    unfold chunkLoop
    by_cases hpos : pos < line.length
    · have hne : line.drop pos ≠ [] := by
        rw [Ne, List.drop_eq_nil_iff]
        omega
      rw [chunks_of_ne_nil hne, List.length_cons, List.drop_drop] at h
      rw [if_pos hpos, ih (Nat.lt_of_succ_lt_succ h), chunks_of_ne_nil hne, List.drop_drop]
      rfl
    · rw [if_neg hpos, List.drop_eq_nil_of_le (Nat.not_lt.mp hpos)]
      rfl

/-- the chunks of a text are text if and only if no cut is inside a character -/
theorem chunks_utf8_iff (h : IsUtf8 line) :
    (∀ content ∈ chunks line, IsUtf8 content) ↔ CutsBetween line := by
  induction line using chunks_induction with
  | nil => exact iff_of_true (fun _ h => absurd h List.not_mem_nil) fun i x hx => by cases hx
  | more line hne ih =>
    have hsplit : IsUtf8 (line.take MAX_CONTENT_LEN ++ line.drop MAX_CONTENT_LEN) := by
      rw [List.take_append_drop]
      exact h
    -- the cuts of what is left are those of the line after the first
    have hcuts : CutsBetween line ↔ CutsBetween (line.drop MAX_CONTENT_LEN) := by
      unfold CutsBetween
      constructor
      · intro hc i x hx
        rw [List.getElem?_drop] at hx
        refine hc (i + 1) x ?_
        rw [← hx]
        congr 1
        ring
      · intro hc i x hx
        cases i with
        | zero =>
          rw [Nat.zero_mul, ← List.head?_eq_getElem?] at hx
          exact h.head x hx
        | succ i =>
          refine hc i x ?_
          rw [List.getElem?_drop, ← hx]
          congr 1
          ring
    rw [chunks_of_ne_nil hne, List.forall_mem_cons, hcuts]
    constructor
    · rintro ⟨hfirst, hrest⟩
      exact (ih (hfirst.right hsplit)).mp hrest
    · intro hc
      have hfirst : IsUtf8 (line.take MAX_CONTENT_LEN) := by
        refine hsplit.cut fun x hx => hc 0 x ?_
        rw [Nat.zero_mul, ← List.head?_eq_getElem?]
        exact hx
      exact ⟨hfirst, (ih (hfirst.right hsplit)).mpr hc⟩

end

/-! ## the replies -/

section
variable {env : Env} {c : ConnId} {w : World}

/-- lines that are sent one after the other -/
theorem out_sendAll (f : Bytes → Bytes) (l : List Bytes) (w : World) :
    (l.foldl (fun w x => send_raw env c (f x) w) w).out =
      w.out ++ l.map fun x => (c, rawLine env (f x)) := by
  induction l generalizing w with
  | nil => exact (List.append_nil _).symm
  | cons x l ih =>
    rw [List.foldl_cons, ih, List.map_cons]
    exact List.append_assoc _ _ _

theorem out_handleMOTD : (handleMOTD env c w).out = w.out ++ ((c, rawLine env (ascii "375 " ++
      (w.nick c ++ ascii " :- " ++ env.serverName ++ ascii " Message of the day -"))) ::
    ((motdLines env).map fun line => chunks (trimmed line)).flatten.map
      (fun content => (c, rawLine env (motdReply w c content))) ++
    [(c, rawLine env (ascii "376 " ++ (w.nick c ++ ascii " :End of MOTD command.")))]) := by
  unfold handleMOTD
  extract_lets _nick motd_text w1 w2
  have hw2 : w2.out = w1.out ++ ((motdLines env).flatMap fun line => chunks (trimmed line)).map
      fun content => (c, rawLine env (motdReply w c content)) := by
    rw [← out_sendAll, List.foldl_flatMap]
    rfl
  have hlast : (send_raw env c (ascii "376 " ++ _nick ++ ascii " :End of MOTD command.") w2).out =
      w2.out ++ [(c, rawLine env (ascii "376 " ++ _nick ++ ascii " :End of MOTD command."))] := rfl
  rw [hlast, hw2, ← List.flatMap_def]
  have hw1 : w1.out = w.out ++ [(c, rawLine env (ascii "375 " ++ _nick ++ ascii " :- " ++
    env.serverName ++ ascii " Message of the day -"))] := rfl
  rw [hw1]
  simp only [List.append_assoc, List.cons_append]
  rfl

/-- contents that are the same in all replies are the same -/
theorem contents_inj {l l' : List Bytes}
    (h : l.map (fun content => (c, rawLine env (motdReply w c content))) =
      l'.map fun content => (c, rawLine env (motdReply w c content))) : l = l' := by
  refine List.map_injective_iff.mpr (fun x y he => ?_) h
  have hreply := rawLine_inj (congrArg Prod.snd he)
  exact List.append_cancel_left hreply

theorem isUtf8_motdLines (h : IsUtf8 env.motd) : ∀ line ∈ motdLines env, IsUtf8 (trimmed line) := by
  intro line hline
  refine IsUtf8.trimmed (IsUtf8.of_mem_split (by decide) ?_ hline)
  split
  · exact IsUtf8.of_ascii (by decide +kernel)
  · exact h

/-- the replies cut the lines between characters when they hold text -/
theorem cuts_of_preserved (h : IsUtf8 env.motd) (hp : MotdPreserved env c w (handleMOTD env c w)) :
    ∀ line ∈ motdLines env, CutsBetween (trimmed line) := by
  obtain ⟨contents, start, stop, hout, -, hpieces⟩ := hp
  rw [out_handleMOTD] at hout
  have hflat := (List.append_inj' (List.cons.inj (List.append_cancel_left hout)).2 rfl).1
  have hcontents := contents_inj hflat
  intro line hline
  refine (chunks_utf8_iff (isUtf8_motdLines h line hline)).mp fun content hcontent => ?_
  have hmem : content ∈ contents.flatten := by
    rw [← hcontents]
    exact List.mem_flatten_of_mem (List.mem_map_of_mem hline) hcontent
  obtain ⟨pieces, hin, hcontent⟩ := List.mem_flatten.mp hmem
  exact (hpieces pieces hin content hcontent).2.2

/-- **MOTD is sent as it is**, if and only if no line has a character across a multiple of 400 bytes. -/
theorem motd_preserved_iff (h : IsUtf8 env.motd) :
    (∀ line ∈ motdLines env, ∃ steps, chunkLoop steps (trimmed line) 0 = some (chunks (trimmed line))) ∧
    (MotdPreserved env c w (handleMOTD env c w) ↔
      ∀ line ∈ motdLines env, CutsBetween (trimmed line)) := by
  refine ⟨fun line _ => ⟨_, chunkLoop_ends (Nat.lt_succ_self _)⟩, cuts_of_preserved h, fun hcuts => ?_⟩
  refine ⟨(motdLines env).map fun line => chunks (trimmed line), _, _, out_handleMOTD, ?_, ?_⟩
  · rw [List.map_map]
    exact List.map_congr_left fun line _ => flatten_chunks _
  · intro pieces hpieces content hcontent
    obtain ⟨line, hline, rfl⟩ := List.mem_map.mp hpieces
    obtain ⟨hne, hsize⟩ := chunk_size content hcontent
    exact ⟨hne, hsize, (chunks_utf8_iff (isUtf8_motdLines h line hline)).mpr (hcuts line hline)
      content hcontent⟩

end

/-- a line of 399 ASCII bytes and a character of two -/
def longLine : Env := { Env.ascii with motd := List.replicate 399 120 ++ [0xC3, 0xA9] }

/-- the first reply ends inside the character -/
theorem motd_cut : IsUtf8 longLine.motd ∧
    ¬MotdPreserved longLine 0 World.empty (handleMOTD longLine 0 World.empty) := by
  have htext : IsUtf8 longLine.motd :=
    IsUtf8.append (IsUtf8.of_ascii fun x hx => by rw [List.eq_of_mem_replicate hx]; decide)
      ⟨[Char.ofNat 0xE9], by decide⟩
  refine ⟨htext, fun h => ?_⟩
  have hline : longLine.motd ∈ motdLines longLine := by decide +kernel
  have hcut := cuts_of_preserved htext h _ hline 1 0xA9 (by decide +kernel)
  cases hcut

theorem motd_preserved_iff_welcome :
    (∀ line ∈ motdLines Env.ascii, ∃ steps,
      chunkLoop steps (trimmed line) 0 = some (chunks (trimmed line))) ∧
    (MotdPreserved Env.ascii 0 World.empty (handleMOTD Env.ascii 0 World.empty) ↔
      ∀ line ∈ motdLines Env.ascii, CutsBetween (trimmed line)) :=
  motd_preserved_iff (show IsUtf8 Env.ascii.motd from IsUtf8.nil)

end client_connection
end Chatripper
