import Mathlib
import Chatripper.Irc.Dispatch

/-!
# Splitting a line

A line is a command, middle parameters and perhaps a trailing one, each after a space and the
trailing one after a colon too.  The colon is looked for with a space before it behind the space
that ends the command, and a trailing parameter without bytes is dropped.

* `indexOfSub_middles`   the first marker behind middle parameters is that of the trailing one;
* `split_irc_first`      a trailing parameter right after the command is taken for a middle one;
* `split_irc_iff`        the lines that are split into what they were made of.
-/

namespace Chatripper
open ByteStr

namespace client_connection

/-! ## the grammar -/

/-- a message without its end of line: the command, the middle parameters, and the trailing one
after its colon -/
structure Message where
  command : Bytes
  middles : List Bytes
  trailing : Option Bytes
  command_ne : command ≠ []
  command_space : SP ∉ command
  middle : ∀ m ∈ middles, m ≠ [] ∧ SP ∉ m ∧ m.head? ≠ some 58
  oneLine : ∀ t, trailing = some t → CR ∉ t ∧ LF ∉ t

namespace Message
variable (msg : Message)

/-- the text of a trailing parameter -/
def marked (trailing : Option Bytes) : Bytes := trailing.elim [] fun t => SP :: 58 :: t

def text : Bytes :=
  msg.command ++ msg.middles.flatMap (fun m => SP :: m) ++ marked msg.trailing

def params : List Bytes := msg.command :: msg.middles ++ msg.trailing.toList

end Message

/-! ## parameters -/

/-- the middle parameters without the first space -/
theorem middles_text (m : Bytes) (ms : List Bytes) :
    (m :: ms).flatMap (fun m => SP :: m) = SP :: join [SP] (m :: ms) := by
  induction ms generalizing m with
  | nil => simp [join, List.intercalate]
  | cons n ms ih =>
    rw [List.flatMap_cons, ih]
    unfold join
    rw [List.intercalate_cons_cons]
    simp

/-- no marker is before that of the trailing parameter -/
theorem indexOfSub_middles {ms : List Bytes} (h : ∀ m ∈ ms, m ≠ [] ∧ SP ∉ m ∧ m.head? ≠ some 58)
    (hne : ms ≠ []) (r : Bytes) :
    indexOfSub [SP, 58] (join [SP] ms ++ SP :: 58 :: r) = some (join [SP] ms).length ∧
      indexOfSub [SP, 58] (join [SP] ms) = none := by
  induction ms with
  | nil => exact absurd rfl hne
  | cons m ms ih =>
    obtain ⟨⟨-, hspace, -⟩, htail⟩ := List.forall_mem_cons.mp h
    cases ms with
    | nil =>
      have hone : join [SP] [m] = m := join_singleton
      rw [hone]
      exact ⟨indexOfSub_append hspace r, indexOfSub_none hspace⟩
    | cons n ms =>
      obtain ⟨hfound, hnone⟩ := ih htail (List.cons_ne_nil n ms)
      obtain ⟨rest, hrest⟩ : ∃ rest, rest = join [SP] (n :: ms) := ⟨_, rfl⟩
      have hjoin : join [SP] (m :: n :: ms) = m ++ SP :: rest := by
        rw [hrest, join_cons_of_ne_nil (List.cons_ne_nil n ms), List.append_assoc]
        rfl
      obtain ⟨hn, -, hcolon⟩ := htail n List.mem_cons_self
      have hhead (q : Bytes) : (rest ++ q).head? ≠ some 58 := by
        cases n with
        | nil => exact absurd rfl hn
        | cons b n =>
          have hb : ((rest ++ q).head? : Option UInt8) = some b := by
            rw [hrest]
            unfold join
            cases ms with
            | nil => rfl
            | cons o ms => rfl
          rw [hb]
          exact hcolon
      rw [← hrest] at hfound hnone
      have hskip := indexOfSub_skip (y := 58) hspace (hhead [])
      rw [List.append_nil] at hskip
      rw [hjoin, List.append_assoc, List.cons_append, indexOfSub_skip hspace (hhead _), hfound, hskip,
        hnone]
      refine ⟨?_, rfl⟩
      rw [Option.map_some, List.length_append, List.length_cons, Nat.add_comm, Nat.add_right_comm]
      congr 1

/-! ## splitting -/

/-- what is split of the text after a command -/
theorem split_irc_command {cmd rest : Bytes} (h : SP ∉ cmd) :
    split_irc (cmd ++ SP :: rest) = cmd :: match indexOfSub [SP, 58] rest with
      | none => (split SP rest).filter (· != [])
      | some colon => (split SP (rest.take colon)).filter (· != []) ++
          if rest.drop (colon + 2) = [] then [] else [rest.drop (colon + 2)] := by
  have htake : (cmd ++ SP :: rest).take cmd.length = cmd := List.take_left' rfl
  have hdrop : (cmd ++ SP :: rest).drop (cmd.length + 1) = rest := by
    rw [← List.drop_drop, List.drop_left' rfl]
    rfl
  unfold split_irc
  rw [indexOf_append h]
  dsimp only
  rw [htake, hdrop]
  cases indexOfSub [SP, 58] rest with
  | none => exact congrArg (cmd :: ·) (List.append_nil _)
  | some colon => rfl

theorem filter_middles {ms : List Bytes} (h : ∀ m ∈ ms, m ≠ []) : ms.filter (· != []) = ms :=
  List.filter_eq_self.mpr fun m hm => by simpa using h m hm

/-- a trailing parameter right after the command is taken for a middle one -/
theorem split_irc_first {cmd t : Bytes} (h : SP ∉ cmd) :
    split_irc (cmd ++ SP :: 58 :: t) ≠ [cmd, t] := by
  rw [split_irc_command h]
  intro heq
  have heq := List.cons.inj heq |>.2
  -- the first piece starts with the colon, and is what should be `t`
  have hfirst (v : Bytes) (tl : List Bytes)
      (hv : (split SP (58 :: v)).filter (· != []) ++ tl = [t]) : SP ∉ t := by
    have hpieces : split SP (58 :: v) = (split SP v).modifyHead (58 :: ·) := by
      unfold split
      rw [List.splitOn_cons_eq_if_modifyHead, if_neg (by decide)]
    cases hs : split SP v with
    | nil => exact absurd hs (List.splitOn_ne_nil SP v)
    | cons p ps =>
      have hmem : 58 :: p ∈ split SP (58 :: v) := by
        rw [hpieces, hs]
        exact List.mem_cons_self
      rw [hpieces, hs, List.modifyHead_cons, List.filter_cons_of_pos (by simp)] at hv
      rw [← (List.cons.inj hv).1]
      exact not_mem_of_mem_split hmem
  have hspace : SP ∉ t := by
    split at heq
    · exact hfirst t [] (by rw [List.append_nil]; exact heq)
    · rename_i colon hcolon
      cases colon with
      | zero =>
        rw [indexOfSub, if_neg (by simp [List.isPrefixOf, SP])] at hcolon
        obtain ⟨n, -, hn⟩ := Option.map_eq_some_iff.mp hcolon
        cases hn
      | succ n => exact hfirst (t.take n) _ heq
  have hwhole : SP ∉ 58 :: t := by
    rw [List.mem_cons, not_or]
    exact ⟨by decide, hspace⟩
  rw [indexOfSub_none hwhole] at heq
  dsimp only at heq
  rw [split_of_not_mem hwhole, List.filter_cons_of_pos (by simp)] at heq
  have hlen := congrArg List.length (List.cons.inj heq).1
  rw [List.length_cons] at hlen
  omega

/-- **`split_irc` inverts the grammar**, if and only if a trailing parameter comes after a middle one
and is not empty. -/
theorem split_irc_iff (msg : Message) :
    split_irc msg.text = msg.params ↔
      ∀ t, msg.trailing = some t → msg.middles ≠ [] ∧ t ≠ [] := by
  obtain ⟨command, middles, trailing, -, hcommand, hmiddle, -⟩ := msg
  have hmiddles : middles.filter (· != []) = middles := filter_middles fun m hm => (hmiddle m hm).1
  unfold Message.text Message.params Message.marked
  dsimp only
  cases middles with
  | nil =>
    cases trailing with
    | none =>
      refine iff_of_true ?_ nofun
      have hline : command ++ [] ++ [] = command := by rw [List.append_nil, List.append_nil]
      show split_irc (command ++ [] ++ []) = [command]
      rw [hline]
      unfold split_irc
      rw [indexOf_none.mpr hcommand]
    | some t =>
      have hline : command ++ [] ++ SP :: 58 :: t = command ++ SP :: 58 :: t := by rw [List.append_nil]
      show split_irc (command ++ [] ++ SP :: 58 :: t) = [command, t] ↔ _
      rw [hline]
      exact iff_of_false (split_irc_first hcommand) fun h => (h t rfl).1 rfl
  | cons m ms =>
    obtain ⟨hfound, hnone⟩ := indexOfSub_middles hmiddle (List.cons_ne_nil m ms) (trailing.getD [])
    have hsplit : split SP (join [SP] (m :: ms)) = m :: ms :=
      split_join (List.cons_ne_nil m ms) fun x hx => (hmiddle x hx).2.1
    rw [middles_text, List.append_assoc, List.cons_append]
    cases trailing with
    | none =>
      refine iff_of_true ?_ nofun
      show split_irc (command ++ SP :: (join [SP] (m :: ms) ++ [])) = command :: (m :: ms ++ [])
      rw [List.append_nil, List.append_nil, split_irc_command hcommand, hnone]
      dsimp only
      rw [hsplit, hmiddles]
    | some t =>
      show split_irc (command ++ SP :: (join [SP] (m :: ms) ++ SP :: 58 :: t)) =
        command :: (m :: ms ++ [t]) ↔ _
      have htake : (join [SP] (m :: ms) ++ SP :: 58 :: t).take (join [SP] (m :: ms)).length =
          join [SP] (m :: ms) := List.take_left' rfl
      have hdrop : (join [SP] (m :: ms) ++ SP :: 58 :: t).drop ((join [SP] (m :: ms)).length + 2) =
          t := by
        rw [← List.drop_drop, List.drop_left' rfl]
        rfl
      rw [Option.getD_some] at hfound
      rw [split_irc_command hcommand, hfound]
      dsimp only
      rw [htake, hdrop, hsplit, hmiddles, List.cons.injEq, and_iff_right rfl, List.append_cancel_left_eq]
      constructor
      · intro heq t' ht
        cases ht
        refine ⟨List.cons_ne_nil m ms, fun hempty => ?_⟩
        rw [if_pos hempty] at heq
        cases heq
      · intro h
        rw [if_neg (h t rfl).2]

/-- QUIT with a reason -/
def quitBye : Message where
  command := ascii "QUIT"
  middles := []
  trailing := some (ascii "bye")
  command_ne := by decide
  command_space := by decide
  middle := nofun
  oneLine := by
    rintro _ ⟨⟩
    decide

/-- the colon stays with the reason -/
theorem split_irc_colon : split_irc quitBye.text = [ascii "QUIT", ascii ":bye"] ∧
    ¬ ∀ msg : Message, split_irc msg.text = msg.params := by
  have hsplit : split_irc quitBye.text = [ascii "QUIT", ascii ":bye"] := by decide
  refine ⟨hsplit, fun h => ?_⟩
  have hparams := hsplit.symm.trans (h quitBye)
  revert hparams
  decide

end client_connection
end Chatripper
