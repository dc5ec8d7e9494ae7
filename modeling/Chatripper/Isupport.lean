import Mathlib
import Chatripper.Irc.SetupSteps

/-!
# The 005 lines

A line that is sent because the next token would not fit ends in `:are supported by this server`
without the space before the colon, so the text is part of its last token.

* `fold_fits`             tokens that fit are added to the line;
* `fold_overflows`        a token that does not fit has the line sent;
* `isupport_packs_iff`    the tokens can be read off the lines.
-/

namespace Chatripper
open ByteStr Outcome

namespace client_connection
open World

/-- the words of a line before its trailing text -/
def leadWords (line : Bytes) : List Bytes :=
  (split 32 line).takeWhile fun word => word.head? != some 58

/-- the tokens of a 005 line, after the numeric and the nick -/
def lineTokens (line : Bytes) : List Bytes := (leadWords line).drop 2

/-- the start of a 005 line -/
def isupportBase (account_nick : Bytes) : Bytes := ascii "005 " ++ account_nick ++ ascii " "

/-- a table whose tokens can be told apart in a line, each short enough for a line of its own -/
structure IsupportTable (base : Bytes) (table : List (Bytes × Bytes)) : Prop where
  some_token : table ≠ []
  keys : ∀ it ∈ table, it.1 ≠ [] ∧ (32 : UInt8) ∉ it.1 ∧ it.1.head? ≠ some 58
  values : ∀ it ∈ table, (32 : UInt8) ∉ it.2 ∧ it.2.head? ≠ some 58
  short : ∀ it ∈ table, base.length + (isupportToken it).length + 1 ≤ IRC_MAX_LEN

section
variable (env : Env) (c : ConnId) (account_nick : Bytes) (w w' : World)

/-- the lines sent hold the tokens of the table in order, none of them is empty or too long -/
def PacksTokens : Prop := ∃ lines : List Bytes,
  w'.out = w.out ++ lines.map (fun line => (c, rawLine env line)) ∧
    lines.flatMap lineTokens = env.server.isupport.map isupportToken ∧
    ∀ line ∈ lines, (leadWords line).take 2 = [ascii "005", account_nick] ∧ lineTokens line ≠ [] ∧
      (join [32] (leadWords line)).length ≤ IRC_MAX_LEN

end

section
variable {env : Env} {c : ConnId} {account_nick base : Bytes} {w w' : World}
  {table rest done : List (Bytes × Bytes)}

theorem IsupportTable.token {it : Bytes × Bytes} (h : IsupportTable base table) (hit : it ∈ table) :
    isupportToken it ≠ [] ∧ (32 : UInt8) ∉ isupportToken it ∧ (isupportToken it).head? ≠ some 58 := by
  obtain ⟨hne, hsp, hcolon⟩ := h.keys it hit
  have hval := (h.values it hit).1
  unfold isupportToken
  split
  · exact ⟨hne, hsp, hcolon⟩
  · obtain ⟨b, key, hkey⟩ := List.exists_cons_of_ne_nil hne
    rw [hkey] at hsp hcolon ⊢
    refine ⟨by simp, ?_, hcolon⟩
    intro hmem
    rcases List.mem_append.mp hmem with hmem | hmem
    · rcases List.mem_append.mp hmem with hmem | hmem
      · exact hsp hmem
      · revert hmem
        decide
    · exact hval hmem

/-! ## the loop -/

/-- the line that holds these tokens -/
def packed (base : Bytes) (table : List (Bytes × Bytes)) : Bytes :=
  base ++ join [32] (table.map isupportToken)

theorem packed_concat {it : Bytes × Bytes} (hdone : done ≠ []) :
    packed base (done ++ [it]) = packed base done ++ ascii " " ++ isupportToken it := by
  unfold packed
  rw [List.map_append, List.map_singleton, join_append (by simpa using hdone) (List.cons_ne_nil _ _),
    join_singleton]
  simp only [List.append_assoc]
  rfl

theorem isupportStep_fits {s : Bytes × World} {it : Bytes × Bytes}
    (h : s.1.length + (isupportToken it).length + 1 ≤ IRC_MAX_LEN) : isupportStep env c base s it =
      (if s.1 = base then s.1 ++ isupportToken it else s.1 ++ ascii " " ++ isupportToken it, s.2) := by
  have hnot : ¬s.1.length + (isupportToken it).length + 1 > IRC_MAX_LEN := Nat.not_lt.mpr h
  unfold isupportStep
  extract_lets token s'
  have hs' : s' = s := if_neg hnot
  rw [hs']

theorem isupportStep_flushes {s : Bytes × World} {it : Bytes × Bytes}
    (h : IRC_MAX_LEN < s.1.length + (isupportToken it).length + 1) : isupportStep env c base s it =
      (base ++ isupportToken it, send_raw env c (s.1 ++ ascii ":are supported by this server") s.2) := by
  unfold isupportStep
  extract_lets token s'
  have hs' : s' = (base, send_raw env c (s.1 ++ ascii ":are supported by this server") s.2) := if_pos h
  rw [hs', if_pos rfl]

theorem packed_nil : packed base [] = base := List.append_nil _

theorem packed_ne_base (hdone : done ≠ []) (hne : ∀ x ∈ done, isupportToken x ≠ []) :
    packed base done ≠ base := by
  obtain ⟨it, done, rfl⟩ := List.exists_cons_of_ne_nil hdone
  intro h
  have hnil : join [32] ((it :: done).map isupportToken) = [] :=
    List.append_cancel_left (h.trans (List.append_nil base).symm)
  rw [List.map_cons] at hnil
  have hit := hne it List.mem_cons_self
  by_cases hrest : done.map isupportToken = []
  · rw [hrest, join_singleton] at hnil
    exact hit hnil
  · rw [join_cons_of_ne_nil hrest, List.append_assoc] at hnil
    exact hit (List.append_eq_nil_iff.mp hnil).1

/-- one token that fits is put behind the others -/
theorem step_packed {it : Bytes × Bytes} (hne : ∀ x ∈ done, isupportToken x ≠ [])
    (hfits : (packed base done).length + (isupportToken it).length + 1 ≤ IRC_MAX_LEN) :
    isupportStep env c base (packed base done, w) it = (packed base (done ++ [it]), w) := by
  rw [isupportStep_fits hfits]
  by_cases hdone : done = []
  · subst hdone
    dsimp only
    rw [if_pos packed_nil, packed_nil]
    unfold packed
    rw [List.nil_append, List.map_singleton, join_singleton]
  · dsimp only
    rw [if_neg (packed_ne_base hdone hne), packed_concat hdone]

theorem length_packed_concat {it : Bytes × Bytes} (hdone : done ≠ []) :
    (packed base (done ++ [it])).length = (packed base done).length + (isupportToken it).length + 1 := by
  rw [packed_concat hdone, List.length_append, List.length_append]
  show _ + 1 + _ = _
  omega

theorem length_packed_le : (packed base done).length ≤ (packed base (done ++ rest)).length := by
  induction rest generalizing done with
  | nil => rw [List.append_nil]
  | cons it rest ih =>
    rw [List.append_cons]
    refine le_trans ?_ ih
    by_cases hdone : done = []
    · subst hdone
      rw [packed_nil]
      unfold packed
      rw [List.length_append]
      omega
    · rw [length_packed_concat hdone]
      omega

/-- tokens that fit are added to the line -/
theorem fold_fits (hne : ∀ x ∈ done ++ rest, isupportToken x ≠ [])
    (hshort : ∀ x ∈ rest, base.length + (isupportToken x).length + 1 ≤ IRC_MAX_LEN)
    (hfits : (packed base (done ++ rest)).length ≤ IRC_MAX_LEN) :
    rest.foldl (isupportStep env c base) (packed base done, w) = (packed base (done ++ rest), w) := by
  induction rest generalizing done with
  | nil => rw [List.append_nil]; rfl
  | cons it rest ih =>
    rw [List.append_cons] at hne hfits ⊢
    have hit : (packed base done).length + (isupportToken it).length + 1 ≤ IRC_MAX_LEN := by
      by_cases hdone : done = []
      · subst hdone
        rw [packed_nil]
        exact hshort it List.mem_cons_self
      · rw [← length_packed_concat hdone]
        exact le_trans length_packed_le hfits
    rw [List.foldl_cons,
      step_packed (fun x hx => hne x (List.mem_append_left _ (List.mem_append_left _ hx))) hit]
    exact ih hne (fun x hx => hshort x (List.mem_cons_of_mem _ hx)) hfits

/-- what was sent stays sent -/
theorem fold_sent (env : Env) (c : ConnId) (base : Bytes) (rest : List (Bytes × Bytes))
    (s : Bytes × World) :
    ∃ l, (rest.foldl (isupportStep env c base) s).2.out = s.2.out ++ l := by
  induction rest generalizing s with
  | nil => exact ⟨[], (List.append_nil _).symm⟩
  | cons it rest ih =>
    obtain ⟨l, hl⟩ := ih (isupportStep env c base s it)
    rw [List.foldl_cons, hl]
    by_cases h : IRC_MAX_LEN < s.1.length + (isupportToken it).length + 1
    · rw [isupportStep_flushes h]
      exact ⟨_, List.append_assoc _ _ _⟩
    · rw [isupportStep_fits (Nat.not_lt.mp h)]
      exact ⟨l, rfl⟩

/-- a line that gets too long is sent with the tokens that fitted -/
theorem fold_overflows (hdone : done ≠ []) (hne : ∀ x ∈ done ++ rest, isupportToken x ≠ [])
    (hfits : (packed base done).length ≤ IRC_MAX_LEN)
    (hover : IRC_MAX_LEN < (packed base (done ++ rest)).length) :
    ∃ more post l, rest = more ++ post ∧
      (rest.foldl (isupportStep env c base) (packed base done, w)).2.out = w.out ++
        (c, rawLine env (packed base (done ++ more) ++ ascii ":are supported by this server")) :: l := by
  induction rest generalizing done with
  | nil =>
    rw [List.append_nil] at hover
    omega
  | cons it rest ih =>
    by_cases h : IRC_MAX_LEN < (packed base done).length + (isupportToken it).length + 1
    · rw [List.foldl_cons, isupportStep_flushes (s := (packed base done, w)) h]
      obtain ⟨l, hl⟩ := fold_sent env c base rest (base ++ isupportToken it,
        send_raw env c (packed base done ++ ascii ":are supported by this server") w)
      refine ⟨[], it :: rest, l, rfl, ?_⟩
      rw [hl, List.append_nil]
      exact List.append_assoc _ _ _
    · have hnow := Nat.not_lt.mp h
      rw [List.append_cons] at hne hover
      rw [List.foldl_cons,
        step_packed (fun x hx => hne x (List.mem_append_left _ (List.mem_append_left _ hx))) hnow]
      have hlonger : (packed base (done ++ [it])).length ≤ IRC_MAX_LEN := by
        rw [length_packed_concat hdone]
        exact hnow
      obtain ⟨more, post, l, rfl, hl⟩ := ih (by simp) hne hlonger hover
      refine ⟨it :: more, post, l, rfl, ?_⟩
      rw [hl, List.append_cons done it more]

/-! ## the words of a line -/

/-- a nick that is one word of a line -/
def OneWord (word : Bytes) : Prop := (32 : UInt8) ∉ word ∧ word.head? ≠ some 58

instance : DecidablePred OneWord := fun _ => inferInstanceAs (Decidable (_ ∧ _))

theorem packed_words (ht : table ≠ []) : packed (isupportBase account_nick) table =
    join [32] (ascii "005" :: account_nick :: table.map isupportToken) := by
  have hmap : table.map isupportToken ≠ [] := by simpa using ht
  rw [join_cons_of_ne_nil (List.cons_ne_nil _ _), join_cons_of_ne_nil hmap]
  unfold packed isupportBase
  rw [show ascii "005 " = ascii "005" ++ [32] by decide]
  simp only [List.append_assoc]
  rfl

/-- words up to the first that starts with a colon -/
theorem leadWords_join {ws us : List Bytes} (hws : ∀ x ∈ ws, OneWord x)
    (hus : ∀ x ∈ us, (32 : UInt8) ∉ x) (hne : ws ≠ []) (hcolon : ∀ x ∈ us.head?, x.head? = some 58) :
    leadWords (join [32] (ws ++ us)) = ws := by
  unfold leadWords
  rw [split_join (by simp [hne]) (List.forall_mem_append.mpr ⟨fun x hx => (hws x hx).1, hus⟩),
    List.takeWhile_append_of_pos fun x hx => by simpa using (hws x hx).2]
  cases us with
  | nil => rw [List.takeWhile_nil, List.append_nil]
  | cons u us =>
    have hu : (u.head? != some 58) = false := by simpa using hcolon u rfl
    rw [List.takeWhile_cons_of_neg (by simp [hu]), List.append_nil]

theorem IsupportTable.words (h : IsupportTable base table) (hnick : OneWord account_nick) :
    ∀ x ∈ ascii "005" :: account_nick :: table.map isupportToken, OneWord x := by
  intro x hx
  rcases List.mem_cons.mp hx with rfl | hx
  · exact ⟨by decide, by decide⟩
  rcases List.mem_cons.mp hx with rfl | hx
  · exact hnick
  obtain ⟨it, hit, rfl⟩ := List.mem_map.mp hx
  exact (h.token hit).2

/-- the last line -/
theorem leadWords_last (h : IsupportTable base table) (hnick : OneWord account_nick) :
    leadWords (packed (isupportBase account_nick) table ++ ascii " :are supported by this server") =
      ascii "005" :: account_nick :: table.map isupportToken := by
  have htail : ascii " :are supported by this server" =
      [32] ++ join [32] [ascii ":are", ascii "supported", ascii "by", ascii "this", ascii "server"] := by
    decide
  rw [packed_words h.some_token, htail, ← List.append_assoc,
    ← join_append (List.cons_ne_nil _ _) (List.cons_ne_nil _ _)]
  exact leadWords_join (h.words hnick) (by decide) (List.cons_ne_nil _ _) (by decide)

/-- a line that is sent when the next token does not fit -/
theorem leadWords_flushed {last : Bytes × Bytes} (h : ∀ it ∈ done ++ [last], isupportToken it ≠ [] ∧
    OneWord (isupportToken it)) (hnick : OneWord account_nick) :
    leadWords (packed (isupportBase account_nick) (done ++ [last]) ++
        ascii ":are supported by this server") =
      ascii "005" :: account_nick :: done.map isupportToken ++
        [isupportToken last ++ ascii ":are", ascii "supported", ascii "by", ascii "this",
          ascii "server"] := by
  have htail : ascii ":are supported by this server" =
      join [32] [ascii ":are", ascii "supported", ascii "by", ascii "this", ascii "server"] := by
    decide
  obtain ⟨hne, hlast⟩ := h last (by simp)
  rw [packed_words (by simp), htail, List.map_append, List.map_singleton, ← List.cons_append,
    ← List.cons_append, join_glue]
  have hwords : ∀ x ∈ ascii "005" :: account_nick :: done.map isupportToken ++
      [isupportToken last ++ ascii ":are", ascii "supported", ascii "by", ascii "this",
        ascii "server"], OneWord x := by
    intro x hx
    rcases List.mem_append.mp hx with hx | hx
    · rcases List.mem_cons.mp hx with rfl | hx
      · exact ⟨by decide, by decide⟩
      rcases List.mem_cons.mp hx with rfl | hx
      · exact hnick
      obtain ⟨it, hit, rfl⟩ := List.mem_map.mp hx
      exact (h it (List.mem_append_left _ hit)).2
    · rcases List.mem_cons.mp hx with rfl | hx
      · refine ⟨?_, ?_⟩
        · rw [List.mem_append, not_or]
          exact ⟨hlast.1, by decide⟩
        · rw [List.head?_append_of_ne_nil _ hne]
          exact hlast.2
      · have htext : ∀ x ∈ [ascii "supported", ascii "by", ascii "this", ascii "server"], OneWord x := by
          decide
        exact htext x hx
  have hall := @leadWords_join _ [] hwords (by simp) (by simp) (by simp)
  rw [List.append_nil] at hall
  exact hall

/-! ## the table -/

/-- what is left in the loop is sent at the end -/
theorem out_isupportLines {s : Bytes × World}
    (hs : env.server.isupport.foldl (isupportStep env c (isupportBase account_nick))
      (isupportBase account_nick, w) = s) :
    (isupportLines env c account_nick w).out = if s.1 = isupportBase account_nick then s.2.out
      else s.2.out ++ [(c, rawLine env (s.1 ++ ascii " :are supported by this server"))] := by
  have hlines : isupportLines env c account_nick w = if s.1 = isupportBase account_nick then s.2
      else send_raw env c (s.1 ++ ascii " :are supported by this server") s.2 := by
    rw [← hs]
    rfl
  rw [hlines]
  exact apply_ite World.out _ _ _

/-- a table that does not fit in one line has a first line that is sent in the loop -/
theorem isupportLines_overflows (h : IsupportTable (isupportBase account_nick) env.server.isupport)
    (hover : IRC_MAX_LEN < (packed (isupportBase account_nick) env.server.isupport).length) :
    ∃ first last post l, env.server.isupport = first ++ last :: post ∧
      (isupportLines env c account_nick w).out = w.out ++ (c, rawLine env
        (packed (isupportBase account_nick) (first ++ [last]) ++
          ascii ":are supported by this server")) :: l := by
  obtain ⟨it, rest, htable⟩ := List.exists_cons_of_ne_nil h.some_token
  have hshort := h.short it (htable ▸ List.mem_cons_self)
  have hone : packed (isupportBase account_nick) [it] =
      isupportBase account_nick ++ isupportToken it := by
    unfold packed
    rw [List.map_singleton, join_singleton]
  have hstep : isupportStep env c _ (packed (isupportBase account_nick) [], w) it = _ :=
    step_packed (fun _ hx => absurd hx List.not_mem_nil) (by rw [packed_nil]; exact hshort)
  rw [packed_nil, List.nil_append] at hstep
  obtain ⟨more, post, l, hrest, hl⟩ := @fold_overflows env c (isupportBase account_nick) w rest [it]
    (List.cons_ne_nil it []) (fun x hx => (h.token (htable ▸ hx)).1)
    (by rw [hone, List.length_append]; omega) (by rwa [htable] at hover)
  have hinit := List.dropLast_append_getLast (l := [it] ++ more) (by simp)
  refine ⟨([it] ++ more).dropLast, ([it] ++ more).getLast (by simp), post, ?_⟩
  have hfold : env.server.isupport.foldl (isupportStep env c (isupportBase account_nick))
      (isupportBase account_nick, w) =
      rest.foldl (isupportStep env c (isupportBase account_nick))
        (packed (isupportBase account_nick) [it], w) := by
    rw [htable, List.foldl_cons, hstep]
  rw [hinit, out_isupportLines hfold, hl]
  have hsplit : env.server.isupport =
      ([it] ++ more).dropLast ++ ([it] ++ more).getLast (by simp) :: post := by
    rw [List.append_cons, hinit, htable, hrest]
    rfl
  split
  · exact ⟨l, hsplit, rfl⟩
  · exact ⟨_, hsplit, List.append_assoc _ _ _⟩

/-- the nick of a 005 line is a word of it -/
theorem nick_of_lead {line : Bytes} (h : (leadWords line).take 2 = [ascii "005", account_nick]) :
    account_nick.head? ≠ some 58 := by
  have hmem : account_nick ∈ (leadWords line).take 2 := by
    rw [h]
    exact List.mem_cons_of_mem _ List.mem_cons_self
  have hword := List.mem_takeWhile_imp (List.mem_of_mem_take hmem)
  simpa using hword

/-- a table that does not fit in one line is not packed -/
theorem not_packs_of_overflow (h : IsupportTable (isupportBase account_nick) env.server.isupport)
    (hnick : (32 : UInt8) ∉ account_nick)
    (hover : IRC_MAX_LEN < (packed (isupportBase account_nick) env.server.isupport).length) :
    ¬PacksTokens env c account_nick w (isupportLines env c account_nick w) := by
  rintro ⟨lines, hout, htokens, hlines⟩
  obtain ⟨first, last, post, l, htable, hl⟩ := @isupportLines_overflows env c account_nick w h hover
  rw [hout] at hl
  have hmap := List.append_cancel_left hl
  cases lines with
  | nil => cases hmap
  | cons line lines =>
    rw [List.map_cons, List.cons.injEq, Prod.mk.injEq] at hmap
    have hline := rawLine_inj hmap.1.2
    have hlead := (hlines line List.mem_cons_self).1
    have htokenOf : ∀ it ∈ first ++ [last], isupportToken it ≠ [] ∧ OneWord (isupportToken it) := by
      intro it hit
      refine h.token (htable ▸ ?_)
      rcases List.mem_append.mp hit with hit | hit
      · exact List.mem_append_left _ hit
      · rw [List.mem_singleton.mp hit]
        exact List.mem_append_right _ List.mem_cons_self
    have hwords := leadWords_flushed htokenOf ⟨hnick, nick_of_lead hlead⟩
    -- the last token of the line has the start of the text behind it
    rw [List.flatMap_cons, lineTokens, hline, hwords, htable, List.map_append, List.map_cons] at htokens
    have hcut : first.map isupportToken ++ ((isupportToken last ++ ascii ":are") ::
        ([ascii "supported", ascii "by", ascii "this", ascii "server"] ++ lines.flatMap lineTokens)) =
        first.map isupportToken ++ isupportToken last :: post.map isupportToken := by
      rw [← htokens]
      simp
    have hlast := (List.cons.inj (List.append_cancel_left hcut)).1
    exact absurd (List.append_right_eq_self.mp hlast) (by decide)

/-- **The 005 lines hold the table**, if and only if the nick does not start with a colon and one
line is enough. -/
theorem isupport_packs_iff (h : IsupportTable (isupportBase account_nick) env.server.isupport)
    (hnick : (32 : UInt8) ∉ account_nick) :
    PacksTokens env c account_nick w (isupportLines env c account_nick w) ↔
      account_nick.head? ≠ some 58 ∧
        (packed (isupportBase account_nick) env.server.isupport).length ≤ IRC_MAX_LEN := by
  constructor
  · intro hpacks
    refine ⟨?_, Nat.not_lt.mp fun hover => not_packs_of_overflow h hnick hover hpacks⟩
    obtain ⟨lines, -, htokens, hlines⟩ := hpacks
    cases lines with
    | nil => exact absurd (List.map_eq_nil_iff.mp htokens.symm) h.some_token
    | cons line lines => exact nick_of_lead (hlines line List.mem_cons_self).1
  · rintro ⟨hcolon, hfits⟩
    have hfold := @fold_fits env c (isupportBase account_nick) w _ []
      (fun x hx => (h.token hx).1) h.short hfits
    rw [packed_nil, List.nil_append] at hfold
    have hother : packed (isupportBase account_nick) env.server.isupport ≠ isupportBase account_nick :=
      packed_ne_base h.some_token fun x hx => (h.token hx).1
    have hlead := leadWords_last h ⟨hnick, hcolon⟩
    refine ⟨[_], (out_isupportLines hfold).trans (if_neg hother), ?_, ?_⟩
    · rw [List.flatMap_singleton, lineTokens, hlead]
      rfl
    · intro line hline
      rw [List.mem_singleton.mp hline, lineTokens, hlead]
      refine ⟨rfl, by simpa using h.some_token, ?_⟩
      rw [← packed_words h.some_token]
      exact hfits

end

/-- the table that the server is constructed with does not fit in one line -/
theorem isupport_default_overflows :
    IsupportTable (isupportBase (ascii "bob")) Env.ascii.server.isupport ∧
      ¬PacksTokens Env.ascii 0 (ascii "bob") World.empty
        (isupportLines Env.ascii 0 (ascii "bob") World.empty) := by
  have htable : IsupportTable (isupportBase (ascii "bob")) Env.ascii.server.isupport :=
    ⟨by decide, by decide, by decide, by decide⟩
  exact ⟨htable, not_packs_of_overflow htable (by decide) (by decide +kernel)⟩

/-- a server with one token -/
def oneToken : Env := { Env.ascii with server := { isupport := [(ascii "BOT", ascii "B")] } }

theorem isupport_packs_iff_one :
    PacksTokens oneToken 0 (ascii "bob") World.empty (isupportLines oneToken 0 (ascii "bob") World.empty) ↔
      (ascii "bob").head? ≠ some 58 ∧
        (packed (isupportBase (ascii "bob")) oneToken.server.isupport).length ≤ IRC_MAX_LEN :=
  isupport_packs_iff ⟨by decide, by decide, by decide, by decide⟩ (by decide)

end client_connection
end Chatripper
