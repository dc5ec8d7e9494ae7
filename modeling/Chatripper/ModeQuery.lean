import Mathlib
import Chatripper.ModeChange

/-!
# What a MODE query tells

The reply to a query lists the letters of the modes that are set, then the key and the limit.  What a
sequence of changes leaves behind is such that this is all there is to know, and a change that is made
of the reply restores it.

* `ModeInv`              what holds of a channel whatever changes are made;
* `modeReply`            the text of the reply;
* `restores_modeReply`   the change that is made of it;
* `modes_restored`       the same after any changes.
-/

namespace ByteStr

/-- the octet of a character below 256 -/
def octet (c : Char) : UInt8 := UInt8.ofNat c.toNat

theorem octet_digit {c : Char} (h : c.isDigit = true) :
    48 ≤ octet c ∧ octet c ≤ 57 ∧ (octet c).toNat = c.toNat := by
  have hle : 48 ≤ c.toNat ∧ c.toNat ≤ 57 := by
    rw [Char.isDigit, Bool.and_eq_true, decide_eq_true_iff, decide_eq_true_iff] at h
    exact ⟨UInt32.le_iff_toNat_le.mp h.1, UInt32.le_iff_toNat_le.mp h.2⟩
  have hnat : (octet c).toNat = c.toNat := by
    unfold octet
    rw [UInt8.toNat_ofNat']
    omega
  refine ⟨?_, ?_, hnat⟩
  · rw [UInt8.le_iff_toNat_le, hnat]
    exact hle.1
  · rw [UInt8.le_iff_toNat_le, hnat]
    exact hle.2

theorem foldl_digits {l : List Char} (h : ∀ c ∈ l, c.isDigit = true) (a : Nat) :
    (l.map octet).foldl (fun acc b => acc.bind fun n =>
      if 48 ≤ b ∧ b ≤ 57 then some (n * 10 + (b.toNat - 48)) else none) (some a) =
        some (Nat.ofDigitChars 10 l a) := by
  induction l generalizing a with
  | nil => rw [Nat.ofDigitChars_nil]; rfl
  | cons c l ih =>
    obtain ⟨hlo, hhi, hnat⟩ := octet_digit (h c List.mem_cons_self)
    rw [List.map_cons, List.foldl_cons, Nat.ofDigitChars_cons, ← ih fun c hc => h c (List.mem_cons_of_mem _ hc)]
    rw [Option.bind_some, if_pos ⟨hlo, hhi⟩, hnat, Nat.mul_comm a 10]
    rfl

theorem digits_number (n : Nat) : digits? (number n) = some n := by
  have hne : number n ≠ [] := by
    unfold number
    rw [Ne, List.map_eq_nil_iff]
    exact Nat.toDigits_ne_nil
  unfold digits?
  rw [if_neg hne]
  refine (foldl_digits (fun c hc => Nat.isDigit_of_mem_toDigits (by decide) (by decide) hc) 0).trans ?_
  rw [Nat.ofDigitChars_ten_toDigits]

theorem digit_of_mem_number {n : Nat} {b : UInt8} (h : b ∈ number n) : 48 ≤ b ∧ b ≤ 57 := by
  obtain ⟨c, hc, rfl⟩ := List.mem_map.mp h
  have hd := octet_digit (Nat.isDigit_of_mem_toDigits (by decide) (by decide) hc)
  exact ⟨hd.1, hd.2.1⟩

theorem toInt_number {n : Nat} (h : n ≤ 2147483647) : toInt? (number n) = some (n : Int) := by
  obtain ⟨d, ds, hnum⟩ : ∃ d ds, number n = d :: ds := by
    cases hnum : number n with
    | nil => exact absurd (List.map_eq_nil_iff.mp hnum) Nat.toDigits_ne_nil
    | cons d ds => exact ⟨d, ds, rfl⟩
  have hd : 48 ≤ d ∧ d ≤ 57 := digit_of_mem_number (hnum ▸ List.mem_cons_self)
  have hspace : isSpace d = false := by
    unfold isSpace
    rw [UInt8.le_iff_toNat_le] at hd
    have h32 : (d == 32) = false := beq_eq_false_iff_ne.mpr fun he => absurd hd.1 (by rw [he]; decide)
    have h13 : ¬ d ≤ 13 := by
      intro hle
      have := UInt8.le_iff_toNat_le.mp hle
      have := hd.1
      have h48 : (48 : UInt8).toNat = 48 := rfl
      have h13 : (13 : UInt8).toNat = 13 := rfl
      omega
    rw [h32, decide_eq_false h13, Bool.and_false]
    rfl
  have hfits : (-2147483648 : Int) ≤ n ∧ (n : Int) ≤ 2147483647 := by omega
  unfold toInt?
  dsimp only
  rw [hnum, List.dropWhile_cons_of_neg (by rw [hspace]; exact Bool.false_ne_true)]
  split
  · next ds' heq =>
    obtain ⟨hd45, -⟩ := List.cons.inj heq
    rw [hd45] at hd
    exact absurd hd.1 (by decide)
  · next ds' heq =>
    obtain ⟨hd43, -⟩ := List.cons.inj heq
    rw [hd43] at hd
    exact absurd hd.1 (by decide)
  · rw [← hnum, digits_number]
    exact if_pos hfits

theorem le_of_toInt {xs : Bytes} {n : Int} (h : toInt? xs = some n) : n ≤ 2147483647 := by
  have hfits {m : Int} (h : (if -2147483648 ≤ m ∧ m ≤ 2147483647 then some m else none) = some n) :
      n ≤ 2147483647 := by
    split at h
    · next hm => 
      cases h
      exact hm.2
    · cases h
  unfold toInt? at h
  dsimp only at h
  split at h
  all_goals
    obtain ⟨m, -, hm⟩ := Option.bind_eq_some_iff.mp h
    exact hfits hm

end ByteStr

namespace Flags
variable {E : Type} [FlagEnum E]

theorem ext_has {f g : Flags E} (hf : f.Within) (hg : g.Within) (h : ∀ e, f.has e = g.has e) :
    f = g := by
  have hbits : f.bits = g.bits := by
    apply BitVec.eq_of_getLsbD_eq
    intro i _
    have hiff : f.bits.getLsbD i = true ↔ g.bits.getLsbD i = true := by
      constructor
      · intro hi
        obtain ⟨e, rfl⟩ := hf i hi
        rw [← has_eq, ← h, has_eq]
        exact hi
      · intro hi
        obtain ⟨e, rfl⟩ := hg i hi
        rw [← has_eq, h, has_eq]
        exact hi
    exact Bool.eq_iff_iff.mpr hiff
  exact congrArg Flags.mk hbits

theorem Within.turn {f : Flags E} (h : f.Within) (b : Bool) (e : E) : (f.turn b e).Within := by
  unfold Flags.turn
  split
  · exact h.set e
  · exact h.clear e

theorem Within.turns {f : Flags E} (h : f.Within) (b : Bool) (es : List E) :
    (es.foldl (Flags.turn b) f).Within := by
  induction es generalizing f with
  | nil => exact h
  | cons e es ih => exact ih (h.turn b e)

theorem has_turns [DecidableEq E] (b : Bool) (f : Flags E) (es : List E) (e : E) :
    (es.foldl (turn b) f).has e = if e ∈ es then b else f.has e := by
  induction es generalizing f with
  | nil => rfl
  | cons e' es ih =>
    rw [List.foldl_cons, ih, has_turn]
    simp only [List.mem_cons]
    by_cases hmem : e ∈ es
    · rw [if_pos hmem, if_pos (.inr hmem)]
    · by_cases he : e = e'
      · rw [if_neg hmem, if_pos he, if_pos (.inl he)]
      · rw [if_neg hmem, if_neg he, if_neg (not_or.mpr ⟨he, hmem⟩)]

end Flags

namespace Chatripper
open ByteStr Utf8 Outcome

/-! ## what changes leave -/

/-- what holds of the modes of a channel whatever changes are made -/
structure Channel.ModeInv (k : Channel) : Prop where
  key : k.channel_modes.has .KEY = false → k.m_key = []
  limit : k.channel_modes.has .LIMIT = false → k.m_limit = 0
  limit_nonneg : 0 ≤ k.m_limit
  limit_le : k.m_limit ≤ 2147483647
  key_word : (32 : UInt8) ∉ k.m_key
  no_ban : k.channel_modes.has .BAN = false
  within : k.channel_modes.Within

namespace ModeCall
variable {adding : Bool} {call : ModeCall}

theorem flag_of_key {key : Bytes} (h : call.key? adding = some key) :
    call.flag? adding = some .KEY ∧ (adding = false → key = []) := by
  unfold key? at h
  by_cases hmode : call.mode = .KEY
  · rw [if_pos hmode] at h
    refine ⟨?_, ?_⟩
    · unfold flag?
      rw [hmode]
      rfl
    · rintro rfl
      exact (Option.some.inj h).symm
  · rw [if_neg hmode] at h
    cases h

theorem flag_ne_key (h : call.key? adding = none) : call.flag? adding ≠ some .KEY := by
  intro hflag
  unfold key? at h
  rw [if_pos (mode_of_flag hflag)] at h
  cases h

theorem flag_of_limit {n : Int} (h : call.limit? adding = some n) :
    call.flag? adding = some .LIMIT ∧ (adding = false → n = 0) ∧ 0 ≤ n ∧ n ≤ 2147483647 := by
  have hmode : call.mode = .LIMIT := by
    by_contra hne
    unfold limit? at h
    rw [if_neg hne] at h
    cases h
  refine ⟨?_, ?_⟩
  · unfold flag?
    rw [if_neg, hmode]
    rintro (hban | ⟨-, hnone⟩)
    · rw [hmode] at hban
      cases hban
    · rw [h] at hnone
      cases hnone
  · unfold limit? at h
    rw [if_pos hmode] at h
    cases adding with
    | false =>
      cases h
      exact ⟨fun _ => rfl, by decide, by decide⟩
    | true =>
      obtain ⟨hn, h0⟩ := Option.filter_eq_some_iff.mp h
      exact ⟨fun hf => absurd hf (by decide), of_decide_eq_true h0, le_of_toInt hn⟩

theorem flag_ne_limit (h : call.limit? adding = none) : call.flag? adding ≠ some .LIMIT := by
  intro hflag
  have hmode := mode_of_flag hflag
  unfold flag? at hflag
  rw [if_pos (.inr ⟨hmode, h⟩)] at hflag
  cases hflag

theorem flag_ne_ban : call.flag? adding ≠ some .BAN := by
  intro hflag
  have hmode := mode_of_flag hflag
  unfold flag? at hflag
  rw [if_pos (.inl hmode)] at hflag
  cases hflag

end ModeCall

namespace Channel.ModeInv

theorem apply {k : Channel} (h : k.ModeInv) {adding : Bool} {call : ModeCall}
    (hword : ∀ key, call.key? adding = some key → (32 : UInt8) ∉ key) :
    (call.apply adding k).ModeInv := by
  have hhas := ModeCall.has_apply adding k call
  rw [ModeCall.apply_eq] at hhas ⊢
  dsimp only at hhas
  constructor
  case key =>
    dsimp only
    intro hclear
    rw [hhas] at hclear
    cases hkey : call.key? adding with
    | none =>
      rw [if_neg (ModeCall.flag_ne_key hkey)] at hclear
      exact h.key hclear
    | some key =>
      obtain ⟨hflag, hempty⟩ := ModeCall.flag_of_key hkey
      rw [if_pos hflag] at hclear
      exact hempty hclear
  case limit =>
    dsimp only
    intro hclear
    rw [hhas] at hclear
    cases hlimit : call.limit? adding with
    | none =>
      rw [if_neg (ModeCall.flag_ne_limit hlimit)] at hclear
      exact h.limit hclear
    | some n =>
      obtain ⟨hflag, hzero, -⟩ := ModeCall.flag_of_limit hlimit
      rw [if_pos hflag] at hclear
      exact hzero hclear
  case limit_nonneg =>
    cases hlimit : call.limit? adding with
    | none => exact h.limit_nonneg
    | some n => exact (ModeCall.flag_of_limit hlimit).2.2.1
  case limit_le =>
    cases hlimit : call.limit? adding with
    | none => exact h.limit_le
    | some n => exact (ModeCall.flag_of_limit hlimit).2.2.2
  case key_word =>
    cases hkey : call.key? adding with
    | none => exact h.key_word
    | some key => exact hword key hkey
  case no_ban =>
    dsimp only
    rw [hhas, if_neg ModeCall.flag_ne_ban]
    exact h.no_ban
  case within =>
    cases call.flag? adding with
    | none => exact h.within
    | some mode => exact h.within.turn adding mode

theorem applyCalls {k : Channel} (h : k.ModeInv) {adding : Bool} {calls : List ModeCall}
    (hwords : ∀ key ∈ calls.filterMap (ModeCall.key? adding), (32 : UInt8) ∉ key) :
    (applyCalls adding calls k).ModeInv := by
  unfold Chatripper.applyCalls
  induction calls generalizing k with
  | nil => exact h
  | cons call calls ih =>
    refine ih (h.apply fun key hkey => ?_) fun key hkey => ?_
    · exact hwords key (List.mem_filterMap.mpr ⟨call, List.mem_cons_self, hkey⟩)
    · obtain ⟨call', hmem, hkey'⟩ := List.mem_filterMap.mp hkey
      exact hwords key (List.mem_filterMap.mpr ⟨call', List.mem_cons_of_mem _ hmem, hkey'⟩)

/-- the modes of a new channel -/
theorem fresh {k : Channel} (h : k.settings = Channel.settings { m_name := [] }) : k.ModeInv := by
  obtain ⟨hmodes, hkey, hlimit, -⟩ := (ChannelSettings.mk.injEq ..).mp h
  refine ⟨fun _ => hkey, fun _ => hlimit, ?_, ?_, ?_, ?_, ?_⟩
  · rw [hlimit]
  · rw [hlimit]
    decide
  · rw [hkey]
    exact List.not_mem_nil
  · rw [hmodes]
    rfl
  · rw [hmodes]
    exact (Flags.within_zero.set _).set _

end Channel.ModeInv

namespace client_connection
open World

/-- the keys that a request sets -/
def keyArguments (args : List Bytes) : List Bytes :=
  match args with
  | _ :: (sign :: letters) :: _ =>
    if sign = 43 then (modeCalls args 2 letters).filterMap (ModeCall.key? true) else []
  | _ => []

section
variable {env : Env} {c : ConnId} {args : List Bytes} {w : World}

theorem eq_cons_cons {α : Type} {l : List α} {a b : α} (ha : l[0]? = some a) (hb : l[1]? = some b) :
    l = a :: b :: l.drop 2 := by
  cases l with
  | nil => cases ha
  | cons x l =>
    cases l with
    | nil => cases hb
    | cons y l =>
      cases ha
      cases hb
      rfl

theorem chan_channelModeChange {target letters : Bytes} {adding : Bool} {ch : ChanId}
    (hch : Channel.get w (target.drop 1) = some ch) :
    ∃ w', channelModeChange env c target adding letters args w = .ok w' ∧
      w'.chan ch = applyCalls adding (modeCalls args 2 letters) (w.chan ch) ∧
      ∀ x ≠ ch, w'.chan x = w.chan x := by
  refine ⟨_, channelModeChange_eq hch, ?_⟩
  have hchan : (w.updChan ch (applyCalls adding (modeCalls args 2 letters))).chan ch =
        applyCalls adding (modeCalls args 2 letters) (w.chan ch) ∧
      ∀ x ≠ ch, (w.updChan ch (applyCalls adding (modeCalls args 2 letters))).chan x = w.chan x :=
    ⟨if_pos rfl, fun x hx => if_neg hx⟩
  split
  · exact hchan
  · split <;> exact hchan

/-- what a request does to a channel -/
theorem handleMODE_chan (ch : ChanId) : Sat (fun _ => False)
    (fun w' => w'.chan ch = w.chan ch ∨ ∃ target sign letters rest,
      args = target :: (sign :: letters) :: rest ∧
        w'.chan ch = applyCalls (sign == 43) (modeCalls args 2 letters) (w.chan ch))
    (handleMODE env c args w) := by
  unfold handleMODE
  refine Sat.ite (fun _ => .inl rfl) fun h0 => (sat_listAt (by omega)).bind fun target ht => ?_
  refine Sat.ite (fun _ => .inl ?_) fun h1 => ?_
  · exact modeQuery_keeps (v := fun w1 : World => w1.chan ch) (fun _ _ => rfl) target
  refine (sat_listAt (by omega)).bind fun requested_modes hr => ?_
  refine Sat.ite (fun _ => .inl ?_) fun _ => ?_
  · exact banQuery_keeps (v := fun w1 : World => w1.chan ch) (fun _ _ => rfl) target
  cases requested_modes with
  | nil => exact .inl rfl
  | cons sign letters =>
    refine Sat.ite (fun _ => .inl rfl) fun _ => Sat.ite (fun _ => ?_) fun _ => Sat.ite (fun _ => ?_)
      fun _ => .inl rfl
    · left
      exact userModeChange_keeps (v := fun w1 : World => w1.chan ch) (fun _ _ => rfl)
        (fun _ _ _ => rfl) _ letters
    · cases hget : Channel.get w (target.drop 1) with
      | none =>
        unfold channelModeChange
        rw [hget]
        exact .inl rfl
      | some ch' =>
        obtain ⟨w', hok, hown, hother⟩ := @chan_channelModeChange env c args w target letters
          (sign == 43) ch' hget
        rw [hok]
        by_cases hx : ch = ch'
        · refine .inr ⟨target, sign, letters, args.drop 2, eq_cons_cons ht hr, ?_⟩
          rw [hx]
          exact hown
        · exact .inl (hother ch hx)

end

/-- **The modes of a channel, whatever requests are made.** -/
theorem modeInv_run {env : Env} {ch : ChanId} {requests : List (ConnId × List Bytes)} {w : World}
    (hw : (w.chan ch).ModeInv)
    (hwords : ∀ r ∈ requests, ∀ key ∈ keyArguments r.2, (32 : UInt8) ∉ key) :
    ∃ w', run (fun w r => handleMODE env r.1 r.2 w) w requests = .ok w' ∧ (w'.chan ch).ModeInv := by
  induction requests generalizing w with
  | nil => exact ⟨w, rfl, hw⟩
  | cons r requests ih =>
    have hsat := @handleMODE_chan env r.1 r.2 w ch
    cases hstep : handleMODE env r.1 r.2 w with
    | error x =>
      rw [hstep] at hsat
      exact hsat.elim
    | ok w1 =>
      rw [hstep] at hsat
      rw [run_cons, hstep]
      apply ih
      · rcases hsat with hsame | ⟨target, sign, letters, rest, hargs, happlied⟩
        · rw [hsame]
          exact hw
        · rw [happlied]
          apply hw.applyCalls
          intro key hkey
          have hkeys := hwords r List.mem_cons_self
          rw [hargs] at hkeys hkey
          by_cases hs : sign = 43
          · rw [hs] at hkeys hkey
            exact hkeys key hkey
          · obtain ⟨call, -, hcall⟩ := List.mem_filterMap.mp hkey
            rw [beq_eq_false_iff_ne.mpr hs] at hcall
            rw [(ModeCall.flag_of_key hcall).2 rfl]
            exact List.not_mem_nil
      · exact fun r' hr' => hwords r' (List.mem_cons_of_mem r hr')

/-! ## the reply to a query -/

/-- what the reply lists after the name -/
def modeReply (k : Channel) : Bytes :=
  if presentModes channelModesTable k.channel_modes = [] then []
  else ascii "+" ++ presentModes channelModesTable k.channel_modes ++
    ((if k.channel_modes.has .KEY then ascii " " ++ k.m_key else []) ++
      (if k.channel_modes.has .LIMIT then ascii " " ++ number k.m_limit.toNat else []))

theorem handleMODE_query {env : Env} {c : ConnId} {w : World} {target : Bytes} {ch : ChanId}
    (hnick : target ≠ w.nick c) (hhash : startsWithHash target = true)
    (hch : Channel.get w (target.drop 1) = some ch) :
    handleMODE env c [target] w = .ok (send_raw env c (ascii "324 " ++ w.nick c ++ ascii " #" ++
      (w.chan ch).m_name ++ ascii " :" ++ modeReply (w.chan ch)) w) := by
  show Except.ok (modeQuery env c target w) = _
  unfold modeQuery modeReply
  dsimp only
  rw [if_neg hnick, if_pos hhash, hch]
  dsimp only
  by_cases hp : presentModes channelModesTable (w.chan ch).channel_modes = []
  · rw [if_pos hp, if_pos hp, List.append_nil]
  · rw [if_neg hp, if_neg hp]
    simp only [List.append_assoc]

/-- the words of the reply -/
def modeWords (k : Channel) : List Bytes :=
  (43 :: presentModes channelModesTable k.channel_modes) ::
    ((if k.channel_modes.has .KEY then [k.m_key] else []) ++
      (if k.channel_modes.has .LIMIT then [number k.m_limit.toNat] else []))

theorem mem_presentModes {modes : Flags ChannelModes} {b : UInt8}
    (h : b ∈ presentModes channelModesTable modes) : b ∈ channelModesTable.map Prod.snd := by
  obtain ⟨row, hrow, rfl⟩ := List.mem_map.mp h
  exact List.mem_map_of_mem (List.mem_of_mem_filter hrow)

theorem word_of_mem_modeWords {k : Channel} (h : k.ModeInv) :
    ∀ word ∈ modeWords k, (32 : UInt8) ∉ word := by
  intro word hword
  rcases List.mem_cons.mp hword with rfl | hword
  · intro hmem
    have hletter := mem_presentModes ((List.mem_cons.mp hmem).resolve_left (by decide))
    exact absurd hletter (by decide)
  · rcases List.mem_append.mp hword with hkey | hlimit
    · split at hkey
      · rw [List.mem_singleton.mp hkey]
        exact h.key_word
      · exact absurd hkey List.not_mem_nil
    · split at hlimit
      · rw [List.mem_singleton.mp hlimit]
        intro hmem
        exact absurd (digit_of_mem_number hmem).1 (by decide)
      · exact absurd hlimit List.not_mem_nil

theorem modeReply_eq_intercalate {k : Channel}
    (hp : presentModes channelModesTable k.channel_modes ≠ []) :
    modeReply k = [32].intercalate (modeWords k) := by
  unfold modeReply modeWords
  rw [if_neg hp]
  by_cases hkey : k.channel_modes.has .KEY = true
  · by_cases hlimit : k.channel_modes.has .LIMIT = true
    · rw [if_pos hkey, if_pos hlimit, if_pos hkey, if_pos hlimit]
      simp [List.intercalate, ascii]
    · rw [if_pos hkey, if_neg hlimit, if_pos hkey, if_neg hlimit]
      simp [List.intercalate, ascii]
  · by_cases hlimit : k.channel_modes.has .LIMIT = true
    · rw [if_neg hkey, if_pos hlimit, if_neg hkey, if_pos hlimit]
      simp [List.intercalate, ascii]
    · rw [if_neg hkey, if_neg hlimit, if_neg hkey, if_neg hlimit]
      simp [List.intercalate, ascii]

theorem split_modeReply {k : Channel} (h : k.ModeInv)
    (hp : presentModes channelModesTable k.channel_modes ≠ []) :
    split 32 (modeReply k) = modeWords k := by
  rw [modeReply_eq_intercalate hp]
  exact List.splitOn_intercalate 32 (word_of_mem_modeWords h) (List.cons_ne_nil _ _)

/-! ## the change that is made of the reply -/

/-- the modes that take no argument -/
def plainModes : List ChannelModes :=
  [.INVITE_ONLY, .MODERATED, .NO_OUTSIDE_MSGS, .QUIET, .SECRET, .TOPIC_PROTECTED]

/-- the letters of the reply with their words -/
def replyCalls (k : Channel) : List ModeCall :=
  (plainModes.filter k.channel_modes.has).map (fun mode => ({ mode } : ModeCall)) ++
    ((if k.channel_modes.has .KEY then [{ mode := .KEY, arg := some k.m_key }] else []) ++
      (if k.channel_modes.has .LIMIT then
        [{ mode := .LIMIT, arg := some (number k.m_limit.toNat) }] else []))

theorem modeCalls_plain {args : List Bytes} {i : Nat} (l : List ChannelModes)
    (hl : ∀ mode ∈ l, takesArgument mode = false) (letters : Bytes) :
    modeCalls args i (l.map (letterOf channelModesTable) ++ letters) =
      l.map (fun mode => ({ mode } : ModeCall)) ++ modeCalls args i letters := by
  induction l with
  | nil => rfl
  | cons mode l ih =>
    have hread : readLetter args i (letterOf channelModesTable mode) = some { mode } := by
      unfold readLetter
      rw [lookup_channelLetter.mpr rfl]
      dsimp only
      rw [hl mode List.mem_cons_self, if_neg Bool.false_ne_true]
    have hwidth : ({ mode } : ModeCall).width = 0 := by
      unfold ModeCall.width
      rw [hl mode List.mem_cons_self, if_neg Bool.false_ne_true]
    rw [List.map_cons, List.cons_append, modeCalls, hread]
    dsimp only
    rw [hwidth, Nat.add_zero, ih fun m hm => hl m (List.mem_cons_of_mem _ hm)]
    rfl

theorem presentModes_eq {modes : Flags ChannelModes} (hban : modes.has .BAN = false) :
    presentModes channelModesTable modes =
      (plainModes.filter modes.has).map (letterOf channelModesTable) ++
        ((if modes.has .KEY then [107] else []) ++ (if modes.has .LIMIT then [108] else [])) := by
  have htable : channelModesTable = plainModes.map (fun mode => (mode, letterOf channelModesTable mode)) ++
      [(.BAN, 98), (.KEY, 107), (.LIMIT, 108)] := by decide
  unfold presentModes
  rw [htable, List.filter_append, List.map_append, List.filter_map, List.map_map]
  congr 1
  rw [List.filter_cons_of_neg (by rw [hban]; decide), List.filter_cons, List.filter_cons]
  by_cases hkey : modes.has .KEY = true
  · by_cases hlimit : modes.has .LIMIT = true
    · rw [if_pos hkey, if_pos hlimit, if_pos hkey, if_pos hlimit]
      rfl
    · rw [if_pos hkey, if_neg hlimit, if_pos hkey, if_neg hlimit]
      rfl
  · by_cases hlimit : modes.has .LIMIT = true
    · rw [if_neg hkey, if_pos hlimit, if_neg hkey, if_pos hlimit]
      rfl
    · rw [if_neg hkey, if_neg hlimit, if_neg hkey, if_neg hlimit]
      rfl

theorem modeCalls_reply {k : Channel} (h : k.ModeInv) (target : Bytes) :
    modeCalls (target :: modeWords k) 2 (presentModes channelModesTable k.channel_modes) =
      replyCalls k := by
  rw [presentModes_eq h.no_ban, modeCalls_plain]
  · unfold replyCalls modeWords
    congr 1
    cases hkey : k.channel_modes.has .KEY <;> cases hlimit : k.channel_modes.has .LIMIT <;> rfl
  · intro mode hmode
    have hall : ∀ mode ∈ plainModes, takesArgument mode = false := by decide
    exact hall mode (List.mem_of_mem_filter hmode)

/-- a channel without modes, key, limit and bans -/
structure Blank (k : Channel) : Prop where
  modes : k.channel_modes = ⟨0⟩
  key : k.m_key = []
  limit : k.m_limit = 0
  bans : k.m_ban_masks = ∅

theorem limit_of_reply {k : Channel} (h : k.ModeInv) :
    ({ mode := .LIMIT, arg := some (number k.m_limit.toNat) } : ModeCall).limit? true =
      some k.m_limit := by
  have hnat : (k.m_limit.toNat : Int) = k.m_limit := Int.toNat_of_nonneg h.limit_nonneg
  have hle : k.m_limit.toNat ≤ 2147483647 := by
    have := h.limit_le
    omega
  have hread := toInt_number hle
  rw [hnat] at hread
  show (toInt? (number k.m_limit.toNat)).filter (fun n => decide (0 ≤ n)) = _
  rw [hread]
  exact Option.filter_eq_some_iff.mpr ⟨rfl, decide_eq_true h.limit_nonneg⟩

theorem flags_replyCalls {k : Channel} (h : k.ModeInv) :
    (replyCalls k).filterMap (ModeCall.flag? true) =
      plainModes.filter k.channel_modes.has ++
        ((if k.channel_modes.has .KEY then [.KEY] else []) ++
          (if k.channel_modes.has .LIMIT then [.LIMIT] else [])) := by
  have hplain : ((plainModes.filter k.channel_modes.has).map fun mode => ({ mode } : ModeCall)).filterMap
      (ModeCall.flag? true) = plainModes.filter k.channel_modes.has := by
    rw [List.filterMap_map]
    refine (List.filterMap_congr fun mode hmode => ?_).trans List.filterMap_some
    have hall : ∀ mode ∈ plainModes, ({ mode } : ModeCall).flag? true = some mode := by decide
    exact hall mode (List.mem_of_mem_filter hmode)
  have hlimit := limit_of_reply h
  unfold replyCalls
  rw [List.filterMap_append, List.filterMap_append, hplain]
  congr 2
  · split <;> rfl
  · split
    · rw [List.filterMap_cons_some (b := .LIMIT)]
      · rfl
      · unfold ModeCall.flag?
        rw [hlimit]
        rfl
    · rfl

theorem applyCalls_reply {k k' : Channel} (h : k.ModeInv) (hblank : Blank k') :
    (applyCalls true (replyCalls k) k').channel_modes = k.channel_modes ∧
      (applyCalls true (replyCalls k) k').m_key = k.m_key ∧
      (applyCalls true (replyCalls k) k').m_limit = k.m_limit := by
  have hnone {α : Type} (f : ModeCall → Option α) (hf : ∀ mode ∈ plainModes, f { mode } = none) :
      ((plainModes.filter k.channel_modes.has).map fun mode => ({ mode } : ModeCall)).filterMap f = [] := by
    rw [List.filterMap_eq_nil_iff]
    intro call hcall
    obtain ⟨mode, hmode, rfl⟩ := List.mem_map.mp hcall
    exact hf mode (List.mem_of_mem_filter hmode)
  have hlimit := limit_of_reply h
  rw [applyCalls_eq]
  dsimp only
  refine ⟨?_, ?_, ?_⟩
  · rw [hblank.modes, flags_replyCalls h]
    apply Flags.ext_has (Flags.within_zero.turns true _) h.within
    intro e
    rw [Flags.has_turns]
    have hmem : e ∈ plainModes.filter k.channel_modes.has ++
        ((if k.channel_modes.has .KEY then [.KEY] else []) ++
          (if k.channel_modes.has .LIMIT then [.LIMIT] else [])) ↔ k.channel_modes.has e = true := by
      have hban := h.no_ban
      simp only [List.mem_append, List.mem_filter, List.mem_ite_nil_right, List.mem_singleton]
      cases e <;> simp [plainModes, hban]
    by_cases he : k.channel_modes.has e = true
    · rw [if_pos (hmem.mpr he), he]
    · rw [if_neg fun hin => he (hmem.mp hin), eq_false_of_ne_true he]
      exact Flags.not_has_of_empty rfl e
  · rw [hblank.key]
    unfold replyCalls
    rw [List.filterMap_append, List.filterMap_append, hnone _ (by decide)]
    cases hkey : k.channel_modes.has .KEY with
    | false =>
      rw [h.key hkey]
      cases k.channel_modes.has .LIMIT <;> rfl
    | true => cases k.channel_modes.has .LIMIT <;> rfl
  · rw [hblank.limit]
    unfold replyCalls
    rw [List.filterMap_append, List.filterMap_append, hnone _ (by decide)]
    cases hset : k.channel_modes.has .LIMIT with
    | false =>
      rw [h.limit hset]
      cases k.channel_modes.has .KEY <;> rfl
    | true =>
      have hlast : [({ mode := .LIMIT, arg := some (number k.m_limit.toNat) } : ModeCall)].filterMap
          (ModeCall.limit? true) = [k.m_limit] := List.filterMap_cons_some hlimit
      rw [if_pos rfl, hlast]
      cases k.channel_modes.has .KEY <;> rfl

/-- **The reply restores the modes.** -/
theorem restores_modeReply {env : Env} {c : ConnId} {w : World} {target : Bytes} {ch : ChanId}
    {k : Channel} (h : k.ModeInv) (hnick : target ≠ w.nick c) (hhash : startsWithHash target = true)
    (hch : Channel.get w (target.drop 1) = some ch) (hblank : Blank (w.chan ch))
    (hlists : modeReply k ≠ []) :
    ∃ w', handleMODE env c (target :: split 32 (modeReply k)) w = .ok w' ∧
      (w'.chan ch).channel_modes = k.channel_modes ∧ (w'.chan ch).m_key = k.m_key ∧
      (w'.chan ch).m_limit = k.m_limit := by
  have hp : presentModes channelModesTable k.channel_modes ≠ [] := by
    intro hp
    unfold modeReply at hlists
    rw [if_pos hp] at hlists
    exact hlists rfl
  rw [split_modeReply h hp]
  have hcalls := modeCalls_reply h target
  unfold modeWords at hcalls ⊢
  rw [handleMODE_change (.inl rfl) (.inr hhash), if_neg hnick]
  obtain ⟨w', hok, hown, -⟩ := @chan_channelModeChange env c _ w target
    (presentModes channelModesTable k.channel_modes) true ch hch
  refine ⟨w', hok, ?_⟩
  rw [hown, hcalls]
  exact applyCalls_reply h hblank

/-- a reply that lists nothing is about a channel without modes -/
theorem blank_of_modeReply {k : Channel} (h : k.ModeInv) (hreply : modeReply k = []) :
    k.channel_modes = ⟨0⟩ ∧ k.m_key = [] ∧ k.m_limit = 0 := by
  have hp : presentModes channelModesTable k.channel_modes = [] := by
    unfold modeReply at hreply
    by_contra hne
    rw [if_neg hne] at hreply
    cases hreply
  have hclear (e : ChannelModes) : k.channel_modes.has e = false := by
    have hrow : (e, letterOf channelModesTable e) ∈ channelModesTable := by cases e <;> decide
    have hnone := List.filter_eq_nil_iff.mp (List.map_eq_nil_iff.mp hp) _ hrow
    exact eq_false_of_ne_true hnone
  refine ⟨?_, h.key (hclear .KEY), h.limit (hclear .LIMIT)⟩
  apply Flags.ext_has h.within Flags.within_zero
  intro e
  rw [hclear e]
  exact (Flags.not_has_of_empty rfl e).symm

/-- **A query tells all that a sequence of changes has left.** -/
theorem modes_restored {env : Env} {ch : ChanId} {requests : List (ConnId × List Bytes)} {w : World}
    (hnew : (w.chan ch).settings = Channel.settings { m_name := [] })
    (hwords : ∀ r ∈ requests, ∀ key ∈ keyArguments r.2, (32 : UInt8) ∉ key) :
    ∃ w', run (fun w r => handleMODE env r.1 r.2 w) w requests = .ok w' ∧
      ((w'.chan ch).channel_modes.has .KEY = false → (w'.chan ch).m_key = []) ∧
      ((w'.chan ch).channel_modes.has .LIMIT = false → (w'.chan ch).m_limit = 0) ∧
      0 ≤ (w'.chan ch).m_limit ∧ (w'.chan ch).m_limit ≤ 2 ^ 31 - 1 ∧
      ∀ (c : ConnId) (target : Bytes), target ≠ w'.nick c → startsWithHash target = true →
        Channel.get w' (target.drop 1) = some ch →
        ∃ reply, handleMODE env c [target] w' = .ok (send_raw env c (ascii "324 " ++ w'.nick c ++
          ascii " #" ++ (w'.chan ch).m_name ++ ascii " :" ++ reply) w') ∧
          ∀ (w0 : World) (c0 : ConnId) (target0 : Bytes) (ch0 : ChanId), target0 ≠ w0.nick c0 →
            startsWithHash target0 = true → Channel.get w0 (target0.drop 1) = some ch0 →
            Blank (w0.chan ch0) →
            ∃ w1, (if reply = [] then .ok w0 else handleMODE env c0 (target0 :: split 32 reply) w0) =
                .ok w1 ∧ (w1.chan ch0).channel_modes = (w'.chan ch).channel_modes ∧
              (w1.chan ch0).m_key = (w'.chan ch).m_key ∧ (w1.chan ch0).m_limit = (w'.chan ch).m_limit := by
  obtain ⟨w', hrun, hinv⟩ := modeInv_run (Channel.ModeInv.fresh hnew) hwords
  refine ⟨w', hrun, hinv.key, hinv.limit, hinv.limit_nonneg, hinv.limit_le, ?_⟩
  intro c target hnick hhash hch
  refine ⟨modeReply (w'.chan ch), handleMODE_query hnick hhash hch, ?_⟩
  intro w0 c0 target0 ch0 hnick0 hhash0 hch0 hblank
  by_cases hreply : modeReply (w'.chan ch) = []
  · obtain ⟨hmodes, hkey, hlimit⟩ := blank_of_modeReply hinv hreply
    refine ⟨w0, if_pos hreply, ?_⟩
    rw [hblank.modes, hblank.key, hblank.limit, hmodes, hkey, hlimit]
    exact ⟨rfl, rfl, rfl⟩
  · rw [if_neg hreply]
    exact restores_modeReply hinv hnick0 hhash0 hch0 hblank hreply

/-- a key, a limit and a moderated channel -/
theorem modes_restored_ann : ∃ w w',
    run (Worker.step Env.ascii) World.empty
      (Worker.registration 0 false "ann" ++ [.line 0 (ascii "JOIN #x")]) = .ok w ∧
      run (fun w r => handleMODE Env.ascii r.1 r.2 w) w
        [(0, [ascii "#x", ascii "+mkl", ascii "key", ascii "5"])] = .ok w' ∧
      0 ≤ (w'.chan 0).m_limit ∧ (w'.chan 0).m_limit ≤ 2 ^ 31 - 1 := by
  obtain ⟨w, hrun, -, -, hch⟩ := ann_joins
  have hnew : (w.chan 0).settings = Channel.settings { m_name := [] } := by
    rw [hch]
    rfl
  have hwords : ∀ r ∈ [((0 : ConnId), [ascii "#x", ascii "+mkl", ascii "key", ascii "5"])],
      ∀ key ∈ keyArguments r.2, (32 : UInt8) ∉ key := by decide
  obtain ⟨w', hrequests, -, -, h0, hle, -⟩ := @modes_restored Env.ascii 0 _ w hnew hwords
  exact ⟨w, w', hrun, hrequests, h0, hle⟩

end client_connection

end Chatripper
