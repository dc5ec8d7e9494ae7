import Mathlib
import Chatripper.Irc.ModeWalk
import Chatripper.Irc.Registering

/-!
# What a MODE change announces, and what its letters are given

A change applies the letters that are known and have their argument.  The MODE reply lists the bits
that these have turned, but an unknown letter or a missing argument is answered with 501 in its
place, after the others have been applied.  A `-l` takes an argument, which CHANMODES does not say.

* `AnnouncedOrRefused`      what a change is to do;
* `Announceable`            when it does;
* `advertised`              the arguments of the letters by CHANMODES;
* `argumentsGiven`          the arguments that the walk gives them.
-/

namespace Chatripper
open ByteStr Utf8 Outcome

/-! ## the reply to a change -/

/-- what a MODE change can write of a channel -/
structure ChannelSettings where
  channel_modes : Flags ChannelModes
  m_key : Bytes
  m_limit : Int
  m_ban_masks : QSet Bytes

def Channel.settings (k : Channel) : ChannelSettings :=
  ⟨k.channel_modes, k.m_key, k.m_limit, k.m_ban_masks⟩

/-- the letters of the bits that differ, each once, and all of them turned to `adding` -/
structure Announces {E : Type} [FlagEnum E] (table : List (E × UInt8)) (before after : Flags E)
    (adding : Bool) (letters : Bytes) : Prop where
  nodup : letters.Nodup
  letter : ∀ l, l ∈ letters ↔ ∃ mode, lookupLetter table l = some mode ∧ before.has mode ≠ after.has mode
  sign : ∀ mode, before.has mode ≠ after.has mode → after.has mode = adding

/-- the letters of the bits that items of one sign have turned -/
theorem announces_turned {σ ι E : Type} [FlagEnum E] [DecidableEq E] {table : List (E × UInt8)}
    (hlookup : ∀ mode l, lookupLetter table l = some mode ↔ l = letterOf table mode)
    {flags : σ → Flags E} {bit : ι → E} {apply : σ → ι → σ} {b : Bool}
    (h : Turns (fun s => (flags s).has) bit apply b) (s : σ) (is : List ι) :
    Announces table (flags s) (flags (is.foldl apply s)) b
      ((turned (fun s => (flags s).has) bit apply s is).map (letterOf table)) where
  nodup := by
    refine (h.nodup_turned s is).map fun e e' he => ?_
    have hmode := (hlookup e _).mpr rfl
    rw [he, (hlookup e' _).mpr rfl] at hmode
    exact (Option.some.inj hmode).symm
  letter l := by
    rw [List.mem_map]
    constructor
    · rintro ⟨mode, hmode, rfl⟩
      exact ⟨mode, (hlookup mode _).mpr rfl, h.mem_turned.mp hmode⟩
    · rintro ⟨mode, hl, hne⟩
      exact ⟨mode, h.mem_turned.mpr hne, ((hlookup mode l).mp hl).symm⟩
  sign _ hne := h.value hne

namespace ModeCall

theorem has_apply (adding : Bool) (k : Channel) (call : ModeCall) (e : ChannelModes) :
    (call.apply adding k).channel_modes.has e =
      if call.flag? adding = some e then adding else k.channel_modes.has e := by
  rw [apply_eq]
  dsimp only
  cases call.flag? adding with
  | none => rfl
  | some mode =>
    show (k.channel_modes.turn adding mode).has e = _
    rw [Flags.has_turn]
    simp only [Option.some.injEq, eq_comm]

theorem mode_of_flag {adding : Bool} {call : ModeCall} {e : ChannelModes}
    (h : call.flag? adding = some e) : call.mode = e := by
  unfold flag? at h
  split at h
  · cases h
  · exact Option.some.inj h

/-- a call turns the bit of its mode or none -/
theorem turns (adding : Bool) :
    Turns (fun k : Channel => k.channel_modes.has) ModeCall.mode (ModeCall.apply adding) adding := by
  constructor
  · intro k call e he
    exact (has_apply adding k call e).trans (if_neg fun h => he (mode_of_flag h).symm)
  · intro k call
    by_cases h : call.flag? adding = some call.mode
    · exact .inr ((has_apply adding k call _).trans (if_pos h))
    · exact .inl ((has_apply adding k call _).trans (if_neg h))

end ModeCall

namespace client_connection
open World Worker

/-- `c` is answered with an error numeric, and with nothing else -/
def ErrorReply (env : Env) (c : ConnId) (w w' : World) : Prop :=
  ∃ code text, 400 ≤ code ∧ code < 600 ∧ w'.out = (reply_num env c code text w).out

/-- `c` is sent the MODE reply with these letters, and nothing when there are none -/
def ModeReply (env : Env) (c : ConnId) (target : Bytes) (adding : Bool) (letters : Bytes)
    (w w' : World) : Prop :=
  w'.out = if letters = [] then w.out
    else (send_raw env c (ascii "MODE " ++ target ++ ascii " :" ++ modePrefix adding ++ letters) w).out

/-- no mode, key, limit or ban has changed -/
def SameModes (w w' : World) : Prop :=
  (∀ c, (w'.conn c).user_modes = (w.conn c).user_modes) ∧
    ∀ ch, (w'.chan ch).settings = (w.chan ch).settings

/-- refused, and nothing has changed, or announced as it was made -/
def AnnouncedOrRefused (env : Env) (c : ConnId) (target : Bytes) (adding : Bool) (w w' : World) :
    Prop :=
  (ErrorReply env c w w' ∧ SameModes w w') ∨
    ∃ letters, ModeReply env c target adding letters w w' ∧
      if target = w.nick c then
        Announces userModesTable (w.conn c).user_modes (w'.conn c).user_modes adding letters
      else ∀ ch, Channel.get w (target.drop 1) = some ch →
        Announces channelModesTable (w.chan ch).channel_modes (w'.chan ch).channel_modes adding letters

/-- every letter is known and has its argument, or nothing that is applied is new -/
def Announceable (c : ConnId) (target : Bytes) (adding : Bool) (letters : Bytes) (args : List Bytes)
    (w : World) : Prop :=
  if target = w.nick c then
    (∀ l ∈ letters, (lookupLetter userModesTable l).isSome = true) ∨
      ∀ l ∈ letters, ∀ mode, lookupLetter userModesTable l = some mode →
        (w.conn c).user_modes.has mode = adding
  else ∀ ch, Channel.get w (target.drop 1) = some ch →
    modesComplete args 2 letters = true ∨ InForce adding (modeCalls args 2 letters) (w.chan ch)

/-! ## which reply it is -/

section
variable {env : Env} {c : ConnId} {w w' : World} {target : Bytes} {adding : Bool} {letters : Bytes}

/-- an error numeric is no MODE reply -/
theorem not_modeReply_501 {text : Bytes} (hout : w'.out = (reply_num env c 501 text w).out) :
    ¬ ModeReply env c target adding letters w w' := by
  unfold ModeReply
  rw [hout]
  intro h
  by_cases hl : letters = []
  · rw [if_pos hl] at h
    have hlen := congrArg List.length h
    unfold reply_num send_raw emit at hlen
    rw [List.length_append] at hlen
    exact absurd hlen (by simp)
  · rw [if_neg hl] at h
    have hlast := List.append_cancel_left h
    have hline := congrArg Prod.snd (List.cons.inj hlast).1
    dsimp only at hline
    simp only [List.append_assoc, List.append_cancel_left_eq] at hline
    cases hline

theorem sameModes_setUserModes {F : Flags UserModes → Flags UserModes} :
    SameModes w (setUserModes c F w) ↔ F (w.conn c).user_modes = (w.conn c).user_modes := by
  constructor
  · intro h
    have hc := h.1 c
    rw [user_modes_setUserModes, if_pos rfl] at hc
    exact hc
  · intro h
    refine ⟨fun x => ?_, fun ch => rfl⟩
    rw [user_modes_setUserModes]
    by_cases hx : x = c
    · rw [if_pos hx, h, hx]
    · rw [if_neg hx]

theorem sameModes_updChan {ch : ChanId} {F : Channel → Channel} :
    SameModes w (w.updChan ch F) ↔ (F (w.chan ch)).settings = (w.chan ch).settings := by
  constructor
  · intro h
    have hch := h.2 ch
    rw [updChan_chan, if_pos rfl] at hch
    exact hch
  · intro h
    refine ⟨fun x => rfl, fun x => ?_⟩
    rw [updChan_chan]
    by_cases hx : x = ch
    · rw [if_pos hx, h, hx]
    · rw [if_neg hx]

theorem errorReply_501 {w1 : World} (hnick : w1.nick c = w.nick c) (hout : w1.out = w.out) :
    ErrorReply env c w (reply_num env c 501 (ascii "Unknown MODE flag") w1) := by
  refine ⟨501, ascii "Unknown MODE flag", by decide, by decide, ?_⟩
  unfold reply_num
  rw [hnick]
  exact congrArg (· ++ _) hout

/-- a change that is answered with 501 is refused if nothing has changed -/
theorem announcedOrRefused_501 {w1 : World} (hnick : w1.nick c = w.nick c) (hout : w1.out = w.out) :
    AnnouncedOrRefused env c target adding w
      (reply_num env c 501 (ascii "Unknown MODE flag") w1) ↔ SameModes w w1 := by
  constructor
  · rintro (⟨-, h⟩ | ⟨letters, h, -⟩)
    · exact h
    · have hreply : (reply_num env c 501 (ascii "Unknown MODE flag") w1).out =
          (reply_num env c 501 (ascii "Unknown MODE flag") w).out := by
        unfold reply_num
        rw [hnick]
        exact congrArg (· ++ _) hout
      exact absurd h (not_modeReply_501 hreply)
  · intro h
    exact .inl ⟨errorReply_501 hnick hout, h⟩

theorem userModeChange_announces : AnnouncedOrRefused env c (w.nick c) adding w
      (userModeChange env c adding letters w) ↔
    (∀ l ∈ letters, (lookupLetter userModesTable l).isSome = true) ∨
      ∀ l ∈ letters, ∀ mode, lookupLetter userModesTable l = some mode →
        (w.conn c).user_modes.has mode = adding := by
  have hturns := Flags.turns (E := UserModes) adding
  have hown (f : Flags UserModes) (e : UserModes) : (f.turn adding e).has (id e) = adding :=
    (Flags.has_turn adding f e e).trans (if_pos rfl)
  have hnew : (∀ l ∈ letters, ∀ mode, lookupLetter userModesTable l = some mode →
      (w.conn c).user_modes.has mode = adding) ↔
        (userModesOf letters).foldl (Flags.turn adding) (w.conn c).user_modes =
          (w.conn c).user_modes := by
    rw [hturns.foldl_eq_self hown fun _ _ => Flags.turn_same]
    constructor
    · intro h mode hmode
      obtain ⟨l, hl, hsome⟩ := List.mem_filterMap.mp hmode
      exact h l hl mode hsome
    · intro h l hl mode hsome
      exact h mode (List.mem_filterMap.mpr ⟨l, hl, hsome⟩)
  have hann : Announces userModesTable (w.conn c).user_modes
      ((userModesOf letters).foldl (Flags.turn adding) (w.conn c).user_modes) adding
      ((turned Flags.has id (Flags.turn adding) (w.conn c).user_modes (userModesOf letters)).map
        (letterOf userModesTable)) :=
    announces_turned (fun _ _ => lookup_userLetter) hturns _ _
  have hnick := nick_setUserModes c ((userModesOf letters).foldl (Flags.turn adding) ·) w
  rw [hnew]
  unfold userModeChange
  dsimp only
  rw [userWalk]
  dsimp only
  rw [List.nil_append, Bool.false_or]
  by_cases hall : ∀ l ∈ letters, (lookupLetter userModesTable l).isSome = true
  · rw [List.all_eq_true.mpr hall]
    refine iff_of_true ?_ (.inl hall)
    rw [if_neg (by decide)]
    by_cases hr : (turned Flags.has id (Flags.turn adding) (w.conn c).user_modes
        (userModesOf letters)).map (letterOf userModesTable) = []
    · rw [if_pos hr]
      apply (announcedOrRefused_501 hnick rfl).mpr
      apply sameModes_setUserModes.mpr
      exact (hturns.turned_eq_nil hown fun _ _ => Flags.turn_same).mp (List.map_eq_nil_iff.mp hr)
    · rw [if_neg hr]
      refine .inr ⟨_, (if_neg hr).symm, ?_⟩
      have hmodes := user_modes_setUserModes c ((userModesOf letters).foldl (Flags.turn adding) ·) w c
      rw [if_pos rfl] at hmodes ⊢
      rw [← hmodes] at hann
      exact hann
  · have hinvalid : (!letters.all fun l => (lookupLetter userModesTable l).isSome) = true := by
      rw [Bool.not_eq_true', ← Bool.not_eq_true, List.all_eq_true]
      exact hall
    rw [if_pos hinvalid, announcedOrRefused_501 hnick rfl, sameModes_setUserModes]
    exact (or_iff_right hall).symm

/-- the calls write no other field -/
theorem settings_applyCalls {calls : List ModeCall} {k : Channel} :
    (applyCalls adding calls k).settings = k.settings ↔ InForce adding calls k := by
  rw [← applyCalls_eq_self]
  constructor
  · intro h
    rw [applyCalls_eq] at h ⊢
    unfold Channel.settings at h
    obtain ⟨hmodes, hkey, hlimit, hbans⟩ := (ChannelSettings.mk.injEq ..).mp h
    dsimp only at hmodes hkey hlimit hbans
    rw [hmodes, hkey, hlimit, hbans]
  · exact congrArg Channel.settings

/-- the letters of the bits that the calls turn -/
def turnedLetters (adding : Bool) (calls : List ModeCall) (k : Channel) : Bytes :=
  (turned Channel.hasMode ModeCall.mode (ModeCall.apply adding) k calls).map
    (letterOf channelModesTable)

/-- **What a channel mode change does.** -/
theorem channelModeChange_eq {ch : ChanId} {args : List Bytes}
    (hch : Channel.get w (target.drop 1) = some ch) :
    channelModeChange env c target adding letters args w =
      .ok (if modesComplete args 2 letters = false then
        reply_num env c 501 (ascii "Unknown MODE flag")
          (w.updChan ch (applyCalls adding (modeCalls args 2 letters)))
      else if turnedLetters adding (modeCalls args 2 letters) (w.chan ch) = [] then
        w.updChan ch (applyCalls adding (modeCalls args 2 letters))
      else send_raw env c (ascii "MODE " ++ target ++ ascii " :" ++ modePrefix adding ++
        turnedLetters adding (modeCalls args 2 letters) (w.chan ch))
          (w.updChan ch (applyCalls adding (modeCalls args 2 letters)))) := by
  unfold channelModeChange
  rw [hch]
  dsimp only
  rw [channelWalk]
  show (if (false || !modesComplete args 2 letters) = true then _ else
    if [] ++ _ = [] then _ else _) = _
  rw [Bool.false_or, List.nil_append]
  by_cases hcomplete : modesComplete args 2 letters = true
  · rw [hcomplete, if_neg (by decide : ¬ (!true) = true), if_neg (by decide : ¬ true = false)]
    show (if turnedLetters adding (modeCalls args 2 letters) (w.chan ch) = [] then _ else _) = _
    by_cases hr : turnedLetters adding (modeCalls args 2 letters) (w.chan ch) = []
    · rw [if_pos hr, if_pos hr]
      rfl
    · rw [if_neg hr, if_neg hr]
      rfl
  · rw [Bool.not_eq_true] at hcomplete
    rw [hcomplete]
    rfl

theorem channelModeChange_incomplete {ch : ChanId} {args : List Bytes}
    (hch : Channel.get w (target.drop 1) = some ch) (h : ¬ modesComplete args 2 letters = true) :
    channelModeChange env c target adding letters args w =
      .ok (reply_num env c 501 (ascii "Unknown MODE flag")
        (w.updChan ch (applyCalls adding (modeCalls args 2 letters)))) := by
  rw [channelModeChange_eq hch, if_pos (Bool.not_eq_true _ ▸ h)]

theorem channelModeChange_complete {ch : ChanId} {args : List Bytes}
    (hch : Channel.get w (target.drop 1) = some ch) (h : modesComplete args 2 letters = true) :
    ∃ w', channelModeChange env c target adding letters args w = .ok w' ∧
      ModeReply env c target adding (turnedLetters adding (modeCalls args 2 letters) (w.chan ch)) w w' ∧
      w'.chan ch = applyCalls adding (modeCalls args 2 letters) (w.chan ch) := by
  refine ⟨_, channelModeChange_eq hch, ?_⟩
  rw [h, if_neg (by decide)]
  unfold ModeReply
  by_cases hr : turnedLetters adding (modeCalls args 2 letters) (w.chan ch) = []
  · rw [if_pos hr, if_pos hr]
    exact ⟨rfl, if_pos rfl⟩
  · rw [if_neg hr, if_neg hr]
    exact ⟨rfl, if_pos rfl⟩

theorem channelModeChange_announces {ch : ChanId} {args : List Bytes} (htarget : target ≠ w.nick c)
    (hch : Channel.get w (target.drop 1) = some ch) :
    ∃ w', channelModeChange env c target adding letters args w = .ok w' ∧
      (AnnouncedOrRefused env c target adding w w' ↔
        modesComplete args 2 letters = true ∨ InForce adding (modeCalls args 2 letters) (w.chan ch)) := by
  by_cases hcomplete : modesComplete args 2 letters = true
  · obtain ⟨w', hok, hreply, hchan⟩ := channelModeChange_complete hch hcomplete
    refine ⟨w', hok, iff_of_true (.inr ⟨_, hreply, ?_⟩) (.inl hcomplete)⟩
    rw [if_neg htarget]
    intro ch' hch'
    rw [hch] at hch'
    cases hch'
    rw [hchan]
    exact announces_turned (fun _ _ => lookup_channelLetter) (ModeCall.turns adding) (w.chan ch)
      (modeCalls args 2 letters)
  · refine ⟨_, channelModeChange_incomplete hch hcomplete, ?_⟩
    have hsame := @sameModes_updChan w ch (applyCalls adding (modeCalls args 2 letters))
    rw [or_iff_right hcomplete, ← settings_applyCalls]
    exact Iff.trans (announcedOrRefused_501 rfl rfl) hsame

end

theorem handleMODE_change {env : Env} {c : ConnId} {w : World} {target letters : Bytes}
    {sign : UInt8} {args : List Bytes} (hsign : sign = 43 ∨ sign = 45)
    (htarget : target = w.nick c ∨ startsWithHash target = true) :
    handleMODE env c (target :: (sign :: letters) :: args) w =
      if target = w.nick c then .ok (userModeChange env c (sign == 43) letters w)
      else channelModeChange env c target (sign == 43) letters (target :: (sign :: letters) :: args) w := by
  have hb : ¬ (startsWithHash target = true ∧ sign :: letters = ascii "b") := by
    rintro ⟨-, hb⟩
    have hhead : sign = 98 := (List.cons.inj hb).1
    rcases hsign with h | h <;> rw [h] at hhead <;> cases hhead
  have hknown : ¬ (sign ≠ 43 ∧ sign ≠ 45) := by
    rintro ⟨h1, h2⟩
    exact hsign.elim h1 h2
  unfold handleMODE
  have hzero : ¬ (target :: (sign :: letters) :: args).length = 0 := Nat.succ_ne_zero _
  have hone : ¬ (target :: (sign :: letters) :: args).length = 1 := by
    rw [List.length_cons, List.length_cons]
    omega
  have h0 : listAt (target :: (sign :: letters) :: args) 0 = .ok target := rfl
  have h1 : listAt (target :: (sign :: letters) :: args) 1 = .ok (sign :: letters) := rfl
  simp only [hzero, hone, hb, hknown, if_false, h0, h1, bind, Except.bind]
  by_cases hnick : target = w.nick c
  · rw [if_pos hnick, if_pos hnick]
  · rw [if_neg hnick, if_neg hnick, if_pos (htarget.resolve_left hnick)]

/-- **A MODE change is announced as it was made, or refused and not made, unless a letter that is
unknown or lacks its argument stands beside one that changes something.** -/
theorem handleMODE_announces_iff {env : Env} {c : ConnId} {w : World} {target letters : Bytes}
    {sign : UInt8} {args : List Bytes} (hsign : sign = 43 ∨ sign = 45)
    (htarget : target = w.nick c ∨
      startsWithHash target = true ∧ (Channel.get w (target.drop 1)).isSome = true) :
    ∃ w', handleMODE env c (target :: (sign :: letters) :: args) w = .ok w' ∧
      (AnnouncedOrRefused env c target (sign == 43) w w' ↔
        Announceable c target (sign == 43) letters (target :: (sign :: letters) :: args) w) := by
  rw [handleMODE_change hsign (htarget.imp_right And.left)]
  unfold Announceable
  by_cases hnick : target = w.nick c
  · rw [if_pos hnick]
    refine ⟨_, rfl, ?_⟩
    rw [if_pos hnick, hnick]
    exact userModeChange_announces
  · rw [if_neg hnick]
    obtain ⟨-, hsome⟩ := htarget.resolve_left hnick
    obtain ⟨ch, hch⟩ := Option.isSome_iff_exists.mp hsome
    have hchange := @channelModeChange_announces env c w target (sign == 43) letters ch
      (target :: (sign :: letters) :: args) hnick hch
    obtain ⟨w', hok, hiff⟩ := hchange
    refine ⟨w', hok, ?_⟩
    rw [if_neg hnick, hiff]
    constructor
    · intro h ch' hch'
      rw [hch] at hch'
      cases hch'
      exact h
    · intro h
      exact h ch hch

/-- bob is on line and not invisible -/
theorem bob_registers : ∃ w, run (step Env.ascii) World.empty (registration 0 false "bob") = .ok w ∧
    w.nick 0 = ascii "bob" ∧ (w.conn 0).user_modes.has .INVISIBLE = false :=
  ⟨_, run_registered (letsIn_empty (by decide) (by decide)) false, rfl, rfl⟩

set_option maxRecDepth 8000 in
/-- `MODE bob +i` -/
theorem handleMODE_announces_bob : ∃ w w',
    run (step Env.ascii) World.empty (registration 0 false "bob") = .ok w ∧
      handleMODE Env.ascii 0 [ascii "bob", ascii "+i"] w = .ok w' ∧
      AnnouncedOrRefused Env.ascii 0 (ascii "bob") true w w' := by
  obtain ⟨w, hrun, hnick, -⟩ := bob_registers
  obtain ⟨w', hok, hiff⟩ := @handleMODE_announces_iff Env.ascii 0 w (ascii "bob") (ascii "i") 43 []
    (.inl rfl) (.inl hnick.symm)
  refine ⟨w, w', hrun, hok, hiff.mpr ?_⟩
  unfold Announceable
  rw [if_pos hnick.symm]
  exact .inl (by decide)

/-- `MODE bob +iQ` makes bob invisible and says that it has not -/
theorem handleMODE_announces_false : ∃ w w',
    run (step Env.ascii) World.empty (registration 0 false "bob") = .ok w ∧
      handleMODE Env.ascii 0 [ascii "bob", ascii "+iQ"] w = .ok w' ∧
      ¬ AnnouncedOrRefused Env.ascii 0 (ascii "bob") true w w' := by
  obtain ⟨w, hrun, hnick, hmodes⟩ := bob_registers
  have hchange := @handleMODE_change Env.ascii 0 w (ascii "bob") (ascii "iQ") 43 []
    (.inl rfl) (.inl hnick.symm)
  rw [if_pos hnick.symm] at hchange
  refine ⟨w, _, hrun, hchange, ?_⟩
  rw [← hnick]
  intro hann
  rcases userModeChange_announces.mp hann with h | h
  · exact absurd (h 81 (by decide)) (by decide)
  · have hi := h 105 (by decide) .INVISIBLE rfl
    rw [hmodes] at hi
    cases hi

/-! ## the arguments by CHANMODES -/

/-- the CHANMODES token that the server advertises -/
def chanmodes : Bytes := (({} : ThreadedServer).isupport.lookup (ascii "CHANMODES")).getD []

/-- the letters of a class: A, B, C, D from 0 -/
def chanmodesClass (n : Nat) : Bytes := (split 44 chanmodes)[n]?.getD []

/-- classes A and B take an argument, class C takes one when it is added -/
def advertisedTakes (adding : Bool) (letter : UInt8) : Bool :=
  (chanmodesClass 0).contains letter || (chanmodesClass 1).contains letter ||
    (adding && (chanmodesClass 2).contains letter)

/-- the arguments that the letters have by CHANMODES, from left to right; the letters are to be known
and the arguments enough -/
def advertised (adding : Bool) : Bytes → List Bytes → Option (List (Option Bytes))
  | [], _ => some []
  | letter :: letters, args =>
    if (lookupLetter channelModesTable letter).isNone then none
    else if advertisedTakes adding letter then
      match args with
      | [] => none
      | modeArg :: args => (advertised adding letters args).map (some modeArg :: ·)
    else (advertised adding letters args).map (none :: ·)

/-- the arguments that the walk gives to the letters -/
def argumentsGiven (ch : ChanId) (adding : Bool) (args : List Bytes) : ModeWalk → Bytes → List (Option Bytes)
  | _, [] => []
  | s, letter :: letters =>
    let modeArg := match lookupLetter channelModesTable letter with
      | none => none
      | some mode => if takesArgument mode then args[s.argIndex]? else none
    modeArg :: match channelModeStep ch adding args s letter with
      | .ok s => argumentsGiven ch adding args s letters
      | .error _ => []

section
variable {adding : Bool} {letters : Bytes} {args : List Bytes} {i : Nat}

/-- a known letter takes an argument in the walk as it does by CHANMODES, but for a `-l` -/
theorem takesArgument_letter (mode : ChannelModes) (h : adding = true ∨ mode ≠ .LIMIT) :
    takesArgument mode = advertisedTakes adding (letterOf channelModesTable mode) := by
  cases adding with
  | true => cases mode <;> rfl
  | false =>
    have hne := h.resolve_left Bool.false_ne_true
    cases mode with
    | LIMIT => exact absurd rfl hne
    | _ => rfl

theorem readLetter_arg {letter : UInt8} {call : ModeCall} (h : readLetter args i letter = some call) :
    call.arg = if takesArgument call.mode then args[i]? else none := by
  unfold readLetter at h
  cases hletter : lookupLetter channelModesTable letter with
  | none => rw [hletter] at h; cases h
  | some mode =>
    rw [hletter] at h
    dsimp only at h
    by_cases ht : takesArgument mode = true
    · rw [if_pos ht] at h
      obtain ⟨modeArg, harg, rfl⟩ := Option.map_eq_some_iff.mp h
      rw [if_pos ht, harg]
    · rw [if_neg ht] at h
      cases h
      rw [if_neg ht]

/-- what the walk gives is what the calls have -/
theorem argumentsGiven_eq {ch : ChanId} (s : ModeWalk) (h : modesComplete args s.argIndex letters = true) :
    argumentsGiven ch adding args s letters =
      (modeCalls args s.argIndex letters).map ModeCall.arg := by
  induction letters generalizing s with
  | nil => rfl
  | cons letter letters ih =>
    unfold modesComplete at h
    unfold modeCalls argumentsGiven
    cases hread : readLetter args s.argIndex letter with
    | none => rw [hread] at h; cases h
    | some call =>
      rw [hread] at h
      rw [channelModeStep_some hread, (readLetter_some hread).1]
      dsimp only
      rw [List.map_cons, readLetter_arg hread]
      exact congrArg _ (ih (s.applied ch adding call) h)

/-- the walk reads the letters as CHANMODES does, if none is a `-l` -/
theorem complete_of_advertised (hl : adding = true ∨ (108 : UInt8) ∉ letters)
    {l : List (Option Bytes)} (h : advertised adding letters (args.drop i) = some l) :
    modesComplete args i letters = true ∧ (modeCalls args i letters).map ModeCall.arg = l := by
  induction letters generalizing i l with
  | nil => exact ⟨rfl, Option.some.inj h⟩
  | cons letter letters ih =>
    have hl' : adding = true ∨ (108 : UInt8) ∉ letters :=
      hl.imp_right fun h hmem => h (List.mem_cons_of_mem _ hmem)
    unfold advertised at h
    unfold modesComplete modeCalls readLetter
    cases hletter : lookupLetter channelModesTable letter with
    | none => rw [hletter] at h; cases h
    | some mode =>
      have hne : adding = true ∨ mode ≠ .LIMIT := by
        refine hl.imp_right ?_
        rintro h rfl
        rw [lookup_channelLetter.mp hletter] at h
        exact h List.mem_cons_self
      have htakes := takesArgument_letter mode hne
      rw [← lookup_channelLetter.mp hletter] at htakes
      rw [hletter, Option.isNone_some, if_neg Bool.false_ne_true, ← htakes] at h
      dsimp only
      by_cases ht : takesArgument mode = true
      · rw [if_pos ht] at h ⊢
        cases hdrop : args.drop i with
        | nil => rw [hdrop] at h; cases h
        | cons modeArg rest =>
          rw [hdrop] at h
          obtain ⟨l', hadv, rfl⟩ := Option.map_eq_some_iff.mp h
          have hget : args[i]? = some modeArg := by
            rw [← List.head?_drop, hdrop, List.head?_cons]
          have hrest : args.drop (i + 1) = rest := by
            rw [← List.drop_drop, hdrop, List.drop_one, List.tail_cons]
          have hwidth : ({ mode, arg := some modeArg } : ModeCall).width = 1 := if_pos ht
          rw [← hrest] at hadv
          obtain ⟨hcomplete, hcalls⟩ := ih hl' hadv
          rw [hget]
          dsimp only [Option.map_some]
          rw [List.map_cons, hwidth]
          exact ⟨hcomplete, congrArg _ hcalls⟩
      · rw [if_neg ht] at h ⊢
        obtain ⟨l', hadv, rfl⟩ := Option.map_eq_some_iff.mp h
        have hwidth : ({ mode } : ModeCall).width = 0 := if_neg ht
        obtain ⟨hcomplete, hcalls⟩ := ih hl' hadv
        dsimp only
        rw [List.map_cons, hwidth]
        exact ⟨hcomplete, congrArg _ hcalls⟩

/-- a `-l` has an argument in the walk and none by CHANMODES -/
theorem not_advertised_of_limit (hl : (108 : UInt8) ∈ letters)
    (hcomplete : modesComplete args i letters = true) {l : List (Option Bytes)} {rest : List Bytes}
    (h : advertised false letters rest = some l) :
    (modeCalls args i letters).map ModeCall.arg ≠ l := by
  induction letters generalizing i l rest with
  | nil => exact absurd hl List.not_mem_nil
  | cons letter letters ih =>
    unfold modesComplete at hcomplete
    unfold modeCalls
    cases hread : readLetter args i letter with
    | none => rw [hread] at hcomplete; cases hcomplete
    | some call =>
      rw [hread] at hcomplete
      dsimp only at hcomplete ⊢
      obtain ⟨hletter, hhas, -⟩ := readLetter_some hread
      unfold advertised at h
      rw [hletter, Option.isNone_some, if_neg Bool.false_ne_true] at h
      rw [List.map_cons]
      by_cases hlimit : letter = 108
      · -- the heads differ
        have hmode : call.mode = .LIMIT := by
          rw [hlimit] at hletter
          exact (Option.some.inj hletter).symm
        have hnot : advertisedTakes false letter = false := by
          rw [hlimit]
          rfl
        have htakes : takesArgument call.mode = true := by
          rw [hmode]
          rfl
        have hgiven : call.arg = some (args.get ⟨i, hhas htakes⟩) := by
          rw [readLetter_arg hread, if_pos htakes]
          exact List.getElem?_eq_getElem (hhas htakes)
        rw [hnot, if_neg Bool.false_ne_true] at h
        obtain ⟨l', -, rfl⟩ := Option.map_eq_some_iff.mp h
        rw [hgiven]
        intro heq
        cases (List.cons.inj heq).1
      · have hmem : (108 : UInt8) ∈ letters :=
          (List.mem_cons.mp hl).resolve_left fun he => hlimit he.symm
        have htail {l' : List (Option Bytes)} {x : Option Bytes} {rest' : List Bytes}
            (hadv : advertised false letters rest' = some l') :
            call.arg :: (modeCalls args (i + call.width) letters).map ModeCall.arg ≠ x :: l' :=
          fun heq => ih hmem hcomplete hadv (List.cons.inj heq).2
        by_cases ht : advertisedTakes false letter = true
        · rw [if_pos ht] at h
          cases rest with
          | nil => cases h
          | cons modeArg rest =>
            obtain ⟨l', hadv, rfl⟩ := Option.map_eq_some_iff.mp h
            exact htail hadv
        · rw [if_neg ht] at h
          obtain ⟨l', hadv, rfl⟩ := Option.map_eq_some_iff.mp h
          exact htail hadv

end

/-- `c` is answered with 501 -/
def Answered501 (env : Env) (c : ConnId) (w w' : World) : Prop :=
  ∃ text, w'.out = (reply_num env c 501 text w).out

/-- **The letters of a channel mode change have the arguments that CHANMODES gives them, and there is no
501, unless one is a `-l`.** -/
theorem handleMODE_advertised_iff {env : Env} {c : ConnId} {w : World} {target letters : Bytes}
    {sign : UInt8} {args : List Bytes} {ch : ChanId} {l : List (Option Bytes)}
    (hsign : sign = 43 ∨ sign = 45) (hnick : target ≠ w.nick c)
    (hhash : startsWithHash target = true) (hch : Channel.get w (target.drop 1) = some ch)
    (hl : advertised (sign == 43) letters args = some l) :
    ∃ w', handleMODE env c (target :: (sign :: letters) :: args) w = .ok w' ∧
      (argumentsGiven ch (sign == 43) (target :: (sign :: letters) :: args) { world := w } letters = l ∧
        ¬ Answered501 env c w w' ↔ sign = 43 ∨ (108 : UInt8) ∉ letters) := by
  rw [handleMODE_change hsign (.inr hhash), if_neg hnick]
  have hadding : (sign == 43) = true ↔ sign = 43 := beq_iff_eq
  have hdrop : advertised (sign == 43) letters ((target :: (sign :: letters) :: args).drop 2) =
      some l := hl
  by_cases hcomplete : modesComplete (target :: (sign :: letters) :: args) 2 letters = true
  · have hgiven : argumentsGiven ch (sign == 43) (target :: (sign :: letters) :: args) { world := w }
        letters = (modeCalls (target :: (sign :: letters) :: args) 2 letters).map ModeCall.arg :=
      argumentsGiven_eq { world := w } hcomplete
    obtain ⟨w', hok, hreply, -⟩ := channelModeChange_complete hch hcomplete
    refine ⟨w', hok, ?_⟩
    have hnot : ¬ Answered501 env c w w' := by
      rintro ⟨text, hout⟩
      exact not_modeReply_501 hout hreply
    rw [and_iff_left hnot, hgiven]
    constructor
    · intro heq
      by_contra hcon
      push Not at hcon
      have hfalse : (sign == 43) = false := by
        rw [← Bool.not_eq_true, hadding]
        exact hcon.1
      rw [hfalse] at hl
      exact not_advertised_of_limit hcon.2 hcomplete hl heq
    · intro h
      exact (complete_of_advertised (h.imp_left hadding.mpr) hdrop).2
  · refine ⟨_, channelModeChange_incomplete hch hcomplete, ?_⟩
    refine iff_of_false (fun h => h.2 ⟨_, rfl⟩) fun h => hcomplete ?_
    exact (complete_of_advertised (h.imp_left hadding.mpr) hdrop).1

/-- ann is on line and alone in #x -/
theorem ann_joins : ∃ w, run (step Env.ascii) World.empty
    (registration 0 false "ann" ++ [.line 0 (ascii "JOIN #x")]) = .ok w ∧ w.nick 0 = ascii "ann" ∧
      Channel.get w (ascii "x") = some 0 ∧ w.chan 0 = { m_name := ascii "x", m_members := [0] } := by
  rw [run_registration ann_letsIn]
  exact ⟨_, rfl, rfl, rfl, rfl⟩

/-- `MODE #x +lk 5 key` -/
theorem handleMODE_advertised_ann : ∃ w w',
    run (step Env.ascii) World.empty (registration 0 false "ann" ++ [.line 0 (ascii "JOIN #x")]) =
      .ok w ∧ handleMODE Env.ascii 0 [ascii "#x", ascii "+lk", ascii "5", ascii "key"] w = .ok w' ∧
      argumentsGiven 0 true [ascii "#x", ascii "+lk", ascii "5", ascii "key"] { world := w } (ascii "lk") =
        [some (ascii "5"), some (ascii "key")] ∧ ¬ Answered501 Env.ascii 0 w w' := by
  obtain ⟨w, hrun, hnick, hch, -⟩ := ann_joins
  have hne : ascii "#x" ≠ w.nick 0 := by
    rw [hnick]
    decide
  obtain ⟨w', hok, hiff⟩ := @handleMODE_advertised_iff Env.ascii 0 w (ascii "#x") (ascii "lk") 43
    [ascii "5", ascii "key"] 0 [some (ascii "5"), some (ascii "key")] (.inl rfl) hne rfl hch rfl
  obtain ⟨hgiven, hnot⟩ := hiff.mpr (.inl rfl)
  exact ⟨w, w', hrun, hok, hgiven, hnot⟩

/-- `MODE #x -l` is answered with 501 -/
theorem handleMODE_advertised_false : ∃ w w',
    run (step Env.ascii) World.empty (registration 0 false "ann" ++ [.line 0 (ascii "JOIN #x")]) =
      .ok w ∧ advertised false (ascii "l") [] = some [none] ∧
      handleMODE Env.ascii 0 [ascii "#x", ascii "-l"] w = .ok w' ∧
      ¬ (argumentsGiven 0 false [ascii "#x", ascii "-l"] { world := w } (ascii "l") = [none] ∧
        ¬ Answered501 Env.ascii 0 w w') := by
  obtain ⟨w, hrun, hnick, hch, -⟩ := ann_joins
  have hne : ascii "#x" ≠ w.nick 0 := by
    rw [hnick]
    decide
  have hchange := @handleMODE_change Env.ascii 0 w (ascii "#x") (ascii "l") 45 [] (.inr rfl) (.inr rfl)
  have hrefuse := @channelModeChange_incomplete Env.ascii 0 w (ascii "#x") false (ascii "l") 0
    [ascii "#x", ascii "-l"] hch (by decide)
  rw [if_neg hne] at hchange
  exact ⟨w, _, hrun, rfl, hchange.trans hrefuse, fun h => h.2 ⟨_, rfl⟩⟩

end client_connection

end Chatripper
