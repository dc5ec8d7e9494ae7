import Mathlib
import Chatripper.Lib.Turned
import Chatripper.Irc.Modes

/-!
# The walk over the letters of MODE

The walk applies the letters that are known and have their argument, from left to right, and leaves
out the rest.  It collects the letters of the bits that it has turned.

* `modeCalls`        the letters that a change applies, with their arguments;
* `modesComplete`    none is left out;
* `channelWalk`      the walk of a channel mode change;
* `userWalk`         the walk of a user mode change;
* `InForce`          what it takes for a change to change nothing, `applyCalls_eq_self`.
-/

namespace Flags
variable {E : Type} [FlagEnum E]

/-- `set` or `clear` -/
def turn (b : Bool) (f : Flags E) (e : E) : Flags E := if b then f.set e else f.clear e

theorem has_turn [DecidableEq E] (b : Bool) (f : Flags E) (e e' : E) :
    (f.turn b e).has e' = if e' = e then b else f.has e' := by
  unfold turn
  cases b with
  | false =>
    rw [if_neg Bool.false_ne_true, has_clear]
    by_cases he : e' = e
    · rw [if_pos he, decide_eq_true he]
      exact Bool.and_false _
    · rw [if_neg he, decide_eq_false he]
      exact Bool.and_true _
  | true =>
    rw [if_pos rfl, has_set]
    by_cases he : e' = e
    · rw [if_pos he, decide_eq_true he]
      exact Bool.or_true _
    · rw [if_neg he, decide_eq_false he]
      exact Bool.or_false _

theorem turn_same {b : Bool} {f : Flags E} {e : E} (h : f.has e = b) : f.turn b e = f := by
  rw [has_eq] at h
  have hbits : (f.turn b e).bits = f.bits := by
    apply BitVec.eq_of_getLsbD_eq
    intro i _
    unfold turn
    cases b with
    | false =>
      rw [if_neg Bool.false_ne_true, getLsbD_clear]
      by_cases hi : i = FlagEnum.bit e
      · rw [hi, h]
        rfl
      · rw [decide_eq_false hi]
        exact Bool.and_true _
    | true =>
      rw [if_pos rfl, getLsbD_set]
      by_cases hi : i = FlagEnum.bit e
      · rw [hi, h]
        rfl
      · rw [decide_eq_false hi]
        exact Bool.or_false _
  exact congrArg Flags.mk hbits

/-- turning bits one after the other -/
theorem turns [DecidableEq E] (b : Bool) : Turns (has (E := E)) id (turn b) b where
  other f _ _ he := (has_turn b f _ _).trans (if_neg he)
  own f _ := .inr ((has_turn b f _ _).trans (if_pos rfl))

end Flags

namespace Chatripper
open ByteStr Utf8 Outcome

/-- the letter of a mode -/
def letterOf {E : Type} [DecidableEq E] (table : List (E × UInt8)) (mode : E) : UInt8 :=
  ((table.find? fun row => row.1 == mode).map Prod.snd).getD 0

/-- a table of different letters is read both ways -/
theorem lookup_letterOf {E : Type} [DecidableEq E] {table : List (E × UInt8)}
    (hletters : ∀ row ∈ table, row.2 = letterOf table row.1)
    (hmodes : ∀ mode, lookupLetter table (letterOf table mode) = some mode) {mode : E}
    {letter : UInt8} : lookupLetter table letter = some mode ↔ letter = letterOf table mode := by
  constructor
  · intro h
    obtain ⟨row, hrow, rfl⟩ := Option.map_eq_some_iff.mp h
    have hsame : row.2 = letter := by simpa using List.find?_some hrow
    rw [← hsame]
    exact hletters row (List.mem_of_find?_eq_some hrow)
  · rintro rfl
    exact hmodes mode

theorem lookup_channelLetter {mode : ChannelModes} {letter : UInt8} :
    lookupLetter channelModesTable letter = some mode ↔
      letter = letterOf channelModesTable mode :=
  lookup_letterOf (by decide) fun mode => by cases mode <;> rfl

theorem lookup_userLetter {mode : UserModes} {letter : UInt8} :
    lookupLetter userModesTable letter = some mode ↔ letter = letterOf userModesTable mode :=
  lookup_letterOf (by decide) fun mode => by cases mode <;> rfl

namespace World

theorem updChan_same (w : World) (ch : ChanId) : (w.updChan ch fun k => k) = w := by
  have hchan : (fun x => if x = ch then w.chan ch else w.chan x) = w.chan := by
    funext x
    by_cases hx : x = ch
    · rw [if_pos hx, hx]
    · rw [if_neg hx]
  exact congrArg (fun F => ({ w with chan := F } : World)) hchan

theorem updConn_same (w : World) (c : ConnId) : (w.updConn c fun k => k) = w := by
  have hconn : (fun x => if x = c then w.conn c else w.conn x) = w.conn := by
    funext x
    by_cases hx : x = c
    · rw [if_pos hx, hx]
    · rw [if_neg hx]
  exact congrArg (fun F => ({ w with conn := F } : World)) hconn

theorem updChan_updChan (w : World) (ch : ChanId) (f g : Channel → Channel) :
    (w.updChan ch f).updChan ch g = w.updChan ch fun k => g (f k) := by
  have hchan : (fun x => if x = ch then g (if ch = ch then f (w.chan ch) else w.chan ch)
      else if x = ch then f (w.chan ch) else w.chan x) =
      fun x => if x = ch then g (f (w.chan ch)) else w.chan x := by
    funext x
    by_cases hx : x = ch
    · rw [if_pos hx, if_pos rfl, if_pos hx]
    · rw [if_neg hx, if_neg hx, if_neg hx]
  exact congrArg (fun F => ({ w with chan := F } : World)) hchan

end World

/-! ## a letter and its argument -/

/-- a letter that a change applies, and the argument that it is given, if any -/
structure ModeCall where
  mode : ChannelModes
  arg : Option Bytes := none
  deriving DecidableEq

namespace ModeCall

def width (call : ModeCall) : Nat := if client_connection.takesArgument call.mode then 1 else 0

def apply (adding : Bool) (k : Channel) (call : ModeCall) : Channel :=
  Channel.setMode call.mode adding (call.arg.getD []) k

section
variable (adding : Bool) (call : ModeCall)

/-- the limit that is set -/
def limit? : Option Int :=
  if call.mode = .LIMIT then
    if adding then (toInt? (call.arg.getD [])).filter fun n => decide (0 ≤ n) else some 0
  else none

/-- the key that is set -/
def key? : Option Bytes :=
  if call.mode = .KEY then some (if adding then call.arg.getD [] else []) else none

/-- the mask that is added or removed -/
def ban? : Option Bytes :=
  if call.mode = .BAN ∧ call.arg.getD [] ≠ [] then some (call.arg.getD []) else none

/-- the bit that is set or cleared -/
def flag? : Option ChannelModes :=
  if call.mode = .BAN ∨ (call.mode = .LIMIT ∧ call.limit? adding = none) then none
  else some call.mode

/-- a mask is put into the set or taken out -/
def listBan (bans : QSet Bytes) (mask : Bytes) : QSet Bytes :=
  if adding then bans.insert mask else bans.erase mask

end

/-- what a call does to the fields of a channel -/
theorem apply_eq (adding : Bool) (k : Channel) (call : ModeCall) : call.apply adding k =
    { k with
      channel_modes := (call.flag? adding).elim k.channel_modes (k.channel_modes.turn adding)
      m_key := (call.key? adding).getD k.m_key
      m_limit := (call.limit? adding).getD k.m_limit
      m_ban_masks := call.ban?.elim k.m_ban_masks (listBan adding k.m_ban_masks) } := by
  obtain ⟨mode, arg⟩ := call
  unfold apply Channel.setMode flag? key? limit? ban? listBan Flags.turn
  cases mode with
  | KEY => rfl
  | LIMIT =>
    cases adding with
    | false => rfl
    | true =>
      dsimp only
      cases hn : toInt? (arg.getD []) with
      | none => rfl
      | some n =>
        by_cases h0 : 0 ≤ n
        · simp only [if_pos h0, Option.filter_some, decide_eq_true h0]
          rfl
        · simp only [if_neg h0, Option.filter_some, decide_eq_false h0]
          rfl
  | BAN =>
    dsimp only
    by_cases ha : arg.getD [] = []
    · have hban : (if ChannelModes.BAN = .BAN ∧ arg.getD [] ≠ [] then some (arg.getD []) else none) =
          none := if_neg fun h => h.2 ha
      rw [if_pos ha, hban]
      rfl
    · have hban : (if ChannelModes.BAN = .BAN ∧ arg.getD [] ≠ [] then some (arg.getD []) else none) =
          some (arg.getD []) := if_pos ⟨rfl, ha⟩
      rw [if_neg ha, hban]
      cases adding <;> rfl
  | _ => rfl

end ModeCall

/-! ## the letters that are applied -/

namespace client_connection
open World

/-- a letter of a change as the walk reads it at a position of the arguments -/
def readLetter (args : List Bytes) (i : Nat) (letter : UInt8) : Option ModeCall :=
  match lookupLetter channelModesTable letter with
  | none => none
  | some mode =>
    if takesArgument mode then args[i]?.map fun modeArg => { mode, arg := some modeArg }
    else some { mode }

/-- the letters of a change that are applied, with their arguments -/
def modeCalls (args : List Bytes) : Nat → Bytes → List ModeCall
  | _, [] => []
  | i, letter :: letters =>
    match readLetter args i letter with
    | none => modeCalls args i letters
    | some call => call :: modeCalls args (i + call.width) letters

/-- every letter is known, and has its argument -/
def modesComplete (args : List Bytes) : Nat → Bytes → Bool
  | _, [] => true
  | i, letter :: letters =>
    match readLetter args i letter with
    | none => false
    | some call => modesComplete args (i + call.width) letters

section
variable {args : List Bytes} {i : Nat} {letter : UInt8}

theorem readLetter_some {call : ModeCall} (h : readLetter args i letter = some call) :
    lookupLetter channelModesTable letter = some call.mode ∧
      (takesArgument call.mode = true → i < args.length) ∧
      modeArgument call.mode args i = .ok (call.arg.getD []) := by
  unfold readLetter at h
  cases hletter : lookupLetter channelModesTable letter with
  | none => rw [hletter] at h; cases h
  | some mode =>
    rw [hletter] at h
    dsimp only at h
    unfold modeArgument
    by_cases ht : takesArgument mode = true
    · rw [if_pos ht] at h
      obtain ⟨modeArg, harg, rfl⟩ := Option.map_eq_some_iff.mp h
      refine ⟨rfl, fun _ => (List.getElem?_eq_some_iff.mp harg).1, ?_⟩
      rw [if_pos ht, listAt, harg]
      rfl
    · rw [if_neg ht] at h
      cases h
      exact ⟨rfl, fun h => absurd h ht, if_neg ht⟩

theorem readLetter_none (h : readLetter args i letter = none) {mode : ChannelModes}
    (hletter : lookupLetter channelModesTable letter = some mode) :
    takesArgument mode = true ∧ args.length ≤ i := by
  unfold readLetter at h
  rw [hletter] at h
  dsimp only at h
  by_cases ht : takesArgument mode = true
  · rw [if_pos ht, Option.map_eq_none_iff, List.getElem?_eq_none_iff] at h
    exact ⟨ht, h⟩
  · rw [if_neg ht] at h
    cases h

end

end client_connection

/-! ## the walk of a channel mode change -/

def Channel.hasMode (k : Channel) (mode : ChannelModes) : Bool := k.channel_modes.has mode

namespace client_connection
open World

/-- the walk after a letter that is applied -/
def ModeWalk.applied (ch : ChanId) (adding : Bool) (s : ModeWalk) (call : ModeCall) : ModeWalk where
  invalid := s.invalid
  result := s.result ++ (turned Channel.hasMode ModeCall.mode (ModeCall.apply adding)
    (s.world.chan ch) [call]).map (letterOf channelModesTable)
  argIndex := s.argIndex + call.width
  world := s.world.updChan ch fun k => ModeCall.apply adding k call

section
variable {ch : ChanId} {adding : Bool} {args : List Bytes} {s : ModeWalk} {letter : UInt8}

theorem channelModeStep_some {call : ModeCall} (h : readLetter args s.argIndex letter = some call) :
    channelModeStep ch adding args s letter = .ok (s.applied ch adding call) := by
  obtain ⟨hletter, hhas, hread⟩ := readLetter_some h
  unfold channelModeStep
  rw [hletter]
  dsimp only
  rw [if_neg fun h => h.2 (hhas h.1), hread]
  have hafter : (s.world.updChan ch
      (Channel.setMode call.mode adding (call.arg.getD []))).chan ch =
        call.apply adding (s.world.chan ch) := if_pos rfl
  refine congrArg Except.ok ?_
  unfold ModeWalk.applied
  rw [ModeWalk.mk.injEq]
  refine ⟨rfl, ?_, ?_, rfl⟩
  · rw [hafter, lookup_channelLetter.mp hletter]
    unfold turned Channel.hasMode
    split
    · exact (List.append_nil _).symm
    · rfl
  · unfold ModeCall.width
    split <;> rfl

theorem channelModeStep_none (h : readLetter args s.argIndex letter = none) :
    channelModeStep ch adding args s letter = .ok { s with invalid := true } := by
  unfold channelModeStep
  cases hletter : lookupLetter channelModesTable letter with
  | none => rfl
  | some mode =>
    obtain ⟨ht, hle⟩ := readLetter_none h hletter
    exact if_pos ⟨ht, Nat.not_lt.mpr hle⟩

/-- **The walk of a channel mode change.** -/
theorem channelWalk (letters : Bytes) (s : ModeWalk) :
    letters.foldlM (channelModeStep ch adding args) s = .ok
      { invalid := s.invalid || !modesComplete args s.argIndex letters
        result := s.result ++ (turned Channel.hasMode ModeCall.mode (ModeCall.apply adding)
          (s.world.chan ch) (modeCalls args s.argIndex letters)).map (letterOf channelModesTable)
        argIndex := s.argIndex + ((modeCalls args s.argIndex letters).map ModeCall.width).sum
        world := s.world.updChan ch fun k =>
          (modeCalls args s.argIndex letters).foldl (ModeCall.apply adding) k } := by
  induction letters generalizing s with
  | nil =>
    refine congrArg Except.ok ?_
    rw [ModeWalk.mk.injEq]
    exact ⟨(Bool.or_false _).symm, (List.append_nil _).symm, rfl, (s.world.updChan_same ch).symm⟩
  | cons letter letters ih =>
    rw [List.foldlM_cons]
    unfold modeCalls modesComplete
    cases hread : readLetter args s.argIndex letter with
    | none =>
      rw [channelModeStep_none hread]
      refine (ih _).trans (congrArg Except.ok ?_)
      rw [ModeWalk.mk.injEq]
      exact ⟨(Bool.or_true _).symm, rfl, rfl, rfl⟩
    | some call =>
      rw [channelModeStep_some hread]
      refine (ih _).trans (congrArg Except.ok ?_)
      have hchan : (s.applied ch adding call).world.chan ch =
          call.apply adding (s.world.chan ch) := if_pos rfl
      rw [ModeWalk.mk.injEq, hchan]
      refine ⟨rfl, ?_, ?_, updChan_updChan _ _ _ _⟩
      · dsimp only
        rw [turned_cons, List.map_append, ← List.append_assoc]
        rfl
      · dsimp only
        rw [List.map_cons, List.sum_cons, ← Nat.add_assoc]
        rfl

end

/-! ## the walk of a user mode change -/

def setUserModes (c : ConnId) (F : Flags UserModes → Flags UserModes) (w : World) : World :=
  w.updConn c fun k => { k with user_modes := F k.user_modes }

section
variable (c : ConnId) (F G : Flags UserModes → Flags UserModes) (w : World)

@[simp] theorem out_setUserModes : (setUserModes c F w).out = w.out := rfl

theorem nick_setUserModes : (setUserModes c F w).nick c = w.nick c := nick_eq (w.reg_updConn rfl) c

theorem user_modes_setUserModes (x : ConnId) : ((setUserModes c F w).conn x).user_modes =
    if x = c then F (w.conn c).user_modes else (w.conn x).user_modes := by
  unfold setUserModes
  rw [updConn_conn]
  split <;> rfl

theorem setUserModes_setUserModes :
    setUserModes c G (setUserModes c F w) = setUserModes c (fun f => G (F f)) w :=
  updConn_updConn w c _ fun k => { k with user_modes := G k.user_modes }

end

/-- the modes of the letters that are known -/
def userModesOf (letters : Bytes) : List UserModes := letters.filterMap (lookupLetter userModesTable)

section
variable {c : ConnId} {adding : Bool} {s : ModeWalk} {letter : UInt8}

theorem userModeStep_none (h : lookupLetter userModesTable letter = none) :
    userModeStep c adding s letter = { s with invalid := true } := by
  unfold userModeStep
  rw [h]

theorem userModeStep_some {mode : UserModes} (h : lookupLetter userModesTable letter = some mode) :
    userModeStep c adding s letter =
      { s with
        world := setUserModes c (Flags.turn adding · mode) s.world
        result := s.result ++ (turned Flags.has id (Flags.turn adding) (s.world.conn c).user_modes
          [mode]).map (letterOf userModesTable) } := by
  have hafter : ((applyUserMode c mode adding s.world).conn c).user_modes =
      (s.world.conn c).user_modes.turn adding mode := congrArg Conn.user_modes (if_pos rfl)
  unfold userModeStep
  rw [h]
  dsimp only
  rw [hafter, lookup_userLetter.mp h, ModeWalk.mk.injEq]
  refine ⟨rfl, ?_, rfl, rfl⟩
  unfold turned id
  split
  · exact (List.append_nil _).symm
  · rfl

/-- **The walk of a user mode change.** -/
theorem userWalk (letters : Bytes) (s : ModeWalk) : letters.foldl (userModeStep c adding) s =
    { invalid := s.invalid || !letters.all fun l => (lookupLetter userModesTable l).isSome
      result := s.result ++ (turned Flags.has id (Flags.turn adding) (s.world.conn c).user_modes
        (userModesOf letters)).map (letterOf userModesTable)
      argIndex := s.argIndex
      world := setUserModes c ((userModesOf letters).foldl (Flags.turn adding) ·) s.world } := by
  induction letters generalizing s with
  | nil =>
    rw [ModeWalk.mk.injEq]
    exact ⟨(Bool.or_false _).symm, (List.append_nil _).symm, rfl, (s.world.updConn_same c).symm⟩
  | cons letter letters ih =>
    rw [List.foldl_cons, ih]
    unfold userModesOf
    cases hletter : lookupLetter userModesTable letter with
    | none =>
      rw [userModeStep_none hletter, ModeWalk.mk.injEq, List.filterMap_cons_none hletter,
        List.all_cons, hletter]
      exact ⟨(Bool.or_true _).symm, rfl, rfl, rfl⟩
    | some mode =>
      rw [userModeStep_some hletter, ModeWalk.mk.injEq, List.filterMap_cons_some hletter,
        List.all_cons, hletter]
      refine ⟨rfl, ?_, rfl, setUserModes_setUserModes c (Flags.turn adding · mode)
        ((userModesOf letters).foldl (Flags.turn adding) ·) s.world⟩
      dsimp only
      rw [user_modes_setUserModes, if_pos rfl, turned_cons (s.world.conn c).user_modes mode
        (letters.filterMap (lookupLetter userModesTable)), List.map_append, ← List.append_assoc]

end

end client_connection

/-! ## what a change does to the fields of a channel -/

/-- values that are assigned one after the other leave the last -/
theorem foldl_assign {α β : Type} (f : β → Option α) (l : List β) (a : α) :
    l.foldl (fun a x => (f x).getD a) a = (l.filterMap f).getLast?.getD a := by
  induction l generalizing a with
  | nil => rfl
  | cons x l ih =>
    rw [List.foldl_cons, ih]
    cases hx : f x with
    | none => rw [List.filterMap_cons_none hx]; rfl
    | some y =>
      rw [List.filterMap_cons_some hx, List.getLast?_cons]
      rfl

/-- the channel after the calls -/
def applyCalls (adding : Bool) (calls : List ModeCall) (k : Channel) : Channel :=
  calls.foldl (ModeCall.apply adding) k

section
variable (adding : Bool) (calls : List ModeCall) (k : Channel)

theorem applyCalls_eq : applyCalls adding calls k =
    { k with
      channel_modes := (calls.filterMap (ModeCall.flag? adding)).foldl (Flags.turn adding) k.channel_modes
      m_key := (calls.filterMap (ModeCall.key? adding)).getLast?.getD k.m_key
      m_limit := (calls.filterMap (ModeCall.limit? adding)).getLast?.getD k.m_limit
      m_ban_masks := (calls.filterMap ModeCall.ban?).foldl (ModeCall.listBan adding) k.m_ban_masks } := by
  rw [← foldl_assign, ← foldl_assign]
  unfold applyCalls
  induction calls generalizing k with
  | nil => rfl
  | cons call calls ih =>
    rw [List.foldl_cons, ih, ModeCall.apply_eq, List.filterMap_cons, List.filterMap_cons]
    cases call.flag? adding <;> cases call.ban? <;> rfl

end

namespace ModeCall

theorem contains_listBan (adding : Bool) (bans : QSet Bytes) (mask x : Bytes) :
    (listBan adding bans mask).contains x = if x = mask then adding else bans.contains x := by
  unfold listBan
  by_cases hx : x = mask
  · subst hx
    rw [if_pos rfl]
    cases adding with
    | false =>
      have hself : compare x x = .eq := Std.ReflCmp.compare_self
      rw [if_neg Bool.false_ne_true, Std.ExtTreeSet.contains_erase, hself]
      rfl
    | true =>
      rw [if_pos rfl]
      exact Std.ExtTreeSet.contains_insert_self
  · have hne : (compare mask x == .eq) = false := by
      rw [beq_eq_false_iff_ne]
      exact fun he => hx (Std.LawfulEqCmp.eq_of_compare he).symm
    rw [if_neg hx]
    cases adding with
    | false =>
      rw [if_neg Bool.false_ne_true, Std.ExtTreeSet.contains_erase, bne, hne]
      rfl
    | true =>
      rw [if_pos rfl, Std.ExtTreeSet.contains_insert, hne]
      rfl

theorem listBan_same {adding : Bool} {bans : QSet Bytes} {mask : Bytes}
    (h : bans.contains mask = adding) : listBan adding bans mask = bans := by
  apply Std.ExtTreeSet.ext_contains
  intro x
  rw [contains_listBan]
  by_cases hx : x = mask
  · rw [if_pos hx, hx, h]
  · rw [if_neg hx]

/-- masks that are added or removed one after the other -/
theorem turns_listBan (adding : Bool) :
    Turns (fun (bans : QSet Bytes) mask => bans.contains mask) id (listBan adding) adding where
  other bans mask x hx := (contains_listBan adding bans mask x).trans (if_neg hx)
  own bans mask := .inr ((contains_listBan adding bans mask mask).trans (if_pos rfl))

end ModeCall

/-- nothing that a change asks for is new -/
structure InForce (adding : Bool) (calls : List ModeCall) (k : Channel) : Prop where
  flags : ∀ mode ∈ calls.filterMap (ModeCall.flag? adding), k.channel_modes.has mode = adding
  key : ∀ key ∈ (calls.filterMap (ModeCall.key? adding)).getLast?, k.m_key = key
  limit : ∀ n ∈ (calls.filterMap (ModeCall.limit? adding)).getLast?, k.m_limit = n
  bans : ∀ mask ∈ calls.filterMap ModeCall.ban?, k.m_ban_masks.contains mask = adding

theorem getD_eq_self {α : Type} {o : Option α} {a : α} : o.getD a = a ↔ ∀ x ∈ o, a = x := by
  cases o with
  | none => exact iff_of_true rfl fun x hx => absurd hx (Option.not_mem_none x)
  | some y =>
    constructor
    · intro h x hx
      rw [Option.mem_some.mp hx] at h
      exact h.symm
    · intro h
      exact (h y rfl).symm

/-- **A change that changes nothing.** -/
theorem applyCalls_eq_self {adding : Bool} {calls : List ModeCall} {k : Channel} :
    applyCalls adding calls k = k ↔ InForce adding calls k := by
  have hflags : (calls.filterMap (ModeCall.flag? adding)).foldl (Flags.turn adding) k.channel_modes =
      k.channel_modes ↔ ∀ mode ∈ calls.filterMap (ModeCall.flag? adding),
        k.channel_modes.has mode = adding :=
    (Flags.turns adding).foldl_eq_self
      (fun f e => (Flags.has_turn adding f e e).trans (if_pos rfl)) fun _ _ => Flags.turn_same
  have hbans : (calls.filterMap ModeCall.ban?).foldl (ModeCall.listBan adding) k.m_ban_masks =
      k.m_ban_masks ↔ ∀ mask ∈ calls.filterMap ModeCall.ban?,
        k.m_ban_masks.contains mask = adding :=
    (ModeCall.turns_listBan adding).foldl_eq_self
      (fun bans x => (ModeCall.contains_listBan adding bans x x).trans (if_pos rfl))
      fun _ _ => ModeCall.listBan_same
  rw [applyCalls_eq]
  constructor
  · intro h
    obtain ⟨-, -, -, hkey, -, hban, hlimit, hmodes, -⟩ := (Channel.mk.injEq ..).mp h
    exact ⟨hflags.mp hmodes, getD_eq_self.mp hkey, getD_eq_self.mp hlimit, hbans.mp hban⟩
  · intro h
    rw [hflags.mpr h.flags, getD_eq_self.mpr h.key, getD_eq_self.mpr h.limit, hbans.mpr h.bans]

end Chatripper
