import Mathlib
import Chatripper.Core.Channel

/-!
# MODE

A query shows the modes that are set; a change walks over the letters, taking the next argument
for `b`, `k` and `l`.  Neither reads an argument that is not there.  What they leave alone is said
of any view of the world, from what the view keeps when a line is sent and when a mode is set.
-/

namespace Chatripper
open ByteStr Utf8 Outcome

/-- a list position that is there can be read -/
theorem sat_listAt {α : Type} {E : Fault → Prop} {l : List α} {i : Nat} (h : i < l.length) :
    Sat E (fun a => l[i]? = some a) (listAt l i) := by
  unfold listAt
  rw [List.getElem?_eq_getElem h]
  exact rfl

namespace client_connection
open World

def startsWithHash (target : Bytes) : Bool := target.head? == some 35

/-- letters of the modes that are set, in table order -/
def presentModes {E : Type} [FlagEnum E] (table : List (E × UInt8)) (modes : Flags E) : Bytes :=
  (table.filter fun row => modes.has row.1).map Prod.snd

/-- `MODE <target>` -/
def modeQuery (env : Env) (c : ConnId) (target : Bytes) (w : World) : World :=
  let _nick := w.nick c
  if target = _nick then
    send_raw env c
      (ascii "MODE " ++ _nick ++ ascii " :" ++ presentModes userModesTable (w.conn c).user_modes) w
  else if startsWithHash target then
    match Channel.get w (target.drop 1) with
    | none => reply_num env c 403 (target ++ ascii " :No such channel") w
    | some ch =>
      let channel := w.chan ch
      let present := presentModes channelModesTable channel.channel_modes
      let params :=
        (if channel.channel_modes.has .KEY then ascii " " ++ channel.m_key else []) ++
        (if channel.channel_modes.has .LIMIT then ascii " " ++ number channel.m_limit.toNat else [])
      let lead := ascii "324 " ++ _nick ++ ascii " #" ++ channel.m_name ++ ascii " :"
      send_raw env c (if present = [] then lead else lead ++ ascii "+" ++ present ++ params) w
  else reply_num env c 501 (ascii "Unknown MODE flag") w

/-- `MODE <channel> b` -/
def banQuery (env : Env) (c : ConnId) (target : Bytes) (w : World) : World :=
  match Channel.get w (target.drop 1) with
  | none => reply_num env c 403 (target ++ ascii " :No such channel") w
  | some ch =>
    send_raw env c (ascii "368 " ++ w.nick c ++ ascii " #" ++ (w.chan ch).m_name ++
      ascii " :End of Channel Ban List") w

def applyUserMode (c : ConnId) (mode : UserModes) (adding : Bool) (w : World) : World :=
  w.updConn c fun k =>
    { k with user_modes := if adding then k.user_modes.set mode else k.user_modes.clear mode }

/-- what the walk over the letters has found so far -/
structure ModeWalk where
  invalid : Bool := false
  result : Bytes := []
  argIndex : Nat := 2
  world : World

def userModeStep (c : ConnId) (adding : Bool) (s : ModeWalk) (letter : UInt8) : ModeWalk :=
  match lookupLetter userModesTable letter with
  | none => { s with invalid := true }
  | some mode =>
    let before := (s.world.conn c).user_modes.has mode
    let w := applyUserMode c mode adding s.world
    let after := (w.conn c).user_modes.has mode
    { s with world := w, result := if before = after then s.result else s.result ++ [letter] }

def modePrefix (adding : Bool) : Bytes := if adding then ascii "+" else ascii "-"

def userModeChange (env : Env) (c : ConnId) (adding : Bool) (letters : Bytes) (w : World) : World :=
  let _nick := w.nick c
  let s := letters.foldl (userModeStep c adding) { world := w }
  if s.invalid then reply_num env c 501 (ascii "Unknown MODE flag") s.world
  else if s.result = [] then reply_num env c 501 (ascii "Unknown MODE flag") s.world
  else
    send_raw env c (ascii "MODE " ++ _nick ++ ascii " :" ++ modePrefix adding ++ s.result) s.world

def takesArgument (mode : ChannelModes) : Bool := mode == .BAN || mode == .KEY || mode == .LIMIT

def modeArgument (mode : ChannelModes) (args : List Bytes) (argIndex : Nat) : Except Fault Bytes :=
  if takesArgument mode then listAt args argIndex else .ok []

def channelModeStep (ch : ChanId) (adding : Bool) (args : List Bytes) (s : ModeWalk)
    (letter : UInt8) : Except Fault ModeWalk :=
  match lookupLetter channelModesTable letter with
  | none => .ok { s with invalid := true }
  | some mode =>
    if takesArgument mode ∧ ¬ s.argIndex < args.length then .ok { s with invalid := true }
    else do
      let modeArg ← modeArgument mode args s.argIndex
      let before := (s.world.chan ch).channel_modes.has mode
      let w := s.world.updChan ch (Channel.setMode mode adding modeArg)
      let after := (w.chan ch).channel_modes.has mode
      .ok { s with
        world := w
        argIndex := if takesArgument mode then s.argIndex + 1 else s.argIndex
        result := if before = after then s.result else s.result ++ [letter] }

def channelModeChange (env : Env) (c : ConnId) (target : Bytes) (adding : Bool) (letters : Bytes)
    (args : List Bytes) (w : World) : Except Fault World :=
  match Channel.get w (target.drop 1) with
  | none => .ok (reply_num env c 403 (target ++ ascii " :No such channel") w)
  | some ch => do
    let s ← letters.foldlM (channelModeStep ch adding args) { world := w }
    if s.invalid then .ok (reply_num env c 501 (ascii "Unknown MODE flag") s.world)
    else if s.result = [] then .ok s.world
    else .ok (send_raw env c
      (ascii "MODE " ++ target ++ ascii " :" ++ modePrefix adding ++ s.result) s.world)

def handleMODE (env : Env) (c : ConnId) (args : List Bytes) (w : World) : Except Fault World :=
  if args.length = 0 then .ok w
  else do
    let target ← listAt args 0
    if args.length = 1 then .ok (modeQuery env c target w)
    else do
      let requested_modes ← listAt args 1
      if startsWithHash target ∧ requested_modes = ascii "b" then .ok (banQuery env c target w)
      else match requested_modes with
        | [] => .ok (reply_num env c 501 (ascii "Unknown MODE flag") w)
        | sign :: letters =>
          if sign ≠ 43 ∧ sign ≠ 45 then .ok (reply_num env c 501 (ascii "Unknown MODE flag") w)
          else if target = w.nick c then .ok (userModeChange env c (sign == 43) letters w)
          else if startsWithHash target then
            channelModeChange env c target (sign == 43) letters args w
          else .ok (reply_num env c 501 (ascii "Unknown MODE flag") w)

/-! ## what MODE leaves alone -/

section
-- `v` is a view of the world; the rules ask of it only what the part of MODE can do
variable {β : Type} {v : World → β} {env : Env} {c : ConnId} {w : World}

theorem modeQuery_keeps (hemit : ∀ data w, v (emit c data w) = v w) (target : Bytes) :
    v (modeQuery env c target w) = v w := by
  unfold modeQuery
  dsimp only
  split
  · exact hemit _ w
  · split
    · split
      · exact hemit _ w
      · exact hemit _ w
    · exact hemit _ w

theorem banQuery_keeps (hemit : ∀ data w, v (emit c data w) = v w) (target : Bytes) :
    v (banQuery env c target w) = v w := by
  unfold banQuery
  split
  · exact hemit _ w
  · exact hemit _ w

theorem userModeChange_keeps (hemit : ∀ data w, v (emit c data w) = v w)
    (huser : ∀ mode adding w, v (applyUserMode c mode adding w) = v w) (adding : Bool)
    (letters : Bytes) : v (userModeChange env c adding letters w) = v w := by
  have hstep (s : ModeWalk) (letter : UInt8) :
      v (userModeStep c adding s letter).world = v s.world := by
    unfold userModeStep
    split
    · rfl
    · exact huser _ adding s.world
  have hwalk : v (letters.foldl (userModeStep c adding) { world := w }).world = v w :=
    foldl_keeps (v := fun s : ModeWalk => v s.world) hstep letters _
  unfold userModeChange
  dsimp only
  split
  · exact (hemit _ _).trans hwalk
  · split
    · exact (hemit _ _).trans hwalk
    · exact (hemit _ _).trans hwalk

section
variable {E : Fault → Prop} {adding : Bool} {args : List Bytes}

/-- a letter whose argument is not there is an invalid one, so no fault is met -/
theorem channelModeStep_keeps
    (hchan : ∀ ch mode adding arg w, v (updChan w ch (Channel.setMode mode adding arg)) = v w)
    (ch : ChanId) (s : ModeWalk) (letter : UInt8) :
    Sat E (fun s' => v s'.world = v s.world) (channelModeStep ch adding args s letter) := by
  unfold channelModeStep
  split
  · exact rfl
  · next mode _ =>
    refine Sat.ite (fun _ => rfl) fun h => ?_
    have harg : Sat E (fun _ => True) (modeArgument mode args s.argIndex) :=
      Sat.ite (fun ht => (sat_listAt (by
        by_contra hlt
        exact h ⟨ht, hlt⟩)).mono (fun _ h => h) fun _ _ => trivial) fun _ => trivial
    exact harg.bind fun modeArg _ => hchan ch mode adding modeArg s.world

theorem channelModeWalk_keeps
    (hchan : ∀ ch mode adding arg w, v (updChan w ch (Channel.setMode mode adding arg)) = v w)
    (ch : ChanId) (letters : Bytes) :
    Sat E (fun s : ModeWalk => v s.world = v w)
      (letters.foldlM (channelModeStep ch adding args) { world := w }) :=
  Sat.foldlM rfl fun s letter _ hs =>
    (channelModeStep_keeps hchan ch s letter).mono (fun _ h => h) fun _ h => h.trans hs

theorem channelModeChange_keeps (hemit : ∀ data w, v (emit c data w) = v w)
    (hchan : ∀ ch mode adding arg w, v (updChan w ch (Channel.setMode mode adding arg)) = v w)
    (target letters : Bytes) :
    Sat E (fun w' => v w' = v w) (channelModeChange env c target adding letters args w) := by
  unfold channelModeChange
  split
  · exact hemit _ w
  · next ch _ =>
    refine (channelModeWalk_keeps hchan ch letters).bind fun s hs => ?_
    refine Sat.ite (fun _ => (hemit _ _).trans hs) fun _ => Sat.ite (fun _ => hs) fun _ => ?_
    exact (hemit _ _).trans hs

/-- MODE stops at no fault, whatever its arguments are -/
theorem handleMODE_keeps (hemit : ∀ data w, v (emit c data w) = v w)
    (huser : ∀ mode adding w, v (applyUserMode c mode adding w) = v w)
    (hchan : ∀ ch mode adding arg w, v (updChan w ch (Channel.setMode mode adding arg)) = v w) :
    Sat E (fun w' => v w' = v w) (handleMODE env c args w) := by
  unfold handleMODE
  refine Sat.ite (fun _ => rfl) fun h0 => (sat_listAt (by omega)).bind fun target _ => ?_
  refine Sat.ite (fun _ => modeQuery_keeps hemit target) fun h1 => ?_
  refine (sat_listAt (by omega)).bind fun requested_modes _ => ?_
  refine Sat.ite (fun _ => banQuery_keeps hemit target) fun _ => ?_
  cases requested_modes with
  | nil => exact hemit _ w
  | cons sign letters =>
    refine Sat.ite (fun _ => hemit _ w) fun _ => Sat.ite (fun _ => ?_) fun _ => Sat.ite (fun _ => ?_)
      fun _ => hemit _ w
    · exact userModeChange_keeps hemit huser _ letters
    · exact channelModeChange_keeps hemit hchan target letters

end

end

theorem handleMODE_sat {E : Fault → Prop} {env : Env} {c : ConnId} {args : List Bytes} {w : World} :
    Sat E (fun w' => w'.reg = w.reg) (handleMODE env c args w) :=
  handleMODE_keeps (fun _ _ => rfl) (fun _ _ w => w.reg_updConn rfl) fun _ _ _ _ _ => rfl

end client_connection

end Chatripper
