import Mathlib
import Chatripper.Core.Types

/-!
# Python handlers: `QIRC.call`, `Snake`, `SnakePit`

A C++ event is handed to Python as a dataclass object (`Gadget.toPy`).  `QIRC.call` runs the
handlers of the event on it, `Snake.executeFunction` awaits a coroutine and writes the dirty
fields of a returned dataclass back into the C++ event, and `SnakePit.event` chooses the
interpreter.  The code of a handler is an arbitrary function on the Python object.

Nested dataclass fields (`account`, `channel`) are not written back here.
-/

namespace Chatripper
open ByteStr Utf8

/-! ## Python values -/

inductive PyVal where
  | none
  | bool (b : Bool)
  | int (n : Int)
  | str (s : QString)
  | bytes (b : Bytes)
  | list
  | dict (d : QMap QString QVariant)
  | other

/-- conversion of `convertPyObjectToVariant` followed by a write to a `QByteArray` property; an
invalid variant writes the default, a refused conversion writes nothing -/
def PyVal.toByteArray? : PyVal → Option Bytes
  | .none => some []
  | .bool b => some (if b then ascii "true" else ascii "false")
  | .int n => some (if n < 0 then 45 :: number n.natAbs else number n.natAbs)
  | .str s => some (toUtf8 s)
  | .bytes b => some b
  | .list => Option.none
  | .dict _ => Option.none
  | .other => some []

/-- the same for a `bool` property -/
def PyVal.toBool? : PyVal → Option Bool
  | .none => some false
  | .bool b => some b
  | .int n => some (n != 0)
  | .str s => some (!(s == [] || s == ['0'] || s.map Char.toLower == ['f', 'a', 'l', 's', 'e']))
  | .bytes b => some (!(b == [] || b == [48] || toLower b == ascii "false"))
  | .list => Option.none
  | .dict _ => Option.none
  | .other => some false

/-- an object whose class has `__annotations__`: the annotated names along its class and first
bases, its attributes, and `_dirty` -/
structure PyObj where
  annotations : List String
  attr : String → PyVal
  dirty : String → Bool := fun _ => false

/-- how the body of a handler ends: `passed` is the event object it was given, `object` another
one with annotations, `plain` any value without -/
inductive PyReturn where
  | raised
  | none
  | plain
  | passed
  | object (o : PyObj)

/-- an entry of `QIRC._handlers`: `owner` is the bound module's `enabled`, or nothing for an
unbound function -/
structure Handler where
  owner : Option Bool
  isAsync : Bool := false
  body : PyObj → PyObj × PyReturn

structure QIRC where
  handlers : QIRCEvent → List Handler

/-! ## `QIRC.call` -/

/-- the value of the call expression: a finished result, or a coroutine that has not run yet -/
inductive CallResult where
  | ret (r : PyReturn)
  | coroutine (body : PyObj → PyObj × PyReturn)

def QIRC.callLoop : List Handler → PyObj → CallResult → PyObj × CallResult
  | [], o, result => (o, result)
  | h :: hs, o, result =>
    match h.owner with
    | Option.none => QIRC.callLoop hs o result
    | some false => QIRC.callLoop hs o result
    | some true =>
      if h.isAsync then QIRC.callLoop hs o (.coroutine h.body)
      else match h.body o with
        | (o', .raised) => (o', .ret .raised)
        | (o', .none) => (o', .ret .none)
        | (o', r) => QIRC.callLoop hs o' (.ret r)

def QIRC.call (q : QIRC) (ev : QIRCEvent) (o : PyObj) : PyObj × CallResult :=
  QIRC.callLoop (q.handlers ev) o (.ret .none)

/-! ## `Snake` -/

/-- the C++ side of an event class: the dataclass object made from it and its properties -/
class Gadget (α : Type) where
  toPy : α → PyObj
  /-- `writeOnGadget`; a name that is no property changes nothing -/
  write : String → PyVal → α → α
  /-- properties of type `QVariantMap`, written back whether dirty or not -/
  isVariantMap : String → Bool := fun _ => false

def updateGadgetFromPyDataclass {α : Type} [Gadget α] (a : α) (o : PyObj) : α :=
  o.annotations.foldl
    (fun a f =>
      if o.dirty f || Gadget.isVariantMap α f then Gadget.write f (o.attr f) a else a) a

/-- an interpreter; nothing when it is not initialised or `__qirc_call` is not there -/
structure Snake where
  interp : Option QIRC

/-- a coroutine is awaited before its result is looked at -/
def awaited : PyObj × CallResult → PyObj × PyReturn
  | (o, .ret r) => (o, r)
  | (o, .coroutine body) => body o

/-- how the call of the handlers on `a` ends, with the object it was called on -/
def QIRC.outcome {α : Type} [Gadget α] (q : QIRC) (ev : QIRCEvent) (a : α) : PyObj × PyReturn :=
  awaited (q.call ev (Gadget.toPy a))

/-- the event after a call that ended like this, or nothing for an invalid variant -/
def writeBack {α : Type} [Gadget α] (a : α) : PyObj × PyReturn → Option α
  | (_, .raised) => none
  | (_, .none) => some a
  | (_, .plain) => some a
  | (o, .passed) => some (updateGadgetFromPyDataclass a o)
  | (_, .object p) => some (updateGadgetFromPyDataclass a p)

def Snake.executeFunction {α : Type} [Gadget α] (s : Snake) (ev : QIRCEvent) (a : α) : Option α :=
  s.interp.bind fun q => writeBack a (q.outcome ev a)

/-! ## `SnakePit` -/

structure SnakePit where
  m_activeEvents : Flags QIRCEvent := ⟨0⟩
  m_activeExclusiveEvents : Flags QIRCEvent := ⟨0⟩
  m_snakes : List Snake := []
  next_index : Nat := 0

def SnakePit.hasEventHandler (sp : SnakePit) (ev : QIRCEvent) : Bool := sp.m_activeEvents.has ev

/-- the interpreter of a call: the first one for an exclusive event, else the next in turn -/
def SnakePit.target (sp : SnakePit) (ev : QIRCEvent) : Option Snake × SnakePit :=
  if sp.m_activeExclusiveEvents.has ev then (sp.m_snakes[0]?, sp)
  else (sp.m_snakes[sp.next_index]?,
    { sp with next_index := (sp.next_index + 1) % sp.m_snakes.length })

def SnakePit.event {α : Type} [Gadget α] (sp : SnakePit) (ev : QIRCEvent) (a : α) :
    Option α × SnakePit :=
  let (snake, sp') := sp.target ev
  (snake.bind fun s => s.executeFunction ev a, sp')

/-- a call changes nothing but the turn -/
theorem SnakePit.target_activeEvents (sp : SnakePit) (ev : QIRCEvent) :
    (sp.target ev).2.m_activeEvents = sp.m_activeEvents := by
  unfold SnakePit.target
  split <;> rfl

theorem SnakePit.event_activeEvents {α : Type} [Gadget α] (sp : SnakePit) (ev : QIRCEvent) (a : α) :
    (sp.event ev a).2.m_activeEvents = sp.m_activeEvents := sp.target_activeEvents ev

section
variable {α β : Type} [Gadget α] {p : α → β}

theorem updateGadgetFromPyDataclass_keeps (hp : ∀ f v a, p (Gadget.write f v a) = p a) (a : α)
    (o : PyObj) : p (updateGadgetFromPyDataclass a o) = p a := by
  unfold updateGadgetFromPyDataclass
  induction o.annotations generalizing a with
  | nil => rfl
  | cons f fs ih =>
    rw [List.foldl_cons, ih]
    split
    · exact hp f _ a
    · rfl

/-- what no property writes survives a call -/
theorem Snake.executeFunction_keeps (hp : ∀ f v a, p (Gadget.write f v a) = p a) {s : Snake}
    {ev : QIRCEvent} {a a' : α} (h : s.executeFunction ev a = some a') : p a' = p a := by
  obtain ⟨q, -, hq⟩ := Option.bind_eq_some_iff.mp h
  unfold writeBack at hq
  split at hq
  · cases hq
  · cases hq; rfl
  · cases hq; rfl
  · cases hq; exact updateGadgetFromPyDataclass_keeps hp a _
  · cases hq; exact updateGadgetFromPyDataclass_keeps hp a _

theorem SnakePit.event_keeps (hp : ∀ f v a, p (Gadget.write f v a) = p a) {sp : SnakePit}
    {ev : QIRCEvent} {a a' : α} (h : (sp.event ev a).1 = some a') : p a' = p a := by
  obtain ⟨s, -, hs⟩ := Option.bind_eq_some_iff.mp h
  exact s.executeFunction_keeps hp hs

end

/-! ## the event classes as gadgets -/

section
variable {α : Type}

def bytesProp (put : Bytes → α → α) (v : PyVal) (a : α) : α :=
  match v.toByteArray? with
  | some b => put b a
  | none => a

def boolProp (put : Bool → α → α) (v : PyVal) (a : α) : α :=
  match v.toBool? with
  | some b => put b a
  | none => a

/-- write to the property of that name -/
def writeProp (props : List (String × (PyVal → α → α))) (f : String) (v : PyVal) (a : α) : α :=
  match props.find? fun p => p.1 == f with
  | some p => p.2 v a
  | none => a

end

/-- attributes of a fresh dataclass object: its own fields, then `reason` and `_cancel` -/
def eventAttrs (fields : List (String × PyVal)) (f : String) : PyVal :=
  match fields.find? fun p => p.1 == f with
  | some p => p.2
  | none => if f == "_cancel" then .bool false else .none

def eventObj (fields : List (String × PyVal)) : PyObj :=
  { annotations := fields.map Prod.fst ++ ["reason", "_cancel"], attr := eventAttrs fields }

def pyStr (b : Bytes) : PyVal := .str (fromUtf8 b)

instance : Gadget QEventAuthUser where
  toPy e := eventObj [("username", pyStr e.username), ("password", pyStr e.password),
    ("ip", pyStr e.ip), ("from_system", .bool e.from_system)]
  write := writeProp
    [("username", bytesProp fun b e => { e with username := b }),
      ("password", bytesProp fun b e => { e with password := b }),
      ("ip", bytesProp fun b e => { e with ip := b }),
      ("from_system", boolProp fun b e => { e with from_system := b }),
      ("reason", bytesProp fun b e => { e with reason := b }),
      ("_cancel", boolProp fun b e => { e with cancel := b })]

instance : Gadget QEventRawMessage where
  toPy e := eventObj [("raw", .bytes e.raw), ("ip", pyStr e.ip)]
  write := writeProp
    [("raw", bytesProp fun b e => { e with raw := b }),
      ("ip", bytesProp fun b e => { e with ip := b }),
      ("reason", bytesProp fun b e => { e with reason := b }),
      ("_cancel", boolProp fun b e => { e with cancel := b })]

instance : Gadget QEventNickChange where
  toPy e := eventObj [("old_nick", pyStr e.old_nick), ("new_nick", pyStr e.new_nick),
    ("account", .other), ("from_server", .bool e.from_server)]
  write := writeProp
    [("old_nick", bytesProp fun b e => { e with old_nick := b }),
      ("new_nick", bytesProp fun b e => { e with new_nick := b }),
      ("from_server", boolProp fun b e => { e with from_server := b }),
      ("reason", bytesProp fun b e => { e with reason := b }),
      ("_cancel", boolProp fun b e => { e with cancel := b })]

instance : Gadget QEventChannelRename where
  toPy e := eventObj [("old_name", pyStr e.old_name), ("new_name", pyStr e.new_name),
    ("message", pyStr e.message), ("account", .other), ("channel", .other)]
  write := writeProp
    [("old_name", bytesProp fun b e => { e with old_name := b }),
      ("new_name", bytesProp fun b e => { e with new_name := b }),
      ("message", bytesProp fun b e => { e with message := b }),
      ("reason", bytesProp fun b e => { e with reason := b }),
      ("_cancel", boolProp fun b e => { e with cancel := b })]

instance : Gadget QEventChannelJoin where
  toPy e := eventObj [("channel", .other), ("account", .other), ("password", pyStr e.password),
    ("from_system", .bool e.from_system)]
  write := writeProp
    [("password", bytesProp fun b e => { e with password := b }),
      ("from_system", boolProp fun b e => { e with from_system := b }),
      ("reason", bytesProp fun b e => { e with reason := b }),
      ("_cancel", boolProp fun b e => { e with cancel := b })]

instance : Gadget QEventChannelPart where
  toPy e := eventObj [("channel", .other), ("account", .other), ("message", pyStr e.message),
    ("from_system", .bool e.from_system)]
  write := writeProp
    [("message", bytesProp fun b e => { e with message := b }),
      ("from_system", boolProp fun b e => { e with from_system := b }),
      ("reason", bytesProp fun b e => { e with reason := b }),
      ("_cancel", boolProp fun b e => { e with cancel := b })]

instance : Gadget QEventMessage where
  -- `tags` is annotated with a generic alias, so the object starts with its empty default
  toPy e := eventObj [("nick", pyStr e.nick), ("host", pyStr e.host), ("text", pyStr e.text),
    ("user", pyStr e.user), ("raw", .bytes e.raw), ("tags", .dict ∅), ("account", .other),
    ("dest", .other), ("channel", .other), ("from_system", .bool e.from_system),
    ("tag_msg", .bool e.tag_msg)]
  write := writeProp
    [("nick", bytesProp fun b e => { e with nick := b }),
      ("host", bytesProp fun b e => { e with host := b }),
      ("text", bytesProp fun b e => { e with text := b }),
      ("user", bytesProp fun b e => { e with user := b }),
      ("raw", bytesProp fun b e => { e with raw := b }),
      ("tags", fun v e =>
        match v with
        | .dict d => { e with tags := d }
        | .none => { e with tags := ∅ }
        | .other => { e with tags := ∅ }
        | _ => e),
      ("from_system", boolProp fun b e => { e with from_system := b }),
      ("tag_msg", boolProp fun b e => { e with tag_msg := b }),
      ("reason", bytesProp fun b e => { e with reason := b }),
      ("_cancel", boolProp fun b e => { e with cancel := b })]
  isVariantMap f := f == "tags"

/-! ## the addressees of an event are no properties -/

section
variable {α β : Type} {p : α → β}

theorem bytesProp_keeps {put : Bytes → α → α} (h : ∀ b a, p (put b a) = p a) (v : PyVal) (a : α) :
    p (bytesProp put v a) = p a := by
  unfold bytesProp
  split
  · exact h _ a
  · rfl

theorem boolProp_keeps {put : Bool → α → α} (h : ∀ b a, p (put b a) = p a) (v : PyVal) (a : α) :
    p (boolProp put v a) = p a := by
  unfold boolProp
  split
  · exact h _ a
  · rfl

theorem writeProp_keeps {props : List (String × (PyVal → α → α))} {f : String}
    (h : ∀ q ∈ props, q.1 = f → ∀ v a, p (q.2 v a) = p a) (v : PyVal) (a : α) :
    p (writeProp props f v a) = p a := by
  unfold writeProp
  split
  · next q hq =>
    exact h q (List.mem_of_find?_eq_some hq) (by simpa using List.find?_some hq) v a
  · rfl

end

def QEventMessage.addressees (e : QEventMessage) :
    Option AccId × Option AccId × Option ChanId × Uuid := (e.account, e.dest, e.channel, e.conn_id)

theorem message_addressees (f : String) (v : PyVal) (e : QEventMessage) :
    (Gadget.write f v e).addressees = e.addressees := by
  refine writeProp_keeps (fun q hq _ v a => ?_) v e
  simp only [List.mem_cons, List.not_mem_nil, or_false] at hq
  rcases hq with rfl | rfl | rfl | rfl | rfl | rfl | rfl | rfl | rfl | rfl
  case inr.inr.inr.inr.inr.inl => cases v <;> rfl
  all_goals
    first
    | refine bytesProp_keeps (p := QEventMessage.addressees) (fun b e => ?_) v a
      rfl
    | refine boolProp_keeps (p := QEventMessage.addressees) (fun b e => ?_) v a
      rfl

theorem authUser_cancel (f : String) (v : PyVal) (e : QEventAuthUser) :
    (Gadget.write f v e).cancel = if f = "_cancel" then v.toBool?.getD e.cancel else e.cancel := by
  by_cases hf : f = "_cancel"
  · subst hf
    show (boolProp (fun b e => { e with cancel := b }) v e).cancel = _
    unfold boolProp
    cases v.toBool? <;> rfl
  · rw [if_neg hf]
    refine writeProp_keeps (p := fun e : QEventAuthUser => e.cancel) (fun q hq hname v a => ?_) v e
    simp only [List.mem_cons, List.not_mem_nil, or_false] at hq
    rcases hq with rfl | rfl | rfl | rfl | rfl | rfl
    case inr.inr.inr.inr.inr => exact absurd hname.symm hf
    all_goals
      first
      | refine bytesProp_keeps (p := fun e : QEventAuthUser => e.cancel) (fun b e => ?_) v a
        rfl
      | refine boolProp_keeps (p := fun e : QEventAuthUser => e.cancel) (fun b e => ?_) v a
        rfl

def QEventChannelJoin.addressees (e : QEventChannelJoin) : Option AccId × Option ChanId :=
  (e.account, e.channel)

theorem join_addressees (f : String) (v : PyVal) (e : QEventChannelJoin) :
    (Gadget.write f v e).addressees = e.addressees := by
  refine writeProp_keeps (fun q hq _ v a => ?_) v e
  simp only [List.mem_cons, List.not_mem_nil, or_false] at hq
  rcases hq with rfl | rfl | rfl | rfl
  all_goals
    first
    | refine bytesProp_keeps (p := QEventChannelJoin.addressees) (fun b e => ?_) v a
      rfl
    | refine boolProp_keeps (p := QEventChannelJoin.addressees) (fun b e => ?_) v a
      rfl

def QEventChannelPart.addressees (e : QEventChannelPart) : Option AccId × ChanId :=
  (e.account, e.channel)

theorem part_addressees (f : String) (v : PyVal) (e : QEventChannelPart) :
    (Gadget.write f v e).addressees = e.addressees := by
  refine writeProp_keeps (fun q hq _ v a => ?_) v e
  simp only [List.mem_cons, List.not_mem_nil, or_false] at hq
  rcases hq with rfl | rfl | rfl | rfl
  all_goals
    first
    | refine bytesProp_keeps (p := QEventChannelPart.addressees) (fun b e => ?_) v a
      rfl
    | refine boolProp_keeps (p := QEventChannelPart.addressees) (fun b e => ?_) v a
      rfl

end Chatripper
