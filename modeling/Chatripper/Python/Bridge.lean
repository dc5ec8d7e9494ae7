import Mathlib
import Chatripper.Core.Types

/-!
# The bridge between events and dataclass objects

`Snake.executeFunction` makes a dataclass object of an event, calls the handlers on it and writes what
they changed back.  The way there follows the annotations of the class.  The way back follows the
types of the properties: a changed attribute is written, and a map or list always is.  How Qt
converts between its types is not part of the repository.

* `QtConversions`       what the bridge relies on;
* `eventToPyHandle`     a message as a `Message` object;
* `updateGadgetFromPyDataclass`   the way back;
* `MessageEvent.executeFunction`  one call.
-/

namespace Chatripper
open ByteStr Utf8

/-! ## Python values and Qt values -/

/-- an object of a dataclass has its attributes and `_dirty` -/
inductive PyValue where
  | none
  | bool (b : Bool)
  | int (n : Int)
  | str (s : QString)
  | bytes (b : Bytes)
  | list (l : List PyValue)
  | dict (entries : List (QString × PyValue))
  | object (cls : String) (attrs : List (String × PyValue)) (dirty : List String)
  | other

/-- what a `QVariant` made from a Python value holds -/
inductive Variant where
  | invalid
  | bool (b : Bool)
  | longlong (n : Int)
  | str (s : QString)
  | bytes (b : Bytes)
  | list (l : List Variant)
  | map (entries : List (QString × Variant))

inductive QtType where
  | bool | int | QByteArray | QStringList | QVariantMap | QUuid | QDateTime | sharedObject
  deriving DecidableEq

def QtType.name : QtType → String
  | bool => "bool"
  | int => "int"
  | QByteArray => "QByteArray"
  | QStringList => "QStringList"
  | QVariantMap => "QVariantMap"
  | QUuid => "QUuid"
  | QDateTime => "QDateTime"
  | sharedObject => "QSharedPointer<QObject>"

/-- the object that a shared pointer of an event points to -/
inductive ObjectRef where
  | account (a : AccId)
  | channel (ch : ChanId)

/-- the value of a property -/
inductive QtValue where
  | bool (b : Bool)
  | int (n : Int)
  | bytes (b : Bytes)
  | stringList (l : List QString)
  | map (m : QMap QString Variant)
  | uuid (u : Uuid)
  | dateTime (secs : Int)
  | pointer (p : Option ObjectRef)

/-- `QVariant::canConvert` with the conversion, and the conversion of a written property -/
structure QtConversions where
  toQString : QtValue → Option QString
  toByteArray : QtValue → Option Bytes
  toBool : QtValue → Bool
  toLongLong : QtValue → Int
  convert : QtType → Variant → Option QtValue
  toQString_bytes : ∀ b, toQString (.bytes b) = some (fromUtf8 b)
  toByteArray_bytes : ∀ b, toByteArray (.bytes b) = some b
  convert_map : ∀ entries, convert .QVariantMap (.map entries) =
    some (.map (entries.foldl (fun m p => m.insert p.1 p.2) ∅))

/-! ## classes -/

/-- an annotation: a class, or an alias of `typing` with its arguments -/
inductive PyType where
  | str | bytes | bool | int | NoneType | Any
  | cls (name : String)
  | typing (name : String) (args : List PyType)

/-- `tp_name` of a class, `__name__` of an alias -/
def PyType.name : PyType → String
  | str => "str"
  | bytes => "bytes"
  | bool => "bool"
  | int => "int"
  | NoneType => "NoneType"
  | Any => "Any"
  | cls name => name
  | typing name _ => name

structure PyField where
  name : String
  type : PyType
  default : Option PyValue := none

/-- a dataclass, and the fields of its first base -/
structure PyClass where
  name : String
  fields : List PyField
  base : List PyField

def Optional (type : PyType) : PyType := .typing "Optional" [type, .NoneType]
def List_ (type : PyType) : PyType := .typing "List" [type]
def Dict (key value : PyType) : PyType := .typing "Dict" [key, value]

/-- `QEventBase` -/
def eventBase : List PyField := [⟨"reason", .str, some .none⟩, ⟨"_cancel", .bool, some (.bool false)⟩]

/-- `QClass` -/
def classBase : List PyField := [⟨"_dirty", .cls "set", some .other⟩,
  ⟨"_initialized", .bool, some (.bool false)⟩]

def Message : PyClass where
  name := "Message"
  fields := [⟨"id", .bytes, none⟩, ⟨"conn_id", .bytes, none⟩, ⟨"nick", .str, none⟩,
    ⟨"host", .str, none⟩, ⟨"text", .str, none⟩, ⟨"user", .str, none⟩, ⟨"raw", .bytes, none⟩,
    ⟨"tags", Dict .str .Any, some (.dict [])⟩, ⟨"targets", List_ .str, some (.list [])⟩,
    ⟨"account", .cls "Account", some .none⟩, ⟨"dest", .cls "Account", some .none⟩,
    ⟨"channel", .cls "Channel", some .none⟩, ⟨"from_system", .bool, some (.bool false)⟩,
    ⟨"tag_msg", .bool, some (.bool false)⟩]
  base := eventBase

def AccountClass : PyClass where
  name := "Account"
  fields := [⟨"name", .str, none⟩, ⟨"nick", .str, none⟩, ⟨"password", Optional .str, some .none⟩,
    ⟨"host", Optional .str, some .none⟩, ⟨"uid", .bytes, some .other⟩,
    ⟨"creation_date", .cls "datetime", some .other⟩, ⟨"channels", List_ .bytes, some (.list [])⟩,
    ⟨"connections_count", .int, some (.int 0)⟩]
  base := classBase

def ChannelClass : PyClass where
  name := "Channel"
  fields := [⟨"uid", .bytes, some .other⟩, ⟨"name", .str, some (.str [])⟩,
    ⟨"topic", .str, some (.str [])⟩, ⟨"key", Optional .str, some .none⟩,
    ⟨"owner", Optional .str, some .none⟩, ⟨"date_creation", .cls "datetime", some .other⟩,
    ⟨"members", List_ .bytes, some (.list [])⟩, ⟨"modes", Dict .str (Optional .str), some (.dict [])⟩,
    ⟨"ban_masks", .typing "Set" [.str], some .other⟩, ⟨"limit", Optional .int, some .none⟩]
  base := classBase

/-- of `eventClasses_`, the classes that a message is made of -/
def eventClasses : List PyClass := [Message, AccountClass, ChannelClass]

def eventClass (name : String) : Option PyClass := eventClasses.find? fun cls => cls.name == name

/-- the constructor called with keyword arguments; a missing argument is a `TypeError` -/
def construct (cls : PyClass) (kwargs : List (String × PyValue)) : Option PyValue := do
  let attrs ← (cls.fields ++ cls.base).mapM fun field =>
    ((kwargs.lookup field.name).or field.default).map fun v => (field.name, v)
  return .object cls.name attrs []

/-! ## properties -/

/-- a property of a gadget or object -/
structure QProperty (α : Type) where
  name : String
  type : QtType
  read : α → QtValue
  write : QtValue → α → α

section
variable {α : Type}

def bytesProperty (name : String) (get : α → Bytes) (put : Bytes → α → α) : QProperty α where
  name := name
  type := .QByteArray
  read a := .bytes (get a)
  write v a := match v with
    | .bytes b => put b a
    | _ => a

def boolProperty (name : String) (get : α → Bool) (put : Bool → α → α) : QProperty α where
  name := name
  type := .bool
  read a := .bool (get a)
  write v a := match v with
    | .bool b => put b a
    | _ => a

def dateProperty (name : String) (get : α → Int) (put : Int → α → α) : QProperty α where
  name := name
  type := .QDateTime
  read a := .dateTime (get a)
  write v a := match v with
    | .dateTime t => put t a
    | _ => a

def uuidProperty (name : String) (get : α → Uuid) (put : Uuid → α → α) : QProperty α where
  name := name
  type := .QUuid
  read a := .uuid (get a)
  write v a := match v with
    | .uuid u => put u a
    | _ => a

/-- a pointer to an account -/
def accountProperty (name : String) (get : α → Option AccId) (put : Option AccId → α → α) :
    QProperty α where
  name := name
  type := .sharedObject
  read a := .pointer ((get a).map .account)
  write v a := match v with
    | .pointer (some (.account i)) => put (some i) a
    | .pointer none => put none a
    | _ => a

end

/-- the properties of an `Account` -/
structure AccountObject where
  name : Bytes
  uid : Uuid
  password : Bytes
  nick : Bytes
  host : Bytes
  creation_date : Int

def accountProperties : List (QProperty AccountObject) :=
  [bytesProperty "name" (·.name) fun b a => { a with name := b },
    uuidProperty "uid" (·.uid) fun u a => { a with uid := u },
    bytesProperty "password" (·.password) fun b a => { a with password := b },
    bytesProperty "nick" (·.nick) fun b a => { a with nick := b },
    bytesProperty "host" (·.host) fun b a => { a with host := b },
    dateProperty "creation_date" (·.creation_date) fun t a => { a with creation_date := t }]

/-- the properties of a `Channel`; `limit` cannot be written -/
structure ChannelObject where
  name : Bytes
  topic : Bytes
  key : Bytes
  limit : Int
  date_creation : Int
  uid : Uuid
  uid_str : Bytes

def channelProperties : List (QProperty ChannelObject) :=
  [bytesProperty "name" (·.name) fun b ch => { ch with name := b },
    bytesProperty "topic" (·.topic) fun b ch => { ch with topic := b },
    bytesProperty "key" (·.key) fun b ch => { ch with key := b },
    { name := "limit", type := .int, read := fun ch => .int ch.limit, write := fun _ ch => ch },
    dateProperty "date_creation" (·.date_creation) fun t ch => { ch with date_creation := t },
    uuidProperty "uid" (·.uid) fun u ch => { ch with uid := u },
    bytesProperty "uid_str" (·.uid_str) fun b ch => { ch with uid_str := b }]

/-- the accounts and channels that events point to -/
structure Objects where
  account : AccId → AccountObject
  channel : ChanId → ChannelObject

/-- a `QEventMessage` -/
structure MessageEvent where
  id : Bytes
  conn_id : Bytes
  nick : Bytes
  host : Bytes
  text : Bytes
  user : Bytes
  raw : Bytes
  tags : QMap QString Variant
  targets : List QString
  account : Option AccId
  dest : Option AccId
  channel : Option ChanId
  from_system : Bool
  tag_msg : Bool
  reason : Bytes
  _cancel : Bool

def setTags (v : QtValue) (e : MessageEvent) : MessageEvent :=
  match v with
  | .map m => { e with tags := m }
  | _ => e

def messageProperties : List (QProperty MessageEvent) :=
  [bytesProperty "reason" (·.reason) fun b e => { e with reason := b },
    boolProperty "_cancel" (·._cancel) fun b e => { e with _cancel := b },
    bytesProperty "id" (·.id) fun b e => { e with id := b },
    { name := "tags", type := .QVariantMap, read := fun e => .map e.tags, write := setTags },
    bytesProperty "nick" (·.nick) fun b e => { e with nick := b },
    bytesProperty "host" (·.host) fun b e => { e with host := b },
    bytesProperty "text" (·.text) fun b e => { e with text := b },
    bytesProperty "user" (·.user) fun b e => { e with user := b },
    bytesProperty "conn_id" (·.conn_id) fun b e => { e with conn_id := b },
    { name := "targets", type := .QStringList, read := fun e => .stringList e.targets,
      write := fun v e => match v with
        | .stringList l => { e with targets := l }
        | _ => e },
    bytesProperty "raw" (·.raw) fun b e => { e with raw := b },
    accountProperty "account" (·.account) fun a e => { e with account := a },
    accountProperty "dest" (·.dest) fun a e => { e with dest := a },
    { name := "channel", type := .sharedObject, read := fun e => .pointer (e.channel.map .channel),
      write := fun v e => match v with
        | .pointer (some (.channel i)) => { e with channel := some i }
        | .pointer none => { e with channel := none }
        | _ => e },
    boolProperty "from_system" (·.from_system) fun b e => { e with from_system := b },
    boolProperty "tag_msg" (·.tag_msg) fun b e => { e with tag_msg := b }]

/-- `indexOfProperty` -/
def property {α : Type} (properties : List (QProperty α)) (name : String) : Option (QProperty α) :=
  properties.find? fun p => p.name == name

/-! ## to Python -/

/-- `PyUnicode_FromString`, which stops at a NUL -/
def pyString (s : QString) : PyValue := .str (s.takeWhile (· != Char.ofNat 0))

/-- an alias is neither a list nor a dict, so the last two branches of the source are never taken -/
def convertVariantToPyAccordingToType (Q : QtConversions) (value : QtValue) : PyType → PyValue
  | .str => match Q.toQString value with
    | some s => pyString s
    | none => match Q.toByteArray value with
      | some b => pyString (fromUtf8 b)
      | none => .none
  | .bytes => match Q.toByteArray value with
    | some b => .bytes b
    | none => .none
  | .bool => .bool (Q.toBool value)
  | .int => .int (Q.toLongLong value)
  | _ => .none

/-- the first argument of an alias that is not `None` stands for it -/
def actualType : PyType → PyType
  | .typing name args => (args.find? fun t => t.name != "NoneType").getD (.typing name args)
  | type => type

/-- the keyword arguments for an account or channel: `None` is passed too -/
def objectKwargs {α : Type} (Q : QtConversions) (properties : List (QProperty α)) (cls : PyClass)
    (obj : α) : List (String × PyValue) :=
  cls.fields.filterMap fun field =>
    (property properties field.name).map fun prop =>
      (field.name, convertVariantToPyAccordingToType Q (prop.read obj) (actualType field.type))

def objectToPyDataclass (Q : QtConversions) (os : Objects) (ref : ObjectRef) (className : String) :
    Option PyValue :=
  (eventClass className).bind fun cls =>
    construct cls (match ref with
      | .account a => objectKwargs Q accountProperties cls (os.account a)
      | .channel ch => objectKwargs Q channelProperties cls (os.channel ch))

/-- a pointer becomes an object of the class of its annotation, if that is one of `eventClasses_` -/
def eventValue (Q : QtConversions) (os : Objects) (type : PyType) (value : QtValue) : PyValue :=
  let nested := match value with
    | .pointer (some ref) => objectToPyDataclass Q os ref type.name
    | _ => none
  nested.getD (convertVariantToPyAccordingToType Q value type)

/-- a `None` is left to the default of the field -/
def passed (name : String) : PyValue → Option (String × PyValue)
  | .none => none
  | pyValue => some (name, pyValue)

/-- the argument for a field -/
def eventKwarg (Q : QtConversions) (os : Objects) (e : MessageEvent) (field : PyField) :
    Option (String × PyValue) :=
  (property messageProperties field.name).bind fun prop =>
    passed field.name (eventValue Q os field.type (prop.read e))

def eventToPyHandle (Q : QtConversions) (os : Objects) (e : MessageEvent) : Option PyValue :=
  construct Message (Message.fields.filterMap (eventKwarg Q os e))

/-! ## back from Python -/

mutual
def convertPyObjectToVariant : PyValue → Variant
  | .none => .invalid
  | .bool b => .bool b
  | .int n => .longlong n
  | .str s => .str (fromUtf8 (toUtf8 s))
  | .bytes b => .bytes b
  | .list l => .list (convertList l)
  | .dict entries => .map (convertEntries entries)
  | .object _ attrs _ => .map (convertAttrs attrs)
  | .other => .invalid

def convertList : List PyValue → List Variant
  | [] => []
  | v :: l => convertPyObjectToVariant v :: convertList l

def convertEntries : List (QString × PyValue) → List (QString × Variant)
  | [] => []
  | (key, v) :: l => (key, convertPyObjectToVariant v) :: convertEntries l

def convertAttrs : List (String × PyValue) → List (QString × Variant)
  | [] => []
  | (key, v) :: l => (key.toList, convertPyObjectToVariant v) :: convertAttrs l
end

/-- property types that are written back whether dirty or not -/
def dirty_ignore : List String := ["QVariantMap", "QVariantList"]

section
variable {α : Type}

/-- one annotated name; `nested` updates the object that a pointer points to -/
def updateField (Q : QtConversions) (properties : List (QProperty α))
    (nested : ObjectRef → PyType → PyValue → Objects → Objects) (attrs : List (String × PyValue))
    (dirty : List String) (s : α × Objects) (field : PyField) : α × Objects :=
  match property properties field.name with
  | none => s
  | some prop =>
    if ("QSharedPointer<".toList).isPrefixOf prop.type.name.toList then
      match prop.read s.1 with
      | .pointer (some ref) =>
        match attrs.lookup field.name with
        | none => s
        | some .none => s
        | some nestedPyObj => (s.1, nested ref field.type nestedPyObj s.2)
      | _ => s
    else if !dirty.contains field.name && !dirty_ignore.contains prop.type.name then s
    else match attrs.lookup field.name with
      | none => s
      | some pyValue =>
        match Q.convert prop.type (convertPyObjectToVariant pyValue) with
        | some v => (prop.write v s.1, s.2)
        | none => s

def updateFields (Q : QtConversions) (properties : List (QProperty α))
    (nested : ObjectRef → PyType → PyValue → Objects → Objects) (pyObj : PyValue) (s : α × Objects) :
    α × Objects :=
  match pyObj with
  | .object cls attrs dirty =>
    match eventClass cls with
    | some cls => (cls.fields ++ cls.base).foldl (updateField Q properties nested attrs dirty) s
    | none => s
  | _ => s

end

/-- the nested call; accounts and channels point to nothing that an event shows -/
def updateObject (Q : QtConversions) (ref : ObjectRef) (type : PyType) (pyObj : PyValue)
    (os : Objects) : Objects :=
  match ref with
  | .account a =>
    if type.name = "Account" then
      let s := updateFields Q accountProperties (fun _ _ _ os => os) pyObj (os.account a, os)
      { s.2 with account := fun x => if x = a then s.1 else s.2.account x }
    else os
  | .channel ch =>
    if type.name = "Channel" then
      let s := updateFields Q channelProperties (fun _ _ _ os => os) pyObj (os.channel ch, os)
      { s.2 with channel := fun x => if x = ch then s.1 else s.2.channel x }
    else os

namespace MessageEvent

def updateGadgetFromPyDataclass (Q : QtConversions) (e : MessageEvent) (pyObj : PyValue)
    (os : Objects) : MessageEvent × Objects :=
  updateFields Q messageProperties (updateObject Q) pyObj (e, os)

/-- a call of the handlers, which may raise; only a result with annotations is looked at -/
def executeFunction (Q : QtConversions) (handler : PyValue → Option PyValue) (e : MessageEvent)
    (os : Objects) : MessageEvent × Objects :=
  match handler ((eventToPyHandle Q os e).getD .none) with
  | some pyResult => updateGadgetFromPyDataclass Q e pyResult os
  | none => (e, os)

end MessageEvent

end Chatripper
