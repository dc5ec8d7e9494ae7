import Mathlib
import Chatripper.Python.Modules

/-!
# What an interpreter says about its modules

`qirc.list_modules()` describes every registered module.  The description goes from Python to a
`QVariant`, from there to JSON and from JSON into the entries of the module table.  `version`, a
float that nothing reads, is left out.

* `create_describe`   the entry of a module: all of its description but `enabled`;
* `lookup_listModules`   the entries of the table.
-/

namespace Chatripper
open ByteStr Utf8

/-! ## the Python side -/

/-- an identifier; a NUL or a byte order mark is in none -/
structure PyIdent where
  text : QString
  noNul : Char.ofNat 0 ∉ text
  noBom : text.head? ≠ some bom

/-- a `QIRCModule`; each handler is a method decorated with one event -/
structure PyModule where
  name : PyIdent
  author : Option QString := none
  type : QModuleType := .MODULE
  mode : QModuleMode := .CONCURRENT
  enabled : Bool := false
  handlers : List (PyIdent × QIRCEvent) := []

/-- `QIRC._modules`, a dictionary keyed by class name -/
structure PyRegistry where
  modules : List PyModule
  distinct : modules.Pairwise fun m m' => m.name.text ≠ m'.name.text

/-- the Python objects of a description -/
inductive PyData where
  | none
  | bool (b : Bool)
  | int (n : Int)
  | str (s : QString)
  | list (l : List PyData)
  | dict (d : List (QString × PyData))

/-- `.value` of an enumeration -/
def enumValue {E : Type} [FlagEnum E] (e : E) : Int := (2 ^ FlagEnum.bit e : Nat)

/-- an entry of `_get_event_handlers` -/
def handlerData (h : PyIdent × QIRCEvent) : PyData :=
  .dict [("method".toList, .str h.1.text), ("event".toList, .int (enumValue h.2))]

namespace PyModule

def describe (m : PyModule) : List (QString × PyData) :=
  [("name".toList, .str m.name.text),
    ("author".toList, match m.author with | some s => .str s | none => .none),
    ("type".toList, .int (enumValue m.type)), ("mode".toList, .int (enumValue m.mode)),
    ("enabled".toList, .bool m.enabled), ("handlers".toList, .list (m.handlers.map handlerData))]

end PyModule

def list_modules (reg : PyRegistry) : List (QString × PyData) :=
  reg.modules.map fun m => (m.name.text, .dict m.describe)

/-! ## from Python to a `QVariant` -/

/-- the variants that a description becomes -/
inductive QValue where
  | invalid
  | bool (b : Bool)
  | int (n : BitVec 32)
  | str (s : QString)
  | list (l : List QValue)
  | map (m : List (QString × QValue))

/-- `PyLong_Check` and `PyLong_AsLong`; `bool` is a subtype of `int` -/
def PyData.long? : PyData → Option Int
  | .bool b => some (if b then 1 else 0)
  | .int n => some (if -2 ^ 63 ≤ n ∧ n < 2 ^ 63 then n else -1)
  | _ => Option.none

/-- `QString::fromUtf8(PyUnicode_AsUTF8(..))`, which stops at a NUL -/
def cString (s : QString) : QString := fromUtf8 ((toUtf8 s).takeWhile (· != 0))

/-- `map[key] = value` in a loop that goes on with `m` -/
def putFirst {V : Type} (key : QString) (value : V) (m : List (QString × V)) : List (QString × V) :=
  if m.any (·.1 == key) then m else (key, value) :: m

mutual
def PyObjectToQVariant (obj : PyData) : QValue :=
  match obj.long? with
  | some n => .int (BitVec.ofInt 32 n)
  | Option.none =>
    match obj with
    | .str s => .str (cString s)
    | .bool b => .bool b
    | .list l => .list (toQVariantList l)
    | .dict d => .map (toQVariantMap d)
    | _ => .invalid

def toQVariantList : List PyData → List QValue
  | [] => []
  | item :: l => PyObjectToQVariant item :: toQVariantList l

def toQVariantMap : List (QString × PyData) → List (QString × QValue)
  | [] => []
  | (key, value) :: d => putFirst (cString key) (PyObjectToQVariant value) (toQVariantMap d)
end

/-! ## from a `QVariant` to JSON -/

inductive QJsonValue where
  | null
  | bool (b : Bool)
  | number (n : Int)
  | string (s : QString)
  | array (l : List QJsonValue)
  | object (o : List (QString × QJsonValue))

mutual
/-- `QJsonValue::fromVariant` -/
def fromVariant : QValue → QJsonValue
  | .invalid => .null
  | .bool b => .bool b
  | .int n => .number n.toInt
  | .str s => .string s
  | .list l => .array (fromVariantList l)
  | .map m => .object (fromVariantMap m)

def fromVariantList : List QValue → List QJsonValue
  | [] => []
  | v :: l => fromVariant v :: fromVariantList l

def fromVariantMap : List (QString × QValue) → List (QString × QJsonValue)
  | [] => []
  | (key, v) :: m => (key, fromVariant v) :: fromVariantMap m
end

namespace QJsonValue

/-- `QJsonObject::value`; undefined reads like null -/
def value (o : List (QString × QJsonValue)) (key : String) : QJsonValue :=
  match o.find? fun p => p.1 == key.toList with
  | some p => p.2
  | none => .null

def toString : QJsonValue → QString
  | .string s => s
  | _ => []

/-- false on what is not a JSON boolean -/
def toBool : QJsonValue → Bool
  | .bool b => b
  | _ => false

/-- 0 on what is not a JSON number that fits an int -/
def toInt : QJsonValue → Int
  | .number n => if -2 ^ 31 ≤ n ∧ n < 2 ^ 31 then n else 0
  | _ => 0

def toArray : QJsonValue → List QJsonValue
  | .array l => l
  | _ => []

def toObject : QJsonValue → List (QString × QJsonValue)
  | .object o => o
  | _ => []

end QJsonValue

/-! ## from JSON to the table -/

def handlerOfJson (v : QJsonValue) : ModuleHandler where
  event := BitVec.ofInt 32 (QJsonValue.value v.toObject "event").toInt
  method := (QJsonValue.value v.toObject "method").toString

def ModuleClass.create_from_json (obj : List (QString × QJsonValue)) : ModuleClass where
  name := (QJsonValue.value obj "name").toString
  author := (QJsonValue.value obj "author").toString
  enabled := (QJsonValue.value obj "enabled").toBool
  type := BitVec.ofInt 32 (QJsonValue.value obj "type").toInt
  mode := BitVec.ofInt 32 (QJsonValue.value obj "mode").toInt
  handlers := (QJsonValue.value obj "handlers").toArray.map handlerOfJson

/-- `Snake::listModules` of an interpreter with these modules -/
def listModules (reg : PyRegistry) : QHash Bytes ModuleClass :=
  let obj := PyObjectToQVariant (.dict (list_modules reg))
  let jsonModules := (fromVariant obj).toObject
  jsonModules.foldl (fun modules it =>
    modules.insert (toUtf8 it.1) (ModuleClass.create_from_json it.2.toObject)) ∅

/-- `modules` gives the registered modules of an interpreter, nothing when it is not initialised -/
def ModulePit.refreshModulesAll (modules : Snake → Option PyRegistry) (p : ModulePit) : ModulePit :=
  match p.m_snakes with
  | [] => p
  | snake :: _ =>
    { p with m_modules := match modules snake with
        | some reg => listModules reg
        | none => ∅ }.calcActiveEvents

/-! ## the entries -/

section
variable {m : PyModule} {reg : PyRegistry}

theorem nul_byte (s : QString) (h : Char.ofNat 0 ∉ s) : (0 : UInt8) ∉ toUtf8 s := by
  intro hmem
  exact h ((mem_toUtf8 (by decide) s).mp hmem)

/-- an identifier goes from Python to C++ as it is -/
theorem cString_ident (n : PyIdent) : cString n.text = n.text := by
  have hall : (toUtf8 n.text).takeWhile (· != 0) = toUtf8 n.text := by
    apply List.takeWhile_eq_self_iff.mpr
    intro b hb
    rw [bne_iff_ne]
    intro h0
    rw [h0] at hb
    exact nul_byte n.text n.noNul hb
  unfold cString
  rw [hall]
  exact fromUtf8_toUtf8.mpr n.noBom

/-- a Python object as JSON -/
def asJson (obj : PyData) : QJsonValue := fromVariant (PyObjectToQVariant obj)

theorem json_list (l : List PyData) : fromVariantList (toQVariantList l) = l.map asJson := by
  induction l with
  | nil => rfl
  | cons item l ih =>
    rw [List.map_cons, ← ih]
    rfl

theorem keys_toQVariantMap {key : QString} {d : List (QString × PyData)}
    (hplain : ∀ p ∈ d, cString p.1 = p.1) (hnot : ∀ p ∈ d, p.1 ≠ key) :
    ∀ p ∈ toQVariantMap d, p.1 ≠ key := by
  induction d with
  | nil => intro p hp; cases hp
  | cons item d ih =>
    obtain ⟨k, v⟩ := item
    have hk : cString k = k := hplain (k, v) List.mem_cons_self
    have hrest := ih (fun p hp => hplain p (List.mem_cons_of_mem _ hp))
      fun p hp => hnot p (List.mem_cons_of_mem _ hp)
    intro p hp
    unfold toQVariantMap putFirst at hp
    split at hp
    · exact hrest p hp
    · rcases List.mem_cons.mp hp with rfl | hp
      · rw [hk]
        exact hnot (k, v) List.mem_cons_self
      · exact hrest p hp

/-- distinct keys that are read as they are written give the same object, value by value -/
theorem json_dict {d : List (QString × PyData)} (hplain : ∀ p ∈ d, cString p.1 = p.1)
    (hdistinct : d.Pairwise fun p q => p.1 ≠ q.1) :
    fromVariantMap (toQVariantMap d) = d.map fun p => (p.1, asJson p.2) := by
  induction d with
  | nil => rfl
  | cons item d ih =>
    obtain ⟨k, v⟩ := item
    obtain ⟨hfirst, hrest⟩ := List.pairwise_cons.mp hdistinct
    have hk : cString k = k := hplain (k, v) List.mem_cons_self
    have hplain' : ∀ p ∈ d, cString p.1 = p.1 := fun p hp => hplain p (List.mem_cons_of_mem _ hp)
    have hnew : (toQVariantMap d).any (·.1 == k) = false := by
      rw [List.any_eq_false]
      intro p hp
      rw [beq_iff_eq]
      exact keys_toQVariantMap hplain' (fun q hq => (hfirst q hq).symm) p hp
    have hcons : toQVariantMap ((k, v) :: d) = (k, PyObjectToQVariant v) :: toQVariantMap d := by
      show putFirst (cString k) (PyObjectToQVariant v) (toQVariantMap d) = _
      unfold putFirst
      rw [hk, hnew, if_neg Bool.false_ne_true]
    rw [hcons, List.map_cons, ← ih hplain' hrest]
    rfl

/-! ### the fields -/

/-- an enumeration survives Python, `QVariant` and JSON -/
theorem json_event (e : QIRCEvent) :
    BitVec.ofInt 32 (asJson (.int (enumValue e))).toInt = Flags.mask e := by
  cases e <;> decide

theorem json_type (t : QModuleType) :
    BitVec.ofInt 32 (asJson (.int (enumValue t))).toInt = Flags.mask t := by
  cases t <;> decide

theorem json_mode (mode : QModuleMode) :
    BitVec.ofInt 32 (asJson (.int (enumValue mode))).toInt = Flags.mask mode := by
  cases mode <;> decide

/-- a Python bool is an int to `PyLong_Check`, and so no boolean in JSON -/
theorem json_bool (b : Bool) : (asJson (.bool b)).toBool = false := rfl

theorem json_ident (n : PyIdent) : (asJson (.str n.text)).toString = n.text := cString_ident n

theorem json_handler (h : PyIdent × QIRCEvent) :
    handlerOfJson (asJson (handlerData h)) = ⟨Flags.mask h.2, h.1.text⟩ := by
  have hobject : (asJson (handlerData h)).toObject =
      [("method".toList, asJson (.str h.1.text)), ("event".toList, asJson (.int (enumValue h.2)))] := by
    refine (json_dict ?_ ?_).trans rfl
    · simp only [List.forall_mem_cons]
      refine ⟨by decide, by decide, ?_⟩
      intro p hp
      cases hp
    · simp
  unfold handlerOfJson
  rw [hobject]
  show (⟨BitVec.ofInt 32 (asJson (.int (enumValue h.2))).toInt,
    (asJson (.str h.1.text)).toString⟩ : ModuleHandler) = _
  rw [json_event, json_ident]

/-- the entry of a module -/
def entry (m : PyModule) : ModuleClass where
  name := m.name.text
  author := match m.author with | some s => cString s | none => []
  enabled := false
  type := Flags.mask m.type
  mode := Flags.mask m.mode
  handlers := m.handlers.map fun h => ⟨Flags.mask h.2, h.1.text⟩

/-- **The entry of a module.**  All of the description arrives but `enabled`. -/
theorem create_describe (m : PyModule) :
    ModuleClass.create_from_json (asJson (.dict m.describe)).toObject = entry m := by
  have hobject : (asJson (.dict m.describe)).toObject =
      m.describe.map fun p => (p.1, asJson p.2) := by
    refine json_dict ?_ ?_
    · simp only [PyModule.describe, List.forall_mem_cons]
      refine ⟨by decide, by decide, by decide, by decide, by decide, by decide, ?_⟩
      intro p hp
      cases hp
    · unfold PyModule.describe
      simp
  have hhandlers : ((asJson (.list (m.handlers.map handlerData))).toArray).map handlerOfJson =
      m.handlers.map fun h => ⟨Flags.mask h.2, h.1.text⟩ := by
    have harray : (asJson (.list (m.handlers.map handlerData))).toArray =
        (m.handlers.map handlerData).map asJson := json_list _
    rw [harray, List.map_map, List.map_map]
    apply List.map_congr_left
    intro h _
    exact json_handler h
  unfold ModuleClass.create_from_json entry
  rw [hobject]
  show (⟨(asJson (.str m.name.text)).toString, (asJson (match m.author with
      | some s => .str s
      | none => .none)).toString, (asJson (.bool m.enabled)).toBool,
    BitVec.ofInt 32 (asJson (.int (enumValue m.type))).toInt,
    BitVec.ofInt 32 (asJson (.int (enumValue m.mode))).toInt,
    ((asJson (.list (m.handlers.map handlerData))).toArray).map handlerOfJson⟩ : ModuleClass) = _
  rw [json_ident, json_bool, json_type, json_mode, hhandlers]
  cases m.author <;> rfl

/-! ### the table -/

theorem ident_utf8_inj {n n' : PyIdent} (h : toUtf8 n.text = toUtf8 n'.text) : n.text = n'.text := by
  rw [← fromUtf8_toUtf8.mpr n.noBom, h]
  exact fromUtf8_toUtf8.mpr n'.noBom

theorem jsonModules_eq (reg : PyRegistry) :
    (asJson (.dict (list_modules reg))).toObject =
      reg.modules.map fun m => (m.name.text, asJson (.dict m.describe)) := by
  have hplain : ∀ p ∈ list_modules reg, cString p.1 = p.1 := by
    intro p hp
    obtain ⟨m, -, rfl⟩ := List.mem_map.mp hp
    exact cString_ident m.name
  have hdistinct : (list_modules reg).Pairwise fun p q => p.1 ≠ q.1 :=
    List.pairwise_map.mpr reg.distinct
  refine (json_dict hplain hdistinct).trans ?_
  unfold list_modules
  rw [List.map_map]
  rfl

theorem lookup_foldl_entries {mods : List PyModule} {t : QHash Bytes ModuleClass} {k : Bytes}
    {mod : ModuleClass} (hdistinct : mods.Pairwise fun m m' => m.name.text ≠ m'.name.text)
    (hnew : ∀ m ∈ mods, t[toUtf8 m.name.text]? = none) :
    (mods.foldl (fun t m => t.insert (toUtf8 m.name.text) (entry m)) t)[k]? = some mod ↔
      (∃ m ∈ mods, toUtf8 m.name.text = k ∧ mod = entry m) ∨ t[k]? = some mod := by
  induction mods generalizing t with
  | nil => simp
  | cons m mods ih =>
    obtain ⟨hfirst, hrest⟩ := List.pairwise_cons.mp hdistinct
    have hother (m' : PyModule) (hm' : m' ∈ mods) : toUtf8 m'.name.text ≠ toUtf8 m.name.text := by
      intro h
      exact hfirst m' hm' (ident_utf8_inj h).symm
    have hnew' : ∀ m' ∈ mods,
        (t.insert (toUtf8 m.name.text) (entry m))[toUtf8 m'.name.text]? = none := by
      intro m' hm'
      rw [lookup_insert, if_neg (hother m' hm')]
      exact hnew m' (List.mem_cons_of_mem _ hm')
    rw [List.foldl_cons, ih hrest hnew', lookup_insert]
    constructor
    · rintro (⟨m', hm', hk, he⟩ | h)
      · exact Or.inl ⟨m', List.mem_cons_of_mem _ hm', hk, he⟩
      · split at h
        · next hk => exact Or.inl ⟨m, List.mem_cons_self, hk.symm, (Option.some.inj h).symm⟩
        · exact Or.inr h
    · rintro (⟨m', hm', hk, he⟩ | h)
      · rcases List.mem_cons.mp hm' with rfl | hm'
        · right
          rw [if_pos hk.symm, he]
        · exact Or.inl ⟨m', hm', hk, he⟩
      · right
        rw [if_neg, h]
        intro hk
        rw [hk, hnew m List.mem_cons_self] at h
        cases h

/-- the table has one entry for each registered module -/
theorem lookup_listModules {k : Bytes} {mod : ModuleClass} :
    (listModules reg)[k]? = some mod ↔
      ∃ m ∈ reg.modules, toUtf8 m.name.text = k ∧ mod = entry m := by
  have htable : listModules reg =
      reg.modules.foldl (fun t m => t.insert (toUtf8 m.name.text) (entry m)) ∅ := by
    show ((asJson (.dict (list_modules reg))).toObject).foldl _ ∅ = _
    rw [jsonModules_eq, List.foldl_map]
    congr 1
    funext t m
    rw [create_describe]
  rw [htable, lookup_foldl_entries reg.distinct fun _ _ => Std.ExtTreeMap.getElem?_empty]
  simp

end

end Chatripper
