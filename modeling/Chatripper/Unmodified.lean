import Mathlib
import Chatripper.Python.Bridge

/-!
# Handlers that change nothing

A handler returns the object that it was given.  No attribute of it is dirty.  The tags of the message
never reached the object, since their annotation is an alias, and what is there instead is written
back: an empty map.  Every other field stays.

* `eventToPyHandle_clean`   the object of a message;
* `executeFunction_unmodified`   the event after the call;
* `bridge_identity_iff`     it is the event before the call when it had no tags.
-/

namespace Chatripper
open ByteStr Utf8

/-- no attribute was changed -/
def PyValue.Clean : PyValue → Prop
  | .object _ _ dirty => dirty = []
  | _ => True

section
variable {α : Type} {Q : QtConversions} {properties : List (QProperty α)}
  {nested : ObjectRef → PyType → PyValue → Objects → Objects} {attrs : List (String × PyValue)}
  {field : PyField} {s : α × Objects}

theorem property_some {prop : QProperty α} {name : String}
    (h : property properties name = some prop) : prop ∈ properties ∧ prop.name = name := by
  have hfind : properties.find? (fun prop => prop.name == name) = some prop := h
  exact ⟨List.mem_of_find?_eq_some hfind,
    beq_iff_eq.mp (List.find?_some (p := fun prop : QProperty α => prop.name == name) hfind)⟩

/-- of a clean object neither a map nor a pointer is looked at -/
theorem updateField_clean (hprop : ∀ prop, property properties field.name = some prop →
    prop.type ≠ .sharedObject ∧ prop.type ≠ .QVariantMap) :
    updateField Q properties nested attrs [] s field = s := by
  unfold updateField
  cases hp : property properties field.name with
  | none => rfl
  | some prop =>
    obtain ⟨hobject, hmap⟩ := hprop prop hp
    have hname : ("QSharedPointer<".toList).isPrefixOf prop.type.name.toList = false ∧
        dirty_ignore.contains prop.type.name = false := by
      cases htype : prop.type with
      | sharedObject => exact absurd htype hobject
      | QVariantMap => exact absurd htype hmap
      | _ => exact ⟨by decide, by decide⟩
    dsimp only
    rw [hname.1, hname.2]
    rfl

end

/-! ## accounts and channels -/

section
variable {Q : QtConversions} {os : Objects}

theorem updateFields_clean {α : Type} {properties : List (QProperty α)}
    {nested : ObjectRef → PyType → PyValue → Objects → Objects} {pyObj : PyValue} {s : α × Objects}
    (hprops : ∀ prop ∈ properties, prop.type ≠ .sharedObject ∧ prop.type ≠ .QVariantMap)
    (hclean : pyObj.Clean) : updateFields Q properties nested pyObj s = s := by
  unfold updateFields
  cases pyObj with
  | object cls attrs dirty =>
    have hdirty : dirty = [] := hclean
    rw [hdirty]
    dsimp only
    cases eventClass cls with
    | none => rfl
    | some cls =>
      dsimp only
      induction cls.fields ++ cls.base with
      | nil => rfl
      | cons field fields ih =>
        rw [List.foldl_cons, updateField_clean fun prop hp => hprops prop (property_some hp).1]
        exact ih
  | _ => rfl

theorem accountProperties_plain : ∀ prop ∈ accountProperties,
    prop.type ≠ .sharedObject ∧ prop.type ≠ .QVariantMap := by
  intro prop hprop
  simp only [accountProperties, List.mem_cons, List.not_mem_nil, or_false] at hprop
  rcases hprop with rfl | rfl | rfl | rfl | rfl | rfl <;> exact ⟨nofun, nofun⟩

theorem channelProperties_plain : ∀ prop ∈ channelProperties,
    prop.type ≠ .sharedObject ∧ prop.type ≠ .QVariantMap := by
  intro prop hprop
  simp only [channelProperties, List.mem_cons, List.not_mem_nil, or_false] at hprop
  rcases hprop with rfl | rfl | rfl | rfl | rfl | rfl | rfl <;> exact ⟨nofun, nofun⟩

/-- an account or channel that was not changed stays -/
theorem updateObject_clean {ref : ObjectRef} {type : PyType} {pyObj : PyValue}
    (hclean : pyObj.Clean) : updateObject Q ref type pyObj os = os := by
  unfold updateObject
  cases ref with
  | account a =>
    have hsame : (fun x => if x = a then os.account a else os.account x) = os.account := by
      funext x
      split
      · next hx => rw [hx]
      · rfl
    dsimp only
    rw [updateFields_clean accountProperties_plain hclean, hsame, ite_self]
  | channel ch =>
    have hsame : (fun x => if x = ch then os.channel ch else os.channel x) = os.channel := by
      funext x
      split
      · next hx => rw [hx]
      · rfl
    dsimp only
    rw [updateFields_clean channelProperties_plain hclean, hsame, ite_self]

end

/-! ## the object of a message -/

section
variable {kwargs : List (String × PyValue)}

/-- what the constructor gives a field -/
def argument (kwargs : List (String × PyValue)) (field : PyField) : Option PyValue :=
  (kwargs.lookup field.name).or field.default

theorem mapM_arguments {fields : List PyField}
    (h : ∀ field ∈ fields, (argument kwargs field).isSome = true) :
    (fields.mapM fun field => (argument kwargs field).map fun v => (field.name, v)) =
      some (fields.map fun field => (field.name, (argument kwargs field).getD .none)) := by
  induction fields with
  | nil => rfl
  | cons field fields ih =>
    obtain ⟨v, hv⟩ := Option.isSome_iff_exists.mp (h field List.mem_cons_self)
    rw [List.mapM_cons, ih fun f hf => h f (List.mem_cons_of_mem _ hf), hv]
    rw [List.map_cons, hv]
    rfl

theorem construct_some {cls : PyClass}
    (h : ∀ field ∈ cls.fields ++ cls.base, (argument kwargs field).isSome = true) :
    construct cls kwargs = some (.object cls.name ((cls.fields ++ cls.base).map fun field =>
      (field.name, (argument kwargs field).getD .none)) []) := by
  unfold construct
  have hattrs := mapM_arguments h
  unfold argument at hattrs
  rw [hattrs]
  rfl

/-- a dataclass object starts clean -/
theorem construct_clean {cls : PyClass} {v : PyValue} (h : construct cls kwargs = some v) :
    v.Clean := by
  unfold construct at h
  obtain ⟨attrs, -, h⟩ := Option.bind_eq_some_iff.mp h
  cases h
  exact rfl

end

namespace MessageEvent

section
variable {Q : QtConversions} {os : Objects} {e : MessageEvent}

theorem passed_some {name : String} {v : PyValue} {p : String × PyValue}
    (h : passed name v = some p) : p = (name, v) := by
  cases v with
  | none => cases h
  | _ => exact (Option.some.inj h).symm

/-- the argument of a field stands under its name -/
theorem eventKwarg_name {field : PyField} {p : String × PyValue}
    (h : eventKwarg Q os e field = some p) : p.1 = field.name := by
  obtain ⟨prop, -, h⟩ := Option.bind_eq_some_iff.mp h
  rw [passed_some h]

theorem lookup_eventKwargs {fields : List PyField} {field : PyField} (hmem : field ∈ fields)
    (hdistinct : fields.Pairwise fun f g => f.name ≠ g.name) :
    (fields.filterMap (eventKwarg Q os e)).lookup field.name =
      (eventKwarg Q os e field).map Prod.snd := by
  have hother {fields : List PyField} (h : ∀ g ∈ fields, field.name ≠ g.name) :
      (fields.filterMap (eventKwarg Q os e)).lookup field.name = none := by
    apply List.lookup_eq_none_iff.mpr
    intro p hp
    obtain ⟨g, hg, hp⟩ := List.mem_filterMap.mp hp
    rw [eventKwarg_name hp]
    exact bne_iff_ne.mpr (h g hg)
  induction fields with
  | nil => cases hmem
  | cons g fields ih =>
    obtain ⟨hg, hrest⟩ := List.pairwise_cons.mp hdistinct
    rw [List.filterMap_cons]
    rcases List.mem_cons.mp hmem with rfl | hmem
    · cases hkwarg : eventKwarg Q os e field with
      | none => exact hother hg
      | some p =>
        have hname := eventKwarg_name hkwarg
        obtain ⟨name, v⟩ := p
        dsimp only at hname ⊢
        rw [hname, List.lookup_cons_self]
        rfl
    · cases hkwarg : eventKwarg Q os e g with
      | none => exact ih hmem hrest
      | some p =>
        have hname := eventKwarg_name hkwarg
        obtain ⟨name, v⟩ := p
        have hne : (field.name == name) = false := by
          rw [beq_eq_false_iff_ne]
          intro heq
          exact hg field hmem (hname.symm.trans heq.symm)
        dsimp only
        rw [List.lookup_cons, hne]
        exact ih hmem hrest

theorem message_distinct : Message.fields.Pairwise fun f g => f.name ≠ g.name := by
  decide

section
variable {name : String} {prop : QProperty MessageEvent} {b : Bytes}
  (hprop : property messageProperties name = some prop) (hread : prop.read e = .bytes b)
include hprop hread

theorem eventKwarg_bytes : eventKwarg Q os e ⟨name, .bytes, none⟩ = some (name, .bytes b) := by
  have hvalue : eventValue Q os .bytes (.bytes b) = .bytes b := by
    unfold eventValue convertVariantToPyAccordingToType
    rw [Q.toByteArray_bytes]
    rfl
  unfold eventKwarg
  rw [hprop, Option.bind_some, hread, hvalue]
  rfl

theorem eventKwarg_str : eventKwarg Q os e ⟨name, .str, none⟩ = some (name, pyString (fromUtf8 b)) := by
  have hvalue : eventValue Q os .str (.bytes b) = pyString (fromUtf8 b) := by
    unfold eventValue convertVariantToPyAccordingToType
    rw [Q.toQString_bytes]
    rfl
  unfold eventKwarg
  rw [hprop, Option.bind_some, hread, hvalue]
  rfl

end

/-- the fields without a default are passed -/
theorem message_complete {field : PyField} (hmem : field ∈ Message.fields ++ Message.base) :
    (argument (Message.fields.filterMap (eventKwarg Q os e)) field).isSome = true := by
  have hpassed {field : PyField} {p : String × PyValue} (hmem : field ∈ Message.fields)
      (h : eventKwarg Q os e field = some p) :
      (argument (Message.fields.filterMap (eventKwarg Q os e)) field).isSome = true := by
    unfold argument
    rw [lookup_eventKwargs hmem message_distinct, h]
    rfl
  have hdefault {field : PyField} (h : field.default.isSome = true) :
      (argument (Message.fields.filterMap (eventKwarg Q os e)) field).isSome = true := by
    unfold argument
    rw [Option.isSome_or, h, Bool.or_true]
  by_cases hrequired : field.default.isSome = true
  · exact hdefault hrequired
  rcases List.mem_append.mp hmem with hown | hbase
  · have hcases := hown
    simp only [Message, List.mem_cons, List.not_mem_nil, or_false] at hcases
    rcases hcases with rfl | rfl | rfl | rfl | rfl | rfl | rfl | hcases
    · exact hpassed hown (eventKwarg_bytes rfl rfl)
    · exact hpassed hown (eventKwarg_bytes rfl rfl)
    · exact hpassed hown (eventKwarg_str rfl rfl)
    · exact hpassed hown (eventKwarg_str rfl rfl)
    · exact hpassed hown (eventKwarg_str rfl rfl)
    · exact hpassed hown (eventKwarg_str rfl rfl)
    · exact hpassed hown (eventKwarg_bytes rfl rfl)
    · rcases hcases with rfl | rfl | rfl | rfl | rfl | rfl | rfl <;> exact absurd rfl hrequired
  · simp only [Message, eventBase, List.mem_cons, List.not_mem_nil, or_false] at hbase
    rcases hbase with rfl | rfl <;> exact absurd rfl hrequired

theorem convertVariant_clean (value : QtValue) (type : PyType) :
    (convertVariantToPyAccordingToType Q value type).Clean := by
  unfold convertVariantToPyAccordingToType
  cases type with
  | str =>
    dsimp only
    split
    · exact trivial
    · split <;> exact trivial
  | bytes =>
    dsimp only
    split <;> exact trivial
  | _ => exact trivial

theorem eventKwarg_clean {field : PyField} {p : String × PyValue}
    (h : eventKwarg Q os e field = some p) : p.2.Clean := by
  obtain ⟨prop, -, h⟩ := Option.bind_eq_some_iff.mp h
  have hobject (ref : ObjectRef) (name : String) (v : PyValue)
      (hv : objectToPyDataclass Q os ref name = some v) : v.Clean := by
    unfold objectToPyDataclass at hv
    obtain ⟨cls, -, hv⟩ := Option.bind_eq_some_iff.mp hv
    exact construct_clean hv
  rw [passed_some h]
  show (eventValue Q os field.type (prop.read e)).Clean
  unfold eventValue
  have hconvert := convertVariant_clean (Q := Q) (prop.read e) field.type
  dsimp only
  split
  · next ref _ =>
    cases hobj : objectToPyDataclass Q os ref field.type.name with
    | none => exact hconvert
    | some v => exact hobject ref _ v hobj
  · exact hconvert

/-- the tags are not passed -/
theorem eventKwarg_tags :
    eventKwarg Q os e ⟨"tags", Dict .str .Any, some (.dict [])⟩ = none := rfl

/-- an argument comes from the event or is a default -/
theorem argument_clean {field : PyField} (hmem : field ∈ Message.fields ++ Message.base) :
    ((argument (Message.fields.filterMap (eventKwarg Q os e)) field).getD .none).Clean := by
  unfold argument
  cases hlookup : (Message.fields.filterMap (eventKwarg Q os e)).lookup field.name with
  | some v =>
    obtain ⟨before, after, hkwargs, -⟩ := List.lookup_eq_some_iff.mp hlookup
    have hmem : (field.name, v) ∈ Message.fields.filterMap (eventKwarg Q os e) := by
      rw [hkwargs]
      simp
    obtain ⟨g, -, hg⟩ := List.mem_filterMap.mp hmem
    exact eventKwarg_clean hg
  | none =>
    simp only [Message, eventBase, List.cons_append, List.nil_append, List.mem_cons,
      List.not_mem_nil, or_false] at hmem
    rcases hmem with rfl | rfl | rfl | rfl | rfl | rfl | rfl | rfl | rfl | rfl | rfl | rfl | rfl |
      rfl | rfl | rfl <;> exact trivial

theorem eventToPyHandle_clean : ∃ attrs, eventToPyHandle Q os e = some (.object "Message" attrs []) ∧
    attrs.lookup "tags" = some (.dict []) ∧ ∀ p ∈ attrs, p.2.Clean := by
  unfold eventToPyHandle
  rw [construct_some fun field hmem => message_complete hmem]
  refine ⟨_, rfl, ?_, ?_⟩
  · have htags : argument (Message.fields.filterMap (eventKwarg Q os e))
        ⟨"tags", Dict .str .Any, some (.dict [])⟩ = some (.dict []) := by
      unfold argument
      rw [lookup_eventKwargs (by simp [Message]) message_distinct, eventKwarg_tags]
      rfl
    exact congrArg (fun v => some (v.getD PyValue.none)) htags
  · intro p hp
    obtain ⟨field, hfield, rfl⟩ := List.mem_map.mp hp
    exact argument_clean hfield

theorem map_is_tags : ∀ prop ∈ messageProperties, prop.type = .QVariantMap → prop.name = "tags" := by
  intro prop hprop htype
  simp only [messageProperties, List.mem_cons, List.not_mem_nil, or_false] at hprop
  rcases hprop with rfl | rfl | rfl | rfl | rfl | rfl | rfl | rfl | rfl | rfl | rfl | rfl | rfl |
    rfl | rfl | rfl <;> first | rfl | cases htype

/-- every field but the tags stays -/
theorem updateField_other {attrs : List (String × PyValue)} (hclean : ∀ p ∈ attrs, p.2.Clean)
    {field : PyField} (hname : field.name ≠ "tags") (s : MessageEvent × Objects) :
    updateField Q messageProperties (updateObject Q) attrs [] s field = s := by
  cases hp : property messageProperties field.name with
  | none =>
    unfold updateField
    rw [hp]
  | some prop =>
    obtain ⟨hmem, hpname⟩ := property_some hp
    by_cases hobject : prop.type = .sharedObject
    · have hpointer : ("QSharedPointer<".toList).isPrefixOf prop.type.name.toList = true := by
        rw [hobject]
        decide
      unfold updateField
      rw [hp]
      dsimp only
      rw [if_pos hpointer]
      split
      · split
        · rfl
        · rfl
        · next ref _ v _ hlookup =>
          obtain ⟨before, after, hattrs, -⟩ := List.lookup_eq_some_iff.mp hlookup
          have hv : v.Clean := hclean (field.name, v) (by rw [hattrs]; simp)
          rw [updateObject_clean hv]
      · rfl
    · apply updateField_clean
      intro prop' hp'
      rw [hp] at hp'
      cases hp'
      exact ⟨hobject, fun hmap => hname (hpname.symm.trans (map_is_tags prop hmem hmap))⟩

theorem updateFields_other {attrs : List (String × PyValue)} (hclean : ∀ p ∈ attrs, p.2.Clean)
    {fields : List PyField} (hnames : ∀ field ∈ fields, field.name ≠ "tags")
    (s : MessageEvent × Objects) :
    fields.foldl (updateField Q messageProperties (updateObject Q) attrs []) s = s := by
  induction fields with
  | nil => rfl
  | cons field fields ih =>
    rw [List.foldl_cons, updateField_other hclean (hnames field List.mem_cons_self)]
    exact ih fun f hf => hnames f (List.mem_cons_of_mem _ hf)

/-- the tags are overwritten -/
theorem updateField_tags {attrs : List (String × PyValue)}
    (htags : attrs.lookup "tags" = some (.dict [])) (s : MessageEvent × Objects) :
    updateField Q messageProperties (updateObject Q) attrs [] s
      ⟨"tags", Dict .str .Any, some (.dict [])⟩ = ({ s.1 with tags := ∅ }, s.2) := by
  have hprop : property messageProperties "tags" = some
      { name := "tags", type := .QVariantMap, read := fun e => .map e.tags,
        write := setTags } := rfl
  have hwritten : convertPyObjectToVariant (.dict []) = .map [] := rfl
  unfold updateField
  dsimp only
  rw [hprop, htags]
  dsimp only
  rw [hwritten, Q.convert_map]
  rfl

/-- **One call.**  The handler returns its argument: the tags are gone. -/
theorem executeFunction_unmodified :
    executeFunction Q some e os = ({ e with tags := ∅ }, os) := by
  obtain ⟨attrs, hobj, htags, hclean⟩ : ∃ attrs,
      eventToPyHandle Q os e = some (.object "Message" attrs []) ∧
        attrs.lookup "tags" = some (.dict []) ∧ ∀ p ∈ attrs, p.2.Clean := eventToPyHandle_clean
  have hclass : eventClass "Message" = some Message := rfl
  have hfields : Message.fields ++ Message.base = (Message.fields.take 7) ++
      ⟨"tags", Dict .str .Any, some (.dict [])⟩ :: (Message.fields.drop 8 ++ Message.base) := rfl
  unfold executeFunction
  rw [hobj]
  show updateGadgetFromPyDataclass Q e (.object "Message" attrs []) os = _
  unfold updateGadgetFromPyDataclass updateFields
  dsimp only
  rw [hclass]
  dsimp only
  rw [hfields, List.foldl_append, List.foldl_cons, updateFields_other hclean (by decide),
    updateField_tags htags, updateFields_other hclean (by decide)]

end

/-- **The bridge.**  A handler that changes nothing leaves every field of a message as it was, if and
only if the message has no tags. -/
theorem bridge_identity_iff (Q : QtConversions) (os : Objects) (e : MessageEvent) :
    executeFunction Q some e os = (e, os) ↔ e.tags = ∅ := by
  rw [executeFunction_unmodified]
  constructor
  · intro h
    have htags : (∅ : QMap QString Variant) = e.tags := congrArg (fun s => s.1.tags) h
    exact htags.symm
  · intro h
    rw [← h]

/-- what Qt makes of byte arrays, booleans and maps -/
def plainConversions : QtConversions where
  toQString v := match v with
    | .bytes b => some (fromUtf8 b)
    | _ => none
  toByteArray v := match v with
    | .bytes b => some b
    | _ => none
  toBool v := match v with
    | .bool b => b
    | _ => false
  toLongLong _ := 0
  convert type v := match type, v with
    | .QVariantMap, .map entries => some (.map (entries.foldl (fun m p => m.insert p.1 p.2) ∅))
    | _, _ => none
  toQString_bytes _ := rfl
  toByteArray_bytes _ := rfl
  convert_map _ := rfl

/-- a message with one tag -/
def tagged : MessageEvent where
  id := []
  conn_id := []
  nick := ascii "ann"
  host := ascii "kroket.io"
  text := ascii "hi"
  user := ascii "ann"
  raw := ascii "@a=b PRIVMSG bob hi"
  tags := (∅ : QMap QString Variant).insert "a".toList (.str "b".toList)
  targets := ["bob".toList]
  account := none
  dest := none
  channel := none
  from_system := false
  tag_msg := false
  reason := []
  _cancel := false

/-- a handler that changes nothing, and the tag is gone -/
theorem tags_lost : ∃ os : Objects, executeFunction plainConversions some tagged os ≠ (tagged, os) := by
  refine ⟨⟨fun _ => ⟨[], 0, [], [], [], 0⟩, fun _ => ⟨[], [], [], 0, 0, 0, []⟩⟩, ?_⟩
  rw [executeFunction_unmodified]
  intro h
  have htags : (∅ : QMap QString Variant) = tagged.tags := congrArg (fun s => s.1.tags) h
  have hlookup := congrArg (fun m : QMap QString Variant => m["a".toList]?.isSome) htags
  simp [tagged] at hlookup

end MessageEvent

end Chatripper
