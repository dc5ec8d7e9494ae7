import Mathlib
import Chatripper.Lib.RoundRobin
import Chatripper.Python.SnakePit

/-!
# The module table of the `SnakePit`

`m_modules` says for every Python module which events it handles, whether it is enabled and whether
it is bound to one interpreter.  `calcActiveEvents` computes the two masks from it that decide if an
event is handed to Python and to which interpreter.  What an interpreter does with `enable_module`
is a parameter.

* `hasEventHandler_calc`, `exclusive_calc`   the masks say what the table says;
* `target_exclusive`, `target_turn`          where a call goes.
-/

namespace Chatripper
open ByteStr Utf8

inductive QModuleType where
  | MODULE | BOT
  deriving DecidableEq

instance : FlagEnum QModuleType where
  bit
    | .MODULE => 0
    | .BOT => 1
  bit_lt e := by cases e <;> decide
  bit_inj e e' h := by cases e <;> cases e' <;> first | rfl | exact absurd h (by decide)

inductive QModuleMode where
  | CONCURRENT | EXCLUSIVE
  deriving DecidableEq

instance : FlagEnum QModuleMode where
  bit
    | .CONCURRENT => 0
    | .EXCLUSIVE => 1
  bit_lt e := by cases e <;> decide
  bit_inj e e' h := by cases e <;> cases e' <;> first | rfl | exact absurd h (by decide)

structure ModuleHandler where
  /-- the int under a `QIRCEvent`, which need not be one of its constants -/
  event : BitVec 32
  method : QString
  deriving DecidableEq

structure ModuleClass where
  name : QString := []
  author : QString := []
  enabled : Bool := false
  /-- the int under a `QModuleType` -/
  type : BitVec 32 := Flags.mask QModuleType.MODULE
  /-- the int under a `QModuleMode` -/
  mode : BitVec 32 := Flags.mask QModuleMode.CONCURRENT
  handlers : List ModuleHandler := []

namespace ModuleClass

def handles (mod : ModuleClass) (e : QIRCEvent) : Bool :=
  mod.handlers.any fun h => h.event == Flags.mask e

def exclusive (mod : ModuleClass) : Bool := mod.mode == Flags.mask QModuleMode.EXCLUSIVE

/-- every handler names one event -/
def SingleEvents (mod : ModuleClass) : Prop :=
  ∀ h ∈ mod.handlers, ∃ e : QIRCEvent, h.event = Flags.mask e

end ModuleClass

structure ModulePit extends SnakePit where
  m_modules : QHash Bytes ModuleClass := ∅

/-! ## the active events -/

/-- `flags.set(event)` of any int -/
def setEvent (f : Flags QIRCEvent) (event : BitVec 32) : Flags QIRCEvent := ⟨f.bits ||| event⟩

def setHandler (exclusive : Bool) (s : Flags QIRCEvent × Flags QIRCEvent) (h : ModuleHandler) :
    Flags QIRCEvent × Flags QIRCEvent :=
  (setEvent s.1 h.event, if exclusive then setEvent s.2 h.event else s.2)

def setModule (s : Flags QIRCEvent × Flags QIRCEvent) (mod : ModuleClass) :
    Flags QIRCEvent × Flags QIRCEvent :=
  if mod.enabled then mod.handlers.foldl (setHandler mod.exclusive) s else s

namespace ModulePit

def modules (p : ModulePit) : List ModuleClass := p.m_modules.toList.map Prod.snd

def calcActiveEvents (p : ModulePit) : ModulePit :=
  let flags := p.modules.foldl setModule (⟨0⟩, ⟨0⟩)
  { p with m_activeEvents := flags.1, m_activeExclusiveEvents := flags.2 }

/-- some module of the table that is marked enabled handles the event -/
def handled (p : ModulePit) (e : QIRCEvent) : Bool :=
  p.modules.any fun mod => mod.enabled && mod.handles e

/-- the same for a module bound to one interpreter -/
def handledExclusively (p : ModulePit) (e : QIRCEvent) : Bool :=
  p.modules.any fun mod => mod.enabled && mod.exclusive && mod.handles e

def SingleEvents (p : ModulePit) : Prop := ∀ mod ∈ p.modules, mod.SingleEvents

end ModulePit

section
variable {e : QIRCEvent} {mod : ModuleClass}

theorem has_setEvent (f : Flags QIRCEvent) (e' : QIRCEvent) :
    (setEvent f (Flags.mask e')).has e = (f.has e || decide (e = e')) := f.has_set e' e

theorem has_zero : (⟨0⟩ : Flags QIRCEvent).has e = false := Flags.not_has_of_empty rfl e

theorem mask_inj {e' : QIRCEvent} : Flags.mask e = Flags.mask e' ↔ e = e' := by
  constructor
  · intro h
    have hset : (setEvent ⟨0⟩ (Flags.mask e')).has e = decide (e = e') := by
      rw [has_setEvent, has_zero, Bool.false_or]
    rw [← h, has_setEvent, has_zero] at hset
    simpa using hset
  · intro h
    rw [h]

theorem has_setHandler {exclusive : Bool} {s : Flags QIRCEvent × Flags QIRCEvent}
    {h : ModuleHandler} (hone : ∃ e' : QIRCEvent, h.event = Flags.mask e') :
    (setHandler exclusive s h).1.has e = (s.1.has e || h.event == Flags.mask e) ∧
      (setHandler exclusive s h).2.has e =
        (s.2.has e || exclusive && h.event == Flags.mask e) := by
  obtain ⟨e', he⟩ := hone
  have hb : (h.event == Flags.mask e) = decide (e = e') := by
    rw [he, Bool.eq_iff_iff, beq_iff_eq, mask_inj, decide_eq_true_iff, eq_comm]
  unfold setHandler
  rw [hb, he]
  refine ⟨has_setEvent _ _, ?_⟩
  cases exclusive with
  | true => exact has_setEvent _ _
  | false => simp

theorem has_handlers {exclusive : Bool} {handlers : List ModuleHandler}
    (hone : ∀ h ∈ handlers, ∃ e' : QIRCEvent, h.event = Flags.mask e')
    (s : Flags QIRCEvent × Flags QIRCEvent) :
    (handlers.foldl (setHandler exclusive) s).1.has e =
        (s.1.has e || handlers.any fun h => h.event == Flags.mask e) ∧
      (handlers.foldl (setHandler exclusive) s).2.has e =
        (s.2.has e || exclusive && handlers.any fun h => h.event == Flags.mask e) := by
  induction handlers generalizing s with
  | nil => simp
  | cons h handlers ih =>
    have hfirst : (setHandler exclusive s h).1.has e = (s.1.has e || h.event == Flags.mask e) ∧
        (setHandler exclusive s h).2.has e =
          (s.2.has e || exclusive && h.event == Flags.mask e) :=
      has_setHandler (hone h List.mem_cons_self)
    obtain ⟨h1, h2⟩ := ih (fun h' hh' => hone h' (List.mem_cons_of_mem _ hh'))
      (setHandler exclusive s h)
    rw [List.foldl_cons, List.any_cons]
    refine ⟨?_, ?_⟩
    · rw [h1, hfirst.1, Bool.or_assoc]
    · rw [h2, hfirst.2]
      cases exclusive <;> simp [Bool.or_assoc]

/-- one round of the loop over the table -/
theorem has_setModule (hone : mod.SingleEvents) (s : Flags QIRCEvent × Flags QIRCEvent) :
    (setModule s mod).1.has e = (s.1.has e || mod.enabled && mod.handles e) ∧
      (setModule s mod).2.has e =
        (s.2.has e || mod.enabled && mod.exclusive && mod.handles e) := by
  unfold setModule ModuleClass.handles
  cases mod.enabled with
  | true =>
    rw [if_pos rfl]
    simp only [Bool.true_and]
    exact has_handlers hone s
  | false => simp

theorem has_modules {mods : List ModuleClass} (hone : ∀ mod ∈ mods, mod.SingleEvents)
    (s : Flags QIRCEvent × Flags QIRCEvent) :
    (mods.foldl setModule s).1.has e =
        (s.1.has e || mods.any fun mod => mod.enabled && mod.handles e) ∧
      (mods.foldl setModule s).2.has e =
        (s.2.has e || mods.any fun mod => mod.enabled && mod.exclusive && mod.handles e) := by
  induction mods generalizing s with
  | nil => simp
  | cons mod mods ih =>
    have hfirst := has_setModule (e := e) (hone mod List.mem_cons_self) s
    obtain ⟨h1, h2⟩ := ih (fun m hm => hone m (List.mem_cons_of_mem _ hm)) (setModule s mod)
    rw [List.foldl_cons, List.any_cons, List.any_cons]
    refine ⟨?_, ?_⟩
    · rw [h1, hfirst.1, Bool.or_assoc]
    · rw [h2, hfirst.2, Bool.or_assoc]

end

namespace ModulePit

section
variable {p : ModulePit} {e : QIRCEvent}

theorem hasEventHandler_calc (hone : p.SingleEvents) :
    p.calcActiveEvents.hasEventHandler e = p.handled e := by
  have h := (has_modules (e := e) hone (⟨0⟩, ⟨0⟩)).1
  rw [has_zero, Bool.false_or] at h
  exact h

theorem exclusive_calc (hone : p.SingleEvents) :
    p.calcActiveEvents.m_activeExclusiveEvents.has e = p.handledExclusively e := by
  have h := (has_modules (e := e) hone (⟨0⟩, ⟨0⟩)).2
  rw [has_zero, Bool.false_or] at h
  exact h

end

end ModulePit

/-! ## switching modules on and off -/

/-- what the Python expressions that the pit evaluates do in an interpreter: did the call return, and
the interpreter after it -/
structure PyApi where
  enable_module : QString → Snake → Bool × Snake
  disable_module : QString → Snake → Bool × Snake

namespace ModulePit

/-- `m_modules[key]->enabled = enabled` when there is such a module -/
def mark (enabled : Bool) (key : Bytes) (m_modules : QHash Bytes ModuleClass) :
    QHash Bytes ModuleClass :=
  match m_modules[key]? with
  | some mod => m_modules.insert key { mod with enabled := enabled }
  | none => m_modules

/-- every interpreter is asked, the table is marked and the active events are computed -/
def switchModule (call : QString → Snake → Bool × Snake) (enabled : Bool) (name : QString)
    (p : ModulePit) : Bool × ModulePit :=
  let results := p.m_snakes.map (call name)
  let ok := results.all Prod.fst
  let p := { p with
    m_snakes := results.map Prod.snd, m_modules := mark enabled (toUtf8 name) p.m_modules }
  (ok, p.calcActiveEvents)

def enableModule (py : PyApi) (name : QString) (p : ModulePit) : Bool × ModulePit :=
  p.switchModule py.enable_module true name

def disableModule (py : PyApi) (name : QString) (p : ModulePit) : Bool × ModulePit :=
  p.switchModule py.disable_module false name

/-- `SnakePit::event`; the table stays as it is -/
def event {α : Type} [Gadget α] (e : QIRCEvent) (a : α) (p : ModulePit) : Option α × ModulePit :=
  let (r, sp) := p.toSnakePit.event e a
  (r, { p with toSnakePit := sp })

section
variable {p : ModulePit} {e : QIRCEvent}

theorem mem_modules {mod : ModuleClass} :
    mod ∈ p.modules ↔ ∃ key : Bytes, p.m_modules[key]? = some mod := by
  unfold modules
  rw [List.mem_map]
  constructor
  · rintro ⟨⟨key, m⟩, hmem, rfl⟩
    exact ⟨key, Std.ExtTreeMap.mem_toList_iff_getElem?_eq_some.mp hmem⟩
  · rintro ⟨key, hkey⟩
    exact ⟨(key, mod), Std.ExtTreeMap.mem_toList_iff_getElem?_eq_some.mpr hkey, rfl⟩

/-- marking changes no handler -/
theorem SingleEvents.switchModule (h : p.SingleEvents) (call : QString → Snake → Bool × Snake)
    (enabled : Bool) (name : QString) : (p.switchModule call enabled name).2.SingleEvents := by
  intro m hm
  obtain ⟨k, hk⟩ := mem_modules.mp hm
  replace hk : (mark enabled (toUtf8 name) p.m_modules)[k]? = some m := hk
  unfold mark at hk
  split at hk
  · next mod hmod =>
    rw [lookup_insert] at hk
    split at hk
    · cases hk
      exact h mod (mem_modules.mpr ⟨_, hmod⟩)
    · exact h m (mem_modules.mpr ⟨k, hk⟩)
  · exact h m (mem_modules.mpr ⟨k, hk⟩)

end

end ModulePit

/-! ## the interpreter of a call -/

namespace SnakePit

/-- the position of the interpreter that a call goes to -/
def targetIndex (sp : SnakePit) (e : QIRCEvent) : Nat :=
  if sp.m_activeExclusiveEvents.has e then 0 else sp.next_index

section
variable {sp : SnakePit} {e : QIRCEvent}

theorem target_index : (sp.target e).1 = sp.m_snakes[sp.targetIndex e]? := by
  unfold target targetIndex
  split <;> rfl

theorem target_exclusive (h : sp.m_activeExclusiveEvents.has e = true) :
    sp.targetIndex e = 0 ∧ (sp.target e).2 = sp := by
  unfold target targetIndex
  rw [if_pos h, if_pos h]
  exact ⟨rfl, rfl⟩

theorem target_turn (h : sp.m_activeExclusiveEvents.has e = false) :
    sp.targetIndex e = sp.next_index ∧
      (sp.target e).2 = { sp with
        next_index := RoundRobin.next sp.m_snakes.length sp.next_index } := by
  unfold target targetIndex
  rw [h, if_neg Bool.false_ne_true, if_neg Bool.false_ne_true]
  exact ⟨rfl, rfl⟩

end

end SnakePit

end Chatripper
