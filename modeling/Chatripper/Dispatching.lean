import Mathlib
import Chatripper.Python.Modules

/-!
# Where the events go

Modules are switched on and off while events are dispatched.  The masks follow the table after every
switch, an event of an exclusive module stays with the first interpreter, and the interpreters take
turns at the others.

* `step_inv`        what a switch and a call keep;
* `dispatch_fair`   no interpreter gets two calls more than another.
-/

namespace Chatripper
open ByteStr Utf8 RoundRobin

/-! ## a run of the pit -/

/-- a call to the pit from the server -/
inductive PitCall where
  | enableModule (name : QString)
  | disableModule (name : QString)
  | event (e : QIRCEvent)

/-- the pit, with a ghost record: the interpreters of the events that no enabled exclusive module
handled -/
structure PitRun where
  pit : ModulePit
  turns : List Nat := []

namespace PitRun

/-- the pit once all interpreters have started -/
def start (m_modules : QHash Bytes ModuleClass) (m_snakes : List Snake) : PitRun where
  pit := ModulePit.calcActiveEvents { m_snakes := m_snakes, m_modules := m_modules }

/-- the turn moves whatever the event carries -/
def dispatch (e : QIRCEvent) (s : PitRun) : PitRun where
  pit := { s.pit with toSnakePit := (s.pit.target e).2 }
  turns := if s.pit.handledExclusively e then s.turns else s.turns ++ [s.pit.targetIndex e]

def step (py : PyApi) (s : PitRun) : PitCall → PitRun
  | .enableModule name => { s with pit := (s.pit.enableModule py name).2 }
  | .disableModule name => { s with pit := (s.pit.disableModule py name).2 }
  | .event e => s.dispatch e

def run (py : PyApi) (s : PitRun) (calls : List PitCall) : PitRun := calls.foldl (step py) s

theorem event_dispatch {α : Type} [Gadget α] (e : QIRCEvent) (a : α) (s : PitRun) :
    (s.pit.event e a).2 = (s.dispatch e).pit := rfl

/-! ## the invariant -/

structure Inv (n : Nat) (s : PitRun) : Prop where
  singleEvents : s.pit.SingleEvents
  active : ∀ e, s.pit.hasEventHandler e = s.pit.handled e
  exclusive : ∀ e, s.pit.m_activeExclusiveEvents.has e = s.pit.handledExclusively e
  snakes : s.pit.m_snakes.length = n
  balanced : Balanced n s.pit.next_index s.turns

section
variable {n : Nat} {py : PyApi} {s : PitRun}

theorem start_inv {m_modules : QHash Bytes ModuleClass} {m_snakes : List Snake}
    (hone : ∀ (key : Bytes) mod, m_modules[key]? = some mod → mod.SingleEvents)
    (hn : m_snakes ≠ []) : Inv m_snakes.length (start m_modules m_snakes) := by
  have hsingle : ModulePit.SingleEvents { m_snakes := m_snakes, m_modules := m_modules } := by
    intro mod hmod
    obtain ⟨key, hkey⟩ := ModulePit.mem_modules.mp hmod
    exact hone key mod hkey
  refine ⟨hsingle, ?_, ?_, rfl, ?_⟩
  · intro e
    exact ModulePit.hasEventHandler_calc hsingle
  · intro e
    exact ModulePit.exclusive_calc hsingle
  · exact balanced_start (List.length_pos_of_ne_nil hn)

/-- the masks are computed again from the table; the cursor stays -/
theorem Inv.switch (h : Inv n s) (call : QString → Snake → Bool × Snake) (enabled : Bool)
    (name : QString) : Inv n { s with pit := (s.pit.switchModule call enabled name).2 } := by
  have hsingle := h.singleEvents.switchModule call enabled name
  refine ⟨hsingle, ?_, ?_, ?_, h.balanced⟩
  · intro e
    exact ModulePit.hasEventHandler_calc hsingle
  · intro e
    exact ModulePit.exclusive_calc hsingle
  · show ((s.pit.m_snakes.map (call name)).map Prod.snd).length = n
    rw [List.length_map, List.length_map, h.snakes]

theorem Inv.dispatch (h : Inv n s) (e : QIRCEvent) : Inv n (s.dispatch e) := by
  by_cases hex : s.pit.handledExclusively e = true
  · have hflag := (h.exclusive e).trans hex
    have hstay : s.dispatch e = s := by
      unfold PitRun.dispatch
      rw [if_pos hex, (SnakePit.target_exclusive hflag).2]
    rw [hstay]
    exact h
  · have hex : s.pit.handledExclusively e = false := by simpa using hex
    have hflag := (h.exclusive e).trans hex
    obtain ⟨hindex, hnext⟩ := SnakePit.target_turn hflag
    have hturns : (s.dispatch e).turns = s.turns ++ [s.pit.next_index] := by
      unfold PitRun.dispatch
      rw [hex, if_neg Bool.false_ne_true, hindex]
    have hpit : (s.dispatch e).pit = { s.pit with
        next_index := next s.pit.m_snakes.length s.pit.next_index } := by
      unfold PitRun.dispatch
      rw [hnext]
    refine ⟨?_, ?_, ?_, ?_, ?_⟩
    · rw [hpit]
      exact h.singleEvents
    · rw [hpit]
      exact h.active
    · rw [hpit]
      exact h.exclusive
    · rw [hpit]
      exact h.snakes
    · rw [hpit, hturns, h.snakes]
      exact h.balanced.next

theorem step_inv (h : Inv n s) (call : PitCall) : Inv n (step py s call) := by
  cases call with
  | enableModule name => exact h.switch py.enable_module true name
  | disableModule name => exact h.switch py.disable_module false name
  | event e => exact h.dispatch e

theorem run_pit_inv (h : Inv n s) (calls : List PitCall) : Inv n (run py s calls) := by
  unfold run
  induction calls generalizing s with
  | nil => exact h
  | cons call calls ih => exact ih (step_inv h call)

/-! ## dispatch -/

/-- how the pit treats an event in this state -/
structure Dispatches (n : Nat) (s : PitRun) (e : QIRCEvent) : Prop where
  handler : s.pit.hasEventHandler e = true ↔
    ∃ mod ∈ s.pit.modules, mod.enabled = true ∧ ∃ h ∈ mod.handlers, h.event = Flags.mask e
  exclusive : s.pit.handledExclusively e = true →
    (s.pit.target e).1 = s.pit.m_snakes[0]? ∧
      (s.dispatch e).pit.next_index = s.pit.next_index
  turn : s.pit.handledExclusively e = false →
    (s.pit.target e).1 = s.pit.m_snakes[s.pit.next_index]? ∧
      (s.dispatch e).pit.next_index = (s.pit.next_index + 1) % n
  inRange : s.pit.next_index < n ∧ s.pit.m_snakes.length = n
  fair : ∀ i < n, ∀ j < n, turnsOf s.turns i ≤ turnsOf s.turns j + 1

theorem handled_iff {p : ModulePit} {e : QIRCEvent} : p.handled e = true ↔
    ∃ mod ∈ p.modules, mod.enabled = true ∧ ∃ h ∈ mod.handlers, h.event = Flags.mask e := by
  simp [ModulePit.handled, ModuleClass.handles]

theorem Inv.dispatches (h : Inv n s) (e : QIRCEvent) : Dispatches n s e where
  handler := by rw [h.active e, handled_iff]
  exclusive hex := by
    obtain ⟨hindex, hstay⟩ := SnakePit.target_exclusive ((h.exclusive e).trans hex)
    refine ⟨?_, ?_⟩
    · rw [SnakePit.target_index, hindex]
    · show (s.pit.target e).2.next_index = _
      rw [hstay]
  turn hex := by
    obtain ⟨hindex, hnext⟩ := SnakePit.target_turn ((h.exclusive e).trans hex)
    refine ⟨?_, ?_⟩
    · rw [SnakePit.target_index, hindex]
    · show (s.pit.target e).2.next_index = _
      rw [hnext, h.snakes]
      rfl
  inRange := ⟨h.balanced.inRange, h.snakes⟩
  fair _ hi _ hj := h.balanced.fair hi hj

/-- **Dispatch.**  Whatever is switched on and off and whatever events come, the masks are those of
the table, an exclusive event goes to the first interpreter and the others get their turns. -/
theorem dispatch_fair (py : PyApi) {m_modules : QHash Bytes ModuleClass} {m_snakes : List Snake}
    (hone : ∀ (key : Bytes) mod, m_modules[key]? = some mod → mod.SingleEvents)
    (hn : m_snakes ≠ []) (calls : List PitCall) (e : QIRCEvent) :
    Dispatches m_snakes.length (run py (start m_modules m_snakes) calls) e :=
  (run_pit_inv (start_inv hone hn) calls).dispatches e

/-- one module that keeps its events on one interpreter -/
def pinned : ModuleClass :=
  { enabled := true, mode := Flags.mask QModuleMode.EXCLUSIVE
    handlers := [⟨Flags.mask QIRCEvent.RAW_MSG, []⟩] }

/-- an interpreter that does as it is told -/
def willing : PyApi := ⟨fun _ s => (true, s), fun _ s => (true, s)⟩

def threeSnakes : List Snake := [⟨none⟩, ⟨none⟩, ⟨none⟩]

/-- an event of the module, two others and the module switched off -/
theorem dispatch_fair_pinned : Dispatches threeSnakes.length
    (run willing (start ((∅ : QHash Bytes ModuleClass).insert (ascii "m") pinned) threeSnakes)
      [.event .RAW_MSG, .event .TAG_MSG, .event .NICK_CHANGE, .disableModule ['m']]) .RAW_MSG := by
  apply dispatch_fair willing
  · intro key mod hmod
    rw [lookup_insert] at hmod
    split at hmod
    · cases hmod
      intro h hh
      exact ⟨.RAW_MSG, by rw [List.mem_singleton.mp hh]⟩
    · rw [Std.ExtTreeMap.getElem?_empty] at hmod
      cases hmod
  · exact List.cons_ne_nil _ _

end

end PitRun

end Chatripper
