import Mathlib
import Chatripper.Python.Describe

/-!
# The module table and the interpreters

After `refreshModulesAll` the table should say what the first interpreter says about its modules.
It does as long as none of them is enabled: the flag that says so is lost on the way.

* `refresh_disabled`    every entry is marked disabled, and no event is active;
* `table_mirrors_iff`   the table mirrors the modules exactly when all of them are disabled.
-/

namespace Chatripper
open ByteStr Utf8

namespace ModulePit

/-- the table and the active events agree with the registered modules -/
structure Mirrors (reg : PyRegistry) (p : ModulePit) : Prop where
  names : ∀ key : Bytes,
    p.m_modules[key]?.isSome = true ↔ ∃ m ∈ reg.modules, toUtf8 m.name.text = key
  entries : ∀ m ∈ reg.modules, ∀ mod, p.m_modules[toUtf8 m.name.text]? = some mod →
    mod.enabled = m.enabled ∧ mod.mode = Flags.mask m.mode ∧
      mod.handlers = m.handlers.map fun h => ⟨Flags.mask h.2, h.1.text⟩
  active : ∀ e, p.hasEventHandler e = true ↔
    ∃ m ∈ reg.modules, m.enabled = true ∧ ∃ h ∈ m.handlers, h.2 = e

section
variable {modules : Snake → Option PyRegistry} {p : ModulePit} {snake : Snake} {reg : PyRegistry}

theorem refresh_table (hfirst : p.m_snakes.head? = some snake) (hreg : modules snake = some reg) :
    p.refreshModulesAll modules = { p with m_modules := listModules reg }.calcActiveEvents := by
  obtain ⟨snakes, hsnakes⟩ := List.head?_eq_some_iff.mp hfirst
  unfold refreshModulesAll
  rw [hsnakes]
  dsimp only
  rw [hreg]

theorem refresh_lookup (hfirst : p.m_snakes.head? = some snake) (hreg : modules snake = some reg)
    {key : Bytes} {mod : ModuleClass} :
    (p.refreshModulesAll modules).m_modules[key]? = some mod ↔
      ∃ m ∈ reg.modules, toUtf8 m.name.text = key ∧ mod = entry m := by
  rw [refresh_table hfirst hreg]
  exact lookup_listModules

/-- no module counts as enabled, so no event reaches Python -/
theorem refresh_disabled (hfirst : p.m_snakes.head? = some snake) (hreg : modules snake = some reg)
    (e : QIRCEvent) : (p.refreshModulesAll modules).hasEventHandler e = false := by
  have hentry : ∀ mod ∈ ModulePit.modules { p with m_modules := listModules reg },
      ∃ m ∈ reg.modules, mod = entry m := by
    intro mod hmod
    obtain ⟨key, hkey⟩ := mem_modules.mp hmod
    obtain ⟨m, hm, -, he⟩ := lookup_listModules.mp hkey
    exact ⟨m, hm, he⟩
  have hsingle : SingleEvents { p with m_modules := listModules reg } := by
    intro mod hmod h hh
    obtain ⟨m, -, rfl⟩ := hentry mod hmod
    obtain ⟨h', -, rfl⟩ := List.mem_map.mp hh
    exact ⟨h'.2, rfl⟩
  rw [refresh_table hfirst hreg, hasEventHandler_calc hsingle]
  unfold handled
  rw [List.any_eq_false]
  intro mod hmod
  obtain ⟨m, -, rfl⟩ := hentry mod hmod
  simp [entry]

/-- **The table.**  It mirrors the registered modules exactly when none is enabled. -/
theorem table_mirrors_iff (hfirst : p.m_snakes.head? = some snake)
    (hreg : modules snake = some reg) :
    (p.refreshModulesAll modules).Mirrors reg ↔ ∀ m ∈ reg.modules, m.enabled = false := by
  have hlookup {m : PyModule} (hm : m ∈ reg.modules) :
      (p.refreshModulesAll modules).m_modules[toUtf8 m.name.text]? = some (entry m) :=
    (refresh_lookup hfirst hreg).mpr ⟨m, hm, rfl, rfl⟩
  constructor
  · intro h m hm
    exact (h.entries m hm _ (hlookup hm)).1.symm
  · intro hoff
    refine ⟨?_, ?_, ?_⟩
    · intro key
      rw [Option.isSome_iff_exists]
      constructor
      · rintro ⟨mod, hmod⟩
        obtain ⟨m, hm, hkey, -⟩ := (refresh_lookup hfirst hreg).mp hmod
        exact ⟨m, hm, hkey⟩
      · rintro ⟨m, hm, rfl⟩
        exact ⟨_, hlookup hm⟩
    · intro m hm mod hmod
      rw [hlookup hm] at hmod
      cases hmod
      exact ⟨(hoff m hm).symm, rfl, rfl⟩
    · intro e
      rw [refresh_disabled hfirst hreg]
      constructor
      · intro h
        cases h
      · rintro ⟨m, hm, hon, -⟩
        rw [hoff m hm] at hon
        cases hon

/-- one module, with a handler of RAW_MSG -/
def oneModule (enabled : Bool) : PyRegistry where
  modules := [{ name := ⟨['M'], by decide, by decide⟩, enabled := enabled
                handlers := [(⟨['h'], by decide, by decide⟩, .RAW_MSG)] }]
  distinct := List.pairwise_singleton _ _

/-- a pit with one interpreter -/
def onePit : ModulePit := { m_snakes := [⟨some ⟨fun _ => []⟩⟩] }

/-- an enabled module is listed as disabled -/
theorem enabled_module_lost :
    ¬ (onePit.refreshModulesAll fun _ => some (oneModule true)).Mirrors (oneModule true) := by
  intro h
  have hactive := (h.active .RAW_MSG).mpr
    ⟨_, List.mem_singleton.mpr rfl, rfl, _, List.mem_singleton.mpr rfl, rfl⟩
  rw [refresh_disabled rfl rfl] at hactive
  cases hactive

/-- a disabled one is listed as it is -/
theorem table_mirrors_disabled :
    (onePit.refreshModulesAll fun _ => some (oneModule false)).Mirrors (oneModule false) := by
  refine (table_mirrors_iff rfl rfl).mpr ?_
  intro m hm
  rw [List.mem_singleton.mp hm]

end

end ModulePit

end Chatripper
