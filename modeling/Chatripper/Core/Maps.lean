import Mathlib
import Chatripper.Core.Types

/-!
# Maps from lists of entries

* `lookup_eq_some_iff`      an association list with distinct keys;
* `lookup_foldl_insert`     a map that its entries are written to;
* `foldl_insert_toList`     a map is made again from its own entries.
-/

namespace Chatripper

/-- with distinct keys, what is found for a key is what stands there -/
theorem lookup_eq_some_iff {K V : Type} [DecidableEq K] {l : List (K × V)}
    (hkeys : (l.map Prod.fst).Nodup) {x : K} {v : V} : l.lookup x = some v ↔ (x, v) ∈ l := by
  constructor
  · intro h
    obtain ⟨before, after, hl, -⟩ := List.lookup_eq_some_iff.mp h
    simp [hl]
  · intro h
    obtain ⟨before, after, rfl⟩ := List.append_of_mem h
    rw [List.map_append, List.map_cons] at hkeys
    have hdisj := (List.nodup_append.mp hkeys).2.2
    refine List.lookup_eq_some_iff.mpr ⟨before, after, rfl, ?_⟩
    intro p hp
    have hne : p.1 ≠ x := hdisj p.1 (List.mem_map_of_mem hp) x List.mem_cons_self
    simpa using hne.symm

section
variable {K V : Type} [Ord K] [Std.TransOrd K] [Std.LawfulEqOrd K] [DecidableEq K]

/-- a map that the entries of another are written to -/
theorem lookup_foldl_insert {l : List (K × V)} (hkeys : (l.map Prod.fst).Nodup) (m : QMap K V)
    (x : K) : (l.foldl (fun m p => m.insert p.1 p.2) m)[x]? = (l.lookup x).or m[x]? := by
  induction l generalizing m with
  | nil => rfl
  | cons p l ih =>
    obtain ⟨k, v⟩ := p
    obtain ⟨hk, hl⟩ := List.nodup_cons.mp hkeys
    rw [List.foldl_cons, ih hl, lookup_insert, List.lookup_cons]
    by_cases hx : x = k
    · have hnone : l.lookup k = none := by
        rw [Option.eq_none_iff_forall_ne_some]
        intro v' h
        have hmem : (k, v') ∈ l := (lookup_eq_some_iff hl).mp h
        exact hk (List.mem_map.mpr ⟨(k, v'), hmem, rfl⟩)
      rw [if_pos hx, hx, hnone, beq_self_eq_true]
      rfl
    · rw [if_neg hx, beq_eq_false_iff_ne.mpr hx]

theorem foldl_insert_toList (m : QMap K V) :
    m.toList.foldl (fun s p => s.insert p.1 p.2) (∅ : QMap K V) = m := by
  have hkeys : (m.toList.map Prod.fst).Nodup := by
    rw [Std.ExtTreeMap.map_fst_toList_eq_keys]
    exact Std.ExtTreeMap.nodup_keys
  apply Std.ExtTreeMap.ext_getElem?
  intro x
  rw [lookup_foldl_insert hkeys, Std.ExtTreeMap.getElem?_empty, Option.or_none]
  apply Option.ext
  intro v
  rw [lookup_eq_some_iff hkeys, Std.ExtTreeMap.mem_toList_iff_getElem?_eq_some]

end

end Chatripper
