import Mathlib

/-!
# Paths, resolved by their text

A path is a list of characters, cut at a separator.  Empty segments and a single dot are dropped, two
dots take back the segment before; what two dots take back at the start is nothing when the path is
absolute, and they are kept when it is relative.  No link is followed.

* `resolve_append`       a path that is continued is resolved from where it was;
* `inside_of_no_dots`    what has no two dots in a row stays inside the directory that it is put in.
-/

namespace Paths

/-- a piece stands in what it is joined to -/
theorem infix_intercalate {α : Type} {s p : List α} {l : List (List α)} (h : p ∈ l) :
    p <:+: s.intercalate l := by
  induction l with
  | nil => exact absurd h List.not_mem_nil
  | cons q l ih =>
    cases l with
    | nil =>
      rw [List.mem_singleton.mp h, List.intercalate_singleton]
    | cons r l =>
      rw [List.intercalate_cons_cons]
      rcases List.mem_cons.mp h with rfl | h
      · exact ⟨[], s ++ s.intercalate (r :: l), by simp⟩
      · exact (ih h).trans (List.suffix_append _ _).isInfix

section
variable {α : Type} [DecidableEq α] (sep dot : α)

/-- where a path leads: from the root or from here, through these names -/
structure Place (α : Type) where
  absolute : Bool
  names : List (List α)
  deriving DecidableEq

/-- a segment that is the name of an entry -/
def Named (segment : List α) : Prop := segment ≠ [] ∧ segment ≠ [dot] ∧ segment ≠ [dot, dot]

/-- one segment, from these names on -/
def follow (absolute : Bool) (names : List (List α)) (segment : List α) : List (List α) :=
  if segment = [] ∨ segment = [dot] then names
  else if segment = [dot, dot] then
    match names.getLast? with
    | none => if absolute then [] else [segment]
    | some last => if last = [dot, dot] then names ++ [segment] else names.dropLast
  else names ++ [segment]

def resolve (path : List α) : Place α :=
  let absolute := decide (path.head? = some sep)
  { absolute, names := (path.splitOn sep).foldl (follow dot absolute) [] }

/-- a path leads to a directory or to something below it -/
def Inside (root path : List α) : Prop :=
  (resolve sep dot path).absolute = (resolve sep dot root).absolute ∧
    ∃ names, (∀ n ∈ names, Named dot n) ∧
      (resolve sep dot path).names = (resolve sep dot root).names ++ names

variable {sep dot}

theorem resolve_append {root : List α} (hroot : root ≠ []) (path : List α) :
    resolve sep dot (root ++ sep :: path) =
      { absolute := (resolve sep dot root).absolute
        names := (path.splitOn sep).foldl (follow dot (resolve sep dot root).absolute)
          (resolve sep dot root).names } := by
  have hhead : (root ++ sep :: path).head? = root.head? := List.head?_append_of_ne_nil root hroot
  unfold resolve
  dsimp only
  rw [hhead, List.splitOn_append_cons_self, List.foldl_append]

/-- without two dots a name is added for each segment that has one -/
theorem foldl_follow {absolute : Bool} {segments : List (List α)}
    (h : [dot, dot] ∉ segments) (names : List (List α)) :
    ∃ added, (∀ n ∈ added, Named dot n) ∧
      segments.foldl (follow dot absolute) names = names ++ added := by
  induction segments generalizing names with
  | nil => exact ⟨[], nofun, (List.append_nil names).symm⟩
  | cons segment segments ih =>
    rw [List.mem_cons, not_or] at h
    by_cases hskip : segment = [] ∨ segment = [dot]
    · have hstay : follow dot absolute names segment = names := if_pos hskip
      rw [List.foldl_cons, hstay]
      exact ih h.2 names
    · have hstep : follow dot absolute names segment = names ++ [segment] := by
        unfold follow
        rw [if_neg hskip, if_neg (Ne.symm h.1)]
      obtain ⟨added, hadded, he⟩ := ih h.2 (names ++ [segment])
      refine ⟨segment :: added, fun n hn => ?_, ?_⟩
      · rcases List.mem_cons.mp hn with rfl | hn
        · exact ⟨fun hnil => hskip (.inl hnil), fun hdot => hskip (.inr hdot), Ne.symm h.1⟩
        · exact hadded n hn
      · rw [List.foldl_cons, hstep, he, List.append_assoc]
        rfl

/-- a segment stands in its path -/
theorem infix_of_mem_splitOn {p path : List α} (h : p ∈ path.splitOn sep) : p <:+: path := by
  have hjoin : [sep].intercalate (path.splitOn sep) = path := List.intercalate_splitOn sep
  have hin : p <:+: [sep].intercalate (path.splitOn sep) := infix_intercalate h
  rwa [hjoin] at hin

/-- **Staying inside.** -/
theorem inside_of_no_dots {root path : List α} (hroot : root ≠ []) (h : ¬ [dot, dot] <:+: path) :
    Inside sep dot root (root ++ sep :: path) := by
  have hdots : [dot, dot] ∉ path.splitOn sep := fun hmem => h (infix_of_mem_splitOn hmem)
  obtain ⟨added, hadded, he⟩ := @foldl_follow α _ dot (resolve sep dot root).absolute _ hdots
    (resolve sep dot root).names
  unfold Inside
  rw [resolve_append hroot]
  exact ⟨rfl, added, hadded, he⟩

example : resolve '/' '.' "/srv//a/../b/.".toList = ⟨true, ["srv".toList, "b".toList]⟩ := by
  decide

end

end Paths
