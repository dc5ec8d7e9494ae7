import Mathlib
import Chatripper.Irc.Commands

/-!
# The list of a PART

The loop returns from the command at the first channel that was left.  What comes after it in the
list is neither left nor refused.

* `partLoop_refused`   channels that the account is not in are refused, each once;
* `partLoop_left`      the first one that it is in ends the loop;
* `part_list_iff`      the whole list is processed.
-/

namespace Chatripper
open ByteStr Outcome

namespace client_connection
open World

section
variable (env : Env) (c : ConnId) (a : AccId) (w : World)

/-- `name` is that of a channel that the account is in -/
def isOn (name : Bytes) : Bool :=
  (Channel.get w name).any fun ch => (w.chan ch).m_members.contains a

/-- the index has each channel under its name -/
def CoherentIndex : Prop :=
  ∀ (name : Bytes) ch, Channel.get w name = some ch → (w.chan ch).m_name = name

/-- the reply 442 -/
def notOnChannel (name : Bytes) : ConnId × Bytes :=
  (c, rawLine env (ascii "442 " ++ w.nick c ++ ascii " " ++ name ++
    ascii " :You're not on that channel"))

/-- the names of a list that the account is not on at their turn, when it is on a channel until that
is named first -/
def notOn : List Bytes → List Bytes → List Bytes
  | _, [] => []
  | named, name :: names =>
    if isOn a w name ∧ name ∉ named then notOn (name :: named) names
    else name :: notOn named names

/-- a PART of all names of a list: the account is in none of these channels, in the others as
before, and each position that it was not on is answered once -/
structure PartsAll (names : List Bytes) (w' : World) : Prop where
  left : ∀ name ∈ names, ∀ ch, Channel.get w name = some ch → a ∉ (w'.chan ch).m_members
  others : ∀ ch, (∀ name ∈ names, Channel.get w name ≠ some ch) →
    (a ∈ (w'.chan ch).m_members ↔ a ∈ (w.chan ch).m_members)
  replies : w'.out = w.out ++ (notOn a w [] names).map (notOnChannel env c w)

/-- the names are refused -/
def refuse (names : List Bytes) : World := { w with out := w.out ++ names.map (notOnChannel env c w) }

end

section
variable {env : Env} {c : ConnId} {a : AccId} {w : World} {message : Bytes}

theorem isOn_iff {name : Bytes} {ch : ChanId} (hget : Channel.get w name = some ch) :
    isOn a w name = true ↔ a ∈ (w.chan ch).m_members := by
  unfold isOn
  rw [hget]
  exact List.contains_iff_mem

/-! ## the loop -/

/-- without handlers a member leaves, and who is none is refused -/
theorem part_off {ch : ChanId} {e : QEventChannelPart} (hpy : w.NoHandlers)
    (hacc : e.account = some a) (hout : a ∉ (w.chan ch).m_members) : Channel.part ch e w = (false, w) := by
  unfold Channel.part
  rw [consult_of_noHandlers hpy, ite_self]
  dsimp only
  rw [hacc, Option.filter_some, if_neg fun h => hout (List.contains_iff_mem.mp h)]

theorem part_on {ch : ChanId} {e : QEventChannelPart} (hpy : w.NoHandlers)
    (hacc : e.account = some a) (hin : a ∈ (w.chan ch).m_members) : Channel.part ch e w =
      (true, (postAll (w.chan ch).m_members (.channel_part e) w).updChan ch fun k =>
        { k with m_members := k.m_members.filter (· != a) }) := by
  unfold Channel.part
  rw [consult_of_noHandlers hpy, ite_self]
  dsimp only
  rw [hacc, Option.filter_some, if_pos (List.contains_iff_mem.mpr hin)]

/-- names of channels that the account is not in are refused -/
theorem partLoop_refused {names : List Bytes} (hacc : (w.conn c).m_account = some a)
    (hpy : w.NoHandlers) (hoff : ∀ name ∈ names, isOn a w name = false) (rest : List Bytes) :
    partLoop env c (w.nick c) message (names.map (35 :: ·) ++ rest) w =
      partLoop env c (w.nick c) message rest (refuse env c w names) := by
  induction names generalizing w with
  | nil =>
    unfold refuse
    rw [List.map_nil, List.map_nil, List.append_nil]
    rfl
  | cons name names ih =>
    obtain ⟨hname, hnames⟩ := List.forall_mem_cons.mp hoff
    have hdrop : (35 :: name : Bytes).drop 1 = name := rfl
    have hone : partLoop env c (w.nick c) message ((35 :: name) :: (names.map (35 :: ·) ++ rest)) w =
        partLoop env c (w.nick c) message (names.map (35 :: ·) ++ rest) (refuse env c w [name]) := by
      rw [partLoop, if_pos (show startsWithHash (35 :: name) = true from rfl)]
      dsimp only
      rw [hdrop]
      cases hget : Channel.get w name with
      | none => rfl
      | some ch =>
        have hout : a ∉ (w.chan ch).m_members := fun h => by
          rw [(isOn_iff hget).mpr h] at hname
          cases hname
        dsimp only
        rw [part_off hpy hacc hout]
        rfl
    have hmore : refuse env c (refuse env c w [name]) names = refuse env c w (name :: names) := by
      unfold refuse
      dsimp only
      rw [List.append_assoc]
      rfl
    rw [List.map_cons, List.cons_append, hone, ← hmore]
    exact ih (w := refuse env c w [name]) hacc hpy hnames

/-- the first name of a channel that the account is in ends the loop -/
theorem partLoop_left {names : List Bytes} (hacc : (w.conn c).m_account = some a) (hpy : w.NoHandlers)
    (hoff : ∀ name ∈ names, isOn a w name = false) {name : Bytes} {ch : ChanId}
    (hget : Channel.get w name = some ch) (hin : a ∈ (w.chan ch).m_members) (rest : List Bytes) :
    ∃ w', partLoop env c (w.nick c) message (names.map (35 :: ·) ++ (35 :: name) :: rest) w = w' ∧
      w'.out = w.out ++ names.map (notOnChannel env c w) ∧
      ∀ x, (w'.chan x).m_members =
        if x = ch then (w.chan ch).m_members.filter (· != a) else (w.chan x).m_members := by
  have hdrop : (35 :: name : Bytes).drop 1 = name := rfl
  refine ⟨_, rfl, ?_⟩
  rw [partLoop_refused hacc hpy hoff, partLoop,
    if_pos (show startsWithHash (35 :: name) = true from rfl)]
  dsimp only
  rw [hdrop, show Channel.get (refuse env c w names) name = some ch from hget]
  dsimp only
  rw [part_on (w := refuse env c w names) hpy hacc hin]
  dsimp only
  rw [postAll_eq]
  refine ⟨rfl, fun x => ?_⟩
  show (if x = ch then _ else _ : Channel).m_members = _
  split <;> rfl

/-! ## the list -/

/-- names that are refused whatever comes later -/
theorem notOn_append {names : List Bytes} (hoff : ∀ name ∈ names, isOn a w name = false)
    (named rest : List Bytes) : notOn a w named (names ++ rest) = names ++ notOn a w named rest := by
  induction names with
  | nil => rfl
  | cons name names ih =>
    obtain ⟨hname, hnames⟩ := List.forall_mem_cons.mp hoff
    have hoff : ¬(isOn a w name = true ∧ name ∉ named) := by
      rintro ⟨hon, -⟩
      rw [hname] at hon
      cases hon
    rw [List.cons_append, notOn, if_neg hoff, ih hnames, List.cons_append]

/-- a list is refused as a whole, or has a first name of a channel that the account is in -/
theorem first_on (names : List Bytes) : (∀ name ∈ names, isOn a w name = false) ∨
    ∃ pre name post, names = pre ++ name :: post ∧ isOn a w name = true ∧
      ∀ n ∈ pre, isOn a w n = false := by
  induction names with
  | nil => exact .inl fun _ h => absurd h List.not_mem_nil
  | cons x names ih =>
    cases hx : isOn a w x with
    | true => exact .inr ⟨[], x, names, rfl, hx, fun _ h => absurd h List.not_mem_nil⟩
    | false =>
      rcases ih with hall | ⟨pre, name, post, rfl, hon, hpre⟩
      · exact .inl (List.forall_mem_cons.mpr ⟨hx, hall⟩)
      · exact .inr ⟨x :: pre, name, post, rfl, hon, List.forall_mem_cons.mpr ⟨hx, hpre⟩⟩

theorem split_names {names : List Bytes} (hne : names ≠ [])
    (hcomma : ∀ name ∈ names, (44 : UInt8) ∉ name) :
    split 44 (join [44] (names.map (35 :: ·))) = names.map (35 :: ·) := by
  refine split_join (by simpa using hne) fun p hp => ?_
  obtain ⟨name, hname, rfl⟩ := List.mem_map.mp hp
  rw [List.mem_cons, not_or]
  exact ⟨by decide, hcomma name hname⟩

/-- the loop alone -/
theorem partLoop_all_iff {names : List Bytes} (hacc : (w.conn c).m_account = some a)
    (hpy : w.NoHandlers) (hindex : CoherentIndex w) :
    PartsAll env c a w names (partLoop env c (w.nick c) message (names.map (35 :: ·)) w) ↔
      ∀ pre name post, names = pre ++ name :: post → isOn a w name = true → post = [] := by
  rcases first_on (a := a) (w := w) names with hoff | ⟨pre, name, post, rfl, hon, hpre⟩
  · have hrun : partLoop env c (w.nick c) message (names.map (35 :: ·)) w = refuse env c w names := by
      have h : partLoop env c (w.nick c) message (names.map (35 :: ·) ++ []) w = _ :=
        partLoop_refused hacc hpy hoff []
      rw [List.append_nil] at h
      exact h
    rw [hrun]
    refine iff_of_true ⟨fun name hname ch hget hin => ?_, fun _ _ => Iff.rfl, ?_⟩ ?_
    · have hon := (isOn_iff hget).mpr hin
      rw [hoff name hname] at hon
      cases hon
    · have hall := notOn_append hoff [] []
      rw [List.append_nil] at hall
      rw [hall, notOn, List.append_nil]
      rfl
    · rintro pre name post rfl hon
      rw [hoff name (List.mem_append_right _ List.mem_cons_self)] at hon
      cases hon
  · obtain ⟨ch, hget, hin⟩ : ∃ ch, Channel.get w name = some ch ∧ a ∈ (w.chan ch).m_members := by
      obtain ⟨ch, hget, hin⟩ := (Option.any_eq_true _ _).mp hon
      exact ⟨ch, hget, List.contains_iff_mem.mp hin⟩
    have hleft := @partLoop_left env c a w message _ hacc hpy hpre name ch hget hin
    obtain ⟨w', hw', hout, hmembers⟩ := hleft (post.map (35 :: ·))
    have hgone : a ∉ (w'.chan ch).m_members := by
      rw [hmembers, if_pos rfl, List.mem_filter]
      exact fun h => by simp at h
    rw [List.map_append, List.map_cons, hw']
    have hnot : notOn a w [] (pre ++ name :: post) = pre ++ notOn a w [name] post := by
      rw [notOn_append hpre, notOn, if_pos ⟨hon, List.not_mem_nil⟩]
    constructor
    · intro h
      -- the replies are those of the names before
      have hreplies := h.replies
      rw [hout, hnot, List.map_append, List.append_cancel_left_eq] at hreplies
      have hnone : notOn a w [name] post = [] := by
        have hlen := congrArg List.length hreplies
        rw [List.length_append, List.length_map, List.length_map] at hlen
        exact List.length_eq_zero_iff.mp (by omega)
      have hlast : post = [] := by
        cases post with
        | nil => rfl
        | cons x post =>
          rw [notOn] at hnone
          split at hnone
          · next hx =>
            obtain ⟨y, hy, hiny⟩ := (Option.any_eq_true _ _).mp hx.1
            have hne : y ≠ ch := by
              rintro rfl
              apply hx.2
              rw [← hindex x y hy, hindex name y hget]
              exact List.mem_cons_self
            refine absurd ?_ (h.left x (by simp) y hy)
            rw [hmembers, if_neg hne]
            exact List.contains_iff_mem.mp hiny
          · cases hnone
      subst hlast
      rintro pre' name' post' heq hon'
      by_contra hmore
      have hbefore : name' ∈ pre := by
        have hall : pre = pre' ++ (name' :: post').dropLast := by
          rw [← List.dropLast_append_of_ne_nil (List.cons_ne_nil _ _), ← heq, List.dropLast_concat]
        rw [hall, List.dropLast_cons_of_ne_nil hmore]
        exact List.mem_append_right _ List.mem_cons_self
      rw [hpre name' hbefore] at hon'
      cases hon'
    · intro hcond
      have hlast : post = [] := hcond pre name post rfl hon
      subst hlast
      refine ⟨fun n hn x hx => ?_, fun x hx => ?_, ?_⟩
      · rw [hmembers]
        split
        · next hxc => exact fun h => by simp at h
        · next hxc =>
          intro hmem
          have honn : isOn a w n = true := (isOn_iff hx).mpr hmem
          rcases List.mem_append.mp hn with hn | hn
          · rw [hpre n hn] at honn
            cases honn
          · rw [List.mem_singleton.mp hn, hget] at hx
            exact hxc (Option.some.inj hx).symm
      · rw [hmembers, if_neg]
        rintro rfl
        exact hx name (by simp) hget
      · rw [hout, hnot, notOn, List.append_nil]

/-- **PART processes its list**, if and only if a channel that the account is in is named at the end
of the list only. -/
theorem part_list_iff {names rest : List Bytes} (hcomma : ∀ name ∈ names, (44 : UInt8) ∉ name)
    (hacc : (w.conn c).m_account = some a) (hpy : w.NoHandlers) (hindex : CoherentIndex w) :
    (∃ w', handlePART env c (join [44] (names.map (35 :: ·)) :: rest) w = .ok w' ∧
      PartsAll env c a w names w') ↔
      ∀ pre name post, names = pre ++ name :: post → isOn a w name = true → post = [] := by
  obtain ⟨message, hrun⟩ : ∃ message, handlePART env c (join [44] (names.map (35 :: ·)) :: rest) w =
      .ok (partLoop env c (w.nick c) message (names.map (35 :: ·)) w) := by
    obtain ⟨message, hmessage⟩ : ∃ message, handlePART env c (join [44] (names.map (35 :: ·)) :: rest) w =
        .ok (partLoop env c (w.nick c) message (split 44 (join [44] (names.map (35 :: ·)))) w) := by
      unfold handlePART
      rw [if_neg (List.cons_ne_nil _ _)]
      cases rest with
      | nil => exact ⟨[], rfl⟩
      | cons message rest => exact ⟨message, rfl⟩
    refine ⟨message, hmessage.trans (congrArg Except.ok ?_)⟩
    by_cases hne : names = []
    · -- an empty argument is one empty name, which has no '#'
      subst hne
      rfl
    · rw [split_names hne hcomma]
  rw [hrun]
  constructor
  · rintro ⟨w', he, h⟩
    cases he
    exact (partLoop_all_iff hacc hpy hindex).mp h
  · exact fun h => ⟨_, rfl, (partLoop_all_iff hacc hpy hindex).mpr h⟩

end

/-- one account in the channels x and y -/
def twoRooms : World :=
  { World.empty with
    acc := fun _ => { m_uid := 1, connections := [0] }
    conn := fun _ => { m_account := some 0 }
    chan := fun ch =>
      if ch = 0 then { m_name := ascii "x", m_members := [0] }
      else { m_name := ascii "y", m_members := [0] }
    ctx := { channels := ((∅ : QHash Bytes ChanId).insert (ascii "x") 0).insert (ascii "y") 1 } }

theorem twoRooms_coherent : CoherentIndex twoRooms := by
  intro name ch hget
  change (((∅ : QHash Bytes ChanId).insert (ascii "x") 0).insert (ascii "y") 1)[name]? = some ch at hget
  rw [lookup_insert, lookup_insert] at hget
  split at hget
  · next hy =>
    cases hget
    exact hy.symm
  · split at hget
    · next hx =>
      cases hget
      exact hx.symm
    · cases hget

theorem part_list_iff_twoRooms :
    ∃ w', handlePART Env.ascii 0 [join [44] ([ascii "z", ascii "x"].map (35 :: ·))] twoRooms = .ok w' ∧
      PartsAll Env.ascii 0 0 twoRooms [ascii "z", ascii "x"] w' := by
  refine (part_list_iff (by decide) rfl (fun e => by cases e <;> rfl) twoRooms_coherent).mpr ?_
  intro pre name post heq hon
  match pre with
  | [] =>
    cases heq
    cases hon
  | [_] =>
    cases heq
    rfl
  | _ :: _ :: pre =>
    cases pre <;> cases heq

/-- `PART #x,#y` of one who is in both leaves x only -/
theorem part_list_rest :
    ∃ w', handlePART Env.ascii 0 [ascii "#x,#y"] twoRooms = .ok w' ∧
      ¬PartsAll Env.ascii 0 0 twoRooms [ascii "x", ascii "y"] w' := by
  refine ⟨_, rfl, fun h => ?_⟩
  exact h.left (ascii "y") (by decide) 1 (by decide) (by decide)

end client_connection
end Chatripper
