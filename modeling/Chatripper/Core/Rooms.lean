import Mathlib
import Chatripper.Core.Registration

/-!
# Rooms

Who is in which channel is kept in four places: the member list of the channel, the channels of the
account, the channels of each connection and the roster that a connection keeps of a channel.
`Halls` is what channels and accounts hold.  `Rooms` adds what connections hold and the calls of
`channel_part` that are posted to them.

* `join_toHalls`    a join adds to the member list and the account's channels, together;
* `join_entered`, `mem_join_roster`   what it does to the connections, when each of them is listed by
  the account that it points to.
-/

namespace Chatripper
open ByteStr Outcome

@[ext]
structure Halls where
  /-- `m_name` -/
  name : ChanId → Bytes
  /-- `m_members` -/
  members : ChanId → List AccId
  /-- `channels` of an account -/
  listed : AccId → QHash Bytes (Option ChanId)
  /-- `ctx.channels` -/
  index : Bytes → Option ChanId
  nextChan : Nat

@[ext]
structure Rooms extends Halls where
  /-- `channels` of a connection -/
  entered : ConnId → Bytes → Option ChanId
  /-- `channel_members` of a connection -/
  roster : ConnId → Option ChanId → AccId → Bool
  /-- the calls of `channel_part` posted to a connection, in their order -/
  pending : ConnId → List (ChanId × AccId)

/-- the channel and the account of a `channel_part` posted to `c` -/
def partFor (c : ConnId) : ConnId × QueuedCall → Option (ChanId × AccId)
  | (d, .channel_part ev) => if d = c then ev.account.map fun a => (ev.channel, a) else none
  | _ => none

def World.rooms (w : World) : Rooms where
  name ch := (w.chan ch).m_name
  members ch := (w.chan ch).m_members
  listed a := (w.acc a).channels
  index n := w.ctx.channels[n]?
  nextChan := w.nextChan
  entered c n := (w.conn c).channels[n]?
  roster c p b := ((w.conn c).channel_members.getD p ∅).contains b
  pending c := w.queue.filterMap (partFor c)

/-- what a join asks about connections and accounts -/
@[ext]
structure Ties where
  account : ConnId → Option AccId
  connections : AccId → List ConnId
  uid : AccId → Uuid

def Reg.ties (r : Reg) : Ties where
  account c := (r.conn c).m_account
  connections a := (r.acc a).connections
  uid a := (r.acc a).m_uid

/-- the values of a map are those that its keys lead to -/
theorem mem_values {K V : Type} [Ord K] [Std.TransOrd K] [Std.LawfulEqOrd K] {m : QMap K V} {v : V} :
    v ∈ m.values ↔ ∃ k : K, m[k]? = some v := by
  have hvalues : m.values = m.toList.map Prod.snd := by
    obtain ⟨m⟩ := m
    induction m with
    | mk t =>
      show t.inner.values = (Std.DTreeMap.Internal.Impl.Const.toList t.inner).map Prod.snd
      rw [Std.DTreeMap.Internal.Impl.values_eq_map_snd,
        Std.DTreeMap.Internal.Impl.Const.toList_eq_toListModel_map, List.map_map]
      rfl
  rw [hvalues, List.mem_map]
  constructor
  · rintro ⟨⟨k, v⟩, hkv, rfl⟩
    exact ⟨k, Std.ExtTreeMap.mem_toList_iff_getElem?_eq_some.mp hkv⟩
  · rintro ⟨k, hk⟩
    exact ⟨(k, v), Std.ExtTreeMap.mem_toList_iff_getElem?_eq_some.mpr hk, rfl⟩

/-! ## the operations -/

namespace Halls

def enlist (ch : ChanId) (a : AccId) (H : Halls) : Halls :=
  { H with
    members := fun x => if x = ch then H.members ch ++ [a] else H.members x
    listed := fun x =>
      if x = a then (H.listed a).insert (H.name ch) (H.index (H.name ch)) else H.listed x }

def addMember (ch : ChanId) (a : AccId) (H : Halls) : Halls :=
  if (H.members ch).contains a then H else H.enlist ch a

def create (n : Bytes) (H : Halls) : Halls where
  name x := if x = H.nextChan then n else H.name x
  members x := if x = H.nextChan then [] else H.members x
  listed := H.listed
  index x := if x = n then some H.nextChan else H.index x
  nextChan := H.nextChan + 1

def leave (ch : ChanId) (a : AccId) (H : Halls) : Halls :=
  { H with
    members := fun x => if x = ch then (H.members ch).filter (· != a) else H.members x }

def rename (ch : ChanId) (n : Bytes) (H : Halls) : Halls :=
  { H with name := fun x => if x = ch then n else H.name x }

def newAcc (a : AccId) (H : Halls) : Halls :=
  { H with listed := fun x => if x = a then ∅ else H.listed x }

end Halls

namespace Rooms

/-- the connection sees another account come -/
def notice (c : ConnId) (ch : ChanId) (a : AccId) (R : Rooms) : Rooms :=
  { R with roster := fun x p b => decide (x = c ∧ p = some ch ∧ b = a) || R.roster x p b }

/-- the connection comes itself -/
def enter (c : ConnId) (ch : ChanId) (R : Rooms) : Rooms :=
  { R with
    entered := fun x n => if x = c ∧ n = R.name ch then some ch else R.entered x n
    roster := fun x p b =>
      decide (x = c ∧ p = some ch ∧ b ∈ R.members ch) || R.roster x p b }

def channelJoin (t : Ties) (c : ConnId) (ch : ChanId) (a : AccId) (R : Rooms) : Rooms :=
  if some a ≠ t.account c then R.notice c ch a
  else if (R.entered c (R.name ch)).isSome then R
  else R.enter c ch

def joinOwn (t : Ties) (ch : ChanId) (a : AccId) (R : Rooms) : Rooms :=
  (t.connections a).foldl (fun R c =>
    if (R.entered c (R.name ch)).isSome then R else R.channelJoin t c ch a) R

def joinNotify (t : Ties) (chan_ptr : Option ChanId) (ch : ChanId) (a : AccId) (R : Rooms)
    (c : ConnId) : Rooms :=
  if R.roster c chan_ptr a then R else R.channelJoin t c ch a

/-- the connections of one member are told -/
def joinMember (t : Ties) (chan_ptr : Option ChanId) (ch : ChanId) (a : AccId) (R : Rooms)
    (member : AccId) : Rooms :=
  if t.uid member = t.uid a then R
  else (t.connections member).foldl (joinNotify t chan_ptr ch a) R

def join (t : Ties) (ch : ChanId) (a : AccId) (R : Rooms) : Rooms :=
  let chan_ptr := R.index (R.name ch)
  let R := joinOwn t ch a { R with toHalls := R.toHalls.addMember ch a }
  (R.members ch).foldl (joinMember t chan_ptr ch a) R

/-- an account joins a channel of its list -/
def rejoinOne (t : Ties) (a : AccId) (R : Rooms) (channel : Option ChanId) : Rooms :=
  match channel with
  | some ch => R.join t ch a
  | none => R

def rejoin (t : Ties) (a : AccId) (R : Rooms) : Rooms :=
  (R.listed a).values.foldl (rejoinOne t a) R

/-- the connections that are told of a part -/
def audience (t : Ties) (ch : ChanId) (R : Rooms) : List ConnId :=
  (R.members ch).flatMap t.connections

def part (t : Ties) (ch : ChanId) (a : AccId) (R : Rooms) : Rooms :=
  { R with
    toHalls := R.toHalls.leave ch a
    pending := fun c => R.pending c ++ List.replicate ((R.audience t ch).count c) (ch, a) }

/-- the roster of the channel is dropped -/
def forget (c : ConnId) (ch : ChanId) (R : Rooms) : Rooms :=
  { R with roster := fun x p b => !decide (x = c ∧ p = some ch) && R.roster x p b }

def exit (c : ConnId) (ch : ChanId) (R : Rooms) : Rooms :=
  { R.forget c ch with
    entered := fun x n => if x = c ∧ n = R.name ch then none else R.entered x n }

def channelPart (t : Ties) (c : ConnId) (ch : ChanId) (a : AccId) (R : Rooms) : Rooms :=
  match t.account c with
  | none => R
  | some me =>
    if t.uid a = t.uid me then R.exit c ch
    else if R.roster c (some ch) a then R.forget c ch
    else R

/-- the first posted call is taken -/
def take (c : ConnId) (R : Rooms) : Rooms :=
  { R with pending := fun x => if x = c then (R.pending c).tail else R.pending x }

def create (n : Bytes) (R : Rooms) : Rooms := { R with toHalls := R.toHalls.create n }

def rename (ch : ChanId) (n : Bytes) (R : Rooms) : Rooms :=
  { R with toHalls := R.toHalls.rename ch n }

def newAcc (a : AccId) (R : Rooms) : Rooms := { R with toHalls := R.toHalls.newAcc a }

def newConn (c : ConnId) (R : Rooms) : Rooms :=
  { R with
    entered := fun x n => if x = c then none else R.entered x n
    roster := fun x p b => !decide (x = c) && R.roster x p b }

end Rooms

/-! ## a join and the halls -/

namespace Halls

section
variable (H : Halls) (ch x : ChanId) (a b : AccId)

@[simp] theorem addMember_name : (H.addMember ch a).name = H.name := by
  unfold addMember
  split <;> rfl

@[simp] theorem addMember_index : (H.addMember ch a).index = H.index := by
  unfold addMember
  split <;> rfl

@[simp] theorem addMember_nextChan : (H.addMember ch a).nextChan = H.nextChan := by
  unfold addMember
  split <;> rfl

theorem addMember_members : (H.addMember ch a).members x =
    if x = ch ∧ a ∉ H.members ch then H.members ch ++ [a] else H.members x := by
  unfold addMember
  by_cases h : a ∈ H.members ch
  · rw [if_pos (List.contains_iff_mem.mpr h), if_neg fun hx => hx.2 h]
  · rw [if_neg (by simpa using h)]
    by_cases hx : x = ch
    · rw [if_pos ⟨hx, h⟩]
      exact if_pos hx
    · rw [if_neg fun hc => hx hc.1]
      exact if_neg hx

theorem mem_addMember : b ∈ (H.addMember ch a).members x ↔
    b ∈ H.members x ∨ x = ch ∧ b = a := by
  rw [addMember_members]
  split
  · next h =>
    rw [List.mem_append, List.mem_singleton, h.1]
    simp
  · next h =>
    constructor
    · exact Or.inl
    · rintro (hb | ⟨rfl, rfl⟩)
      · exact hb
      · by_contra hn
        exact h ⟨rfl, hn⟩

theorem addMember_listed : (H.addMember ch a).listed b =
    if b = a ∧ a ∉ H.members ch then (H.listed a).insert (H.name ch) (H.index (H.name ch))
    else H.listed b := by
  unfold addMember
  by_cases h : a ∈ H.members ch
  · rw [if_pos (List.contains_iff_mem.mpr h), if_neg fun hx => hx.2 h]
  · rw [if_neg (by simpa using h)]
    by_cases hb : b = a
    · rw [if_pos ⟨hb, h⟩]
      exact if_pos hb
    · rw [if_neg fun hc => hb hc.1]
      exact if_neg hb

theorem mem_leave : b ∈ (H.leave ch a).members x ↔ b ∈ H.members x ∧ ¬ (x = ch ∧ b = a) := by
  show b ∈ (if x = ch then (H.members ch).filter (· != a) else H.members x) ↔ _
  by_cases hx : x = ch
  · rw [if_pos hx, List.mem_filter, hx]
    simp
  · rw [if_neg hx]
    simp [hx]

end

end Halls

namespace Rooms

section
variable (t : Ties) (c : ConnId) (ch : ChanId) (a : AccId) (R : Rooms)

/-- what neither joining nor being told of it touches -/
def fixed (R : Rooms) : Halls × (ConnId → List (ChanId × AccId)) := (R.toHalls, R.pending)

theorem fixed_channelJoin : (R.channelJoin t c ch a).fixed = R.fixed := by
  unfold channelJoin
  split
  · rfl
  · split <;> rfl

theorem fixed_joinOwn : (R.joinOwn t ch a).fixed = R.fixed := by
  refine foldl_keeps (v := fixed) (fun R c => ?_) _ R
  split
  · rfl
  · exact fixed_channelJoin t c ch a R

theorem fixed_joinNotify (chan_ptr : Option ChanId) :
    (R.joinNotify t chan_ptr ch a c).fixed = R.fixed := by
  unfold joinNotify
  split
  · rfl
  · exact fixed_channelJoin t c ch a R

theorem fixed_joinMember (chan_ptr : Option ChanId) (member : AccId) :
    (R.joinMember t chan_ptr ch a member).fixed = R.fixed := by
  unfold joinMember
  split
  · rfl
  · exact foldl_keeps (v := fixed) (fun R c => fixed_joinNotify t c ch a R chan_ptr) _ R

theorem fixed_join : (R.join t ch a).fixed = (R.toHalls.addMember ch a, R.pending) :=
  (foldl_keeps (v := fixed) (fun R m => fixed_joinMember t ch a R _ m) _ _).trans
    (fixed_joinOwn t ch a _)

/-- **A join.**  The member list and the account's own channels are written together. -/
theorem join_toHalls : (R.join t ch a).toHalls = R.toHalls.addMember ch a :=
  congrArg Prod.fst (fixed_join t ch a R)

theorem join_pending : (R.join t ch a).pending = R.pending :=
  congrArg Prod.snd (fixed_join t ch a R)

@[simp] theorem join_name : (R.join t ch a).name = R.name :=
  (congrArg Halls.name (join_toHalls t ch a R)).trans (Halls.addMember_name _ _ _)

@[simp] theorem join_index : (R.join t ch a).index = R.index :=
  (congrArg Halls.index (join_toHalls t ch a R)).trans (Halls.addMember_index _ _ _)

theorem mem_join {x : ChanId} {b : AccId} : b ∈ (R.join t ch a).members x ↔
    b ∈ R.members x ∨ x = ch ∧ b = a := by
  rw [join_toHalls]
  exact Halls.mem_addMember _ _ _ _ _

end

/-- what a connection is told of a part changes the connection only -/
theorem channelPart_toHalls (t : Ties) (c : ConnId) (ch : ChanId) (a : AccId) (R : Rooms) :
    (R.channelPart t c ch a).toHalls = R.toHalls := by
  unfold channelPart
  split
  · rfl
  · split
    · rfl
    · split <;> rfl

theorem channelPart_pending (t : Ties) (c : ConnId) (ch : ChanId) (a : AccId) (R : Rooms) :
    (R.channelPart t c ch a).pending = R.pending := by
  unfold channelPart
  split
  · rfl
  · split
    · rfl
    · split <;> rfl

theorem channelPart_other {t : Ties} {c d : ConnId} (ch : ChanId) (a : AccId) (R : Rooms) (hd : d ≠ c)
    (n : Bytes) (p : Option ChanId) (b : AccId) :
    (R.channelPart t c ch a).entered d n = R.entered d n ∧
      (R.channelPart t c ch a).roster d p b = R.roster d p b := by
  have hforget : (R.forget c ch).roster d p b = R.roster d p b := by
    show (!decide (d = c ∧ p = some ch) && R.roster d p b) = _
    rw [decide_eq_false fun h => hd h.1]
    rfl
  unfold channelPart
  split
  · exact ⟨rfl, rfl⟩
  · split
    · exact ⟨if_neg fun h => hd h.1, hforget⟩
    · split
      · exact ⟨rfl, hforget⟩
      · exact ⟨rfl, rfl⟩

/-! ## a join and the connections -/

/-- the entries of a connection after it was shown a join -/
theorem channelJoin_entered {t : Ties} {c x : ConnId} {ch y : ChanId} {a : AccId} {R : Rooms}
    {n : Bytes} (h : (R.channelJoin t c ch a).entered x n = some y) :
    R.entered x n = some y ∨ n = R.name ch ∧ y = ch := by
  unfold channelJoin at h
  split at h
  · exact Or.inl h
  · split at h
    · exact Or.inl h
    · replace h : (if x = c ∧ n = R.name ch then some ch else R.entered x n) = some y := h
      split at h
      · next hx =>
        cases h
        exact Or.inr ⟨hx.2, rfl⟩
      · exact Or.inl h

/-- a loop of shown joins enters the channel and nothing else -/
theorem entered_of_foldl {α : Type} {f : Rooms → α → Rooms} {ch : ChanId}
    (hname : ∀ R i, (f R i).name = R.name)
    (hf : ∀ R i x n y, (f R i).entered x n = some y →
      R.entered x n = some y ∨ n = R.name ch ∧ y = ch)
    {l : List α} {R : Rooms} {x : ConnId} {n : Bytes} {y : ChanId}
    (h : (l.foldl f R).entered x n = some y) :
    R.entered x n = some y ∨ n = R.name ch ∧ y = ch := by
  induction l generalizing R with
  | nil => exact Or.inl h
  | cons i l ih =>
    rcases ih h with h | h
    · exact hf R i x n y h
    · rw [hname] at h
      exact Or.inr h

/-- a join enters connections under the channel's own name only -/
theorem join_entered_cases {t : Ties} {ch : ChanId} {a : AccId} {R : Rooms} {x : ConnId}
    {n : Bytes} {y : ChanId} (h : (R.join t ch a).entered x n = some y) :
    R.entered x n = some y ∨ n = R.name ch ∧ y = ch := by
  have hname {R R' : Rooms} (h : R'.fixed = R.fixed) : R'.name = R.name :=
    congrArg (fun p => p.1.name) h
  have hown {R : Rooms} (h : (R.joinOwn t ch a).entered x n = some y) :
      R.entered x n = some y ∨ n = R.name ch ∧ y = ch := by
    refine entered_of_foldl (fun R c => ?_) (fun R c x n y h => ?_) h
    · split
      · rfl
      · exact hname (fixed_channelJoin t c ch a R)
    · split at h
      · exact Or.inl h
      · exact channelJoin_entered h
  have hnotify (p : Option ChanId) (R : Rooms) (c x : ConnId) (n : Bytes) (y : ChanId)
      (h : (R.joinNotify t p ch a c).entered x n = some y) :
      R.entered x n = some y ∨ n = R.name ch ∧ y = ch := by
    unfold joinNotify at h
    split at h
    · exact Or.inl h
    · exact channelJoin_entered h
  have htold := entered_of_foldl (f := joinMember t (R.index (R.name ch)) ch a)
    (fun R m => hname (fixed_joinMember t ch a R _ m)) (fun R m x n y h => by
      unfold joinMember at h
      split at h
      · exact Or.inl h
      · exact entered_of_foldl (fun R c => hname (fixed_joinNotify t c ch a R _))
          (hnotify _) h) h
  have hsame : (R.joinOwn t ch a).name = R.name := hname (fixed_joinOwn t ch a R)
  have hadd : (joinOwn t ch a { R with toHalls := R.toHalls.addMember ch a }).name ch =
      R.name ch := by
    rw [hname (fixed_joinOwn t ch a { R with toHalls := R.toHalls.addMember ch a })]
    exact congrFun (Halls.addMember_name _ _ _) ch
  rcases htold with h | ⟨h, hy⟩
  · rcases hown h with h | ⟨h, hy⟩
    · exact Or.inl h
    · exact Or.inr ⟨h.trans (congrFun (Halls.addMember_name _ _ _) ch), hy⟩
  · exact Or.inr ⟨h.trans hadd, hy⟩

/-- every connection that an account lists points to it -/
def Tied (t : Ties) : Prop := ∀ c a, c ∈ t.connections a → t.account c = some a

/-- a connection enters the channel unless it is there -/
def arrive (ch : ChanId) (R : Rooms) (c : ConnId) : Rooms :=
  if (R.entered c (R.name ch)).isSome then R else R.enter c ch

section
variable {t : Ties} {c x : ConnId} {ch : ChanId} {p : Option ChanId} {a b : AccId} {n : Bytes}
  {R : Rooms} {l : List ConnId}

theorem fixed_arrive : (R.arrive ch c).fixed = R.fixed := by
  unfold arrive
  split <;> rfl

theorem arrive_entered : (R.arrive ch c).entered x n =
    if x = c ∧ n = R.name ch ∧ R.entered x n = none then some ch else R.entered x n := by
  unfold arrive
  by_cases h : (R.entered c (R.name ch)).isSome = true
  · rw [if_pos h, if_neg]
    rintro ⟨rfl, rfl, hn⟩
    rw [hn] at h
    cases h
  · rw [if_neg h]
    show (if x = c ∧ n = R.name ch then some ch else R.entered x n) = _
    by_cases hx : x = c ∧ n = R.name ch
    · obtain ⟨rfl, rfl⟩ := hx
      rw [if_pos ⟨rfl, rfl⟩, if_pos ⟨rfl, rfl, by simpa using h⟩]
    · rw [if_neg hx, if_neg fun hc => hx ⟨hc.1, hc.2.1⟩]

theorem mem_arrive_roster : (R.arrive ch c).roster x p b = true ↔ R.roster x p b = true ∨
    p = some ch ∧ x = c ∧ R.entered x (R.name ch) = none ∧ b ∈ R.members ch := by
  unfold arrive
  by_cases h : (R.entered c (R.name ch)).isSome = true
  · rw [if_pos h]
    refine ⟨Or.inl, fun hr => hr.resolve_right ?_⟩
    rintro ⟨-, rfl, hn, -⟩
    rw [hn] at h
    cases h
  · rw [if_neg h]
    show (decide (x = c ∧ p = some ch ∧ b ∈ R.members ch) || R.roster x p b) = true ↔ _
    rw [Bool.or_eq_true, decide_eq_true_iff, or_comm]
    refine or_congr_right ⟨?_, fun ⟨hp, hx, _, hb⟩ => ⟨hx, hp, hb⟩⟩
    rintro ⟨rfl, hp, hb⟩
    exact ⟨hp, rfl, by simpa using h, hb⟩

/-- the connections of a list arrive -/
theorem foldl_arrive :
    (l.foldl (arrive ch) R).fixed = R.fixed ∧
    (∀ x n, (l.foldl (arrive ch) R).entered x n =
      if x ∈ l ∧ n = R.name ch ∧ R.entered x n = none then some ch else R.entered x n) ∧
    ∀ x p b, (l.foldl (arrive ch) R).roster x p b = true ↔ R.roster x p b = true ∨
      p = some ch ∧ x ∈ l ∧ R.entered x (R.name ch) = none ∧ b ∈ R.members ch := by
  induction l generalizing R with
  | nil => simp
  | cons c l ih =>
    obtain ⟨hfix, hent, hros⟩ := ih (R := R.arrive ch c)
    have hfix1 : (R.arrive ch c).fixed = R.fixed := fixed_arrive
    have hname : (R.arrive ch c).name = R.name := congrArg (fun q => q.1.name) hfix1
    have hmem : (R.arrive ch c).members = R.members := congrArg (fun q => q.1.members) hfix1
    refine ⟨hfix.trans hfix1, fun x n => ?_, fun x p b => ?_⟩
    · rw [List.foldl_cons, hent, arrive_entered, hname]
      by_cases hx : x = c ∧ n = R.name ch ∧ R.entered x n = none
      · rw [if_pos hx, if_neg (fun h => by cases h.2.2),
          if_pos ⟨by rw [hx.1]; exact List.mem_cons_self, hx.2⟩]
      · rw [if_neg hx]
        refine if_congr ⟨fun h => ⟨List.mem_cons_of_mem _ h.1, h.2⟩, fun h => ⟨?_, h.2⟩⟩ rfl rfl
        exact (List.mem_cons.mp h.1).resolve_left fun hc => hx ⟨hc, h.2⟩
    · rw [List.foldl_cons, hros, mem_arrive_roster, arrive_entered, hname, hmem, or_assoc]
      refine or_congr_right ?_
      by_cases hx : x = c ∧ R.name ch = R.name ch ∧ R.entered x (R.name ch) = none
      · rw [if_pos hx]
        simp [hx.1]
      · rw [if_neg hx]
        have hc : ¬ (x = c ∧ R.entered x (R.name ch) = none) := fun h => hx ⟨h.1, rfl, h.2⟩
        rw [List.mem_cons]
        constructor
        · rintro (⟨-, h, hn, -⟩ | ⟨hp, h, hn, hb⟩)
          · exact absurd ⟨h, hn⟩ hc
          · exact ⟨hp, Or.inr h, hn, hb⟩
        · rintro ⟨hp, h | h, hn, hb⟩
          · exact absurd ⟨h, hn⟩ hc
          · exact Or.inr ⟨hp, h, hn, hb⟩

theorem joinOwn_eq (ht : Tied t) : R.joinOwn t ch a = (t.connections a).foldl (arrive ch) R := by
  unfold joinOwn
  refine List.foldl_ext _ _ R fun R c hc => ?_
  unfold arrive channelJoin
  rw [if_neg (not_not.mpr (ht c a hc).symm)]
  split
  · rfl
  · rfl

/-- a connection of another account is told -/
theorem joinNotify_other (hc : t.account c ≠ some a) :
    (R.joinNotify t (some ch) ch a c).entered = R.entered ∧
      ∀ x p b, (R.joinNotify t (some ch) ch a c).roster x p b = true ↔
        R.roster x p b = true ∨ p = some ch ∧ x = c ∧ b = a := by
  unfold joinNotify
  by_cases h : R.roster c (some ch) a = true
  · rw [if_pos h]
    refine ⟨rfl, fun x p b => ⟨Or.inl, fun hr => hr.elim id ?_⟩⟩
    rintro ⟨rfl, rfl, rfl⟩
    exact h
  · rw [if_neg h]
    unfold channelJoin
    rw [if_pos (Ne.symm hc)]
    refine ⟨rfl, fun x p b => ?_⟩
    show (decide (x = c ∧ p = some ch ∧ b = a) || R.roster x p b) = true ↔ _
    rw [Bool.or_eq_true, decide_eq_true_iff, or_comm]
    exact or_congr_right ⟨fun h => ⟨h.2.1, h.1, h.2.2⟩, fun h => ⟨h.2.1, h.1, h.2.2⟩⟩

theorem foldl_joinNotify (hl : ∀ c ∈ l, t.account c ≠ some a) :
    (l.foldl (joinNotify t (some ch) ch a) R).entered = R.entered ∧
      ∀ x p b, (l.foldl (joinNotify t (some ch) ch a) R).roster x p b = true ↔
        R.roster x p b = true ∨ p = some ch ∧ x ∈ l ∧ b = a := by
  induction l generalizing R with
  | nil => simp
  | cons c l ih =>
    obtain ⟨hent, hros⟩ := @joinNotify_other t c ch a R (hl c List.mem_cons_self)
    obtain ⟨hent', hros'⟩ := ih (R := R.joinNotify t (some ch) ch a c)
      fun d hd => hl d (List.mem_cons_of_mem _ hd)
    refine ⟨hent'.trans hent, fun x p b => ?_⟩
    rw [List.foldl_cons, hros', hros, or_assoc, List.mem_cons, ← and_or_left, ← or_and_right]

theorem foldl_joinMember (ht : Tied t) {ms : List AccId} :
    (ms.foldl (joinMember t (some ch) ch a) R).entered = R.entered ∧
      ∀ x p b, (ms.foldl (joinMember t (some ch) ch a) R).roster x p b = true ↔
        R.roster x p b = true ∨
          p = some ch ∧ (∃ m ∈ ms, t.uid m ≠ t.uid a ∧ x ∈ t.connections m) ∧ b = a := by
  induction ms generalizing R with
  | nil => simp
  | cons m ms ih =>
    obtain ⟨hent', hros'⟩ := ih (R := R.joinMember t (some ch) ch a m)
    have hone : (R.joinMember t (some ch) ch a m).entered = R.entered ∧
        ∀ x p b, (R.joinMember t (some ch) ch a m).roster x p b = true ↔ R.roster x p b = true ∨
          p = some ch ∧ (t.uid m ≠ t.uid a ∧ x ∈ t.connections m) ∧ b = a := by
      unfold joinMember
      by_cases hm : t.uid m = t.uid a
      · rw [if_pos hm]
        simp [hm]
      · rw [if_neg hm]
        obtain ⟨he, hr⟩ := @foldl_joinNotify t ch a R (t.connections m) fun c hc hca => by
            rw [ht c m hc] at hca
            exact hm (congrArg t.uid (Option.some.inj hca))
        refine ⟨he, fun x p b => (hr x p b).trans (or_congr_right ?_)⟩
        simp [hm]
    refine ⟨hent'.trans hone.1, fun x p b => ?_⟩
    rw [List.foldl_cons, hros', hone.2, or_assoc, List.exists_mem_cons_iff, ← and_or_left,
      ← or_and_right]

theorem join_eq (ht : Tied t) (hptr : R.index (R.name ch) = some ch) :
    R.join t ch a = ((R.join t ch a).members ch).foldl (joinMember t (some ch) ch a)
      ((t.connections a).foldl (arrive ch) { R with toHalls := R.toHalls.addMember ch a }) := by
  have hmem : ((t.connections a).foldl (arrive ch)
      { R with toHalls := R.toHalls.addMember ch a }).members = (R.join t ch a).members := by
    rw [join_toHalls]
    exact congrArg (fun q => q.1.members) (foldl_arrive (l := t.connections a)).1
  conv_lhs => unfold join
  dsimp only
  rw [hptr, joinOwn_eq ht, hmem]

/-- **A join.**  The account's connections that are not in the channel enter it. -/
theorem join_entered (ht : Tied t) (hptr : R.index (R.name ch) = some ch) :
    (R.join t ch a).entered x n =
      if x ∈ t.connections a ∧ n = R.name ch ∧ R.entered x n = none then some ch
      else R.entered x n := by
  rw [join_eq ht hptr, (foldl_joinMember ht).1, (foldl_arrive (l := t.connections a)).2.1]
  show (if x ∈ t.connections a ∧ n = (R.toHalls.addMember ch a).name ch ∧ R.entered x n = none
    then _ else _) = _
  rw [Halls.addMember_name]

/-- **A join.**  Connections that enter learn of all members, those of the other members learn of
the account. -/
theorem mem_join_roster (ht : Tied t) (hptr : R.index (R.name ch) = some ch) :
    (R.join t ch a).roster x p b = true ↔ R.roster x p b = true ∨ p = some ch ∧
      ((x ∈ t.connections a ∧ R.entered x (R.name ch) = none ∧ (b ∈ R.members ch ∨ b = a)) ∨
        (∃ m ∈ R.members ch, t.uid m ≠ t.uid a ∧ x ∈ t.connections m) ∧ b = a) := by
  have hothers : (∃ m ∈ (R.join t ch a).members ch, t.uid m ≠ t.uid a ∧ x ∈ t.connections m) ↔
      ∃ m ∈ R.members ch, t.uid m ≠ t.uid a ∧ x ∈ t.connections m := by
    constructor
    · rintro ⟨m, hm, hne, hx⟩
      rcases (mem_join t ch a R).mp hm with hm | ⟨-, rfl⟩
      · exact ⟨m, hm, hne, hx⟩
      · exact absurd rfl hne
    · rintro ⟨m, hm, h⟩
      exact ⟨m, (mem_join t ch a R).mpr (Or.inl hm), h⟩
  rw [join_eq ht hptr, (foldl_joinMember ht).2, (foldl_arrive (l := t.connections a)).2.2, hothers]
  show (R.roster x p b = true ∨ p = some ch ∧ x ∈ t.connections a ∧
    R.entered x ((R.toHalls.addMember ch a).name ch) = none ∧
      b ∈ (R.toHalls.addMember ch a).members ch) ∨ _ ↔ _
  rw [Halls.addMember_name, Halls.mem_addMember, or_assoc, ← and_or_left]
  simp

end

/-! ## going back into the listed channels -/

section
variable {t : Ties} {a : AccId} {R : Rooms}

/-- what every join of a listed channel keeps is kept -/
theorem rejoin_inv {I : Rooms → Prop} (hR : I R)
    (hjoin : ∀ R' ch, (∃ n : Bytes, (R.listed a)[n]? = some (some ch)) → I R' →
      I (R'.join t ch a)) :
    I (R.rejoin t a) := by
  have hfold (l : List (Option ChanId)) (R' : Rooms) (h : I R')
      (hl : ∀ ch, some ch ∈ l → ∃ n : Bytes, (R.listed a)[n]? = some (some ch)) :
      I (l.foldl (rejoinOne t a) R') := by
    induction l generalizing R' with
    | nil => exact h
    | cons p l ih =>
      refine ih _ ?_ fun ch hch => hl ch (List.mem_cons_of_mem _ hch)
      cases p with
      | none => exact h
      | some ch => exact hjoin R' ch (hl ch List.mem_cons_self) h
  exact hfold _ R hR fun ch hch => mem_values.mp hch

/-- only the account itself becomes a member -/
theorem mem_rejoin {b : AccId} {x : ChanId} (h : b ∈ (R.rejoin t a).members x) :
    b ∈ R.members x ∨ b = a := by
  revert b x
  refine rejoin_inv (I := fun R' => ∀ {b : AccId} {x : ChanId}, b ∈ R'.members x →
    b ∈ R.members x ∨ b = a) (fun h => Or.inl h) fun R' ch _ hR' b x hb => ?_
  rcases (mem_join t ch a R').mp hb with hb | ⟨-, rfl⟩
  · exact hR' hb
  · exact Or.inr rfl

theorem join_nodup {ch : ChanId} (h : ∀ x, (R.members x).Nodup) (x : ChanId) :
    ((R.join t ch a).members x).Nodup := by
  rw [join_toHalls, Halls.addMember_members]
  split
  · next hx =>
    rw [List.nodup_append]
    refine ⟨h ch, List.nodup_singleton a, fun b hb d hd hbd => ?_⟩
    rw [List.mem_singleton.mp hd] at hbd
    exact hx.2 (hbd ▸ hb)
  · exact h x

end

end Rooms

end Chatripper
