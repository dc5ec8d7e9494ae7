import Mathlib
import Chatripper.Irc.RoomSteps

/-!
# Joining twice, and joins in another order

A join that is made again finds the account in the member list, its connections in the channel and the
other members' connections told, and does nothing.  What two accounts' joins leave of the rooms does not
depend on which is made first, as long as no connection is in a channel that its account is no member of.

* `Rooms.join_comm`     two joins of the rooms, in both orders;
* `Grows`               rosters that are only added to, and never empty when they are new;
* `join_again`          a join after itself;
* `join_idem_comm`      the joins of the server.
-/

namespace Chatripper
open ByteStr Utf8 Outcome

namespace Rooms

section
variable {t : Ties} {c1 c2 : ChanId} {a b : AccId} {R : Rooms}

/-- a connection is in a channel only if its account is a member -/
def Housed (t : Ties) (ch : ChanId) (R : Rooms) : Prop :=
  ∀ x a, t.account x = some a → (R.entered x (R.name ch)).isSome → a ∈ R.members ch

/-- a connection is listed by one account -/
theorem Tied.disjoint (ht : Tied t) (hab : t.uid a ≠ t.uid b) {x : ConnId}
    (ha : x ∈ t.connections a) : x ∉ t.connections b := by
  intro hb
  have hboth := (ht x a ha).symm.trans (ht x b hb)
  exact hab (congrArg t.uid (Option.some.inj hboth))

theorem join_comm_members (x : ChanId) (d : AccId) :
    d ∈ ((R.join t c1 a).join t c2 b).members x ↔ d ∈ ((R.join t c2 b).join t c1 a).members x := by
  rw [mem_join, mem_join, mem_join, mem_join]
  exact or_right_comm

theorem join_comm_listed (hab : a ≠ b) :
    ((R.join t c1 a).join t c2 b).listed = ((R.join t c2 b).join t c1 a).listed := by
  funext d
  simp only [join_toHalls, Halls.addMember_listed, Halls.addMember_name, Halls.addMember_index,
    Halls.mem_addMember, hab.symm, hab, and_false, or_false]
  by_cases hda : d = a
  · have hdb : d ≠ b := fun h => hab (hda.symm.trans h)
    simp [hda, hab]
  · simp [hda]

theorem join_comm_entered (ht : Tied t) (h1 : R.index (R.name c1) = some c1)
    (h2 : R.index (R.name c2) = some c2) (hab : t.uid a ≠ t.uid b) :
    ((R.join t c1 a).join t c2 b).entered = ((R.join t c2 b).join t c1 a).entered := by
  funext x n
  have hi1 : (R.join t c2 b).index ((R.join t c2 b).name c1) = some c1 := by
    rw [join_index, join_name]
    exact h1
  have hi2 : (R.join t c1 a).index ((R.join t c1 a).name c2) = some c2 := by
    rw [join_index, join_name]
    exact h2
  rw [join_entered ht hi2, join_entered ht hi1, join_entered ht h1, join_entered ht h2, join_name,
    join_name]
  by_cases ha : x ∈ t.connections a
  · have hb : x ∉ t.connections b := ht.disjoint hab ha
    rw [if_neg fun h => hb h.1, if_neg (c := x ∈ t.connections b ∧ _) fun h => hb h.1]
  · rw [if_neg (c := x ∈ t.connections a ∧ _) fun h => ha h.1,
      if_neg (c := x ∈ t.connections a ∧ _) fun h => ha h.1]

/-- what a connection's roster has after two joins, the first of `a`, the second of `b` -/
theorem mem_join_join_roster (ht : Tied t) (h1 : R.index (R.name c1) = some c1)
    (h2 : R.index (R.name c2) = some c2) (hab : t.uid a ≠ t.uid b) {x : ConnId} {p : Option ChanId}
    {d : AccId} : ((R.join t c1 a).join t c2 b).roster x p d = true ↔
      R.roster x p d = true ∨
      (p = some c1 ∧
        ((x ∈ t.connections a ∧ R.entered x (R.name c1) = none ∧ (d ∈ R.members c1 ∨ d = a)) ∨
          (∃ m ∈ R.members c1, t.uid m ≠ t.uid a ∧ x ∈ t.connections m) ∧ d = a)) ∨
      (p = some c2 ∧
        ((x ∈ t.connections b ∧ R.entered x (R.name c2) = none ∧ (d ∈ R.members c2 ∨ d = b)) ∨
          (∃ m ∈ R.members c2, t.uid m ≠ t.uid b ∧ x ∈ t.connections m) ∧ d = b)) ∨
      p = some c1 ∧ c2 = c1 ∧
        ((x ∈ t.connections b ∧ R.entered x (R.name c1) = none ∧ d = a) ∨
          x ∈ t.connections a ∧ d = b) := by
  have hi2 : (R.join t c1 a).index ((R.join t c1 a).name c2) = some c2 := by
    rw [join_index, join_name]
    exact h2
  -- the connections of `b` enter as if `a` had not come
  have hent (hx : x ∈ t.connections b) :
      (R.join t c1 a).entered x (R.name c2) = R.entered x (R.name c2) := by
    rw [join_entered ht h1, if_neg fun h => ht.disjoint hab h.1 hx]
  have hothers : (∃ m ∈ (R.join t c1 a).members c2, t.uid m ≠ t.uid b ∧ x ∈ t.connections m) ↔
      (∃ m ∈ R.members c2, t.uid m ≠ t.uid b ∧ x ∈ t.connections m) ∨
        c2 = c1 ∧ x ∈ t.connections a := by
    constructor
    · rintro ⟨m, hm, hne, hx⟩
      rcases (mem_join t c1 a R).mp hm with hm | ⟨hc, rfl⟩
      · exact .inl ⟨m, hm, hne, hx⟩
      · exact .inr ⟨hc, hx⟩
    · rintro (⟨m, hm, h⟩ | ⟨hc, hx⟩)
      · exact ⟨m, (mem_join t c1 a R).mpr (.inl hm), h⟩
      · exact ⟨a, (mem_join t c1 a R).mpr (.inr ⟨hc, rfl⟩), hab, hx⟩
  rw [mem_join_roster ht hi2, mem_join_roster ht h1, join_name, hothers, mem_join, or_assoc]
  refine or_congr_right (or_congr_right ?_)
  constructor
  · rintro ⟨hp, ⟨hx, hn, (hd | ⟨hc, hd⟩) | hd⟩ | ⟨hm | ⟨hc, hx⟩, hd⟩⟩
    · rw [hent hx] at hn
      exact .inl ⟨hp, .inl ⟨hx, hn, .inl hd⟩⟩
    · rw [hent hx, hc] at hn
      exact .inr ⟨hp.trans (congrArg some hc), hc, .inl ⟨hx, hn, hd⟩⟩
    · rw [hent hx] at hn
      exact .inl ⟨hp, .inl ⟨hx, hn, .inr hd⟩⟩
    · exact .inl ⟨hp, .inr ⟨hm, hd⟩⟩
    · exact .inr ⟨hp.trans (congrArg some hc), hc, .inr ⟨hx, hd⟩⟩
  · rintro (⟨hp, ⟨hx, hn, hd⟩ | ⟨hm, hd⟩⟩ | ⟨hp, hc, ⟨hx, hn, hd⟩ | ⟨hx, hd⟩⟩)
    · rw [← hent hx] at hn
      exact ⟨hp, .inl ⟨hx, hn, hd.imp_left .inl⟩⟩
    · exact ⟨hp, .inr ⟨.inl hm, hd⟩⟩
    · rw [← hc, ← hent hx] at hn
      exact ⟨hp.trans (congrArg some hc.symm), .inl ⟨hx, hn, .inl (.inr ⟨hc, hd⟩)⟩⟩
    · exact ⟨hp.trans (congrArg some hc.symm), .inr ⟨.inr ⟨hc, hx⟩, hd⟩⟩

theorem join_comm_roster (ht : Tied t) (h1 : R.index (R.name c1) = some c1)
    (h2 : R.index (R.name c2) = some c2) (hab : t.uid a ≠ t.uid b) (hin1 : R.Housed t c1)
    (hin2 : R.Housed t c2) :
    ((R.join t c1 a).join t c2 b).roster = ((R.join t c2 b).join t c1 a).roster := by
  have hone {c1 c2 : ChanId} {a b : AccId} (h1 : R.index (R.name c1) = some c1)
      (h2 : R.index (R.name c2) = some c2) (hab : t.uid a ≠ t.uid b) (hin1 : R.Housed t c1)
      {x : ConnId} {p : Option ChanId} {d : AccId}
      (h : ((R.join t c1 a).join t c2 b).roster x p d = true) :
      ((R.join t c2 b).join t c1 a).roster x p d = true := by
    rw [mem_join_join_roster ht h1 h2 hab] at h
    rw [mem_join_join_roster ht h2 h1 hab.symm]
    rcases h with h | h | h | ⟨hp, rfl, ⟨hx, hn, hd⟩ | ⟨hx, hd⟩⟩
    · exact .inl h
    · exact .inr (.inr (.inl h))
    · exact .inr (.inl h)
    · exact .inr (.inr (.inr ⟨hp, rfl, .inr ⟨hx, hd⟩⟩))
    · -- a connection of `a` learns of `b`: it is in the channel with its account, or it enters later
      by_cases hn : R.entered x (R.name c2) = none
      · exact .inr (.inr (.inr ⟨hp, rfl, .inl ⟨hx, hn, hd⟩⟩))
      · have hmem : a ∈ R.members c2 := hin1 x a (ht x a hx) (Option.isSome_iff_ne_none.mpr hn)
        exact .inr (.inl ⟨hp, .inr ⟨⟨a, hmem, hab, hx⟩, hd⟩⟩)
  funext x p d
  exact Bool.eq_iff_iff.mpr ⟨hone h1 h2 hab hin1, hone h2 h1 hab.symm hin2⟩

end

end Rooms

/-! ## rosters that are added to -/

abbrev Roster := QMap (Option ChanId) (QSet AccId)

/-- a roster is added to, and has an account when it is new -/
structure Grows (m m' : Roster) : Prop where
  keeps : ∀ p, m.contains p = true → m'.contains p = true
  adds : ∀ p b, (m.getD p ∅).contains b = true → (m'.getD p ∅).contains b = true
  filled : ∀ p, m'.contains p = true → m.contains p = true ∨ ∃ b, (m'.getD p ∅).contains b = true

namespace Grows

section
variable {m m1 m2 : Roster} {p : Option ChanId} {s : QSet AccId}

theorem refl (m : Roster) : Grows m m := ⟨fun _ h => h, fun _ _ h => h, fun _ h => .inl h⟩

theorem trans (h : Grows m m1) (h1 : Grows m1 m2) : Grows m m2 where
  keeps p hp := h1.keeps p (h.keeps p hp)
  adds p b hb := h1.adds p b (h.adds p b hb)
  filled p hp := by
    rcases h1.filled p hp with hp | hb
    · refine (h.filled p hp).imp_right ?_
      rintro ⟨b, hb⟩
      exact ⟨b, h1.adds p b hb⟩
    · exact .inr hb

theorem contains_insert_map {q : Option ChanId} :
    (m.insert p s).contains q = true ↔ q = p ∨ m.contains q = true := by
  rw [Std.ExtTreeMap.contains_insert, Bool.or_eq_true, beq_iff_eq, Std.compare_eq_iff_eq, eq_comm]

/-- a roster is replaced by one that has more -/
theorem insert (hmore : ∀ b, (m.getD p ∅).contains b = true → s.contains b = true)
    (hsome : ∃ b, s.contains b = true) : Grows m (m.insert p s) where
  keeps q hq := contains_insert_map.mpr (.inr hq)
  adds q b hb := by
    rw [client_connection.roster_insert]
    by_cases hq : q = p
    · rw [if_pos hq]
      exact hmore b (hq ▸ hb)
    · rw [if_neg hq]
      exact hb
  filled q hq := by
    rcases contains_insert_map.mp hq with rfl | hq
    · refine .inr ?_
      simp only [client_connection.roster_insert, if_true]
      exact hsome
    · exact .inl hq

theorem insert_insert {u : QSet AccId} : (m.insert p u).insert p s = m.insert p s := by
  apply Std.ExtTreeMap.ext_getElem?
  intro q
  rw [lookup_insert, lookup_insert, lookup_insert]
  split_ifs
  · rfl
  · rfl

/-- an account is put into a roster that was put into the map when it was missing -/
theorem touch (a : AccId) : Grows m ((m.insert p (m.getD p ∅)).insert p
    (((m.insert p (m.getD p ∅)).getD p ∅).insert a)) := by
  rw [insert_insert]
  have hknown (b : AccId) : ((m.insert p (m.getD p ∅)).getD p ∅).contains b =
      (m.getD p ∅).contains b := by
    rw [client_connection.roster_insert, if_pos rfl]
  refine insert (fun b hb => ?_) ⟨a, ?_⟩
  · rw [client_connection.contains_insert, hknown, hb, Bool.or_true]
  · rw [client_connection.contains_insert, decide_eq_true rfl, Bool.true_or]

/-- a roster with an account is there -/
theorem contains_of_mem {b : AccId} (h : (m.getD p ∅).contains b = true) : m.contains p = true := by
  by_contra hp
  rw [Std.ExtTreeMap.getD_eq_fallback_of_contains_eq_false (Bool.eq_false_of_not_eq_true hp)] at h
  exact Bool.false_ne_true (Std.ExtTreeSet.contains_empty.symm.trans h)

/-- what is added to one map of rosters is the same when the same accounts are in it -/
theorem eq_of_same (h1 : Grows m m1) (h2 : Grows m m2)
    (hsame : ∀ p b, (m1.getD p ∅).contains b = (m2.getD p ∅).contains b) : m1 = m2 := by
  have hkeys {m1 m2 : Roster} (h1 : Grows m m1) (h2 : Grows m m2)
      (hsame : ∀ p b, (m1.getD p ∅).contains b = (m2.getD p ∅).contains b) {p : Option ChanId}
      (hp : m1.contains p = true) : m2.contains p = true := by
    rcases h1.filled p hp with hp | ⟨b, hb⟩
    · exact h2.keeps p hp
    · rw [hsame] at hb
      exact contains_of_mem hb
  have hset (p : Option ChanId) : m1.getD p ∅ = m2.getD p ∅ :=
    Std.ExtTreeSet.ext_contains fun b => hsame p b
  apply Std.ExtTreeMap.ext_getElem?
  intro p
  have hset := hset p
  rw [Std.ExtTreeMap.getD_eq_getD_getElem?, Std.ExtTreeMap.getD_eq_getD_getElem?] at hset
  have hboth : m1[p]?.isSome = m2[p]?.isSome := by
    rw [← Std.ExtTreeMap.contains_eq_isSome_getElem?, ← Std.ExtTreeMap.contains_eq_isSome_getElem?]
    exact Bool.eq_iff_iff.mpr ⟨hkeys h1 h2 hsame, hkeys h2 h1 fun p b => (hsame p b).symm⟩
  cases he1 : m1[p]? with
  | none =>
    rw [he1] at hboth
    exact (Option.isSome_eq_false_iff.mp hboth.symm |> Option.isNone_iff_eq_none.mp).symm
  | some s1 =>
    rw [he1] at hboth hset
    obtain ⟨s2, he2⟩ := Option.isSome_iff_exists.mp hboth.symm
    rw [he2] at hset ⊢
    exact congrArg some hset

end

end Grows

/-- every connection's rosters are added to -/
def World.Grown (w w' : World) : Prop :=
  ∀ x, Grows (w.conn x).channel_members (w'.conn x).channel_members

theorem World.Grown.refl (w : World) : w.Grown w := fun _ => Grows.refl _

theorem World.Grown.trans {w w1 w2 : World} (h : w.Grown w1) (h1 : w1.Grown w2) : w.Grown w2 :=
  fun x => (h x).trans (h1 x)

/-- one connection's rosters are added to -/
theorem World.grown_updConn {w : World} {c : ConnId} {f : Conn → Conn}
    (h : Grows (w.conn c).channel_members (f (w.conn c)).channel_members) :
    w.Grown (w.updConn c f) := by
  intro x
  show Grows _ (if x = c then f (w.conn c) else w.conn x : Conn).channel_members
  by_cases hx : x = c
  · rw [if_pos hx, hx]
    exact h
  · rw [if_neg hx]
    exact Grows.refl _

namespace client_connection
open World

section
variable {env : Env} {c : ConnId} {ev : QEventChannelJoin} {ch : ChanId} {a : AccId} {w : World}

theorem conn_joinReplies (account_nick : Bytes) :
    (joinReplies env c ch account_nick w).conn = w.conn ∧
      (joinReplies env c ch account_nick w).chan = w.chan := by
  unfold joinReplies
  dsimp only
  split_ifs
  · exact ⟨rfl, rfl⟩
  · exact ⟨rfl, rfl⟩

theorem channel_join_grown (hch : ev.channel = some ch) (ha : ev.account = some a)
    (hmem : a ∈ (w.chan ch).m_members) :
    Sat (fun _ => False) (fun w' => w'.chan = w.chan ∧ w.Grown w') (channel_join env c ev w) := by
  unfold channel_join
  rw [hch, ha]
  dsimp only
  refine Sat.ite (fun _ => ?_) (fun _ => Sat.ite (fun _ => ⟨rfl, .refl w⟩) (fun _ => ?_))
  · refine ⟨rfl, World.grown_updConn (w := w.emit c _) (Grows.insert (fun b hb => ?_) ⟨a, ?_⟩)⟩
    · rw [contains_insert, Bool.or_eq_true]
      exact .inr hb
    · rw [contains_insert, decide_eq_true rfl, Bool.true_or]
  · have hentered : w.Grown (w.updConn c fun k =>
        { k with
          channel_members := k.channel_members.insert (some ch)
            ((w.chan ch).m_members.foldl (fun s m => s.insert m)
              (k.channel_members.getD (some ch) ∅))
          channels := k.channels.insert (w.chan ch).m_name ch }) := by
      refine World.grown_updConn (Grows.insert (fun b hb => ?_) ⟨a, ?_⟩)
      · rw [contains_insert_all, Bool.or_eq_true]
        exact .inr hb
      · rw [contains_insert_all, decide_eq_true hmem, Bool.true_or]
    refine ⟨(conn_joinReplies _).2, fun x => ?_⟩
    rw [(conn_joinReplies _).1]
    exact hentered x

end

end client_connection

namespace Channel
open World client_connection

section
variable {env : Env} {c : ConnId} {ev : QEventChannelJoin} {ch : ChanId} {a : AccId} {w : World}
  (hch : ev.channel = some ch) (ha : ev.account = some a)
include hch ha

theorem joinOwn_grown (hmem : a ∈ (w.chan ch).m_members) :
    Sat (fun _ => False) (fun w' => w'.chan = w.chan ∧ w.Grown w') (joinOwn env ch a ev w) := by
  refine Sat.foldlM ⟨rfl, .refl w⟩ fun w1 c _ h1 => ?_
  refine Sat.ite (fun _ => h1) (fun _ => ?_)
  refine (channel_join_grown hch ha (by rw [h1.1]; exact hmem)).mono (fun _ he => he) fun w2 h2 => ?_
  exact ⟨h2.1.trans h1.1, h1.2.trans h2.2⟩

/-- a connection of another account is told, and the roster that is put into its map is not empty -/
theorem joinNotify_grown (hother : (w.conn c).m_account ≠ some a) :
    Sat (fun _ => False) (fun w' => w'.chan = w.chan ∧ w.Grown w')
      (joinNotify env (some ch) a ev w c) := by
  unfold joinNotify
  dsimp only
  refine Sat.ite (fun hknown => ⟨rfl, ?_⟩) (fun _ => ?_)
  · exact World.grown_updConn (Grows.insert (fun _ hb => hb) ⟨a, hknown⟩)
  · unfold channel_join
    rw [hch, ha]
    dsimp only
    have hother' : some a ≠ ((w.updConn c fun k => { k with
        channel_members := k.channel_members.insert (some ch)
          ((w.conn c).channel_members.getD (some ch) ∅) }).conn c).m_account := by
      show some a ≠ (if c = c then _ else _ : Conn).m_account
      rw [if_pos rfl]
      exact hother.symm
    rw [if_pos hother']
    refine ⟨rfl, fun x => ?_⟩
    show Grows _ (if x = c then client_connection.addMember (some ch) a (if c = c then _ else _)
      else (if x = c then _ else w.conn x) : Conn).channel_members
    by_cases hx : x = c
    · rw [if_pos hx, if_pos rfl, hx]
      exact Grows.touch a
    · rw [if_neg hx, if_neg hx]
      exact .refl _

omit hch in
/-- a join that no handler sees, of a channel that is found by its name -/
theorem join_quiet (hpy : w.NoHandlers) (hptr : get w (w.chan ch).m_name = some ch) :
    join env ch ev w = (joinOwn env ch a ev (addMember ch (some ch) a w) >>= fun w =>
      (w.chan ch).m_members.foldlM (fun w member =>
        if (w.acc member).m_uid = (w.acc a).m_uid then .ok w
        else (w.acc member).connections.foldlM (joinNotify env (some ch) a ev) w) w) := by
  unfold join
  dsimp only
  rw [World.consult_of_noHandlers hpy, ite_self]
  dsimp only
  rw [ha, hptr]
  rfl

variable (env)

/-- **A join** adds to rosters, and ends. -/
theorem join_grown (hpy : w.NoHandlers) (ht : Rooms.Tied w.reg.ties)
    (hptr : get w (w.chan ch).m_name = some ch) :
    Sat (fun _ => False) (fun w' => w.Grown w') (join env ch ev w) := by
  rw [join_quiet ha hpy hptr]
  have hmem : a ∈ ((addMember ch (some ch) a w).chan ch).m_members := by
    unfold addMember
    by_cases h : (w.chan ch).m_members.contains a = true
    · rw [if_pos h]
      exact List.contains_iff_mem.mp h
    · rw [if_neg h]
      show a ∈ (if ch = ch then _ else _ : Channel).m_members
      rw [if_pos rfl]
      exact List.mem_append_right _ List.mem_cons_self
  have hadd : w.Grown (addMember ch (some ch) a w) := by
    unfold addMember enlist
    split
    · exact .refl w
    · exact .refl w
  refine ((joinOwn_grown hch ha hmem).and joinOwn_sat).mono (fun _ he => he.1) (fun _ h => h) |>.bind
    fun w1 h1 => ?_
  obtain ⟨⟨-, hgrown1⟩, hreg1⟩ := h1
  rw [reg_addMember] at hreg1
  have hown : Sat (fun _ => False) (fun w' => w'.reg = w.reg ∧ w.Grown w')
      ((w1.chan ch).m_members.foldlM (fun w member =>
        if (w.acc member).m_uid = (w.acc a).m_uid then .ok w
        else (w.acc member).connections.foldlM (joinNotify env (some ch) a ev) w) w1) := by
    refine Sat.foldlM ⟨hreg1, hadd.trans hgrown1⟩ fun w2 member _ h2 => ?_
    refine Sat.ite (fun _ => h2) (fun huid => ?_)
    refine Sat.foldlM h2 fun w3 conn hconn h3 => ?_
    have hother : (w3.conn conn).m_account ≠ some a := by
      intro hself
      have hlisted : conn ∈ w.reg.ties.connections member := by
        rw [← h2.1]
        exact hconn
      have haccount : w.reg.ties.account conn = some a := by
        rw [← h3.1]
        exact hself
      have hsame : member = a := Option.some.inj ((ht conn member hlisted).symm.trans haccount)
      exact huid (by rw [hsame])
    refine ((joinNotify_grown hch ha hother).and joinNotify_sat).mono (fun _ he => he.1) fun w4 h4 => ?_
    exact ⟨h4.2.trans h3.1, h3.2.trans h4.1.2⟩
  exact hown.mono (fun _ he => he) fun _ h => h.2

/-- what a join leaves: the registry, the rooms and the keys of the rosters -/
theorem join_leaves (hpy : w.NoHandlers) (ht : Rooms.Tied w.reg.ties)
    (hptr : get w (w.chan ch).m_name = some ch) :
    ∃ w', join env ch ev w = .ok w' ∧ w'.reg = w.reg ∧
      w'.rooms = w.rooms.join w.reg.ties ch a ∧ w.Grown w' := by
  have hgrown := join_grown env hch ha hpy ht hptr
  have hrooms := @joined_rooms env ch a ev w hch ha _ hptr.symm
  rw [ha] at hrooms
  have hreg : Sat (OnlyWithout ev.account) (fun w' => w'.reg = w.reg) (join env ch ev w) := join_sat
  cases he : join env ch ev w with
  | error e =>
    rw [he] at hgrown
    exact hgrown.elim
  | ok w' =>
    rw [he] at hgrown hreg
    rw [join_quiet ha hpy hptr] at he
    change Sat _ _ (joinOwn env ch a ev (addMember ch (some ch) a w) >>= fun w =>
      (w.chan ch).m_members.foldlM (fun w member =>
        if (w.acc member).m_uid = (w.acc a).m_uid then .ok w
        else (w.acc member).connections.foldlM (joinNotify env (some ch) a ev) w) w) at hrooms
    rw [he] at hrooms
    exact ⟨w', rfl, hreg, hrooms, hgrown⟩

/-! ## again -/

omit hch ha in
/-- a connection that knows of the account is not told -/
theorem joinNotify_known (h : ((w.conn c).channel_members.getD (some ch) ∅).contains a = true) :
    joinNotify env (some ch) a ev w c = .ok w := by
  unfold joinNotify
  dsimp only
  rw [if_pos h]
  have hsame : (w.conn c).channel_members.insert (some ch)
      ((w.conn c).channel_members.getD (some ch) ∅) = (w.conn c).channel_members := by
    refine Grows.eq_of_same (Grows.insert (fun _ hb => hb) ⟨a, h⟩) (Grows.refl _) fun p b => ?_
    rw [roster_insert]
    by_cases hp : p = some ch
    · rw [if_pos hp, hp]
    · rw [if_neg hp]
  have hconn : (w.updConn c fun k => { k with
      channel_members := k.channel_members.insert (some ch)
        ((w.conn c).channel_members.getD (some ch) ∅) }).conn = w.conn := by
    funext x
    show (if x = c then _ else w.conn x) = w.conn x
    by_cases hx : x = c
    · rw [if_pos hx, hx, hsame]
    · rw [if_neg hx]
  exact congrArg Except.ok (congrArg (fun conn => { w with conn }) hconn)

/-- **A join after itself** does nothing. -/
theorem join_again (hpy : w.NoHandlers) (ht : Rooms.Tied w.reg.ties)
    (hptr : get w (w.chan ch).m_name = some ch) :
    ∃ w', join env ch ev w = .ok w' ∧ join env ch ev w' = .ok w' := by
  obtain ⟨w', hjoin, hreg, hrooms, -⟩ := join_leaves env hch ha hpy ht hptr
  refine ⟨w', hjoin, ?_⟩
  have hindex : w.rooms.index (w.rooms.name ch) = some ch := hptr
  have hpy' : w'.NoHandlers := hpy.of_activeEvents (congrArg Reg.activeEvents hreg)
  have hname : (w'.chan ch).m_name = (w.chan ch).m_name := by
    show w'.rooms.name ch = w.rooms.name ch
    rw [hrooms, Rooms.join_name]
  have hptr' : get w' (w'.chan ch).m_name = some ch := by
    rw [hname, rooms_get, hrooms, Rooms.join_index]
    exact hptr
  have hmem : a ∈ (w'.chan ch).m_members := by
    show a ∈ w'.rooms.members ch
    rw [hrooms]
    exact (Rooms.mem_join _ _ _ _).mpr (.inr ⟨rfl, rfl⟩)
  have hconns (m : AccId) : (w'.acc m).connections = w.reg.ties.connections m :=
    congrArg (fun r => (r.acc m).connections) hreg
  have huid (m : AccId) : (w'.acc m).m_uid = w.reg.ties.uid m :=
    congrArg (fun r => (r.acc m).m_uid) hreg
  have hin : ∀ x ∈ (w'.acc a).connections,
      (w'.conn x).channels.contains (w'.chan ch).m_name = true := by
    intro x hx
    rw [hconns] at hx
    rw [Std.ExtTreeMap.contains_eq_isSome_getElem?, hname]
    show (w'.rooms.entered x (w.rooms.name ch)).isSome = true
    rw [hrooms, Rooms.join_entered ht hindex]
    by_cases hn : w.rooms.entered x (w.rooms.name ch) = none
    · rw [if_pos ⟨hx, rfl, hn⟩]
      rfl
    · rw [if_neg fun h => hn h.2.2]
      exact Option.isSome_iff_ne_none.mpr hn
  have htold : ∀ m ∈ (w'.chan ch).m_members, (w'.acc m).m_uid ≠ (w'.acc a).m_uid →
      ∀ x ∈ (w'.acc m).connections,
        ((w'.conn x).channel_members.getD (some ch) ∅).contains a = true := by
    intro m hm hne x hx
    rw [hconns] at hx
    rw [huid, huid] at hne
    have hm' : m ∈ w.rooms.members ch := by
      change m ∈ w'.rooms.members ch at hm
      rw [hrooms] at hm
      rcases (Rooms.mem_join _ _ _ _).mp hm with hm | ⟨-, rfl⟩
      · exact hm
      · exact absurd rfl hne
    show w'.rooms.roster x (some ch) a = true
    rw [hrooms, Rooms.mem_join_roster ht hindex]
    exact .inr ⟨rfl, .inr ⟨⟨m, hm', hne, hx⟩, rfl⟩⟩
  have hown : joinOwn env ch a ev (addMember ch (some ch) a w') = .ok w' := by
    have hadd : addMember ch (some ch) a w' = w' := if_pos (List.contains_iff_mem.mpr hmem)
    rw [hadd]
    exact foldlM_eq_self fun x hx => if_pos (hin x hx)
  rw [join_quiet ha hpy' hptr', hown]
  refine foldlM_eq_self fun m hm => ?_
  by_cases hsame : (w'.acc m).m_uid = (w'.acc a).m_uid
  · exact if_pos hsame
  · rw [if_neg hsame]
    exact foldlM_eq_self fun x hx => joinNotify_known env (htold m hm hsame x hx)

end

/-! ## the joins of the server -/

section
variable (env : Env)

/-- a join that is made twice: the second leaves everything, what was sent included -/
def JoinedTwice (ch : ChanId) (ev : QEventChannelJoin) (w : World) : Prop :=
  ∃ w', join env ch ev w = .ok w' ∧ join env ch ev w' = .ok w'

/-- two joins in both orders -/
def JoinsCommute (c1 c2 : ChanId) (ev1 ev2 : QEventChannelJoin) (w : World) : Prop :=
  ∃ w12 w21, (join env c1 ev1 w >>= join env c2 ev2) = .ok w12 ∧
    (join env c2 ev2 w >>= join env c1 ev1) = .ok w21 ∧
    (∀ ch x, x ∈ (w12.chan ch).m_members ↔ x ∈ (w21.chan ch).m_members) ∧
    (∀ x, (w12.acc x).channels = (w21.acc x).channels) ∧
    ∀ c, (w12.conn c).channels = (w21.conn c).channels ∧
      (w12.conn c).channel_members = (w21.conn c).channel_members

end

section
variable (env : Env) {w : World}

/-- the second of two joins -/
theorem join_then {c1 c2 : ChanId} {ev1 ev2 : QEventChannelJoin} {a b : AccId}
    (hch1 : ev1.channel = some c1) (ha : ev1.account = some a) (hch2 : ev2.channel = some c2)
    (hb : ev2.account = some b) (hpy : w.NoHandlers) (ht : Rooms.Tied w.reg.ties)
    (hptr1 : get w (w.chan c1).m_name = some c1) (hptr2 : get w (w.chan c2).m_name = some c2) :
    ∃ w', (join env c1 ev1 w >>= join env c2 ev2) = .ok w' ∧
      w'.rooms = (w.rooms.join w.reg.ties c1 a).join w.reg.ties c2 b ∧ w.Grown w' := by
  obtain ⟨w1, hjoin1, hreg1, hrooms1, hgrown1⟩ := join_leaves env hch1 ha hpy ht hptr1
  have hpy1 : w1.NoHandlers := hpy.of_activeEvents (congrArg Reg.activeEvents hreg1)
  have hname : (w1.chan c2).m_name = (w.chan c2).m_name := by
    show w1.rooms.name c2 = w.rooms.name c2
    rw [hrooms1, Rooms.join_name]
  have hptr : get w1 (w1.chan c2).m_name = some c2 := by
    rw [hname, rooms_get, hrooms1, Rooms.join_index]
    exact hptr2
  have ht1 : Rooms.Tied w1.reg.ties := by
    rw [hreg1]
    exact ht
  obtain ⟨w2, hjoin2, -, hrooms2, hgrown2⟩ := join_leaves env hch2 hb hpy1 ht1 hptr
  refine ⟨w2, ?_, ?_, hgrown1.trans hgrown2⟩
  · rw [hjoin1]
    exact hjoin2
  · rw [hrooms2, hrooms1, hreg1]

variable {env}

/-- **Joins** are idempotent, and those of two accounts commute. -/
theorem join_idem_comm (hpy : w.NoHandlers)
    (htied : ∀ a, ∀ c ∈ (w.acc a).connections, (w.conn c).m_account = some a) :
    (∀ ch a ev, get w (w.chan ch).m_name = some ch → ev.channel = some ch → ev.account = some a →
      JoinedTwice env ch ev w) ∧
    ∀ c1 c2 a b ev1 ev2, get w (w.chan c1).m_name = some c1 → get w (w.chan c2).m_name = some c2 →
      (∀ c x ch, ch = c1 ∨ ch = c2 → (w.conn c).m_account = some x →
        (w.conn c).channels.contains (w.chan ch).m_name = true → x ∈ (w.chan ch).m_members) →
      ev1.channel = some c1 → ev1.account = some a → ev2.channel = some c2 →
      ev2.account = some b → (w.acc a).m_uid ≠ (w.acc b).m_uid → JoinsCommute env c1 c2 ev1 ev2 w := by
  have ht : Rooms.Tied w.reg.ties := fun c a hc => htied a c hc
  refine ⟨fun ch a ev hptr hch ha => join_again env hch ha hpy ht hptr, ?_⟩
  intro c1 c2 a b ev1 ev2 hptr1 hptr2 hin hch1 ha hch2 hb hab
  obtain ⟨w12, hjoin12, hrooms12, hgrown12⟩ :=
    join_then env hch1 ha hch2 hb hpy ht hptr1 hptr2
  obtain ⟨w21, hjoin21, hrooms21, hgrown21⟩ :=
    join_then env hch2 hb hch1 ha hpy ht hptr2 hptr1
  have hhoused {ch : ChanId} (hch : ch = c1 ∨ ch = c2) : w.rooms.Housed w.reg.ties ch := by
    intro x d hx hent
    refine hin x d ch hch hx ?_
    rw [Std.ExtTreeMap.contains_eq_isSome_getElem?]
    exact hent
  have hi1 : w.rooms.index (w.rooms.name c1) = some c1 := hptr1
  have hi2 : w.rooms.index (w.rooms.name c2) = some c2 := hptr2
  refine ⟨w12, w21, hjoin12, hjoin21, ?_, ?_, ?_⟩
  · intro ch x
    show x ∈ w12.rooms.members ch ↔ x ∈ w21.rooms.members ch
    rw [hrooms12, hrooms21]
    exact Rooms.join_comm_members ch x
  · intro x
    show w12.rooms.listed x = w21.rooms.listed x
    rw [hrooms12, hrooms21, Rooms.join_comm_listed fun h => hab (by rw [h])]
  · intro c
    constructor
    · apply Std.ExtTreeMap.ext_getElem?
      intro n
      show w12.rooms.entered c n = w21.rooms.entered c n
      rw [hrooms12, hrooms21, Rooms.join_comm_entered ht hi1 hi2 hab]
    · refine Grows.eq_of_same (hgrown12 c) (hgrown21 c) fun p d => ?_
      show w12.rooms.roster c p d = w21.rooms.roster c p d
      rw [hrooms12, hrooms21,
        Rooms.join_comm_roster ht hi1 hi2 hab (hhoused (.inl rfl)) (hhoused (.inr rfl))]

/-! ## two accounts and two channels -/

/-- every account has one connection; the channels `x` and `y` are there, and the second account is
in `x` -/
def lobby : World :=
  { World.empty with
    acc := fun a => { m_uid := a + 1, connections := [a] }
    conn := fun c => { m_account := some c }
    chan := fun ch =>
      if ch = 0 then { m_name := ascii "x", m_members := [1] } else { m_name := ascii "y" }
    ctx := { channels := ((∅ : QHash Bytes ChanId).insert (ascii "x") 0).insert (ascii "y") 1 } }

def joinEvent (a : AccId) (ch : ChanId) : QEventChannelJoin := { channel := some ch, account := some a }

theorem join_idem_comm_lobby : JoinedTwice Env.ascii 0 (joinEvent 0 0) lobby ∧
    JoinsCommute Env.ascii 0 0 (joinEvent 0 0) (joinEvent 1 0) lobby ∧
    JoinsCommute Env.ascii 0 1 (joinEvent 0 0) (joinEvent 1 1) lobby := by
  have h := @join_idem_comm Env.ascii lobby (fun e => by cases e <;> rfl)
    (fun a c hc => congrArg some (List.mem_singleton.mp hc))
  have hin : ∀ c x ch, ch = 0 ∨ ch = 1 → (lobby.conn c).m_account = some x →
      (lobby.conn c).channels.contains (lobby.chan ch).m_name = true →
        x ∈ (lobby.chan ch).m_members := by
    intro c x ch _ _ hcontains
    cases hcontains
  refine ⟨h.1 0 0 (joinEvent 0 0) rfl rfl rfl, ?_, ?_⟩
  · exact h.2 0 0 0 1 (joinEvent 0 0) (joinEvent 1 0) rfl rfl
      (fun c x ch hch => hin c x ch (.inl (hch.elim id id))) rfl rfl rfl rfl (by decide)
  · exact h.2 0 1 0 1 (joinEvent 0 0) (joinEvent 1 1) rfl rfl hin rfl rfl rfl rfl (by decide)

end

end Channel

end Chatripper
