import Mathlib
import Chatripper.Membership

/-!
# Connections and the channels of their account

A PART takes the account out at once and posts `channel_part` to the connections, which leave when it
runs.  A JOIN enters the connections at once, but only those that are not in the channel.

* `Present`               what a connection of an account knows, up to the calls that wait for it;
* `SiteStep.presenceInv`  a step keeps that, unless an account joins a channel while one of its own
  connections has still to leave it;
* `presence_agrees`       in every run without such a step, when no call waits, a ready connection is
  in the channels of its account.
-/

namespace Chatripper
open ByteStr Utf8 Outcome

namespace Rooms

/-- the connection is in the channel -/
def In (R : Rooms) (c : ConnId) (ch : ChanId) : Prop := R.entered c (R.name ch) = some ch

/-- connection `c` of account `a` is in a channel of which `a` is a member, and has no part of `a`
before it; it is in no other channel but one that it is about to leave -/
structure Present (R : Rooms) (c : ConnId) (a : AccId) (ch : ChanId) : Prop where
  member : a ∈ R.members ch → R.In c ch ∧ (ch, a) ∉ R.pending c
  leaving : R.In c ch → a ∉ R.members ch → (ch, a) ∈ R.pending c

/-- a member has the channel in its list -/
def Listed (R : Rooms) : Prop :=
  ∀ ch a, a ∈ R.members ch → (R.listed a)[R.name ch]? = some (some ch)

section
variable {t : Ties} {R : Rooms} {c d : ConnId} {a b : AccId} {ch x : ChanId} {n : Bytes}

/-! ## joins -/

theorem Listed.join (h : R.Listed) (hkeyed : R.Keyed) (hch : R.index (R.name ch) = some ch) :
    (R.join t ch a).Listed := by
  intro x b hb
  have hlist : (R.join t ch a).listed b = (R.toHalls.addMember ch a).listed b :=
    congrFun (congrArg Halls.listed (join_toHalls t ch a R)) b
  have hold (hbx : b ∈ R.members x) :
      ((R.join t ch a).listed b)[R.name x]? = some (some x) := by
    rw [hlist, Halls.addMember_listed]
    split
    · next hb =>
      rw [lookup_insert, hch]
      split
      · next hname =>
        have hindex := hkeyed.members x b hbx
        rw [hname, hch] at hindex
        rw [Option.some.inj hindex]
      · rw [← hb.1]
        exact h x b hbx
    · exact h x b hbx
  rw [join_name]
  rcases (mem_join t ch a R).mp hb with hbx | ⟨rfl, rfl⟩
  · exact hold hbx
  · by_cases hmem : b ∈ R.members x
    · exact hold hmem
    · rw [hlist, Halls.addMember_listed, if_pos ⟨rfl, hmem⟩, lookup_insert, if_pos rfl, hch]

/-- a connection of the account is in the channel after a join -/
theorem in_join (hkeyed : R.Keyed) (ht : Tied t) (hch : R.index (R.name ch) = some ch)
    (hc : c ∈ t.connections a) : (R.join t ch a).In c ch := by
  unfold In
  rw [join_name, join_entered ht hch]
  cases hent : R.entered c (R.name ch) with
  | none => rw [if_pos ⟨hc, rfl, rfl⟩]
  | some y =>
    rw [if_neg fun h => by cases h.2.2]
    have hindex := hkeyed.entered c _ y hent
    rw [hch] at hindex
    exact hindex.symm

/-- what a join does to other channels and other accounts' connections -/
theorem in_join_iff (ht : Tied t) (hch : R.index (R.name ch) = some ch) (hc : c ∈ t.connections b)
    (hne : ¬ (b = a ∧ x = ch)) : (R.join t ch a).In c x ↔ R.In c x := by
  unfold In
  rw [join_name, join_entered ht hch]
  split
  · next h =>
    obtain ⟨hca, -, hnone⟩ := h
    have hba : b = a := by
      have hacc := ht c b hc
      rw [ht c a hca] at hacc
      exact (Option.some.inj hacc).symm
    rw [hnone]
    exact ⟨fun he => absurd ⟨hba, (Option.some.inj he).symm⟩ hne, fun he => by cases he⟩
  · exact Iff.rfl

theorem Present.join (hkeyed : R.Keyed) (ht : Tied t) (hch : R.index (R.name ch) = some ch)
    (hc : c ∈ t.connections b) (hsettled : b = a ∧ x = ch → (ch, a) ∉ R.pending c)
    (h : R.Present c b x ∨ b = a ∧ x = ch) : (R.join t ch a).Present c b x := by
  by_cases hx : b = a ∧ x = ch
  · obtain ⟨rfl, rfl⟩ := hx
    have hmem : b ∈ (R.join t x b).members x := (mem_join t x b R).mpr (Or.inr ⟨rfl, rfl⟩)
    refine ⟨fun _ => ⟨in_join hkeyed ht hch hc, ?_⟩, fun _ hn => absurd hmem hn⟩
    rw [join_pending]
    exact hsettled ⟨rfl, rfl⟩
  · have hpres := h.resolve_right hx
    have hmem : b ∈ (R.join t ch a).members x ↔ b ∈ R.members x := by
      rw [mem_join]
      exact ⟨fun hb => hb.resolve_right fun he => hx ⟨he.2, he.1⟩, Or.inl⟩
    refine ⟨fun hb => ?_, fun hin hb => ?_⟩
    · rw [in_join_iff ht hch hc hx, join_pending]
      exact hpres.member (hmem.mp hb)
    · rw [in_join_iff ht hch hc hx] at hin
      rw [join_pending]
      exact hpres.leaving hin fun hb' => hb (hmem.mpr hb')

/-- the channels of an account's list, one join after the other -/
theorem rejoin_pointwise {I : Rooms → Prop} {Q : Rooms → AccId → ChanId → Prop} (hI : I R)
    (hjoin : ∀ R' ch, (∃ n : Bytes, (R.listed a)[n]? = some (some ch)) → I R' →
      I (R'.join t ch a) ∧ ∀ b x, (Q R' b x ∨ b = a ∧ x = ch) → Q (R'.join t ch a) b x) :
    I (R.rejoin t a) ∧ ∀ b x, (Q R b x ∨ b = a ∧ ∃ n : Bytes, (R.listed a)[n]? = some (some x)) →
      Q (R.rejoin t a) b x := by
  have hfold (l : List (Option ChanId)) (R' : Rooms) (h : I R')
      (hl : ∀ ch, some ch ∈ l → ∃ n : Bytes, (R.listed a)[n]? = some (some ch)) :
      I (l.foldl (rejoinOne t a) R') ∧ ∀ b x, (Q R' b x ∨ b = a ∧ some x ∈ l) →
        Q (l.foldl (rejoinOne t a) R') b x := by
    induction l generalizing R' with
    | nil => exact ⟨h, fun b x hx => hx.elim id fun hx => absurd hx.2 List.not_mem_nil⟩
    | cons p l ih =>
      have hrest (ch : ChanId) (hmem : some ch ∈ l) := hl ch (List.mem_cons_of_mem _ hmem)
      cases p with
      | none =>
        obtain ⟨hI', hQ⟩ := ih R' h hrest
        refine ⟨hI', fun b x hx => hQ b x (hx.imp_right fun hx => ⟨hx.1, ?_⟩)⟩
        exact (List.mem_cons.mp hx.2).resolve_left nofun
      | some ch =>
        obtain ⟨hI1, hQ1⟩ := hjoin R' ch (hl ch List.mem_cons_self) h
        obtain ⟨hI', hQ⟩ := ih (R'.join t ch a) hI1 hrest
        refine ⟨hI', fun b x hx => hQ b x ?_⟩
        rcases hx with hx | ⟨rfl, hx⟩
        · exact Or.inl (hQ1 b x (Or.inl hx))
        · rcases List.mem_cons.mp hx with hx | hx
          · exact Or.inl (hQ1 b x (Or.inr ⟨rfl, Option.some.inj hx⟩))
          · exact Or.inr ⟨rfl, hx⟩
  obtain ⟨hI', hQ⟩ := hfold _ R hI fun ch hch => mem_values.mp hch
  exact ⟨hI', fun b x hx => hQ b x (hx.imp_right fun hx => ⟨hx.1, mem_values.mpr hx.2⟩)⟩

/-! ## parts -/

theorem mem_part_pending {p : ChanId × AccId} : p ∈ (R.part t ch a).pending c ↔
    p ∈ R.pending c ∨ p = (ch, a) ∧ ∃ m ∈ R.members ch, c ∈ t.connections m := by
  have haud : 0 < (R.audience t ch).count c ↔ ∃ m ∈ R.members ch, c ∈ t.connections m := by
    rw [List.count_pos_iff, audience, List.mem_flatMap]
  show p ∈ R.pending c ++ List.replicate _ _ ↔ _
  rw [List.mem_append, List.mem_replicate, ← haud, Nat.pos_iff_ne_zero, and_comm]

theorem mem_part : b ∈ (R.part t ch a).members x ↔ b ∈ R.members x ∧ ¬ (x = ch ∧ b = a) :=
  Halls.mem_leave R.toHalls ch x a b

theorem Present.part (hc : c ∈ t.connections b) (hmem : a ∈ R.members ch) (h : R.Present c b x) :
    (R.part t ch a).Present c b x := by
  refine ⟨fun hb => ?_, fun hin hb => ?_⟩
  · obtain ⟨hb, hne⟩ := mem_part.mp hb
    obtain ⟨hin, hnot⟩ := h.member hb
    refine ⟨hin, fun hp => ?_⟩
    rcases mem_part_pending.mp hp with hp | ⟨hp, -⟩
    · exact hnot hp
    · cases hp
      exact hne ⟨rfl, rfl⟩
  · refine mem_part_pending.mpr ?_
    by_cases hbx : b ∈ R.members x
    · have hx : x = ch ∧ b = a := by
        by_contra hne
        exact hb (mem_part.mpr ⟨hbx, hne⟩)
      obtain ⟨rfl, rfl⟩ := hx
      exact Or.inr ⟨rfl, b, hmem, hc⟩
    · exact Or.inl (h.leaving hin hbx)

/-- a call that a connection runs, or one that is lost with another -/
theorem Present.deliver {m : List (ChanId × AccId)} (hkeyed : R.Keyed) (ht : Tied t)
    (hc : c ∈ t.connections b) (huid : t.uid a = t.uid b → a = b)
    (hch : R.index (R.name ch) = some ch) (hfirst : R.pending d = (ch, a) :: m)
    (h : ∀ x, R.Present c b x) : ((R.take d).channelPart t d ch a).Present c b x := by
  have hpending : ((R.take d).channelPart t d ch a).pending c =
      if c = d then m else R.pending c := by
    rw [channelPart_pending]
    show (if c = d then (R.pending d).tail else R.pending c) = _
    rw [hfirst]
    rfl
  have hmembers : ((R.take d).channelPart t d ch a).members = R.members :=
    congrArg Halls.members (channelPart_toHalls _ _ _ _ _)
  -- another connection, or a call about somebody else
  have hother (hin : ((R.take d).channelPart t d ch a).In c x ↔ R.In c x)
      (hp : (x, b) ∈ ((R.take d).channelPart t d ch a).pending c ↔ (x, b) ∈ R.pending c) :
      ((R.take d).channelPart t d ch a).Present c b x := by
    refine ⟨fun hb => ?_, fun hi hb => ?_⟩
    · rw [hmembers] at hb
      rw [hin, hp]
      exact (h x).member hb
    · rw [hmembers] at hb
      rw [hp]
      exact (h x).leaving (hin.mp hi) hb
  have hname : ((R.take d).channelPart t d ch a).name = R.name :=
    congrArg Halls.name (channelPart_toHalls _ _ _ _ _)
  by_cases hd : c = d
  · subst hd
    rw [if_pos rfl] at hpending
    have hacc : t.account c = some b := ht c b hc
    by_cases hab : a = b
    · -- its own part: the connection leaves
      subst hab
      have hexit : (R.take c).channelPart t c ch a = (R.take c).exit c ch := by
        unfold channelPart
        rw [hacc]
        exact if_pos rfl
      have hleft : a ∉ R.members ch := fun hm => by
        have hnot := ((h ch).member hm).2
        rw [hfirst] at hnot
        exact hnot List.mem_cons_self
      have hent (n : Bytes) : ((R.take c).channelPart t c ch a).entered c n =
          if n = R.name ch then none else R.entered c n := by
        rw [hexit]
        show (if c = c ∧ n = R.name ch then none else R.entered c n) = _
        exact if_congr (by simp) rfl rfl
      by_cases hx : R.name x = R.name ch
      · -- no other channel has this name
        have hnot : a ∉ R.members x := fun hm => by
          have hxi := hkeyed.members x a hm
          rw [hx, hch] at hxi
          exact hleft (Option.some.inj hxi ▸ hm)
        refine ⟨fun hb => ?_, fun hin _ => ?_⟩
        · rw [hmembers] at hb
          exact absurd hb hnot
        · unfold In at hin
          rw [hname, hent, if_pos hx] at hin
          cases hin
      · refine hother ?_ ?_
        · unfold In
          rw [hname, hent, if_neg hx]
        · rw [hpending, hfirst, List.mem_cons]
          exact ⟨Or.inr, fun hp => hp.resolve_left fun he =>
            hx (congrArg R.name (congrArg Prod.fst he))⟩
    · have hkept : ((R.take c).channelPart t c ch a).entered = R.entered := by
        unfold channelPart
        rw [hacc]
        dsimp only
        rw [if_neg fun he => hab (huid he)]
        split <;> rfl
      refine hother ?_ ?_
      · unfold In
        rw [hname, hkept]
      · rw [hpending, hfirst, List.mem_cons]
        exact ⟨Or.inr, fun hp => hp.resolve_left fun he => hab (congrArg Prod.snd he).symm⟩
  · rw [if_neg hd] at hpending
    refine hother ?_ (by rw [hpending])
    unfold In
    rw [hname, (channelPart_other ch a (R.take d) hd _ none b).1]
    exact Iff.rfl

theorem Present.create (hkeyed : R.Keyed) (h : R.Present c b x) : (R.create n).Present c b x := by
  by_cases hx : x = R.nextChan
  · have hnone : (R.create n).members x = [] := if_pos hx
    refine ⟨fun hb => ?_, fun hin _ => ?_⟩
    · rw [hnone] at hb
      cases hb
    · have hlt := (hkeyed.index _ x (hkeyed.entered c _ x hin)).2
      rw [hx] at hlt
      exact absurd hlt (Nat.lt_irrefl _)
  · have hmem : (R.create n).members x = R.members x := if_neg hx
    have hname : (R.create n).name x = R.name x := if_neg hx
    have hin : (R.create n).In c x ↔ R.In c x := by
      unfold In
      rw [hname]
      exact Iff.rfl
    refine ⟨fun hb => ?_, fun hi hb => ?_⟩
    · rw [hmem] at hb
      rw [hin]
      exact h.member hb
    · rw [hmem] at hb
      exact h.leaving (hin.mp hi) hb

end

end Rooms

/-! ## the connections of an account -/

namespace Reg

section
variable {r r' : Reg} {l : SysLabel} {c : ConnId} {a : AccId}

/-- a connection comes into a list when it registers -/
theorem SysStep.connections (hl : l.Unmerged) (hstep : SysStep l r r')
    (hc : c ∈ (r'.acc a).connections) : c ∈ (r.acc a).connections ∨
      (r.conn c).is_ready = false ∧ (l = .conn c (.registerOld a) ∨
        a = r.nextAcc ∧ ∃ n, l = .conn c (.registerNew n)) := by
  cases hstep with
  | connect => exact Or.inl hc
  | disconnect =>
    rw [disconnect_acc] at hc
    split at hc
    · exact Or.inl (List.mem_filter.mp hc).1
    · exact Or.inl hc
  | @conn d _ _ _ hlive hstep =>
    cases hstep with
    | registerNew hfin =>
      rw [registerNew_acc] at hc
      split at hc
      · next ha =>
        rw [List.mem_singleton.mp hc]
        exact Or.inr ⟨hfin.1, Or.inr ⟨ha, _, rfl⟩⟩
      · exact Or.inl hc
    | @registerOld b _ hfin hacc =>
      rw [registerOld_acc] at hc
      split at hc
      · next ha =>
        subst ha
        rcases List.mem_append.mp hc with hc | hc
        · exact Or.inl hc
        · rw [List.mem_singleton.mp hc]
          exact Or.inr ⟨hfin.1, Or.inl rfl⟩
      · exact Or.inl hc
    | @rename b self old new _ =>
      rw [rename_acc] at hc
      split at hc
      · next ha =>
        rw [ha]
        exact Or.inl hc
      · exact Or.inl hc
    | merge => exact hl.elim
    | _ => exact Or.inl hc

/-- a connection that is not ready, or not there yet, was not before -/
theorem SysStep.fresh (hstep : SysStep l r r')
    (hc : (r'.conn c).is_ready = false ∨ r'.nextConn ≤ c) :
    (r.conn c).is_ready = false ∨ r.nextConn ≤ c := by
  have hupd {d : ConnId} {f : ConnReg → ConnReg} (hf : (f (r.conn d)).is_ready = (r.conn d).is_ready)
      (h : ((r.updConn d f).conn c).is_ready = false) : (r.conn c).is_ready = false := by
    rw [updConn_conn] at h
    by_cases hd : c = d
    · rw [if_pos hd] at h
      rw [hd, ← hf]
      exact h
    · rw [if_neg hd] at h
      exact h
  cases hstep with
  | connect =>
    rcases hc with hc | hc
    · have hconn : r.connect.conn c =
        if c = r.nextConn then { ({} : Conn).reg with live := true } else r.conn c := rfl
      rw [hconn] at hc
      by_cases hx : c = r.nextConn
      · exact Or.inr (Nat.le_of_eq hx.symm)
      · rw [if_neg hx] at hc
        exact Or.inl hc
    · exact Or.inr (Nat.le_of_succ_le hc)
  | @disconnect d =>
    rw [(disconnect_next r d).1] at hc
    refine hc.imp_left fun hc => ?_
    rw [disconnect_conn] at hc
    split at hc
    · next hx =>
      rw [hx]
      exact hc
    · exact hc
  | @conn d _ _ _ hlive hstep =>
    cases hstep with
    | @giveNick n =>
      exact hc.imp_left (hupd (d := d) (f := fun k => { k with
        m_nick := n, setup_tasks := k.setup_tasks.clear .NICK }) rfl)
    | @clear t =>
      exact hc.imp_left (hupd (d := d) (f := fun k => { k with
        setup_tasks := k.setup_tasks.clear t }) rfl)
    | refuse => exact hc
    | registerNew =>
      refine hc.imp_left fun hc => ?_
      rw [registerNew_conn] at hc
      split at hc
      · cases hc
      · exact hc
    | @registerOld b =>
      refine hc.imp_left fun hc => ?_
      rw [registerOld_conn] at hc
      split at hc
      · cases hc
      · exact hc
    | rename => exact hc
    | @login b =>
      exact hc.imp_left (hupd (d := d) (f := fun k => { k with
        m_account := k.m_account.getD b, logged_in := true }) rfl)
    | @relogin b =>
      exact hc.imp_left (hupd (d := d) (f := fun k => { k with
        m_account := k.m_account.getD b, logged_in := true }) rfl)
    | @merge b x =>
      refine hc.imp_left fun hc => ?_
      exact hupd (d := d) (f := fun k => { k with
        m_account := k.m_account.getD b, logged_in := true }) rfl hc

end

end Reg

/-! ## the site -/

/-- what connections know of the channels, in every state of a run -/
structure Site.PresenceInv (s : Site) : Prop where
  sound : s.Sound
  link : s.reg.LinkInv
  listed : s.rooms.Listed
  posted : ∀ c ch b, (ch, b) ∈ s.rooms.pending c → s.rooms.index (s.rooms.name ch) = some ch ∧
    b < s.reg.nextAcc
  /-- a connection that is not ready is in no channel, and nothing was posted to it -/
  fresh : ∀ c, (s.reg.conn c).is_ready = false ∨ s.reg.nextConn ≤ c →
    (∀ n, s.rooms.entered c n = none) ∧ s.rooms.pending c = []
  present : ∀ c a ch, c ∈ (s.reg.acc a).connections → s.rooms.Present c a ch

/-- an account joins a channel when all its connections have left it, and nothing else happens that
the calls do not allow for -/
def SiteLabel.Settled (s : Site) : SiteLabel → Prop
  | .sys (.conn _ (.merge _ _)) => False
  | .sys (.conn _ (.registerOld a)) => ∀ (n : Bytes) ch, (s.rooms.listed a)[n]? = some (some ch) →
    ∀ d ∈ (s.reg.acc a).connections, (ch, a) ∉ s.rooms.pending d
  | .join _ a ch => ∀ d ∈ (s.reg.acc a).connections, (ch, a) ∉ s.rooms.pending d
  | .rename _ _ _ => False
  | _ => True

section
variable {l : SiteLabel} {s s' : Site}

theorem Reg.LinkInv.tied {r : Reg} (h : r.LinkInv) : Rooms.Tied r.ties :=
  fun c a hc => ((h.mem_iff c a).mp hc).2.2

/-- a connection of a list is not fresh -/
theorem Reg.LinkInv.not_fresh {r : Reg} (h : r.LinkInv) {c : ConnId} {a : AccId}
    (hc : c ∈ (r.acc a).connections) : ¬ ((r.conn c).is_ready = false ∨ r.nextConn ≤ c) := by
  have hon := (h.mem_iff c a).mp hc
  rintro (hr | hle)
  · rw [hon.2.1] at hr
    cases hr
  · exact Nat.not_lt.mpr hle (h.fresh c hon.1)

theorem SiteLabel.Settled.isRename (h : l.Settled s) : l.isRename = false := by
  cases l <;> first | rfl | exact h.elim

theorem SiteLabel.Settled.unmerged {k : Reg.SysLabel} (h : SiteLabel.Settled s (.sys k)) :
    k.Unmerged := by
  cases k with
  | conn c k => cases k <;> trivial
  | _ => trivial

theorem SiteStep.linkInv (hl : l.Settled s) (h : s.reg.LinkInv) (hstep : SiteStep l s s') :
    s'.reg.LinkInv := by
  rcases hstep.reg_cases with ⟨k, rfl, hk⟩ | hreg
  · exact hk.linkInv hl.unmerged h
  · rw [hreg]
    exact h

theorem SiteStep.listed (hl : l.Settled s) (hs : s.Sound) (h : s.rooms.Listed)
    (hstep : SiteStep l s s') : s'.rooms.Listed := by
  cases hstep with
  | @sys l r r' R hsys =>
    cases l with
    | connect => exact h
    | disconnect c => exact h
    | conn c k =>
      cases k with
      | registerNew n =>
        intro ch a ha
        have hne : a ≠ r.nextAcc := Nat.ne_of_lt (hs.made ch a ha)
        show (if a = r.nextAcc then ∅ else R.listed a)[R.name ch]? = _
        rw [if_neg hne]
        exact h ch a ha
      | registerOld a =>
        have hboth := Rooms.rejoin_inv (t := r'.ties) (a := a) (R := R)
          (I := fun R' => R'.Listed ∧ R'.Keyed ∧ R'.index = R.index) ⟨h, hs.keyed, rfl⟩ ?_
        · exact hboth.1
        · rintro R' ch ⟨n, hn⟩ ⟨hR', hkeyed', hindex⟩
          obtain ⟨y, hy, hch⟩ := hs.keyed.listed a n (some ch) hn
          cases hy
          have hch' := hkeyed'.index_name (hindex ▸ hch : R'.index n = some ch)
          exact ⟨hR'.join hkeyed' hch', hkeyed'.join hch', by rw [Rooms.join_index, hindex]⟩
      | _ => exact h
  | @create c n r R hn =>
    intro ch a ha
    replace ha : a ∈ (if ch = R.nextChan then [] else R.members ch) := ha
    split at ha
    · cases ha
    · next hne =>
      show (R.listed a)[if ch = R.nextChan then n else R.name ch]? = _
      rw [if_neg hne]
      exact h ch a ha
  | join hacc hch =>
    obtain ⟨n, hn⟩ := hch
    exact Rooms.Listed.join h hs.keyed (hs.keyed.index_name hn)
  | part => exact fun ch a ha => h ch a (Rooms.mem_part.mp ha).1
  | rename => exact hl.elim
  | @deliver c x b m r R =>
    have hsame : ((R.take c).channelPart r.ties c x b).toHalls = R.toHalls :=
      Rooms.channelPart_toHalls _ _ _ _ _
    intro ch a ha
    replace ha : a ∈ ((R.take c).channelPart r.ties c x b).toHalls.members ch := ha
    show (((R.take c).channelPart r.ties c x b).toHalls.listed a)[
      ((R.take c).channelPart r.ties c x b).toHalls.name ch]? = _
    rw [hsame] at ha ⊢
    exact h ch a ha
  | lose => exact h

/-- a channel that is indexed stays so -/
theorem SiteStep.index (hl : l.isRename = false) (hkeyed : s.rooms.Keyed) (hstep : SiteStep l s s')
    {ch : ChanId} (hch : s.rooms.index (s.rooms.name ch) = some ch) :
    s'.rooms.index (s'.rooms.name ch) = some ch := by
  cases hstep with
  | @sys l r r' R hsys =>
    cases l with
    | connect => exact hch
    | disconnect c => exact hch
    | conn c k =>
      cases k with
      | registerOld a =>
        have hsame := Rooms.rejoin_inv (t := r'.ties) (a := a) (R := R)
          (I := fun R' => R'.name = R.name ∧ R'.index = R.index) ⟨rfl, rfl⟩
          fun R' x _ h => ⟨by rw [Rooms.join_name, h.1], by rw [Rooms.join_index, h.2]⟩
        show (R.rejoin r'.ties a).index ((R.rejoin r'.ties a).name ch) = some ch
        rw [hsame.1, hsame.2]
        exact hch
      | _ => exact hch
  | @create c n r R hn =>
    have hlt := (hkeyed.index _ ch hch).2
    show (if (if ch = R.nextChan then n else R.name ch) = n then some R.nextChan
      else R.index (if ch = R.nextChan then n else R.name ch)) = some ch
    rw [if_neg (Nat.ne_of_lt hlt), if_neg]
    · exact hch
    · intro he
      rw [he, hn] at hch
      cases hch
  | @join c a x r R =>
    show (R.join r.ties x a).index ((R.join r.ties x a).name ch) = some ch
    rw [Rooms.join_index, Rooms.join_name]
    exact hch
  | part => exact hch
  | rename => cases hl
  | @deliver c x b m r R =>
    show ((R.take c).channelPart r.ties c x b).toHalls.index
      (((R.take c).channelPart r.ties c x b).toHalls.name ch) = some ch
    rw [Rooms.channelPart_toHalls]
    exact hch
  | lose => exact hch

/-- what is waiting was waiting before, or is a part that the step posts -/
theorem SiteStep.pending (hstep : SiteStep l s s') {c : ConnId} {ch : ChanId} {b : AccId}
    (h : (ch, b) ∈ s'.rooms.pending c) : (ch, b) ∈ s.rooms.pending c ∨
      ∃ d, l = .part d b ch ∧ (s.reg.conn d).m_account = some b ∧
        (∃ n, s.rooms.index n = some ch) ∧ ∃ m, c ∈ (s.reg.acc m).connections := by
  have htake {R : Rooms} {d : ConnId} (h : (ch, b) ∈ (R.take d).pending c) : (ch, b) ∈ R.pending c := by
    replace h : (ch, b) ∈ (if c = d then (R.pending d).tail else R.pending c) := h
    split at h
    · next hx =>
      rw [hx]
      exact List.mem_of_mem_tail h
    · exact h
  cases hstep with
  | @sys l r r' R hsys =>
    cases l with
    | connect => exact Or.inl h
    | disconnect => exact Or.inl h
    | conn d k =>
      cases k with
      | registerOld a =>
        have hsame := Rooms.rejoin_inv (t := r'.ties) (a := a) (R := R)
          (I := fun R' => R'.pending = R.pending) rfl
          fun R' x _ h => (Rooms.join_pending _ _ _ _).trans h
        replace h : (ch, b) ∈ (R.rejoin r'.ties a).pending c := h
        rw [hsame] at h
        exact Or.inl h
      | _ => exact Or.inl h
  | create => exact Or.inl h
  | @join d a x r R =>
    replace h : (ch, b) ∈ (R.join r.ties x a).pending c := h
    rw [Rooms.join_pending] at h
    exact Or.inl h
  | @part d a x r R hacc hch hmem =>
    rcases Rooms.mem_part_pending.mp h with h | ⟨h, m, -, hc⟩
    · exact Or.inl h
    · cases h
      exact Or.inr ⟨d, rfl, hacc, hch, m, hc⟩
  | rename => exact Or.inl h
  | @deliver d x a m r R =>
    replace h : (ch, b) ∈ ((R.take d).channelPart r.ties d x a).pending c := h
    rw [Rooms.channelPart_pending] at h
    exact Or.inl (htake h)
  | lose => exact Or.inl (htake h)

theorem SiteStep.fresh (hl : l.Settled s) (h : s.PresenceInv) (hstep : SiteStep l s s') (c : ConnId)
    (hc : (s'.reg.conn c).is_ready = false ∨ s'.reg.nextConn ≤ c) :
    (∀ n, s'.rooms.entered c n = none) ∧ s'.rooms.pending c = [] := by
  have hlink' := hstep.linkInv hl h.link
  have hbefore : (s.reg.conn c).is_ready = false ∨ s.reg.nextConn ≤ c := by
    rcases hstep.reg_cases with ⟨k, -, hk⟩ | hreg
    · exact hk.fresh hc
    · rw [hreg] at hc
      exact hc
  obtain ⟨hent, hpend⟩ := h.fresh c hbefore
  refine ⟨fun n => ?_, List.eq_nil_iff_forall_not_mem.mpr fun p hp => ?_⟩
  · -- only the connections of an account enter a channel
    have hjoin {r : Reg} {R : Rooms} {x : ChanId} {a : AccId} (hlink : r.LinkInv)
        (hx : R.index (R.name x) = some x)
        (hfresh : (r.conn c).is_ready = false ∨ r.nextConn ≤ c) :
        (R.join r.ties x a).entered c n = R.entered c n := by
      rw [Rooms.join_entered hlink.tied hx, if_neg fun he => hlink.not_fresh he.1 hfresh]
    cases hstep with
    | @sys l r r' R hsys =>
      cases l with
      | connect =>
        show (if c = r.nextConn then none else R.entered c n) = none
        split
        · rfl
        · exact hent n
      | disconnect => exact hent n
      | conn d k =>
        cases k with
        | registerOld a =>
          have hall := Rooms.rejoin_inv (t := r'.ties) (a := a) (R := R)
            (I := fun R' => R'.Keyed ∧ R'.index = R.index ∧ R'.entered c n = none)
            ⟨h.sound.keyed, rfl, hent n⟩ ?_
          · exact hall.2.2
          · rintro R' ch ⟨m, hm⟩ ⟨hkeyed', hindex, hnone⟩
            obtain ⟨y, hy, hch⟩ := h.sound.keyed.listed a m (some ch) hm
            cases hy
            have hch' := hkeyed'.index_name (hindex ▸ hch : R'.index m = some ch)
            exact ⟨hkeyed'.join hch', by rw [Rooms.join_index, hindex],
              (hjoin hlink' hch' hc).trans hnone⟩
        | _ => exact hent n
    | create => exact hent n
    | @join d a x r R hacc hch =>
      obtain ⟨m, hm⟩ := hch
      exact (hjoin h.link (h.sound.keyed.index_name hm) hbefore).trans (hent n)
    | part => exact hent n
    | rename => exact hent n
    | @deliver d x a m r R hfirst hlive =>
      have hne : c ≠ d := by
        rintro rfl
        replace hpend : R.pending c = [] := hpend
        rw [hfirst] at hpend
        cases hpend
      show ((R.take d).channelPart r.ties d x a).entered c n = none
      rw [(Rooms.channelPart_other x a (R.take d) hne n none a).1]
      exact hent n
    | lose => exact hent n
  · obtain ⟨ch, b⟩ := p
    rcases hstep.pending hp with hp | ⟨d, -, -, -, m, hm⟩
    · rw [hpend] at hp
      cases hp
    · exact h.link.not_fresh hm hbefore

theorem SiteStep.present (hl : l.Settled s) (h : s.PresenceInv) (hstep : SiteStep l s s') {c : ConnId}
    {a : AccId} (hc : c ∈ (s'.reg.acc a).connections) (ch : ChanId) : s'.rooms.Present c a ch := by
  cases hstep with
  | @sys l r r' R hsys =>
    have hlink' : r'.LinkInv := hsys.linkInv hl.unmerged h.link
    have hconn := hsys.connections hl.unmerged hc
    cases l with
    | connect =>
      rcases hconn with hc | ⟨-, he | ⟨-, n, he⟩⟩
      · -- the new connection is in no list
        have hne : c ≠ r.nextConn := fun he =>
          h.link.not_fresh hc (Or.inr (Nat.le_of_eq he.symm))
        have hpres := h.present c a ch hc
        have hin : (R.newConn r.nextConn).In c ch ↔ R.In c ch := by
          unfold Rooms.In
          show (if c = r.nextConn then none else R.entered c (R.name ch)) = some ch ↔ _
          rw [if_neg hne]
        exact ⟨fun hm => ⟨hin.mpr (hpres.member hm).1, (hpres.member hm).2⟩,
          fun hi hm => hpres.leaving (hin.mp hi) hm⟩
      · cases he
      · cases he
    | disconnect d =>
      rcases hconn with hc | ⟨-, he | ⟨-, n, he⟩⟩
      · exact h.present c a ch hc
      · cases he
      · cases he
    | conn d k =>
      cases k with
      | registerNew n =>
        rcases hconn with hc | ⟨hfresh, he | ⟨rfl, -⟩⟩
        · exact ⟨(h.present c a ch hc).member, (h.present c a ch hc).leaving⟩
        · cases he
        · -- a new account is in no channel, and neither is its connection
          refine ⟨fun hm => absurd (h.sound.made ch _ hm) (Nat.lt_irrefl _), fun hin _ => ?_⟩
          have hnone := (h.fresh c (Or.inl hfresh)).1 (R.name ch)
          replace hin : R.entered c (R.name ch) = some ch := hin
          rw [hnone] at hin
          cases hin
      | registerOld b =>
        -- a call about the account waits for none of its connections
        have hsettled (x : ChanId) (hx : ∃ n : Bytes, (R.listed b)[n]? = some (some x))
            (hcb : c ∈ (r'.acc b).connections) : (x, b) ∉ R.pending c := by
          obtain ⟨n, hn⟩ := hx
          rcases hsys.connections hl.unmerged hcb with hcb | ⟨hfresh, -⟩
          · exact hl n x hn c hcb
          · have hnone : R.pending c = [] := (h.fresh c (Or.inl hfresh)).2
            rw [hnone]
            exact List.not_mem_nil
        have hall := Rooms.rejoin_pointwise (t := r'.ties) (a := b) (R := R)
          (I := fun R' => R'.Keyed ∧ R'.index = R.index ∧ R'.pending = R.pending)
          (Q := fun R' x y => c ∈ (r'.acc x).connections → R'.Present c x y)
          ⟨h.sound.keyed, rfl, rfl⟩ ?_
        · refine hall.2 a ch ?_ hc
          rcases hconn with hc | ⟨hfresh, he | ⟨-, n, he⟩⟩
          · exact Or.inl fun _ => h.present c a ch hc
          · cases he
            by_cases hm : a ∈ R.members ch
            · exact Or.inr ⟨rfl, _, h.listed ch a hm⟩
            · refine Or.inl fun _ => ⟨fun hm' => absurd hm' hm, fun hin _ => ?_⟩
              have hnone := (h.fresh c (Or.inl hfresh)).1 (R.name ch)
              replace hin : R.entered c (R.name ch) = some ch := hin
              rw [hnone] at hin
              cases hin
          · cases he
        · rintro R' y ⟨n, hn⟩ ⟨hkeyed', hindex, hpending⟩
          obtain ⟨z, hz, hy⟩ := h.sound.keyed.listed b n (some y) hn
          cases hz
          have hy' := hkeyed'.index_name (hindex ▸ hy : R'.index n = some y)
          refine ⟨⟨hkeyed'.join hy', by rw [Rooms.join_index, hindex],
            by rw [Rooms.join_pending, hpending]⟩, fun x z hQ hcx => ?_⟩
          refine Rooms.Present.join hkeyed' hlink'.tied hy' hcx ?_
            (hQ.imp_left fun hQ => hQ hcx)
          rintro ⟨rfl, rfl⟩
          rw [hpending]
          exact hsettled z ⟨n, hn⟩ hcx
      | merge => exact hl.elim
      | _ =>
        rcases hconn with hc | ⟨-, he | ⟨-, n, he⟩⟩
        · exact h.present c a ch hc
        · cases he
        · cases he
  | create hn => exact Rooms.Present.create h.sound.keyed (h.present c a ch hc)
  | @join d b x r R hacc hch =>
    obtain ⟨n, hn⟩ := hch
    refine Rooms.Present.join h.sound.keyed h.link.tied (h.sound.keyed.index_name hn) hc
      ?_ (Or.inl (h.present c a ch hc))
    rintro ⟨rfl, rfl⟩
    exact hl c hc
  | @part d b x r R hacc hch hmem => exact Rooms.Present.part hc hmem (h.present c a ch hc)
  | rename => exact hl.elim
  | @deliver d x b m r R hfirst hlive =>
    have hposted := h.posted d x b (by
      show (x, b) ∈ R.pending d
      rw [hfirst]
      exact List.mem_cons_self)
    have ha : a < r.nextAcc := h.link.made c a ((h.link.mem_iff c a).mp hc).2.2
    exact Rooms.Present.deliver h.sound.keyed h.link.tied hc
      (fun he => h.sound.registry.uid_inj b a hposted.2 ha he) hposted.1 hfirst
      fun x => h.present c a x hc
  | @lose d x b m r R hfirst hdead =>
    have hne : c ≠ d := by
      rintro rfl
      have hlive : (r.conn c).live = true := ((h.link.mem_iff c a).mp hc).1
      rw [hdead] at hlive
      cases hlive
    have hpres := h.present c a ch hc
    have hpending : (R.take d).pending c = R.pending c := if_neg hne
    refine ⟨fun hm => ?_, fun hi hm => ?_⟩
    · rw [hpending]
      exact hpres.member hm
    · rw [hpending]
      exact hpres.leaving hi hm

/-- **One step.**  Connections go on knowing the channels of their account. -/
theorem SiteStep.presenceInv (hl : l.Settled s) (h : s.PresenceInv) (hstep : SiteStep l s s') :
    s'.PresenceInv := by
  have hnext : s.reg.nextAcc ≤ s'.reg.nextAcc := by
    rcases hstep.reg_cases with ⟨k, -, hk⟩ | hreg
    · exact hk.nextAcc_le
    · rw [hreg]
  refine ⟨hstep.sound hl.isRename h.sound, hstep.linkInv hl h.link, hstep.listed hl h.sound h.listed,
    fun c ch b hp => ?_, hstep.fresh hl h, fun c a ch hc => hstep.present hl h hc ch⟩
  have hbefore : s.rooms.index (s.rooms.name ch) = some ch ∧ b < s.reg.nextAcc := by
    rcases hstep.pending hp with hp | ⟨d, -, hacc, ⟨n, hn⟩, -⟩
    · exact h.posted c ch b hp
    · exact ⟨h.sound.keyed.index_name hn, h.link.made d b hacc⟩
  exact ⟨hstep.index hl.isRename h.sound.keyed hbefore.1, Nat.lt_of_lt_of_le hbefore.2 hnext⟩

end

/-! ## runs of the server -/

namespace Worker
open World client_connection

/-- a part of the account waits for one of its own connections -/
def leavesLater (a : AccId) (ch : ChanId) (w : World) : Bool :=
  (w.acc a).connections.any fun d => (w.rooms.pending d).contains (ch, a)

/-- does an account join a channel, by a JOIN or a registration, that one of its connections has
still to leave -/
def joinsEarly (env : Env) (w : World) (ev : Event) : Bool :=
  onCommand (fun c cmd args w =>
    ((joinNames cmd args).any fun n => (Channel.get w n).any fun ch =>
      (w.conn c).m_account.any fun a => leavesLater a ch w) ||
    (registeringAccount env c cmd args w).any fun a => (w.acc a).channels.values.any fun p =>
      p.any fun ch => leavesLater a ch w) w ev

section
variable {env : Env} {w w' : World} {ev : Event} {evs : List Event}

theorem not_mem_of_leavesLater {a : AccId} {ch : ChanId} (h : leavesLater a ch w = false) {d : ConnId}
    (hd : d ∈ (w.acc a).connections) : (ch, a) ∉ w.rooms.pending d := by
  intro hmem
  have htrue : leavesLater a ch w = true :=
    List.any_eq_true.mpr ⟨d, hd, List.contains_iff_mem.mpr hmem⟩
  rw [h] at htrue
  cases htrue

theorem Allowed.settled {l : SiteLabel} {s : Site} (hinv : w.site.PresenceInv)
    (hlogin : mergesLogin env w ev = false) (hren : renamesChannel w ev = false)
    (hearly : joinsEarly env w ev = false) (h : Allowed env w ev l s) : l.Settled s := by
  cases l with
  | rename d ch n =>
    have hfalse := h.not_rename hren
    cases hfalse
  | join d a ch =>
    cases ev with
    | line c line =>
      obtain ⟨cmd, args, hp, rfl, -, hacc, ⟨n, hn, -, hidx⟩, hnear⟩ := h.command hearly
      obtain ⟨hjoin, -⟩ := Bool.or_eq_false_iff.mp hp
      intro x hx hmem
      rw [hnear.acc] at hx
      rw [hnear.pending] at hmem
      rcases hidx with hidx | hle
      · -- the channel was there
        have hlater := List.any_eq_false.mp hjoin n hn
        have hget : Channel.get (handlerWorld d line w) n = some ch := hidx
        rw [hget, hacc] at hlater
        exact not_mem_of_leavesLater (Bool.not_eq_true _ ▸ hlater) hx hmem
      · rw [rooms_handlerWorld] at hmem hle
        have hlt := (hinv.sound.keyed.index _ ch (hinv.posted x ch a hmem).1).2
        exact Nat.not_lt.mpr hle hlt
    | _ => cases h
  | sys k =>
    cases k with
    | conn d k =>
      cases k with
      | merge a b =>
        cases ev with
        | line c line =>
          have htrue := h.merging
          rw [hlogin] at htrue
          cases htrue
        | _ => cases h
      | registerOld a =>
        cases ev with
        | line c line =>
          obtain ⟨cmd, args, hp, rfl, -, hnear, hrooms, hold⟩ := h.command hearly
          obtain ⟨-, hlist⟩ := Bool.or_eq_false_iff.mp hp
          intro n ch hn x hx
          rw [hnear.acc] at hx
          rw [hrooms] at hn ⊢
          rw [hold a rfl] at hlist
          have hvalue : some ch ∈ ((handlerWorld d line w).acc a).channels.values :=
            mem_values.mpr ⟨n, hn⟩
          have hlater := List.any_eq_false.mp hlist (some ch) hvalue
          exact not_mem_of_leavesLater (Bool.not_eq_true _ ▸ hlater) hx
        | _ => cases h
      | _ => trivial
    | _ => trivial
  | _ => trivial

theorem Started.presenceInv (h : Started w) : w.site.PresenceInv := by
  have hpending (c : ConnId) : w.rooms.pending c = [] := by
    show w.queue.filterMap (partFor c) = []
    rw [h.quiet]
    rfl
  refine ⟨h.sound, h.linkInv, fun ch a ha => (h.agree a ch).mp ha, fun c ch b hp => ?_,
    fun c _ => ⟨fun n => ?_, hpending c⟩, fun c a ch hc => ?_⟩
  · replace hp : (ch, b) ∈ w.rooms.pending c := hp
    rw [hpending] at hp
    cases hp
  · show (w.conn c).channels[n]? = none
    rw [(h.outside c).1]
    exact Std.ExtTreeMap.getElem?_empty
  · replace hc : c ∈ (w.acc a).connections := hc
    rw [h.unlisted a] at hc
    cases hc

/-- **Own membership.**  In every run of a server without RENAME and late logins, in which no account
joins a channel that one of its connections has still to leave: whenever no `channel_part` waits, a
ready connection is in exactly the channels that its account is a member of. -/
theorem presence_agrees (hstart : Started w)
    (hlogin : AllSteps (step env) (fun w ev => mergesLogin env w ev = false) w evs)
    (hren : AllSteps (step env) (fun w ev => renamesChannel w ev = false) w evs)
    (hearly : AllSteps (step env) (fun w ev => joinsEarly env w ev = false) w evs)
    (hrun : run (step env) w evs = .ok w') (hquiet : ∀ d e, (d, .channel_part e) ∉ w'.queue)
    {c : ConnId} {a : AccId} (hon : w'.reg.Online c a) (ch : ChanId) :
    (w'.conn c).channels[(w'.chan ch).m_name]? = some ch ↔ a ∈ (w'.chan ch).m_members := by
  have hinv : w'.site.PresenceInv := by
    refine run_site (I := fun s => s.PresenceInv) (C := fun w ev => mergesLogin env w ev = false ∧
      renamesChannel w ev = false ∧ joinsEarly env w ev = false)
      (fun w ev l s s' hC hw hs hallowed hstep => ?_) hstart.presenceInv
      (hlogin.and (hren.and hearly)) hrun
    exact hstep.presenceInv (hallowed.settled hw hC.1 hC.2.1 hC.2.2) hs
  have hnone : w'.rooms.pending c = [] := by
    refine List.filterMap_eq_nil_iff.mpr fun p hp => ?_
    obtain ⟨d, call⟩ := p
    cases call with
    | channel_part e => exact absurd hp (hquiet d e)
    | _ => rfl
  have hpres := hinv.present c a ch ((hinv.link.mem_iff c a).mpr hon)
  refine ⟨fun hin => ?_, fun hm => (hpres.member hm).1⟩
  by_contra hm
  have hleaving : (ch, a) ∈ w'.rooms.pending c := hpres.leaving hin hm
  rw [hnone] at hleaving
  cases hleaving

end

/-- ann joins, parts and joins again before the call of the part is run -/
def annReturns : List Event :=
  registration 0 false "ann" ++ [.line 0 (ascii "JOIN #x"), .line 0 (ascii "PART #x"),
    .line 0 (ascii "JOIN #x"), .deliver 0]

set_option maxRecDepth 8000 in
/-- she is a member, and her connection is not in the channel -/
theorem presence_lost : ∃ w', run (step Env.ascii) World.empty annReturns = .ok w' ∧
    w'.queue = [] ∧ w'.reg.Online 0 0 ∧ (w'.chan 0).m_members = [0] ∧
    (w'.conn 0).channels[(w'.chan 0).m_name]? = none := by
  unfold annReturns
  rw [run_registration ann_letsIn]
  exact ⟨_, rfl, rfl, ⟨rfl, rfl, rfl⟩, rfl, rfl⟩

/-- ann joins and parts, and joins again when she has left -/
def annWaits : List Event := annParts ++ [.deliver 0, .line 0 (ascii "JOIN #x")]

set_option maxRecDepth 8000 in
theorem presence_agrees_ann : ∃ w', run (step Env.ascii) World.empty annWaits = .ok w' ∧
    (w'.conn 0).channels[(w'.chan 0).m_name]? = some 0 ∧ (0 : AccId) ∈ (w'.chan 0).m_members := by
  have hquiet : checkSteps (step Env.ascii) (fun w ev => !mergesLogin Env.ascii w ev &&
      !renamesChannel w ev && !joinsEarly Env.ascii w ev) World.empty annWaits = true := by
    unfold annWaits annParts
    rw [List.append_assoc, check_registration ann_letsIn]
    rfl
  have hsteps := (allSteps_of_check hquiet).mono (D := fun w ev => mergesLogin Env.ascii w ev = false ∧
      renamesChannel w ev = false ∧ joinsEarly Env.ascii w ev = false) fun w ev h => by
    simpa [and_assoc] using h
  have hend : ∃ w', run (step Env.ascii) World.empty annWaits = .ok w' ∧ w'.queue = [] ∧
      w'.reg.Online 0 0 ∧ (w'.chan 0).m_members = [0] := by
    unfold annWaits annParts
    rw [List.append_assoc, run_registration ann_letsIn]
    exact ⟨_, rfl, rfl, ⟨rfl, rfl, rfl⟩, rfl⟩
  obtain ⟨w', hrun, hqueue, hon, hmembers⟩ := hend
  have hmem : (0 : AccId) ∈ (w'.chan 0).m_members := by
    rw [hmembers]
    decide
  refine ⟨w', hrun, ?_, hmem⟩
  refine (presence_agrees empty_started (hsteps.mono fun w ev h => h.1)
    (hsteps.mono fun w ev h => h.2.1) (hsteps.mono fun w ev h => h.2.2) hrun (fun d e he => ?_) hon
    0).mpr hmem
  rw [hqueue] at he
  cases he

end Worker

end Chatripper
