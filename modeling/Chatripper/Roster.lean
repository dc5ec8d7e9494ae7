import Mathlib
import Chatripper.Presence
import Chatripper.Fanout

/-!
# The rosters of connections

A connection keeps a roster of every channel that it is in.  A join is shown to the connections at
once, a part when its call is run.

* `Known`                what a connection knows of the members, up to the calls that wait for it;
* `SiteStep.rosterInv`   a step keeps that, unless a connection that stays is told of another
  account's part: the whole roster goes;
* `roster_agrees`        in every run without such a step, what is left in the rosters and the PART
  lines that were sent.
-/

namespace Chatripper
open ByteStr Utf8 Outcome

namespace Rooms

/-- connection `c` of account `a` has the members of a channel that it is in, and those whose parts
it has still to be told of; after its own part it is told of no other -/
structure Known (R : Rooms) (c : ConnId) (a : AccId) (ch : ChanId) : Prop where
  outside : ¬ R.In c ch → ∀ b, R.roster c (some ch) b = false ∧ (ch, b) ∉ R.pending c
  member : R.In c ch → a ∈ R.members ch → ∀ b, R.roster c (some ch) b = true ↔
    b ∈ R.members ch ∨ (ch, b) ∈ R.pending c
  leaving : R.In c ch → a ∉ R.members ch → (ch, a) ∈ R.pending c
  waiting : ∀ b, b ≠ a → (ch, b) ∈ R.pending c → R.roster c (some ch) b = true
  last : (R.pending c).Pairwise fun p q => p = (ch, a) → q.1 ≠ ch

section
variable {t : Ties} {R R' : Rooms} {c d : ConnId} {a b : AccId} {ch x : ChanId} {n : Bytes}
  {m : List (ChanId × AccId)}

/-- a step that the connection does not see -/
theorem Known.same (hin : R'.In c x ↔ R.In c x)
    (hroster : ∀ b, R'.roster c (some x) b = R.roster c (some x) b)
    (hpending : ∀ b, (x, b) ∈ R'.pending c ↔ (x, b) ∈ R.pending c)
    (hlast : (R'.pending c).Pairwise fun p q => p = (x, a) → q.1 ≠ x)
    (hmem : ∀ b, b ∈ R'.members x ↔ b ∈ R.members x) (h : R.Known c a x) : R'.Known c a x := by
  refine ⟨fun hx b => ?_, fun hx ha b => ?_, fun hx ha => ?_, fun b hb hp => ?_, hlast⟩
  · rw [hroster, hpending]
    exact h.outside (fun hi => hx (hin.mpr hi)) b
  · rw [hroster, hpending, hmem]
    exact h.member (hin.mp hx) ((hmem a).mp ha) b
  · rw [hpending]
    exact h.leaving (hin.mp hx) fun hm => ha ((hmem a).mpr hm)
  · rw [hroster]
    exact h.waiting b hb ((hpending b).mp hp)

/-- a connection that is in no channel and has no calls -/
theorem Known.blank (hin : ¬ R.In c x) (hroster : ∀ b, R.roster c (some x) b = false)
    (hpending : R.pending c = []) : R.Known c a x := by
  refine ⟨fun _ b => ⟨hroster b, ?_⟩, fun hx => absurd hx hin, fun hx => absurd hx hin,
    fun b _ hp => ?_, ?_⟩
  · rw [hpending]
    exact List.not_mem_nil
  · rw [hpending] at hp
    cases hp
  · rw [hpending]
    exact List.Pairwise.nil

/-! ## joins -/

/-- what a join shows to the connections of another account -/
theorem roster_join_other {e : AccId} (ht : Tied t) (hch : R.index (R.name ch) = some ch)
    (hc : c ∈ t.connections a) (hne : a ≠ b) (huid : t.uid a = t.uid b → a = b) :
    (R.join t ch b).roster c (some x) e = true ↔
      R.roster c (some x) e = true ∨ x = ch ∧ a ∈ R.members ch ∧ e = b := by
  have hacc : t.account c = some a := ht c a hc
  have honly {m : AccId} (hm : c ∈ t.connections m) : m = a := by
    have hm := ht c m hm
    rw [hacc] at hm
    exact (Option.some.inj hm).symm
  rw [mem_join_roster ht hch]
  refine or_congr_right ⟨?_, ?_⟩
  · rintro ⟨hx, ⟨hb, -⟩ | ⟨⟨k, hk, -, hkc⟩, he⟩⟩
    · exact absurd (honly hb).symm hne
    · rw [← honly hkc]
      exact ⟨Option.some.inj hx, hk, he⟩
  · rintro ⟨rfl, hmem, he⟩
    exact ⟨rfl, Or.inr ⟨⟨a, hmem, fun hu => hne (huid hu), hc⟩, he⟩⟩

theorem Known.join (hkeyed : R.Keyed) (ht : Tied t) (hch : R.index (R.name ch) = some ch)
    (hc : c ∈ t.connections a) (huid : t.uid a = t.uid b → a = b)
    (hpresent : a ≠ b → a ∈ R.members ch → R.In c ch)
    (hsettled : a = b → (ch, b) ∉ R.pending c) (h : R.Known c a x) :
    (R.join t ch b).Known c a x := by
  have hpending : (R.join t ch b).pending c = R.pending c := by rw [join_pending]
  by_cases hab : a = b
  · subst hab
    by_cases hx : x = ch
    · subst hx
      have hin : (R.join t x a).In c x := in_join hkeyed ht hch hc
      have hmem : a ∈ (R.join t x a).members x := (mem_join t x a R).mpr (Or.inr ⟨rfl, rfl⟩)
      refine ⟨fun hn => absurd hin hn, fun _ _ b => ?_, fun _ hn => absurd hmem hn,
        fun b hb hp => ?_, by rw [hpending]; exact h.last⟩
      · rw [mem_join_roster ht hch, mem_join, hpending]
        by_cases hbefore : R.In c x
        · -- the connection is there, and so is its account
          have ha : a ∈ R.members x := by
            by_contra hn
            exact hsettled rfl (h.leaving hbefore hn)
          have hsome : R.entered c (R.name x) = some x := hbefore
          rw [h.member hbefore ha]
          constructor
          · rintro ((hb | hp) | ⟨-, ⟨-, hnone, -⟩ | ⟨⟨m, -, hne, hcm⟩, -⟩⟩)
            · exact Or.inl (Or.inl hb)
            · exact Or.inr hp
            · rw [hsome] at hnone
              cases hnone
            · have hm := ht c m hcm
              rw [ht c a hc] at hm
              exact absurd (congrArg t.uid (Option.some.inj hm).symm) hne
          · rintro ((hb | ⟨-, rfl⟩) | hp)
            · exact Or.inl (Or.inl hb)
            · exact Or.inl (Or.inl ha)
            · exact Or.inl (Or.inr hp)
        · -- it enters, and is told of all members
          have hnone : R.entered c (R.name x) = none := by
            cases hent : R.entered c (R.name x) with
            | none => rfl
            | some y =>
              have hindex := hkeyed.entered c _ y hent
              rw [hch] at hindex
              cases hindex
              exact absurd hent hbefore
          obtain ⟨hfalse, hnot⟩ := h.outside hbefore b
          constructor
          · rintro (hr | ⟨-, ⟨-, -, hb⟩ | ⟨⟨m, -, hne, hcm⟩, -⟩⟩)
            · rw [hfalse] at hr
              cases hr
            · exact Or.inl (hb.imp_right fun hb => ⟨rfl, hb⟩)
            · have hm := ht c m hcm
              rw [ht c a hc] at hm
              exact absurd (congrArg t.uid (Option.some.inj hm).symm) hne
          · rintro (hb | hp)
            · exact Or.inr ⟨rfl, Or.inl ⟨hc, hnone, hb.imp_right And.right⟩⟩
            · exact absurd hp hnot
      · rw [hpending] at hp
        exact (mem_join_roster ht hch).mpr (Or.inl (h.waiting b hb hp))
    · refine Known.same (in_join_iff ht hch hc fun he => hx he.2) (fun b => ?_)
        (fun b => by rw [hpending]) (by rw [hpending]; exact h.last) (fun b => ?_) h
      · refine Bool.eq_iff_iff.mpr ((mem_join_roster ht hch).trans ⟨fun hr => hr.resolve_right ?_,
          Or.inl⟩)
        rintro ⟨he, -⟩
        exact hx (Option.some.inj he)
      · rw [mem_join]
        exact ⟨fun hb => hb.resolve_right fun he => hx he.1, Or.inl⟩
  · have hin : (R.join t ch b).In c x ↔ R.In c x := in_join_iff ht hch hc fun he => hab he.1
    have hroster (m : AccId) := roster_join_other (x := x) (e := m) ht hch hc hab huid
    have hmem (m : AccId) : m ∈ (R.join t ch b).members x ↔ m ∈ R.members x ∨ x = ch ∧ m = b :=
      mem_join t ch b R
    have hown : a ∈ (R.join t ch b).members x ↔ a ∈ R.members x :=
      (hmem a).trans ⟨fun ha => ha.resolve_right fun he => hab he.2, Or.inl⟩
    refine ⟨fun hx m => ?_, fun hx ha m => ?_, fun hx ha => ?_, fun m hm hp => ?_,
      by rw [hpending]; exact h.last⟩
    · have hbefore : ¬ R.In c x := fun hi => hx (hin.mpr hi)
      obtain ⟨hfalse, hnot⟩ := h.outside hbefore m
      rw [hpending]
      refine ⟨Bool.eq_false_iff.mpr fun hr => ?_, hnot⟩
      rcases (hroster m).mp hr with hr | ⟨rfl, ha, -⟩
      · rw [hfalse] at hr
        cases hr
      · exact hbefore (hpresent hab ha)
    · have hbefore := hin.mp hx
      have ha' := hown.mp ha
      rw [hroster, hmem, hpending, h.member hbefore ha' m]
      constructor
      · rintro ((hm | hp) | ⟨hxc, -, rfl⟩)
        · exact Or.inl (Or.inl hm)
        · exact Or.inr hp
        · exact Or.inl (Or.inr ⟨hxc, rfl⟩)
      · rintro ((hm | ⟨rfl, rfl⟩) | hp)
        · exact Or.inl (Or.inl hm)
        · exact Or.inr ⟨rfl, ha', rfl⟩
        · exact Or.inl (Or.inr hp)
    · rw [hpending]
      exact h.leaving (hin.mp hx) fun hm => ha (hown.mpr hm)
    · rw [hpending] at hp
      exact (hroster m).mpr (Or.inl (h.waiting m hm hp))

/-! ## parts -/

/-- a connection is told of a part when its account is a member -/
theorem mem_audience (ht : Tied t) (hc : c ∈ t.connections a) :
    c ∈ R.audience t ch ↔ a ∈ R.members ch := by
  unfold audience
  rw [List.mem_flatMap]
  refine ⟨fun ⟨m, hm, hcm⟩ => ?_, fun ha => ⟨a, ha, hc⟩⟩
  have hacc := ht c m hcm
  rw [ht c a hc] at hacc
  rw [Option.some.inj hacc]
  exact hm

/-- and once -/
theorem part_pending (ht : Tied t) (hnodup : ∀ m, (t.connections m).Nodup)
    (hmembers : (R.members ch).Nodup) : (R.part t ch b).pending c =
      if c ∈ R.audience t ch then R.pending c ++ [(ch, b)] else R.pending c := by
  have haudience : (R.audience t ch).Nodup := by
    refine List.nodup_flatMap.mpr ⟨fun m _ => hnodup m, hmembers.imp fun {m k} hmk c hm hk => ?_⟩
    have hck := ht c k hk
    rw [ht c m hm] at hck
    exact hmk (Option.some.inj hck)
  show R.pending c ++ List.replicate ((R.audience t ch).count c) (ch, b) = _
  rw [haudience.count]
  split
  · rfl
  · exact List.append_nil _

theorem Known.part (ht : Tied t) (hnodup : ∀ m, (t.connections m).Nodup)
    (hmembers : (R.members ch).Nodup) (hc : c ∈ t.connections a) (hb : b ∈ R.members ch)
    (hpresent : R.Present c a ch) (h : R.Known c a x) : (R.part t ch b).Known c a x := by
  have hpending : (R.part t ch b).pending c =
      if a ∈ R.members ch then R.pending c ++ [(ch, b)] else R.pending c :=
    (part_pending ht hnodup hmembers).trans (if_congr (mem_audience ht hc) rfl rfl)
  have hposted (p : ChanId × AccId) : p ∈ (R.part t ch b).pending c ↔
      p ∈ R.pending c ∨ p = (ch, b) ∧ a ∈ R.members ch := by
    rw [hpending]
    split
    · next ha => simp [ha]
    · next ha => simp [ha]
  refine ⟨fun hx m => ?_, fun hx ha m => ?_, fun hx ha => ?_, fun m hm hp => ?_, ?_⟩
  · obtain ⟨hfalse, hnot⟩ := h.outside hx m
    refine ⟨hfalse, fun hp => ?_⟩
    rcases (hposted _).mp hp with hp | ⟨he, ha⟩
    · exact hnot hp
    · cases he
      exact hx (hpresent.member ha).1
  · have ha' := mem_part.mp ha
    rw [mem_part, hposted]
    refine (h.member hx ha'.1 m).trans ⟨?_, ?_⟩
    · rintro (hm | hp)
      · by_cases he : x = ch ∧ m = b
        · obtain ⟨rfl, rfl⟩ := he
          exact Or.inr (Or.inr ⟨rfl, ha'.1⟩)
        · exact Or.inl ⟨hm, he⟩
      · exact Or.inr (Or.inl hp)
    · rintro (⟨hm, -⟩ | hp | ⟨he, -⟩)
      · exact Or.inl hm
      · exact Or.inr hp
      · cases he
        exact Or.inl hb
  · rw [hposted]
    by_cases hax : a ∈ R.members x
    · have he : x = ch ∧ a = b := by
        by_contra hne
        exact ha (mem_part.mpr ⟨hax, hne⟩)
      obtain ⟨rfl, rfl⟩ := he
      exact Or.inr ⟨rfl, hax⟩
    · exact Or.inl (h.leaving hx hax)
  · rcases (hposted _).mp hp with hp | ⟨he, ha⟩
    · exact h.waiting m hm hp
    · cases he
      exact (h.member (hpresent.member ha).1 ha _).mpr (Or.inl hb)
  · rw [hpending]
    split
    · next ha =>
      refine List.pairwise_append.mpr ⟨h.last, List.pairwise_singleton _ _, fun p hp q hq he hx => ?_⟩
      rw [List.mem_singleton.mp hq] at hx
      cases hx
      rw [he] at hp
      exact (hpresent.member ha).2 hp
    · exact h.last

/-! ## calls -/

/-- a connection runs a call, or loses it: of another account's part it is told only when its own
account is out, and then of no other -/
theorem Known.deliver (hkeyed : R.Keyed) (ht : Tied t) (hc : c ∈ t.connections a)
    (huid : t.uid b = t.uid a → b = a) (hch : R.index (R.name ch) = some ch)
    (hfirst : R.pending d = (ch, b) :: m) (hpresent : R.Present c a ch)
    (hgentle : c = d → b ≠ a → a ∉ R.members ch ∧ ∀ e, e ≠ a → (ch, e) ∉ m)
    (h : ∀ x, R.Known c a x) : ((R.take d).channelPart t d ch b).Known c a x := by
  have hhalls := channelPart_toHalls t d ch b (R.take d)
  have hmem (e : AccId) : e ∈ ((R.take d).channelPart t d ch b).members x ↔ e ∈ R.members x := by
    rw [hhalls]
    exact Iff.rfl
  have hname : ((R.take d).channelPart t d ch b).name = R.name := congrArg Halls.name hhalls
  have hpending : ((R.take d).channelPart t d ch b).pending c =
      if c = d then m else R.pending c := by
    rw [channelPart_pending]
    show (if c = d then (R.pending d).tail else R.pending c) = _
    rw [hfirst]
    rfl
  by_cases hd : c = d
  · subst hd
    rw [if_pos rfl] at hpending
    have hacc : t.account c = some a := ht c a hc
    have hold {p : ChanId × AccId} : p ∈ R.pending c ↔ p = (ch, b) ∨ p ∈ m := by
      rw [hfirst, List.mem_cons]
    obtain ⟨hown, hlast⟩ : (∀ q ∈ m, (ch, b) = (x, a) → q.1 ≠ x) ∧
        m.Pairwise fun p q => p = (x, a) → q.1 ≠ x := by
      have hall := (h x).last
      rw [hfirst] at hall
      exact List.pairwise_cons.mp hall
    -- the roster of the channel is dropped
    have hroster (e : AccId) : ((R.take c).channelPart t c ch b).roster c (some x) e =
        (!decide (x = ch) && R.roster c (some x) e) := by
      have hforget : ((R.take c).forget c ch).roster c (some x) e =
          (!decide (x = ch) && R.roster c (some x) e) := by
        show (!decide (c = c ∧ some x = some ch) && R.roster c (some x) e) = _
        simp
      unfold channelPart
      rw [hacc]
      dsimp only
      split
      · exact hforget
      · next hne =>
        have hknown : (R.take c).roster c (some ch) b = true :=
          (h ch).waiting b (fun he => hne (congrArg t.uid he)) (hold.mpr (Or.inl rfl))
        rw [if_pos hknown]
        exact hforget
    by_cases hx : x = ch
    · subst hx
      have hfalse (e : AccId) : ((R.take c).channelPart t c x b).roster c (some x) e = false := by
        rw [hroster]
        simp
      by_cases hab : b = a
      · -- its own part: the connection leaves
        subst hab
        have hnone (e : AccId) : (x, e) ∉ m := fun he => hown _ he rfl rfl
        have hout : ¬ ((R.take c).channelPart t c x b).In c x := by
          unfold In
          rw [hname]
          unfold channelPart
          rw [hacc]
          dsimp only
          rw [if_pos rfl]
          show (if c = c ∧ R.name x = R.name x then none else R.entered c (R.name x)) ≠ some x
          rw [if_pos ⟨rfl, rfl⟩]
          exact nofun
        refine ⟨fun _ e => ⟨hfalse e, ?_⟩, fun hi => absurd hi hout, fun hi => absurd hi hout,
          fun e _ hp => ?_, by rw [hpending]; exact hlast⟩
        · rw [hpending]
          exact hnone e
        · rw [hpending] at hp
          exact absurd hp (hnone e)
      · obtain ⟨hleft, hnone⟩ := hgentle rfl hab
        have hin : ((R.take c).channelPart t c x b).In c x ↔ R.In c x := by
          have hkept : ((R.take c).channelPart t c x b).entered = R.entered := by
            unfold channelPart
            rw [hacc]
            dsimp only
            rw [if_neg fun hu => hab (huid hu)]
            split <;> rfl
          unfold In
          rw [hname, hkept]
        refine ⟨fun hi e => ⟨hfalse e, ?_⟩, fun _ ha => absurd ((hmem a).mp ha) hleft,
          fun hi ha => ?_, fun e he hp => ?_, by rw [hpending]; exact hlast⟩
        · rw [hpending]
          exact fun hp => ((h x).outside (fun hi' => hi (hin.mpr hi')) e).2 (hold.mpr (Or.inr hp))
        · rw [hpending]
          rcases hold.mp ((h x).leaving (hin.mp hi) hleft) with he | hp
          · exact absurd (congrArg Prod.snd he).symm hab
          · exact hp
        · rw [hpending] at hp
          exact absurd hp (hnone e he)
    · have hin : ((R.take c).channelPart t c ch b).In c x ↔ R.In c x := by
        unfold In
        rw [hname]
        unfold channelPart
        rw [hacc]
        dsimp only
        split
        · -- a channel of the same name is none that the connection is in
          show (if c = c ∧ R.name x = R.name ch then none else R.entered c (R.name x)) = some x ↔ _
          by_cases hn : R.name x = R.name ch
          · rw [if_pos ⟨rfl, hn⟩]
            refine ⟨nofun, fun hi => ?_⟩
            have hindex := hkeyed.entered c _ x hi
            rw [hn, hch] at hindex
            exact absurd (Option.some.inj hindex).symm hx
          · rw [if_neg fun he => hn he.2]
        · split <;> exact Iff.rfl
      refine Known.same hin (fun e => ?_) (fun e => ?_) (by rw [hpending]; exact hlast) hmem (h x)
      · rw [hroster, decide_eq_false hx]
        rfl
      · rw [hpending, hold]
        exact ⟨Or.inr, fun hp => hp.resolve_left fun he => hx (congrArg Prod.fst he)⟩
  · rw [if_neg hd] at hpending
    have hother (e : AccId) := channelPart_other ch b (R.take d) hd (R.name x) (some x) e (t := t)
    refine Known.same (R := R) ?_ (fun e => (hother e).2) (fun e => by rw [hpending])
      (by rw [hpending]; exact (h x).last) hmem (h x)
    unfold In
    rw [hname, (hother a).1]
    exact Iff.rfl

theorem Known.create (hkeyed : R.Keyed) (h : R.Known c a x) : (R.create n).Known c a x := by
  by_cases hx : x = R.nextChan
  · have hout (hi : R.In c x ∨ (R.create n).In c x) : False := by
      have hent : ∃ k : Bytes, R.entered c k = some x := hi.elim (⟨_, ·⟩) (⟨_, ·⟩)
      obtain ⟨k, hk⟩ := hent
      exact Nat.lt_irrefl _ (hx ▸ (hkeyed.index k x (hkeyed.entered c k x hk)).2)
    have hnone (b : AccId) := h.outside (fun hi => hout (Or.inl hi)) b
    refine ⟨fun _ b => hnone b, fun hi => (hout (Or.inr hi)).elim,
      fun hi => (hout (Or.inr hi)).elim, fun b _ hp => absurd hp (hnone b).2, h.last⟩
  · have hin : (R.create n).In c x ↔ R.In c x := by
      have hname : (R.create n).name x = R.name x := if_neg hx
      unfold In
      rw [hname]
      exact Iff.rfl
    have hmem (b : AccId) : b ∈ (R.create n).members x ↔ b ∈ R.members x := by
      have hmembers : (R.create n).members x = R.members x := if_neg hx
      rw [hmembers]
    exact Known.same hin (fun _ => rfl) (fun _ => Iff.rfl) h.last hmem h

end

end Rooms

/-! ## the site -/

/-- what connections know of the members, in every state of a run -/
structure Site.RosterInv (s : Site) : Prop extends s.PresenceInv where
  nodup : ∀ x, (s.rooms.members x).Nodup
  blank : ∀ c, (s.reg.conn c).is_ready = false ∨ s.reg.nextConn ≤ c →
    ∀ p b, s.rooms.roster c p b = false
  known : ∀ c a ch, c ∈ (s.reg.acc a).connections → s.rooms.Known c a ch

/-- a connection that stays in a channel is told of no part, and one that leaves of one only -/
def SiteLabel.Gentle (s : Site) : SiteLabel → Prop
  | .deliver c => ∀ a b ch m, c ∈ (s.reg.acc a).connections → s.rooms.pending c = (ch, b) :: m →
    b ≠ a → a ∉ s.rooms.members ch ∧ ∀ e, e ≠ a → (ch, e) ∉ m
  | _ => True

section
variable {l : SiteLabel} {s s' : Site}

theorem SiteStep.blank (hl : l.Settled s) (h : s.RosterInv) (hstep : SiteStep l s s') (c : ConnId)
    (hc : (s'.reg.conn c).is_ready = false ∨ s'.reg.nextConn ≤ c) (p : Option ChanId) (b : AccId) :
    s'.rooms.roster c p b = false := by
  have hlink' := hstep.linkInv hl h.link
  have hbefore : (s.reg.conn c).is_ready = false ∨ s.reg.nextConn ≤ c := by
    rcases hstep.reg_cases with ⟨k, -, hk⟩ | hreg
    · exact hk.fresh hc
    · rw [hreg] at hc
      exact hc
  have hblank := h.blank c hbefore p b
  -- a join is shown to the connections of accounts only
  have hjoin {r : Reg} {R : Rooms} {x : ChanId} {a : AccId} (hlink : r.LinkInv)
      (hx : R.index (R.name x) = some x)
      (hfresh : (r.conn c).is_ready = false ∨ r.nextConn ≤ c) (hR : R.roster c p b = false) :
      (R.join r.ties x a).roster c p b = false := by
    refine Bool.eq_false_iff.mpr fun hr => ?_
    rcases (Rooms.mem_join_roster hlink.tied hx).mp hr with hr | ⟨-, ⟨hc, -⟩ | ⟨⟨m, -, -, hc⟩, -⟩⟩
    · rw [hR] at hr
      cases hr
    · exact hlink.not_fresh hc hfresh
    · exact hlink.not_fresh hc hfresh
  cases hstep with
  | @sys l r r' R hsys =>
    cases l with
    | connect =>
      have hnew : (!decide (c = r.nextConn) && R.roster c p b) = false := by
        rw [hblank, Bool.and_false]
      exact hnew
    | disconnect => exact hblank
    | conn d k =>
      cases k with
      | registerOld a =>
        have hall := Rooms.rejoin_inv (t := r'.ties) (a := a) (R := R)
          (I := fun R' => R'.Keyed ∧ R'.index = R.index ∧ R'.roster c p b = false)
          ⟨h.sound.keyed, rfl, hblank⟩ ?_
        · exact hall.2.2
        · rintro R' ch ⟨m, hm⟩ ⟨hkeyed', hindex, hnone⟩
          obtain ⟨y, hy, hch⟩ := h.sound.keyed.listed a m (some ch) hm
          cases hy
          have hch' := hkeyed'.index_name (hindex ▸ hch : R'.index m = some ch)
          exact ⟨hkeyed'.join hch', by rw [Rooms.join_index, hindex], hjoin hlink' hch' hc hnone⟩
      | _ => exact hblank
  | create => exact hblank
  | @join d a x r R hacc hch =>
    obtain ⟨m, hm⟩ := hch
    exact hjoin h.link (h.sound.keyed.index_name hm) hbefore hblank
  | part => exact hblank
  | rename => exact hblank
  | @deliver d x a m r R hfirst hlive =>
    have hne : c ≠ d := by
      rintro rfl
      have hpend : R.pending c = [] := (h.fresh c hbefore).2
      rw [hfirst] at hpend
      cases hpend
    show ((R.take d).channelPart r.ties d x a).roster c p b = false
    rw [(Rooms.channelPart_other x a (R.take d) hne [] p b).2]
    exact hblank
  | lose => exact hblank

theorem SiteStep.known (hl : l.Settled s) (hgentle : l.Gentle s) (h : s.RosterInv)
    (hstep : SiteStep l s s') {c : ConnId} {a : AccId} (hc : c ∈ (s'.reg.acc a).connections)
    (ch : ChanId) : s'.rooms.Known c a ch := by
  have hfresh (hr : (s.reg.conn c).is_ready = false ∨ s.reg.nextConn ≤ c) (x : ChanId) (b : AccId) :
      s.rooms.Known c b x :=
    Rooms.Known.blank (fun hi => by rw [Rooms.In, (h.fresh c hr).1] at hi; cases hi)
      (h.blank c hr (some x)) (h.fresh c hr).2
  cases hstep with
  | @sys l r r' R hsys =>
    have hlink' : r'.LinkInv := hsys.linkInv hl.unmerged h.link
    have hconn := hsys.connections hl.unmerged hc
    -- a connection of before, or one that knows nothing yet
    have hknown (x : ChanId) : R.Known c a x := by
      rcases hconn with hc | ⟨hr, -⟩
      · exact h.known c a x hc
      · exact hfresh (Or.inl hr) x a
    -- and one that was in the list before has entered the channels of its account
    have hpresent (hold : c ∈ (r.acc a).connections) (x : ChanId) (hm : a ∈ R.members x) : R.In c x :=
      ((h.present c a x hold).member hm).1
    cases l with
    | connect =>
      rcases hconn with hc | ⟨-, he | ⟨-, n, he⟩⟩
      · have hne : c ≠ r.nextConn := fun he => h.link.not_fresh hc (Or.inr (Nat.le_of_eq he.symm))
        refine Rooms.Known.same (R := R) ?_ (fun b => ?_) (fun _ => Iff.rfl) (hknown ch).last
          (fun _ => Iff.rfl) (hknown ch)
        · unfold Rooms.In
          show (if c = r.nextConn then none else R.entered c (R.name ch)) = some ch ↔ _
          rw [if_neg hne]
        · show (!decide (c = r.nextConn) && R.roster c (some ch) b) = _
          rw [decide_eq_false hne]
          rfl
      · cases he
      · cases he
    | disconnect d => exact hknown ch
    | conn d k =>
      cases k with
      | registerNew n =>
        exact Rooms.Known.same (R := R) Iff.rfl (fun _ => rfl) (fun _ => Iff.rfl) (hknown ch).last
          (fun _ => Iff.rfl) (hknown ch)
      | registerOld b =>
        have ha : a < r'.nextAcc := hlink'.made c a ((hlink'.mem_iff c a).mp hc).2.2
        have hb : b < r'.nextAcc := by
          refine Nat.lt_of_lt_of_le ?_ hsys.nextAcc_le
          cases hsys with
          | conn _ hconn =>
            cases hconn with
            | registerOld _ hacc => exact h.link.made d b hacc
        have hall := Rooms.rejoin_inv (t := r'.ties) (a := b) (R := R)
          (I := fun R' => R'.Keyed ∧ R'.index = R.index ∧ R'.pending = R.pending ∧
            ∀ x, R'.Known c a x ∧ (a ≠ b → a ∈ R'.members x → R'.In c x)) ?_ ?_
        · exact (hall.2.2.2 ch).1
        · refine ⟨h.sound.keyed, rfl, rfl, fun x => ⟨hknown x, fun hne hm => ?_⟩⟩
          rcases hconn with hc | ⟨-, he | ⟨-, n, he⟩⟩
          · exact hpresent hc x hm
          · cases he
            exact absurd rfl hne
          · cases he
        · rintro R' y ⟨n, hn⟩ ⟨hkeyed', hindex, hpending, hR'⟩
          obtain ⟨z, hz, hy⟩ := h.sound.keyed.listed b n (some y) hn
          cases hz
          have hy' := hkeyed'.index_name (hindex ▸ hy : R'.index n = some y)
          refine ⟨hkeyed'.join hy', by rw [Rooms.join_index, hindex],
            by rw [Rooms.join_pending, hpending], fun x => ⟨?_, fun hne hm => ?_⟩⟩
          · refine Rooms.Known.join hkeyed' hlink'.tied hy' hc (fun he => ?_) (hR' y).2 ?_ (hR' x).1
            · exact (hsys.registryInv h.sound.registry).uid_inj a b ha hb he
            · rintro rfl
              rw [hpending]
              rcases hconn with hc | ⟨hr, -⟩
              · exact hl n y hn c hc
              · have hnone : R.pending c = [] := (h.fresh c (Or.inl hr)).2
                rw [hnone]
                exact List.not_mem_nil
          · rw [Rooms.in_join_iff hlink'.tied hy' hc fun he => hne he.1]
            refine (hR' x).2 hne ?_
            exact ((Rooms.mem_join _ _ _ _).mp hm).resolve_right fun he => hne he.2
      | merge => exact hl.elim
      | _ => exact hknown ch
  | create hn =>
    exact Rooms.Known.create h.sound.keyed (h.known c a ch hc)
  | @join d b x r R hacc hch =>
    obtain ⟨n, hn⟩ := hch
    have ha : a < r.nextAcc := h.link.made c a ((h.link.mem_iff c a).mp hc).2.2
    refine Rooms.Known.join h.sound.keyed h.link.tied (h.sound.keyed.index_name hn) hc
      (fun he => h.sound.registry.uid_inj a b ha (h.link.made d b hacc) he)
      (fun _ hm => ((h.present c a x hc).member hm).1) ?_ (h.known c a ch hc)
    rintro rfl
    exact hl c hc
  | @part d b x r R hacc hch hmem =>
    exact Rooms.Known.part h.link.tied h.link.nodup (h.nodup x) hc hmem (h.present c a x hc)
      (h.known c a ch hc)
  | rename => exact hl.elim
  | @deliver d x b m r R hfirst hlive =>
    have hposted := h.posted d x b (by
      show (x, b) ∈ R.pending d
      rw [hfirst]
      exact List.mem_cons_self)
    have ha : a < r.nextAcc := h.link.made c a ((h.link.mem_iff c a).mp hc).2.2
    refine Rooms.Known.deliver h.sound.keyed h.link.tied hc
      (fun he => h.sound.registry.uid_inj b a hposted.2 ha he) hposted.1 hfirst
      (h.present c a x hc) ?_ fun x => h.known c a x hc
    rintro rfl hne
    exact hgentle a b x m hc hfirst hne
  | @lose d x b m r R hfirst hdead =>
    have hne : c ≠ d := by
      rintro rfl
      have hlive : (r.conn c).live = true := ((h.link.mem_iff c a).mp hc).1
      rw [hdead] at hlive
      cases hlive
    have hpending : (R.take d).pending c = R.pending c := if_neg hne
    have hknown := h.known c a ch hc
    exact Rooms.Known.same (R := R) Iff.rfl (fun _ => rfl) (fun _ => by rw [hpending])
      (by rw [hpending]; exact hknown.last) (fun _ => Iff.rfl) hknown

/-- **One step.**  Connections go on knowing the members of their channels. -/
theorem SiteStep.rosterInv (hl : l.Settled s) (hgentle : l.Gentle s) (h : s.RosterInv)
    (hstep : SiteStep l s s') : s'.RosterInv :=
  ⟨hstep.presenceInv hl h.toPresenceInv, hstep.membersNodup h.nodup, hstep.blank hl h,
    fun _ _ ch hc => hstep.known hl hgentle h hc ch⟩

end

/-! ## parts that wait -/

namespace Reg

section
variable {r r' : Reg} {l : SysLabel} {c : ConnId}

/-- a connection comes to an account before it is ready -/
theorem SysStep.sameAccount (hl : l.Unmerged) (h : r.LinkInv) (hstep : SysStep l r r') :
    (r'.conn c).m_account = (r.conn c).m_account ∨
      (r.conn c).is_ready = false ∨ r.nextConn ≤ c := by
  have hupd {d : ConnId} {f : ConnReg → ConnReg}
      (hf : (f (r.conn d)).m_account = (r.conn d).m_account) :
      ((r.updConn d f).conn c).m_account = (r.conn c).m_account := by
    rw [updConn_conn]
    by_cases hd : c = d
    · rw [if_pos hd, hf, hd]
    · rw [if_neg hd]
  cases hstep with
  | connect =>
    have hconn : r.connect.conn c =
        if c = r.nextConn then { ({} : Conn).reg with live := true } else r.conn c := rfl
    rw [hconn]
    by_cases hc : c = r.nextConn
    · exact Or.inr (Or.inr (Nat.le_of_eq hc.symm))
    · rw [if_neg hc]
      exact Or.inl rfl
  | @disconnect d =>
    rw [disconnect_conn]
    by_cases hd : c = d
    · rw [if_pos hd, hd]
      exact Or.inl rfl
    · rw [if_neg hd]
      exact Or.inl rfl
  | @conn d _ _ _ hlive hstep =>
    cases hstep with
    | @giveNick n =>
      exact Or.inl (hupd (f := fun k => { k with
        m_nick := n, setup_tasks := k.setup_tasks.clear .NICK }) rfl)
    | @clear t =>
      exact Or.inl (hupd (f := fun k => { k with setup_tasks := k.setup_tasks.clear t }) rfl)
    | refuse => exact Or.inl rfl
    | registerNew hfin =>
      rw [registerNew_conn]
      by_cases hd : c = d
      · exact Or.inr (Or.inl (hd ▸ hfin.1))
      · rw [if_neg hd]
        exact Or.inl rfl
    | registerOld hfin hacc =>
      rw [registerOld_conn]
      by_cases hd : c = d
      · exact Or.inr (Or.inl (hd ▸ hfin.1))
      · rw [if_neg hd]
        exact Or.inl rfl
    | rename => exact Or.inl rfl
    | @login a u _ hacc =>
      by_cases hd : c = d
      · refine Or.inr (Or.inl ?_)
        by_contra hready
        refine h.ready c (by simpa using hready) ?_
        rw [hd]
        exact hacc
      · left
        show (if c = d then _ else r.conn c : ConnReg).m_account = (r.conn c).m_account
        rw [if_neg hd]
    | @relogin a b _ hacc =>
      refine Or.inl (hupd (f := fun k => { k with
        m_account := k.m_account.getD a, logged_in := true }) ?_)
      show some ((r.conn d).m_account.getD a) = (r.conn d).m_account
      rw [hacc]
      rfl
    | merge => exact hl.elim

/-- a connection that lives at the end has lived since it was there -/
theorem SysStep.alive (hstep : SysStep l r r')
    (hc : (r'.conn c).live = true ∨ r'.nextConn ≤ c) :
    (r.conn c).live = true ∨ r.nextConn ≤ c := by
  cases hstep with
  | connect =>
    have hconn : r.connect.conn c =
        if c = r.nextConn then { ({} : Conn).reg with live := true } else r.conn c := rfl
    rcases hc with hc | hc
    · rw [hconn] at hc
      by_cases hx : c = r.nextConn
      · exact Or.inr (Nat.le_of_eq hx.symm)
      · rw [if_neg hx] at hc
        exact Or.inl hc
    · exact Or.inr (Nat.le_of_succ_le hc)
  | @disconnect d =>
    rw [(disconnect_next r d).1, disconnect_conn] at hc
    refine hc.imp_left fun hc => ?_
    split at hc
    · cases hc
    · exact hc
  | @conn d k _ _ hlive hstep =>
    have hnext : r'.nextConn = r.nextConn := by cases hstep <;> rfl
    rw [hstep.live c, hnext] at hc
    exact hc

end

end Reg

/-- how often a connection has still to be told that another account has left a channel -/
def Site.owed (c : ConnId) (ch : ChanId) (b : AccId) (s : Site) : Nat :=
  if (s.reg.conn c).m_account = some b then 0 else (s.rooms.pending c).count (ch, b)

/-- is the connection in the channel, with another account -/
def Site.watches (c : ConnId) (ch : ChanId) (b : AccId) (s : Site) : Bool :=
  (s.reg.conn c).live && (s.reg.conn c).is_ready &&
    (s.reg.conn c).m_account.any fun a => a != b && (s.rooms.members ch).contains a

/-- is the step one that runs a call -/
def SiteLabel.isDeliver : SiteLabel → Bool
  | .deliver _ => true
  | _ => false

section
variable {l : SiteLabel} {s s' : Site} {c : ConnId} {ch : ChanId} {b : AccId}

theorem Site.watches_iff : s.watches c ch b = true ↔
    ∃ a, s.reg.Online c a ∧ a ≠ b ∧ a ∈ s.rooms.members ch := by
  unfold Site.watches Reg.Online
  rw [Bool.and_eq_true, Bool.and_eq_true, Option.any_eq_true]
  simp only [Bool.and_eq_true, bne_iff_ne, List.contains_iff_mem]
  constructor
  · rintro ⟨⟨hlive, hready⟩, a, hacc, hne, ha⟩
    exact ⟨a, ⟨hlive, hready, hacc⟩, hne, ha⟩
  · rintro ⟨a, ⟨hlive, hready, hacc⟩, hne, ha⟩
    exact ⟨⟨hlive, hready⟩, a, hacc, hne, ha⟩

theorem SiteStep.keepsMember (hl : l.isRename = false) (hpart : l.isPart = false) (hs : s.Sound)
    (hstep : SiteStep l s s') (hb : b ∈ s.rooms.members ch) : b ∈ s'.rooms.members ch := by
  cases hstep with
  | @sys l r r' R hsys =>
    cases l with
    | connect => exact hb
    | disconnect => exact hb
    | conn d k =>
      cases k with
      | registerOld a =>
        exact Rooms.rejoin_inv (I := fun R' => b ∈ R'.members ch) hb fun R' x _ h =>
          (Rooms.mem_join _ _ _ _).mpr (Or.inl h)
      | _ => exact hb
  | @create d n r R =>
    have hlt : ch < R.nextChan := (hs.keyed.index _ ch (hs.keyed.members ch b hb)).2
    show b ∈ (if ch = R.nextChan then [] else R.members ch)
    rw [if_neg (Nat.ne_of_lt hlt)]
    exact hb
  | join => exact (Rooms.mem_join _ _ _ _).mpr (Or.inl hb)
  | part => cases hpart
  | rename => cases hl
  | @deliver d x a m r R =>
    show b ∈ ((R.take d).channelPart r.ties d x a).toHalls.members ch
    rw [Rooms.channelPart_toHalls]
    exact hb
  | lose => exact hb

theorem SiteStep.keepsPending (hpart : l.isPart = false) (hdel : l.isDeliver = false)
    (hstep : SiteStep l s s') : s'.rooms.pending = s.rooms.pending := by
  cases hstep with
  | @sys l r r' R hsys =>
    cases l with
    | connect => rfl
    | disconnect => rfl
    | conn d k =>
      cases k with
      | registerOld a =>
        exact Rooms.rejoin_inv (I := fun R' => R'.pending = R.pending) rfl fun R' x _ h =>
          (Rooms.join_pending _ _ _ _).trans h
      | _ => rfl
  | create => rfl
  | join => exact Rooms.join_pending _ _ _ _
  | part => cases hpart
  | rename => rfl
  | deliver => cases hdel
  | lose => cases hdel

theorem SiteStep.owed (hl : l.Settled s) (h : s.PresenceInv) (hpart : l.isPart = false)
    (hdel : l.isDeliver = false) (hstep : SiteStep l s s') :
    s'.owed c ch b = s.owed c ch b := by
  have hpending := hstep.keepsPending hpart hdel
  have hacc : (s'.reg.conn c).m_account = (s.reg.conn c).m_account ∨ s.rooms.pending c = [] := by
    rcases hstep.reg_cases with ⟨k, rfl, hk⟩ | hreg
    · exact (hk.sameAccount hl.unmerged h.link).imp_right fun hfresh => (h.fresh c hfresh).2
    · rw [hreg]
      exact Or.inl rfl
  unfold Site.owed
  rw [hpending]
  rcases hacc with hacc | hnone
  · rw [hacc]
  · rw [hnone, List.count_nil, ite_self, ite_self]

/-- a part is owed to the connections of the other members -/
theorem SiteStep.owed_part {d : ConnId} {e : AccId} {x : ChanId} (h : s.RosterInv)
    (hstep : SiteStep (.part d e x) s s') : s'.owed c ch b = s.owed c ch b +
      if (x = ch ∧ e = b) ∧ s.watches c ch b = true then 1 else 0 := by
  have hwatches : s.watches c ch b = true ↔ _ := Site.watches_iff
  cases hstep with
  | @part _ _ _ r R hacc hch hmem =>
    have hpending : (R.part r.ties x e).pending c =
        if c ∈ R.audience r.ties x then R.pending c ++ [(x, e)] else R.pending c :=
      Rooms.part_pending h.link.tied h.link.nodup (h.nodup x)
    show (if (r.conn c).m_account = some b then 0 else ((R.part r.ties x e).pending c).count (ch, b)) =
      (if (r.conn c).m_account = some b then 0 else (R.pending c).count (ch, b)) + _
    by_cases hown : (r.conn c).m_account = some b
    · rw [if_pos hown, if_pos hown, if_neg]
      rintro ⟨-, hw⟩
      obtain ⟨a, hon, hne, -⟩ := hwatches.mp hw
      have hacc : (r.conn c).m_account = some a := hon.2.2
      rw [hown] at hacc
      exact hne (Option.some.inj hacc).symm
    · rw [if_neg hown, if_neg hown, hpending]
      by_cases hin : c ∈ R.audience r.ties x
      · obtain ⟨a, ha, hca⟩ := List.mem_flatMap.mp hin
        have hon : r.Online c a := (h.link.mem_iff c a).mp hca
        rw [if_pos hin, List.count_append, List.count_singleton]
        congr 1
        refine if_congr ⟨fun he => ?_, fun he => ?_⟩ rfl rfl
        · cases beq_iff_eq.mp he
          refine ⟨⟨rfl, rfl⟩, hwatches.mpr ⟨a, hon, ?_, ha⟩⟩
          rintro rfl
          exact hown hon.2.2
        · rw [he.1.1, he.1.2]
          exact beq_self_eq_true _
      · rw [if_neg hin, if_neg]
        · rfl
        · rintro ⟨⟨rfl, rfl⟩, hw⟩
          obtain ⟨a, hon, -, ha⟩ := hwatches.mp hw
          exact hin (List.mem_flatMap.mpr ⟨a, ha, (h.link.mem_iff c a).mpr hon⟩)

theorem SiteStep.part_members {d : ConnId} {e : AccId} {x : ChanId}
    (hstep : SiteStep (.part d e x) s s') : e ∈ s.rooms.members x ∧
      ∀ ch b, b ∈ s'.rooms.members ch ↔ b ∈ s.rooms.members ch ∧ ¬ (ch = x ∧ b = e) := by
  cases hstep with
  | part hacc hch hmem => exact ⟨hmem, fun _ _ => Rooms.mem_part⟩

end

/-! ## runs of the server -/

namespace Worker
open World client_connection

/-- does the connection, when it runs the next part, drop a roster that it needs: it stays in the
channel, or has to be told of one more part of another account -/
def dropsNext (c : ConnId) (w : World) : Bool :=
  (w.conn c).live && (partNext c w).isSome && (w.rooms.pending c).head?.any fun p =>
    (w.conn c).m_account.any fun a => a != p.2 &&
      ((w.conn c).channel_members.getD (some p.1) ∅).contains p.2 &&
      ((w.chan p.1).m_members.contains a ||
        (w.rooms.pending c).tail.any fun q => q.1 == p.1 && q.2 != a)

def dropsRoster (w : World) : Event → Bool
  | .deliver c => dropsNext c w
  | _ => false

/-- does the account leave the channel in this event, while the connection is in it -/
def leaves (env : Env) (c : ConnId) (ch : ChanId) (b : AccId) (w : World) (ev : Event) : Nat :=
  match step env w ev with
  | .ok w' =>
    if w.site.watches c ch b ∧ b ∈ (w.chan ch).m_members ∧ b ∉ (w'.chan ch).m_members then 1 else 0
  | .error _ => 0

/-- the line that tells of another account's part -/
def partLine (ev : QEventChannelPart) (b : AccId) (w : World) : Bytes :=
  ascii ":" ++ w.accPrefix b [] ++ ascii " PART #" ++ (w.chan ev.channel).m_name ++
    (if ev.message = [] then [] else ascii " :" ++ ev.message) ++ crlf

/-- how often the event sends that line to the connection -/
def partLines (c : ConnId) (ch : ChanId) (b : AccId) (w : World) : Event → Nat
  | .deliver d =>
    if d = c ∧ (w.conn c).m_account ≠ some b then
      (partNext c w).elim 0 fun ev =>
        if ev.channel = ch ∧ ev.account = some b then
          match deliver c w with
          | .ok w' => (w'.out.drop w.out.length).count (c, partLine ev b w)
          | .error _ => 0
        else 0
    else 0
  | _ => 0

section
variable {env : Env} {w w' : World} {ev : Event} {evs : List Event} {c : ConnId} {a b : AccId}
  {ch : ChanId}

theorem Allowed.gentle {l : SiteLabel} {s : Site} (hinv : w.site.RosterInv)
    (hdrop : dropsRoster w ev = false) (h : Allowed env w ev l s) : l.Gentle s := by
  cases l with
  | deliver d =>
    cases ev with
    | deliver c =>
      obtain ⟨rfl, rfl, hnext⟩ := h
      intro a b ch m hc hfirst hne
      have hon : w.reg.Online d a := (hinv.link.mem_iff d a).mp hc
      have hlive : (w.conn d).live = true := hon.1
      have hacc : (w.conn d).m_account = some a := hon.2.2
      replace hfirst : w.rooms.pending d = (ch, b) :: m := hfirst
      have hknown : ((w.conn d).channel_members.getD (some ch) ∅).contains b = true := by
        refine (hinv.known d a ch hc).waiting b hne ?_
        show (ch, b) ∈ w.rooms.pending d
        rw [hfirst]
        exact List.mem_cons_self
      replace hdrop : dropsNext d w = false := hdrop
      unfold dropsNext at hdrop
      rw [hlive, hnext, hfirst, hacc] at hdrop
      replace hdrop : (a != b && ((w.conn d).channel_members.getD (some ch) ∅).contains b &&
        ((w.chan ch).m_members.contains a || m.any fun q => q.1 == ch && q.2 != a)) = false := hdrop
      rw [hknown, bne_iff_ne.mpr (Ne.symm hne), Bool.true_and, Bool.true_and,
        Bool.or_eq_false_iff] at hdrop
      refine ⟨fun hm => ?_, fun e he hem => ?_⟩
      · have htrue : (w.chan ch).m_members.contains a = true := List.contains_iff_mem.mpr hm
        rw [hdrop.1] at htrue
        cases htrue
      · have hfalse := List.any_eq_false.mp hdrop.2 (ch, e) hem
        exact hfalse (by simpa using he)
    | line c line =>
      obtain ⟨-, cmd, args, -, hsite⟩ := h
      exact hsite.elim
    | _ => cases h
  | _ => trivial

theorem Started.rosterInv (h : Started w) : w.site.RosterInv := by
  refine ⟨h.presenceInv, h.distinct, fun c _ p b => ?_, fun c a ch hc => ?_⟩
  · show ((w.conn c).channel_members.getD p ∅).contains b = false
    rw [(h.outside c).2]
    simp
  · replace hc : c ∈ (w.acc a).connections := hc
    rw [h.unlisted a] at hc
    cases hc

theorem step_rosterInv (h : w.site.RosterInv) (hlogin : mergesLogin env w ev = false)
    (hren : renamesChannel w ev = false) (hearly : joinsEarly env w ev = false)
    (hdrop : dropsRoster w ev = false) (hs : step env w ev = .ok w') : w'.site.RosterInv := by
  obtain ⟨ls, hchain⟩ := step_site hs
  exact hchain.inv (I := fun s => s.RosterInv) (P := fun _ => True)
    (fun l s s' _ hI hstep => hstep.1.rosterInv (hstep.2.settled h.toPresenceInv hlogin hren hearly)
      (hstep.2.gentle h hdrop) hI) (fun _ _ => trivial) h

/-- a PART takes one account out of one channel and does nothing else -/
theorem part_alone {ls : List SiteLabel} {s' : Site} (hpart : partsMember w ev = true)
    (hchain : Chain (fun l s s' => SiteStep l s s' ∧ Allowed env w ev l s) ls w.site s') :
    s' = w.site ∨ ∃ d e x, SiteStep (.part d e x) w.site s' := by
  have hlabel (l : SiteLabel) (s : Site) (h : Allowed env w ev l s) :
      ∃ d e x, l = .part d e x ∧ s = w.site := by
    cases ev with
    | line c line =>
      obtain ⟨-, cmd, args, hcmd, hsite⟩ := h
      replace hpart : ((w.conn c).live && (lineCommand c line w).any fun q =>
        !(partTargets c q.1 q.2 (handlerWorld c line w)).isEmpty) = true := hpart
      rw [hcmd, Bool.and_eq_true] at hpart
      replace hpart : (!(partTargets c cmd args (handlerWorld c line w)).isEmpty) = true := hpart.2
      cases cmd with
      | PART =>
        cases l with
        | part d e x => exact ⟨d, e, x, rfl, hsite.2.2.trans (site_handlerWorld line)⟩
        | sys k =>
          cases k with
          | conn d k => exact hsite.2.1.elim
          | _ => exact hsite.elim
        | create d n => exact absurd hsite.2.1 List.not_mem_nil
        | join d e x =>
          obtain ⟨-, -, -, ⟨n, hn, -⟩, -⟩ := hsite
          exact absurd hn List.not_mem_nil
        | rename d x n => cases hsite.2.1
        | deliver d => exact hsite.elim
      | _ => cases hpart
    | _ => cases hpart
  cases hchain with
  | nil => exact Or.inl rfl
  | cons h hs =>
    obtain ⟨d, e, x, rfl, -⟩ := hlabel _ _ h.2
    obtain ⟨hmem, hafter⟩ := h.1.part_members
    cases hs with
    | nil => exact Or.inr ⟨d, e, x, h.1⟩
    | cons h2 =>
      -- a second one would start where the first one did
      obtain ⟨-, -, -, -, hsame⟩ := hlabel _ _ h2.2
      rw [← hsame] at hmem
      exact absurd ⟨rfl, rfl⟩ ((hafter x e).mp hmem).2

/-- running a call takes it out of the queue and posts none -/
theorem deliver_queue {d : ConnId} (h : deliver d w = .ok w') :
    w'.queue = w.queue.eraseP fun p => p.1 == d := by
  unfold deliver at h
  split at h
  · next hnone =>
    cases h
    exact (List.eraseP_of_forall_not (List.find?_eq_none.mp hnone)).symm
  · next x call hfirst =>
    have hcall (w1 : World) : Sat (fun _ => True) (fun w' => w'.queue = w1.queue)
        (queuedCall d call w1) := by
      cases call with
      | channel_part ev =>
        show Sat _ _ (channel_part d ev w1)
        unfold channel_part
        exact Sat.bind_any fun a => Sat.bind_any fun me => Sat.ite (fun _ => rfl) fun _ =>
          Sat.ite (fun _ => rfl) fun _ => rfl
      | change_nick ev =>
        show Sat _ _ (change_nick d ev w1)
        unfold change_nick
        refine Sat.ite (fun _ => Sat.ite (fun _ => rfl) fun _ => rfl) fun _ => ?_
        exact Sat.bind_any fun a => rfl
      | channel_rename ev =>
        show (channel_rename d ev w1).queue = w1.queue
        unfold channel_rename
        dsimp only
        split
        · rfl
        · split <;> rfl
    dsimp only at h
    split at h
    · exact (hcall _).of_ok h
    · cases h
      rfl

/-- a connection that runs another account's part, and knows the account, sends one line -/
theorem deliver_out {ev : QEventChannelPart} (hnext : partNext c w = some ev) (hon : w.reg.Online c a)
    (hb : ev.account = some b) (huid : (w.acc b).m_uid ≠ (w.acc a).m_uid)
    (hknown : ((w.conn c).channel_members.getD (some ev.channel) ∅).contains b = true)
    (h : deliver c w = .ok w') : w'.out = w.out ++ [(c, partLine ev b w)] := by
  have hlive : (w.conn c).live = true := hon.1
  have hacc : (w.conn c).m_account = some a := hon.2.2
  unfold partNext at hnext
  split at hnext
  · next d ev' hfirst =>
    cases hnext
    unfold deliver at h
    rw [hfirst] at h
    replace h : (if (w.conn c).live then
      channel_part c ev { w with queue := w.queue.eraseP fun p => p.1 == c }
      else .ok { w with queue := w.queue.eraseP fun p => p.1 == c }) = .ok w' := h
    rw [if_pos hlive] at h
    unfold channel_part at h
    dsimp only at h
    rw [hb] at h
    obtain ⟨x, hx, h⟩ := bind_eq_ok.mp h
    cases hx
    rw [hacc] at h
    obtain ⟨y, hy, h⟩ := bind_eq_ok.mp h
    cases hy
    rw [if_neg huid, if_pos hknown] at h
    cases h
    rfl
  · cases hnext

/-- the parts that wait for a connection, after a call was run -/
theorem pending_deliver {d : ConnId} (h : deliver d w = .ok w') : w'.rooms.pending c =
    if c = d ∧ ((partNext d w).bind fun ev => ev.account).isSome then (w.rooms.pending d).tail
    else w.rooms.pending c := by
  have hqueue : w'.rooms.pending c = (w.queue.eraseP fun p => p.1 == d).filterMap (partFor c) := by
    rw [← deliver_queue h]
    rfl
  rw [hqueue]
  unfold partNext
  cases hfirst : w.queue.find? fun p => p.1 == d with
  | none =>
    rw [List.eraseP_of_forall_not (List.find?_eq_none.mp hfirst), if_neg fun hc => by cases hc.2]
    rfl
  | some p =>
    obtain ⟨x, call⟩ := p
    have hx : x = d := by simpa using List.find?_some hfirst
    rw [pending_erase hfirst c]
    refine if_congr (and_congr_right fun _ => ?_) rfl rfl
    cases call with
    | channel_part ev =>
      have hpart : partFor d (x, .channel_part ev) = ev.account.map fun a => (ev.channel, a) :=
        if_pos hx
      rw [hpart, Option.isSome_map]
      exact Iff.rfl
    | _ => exact ⟨nofun, nofun⟩

/-- a call that is run pays one line, when it was owed -/
theorem deliver_owed {d : ConnId} (h : w.site.RosterInv)
    (halive : (w.conn c).live = true ∨ w.nextConn ≤ c) (hs : deliver d w = .ok w') :
    w.site.owed c ch b = partLines c ch b w (.deliver d) + w'.site.owed c ch b := by
  have hreg : w'.reg = w.reg := deliver_sat.of_ok hs
  have hacc : (w'.conn c).m_account = (w.conn c).m_account := m_account_eq hreg c
  show (if (w.conn c).m_account = some b then 0 else (w.rooms.pending c).count (ch, b)) =
    (if d = c ∧ (w.conn c).m_account ≠ some b then _ else 0) +
      if (w'.conn c).m_account = some b then 0 else (w'.rooms.pending c).count (ch, b)
  rw [hacc]
  by_cases hown : (w.conn c).m_account = some b
  · rw [if_pos hown, if_pos hown, if_neg fun hc => hc.2 hown]
  rw [if_neg hown, if_neg hown, pending_deliver hs]
  by_cases hd : d = c
  · subst hd
    rw [if_pos ⟨rfl, hown⟩]
    cases hnext : partNext d w with
    | none =>
      rw [if_neg fun hc => by cases hc.2]
      exact (Nat.zero_add _).symm
    | some ev =>
      cases hb : ev.account with
      | none =>
        rw [if_neg fun hc => by rw [Option.bind_some, hb] at hc; cases hc.2]
        show _ = (if ev.channel = ch ∧ ev.account = some b then _ else 0) + _
        have hnone : ¬ (ev.channel = ch ∧ ev.account = some b) := fun hc => by
          rw [hb] at hc
          cases hc.2
        rw [if_neg hnone]
        exact (Nat.zero_add _).symm
      | some e =>
        obtain ⟨l, hpending⟩ := partNext_pending hnext hb
        rw [if_pos ⟨rfl, by rw [Option.bind_some, hb]; rfl⟩, hpending]
        show ((ev.channel, e) :: l).count (ch, b) =
          (if ev.channel = ch ∧ ev.account = some b then _ else 0) + l.count (ch, b)
        rw [List.count_cons, Nat.add_comm]
        congr 1
        by_cases hfirst : ev.channel = ch ∧ ev.account = some b
        · -- the connection is of another account, and knows the one that left
          obtain ⟨rfl, hb'⟩ := hfirst
          rw [hb] at hb'
          cases hb'
          have hmem : (ev.channel, b) ∈ w.site.rooms.pending d := by
            show (ev.channel, b) ∈ w.rooms.pending d
            rw [hpending]
            exact List.mem_cons_self
          have hnot : ¬ ((w.reg.conn d).is_ready = false ∨ w.reg.nextConn ≤ d) := fun hfresh => by
            have hnone := (h.fresh d hfresh).2
            rw [hnone] at hmem
            cases hmem
          obtain ⟨hready, hlt⟩ := not_or.mp hnot
          have hready : (w.reg.conn d).is_ready = true := by simpa using hready
          obtain ⟨a, ha⟩ := Option.ne_none_iff_exists'.mp (h.link.ready d hready)
          have hon : w.reg.Online d a := ⟨halive.resolve_right hlt, hready, ha⟩
          have hne : b ≠ a := by
            rintro rfl
            exact hown ha
          have huid : (w.acc b).m_uid ≠ (w.acc a).m_uid := fun he =>
            hne (h.sound.registry.uid_inj b a (h.posted d ev.channel b hmem).2
              (h.link.made d a ha) he)
          have hknown := (h.known d a ev.channel ((h.link.mem_iff d a).mpr hon)).waiting b hne hmem
          have hout := deliver_out hnext hon hb huid hknown hs
          rw [if_pos (beq_self_eq_true _), if_pos ⟨rfl, hb⟩, hs]
          dsimp only
          rw [hout, List.drop_left, List.count_singleton_self]
        · rw [if_neg hfirst, if_neg]
          intro he
          cases beq_iff_eq.mp he
          exact hfirst ⟨rfl, hb⟩
  · rw [if_neg fun hc => hd hc.1, if_neg fun hc => hd hc.1.symm, Nat.zero_add]

/-- **One event.**  Every leave is owed to the connection until it has sent the line. -/
theorem step_owed (h : w.site.RosterInv) (hlogin : mergesLogin env w ev = false)
    (hren : renamesChannel w ev = false) (hearly : joinsEarly env w ev = false)
    (hdrop : dropsRoster w ev = false) (halive : (w.conn c).live = true ∨ w.nextConn ≤ c)
    (hs : step env w ev = .ok w') : w.site.owed c ch b + leaves env c ch b w ev =
      partLines c ch b w ev + w'.site.owed c ch b := by
  obtain ⟨ls, hchain⟩ := step_site hs
  have hleaves : leaves env c ch b w ev = if w.site.watches c ch b ∧ b ∈ w.site.rooms.members ch ∧
      b ∉ w'.site.rooms.members ch then 1 else 0 := by
    unfold leaves
    rw [hs]
    rfl
  have hsettled {l : SiteLabel} {s : Site} (hl : Allowed env w ev l s) : l.Settled s :=
    hl.settled h.toPresenceInv hlogin hren hearly
  rw [hleaves]
  by_cases hpart : partsMember w ev = true
  · have hzero : partLines c ch b w ev = 0 := by
      cases ev with
      | line => rfl
      | _ => cases hpart
    rw [hzero, Nat.zero_add]
    rcases part_alone hpart hchain with hsame | ⟨d, e, x, hstep⟩
    · rw [hsame, if_neg fun hc => hc.2.2 hc.2.1]
      rfl
    · rw [hstep.owed_part h]
      obtain ⟨hmem, hafter⟩ := hstep.part_members
      congr 1
      refine if_congr ⟨?_, ?_⟩ rfl rfl
      · rintro ⟨hw, hb, hnot⟩
        by_contra hne
        exact hnot ((hafter ch b).mpr ⟨hb, fun he => hne ⟨⟨he.1.symm, he.2.symm⟩, hw⟩⟩)
      · rintro ⟨⟨rfl, rfl⟩, hw⟩
        exact ⟨hw, hmem, fun hb => ((hafter x e).mp hb).2 ⟨rfl, rfl⟩⟩
  · have hnot : partsMember w ev = false := Bool.not_eq_true _ ▸ hpart
    -- nobody leaves
    have hstay : b ∈ w.site.rooms.members ch → b ∈ w'.site.rooms.members ch := fun hb => by
      have hall := hchain.inv (I := fun s => s.Sound ∧ b ∈ s.rooms.members ch) (P := fun _ => True)
        (fun l s s' _ hI hstep =>
          have hl := (hsettled hstep.2).isRename
          ⟨hstep.1.sound hl hI.1, hstep.1.keepsMember hl (hstep.2.not_part hnot) hI.1 hI.2⟩)
        (fun _ _ => trivial) ⟨h.sound, hb⟩
      exact hall.2
    rw [if_neg fun hc => hc.2.2 (hstay hc.2.1), Nat.add_zero]
    have hsame (hdel : ∀ l s, Allowed env w ev l s → l.isDeliver = false) :
        w'.site.owed c ch b = w.site.owed c ch b := by
      have hall := hchain.inv (I := fun s => s.PresenceInv ∧ s.owed c ch b = w.site.owed c ch b)
        (P := fun _ => True) (fun l s s' _ hI hstep =>
          have hl := hsettled hstep.2
          ⟨hstep.1.presenceInv hl hI.1,
            (hstep.1.owed hl hI.1 (hstep.2.not_part hnot) (hdel l s hstep.2)).trans hI.2⟩)
        (fun _ _ => trivial) ⟨h.toPresenceInv, rfl⟩
      exact hall.2
    cases ev with
    | deliver d => exact deliver_owed h halive hs
    | line d line =>
      rw [hsame fun l s hl => ?_]
      · exact (Nat.zero_add _).symm
      · cases l with
        | deliver e =>
          obtain ⟨-, cmd, args, -, hsite⟩ := hl
          exact hsite.elim
        | _ => rfl
    | _ =>
      rw [hsame fun l s hl => ?_]
      · exact (Nat.zero_add _).symm
      · cases l with
        | deliver e => exact hl.elim
        | _ => rfl

/-- **Rosters.**  In every run of a server without RENAME and late logins, in which no account joins a
channel that one of its connections has still to leave and no connection drops a roster that it
needs: every leave of another account from a channel that a ready connection is in has sent it one
PART line or has a call that waits; and when no `channel_part` waits, the rosters are the member
lists. -/
theorem roster_agrees (hstart : Started w)
    (hlogin : AllSteps (step env) (fun w ev => mergesLogin env w ev = false) w evs)
    (hren : AllSteps (step env) (fun w ev => renamesChannel w ev = false) w evs)
    (hearly : AllSteps (step env) (fun w ev => joinsEarly env w ev = false) w evs)
    (hdrop : AllSteps (step env) (fun w ev => dropsRoster w ev = false) w evs)
    (hrun : run (step env) w evs = .ok w') (hon : w'.reg.Online c a) (ch : ChanId) :
    (∀ b, b ≠ a → tally (step env) (leaves env c ch b) w evs =
      tally (step env) (partLines c ch b) w evs + (w'.rooms.pending c).count (ch, b)) ∧
    ((∀ d e, (d, .channel_part e) ∉ w'.queue) → w'.rooms.pending c = [] ∧
      ((w'.conn c).channels[(w'.chan ch).m_name]? = some ch → ∀ b,
        ((w'.conn c).channel_members.getD (some ch) ∅).contains b = true ↔
          b ∈ (w'.chan ch).m_members)) := by
  have hC := hlogin.and (hren.and (hearly.and hdrop))
  have hkeep (w : World) (ev : Event) (w' : World) (h : w.site.RosterInv)
      (hC : mergesLogin env w ev = false ∧ renamesChannel w ev = false ∧
        joinsEarly env w ev = false ∧ dropsRoster w ev = false) (hs : step env w ev = .ok w') :
      w'.site.RosterInv := step_rosterInv h hC.1 hC.2.1 hC.2.2.1 hC.2.2.2 hs
  have hinv : w'.site.RosterInv := run_inv hkeep hstart.rosterInv hC hrun
  refine ⟨fun b hb => ?_, fun hquiet => ?_⟩
  · -- the connection has been there all along
    have halive : AllSteps (step env)
        (fun w _ => (w.conn c).live = true ∨ w.nextConn ≤ c) w evs := by
      refine (allSteps_back (fun w ev w' hs h => ?_) hrun (Or.inl hon.1)).2
      obtain ⟨ls, hchain, -⟩ := step_chain hs
      by_contra hdead
      exact hchain.inv (I := fun r => ¬ ((r.conn c).live = true ∨ r.nextConn ≤ c))
        (P := fun _ => True) (fun _ _ _ _ hI hstep h => hI (hstep.alive h)) (fun _ _ => trivial)
        hdead h
    have hbalance : w.site.owed c ch b + tally (step env) (leaves env c ch b) w evs =
        tally (step env) (partLines c ch b) w evs + w'.site.owed c ch b :=
      tally_balance (I := fun w => w.site.RosterInv)
      (fun w ev w' h hC hs => ⟨hkeep w ev w' h hC.1 hs,
        step_owed h hC.1.1 hC.1.2.1 hC.1.2.2.1 hC.1.2.2.2 hC.2 hs⟩)
      hstart.rosterInv (hC.and halive) hrun
    have hnone : w.site.owed c ch b = 0 := by
      have hpending : w.site.rooms.pending c = [] := by
        show w.queue.filterMap (partFor c) = []
        rw [hstart.quiet]
        rfl
      unfold Site.owed
      rw [hpending, List.count_nil, ite_self]
    have hrest : w'.site.owed c ch b = (w'.rooms.pending c).count (ch, b) :=
      if_neg fun he => hb (Option.some.inj (hon.2.2.symm.trans he)).symm
    rw [hnone, hrest, Nat.zero_add] at hbalance
    exact hbalance
  · have hnone : w'.rooms.pending c = [] := by
      refine List.filterMap_eq_nil_iff.mpr fun p hp => ?_
      obtain ⟨d, call⟩ := p
      cases call with
      | channel_part e => exact absurd hp (hquiet d e)
      | _ => rfl
    refine ⟨hnone, fun hin b => ?_⟩
    have hknown := hinv.known c a ch ((hinv.link.mem_iff c a).mpr hon)
    have hmem : a ∈ w'.site.rooms.members ch := by
      by_contra hm
      have hleaving : (ch, a) ∈ w'.rooms.pending c := hknown.leaving hin hm
      rw [hnone] at hleaving
      cases hleaving
    refine (hknown.member hin hmem b).trans ⟨fun h => h.resolve_right fun hp => ?_, Or.inl⟩
    replace hp : (ch, b) ∈ w'.rooms.pending c := hp
    rw [hnone] at hp
    cases hp

end

theorem bob_entered : LetsIn Env.ascii 1 "bob" (letIn Env.ascii 0 false "ann" World.empty) :=
  letsIn_second (by decide) (by decide) rfl

/-- three clients are in a channel; two of them leave, one after the other -/
def twoLeave : List Event :=
  registration 0 false "ann" ++ registration 1 false "bob" ++ registration 2 false "cat" ++
    [.line 0 (ascii "JOIN #x"), .line 1 (ascii "JOIN #x"), .line 2 (ascii "JOIN #x"),
      .line 1 (ascii "PART #x"), .deliver 0, .deliver 1, .deliver 2,
      .line 2 (ascii "PART #x"), .deliver 0, .deliver 2]

set_option maxRecDepth 8000 in
/-- the one that stays has an empty roster, and was not told of the second leave -/
theorem roster_lost : ∃ w', run (step Env.ascii) World.empty twoLeave = .ok w' ∧ w'.queue = [] ∧
    w'.reg.Online 0 0 ∧ (w'.conn 0).channels[(w'.chan 0).m_name]? = some 0 ∧
    (w'.chan 0).m_members = [0] ∧
    ((w'.conn 0).channel_members.getD (some 0) ∅).contains 0 = false ∧
    tally (step Env.ascii) (leaves Env.ascii 0 0 2) World.empty twoLeave = 1 ∧
    tally (step Env.ascii) (partLines 0 0 2) World.empty twoLeave = 0 :=
  ⟨_, rfl, rfl, ⟨rfl, rfl, rfl⟩, rfl, rfl, rfl, rfl, rfl⟩

/-- ann and bob leave before either is told of it, and ann comes back -/
def bothLeave : List Event :=
  registration 0 false "ann" ++ registration 1 false "bob" ++
    [.line 0 (ascii "JOIN #x"), .line 1 (ascii "JOIN #x"), .line 1 (ascii "PART #x"),
      .line 0 (ascii "PART #x"), .deliver 0, .deliver 0, .deliver 1, .line 0 (ascii "JOIN #x")]

set_option maxRecDepth 8000 in
theorem roster_agrees_both : ∃ w', run (step Env.ascii) World.empty bothLeave = .ok w' ∧
    ((w'.conn 0).channel_members.getD (some 0) ∅).contains 0 = true ∧
    tally (step Env.ascii) (partLines 0 0 1) World.empty bothLeave = 1 := by
  have hquiet : checkSteps (step Env.ascii) (fun w ev => !mergesLogin Env.ascii w ev &&
      !renamesChannel w ev && !joinsEarly Env.ascii w ev && !dropsRoster w ev)
      World.empty bothLeave = true := by
    unfold bothLeave
    rw [check_pair ann_letsIn bob_entered]
    rfl
  have hsteps := (allSteps_of_check hquiet).mono (D := fun w ev => mergesLogin Env.ascii w ev = false ∧
      renamesChannel w ev = false ∧ joinsEarly Env.ascii w ev = false ∧ dropsRoster w ev = false)
      fun w ev h => by simpa [and_assoc] using h
  have hend : ∃ w', run (step Env.ascii) World.empty bothLeave = .ok w' ∧ w'.queue = [] ∧
      w'.reg.Online 0 0 ∧ (w'.chan 0).m_members = [0] ∧
      (w'.conn 0).channels[(w'.chan 0).m_name]? = some 0 ∧
      tally (step Env.ascii) (leaves Env.ascii 0 0 1) World.empty bothLeave = 1 := by
    have htally : tally (step Env.ascii) (leaves Env.ascii 0 0 1) World.empty bothLeave = 1 := rfl
    rw [htally]
    unfold bothLeave
    rw [run_pair ann_letsIn bob_entered]
    exact ⟨_, rfl, rfl, ⟨rfl, rfl, rfl⟩, rfl, rfl, rfl⟩
  obtain ⟨w', hrun, hqueue, hon, hmembers, hin, hleft⟩ := hend
  have hmem : (0 : AccId) ∈ (w'.chan 0).m_members := by
    rw [hmembers]
    decide
  obtain ⟨hlines, hrest⟩ := roster_agrees empty_started (hsteps.mono fun w ev h => h.1)
    (hsteps.mono fun w ev h => h.2.1) (hsteps.mono fun w ev h => h.2.2.1)
    (hsteps.mono fun w ev h => h.2.2.2) hrun hon 0
  obtain ⟨hnone, hroster⟩ := hrest fun d e he => by
    rw [hqueue] at he
    cases he
  have hcount := hlines 1 (by decide)
  rw [hleft, hnone, List.count_nil, Nat.add_zero] at hcount
  exact ⟨w', hrun, (hroster hin 0).mpr hmem, hcount.symm⟩

end Worker

end Chatripper
