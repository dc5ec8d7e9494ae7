import Mathlib
import Chatripper.ChannelNames
import Chatripper.Registry

/-!
# The two membership indexes

A channel lists its members, and an account its channels.  Joins write both sides and parts only the
first.

* `SiteStep.agree`     every step but a part keeps the two sides in agreement;
* `membership_iff`     in every run without RENAME and handlers the two sides agree in every state,
  and only JOIN lines add members, if and only if no PART of it takes a member out.
-/

namespace Chatripper
open ByteStr Utf8 Outcome

namespace Rooms

/-- an account lists the channels that it is a member of -/
def Agree (R : Rooms) : Prop :=
  ∀ a ch, a ∈ R.members ch ↔ (R.listed a)[R.name ch]? = some (some ch)

section
variable {t : Ties} {R : Rooms} {a b : AccId} {ch x : ChanId} {n : Bytes}

/-- an account is a member of the channels of its list -/
theorem Agree.mem_of_listed (h : R.Agree) (hkeyed : R.Keyed)
    (hn : (R.listed a)[n]? = some (some ch)) : a ∈ R.members ch := by
  obtain ⟨y, hy, hindex⟩ := hkeyed.listed a n (some ch) hn
  cases hy
  rw [h a ch, (hkeyed.index n ch hindex).1]
  exact hn

/-- writing a member and its entry -/
theorem Agree.add {R' : Rooms} (h : R.Agree) (hkeyed : R.Keyed)
    (hch : R.index (R.name ch) = some ch) (hname : R'.name = R.name)
    (hmem : ∀ b x, b ∈ R'.members x ↔ b ∈ R.members x ∨ x = ch ∧ b = a)
    (hlist : ∀ b (k : Bytes), (R'.listed b)[k]? =
      if b = a ∧ k = R.name ch then some (some ch) else (R.listed b)[k]?) : R'.Agree := by
  intro b x
  rw [hmem, hname, hlist, h b x]
  by_cases hb : b = a ∧ R.name x = R.name ch
  · rw [if_pos hb]
    constructor
    · rintro (hx | ⟨rfl, -⟩)
      · -- an older entry of this name is the channel itself
        have hxi := hkeyed.members x b ((h b x).mpr hx)
        rw [hb.2, hch] at hxi
        rw [Option.some.inj hxi]
      · rfl
    · intro hx
      exact Or.inr ⟨(Option.some.inj (Option.some.inj hx)).symm, hb.1⟩
  · rw [if_neg hb]
    constructor
    · rintro (hx | ⟨rfl, rfl⟩)
      · exact hx
      · exact absurd ⟨rfl, rfl⟩ hb
    · exact Or.inl

theorem Agree.enlist (h : R.Agree) (hkeyed : R.Keyed) (hch : R.index (R.name ch) = some ch) :
    Agree { R with toHalls := R.toHalls.enlist ch a } := by
  refine h.add (a := a) hkeyed hch rfl (fun b x => ?_) fun b k => ?_
  · show b ∈ (if x = ch then R.members ch ++ [a] else R.members x) ↔ _
    by_cases hx : x = ch
    · rw [if_pos hx, hx, List.mem_append, List.mem_singleton]
      simp
    · rw [if_neg hx]
      simp [hx]
  · show (if b = a then (R.listed a).insert (R.name ch) (R.index (R.name ch)) else R.listed b)[k]? = _
    by_cases hb : b = a
    · rw [if_pos hb, lookup_insert, hch, hb]
      by_cases hk : k = R.name ch
      · rw [if_pos hk, if_pos ⟨rfl, hk⟩]
      · rw [if_neg hk, if_neg fun hc => hk hc.2]
    · rw [if_neg hb, if_neg fun hc => hb hc.1]

theorem Keyed.enlist (h : R.Keyed) (hch : R.index (R.name ch) = some ch) :
    Keyed { R with toHalls := R.toHalls.enlist ch a } := by
  refine ⟨h.index, fun b k p hp => ?_, h.entered, fun x b hb => ?_⟩
  · replace hp : (if b = a then (R.listed a).insert (R.name ch) (R.index (R.name ch))
      else R.listed b)[k]? = some p := hp
    split at hp
    · rw [lookup_insert] at hp
      split at hp
      · next hk =>
        cases hp
        exact ⟨ch, hch, by rw [hk]; exact hch⟩
      · exact h.listed a k p hp
    · exact h.listed b k p hp
  · replace hb : b ∈ (if x = ch then R.members ch ++ [a] else R.members x) := hb
    split at hb
    · next hx =>
      rw [hx]
      exact hch
    · exact h.members x b hb

theorem Agree.join (h : R.Agree) (hkeyed : R.Keyed) (hch : R.index (R.name ch) = some ch) :
    (R.join t ch a).Agree := by
  refine h.add (a := a) hkeyed hch (join_name t ch a R) (fun b x => mem_join t ch a R) fun b k => ?_
  have hlist : (R.join t ch a).listed b = (R.toHalls.addMember ch a).listed b :=
    congrFun (congrArg Halls.listed (join_toHalls t ch a R)) b
  rw [hlist, Halls.addMember_listed]
  by_cases hmem : a ∈ R.members ch
  · rw [if_neg fun hc => hc.2 hmem]
    split
    · next hb =>
      rw [hb.1, hb.2]
      exact (h a ch).mp hmem
    · rfl
  · by_cases hb : b = a
    · rw [if_pos ⟨hb, hmem⟩, lookup_insert, hch, hb]
      by_cases hk : k = R.name ch
      · rw [if_pos hk, if_pos ⟨rfl, hk⟩]
      · rw [if_neg hk, if_neg fun hc => hk hc.2]
    · rw [if_neg fun hc => hb hc.1, if_neg fun hc => hb hc.1]

/-- an account that goes back into its channels is a member of all of them already -/
theorem Agree.rejoin (h : R.Agree) (hkeyed : R.Keyed) :
    (R.rejoin t a).Agree ∧ (∀ b x, b ∈ (R.rejoin t a).members x ↔ b ∈ R.members x) := by
  have hall : (R.rejoin t a).Agree ∧ (R.rejoin t a).Keyed ∧ (R.rejoin t a).index = R.index ∧
      ∀ b x, b ∈ (R.rejoin t a).members x ↔ b ∈ R.members x := by
    refine rejoin_inv (I := fun R' => R'.Agree ∧ R'.Keyed ∧ R'.index = R.index ∧
      ∀ b x, b ∈ R'.members x ↔ b ∈ R.members x) ⟨h, hkeyed, rfl, fun _ _ => Iff.rfl⟩ ?_
    rintro R' y ⟨k, hk⟩ ⟨hR', hkeyed', hindex, hmem⟩
    obtain ⟨z, hz, hyk⟩ := hkeyed.listed a k (some y) hk
    cases hz
    have hy := hkeyed'.index_name (hindex ▸ hyk : R'.index k = some y)
    refine ⟨hR'.join hkeyed' hy, hkeyed'.join hy, by rw [join_index, hindex], fun b x => ?_⟩
    rw [mem_join, hmem]
    refine ⟨fun hb => hb.elim id ?_, Or.inl⟩
    rintro ⟨rfl, rfl⟩
    exact h.mem_of_listed hkeyed hk
  exact ⟨hall.1, hall.2.2.2⟩

theorem Agree.create (h : R.Agree) (hkeyed : R.Keyed) : (R.create n).Agree := by
  intro b x
  show b ∈ (if x = R.nextChan then [] else R.members x) ↔
    (R.listed b)[if x = R.nextChan then n else R.name x]? = some (some x)
  by_cases hx : x = R.nextChan
  · rw [if_pos hx, if_pos hx]
    refine ⟨fun hb => (by cases hb), fun hb => ?_⟩
    obtain ⟨y, hy, hindex⟩ := hkeyed.listed b n (some x) hb
    cases hy
    exact absurd (hkeyed.index n x hindex).2 (by rw [hx]; exact Nat.lt_irrefl _)
  · rw [if_neg hx, if_neg hx]
    exact h b x

theorem Agree.newAcc (h : R.Agree) (hnew : ∀ x, a ∉ R.members x) : (R.newAcc a).Agree := by
  intro b x
  show b ∈ R.members x ↔ (if b = a then ∅ else R.listed b)[R.name x]? = some (some x)
  by_cases hb : b = a
  · rw [if_pos hb, hb]
    refine ⟨fun hm => absurd hm (hnew x), fun hm => ?_⟩
    rw [Std.ExtTreeMap.getElem?_empty] at hm
    cases hm
  · rw [if_neg hb]
    exact h b x

theorem Agree.channelPart {c : ConnId} (h : R.Agree) : (R.channelPart t c ch a).Agree := by
  unfold Rooms.channelPart
  split
  · exact h
  · split
    · exact h
    · split
      · exact h
      · exact h

/-- a member that is taken out stays in the list of its account -/
theorem Agree.not_part (h : R.Agree) (hmem : a ∈ R.members ch) : ¬ (R.part t ch a).Agree := by
  intro hpart
  have hlisted : (R.listed a)[R.name ch]? = some (some ch) := (h a ch).mp hmem
  have hin : a ∈ (R.toHalls.leave ch a).members ch := (hpart a ch).mpr hlisted
  exact ((Halls.mem_leave R.toHalls ch ch a a).mp hin).2 ⟨rfl, rfl⟩

end

end Rooms

/-- what every run without RENAME keeps of the accounts and rooms -/
structure Site.Sound (s : Site) : Prop where
  registry : s.reg.RegistryInv
  keyed : s.rooms.Keyed
  made : ∀ ch a, a ∈ s.rooms.members ch → a < s.reg.nextAcc

section
variable {l : SiteLabel} {s s' : Site}

/-- a new member is the account of the connection that takes the step -/
theorem SiteStep.mem_members (hstep : SiteStep l s s') {ch : ChanId} {a : AccId}
    (h : a ∈ s'.rooms.members ch) : a ∈ s.rooms.members ch ∨ ∃ c, (s.reg.conn c).m_account = some a ∧
      (l = .join c a ch ∨
        l = .sys (.conn c (.registerOld a)) ∧ (s.reg.conn c).is_ready = false) := by
  cases hstep with
  | @sys l r r' R hsys =>
    cases l with
    | connect => exact Or.inl h
    | disconnect c => exact Or.inl h
    | conn c k =>
      cases k with
      | registerOld b =>
        rcases Rooms.mem_rejoin h with h | rfl
        · exact Or.inl h
        · cases hsys with
          | conn _ hconn =>
            cases hconn with
            | registerOld hfin hacc => exact Or.inr ⟨c, hacc, Or.inr ⟨rfl, hfin.1⟩⟩
      | _ => exact Or.inl h
  | @create c n r R hn =>
    replace h : a ∈ (if ch = R.nextChan then [] else R.members ch) := h
    split at h
    · cases h
    · exact Or.inl h
  | @join c b x r R hacc hch =>
    rcases (Rooms.mem_join r.ties x b R).mp h with h | ⟨rfl, rfl⟩
    · exact Or.inl h
    · exact Or.inr ⟨c, hacc, Or.inl rfl⟩
  | @part c b x r R => exact Or.inl ((Halls.mem_leave R.toHalls x ch b a).mp h).1
  | rename => exact Or.inl h
  | @deliver c x b m r R =>
    have hsame : ((R.take c).channelPart r.ties c x b).members = R.members :=
      congrArg Halls.members (Rooms.channelPart_toHalls _ _ _ _ _)
    replace h : a ∈ ((R.take c).channelPart r.ties c x b).members ch := h
    rw [hsame] at h
    exact Or.inl h
  | lose => exact Or.inl h

theorem SiteStep.reg_cases (hstep : SiteStep l s s') :
    (∃ k, l = .sys k ∧ Reg.SysStep k s.reg s'.reg) ∨ s'.reg = s.reg := by
  cases hstep with
  | sys h => exact Or.inl ⟨_, rfl, h⟩
  | _ => exact Or.inr rfl

theorem SiteStep.sound (hl : l.isRename = false) (h : s.Sound) (hstep : SiteStep l s s') :
    s'.Sound := by
  have hnext : s.reg.nextAcc ≤ s'.reg.nextAcc := by
    rcases hstep.reg_cases with ⟨k, -, hk⟩ | hreg
    · exact hk.nextAcc_le
    · rw [hreg]
  refine ⟨?_, hstep.keyed hl h.keyed, fun ch a ha => Nat.lt_of_lt_of_le ?_ hnext⟩
  · rcases hstep.reg_cases with ⟨k, -, hk⟩ | hreg
    · exact hk.registryInv h.registry
    · rw [hreg]
      exact h.registry
  · rcases hstep.mem_members ha with ha | ⟨c, hacc, -⟩
    · exact h.made ch a ha
    · exact h.registry.made c a hacc

/-- does the step take a member out -/
def SiteLabel.isPart : SiteLabel → Bool
  | .part _ _ _ => true
  | _ => false

/-- **One step.**  Every step but a part keeps the two sides in agreement, and only a join adds a
member. -/
theorem SiteStep.agree (hl : l.isRename = false) (hpart : l.isPart = false) (hs : s.Sound)
    (h : s.rooms.Agree) (hstep : SiteStep l s s') : s'.rooms.Agree ∧
      ((∀ c a ch, l ≠ .join c a ch) → ∀ a ch, a ∈ s'.rooms.members ch → a ∈ s.rooms.members ch) := by
  refine ⟨?_, fun hjoin a ch ha => ?_⟩
  · cases hstep with
    | @sys l r r' R hsys =>
      cases l with
      | connect => exact h
      | disconnect c => exact h
      | conn c k =>
        cases k with
        | registerNew n =>
          exact Rooms.Agree.newAcc h fun x hx => Nat.lt_irrefl _ (hs.made x _ hx)
        | registerOld a => exact (Rooms.Agree.rejoin h hs.keyed).1
        | _ => exact h
    | create hn => exact Rooms.Agree.create h hs.keyed
    | join hacc hch =>
      obtain ⟨n, hn⟩ := hch
      exact Rooms.Agree.join h hs.keyed (hs.keyed.index_name hn)
    | part => cases hpart
    | rename => cases hl
    | @deliver c x b m r R => exact Rooms.Agree.channelPart (R := R.take c) h
    | lose => exact h
  · rcases hstep.mem_members ha with ha | ⟨c, -, rfl | ⟨rfl, -⟩⟩
    · exact ha
    · exact absurd rfl (hjoin c a ch)
    · cases hstep with
      | sys => exact ((Rooms.Agree.rejoin h hs.keyed).2 a ch).mp ‹_›

end

/-! ## runs of the server -/

namespace Worker
open World client_connection

/-- an account is a member of a channel when it has it under the channel's name -/
def IndexesAgree (w : World) : Prop :=
  ∀ a ch, a ∈ (w.chan ch).m_members ↔ (w.acc a).channels[(w.chan ch).m_name]? = some (some ch)

/-- does the event take a member out of a channel -/
def partsMember (w : World) (ev : Event) : Bool :=
  onCommand (fun c cmd args w => !(partTargets c cmd args w).isEmpty) w ev

/-- is the event a JOIN that names a channel -/
def namesChannel (w : World) (ev : Event) : Bool :=
  onCommand (fun _ cmd args _ => !(joinNames cmd args).isEmpty) w ev

section
variable {env : Env} {w w' : World} {ev : Event}

theorem Allowed.not_part {l : SiteLabel} {s : Site} (hev : partsMember w ev = false)
    (h : Allowed env w ev l s) : l.isPart = false := by
  cases l with
  | part d a ch =>
    cases ev with
    | line c line =>
      obtain ⟨cmd, args, hp, -, hmem, -⟩ := h.command hev
      have hnone : partTargets c cmd args (handlerWorld c line w) = [] := by simpa using hp
      rw [hnone] at hmem
      cases hmem
    | _ => cases h
  | _ => rfl

theorem Allowed.not_join {l : SiteLabel} {s : Site} (hev : namesChannel w ev = false)
    (h : Allowed env w ev l s) (c : ConnId) (a : AccId) (ch : ChanId) : l ≠ .join c a ch := by
  rintro rfl
  cases ev with
  | line c line =>
    obtain ⟨cmd, args, hp, -, -, -, ⟨n, hn, -⟩, -⟩ := h.command hev
    have hnone : joinNames cmd args = [] := by simpa using hp
    rw [hnone] at hn
    cases hn
  | _ => cases h

theorem Allowed.merging {c d : ConnId} {line : Bytes} {a b : AccId} {s : Site}
    (h : Allowed env w (.line c line) (.sys (.conn d (.merge a b))) s) :
    mergesLogin env w (.line c line) = true := by
  obtain ⟨hlive, cmd, args, hcmd, rfl, hlabel, -⟩ := h
  by_contra hne
  have hlabel' : EventLabel env w (.line d line) (.conn d (.merge a b)) :=
    ⟨rfl, cmd, args, hcmd, hlabel⟩
  exact hlabel'.unmerged (fun c line he => by cases he; exact hlive) (Bool.not_eq_true _ ▸ hne)

theorem step_sound (hs : w.site.Sound) (hren : renamesChannel w ev = false)
    (h : step env w ev = .ok w') : w'.site.Sound := by
  obtain ⟨ls, hchain⟩ := step_site h
  exact hchain.inv (I := fun s => s.Sound) (P := fun _ => True)
    (fun _ _ _ _ hs hstep => hstep.1.sound (hstep.2.not_rename hren) hs) (fun _ _ => trivial) hs

theorem step_agree (hs : w.site.Sound) (hagree : IndexesAgree w) (hren : renamesChannel w ev = false)
    (hpart : partsMember w ev = false) (h : step env w ev = .ok w') : IndexesAgree w' ∧
      (namesChannel w ev = false → ∀ a ch, a ∈ (w'.chan ch).m_members → a ∈ (w.chan ch).m_members) := by
  obtain ⟨ls, hchain⟩ := step_site h
  have hall := hchain.inv (I := fun s => s.Sound ∧ s.rooms.Agree ∧ (namesChannel w ev = false →
      ∀ a ch, a ∈ s.rooms.members ch → a ∈ (w.chan ch).m_members)) (P := fun _ => True)
    (fun l s s' _ hs hstep => ?_) (fun _ _ => trivial) ⟨hs, hagree, fun _ _ _ h => h⟩
  · exact hall.2
  · obtain ⟨hsound, hagree, hmem⟩ := hs
    have hl := hstep.2.not_rename hren
    obtain ⟨hagree', hmem'⟩ := hstep.1.agree hl (hstep.2.not_part hpart) hsound hagree
    exact ⟨hstep.1.sound hl hsound, hagree', fun hn a ch ha =>
      hmem hn a ch (hmem' (hstep.2.not_join hn) a ch ha)⟩

/-- without handlers a member that asks to part is taken out -/
theorem part_quiet {ch : ChanId} {e : QEventChannelPart} {a : AccId} (hpy : w.NoHandlers)
    (hacc : e.account = some a) (hmem : a ∈ w.rooms.members ch) :
    (Channel.part ch e w).1 = true := by
  unfold Channel.part
  have hhook : (if e.from_system then (some e, w)
      else w.consult .CHANNEL_PART (·.cancel) e) = (some e, w) := by
    split
    · rfl
    · exact World.consult_of_noHandlers hpy
  have hin : (w.chan ch).m_members.contains a = true := List.contains_iff_mem.mpr hmem
  rw [hhook]
  dsimp only
  rw [hacc, Option.filter_some, if_pos hin]

/-- the loop of a PART takes a member out when it comes to a channel of the account -/
theorem partLoop_leaves {c : ConnId} {a : AccId} {_nick message : Bytes} {names : List Bytes}
    (hacc : (w.conn c).m_account = some a) (hpy : w.NoHandlers)
    (hnames : ∃ n ∈ names, (partTarget a w n).isSome) {w1 : World} (hreg : w1.reg = w.reg)
    (hrooms : w1.rooms = w.rooms) : ∃ ch, a ∈ w.rooms.members ch ∧
      (partLoop env c _nick message names w1).rooms = w.rooms.part w.reg.ties ch a := by
  have hquiet : w1.NoHandlers := hpy.of_activeEvents (congrArg Reg.activeEvents hreg)
  induction names generalizing w1 with
  | nil =>
    obtain ⟨n, hn, -⟩ := hnames
    cases hn
  | cons name names ih =>
    have hgo {w2 : World} (h2 : w2.reg = w.reg) (h2' : w2.rooms = w.rooms)
        (hnot : partTarget a w name = none) := by
      have hlater : ∃ n ∈ names, (partTarget a w n).isSome := by
        obtain ⟨n, hn, hsome⟩ := hnames
        rcases List.mem_cons.mp hn with rfl | hn
        · rw [hnot] at hsome
          cases hsome
        · exact ⟨n, hn, hsome⟩
      exact ih hlater h2 h2' (hpy.of_activeEvents (congrArg Reg.activeEvents h2))
    unfold partLoop
    split
    · next hhash =>
      have hget : Channel.get w1 (name.drop 1) = Channel.get w (name.drop 1) := by
        rw [Channel.rooms_get, Channel.rooms_get, hrooms]
      dsimp only
      split
      · next hnone =>
        refine hgo hreg hrooms ?_
        unfold partTarget
        rw [if_pos hhash, ← hget, hnone]
        rfl
      · next ch hch =>
        have hprooms := Channel.part_rooms ch
          { channel := ch, account := (w1.conn c).m_account, message := message } w1 rfl
        have hpreg := Channel.reg_part ch
          { channel := ch, account := (w1.conn c).m_account, message := message } w1
        have hacc1 : (w1.conn c).m_account = some a := (m_account_eq hreg c).trans hacc
        split
        · next w2 he =>
          rw [he] at hprooms hpreg
          rcases hprooms with ⟨hfalse, -⟩ | ⟨b, hb, hmem, -, hr⟩
          · cases hfalse
          · replace hb : (w1.conn c).m_account = some b := hb
            rw [hacc1] at hb
            cases hb
            refine ⟨ch, hrooms ▸ hmem, ?_⟩
            rw [hr, hreg, hrooms]
        · next w2 he =>
          rw [he] at hprooms hpreg
          have hnot : a ∉ w1.rooms.members ch := fun hmem => by
            have htrue := part_quiet (e :=
              { channel := ch, account := (w1.conn c).m_account, message := message }) hquiet hacc1 hmem
            rw [he] at htrue
            cases htrue
          rcases hprooms with ⟨-, hsame⟩ | ⟨b, -, -, htrue, -⟩
          · refine hgo (hpreg.trans hreg) (hsame.trans hrooms) ?_
            unfold partTarget
            rw [if_pos hhash, ← hget, hch]
            rw [hrooms] at hnot
            have hout : ¬ (w.chan ch).m_members.contains a = true := fun hin =>
              hnot (List.contains_iff_mem.mp hin)
            rw [Option.filter_some, if_neg hout]
          · cases htrue
    · next hhash =>
      refine hgo hreg hrooms ?_
      unfold partTarget
      rw [if_neg hhash]

/-- a PART that takes a member out leaves it in the list of its account -/
theorem step_not_agree (hagree : IndexesAgree w) (hpy : w.NoHandlers)
    (hev : partsMember w ev = true) : ∃ w', step env w ev = .ok w' ∧ ¬ IndexesAgree w' := by
  cases ev with
  | line c line =>
    obtain ⟨hlive, hcmd⟩ := Bool.and_eq_true_iff.mp hev
    obtain ⟨⟨cmd, args⟩, hcmd, htargets⟩ := (Option.any_eq_true _ _).mp hcmd
    replace htargets : (!(partTargets c cmd args (handlerWorld c line w)).isEmpty) = true := htargets
    rw [handlerWorld_of_noHandlers hpy] at htargets
    have hne : partTargets c cmd args w ≠ [] := by simpa using htargets
    have hstep : step env w (.line c line) = _ := step_line_quiet hpy hlive hcmd
    unfold partTargets at hne
    split at hne
    · next p rest a hacc =>
      have hnames : ∃ n ∈ split 44 p, (partTarget a w n).isSome := by
        by_contra hnot
        push Not at hnot
        refine hne (List.map_eq_nil_iff.mpr (List.filterMap_eq_nil_iff.mpr fun n hn => ?_))
        exact Option.not_isSome_iff_eq_none.mp (hnot n hn)
      obtain ⟨message, hmessage⟩ := optionalArg_ok (p :: rest) 1
      obtain ⟨ch, hmem, hrooms⟩ : ∃ ch, a ∈ w.rooms.members ch ∧
          (partLoop env c (w.nick c) message (split 44 p) w).rooms = w.rooms.part w.reg.ties ch a :=
        partLoop_leaves hacc hpy hnames rfl rfl
      have hpart : handlePART env c (p :: rest) w =
          .ok (partLoop env c (w.nick c) message (split 44 p) w) := by
        unfold handlePART
        rw [if_neg (List.cons_ne_nil _ _)]
        show (optionalArg (p :: rest) 1 >>= fun message => _) = _
        rw [hmessage]
        rfl
      refine ⟨partLoop env c (w.nick c) message (split 44 p) w, hstep.trans hpart, fun h => ?_⟩
      have hagree' : (partLoop env c (w.nick c) message (split 44 p) w).rooms.Agree := h
      rw [hrooms] at hagree'
      exact Rooms.Agree.not_part (R := w.rooms) hagree hmem hagree'
    · exact absurd rfl hne
  | _ => cases hev

/-- **The membership indexes.**  In every run without RENAME and handlers, from a state where the two
sides agree, they agree in every state and no event but a JOIN line adds a member, if and only if
no PART of the run takes a member out. -/
theorem membership_iff (hs : w.site.Sound) (hpy : w.NoHandlers) (hagree : IndexesAgree w)
    {evs : List Event} (hren : AllSteps (step env) (fun w ev => renamesChannel w ev = false) w evs) :
    AllSteps (step env) (fun w ev => ∀ w', step env w ev = .ok w' → IndexesAgree w' ∧
        (namesChannel w ev = false →
          ∀ a ch, a ∈ (w'.chan ch).m_members → a ∈ (w.chan ch).m_members)) w evs ↔
      AllSteps (step env) (fun w ev => partsMember w ev = false) w evs := by
  have hnever {w : World} {ev : Event} (hpy : w.NoHandlers) (hagree : IndexesAgree w)
      (h : ∀ w', step env w ev = .ok w' → IndexesAgree w') : partsMember w ev = false := by
    by_contra hne
    obtain ⟨w', hw', hnot⟩ := step_not_agree hagree hpy (Bool.not_eq_false _ ▸ hne)
    exact hnot (h w' hw')
  constructor
  · intro hall
    refine (allSteps_keep (I := fun w => w.site.Sound ∧ w.NoHandlers ∧ IndexesAgree w)
      (fun w ev w' hw hC h => ?_) ⟨hs, hpy, hagree⟩ (hren.and hall)).mono fun w ev h => ?_
    · exact ⟨step_sound hw.1 hC.1 h, step_noHandlers hw.2.1 h, (hC.2 w' h).1⟩
    · exact hnever h.1.2.1 h.1.2.2 fun w' hw' => (h.2.2 w' hw').1
  · intro hall
    refine (allSteps_keep (I := fun w => w.site.Sound ∧ IndexesAgree w)
      (fun w ev w' hw hC h => ?_) ⟨hs, hagree⟩ (hren.and hall)).mono fun w ev h w' hw' => ?_
    · exact ⟨step_sound hw.1 hC.1 h, (step_agree hw.1 hw.2 hC.1 hC.2 h).1⟩
    · exact step_agree h.1.1 h.1.2 h.2.1 h.2.2 hw'

/-- **The initial load.**  Channel::addMembers writes both sides. -/
theorem addMembers_agree {ch : ChanId} (hkeyed : w.rooms.Keyed)
    (hch : Channel.get w (w.chan ch).m_name = some ch) (h : IndexesAgree w) (accounts : List AccId) :
    IndexesAgree (Channel.addMembers ch accounts w) := by
  unfold Channel.addMembers
  induction accounts generalizing w with
  | nil => exact h
  | cons a accounts ih =>
    rw [List.foldl_cons]
    have hrooms := Channel.rooms_enlist ch a w
    have hagree := Rooms.Agree.enlist (R := w.rooms) (a := a) h hkeyed hch
    have hkeyed' := Rooms.Keyed.enlist (a := a) hkeyed hch
    rw [← hrooms] at hagree hkeyed'
    refine ih hkeyed' ?_ hagree
    show (Channel.enlist ch (Channel.get w (w.chan ch).m_name) a w).rooms.index
      ((Channel.enlist ch (Channel.get w (w.chan ch).m_name) a w).rooms.name ch) = some ch
    rw [hrooms]
    exact hch

end

/-- a server after the initial load, with the channels of the database: their members, each once, have
them in their lists, and no connection is in one -/
structure Started (w : World) : Prop extends Loaded w where
  keyed : w.rooms.Keyed
  membersMade : ∀ ch a, a ∈ (w.chan ch).m_members → a < w.nextAcc
  distinct : ∀ ch, (w.chan ch).m_members.Nodup
  agree : IndexesAgree w
  outside : ∀ c, (w.conn c).channels = ∅ ∧ (w.conn c).channel_members = ∅
  quiet : w.queue = []

theorem Started.sound {w : World} (h : Started w) : w.site.Sound := ⟨h.registryInv, h.keyed, h.membersMade⟩

/-- the database has nothing -/
theorem empty_loaded : Loaded World.empty := by
  have hzero (a : AccId) : ¬ a < World.empty.nextAcc := Nat.not_lt_zero a
  have hnone {K V : Type} [Ord K] [Std.TransOrd K] (k : K) (v : V) :
      ¬ (∅ : QMap K V)[k]? = some v := by
    rw [Std.ExtTreeMap.getElem?_empty]
    nofun
  refine ⟨⟨fun _ => rfl, fun _ => ⟨rfl, rfl⟩, fun _ => rfl, fun u a h => absurd h (hnone u a)⟩,
    fun a => ⟨fun h => ?_, fun h => absurd h (hzero a)⟩, fun a h => absurd h (hzero a),
    fun a h => absurd h (hzero a), fun a b h => absurd h (hzero a),
    fun u a => ⟨fun h => absurd h (hnone u a), fun h => absurd h.1 (hzero a)⟩,
    fun n a => ⟨fun h => absurd h (hnone n a), fun h => absurd h.1 (hzero a)⟩,
    fun n a => ⟨fun h => absurd h (hnone n a), fun h => absurd h.1 (hzero a)⟩⟩
  exact absurd h Std.ExtTreeSet.not_mem_empty

theorem empty_started : Started World.empty := by
  refine ⟨empty_loaded, empty_keyed, fun _ _ h => (by cases h), fun _ => List.nodup_nil, fun a ch => ?_,
    fun _ => ⟨rfl, rfl⟩, rfl⟩
  have hnone : (World.empty.acc a).channels[(World.empty.chan ch).m_name]? = none :=
    Std.ExtTreeMap.getElem?_empty
  rw [hnone]
  exact ⟨fun h => (by cases h), fun h => (by cases h)⟩

theorem loadedBob_started : Started loadedBob := by
  have hlisted (a : AccId) (n : Bytes) : (loadedBob.acc a).channels[n]? = none := by
    show (if a = 0 then _ else _ : Account).channels[n]? = none
    split <;> exact Std.ExtTreeMap.getElem?_empty
  refine ⟨loadedBob_loaded, ⟨fun n ch h => empty_keyed.index n ch h, fun a n p h => ?_,
    fun c n ch h => empty_keyed.entered c n ch h, fun ch a h => (by cases h)⟩,
    fun _ _ h => (by cases h), fun _ => List.nodup_nil, fun a ch => ?_, fun _ => ⟨rfl, rfl⟩, rfl⟩
  · replace h : (loadedBob.acc a).channels[n]? = some p := h
    rw [hlisted] at h
    cases h
  · rw [hlisted]
    exact ⟨fun h => (by cases h), fun h => (by cases h)⟩

/-- ann joins and parts -/
def annParts : List Event :=
  registration 0 false "ann" ++ [.line 0 (ascii "JOIN #x"), .line 0 (ascii "PART #x")]

set_option maxRecDepth 8000 in
/-- the channel that ann has parted is still in her list -/
theorem parted_still_listed : ∃ w', run (step Env.ascii) World.empty annParts = .ok w' ∧
    (w'.chan 0).m_members = [] ∧ (w'.acc 0).channels[(w'.chan 0).m_name]? = some (some 0) := by
  unfold annParts
  rw [run_registration ann_letsIn]
  exact ⟨_, rfl, rfl, rfl⟩

/-- bob is logged in, in a channel, and comes with a second connection -/
def bobTwice : List Event :=
  [.connect false (ascii "127.0.0.1"), .line 0 (ascii "AUTHENTICATE AGJvYgBw"),
    .line 0 (ascii "NICK b"), .line 0 (ascii "USER u 0 * :U"), .line 0 (ascii "CAP END"),
    .line 0 (ascii "JOIN #x"), .connect true (ascii "127.0.0.1"),
    .line 1 (ascii "AUTHENTICATE AGJvYgBw"), .line 1 (ascii "NICK c"),
    .line 1 (ascii "USER u 0 * :U"), .line 1 (ascii "CAP END")]

set_option maxRecDepth 8000 in
/-- he goes back into his channel -/
theorem membership_iff_bob : AllSteps (step Env.ascii) (fun w ev => ∀ w',
    step Env.ascii w ev = .ok w' → IndexesAgree w' ∧ (namesChannel w ev = false →
      ∀ a ch, a ∈ (w'.chan ch).m_members → a ∈ (w.chan ch).m_members)) loadedBob bobTwice := by
  have hquiet : checkSteps (step Env.ascii) (fun w ev => !renamesChannel w ev && !partsMember w ev)
      loadedBob bobTwice = true := rfl
  have hsteps := allSteps_of_check hquiet
  refine (membership_iff loadedBob_started.sound (fun e => by cases e <;> rfl) loadedBob_started.agree
    (hsteps.mono fun w ev h => ?_)).mpr (hsteps.mono fun w ev h => ?_)
  · exact (by simpa using h : renamesChannel w ev = false ∧ partsMember w ev = false).1
  · exact (by simpa using h : renamesChannel w ev = false ∧ partsMember w ev = false).2

end Worker

end Chatripper
