import Mathlib
import Chatripper.Irc.Site
import Chatripper.Irc.Registering

/-!
# Channels and their names

A channel is kept under its name in `ctx.channels`, in the channels of each account and in those of
each connection.  `Keyed` says that these keys are right.

* `SiteStep.keyed`      every step but a rename keeps them;
* `channel_names_iff`   in every run the keys are right in every state if no RENAME of it is carried
  out, and without handlers only then.
-/

namespace Chatripper
open ByteStr Utf8 Outcome

/-- every key that leads to a channel is the name under which the index has it -/
structure Rooms.Keyed (R : Rooms) : Prop where
  index : ∀ n ch, R.index n = some ch → R.name ch = n ∧ ch < R.nextChan
  listed : ∀ a (n : Bytes) (p : Option ChanId), (R.listed a)[n]? = some p →
    ∃ ch, p = some ch ∧ R.index n = some ch
  entered : ∀ c n ch, R.entered c n = some ch → R.index n = some ch
  members : ∀ ch a, a ∈ R.members ch → R.index (R.name ch) = some ch

/-- what Channel::rename changes -/
def SiteLabel.isRename : SiteLabel → Bool
  | .rename _ _ _ => true
  | _ => false

namespace Rooms

section
variable {t : Ties} {R : Rooms} {a : AccId} {ch : ChanId} {n : Bytes}

theorem Keyed.index_name (h : R.Keyed) (hch : R.index n = some ch) :
    R.index (R.name ch) = some ch := by
  rw [(h.index n ch hch).1]
  exact hch

/-- two channels of the index have two names -/
theorem Keyed.injective (h : R.Keyed) {k k' : Bytes} {ch' : ChanId} (hk : R.index k = some ch)
    (hk' : R.index k' = some ch') (hname : R.name ch = R.name ch') : ch = ch' := by
  have hkey := h.index_name hk
  rw [hname, h.index_name hk'] at hkey
  exact (Option.some.inj hkey).symm

theorem Keyed.join (h : R.Keyed) (hch : R.index (R.name ch) = some ch) : (R.join t ch a).Keyed := by
  have hhalls := join_toHalls t ch a R
  refine ⟨fun k x hk => ?_, fun b k p hp => ?_, fun c k x hx => ?_, fun x b hb => ?_⟩
  · rw [join_index] at hk
    rw [join_name]
    have hnext : (R.join t ch a).nextChan = R.nextChan :=
      (congrArg Halls.nextChan hhalls).trans (Halls.addMember_nextChan _ _ _)
    rw [hnext]
    exact h.index k x hk
  · rw [join_index]
    have hlist : (R.join t ch a).listed b = (R.toHalls.addMember ch a).listed b :=
      congrFun (congrArg Halls.listed hhalls) b
    rw [hlist, Halls.addMember_listed] at hp
    split at hp
    · -- the entry that the join writes
      rw [lookup_insert] at hp
      split at hp
      · next hk =>
        cases hp
        exact ⟨ch, hch, by rw [hk]; exact hch⟩
      · exact h.listed a k p hp
    · exact h.listed b k p hp
  · rw [join_index]
    rcases join_entered_cases hx with hx | ⟨rfl, rfl⟩
    · exact h.entered c k x hx
    · exact hch
  · rw [join_index, join_name]
    rcases (mem_join t ch a R).mp hb with hb | ⟨rfl, -⟩
    · exact h.members x b hb
    · exact hch

/-- an account goes back into channels that are in the index -/
theorem Keyed.rejoin (h : R.Keyed) : (R.rejoin t a).Keyed := by
  have hboth : (R.rejoin t a).Keyed ∧ (R.rejoin t a).index = R.index := by
    refine rejoin_inv (I := fun R' => R'.Keyed ∧ R'.index = R.index) ⟨h, rfl⟩ ?_
    rintro R' x ⟨k, hk⟩ ⟨hR', hindex⟩
    obtain ⟨y, hy, hyk⟩ := h.listed a k (some x) hk
    cases hy
    rw [← hindex] at hyk
    exact ⟨hR'.join (hR'.index_name hyk), by rw [join_index, hindex]⟩
  exact hboth.1

theorem Keyed.create (h : R.Keyed) (hn : R.index n = none) : (R.create n).Keyed := by
  have hindex {k : Bytes} {x : ChanId} (hk : R.index k = some x) : (R.create n).index k = some x := by
    show (if k = n then some R.nextChan else R.index k) = some x
    rw [if_neg]
    · exact hk
    · rintro rfl
      rw [hn] at hk
      cases hk
  have hname {x : ChanId} (hx : x < R.nextChan) : (R.create n).name x = R.name x :=
    if_neg (Nat.ne_of_lt hx)
  refine ⟨fun k x hk => ?_, fun b k p hp => ?_, fun c k x hx => ?_, fun x b hb => ?_⟩
  · show (R.create n).name x = k ∧ x < R.nextChan + 1
    replace hk : (if k = n then some R.nextChan else R.index k) = some x := hk
    split at hk
    · next he =>
      cases hk
      exact ⟨(if_pos rfl).trans he.symm, Nat.lt_succ_self _⟩
    · obtain ⟨hkx, hlt⟩ := h.index k x hk
      exact ⟨(hname hlt).trans hkx, Nat.lt_succ_of_lt hlt⟩
  · obtain ⟨x, hx, hk⟩ := h.listed b k p hp
    exact ⟨x, hx, hindex hk⟩
  · exact hindex (h.entered c k x hx)
  · replace hb : b ∈ (if x = R.nextChan then [] else R.members x) := hb
    split at hb
    · cases hb
    · have hx := h.members x b hb
      rw [hname (h.index _ _ hx).2]
      exact hindex hx

theorem Keyed.part (h : R.Keyed) : (R.part t ch a).Keyed := by
  refine ⟨h.index, h.listed, h.entered, fun x b hb => ?_⟩
  exact h.members x b ((Halls.mem_leave R.toHalls ch x a b).mp hb).1

theorem Keyed.take {c : ConnId} (h : R.Keyed) : (R.take c).Keyed :=
  ⟨h.index, h.listed, h.entered, h.members⟩

theorem Keyed.channelPart {c : ConnId} (h : R.Keyed) : (R.channelPart t c ch a).Keyed := by
  unfold Rooms.channelPart
  split
  · exact h
  · split
    · refine ⟨h.index, h.listed, fun d k x hx => ?_, h.members⟩
      replace hx : (if d = c ∧ k = R.name ch then none else R.entered d k) = some x := hx
      split at hx
      · cases hx
      · exact h.entered d k x hx
    · split
      · exact ⟨h.index, h.listed, h.entered, h.members⟩
      · exact h

theorem Keyed.newAcc (h : R.Keyed) : (R.newAcc a).Keyed := by
  refine ⟨h.index, fun b k p hp => ?_, h.entered, h.members⟩
  replace hp : (if b = a then ∅ else R.listed b)[k]? = some p := hp
  split at hp
  · simp at hp
  · exact h.listed b k p hp

theorem Keyed.newConn {c : ConnId} (h : R.Keyed) : (R.newConn c).Keyed := by
  refine ⟨h.index, h.listed, fun d k x hx => ?_, h.members⟩
  replace hx : (if d = c then none else R.entered d k) = some x := hx
  split at hx
  · cases hx
  · exact h.entered d k x hx

/-- a channel that gets a name that the index does not have is under its old one -/
theorem Keyed.not_rename (hch : R.index (R.name ch) = some ch) (hn : R.index n = none) :
    ¬ (R.rename ch n).Keyed := by
  intro h
  have hname := (h.index (R.name ch) ch hch).1
  replace hname : (if ch = ch then n else R.name ch) = R.name ch := hname
  rw [if_pos rfl] at hname
  rw [hname, hch] at hn
  cases hn

end

end Rooms

/-- **One step.**  Every step but a rename keeps the keys right. -/
theorem SiteStep.keyed {l : SiteLabel} {s s' : Site} (hl : l.isRename = false) (h : s.rooms.Keyed)
    (hstep : SiteStep l s s') : s'.rooms.Keyed := by
  cases hstep with
  | @sys l r r' R hsys =>
    cases l with
    | connect => exact Rooms.Keyed.newConn h
    | disconnect c => exact h
    | conn c k =>
      cases k with
      | registerNew n => exact Rooms.Keyed.newAcc h
      | registerOld a => exact Rooms.Keyed.rejoin h
      | _ => exact h
  | create hn => exact Rooms.Keyed.create h hn
  | join hacc hch =>
    obtain ⟨n, hn⟩ := hch
    exact Rooms.Keyed.join h (Rooms.Keyed.index_name h hn)
  | part => exact Rooms.Keyed.part h
  | rename => cases hl
  | deliver => exact Rooms.Keyed.channelPart (Rooms.Keyed.take h)
  | lose => exact Rooms.Keyed.take h

/-! ## runs of the server -/

namespace Worker
open World client_connection

/-- the keys of the index, of the accounts and of the connections are the names of the channels -/
structure NamesAgree (w : World) : Prop where
  index : ∀ (k : Bytes) (ch : ChanId), w.ctx.channels[k]? = some ch → (w.chan ch).m_name = k
  distinct : ∀ (k k' : Bytes) (ch ch' : ChanId), w.ctx.channels[k]? = some ch →
    w.ctx.channels[k']? = some ch' → (w.chan ch).m_name = (w.chan ch').m_name → ch = ch'
  account : ∀ (a : AccId) (k : Bytes) (ch : ChanId), (w.acc a).channels[k]? = some (some ch) →
    (w.chan ch).m_name = k
  connection : ∀ (c : ConnId) (k : Bytes) (ch : ChanId), (w.conn c).channels[k]? = some ch →
    (w.chan ch).m_name = k

/-- does the event rename a channel -/
def renamesChannel (w : World) (ev : Event) : Bool :=
  onCommand (fun _ cmd args w => renames cmd args w) w ev

/-- a renamed channel is found under its new name only -/
def RenameFound (w : World) (ev : Event) (w' : World) : Prop :=
  ∀ c line p q rest, ev = .line c line → (w.conn c).live = true →
    lineCommand c line w = some (.RENAME, p :: q :: rest) →
      renames .RENAME (p :: q :: rest) (handlerWorld c line w) = true →
        Channel.get w' (withoutHash q) = Channel.get w (withoutHash p) ∧
          Channel.get w' (withoutHash p) = none

theorem namesAgree {w : World} (h : w.rooms.Keyed) : NamesAgree w := by
  have hname {k : Bytes} {ch : ChanId} (hk : w.ctx.channels[k]? = some ch) :
      (w.chan ch).m_name = k := (h.index k ch hk).1
  refine ⟨fun k ch hk => hname hk, fun k k' ch ch' hk hk' he => h.injective hk hk' he,
    fun a k ch hk => ?_, fun c k ch hk => hname (h.entered c k ch hk)⟩
  obtain ⟨x, hx, hxk⟩ := h.listed a k (some ch) hk
  cases hx
  exact hname hxk

section
variable {env : Env} {w w' : World} {ev : Event}

theorem Allowed.not_rename {l : SiteLabel} {s : Site} (hev : renamesChannel w ev = false)
    (h : Allowed env w ev l s) : l.isRename = false := by
  cases l with
  | rename d ch n =>
    cases ev with
    | line c line =>
      obtain ⟨cmd, args, hp, hsite⟩ := h.command hev
      obtain ⟨-, htrue, -⟩ := hsite
      rw [htrue] at hp
      cases hp
    | _ => cases h
  | _ => rfl

theorem step_keyed (hkeyed : w.rooms.Keyed) (hev : renamesChannel w ev = false)
    (h : step env w ev = .ok w') : w'.rooms.Keyed := by
  obtain ⟨ls, hchain⟩ := step_site h
  exact hchain.inv (I := fun s => s.rooms.Keyed) (P := fun _ => True)
    (fun _ _ _ _ hs hstep => hstep.1.keyed (hstep.2.not_rename hev) hs) (fun _ _ => trivial) hkeyed

/-- without handlers a line runs its command and nothing else -/
theorem step_line_quiet {c : ConnId} {line : Bytes} {cmd : Command} {args : List Bytes}
    (hpy : w.NoHandlers) (hlive : (w.conn c).live = true)
    (hcmd : lineCommand c line w = some (cmd, args)) :
    step env w (.line c line) = handle env c (lineTags c line w) cmd args w := by
  show (if (w.conn c).live then parseIncoming env c line w else .ok w) = _
  rw [if_pos hlive, parseIncoming_eq, hcmd, handlerWorld_of_noHandlers hpy]

/-- a RENAME that is carried out, without handlers -/
theorem handleRENAME_rooms {c : ConnId} {args : List Bytes} (hkeyed : w.rooms.Keyed)
    (hpy : w.NoHandlers) (h : renames .RENAME args w = true) :
    ∃ w' ch n, handleRENAME c args w = .ok w' ∧ w'.rooms = w.rooms.rename ch n ∧
      w.rooms.index (w.rooms.name ch) = some ch ∧ w.rooms.index n = none := by
  rcases args with _ | ⟨p, _ | ⟨q, rest⟩⟩
  · cases h
  · cases h
  · obtain ⟨hfrom, hto⟩ := Bool.and_eq_true_iff.mp h
    obtain ⟨ch, hch⟩ := Option.isSome_iff_exists.mp hfrom
    have hto : Channel.get w (withoutHash q) = none := Option.isNone_iff_eq_none.mp hto
    have hkey : Channel.get w (w.chan ch).m_name = some ch := hkeyed.index_name hch
    obtain ⟨message, hmessage⟩ := optionalArg_ok (p :: q :: rest) 2
    have hne : withoutHash p ≠ withoutHash q := fun he => by
      rw [he, hto] at hch
      cases hch
    refine ⟨(Channel.rename
      { old_name := withoutHash p, new_name := withoutHash q, account := (w.conn c).m_account
        message := message, channel := ch } w).2, ch, withoutHash q, ?_,
      Channel.rename_rooms_quiet hpy hne hkey, hkey, hto⟩
    unfold handleRENAME
    rw [if_neg (by simp)]
    refine bind_eq_ok.mpr ⟨withoutHash p, rfl, bind_eq_ok.mpr ⟨withoutHash q, rfl, ?_⟩⟩
    have hch' : Channel.get w (withoutHash p) = some ch := hch
    dsimp only
    rw [hch', hto]
    dsimp only
    rw [hmessage]
    rfl

/-- a RENAME that is carried out leaves its channel under the old name -/
theorem step_not_named (hkeyed : w.rooms.Keyed) (hpy : w.NoHandlers)
    (hev : renamesChannel w ev = true) : ∃ w', step env w ev = .ok w' ∧ ¬ NamesAgree w' := by
  cases ev with
  | line c line =>
    obtain ⟨hlive, hcmd⟩ := Bool.and_eq_true_iff.mp hev
    obtain ⟨⟨cmd, args⟩, hcmd, hren⟩ := (Option.any_eq_true _ _).mp hcmd
    replace hren : renames cmd args (handlerWorld c line w) = true := hren
    rw [handlerWorld_of_noHandlers hpy] at hren
    have hstep : step env w (.line c line) = _ := step_line_quiet hpy hlive hcmd
    have hcmdr : cmd = .RENAME := by
      cases cmd <;> first | rfl | cases hren
    subst hcmdr
    obtain ⟨w', ch, n, hw', hrooms, hch, hn⟩ := handleRENAME_rooms (c := c) hkeyed hpy hren
    refine ⟨w', hstep.trans hw', fun hagree => ?_⟩
    have hindex : w'.rooms.index (w.rooms.name ch) = some ch := by
      rw [hrooms]
      exact hch
    have hname : w'.rooms.name ch = n := by
      rw [hrooms]
      exact if_pos rfl
    have hsame : w'.rooms.name ch = w.rooms.name ch := hagree.index _ ch hindex
    rw [← hsame, hname, hn] at hch
    cases hch
  | _ => cases hev

/-- **Channel names.**  In every run from a state with right keys in which no RENAME is carried out,
the keys are right in every state; without handlers they are right, and every renamed channel is
found under its new name only, in no other run. -/
theorem channel_names_iff (hkeyed : w.rooms.Keyed) (evs : List Event) :
    (AllSteps (step env) (fun w ev => renamesChannel w ev = false) w evs →
      AllSteps (step env) (fun w ev => ∀ w', step env w ev = .ok w' →
        NamesAgree w' ∧ RenameFound w ev w') w evs) ∧
    (w.NoHandlers →
      AllSteps (step env) (fun w ev => ∀ w', step env w ev = .ok w' →
        NamesAgree w' ∧ RenameFound w ev w') w evs →
      AllSteps (step env) (fun w ev => renamesChannel w ev = false) w evs) := by
  have hgood (w : World) (ev : Event) (hk : w.rooms.Keyed) (hev : renamesChannel w ev = false)
      (w' : World) (h : step env w ev = .ok w') : NamesAgree w' ∧ RenameFound w ev w' := by
    refine ⟨namesAgree (step_keyed hk hev h), ?_⟩
    rintro c line p q rest rfl hlive hcmd hren
    replace hev : ((w.conn c).live && (lineCommand c line w).any fun q =>
      renames q.1 q.2 (handlerWorld c line w)) = false := hev
    rw [hlive, hcmd] at hev
    replace hev : renames .RENAME (p :: q :: rest) (handlerWorld c line w) = false := hev
    rw [hren] at hev
    cases hev
  constructor
  · intro hall
    refine (allSteps_keep (I := fun w => w.rooms.Keyed) (fun w ev w' hk hev h =>
      step_keyed hk hev h) hkeyed hall).mono fun w ev h => hgood w ev h.1 h.2
  · intro hpy hall
    have hnever (w : World) (ev : Event) (hk : w.rooms.Keyed ∧ w.NoHandlers)
        (h : ∀ w', step env w ev = .ok w' → NamesAgree w' ∧ RenameFound w ev w') :
        renamesChannel w ev = false := by
      by_contra hne
      obtain ⟨w', hw', hnot⟩ := step_not_named hk.1 hk.2 (Bool.not_eq_false _ ▸ hne)
      exact hnot (h w' hw').1
    refine (allSteps_keep (I := fun w => w.rooms.Keyed ∧ w.NoHandlers) (fun w ev w' hk hev h =>
      ⟨step_keyed hk.1 (hnever w ev hk hev) h, step_noHandlers hk.2 h⟩) ⟨hkeyed, hpy⟩ hall).mono
      fun w ev h => hnever w ev h.1 h.2

end

/-- ann joins `#old`, and the channel is renamed -/
def annRenames : List Event :=
  registration 0 false "ann" ++ [.line 0 (ascii "JOIN #old"), .line 0 (ascii "RENAME #old #new")]

set_option maxRecDepth 8000 in
/-- the renamed channel is found under its old name, and not under the new one -/
theorem rename_not_found : ∃ w', run (step Env.ascii) World.empty annRenames = .ok w' ∧
    (w'.chan 0).m_name = ascii "new" ∧ Channel.get w' (ascii "old") = some 0 ∧
    Channel.get w' (ascii "new") = none ∧ (w'.acc 0).channels[ascii "old"]? = some (some 0) ∧
    (w'.conn 0).channels[ascii "old"]? = some 0 := by
  unfold annRenames
  rw [run_registration ann_letsIn]
  exact ⟨_, rfl, rfl, rfl, rfl, rfl, rfl⟩

theorem empty_keyed : World.empty.rooms.Keyed := by
  have hindex (n : Bytes) : World.empty.rooms.index n = none := Std.ExtTreeMap.getElem?_empty
  have hentered (c : ConnId) (n : Bytes) : World.empty.rooms.entered c n = none :=
    Std.ExtTreeMap.getElem?_empty
  have hlisted (a : AccId) (n : Bytes) : (World.empty.rooms.listed a)[n]? = none :=
    Std.ExtTreeMap.getElem?_empty
  refine ⟨fun n ch h => ?_, fun a n p h => ?_, fun c n ch h => ?_, fun ch a h => ?_⟩
  · rw [hindex] at h
    cases h
  · rw [hlisted] at h
    cases h
  · rw [hentered] at h
    cases h
  · cases h

set_option maxRecDepth 8000 in
/-- without the RENAME the keys are right all along -/
theorem channel_names_iff_ann : AllSteps (step Env.ascii) (fun w ev => ∀ w',
    step Env.ascii w ev = .ok w' → NamesAgree w' ∧ RenameFound w ev w') World.empty
      (registration 0 false "ann" ++ [.line 0 (ascii "JOIN #old")]) := by
  have hquiet : checkSteps (step Env.ascii) (fun w ev => !renamesChannel w ev) World.empty
      (registration 0 false "ann" ++ [.line 0 (ascii "JOIN #old")]) = true := by
    rw [check_registration ann_letsIn]
    rfl
  refine (channel_names_iff empty_keyed _).1 ?_
  exact (allSteps_of_check hquiet).mono fun w ev h => by simpa using h

end Worker

end Chatripper
