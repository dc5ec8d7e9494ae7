import Mathlib
import Chatripper.Membership

/-!
# Members and the account registry

Joining makes members, and disconnecting and merging take accounts out of the registry.  Neither of
these sees the channels.

* `SysStep.keepsAccount`   which steps take an account out of the registry;
* `SiteStep.ghostInv`      members stay registered as long as such an account is in no channel;
* `no_ghosts`              in every run in which no account is left behind so, every member of every
  channel is registered in every state.
-/

namespace Chatripper
open ByteStr Utf8 Outcome

/-! ## who leaves the registry -/

namespace Reg

section
variable {r r' : Reg} {a : AccId}

/-- **One step.**  An account leaves the registry with its connection or by a merge, without a
name. -/
theorem SysStep.keepsAccount {l : SysLabel} (h : RegistryInv r) (hstep : SysStep l r r')
    (ha : a ∈ r.accounts) : a ∈ r'.accounts ∨ (r.acc a).m_name = [] ∧
      ((∃ c, l = .disconnect c ∧ (r.conn c).m_account = some a) ∨ ∃ c b, l = .conn c (.merge b a)) := by
  cases hstep with
  | connect => exact Or.inl ha
  | @disconnect c _ hlive =>
    cases hc : (r.conn c).m_account with
    | none =>
      rw [disconnect_none hc]
      exact Or.inl ha
    | some b =>
      rw [disconnect_some hc, h.toRegistry.leaveAccount_eq (h.made c b hc)]
      dsimp only
      split
      · next hanon =>
        split
        · by_cases hx : a = b
          · exact Or.inr ⟨by rw [hx]; exact hanon, Or.inl ⟨c, rfl, by rw [hc, hx]⟩⟩
          · exact Or.inl (mem_erase_accounts.mpr ⟨hx, ha⟩)
        · exact Or.inl ha
      · exact Or.inl ha
  | @conn c _ _ _ hlive hstep =>
    cases hstep with
    | registerNew =>
      refine Or.inl ?_
      show a ∈ r.accounts.insert r.nextAcc
      rw [Std.ExtTreeSet.mem_insert]
      exact Or.inr ha
    | @merge d b _ _ _ hanon _ =>
      by_cases hx : a = b
      · exact Or.inr ⟨by rw [hx]; exact hanon, Or.inr ⟨c, d, by rw [hx]⟩⟩
      · exact Or.inl (mem_erase_accounts.mpr ⟨hx, ha⟩)
    | _ => exact Or.inl ha

theorem SysStep.live_of_disconnect {c : ConnId} (h : SysStep (.disconnect c) r r') :
    (r.conn c).live = true := by
  cases h
  assumption

/-- a connection that is not ready comes to an account by its name -/
theorem SysStep.unready {l : SysLabel} {d : ConnId} (hstep : SysStep l r r')
    (hready : (r'.conn d).is_ready = false) (hacc : (r'.conn d).m_account = some a) :
    ((r.conn d).is_ready = false ∧ (r.conn d).m_account = some a) ∨
      ∃ u : Bytes, r.accounts_lookup_name[u]? = some a := by
  -- a connection of which neither field changes
  have hupd {c : ConnId} {f : ConnReg → ConnReg} (hf : ∀ k, (f k).is_ready = k.is_ready ∧
      (f k).m_account = k.m_account) (hr : ((r.updConn c f).conn d).is_ready = false)
      (ha : ((r.updConn c f).conn d).m_account = some a) :
      (r.conn d).is_ready = false ∧ (r.conn d).m_account = some a := by
    rw [updConn_conn] at hr ha
    by_cases hd : d = c
    · rw [if_pos hd] at hr ha
      rw [hd]
      exact ⟨(hf _).1.symm.trans hr, (hf _).2.symm.trans ha⟩
    · rw [if_neg hd] at hr ha
      exact ⟨hr, ha⟩
  -- a login without an account before it, or with one
  have hlogin {c : ConnId} {b : AccId} (hr : ((r.login c b).conn d).is_ready = false)
      (ha : ((r.login c b).conn d).m_account = some a) :
      ((r.conn d).is_ready = false ∧ (r.conn d).m_account = some a) ∨
        d = c ∧ (r.conn c).m_account = none ∧ a = b := by
    rw [login_conn] at hr ha
    by_cases hd : d = c
    · rw [if_pos hd] at hr ha
      rw [hd]
      cases hc : (r.conn c).m_account with
      | none =>
        replace ha : some ((r.conn c).m_account.getD b) = some a := ha
        rw [hc] at ha
        exact Or.inr ⟨rfl, rfl, (Option.some.inj ha).symm⟩
      | some x =>
        replace ha : some ((r.conn c).m_account.getD b) = some a := ha
        rw [hc] at ha
        exact Or.inl ⟨hr, ha⟩
    · rw [if_neg hd] at hr ha
      exact Or.inl ⟨hr, ha⟩
  cases hstep with
  | connect =>
    have hconn : r.connect.conn d =
      if d = r.nextConn then { ({} : Conn).reg with live := true } else r.conn d := rfl
    rw [hconn] at hready hacc
    by_cases hd : d = r.nextConn
    · rw [if_pos hd] at hacc
      cases hacc
    · rw [if_neg hd] at hready hacc
      exact Or.inl ⟨hready, hacc⟩
  | @disconnect c _ hlive =>
    rw [disconnect_conn] at hready hacc
    by_cases hd : d = c
    · rw [if_pos hd] at hready hacc
      rw [hd]
      exact Or.inl ⟨hready, hacc⟩
    · rw [if_neg hd] at hready hacc
      exact Or.inl ⟨hready, hacc⟩
  | @conn c _ _ _ hlive hstep =>
    cases hstep with
    | @giveNick n =>
      refine Or.inl (hupd (c := c) (f := fun k => { k with
        m_nick := n, setup_tasks := k.setup_tasks.clear .NICK }) (fun _ => ⟨rfl, rfl⟩) hready hacc)
    | @clear t =>
      refine Or.inl (hupd (c := c) (f := fun k => { k with setup_tasks := k.setup_tasks.clear t })
        (fun _ => ⟨rfl, rfl⟩) hready hacc)
    | refuse => exact Or.inl ⟨hready, hacc⟩
    | registerNew =>
      rw [registerNew_conn] at hready hacc
      by_cases hd : d = c
      · rw [if_pos hd] at hready
        cases hready
      · rw [if_neg hd] at hready hacc
        exact Or.inl ⟨hready, hacc⟩
    | registerOld =>
      rw [registerOld_conn] at hready hacc
      by_cases hd : d = c
      · rw [if_pos hd] at hready
        cases hready
      · rw [if_neg hd] at hready hacc
        exact Or.inl ⟨hready, hacc⟩
    | rename => exact Or.inl ⟨hready, hacc⟩
    | @login b u _ hnone hname =>
      rcases hlogin hready hacc with h | ⟨-, -, rfl⟩
      · exact Or.inl h
      · exact Or.inr ⟨u, hname⟩
    | @relogin b x _ hsome hname =>
      rcases hlogin hready hacc with h | ⟨-, hnone, -⟩
      · exact Or.inl h
      · rw [hnone] at hsome
        cases hsome
    | @merge b x u _ hsome hanon hname =>
      have hsame : ((r.merge b x).login c b).conn d = (r.login c b).conn d := rfl
      rw [hsame] at hready hacc
      rcases hlogin hready hacc with h | ⟨-, hnone, -⟩
      · exact Or.inl h
      · rw [hnone] at hsome
        cases hsome

end

end Reg

/-! ## the members -/

/-- the members are registered, and so are the accounts that connections are about to be ready on -/
structure Site.GhostInv (s : Site) : Prop where
  registry : s.reg.RegistryInv
  /-- a connection that is not ready has logged in to its account -/
  unready : ∀ c a, (s.reg.conn c).is_ready = false → (s.reg.conn c).m_account = some a →
    a ∈ s.reg.accounts ∧ (s.reg.acc a).m_name ≠ []
  member : ∀ ch a, a ∈ s.rooms.members ch → a ∈ s.reg.accounts ∧ ch < s.rooms.nextChan
  index : ∀ n ch, s.rooms.index n = some ch → ch < s.rooms.nextChan
  listed : ∀ a (n : Bytes) ch, (s.rooms.listed a)[n]? = some (some ch) → ch < s.rooms.nextChan

/-- the account is in no channel -/
def Rooms.Free (R : Rooms) (a : AccId) : Prop := ∀ ch, a ∉ R.members ch

/-- accounts leave the registry from outside of the channels, and others do not join -/
def SiteLabel.Kept (s : Site) : SiteLabel → Prop
  | .sys (.disconnect c) => (s.reg.conn c).live = true →
    ∀ a, (s.reg.conn c).m_account = some a → (s.reg.acc a).m_name = [] → s.rooms.Free a
  | .sys (.conn _ (.merge _ a)) => s.rooms.Free a
  | .join _ a _ => a ∈ s.reg.accounts
  | _ => True

namespace Rooms

section
variable {t : Ties} {R : Rooms} {a : AccId} {ch : ChanId}

/-- channels that the halls refer to have been made -/
theorem made_join (hindex : ∀ n x, R.index n = some x → x < R.nextChan)
    (hlisted : ∀ a (n : Bytes) x, (R.listed a)[n]? = some (some x) → x < R.nextChan) :
    (R.join t ch a).nextChan = R.nextChan ∧
      ∀ b (n : Bytes) x, ((R.join t ch a).listed b)[n]? = some (some x) → x < R.nextChan := by
  have hhalls := join_toHalls t ch a R
  refine ⟨(congrArg Halls.nextChan hhalls).trans (Halls.addMember_nextChan _ _ _), fun b n x h => ?_⟩
  have hlist : (R.join t ch a).listed b = (R.toHalls.addMember ch a).listed b :=
    congrFun (congrArg Halls.listed hhalls) b
  rw [hlist, Halls.addMember_listed] at h
  split at h
  · rw [lookup_insert] at h
    split at h
    · exact hindex _ x (Option.some.inj h)
    · exact hlisted a n x h
  · exact hlisted b n x h

end

end Rooms

section
variable {l : SiteLabel} {s s' : Site}

/-- the channels that the rooms refer to have been made, also after a step -/
theorem SiteStep.made (hstep : SiteStep l s s')
    (hmember : ∀ ch a, a ∈ s.rooms.members ch → ch < s.rooms.nextChan)
    (hindex : ∀ n ch, s.rooms.index n = some ch → ch < s.rooms.nextChan)
    (hlisted : ∀ a (n : Bytes) ch, (s.rooms.listed a)[n]? = some (some ch) → ch < s.rooms.nextChan) :
    (∀ ch a, a ∈ s'.rooms.members ch → ch < s'.rooms.nextChan) ∧
      (∀ n ch, s'.rooms.index n = some ch → ch < s'.rooms.nextChan) ∧
      ∀ a (n : Bytes) ch, (s'.rooms.listed a)[n]? = some (some ch) → ch < s'.rooms.nextChan := by
  cases hstep with
  | @sys l r r' R hsys =>
    cases l with
    | connect => exact ⟨hmember, hindex, hlisted⟩
    | disconnect c => exact ⟨hmember, hindex, hlisted⟩
    | conn c k =>
      cases k with
      | registerNew n =>
        refine ⟨hmember, hindex, fun a k ch h => ?_⟩
        replace h : (if a = r.nextAcc then ∅ else R.listed a)[k]? = some (some ch) := h
        split at h
        · rw [Std.ExtTreeMap.getElem?_empty] at h
          cases h
        · exact hlisted a k ch h
      | registerOld a =>
        have hall := Rooms.rejoin_inv (t := r'.ties) (a := a) (R := R)
          (I := fun R' => R'.nextChan = R.nextChan ∧ R'.index = R.index ∧
            (∀ ch b, b ∈ R'.members ch → ch < R.nextChan) ∧
            ∀ b (n : Bytes) ch, (R'.listed b)[n]? = some (some ch) → ch < R.nextChan)
          ⟨rfl, rfl, hmember, hlisted⟩ ?_
        · obtain ⟨hnext, hsame, hm, hl⟩ := hall
          refine ⟨fun ch b hb => ?_, fun n ch hn => ?_, fun b n ch hb => ?_⟩
          · exact Nat.lt_of_lt_of_eq (hm ch b hb) hnext.symm
          · refine Nat.lt_of_lt_of_eq (hindex n ch ?_) hnext.symm
            rw [← hsame]
            exact hn
          · exact Nat.lt_of_lt_of_eq (hl b n ch hb) hnext.symm
        · rintro R' ch ⟨n, hn⟩ ⟨hnext, hsame, hm, hl⟩
          have hj := @Rooms.made_join r'.ties R' a ch
            (fun n x hx => by rw [hnext]; exact hindex n x (hsame ▸ hx))
            (fun b n x hx => by rw [hnext]; exact hl b n x hx)
          refine ⟨hj.1.trans hnext, by rw [Rooms.join_index, hsame], fun x b hb => ?_, ?_⟩
          · rcases (Rooms.mem_join r'.ties ch a R').mp hb with hb | ⟨rfl, -⟩
            · exact hm x b hb
            · exact hlisted a n x hn
          · rw [← hnext]
            exact hj.2
      | _ => exact ⟨hmember, hindex, hlisted⟩
  | @create c n r R hn =>
    refine ⟨fun ch a h => ?_, fun k ch h => ?_, fun a k ch h => Nat.lt_succ_of_lt (hlisted a k ch h)⟩
    · replace h : a ∈ (if ch = R.nextChan then [] else R.members ch) := h
      split at h
      · cases h
      · exact Nat.lt_succ_of_lt (hmember ch a h)
    · replace h : (if k = n then some R.nextChan else R.index k) = some ch := h
      split at h
      · cases h
        exact Nat.lt_succ_self _
      · exact Nat.lt_succ_of_lt (hindex k ch h)
  | @join c a ch r R hacc hch =>
    obtain ⟨n, hn⟩ := hch
    have hj := @Rooms.made_join r.ties R a ch hindex hlisted
    refine ⟨fun x b hb => Nat.lt_of_lt_of_eq ?_ hj.1.symm, fun k x hx =>
      Nat.lt_of_lt_of_eq (hindex k x ?_) hj.1.symm, fun b k x hb =>
      Nat.lt_of_lt_of_eq (hj.2 b k x hb) hj.1.symm⟩
    · rcases (Rooms.mem_join r.ties ch a R).mp hb with hb | ⟨rfl, -⟩
      · exact hmember x b hb
      · exact hindex n x hn
    · rw [← Rooms.join_index r.ties ch a R]
      exact hx
  | @part c a ch r R =>
    exact ⟨fun x b hb => hmember x b ((Halls.mem_leave R.toHalls ch x a b).mp hb).1, hindex, hlisted⟩
  | rename => exact ⟨hmember, hindex, hlisted⟩
  | @deliver c ch a m r R =>
    have hsame : ((R.take c).channelPart r.ties c ch a).toHalls = R.toHalls :=
      Rooms.channelPart_toHalls _ _ _ _ _
    show (∀ x b, b ∈ ((R.take c).channelPart r.ties c ch a).toHalls.members x →
      x < ((R.take c).channelPart r.ties c ch a).toHalls.nextChan) ∧ _
    refine ⟨?_, ?_, ?_⟩
    · rw [hsame]
      exact hmember
    · show ∀ n x, ((R.take c).channelPart r.ties c ch a).toHalls.index n = some x →
        x < ((R.take c).channelPart r.ties c ch a).toHalls.nextChan
      rw [hsame]
      exact hindex
    · show ∀ b (n : Bytes) x,
        (((R.take c).channelPart r.ties c ch a).toHalls.listed b)[n]? = some (some x) →
          x < ((R.take c).channelPart r.ties c ch a).toHalls.nextChan
      rw [hsame]
      exact hlisted
  | lose => exact ⟨hmember, hindex, hlisted⟩

/-- **One step.**  Members stay registered when the accounts that leave are in no channel. -/
theorem SiteStep.ghostInv (hl : l.Kept s) (h : s.GhostInv) (hstep : SiteStep l s s') :
    s'.GhostInv := by
  obtain ⟨hmade, hindex, hlisted⟩ :=
    hstep.made (fun ch a ha => (h.member ch a ha).2) h.index h.listed
  have hregistry : s'.reg.RegistryInv := by
    rcases hstep.reg_cases with ⟨k, -, hk⟩ | hreg
    · exact hk.registryInv h.registry
    · rw [hreg]
      exact h.registry
  refine ⟨hregistry, fun c a hready hacc => ?_, fun ch a ha => ⟨?_, hmade ch a ha⟩, hindex, hlisted⟩
  · rcases hstep.reg_cases with ⟨k, -, hk⟩ | hreg
    · have hbefore : a ∈ s.reg.accounts ∧ (s.reg.acc a).m_name ≠ [] := by
        rcases hk.unready hready hacc with ⟨hready, hacc⟩ | ⟨u, hu⟩
        · exact h.unready c a hready hacc
        · obtain ⟨ha, hname, hne⟩ := (h.registry.name u a).mp hu
          exact ⟨ha, by rw [hname]; exact hne⟩
      obtain ⟨ha, hname⟩ := hk.keepsNamed h.registry hbefore.1 hbefore.2
      exact ⟨ha, by rw [hname]; exact hbefore.2⟩
    · rw [hreg] at hready hacc ⊢
      exact h.unready c a hready hacc
  · -- a member of before, or one that has just come
    have hbefore : a ∈ s.reg.accounts := by
      rcases hstep.mem_members ha with hm | ⟨c, hacc, rfl | ⟨-, hready⟩⟩
      · exact (h.member ch a hm).1
      · exact hl
      · exact (h.unready c a hready hacc).1
    rcases hstep.reg_cases with ⟨k, rfl, hk⟩ | hreg
    · have hsame : ∀ d, k = .disconnect d ∨ (∃ b x, k = .conn d (.merge b x)) →
          a ∈ s.rooms.members ch := by
        intro d hd
        rcases hstep.mem_members ha with hm | ⟨c, -, he | ⟨he, -⟩⟩
        · exact hm
        · cases he
        · cases he
          rcases hd with he | ⟨b, x, he⟩
          · cases he
          · cases he
      rcases hk.keepsAccount h.registry hbefore with hkeep | ⟨hanon, ⟨d, rfl, hacc⟩ | ⟨d, b, rfl⟩⟩
      · exact hkeep
      · exact absurd (hsame d (Or.inl rfl)) (hl hk.live_of_disconnect a hacc hanon ch)
      · exact absurd (hsame d (Or.inr ⟨b, a, rfl⟩)) (hl ch)
    · rw [hreg]
      exact hbefore

end

/-! ## runs of the server -/

namespace Worker
open World client_connection

/-- the account is a member of some channel -/
def inChannel (a : AccId) (w : World) : Bool :=
  (List.range w.nextChan).any fun ch => (w.chan ch).m_members.contains a

/-- does the event take an account out of the registry that is in a channel -/
def abandons (env : Env) (w : World) : Event → Bool
  | .disconnect c => (w.conn c).live &&
    (w.conn c).m_account.any fun a => (w.acc a).m_name == [] && inChannel a w
  | .line c line => mergesLogin env w (.line c line) &&
    (w.conn c).m_account.any fun b => inChannel b w
  | _ => false

/-- is the event a JOIN of an account that is in the registry no more -/
def joinsUnregistered (w : World) (ev : Event) : Bool :=
  onCommand (fun c cmd args w => !(joinNames cmd args).isEmpty &&
    (w.conn c).m_account.any fun a => !w.ctx.accounts.contains a) w ev

section
variable {env : Env} {w w' : World} {ev : Event}

theorem free_of_inChannel {a : AccId} (hinv : w.site.GhostInv) (h : inChannel a w = false) :
    w.rooms.Free a := by
  intro ch hmem
  have hlt : ch < w.nextChan := (hinv.member ch a hmem).2
  have hin : (w.chan ch).m_members.contains a = true := List.contains_iff_mem.mpr hmem
  have hany : inChannel a w = true := List.any_eq_true.mpr ⟨ch, List.mem_range.mpr hlt, hin⟩
  rw [h] at hany
  cases hany

theorem Allowed.kept {l : SiteLabel} {s : Site} (hinv : w.site.GhostInv)
    (hleave : abandons env w ev = false) (hjoin : joinsUnregistered w ev = false)
    (h : Allowed env w ev l s) : l.Kept s := by
  cases ev with
  | connect isWebSocket ip =>
    cases l with
    | sys k =>
      cases k with
      | connect => trivial
      | _ => cases h
    | _ => cases h
  | deliver c =>
    cases l with
    | deliver d => trivial
    | _ => cases h
  | disconnect c =>
    cases l with
    | sys k =>
      cases k with
      | disconnect d =>
        obtain ⟨rfl, rfl⟩ := h
        intro hlive a hacc hanon
        refine free_of_inChannel hinv ?_
        replace hlive : (w.conn d).live = true := hlive
        replace hacc : (w.conn d).m_account = some a := hacc
        replace hanon : (w.acc a).m_name = [] := hanon
        replace hleave : ((w.conn d).live &&
          (w.conn d).m_account.any fun a => (w.acc a).m_name == [] && inChannel a w) = false := hleave
        rw [hlive, hacc] at hleave
        simpa [hanon] using hleave
      | _ => cases h
    | _ => cases h
  | line c line =>
    cases l with
    | join d a ch =>
      obtain ⟨cmd, args, hp, rfl, -, hacc, ⟨n, hn, -⟩, hnear⟩ := h.command hjoin
      have hsome : (joinNames cmd args).isEmpty = false := by
        cases hnames : joinNames cmd args with
        | nil =>
          rw [hnames] at hn
          cases hn
        | cons => rfl
      rw [hsome, hacc] at hp
      show a ∈ s.reg.accounts
      rw [hnear.accounts]
      exact Std.ExtTreeSet.contains_iff_mem.mp (by simpa using hp)
    | sys k =>
      cases k with
      | conn d k =>
        cases k with
        | merge b a =>
          have hmerges := h.merging
          obtain ⟨hlive, cmd, args, hcmd, rfl, hlabel, -, hrooms, -⟩ := h
          have hacc : (w.conn d).m_account = some a := by
            obtain ⟨args', hauth⟩ := LineLabel.auth ⟨cmd, args, hcmd, hlabel⟩ rfl
            rw [hcmd] at hauth
            cases hauth
            have hacc : ((handlerWorld d line w).conn d).m_account = some a := hlabel.2.1
            rw [conn_handlerWorld] at hacc
            exact hacc
          replace hleave : (mergesLogin env w (.line d line) &&
            (w.conn d).m_account.any fun b => inChannel b w) = false := hleave
          rw [hmerges, hacc] at hleave
          show s.rooms.Free a
          rw [hrooms, rooms_handlerWorld]
          exact free_of_inChannel hinv (by simpa using hleave)
        | _ => trivial
      | connect => trivial
      | disconnect d =>
        obtain ⟨-, cmd, args, -, hsite⟩ := h
        cases hsite
    | _ => trivial

theorem Started.ghostInv (h : Started w) : w.site.GhostInv := by
  have hindex (n : Bytes) (ch : ChanId) (hn : w.rooms.index n = some ch) : ch < w.nextChan :=
    (h.keyed.index n ch hn).2
  refine ⟨h.registryInv, fun c a _ hacc => ?_, fun ch a ha => ⟨?_, ?_⟩, hindex, fun a n ch hl => ?_⟩
  · replace hacc : (w.conn c).m_account = some a := hacc
    rw [(h.unready c).2] at hacc
    cases hacc
  · exact (h.made a).mpr (h.membersMade ch a ha)
  · exact hindex _ ch (h.keyed.members ch a ha)
  · obtain ⟨x, hx, hn⟩ := h.keyed.listed a n (some ch) hl
    cases hx
    exact hindex n ch hn

variable {evs : List Event}

/-- **No ghost members.**  In every run of a server in which no account that is in a channel leaves the
registry, with its last connection or by a merge, and no account that has left it joins, every member
of every channel is registered in every state, and an account without a name or a connection is in no
channel. -/
theorem no_ghosts (hstart : Started w)
    (hleave : AllSteps (step env) (fun w ev => abandons env w ev = false) w evs)
    (hjoin : AllSteps (step env) (fun w ev => joinsUnregistered w ev = false) w evs)
    (hrun : run (step env) w evs = .ok w') :
    (∀ ch a, a ∈ (w'.chan ch).m_members → a ∈ w'.ctx.accounts) ∧
      ∀ a, (w'.acc a).m_name = [] → (w'.acc a).connections = [] →
        ∀ ch, a ∉ (w'.chan ch).m_members := by
  have hinv : w'.site.GhostInv := by
    refine run_site (I := fun s => s.GhostInv) (C := fun w ev => abandons env w ev = false ∧
      joinsUnregistered w ev = false) (fun w ev l s s' hC hw hs hallowed hstep => ?_) hstart.ghostInv
      (hleave.and hjoin) hrun
    exact hstep.ghostInv (hallowed.kept hw hC.1 hC.2) hs
  refine ⟨fun ch a ha => (hinv.member ch a ha).1, fun a hanon hnone ch ha => ?_⟩
  obtain ⟨c, hc, -⟩ := hinv.registry.anonymous a (hinv.member ch a ha).1 hanon
  replace hc : c ∈ (w'.acc a).connections := hc
  rw [hnone] at hc
  cases hc

end

/-- ann joins and goes -/
def annGoes : List Event :=
  registration 0 false "ann" ++ [.line 0 (ascii "JOIN #x"), .disconnect 0]

set_option maxRecDepth 8000 in
/-- the channel still has a member that is in no registry and has no connection -/
theorem ghost_member : ∃ w', run (step Env.ascii) World.empty annGoes = .ok w' ∧
    (w'.chan 0).m_members = [0] ∧ w'.ctx.accounts.contains 0 = false ∧ (w'.acc 0).m_name = [] ∧
    (w'.acc 0).connections = [] := by
  unfold annGoes
  rw [run_registration ann_letsIn]
  exact ⟨_, rfl, rfl, rfl, rfl, rfl⟩

set_option maxRecDepth 8000 in
/-- ann parts before she goes -/
theorem no_ghosts_ann : ∃ w', run (step Env.ascii) World.empty (annParts ++ [.disconnect 0]) = .ok w' ∧
    ∀ ch a, a ∈ (w'.chan ch).m_members → a ∈ w'.ctx.accounts := by
  have hkept : checkSteps (step Env.ascii)
      (fun w ev => !abandons Env.ascii w ev && !joinsUnregistered w ev) World.empty
      (annParts ++ [.disconnect 0]) = true := by
    unfold annParts
    rw [List.append_assoc, check_registration ann_letsIn]
    rfl
  have hsteps := allSteps_of_check hkept
  have hend : ∃ w', run (step Env.ascii) World.empty (annParts ++ [.disconnect 0]) = .ok w' := by
    unfold annParts
    rw [List.append_assoc, run_registration ann_letsIn]
    exact ⟨_, rfl⟩
  obtain ⟨w', hrun⟩ := hend
  refine ⟨w', hrun, (no_ghosts empty_started (hsteps.mono fun w ev h => ?_)
    (hsteps.mono fun w ev h => ?_) hrun).1⟩
  · exact (by simpa using h : abandons Env.ascii w ev = false ∧ joinsUnregistered w ev = false).1
  · exact (by simpa using h : abandons Env.ascii w ev = false ∧ joinsUnregistered w ev = false).2

end Worker

end Chatripper
