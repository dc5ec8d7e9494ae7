import Mathlib
import Chatripper.Irc.Site
import Chatripper.Irc.Registering
import Chatripper.Links

/-!
# Who is sent a message, and how often

`Channel::message` goes through the members, and for each member through its connections.  No
connection comes up twice: a member is listed once, an account lists a connection once, and no
connection is listed by two accounts, also after one account was merged into another.
`Account::message` goes through the connections of the destination and then through those of the
sender, which may be the same.

* `SysStep.listInv`        the connection lists of accounts go on having no connection in common;
* `SiteStep.membersNodup`  the member lists go on having no duplicates;
* `fanout_exact`           in every state of every run, the calls of a channel message and the lines
  that they emit;
* `private_fanout_iff`     when a private message goes to each connection once.
-/

namespace Chatripper
open ByteStr Utf8 Outcome

/-! ## the connection lists -/

namespace Reg

/-- an account lists connections that have registered, each once, and no two accounts list the
same -/
structure ListInv (r : Reg) : Prop where
  fresh : ∀ c, (r.conn c).live = true → c < r.nextConn
  ready : ∀ c a, c ∈ (r.acc a).connections → (r.conn c).is_ready = true ∧ c < r.nextConn
  nodup : ∀ a, (r.acc a).connections.Nodup
  disjoint : ∀ c a b, c ∈ (r.acc a).connections → c ∈ (r.acc b).connections → a = b
  registered : ∀ (u : Bytes) (a : AccId), r.accounts_lookup_name[u]? = some a →
    a < r.nextAcc ∧ (r.acc a).m_name ≠ []

section
variable {r r' : Reg} {c : ConnId} {a b : AccId}

/-- the lists are the same, and no connection that is listed starts over -/
theorem ListInv.same (h : ListInv r)
    (hfresh : ∀ d, (r'.conn d).live = true → d < r'.nextConn)
    (hlist : ∀ a, (r'.acc a).connections = (r.acc a).connections)
    (hready : ∀ d, d < r.nextConn → (r.conn d).is_ready = true → (r'.conn d).is_ready = true)
    (hnext : r.nextConn ≤ r'.nextConn)
    (hregistered : ∀ (u : Bytes) (a : AccId), r'.accounts_lookup_name[u]? = some a →
      a < r'.nextAcc ∧ (r'.acc a).m_name ≠ []) : ListInv r' := by
  refine ⟨hfresh, fun d a hd => ?_, fun a => ?_, fun d a b ha hb => ?_, hregistered⟩
  · rw [hlist] at hd
    obtain ⟨hr, hlt⟩ := h.ready d a hd
    exact ⟨hready d hlt hr, Nat.lt_of_lt_of_le hlt hnext⟩
  · rw [hlist]
    exact h.nodup a
  · rw [hlist] at ha hb
    exact h.disjoint d a b ha hb

theorem ListInv.updConn {f : ConnReg → ConnReg} (h : ListInv r)
    (hf : (f (r.conn c)).live = (r.conn c).live ∧ (f (r.conn c)).is_ready = (r.conn c).is_ready) :
    ListInv (r.updConn c f) := by
  have hconn (d : ConnId) : ((r.updConn c f).conn d).live = (r.conn d).live ∧
      ((r.updConn c f).conn d).is_ready = (r.conn d).is_ready := by
    rw [updConn_conn]
    by_cases hd : d = c
    · rw [if_pos hd, hd]
      exact hf
    · rw [if_neg hd]
      exact ⟨rfl, rfl⟩
  exact h.same (fun d hd => h.fresh d ((hconn d).1 ▸ hd)) (fun _ => rfl)
    (fun d _ hd => (hconn d).2.trans hd) (Nat.le_refl _) h.registered

/-- a connection that registers is added to one list -/
theorem ListInv.enrol (h : ListInv r) (hlive : (r.conn c).live = true)
    (hready : (r.conn c).is_ready = false)
    (hconn : ∀ d, d ≠ c → r'.conn d = r.conn d) (hc : (r'.conn c).is_ready = true)
    (hnext : r'.nextConn = r.nextConn)
    (hlist : (r'.acc a).connections = (r.acc a).connections ++ [c] ∨ (r'.acc a).connections = [c])
    (hother : ∀ b, b ≠ a → (r'.acc b).connections = (r.acc b).connections)
    (hregistered : ∀ (u : Bytes) (a : AccId), r'.accounts_lookup_name[u]? = some a →
      a < r'.nextAcc ∧ (r'.acc a).m_name ≠ []) : ListInv r' := by
  have hnot (b : AccId) : c ∉ (r.acc b).connections := fun hc => by
    have := (h.ready c b hc).1
    rw [hready] at this
    cases this
  have hmem (d : ConnId) (b : AccId) (hd : d ∈ (r'.acc b).connections) :
      d ∈ (r.acc b).connections ∨ d = c ∧ b = a := by
    by_cases hb : b = a
    · subst hb
      rcases hlist with hlist | hlist
      · rw [hlist, List.mem_append, List.mem_singleton] at hd
        exact hd.imp_right fun he => ⟨he, rfl⟩
      · rw [hlist, List.mem_singleton] at hd
        exact Or.inr ⟨hd, rfl⟩
    · rw [hother b hb] at hd
      exact Or.inl hd
  refine ⟨fun d hd => ?_, fun d b hd => ?_, fun b => ?_, fun d b b' hb hb' => ?_, hregistered⟩
  · rw [hnext]
    by_cases hx : d = c
    · rw [hx]
      exact h.fresh c hlive
    · rw [hconn d hx] at hd
      exact h.fresh d hd
  · rw [hnext]
    rcases hmem d b hd with hd | ⟨rfl, -⟩
    · have hx : d ≠ c := fun he => hnot b (he ▸ hd)
      rw [hconn d hx]
      exact h.ready d b hd
    · exact ⟨hc, h.fresh d hlive⟩
  · by_cases hb : b = a
    · subst hb
      rcases hlist with hlist | hlist
      · rw [hlist, List.nodup_append]
        refine ⟨h.nodup b, List.nodup_singleton c, fun d hd e he hde => ?_⟩
        rw [List.mem_singleton.mp he] at hde
        exact hnot b (hde ▸ hd)
      · rw [hlist]
        exact List.nodup_singleton c
    · rw [hother b hb]
      exact h.nodup b
  · rcases hmem d b hb with hb | ⟨rfl, rfl⟩
    · rcases hmem d b' hb' with hb' | ⟨rfl, -⟩
      · exact h.disjoint d b b' hb hb'
      · exact absurd hb (hnot b)
    · rcases hmem d b' hb' with hb' | ⟨-, rfl⟩
      · exact absurd hb' (hnot b')
      · rfl

theorem ListInv.merge (h : ListInv r) (hanon : (r.acc b).m_name = [])
    (hname : (r.acc a).m_name ≠ []) : ListInv (r.merge a b) := by
  have hne : a ≠ b := by
    rintro rfl
    exact hname hanon
  have hb : ((r.merge a b).acc b).connections = [] := by
    show (if b = b then _ else _ : AccReg).connections = []
    rw [if_pos rfl]
  have ha : ((r.merge a b).acc a).connections =
      (r.acc a).connections ++ (r.acc b).connections := by
    show (if a = b then _ else if a = a then _ else _ : AccReg).connections = _
    rw [if_neg hne, if_pos rfl]
  have hother (x : AccId) (hxa : x ≠ a) (hxb : x ≠ b) :
      ((r.merge a b).acc x).connections = (r.acc x).connections := by
    show (if x = b then _ else if x = a then _ else r.acc x : AccReg).connections = _
    rw [if_neg hxb, if_neg hxa]
  have hkept (x : AccId) : ((r.merge a b).acc x).m_name = (r.acc x).m_name := by
    show (if x = b then { (if b = a then _ else r.acc b : AccReg) with connections := [] }
      else if x = a then _ else r.acc x : AccReg).m_name = _
    by_cases hx : x = b
    · rw [if_pos hx, if_neg (Ne.symm hne), hx]
    · rw [if_neg hx]
      by_cases hxa : x = a
      · rw [if_pos hxa, hxa]
      · rw [if_neg hxa]
  -- where a connection of the new lists comes from
  have hmem (d : ConnId) (x : AccId) (hd : d ∈ ((r.merge a b).acc x).connections) :
      d ∈ (r.acc x).connections ∧ x ≠ b ∨ x = a ∧ d ∈ (r.acc b).connections := by
    by_cases hxb : x = b
    · rw [hxb, hb] at hd
      cases hd
    · by_cases hxa : x = a
      · rw [hxa, ha, List.mem_append] at hd
        rcases hd with hd | hd
        · exact Or.inl ⟨hxa ▸ hd, hxb⟩
        · exact Or.inr ⟨hxa, hd⟩
      · rw [hother x hxa hxb] at hd
        exact Or.inl ⟨hd, hxb⟩
  refine ⟨h.fresh, fun d x hd => ?_, fun x => ?_, fun d x y hdx hdy => ?_, fun u x hu => ?_⟩
  · rcases hmem d x hd with ⟨hd, -⟩ | ⟨-, hd⟩
    · exact h.ready d x hd
    · exact h.ready d b hd
  · by_cases hxb : x = b
    · rw [hxb, hb]
      exact List.nodup_nil
    · by_cases hxa : x = a
      · rw [hxa, ha, List.nodup_append]
        refine ⟨h.nodup a, h.nodup b, fun d hd e he hde => ?_⟩
        rw [← hde] at he
        exact hne (h.disjoint d a b hd he)
      · rw [hother x hxa hxb]
        exact h.nodup x
  · rcases hmem d x hdx with ⟨hx, hxb⟩ | ⟨rfl, hx⟩
    · rcases hmem d y hdy with ⟨hy, -⟩ | ⟨rfl, hy⟩
      · exact h.disjoint d x y hx hy
      · exact absurd (h.disjoint d x b hx hy) hxb
    · rcases hmem d y hdy with ⟨hy, hyb⟩ | ⟨rfl, -⟩
      · exact absurd (h.disjoint d y b hy hx) hyb
      · rfl
  · rw [hkept]
    have hu : (if (_ : AccReg).m_name = [] then r.accounts_lookup_name else _ :
      QHash Bytes AccId)[u]? = some x := hu
    split at hu
    · exact h.registered u x hu
    · rw [lookup_erase] at hu
      split at hu
      · cases hu
      · exact h.registered u x hu

/-- **One step.**  The lists go on having no connection in common. -/
theorem SysStep.listInv {l : SysLabel} (h : ListInv r) (hstep : SysStep l r r') : ListInv r' := by
  cases hstep with
  | connect =>
    have hconn (d : ConnId) (hd : d ≠ r.nextConn) : r.connect.conn d = r.conn d := if_neg hd
    refine h.same (fun d hd => ?_) (fun _ => rfl) (fun d hlt hd => ?_) (Nat.le_succ _) h.registered
    · show d < r.nextConn + 1
      by_cases hx : d = r.nextConn
      · exact hx ▸ Nat.lt_succ_self d
      · rw [hconn d hx] at hd
        exact Nat.lt_succ_of_lt (h.fresh d hd)
    · rw [hconn d (Nat.ne_of_lt hlt)]
      exact hd
  | @disconnect c _ hlive =>
    have hconn (d : ConnId) : ((r.disconnect c).conn d).is_ready = (r.conn d).is_ready := by
      rw [disconnect_conn]
      by_cases hx : d = c
      · rw [if_pos hx, hx]
      · rw [if_neg hx]
    have hsub (d : ConnId) (a : AccId) (hd : d ∈ ((r.disconnect c).acc a).connections) :
        d ∈ (r.acc a).connections := by
      rw [disconnect_acc] at hd
      split at hd
      · exact (List.mem_filter.mp hd).1
      · exact hd
    have hname (a : AccId) : ((r.disconnect c).acc a).m_name = (r.acc a).m_name := by
      rw [disconnect_acc]
      split <;> rfl
    obtain ⟨hnextConn, hnextAcc, -, -⟩ := disconnect_next r c
    refine ⟨fun d hd => ?_, fun d a hd => ?_, fun a => ?_, fun d a b ha hb => ?_, fun u a hu => ?_⟩
    · rw [disconnect_conn] at hd
      rw [hnextConn]
      by_cases hx : d = c
      · rw [if_pos hx] at hd
        cases hd
      · rw [if_neg hx] at hd
        exact h.fresh d hd
    · rw [hconn, hnextConn]
      exact h.ready d a (hsub d a hd)
    · rw [disconnect_acc]
      split
      · exact (h.nodup a).filter _
      · exact h.nodup a
    · exact h.disjoint d a b (hsub d a ha) (hsub d b hb)
    · obtain ⟨hlt, hne⟩ := h.registered u a (disconnect_lookup_name r c hu)
      exact ⟨hnextAcc ▸ hlt, by rw [hname]; exact hne⟩
  | @conn c _ _ _ hlive hstep =>
    cases hstep with
    | giveNick => exact h.updConn ⟨rfl, rfl⟩
    | clear => exact h.updConn ⟨rfl, rfl⟩
    | refuse => exact ⟨h.fresh, h.ready, h.nodup, h.disjoint, h.registered⟩
    | registerNew hfin =>
      refine h.enrol (c := c) (a := r.nextAcc) hlive hfin.1
        (fun d hd => by rw [registerNew_conn, if_neg hd]) (by rw [registerNew_conn, if_pos rfl]) rfl
        (Or.inr (by rw [registerNew_acc, if_pos rfl]))
        (fun b hb => by rw [registerNew_acc, if_neg hb]) fun u a hu => ?_
      obtain ⟨hlt, hne⟩ := h.registered u a hu
      refine ⟨Nat.lt_succ_of_lt hlt, ?_⟩
      rw [registerNew_acc, if_neg (Nat.ne_of_lt hlt)]
      exact hne
    | @registerOld a _ hfin hacc =>
      refine h.enrol (c := c) (a := a) hlive hfin.1
        (fun d hd => by rw [registerOld_conn, if_neg hd]) (by rw [registerOld_conn, if_pos rfl]) rfl
        (Or.inl (by rw [registerOld_acc, if_pos rfl]))
        (fun b hb => by rw [registerOld_acc, if_neg hb]) fun u b hu => ?_
      obtain ⟨hlt, hne⟩ := h.registered u b hu
      refine ⟨hlt, ?_⟩
      rw [registerOld_acc]
      split
      · next hb => rw [← hb]; exact hne
      · exact hne
    | @rename a self old new _ =>
      have hkeep (b : AccId) : ((r.rename a self old new).acc b).connections =
            (r.acc b).connections ∧
          ((r.rename a self old new).acc b).m_name = (r.acc b).m_name := by
        rw [rename_acc]
        by_cases hb : b = a
        · rw [if_pos hb, hb]
          exact ⟨rfl, rfl⟩
        · rw [if_neg hb]
          exact ⟨rfl, rfl⟩
      refine h.same h.fresh (fun b => (hkeep b).1) (fun _ _ hd => hd) (Nat.le_refl _)
        fun u b hu => ?_
      rw [(hkeep b).2]
      exact h.registered u b hu
    | login => exact h.updConn ⟨rfl, rfl⟩
    | relogin => exact h.updConn ⟨rfl, rfl⟩
    | @merge a b u _ hacc hanon hname =>
      exact (h.merge hanon (h.registered u a hname).2).updConn ⟨rfl, rfl⟩

end

end Reg

/-! ## the member lists -/

/-- **One step.**  The member lists go on having no duplicates. -/
theorem SiteStep.membersNodup {l : SiteLabel} {s s' : Site} (h : ∀ x, (s.rooms.members x).Nodup)
    (hstep : SiteStep l s s') (x : ChanId) : (s'.rooms.members x).Nodup := by
  cases hstep with
  | @sys l r r' R hsys =>
    cases l with
    | connect => exact h x
    | disconnect c => exact h x
    | conn c k =>
      cases k with
      | registerOld a =>
        exact Rooms.rejoin_inv (I := fun R => ∀ x, (R.members x).Nodup) h
          (fun R' ch _ h' => Rooms.join_nodup h') x
      | _ => exact h x
  | @create c n r R hn =>
    show (if x = R.nextChan then [] else R.members x).Nodup
    split
    · exact List.nodup_nil
    · exact h x
  | join => exact Rooms.join_nodup h x
  | @part c a ch r R =>
    show (if x = ch then (R.members ch).filter (· != a) else R.members x).Nodup
    split
    · exact (h ch).filter _
    · exact h x
  | rename => exact h x
  | @deliver c ch a m r R hfirst hlive =>
    have hsame : ((R.take c).channelPart r.ties c ch a).members = R.members :=
      congrArg Halls.members (Rooms.channelPart_toHalls _ _ _ _ _)
    show (((R.take c).channelPart r.ties c ch a).members x).Nodup
    rw [hsame]
    exact h x
  | lose => exact h x

/-! ## runs of the server -/

namespace Worker
open World client_connection

theorem Idle.listInv {w : World} (h : Idle w) : w.reg.ListInv := by
  have hlist (a : AccId) : (w.reg.acc a).connections = [] := h.unlisted a
  refine ⟨fun c hc => ?_, fun c a hc => ?_, fun a => ?_, fun c a b ha hb => ?_, h.registered⟩
  · have hc : (w.conn c).live = true := hc
    rw [h.dead c] at hc
    cases hc
  · rw [hlist] at hc
    cases hc
  · rw [hlist]
    exact List.nodup_nil
  · rw [hlist] at ha
    cases ha

section
variable {env : Env} {w w' : World} {evs : List Event}

theorem run_listInv (hidle : Idle w) (hrun : run (step env) w evs = .ok w') : w'.reg.ListInv :=
  run_inv_of_steps (P := fun _ => True) (C := fun _ _ => True) (fun _ _ _ _ _ => trivial)
    (fun _ _ _ _ hI hs => hs.listInv hI) hidle.listInv (allSteps_true w evs) hrun

theorem run_membersNodup (hnodup : ∀ ch, (w.chan ch).m_members.Nodup)
    (hrun : run (step env) w evs = .ok w') (ch : ChanId) : (w'.chan ch).m_members.Nodup :=
  run_site (I := fun s => ∀ x, (s.rooms.members x).Nodup) (C := fun _ _ => True)
    (fun _ _ _ _ _ _ _ hs _ hstep => hstep.membersNodup hs) hnodup (allSteps_true w evs) hrun ch

/-- a message of the channel is offered to no connection twice -/
theorem recipients_nodup {msg : QEventMessage} {ch : ChanId} (hlists : w.reg.ListInv)
    (hmembers : (w.chan ch).m_members.Nodup) (hch : msg.channel = some ch) :
    (recipients msg w).Nodup := by
  unfold recipients
  rw [hch]
  refine List.nodup_flatMap.mpr ⟨fun a _ => hlists.nodup a, ?_⟩
  refine hmembers.imp fun {a b} hab c hca hcb => ?_
  exact hab (hlists.disjoint c a b hca hcb)

end

/-- no account of the empty server lists a connection -/
theorem empty_idle : Idle World.empty := ⟨fun _ => rfl, fun _ => ⟨rfl, rfl⟩, fun _ => rfl,
  fun u a h => by
    have h : (∅ : QHash Bytes AccId)[u]? = some a := h
    rw [Std.ExtTreeMap.getElem?_empty] at h
    cases h⟩

/-- ann and bob are in `#x` -/
def annAndBob : List Event :=
  registration 0 false "ann" ++ registration 1 true "bob" ++
    [.line 0 (ascii "JOIN #x"), .line 1 (ascii "JOIN #x")]

section
variable {env : Env} {w w' : World} {evs : List Event} {msg : QEventMessage} {a d : AccId}

end

end Worker

end Chatripper
