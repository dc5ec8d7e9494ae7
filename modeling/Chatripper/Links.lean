import Mathlib
import Chatripper.Irc.Registering

/-!
# Connections and their accounts

A connection points to its account and the account lists its connections.  Registration, login and
disconnection write the two sides in different places.

* `SysStep.linkInv`   the two sides agree as long as no connection is merged away from the account
  that it keeps pointing to;
* `links_iff`         in every run the two sides agree in every state if and only if no step of it is
  a successful AUTHENTICATE on a connection that has registered anonymously.
-/

namespace Chatripper
open ByteStr Utf8 Outcome

namespace Reg

/-- an account lists the connections that are ready on it, each once, and no others -/
structure Linked (r : Reg) : Prop where
  mem_iff : ∀ c a, c ∈ (r.acc a).connections ↔ r.Online c a
  nodup : ∀ a, (r.acc a).connections.Nodup

structure LinkInv (r : Reg) : Prop extends Linked r where
  fresh : ∀ c, (r.conn c).live = true → c < r.nextConn
  made : ∀ c a, (r.conn c).m_account = some a → a < r.nextAcc
  registered : ∀ (u : Bytes) (a : AccId), r.accounts_lookup_name[u]? = some a →
    a < r.nextAcc ∧ (r.acc a).m_name ≠ []
  ready : ∀ c, (r.conn c).is_ready = true → (r.conn c).m_account ≠ none
  /-- a connection that has an account before it is ready has logged in to it -/
  pending : ∀ c a, (r.conn c).is_ready = false → (r.conn c).m_account = some a →
    (r.acc a).m_name ≠ []

/-- no connection is merged away from its account -/
def SysLabel.Unmerged : SysLabel → Prop
  | .conn _ (.merge _ _) => False
  | _ => True

section
variable {r : Reg} {c : ConnId}

theorem Linked.not_mem (h : Linked r) (hready : (r.conn c).is_ready = false) (a : AccId) :
    c ∉ (r.acc a).connections := fun hc => by
  have := ((h.mem_iff c a).mp hc).2.1
  rw [hready] at this
  cases this

/-! ## one step -/

/-- a connection changes, but not whether it is live and ready, nor its account once it has one -/
theorem LinkInv.updConn {f : ConnReg → ConnReg} (h : LinkInv r)
    (hlive : (f (r.conn c)).live = (r.conn c).live)
    (hready : (f (r.conn c)).is_ready = (r.conn c).is_ready)
    (hacc : (f (r.conn c)).m_account = (r.conn c).m_account ∨
      (r.conn c).m_account = none ∧ ∃ (a : AccId) (u : Bytes),
        (f (r.conn c)).m_account = some a ∧ r.accounts_lookup_name[u]? = some a) : LinkInv (r.updConn c f) := by
  -- without an account the connection is not ready
  have hnew : (r.conn c).m_account = none → (r.conn c).is_ready = false := fun hn => by
    by_contra hne
    exact h.ready c (Bool.not_eq_false _ ▸ hne) hn
  have honline (d : ConnId) (a : AccId) : (r.updConn c f).Online d a ↔ r.Online d a := by
    unfold Online
    rw [updConn_conn]
    by_cases hx : d = c
    · rw [if_pos hx, hlive, hready, hx]
      rcases hacc with hacc | ⟨hn, -⟩
      · rw [hacc]
      · rw [hnew hn]
        constructor <;> exact fun ⟨_, hr, _⟩ => (by cases hr)
    · rw [if_neg hx]
  have hacc' (d : ConnId) (a : AccId) (hd : ((r.updConn c f).conn d).m_account = some a) :
      (r.conn d).m_account = some a ∨ ∃ u : Bytes, r.accounts_lookup_name[u]? = some a := by
    rw [updConn_conn] at hd
    by_cases hx : d = c
    · rw [if_pos hx] at hd
      rcases hacc with hacc | ⟨-, a', u, ha', hu⟩
      · exact Or.inl (by rw [hx, ← hacc]; exact hd)
      · rw [ha'] at hd
        cases hd
        exact Or.inr ⟨u, hu⟩
    · rw [if_neg hx] at hd
      exact Or.inl hd
  have hreadyEq (d : ConnId) : ((r.updConn c f).conn d).is_ready = (r.conn d).is_ready := by
    rw [updConn_conn]
    by_cases hx : d = c
    · rw [if_pos hx, hready, hx]
    · rw [if_neg hx]
  refine ⟨⟨fun d a => (h.mem_iff d a).trans (honline d a).symm, h.nodup⟩, fun d hd => ?_,
    fun d a hd => ?_, h.registered, fun d hd => ?_, fun d a hd ha => ?_⟩
  · rw [updConn_conn] at hd
    by_cases hx : d = c
    · rw [if_pos hx, hlive] at hd
      rw [hx]
      exact h.fresh c hd
    · rw [if_neg hx] at hd
      exact h.fresh d hd
  · rcases hacc' d a hd with hd | ⟨u, hu⟩
    · exact h.made d a hd
    · exact (h.registered u a hu).1
  · rw [hreadyEq] at hd
    have hsome := h.ready d hd
    rw [updConn_conn]
    by_cases hx : d = c
    · rw [if_pos hx]
      rw [hx] at hsome
      rcases hacc with hacc | ⟨hn, -⟩
      · rw [hacc]
        exact hsome
      · exact absurd hn hsome
    · rw [if_neg hx]
      exact hsome
  · rw [hreadyEq] at hd
    rcases hacc' d a ha with ha | ⟨u, hu⟩
    · exact h.pending d a hd ha
    · exact (h.registered u a hu).2

/-- a connection becomes ready on account `a` and is added to its list -/
theorem LinkInv.enrol {r' : Reg} {a : AccId} (h : LinkInv r) (hlive : (r.conn c).live = true)
    (hready : (r.conn c).is_ready = false) (hnextConn : r'.nextConn = r.nextConn)
    (hnextAcc : r.nextAcc ≤ r'.nextAcc) (ha : a < r'.nextAcc)
    (hname : r'.accounts_lookup_name = r.accounts_lookup_name)
    (hconn : ∀ d, d ≠ c → r'.conn d = r.conn d)
    (hc : r'.Online c a)
    (hacc : ∀ b, b ≠ a → r'.acc b = r.acc b)
    (hlist : (r'.acc a).connections = (r.acc a).connections ++ [c] ∨
      r.nextAcc ≤ a ∧ (r'.acc a).connections = [c])
    (hkeep : a < r.nextAcc → (r'.acc a).m_name = (r.acc a).m_name) : LinkInv r' := by
  have hnone : (r.nextAcc ≤ a) → ∀ d, ¬ r.Online d a := fun hle d hd =>
    absurd (h.made d a hd.2.2) (Nat.not_lt.mpr hle)
  have honline (d : ConnId) (b : AccId) : r'.Online d b ↔ (d = c ∧ b = a) ∨ (d ≠ c ∧ r.Online d b) := by
    by_cases hx : d = c
    · subst hx
      constructor
      · intro hd
        have hsame := hd.2.2
        rw [hc.2.2] at hsame
        exact Or.inl ⟨rfl, (Option.some.inj hsame).symm⟩
      · rintro (⟨-, rfl⟩ | ⟨hne, -⟩)
        · exact hc
        · exact absurd rfl hne
    · unfold Online
      rw [hconn d hx]
      constructor
      · exact fun hd => Or.inr ⟨hx, hd⟩
      · rintro (⟨he, -⟩ | ⟨-, hd⟩)
        · exact absurd he hx
        · exact hd
  have hmem (d : ConnId) : d ∈ (r'.acc a).connections ↔ d = c ∨ r.Online d a := by
    rcases hlist with hlist | ⟨hle, hlist⟩
    · rw [hlist, List.mem_append, List.mem_singleton, h.mem_iff, or_comm]
    · rw [hlist, List.mem_singleton]
      exact ⟨Or.inl, fun hd => hd.resolve_right (hnone hle d)⟩
  have hnot (b : AccId) : ¬ r.Online c b := fun hd => by
    have := hd.2.1
    rw [hready] at this
    cases this
  have hnamed (b : AccId) (hb : b < r.nextAcc) : (r'.acc b).m_name = (r.acc b).m_name := by
    by_cases hx : b = a
    · subst hx
      exact hkeep hb
    · rw [hacc b hx]
  refine ⟨⟨fun d b => ?_, fun b => ?_⟩, fun d hd => ?_, fun d b hd => ?_, fun u b hu => ?_,
    fun d hd => ?_, fun d b hd hb => ?_⟩
  · rw [honline]
    by_cases hb : b = a
    · subst hb
      rw [hmem]
      by_cases hx : d = c
      · simp [hx]
      · simp [hx]
    · rw [hacc b hb, h.mem_iff]
      constructor
      · intro hd
        exact Or.inr ⟨fun he => hnot b (he ▸ hd), hd⟩
      · rintro (⟨-, he⟩ | ⟨-, hd⟩)
        · exact absurd he hb
        · exact hd
  · by_cases hb : b = a
    · subst hb
      rcases hlist with hlist | ⟨-, hlist⟩
      · rw [hlist, List.nodup_append]
        refine ⟨h.nodup b, List.nodup_singleton c, fun d hd e he hde => ?_⟩
        rw [List.mem_singleton.mp he] at hde
        exact h.toLinked.not_mem hready b (hde ▸ hd)
      · rw [hlist]
        exact List.nodup_singleton c
    · rw [hacc b hb]
      exact h.nodup b
  · rw [hnextConn]
    by_cases hx : d = c
    · rw [hx]
      exact h.fresh c hlive
    · rw [hconn d hx] at hd
      exact h.fresh d hd
  · by_cases hx : d = c
    · subst hx
      rw [hc.2.2] at hd
      cases hd
      exact ha
    · rw [hconn d hx] at hd
      exact Nat.lt_of_lt_of_le (h.made d b hd) hnextAcc
  · rw [hname] at hu
    obtain ⟨hlt, hne⟩ := h.registered u b hu
    exact ⟨Nat.lt_of_lt_of_le hlt hnextAcc, by rw [hnamed b hlt]; exact hne⟩
  · by_cases hx : d = c
    · rw [hx, hc.2.2]
      exact Option.some_ne_none a
    · rw [hconn d hx] at hd ⊢
      exact h.ready d hd
  · by_cases hx : d = c
    · rw [hx, hc.2.1] at hd
      cases hd
    · rw [hconn d hx] at hd hb
      rw [hnamed b (h.made d b hb)]
      exact h.pending d b hd hb

theorem LinkInv.connect (h : LinkInv r) : LinkInv r.connect := by
  have hconn (d : ConnId) : r.connect.conn d =
      if d = r.nextConn then { ({} : Conn).reg with live := true } else r.conn d := rfl
  have hold : ¬ (r.conn r.nextConn).live = true := fun hl => Nat.lt_irrefl _ (h.fresh _ hl)
  have hnewAcc {d : ConnId} {a : AccId} (hd : (r.connect.conn d).m_account = some a) :
      (r.conn d).m_account = some a ∧ r.connect.conn d = r.conn d := by
    rw [hconn] at hd ⊢
    by_cases hx : d = r.nextConn
    · rw [if_pos hx] at hd
      cases hd
    · rw [if_neg hx] at hd ⊢
      exact ⟨hd, rfl⟩
  refine ⟨⟨fun d a => ?_, h.nodup⟩, fun d hd => ?_, fun d a hd => h.made d a (hnewAcc hd).1,
    h.registered, fun d hd => ?_, fun d a hd ha => ?_⟩
  · show d ∈ (r.acc a).connections ↔ _
    rw [h.mem_iff]
    constructor
    · intro hd
      have hx : d ≠ r.nextConn := fun he => hold (he ▸ hd.1)
      unfold Online
      rw [hconn, if_neg hx]
      exact hd
    · intro hd
      have hsame := (hnewAcc hd.2.2).2
      unfold Online at hd ⊢
      rw [hsame] at hd
      exact hd
  · show d < r.nextConn + 1
    rw [hconn] at hd
    by_cases hx : d = r.nextConn
    · exact hx ▸ Nat.lt_succ_self d
    · rw [if_neg hx] at hd
      exact Nat.lt_succ_of_lt (h.fresh d hd)
  · rw [hconn] at hd ⊢
    by_cases hx : d = r.nextConn
    · rw [if_pos hx] at hd
      cases hd
    · rw [if_neg hx] at hd ⊢
      exact h.ready d hd
  · obtain ⟨ha, hsame⟩ := hnewAcc ha
    rw [hsame] at hd
    exact h.pending d a hd ha

theorem LinkInv.disconnect (h : LinkInv r) : LinkInv (r.disconnect c) := by
  have hconn (d : ConnId) (hd : d ≠ c) : (r.disconnect c).conn d = r.conn d := by
    rw [disconnect_conn, if_neg hd]
  have hself : (r.disconnect c).conn c = { r.conn c with live := false } := by
    rw [disconnect_conn, if_pos rfl]
  have hacc (d : ConnId) : ((r.disconnect c).conn d).m_account = (r.conn d).m_account := by
    by_cases hx : d = c
    · rw [hx, hself]
    · rw [hconn d hx]
  have hready (d : ConnId) : ((r.disconnect c).conn d).is_ready = (r.conn d).is_ready := by
    by_cases hx : d = c
    · rw [hx, hself]
    · rw [hconn d hx]
  have hname (a : AccId) : ((r.disconnect c).acc a).m_name = (r.acc a).m_name := by
    rw [disconnect_acc]
    split <;> rfl
  have hmem (d : ConnId) (a : AccId) :
      d ∈ ((r.disconnect c).acc a).connections ↔ d ≠ c ∧ d ∈ (r.acc a).connections := by
    rw [disconnect_acc]
    split
    · simp [and_comm]
    · next hne =>
      refine ⟨fun hd => ⟨fun he => hne ?_, hd⟩, fun hd => hd.2⟩
      rw [← he]
      exact ((h.mem_iff d a).mp hd).2.2
  obtain ⟨hnextConn, hnextAcc, -, -⟩ := disconnect_next r c
  refine ⟨⟨fun d a => ?_, fun a => ?_⟩, fun d hd => ?_, fun d a hd => ?_, fun u a hu => ?_,
    fun d hd => ?_, fun d a hd ha => ?_⟩
  · rw [hmem, h.mem_iff]
    unfold Online
    by_cases hx : d = c
    · subst hx
      rw [hself]
      simp
    · rw [hconn d hx]
      simp [hx]
  · rw [disconnect_acc]
    split
    · exact (h.nodup a).filter _
    · exact h.nodup a
  · rw [hnextConn]
    by_cases hx : d = c
    · rw [hx, hself] at hd
      cases hd
    · rw [hconn d hx] at hd
      exact h.fresh d hd
  · rw [hnextAcc]
    exact h.made d a (hacc d ▸ hd)
  · obtain ⟨hlt, hne⟩ := h.registered u a (disconnect_lookup_name r c hu)
    exact ⟨hnextAcc ▸ hlt, by rw [hname]; exact hne⟩
  · rw [hacc]
    exact h.ready d (hready d ▸ hd)
  · rw [hname]
    exact h.pending d a (hready d ▸ hd) (hacc d ▸ ha)

/-- **One step.**  Without a merge, the two sides keep agreeing. -/
theorem SysStep.linkInv {l : SysLabel} {r r' : Reg} (hl : l.Unmerged) (h : LinkInv r)
    (hstep : SysStep l r r') : LinkInv r' := by
  cases hstep with
  | connect => exact h.connect
  | disconnect hlive => exact h.disconnect
  | @conn c _ _ _ hlive hstep =>
    cases hstep with
    | giveNick => exact h.updConn rfl rfl (Or.inl rfl)
    | clear => exact h.updConn rfl rfl (Or.inl rfl)
    | refuse => exact ⟨⟨h.mem_iff, h.nodup⟩, h.fresh, h.made, h.registered, h.ready, h.pending⟩
    | registerNew hfin hacc hfree =>
      refine h.enrol (c := c) (a := r.nextAcc) hlive hfin.1 rfl (Nat.le_succ _) (Nat.lt_succ_self _) rfl
        (fun d hd => by rw [registerNew_conn, if_neg hd]) ?_
        (fun b hb => by rw [registerNew_acc, if_neg hb])
        (Or.inr ⟨Nat.le_refl _, by rw [registerNew_acc, if_pos rfl]⟩)
        fun hlt => absurd hlt (Nat.lt_irrefl _)
      unfold Online
      rw [registerNew_conn, if_pos rfl]
      exact ⟨hlive, rfl, rfl⟩
    | @registerOld a _ hfin hacc =>
      refine h.enrol (c := c) (a := a) hlive hfin.1 rfl (Nat.le_refl _) (h.made c a hacc) rfl
        (fun d hd => by rw [registerOld_conn, if_neg hd]) ?_
        (fun b hb => by rw [registerOld_acc, if_neg hb])
        (Or.inl (by rw [registerOld_acc, if_pos rfl]))
        fun _ => by rw [registerOld_acc, if_pos rfl]
      unfold Online
      rw [registerOld_conn, if_pos rfl]
      exact ⟨hlive, rfl, rfl⟩
    | @rename a self old new _ hacc hself hnew hfree hold =>
      have hkeep (b : AccId) : ((r.rename a self old new).acc b).connections =
            (r.acc b).connections ∧
          ((r.rename a self old new).acc b).m_name = (r.acc b).m_name := by
        rw [rename_acc]
        by_cases hb : b = a
        · rw [if_pos hb, hb]
          exact ⟨rfl, rfl⟩
        · rw [if_neg hb]
          exact ⟨rfl, rfl⟩
      refine ⟨⟨fun d b => ?_, fun b => ?_⟩, h.fresh, h.made, fun u b hu => ?_, h.ready,
        fun d b hd hb => ?_⟩
      · rw [(hkeep b).1]
        exact h.mem_iff d b
      · rw [(hkeep b).1]
        exact h.nodup b
      · rw [(hkeep b).2]
        exact h.registered u b hu
      · rw [(hkeep b).2]
        exact h.pending d b hd hb
    | @login a u _ hacc hname =>
      refine h.updConn rfl rfl (Or.inr ⟨hacc, a, u, ?_, hname⟩)
      show some ((r.conn c).m_account.getD a) = some a
      rw [hacc]
      rfl
    | @relogin a b _ hacc hname =>
      refine h.updConn rfl rfl (Or.inl ?_)
      show some ((r.conn c).m_account.getD a) = (r.conn c).m_account
      rw [hacc]
      rfl
    | merge => exact hl.elim

/-- a merge leaves a ready connection out of the list of the account that it points to -/
theorem LinkInv.not_linked_merge {a b : AccId} (h : LinkInv r)
    (hlive : (r.conn c).live = true) (hacc : (r.conn c).m_account = some b)
    (hanon : (r.acc b).m_name = []) : ¬ Linked ((r.merge a b).login c a) := by
  intro hlinked
  have hready : (r.conn c).is_ready = true := by
    by_contra hne
    exact h.pending c b (Bool.not_eq_true _ ▸ hne) hacc hanon
  have hon : ((r.merge a b).login c a).Online c b := by
    unfold Online
    rw [login_conn, if_pos rfl]
    refine ⟨hlive, hready, ?_⟩
    show some ((r.conn c).m_account.getD a) = some b
    rw [hacc]
    rfl
  have hmem := (hlinked.mem_iff c b).mpr hon
  have hempty : (((r.merge a b).login c a).acc b).connections = [] := by
    show (if b = b then _ else _ : AccReg).connections = []
    rw [if_pos rfl]
  rw [hempty] at hmem
  cases hmem

end

end Reg

/-! ## runs of the server -/

namespace Worker
open World client_connection

/-- the event is an AUTHENTICATE that proves an account, on a live connection that has an anonymous
one -/
def mergesLogin (env : Env) (w : World) : Event → Bool
  | .line c line =>
    (w.conn c).live && match lineCommand c line w with
      | some (.AUTHENTICATE, args) =>
        let w' := handlerWorld c line w
        (provenAccount env c args w').isSome &&
          ((w'.conn c).m_account.any fun b => (w'.acc b).m_name == [])
      | _ => false
  | _ => false

/-- a server that nobody is connected to; the accounts of the database may be there -/
structure Idle (w : World) : Prop where
  dead : ∀ c, (w.conn c).live = false
  unready : ∀ c, (w.conn c).is_ready = false ∧ (w.conn c).m_account = none
  unlisted : ∀ a, (w.acc a).connections = []
  registered : ∀ (u : Bytes) (a : AccId), w.ctx.accounts_lookup_name[u]? = some a →
    a < w.nextAcc ∧ (w.acc a).m_name ≠ []

theorem Idle.linkInv {w : World} (h : Idle w) : w.reg.LinkInv := by
  have hdead (c : ConnId) : (w.reg.conn c).live = false := h.dead c
  have hready (c : ConnId) : (w.reg.conn c).is_ready = false := (h.unready c).1
  have hacc (c : ConnId) : (w.reg.conn c).m_account = none := (h.unready c).2
  have hlist (a : AccId) : (w.reg.acc a).connections = [] := h.unlisted a
  refine ⟨⟨fun c a => ?_, fun a => ?_⟩, fun c hc => ?_, fun c a hc => ?_, h.registered,
    fun c hc => ?_, fun c a _ hc => ?_⟩
  · rw [hlist]
    refine ⟨fun hc => (by cases hc), fun hc => ?_⟩
    have := hc.1
    rw [hdead] at this
    cases this
  · rw [hlist]
    exact List.nodup_nil
  · rw [hdead] at hc
    cases hc
  · rw [hacc] at hc
    cases hc
  · rw [hready] at hc
    cases hc
  · rw [hacc] at hc
    cases hc

section
variable {env : Env} {w w' : World}

/-- an event that merges no login takes no merging step -/
theorem EventLabel.unmerged {ev : Event} {l : Reg.SysLabel} (hlive : ∀ c line, ev = .line c line →
    (w.conn c).live = true) (hm : mergesLogin env w ev = false) (h : EventLabel env w ev l) :
    l.Unmerged := by
  cases ev with
  | line c line =>
    cases l with
    | conn d k =>
      obtain ⟨-, hk⟩ := h
      cases k with
      | merge a b =>
        exfalso
        obtain ⟨args, hcmd⟩ := hk.auth rfl
        obtain ⟨cmd, args', hcmd', hlabel⟩ := hk
        rw [hcmd] at hcmd'
        cases hcmd'
        obtain ⟨hproven, hacc, hanon⟩ := hlabel
        unfold mergesLogin at hm
        dsimp only at hm
        rw [hlive c line rfl, hcmd] at hm
        dsimp only at hm
        rw [hproven, hacc] at hm
        simp [hanon] at hm
      | _ => trivial
    | _ => trivial
  | _ => cases l <;> trivial

theorem step_linkInv {ev : Event} (hinv : w.reg.LinkInv) (hm : mergesLogin env w ev = false)
    (h : step env w ev = .ok w') : w'.reg.LinkInv := by
  obtain ⟨ls, hchain, hls⟩ := step_chain h
  by_cases hlive : ∀ c line, ev = .line c line → (w.conn c).live = true
  · exact hchain.inv (fun _ _ _ hl hI hs => hs.linkInv hl hI)
      (fun l hl => (hls l hl).unmerged hlive hm) hinv
  · -- a line of a connection that is gone is not handled
    push Not at hlive
    obtain ⟨c, line, rfl, hdead⟩ := hlive
    have h : (if (w.conn c).live then parseIncoming env c line w else .ok w) = .ok w' := h
    rw [if_neg hdead] at h
    cases h
    exact hinv

/-- a merging login succeeds, and the two sides disagree after it -/
theorem step_not_linked {ev : Event} (hinv : w.reg.LinkInv) (hm : mergesLogin env w ev = true) :
    ∃ w', step env w ev = .ok w' ∧ ¬ w'.reg.Linked := by
  cases ev with
  | line c line =>
    unfold mergesLogin at hm
    obtain ⟨hlive, hm⟩ := Bool.and_eq_true_iff.mp hm
    have hreg := reg_handlerWorld (c := c) (w := w) line
    split at hm
    · next args hcmd =>
      obtain ⟨hproven, hanon⟩ := Bool.and_eq_true_iff.mp hm
      obtain ⟨a, ha⟩ := Option.isSome_iff_exists.mp hproven
      obtain ⟨b, hb, hname⟩ := (Option.any_eq_true _ _).mp hanon
      have hstep : step env w (.line c line) =
          handleAUTHENTICATE env c args (handlerWorld c line w) := by
        show (if (w.conn c).live then parseIncoming env c line w else .ok w) = _
        rw [if_pos hlive, parseIncoming_eq, hcmd]
        rfl
      obtain ⟨w', hw', ⟨hnone, -⟩ | ⟨a', u, w1, ha', -, hreg1, -, -, rfl⟩⟩ :=
        handleAUTHENTICATE_cases env c args (handlerWorld c line w)
      · rw [ha] at hnone
        cases hnone
      · refine ⟨_, hstep.trans hw', ?_⟩
        have hall := hreg1.trans hreg
        have hbw : (w.reg.conn c).m_account = some b := by
          rw [← hreg]
          exact hb
        have hname' : (w.reg.acc b).m_name = [] := by
          rw [← hreg]
          exact eq_of_beq hname
        have hb1 : (w1.conn c).m_account = some b := (m_account_eq hreg1 c).trans hb
        have hn1 : (w1.acc b).m_name = [] := by
          have : (w1.reg.acc b).m_name = [] := by
            rw [hall]
            exact hname'
          exact this
        rw [reg_login, hb1]
        dsimp only
        rw [if_pos hn1, hall]
        exact hinv.not_linked_merge hlive hbw hname'
    · cases hm
  | _ => cases hm

/-- **Connections and accounts.**  In every run of a server, in every state of it an account lists
exactly the live connections that have completed registration and point to it, each once, if and
only if no event of the run is a successful AUTHENTICATE on a connection that has registered
anonymously. -/
theorem links_iff (hidle : Idle w) (evs : List Event) :
    AllSteps (step env) (fun w ev => ∀ w', step env w ev = .ok w' → w'.reg.Linked) w evs ↔
      AllSteps (step env) (fun w ev => mergesLogin env w ev = false) w evs := by
  have hstep (w : World) (ev : Event) (hinv : w.reg.LinkInv) :
      (∀ w', step env w ev = .ok w' → w'.reg.Linked) ↔ mergesLogin env w ev = false := by
    constructor
    · intro h
      by_contra hm
      obtain ⟨w', hw', hnot⟩ := step_not_linked hinv (Bool.not_eq_false _ ▸ hm)
      exact hnot (h w' hw')
    · exact fun hm w' hw' => (step_linkInv hinv hm hw').toLinked
  refine allSteps_congr (I := fun w => w.reg.LinkInv) (fun w ev w' hinv hC h => ?_) hstep hidle.linkInv
  exact step_linkInv hinv ((hstep w ev hinv).mp hC) h

end

/-- the account bob is in the database -/
def bobServer : World :=
  { World.empty with
    acc := fun a =>
      if a = 0 then { m_name := ascii "bob", m_nick := ascii "bob", m_password := ascii "p" } else {}
    nextAcc := 1
    ctx := { accounts_lookup_name := (∅ : QHash Bytes AccId).insert (ascii "bob") 0 } }

theorem eve_letsIn : LetsIn Env.ascii 0 "eve" bobServer :=
  ⟨⟨rfl, fun e => by cases e <;> rfl, by decide, by decide⟩, rfl, rfl⟩

/-- eve registers and then logs in as bob -/
def lateLogin : List Event :=
  registration 0 false "eve" ++ [.line 0 (ascii "AUTHENTICATE AGJvYgBw")]

set_option maxRecDepth 4000 in
/-- the connection points to an account that does not list it -/
theorem late_login_unlinked : ∃ w', run (step Env.ascii) bobServer lateLogin = .ok w' ∧
    w'.reg.Online 0 1 ∧ (w'.acc 1).connections = [] ∧ (w'.acc 0).connections = [0] := by
  unfold lateLogin
  rw [run_registration eve_letsIn]
  exact ⟨_, rfl, ⟨rfl, rfl, rfl⟩, rfl, rfl⟩

theorem links_iff_late_login :
    AllSteps (step Env.ascii) (fun w ev => ∀ w', step Env.ascii w ev = .ok w' → w'.reg.Linked)
        bobServer lateLogin ↔
      AllSteps (step Env.ascii) (fun w ev => mergesLogin Env.ascii w ev = false)
        bobServer lateLogin := by
  refine links_iff ⟨fun _ => rfl, fun _ => ⟨rfl, rfl⟩, fun a => ?_, fun u a h => ?_⟩ _
  · show (if a = 0 then _ else _ : Account).connections = []
    split <;> rfl
  · have h : ((∅ : QHash Bytes AccId).insert (ascii "bob") 0)[u]? = some a := h
    rw [lookup_insert] at h
    split at h
    · cases h
      exact ⟨by decide, by decide⟩
    · simp at h

end Worker

end Chatripper
