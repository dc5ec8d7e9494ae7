import Mathlib
import Chatripper.Nicks
import Chatripper.Registry

/-!
# The directory of nicks

Who is reached under which nick, among clients that register anonymously.  A registration enters the
nick as it was typed, NICK enters it in lower case, and both take back the nick as it is displayed.

* `SysStep.anonInv`    every account on line is anonymous, registered and on one connection;
* `nicks_reachable`    while NICK gives lower-case nicks, every account on line is found under the
  nick it displays;
* `nicks_released`     while the entry that is taken back is the only one, every entry leads to a
  registered account, and no account has two.
-/

namespace Chatripper
open ByteStr Utf8 Outcome

namespace Reg

/-- the state of clients that do not log in; `V` is what is known of their nicks -/
structure AnonInv (V : Bytes → Prop) (r : Reg) : Prop extends RegistryInv r where
  pending : ∀ c, (r.conn c).live = true → (r.conn c).is_ready = false →
    (r.conn c).m_account = none ∧
      ((r.conn c).setup_tasks.has .NICK = false → V (r.conn c).m_nick)
  member : ∀ c a, r.Online c a → a ∈ r.accounts ∧ (r.acc a).m_name = []
  valid : ∀ c a, r.Online c a → V (r.acc a).m_nick
  alone : ∀ c d a, r.Online c a → r.Online d a → c = d

/-- the nicks that are given meet `V`, and nobody logs in -/
def SysLabel.Anonymous (V : Bytes → Prop) : SysLabel → Prop
  | .conn _ (.giveNick n) => V n
  | .conn _ (.rename _ _ _ new) => new ≠ [] → V new
  | .conn _ l => l.isLogin = false
  | _ => True

/-- a step that neither changes a nick nor ends a connection -/
def SysLabel.KeepsNicks : SysLabel → Prop
  | .conn _ (.rename _ _ _ _) => False
  | .disconnect _ => False
  | _ => True

/-- every account on line is entered under the nick it displays -/
def Entered (r : Reg) : Prop := ∀ c a, r.Online c a → r.irc_nicks[star (r.acc a).m_nick]? = some a

/-- nobody on line displays the nick, as long as `c` is not ready -/
def Unclaimed (c : ConnId) (n : Bytes) (r : Reg) : Prop :=
  (r.conn c).is_ready = false → ∀ d b, r.Online d b → star (r.acc b).m_nick ≠ n

/-- every entry leads to a registered account, and no account has two -/
structure Released (r : Reg) : Prop where
  mem : ∀ (k : Bytes) (a : AccId), r.irc_nicks[k]? = some a → a ∈ r.accounts
  single : ∀ (k k' : Bytes) (a : AccId), r.irc_nicks[k]? = some a → r.irc_nicks[k']? = some a → k = k'

section
variable {V : Bytes → Prop} {r r' : Reg} {c : ConnId} {a : AccId}

theorem AnonInv.online (h : AnonInv V r) (hlive : (r.conn c).live = true)
    (hacc : (r.conn c).m_account = some a) : r.Online c a := by
  refine ⟨hlive, ?_, hacc⟩
  by_contra hready
  have hnone := (h.pending c hlive (Bool.not_eq_true _ ▸ hready)).1
  rw [hacc] at hnone
  cases hnone

/-! ## one step -/

theorem AnonInv.updConn {f : ConnReg → ConnReg} (h : AnonInv V r) (hreg : RegistryInv (r.updConn c f))
    (hf : (f (r.conn c)).live = (r.conn c).live ∧ (f (r.conn c)).is_ready = (r.conn c).is_ready ∧
      (f (r.conn c)).m_account = (r.conn c).m_account)
    (hnick : ((r.conn c).setup_tasks.has .NICK = false → V (r.conn c).m_nick) →
      (f (r.conn c)).setup_tasks.has .NICK = false → V (f (r.conn c)).m_nick) :
    AnonInv V (r.updConn c f) := by
  refine ⟨hreg, fun d hlive hready => ?_, fun d a hd => ?_, fun d a hd => ?_, fun d e a hd he => ?_⟩
  · rw [updConn_conn] at hlive hready ⊢
    by_cases hx : d = c
    · rw [if_pos hx] at hlive hready ⊢
      rw [hf.1] at hlive
      rw [hf.2.1] at hready
      obtain ⟨hacc, hold⟩ := h.pending c hlive hready
      exact ⟨hf.2.2.trans hacc, hnick hold⟩
    · rw [if_neg hx] at hlive hready ⊢
      exact h.pending d hlive hready
  · exact h.member d a ((online_updConn hf).mp hd)
  · exact h.valid d a ((online_updConn hf).mp hd)
  · exact h.alone d e a ((online_updConn hf).mp hd) ((online_updConn hf).mp he)

theorem AnonInv.registerNew (h : AnonInv V r) (hlive : (r.conn c).live = true)
    (hfin : r.Finishing c) : AnonInv V (r.registerNew c) := by
  obtain ⟨hnone, hvalid⟩ := h.pending c hlive hfin.1
  have hnick : V (r.conn c).m_nick := hvalid (Flags.not_has_of_empty hfin.2 _)
  have hlt {d : ConnId} {b : AccId} (hd : r.Online d b) : b < r.nextAcc :=
    h.made_lt b (h.member d b hd).1
  have hold {d : ConnId} {b : AccId} (hd : r.Online d b) : (r.registerNew c).acc b = r.acc b := by
    rw [registerNew_acc, if_neg (Nat.ne_of_lt (hlt hd))]
  have hmem (b : AccId) : b ∈ (r.registerNew c).accounts ↔ r.nextAcc = b ∨ b ∈ r.accounts := by
    show b ∈ r.accounts.insert r.nextAcc ↔ _
    rw [Std.ExtTreeSet.mem_insert, Std.compare_eq_iff_eq]
  refine ⟨h.toRegistryInv.registerNew hlive hnone, fun d hl hr => ?_, fun d b hd => ?_,
    fun d b hd => ?_, fun d e b hd he => ?_⟩
  · rw [registerNew_conn] at hl hr ⊢
    by_cases hx : d = c
    · rw [if_pos hx] at hr
      cases hr
    · rw [if_neg hx] at hl hr ⊢
      exact h.pending d hl hr
  · rcases online_registerNew.mp hd with ⟨-, -, rfl⟩ | ⟨-, hd⟩
    · refine ⟨(hmem _).mpr (Or.inl rfl), ?_⟩
      rw [registerNew_acc, if_pos rfl]
    · rw [hold hd]
      obtain ⟨hb, hname⟩ := h.member d b hd
      exact ⟨(hmem b).mpr (Or.inr hb), hname⟩
  · rcases online_registerNew.mp hd with ⟨-, -, rfl⟩ | ⟨-, hd⟩
    · rw [registerNew_acc, if_pos rfl]
      exact hnick
    · rw [hold hd]
      exact h.valid d b hd
  · rcases online_registerNew.mp hd with ⟨rfl, -, rfl⟩ | ⟨-, hd⟩
    · rcases online_registerNew.mp he with ⟨rfl, -, -⟩ | ⟨-, he⟩
      · rfl
      · exact absurd (hlt he) (Nat.lt_irrefl _)
    · rcases online_registerNew.mp he with ⟨-, -, rfl⟩ | ⟨-, he⟩
      · exact absurd (hlt hd) (Nat.lt_irrefl _)
      · exact h.alone d e b hd he

theorem AnonInv.rename {self : AccId} {old new : Bytes} (h : AnonInv V r) (hnew : V new) :
    AnonInv V (r.rename a self old new) := by
  refine ⟨h.toRegistryInv.rename, h.pending, fun d b hd => ?_, fun d b hd => ?_, h.alone⟩
  · obtain ⟨hb, hname⟩ := h.member d b hd
    refine ⟨hb, ?_⟩
    rw [rename_acc]
    by_cases hx : b = a
    · rw [if_pos hx, ← hx]
      exact hname
    · rw [if_neg hx]
      exact hname
  · rw [rename_acc]
    by_cases hx : b = a
    · rw [if_pos hx]
      exact hnew
    · rw [if_neg hx]
      exact h.valid d b hd

theorem AnonInv.connect (h : AnonInv V r) : AnonInv V r.connect := by
  refine ⟨h.toRegistryInv.connect, fun d hl hr => ?_, fun d a hd => ?_, fun d a hd => ?_,
    fun d e a hd he => ?_⟩
  · have hconn : r.connect.conn d =
        if d = r.nextConn then { ({} : Conn).reg with live := true } else r.conn d := rfl
    rw [hconn] at hl hr ⊢
    by_cases hx : d = r.nextConn
    · rw [if_pos hx]
      exact ⟨rfl, fun ht => absurd ht (by decide)⟩
    · rw [if_neg hx] at hl hr ⊢
      exact h.pending d hl hr
  · exact h.member d a (online_connect hd).2
  · exact h.valid d a (online_connect hd).2
  · exact h.alone d e a (online_connect hd).2 (online_connect he).2

/-- the registries after an anonymous connection has gone -/
theorem AnonInv.disconnect_eq (h : AnonInv V r) (hlive : (r.conn c).live = true)
    (hacc : (r.conn c).m_account = some a) :
    (r.disconnect c).accounts = r.accounts.erase a ∧
      (r.disconnect c).irc_nicks = r.irc_nicks.erase (r.nick c) := by
  obtain ⟨hmem, hname⟩ := h.member c a (h.online hlive hacc)
  rw [disconnect_some hacc, h.toRegistry.leaveAccount_eq (h.made c a hacc)]
  dsimp only
  rw [if_pos hname, if_pos hmem]
  exact ⟨rfl, rfl⟩

theorem AnonInv.disconnect (h : AnonInv V r) (hlive : (r.conn c).live = true) :
    AnonInv V (r.disconnect c) := by
  have hacc (b : AccId) : ((r.disconnect c).acc b).m_name = (r.acc b).m_name ∧
      ((r.disconnect c).acc b).m_nick = (r.acc b).m_nick := by
    rw [disconnect_acc]
    split <;> exact ⟨rfl, rfl⟩
  refine ⟨h.toRegistryInv.disconnect hlive, fun d hl hr => ?_, fun d b hd => ?_, fun d b hd => ?_,
    fun d e b hd he => ?_⟩
  · rw [disconnect_conn] at hl hr ⊢
    by_cases hx : d = c
    · rw [if_pos hx] at hl
      cases hl
    · rw [if_neg hx] at hl hr ⊢
      exact h.pending d hl hr
  · obtain ⟨hx, hd⟩ := online_disconnect.mp hd
    obtain ⟨hb, hname⟩ := h.member d b hd
    refine ⟨?_, (hacc b).1.trans hname⟩
    cases hc : (r.conn c).m_account with
    | none =>
      rw [disconnect_none hc]
      exact hb
    | some a =>
      rw [(h.disconnect_eq hlive hc).1]
      refine mem_erase_accounts.mpr ⟨?_, hb⟩
      rintro rfl
      exact hx (h.alone d c b hd (h.online hlive hc))
  · rw [(hacc b).2]
    exact h.valid d b (online_disconnect.mp hd).2
  · exact h.alone d e b (online_disconnect.mp hd).2 (online_disconnect.mp he).2

/-- **One step.**  Clients that do not log in keep the invariant. -/
theorem SysStep.anonInv {l : SysLabel} (hl : l.Anonymous V) (h : AnonInv V r)
    (hstep : SysStep l r r') : AnonInv V r' := by
  have hreg : RegistryInv r' := hstep.registryInv h.toRegistryInv
  cases hstep with
  | connect => exact h.connect
  | disconnect hlive => exact h.disconnect hlive
  | @conn c _ _ _ hlive hstep =>
    cases hstep with
    | giveNick => exact h.updConn hreg ⟨rfl, rfl, rfl⟩ fun _ _ => hl
    | clear ht =>
      refine h.updConn hreg ⟨rfl, rfl, rfl⟩ fun hold hgone => hold ?_
      rw [Flags.has_clear] at hgone
      simpa [Ne.symm ht] using hgone
    | refuse => exact ⟨hreg, h.pending, h.member, h.valid, h.alone⟩
    | registerNew hfin => exact h.registerNew hlive hfin
    | registerOld hfin hacc =>
      rw [(h.pending c hlive hfin.1).1] at hacc
      cases hacc
    | rename _ _ hnew => exact h.rename (hl hnew)
    | login => cases hl
    | relogin => cases hl
    | merge => cases hl

/-! ## entries -/

theorem Entered.ne (h : Entered r) {c d : ConnId} {a b : AccId} (ha : r.Online c a)
    (hb : r.Online d b) (hab : a ≠ b) : star (r.acc a).m_nick ≠ star (r.acc b).m_nick := by
  intro he
  have hsame := h c a ha
  rw [he, h d b hb] at hsame
  exact hab (Option.some.inj hsame).symm

/-- a registration under a nick that nobody on line displays -/
theorem Entered.registerNew (h : Entered r) (hinv : AnonInv V r)
    (hother : ∀ d b, r.Online d b → star (r.acc b).m_nick ≠ star (r.conn c).m_nick) :
    Entered (r.registerNew c) := by
  intro d b hd
  rcases online_registerNew.mp hd with ⟨-, -, rfl⟩ | ⟨-, hd⟩
  · rw [registerNew_acc, if_pos rfl, registerNew_irc_nicks, lookup_insert, if_pos rfl]
  · have hlt := hinv.made_lt b (hinv.member d b hd).1
    rw [registerNew_acc, if_neg (Nat.ne_of_lt hlt), registerNew_irc_nicks, lookup_insert,
      if_neg (hother d b hd)]
    exact h d b hd

/-- a change from the displayed nick to a lower-case one -/
theorem Entered.rename {old new : Bytes} (h : Entered r) (hon : r.Online c a) (hnew : new ≠ [])
    (hlower : toLower new = new) (hold : old = star (r.acc a).m_nick)
    (hfree : r.irc_nicks[toLower new]? = none ∨ r.irc_nicks[toLower new]? = some a) :
    Entered (r.rename a a old new) := by
  intro d b hd
  have hd : r.Online d b := hd
  show ((r.irc_nicks.erase old).insert (toLower new) a)[_]? = _
  rw [rename_acc]
  by_cases hx : b = a
  · rw [if_pos hx, star_of_ne hnew, lookup_insert, if_pos hlower.symm, hx]
  · rw [if_neg hx]
    have hb := h d b hd
    have hkey : star (r.acc b).m_nick ≠ toLower new := by
      intro he
      rw [he] at hb
      rcases hfree with hf | hf
      · rw [hf] at hb
        cases hb
      · rw [hf] at hb
        exact hx (Option.some.inj hb).symm
    rw [lookup_insert, if_neg hkey, lookup_erase, if_neg]
    · exact hb
    · rw [hold]
      exact h.ne hd hon hx

theorem Entered.disconnect (h : Entered r) (hinv : AnonInv V r) (hlive : (r.conn c).live = true) :
    Entered (r.disconnect c) := by
  intro d b hd
  obtain ⟨hx, hd⟩ := online_disconnect.mp hd
  have hnick : ((r.disconnect c).acc b).m_nick = (r.acc b).m_nick := by
    rw [disconnect_acc]
    split <;> rfl
  rw [hnick]
  cases hc : (r.conn c).m_account with
  | none =>
    rw [disconnect_none hc]
    exact h d b hd
  | some a =>
    have hon := hinv.online hlive hc
    have hab : b ≠ a := by
      rintro rfl
      exact hx (hinv.alone d c b hd hon)
    have hown : r.nick c = star (r.acc a).m_nick := by
      unfold nick
      rw [hc]
    rw [(hinv.disconnect_eq hlive hc).2, lookup_erase, if_neg]
    · exact h d b hd
    · rw [hown]
      exact h.ne hd hon hab

/-- a step of `c` that changes no nick, under a nick that nobody claims -/
theorem SysStep.entered {l : Label} (hne : ∀ n, V n → n ≠ []) (hl : (SysLabel.conn c l).KeepsNicks)
    (hanon : (SysLabel.conn c l).Anonymous V) (hinv : AnonInv V r) (h : Entered r) (hun : ∀ n, l = .registerNew n → r.Unclaimed c n)
    (hstep : SysStep (.conn c l) r r') :
    Entered r' ∧ ∀ n, r.Unclaimed c n → r'.Unclaimed c n := by
  cases hstep with
  | conn hlive hstep =>
    have hconn {f : ConnReg → ConnReg}
        (hf : (f (r.conn c)).live = (r.conn c).live ∧
          (f (r.conn c)).is_ready = (r.conn c).is_ready ∧
          (f (r.conn c)).m_account = (r.conn c).m_account) :
        Entered (r.updConn c f) ∧ ∀ n, r.Unclaimed c n → (r.updConn c f).Unclaimed c n := by
      refine ⟨fun d b hd => h d b ((online_updConn hf).mp hd), fun n hn hready d b hd => ?_⟩
      rw [updConn_conn, if_pos rfl, hf.2.1] at hready
      exact hn hready d b ((online_updConn hf).mp hd)
    cases hstep with
    | giveNick => exact hconn ⟨rfl, rfl, rfl⟩
    | clear => exact hconn ⟨rfl, rfl, rfl⟩
    | refuse => exact ⟨h, fun _ hn => hn⟩
    | registerNew hfin =>
      refine ⟨h.registerNew hinv ?_, fun n _ hready => ?_⟩
      · have hnick := (hinv.pending c hlive hfin.1).2 (Flags.not_has_of_empty hfin.2 _)
        rw [star_of_ne (hne _ hnick)]
        exact hun _ rfl hfin.1
      · rw [registerNew_conn, if_pos rfl] at hready
        cases hready
    | registerOld hfin hacc =>
      rw [(hinv.pending c hlive hfin.1).1] at hacc
      cases hacc
    | rename => exact hl.elim
    | login => cases hanon
    | relogin => cases hanon
    | merge => cases hanon

theorem Released.registerNew (h : Released r) (hinv : RegistryInv r) : Released (r.registerNew c) := by
  have hmem (b : AccId) (hb : r.nextAcc = b ∨ b ∈ r.accounts) : b ∈ (r.registerNew c).accounts := by
    show b ∈ r.accounts.insert r.nextAcc
    rw [Std.ExtTreeSet.mem_insert, Std.compare_eq_iff_eq]
    exact hb
  have hlt {k : Bytes} {b : AccId} (hk : r.irc_nicks[k]? = some b) : b ≠ r.nextAcc :=
    Nat.ne_of_lt (hinv.made_lt b (h.mem k b hk))
  have hcases {k : Bytes} {b : AccId} (hk : (r.registerNew c).irc_nicks[k]? = some b) :
      (k = star (r.conn c).m_nick ∧ b = r.nextAcc) ∨ r.irc_nicks[k]? = some b := by
    rw [registerNew_irc_nicks, lookup_insert] at hk
    split at hk
    · next he => exact Or.inl ⟨he, (Option.some.inj hk).symm⟩
    · exact Or.inr hk
  refine ⟨fun k b hk => ?_, fun k k' b hk hk' => ?_⟩
  · rcases hcases hk with ⟨-, rfl⟩ | hk
    · exact hmem _ (Or.inl rfl)
    · exact hmem b (Or.inr (h.mem k b hk))
  · rcases hcases hk with ⟨rfl, rfl⟩ | hk
    · rcases hcases hk' with ⟨rfl, -⟩ | hk'
      · rfl
      · exact absurd rfl (hlt hk')
    · rcases hcases hk' with ⟨-, rfl⟩ | hk'
      · exact absurd rfl (hlt hk)
      · exact h.single k k' b hk hk'

/-- the entries after a nick change -/
theorem rename_irc_nicks {self : AccId} {old new k : Bytes} {b : AccId} :
    (r.rename a self old new).irc_nicks[k]? = some b ↔
      (k = toLower new ∧ self = b) ∨ (k ≠ toLower new ∧ k ≠ old ∧ r.irc_nicks[k]? = some b) := by
  show ((r.irc_nicks.erase old).insert (toLower new) self)[k]? = some b ↔ _
  rw [lookup_insert, lookup_erase]
  by_cases hk : k = toLower new
  · rw [if_pos hk]
    refine ⟨fun h => Or.inl ⟨hk, Option.some.inj h⟩, ?_⟩
    rintro (⟨-, rfl⟩ | ⟨hne, -⟩)
    · rfl
    · exact absurd hk hne
  · rw [if_neg hk]
    by_cases ho : k = old
    · rw [if_pos ho]
      refine ⟨nofun, ?_⟩
      rintro (⟨he, -⟩ | ⟨-, hne, -⟩)
      · exact absurd he hk
      · exact absurd ho hne
    · rw [if_neg ho]
      refine ⟨fun h => Or.inr ⟨hk, ho, h⟩, ?_⟩
      rintro (⟨he, -⟩ | ⟨-, -, h⟩)
      · exact absurd he hk
      · exact h

/-- a nick change that takes back the only other entry of the account -/
theorem Released.rename {old new : Bytes} (h : Released r) (ha : a ∈ r.accounts)
    (hkeys : ∀ k : Bytes, r.irc_nicks[k]? = some a → k = old ∨ k = toLower new) :
    Released (r.rename a a old new) := by
  refine ⟨fun k b hk => ?_, fun k k' b hk hk' => ?_⟩
  · show b ∈ r.accounts
    rcases rename_irc_nicks.mp hk with ⟨-, rfl⟩ | ⟨-, -, hk⟩
    · exact ha
    · exact h.mem k b hk
  · have hnot {k : Bytes} (hne : k ≠ toLower new) (hold : k ≠ old) (hk : r.irc_nicks[k]? = some a) :
        False := (hkeys k hk).elim hold hne
    rcases rename_irc_nicks.mp hk with ⟨rfl, rfl⟩ | ⟨hne, hold, hk⟩
    · rcases rename_irc_nicks.mp hk' with ⟨rfl, -⟩ | ⟨hne', hold', hk'⟩
      · rfl
      · exact (hnot hne' hold' hk').elim
    · rcases rename_irc_nicks.mp hk' with ⟨-, rfl⟩ | ⟨-, -, hk'⟩
      · exact (hnot hne hold hk).elim
      · exact h.single k k' b hk hk'

/-- a step that neither changes a nick nor ends a connection -/
theorem SysStep.released {l : SysLabel} (hl : l.KeepsNicks) (hanon : l.Anonymous V)
    (hinv : AnonInv V r) (h : Released r) (hstep : SysStep l r r') : Released r' := by
  cases hstep with
  | connect => exact ⟨h.mem, h.single⟩
  | disconnect => exact hl.elim
  | @conn c _ _ _ hlive hstep =>
    cases hstep with
    | giveNick => exact ⟨h.mem, h.single⟩
    | clear => exact ⟨h.mem, h.single⟩
    | refuse => exact ⟨h.mem, h.single⟩
    | registerNew => exact h.registerNew hinv.toRegistryInv
    | registerOld hfin hacc =>
      rw [(hinv.pending c hlive hfin.1).1] at hacc
      cases hacc
    | rename => exact hl.elim
    | login => cases hanon
    | relogin => cases hanon
    | merge => cases hanon

/-- an anonymous connection whose nick is the only entry of its account goes -/
theorem Released.disconnect (h : Released r) (hinv : AnonInv V r) (hlive : (r.conn c).live = true)
    (hkeys : ∀ a, (r.conn c).m_account = some a →
      ∀ k : Bytes, r.irc_nicks[k]? = some a → k = r.nick c) : Released (r.disconnect c) := by
  cases hc : (r.conn c).m_account with
  | none =>
    rw [disconnect_none hc]
    exact ⟨h.mem, h.single⟩
  | some a =>
    obtain ⟨haccounts, hnicks⟩ := hinv.disconnect_eq hlive hc
    have hcases {k : Bytes} {b : AccId} (hk : (r.disconnect c).irc_nicks[k]? = some b) :
        k ≠ r.nick c ∧ r.irc_nicks[k]? = some b := by
      rw [hnicks, lookup_erase] at hk
      split at hk
      · cases hk
      · next hne => exact ⟨hne, hk⟩
    refine ⟨fun k b hk => ?_, fun k k' b hk hk' => ?_⟩
    · obtain ⟨hne, hk⟩ := hcases hk
      rw [haccounts]
      refine mem_erase_accounts.mpr ⟨?_, h.mem k b hk⟩
      rintro rfl
      exact hne (hkeys b hc k hk)
    · exact h.single k k' b (hcases hk).2 (hcases hk').2

end

end Reg

/-! ## what a line does to the nicks -/

namespace client_connection
open World

/-- the nick change that a line makes -/
def lineNickChange (env : Env) (c : ConnId) (line : Bytes) (w : World) :
    Option (AccId × QEventNickChange) :=
  match lineCommand c line w with
  | some (.NICK, args) => nickChange env c args (handlerWorld c line w)
  | _ => none

section
variable {env : Env} {c : ConnId} {w w' : World} {a : AccId} {args : List Bytes} {line : Bytes}

/-- a nick change moves the entry of the registry, and is posted to the connections of everybody in the
channels of the account -/
theorem handleNICK_posts {ev : QEventNickChange} (h : nickChange env c args w = some (a, ev))
    (hok : handleNICK env c args w = .ok w') : (w.conn c).m_account = some a ∧
      ∃ n w1 self w2 l, w.consult .NICK_CHANGE (·.cancel)
          { new_nick := n, old_nick := w.nick c, account := some a } = (some ev, w1) ∧
        Account.renameInRegistry a ev w1 = some (self, w2) ∧
        Account.channelMembers w2 (w2.acc a).channels.values ((∅ : QSet AccId).insert self) = .ok l ∧
        w' = postAll l.toList (.change_nick ev) w2 := by
  unfold nickChange at h
  split at h
  · next n rest b hacc =>
    split at h
    · next hcond =>
      obtain ⟨hvalid, hfree, hempty, hne⟩ := hcond
      dsimp only at h
      obtain ⟨ev', hev', hpair⟩ := Option.map_eq_some_iff.mp h
      obtain ⟨hev, hsome⟩ := Option.filter_eq_some_iff.mp hev'
      cases hpair
      refine ⟨hacc, ?_⟩
      have hchange : handleNICK env c (n :: rest) w = changeOwnNick env c n w := by
        have hnot : ¬ ((w.conn c).m_account ≠ none ∧ Ctx.irc_nick_get w (toLower n) ≠ none) :=
          fun hx => hx.2 hfree
        have htask : (w.conn c).setup_tasks.has .NICK = false := Flags.not_has_of_empty hempty _
        unfold handleNICK
        rw [if_neg (List.cons_ne_nil _ _)]
        show (if !isValidNick env n then _ else _) = _
        rw [hvalid, if_neg nofun, if_neg hnot, htask, if_neg nofun, hempty]
        rfl
      rw [hchange] at hok
      unfold changeOwnNick at hok
      dsimp only at hok
      rw [if_neg hne, hacc] at hok
      obtain ⟨m, hm, hok⟩ := bind_eq_ok.mp hok
      cases hm
      obtain ⟨r, hr, hw'⟩ := bind_eq_ok.mp hok
      unfold Account.setNick at hr
      generalize hq : w.consult .NICK_CHANGE (·.cancel)
        ({ new_nick := n, old_nick := w.nick c, account := some a } : QEventNickChange) = q
        at hev hsome hr
      obtain ⟨q1, w1⟩ := q
      cases hev
      dsimp only at hsome hr
      obtain ⟨⟨self, w2⟩, hren⟩ := Option.isSome_iff_exists.mp hsome
      rw [hren] at hr
      obtain ⟨l, hl, hr⟩ := bind_eq_ok.mp hr
      cases hr
      cases hw'
      exact ⟨n, w1, self, w2, l, hq, hren, hl, rfl⟩
    · cases h
  · cases h

/-- a nick change is the machine's `rename` -/
theorem handleNICK_change {ev : QEventNickChange} (h : nickChange env c args w = some (a, ev))
    (hok : handleNICK env c args w = .ok w') : (w.conn c).m_account = some a ∧ ∃ self,
      w.reg.accounts_lookup_uuid[(w.reg.acc a).m_uid]? = some self ∧ ev.new_nick ≠ [] ∧
      (w.reg.irc_nicks[toLower ev.new_nick]? = none ∨
        w.reg.irc_nicks[toLower ev.new_nick]? = some self) ∧
      w'.reg = w.reg.rename a self ev.old_nick ev.new_nick := by
  obtain ⟨hacc, n, w1, self, w2, l, hconsult, hren, -, rfl⟩ := handleNICK_posts h hok
  have hreg := w.reg_consult .NICK_CHANGE (·.cancel)
    ({ new_nick := n, old_nick := w.nick c, account := some a } : QEventNickChange)
  rw [hconsult] at hreg
  replace hreg : w1.reg = w.reg := hreg
  obtain ⟨h1, -, h3, h4, h5⟩ := reg_renameInRegistry hren
  have h4 : w1.reg.accounts_lookup_uuid[(w1.reg.acc a).m_uid]? = some self := h4
  have h5 : w1.reg.irc_nicks[toLower ev.new_nick]? = none ∨
    w1.reg.irc_nicks[toLower ev.new_nick]? = some self := h5
  rw [hreg] at h1 h4 h5
  exact ⟨hacc, self, h4, h3, h5, (Account.reg_postAll _ _ _).trans h1⟩

theorem LineLabel.giveNick {n : Bytes} (h : LineLabel env c line w (.giveNick n)) :
    isValidNick env n = true := by
  obtain ⟨cmd, args, -, h⟩ := h
  cases cmd with
  | NICK => exact h.2.1
  | USER => cases h.2
  | CAP => cases h.2
  | AUTHENTICATE => cases h
  | _ => cases h

theorem LineLabel.rename {self : AccId} {old new : Bytes}
    (h : LineLabel env c line w (.rename a self old new)) :
    ∃ ev, lineNickChange env c line w = some (a, ev) ∧ ev.new_nick = new := by
  obtain ⟨cmd, args, hcmd, h⟩ := h
  cases cmd with
  | NICK =>
    obtain ⟨ev, hev, -, hnew⟩ := h
    refine ⟨ev, ?_, hnew⟩
    unfold lineNickChange
    rw [hcmd]
    exact hev
  | USER => cases h.2
  | CAP => cases h.2
  | AUTHENTICATE => cases h
  | _ => cases h

end

end client_connection

/-! ## runs of the server -/

namespace Worker
open World client_connection

/-- the nick change that an event makes -/
def nickChangeOf (env : Env) (w : World) : Event → Option (AccId × QEventNickChange)
  | .line c line => if (w.conn c).live then lineNickChange env c line w else none
  | _ => none

/-- the event changes a nick, and this is what it does -/
structure Renames (env : Env) (w : World) (a : AccId) (ev : QEventNickChange) (w' : World) : Prop where
  online : ∃ c, (w.conn c).live = true ∧ (w.conn c).m_account = some a
  new_ne : ev.new_nick ≠ []
  effect : ∃ self, w.reg.accounts_lookup_uuid[(w.reg.acc a).m_uid]? = some self ∧
    (w.reg.irc_nicks[toLower ev.new_nick]? = none ∨
      w.reg.irc_nicks[toLower ev.new_nick]? = some self) ∧
    w'.reg = w.reg.rename a self ev.old_nick ev.new_nick

section
variable {env : Env} {w w' : World} {evs : List Event} {ev : Event} {V : Bytes → Prop}

theorem step_renames {a : AccId} {e : QEventNickChange} (h : nickChangeOf env w ev = some (a, e))
    (hstep : step env w ev = .ok w') : Renames env w a e w' := by
  cases ev with
  | line c line =>
    have h : (if (w.conn c).live then lineNickChange env c line w else none) = some (a, e) := h
    split at h
    · next hlive =>
      have hstep : (if (w.conn c).live then parseIncoming env c line w else .ok w) = .ok w' := hstep
      rw [if_pos hlive, parseIncoming_eq] at hstep
      have hreg := reg_handlerWorld (c := c) (w := w) line
      unfold lineNickChange at h
      split at h
      · next args hcmd =>
        rw [hcmd] at hstep
        obtain ⟨hacc, self, hself, hnew, hfree, heffect⟩ := handleNICK_change h hstep
        rw [conn_handlerWorld] at hacc
        rw [hreg] at hself hfree heffect
        exact ⟨⟨c, hlive, hacc⟩, hnew, self, hself, hfree, heffect⟩
      · cases h
    · cases h
  | connect => cases h
  | deliver => cases h
  | disconnect => cases h

theorem EventLabel.giveNick {c : ConnId} {n : Bytes}
    (h : EventLabel env w ev (.conn c (.giveNick n))) : isValidNick env n = true := by
  cases ev with
  | line d line => exact h.2.giveNick
  | connect => cases h
  | deliver => cases h
  | disconnect => cases h

/-- an event that changes no nick and ends no connection -/
theorem EventLabel.keepsNicks {l : Reg.SysLabel}
    (hlive : ∀ c line, ev = .line c line → (w.conn c).live = true)
    (hnone : nickChangeOf env w ev = none) (hdis : ∀ c, ev ≠ .disconnect c)
    (h : EventLabel env w ev l) : l.KeepsNicks := by
  cases l with
  | conn d k =>
    cases k with
    | rename a self old new =>
      cases ev with
      | line c line =>
        obtain ⟨e, he, -⟩ := h.2.rename
        unfold nickChangeOf at hnone
        dsimp only at hnone
        rw [hlive c line rfl, he] at hnone
        cases hnone
      | connect => cases h
      | deliver => cases h
      | disconnect => cases h
    | _ => trivial
  | connect => trivial
  | disconnect d =>
    cases ev with
    | disconnect c => exact hdis c rfl
    | connect => cases h
    | deliver => cases h
    | line => cases h

/-- the labels of an event that changes no nick -/
theorem EventLabel.anonymous {l : Reg.SysLabel} (hlogin : isLogin w ev = false)
    (hV : ∀ n, isValidNick env n = true → V n) (hkeeps : l.KeepsNicks)
    (h : EventLabel env w ev l) : l.Anonymous V := by
  cases l with
  | conn d k =>
    have hk := h.not_login hlogin
    cases k with
    | giveNick n => exact hV n h.giveNick
    | rename => exact hkeeps.elim
    | login => cases hk
    | relogin => cases hk
    | merge => cases hk
    | _ => rfl
  | connect => trivial
  | disconnect => trivial

/-- **One event** of a run without logins: a nick change, the end of a connection, or steps that do
neither. -/
theorem step_cases (hlogin : isLogin w ev = false) (hV : ∀ n, isValidNick env n = true → V n)
    (hstep : step env w ev = .ok w') :
    (∃ a e, nickChangeOf env w ev = some (a, e) ∧ Renames env w a e w') ∨
      (∃ c, ev = .disconnect c ∧ (w.conn c).live = true ∧ w'.reg = w.reg.disconnect c) ∨
      (∃ ls, Chain Reg.SysStep ls w.reg w'.reg ∧
        ∀ l ∈ ls, EventLabel env w ev l ∧ l.KeepsNicks ∧ l.Anonymous V) ∨
      w'.reg = w.reg := by
  cases hchange : nickChangeOf env w ev with
  | some p => exact Or.inl ⟨p.1, p.2, rfl, step_renames hchange hstep⟩
  | none =>
    refine Or.inr ?_
    by_cases hdead : ∃ c line, ev = .line c line ∧ (w.conn c).live ≠ true
    · obtain ⟨c, line, rfl, hlive⟩ := hdead
      have hstep : (if (w.conn c).live then parseIncoming env c line w else .ok w) = .ok w' := hstep
      rw [if_neg hlive] at hstep
      cases hstep
      exact Or.inr (Or.inr rfl)
    · push Not at hdead
      by_cases hdis : ∃ c, ev = .disconnect c
      · obtain ⟨c, rfl⟩ := hdis
        cases hstep
        by_cases hlive : (w.conn c).live = true
        · rw [if_pos hlive]
          exact Or.inl ⟨c, rfl, hlive, reg_onSocketDisconnected⟩
        · rw [if_neg hlive]
          exact Or.inr (Or.inr rfl)
      · push Not at hdis
        obtain ⟨ls, hchain, hls⟩ := step_chain hstep
        refine Or.inr (Or.inl ⟨ls, hchain, fun l hl => ?_⟩)
        have hkeeps := (hls l hl).keepsNicks hdead hchange hdis
        exact ⟨hls l hl, hkeeps, (hls l hl).anonymous hlogin hV hkeeps⟩

theorem step_anonInv (hlogin : isLogin w ev = false) (hV : ∀ n, isValidNick env n = true → V n)
    (hnew : ∀ a e, nickChangeOf env w ev = some (a, e) → e.new_nick ≠ [] → V e.new_nick)
    (h : w.reg.AnonInv V) (hstep : step env w ev = .ok w') : w'.reg.AnonInv V := by
  rcases step_cases hlogin hV hstep with
    ⟨a, e, he, hren⟩ | ⟨c, -, hlive, hreg⟩ | ⟨ls, hchain, hls⟩ | hreg
  · obtain ⟨self, -, -, hreg⟩ := hren.effect
    rw [hreg]
    exact h.rename (hnew a e he hren.new_ne)
  · rw [hreg]
    exact h.disconnect hlive
  · exact hchain.inv (fun _ _ _ hl hI hs => hs.anonInv hl hI) (fun l hl => (hls l hl).2.2) h
  · rw [hreg]
    exact h

/-- a nick change of an account on line, which its uid leads to -/
theorem Renames.reg_eq {a : AccId} {e : QEventNickChange} (hren : Renames env w a e w')
    (h : w.reg.AnonInv V) :
    (∃ c, w.reg.Online c a) ∧ a ∈ w.reg.accounts ∧
      (w.reg.irc_nicks[toLower e.new_nick]? = none ∨
        w.reg.irc_nicks[toLower e.new_nick]? = some a) ∧
      w'.reg = w.reg.rename a a e.old_nick e.new_nick := by
  obtain ⟨c, hlive, hacc⟩ := hren.online
  have hon : w.reg.Online c a := h.online hlive hacc
  obtain ⟨self, hself, hfree, hreg⟩ := hren.effect
  obtain rfl := h.toRegistry.self_eq (h.made c a hacc) hself
  exact ⟨⟨c, hon⟩, (h.member c self hon).1, hfree, hreg⟩

/-! ## reaching a nick -/

/-- NICK gives a valid lower-case nick, in place of the one that is displayed -/
def lowerChange (env : Env) (w : World) (ev : Event) : Bool :=
  (nickChangeOf env w ev).all fun p =>
    isValidNick env p.2.new_nick && toLower p.2.new_nick == p.2.new_nick &&
      p.2.old_nick == w.accNick p.1

/-- a new account has a nick that differs, after folding, from those of everybody on line -/
def distinctNick (env : Env) (w : World) (ev : Event) : Bool :=
  (registered env w ev).all fun n => (List.range w.nextConn).all fun d =>
    !((w.conn d).live && (w.conn d).is_ready) || toLower (w.nick d) != toLower n

theorem distinctNick_ne {n : Bytes} {d : ConnId} {b : AccId} (h : distinctNick env w ev = true)
    (hn : n ∈ registered env w ev) (hinv : w.reg.AnonInv V) (hd : w.reg.Online d b) :
    w.accNick b ≠ n := by
  unfold distinctNick at h
  rw [Option.mem_def.mp hn] at h
  have hlt : d < w.nextConn := hinv.fresh d hd.1
  have hcond := List.all_eq_true.mp h d (List.mem_range.mpr hlt)
  have hlive : (w.conn d).live = true := hd.1
  have hready : (w.conn d).is_ready = true := hd.2.1
  have hacc : (w.conn d).m_account = some b := hd.2.2
  have hnick : w.nick d = w.accNick b := by
    unfold World.nick
    rw [hacc]
  rw [hlive, hready, hnick] at hcond
  have hne : toLower (w.accNick b) ≠ toLower n := by simpa using hcond
  exact fun he => hne (by rw [he])

/-- **One event.**  Under both conditions every account on line stays entered under its nick. -/
theorem step_entered (hlogin : isLogin w ev = false) (hV : ∀ n, isValidNick env n = true ↔ V n)
    (hlower : lowerChange env w ev = true) (hdistinct : distinctNick env w ev = true)
    (hinv : w.reg.AnonInv V) (h : w.reg.Entered) (hstep : step env w ev = .ok w') :
    w'.reg.Entered := by
  have hne (n : Bytes) (hn : V n) : n ≠ [] := isValidNick_ne_nil ((hV n).mpr hn)
  rcases step_cases hlogin (fun n => (hV n).mp) hstep with
    ⟨a, e, he, hren⟩ | ⟨c, -, hlive, hreg⟩ | ⟨ls, hchain, hls⟩ | hreg
  · obtain ⟨⟨c, hon⟩, -, hfree, hreg⟩ := hren.reg_eq hinv
    unfold lowerChange at hlower
    rw [he, Option.all_some, Bool.and_eq_true, Bool.and_eq_true, beq_iff_eq, beq_iff_eq] at hlower
    rw [hreg]
    exact h.rename hon hren.new_ne hlower.1.2 hlower.2 hfree
  · rw [hreg]
    exact h.disconnect hinv hlive
  · cases ev with
    | line c line =>
      have hkept : w'.reg.AnonInv V ∧ w'.reg.Entered ∧
          ∀ n ∈ registered env w (.line c line), w'.reg.Unclaimed c n := by
        refine hchain.inv (P := fun l => ∃ k, l = .conn c k ∧ l.KeepsNicks ∧ l.Anonymous V ∧
            ∀ n, k = .registerNew n → n ∈ registered env w (.line c line))
          (I := fun r => r.AnonInv V ∧ r.Entered ∧
            ∀ n ∈ registered env w (.line c line), r.Unclaimed c n)
          (fun l r r' hl hI hs => ?_) (fun l hl => ?_) ⟨hinv, h, fun n hn _ d b hd => ?_⟩
        · obtain ⟨k, rfl, hkeeps, hanon, hreg⟩ := hl
          obtain ⟨hinv, hent, hun⟩ := hI
          obtain ⟨hent', hun'⟩ := hs.entered hne hkeeps hanon hinv hent fun n hk => hun n (hreg n hk)
          exact ⟨hs.anonInv hanon hinv, hent', fun n hn => hun' n (hun n hn)⟩
        · obtain ⟨hlabel, hkeeps, hanon⟩ := hls l hl
          cases l with
          | conn d k =>
            obtain ⟨rfl, hk⟩ := hlabel
            refine ⟨k, rfl, hkeeps, hanon, fun n he => ?_⟩
            subst he
            exact hk.registeringNick
          | connect => cases hlabel
          | disconnect => cases hlabel
        · exact distinctNick_ne hdistinct hn hinv hd
      exact hkept.2.1
    | connect isWebSocket ip =>
      refine (hchain.inv (P := fun l => l = .connect) (I := fun r => r.AnonInv V ∧ r.Entered)
        (fun l r r' hl hI hs => ?_) (fun l hl => ?_) ⟨hinv, h⟩).2
      · subst hl
        cases hs
        exact ⟨hI.1.connect, fun d b hd => hI.2 d b (Reg.online_connect hd).2⟩
      · have hlabel := (hls l hl).1
        cases l with
        | connect => rfl
        | conn => cases hlabel
        | disconnect => cases hlabel
    | deliver c =>
      have hsame : w'.reg = w.reg := hchain.eq_of_not hls fun l hl => by
        cases l <;> cases hl.1
      rw [hsame]
      exact h
    | disconnect c =>
      have hsame : w'.reg = w.reg := hchain.eq_of_not hls fun l hl => by
        cases l with
        | disconnect => exact hl.2.1
        | conn => cases hl.1
        | connect => cases hl.1
      rw [hsame]
      exact h
  · rw [hreg]
    exact h

/-! ## giving a nick back -/

/-- the keys that account `a` is entered under -/
def keysOf (w : World) (a : AccId) : List Bytes :=
  (w.ctx.irc_nicks.toList.filter fun p => p.2 == a).map Prod.fst

theorem mem_keysOf {a : AccId} {k : Bytes} : k ∈ keysOf w a ↔ Ctx.irc_nick_get w k = some a := by
  unfold keysOf Ctx.irc_nick_get
  rw [List.mem_map]
  constructor
  · rintro ⟨⟨k', b⟩, hp, rfl⟩
    obtain ⟨hp, hb⟩ := List.mem_filter.mp hp
    rw [Std.ExtTreeMap.mem_toList_iff_getElem?_eq_some] at hp
    have hb : b = a := eq_of_beq hb
    rw [← hb]
    exact hp
  · intro hk
    exact ⟨(k, a), List.mem_filter.mpr
      ⟨Std.ExtTreeMap.mem_toList_iff_getElem?_eq_some.mpr hk, beq_self_eq_true a⟩, rfl⟩

/-- an account that changes its nick, or goes with its connection, is entered under no other key
than the one that is taken back -/
def takesBack (env : Env) (w : World) (ev : Event) : Bool :=
  ((nickChangeOf env w ev).all fun p =>
    (keysOf w p.1).all fun k => k == p.2.old_nick || k == toLower p.2.new_nick) &&
  match ev with
  | .disconnect c => !(w.conn c).live ||
      (w.conn c).m_account.all fun a => (keysOf w a).all fun k => k == w.nick c
  | _ => true

theorem takesBack_change {a : AccId} {e : QEventNickChange} (h : takesBack env w ev = true)
    (he : nickChangeOf env w ev = some (a, e)) {k : Bytes} (hk : Ctx.irc_nick_get w k = some a) :
    k = e.old_nick ∨ k = toLower e.new_nick := by
  unfold takesBack at h
  rw [he, Option.all_some, Bool.and_eq_true] at h
  have hall := List.all_eq_true.mp h.1 k (mem_keysOf.mpr hk)
  rw [Bool.or_eq_true, beq_iff_eq, beq_iff_eq] at hall
  exact hall

theorem takesBack_disconnect {c : ConnId} {a : AccId} (h : takesBack env w (.disconnect c) = true)
    (hlive : (w.conn c).live = true) (hacc : (w.conn c).m_account = some a) {k : Bytes}
    (hk : Ctx.irc_nick_get w k = some a) : k = w.nick c := by
  unfold takesBack at h
  dsimp only at h
  rw [hlive, hacc, Bool.and_eq_true] at h
  exact eq_of_beq (List.all_eq_true.mp h.2 k (mem_keysOf.mpr hk))

/-- **One event.**  When what is taken back is the only entry, no entry is left behind. -/
theorem step_released (hlogin : isLogin w ev = false) (hV : ∀ n, isValidNick env n = true → V n)
    (hback : takesBack env w ev = true) (hinv : w.reg.AnonInv V) (h : w.reg.Released)
    (hstep : step env w ev = .ok w') : w'.reg.Released := by
  rcases step_cases hlogin hV hstep with
    ⟨a, e, he, hren⟩ | ⟨c, rfl, hlive, hreg⟩ | ⟨ls, hchain, hls⟩ | hreg
  · obtain ⟨-, hmem, -, hreg⟩ := hren.reg_eq hinv
    rw [hreg]
    exact h.rename hmem fun k hk => takesBack_change hback he hk
  · rw [hreg]
    refine h.disconnect hinv hlive fun a hacc k hk => ?_
    rw [← nick_eq_reg]
    exact takesBack_disconnect hback hlive hacc hk
  · have hkept : w'.reg.AnonInv V ∧ w'.reg.Released :=
      hchain.inv (I := fun r => r.AnonInv V ∧ r.Released)
        (fun _ _ _ hl hI hs => ⟨hs.anonInv hl.2 hI.1, hs.released hl.1 hl.2 hI.1 hI.2⟩)
        (fun l hl => (hls l hl).2) ⟨hinv, h⟩
    exact hkept.2
  · rw [hreg]
    exact h

/-- after a nick change only the new entry leads to the account -/
theorem change_released {a : AccId} {e : QEventNickChange} {k : Bytes}
    (hback : takesBack env w ev = true) (hinv : w.reg.AnonInv V)
    (he : nickChangeOf env w ev = some (a, e)) (hstep : step env w ev = .ok w')
    (hk : Ctx.irc_nick_get w' k = some a) : k = toLower e.new_nick := by
  obtain ⟨-, -, -, hreg⟩ := (step_renames he hstep).reg_eq hinv
  have hk : w'.reg.irc_nicks[k]? = some a := hk
  rw [hreg] at hk
  rcases Reg.rename_irc_nicks.mp hk with ⟨hnew, -⟩ | ⟨hne, hold, hk⟩
  · exact hnew
  · exact ((takesBack_change hback he hk).elim hold hne).elim

/-- after an anonymous connection has gone no entry leads to its account -/
theorem disconnect_released {c : ConnId} {a : AccId} {k : Bytes} (hinv : w.reg.AnonInv V)
    (hrel : w'.reg.Released) (hlive : (w.conn c).live = true)
    (hacc : (w.conn c).m_account = some a) (hstep : step env w (.disconnect c) = .ok w') :
    Ctx.irc_nick_get w' k ≠ some a := by
  intro hk
  have hgone : a ∈ w'.reg.accounts := hrel.mem k a hk
  cases hstep
  rw [if_pos hlive, reg_onSocketDisconnected, (hinv.disconnect_eq hlive hacc).1] at hgone
  exact (Reg.mem_erase_accounts.mp hgone).1 rfl

/-! ## whole runs -/

theorem Loaded.anonInv (h : Loaded w) : w.reg.AnonInv V := by
  have hdead {c : ConnId} (hlive : (w.reg.conn c).live = true) : False := by
    have hc : (w.reg.conn c).live = false := h.dead c
    rw [hc] at hlive
    cases hlive
  exact ⟨h.registryInv, fun _ hl _ => (hdead hl).elim, fun _ _ hd => (hdead hd.1).elim,
    fun _ _ hd => (hdead hd.1).elim, fun _ _ _ hd => (hdead hd.1).elim⟩

theorem Loaded.entered (h : Loaded w) : w.reg.Entered := by
  intro c a hd
  have hlive : (w.conn c).live = true := hd.1
  rw [h.dead c] at hlive
  cases hlive

theorem Loaded.released (h : Loaded w) : w.reg.Released := by
  refine ⟨fun k a hk => (h.made a).mpr ((h.nick k a).mp hk).1, fun k k' a hk hk' => ?_⟩
  exact ((h.nick k a).mp hk).2.symm.trans ((h.nick k' a).mp hk').2

/-- **Reaching a nick.**  In every run of registrations, nick changes and disconnections whose new
accounts have nicks that differ after folding from those on line and whose nick changes are to
lower-case nicks, and in every state of it, an account on line is found under the nick that it
displays: PRIVMSG, TAGMSG and METADATA to that nick reach it. -/
theorem nicks_reachable (hloaded : Loaded w)
    (hlogin : AllSteps (step env) (fun w ev => isLogin w ev = false) w evs)
    (hdistinct : AllSteps (step env) (fun w ev => distinctNick env w ev = true) w evs)
    (hlower : AllSteps (step env) (fun w ev => lowerChange env w ev = true) w evs)
    (hrun : run (step env) w evs = .ok w') (hhash : env.isLetter '#' = false)
    (hstar : env.isLetter '*' = false) {c : ConnId} {a : AccId} (hon : w'.reg.Online c a) :
    Ctx.irc_nick_get w' (w'.accNick a) = some a ∧ ∀ d m, w'.reg.Online d m →
      (∀ tags text rest, handlePRIVMSG env d tags (w'.accNick a :: text :: rest) w' =
        Account.message m { messageEvent d tags (w'.accNick a :: text :: rest) text false w' with
          dest := some a } w') ∧
      (∀ tags rest, handleTAGMSG env d tags (w'.accNick a :: rest) w' =
        Account.message m { messageEvent d tags (w'.accNick a :: rest) [] true w' with
          dest := some a } w') ∧
      ∀ event, metadataTargetOf d (w'.accNick a) event w' =
        .ok (some (.account a, { event with dest := some a })) := by
  have hinv : w'.reg.AnonInv (fun n => isValidNick env n = true) ∧ w'.reg.Entered := by
    refine run_inv (I := fun w => w.reg.AnonInv (fun n => isValidNick env n = true) ∧ w.reg.Entered)
      (fun w ev w' hI hC hs => ?_) ⟨hloaded.anonInv, hloaded.entered⟩
      ((hlogin.and hdistinct).and hlower) hrun
    obtain ⟨⟨hlogin, hdistinct⟩, hlower⟩ := hC
    refine ⟨step_anonInv hlogin (fun _ hn => hn) (fun a e he _ => ?_) hI.1 hs,
      step_entered hlogin (fun _ => Iff.rfl) hlower hdistinct hI.1 hI.2 hs⟩
    unfold lowerChange at hlower
    rw [he, Option.all_some, Bool.and_eq_true, Bool.and_eq_true] at hlower
    exact hlower.1.1
  have hget : Ctx.irc_nick_get w' (w'.accNick a) = some a := hinv.2 c a hon
  have hvalid : isValidNick env (w'.accNick a) = true := by
    have hv := hinv.1.valid c a hon
    have hshow : w'.accNick a = (w'.reg.acc a).m_nick := star_of_ne (isValidNick_ne_nil hv)
    rw [hshow]
    exact hv
  have hchan : startsWithHash (w'.accNick a) = false := by
    cases hn : w'.accNick a with
    | nil => rfl
    | cons b rest =>
      rw [hn] at hvalid
      by_contra hb
      obtain rfl : b = 35 := by simpa [startsWithHash] using hb
      have hno := @isValidNick_head env '#' (by decide)
        (by rw [isNickFirst, hhash]; rfl) rest
      exact absurd (hvalid.symm.trans hno) nofun
  have hnotStar : w'.accNick a ≠ ascii "*" := by
    intro he
    rw [he] at hvalid
    have hno := @isValidNick_head env '*' (by decide)
      (by rw [isNickFirst, hstar]; rfl) []
    exact absurd (hvalid.symm.trans hno) nofun
  refine ⟨hget, fun d m hd => ?_⟩
  have hacc : (w'.conn d).m_account = some m := hd.2.2
  have hrelay (msg : QEventMessage) : relay env d (w'.accNick a) msg w' =
      Account.message m { msg with dest := some a } w' := by
    unfold relay
    dsimp only
    rw [hchan, if_neg nofun, hget, hacc]
    rfl
  refine ⟨fun tags text rest => ?_, fun tags rest => ?_, fun event => ?_⟩
  · unfold handlePRIVMSG
    rw [if_neg (by simp)]
    exact hrelay _
  · unfold handleTAGMSG
    rw [if_neg (List.cons_ne_nil _ _)]
    exact hrelay _
  · unfold metadataTargetOf
    rw [hchan, if_neg nofun, hacc]
    show (if w'.accNick a = ascii "*" ∨ w'.accNick a = w'.accNick m then _ else _) = _
    by_cases hself : w'.accNick a = w'.accNick m
    · -- the nick is the sender's own
      have hm : Ctx.irc_nick_get w' (w'.accNick m) = some m := hinv.2 d m hd
      rw [← hself, hget] at hm
      cases hm
      rw [if_pos (Or.inr rfl)]
    · rw [if_neg (not_or.mpr ⟨hnotStar, hself⟩), hget]
      rfl

end

/-- eve and ann register, and eve changes her nick -/
def renamed (nicks : List String) : List Event :=
  registration 0 false "Eve" ++ registration 1 false "ann" ++
    nicks.map fun n => .line 0 (ascii ("NICK " ++ n))

theorem eve_entered : LetsIn Env.ascii 0 "Eve" loadedBob :=
  loadedBob_lets (by decide) (by decide) rfl

theorem ann_entered : LetsIn Env.ascii 1 "ann" (letIn Env.ascii 0 false "Eve" loadedBob) :=
  ⟨⟨letIn_nextConn, letIn_quiet eve_entered.quiet, by decide, by decide⟩, rfl, rfl⟩

set_option maxRecDepth 4000 in
/-- a nick with an upper-case letter is displayed and not found -/
theorem nick_not_found : ∃ w', run (step Env.ascii) loadedBob
      (renamed ["Carl"] ++ [.line 1 (ascii "PRIVMSG Carl :hi")]) = .ok w' ∧
    w'.reg.Online 0 1 ∧ w'.accNick 1 = ascii "Carl" ∧
    Ctx.irc_nick_get w' (w'.accNick 1) = none ∧ w'.out.getLast? =
      some (1, ascii ":irc.local 401 ann Carl :No such nick/channel" ++ crlf) := by
  unfold renamed
  rw [List.append_assoc, run_pair eve_entered ann_entered]
  exact ⟨_, rfl, ⟨rfl, rfl, rfl⟩, rfl, rfl, rfl⟩

set_option maxRecDepth 4000 in
theorem nicks_reachable_carl : ∃ w', run (step Env.ascii) loadedBob (renamed ["carl"]) = .ok w' ∧
    Ctx.irc_nick_get w' (w'.accNick 1) = some 1 := by
  have hlogin : checkSteps (step Env.ascii) (fun w ev => !isLogin w ev) loadedBob
      (renamed ["carl"]) = true := by
    unfold renamed
    rw [check_pair eve_entered ann_entered]
    rfl
  have hdistinct : checkSteps (step Env.ascii) (distinctNick Env.ascii) loadedBob
      (renamed ["carl"]) = true := by
    unfold renamed
    rw [check_pair eve_entered ann_entered]
    rfl
  have hlower : checkSteps (step Env.ascii) (lowerChange Env.ascii) loadedBob
      (renamed ["carl"]) = true := by
    unfold renamed
    rw [check_pair eve_entered ann_entered]
    rfl
  have hend : ∃ w', run (step Env.ascii) loadedBob (renamed ["carl"]) = .ok w' ∧
      w'.reg.Online 0 1 := by
    unfold renamed
    rw [run_pair eve_entered ann_entered]
    exact ⟨_, rfl, rfl, rfl, rfl⟩
  obtain ⟨w', hrun, hon⟩ := hend
  refine ⟨w', hrun, (nicks_reachable loadedBob_loaded ?_ (allSteps_of_check hdistinct)
    (allSteps_of_check hlower) hrun (by decide) (by decide) hon).1⟩
  exact (allSteps_of_check hlogin).mono fun w ev h => by simpa using h

section
variable {env : Env} {w w' : World} {evs : List Event}

/-- **Giving a nick back.**  In every run of registrations, nick changes and disconnections in which
no account changes its nick or goes while it is entered under another key than the nick it gives
back, and in every state of it, every entry leads to a registered account and no account has two;
and then only the new entry of an account that changes its nick leads to it, and none to an account
whose connection goes. -/
theorem nicks_released (hloaded : Loaded w)
    (hlogin : AllSteps (step env) (fun w ev => isLogin w ev = false) w evs)
    (hback : AllSteps (step env) (fun w ev => takesBack env w ev = true) w evs)
    (hrun : run (step env) w evs = .ok w') :
    (∀ k a, Ctx.irc_nick_get w' k = some a → a ∈ w'.ctx.accounts) ∧
      (∀ k k' a, Ctx.irc_nick_get w' k = some a → Ctx.irc_nick_get w' k' = some a → k = k') ∧
      ∀ ev w'', isLogin w' ev = false → takesBack env w' ev = true → step env w' ev = .ok w'' →
        (∀ a e, nickChangeOf env w' ev = some (a, e) →
          ∀ k, Ctx.irc_nick_get w'' k = some a → k = toLower e.new_nick) ∧
        ∀ c a, ev = .disconnect c → (w'.conn c).live = true → (w'.conn c).m_account = some a →
          ∀ k, Ctx.irc_nick_get w'' k ≠ some a := by
  have hinv : w'.reg.AnonInv (fun n => n ≠ []) ∧ w'.reg.Released := by
    refine run_inv (I := fun w => w.reg.AnonInv (fun n => n ≠ []) ∧ w.reg.Released)
      (fun w ev w' hI hC hs => ?_) ⟨hloaded.anonInv, hloaded.released⟩ (hlogin.and hback) hrun
    exact ⟨step_anonInv hC.1 (fun _ => isValidNick_ne_nil) (fun _ _ _ hn => hn) hI.1 hs,
      step_released hC.1 (fun _ => isValidNick_ne_nil) hC.2 hI.1 hI.2 hs⟩
  refine ⟨hinv.2.mem, hinv.2.single, fun ev w'' hlogin hback hs => ⟨fun a e he k hk => ?_,
    fun c a hev hlive hacc k => ?_⟩⟩
  · exact change_released hback hinv.1 he hs hk
  · subst hev
    have hrel := step_released hlogin (fun _ => isValidNick_ne_nil) hback hinv.1 hinv.2 hs
    exact disconnect_released hinv.1 hrel hlive hacc hs

end

set_option maxRecDepth 4000 in
/-- an entry that no nick change takes back outlives its account -/
theorem nick_not_released : ∃ w' w'', run (step Env.ascii) loadedBob (renamed ["Carl", "dave"]) =
      .ok w' ∧ step Env.ascii w' (.disconnect 0) = .ok w'' ∧
    Ctx.irc_nick_get w' (ascii "carl") = some 1 ∧ Ctx.irc_nick_get w' (ascii "dave") = some 1 ∧
    Ctx.irc_nick_get w'' (ascii "carl") = some 1 ∧ w''.ctx.accounts.contains 1 = false := by
  unfold renamed
  rw [run_pair eve_entered ann_entered]
  exact ⟨_, _, rfl, rfl, rfl, rfl, rfl, rfl⟩

set_option maxRecDepth 4000 in
theorem nicks_released_carl : ∃ w' w'', run (step Env.ascii) loadedBob (renamed ["carl"]) = .ok w' ∧
    step Env.ascii w' (.disconnect 0) = .ok w'' ∧ Ctx.irc_nick_get w' (ascii "carl") = some 1 ∧
    1 ∈ w'.ctx.accounts ∧ Ctx.irc_nick_get w'' (ascii "carl") ≠ some 1 := by
  have hlogin : checkSteps (step Env.ascii) (fun w ev => !isLogin w ev) loadedBob
      (renamed ["carl"]) = true := by
    unfold renamed
    rw [check_pair eve_entered ann_entered]
    rfl
  have hback : checkSteps (step Env.ascii) (takesBack Env.ascii) loadedBob
      (renamed ["carl"]) = true := by
    unfold renamed
    rw [check_pair eve_entered ann_entered]
    rfl
  have hend : ∃ w', run (step Env.ascii) loadedBob (renamed ["carl"]) = .ok w' ∧
      Ctx.irc_nick_get w' (ascii "carl") = some 1 ∧ takesBack Env.ascii w' (.disconnect 0) = true ∧
      w'.reg.Online 0 1 := by
    unfold renamed
    rw [run_pair eve_entered ann_entered]
    exact ⟨_, rfl, rfl, rfl, rfl, rfl, rfl⟩
  obtain ⟨w', hrun, hcarl, hlast, hlive, -, hacc⟩ := hend
  have h := nicks_released loadedBob_loaded
    ((allSteps_of_check hlogin).mono fun w ev h => by simpa using h) (allSteps_of_check hback) hrun
  refine ⟨w', _, hrun, rfl, hcarl, h.1 _ _ hcarl, ?_⟩
  exact (h.2.2 (.disconnect 0) _ rfl hlast rfl).2 0 1 rfl hlive hacc (ascii "carl")

end Worker

end Chatripper
