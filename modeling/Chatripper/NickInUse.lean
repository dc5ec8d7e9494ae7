import Mathlib
import Chatripper.NickTracking
import Chatripper.Links
import Chatripper.Irc.Sent

/-!
# A nick that is in use

NICK on a connection with an account looks the nick up before the account is asked, so the entry of
the account itself is in the way too.  Entries are made under the nick as it was typed and are looked
up in lower case.  As long as the nicks that are entered and given back are in lower case, the entries
are those of the registered accounts.

* `SysStep.exact`         one step of the registries keeps their entries exact;
* `nickReply_keeps`       a NICK that is refused changes no nick;
* `nickReply_433_iff`     a NICK is refused with 433 when the registry has an entry for it;
* `nick_in_use_iff`       in every run, 433 is about the others but for the own nick.
-/

namespace Chatripper
open ByteStr Utf8 Outcome

namespace Reg

/-- connection `c` is live and has account `a` -/
def Has (r : Reg) (c : ConnId) (a : AccId) : Prop :=
  (r.conn c).live = true ∧ (r.conn c).m_account = some a

/-- a folded nick is a key of the registry exactly when a registered account has it, and leads to that
account -/
structure Exact (r : Reg) : Prop extends RegistryInv r where
  quiet : r.activeEvents.has .NICK_CHANGE = false
  given : ∀ c, (r.conn c).live = true → (r.conn c).is_ready = false →
    (r.conn c).setup_tasks.has .NICK = false → (r.conn c).m_nick ≠ []
  member : ∀ c a, r.Has c a → a ∈ r.accounts
  alone : ∀ c d a, r.Has c a → r.Has d a → (r.acc a).m_name = [] → c = d
  named : ∀ a, a ∈ r.accounts → (r.acc a).m_nick ≠ []
  entry : ∀ (k : Bytes) (b : AccId), toLower k = k →
    (r.irc_nicks[k]? = some b ↔ b ∈ r.accounts ∧ toLower (r.acc b).m_nick = k)

/-- new accounts have lower-case nicks, changes start from lower-case nicks, and no account is merged -/
def SysLabel.Folding : SysLabel → Prop
  | .conn _ (.registerNew n) => toLower n = n
  | .conn _ (.rename _ _ old _) => toLower old = old
  | .conn _ (.merge _ _) => False
  | .disconnect _ => False
  | _ => True

section
variable {r r' : Reg} {c : ConnId} {a b : AccId}

/-- two accounts do not have one nick -/
theorem Exact.unique (h : Exact r) (ha : a ∈ r.accounts) (hb : b ∈ r.accounts)
    (he : toLower (r.acc a).m_nick = toLower (r.acc b).m_nick) : a = b := by
  have hfind := (h.entry _ a (toLower_idem _)).mpr ⟨ha, rfl⟩
  rw [he, (h.entry _ b (toLower_idem _)).mpr ⟨hb, rfl⟩] at hfind
  exact (Option.some.inj hfind).symm

/-! ## one step -/

theorem Exact.updConn {f : ConnReg → ConnReg} (h : Exact r) (hreg : RegistryInv (r.updConn c f))
    (hlive : (f (r.conn c)).live = (r.conn c).live)
    (hacc : (f (r.conn c)).m_account = (r.conn c).m_account ∨
      ∃ a, (f (r.conn c)).m_account = some a ∧ a ∈ r.accounts ∧ (r.acc a).m_name ≠ [])
    (hgiven : ((r.conn c).is_ready = false → (r.conn c).setup_tasks.has .NICK = false →
        (r.conn c).m_nick ≠ []) → (f (r.conn c)).is_ready = false →
      (f (r.conn c)).setup_tasks.has .NICK = false → (f (r.conn c)).m_nick ≠ []) :
    Exact (r.updConn c f) := by
  have hhas {d : ConnId} {b : AccId} (hd : (r.updConn c f).Has d b) :
      r.Has d b ∨ b ∈ r.accounts ∧ (r.acc b).m_name ≠ [] := by
    unfold Has at hd ⊢
    rw [updConn_conn] at hd
    by_cases hx : d = c
    · rw [if_pos hx, hlive] at hd
      rcases hacc with hsame | ⟨a, ha, hmem, hname⟩
      · rw [hsame] at hd
        exact Or.inl (hx ▸ hd)
      · rw [ha] at hd
        cases hd.2
        exact Or.inr ⟨hmem, hname⟩
    · rw [if_neg hx] at hd
      exact Or.inl hd
  refine ⟨hreg, h.quiet, fun d hl hr ht => ?_, fun d b hd => ?_, fun d e b hd he hname => ?_,
    h.named, h.entry⟩
  · rw [updConn_conn] at hl hr ht ⊢
    by_cases hx : d = c
    · rw [if_pos hx] at hl hr ht ⊢
      rw [hlive] at hl
      exact hgiven (h.given c hl) hr ht
    · rw [if_neg hx] at hl hr ht ⊢
      exact h.given d hl hr ht
  · rcases hhas hd with hd | ⟨hmem, -⟩
    · exact h.member d b hd
    · exact hmem
  · rcases hhas hd with hd | ⟨-, hne⟩
    · rcases hhas he with he | ⟨-, hne⟩
      · exact h.alone d e b hd he hname
      · exact absurd hname hne
    · exact absurd hname hne

theorem Exact.registerNew (h : Exact r) (hlive : (r.conn c).live = true) (hfin : r.Finishing c)
    (hnone : (r.conn c).m_account = none)
    (hfree : r.irc_nicks[toLower (r.conn c).m_nick]? = none)
    (hlower : toLower (r.conn c).m_nick = (r.conn c).m_nick) : Exact (r.registerNew c) := by
  have hnick : (r.conn c).m_nick ≠ [] :=
    h.given c hlive hfin.1 (Flags.not_has_of_empty hfin.2 _)
  have hmem {b : AccId} : b ∈ (r.registerNew c).accounts ↔ b = r.nextAcc ∨ b ∈ r.accounts := by
    show b ∈ r.accounts.insert r.nextAcc ↔ _
    rw [Std.ExtTreeSet.mem_insert, Std.compare_eq_iff_eq]
    exact or_congr_left eq_comm
  have hold {b : AccId} (hb : b ∈ r.accounts) : (r.registerNew c).acc b = r.acc b := by
    rw [registerNew_acc, if_neg (Nat.ne_of_lt (h.made_lt b hb))]
  have hnew : ((r.registerNew c).acc r.nextAcc).m_nick = (r.conn c).m_nick := by
    rw [registerNew_acc, if_pos rfl]
  have hhas {d : ConnId} {b : AccId} (hd : (r.registerNew c).Has d b) :
      (d = c ∧ b = r.nextAcc) ∨ r.Has d b := by
    unfold Has at hd ⊢
    rw [registerNew_conn] at hd
    by_cases hx : d = c
    · rw [if_pos hx] at hd
      exact Or.inl ⟨hx, (Option.some.inj hd.2).symm⟩
    · rw [if_neg hx] at hd
      exact Or.inr hd
  have hgone {d : ConnId} (hd : r.Has d r.nextAcc) : False :=
    Nat.lt_irrefl _ (h.made_lt _ (h.member d _ hd))
  refine ⟨h.toRegistryInv.registerNew hlive hnone, h.quiet, fun d hl hr ht => ?_, fun d b hd => ?_,
    fun d e b hd he hname => ?_, fun b hb => ?_, fun k b hk => ?_⟩
  · rw [registerNew_conn] at hl hr ht ⊢
    by_cases hx : d = c
    · rw [if_pos hx] at hr
      cases hr
    · rw [if_neg hx] at hl hr ht ⊢
      exact h.given d hl hr ht
  · rcases hhas hd with ⟨-, rfl⟩ | hd
    · exact hmem.mpr (Or.inl rfl)
    · exact hmem.mpr (Or.inr (h.member d b hd))
  · rcases hhas hd with ⟨rfl, rfl⟩ | hd
    · rcases hhas he with ⟨rfl, -⟩ | he
      · rfl
      · exact (hgone he).elim
    · rcases hhas he with ⟨-, rfl⟩ | he
      · exact (hgone hd).elim
      · rw [hold (h.member d b hd)] at hname
        exact h.alone d e b hd he hname
  · rcases hmem.mp hb with rfl | hb
    · rw [hnew]
      exact hnick
    · rw [hold hb]
      exact h.named b hb
  · rw [registerNew_irc_nicks, lookup_insert, star_of_ne hnick, hmem]
    by_cases hx : k = (r.conn c).m_nick
    · -- the new entry
      rw [if_pos hx]
      refine ⟨fun he => ?_, ?_⟩
      · obtain rfl := Option.some.inj he
        rw [hnew, hx]
        exact ⟨Or.inl rfl, hlower⟩
      · rintro ⟨rfl | hb, he⟩
        · rfl
        · rw [hold hb] at he
          have hsome := (h.entry k b hk).mpr ⟨hb, he⟩
          rw [hx, ← hlower, hfree] at hsome
          cases hsome
    · rw [if_neg hx, h.entry k b hk]
      refine ⟨fun ⟨hb, he⟩ => ⟨Or.inr hb, (hold hb).symm ▸ he⟩, ?_⟩
      rintro ⟨rfl | hb, he⟩
      · rw [hnew, hlower] at he
        exact absurd he.symm hx
      · rw [hold hb] at he
        exact ⟨hb, he⟩

/-- a connection that has logged in finishes its setup: its account has the entry already, or the new
one is under a key that nobody looks up -/
theorem Exact.registerOld (h : Exact r) (hlive : (r.conn c).live = true)
    (hacc : (r.conn c).m_account = some a) : Exact (r.registerOld c a) := by
  have hmem : a ∈ r.accounts := h.member c a ⟨hlive, hacc⟩
  have hkept (b : AccId) : ((r.registerOld c a).acc b).m_nick = (r.acc b).m_nick ∧
      ((r.registerOld c a).acc b).m_name = (r.acc b).m_name := by
    rw [registerOld_acc]
    by_cases hb : b = a
    · rw [if_pos hb, hb]
      exact ⟨rfl, rfl⟩
    · rw [if_neg hb]
      exact ⟨rfl, rfl⟩
  have hhas {d : ConnId} {b : AccId} (hd : (r.registerOld c a).Has d b) : r.Has d b := by
    unfold Has at hd ⊢
    rw [registerOld_conn] at hd
    by_cases hx : d = c
    · rw [if_pos hx] at hd
      cases hd.2
      rw [hx]
      exact ⟨hd.1, hacc⟩
    · rw [if_neg hx] at hd
      exact hd
  refine ⟨h.toRegistryInv.registerOld hacc, h.quiet, fun d hl hr ht => ?_,
    fun d b hd => h.member d b (hhas hd), fun d e b hd he hname => ?_, fun b hb => ?_,
    fun k b hk => ?_⟩
  · rw [registerOld_conn] at hl hr ht ⊢
    by_cases hx : d = c
    · rw [if_pos hx] at hr
      cases hr
    · rw [if_neg hx] at hl hr ht ⊢
      exact h.given d hl hr ht
  · rw [(hkept b).2] at hname
    exact h.alone d e b (hhas hd) (hhas he) hname
  · rw [(hkept b).1]
    exact h.named b hb
  · show (r.irc_nicks.insert (star (r.acc a).m_nick) a)[k]? = some b ↔ b ∈ r.accounts ∧ _
    rw [(hkept b).1, ← h.entry k b hk, lookup_insert, star_of_ne (h.named a hmem)]
    by_cases hx : k = (r.acc a).m_nick
    · rw [if_pos hx, (h.entry k a hk).mpr ⟨hmem, by rw [← hx, hk]⟩]
    · rw [if_neg hx]

theorem Exact.rename {old new : Bytes} (h : Exact r) (ha : a ∈ r.accounts) (hnew : new ≠ [])
    (hfree : r.irc_nicks[toLower new]? = none ∨ r.irc_nicks[toLower new]? = some a)
    (hold : old = (r.acc a).m_nick) (hlower : toLower old = old) :
    Exact (r.rename a a old new) := by
  have hself : ((r.rename a a old new).acc a).m_nick = new := by
    rw [rename_acc, if_pos rfl]
  have hother {b : AccId} (hb : b ≠ a) : (r.rename a a old new).acc b = r.acc b := by
    rw [rename_acc, if_neg hb]
  have hname (b : AccId) : ((r.rename a a old new).acc b).m_name = (r.acc b).m_name := by
    by_cases hb : b = a
    · rw [hb, rename_acc, if_pos rfl]
    · rw [hother hb]
  have hown : toLower (r.acc a).m_nick = old := by rw [← hold, hlower]
  refine ⟨h.toRegistryInv.rename, h.quiet, h.given, h.member, fun d e b hd he hn => ?_,
    fun b hb => ?_, fun k b hk => ?_⟩
  · rw [hname] at hn
    exact h.alone d e b hd he hn
  · by_cases hx : b = a
    · rw [hx, hself]
      exact hnew
    · rw [hother hx]
      exact h.named b hb
  · rw [rename_irc_nicks]
    show _ ↔ b ∈ r.accounts ∧ _
    by_cases hx : b = a
    · subst hx
      rw [hself]
      refine ⟨?_, fun ⟨_, he⟩ => Or.inl ⟨he.symm, rfl⟩⟩
      rintro (⟨he, -⟩ | ⟨-, hne, hsome⟩)
      · exact ⟨ha, he.symm⟩
      · -- the old entry is the one that was taken back
        have he := ((h.entry k b hk).mp hsome).2
        exact absurd (he.symm.trans hown) hne
    · rw [hother hx, ← h.entry k b hk]
      constructor
      · rintro (⟨-, he⟩ | ⟨-, -, hsome⟩)
        · exact absurd he.symm hx
        · exact hsome
      · intro hsome
        refine Or.inr ⟨?_, ?_, hsome⟩
        · rintro rfl
          rcases hfree with hf | hf
          · rw [hf] at hsome
            cases hsome
          · rw [hf] at hsome
            exact hx (Option.some.inj hsome).symm
        · rintro rfl
          rw [(h.entry k a hk).mpr ⟨ha, hown⟩] at hsome
          exact hx (Option.some.inj hsome).symm

theorem Exact.connect (h : Exact r) : Exact r.connect := by
  have hconn (d : ConnId) : r.connect.conn d =
      if d = r.nextConn then { ({} : Conn).reg with live := true } else r.conn d := rfl
  have hhas {d : ConnId} {b : AccId} (hd : r.connect.Has d b) : r.Has d b := by
    unfold Has at hd ⊢
    rw [hconn] at hd
    by_cases hx : d = r.nextConn
    · rw [if_pos hx] at hd
      cases hd.2
    · rw [if_neg hx] at hd
      exact hd
  refine ⟨h.toRegistryInv.connect, h.quiet, fun d hl hr ht => ?_, fun d b hd => h.member d b (hhas hd),
    fun d e b hd he => h.alone d e b (hhas hd) (hhas he), h.named, h.entry⟩
  rw [hconn] at hl hr ht ⊢
  by_cases hx : d = r.nextConn
  · rw [if_pos hx] at ht
    exact absurd ht (by decide)
  · rw [if_neg hx] at hl hr ht ⊢
    exact h.given d hl hr ht

/-- a connection goes; when its account is anonymous and its nick in lower case, the entry goes too -/
theorem Exact.disconnect (h : Exact r) (hlive : (r.conn c).live = true)
    (hlower : ∀ a, (r.conn c).m_account = some a → (r.acc a).m_name = [] →
      toLower (r.acc a).m_nick = (r.acc a).m_nick) : Exact (r.disconnect c) := by
  have hkept (b : AccId) : ((r.disconnect c).acc b).m_nick = (r.acc b).m_nick ∧
      ((r.disconnect c).acc b).m_name = (r.acc b).m_name := by
    rw [disconnect_acc]
    split <;> exact ⟨rfl, rfl⟩
  have hhas {d : ConnId} {b : AccId} (hd : (r.disconnect c).Has d b) : d ≠ c ∧ r.Has d b := by
    unfold Has at hd ⊢
    rw [disconnect_conn] at hd
    by_cases hx : d = c
    · rw [if_pos hx] at hd
      cases hd.1
    · rw [if_neg hx] at hd
      exact ⟨hx, hd⟩
  -- what happens to the registries
  have hcases : ((r.disconnect c).accounts = r.accounts ∧ (r.disconnect c).irc_nicks = r.irc_nicks) ∨
      ∃ a, r.Has c a ∧ (r.acc a).m_name = [] ∧ (r.disconnect c).accounts = r.accounts.erase a ∧
        (r.disconnect c).irc_nicks = r.irc_nicks.erase (r.acc a).m_nick := by
    cases hacc : (r.conn c).m_account with
    | none =>
      rw [disconnect_none hacc]
      exact Or.inl ⟨rfl, rfl⟩
    | some a =>
      have hmem := h.member c a ⟨hlive, hacc⟩
      have hnick : r.nick c = (r.acc a).m_nick := by
        unfold nick
        rw [hacc]
        exact star_of_ne (h.named a hmem)
      rw [disconnect_some hacc, h.toRegistry.leaveAccount_eq (h.made c a hacc), hnick]
      dsimp only
      by_cases hname : (r.acc a).m_name = []
      · rw [if_pos hname, if_pos hmem]
        exact Or.inr ⟨a, ⟨hlive, hacc⟩, hname, rfl, rfl⟩
      · rw [if_neg hname]
        exact Or.inl ⟨rfl, rfl⟩
  have hsub {b : AccId} (hb : b ∈ (r.disconnect c).accounts) : b ∈ r.accounts := by
    rcases hcases with ⟨hsame, -⟩ | ⟨a, -, -, herase, -⟩
    · rw [← hsame]
      exact hb
    · rw [herase] at hb
      exact (mem_erase_accounts.mp hb).2
  refine ⟨h.toRegistryInv.disconnect hlive, ?_, fun d hl hr ht => ?_, fun d b hd => ?_,
    fun d e b hd he hname => ?_, fun b hb => ?_, fun k b hk => ?_⟩
  · rw [(disconnect_next r c).2.2.2]
    exact h.quiet
  · rw [disconnect_conn] at hl hr ht ⊢
    by_cases hx : d = c
    · rw [if_pos hx] at hl
      cases hl
    · rw [if_neg hx] at hl hr ht ⊢
      exact h.given d hl hr ht
  · obtain ⟨hne, hd⟩ := hhas hd
    have hb := h.member d b hd
    rcases hcases with ⟨hsame, -⟩ | ⟨a, hc, hname, herase, -⟩
    · rw [hsame]
      exact hb
    · rw [herase]
      refine mem_erase_accounts.mpr ⟨?_, hb⟩
      rintro rfl
      exact hne (h.alone d c b hd hc hname)
  · rw [(hkept b).2] at hname
    exact h.alone d e b (hhas hd).2 (hhas he).2 hname
  · rw [(hkept b).1]
    exact h.named b (hsub hb)
  · rw [(hkept b).1]
    rcases hcases with ⟨hsame, hnicks⟩ | ⟨a, hc, hname, herase, hnicks⟩
    · rw [hsame, hnicks]
      exact h.entry k b hk
    · have hown := hlower a hc.2 hname
      have hmem := h.member c a hc
      rw [herase, hnicks, mem_erase_accounts, lookup_erase]
      by_cases hx : k = (r.acc a).m_nick
      · rw [if_pos hx]
        refine ⟨nofun, fun ⟨⟨hne, hb⟩, he⟩ => absurd (h.unique hb hmem ?_) hne⟩
        rw [he, hown, hx]
      · rw [if_neg hx, h.entry k b hk]
        refine ⟨fun ⟨hb, he⟩ => ⟨⟨?_, hb⟩, he⟩, fun ⟨⟨_, hb⟩, he⟩ => ⟨hb, he⟩⟩
        rintro rfl
        exact hx (he.symm.trans hown)

/-- **One step.** -/
theorem SysStep.exact {l : SysLabel} (hl : l.Folding) (h : Exact r) (hstep : SysStep l r r') :
    Exact r' := by
  have hreg : RegistryInv r' := hstep.registryInv h.toRegistryInv
  cases hstep with
  | connect => exact h.connect
  | disconnect => exact hl.elim
  | @conn c _ _ _ hlive hstep =>
    cases hstep with
    | giveNick hn => exact h.updConn hreg rfl (Or.inl rfl) fun _ _ _ => hn
    | clear ht =>
      refine h.updConn hreg rfl (Or.inl rfl) fun hold hr hgone => hold hr ?_
      rw [Flags.has_clear] at hgone
      simpa [Ne.symm ht] using hgone
    | refuse => exact ⟨hreg, h.quiet, h.given, h.member, h.alone, h.named, h.entry⟩
    | registerNew hfin hacc hfree => exact h.registerNew hlive hfin hacc hfree hl
    | registerOld _ hacc => exact h.registerOld hlive hacc
    | @rename a self old new _ hacc hself hnew hfree hold =>
      have hmem := h.member c a ⟨hlive, hacc⟩
      obtain rfl := h.toRegistry.self_eq (h.made c a hacc) hself
      refine h.rename hmem hnew hfree ?_ hl
      rw [hold h.quiet]
      exact star_of_ne (h.named self hmem)
    | @login a u _ hacc hname =>
      obtain ⟨hmem, hu, hne⟩ := (h.name u a).mp hname
      refine h.updConn hreg rfl (Or.inr ⟨a, ?_, hmem, hu ▸ hne⟩) fun hold => hold
      show some ((r.conn c).m_account.getD a) = some a
      rw [hacc]
      rfl
    | @relogin a b _ hacc =>
      refine h.updConn hreg rfl (Or.inl ?_) fun hold => hold
      show some ((r.conn c).m_account.getD a) = _
      rw [hacc]
      rfl
    | merge => exact hl.elim

end

end Reg

namespace client_connection
open World

/-! ## the answers to NICK -/

/-- the NICK is answered with the numeric, and with nothing else -/
def NickReply (env : Env) (c : ConnId) (args : List Bytes) (code : Nat) (w w' : World) : Prop :=
  handleNICK env c args w = .ok w' ∧ ∃ text, w'.out = (reply_num env c code text w).out

/-- the numerics that refuse a nick -/
def nickErrors : List Nat := [431, 432, 433]

section
variable {env : Env} {c : ConnId} {w w' : World} {a : AccId} {n : Bytes} {rest : List Bytes}

/-- a reply tells its numeric -/
theorem numeric_of_reply {w1 : World} {code code' : Nat} {text text' : Bytes}
    (hout : w1.out = w.out)
    (h : (reply_num env c code text w1).out = (reply_num env c code' text' w).out) :
    (rightJustified 3 48 (number code)).take 3 = (rightJustified 3 48 (number code')).take 3 := by
  have hlen (k : Nat) : 3 ≤ (rightJustified 3 48 (number k)).length := by
    unfold rightJustified
    rw [List.length_append, List.length_replicate]
    omega
  unfold reply_num send_raw emit at h
  dsimp only at h
  rw [hout] at h
  have hline := congrArg Prod.snd (List.cons.inj (List.append_cancel_left h)).1
  simp only [List.append_assoc, List.append_cancel_left_eq] at hline
  have htake := congrArg (List.take 3) hline
  rwa [List.take_append_of_le_length (hlen _), List.take_append_of_le_length (hlen _)] at htake

theorem not_reply_of_same {code : Nat} {text : Bytes} (hout : w'.out = w.out) :
    w'.out ≠ (reply_num env c code text w).out := by
  intro h
  have hlen := congrArg List.length h
  rw [hout, length_reply_num] at hlen
  omega

/-- a setup on an account never says that a nick is in use -/
theorem setupRefused_account {reply : World → World} (hacc : (w.conn c).m_account ≠ none)
    (h : setupRefused env c w = some reply) :
    reply = reply_num env c 464 (ascii "Password incorrect") := by
  unfold setupRefused at h
  dsimp only at h
  split at h
  · exact (Option.some.inj h).symm
  · rw [if_neg fun hx => hacc hx.1] at h
    cases h

/-- finishing the setup on an account refuses no nick -/
theorem try_finalize_no_nickError {w1 : World} {code : Nat} {text : Bytes}
    (hcode : code ∈ nickErrors) (hout : w1.out = w.out) (hacc : (w1.conn c).m_account ≠ none)
    (h : try_finalize_setup env c w1 = .ok w') : w'.out ≠ (reply_num env c code text w).out := by
  unfold try_finalize_setup at h
  dsimp only at h
  split at h
  · cases h
    exact not_reply_of_same hout
  · split at h
    · next reply hrefused =>
      cases h
      rw [setupRefused_account hacc hrefused]
      intro he
      have hlog : (w1.log (.finalize c)).out = w.out := hout
      have hnum := numeric_of_reply hlog he
      unfold nickErrors at hcode
      simp only [List.mem_cons, List.not_mem_nil, or_false] at hcode
      rcases hcode with rfl | rfl | rfl
      · exact absurd hnum (by decide)
      · exact absurd hnum (by decide)
      · exact absurd hnum (by decide)
    · obtain ⟨w2, hgreet, hready⟩ := bind_eq_ok.mp h
      cases hready
      have hgrow := greeted_grows.of_ok hgreet
      intro he
      have hlen := congrArg List.length he
      rw [length_reply_num] at hlen
      change w2.out.length = _ at hlen
      rw [← hout] at hlen
      have hlog : (w1.log (.finalize c)).out = w1.out := rfl
      rw [hlog] at hgrow
      omega

/-- without handlers a change of nick sends nothing when it is made, and does nothing when it is not -/
theorem setNick_quiet {ev : QEventNickChange} {r : Bool × World} (hpy : w.NoHandlers)
    (h : Account.setNick a ev w = .ok r) :
    (r.1 = true ∧ r.2.out = w.out) ∨ (r = (false, w) ∧ Account.renameInRegistry a ev w = none) := by
  have hconsult : w.consult .NICK_CHANGE (·.cancel) ev = (some ev, w) := by
    unfold consult
    rw [hpy]
    rfl
  unfold Account.setNick at h
  rw [hconsult] at h
  dsimp only at h
  cases hren : Account.renameInRegistry a ev w with
  | none =>
    rw [hren] at h
    exact Or.inr ⟨(Except.ok.inj h).symm, rfl⟩
  | some p =>
    obtain ⟨self, w2⟩ := p
    rw [hren] at h
    obtain ⟨l, -, h⟩ := bind_eq_ok.mp h
    cases h
    refine Or.inl ⟨rfl, ?_⟩
    obtain ⟨-, -, nicks, rfl⟩ := renameInRegistry_world hren
    rw [postAll_eq]
    rfl

/-- a nick that is in the registry -/
theorem handleNICK_used (hacc : (w.conn c).m_account = some a) (hvalid : isValidNick env n = true)
    (hused : Ctx.irc_nick_get w (toLower n) ≠ none) :
    handleNICK env c (n :: rest) w = .ok (reply_num env c 433 n w) := by
  unfold handleNICK
  rw [if_neg (List.cons_ne_nil _ _)]
  show (if !isValidNick env n then _ else _) = _
  rw [hvalid, Bool.not_true, if_neg Bool.false_ne_true, if_pos ⟨by rw [hacc]; nofun, hused⟩]

/-- a nick that is not in the registry: a refusal is all that happens, or no refusal is sent -/
theorem handleNICK_free (hpy : w.NoHandlers) (hacc : (w.conn c).m_account = some a)
    (hvalid : isValidNick env n = true) (hfree : Ctx.irc_nick_get w (toLower n) = none)
    (hok : handleNICK env c (n :: rest) w = .ok w') :
    (∃ code text, w' = reply_num env c code text w ∧ (code = 431 ∨ code = 432 ∨
        code = 433 ∧ Account.get_by_uid w (w.acc a).m_uid = none)) ∨
      ∀ code ∈ nickErrors, ∀ text, w'.out ≠ (reply_num env c code text w).out := by
  unfold handleNICK at hok
  rw [if_neg (List.cons_ne_nil _ _)] at hok
  change (if !isValidNick env n then _ else _) = _ at hok
  rw [hvalid, Bool.not_true, if_neg Bool.false_ne_true, if_neg fun hx => hx.2 hfree] at hok
  split at hok
  · -- the nick of the setup
    obtain ⟨w1, hset, hfinish⟩ := bind_eq_ok.mp hok
    unfold setNick at hset
    split at hset
    · cases hset
    · cases hset
      have hgiven : ((giveNick c n w).conn c).m_account ≠ none := by
        unfold giveNick clearTask
        rw [updConn_updConn, updConn_conn, if_pos rfl]
        show (w.conn c).m_account ≠ none
        rw [hacc]
        nofun
      have hout : (giveNick c n w).out = w.out := rfl
      exact Or.inr fun code hcode text => try_finalize_no_nickError hcode hout hgiven hfinish
  · split at hok
    · cases hok
      exact Or.inl ⟨432, _, rfl, Or.inr (Or.inl rfl)⟩
    · -- the nick of the account
      unfold changeOwnNick at hok
      dsimp only at hok
      split at hok
      · cases hok
        exact Or.inl ⟨431, _, rfl, Or.inl rfl⟩
      · rw [hacc] at hok
        obtain ⟨m, hm, hok⟩ := bind_eq_ok.mp hok
        cases hm
        obtain ⟨r, hr, hok⟩ := bind_eq_ok.mp hok
        rcases setNick_quiet hpy hr with ⟨htrue, hout⟩ | ⟨rfl, hren⟩
        · rw [htrue, if_pos rfl] at hok
          cases hok
          exact Or.inr fun _ _ _ => not_reply_of_same hout
        · cases hok
          refine Or.inl ⟨433, n, rfl, Or.inr (Or.inr ⟨rfl, ?_⟩)⟩
          unfold Account.renameInRegistry at hren
          rw [if_neg (isValidNick_ne_nil hvalid)] at hren
          split at hren
          · next hself => exact hself
          · dsimp only at hren
            rw [if_neg fun hx => hx.1 hfree] at hren
            cases hren

/-- **A refusal changes nothing.** -/
theorem nickReply_keeps {code : Nat} (hpy : w.NoHandlers) (hacc : (w.conn c).m_account = some a)
    (hvalid : isValidNick env n = true) (hcode : code ∈ nickErrors)
    (h : NickReply env c (n :: rest) code w w') :
    w'.ctx.irc_nicks = w.ctx.irc_nicks ∧ ∀ b, (w'.acc b).m_nick = (w.acc b).m_nick := by
  obtain ⟨hok, text, hout⟩ := h
  by_cases hfree : Ctx.irc_nick_get w (toLower n) = none
  · rcases handleNICK_free hpy hacc hvalid hfree hok with ⟨code', text', rfl, -⟩ | hnot
    · exact ⟨rfl, fun _ => rfl⟩
    · exact absurd hout (hnot code hcode text)
  · rw [handleNICK_used hacc hvalid hfree] at hok
    cases hok
    exact ⟨rfl, fun _ => rfl⟩

/-- **433 is about the registry**, as long as the account is in it. -/
theorem nickReply_433_iff (hpy : w.NoHandlers) (hacc : (w.conn c).m_account = some a)
    (hvalid : isValidNick env n = true) (hself : Account.get_by_uid w (w.acc a).m_uid = some a) :
    (∃ w', NickReply env c (n :: rest) 433 w w') ↔ Ctx.irc_nick_get w (toLower n) ≠ none := by
  constructor
  · rintro ⟨w', hok, text, hout⟩ hfree
    rcases handleNICK_free hpy hacc hvalid hfree hok with ⟨code, text', rfl, hcode⟩ | hnot
    · have hnum := numeric_of_reply rfl hout
      rcases hcode with rfl | rfl | ⟨-, hnone⟩
      · exact absurd hnum (by decide)
      · exact absurd hnum (by decide)
      · rw [hself] at hnone
        cases hnone
    · exact hnot 433 (by decide) text hout
  · intro hused
    exact ⟨_, handleNICK_used hacc hvalid hused, n, rfl⟩

end

end client_connection

/-! ## runs of the server -/

namespace Worker
open World client_connection

/-- a new account has a lower-case nick, the nick that is changed or goes with its account is in lower
case, and no account is merged -/
def keepsFolded (env : Env) (w : World) (ev : Event) : Bool :=
  ((registered env w ev).all fun n => toLower n == n) &&
  ((nickChangeOf env w ev).all fun p => toLower p.2.old_nick == p.2.old_nick) &&
  match ev with
  | .line c line => !mergesLogin env w (.line c line)
  | .disconnect c => !(w.conn c).live || (w.conn c).m_account.all fun a =>
      (w.acc a).m_name != [] || toLower (w.acc a).m_nick == (w.acc a).m_nick
  | _ => true

/-- the accounts that are loaded have lower-case nicks -/
def LoadedFolded (w : World) : Prop :=
  ∀ a, a < w.nextAcc → (w.acc a).m_nick ≠ [] ∧ toLower (w.acc a).m_nick = (w.acc a).m_nick

section
variable {env : Env} {w w' : World} {evs : List Event} {ev : Event}

theorem EventLabel.folding {l : Reg.SysLabel} (hC : keepsFolded env w ev = true)
    (hlive : ∀ c line, ev = .line c line → (w.conn c).live = true) (hdis : ∀ c, ev ≠ .disconnect c)
    (h : EventLabel env w ev l) : l.Folding := by
  unfold keepsFolded at hC
  rw [Bool.and_eq_true, Bool.and_eq_true] at hC
  obtain ⟨⟨hnew, hchange⟩, hev⟩ := hC
  cases l with
  | connect => trivial
  | disconnect d =>
    cases ev with
    | disconnect c => exact absurd rfl (hdis c)
    | connect => cases h
    | deliver => cases h
    | line => cases h
  | conn d k =>
    cases ev with
    | connect => cases h
    | deliver => cases h
    | disconnect => cases h
    | line c line =>
      obtain ⟨rfl, h⟩ := h
      cases k with
      | registerNew n =>
        have hreg : registered env w (.line d line) = some n := h.registeringNick
        rw [hreg] at hnew
        exact eq_of_beq hnew
      | rename a self old new =>
        obtain ⟨cmd, args, hcmd, h⟩ := h
        cases cmd with
        | NICK =>
          obtain ⟨e, he, rfl, -⟩ := h
          have hof : nickChangeOf env w (.line d line) = some (a, e) := by
            unfold nickChangeOf lineNickChange
            dsimp only
            rw [if_pos (hlive d line rfl), hcmd]
            exact he
          rw [hof] at hchange
          exact eq_of_beq hchange
        | USER => cases h.2
        | CAP => cases h.2
        | AUTHENTICATE => cases h
        | _ => cases h
      | merge a b =>
        have hm : mergesLogin env w (.line d line) = false := by simpa using hev
        exact EventLabel.unmerged hlive hm
          (show EventLabel env w _ (.conn d (.merge a b)) from ⟨rfl, h⟩)
      | _ => trivial

/-- **One event.** -/
theorem step_exact (hC : keepsFolded env w ev = true) (h : w.reg.Exact)
    (hstep : step env w ev = .ok w') : w'.reg.Exact := by
  by_cases hdead : ∃ c line, ev = .line c line ∧ (w.conn c).live ≠ true
  · obtain ⟨c, line, rfl, hlive⟩ := hdead
    have hstep : (if (w.conn c).live then parseIncoming env c line w else .ok w) = .ok w' := hstep
    rw [if_neg hlive] at hstep
    cases hstep
    exact h
  · push Not at hdead
    by_cases hdis : ∃ c, ev = .disconnect c
    · obtain ⟨c, rfl⟩ := hdis
      cases hstep
      by_cases hlive : (w.conn c).live = true
      · rw [if_pos hlive, reg_onSocketDisconnected]
        refine h.disconnect hlive fun a hacc hname => ?_
        have hacc : (w.conn c).m_account = some a := hacc
        have hname : (w.acc a).m_name = [] := hname
        unfold keepsFolded at hC
        dsimp only at hC
        rw [hlive, hacc, Option.all_some, hname, Bool.and_eq_true] at hC
        exact eq_of_beq hC.2
      · rw [if_neg hlive]
        exact h
    · push Not at hdis
      obtain ⟨ls, hchain, hls⟩ := step_chain hstep
      exact hchain.inv (fun _ _ _ hl hI hs => hs.exact hl hI)
        (fun l hl => (hls l hl).folding hC hdead hdis) h

theorem Loaded.exact (h : Loaded w) (hpy : w.NoHandlers) (hfolded : LoadedFolded w) :
    w.reg.Exact := by
  have hdead {c : ConnId} (hlive : (w.reg.conn c).live = true) : False := by
    have hc : (w.reg.conn c).live = false := h.dead c
    rw [hc] at hlive
    cases hlive
  refine ⟨h.registryInv, hpy .NICK_CHANGE, fun _ hl _ _ => (hdead hl).elim,
    fun _ _ hd => (hdead hd.1).elim, fun _ _ _ hd => (hdead hd.1).elim,
    fun a ha => (hfolded a ((h.made a).mp ha)).1, fun k b _ => (h.nick k b).trans ?_⟩
  refine ⟨fun ⟨hb, he⟩ => ⟨(h.made b).mpr hb, ?_⟩, fun ⟨hb, he⟩ => ⟨(h.made b).mp hb, ?_⟩⟩
  · show toLower (w.acc b).m_nick = k
    rw [(hfolded b hb).2, he]
  · have he : toLower (w.acc b).m_nick = k := he
    rw [← he, (hfolded b ((h.made b).mp hb)).2]

/-- **Nick in use.**  In every run without Python handlers and in every state `w'` of it, a valid nick
that is refused with 431, 432 or 433 leaves the registry and all nicks as they are.  When new accounts
have lower-case nicks, no account is merged, and a nick that is given back is in lower case, then 433
says that somebody else has the nick, if and only if it is not the own one in other letters. -/
theorem nick_in_use_iff (hloaded : Loaded w) (hpy : w.NoHandlers) (hrun : run (step env) w evs = .ok w')
    {c : ConnId} {a : AccId} {n : Bytes} {rest : List Bytes} (hlive : (w'.conn c).live = true)
    (hacc : (w'.conn c).m_account = some a) (hvalid : isValidNick env n = true) :
    (∀ code ∈ nickErrors, ∀ w'', NickReply env c (n :: rest) code w' w'' →
      w''.ctx.irc_nicks = w'.ctx.irc_nicks ∧ ∀ b, (w''.acc b).m_nick = (w'.acc b).m_nick) ∧
    (LoadedFolded w → AllSteps (step env) (fun w ev => keepsFolded env w ev = true) w evs →
      (((∃ w'', NickReply env c (n :: rest) 433 w' w'') ↔
          ∃ b, b ∈ w'.ctx.accounts ∧ b ≠ a ∧ toLower (w'.acc b).m_nick = toLower n) ↔
        toLower n ≠ toLower (w'.acc a).m_nick)) := by
  have hpy' : w'.NoHandlers := by
    refine run_inv (I := World.NoHandlers) (C := fun _ _ => True) (fun _ _ _ hI _ hs => ?_) hpy
      (allSteps_true w evs) hrun
    exact step_noHandlers hI hs
  refine ⟨fun code hcode w'' h => nickReply_keeps hpy' hacc hvalid hcode h, fun hfolded hsteps => ?_⟩
  have hinv : w'.reg.Exact :=
    run_inv (I := fun w => w.reg.Exact) (fun _ _ _ hI hC hs => step_exact hC hI hs)
      (hloaded.exact hpy hfolded) hsteps hrun
  have hmem : a ∈ w'.ctx.accounts := hinv.member c a ⟨hlive, hacc⟩
  have hentry (b : AccId) : Ctx.irc_nick_get w' (toLower n) = some b ↔
      b ∈ w'.ctx.accounts ∧ toLower (w'.acc b).m_nick = toLower n :=
    hinv.entry (toLower n) b (toLower_idem n)
  have hself : Account.get_by_uid w' (w'.acc a).m_uid = some a := hinv.toRegistry.mem_iff.mp hmem
  rw [nickReply_433_iff hpy' hacc hvalid hself]
  constructor
  · -- the own entry is in the way, and nobody else has the nick
    intro hiff hown
    have hsome := (hentry a).mpr ⟨hmem, hown.symm⟩
    obtain ⟨b, hb, hne, he⟩ := hiff.mp (by rw [hsome]; nofun)
    rw [(hentry b).mpr ⟨hb, he⟩] at hsome
    exact hne (Option.some.inj hsome)
  · intro hother
    rw [Option.ne_none_iff_exists']
    refine exists_congr fun b => (hentry b).trans ?_
    refine ⟨fun ⟨hb, he⟩ => ⟨hb, ?_, he⟩, fun ⟨hb, _, he⟩ => ⟨hb, he⟩⟩
    rintro rfl
    exact hother he.symm

end

set_option maxRecDepth 4000 in
/-- ann, who is alone, may not write her nick in capitals -/
theorem own_nick_in_use : ∃ w w',
    run (step Env.ascii) World.empty (registration 0 false "ann") = .ok w ∧
    (w.conn 0).live = true ∧ (w.conn 0).m_account = some 0 ∧
    isValidNick Env.ascii (ascii "ANN") = true ∧ NickReply Env.ascii 0 [ascii "ANN"] 433 w w' ∧
    ¬∃ b, b ∈ w.ctx.accounts ∧ b ≠ 0 ∧ toLower (w.acc b).m_nick = toLower (ascii "ANN") := by
  rw [run_registered ann_letsIn]
  refine ⟨_, _, rfl, rfl, rfl, rfl, ⟨rfl, ascii "ANN", rfl⟩, ?_⟩
  rintro ⟨b, hb, hne, -⟩
  change b ∈ (∅ : Std.ExtTreeSet AccId).insert 0 at hb
  rw [Std.ExtTreeSet.mem_insert, Std.compare_eq_iff_eq] at hb
  rcases hb with rfl | hb
  · exact hne rfl
  · exact absurd hb Std.ExtTreeSet.not_mem_empty

set_option maxRecDepth 4000 in
/-- ann's nick is refused to eve -/
theorem nick_in_use_iff_eve : ∃ w', run (step Env.ascii) loadedBob
      (registration 0 false "eve" ++ registration 1 false "ann") = .ok w' ∧
    ((∃ w'', NickReply Env.ascii 0 [ascii "ann"] 433 w' w'') ↔
      ∃ b, b ∈ w'.ctx.accounts ∧ b ≠ 1 ∧ toLower (w'.acc b).m_nick = toLower (ascii "ann")) := by
  have heve : LetsIn Env.ascii 0 "eve" loadedBob := loadedBob_lets (by decide) (by decide) rfl
  have hann : LetsIn Env.ascii 1 "ann" (letIn Env.ascii 0 false "eve" loadedBob) :=
    ⟨⟨letIn_nextConn, letIn_quiet heve.quiet, by decide, by decide⟩, rfl, rfl⟩
  have hsteps : checkSteps (step Env.ascii) (keepsFolded Env.ascii) loadedBob
      (registration 0 false "eve" ++ registration 1 false "ann") = true := by
    rw [check_registration heve, ← List.append_nil (registration 1 false "ann"),
      check_registration hann]
    rfl
  have hend : ∃ w', run (step Env.ascii) loadedBob
      (registration 0 false "eve" ++ registration 1 false "ann") = .ok w' ∧
      (w'.conn 0).live = true ∧ (w'.conn 0).m_account = some 1 ∧ (w'.acc 1).m_nick = ascii "eve" := by
    rw [run_both heve hann]
    exact ⟨_, rfl, rfl, rfl, rfl⟩
  obtain ⟨w', hrun, hlive, hacc, hnick⟩ := hend
  have hfolded : LoadedFolded loadedBob := by
    intro a ha
    obtain rfl : a = 0 := Nat.lt_one_iff.mp ha
    exact ⟨nofun, rfl⟩
  refine ⟨w', hrun, ((nick_in_use_iff loadedBob_loaded (fun e => by cases e <;> rfl) hrun hlive hacc
    (by decide)).2 hfolded (allSteps_of_check hsteps)).mpr ?_⟩
  rw [hnick]
  decide

end Worker

end Chatripper
