import Mathlib
import Chatripper.Links

/-!
# The account registries

`accounts`, `accounts_lookup_uuid` and `accounts_lookup_name` are written by registration, merge and
disconnection.

* `SysStep.registryInv`   the three agree, and an anonymous account in them has a connection;
* `SysStep.keepsNamed`    a named account stays, under its name;
* `registries_agree`      hence both hold in every state of every run.
-/

namespace Chatripper
open ByteStr Utf8 Outcome

namespace Reg

/-- the registries hold the same accounts, each under its own uid and, if it has one, its name -/
structure Registry (r : Reg) : Prop where
  made_lt : ∀ a, a ∈ r.accounts → a < r.nextAcc
  uid_lt : ∀ a, a < r.nextAcc → (r.acc a).m_uid < r.nextUuid
  uid_inj : ∀ a b, a < r.nextAcc → b < r.nextAcc → (r.acc a).m_uid = (r.acc b).m_uid → a = b
  uuid : ∀ (u : Uuid) (a : AccId),
    r.accounts_lookup_uuid[u]? = some a ↔ a ∈ r.accounts ∧ (r.acc a).m_uid = u
  name : ∀ (n : Bytes) (a : AccId),
    r.accounts_lookup_name[n]? = some a ↔ a ∈ r.accounts ∧ (r.acc a).m_name = n ∧ n ≠ []

structure RegistryInv (r : Reg) : Prop extends Registry r where
  fresh : ∀ c, (r.conn c).live = true → c < r.nextConn
  made : ∀ c a, (r.conn c).m_account = some a → a < r.nextAcc
  anonymous : ∀ a, a ∈ r.accounts → (r.acc a).m_name = [] →
    ∃ c, c ∈ (r.acc a).connections ∧ (r.conn c).live = true ∧ (r.conn c).m_account = some a

section
variable {r r' : Reg} {c : ConnId} {a b : AccId}

theorem mem_erase_accounts : a ∈ r.accounts.erase b ↔ a ≠ b ∧ a ∈ r.accounts := by
  rw [Std.ExtTreeSet.mem_erase, ne_eq, Std.compare_eq_iff_eq]
  exact and_congr_left' (not_congr eq_comm)

theorem Registry.mem_iff (h : Registry r) :
    a ∈ r.accounts ↔ r.accounts_lookup_uuid[(r.acc a).m_uid]? = some a := by
  rw [h.uuid]
  exact ⟨fun ha => ⟨ha, rfl⟩, fun ha => ha.1⟩

/-- the account that a uid leads to is the one that has it -/
theorem Registry.self_eq (h : Registry r) (ha : a < r.nextAcc)
    (hself : r.accounts_lookup_uuid[(r.acc a).m_uid]? = some b) : b = a := by
  obtain ⟨hb, huid⟩ := (h.uuid _ _).mp hself
  exact h.uid_inj b a (h.made_lt b hb) ha huid

/-! ## one step -/

/-- the registries do not look at more than this of the accounts -/
theorem Registry.congr (h : Registry r) (haccounts : r'.accounts = r.accounts)
    (huuid : r'.accounts_lookup_uuid = r.accounts_lookup_uuid)
    (hname : r'.accounts_lookup_name = r.accounts_lookup_name) (hnext : r'.nextAcc = r.nextAcc)
    (hnextUuid : r.nextUuid ≤ r'.nextUuid)
    (hacc : ∀ a, (r'.acc a).m_uid = (r.acc a).m_uid ∧ (r'.acc a).m_name = (r.acc a).m_name) :
    Registry r' := by
  have huid (a : AccId) : (r'.acc a).m_uid = (r.acc a).m_uid := (hacc a).1
  have hnm (a : AccId) : (r'.acc a).m_name = (r.acc a).m_name := (hacc a).2
  refine ⟨fun a ha => ?_, fun a ha => ?_, fun a b ha hb he => ?_, fun u a => ?_, fun n a => ?_⟩
  · rw [haccounts] at ha
    rw [hnext]
    exact h.made_lt a ha
  · rw [hnext] at ha
    rw [huid]
    exact Nat.lt_of_lt_of_le (h.uid_lt a ha) hnextUuid
  · rw [hnext] at ha hb
    rw [huid, huid] at he
    exact h.uid_inj a b ha hb he
  · rw [huuid, haccounts, huid]
    exact h.uuid u a
  · rw [hname, haccounts, hnm]
    exact h.name n a

/-- `account_insert_cache` of a new anonymous account -/
theorem Registry.createAccount (h : Registry r) : Registry (r.createAccount c) := by
  have hne {a : AccId} (ha : a ∈ r.accounts) : a ≠ r.nextAcc := Nat.ne_of_lt (h.made_lt a ha)
  have hacc (a : AccId) : (r.createAccount c).acc a =
      if a = r.nextAcc then
        { m_uid := r.nextUuid, m_name := [], m_nick := (r.conn c).m_nick, m_password := []
          connections := [] }
      else r.acc a := rfl
  have hold {a : AccId} (ha : a ≠ r.nextAcc) : (r.createAccount c).acc a = r.acc a := by
    rw [hacc, if_neg ha]
  have hnew : ((r.createAccount c).acc r.nextAcc).m_uid = r.nextUuid := by rw [hacc, if_pos rfl]
  have hmem (a : AccId) : a ∈ (r.createAccount c).accounts ↔ a = r.nextAcc ∨ a ∈ r.accounts := by
    show a ∈ r.accounts.insert r.nextAcc ↔ _
    rw [Std.ExtTreeSet.mem_insert, Std.compare_eq_iff_eq]
    exact or_congr_left eq_comm
  refine ⟨fun a ha => ?_, fun a ha => ?_, fun a b ha hb he => ?_, fun u a => ?_, fun n a => ?_⟩
  · rcases (hmem a).mp ha with rfl | ha
    · exact Nat.lt_succ_self _
    · exact Nat.lt_succ_of_lt (h.made_lt a ha)
  · have ha : a < r.nextAcc + 1 := ha
    show ((r.createAccount c).acc a).m_uid < r.nextUuid + 1
    by_cases hx : a = r.nextAcc
    · rw [hx, hnew]
      exact Nat.lt_succ_self _
    · rw [hold hx]
      exact Nat.lt_succ_of_lt (h.uid_lt a (by omega))
  · have ha : a < r.nextAcc + 1 := ha
    have hb : b < r.nextAcc + 1 := hb
    have hlt {x : AccId} (hx : x < r.nextAcc + 1) (hne : x ≠ r.nextAcc) : x < r.nextAcc :=
      Nat.lt_of_le_of_ne (Nat.le_of_lt_succ hx) hne
    -- an older account has an older uid
    by_cases hx : a = r.nextAcc <;> by_cases hy : b = r.nextAcc
    · rw [hx, hy]
    · rw [hx, hnew, hold hy] at he
      exact absurd he.symm (Nat.ne_of_lt (h.uid_lt b (hlt hb hy)))
    · rw [hy, hnew, hold hx] at he
      exact absurd he (Nat.ne_of_lt (h.uid_lt a (hlt ha hx)))
    · rw [hold hx, hold hy] at he
      exact h.uid_inj a b (hlt ha hx) (hlt hb hy) he
  · show (r.accounts_lookup_uuid.insert r.nextUuid r.nextAcc)[u]? = some a ↔ _
    rw [lookup_insert, hmem]
    by_cases hu : u = r.nextUuid
    · rw [if_pos hu]
      constructor
      · intro he
        cases he
        exact ⟨Or.inl rfl, hnew.trans hu.symm⟩
      · rintro ⟨rfl | ha, he⟩
        · rfl
        · rw [hold (hne ha)] at he
          exact absurd (he.trans hu) (Nat.ne_of_lt (h.uid_lt a (h.made_lt a ha)))
    · rw [if_neg hu, h.uuid]
      constructor
      · exact fun ⟨ha, he⟩ => ⟨Or.inr ha, by rw [hold (hne ha)]; exact he⟩
      · rintro ⟨rfl | ha, he⟩
        · exact absurd (he.symm.trans hnew) hu
        · rw [hold (hne ha)] at he
          exact ⟨ha, he⟩
  · show r.accounts_lookup_name[n]? = some a ↔ _
    rw [h.name, hmem]
    constructor
    · exact fun ⟨ha, he, hn⟩ => ⟨Or.inr ha, by rw [hold (hne ha)]; exact he, hn⟩
    · rintro ⟨rfl | ha, he, hn⟩
      · rw [hacc, if_pos rfl] at he
        exact absurd he.symm hn
      · rw [hold (hne ha)] at he
        exact ⟨ha, he, hn⟩

/-- `account_remove_cache` of an anonymous account -/
theorem Registry.removeAccount (h : Registry r) (hb : b < r.nextAcc)
    (hanon : (r.acc b).m_name = []) : Registry (r.removeAccount b) := by
  have hmem (a : AccId) : a ∈ (r.removeAccount b).accounts ↔ a ≠ b ∧ a ∈ r.accounts :=
    mem_erase_accounts
  refine ⟨fun a ha => h.made_lt a ((hmem a).mp ha).2, h.uid_lt, h.uid_inj, fun u a => ?_,
    fun n a => ?_⟩
  · show (r.accounts_lookup_uuid.erase (r.acc b).m_uid)[u]? = some a ↔ _ ∧ (r.acc a).m_uid = u
    rw [lookup_erase, hmem]
    by_cases hu : u = (r.acc b).m_uid
    · rw [if_pos hu]
      refine ⟨nofun, fun ⟨⟨hne, ha⟩, he⟩ => ?_⟩
      exact absurd (h.uid_inj a b (h.made_lt a ha) hb (he.trans hu)) hne
    · rw [if_neg hu, h.uuid]
      refine ⟨fun ⟨ha, he⟩ => ⟨⟨?_, ha⟩, he⟩, fun ⟨⟨_, ha⟩, he⟩ => ⟨ha, he⟩⟩
      rintro rfl
      exact hu he.symm
  · show (if (r.acc b).m_name = [] then r.accounts_lookup_name else _)[n]? = some a ↔
      _ ∧ (r.acc a).m_name = n ∧ n ≠ []
    rw [if_pos hanon, h.name, hmem]
    refine ⟨fun ⟨ha, he, hn⟩ => ⟨⟨?_, ha⟩, he, hn⟩, fun ⟨⟨_, ha⟩, he, hn⟩ => ⟨ha, he, hn⟩⟩
    rintro rfl
    exact hn (he.symm.trans hanon)

/-- a connection changes, but not whether it is live, nor its account once it has one -/
theorem RegistryInv.updConn {f : ConnReg → ConnReg} (h : RegistryInv r)
    (hlive : (f (r.conn c)).live = (r.conn c).live)
    (hacc : (f (r.conn c)).m_account = (r.conn c).m_account ∨
      (r.conn c).m_account = none ∧ ∃ a, (f (r.conn c)).m_account = some a ∧ a < r.nextAcc) :
    RegistryInv (r.updConn c f) := by
  refine ⟨h.toRegistry.congr rfl rfl rfl rfl (Nat.le_refl _) fun _ => ⟨rfl, rfl⟩, fun d hd => ?_,
    fun d a hd => ?_, fun a ha hname => ?_⟩
  · rw [updConn_conn] at hd
    by_cases hx : d = c
    · rw [if_pos hx, hlive] at hd
      rw [hx]
      exact h.fresh c hd
    · rw [if_neg hx] at hd
      exact h.fresh d hd
  · rw [updConn_conn] at hd
    by_cases hx : d = c
    · rw [if_pos hx] at hd
      rcases hacc with hsame | ⟨-, b, hb, hlt⟩
      · exact h.made c a (hsame.symm.trans hd)
      · rw [hb] at hd
        cases hd
        exact hlt
    · rw [if_neg hx] at hd
      exact h.made d a hd
  · obtain ⟨d, hd, hdlive, hdacc⟩ := h.anonymous a ha hname
    refine ⟨d, hd, ?_⟩
    rw [updConn_conn]
    by_cases hx : d = c
    · subst hx
      rw [if_pos rfl, hlive]
      rcases hacc with hsame | ⟨hnone, -⟩
      · exact ⟨hdlive, hsame.trans hdacc⟩
      · rw [hdacc] at hnone
        cases hnone
    · rw [if_neg hx]
      exact ⟨hdlive, hdacc⟩

theorem RegistryInv.registerNew (h : RegistryInv r) (hlive : (r.conn c).live = true)
    (hnone : (r.conn c).m_account = none) : RegistryInv (r.registerNew c) := by
  have hreg : Registry (r.registerNew c) :=
    (h.toRegistry.createAccount (c := c)).congr rfl rfl rfl rfl (Nat.le_refl _) fun a => by
      show ((r.registerNew c).acc a).m_uid = (if a = r.nextAcc then _ else r.acc a : AccReg).m_uid ∧
        ((r.registerNew c).acc a).m_name = (if a = r.nextAcc then _ else r.acc a : AccReg).m_name
      rw [registerNew_acc]
      split <;> exact ⟨rfl, rfl⟩
  refine ⟨hreg, fun d hd => ?_, fun d a hd => ?_, fun a ha hname => ?_⟩
  · rw [registerNew_conn] at hd
    by_cases hx : d = c
    · rw [hx]
      exact h.fresh c hlive
    · rw [if_neg hx] at hd
      exact h.fresh d hd
  · show a < r.nextAcc + 1
    rw [registerNew_conn] at hd
    by_cases hx : d = c
    · rw [if_pos hx] at hd
      cases hd
      exact Nat.lt_succ_self _
    · rw [if_neg hx] at hd
      exact Nat.lt_succ_of_lt (h.made d a hd)
  · by_cases hx : a = r.nextAcc
    · subst hx
      refine ⟨c, ?_, ?_, ?_⟩ <;> simp [hlive]
    · have hold : (r.registerNew c).acc a = r.acc a := by rw [registerNew_acc, if_neg hx]
      have ha' : a ∈ r.accounts := by
        have ha : a ∈ r.accounts.insert r.nextAcc := ha
        rw [Std.ExtTreeSet.mem_insert, Std.compare_eq_iff_eq] at ha
        exact ha.resolve_left (Ne.symm hx)
      rw [hold] at hname ⊢
      obtain ⟨d, hd, hdlive, hdacc⟩ := h.anonymous a ha' hname
      have hdc : d ≠ c := by
        rintro rfl
        rw [hdacc] at hnone
        cases hnone
      refine ⟨d, hd, ?_⟩
      rw [registerNew_conn, if_neg hdc]
      exact ⟨hdlive, hdacc⟩

theorem RegistryInv.registerOld (h : RegistryInv r) (hacc : (r.conn c).m_account = some a) :
    RegistryInv (r.registerOld c a) := by
  have hreg : Registry (r.registerOld c a) :=
    h.toRegistry.congr rfl rfl rfl rfl (Nat.le_refl _) fun b => by
      rw [registerOld_acc]
      by_cases hb : b = a
      · rw [if_pos hb, hb]
        exact ⟨rfl, rfl⟩
      · rw [if_neg hb]
        exact ⟨rfl, rfl⟩
  have hconn (d : ConnId) : ((r.registerOld c a).conn d).live = (r.conn d).live ∧
      ((r.registerOld c a).conn d).m_account = (r.conn d).m_account := by
    rw [registerOld_conn]
    by_cases hx : d = c
    · rw [if_pos hx, hx]
      exact ⟨rfl, hacc.symm⟩
    · rw [if_neg hx]
      exact ⟨rfl, rfl⟩
  refine ⟨hreg, fun d hd => ?_, fun d b hd => ?_, fun b hb hname => ?_⟩
  · rw [(hconn d).1] at hd
    exact h.fresh d hd
  · rw [(hconn d).2] at hd
    exact h.made d b hd
  · rw [registerOld_acc] at hname ⊢
    have hname' : (r.acc b).m_name = [] := by
      by_cases hx : b = a
      · rw [if_pos hx] at hname
        rw [hx]
        exact hname
      · rw [if_neg hx] at hname
        exact hname
    obtain ⟨d, hd, hdlive, hdacc⟩ := h.anonymous b hb hname'
    refine ⟨d, ?_, (hconn d).1.trans hdlive, (hconn d).2.trans hdacc⟩
    by_cases hx : b = a
    · rw [if_pos hx, ← hx]
      exact List.mem_append_left _ hd
    · rw [if_neg hx]
      exact hd

theorem RegistryInv.rename {self : AccId} {old new : Bytes} (h : RegistryInv r) :
    RegistryInv (r.rename a self old new) := by
  have hkeep (b : AccId) : ((r.rename a self old new).acc b).m_uid = (r.acc b).m_uid ∧
      ((r.rename a self old new).acc b).m_name = (r.acc b).m_name ∧
      ((r.rename a self old new).acc b).connections = (r.acc b).connections := by
    rw [rename_acc]
    by_cases hb : b = a
    · rw [if_pos hb, hb]
      exact ⟨rfl, rfl, rfl⟩
    · rw [if_neg hb]
      exact ⟨rfl, rfl, rfl⟩
  refine ⟨h.toRegistry.congr rfl rfl rfl rfl (Nat.le_refl _) fun b => ⟨(hkeep b).1, (hkeep b).2.1⟩,
    h.fresh, h.made, fun b hb hname => ?_⟩
  rw [(hkeep b).2.1] at hname
  rw [(hkeep b).2.2]
  exact h.anonymous b hb hname

/-- the anonymous account `b` goes, and a named one takes over its connections -/
theorem RegistryInv.merge (h : RegistryInv r) (hb : b < r.nextAcc)
    (hanon : (r.acc b).m_name = []) (hname : (r.acc a).m_name ≠ []) :
    RegistryInv (r.merge a b) := by
  have hab : a ≠ b := by
    rintro rfl
    exact hname hanon
  have hacc (x : AccId) : (r.merge a b).acc x =
      if x = b then { r.acc b with connections := [] }
      else if x = a then
        { r.acc a with connections := (r.acc a).connections ++ (r.acc b).connections }
      else r.acc x := by
    show (if x = b then { (if b = a then _ else r.acc b : AccReg) with connections := [] }
      else if x = a then _ else r.acc x) = _
    rw [if_neg (Ne.symm hab)]
  have hreg : Registry (r.merge a b) := by
    refine (Registry.removeAccount (r := r) h.toRegistry hb hanon).congr ?_ ?_ ?_ rfl
      (Nat.le_refl _) fun x => ?_
    · rfl
    · show r.accounts_lookup_uuid.erase ((r.merge a b).acc b).m_uid = _
      rw [hacc, if_pos rfl]
      rfl
    · show (if ((r.merge a b).acc b).m_name = [] then _ else
        r.accounts_lookup_name.erase ((r.merge a b).acc b).m_name) = _
      rw [hacc, if_pos rfl]
      rfl
    · show ((r.merge a b).acc x).m_uid = (r.acc x).m_uid ∧
        ((r.merge a b).acc x).m_name = (r.acc x).m_name
      rw [hacc]
      by_cases hx : x = b
      · rw [if_pos hx, hx]
        exact ⟨rfl, rfl⟩
      · rw [if_neg hx]
        by_cases hy : x = a
        · rw [if_pos hy, hy]
          exact ⟨rfl, rfl⟩
        · rw [if_neg hy]
          exact ⟨rfl, rfl⟩
  refine ⟨hreg, h.fresh, h.made, fun x hx hxname => ?_⟩
  obtain ⟨hne, hx⟩ := mem_erase_accounts.mp hx
  rw [hacc, if_neg hne] at hxname ⊢
  by_cases hy : x = a
  · rw [if_pos hy] at hxname
    exact absurd hxname hname
  · rw [if_neg hy] at hxname ⊢
    exact h.anonymous x hx hxname

theorem RegistryInv.connect (h : RegistryInv r) : RegistryInv r.connect := by
  have hconn (d : ConnId) : r.connect.conn d =
      if d = r.nextConn then { ({} : Conn).reg with live := true } else r.conn d := rfl
  refine ⟨h.toRegistry.congr rfl rfl rfl rfl (Nat.le_succ _) fun _ => ⟨rfl, rfl⟩, fun d hd => ?_,
    fun d a hd => ?_, fun a ha hname => ?_⟩
  · show d < r.nextConn + 1
    rw [hconn] at hd
    by_cases hx : d = r.nextConn
    · exact hx ▸ Nat.lt_succ_self _
    · rw [if_neg hx] at hd
      exact Nat.lt_succ_of_lt (h.fresh d hd)
  · rw [hconn] at hd
    by_cases hx : d = r.nextConn
    · rw [if_pos hx] at hd
      cases hd
    · rw [if_neg hx] at hd
      exact h.made d a hd
  · obtain ⟨d, hd, hlive, hacc⟩ := h.anonymous a ha hname
    refine ⟨d, hd, ?_⟩
    rw [hconn, if_neg (Nat.ne_of_lt (h.fresh d hlive))]
    exact ⟨hlive, hacc⟩

/-- a connection leaves its account, which goes with it when it is anonymous -/
theorem Registry.leaveAccount_eq (h : Registry r) (ha : a < r.nextAcc) (nick : Bytes) :
    r.leaveAccount c a nick =
      let l := r.updAcc a fun k => { k with connections := k.connections.filter (· != c) }
      if (r.acc a).m_name = [] then
        let l := { l with irc_nicks := l.irc_nicks.erase nick }
        if a ∈ r.accounts then l.removeAccount a else l
      else l := by
  have hacc : ((r.updAcc a fun k => { k with connections := k.connections.filter (· != c) }).acc
      a).m_name = (r.acc a).m_name ∧
      ((r.updAcc a fun k => { k with connections := k.connections.filter (· != c) }).acc
      a).m_uid = (r.acc a).m_uid := by
    rw [updAcc_acc, if_pos rfl]
    exact ⟨rfl, rfl⟩
  unfold leaveAccount
  dsimp only
  split
  · next hn =>
    rw [if_pos (hacc.1.symm.trans hn)]
    split
    · next hnone =>
      have hnone : r.accounts_lookup_uuid[((r.updAcc a fun k => { k with
        connections := k.connections.filter (· != c) }).acc a).m_uid]? = none := hnone
      rw [hacc.2] at hnone
      rw [if_neg]
      intro hmem
      rw [h.mem_iff, hnone] at hmem
      cases hmem
    · next self hself =>
      have hself : r.accounts_lookup_uuid[((r.updAcc a fun k => { k with
        connections := k.connections.filter (· != c) }).acc a).m_uid]? = some self := hself
      rw [hacc.2] at hself
      obtain rfl := h.self_eq ha hself
      rw [if_pos (h.mem_iff.mpr hself)]
  · next hn => rw [if_neg fun he => hn (hacc.1.trans he)]

theorem RegistryInv.disconnect (h : RegistryInv r) (hlive : (r.conn c).live = true) :
    RegistryInv (r.disconnect c) := by
  have hfresh (d : ConnId) (hd : ((r.disconnect c).conn d).live = true) :
      d ≠ c ∧ (r.disconnect c).conn d = r.conn d := by
    rw [disconnect_conn] at hd ⊢
    by_cases hx : d = c
    · rw [if_pos hx] at hd
      cases hd
    · exact ⟨hx, if_neg hx⟩
  have hmacc (d : ConnId) : ((r.disconnect c).conn d).m_account = (r.conn d).m_account := by
    rw [disconnect_conn]
    by_cases hx : d = c
    · rw [if_pos hx, hx]
    · rw [if_neg hx]
  obtain ⟨hnextConn, hnextAcc, -, -⟩ := disconnect_next r c
  have hregistry : Registry (r.disconnect c) ∧ ∀ a, a ∈ (r.disconnect c).accounts →
      a ∈ r.accounts ∧ ((r.acc a).m_name = [] → (r.conn c).m_account ≠ some a) := by
    cases hacc : (r.conn c).m_account with
    | none =>
      rw [disconnect_none hacc]
      exact ⟨h.toRegistry.congr rfl rfl rfl rfl (Nat.le_refl _) fun _ => ⟨rfl, rfl⟩,
        fun a ha => ⟨ha, fun _ => nofun⟩⟩
    | some a =>
      have ha := h.made c a hacc
      have hleft : Registry (r.updAcc a fun k =>
          { k with connections := k.connections.filter (· != c) }) :=
        h.toRegistry.congr rfl rfl rfl rfl (Nat.le_refl _) fun b => by
          rw [updAcc_acc]
          by_cases hb : b = a
          · rw [if_pos hb, hb]
            exact ⟨rfl, rfl⟩
          · rw [if_neg hb]
            exact ⟨rfl, rfl⟩
      rw [disconnect_some hacc, h.toRegistry.leaveAccount_eq ha]
      dsimp only
      by_cases hn : (r.acc a).m_name = []
      · rw [if_pos hn]
        by_cases hmem : a ∈ r.accounts
        · rw [if_pos hmem]
          have hn' : ((r.updAcc a fun k => { k with
              connections := k.connections.filter (· != c) }).acc a).m_name = [] := by
            rw [updAcc_acc, if_pos rfl]
            exact hn
          refine ⟨(Registry.removeAccount hleft ha hn').congr rfl rfl rfl rfl (Nat.le_refl _)
            fun _ => ⟨rfl, rfl⟩, fun b hb => ?_⟩
          obtain ⟨hba, hb⟩ := mem_erase_accounts.mp hb
          exact ⟨hb, fun _ hab => hba (Option.some.inj hab).symm⟩
        · rw [if_neg hmem]
          refine ⟨hleft.congr rfl rfl rfl rfl (Nat.le_refl _) fun _ => ⟨rfl, rfl⟩,
            fun b hb => ⟨hb, fun _ hab => ?_⟩⟩
          cases hab
          exact hmem hb
      · rw [if_neg hn]
        refine ⟨hleft.congr rfl rfl rfl rfl (Nat.le_refl _) fun _ => ⟨rfl, rfl⟩,
          fun b hb => ⟨hb, fun hbn hab => ?_⟩⟩
        cases hab
        exact hn hbn
  refine ⟨hregistry.1, fun d hd => ?_, fun d a hd => ?_, fun a ha hname => ?_⟩
  · obtain ⟨-, hsame⟩ := hfresh d hd
    rw [hsame] at hd
    rw [hnextConn]
    exact h.fresh d hd
  · rw [hmacc] at hd
    rw [hnextAcc]
    exact h.made d a hd
  · obtain ⟨hold, hother⟩ := hregistry.2 a ha
    have hname' : (r.acc a).m_name = [] := by
      rw [disconnect_acc] at hname
      split at hname <;> exact hname
    have hne := hother hname'
    rw [disconnect_acc, if_neg hne]
    obtain ⟨d, hd, hdlive, hdacc⟩ := h.anonymous a hold hname'
    refine ⟨d, hd, ?_, (hmacc d).trans hdacc⟩
    rw [disconnect_conn, if_neg]
    · exact hdlive
    · rintro rfl
      exact hne hdacc

/-- the account that a name leads to has a name -/
theorem Registry.named_of_lookup (h : Registry r) {u : Bytes}
    (hu : r.accounts_lookup_name[u]? = some a) :
    a < r.nextAcc ∧ (r.acc a).m_name ≠ [] := by
  obtain ⟨ha, hname, hne⟩ := (h.name u a).mp hu
  refine ⟨h.made_lt a ha, ?_⟩
  rw [hname]
  exact hne

/-- **One step.**  The registries go on agreeing. -/
theorem SysStep.registryInv {l : SysLabel} (h : RegistryInv r) (hstep : SysStep l r r') :
    RegistryInv r' := by
  cases hstep with
  | connect => exact h.connect
  | disconnect hlive => exact h.disconnect hlive
  | @conn c _ _ _ hlive hstep =>
    cases hstep with
    | giveNick => exact h.updConn rfl (Or.inl rfl)
    | clear => exact h.updConn rfl (Or.inl rfl)
    | refuse =>
      exact ⟨h.toRegistry.congr rfl rfl rfl rfl (Nat.le_refl _) fun _ => ⟨rfl, rfl⟩, h.fresh,
        h.made, h.anonymous⟩
    | registerNew _ hacc => exact h.registerNew hlive hacc
    | registerOld _ hacc => exact h.registerOld hacc
    | rename => exact h.rename
    | @login a _ _ hacc hname =>
      refine h.updConn rfl (Or.inr ⟨hacc, a, ?_, (h.toRegistry.named_of_lookup hname).1⟩)
      show some ((r.conn c).m_account.getD a) = some a
      rw [hacc]
      rfl
    | @relogin a b _ hacc hname =>
      refine h.updConn rfl (Or.inl ?_)
      show some ((r.conn c).m_account.getD a) = _
      rw [hacc]
      rfl
    | @merge a b _ _ hacc hanon hname =>
      have hm : RegistryInv (r.merge a b) :=
        h.merge (h.made c b hacc) hanon (h.toRegistry.named_of_lookup hname).2
      refine hm.updConn rfl (Or.inl ?_)
      show some ((r.conn c).m_account.getD a) = (r.conn c).m_account
      rw [hacc]
      rfl

/-- **One step.**  A named account stays in the registries, under its name. -/
theorem SysStep.keepsNamed {l : SysLabel} (h : RegistryInv r) (hstep : SysStep l r r')
    (ha : a ∈ r.accounts) (hname : (r.acc a).m_name ≠ []) :
    a ∈ r'.accounts ∧ (r'.acc a).m_name = (r.acc a).m_name := by
  have hlt := h.made_lt a ha
  cases hstep with
  | connect => exact ⟨ha, rfl⟩
  | @disconnect c _ hlive =>
    have hacc : ((r.disconnect c).acc a).m_name = (r.acc a).m_name := by
      rw [disconnect_acc]
      split <;> rfl
    refine ⟨?_, hacc⟩
    cases hc : (r.conn c).m_account with
    | none =>
      rw [disconnect_none hc]
      exact ha
    | some b =>
      rw [disconnect_some hc, h.toRegistry.leaveAccount_eq (h.made c b hc)]
      dsimp only
      split
      · next hb =>
        split
        · refine mem_erase_accounts.mpr ⟨?_, ha⟩
          rintro rfl
          exact hname hb
        · exact ha
      · exact ha
  | @conn c _ _ _ hlive hstep =>
    cases hstep with
    | giveNick => exact ⟨ha, rfl⟩
    | clear => exact ⟨ha, rfl⟩
    | refuse => exact ⟨ha, rfl⟩
    | registerNew =>
      refine ⟨?_, ?_⟩
      · show a ∈ r.accounts.insert r.nextAcc
        rw [Std.ExtTreeSet.mem_insert]
        exact Or.inr ha
      · rw [registerNew_acc, if_neg (Nat.ne_of_lt hlt)]
    | @registerOld b _ _ _ =>
      refine ⟨ha, ?_⟩
      rw [registerOld_acc]
      by_cases hx : a = b
      · rw [if_pos hx, hx]
      · rw [if_neg hx]
    | @rename b _ _ _ _ _ _ _ _ _ =>
      refine ⟨ha, ?_⟩
      rw [rename_acc]
      by_cases hx : a = b
      · rw [if_pos hx, hx]
      · rw [if_neg hx]
    | login => exact ⟨ha, rfl⟩
    | relogin => exact ⟨ha, rfl⟩
    | @merge d b _ _ _ hanon _ =>
      have hne : a ≠ b := by
        rintro rfl
        exact hname hanon
      refine ⟨?_, ?_⟩
      · exact mem_erase_accounts.mpr ⟨hne, ha⟩
      · show (if a = b then _ else if a = d then _ else r.acc a : AccReg).m_name = _
        rw [if_neg hne]
        by_cases hx : a = d
        · rw [if_pos hx, hx]
        · rw [if_neg hx]

end

end Reg

/-! ## runs of the server -/

namespace Worker
open World client_connection

/-- a server after the initial load: nobody is connected, and the registries hold the accounts of
the database, which have distinct uids and names -/
structure Loaded (w : World) : Prop extends Idle w where
  made : ∀ a, a ∈ w.ctx.accounts ↔ a < w.nextAcc
  named : ∀ a, a < w.nextAcc → (w.acc a).m_name ≠ []
  uid_lt : ∀ a, a < w.nextAcc → (w.acc a).m_uid < w.nextUuid
  uid_inj : ∀ a b, a < w.nextAcc → b < w.nextAcc → (w.acc a).m_uid = (w.acc b).m_uid → a = b
  uuid : ∀ (u : Uuid) (a : AccId),
    w.ctx.accounts_lookup_uuid[u]? = some a ↔ a < w.nextAcc ∧ (w.acc a).m_uid = u
  name : ∀ (n : Bytes) (a : AccId),
    w.ctx.accounts_lookup_name[n]? = some a ↔ a < w.nextAcc ∧ (w.acc a).m_name = n
  nick : ∀ (n : Bytes) (a : AccId),
    w.ctx.irc_nicks[n]? = some a ↔ a < w.nextAcc ∧ (w.acc a).m_nick = n

theorem Loaded.registryInv {w : World} (h : Loaded w) : w.reg.RegistryInv := by
  refine ⟨⟨fun a ha => (h.made a).mp ha, h.uid_lt, h.uid_inj, fun u a => ?_, fun n a => ?_⟩,
    fun c hc => ?_, fun c a hc => ?_, fun a ha hname => ?_⟩
  · exact (h.uuid u a).trans (and_congr_left' (h.made a).symm)
  · refine (h.name n a).trans ⟨fun ⟨ha, he⟩ => ⟨(h.made a).mpr ha, he, ?_⟩,
      fun ⟨ha, he, _⟩ => ⟨(h.made a).mp ha, he⟩⟩
    rw [← he]
    exact h.named a ha
  · have hc : (w.conn c).live = true := hc
    rw [h.dead c] at hc
    cases hc
  · have hc : (w.conn c).m_account = some a := hc
    rw [(h.unready c).2] at hc
    cases hc
  · exact absurd hname (h.named a ((h.made a).mp ha))

section
variable {env : Env} {w w' w'' : World} {evs evs' : List Event}

theorem run_registryInv (h : w.reg.RegistryInv) (hrun : run (step env) w evs = .ok w') :
    w'.reg.RegistryInv :=
  run_inv_of_steps (P := fun _ => True) (C := fun _ _ => True) (fun _ _ _ _ _ => trivial)
    (fun _ _ _ _ hI hs => hs.registryInv hI) h (allSteps_true w evs) hrun

/-- what a run does to an account that is in the registries under a name -/
theorem run_keepsNamed {a : AccId} (h : w.reg.RegistryInv) (ha : a ∈ w.ctx.accounts)
    (hname : (w.acc a).m_name ≠ []) (hrun : run (step env) w evs = .ok w') :
    a ∈ w'.ctx.accounts ∧ (w'.acc a).m_name = (w.acc a).m_name := by
  have hkept : w'.reg.RegistryInv ∧ a ∈ w'.reg.accounts ∧
      (w'.reg.acc a).m_name = (w.reg.acc a).m_name := by
    refine run_inv_of_steps (I := fun r => r.RegistryInv ∧ a ∈ r.accounts ∧
        (r.acc a).m_name = (w.reg.acc a).m_name) (P := fun _ => True) (C := fun _ _ => True)
      (fun _ _ _ _ _ => trivial) (fun l r r' _ hI hs => ?_) ⟨h, ha, rfl⟩ (allSteps_true w evs) hrun
    obtain ⟨hinv, hmem, hsame⟩ := hI
    have hne : (r.acc a).m_name ≠ [] := by
      rw [hsame]
      exact hname
    obtain ⟨hmem', hname'⟩ := hs.keepsNamed hinv hmem hne
    exact ⟨hs.registryInv hinv, hmem', hname'.trans hsame⟩
  exact hkept.2

/-- **The registries.**  In every run of a server that has loaded its database, and in every state
`w'` of it, the three registries agree, an anonymous account in them has a live connection, and a
named account in them is there in every later state `w''`. -/
theorem registries_agree (hloaded : Loaded w) (hrun : run (step env) w evs = .ok w')
    (hlater : run (step env) w' evs' = .ok w'') :
    (∀ a, a ∈ w'.ctx.accounts ↔ w'.ctx.accounts_lookup_uuid[(w'.acc a).m_uid]? = some a) ∧
      (∀ (n : Bytes) (a : AccId), w'.ctx.accounts_lookup_name[n]? = some a ↔
        a ∈ w'.ctx.accounts ∧ (w'.acc a).m_name = n ∧ n ≠ []) ∧
      (∀ a, a ∈ w'.ctx.accounts → (w'.acc a).m_name ≠ [] →
        a ∈ w''.ctx.accounts ∧ (w''.acc a).m_name = (w'.acc a).m_name) ∧
      ∀ a, a ∈ w'.ctx.accounts → (w'.acc a).m_name = [] →
        ∃ c, c ∈ (w'.acc a).connections ∧ (w'.conn c).live = true := by
  have hinv : w'.reg.RegistryInv := run_registryInv hloaded.registryInv hrun
  refine ⟨fun a => hinv.toRegistry.mem_iff, hinv.name, fun a ha hname => ?_, fun a ha hname => ?_⟩
  · exact run_keepsNamed hinv ha hname hlater
  · obtain ⟨c, hc, hlive, -⟩ := hinv.anonymous a ha hname
    exact ⟨c, hc, hlive⟩

end

/-- the account bob has been loaded -/
def loadedBob : World :=
  { World.empty with
    acc := fun a =>
      if a = 0 then
        { m_uid := 1, m_name := ascii "bob", m_nick := ascii "bob", m_password := ascii "p" }
      else {}
    nextAcc := 1
    nextUuid := 2
    ctx :=
      { accounts := (∅ : QSet AccId).insert 0
        accounts_lookup_name := (∅ : QHash Bytes AccId).insert (ascii "bob") 0
        accounts_lookup_uuid := (∅ : QHash Uuid AccId).insert 1 0
        irc_nicks := (∅ : QHash Bytes AccId).insert (ascii "bob") 0 } }

theorem loadedBob_loaded : Loaded loadedBob := by
  have hacc (a : AccId) : loadedBob.acc a = if a = 0 then
      { m_uid := 1, m_name := ascii "bob", m_nick := ascii "bob", m_password := ascii "p" }
      else {} := rfl
  have hzero {a : AccId} (ha : a < 1) : a = 0 := Nat.lt_one_iff.mp ha
  have hbob (n : Bytes) (a : AccId) :
      ((∅ : QHash Bytes AccId).insert (ascii "bob") 0)[n]? = some a ↔ a = 0 ∧ ascii "bob" = n := by
    rw [lookup_insert]
    by_cases hn : n = ascii "bob"
    · rw [if_pos hn]
      exact ⟨fun h => ⟨(Option.some.inj h).symm, hn.symm⟩, fun h => by rw [h.1]⟩
    · rw [if_neg hn]
      exact ⟨fun h => by simp at h, fun h => absurd h.2.symm hn⟩
  refine ⟨⟨fun _ => rfl, fun _ => ⟨rfl, rfl⟩, fun a => ?_, fun u a h => ?_⟩, fun a => ?_,
    fun a ha => ?_, fun a ha => ?_, fun a b ha hb _ => ?_, fun u a => ?_, fun n a => (hbob n a).trans ?_,
    fun n a => (hbob n a).trans ?_⟩
  · rw [hacc]
    split <;> rfl
  · obtain ⟨rfl, -⟩ := (hbob u a).mp h
    exact ⟨by decide, by decide⟩
  · show a ∈ (∅ : QSet AccId).insert 0 ↔ a < 1
    rw [Std.ExtTreeSet.mem_insert, Std.compare_eq_iff_eq, Nat.lt_one_iff]
    simp [eq_comm]
  · rw [hzero ha]
    decide
  · rw [hzero ha]
    decide
  · rw [hzero ha, hzero hb]
  · show ((∅ : QHash Uuid AccId).insert 1 0)[u]? = some a ↔ a < 1 ∧ _
    rw [lookup_insert, Nat.lt_one_iff]
    by_cases hu : u = 1
    · rw [if_pos hu]
      exact ⟨fun h => ⟨(Option.some.inj h).symm, by cases h; exact hu.symm⟩, fun h => by rw [h.1]⟩
    · rw [if_neg hu]
      refine ⟨fun h => by simp at h, fun ⟨h, he⟩ => ?_⟩
      subst h
      exact absurd he.symm hu
  · show _ ↔ a < 1 ∧ _
    rw [Nat.lt_one_iff]
    refine and_congr_right fun h => ?_
    rw [h]
    rfl
  · show _ ↔ a < 1 ∧ _
    rw [Nat.lt_one_iff]
    refine and_congr_right fun h => ?_
    rw [h]
    rfl

/-- a nick that is not bob's is let in -/
theorem loadedBob_lets {nick : String}
    (hline : plainCommand (ascii ("NICK " ++ nick)) = some (.NICK, [ascii nick]))
    (hvalid : isValidNick Env.ascii (ascii nick) = true)
    (hfree : Ctx.irc_nick_get loadedBob (toLower (ascii nick)) = none) :
    LetsIn Env.ascii 0 nick loadedBob :=
  ⟨⟨rfl, fun e => by cases e <;> rfl, hline, hvalid⟩, rfl, hfree⟩

set_option maxRecDepth 4000 in
/-- eve registers, logs in as bob and goes -/
theorem registries_agree_late_login : ∃ w' w'',
    run (step Env.ascii) loadedBob (registration 0 false "eve") = .ok w' ∧
      run (step Env.ascii) w' [.line 0 (ascii "AUTHENTICATE AGJvYgBw"), .disconnect 0] = .ok w'' ∧
      0 ∈ w''.ctx.accounts ∧ ∃ c, c ∈ (w'.acc 1).connections ∧ (w'.conn c).live = true := by
  have hend : ∃ w', run (step Env.ascii) loadedBob (registration 0 false "eve") = .ok w' ∧
      (∃ w'', run (step Env.ascii) w' [.line 0 (ascii "AUTHENTICATE AGJvYgBw"), .disconnect 0] =
        .ok w'') ∧ w'.ctx.accounts.contains 0 = true ∧ w'.ctx.accounts.contains 1 = true ∧
      (w'.acc 0).m_name ≠ [] ∧ (w'.acc 1).m_name = [] := by
    rw [run_registered (loadedBob_lets (by decide) (by decide) rfl)]
    exact ⟨_, rfl, ⟨_, rfl⟩, rfl, rfl, by decide, rfl⟩
  obtain ⟨w', hrun, ⟨w'', hlater⟩, hbob, heve, hnamed, hanon⟩ := hend
  have h := registries_agree loadedBob_loaded hrun hlater
  exact ⟨w', w'', hrun, hlater, (h.2.2.1 0 (Std.ExtTreeSet.contains_iff_mem.mp hbob) hnamed).1,
    h.2.2.2 1 (Std.ExtTreeSet.contains_iff_mem.mp heve) hanon⟩

end Worker

end Chatripper
