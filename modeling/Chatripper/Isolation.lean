import Mathlib
import Chatripper.Lib.TwoRuns
import Chatripper.Irc.Shelves
import Chatripper.ChannelStores

/-!
# The metadata of one account

A METADATA of another account writes no key of the store and no row of it, whatever it names: the
target is resolved by a nick, which may be stale, but the store refuses who is not its owner.

* `MetadataEffect`        what a METADATA does to the stores of accounts;
* `Undisturbed`           two worlds that agree on the store and the rows of one account;
* `account_isolated`      a run, and the run without the METADATA commands of others.
-/

namespace Chatripper
open ByteStr Utf8 Outcome client_connection

/-! ## one METADATA -/

namespace Metadata

section
variable {env : Env} {ref : MetaRef} {ev : QEventMetadata} {w w' : World}

theorem bare_saved (m : Metadata) (ss : List SqlStmt) : (saved ref m ss w).bare = w.bare := by
  cases ref with
  | account a =>
    have hacc : (fun x => ({ (if x = a then { w.acc a with m_metadata := some m }
        else w.acc x : Account) with m_metadata := none } : Account)) =
          fun x => { w.acc x with m_metadata := none } := by
      funext x
      split
      · next hx => rw [hx]
      · rfl
    exact congrArg (fun acc => { w.bare with acc := acc }) hacc
  | channel ch =>
    have hchan : (fun x => ({ (if x = ch then { w.chan ch with m_metadata := some m }
        else w.chan x : Channel) with m_metadata := none } : Channel)) =
          fun x => { w.chan x with m_metadata := none } := by
      funext x
      split
      · next hx => rw [hx]
      · rfl
    exact congrArg (fun chan => { w.bare with chan := chan }) hchan

/-- a request fails for want of an account only -/
theorem handle_both : Both (fun _ _ => True) (handle env ref ev w) (handle env ref ev w') := by
  have hactor : Both (fun _ _ => True) (deref .nullAccount ev.account)
      (deref .nullAccount ev.account) := by
    cases ev.account with
    | none => exact rfl
    | some a => exact trivial
  unfold handle
  dsimp only
  refine Both.ite (fun _ => ?_) fun _ => Both.ite (fun _ => ?_) fun _ => Both.ite (fun _ => trivial)
    fun _ => Both.ite (fun _ => trivial) fun _ => Both.ite (fun _ => ?_) fun _ =>
      Both.ite (fun _ => ?_) fun _ => Both.ite (fun _ => trivial) fun _ => trivial
  · split
    · split <;> exact trivial
    · exact trivial
  · split
    · split <;> exact trivial
    · exact trivial
  · exact hactor.bind fun _ _ _ => trivial
  · exact hactor.bind fun _ _ _ => trivial

end

end Metadata

namespace client_connection
open World

section
variable {env : Env} {c : ConnId} {args : List Bytes} {w : World}

/-- what a METADATA does to the stores of accounts and to the database -/
def MetadataEffect (env : Env) (request : Option (MetaRef × QEventMetadata)) (w w' : World) :
    Prop :=
  match request with
  | none => w'.acc = w.acc ∧ w'.sql = w.sql
  | some (ref, ev) => ∃ m : Metadata,
    m.kv = Metadata.requestKv env ref ev (Metadata.load env ref w).kv ∧
      w'.acc = (Metadata.saved ref m (Metadata.requestSql env ref ev w) w).acc ∧
        w'.sql = w.sql ++ Metadata.requestSql env ref ev w

theorem handleMETADATA_effect :
    Sat (fun _ => True)
      (fun w' => w'.bare = w.bare ∧ MetadataEffect env (metadataRequest c .METADATA args w) w w')
      (handleMETADATA env c args w) := by
  have hnone : w.bare = w.bare ∧ MetadataEffect env none w w := ⟨rfl, rfl, rfl⟩
  unfold handleMETADATA
  cases args with
  | nil => exact hnone
  | cons target args =>
    cases args with
    | nil => exact hnone
    | cons subcmd rest =>
      refine Sat.ite (fun h => absurd h (by simp)) fun _ => ?_
      unfold metadataRequest
      dsimp only
      by_cases hcap : (w.conn c).capabilities.has .METADATA = true
      · rw [if_pos hcap, if_pos hcap]
        show Sat _ _ (metadataTargetOf c target
          { account := (w.conn c).m_account, subcmd := subcmd, args := rest } w >>= _)
        cases metadataTargetOf c target
            { account := (w.conn c).m_account, subcmd := subcmd, args := rest } w with
        | error e => exact trivial
        | ok r =>
          cases r with
          | none => exact hnone
          | some p =>
            obtain ⟨ref, ev⟩ := p
            refine Metadata.handle_request.bind fun q hq => ?_
            obtain ⟨m, hm, hq⟩ := hq
            obtain ⟨hbare, hacc, hsql⟩ := @metadata_keeps env c q.2 q.1
            refine ⟨?_, m, hm, ?_, ?_⟩
            · show (metadata env c q.1 q.2).bare = _
              rw [hbare, hq, Metadata.bare_saved]
            · show (metadata env c q.1 q.2).acc = _
              rw [hacc, hq]
            · show (metadata env c q.1 q.2).sql = _
              rw [hsql, hq]
              rfl
      · rw [if_neg hcap, if_neg hcap]
        exact hnone

/-- the commands of two worlds that differ in stores and data -/
theorem handleMETADATA_both {w' : World} (h : w'.bare = w.bare) :
    Both (fun _ _ => True) (handleMETADATA env c args w) (handleMETADATA env c args w') := by
  have hconn : w'.conn = w.conn :=
    calc w'.conn = w'.bare.conn := rfl
      _ = w.bare.conn := by rw [h]
  have htarget (target : Bytes) (ev : QEventMetadata) :
      metadataTargetOf c target ev w' = metadataTargetOf c target ev w :=
    calc metadataTargetOf c target ev w' = metadataTargetOf c target ev w'.bare := rfl
      _ = metadataTargetOf c target ev w.bare := by rw [h]
  unfold handleMETADATA
  rw [hconn]
  refine Both.ite (fun _ => trivial) fun _ => Both.ite (fun _ => ?_) fun _ => trivial
  cases listAt args 0 with
  | error e => exact rfl
  | ok target =>
    cases listAt args 1 with
    | error e => exact rfl
    | ok subcmd =>
      show Both _ (metadataTargetOf c target _ w >>= _) (metadataTargetOf c target _ w' >>= _)
      rw [htarget]
      cases metadataTargetOf c target
          { account := (w.conn c).m_account, subcmd := subcmd, args := args.drop 2 } w with
      | error e => exact rfl
      | ok r =>
        cases r with
        | none => exact trivial
        | some p => exact Metadata.handle_both.bind fun _ _ _ => trivial

/-- the request of a METADATA is the same in the two worlds -/
theorem metadataRequest_bare {w' : World} (h : w'.bare = w.bare) (cmd : Command) :
    metadataRequest c cmd args w' = metadataRequest c cmd args w :=
  calc metadataRequest c cmd args w' = metadataRequest c cmd args w'.bare := rfl
    _ = metadataRequest c cmd args w.bare := by rw [h]

/-- a request on an account comes from an account -/
theorem metadataRequest_account {a : AccId} {cmd : Command} {ev : QEventMetadata}
    (h : metadataRequest c cmd args w = some (.account a, ev)) :
    ∃ actor, (w.conn c).m_account = some actor ∧ ev.account = some actor := by
  unfold metadataRequest at h
  split at h
  · next target subcmd rest =>
    split at h
    · unfold metadataTargetOf at h
      split at h
      · cases hch : Channel.get w (target.drop 1) with
        | none =>
          rw [hch] at h
          cases h
        | some ch =>
          rw [hch] at h
          cases h
      · cases hacc : (w.conn c).m_account with
        | none =>
          rw [hacc] at h
          cases h
        | some actor =>
          rw [hacc] at h
          refine ⟨actor, rfl, ?_⟩
          have hev : ((if target = ascii "*" ∨ target = w.accNick actor then _ else _ :
              Except Fault (Option (MetaRef × QEventMetadata))).toOption).join =
                some (.account a, ev) := h
          split at hev
          · cases hev
            rfl
          · cases hnick : Ctx.irc_nick_get w target with
            | none =>
              rw [hnick] at hev
              cases hev
            | some dest =>
              rw [hnick] at hev
              cases hev
              rfl
    · cases h
  · cases h

end

end client_connection

/-! ## the store of one account -/

section
variable {env : Env} {y : AccId} {w w' w1 w1' : World}

/-- the keys and values of the store, which is made if it is not there yet -/
def accountKv (env : Env) (y : AccId) (w : World) : QMap QString QVariant :=
  (Metadata.load env (.account y) w).kv

/-- the keys and values of the rows of an account -/
def accountRows (env : Env) (y : AccId) (w : World) : QMap QString QVariant :=
  env.tableKv w.sql (w.acc y).m_uid

/-- no other account and no channel has the uid of the account -/
def OwnUid (y : AccId) (w : World) : Prop :=
  ∀ ref, ref ≠ .account y → Metadata.ref_id ref w ≠ (w.acc y).m_uid

theorem accountKv_eq : accountKv env y w =
    ((w.acc y).m_metadata.map Metadata.kv).getD (accountRows env y w) := by
  unfold accountKv Metadata.load accountRows
  show ((w.acc y).m_metadata.getD _).kv = _
  cases (w.acc y).m_metadata with
  | none => exact Metadata.metadata_get_kv env _ w
  | some m => rfl

/-- the same statements on rows that are the same -/
theorem KeyedTable.append (h : KeyedTable env) {id : Uuid} {sql sql' : List SqlStmt}
    (hsame : env.tableKv sql' id = env.tableKv sql id) (ss : List SqlStmt) :
    env.tableKv (sql' ++ ss) id = env.tableKv (sql ++ ss) id := by
  obtain ⟨effect, heffect⟩ := h
  induction ss generalizing sql sql' with
  | nil =>
    rw [List.append_nil, List.append_nil]
    exact hsame
  | cons s ss ih =>
    have hone : env.tableKv (sql' ++ [s]) id = env.tableKv (sql ++ [s]) id := by
      rw [heffect, heffect, hsame]
    rw [← List.singleton_append, ← List.append_assoc, ← List.append_assoc]
    exact ih hone

theorem ref_id_bare (h : w'.bare = w.bare) (ref : MetaRef) :
    Metadata.ref_id ref w' = Metadata.ref_id ref w :=
  calc Metadata.ref_id ref w' = Metadata.ref_id ref w'.bare := by cases ref <;> rfl
    _ = Metadata.ref_id ref w.bare := by rw [h]
    _ = Metadata.ref_id ref w := by cases ref <;> rfl

theorem uid_bare (h : w'.bare = w.bare) (a : AccId) : (w'.acc a).m_uid = (w.acc a).m_uid :=
  ref_id_bare h (.account a)

theorem OwnUid.bare (h : w'.bare = w.bare) (huid : OwnUid y w) : OwnUid y w' := by
  intro ref href
  rw [ref_id_bare h, uid_bare h]
  exact huid ref href

theorem requestSql_bare (h : w'.bare = w.bare) (ref : MetaRef) (ev : QEventMetadata) :
    Metadata.requestSql env ref ev w' = Metadata.requestSql env ref ev w := by
  unfold Metadata.requestSql
  simp only [ref_id_bare h, uid_bare h]

/-- who is refused executes no statement that writes keys -/
theorem requestSql_refused {ref : MetaRef} {ev : QEventMetadata}
    (href : Metadata.refused ref ev ≠ none) {s : SqlStmt}
    (hs : s ∈ Metadata.requestSql env ref ev w) (id : Uuid) : s.writes id = false := by
  have hsub {t : AccId → SqlStmt} (ht : ∀ a, (t a).writes id = false)
      (h : s ∈ (ev.account.map t).toList) : s.writes id = false := by
    obtain ⟨a, -, rfl⟩ := Option.map_eq_some_iff.mp (Option.mem_toList.mp h)
    exact ht a
  have hnone (h : s ∈ ([] : List SqlStmt)) : s.writes id = false := by cases h
  unfold Metadata.requestSql at hs
  simp only [if_neg href] at hs
  split at hs
  · split at hs <;> exact hnone hs
  · split at hs
    · split at hs <;> exact hnone hs
    · split at hs
      · exact hnone hs
      · split at hs
        · exact hnone hs
        · split at hs
          · exact hsub (fun _ => rfl) hs
          · split at hs
            · exact hsub (fun _ => rfl) hs
            · exact hnone hs

theorem requestKv_refused {ref : MetaRef} {ev : QEventMetadata}
    (href : Metadata.refused ref ev ≠ none) (kv : QMap QString QVariant) :
    Metadata.requestKv env ref ev kv = kv := by
  unfold Metadata.requestKv
  simp only [if_neg href]
  split
  · split <;> rfl
  · split
    · split <;> rfl
    · rfl

/-- a request on another store -/
theorem client_connection.MetadataEffect.other {request : Option (MetaRef × QEventMetadata)}
    (hkeyed : KeyedTable env) (huid : OwnUid y w) (hbare : w1.bare = w.bare)
    (h : MetadataEffect env request w w1)
    (hother : ∀ ref ev, request = some (ref, ev) → ref ≠ .account y) :
    accountKv env y w1 = accountKv env y w ∧ accountRows env y w1 = accountRows env y w := by
  have hfrom (hstore : (w1.acc y).m_metadata = (w.acc y).m_metadata)
      (hrows : accountRows env y w1 = accountRows env y w) :
      accountKv env y w1 = accountKv env y w ∧ accountRows env y w1 = accountRows env y w := by
    rw [accountKv_eq, accountKv_eq, hstore, hrows]
    exact ⟨rfl, rfl⟩
  cases request with
  | none =>
    obtain ⟨hacc, hsql⟩ := h
    refine hfrom (by rw [hacc]) ?_
    unfold accountRows
    rw [hacc, hsql]
  | some p =>
    obtain ⟨ref, ev⟩ := p
    obtain ⟨m, -, hacc, hsql⟩ := h
    have href : ref ≠ .account y := hother ref ev rfl
    refine hfrom ?_ ?_
    · rw [hacc]
      cases ref with
      | account a =>
        have hya : y ≠ a := fun he => href (by rw [he])
        exact congrArg Account.m_metadata (if_neg hya)
      | channel ch => rfl
    · unfold accountRows
      rw [hsql, uid_bare hbare]
      refine hkeyed.other (fun s hs => ?_) w.sql
      exact (Metadata.requestSql_about hs).2 _ (huid ref href)

/-- a request on the store of the account -/
theorem client_connection.MetadataEffect.own {ev : QEventMetadata} (hbare : w1.bare = w.bare)
    (h : MetadataEffect env (some (.account y, ev)) w w1) :
    accountKv env y w1 = Metadata.requestKv env (.account y) ev (accountKv env y w) ∧
      accountRows env y w1 =
        env.tableKv (w.sql ++ Metadata.requestSql env (.account y) ev w) (w.acc y).m_uid := by
  obtain ⟨m, hm, hacc, hsql⟩ := h
  constructor
  · rw [accountKv_eq, hacc]
    show ((if y = y then _ else w.acc y : Account).m_metadata.map Metadata.kv).getD _ = _
    rw [if_pos rfl]
    exact hm
  · unfold accountRows
    rw [hsql, uid_bare hbare]

/-! ## two worlds -/

/-- two worlds that agree on the store and the rows of an account, and but for stores and data -/
structure Undisturbed (env : Env) (y : AccId) (w w' : World) : Prop where
  bare : w'.bare = w.bare
  kv : accountKv env y w' = accountKv env y w
  rows : accountRows env y w' = accountRows env y w
  uid : OwnUid y w

theorem Undisturbed.refl (huid : OwnUid y w) : Undisturbed env y w w := ⟨rfl, rfl, rfl, huid⟩

section
variable {c : ConnId} {args : List Bytes}

/-- a METADATA in both worlds -/
theorem Undisturbed.metadata (hkeyed : KeyedTable env) (h : Undisturbed env y w w') :
    Both (Undisturbed env y) (handleMETADATA env c args w) (handleMETADATA env c args w') := by
  refine (((handleMETADATA_both h.bare).and_sat handleMETADATA_effect handleMETADATA_effect).mono ?_)
  rintro w1 w1' ⟨-, ⟨hb, heff⟩, hb', heff'⟩
  rw [metadataRequest_bare h.bare] at heff'
  have hbare : w1'.bare = w1.bare := (hb'.trans h.bare).trans hb.symm
  have huid : OwnUid y w1 := h.uid.bare hb
  by_cases hown : ∃ ev, metadataRequest c .METADATA args w = some (.account y, ev)
  · obtain ⟨ev, hev⟩ := hown
    rw [hev] at heff heff'
    obtain ⟨hkv, hrows⟩ := heff.own hb
    obtain ⟨hkv', hrows'⟩ := heff'.own hb'
    refine ⟨hbare, ?_, ?_, huid⟩
    · rw [hkv, hkv', h.kv]
    · have hsame : env.tableKv w'.sql (w.acc y).m_uid = env.tableKv w.sql (w.acc y).m_uid := by
        have hr := h.rows
        unfold accountRows at hr
        rw [uid_bare h.bare] at hr
        exact hr
      rw [hrows, hrows', requestSql_bare h.bare, uid_bare h.bare]
      exact hkeyed.append hsame _
  · have hother : ∀ ref ev, metadataRequest c .METADATA args w = some (ref, ev) → ref ≠ .account y := by
      rintro ref ev he rfl
      exact hown ⟨ev, he⟩
    obtain ⟨hkv, hrows⟩ := heff.other hkeyed h.uid hb hother
    obtain ⟨hkv', hrows'⟩ := heff'.other hkeyed (h.uid.bare h.bare) hb' hother
    exact ⟨hbare, by rw [hkv, hkv', h.kv], by rw [hrows, hrows', h.rows], huid⟩

/-- a METADATA of someone else in the first world only -/
theorem Undisturbed.others (hkeyed : KeyedTable env) (h : Undisturbed env y w w')
    (hc : (w.conn c).m_account ≠ some y) (hok : handleMETADATA env c args w = .ok w1) :
    Undisturbed env y w1 w' := by
  obtain ⟨hb, heff⟩ := handleMETADATA_effect.of_ok hok
  have hsame : accountKv env y w1 = accountKv env y w ∧ accountRows env y w1 = accountRows env y w := by
    by_cases hown : ∃ ev, metadataRequest c .METADATA args w = some (.account y, ev)
    · obtain ⟨ev, hev⟩ := hown
      obtain ⟨actor, hacc, hactor⟩ := metadataRequest_account hev
      have href : Metadata.refused (.account y) ev ≠ none := by
        have hne : actor ≠ y := by
          rintro rfl
          exact hc hacc
        unfold Metadata.refused
        rw [hactor]
        show (if actor ≠ y then some y else none) ≠ none
        rw [if_pos hne]
        exact Option.some_ne_none _
      rw [hev] at heff
      obtain ⟨hkv, hrows⟩ := heff.own hb
      rw [requestKv_refused href] at hkv
      rw [hkeyed.other fun s hs => requestSql_refused href hs _] at hrows
      exact ⟨hkv, hrows⟩
    · refine heff.other hkeyed h.uid hb ?_
      rintro ref ev he rfl
      exact hown ⟨ev, he⟩
  exact ⟨h.bare.trans hb.symm, h.kv.trans hsame.1.symm, h.rows.trans hsame.2.symm, h.uid.bare hb⟩

/-- a command that does not look at stores or data, in both worlds -/
theorem Undisturbed.stocked (h : Undisturbed env y w w') {f : World → Except Fault World}
    (hstock : ∀ g, f (w.bare.stock g) = (f w.bare).map (World.stock g))
    (hids : Sat (fun _ => True) (fun w1 => w1.ids = w.bare.ids) (f w.bare)) :
    Both (Undisturbed env y) (f w) (f w') := by
  have hw : f w = (f w.bare).map (World.stock w.shelf) := by rw [← hstock, World.stock_bare]
  have hw' : f w' = (f w.bare).map (World.stock w'.shelf) := by
    rw [← hstock, ← h.bare, World.stock_bare]
  rw [hw, hw']
  cases hb : f w.bare with
  | error e => exact rfl
  | ok b =>
    have hids := hids.of_ok hb
    have hid (ref : MetaRef) (g : Shelf) : Metadata.ref_id ref (b.stock g) = Metadata.ref_id ref w := by
      have hb' : Metadata.ref_id ref (b.stock g) = b.ids ref := by cases ref <;> rfl
      have hw : w.bare.ids ref = Metadata.ref_id ref w := by cases ref <;> rfl
      rw [hb', hids, hw]
    have huid (g : Shelf) : ((b.stock g).acc y).m_uid = (w.acc y).m_uid := hid (.account y) g
    have hrows (x : World) (hx : (x.acc y).m_uid = (w.acc y).m_uid) :
        accountRows env y (b.stock x.shelf) = accountRows env y x := by
      unfold accountRows
      rw [huid, hx]
      rfl
    have hkv (x : World) (hx : (x.acc y).m_uid = (w.acc y).m_uid) :
        accountKv env y (b.stock x.shelf) = accountKv env y x := by
      rw [accountKv_eq, accountKv_eq, hrows x hx]
      rfl
    have hy' : (w'.acc y).m_uid = (w.acc y).m_uid := uid_bare h.bare y
    refine ⟨rfl, ?_, ?_, fun ref href => ?_⟩
    · rw [hkv w rfl, hkv w' hy', h.kv]
    · rw [hrows w rfl, hrows w' hy', h.rows]
    · rw [hid, huid]
      exact h.uid ref href

end

end

/-! ## a run -/

/-- a command of a connection -/
structure Issued where
  c : ConnId
  tags : QMap QString QVariant
  cmd : Command
  args : List Bytes

def issue (env : Env) (w : World) (r : Issued) : Except Fault World :=
  handle env r.c r.tags r.cmd r.args w

/-- METADATA, NICK after the setup, and AUTHENTICATE -/
def Interleaved (w : World) (r : Issued) : Prop :=
  r.cmd = .METADATA ∨ (r.cmd = .NICK ∧ (w.conn r.c).setup_tasks.empty = true) ∨ r.cmd = .AUTHENTICATE

/-- everything but a METADATA of a connection whose account is not `y` -/
def notOthers (y : AccId) (w : World) (r : Issued) : Bool :=
  decide (r.cmd = .METADATA → (w.conn r.c).m_account = some y)

section
variable {env : Env} {y : AccId} {w w' : World}

theorem issue_both (hkeyed : KeyedTable env) (h : Undisturbed env y w w') {r : Issued}
    (hr : Interleaved w r) : Both (Undisturbed env y) (issue env w r) (issue env w' r) := by
  unfold issue
  rcases hr with hcmd | ⟨hcmd, hready⟩ | hcmd
  · rw [hcmd]
    exact h.metadata hkeyed
  · rw [hcmd]
    exact h.stocked (f := handleNICK env r.c r.args)
      (fun g => handleNICK_stock g (w := w.bare) hready r.args) (handleNICK_ids (w := w.bare) hready)
  · rw [hcmd]
    exact h.stocked (f := handleAUTHENTICATE env r.c r.args)
      (fun g => handleAUTHENTICATE_stock g (w := w.bare) r.args) handleAUTHENTICATE_ids

/-- **The metadata of an account is its own.**  Without the METADATA commands of others a run leaves the
same keys and values in the store of the account and in its rows. -/
theorem account_isolated (hkeyed : KeyedTable env) (huid : OwnUid y w) {rs : List Issued}
    (hrs : AllSteps (issue env) Interleaved w rs) (hrun : run (issue env) w rs = .ok w') :
    ∃ w'', run (issue env) w (prune (issue env) (notOthers y) w rs) = .ok w'' ∧
      accountKv env y w'' = accountKv env y w' ∧ accountRows env y w'' = accountRows env y w' := by
  have hkept : ∀ s t r, Undisturbed env y s t → Interleaved s r → notOthers y s r = true →
      Both (Undisturbed env y) (issue env s r) (issue env t r) :=
    fun s t r h hr _ => issue_both hkeyed h hr
  have hdropped : ∀ s t r s', Undisturbed env y s t → Interleaved s r → notOthers y s r = false →
      issue env s r = .ok s' → Undisturbed env y s' t := by
    intro s t r s' h _ hdrop hok
    have hothers := of_decide_eq_false hdrop
    rw [Classical.not_imp] at hothers
    unfold issue at hok
    rw [hothers.1] at hok
    exact h.others hkeyed hothers.2 hok
  obtain ⟨w'', hpruned, hsame⟩ := run_prune hkept hdropped (Undisturbed.refl huid) hrs hrun
  exact ⟨w'', hpruned, hsame.kv, hsame.rows⟩

/-- ann and bob, each on a connection that is set up -/
def annAndBobReady : World where
  conn c :=
    if c ≤ 1 then
      { setup_tasks := ⟨0⟩, capabilities := Flags.setAll ⟨0⟩ [.METADATA], is_ready := true
        live := true, m_account := some c }
    else {}
  acc a :=
    if a = 0 then { m_uid := 1, m_nick := ascii "ann", connections := [0] }
    else if a = 1 then { m_uid := 2, m_nick := ascii "bob", connections := [1] }
    else {}
  chan _ := { m_name := [] }
  ctx := { irc_nicks := ((∅ : QHash Bytes AccId).insert (ascii "ann") 0).insert (ascii "bob") 1 }

/-- bob tries to write what ann has written, and reads it -/
def annSetsBobTries : List Issued :=
  [⟨0, ∅, .METADATA, [ascii "*", ascii "SET", ascii "url", ascii "a"]⟩,
    ⟨1, ∅, .METADATA, [ascii "ann", ascii "set", ascii "url", ascii "b"]⟩,
    ⟨1, ∅, .METADATA, [ascii "ann", ascii "GET", ascii "url"]⟩]

theorem annAndBobReady_ownUid : OwnUid 0 annAndBobReady := by
  intro ref href
  cases ref with
  | account a =>
    have ha : a ≠ 0 := fun h => href (by rw [h])
    unfold Metadata.ref_id annAndBobReady
    dsimp only
    rw [if_neg ha, if_pos rfl]
    split
    · decide
    · decide
  | channel ch =>
    show (0 : Uuid) ≠ 1
    decide

set_option maxRecDepth 8000 in
theorem account_isolated_ann : ∃ w' w'',
    run (issue Worker.keyedEnv) annAndBobReady annSetsBobTries = .ok w' ∧
      run (issue Worker.keyedEnv) annAndBobReady
        (prune (issue Worker.keyedEnv) (notOthers 0) annAndBobReady annSetsBobTries) = .ok w'' ∧
      accountKv Worker.keyedEnv 0 w'' = accountKv Worker.keyedEnv 0 w' := by
  have hrs : AllSteps (issue Worker.keyedEnv) Interleaved annAndBobReady annSetsBobTries :=
    ⟨Or.inl rfl, fun _ _ => ⟨Or.inl rfl, fun _ _ => ⟨Or.inl rfl, fun _ _ => trivial⟩⟩⟩
  obtain ⟨w', hrun⟩ : ∃ w', run (issue Worker.keyedEnv) annAndBobReady annSetsBobTries = .ok w' :=
    ⟨_, rfl⟩
  obtain ⟨w'', hpruned, hkv, -⟩ :=
    account_isolated Worker.keyedEnv_keyedTable annAndBobReady_ownUid hrs hrun
  exact ⟨w', w'', hrun, hpruned, hkv⟩

end

end Chatripper
