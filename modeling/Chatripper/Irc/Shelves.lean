import Mathlib
import Chatripper.Irc.KeyReplies

/-!
# What NICK and AUTHENTICATE do not look at

The stores, the statements for the database, the data for the sockets and the batch number are written
by METADATA.  A change of nick and a login go the same way whatever they are, and add to the data only.

* `Shelf`, `World.stock`   these parts of a world, put into another one;
* `changeOwnNick_stock`, `handleAUTHENTICATE_stock`   what a change of nick and a login do there;
* `handleMETADATA_bare`    a METADATA changes nothing else.
-/

namespace Chatripper
open ByteStr Utf8 Outcome

/-- what METADATA requests write -/
structure Shelf where
  acc : AccId → Option Metadata
  chan : ChanId → Option Metadata
  sql : List SqlStmt
  out : List (ConnId × Bytes)
  nextBatch : Uuid

namespace World

def shelf (w : World) : Shelf where
  acc a := (w.acc a).m_metadata
  chan ch := (w.chan ch).m_metadata
  sql := w.sql
  out := w.out
  nextBatch := w.nextBatch

/-- a world with the stores of `g`, and the data of `g` before its own -/
def stock (g : Shelf) (w : World) : World :=
  { w with
    acc := fun a => { w.acc a with m_metadata := g.acc a }
    chan := fun ch => { w.chan ch with m_metadata := g.chan ch }
    sql := g.sql
    out := g.out ++ w.out
    nextBatch := g.nextBatch }

/-- a world without any of it -/
def bare (w : World) : World :=
  { w with
    acc := fun a => { w.acc a with m_metadata := none }
    chan := fun ch => { w.chan ch with m_metadata := none }
    sql := []
    out := []
    nextBatch := 0 }

theorem stock_bare (w : World) : stock w.shelf w.bare = w := by
  have hout : w.out ++ [] = w.out := List.append_nil _
  show { w with out := w.out ++ [] } = w
  rw [hout]

section
variable (g : Shelf) (w : World)

@[simp] theorem stock_conn : (stock g w).conn = w.conn := rfl

theorem stock_nick (c : ConnId) : (stock g w).nick c = w.nick c := rfl

theorem stock_emit (c : ConnId) (data : Bytes) : (stock g w).emit c data = stock g (w.emit c data) := by
  unfold emit stock
  rw [List.append_assoc]

theorem stock_post (c : ConnId) (q : QueuedCall) :
    (stock g w).post c q = stock g (w.post c q) := rfl

theorem stock_updConn (c : ConnId) (f : Conn → Conn) :
    (stock g w).updConn c f = stock g (w.updConn c f) := rfl

/-- a change of an account that does not look at its store -/
theorem stock_updAcc (a : AccId) {f : Account → Account}
    (hf : ∀ (k : Account) m, f { k with m_metadata := m } = { f k with m_metadata := m }) :
    (stock g w).updAcc a f = stock g (w.updAcc a f) := by
  have hacc : ((stock g w).updAcc a f).acc = (stock g (w.updAcc a f)).acc := by
    funext x
    show (if x = a then f { w.acc a with m_metadata := g.acc a }
      else { w.acc x with m_metadata := g.acc x } : Account) =
        { (if x = a then f (w.acc a) else w.acc x : Account) with m_metadata := g.acc x }
    by_cases hx : x = a
    · rw [if_pos hx, if_pos hx, hx]
      exact hf _ _
    · rw [if_neg hx, if_neg hx]
  exact congrArg (fun acc => { stock g (w.updAcc a f) with acc := acc }) hacc

theorem stock_event {α : Type} [Gadget α] (e : QIRCEvent) (ev : α) :
    (stock g w).event e ev = ((w.event e ev).1, stock g (w.event e ev).2) := rfl

theorem stock_consult {α : Type} [Gadget α] (e : QIRCEvent) (cancelled : α → Bool) (ev : α) :
    (stock g w).consult e cancelled ev =
      ((w.consult e cancelled ev).1, stock g (w.consult e cancelled ev).2) := by
  unfold consult
  rw [stock_event]
  show (if w.snakepit.hasEventHandler e then _ else _) = _
  split
  · cases w.event e ev with
    | mk r w1 =>
      cases r with
      | none => rfl
      | some ev' => rfl
  · rfl

end

end World

/-- a pure loop whose rounds go the same way in a stocked world -/
theorem foldl_stock {ι : Type} (g : Shelf) {f : World → ι → World}
    (hf : ∀ w i, f (w.stock g) i = (f w i).stock g) (l : List ι) (w : World) :
    l.foldl f (w.stock g) = (l.foldl f w).stock g := by
  induction l generalizing w with
  | nil => rfl
  | cons i l ih => rw [List.foldl_cons, List.foldl_cons, hf, ih]

theorem postAll_stock (g : Shelf) (accs : List AccId) (q : QueuedCall) (w : World) :
    postAll accs q (w.stock g) = (postAll accs q w).stock g :=
  foldl_stock g (f := fun w a => (w.acc a).connections.foldl (fun w conn => w.post conn q) w)
    (fun w a => foldl_stock g (f := fun w conn => w.post conn q) (fun w conn => w.stock_post g conn q)
      (w.acc a).connections w) accs w

namespace Account
open World Ctx

section
variable (g : Shelf) {w : World} {a : AccId}

theorem renameInRegistry_stock (event : QEventNickChange) :
    renameInRegistry a event (w.stock g) =
      (renameInRegistry a event w).map fun p => (p.1, p.2.stock g) := by
  unfold renameInRegistry
  by_cases hnew : event.new_nick = []
  · rw [if_pos hnew, if_pos hnew]
    rfl
  · rw [if_neg hnew, if_neg hnew]
    have hself : get_by_uid (w.stock g) ((w.stock g).acc a).m_uid = get_by_uid w (w.acc a).m_uid := rfl
    rw [hself]
    cases get_by_uid w (w.acc a).m_uid with
    | none => rfl
    | some self =>
      have hnick (n : Bytes) : irc_nick_get (w.stock g) n = irc_nick_get w n := rfl
      dsimp only
      rw [hnick]
      split
      · rfl
      · have hmove : irc_nicks_insert_cache (toLower event.new_nick) self
            (irc_nicks_remove_cache event.old_nick (w.stock g)) =
            (irc_nicks_insert_cache (toLower event.new_nick) self
              (irc_nicks_remove_cache event.old_nick w)).stock g := rfl
        rw [hmove, stock_updAcc g _ a fun _ _ => rfl]
        rfl

theorem setNick_stock (event : QEventNickChange) :
    setNick a event (w.stock g) = (setNick a event w).map fun p => (p.1, p.2.stock g) := by
  unfold setNick
  rw [stock_consult]
  cases w.consult .NICK_CHANGE (·.cancel) event with
  | mk r w1 =>
    cases r with
    | none => rfl
    | some event =>
      dsimp only
      rw [renameInRegistry_stock]
      cases renameInRegistry a event w1 with
      | none => rfl
      | some p =>
        obtain ⟨self, w2⟩ := p
        dsimp only [Option.map_some]
        have hmembers : channelMembers (w2.stock g) ((w2.stock g).acc a).channels.values
            ((∅ : QSet AccId).insert self) = channelMembers w2 (w2.acc a).channels.values
              ((∅ : QSet AccId).insert self) := rfl
        rw [hmembers]
        cases channelMembers w2 (w2.acc a).channels.values ((∅ : QSet AccId).insert self) with
        | error e => rfl
        | ok l =>
          show Except.ok (true, postAll l.toList _ (w2.stock g)) = _
          rw [postAll_stock]
          rfl

theorem verifyPassword_stock (env : Env) (auth : QEventAuthUser) :
    verifyPassword env a auth (w.stock g) =
      ((verifyPassword env a auth w).1, (verifyPassword env a auth w).2.stock g) := by
  unfold verifyPassword
  show (if auth.password = [] ∨ (w.acc a).m_password = [] then _ else
    if w.snakepit.hasEventHandler .AUTH_SASL_PLAIN then _ else _) = _
  split
  · rfl
  · split
    · rw [stock_event]
      cases w.event .AUTH_SASL_PLAIN auth with
      | mk r w1 =>
        cases r with
        | none => rfl
        | some resPtr => rfl
    · rfl

theorem merge_stock (source : AccId) : merge a source (w.stock g) = (merge a source w).stock g := by
  unfold merge
  have hlogged : is_logged_in (w.stock g) source = is_logged_in w source := rfl
  rw [hlogged]
  split
  · rfl
  · have hadd (w1 : World) (conn : ConnId) :
        add_connection a conn (w1.stock g) = (add_connection a conn w1).stock g :=
      stock_updAcc g w1 a fun _ _ => rfl
    have hclear (w1 : World) : clearConnections source (w1.stock g) =
        (clearConnections source w1).stock g := stock_updAcc g w1 source fun _ _ => rfl
    have hremove (w1 : World) : account_remove_cache source (w1.stock g) =
        (account_remove_cache source w1).stock g := rfl
    dsimp only
    rw [← hremove, ← hclear, ← foldl_stock g hadd]
    rfl

end

end Account

namespace client_connection
open World

section
variable (g : Shelf) {env : Env} {c : ConnId} {w : World}

theorem send_raw_stock (line : Bytes) :
    send_raw env c line (w.stock g) = (send_raw env c line w).stock g := stock_emit g w c _

theorem reply_num_stock (code : Nat) (text : Bytes) :
    reply_num env c code text (w.stock g) = (reply_num env c code text w).stock g :=
  stock_emit g w c _

theorem changeOwnNick_stock (new_nick : Bytes) :
    changeOwnNick env c new_nick (w.stock g) = (changeOwnNick env c new_nick w).map (stock g) := by
  unfold changeOwnNick
  rw [stock_nick, stock_conn]
  dsimp only
  split
  · rw [reply_num_stock]
    rfl
  · cases (w.conn c).m_account with
    | none => rfl
    | some m_account =>
      show (Account.setNick m_account _ (w.stock g) >>= _) = _
      rw [Account.setNick_stock]
      cases hset : Account.setNick m_account
          { new_nick := new_nick, old_nick := w.nick c, account := some m_account } w with
      | error e =>
        show _ = Except.map (stock g) (Account.setNick m_account _ w >>= _)
        rw [hset]
        rfl
      | ok p =>
        obtain ⟨changed, w1⟩ := p
        show Except.ok (if changed then w1.stock g else _) =
          Except.map (stock g) (Account.setNick m_account _ w >>= _)
        rw [hset]
        cases changed with
        | true => rfl
        | false =>
          show Except.ok (reply_num env c 433 new_nick (w1.stock g)) = _
          rw [reply_num_stock]
          rfl

/-- a NICK after the setup -/
theorem handleNICK_stock (hready : (w.conn c).setup_tasks.empty = true) (args : List Bytes) :
    handleNICK env c args (w.stock g) = (handleNICK env c args w).map (stock g) := by
  unfold handleNICK
  split
  · rw [reply_num_stock]
    rfl
  · cases listAt args 0 with
    | error e => rfl
    | ok new_nick =>
      rw [ok_bind, ok_bind, stock_conn]
      have hnick : Ctx.irc_nick_get (w.stock g) = Ctx.irc_nick_get w := rfl
      rw [hnick]
      split
      · rw [reply_num_stock]
        rfl
      · split
        · rw [reply_num_stock]
          rfl
        · have hdone : (w.conn c).setup_tasks.has .NICK = false := Flags.not_has_of_empty hready .NICK
          simp only [hdone, hready, Bool.not_true, Bool.false_eq_true, if_false]
          exact changeOwnNick_stock g new_nick

theorem login_stock (account : AccId) (username : Bytes) :
    login env c account username (w.stock g) = (login env c account username w).stock g := by
  unfold login
  rw [stock_conn]
  cases (w.conn c).m_account with
  | none =>
    dsimp only
    rw [stock_updConn, reply_num_stock, reply_num_stock]
    rfl
  | some m_account =>
    dsimp only
    rw [Account.merge_stock, reply_num_stock, reply_num_stock]
    rfl

theorem authenticate_stock (username password : Bytes) :
    authenticate env c username password (w.stock g) =
      (authenticate env c username password w).stock g := by
  unfold authenticate
  have hname : Account.get_by_name (w.stock g) username = Account.get_by_name w username := rfl
  rw [hname]
  cases Account.get_by_name w username with
  | none =>
    dsimp only
    rw [reply_num_stock]
    rfl
  | some account =>
    dsimp only
    rw [Account.verifyPassword_stock, stock_conn]
    cases Account.verifyPassword env account
        { username := username, password := password, ip := (w.conn c).ip } w with
    | mk auth w1 =>
      dsimp only
      split
      · rw [reply_num_stock]
        rfl
      · exact login_stock g account username

theorem handleAUTHENTICATE_stock (args : List Bytes) :
    handleAUTHENTICATE env c args (w.stock g) =
      (handleAUTHENTICATE env c args w).map (stock g) := by
  unfold handleAUTHENTICATE
  split
  · rw [send_raw_stock]
    rfl
  · cases listAt args 0 with
    | error e => rfl
    | ok arg =>
      rw [ok_bind, ok_bind]
      split
      · rw [send_raw_stock]
        rfl
      · dsimp only
        split
        · rw [reply_num_stock]
          rfl
        · cases listAt (saslPlain arg) 1 with
          | error e => rfl
          | ok username =>
            rw [ok_bind, ok_bind]
            cases listAt (saslPlain arg) 2 with
            | error e => rfl
            | ok password =>
              rw [ok_bind, ok_bind, authenticate_stock]
              rfl

/-! ### METADATA -/

/-- a reply adds to the data for the socket, and may take a batch number -/
theorem metadata_keeps (event : QEventMetadata) :
    (metadata env c event w).bare = w.bare ∧ (metadata env c event w).acc = w.acc ∧
      (metadata env c event w).sql = w.sql := by
  obtain ⟨v, hv⟩ : ∃ v : World → World × (AccId → Account) × List SqlStmt,
      v = fun w => (w.bare, w.acc, w.sql) := ⟨_, rfl⟩
  have hemit (w : World) (d : ConnId) (data : Bytes) : v (w.emit d data) = v w := by
    rw [hv]
    rfl
  have hlines (w : World) (lead targetName : Bytes) (keys : List Bytes) :
      v (metadataLines c event lead targetName keys w) = v w := by
    refine foldl_keeps (v := v) (fun w key => ?_) keys w
    split
    · rfl
    · split
      · exact hemit _ _ _
      · exact hemit _ _ _
  have hall : v (metadata env c event w) = v w := by
    unfold metadata
    dsimp only
    split
    · exact hemit _ _ _
    · refine (foldl_keeps (v := v) (fun w kv => ?_) _ _).trans ?_
      · split
        · rfl
        · exact hemit _ _ _
      · split
        · rw [hemit, hlines, hemit, hv]
          rfl
        · split
          · exact hlines _ _ _ _
          · rfl
  rw [hv] at hall
  obtain ⟨hbare, hrest⟩ := Prod.mk.inj hall
  exact ⟨hbare, Prod.mk.inj hrest⟩

end

end client_connection

/-! ## the ids of stores -/

/-- the uids of the accounts and the channels -/
def World.ids (w : World) (ref : MetaRef) : Uuid := Metadata.ref_id ref w

namespace World

section
variable (w : World)

theorem ids_updAcc (a : AccId) {f : Account → Account} (hf : ∀ k, (f k).m_uid = k.m_uid) :
    (w.updAcc a f).ids = w.ids := by
  funext ref
  cases ref with
  | account x =>
    show (if x = a then f (w.acc a) else w.acc x : Account).m_uid = (w.acc x).m_uid
    split
    · next hx => rw [hf, hx]
    · rfl
  | channel ch => rfl

theorem ids_consult {α : Type} [Gadget α] (e : QIRCEvent) (cancelled : α → Bool) (ev : α) :
    (w.consult e cancelled ev).2.ids = w.ids := by
  have hevent : (w.event e ev).2.ids = w.ids := rfl
  unfold consult
  split
  · split <;> next he => rw [he] at hevent; exact hevent
  · rfl

theorem ids_postAll (accs : List AccId) (q : QueuedCall) : (postAll accs q w).ids = w.ids :=
  foldl_keeps (v := ids) (f := fun w a => (w.acc a).connections.foldl (fun w conn => w.post conn q) w)
    (fun w a => foldl_keeps (v := ids) (f := fun w conn => w.post conn q) (fun _ _ => rfl)
      (w.acc a).connections w) accs w

end

end World

namespace Account
open World Ctx

section
variable {env : Env} {w : World} {a : AccId}

theorem setNick_ids {event : QEventNickChange} :
    Sat (fun _ => True) (fun r => r.2.ids = w.ids) (setNick a event w) := by
  unfold setNick
  have hhook := w.ids_consult .NICK_CHANGE (·.cancel) event
  cases hc : w.consult .NICK_CHANGE (·.cancel) event with
  | mk r w1 =>
    rw [hc] at hhook
    cases r with
    | none => exact hhook
    | some event =>
      dsimp only
      cases hr : renameInRegistry a event w1 with
      | none => exact hhook
      | some p =>
        obtain ⟨self, w2⟩ := p
        have hrename : w2.ids = w1.ids := by
          unfold renameInRegistry at hr
          split at hr
          · cases hr
          · split at hr
            · cases hr
            · dsimp only at hr
              split at hr
              · cases hr
              · cases hr
                exact ids_updAcc _ a fun _ => rfl
        exact Sat.bind_any fun l => (ids_postAll _ _ _).trans (hrename.trans hhook)

theorem ids_merge (source : AccId) : (merge a source w).ids = w.ids := by
  unfold merge
  split
  · rfl
  · have hclear (w1 : World) : (account_remove_cache source (clearConnections source w1)).ids =
        w1.ids := ids_updAcc w1 source (f := fun k => { k with connections := [] }) fun _ => rfl
    refine (hclear _).trans ?_
    exact foldl_keeps (v := ids) (f := fun w conn => add_connection a conn w)
      (fun w conn => ids_updAcc w a fun _ => rfl) _ w

theorem ids_verifyPassword (auth : QEventAuthUser) :
    (verifyPassword env a auth w).2.ids = w.ids := by
  have hevent : (w.event .AUTH_SASL_PLAIN auth).2.ids = w.ids := rfl
  unfold verifyPassword
  split
  · rfl
  · split
    · split <;> next he => rw [he] at hevent; exact hevent
    · rfl

end

end Account

namespace client_connection
open World

section
variable {env : Env} {c : ConnId} {w : World} {args : List Bytes}

theorem handleNICK_ids (hready : (w.conn c).setup_tasks.empty = true) :
    Sat (fun _ => True) (fun w' => w'.ids = w.ids) (handleNICK env c args w) := by
  have hdone : (w.conn c).setup_tasks.has .NICK = false := Flags.not_has_of_empty hready .NICK
  unfold handleNICK
  refine Sat.ite (fun _ => rfl) fun _ => Sat.bind_any fun new_nick => ?_
  refine Sat.ite (fun _ => rfl) fun _ => Sat.ite (fun _ => rfl) fun _ =>
    Sat.ite (fun h => ?_) fun _ => Sat.ite (fun _ => rfl) fun _ => ?_
  · rw [hdone] at h
    cases h
  · unfold changeOwnNick
    refine Sat.ite (fun _ => rfl) fun _ => Sat.bind_any fun m_account => ?_
    refine Account.setNick_ids.bind fun r hr => ?_
    show World.ids (if r.1 then r.2 else reply_num env c 433 new_nick r.2) = _
    split <;> exact hr

theorem ids_authenticate (username password : Bytes) :
    (authenticate env c username password w).ids = w.ids := by
  unfold authenticate
  split
  · rfl
  · next account _ =>
    have hcheck (auth : QEventAuthUser) : (Account.verifyPassword env account auth w).2.ids = w.ids :=
      Account.ids_verifyPassword auth
    replace hcheck := hcheck { username := username, password := password, ip := (w.conn c).ip }
    dsimp only
    cases hv : Account.verifyPassword env account
        { username := username, password := password, ip := (w.conn c).ip } w with
    | mk auth w1 =>
      rw [hv] at hcheck
      dsimp only
      split
      · exact hcheck
      · refine Eq.trans ?_ hcheck
        unfold login
        cases (w1.conn c).m_account with
        | none => rfl
        | some m_account =>
          have hmerge := Account.ids_merge (w := w1) (a := account) m_account
          exact hmerge

theorem handleAUTHENTICATE_ids :
    Sat (fun _ => True) (fun w' => w'.ids = w.ids) (handleAUTHENTICATE env c args w) := by
  unfold handleAUTHENTICATE
  refine Sat.ite (fun _ => rfl) fun _ => Sat.bind_any fun arg => Sat.ite (fun _ => rfl) fun _ => ?_
  refine Sat.ite (fun _ => rfl) fun _ => Sat.bind_any fun username => Sat.bind_any fun password => ?_
  exact ids_authenticate username password

end

end client_connection

end Chatripper
