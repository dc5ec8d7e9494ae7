import Mathlib
import Chatripper.Irc.Replies

/-!
# `Ctx` registries and `Account`

The registries map names, uuids and nicks to accounts.  `Account` is what a client registers as or
logs in to: checking a password, changing the nick, sending a private message, losing a connection
and taking over the connections of another account.
-/

namespace Chatripper
open ByteStr Utf8 Outcome

/-! ## registries -/

namespace Ctx

def irc_nick_get (w : World) (nick : Bytes) : Option AccId := w.ctx.irc_nicks[nick]?

def irc_nicks_remove_cache (nick : Bytes) (w : World) : World :=
  w.updCtx fun x => { x with irc_nicks := x.irc_nicks.erase nick }

def irc_nicks_insert_cache (nick : Bytes) (a : AccId) (w : World) : World :=
  w.updCtx fun x => { x with irc_nicks := x.irc_nicks.insert nick a }

def account_username_exists (w : World) (username : Bytes) : Bool :=
  w.ctx.accounts_lookup_name.contains username

def account_insert_cache (a : AccId) (w : World) : World :=
  w.updCtx fun x =>
    { x with
      accounts := x.accounts.insert a
      accounts_lookup_uuid := x.accounts_lookup_uuid.insert (w.acc a).m_uid a
      accounts_lookup_name :=
        if (w.acc a).m_name = [] then x.accounts_lookup_name
        else x.accounts_lookup_name.insert (w.acc a).m_name a }

def account_remove_cache (a : AccId) (w : World) : World :=
  w.updCtx fun x =>
    { x with
      accounts := x.accounts.erase a
      accounts_lookup_uuid := x.accounts_lookup_uuid.erase (w.acc a).m_uid
      accounts_lookup_name :=
        if (w.acc a).m_name = [] then x.accounts_lookup_name
        else x.accounts_lookup_name.erase (w.acc a).m_name }

end Ctx

/-- calls posted to every connection of every listed account -/
def postAll (accs : List AccId) (q : QueuedCall) (w : World) : World :=
  accs.foldl (fun w a => (w.acc a).connections.foldl (fun w conn => w.post conn q) w) w

/-- what `postAll` does is append to the queue -/
theorem postAll_eq (accs : List AccId) (q : QueuedCall) (w : World) :
    postAll accs q w =
      { w with queue := w.queue ++
          (accs.flatMap fun a => (w.acc a).connections).map fun conn => (conn, q) } := by
  have hconns (l : List ConnId) (w : World) : l.foldl (fun w conn => w.post conn q) w =
      { w with queue := w.queue ++ l.map fun conn => (conn, q) } := by
    induction l generalizing w with
    | nil => simp
    | cons d l ih =>
      rw [List.foldl_cons, ih]
      show { w with queue := (w.queue ++ [(d, q)]) ++ _ } = _
      rw [List.append_assoc, List.singleton_append, List.map_cons]
  unfold postAll
  induction accs generalizing w with
  | nil => simp
  | cons m accs ih =>
    rw [List.foldl_cons, ih, hconns]
    show { w with queue := (w.queue ++ _) ++ _ } = _
    rw [List.append_assoc, ← List.map_append, List.flatMap_cons]

namespace Account
open Ctx

def is_logged_in (w : World) (a : AccId) : Bool := (w.acc a).m_name != []

def get_by_uid (w : World) (uid : Uuid) : Option AccId := w.ctx.accounts_lookup_uuid[uid]?

def get_by_name (w : World) (name : Bytes) : Option AccId := w.ctx.accounts_lookup_name[name]?

/-- `create`, then `setNickByForce`, `setRandomUID` and `account_insert_cache` -/
def create (nick : Bytes) (w : World) : AccId × World :=
  let a := w.nextAcc
  let w := { w with nextAcc := w.nextAcc + 1, nextUuid := w.nextUuid + 1 }.updAcc a fun _ =>
    { m_nick := nick, m_uid := w.nextUuid }
  (a, account_insert_cache a w)

def verifyPassword (env : Env) (a : AccId) (auth : QEventAuthUser) (w : World) :
    QEventAuthUser × World :=
  if auth.password = [] ∨ (w.acc a).m_password = [] then
    ({ auth with reason := ascii "password cannot be empty", cancel := true }, w)
  else if w.snakepit.hasEventHandler .AUTH_SASL_PLAIN then
    match w.event .AUTH_SASL_PLAIN auth with
    | (some resPtr, w) => (resPtr, w)
    | (none, w) => ({ auth with reason := ascii "application error", cancel := true }, w)
  else
    let cancel := !env.validatePassword auth.password (w.acc a).m_password
    ({ auth with cancel := cancel, reason := if cancel then ascii "bad password" else [] }, w)

/-- members of the listed channels; a null channel pointer is followed -/
def channelMembers (w : World) (l : List (Option ChanId)) (s : QSet AccId) :
    Except Fault (QSet AccId) :=
  l.foldlM (fun s channel => do
    let ch ← deref .nullChannel channel
    .ok ((w.chan ch).m_members.foldl (fun s acc => s.insert acc) s)) s

/-- the registry part of `setNick`: refuse a nick of someone else, else move the entry -/
def renameInRegistry (a : AccId) (event : QEventNickChange) (w : World) : Option (AccId × World) :=
  if event.new_nick = [] then none
  else match get_by_uid w (w.acc a).m_uid with
    | none => none
    | some self =>
      let nick_lower := toLower event.new_nick
      if irc_nick_get w nick_lower ≠ none ∧ irc_nick_get w nick_lower ≠ some self then none
      else
        let w := irc_nicks_insert_cache nick_lower self (irc_nicks_remove_cache event.old_nick w)
        some (self, w.updAcc a fun k => { k with m_nick := event.new_nick })

def setNick (a : AccId) (event : QEventNickChange) (w : World) : Except Fault (Bool × World) :=
  match w.consult .NICK_CHANGE (·.cancel) event with
  | (none, w) => .ok (false, w)
  | (some event, w) =>
    match renameInRegistry a event w with
    | none => .ok (false, w)
    | some (self, w) => do
      let l ← channelMembers w (w.acc a).channels.values ((∅ : QSet AccId).insert self)
      .ok (true, postAll l.toList (.change_nick event) w)

/-- every connection of an account is sent a message -/
def messageAll (a : AccId) (message : QEventMessage) (w : World) : Except Fault World :=
  (w.acc a).connections.foldlM (fun w _conn => client_connection.message _conn message w) w

def message (a : AccId) (message : QEventMessage) (w : World) : Except Fault World :=
  let ev_type := if message.tag_msg then QIRCEvent.TAG_MSG else .PRIVATE_MSG
  match w.consult ev_type (·.cancel) message with
  | (none, w) => .ok w
  | (some message, w) => do
    let dest ← deref .nullAccount message.dest
    let w ← messageAll dest message w
    messageAll a message w

def onConnectionDisconnected (a : AccId) (conn : ConnId) (nick_to_delete : Bytes) (w : World) :
    World :=
  let w := w.updAcc a fun k => { k with connections := k.connections.filter (· != conn) }
  if is_logged_in w a then w
  else
    let w := irc_nicks_remove_cache nick_to_delete w
    match get_by_uid w (w.acc a).m_uid with
    | none => w
    | some self => account_remove_cache self w

def add_connection (a : AccId) (conn : ConnId) (w : World) : World :=
  w.updAcc a fun k => { k with connections := k.connections ++ [conn] }

def clearConnections (a : AccId) (w : World) : World :=
  w.updAcc a fun k => { k with connections := [] }

/-- account `from` is consumed and its connections adopted -/
def merge (a source : AccId) (w : World) : World :=
  if is_logged_in w source then w
  else
    let w := (w.acc source).connections.foldl (fun w conn => add_connection a conn w) w
    account_remove_cache source (clearConnections source w)

/-! ## what these leave alone -/

theorem reg_postAll (accs : List AccId) (q : QueuedCall) (w : World) :
    (postAll accs q w).reg = w.reg :=
  foldl_keeps (v := World.reg)
    (fun w _ => foldl_keeps (v := World.reg) (fun w conn => w.reg_post conn q) _ w) accs w

theorem content_postAll (accs : List AccId) (q : QueuedCall) (w : World) :
    (postAll accs q w).content = w.content :=
  foldl_keeps (v := World.content)
    (fun w _ => foldl_keeps (v := World.content) (fun w conn => w.content_post conn q) _ w) accs w

theorem reg_verifyPassword (env : Env) (a : AccId) (auth : QEventAuthUser) (w : World) :
    (verifyPassword env a auth w).2.reg = w.reg := by
  unfold verifyPassword
  split
  · rfl
  · split
    · have h := w.reg_event .AUTH_SASL_PLAIN auth
      split <;> next he => rw [he] at h; exact h
    · rfl

theorem content_verifyPassword (env : Env) (a : AccId) (auth : QEventAuthUser) (w : World) :
    (verifyPassword env a auth w).2.content = w.content := by
  unfold verifyPassword
  split
  · rfl
  · split
    · have h := w.content_event .AUTH_SASL_PLAIN auth
      split <;> next he => rw [he] at h; exact h
    · rfl

theorem out_verifyPassword (env : Env) (a : AccId) (auth : QEventAuthUser) (w : World) :
    (verifyPassword env a auth w).2.out = w.out := by
  unfold verifyPassword
  split
  · rfl
  · split
    · split <;> next he => exact congrArg (fun p => p.2.out) he.symm
    · rfl

theorem channelMembers_sat (w : World) (l : List (Option ChanId)) (s : QSet AccId) :
    Sat (fun e => e = .nullChannel) (fun _ => True) (channelMembers w l s) := by
  refine Sat.foldlM trivial fun s ch _ _ => ?_
  cases ch with
  | none => exact rfl
  | some ch => exact trivial

/-- the event that a hook lets through has the addressees it came with -/
theorem consult_addressees {e : QIRCEvent} {ev ev' : QEventMessage} {w : World}
    (h : (w.consult e (·.cancel) ev).1 = some ev') : ev'.addressees = ev.addressees :=
  World.consult_keeps message_addressees h

theorem messageAll_sat {a : AccId} {ev : QEventMessage} {w : World}
    (hto : ev.channel ≠ none ∨ ev.dest ≠ none) :
    Sat (client_connection.OnlyWithout ev.account) (fun w' => w'.reg = w.reg)
      (messageAll a ev w) :=
  Sat.foldlM rfl fun _ _ _ h =>
    (client_connection.message_sat hto).mono (fun _ he => he) fun _ h' => h'.trans h

theorem message_sat {a : AccId} (ev : QEventMessage) {w : World} (hto : ev.dest ≠ none) :
    Sat (client_connection.OnlyWithout ev.account) (fun w' => w'.reg = w.reg)
      (message a ev w) := by
  unfold message
  dsimp only
  generalize (if ev.tag_msg then QIRCEvent.TAG_MSG else .PRIVATE_MSG) = e
  have hreg := w.reg_consult e (·.cancel) ev
  have hkeep := @consult_addressees e ev
  cases hc : w.consult e (·.cancel) ev with
  | mk r w1 =>
    rw [hc] at hreg
    cases r with
    | none => exact hreg
    | some ev' =>
      have had := hkeep (congrArg Prod.fst hc)
      have hacc : ev'.account = ev.account := congrArg Prod.fst had
      have hdest : ev'.dest = ev.dest := congrArg (·.2.1) had
      cases hd : ev'.dest with
      | none => exact absurd (hdest.symm.trans hd) hto
      | some d =>
        have hto' : ev'.channel ≠ none ∨ ev'.dest ≠ none := Or.inr (by rw [hd]; exact nofun)
        dsimp only
        rw [hd, ← hacc]
        show Sat _ _ (messageAll d ev' w1 >>= fun w => messageAll a ev' w)
        exact (messageAll_sat hto').bind fun _ h2 =>
          (messageAll_sat hto').mono (fun _ he => he) fun _ h3 => h3.trans (h2.trans hreg)

end Account

end Chatripper
