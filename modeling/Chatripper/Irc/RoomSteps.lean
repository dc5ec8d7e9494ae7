import Mathlib
import Chatripper.Core.Rooms
import Chatripper.Irc.Worker

/-!
# The server moves through the rooms

The operations of channels and connections on the rooms are those of the same name on `Rooms`, and
every other function of the server leaves the rooms alone.
-/

namespace Chatripper
open ByteStr Utf8 Outcome

namespace World

section
variable (w : World)

theorem rooms_updConn {c : ConnId} {f : Conn → Conn}
    (h : (f (w.conn c)).channels = (w.conn c).channels ∧
      (f (w.conn c)).channel_members = (w.conn c).channel_members) :
    (w.updConn c f).rooms = w.rooms := by
  have hsame (x : ConnId) : ((w.updConn c f).conn x).channels = (w.conn x).channels ∧
      ((w.updConn c f).conn x).channel_members = (w.conn x).channel_members := by
    rw [updConn_conn]
    by_cases hx : x = c
    · rw [if_pos hx, hx]
      exact h
    · rw [if_neg hx]
      exact ⟨rfl, rfl⟩
  ext1
  case entered =>
    funext x n
    exact congrArg (fun m : QMap Bytes ChanId => m[n]?) (hsame x).1
  case roster =>
    funext x p b
    exact congrArg (fun m : QMap (Option ChanId) (QSet AccId) => (m.getD p ∅).contains b) (hsame x).2
  all_goals rfl

theorem rooms_updAcc {a : AccId} {f : Account → Account}
    (h : (f (w.acc a)).channels = (w.acc a).channels) : (w.updAcc a f).rooms = w.rooms := by
  ext1
  case listed =>
    funext x
    show (if x = a then f (w.acc a) else w.acc x).channels = (w.acc x).channels
    by_cases hx : x = a
    · rw [if_pos hx, h, hx]
    · rw [if_neg hx]
  all_goals rfl

theorem rooms_updChan {ch : ChanId} {f : Channel → Channel}
    (h : (f (w.chan ch)).m_name = (w.chan ch).m_name ∧
      (f (w.chan ch)).m_members = (w.chan ch).m_members) : (w.updChan ch f).rooms = w.rooms := by
  have hsame (x : ChanId) : ((w.updChan ch f).chan x).m_name = (w.chan x).m_name ∧
      ((w.updChan ch f).chan x).m_members = (w.chan x).m_members := by
    rw [updChan_chan]
    by_cases hx : x = ch
    · rw [if_pos hx, hx]
      exact h
    · rw [if_neg hx]
      exact ⟨rfl, rfl⟩
  ext1
  case name => exact funext fun x => (hsame x).1
  case members => exact funext fun x => (hsame x).2
  all_goals rfl

@[simp] theorem rooms_emit (c : ConnId) (data : Bytes) : (w.emit c data).rooms = w.rooms := rfl
@[simp] theorem rooms_log (t : Trace) : (w.log t).rooms = w.rooms := rfl
@[simp] theorem rooms_exec (s : SqlStmt) : (w.exec s).rooms = w.rooms := rfl

@[simp] theorem rooms_event {α : Type} [Gadget α] (e : QIRCEvent) (ev : α) :
    (w.event e ev).2.rooms = w.rooms := rfl

@[simp] theorem rooms_consult {α : Type} [Gadget α] (e : QIRCEvent) (cancelled : α → Bool) (ev : α) :
    (w.consult e cancelled ev).2.rooms = w.rooms := by
  unfold consult
  split
  · have h := rooms_event w e ev
    cases hr : w.event e ev with
    | mk r w' =>
      rw [hr] at h
      cases r with
      | none => exact h
      | some ev' => exact h
  · rfl

/-- a posted call that is no part is not about rooms -/
theorem rooms_post {c : ConnId} {q : QueuedCall} (h : ∀ x, partFor x (c, q) = none) :
    (w.post c q).rooms = w.rooms := by
  ext1
  case pending =>
    funext x
    show (w.queue ++ [(c, q)]).filterMap (partFor x) = w.queue.filterMap (partFor x)
    rw [List.filterMap_append, List.filterMap_cons, h, List.filterMap_nil, List.append_nil]
  all_goals rfl

theorem rooms_postAll {q : QueuedCall} (h : ∀ c x, partFor x (c, q) = none) (accs : List AccId) :
    (postAll accs q w).rooms = w.rooms :=
  foldl_keeps (v := rooms)
    (fun w _ => foldl_keeps (v := rooms) (fun w conn => w.rooms_post (h conn)) _ w) accs w

end

end World

/-! ## what a connection is sent -/

namespace client_connection
open World

section
variable (env : Env) (c : ConnId) (w : World)

@[simp] theorem rooms_send_raw (line : Bytes) : (send_raw env c line w).rooms = w.rooms := rfl
@[simp] theorem rooms_reply_num (code : Nat) (text : Bytes) :
    (reply_num env c code text w).rooms = w.rooms := rfl
@[simp] theorem rooms_reply_self (command args : Bytes) :
    (reply_self c command args w).rooms = w.rooms := rfl
@[simp] theorem rooms_forceDisconnect : (forceDisconnect c w).rooms = w.rooms :=
  w.rooms_updConn ⟨rfl, rfl⟩

@[simp] theorem rooms_joinReplies (ch : ChanId) (account_nick : Bytes) :
    (joinReplies env c ch account_nick w).rooms = w.rooms := by
  unfold joinReplies
  dsimp only
  rw [rooms_send_raw, rooms_send_raw]
  split <;> rfl

@[simp] theorem rooms_channel_rename (event : QEventChannelRename) :
    (channel_rename c event w).rooms = w.rooms := by
  unfold channel_rename
  split
  · rfl
  · dsimp only
    split <;> rfl

@[simp] theorem rooms_metadataLines (event : QEventMetadata) (lead targetName : Bytes)
    (keysToSend : List Bytes) :
    (metadataLines c event lead targetName keysToSend w).rooms = w.rooms := by
  refine foldl_keeps (v := rooms) (fun w key => ?_) keysToSend w
  split
  · rfl
  · split <;> rfl

@[simp] theorem rooms_metadata (event : QEventMetadata) :
    (metadata env c event w).rooms = w.rooms := by
  unfold metadata
  dsimp only
  split
  · rfl
  · refine (foldl_keeps (v := rooms) (fun w kv => ?_) _ _).trans ?_
    · split <;> rfl
    · split
      · rw [rooms_emit, rooms_metadataLines]
        rfl
      · split
        · rw [rooms_metadataLines]
        · rfl

/-- a roster after one account was put into it -/
theorem roster_insert (m : QMap (Option ChanId) (QSet AccId)) (p q : Option ChanId)
    (s : QSet AccId) (b : AccId) :
    ((m.insert p s).getD q ∅).contains b =
      if q = p then s.contains b else (m.getD q ∅).contains b := by
  rw [Std.ExtTreeMap.getD_insert]
  by_cases h : q = p
  · rw [if_pos h, if_pos (Std.compare_eq_iff_eq.mpr h.symm)]
  · rw [if_neg h, if_neg fun hc => h (Std.compare_eq_iff_eq.mp hc).symm]

theorem roster_erase (m : QMap (Option ChanId) (QSet AccId)) (p q : Option ChanId) (b : AccId) :
    ((m.erase p).getD q ∅).contains b = if q = p then false else (m.getD q ∅).contains b := by
  rw [Std.ExtTreeMap.getD_erase]
  by_cases h : q = p
  · rw [if_pos h, if_pos (Std.compare_eq_iff_eq.mpr h.symm)]
    exact Std.ExtTreeSet.contains_empty
  · rw [if_neg h, if_neg fun hc => h (Std.compare_eq_iff_eq.mp hc).symm]

theorem contains_insert (s : QSet AccId) (a b : AccId) :
    (s.insert a).contains b = (decide (b = a) || s.contains b) := by
  rw [Std.ExtTreeSet.contains_insert]
  congr 1
  rw [Bool.eq_iff_iff, beq_iff_eq, Std.compare_eq_iff_eq, decide_eq_true_iff, eq_comm]

theorem contains_insert_all (l : List AccId) (s : QSet AccId) (b : AccId) :
    (l.foldl (fun s m => s.insert m) s).contains b = (decide (b ∈ l) || s.contains b) := by
  induction l generalizing s with
  | nil => simp
  | cons a l ih =>
    rw [List.foldl_cons, ih, contains_insert, ← Bool.or_assoc]
    congr 1
    simp [Bool.or_comm]

end

section
variable {env : Env} {c : ConnId} {w : World}

theorem message_rooms {ev : QEventMessage} :
    Sat (fun _ => True) (fun w' => w'.rooms = w.rooms) (message c ev w) := by
  unfold message
  refine Sat.bind_any fun target => Sat.bind_any fun pre => ?_
  cases pre with
  | none => exact rfl
  | some p => exact rfl

theorem change_nick_rooms {ev : QEventNickChange} :
    Sat (fun _ => True) (fun w' => w'.rooms = w.rooms) (change_nick c ev w) := by
  unfold change_nick
  dsimp only
  refine Sat.ite (fun _ => Sat.ite (fun _ => rfl) fun _ => rfl) fun _ => ?_
  exact Sat.bind_any fun a => rfl

/-- **A connection is shown a join.** -/
theorem channel_join_rooms {ev : QEventChannelJoin} {ch : ChanId} {a : AccId}
    (hch : ev.channel = some ch) (ha : ev.account = some a) :
    Sat (fun _ => True) (fun w' => w'.rooms = w.rooms.channelJoin w.reg.ties c ch a)
      (channel_join env c ev w) := by
  unfold channel_join Rooms.channelJoin
  rw [hch, ha]
  dsimp only
  by_cases hown : some a ≠ (w.conn c).m_account
  · rw [if_pos hown, if_pos (show some a ≠ w.reg.ties.account c from hown)]
    show World.rooms _ = _
    ext1
    case entered =>
      funext x n
      show (if x = c then addMember (some ch) a (w.conn c) else w.conn x).channels[n]? = _
      by_cases hx : x = c
      · rw [if_pos hx, hx]
        rfl
      · rw [if_neg hx]
        rfl
    case roster =>
      funext x p b
      show ((if x = c then addMember (some ch) a (w.conn c) else w.conn x).channel_members.getD
        p ∅).contains b = (decide (x = c ∧ p = some ch ∧ b = a) || _)
      by_cases hx : x = c
      · rw [if_pos hx, hx]
        show (((w.conn c).channel_members.insert (some ch) _).getD p ∅).contains b = _
        rw [roster_insert, contains_insert]
        by_cases hp : p = some ch
        · rw [if_pos hp, hp]
          simp [World.rooms]
        · rw [if_neg hp]
          simp [hp, World.rooms]
      · rw [if_neg hx]
        simp [hx, World.rooms]
    all_goals rfl
  · rw [if_neg hown, if_neg (show ¬ some a ≠ w.reg.ties.account c from hown)]
    by_cases hin : (w.conn c).channels.contains (w.chan ch).m_name = true
    · rw [if_pos hin, if_pos]
      · exact rfl
      · show ((w.conn c).channels[(w.chan ch).m_name]?).isSome = true
        rw [← Std.ExtTreeMap.contains_eq_isSome_getElem?]
        exact hin
    · rw [if_neg hin, if_neg]
      · show World.rooms _ = _
        rw [rooms_joinReplies, rooms_reply_self]
        ext1
        case entered =>
          funext x n
          show (if x = c then _ else w.conn x : Conn).channels[n]? =
            if x = c ∧ n = (w.chan ch).m_name then some ch else (w.conn x).channels[n]?
          by_cases hx : x = c
          · rw [if_pos hx, hx]
            show ((w.conn c).channels.insert (w.chan ch).m_name ch)[n]? = _
            rw [lookup_insert]
            exact if_congr (by simp) rfl rfl
          · rw [if_neg hx, if_neg fun h => hx h.1]
        case roster =>
          funext x p b
          show ((if x = c then _ else w.conn x : Conn).channel_members.getD p ∅).contains b =
            (decide (x = c ∧ p = some ch ∧ b ∈ (w.chan ch).m_members) ||
              ((w.conn x).channel_members.getD p ∅).contains b)
          by_cases hx : x = c
          · rw [if_pos hx, hx]
            show (((w.conn c).channel_members.insert (some ch) _).getD p ∅).contains b = _
            rw [roster_insert, contains_insert_all]
            by_cases hp : p = some ch
            · rw [if_pos hp, hp]
              simp
            · rw [if_neg hp]
              simp [hp]
          · rw [if_neg hx]
            simp [hx]
        all_goals rfl
      · show ¬ ((w.conn c).channels[(w.chan ch).m_name]?).isSome = true
        rw [← Std.ExtTreeMap.contains_eq_isSome_getElem?]
        exact hin

/-- **A connection is told of a part.** -/
theorem channel_part_rooms {ev : QEventChannelPart} {a : AccId} (ha : ev.account = some a) :
    Sat (fun _ => True) (fun w' => w'.rooms = w.rooms.channelPart w.reg.ties c ev.channel a)
      (channel_part c ev w) := by
  have hforget : (w.updConn c fun k =>
      { k with channel_members := k.channel_members.erase (some ev.channel) }).rooms =
        w.rooms.forget c ev.channel := by
    ext1
    case entered =>
      funext x n
      show (if x = c then _ else w.conn x : Conn).channels[n]? = _
      by_cases hx : x = c
      · rw [if_pos hx, hx]
        rfl
      · rw [if_neg hx]
        rfl
    case roster =>
      funext x p b
      show ((if x = c then _ else w.conn x : Conn).channel_members.getD p ∅).contains b =
        (!decide (x = c ∧ p = some ev.channel) && ((w.conn x).channel_members.getD p ∅).contains b)
      by_cases hx : x = c
      · rw [if_pos hx, hx]
        show (((w.conn c).channel_members.erase _).getD p ∅).contains b = _
        rw [roster_erase]
        by_cases hp : p = some ev.channel
        · simp [hp]
        · simp [hp]
      · rw [if_neg hx]
        simp [hx]
    all_goals rfl
  unfold channel_part Rooms.channelPart
  dsimp only
  rw [ha]
  show Sat _ _ (deref .nullAccount (w.conn c).m_account >>= fun me => _)
  have hties : w.reg.ties.account c = (w.conn c).m_account := rfl
  rw [hties]
  cases (w.conn c).m_account with
  | none => exact trivial
  | some me =>
    show Sat _ _ (if (w.acc a).m_uid = (w.acc me).m_uid then _ else _)
    have huid : (w.reg.ties.uid a = w.reg.ties.uid me) = ((w.acc a).m_uid = (w.acc me).m_uid) := rfl
    dsimp only
    by_cases hown : (w.acc a).m_uid = (w.acc me).m_uid
    · rw [if_pos hown, if_pos (huid.mpr hown)]
      show World.rooms _ = _
      rw [rooms_reply_self]
      unfold Rooms.exit
      rw [← hforget]
      ext1
      case entered =>
        funext x n
        show (if x = c then _ else w.conn x : Conn).channels[n]? =
          if x = c ∧ n = (w.chan ev.channel).m_name then none else (w.conn x).channels[n]?
        by_cases hx : x = c
        · rw [if_pos hx, hx]
          show ((w.conn c).channels.erase (w.chan ev.channel).m_name)[n]? = _
          rw [lookup_erase]
          exact if_congr (by simp) rfl rfl
        · rw [if_neg hx, if_neg fun h => hx h.1]
      case roster =>
        funext x p b
        show ((if x = c then _ else w.conn x : Conn).channel_members.getD p ∅).contains b =
          ((if x = c then _ else w.conn x : Conn).channel_members.getD p ∅).contains b
        by_cases hx : x = c
        · rw [if_pos hx, if_pos hx]
        · rw [if_neg hx, if_neg hx]
      all_goals rfl
    · rw [if_neg hown, if_neg (fun h => hown (huid.mp h))]
      have hknown : w.rooms.roster c (some ev.channel) a =
          ((w.conn c).channel_members.getD (some ev.channel) ∅).contains a := rfl
      rw [hknown]
      refine Sat.ite (fun hk => ?_) fun hk => ?_
      · rw [if_pos hk]
        exact hforget
      · rw [if_neg hk]
        exact rfl

end

end client_connection

/-! ## accounts and channels -/

namespace Account
open World

theorem messageAll_rooms {a : AccId} {ev : QEventMessage} {w : World} :
    Sat (fun _ => True) (fun w' => w'.rooms = w.rooms) (messageAll a ev w) :=
  Sat.foldlM rfl fun _ _ _ h => client_connection.message_rooms.mono (fun _ he => he)
    fun _ h' => h'.trans h

theorem message_rooms {a : AccId} {ev : QEventMessage} {w : World} :
    Sat (fun _ => True) (fun w' => w'.rooms = w.rooms) (message a ev w) := by
  unfold message
  dsimp only
  generalize (if ev.tag_msg then QIRCEvent.TAG_MSG else .PRIVATE_MSG) = e
  have hrooms := w.rooms_consult e (·.cancel) ev
  cases hc : w.consult e (·.cancel) ev with
  | mk r w1 =>
    rw [hc] at hrooms
    cases r with
    | none => exact hrooms
    | some ev' =>
      refine Sat.bind_any fun d => messageAll_rooms.bind fun w2 h2 => ?_
      exact messageAll_rooms.mono (fun _ he => he) fun w3 h3 => h3.trans (h2.trans hrooms)

theorem setNick_rooms {a : AccId} {ev : QEventNickChange} {w : World} :
    Sat (fun _ => True) (fun r => r.2.rooms = w.rooms) (setNick a ev w) := by
  unfold setNick
  have hrooms := w.rooms_consult .NICK_CHANGE (·.cancel) ev
  cases hc : w.consult .NICK_CHANGE (·.cancel) ev with
  | mk r w1 =>
    rw [hc] at hrooms
    cases r with
    | none => exact hrooms
    | some ev' =>
      dsimp only
      cases hr : renameInRegistry a ev' w1 with
      | none => exact hrooms
      | some p =>
        obtain ⟨self, w2⟩ := p
        have hrename : w2.rooms = w1.rooms := by
          unfold renameInRegistry at hr
          split at hr
          · cases hr
          · split at hr
            · cases hr
            · dsimp only at hr
              split at hr
              · cases hr
              · cases hr
                exact rooms_updAcc (f := fun k => { k with m_nick := ev'.new_nick }) _ rfl
        exact Sat.bind_any fun l =>
          (rooms_postAll _ (fun _ _ => rfl) _).trans (hrename.trans hrooms)

theorem rooms_verifyPassword (env : Env) (a : AccId) (auth : QEventAuthUser) (w : World) :
    (verifyPassword env a auth w).2.rooms = w.rooms := by
  unfold verifyPassword
  split
  · rfl
  · split
    · have h := w.rooms_event .AUTH_SASL_PLAIN auth
      split <;> next he => rw [he] at h; exact h
    · rfl

theorem rooms_onConnectionDisconnected (a : AccId) (conn : ConnId) (nick : Bytes) (w : World) :
    (onConnectionDisconnected a conn nick w).rooms = w.rooms := by
  have hleave : (w.updAcc a fun k =>
      { k with connections := k.connections.filter (· != conn) }).rooms = w.rooms :=
    rooms_updAcc (f := fun k => { k with connections := k.connections.filter (· != conn) }) w rfl
  unfold onConnectionDisconnected
  dsimp only
  split
  · exact hleave
  · split <;> exact hleave

theorem rooms_add_connection (a : AccId) (conn : ConnId) (w : World) :
    (add_connection a conn w).rooms = w.rooms :=
  rooms_updAcc (f := fun k => { k with connections := k.connections ++ [conn] }) w rfl

theorem rooms_merge (a source : AccId) (w : World) : (merge a source w).rooms = w.rooms := by
  unfold merge
  split
  · rfl
  · have hcache (w : World) : (Ctx.account_remove_cache source w).rooms = w.rooms := rfl
    rw [hcache]
    refine (rooms_updAcc (f := fun k => { k with connections := [] }) _ rfl).trans ?_
    exact foldl_keeps (v := rooms) (fun w conn => rooms_add_connection a conn w) _ w

/-- a new account is in no channel -/
theorem rooms_create (nick : Bytes) (w : World) :
    (create nick w).2.rooms = w.rooms.newAcc w.nextAcc := by
  ext1
  case listed =>
    funext x
    show (if x = w.nextAcc then _ else w.acc x : Account).channels = _
    by_cases hx : x = w.nextAcc
    · rw [if_pos hx]
      exact (if_pos hx).symm
    · rw [if_neg hx]
      exact (if_neg hx).symm
  all_goals rfl

end Account

namespace Channel
open World client_connection

theorem rooms_get (w : World) (n : Bytes) : get w n = w.rooms.index n := rfl

theorem get_or_create_rooms (n : Bytes) (w : World) :
    (∃ ch, w.rooms.index n = some ch ∧ get_or_create n w = (ch, w)) ∨
      (w.rooms.index n = none ∧ ∃ w', get_or_create n w = (w.nextChan, w') ∧
        w'.rooms = w.rooms.create n ∧ w'.reg = w.reg) := by
  unfold get_or_create
  rw [rooms_get]
  cases h : w.rooms.index n with
  | some ch => exact Or.inl ⟨ch, rfl, rfl⟩
  | none =>
    refine Or.inr ⟨rfl, _, rfl, ?_, rfl⟩
    ext1
    case name =>
      funext x
      show (if x = w.nextChan then _ else w.chan x : Channel).m_name = _
      by_cases hx : x = w.nextChan
      · rw [if_pos hx]
        exact (if_pos hx).symm
      · rw [if_neg hx]
        exact (if_neg hx).symm
    case members =>
      funext x
      show (if x = w.nextChan then _ else w.chan x : Channel).m_members = _
      by_cases hx : x = w.nextChan
      · rw [if_pos hx]
        exact (if_pos hx).symm
      · rw [if_neg hx]
        exact (if_neg hx).symm
    case index =>
      funext x
      exact lookup_insert _ _ _ _
    all_goals rfl

theorem rooms_enlist (ch : ChanId) (a : AccId) (w : World) :
    (enlist ch (get w (w.chan ch).m_name) a w).rooms =
      { w.rooms with toHalls := w.rooms.toHalls.enlist ch a } := by
  ext1
  case members =>
    funext x
    show (if x = ch then _ else w.chan x : Channel).m_members = if x = ch then _ else _
    by_cases hx : x = ch
    · rw [if_pos hx, if_pos hx]
      rfl
    · rw [if_neg hx, if_neg hx]
      rfl
  case name =>
    funext x
    show (if x = ch then _ else w.chan x : Channel).m_name = _
    by_cases hx : x = ch
    · rw [if_pos hx, hx]
      rfl
    · rw [if_neg hx]
      rfl
  case listed =>
    funext x
    show (if x = a then _ else w.acc x : Account).channels = if x = a then _ else _
    by_cases hx : x = a
    · rw [if_pos hx, if_pos hx]
      rfl
    · rw [if_neg hx, if_neg hx]
      rfl
  all_goals rfl

theorem rooms_addMember (ch : ChanId) (a : AccId) (w : World) :
    (addMember ch (get w (w.chan ch).m_name) a w).rooms =
      { w.rooms with toHalls := w.rooms.toHalls.addMember ch a } := by
  unfold addMember Halls.addMember
  have hmem : w.rooms.members ch = (w.chan ch).m_members := rfl
  rw [hmem]
  split
  · rfl
  · exact rooms_enlist ch a w

section
variable {env : Env} {ch : ChanId} {a : AccId} {ev : QEventChannelJoin} {w : World}
  (hch : ev.channel = some ch) (ha : ev.account = some a)
include hch ha

theorem channel_join_both {c : ConnId} :
    Sat (fun _ => True) (fun w' => w'.reg = w.reg ∧
      w'.rooms = w.rooms.channelJoin w.reg.ties c ch a) (channel_join env c ev w) :=
  (channel_join_sat.and (channel_join_rooms hch ha)).mono (fun _ _ => trivial) fun _ h => h

theorem joinOwn_rooms :
    Sat (fun _ => True) (fun w' => w'.reg = w.reg ∧ w'.rooms = w.rooms.joinOwn w.reg.ties ch a)
      (joinOwn env ch a ev w) := by
  refine Sat.foldlM_view (I := fun w' => w'.reg = w.reg) (v := rooms) rfl fun w1 c _ h1 => ?_
  have hin : (w1.conn c).channels.contains (w1.chan ch).m_name =
      (w1.rooms.entered c (w1.rooms.name ch)).isSome :=
    Std.ExtTreeMap.contains_eq_isSome_getElem?
  rw [hin]
  refine Sat.ite (fun hc => ⟨h1, ?_⟩) fun hc => ?_
  · rw [if_pos hc]
  · rw [if_neg hc]
    refine (channel_join_both hch ha).mono (fun _ he => he) fun w2 h2 => ⟨h2.1.trans h1, ?_⟩
    rw [← h1]
    exact h2.2

theorem joinNotify_rooms {chan_ptr : Option ChanId} {c : ConnId} :
    Sat (fun _ => True) (fun w' => w'.reg = w.reg ∧
      w'.rooms = w.rooms.joinNotify w.reg.ties chan_ptr ch a c)
      (joinNotify env chan_ptr a ev w c) := by
  unfold joinNotify Rooms.joinNotify
  dsimp only
  -- a missing key is put into the map with an empty roster
  have htouch {known : QSet AccId} (hknown : known = (w.conn c).channel_members.getD chan_ptr ∅) :
      (w.updConn c fun k =>
        { k with channel_members := k.channel_members.insert chan_ptr known }).rooms = w.rooms := by
    rw [hknown]
    ext1
    case entered =>
      funext x n
      show (if x = c then _ else w.conn x : Conn).channels[n]? = _
      by_cases hx : x = c
      · rw [if_pos hx, hx]
        rfl
      · rw [if_neg hx]
        rfl
    case roster =>
      funext x p b
      show ((if x = c then _ else w.conn x : Conn).channel_members.getD p ∅).contains b = _
      by_cases hx : x = c
      · rw [if_pos hx, hx]
        show (((w.conn c).channel_members.insert chan_ptr _).getD p ∅).contains b = _
        rw [roster_insert]
        by_cases hp : p = chan_ptr
        · rw [if_pos hp, hp]
          rfl
        · rw [if_neg hp]
          rfl
      · rw [if_neg hx]
        rfl
    all_goals rfl
  have hreg (known : QSet AccId) : (w.updConn c fun k =>
      { k with channel_members := k.channel_members.insert chan_ptr known }).reg = w.reg :=
    w.reg_updConn rfl
  have hknown : ((w.conn c).channel_members.getD chan_ptr ∅).contains a =
      w.rooms.roster c chan_ptr a := rfl
  rw [hknown]
  refine Sat.ite (fun hk => ⟨hreg _, ?_⟩) fun hk => ?_
  · rw [if_pos hk]
    exact htouch rfl
  · rw [if_neg hk]
    refine (channel_join_both hch ha).mono (fun _ he => he) fun w2 h2 => ⟨h2.1.trans (hreg _), ?_⟩
    rw [h2.2, htouch rfl, hreg]

/-- the part of a join after its hook -/
theorem joined_rooms {chan_ptr : Option ChanId} (hptr : chan_ptr = w.rooms.index (w.rooms.name ch)) :
    Sat (fun _ => True) (fun w' => w'.rooms = w.rooms.join w.reg.ties ch a)
      (do
        let account ← deref .nullAccount ev.account
        let w ← joinOwn env ch account ev (addMember ch chan_ptr account w)
        (w.chan ch).m_members.foldlM (fun w member =>
          if (w.acc member).m_uid = (w.acc account).m_uid then .ok w
          else (w.acc member).connections.foldlM (joinNotify env chan_ptr account ev) w) w) := by
  have hadd := rooms_addMember ch a w
  have hget : get w (w.chan ch).m_name = chan_ptr := by
    rw [hptr]
    rfl
  rw [hget] at hadd
  rw [ha]
  show Sat _ _ (joinOwn env ch a ev (addMember ch chan_ptr a w) >>= fun w => _)
  refine (joinOwn_rooms hch ha).bind fun w1 h1 => ?_
  obtain ⟨hreg1, hrooms1⟩ := h1
  rw [reg_addMember] at hreg1 hrooms1
  rw [hadd] at hrooms1
  have hloop : Sat (fun _ => True) (fun w' => w'.reg = w.reg ∧
      w'.rooms = (w1.chan ch).m_members.foldl (Rooms.joinMember w.reg.ties chan_ptr ch a) w1.rooms)
      ((w1.chan ch).m_members.foldlM (fun w member =>
        if (w.acc member).m_uid = (w.acc a).m_uid then .ok w
        else (w.acc member).connections.foldlM (joinNotify env chan_ptr a ev) w) w1) := by
    refine Sat.foldlM_view (I := fun w' => w'.reg = w.reg) (v := rooms) hreg1 fun w2 m _ h2 => ?_
    unfold Rooms.joinMember
    have huid : (w.reg.ties.uid m = w.reg.ties.uid a) = ((w2.acc m).m_uid = (w2.acc a).m_uid) := by
      rw [← h2]
      rfl
    refine Sat.ite (fun hm => ⟨h2, ?_⟩) fun hm => ?_
    · rw [if_pos (huid.mpr hm)]
    · rw [if_neg fun h => hm (huid.mp h)]
      have hconns : (w2.acc m).connections = w.reg.ties.connections m := by
        rw [← h2]
        rfl
      rw [hconns]
      refine Sat.foldlM_view (I := fun w' => w'.reg = w.reg) (v := rooms) h2 fun w3 c _ h3 => ?_
      refine (joinNotify_rooms hch ha).mono (fun _ he => he) fun w4 h4 => ⟨h4.1.trans h3, ?_⟩
      rw [← h3]
      exact h4.2
  refine hloop.mono (fun _ he => he) fun w2 h2 => ?_
  have hmem : (w1.chan ch).m_members = w1.rooms.members ch := rfl
  rw [h2.2, hmem, hrooms1, hptr]
  rfl

end

/-- **A join.**  A hook stops it, or the account joins the rooms. -/
theorem join_rooms {env : Env} {ch : ChanId} {ev : QEventChannelJoin} {w : World}
    (hch : ev.channel = some ch) :
    Sat (fun _ => True) (fun w' => w'.rooms = w.rooms ∧ ev.from_system = false ∨
      ∃ a, ev.account = some a ∧ w'.rooms = w.rooms.join w.reg.ties ch a) (join env ch ev w) := by
  unfold join
  dsimp only
  have hhook : ∃ r w1, (if ev.from_system then (some ev, w)
        else w.consult .CHANNEL_JOIN (·.cancel) ev) = (r, w1) ∧ w1.reg = w.reg ∧
        w1.rooms = w.rooms ∧ (r = none → ev.from_system = false) ∧
        ∀ ev', r = some ev' → ev'.account = ev.account ∧ ev'.channel = ev.channel := by
    by_cases hsys : ev.from_system = true
    · rw [if_pos hsys]
      exact ⟨_, _, rfl, rfl, rfl, nofun, fun ev' h => by cases h; exact ⟨rfl, rfl⟩⟩
    · rw [if_neg hsys]
      refine ⟨_, _, rfl, w.reg_consult _ _ _, w.rooms_consult _ _ _,
        fun _ => Bool.not_eq_true _ ▸ hsys, fun ev' h => ?_⟩
      have hkeep := World.consult_keeps (p := QEventChannelJoin.addressees) join_addressees h
      exact ⟨congrArg Prod.fst hkeep, congrArg Prod.snd hkeep⟩
  obtain ⟨r, w1, he, hreg, hrooms, hnone, hkeep⟩ := hhook
  rw [he]
  cases r with
  | none => exact Or.inl ⟨hrooms, hnone rfl⟩
  | some ev' =>
    obtain ⟨hacc, hchan⟩ := hkeep ev' rfl
    dsimp only
    cases ha : ev.account with
    | none =>
      rw [hacc.trans ha]
      exact trivial
    | some a =>
      refine (joined_rooms (hchan.trans hch) (hacc.trans ha) ?_).mono (fun _ he => he)
        fun w2 h2 => Or.inr ⟨a, rfl, ?_⟩
      · rw [hrooms]
        rfl
      · rw [h2, hrooms, hreg]

/-- what a posted part adds to the calls of a connection -/
theorem pending_postAll {ev : QEventChannelPart} {a : AccId} (ha : ev.account = some a)
    (accs : List AccId) (w : World) :
    (postAll accs (.channel_part ev) w).rooms =
      { w.rooms with
        pending := fun c => w.rooms.pending c ++
          List.replicate ((accs.flatMap w.reg.ties.connections).count c) (ev.channel, a) } := by
  have hpost (d : ConnId) (w : World) : (w.post d (QueuedCall.channel_part ev)).rooms =
      { w.rooms with
        pending := fun c => w.rooms.pending c ++
          List.replicate ([d].count c) (ev.channel, a) } := by
    ext1
    case pending =>
      funext c
      show (w.queue ++ [(d, QueuedCall.channel_part ev)]).filterMap (partFor c) = _
      rw [List.filterMap_append]
      show w.rooms.pending c ++ [(d, QueuedCall.channel_part ev)].filterMap (partFor c) = _
      by_cases hd : d = c
      · simp [partFor, hd, ha]
      · simp [partFor, hd]
    all_goals rfl
  have hconns (l : List ConnId) (w : World) :
      (l.foldl (fun w d => World.post d (.channel_part ev) w) w).rooms =
        { w.rooms with
          pending := fun c => w.rooms.pending c ++
            List.replicate (l.count c) (ev.channel, a) } := by
    induction l generalizing w with
    | nil => simp
    | cons d l ih =>
      rw [List.foldl_cons, ih, hpost]
      ext1
      case pending =>
        funext c
        show (w.rooms.pending c ++ _) ++ _ = _
        rw [List.append_assoc, ← List.replicate_add, ← List.count_append, List.singleton_append]
      all_goals rfl
  unfold postAll
  induction accs generalizing w with
  | nil => simp
  | cons m accs ih =>
    have hreg : ((w.acc m).connections.foldl
        (fun w d => World.post d (.channel_part ev) w) w).reg = w.reg := foldl_keeps (v := reg) (fun w d => w.reg_post d _) _ w
    rw [List.foldl_cons, ih, hconns, hreg]
    ext1
    case pending =>
      funext c
      show (w.rooms.pending c ++ _) ++ _ = _
      rw [List.append_assoc, ← List.replicate_add, ← List.count_append]
      rfl
    all_goals rfl

/-- **A part.**  It is refused, or the account leaves the rooms. -/
theorem part_rooms (ch : ChanId) (ev : QEventChannelPart) (w : World) (hch : ev.channel = ch) :
    ((part ch ev w).1 = false ∧ (part ch ev w).2.rooms = w.rooms) ∨
      ∃ a, ev.account = some a ∧ a ∈ w.rooms.members ch ∧ (part ch ev w).1 = true ∧
        (part ch ev w).2.rooms = w.rooms.part w.reg.ties ch a := by
  unfold part
  have hhook : ∃ r w1, (if ev.from_system then (some ev, w)
        else w.consult .CHANNEL_PART (·.cancel) ev) = (r, w1) ∧ w1.reg = w.reg ∧
        w1.rooms = w.rooms ∧
        ∀ ev', r = some ev' → ev'.account = ev.account ∧ ev'.channel = ev.channel := by
    by_cases hsys : ev.from_system = true
    · rw [if_pos hsys]
      exact ⟨_, _, rfl, rfl, rfl, fun ev' h => by cases h; exact ⟨rfl, rfl⟩⟩
    · rw [if_neg hsys]
      refine ⟨_, _, rfl, w.reg_consult _ _ _, w.rooms_consult _ _ _, fun ev' h => ?_⟩
      have hkeep := World.consult_keeps (p := QEventChannelPart.addressees) part_addressees h
      exact ⟨congrArg Prod.fst hkeep, congrArg Prod.snd hkeep⟩
  obtain ⟨r, w1, he, hreg, hrooms, hkeep⟩ := hhook
  rw [he]
  cases r with
  | none => exact Or.inl ⟨rfl, hrooms⟩
  | some ev' =>
    obtain ⟨hacc, hchan⟩ := hkeep ev' rfl
    dsimp only
    have hmem : (w1.chan ch).m_members = w.rooms.members ch := by
      rw [← hrooms]
      rfl
    rw [hacc, hmem]
    cases ha : ev.account with
    | none => exact Or.inl ⟨rfl, hrooms⟩
    | some a =>
      by_cases hin : a ∈ w.rooms.members ch
      · rw [Option.filter_some, if_pos (List.contains_iff_mem.mpr hin)]
        refine Or.inr ⟨a, rfl, hin, rfl, ?_⟩
        dsimp only
        have hposted := pending_postAll (hacc.trans ha) (w.rooms.members ch) w1
        rw [hrooms, hreg, hchan.trans hch] at hposted
        have hleave (w2 : World) : (w2.updChan ch fun k =>
            { k with m_members := k.m_members.filter (· != a) }).rooms =
              { w2.rooms with toHalls := w2.rooms.toHalls.leave ch a } := by
          ext1
          case members =>
            funext x
            show (if x = ch then _ else w2.chan x : Channel).m_members = if x = ch then _ else _
            by_cases hx : x = ch
            · rw [if_pos hx, if_pos hx]
              rfl
            · rw [if_neg hx, if_neg hx]
              rfl
          case name =>
            funext x
            show (if x = ch then _ else w2.chan x : Channel).m_name = _
            by_cases hx : x = ch
            · rw [if_pos hx, hx]
              rfl
            · rw [if_neg hx]
              rfl
          all_goals rfl
        rw [hleave, hposted]
        rfl
      · rw [Option.filter_some, if_neg (by simpa using hin)]
        exact Or.inl ⟨rfl, hrooms⟩

theorem message_rooms {ch : ChanId} {ev : QEventMessage} {w : World} :
    Sat (fun _ => True) (fun w' => w'.rooms = w.rooms) (message ch ev w) := by
  have hdeliver (ev' : QEventMessage) (w1 : World) (hrooms : w1.rooms = w.rooms) :
      Sat (fun _ => True) (fun w' => w'.rooms = w.rooms)
        ((w1.chan ch).m_members.foldlM (fun w member => Account.messageAll member ev' w)
          (w1.exec (.insert_message ev'))) :=
    Sat.foldlM hrooms fun w2 member _ h2 =>
      Account.messageAll_rooms.mono (fun _ he => he) fun _ h' => h'.trans h2
  unfold message
  dsimp only
  generalize (if ev.tag_msg then QIRCEvent.TAG_MSG else .CHANNEL_MSG) = e
  split
  · have hrooms := w.rooms_event e ev
    cases hr : w.event e ev with
    | mk r w1 =>
      rw [hr] at hrooms
      cases r with
      | none => exact hrooms
      | some ev' => exact Sat.ite (fun _ => hrooms) fun _ => hdeliver ev' w1 hrooms
  · exact hdeliver ev w rfl

theorem rooms_setName (ch : ChanId) (n : Bytes) (w : World) :
    (w.updChan ch fun k => { k with m_name := n }).rooms = w.rooms.rename ch n := by
  ext1
  case name =>
    funext x
    show (if x = ch then _ else w.chan x : Channel).m_name = if x = ch then _ else _
    by_cases hx : x = ch
    · rw [if_pos hx, if_pos hx]
    · rw [if_neg hx, if_neg hx]
      rfl
  case members =>
    funext x
    show (if x = ch then _ else w.chan x : Channel).m_members = _
    by_cases hx : x = ch
    · rw [if_pos hx, hx]
      rfl
    · rw [if_neg hx]
      rfl
  all_goals rfl

/-- **A rename.**  It is refused, or a channel gets another name and nothing else changes. -/
theorem rename_rooms (ev : QEventChannelRename) (w : World) :
    (rename ev w).2.rooms = w.rooms ∨
      ∃ ch n, (rename ev w).2.rooms = w.rooms.rename ch n := by
  unfold rename
  split
  · exact Or.inl rfl
  · split
    · exact Or.inl rfl
    · next channel_from _ =>
      have hhook : (if w.snakepit.hasEventHandler .CHANNEL_RENAME then
          ((w.event .CHANNEL_RENAME ev).1.getD ev, (w.event .CHANNEL_RENAME ev).2)
        else (ev, w)).2.rooms = w.rooms := by
        split
        · exact w.rooms_event .CHANNEL_RENAME ev
        · rfl
      have hname (w1 : World) (n : Bytes) (h1 : w1.rooms = w.rooms) :
          (w1.updChan channel_from fun k => { k with m_name := n }).rooms =
            w.rooms.rename channel_from n := by
        rw [rooms_setName, h1]
      exact Or.inr ⟨channel_from, _, (rooms_postAll _ (fun _ _ => rfl) _).trans (hname _ _ hhook)⟩

/-- without handlers the channel gets the name that was asked for -/
theorem rename_rooms_quiet {ev : QEventChannelRename} {w : World} {ch : ChanId}
    (hpy : w.NoHandlers) (hne : ev.old_name ≠ ev.new_name)
    (hch : get w (w.chan ev.channel).m_name = some ch) :
    (rename ev w).2.rooms = w.rooms.rename ch ev.new_name := by
  unfold rename
  rw [if_neg hne, hch, hpy]
  exact (rooms_postAll _ (fun _ _ => rfl) _).trans (rooms_setName ch ev.new_name w)

end Channel

/-! ## the handlers that leave the rooms alone -/

namespace client_connection
open World

section
variable {env : Env} {c : ConnId} {args : List Bytes} {w : World}

theorem relay_rooms {target : Bytes} {msg : QEventMessage} :
    Sat (fun _ => True) (fun w' => w'.rooms = w.rooms) (relay env c target msg w) := by
  unfold relay
  dsimp only
  refine Sat.ite (fun _ => ?_) fun _ => ?_
  · split
    · exact rfl
    · exact Channel.message_rooms
  · split
    · exact rfl
    · exact Sat.bind_any fun a => Account.message_rooms

theorem handlePRIVMSG_rooms {tags : QMap QString QVariant} :
    Sat (fun _ => True) (fun w' => w'.rooms = w.rooms) (handlePRIVMSG env c tags args w) := by
  unfold handlePRIVMSG
  exact Sat.ite (fun _ => rfl) fun _ => Sat.bind_any fun _ => Sat.bind_any fun _ => relay_rooms

theorem handleTAGMSG_rooms {tags : QMap QString QVariant} :
    Sat (fun _ => True) (fun w' => w'.rooms = w.rooms) (handleTAGMSG env c tags args w) := by
  unfold handleTAGMSG
  exact Sat.ite (fun _ => rfl) fun _ => Sat.bind_any fun _ => relay_rooms

theorem rooms_save (ref : MetaRef) (m : Metadata) (w : World) :
    (Metadata.save ref m w).rooms = w.rooms := by
  cases ref with
  | account a => exact World.rooms_updAcc (f := fun k => { k with m_metadata := some m }) w rfl
  | channel ch => exact World.rooms_updChan (f := fun k => { k with m_metadata := some m }) w ⟨rfl, rfl⟩

theorem metadata_handle_rooms {ref : MetaRef} {ev : QEventMetadata} :
    Sat (fun _ => True) (fun r => r.2.rooms = w.rooms) (Metadata.handle env ref ev w) :=
  Metadata.handle_handled.mono (fun _ _ => trivial) fun _ h =>
    h.keeps (rooms_save ref) fun s w _ => World.rooms_exec w s

theorem handleMETADATA_rooms :
    Sat (fun _ => True) (fun w' => w'.rooms = w.rooms) (handleMETADATA env c args w) := by
  unfold handleMETADATA
  refine Sat.ite (fun _ => rfl) fun _ => Sat.ite (fun _ => ?_) fun _ => rfl
  refine Sat.bind_any fun target => Sat.bind_any fun subcmd => Sat.bind_any fun r => ?_
  cases r with
  | none => exact rfl
  | some p =>
    exact metadata_handle_rooms.bind fun q hq => (rooms_metadata env c q.2 q.1).trans hq

theorem handleCHATHISTORY_rooms :
    Sat (fun _ => True) (fun w' => w'.rooms = w.rooms) (handleCHATHISTORY env c args w) :=
  handleCHATHISTORY_keeps fun _ _ => rfl

@[simp] theorem rooms_handleLUSERS : (handleLUSERS env c w).rooms = w.rooms := rfl

@[simp] theorem rooms_handleMOTD : (handleMOTD env c w).rooms = w.rooms :=
  handleMOTD_keeps (v := World.rooms) fun _ _ => rfl

theorem handleWHO_rooms :
    Sat (fun _ => True) (fun w' => w'.rooms = w.rooms) (handleWHO env c args w) :=
  handleWHO_keeps fun _ _ => rfl

theorem handlePING_rooms :
    Sat (fun _ => True) (fun w' => w'.rooms = w.rooms) (handlePING env c args w) :=
  handlePING_keeps fun _ _ => rfl

theorem handlePASS_rooms :
    Sat (fun _ => True) (fun w' => w'.rooms = w.rooms) (handlePASS env c args w) := by
  unfold handlePASS
  exact Sat.ite (fun _ => rfl) fun _ => Sat.bind_any fun pass => w.rooms_updConn ⟨rfl, rfl⟩

/-! ### MODE -/

/-- a mode is neither the name of a channel nor a member -/
theorem setMode_rooms (mode : ChannelModes) (adding : Bool) (arg : Bytes) (k : Channel) :
    (Channel.setMode mode adding arg k).m_name = k.m_name ∧
      (Channel.setMode mode adding arg k).m_members = k.m_members := by
  unfold Channel.setMode
  dsimp only
  split
  · exact ⟨rfl, rfl⟩
  · split
    · split
      · split <;> exact ⟨rfl, rfl⟩
      · exact ⟨rfl, rfl⟩
    · exact ⟨rfl, rfl⟩
  · split
    · exact ⟨rfl, rfl⟩
    · split <;> exact ⟨rfl, rfl⟩
  · exact ⟨rfl, rfl⟩

theorem handleMODE_rooms :
    Sat (fun _ => True) (fun w' => w'.rooms = w.rooms) (handleMODE env c args w) :=
  handleMODE_keeps (fun _ _ => rfl) (fun _ _ w => w.rooms_updConn ⟨rfl, rfl⟩)
    fun _ mode adding arg w => w.rooms_updChan (setMode_rooms mode adding arg _)

/-! ### login -/

theorem rooms_login (a : AccId) (u : Bytes) : (login env c a u w).rooms = w.rooms := by
  have hlogged (w1 : World) : (w1.updConn c fun k => { k with logged_in := true }).rooms = w1.rooms :=
    w1.rooms_updConn ⟨rfl, rfl⟩
  unfold login
  dsimp only
  rw [hlogged, rooms_reply_num, rooms_reply_num]
  split
  · exact Account.rooms_merge a _ w
  · exact w.rooms_updConn ⟨rfl, rfl⟩

theorem handleAUTHENTICATE_rooms :
    Sat (fun _ => True) (fun w' => w'.rooms = w.rooms) (handleAUTHENTICATE env c args w) := by
  unfold handleAUTHENTICATE
  refine Sat.ite (fun _ => rooms_forceDisconnect c _) fun _ => Sat.bind_any fun arg => ?_
  refine Sat.ite (fun _ => rfl) fun _ => Sat.ite (fun _ => rfl) fun _ => ?_
  refine Sat.bind_any fun username => Sat.bind_any fun password => ?_
  show World.rooms (authenticate env c username password w) = w.rooms
  unfold authenticate
  split
  · exact rooms_forceDisconnect c _
  · next account _ =>
    have hverify := Account.rooms_verifyPassword env account
      { username := username, password := password, ip := (w.conn c).ip } w
    dsimp only
    split
    · exact (rooms_forceDisconnect c _).trans hverify
    · exact (rooms_login account username).trans hverify

theorem rooms_capREQ (line : Bytes) : (capREQ env c line w).rooms = w.rooms := by
  unfold capREQ
  dsimp only
  split
  · exact (World.rooms_updConn _ ⟨rfl, rfl⟩).trans rfl
  · rfl

theorem rooms_capLS (version : Option Int) : (capLS env c version w).rooms = w.rooms := by
  unfold capLS
  dsimp only
  split
  · split <;> rfl
  · rfl

theorem rooms_clearTask (t : ConnectionSetupTasks) : (clearTask c t w).rooms = w.rooms :=
  w.rooms_updConn ⟨rfl, rfl⟩

/-! ## finishing the setup -/

theorem rooms_welcomeLines (account_nick : Bytes) :
    (welcomeLines env c account_nick w).rooms = w.rooms := by
  have hisupport (w : World) : (isupportLines env c account_nick w).rooms = w.rooms := by
    have h := foldl_keeps (v := fun s : Bytes × World => s.2.rooms)
      (f := isupportStep env c (ascii "005 " ++ account_nick ++ ascii " ")) (fun s it => by
        unfold isupportStep
        dsimp only
        split <;> rfl)
      env.server.isupport (ascii "005 " ++ account_nick ++ ascii " ", w)
    unfold isupportLines
    dsimp only
    split
    · exact h
    · exact h
  unfold welcomeLines
  dsimp only
  rw [rooms_handleMOTD, rooms_handleLUSERS, hisupport, rooms_reply_num, rooms_reply_num,
    rooms_reply_num, rooms_log, rooms_reply_num]

theorem rejoin_rooms {a : AccId} :
    Sat (fun _ => True) (fun w' => w'.reg = w.reg ∧ w'.rooms = w.rooms.rejoin w.reg.ties a)
      (rejoin env a w) := by
  refine Sat.foldlM_view (I := fun w' => w'.reg = w.reg) (v := World.rooms) rfl
    fun w1 channel _ h1 => ?_
  cases channel with
  | none => exact trivial
  | some ch =>
    show Sat _ _ (Channel.join env ch
      { from_system := true, channel := some ch, account := some a } w1)
    have hreg := @Channel.join_sat env ch
      { from_system := true, channel := some ch, account := some a } w1
    have hrooms := @Channel.join_rooms env ch
      { from_system := true, channel := some ch, account := some a } w1 rfl
    refine (hreg.and hrooms).mono (fun _ _ => trivial) fun w2 h2 => ⟨h2.1.trans h1, ?_⟩
    obtain ⟨-, ⟨-, hsys⟩ | ⟨b, hb, h2⟩⟩ := h2
    · cases hsys
    · cases hb
      rw [h2, h1]
      rfl

/-- the connection and its account are tied together; a new account is in no channel -/
theorem rooms_enrol : (enrol c w).2.rooms =
    if (w.conn c).m_account = none then w.rooms.newAcc w.nextAcc else w.rooms := by
  have hrest (a : AccId) (w1 : World) : (Ctx.irc_nicks_insert_cache
      ((Account.add_connection a c (syncNick c (w1.accNick a) w1)).nick c) a
        (Account.add_connection a c (syncNick c (w1.accNick a) w1))).rooms = w1.rooms := by
    have hcache (n : Bytes) (w2 : World) : (Ctx.irc_nicks_insert_cache n a w2).rooms = w2.rooms := rfl
    rw [hcache, Account.rooms_add_connection]
    unfold syncNick
    dsimp only
    split
    · rfl
    · exact (World.rooms_updConn w1 (c := c)
        (f := fun k => { k with m_nick := w1.accNick a }) ⟨rfl, rfl⟩)
  unfold enrol
  refine (hrest _ _).trans ?_
  unfold obtainAccount
  cases hacc : (w.conn c).m_account with
  | some a => rfl
  | none =>
    rw [if_pos rfl]
    exact (World.rooms_updConn _ ⟨rfl, rfl⟩).trans (Account.rooms_create _ w)

/-- what is in `Ties` does not depend on the setup of a connection -/
theorem ties_updConn {r : Reg} {f : ConnReg → ConnReg}
    (h : (f (r.conn c)).m_account = (r.conn c).m_account) : (r.updConn c f).ties = r.ties := by
  ext1
  case account =>
    funext x
    show (if x = c then f (r.conn c) else r.conn x).m_account = (r.conn x).m_account
    by_cases hx : x = c
    · rw [if_pos hx, h, hx]
    · rw [if_neg hx]
  all_goals rfl

/-- the account of the connection goes back into the channels of its list -/
theorem greet_rooms {a : AccId} :
    Sat (fun _ => True) (fun w' => w'.rooms = w.rooms.rejoin w.reg.ties a) (greet env c a w) := by
  unfold greet
  have hmark : Sat (fun _ => True)
      (fun w' => w'.reg = w.reg.log (.welcome c) ∧ w'.rooms = w.rooms)
      (markRegistered env c (w.nick c) (welcomeLines env c (w.accNick a) w)) := by
    have hrooms : Sat (fun _ => True) (fun w' => w'.rooms = w.rooms)
        (markRegistered env c (w.nick c) (welcomeLines env c (w.accNick a) w)) :=
      Sat.ite (fun _ => handleMODE_rooms.mono (fun _ he => he)
        fun _ h => h.trans (rooms_welcomeLines _)) fun _ => rooms_welcomeLines _
    refine ((markRegistered_sat (E := fun _ => True)).and hrooms).mono (fun _ _ => trivial)
      fun w1 h1 => ⟨?_, h1.2⟩
    rw [h1.1, reg_welcomeLines]
  refine hmark.bind fun w1 h1 => rejoin_rooms.mono (fun _ he => he) fun w2 h2 => ?_
  rw [h2.2, h1.1, h1.2]
  rfl

end

end client_connection

end Chatripper
