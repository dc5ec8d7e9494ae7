import Mathlib
import Chatripper.Irc.Heard

/-!
# The history of the channels

`Channel::message` inserts a row into `messages` and then tells the members; whether the row was taken
is not looked at.  The table takes it if its sender has a row in `accounts` and its channel one in
`channels`.  An account that registers without logging in has none.

* `insert_message_row`       when the table takes a row;
* `step_rows`, `run_rows`    the rows of an event and of a run;
* `history_complete_iff`     when every message has its row.
-/

namespace Chatripper
open ByteStr Utf8 Outcome

/-! ## the tables -/

/-- a row of `messages`; the tags are kept as the map that is written as JSON -/
structure MessageRow where
  id : Uuid
  sender_id : Uuid
  channel_id : Option Uuid
  text : Bytes
  raw : Bytes
  tags : QMap QString QVariant
  nick : Bytes
  host : Bytes
  username : Bytes
  from_system : Bool
  tag_msg : Bool

/-- `messages` with its constraints, and the keys of the tables that it refers to -/
structure MessageTables where
  accounts : List Uuid
  channels : List Uuid
  messages : List MessageRow
  id_unique : (messages.map MessageRow.id).Nodup
  sender_fk : ∀ r ∈ messages, r.sender_id ∈ accounts
  channel_fk : ∀ r ∈ messages, ∀ ch, r.channel_id = some ch → ch ∈ channels

namespace MessageTables

/-- no constraint is violated -/
def Admits (t : MessageTables) (row : MessageRow) : Prop :=
  row.id ∉ t.messages.map MessageRow.id ∧ row.sender_id ∈ t.accounts ∧
    row.channel_id.all t.channels.contains = true

instance (t : MessageTables) (row : MessageRow) : Decidable (t.Admits row) :=
  inferInstanceAs (Decidable (_ ∧ _ ∧ _))

theorem channel_of_admits {t : MessageTables} {row : MessageRow} (h : t.Admits row) {ch : Uuid}
    (hch : row.channel_id = some ch) : ch ∈ t.channels := by
  have hall := h.2.2
  rw [hch] at hall
  exact List.contains_iff_mem.mp hall

def add (t : MessageTables) (row : MessageRow) (h : t.Admits row) : MessageTables where
  accounts := t.accounts
  channels := t.channels
  messages := t.messages ++ [row]
  id_unique := by
    rw [List.map_append, List.nodup_append]
    refine ⟨t.id_unique, List.nodup_singleton _, fun x hx y hy hxy => ?_⟩
    rw [hxy, List.mem_singleton.mp hy] at hx
    exact h.1 hx
  sender_fk r hr := by
    rcases List.mem_append.mp hr with hr | hr
    · exact t.sender_fk r hr
    · rw [List.mem_singleton.mp hr]
      exact h.2.1
  channel_fk r hr ch hch := by
    rcases List.mem_append.mp hr with hr | hr
    · exact t.channel_fk r hr ch hch
    · rw [List.mem_singleton.mp hr] at hch
      exact channel_of_admits h hch

end MessageTables

/-! ## a statement -/

namespace Sql

/-- what is bound for a uuid; a driver may bind the null one as NULL -/
def bound (nulls : Bool) (u : Uuid) : Option Uuid := if nulls && u == 0 then none else some u

/-- the text of a TAGMSG was never set -/
def boundText (nulls : Bool) (msg : QEventMessage) : Option Bytes :=
  if nulls && msg.tag_msg then none else some msg.text

def senderUid (w : World) (msg : QEventMessage) : Uuid :=
  (msg.account.map fun a => (w.acc a).m_uid).getD 0

def channelUid (w : World) (msg : QEventMessage) : Uuid :=
  (msg.channel.map fun ch => (w.chan ch).uid).getD 0

/-- the row is taken, or a constraint refuses it; a missing value is refused where it is NOT NULL -/
def insert_message (nulls : Bool) (uuid : Uuid) (msg : QEventMessage) (w : World)
    (t : MessageTables) : MessageTables :=
  match bound nulls (senderUid w msg), boundText nulls msg with
  | some sender_id, some text =>
    let row : MessageRow :=
      { id := uuid, sender_id, channel_id := bound nulls (channelUid w msg), text, raw := msg.raw
        tags := msg.tags, nick := msg.nick, host := msg.host, username := msg.user
        from_system := msg.from_system, tag_msg := msg.tag_msg }
    if h : t.Admits row then t.add row h else t
  | _, _ => t

/-- the sender and the channel of a message have rows; a channel that is bound as NULL needs none -/
def HasParents (nulls : Bool) (t : MessageTables) (w : World) (msg : QEventMessage) : Prop :=
  (∃ u ∈ t.accounts, bound nulls (senderUid w msg) = some u) ∧
    ∀ u, bound nulls (channelUid w msg) = some u → u ∈ t.channels

/-- what a row is to show of a message: its sender, its channel and its text -/
structure Sent where
  sender_id : Uuid
  channel_id : Uuid
  text : Bytes
  deriving DecidableEq

def sentOf (w : World) (msg : QEventMessage) : Sent :=
  ⟨senderUid w msg, channelUid w msg, msg.text⟩

/-- a NULL reads as the null uuid -/
def shownBy (r : MessageRow) : Sent := ⟨r.sender_id, r.channel_id.getD 0, r.text⟩

/-- what rows show, without those of TAGMSGs -/
def shown (rows : List MessageRow) : List Sent := (rows.filter fun r => !r.tag_msg).map shownBy

theorem shown_append (rows rows' : List MessageRow) :
    shown (rows ++ rows') = shown rows ++ shown rows' := by
  unfold shown
  rw [List.filter_append, List.map_append]

section
variable {nulls : Bool} {uuid : Uuid} {msg : QEventMessage} {w : World} {t : MessageTables}

theorem bound_some {u v : Uuid} (h : bound nulls u = some v) : v = u := by
  unfold bound at h
  split at h
  · cases h
  · exact (Option.some.inj h).symm

theorem bound_getD (u : Uuid) : (bound nulls u).getD 0 = u := by
  unfold bound
  split
  · next h =>
    rw [Bool.and_eq_true, beq_iff_eq] at h
    exact h.2.symm
  · rfl

variable (nulls msg w)

/-- **A row.**  With an id of its own, it is taken if its sender and its channel have rows. -/
theorem insert_message_row (hid : uuid ∉ t.messages.map MessageRow.id) :
    ∃ rows, (insert_message nulls uuid msg w t).messages = t.messages ++ rows ∧
      (insert_message nulls uuid msg w t).accounts = t.accounts ∧
      (insert_message nulls uuid msg w t).channels = t.channels ∧
      (∀ r ∈ rows, r.id = uuid) ∧
      (msg.tag_msg = true → shown rows = []) ∧
      (msg.tag_msg = false → HasParents nulls t w msg → shown rows = [sentOf w msg]) ∧
      (msg.tag_msg = false → ¬ HasParents nulls t w msg → shown rows = []) := by
  have hnone (htaken : msg.tag_msg = false → ¬ HasParents nulls t w msg) :
      ∃ rows, t.messages = t.messages ++ rows ∧ t.accounts = t.accounts ∧ t.channels = t.channels ∧
        (∀ r ∈ rows, r.id = uuid) ∧ (msg.tag_msg = true → shown rows = []) ∧
        (msg.tag_msg = false → HasParents nulls t w msg → shown rows = [sentOf w msg]) ∧
        (msg.tag_msg = false → ¬ HasParents nulls t w msg → shown rows = []) :=
    ⟨[], (List.append_nil _).symm, rfl, rfl, fun r hr => absurd hr List.not_mem_nil, fun _ => rfl,
      fun ht hp => absurd hp (htaken ht), fun _ _ => rfl⟩
  unfold insert_message
  cases hsender : bound nulls (senderUid w msg) with
  | none =>
    refine hnone fun _ hp => ?_
    obtain ⟨u, -, hu⟩ := hp.1
    rw [hsender] at hu
    cases hu
  | some sender_id =>
    cases htext : boundText nulls msg with
    | none =>
      refine hnone fun htag _ => ?_
      unfold boundText at htext
      rw [htag, Bool.and_false, if_neg Bool.false_ne_true] at htext
      cases htext
    | some text =>
      dsimp only
      split
      · next hadmits =>
        refine ⟨_, rfl, rfl, rfl, fun r hr => by rw [List.mem_singleton.mp hr], ?_, ?_, ?_⟩
        · intro htag
          unfold shown
          rw [List.filter_cons_of_neg (by rw [htag]; exact Bool.false_ne_true)]
          rfl
        · intro htag _
          have htext' : text = msg.text := by
            unfold boundText at htext
            rw [htag, Bool.and_false, if_neg Bool.false_ne_true] at htext
            exact (Option.some.inj htext).symm
          unfold shown
          rw [List.filter_cons_of_pos (by rw [htag]; rfl)]
          show [Sent.mk sender_id ((bound nulls (channelUid w msg)).getD 0) text] = [_]
          rw [bound_getD, bound_some hsender, htext']
          rfl
        · intro _ hparents
          refine absurd ⟨⟨sender_id, hadmits.2.1, hsender⟩, fun u hu => ?_⟩ hparents
          exact MessageTables.channel_of_admits hadmits hu
      · next hrefused =>
        refine hnone fun _ hp => hrefused ⟨hid, ?_, ?_⟩
        · obtain ⟨u, hu, he⟩ := hp.1
          rw [hsender] at he
          cases he
          exact hu
        · show (bound nulls (channelUid w msg)).all t.channels.contains = true
          cases hch : bound nulls (channelUid w msg) with
          | none => rfl
          | some u => exact List.contains_iff_mem.mpr (hp.2 u hch)

end

end Sql

/-! ## runs -/

namespace Worker
open World Sql

/-- the server and its tables, with how many ids have been made for messages -/
structure History where
  world : World
  tables : MessageTables
  made : Nat := 0

namespace History

section
variable (env : Env) (nulls : Bool) (createUuid : Nat → Uuid)

/-- a statement of an event that came when the world was `w` -/
def exec (w : World) (h : History) : SqlStmt → History
  | .insert_message msg =>
    { h with
      tables := insert_message nulls (createUuid h.made) msg w h.tables
      made := h.made + 1 }
  | _ => h

/-- an event, and what it inserts -/
def step (h : History) (ev : Event) : Except Fault History := do
  let w ← Worker.step env h.world ev
  .ok ((w.inserted.drop h.world.inserted.length).foldl (exec nulls createUuid h.world)
    { h with world := w })

/-- the messages that an event delivers to the members of a channel -/
def sentBy (w : World) (ev : Event) : List Sent :=
  ((eventInsertions w ev).filter fun msg => !msg.tag_msg).map (sentOf w)

/-- the messages that a run delivers to the members of channels, in their order -/
def sent : World → List Event → List Sent
  | _, [] => []
  | w, ev :: evs => sentBy w ev ++ match Worker.step env w ev with
    | .ok w' => sent w' evs
    | .error _ => []

/-- the sender and the channel of what the event delivers have rows -/
def Recordable (h : History) (ev : Event) : Prop :=
  ∀ msg ∈ eventInsertions h.world ev, msg.tag_msg = false → HasParents nulls h.tables h.world msg

/-- the ids to come are new -/
def Fresh (h : History) : Prop :=
  ∀ n, h.made ≤ n → createUuid n ∉ h.tables.messages.map MessageRow.id

/-- each message that the run delivered has a row, and nothing else has -/
def Complete (h h' : History) (evs : List Event) : Prop :=
  ∃ rows, h'.tables.messages = h.tables.messages ++ rows ∧ shown rows = sent env h.world evs

end

section
variable {env : Env} {nulls : Bool} {createUuid : Nat → Uuid} {h h' : History} {ev : Event}
  {evs : List Event}

theorem eventInsertions_length (w : World) (ev : Event) : (eventInsertions w ev).length ≤ 1 := by
  cases ev with
  | line c line =>
    unfold eventInsertions
    dsimp only
    split
    · unfold client_connection.insertions
      cases (client_connection.lineEvent c line w).filter _ with
      | none => exact Nat.zero_le 1
      | some msg => exact Nat.le_refl 1
    · exact Nat.zero_le 1
  | _ => exact Nat.zero_le 1

/-- **An event** inserts a row for what it delivers, if the message has its parents. -/
theorem step_rows (hid : Function.Injective createUuid) (hfresh : Fresh createUuid h)
    (hpy : h.world.NoHandlers) (hstep : step env nulls createUuid h ev = .ok h') :
    Worker.step env h.world ev = .ok h'.world ∧ Fresh createUuid h' ∧
      h'.tables.accounts = h.tables.accounts ∧ h'.tables.channels = h.tables.channels ∧
      ∃ rows, h'.tables.messages = h.tables.messages ++ rows ∧
        (Recordable nulls h ev → shown rows = sentBy h.world ev) ∧
        (¬ Recordable nulls h ev → (shown rows).length < (sentBy h.world ev).length) := by
  unfold step at hstep
  obtain ⟨w, hw, hstep⟩ := bind_eq_ok.mp hstep
  rw [step_inserted hpy hw, List.drop_left] at hstep
  cases hstep
  have hlength := eventInsertions_length h.world ev
  unfold Recordable sentBy
  cases hins : eventInsertions h.world ev with
  | nil =>
    refine ⟨hw, hfresh, rfl, rfl, [], (List.append_nil _).symm, fun _ => rfl, fun hn => ?_⟩
    exact absurd (fun msg hmsg => absurd hmsg List.not_mem_nil) hn
  | cons msg msgs =>
    have hmsgs : msgs = [] := by
      rw [hins, List.length_cons] at hlength
      exact List.length_eq_zero_iff.mp (by omega)
    subst hmsgs
    obtain ⟨rows, hrows, hacc, hch, hids, htag, hparents, horphan⟩ :=
      insert_message_row nulls msg h.world (hfresh h.made (Nat.le_refl _))
    refine ⟨hw, ?_, hacc, hch, rows, hrows, ?_, ?_⟩
    · intro n hn hmem
      change createUuid n ∈ (insert_message nulls (createUuid h.made) msg h.world
        h.tables).messages.map MessageRow.id at hmem
      rw [hrows, List.map_append] at hmem
      rcases List.mem_append.mp hmem with hmem | hmem
      · exact hfresh n (Nat.le_of_succ_le hn) hmem
      · obtain ⟨r, hr, he⟩ := List.mem_map.mp hmem
        rw [hids r hr] at he
        have hmade : h.made = n := hid he
        change h.made + 1 ≤ n at hn
        omega
    · intro hrec
      cases ht : msg.tag_msg with
      | true =>
        rw [htag ht, List.filter_cons_of_neg (by rw [ht]; exact Bool.false_ne_true)]
        rfl
      | false =>
        rw [hparents ht (hrec msg List.mem_cons_self ht),
          List.filter_cons_of_pos (by rw [ht]; rfl)]
        rfl
    · intro hn
      have horph : msg.tag_msg = false ∧ ¬ HasParents nulls h.tables h.world msg := by
        by_contra hnot
        refine hn fun m hm ht => ?_
        cases List.mem_singleton.mp hm
        by_contra hp
        exact hnot ⟨ht, hp⟩
      rw [horphan horph.1 horph.2, List.filter_cons_of_pos (by rw [horph.1]; rfl)]
      exact Nat.zero_lt_one

/-- a run never inserts more rows than it delivers messages -/
theorem run_rows (hid : Function.Injective createUuid) (hfresh : Fresh createUuid h)
    (hpy : h.world.NoHandlers) (hrun : run (step env nulls createUuid) h evs = .ok h') :
    ∃ rows, h'.tables.messages = h.tables.messages ++ rows ∧
      (shown rows).length ≤ (sent env h.world evs).length := by
  induction evs generalizing h with
  | nil =>
    cases hrun
    exact ⟨[], (List.append_nil _).symm, Nat.le_refl 0⟩
  | cons ev evs ih =>
    rw [run_cons] at hrun
    obtain ⟨h1, hstep, hrun⟩ := bind_eq_ok.mp hrun
    obtain ⟨hworld, hfresh1, -, -, rows1, hrows1, hall, hsome⟩ := step_rows hid hfresh hpy hstep
    obtain ⟨rows2, hrows2, hle⟩ := ih hfresh1 (step_noHandlers hpy hworld) hrun
    refine ⟨rows1 ++ rows2, ?_, ?_⟩
    · rw [hrows2, hrows1, List.append_assoc]
    · have hfirst : (shown rows1).length ≤ (sentBy h.world ev).length := by
        by_cases hrec : Recordable nulls h ev
        · rw [hall hrec]
        · exact Nat.le_of_lt (hsome hrec)
      unfold sent
      rw [hworld, shown_append, List.length_append, List.length_append]
      dsimp only
      omega

/-- **Every message** that a run delivers to the members of a channel has its row, if and only if in
each of its steps the sender and the channel have theirs. -/
theorem history_complete_iff (hid : Function.Injective createUuid) (hfresh : Fresh createUuid h)
    (hpy : h.world.NoHandlers) (hrun : run (step env nulls createUuid) h evs = .ok h') :
    Complete env h h' evs ↔ AllSteps (step env nulls createUuid) (Recordable nulls) h evs := by
  induction evs generalizing h with
  | nil =>
    cases hrun
    exact iff_of_true ⟨[], (List.append_nil _).symm, rfl⟩ trivial
  | cons ev evs ih =>
    rw [run_cons] at hrun
    obtain ⟨h1, hstep, hrun⟩ := bind_eq_ok.mp hrun
    obtain ⟨hworld, hfresh1, -, -, rows1, hrows1, hall, hsome⟩ := step_rows hid hfresh hpy hstep
    have hpy1 := step_noHandlers hpy hworld
    have ih := ih hfresh1 hpy1 hrun
    have hsent : sent env h.world (ev :: evs) = sentBy h.world ev ++ sent env h1.world evs := by
      show sentBy h.world ev ++ _ = _
      rw [hworld]
    constructor
    · rintro ⟨rows, hrows, hshown⟩
      obtain ⟨rows2, hrows2, hle⟩ := run_rows hid hfresh1 hpy1 hrun
      have hsplit : rows = rows1 ++ rows2 := by
        rw [hrows2, hrows1, List.append_assoc] at hrows
        exact (List.append_cancel_left hrows).symm
      rw [hsplit, shown_append, hsent] at hshown
      have hrec : Recordable nulls h ev := by
        by_contra hn
        have hlength := congrArg List.length hshown
        rw [List.length_append, List.length_append] at hlength
        have hlt := hsome hn
        omega
      refine ⟨hrec, fun h1' hstep' => ?_⟩
      rw [hstep] at hstep'
      cases hstep'
      rw [hall hrec] at hshown
      exact ih.mp ⟨rows2, hrows2, List.append_cancel_left hshown⟩
    · rintro ⟨hrec, hrest⟩
      obtain ⟨rows2, hrows2, hshown2⟩ := ih.mpr (hrest h1 hstep)
      refine ⟨rows1 ++ rows2, ?_, ?_⟩
      · rw [hrows2, hrows1, List.append_assoc]
      · rw [shown_append, hall hrec, hshown2, hsent]

end

/-! ## two clients that have not logged in, and one that has -/

/-- nothing has happened, and the tables are empty -/
def opening : History where
  world := World.empty
  tables :=
    { accounts := [], channels := [], messages := [], id_unique := List.nodup_nil
      sender_fk := nofun, channel_fk := nofun }

/-- ann and bob meet in `x`, and ann says something -/
def annToBob : List Event :=
  registration 0 false "ann" ++ registration 1 false "bob" ++
    [.line 0 (ascii "JOIN #x"), .line 1 (ascii "JOIN #x"), .line 0 (ascii "PRIVMSG #x :hi")]

set_option maxRecDepth 8000 in
/-- what ann says has no row -/
theorem history_complete_false : ∃ h', run (step Env.ascii true id) opening annToBob = .ok h' ∧
    ¬ Complete Env.ascii opening h' annToBob := by
  have hend : ∃ h', run (step Env.ascii true id) opening annToBob = .ok h' ∧
      h'.tables.messages = [] ∧ (sent Env.ascii opening.world annToBob).length = 1 :=
    ⟨_, rfl, rfl, rfl⟩
  obtain ⟨h', hrun, hmessages, hsent⟩ := hend
  refine ⟨h', hrun, ?_⟩
  rintro ⟨rows, hrows, hshown⟩
  rw [hmessages] at hrows
  have hnone : rows = [] := (List.append_eq_nil_iff.mp hrows.symm).2
  rw [← hshown, hnone] at hsent
  cases hsent

/-- the account 0 is in the channel `x`, and both have rows -/
def enrolled : History where
  world :=
    { World.empty with
      acc := fun _ => { m_uid := 1, m_nick := ascii "ann", connections := [0] }
      conn := fun _ => { m_account := some 0, is_ready := true, live := true }
      chan := fun _ => { m_name := ascii "x", uid := 2, m_members := [0] }
      ctx := { channels := (∅ : QHash Bytes ChanId).insert (ascii "x") 0 } }
  tables :=
    { accounts := [1], channels := [2], messages := [], id_unique := List.nodup_nil
      sender_fk := nofun, channel_fk := nofun }

theorem history_complete_iff_enrolled :
    ∃ h', run (step Env.ascii true id) enrolled [.line 0 (ascii "PRIVMSG #x :hi")] = .ok h' ∧
      h'.tables.messages.length = 1 ∧
      (Complete Env.ascii enrolled h' [.line 0 (ascii "PRIVMSG #x :hi")] ↔
        AllSteps (step Env.ascii true id) (Recordable true) enrolled
          [.line 0 (ascii "PRIVMSG #x :hi")]) :=
  ⟨_, rfl, rfl, history_complete_iff Function.injective_id (fun _ _ => List.not_mem_nil)
    (fun e => by cases e <;> rfl) rfl⟩

end History

end Worker

end Chatripper
