import Mathlib
import Chatripper.Irc.Settings

/-!
# Metadata stores and their rows

A METADATA line reaches one store, or none.  What it does to that store is a function on its keys
and values; it executes statements about the rows of that store's id only.

* `KeyedTable`        what the server relies on: the rows of an id change with statements on that id;
* `handle_request`    one request on a store;
* `parseIncoming_stores`, `step_stores`   what a line and an event do to the stores of channels.
-/

namespace Chatripper
open ByteStr Utf8 Outcome

/-! ## the table -/

/-- the statement writes rows of this id -/
def SqlStmt.writes : SqlStmt → Uuid → Bool
  | .metadata_upsert _ _ ref_id _, id => ref_id == id
  | .metadata_remove _ ref_id, id => ref_id == id
  | _, _ => false

/-- keys and values of rows -/
def rowsKv (rows : List (QString × Bytes × Option Uuid)) : QMap QString QVariant :=
  rows.foldl (fun kv row => kv.insert row.1 (.bytes row.2.1)) ∅

/-- the keys and values that are stored for an id -/
def Env.tableKv (env : Env) (sql : List SqlStmt) (id : Uuid) : QMap QString QVariant :=
  rowsKv (env.metadataRows sql id)

/-- a table keyed by `(ref_id, key)`: a statement on an id changes the rows of that id, in a way that
depends on them only, and no others -/
def KeyedTable (env : Env) : Prop :=
  ∃ effect : SqlStmt → QMap QString QVariant → QMap QString QVariant,
    ∀ (sql : List SqlStmt) (s : SqlStmt) (id : Uuid), env.tableKv (sql ++ [s]) id =
      if s.writes id then effect s (env.tableKv sql id) else env.tableKv sql id

section
variable {env : Env}

/-- statements on other ids -/
theorem KeyedTable.other (h : KeyedTable env) {id : Uuid} {ss : List SqlStmt}
    (hss : ∀ s ∈ ss, s.writes id = false) (sql : List SqlStmt) :
    env.tableKv (sql ++ ss) id = env.tableKv sql id := by
  obtain ⟨effect, heffect⟩ := h
  induction ss generalizing sql with
  | nil => rw [List.append_nil]
  | cons s ss ih =>
    have hs : s.writes id = false := hss s List.mem_cons_self
    rw [← List.singleton_append, ← List.append_assoc,
      ih (fun s hs => hss s (List.mem_cons_of_mem _ hs)), heffect, if_neg (by simp [hs])]

/-- only statements about metadata count -/
theorem KeyedTable.filter (h : KeyedTable env) (sql : List SqlStmt) (id : Uuid) :
    env.tableKv (sql.filter SqlStmt.isMetadata) id = env.tableKv sql id := by
  obtain ⟨effect, heffect⟩ := h
  induction sql using List.reverseRecOn with
  | nil => rfl
  | append_singleton sql s ih =>
    rw [List.filter_append, heffect]
    cases hs : s.isMetadata with
    | true =>
      rw [List.filter_cons_of_pos hs, List.filter_nil, heffect, ih]
    | false =>
      have hwrites : s.writes id = false := by
        cases s with
        | insert_message msg => rfl
        | _ => cases hs
      rw [List.filter_cons_of_neg (by simp [hs]), List.filter_nil, List.append_nil, hwrites, ih]
      rfl

end

/-! ## one request -/

namespace Metadata

section
variable {env : Env} {ref : MetaRef} {ev : QEventMetadata} {w : World}

/-- the keys and values that a store is made with -/
theorem metadata_get_kv (env : Env) (id : Uuid) (w : World) :
    (metadata_get env id w).kv = env.tableKv w.sql id := by
  have hloop (f : Metadata → QString × Bytes × Option Uuid → Metadata)
      (hf : ∀ m row, (f m row).kv = m.kv.insert row.1 (.bytes row.2.1))
      (rows : List (QString × Bytes × Option Uuid)) (m : Metadata) :
      (rows.foldl f m).kv = rows.foldl (fun kv row => kv.insert row.1 (.bytes row.2.1)) m.kv := by
    induction rows generalizing m with
    | nil => rfl
    | cons row rows ih => rw [List.foldl_cons, List.foldl_cons, ih, hf]
  exact hloop _ (fun _ _ => rfl) _ {}

/-- `cmd` of `handle` -/
def requestCmd (env : Env) (ev : QEventMetadata) : QString := env.toUpper (fromUtf8 ev.subcmd)

/-- the keys and values of a store after a request on it -/
def requestKv (env : Env) (ref : MetaRef) (ev : QEventMetadata) (kv : QMap QString QVariant) :
    QMap QString QVariant :=
  if requestCmd env ev = "SET".toList then
    match ev.args with
    | key :: value :: _ =>
      if refused ref ev = none then kv.insert (fromUtf8 key) (.bytes value) else kv
    | _ => kv
  else if requestCmd env ev = "CLEAR".toList then
    match ev.args with
    | key :: _ => if refused ref ev = none then kv.erase (fromUtf8 key) else kv
    | [] => kv
  else kv

/-- the statements that a request executes -/
def requestSql (env : Env) (ref : MetaRef) (ev : QEventMetadata) (w : World) : List SqlStmt :=
  if requestCmd env ev = "SET".toList then
    match ev.args with
    | key :: value :: _ =>
      if refused ref ev = none then [.metadata_upsert key value (ref_id ref w) (ref_type ref)] else []
    | _ => []
  else if requestCmd env ev = "CLEAR".toList then
    match ev.args with
    | key :: _ => if refused ref ev = none then [.metadata_remove key (ref_id ref w)] else []
    | [] => []
  else if requestCmd env ev = "LIST".toList then []
  else if requestCmd env ev = "GET".toList then []
  else if requestCmd env ev = "SUB".toList then
    (ev.account.map fun actor =>
      .metadata_subscribe_bulk (ref_id ref w) ev.args (w.acc actor).m_uid).toList
  else if requestCmd env ev = "UNSUB".toList then
    (ev.account.map fun actor =>
      .metadata_unsubscribe_bulk (ref_id ref w) ev.args (w.acc actor).m_uid).toList
  else []

/-- a request executes statements about metadata, and writes no rows of another id -/
theorem requestSql_about {s : SqlStmt} (hs : s ∈ requestSql env ref ev w) :
    s.isMetadata = true ∧ ∀ id, ref_id ref w ≠ id → s.writes id = false := by
  have hnone (h : s ∈ ([] : List SqlStmt)) :
      s.isMetadata = true ∧ ∀ id, ref_id ref w ≠ id → s.writes id = false := (by cases h)
  have hsub {t : AccId → SqlStmt} (ht : ∀ a, (t a).isMetadata = true ∧ ∀ id, (t a).writes id = false)
      (h : s ∈ (ev.account.map t).toList) :
      s.isMetadata = true ∧ ∀ id, ref_id ref w ≠ id → s.writes id = false := by
    obtain ⟨a, -, rfl⟩ := Option.map_eq_some_iff.mp (Option.mem_toList.mp h)
    exact ⟨(ht a).1, fun id _ => (ht a).2 id⟩
  unfold requestSql at hs
  split at hs
  · split at hs
    · split at hs
      · rw [List.mem_singleton.mp hs]
        exact ⟨rfl, fun id hid => beq_eq_false_iff_ne.mpr hid⟩
      · exact hnone hs
    · exact hnone hs
  · split at hs
    · split at hs
      · split at hs
        · rw [List.mem_singleton.mp hs]
          exact ⟨rfl, fun id hid => beq_eq_false_iff_ne.mpr hid⟩
        · exact hnone hs
      · exact hnone hs
    · split at hs
      · exact hnone hs
      · split at hs
        · exact hnone hs
        · split at hs
          · exact hsub (fun a => ⟨rfl, fun _ => rfl⟩) hs
          · split at hs
            · exact hsub (fun a => ⟨rfl, fun _ => rfl⟩) hs
            · exact hnone hs

/-- the store is `m`, and these statements were executed -/
def saved (ref : MetaRef) (m : Metadata) (ss : List SqlStmt) (w : World) : World :=
  { save ref m w with sql := w.sql ++ ss }

theorem save_save (m m' : Metadata) (w : World) : save ref m' (save ref m w) = save ref m' w := by
  cases ref with
  | account a =>
    have hacc : (save (.account a) m' (save (.account a) m w)).acc = (save (.account a) m' w).acc := by
      funext x
      show (if x = a then { (if a = a then _ else w.acc a : Account) with m_metadata := some m' }
        else if x = a then _ else w.acc x : Account) = if x = a then _ else w.acc x
      by_cases hx : x = a
      · rw [if_pos hx, if_pos hx, if_pos rfl]
      · rw [if_neg hx, if_neg hx, if_neg hx]
    exact congrArg (fun acc => { w with acc := acc }) hacc
  | channel ch =>
    have hchan : (save (.channel ch) m' (save (.channel ch) m w)).chan =
        (save (.channel ch) m' w).chan := by
      funext x
      show (if x = ch then { (if ch = ch then _ else w.chan ch : Channel) with m_metadata := some m' }
        else if x = ch then _ else w.chan x : Channel) = if x = ch then _ else w.chan x
      by_cases hx : x = ch
      · rw [if_pos hx, if_pos hx, if_pos rfl]
      · rw [if_neg hx, if_neg hx, if_neg hx]
    exact congrArg (fun chan => { w with chan := chan }) hchan

theorem ref_id_save (m : Metadata) (w : World) : ref_id ref (save ref m w) = ref_id ref w := by
  cases ref with
  | account a =>
    show (if a = a then _ else w.acc a : Account).m_uid = _
    rw [if_pos rfl]
    rfl
  | channel ch =>
    show (if ch = ch then _ else w.chan ch : Channel).uid = _
    rw [if_pos rfl]
    rfl

theorem uid_save (m : Metadata) (w : World) (a : AccId) :
    ((save ref m w).acc a).m_uid = (w.acc a).m_uid := by
  cases ref with
  | account b =>
    show (if a = b then _ else w.acc a : Account).m_uid = _
    split
    · next h => rw [h]
    · rfl
  | channel ch => rfl

theorem saved_nil (m : Metadata) (w : World) : saved ref m [] w = save ref m w := by
  have hsql : w.sql ++ [] = (save ref m w).sql := by
    rw [List.append_nil]
    cases ref <;> rfl
  unfold saved
  rw [hsql]

theorem load_saved (m : Metadata) (ss : List SqlStmt) : load env ref (saved ref m ss w) = m := by
  cases ref with
  | account a =>
    show (if a = a then _ else w.acc a : Account).m_metadata.getD _ = m
    rw [if_pos rfl]
    rfl
  | channel ch =>
    show (if ch = ch then _ else w.chan ch : Channel).m_metadata.getD _ = m
    rw [if_pos rfl]
    rfl

/-- a store that is written again, with a statement -/
theorem exec_save (m m' : Metadata) (s : SqlStmt) (w : World) :
    (save ref m' (save ref m w)).exec s = saved ref m' [s] w := by
  rw [save_save]
  cases ref <;> rfl

/-- what a request comes back with: the store is changed, and its statements are executed -/
def Requested (env : Env) (ref : MetaRef) (ev : QEventMetadata) (w w' : World) : Prop :=
  ∃ m : Metadata, m.kv = requestKv env ref ev (load env ref w).kv ∧
    w' = saved ref m (requestSql env ref ev w) w

/-- **One request.** -/
theorem handle_request :
    Sat (fun _ => True) (fun r => Requested env ref ev w r.2) (handle env ref ev w) := by
  obtain ⟨m, hm⟩ : ∃ m, m = load env ref w := ⟨_, rfl⟩
  -- a request that leaves the keys and values alone, and executes nothing
  have hkeep (hkv : requestKv env ref ev m.kv = m.kv) (hsql : requestSql env ref ev w = []) :
      Requested env ref ev w (save ref m w) := by
    refine ⟨m, ?_, ?_⟩
    · rw [← hm, hkv]
    · rw [hsql, saved_nil]
  have hwrite (m' : Metadata) (t : SqlStmt) (hkv : requestKv env ref ev m.kv = m'.kv)
      (hsql : requestSql env ref ev w = [t]) :
      Requested env ref ev w ((save ref m' (save ref m w)).exec t) := by
    refine ⟨m', ?_, ?_⟩
    · rw [← hm, hkv]
    · rw [hsql, exec_save]
  unfold handle
  dsimp only
  rw [← hm]
  unfold requestKv requestSql requestCmd at hkeep hwrite
  refine Sat.ite (fun hset => ?_) fun hset => Sat.ite (fun hclear => ?_) fun hclear => ?_
  · simp only [if_pos hset] at hkeep hwrite
    cases hargs : ev.args with
    | nil =>
      rw [hargs] at hkeep
      exact hkeep rfl rfl
    | cons key rest =>
      rw [hargs] at hkeep hwrite
      cases rest with
      | nil => exact hkeep rfl rfl
      | cons value rest =>
        cases href : refused ref ev with
        | some a =>
          rw [href] at hkeep
          exact hkeep rfl rfl
        | none =>
          rw [href] at hwrite
          refine hwrite _ _ rfl ?_
          rw [ref_id_save]
          rfl
  · simp only [if_neg hset, if_pos hclear] at hkeep hwrite
    cases hargs : ev.args with
    | nil =>
      rw [hargs] at hkeep
      exact hkeep rfl rfl
    | cons key rest =>
      rw [hargs] at hkeep hwrite
      cases href : refused ref ev with
      | some a =>
        rw [href] at hkeep
        exact hkeep rfl rfl
      | none =>
        rw [href] at hwrite
        refine hwrite _ _ rfl ?_
        rw [ref_id_save]
        rfl
  · simp only [if_neg hset, if_neg hclear] at hkeep hwrite
    refine Sat.ite (fun hlist => ?_) fun hlist => Sat.ite (fun hget => ?_) fun hget =>
      Sat.ite (fun hsub => ?_) fun hsub => Sat.ite (fun hunsub => ?_) fun hunsub => ?_
    · exact hkeep trivial (if_pos hlist)
    · exact hkeep trivial ((if_neg hlist).trans (if_pos hget))
    · simp only [if_neg hlist, if_neg hget, if_pos hsub] at hwrite
      cases hactor : ev.account with
      | none => exact trivial
      | some actor =>
        rw [hactor] at hwrite
        refine hwrite _ _ rfl ?_
        rw [ref_id_save, uid_save]
        rfl
    · simp only [if_neg hlist, if_neg hget, if_neg hsub, if_pos hunsub] at hwrite
      cases hactor : ev.account with
      | none => exact trivial
      | some actor =>
        rw [hactor] at hwrite
        refine hwrite _ _ rfl ?_
        rw [ref_id_save, uid_save]
        rfl
    · simp only [if_neg hlist, if_neg hget, if_neg hsub, if_neg hunsub] at hkeep
      have hdone := hkeep trivial trivial
      exact Sat.ite (fun _ => hdone) fun _ => hdone

end

end Metadata

/-! ## the settings -/

namespace Settings

/-- channels without ids may be made; stores and rows stay as they are -/
structure KeepsStores (s s' : Settings) : Prop where
  nextChan : s.nextChan ≤ s'.nextChan
  old : ∀ ch < s.nextChan, s'.uid ch = s.uid ch ∧ s'.metadata ch = s.metadata ch
  made : ∀ ch < s'.nextChan, s.nextChan ≤ ch → s'.uid ch = 0 ∧ s'.metadata ch = none
  stored : s'.stored = s.stored

section
variable {s s1 s' : Settings}

theorem KeepsStores.of_eq (huid : s'.uid = s.uid) (hmetadata : s'.metadata = s.metadata)
    (hnext : s'.nextChan = s.nextChan) (hstored : s'.stored = s.stored) : KeepsStores s s' where
  nextChan := hnext.ge
  old ch _ := ⟨congrFun huid ch, congrFun hmetadata ch⟩
  made ch hch hge := absurd hch (by rw [hnext]; exact Nat.not_lt.mpr hge)
  stored := hstored

theorem KeepsStores.refl (s : Settings) : KeepsStores s s := .of_eq rfl rfl rfl rfl

theorem KeepsStores.of_settings (h : s' = s) : KeepsStores s s' := by
  rw [h]
  exact .refl s

theorem Made.keepsStores (h : Made s s') : KeepsStores s s' := by
  induction h with
  | refl s => exact .refl s
  | @create s s' _ ih =>
    have hnext : s.nextChan + 1 ≤ s'.nextChan := ih.nextChan
    refine ⟨Nat.le_of_succ_le hnext, fun ch hch => ?_, fun ch hch hge => ?_, ih.stored⟩
    · have hold : s'.uid ch = (if ch = s.nextChan then 0 else s.uid ch) ∧
          s'.metadata ch = (if ch = s.nextChan then none else s.metadata ch) :=
        ih.old ch (Nat.lt_succ_of_lt hch)
      rw [if_neg hch.ne, if_neg hch.ne] at hold
      exact hold
    · by_cases hnew : ch = s.nextChan
      · have hold : s'.uid ch = (if ch = s.nextChan then 0 else s.uid ch) ∧
            s'.metadata ch = (if ch = s.nextChan then none else s.metadata ch) :=
          ih.old ch (by rw [hnew]; exact Nat.lt_succ_self _)
        rw [if_pos hnew, if_pos hnew] at hold
        exact hold
      · exact ih.made ch hch (Nat.lt_of_le_of_ne hge (Ne.symm hnew))

end

/-- a store is written, and statements are executed -/
def write (s : Settings) (ref : MetaRef) (m : Metadata) (ss : List SqlStmt) : Settings :=
  { s with
    metadata := fun ch =>
      match ref with
      | .channel b => if ch = b then some m else s.metadata ch
      | .account _ => s.metadata ch
    stored := s.stored ++ ss }

end Settings

theorem World.settings_saved {ref : MetaRef} {m : Metadata} {ss : List SqlStmt} {w : World}
    (hss : ∀ s ∈ ss, s.isMetadata = true) :
    (Metadata.saved ref m ss w).settings = w.settings.write ref m ss := by
  have hstored : (w.sql ++ ss).filter SqlStmt.isMetadata = w.sql.filter SqlStmt.isMetadata ++ ss := by
    rw [List.filter_append, List.filter_eq_self.mpr hss]
  cases ref with
  | account a =>
    ext1
    case stored => exact hstored
    all_goals rfl
  | channel b =>
    ext1
    case uid =>
      funext ch
      show (if ch = b then _ else w.chan ch : Channel).uid = (w.chan ch).uid
      split
      · next hch => rw [hch]
      · rfl
    case metadata =>
      funext ch
      show (if ch = b then _ else w.chan ch : Channel).m_metadata =
        if ch = b then some m else (w.chan ch).m_metadata
      split <;> rfl
    case stored => exact hstored
    all_goals rfl

/-! ## one line -/

namespace client_connection
open World Settings

/-- the request that a METADATA makes, and the store that it is about -/
def metadataRequest (c : ConnId) (cmd : Command) (args : List Bytes) (w : World) :
    Option (MetaRef × QEventMetadata) :=
  match cmd, args with
  | .METADATA, target :: subcmd :: rest =>
    if (w.conn c).capabilities.has .METADATA then
      ((metadataTargetOf c target
        { account := (w.conn c).m_account, subcmd := subcmd, args := rest } w).toOption).join
    else none
  | _, _ => none

/-- the request of a line -/
def lineRequest (c : ConnId) (line : Bytes) (w : World) : Option (MetaRef × QEventMetadata) :=
  (lineCommand c line w).bind fun p => metadataRequest c p.1 p.2 w

section
variable {env : Env} {c : ConnId} {args : List Bytes} {w : World}

/-- what a command does to the stores -/
def StoresEffect (env : Env) (request : Option (MetaRef × QEventMetadata)) (w w' : World) : Prop :=
  match request with
  | none => KeepsStores w.settings w'.settings
  | some (ref, ev) => ∃ m : Metadata,
    m.kv = Metadata.requestKv env ref ev (Metadata.load env ref w).kv ∧
      w'.settings = w.settings.write ref m (Metadata.requestSql env ref ev w)

theorem handleMETADATA_stores :
    Sat (fun _ => True) (StoresEffect env (metadataRequest c .METADATA args w) w)
      (handleMETADATA env c args w) := by
  unfold handleMETADATA
  cases args with
  | nil => exact .refl _
  | cons target args =>
    cases args with
    | nil => exact .refl _
    | cons subcmd rest =>
      refine Sat.ite (fun h => absurd h (by simp)) fun _ => ?_
      unfold metadataRequest
      dsimp only
      by_cases hcap : (w.conn c).capabilities.has .METADATA = true
      · rw [if_pos hcap, if_pos hcap]
        show Sat _ _ (metadataTargetOf c target
          { account := (w.conn c).m_account, subcmd := subcmd, args := rest } w >>= _)
        cases metadataTargetOf c target
            { account := (w.conn c).m_account, subcmd := subcmd, args := rest } w with
        | error e => exact trivial
        | ok r =>
          cases r with
          | none => exact .refl _
          | some p =>
            obtain ⟨ref, ev⟩ := p
            refine Metadata.handle_request.bind fun q hq => ?_
            obtain ⟨m, hm, hq⟩ := hq
            refine ⟨m, hm, ?_⟩
            show (metadata env c q.1 q.2).settings = _
            rw [settings_metadata, hq]
            exact settings_saved fun s hs => (Metadata.requestSql_about hs).1
      · rw [if_neg hcap, if_neg hcap]
        exact .refl _

theorem Attempt.keepsStores {logged_in : Bool} {s s' : Settings} (h : Attempt c logged_in s s') :
    KeepsStores s s' := by
  rcases h with h | ⟨-, h⟩
  · exact .of_settings h
  · rw [h]
    exact .of_eq rfl rfl rfl rfl

/-- **One command.** -/
theorem handle_stores {tags : QMap QString QVariant} {cmd : Command} :
    Sat (fun _ => True) (StoresEffect env (metadataRequest c cmd args w) w)
      (handle env c tags cmd args w) := by
  have hquiet {r : Except Fault World}
      (h : Sat (fun _ => True) (fun w' => w'.settings = w.settings) r) :
      Sat (fun _ => True) (fun w' => KeepsStores w.settings w'.settings) r :=
    h.mono (fun _ he => he) fun _ => .of_settings
  have hfinish {r : Except Fault World}
      (h : Sat (fun _ => True) (fun w' => Attempt c (w.conn c).logged_in w.settings w'.settings) r) :
      Sat (fun _ => True) (fun w' => KeepsStores w.settings w'.settings) r :=
    h.mono (fun _ he => he) fun _ => Attempt.keepsStores
  cases cmd with
  | PASS => exact hquiet handlePASS_settings
  | NICK => exact hfinish handleNICK_settings
  | USER =>
    refine handleUSER_settings.mono (fun _ he => he) fun w' h => ?_
    rcases h with h | ⟨user, -, -, h⟩
    · exact KeepsStores.of_settings h
    · have huser : KeepsStores (w.settings.setUser c user) w'.settings := h.keepsStores
      exact ⟨huser.nextChan, huser.old, huser.made, huser.stored⟩
  | PING => exact hquiet handlePING_settings
  | PONG => exact KeepsStores.refl _
  | JOIN =>
    show Sat _ _ (dispatchJOIN env c args w)
    unfold dispatchJOIN
    refine Sat.bind_any fun p => Sat.ite (fun _ => KeepsStores.refl _) fun _ => ?_
    exact handleJOIN_settings.mono (fun _ he => he) fun w' h => h.keepsStores
  | PART => exact hquiet handlePART_settings
  | PRIVMSG => exact hquiet handlePRIVMSG_settings
  | TAGMSG => exact hquiet handleTAGMSG_settings
  | QUIT => exact KeepsStores.of_settings (settings_forceDisconnect c w)
  | NAMES => exact KeepsStores.refl _
  | CHATHISTORY => exact hquiet handleCHATHISTORY_settings
  | RENAME => exact hquiet handleRENAME_settings
  | METADATA => exact handleMETADATA_stores
  | TOPIC => exact KeepsStores.refl _
  | LUSERS => exact KeepsStores.of_settings rfl
  | MOTD => exact KeepsStores.of_settings settings_handleMOTD
  | WHO => exact hquiet handleWHO_settings
  | AUTHENTICATE => exact hquiet handleAUTHENTICATE_settings
  | CAP => exact hfinish handleCAP_settings
  | MODE =>
    refine handleMODE_settings.mono (fun _ he => he) fun w' h => ?_
    cases hown : ownModes c args w with
    | none =>
      rw [hown] at h
      exact KeepsStores.of_settings h
    | some p =>
      rw [hown] at h
      show KeepsStores _ _
      rw [h]
      exact .of_eq rfl rfl rfl rfl

/-- the handlers of a line change the interpreters only -/
theorem handlerWorld_eq (c : ConnId) (line : Bytes) (w : World) :
    ∃ sp, handlerWorld c line w = { w with snakepit := sp } := by
  have hraw : ∃ sp, (rawHook c line w).2 = { w with snakepit := sp } := by
    unfold rawHook
    split
    · have h : (w.event .RAW_MSG ({ raw := line, ip := (w.conn c).ip } : QEventRawMessage)).2 =
          { w with snakepit := _ } := rfl
      split <;> next he => rw [he] at h; exact ⟨_, h⟩
    · exact ⟨w.snakepit, rfl⟩
  obtain ⟨sp, hsp⟩ := hraw
  unfold handlerWorld
  split
  · next he =>
    rw [he] at hsp
    exact ⟨sp, hsp⟩
  · next line' w1 he =>
    rw [he] at hsp
    have hw1 : w1 = { w with snakepit := sp } := hsp
    rw [hw1]
    unfold verifyTags
    split
    · exact ⟨_, rfl⟩
    · exact ⟨sp, rfl⟩

/-- **One line.** -/
theorem parseIncoming_stores {line : Bytes} :
    Sat (fun _ => True) (StoresEffect env (lineRequest c line w) w) (parseIncoming env c line w) := by
  rw [parseIncoming_eq]
  obtain ⟨sp, hsp⟩ := handlerWorld_eq c line w
  unfold lineRequest
  cases hcmd : lineCommand c line w with
  | none =>
    rw [hsp]
    exact KeepsStores.refl _
  | some p =>
    rw [hsp]
    exact handle_stores

end

end client_connection

/-! ## one event -/

namespace Worker
open World client_connection Settings

/-- the request of an event -/
def eventRequest (w : World) : Event → Option (MetaRef × QEventMetadata)
  | .line c line => if (w.conn c).live then lineRequest c line w else none
  | _ => none

/-- **One event.** -/
theorem step_stores {env : Env} {ev : Event} {w w' : World} (h : step env w ev = .ok w') :
    StoresEffect env (eventRequest w ev) w w' := by
  cases ev with
  | connect isWebSocket ip =>
    cases h
    show KeepsStores _ _
    rw [settings_handleConnection]
    exact .of_eq rfl rfl rfl rfl
  | line c line =>
    have h : (if (w.conn c).live then parseIncoming env c line w else .ok w) = .ok w' := h
    show StoresEffect env (if (w.conn c).live then lineRequest c line w else none) w w'
    split at h
    · next hlive =>
      rw [if_pos hlive]
      exact parseIncoming_stores.of_ok h
    · next hlive =>
      rw [if_neg hlive]
      cases h
      exact KeepsStores.refl _
  | deliver c => exact KeepsStores.of_settings (deliver_settings h)
  | disconnect c =>
    cases h
    show KeepsStores _ (World.settings (if (w.conn c).live = true then _ else w))
    split
    · exact .of_settings (settings_onSocketDisconnected c w)
    · exact .refl _

end Worker

end Chatripper
