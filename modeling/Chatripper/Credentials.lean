import Mathlib
import Chatripper.Restarts

/-!
# What the start-up keeps of the accounts

An account that is made during the start-up keeps its name and its hash through the rest of it, and the
start-up touches no client.

* `KeepsLogins`             the accounts that are cached by name stay so, with their hashes;
* `foldl_keepsLogins`       a loop whose rounds keep them;
* `init_keepsLogins`        the whole start-up.
-/

namespace Chatripper
open ByteStr Utf8

/-! ## names and hashes -/

/-- the accounts that are cached by name are so later, with the same hashes, and no client is touched -/
structure World.KeepsLogins (w w' : World) : Prop where
  conn : w'.conn = w.conn
  queue : w'.queue = w.queue
  snakepit : w'.snakepit = w.snakepit
  nextAcc : w.nextAcc ≤ w'.nextAcc
  name : ∀ n a, Account.get_by_name w n = some a → Account.get_by_name w' n = some a
  password : ∀ a < w.nextAcc, (w'.acc a).m_password = (w.acc a).m_password

namespace World.KeepsLogins
variable {w w' w'' : World}

theorem refl (w : World) : w.KeepsLogins w := ⟨rfl, rfl, rfl, le_rfl, fun _ _ h => h, fun _ _ => rfl⟩

theorem trans (h : w.KeepsLogins w') (h' : w'.KeepsLogins w'') : w.KeepsLogins w'' where
  conn := h'.conn.trans h.conn
  queue := h'.queue.trans h.queue
  snakepit := h'.snakepit.trans h.snakepit
  nextAcc := h.nextAcc.trans h'.nextAcc
  name n a ha := h'.name n a (h.name n a ha)
  password a ha := (h'.password a (ha.trans_le h.nextAcc)).trans (h.password a ha)

end World.KeepsLogins

/-- a loop whose rounds keep logins -/
theorem foldl_keepsLogins {σ ι : Type} {f : σ → ι → σ} {v : σ → World}
    (hf : ∀ s x, (v s).KeepsLogins (v (f s x))) (l : List ι) (s : σ) :
    (v s).KeepsLogins (v (l.foldl f s)) :=
  foldl_invariant (I := fun t => (v s).KeepsLogins (v t)) (fun t x _ ht => ht.trans (hf t x))
    (World.KeepsLogins.refl _)

namespace Account
variable {w : World}

theorem create_from_db_keepsLogins (id : Uuid) (username password : Bytes) :
    w.KeepsLogins (create_from_db id username password w).2 := by
  cases hcached : get_by_name w username with
  | some a =>
    rw [create_from_db_cached hcached]
    exact World.KeepsLogins.refl w
  | none =>
    obtain ⟨w', he, -, hnext, -, hnames, -⟩ := create_from_db_new id password hcached
    refine ⟨?_, ?_, ?_, ?_, fun n a ha => ?_, fun a ha => ?_⟩
    iterate 3
      unfold create_from_db
      rw [hcached]
      rfl
    · rw [he, hnext]
      exact Nat.le_succ _
    · rw [he, hnames, if_neg, ha]
      rintro ⟨rfl, -⟩
      rw [hcached] at ha
      cases ha
    · unfold create_from_db
      rw [hcached]
      exact congrArg Account.m_password (if_neg (Nat.ne_of_lt ha))

/-- the account that is made has the hash -/
theorem create_from_db_stores (id : Uuid) {username : Bytes} (password : Bytes)
    (hnew : get_by_name w username = none) (hname : username ≠ []) :
    get_by_name (create_from_db id username password w).2 username =
        some (create_from_db id username password w).1 ∧
      ((create_from_db id username password w).2.acc
        (create_from_db id username password w).1).m_password = password := by
  obtain ⟨w', he, -, -, -, hnames, -⟩ := create_from_db_new id password hnew
  constructor
  · rw [he, hnames, if_pos ⟨rfl, hname⟩]
  · unfold create_from_db
    rw [hnew]
    exact congrArg Account.m_password (if_pos rfl)

end Account

namespace Startup
variable {env : StartupEnv} {s : Startup}

theorem account_of_row_keepsLogins (row : AccountRow) : s.w.KeepsLogins (s.account_of_row row).2.w :=
  Account.create_from_db_keepsLogins _ _ _

variable (env) in
theorem account_get_or_create_keepsLogins (username password : Bytes) :
    s.w.KeepsLogins (s.account_get_or_create env username password).2.w := by
  unfold account_get_or_create
  split
  · exact World.KeepsLogins.refl _
  · split
    · exact account_of_row_keepsLogins _
    · dsimp only [createUuid]
      split
      · exact Account.create_from_db_keepsLogins _ _ _
      · exact World.KeepsLogins.refl _

theorem channel_create_from_db_keepsLogins (id : Uuid) (name topic : Bytes) (owner : Option AccId)
    (server : Option SrvId) :
    s.w.KeepsLogins (s.channel_create_from_db id name topic owner server).2.w := by
  unfold channel_create_from_db
  split
  · exact World.KeepsLogins.refl _
  · exact ⟨rfl, rfl, rfl, le_rfl, fun _ _ h => h, fun _ _ => rfl⟩

variable (env) in
theorem channel_get_or_create_keepsLogins (name topic : Bytes) (owner : Option AccId)
    (server : Option SrvId) :
    s.w.KeepsLogins (s.channel_get_or_create env name topic owner server).2.w := by
  unfold channel_get_or_create
  split
  · exact World.KeepsLogins.refl _
  · split
    · exact channel_create_from_db_keepsLogins _ _ _ _ _
    · split
      · exact World.KeepsLogins.refl _
      · dsimp only [createUuid]
        split
        · exact channel_create_from_db_keepsLogins (s := { s with
            made := s.made + 1, tables := s.tables.addChannel _ ‹_› }) _ _ _ _ _
        · exact World.KeepsLogins.refl _

theorem channel_add_member_w (account_id channel_id : Uuid) :
    (s.channel_add_member account_id channel_id).w = s.w :=
  (channel_add_member_joins account_id channel_id).w

theorem preload_user_keepsLogins (p : Loading) (user : PreloadUser) :
    p.s.w.KeepsLogins (preload_user env p user).s.w := by
  have hkeeps := account_get_or_create_keepsLogins env (s := p.s) (toUtf8 user.name)
    (toUtf8 user.password)
  unfold preload_user
  dsimp only
  generalize p.s.account_get_or_create env (toUtf8 user.name) (toUtf8 user.password) = r at hkeeps
  obtain ⟨a?, s'⟩ := r
  cases a? <;> exact hkeeps

theorem preload_channel_keepsLogins (p : Loading) (channel : PreloadChannel) :
    p.s.w.KeepsLogins (preload_channel env p channel).s.w := by
  unfold preload_channel
  dsimp only
  have hkeeps := channel_get_or_create_keepsLogins env (s := p.s) (toUtf8 channel.name)
    (toUtf8 channel.topic) p.accountsByName[channel.owner]? p.serversByName[channel.server]?
  generalize p.s.channel_get_or_create env (toUtf8 channel.name) (toUtf8 channel.topic)
    p.accountsByName[channel.owner]? p.serversByName[channel.server]? = r at hkeeps
  obtain ⟨ch?, s'⟩ := r
  cases ch? with
  | none => exact hkeeps
  | some ch =>
    refine hkeeps.trans (foldl_keepsLogins (v := Startup.w) (fun s m => ?_) channel.members s')
    unfold preload_member
    split
    · exact World.KeepsLogins.refl _
    · rw [channel_add_member_w]
      exact World.KeepsLogins.refl _

variable (env) in
theorem preload_server_keepsLogins (adminAccount : AccId) (p : Loading) (name : QString) :
    p.s.w.KeepsLogins (preload_server env adminAccount p name).s.w := by
  obtain ⟨hw, -, -⟩ := server_get_or_create_rest env (s := p.s) (toUtf8 name) adminAccount
  unfold preload_server
  dsimp only
  generalize p.s.server_get_or_create env (toUtf8 name) adminAccount = r at hw
  obtain ⟨v?, s'⟩ := r
  cases v? <;> exact hw ▸ World.KeepsLogins.refl _

variable (env) in
/-- the preload file -/
theorem preload_from_file_keepsLogins (file : Option Preload) :
    s.w.KeepsLogins (s.preload_from_file env file).w := by
  cases file with
  | none => exact World.KeepsLogins.refl _
  | some root =>
    have hadmin := account_get_or_create_keepsLogins env (s := s) (ascii "admin") (ascii "admin")
    unfold preload_from_file
    dsimp only
    generalize s.account_get_or_create env (ascii "admin") (ascii "admin") = r at hadmin
    obtain ⟨a?, s'⟩ := r
    cases a? with
    | none => exact hadmin
    | some admin =>
      have hservers := foldl_keepsLogins (v := fun p : Loading => p.s.w)
        (preload_server_keepsLogins env admin) root.servers { s := s' }
      have husers (p : Loading) (accountsByName : QMap QString AccId) : p.s.w.KeepsLogins
          (root.users.foldl (preload_user env) { p with accountsByName }).s.w :=
        foldl_keepsLogins (v := fun p : Loading => p.s.w) preload_user_keepsLogins root.users
          { p with accountsByName }
      exact hadmin.trans (hservers.trans ((husers _ _).trans
        (foldl_keepsLogins (v := fun p : Loading => p.s.w) preload_channel_keepsLogins _ _)))

theorem append_channel_keepsLogins (p : List ChanId × Startup) (row : ChannelRow) :
    p.2.w.KeepsLogins (append_channel p row).2.w :=
  channel_create_from_db_keepsLogins _ _ _ _ _

theorem append_account_keepsLogins (p : List AccId × Startup) (row : AccountRow) :
    p.2.w.KeepsLogins (append_account p row).2.w :=
  account_of_row_keepsLogins _

theorem addMembers_keepsLogins (ch : ChanId) (accounts : List AccId) :
    s.w.KeepsLogins (s.addMembers ch accounts).w := by
  induction accounts generalizing s with
  | nil => exact World.KeepsLogins.refl _
  | cons acc accounts ih =>
    have hstep : s.w.KeepsLogins (s.addMembers ch [acc]).w := by
      refine ⟨rfl, rfl, rfl, le_rfl, fun _ _ h => h, fun a _ => ?_⟩
      show (if a = acc then _ else _ : Account).m_password = _
      split
      · rename_i ha
        rw [ha]
        rfl
      · rfl
    exact hstep.trans ih

theorem channel_get_members_keepsLogins (channel_id : Uuid) :
    s.w.KeepsLogins (s.channel_get_members channel_id).2.w := by
  unfold channel_get_members
  split
  · exact World.KeepsLogins.refl _
  · exact foldl_keepsLogins (v := fun p : List AccId × Startup => p.2.w) append_account_keepsLogins _
      ([], s)

theorem loadMembers_keepsLogins (ch : ChanId) : s.w.KeepsLogins (s.loadMembers ch).w := by
  have hinsert : s.w.KeepsLogins (s.mapWorld fun w => w.updCtx fun x =>
      { x with channels := x.channels.insert (w.chan ch).m_name ch }).w :=
    ⟨rfl, rfl, rfl, le_rfl, fun _ _ h => h, fun _ _ => rfl⟩
  exact hinsert.trans ((channel_get_members_keepsLogins _).trans (addMembers_keepsLogins _ _))

/-- the initial load, without its pages -/
theorem load_eq (s : Startup) : s.load =
    let p := s.tables.channels.foldl append_channel ([], s)
    let s' := p.1.foldl loadMembers p.2
    (s'.tables.accounts.foldl append_account ([], s')).2 := by
  unfold load channel_get_all account_get_all
  dsimp only
  rw [Pages.foldPages_eq _ _ (by decide), Pages.foldPages_eq _ _ (by decide)]
  rfl

/-- the initial load -/
theorem load_keepsLogins : s.w.KeepsLogins s.load.w := by
  rw [load_eq]
  have hchannels := foldl_keepsLogins (v := fun p : List ChanId × Startup => p.2.w)
    append_channel_keepsLogins s.tables.channels ([], s)
  refine hchannels.trans (World.KeepsLogins.trans ?_
    (foldl_keepsLogins (v := fun p : List AccId × Startup => p.2.w) append_account_keepsLogins _ _))
  exact foldl_keepsLogins (v := Startup.w) (fun s ch => loadMembers_keepsLogins ch) _ _

end Startup

open Startup in
/-- the whole start-up -/
theorem init_keepsLogins (env : StartupEnv) (tables : Tables) (file : Option Preload) :
    (ofTables tables).w.KeepsLogins (Ctx.init env tables file).w :=
  (preload_from_file_keepsLogins env file).trans load_keepsLogins

end Chatripper
