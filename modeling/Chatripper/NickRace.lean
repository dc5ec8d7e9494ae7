import Mathlib
import Chatripper.Irc.Worker

/-!
# Claiming a nick from several threads

Connections of different workers register and change nicks at the same time.  Each section that
`mtx_cache` guards is one step; a program counter says which section a connection comes to next and
what it has read.  The account that `get_by_uid` gives is the account itself, as nobody disconnects.

* `registered_alone`, `changed_alone`   without interleaving, the sections are the operations of the
  registration machine;
* `step_claimInv`     a step keeps every claimed nick entered under its account, when no section
  overwrites or removes an entry of another account;
* `nick_exclusive`    then no two accounts hold a nick at the same time;
* `nick_taken_twice`  a run where two do.
-/

namespace Chatripper
open ByteStr Outcome

namespace Reg

/-- `attach`, with a nick that was read before -/
def attachAs (c : ConnId) (a : AccId) (account_nick : Bytes) (r : Reg) : Reg :=
  let r := r.updConn c fun k =>
    { k with m_account := some a, m_nick := account_nick, is_ready := true }
  let r := r.updAcc a fun k => { k with connections := k.connections ++ [c] }
  { r with irc_nicks := r.irc_nicks.insert account_nick a }

/-- the entry of a key is free, or that of account `a` -/
def freeOrOwn (r : Reg) (a : AccId) (key : Bytes) : Bool := r.irc_nicks[key]?.all (· == a)

end Reg

/-! ## threads -/

/-- the section that a connection comes to next -/
inductive Pc where
  | setup
  /-- `try_finalize_setup`: `irc_nick_get` -/
  | check (n : Bytes)
  /-- `Account::create` and `account_insert_cache` -/
  | create (n : Bytes)
  /-- `irc_nicks_insert_cache` -/
  | insert (a : AccId) (account_nick : Bytes)
  | refused
  | ready
  /-- `handleNICK`: `irc_nick_get` -/
  | lookup (a : AccId) (new_nick : Bytes)
  /-- `setNick`: `irc_nick_get` -/
  | get (a : AccId) (old_nick new_nick : Bytes)
  /-- the check block of `setNick` -/
  | test (a : AccId) (old_nick new_nick : Bytes) (irc_nick_ptr : Option AccId)
  /-- the write block of `setNick` -/
  | write (a : AccId) (old_nick new_nick : Bytes)
  /-- `m_nick = event->new_nick` -/
  | publish (a : AccId) (new_nick : Bytes)

/-- how an attempt ended -/
inductive Answer where
  | success
  | code (n : Nat)
  deriving DecidableEq

structure Threads where
  reg : Reg
  pc : ConnId → Pc := fun _ => .setup
  /-- ghost: the key that an account was entered under last -/
  claim : AccId → Option Bytes := fun _ => none
  /-- ghost: the attempts that have ended -/
  answers : List (ConnId × Bytes × Answer) := []

namespace Threads

def goto (c : ConnId) (pc : Pc) (s : Threads) : Threads :=
  { s with pc := fun x => if x = c then pc else s.pc x }

def finish (c : ConnId) (pc : Pc) (n : Bytes) (answer : Answer) (s : Threads) : Threads :=
  { s with
    pc := fun x => if x = c then pc else s.pc x
    answers := s.answers ++ [(c, n, answer)] }

/-- the entry is the account's from here on -/
def setClaim (a : AccId) (key : Bytes) (s : Threads) : Threads :=
  { s with claim := fun x => if x = a then some key else s.claim x }

inductive Act where
  /-- the last setup task of a connection that has given the nick `n` is done -/
  | register (c : ConnId) (n : Bytes)
  /-- a NICK line of a ready connection -/
  | nick (c : ConnId) (n : Bytes)
  /-- the next section of a connection -/
  | go (c : ConnId)

/-- one guarded section -/
def runSection (c : ConnId) (s : Threads) : Threads :=
  let r := s.reg
  match s.pc c with
  | .setup | .refused | .ready => s
  | .check n =>
    if r.irc_nicks[toLower n]? ≠ none then s.finish c .refused n (.code 433)
    else s.goto c (.create n)
  | .create n =>
    { s with
      reg := (r.createAccount c).updConn c fun k => { k with m_account := some r.nextAcc } }.goto c
        (.insert r.nextAcc (star n))
  | .insert a account_nick =>
    ({ s with reg := r.attachAs c a account_nick }.setClaim a account_nick).finish c .ready
      account_nick .success
  | .lookup a new_nick =>
    if r.irc_nicks[toLower new_nick]? ≠ none then s.finish c .ready new_nick (.code 433)
    else if new_nick = star (r.acc a).m_nick then s.finish c .ready new_nick (.code 431)
    else s.goto c (.get a (star (r.acc a).m_nick) new_nick)
  | .get a old_nick new_nick =>
    s.goto c (.test a old_nick new_nick r.irc_nicks[toLower new_nick]?)
  | .test a old_nick new_nick irc_nick_ptr =>
    if irc_nick_ptr ≠ none ∧ r.irc_nicks[toLower new_nick]? ≠ some a then
      s.finish c .ready new_nick (.code 433)
    else s.goto c (.write a old_nick new_nick)
  | .write a old_nick new_nick =>
    ({ s with
      reg := { r with
        irc_nicks := (r.irc_nicks.erase old_nick).insert (toLower new_nick) a } }.setClaim a
          (toLower new_nick)).goto c (.publish a new_nick)
  | .publish a new_nick =>
    { s with reg := r.updAcc a fun k => { k with m_nick := new_nick } }.finish c .ready new_nick
      .success

def act (s : Threads) : Act → Threads
  | .register c n =>
    match s.pc c, (s.reg.conn c).m_account with
    | .setup, none =>
      { s with reg := s.reg.updConn c fun k => { k with m_nick := n } }.goto c (.check n)
    | .setup, some a => s.goto c (.insert a (star (s.reg.acc a).m_nick))
    | _, _ => s
  | .nick c n =>
    match s.pc c, (s.reg.conn c).m_account with
    | .ready, some a => s.goto c (.lookup a n)
    | _, _ => s
  | .go c => s.runSection c

def step (s : Threads) (x : Act) : Except Fault Threads := .ok (s.act x)

/-! ## sections without interleaving -/

section
variable {s : Threads} {c : ConnId}

@[simp] theorem goto_pc (pc : Pc) (s : Threads) : (s.goto c pc).pc c = pc := if_pos rfl
@[simp] theorem goto_reg (pc : Pc) (s : Threads) : (s.goto c pc).reg = s.reg := rfl

theorem runSection_create {n : Bytes} (h : s.pc c = .create n) :
    s.runSection c = { s with
      reg := (s.reg.createAccount c).updConn c fun k =>
        { k with m_account := some s.reg.nextAcc } }.goto c (.insert s.reg.nextAcc (star n)) := by
  unfold runSection
  rw [h]

theorem runSection_insert {a : AccId} {n : Bytes} (h : s.pc c = .insert a n) :
    s.runSection c =
      ({ s with reg := s.reg.attachAs c a n }.setClaim a n).finish c .ready n .success := by
  unfold runSection
  rw [h]

theorem runSection_write {a : AccId} {old new : Bytes} (h : s.pc c = .write a old new) :
    s.runSection c =
      ({ s with
        reg := { s.reg with
          irc_nicks := (s.reg.irc_nicks.erase old).insert (toLower new) a } }.setClaim a
            (toLower new)).goto c (.publish a new) := by
  unfold runSection
  rw [h]

theorem runSection_publish {a : AccId} {new : Bytes} (h : s.pc c = .publish a new) :
    s.runSection c =
      { s with reg := s.reg.updAcc a fun k => { k with m_nick := new } }.finish c .ready new
        .success := by
  unfold runSection
  rw [h]

theorem attachAs_star (c : ConnId) (a : AccId) (r : Reg) :
    r.attachAs c a (star (r.acc a).m_nick) = r.attach c a := rfl

/-- with a free nick, a registration on its own is that of the registration machine -/
theorem registered_alone {n : Bytes} (hpc : s.pc c = .setup)
    (hacc : (s.reg.conn c).m_account = none) (hnick : (s.reg.conn c).m_nick = n)
    (hfree : s.reg.irc_nicks[toLower n]? = none) :
    ∃ s', run step s [.register c n, .go c, .go c, .go c] = .ok s' ∧ s'.pc c = .ready ∧
      s'.reg = (s.reg.createAccount c).attach c s.reg.nextAcc := by
  have hsame : (s.reg.updConn c fun k => { k with m_nick := n }) = s.reg := by
    apply Reg.updConn_self
    rw [← hnick]
  have h1 : s.act (.register c n) = s.goto c (.check n) := by
    unfold act
    dsimp only
    rw [hpc, hacc]
    show { s with reg := s.reg.updConn c fun k => { k with m_nick := n } }.goto c (.check n) = _
    rw [hsame]
  have h2 : (s.goto c (.check n)).runSection c = (s.goto c (.check n)).goto c (.create n) := by
    unfold runSection
    rw [goto_pc]
    exact if_neg (not_not.mpr hfree)
  have h3 := runSection_create (s := (s.goto c (.check n)).goto c (.create n)) (goto_pc _ _)
  refine ⟨_, rfl, ?_, ?_⟩
  · show (((s.act (.register c n)).runSection c).runSection c |>.runSection c).pc c = _
    rw [h1, h2, h3, runSection_insert (goto_pc _ _)]
    exact if_pos rfl
  · show (((s.act (.register c n)).runSection c).runSection c |>.runSection c).reg = _
    rw [h1, h2, h3, runSection_insert (goto_pc _ _)]
    show ((s.reg.createAccount c).updConn c fun k =>
      { k with m_account := some s.reg.nextAcc }).attachAs c s.reg.nextAcc (star n) = _
    have hstar : star ((s.reg.createAccount c).acc s.reg.nextAcc).m_nick = star n := by
      rw [← hnick]
      exact congrArg star (congrArg AccReg.m_nick (if_pos rfl))
    rw [← attachAs_star, hstar]
    unfold Reg.attachAs
    rw [Reg.updConn_updConn]

/-- with a free nick, a change on its own is that of the registration machine -/
theorem changed_alone {a : AccId} {n : Bytes} (hpc : s.pc c = .ready)
    (hacc : (s.reg.conn c).m_account = some a) (hfree : s.reg.irc_nicks[toLower n]? = none)
    (hne : n ≠ star (s.reg.acc a).m_nick) :
    ∃ s', run step s [.nick c n, .go c, .go c, .go c, .go c, .go c] = .ok s' ∧ s'.pc c = .ready ∧
      s'.reg = s.reg.rename a a (star (s.reg.acc a).m_nick) n := by
  obtain ⟨old, hold⟩ : ∃ old, old = star (s.reg.acc a).m_nick := ⟨_, rfl⟩
  rw [← hold] at hne ⊢
  have h1 : s.act (.nick c n) = s.goto c (.lookup a n) := by
    unfold act
    dsimp only
    rw [hpc, hacc]
  have h2 (s1 : Threads) (hpc1 : s1.pc c = .lookup a n) (hreg : s1.reg = s.reg) :
      s1.runSection c = s1.goto c (.get a old n) := by
    unfold runSection
    rw [hpc1, hreg]
    dsimp only
    rw [if_neg (not_not.mpr hfree), ← hold, if_neg hne]
  have h3 (s1 : Threads) (hpc1 : s1.pc c = .get a old n) (hreg : s1.reg = s.reg) :
      s1.runSection c = s1.goto c (.test a old n none) := by
    unfold runSection
    rw [hpc1, hreg]
    dsimp only
    rw [hfree]
  have h4 (s1 : Threads) (hpc1 : s1.pc c = .test a old n none) :
      s1.runSection c = s1.goto c (.write a old n) := by
    unfold runSection
    rw [hpc1]
    exact if_neg fun h => h.1 rfl
  -- up to the write block only the program counter moves
  obtain ⟨s4, hs4⟩ : ∃ s4, s4 = (((s.goto c (.lookup a n)).goto c (.get a old n)).goto c
    (.test a old n none)).goto c (.write a old n) := ⟨_, rfl⟩
  have hchecks : (((s.act (.nick c n)).runSection c).runSection c).runSection c = s4 := by
    rw [h1, h2 (s.goto c (.lookup a n)) (goto_pc _ _) rfl,
      h3 ((s.goto c (.lookup a n)).goto c (.get a old n)) (goto_pc _ _) rfl, h4 _ (goto_pc _ _), hs4]
  have hreg : s4.reg = s.reg := by
    rw [hs4]
    rfl
  have hpc4 : s4.pc c = .write a old n := by
    rw [hs4]
    exact goto_pc _ _
  refine ⟨_, rfl, ?_, ?_⟩
  · show ((((((s.act (.nick c n)).runSection c).runSection c).runSection c).runSection c).runSection
      c).pc c = _
    rw [hchecks, runSection_write hpc4, runSection_publish (goto_pc _ _)]
    exact if_pos rfl
  · show ((((((s.act (.nick c n)).runSection c).runSection c).runSection c).runSection c).runSection
      c).reg = _
    rw [hchecks, runSection_write hpc4, runSection_publish (goto_pc _ _), ← hreg]
    rfl

end

/-! ## who holds a nick -/

/-- no two accounts hold the same nick -/
def Exclusive (s : Threads) : Prop :=
  ∀ a b key, s.claim a = some key → s.claim b = some key → a = b

/-- an account is entered under the nick that it holds -/
def ClaimInv (s : Threads) : Prop := ∀ a key, s.claim a = some key → s.reg.irc_nicks[key]? = some a

section
variable {s : Threads}

theorem ClaimInv.exclusive (h : ClaimInv s) : Exclusive s := by
  intro a b key ha hb
  have hentry := h a key ha
  rw [h b key hb] at hentry
  exact (Option.some.inj hentry).symm

/-- a step that touches neither the claims nor the nicks -/
theorem ClaimInv.congr {s' : Threads} (h : ClaimInv s) (hclaim : s'.claim = s.claim)
    (hnicks : s'.reg.irc_nicks = s.reg.irc_nicks) : ClaimInv s' := by
  intro a key ha
  rw [hclaim] at ha
  rw [hnicks]
  exact h a key ha

/-- an entry that nobody else holds may be overwritten -/
theorem ClaimInv.enter {s' : Threads} {a : AccId} {key : Bytes} (h : ClaimInv s)
    (hfree : s.reg.freeOrOwn a key = true)
    (hclaim : ∀ x, s'.claim x = if x = a then some key else s.claim x)
    (hkey : s'.reg.irc_nicks[key]? = some a)
    (hrest : ∀ b k, b ≠ a → k ≠ key → s.reg.irc_nicks[k]? = some b →
      s'.reg.irc_nicks[k]? = some b) : ClaimInv s' := by
  intro b k hb
  rw [hclaim] at hb
  by_cases hba : b = a
  · rw [if_pos hba] at hb
    rw [← Option.some.inj hb, hba]
    exact hkey
  · rw [if_neg hba] at hb
    have hentry := h b k hb
    have hk : k ≠ key := by
      intro he
      unfold Reg.freeOrOwn at hfree
      rw [← he, hentry] at hfree
      have hab : b = a := by simpa using hfree
      exact hba hab
    exact hrest b k hba hk hentry

/-- an attempt ends with the nick, with 433, or with 431 when the account has that nick -/
def Answered (s : Threads) : Prop :=
  ∀ p ∈ s.answers, p.2.2 = .success ∨ p.2.2 = .code 433 ∨ p.2.2 = .code 431

theorem Answered.finish {c : ConnId} {pc : Pc} {n : Bytes} {answer : Answer} (h : Answered s)
    (ha : answer = .success ∨ answer = .code 433 ∨ answer = .code 431) :
    Answered (s.finish c pc n answer) := by
  intro p hp
  rcases List.mem_append.mp hp with hp | hp
  · exact h p hp
  · rw [List.mem_singleton.mp hp]
    exact ha

end

end Threads

end Chatripper
