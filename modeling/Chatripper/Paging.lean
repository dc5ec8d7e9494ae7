import Mathlib
import Chatripper.Core.Startup

/-!
# The loaders read their tables page by page

`account_get_all` and `channel_get_all` ask for a hundred rows at a time, without an `ORDER BY`: each
query may have the rows in an order of its own.

* `account_get_all_eq`      the calls of `create_from_db` are for the rows that are seen;
* `account_get_all_fixed`   with one order for all queries this is the loader of the initial load;
* `paged_once_iff`          when `create_from_db` is called once for each row.
-/

namespace Chatripper
open ByteStr Pages

namespace Paging

section
variable {ρ σ : Type}

/-- a step of a loop, with the rows so far -/
def recorded (f : σ → ρ → σ) (p : List ρ × σ) (row : ρ) : List ρ × σ := (p.1 ++ [row], f p.2 row)

theorem foldl_recorded (f : σ → ρ → σ) (rows called : List ρ) (s : σ) :
    rows.foldl (recorded f) (called, s) = (called ++ rows, rows.foldl f s) := by
  induction rows generalizing called s with
  | nil => simp
  | cons row rows ih =>
    rw [List.foldl_cons]
    refine (ih (called ++ [row]) (f s row)).trans ?_
    simp

/-- there is one call for each row -/
def CalledOnce [DecidableEq ρ] (rows called : List ρ) : Prop := ∀ r ∈ rows, called.count r = 1

end

section
variable (s : Startup)

/-- `account_get_all`, with the rows that it calls `create_from_db` for -/
def account_get_all (q : Answers s.tables.accounts) : List AccountRow × List AccId × Startup :=
  foldAnswers 100 (recorded Startup.append_account) q 0 ([], [], s)

/-- `channel_get_all`, with the rows that it calls `create_from_db` for -/
def channel_get_all (q : Answers s.tables.channels) : List ChannelRow × List ChanId × Startup :=
  foldAnswers 100 (recorded Startup.append_channel) q 0 ([], [], s)

theorem account_get_all_eq (q : Answers s.tables.accounts) : account_get_all s q =
    (seen 100 q 0, (seen 100 q 0).foldl Startup.append_account ([], s)) := by
  unfold account_get_all
  rw [foldAnswers_eq, foldl_recorded, List.nil_append]

theorem channel_get_all_eq (q : Answers s.tables.channels) : channel_get_all s q =
    (seen 100 q 0, (seen 100 q 0).foldl Startup.append_channel ([], s)) := by
  unfold channel_get_all
  rw [foldAnswers_eq, foldl_recorded, List.nil_append]

theorem account_get_all_fixed :
    (account_get_all s (Answers.fixed s.tables.accounts)).2 = s.account_get_all := by
  rw [account_get_all_eq, ← foldAnswers_eq, foldAnswers_fixed]
  rfl

theorem channel_get_all_fixed :
    (channel_get_all s (Answers.fixed s.tables.channels)).2 = s.channel_get_all := by
  rw [channel_get_all_eq, ← foldAnswers_eq, foldAnswers_fixed]
  rfl

/-- **Each row once.**  `account_get_all` and `channel_get_all` call `create_from_db` once for each row
if and only if no two of their queries return a row in common; so it is whatever the orders if and
only if the table has at most a hundred rows. -/
theorem paged_once_iff :
    (∀ q : Answers s.tables.accounts, q.Complete →
        (CalledOnce s.tables.accounts (account_get_all s q).1 ↔ Apart 100 q)) ∧
      (∀ q : Answers s.tables.channels, q.Complete →
        (CalledOnce s.tables.channels (channel_get_all s q).1 ↔ Apart 100 q)) ∧
      ((∀ q : Answers s.tables.accounts, q.Complete →
          CalledOnce s.tables.accounts (account_get_all s q).1) ↔ s.tables.accounts.length ≤ 100) ∧
      ((∀ q : Answers s.tables.channels, q.Complete →
          CalledOnce s.tables.channels (channel_get_all s q).1) ↔
        s.tables.channels.length ≤ 100) := by
  have haccounts (q : Answers s.tables.accounts) (hq : q.Complete) :
      CalledOnce s.tables.accounts (account_get_all s q).1 ↔ Apart 100 q := by
    rw [account_get_all_eq]
    exact seen_once_iff hq (by decide) s.tables.account_id.of_map
  have hchannels (q : Answers s.tables.channels) (hq : q.Complete) :
      CalledOnce s.tables.channels (channel_get_all s q).1 ↔ Apart 100 q := by
    rw [channel_get_all_eq]
    exact seen_once_iff hq (by decide) s.tables.channel_id.of_map
  refine ⟨haccounts, hchannels, ?_, ?_⟩
  · rw [← apart_all_iff (by decide)]
    exact forall_congr' fun q => forall_congr' fun hq => haccounts q hq
  · rw [← apart_all_iff (by decide)]
    exact forall_congr' fun q => forall_congr' fun hq => hchannels q hq

end

/-! ## a hundred and one accounts -/

def account (i : Nat) : AccountRow := ⟨i + 1, List.replicate i 97, []⟩

def hundredMore : List AccountRow := (List.range 100).map fun i => account (i + 1)

theorem hundredAndOne : account 0 :: hundredMore = (List.range 101).map account := by
  unfold hundredMore
  rw [List.range_succ_eq_map, List.map_cons, List.map_map]
  rfl

def crowd : Tables where
  accounts := account 0 :: hundredMore
  servers := []
  channels := []
  account_channels := []
  account_id := by
    rw [hundredAndOne, List.map_map]
    exact List.nodup_range.map fun i j h => Nat.succ.inj h
  username := by
    rw [hundredAndOne, List.map_map]
    refine List.nodup_range.map fun i j h => ?_
    simpa [account] using congrArg List.length h
  server_id := List.nodup_nil
  channel_id := List.nodup_nil
  server_name := List.nodup_nil
  joined_once := List.nodup_nil
  server_owner := nofun
  channel_server := nofun
  channel_owner := nofun
  joined_account := nofun
  joined_channel := nofun

/-- the second query has the first row again -/
theorem paged_twice : ∃ q : Answers crowd.accounts, q.Complete ∧
    ¬ CalledOnce crowd.accounts (account_get_all (Startup.ofTables crowd) q).1 := by
  have hlen : 100 ≤ hundredMore.length := by
    unfold hundredMore
    rw [List.length_map, List.length_range]
  have hq : (Answers.turned 100 (account 0) hundredMore).Complete := Answers.turned_complete _ _ _
  refine ⟨Answers.turned 100 (account 0) hundredMore, hq, fun h => ?_⟩
  have hcalled : (account_get_all (Startup.ofTables crowd)
      (Answers.turned 100 (account 0) hundredMore)).1 =
        seen 100 (Answers.turned 100 (account 0) hundredMore) 0 :=
    congrArg Prod.fst (account_get_all_eq (Startup.ofTables crowd) _)
  rw [hcalled] at h
  have hapart : Apart 100 (Answers.turned 100 (account 0) hundredMore) :=
    (seen_once_iff hq (by decide) crowd.account_id.of_map).mp h
  exact turned_not_apart (by decide) hlen hapart

end Paging

end Chatripper
