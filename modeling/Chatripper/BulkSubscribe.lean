import Mathlib
import Chatripper.Core.Database

/-!
# Subscribing to many keys

`metadata_subscribe_bulk` with every statement that may fail.  Rows are inserted in batches, one
statement for each row, and a failed one rolls the transaction back, if there is one: the result of
`db.transaction()` is not looked at.

* `execBatch_spec`           a batch is inserted up to the first statement that fails;
* `Filled.keys`, `Failed`    the loop has passed the rows of the keys so far, or has failed;
* `bulk_all_or_nothing_iff`  all of the named rows are subscribed to, or none.
-/

namespace Chatripper
open ByteStr Utf8

/-- the subscriptions, and as they were when the open transaction began -/
structure SubTable where
  subs : List SubRow
  begun : Option (List SubRow) := none

namespace SubTable

def transaction (fails : Bool) (s : SubTable) : SubTable :=
  if fails then s else { s with begun := some s.subs }

def rollback (s : SubTable) : SubTable := { subs := s.begun.getD s.subs }

def commit (s : SubTable) : SubTable := { s with begun := none }

/-- `INSERT ... ON CONFLICT (metadata_id, account_id) DO NOTHING` -/
def insert (row : SubRow) (s : SubTable) : SubTable :=
  { s with subs := if row ∈ s.subs then s.subs else s.subs ++ [row] }

def insertAll (rows : List SubRow) (s : SubTable) : SubTable := rows.foldl (fun s row => s.insert row) s

end SubTable

/-- which statements of a call fail; the inserts are counted -/
structure Failures where
  transaction : Bool := false
  select : Bool := false
  insert : Nat → Bool := fun _ => false

namespace sql

def INSERT_BATCH_SIZE : Nat := 500

/-- a row to insert and the place in the list of the key that it is for -/
abbrev Placed := Nat × SubRow

/-- the locals of `metadata_subscribe_bulk`: `batch` stands for the lists of ids, `passed` and
`executed` record what was passed to `execBatch` and how many rows it has tried -/
structure Bulk where
  session : SubTable
  batch : List Placed := []
  count : Nat := 0
  ok : Bool := true
  passed : List (List Placed) := []
  executed : Nat := 0

/-- `execBatch`: the statement is executed for one row after the other -/
def execBatch (fails : Nat → Bool) : List Placed → Nat → SubTable → Bool × Nat × SubTable
  | [], executed, s => (true, executed, s)
  | row :: rows, executed, s =>
    if fails executed then (false, executed + 1, s)
    else execBatch fails rows (executed + 1) (s.insert row.2)

def flush (fails : Nat → Bool) (b : Bulk) : Bulk :=
  if b.batch = [] then b
  else
    let (ok, executed, session) := execBatch fails b.batch b.executed b.session
    let b := { b with passed := b.passed ++ [b.batch], executed := executed, session := session }
    if ok then { b with batch := [] } else { b with ok := false }

/-- the loop over the keys, with the place of the first of them -/
def subscribeLoop (fails : Nat → Bool) (keyToMetadataId : QMap Bytes Uuid) (account_id : Uuid) :
    List Bytes → Nat → Bulk → Bulk
  | [], _, b => b
  | k :: keys, place, b =>
    let metadata_id := keyToMetadataId[k]?.getD 0
    if metadata_id = 0 then subscribeLoop fails keyToMetadataId account_id keys (place + 1) b
    else
      let b := { b with
        batch := b.batch ++ [(place, ⟨metadata_id, account_id⟩)], count := b.count + 1 }
      if b.count % INSERT_BATCH_SIZE = 0 then
        let b := flush fails b
        if b.ok then subscribeLoop fails keyToMetadataId account_id keys (place + 1) b else b
      else subscribeLoop fails keyToMetadataId account_id keys (place + 1) b

/-- how a call ends: what it returns, the batches and the tables -/
structure Ended where
  returned : Bool
  passed : List (List Placed)
  session : SubTable

def metadata_subscribe_bulk (f : Failures) (ref_id : Uuid) (keys : List Bytes) (account_id : Uuid)
    (db : Database) : Ended :=
  let s : SubTable := { subs := db.metadata_subs }
  if keys = [] then ⟨false, [], s⟩
  else
    let s := s.transaction f.transaction
    if f.select then ⟨false, [], s.rollback⟩
    else
      let keyToMetadataId := db.resolve ref_id keys
      if keyToMetadataId.isEmpty then ⟨false, [], s.rollback⟩
      else
        let b := subscribeLoop f.insert keyToMetadataId account_id keys 0 { session := s }
        if b.ok then
          let b := flush f.insert b
          if b.ok then ⟨true, b.passed, b.session.commit⟩ else ⟨false, b.passed, b.session.rollback⟩
        else ⟨false, b.passed, b.session.rollback⟩

/-! ## what a call is for -/

/-- the row of metadata that a key names -/
def rowOf (db : Database) (ref_id : Uuid) (k : Bytes) : Option Uuid :=
  (db.metadata.find? (Database.isFor ref_id (fromUtf8 k))).map fun r => r.id

/-- one row for each place whose key has one -/
def wanted (ids : Bytes → Option Uuid) (account_id : Uuid) : List Bytes → Nat → List Placed
  | [], _ => []
  | k :: keys, place =>
    ((ids k).toList.map fun id => (place, ⟨id, account_id⟩)) ++ wanted ids account_id keys (place + 1)

/-- on success every key that has a row is subscribed to, once for each place in the list, and the
transaction is over; on failure the tables are as before -/
structure AllOrNothing (ref_id : Uuid) (keys : List Bytes) (account_id : Uuid) (db : Database)
    (o : Ended) : Prop where
  all : o.returned = true → o.passed.flatten = wanted (rowOf db ref_id) account_id keys 0 ∧
    (∀ batch ∈ o.passed, batch.length ≤ INSERT_BATCH_SIZE) ∧
      o.session = (SubTable.insertAll (o.passed.flatten.map Prod.snd) { subs := db.metadata_subs })
  nothing : o.returned = false → o.session = { subs := db.metadata_subs }

end sql

namespace SubTable

/-- the subscriptions with more rows -/
def stored (rows subs : List SubRow) : List SubRow :=
  rows.foldl (fun subs row => if row ∈ subs then subs else subs ++ [row]) subs

section
variable {rows more subs : List SubRow} {s : SubTable}

theorem insertAll_eq : insertAll rows s = { s with subs := stored rows s.subs } := by
  unfold insertAll stored
  induction rows generalizing s with
  | nil => rfl
  | cons row rows ih => exact ih

theorem insertAll_append : insertAll (rows ++ more) s = insertAll more (insertAll rows s) :=
  List.foldl_append

theorem length_le_stored : subs.length ≤ (stored rows subs).length := by
  unfold stored
  induction rows generalizing subs with
  | nil => exact le_refl _
  | cons row rows ih =>
    rw [List.foldl_cons]
    refine le_trans ?_ ih
    split
    · exact le_refl _
    · rw [List.length_append]
      exact Nat.le_add_right _ _

/-- nothing new is stored if and only if every row is there -/
theorem stored_eq_iff : stored rows subs = subs ↔ ∀ row ∈ rows, row ∈ subs := by
  induction rows generalizing subs with
  | nil => exact iff_of_true rfl fun _ h => absurd h List.not_mem_nil
  | cons row rows ih =>
    have hstep : stored (row :: rows) subs =
        stored rows (if row ∈ subs then subs else subs ++ [row]) := rfl
    rw [hstep, List.forall_mem_cons]
    by_cases h : row ∈ subs
    · rw [if_pos h, ih]
      exact (and_iff_right h).symm
    · rw [if_neg h]
      refine iff_of_false (fun he => ?_) fun hand => h hand.1
      have hlen : (subs ++ [row]).length ≤ (stored rows (subs ++ [row])).length := length_le_stored
      rw [he, List.length_append] at hlen
      exact absurd hlen (Nat.not_succ_le_self _)

end
end SubTable

namespace sql

section
variable {fails : Nat → Bool} {s0 : SubTable} {done : List Placed} {b : Bulk}

/-! ## a batch -/

/-- the inserts of some rows, in the tables as they were -/
def inserted (rows : List Placed) (s : SubTable) : SubTable := s.insertAll (rows.map Prod.snd)

theorem execBatch_ok {rows : List Placed} {n : Nat} {s : SubTable}
    (h : ∀ j < rows.length, fails (n + j) = false) :
    execBatch fails rows n s = (true, n + rows.length, inserted rows s) := by
  induction rows generalizing n s with
  | nil => rfl
  | cons row rows ih =>
    have hfirst : fails n = false := h 0 (Nat.succ_pos _)
    rw [execBatch, hfirst, if_neg Bool.false_ne_true, ih fun j hj => ?_, List.length_cons]
    · rw [Nat.add_right_comm, Nat.add_assoc]
      rfl
    · have hnext := h (j + 1) (Nat.succ_lt_succ hj)
      rwa [Nat.add_right_comm, Nat.add_assoc]

theorem execBatch_failed {rows : List Placed} {n j : Nat} {s : SubTable} (hj : j < rows.length)
    (hbefore : ∀ i < j, fails (n + i) = false) (hfail : fails (n + j) = true) :
    execBatch fails rows n s = (false, n + j + 1, inserted (rows.take j) s) := by
  induction rows generalizing n j s with
  | nil => exact absurd hj (Nat.not_lt_zero _)
  | cons row rows ih =>
    cases j with
    | zero =>
      rw [execBatch, show fails n = true from hfail, if_pos rfl]
      rfl
    | succ j =>
      have hfirst : fails n = false := hbefore 0 (Nat.succ_pos _)
      have hshift (i : Nat) : n + 1 + i = n + (i + 1) := by omega
      rw [execBatch, hfirst, if_neg Bool.false_ne_true,
        ih (Nat.lt_of_succ_lt_succ hj)
          (fun i hi => by rw [hshift]; exact hbefore _ (Nat.succ_lt_succ hi))
          (by rw [hshift]; exact hfail), hshift]
      rfl

/-- the statements of some rows succeed, or one is the first to fail -/
theorem first_failure (fails : Nat → Bool) (n : Nat) : (∀ j < n, fails j = false) ∨
    ∃ j < n, (∀ i < j, fails i = false) ∧ fails j = true := by
  induction n with
  | zero => exact .inl fun _ h => absurd h (Nat.not_lt_zero _)
  | succ n ih =>
    rcases ih with hall | ⟨j, hj, h⟩
    · cases hn : fails n with
      | true => exact .inr ⟨n, Nat.lt_succ_self n, hall, hn⟩
      | false =>
        refine .inl fun j hj => ?_
        rcases Nat.lt_succ_iff_lt_or_eq.mp hj with hj | rfl
        · exact hall j hj
        · exact hn
    · exact .inr ⟨j, Nat.lt_succ_of_lt hj, h⟩

/-! ## the loop -/

/-- the rows so far are passed or wait in the batch -/
structure Filled (fails : Nat → Bool) (s0 : SubTable) (done : List Placed) (b : Bulk) : Prop where
  rows : b.passed.flatten ++ b.batch = done
  session : b.session = inserted b.passed.flatten s0
  ok : b.ok = true
  executed : b.executed = b.passed.flatten.length
  succeeded : ∀ j < b.passed.flatten.length, fails j = false
  batch_size : b.batch.length ≤ INSERT_BATCH_SIZE
  sizes : ∀ batch ∈ b.passed, batch.length ≤ INSERT_BATCH_SIZE

/-- the rows up to one whose statement failed were inserted -/
def Failed (fails : Nat → Bool) (s0 : SubTable) (all : List Placed) (b : Bulk) : Prop :=
  b.ok = false ∧ ∃ j < all.length, (∀ i < j, fails i = false) ∧ fails j = true ∧
    b.session = inserted (all.take j) s0

theorem Failed.more (h : Failed fails s0 done b) (rest : List Placed) :
    Failed fails s0 (done ++ rest) b := by
  obtain ⟨hok, j, hj, hbefore, hfail, hsession⟩ := h
  refine ⟨hok, j, ?_, hbefore, hfail, ?_⟩
  · rw [List.length_append]
    exact Nat.lt_add_right _ hj
  · rw [List.take_append_of_le_length (Nat.le_of_lt hj)]
    exact hsession

theorem flush_spec (h : Filled fails s0 done b) :
    (Filled fails s0 done (flush fails b) ∧ (flush fails b).batch = [] ∧
      (flush fails b).count = b.count) ∨ Failed fails s0 done (flush fails b) := by
  by_cases hbatch : b.batch = []
  · have hflush : flush fails b = b := if_pos hbatch
    rw [hflush]
    exact .inl ⟨h, hbatch, rfl⟩
  rcases first_failure (fun i => fails (b.executed + i)) b.batch.length with
    hall | ⟨j, hj, hbefore, hfail⟩
  · have hflush : flush fails b = { b with
        passed := b.passed ++ [b.batch], executed := b.executed + b.batch.length
        session := inserted b.batch b.session, batch := [] } := by
      unfold flush
      rw [if_neg hbatch, execBatch_ok hall]
      rfl
    have hflat : (b.passed ++ [b.batch]).flatten = done := by
      rw [List.flatten_append, List.flatten_singleton, h.rows]
    rw [hflush]
    refine .inl ⟨⟨?_, ?_, h.ok, ?_, ?_, Nat.zero_le _, ?_⟩, rfl, rfl⟩
    · rw [List.append_nil]
      exact hflat
    · show inserted b.batch b.session = inserted (b.passed ++ [b.batch]).flatten s0
      rw [hflat, ← h.rows, h.session]
      unfold inserted
      rw [List.map_append, SubTable.insertAll_append]
    · show b.executed + b.batch.length = (b.passed ++ [b.batch]).flatten.length
      rw [hflat, ← h.rows, List.length_append, h.executed]
    · show ∀ j < (b.passed ++ [b.batch]).flatten.length, fails j = false
      rw [hflat, ← h.rows, List.length_append]
      intro j hj
      by_cases hpassed : j < b.passed.flatten.length
      · exact h.succeeded j hpassed
      · have hin := hall (j - b.executed) (by have := h.executed; omega)
        rwa [h.executed, Nat.add_sub_cancel' (Nat.not_lt.mp hpassed)] at hin
    · intro batch hin
      rcases List.mem_append.mp hin with hin | hin
      · exact h.sizes batch hin
      · rw [List.mem_singleton.mp hin]
        exact h.batch_size
  · have hflush : flush fails b = { b with
        passed := b.passed ++ [b.batch], executed := b.executed + j + 1
        session := inserted (b.batch.take j) b.session, ok := false } := by
      unfold flush
      rw [if_neg hbatch, execBatch_failed hj hbefore hfail]
      rfl
    rw [hflush]
    refine .inr ⟨rfl, b.executed + j, ?_, fun i hi => ?_, hfail, ?_⟩
    · rw [← h.rows, List.length_append, h.executed]
      omega
    · by_cases hpassed : i < b.passed.flatten.length
      · exact h.succeeded i hpassed
      · have hin := hbefore (i - b.executed) (by have := h.executed; omega)
        rwa [h.executed, Nat.add_sub_cancel' (Nat.not_lt.mp hpassed)] at hin
    · show inserted (b.batch.take j) b.session = _
      rw [h.session, ← h.rows, h.executed, List.take_length_add_append]
      unfold inserted
      rw [List.map_append, SubTable.insertAll_append]

/-- what the loop finds for a key -/
def foundId (keyToMetadataId : QMap Bytes Uuid) (k : Bytes) : Option Uuid :=
  keyToMetadataId[k]?.filter (· != 0)

theorem wanted_cons (ids : Bytes → Option Uuid) (account_id : Uuid) (k : Bytes) (keys : List Bytes)
    (place : Nat) : wanted ids account_id (k :: keys) place =
      ((ids k).toList.map fun id => (place, ⟨id, account_id⟩)) ++
        wanted ids account_id keys (place + 1) := rfl

/-- one row more in the batch -/
theorem Filled.push (h : Filled fails s0 done b) (hroom : b.batch.length < INSERT_BATCH_SIZE)
    (row : Placed) : Filled fails s0 (done ++ [row])
      { b with batch := b.batch ++ [row], count := b.count + 1 } where
  rows := by
    show b.passed.flatten ++ (b.batch ++ [row]) = _
    rw [← List.append_assoc, h.rows]
  session := h.session
  ok := h.ok
  executed := h.executed
  succeeded := h.succeeded
  batch_size := by
    show (b.batch ++ [row]).length ≤ _
    rw [List.length_append]
    exact hroom
  sizes := h.sizes

section
variable {keyToMetadataId : QMap Bytes Uuid} {account_id : Uuid} {keys : List Bytes} {k : Bytes}
  {place : Nat}

theorem foundId_eq_none : foundId keyToMetadataId k = none ↔ keyToMetadataId[k]?.getD 0 = 0 := by
  unfold foundId
  cases keyToMetadataId[k]? with
  | none => exact iff_of_true rfl rfl
  | some id =>
    rw [Option.filter_some, Option.getD_some]
    by_cases hid : id = 0
    · rw [hid]
      exact iff_of_true rfl rfl
    · rw [if_pos (bne_iff_ne.mpr hid)]
      exact iff_of_false (Option.some_ne_none _) hid

theorem subscribeLoop_skip (h : foundId keyToMetadataId k = none) :
    subscribeLoop fails keyToMetadataId account_id (k :: keys) place b =
      subscribeLoop fails keyToMetadataId account_id keys (place + 1) b := by
  rw [subscribeLoop]
  exact if_pos (foundId_eq_none.mp h)

theorem subscribeLoop_found {id : Uuid} (h : foundId keyToMetadataId k = some id) {b1 : Bulk}
    (hb1 : b1 = { b with batch := b.batch ++ [(place, ⟨id, account_id⟩)], count := b.count + 1 }) :
    subscribeLoop fails keyToMetadataId account_id (k :: keys) place b =
      if b1.count % INSERT_BATCH_SIZE = 0 then
        if (flush fails b1).ok then
          subscribeLoop fails keyToMetadataId account_id keys (place + 1) (flush fails b1)
        else flush fails b1
      else subscribeLoop fails keyToMetadataId account_id keys (place + 1) b1 := by
  have hid : keyToMetadataId[k]?.getD 0 = id := by
    obtain ⟨hget, -⟩ := Option.filter_eq_some_iff.mp h
    rw [hget, Option.getD_some]
  have hne : ¬keyToMetadataId[k]?.getD 0 = 0 := fun h0 => by
    rw [foundId_eq_none.mpr h0] at h
    cases h
  rw [subscribeLoop]
  dsimp only
  rw [if_neg hne, hid]
  subst hb1
  rfl

/-- the loop passes the rows of its keys in order, or fails at one of them -/
theorem subscribeLoop_spec (h : Filled fails s0 done b)
    (hcount : b.batch.length = b.count % INSERT_BATCH_SIZE) :
    Filled fails s0 (done ++ wanted (foundId keyToMetadataId) account_id keys place)
        (subscribeLoop fails keyToMetadataId account_id keys place b) ∨
      Failed fails s0 (done ++ wanted (foundId keyToMetadataId) account_id keys place)
        (subscribeLoop fails keyToMetadataId account_id keys place b) := by
  induction keys generalizing done place b with
  | nil => exact .inl ((List.append_nil done).symm ▸ h)
  | cons k keys ih =>
    rw [wanted_cons]
    cases hfound : foundId keyToMetadataId k with
    | none =>
      rw [subscribeLoop_skip hfound]
      exact ih h hcount
    | some id =>
      have hroom : b.batch.length < INSERT_BATCH_SIZE := hcount ▸ Nat.mod_lt _ (by decide)
      obtain ⟨b1, hb1⟩ : ∃ b1, b1 = { b with
        batch := b.batch ++ [(place, (⟨id, account_id⟩ : SubRow))], count := b.count + 1 } := ⟨_, rfl⟩
      have h1 : Filled fails s0 (done ++ [(place, (⟨id, account_id⟩ : SubRow))]) b1 := by
        rw [hb1]
        exact h.push hroom _
      have happend : done ++ ((some id).toList.map (fun id => (place, (⟨id, account_id⟩ : SubRow))) ++
          wanted (foundId keyToMetadataId) account_id keys (place + 1)) =
          done ++ [(place, ⟨id, account_id⟩)] ++
            wanted (foundId keyToMetadataId) account_id keys (place + 1) :=
        (List.append_assoc _ _ _).symm
      rw [subscribeLoop_found hfound hb1, happend]
      split
      · next hfull =>
        rcases flush_spec h1 with ⟨h2, hempty, hcount2⟩ | hfailed
        · rw [if_pos h2.ok]
          refine ih h2 ?_
          rw [hempty, hcount2, hfull]
          rfl
        · rw [if_neg (by rw [hfailed.1]; exact Bool.false_ne_true)]
          exact .inr (hfailed.more _)
      · next hpart =>
        refine ih h1 ?_
        rw [hb1] at hpart ⊢
        dsimp only at hpart ⊢
        rw [List.length_append, List.length_singleton, hcount]
        unfold INSERT_BATCH_SIZE at hpart ⊢
        omega

end
end

/-! ## the call -/

section
variable {f : Failures} {ref_id account_id : Uuid} {keys : List Bytes} {db : Database}

/-- the rows that a call inserts when nothing fails -/
def namedRows (ref_id : Uuid) (keys : List Bytes) (account_id : Uuid) (db : Database) : List Placed :=
  wanted (foundId (db.resolve ref_id keys)) account_id keys 0

theorem wanted_none {ids : Bytes → Option Uuid} {place : Nat} (h : ∀ k ∈ keys, ids k = none) :
    wanted ids account_id keys place = [] := by
  induction keys generalizing place with
  | nil => rfl
  | cons k keys ih =>
    obtain ⟨hk, hkeys⟩ := List.forall_mem_cons.mp h
    rw [wanted_cons, hk, ih hkeys]
    rfl

theorem namedRows_of_empty (h : (db.resolve ref_id keys).isEmpty = true) :
    namedRows ref_id keys account_id db = [] := by
  refine wanted_none fun k _ => ?_
  unfold foundId
  rw [Std.ExtTreeMap.isEmpty_iff.mp h]
  rfl

theorem resolve_nil : (db.resolve ref_id []).isEmpty = true := by
  have hnone : (db.metadata.filter fun r =>
      r.ref_id == ref_id && (([] : List Bytes).map fromUtf8).contains r.key) = [] :=
    List.filter_eq_nil_iff.mpr fun r _ => by simp
  unfold Database.resolve
  rw [hnone]
  rfl

/-- how a call ends -/
theorem metadata_subscribe_bulk_cases {o : Ended}
    (ho : metadata_subscribe_bulk f ref_id keys account_id db = o) :
    (o.returned = false ∧ o.session = { subs := db.metadata_subs } ∧
      (f.select = true ∨ (db.resolve ref_id keys).isEmpty = true)) ∨
    (o.returned = true ∧ f.select = false ∧ (db.resolve ref_id keys).isEmpty = false ∧
      (∀ j < (namedRows ref_id keys account_id db).length, f.insert j = false) ∧
      o.passed.flatten = namedRows ref_id keys account_id db ∧
      (∀ batch ∈ o.passed, batch.length ≤ INSERT_BATCH_SIZE) ∧
      o.session = inserted (namedRows ref_id keys account_id db) { subs := db.metadata_subs }) ∨
    (o.returned = false ∧ f.select = false ∧ ∃ j < (namedRows ref_id keys account_id db).length,
      (∀ i < j, f.insert i = false) ∧ f.insert j = true ∧
      o.session = (inserted ((namedRows ref_id keys account_id db).take j)
        (SubTable.transaction f.transaction { subs := db.metadata_subs })).rollback) := by
  have hrollback : (SubTable.transaction f.transaction { subs := db.metadata_subs }).rollback =
      { subs := db.metadata_subs } := by
    unfold SubTable.transaction
    split <;> rfl
  unfold metadata_subscribe_bulk at ho
  by_cases hkeys : keys = []
  · rw [if_pos hkeys] at ho
    subst ho hkeys
    exact .inl ⟨rfl, rfl, .inr resolve_nil⟩
  rw [if_neg hkeys] at ho
  by_cases hselect : f.select = true
  · rw [if_pos hselect] at ho
    subst ho
    exact .inl ⟨rfl, hrollback, .inl hselect⟩
  rw [if_neg hselect] at ho
  by_cases hempty : (db.resolve ref_id keys).isEmpty = true
  · dsimp only at ho
    rw [if_pos hempty] at ho
    subst ho
    exact .inl ⟨rfl, hrollback, .inr hempty⟩
  dsimp only at ho
  rw [if_neg hempty] at ho
  rw [Bool.not_eq_true] at hselect hempty
  have hstart : Filled f.insert (SubTable.transaction f.transaction { subs := db.metadata_subs }) []
      { session := SubTable.transaction f.transaction { subs := db.metadata_subs } } :=
    ⟨rfl, rfl, rfl, rfl, fun _ h => absurd h (Nat.not_lt_zero _), Nat.zero_le _,
      fun _ h => absurd h List.not_mem_nil⟩
  have hloop := @subscribeLoop_spec _ _ _ _ (db.resolve ref_id keys) account_id keys 0 hstart rfl
  generalize subscribeLoop f.insert (db.resolve ref_id keys) account_id keys 0 _ = b at hloop ho
  rw [List.nil_append] at hloop
  have hfailed {b : Bulk} (h : Failed f.insert
      (SubTable.transaction f.transaction { subs := db.metadata_subs })
      (namedRows ref_id keys account_id db) b)
      (hreturned : o.returned = false) (hsession : o.session = b.session.rollback) :
      o.returned = false ∧ f.select = false ∧ ∃ j < (namedRows ref_id keys account_id db).length,
        (∀ i < j, f.insert i = false) ∧ f.insert j = true ∧
        o.session = (inserted ((namedRows ref_id keys account_id db).take j)
          (SubTable.transaction f.transaction { subs := db.metadata_subs })).rollback := by
    obtain ⟨-, j, hj, hbefore, hfail, hb⟩ := h
    exact ⟨hreturned, hselect, j, hj, hbefore, hfail, by rw [hsession, hb]⟩
  rcases hloop with hfilled | hloop
  · rw [if_pos hfilled.ok] at ho
    rcases flush_spec hfilled with ⟨hflushed, hbatch, -⟩ | hflush
    · rw [if_pos hflushed.ok] at ho
      subst ho
      have hrows : (flush f.insert b).passed.flatten = namedRows ref_id keys account_id db := by
        have h := hflushed.rows
        rwa [hbatch, List.append_nil] at h
      refine .inr (.inl ⟨rfl, hselect, hempty, hrows ▸ hflushed.succeeded, hrows, hflushed.sizes, ?_⟩)
      show (flush f.insert b).session.commit = _
      rw [hflushed.session, hrows]
      unfold inserted SubTable.commit SubTable.transaction
      rw [SubTable.insertAll_eq, SubTable.insertAll_eq]
      split <;> rfl
    · rw [if_neg (by rw [hflush.1]; exact Bool.false_ne_true)] at ho
      subst ho
      exact .inr (.inr (hfailed hflush rfl rfl))
  · rw [if_neg (by rw [hloop.1]; exact Bool.false_ne_true)] at ho
    subst ho
    exact .inr (.inr (hfailed hloop rfl rfl))

/-! ## the keys -/

theorem place_le {ids : Bytes → Option Uuid} {place : Nat} {row : Placed}
    (h : row ∈ wanted ids account_id keys place) : place ≤ row.1 := by
  induction keys generalizing place with
  | nil => cases h
  | cons k keys ih =>
    rw [wanted_cons] at h
    rcases List.mem_append.mp h with h | h
    · obtain ⟨id, -, rfl⟩ := List.mem_map.mp h
      exact le_refl _
    · exact Nat.le_of_succ_le (ih h)

/-- the rows tell what each key was found to name -/
theorem wanted_inj {ids ids' : Bytes → Option Uuid} {place : Nat} :
    wanted ids account_id keys place = wanted ids' account_id keys place ↔
      ∀ k ∈ keys, ids k = ids' k := by
  induction keys generalizing place with
  | nil => exact iff_of_true rfl fun _ h => absurd h List.not_mem_nil
  | cons k keys ih =>
    rw [wanted_cons, wanted_cons, List.forall_mem_cons, ← @ih (place + 1)]
    -- the rows of later keys have later places
    have hlater {ids : Bytes → Option Uuid} {id : Uuid} :
        (place, (⟨id, account_id⟩ : SubRow)) ∉ wanted ids account_id keys (place + 1) :=
      fun h => absurd (place_le h) (Nat.not_succ_le_self _)
    cases ids k with
    | none =>
      cases ids' k with
      | none => exact (and_iff_right rfl).symm
      | some id' =>
        refine iff_of_false (fun h => ?_) fun h => by cases h.1
        have hmem : (place, (⟨id', account_id⟩ : SubRow)) ∈ wanted ids account_id keys (place + 1) := by
          rw [show wanted ids account_id keys (place + 1) = _ from h]
          exact List.mem_cons_self
        exact hlater hmem
    | some id =>
      cases ids' k with
      | none =>
        refine iff_of_false (fun h => ?_) fun h => by cases h.1
        have hmem : (place, (⟨id, account_id⟩ : SubRow)) ∈ wanted ids' account_id keys (place + 1) := by
          rw [show wanted ids' account_id keys (place + 1) = _ from h.symm]
          exact List.mem_cons_self
        exact hlater hmem
      | some id' =>
        show ((place, (⟨id, account_id⟩ : SubRow)) :: wanted ids account_id keys (place + 1)) =
          (place, ⟨id', account_id⟩) :: wanted ids' account_id keys (place + 1) ↔ _
        rw [List.cons.injEq, Prod.mk.injEq, SubRow.mk.injEq, Option.some.injEq]
        simp only [true_and, and_true]

/-- every row that a key of the list names has the bytes of the key for its text -/
def Plain (ref_id : Uuid) (keys : List Bytes) (db : Database) : Prop :=
  ∀ k ∈ keys, ∀ r ∈ db.metadata, Database.isFor ref_id (fromUtf8 k) r = true →
    r.id ≠ 0 ∧ toUtf8 r.key = k

theorem rowOf_eq_some {k : Bytes} {id : Uuid} : rowOf db ref_id k = some id ↔
    ∃ r ∈ db.metadata, Database.isFor ref_id (fromUtf8 k) r = true ∧ r.id = id := by
  unfold rowOf
  rw [Option.map_eq_some_iff]
  constructor
  · rintro ⟨r, hr, hid⟩
    exact ⟨r, List.mem_of_find?_eq_some hr, List.find?_some hr, hid⟩
  · rintro ⟨r, hr, hfor, hid⟩
    cases hfind : db.metadata.find? (Database.isFor ref_id (fromUtf8 k)) with
    | none => exact absurd hfor (List.find?_eq_none.mp hfind r hr)
    | some r' =>
      have he := Database.row_unique (List.mem_of_find?_eq_some hfind) hr (List.find?_some hfind) hfor
      exact ⟨r', rfl, he ▸ hid⟩

theorem foundId_eq_some {k : Bytes} {id : Uuid} : foundId (db.resolve ref_id keys) k = some id ↔
    id ≠ 0 ∧ ∃ r ∈ db.metadata, r.ref_id = ref_id ∧ r.key ∈ keys.map fromUtf8 ∧
      toUtf8 r.key = k ∧ r.id = id := by
  unfold foundId
  rw [Option.filter_eq_some_iff, Database.getElem?_resolve, bne_iff_ne, and_comm]

/-- the map finds the rows of the keys if and only if these are plain -/
theorem found_iff_plain : (∀ k ∈ keys, foundId (db.resolve ref_id keys) k = rowOf db ref_id k) ↔
    Plain ref_id keys db := by
  constructor
  · intro h k hk r hr hfor
    have hrow := rowOf_eq_some.mpr ⟨r, hr, hfor, rfl⟩
    rw [← h k hk] at hrow
    obtain ⟨hne, r', hr', -, -, hkey, hid⟩ := foundId_eq_some.mp hrow
    exact ⟨hne, Database.id_inj hr' hr hid ▸ hkey⟩
  · intro h k hk
    refine Option.ext fun id => ?_
    rw [foundId_eq_some, rowOf_eq_some]
    constructor
    · rintro ⟨-, r, hr, href, hmem, hkey, hid⟩
      obtain ⟨k', hk', htext⟩ := List.mem_map.mp hmem
      have hfor : Database.isFor ref_id (fromUtf8 k') r = true :=
        Database.isFor_iff.mpr (by rw [href, htext])
      have hsame : k' = k := (h k' hk' r hr hfor).2.symm.trans hkey
      exact ⟨r, hr, hsame ▸ hfor, hid⟩
    · rintro ⟨r, hr, hfor, hid⟩
      obtain ⟨hne, hkey⟩ := h k hk r hr hfor
      have hrow := Prod.mk.inj (Database.isFor_iff.mp hfor)
      exact ⟨hid ▸ hne, r, hr, hrow.1, List.mem_map.mpr ⟨k, hk, hrow.2.symm⟩, hkey, hid⟩

theorem plain_of_empty (h : (db.resolve ref_id keys).isEmpty = true) : Plain ref_id keys db := by
  intro k hk r hr hfor
  have hrow := Prod.mk.inj (Database.isFor_iff.mp hfor)
  have hget := Database.getElem?_resolve.mpr
    ⟨r, hr, hrow.1, List.mem_map.mpr ⟨k, hk, hrow.2.symm⟩, rfl, rfl⟩
  rw [Std.ExtTreeMap.isEmpty_iff.mp h, Std.ExtTreeMap.getElem?_empty] at hget
  cases hget

/-- a call that nothing is left of when it fails -/
theorem rollback_inserted_iff {rows : List Placed} {s : SubTable} (hs : s.begun = none) {fails : Bool} :
    (inserted rows (s.transaction fails)).rollback = s ↔
      fails = false ∨ ∀ row ∈ rows, row.2 ∈ s.subs := by
  obtain ⟨subs, begun⟩ := s
  cases hs
  cases fails with
  | false =>
    refine iff_of_true ?_ (.inl rfl)
    unfold inserted SubTable.transaction
    rw [SubTable.insertAll_eq]
    rfl
  | true =>
    have hrows : (∀ row ∈ rows, row.2 ∈ subs) ↔ ∀ row ∈ rows.map Prod.snd, row ∈ subs := by
      rw [List.forall_mem_map]
    unfold inserted SubTable.transaction
    rw [SubTable.insertAll_eq, hrows, ← SubTable.stored_eq_iff]
    show SubTable.mk (SubTable.stored _ subs) none = SubTable.mk subs none ↔ _
    rw [SubTable.mk.injEq]
    simp

/-- **All of the named rows are subscribed to, or none**, if and only if the keys are plain or a
statement fails, and no failure comes after something was stored without a transaction. -/
theorem bulk_all_or_nothing_iff :
    AllOrNothing ref_id keys account_id db (metadata_subscribe_bulk f ref_id keys account_id db) ↔
      (f.select = true ∨ (∃ j < (namedRows ref_id keys account_id db).length, f.insert j = true) ∨
        Plain ref_id keys db) ∧
      (f.transaction = false ∨ f.select = true ∨
        ∀ j < (namedRows ref_id keys account_id db).length, (∀ i < j, f.insert i = false) →
          f.insert j = true →
            ∀ row ∈ (namedRows ref_id keys account_id db).take j, row.2 ∈ db.metadata_subs) := by
  rcases @metadata_subscribe_bulk_cases f ref_id account_id keys db _ rfl with
    ⟨hreturned, hsession, hnone⟩ | ⟨hreturned, hselect, -, hnofail, hpassed, hsizes, hsession⟩ |
      ⟨hreturned, hselect, j, hj, hbefore, hfail, hsession⟩
  · -- nothing was tried
    refine iff_of_true ⟨fun h => ?_, fun _ => hsession⟩ ?_
    · rw [hreturned] at h
      cases h
    rcases hnone with hselect | hempty
    · exact ⟨.inl hselect, .inr (.inl hselect)⟩
    · refine ⟨.inr (.inr (plain_of_empty hempty)), .inr (.inr fun j hj => ?_)⟩
      rw [namedRows_of_empty hempty] at hj
      exact absurd hj (Nat.not_lt_zero _)
  · -- every statement succeeded
    have hplain : namedRows ref_id keys account_id db = wanted (rowOf db ref_id) account_id keys 0 ↔
        Plain ref_id keys db := wanted_inj.trans found_iff_plain
    constructor
    · intro h
      have hall := (h.all hreturned).1
      rw [hpassed] at hall
      refine ⟨.inr (.inr (hplain.mp hall)), .inr (.inr fun j hj _ hfail => ?_)⟩
      rw [hnofail j hj] at hfail
      cases hfail
    · rintro ⟨hcond, -⟩
      have hkeys : Plain ref_id keys db := by
        rcases hcond with h | ⟨j, hj, hfail⟩ | h
        · rw [hselect] at h
          cases h
        · rw [hnofail j hj] at hfail
          cases hfail
        · exact h
      refine ⟨fun _ => ⟨hpassed.trans (hplain.mpr hkeys), hsizes, ?_⟩, fun h => ?_⟩
      · rw [hpassed]
        exact hsession
      · rw [hreturned] at h
        cases h
  · -- the statement for row `j` failed
    have hnothing : AllOrNothing ref_id keys account_id db
        (metadata_subscribe_bulk f ref_id keys account_id db) ↔ f.transaction = false ∨
          ∀ row ∈ (namedRows ref_id keys account_id db).take j, row.2 ∈ db.metadata_subs := by
      refine Iff.trans ?_ (rollback_inserted_iff (s := { subs := db.metadata_subs }) rfl)
      rw [← hsession]
      refine ⟨fun h => h.nothing hreturned, fun h => ⟨fun ht => ?_, fun _ => h⟩⟩
      rw [hreturned] at ht
      cases ht
    rw [hnothing]
    constructor
    · intro h
      refine ⟨.inr (.inl ⟨j, hj, hfail⟩), h.imp_right fun hrows => .inr fun i hi hbefore' hfail' => ?_⟩
      have hij : i = j := by
        rcases Nat.lt_trichotomy i j with hlt | heq | hlt
        · rw [hbefore i hlt] at hfail'
          cases hfail'
        · exact heq
        · rw [hbefore' j hlt] at hfail
          cases hfail
      rw [hij]
      exact hrows
    · rintro ⟨-, h⟩
      rcases h with h | h | h
      · exact .inl h
      · rw [hselect] at h
        cases h
      · exact .inr (h j hj hbefore hfail)

/-- with the tables as they are declared every insert fails, and the call does what it does to them
as a whole -/
theorem metadata_subscribe_bulk_refines (hbegin : f.transaction = false)
    (hinsert : ∀ j, f.insert j = !metadataSubsUnique.contains ["metadata_id", "account_id"]) :
    (metadata_subscribe_bulk f ref_id keys account_id db).session =
      { subs := (db.metadata_subscribe_bulk ref_id keys account_id).metadata_subs } := by
  have hfails : ∀ j, f.insert j = true := fun j => (hinsert j).trans (by decide)
  rw [Database.subscribe_bulk_eq]
  rcases @metadata_subscribe_bulk_cases f ref_id account_id keys db _ rfl with
    ⟨-, hsession, -⟩ | ⟨-, -, -, hnofail, -, -, hsession⟩ | ⟨-, -, j, -, -, -, hsession⟩
  · exact hsession
  · have hnil : namedRows ref_id keys account_id db = [] := by
      refine List.eq_nil_iff_length_eq_zero.mpr (Nat.eq_zero_of_not_pos fun hpos => ?_)
      have h0 := hnofail 0 hpos
      rw [hfails 0] at h0
      cases h0
    rw [hsession, hnil]
    rfl
  · rw [hsession]
    exact (rollback_inserted_iff rfl).mpr (.inl hbegin)

end

/-- the key of a metadata that is no text, set before -/
def octetKey : Database := Database.empty.metadata_upsert [0xFF] (ascii "v") 5 .Account

/-- the map has the key as text, under which it is not looked up -/
theorem bulk_key_skipped : ¬AllOrNothing 5 [[0xFF]] 7 octetKey
    (metadata_subscribe_bulk {} 5 [[0xFF]] 7 octetKey) := by
  intro h
  have hall := (h.all (by decide)).1
  revert hall
  decide

/-- the keys a and b are set -/
def twoKeys : Database :=
  (Database.empty.metadata_upsert (ascii "a") (ascii "v") 5 .Account).metadata_upsert (ascii "b")
    (ascii "v") 5 .Account

/-- the transaction was not begun, and the second insert fails -/
theorem bulk_not_rolled_back : ¬AllOrNothing 5 [ascii "a", ascii "b"] 7 twoKeys
    (metadata_subscribe_bulk { transaction := true, insert := fun j => j == 1 } 5 [ascii "a", ascii "b"] 7
      twoKeys) := by
  intro h
  have hnothing := congrArg SubTable.subs (h.nothing (by decide))
  revert hnothing
  decide

end sql
end Chatripper
