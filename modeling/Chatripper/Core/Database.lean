import Mathlib
import Chatripper.Core.Maps
import Chatripper.Core.Metadata

/-!
# The metadata tables

The two tables as `create_schema` declares them: a key is unique for a reference, a subscription refers
to a row of metadata and goes with it.  A constraint that is not declared cannot be the target of
`ON CONFLICT`, and such a statement fails.  A failed statement rolls its transaction back.

* `Database`            the tables, with their constraints;
* `metadata_upsert`, `metadata_remove`, `metadata_subscribe_bulk`, `metadata_unsubscribe_bulk`
                        what the statements do;
* `rows`                what `metadata_get` reads.
-/

namespace Chatripper
open ByteStr Utf8

structure MetadataRow where
  id : Uuid
  key : QString
  value : Bytes
  ref_id : Uuid
  ref_type : RefType

/-- a subscription; nothing reads its own id -/
structure SubRow where
  metadata_id : Uuid
  account_id : Uuid
  deriving DecidableEq

/-- the primary key and the unique columns of `metadata_subs`; the index on both of its references is
not unique -/
def metadataSubsUnique : List (List String) := [["id"]]

structure Database where
  metadata : List MetadataRow
  metadata_subs : List SubRow
  /-- `QUuid::createUuid` counts up -/
  nextId : Uuid
  id_lt : ∀ r ∈ metadata, r.id < nextId
  id_unique : (metadata.map fun r => r.id).Nodup
  ref_key_unique : (metadata.map fun r => (r.ref_id, r.key)).Nodup
  subs_metadata : ∀ s ∈ metadata_subs, ∃ r ∈ metadata, r.id = s.metadata_id

namespace Database

def empty : Database where
  metadata := []
  metadata_subs := []
  nextId := 1
  id_lt := by simp
  id_unique := List.nodup_nil
  ref_key_unique := List.nodup_nil
  subs_metadata := by simp

/-- `WHERE ref_id = ? AND key = ?` -/
def isFor (ref_id : Uuid) (key : QString) (r : MetadataRow) : Bool :=
  r.ref_id == ref_id && r.key == key

theorem isFor_iff {ref_id : Uuid} {key : QString} {r : MetadataRow} :
    isFor ref_id key r = true ↔ (r.ref_id, r.key) = (ref_id, key) := by
  unfold isFor
  simp

/-- `DO UPDATE SET value` -/
def setValue (ref_id : Uuid) (key : QString) (value : Bytes) (r : MetadataRow) : MetadataRow :=
  if isFor ref_id key r then { r with value := value } else r

section
variable (ref_id : Uuid) (key : QString) (value : Bytes) (r : MetadataRow)

@[simp] theorem setValue_id : (setValue ref_id key value r).id = r.id := by
  unfold setValue
  split <;> rfl

@[simp] theorem setValue_ref_id : (setValue ref_id key value r).ref_id = r.ref_id := by
  unfold setValue
  split <;> rfl

@[simp] theorem setValue_key : (setValue ref_id key value r).key = r.key := by
  unfold setValue
  split <;> rfl

end

def metadata_upsert (key value : Bytes) (ref_id : Uuid) (ref_type : RefType) (db : Database) :
    Database :=
  if h : ∃ r ∈ db.metadata, isFor ref_id (fromUtf8 key) r = true then
    { db with
      metadata := db.metadata.map (setValue ref_id (fromUtf8 key) value)
      id_lt := by
        intro r hr
        obtain ⟨r', hr', rfl⟩ := List.mem_map.mp hr
        rw [setValue_id]
        exact db.id_lt r' hr'
      id_unique := by
        rw [List.map_map]
        simp only [Function.comp_def, setValue_id]
        exact db.id_unique
      ref_key_unique := by
        rw [List.map_map]
        simp only [Function.comp_def, setValue_ref_id, setValue_key]
        exact db.ref_key_unique
      subs_metadata := by
        intro s hs
        obtain ⟨r, hr, hid⟩ := db.subs_metadata s hs
        exact ⟨_, List.mem_map_of_mem hr, (setValue_id _ _ _ r).trans hid⟩ }
  else
    { db with
      metadata := db.metadata ++ [⟨db.nextId, fromUtf8 key, value, ref_id, ref_type⟩]
      nextId := db.nextId + 1
      id_lt := by
        intro r hr
        rcases List.mem_append.mp hr with hr | hr
        · exact Nat.lt_succ_of_lt (db.id_lt r hr)
        · rw [List.mem_singleton.mp hr]
          exact Nat.lt_succ_self _
      id_unique := by
        rw [List.map_append, List.map_singleton, ← List.concat_eq_append, List.nodup_concat]
        refine ⟨?_, db.id_unique⟩
        intro hmem
        obtain ⟨r, hr, hid⟩ := List.mem_map.mp hmem
        exact absurd (db.id_lt r hr) (by rw [hid]; exact Nat.lt_irrefl _)
      ref_key_unique := by
        rw [List.map_append, List.map_singleton, ← List.concat_eq_append, List.nodup_concat]
        refine ⟨?_, db.ref_key_unique⟩
        intro hmem
        obtain ⟨r, hr, he⟩ := List.mem_map.mp hmem
        exact h ⟨r, hr, isFor_iff.mpr he⟩
      subs_metadata := by
        intro s hs
        obtain ⟨r, hr, hid⟩ := db.subs_metadata s hs
        exact ⟨r, List.mem_append_left _ hr, hid⟩ }

/-- the subscriptions of a row go with it -/
def metadata_remove (key : Bytes) (ref_id : Uuid) (db : Database) : Database :=
  { db with
    metadata := db.metadata.filter fun r => !isFor ref_id (fromUtf8 key) r
    metadata_subs := db.metadata_subs.filter fun s =>
      (db.metadata.filter fun r => !isFor ref_id (fromUtf8 key) r).any fun r => r.id == s.metadata_id
    id_lt := fun r hr => db.id_lt r (List.mem_of_mem_filter hr)
    id_unique := db.id_unique.sublist (List.filter_sublist.map _)
    ref_key_unique := db.ref_key_unique.sublist (List.filter_sublist.map _)
    subs_metadata := by
      intro s hs
      obtain ⟨r, hr, hid⟩ := List.any_eq_true.mp (List.mem_filter.mp hs).2
      exact ⟨r, hr, beq_iff_eq.mp hid⟩ }

/-- `keyToMetadataId`: the rows that some of the keys name -/
def resolve (ref_id : Uuid) (keys : List Bytes) (db : Database) : QMap Bytes Uuid :=
  (db.metadata.filter fun r => r.ref_id == ref_id && (keys.map fromUtf8).contains r.key).foldl
    (fun ids r => ids.insert (toUtf8 r.key) r.id) ∅

/-- `INSERT ... ON CONFLICT (metadata_id, account_id) DO NOTHING` -/
def insert_subs (subs : List SubRow) (db : Database) : Option Database :=
  if metadataSubsUnique.contains ["metadata_id", "account_id"] then
    if h : ∀ s ∈ subs, ∃ r ∈ db.metadata, r.id = s.metadata_id then
      some { db with
        metadata_subs := db.metadata_subs ++ subs.filter fun s => !db.metadata_subs.contains s
        subs_metadata := by
          intro s hs
          rcases List.mem_append.mp hs with hs | hs
          · exact db.subs_metadata s hs
          · exact h s (List.mem_of_mem_filter hs) }
    else none
  else none

def metadata_subscribe_bulk (ref_id : Uuid) (keys : List Bytes) (account_id : Uuid) (db : Database) :
    Database :=
  let keyToMetadataId := db.resolve ref_id keys
  let subs := keys.filterMap fun k => keyToMetadataId[k]?.map fun id => ⟨id, account_id⟩
  if subs = [] then db else (db.insert_subs subs).getD db

def metadata_unsubscribe_bulk (ref_id : Uuid) (keys : List Bytes) (account_id : Uuid)
    (db : Database) : Database :=
  { db with
    metadata_subs := db.metadata_subs.filter fun s =>
      !(s.account_id == account_id &&
        ((db.resolve ref_id keys).toList.map Prod.snd).contains s.metadata_id)
    subs_metadata := fun s hs => db.subs_metadata s (List.mem_of_mem_filter hs) }

def exec (s : SqlStmt) (db : Database) : Database :=
  match s with
  | .insert_message _ => db
  | .metadata_upsert key value ref_id ref_type => db.metadata_upsert key value ref_id ref_type
  | .metadata_remove key ref_id => db.metadata_remove key ref_id
  | .metadata_subscribe_bulk ref_id keys account_id =>
    db.metadata_subscribe_bulk ref_id keys account_id
  | .metadata_unsubscribe_bulk ref_id keys account_id =>
    db.metadata_unsubscribe_bulk ref_id keys account_id

/-- a row with each of its subscriptions: the `LEFT JOIN` of `metadata_get` -/
def joined (db : Database) (r : MetadataRow) : List (QString × Bytes × Option Uuid) :=
  match db.metadata_subs.filter fun s => s.metadata_id == r.id with
  | [] => [(r.key, r.value, none)]
  | s :: subs => (s :: subs).map fun s => (r.key, r.value, some s.account_id)

def rows (ref_id : Uuid) (db : Database) : List (QString × Bytes × Option Uuid) :=
  (db.metadata.filter fun r => r.ref_id == ref_id).flatMap db.joined

/-! ## what the statements do -/

theorem toUtf8_injective {s t : QString} (h : toUtf8 s = toUtf8 t) : s = t := by
  rw [← decode_toUtf8 s, h, decode_toUtf8]

/-- the table has this value -/
def Stored (db : Database) (ref_id : Uuid) (key : QString) (value : Bytes) : Prop :=
  ∃ r ∈ db.metadata, isFor ref_id key r = true ∧ r.value = value

/-- the table has a subscription of this account -/
def Subscribed (db : Database) (ref_id : Uuid) (key : QString) (account_id : Uuid) : Prop :=
  ∃ r ∈ db.metadata, isFor ref_id key r = true ∧ (⟨r.id, account_id⟩ : SubRow) ∈ db.metadata_subs

section
variable {db : Database} {ref_id account_id u : Uuid} {ref_type : RefType} {key value v : Bytes}
  {k : QString}

/-- with the constraint, a row is found by what it is for -/
theorem row_unique {r r' : MetadataRow} (hr : r ∈ db.metadata) (hr' : r' ∈ db.metadata)
    (h : isFor ref_id k r = true) (h' : isFor ref_id k r' = true) : r = r' :=
  List.inj_on_of_nodup_map db.ref_key_unique hr hr' ((isFor_iff.mp h).trans (isFor_iff.mp h').symm)

theorem id_inj {r r' : MetadataRow} (hr : r ∈ db.metadata) (hr' : r' ∈ db.metadata)
    (h : r.id = r'.id) : r = r' :=
  List.inj_on_of_nodup_map db.id_unique hr hr' h

/-- without the constraint, no subscription is stored -/
theorem subscribe_bulk_eq (keys : List Bytes) :
    db.metadata_subscribe_bulk ref_id keys account_id = db := by
  have hnone (subs : List SubRow) : db.insert_subs subs = none := if_neg (by decide)
  unfold metadata_subscribe_bulk
  dsimp only
  rw [hnone]
  split <;> rfl

/-- what `keyToMetadataId` has for a key -/
theorem getElem?_resolve {keys : List Bytes} {x : Bytes} {id : Uuid} :
    (db.resolve ref_id keys)[x]? = some id ↔ ∃ r ∈ db.metadata,
      r.ref_id = ref_id ∧ r.key ∈ keys.map fromUtf8 ∧ toUtf8 r.key = x ∧ r.id = id := by
  obtain ⟨named, hnamed⟩ : ∃ named, named = db.metadata.filter fun r =>
    r.ref_id == ref_id && (keys.map fromUtf8).contains r.key := ⟨_, rfl⟩
  have hmem {r : MetadataRow} :
      r ∈ named ↔ r ∈ db.metadata ∧ r.ref_id = ref_id ∧ r.key ∈ keys.map fromUtf8 := by
    rw [hnamed, List.mem_filter, Bool.and_eq_true, beq_iff_eq, List.contains_iff_mem]
  -- the keys of the rows are distinct, and so are their octets
  have hkeys : ((named.map fun r => (toUtf8 r.key, r.id)).map Prod.fst).Nodup := by
    rw [List.map_map]
    refine List.Nodup.map_on ?_ ?_
    · intro r hr r' hr' h
      have hkey : r.key = r'.key := toUtf8_injective h
      obtain ⟨hr, href, -⟩ := hmem.mp hr
      obtain ⟨hr', href', -⟩ := hmem.mp hr'
      exact row_unique (k := r'.key) hr hr' (isFor_iff.mpr (by rw [hkey, href]))
        (isFor_iff.mpr (by rw [href']))
    · rw [hnamed]
      exact (List.Nodup.of_map _ db.id_unique).filter _
  have hresolve : db.resolve ref_id keys =
      (named.map fun r => (toUtf8 r.key, r.id)).foldl (fun ids p => ids.insert p.1 p.2) ∅ := by
    rw [List.foldl_map, hnamed]
    rfl
  rw [hresolve, lookup_foldl_insert hkeys, Std.ExtTreeMap.getElem?_empty, Option.or_none,
    lookup_eq_some_iff hkeys, List.mem_map]
  constructor
  · rintro ⟨r, hr, heq⟩
    obtain ⟨hr, href, hkey⟩ := hmem.mp hr
    exact ⟨r, hr, href, hkey, (Prod.mk.inj heq).1, (Prod.mk.inj heq).2⟩
  · rintro ⟨r, hr, href, hkey, hx, hid⟩
    exact ⟨r, hmem.mpr ⟨hr, href, hkey⟩, Prod.ext hx hid⟩

end

end Database

end Chatripper
