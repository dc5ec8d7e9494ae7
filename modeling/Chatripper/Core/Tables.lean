import Mathlib
import Chatripper.Core.Types

/-!
# The tables of accounts, servers and channels

The tables that `create_schema` declares and the initial load reads, with their constraints: a table
whose keys clash or that refers to a row that is not there cannot be built.  A text column holds its
UTF-8 octets.

* `Tables`                 the rows, with the constraints;
* `AdmitsAccount`, …       the rows that violate no constraint, and `addAccount`, …, their insertion;
* `members`                the accounts that are joined to a channel.
-/

namespace Chatripper
open ByteStr Utf8

structure AccountRow where
  id : Uuid
  username : Bytes
  password : Bytes
  deriving DecidableEq

structure ServerRow where
  id : Uuid
  name : Bytes
  account_owner_id : Uuid
  deriving DecidableEq

structure ChannelRow where
  id : Uuid
  server_id : Uuid
  name : Bytes
  topic : Option Bytes
  account_owner_id : Option Uuid
  deriving DecidableEq

/-- a row of `account_channels` -/
structure JoinRow where
  account_id : Uuid
  channel_id : Uuid
  deriving DecidableEq

/-- `accounts`, `servers`, `channels` and `account_channels` -/
structure Tables where
  accounts : List AccountRow
  servers : List ServerRow
  channels : List ChannelRow
  account_channels : List JoinRow
  account_id : (accounts.map AccountRow.id).Nodup
  username : (accounts.map AccountRow.username).Nodup
  server_id : (servers.map ServerRow.id).Nodup
  channel_id : (channels.map ChannelRow.id).Nodup
  server_name : (channels.map fun r => (r.server_id, r.name)).Nodup
  joined_once : account_channels.Nodup
  server_owner : ∀ r ∈ servers, r.account_owner_id ∈ accounts.map AccountRow.id
  channel_server : ∀ r ∈ channels, r.server_id ∈ servers.map ServerRow.id
  channel_owner : ∀ r ∈ channels, ∀ id, r.account_owner_id = some id →
    id ∈ accounts.map AccountRow.id
  joined_account : ∀ r ∈ account_channels, r.account_id ∈ accounts.map AccountRow.id
  joined_channel : ∀ r ∈ account_channels, r.channel_id ∈ channels.map ChannelRow.id

section
variable {α β : Type}

/-- a key that no row has can be added -/
theorem nodup_map_concat {f : α → β} {l : List α} {r : α} (hl : (l.map f).Nodup)
    (hr : f r ∉ l.map f) : ((l ++ [r]).map f).Nodup := by
  rw [List.map_append, List.map_singleton, ← List.concat_eq_append, List.nodup_concat]
  exact ⟨hr, hl⟩

theorem mem_map_concat {f : α → β} {l : List α} {x : β} (r : α) (h : x ∈ l.map f) :
    x ∈ (l ++ [r]).map f := by
  rw [List.map_append]
  exact List.mem_append_left _ h

theorem forall_mem_concat {p : α → Prop} {l : List α} {r : α} (hl : ∀ x ∈ l, p x) (hr : p r) :
    ∀ x ∈ l ++ [r], p x := by
  intro x hx
  rcases List.mem_append.mp hx with hx | hx
  · exact hl x hx
  · rw [List.mem_singleton.mp hx]
    exact hr

end

namespace Tables
variable (t : Tables)

/-! ## insertions -/

def AdmitsAccount (row : AccountRow) : Prop :=
  row.id ∉ t.accounts.map AccountRow.id ∧ row.username ∉ t.accounts.map AccountRow.username

instance (row : AccountRow) : Decidable (t.AdmitsAccount row) :=
  inferInstanceAs (Decidable (_ ∧ _))

def addAccount (row : AccountRow) (h : t.AdmitsAccount row) : Tables :=
  { t with
    accounts := t.accounts ++ [row]
    account_id := nodup_map_concat t.account_id h.1
    username := nodup_map_concat t.username h.2
    server_owner := fun r hr => mem_map_concat row (t.server_owner r hr)
    channel_owner := fun r hr id hid => mem_map_concat row (t.channel_owner r hr id hid)
    joined_account := fun r hr => mem_map_concat row (t.joined_account r hr) }

def AdmitsServer (row : ServerRow) : Prop :=
  row.id ∉ t.servers.map ServerRow.id ∧ row.account_owner_id ∈ t.accounts.map AccountRow.id

instance (row : ServerRow) : Decidable (t.AdmitsServer row) :=
  inferInstanceAs (Decidable (_ ∧ _))

def addServer (row : ServerRow) (h : t.AdmitsServer row) : Tables :=
  { t with
    servers := t.servers ++ [row]
    server_id := nodup_map_concat t.server_id h.1
    server_owner := forall_mem_concat t.server_owner h.2
    channel_server := fun r hr => mem_map_concat row (t.channel_server r hr) }

def AdmitsChannel (row : ChannelRow) : Prop :=
  row.id ∉ t.channels.map ChannelRow.id ∧
    (row.server_id, row.name) ∉ (t.channels.map fun r => (r.server_id, r.name)) ∧
    row.server_id ∈ t.servers.map ServerRow.id ∧
    ∀ id ∈ row.account_owner_id, id ∈ t.accounts.map AccountRow.id

instance (row : ChannelRow) : Decidable (t.AdmitsChannel row) :=
  inferInstanceAs (Decidable (_ ∧ _ ∧ _ ∧ _))

def addChannel (row : ChannelRow) (h : t.AdmitsChannel row) : Tables :=
  { t with
    channels := t.channels ++ [row]
    channel_id := nodup_map_concat t.channel_id h.1
    server_name := nodup_map_concat t.server_name h.2.1
    channel_server := forall_mem_concat t.channel_server h.2.2.1
    channel_owner := forall_mem_concat t.channel_owner h.2.2.2
    joined_channel := fun r hr => mem_map_concat row (t.joined_channel r hr) }

def AdmitsJoin (row : JoinRow) : Prop :=
  row ∉ t.account_channels ∧ row.account_id ∈ t.accounts.map AccountRow.id ∧
    row.channel_id ∈ t.channels.map ChannelRow.id

instance (row : JoinRow) : Decidable (t.AdmitsJoin row) :=
  inferInstanceAs (Decidable (_ ∧ _ ∧ _))

def addJoin (row : JoinRow) (h : t.AdmitsJoin row) : Tables :=
  { t with
    account_channels := t.account_channels ++ [row]
    joined_once := by
      rw [← List.concat_eq_append, List.nodup_concat]
      exact ⟨h.1, t.joined_once⟩
    joined_account := forall_mem_concat t.joined_account h.2.1
    joined_channel := forall_mem_concat t.joined_channel h.2.2 }

/-! ## the members of a channel -/

/-- the ids that `account_channels` has for a channel -/
def joined (channel_id : Uuid) : List Uuid :=
  (t.account_channels.filter fun r => r.channel_id == channel_id).map JoinRow.account_id

/-- the rows of `accounts a INNER JOIN account_channels ac ON a.id = ac.account_id` for a channel -/
def members (channel_id : Uuid) : List AccountRow :=
  (t.joined channel_id).flatMap fun id => t.accounts.filter fun a => a.id == id

variable {t}

theorem filter_id {r : AccountRow} (hr : r ∈ t.accounts) :
    (t.accounts.filter fun a => a.id == r.id) = [r] := by
  have hids : t.accounts.Pairwise fun a b => a.id ≠ b.id := List.pairwise_map.mp t.account_id
  obtain ⟨before, after, hl⟩ := List.append_of_mem hr
  rw [hl] at hids ⊢
  have hbefore : ∀ a ∈ before, a.id ≠ r.id := fun a ha =>
    (List.pairwise_append.mp hids).2.2 a ha r List.mem_cons_self
  have hafter : ∀ a ∈ after, a.id ≠ r.id := fun a ha =>
    ((List.pairwise_cons.mp (List.pairwise_append.mp hids).2.1).1 a ha).symm
  rw [List.filter_append, List.filter_cons, if_pos (beq_self_eq_true _),
    List.filter_eq_nil_iff.mpr fun a ha => by simpa using hbefore a ha,
    List.filter_eq_nil_iff.mpr fun a ha => by simpa using hafter a ha, List.nil_append]

theorem mem_joined {r : Uuid} {channel_id : Uuid} :
    r ∈ t.joined channel_id ↔ ⟨r, channel_id⟩ ∈ t.account_channels := by
  unfold joined
  rw [List.mem_map]
  constructor
  · rintro ⟨⟨a, ch⟩, hmem, rfl⟩
    obtain ⟨hmem, hch⟩ := List.mem_filter.mp hmem
    rw [← beq_iff_eq.mp hch]
    exact hmem
  · intro h
    exact ⟨_, List.mem_filter.mpr ⟨h, beq_self_eq_true _⟩, rfl⟩

/-- an account is joined under its id, once for each row -/
theorem members_id (channel_id : Uuid) :
    (t.members channel_id).map AccountRow.id = t.joined channel_id := by
  have hflat (l : List Uuid) (hl : ∀ id ∈ l, id ∈ t.accounts.map AccountRow.id) :
      (l.flatMap fun id => t.accounts.filter fun a => a.id == id).map AccountRow.id = l := by
    induction l with
    | nil => rfl
    | cons id l ih =>
      obtain ⟨hid, htail⟩ := List.forall_mem_cons.mp hl
      obtain ⟨r, hr, rfl⟩ := List.mem_map.mp hid
      rw [List.flatMap_cons, filter_id hr, List.map_append, ih htail]
      rfl
  apply hflat
  intro id hid
  exact t.joined_account _ (mem_joined.mp hid)

theorem mem_members {channel_id : Uuid} {r : AccountRow} (h : r ∈ t.members channel_id) :
    r ∈ t.accounts := by
  obtain ⟨id, -, hr⟩ := List.mem_flatMap.mp h
  exact List.mem_of_mem_filter hr

theorem eq_of_username {r r' : AccountRow} (hr : r ∈ t.accounts) (hr' : r' ∈ t.accounts)
    (h : r.username = r'.username) : r = r' :=
  List.inj_on_of_nodup_map t.username hr hr' h

end Tables

end Chatripper
