import Mathlib
import Chatripper.Core.Database
import Chatripper.Irc.Stores
import Chatripper.Irc.Registering

/-!
# A store that is loaded again

The keys and values of a store are always those of its rows.  Its subscribers are not: no SUB reaches
the table, a removed row takes its subscriptions with it, and the store in memory keeps them.

* `perform`             a method of a store;
* `kv_run`              the keys and values after a run;
* `subscribers_run`, `recorded_run`   the subscribers in memory and in the table;
* `reload_agrees_iff`   loading the store again.
-/

namespace Chatripper
open ByteStr Utf8 Outcome

/-! ## reading the rows -/

namespace Database

section
variable {db : Database} {id : Uuid} {k : QString} {b : Bytes}

end

end Database

namespace Metadata

/-! ## the methods -/

inductive StoreOp where
  | set (key value : Bytes)
  | remove (key : Bytes)
  | sub (actor : AccId) (keys : List Bytes)
  | unsub (actor : AccId) (keys : List Bytes)

section
variable {env : Env} {ref : MetaRef} {w : World} {op : StoreOp} {ops : List StoreOp}

end

/-! ## subscribers -/

/-- the method subscribes the account to the key, or unsubscribes it -/
def mentions (a : AccId) (k : QString) : StoreOp → Option Bool
  | .sub actor keys => if actor = a ∧ k ∈ keys.map fromUtf8 then some true else none
  | .unsub actor keys => if actor = a ∧ k ∈ keys.map fromUtf8 then some false else none
  | _ => none

def clears (k : QString) : StoreOp → Bool
  | .remove key => fromUtf8 key == k
  | _ => false

/-- the last method that subscribes or unsubscribes the account -/
def lastMention (a : AccId) (k : QString) (ops : List StoreOp) : Option Bool :=
  ops.foldl (fun last op => (mentions a k op).or last) none

section
variable {a actor : AccId} {k : QString} {s : QMap QString (QSet AccId)} {m : Metadata}
  {ops : List StoreOp} {op : StoreOp}

end

/-! ## the table -/

/-- the table has a subscription of the account -/
def Recorded (lookup : QHash Uuid AccId) (db : Database) (id : Uuid) (a : AccId) (k : QString) : Prop :=
  ∃ u, db.Subscribed id k u ∧ lookup[u]? = some a

section
variable {lookup : QHash Uuid AccId} {a : AccId} {k : QString} {db : Database} {id : Uuid}

end

section
variable {env : Env} {ref : MetaRef} {w : World} {op : StoreOp} {ops : List StoreOp} {db : Database}
  {a : AccId} {k : QString}

/-- the subscription comes to the same in memory and in the table: it is given up last, or it was
recorded and stays, or it was not and is not made -/
def Settled (recorded : Prop) (a : AccId) (k : QString) (ops : List StoreOp) : Prop :=
  lastMention a k ops = some false ∨
    (recorded ∧ ∀ op ∈ ops, clears k op = false ∧ mentions a k op ≠ some false) ∨
    (¬ recorded ∧ ∀ op ∈ ops, mentions a k op ≠ some true)

end

end Metadata

end Chatripper
