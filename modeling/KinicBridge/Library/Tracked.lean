import KinicBridge.Library.Checked
import KinicBridge.Library.Table

/-! Tables with a count of their rows stored next to them. Every write moves the count by the rows
it adds or drops, so a count that is right once stays right. -/
namespace KinicBridge

structure Tracked (Key Value : Type) where
  rows : Table (Prod.fst : Key × Value → Key)
  count : Nat

namespace Tracked

variable {Key Value : Type} {table after : Tracked Key Value} {key : Key} {value : Value}

def empty : Tracked Key Value := ⟨.empty, 0⟩

def get (table : Tracked Key Value) (key : Key) : Option Value := (table.rows.get key).map Prod.snd

variable [DecidableEq Key]

section

variable (table : Tracked Key Value)

section

variable (key : Key) (value : Value)

def set : Tracked Key Value :=
  { table with rows := table.rows.put (key, value) }

def insert : Option (Tracked Key Value) :=
  if (table.get key).isSome then none
  else (Checked.add 64 table.count 1).map fun count => { table.set key value with count }

def delete : Option (Tracked Key Value) :=
  if (table.get key).isNone then none
  else (Checked.sub table.count 1).map fun count => ⟨table.rows.remove key, count⟩

def upsert : Option (Tracked Key Value) :=
  if (table.get key).isSome then some (table.set key value) else table.insert key value

def discard : Option (Tracked Key Value) :=
  if (table.get key).isSome then table.delete key else some table

end

variable (old : Option Key) (new : Option (Key × Value))

def replace : Option (Tracked Key Value) :=
  (old.elim (some table) table.discard).bind fun cleared =>
    new.elim (some cleared) fun entry => cleared.upsert entry.1 entry.2

def exchange : Option (Tracked Key Value) :=
  (old.elim (some table) table.delete).bind fun cleared =>
    new.elim (some cleared) fun entry => cleared.insert entry.1 entry.2

/-- An exchange that rewrites an entry in its place if the key stays. -/
def transition : Option (Tracked Key Value) :=
  match old, new with
  | some previous, some (key, value) =>
    if previous = key then
      if (table.get key).isNone then none else some (table.set key value)
    else table.exchange old new
  | _, _ => table.exchange old new

end

end Tracked

end KinicBridge
