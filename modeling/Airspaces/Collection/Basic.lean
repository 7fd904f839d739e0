import Airspaces.Collection.Slice
import Airspaces.Sorting.Basic
import Airspaces.Text.Basic
import Std.Data.HashSet
/-! Collections that are filtered, cut, sorted and joined. An item keeps the number
that it had in the list it came from; two items are the same if their numbers are, even
where equal values have different numbers. -/
namespace Airspaces

/-- A value and its number in the list it came from. -/
structure Item (β : Type) where
  id : Nat
  value : β

structure Collection (β : Type) where
  items : List (Item β)

/-- A query that cannot be answered. -/
inductive QueryError where
  | unknownClass (name : Text)
  | outOfRange (position : Int)
  | zeroStep
  /-- Two of the values that were compared have no order. -/
  | notComparable
  deriving Repr, DecidableEq

namespace Collection

variable {β κ : Type}

def ofList (values : List β) : Collection β :=
  ⟨values.zipIdx.map fun (value, id) => ⟨id, value⟩⟩

def toList (c : Collection β) : List β := c.items.map (·.value)

def count (c : Collection β) : Nat := c.items.length

def exists? (c : Collection β) : Bool := !c.items.isEmpty

def first? (c : Collection β) : Option β := c.toList.head?

def last? (c : Collection β) : Option β := c.toList.getLast?

def filter (p : β → Bool) (c : Collection β) : Collection β :=
  ⟨c.items.filter fun item => p item.value⟩

/-- The first `n` items, or all but the last `-n`. -/
def take (c : Collection β) (n : Int) : Collection β :=
  ⟨Slice.take c.items none (some n) 1⟩

def slice (c : Collection β) (start stop step : Option Int) :
    Except QueryError (Collection β) :=
  let step := step.getD 1
  if step = 0 then .error .zeroStep else .ok ⟨Slice.take c.items start stop step⟩

def get (c : Collection β) (i : Int) : Except QueryError β :=
  match Slice.at? c.toList i with
  | some value => .ok value
  | none => .error (.outOfRange i)

/-- Items in the order of their keys; those of equal keys keep theirs, in either
direction. -/
def orderBy (before : κ → κ → Bool) (key : β → κ) (descending : Bool) (c : Collection β) :
    Collection β :=
  let keyed := c.items.map fun item => (key item.value, item)
  let before := fun (a b : κ × Item β) => before a.1 b.1
  let sorted := if descending then Sorting.sortDown before keyed else Sorting.sort before keyed
  ⟨sorted.map (·.2)⟩

/-- Groups with one more value. A key that has no group yet gets one after all others. -/
def addToGroup [BEq κ] (k : κ) (x : β) : List (κ × List β) → List (κ × List β)
  | [] => [(k, [x])]
  | (k', group) :: rest =>
    if k' == k then (k', group ++ [x]) :: rest else (k', group) :: addToGroup k x rest

/-- Groups of values by a key, in the order in which the keys are first seen. -/
def groupBy [BEq κ] (key : β → κ) (c : Collection β) : List (κ × List β) :=
  c.toList.foldl (fun groups x => addToGroup (key x) x groups) []

def firstSeen : Std.HashSet Nat → List (Item β) → List (Item β)
  | _, [] => []
  | seen, item :: rest =>
    if seen.contains item.id then firstSeen seen rest
    else item :: firstSeen (seen.insert item.id) rest

def union (c d : Collection β) : Collection β := ⟨firstSeen ∅ (c.items ++ d.items)⟩

/-- How many different values there are. An item equals itself even where its value
does not. -/
def distinct [BEq β] (c : Collection β) : Nat :=
  (c.items.foldl (fun (kept : List (Item β)) item =>
    if kept.any fun other => other.id == item.id || other.value == item.value then kept
    else item :: kept) []).length

/-- The name of the collection's kind, the first three items and their number. -/
def summary (kind : String) (label : β → Text) (c : Collection β) : Text :=
  if c.items.isEmpty then kind.toList ++ ['(', '[', ']', ')']
  else
    let shown := (c.toList.take 3).map label ++ if 3 < c.count then [['.', '.', '.']] else []
    kind.toList ++ ['(', '['] ++ [',', ' '].intercalate shown ++ ']' ::
      (", count=" ++ toString c.count ++ ")").toList

end Collection
end Airspaces
