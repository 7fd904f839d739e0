import Airspaces.Collection.Basic
import Airspaces.Measurement
/-! What items are sorted, filtered and grouped by. Texts are compared by code points, and
whole and measured numbers by their exact values. -/
namespace Airspaces

inductive Key (α : Type) where
  | text (t : Text)
  | whole (n : Int)
  | number (x : α)
  /-- A value that stands in no order. -/
  | other

variable {α : Type} [Scalar α]

/-- How a whole number stands to the value of another one. -/
def Reading.compareWhole? (n : Int) : Reading → Option Ordering
  | .finite negative num den => some (compare (n * den) (if negative then -num else num))
  | .infinite negative => some (if negative then .gt else .lt)
  | .undefined => none

namespace Key

/-- How two keys stand to each other. Keys of different kinds cannot be compared, and an
undefined number stands in no order to any other. -/
def compare? : Key α → Key α → Option (Option Ordering)
  | text a, text b => some (some (compareOfLessAndEq a b))
  | whole a, whole b => some (some (compare a b))
  | whole a, number b => some ((Scalar.reading b).compareWhole? a)
  | number a, whole b => some (((Scalar.reading a).compareWhole? b).map Ordering.swap)
  | number a, number b =>
    some (if a < b then some .lt else if b < a then some .gt else if a == b then some .eq else none)
  | _, _ => none

/-- Does a key come before another one? -/
def isBefore (a b : Key α) : Bool := a.compare? b == some (some .lt)

def isSame (a b : Key α) : Bool := a.compare? b == some (some .eq)

def isComparable (a b : Key α) : Bool := (a.compare? b).isSome

def shown : Key Float → Text
  | text t => t
  | whole n => (toString n).toList
  | number x => (Measurement.text x).toList
  | other => []

end Key

namespace Collection

variable {β : Type}

/-- The items whose key is at least the given one. -/
def atLeast (key : β → Key α) (least : Key α) (c : Collection β) :
    Except QueryError (Collection β) :=
  if c.toList.all fun x => least.isComparable (key x) then
    .ok (c.filter fun x => least.isBefore (key x) || least.isSame (key x))
  else .error .notComparable

/-- The items in the order of keys that can be compared. -/
def orderByKey (key : β → Key α) (descending : Bool) (c : Collection β) :
    Except QueryError (Collection β) :=
  match c.toList with
  | x :: y :: rest =>
    if (y :: rest).all fun z => (key x).isComparable (key z) then
      .ok (c.orderBy Key.isBefore key descending)
    else .error .notComparable
  | _ => .ok c

end Collection
end Airspaces
