import MonitorIntake.Decimal.Binary

/-!
# JSON values

Integers of any size and doubles are different values, texts may hold surrogates, and an object is the list of its
members in order. `Members.put` gives a name its value: a name that is there already keeps its place.
-/

namespace MonitorIntake

/-- A JSON value. -/
inductive Json
  | null
  | bool (b : Bool)
  | int (i : Int)
  | double (d : Double)
  | string (t : Text)
  | array (items : List Json)
  | object (members : List (Text × Json))
  deriving Inhabited

/-- The members of an object, in order. -/
abbrev Members := List (Text × Json)

namespace Members

/-- The members with a value given to a name: in the place of the name, or at the end. -/
def put (name : Text) (value : Json) : Members → Members
  | [] => [(name, value)]
  | (k, v) :: rest => if k = name then (k, value) :: rest else (k, v) :: put name value rest

/-- The members that a list of pairs stands for: each name where it comes first, with the value that comes last. -/
def ofPairs (pairs : List (Text × Json)) : Members := pairs.foldl (fun ms p => put p.1 p.2 ms) []

/-- The value of a name. -/
def get? (name : Text) : Members → Option Json
  | [] => none
  | (k, v) :: rest => if k = name then some v else get? name rest

/-- The name is that of a member. -/
def contains (name : Text) (ms : Members) : Bool := (get? name ms).isSome

end Members

namespace Json

mutual

/-- No number in the value is infinite or not a number. -/
def isFinite : Json → Bool
  | .double d => d.isFinite
  | .array items => itemsFinite items
  | .object members => membersFinite members
  | _ => true

/-- The items are all free of infinite numbers. -/
def itemsFinite : List Json → Bool
  | [] => true
  | v :: rest => v.isFinite && itemsFinite rest

/-- The members are all free of infinite numbers. -/
def membersFinite : List (Text × Json) → Bool
  | [] => true
  | (_, v) :: rest => v.isFinite && membersFinite rest

end

/-- The members of an object. -/
def members? : Json → Option Members
  | .object members => some members
  | _ => none

end Json

end MonitorIntake
