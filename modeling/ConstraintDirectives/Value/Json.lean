import ConstraintDirectives.Json.Reader
import ConstraintDirectives.Json.Sorted
import ConstraintDirectives.Value.Basic

/-! Values as JSON documents. Integers of 64 bits stay integers, all other numbers are floats. -/
namespace ConstraintDirectives

def int64? (i : Int) : Option Int64 :=
  if Int64.minValue.toInt ≤ i ∧ i ≤ Int64.maxValue.toInt then some (.ofInt i) else none

namespace Value

def ofInteger (i : Int) : Value :=
  match int64? i with
  | some n => .int n
  | none => .float (.ofInt i)

mutual
def ofJson? : Json → Option Value
  | .null => some .null
  | .bool b => some (.boolean b)
  | .integer i => some (ofInteger i)
  | .real x => some (.float x)
  | .string s => some (.string s)
  | .array items => (ofItems? items).map .list
  | .object members => (ofMembers? members).map fun ps => .record (Entries.ofList ps)
  | .unreadable => none

def ofItems? : List Json → Option (List Value)
  | [] => some []
  | j :: js => do return (← ofJson? j) :: (← ofItems? js)

def ofMembers? : List (String × Json) → Option (List (String × Value))
  | [] => some []
  | (k, j) :: ms => do return (k, ← ofJson? j) :: (← ofMembers? ms)
end

mutual
def toJson : Value → Json
  | .null => .null
  | .boolean b => .bool b
  | .int i => .integer i.toInt
  | .float x => .ofNumber x
  | .string s => .string s
  | .list items => .array (toItems items)
  | .record properties => .object (toMembers properties)

def toItems : List Value → List Json
  | [] => []
  | x :: xs => x.toJson :: toItems xs

def toMembers : List (String × Value) → List (String × Json)
  | [] => []
  | (k, x) :: ps => (k, x.toJson) :: toMembers ps
end

/-- Reads a text, properties in written order. -/
def parse? (text : String) : Option Value := (Json.parse? text).bind ofJson?

/-- Reads a text by way of its order-free form. A repeated member must be readable even if its value
is not kept. -/
def parseSorted? (text : String) : Option Value := do
  let j ← Json.parse? text
  let _ ← ofJson? j
  ofJson? j.sorted

end Value

end ConstraintDirectives
