import ConstraintDirectives.Binary64.Shortest
import ConstraintDirectives.Entries
import ConstraintDirectives.Text.Quoted

namespace ConstraintDirectives

inductive Value where
  | null
  | boolean (b : Bool)
  | int (i : Int64)
  | float (x : Binary64)
  | string (s : String)
  | list (items : List Value)
  /-- Properties in supplied order. -/
  | record (properties : List (String × Value))
  deriving Inhabited

/-- What constraints tell apart: an integer and a float are both numbers. -/
inductive ValueKind where
  | null
  | boolean
  | number
  | string
  | list
  | record
  deriving DecidableEq

namespace ValueKind

def name : ValueKind → String
  | .null => "null"
  | .boolean => "boolean"
  | .number => "number"
  | .string => "string"
  | .list => "list"
  | .record => "record"

def all : List ValueKind := [.null, .boolean, .number, .string, .list, .record]

def isScalar : ValueKind → Bool
  | .boolean | .number | .string => true
  | _ => false

end ValueKind

namespace Value

def kind : Value → ValueKind
  | .null => .null
  | .boolean _ => .boolean
  | .int _ | .float _ => .number
  | .string _ => .string
  | .list _ => .list
  | .record _ => .record

/-- What a literal is called when it has the wrong type. -/
def literalType : Value → String
  | .null => "null"
  | .boolean _ => "Boolean"
  | .int _ => "Int"
  | .float _ => "Float"
  | .string _ => "String"
  | .list _ => "list"
  | .record _ => "object"

def isNull : Value → Bool
  | .null => true
  | _ => false

def number? : Value → Option Binary64
  | .int i => some (.ofInt i.toInt)
  | .float x => some x
  | _ => none

def string? : Value → Option String
  | .string s => some s
  | _ => none

mutual
/-- Equality up to the order of properties. If numbers may be `mixed`, an integer equals the float
it rounds to. -/
def alike (mixed : Bool) : Value → Value → Bool
  | .null, .null => true
  | .boolean a, .boolean b => a == b
  | .int a, .int b => a == b
  | .int a, .float y => mixed && (Binary64.ofInt a.toInt).equal y
  | .float x, .int b => mixed && x.equal (.ofInt b.toInt)
  | .float x, .float y => x.equal y
  | .string a, .string b => a == b
  | .list xs, .list ys => alikeItems mixed xs ys
  | .record ps, .record qs => ps.length == qs.length && alikeProperties mixed ps qs
  | _, _ => false

def alikeItems (mixed : Bool) : List Value → List Value → Bool
  | [], [] => true
  | x :: xs, y :: ys => alike mixed x y && alikeItems mixed xs ys
  | _, _ => false

/-- Every property on the left has its like on the right. -/
def alikeProperties (mixed : Bool) : List (String × Value) → List (String × Value) → Bool
  | [], _ => true
  | (k, x) :: ps, qs =>
    (match Entries.get? qs k with
      | some y => alike mixed x y
      | none => false) && alikeProperties mixed ps qs
end

/-- The equality that uniqueness of items means. -/
def same : Value → Value → Bool := alike true

/-- Equality that tells integers from floats. -/
def equal : Value → Value → Bool := alike false

/-- The first position that repeats an earlier one, and the first such earlier one. -/
def firstRepeat? (items : List Value) : Option (Nat × Nat) :=
  (List.range items.length).findSome? fun j =>
    match items[j]? with
    | some later => ((items.take j).findIdx? (·.same later)).map fun i => (i, j)
    | none => none

mutual
/-- The value as messages show it. -/
def text : Value → String
  | .null => "null"
  | .boolean b => if b then "true" else "false"
  | .int i => toString i.toInt
  | .float x => NumberLayout.message.text x
  | .string s => Text.quoted s
  | .list items => "[" ++ ", ".intercalate (itemTexts items) ++ "]"
  | .record properties => "\x7b" ++ ", ".intercalate (propertyTexts properties) ++ "\x7d"

def itemTexts : List Value → List String
  | [] => []
  | x :: xs => x.text :: itemTexts xs

def propertyTexts : List (String × Value) → List String
  | [] => []
  | (k, x) :: ps => (k ++ ": " ++ x.text) :: propertyTexts ps
end

end Value
end ConstraintDirectives
