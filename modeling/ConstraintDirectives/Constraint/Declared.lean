import ConstraintDirectives.Constraint.Name
import ConstraintDirectives.Json.Basic
import ConstraintDirectives.Pattern.Basic

namespace ConstraintDirectives

/-- What a constraint compares with, already in the type of its argument. -/
inductive Declared where
  | int (i : Int64)
  | float (x : Binary64)
  | string (s : String)
  | boolean (b : Bool)
  | floats (xs : List Binary64)
  | strings (ss : List String)
  | pattern (p : Pattern)
  /-- The constraints one list level further in. -/
  | nested (set : List (ConstraintName × Declared))

/-- One directive application: constraints in the order of the directive's arguments. -/
abbrev ConstraintSet := List (ConstraintName × Declared)

namespace Declared

def int64? : Declared → Option Int64
  | .int i => some i
  | _ => none

def number? : Declared → Option Binary64
  | .int i => some (.ofInt i.toInt)
  | .float x => some x
  | _ => none

def bracketed (items : List String) : String := "[" ++ ", ".intercalate items ++ "]"

mutual
def text : Declared → String
  | .int i => toString i.toInt
  | .float x => NumberLayout.message.text x
  | .string s => Text.quoted s
  | .boolean b => if b then "true" else "false"
  | .floats xs => bracketed (xs.map NumberLayout.message.text)
  | .strings ss => bracketed (ss.map Text.quoted)
  | .pattern p => "/" ++ p.source ++ "/"
  | .nested set => "\x7b" ++ ", ".intercalate (entryTexts set) ++ "\x7d"

def entryTexts : List (ConstraintName × Declared) → List String
  | [] => []
  | (name, d) :: set => (name.text ++ ": " ++ d.text) :: entryTexts set
end

mutual
def toJson : Declared → Json
  | .int i => .integer i.toInt
  | .float x => .ofNumber x
  | .string s => .string s
  | .boolean b => .bool b
  | .floats xs => .array (xs.map .ofNumber)
  | .strings ss => .array (ss.map .string)
  | .pattern p => .string p.source
  | .nested set => .object (toMembers set)

def toMembers : List (ConstraintName × Declared) → List (String × Json)
  | [] => []
  | (name, d) :: set => (name.text, d.toJson) :: toMembers set
end

def sameNumbers : List Binary64 → List Binary64 → Bool
  | [], [] => true
  | x :: xs, y :: ys => x.equal y && sameNumbers xs ys
  | _, _ => false

mutual
/-- Equality with numbers compared as numbers. -/
def equal : Declared → Declared → Bool
  | .int a, .int b => a == b
  | .float x, .float y => x.equal y
  | .string a, .string b => a == b
  | .boolean a, .boolean b => a == b
  | .floats xs, .floats ys => sameNumbers xs ys
  | .strings as, .strings bs => as == bs
  | .pattern p, .pattern q => p == q
  | .nested a, .nested b => equalEntries a b
  | _, _ => false

def equalEntries :
    List (ConstraintName × Declared) → List (ConstraintName × Declared) → Bool
  | [], [] => true
  | (m, a) :: as, (n, b) :: bs => m == n && a.equal b && equalEntries as bs
  | _, _ => false
end

/-- The `innerList` constraints of a list set. -/
def innerOf? (set : List (ConstraintName × Declared)) : Option (List (ConstraintName × Declared)) :=
  match Entries.get? set .innerList with
  | some (.nested inner) => some inner
  | _ => none

end Declared

namespace ConstraintSet

def text (set : ConstraintSet) : String := (Declared.nested set).text

def toJson (set : ConstraintSet) : Json := (Declared.nested set).toJson

def equal (a b : ConstraintSet) : Bool := Declared.equalEntries a b

def get? (set : ConstraintSet) (name : ConstraintName) : Option Declared := Entries.get? set name

def innerList? (set : ConstraintSet) : Option ConstraintSet := Declared.innerOf? set

end ConstraintSet

mutual
/-- Length of the `innerList` chain that starts with a declared value, none if it is no set. -/
def Declared.listDepth : Declared → Nat
  | .nested set => ConstraintSet.innerDepth set + 1
  | _ => 0

/-- Length of the chain below a set: that of its first `innerList` entry. -/
def ConstraintSet.innerDepth : List (ConstraintName × Declared) → Nat
  | [] => 0
  | (name, d) :: set => if name = .innerList then d.listDepth else ConstraintSet.innerDepth set
end

/-- Length of the `innerList` chain, the set itself included. -/
def ConstraintSet.listDepth (set : ConstraintSet) : Nat := ConstraintSet.innerDepth set + 1

end ConstraintDirectives
