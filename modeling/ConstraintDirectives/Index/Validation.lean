import ConstraintDirectives.Constraint.Description
import ConstraintDirectives.Index.Inheritance
import ConstraintDirectives.Value.Path

/-! Validation of supplied values. The trees in force at a position are taken together, and the first
failure ends it. -/
namespace ConstraintDirectives

inductive Rejection where
  /-- The position is constrained, though not for values of this kind. -/
  | kindMismatch (path : ValuePath) (got : ValueKind) (expected : List DirectiveKey)
  | constraintViolation (path : ValuePath) (directive : DirectiveKey)
      (constraint : ConstraintName) (declared : Declared) (actual : Value) (reason : String)

namespace Rejection

def path : Rejection → ValuePath
  | .kindMismatch path .. => path
  | .constraintViolation path .. => path

def constraint? : Rejection → Option ConstraintName
  | .kindMismatch .. => none
  | .constraintViolation _ _ constraint _ _ _ => some constraint

def expectedKinds (keys : List DirectiveKey) : List String := keys.map (·.expectedKind)

def message : Rejection → String
  | .kindMismatch path got expected =>
    path.text ++ ": got " ++ got.name ++ ", expected " ++ ",".intercalate (expectedKinds expected)
  | .constraintViolation path _ _ _ _ reason => path.text ++ ": " ++ reason

def toJson : Rejection → Json
  | .kindMismatch path got expected =>
    .object [("kind", .string "kindMismatch"), ("path", .string path.text),
      ("got", .string got.name), ("expected", .array ((expectedKinds expected).map .string))]
  | .constraintViolation path directive constraint declared actual reason =>
    .object [("kind", .string "constraintViolation"), ("path", .string path.text),
      ("directive", .string directive.text), ("constraint", .string constraint.text),
      ("declared", declared.toJson), ("actual", actual.toJson),
      ("message", .string reason)]

end Rejection

/-- What is in force at one position. Inside a list, the sets for its items take the place of the
trees' own list sets. -/
structure InForce where
  trees : List ConstraintTree
  lists : Option (List ConstraintSet)

namespace InForce

def ofTrees (index : ConstraintIndex) (roots : List ConstraintTree) : InForce :=
  ⟨index.gather [] roots, none⟩

def listSets (v : InForce) : List ConstraintSet :=
  match v.lists with
  | some sets => sets
  | none => v.trees.flatMap (·.sets .list)

def hasListKey (v : InForce) : Bool :=
  match v.lists with
  | some sets => !sets.isEmpty
  | none => v.trees.any (·.hasKey .list)

/-- Keys in the order in which the trees bring them, the list key last. -/
def keys (v : InForce) : List DirectiveKey :=
  let brought := v.trees.flatMap fun tree => (tree.directives.map (·.1)).filter (· ≠ .list)
  brought.eraseDups ++ if v.hasListKey then [.list] else []

def sets (v : InForce) (key : DirectiveKey) : List ConstraintSet := v.trees.flatMap (·.sets key)

/-- What is in force for the items of a list. -/
def items (v : InForce) : InForce := ⟨v.trees, some (v.listSets.filterMap (·.innerList?))⟩

@[simp] theorem listSets_items (v : InForce) :
    v.items.listSets = v.listSets.filterMap (·.innerList?) := rfl

@[simp] theorem hasListKey_items (v : InForce) :
    v.items.hasListKey = !(v.listSets.filterMap (·.innerList?)).isEmpty := rfl

def propertyNames (v : InForce) : List String :=
  (v.trees.flatMap fun tree => tree.properties.map (·.1)).eraseDups

def property (index : ConstraintIndex) (v : InForce) (name : String) : InForce :=
  ofTrees index (v.trees.filterMap (·.property? name))

end InForce

namespace Validation

/-- The first of some constraints that a value fails. -/
def checkSets (path : ValuePath) (key : DirectiveKey) (value : Value)
    (constraints : List (ConstraintName × Declared)) : Except Rejection Unit :=
  match constraints.find? fun (name, declared) => !name.holds declared value with
  | some (name, declared) =>
    .error (.constraintViolation path key name declared value (name.describe declared value))
  | none => .ok ()

/-- A scalar answers to the key of its kind; where keys are in force that must be one of them. -/
def checkScalar (v : InForce) (path : ValuePath) (value : Value) : Except Rejection Unit :=
  let keys := v.keys
  if keys.isEmpty then .ok ()
  else
    match DirectiveKey.ofScalar? value.kind with
    | some key =>
      if keys.contains key then checkSets path key value (v.sets key).flatten
      else .error (.kindMismatch path value.kind keys)
    | none => .error (.kindMismatch path value.kind keys)

mutual
/-- Checks a value. The path is a stack: each part is pushed on it before the part is checked, and
popped from what that check leaves. -/
def check (index : ConstraintIndex) (v : InForce) (path : ValuePath) :
    Value → Except Rejection ValuePath
  | .null => .ok path
  | .list items => do
    checkSets path .list (.list items) (v.listSets.flatten.filter (·.1 ≠ .innerList))
    checkItems index v.items path 0 items
  | .record properties =>
    v.propertyNames.foldlM
      (fun path name => checkProperty index (v.property index name) path name properties) path
  | .boolean b => (checkScalar v path (.boolean b)).map fun _ => path
  | .int i => (checkScalar v path (.int i)).map fun _ => path
  | .float x => (checkScalar v path (.float x)).map fun _ => path
  | .string s => (checkScalar v path (.string s)).map fun _ => path

/-- Checks the items of a list, the first of which is at position `i`. -/
def checkItems (index : ConstraintIndex) (v : InForce) (path : ValuePath) (i : Nat) :
    List Value → Except Rejection ValuePath
  | [] => .ok path
  | x :: xs => do
    let left ← check index v (path.push (.index i)) x
    checkItems index v left.pop (i + 1) xs

/-- Checks the property of a given name, if it is there. -/
def checkProperty (index : ConstraintIndex) (v : InForce) (path : ValuePath) (name : String) :
    List (String × Value) → Except Rejection ValuePath
  | [] => .ok path
  | (k, x) :: properties =>
    if k = name then do
      let left ← check index v (path.push (.key name)) x
      return left.pop
    else checkProperty index v path name properties
end

end Validation

namespace ConstraintIndex

/-- Validates a value against a constraint tree. -/
def validate (index : ConstraintIndex) (tree : ConstraintTree) (value : Value) :
    Except Rejection Unit :=
  (Validation.check index (.ofTrees index [tree]) .root value).map fun _ => ()

/-- Validates the arguments of a field in declared order. What is not supplied passes. -/
def validateCall (index : ConstraintIndex) (key : FieldCoordinate)
    (supplied : List (String × Value)) : Except Rejection Unit :=
  match index.fieldTrees? key with
  | none => .ok ()
  | some trees =>
    trees.entries.forM fun (name, tree) =>
      match Entries.get? supplied name with
      | some value =>
        (Validation.check index (.ofTrees index [tree]) (.argument name) value).map fun _ => ()
      | none => .ok ()

end ConstraintIndex
end ConstraintDirectives
