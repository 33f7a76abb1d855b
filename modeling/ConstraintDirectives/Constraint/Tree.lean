import ConstraintDirectives.Constraint.Declared
import ConstraintDirectives.Schema.Json

/-! All constraints at one position of a value. Those of properties nest, and named types are referred
to by id. -/
namespace ConstraintDirectives

structure ConstraintTree where
  /-- A directive without constraints still counts: it asks for values of its kind. -/
  directives : List (DirectiveKey × List ConstraintSet)
  properties : List (String × ConstraintTree)
  inherits : List TypeId

namespace ConstraintTree

def empty : ConstraintTree := ⟨[], [], []⟩

instance : Inhabited ConstraintTree := ⟨empty⟩

def isEmpty (t : ConstraintTree) : Bool :=
  t.directives.isEmpty && t.properties.isEmpty && t.inherits.isEmpty

def addSets (directives : List (DirectiveKey × List ConstraintSet)) (key : DirectiveKey)
    (sets : List ConstraintSet) : List (DirectiveKey × List ConstraintSet) :=
  Entries.upsert key (fun old => old.getD [] ++ sets) directives

/-- An empty set adds the directive's key alone. -/
def insert (t : ConstraintTree) (key : DirectiveKey) (set : ConstraintSet) : ConstraintTree :=
  { t with directives := addSets t.directives key (if set.isEmpty then [] else [set]) }

def singleton (key : DirectiveKey) (set : ConstraintSet) : ConstraintTree := empty.insert key set

/-- Makes the constraints of a named type part of the tree. -/
def inheriting (t : ConstraintTree) (id : TypeId) : ConstraintTree :=
  { t with inherits := t.inherits ++ [id] }

def mergeDirectives (a b : List (DirectiveKey × List ConstraintSet)) :
    List (DirectiveKey × List ConstraintSet) :=
  b.foldl (fun acc (key, sets) => addSets acc key sets) a

mutual
/-- Both trees together. Sets and inherited types append, shared properties merge. -/
def merge (a : ConstraintTree) : ConstraintTree → ConstraintTree
  | ⟨directives, properties, inherits⟩ =>
    ⟨mergeDirectives a.directives directives, mergeProperties a.properties properties,
      a.inherits ++ inherits⟩

def mergeProperties (into : List (String × ConstraintTree)) :
    List (String × ConstraintTree) → List (String × ConstraintTree)
  | [] => into
  | (name, t) :: properties =>
    mergeProperties
      (Entries.upsert name
        (fun
          | none => t
          | some old => old.merge t) into)
      properties
end

def addProperty (t : ConstraintTree) (name : String) (p : ConstraintTree) : ConstraintTree :=
  { t with properties := mergeProperties t.properties [(name, p)] }

def hasKey (t : ConstraintTree) (key : DirectiveKey) : Bool :=
  (Entries.get? t.directives key).isSome

def sets (t : ConstraintTree) (key : DirectiveKey) : List ConstraintSet :=
  (Entries.get? t.directives key).getD []

def property? (t : ConstraintTree) (name : String) : Option ConstraintTree :=
  Entries.get? t.properties name

mutual
/-- The tree without inherited types that hold nothing, and without properties that hold nothing
then. -/
def prune (isEmptyType : TypeId → Bool) : ConstraintTree → ConstraintTree
  | ⟨directives, properties, inherits⟩ =>
    ⟨directives, pruneProperties isEmptyType properties, inherits.filter (!isEmptyType ·)⟩

def pruneProperties (isEmptyType : TypeId → Bool) :
    List (String × ConstraintTree) → List (String × ConstraintTree)
  | [] => []
  | (name, t) :: properties =>
    let t := t.prune isEmptyType
    let rest := pruneProperties isEmptyType properties
    if t.isEmpty then rest else (name, t) :: rest
end

mutual
/-- Whether a directive is found in the tree, below it, or in an inherited type that is known to hold
one. -/
def leadsToDirective (constrained : TypeId → Bool) : ConstraintTree → Bool
  | ⟨directives, properties, inherits⟩ =>
    !directives.isEmpty || inherits.any constrained
      || propertiesLeadToDirective constrained properties

def propertiesLeadToDirective (constrained : TypeId → Bool) :
    List (String × ConstraintTree) → Bool
  | [] => false
  | (_, t) :: properties =>
    t.leadsToDirective constrained || propertiesLeadToDirective constrained properties
end

def equalSets : List ConstraintSet → List ConstraintSet → Bool
  | [], [] => true
  | a :: as, b :: bs => a.equal b && equalSets as bs
  | _, _ => false

def equalDirectives (a b : List (DirectiveKey × List ConstraintSet)) : Bool :=
  a.length == b.length && a.all fun (key, sets) => (Entries.get? b key).any (equalSets sets)

mutual
/-- Equality up to the order of directives and of properties. -/
def equal : ConstraintTree → ConstraintTree → Bool
  | ⟨directives, properties, inherits⟩, b =>
    equalDirectives directives b.directives
      && properties.length == b.properties.length && coveredBy properties b.properties
      && inherits == b.inherits

/-- Every property on the left has its equal on the right. -/
def coveredBy : List (String × ConstraintTree) → List (String × ConstraintTree) → Bool
  | [], _ => true
  | (name, t) :: properties, others =>
    (match Entries.get? others name with
      | some n => t.equal n
      | none => false) && coveredBy properties others
end

def member (name : String) (isEmpty : Bool) (j : Json) : List (String × Json) :=
  if isEmpty then [] else [(name, j)]

def directivesJson (directives : List (DirectiveKey × List ConstraintSet)) : Json :=
  .object (directives.map fun (key, sets) =>
    (key.text, .array (sets.map fun set => ConstraintSet.toJson set)))

mutual
/-- The parts that are not empty. -/
def toJson : ConstraintTree → Json
  | ⟨directives, properties, inherits⟩ =>
    .object (member "directives" directives.isEmpty (directivesJson directives)
      ++ member "properties" properties.isEmpty (.object (propertyMembers properties))
      ++ member "inherits" inherits.isEmpty (.array (inherits.map TypeId.toJson)))

def propertyMembers : List (String × ConstraintTree) → List (String × Json)
  | [] => []
  | (name, t) :: properties => (name, t.toJson) :: propertyMembers properties
end

end ConstraintTree
end ConstraintDirectives
