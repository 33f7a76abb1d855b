import ConstraintDirectives.OrderedMap
import ConstraintDirectives.Value.Basic

namespace ConstraintDirectives

structure TypeId where
  number : UInt32
  deriving DecidableEq, Inhabited

namespace TypeId

def index (id : TypeId) : Nat := id.number.toNat

def ofIndex (i : Nat) : TypeId := ⟨.ofNat i⟩

def text (id : TypeId) : String := "TypeId(" ++ toString id.index ++ ")"

/-- How many ids there are. -/
def count : Nat := UInt32.size

theorem index_ofIndex {i : Nat} (h : i < count) : (ofIndex i).index = i := by
  simp only [index, ofIndex]
  exact Nat.mod_eq_of_lt h

theorem ofIndex_index (id : TypeId) : ofIndex id.index = id := by
  simp [index, ofIndex]

theorem index_lt (id : TypeId) : id.index < count := id.number.toNat_lt

end TypeId

/-- A named type with list and non-null wrappers around it. -/
inductive WrappedType where
  | named (id : TypeId)
  | list (inner : WrappedType)
  | nonNull (inner : WrappedType)
  deriving DecidableEq

namespace WrappedType

def coreType : WrappedType → TypeId
  | .named id => id
  | .list inner | .nonNull inner => inner.coreType

def listDepth : WrappedType → Nat
  | .named _ => 0
  | .list inner => inner.listDepth + 1
  | .nonNull inner => inner.listDepth

end WrappedType

/-- A directive with its literal arguments, as written on a schema element. -/
structure AppliedDirective where
  name : String
  arguments : OrderedMap String Value

inductive BuiltinScalar where
  | int
  | float
  | string
  | boolean
  | id
  deriving DecidableEq

namespace BuiltinScalar

def all : List BuiltinScalar := [.int, .float, .string, .boolean, .id]

def typeName : BuiltinScalar → String
  | .int => "Int"
  | .float => "Float"
  | .string => "String"
  | .boolean => "Boolean"
  | .id => "ID"

def isNumeric : BuiltinScalar → Bool
  | .int | .float => true
  | _ => false

def isText : BuiltinScalar → Bool
  | .string | .id => true
  | _ => false

/-- The id of the scalar in every schema that starts with the built-in ones. -/
def typeId : BuiltinScalar → TypeId
  | .int => .ofIndex 0
  | .float => .ofIndex 1
  | .string => .ofIndex 2
  | .boolean => .ofIndex 3
  | .id => .ofIndex 4

end BuiltinScalar

/-- An argument of a field, or a field of an input object. -/
structure InputDefinition where
  type : WrappedType
  directives : List AppliedDirective

/-- A field of an output object. -/
structure FieldDefinition where
  type : WrappedType
  arguments : OrderedMap String InputDefinition
  directives : List AppliedDirective

inductive TypeDefinition where
  | scalar (builtin : Option BuiltinScalar)
  | inputObject (fields : OrderedMap String InputDefinition)
  | object (fields : OrderedMap String FieldDefinition)
  | enumeration (values : List String)
  /-- Declared, and still to be defined. -/
  | placeholder

def TypeDefinition.isPlaceholder : TypeDefinition → Bool
  | .placeholder => true
  | _ => false

structure NamedType where
  name : String
  definition : TypeDefinition
  directives : List AppliedDirective

/-- Types of the introspection system carry no constraints. -/
def NamedType.isIntrospection (t : NamedType) : Bool := "__".toList.isPrefixOf t.name.toList

/-- A field of an output object by the name of its owner. -/
structure FieldCoordinate where
  owner : String
  field : String
  deriving DecidableEq

namespace FieldCoordinate

def text (key : FieldCoordinate) : String := key.owner ++ "." ++ key.field

/-- By owner, then by field. -/
def le (a b : FieldCoordinate) : Bool :=
  decide (a.owner < b.owner) || (a.owner == b.owner && !decide (b.field < a.field))

end FieldCoordinate
end ConstraintDirectives
