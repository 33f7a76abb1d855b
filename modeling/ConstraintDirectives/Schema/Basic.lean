import ConstraintDirectives.Schema.NamedType

/-! The types of one schema by id and by name. An edit answers its outcome beside the schema. -/
namespace ConstraintDirectives

inductive SchemaError where
  | duplicateTypeName (name : String)
  | typeNotFound (id : TypeId)
  | undefinedType (name : String)
  | alreadyDefined (name : String)
  /-- Every id is taken. -/
  | tooManyTypes
  deriving DecidableEq

def SchemaError.message : SchemaError → String
  | .duplicateTypeName name => "duplicate type name: '" ++ name ++ "'"
  | .typeNotFound id => "type not found: " ++ id.text
  | .undefinedType name => "type '" ++ name ++ "' was declared but never defined"
  | .alreadyDefined name => "type '" ++ name ++ "' is already defined"
  | .tooManyTypes => "too many types"

structure Schema where
  types : List NamedType
  names : OrderedMap String TypeId
  length_le : types.length ≤ TypeId.count

namespace Schema

def builtinType (b : BuiltinScalar) : NamedType := ⟨b.typeName, .scalar (some b), []⟩

/-- The schema that has the built-in scalars alone. -/
def builtin : Schema where
  types := BuiltinScalar.all.map builtinType
  names := .ofList (BuiltinScalar.all.map fun b => (b.typeName, b.typeId))
  length_le := by decide

instance : Inhabited Schema := ⟨builtin⟩

def size (s : Schema) : Nat := s.types.length

def get? (s : Schema) (id : TypeId) : Option NamedType := s.types[id.index]?

def find? (s : Schema) (name : String) : Option TypeId := s.names.get? name

/-- The ids of all types, in order. -/
def ids (s : Schema) : List TypeId := (List.range s.size).map .ofIndex

/-- Adds a type under a name of its own. -/
def add (s : Schema) (t : NamedType) : Except SchemaError TypeId × Schema :=
  if (s.find? t.name).isSome then (.error (.duplicateTypeName t.name), s)
  else if h : s.types.length < TypeId.count then
    let id := TypeId.ofIndex s.types.length
    (.ok id, ⟨s.types ++ [t], s.names.insert t.name id, by rw [List.length_append]; exact h⟩)
  else (.error .tooManyTypes, s)

def addScalar (s : Schema) (name : String) (directives : List AppliedDirective) :
    Except SchemaError TypeId × Schema :=
  s.add ⟨name, .scalar none, directives⟩

/-- Reserves an id for a type to be defined later. -/
def declare (s : Schema) (name : String) : Except SchemaError TypeId × Schema :=
  s.add ⟨name, .placeholder, []⟩

/-- Defines a declared type. -/
def define (s : Schema) (id : TypeId) (definition : TypeDefinition)
    (directives : List AppliedDirective) : Except SchemaError Unit × Schema :=
  match s.get? id with
  | none => (.error (.typeNotFound id), s)
  | some t =>
    if t.definition.isPlaceholder then
      (.ok (), { s with
        types := s.types.set id.index ⟨t.name, definition, directives⟩
        length_le := by simpa using s.length_le })
    else (.error (.alreadyDefined t.name), s)

/-- Fails with the first type that is declared only. -/
def checkComplete (s : Schema) : Except SchemaError Unit :=
  match s.types.find? (·.definition.isPlaceholder) with
  | some t => .error (.undefinedType t.name)
  | none => .ok ()

end Schema
end ConstraintDirectives
