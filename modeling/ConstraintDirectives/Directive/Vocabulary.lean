import ConstraintDirectives.Directive.Decoding

/-! The constraint directives that a schema may use. Others are none of its business. -/
namespace ConstraintDirectives

structure Vocabulary where
  definitions : List DirectiveDefinition

namespace Vocabulary

def find? (v : Vocabulary) (name : String) : Option DirectiveDefinition :=
  v.definitions.find? (·.name == name)

def repeated? : List ArgumentDefinition → List ConstraintName → Option ConstraintName
  | [], _ => none
  | a :: rest, seen => if seen.contains a.name then some a.name else repeated? rest (a.name :: seen)

def isNestedDefault (a : ArgumentDefinition) : Bool :=
  match a.type, a.default with
  | .listConstraints, some (.record _) => true
  | _, _ => false

def defaults (d : DirectiveDefinition) : List (String × Value) :=
  d.arguments.filterMap fun a => a.default.map fun v => (a.name.text, v)

/-- Argument names are distinct, and the defaults decode. -/
def check (d : DirectiveDefinition) : Except DirectiveError Unit := do
  if let some name := repeated? d.arguments [] then
    throw (.invalidVocabulary (.repeatedArgument d.key name))
  if d.key = .list ∧ d.allows .scalar then throw (.invalidVocabulary .listOnScalar)
  if let some a := d.arguments.find? isNestedDefault then
    throw (.invalidVocabulary (.nestedDefault d.key a.name))
  let _ ← d.decode d.key.text (defaults d)

def add (v : Vocabulary) (d : DirectiveDefinition) : Except DirectiveError Vocabulary := do
  check d
  if (v.find? d.name).isSome then throw (.invalidVocabulary .repeatedDirective)
  return ⟨v.definitions ++ [d]⟩

def ofDefinitions (definitions : List DirectiveDefinition) : Except DirectiveError Vocabulary :=
  definitions.foldlM add ⟨[]⟩

def numberValue : DirectiveDefinition where
  key := .numberValue
  arguments :=
    [{ name := .min, type := .float }, { name := .max, type := .float },
      { name := .exclusiveMax, type := .float }, { name := .exclusiveMin, type := .float },
      { name := .oneOf, type := .floats }, { name := .equals, type := .float },
      { name := .multipleOf, type := .float }]
  locations := DirectiveLocation.all

def stringValue : DirectiveDefinition where
  key := .stringValue
  arguments :=
    [{ name := .minLength, type := .int }, { name := .maxLength, type := .int },
      { name := .startsWith, type := .string }, { name := .endsWith, type := .string },
      { name := .includes, type := .string }, { name := .oneOf, type := .strings },
      { name := .equals, type := .string }, { name := .regex, type := .string }]
  locations := DirectiveLocation.all

def list : DirectiveDefinition where
  key := .list
  arguments :=
    [{ name := .maxItems, type := .int }, { name := .minItems, type := .int },
      { name := .uniqueItems, type := .boolean },
      { name := .innerList, type := .listConstraints }]
  locations := [.fieldDefinition, .inputFieldDefinition, .argumentDefinition]

/-- The directives of the schema text. -/
def standard : Vocabulary := ⟨[numberValue, stringValue, list]⟩

instance : Inhabited Vocabulary := ⟨standard⟩

end Vocabulary
end ConstraintDirectives
