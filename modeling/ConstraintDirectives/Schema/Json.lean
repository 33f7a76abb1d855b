import ConstraintDirectives.Json.Shape
import ConstraintDirectives.Schema.Basic
import ConstraintDirectives.Value.Json

namespace ConstraintDirectives

namespace TypeId

def toJson (id : TypeId) : Json := .integer id.index

def ofJson? : Json → Option TypeId
  | .integer i => if 0 ≤ i ∧ i < count then some (.ofIndex i.toNat) else none
  | _ => none

end TypeId

namespace WrappedType

def toJson : WrappedType → Json
  | .named id => .object [("Named", id.toJson)]
  | .list inner => .object [("List", inner.toJson)]
  | .nonNull inner => .object [("NonNull", inner.toJson)]

def ofJson? : Json → Option WrappedType
  | .object [(tag, j)] =>
    if tag = "Named" then (TypeId.ofJson? j).map .named
    else if tag = "List" then (ofJson? j).map .list
    else if tag = "NonNull" then (ofJson? j).map .nonNull
    else none
  | _ => none

end WrappedType

def mapJson {α : Type} (value : α → Json) (m : OrderedMap String α) : Json :=
  .object (m.map value).entries

def valuesOf? : Json → Option (OrderedMap String Value) :=
  Json.entries? Value.ofJson?

namespace AppliedDirective

def toJson (d : AppliedDirective) : Json :=
  .object [("name", .string d.name), ("arguments", mapJson Value.toJson d.arguments)]

def ofJson? (j : Json) : Option AppliedDirective := do
  match ← j.slots? ["name", "arguments"] with
  | [some name, arguments] =>
    return ⟨← name.text?, ← Json.optional? valuesOf? .empty arguments⟩
  | _ => none

end AppliedDirective

def directivesJson (ds : List AppliedDirective) : Json := .array (ds.map (·.toJson))

def directivesOf? : Option Json → Option (List AppliedDirective) :=
  Json.optional? (Json.list? AppliedDirective.ofJson?) []

namespace BuiltinScalar

/-- The tag of a built-in scalar, which is not always the name of its type. -/
def tag : BuiltinScalar → String
  | .int => "Int"
  | .float => "Float"
  | .string => "String"
  | .boolean => "Boolean"
  | .id => "Id"

def ofJson? (j : Json) : Option BuiltinScalar := do
  let tag ← j.tag?
  all.find? (·.tag == tag)

end BuiltinScalar

namespace InputDefinition

def toJson (d : InputDefinition) : Json :=
  .object [("ty", d.type.toJson), ("directives", directivesJson d.directives)]

def ofJson? (j : Json) : Option InputDefinition := do
  match ← j.slots? ["ty", "directives"] with
  | [some type, directives] => return ⟨← WrappedType.ofJson? type, ← directivesOf? directives⟩
  | _ => none

end InputDefinition

namespace FieldDefinition

def toJson (d : FieldDefinition) : Json :=
  .object [("ty", d.type.toJson), ("arguments", mapJson InputDefinition.toJson d.arguments),
    ("directives", directivesJson d.directives)]

def ofJson? (j : Json) : Option FieldDefinition := do
  match ← j.slots? ["ty", "arguments", "directives"] with
  | [some type, arguments, directives] =>
    return ⟨← WrappedType.ofJson? type,
      ← Json.optional? (Json.entries? InputDefinition.ofJson?) .empty arguments,
      ← directivesOf? directives⟩
  | _ => none

end FieldDefinition

namespace TypeDefinition

def builtinJson : Option BuiltinScalar → Json
  | some b => .string b.tag
  | none => .null

def builtinOf? : Option Json → Option (Option BuiltinScalar)
  | none | some .null => some none
  | some j => (BuiltinScalar.ofJson? j).map some

def toJson : TypeDefinition → Json
  | .scalar builtin => .object [("Scalar", .object [("builtin", builtinJson builtin)])]
  | .inputObject fields =>
    .object [("InputObject", .object [("fields", mapJson InputDefinition.toJson fields)])]
  | .object fields =>
    .object [("Object", .object [("fields", mapJson FieldDefinition.toJson fields)])]
  | .enumeration values =>
    .object [("Enum", .object [("values", .array (values.map .string))])]
  | .placeholder => .string "Placeholder"

/-- The content of a kind that is one required field. -/
def onlySlot? (name : String) (j : Json) : Option Json :=
  match j.slots? [name] with
  | some [slot] => slot
  | _ => none

def ofJson? (j : Json) : Option TypeDefinition := do
  match ← j.tagged? with
  | ("Scalar", some j) =>
    match ← j.slots? ["builtin"] with
    | [slot] => return .scalar (← builtinOf? slot)
    | _ => none
  | ("InputObject", some j) =>
    return .inputObject (← Json.entries? InputDefinition.ofJson? (← onlySlot? "fields" j))
  | ("Object", some j) =>
    return .object (← Json.entries? FieldDefinition.ofJson? (← onlySlot? "fields" j))
  | ("Enum", some j) => return .enumeration (← Json.list? Json.text? (← onlySlot? "values" j))
  | ("Placeholder", none) | ("Placeholder", some .null) => return .placeholder
  | _ => none

end TypeDefinition

namespace NamedType

def toJson (t : NamedType) : Json :=
  .object [("name", .string t.name), ("kind", t.definition.toJson),
    ("directives", directivesJson t.directives)]

def ofJson? (j : Json) : Option NamedType := do
  match ← j.slots? ["name", "kind", "directives"] with
  | [some name, some kind, directives] =>
    return ⟨← name.text?, ← TypeDefinition.ofJson? kind, ← directivesOf? directives⟩
  | _ => none

end NamedType

namespace Schema

def toJson (s : Schema) : Json :=
  .object [("types", .array (s.types.map (·.toJson))), ("names", mapJson TypeId.toJson s.names)]

/-- Takes types and names as they are; they need not agree. -/
def ofJson? (j : Json) : Option Schema := do
  match ← j.slots? ["types", "names"] with
  | [some types, some names] =>
    let types ← Json.list? NamedType.ofJson? types
    let names ← Json.entries? TypeId.ofJson? names
    if h : types.length ≤ TypeId.count then return ⟨types, names, h⟩ else none
  | _ => none

def parse? (text : String) : Option Schema := (Json.parse? text).bind ofJson?

end Schema

namespace FieldCoordinate

def toJson (key : FieldCoordinate) : Json :=
  .object [("owner", .string key.owner), ("field", .string key.field)]

def ofJson? (j : Json) : Option FieldCoordinate := do
  match ← j.slots? ["owner", "field"] with
  | [some owner, some field] => return ⟨← owner.text?, ← field.text?⟩
  | _ => none

end FieldCoordinate

def ValueKind.ofJson? (j : Json) : Option ValueKind := do
  let tag ← j.tag?
  ValueKind.all.find? (·.name == tag)

end ConstraintDirectives
