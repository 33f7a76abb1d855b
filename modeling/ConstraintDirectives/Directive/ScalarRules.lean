import ConstraintDirectives.Directive.Definition
import ConstraintDirectives.Json.Reader
import ConstraintDirectives.Json.Shape

/-! Which scalars take which value directives. Built-in scalars go by their family; custom scalars
take either, unless only the listed ones do. -/
namespace ConstraintDirectives

structure ScalarRules where
  numericScalars : List String := []
  stringScalars : List String := []
  allowUnlisted : Bool := true

namespace ScalarRules

/-- Whether a scalar may carry a directive. -/
def accepts (o : ScalarRules) (name : String) (builtin : Option BuiltinScalar)
    (key : DirectiveKey) : Bool :=
  match builtin, key with
  | _, .list => false
  | some b, .numberValue => b.isNumeric
  | some b, .stringValue => b.isText
  | none, .numberValue => o.allowUnlisted || o.numericScalars.contains name
  | none, .stringValue => o.allowUnlisted || o.stringScalars.contains name

def toJson (o : ScalarRules) : Json :=
  .object [("numericScalars", .array (o.numericScalars.map .string)),
    ("stringScalars", .array (o.stringScalars.map .string)),
    ("allowUnlistedCustomScalars", .bool o.allowUnlisted)]

def names? : Option Json → Option (List String) :=
  Json.optional? (Json.list? Json.text?) []

/-- What is missing takes its default. -/
def ofJson? (j : Json) : Option ScalarRules := do
  match ← j.slots? ["numericScalars", "stringScalars", "allowUnlistedCustomScalars"] with
  | [numeric, string, allow] =>
    return ⟨← names? numeric, ← names? string, ← Json.optional? Json.bool? true allow⟩
  | _ => none

def parse? (text : String) : Option ScalarRules := (Json.parse? text).bind ofJson?

end ScalarRules
end ConstraintDirectives
