import ConstraintDirectives.Text.Letters

namespace ConstraintDirectives.SchemaText

def constraintDirectives : String := "
directive @numberValue(
  min: Float
  max: Float
  exclusiveMax: Float
  exclusiveMin: Float
  oneOf: [Float]
  equals: Float
  multipleOf: Float
) on FIELD_DEFINITION | INPUT_FIELD_DEFINITION | ARGUMENT_DEFINITION | SCALAR

directive @stringValue(
  minLength: Int
  maxLength: Int
  startsWith: String
  endsWith: String
  includes: String
  oneOf: [String]
  equals: String
  regex: String
) on FIELD_DEFINITION | INPUT_FIELD_DEFINITION | ARGUMENT_DEFINITION | SCALAR

input _ListConstraints \x7b
  maxItems: Int
  minItems: Int
  uniqueItems: Boolean
  innerList: _ListConstraints
\x7d

directive @list(
  maxItems: Int
  minItems: Int
  uniqueItems: Boolean
  innerList: _ListConstraints
) on FIELD_DEFINITION | INPUT_FIELD_DEFINITION | ARGUMENT_DEFINITION
"

private def trimmed (text : String) : List Char :=
  (text.toList.reverse.dropWhile Text.isSpace).reverse

/-- A schema text with the directives after it. -/
def withConstraintDirectives (text : String) : String :=
  String.ofList (trimmed text) ++ "\n" ++ constraintDirectives

end ConstraintDirectives.SchemaText
