import ConstraintDirectives.Constraint.Satisfaction
import ConstraintDirectives.Schema.Basic

namespace ConstraintDirectives

inductive DirectiveLocation where
  | fieldDefinition
  | inputFieldDefinition
  | argumentDefinition
  | scalar
  deriving DecidableEq

namespace DirectiveLocation

def all : List DirectiveLocation :=
  [.fieldDefinition, .inputFieldDefinition, .argumentDefinition, .scalar]

def text : DirectiveLocation → String
  | .fieldDefinition => "FIELD_DEFINITION"
  | .inputFieldDefinition => "INPUT_FIELD_DEFINITION"
  | .argumentDefinition => "ARGUMENT_DEFINITION"
  | .scalar => "SCALAR"

def ofText? (text : String) : Option DirectiveLocation := all.find? (·.text == text)

end DirectiveLocation

inductive ArgumentType where
  | int
  | float
  | string
  | boolean
  | floats
  | strings
  /-- The arguments of the same directive over again, for an inner list. -/
  | listConstraints
  deriving DecidableEq

namespace ArgumentType

def all : List ArgumentType :=
  [.int, .float, .string, .boolean, .floats, .strings, .listConstraints]

def text : ArgumentType → String
  | .int => "Int"
  | .float => "Float"
  | .string => "String"
  | .boolean => "Boolean"
  | .floats => "[Float]"
  | .strings => "[String]"
  | .listConstraints => "_ListConstraints"

def ofText? (text : String) : Option ArgumentType := all.find? (·.text == text)

end ArgumentType

structure ArgumentDefinition where
  name : ConstraintName
  type : ArgumentType
  default : Option Value := none

structure DirectiveDefinition where
  key : DirectiveKey
  arguments : List ArgumentDefinition
  locations : List DirectiveLocation

namespace DirectiveDefinition

def name (d : DirectiveDefinition) : String := d.key.name

def argument? (d : DirectiveDefinition) (name : String) : Option ArgumentDefinition :=
  d.arguments.find? (·.name.text == name)

def allows (d : DirectiveDefinition) (location : DirectiveLocation) : Bool :=
  d.locations.contains location

end DirectiveDefinition

/-- What is wrong with an argument of the right type. -/
inductive ArgumentFault where
  | outOfRange (fault : RangeFault)
  | notAPattern
  deriving DecidableEq

def ArgumentFault.message : ArgumentFault → String
  | .outOfRange fault => fault.message
  | .notAPattern => "is not a valid pattern"

inductive VocabularyFault where
  | repeatedArgument (directive : DirectiveKey) (argument : ConstraintName)
  | listOnScalar
  /-- A default for an inner list would apply again inside itself. -/
  | nestedDefault (directive : DirectiveKey) (argument : ConstraintName)
  | repeatedDirective
  deriving DecidableEq

def VocabularyFault.message : VocabularyFault → String
  | .repeatedArgument directive argument =>
    directive.text ++ " declares '" ++ argument.text ++ "' twice"
  | .listOnScalar => "@list cannot be legal on SCALAR"
  | .nestedDefault directive argument =>
    directive.text ++ " nests the default of '" ++ argument.text ++ "' without end"
  | .repeatedDirective => "directive defined twice"

/-- Coordinates name the schema element at fault, such as `Query.books(title:)`. -/
inductive DirectiveError where
  | incompatibleType (coordinate : String) (directive : DirectiveKey) (type : String)
  | nonListType (coordinate type : String)
  /-- The `innerList` chain is not as long as the declared lists nest. -/
  | listDepthMismatch (coordinate : String) (expected actual : Nat)
  | misplacedDirective (coordinate : String) (directive : DirectiveKey)
      (location : DirectiveLocation)
  | unknownArgument (coordinate : String) (directive : DirectiveKey) (argument : String)
  | wrongArgumentType (coordinate : String) (directive : DirectiveKey) (argument : ConstraintName)
      (expected : ArgumentType) (actual : String)
  | invalidArgument (coordinate : String) (directive : DirectiveKey) (argument : ConstraintName)
      (fault : ArgumentFault)
  | invalidVocabulary (fault : VocabularyFault)
  | schema (error : SchemaError)
  deriving DecidableEq

/-- The scalars that a directive is for. -/
def DirectiveKey.family : DirectiveKey → String
  | .numberValue => "numeric"
  | .stringValue => "string"
  | .list => "list"

def DirectiveError.message : DirectiveError → String
  | .incompatibleType coordinate directive type =>
    coordinate ++ ": " ++ directive.text ++ " can't be applied to type '" ++ type
      ++ "', expected a " ++ directive.family ++ " scalar"
  | .nonListType coordinate type =>
    coordinate ++ ": @list can't be applied to non-list type '" ++ type ++ "'"
  | .listDepthMismatch coordinate expected actual =>
    coordinate ++ ": @list directive expects list of depth " ++ toString expected
      ++ ", but got " ++ toString actual
  | .misplacedDirective coordinate directive location =>
    coordinate ++ ": " ++ directive.text ++ " is not allowed on " ++ location.text
  | .unknownArgument coordinate directive argument =>
    coordinate ++ ": unknown argument '" ++ argument ++ "' for " ++ directive.text
  | .wrongArgumentType coordinate directive argument expected actual =>
    coordinate ++ ": " ++ directive.text ++ "(" ++ argument.text ++ ":) expects "
      ++ expected.text ++ ", got " ++ actual
  | .invalidArgument coordinate directive argument fault =>
    coordinate ++ ": " ++ directive.text ++ "(" ++ argument.text ++ ":) " ++ fault.message
  | .invalidVocabulary fault => "invalid directive catalog: " ++ fault.message
  | .schema error => error.message

end ConstraintDirectives
