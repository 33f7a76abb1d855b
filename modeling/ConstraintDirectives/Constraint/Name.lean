import ConstraintDirectives.Value.Basic

namespace ConstraintDirectives

inductive DirectiveKey where
  | numberValue
  | stringValue
  | list
  deriving DecidableEq

namespace DirectiveKey

def all : List DirectiveKey := [.numberValue, .stringValue, .list]

def name : DirectiveKey → String
  | .numberValue => "numberValue"
  | .stringValue => "stringValue"
  | .list => "list"

/-- The directive as schema text writes it. -/
def text (key : DirectiveKey) : String := "@" ++ key.name

def ofName? (name : String) : Option DirectiveKey := all.find? (·.name == name)

/-- The key that a scalar of some kind answers to. Booleans answer to none. -/
def ofScalar? : ValueKind → Option DirectiveKey
  | .number => some .numberValue
  | .string => some .stringValue
  | _ => none

/-- The kind of value that a key constrains. -/
def expectedKind : DirectiveKey → String
  | .numberValue => "number"
  | .stringValue => "string"
  | .list => "list"

end DirectiveKey

inductive ConstraintName where
  | min
  | max
  | exclusiveMax
  | exclusiveMin
  | oneOf
  | equals
  | multipleOf
  | minLength
  | maxLength
  | startsWith
  | endsWith
  | includes
  | regex
  | maxItems
  | minItems
  | uniqueItems
  | innerList
  deriving DecidableEq

namespace ConstraintName

def all : List ConstraintName :=
  [.min, .max, .exclusiveMax, .exclusiveMin, .oneOf, .equals, .multipleOf, .minLength, .maxLength,
    .startsWith, .endsWith, .includes, .regex, .maxItems, .minItems, .uniqueItems, .innerList]

def text : ConstraintName → String
  | .min => "min"
  | .max => "max"
  | .exclusiveMax => "exclusiveMax"
  | .exclusiveMin => "exclusiveMin"
  | .oneOf => "oneOf"
  | .equals => "equals"
  | .multipleOf => "multipleOf"
  | .minLength => "minLength"
  | .maxLength => "maxLength"
  | .startsWith => "startsWith"
  | .endsWith => "endsWith"
  | .includes => "includes"
  | .regex => "regex"
  | .maxItems => "maxItems"
  | .minItems => "minItems"
  | .uniqueItems => "uniqueItems"
  | .innerList => "innerList"

def ofText? (text : String) : Option ConstraintName := all.find? (·.text == text)

end ConstraintName
end ConstraintDirectives
