import ConstraintDirectives.Constraint.Declared

namespace ConstraintDirectives.ConstraintName

private def lengthOf (value : Value) : Nat := (value.string?.map String.length).getD 0

private def itemCount : Value → Nat
  | .list items => items.length
  | _ => 0

private def describeRepeat : Value → String
  | .list items =>
    match Value.firstRepeat? items with
    | some (i, j) =>
      "items at index " ++ toString i ++ " and " ++ toString j
        ++ " are equal, violating uniqueItems"
    | none => "list violates uniqueItems"
  | _ => "value violates uniqueItems"

def describe (name : ConstraintName) (declared : Declared) (value : Value) : String :=
  let about (middle : String) := value.text ++ middle ++ declared.text
  let length (middle : String) := about (" has length " ++ toString (lengthOf value) ++ middle)
  let count (middle : String) :=
    "list has " ++ toString (itemCount value) ++ middle ++ declared.text
  match name with
  | .minLength => length ", less than minLength "
  | .maxLength => length ", greater than maxLength "
  | .startsWith => about " doesn't start with "
  | .endsWith => about " doesn't end with "
  | .includes => about " doesn't include "
  | .oneOf => about " is not one of "
  | .equals => about " is not equal to "
  | .regex => about " does not match pattern "
  | .min => about " is less than min "
  | .max => about " is greater than max "
  | .exclusiveMin => about " is less than or equal to exclusiveMin "
  | .exclusiveMax => about " is greater than or equal to exclusiveMax "
  | .multipleOf => about " is not a multiple of "
  | .minItems => count " items, fewer than minItems "
  | .maxItems => count " items, more than maxItems "
  | .uniqueItems => describeRepeat value
  | .innerList => about " violates innerList "

/-- What is said of a list that repeats an item. -/
theorem describe_uniqueItems {items : List Value} {i j : Nat}
    (h : Value.firstRepeat? items = some (i, j)) (declared : Declared) :
    uniqueItems.describe declared (.list items) =
      "items at index " ++ toString i ++ " and " ++ toString j
        ++ " are equal, violating uniqueItems" := by
  simp only [describe, describeRepeat, h]

/-- Of a list, messages tell the number of items and the first repetition. -/
theorem describe_items_eq {name : ConstraintName} {xs ys : List Value}
    (hname : name = .minItems ∨ name = .maxItems ∨ name = .uniqueItems)
    (hlen : xs.length = ys.length) (hrepeat : Value.firstRepeat? xs = Value.firstRepeat? ys)
    (declared : Declared) :
    name.describe declared (.list xs) = name.describe declared (.list ys) := by
  rcases hname with rfl | rfl | rfl
  · simp only [describe, itemCount, hlen]
  · simp only [describe, itemCount, hlen]
  · simp only [describe, describeRepeat, hrepeat]

end ConstraintDirectives.ConstraintName
