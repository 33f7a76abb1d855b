import ConstraintDirectives.Json.Basic
import ConstraintDirectives.OrderedMap

namespace ConstraintDirectives.Json

/-- The values of a structure's fields. An object names them, other members do not matter, and none
is given twice. An array gives them in order and may stop early. -/
def slots? (names : List String) : Json → Option (List (Option Json))
  | .object members =>
    let known := members.filter (names.contains ·.1)
    if (known.map (·.1)).Nodup then some (names.map (Entries.get? known ·)) else none
  | .array items =>
    if items.length ≤ names.length then
      some ((List.range names.length).map (items[·]?))
    else none
  | _ => none

/-- The tag of an alternative, and its content if it is given one. -/
def tagged? : Json → Option (String × Option Json)
  | .string tag => some (tag, none)
  | .object [(tag, content)] => some (tag, some content)
  | _ => none

/-- The tag of an alternative that has no content. -/
def tag? (j : Json) : Option String :=
  match j.tagged? with
  | some (tag, none) | some (tag, some .null) => some tag
  | _ => none

def text? : Json → Option String
  | .string s => some s
  | _ => none

def bool? : Json → Option Bool
  | .bool b => some b
  | _ => none

def integer? : Json → Option Int
  | .integer i => some i
  | _ => none

def list? {α : Type} (item : Json → Option α) : Json → Option (List α)
  | .array items => items.mapM item
  | _ => none

def entries? {α : Type} (value : Json → Option α) : Json → Option (OrderedMap String α)
  | .object members =>
    (members.mapM fun m => (value m.2).map fun a => (m.1, a)).map .ofList
  | _ => none

/-- What a field that may be missing holds. -/
def optional? {α : Type} (value : Json → Option α) (default : α) : Option Json → Option α
  | none => some default
  | some j => value j

end ConstraintDirectives.Json
