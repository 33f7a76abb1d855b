import ConstraintDirectives.Directive.Definition

/-! Literal arguments of a directive decoded into a constraint set. An explicit null is passed over, but
keeps a default from standing in. -/
namespace ConstraintDirectives

namespace ArgumentType

def float? : Value → Option Binary64
  | .int i => some (.ofInt i.toInt)
  | .float x => some x
  | _ => none

/-- A literal in its declared type. A single value coerces to a list of one. -/
def decode? : ArgumentType → Value → Option Declared
  | .int, .int i => some (.int i)
  | .float, v => (float? v).map .float
  | .string, .string s => some (.string s)
  | .boolean, .boolean b => some (.boolean b)
  | .floats, .list items => (items.mapM float?).map .floats
  | .floats, v => (float? v).map fun x => .floats [x]
  | .strings, .list items => (items.mapM Value.string?).map .strings
  | .strings, .string s => some (.strings [s])
  | _, _ => none

end ArgumentType

/-- A literal and, should it be an object, what it decodes to as constraints of an inner list. -/
structure Supplied where
  literal : Value
  inner : Option (Except DirectiveError ConstraintSet) := none

namespace DirectiveDefinition
variable (d : DirectiveDefinition) (coordinate : String)

def wrongType (a : ArgumentDefinition) (literal : Value) : DirectiveError :=
  .wrongArgumentType coordinate d.key a.name a.type literal.literalType

def decodePattern (a : ArgumentDefinition) (source : String) :
    Except DirectiveError Declared :=
  match Pattern.ofSource? source with
  | some p => .ok (.pattern p)
  | none => .error (.invalidArgument coordinate d.key a.name .notAPattern)

/-- One argument in its type. A string for `regex` is a pattern. -/
def decodeLiteral (a : ArgumentDefinition) (s : Supplied) : Except DirectiveError Declared :=
  match a.type, s.literal, s.inner with
  | .listConstraints, _, some inner => inner.map .nested
  | .string, .string source, _ =>
    if a.name = .regex then d.decodePattern coordinate a source else .ok (.string source)
  | type, literal, _ =>
    match type.decode? literal with
    | some declared => .ok declared
    | none => .error (d.wrongType coordinate a literal)

def decodeArgument (a : ArgumentDefinition) (s : Supplied) :
    Except DirectiveError Declared := do
  let declared ← d.decodeLiteral coordinate a s
  match a.name.rangeFault? declared with
  | some fault => .error (.invalidArgument coordinate d.key a.name (.outOfRange fault))
  | none => .ok declared

/-- What is given for an argument. A default stands in only where nothing is supplied, not even a
null. -/
def given? (supplied : List (String × Supplied)) (a : ArgumentDefinition) :
    Option Supplied :=
  let s := (Entries.get? supplied a.name.text) <|> a.default.map fun v => { literal := v }
  s.filter (!·.literal.isNull)

/-- The given arguments among some of a directive's, decoded in order. -/
def decodeGiven (supplied : List (String × Supplied)) :
    List ArgumentDefinition → Except DirectiveError ConstraintSet
  | [] => .ok []
  | a :: rest =>
    match given? supplied a with
    | none => decodeGiven supplied rest
    | some s => do
      let declared ← d.decodeArgument coordinate a s
      return (a.name, declared) :: (← decodeGiven supplied rest)

def decodeSupplied (supplied : List (String × Supplied)) :
    Except DirectiveError ConstraintSet :=
  match supplied.find? fun e => (d.argument? e.1).isNone with
  | some (name, _) => .error (.unknownArgument coordinate d.key name)
  | none => d.decodeGiven coordinate supplied d.arguments

mutual
/-- A literal with its decoding as an inner list, whose constraints are those of the directive. -/
def supply : Value → Supplied
  | .record properties =>
    ⟨.record properties, some (d.decodeSupplied coordinate (supplyAll properties))⟩
  | literal => ⟨literal, none⟩

def supplyAll : List (String × Value) → List (String × Supplied)
  | [] => []
  | (name, literal) :: rest => (name, supply literal) :: supplyAll rest
end

/-- Decodes an application of the directive. -/
def decode (arguments : List (String × Value)) : Except DirectiveError ConstraintSet :=
  d.decodeSupplied coordinate (d.supplyAll coordinate arguments)

end DirectiveDefinition
end ConstraintDirectives
