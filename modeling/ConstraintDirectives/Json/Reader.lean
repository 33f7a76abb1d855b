import ConstraintDirectives.Json.Number

/-! Reading JSON text. The grammar is kept strictly, and containers nest at most 127 deep. -/
namespace ConstraintDirectives.Json
open Text

def isBlank (c : Char) : Bool := c = ' ' || c = '\n' || c = '\r' || c = '\t'

def skipBlank (cs : List Char) : Within cs := (spanned isBlank cs).2

/-- The characters of a string from its code points, where a leading and a trailing surrogate make
one character and no other surrogate stands for anything. -/
def characters? : List Nat → Option (List Char)
  | [] => some []
  | [n] => do return [← char? n]
  | n :: m :: rest =>
    if 0xD800 ≤ n ∧ n ≤ 0xDBFF ∧ 0xDC00 ≤ m ∧ m ≤ 0xDFFF then do
      return (← char? (0x10000 + (n - 0xD800) * 0x400 + (m - 0xDC00))) :: (← characters? rest)
    else do return (← char? n) :: (← characters? (m :: rest))

def namedEscape? : Char → Option Char
  | '"' => some '"'
  | '\\' => some '\\'
  | '/' => some '/'
  | 'b' => some '\x08'
  | 'f' => some '\x0c'
  | 'n' => some '\n'
  | 'r' => some '\r'
  | 't' => some '\t'
  | _ => none

/-- The code point that an escape stands for, read after its backslash. -/
def escaped : Reader Nat
  | 'u' :: a :: b :: c :: d :: rest => do
    return (← hexNumber? [a, b, c, d], ⟨rest, by simp +arith⟩)
  | c :: rest => do return ((← namedEscape? c).toNat, .tail c rest)
  | [] => none

/-- The code points of a string, read after its opening quote. -/
def stringBody (cs : List Char) : Option (List Nat × Shorter cs) :=
  match cs with
  | [] => none
  | c :: cs =>
    if c = '"' then some ([], .tail c cs)
    else if c = '\\' then
      match escaped cs with
      | none => none
      | some (e, ⟨rest, h⟩) =>
        (stringBody rest).map fun (s, r) => (e :: s, (Shorter.trans ⟨rest, h⟩ r.within).after c)
    else if c.toNat < 0x20 then none
    else (stringBody cs).map fun (s, r) => (c.toNat :: s, r.after c)
termination_by cs.length

def stringOf? (codePoints : List Nat) : Option String := (characters? codePoints).map String.ofList

def ofText (codePoints : List Nat) : Json :=
  match stringOf? codePoints with
  | some s => .string s
  | none => .unreadable

def fraction? (cs : List Char) : Option (Option (List Char) × Within cs) :=
  match cs with
  | '.' :: cs =>
    let (ds, r) := spanned Char.isDigit cs
    if ds = [] then none else some (some ds, r.behind ['.'])
  | cs => some (none, .whole cs)

def exponentDigits? (negative : Bool) (cs : List Char) : Option (Option Int × Within cs) :=
  let (ds, r) := spanned Char.isDigit cs
  if ds = [] then none else some (some (signed negative (digitsValue ds)), r)

def exponent? (cs : List Char) : Option (Option Int × Within cs) :=
  match cs with
  | c :: cs =>
    if c = 'e' ∨ c = 'E' then
      match cs with
      | '-' :: cs => (exponentDigits? true cs).map fun (e, r) => (e, r.behind [c, '-'])
      | '+' :: cs => (exponentDigits? false cs).map fun (e, r) => (e, r.behind [c, '+'])
      | cs => (exponentDigits? false cs).map fun (e, r) => (e, r.behind [c])
    else some (none, .whole (c :: cs))
  | [] => some (none, .whole [])

/-- No digit follows a leading zero. -/
def wholePart (cs : List Char) : Option (List Char × Shorter cs) :=
  match cs with
  | [] => none
  | c :: cs =>
    if c = '0' then some (['0'], .tail c cs)
    else if c.isDigit then
      let (ds, r) := spanned Char.isDigit cs
      some (c :: ds, r.after c)
    else none

/-- A number, read after its sign. -/
def unsignedNumber (negative : Bool) (cs : List Char) : Option (Json × Shorter cs) := do
  let (whole, r) ← wholePart cs
  let (fraction, r') ← fraction? r.1
  let (exponent, r'') ← exponent? r'.1
  let numeral := ⟨negative, whole, fraction.getD [], exponent.getD 0⟩
  return (ofNumeral numeral (fraction.isNone && exponent.isNone), r.trans (r'.trans r''))

/-- Items separated by commas up to the closing bracket, at least one. -/
def separated {α : Type} (item : Reader α) (close : Char) (cs : List Char) :
    Option (List α × Shorter cs) :=
  match item cs with
  | none => none
  | some (x, ⟨r, h⟩) =>
    match (skipBlank r).uncons? with
    | none => none
    | some (c, ⟨r', h'⟩) =>
      let rest : Shorter cs := Shorter.trans ⟨r, h⟩ (Shorter.within ⟨r', h'⟩)
      if c = close then some ([x], rest)
      else if c = ',' then
        (separated item close r').map fun (xs, t) => (x :: xs, rest.trans t.within)
      else none
termination_by cs.length

/-- The items of a container, read after its opening bracket. -/
def container {α : Type} (item : Reader α) (close : Char) (cs : List Char) :
    Option (List α × Shorter cs) :=
  match (skipBlank cs).uncons? with
  | none => none
  | some (c, r) => if c = close then some ([], r) else separated item close cs

/-- A quoted name, a colon and a value. -/
def member (value : Reader Json) (cs : List Char) :
    Option ((Option String × Json) × Shorter cs) :=
  match (skipBlank cs).uncons? with
  | some ('"', r) => do
    let (k, r') ← stringBody r.1
    match (skipBlank r'.1).uncons? with
    | some (':', r'') =>
      let (v, rest) ← value r''.1
      return ((stringOf? k, v), r.trans (r'.trans (r''.trans rest.within).within).within)
    | _ => none
  | _ => none

/-- An object needs all its names. -/
def ofMembers (members : List (Option String × Json)) : Json :=
  match members.mapM fun (k, v) => k.map (·, v) with
  | some members => .object members
  | none => .unreadable

/-- A container, where `allowed` more may nest. -/
def nested (allowed : Nat) (j : Json) : Json := if allowed = 0 then .unreadable else j

/-- A value with containers at most `depth` deep, of which `allowed` levels are readable. -/
def value (depth allowed : Nat) (cs : List Char) : Option (Json × Shorter cs) :=
  let start := skipBlank cs
  match start.uncons? with
  | none => none
  | some (c, r) =>
    match c, depth with
    | '[', d + 1 =>
      (container (value d (allowed - 1)) ']' r.1).map fun (items, t) =>
        (nested allowed (.array items), r.trans t.within)
    | '\x7b', d + 1 =>
      (container (member (value d (allowed - 1))) '\x7d' r.1).map fun (members, t) =>
        (nested allowed (ofMembers members), r.trans t.within)
    | '"', _ => (stringBody r.1).map fun (s, t) => (ofText s, r.trans t.within)
    | '-', _ => (unsignedNumber true r.1).map fun (n, t) => (n, r.trans t.within)
    | 'n', _ => (afterWord? "ull".toList r.1).map fun t => (.null, r.trans t)
    | 't', _ => (afterWord? "rue".toList r.1).map fun t => (.bool true, r.trans t)
    | 'f', _ => (afterWord? "alse".toList r.1).map fun t => (.bool false, r.trans t)
    | _, _ => (unsignedNumber false start.1).map fun (n, t) => (n, start.transShorter t)
termination_by structural depth

/-- How deep containers nest. -/
def depthLimit : Nat := 127

/-- A text that holds one document and nothing else. No containers are deeper than it is long. -/
def parse? (text : String) : Option Json :=
  match value text.length depthLimit text.toList with
  | some (j, ⟨rest, _⟩) => if (skipBlank rest).1 = [] then some j else none
  | none => none

end ConstraintDirectives.Json
