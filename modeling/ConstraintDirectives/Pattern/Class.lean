import ConstraintDirectives.Pattern.Escape
import ConstraintDirectives.Pattern.Nested

namespace ConstraintDirectives.PatternText
open Text

private def asciiSet? : String → Option CodeRanges
  | "alnum" => some (.ofHex "30-39 41-5A 61-7A")
  | "alpha" => some (.ofHex "41-5A 61-7A")
  | "ascii" => some (.ofHex "0-7F")
  | "blank" => some (.ofHex "9 20")
  | "cntrl" => some (.ofHex "0-1F 7F")
  | "digit" => some (.ofHex "30-39")
  | "graph" => some (.ofHex "21-7E")
  | "lower" => some (.ofHex "61-7A")
  | "print" => some (.ofHex "20-7E")
  | "punct" => some (.ofHex "21-2F 3A-40 5B-60 7B-7E")
  | "space" => some (.ofHex "9-D 20")
  | "upper" => some (.ofHex "41-5A")
  | "word" => some asciiWord
  | "xdigit" => some (.ofHex "30-39 41-46 61-66")
  | _ => none

private def asciiBody? (cs : List Char) : Option (CodeRanges × Within cs) := do
  let (name, r) := spanned (· ≠ ':') cs
  let rest ← afterWord? [':', ']'] r.1
  return (← asciiSet? (String.ofList name), r.trans rest)

private def asciiClass? (cs : List Char) : Option ((Bool × CodeRanges) × Within cs) :=
  match cs with
  | ':' :: '^' :: cs => (asciiBody? cs).map fun (s, r) => ((true, s), r.behind [':', '^'])
  | ':' :: cs => (asciiBody? cs).map fun (s, r) => ((false, s), r.behind [':'])
  | _ => none

inductive SetOperator where
  | inter
  | diff
  | symmetricDiff

def SetOperator.apply : SetOperator → CodeRanges → CodeRanges → CodeRanges
  | .inter => .inter
  | .diff => .diff
  | .symmetricDiff => .symmetricDiff

/-- An open bracket: what stands to the left of the last operator, and the items since. -/
structure ClassLevel where
  negated : Bool
  left : Option (SetOperator × Nested CodeRanges) := none
  items : List (Nested CodeRanges) := []

namespace ClassLevel

def add (level : ClassLevel) (s : Nested CodeRanges) : ClassLevel :=
  { level with items := s :: level.items }

private def combined (flags : Flags) (level : ClassLevel) : Nested CodeRanges :=
  let items := .unions (level.items.map (·.value))
  let depth := Nested.depthOfAll level.items
  match level.left with
  | none => ⟨items, depth⟩
  | some (op, left) =>
    -- case is ignored on both sides of an operator
    ⟨op.apply (flags.cased left.value) (flags.cased items), max left.depth depth + 1⟩

private def operator (flags : Flags) (op : SetOperator) (level : ClassLevel) : ClassLevel :=
  { level with left := some (op, level.combined flags), items := [] }

private def close? (flags : Flags) (level : ClassLevel) : Option (Nested CodeRanges) :=
  let inside := level.combined flags
  (flags.adjusted? level.negated inside.value).map (Nested.within · inside)

end ClassLevel

private def hyphens (flags : Flags) (level : ClassLevel) (cs : List Char) :
    ClassLevel × Within cs :=
  let (found, r) := flags.spanned (· = '-') cs
  (found.foldl (fun level _ => level.add ⟨.single '-'.toNat, 0⟩) level, r)

private def classFront (flags : Flags) (negated : Bool) (cs : List Char) :
    ClassLevel × Within cs :=
  let (level, r) := hyphens flags { negated } cs
  match flags.next? cs with
  | some (']', r') => (level.add ⟨.single ']'.toNat, 0⟩, r'.within)
  | _ => (level, r)

private def classStart (flags : Flags) (cs : List Char) : ClassLevel × Within cs :=
  let r := flags.skip cs
  match flags.next? r.1 with
  | some ('^', r') =>
    let (level, r'') := classFront flags true r'.1
    (level, (r.transShorter (r'.trans r'')).within)
  | _ =>
    let (level, r') := classFront flags false r.1
    (level, r.trans r')

private def classLiteral? (flags : Flags) (c : Char) : Option Char :=
  if flags.unicode ∨ c.toNat < 0x80 then some c else none

private def classItem (flags : Flags) (cs : List Char) : Option (Escape × Shorter cs) :=
  match cs with
  | [] => none
  | '\\' :: cs => (escape flags cs).map fun (e, r) => (e, r.after '\\')
  | c :: cs => some (.literal c, .tail c cs)

private def itemSet? (flags : Flags) : Escape → Option CodeRanges
  | .literal c => (classLiteral? flags c).map fun c => .single c.toNat
  | .set s => some s
  | .anchor _ => none

private def rangeSet? (flags : Flags) : Escape → Escape → Option CodeRanges
  | .literal lo, .literal hi => do
    let lo ← classLiteral? flags lo
    let hi ← classLiteral? flags hi
    if lo ≤ hi then return [(lo.toNat, hi.toNat)] else none
  | _, _ => none

private def endsRange (flags : Flags) (cs : List Char) : Bool :=
  let next :=
    if !flags.verbose then cs.head?
    else
      -- spaces are looked past, and one number sign among them
      match cs.dropWhile isSpace with
      | '#' :: cs => (cs.dropWhile isSpace).head?
      | cs => cs.head?
  next = some ']' ∨ next = some '-'

private def classRange (flags : Flags) (cs : List Char) : Option (CodeRanges × Shorter cs) := do
  let (first, r) ← classItem flags cs
  let r := r.trans (flags.skip r.1)
  match r.within.uncons? with
  | none => none
  | some (c, after) =>
    if c ≠ '-' ∨ endsRange flags after.1 then return (← itemSet? flags first, r)
    else
      let r' := flags.skip after.1
      let (last, r'') ← classItem flags r'.1
      return (← rangeSet? flags first last, after.trans (r'.transShorter r'').within)

inductive ClassToken where
  | opening (level : ClassLevel)
  | closing
  | operator (op : SetOperator)
  | item (s : CodeRanges)

private def setOperator? : Char → Option SetOperator
  | '&' => some .inter
  | '-' => some .diff
  | '~' => some .symmetricDiff
  | _ => none

private def operator? (cs : List Char) : Option (SetOperator × Shorter cs) :=
  match cs with
  | c :: d :: cs =>
    if c = d then (setOperator? c).map fun op => (op, (Shorter.tail d cs).after c) else none
  | _ => none

private def classToken (flags : Flags) (cs : List Char) : Option (ClassToken × Shorter cs) :=
  match cs with
  | '[' :: cs =>
    match asciiClass? cs with
    | some ((negated, s), r) => (flags.adjusted? negated s).map fun s => (.item s, r.after '[')
    | none =>
      let (level, r) := classStart flags cs
      some (.opening level, r.after '[')
  | ']' :: cs => some (.closing, .tail ']' cs)
  | cs =>
    match operator? cs with
    | some (op, r) => some (.operator op, r)
    | none => (classRange flags cs).map fun (s, r) => (.item s, r)

private def classRest (flags : Flags) (level : ClassLevel) (outer : List ClassLevel)
    {cs : List Char} (r : Within cs) : Option (Nested CodeRanges × Within cs) :=
  let skipped := flags.skip r.1
  match classToken flags skipped.1 with
  | none => none
  | some (token, r') =>
    have shorter : r'.1.length < r.1.length := (skipped.transShorter r').2
    let rest : Within cs := r.trans ⟨r'.1, Nat.le_of_lt shorter⟩
    match token with
    | .opening inner => classRest flags inner (level :: outer) rest
    | .operator op => classRest flags (level.operator flags op) outer rest
    | .item s => classRest flags (level.add ⟨s, 0⟩) outer rest
    | .closing =>
      match level.close? flags, outer with
      | none, _ => none
      | some s, [] => some (s, rest)
      | some s, next :: outer => classRest flags (next.add s) outer rest
termination_by r.1.length

/-- A class, read after its opening bracket. -/
def charClass (flags : Flags) (cs : List Char) : Option (Nested CodeRanges × Within cs) :=
  let (level, r) := classStart flags cs
  classRest flags level [] r

end ConstraintDirectives.PatternText
