import ConstraintDirectives.Pattern.Flags
import ConstraintDirectives.Pattern.Property

namespace ConstraintDirectives.PatternText
open Text

inductive Escape where
  | literal (c : Char)
  | set (s : CodeRanges)
  | anchor (a : Anchor)

private def codePoint (flags : Flags) (width : Nat) (cs : List Char) :
    Option (Char × Within cs) := do
  let r := flags.skip cs
  match flags.next? r.1 with
  | some ('\x7b', r') =>
    let (digits, r'') := flags.spanned (· ≠ '\x7d') r'.1
    let (_, rest) ← flags.next? r''.1
    if digits.isEmpty then none
    else
      return (← char? (← hexNumber? digits),
        (r.transShorter (r'.trans (r''.transShorter rest).within)).within)
  | _ =>
    let (digits, r') ← flags.take? width r.1
    let c ← char? (← hexNumber? digits)
    -- two digits are a byte, and without Unicode a byte beyond ASCII is no character
    if width = 2 ∧ !flags.unicode ∧ 0x80 ≤ c.toNat then none else return (c, r.trans r')

private def propertySet (flags : Flags) (cs : List Char) : Option (CodeRanges × Within cs) :=
  let r := flags.skip cs
  if !flags.unicode then none
  else
    match flags.next? r.1 with
    | none => none
    | some ('\x7b', r') =>
      let (name, r'') := flags.spanned (· ≠ '\x7d') r'.1
      match r''.uncons? with
      | some (_, rest) => (property? name).map fun s =>
          (s, (r.transShorter (r'.trans rest.within)).within)
      | none => none
    | some (c, r') => (property? [c]).map fun s => (s, (r.transShorter r').within)

private def isBoundaryNameChar (c : Char) : Bool := c.isAlpha || c = '-'

private def boundary? (w : WordSet) (name : List Char) : Option Anchor :=
  match String.ofList name with
  | "start" => some (.wordStart w)
  | "end" => some (.wordEnd w)
  | "start-half" => some (.wordStartHalf w)
  | "end-half" => some (.wordEndHalf w)
  | _ => none

private def boundary (flags : Flags) (cs : List Char) : Option (Anchor × Within cs) :=
  match cs with
  | '\x7b' :: cs =>
    let r := flags.skip cs
    match r.1.head? with
    | none => none
    | some c =>
      if isBoundaryNameChar c then
        let (name, r') := flags.spanned isBoundaryNameChar r.1
        match r'.uncons? with
        | some ('\x7d', rest) => (boundary? flags.wordSet name).map fun a =>
            (a, (r.trans rest.within).behind ['\x7b'])
        | _ => none
      -- braces that hold no name count repetitions
      else some (.wordBoundary flags.wordSet, .whole ('\x7b' :: cs))
  | cs => some (.wordBoundary flags.wordSet, .whole cs)

private def namedChar? : Char → Option Char
  | 'a' => some '\x07'
  | 'f' => some '\x0c'
  | 't' => some '\t'
  | 'n' => some '\n'
  | 'r' => some '\r'
  | 'v' => some '\x0b'
  | _ => none

private def smallSet? (flags : Flags) : Char → Option CodeRanges
  | 'd' => some (if flags.unicode then Category.decimalNumber else .ofHex "30-39")
  | 's' => some (if flags.unicode then Property.whiteSpace else .ofHex "9-D 20")
  | 'w' => some flags.wordSet.members
  | _ => none

private def namedSet? (flags : Flags) (c : Char) : Option CodeRanges := do
  let set ← smallSet? flags c.toLower
  if !c.isUpper then return set
  else if flags.unicode then return set.complement
  else none

private def namedAnchor? (flags : Flags) : Char → Option Anchor
  | 'A' => some .textStart
  | 'z' => some .textEnd
  | 'B' => some (.notWordBoundary flags.wordSet)
  | '<' => some (.wordStart flags.wordSet)
  | '>' => some (.wordEnd flags.wordSet)
  | _ => none

private def isEscapable (c : Char) : Bool := c.toNat < 0x80 && !c.isAlphanum && c ≠ '<' && c ≠ '>'

private def codeWidth? : Char → Option Nat
  | 'x' => some 2
  | 'u' => some 4
  | 'U' => some 8
  | _ => none

private def plainEscape? (flags : Flags) (c : Char) : Option Escape :=
  (namedChar? c).map .literal <|> (namedSet? flags c).map .set
    <|> (namedAnchor? flags c).map .anchor
    <|> if isEscapable c then some (.literal c) else none

/-- What an escape stands for, read after its backslash. -/
def escape (flags : Flags) (cs : List Char) : Option (Escape × Shorter cs) :=
  match cs with
  | [] => none
  | c :: cs =>
    if let some width := codeWidth? c then
      (codePoint flags width cs).map fun (d, r) => (.literal d, r.after c)
    else if c = 'p' ∨ c = 'P' then do
      let (s, r) ← propertySet flags cs
      return (.set (← flags.adjusted? (c == 'P') s), r.after c)
    else if c = 'b' then
      (boundary flags cs).map fun (a, r) => (.anchor a, r.after c)
    else (plainEscape? flags c).map fun e => (e, .tail c cs)

end ConstraintDirectives.PatternText
