import ConstraintDirectives.Pattern.Expression
import ConstraintDirectives.Text.CaseFold
import ConstraintDirectives.Text.Letters
import ConstraintDirectives.Text.Reader

namespace ConstraintDirectives.PatternText
open Text

structure Flags where
  ignoreCase : Bool := false
  multiLine : Bool := false
  dotAll : Bool := false
  swapGreed : Bool := false
  anyLineEnd : Bool := false
  verbose : Bool := false
  unicode : Bool := true

namespace Flags

def set? (on : Bool) (flags : Flags) : Char → Option Flags
  | 'i' => some { flags with ignoreCase := on }
  | 'm' => some { flags with multiLine := on }
  | 's' => some { flags with dotAll := on }
  | 'U' => some { flags with swapGreed := on }
  | 'R' => some { flags with anyLineEnd := on }
  | 'x' => some { flags with verbose := on }
  | 'u' => some { flags with unicode := on }
  | _ => none

def wordSet (flags : Flags) : WordSet := if flags.unicode then .unicode else .ascii

/-- A set with its other cases, if case does not matter. -/
def cased (flags : Flags) (set : CodeRanges) : CodeRanges :=
  if !flags.ignoreCase then set
  else if flags.unicode then CaseFold.closure set
  else CaseFold.asciiClosure set

/-- Case is ignored before the complement is taken. Without Unicode the complement would hold bytes
that are no characters. -/
def adjusted? (flags : Flags) (negated : Bool) (set : CodeRanges) : Option CodeRanges :=
  let set := flags.cased set
  if !negated then some set else if flags.unicode then some set.complement else none

def literal (flags : Flags) (c : Char) : Expression := .ofSet (flags.cased (.single c.toNat))

/-- Any character, in a line or in the text. -/
def dot? (flags : Flags) : Option Expression :=
  if !flags.unicode then none
  else if flags.dotAll then some (.oneOf .all)
  else if flags.anyLineEnd then some (.oneOf (.complement [(0x0A, 0x0A), (0x0D, 0x0D)]))
  else some (.oneOf (.complement (.single 0x0A)))

def start (flags : Flags) : Anchor :=
  if !flags.multiLine then .textStart
  else if flags.anyLineEnd then .anyLineStart
  else .lineStart

def stop (flags : Flags) : Anchor :=
  if !flags.multiLine then .textEnd
  else if flags.anyLineEnd then .anyLineEnd
  else .lineEnd

end Flags

/-- Skips spaces, and comments up to the end of their line. -/
def skipSpace (cs : List Char) : Within cs :=
  match cs with
  | [] => .whole []
  | c :: cs =>
    if isSpace c then ((skipSpace cs).after c).within
    else if c = '#' then
      let (_, r) := spanned (· ≠ '\n') cs
      ((r.trans (skipSpace r.1)).after c).within
    else .whole (c :: cs)
termination_by cs.length
decreasing_by
  · exact Nat.lt_succ_self _
  · exact Nat.lt_succ_of_le r.2

/-- What may stand between two tokens. -/
def Flags.skip (flags : Flags) (cs : List Char) : Within cs :=
  if flags.verbose then skipSpace cs else .whole cs

/-- The next character, and what follows it and what may be skipped after it. -/
def Flags.next? (flags : Flags) (cs : List Char) : Option (Char × Shorter cs) :=
  match cs with
  | [] => none
  | c :: cs => some (c, (flags.skip cs).after c)

/-- Characters with a property, each with what may be skipped after it. -/
def Flags.spanned (flags : Flags) (p : Char → Bool) (cs : List Char) : List Char × Within cs :=
  match flags.next? cs with
  | none => ([], .whole cs)
  | some (c, r) =>
    if p c then
      let (found, r') := Flags.spanned flags p r.1
      (c :: found, (r.trans r').within)
    else ([], .whole cs)
termination_by cs.length
decreasing_by exact r.2

/-- Exactly `n` characters, each with what may be skipped after it. -/
def Flags.take? (flags : Flags) : (n : Nat) → (cs : List Char) → Option (List Char × Within cs)
  | 0, cs => some ([], .whole cs)
  | n + 1, cs => do
    let (c, r) ← flags.next? cs
    let (found, r') ← flags.take? n r.1
    return (c :: found, (r.trans r').within)

end ConstraintDirectives.PatternText
