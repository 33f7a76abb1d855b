import ConstraintDirectives.Pattern.Automaton
import ConstraintDirectives.Pattern.Class

/-! Reading regular expressions, one token at a time with the open groups on a stack. -/
namespace ConstraintDirectives.PatternText
open Text

private def flagLetters (on : Bool) (seen : List Char) (flags : Flags) (cs : List Char) :
    Option (Flags × Within cs) :=
  match cs with
  | [] => none
  | c :: cs =>
    if c = ':' ∨ c = ')' then
      if seen.head? = some '-' then none else some (flags, .whole (c :: cs))
    else if seen.contains c then none
    else if c = '-' then
      (flagLetters false (c :: seen) flags cs).map fun (f, r) => (f, r.behind [c])
    else
      match flags.set? on c with
      | none => none
      | some flags =>
        (flagLetters on (c :: seen) flags cs).map fun (f, r) => (f, r.behind [c])

inductive GroupStart where
  | unnamed
  | named (name : String)
  /-- A group under flags of its own, which cannot be referred to. -/
  | scoped (flags : Flags)
  /-- Flags for the rest of the group around them. -/
  | switch (flags : Flags)

private def isNameStart (c : Char) : Bool := c = '_' || isAlphabetic c

private def isNameChar (c : Char) : Bool :=
  c = '_' || c = '.' || c = '[' || c = ']' || isAlphanumeric c

private def isName : List Char → Bool
  | [] => false
  | c :: cs => isNameStart c && cs.all isNameChar

private def groupName (cs : List Char) : Option (GroupStart × Within cs) :=
  let (name, r) := spanned (· ≠ '>') cs
  match r.uncons? with
  | some (_, r) => if isName name then some (.named (String.ofList name), r.within) else none
  | none => none

private def groupStart (flags : Flags) (cs : List Char) : Option (GroupStart × Within cs) :=
  match cs with
  | '?' :: 'P' :: '<' :: cs =>
    (groupName cs).map fun (g, r) => (g, r.behind ['?', 'P', '<'])
  | '?' :: '<' :: cs =>
    -- there is no look-around
    if cs.head? = some '=' ∨ cs.head? = some '!' then none
    else (groupName cs).map fun (g, r) => (g, r.behind ['?', '<'])
  | '?' :: cs =>
    match flagLetters true [] flags cs with
    | none => none
    | some (flags, r) =>
      match r.uncons? with
      | some (':', r) => some (.scoped flags, r.within.behind ['?'])
      | some (')', r) =>
        if cs.head? = some ')' then none else some (.switch flags, r.within.behind ['?'])
      | _ => none
  | cs => some (.unnamed, .whole cs)

private def lazyMark {cs : List Char} (r : Within cs) : Bool × Within cs :=
  match r.uncons? with
  | some ('?', rest) => (true, rest.within)
  | _ => (false, r)

private def count (flags : Flags) (cs : List Char) : Option (Nat × Within cs) :=
  let (_, r) := spanned isSpace cs
  let (digits, r') := flags.spanned Char.isDigit r.1
  let (_, r'') := spanned isSpace r'.1
  let n := digitsValue digits
  if digits = [] ∨ UInt32.size ≤ n then none else some (n, r.trans (r'.trans r''))

private def counts (flags : Flags) (cs : List Char) : Option ((Nat × Option Nat) × Within cs) := do
  let start := flags.skip cs
  let (least, r) ← count flags start.1
  let r := start.trans r
  match r.uncons? with
  | some ('\x7d', r') => return ((least, some least), (r'.trans (flags.skip r'.1)).within)
  | some (',', r') =>
    let r' := r'.trans (flags.skip r'.1)
    match r'.within.uncons? with
    | some ('\x7d', r'') => return ((least, none), (r''.trans (flags.skip r''.1)).within)
    | _ =>
      let (most, r'') ← count flags r'.1
      let rest ← afterWord? ['\x7d'] r''.1
      if least ≤ most then
        return ((least, some most), (r'.trans (r''.trans (rest.trans (flags.skip rest.1)))).within)
      else none
  | _ => none

inductive Item where
  | piece (e : Nested Expression)
  /-- A change of flags, which matches nothing and cannot be repeated. -/
  | switch

private def Item.nested : Item → Nested Expression
  | .piece e => e
  | .switch => ⟨.empty, 0⟩

/-- An open group: its finished branches and the items of the current one, latest first. -/
structure Level where
  branches : List (Nested Expression) := []
  items : List Item := []

namespace Level

private def push (level : Level) (e : Nested Expression) : Level :=
  { level with items := .piece e :: level.items }

private def branch (level : Level) : Nested Expression :=
  let items := level.items.reverse.map (·.nested)
  ⟨.inSequence (items.map (·.value)), Nested.depthOfAll items⟩

private def endBranch (level : Level) : Level := ⟨level.branch :: level.branches, []⟩

private def close (level : Level) : Nested Expression :=
  match level.branches with
  | [] => level.branch
  | earlier =>
    let branches := (level.branch :: earlier).reverse
    ⟨.inAlternation (branches.map (·.value)), Nested.depthOfAll branches⟩

end Level

/-- What waits while a group is open: all around it, and the flags that come back into force when it
closes. -/
structure Enclosing where
  level : Level
  flags : Flags
  /-- Whether the group can be referred to. -/
  isReferable : Bool

/-- The state between two tokens. -/
structure Progress where
  level : Level := {}
  outer : List Enclosing := []
  flags : Flags := {}
  names : List String := []

namespace Progress

private def push? (p : Progress) (e : Nested Expression) : Option Progress :=
  if e.depth ≤ Nested.limit then some { p with level := p.level.push e } else none

private def pushFlat? (p : Progress) (e : Expression) : Option Progress := p.push? ⟨e, 0⟩

private def escapeExpression (flags : Flags) : Escape → Expression
  | .literal c => flags.literal c
  | .set s => .ofSet s
  | .anchor a => .anchor a

private def repeatLast? (p : Progress) (least : Nat) (most : Option Nat) (isLazy : Bool) :
    Option Progress :=
  match p.level.items with
  | .piece e :: items =>
    let repeated := e.value.repetition least most (isLazy == p.flags.swapGreed)
    { p with level := { p.level with items } }.push? (.within repeated e)
  | _ => none

private def openGroup (p : Progress) (isReferable : Bool) (flags : Flags) : Progress :=
  { p with level := {}, outer := ⟨p.level, p.flags, isReferable⟩ :: p.outer, flags }

private def startGroup? (p : Progress) : GroupStart → Option Progress
  | .unnamed => some (p.openGroup true p.flags)
  | .named name =>
    if p.names.contains name then none
    else some { p.openGroup true p.flags with names := name :: p.names }
  | .scoped flags => some (p.openGroup false flags)
  | .switch flags =>
    some { p with level := { p.level with items := .switch :: p.level.items }, flags }

private def closeGroup? (p : Progress) : Option Progress :=
  match p.outer with
  | [] => none
  | ⟨level, flags, isReferable⟩ :: outer =>
    let inside := p.level.close
    let group := if isReferable then .group inside.value else inside.value
    { p with level, outer, flags }.push? (.within group inside)

private def plain? (p : Progress) : Char → Option Progress
  | ')' => p.closeGroup?
  | '|' => some { p with level := p.level.endBranch }
  | '.' => p.flags.dot?.bind p.pushFlat?
  | '^' => p.pushFlat? (.anchor p.flags.start)
  | '$' => p.pushFlat? (.anchor p.flags.stop)
  | c => p.pushFlat? (p.flags.literal c)

private def bounds? : Char → Option (Nat × Option Nat)
  | '?' => some (0, some 1)
  | '*' => some (0, none)
  | '+' => some (1, none)
  | _ => none

private def step (p : Progress) (cs : List Char) : Option (Progress × Shorter cs) :=
  match cs with
  | [] => none
  | c :: cs =>
    if c = '(' then do
      let start := p.flags.skip cs
      let (g, r) ← groupStart p.flags start.1
      return (← p.startGroup? g, (start.trans r).after c)
    else if c = '[' then do
      let (s, r) ← charClass p.flags cs
      return (← p.push? ⟨.ofSet s.value, s.depth⟩, r.after c)
    else if c = '\\' then do
      let (e, r) ← escape p.flags cs
      return (← p.pushFlat? (escapeExpression p.flags e), r.after c)
    else if c = '\x7b' then do
      let ((least, most), r) ← counts p.flags cs
      let (isLazy, r) := lazyMark r
      return (← p.repeatLast? least most isLazy, r.after c)
    else if let some (least, most) := bounds? c then do
      let (isLazy, r) := lazyMark (.whole cs)
      return (← p.repeatLast? least most isLazy, r.after c)
    else do return (← p.plain? c, .tail c cs)

private def finish? (p : Progress) : Option (Nested Expression) :=
  if p.outer.isEmpty then some p.level.close else none

private def run (p : Progress) (cs : List Char) : Option (Nested Expression) :=
  let start := p.flags.skip cs
  if start.1.isEmpty then p.finish?
  else
    match p.step start.1 with
    | none => none
    | some (p, rest) => run p rest.1
termination_by cs.length
decreasing_by exact (start.transShorter rest).2

end Progress

/-- The expression that a text denotes, if the text is well formed and neither nests too deeply nor
needs automata that are too large. -/
def expression? (text : String) : Option Expression := do
  let e ← Progress.run {} text.toList
  if e.depth ≤ Nested.limit ∧ Automaton.fits e.value then return e.value else none

end ConstraintDirectives.PatternText
