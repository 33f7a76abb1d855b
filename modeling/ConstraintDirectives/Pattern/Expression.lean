import ConstraintDirectives.Pattern.Anchor

/-! Regular expressions in a simplified form, where sequences and alternatives are flat and literals
next to each other are one. -/
namespace ConstraintDirectives
open Text

inductive Expression where
  | empty
  /-- One character after the other, at least one. -/
  | literal (chars : List Char)
  | oneOf (set : CodeRanges)
  | anchor (a : Anchor)
  /-- At least `least` and at most `most` times, without bound if there is no `most`. -/
  | repeated (body : Expression) (least : Nat) (most : Option Nat) (greedy : Bool)
  /-- A group that can be referred to from outside. -/
  | group (body : Expression)
  | sequence (parts : List Expression)
  | alternatives (branches : List Expression)
  deriving Inhabited

namespace Expression

mutual
/-- Equal form. No two groups are the same. -/
def same : Expression → Expression → Bool
  | .empty, .empty => true
  | .literal cs, .literal ds => cs == ds
  | .oneOf s, .oneOf t => s == t
  | .anchor a, .anchor b => a == b
  | .repeated r least most greedy, .repeated r' least' most' greedy' =>
    least == least' && most == most' && greedy == greedy' && same r r'
  | .sequence rs, .sequence ss => sameAll rs ss
  | .alternatives rs, .alternatives ss => sameAll rs ss
  | _, _ => false

def sameAll : List Expression → List Expression → Bool
  | [], [] => true
  | r :: rs, s :: ss => same r s && sameAll rs ss
  | _, _ => false
end

mutual
/-- Whether every match is empty. -/
def isAlwaysEmpty : Expression → Bool
  | .empty | .anchor _ => true
  | .literal _ | .oneOf _ => false
  | .repeated r _ most _ => most.isSome && isAlwaysEmpty r
  | .group r => isAlwaysEmpty r
  | .sequence rs => allAlwaysEmpty rs
  | .alternatives rs => allAlwaysEmpty rs

def allAlwaysEmpty : List Expression → Bool
  | [] => true
  | r :: rs => isAlwaysEmpty r && allAlwaysEmpty rs
end

mutual
/-- The length of the shortest match. An empty set has none, and whatever contains one is taken to
have none either. -/
def shortest? : Expression → Option Nat
  | .empty | .anchor _ => some 0
  | .literal cs => some cs.length
  | .oneOf set => if set.isEmpty then none else some 1
  | .repeated r least _ _ => (shortest? r).map (least * ·)
  | .group r => shortest? r
  | .sequence rs => shortestSum? rs
  | .alternatives rs => shortestMin? rs

def shortestSum? : List Expression → Option Nat
  | [] => some 0
  | r :: rs => do return (← shortest? r) + (← shortestSum? rs)

def shortestMin? : List Expression → Option Nat
  | [] => none
  | [r] => shortest? r
  | r :: rs => do return min (← shortest? r) (← shortestMin? rs)
end

mutual
/-- Whether every match begins at the start of the text, as the front of the expression shows. -/
def isStartAnchored : Expression → Bool
  | .anchor a => a == .textStart
  | .empty | .literal _ | .oneOf _ => false
  | .repeated r least _ _ => 0 < least && isStartAnchored r
  | .group r => isStartAnchored r
  | .sequence rs => frontIsStartAnchored rs
  | .alternatives rs => allStartAnchored rs

/-- The front of a sequence goes up to the first part that can match more than nothing. -/
def frontIsStartAnchored : List Expression → Bool
  | [] => false
  | r :: rs => isStartAnchored r || (isAlwaysEmpty r && frontIsStartAnchored rs)

def allStartAnchored : List Expression → Bool
  | [] => true
  | r :: rs => isStartAnchored r && allStartAnchored rs
end

mutual
/-- Whether every match stops at the end of the text, as the back of the expression shows. -/
def isEndAnchored : Expression → Bool
  | .anchor a => a == .textEnd
  | .empty | .literal _ | .oneOf _ => false
  | .repeated r least _ _ => 0 < least && isEndAnchored r
  | .group r => isEndAnchored r
  | .sequence rs => backIsEndAnchored rs
  | .alternatives rs => allEndAnchored rs

/-- The back of a sequence starts with the last part that can match more than nothing. -/
def backIsEndAnchored : List Expression → Bool
  | [] => false
  | r :: rs => backIsEndAnchored rs || (allAlwaysEmpty rs && isEndAnchored r)

def allEndAnchored : List Expression → Bool
  | [] => true
  | r :: rs => isEndAnchored r && allEndAnchored rs
end

/-- A set of one character is a literal. -/
def ofSet : CodeRanges → Expression
  | [(lo, hi)] => if lo = hi then .literal [.ofNat lo] else .oneOf [(lo, hi)]
  | set => .oneOf set

private def parts : Expression → List Expression
  | .sequence rs => rs
  | .empty => []
  | r => [r]

private def joinLiterals : List Expression → List Expression
  | [] => []
  | .literal cs :: rs =>
    match joinLiterals rs with
    | .literal ds :: ss => .literal (cs ++ ds) :: ss
    | ss => .literal cs :: ss
  | r :: rs => r :: joinLiterals rs

def inSequence (rs : List Expression) : Expression :=
  match joinLiterals (rs.flatMap parts) with
  | [] => .empty
  | [r] => r
  | rs => .sequence rs

/-- Repetition of what is always empty needs no more than one round. -/
def repetition (r : Expression) (least : Nat) (most : Option Nat) (greedy : Bool) : Expression :=
  let (least, most) :=
    if r.isAlwaysEmpty then (min least 1, some (min 1 (most.getD 1))) else (least, most)
  match least, most with
  | 0, some 0 => .empty
  | 1, some 1 => r
  | least, most => .repeated r least most greedy

private def branches : Expression → List Expression
  | .alternatives rs => rs
  | r => [r]

private def char? : Expression → Option CodeRanges
  | .literal [c] => some (.single c.toNat)
  | _ => none

private def set? : Expression → Option CodeRanges
  | .oneOf set => some set
  | _ => none

private def commonFront : List Expression → List Expression → List Expression
  | r :: rs, s :: ss => if same r s then r :: commonFront rs ss else []
  | _, _ => []

private def sequence? : Expression → Option (List Expression)
  | .sequence rs => some rs
  | _ => none

private def shared? (rs : List Expression) : Option (List Expression × List (List Expression)) := do
  let first :: rest ← rs.mapM sequence? | none
  let front := rest.foldl commonFront first
  if front.isEmpty then none
  else return (front, (first :: rest).map (·.drop front.length))

private def alternation : (rounds : Nat) → List Expression → Expression
  | rounds, rs =>
    match rs.flatMap branches with
    | [] => .oneOf []
    | [r] => r
    | rs =>
      match rs.mapM char? <|> rs.mapM set?, rounds, shared? rs with
      | some sets, _, _ => ofSet (.unions sets)
      | none, rounds + 1, some (front, backs) =>
        inSequence (front ++ [alternation rounds (backs.map inSequence)])
      | none, _, _ => .alternatives rs

mutual
/-- How many expressions are in an expression. -/
def size : Expression → Nat
  | .empty | .literal _ | .oneOf _ | .anchor _ => 1
  | .repeated r _ _ _ | .group r => size r + 1
  | .sequence rs => sizes rs + 1
  | .alternatives rs => sizes rs + 1

def sizes : List Expression → Nat
  | [] => 0
  | r :: rs => size r + sizes rs
end

/-- One of several. Each shared front is a part of the first branch. -/
def inAlternation (rs : List Expression) : Expression := alternation (sizes rs) rs

end Expression
end ConstraintDirectives
