import ConstraintDirectives.Pattern.Expression

/-! Unanchored search by the set of positions that it can be at, whatever the number of ways to match.
-/
namespace ConstraintDirectives.Expression
open Text

/-- Positions in a text: those whose bits are set. -/
abbrev Positions := Nat

/-- The positions below `n` that satisfy a condition. -/
def positionsWhere (p : Nat → Bool) : Nat → Positions
  | 0 => 0
  | n + 1 => if p n then positionsWhere p n ||| 1 <<< n else positionsWhere p n

def upTo (n : Nat) : Positions := 1 <<< (n + 1) - 1

/-- The positions in front of a character of a set. -/
def before (text : Array Char) (set : CodeRanges) : Positions :=
  positionsWhere (fun i => text[i]?.any fun c => set.contains c.toNat) text.size

def charBefore? (text : Array Char) (i : Nat) : Option Char :=
  if i = 0 then none else text[i - 1]?

/-- Applies a step exactly `n` times, or until nothing changes any more. -/
def iterate (step : Positions → Positions) : Nat → Positions → Positions
  | 0, places => places
  | n + 1, places =>
    let next := step places
    if next = places then places else iterate step n next

/-- Everything reached by at most `n` steps; each round goes on from what the last one added. -/
def grow (step : Positions → Positions) : Nat → (reached fresh : Positions) → Positions
  | 0, reached, _ => reached
  | n + 1, reached, fresh =>
    let next := step fresh
    let new := next ^^^ (next &&& reached)
    if new = 0 then reached else grow step n (reached ||| new) new

/-- From the positions where a match can start to those where it can end. What it needs to know
about the text is found out once. -/
structure Step where
  run : Positions → Positions

mutual
def step (text : Array Char) : Expression → Step
  | .empty => ⟨id⟩
  | .literal cs =>
    let places := cs.eraseDups.map fun c => (c, before text (.single c.toNat))
    ⟨fun starts => cs.foldl (fun ends c => (ends &&& (places.lookup c).getD 0) <<< 1) starts⟩
  | .oneOf set =>
    let places := before text set
    ⟨fun starts => (starts &&& places) <<< 1⟩
  | .anchor a =>
    let places := positionsWhere (fun i => a.holds (charBefore? text i) text[i]?) (text.size + 1)
    ⟨fun starts => starts &&& places⟩
  | .repeated r least most _ =>
    let body := step text r
    let rounds := match most with
      | some n => n - least
      | none => text.size + 1
    ⟨fun starts =>
      let reached := iterate body.run least starts
      grow body.run rounds reached reached⟩
  | .group r => step text r
  | .sequence rs => stepThrough text rs
  | .alternatives rs => stepEither text rs

def stepThrough (text : Array Char) : List Expression → Step
  | [] => ⟨id⟩
  | r :: rs =>
    let first := step text r
    let rest := stepThrough text rs
    ⟨fun starts => rest.run (first.run starts)⟩

def stepEither (text : Array Char) : List Expression → Step
  | [] => ⟨fun _ => 0⟩
  | r :: rs =>
    let first := step text r
    let rest := stepEither text rs
    ⟨fun starts => first.run starts ||| rest.run starts⟩
end

/-- Whether the expression matches somewhere in a text. -/
def search (r : Expression) (text : String) : Bool :=
  let chars := text.toList.toArray
  (step chars r).run (upTo chars.size) != 0

end ConstraintDirectives.Expression
