/-! Sets of characters as ranges of code points, ascending and apart, so that equal sets are equal
lists. -/
namespace ConstraintDirectives.Text

abbrev CodeRanges := List (Nat × Nat)

namespace CodeRanges

private def hexValue (c : Char) : Nat :=
  if c.isDigit then c.toNat - '0'.toNat else c.toNat - 'A'.toNat + 10

private def readFrom : List Char → (lo : Option Nat) → (hi : Option Nat) → CodeRanges
  -- `hi` is the number being read, `lo` the one before a hyphen
  | [], lo, hi => (hi.map fun n => (lo.getD n, n)).toList
  | c :: cs, lo, hi =>
    if c = '-' then readFrom cs hi none
    else if c = ' ' ∨ c = '\n' then (hi.map fun n => (lo.getD n, n)).toList ++ readFrom cs none none
    else readFrom cs lo (some (hi.getD 0 * 16 + hexValue c))

def ofHex (text : String) : CodeRanges := readFrom text.toList none none

def contains (ranges : CodeRanges) (n : Nat) : Bool := ranges.any fun (lo, hi) => lo ≤ n && n ≤ hi

def single (n : Nat) : CodeRanges := [(n, n)]

private def joined (lo hi : Nat) : CodeRanges → CodeRanges
  | [] => [(lo, hi)]
  | (a, b) :: rest =>
    if a ≤ hi + 1 then joined lo (max hi b) rest else (lo, hi) :: joined a b rest

/-- Any ranges, in order and joined. -/
def ofList (ranges : List (Nat × Nat)) : CodeRanges :=
  match ranges.mergeSort fun r s => r.1 ≤ s.1 with
  | [] => []
  | (lo, hi) :: rest => joined lo hi rest

def union (a b : CodeRanges) : CodeRanges := ofList (a ++ b)

def unions (sets : List CodeRanges) : CodeRanges := ofList sets.flatten

private def gaps (next : Nat) : CodeRanges → CodeRanges
  | [] => if next ≤ 0x10FFFF then [(next, 0x10FFFF)] else []
  | (lo, hi) :: rest =>
    if next < lo then (next, lo - 1) :: gaps (hi + 1) rest else gaps (hi + 1) rest

/-- Surrogates are no characters. -/
def surrogates : CodeRanges := [(0xD800, 0xDFFF)]

def complement (a : CodeRanges) : CodeRanges := gaps 0 (a.union surrogates)

def all : CodeRanges := complement []

def diff (a b : CodeRanges) : CodeRanges := (a.complement.union b).complement

def inter (a b : CodeRanges) : CodeRanges := a.diff b.complement

def symmetricDiff (a b : CodeRanges) : CodeRanges := (a.diff b).union (b.diff a)

def isAscii (a : CodeRanges) : Bool := List.all a (·.2 < 0x80)

end CodeRanges
end ConstraintDirectives.Text
