import ConstraintDirectives.Text.Property

namespace ConstraintDirectives
open Text

/-- The characters that count as parts of words. -/
inductive WordSet where
  | ascii
  | unicode
  deriving DecidableEq

def asciiWord : CodeRanges := .ofHex "30-39 41-5A 5F 61-7A"

def WordSet.members : WordSet → CodeRanges
  | .ascii => asciiWord
  | .unicode => Property.word

inductive Anchor where
  | textStart
  | textEnd
  | lineStart
  | lineEnd
  /-- Lines end with a carriage return, a line feed, or both together. -/
  | anyLineStart
  | anyLineEnd
  | wordBoundary (w : WordSet)
  | notWordBoundary (w : WordSet)
  | wordStart (w : WordSet)
  | wordEnd (w : WordSet)
  | wordStartHalf (w : WordSet)
  | wordEndHalf (w : WordSet)
  deriving DecidableEq

def isWordAt (w : WordSet) (c : Option Char) : Bool := c.any fun c => w.members.contains c.toNat

/-- Whether an anchor holds between two neighbouring characters; there is none beyond either end. -/
def Anchor.holds (before after : Option Char) : Anchor → Bool
  | .textStart => before.isNone
  | .textEnd => after.isNone
  | .lineStart => before.all (· == '\n')
  | .lineEnd => after.all (· == '\n')
  | .anyLineStart => before.all (· == '\n') || (before == some '\r' && after != some '\n')
  | .anyLineEnd => after.all (· == '\r') || (after == some '\n' && before != some '\r')
  | .wordBoundary w => isWordAt w before != isWordAt w after
  | .notWordBoundary w => isWordAt w before == isWordAt w after
  | .wordStart w => !isWordAt w before && isWordAt w after
  | .wordEnd w => isWordAt w before && !isWordAt w after
  | .wordStartHalf w => !isWordAt w before
  | .wordEndHalf w => !isWordAt w after

end ConstraintDirectives
