import ConstraintDirectives.Text.Added
import ConstraintDirectives.Text.Property

/-! Which characters stand for themselves in quoted text, as of version 17 of Unicode. -/
namespace ConstraintDirectives.Text

namespace Printable

/-- Controls, formats, separators other than the space, private use and unassigned code points. -/
def invisible : CodeRanges :=
  .diff (.union Category.other Category.separator) (.union (.single ' '.toNat) Added.all)

/-- Letters that show nothing. -/
def fillers : CodeRanges := .inter Category.letter Property.defaultIgnorableCodePoint

/-- Marks that belong to the character before them. The halfwidth sound marks are letters and stand
on their own. -/
def combining : CodeRanges :=
  .diff (.union Property.graphemeExtend Added.graphemeExtend) Category.modifierLetter

def escaped : CodeRanges := .unions [invisible, fillers, combining]

end Printable

def isPlain (c : Char) : Bool := !Printable.escaped.contains c.toNat

end ConstraintDirectives.Text
