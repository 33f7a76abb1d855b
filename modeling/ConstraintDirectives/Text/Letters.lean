import ConstraintDirectives.Text.Added
import ConstraintDirectives.Text.Property

/-! Letters, digits and spaces, as of version 17 of Unicode. -/
namespace ConstraintDirectives.Text

namespace Letters

def alphabetic : CodeRanges := .union Property.alphabetic Added.alphabetic

def alphanumeric : CodeRanges := .unions [alphabetic, Category.number, Added.number]

end Letters

def isAlphabetic (c : Char) : Bool := Letters.alphabetic.contains c.toNat

def isAlphanumeric (c : Char) : Bool := Letters.alphanumeric.contains c.toNat

def isSpace (c : Char) : Bool := Property.whiteSpace.contains c.toNat

end ConstraintDirectives.Text
