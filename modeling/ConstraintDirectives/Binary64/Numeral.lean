import ConstraintDirectives.Binary64.Basic
import ConstraintDirectives.Text.Reader

namespace ConstraintDirectives

/-- A written number: digits before and after the point, and a power of ten. -/
structure Numeral where
  negative : Bool
  whole : List Char
  fraction : List Char
  exponent : Int

def Numeral.toBinary64 (n : Numeral) : Binary64 :=
  .ofDecimal n.negative (Text.digitsValue (n.whole ++ n.fraction)) (n.exponent - n.fraction.length)

namespace Binary64

def signOf : List Char → Bool × List Char
  | '-' :: cs => (true, cs)
  | '+' :: cs => (false, cs)
  | cs => (false, cs)

def exponentOf? : List Char → Option Int
  | [] => some 0
  | c :: cs =>
    let (negative, digits) := signOf cs
    if c.toLower = 'e' ∧ digits ≠ [] ∧ digits.all Char.isDigit then
      some (signed negative (Text.digitsValue digits))
    else none

def fractionOf : List Char → List Char × List Char
  | '.' :: cs => cs.span Char.isDigit
  | cs => ([], cs)

/-- A number as free text: an optional sign, then a name of infinity, a NaN, or digits with at most
one point among them and an optional exponent. -/
def parse? (text : String) : Option Binary64 :=
  let (negative, body) := signOf text.toList
  let name := body.map Char.toLower
  if name = "inf".toList ∨ name = "infinity".toList then some (.infinite negative)
  else if name = "nan".toList then some .nan
  else
    let (whole, rest) := body.span Char.isDigit
    let (fraction, rest) := fractionOf rest
    if whole = [] ∧ fraction = [] then none
    else (exponentOf? rest).map fun e => Numeral.toBinary64 ⟨negative, whole, fraction, e⟩

end Binary64
end ConstraintDirectives
