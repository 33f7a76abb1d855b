import ConstraintDirectives.Binary64.Basic

/-! The fewest decimal digits that read back as a given number, and their layout as text. -/
namespace ConstraintDirectives

/-- The number `digits * 10 ^ exponent`. -/
structure Decimal where
  digits : Nat
  exponent : Int
  deriving DecidableEq

namespace Decimal

/-- The same number without trailing zeros in its digits. -/
def trim (d : Decimal) : Decimal :=
  if h : d.digits ≠ 0 ∧ d.digits % 10 = 0 then
    trim ⟨d.digits / 10, d.exponent + 1⟩
  else d
termination_by d.digits
decreasing_by omega

end Decimal

/-- Which of two equally near decimals is taken. -/
inductive TieRule where
  | up
  | toEven
  deriving DecidableEq

namespace Binary64

/-- Decimal exponent of the leading digit of a positive count of units. -/
def leadingExponent (units : Nat) : Int :=
  ((units * Nat.pow 10 340 / unitsPerOne).repr.length : Int) - 341

def readsBack (units : Nat) (d : Decimal) : Bool :=
  ofDecimal false d.digits d.exponent == ofUnits false units

/-- The neighbours of a magnitude among the multiples of `10 ^ exponent`: of those that read back as
it, the nearer one. -/
def neighbour? (tie : TieRule) (units : Nat) (exponent : Int) : Option Decimal :=
  let p := units * Nat.pow 10 (-exponent).toNat
  let q := unitsPerOne * Nat.pow 10 exponent.toNat
  let below : Decimal := ⟨p / q, exponent⟩
  let above : Decimal := ⟨p / q + 1, exponent⟩
  let twice := 2 * (p % q)
  let upward := q < twice || (q == twice && (tie == .up || below.digits % 2 == 1))
  match readsBack units below, readsBack units above with
  | true, true => some (if upward then above else below)
  | true, false => some below
  | false, true => some above
  | false, false => none

/-- The first grid with a neighbour that reads back. Every magnitude is itself a decimal, taken
should seventeen digits not do. -/
def shortest (tie : TieRule) (units : Nat) : Decimal :=
  let exponent := leadingExponent units
  let found := (List.range 17).findSome? fun (n : Nat) => neighbour? tie units (exponent - n)
  (found.getD ⟨units * Nat.pow 5 1074, -1074⟩).trim

end Binary64

/-- Decisions of a text format for numbers. -/
structure NumberLayout where
  /-- Exponents of the leading digit that are written without an exponent mark. -/
  positional : Int → Bool
  /-- What ends a whole number written without an exponent mark. -/
  wholeEnding : String
  tie : TieRule

namespace NumberLayout

def zeros (n : Nat) : String := String.ofList (List.replicate n '0')

def positionalText (layout : NumberLayout) (d : Decimal) : String :=
  let digits := d.digits.repr
  if 0 ≤ d.exponent then
    digits ++ zeros d.exponent.toNat ++ layout.wholeEnding
  else
    let places := (-d.exponent).toNat
    let padded := zeros (places + 1 - digits.length) ++ digits
    let whole := padded.length - places
    String.ofList (padded.toList.take whole) ++ "." ++ String.ofList (padded.toList.drop whole)

def scientificText (d : Decimal) (exponent : Int) : String :=
  let digits := d.digits.repr.toList
  let fraction := if digits.length ≤ 1 then "" else "." ++ String.ofList digits.tail
  let sign := if exponent < 0 then "" else "+"
  String.ofList (digits.take 1) ++ fraction ++ "e" ++ sign ++ toString exponent

def magnitudeText (layout : NumberLayout) (units : Nat) : String :=
  let d := if units = 0 then ⟨0, 0⟩ else Binary64.shortest layout.tie units
  let exponent := d.exponent + d.digits.repr.length - 1
  if layout.positional exponent then positionalText layout d else scientificText d exponent

def text (layout : NumberLayout) : Binary64 → String
  | .nan => "NaN"
  | .infinite negative => if negative then "-inf" else "inf"
  | .finite negative units _ =>
    (if negative then "-" else "") ++ layout.magnitudeText units

/-- Numbers in messages never carry an exponent mark. -/
def message : NumberLayout := ⟨fun _ => true, "", .up⟩

/-- Numbers in JSON always show that they are not integers. -/
def json : NumberLayout := ⟨fun e => decide (-5 ≤ e ∧ e ≤ 15), ".0", .toEven⟩

end NumberLayout
end ConstraintDirectives
