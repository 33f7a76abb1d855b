import ConstraintDirectives.Binary64.Numeral
import ConstraintDirectives.Json.Basic

/-! What a number in a JSON text stands for. Digits and scale are rounded one after the other, so the
result may be off. -/
namespace ConstraintDirectives.Json

/-- Appends digits to a significand as long as 64 bits hold it, and counts those left over. -/
def appendDigits (n : Nat) : List Char → Nat × Nat
  | [] => (n, 0)
  | c :: cs =>
    let m := 10 * n + (c.toNat - '0'.toNat)
    if m < UInt64.size then appendDigits m cs else (n, cs.length + 1)

/-- The greatest exponent of a power of ten that is finite. -/
def greatestPower : Nat := 308

def powerOfTen (k : Nat) : Binary64 := .ofDecimal false 1 k

/-- A number scaled by a power of ten, unless it becomes too large. -/
def scaled? (x : Binary64) (exponent : Int) : Option Binary64 :=
  if x.equal (.zero false) then some x
  else if greatestPower < exponent then none
  else if 0 ≤ exponent then
    let y := x.mul (powerOfTen exponent.toNat)
    if y.isFinite then some y else none
  else if -greatestPower ≤ exponent then some (x.div (powerOfTen (-exponent).toNat))
  else scaled? (x.div (powerOfTen greatestPower)) (exponent + greatestPower)
termination_by (-exponent).toNat
decreasing_by simp only [greatestPower] at *; omega

/-- Digits alone make an integer, if 64 bits hold it; minus zero and all else are real. A number
that is too large stands for nothing. -/
def ofNumeral (n : Numeral) (isWhole : Bool) : Json :=
  let (whole, dropped) := appendDigits 0 n.whole
  let (significand, unread) := appendDigits whole n.fraction
  let i := signed n.negative significand
  if isWhole ∧ dropped = 0 ∧ Int64.minValue.toInt ≤ i ∧ ¬(n.negative ∧ i = 0) then .integer i
  else
    let exponent := n.exponent + dropped - (n.fraction.length - unread : Nat)
    match scaled? (.ofDecimal n.negative significand 0) exponent with
    | some x => .real x
    | none => .unreadable

end ConstraintDirectives.Json
