/-! Exact 64-bit binary floating point. A finite magnitude is a whole number of units of `2^-1074`. -/
namespace ConstraintDirectives

/-- Counts of units with at most 53 significant bits, below the overflow threshold. -/
def Representable (units : Nat) : Prop :=
  units < 1 <<< 2098 ∧ 1 <<< (units.log2 - 52) ∣ units

instance : DecidablePred Representable := fun _ => inferInstanceAs (Decidable (_ ∧ _))

inductive Binary64 where
  | nan
  | infinite (negative : Bool)
  | finite (negative : Bool) (units : Nat) (representable : Representable units)
  deriving DecidableEq

/-- The whole number nearest to `p / q`; a half goes to the even neighbour. -/
def roundHalfEven (p q : Nat) : Nat :=
  let below := p / q
  let twice := 2 * (p % q)
  if twice < q then below else if q < twice then below + 1 else below + below % 2

def signed (negative : Bool) (n : Nat) : Int := if negative then -n else n

namespace Binary64

def unitsPerOne : Nat := 1 <<< 1074

/-- Every whole number up to this one is a magnitude. -/
def consecutiveWhole : Nat := 1 <<< 53

/-- A count of units that is no magnitude has outgrown the largest one. -/
def ofUnits (negative : Bool) (units : Nat) : Binary64 :=
  if h : Representable units then .finite negative units h else .infinite negative

/-- The magnitude nearest to `p / q` units, ties to the even significand. -/
def ofRatio (negative : Bool) (p q : Nat) : Binary64 :=
  let spare := (p / q).log2 - 52
  ofUnits negative (roundHalfEven p (q <<< spare) <<< spare)

def zero (negative : Bool) : Binary64 := .finite negative 0 (by decide +kernel)

def ofInt (i : Int) : Binary64 := ofRatio (decide (i < 0)) (i.natAbs * unitsPerOne) 1

instance : Inhabited Binary64 := ⟨zero false⟩

/-- Position on the number line in units. Each infinity lies beyond every finite value, and a NaN
has no position. -/
def rank? : Binary64 → Option Int
  | .nan => none
  | .infinite negative => some (signed negative (1 <<< 2098))
  | .finite negative units _ => some (signed negative units)

def related (r : Int → Int → Bool) (x y : Binary64) : Bool :=
  match x.rank?, y.rank? with
  | some a, some b => r a b
  | _, _ => false

/-- Numeric equality: the zeros are equal, a NaN equals nothing. -/
def equal (x y : Binary64) : Bool := related (fun a b => decide (a = b)) x y
def le (x y : Binary64) : Bool := related (fun a b => decide (a ≤ b)) x y
def lt (x y : Binary64) : Bool := related (fun a b => decide (a < b)) x y

def isFinite : Binary64 → Bool
  | .finite .. => true
  | _ => false

/-- The integer that a number without a fractional part is. -/
def whole? : Binary64 → Option Int
  | .finite negative units _ =>
    if units % unitsPerOne = 0 then some (signed negative (units / unitsPerOne)) else none
  | _ => none

/-- The number without its fractional part as a machine integer, or the end of the range on its side.
A NaN becomes zero. -/
def toInt64 : Binary64 → Int64
  | .nan => 0
  | .infinite negative => if negative then Int64.minValue else Int64.maxValue
  | .finite negative units _ => .ofIntClamp (signed negative (units / unitsPerOne))

def mul : Binary64 → Binary64 → Binary64
  | .nan, _ | _, .nan => .nan
  | .infinite a, .infinite b => .infinite (a != b)
  | .infinite a, .finite b q _ => if q = 0 then .nan else .infinite (a != b)
  | .finite a p _, .infinite b => if p = 0 then .nan else .infinite (a != b)
  | .finite a p _, .finite b q _ => ofRatio (a != b) (p * q) unitsPerOne

def div : Binary64 → Binary64 → Binary64
  | .nan, _ | _, .nan | .infinite _, .infinite _ => .nan
  | .infinite a, .finite b _ _ => .infinite (a != b)
  | .finite a _ _, .infinite b => zero (a != b)
  | .finite a p _, .finite b q _ =>
    if q = 0 then (if p = 0 then .nan else .infinite (a != b))
    else ofRatio (a != b) (p * unitsPerOne) q

/-- The number nearest to `digits * 10 ^ exponent`. Beyond the guards every such number overflows,
or is too small for a unit. -/
def ofDecimal (negative : Bool) (digits : Nat) (exponent : Int) : Binary64 :=
  if digits = 0 ∨ exponent < -(331 + (digits.log2 : Int)) then zero negative
  else if 309 < exponent then .infinite negative
  else
    ofRatio negative (digits * Nat.pow 10 exponent.toNat * unitsPerOne)
      (Nat.pow 10 (-exponent).toNat)

end Binary64
end ConstraintDirectives
