import ConstraintDirectives.Constraint.Declared

namespace ConstraintDirectives

inductive RangeFault where
  | negative
  | zero
  | notFinite
  deriving DecidableEq

def RangeFault.message : RangeFault → String
  | .negative => "can't be less than 0"
  | .zero => "can't be 0"
  | .notFinite => "must be finite"

/-- Whether one text stands somewhere in another. -/
def occursIn (t : List Char) : List Char → Bool
  | [] => t.isEmpty
  | c :: s => t.isPrefixOf (c :: s) || occursIn t s

theorem occursIn_iff {t s : List Char} : occursIn t s = true ↔ t <:+: s := by
  induction s with
  | nil => simp [occursIn]
  | cons c s ih =>
    rw [occursIn, Bool.or_eq_true, ih, List.isPrefixOf_iff_prefix, List.infix_cons_iff]

namespace ConstraintName

def divisorFault? (m : Binary64) : Option RangeFault :=
  if m.equal (.zero false) then some .zero else if m.isFinite then none else some .notFinite

/-- What is wrong with declaring a value for a constraint: counts are not negative, and a divisor is
a finite number other than zero. -/
def rangeFault? (name : ConstraintName) (declared : Declared) : Option RangeFault :=
  match name, declared with
  | .minLength, .int n | .maxLength, .int n | .minItems, .int n | .maxItems, .int n =>
    if n.toInt < 0 then some .negative else none
  | .multipleOf, d => d.number?.bind divisorFault?
  | _, _ => none

def holdsText (name : ConstraintName) (declared : Declared) (s : String) : Bool :=
  match name, declared with
  | .minLength, .int n => n.toInt ≤ s.length
  | .maxLength, .int n => (s.length : Int) ≤ n.toInt
  | .startsWith, .string t => t.toList.isPrefixOf s.toList
  | .endsWith, .string t => t.toList.isSuffixOf s.toList
  | .includes, .string t => occursIn t.toList s.toList
  | .oneOf, .strings options => options.contains s
  | .equals, .string t => s == t
  | .regex, .pattern p => p.isMatch s
  | _, _ => true

/-- An integer leaves no remainder by a whole divisor that is not too large; otherwise the rounded
quotient is to be whole. -/
def isMultiple (value : Value) (x m : Binary64) : Bool :=
  if m.equal (.zero false) then false
  else
    match value, m.whole? with
    | .int i, some k =>
      if k.natAbs ≤ Binary64.consecutiveWhole then i % m.toInt64 == 0
      else (x.div m).whole?.isSome
    | _, _ => (x.div m).whole?.isSome

def compares (x b : Binary64) : ConstraintName → Bool
  | .min => b.le x
  | .max => x.le b
  | .exclusiveMin => b.lt x
  | .exclusiveMax => x.lt b
  | .equals => x.equal b
  | _ => true

def holdsNumber (name : ConstraintName) (declared : Declared) (value : Value)
    (x : Binary64) : Bool :=
  match name, declared with
  | .oneOf, .floats options => options.any (·.equal x)
  | .multipleOf, d => d.number?.all (isMultiple value x)
  | name, d => d.number?.all fun b => compares x b name

def holdsItems (name : ConstraintName) (declared : Declared) (items : List Value) : Bool :=
  match name, declared with
  | .minItems, .int n => n.toInt ≤ items.length
  | .maxItems, .int n => (items.length : Int) ≤ n.toInt
  | .uniqueItems, .boolean true => (Value.firstRepeat? items).isNone
  | _, _ => true

/-- Whether a value satisfies a constraint. One that does not apply to the kind of the value holds;
telling kinds apart is the validator's work. -/
def holds (name : ConstraintName) (declared : Declared) (value : Value) : Bool :=
  match value with
  | .string s => holdsText name declared s
  | .int i => holdsNumber name declared value (.ofInt i.toInt)
  | .float x => holdsNumber name declared value x
  | .list items => holdsItems name declared items
  | .null | .boolean _ | .record _ => true

theorem holds_of_number? {name : ConstraintName} {declared : Declared} {value : Value}
    {x : Binary64} (h : value.number? = some x) :
    name.holds declared value = holdsNumber name declared value x := by
  cases value with
  | int | float =>
    cases h
    rfl
  | null | boolean | string | list | record => cases h

end ConstraintName
end ConstraintDirectives
