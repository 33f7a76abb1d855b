/-! Readers take a text from the front and leave a shorter one, so whatever repeats them ends. -/
namespace ConstraintDirectives.Text

abbrev Shorter (cs : List Char) := { rest : List Char // rest.length < cs.length }

/-- What is left is no longer than what was given. -/
abbrev Within (cs : List Char) := { rest : List Char // rest.length ≤ cs.length }

abbrev Reader (α : Type) := (cs : List Char) → Option (α × Shorter cs)

namespace Within

def whole (cs : List Char) : Within cs := ⟨cs, Nat.le_refl _⟩

variable {cs : List Char}

/-- The same rest, seen from a character earlier. -/
def after (c : Char) (r : Within cs) : Shorter (c :: cs) := ⟨r.1, Nat.lt_succ_of_le r.2⟩

/-- The same rest, seen from before `front`. -/
def behind (front : List Char) (r : Within cs) : Within (front ++ cs) :=
  ⟨r.1, Nat.le_trans r.2 (List.suffix_append front cs).length_le⟩

def trans (r : Within cs) (s : Within r.1) : Within cs := ⟨s.1, Nat.le_trans s.2 r.2⟩

def transShorter (r : Within cs) (s : Shorter r.1) : Shorter cs := ⟨s.1, Nat.lt_of_lt_of_le s.2 r.2⟩

/-- The next character and what follows it. -/
def uncons? : Within cs → Option (Char × Shorter cs)
  | ⟨[], _⟩ => none
  | ⟨c :: rest, h⟩ => some (c, ⟨rest, h⟩)

end Within

namespace Shorter

def tail (c : Char) (cs : List Char) : Shorter (c :: cs) := (Within.whole cs).after c

variable {cs : List Char}

def within (r : Shorter cs) : Within cs := ⟨r.1, Nat.le_of_lt r.2⟩

/-- The same rest, seen from a character earlier. -/
def after (c : Char) (r : Shorter cs) : Shorter (c :: cs) := r.within.after c

def trans (r : Shorter cs) (s : Within r.1) : Shorter cs := ⟨s.1, Nat.lt_of_le_of_lt s.2 r.2⟩

end Shorter

/-- The longest front of characters with a property, and what follows it. -/
def spanned (p : Char → Bool) (cs : List Char) : List Char × Within cs :=
  (cs.takeWhile p, ⟨cs.dropWhile p, (List.dropWhile_suffix _).length_le⟩)

/-- What follows a fixed front. -/
def afterWord? (word : List Char) (cs : List Char) : Option (Within cs) :=
  if word.isPrefixOf cs then some ⟨cs.drop word.length, (List.drop_suffix _ _).length_le⟩ else none

/-- Decimal digits read most significant first. -/
def digitsValue (digits : List Char) : Nat :=
  digits.foldl (fun n c => 10 * n + (c.toNat - '0'.toNat)) 0

def hexValue? (c : Char) : Option Nat :=
  if c.isDigit then some (c.toNat - '0'.toNat)
  else if 'a' ≤ c ∧ c ≤ 'f' then some (c.toNat - 'a'.toNat + 10)
  else if 'A' ≤ c ∧ c ≤ 'F' then some (c.toNat - 'A'.toNat + 10)
  else none

/-- Hexadecimal digits read most significant first. -/
def hexNumber? (digits : List Char) : Option Nat :=
  digits.foldlM (fun n c => (hexValue? c).map (16 * n + ·)) 0

/-- The character with a code point, unless the code point is a surrogate or too large. -/
def char? (n : Nat) : Option Char := if n.isValidChar then some (.ofNat n) else none

end ConstraintDirectives.Text
