import ConstraintDirectives.Pattern.Reader
import ConstraintDirectives.Pattern.Search

namespace ConstraintDirectives

structure Pattern where
  source : String
  expression : Expression
  denoted : PatternText.expression? source = some expression

namespace Pattern

def ofSource? (source : String) : Option Pattern :=
  match h : PatternText.expression? source with
  | some e => some ⟨source, e, h⟩
  | none => none

/-- Patterns with one text are one pattern. -/
theorem ext_source {p q : Pattern} (h : p.source = q.source) : p = q := by
  obtain ⟨s, e, hp⟩ := p
  obtain ⟨t, f, hq⟩ := q
  obtain rfl : s = t := h
  obtain rfl : e = f := Option.some.inj (hp.symm.trans hq)
  rfl

instance : DecidableEq Pattern := fun p q =>
  decidable_of_iff (p.source = q.source) ⟨ext_source, congrArg source⟩

/-- Whether the pattern matches somewhere in a text. -/
def isMatch (p : Pattern) (text : String) : Bool := p.expression.search text

end Pattern
end ConstraintDirectives
