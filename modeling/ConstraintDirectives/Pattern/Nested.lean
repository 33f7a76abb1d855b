/-! How deep the parts of a pattern nest in its text. A single character, set or anchor has depth zero.
-/
namespace ConstraintDirectives.PatternText

structure Nested (α : Type) where
  value : α
  depth : Nat := 0

namespace Nested

/-- The greatest depth that a pattern may have. -/
def limit : Nat := 250

/-- The same part with something else around it. -/
def within {α β : Type} (value : β) (part : Nested α) : Nested β := ⟨value, part.depth + 1⟩

/-- The depth of parts put together. One part alone is only itself. -/
def depthOfAll {α : Type} : List (Nested α) → Nat
  | [] => 0
  | [part] => part.depth
  | parts => (parts.map (·.depth)).foldl max 0 + 1

end Nested
end ConstraintDirectives.PatternText
