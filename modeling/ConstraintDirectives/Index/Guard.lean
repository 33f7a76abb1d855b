import ConstraintDirectives.Index.Validation

namespace ConstraintDirectives

abbrev Resolver (m : Type → Type) (ε α : Type) := List (String × Value) → ExceptT ε m α

inductive ResolutionError (ε : Type) where
  | invalid (error : Rejection)
  | resolver (error : ε)

def ResolutionError.message {ε : Type} (errorText : ε → String) : ResolutionError ε → String
  | .invalid error => error.message
  | .resolver error => "resolver failed: " ++ errorText error

structure GuardedResolver (m : Type → Type) (ε α : Type) where
  index : ConstraintIndex
  field : FieldCoordinate
  inner : Resolver m ε α

/-- Resolves only where every argument passes. -/
def GuardedResolver.resolve {m : Type → Type} [Monad m] {ε α : Type}
    (g : GuardedResolver m ε α) : Resolver m (ResolutionError ε) α := fun supplied =>
  match g.index.validateCall g.field supplied with
  | .error e => throw (.invalid e)
  | .ok () => (g.inner supplied).adapt .resolver

end ConstraintDirectives
