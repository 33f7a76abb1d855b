import ConstraintDirectives.Constraint.Tree
import ConstraintDirectives.Directive.Vocabulary
import ConstraintDirectives.Directive.ScalarRules

/-! The constraints that the directives on one schema element declare, if they are legal there. -/
namespace ConstraintDirectives

/-- What the directives of an element are checked against. -/
inductive DirectiveTarget where
  | declared (type : WrappedType)
  | scalarDefinition (id : TypeId)

namespace DirectiveTarget

def coreType : DirectiveTarget → TypeId
  | .declared type => type.coreType
  | .scalarDefinition id => id

def listDepth : DirectiveTarget → Nat
  | .declared type => type.listDepth
  | .scalarDefinition _ => 0

end DirectiveTarget

structure SchemaElement where
  coordinate : String
  location : DirectiveLocation
  directives : List AppliedDirective
  type : DirectiveTarget

/-- A schema with the rules for its directives. -/
structure SchemaContext where
  vocabulary : Vocabulary
  schema : Schema
  rules : ScalarRules

namespace SchemaContext
variable (ctx : SchemaContext)

/-- A list directive is as deep as the declared lists; a value directive is on a scalar that accepts
it. -/
def checkFits (e : SchemaElement) (key : DirectiveKey) (set : ConstraintSet) :
    Except DirectiveError Unit :=
  match ctx.schema.get? e.type.coreType with
  | none => .error (.schema (.typeNotFound e.type.coreType))
  | some t =>
    if key = .list then
      if e.type.listDepth = 0 then .error (.nonListType e.coordinate t.name)
      else if set.listDepth = e.type.listDepth then .ok ()
      else .error (.listDepthMismatch e.coordinate set.listDepth e.type.listDepth)
    else
      match t.definition with
      | .scalar builtin =>
        if ctx.rules.accepts t.name builtin key then .ok ()
        else .error (.incompatibleType e.coordinate key t.name)
      | _ => .error (.incompatibleType e.coordinate key t.name)

/-- Adds what one directive declares. A directive outside the vocabulary declares nothing. -/
def extractOne (e : SchemaElement) (tree : ConstraintTree) (applied : AppliedDirective) :
    Except DirectiveError ConstraintTree :=
  match ctx.vocabulary.find? applied.name with
  | none => .ok tree
  | some d =>
    if d.allows e.location then do
      let set ← d.decode e.coordinate applied.arguments.entries
      ctx.checkFits e d.key set
      return tree.insert d.key set
    else .error (.misplacedDirective e.coordinate d.key e.location)

def extract (e : SchemaElement) : Except DirectiveError ConstraintTree :=
  e.directives.foldlM (ctx.extractOne e) .empty

end SchemaContext
end ConstraintDirectives
