import ConstraintDirectives.Index.TypeTable

/-! The compiled constraints of a schema. What cannot lead to a directive is left out. -/
namespace ConstraintDirectives

structure ConstraintIndex where
  /-- The own constraints of every named type, by id. -/
  types : List ConstraintTree
  /-- The constrained arguments of every field that has some, in declared order. -/
  arguments : OrderedMap FieldCoordinate (OrderedMap String ConstraintTree)

namespace ConstraintIndex

def empty : ConstraintIndex := ⟨[], .empty⟩

instance : Inhabited ConstraintIndex := ⟨empty⟩

def isEmpty (index : ConstraintIndex) : Bool := index.arguments.isEmpty

def typeTree? (index : ConstraintIndex) (id : TypeId) : Option ConstraintTree :=
  index.types[id.index]?

def fieldTrees? (index : ConstraintIndex) (key : FieldCoordinate) :
    Option (OrderedMap String ConstraintTree) :=
  index.arguments.get? key

def argumentTree? (index : ConstraintIndex) (key : FieldCoordinate) (argument : String) :
    Option ConstraintTree :=
  (index.fieldTrees? key).bind (·.get? argument)

/-- The fields that have constrained arguments, by owner and name. -/
def sortedFields (index : ConstraintIndex) :
    List (FieldCoordinate × OrderedMap String ConstraintTree) :=
  index.arguments.entries.mergeSort fun a b => a.1.le b.1

end ConstraintIndex

namespace ConstrainedTypes

/-- Whether a type is known to lead to a directive; a dangling id is not. -/
def lookup (known : List Bool) (id : TypeId) : Bool := known[id.index]?.getD false

/-- Adds the types that lead to a known one. -/
def step (types : List ConstraintTree) (known : List Bool) : List Bool :=
  types.zipWith (fun tree k => k || tree.leadsToDirective (lookup known)) known

/-- Steps until nothing is added, at most `n` times. -/
def settle (types : List ConstraintTree) : Nat → List Bool → List Bool
  | 0, known => known
  | n + 1, known =>
    let next := step types known
    if next = known then known else settle types n next

/-- The types that lead to a directive. Each round but the last adds one, so as many rounds as types
are enough. -/
def ofTypes (types : List ConstraintTree) : List Bool :=
  settle types types.length (types.map fun _ => false)

end ConstrainedTypes

namespace SchemaContext
variable (ctx : SchemaContext)

def compileTypes : List TypeId → TypeTable → Except DirectiveError TypeTable
  | [], table => .ok table
  | id :: ids, table => do
    let later ← ctx.compileType id table
    compileTypes ids later.1

/-- The constraints of one field's arguments: their own and, by reference, those of their types. -/
def compileArguments (field : FieldCoordinate) :
    List (String × InputDefinition) → TypeTable →
      Except DirectiveError (List (String × ConstraintTree) × TypeTable)
  | [], table => .ok ([], table)
  | (name, a) :: rest, table => do
    let own ← ctx.extract (argumentElement field name a)
    let later ← ctx.compileType a.type.coreType table
    let (trees, last) ← compileArguments field rest later.1
    return ((name, own.inheriting a.type.coreType) :: trees, last)

def compileObject (owner : String) :
    List (String × FieldDefinition) → TypeTable →
      Except DirectiveError (List (FieldCoordinate × OrderedMap String ConstraintTree) × TypeTable)
  | [], table => .ok ([], table)
  | (name, f) :: rest, table => do
    let (trees, later) ← ctx.compileArguments ⟨owner, name⟩ f.arguments.entries table
    let (fields, last) ← compileObject owner rest later
    return ((⟨owner, name⟩, .ofList trees) :: fields, last)

/-- The arguments of all fields of all objects that are not part of introspection. -/
def compileObjects :
    List NamedType → TypeTable →
      Except DirectiveError (List (FieldCoordinate × OrderedMap String ConstraintTree) × TypeTable)
  | [], table => .ok ([], table)
  | t :: rest, table =>
    match t.isIntrospection, t.definition with
    | false, .object fields => do
      let (compiled, later) ← ctx.compileObject t.name fields.entries table
      let (others, last) ← compileObjects rest later
      return (compiled ++ others, last)
    | _, _ => compileObjects rest table

/-- Leaves out what leads to no directive. -/
def finish (types : List ConstraintTree)
    (arguments : OrderedMap FieldCoordinate (OrderedMap String ConstraintTree)) : ConstraintIndex :=
  let known := ConstrainedTypes.ofTypes types
  let isEmptyType (id : TypeId) := !ConstrainedTypes.lookup known id
  let prune (trees : OrderedMap String ConstraintTree) :=
    (trees.map (·.prune isEmptyType)).filter (!·.isEmpty)
  ⟨types.map (·.prune isEmptyType), (arguments.map prune).filter (!·.isEmpty)⟩

/-- Compiles every directive of the schema, or fails with the first that is misapplied. -/
def compile : Except DirectiveError ConstraintIndex := do
  ctx.schema.checkComplete.mapError .schema
  let table ← ctx.compileTypes ctx.schema.ids ⟨ctx.schema.types.map fun _ => .pending⟩
  let (fields, last) ← ctx.compileObjects ctx.schema.types table
  return finish (last.statuses.map (·.tree)) (.ofList fields)

end SchemaContext
end ConstraintDirectives
