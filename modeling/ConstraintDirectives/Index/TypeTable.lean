import ConstraintDirectives.Directive.Extraction

/-! The own constraints of every named type, by id. A type that is under way is not entered again. -/
namespace ConstraintDirectives

inductive TypeStatus where
  | pending
  | underWay
  | compiled (tree : ConstraintTree)

namespace TypeStatus

def isPending : TypeStatus → Bool
  | .pending => true
  | _ => false

def tree : TypeStatus → ConstraintTree
  | .compiled tree => tree
  | _ => .empty

end TypeStatus

structure TypeTable where
  statuses : List TypeStatus

namespace TypeTable

def get? (table : TypeTable) (id : TypeId) : Option TypeStatus := table.statuses[id.index]?

def set (table : TypeTable) (id : TypeId) (s : TypeStatus) : TypeTable :=
  ⟨table.statuses.set id.index s⟩

def pendingCount (table : TypeTable) : Nat := table.statuses.countP TypeStatus.isPending

private theorem pendingCount_set_le (table : TypeTable) (id : TypeId) {s : TypeStatus}
    (hs : s.isPending = false) : (table.set id s).pendingCount ≤ table.pendingCount := by
  by_cases h : id.index < table.statuses.length
  · simp [pendingCount, set, List.countP_set h, hs]
  · simp [pendingCount, set, List.set_eq_of_length_le (Nat.le_of_not_lt h)]

theorem pendingCount_set_lt {table : TypeTable} {id : TypeId} {s : TypeStatus}
    (hp : table.get? id = some .pending) (hs : s.isPending = false) :
    (table.set id s).pendingCount < table.pendingCount := by
  obtain ⟨h, hp⟩ := List.getElem?_eq_some_iff.mp hp
  have hpos : 0 < table.statuses.countP TypeStatus.isPending :=
    List.countP_pos_iff.mpr ⟨_, List.getElem_mem h, by rw [hp]; rfl⟩
  have hone : TypeStatus.isPending table.statuses[id.index] = true := by rw [hp]; rfl
  change (table.statuses.set id.index s).countP TypeStatus.isPending <
    table.statuses.countP TypeStatus.isPending
  rw [List.countP_set h, hone, hs, if_pos rfl, if_neg (by decide)]
  omega

end TypeTable

/-- A later state of a table: nothing has become pending. -/
abbrev Later (table : TypeTable) := { later : TypeTable // later.pendingCount ≤ table.pendingCount }

namespace SchemaContext
variable (ctx : SchemaContext)

def argumentCoordinate (field : FieldCoordinate) (argument : String) : String :=
  field.text ++ "(" ++ argument ++ ":)"

def scalarElement (id : TypeId) (t : NamedType) : SchemaElement where
  coordinate := t.name
  location := .scalar
  directives := t.directives
  type := .scalarDefinition id

def inputFieldElement (owner name : String) (f : InputDefinition) : SchemaElement where
  coordinate := FieldCoordinate.text ⟨owner, name⟩
  location := .inputFieldDefinition
  directives := f.directives
  type := .declared f.type

def outputFieldElement (owner name : String) (f : FieldDefinition) : SchemaElement where
  coordinate := FieldCoordinate.text ⟨owner, name⟩
  location := .fieldDefinition
  directives := f.directives
  type := .declared f.type

def argumentElement (field : FieldCoordinate) (name : String) (a : InputDefinition) :
    SchemaElement where
  coordinate := argumentCoordinate field name
  location := .argumentDefinition
  directives := a.directives
  type := .declared a.type

/-- Directives on output fields are checked and never enforced. -/
def checkOutputFields (owner : String) (fields : List (String × FieldDefinition)) :
    Except DirectiveError Unit :=
  fields.forM fun (name, f) => do let _ ← ctx.extract (outputFieldElement owner name f)

def finishType {table started : TypeTable} (id : TypeId)
    (h : started.pendingCount ≤ table.pendingCount) (tree : ConstraintTree) : Later table :=
  ⟨started.set id (.compiled tree), Nat.le_trans (TypeTable.pendingCount_set_le _ _ rfl) h⟩

mutual
/-- Compiles a type that is still pending. -/
def compileType (id : TypeId) (table : TypeTable) : Except DirectiveError (Later table) :=
  match h : table.get? id with
  | none => .error (.schema (.typeNotFound id))
  | some .underWay | some (.compiled _) => .ok ⟨table, Nat.le_refl _⟩
  | some .pending =>
    let started := table.set id .underWay
    have hlt : started.pendingCount < table.pendingCount := TypeTable.pendingCount_set_lt h rfl
    match ctx.schema.get? id with
    | none => .error (.schema (.typeNotFound id))
    | some t =>
      if t.isIntrospection then .ok (finishType id (Nat.le_of_lt hlt) .empty)
      else
        match t.definition with
        | .scalar _ => (ctx.extract (scalarElement id t)).map (finishType id (Nat.le_of_lt hlt))
        | .inputObject fields =>
          (compileFields t.name fields.entries .empty started).map fun (tree, ⟨later, hle⟩) =>
            finishType id (Nat.le_trans hle (Nat.le_of_lt hlt)) tree
        | .object fields =>
          (ctx.checkOutputFields t.name fields.entries).map fun _ =>
            finishType id (Nat.le_of_lt hlt) .empty
        | .enumeration _ | .placeholder => .ok (finishType id (Nat.le_of_lt hlt) .empty)
termination_by (table.pendingCount, 0)

/-- Adds a property for each field: its own constraints and, by reference, those of its type. -/
def compileFields (owner : String) (fields : List (String × InputDefinition)) (tree : ConstraintTree)
    (table : TypeTable) : Except DirectiveError (ConstraintTree × Later table) :=
  match fields with
  | [] => .ok (tree, ⟨table, Nat.le_refl _⟩)
  | (name, f) :: rest => do
    let own ← ctx.extract (inputFieldElement owner name f)
    let ⟨later, hle⟩ ← compileType f.type.coreType table
    let property := own.inheriting f.type.coreType
    let (tree, ⟨last, hle'⟩) ← compileFields owner rest (tree.addProperty name property) later
    return (tree, ⟨last, Nat.le_trans hle' hle⟩)
termination_by (table.pendingCount, fields.length + 1)
decreasing_by
  · exact Prod.Lex.right' _ (Nat.le_refl _) (Nat.succ_pos _)
  · exact Prod.Lex.right' _ hle (Nat.lt_succ_self _)
end

end SchemaContext
end ConstraintDirectives
