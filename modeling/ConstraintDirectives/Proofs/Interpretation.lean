import Mathlib
import ConstraintDirectives.Proofs.CompiledViews
import ConstraintDirectives.Proofs.Traversal

/-! Direct interpretation of a schema, without an index. Validation against the compiled index agrees
with it, to the very rejection. -/
namespace ConstraintDirectives
open Validation

/-- A position in a schema, at some list level: the named type, all that is declared there, and the
list sets of that level. -/
structure Position where
  type : TypeId
  declared : List Declaration
  lists : List ConstraintSet

namespace Position

/-- Keys in force in the order of their declarations, that of lists last. -/
def keys (p : Position) : List DirectiveKey :=
  ((p.declared.map (·.1)).filter (· ≠ .list)).eraseDups ++ if p.lists.isEmpty then [] else [.list]

def items (p : Position) : Position := { p with lists := p.lists.filterMap (·.innerList?) }

def interpretScalar (p : Position) (path : ValuePath) (value : Value) : Except Rejection Unit :=
  if p.keys.isEmpty then .ok ()
  else
    match (DirectiveKey.ofScalar? value.kind).filter (p.keys.contains ·) with
    | some key => checkSets path key value (Declaration.under key p.declared).flatten
    | none => .error (.kindMismatch path value.kind p.keys)

end Position

namespace SchemaContext
variable (ctx : SchemaContext)

def position (e : SchemaElement) : Position :=
  ⟨e.type.coreType, ctx.declarationsAt e, Declaration.under .list (ctx.declarationsAt e)⟩

mutual
def interpret (p : Position) (path : ValuePath) : Value → Except Rejection Unit
  | .null => .ok ()
  | .list items => do
    checkSets path .list (.list items) (p.lists.flatten.filter (·.1 ≠ .innerList))
    interpretItems p.items path 0 items
  | .record properties =>
    (ctx.inputElements p.type).forM fun q =>
      interpretProperty (ctx.position q.2) (path.push (.key q.1)) q.1 properties
  | .boolean b => p.interpretScalar path (.boolean b)
  | .int i => p.interpretScalar path (.int i)
  | .float x => p.interpretScalar path (.float x)
  | .string s => p.interpretScalar path (.string s)

def interpretItems (p : Position) (path : ValuePath) (i : Nat) :
    List Value → Except Rejection Unit
  | [] => .ok ()
  | x :: xs => do
    interpret p (path.push (.index i)) x
    interpretItems p path (i + 1) xs

def interpretProperty (p : Position) (path : ValuePath) (name : String) :
    List (String × Value) → Except Rejection Unit
  | [] => .ok ()
  | (k, x) :: properties =>
    if k = name then interpret p path x else interpretProperty p path name properties
end

/-- The arguments of a field in declared order. What is not supplied passes. -/
def interpretCall (key : FieldCoordinate) (supplied : List (String × Value)) :
    Except Rejection Unit :=
  match ctx.schema.callable? key with
  | none => .ok ()
  | some f =>
    (argumentElements key f).forM fun q =>
      ctx.interpretProperty (ctx.position q.2) (.argument q.1) q.1 supplied

variable {ctx}

theorem interpret_scalar (p : Position) (path : ValuePath) {value : Value}
    (h : value.kind.isScalar = true) :
    ctx.interpret p path value = p.interpretScalar path value := by
  cases value <;> first | rfl | cases h

theorem interpretProperty_eq (p : Position) (path : ValuePath) (name : String)
    (properties : List (String × Value)) : ctx.interpretProperty p path name properties =
      (Entries.get? properties name).elim (.ok ()) (ctx.interpret p path) := by
  induction properties with
  | nil => rfl
  | cons q properties ih =>
    obtain ⟨k, x⟩ := q
    rw [interpretProperty, Entries.get?]
    split
    · rfl
    · exact ih

structure Renders (ctx : SchemaContext) (v : InForce) (p : Position) : Prop where
  brought : (v.trees.flatMap fun tree => (tree.directives.map (·.1)).filter (· ≠ .list)).eraseDups =
    ((p.declared.map (·.1)).filter (· ≠ .list)).eraseDups
  sets : ∀ key, v.sets key = (Declaration.under key p.declared).filter (!·.isEmpty)
  listKey : v.hasListKey = !p.lists.isEmpty
  listSets : v.listSets.filter (!·.isEmpty) = p.lists.filter (!·.isEmpty)
  propertyNames : v.propertyNames = (ctx.kept (ctx.inputElements p.type)).map (·.1)
  property : ∀ q ∈ ctx.kept (ctx.inputElements p.type),
    v.property ctx.compiledIndex q.1 = .ofTrees ctx.compiledIndex [ctx.prunedElement q.2]

private theorem renders_position (e : SchemaElement) :
    Renders ctx (.ofTrees ctx.compiledIndex [ctx.prunedElement e]) (ctx.position e) where
  brought := brought_ofTrees e
  sets := sets_ofTrees e
  listKey := hasListKey_ofTrees e
  listSets := by
    have hs : (InForce.ofTrees ctx.compiledIndex [ctx.prunedElement e]).listSets =
        (InForce.ofTrees ctx.compiledIndex [ctx.prunedElement e]).sets .list := rfl
    rw [hs, sets_ofTrees, List.filter_filter]
    simp [position]
  propertyNames := propertyNames_ofTrees e
  property _ := property_ofTrees e

namespace Renders
variable {v : InForce} {p : Position}

private theorem keys (h : Renders ctx v p) : v.keys = p.keys := by
  rw [InForce.keys, Position.keys, h.brought, h.listKey]
  cases p.lists.isEmpty <;> rfl

private theorem checkScalar_eq (h : Renders ctx v p) (path : ValuePath) (value : Value) :
    checkScalar v path value = p.interpretScalar path value := by
  rw [checkScalar, Position.interpretScalar, h.keys]
  cases DirectiveKey.ofScalar? value.kind with
  | none => rfl
  | some key =>
    have hs : (v.sets key).flatten = (Declaration.under key p.declared).flatten := by
      rw [h.sets, List.flatten_filter_not_isEmpty]
    cases hk : p.keys.contains key with
    | true => simp only [Option.filter_some, hk, hs, if_true]
    | false => simp only [Option.filter_some, hk, Bool.false_eq_true, if_false]

private theorem flatten_listSets (h : Renders ctx v p) : v.listSets.flatten = p.lists.flatten := by
  rw [← List.flatten_filter_not_isEmpty, h.listSets, List.flatten_filter_not_isEmpty]

/-- An empty set says nothing of items. -/
theorem innerLists (h : Renders ctx v p) :
    v.listSets.filterMap (·.innerList?) = p.lists.filterMap (·.innerList?) := by
  have hempty (sets : List ConstraintSet) :
      (sets.filter (!·.isEmpty)).filterMap (·.innerList?) = sets.filterMap (·.innerList?) := by
    rw [List.filterMap_filter]
    congr 1
    funext set
    cases set <;> rfl
  rw [← hempty, h.listSets, hempty]

private theorem items (h : Renders ctx v p) : Renders ctx v.items p.items where
  brought := h.brought
  sets := h.sets
  listKey := by rw [InForce.hasListKey_items, h.innerLists, Position.items]
  listSets := by rw [InForce.listSets_items, h.innerLists, Position.items]
  propertyNames := h.propertyNames
  property := h.property

end Renders

def Interprets (ctx : SchemaContext) (value : Value) : Prop :=
  ∀ v p, Renders ctx v p → ∀ path,
    check ctx.compiledIndex v path value = (ctx.interpret p path value).map fun _ => path

private theorem checkItems_eq {items : List Value} (h : ∀ x ∈ items, ctx.Interprets x) {v : InForce}
    {p : Position} (hr : Renders ctx v p) (path : ValuePath) (i : Nat) :
    checkItems ctx.compiledIndex v path i items =
      (ctx.interpretItems p path i items).map fun _ => path := by
  induction items generalizing i with
  | nil => rfl
  | cons x xs ih =>
    have ih := ih (fun y hy => h y (List.mem_cons_of_mem _ hy)) (i + 1)
    rw [checkItems_cons, interpretItems, h x (List.mem_cons_self ..) v p hr]
    cases ctx.interpret p (path.push (.index i)) x with
    | error e => rfl
    | ok _ =>
      change checkItems ctx.compiledIndex v (path.push (.index i)).pop (i + 1) xs = _
      rw [ValuePath.pop_push, ih]
      rfl

/-- What the index leaves out passes. -/
theorem interpret_of_isEmpty {x : Value} (h : ctx.Interprets x) {e : SchemaElement}
    (he : (ctx.prunedElement e).isEmpty = true) (path : ValuePath) :
    ctx.interpret (ctx.position e) path x = .ok () := by
  have hc := h _ _ (renders_position e) path
  rw [ctx.prunedElement_eq_empty he, check_void _ (InForce.isVoid_ofTrees_empty _)] at hc
  cases hi : ctx.interpret (ctx.position e) path x with
  | ok u => rfl
  | error err =>
    rw [hi] at hc
    cases hc

section Properties
variable {properties : List (String × Value)}

private theorem interpretProperty_of_isEmpty (h : ∀ q ∈ properties, ctx.Interprets q.2)
    {q : String × SchemaElement} (he : (ctx.prunedElement q.2).isEmpty = true) (path : ValuePath) :
    ctx.interpretProperty (ctx.position q.2) path q.1 properties = .ok () := by
  rw [interpretProperty_eq]
  cases hx : Entries.get? properties q.1 with
  | none => rfl
  | some x => exact interpret_of_isEmpty (h _ (Entries.mem_of_get? hx)) he path

private theorem checkProperty_interprets (h : ∀ q ∈ properties, ctx.Interprets q.2)
    (q : String × SchemaElement) (path : ValuePath) :
    checkProperty ctx.compiledIndex (.ofTrees ctx.compiledIndex [ctx.prunedElement q.2]) path q.1
        properties =
      (ctx.interpretProperty (ctx.position q.2) (path.push (.key q.1)) q.1 properties).map
        fun _ => path := by
  rw [checkProperty_eq, interpretProperty_eq]
  cases hx : Entries.get? properties q.1 with
  | none => rfl
  | some x =>
    rw [Option.elim_some]
    dsimp only
    rw [h _ (Entries.mem_of_get? hx) _ _ (renders_position q.2)]
    cases ctx.interpret (ctx.position q.2) (path.push (.key q.1)) x with
    | error e => rfl
    | ok _ => exact congrArg Except.ok (ValuePath.pop_push path _)

/-- The fields that the index keeps are validated as all fields are interpreted. -/
theorem checkProperties_eq (h : ∀ q ∈ properties, ctx.Interprets q.2) {v : InForce}
    {es : List (String × SchemaElement)} (hv : ∀ q ∈ ctx.kept es,
      v.property ctx.compiledIndex q.1 = .ofTrees ctx.compiledIndex [ctx.prunedElement q.2])
    (path : ValuePath) :
    ((ctx.kept es).map (·.1)).foldlM (fun path name => checkProperty ctx.compiledIndex
        (v.property ctx.compiledIndex name) path name properties) path =
      (es.forM fun q =>
        ctx.interpretProperty (ctx.position q.2) (path.push (.key q.1)) q.1 properties).map
          fun _ => path := by
  rw [List.foldlM_map, ← Sequencing.forM_filter (p := fun q => !(ctx.prunedElement q.2).isEmpty)]
  · refine Sequencing.foldlM_eq_map fun q hq => ?_
    rw [hv q hq, checkProperty_interprets h]
  · intro q _ he
    exact interpretProperty_of_isEmpty h (by simpa using he) _

end Properties

private theorem check_interprets (ctx : SchemaContext) (value : Value) : ctx.Interprets value := by
  induction value using Value.byParts with
  | null => exact fun _ _ _ _ => rfl
  | scalar value hs =>
    intro v p hr path
    have hc : checkHere v path value = checkScalar v path value := by
      cases value <;> first | rfl | cases hs
    rw [check_scalar _ v path hs, interpret_scalar p path hs, hc, hr.checkScalar_eq]
  | list items ih =>
    intro v p hr path
    rw [check, interpret, hr.flatten_listSets]
    cases checkSets path .list (.list items) (p.lists.flatten.filter (·.1 ≠ .innerList)) with
    | error e => rfl
    | ok _ => exact checkItems_eq ih hr.items path 0
  | record properties ih =>
    intro v p hr path
    rw [check, interpret, hr.propertyNames]
    exact checkProperties_eq ih hr.property path

private theorem checkArguments_eq {supplied : List (String × Value)}
    (es : List (String × SchemaElement)) :
    ((ctx.kept es).map fun q => (q.1, ctx.prunedElement q.2)).forM (fun a =>
        (Entries.get? supplied a.1).elim (.ok ()) fun value =>
          (check ctx.compiledIndex (.ofTrees ctx.compiledIndex [a.2]) (.argument a.1) value).map
            fun _ => ()) =
      es.forM fun q => ctx.interpretProperty (ctx.position q.2) (.argument q.1) q.1 supplied := by
  refine List.forM_map.trans ?_
  rw [← Sequencing.forM_filter (p := fun q => !(ctx.prunedElement q.2).isEmpty)]
  · refine Sequencing.forM_congr fun q _ => ?_
    rw [interpretProperty_eq]
    cases Entries.get? supplied q.1 with
    | none => rfl
    | some x =>
      rw [Option.elim_some, Option.elim_some, check_interprets ctx x _ _ (renders_position q.2)]
      cases ctx.interpret (ctx.position q.2) (.argument q.1) x <;> rfl
  · intro q _ he
    exact interpretProperty_of_isEmpty (fun p _ => check_interprets ctx p.2) (by simpa using he) _

/-- The compiled index validates a call as the schema itself does. -/
theorem validateCall_compiledIndex (ctx : SchemaContext) (key : FieldCoordinate)
    (supplied : List (String × Value)) :
    ctx.compiledIndex.validateCall key supplied = ctx.interpretCall key supplied := by
  rw [ConstraintIndex.validateCall, fieldTrees?_compiledIndex, interpretCall]
  cases ctx.schema.callable? key with
  | none => rfl
  | some f =>
    rw [Option.map_some]
    dsimp only
    rw [← checkArguments_eq, ← entries_prunedCall]
    cases he : (ctx.prunedCall key f).isEmpty with
    | true =>
      have hnil : (ctx.prunedCall key f).entries = [] := List.isEmpty_iff.mp he
      rw [Option.filter_some_neg (by simp [he]), hnil]
      rfl
    | false =>
      rw [Option.filter_some_pos (by simp [he])]
      refine Sequencing.forM_congr fun a _ => ?_
      cases Entries.get? supplied a.1 <;> rfl

/-- Validation against the index that a schema compiles to gives the very result of interpreting the
schema. -/
theorem validateCall_eq_interpretCall {index : ConstraintIndex} (h : ctx.compile = .ok index)
    (key : FieldCoordinate) (supplied : List (String × Value)) :
    index.validateCall key supplied = ctx.interpretCall key supplied := by
  rw [(compile_eq_ok h).2]
  exact validateCall_compiledIndex ctx key supplied

def nodeFields : OrderedMap String InputDefinition := .ofList
  [("next", ⟨.nonNull (.named ⟨1⟩), []⟩),
    ("codes", ⟨.list (.named ⟨0⟩), [⟨"list", .ofList [("maxItems", .int 2)]⟩]⟩),
    ("tags", ⟨.list (.list (.named ⟨3⟩)),
      [⟨"list", .ofList [("innerList", .record [("minItems", .int 1)])]⟩,
        ⟨"stringValue", .ofList [("minLength", .int 2)]⟩]⟩)]

def findField : FieldDefinition := ⟨.named ⟨3⟩, .ofList [("node", ⟨.named ⟨1⟩, []⟩)], []⟩

def nodeContext : SchemaContext where
  vocabulary := .standard
  rules := {}
  schema :=
    { types :=
        [⟨"Code", .scalar none, [⟨"stringValue", .ofList [("minLength", .int 2)]⟩]⟩,
          ⟨"Node", .inputObject nodeFields, []⟩,
          ⟨"Query", .object (.ofList [("find", findField)]), []⟩,
          Schema.builtinType .string]
      names := .ofList [("Code", ⟨0⟩), ("Node", ⟨1⟩), ("Query", ⟨2⟩), ("String", ⟨3⟩)]
      length_le := by decide }

set_option maxRecDepth 8000 in
theorem compile_nodeContext : ∃ index, nodeContext.compile = .ok index :=
  Sequencing.exists_eq_ok (by cbv)

set_option maxRecDepth 8000 in
/-- Three codes one node further in are refused by the schema, and so by its index. -/
theorem validateCall_eq_interpretCall_of_nested_node :
    let codes : Value := .list [.string "ab", .string "cd", .string "ef"]
    let supplied : List (String × Value) := [("node", .record [("next", .record [("codes", codes)])])]
    let rejection : Rejection :=
      .constraintViolation [.key "node", .key "next", .key "codes"] .list .maxItems (.int 2) codes
        "list has 3 items, more than maxItems 2"
    ∃ index, nodeContext.compile = .ok index ∧
      nodeContext.interpretCall ⟨"Query", "find"⟩ supplied = .error rejection ∧
      index.validateCall ⟨"Query", "find"⟩ supplied =
        nodeContext.interpretCall ⟨"Query", "find"⟩ supplied := by
  intro codes supplied rejection
  obtain ⟨index, hc⟩ := compile_nodeContext
  have hi : nodeContext.interpretCall ⟨"Query", "find"⟩ supplied = .error rejection := by cbv
  exact ⟨index, hc, hi, validateCall_eq_interpretCall hc _ supplied⟩

end SchemaContext
end ConstraintDirectives
