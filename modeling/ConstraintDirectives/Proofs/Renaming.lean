import ConstraintDirectives.Proofs.FieldNames
import ConstraintDirectives.Proofs.Interpretation
import ConstraintDirectives.Proofs.Rephrasing

/-! A field is validated by what its arguments can get to, whatever the ids of the types are. -/
namespace ConstraintDirectives

namespace WrappedType

def rename (ρ : TypeId → TypeId) : WrappedType → WrappedType
  | .named id => .named (ρ id)
  | .list inner => .list (inner.rename ρ)
  | .nonNull inner => .nonNull (inner.rename ρ)

theorem coreType_rename (ρ : TypeId → TypeId) (t : WrappedType) :
    (t.rename ρ).coreType = ρ t.coreType := by
  induction t with
  | named id => rfl
  | list inner ih | nonNull inner ih => exact ih

@[simp] theorem rename_id (t : WrappedType) : t.rename id = t := by
  induction t with
  | named i => rfl
  | list inner ih => exact congrArg list ih
  | nonNull inner ih => exact congrArg nonNull ih

end WrappedType

def InputDefinition.rename (ρ : TypeId → TypeId) (a : InputDefinition) : InputDefinition :=
  { a with type := a.type.rename ρ }

theorem InputDefinition.map_rename_id (fields : OrderedMap String InputDefinition) :
    fields.map (·.rename id) = fields := by
  have hf : (fun a : InputDefinition => a.rename id) = id := by
    funext a
    rw [rename, WrappedType.rename_id]
    rfl
  rw [hf]
  exact fields.map_id

/-- A definition under new ids. Of enumerations and output objects the kind is enough. -/
inductive TypeDefinition.Renames (ρ : TypeId → TypeId) : TypeDefinition → TypeDefinition → Prop where
  | scalar (builtin : Option BuiltinScalar) : Renames ρ (.scalar builtin) (.scalar builtin)
  | inputObject (fields : OrderedMap String InputDefinition) :
      Renames ρ (.inputObject fields) (.inputObject (fields.map (·.rename ρ)))
  | object (fields fields' : OrderedMap String FieldDefinition) :
      Renames ρ (.object fields) (.object fields')
  | enumeration (values values' : List String) : Renames ρ (.enumeration values) (.enumeration values')
  | placeholder : Renames ρ .placeholder .placeholder

structure NamedType.Renames (ρ : TypeId → TypeId) (t u : NamedType) : Prop where
  name : u.name = t.name
  definition : t.definition.Renames ρ u.definition
  directives : u.directives = t.directives

theorem NamedType.Renames.isIntrospection_eq {ρ : TypeId → TypeId} {t u : NamedType}
    (h : t.Renames ρ u) : u.isIntrospection = t.isIntrospection := by
  rw [NamedType.isIntrospection, NamedType.isIntrospection, h.name]

theorem TypeDefinition.Renames.refl (d : TypeDefinition) : d.Renames id d := by
  cases d with
  | scalar builtin => exact .scalar builtin
  | inputObject fields =>
    have h := Renames.inputObject (ρ := id) fields
    rwa [InputDefinition.map_rename_id] at h
  | object fields => exact .object fields fields
  | enumeration values => exact .enumeration values values
  | placeholder => exact .placeholder

namespace Schema

/-- The types that the arguments of a field can get to through the fields of input objects. -/
inductive Reaches (s : Schema) (f : FieldDefinition) : TypeId → Prop where
  | argument {p : String × InputDefinition} : p ∈ f.arguments.entries →
      Reaches s f p.2.type.coreType
  | field {id : TypeId} {t : NamedType} {fields : OrderedMap String InputDefinition}
      {p : String × InputDefinition} : Reaches s f id → s.get? id = some t →
      t.definition = .inputObject fields → p ∈ fields.entries → Reaches s f p.2.type.coreType

/-- New ids carry the arguments of a field to those of another, and all that they can get to along with
them. -/
structure Carries (s s' : Schema) (ρ : TypeId → TypeId) (f g : FieldDefinition) : Prop where
  arguments : g.arguments = f.arguments.map (·.rename ρ)
  types : ∀ id t, s.Reaches f id → s.get? id = some t → ∃ u, s'.get? (ρ id) = some u ∧ t.Renames ρ u

variable {s s' : Schema}

/-- Types that keep their ids are carried to themselves, whatever others there are. -/
theorem carries_id (h : ∀ i t, s.get? i = some t → s'.get? i = some t) (f : FieldDefinition) :
    s.Carries s' id f f where
  arguments := (InputDefinition.map_rename_id f.arguments).symm
  types i t _ ht := ⟨t, h i t ht, rfl, .refl t.definition, rfl⟩

/-- A further type changes nothing for the fields that were there before. -/
theorem carries_of_add {t : NamedType} {i : TypeId} (h : s.add t = (.ok i, s')) (f : FieldDefinition) :
    s.Carries s' id f f := by
  obtain ⟨-, -, -, htypes, -⟩ := add_eq_ok h
  refine carries_id (fun j u hu => ?_) f
  rw [get?_of_types_append htypes, if_pos (index_lt_size hu)]
  exact hu

/-- A type that is declared first and defined later is as it would be if added at once. -/
theorem define_of_declare {name : String} {i : TypeId} (h : s.declare name = (.ok i, s'))
    (definition : TypeDefinition) (directives : List AppliedDirective) :
    ∃ s'', s.add ⟨name, definition, directives⟩ = (.ok i, s'') ∧
      s'.define i definition directives = (.ok (), s'') := by
  rw [declare, add] at h
  rw [add]
  split at h
  · cases h
  · next hname =>
    rw [if_neg hname]
    split at h
    · next hlt =>
      cases h
      rw [dif_pos hlt]
      simp [define, get?, TypeId.index_ofIndex hlt, TypeDefinition.isPlaceholder]
    · cases h

end Schema

def Position.rename (ρ : TypeId → TypeId) (p : Position) : Position := { p with type := ρ p.type }

namespace SchemaContext
variable {ctx ctx' : SchemaContext} {ρ : TypeId → TypeId} {f g : FieldDefinition}

def Visits (ctx : SchemaContext) (f : FieldDefinition) (id : TypeId) : Prop :=
  ctx.schema.Reaches f id ∧ (ctx.schema.get? id).isSome = true

structure Moves (ctx : SchemaContext) (ρ : TypeId → TypeId) (f : FieldDefinition)
    (e e' : SchemaElement) : Prop where
  directives : e'.directives = e.directives
  type : e'.type.coreType = ρ e.type.coreType
  visits : ctx.Visits f e.type.coreType

section Carried
variable (hv : ctx'.vocabulary = ctx.vocabulary) (hs : ctx.schema.Carries ctx'.schema ρ f g)
include hv hs

private theorem scalarDeclarations_rename {id : TypeId} (h : ctx.Visits f id) :
    ctx'.scalarDeclarations (ρ id) = ctx.scalarDeclarations id := by
  obtain ⟨t, ht⟩ := Option.isSome_iff_exists.mp h.2
  obtain ⟨u, hu, hr⟩ := hs.types id t h.1 ht
  simp only [scalarDeclarations, ht, hu, hr.isIntrospection_eq]
  cases t.isIntrospection with
  | true => rfl
  | false =>
    obtain ⟨_, d, _⟩ := t
    obtain ⟨_, d', _⟩ := u
    cases hr.definition with
    | scalar builtin =>
      refine (declarations_eq hv ?_).symm
      cases hr.directives
      exact .refl _
    | _ => rfl

private theorem position_rename {e e' : SchemaElement} (h : ctx.Moves ρ f e e') :
    ctx'.position e' = (ctx.position e).rename ρ := by
  have hd : ctx'.declarations e' = ctx.declarations e := by
    refine (declarations_eq hv ?_).symm
    rw [h.directives]
    exact .refl _
  rw [position, position, Position.rename, declarationsAt, declarationsAt, hd, h.type,
    scalarDeclarations_rename hv hs h.visits]

end Carried

/-- Elements of the same arguments or fields move if they do one by one. -/
theorem matches_of_map {fields : OrderedMap String InputDefinition}
    {e e' : String → InputDefinition → SchemaElement}
    (h : ∀ p ∈ fields.entries, ctx.Moves ρ f (e p.1 p.2) (e' p.1 (p.2.rename ρ))) :
    Entries.Matches (ctx.Moves ρ f) (fields.entries.map fun p => (p.1, e p.1 p.2))
      ((fields.map (·.rename ρ)).entries.map fun p => (p.1, e' p.1 p.2)) := by
  rw [OrderedMap.map, List.map_map]
  refine List.forall₂_map_left_iff.mpr (List.forall₂_map_right_iff.mpr (List.forall₂_same.mpr ?_))
  exact fun p hp => ⟨rfl, h p hp⟩

section Compiled
variable (hs : ctx.schema.Carries ctx'.schema ρ f g) (hw : ctx.IsWellFormed)
include hs hw

private theorem inputElements_rename {id : TypeId} (h : ctx.Visits f id) :
    Entries.Matches (ctx.Moves ρ f) (ctx.inputElements id) (ctx'.inputElements (ρ id)) := by
  obtain ⟨t, ht⟩ := Option.isSome_iff_exists.mp h.2
  obtain ⟨u, hu, hr⟩ := hs.types id t h.1 ht
  have hlegal : ctx.IsLegalType id := hw.types id (ctx.schema.mem_ids ht)
  simp only [inputElements, ht, hu, hr.isIntrospection_eq]
  cases hi : t.isIntrospection with
  | true => exact .nil
  | false =>
    obtain ⟨name, d, _⟩ := t
    obtain ⟨_, d', _⟩ := u
    cases hr.definition with
    | inputObject fields =>
      refine matches_of_map fun p hp => ⟨rfl, p.2.type.coreType_rename ρ, .field h.1 ht rfl hp, ?_⟩
      exact (hlegal.of_definition ht hi rfl p hp).2
    | _ => exact .nil

private theorem argumentElements_rename {key key' : FieldCoordinate}
    (hf : (key, f) ∈ ctx.schema.callables) :
    Entries.Matches (ctx.Moves ρ f) (argumentElements key f) (argumentElements key' g) := by
  rw [argumentElements, argumentElements, hs.arguments]
  refine matches_of_map fun p hp => ⟨rfl, p.2.type.coreType_rename ρ, .argument hp, ?_⟩
  exact (hw.arguments _ hf _ (List.mem_map_of_mem hp)).2

end Compiled

private theorem interpretItems_rename {items : List Value} {p : Position}
    (hvalues : ∀ x ∈ items, ∀ path, ctx'.interpret (p.rename ρ) path x = ctx.interpret p path x)
    (path : ValuePath) (i : Nat) :
    ctx'.interpretItems (p.rename ρ) path i items = ctx.interpretItems p path i items := by
  induction items generalizing i with
  | nil => rfl
  | cons x xs ih =>
    rw [List.forall_mem_cons] at hvalues
    rw [interpretItems, interpretItems, hvalues.1, ih hvalues.2]

section Interpreted
variable (hv : ctx'.vocabulary = ctx.vocabulary) (hs : ctx.schema.Carries ctx'.schema ρ f g)
include hv hs

/-- A property is interpreted under the new ids as before, if all properties that are supplied are. -/
theorem interpretProperty_rename {properties : List (String × Value)} {e e' : SchemaElement}
    (hvalues : ∀ q ∈ properties, ∀ p path, ctx.Visits f p.type →
      ctx'.interpret (p.rename ρ) path q.2 = ctx.interpret p path q.2)
    (he : ctx.Moves ρ f e e') (path : ValuePath) (name : String) :
    ctx'.interpretProperty (ctx'.position e') path name properties =
      ctx.interpretProperty (ctx.position e) path name properties := by
  rw [interpretProperty_eq, interpretProperty_eq, position_rename hv hs he]
  cases hx : Entries.get? properties name with
  | none => rfl
  | some x => exact hvalues _ (Entries.mem_of_get? hx) _ path he.visits

/-- Values are interpreted under the new ids as before. -/
theorem interpret_rename (hw : ctx.IsWellFormed) (value : Value) :
    ∀ p path, ctx.Visits f p.type →
      ctx'.interpret (p.rename ρ) path value = ctx.interpret p path value := by
  -- Positions vary: one level down is a position of its own, at the same type or at that of a field, and
  -- whichever it is, an argument still gets to its type.
  induction value using Value.byParts with
  | null => exact fun _ _ _ => rfl
  | scalar value hk =>
    intro p path _
    rw [interpret_scalar _ path hk, interpret_scalar _ path hk]
    rfl
  | list items ih =>
    intro p path hp
    rw [interpret, interpret]
    have hitems := interpretItems_rename (fun x hx path => ih x hx p.items path hp) path 0
    exact bind_congr fun _ => hitems
  | record properties ih =>
    intro p path hp
    rw [interpret, interpret]
    symm
    refine Matching.forM_eq (inputElements_rename hs hw hp) fun q q' hq => ?_
    rw [← hq.1, interpretProperty_rename hv hs ih hq.2]

private theorem interpretCall_rename (hw : ctx.IsWellFormed) {key key' : FieldCoordinate}
    (hf : ctx.schema.callable? key = some f) (hg : ctx'.schema.callable? key' = some g)
    (supplied : List (String × Value)) :
    ctx'.interpretCall key' supplied = ctx.interpretCall key supplied := by
  rw [interpretCall, interpretCall, hf, hg]
  have hf := ctx.schema.mem_callables_of_callable? hf
  symm
  refine Matching.forM_eq (argumentElements_rename hs hw hf) fun q q' hq => ?_
  rw [← hq.1, interpretProperty_rename hv hs (fun p _ => interpret_rename hv hs hw p.2) hq.2]

end Interpreted

/-- Two fields, of introspection types both or neither, whose arguments get to the same definitions under
new ids, are validated alike. The types need not be kept apart by the new ids, and the scalar rules may
differ. -/
theorem validateCall_of_carries {index index' : ConstraintIndex} {key key' : FieldCoordinate}
    (hv : ctx'.vocabulary = ctx.vocabulary) (hn : ctx.schema.DistinctNames)
    (hn' : ctx'.schema.DistinctNames) (h : ctx.compile = .ok index) (h' : ctx'.compile = .ok index')
    (hf : ctx.schema.HasField key f) (hg : ctx'.schema.HasField key' g)
    (hi : key'.isIntrospection = key.isIntrospection) (hs : ctx.schema.Carries ctx'.schema ρ f g)
    (supplied : List (String × Value)) :
    index'.validateCall key' supplied = index.validateCall key supplied := by
  obtain ⟨hw, rfl⟩ := compile_eq_ok h
  obtain ⟨-, rfl⟩ := compile_eq_ok h'
  rw [validateCall_compiledIndex, validateCall_compiledIndex]
  cases hk : key.isIntrospection with
  | true =>
    rw [interpretCall, interpretCall, Schema.callable?_eq_none_of_isIntrospection hk,
      Schema.callable?_eq_none_of_isIntrospection (hi.trans hk)]
  | false =>
    have hf := (Schema.callable?_eq_some_iff hn).mpr ⟨hk, hf⟩
    have hg := (Schema.callable?_eq_some_iff hn').mpr ⟨hi.trans hk, hg⟩
    exact interpretCall_rename hv hs hw hf hg supplied

def turned (id : TypeId) : TypeId := ⟨3 - id.number⟩

def turnedField : FieldDefinition :=
  ⟨.named ⟨0⟩, findField.arguments.map (·.rename turned), []⟩

def turnedContext : SchemaContext where
  vocabulary := .standard
  rules := {}
  schema :=
    { types :=
        [Schema.builtinType .string,
          ⟨"Query", .object (.ofList [("lookup", turnedField)]), []⟩,
          ⟨"Node", .inputObject (nodeFields.map (·.rename turned)), []⟩,
          ⟨"Code", .scalar none, [⟨"stringValue", .ofList [("minLength", .int 2)]⟩]⟩,
          ⟨"Colour", .enumeration ["RED"], []⟩]
      names := .ofList
        [("String", ⟨0⟩), ("Query", ⟨1⟩), ("Node", ⟨2⟩), ("Code", ⟨3⟩), ("Colour", ⟨4⟩)]
      length_le := by decide }

private theorem carries_turned :
    nodeContext.schema.Carries turnedContext.schema turned findField turnedField where
  arguments := rfl
  types id t _ ht := by
    have hlt : id.index < 4 := (List.getElem?_eq_some_iff.mp ht).1
    rw [← TypeId.ofIndex_index id] at ht ⊢
    generalize id.index = i at hlt ht ⊢
    interval_cases i <;> cases ht
    · exact ⟨_, rfl, rfl, .scalar none, rfl⟩
    · exact ⟨_, rfl, rfl, .inputObject nodeFields, rfl⟩
    · exact ⟨_, rfl, rfl, .object .., rfl⟩
    · exact ⟨_, rfl, rfl, .scalar (some .string), rfl⟩

set_option maxRecDepth 8000 in
/-- Three codes one node further in are refused under the new ids just as they were. -/
theorem validateCall_of_carries_turned :
    let codes : Value := .list [.string "ab", .string "cd", .string "ef"]
    let supplied : List (String × Value) := [("node", .record [("next", .record [("codes", codes)])])]
    let rejection : Rejection :=
      .constraintViolation [.key "node", .key "next", .key "codes"] .list .maxItems (.int 2) codes
        "list has 3 items, more than maxItems 2"
    ∃ index index', nodeContext.compile = .ok index ∧ turnedContext.compile = .ok index' ∧
      index.validateCall ⟨"Query", "find"⟩ supplied = .error rejection ∧
      index'.validateCall ⟨"Query", "lookup"⟩ supplied =
        index.validateCall ⟨"Query", "find"⟩ supplied := by
  intro codes supplied rejection
  obtain ⟨index, hc⟩ := compile_nodeContext
  obtain ⟨index', hc'⟩ : ∃ index', turnedContext.compile = .ok index' :=
    Sequencing.exists_eq_ok (by cbv)
  have hn : nodeContext.schema.DistinctNames := by decide
  have hn' : turnedContext.schema.DistinctNames := by decide
  have hf : nodeContext.schema.HasField ⟨"Query", "find"⟩ findField :=
    .of_get? (i := ⟨2⟩) rfl rfl rfl rfl
  have hg : turnedContext.schema.HasField ⟨"Query", "lookup"⟩ turnedField :=
    .of_get? (i := ⟨1⟩) rfl rfl rfl rfl
  have hv : turnedContext.vocabulary = nodeContext.vocabulary := rfl
  have hrun : nodeContext.interpretCall ⟨"Query", "find"⟩ supplied = .error rejection := by cbv
  refine ⟨index, index', hc, hc', ?_,
    validateCall_of_carries hv hn hn' hc hc' hf hg rfl carries_turned supplied⟩
  rw [(compile_eq_ok hc).2, validateCall_compiledIndex, hrun]

def probeField : FieldDefinition :=
  ⟨.named ⟨0⟩, .ofList [("x", ⟨.list (.named ⟨0⟩), [⟨"list", .ofList [("maxItems", .int 1)]⟩]⟩)], []⟩

def probeContext : SchemaContext where
  vocabulary := .standard
  rules := {}
  schema :=
    { types :=
        [Schema.builtinType .int,
          ⟨"__Probe", .object (.ofList [("find", probeField)]), []⟩,
          ⟨"Query", .object (.ofList [("find", probeField)]), []⟩]
      names := .ofList [("Int", ⟨0⟩), ("__Probe", ⟨1⟩), ("Query", ⟨2⟩)]
      length_le := by decide }

set_option maxRecDepth 8000 in
/-- Fields with the very same arguments are not validated alike when one of them is of an introspection
type: that one is not validated at all. -/
theorem validateCall_differs_of_introspection :
    let supplied : List (String × Value) := [("x", .list [.int 1, .int 2])]
    ∃ index, probeContext.compile = .ok index ∧ probeContext.schema.DistinctNames ∧
      probeContext.schema.HasField ⟨"__Probe", "find"⟩ probeField ∧
      probeContext.schema.HasField ⟨"Query", "find"⟩ probeField ∧
      Function.Injective (id : TypeId → TypeId) ∧
      probeContext.schema.Carries probeContext.schema id probeField probeField ∧
      index.validateCall ⟨"__Probe", "find"⟩ supplied = .ok () ∧
      index.validateCall ⟨"Query", "find"⟩ supplied =
        .error (.constraintViolation [.key "x"] .list .maxItems (.int 1) (.list [.int 1, .int 2])
          "list has 2 items, more than maxItems 1") := by
  intro supplied
  obtain ⟨index, hc⟩ : ∃ index, probeContext.compile = .ok index := Sequencing.exists_eq_ok (by cbv)
  have hn : probeContext.schema.DistinctNames := by decide
  have hprobe : probeContext.schema.HasField ⟨"__Probe", "find"⟩ probeField :=
    .of_get? (i := ⟨1⟩) rfl rfl rfl rfl
  have hquery : probeContext.schema.HasField ⟨"Query", "find"⟩ probeField :=
    .of_get? (i := ⟨2⟩) rfl rfl rfl rfl
  have hs : probeContext.schema.Carries probeContext.schema id probeField probeField :=
    Schema.carries_id (fun _ _ ht => ht) probeField
  refine ⟨index, hc, hn, hprobe, hquery, Function.injective_id, hs, ?_, ?_⟩
  · rw [(compile_eq_ok hc).2, validateCall_compiledIndex]
    cbv
  · rw [(compile_eq_ok hc).2, validateCall_compiledIndex]
    cbv

end SchemaContext
end ConstraintDirectives
