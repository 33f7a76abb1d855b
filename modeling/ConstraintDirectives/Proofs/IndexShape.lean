import ConstraintDirectives.Proofs.Conformance
import ConstraintDirectives.Proofs.Interpretation
import ConstraintDirectives.Proofs.Merging

namespace ConstraintDirectives

inductive ConstraintIndex.Holds (index : ConstraintIndex) : ConstraintTree → Prop where
  | type {t : ConstraintTree} : t ∈ index.types → Holds index t
  | argument {call : FieldCoordinate × OrderedMap String ConstraintTree}
      {p : String × ConstraintTree} : call ∈ index.arguments.entries → p ∈ call.2.entries →
      Holds index p.2
  | property {t : ConstraintTree} {p : String × ConstraintTree} : Holds index t →
      p ∈ t.properties → Holds index p.2

namespace ConstraintTree

/-- The tree of an argument or an input field: list directives only on lists, each as deep as the lists
are declared. The properties are those of the type. -/
structure SuitsPosition (t : ConstraintTree) (type : WrappedType) : Prop where
  properties : t.properties = []
  list : t.hasKey .list = true → 0 < type.listDepth
  depth : ∀ set ∈ t.sets .list, set.listDepth = type.listDepth

/-- The tree of a named type: a scalar constrains its values, an input object its fields, and others
nothing. -/
def SuitsDefinition (t : ConstraintTree) : TypeDefinition → Prop
  | .scalar _ => t.hasKey .list = false ∧ t.properties = []
  | .inputObject fields => t.directives = [] ∧
      ∀ p ∈ t.properties, ∃ f, (p.1, f) ∈ fields.entries ∧ p.2.SuitsPosition f.type
  | .object _ | .enumeration _ | .placeholder => t = .empty

end ConstraintTree

/-- What an index promises to those who validate by it: every tree is that of something declared, and
holds no constraint that could not have been declared there. -/
structure ConstraintIndex.IsWellFormed (index : ConstraintIndex) (s : Schema) : Prop where
  length : index.types.length = s.size
  types : ∀ id t, s.get? id = some t →
    ∃ tree, index.typeTree? id = some tree ∧ tree.SuitsDefinition t.definition
  arguments : ∀ call ∈ index.arguments.entries, ∃ f, s.callable? call.1 = some f ∧
    ∀ p ∈ call.2.entries, ∃ a, (p.1, a) ∈ f.arguments.entries ∧ p.2.SuitsPosition a.type
  distinct : ∀ tree, index.Holds tree → tree.Distinct
  sets : ∀ tree, index.Holds tree → ∀ key, ∀ set ∈ tree.sets key,
    set ≠ [] ∧ Vocabulary.Allows key set
  inherits : ∀ tree, index.Holds tree → ∀ id ∈ tree.inherits,
    ∃ t, index.typeTree? id = some t ∧ t.isEmpty = false

namespace SchemaContext
variable {ctx : SchemaContext}

section Trees
variable (ctx)

private theorem types_compiledIndex : ctx.compiledIndex.types = ctx.schema.ids.map ctx.prunedType :=
  List.map_map

/-- The constrained arguments of a field, in an entry of the index. -/
theorem exists_call_of_mem {call : FieldCoordinate × OrderedMap String ConstraintTree}
    (h : call ∈ ctx.compiledIndex.arguments.entries) :
    ∃ f, ctx.schema.callable? call.1 = some f ∧ call.2 = ctx.prunedCall call.1 f := by
  have hg : ctx.compiledIndex.fieldTrees? call.1 = some call.2 :=
    Entries.get?_of_mem ctx.compiledIndex.arguments.nodup h
  rw [fieldTrees?_compiledIndex, Option.filter_eq_some_iff, Option.map_eq_some_iff] at hg
  obtain ⟨⟨f, hf, he⟩, _⟩ := hg
  exact ⟨f, hf, he.symm⟩

/-- Every tree of the index is that of an element or that of a type. -/
theorem eq_pruned_of_holds {tree : ConstraintTree} (h : ctx.compiledIndex.Holds tree) :
    (∃ e, tree = ctx.prunedElement e) ∨ ∃ id, tree = ctx.prunedType id := by
  induction h with
  | type ht =>
    rw [types_compiledIndex] at ht
    obtain ⟨id, _, rfl⟩ := List.mem_map.mp ht
    exact .inr ⟨id, rfl⟩
  | argument hc hp =>
    obtain ⟨f, _, he⟩ := ctx.exists_call_of_mem hc
    rw [he, entries_prunedCall] at hp
    obtain ⟨q, _, rfl⟩ := List.mem_map.mp hp
    exact .inl ⟨q.2, rfl⟩
  | property _ hp ih =>
    rcases ih with ⟨e, rfl⟩ | ⟨id, rfl⟩
    · rw [prunedElement_eq] at hp
      cases hp
    · rw [prunedType_eq] at hp
      obtain ⟨q, _, rfl⟩ := List.mem_map.mp hp
      exact .inl ⟨q.2, rfl⟩

private theorem distinct_elementTree (e : SchemaElement) : (ctx.elementTree e).Distinct :=
  (ConstraintTree.distinct_ofDeclarations _).inheriting _

private theorem distinct_intrinsicTree (id : TypeId) : (ctx.intrinsicTree id).Distinct := by
  refine .intro (ConstraintTree.distinct_ofDeclarations _).directives ?_ ?_
  · rw [intrinsicTree, elementTrees, Entries.keys, List.map_map]
    exact ctx.nodup_inputElements id
  · intro p hp
    obtain ⟨q, _, rfl⟩ := List.mem_map.mp hp
    exact ctx.distinct_elementTree q.2

/-- A constrained type constrains something. -/
theorem isEmpty_prunedType {id : TypeId} (h : ctx.isConstrained id = true) :
    (ctx.prunedType id).isEmpty = false := by
  obtain ⟨tree, ht, hl⟩ := (ConstrainedTypes.lookup_ofTypes_iff _ id).mp h
  rw [Schema.getElem?_map_ids, Option.map_eq_some_iff] at ht
  obtain ⟨_, _, rfl⟩ := ht
  rw [prunedType, ConstraintTree.isEmpty_prune, Bool.not_eq_false']
  exact hl

end Trees

/-- What is declared on a legal argument or input field suits it. -/
theorem suitsPosition_prunedElement {e : SchemaElement} (hl : ctx.IsLegal e) {type : WrappedType}
    (he : e.type = .declared type) : (ctx.prunedElement e).SuitsPosition type := by
  have hdepth : e.type.listDepth = type.listDepth := by rw [he]; rfl
  have hfits {set : ConstraintSet} (hm : set ∈ Declaration.under .list (ctx.declarations e)) :
      type.listDepth ≠ 0 ∧ set.listDepth = type.listDepth := by
    rw [← hdepth]
    exact checkFits_list (checkFits_of_mem hl (Declaration.mem_under.mp hm))
  refine ⟨by rw [prunedElement_eq], fun hk => ?_, fun set hset => ?_⟩
  · rw [hasKey_prunedElement, Bool.not_eq_true', List.isEmpty_eq_false_iff] at hk
    obtain ⟨set, hm⟩ := List.exists_mem_of_ne_nil _ hk
    exact Nat.pos_of_ne_zero (hfits hm).1
  · rw [sets_prunedElement] at hset
    exact (hfits (List.mem_filter.mp hset).1).2

/-- A legal type has a tree that suits its definition. -/
theorem suitsDefinition_prunedType {id : TypeId} {t : NamedType} (hl : ctx.IsLegalType id)
    (ht : ctx.schema.get? id = some t) : (ctx.prunedType id).SuitsDefinition t.definition := by
  have hlist : (ctx.prunedType id).hasKey .list = false := by
    rw [hasKey_prunedType, Bool.not_eq_false', List.isEmpty_iff, List.eq_nil_iff_forall_not_mem]
    intro set hm
    obtain ⟨_, hfits⟩ := checkFits_of_mem_scalarDeclarations hl (Declaration.mem_under.mp hm)
    exact (checkFits_list hfits).1 rfl
  cases hdef : t.definition with
  | scalar builtin =>
    have hnone : ctx.inputElements id = [] := by simp [inputElements, ht, hdef]
    refine ⟨hlist, ?_⟩
    rw [prunedType_eq, hnone]
    rfl
  | inputObject fields =>
    have hnone : ctx.scalarDeclarations id = [] := by simp [scalarDeclarations, ht, hdef]
    refine ⟨?_, fun p hp => ?_⟩
    · rw [directives_prunedType, hnone]
      rfl
    · rw [prunedType_eq] at hp
      obtain ⟨q, hq, rfl⟩ := List.mem_map.mp hp
      have hq := (List.mem_filter.mp hq).1
      have hsound := isSound_of_mem_inputElements hl hq
      obtain ⟨f, hf, he⟩ := mem_inputElements ht hdef hq
      rw [he] at hsound ⊢
      exact ⟨f, hf, suitsPosition_prunedElement hsound.1 rfl⟩
  | object | enumeration | placeholder =>
    have hscalar : ctx.scalarDeclarations id = [] := by simp [scalarDeclarations, ht, hdef]
    have hinput : ctx.inputElements id = [] := by simp [inputElements, ht, hdef]
    change ctx.prunedType id = .empty
    rw [prunedType_eq, hscalar, hinput]
    rfl

/-- The constrained arguments of a field are arguments of it, each with a tree that suits it. -/
theorem suitsPosition_of_mem_prunedCall (hw : ctx.IsWellFormed) {key : FieldCoordinate}
    {f : FieldDefinition} (hf : ctx.schema.callable? key = some f) {p : String × ConstraintTree}
    (hp : p ∈ (ctx.prunedCall key f).entries) :
    ∃ a, (p.1, a) ∈ f.arguments.entries ∧ p.2.SuitsPosition a.type := by
  rw [entries_prunedCall] at hp
  obtain ⟨q, hq, rfl⟩ := List.mem_map.mp hp
  have hq := (List.mem_filter.mp hq).1
  have hsound := hw.arguments _ (ctx.schema.mem_callables_of_callable? hf) q hq
  obtain ⟨a, ha, rfl⟩ := List.mem_map.mp hq
  exact ⟨a.2, ha, suitsPosition_prunedElement hsound.1 rfl⟩

/-- The sets of the index are declared ones, those that are empty left out. -/
theorem exists_declarations_of_mem_sets {tree : ConstraintTree} (ht : ctx.compiledIndex.Holds tree)
    {key : DirectiveKey} {set : ConstraintSet} (hset : set ∈ tree.sets key) :
    set ≠ [] ∧ ∃ e, (key, set) ∈ ctx.declarations e := by
  rcases ctx.eq_pruned_of_holds ht with ⟨e, rfl⟩ | ⟨id, rfl⟩
  · rw [sets_prunedElement, List.mem_filter, Bool.not_eq_true'] at hset
    exact ⟨List.isEmpty_eq_false_iff.mp hset.2, e, Declaration.mem_under.mp hset.1⟩
  · rw [sets_prunedType, List.mem_filter, Bool.not_eq_true'] at hset
    obtain ⟨t, _, _, _, _, hd⟩ :=
      exists_of_mem_scalarDeclarations (Declaration.mem_under.mp hset.1)
    exact ⟨List.isEmpty_eq_false_iff.mp hset.2, _, hd⟩

/-- What pruning leaves of the inherited types constrains something. -/
theorem isConstrained_of_mem_inherits {tree : ConstraintTree} (ht : ctx.compiledIndex.Holds tree)
    {id : TypeId} (hid : id ∈ tree.inherits) : ctx.isConstrained id = true := by
  rcases ctx.eq_pruned_of_holds ht with ⟨e, rfl⟩ | ⟨id', rfl⟩
  · rw [prunedElement_eq] at hid
    split at hid
    · next hc => rwa [List.mem_singleton.mp hid]
    · cases hid
  · rw [prunedType_eq] at hid
    cases hid

/-- With the standard directives, an index that a schema compiles to is well formed. -/
theorem isWellFormed_of_compile {index : ConstraintIndex} (hv : ctx.vocabulary = .standard)
    (h : ctx.compile = .ok index) : index.IsWellFormed ctx.schema := by
  obtain ⟨hw, rfl⟩ := compile_eq_ok h
  constructor
  case length =>
    rw [types_compiledIndex, List.length_map]
    simp [Schema.ids]
  case types =>
    intro id t ht
    have hsuits := suitsDefinition_prunedType (hw.types id (ctx.schema.mem_ids ht)) ht
    refine ⟨ctx.prunedType id, ?_, hsuits⟩
    rw [typeTree?_compiledIndex, ht]
    rfl
  case arguments =>
    intro call hcall
    obtain ⟨f, hf, he⟩ := ctx.exists_call_of_mem hcall
    refine ⟨f, hf, fun p hp => ?_⟩
    rw [he] at hp
    exact suitsPosition_of_mem_prunedCall hw hf hp
  case distinct =>
    intro tree ht
    rcases ctx.eq_pruned_of_holds ht with ⟨e, rfl⟩ | ⟨id, rfl⟩
    · exact (ctx.distinct_elementTree e).prune _
    · exact (ctx.distinct_intrinsicTree id).prune _
  case sets =>
    intro tree ht key set hset
    obtain ⟨hne, e, hd⟩ := exists_declarations_of_mem_sets ht hset
    exact ⟨hne, Vocabulary.allows_of_mem_declarations hv hd⟩
  case inherits =>
    intro tree ht id hid
    have hc := isConstrained_of_mem_inherits ht hid
    exact ⟨_, ctx.typeTree?_of_isConstrained hc, ctx.isEmpty_prunedType hc⟩

/-- In the index of nodes that hold nodes, the fields of a node have trees that suit them. -/
theorem isWellFormed_of_compile_nodeContext : nodeContext.vocabulary = .standard ∧
    ∃ index, nodeContext.compile = .ok index ∧ index.IsWellFormed nodeContext.schema ∧
      ∃ tree, index.typeTree? ⟨1⟩ = some tree ∧ tree.SuitsDefinition (.inputObject nodeFields) := by
  obtain ⟨index, hc⟩ := compile_nodeContext
  have hw : index.IsWellFormed nodeContext.schema := isWellFormed_of_compile rfl hc
  exact ⟨rfl, index, hc, hw, hw.types ⟨1⟩ ⟨"Node", .inputObject nodeFields, []⟩ rfl⟩

end SchemaContext
end ConstraintDirectives
