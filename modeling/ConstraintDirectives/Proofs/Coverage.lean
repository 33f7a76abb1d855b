import ConstraintDirectives.Proofs.CompilationFaults
import ConstraintDirectives.Proofs.FieldNames
import ConstraintDirectives.Proofs.IndexShape

/-! A compiled index constrains exactly the types and arguments from which a directive can be reached.
-/
namespace ConstraintDirectives

/-- Some directive of the vocabulary is applied, with or without arguments. -/
def Vocabulary.OccursIn (v : Vocabulary) (directives : List AppliedDirective) : Prop :=
  ∃ applied ∈ directives, (v.find? applied.name).isSome = true

def ConstraintIndex.ConstrainsType (index : ConstraintIndex) (id : TypeId) : Prop :=
  ∃ tree, index.typeTree? id = some tree ∧ tree.isEmpty = false

namespace SchemaContext
variable (ctx : SchemaContext)

/-- The types from which a directive is reached: scalars with one, and input objects with one on a field
or behind it. -/
inductive Constrains : TypeId → Prop where
  | scalar {id : TypeId} {t : NamedType} {builtin : Option BuiltinScalar} :
      ctx.schema.get? id = some t → t.isIntrospection = false → t.definition = .scalar builtin →
      ctx.vocabulary.OccursIn t.directives → Constrains id
  | field {id : TypeId} {t : NamedType} {fields : OrderedMap String InputDefinition}
      {p : String × InputDefinition} :
      ctx.schema.get? id = some t → t.isIntrospection = false → t.definition = .inputObject fields →
      p ∈ fields.entries → ctx.vocabulary.OccursIn p.2.directives → Constrains id
  | behind {id : TypeId} {t : NamedType} {fields : OrderedMap String InputDefinition}
      {p : String × InputDefinition} :
      ctx.schema.get? id = some t → t.isIntrospection = false → t.definition = .inputObject fields →
      p ∈ fields.entries → Constrains p.2.type.coreType → Constrains id

/-- What an index promises not to leave out, and not to hold on to. -/
structure Covers (index : ConstraintIndex) : Prop where
  types : ∀ id, index.ConstrainsType id ↔ ctx.Constrains id
  arguments : ∀ key name, (index.argumentTree? key name).isSome = true ↔
    key.isIntrospection = false ∧ ∃ f a, ctx.schema.HasField key f ∧ f.arguments.get? name = some a ∧
      (ctx.vocabulary.OccursIn a.directives ∨ index.ConstrainsType a.type.coreType)
  order : ∀ key trees, index.fieldTrees? key = some trees → trees.isEmpty = false ∧
    ∃ f, ctx.schema.HasField key f ∧
      trees.keys = f.arguments.keys.filter fun name => (index.argumentTree? key name).isSome
  properties : ∀ tree, index.Holds tree → ∀ p ∈ tree.properties, p.2.isEmpty = false

variable {ctx}

theorem declarations_ne_nil_iff {e : SchemaElement} (hl : ctx.IsLegal e) :
    ctx.declarations e ≠ [] ↔ ctx.vocabulary.OccursIn e.directives := by
  rw [ne_eq, declarations_eq_nil_iff hl]
  simp [Vocabulary.OccursIn, Option.isSome_iff_ne_none]

section Types
variable {id : TypeId}

private theorem constrains_of_isConstrained (hw : ctx.IsWellFormed) (h : ctx.isConstrained id = true) :
    ctx.Constrains id := by
  classical
  suffices decide (ctx.Constrains id) = true from of_decide_eq_true this
  refine ConstrainedTypes.lookup_ofTypes_least (fun id tree htree hl => decide_eq_true ?_) h
  rw [Schema.getElem?_map_ids, Option.map_eq_some_iff] at htree
  obtain ⟨_, _, rfl⟩ := htree
  rcases (ctx.leadsToDirective_intrinsicTree _ id).mp hl with hne | ⟨q, hq, hlead⟩
  · obtain ⟨d, hd⟩ := List.exists_mem_of_ne_nil _ hne
    obtain ⟨t, builtin, ht, hi, hdef, hd⟩ := exists_of_mem_scalarDeclarations hd
    have hlegal := (hw.isLegal_of_hasElement (.scalar ht hi hdef)).1
    exact .scalar ht hi hdef ((declarations_ne_nil_iff hlegal).mp (List.ne_nil_of_mem hd))
  · obtain ⟨t, fields, ht, hi, hdef, p, hp, rfl⟩ := mem_inputElements_iff.mp hq
    rcases hlead with hne | hc
    · have hlegal := (hw.isLegal_of_hasElement (.inputField ht hi hdef hp)).1
      exact .field ht hi hdef hp ((declarations_ne_nil_iff hlegal).mp hne)
    · exact .behind ht hi hdef hp (of_decide_eq_true hc)

private theorem isConstrained_of_constrains (hw : ctx.IsWellFormed) (h : ctx.Constrains id) :
    ctx.isConstrained id = true := by
  induction h with
  | scalar ht hi hdef hd =>
    have hlegal := (hw.isLegal_of_hasElement (.scalar ht hi hdef)).1
    have hne := (declarations_ne_nil_iff hlegal).mpr hd
    refine ctx.isConstrained_of_leads ht (.inl ?_)
    simpa [scalarDeclarations, ht, hi, hdef] using hne
  | field ht hi hdef hp hd =>
    have hlegal := (hw.isLegal_of_hasElement (.inputField ht hi hdef hp)).1
    have hq := mem_inputElements_iff.mpr ⟨_, _, ht, hi, hdef, _, hp, rfl⟩
    exact ctx.isConstrained_of_leads ht
      (.inr ⟨_, hq, .inl ((declarations_ne_nil_iff hlegal).mpr hd)⟩)
  | behind ht hi hdef hp _ ih =>
    have hq := mem_inputElements_iff.mpr ⟨_, _, ht, hi, hdef, _, hp, rfl⟩
    exact ctx.isConstrained_of_leads ht (.inr ⟨_, hq, .inr ih⟩)

theorem isConstrained_iff (hw : ctx.IsWellFormed) : ctx.isConstrained id = true ↔ ctx.Constrains id :=
  ⟨constrains_of_isConstrained hw, isConstrained_of_constrains hw⟩

theorem constrainsType_iff (ctx : SchemaContext) (id : TypeId) :
    ctx.compiledIndex.ConstrainsType id ↔ ctx.isConstrained id = true := by
  constructor
  · rintro ⟨tree, ht, he⟩
    rw [typeTree?_compiledIndex, Option.map_eq_some_iff] at ht
    obtain ⟨_, _, rfl⟩ := ht
    by_contra hc
    rw [ctx.prunedType_eq_empty (Bool.not_eq_true _ ▸ hc)] at he
    cases he
  · exact fun hc => ⟨_, ctx.typeTree?_of_isConstrained hc, ctx.isEmpty_prunedType hc⟩

end Types

section Calls
variable {key : FieldCoordinate} {f : FieldDefinition}

private theorem argumentTree?_compiledIndex (ctx : SchemaContext) (key : FieldCoordinate)
    (name : String) : ctx.compiledIndex.argumentTree? key name =
      (ctx.schema.callable? key).bind fun f => (ctx.prunedCall key f).get? name := by
  rw [ConstraintIndex.argumentTree?, fieldTrees?_compiledIndex]
  cases ctx.schema.callable? key with
  | none => rfl
  | some f =>
    rw [Option.map_some, Option.bind_some]
    cases he : (ctx.prunedCall key f).isEmpty with
    | true =>
      have hnil : (ctx.prunedCall key f).entries = [] := List.isEmpty_iff.mp he
      rw [Option.filter_some_neg (by simp [he]), OrderedMap.get?, hnil]
      rfl
    | false => rw [Option.filter_some_pos (by simp [he]), Option.bind_some]

/-- An argument is left in if something is declared on it or its type leads to a directive. -/
theorem isSome_get?_prunedCall (hw : ctx.IsWellFormed) (hf : (key, f) ∈ ctx.schema.callables)
    (name : String) : ((ctx.prunedCall key f).get? name).isSome = true ↔
      ∃ a, f.arguments.get? name = some a ∧
        (ctx.vocabulary.OccursIn a.directives ∨ ctx.isConstrained a.type.coreType = true) := by
  have hleft (a : InputDefinition) (ha : (name, a) ∈ f.arguments.entries) :
      (ctx.prunedElement (argumentElement key name a)).isEmpty = false ↔
        ctx.vocabulary.OccursIn a.directives ∨ ctx.isConstrained a.type.coreType = true := by
    have hsound := hw.arguments _ hf _ (List.mem_map_of_mem ha)
    rw [← Bool.not_eq_true, isEmpty_prunedElement, not_and_or, Bool.not_eq_false]
    exact or_congr_left (declarations_ne_nil_iff hsound.1)
  rw [OrderedMap.get?, ← Entries.mem_keys_iff, entries_prunedCall, Entries.keys, List.map_map,
    List.mem_map]
  constructor
  · rintro ⟨q, hq, rfl⟩
    obtain ⟨hq, he⟩ := List.mem_filter.mp hq
    obtain ⟨p, hp, rfl⟩ := List.mem_map.mp hq
    exact ⟨p.2, Entries.get?_of_mem f.arguments.nodup hp, (hleft p.2 hp).mp (by simpa using he)⟩
  · rintro ⟨a, ha, hc⟩
    have hmem := Entries.mem_of_get? ha
    have hq : (name, argumentElement key name a) ∈ argumentElements key f :=
      List.mem_map.mpr ⟨_, hmem, rfl⟩
    exact ⟨_, List.mem_filter.mpr ⟨hq, by simpa using (hleft a hmem).mpr hc⟩, rfl⟩

/-- What is left of the arguments keeps the order of their declaration. -/
theorem keys_prunedCall (ctx : SchemaContext) (key : FieldCoordinate) (f : FieldDefinition) :
    (ctx.prunedCall key f).keys =
      f.arguments.keys.filter fun name => ((ctx.prunedCall key f).get? name).isSome := by
  have hsub : (ctx.prunedCall key f).keys.Sublist f.arguments.keys := by
    have hall : (argumentElements key f).map (·.1) = f.arguments.keys := List.map_map
    rw [OrderedMap.keys, entries_prunedCall, Entries.keys, List.map_map, ← hall]
    exact List.filter_sublist.map _
  rw [← FirstArrival.filter_mem_of_sublist hsub f.arguments.nodup]
  refine List.filter_congr fun name _ => ?_
  rw [Bool.eq_iff_iff, decide_eq_true_iff]
  exact Entries.mem_keys_iff _ name

end Calls

/-- Every property in the index leads to a directive. -/
theorem isEmpty_of_mem_properties {tree : ConstraintTree} (ht : ctx.compiledIndex.Holds tree)
    {p : String × ConstraintTree} (hp : p ∈ tree.properties) : p.2.isEmpty = false := by
  rcases ctx.eq_pruned_of_holds ht with ⟨e, rfl⟩ | ⟨id, rfl⟩
  · rw [prunedElement_eq] at hp
    cases hp
  · rw [prunedType_eq] at hp
    obtain ⟨q, hq, rfl⟩ := List.mem_map.mp hp
    simpa using (List.mem_filter.mp hq).2

/-- A schema with distinct type names compiles to an index that holds the constraints from which a
directive is reached, and no others. -/
theorem covers_of_compile {index : ConstraintIndex} (hn : ctx.schema.DistinctNames)
    (h : ctx.compile = .ok index) : ctx.Covers index := by
  obtain ⟨hw, rfl⟩ := compile_eq_ok h
  constructor
  case types => exact fun id => (ctx.constrainsType_iff id).trans (isConstrained_iff hw)
  case arguments =>
    intro key name
    rw [argumentTree?_compiledIndex, Option.isSome_bind]
    simp only [constrainsType_iff]
    constructor
    · intro hs
      obtain ⟨f, hf, hs⟩ := (Option.any_eq_true _ _).mp hs
      obtain ⟨hi, hfield⟩ := (Schema.callable?_eq_some_iff hn).mp hf
      have hmem := ctx.schema.mem_callables_of_callable? hf
      obtain ⟨a, ha, hc⟩ := (isSome_get?_prunedCall hw hmem name).mp hs
      exact ⟨hi, f, a, hfield, ha, hc⟩
    · rintro ⟨hi, f, a, hfield, ha, hc⟩
      have hf := (Schema.callable?_eq_some_iff hn).mpr ⟨hi, hfield⟩
      have hmem := ctx.schema.mem_callables_of_callable? hf
      rw [hf]
      exact (isSome_get?_prunedCall hw hmem name).mpr ⟨a, ha, hc⟩
  case order =>
    intro key trees ht
    rw [fieldTrees?_compiledIndex, Option.filter_eq_some_iff, Option.map_eq_some_iff] at ht
    obtain ⟨⟨f, hf, rfl⟩, he⟩ := ht
    refine ⟨by simpa using he, f, ((Schema.callable?_eq_some_iff hn).mp hf).2, ?_⟩
    rw [keys_prunedCall]
    simp only [argumentTree?_compiledIndex, hf, Option.bind_some]
  case properties => exact fun tree ht p hp => isEmpty_of_mem_properties ht hp

/-- Nodes are constrained, if only by the codes in them. Texts as such are not. -/
theorem covers_of_compile_nodeContext : nodeContext.schema.DistinctNames ∧
    ∃ index, nodeContext.compile = .ok index ∧ nodeContext.Covers index ∧
      index.ConstrainsType ⟨1⟩ ∧ ¬ index.ConstrainsType ⟨3⟩ := by
  have hn : nodeContext.schema.DistinctNames := by decide
  obtain ⟨index, hc⟩ := compile_nodeContext
  have hcovers : nodeContext.Covers index := covers_of_compile hn hc
  have hcode : nodeContext.Constrains ⟨0⟩ :=
    .scalar rfl rfl rfl ⟨_, List.mem_singleton_self _, rfl⟩
  have hnode : nodeContext.Constrains ⟨1⟩ := by
    have hcodes : nodeFields.get? "codes" =
        some ⟨.list (.named ⟨0⟩), [⟨"list", .ofList [("maxItems", .int 2)]⟩]⟩ := rfl
    exact .behind rfl rfl rfl (Entries.mem_of_get? hcodes) hcode
  refine ⟨hn, index, hc, hcovers, (hcovers.types _).mpr hnode, fun h => ?_⟩
  cases (hcovers.types _).mp h with
  | scalar ht _ _ hd =>
    cases ht
    obtain ⟨_, ha, _⟩ := hd
    cases ha
  | field ht _ hdef | behind ht _ hdef =>
    cases ht
    cases hdef

end SchemaContext
end ConstraintDirectives
