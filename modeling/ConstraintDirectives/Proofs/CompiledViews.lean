import ConstraintDirectives.Index.Validation
import ConstraintDirectives.Proofs.Compilation
import ConstraintDirectives.Proofs.Inheritance
import ConstraintDirectives.Proofs.Pruning

namespace ConstraintDirectives.SchemaContext
variable (ctx : SchemaContext)

def isConstrained (id : TypeId) : Bool :=
  ConstrainedTypes.lookup (ConstrainedTypes.ofTypes (ctx.schema.ids.map ctx.intrinsicTree)) id

def prunedElement (e : SchemaElement) : ConstraintTree :=
  (ctx.elementTree e).prune (!ctx.isConstrained ·)

def prunedType (id : TypeId) : ConstraintTree := (ctx.intrinsicTree id).prune (!ctx.isConstrained ·)

def kept (es : List (String × SchemaElement)) : List (String × SchemaElement) :=
  es.filter fun p => !(ctx.prunedElement p.2).isEmpty

/-- All that is declared at an element: on itself and, if its type is a scalar, on that. -/
def declarationsAt (e : SchemaElement) : List Declaration :=
  ctx.declarations e ++ ctx.scalarDeclarations e.type.coreType

theorem prunedElement_eq (e : SchemaElement) : ctx.prunedElement e =
    ⟨(ConstraintTree.ofDeclarations (ctx.declarations e)).directives, [],
      if ctx.isConstrained e.type.coreType then [e.type.coreType] else []⟩ := by
  rw [prunedElement, elementTree, ConstraintTree.inheriting, ConstraintTree.prune,
    ConstraintTree.properties_ofDeclarations, ConstraintTree.inherits_ofDeclarations]
  cases h : ctx.isConstrained e.type.coreType <;> simp [ConstraintTree.pruneProperties, h]

theorem isEmpty_prunedElement (e : SchemaElement) : (ctx.prunedElement e).isEmpty = true ↔
    ctx.declarations e = [] ∧ ctx.isConstrained e.type.coreType = false := by
  rw [prunedElement_eq, ConstraintTree.isEmpty]
  cases h : ctx.isConstrained e.type.coreType <;>
    simp [ConstraintTree.directives_ofDeclarations_eq_nil]

theorem prunedElement_eq_empty {e : SchemaElement} (h : (ctx.prunedElement e).isEmpty = true) :
    ctx.prunedElement e = .empty := by
  obtain ⟨hd, hc⟩ := (ctx.isEmpty_prunedElement e).mp h
  rw [prunedElement_eq, hd, hc]
  rfl

theorem prunedType_eq (id : TypeId) : ctx.prunedType id =
    ⟨(ConstraintTree.ofDeclarations (ctx.scalarDeclarations id)).directives,
      (ctx.kept (ctx.inputElements id)).map fun p => (p.1, ctx.prunedElement p.2), []⟩ := by
  have hp : (ctx.elementTrees (ctx.inputElements id)).map
      (fun p => (p.1, p.2.prune (!ctx.isConstrained ·))) =
      (ctx.inputElements id).map fun p => (p.1, ctx.prunedElement p.2) := by
    rw [elementTrees, List.map_map]
    rfl
  rw [prunedType, intrinsicTree, ConstraintTree.prune, ConstraintTree.pruneProperties_eq, hp,
    List.filter_map, List.filter_nil]
  rfl

private theorem leadsToDirective_elementTree (constrained : TypeId → Bool) (e : SchemaElement) :
    (ctx.elementTree e).leadsToDirective constrained = true ↔
      ctx.declarations e ≠ [] ∨ constrained e.type.coreType = true := by
  rw [ConstraintTree.leadsToDirective_iff, elementTree, ConstraintTree.inheriting]
  simp [ConstraintTree.properties_ofDeclarations, ConstraintTree.inherits_ofDeclarations,
    ConstraintTree.directives_ofDeclarations_eq_nil]

theorem leadsToDirective_intrinsicTree (constrained : TypeId → Bool) (id : TypeId) :
    (ctx.intrinsicTree id).leadsToDirective constrained = true ↔ ctx.scalarDeclarations id ≠ [] ∨
      ∃ q ∈ ctx.inputElements id, ctx.declarations q.2 ≠ [] ∨ constrained q.2.type.coreType = true := by
  rw [ConstraintTree.leadsToDirective_iff, intrinsicTree, ne_eq,
    ConstraintTree.directives_ofDeclarations_eq_nil]
  simp [elementTrees, leadsToDirective_elementTree]

/-- A type leads to a directive if there is one on it or on a field, or if the type of a field does. -/
theorem isConstrained_of_leads {id : TypeId} {t : NamedType} (ht : ctx.schema.get? id = some t)
    (h : ctx.scalarDeclarations id ≠ [] ∨ ∃ q ∈ ctx.inputElements id,
      ctx.declarations q.2 ≠ [] ∨ ctx.isConstrained q.2.type.coreType = true) :
    ctx.isConstrained id = true := by
  have htree := ctx.schema.getElem?_map_ids ctx.intrinsicTree id
  rw [ht] at htree
  exact ConstrainedTypes.lookup_ofTypes htree ((ctx.leadsToDirective_intrinsicTree _ id).mpr h)

/-- What does not lead to a directive declares nothing, and nor do its fields. -/
theorem of_not_isConstrained {id : TypeId} (h : ctx.isConstrained id = false) :
    ctx.scalarDeclarations id = [] ∧ ctx.kept (ctx.inputElements id) = [] := by
  cases ht : ctx.schema.get? id with
  | none => simp [scalarDeclarations, inputElements, kept, ht]
  | some t =>
    have hleads := mt (ctx.isConstrained_of_leads ht) (by rw [h]; exact Bool.false_ne_true)
    rw [not_or, not_ne_iff] at hleads
    refine ⟨hleads.1, List.filter_eq_nil_iff.mpr fun q hq => ?_⟩
    have hq : ctx.declarations q.2 = [] ∧ ctx.isConstrained q.2.type.coreType = false := by
      have hno := mt (fun hl => ⟨q, hq, hl⟩) hleads.2
      rwa [not_or, not_ne_iff, Bool.not_eq_true] at hno
    rw [(ctx.isEmpty_prunedElement q.2).mpr hq]
    simp

theorem prunedType_eq_empty {id : TypeId} (h : ctx.isConstrained id = false) :
    ctx.prunedType id = .empty := by
  obtain ⟨hd, hk⟩ := ctx.of_not_isConstrained h
  rw [prunedType_eq, hd, hk]
  rfl

theorem typeTree?_compiledIndex (id : TypeId) :
    ctx.compiledIndex.typeTree? id = (ctx.schema.get? id).map fun _ => ctx.prunedType id := by
  have hm : ctx.compiledIndex.types = ctx.schema.ids.map ctx.prunedType := List.map_map
  rw [ConstraintIndex.typeTree?, hm, Schema.getElem?_map_ids]

theorem typeTree?_of_isConstrained {id : TypeId} (h : ctx.isConstrained id = true) :
    ctx.compiledIndex.typeTree? id = some (ctx.prunedType id) := by
  have hs := ctx.schema.getElem?_map_ids ctx.intrinsicTree id
  rw [List.getElem?_eq_getElem (ConstrainedTypes.lookup_eq_true h)] at hs
  obtain ⟨t, ht, _⟩ := Option.map_eq_some_iff.mp hs.symm
  rw [typeTree?_compiledIndex, ht]
  rfl

/-- The tree of an element and, if it leads to a directive, that of its type. -/
theorem ofTrees_prunedElement (e : SchemaElement) :
    InForce.ofTrees ctx.compiledIndex [ctx.prunedElement e] =
      ⟨ctx.prunedElement e ::
        if ctx.isConstrained e.type.coreType then [ctx.prunedType e.type.coreType] else [],
        none⟩ := by
  have hi : (ctx.prunedElement e).inherits =
      if ctx.isConstrained e.type.coreType then [e.type.coreType] else [] := by
    rw [prunedElement_eq]
  rw [InForce.ofTrees, ConstraintIndex.gather_cons, ConstraintIndex.gather, List.append_nil, hi]
  cases hc : ctx.isConstrained e.type.coreType with
  | false => simp [ConstraintIndex.inherited]
  | true =>
    have hleaf := ConstraintIndex.inherited_leaf (ctx.typeTree?_of_isConstrained hc)
      (by rw [prunedType_eq])
    rw [if_pos rfl, if_pos rfl, hleaf]

section View
variable {ctx} (e : SchemaElement)

/-- What the trees in force at an element bring comes from the element and from its type. -/
theorem flatMap_trees {α : Type} (f : ConstraintTree → List α) (h : f .empty = []) :
    (InForce.ofTrees ctx.compiledIndex [ctx.prunedElement e]).trees.flatMap f =
      f (ctx.prunedElement e) ++ f (ctx.prunedType e.type.coreType) := by
  rw [ofTrees_prunedElement]
  cases hc : ctx.isConstrained e.type.coreType with
  | true => simp
  | false => simp [ctx.prunedType_eq_empty hc, h]

private theorem directives_prunedElement : (ctx.prunedElement e).directives =
    (ConstraintTree.ofDeclarations (ctx.declarations e)).directives := by
  rw [prunedElement_eq]

theorem directives_prunedType (id : TypeId) : (ctx.prunedType id).directives =
    (ConstraintTree.ofDeclarations (ctx.scalarDeclarations id)).directives := by
  rw [prunedType_eq]

theorem sets_prunedElement (key : DirectiveKey) : (ctx.prunedElement e).sets key =
    (Declaration.under key (ctx.declarations e)).filter (!·.isEmpty) := by
  rw [ConstraintTree.sets, directives_prunedElement, ← ConstraintTree.sets_ofDeclarations]
  rfl

theorem sets_prunedType (id : TypeId) (key : DirectiveKey) : (ctx.prunedType id).sets key =
    (Declaration.under key (ctx.scalarDeclarations id)).filter (!·.isEmpty) := by
  rw [ConstraintTree.sets, directives_prunedType, ← ConstraintTree.sets_ofDeclarations]
  rfl

theorem hasKey_prunedElement (key : DirectiveKey) : (ctx.prunedElement e).hasKey key =
    !(Declaration.under key (ctx.declarations e)).isEmpty := by
  rw [ConstraintTree.hasKey, directives_prunedElement, ← ConstraintTree.hasKey_ofDeclarations]
  rfl

theorem hasKey_prunedType (id : TypeId) (key : DirectiveKey) : (ctx.prunedType id).hasKey key =
    !(Declaration.under key (ctx.scalarDeclarations id)).isEmpty := by
  rw [ConstraintTree.hasKey, directives_prunedType, ← ConstraintTree.hasKey_ofDeclarations]
  rfl

/-- The sets in force at an element under a key are the declared ones that are not empty. -/
theorem sets_ofTrees (key : DirectiveKey) :
    (InForce.ofTrees ctx.compiledIndex [ctx.prunedElement e]).sets key =
      (Declaration.under key (ctx.declarationsAt e)).filter (!·.isEmpty) := by
  rw [InForce.sets, flatMap_trees e _ rfl, sets_prunedElement, sets_prunedType, declarationsAt,
    Declaration.under_append, List.filter_append]

theorem hasListKey_ofTrees :
    (InForce.ofTrees ctx.compiledIndex [ctx.prunedElement e]).hasListKey =
      !(Declaration.under .list (ctx.declarationsAt e)).isEmpty := by
  have happ (l m : List ConstraintSet) : (l ++ m).isEmpty = (l.isEmpty && m.isEmpty) := by
    cases l <;> rfl
  rw [declarationsAt, Declaration.under_append, happ, Bool.not_and, ← hasKey_prunedElement,
    ← hasKey_prunedType, ofTrees_prunedElement]
  cases hc : ctx.isConstrained e.type.coreType with
  | true => simp [InForce.hasListKey]
  | false => simp [InForce.hasListKey, ctx.prunedType_eq_empty hc, ConstraintTree.hasKey,
      ConstraintTree.empty, Entries.get?]

/-- Keys other than that of lists, in the order of their declarations. -/
theorem brought_ofTrees :
    ((InForce.ofTrees ctx.compiledIndex [ctx.prunedElement e]).trees.flatMap fun tree =>
      (tree.directives.map (·.1)).filter (· ≠ .list)).eraseDups =
      (((ctx.declarationsAt e).map (·.1)).filter (· ≠ .list)).eraseDups := by
  rw [flatMap_trees e _ rfl, directives_prunedElement, directives_prunedType,
    ConstraintTree.keys_ofDeclarations, ConstraintTree.keys_ofDeclarations, declarationsAt,
    List.map_append, List.filter_append, ← FirstArrival.eraseDups_filter,
    ← FirstArrival.eraseDups_filter, FirstArrival.eraseDups_append_eraseDups]

theorem nodup_inputElements (ctx : SchemaContext) (id : TypeId) :
    (Entries.keys (ctx.inputElements id)).Nodup := by
  rw [inputElements]
  split
  · split
    · next fields _ _ =>
      rw [Entries.keys, List.map_map]
      exact fields.nodup
    · exact List.nodup_nil
  · exact List.nodup_nil

theorem propertyNames_ofTrees :
    (InForce.ofTrees ctx.compiledIndex [ctx.prunedElement e]).propertyNames =
      (ctx.kept (ctx.inputElements e.type.coreType)).map (·.1) := by
  have hown : (ctx.prunedElement e).properties = [] := by rw [prunedElement_eq]
  have htype : (ctx.prunedType e.type.coreType).properties.map (·.1) =
      (ctx.kept (ctx.inputElements e.type.coreType)).map (·.1) := by
    rw [prunedType_eq, List.map_map]
    rfl
  rw [InForce.propertyNames, flatMap_trees e _ rfl, hown, htype]
  exact FirstArrival.eraseDups_of_nodup
    ((ctx.nodup_inputElements _).sublist (List.filter_sublist.map _))

theorem property_ofTrees {p : String × SchemaElement}
    (hp : p ∈ ctx.kept (ctx.inputElements e.type.coreType)) :
    (InForce.ofTrees ctx.compiledIndex [ctx.prunedElement e]).property ctx.compiledIndex p.1 =
      InForce.ofTrees ctx.compiledIndex [ctx.prunedElement p.2] := by
  have hown : (ctx.prunedElement e).property? p.1 = none := by
    rw [prunedElement_eq]
    rfl
  have htype : (ctx.prunedType e.type.coreType).property? p.1 = some (ctx.prunedElement p.2) := by
    rw [prunedType_eq]
    refine Entries.get?_of_mem ?_ (List.mem_map_of_mem hp)
    rw [Entries.keys, List.map_map]
    exact (ctx.nodup_inputElements _).sublist (List.filter_sublist.map _)
  rw [InForce.property, ofTrees_prunedElement]
  cases hc : ctx.isConstrained e.type.coreType with
  | true => simp [hown, htype]
  | false =>
    rw [(ctx.of_not_isConstrained hc).2] at hp
    cases hp

end View

def prunedCall (ctx : SchemaContext) (key : FieldCoordinate) (f : FieldDefinition) :
    OrderedMap String ConstraintTree :=
  ((OrderedMap.ofList (ctx.elementTrees (argumentElements key f))).map
    (·.prune (!ctx.isConstrained ·))).filter (!·.isEmpty)

theorem fieldTrees?_compiledIndex (ctx : SchemaContext) (key : FieldCoordinate) :
    ctx.compiledIndex.fieldTrees? key =
      ((ctx.schema.callable? key).map (ctx.prunedCall key)).filter (!·.isEmpty) := by
  have hg : (OrderedMap.ofList (ctx.schema.callables.map ctx.callTrees)).get? key =
      (ctx.schema.callable? key).map fun f => .ofList (ctx.elementTrees (argumentElements key f)) := by
    rw [OrderedMap.get?_ofList, ← List.map_reverse]
    exact Entries.get?_map (fun key f => OrderedMap.ofList (ctx.elementTrees (argumentElements key f))) _ key
  refine (OrderedMap.get?_filter _ _ key).trans ?_
  rw [OrderedMap.get?_map, hg, Option.map_map]
  rfl

theorem entries_prunedCall (ctx : SchemaContext) (key : FieldCoordinate) (f : FieldDefinition) :
    (ctx.prunedCall key f).entries =
      (ctx.kept (argumentElements key f)).map fun q => (q.1, ctx.prunedElement q.2) := by
  have hn : (Entries.keys (ctx.elementTrees (argumentElements key f))).Nodup := by
    rw [elementTrees, argumentElements, Entries.keys, List.map_map, List.map_map]
    exact f.arguments.nodup
  change ((OrderedMap.ofList (ctx.elementTrees (argumentElements key f))).entries.map fun p =>
    (p.1, p.2.prune (!ctx.isConstrained ·))).filter (fun p => !p.2.isEmpty) = _
  rw [OrderedMap.entries_ofList hn, elementTrees, List.map_map, List.filter_map]
  rfl

end ConstraintDirectives.SchemaContext
