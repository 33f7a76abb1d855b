import ConstraintDirectives.Proofs.Acceptance
import ConstraintDirectives.Proofs.Pruning

namespace ConstraintDirectives
open ConstraintIndex (Gathered)

namespace ConstraintTree
variable (types : List ConstraintTree)

def isConstrainedIn (t : ConstraintTree) : Bool :=
  t.leadsToDirective (ConstrainedTypes.lookup (ConstrainedTypes.ofTypes types))

/-- A tree without the types, among some, that lead to no directive. -/
def prunedIn (t : ConstraintTree) : ConstraintTree :=
  t.prune (!ConstrainedTypes.lookup (ConstrainedTypes.ofTypes types) ·)

variable {types} {t p : ConstraintTree}

@[simp] theorem directives_prunedIn : (t.prunedIn types).directives = t.directives :=
  directives_prune _ t

private theorem isEmpty_prunedIn : (t.prunedIn types).isEmpty = !t.isConstrainedIn types :=
  isEmpty_prune _ t

private theorem mem_inherits_prunedIn {id : TypeId} : id ∈ (t.prunedIn types).inherits ↔
    id ∈ t.inherits ∧ ConstrainedTypes.lookup (ConstrainedTypes.ofTypes types) id = true := by
  simp [prunedIn, inherits_prune]

private theorem property?_prunedIn (ht : t.Distinct) {name : String} :
    (t.prunedIn types).property? name =
      ((t.property? name).map (·.prunedIn types)).filter (!·.isEmpty) :=
  property?_prune _ ht.properties name

private theorem isConstrainedIn_of_directives (h : t.directives ≠ []) : t.isConstrainedIn types = true :=
  (leadsToDirective_iff _ t).mpr (.inl h)

private theorem isConstrainedIn_of_property? {name : String} (h : t.property? name = some p)
    (hp : p.isConstrainedIn types = true) : t.isConstrainedIn types = true :=
  (leadsToDirective_iff _ t).mpr (.inr (.inr ⟨(name, p), Entries.mem_of_get? h, hp⟩))

private theorem isConstrainedIn_of_inherits {id : TypeId} (h : id ∈ t.inherits)
    (hid : ConstrainedTypes.lookup (ConstrainedTypes.ofTypes types) id = true) :
    t.isConstrainedIn types = true :=
  (leadsToDirective_iff _ t).mpr (.inr (.inl ⟨id, h, hid⟩))

end ConstraintTree

section Pruning
variable {types : List ConstraintTree}
  {arguments : OrderedMap FieldCoordinate (OrderedMap String ConstraintTree)}

private theorem typeTree?_finish (id : TypeId) : (SchemaContext.finish types arguments).typeTree? id =
    (types[id.index]?).map (·.prunedIn types) :=
  List.getElem?_map

structure Force.Prunes (types : List ConstraintTree) (f g : Force) : Prop where
  depth : g.depth = f.depth
  distinct : ∀ t, f.trees t → t.Distinct
  kept : ∀ t, f.trees t → t.isConstrainedIn types = true → g.trees (t.prunedIn types)
  origin : ∀ t', g.trees t' → ∃ t, f.trees t ∧ t' = t.prunedIn types

namespace Force.Prunes

/-- Types that are inherited before pruning are inherited after, if they lead to a directive. -/
theorem gathered (ht : ∀ t ∈ types, t.Distinct) {roots roots' : ConstraintTree → Prop}
    (h : Prunes types ⟨roots, 0⟩ ⟨roots', 0⟩) :
    Prunes types ⟨Gathered ⟨types, arguments⟩ roots, 0⟩
      ⟨Gathered (SchemaContext.finish types arguments) roots', 0⟩ where
  depth := rfl
  distinct t hg := by
    induction hg with
    | root hr => exact h.distinct _ hr
    | inherited _ _ hid _ => exact ht _ (List.mem_of_getElem? hid)
  kept t hg hc := by
    induction hg with
    | root hr => exact .root (h.kept _ hr hc)
    | @inherited t t' id _ hi hid ih =>
      have hknown := ConstrainedTypes.lookup_ofTypes hid hc
      have hfrom := ih (ConstraintTree.isConstrainedIn_of_inherits hi hknown)
      refine .inherited hfrom (ConstraintTree.mem_inherits_prunedIn.mpr ⟨hi, hknown⟩) ?_
      have hid : types[id.index]? = some t' := hid
      rw [typeTree?_finish, hid, Option.map_some]
  origin t' hg := by
    induction hg with
    | root hr =>
      obtain ⟨t, ht, rfl⟩ := h.origin _ hr
      exact ⟨t, .root ht, rfl⟩
    | inherited _ hi hid ih =>
      obtain ⟨t, hg, rfl⟩ := ih
      rw [typeTree?_finish, Option.map_eq_some_iff] at hid
      obtain ⟨u, hu, rfl⟩ := hid
      exact ⟨u, .inherited hg (ConstraintTree.mem_inherits_prunedIn.mp hi).1 hu, rfl⟩

private theorem start (ht : ∀ t ∈ types, t.Distinct) {tree : ConstraintTree} (hd : tree.Distinct) :
    Prunes types (.start ⟨types, arguments⟩ tree)
      (.start (SchemaContext.finish types arguments) (tree.prunedIn types)) := by
  refine gathered ht ⟨rfl, ?_, ?_, ?_⟩
  · rintro t rfl
    exact hd
  · rintro t rfl _
    rfl
  · rintro t' rfl
    exact ⟨tree, rfl, rfl⟩

variable {f g : Force}

private theorem step (ht : ∀ t ∈ types, t.Distinct) (h : Prunes types f g) (s : PathStep) :
    Prunes types (f.step ⟨types, arguments⟩ s)
      (g.step (SchemaContext.finish types arguments) s) := by
  cases s with
  | index i => exact ⟨congrArg (· + 1) h.depth, h.distinct, h.kept, h.origin⟩
  | key name =>
    refine gathered ht ⟨rfl, ?_, ?_, ?_⟩
    · rintro p ⟨t, hf, hp⟩
      exact (h.distinct t hf).property? hp
    · rintro p ⟨t, hf, hp⟩ hc
      have hfrom := h.kept t hf (ConstraintTree.isConstrainedIn_of_property? hp hc)
      refine ⟨t.prunedIn types, hfrom, ?_⟩
      rw [ConstraintTree.property?_prunedIn (h.distinct t hf), hp, Option.map_some,
        Option.filter_some_pos (by simp [ConstraintTree.isEmpty_prunedIn, hc])]
    · rintro p' ⟨t', hg, hp⟩
      obtain ⟨t, hf, rfl⟩ := h.origin t' hg
      rw [ConstraintTree.property?_prunedIn (h.distinct t hf), Option.filter_eq_some_iff,
        Option.map_eq_some_iff] at hp
      obtain ⟨⟨p, hp, rfl⟩, _⟩ := hp
      exact ⟨p, ⟨t, hf, hp⟩, rfl⟩

private theorem along (ht : ∀ t ∈ types, t.Distinct) {tree : ConstraintTree} (hd : tree.Distinct)
    (path : ValuePath) : Prunes types (.along ⟨types, arguments⟩ tree path)
      (.along (SchemaContext.finish types arguments) (tree.prunedIn types) path) :=
  List.foldl_rel (start ht hd) fun s _ _ _ h => h.step ht s

/-- What the trees in force say of directives is the same, if it takes a directive to say it. -/
theorem exists_directives_iff (h : Prunes types f g)
    {P : List (DirectiveKey × List ConstraintSet) → Prop} (hP : ¬ P []) :
    (∃ t, g.trees t ∧ P t.directives) ↔ ∃ t, f.trees t ∧ P t.directives := by
  constructor
  · rintro ⟨t', hg, hp⟩
    obtain ⟨t, hf, rfl⟩ := h.origin t' hg
    rw [ConstraintTree.directives_prunedIn] at hp
    exact ⟨t, hf, hp⟩
  · rintro ⟨t, hf, hp⟩
    have hne : t.directives ≠ [] := fun hnil => hP (hnil ▸ hp)
    refine ⟨t.prunedIn types, h.kept t hf (ConstraintTree.isConstrainedIn_of_directives hne), ?_⟩
    rwa [ConstraintTree.directives_prunedIn]

private theorem demands_iff (h : Prunes types f g) (key : DirectiveKey) (set : ConstraintSet) :
    g.Demands key set ↔ f.Demands key set := by
  rw [Force.demands_iff, Force.demands_iff, Force.levels_eq_of_depth h.depth]
  exact h.exists_directives_iff (P := fun directives =>
    ∃ outer ∈ (Entries.get? directives key).getD [], outer.link (f.levels key) = some set)
    (by simp [Entries.get?])

private theorem hasKey_iff (h : Prunes types f g) (key : DirectiveKey) :
    g.HasKey key ↔ f.HasKey key := by
  rw [Force.hasKey_iff, Force.hasKey_iff, Force.levels_eq_of_depth h.depth]
  split
  · exact h.exists_directives_iff (P := fun directives => (Entries.get? directives key).isSome = true)
      (by simp [Entries.get?])
  · exact exists_congr (h.demands_iff key)

private theorem admits_iff (h : Prunes types f g) (value : Value) :
    g.AdmitsKind value ∧ g.HoldsOf value ↔ f.AdmitsKind value ∧ f.HoldsOf value := by
  simp only [Force.AdmitsKind, Force.HoldsOf, h.demands_iff, h.hasKey_iff]

end Force.Prunes

/-- Pruning all types and a tree never changes what the tree accepts, and a tree of which nothing is left
accepts everything. -/
theorem ConstraintIndex.validate_prunedIn_iff {tree : ConstraintTree}
    (ht : ∀ t ∈ types, t.Distinct) (hd : tree.Distinct) :
    (∀ value, (SchemaContext.finish types arguments).validate (tree.prunedIn types) value = .ok () ↔
      (⟨types, arguments⟩ : ConstraintIndex).validate tree value = .ok ()) ∧
    ((tree.prunedIn types).isEmpty = true →
      ∀ value, (⟨types, arguments⟩ : ConstraintIndex).validate tree value = .ok ()) := by
  have haccepts (value : Value) :
      (SchemaContext.finish types arguments).validate (tree.prunedIn types) value = .ok () ↔
        (⟨types, arguments⟩ : ConstraintIndex).validate tree value = .ok () := by
    rw [validate_ok_iff_parts, validate_ok_iff_parts]
    exact forall_congr' fun path => forall_congr' fun part => imp_congr_right fun _ =>
      (Force.Prunes.along ht hd path).admits_iff part
  refine ⟨haccepts, fun hempty value => (haccepts value).mp ?_⟩
  rw [ConstraintTree.eq_empty hempty, validate,
    Validation.check_void _ (InForce.isVoid_ofTrees_empty _)]
  rfl

end Pruning

def taggedNodes : List ConstraintTree :=
  [⟨[], [("next", ⟨[], [], [⟨0⟩]⟩), ("tags", ⟨[(.list, [[(.maxItems, .int 1)]])], [], []⟩)], [⟨1⟩]⟩,
    ⟨[], [("tags", ⟨[], [("short", .empty)], [⟨1⟩]⟩)], [⟨1⟩, ⟨9⟩]⟩]

set_option maxRecDepth 8000 in
/-- Two tags one node further in are refused before pruning, and so they are after it. -/
theorem ConstraintIndex.validate_prunedIn_iff_of_taggedNodes :
    let tree : ConstraintTree := ⟨[], [("note", ⟨[], [], [⟨1⟩]⟩)], [⟨1⟩, ⟨0⟩]⟩
    let value : Value := .record [("next", .record [("tags", .list [.null, .null])])]
    (∀ t ∈ taggedNodes, t.Distinct) ∧ tree.Distinct ∧
      (tree.prunedIn taggedNodes).properties = [] ∧
      (tree.prunedIn taggedNodes).inherits = [⟨0⟩] ∧
      (⟨taggedNodes, .empty⟩ : ConstraintIndex).validate tree value ≠ .ok () ∧
      (SchemaContext.finish taggedNodes .empty).validate (tree.prunedIn taggedNodes) value ≠
        .ok () := by
  intro tree value
  have ht : ∀ t ∈ taggedNodes, t.Distinct := by
    simp [taggedNodes, Entries.keys, ConstraintTree.empty]
  have hd : tree.Distinct := by simp [tree, Entries.keys]
  have hrefused : (⟨taggedNodes, .empty⟩ : ConstraintIndex).validate tree value =
      .error (.constraintViolation [.key "next", .key "tags"] .list .maxItems (.int 1)
        (.list [.null, .null]) "list has 2 items, more than maxItems 1") := by cbv
  have hne : (⟨taggedNodes, .empty⟩ : ConstraintIndex).validate tree value ≠ .ok () := by
    rw [hrefused]
    intro h
    cases h
  refine ⟨ht, hd, by cbv, by cbv, hne, fun hpruned => hne ?_⟩
  exact ((validate_prunedIn_iff ht hd).1 value).mp hpruned

end ConstraintDirectives
