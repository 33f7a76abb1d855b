import ConstraintDirectives.Index.Basic
import ConstraintDirectives.Proofs.DistinctTrees

/-! The search for constrained types reaches a fixed point: those that lead to a directive, by
themselves or through others. -/
namespace ConstraintDirectives

namespace ConstraintTree

private theorem propertiesLeadToDirective_eq (constrained : TypeId → Bool)
    (properties : List (String × ConstraintTree)) :
    propertiesLeadToDirective constrained properties =
      properties.any (·.2.leadsToDirective constrained) := by
  induction properties with
  | nil => rfl
  | cons p properties ih =>
    obtain ⟨name, t⟩ := p
    rw [propertiesLeadToDirective, List.any_cons, ih]

theorem leadsToDirective_iff (constrained : TypeId → Bool) (t : ConstraintTree) :
    t.leadsToDirective constrained = true ↔ t.directives ≠ [] ∨
      (∃ id ∈ t.inherits, constrained id = true) ∨
      ∃ p ∈ t.properties, p.2.leadsToDirective constrained = true := by
  cases t
  simp only [leadsToDirective, propertiesLeadToDirective_eq, Bool.or_eq_true, Bool.not_eq_true',
    List.isEmpty_eq_false_iff, List.any_eq_true, or_assoc]

private theorem leadsToDirective_mono {known later : TypeId → Bool}
    (h : ∀ id, known id = true → later id = true) {t : ConstraintTree}
    (ht : t.leadsToDirective known = true) : t.leadsToDirective later = true := by
  induction t using byProperties with
  | tree t ih =>
    rw [leadsToDirective_iff] at ht ⊢
    rcases ht with hd | ⟨id, hid, hk⟩ | ⟨p, hp, hl⟩
    · exact .inl hd
    · exact .inr (.inl ⟨id, hid, h id hk⟩)
    · exact .inr (.inr ⟨p, hp, ih p hp hl⟩)

end ConstraintTree

namespace ConstrainedTypes
variable {types : List ConstraintTree} {known : List Bool}

@[simp] theorem length_step (h : known.length = types.length) :
    (step types known).length = types.length := by
  simp [step, h]

/-- A round that changes something adds a type. -/
theorem step_eq_or_count_lt (h : known.length = types.length) :
    step types known = known ∨ (step types known).count false < known.count false := by
  suffices ∀ p : ConstraintTree → Bool,
      types.zipWith (fun tree k => k || p tree) known = known ∨
        (types.zipWith (fun tree k => k || p tree) known).count false < known.count false from
    this _
  intro p
  induction types generalizing known with
  | nil =>
    cases known with
    | nil => exact .inl rfl
    | cons k known => cases h
  | cons tree types ih =>
    cases known with
    | nil => cases h
    | cons k known =>
      have ih := ih (Nat.succ.inj h)
      rw [List.zipWith_cons_cons]
      cases k with
      | true =>
        rcases ih with he | hlt
        · left
          rw [he]
          rfl
        · right
          simpa using hlt
      | false =>
        cases hp : p tree with
        | false =>
          rcases ih with he | hlt
          · left
            rw [he]
            rfl
          · right
            simpa using hlt
        | true =>
          right
          have hle : (types.zipWith (fun tree k => k || p tree) known).count false ≤
              known.count false := by
            rcases ih with he | hlt
            · exact Nat.le_of_eq (congrArg _ he)
            · exact Nat.le_of_lt hlt
          simp
          omega

theorem length_settle (n : Nat) (h : known.length = types.length) :
    (settle types n known).length = types.length := by
  induction n generalizing known with
  | zero => exact h
  | succ n ih =>
    simp only [settle]
    split
    · exact h
    · exact ih (length_step h)

/-- As many rounds as there are types to add are enough. -/
theorem step_settle {n : Nat} (h : known.length = types.length) (hn : known.count false ≤ n) :
    step types (settle types n known) = settle types n known := by
  induction n generalizing known with
  | zero => exact (step_eq_or_count_lt h).resolve_right (by omega)
  | succ n ih =>
    simp only [settle]
    split
    · next he => exact he
    · next hne =>
      have hlt := (step_eq_or_count_lt h).resolve_left hne
      exact ih (length_step h) (by omega)

private theorem length_ofTypes (types : List ConstraintTree) : (ofTypes types).length = types.length :=
  length_settle _ (List.length_map _)

private theorem step_ofTypes (types : List ConstraintTree) :
    step types (ofTypes types) = ofTypes types := by
  refine step_settle (List.length_map _) ?_
  rw [← List.length_map (fun _ : ConstraintTree => false)]
  exact List.count_le_length

/-- A type that leads to a directive by way of the constrained types is one of them. -/
theorem lookup_ofTypes {id : TypeId} {tree : ConstraintTree} (ht : types[id.index]? = some tree)
    (hl : tree.leadsToDirective (lookup (ofTypes types)) = true) :
    lookup (ofTypes types) id = true := by
  obtain ⟨hlt, _⟩ := List.getElem?_eq_some_iff.mp ht
  have hlt' : id.index < (ofTypes types).length := by
    rw [length_ofTypes]
    exact hlt
  have hk := List.getElem?_eq_getElem hlt'
  have hs := congrArg (·[id.index]?) (step_ofTypes types)
  simp only [step, List.getElem?_zipWith, ht, hk, hl, Bool.or_true] at hs
  rw [lookup, hk, ← hs]
  rfl

def IsJustified (types : List ConstraintTree) (known : List Bool) : Prop :=
  ∀ id, lookup known id = true →
    ∃ tree, types[id.index]? = some tree ∧ tree.leadsToDirective (lookup known) = true

theorem lookup_step (h : known.length = types.length) (id : TypeId) :
    lookup (step types known) id = true ↔ lookup known id = true ∨
      ∃ tree, types[id.index]? = some tree ∧ tree.leadsToDirective (lookup known) = true := by
  rw [lookup, step, List.getElem?_zipWith]
  by_cases hi : id.index < types.length
  · have hk : id.index < known.length := by rwa [h]
    simp [lookup, List.getElem?_eq_getElem hi, List.getElem?_eq_getElem hk]
  · have hk : ¬ id.index < known.length := by rwa [h]
    simp [lookup, List.getElem?_eq_none (Nat.le_of_not_lt hi),
      List.getElem?_eq_none (Nat.le_of_not_lt hk)]

private theorem IsJustified.step (h : known.length = types.length) (hj : IsJustified types known) :
    IsJustified types (step types known) := by
  intro id hid
  have hmore (i : TypeId) (hi : lookup known i = true) :
      lookup (ConstrainedTypes.step types known) i = true := (lookup_step h i).mpr (.inl hi)
  rcases (lookup_step h id).mp hid with hk | ⟨tree, ht, hl⟩
  · obtain ⟨tree, ht, hl⟩ := hj id hk
    exact ⟨tree, ht, ConstraintTree.leadsToDirective_mono hmore hl⟩
  · exact ⟨tree, ht, ConstraintTree.leadsToDirective_mono hmore hl⟩

private theorem IsJustified.settle (n : Nat) (h : known.length = types.length)
    (hj : IsJustified types known) : IsJustified types (settle types n known) := by
  induction n generalizing known with
  | zero => exact hj
  | succ n ih =>
    simp only [ConstrainedTypes.settle]
    split
    · exact hj
    · exact ih (length_step h) (hj.step h)

/-- The constrained types are those that lead to a directive by way of them. -/
theorem lookup_ofTypes_iff (types : List ConstraintTree) (id : TypeId) :
    lookup (ofTypes types) id = true ↔ ∃ tree, types[id.index]? = some tree ∧
      tree.leadsToDirective (lookup (ofTypes types)) = true := by
  constructor
  · have hnone : IsJustified types (types.map fun _ => false) := by
      intro id hid
      rw [lookup, List.getElem?_map] at hid
      cases ht : types[id.index]? <;> simp [ht] at hid
    exact hnone.settle types.length (List.length_map _) id
  · rintro ⟨tree, ht, hl⟩
    exact lookup_ofTypes ht hl

/-- No type is found constrained without need: every set of types that has all those leading to it has
the constrained ones. -/
theorem lookup_ofTypes_least {closed : TypeId → Bool}
    (hclosed : ∀ id tree, types[id.index]? = some tree → tree.leadsToDirective closed = true →
      closed id = true) {id : TypeId} (h : lookup (ofTypes types) id = true) : closed id = true := by
  suffices ∀ n known, known.length = types.length →
      (∀ id, lookup known id = true → closed id = true) →
      ∀ id, lookup (settle types n known) id = true → closed id = true by
    refine this _ _ (List.length_map _) (fun id hid => ?_) id h
    rw [lookup, List.getElem?_map] at hid
    cases ht : types[id.index]? <;> simp [ht] at hid
  intro n
  induction n with
  | zero => exact fun _ _ hk => hk
  | succ n ih =>
    intro known hlen hk
    simp only [settle]
    split
    · exact hk
    · refine ih _ (length_step hlen) fun id hid => ?_
      rcases (lookup_step hlen id).mp hid with hid | ⟨tree, ht, hl⟩
      · exact hk id hid
      · exact hclosed id tree ht (ConstraintTree.leadsToDirective_mono hk hl)

theorem lookup_eq_true {id : TypeId} (h : lookup (ofTypes types) id = true) :
    id.index < types.length := by
  rcases Nat.lt_or_ge id.index types.length with hlt | hge
  · exact hlt
  · rw [← length_ofTypes] at hge
    rw [lookup, List.getElem?_eq_none hge] at h
    cases h

end ConstrainedTypes

namespace ConstraintTree

theorem pruneProperties_eq (isEmptyType : TypeId → Bool)
    (properties : List (String × ConstraintTree)) :
    pruneProperties isEmptyType properties =
      (properties.map fun p => (p.1, p.2.prune isEmptyType)).filter (!·.2.isEmpty) := by
  induction properties with
  | nil => rfl
  | cons p properties ih =>
    obtain ⟨name, t⟩ := p
    rw [pruneProperties, List.map_cons]
    cases he : (t.prune isEmptyType).isEmpty <;> simp [he, ih]

private theorem properties_prune (isEmptyType : TypeId → Bool) (t : ConstraintTree) :
    (t.prune isEmptyType).properties = pruneProperties isEmptyType t.properties := by
  cases t
  rfl

@[simp] theorem directives_prune (isEmptyType : TypeId → Bool) (t : ConstraintTree) :
    (t.prune isEmptyType).directives = t.directives := by
  cases t
  rfl

theorem inherits_prune (isEmptyType : TypeId → Bool) (t : ConstraintTree) :
    (t.prune isEmptyType).inherits = t.inherits.filter (!isEmptyType ·) := by
  cases t
  rfl

/-- A property is pruned like the tree, and gone if nothing is left of it. -/
theorem property?_prune (isEmptyType : TypeId → Bool) {t : ConstraintTree}
    (ht : (Entries.keys t.properties).Nodup) (name : String) :
    (t.prune isEmptyType).property? name =
      ((t.property? name).map (·.prune isEmptyType)).filter (!·.isEmpty) := by
  have hn : (Entries.keys (t.properties.map fun p => (p.1, p.2.prune isEmptyType))).Nodup := by
    rw [Entries.keys, List.map_map]
    exact ht
  rw [property?, properties_prune, pruneProperties_eq, Entries.get?_filter hn (!·.isEmpty)]
  exact congrArg (Option.filter _)
    (Entries.get?_map (fun _ p => p.prune isEmptyType) t.properties name)

/-- Something is left of a tree exactly if it leads to a directive. -/
theorem isEmpty_prune (constrained : TypeId → Bool) (t : ConstraintTree) :
    (t.prune (!constrained ·)).isEmpty = !t.leadsToDirective constrained := by
  induction t using byProperties with
  | tree t ih =>
    have hp : (t.prune (!constrained ·)).properties = [] ↔
        ¬ ∃ p ∈ t.properties, p.2.leadsToDirective constrained = true := by
      rw [properties_prune, pruneProperties_eq, List.filter_eq_nil_iff, List.forall_mem_map]
      simp only [not_exists, not_and]
      refine forall_congr' fun p => imp_congr_right fun hp => ?_
      rw [ih p hp, Bool.not_not]
    have hi : (t.prune (!constrained ·)).inherits = [] ↔
        ¬ ∃ id ∈ t.inherits, constrained id = true := by
      simp [inherits_prune]
    rw [Bool.eq_iff_iff, isEmpty, Bool.not_eq_true', ← Bool.not_eq_true, leadsToDirective_iff]
    simp only [Bool.and_eq_true, List.isEmpty_iff, directives_prune, hp, hi, not_or, ne_eq,
      Classical.not_not]
    constructor
    · rintro ⟨⟨hd, hp⟩, hi⟩
      exact ⟨hd, hi, hp⟩
    · rintro ⟨hd, hi, hp⟩
      exact ⟨⟨hd, hp⟩, hi⟩

theorem Distinct.prune {t : ConstraintTree} (h : t.Distinct) (isEmptyType : TypeId → Bool) :
    (t.prune isEmptyType).Distinct := by
  induction t using byProperties with
  | tree t ih =>
    have hproperties := properties_prune isEmptyType t
    rw [pruneProperties_eq] at hproperties
    refine .intro ?_ ?_ fun q hq => ?_
    · rw [directives_prune]
      exact h.directives
    · rw [hproperties]
      refine List.Nodup.sublist (List.filter_sublist.map _) ?_
      rw [List.map_map]
      exact h.properties
    · rw [hproperties] at hq
      obtain ⟨p, hp, rfl⟩ := List.mem_map.mp (List.mem_filter.mp hq).1
      exact ih p hp (h.of_mem hp)

end ConstraintTree
end ConstraintDirectives
