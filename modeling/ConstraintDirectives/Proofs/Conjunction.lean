import ConstraintDirectives.Proofs.Acceptance
import ConstraintDirectives.Proofs.DistinctTrees

/-! Merging as conjunction: what is in force under a merged tree is what is in force under either side.
-/
namespace ConstraintDirectives
open ConstraintIndex (Gathered)

structure Force.Joins (f a b : Force) : Prop where
  left_depth : a.depth = f.depth
  right_depth : b.depth = f.depth
  origin : ∀ t, f.trees t → a.trees t ∨ b.trees t ∨
    ∃ x y : ConstraintTree, a.trees x ∧ b.trees y ∧ y.Distinct ∧ t = x.merge y
  left : ∀ x, a.trees x → f.trees x ∨ ∃ y : ConstraintTree, y.Distinct ∧ f.trees (x.merge y)
  right : ∀ y : ConstraintTree, b.trees y →
    f.trees y ∨ ∃ x : ConstraintTree, y.Distinct ∧ f.trees (x.merge y)

namespace Force.Joins
variable {index : ConstraintIndex}

/-- A merged tree inherits what its sides inherit. -/
theorem gathered {roots left right : ConstraintTree → Prop}
    (h : Joins ⟨roots, 0⟩ ⟨left, 0⟩ ⟨right, 0⟩) :
    Joins ⟨Gathered index roots, 0⟩ ⟨Gathered index left, 0⟩ ⟨Gathered index right, 0⟩ where
  left_depth := rfl
  right_depth := rfl
  origin t hg := by
    induction hg with
    | root hr =>
      rcases h.origin _ hr with ha | hb | ⟨x, y, ha, hb, hy, rfl⟩
      · exact .inl (.root ha)
      · exact .inr (.inl (.root hb))
      · exact .inr (.inr ⟨x, y, .root ha, .root hb, hy, rfl⟩)
    | inherited _ hi hid ih =>
      rcases ih with ha | hb | ⟨x, y, ha, hb, _, rfl⟩
      · exact .inl (.inherited ha hi hid)
      · exact .inr (.inl (.inherited hb hi hid))
      · rw [ConstraintTree.inherits_merge, List.mem_append] at hi
        rcases hi with hi | hi
        · exact .inl (.inherited ha hi hid)
        · exact .inr (.inl (.inherited hb hi hid))
  left x hg := by
    induction hg with
    | root hr =>
      rcases h.left _ hr with hf | ⟨y, hy, hf⟩
      · exact .inl (.root hf)
      · exact .inr ⟨y, hy, .root hf⟩
    | inherited _ hi hid ih =>
      rcases ih with hf | ⟨y, _, hf⟩
      · exact .inl (.inherited hf hi hid)
      · refine .inl (.inherited hf ?_ hid)
        rw [ConstraintTree.inherits_merge]
        exact List.mem_append_left _ hi
  right y hg := by
    induction hg with
    | root hr =>
      rcases h.right _ hr with hf | ⟨x, hy, hf⟩
      · exact .inl (.root hf)
      · exact .inr ⟨x, hy, .root hf⟩
    | inherited _ hi hid ih =>
      rcases ih with hf | ⟨x, _, hf⟩
      · exact .inl (.inherited hf hi hid)
      · refine .inl (.inherited hf ?_ hid)
        rw [ConstraintTree.inherits_merge]
        exact List.mem_append_right _ hi

private theorem start (index : ConstraintIndex) (a : ConstraintTree) {b : ConstraintTree}
    (hb : b.Distinct) : Joins (.start index (a.merge b)) (.start index a) (.start index b) := by
  refine gathered ⟨rfl, rfl, ?_, ?_, ?_⟩
  · rintro t rfl
    exact .inr (.inr ⟨a, b, rfl, rfl, hb, rfl⟩)
  · rintro x rfl
    exact .inr ⟨b, hb, rfl⟩
  · rintro y rfl
    exact .inr ⟨a, hb, rfl⟩

variable {f a b : Force}

private theorem step (h : Joins f a b) (s : PathStep) :
    Joins (f.step index s) (a.step index s) (b.step index s) := by
  cases s with
  | index i =>
    exact ⟨congrArg (· + 1) h.left_depth, congrArg (· + 1) h.right_depth, h.origin, h.left, h.right⟩
  | key name =>
    refine gathered ⟨rfl, rfl, ?_, ?_, ?_⟩
    · rintro p ⟨t, hf, hp⟩
      rcases h.origin t hf with ha | hb | ⟨x, y, ha, hb, hy, rfl⟩
      · exact .inl ⟨t, ha, hp⟩
      · exact .inr (.inl ⟨t, hb, hp⟩)
      · rw [ConstraintTree.property?_merge x hy.properties] at hp
        cases hq : y.property? name with
        | none =>
          rw [hq, Option.elim_none] at hp
          exact .inl ⟨x, ha, hp⟩
        | some q =>
          rw [hq, Option.elim_some, Option.some.injEq] at hp
          subst hp
          cases ho : x.property? name with
          | none => exact .inr (.inl ⟨y, hb, hq⟩)
          | some old =>
            exact .inr (.inr ⟨old, q, ⟨x, ha, ho⟩, ⟨y, hb, hq⟩, hy.property? hq, rfl⟩)
    · rintro p ⟨x, ha, hp⟩
      rcases h.left x ha with hf | ⟨y, hy, hf⟩
      · exact .inl ⟨x, hf, hp⟩
      · have hm := ConstraintTree.property?_merge x hy.properties name
        rw [hp] at hm
        cases hq : y.property? name with
        | none =>
          rw [hq, Option.elim_none] at hm
          exact .inl ⟨_, hf, hm⟩
        | some q =>
          rw [hq, Option.elim_some] at hm
          exact .inr ⟨q, hy.property? hq, _, hf, hm⟩
    · rintro q ⟨y, hb, hq⟩
      rcases h.right y hb with hf | ⟨x, hy, hf⟩
      · exact .inl ⟨y, hf, hq⟩
      · have hm := ConstraintTree.property?_merge x hy.properties name
        rw [hq, Option.elim_some] at hm
        cases ho : x.property? name with
        | none =>
          rw [ho] at hm
          exact .inl ⟨_, hf, hm⟩
        | some old =>
          rw [ho] at hm
          exact .inr ⟨old, hy.property? hq, _, hf, hm⟩

private theorem along (index : ConstraintIndex) (a : ConstraintTree) {b : ConstraintTree}
    (hb : b.Distinct) (path : ValuePath) :
    Joins (.along index (a.merge b) path) (.along index a path) (.along index b path) := by
  suffices ∀ {f a b}, Joins f a b → Joins (path.foldl (Force.step index) f)
      (path.foldl (Force.step index) a) (path.foldl (Force.step index) b) from
    this (start index a hb)
  induction path with
  | nil => exact id
  | cons s path ih => exact fun h => ih (h.step s)

/-- What one of the trees in force says of directives is said on one of the sides, if a merged tree says
it exactly if one of its parts does. -/
theorem exists_trees_iff (h : Joins f a b) {P : ConstraintTree → Prop}
    (hP : ∀ (x : ConstraintTree) {y : ConstraintTree}, y.Distinct → (P (x.merge y) ↔ P x ∨ P y)) :
    (∃ t, f.trees t ∧ P t) ↔ (∃ x, a.trees x ∧ P x) ∨ ∃ y, b.trees y ∧ P y := by
  constructor
  · rintro ⟨t, hf, hp⟩
    rcases h.origin t hf with ha | hb | ⟨x, y, ha, hb, hy, rfl⟩
    · exact .inl ⟨t, ha, hp⟩
    · exact .inr ⟨t, hb, hp⟩
    · exact ((hP x hy).mp hp).imp (⟨x, ha, ·⟩) (⟨y, hb, ·⟩)
  · rintro (⟨x, ha, hp⟩ | ⟨y, hb, hp⟩)
    · rcases h.left x ha with hf | ⟨y, hy, hf⟩
      · exact ⟨x, hf, hp⟩
      · exact ⟨_, hf, (hP x hy).mpr (.inl hp)⟩
    · rcases h.right y hb with hf | ⟨x, hy, hf⟩
      · exact ⟨y, hf, hp⟩
      · exact ⟨_, hf, (hP x hy).mpr (.inr hp)⟩

private theorem demands_iff (h : Joins f a b) (key : DirectiveKey) (set : ConstraintSet) :
    f.Demands key set ↔ a.Demands key set ∨ b.Demands key set := by
  rw [Force.demands_iff, Force.demands_iff, Force.demands_iff,
    Force.levels_eq_of_depth h.left_depth, Force.levels_eq_of_depth h.right_depth]
  refine h.exists_trees_iff fun x y hy => ?_
  simp only [ConstraintTree.sets_merge x hy.directives, List.mem_append, or_and_right, exists_or]

private theorem hasKey_iff (h : Joins f a b) (key : DirectiveKey) :
    f.HasKey key ↔ a.HasKey key ∨ b.HasKey key := by
  rw [Force.hasKey_iff, Force.hasKey_iff, Force.hasKey_iff,
    Force.levels_eq_of_depth h.left_depth, Force.levels_eq_of_depth h.right_depth]
  split
  · refine h.exists_trees_iff fun x y hy => ?_
    rw [ConstraintTree.hasKey_merge x hy.directives, Bool.or_eq_true]
  · simp only [h.demands_iff, exists_or]

/-- Constraints hold of a value if those of both sides do. -/
theorem holdsOf_iff (h : Joins f a b) (value : Value) :
    f.HoldsOf value ↔ a.HoldsOf value ∧ b.HoldsOf value := by
  constructor
  · exact fun hf => ⟨fun key hk set hd => hf key hk set ((h.demands_iff key set).mpr (.inl hd)),
      fun key hk set hd => hf key hk set ((h.demands_iff key set).mpr (.inr hd))⟩
  · rintro ⟨ha, hb⟩ key hk set hd
    exact ((h.demands_iff key set).mp hd).elim (ha key hk set) (hb key hk set)

/-- A kind that both sides admit is admitted. -/
theorem admitsKind (h : Joins f a b) {value : Value} (ha : a.AdmitsKind value)
    (hb : b.AdmitsKind value) : f.AdmitsKind value := by
  intro hs key hk
  rcases (h.hasKey_iff key).mp hk with hka | hkb
  · obtain ⟨own, ho, hown⟩ := ha hs key hka
    exact ⟨own, ho, (h.hasKey_iff own).mpr (.inl hown)⟩
  · obtain ⟨own, ho, hown⟩ := hb hs key hkb
    exact ⟨own, ho, (h.hasKey_iff own).mpr (.inr hown)⟩

end Force.Joins

namespace ConstraintIndex
variable {index : ConstraintIndex} {tree : ConstraintTree} {value : Value}

/-- If every constraint in force holds where it is, there is nothing to be refused but a kind. -/
theorem validate_of_holdsOf (h : ∀ path part, value.part? path = some part →
    (Force.along index tree path).HoldsOf part) : index.validate tree value = .ok () ∨
      ∃ path got expected, index.validate tree value = .error (.kindMismatch path got expected) := by
  cases hv : index.validate tree value with
  | ok u => exact .inl rfl
  | error e =>
    cases e with
    | kindMismatch path got expected => exact .inr ⟨path, got, expected, rfl⟩
    | constraintViolation =>
      obtain ⟨path, part, hp, hn⟩ := not_holdsOf_of_violation hv
      exact absurd (h path part hp) hn

/-- A merged tree accepts what both sides accept. What it accepts is refused by neither side, except for
its kind. -/
theorem validate_merge (index : ConstraintIndex) (a : ConstraintTree) {b : ConstraintTree}
    (hb : b.Distinct) (value : Value) :
    (index.validate a value = .ok () → index.validate b value = .ok () →
      index.validate (a.merge b) value = .ok ()) ∧
    (index.validate (a.merge b) value = .ok () → ∀ side, side = a ∨ side = b →
      index.validate side value = .ok () ∨
        ∃ path got expected, index.validate side value =
          .error (.kindMismatch path got expected)) := by
  constructor
  · intro hva hvb
    refine validate_ok_iff_parts.mpr fun path part hp => ?_
    have hjoins := Force.Joins.along index a hb path
    obtain ⟨hka, hca⟩ := validate_ok_iff_parts.mp hva path part hp
    obtain ⟨hkb, hcb⟩ := validate_ok_iff_parts.mp hvb path part hp
    exact ⟨hjoins.admitsKind hka hkb, (hjoins.holdsOf_iff part).mpr ⟨hca, hcb⟩⟩
  · intro hv side hside
    refine validate_of_holdsOf fun path part hp => ?_
    have hall := (validate_ok_iff_parts.mp hv path part hp).2
    obtain ⟨ha, hb⟩ := ((Force.Joins.along index a hb path).holdsOf_iff part).mp hall
    rcases hside with rfl | rfl
    · exact ha
    · exact hb

set_option maxRecDepth 8000 in
/-- Sizes are numbers on one side and short strings on the other, and a size may be of either kind once
the sides are merged. What both say of tags holds together. -/
theorem validate_merge_of_sizes :
    let index : ConstraintIndex := ⟨[⟨[], [("next", ⟨[], [], [⟨0⟩]⟩),
      ("tags", ⟨[(.list, [[(.maxItems, .int 2)]])], [], []⟩)], []⟩], .empty⟩
    let a : ConstraintTree := ⟨[], [("size", ⟨[(.numberValue, [[(.min, .int 1)]])], [], []⟩),
      ("tags", ⟨[(.list, [[(.minItems, .int 1)]])], [], []⟩)], [⟨0⟩]⟩
    let b : ConstraintTree := ⟨[], [("size", ⟨[(.stringValue, [[(.maxLength, .int 3)]])], [], []⟩),
      ("tags", ⟨[(.list, [[(.maxItems, .int 1)]])], [], []⟩)], []⟩
    let value : Value := .record [("size", .string "m"), ("tags", .list [.null]),
      ("next", .record [("tags", .list [])])]
    b.Distinct ∧ index.validate (a.merge b) value = .ok () ∧ index.validate a value ≠ .ok () ∧
      ∃ path got expected, index.validate a value = .error (.kindMismatch path got expected) := by
  intro index a b value
  have hb : b.Distinct := by simp [b, Entries.keys]
  have hmerged : index.validate (a.merge b) value = .ok () := by cbv
  have hrefused : index.validate a value ≠ .ok () := by
    have : index.validate a value = .error (.kindMismatch [.key "size"] .string [.numberValue]) := by
      cbv
    rw [this]
    intro h
    cases h
  exact ⟨hb, hmerged, hrefused,
    ((validate_merge index a hb value).2 hmerged a (.inl rfl)).resolve_left hrefused⟩

end ConstraintIndex
end ConstraintDirectives
