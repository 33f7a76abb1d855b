import ConstraintDirectives.Constraint.Tree

/-! Constraint trees that hold every key once. On these, merging is what it should be, key by key. -/
namespace ConstraintDirectives.ConstraintTree

/-- Induction by properties. -/
theorem byProperties {motive : ConstraintTree → Prop}
    (tree : ∀ t : ConstraintTree, (∀ p ∈ t.properties, motive p.2) → motive t)
    (t : ConstraintTree) : motive t :=
  tree t fun p _ => byProperties tree p.2
termination_by sizeOf t
decreasing_by
  next hp =>
    have := List.sizeOf_lt_of_mem hp
    cases t
    cases p
    simp only [ConstraintTree.mk.sizeOf_spec, Prod.mk.sizeOf_spec] at this ⊢
    omega

theorem eq_empty {t : ConstraintTree} (h : t.isEmpty = true) : t = .empty := by
  cases t
  simp only [isEmpty, Bool.and_eq_true, List.isEmpty_iff] at h
  obtain ⟨⟨rfl, rfl⟩, rfl⟩ := h
  rfl

/-- Each directive and each property stands once, at every depth. -/
inductive Distinct : ConstraintTree → Prop where
  | intro {t : ConstraintTree} : (Entries.keys t.directives).Nodup →
      (Entries.keys t.properties).Nodup → (∀ p ∈ t.properties, Distinct p.2) → Distinct t

@[simp] theorem distinct_mk {directives : List (DirectiveKey × List ConstraintSet)}
    {properties : List (String × ConstraintTree)} {inherits : List TypeId} :
    Distinct ⟨directives, properties, inherits⟩ ↔ (Entries.keys directives).Nodup ∧
      (Entries.keys properties).Nodup ∧ ∀ p ∈ properties, p.2.Distinct := by
  constructor
  · rintro ⟨hd, hp, hall⟩
    exact ⟨hd, hp, hall⟩
  · rintro ⟨hd, hp, hall⟩
    exact .intro hd hp hall

section Merge
variable (a b : ConstraintTree)

def mergedProperty (new : ConstraintTree) : Option ConstraintTree → ConstraintTree
  | none => new
  | some old => old.merge new

theorem mergeProperties_eq (into properties : List (String × ConstraintTree)) :
    mergeProperties into properties =
      properties.foldl (fun acc p => Entries.upsert p.1 (mergedProperty p.2) acc) into := by
  induction properties generalizing into with
  | nil => rfl
  | cons p properties ih =>
    rw [mergeProperties, List.foldl_cons, ih]
    rfl

theorem properties_merge : (a.merge b).properties = mergeProperties a.properties b.properties := by
  cases b
  rfl

theorem directives_merge : (a.merge b).directives = mergeDirectives a.directives b.directives := by
  cases b
  rfl

theorem inherits_merge : (a.merge b).inherits = a.inherits ++ b.inherits := by
  cases b
  rfl

end Merge

namespace Distinct
variable {a b t : ConstraintTree}

theorem directives (h : t.Distinct) : (Entries.keys t.directives).Nodup := by
  cases h
  assumption

theorem properties (h : t.Distinct) : (Entries.keys t.properties).Nodup := by
  cases h
  assumption

theorem of_mem (h : t.Distinct) {p : String × ConstraintTree} (hp : p ∈ t.properties) :
    p.2.Distinct := by
  cases h
  next hb => exact hb p hp

theorem property? (h : t.Distinct) {name : String} {p : ConstraintTree}
    (hp : t.property? name = some p) : p.Distinct :=
  h.of_mem (Entries.mem_of_get? hp)

theorem empty : Distinct .empty := .intro List.nodup_nil List.nodup_nil nofun

theorem insert (h : t.Distinct) (key : DirectiveKey) (set : ConstraintSet) :
    (t.insert key set).Distinct :=
  .intro (Entries.nodup_keys_upsert h.directives key _) h.properties fun _ => h.of_mem

theorem inheriting (h : t.Distinct) (id : TypeId) : (t.inheriting id).Distinct :=
  .intro h.directives h.properties fun _ => h.of_mem

end Distinct

section Laws
variable (a : ConstraintTree) {b : ConstraintTree}

theorem get?_directives_merge (hb : (Entries.keys b.directives).Nodup) (key : DirectiveKey) :
    Entries.get? (a.merge b).directives key =
      (Entries.get? b.directives key).elim (Entries.get? a.directives key) fun sets =>
        some (a.sets key ++ sets) := by
  rw [directives_merge]
  exact Entries.get?_foldl_upsert (fun sets old => old.getD [] ++ sets) a.directives hb key

theorem sets_merge (hb : (Entries.keys b.directives).Nodup) (key : DirectiveKey) :
    (a.merge b).sets key = a.sets key ++ b.sets key := by
  rw [sets, get?_directives_merge a hb]
  cases hk : Entries.get? b.directives key <;> simp [sets, hk]

theorem hasKey_merge (hb : (Entries.keys b.directives).Nodup) (key : DirectiveKey) :
    (a.merge b).hasKey key = (a.hasKey key || b.hasKey key) := by
  rw [hasKey, get?_directives_merge a hb]
  cases hk : Entries.get? b.directives key <;> simp [hasKey, hk]

theorem property?_merge (hb : (Entries.keys b.properties).Nodup) (name : String) :
    (a.merge b).property? name = (b.property? name).elim (a.property? name) fun p =>
      some (mergedProperty p (a.property? name)) := by
  rw [property?, properties_merge, mergeProperties_eq]
  exact Entries.get?_foldl_upsert mergedProperty a.properties hb name

end Laws

namespace Distinct
variable {a b t : ConstraintTree}

theorem merge (ha : a.Distinct) (hb : b.Distinct) : (a.merge b).Distinct := by
  induction b using byProperties generalizing a with
  | tree b ih =>
    have hdirectives : (Entries.keys (a.merge b).directives).Nodup := by
      rw [directives_merge]
      exact Entries.nodup_keys_foldl_upsert (fun sets old => old.getD [] ++ sets) ha.directives _
    have hproperties : (Entries.keys (a.merge b).properties).Nodup := by
      rw [properties_merge, mergeProperties_eq]
      exact Entries.nodup_keys_foldl_upsert _ ha.properties _
    refine .intro hdirectives hproperties fun q hq => ?_
    have hget : (a.merge b).property? q.1 = some q.2 := Entries.get?_of_mem hproperties hq
    rw [property?_merge a hb.properties] at hget
    cases hp : b.property? q.1 with
    | none =>
      rw [hp, Option.elim_none] at hget
      exact ha.property? hget
    | some p =>
      rw [hp, Option.elim_some, Option.some.injEq] at hget
      rw [← hget]
      cases hold : a.property? q.1 with
      | none => exact hb.property? hp
      | some old =>
        exact ih (q.1, p) (Entries.mem_of_get? hp) (ha.property? hold) (hb.property? hp)

end Distinct
end ConstraintDirectives.ConstraintTree
