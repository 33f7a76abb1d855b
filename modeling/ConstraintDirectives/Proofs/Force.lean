import ConstraintDirectives.Proofs.Inheritance
import ConstraintDirectives.Proofs.Traversal

/-! What is in force at the end of a path, said without views or visited lists. The validator's view
agrees with it. -/
namespace ConstraintDirectives

def ConstraintSet.link : Nat → ConstraintSet → Option ConstraintSet
  | 0, set => some set
  | n + 1, set => (link n set).bind (·.innerList?)

/-- Trees in force at a place, and its number of list steps since the last property. -/
structure Force where
  trees : ConstraintTree → Prop
  depth : Nat

namespace Force

def start (index : ConstraintIndex) (root : ConstraintTree) : Force :=
  ⟨ConstraintIndex.Gathered index (· = root), 0⟩

/-- A property has the trees of that property with all they inherit. An item has those of its list. -/
def step (index : ConstraintIndex) (f : Force) : PathStep → Force
  | .key name =>
    ⟨ConstraintIndex.Gathered index fun p => ∃ t, f.trees t ∧ t.property? name = some p, 0⟩
  | .index _ => ⟨f.trees, f.depth + 1⟩

def along (index : ConstraintIndex) (root : ConstraintTree) (path : ValuePath) : Force :=
  path.foldl (step index) (start index root)

def Demands (f : Force) : DirectiveKey → ConstraintSet → Prop
  | .list, set => ∃ t, f.trees t ∧ ∃ outer ∈ t.sets .list, outer.link f.depth = some set
  | key, set => ∃ t, f.trees t ∧ set ∈ t.sets key

/-- Whether a key is in force. Inside a list the list key is there as long as its chains are. -/
def HasKey (f : Force) : DirectiveKey → Prop
  | .list =>
    if f.depth = 0 then ∃ t, f.trees t ∧ t.hasKey .list = true else ∃ set, f.Demands .list set
  | key => ∃ t, f.trees t ∧ t.hasKey key = true

/-- What a value on its own owes to what is in force at its place. -/
def Satisfied (f : Force) : Value → Prop
  | .null | .record _ => True
  | .list items => ∀ set, f.Demands .list set → ∀ c ∈ set, c.1 ≠ .innerList →
      c.1.holds c.2 (.list items) = true
  | scalar => (∀ key, ¬ f.HasKey key) ∨
      ∃ key, DirectiveKey.ofScalar? scalar.kind = some key ∧ f.HasKey key ∧
        ∀ set, f.Demands key set → ∀ c ∈ set, c.1.holds c.2 scalar = true

/-- When a rejection speaks the truth about a value at its place. -/
def Warrants (f : Force) (value : Value) : Rejection → Prop
  | .constraintViolation _ key name declared actual reason =>
    actual = value ∧ name.holds declared value = false ∧
      (∃ set, f.Demands key set ∧ (name, declared) ∈ set) ∧
      reason = name.describe declared value
  | .kindMismatch _ got expected =>
    value.kind = got ∧ got.isScalar = true ∧ (∃ key, f.HasKey key) ∧
      (∀ key, DirectiveKey.ofScalar? got = some key → ¬ f.HasKey key) ∧
      expected.Nodup ∧ ∀ key, key ∈ expected ↔ f.HasKey key

end Force

namespace InForce

structure Agrees (v : InForce) (f : Force) : Prop where
  trees : ∀ t, t ∈ v.trees ↔ f.trees t
  listSets : ∀ set, set ∈ v.listSets ↔ f.Demands .list set
  listKey : v.hasListKey = true ↔ f.HasKey .list

private theorem agrees_gathered (index : ConstraintIndex) (roots : List ConstraintTree)
    {origin : ConstraintTree → Prop} (ho : ∀ t, t ∈ roots ↔ origin t) :
    Agrees (ofTrees index roots) ⟨ConstraintIndex.Gathered index origin, 0⟩ := by
  have ht (t : ConstraintTree) : t ∈ index.gather [] roots ↔
      ConstraintIndex.Gathered index origin t := by
    rw [ConstraintIndex.mem_gather_iff]
    exact ⟨fun h => h.mono fun t => (ho t).mp, fun h => h.mono fun t => (ho t).mpr⟩
  refine ⟨ht, fun set => ?_, ?_⟩
  · simp [listSets, ofTrees, Force.Demands, ConstraintSet.link, ht]
  · simp [hasListKey, ofTrees, Force.HasKey, ht]

theorem agrees_start (index : ConstraintIndex) (root : ConstraintTree) :
    Agrees (ofTrees index [root]) (Force.start index root) :=
  agrees_gathered index [root] fun _ => List.mem_singleton

private theorem Agrees.step {index : ConstraintIndex} {v : InForce} {f : Force} (h : Agrees v f)
    (s : PathStep) : Agrees (v.step index s) (f.step index s) := by
  cases s with
  | key name =>
    refine agrees_gathered index _ fun t => ?_
    simp only [List.mem_filterMap, h.trees]
  | index i =>
    have hl (set : ConstraintSet) : set ∈ v.items.listSets ↔
        (f.step index (.index i)).Demands .list set := by
      simp only [listSets_items, List.mem_filterMap, h.listSets, Force.step, Force.Demands,
        ConstraintSet.link, Option.bind_eq_some_iff]
      constructor
      · rintro ⟨set', ⟨t, ht, outer, ho, hlink⟩, hi⟩
        exact ⟨t, ht, outer, ho, set', hlink, hi⟩
      · rintro ⟨t, ht, outer, ho, set', hlink, hi⟩
        exact ⟨set', ⟨t, ht, outer, ho, hlink⟩, hi⟩
    refine ⟨h.trees, hl, ?_⟩
    have hk : v.items.hasListKey = true ↔ ∃ set, set ∈ v.items.listSets := by
      simp only [hasListKey_items, listSets_items, Bool.not_eq_true', List.isEmpty_eq_false_iff]
      exact ⟨List.exists_mem_of_ne_nil _, fun ⟨_, hs⟩ => List.ne_nil_of_mem hs⟩
    exact hk.trans (exists_congr hl)

theorem Agrees.along {index : ConstraintIndex} {v : InForce} {f : Force} (h : Agrees v f)
    (path : ValuePath) : Agrees (v.along index path) (path.foldl (Force.step index) f) := by
  induction path generalizing v f with
  | nil => exact h
  | cons s path ih => exact ih (h.step s)

end InForce
end ConstraintDirectives
