import ConstraintDirectives.Index.Validation
import ConstraintDirectives.Proofs.ValueParts

/-! A check walks over the parts of a value, and fails as the first part that does not pass by itself.
-/
namespace ConstraintDirectives
open Validation

namespace InForce

def step (index : ConstraintIndex) (v : InForce) : PathStep → InForce
  | .key name => v.property index name
  | .index _ => v.items

def along (index : ConstraintIndex) (v : InForce) (path : ValuePath) : InForce :=
  path.foldl (step index) v

structure IsVoid (v : InForce) : Prop where
  trees : ∀ t ∈ v.trees, t.directives = [] ∧ t.properties = []
  lists : v.listSets = []

private theorem isVoid_nil : IsVoid ⟨[], none⟩ := ⟨nofun, rfl⟩

theorem isVoid_ofTrees_empty (index : ConstraintIndex) : (ofTrees index [.empty]).IsVoid := by
  have ht : ofTrees index [.empty] = ⟨[.empty], none⟩ := by
    simp [ofTrees, ConstraintIndex.gather, ConstraintIndex.inherited, ConstraintTree.empty]
  rw [ht]
  exact ⟨by simp [ConstraintTree.empty], rfl⟩

private theorem IsVoid.along {index : ConstraintIndex} {v : InForce} (h : v.IsVoid) (path : ValuePath) :
    (v.along index path).IsVoid := by
  induction path generalizing v with
  | nil => exact h
  | cons s path ih =>
    cases s with
    | key name =>
      have hp : v.trees.filterMap (·.property? name) = [] := by
        rw [List.filterMap_eq_nil_iff]
        intro t ht
        rw [ConstraintTree.property?, (h.trees t ht).2]
        rfl
      have hv : v.property index name = ⟨[], none⟩ := by
        rw [property, hp]
        rfl
      exact ih (v := v.property index name) (hv ▸ isVoid_nil)
    | index i => exact ih (v := v.items) ⟨h.trees, by rw [listSets_items, h.lists]; rfl⟩

private theorem mem_propertyNames {v : InForce} {name : String} :
    name ∈ v.propertyNames ↔ ∃ t ∈ v.trees, (t.property? name).isSome = true := by
  simp only [propertyNames, List.mem_eraseDups, List.mem_flatMap]
  exact exists_congr fun t => and_congr_right fun _ => Entries.mem_keys_iff t.properties name

private theorem property_of_not_mem {index : ConstraintIndex} {v : InForce} {name : String}
    (h : name ∉ v.propertyNames) : v.property index name = ⟨[], none⟩ := by
  have hn : v.trees.filterMap (·.property? name) = [] := by
    rw [List.filterMap_eq_nil_iff]
    intro t ht
    have := fun hs => h (mem_propertyNames.mpr ⟨t, ht, hs⟩)
    simpa using this
  rw [property, hn]
  rfl

end InForce

namespace Validation

def checkHere (v : InForce) (path : ValuePath) (value : Value) : Except Rejection Unit :=
  match value with
  | .null | .record _ => .ok ()
  | .list items =>
    checkSets path .list (.list items) (v.listSets.flatten.filter (·.1 ≠ .innerList))
  | scalar => checkScalar v path scalar

theorem check_scalar (index : ConstraintIndex) (v : InForce) (path : ValuePath) {value : Value}
    (h : value.kind.isScalar = true) :
    check index v path value = (checkHere v path value).map fun _ => path := by
  cases value <;> first | rfl | cases h

theorem checkProperty_eq (index : ConstraintIndex) (v : InForce) (path : ValuePath)
    (name : String) (properties : List (String × Value)) :
    checkProperty index v path name properties =
      match Entries.get? properties name with
      | some x => (check index v (path.push (.key name)) x).map ValuePath.pop
      | none => .ok path := by
  induction properties with
  | nil => rfl
  | cons p properties ih =>
    obtain ⟨k, x⟩ := p
    by_cases hk : k = name
    · simp only [checkProperty, Entries.get?, hk, if_true]
      cases check index v (path.push (.key name)) x <;> rfl
    · simp only [checkProperty, Entries.get?, hk, if_false, ih]

theorem checkItems_cons (index : ConstraintIndex) (v : InForce) (path : ValuePath) (i : Nat)
    (x : Value) (xs : List Value) :
    checkItems index v path i (x :: xs) =
      (check index v (path.push (.index i)) x).map ValuePath.pop >>= fun path =>
        checkItems index v path (i + 1) xs := by
  rw [checkItems]
  cases check index v (path.push (.index i)) x <;> rfl

private theorem checkHere_void {v : InForce} (h : v.IsVoid) (path : ValuePath) (value : Value) :
    checkHere v path value = .ok () := by
  have hlist : v.hasListKey = false := by
    have hl := h.lists
    cases hv : v.lists with
    | some sets =>
      rw [InForce.listSets, hv] at hl
      rw [InForce.hasListKey, hv]
      simpa using hl
    | none =>
      rw [InForce.hasListKey, hv, List.any_eq_false]
      intro t ht
      simp [ConstraintTree.hasKey, (h.trees t ht).1, Entries.get?]
  have hbrought : (v.trees.flatMap fun tree =>
      (tree.directives.map (·.1)).filter (· ≠ .list)) = [] := by
    rw [List.flatMap_eq_nil_iff]
    intro t ht
    rw [(h.trees t ht).1]
    rfl
  have hk : v.keys = [] := by
    rw [InForce.keys, hbrought, hlist]
    rfl
  cases value with
  | null | record => rfl
  | list items => simp [checkHere, h.lists, checkSets]
  | boolean | int | float | string => simp [checkHere, checkScalar, hk]

/-- How a check of some parts below a place can end. Every part is given by the rest of its path. -/
inductive Outcome (index : ConstraintIndex) (v : InForce) (path : ValuePath)
    (parts : ValuePath → Value → Prop) : Except Rejection ValuePath → Prop where
  | passed : (∀ rest part, parts rest part →
      checkHere (v.along index rest) (path ++ rest) part = .ok ()) →
      Outcome index v path parts (.ok path)
  | failed {rest : ValuePath} {part : Value} {e : Rejection} : parts rest part →
      checkHere (v.along index rest) (path ++ rest) part = .error e →
      Outcome index v path parts (.error e)

namespace Outcome
variable {index : ConstraintIndex} {v : InForce} {path : ValuePath}
  {parts parts' : ValuePath → Value → Prop} {result : Except Rejection ValuePath}

theorem eq_ok_iff (h : Outcome index v path parts result) : result = .ok path ↔
    ∀ rest part, parts rest part →
      checkHere (v.along index rest) (path ++ rest) part = .ok () := by
  cases h with
  | passed h => exact iff_of_true rfl h
  | failed hp he =>
    refine iff_of_false nofun fun hall => ?_
    rw [hall _ _ hp] at he
    cases he

/-- A check that passes leaves the path as it found it. -/
theorem eq_of_ok {left : ValuePath} (h : Outcome index v path parts (.ok left)) : left = path := by
  cases h with
  | passed h => rfl

theorem of_error {e : Rejection} (h : Outcome index v path parts (.error e)) :
    ∃ rest part, parts rest part ∧
      checkHere (v.along index rest) (path ++ rest) part = .error e := by
  cases h with
  | failed hp he => exact ⟨_, _, hp, he⟩

theorem nothing (h : ∀ rest part, ¬ parts rest part) : Outcome index v path parts (.ok path) :=
  .passed fun rest part hp => absurd hp (h rest part)

/-- Parts that are not visited may be added where they pass anyway. -/
theorem extend (h : Outcome index v path parts result) (hs : ∀ rest part, parts rest part →
    parts' rest part) (hn : ∀ rest part, parts' rest part → ¬ parts rest part →
      checkHere (v.along index rest) (path ++ rest) part = .ok ()) :
    Outcome index v path parts' result := by
  cases h with
  | passed h =>
    refine .passed fun rest part hp => ?_
    by_cases hv : parts rest part
    · exact h rest part hv
    · exact hn rest part hp hv
  | failed hp he => exact .failed (hs _ _ hp) he

theorem congr (h : Outcome index v path parts result)
    (hp : ∀ rest part, parts rest part ↔ parts' rest part) : Outcome index v path parts' result :=
  h.extend (fun rest part => (hp rest part).mp)
    fun rest part h' hn => absurd ((hp rest part).mpr h') hn

/-- One check after another. What follows finds the path that the first was given. -/
theorem andThen {next : ValuePath → Except Rejection ValuePath}
    (h : Outcome index v path parts result) (h' : Outcome index v path parts' (next path)) :
    Outcome index v path (fun rest part => parts rest part ∨ parts' rest part)
      (result >>= next) := by
  cases h with
  | failed hp he => exact .failed (.inl hp) he
  | passed h =>
    change Outcome index v path _ (next path)
    refine h'.extend (fun _ _ => .inr) fun rest part hp hn => ?_
    exact h rest part (hp.resolve_right hn)

/-- The check of a part one step down, after which its step is popped. -/
theorem down {s : PathStep} (h : Outcome index (v.step index s) (path.push s) parts result) :
    Outcome index v path (fun rest part => ∃ r, rest = s :: r ∧ parts r part)
      (result.map ValuePath.pop) := by
  have happ (r : ValuePath) : path.push s ++ r = path ++ s :: r := by simp [ValuePath.push]
  cases h with
  | failed hp he => exact .failed ⟨_, rfl, hp⟩ (by rw [← happ]; exact he)
  | passed h =>
    change Outcome index v path _ (.ok (path.push s).pop)
    rw [ValuePath.pop_push]
    refine .passed fun rest part hp => ?_
    obtain ⟨r, rfl, hp⟩ := hp
    rw [← happ]
    exact h r part hp

end Outcome

def Visits (index : ConstraintIndex) (value : Value) : Prop :=
  ∀ v path, Outcome index v path (fun rest part => value.part? rest = some part)
    (check index v path value)

private theorem checkItems_outcome {index : ConstraintIndex} (v : InForce) (path : ValuePath)
    {items : List Value} (h : ∀ x ∈ items, Visits index x) (i : Nat) :
    Outcome index v path (fun rest part => ∃ j x r, rest = .index (i + j) :: r ∧
      items[j]? = some x ∧ x.part? r = some part) (checkItems index v.items path i items) := by
  induction items generalizing i with
  | nil => exact .nothing (by simp)
  | cons x xs ih =>
    rw [checkItems_cons]
    have hx := (h x (List.mem_cons_self ..) v.items (path.push (.index i))).down
      (v := v) (s := .index i)
    refine (hx.andThen (ih (fun y hy => h y (List.mem_cons_of_mem _ hy)) (i + 1))).congr ?_
    intro rest part
    constructor
    · rintro (⟨r, rfl, hp⟩ | ⟨j, y, r, rfl, hy, hp⟩)
      · exact ⟨0, x, r, rfl, rfl, hp⟩
      · exact ⟨j + 1, y, r, by rw [Nat.add_right_comm, Nat.add_assoc], hy, hp⟩
    · rintro ⟨j, y, r, rfl, hy, hp⟩
      cases j with
      | zero => exact .inl ⟨r, rfl, by cases hy; exact hp⟩
      | succ j => exact .inr ⟨j, y, r, by rw [Nat.add_right_comm, Nat.add_assoc], hy, hp⟩

private theorem checkProperty_outcome {index : ConstraintIndex} (v : InForce) (path : ValuePath)
    (name : String) {properties : List (String × Value)}
    (h : ∀ x, Entries.get? properties name = some x → Visits index x) :
    Outcome index v path (fun rest part => ∃ x r, rest = .key name :: r ∧
      Entries.get? properties name = some x ∧ x.part? r = some part)
      (checkProperty index (v.property index name) path name properties) := by
  rw [checkProperty_eq]
  cases hx : Entries.get? properties name with
  | none => exact .nothing (by simp)
  | some x =>
    refine ((h x hx (v.property index name) (path.push (.key name))).down
      (v := v) (s := .key name)).congr fun rest part => ?_
    constructor
    · rintro ⟨r, hr, hp⟩
      exact ⟨x, r, hr, rfl, hp⟩
    · rintro ⟨y, r, hr, hy, hp⟩
      cases hy
      exact ⟨r, hr, hp⟩

private theorem checkProperties_outcome {index : ConstraintIndex} (v : InForce) (path : ValuePath)
    {properties : List (String × Value)}
    (h : ∀ name x, Entries.get? properties name = some x → Visits index x) (names : List String) :
    Outcome index v path (fun rest part => ∃ name x r, rest = .key name :: r ∧ name ∈ names ∧
      Entries.get? properties name = some x ∧ x.part? r = some part)
      (names.foldlM (fun path name =>
        checkProperty index (v.property index name) path name properties) path) := by
  induction names with
  | nil => exact .nothing (by simp)
  | cons name names ih =>
    rw [List.foldlM_cons]
    refine ((checkProperty_outcome v path name (h name)).andThen ih).congr fun rest part => ?_
    constructor
    · rintro (⟨x, r, hr, hx, hp⟩ | ⟨n, x, r, hr, hn, hx, hp⟩)
      · exact ⟨name, x, r, hr, List.mem_cons_self .., hx, hp⟩
      · exact ⟨n, x, r, hr, List.mem_cons_of_mem _ hn, hx, hp⟩
    · rintro ⟨n, x, r, hr, hn, hx, hp⟩
      rcases List.mem_cons.mp hn with rfl | hn
      · exact .inl ⟨x, r, hr, hx, hp⟩
      · exact .inr ⟨n, x, r, hr, hn, hx, hp⟩

/-- Every check visits every part. A property that no tree in force names is not looked at, and
nothing is in force below it. -/
theorem check_visits (index : ConstraintIndex) (value : Value) : Visits index value := by
  induction value using Value.byParts with
  | null =>
    intro v path
    refine .passed fun rest part hp => ?_
    obtain ⟨rfl, rfl⟩ := (Value.part?_leaf (.inl rfl)).mp hp
    rfl
  | scalar value hs =>
    intro v path
    rw [check_scalar index v path hs]
    have hparts {rest : ValuePath} {part : Value} :
        value.part? rest = some part ↔ rest = [] ∧ part = value := Value.part?_leaf (.inr hs)
    cases hc : checkHere v path value with
    | error e =>
      exact .failed (hparts.mpr ⟨rfl, rfl⟩) (by rw [List.append_nil]; exact hc)
    | ok _ =>
      refine .passed fun rest part hp => ?_
      obtain ⟨rfl, rfl⟩ := hparts.mp hp
      rw [List.append_nil]
      exact hc
  | list items ih =>
    intro v path
    have hitems := checkItems_outcome v path ih 0
    cases hc : checkHere v path (.list items) with
    | error e =>
      have he : check index v path (.list items) = .error e := by
        simp only [checkHere] at hc
        rw [check, hc]
        rfl
      rw [he]
      have hp : (Value.list items).part? [] = some (.list items) := rfl
      exact .failed hp (by rw [List.append_nil]; exact hc)
    | ok _ =>
      have he : check index v path (.list items) = checkItems index v.items path 0 items := by
        simp only [checkHere] at hc
        rw [check, hc]
        rfl
      rw [he]
      refine hitems.extend ?_ fun rest part hp hn => ?_
      · rintro rest part ⟨j, x, r, rfl, hx, hp⟩
        exact Value.part?_list.mpr (.inr ⟨_, x, r, rfl, by rw [Nat.zero_add]; exact hx, hp⟩)
      · rcases Value.part?_list.mp hp with ⟨rfl, rfl⟩ | ⟨j, x, r, rfl, hx, hp⟩
        · rw [List.append_nil]
          exact hc
        · exact absurd ⟨j, x, r, by rw [Nat.zero_add], hx, hp⟩ hn
  | record properties ih =>
    intro v path
    rw [check]
    refine (checkProperties_outcome v path
      (fun name x hx => ih (name, x) (Entries.mem_of_get? hx)) v.propertyNames).extend
      ?_ fun rest part hp hn => ?_
    · rintro rest part ⟨name, x, r, rfl, _, hx, hp⟩
      exact Value.part?_record.mpr (.inr ⟨name, x, r, rfl, hx, hp⟩)
    · rcases Value.part?_record.mp hp with ⟨rfl, rfl⟩ | ⟨name, x, r, rfl, hx, hp⟩
      · rfl
      · have hname : name ∉ v.propertyNames := fun hm => hn ⟨name, x, r, rfl, hm, hx, hp⟩
        have hvoid : (v.property index name).IsVoid := by
          rw [InForce.property_of_not_mem hname]
          exact InForce.isVoid_nil
        exact checkHere_void (hvoid.along r) _ _

/-- Where nothing is in force, everything passes. -/
theorem check_void (index : ConstraintIndex) {v : InForce} (h : v.IsVoid) (path : ValuePath)
    (value : Value) : check index v path value = .ok path :=
  (check_visits index value v path).eq_ok_iff.mpr fun rest part _ =>
    checkHere_void (h.along rest) (path ++ rest) part

end Validation
end ConstraintDirectives
