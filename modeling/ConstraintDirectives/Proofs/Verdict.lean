import Mathlib
import ConstraintDirectives.Proofs.FirstArrival
import ConstraintDirectives.Proofs.Force
import ConstraintDirectives.Proofs.Sequencing

namespace ConstraintDirectives
open Validation

namespace InForce.Agrees
variable {v : InForce} {f : Force}

private theorem mem_keys (h : v.Agrees f) (key : DirectiveKey) : key ∈ v.keys ↔ f.HasKey key := by
  have hb : key ∈ v.trees.flatMap (fun tree => (tree.directives.map (·.1)).filter (· ≠ .list)) ↔
      key ≠ .list ∧ ∃ t, f.trees t ∧ t.hasKey key = true := by
    simp only [List.mem_flatMap, List.mem_filter, h.trees, decide_eq_true_eq]
    constructor
    · rintro ⟨t, ht, hk, hne⟩
      exact ⟨hne, t, ht, (Entries.mem_keys_iff t.directives key).mp hk⟩
    · rintro ⟨hne, t, ht, hk⟩
      exact ⟨t, ht, (Entries.mem_keys_iff t.directives key).mpr hk, hne⟩
  rw [keys, List.mem_append, List.mem_eraseDups, hb]
  cases key with
  | list => simp [← h.listKey]
  | numberValue | stringValue => simp [Force.HasKey]

private theorem mem_sets (h : v.Agrees f) {key : DirectiveKey} (hk : key ≠ .list) (set : ConstraintSet) :
    set ∈ v.sets key ↔ f.Demands key set := by
  cases key with
  | list => exact absurd rfl hk
  | numberValue | stringValue => simp [sets, Force.Demands, h.trees]

end InForce.Agrees

private theorem InForce.nodup_keys (v : InForce) : v.keys.Nodup := by
  rw [keys, List.nodup_append]
  refine ⟨FirstArrival.nodup_eraseDups _, by split <;> simp, ?_⟩
  intro a ha b hb he
  subst he
  have hne : a ≠ .list := by
    simp only [List.mem_eraseDups, List.mem_flatMap, List.mem_filter, decide_eq_true_eq] at ha
    obtain ⟨_, _, _, hne⟩ := ha
    exact hne
  split at hb
  · exact hne (List.mem_singleton.mp hb)
  · cases hb

namespace Validation

theorem checkSets_eq_ok {path : ValuePath} {key : DirectiveKey} {value : Value}
    {cs : List (ConstraintName × Declared)} :
    checkSets path key value cs = .ok () ↔ ∀ c ∈ cs, c.1.holds c.2 value = true := by
  rw [checkSets]
  split
  · next name declared hf =>
    have hm := List.mem_of_find?_eq_some hf
    have hh := List.find?_some hf
    simp only [reduceCtorEq, false_iff, not_forall]
    exact ⟨_, hm, by simpa using hh⟩
  · next hf => simpa using hf

theorem checkSets_eq_error {path : ValuePath} {key : DirectiveKey} {value : Value}
    {cs : List (ConstraintName × Declared)} {e : Rejection}
    (h : checkSets path key value cs = .error e) : ∃ name declared, (name, declared) ∈ cs ∧
      name.holds declared value = false ∧
      e = .constraintViolation path key name declared value (name.describe declared value) := by
  rw [checkSets] at h
  split at h
  · next name declared hf =>
    cases h
    exact ⟨name, declared, List.mem_of_find?_eq_some hf, by simpa using List.find?_some hf, rfl⟩
  · cases h

private theorem isScalar_key {kind : ValueKind} {key : DirectiveKey}
    (h : DirectiveKey.ofScalar? kind = some key) : key ≠ .list := by
  cases kind <;> cases h <;> decide

/-- A scalar is accepted where no key is in force, or where that of its kind is and it holds. -/
theorem checkScalar_eq_ok {v : InForce} {f : Force} (h : v.Agrees f) (path : ValuePath)
    (value : Value) : checkScalar v path value = .ok () ↔ (∀ key, ¬ f.HasKey key) ∨
      ∃ key, DirectiveKey.ofScalar? value.kind = some key ∧ f.HasKey key ∧
        ∀ set, f.Demands key set → ∀ c ∈ set, c.1.holds c.2 value = true := by
  have hnone : v.keys.isEmpty = true ↔ ∀ key, ¬ f.HasKey key := by
    rw [List.isEmpty_iff, List.eq_nil_iff_forall_not_mem]
    exact forall_congr' fun key => not_congr (h.mem_keys key)
  rw [checkScalar]
  split
  · next he => exact iff_of_true rfl (.inl (hnone.mp he))
  · next he =>
    rw [hnone] at he
    cases hs : DirectiveKey.ofScalar? value.kind with
    | none => simp [he]
    | some key =>
      simp only [he, false_or, Option.some.injEq, exists_eq_left']
      split
      · next hk =>
        rw [List.contains_iff_mem, h.mem_keys] at hk
        simp only [hk, true_and, checkSets_eq_ok, List.mem_flatten, h.mem_sets (isScalar_key hs)]
        constructor
        · exact fun hc set hd c hm => hc c ⟨set, hd, hm⟩
        · rintro hc c ⟨set, hd, hm⟩
          exact hc set hd c hm
      · next hk =>
        rw [List.contains_iff_mem, h.mem_keys] at hk
        simp [hk]

private theorem checkScalar_eq_error {v : InForce} {f : Force} (h : v.Agrees f) {path : ValuePath}
    {value : Value} (hv : value.kind.isScalar = true) {e : Rejection}
    (he : checkScalar v path value = .error e) : e.path = path ∧ f.Warrants value e := by
  have mismatch (hk : ¬ v.keys.isEmpty = true)
      (hs : ∀ key, DirectiveKey.ofScalar? value.kind = some key → ¬ f.HasKey key) :
      f.Warrants value (.kindMismatch path value.kind v.keys) := by
    rw [List.isEmpty_iff] at hk
    obtain ⟨key, hm⟩ := List.exists_mem_of_ne_nil _ hk
    exact ⟨rfl, hv, ⟨key, (h.mem_keys key).mp hm⟩, hs, v.nodup_keys, h.mem_keys⟩
  rw [checkScalar] at he
  split at he
  · cases he
  · next hk =>
    cases hs : DirectiveKey.ofScalar? value.kind with
    | none =>
      rw [hs] at he
      cases he
      exact ⟨rfl, mismatch hk (by simp [hs])⟩
    | some key =>
      rw [hs] at he
      simp only at he
      split at he
      · obtain ⟨name, declared, hm, hh, rfl⟩ := checkSets_eq_error he
        obtain ⟨set, hset, hm⟩ := List.mem_flatten.mp hm
        exact ⟨rfl, rfl, hh, ⟨set, (h.mem_sets (isScalar_key hs) set).mp hset, hm⟩, rfl⟩
      · next hk' =>
        cases he
        refine ⟨rfl, mismatch hk fun key' hs' => ?_⟩
        rw [hs] at hs'
        cases hs'
        rwa [List.contains_iff_mem, h.mem_keys] at hk'

theorem checkHere_eq_ok {v : InForce} {f : Force} (h : v.Agrees f) (path : ValuePath)
    (value : Value) : checkHere v path value = .ok () ↔ f.Satisfied value := by
  cases value with
  | null | record => exact iff_of_true rfl trivial
  | list items =>
    simp only [checkHere, checkSets_eq_ok, Force.Satisfied, List.mem_filter, List.mem_flatten,
      h.listSets, decide_eq_true_eq]
    constructor
    · exact fun hc set hd c hm hn => hc c ⟨⟨set, hd, hm⟩, hn⟩
    · rintro hc c ⟨⟨set, hd, hm⟩, hn⟩
      exact hc set hd c hm hn
  | boolean b => exact checkScalar_eq_ok h path (.boolean b)
  | int i => exact checkScalar_eq_ok h path (.int i)
  | float x => exact checkScalar_eq_ok h path (.float x)
  | string s => exact checkScalar_eq_ok h path (.string s)

theorem checkHere_eq_error {v : InForce} {f : Force} (h : v.Agrees f) {path : ValuePath}
    {value : Value} {e : Rejection} (he : checkHere v path value = .error e) :
    e.path = path ∧ f.Warrants value e := by
  cases value with
  | null | record => cases he
  | list items =>
    obtain ⟨name, declared, hm, hh, rfl⟩ := checkSets_eq_error he
    obtain ⟨set, hset, hm⟩ := List.mem_flatten.mp (List.mem_filter.mp hm).1
    exact ⟨rfl, rfl, hh, ⟨set, (h.listSets set).mp hset, hm⟩, rfl⟩
  | boolean | int | float | string => exact checkScalar_eq_error h rfl he

/-- A check at a place passes exactly if every part satisfies what is in force there. -/
theorem check_eq_ok {index : ConstraintIndex} {v : InForce} {f : Force} (h : v.Agrees f)
    (path : ValuePath) (value : Value) : check index v path value = .ok path ↔
      ∀ rest part, value.part? rest = some part →
        (rest.foldl (Force.step index) f).Satisfied part := by
  rw [(check_visits index value v path).eq_ok_iff]
  exact forall_congr' fun rest => forall_congr' fun part => imp_congr_right fun _ =>
    checkHere_eq_ok (h.along rest) (path ++ rest) part

private theorem check_eq_error {index : ConstraintIndex} {v : InForce} {f : Force} (h : v.Agrees f)
    {path : ValuePath} {value : Value} {e : Rejection} (he : check index v path value = .error e) :
    ∃ rest part, e.path = path ++ rest ∧ value.part? rest = some part ∧
      (rest.foldl (Force.step index) f).Warrants part e := by
  have hv := check_visits index value v path
  rw [he] at hv
  obtain ⟨rest, part, hs, hc⟩ := hv.of_error
  obtain ⟨hpath, hw⟩ := checkHere_eq_error (h.along rest) hc
  exact ⟨rest, part, hpath, hs, hw⟩

end Validation

namespace ConstraintIndex

/-- A value is accepted exactly if each of its parts satisfies what is in force at its path. -/
theorem validate_eq_ok_iff (index : ConstraintIndex) (tree : ConstraintTree) (value : Value) :
    index.validate tree value = .ok () ↔ ∀ path part, value.part? path = some part →
      (Force.along index tree path).Satisfied part := by
  refine Iff.trans ?_ (check_eq_ok (InForce.agrees_start index tree) .root value)
  have hv := check_visits index value (.ofTrees index [tree]) .root
  rw [validate]
  cases hc : check index (.ofTrees index [tree]) .root value with
  | error e => exact iff_of_false nofun nofun
  | ok left =>
    rw [hc] at hv
    exact iff_of_true rfl (congrArg _ hv.eq_of_ok)

private theorem validate_error {index : ConstraintIndex} {tree : ConstraintTree} {value : Value}
    {path : ValuePath} {e : Rejection}
    (h : (check index (.ofTrees index [tree]) path value).map (fun _ => ()) = .error e) :
    ∃ rest part, e.path = path ++ rest ∧ value.part? rest = some part ∧
      (Force.along index tree rest).Warrants part e := by
  cases hc : check index (.ofTrees index [tree]) path value with
  | ok left =>
    rw [hc] at h
    cases h
  | error e' =>
    rw [hc] at h
    cases h
    exact check_eq_error (InForce.agrees_start index tree) hc

/-- Every rejection is about a part that its path leads to, and true of it. The path of a call starts
with the argument at fault, and holds nothing of what passed before. -/
theorem rejection_warranted (index : ConstraintIndex) :
    (∀ tree value e, index.validate tree value = .error e →
      ∃ part, value.part? e.path = some part ∧ (Force.along index tree e.path).Warrants part e) ∧
    (∀ key supplied e, index.validateCall key supplied = .error e →
      ∃ name rest tree value part, e.path = .key name :: rest ∧
        index.argumentTree? key name = some tree ∧ Entries.get? supplied name = some value ∧
        value.part? rest = some part ∧ (Force.along index tree rest).Warrants part e) := by
  constructor
  · intro tree value e h
    obtain ⟨rest, part, hpath, hpart, hw⟩ := validate_error h
    rw [hpath]
    exact ⟨part, hpart, hw⟩
  · intro key supplied e h
    rw [validateCall] at h
    split at h
    · cases h
    · next trees ht =>
      obtain ⟨⟨name, tree⟩, hm, he⟩ := Sequencing.forM_eq_error h
      simp only at he
      split at he
      · next value hv =>
        obtain ⟨rest, part, hpath, hpart, hw⟩ := validate_error he
        have htree : index.argumentTree? key name = some tree := by
          rw [argumentTree?, ht]
          exact Entries.get?_of_mem trees.nodup hm
        exact ⟨name, rest, tree, value, part, hpath, htree, hv, hpart, hw⟩
      · cases he

def taggedIndex : ConstraintIndex where
  types := [⟨[(.list, [[(.minItems, .int 1), (.innerList, .nested [(.maxItems, .int 1)])]])], [],
    [⟨0⟩]⟩]
  arguments := .ofList [(⟨"Query", "find"⟩, .ofList [("by", ⟨[], [("tags", ⟨[], [], [⟨0⟩]⟩)], []⟩)])]

set_option maxRecDepth 4000 in
/-- The first tag list passes, and the second has an item too many. -/
theorem rejection_warranted_of_second_tag_list :
    let supplied : List (String × Value) :=
      [("by", .record [("tags", .list [.list [.null], .list [.null, .boolean true]])])]
    let rejection : Rejection :=
      .constraintViolation [.key "by", .key "tags", .index 1] .list .maxItems (.int 1)
        (.list [.null, .boolean true]) "list has 2 items, more than maxItems 1"
    taggedIndex.validateCall ⟨"Query", "find"⟩ supplied = .error rejection ∧
      ∃ name rest tree value part, rejection.path = .key name :: rest ∧
        taggedIndex.argumentTree? ⟨"Query", "find"⟩ name = some tree ∧
        Entries.get? supplied name = some value ∧ value.part? rest = some part ∧
        (Force.along taggedIndex tree rest).Warrants part rejection := by
  intro supplied rejection
  have h : taggedIndex.validateCall ⟨"Query", "find"⟩ supplied = .error rejection := by cbv
  exact ⟨h, taggedIndex.rejection_warranted.2 _ supplied rejection h⟩

end ConstraintIndex
end ConstraintDirectives
