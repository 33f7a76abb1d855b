import ConstraintDirectives.Proofs.Verdict

/-! A value is accepted if the kind of each part answers to a key in force and the constraints for that
kind hold. -/
namespace ConstraintDirectives
open Validation

def DirectiveKey.ofKind? : ValueKind → Option DirectiveKey
  | .list => some .list
  | kind => ofScalar? kind

namespace Force
variable (f : Force)

/-- How far in the chains of a key those in force are. -/
def levels : DirectiveKey → Nat
  | .list => f.depth
  | _ => 0

theorem levels_eq_of_depth {f g : Force} (h : g.depth = f.depth) (key : DirectiveKey) :
    g.levels key = f.levels key := by
  cases key with
  | list => exact h
  | numberValue | stringValue => rfl

theorem demands_iff (key : DirectiveKey) (set : ConstraintSet) : f.Demands key set ↔
    ∃ t, f.trees t ∧ ∃ outer ∈ t.sets key, outer.link (f.levels key) = some set := by
  cases key with
  | list => rfl
  | numberValue | stringValue => simp [Demands, levels, ConstraintSet.link]

theorem hasKey_iff (key : DirectiveKey) : f.HasKey key ↔
    if f.levels key = 0 then ∃ t, f.trees t ∧ t.hasKey key = true
    else ∃ set, f.Demands key set := by
  cases key with
  | list => rfl
  | numberValue | stringValue => simp [HasKey, levels]

variable {f}

private theorem hasKey_of_demands {key : DirectiveKey} {set : ConstraintSet} (h : f.Demands key set) :
    f.HasKey key := by
  rw [hasKey_iff]
  split
  · obtain ⟨t, ht, outer, ho, _⟩ := (f.demands_iff key set).mp h
    refine ⟨t, ht, ?_⟩
    rw [ConstraintTree.sets] at ho
    rw [ConstraintTree.hasKey]
    cases hk : Entries.get? t.directives key with
    | none => simp [hk] at ho
    | some sets => rfl
  · exact ⟨set, h⟩

variable (f)

/-- A scalar answers to one of the keys in force, if there are any. -/
def AdmitsKind (value : Value) : Prop :=
  value.kind.isScalar = true → ∀ key, f.HasKey key →
    ∃ own, DirectiveKey.ofScalar? value.kind = some own ∧ f.HasKey own

def HoldsOf (value : Value) : Prop :=
  ∀ key, DirectiveKey.ofKind? value.kind = some key → ∀ set, f.Demands key set →
    ∀ c ∈ set, c.1.holds c.2 value = true

private theorem satisfied_scalar {value : Value} (hv : value.kind.isScalar = true) :
    ((∀ key, ¬ f.HasKey key) ∨ ∃ key, DirectiveKey.ofScalar? value.kind = some key ∧
      f.HasKey key ∧ ∀ set, f.Demands key set → ∀ c ∈ set, c.1.holds c.2 value = true) ↔
      f.AdmitsKind value ∧ f.HoldsOf value := by
  have hkind : DirectiveKey.ofKind? value.kind = DirectiveKey.ofScalar? value.kind := by
    cases value <;> first | rfl | cases hv
  rw [AdmitsKind, HoldsOf, hkind]
  constructor
  · rintro (hnone | ⟨key, hk, hin, hall⟩)
    · exact ⟨fun _ key hin => absurd hin (hnone key),
        fun key _ set hd => absurd (hasKey_of_demands hd) (hnone key)⟩
    · refine ⟨fun _ _ _ => ⟨key, hk, hin⟩, fun own ho => ?_⟩
      cases hk.symm.trans ho
      exact hall
  · rintro ⟨hkinds, hall⟩
    by_cases hany : ∃ key, f.HasKey key
    · obtain ⟨key, hin⟩ := hany
      obtain ⟨own, ho, hown⟩ := hkinds hv key hin
      exact .inr ⟨own, ho, hown, hall own ho⟩
    · exact .inl (not_exists.mp hany)

/-- What a value owes is that its kind is admitted and that the constraints for its kind hold. The
inner list constraints of a list say nothing of the list itself. -/
theorem satisfied_iff (value : Value) : f.Satisfied value ↔ f.AdmitsKind value ∧ f.HoldsOf value := by
  cases value with
  | null => exact iff_of_true trivial ⟨nofun, nofun⟩
  | record => exact iff_of_true trivial ⟨nofun, nofun⟩
  | list items =>
    constructor
    · refine fun h => ⟨nofun, fun key hk set hd c hc => ?_⟩
      cases hk
      by_cases hn : c.1 = .innerList
      · rw [hn]
        rfl
      · exact h set hd c hc hn
    · exact fun h set hd c hc _ => h.2 .list rfl set hd c hc
  | boolean | int | float | string => exact f.satisfied_scalar rfl

end Force

namespace Validation

private theorem checkSets_violation_key {path p : ValuePath} {key own : DirectiveKey}
    {value actual : Value} {cs : List (ConstraintName × Declared)} {name : ConstraintName} {declared : Declared}
    {reason : String} (h : checkSets path own value cs =
      .error (.constraintViolation p key name declared actual reason)) : own = key := by
  obtain ⟨_, _, _, _, he⟩ := checkSets_eq_error h
  cases he
  rfl

/-- A violation is of a constraint for the kind of the value. -/
theorem checkHere_violation_key {v : InForce} {path p : ValuePath} {key : DirectiveKey}
    {value actual : Value} {name : ConstraintName} {declared : Declared} {reason : String}
    (h : checkHere v path value = .error (.constraintViolation p key name declared actual reason)) :
    DirectiveKey.ofKind? value.kind = some key := by
  have scalar (hs : checkScalar v path value =
      .error (.constraintViolation p key name declared actual reason)) :
      DirectiveKey.ofScalar? value.kind = some key := by
    rw [checkScalar] at hs
    split at hs
    · cases hs
    · split at hs
      · next own ho =>
        split at hs
        · rw [ho, checkSets_violation_key hs]
        · cases hs
      · cases hs
  cases value with
  | null | record => cases h
  | list items => rw [← checkSets_violation_key h]; rfl
  | boolean | int | float | string => exact scalar h

end Validation

private theorem InForce.agrees_along (index : ConstraintIndex) (tree : ConstraintTree)
    (path : ValuePath) :
    ((ofTrees index [tree]).along index path).Agrees (Force.along index tree path) :=
  (agrees_start index tree).along path

namespace ConstraintIndex
variable {index : ConstraintIndex} {tree : ConstraintTree} {value : Value}

/-- A value is accepted if every part of it is of a kind that is admitted where it is, and meets the
constraints in force there. -/
theorem validate_ok_iff_parts : index.validate tree value = .ok () ↔
    ∀ path part, value.part? path = some part →
      (Force.along index tree path).AdmitsKind part ∧ (Force.along index tree path).HoldsOf part := by
  have hv := check_visits index value (.ofTrees index [tree]) .root
  have hchecks : index.validate tree value = .ok () ↔ ∀ path part, value.part? path = some part →
      checkHere ((InForce.ofTrees index [tree]).along index path) path part = .ok () := by
    refine Iff.trans ?_ hv.eq_ok_iff
    rw [validate]
    cases hc : check index (.ofTrees index [tree]) .root value with
    | error e => exact iff_of_false (fun h => by cases h) (fun h => by cases h)
    | ok left =>
      rw [hc] at hv
      exact iff_of_true rfl (congrArg _ hv.eq_of_ok)
  rw [hchecks]
  refine forall_congr' fun path => forall_congr' fun part => imp_congr_right fun _ => ?_
  rw [checkHere_eq_ok (InForce.agrees_along index tree path), Force.satisfied_iff]

/-- A violation is about a part of which a constraint in force for its kind does not hold. -/
theorem not_holdsOf_of_violation {p : ValuePath} {key : DirectiveKey} {name : ConstraintName}
    {declared : Declared} {actual : Value} {reason : String}
    (h : index.validate tree value =
      .error (.constraintViolation p key name declared actual reason)) :
    ∃ path part, value.part? path = some part ∧ ¬ (Force.along index tree path).HoldsOf part := by
  have hv := check_visits index value (.ofTrees index [tree]) .root
  rw [validate] at h
  cases hc : check index (.ofTrees index [tree]) .root value with
  | ok left =>
    rw [hc] at h
    cases h
  | error e =>
    rw [hc] at h hv
    cases h
    obtain ⟨path, part, hpart, he⟩ := hv.of_error
    obtain ⟨_, _, hfails, ⟨set, hset, hmem⟩, _⟩ :=
      checkHere_eq_error (InForce.agrees_along index tree path) he
    refine ⟨path, part, hpart, fun hall => ?_⟩
    rw [hall key (checkHere_violation_key he) set hset _ hmem] at hfails
    cases hfails

end ConstraintIndex
end ConstraintDirectives
