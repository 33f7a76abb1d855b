import ConstraintDirectives.Value.Path

namespace ConstraintDirectives.Value

def part? : Value → ValuePath → Option Value
  | v, [] => some v
  | .list items, .index i :: path => items[i]?.bind fun x => part? x path
  | .record properties, .key name :: path =>
    (Entries.get? properties name).bind fun x => part? x path
  | _, _ :: _ => none

/-- Induction by parts. All scalars are one case. -/
theorem byParts {motive : Value → Prop} (null : motive .null)
    (scalar : ∀ v : Value, v.kind.isScalar = true → motive v)
    (list : ∀ items, (∀ x ∈ items, motive x) → motive (.list items))
    (record : ∀ properties, (∀ p ∈ properties, motive p.2) → motive (.record properties))
    (v : Value) : motive v :=
  match v with
  | .null => null
  | .boolean b => scalar (.boolean b) rfl
  | .int i => scalar (.int i) rfl
  | .float x => scalar (.float x) rfl
  | .string s => scalar (.string s) rfl
  | .list items => list items fun x _ => byParts null scalar list record x
  | .record properties => record properties fun p _ => byParts null scalar list record p.2
termination_by sizeOf v
decreasing_by
  · next hx =>
    have := List.sizeOf_lt_of_mem hx
    simp only [Value.list.sizeOf_spec]
    omega
  · next hp =>
    have := List.sizeOf_lt_of_mem hp
    cases p
    simp only [Value.record.sizeOf_spec, Prod.mk.sizeOf_spec] at this ⊢
    omega

theorem part?_list {items : List Value} {rest : ValuePath} {part : Value} :
    (Value.list items).part? rest = some part ↔
      (rest = [] ∧ part = .list items) ∨
        ∃ i x r, rest = .index i :: r ∧ items[i]? = some x ∧ x.part? r = some part := by
  constructor
  · intro h
    match rest, h with
    | [], h => exact .inl ⟨rfl, (Option.some.inj h).symm⟩
    | .index i :: r, h =>
      obtain ⟨x, hx, hp⟩ := Option.bind_eq_some_iff.mp h
      exact .inr ⟨i, x, r, rfl, hx, hp⟩
  · rintro (⟨rfl, rfl⟩ | ⟨i, x, r, rfl, hx, hp⟩)
    · rfl
    · exact Option.bind_eq_some_iff.mpr ⟨x, hx, hp⟩

theorem part?_record {properties : List (String × Value)} {rest : ValuePath} {part : Value} :
    (Value.record properties).part? rest = some part ↔
      (rest = [] ∧ part = .record properties) ∨
        ∃ name x r, rest = .key name :: r ∧ Entries.get? properties name = some x ∧
          x.part? r = some part := by
  constructor
  · intro h
    match rest, h with
    | [], h => exact .inl ⟨rfl, (Option.some.inj h).symm⟩
    | .key name :: r, h =>
      obtain ⟨x, hx, hp⟩ := Option.bind_eq_some_iff.mp h
      exact .inr ⟨name, x, r, rfl, hx, hp⟩
  · rintro (⟨rfl, rfl⟩ | ⟨name, x, r, rfl, hx, hp⟩)
    · rfl
    · exact Option.bind_eq_some_iff.mpr ⟨x, hx, hp⟩

/-- Null and scalars have no part but themselves. -/
theorem part?_leaf {v : Value} (h : v = .null ∨ v.kind.isScalar = true) {rest : ValuePath}
    {part : Value} : v.part? rest = some part ↔ rest = [] ∧ part = v := by
  cases rest with
  | nil => exact ⟨fun hp => ⟨rfl, (Option.some.inj hp).symm⟩, fun hp => congrArg some hp.2.symm⟩
  | cons s r => cases v <;> simp_all [part?, kind, ValueKind.isScalar]

/-- No step leads further from what is no list and no record. -/
theorem part?_cons_of_leaf {v : Value} (hl : v.kind ≠ .list) (hr : v.kind ≠ .record) (s : PathStep)
    (rest : ValuePath) : v.part? (s :: rest) = none := by
  cases s <;> cases v <;> first | rfl | exact absurd rfl hl | exact absurd rfl hr

end ConstraintDirectives.Value
