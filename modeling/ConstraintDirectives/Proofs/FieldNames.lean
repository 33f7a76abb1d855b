import Mathlib.Data.List.Nodup
import ConstraintDirectives.Proofs.Compilation

namespace ConstraintDirectives

def FieldCoordinate.isIntrospection (key : FieldCoordinate) : Bool :=
  "__".toList.isPrefixOf key.owner.toList

namespace Schema

def DistinctNames (s : Schema) : Prop := (s.types.map (·.name)).Nodup

instance (s : Schema) : Decidable s.DistinctNames := inferInstanceAs (Decidable (List.Nodup _))

/-- A field of an output object, be it part of introspection or not. -/
def HasField (s : Schema) (key : FieldCoordinate) (f : FieldDefinition) : Prop :=
  ∃ t ∈ s.types, ∃ fields, t.name = key.owner ∧ t.definition = .object fields ∧
    fields.get? key.field = some f

theorem HasField.of_get? {s : Schema} {key : FieldCoordinate} {f : FieldDefinition} {i : TypeId}
    {t : NamedType} {fields : OrderedMap String FieldDefinition} (ht : s.get? i = some t)
    (hname : t.name = key.owner) (hdef : t.definition = .object fields)
    (hf : fields.get? key.field = some f) : s.HasField key f :=
  ⟨t, List.mem_of_getElem? ht, fields, hname, hdef, hf⟩

end Schema

theorem NamedType.mem_callables_iff {t : NamedType} {key : FieldCoordinate} {f : FieldDefinition} :
    (key, f) ∈ t.callables ↔ key.isIntrospection = false ∧ ∃ fields, t.name = key.owner ∧
      t.definition = .object fields ∧ fields.get? key.field = some f := by
  rw [callables]
  split
  · next fields hi hdef =>
    rw [List.mem_map]
    constructor
    · rintro ⟨p, hp, he⟩
      cases he
      exact ⟨hi, fields, rfl, hdef, Entries.get?_of_mem fields.nodup hp⟩
    · rintro ⟨_, fields', hname, hdef', hf⟩
      cases hdef.symm.trans hdef'
      refine ⟨(key.field, f), Entries.mem_of_get? hf, ?_⟩
      rw [hname]
  · next hno =>
    refine iff_of_false List.not_mem_nil ?_
    rintro ⟨hi, fields, hname, hdef, _⟩
    refine hno fields ?_ hdef
    rw [isIntrospection, hname]
    exact hi

namespace Schema
variable {s : Schema}

private theorem nodup_keys_callables (hn : s.DistinctNames) : (Entries.keys s.callables).Nodup := by
  rw [callables, Entries.keys, List.map_flatMap, List.nodup_flatMap]
  constructor
  · intro t _
    rw [NamedType.callables]
    split
    · next fields _ _ =>
      have hinj : Function.Injective fun name => FieldCoordinate.mk t.name name :=
        fun _ _ h => (FieldCoordinate.mk.inj h).2
      rw [List.map_map]
      have := fields.nodup.map hinj
      rwa [Entries.keys, List.map_map] at this
    · exact List.nodup_nil
  · refine (List.pairwise_map.mp hn).imp fun {t u} hne => ?_
    intro key ht hu
    obtain ⟨⟨_, f⟩, hm, rfl⟩ := List.mem_map.mp ht
    obtain ⟨⟨_, g⟩, hm', he⟩ := List.mem_map.mp hu
    cases he
    obtain ⟨_, _, hname, _⟩ := NamedType.mem_callables_iff.mp hm
    obtain ⟨_, _, hname', _⟩ := NamedType.mem_callables_iff.mp hm'
    exact hne (hname.trans hname'.symm)

/-- The callable fields are those of objects that are not part of introspection. -/
theorem callable?_eq_some_iff (hn : s.DistinctNames) {key : FieldCoordinate} {f : FieldDefinition} :
    s.callable? key = some f ↔ key.isIntrospection = false ∧ s.HasField key f := by
  have hmem : s.callable? key = some f ↔ (key, f) ∈ s.callables := by
    refine ⟨s.mem_callables_of_callable?, fun h => ?_⟩
    have hn := nodup_keys_callables hn
    refine Entries.get?_of_mem ?_ (List.mem_reverse.mpr h)
    rwa [Entries.keys, List.map_reverse, List.nodup_reverse]
  rw [hmem, callables, List.mem_flatMap]
  simp only [NamedType.mem_callables_iff, HasField]
  constructor
  · rintro ⟨t, ht, hi, hf⟩
    exact ⟨hi, t, ht, hf⟩
  · rintro ⟨hi, t, ht, hf⟩
    exact ⟨t, ht, hi, hf⟩

theorem callable?_eq_none_of_isIntrospection {key : FieldCoordinate}
    (hi : key.isIntrospection = true) : s.callable? key = none := by
  refine Option.eq_none_iff_forall_ne_some.mpr fun f hf => ?_
  obtain ⟨t, _, ht⟩ := List.mem_flatMap.mp (s.mem_callables_of_callable? hf)
  rw [(NamedType.mem_callables_iff.mp ht).1] at hi
  cases hi

end Schema
end ConstraintDirectives
