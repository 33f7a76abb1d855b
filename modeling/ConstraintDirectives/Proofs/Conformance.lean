import ConstraintDirectives.Proofs.Decoding
import ConstraintDirectives.Proofs.Extraction

namespace ConstraintDirectives

/-- A count is not negative, and a divisor is a finite number other than zero. -/
def ConstraintName.InRange (name : ConstraintName) (declared : Declared) : Prop :=
  match name with
  | .minLength | .maxLength | .minItems | .maxItems => ∀ n, declared = .int n → 0 ≤ n.toInt
  | .multipleOf => ∀ m, declared.number? = some m → m.isFinite = true ∧ m.equal (.zero false) = false
  | _ => True

private theorem ConstraintName.divisorFault?_eq_none {m : Binary64} (h : divisorFault? m = none) :
    m.isFinite = true ∧ m.equal (.zero false) = false := by
  rw [divisorFault?] at h
  split at h
  · cases h
  · next hz =>
    split at h
    · next hf => exact ⟨hf, by simpa using hz⟩
    · cases h

private theorem ConstraintName.inRange_of_rangeFault? {name : ConstraintName} {declared : Declared}
    (h : name.rangeFault? declared = none) : name.InRange declared := by
  cases name with
  | minLength | maxLength | minItems | maxItems =>
    rintro n rfl
    simpa [rangeFault?] using h
  | multipleOf =>
    intro m hm
    rw [rangeFault?, hm, Option.bind_some] at h
    exact divisorFault?_eq_none h
  | _ => trivial

namespace DirectiveDefinition

/-- Patterns are for `regex` alone, and inner lists for `innerList`. -/
def NamesForms (d : DirectiveDefinition) : Prop :=
  ∀ a ∈ d.arguments, (a.name = .regex → a.type = .string) ∧
    (a.name = .innerList ↔ a.type = .listConstraints)

structure IsRegular (d : DirectiveDefinition) : Prop where
  nodup : (d.arguments.map (·.name)).Nodup
  forms : d.NamesForms

/-- Sets that a directive may declare, inner lists included. -/
inductive Conforms (d : DirectiveDefinition) : ConstraintSet → Prop where
  | intro {set : ConstraintSet} (ordered : (set.map (·.1)).Sublist (d.arguments.map (·.name)))
      (nodup : (set.map (·.1)).Nodup)
      (typed : ∀ c ∈ set, ∃ a ∈ d.arguments, a.name = c.1 ∧ a.Takes c.2)
      (patterns : ∀ c ∈ set, (∃ p, c.2 = .pattern p) ↔ c.1 = .regex)
      (innerLists : ∀ c ∈ set, (∃ inner, c.2 = .nested inner) ↔ c.1 = .innerList)
      (inRange : ∀ c ∈ set, c.1.InRange c.2)
      (inner : ∀ c ∈ set, ∀ inner, c.2 = .nested inner → Conforms d inner) : Conforms d set

variable {d : DirectiveDefinition} {coordinate : String}

private theorem NamesForms.pattern_iff (hf : d.NamesForms) {a : ArgumentDefinition} (ha : a ∈ d.arguments)
    {declared : Declared} (ht : a.Takes declared) : (∃ p, declared = .pattern p) ↔ a.name = .regex := by
  constructor
  · rintro ⟨p, rfl⟩
    exact ht.2
  · intro hn
    have htype := (hf a ha).1 hn
    cases declared with
    | pattern p => exact ⟨p, rfl⟩
    | string s => exact absurd hn ht.2
    | int | float | boolean | floats | strings | nested => cases htype.symm.trans ht

private theorem NamesForms.nested_iff (hf : d.NamesForms) {a : ArgumentDefinition} (ha : a ∈ d.arguments)
    {declared : Declared} (ht : a.Takes declared) :
    (∃ inner, declared = .nested inner) ↔ a.name = .innerList := by
  rw [(hf a ha).2]
  constructor
  · rintro ⟨inner, rfl⟩
    exact ht
  · intro htype
    cases declared with
    | nested inner => exact ⟨inner, rfl⟩
    | string | pattern => cases htype.symm.trans ht.1
    | int | float | boolean | floats | strings => cases htype.symm.trans ht

/-- What decodes conforms. -/
theorem decode_conforms (hd : d.IsRegular) {arguments : List (String × Value)} {set : ConstraintSet}
    (h : d.decode coordinate arguments = .ok set) : d.Conforms set := by
  suffices ∀ set, d.decode coordinate arguments = .ok set → d.Conforms set from this set h
  refine decode_induction (P := fun result => ∀ set, result = .ok set → d.Conforms set) ?_ arguments
  intro supplied hinner set h
  obtain ⟨hsub, hset⟩ := decodeGiven_eq_ok (decodeSupplied_eq_ok h)
  have htyped (c) (hc : c ∈ set) : ∃ a ∈ d.arguments, a.name = c.1 ∧ a.Takes c.2 := by
    obtain ⟨a, ha, s, _, hn, hdec⟩ := hset c hc
    exact ⟨a, ha, hn, (decodeLiteral_eq_ok (decodeArgument_eq_ok hdec).1).1⟩
  refine .intro hsub (hd.nodup.sublist hsub) htyped ?_ ?_ ?_ ?_
  · intro c hc
    obtain ⟨a, ha, hn, ht⟩ := htyped c hc
    rw [hd.forms.pattern_iff ha ht, hn]
  · intro c hc
    obtain ⟨a, ha, hn, ht⟩ := htyped c hc
    rw [hd.forms.nested_iff ha ht, hn]
  · intro c hc
    obtain ⟨a, _, s, _, hn, hdec⟩ := hset c hc
    rw [← hn]
    exact ConstraintName.inRange_of_rangeFault? (decodeArgument_eq_ok hdec).2
  · intro c hc inner he
    obtain ⟨a, _, s, hs, _, hdec⟩ := hset c hc
    have hi := (decodeLiteral_eq_ok (decodeArgument_eq_ok hdec).1).2 inner he
    obtain ⟨p, hp, hp'⟩ := exists_inner_of_given? hs hi
    exact hinner p hp _ hp' inner rfl

end DirectiveDefinition

namespace Vocabulary

theorem isRegular_of_mem_standard {d : DirectiveDefinition} (h : d ∈ standard.definitions) :
    d.IsRegular := by
  have hall : ∀ d ∈ standard.definitions, (d.arguments.map (·.name)).Nodup ∧
      ∀ a ∈ d.arguments, (a.name = .regex → a.type = .string) ∧
        (a.name = .innerList ↔ a.type = .listConstraints) := by
    simp [standard, numberValue, stringValue, list]
  exact ⟨(hall d h).1, (hall d h).2⟩

def Allows (key : DirectiveKey) (set : ConstraintSet) : Prop :=
  ∃ d ∈ standard.definitions, d.key = key ∧ d.Conforms set

/-- What the directives on an element declare is allowed, be they legal or not. -/
theorem allows_of_mem_declarations {ctx : SchemaContext} (hv : ctx.vocabulary = standard)
    {e : SchemaElement} {key : DirectiveKey} {set : ConstraintSet}
    (h : (key, set) ∈ ctx.declarations e) : Allows key set := by
  obtain ⟨applied, _, d, hd, hk, hdec⟩ := SchemaContext.exists_decode_of_mem h
  rw [hv] at hd
  have hmem : d ∈ standard.definitions := List.mem_of_find?_eq_some hd
  exact ⟨d, hmem, hk, DirectiveDefinition.decode_conforms (isRegular_of_mem_standard hmem) hdec⟩

end Vocabulary
end ConstraintDirectives
