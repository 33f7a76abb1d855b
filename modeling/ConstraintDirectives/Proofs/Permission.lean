import ConstraintDirectives.Proofs.CompilationFaults
import ConstraintDirectives.Proofs.Interpretation

/-! Scalar rules decide which schemas compile, and not what they compile to. -/
namespace ConstraintDirectives

/-- Whatever is accepted by some rules is accepted by wider ones. -/
def ScalarRules.Within (rules wider : ScalarRules) : Prop :=
  ∀ name builtin key, rules.accepts name builtin key = true → wider.accepts name builtin key = true

/-- No rules are wider than those that let unlisted scalars take any value directive. -/
theorem ScalarRules.within_default (rules : ScalarRules) : rules.Within {} := by
  intro name builtin key h
  cases builtin <;> cases key <;> first | exact h | rfl

namespace SchemaContext
variable {ctx : SchemaContext} {wider : ScalarRules} {e : SchemaElement}

private theorem checkFits_of_within (hr : ctx.rules.Within wider) {key : DirectiveKey}
    {set : ConstraintSet} (h : ctx.checkFits e key set = .ok ()) :
    { ctx with rules := wider }.checkFits e key set = .ok () := by
  rw [checkFits] at h ⊢
  cases ht : ctx.schema.get? e.type.coreType with
  | none =>
    rw [ht] at h
    cases h
  | some t =>
    simp only [ht] at h ⊢
    by_cases hk : key = .list
    · rwa [if_pos hk] at h ⊢
    · rw [if_neg hk] at h ⊢
      cases hdef : t.definition with
      | scalar builtin =>
        simp only [hdef] at h ⊢
        split at h
        · next ha => rw [if_pos (hr _ _ _ ha)]
        · cases h
      | inputObject | object | enumeration | placeholder =>
        rw [hdef] at h
        cases h

private theorem IsLegal.of_within (hr : ctx.rules.Within wider) (h : ctx.IsLegal e) :
    { ctx with rules := wider }.IsLegal e := by
  intro applied ha d hd
  obtain ⟨hallows, set, hset, hfits⟩ := h applied ha d hd
  exact ⟨hallows, set, hset, checkFits_of_within hr hfits⟩

private theorem IsSound.of_within (hr : ctx.rules.Within wider) (h : ctx.IsSound e) :
    { ctx with rules := wider }.IsSound e :=
  ⟨h.1.of_within hr, h.2⟩

private theorem IsLegalType.of_within (hr : ctx.rules.Within wider) {id : TypeId}
    (h : ctx.IsLegalType id) : { ctx with rules := wider }.IsLegalType id := by
  obtain ⟨t, ht, hl⟩ := h
  refine ⟨t, ht, fun hi => ?_⟩
  have hl := hl hi
  cases hdef : t.definition with
  | scalar builtin =>
    rw [hdef] at hl
    exact hl.of_within hr
  | inputObject fields =>
    rw [hdef] at hl
    exact fun p hp => (hl p hp).of_within hr
  | object fields =>
    rw [hdef] at hl
    exact fun p hp => (hl p hp).of_within hr
  | enumeration | placeholder => trivial

private theorem IsWellFormed.of_within (hr : ctx.rules.Within wider) (h : ctx.IsWellFormed) :
    { ctx with rules := wider }.IsWellFormed where
  complete := h.complete
  types id hid := (h.types id hid).of_within hr
  arguments c hc p hp := (h.arguments c hc p hp).of_within hr

/-- What compiles under some rules compiles under wider ones to the same index, and all rules under
which a schema compiles give it one index. -/
theorem compile_within (vocabulary : Vocabulary) (schema : Schema) (rules rules' : ScalarRules) :
    (rules.Within rules' → ∀ index, SchemaContext.compile ⟨vocabulary, schema, rules⟩ = .ok index →
      SchemaContext.compile ⟨vocabulary, schema, rules'⟩ = .ok index) ∧
    ∀ index index', SchemaContext.compile ⟨vocabulary, schema, rules⟩ = .ok index →
      SchemaContext.compile ⟨vocabulary, schema, rules'⟩ = .ok index' → index = index' := by
  refine ⟨fun hr index h => ?_, fun index index' h h' => ?_⟩
  · obtain ⟨hw, he⟩ := compile_eq_ok_iff.mp h
    exact compile_eq_ok_iff.mpr ⟨hw.of_within hr, he⟩
  · -- Neither declarations nor trees look at the rules.
    obtain ⟨_, rfl⟩ := compile_eq_ok_iff.mp h
    obtain ⟨_, rfl⟩ := compile_eq_ok_iff.mp h'
    rfl

def codeRules : ScalarRules := { stringScalars := ["Code"], allowUnlisted := false }

set_option maxRecDepth 8000 in
/-- With codes listed, the schema of nodes compiles to the index that it has where every scalar may take
value directives. -/
theorem compile_within_of_codeRules : codeRules.Within nodeContext.rules ∧
    ∃ index, SchemaContext.compile ⟨.standard, nodeContext.schema, codeRules⟩ = .ok index ∧
      nodeContext.compile = .ok index ∧
      ∀ index', nodeContext.compile = .ok index' → index = index' := by
  obtain ⟨index, hc⟩ :
      ∃ index, SchemaContext.compile ⟨.standard, nodeContext.schema, codeRules⟩ = .ok index :=
    Sequencing.exists_eq_ok (by cbv)
  have hr : codeRules.Within nodeContext.rules := codeRules.within_default
  obtain ⟨hwider, hsame⟩ := compile_within .standard nodeContext.schema codeRules nodeContext.rules
  exact ⟨hr, index, hc, hwider hr index hc, fun index' => hsame index index' hc⟩

end SchemaContext
end ConstraintDirectives
