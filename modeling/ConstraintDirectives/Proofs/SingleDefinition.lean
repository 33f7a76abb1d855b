import ConstraintDirectives.Proofs.SchemaGrowth

/-! A type that has been defined is neither defined again nor missed. A definition as a placeholder does
not count. -/
namespace ConstraintDirectives

namespace Schema

variable {s s' : Schema} {id : TypeId} {definition : TypeDefinition}
  {directives : List AppliedDirective} {t : NamedType}

theorem get?_of_define (h : s.define id definition directives = (.ok (), s')) :
    ∃ old, s.get? id = some old ∧ s'.get? id = some ⟨old.name, definition, directives⟩ := by
  obtain ⟨old, hold, -, htypes, -⟩ := define_eq_ok h
  exact ⟨old, hold, by rw [get?_of_types_set hold htypes, if_pos rfl]⟩

theorem define_of_isPlaceholder (ht : s.get? id = some t) (hp : t.definition.isPlaceholder = true)
    (definition : TypeDefinition) (directives : List AppliedDirective) :
    ∃ s', s.define id definition directives = (.ok (), s') := by
  rw [define, ht]
  exact ⟨_, if_pos hp⟩

theorem define_of_isDefined (ht : s.get? id = some t) (hd : t.definition.isPlaceholder = false)
    (definition : TypeDefinition) (directives : List AppliedDirective) :
    s.define id definition directives = (.error (.alreadyDefined t.name), s) := by
  rw [define, ht]
  exact if_neg (by simp [hd])

private theorem IsIndexed.eq_of_name_eq (h : s.IsIndexed) {i j : TypeId} {t u : NamedType}
    (ht : s.get? i = some t) (hu : s.get? j = some u) (hname : t.name = u.name) : i = j := by
  have hi : s.find? u.name = some i := (h u.name i).mpr ⟨t, ht, hname⟩
  have hj : s.find? u.name = some j := (h u.name j).mpr ⟨u, hu, rfl⟩
  exact Option.some.inj (hi.symm.trans hj)

/-- A type that is missed is one that is not defined, and no other type bears its name. -/
theorem IsIndexed.checkComplete_ne_of_isDefined (h : s.IsIndexed) (ht : s.get? id = some t)
    (hd : t.definition.isPlaceholder = false) :
    s.checkComplete ≠ .error (.undefinedType t.name) := by
  intro hmissed
  obtain ⟨i, u, hfirst, he⟩ := checkComplete_eq_error_iff.mp hmissed
  have hid : id = i := h.eq_of_name_eq ht hfirst.get? (SchemaError.undefinedType.inj he)
  subst hid
  cases ht.symm.trans hfirst.get?
  have hdeclared := hfirst.declared
  simp [hd] at hdeclared

/-- After a type has been defined as a placeholder it is still to be defined, and still can be. -/
theorem define_placeholder (h : s.define id .placeholder directives = (.ok (), s')) :
    s'.checkComplete ≠ .ok () ∧
      ∀ definition directives', ∃ s'', s'.define id definition directives' = (.ok (), s'') := by
  obtain ⟨old, -, hget⟩ := get?_of_define h
  refine ⟨fun hcomplete => ?_, define_of_isPlaceholder hget rfl⟩
  cases checkComplete_eq_ok_iff.mp hcomplete id _ hget

/-- Of two definitions of one type that are both accepted, the first may be a placeholder. -/
theorem define_twice_of_placeholder : ∃ declared held defined : Schema,
    declared = builtin.run [.declare "TreeInput"] ∧
      declared.define ⟨5⟩ .placeholder [] = (.ok (), held) ∧
      held.checkComplete = .error (.undefinedType "TreeInput") ∧
      held.define ⟨5⟩ (.enumeration ["A"]) [] = (.ok (), defined) :=
  ⟨_, _, _, rfl, rfl, rfl, rfl⟩

/-- A type for which something other than a placeholder has been accepted is defined so for good, whatever
is tried on the schema later. Any other definition of it is refused and changes nothing, and the type is
not missed. -/
theorem define_once {edits : List Edit}
    (h : (builtin.run edits).define id definition directives = (.ok (), s'))
    (hd : definition.isPlaceholder = false) (more : List Edit) :
    let later := s'.run more
    ∃ name, (∃ old, (builtin.run edits).get? id = some old ∧ old.name = name) ∧
      later.get? id = some ⟨name, definition, directives⟩ ∧
      (∀ definition' directives',
        later.define id definition' directives' = (.error (.alreadyDefined name), later)) ∧
      later.checkComplete ≠ .error (.undefinedType name) := by
  intro later
  obtain ⟨old, hold, hget⟩ := get?_of_define h
  have hlater : later.get? id = some ⟨old.name, definition, directives⟩ := by
    obtain ⟨kept, hkept, hkeeps⟩ := Precedes.run s' more id _ hget
    rw [hkept, hkeeps hd]
  have hindexed : later.IsIndexed := ((isIndexed_builtin.run edits).define h).run more
  refine ⟨old.name, ⟨old, hold, rfl⟩, hlater, fun definition' directives' => ?_, ?_⟩
  · exact define_of_isDefined hlater hd definition' directives'
  · have hmissed := hindexed.checkComplete_ne_of_isDefined hlater hd
    exact hmissed

theorem define_once_of_self_reference :
    let tree := TypeDefinition.inputObject (.ofList [("child", ⟨.list (.named ⟨5⟩), []⟩)])
    ∃ s', (builtin.run [.declare "TreeInput"]).define ⟨5⟩ tree [] = (.ok (), s') ∧
      let later := s'.run [.define ⟨5⟩ .placeholder [], .declare "Later"]
      later.get? ⟨5⟩ = some ⟨"TreeInput", tree, []⟩ ∧
      later.define ⟨5⟩ (.enumeration ["A"]) [] = (.error (.alreadyDefined "TreeInput"), later) ∧
      later.checkComplete ≠ .error (.undefinedType "TreeInput") := by
  intro tree
  have hdeclared : (builtin.run [.declare "TreeInput"]).get? ⟨5⟩ =
      some ⟨"TreeInput", .placeholder, []⟩ := rfl
  obtain ⟨s', hs'⟩ := define_of_isPlaceholder hdeclared rfl tree []
  refine ⟨s', hs', ?_⟩
  obtain ⟨name, ⟨old, hold, hname⟩, hget, hagain, hmissed⟩ := define_once hs' rfl
    [.define ⟨5⟩ .placeholder [], .declare "Later"]
  cases hold
  subst hname
  exact ⟨hget, hagain _ _, hmissed⟩

end Schema
end ConstraintDirectives
