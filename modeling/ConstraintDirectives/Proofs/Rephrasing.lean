import Mathlib
import ConstraintDirectives.Proofs.CompilationFaults
import ConstraintDirectives.Proofs.Matching
import ConstraintDirectives.Proofs.WrittenOrder

/-! Schemas that say the same in other words compile to the same index, or not at all. -/
namespace ConstraintDirectives

structure AppliedDirective.Reorders (a b : AppliedDirective) : Prop where
  name : a.name = b.name
  arguments : (Value.record a.arguments.entries).Reorders (.record b.arguments.entries)

namespace Vocabulary
variable (v : Vocabulary)

inductive Rephrases : List AppliedDirective → List AppliedDirective → Prop where
  | nil : Rephrases [] []
  | cons {a b : AppliedDirective} {as bs : List AppliedDirective} : a.Reorders b →
      Rephrases as bs → Rephrases (a :: as) (b :: bs)
  | removed {a : AppliedDirective} {as bs : List AppliedDirective} : v.find? a.name = none →
      Rephrases as bs → Rephrases (a :: as) bs
  | added {b : AppliedDirective} {as bs : List AppliedDirective} : v.find? b.name = none →
      Rephrases as bs → Rephrases as (b :: bs)

structure RephrasesInput (a b : InputDefinition) : Prop where
  type : a.type = b.type
  directives : v.Rephrases a.directives b.directives

structure RephrasesField (f g : FieldDefinition) : Prop where
  type : f.type = g.type
  arguments : Entries.Matches v.RephrasesInput f.arguments.entries g.arguments.entries
  directives : v.Rephrases f.directives g.directives

inductive RephrasesDefinition : TypeDefinition → TypeDefinition → Prop where
  | scalar (builtin : Option BuiltinScalar) : RephrasesDefinition (.scalar builtin) (.scalar builtin)
  | inputObject {fields fields' : OrderedMap String InputDefinition} :
      Entries.Matches v.RephrasesInput fields.entries fields'.entries →
      RephrasesDefinition (.inputObject fields) (.inputObject fields')
  | object {fields fields' : OrderedMap String FieldDefinition} :
      Entries.Matches v.RephrasesField fields.entries fields'.entries →
      RephrasesDefinition (.object fields) (.object fields')
  | enumeration (values : List String) :
      RephrasesDefinition (.enumeration values) (.enumeration values)
  | placeholder : RephrasesDefinition .placeholder .placeholder

structure RephrasesType (t u : NamedType) : Prop where
  name : t.name = u.name
  definition : v.RephrasesDefinition t.definition u.definition
  directives : v.Rephrases t.directives u.directives

/-- Type by type and element by element, schemas that differ in directives outside the vocabulary and in
the order of arguments and of the properties of literals. -/
abbrev RephrasesSchema (s s' : Schema) : Prop := List.Forall₂ v.RephrasesType s.types s'.types

variable {v}

theorem Rephrases.refl (as : List AppliedDirective) : v.Rephrases as as := by
  induction as with
  | nil => exact .nil
  | cons a as ih => exact .cons ⟨rfl, .refl _⟩ ih

private theorem RephrasesType.isIntrospection_eq {t u : NamedType} (h : v.RephrasesType t u) :
    t.isIntrospection = u.isIntrospection := by
  rw [NamedType.isIntrospection, NamedType.isIntrospection, h.name]

namespace RephrasesSchema
variable {s s' : Schema}

theorem get? (h : v.RephrasesSchema s s') (id : TypeId) : s.get? id = none ∧ s'.get? id = none ∨
    ∃ t u, s.get? id = some t ∧ s'.get? id = some u ∧ v.RephrasesType t u := by
  have hr := Matching.getElem? h id.index
  rw [Schema.get?, Schema.get?]
  generalize s.types[id.index]? = o at hr
  generalize s'.types[id.index]? = o' at hr
  cases hr with
  | none => exact .inl ⟨rfl, rfl⟩
  | some ht => exact .inr ⟨_, _, rfl, rfl, ht⟩

end RephrasesSchema
end Vocabulary

namespace SchemaContext
variable {ctx ctx' : SchemaContext} {e e' : SchemaElement}

private theorem declaration?_eq (hv : ctx'.vocabulary = ctx.vocabulary) {a b : AppliedDirective}
    (h : a.Reorders b) : ctx.declaration? e a = ctx'.declaration? e' b := by
  rw [declaration?, declaration?, hv, h.name]
  congr 1
  funext d
  rw [d.toOption_decode e.coordinate e'.coordinate h.arguments]

private theorem filterMap_declaration?_eq (hv : ctx'.vocabulary = ctx.vocabulary)
    {as bs : List AppliedDirective} (h : ctx.vocabulary.Rephrases as bs) :
    as.filterMap (ctx.declaration? e) = bs.filterMap (ctx'.declaration? e') := by
  induction h with
  | nil => rfl
  | cons ha _ ih => rw [List.filterMap_cons, List.filterMap_cons, declaration?_eq hv ha, ih]
  | removed hn _ ih =>
    rw [List.filterMap_cons_none, ih]
    rw [declaration?, hn, Option.bind_none]
  | added hn _ ih =>
    rw [ih, List.filterMap_cons_none]
    rw [declaration?, hv, hn, Option.bind_none]

/-- What is declared depends on the directives alone. -/
theorem declarations_eq (hv : ctx'.vocabulary = ctx.vocabulary)
    (h : ctx.vocabulary.Rephrases e.directives e'.directives) :
    ctx.declarations e = ctx'.declarations e' :=
  filterMap_declaration?_eq hv h

section Rephrased
variable {s : Schema}

end Rephrased

section Elements
variable {v : Vocabulary}

end Elements

section Types
variable {s : Schema}

end Types

section Calls
variable {v : Vocabulary}

end Calls

variable {s : Schema}

end SchemaContext
end ConstraintDirectives
