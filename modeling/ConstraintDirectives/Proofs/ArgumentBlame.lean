import ConstraintDirectives.Proofs.ExplicitNulls

/-! Defaults of an accepted directive always decode, so an argument that is refused is blamed on a
literal that was written. -/
namespace ConstraintDirectives

namespace DirectiveDefinition
variable {d : DirectiveDefinition} {coordinate : String} {arguments : List (String × Value)}
  {a : ArgumentDefinition}

/-- The argument that an error names was written, and not as a null, in the application or in an object
that is given for an inner list. -/
def Blames (d : DirectiveDefinition) (coordinate : String) (arguments : List (String × Value))
    (err : DirectiveError) (name : ConstraintName) : Prop :=
  ∃ site object a v, d.Reaches arguments site object ∧ a ∈ d.arguments ∧ a.name = name ∧
    Entries.get? object a.name.text = some v ∧ v.isNull = false ∧
    d.decodeArgument coordinate a (d.supply coordinate v) = .error err

/-- What is given for an argument and does not decode is no default. -/
theorem IsAccepted.written_of_error (h : d.IsAccepted) (ha : a ∈ d.arguments) {s : Supplied}
    (hs : given? (d.supplyAll coordinate arguments) a = some s) {err : DirectiveError}
    (hfail : d.decodeArgument coordinate a s = .error err) :
    ∃ v, Entries.get? arguments a.name.text = some v ∧ v.isNull = false ∧
      s = d.supply coordinate v := by
  obtain ⟨v, hnull, ⟨hv, rfl⟩ | ⟨-, hdefault, rfl⟩⟩ := exists_literal_of_given? hs
  · exact ⟨v, hv, hnull, rfl⟩
  · obtain ⟨declared, hdecodes⟩ := h.exists_decodeArgument coordinate ha hdefault hnull
    cases hfail.symm.trans hdecodes

private theorem IsAccepted.blames (h : d.IsAccepted) {top : List (String × Value)} {site : List Nat}
    (hr : d.Reaches top site arguments) {err : DirectiveError}
    (hdecode : d.decode coordinate arguments = .error err) {name : ConstraintName}
    (hname : err.argument? = some name) : d.Blames coordinate top err name := by
  induction arguments using byObjects generalizing site with
  | step arguments ih =>
    rw [decode, decodeSupplied] at hdecode
    split at hdecode
    · cases hdecode
      cases hname
    · obtain ⟨a, ha, s, hs, hfail⟩ := decodeGiven_eq_error hdecode
      obtain ⟨v, hv, hnull, rfl⟩ := h.written_of_error ha hs hfail
      rcases decodeArgument_eq_error hfail with ⟨-, hhere⟩ | ⟨ht, hinner⟩
      · exact ⟨site, arguments, a, v, hr, ha, Option.some.inj (hhere.symm.trans hname), hv, hnull,
          hfail⟩
      · cases v with
        | record inner =>
          obtain ⟨i, hi⟩ := List.mem_iff_getElem?.mp ha
          have hreaches : d.Reaches top (i :: site) inner := hr.inner hi ht hv
          exact ih _ (Entries.mem_of_get? hv) inner rfl hreaches (Option.some.inj hinner)
        | null | boolean | int | float | string | list => cases hinner

end DirectiveDefinition

namespace Vocabulary

/-- In an accepted vocabulary each directive stands once, under its name, and names its arguments apart.
It decodes with nothing written, and when it does not decode because of an argument, that argument was
written. -/
theorem ofDefinitions_blameless {definitions : List DirectiveDefinition} {vocabulary : Vocabulary}
    (h : ofDefinitions definitions = .ok vocabulary) :
    vocabulary.definitions = definitions ∧ (definitions.map (·.key)).Nodup ∧
      ∀ d ∈ definitions, (d.arguments.map (·.name)).Nodup ∧ vocabulary.find? d.name = some d ∧
        (d.key = .list → d.allows .scalar = false) ∧
        ∀ coordinate, (∃ set, d.decode coordinate [] = .ok set) ∧
          ∀ arguments err name, d.decode coordinate arguments = .error err →
            err.argument? = some name → d.Blames coordinate arguments err name := by
  obtain ⟨hall, hnames, rfl⟩ := ofDefinitions_eq_ok_iff.mp h
  have hkeys : (definitions.map (·.key)).Nodup := by
    refine List.Nodup.of_map DirectiveKey.name ?_
    rwa [List.map_map]
  refine ⟨rfl, hkeys, fun d hd => ?_⟩
  have hd' : d.IsAccepted := hall d hd
  refine ⟨hd'.nodup, find?_of_mem hnames hd, fun hlist => ?_, fun coordinate => ⟨?_, ?_⟩⟩
  · exact eq_false_of_ne_true fun hscalar => hd'.not_list_on_scalar ⟨hlist, hscalar⟩
  · exact hd'.exists_decode_nil coordinate
  · exact fun arguments err name hdecode hname => hd'.blames .top hdecode hname

/-- A word where a limit is due, in an inner list for which a limit would have stood in. -/
theorem ofDefinitions_blameless_of_limits :
    let definitions := [DirectiveDefinition.limitedText, .limitedList]
    let arguments : List (String × Value) := [("innerList", .record [("maxItems", .string "few")])]
    let err : DirectiveError := .wrongArgumentType "Query.find(tags:)" .list .maxItems .int "String"
    ofDefinitions definitions = .ok ⟨definitions⟩ ∧
      DirectiveDefinition.limitedList.decode "Query.find(tags:)" arguments = .error err ∧
      DirectiveDefinition.limitedList.Blames "Query.find(tags:)" arguments err .maxItems := by
  intro definitions arguments err
  have haccepted : ofDefinitions definitions = .ok ⟨definitions⟩ := by rfl
  have hdecode : DirectiveDefinition.limitedList.decode "Query.find(tags:)" arguments =
      .error err := by rfl
  have hmem : DirectiveDefinition.limitedList ∈ definitions := by simp [definitions]
  obtain ⟨-, -, -, hblames⟩ := (ofDefinitions_blameless haccepted).2.2 _ hmem
  exact ⟨haccepted, hdecode, (hblames "Query.find(tags:)").2 arguments err .maxItems hdecode rfl⟩

end Vocabulary
end ConstraintDirectives
