import ConstraintDirectives.Directive.Extraction
import ConstraintDirectives.Proofs.NestedCalls

/-! Vocabularies and schema elements are decoded to an end, if no inner list has an object as its
default. -/
namespace ConstraintDirectives

namespace Vocabulary
variable {d : DirectiveDefinition}

/-- The check of a directive, with nothing to keep defaults from nesting. -/
def checkWithin (depth : Nat) (d : DirectiveDefinition) : Calls Unit :=
  match repeated? d.arguments [] with
  | some name => throw (.invalidVocabulary (.repeatedArgument d.key name))
  | none =>
    if d.key = .list ∧ d.allows .scalar then throw (.invalidVocabulary .listOnScalar)
    else do
      let _ ← d.decodeWithin d.key.text depth [] (defaults d)
      return ()

def addWithin (depth : Nat) (v : Vocabulary) (d : DirectiveDefinition) : Calls Vocabulary := do
  checkWithin depth d
  if (v.find? d.name).isSome then throw (.invalidVocabulary .repeatedDirective)
  return ⟨v.definitions ++ [d]⟩

def ofDefinitionsWithin (depth : Nat) (definitions : List DirectiveDefinition) :
    Calls Vocabulary :=
  definitions.foldlM (addWithin depth) ⟨[]⟩

/-- No object is given for an inner list by default. -/
theorem site_eq_nil_of_defaults (hn : (d.arguments.map (·.name)).Nodup)
    (hd : ∀ a ∈ d.arguments, isNestedDefault a = false) {site : List Nat}
    {object : List (String × Value)} (h : d.Reaches (defaults d) site object) : site = [] := by
  induction h with
  | top => rfl
  | @inner site object inner i a hobject hi ht hv ih =>
    subst ih
    cases hobject
    have ha : a ∈ d.arguments := List.mem_of_getElem? hi
    rw [get?_defaults hn ha] at hv
    exact absurd rfl (DirectiveDefinition.not_record_of_isNestedDefault (hd a ha) hv ht)

private theorem checkWithin_runs (hd : ∀ a ∈ d.arguments, isNestedDefault a = false) {depth : Nat}
    (hdepth : Value.nestingAll (defaults d) < depth) : (checkWithin depth d).Runs (check d) [] := by
  have hnested : d.arguments.find? isNestedDefault = none :=
    List.find?_eq_none.mpr (by simpa using hd)
  rw [check_eq, checkWithin, hnested]
  cases hr : repeated? d.arguments [] with
  | some name => exact Calls.runs_throw _
  | none =>
    dsimp only
    split
    · exact Calls.runs_throw _
    · have hn : (d.arguments.map (·.name)).Nodup := (repeated?_eq_none_iff.mp hr).1
      have htop : d.Reaches (defaults d) [] (defaults d) := .top
      obtain ⟨calls, hbelow, hruns⟩ := DirectiveDefinition.decode_ends hd d.key.text htop
      have hnone : calls = [] := by
        refine List.eq_nil_iff_forall_not_mem.mpr fun c hc => ?_
        obtain ⟨i, -, hsuffix⟩ := hbelow.below c hc
        rw [site_eq_nil_of_defaults hn hd (hbelow.reached c hc)] at hsuffix
        exact absurd (List.eq_nil_of_suffix_nil hsuffix) (List.cons_ne_nil _ _)
      subst hnone
      have hmap : (d.decode d.key.text (defaults d)).map (fun _ => ()) =
          d.decode d.key.text (defaults d) >>= fun _ => .ok () := by
        cases d.decode d.key.text (defaults d) <;> rfl
      rw [hmap]
      exact (hruns depth hdepth).bind_quiet fun _ => Calls.runs_pure ()

private theorem addWithin_runs (hd : ∀ a ∈ d.arguments, isNestedDefault a = false) (v : Vocabulary)
    {depth : Nat} (hdepth : Value.nestingAll (defaults d) < depth) :
    (addWithin depth v d).Runs (v.add d) [] := by
  refine (checkWithin_runs hd hdepth).bind_quiet fun _ => ?_
  split
  · exact Calls.runs_throw _
  · exact Calls.runs_pure _

private theorem ofDefinitionsWithin_runs {definitions : List DirectiveDefinition}
    (hd : ∀ d ∈ definitions, ∀ a ∈ d.arguments, isNestedDefault a = false) {depth : Nat}
    (hdepth : ∀ d ∈ definitions, Value.nestingAll (defaults d) < depth) :
    (ofDefinitionsWithin depth definitions).Runs (ofDefinitions definitions) [] := by
  let enough (n : Nat) : Prop := ∀ d ∈ definitions, Value.nestingAll (defaults d) < n
  have hsteps : ∀ d ∈ definitions, ∀ v : Vocabulary, ∃ calls : List NestedCall,
      (∀ c ∈ calls, False) ∧ ∀ n, enough n → (addWithin n v d).Runs (v.add d) calls :=
    fun d hmem v => ⟨[], nofun, fun n hn => addWithin_runs (hd d hmem) v (hn d hmem)⟩
  obtain ⟨calls, hnone, hruns⟩ := Calls.exists_runs_foldlM hsteps ⟨[]⟩
  rw [List.eq_nil_iff_forall_not_mem.mpr hnone] at hruns
  exact hruns depth hdepth

end Vocabulary

namespace SchemaContext
variable (ctx : SchemaContext)

def extractOneWithin (depth : Nat) (e : SchemaElement) (tree : ConstraintTree)
    (applied : AppliedDirective) : Calls ConstraintTree :=
  match ctx.vocabulary.find? applied.name with
  | none => return tree
  | some d =>
    if d.allows e.location then do
      let set ← d.decodeWithin e.coordinate depth [] applied.arguments.entries
      ctx.checkFits e d.key set
      return tree.insert d.key set
    else throw (.misplacedDirective e.coordinate d.key e.location)

def extractWithin (depth : Nat) (e : SchemaElement) : Calls ConstraintTree :=
  e.directives.foldlM (ctx.extractOneWithin depth e) .empty

variable {ctx} {e : SchemaElement}

private theorem exists_runs_extractOneWithin
    (hd : ∀ d ∈ ctx.vocabulary.definitions, ∀ a ∈ d.arguments, Vocabulary.isNestedDefault a = false)
    (tree : ConstraintTree) (applied : AppliedDirective) :
    ∃ calls, (∀ c ∈ calls, ∃ d ∈ ctx.vocabulary.definitions,
        d.Reaches applied.arguments.entries c.site c.object) ∧
      ∀ depth, Value.nestingAll applied.arguments.entries < depth →
        (ctx.extractOneWithin depth e tree applied).Runs (ctx.extractOne e tree applied) calls := by
  cases hfind : ctx.vocabulary.find? applied.name with
  | none =>
    refine ⟨[], nofun, fun depth _ => ?_⟩
    rw [extractOneWithin, extractOne, hfind]
    exact Calls.runs_pure tree
  | some d =>
    have hmem : d ∈ ctx.vocabulary.definitions := List.mem_of_find?_eq_some hfind
    by_cases hallows : d.allows e.location = true
    · have htop : d.Reaches applied.arguments.entries [] applied.arguments.entries := .top
      obtain ⟨calls, hbelow, hruns⟩ :=
        DirectiveDefinition.decode_ends (hd d hmem) e.coordinate htop
      refine ⟨calls, fun c hc => ⟨d, hmem, hbelow.reached c hc⟩, fun depth hdepth => ?_⟩
      rw [extractOneWithin, extractOne, hfind]
      dsimp only
      rw [if_pos hallows, if_pos hallows]
      refine (hruns depth hdepth).bind_quiet fun set => ?_
      exact (Calls.runs_lift _).bind_quiet fun _ => Calls.runs_pure _
    · refine ⟨[], nofun, fun depth _ => ?_⟩
      rw [extractOneWithin, extractOne, hfind]
      dsimp only
      rw [if_neg hallows, if_neg hallows]
      exact Calls.runs_throw _

private theorem exists_runs_extractWithin
    (hd : ∀ d ∈ ctx.vocabulary.definitions, ∀ a ∈ d.arguments, Vocabulary.isNestedDefault a = false)
    (e : SchemaElement) :
    ∃ calls, (∀ c ∈ calls, ∃ applied ∈ e.directives, ∃ d ∈ ctx.vocabulary.definitions,
        d.Reaches applied.arguments.entries c.site c.object) ∧
      ∀ depth, (∀ applied ∈ e.directives, Value.nestingAll applied.arguments.entries < depth) →
        (ctx.extractWithin depth e).Runs (ctx.extract e) calls := by
  refine Calls.exists_runs_foldlM (fun applied happlied tree => ?_) ConstraintTree.empty
  obtain ⟨calls, hreached, hruns⟩ := exists_runs_extractOneWithin hd tree applied
  exact ⟨calls, fun c hc => ⟨applied, happlied, hreached c hc⟩,
    fun depth hdepth => hruns depth (hdepth applied happlied)⟩

end SchemaContext

namespace DirectiveDefinition

/-- Directives without an object as the default of an inner list are decoded in as many nested calls as
there are objects written for inner lists, at most, and to no more than the depth of those. So they make
up a vocabulary, which takes no nested call, and are extracted, which takes calls for written objects
only. -/
theorem decodeWithin_ends {definitions : List DirectiveDefinition}
    (hd : ∀ d ∈ definitions, ∀ a ∈ d.arguments, Vocabulary.isNestedDefault a = false) :
    (∀ d ∈ definitions, ∀ coordinate arguments,
      ∃ calls, d.CallsBelow arguments [] (fun _ => True) calls ∧
        ∀ depth, Value.nestingAll arguments < depth →
          (d.decodeWithin coordinate depth [] arguments).Runs
            (d.decode coordinate arguments) calls) ∧
    (∀ depth, (∀ d ∈ definitions, Value.nestingAll (Vocabulary.defaults d) < depth) →
      (Vocabulary.ofDefinitionsWithin depth definitions).Runs
        (Vocabulary.ofDefinitions definitions) []) ∧
    ∀ ctx : SchemaContext, (∀ d ∈ ctx.vocabulary.definitions, d ∈ definitions) → ∀ e,
      ∃ calls, (∀ c ∈ calls, ∃ applied ∈ e.directives, ∃ d ∈ ctx.vocabulary.definitions,
          d.Reaches applied.arguments.entries c.site c.object) ∧
        ∀ depth, (∀ applied ∈ e.directives,
            Value.nestingAll applied.arguments.entries < depth) →
          (ctx.extractWithin depth e).Runs (ctx.extract e) calls := by
  refine ⟨fun d hmem coordinate arguments => ?_, fun depth hdepth => ?_, fun ctx hctx e => ?_⟩
  · exact decode_ends (hd d hmem) coordinate .top
  · exact Vocabulary.ofDefinitionsWithin_runs hd hdepth
  · exact SchemaContext.exists_runs_extractWithin (fun d hmem => hd d (hctx d hmem)) e

/-- Lists in lists in a list, where the limit that stands in for one left out is found at every level. -/
theorem decodeWithin_ends_of_three_levels :
    let innermost : List (String × Value) := [("maxItems", .int 2)]
    let inner : List (String × Value) := [("innerList", .record innermost)]
    let arguments : List (String × Value) := [("innerList", .record inner)]
    (∀ d ∈ [limitedList], ∀ a ∈ d.arguments, Vocabulary.isNestedDefault a = false) ∧
      (limitedList.decodeWithin "Query.find(tags:)" 3 [] arguments).Runs
        (.ok [(.maxItems, .int 5), (.innerList, .nested [(.maxItems, .int 5),
          (.innerList, .nested [(.maxItems, .int 2)])])]) [⟨[2], inner⟩, ⟨[2, 2], innermost⟩] := by
  intro innermost inner arguments
  have hd : ∀ d ∈ [limitedList], ∀ a ∈ d.arguments, Vocabulary.isNestedDefault a = false := by
    decide
  obtain ⟨calls, -, hruns⟩ := (decodeWithin_ends hd).1 limitedList (List.mem_singleton_self _)
    "Query.find(tags:)" arguments
  have hdeep : Value.nestingAll arguments < 3 := by decide
  have hcalls : (limitedList.decodeWithin "Query.find(tags:)" 3 [] arguments).run.run [] =
      some (limitedList.decode "Query.find(tags:)" arguments,
        [⟨[2], inner⟩, ⟨[2, 2], innermost⟩]) := by rfl
  have hsame : calls = [⟨[2], inner⟩, ⟨[2, 2], innermost⟩] := by
    have he := (hruns 3 hdeep []).symm.trans hcalls
    exact (Prod.mk.inj (Option.some.inj he)).2
  rw [hsame] at hruns
  exact ⟨hd, hruns 3 hdeep⟩

end DirectiveDefinition
end ConstraintDirectives
