import ConstraintDirectives.Proofs.Compilation
import ConstraintDirectives.Proofs.Decoding

/-! Every error of a compilation is that of one of its elements, and a schema without faulty elements
compiles. -/
namespace ConstraintDirectives

/-- Arguments and input fields: what their types constrain is inherited. -/
def SchemaElement.TakesInput (e : SchemaElement) : Prop :=
  e.location = .inputFieldDefinition ∨ e.location = .argumentDefinition

/-- The elements on which directives are compiled. There are none in introspection types. -/
inductive Schema.HasElement (s : Schema) : SchemaElement → Prop where
  | scalar {id : TypeId} {t : NamedType} {builtin : Option BuiltinScalar} : s.get? id = some t →
      t.isIntrospection = false → t.definition = .scalar builtin →
      HasElement s (SchemaContext.scalarElement id t)
  | inputField {id : TypeId} {t : NamedType} {fields : OrderedMap String InputDefinition}
      {p : String × InputDefinition} : s.get? id = some t → t.isIntrospection = false →
      t.definition = .inputObject fields → p ∈ fields.entries →
      HasElement s (SchemaContext.inputFieldElement t.name p.1 p.2)
  | outputField {id : TypeId} {t : NamedType} {fields : OrderedMap String FieldDefinition}
      {p : String × FieldDefinition} : s.get? id = some t → t.isIntrospection = false →
      t.definition = .object fields → p ∈ fields.entries →
      HasElement s (SchemaContext.outputFieldElement t.name p.1 p.2)
  | argument {id : TypeId} {t : NamedType} {fields : OrderedMap String FieldDefinition}
      {p : String × FieldDefinition} {q : String × InputDefinition} : s.get? id = some t →
      t.isIntrospection = false → t.definition = .object fields → p ∈ fields.entries →
      q ∈ p.2.arguments.entries →
      HasElement s (SchemaContext.argumentElement ⟨t.name, p.1⟩ q.1 q.2)

namespace SchemaContext
variable (ctx : SchemaContext)

/-- Whether an error is about an element: it names the element, or the type that a directive of the
vocabulary looks up there and does not find. -/
def Blames (e : SchemaElement) (err : DirectiveError) : Prop :=
  err.coordinate? = some e.coordinate ∨
    err = .schema (.typeNotFound e.type.coreType) ∧ ctx.schema.get? e.type.coreType = none ∧
      ∃ applied ∈ e.directives, (ctx.vocabulary.find? applied.name).isSome = true

inductive Explains : DirectiveError → Prop where
  | undefinedType {id : TypeId} {t : NamedType} : ctx.schema.get? id = some t →
      t.definition.isPlaceholder = true → Explains (.schema (.undefinedType t.name))
  | missingType {e : SchemaElement} : ctx.schema.HasElement e → e.TakesInput →
      ctx.schema.get? e.type.coreType = none → Explains (.schema (.typeNotFound e.type.coreType))
  | misapplied {e : SchemaElement} {err : DirectiveError} : ctx.schema.HasElement e →
      ctx.extract e = .error err → ctx.Blames e err → Explains err

variable {ctx} {e : SchemaElement} {err : DirectiveError}

private theorem checkFits_eq_error {key : DirectiveKey} {set : ConstraintSet}
    (h : ctx.checkFits e key set = .error err) : err.coordinate? = some e.coordinate ∨
      err = .schema (.typeNotFound e.type.coreType) ∧ ctx.schema.get? e.type.coreType = none := by
  rw [checkFits] at h
  split at h
  · next ht =>
    cases h
    exact .inr ⟨rfl, ht⟩
  · refine .inl ?_
    split at h
    · split at h
      · cases h
        rfl
      · split at h
        · cases h
        · cases h
          rfl
    · split at h
      · split at h
        · cases h
        · cases h
          rfl
      · cases h
        rfl

private theorem extractOne_eq_error {tree : ConstraintTree} {applied : AppliedDirective}
    (h : ctx.extractOne e tree applied = .error err) :
    (ctx.vocabulary.find? applied.name).isSome = true ∧ (err.coordinate? = some e.coordinate ∨
      err = .schema (.typeNotFound e.type.coreType) ∧ ctx.schema.get? e.type.coreType = none) := by
  rw [extractOne] at h
  split at h
  · cases h
  · next d hd =>
    refine ⟨by rw [hd]; rfl, ?_⟩
    split at h
    · rcases Sequencing.bind_eq_error_iff.mp h with h | ⟨set, _, h⟩
      · exact .inl (DirectiveDefinition.decode_eq_error h)
      · rcases Sequencing.bind_eq_error_iff.mp h with h | ⟨_, _, h⟩
        · exact checkFits_eq_error h
        · cases h
    · cases h
      exact .inl rfl

/-- Extraction fails with an error about its element. -/
theorem extract_eq_error (h : ctx.extract e = .error err) : ctx.Blames e err := by
  suffices ∀ start, e.directives.foldlM (ctx.extractOne e) start = .error err →
      ∃ applied ∈ e.directives, ∃ tree, ctx.extractOne e tree applied = .error err by
    obtain ⟨applied, ha, tree, h⟩ := this _ h
    obtain ⟨hsome, hc | ⟨rfl, hnone⟩⟩ := extractOne_eq_error h
    · exact .inl hc
    · exact .inr ⟨rfl, hnone, applied, ha, hsome⟩
  clear h
  induction e.directives with
  | nil => exact nofun
  | cons applied rest ih =>
    intro start h
    rw [List.foldlM_cons] at h
    rcases Sequencing.bind_eq_error_iff.mp h with h | ⟨tree, _, h⟩
    · exact ⟨applied, List.mem_cons_self .., start, h⟩
    · obtain ⟨later, hl, hrest⟩ := ih tree h
      exact ⟨later, List.mem_cons_of_mem _ hl, hrest⟩

private theorem explains_of_extract (he : ctx.schema.HasElement e) (h : ctx.extract e = .error err) :
    ctx.Explains err :=
  .misapplied he h (extract_eq_error h)

def ExplainsType (ctx : SchemaContext) (id : TypeId) (err : DirectiveError) : Prop :=
  ctx.Explains err ∨ ctx.schema.get? id = none ∧ err = .schema (.typeNotFound id)

private theorem ExplainsType.of_element (h : ctx.ExplainsType e.type.coreType err)
    (he : ctx.schema.HasElement e) (hi : e.TakesInput) : ctx.Explains err := by
  rcases h with h | ⟨hnone, rfl⟩
  · exact h
  · exact .missingType he hi hnone

def FailsBelow (ctx : SchemaContext) (n : Nat) : Prop :=
  ∀ id table err, table.pendingCount < n → table.statuses.length = ctx.schema.types.length →
    ctx.compileType id table = .error err → ctx.ExplainsType id err

private theorem compileFields_eq_error {n : Nat} (hrec : FailsBelow ctx n) {owner : String}
    {fields : List (String × InputDefinition)} {tree : ConstraintTree} {table : TypeTable}
    (hn : table.pendingCount < n) (hc : table.statuses.length = ctx.schema.types.length)
    (hf : ∀ p ∈ fields, ctx.schema.HasElement (inputFieldElement owner p.1 p.2))
    (h : ctx.compileFields owner fields tree table = .error err) : ctx.Explains err := by
  induction fields generalizing tree table with
  | nil =>
    rw [compileFields] at h
    cases h
  | cons p rest ih =>
    obtain ⟨name, f⟩ := p
    obtain ⟨he, hrest⟩ := List.forall_mem_cons.mp hf
    rw [compileFields] at h
    rcases Sequencing.bind_eq_error_iff.mp h with h | ⟨own, _, h⟩
    · exact explains_of_extract he h
    rcases Sequencing.bind_eq_error_iff.mp h with h | ⟨⟨later, hle⟩, hlater, h⟩
    · exact (hrec _ _ _ hn hc h).of_element he (.inl rfl)
    rcases Sequencing.bind_eq_error_iff.mp h with h | ⟨⟨_, ⟨_, _⟩⟩, _, h⟩
    · have hgrow := (compileType_settles n _ _ _ hn hc hlater).1
      exact ih (Nat.lt_of_le_of_lt hle hn) (hgrow.length.trans hc) hrest h
    · cases h

private theorem compileType_eq_error (n : Nat) : FailsBelow ctx n := by
  induction n with
  | zero => exact fun _ _ _ hn => absurd hn (Nat.not_lt_zero _)
  | succ n ih =>
    intro id table err hn hc h
    rw [compileType] at h
    split at h
    · next hnone =>
      cases h
      refine .inr ⟨?_, rfl⟩
      rw [Schema.get?, List.getElem?_eq_none_iff, ← hc]
      exact List.getElem?_eq_none_iff.mp hnone
    · cases h
    · cases h
    · next hp =>
      have hlt : (table.set id .underWay).pendingCount < n :=
        Nat.lt_of_lt_of_le (TypeTable.pendingCount_set_lt hp rfl) (Nat.le_of_lt_succ hn)
      have hc' : (table.set id .underWay).statuses.length = ctx.schema.types.length := by
        rw [TypeTable.length_set, hc]
      dsimp only at h
      split at h
      · next hnone =>
        cases h
        exact .inr ⟨hnone, rfl⟩
      · next t ht =>
        refine .inl ?_
        split at h
        · cases h
        · next hi =>
          rw [Bool.not_eq_true] at hi
          split at h
          · next hdef =>
            exact explains_of_extract (.scalar ht hi hdef) (Sequencing.map_eq_error_iff.mp h)
          · next fields hdef =>
            exact compileFields_eq_error ih hlt hc' (fun p hp => .inputField ht hi hdef hp)
              (Sequencing.map_eq_error_iff.mp h)
          · next fields hdef =>
            obtain ⟨p, hp, h⟩ := Sequencing.forM_eq_error (Sequencing.map_eq_error_iff.mp h)
            rcases Sequencing.bind_eq_error_iff.mp h with h | ⟨_, _, h⟩
            · exact explains_of_extract (.outputField ht hi hdef hp) h
            · cases h
          · cases h
          · cases h

variable {table : TypeTable}

private theorem compileTypes_eq_error {ids : List TypeId}
    (hc : table.statuses.length = ctx.schema.types.length)
    (hids : ∀ id ∈ ids, (ctx.schema.get? id).isSome = true)
    (h : ctx.compileTypes ids table = .error err) : ctx.Explains err := by
  induction ids generalizing table with
  | nil => cases h
  | cons id ids ih =>
    obtain ⟨hid, hids⟩ := List.forall_mem_cons.mp hids
    rcases Sequencing.bind_eq_error_iff.mp h with h | ⟨later, hlater, h⟩
    · rcases compileType_eq_error _ id table err (Nat.lt_succ_self _) hc h with h | ⟨hnone, _⟩
      · exact h
      · rw [hnone] at hid
        cases hid
    · have hgrow := (compileType_settles _ id table later (Nat.lt_succ_self _) hc hlater).1
      exact ih (hgrow.length.trans hc) hids h

private theorem compileArguments_eq_error (hc : IsComplete ctx table) {field : FieldCoordinate}
    {arguments : List (String × InputDefinition)}
    (ha : ∀ p ∈ arguments, ctx.schema.HasElement (argumentElement field p.1 p.2))
    (h : ctx.compileArguments field arguments table = .error err) : ctx.Explains err := by
  induction arguments with
  | nil => cases h
  | cons p rest ih =>
    obtain ⟨he, hrest⟩ := List.forall_mem_cons.mp ha
    rcases Sequencing.bind_eq_error_iff.mp h with h | ⟨own, _, h⟩
    · exact explains_of_extract he h
    rcases Sequencing.bind_eq_error_iff.mp h with h | ⟨later, hlater, h⟩
    · have hfails := compileType_eq_error _ _ table err (Nat.lt_succ_self _) hc.length h
      exact hfails.of_element he (.inr rfl)
    rcases Sequencing.bind_eq_error_iff.mp h with h | ⟨_, _, h⟩
    · rw [(compileType_complete hc hlater).1] at h
      exact ih hrest h
    · cases h

private theorem compileObject_eq_error (hc : IsComplete ctx table) {owner : String}
    {fields : List (String × FieldDefinition)}
    (hf : ∀ p ∈ fields, ∀ q ∈ p.2.arguments.entries,
      ctx.schema.HasElement (argumentElement ⟨owner, p.1⟩ q.1 q.2))
    (h : ctx.compileObject owner fields table = .error err) : ctx.Explains err := by
  induction fields with
  | nil => cases h
  | cons p rest ih =>
    obtain ⟨he, hrest⟩ := List.forall_mem_cons.mp hf
    rcases Sequencing.bind_eq_error_iff.mp h with h | ⟨⟨trees, later⟩, hlater, h⟩
    · exact compileArguments_eq_error hc he h
    cases (compileArguments_eq_ok hc hlater).1
    rcases Sequencing.bind_eq_error_iff.mp h with h | ⟨_, _, h⟩
    · exact ih hrest h
    · cases h

private theorem compileObjects_eq_error (hc : IsComplete ctx table) {types : List NamedType}
    (ht : ∀ t ∈ types, ∃ id, ctx.schema.get? id = some t)
    (h : ctx.compileObjects types table = .error err) : ctx.Explains err := by
  induction types with
  | nil => cases h
  | cons t rest ih =>
    obtain ⟨⟨id, hid⟩, hrest⟩ := List.forall_mem_cons.mp ht
    rw [compileObjects] at h
    split at h
    · next fields hi hdef =>
      rcases Sequencing.bind_eq_error_iff.mp h with h | ⟨⟨compiled, later⟩, hlater, h⟩
      · exact compileObject_eq_error hc (fun p hp q hq => .argument hid hi hdef hp hq) h
      cases (compileObject_eq_ok hc hlater).1
      rcases Sequencing.bind_eq_error_iff.mp h with h | ⟨_, _, h⟩
      · exact ih hrest h
      · cases h
    · exact ih hrest h

/-- Compilation fails with errors that are explained. -/
theorem compile_eq_error (h : ctx.compile = .error err) :
    ctx.Explains err := by
  rcases Sequencing.bind_eq_error_iff.mp h with h | ⟨_, _, h⟩
  · cases hc : ctx.schema.checkComplete with
    | ok u =>
      rw [hc] at h
      cases h
    | error err' =>
      rw [hc] at h
      cases h
      obtain ⟨id, t, hfirst, rfl⟩ := Schema.checkComplete_eq_error_iff.mp hc
      exact .undefinedType hfirst.get? hfirst.declared
  rcases Sequencing.bind_eq_error_iff.mp h with h | ⟨table, htable, h⟩
  · exact compileTypes_eq_error (List.length_map _)
      (fun id hid => ctx.schema.isSome_get?_of_mem_ids hid) h
  rcases Sequencing.bind_eq_error_iff.mp h with h | ⟨_, _, h⟩
  · exact compileObjects_eq_error (compileTypes_complete (fun _ => id) htable).1
      (fun t ht => Schema.mem_types_iff.mp ht) h
  · cases h

/-- In a well-formed schema every element is legal, and those that take input have a type. -/
theorem IsWellFormed.isLegal_of_hasElement (hw : ctx.IsWellFormed)
    (he : ctx.schema.HasElement e) : ctx.IsLegal e ∧
      (e.TakesInput → (ctx.schema.get? e.type.coreType).isSome = true) := by
  have legalType {id : TypeId} {t : NamedType} (ht : ctx.schema.get? id = some t) :
      ctx.IsLegalType id := hw.types id (ctx.schema.mem_ids ht)
  cases he with
  | scalar ht hi hdef => exact ⟨(legalType ht).of_definition ht hi hdef, nofun⟩
  | inputField ht hi hdef hp =>
    have hsound := (legalType ht).of_definition ht hi hdef _ hp
    exact ⟨hsound.1, fun _ => hsound.2⟩
  | outputField ht hi hdef hp => exact ⟨(legalType ht).of_definition ht hi hdef _ hp, nofun⟩
  | @argument id t fields p q ht hi hdef hp hq =>
    have hmem : (q.1, argumentElement ⟨t.name, p.1⟩ q.1 q.2) ∈
        argumentElements ⟨t.name, p.1⟩ p.2 := List.mem_map.mpr ⟨q, hq, rfl⟩
    have hsound := hw.arguments _ (ctx.schema.mem_callables ht hi hdef hp) _ hmem
    exact ⟨hsound.1, fun _ => hsound.2⟩

/-- Nothing makes a well-formed schema fail. -/
theorem IsWellFormed.not_explains (hw : ctx.IsWellFormed) : ¬ ctx.Explains err := by
  intro h
  cases h with
  | undefinedType ht hp =>
    rw [ctx.schema.checkComplete_eq_ok hw.complete ht] at hp
    cases hp
  | missingType he hi hnone =>
    have hsome := (hw.isLegal_of_hasElement he).2 hi
    rw [hnone] at hsome
    cases hsome
  | misapplied he hex _ =>
    rw [extract_eq_ok_iff.mpr ⟨(hw.isLegal_of_hasElement he).1, rfl⟩] at hex
    cases hex

/-- Well-formed schemas compile, each to its index, and no others do. -/
theorem compile_eq_ok_iff {index : ConstraintIndex} :
    ctx.compile = .ok index ↔ ctx.IsWellFormed ∧ index = ctx.compiledIndex := by
  refine ⟨compile_eq_ok, ?_⟩
  rintro ⟨hw, rfl⟩
  cases h : ctx.compile with
  | ok index => rw [(compile_eq_ok h).2]
  | error err => exact absurd (compile_eq_error h) hw.not_explains

/-- A schema compiles if and only if all its types are defined, all directives on its elements can be
extracted, and the types of its arguments and input fields are there. Every error says of the schema
what is true of it. -/
theorem compile_ok_iff_and_error_explained (ctx : SchemaContext) :
    ((∃ index, ctx.compile = .ok index) ↔
      (∀ id t, ctx.schema.get? id = some t → t.definition.isPlaceholder = false) ∧
      ∀ e, ctx.schema.HasElement e → (∃ tree, ctx.extract e = .ok tree) ∧
        (e.TakesInput → (ctx.schema.get? e.type.coreType).isSome = true)) ∧
    ∀ err, ctx.compile = .error err → ctx.Explains err := by
  refine ⟨⟨?_, ?_⟩, fun err => compile_eq_error⟩
  · rintro ⟨index, h⟩
    have hw := (compile_eq_ok h).1
    refine ⟨fun id t => ctx.schema.checkComplete_eq_ok hw.complete, fun e he => ?_⟩
    obtain ⟨hlegal, htype⟩ := hw.isLegal_of_hasElement he
    exact ⟨⟨_, extract_eq_ok_iff.mpr ⟨hlegal, rfl⟩⟩, htype⟩
  · rintro ⟨hdefined, helements⟩
    cases h : ctx.compile with
    | ok index => exact ⟨index, rfl⟩
    | error err =>
      cases compile_eq_error h with
      | undefinedType ht hp =>
        rw [hdefined _ _ ht] at hp
        cases hp
      | missingType he hi hnone =>
        have hsome := (helements _ he).2 hi
        rw [hnone] at hsome
        cases hsome
      | misapplied he hex _ =>
        obtain ⟨tree, hok⟩ := (helements _ he).1
        rw [hok] at hex
        cases hex

end SchemaContext
end ConstraintDirectives
