import ConstraintDirectives.Proofs.Interpretation
import ConstraintDirectives.Proofs.ListDepth
import ConstraintDirectives.Proofs.Verdict

/-! Values that are well typed are never refused for their kind, since compilation checks the directives
against the types. -/
namespace ConstraintDirectives

def BuiltinScalar.valueKind : BuiltinScalar → ValueKind
  | .int | .float => .number
  | .string | .id => .string
  | .boolean => .boolean

/-- Values of a declared type. Custom scalars and output objects have null alone. -/
inductive Schema.WellTyped (s : Schema) : WrappedType → Value → Prop where
  | null {type : WrappedType} : WellTyped s type .null
  | nonNull {type : WrappedType} {value : Value} : WellTyped s type value →
      WellTyped s (.nonNull type) value
  | list {type : WrappedType} {items : List Value} : (∀ x ∈ items, WellTyped s type x) →
      WellTyped s (.list type) (.list items)
  | scalar {id : TypeId} {t : NamedType} {b : BuiltinScalar} {value : Value} : s.get? id = some t →
      t.definition = .scalar (some b) → value.kind = b.valueKind → WellTyped s (.named id) value
  | enumeration {id : TypeId} {t : NamedType} {values : List String} {text : String} :
      s.get? id = some t → t.definition = .enumeration values →
      WellTyped s (.named id) (.string text)
  | record {id : TypeId} {t : NamedType} {fields : OrderedMap String InputDefinition}
      {properties : List (String × Value)} : s.get? id = some t →
      t.definition = .inputObject fields →
      (∀ name f x, (name, f) ∈ fields.entries → Entries.get? properties name = some x →
        WellTyped s f.type x) →
      WellTyped s (.named id) (.record properties)

def Schema.WellTypedCall (s : Schema) (key : FieldCoordinate) (supplied : List (String × Value)) :
    Prop :=
  ∀ f, s.callable? key = some f → ∀ name a x, (name, a) ∈ f.arguments.entries →
    Entries.get? supplied name = some x → s.WellTyped a.type x

def NoKindMismatch (result : Except Rejection Unit) : Prop :=
  ∀ path got expected, result ≠ .error (.kindMismatch path got expected)

namespace NoKindMismatch

theorem ok : NoKindMismatch (.ok ()) := fun _ _ _ => nofun

theorem bind {result next : Except Rejection Unit} (h : NoKindMismatch result)
    (h' : NoKindMismatch next) : NoKindMismatch (result >>= fun _ => next) := by
  cases result with
  | ok _ => exact h'
  | error e => exact h

theorem forM {α : Type} {l : List α} {f : α → Except Rejection Unit}
    (h : ∀ x ∈ l, NoKindMismatch (f x)) : NoKindMismatch (l.forM f) := by
  intro path got expected he
  obtain ⟨x, hx, he⟩ := Sequencing.forM_eq_error he
  exact h x hx path got expected he

private theorem checkSets {path : ValuePath} {key : DirectiveKey} {value : Value}
    {cs : List (ConstraintName × Declared)} :
    NoKindMismatch (Validation.checkSets path key value cs) := by
  intro path got expected he
  obtain ⟨name, declared, _, _, he⟩ := Validation.checkSets_eq_error he
  cases he

/-- Where only the key of the value's own kind can be in force, its kind is right. -/
theorem interpretScalar {p : Position} {path : ValuePath} {value : Value}
    (h : ∀ key ∈ p.keys, DirectiveKey.ofScalar? value.kind = some key) :
    NoKindMismatch (p.interpretScalar path value) := by
  rw [Position.interpretScalar]
  split
  · exact ok
  · next hk =>
    rw [List.isEmpty_iff] at hk
    obtain ⟨key, hm⟩ := List.exists_mem_of_ne_nil _ hk
    rw [h key hm, Option.filter_some_pos (List.contains_iff_mem.mpr hm)]
    exact checkSets

end NoKindMismatch

namespace SchemaContext
variable {ctx : SchemaContext}

/-- What is in force at a position is in keeping with its type: list sets reach as far in as the lists
that are left, and other keys are accepted by the scalar. -/
structure Fits (ctx : SchemaContext) (p : Position) (type : WrappedType) : Prop where
  type_eq : p.type = type.coreType
  lists : ∀ set ∈ p.lists, set.listDepth = type.listDepth
  declared : ∀ d ∈ p.declared, d.1 ≠ .list → ∃ t builtin,
    ctx.schema.get? p.type = some t ∧ t.definition = .scalar builtin ∧
      ctx.rules.accepts t.name builtin d.1 = true

private theorem IsWellFormed.isLegalType (hw : ctx.IsWellFormed) {id : TypeId}
    (h : (ctx.schema.get? id).isSome = true) : ctx.IsLegalType id := by
  obtain ⟨t, ht⟩ := Option.isSome_iff_exists.mp h
  exact hw.types id (ctx.schema.mem_ids ht)

private theorem fits_position (hw : ctx.IsWellFormed) {e : SchemaElement} {type : WrappedType}
    (he : e.type = .declared type) (hs : ctx.IsSound e) : Fits ctx (ctx.position e) type := by
  have hcore : e.type.coreType = type.coreType := by rw [he]; rfl
  have hdepth : e.type.listDepth = type.listDepth := by rw [he]; rfl
  have hlegal := hw.isLegalType hs.2
  refine ⟨hcore, fun set hset => ?_, fun d hd hk => ?_⟩
  · have hm := Declaration.mem_under.mp hset
    rcases List.mem_append.mp hm with hm | hm
    · rw [← hdepth]
      exact (checkFits_list (checkFits_of_mem hs.1 hm)).2
    · obtain ⟨t, hfits⟩ := checkFits_of_mem_scalarDeclarations hlegal hm
      exact absurd rfl (checkFits_list hfits).1
  · rcases List.mem_append.mp hd with hm | hm
    · exact checkFits_value hk (checkFits_of_mem hs.1 hm)
    · obtain ⟨t, hfits⟩ := checkFits_of_mem_scalarDeclarations hlegal hm
      obtain ⟨t', builtin, ht, hdef, ha⟩ := checkFits_value hk hfits
      exact ⟨t', builtin, ht, hdef, ha⟩

namespace Fits
variable {p : Position} {type : WrappedType}

private theorem nonNull (h : Fits ctx p (.nonNull type)) : Fits ctx p type :=
  ⟨h.type_eq, h.lists, h.declared⟩

private theorem items (h : Fits ctx p (.list type)) : Fits ctx p.items type := by
  refine ⟨h.type_eq, fun inner hinner => ?_, h.declared⟩
  obtain ⟨set, hset, hi⟩ := List.mem_filterMap.mp hinner
  have hd := h.lists set hset
  rw [ConstraintSet.listDepth_of_innerList? hi] at hd
  exact Nat.succ.inj hd

/-- Inside all lists no list set is left, so the keys in force are accepted by the scalar. -/
theorem keys {id : TypeId} {t : NamedType} (h : Fits ctx p (.named id))
    (ht : ctx.schema.get? id = some t) : ∀ key ∈ p.keys, ∃ builtin,
      t.definition = .scalar builtin ∧ ctx.rules.accepts t.name builtin key = true := by
  have hnil : p.lists = [] := by
    rw [List.eq_nil_iff_forall_not_mem]
    intro set hset
    exact absurd (h.lists set hset) (Nat.succ_ne_zero _)
  intro key hk
  rw [Position.keys, hnil, List.isEmpty_nil, if_pos rfl, List.append_nil, List.mem_eraseDups,
    List.mem_filter, decide_eq_true_eq] at hk
  obtain ⟨hm, hne⟩ := hk
  obtain ⟨d, hd, rfl⟩ := List.mem_map.mp hm
  obtain ⟨t', builtin, ht', hdef, ha⟩ := h.declared d hd hne
  rw [h.type_eq] at ht'
  cases ht.symm.trans ht'
  exact ⟨builtin, hdef, ha⟩

end Fits

private theorem interpretItems_noKindMismatch {p : Position} {items : List Value}
    (h : ∀ x ∈ items, ∀ path, NoKindMismatch (ctx.interpret p path x)) (path : ValuePath) (i : Nat) :
    NoKindMismatch (ctx.interpretItems p path i items) := by
  induction items generalizing i with
  | nil => exact .ok
  | cons x xs ih =>
    obtain ⟨hx, hxs⟩ := List.forall_mem_cons.mp h
    rw [interpretItems]
    exact .bind (hx _) (ih hxs (i + 1))

private theorem interpretProperty_noKindMismatch {p : Position} {name : String}
    {properties : List (String × Value)} {path : ValuePath}
    (h : ∀ x, Entries.get? properties name = some x → NoKindMismatch (ctx.interpret p path x)) :
    NoKindMismatch (ctx.interpretProperty p path name properties) := by
  rw [interpretProperty_eq]
  cases hx : Entries.get? properties name with
  | none => exact .ok
  | some x => exact h x hx

/-- The keys that a built-in scalar accepts are those of the values it takes. -/
theorem ofScalar?_valueKind {rules : ScalarRules} {name : String} {b : BuiltinScalar}
    {key : DirectiveKey} (h : rules.accepts name (some b) key = true) :
    DirectiveKey.ofScalar? b.valueKind = some key := by
  cases b <;> cases key <;> first | rfl | cases h

/-- A well-typed value is never refused for its kind where what is in force fits its type. -/
theorem interpret_noKindMismatch (hw : ctx.IsWellFormed) {type : WrappedType} {value : Value}
    (ht : ctx.schema.WellTyped type value) : ∀ p, Fits ctx p type → ∀ path,
      NoKindMismatch (ctx.interpret p path value) := by
  induction ht with
  | null => exact fun _ _ _ => .ok
  | nonNull _ ih => exact fun p hp path => ih p hp.nonNull path
  | list _ ih =>
    intro p hp path
    rw [interpret]
    exact .bind .checkSets (interpretItems_noKindMismatch (fun x hx => ih x hx _ hp.items) path 0)
  | @scalar id t b value ht hdef hkind =>
    intro p hp path
    have hscalar : value.kind.isScalar = true := by
      rw [hkind]
      cases b <;> rfl
    rw [interpret_scalar p path hscalar]
    refine .interpretScalar fun key hk => ?_
    obtain ⟨builtin, hdef', ha⟩ := hp.keys ht key hk
    cases hdef.symm.trans hdef'
    rw [hkind]
    exact ofScalar?_valueKind ha
  | enumeration ht hdef =>
    intro p hp path
    rw [interpret]
    refine .interpretScalar fun key hk => ?_
    obtain ⟨builtin, hdef', _⟩ := hp.keys ht key hk
    cases hdef.symm.trans hdef'
  | @record id t fields properties ht hdef _ ih =>
    intro p hp path
    have htype : p.type = id := hp.type_eq
    rw [interpret, htype]
    refine .forM fun q hq => interpretProperty_noKindMismatch fun x hx => ?_
    have hlegal := hw.types id (ctx.schema.mem_ids ht)
    have hsound := isSound_of_mem_inputElements hlegal hq
    obtain ⟨f, hf, he⟩ := mem_inputElements ht hdef hq
    have hfits : Fits ctx (ctx.position q.2) f.type :=
      fits_position hw (by rw [he]; rfl) hsound
    exact ih q.1 f x hf hx _ hfits _

private theorem interpretCall_noKindMismatch (hw : ctx.IsWellFormed) {key : FieldCoordinate}
    {supplied : List (String × Value)} (ht : ctx.schema.WellTypedCall key supplied) :
    NoKindMismatch (ctx.interpretCall key supplied) := by
  rw [interpretCall]
  cases hf : ctx.schema.callable? key with
  | none => exact .ok
  | some f =>
    refine .forM fun q hq => interpretProperty_noKindMismatch fun x hx => ?_
    have hsound := hw.arguments _ (ctx.schema.mem_callables_of_callable? hf) q hq
    obtain ⟨a, ha, rfl⟩ := List.mem_map.mp hq
    exact interpret_noKindMismatch hw (ht f hf a.1 a.2 x ha hx) _ (fits_position hw rfl hsound) _

/-- A call whose arguments are well typed is never refused for the kind of a value. -/
theorem validateCall_ne_kindMismatch {index : ConstraintIndex} (h : ctx.compile = .ok index)
    {key : FieldCoordinate} {supplied : List (String × Value)}
    (ht : ctx.schema.WellTypedCall key supplied) :
    ∀ path got expected,
      index.validateCall key supplied ≠ .error (.kindMismatch path got expected) := by
  obtain ⟨hw, rfl⟩ := compile_eq_ok h
  rw [validateCall_compiledIndex]
  exact interpretCall_noKindMismatch hw ht

/-- A node is well typed if its fields are. -/
theorem wellTyped_node {properties : List (String × Value)}
    (hnext : ∀ x, Entries.get? properties "next" = some x →
      nodeContext.schema.WellTyped (.named ⟨1⟩) x)
    (hcodes : Entries.get? properties "codes" = none)
    (htags : ∀ x, Entries.get? properties "tags" = some x →
      nodeContext.schema.WellTyped (.list (.list (.named ⟨3⟩))) x) :
    nodeContext.schema.WellTyped (.named ⟨1⟩) (.record properties) := by
  have ht : nodeContext.schema.get? ⟨1⟩ = some ⟨"Node", .inputObject nodeFields, []⟩ := rfl
  refine .record ht rfl fun name f x hf hx => ?_
  have he : nodeFields.entries.map (fun p => (p.1, p.2.type)) =
      [("next", .nonNull (.named ⟨1⟩)), ("codes", .list (.named ⟨0⟩)),
        ("tags", .list (.list (.named ⟨3⟩)))] := rfl
  have hm := List.mem_map_of_mem (f := fun p => (p.1, p.2.type)) hf
  simp only [he, List.mem_cons, Prod.mk.injEq, List.not_mem_nil, or_false] at hm
  rcases hm with ⟨rfl, ht⟩ | ⟨rfl, ht⟩ | ⟨rfl, ht⟩
  · rw [ht]
    exact .nonNull (hnext x hx)
  · rw [hcodes] at hx
    cases hx
  · rw [ht]
    exact htags x hx

/-- Tags two lists deep, one of them null, inside a further node. -/
theorem validateCall_ne_kindMismatch_of_tags :
    let tags : Value := .list [.list [.string "ab", .string "c"], .null]
    let supplied : List (String × Value) := [("node", .record [("next", .record [("tags", tags)])])]
    ∃ index, nodeContext.compile = .ok index ∧
      nodeContext.schema.WellTypedCall ⟨"Query", "find"⟩ supplied ∧
      ∀ path got expected,
        index.validateCall ⟨"Query", "find"⟩ supplied ≠ .error (.kindMismatch path got expected) := by
  intro tags supplied
  obtain ⟨index, hc⟩ := compile_nodeContext
  have htext (text : String) : nodeContext.schema.WellTyped (.named ⟨3⟩) (.string text) :=
    .scalar (b := .string) rfl rfl rfl
  have htags : nodeContext.schema.WellTyped (.list (.list (.named ⟨3⟩))) tags :=
    .list (by simp [htext, Schema.WellTyped.null, Schema.WellTyped.list])
  have hinner : nodeContext.schema.WellTyped (.named ⟨1⟩) (.record [("tags", tags)]) :=
    wellTyped_node (by simp [Entries.get?]) (by simp [Entries.get?]) (by simpa [Entries.get?])
  have houter : nodeContext.schema.WellTyped (.named ⟨1⟩)
      (.record [("next", .record [("tags", tags)])]) :=
    wellTyped_node (by simpa [Entries.get?]) (by simp [Entries.get?]) (by simp [Entries.get?])
  have ht : nodeContext.schema.WellTypedCall ⟨"Query", "find"⟩ supplied := by
    have hcall : nodeContext.schema.callable? ⟨"Query", "find"⟩ = some findField := rfl
    have harguments : findField.arguments.entries = [("node", ⟨.named ⟨1⟩, []⟩)] := rfl
    intro f hf name a x ha hx
    rw [hcall] at hf
    cases hf
    rw [harguments, List.mem_singleton] at ha
    cases ha
    have hx : Value.record [("next", .record [("tags", tags)])] = x := by
      simpa [supplied, Entries.get?] using hx
    exact hx ▸ houter
  exact ⟨index, hc, ht, validateCall_ne_kindMismatch hc ht⟩

end SchemaContext
end ConstraintDirectives
