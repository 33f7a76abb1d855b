import ConstraintDirectives.Proofs.SchemaGrowth
import ConstraintDirectives.Proofs.TypeTrees

/-! What a schema compiles to: the own trees of all types with the trees of all arguments, pruned. -/
namespace ConstraintDirectives

def NamedType.callables (t : NamedType) : List (FieldCoordinate × FieldDefinition) :=
  match t.isIntrospection, t.definition with
  | false, .object fields => fields.entries.map fun p => (⟨t.name, p.1⟩, p.2)
  | _, _ => []

namespace Schema

def callables (s : Schema) : List (FieldCoordinate × FieldDefinition) :=
  s.types.flatMap NamedType.callables

/-- A field by its coordinate. The last counts, should types share a name. -/
def callable? (s : Schema) (key : FieldCoordinate) : Option FieldDefinition :=
  Entries.get? s.callables.reverse key

theorem mem_ids (s : Schema) {id : TypeId} {t : NamedType} (h : s.get? id = some t) :
    id ∈ s.ids := by
  obtain ⟨hlt, _⟩ := List.getElem?_eq_some_iff.mp h
  exact List.mem_map.mpr ⟨id.index, List.mem_range.mpr hlt, TypeId.ofIndex_index id⟩

theorem isSome_get?_of_mem_ids (s : Schema) {id : TypeId} (h : id ∈ s.ids) :
    (s.get? id).isSome = true := by
  obtain ⟨i, hi, rfl⟩ := List.mem_map.mp h
  have hi : i < s.types.length := List.mem_range.mp hi
  rw [get?, TypeId.index_ofIndex (Nat.lt_of_lt_of_le hi s.length_le), List.getElem?_eq_getElem hi]
  rfl

theorem checkComplete_eq_ok (s : Schema) {u : Unit} (h : s.checkComplete = .ok u) {id : TypeId}
    {t : NamedType} (ht : s.get? id = some t) : t.definition.isPlaceholder = false :=
  checkComplete_eq_ok_iff.mp h id t ht

theorem mem_callables (s : Schema) {id : TypeId} {t : NamedType}
    {fields : OrderedMap String FieldDefinition} {p : String × FieldDefinition}
    (ht : s.get? id = some t) (hi : t.isIntrospection = false)
    (hdef : t.definition = .object fields) (hp : p ∈ fields.entries) :
    (⟨t.name, p.1⟩, p.2) ∈ s.callables := by
  refine List.mem_flatMap.mpr ⟨t, List.mem_of_getElem? ht, ?_⟩
  rw [NamedType.callables, hi, hdef]
  exact List.mem_map.mpr ⟨p, hp, rfl⟩

theorem mem_callables_of_callable? (s : Schema) {key : FieldCoordinate} {f : FieldDefinition}
    (h : s.callable? key = some f) : (key, f) ∈ s.callables :=
  List.mem_reverse.mp (Entries.mem_of_get? h)

theorem getElem?_map_ids {α : Type} (s : Schema) (f : TypeId → α) (id : TypeId) :
    (s.ids.map f)[id.index]? = (s.get? id).map fun _ => f id := by
  rw [ids, List.getElem?_map, List.getElem?_map, get?]
  by_cases hi : id.index < s.types.length
  · simp [size, hi, TypeId.ofIndex_index]
  · simp [size, hi]

end Schema

namespace SchemaContext
variable (ctx : SchemaContext)

def argumentElements (key : FieldCoordinate) (f : FieldDefinition) :
    List (String × SchemaElement) :=
  f.arguments.entries.map fun p => (p.1, argumentElement key p.1 p.2)

def callTrees (c : FieldCoordinate × FieldDefinition) :
    FieldCoordinate × OrderedMap String ConstraintTree :=
  (c.1, .ofList (ctx.elementTrees (argumentElements c.1 c.2)))

def compiledIndex : ConstraintIndex :=
  finish (ctx.schema.ids.map ctx.intrinsicTree) (.ofList (ctx.schema.callables.map ctx.callTrees))

/-- Every type is defined, and all directives are legal where they stand. -/
structure IsWellFormed : Prop where
  complete : ctx.schema.checkComplete = .ok ()
  types : ∀ id ∈ ctx.schema.ids, ctx.IsLegalType id
  arguments : ∀ c ∈ ctx.schema.callables, ∀ p ∈ argumentElements c.1 c.2, ctx.IsSound p.2

variable {ctx} {table last : TypeTable}

private theorem compileTypes_settles {ids : List TypeId}
    (hc : table.statuses.length = ctx.schema.types.length)
    (h : ctx.compileTypes ids table = .ok last) :
    Grows ctx table last ∧ ∀ id ∈ ids, ∃ s, last.get? id = some s ∧ s.isPending = false := by
  induction ids generalizing table with
  | nil =>
    cases h
    exact ⟨.refl, nofun⟩
  | cons id ids ih =>
    obtain ⟨later, hlater, h⟩ := Sequencing.bind_eq_ok_iff.mp h
    obtain ⟨hgrow, s, hs, hp⟩ := compileType_settles _ id table later (Nat.lt_succ_self _) hc hlater
    obtain ⟨hgrow', hids⟩ := ih (hgrow.length.trans hc) h
    have hs' := hgrow'.get?_of_not_pending hs hp
    exact ⟨hgrow.trans hgrow', List.forall_mem_cons.mpr ⟨⟨s, hs', hp⟩, hids⟩⟩

def IsComplete (ctx : SchemaContext) (table : TypeTable) : Prop :=
  table.statuses = ctx.schema.ids.map fun id => .compiled (ctx.intrinsicTree id)

/-- Going over all types, in whatever order, leaves none out. -/
theorem compileTypes_complete {ids : List TypeId} (hall : ∀ id ∈ ctx.schema.ids, id ∈ ids)
    (h : ctx.compileTypes ids ⟨ctx.schema.types.map fun _ => .pending⟩ = .ok last) :
    IsComplete ctx last ∧ ∀ id ∈ ctx.schema.ids, ctx.IsLegalType id := by
  have hlen : (ctx.schema.types.map fun _ => TypeStatus.pending).length =
      ctx.schema.types.length := List.length_map _
  obtain ⟨hgrow, hids⟩ := compileTypes_settles hlen h
  have hlast (i : Nat) (hi : i < ctx.schema.types.length) :
      last.statuses[i]? = some (.compiled (ctx.intrinsicTree (.ofIndex i))) ∧
        ctx.IsLegalType (.ofIndex i) := by
    have hix := TypeId.index_ofIndex (Nat.lt_of_lt_of_le hi ctx.schema.length_le)
    obtain ⟨s, hs, hp⟩ := hids _ (hall _ (List.mem_map_of_mem (List.mem_range.mpr hi)))
    rw [TypeTable.get?, hix] at hs
    have hst := hgrow.status (.ofIndex i)
    rw [TypeTable.get?, TypeTable.get?, hix, hs, List.getElem?_map,
      List.getElem?_eq_getElem hi] at hst
    rcases hst with he | ⟨_, hc, hl⟩
    · cases he
      cases hp
    · exact ⟨hs.trans hc, hl⟩
  constructor
  · apply List.ext_getElem
    · rw [hgrow.length, hlen]
      simp [Schema.ids, Schema.size]
    · intro i hi _
      rw [hgrow.length, hlen] at hi
      have hs := (hlast i hi).1
      rw [List.getElem?_eq_some_iff] at hs
      obtain ⟨_, hs⟩ := hs
      simp [hs, Schema.ids]
  · intro id hid
    obtain ⟨i, hi, rfl⟩ := List.mem_map.mp hid
    exact (hlast i (List.mem_range.mp hi)).2

theorem IsComplete.get? (hc : IsComplete ctx table) (id : TypeId) :
    table.get? id = (ctx.schema.get? id).map fun _ => .compiled (ctx.intrinsicTree id) := by
  rw [TypeTable.get?, hc, Schema.getElem?_map_ids]

theorem IsComplete.length (hc : IsComplete ctx table) :
    table.statuses.length = ctx.schema.types.length := by
  rw [hc]
  simp [Schema.ids, Schema.size]

/-- Once every type has been compiled, compiling one again only looks whether it is there. -/
theorem compileType_complete (hc : IsComplete ctx table) {id : TypeId} {later : Later table}
    (h : ctx.compileType id table = .ok later) :
    later.1 = table ∧ (ctx.schema.get? id).isSome = true := by
  rw [compileType] at h
  split at h
  · cases h
  · next hs =>
    cases h
    exact ⟨rfl, isSome_schema_get? hc.length hs⟩
  · next hs =>
    cases h
    exact ⟨rfl, isSome_schema_get? hc.length hs⟩
  · next hs =>
    rw [hc.get?] at hs
    cases ht : ctx.schema.get? id <;> rw [ht] at hs <;> cases hs

theorem compileArguments_eq_ok (hc : IsComplete ctx table) {field : FieldCoordinate}
    {arguments : List (String × InputDefinition)} {result : List (String × ConstraintTree) × TypeTable}
    (h : ctx.compileArguments field arguments table = .ok result) :
    result = (ctx.elementTrees (arguments.map fun p => (p.1, argumentElement field p.1 p.2)), table) ∧
      ∀ p ∈ arguments, ctx.IsSound (argumentElement field p.1 p.2) := by
  induction arguments generalizing result with
  | nil =>
    cases h
    exact ⟨rfl, nofun⟩
  | cons p rest ih =>
    obtain ⟨own, hown, h⟩ := Sequencing.bind_eq_ok_iff.mp h
    obtain ⟨later, hlater, h⟩ := Sequencing.bind_eq_ok_iff.mp h
    obtain ⟨⟨trees, last⟩, hrest, h⟩ := Sequencing.bind_eq_ok_iff.mp h
    obtain ⟨hlegal, rfl⟩ := extract_eq_ok_iff.mp hown
    obtain ⟨he, hsome⟩ := compileType_complete hc hlater
    rw [he] at hrest
    obtain ⟨hr, hsound⟩ := ih hrest
    cases h
    cases hr
    exact ⟨rfl, List.forall_mem_cons.mpr ⟨⟨hlegal, hsome⟩, hsound⟩⟩

theorem compileObject_eq_ok (hc : IsComplete ctx table) {owner : String}
    {fields : List (String × FieldDefinition)}
    {result : List (FieldCoordinate × OrderedMap String ConstraintTree) × TypeTable}
    (h : ctx.compileObject owner fields table = .ok result) :
    result = (fields.map fun p => ctx.callTrees (⟨owner, p.1⟩, p.2), table) ∧
      ∀ p ∈ fields, ∀ a ∈ argumentElements ⟨owner, p.1⟩ p.2, ctx.IsSound a.2 := by
  induction fields generalizing result with
  | nil =>
    cases h
    exact ⟨rfl, nofun⟩
  | cons p rest ih =>
    obtain ⟨⟨trees, later⟩, htrees, h⟩ := Sequencing.bind_eq_ok_iff.mp h
    obtain ⟨⟨fieldsTrees, last⟩, hrest, h⟩ := Sequencing.bind_eq_ok_iff.mp h
    obtain ⟨he, hsound⟩ := compileArguments_eq_ok hc htrees
    cases he
    obtain ⟨hr, hsound'⟩ := ih hrest
    cases hr
    cases h
    exact ⟨rfl, List.forall_mem_cons.mpr ⟨List.forall_mem_map.mpr hsound, hsound'⟩⟩

theorem compileObjects_eq_ok (hc : IsComplete ctx table) {types : List NamedType}
    {result : List (FieldCoordinate × OrderedMap String ConstraintTree) × TypeTable}
    (h : ctx.compileObjects types table = .ok result) :
    result = ((types.flatMap NamedType.callables).map ctx.callTrees, table) ∧
      ∀ c ∈ types.flatMap NamedType.callables, ∀ a ∈ argumentElements c.1 c.2, ctx.IsSound a.2 := by
  induction types generalizing result with
  | nil =>
    cases h
    exact ⟨rfl, nofun⟩
  | cons t rest ih =>
    rw [compileObjects] at h
    split at h
    · next fields hi hdef =>
      obtain ⟨⟨compiled, later⟩, hcompiled, h⟩ := Sequencing.bind_eq_ok_iff.mp h
      obtain ⟨⟨others, last⟩, hrest, h⟩ := Sequencing.bind_eq_ok_iff.mp h
      obtain ⟨he, hsound⟩ := compileObject_eq_ok hc hcompiled
      cases he
      obtain ⟨hr, hsound'⟩ := ih hrest
      cases hr
      cases h
      have ht : t.callables = fields.entries.map fun p => (⟨t.name, p.1⟩, p.2) := by
        simp [NamedType.callables, hi, hdef]
      rw [List.flatMap_cons, ht, List.map_append, List.map_map, List.forall_mem_append]
      exact ⟨rfl, List.forall_mem_map.mpr hsound, hsound'⟩
    · next hno =>
      have ht : t.callables = [] := by
        rw [NamedType.callables]
        split
        · next fields hi hdef => exact absurd hdef (hno fields hi)
        · rfl
      rw [List.flatMap_cons, ht, List.nil_append]
      exact ih h

/-- A schema that compiles is well formed, and its index is made of what the schema says of each type
and of each argument. -/
theorem compile_eq_ok {index : ConstraintIndex} (h : ctx.compile = .ok index) :
    ctx.IsWellFormed ∧ index = ctx.compiledIndex := by
  obtain ⟨_, hcomplete, h⟩ := Sequencing.bind_eq_ok_iff.mp h
  obtain ⟨table, htable, h⟩ := Sequencing.bind_eq_ok_iff.mp h
  obtain ⟨⟨fields, last⟩, hfields, h⟩ := Sequencing.bind_eq_ok_iff.mp h
  obtain ⟨hc, htypes⟩ := compileTypes_complete (fun _ => id) htable
  obtain ⟨hr, hsound⟩ := compileObjects_eq_ok hc hfields
  cases hr
  cases h
  refine ⟨⟨?_, htypes, hsound⟩, ?_⟩
  · cases hs : ctx.schema.checkComplete with
    | ok u => rfl
    | error e =>
      rw [hs] at hcomplete
      cases hcomplete
  · rw [compiledIndex, hc, List.map_map]
    rfl

end SchemaContext
end ConstraintDirectives
