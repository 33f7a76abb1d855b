import ConstraintDirectives.Index.Basic
import ConstraintDirectives.Proofs.Extraction

namespace ConstraintDirectives

namespace TypeTable

theorem get?_set (table : TypeTable) (id j : TypeId) (s : TypeStatus) :
    (table.set id s).get? j = if id = j then (table.get? j).map fun _ => s else table.get? j := by
  have hinj : id.index = j.index ↔ id = j := by
    refine ⟨fun h => ?_, congrArg _⟩
    rw [← TypeId.ofIndex_index id, h, TypeId.ofIndex_index]
  simp only [get?, set, List.getElem?_set', hinj]
  split <;> rfl

@[simp] theorem length_set (table : TypeTable) (id : TypeId) (s : TypeStatus) :
    (table.set id s).statuses.length = table.statuses.length := by
  simp [set]

end TypeTable

namespace SchemaContext
variable (ctx : SchemaContext)

def scalarDeclarations (id : TypeId) : List Declaration :=
  match ctx.schema.get? id with
  | some t =>
    match t.isIntrospection, t.definition with
    | false, .scalar _ => ctx.declarations (scalarElement id t)
    | _, _ => []
  | none => []

def inputElements (id : TypeId) : List (String × SchemaElement) :=
  match ctx.schema.get? id with
  | some t =>
    match t.isIntrospection, t.definition with
    | false, .inputObject fields =>
      fields.entries.map fun p => (p.1, inputFieldElement t.name p.1 p.2)
    | _, _ => []
  | none => []

/-- The tree of an argument or an input field: its own declarations and, by reference, its type. -/
def elementTree (e : SchemaElement) : ConstraintTree :=
  (ConstraintTree.ofDeclarations (ctx.declarations e)).inheriting e.type.coreType

def elementTrees (es : List (String × SchemaElement)) : List (String × ConstraintTree) :=
  es.map fun p => (p.1, ctx.elementTree p.2)

/-- What a type constrains by itself: a scalar its values, an input object its fields. -/
def intrinsicTree (id : TypeId) : ConstraintTree where
  directives := (ConstraintTree.ofDeclarations (ctx.scalarDeclarations id)).directives
  properties := ctx.elementTrees (ctx.inputElements id)
  inherits := []

theorem intrinsicTree_eq_empty {ctx : SchemaContext} {id : TypeId}
    (hs : ctx.scalarDeclarations id = []) (he : ctx.inputElements id = []) :
    ctx.intrinsicTree id = .empty := by
  rw [intrinsicTree, hs, he]
  rfl

def IsSound (e : SchemaElement) : Prop :=
  ctx.IsLegal e ∧ (ctx.schema.get? e.type.coreType).isSome = true

def IsLegalType (id : TypeId) : Prop :=
  ∃ t, ctx.schema.get? id = some t ∧ (t.isIntrospection = false →
    match t.definition with
    | .scalar _ => ctx.IsLegal (scalarElement id t)
    | .inputObject fields => ∀ p ∈ fields.entries, ctx.IsSound (inputFieldElement t.name p.1 p.2)
    | .object fields => ∀ p ∈ fields.entries, ctx.IsLegal (outputFieldElement t.name p.1 p.2)
    | .enumeration _ | .placeholder => True)

/-- What it is for a type to be legal, by its definition. -/
theorem IsLegalType.of_definition {ctx : SchemaContext} {id : TypeId} {t : NamedType} (hl : ctx.IsLegalType id)
    (ht : ctx.schema.get? id = some t) (hi : t.isIntrospection = false)
    {definition : TypeDefinition} : t.definition = definition →
    match definition with
    | .scalar _ => ctx.IsLegal (scalarElement id t)
    | .inputObject fields => ∀ p ∈ fields.entries, ctx.IsSound (inputFieldElement t.name p.1 p.2)
    | .object fields => ∀ p ∈ fields.entries, ctx.IsLegal (outputFieldElement t.name p.1 p.2)
    | .enumeration _ | .placeholder => True := by
  obtain ⟨t', ht', hl⟩ := hl
  cases ht.symm.trans ht'
  rintro rfl
  exact hl hi

/-- Only scalars declare anything by their own definition. -/
theorem exists_of_mem_scalarDeclarations {ctx : SchemaContext} {id : TypeId} {d : Declaration}
    (hd : d ∈ ctx.scalarDeclarations id) : ∃ t builtin, ctx.schema.get? id = some t ∧
      t.isIntrospection = false ∧ t.definition = .scalar builtin ∧
      d ∈ ctx.declarations (scalarElement id t) := by
  rw [scalarDeclarations] at hd
  split at hd
  · next t ht =>
    split at hd
    · next builtin hi hdef => exact ⟨t, builtin, ht, hi, hdef, hd⟩
    · cases hd
  · cases hd

/-- What the definition of a legal scalar declares fits it. -/
theorem checkFits_of_mem_scalarDeclarations {ctx : SchemaContext} {id : TypeId}
    (hl : ctx.IsLegalType id) {d : Declaration} (hd : d ∈ ctx.scalarDeclarations id) :
    ∃ t, ctx.checkFits (scalarElement id t) d.1 d.2 = .ok () := by
  obtain ⟨t, builtin, ht, hi, hdef, hd⟩ := exists_of_mem_scalarDeclarations hd
  exact ⟨t, checkFits_of_mem (hl.of_definition ht hi hdef) hd⟩

/-- Only input objects have fields for values. -/
theorem mem_inputElements_iff {ctx : SchemaContext} {id : TypeId} {q : String × SchemaElement} :
    q ∈ ctx.inputElements id ↔ ∃ t fields, ctx.schema.get? id = some t ∧ t.isIntrospection = false ∧
      t.definition = .inputObject fields ∧
      ∃ p ∈ fields.entries, q = (p.1, inputFieldElement t.name p.1 p.2) := by
  rw [inputElements]
  cases ht : ctx.schema.get? id with
  | none => simp
  | some t =>
    dsimp only
    split
    · next fields hi hdef =>
      rw [List.mem_map]
      constructor
      · rintro ⟨p, hp, rfl⟩
        exact ⟨t, fields, rfl, hi, hdef, p, hp, rfl⟩
      · rintro ⟨t', fields', ht', _, hdef', p, hp, rfl⟩
        cases ht'
        cases hdef.symm.trans hdef'
        exact ⟨p, hp, rfl⟩
    · next hno =>
      refine iff_of_false List.not_mem_nil ?_
      rintro ⟨t', fields, ht', hi, hdef, _⟩
      cases ht'
      exact hno fields hi hdef

theorem mem_inputElements {ctx : SchemaContext} {id : TypeId} {t : NamedType}
    {fields : OrderedMap String InputDefinition} (ht : ctx.schema.get? id = some t)
    (hdef : t.definition = .inputObject fields) {q : String × SchemaElement}
    (hq : q ∈ ctx.inputElements id) :
    ∃ f, (q.1, f) ∈ fields.entries ∧ q.2 = inputFieldElement t.name q.1 f := by
  obtain ⟨t', fields', ht', _, hdef', p, hp, rfl⟩ := mem_inputElements_iff.mp hq
  cases ht.symm.trans ht'
  cases hdef.symm.trans hdef'
  exact ⟨p.2, hp, rfl⟩

/-- A field of a legal input object is sound. -/
theorem isSound_of_mem_inputElements {ctx : SchemaContext} {id : TypeId} (hl : ctx.IsLegalType id)
    {q : String × SchemaElement} (hq : q ∈ ctx.inputElements id) : ctx.IsSound q.2 := by
  obtain ⟨t, fields, ht, hi, hdef, p, hp, rfl⟩ := mem_inputElements_iff.mp hq
  exact hl.of_definition ht hi hdef p hp

/-- A later state of a table: what has been compiled since is legal, and compiled to its own tree. -/
structure Grows (table later : TypeTable) : Prop where
  length : later.statuses.length = table.statuses.length
  status : ∀ id, later.get? id = table.get? id ∨ table.get? id = some .pending ∧
    later.get? id = some (.compiled (ctx.intrinsicTree id)) ∧ ctx.IsLegalType id

variable {ctx}

namespace Grows
variable {table later last : TypeTable}

theorem refl : Grows ctx table table := ⟨rfl, fun _ => .inl rfl⟩

theorem trans (h : Grows ctx table later) (h' : Grows ctx later last) : Grows ctx table last := by
  refine ⟨h'.length.trans h.length, fun id => ?_⟩
  rcases h'.status id with he | ⟨hp, hc⟩
  · rw [he]
    exact h.status id
  · rcases h.status id with he | ⟨_, hc', _⟩
    · exact .inr ⟨he ▸ hp, hc⟩
    · rw [hp] at hc'
      cases hc'

theorem get?_of_not_pending (h : Grows ctx table later) {id : TypeId} {s : TypeStatus}
    (hs : table.get? id = some s) (hp : s.isPending = false) : later.get? id = some s := by
  rcases h.status id with he | ⟨hpend, _⟩
  · exact he.trans hs
  · cases hs.symm.trans hpend
    cases hp

/-- A type that is under way stays so until it is compiled itself. -/
theorem finish {id : TypeId} (hp : table.get? id = some .pending) (hl : ctx.IsLegalType id)
    (h : Grows ctx (table.set id .underWay) later) :
    Grows ctx table (later.set id (.compiled (ctx.intrinsicTree id))) := by
  have hid : later.get? id = some .underWay := by
    have hs : (table.set id .underWay).get? id = some .underWay := by
      rw [TypeTable.get?_set, if_pos rfl, hp]
      rfl
    exact h.get?_of_not_pending hs rfl
  refine ⟨?_, fun j => ?_⟩
  · rw [TypeTable.length_set, h.length, TypeTable.length_set]
  · rw [TypeTable.get?_set]
    by_cases hj : id = j
    · subst hj
      rw [if_pos rfl, hid]
      exact .inr ⟨hp, rfl, hl⟩
    · rw [if_neg hj]
      have hs := h.status j
      rwa [TypeTable.get?_set, if_neg hj] at hs

end Grows

def Settles (ctx : SchemaContext) (id : TypeId) (table later : TypeTable) : Prop :=
  Grows ctx table later ∧ ∃ s, later.get? id = some s ∧ s.isPending = false

private def SettlesBelow (ctx : SchemaContext) (n : Nat) : Prop :=
  ∀ id (table : TypeTable) later, table.pendingCount < n →
    table.statuses.length = ctx.schema.types.length → ctx.compileType id table = .ok later →
    ctx.Settles id table later.1

theorem isSome_schema_get? {table : TypeTable} (hc : table.statuses.length = ctx.schema.types.length)
    {id : TypeId} {s : TypeStatus} (h : table.get? id = some s) :
    (ctx.schema.get? id).isSome = true := by
  obtain ⟨hlt, _⟩ := List.getElem?_eq_some_iff.mp h
  rw [Schema.get?, List.getElem?_eq_getElem (hc ▸ hlt)]
  rfl

private theorem addProperty_of_not_mem {t : ConstraintTree} {name : String} (p : ConstraintTree)
    (h : name ∉ Entries.keys t.properties) :
    t.addProperty name p = { t with properties := t.properties ++ [(name, p)] } := by
  simp only [ConstraintTree.addProperty, ConstraintTree.mergeProperties]
  rw [Entries.upsert_of_not_mem h]

private theorem checkOutputFields_eq_ok {owner : String} {fields : List (String × FieldDefinition)}
    {u : Unit} (h : ctx.checkOutputFields owner fields = .ok u) :
    ∀ p ∈ fields, ctx.IsLegal (outputFieldElement owner p.1 p.2) := by
  intro p hp
  obtain ⟨tree, htree, _⟩ :=
    Sequencing.bind_eq_ok_iff.mp (Sequencing.forM_eq_ok_iff.mp h p hp)
  exact (extract_eq_ok_iff.mp htree).1

private theorem compileFields_grows {n : Nat} (hrec : SettlesBelow ctx n) {owner : String}
    {fields : List (String × InputDefinition)} {tree : ConstraintTree} {table : TypeTable}
    {result : ConstraintTree × Later table} (hn : table.pendingCount < n)
    (hc : table.statuses.length = ctx.schema.types.length)
    (hd : (Entries.keys tree.properties ++ Entries.keys fields).Nodup)
    (h : ctx.compileFields owner fields tree table = .ok result) :
    Grows ctx table result.2.1 ∧
      result.1 = { tree with
        properties := tree.properties ++
          fields.map fun p => (p.1, ctx.elementTree (inputFieldElement owner p.1 p.2)) } ∧
      ∀ p ∈ fields, ctx.IsSound (inputFieldElement owner p.1 p.2) := by
  induction fields generalizing tree table with
  | nil =>
    rw [compileFields] at h
    cases h
    refine ⟨.refl, ?_, by simp⟩
    rw [List.map_nil, List.append_nil]
    cases tree
    rfl
  | cons p rest ih =>
    obtain ⟨name, f⟩ := p
    rw [compileFields] at h
    obtain ⟨own, hown, h⟩ := Sequencing.bind_eq_ok_iff.mp h
    obtain ⟨⟨later, hle⟩, hlater, h⟩ := Sequencing.bind_eq_ok_iff.mp h
    obtain ⟨⟨fieldsTree, ⟨last, hle'⟩⟩, hrest, h⟩ := Sequencing.bind_eq_ok_iff.mp h
    cases h
    obtain ⟨hgrow, s, hs, _⟩ := hrec _ _ _ hn hc hlater
    obtain ⟨hlegal, rfl⟩ := extract_eq_ok_iff.mp hown
    have hc' : later.statuses.length = ctx.schema.types.length := hgrow.length.trans hc
    have hfresh : name ∉ Entries.keys tree.properties := fun hm =>
      (List.nodup_append.mp hd).2.2 name hm name (List.mem_cons_self ..) rfl
    rw [addProperty_of_not_mem _ hfresh] at hrest
    have hd' : (Entries.keys (tree.properties ++ [(name, ctx.elementTree
        (inputFieldElement owner name f))]) ++ Entries.keys rest).Nodup := by
      simpa [Entries.keys] using hd
    obtain ⟨hgrow', htree, hsound⟩ := ih (Nat.lt_of_le_of_lt hle hn) hc' hd' hrest
    refine ⟨hgrow.trans hgrow', ?_, ?_⟩
    · rw [htree, List.map_cons, List.append_assoc]
      rfl
    · exact List.forall_mem_cons.mpr ⟨⟨hlegal, isSome_schema_get? hc' hs⟩, hsound⟩

private theorem settles_finish {id : TypeId} {table later : TypeTable} {tree : ConstraintTree}
    (hp : table.get? id = some .pending) (hl : ctx.IsLegalType id)
    (h : Grows ctx (table.set id .underWay) later) (ht : tree = ctx.intrinsicTree id) :
    ctx.Settles id table (later.set id (.compiled tree)) := by
  subst ht
  have hgrow := h.finish hp hl
  refine ⟨hgrow, .compiled (ctx.intrinsicTree id), ?_, rfl⟩
  rcases hgrow.status id with he | ⟨_, hs, _⟩
  · rw [hp, TypeTable.get?_set, if_pos rfl] at he
    cases hg : later.get? id <;> rw [hg] at he <;> cases he
  · exact hs

theorem compileType_settles (n : Nat) : SettlesBelow ctx n := by
  induction n with
  | zero => exact fun _ _ _ hn => absurd hn (Nat.not_lt_zero _)
  | succ n ih =>
    intro id table later hn hc h
    rw [compileType] at h
    split at h
    · cases h
    · next hs =>
      cases h
      exact ⟨.refl, _, hs, rfl⟩
    · next hs =>
      cases h
      exact ⟨.refl, _, hs, rfl⟩
    · next hp =>
      have hlt : (table.set id .underWay).pendingCount < n :=
        Nat.lt_of_lt_of_le (TypeTable.pendingCount_set_lt hp rfl) (Nat.le_of_lt_succ hn)
      have hc' : (table.set id .underWay).statuses.length = ctx.schema.types.length := by
        rw [TypeTable.length_set, hc]
      dsimp only at h
      split at h
      · cases h
      · next t ht =>
        split at h
        · next hi =>
          cases h
          refine settles_finish hp ⟨t, ht, by simp [hi]⟩ .refl (intrinsicTree_eq_empty ?_ ?_).symm
          · simp [scalarDeclarations, ht, hi]
          · simp [inputElements, ht, hi]
        · next hi =>
          rw [Bool.not_eq_true] at hi
          split at h
          · next hdef =>
            obtain ⟨tree, htree, rfl⟩ := Sequencing.map_eq_ok_iff.mp h
            obtain ⟨hlegal, rfl⟩ := extract_eq_ok_iff.mp htree
            refine settles_finish hp ⟨t, ht, by simp [hdef, hlegal]⟩ .refl ?_
            rw [ConstraintTree.ofDeclarations_eq]
            simp [intrinsicTree, scalarDeclarations, inputElements, elementTrees, ht, hi, hdef]
          · next fields hdef =>
            obtain ⟨⟨tree, ⟨last, hle⟩⟩, hfields, rfl⟩ := Sequencing.map_eq_ok_iff.mp h
            have hd : (Entries.keys ConstraintTree.empty.properties ++
                Entries.keys fields.entries).Nodup := fields.nodup
            obtain ⟨hgrow, htree, hsound⟩ := compileFields_grows ih hlt hc' hd hfields
            refine settles_finish hp ⟨t, ht, by simpa [hi, hdef] using hsound⟩ hgrow
              (htree.trans ?_)
            simp [intrinsicTree, scalarDeclarations, inputElements, elementTrees, ht, hi, hdef,
              ConstraintTree.empty, ConstraintTree.ofDeclarations]
          · next fields hdef =>
            obtain ⟨_, hfields, rfl⟩ := Sequencing.map_eq_ok_iff.mp h
            have hlegal := checkOutputFields_eq_ok hfields
            refine settles_finish hp ⟨t, ht, by simpa [hi, hdef] using hlegal⟩ .refl
              (intrinsicTree_eq_empty ?_ ?_).symm
            · simp [scalarDeclarations, ht, hi, hdef]
            · simp [inputElements, ht, hi, hdef]
          all_goals
            next hdef =>
              cases h
              refine settles_finish hp ⟨t, ht, by simp [hdef]⟩ .refl
                (intrinsicTree_eq_empty ?_ ?_).symm
              · simp [scalarDeclarations, ht, hi, hdef]
              · simp [inputElements, ht, hi, hdef]

end SchemaContext
end ConstraintDirectives
