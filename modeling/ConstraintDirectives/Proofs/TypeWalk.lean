import ConstraintDirectives.Proofs.Compilation

/-! The walk over the types ends from every state of the table, and gives each type the tree of its
definition. -/
namespace ConstraintDirectives.SchemaContext
variable (ctx : SchemaContext)

/-! ### Nesting -/

/-- A part of the walk that may be cut short where types nest too deep. -/
abbrev Walk := ExceptT DirectiveError Option

def visitFields (visit : TypeId → TypeTable → Walk TypeTable) (owner : String) :
    List (String × InputDefinition) → ConstraintTree → TypeTable → Walk (ConstraintTree × TypeTable)
  | [], tree, table => return (tree, table)
  | (name, f) :: rest, tree, table => do
    let own ← ctx.extract (inputFieldElement owner name f)
    let later ← visit f.type.coreType table
    visitFields visit owner rest (tree.addProperty name (own.inheriting f.type.coreType)) later

def visitDefinition (visit : TypeId → TypeTable → Walk TypeTable) (id : TypeId) (t : NamedType)
    (table : TypeTable) : Walk (ConstraintTree × TypeTable) :=
  if t.isIntrospection then return (.empty, table)
  else
    match t.definition with
    | .scalar _ => return (← ctx.extract (scalarElement id t), table)
    | .inputObject fields => ctx.visitFields visit t.name fields.entries .empty table
    | .object fields => do
      ctx.checkOutputFields t.name fields.entries
      return (.empty, table)
    | .enumeration _ | .placeholder => return (.empty, table)

/-- The walk with types nested to some depth at most, and no measure of what is left to do. -/
def visitType : Nat → TypeId → TypeTable → Walk TypeTable
  | 0, _, _ => .mk none
  | depth + 1, id, table =>
    match table.get? id with
    | none => throw (.schema (.typeNotFound id))
    | some .underWay | some (.compiled _) => return table
    | some .pending =>
      match ctx.schema.get? id with
      | none => throw (.schema (.typeNotFound id))
      | some t => do
        let (tree, later) ← ctx.visitDefinition (visitType depth) id t (table.set id .underWay)
        return later.set id (.compiled tree)

private theorem map_compileFields_cons (owner name : String) (f : InputDefinition)
    (rest : List (String × InputDefinition)) (tree : ConstraintTree) (table : TypeTable) :
    (ctx.compileFields owner ((name, f) :: rest) tree table).map (fun r => (r.1, r.2.1)) = (do
      let own ← ctx.extract (inputFieldElement owner name f)
      let later ← ctx.compileType f.type.coreType table
      (ctx.compileFields owner rest (tree.addProperty name (own.inheriting f.type.coreType))
        later.1).map fun r => (r.1, r.2.1)) := by
  rw [compileFields]
  cases ctx.extract (inputFieldElement owner name f) with
  | error err => rfl
  | ok own =>
    cases ctx.compileType f.type.coreType table with
    | error err => rfl
    | ok later =>
      simp only [bind, Except.bind]
      cases ctx.compileFields owner rest (tree.addProperty name (own.inheriting f.type.coreType))
        later.1 <;> rfl

variable {ctx} {table : TypeTable}

private theorem visitFields_eq {n : Nat} {visit : TypeId → TypeTable → Walk TypeTable}
    (hrec : ∀ id (table : TypeTable), table.pendingCount < n →
      visit id table = .mk (some ((ctx.compileType id table).map (·.1))))
    {owner : String} {fields : List (String × InputDefinition)} {tree : ConstraintTree}
    (hn : table.pendingCount < n) :
    ctx.visitFields visit owner fields tree table =
      .mk (some ((ctx.compileFields owner fields tree table).map fun r => (r.1, r.2.1))) := by
  induction fields generalizing tree table with
  | nil =>
    rw [compileFields]
    rfl
  | cons p rest ih =>
    obtain ⟨name, f⟩ := p
    rw [visitFields, map_compileFields_cons, hrec _ _ hn]
    cases ctx.extract (inputFieldElement owner name f) with
    | error err => rfl
    | ok own =>
      cases ctx.compileType f.type.coreType table with
      | error err => rfl
      | ok later => exact ih (Nat.lt_of_le_of_lt later.2 hn)

/-- A walk is never cut short if fewer types are pending than it may nest. -/
theorem visitType_eq {depth : Nat} {id : TypeId} (hn : table.pendingCount < depth) :
    ctx.visitType depth id table = .mk (some ((ctx.compileType id table).map (·.1))) := by
  induction depth generalizing id table with
  | zero => exact absurd hn (Nat.not_lt_zero _)
  | succ depth ih =>
    rw [compileType]
    split
    · next hs =>
      rw [visitType, hs]
      rfl
    · next hs =>
      rw [visitType, hs]
      rfl
    · next hs =>
      rw [visitType, hs]
      rfl
    · next hs =>
      have hlt : (table.set id .underWay).pendingCount < depth :=
        Nat.lt_of_lt_of_le (TypeTable.pendingCount_set_lt hs rfl) (Nat.le_of_lt_succ hn)
      -- On the right the state of the type is matched on with its equation, which must stay as it is.
      conv_lhs => rw [visitType, hs]
      dsimp only
      cases ctx.schema.get? id with
      | none => rfl
      | some t =>
        dsimp only [visitDefinition]
        cases t.isIntrospection with
        | true => rfl
        | false =>
          rw [if_neg Bool.false_ne_true, if_neg Bool.false_ne_true]
          cases t.definition with
          | scalar builtin =>
            cases ctx.extract (scalarElement id t) <;> rfl
          | inputObject fields =>
            dsimp only
            rw [visitFields_eq (fun id table h => ih h) hlt]
            cases ctx.compileFields t.name fields.entries .empty (table.set id .underWay) <;> rfl
          | object fields =>
            dsimp only
            cases ctx.checkOutputFields t.name fields.entries <;> rfl
          | enumeration values => rfl
          | placeholder => rfl

/-- One type after the other, each visited to a depth that is enough. -/
theorem compileTypes_cons_of_visit {depth : Nat} {id : TypeId} {ids : List TypeId} {later : TypeTable}
    (hn : table.pendingCount < depth)
    (h : (ctx.visitType depth id table).run = some (.ok later)) :
    ctx.compileTypes (id :: ids) table = ctx.compileTypes ids later := by
  rw [visitType_eq hn] at h
  obtain ⟨last, hlast, rfl⟩ := Sequencing.map_eq_ok_iff.mp (Option.some.inj h)
  rw [compileTypes, hlast]
  rfl

/-! ### Success -/

private def SucceedsBelow (ctx : SchemaContext) (n : Nat) : Prop :=
  ∀ id (table : TypeTable), table.pendingCount < n →
    table.statuses.length = ctx.schema.types.length → (ctx.schema.get? id).isSome = true →
    ∃ later, ctx.compileType id table = .ok later

private theorem exists_compileFields {n : Nat} (hrec : SucceedsBelow ctx n) {owner : String}
    {fields : List (String × InputDefinition)} {tree : ConstraintTree} (hn : table.pendingCount < n)
    (hc : table.statuses.length = ctx.schema.types.length)
    (hf : ∀ p ∈ fields, ctx.IsSound (inputFieldElement owner p.1 p.2)) :
    ∃ result, ctx.compileFields owner fields tree table = .ok result := by
  induction fields generalizing tree table with
  | nil =>
    rw [compileFields]
    exact ⟨_, rfl⟩
  | cons p rest ih =>
    obtain ⟨name, f⟩ := p
    obtain ⟨⟨hlegal, hsome⟩, hrest⟩ := List.forall_mem_cons.mp hf
    obtain ⟨later, hlater⟩ : ∃ later, ctx.compileType f.type.coreType table = .ok later :=
      hrec _ _ hn hc hsome
    have hgrow := (compileType_settles n _ _ _ hn hc hlater).1
    have hmap := ctx.map_compileFields_cons owner name f rest tree table
    rw [extract_eq_ok_iff.mpr ⟨hlegal, rfl⟩, hlater] at hmap
    obtain ⟨result, hresult⟩ :=
      ih (Nat.lt_of_le_of_lt later.2 hn) (hgrow.length.trans hc) hrest
    obtain ⟨all, hall, _⟩ :=
      Sequencing.map_eq_ok_iff.mp (hmap.trans (congrArg (Except.map _) hresult))
    exact ⟨all, hall⟩

private theorem exists_compileType (hl : ∀ id ∈ ctx.schema.ids, ctx.IsLegalType id) (n : Nat) :
    SucceedsBelow ctx n := by
  induction n with
  | zero => exact fun _ _ hn => absurd hn (Nat.not_lt_zero _)
  | succ n ih =>
    intro id table hn hc hsome
    obtain ⟨t, ht⟩ := Option.isSome_iff_exists.mp hsome
    have hlegal := (hl id (ctx.schema.mem_ids ht)).of_definition ht
    rw [compileType]
    split
    · next hnone =>
      rw [TypeTable.get?, List.getElem?_eq_none_iff, hc, ← List.getElem?_eq_none_iff] at hnone
      cases ht.symm.trans hnone
    · exact ⟨_, rfl⟩
    · exact ⟨_, rfl⟩
    · next hp =>
      have hlt : (table.set id .underWay).pendingCount < n :=
        Nat.lt_of_lt_of_le (TypeTable.pendingCount_set_lt hp rfl) (Nat.le_of_lt_succ hn)
      have hc' : (table.set id .underWay).statuses.length = ctx.schema.types.length := by
        rw [TypeTable.length_set, hc]
      dsimp only
      rw [ht]
      dsimp only
      cases hi : t.isIntrospection with
      | true => exact ⟨_, rfl⟩
      | false =>
        rw [if_neg Bool.false_ne_true]
        cases hdef : t.definition with
        | scalar builtin =>
          dsimp only
          rw [extract_eq_ok_iff.mpr ⟨hlegal hi hdef, rfl⟩]
          exact ⟨_, rfl⟩
        | inputObject fields =>
          obtain ⟨result, hresult⟩ := exists_compileFields ih hlt hc' (hlegal hi hdef)
          dsimp only
          rw [hresult]
          exact ⟨_, rfl⟩
        | object fields =>
          have hfields : ctx.checkOutputFields t.name fields.entries = .ok () := by
            refine Sequencing.forM_eq_ok_iff.mpr fun p hp => ?_
            dsimp only
            rw [extract_eq_ok_iff.mpr ⟨hlegal hi hdef p hp, rfl⟩]
            rfl
          dsimp only
          rw [hfields]
          exact ⟨_, rfl⟩
        | enumeration values => exact ⟨_, rfl⟩
        | placeholder => exact ⟨_, rfl⟩

private theorem exists_compileTypes (hl : ∀ id ∈ ctx.schema.ids, ctx.IsLegalType id) {ids : List TypeId}
    (hids : ∀ id ∈ ids, id ∈ ctx.schema.ids)
    (hc : table.statuses.length = ctx.schema.types.length) :
    ∃ last, ctx.compileTypes ids table = .ok last := by
  induction ids generalizing table with
  | nil => exact ⟨_, rfl⟩
  | cons id ids ih =>
    obtain ⟨hid, hids⟩ := List.forall_mem_cons.mp hids
    obtain ⟨later, hlater⟩ := exists_compileType hl _ id table (Nat.lt_succ_self _) hc
      (ctx.schema.isSome_get?_of_mem_ids hid)
    have hgrow := (compileType_settles _ id table later (Nat.lt_succ_self _) hc hlater).1
    rw [compileTypes, hlater]
    exact ih hids (hgrow.length.trans hc)

/-! ### What the types are compiled to -/

def declaredTree (ctx : SchemaContext) (id : TypeId) (t : NamedType) :
    Except DirectiveError ConstraintTree :=
  if t.isIntrospection then .ok .empty
  else
    match t.definition with
    | .scalar _ => ctx.extract (scalarElement id t)
    | .inputObject fields => do
      let properties ← fields.entries.mapM fun (name, f) => do
        let own ← ctx.extract (inputFieldElement t.name name f)
        return (name, own.inheriting f.type.coreType)
      return ⟨[], properties, []⟩
    | .object _ | .enumeration _ | .placeholder => .ok .empty

/-- A legal type is compiled to what its definition says. -/
theorem declaredTree_eq_ok {id : TypeId} {t : NamedType} (hl : ctx.IsLegalType id)
    (ht : ctx.schema.get? id = some t) : ctx.declaredTree id t = .ok (ctx.intrinsicTree id) := by
  have hlegal := hl.of_definition ht
  rw [declaredTree]
  cases hi : t.isIntrospection with
  | true =>
    rw [if_pos rfl, intrinsicTree_eq_empty]
    · simp [scalarDeclarations, ht, hi]
    · simp [inputElements, ht, hi]
  | false =>
    rw [if_neg Bool.false_ne_true]
    cases hdef : t.definition with
    | scalar builtin =>
      dsimp only
      rw [extract_eq_ok_iff.mpr ⟨hlegal hi hdef, rfl⟩, ConstraintTree.ofDeclarations_eq]
      simp [intrinsicTree, scalarDeclarations, inputElements, elementTrees, ht, hi, hdef]
    | inputObject fields =>
      have hfields (p : String × InputDefinition) (hp : p ∈ fields.entries) :=
        extract_eq_ok_iff.mpr ⟨(hlegal hi hdef p hp).1, rfl⟩
      dsimp only
      rw [Sequencing.mapM_eq_ok
        (g := fun p => (p.1, ctx.elementTree (inputFieldElement t.name p.1 p.2)))
        fun p hp => by rw [hfields p hp]; rfl]
      simp [intrinsicTree, scalarDeclarations, inputElements, elementTrees, ht, hi, hdef, bind,
        Except.bind, pure, Except.pure, ConstraintTree.ofDeclarations, ConstraintTree.empty]
    | object _ | enumeration _ | placeholder =>
      rw [intrinsicTree_eq_empty]
      · simp [scalarDeclarations, ht, hi, hdef]
      · simp [inputElements, ht, hi, hdef]

private theorem map_compileType_complete (hc : IsComplete ctx table) (id : TypeId) :
    (ctx.compileType id table).map (·.1) =
      if (ctx.schema.get? id).isSome then .ok table else .error (.schema (.typeNotFound id)) := by
  rw [compileType]
  split
  · next hs =>
    rw [hc.get?, Option.map_eq_none_iff] at hs
    rw [hs]
    rfl
  · next hs =>
    obtain ⟨_, _, hs⟩ := Option.map_eq_some_iff.mp ((hc.get? id).symm.trans hs)
    cases hs
  · next hs =>
    obtain ⟨t, ht, _⟩ := Option.map_eq_some_iff.mp ((hc.get? id).symm.trans hs)
    rw [ht]
    rfl
  · next hs =>
    obtain ⟨_, _, hs⟩ := Option.map_eq_some_iff.mp ((hc.get? id).symm.trans hs)
    cases hs

/-- The walk over the types ends from every state of the table, nested no deeper than types are pending,
and leaves alone what has been entered before. Once it has gone over all types, in whatever order, each is
compiled to what its definition says, and nothing that is compiled later changes that. -/
theorem compileTypes_order_irrelevant (ctx : SchemaContext) :
    (∀ id table depth, table.pendingCount < depth →
      (ctx.visitType depth id table).run = some ((ctx.compileType id table).map (·.1))) ∧
    (∀ id (table : TypeTable) later, table.statuses.length = ctx.schema.types.length →
      ctx.compileType id table = .ok later →
      (∃ s, later.1.get? id = some s ∧ s.isPending = false) ∧
      ∀ other s, table.get? other = some s → s.isPending = false → later.1.get? other = some s) ∧
    let start : TypeTable := ⟨ctx.schema.types.map fun _ => .pending⟩
    ∀ ids table, (∀ id, id ∈ ids ↔ id ∈ ctx.schema.ids) → ctx.compileTypes ids start = .ok table →
      (∀ s ∈ table.statuses, ∃ tree, s = .compiled tree) ∧
      (∀ id t, ctx.schema.get? id = some t →
        ∃ tree, ctx.declaredTree id t = .ok tree ∧ table.get? id = some (.compiled tree)) ∧
      (∀ id, (ctx.compileType id table).map (·.1) =
        if (ctx.schema.get? id).isSome then .ok table else .error (.schema (.typeNotFound id))) ∧
      (∀ fields last, ctx.compileObjects ctx.schema.types table = .ok (fields, last) →
        last = table) ∧
      ∀ ids', (∀ id, id ∈ ids' ↔ id ∈ ctx.schema.ids) → ctx.compileTypes ids' start = .ok table := by
  refine ⟨fun id table depth hn => visitType_eq hn, fun id table later hc h => ?_, ?_⟩
  · obtain ⟨hgrow, hsettled⟩ := compileType_settles _ id table later (Nat.lt_succ_self _) hc h
    exact ⟨hsettled, fun other s hs hp => hgrow.get?_of_not_pending hs hp⟩
  intro start ids table hids h
  -- Success in one order says of all types that they are legal, which is enough for any other.
  obtain ⟨hc, hl⟩ := compileTypes_complete (fun id hid => (hids id).mpr hid) h
  refine ⟨fun s hs => ?_, fun id t ht => ?_, map_compileType_complete hc, fun fields last hf => ?_,
    fun ids' hids' => ?_⟩
  · rw [hc] at hs
    obtain ⟨id, _, rfl⟩ := List.mem_map.mp hs
    exact ⟨_, rfl⟩
  · refine ⟨ctx.intrinsicTree id, declaredTree_eq_ok (hl id (ctx.schema.mem_ids ht)) ht, ?_⟩
    rw [hc.get?, ht]
    rfl
  · exact (Prod.ext_iff.mp (compileObjects_eq_ok hc hf).1).2
  · obtain ⟨last, hlast⟩ := exists_compileTypes hl (fun id hid => (hids' id).mp hid)
      (show start.statuses.length = _ from List.length_map _)
    obtain ⟨hc', _⟩ := compileTypes_complete (fun id hid => (hids' id).mpr hid) hlast
    have hsame : last = table := congrArg TypeTable.mk (hc'.trans hc.symm)
    rw [hlast, hsame]

def filterContext : SchemaContext where
  vocabulary := .standard
  rules := {}
  schema :=
    { types :=
        [⟨"WorkFilter", .inputObject (.ofList
            [("not", ⟨.named ⟨0⟩, []⟩), ("author", ⟨.named ⟨1⟩, []⟩)]), []⟩,
          ⟨"AuthorFilter", .inputObject (.ofList
            [("name", ⟨.named ⟨2⟩, [⟨"stringValue", .ofList [("minLength", .int 2)]⟩]⟩),
              ("wrote", ⟨.list (.named ⟨0⟩), []⟩)]), []⟩,
          Schema.builtinType .string]
      names := .ofList [("WorkFilter", ⟨0⟩), ("AuthorFilter", ⟨1⟩), ("String", ⟨2⟩)]
      length_le := by decide }

/-- Filters that take each other are compiled to the same from either end. -/
theorem compileTypes_order_irrelevant_of_filters :
    let start : TypeTable := ⟨[.pending, .pending, .pending]⟩
    let minLength : ConstraintSet := [(.minLength, .int 2)]
    let table : TypeTable := ⟨[
      .compiled ⟨[], [("not", ⟨[], [], [⟨0⟩]⟩), ("author", ⟨[], [], [⟨1⟩]⟩)], []⟩,
      .compiled ⟨[], [("name", ⟨[(.stringValue, [minLength])], [], [⟨2⟩]⟩),
        ("wrote", ⟨[], [], [⟨0⟩]⟩)], []⟩,
      .compiled .empty]⟩
    (filterContext.visitType 4 ⟨0⟩ start).run = some (.ok table) ∧
      filterContext.compileTypes filterContext.schema.ids start = .ok table ∧
      filterContext.compileTypes filterContext.schema.ids.reverse start = .ok table := by
  intro start minLength table
  have hvisit : (filterContext.visitType 4 ⟨0⟩ start).run = some (.ok table) := rfl
  have hfirst : filterContext.compileTypes [⟨0⟩, ⟨1⟩, ⟨2⟩] start = .ok table := by
    have hagain : (filterContext.visitType 1 ⟨1⟩ table).run = some (.ok table) := rfl
    have hlast : (filterContext.visitType 1 ⟨2⟩ table).run = some (.ok table) := rfl
    rw [compileTypes_cons_of_visit (by decide) hvisit, compileTypes_cons_of_visit (by decide) hagain,
      compileTypes_cons_of_visit (by decide) hlast, compileTypes]
  obtain ⟨_, _, _, _, hsame⟩ := (compileTypes_order_irrelevant filterContext).2.2
    filterContext.schema.ids table (fun _ => Iff.rfl) hfirst
  exact ⟨hvisit, hfirst, hsame _ fun _ => List.mem_reverse⟩

end ConstraintDirectives.SchemaContext
