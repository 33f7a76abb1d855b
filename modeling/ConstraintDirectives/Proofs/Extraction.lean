import ConstraintDirectives.Directive.Extraction
import ConstraintDirectives.Proofs.FirstArrival
import ConstraintDirectives.Proofs.Sequencing

namespace ConstraintDirectives

abbrev Declaration := DirectiveKey × ConstraintSet

namespace Declaration

def under (key : DirectiveKey) (ds : List Declaration) : List ConstraintSet :=
  (ds.filter (·.1 = key)).map (·.2)

theorem under_append (key : DirectiveKey) (ds ds' : List Declaration) :
    under key (ds ++ ds') = under key ds ++ under key ds' := by
  simp [under]

theorem mem_under {key : DirectiveKey} {ds : List Declaration} {set : ConstraintSet} :
    set ∈ under key ds ↔ (key, set) ∈ ds := by
  simp only [under, List.mem_map, List.mem_filter, decide_eq_true_eq]
  constructor
  · rintro ⟨d, ⟨hd, rfl⟩, rfl⟩
    exact hd
  · exact fun h => ⟨_, ⟨h, rfl⟩, rfl⟩

end Declaration

namespace ConstraintTree

def ofDeclarations (ds : List Declaration) : ConstraintTree :=
  ds.foldl (fun t d => t.insert d.1 d.2) .empty

theorem ofDeclarations_concat (ds : List Declaration) (d : Declaration) :
    ofDeclarations (ds ++ [d]) = (ofDeclarations ds).insert d.1 d.2 := by
  rw [ofDeclarations, List.foldl_append]
  rfl

@[simp] theorem properties_ofDeclarations (ds : List Declaration) :
    (ofDeclarations ds).properties = [] := by
  induction ds using List.reverseRecOn with
  | nil => rfl
  | append_singleton ds d ih => rw [ofDeclarations_concat, insert, ih]

@[simp] theorem inherits_ofDeclarations (ds : List Declaration) :
    (ofDeclarations ds).inherits = [] := by
  induction ds using List.reverseRecOn with
  | nil => rfl
  | append_singleton ds d ih => rw [ofDeclarations_concat, insert, ih]

theorem ofDeclarations_eq (ds : List Declaration) :
    ofDeclarations ds = ⟨(ofDeclarations ds).directives, [], []⟩ := by
  have hp := properties_ofDeclarations ds
  have hi := inherits_ofDeclarations ds
  cases h : ofDeclarations ds
  rw [h] at hp hi
  cases hp
  cases hi
  rfl

theorem keys_ofDeclarations (ds : List Declaration) :
    (ofDeclarations ds).directives.map (·.1) = (ds.map (·.1)).eraseDups := by
  induction ds using List.reverseRecOn with
  | nil => rfl
  | append_singleton ds d ih =>
    have hk := Entries.keys_upsert (ofDeclarations ds).directives d.1
      (fun old => old.getD [] ++ if d.2.isEmpty then [] else [d.2])
    rw [ofDeclarations_concat, List.map_append, List.map_singleton, FirstArrival.eraseDups_concat,
      ← ih]
    refine hk.trans ?_
    simp only [Entries.keys, ih, List.mem_eraseDups]

/-- An empty set leaves its key alone. -/
theorem sets_ofDeclarations (ds : List Declaration) (key : DirectiveKey) :
    (ofDeclarations ds).sets key = (Declaration.under key ds).filter (!·.isEmpty) := by
  induction ds using List.reverseRecOn with
  | nil => rfl
  | append_singleton ds d ih =>
    have hg := Entries.get?_upsert (ofDeclarations ds).directives d.1 key
      (fun old => old.getD [] ++ if d.2.isEmpty then [] else [d.2])
    rw [ofDeclarations_concat, Declaration.under_append, List.filter_append, ← ih]
    refine (congrArg (·.getD []) hg).trans ?_
    by_cases hk : d.1 = key
    · subst hk
      cases he : d.2.isEmpty <;> simp [sets, Declaration.under, he]
    · simp [sets, Declaration.under, hk]

theorem hasKey_ofDeclarations (ds : List Declaration) (key : DirectiveKey) :
    (ofDeclarations ds).hasKey key = !(Declaration.under key ds).isEmpty := by
  rw [Bool.eq_iff_iff, hasKey, ← Entries.mem_keys_iff, Entries.keys, keys_ofDeclarations]
  simp [Declaration.under]

theorem directives_ofDeclarations_eq_nil {ds : List Declaration} :
    (ofDeclarations ds).directives = [] ↔ ds = [] := by
  constructor
  · intro h
    have hk := keys_ofDeclarations ds
    rw [h, List.map_nil, eq_comm, List.eq_nil_iff_forall_not_mem] at hk
    rw [List.eq_nil_iff_forall_not_mem]
    intro d hd
    exact hk d.1 (List.mem_eraseDups.mpr (List.mem_map_of_mem hd))
  · rintro rfl
    rfl

end ConstraintTree

namespace SchemaContext
variable (ctx : SchemaContext) (e : SchemaElement)

/-- What one directive on an element declares. One outside the vocabulary declares nothing. -/
def declaration? (applied : AppliedDirective) : Option Declaration :=
  (ctx.vocabulary.find? applied.name).bind fun d =>
    (d.decode e.coordinate applied.arguments.entries).toOption.map fun set => (d.key, set)

def declarations : List Declaration := e.directives.filterMap (ctx.declaration? e)

/-- A directive of the vocabulary stands where it is allowed, decodes, and fits the type. -/
def Admits (applied : AppliedDirective) : Prop :=
  ∀ d, ctx.vocabulary.find? applied.name = some d → d.allows e.location = true ∧
    ∃ set, d.decode e.coordinate applied.arguments.entries = .ok set ∧
      ctx.checkFits e d.key set = .ok ()

def IsLegal : Prop := ∀ applied ∈ e.directives, ctx.Admits e applied

variable {ctx e}

theorem extractOne_eq_ok_iff {tree result : ConstraintTree} {applied : AppliedDirective} :
    ctx.extractOne e tree applied = .ok result ↔ ctx.Admits e applied ∧
      result = (ctx.declaration? e applied).elim tree fun d => tree.insert d.1 d.2 := by
  rw [extractOne]
  cases hf : ctx.vocabulary.find? applied.name with
  | none =>
    have hl : ctx.Admits e applied := fun d hd => by rw [hf] at hd; cases hd
    simp only [hl, declaration?, hf, Except.ok.injEq, true_and]
    exact eq_comm
  | some d =>
    dsimp only
    cases ha : d.allows e.location with
    | false => simp [Admits, hf, ha]
    | true =>
      cases hd : d.decode e.coordinate applied.arguments.entries with
      | error err => simp [Admits, hf, hd, bind, Except.bind]
      | ok set =>
        cases hc : ctx.checkFits e d.key set with
        | error err => simp [Admits, hf, hd, hc, bind, Except.bind]
        | ok u =>
          have hl : ctx.Admits e applied := fun d' hd' => by
            rw [hf] at hd'
            cases hd'
            exact ⟨ha, set, hd, hc⟩
          simp only [hl, hc, declaration?, hf, hd, if_true, true_and, bind, Except.bind, pure,
            Except.pure, Except.ok.injEq, Option.bind_some, Except.toOption, Option.map_some,
            Option.elim_some]
          exact eq_comm

theorem extract_eq_ok_iff {tree : ConstraintTree} : ctx.extract e = .ok tree ↔
    ctx.IsLegal e ∧ tree = .ofDeclarations (ctx.declarations e) := by
  rw [extract, IsLegal, declarations, ConstraintTree.ofDeclarations]
  generalize ConstraintTree.empty = start
  induction e.directives generalizing start with
  | nil =>
    simp only [List.foldlM_nil, List.not_mem_nil, pure, Except.pure, Except.ok.injEq]
    exact ⟨fun h => ⟨nofun, h.symm⟩, fun h => h.2.symm⟩
  | cons applied rest ih =>
    rw [List.foldlM_cons, Sequencing.bind_eq_ok_iff, List.forall_mem_cons]
    simp only [extractOne_eq_ok_iff, ih]
    cases hd : ctx.declaration? e applied with
    | none => simp [hd, and_assoc]
    | some d => simp [hd, and_assoc]

/-- A list directive is as deep as the declared lists, of which there is at least one. -/
theorem checkFits_list {set : ConstraintSet} (h : ctx.checkFits e .list set = .ok ()) :
    e.type.listDepth ≠ 0 ∧ set.listDepth = e.type.listDepth := by
  rw [checkFits] at h
  split at h
  · cases h
  · rw [if_pos rfl] at h
    split at h
    · cases h
    · next hne =>
      split at h
      · next hd => exact ⟨hne, hd⟩
      · cases h

/-- A value directive is on a scalar that accepts it. -/
theorem checkFits_value {key : DirectiveKey} (hk : key ≠ .list) {set : ConstraintSet}
    (h : ctx.checkFits e key set = .ok ()) : ∃ t builtin,
      ctx.schema.get? e.type.coreType = some t ∧ t.definition = .scalar builtin ∧
        ctx.rules.accepts t.name builtin key = true := by
  rw [checkFits] at h
  split at h
  · cases h
  · next t ht =>
    rw [if_neg hk] at h
    split at h
    · next builtin hdef =>
      split at h
      · next ha => exact ⟨t, builtin, ht, hdef, ha⟩
      · cases h
    · cases h

/-- What is declared on an element is the decoding of one of its directives. -/
theorem exists_decode_of_mem {d : Declaration} (hd : d ∈ ctx.declarations e) :
    ∃ applied ∈ e.directives, ∃ definition, ctx.vocabulary.find? applied.name = some definition ∧
      definition.key = d.1 ∧
      definition.decode e.coordinate applied.arguments.entries = .ok d.2 := by
  obtain ⟨applied, ha, hd⟩ := List.mem_filterMap.mp hd
  obtain ⟨definition, hf, hd⟩ := Option.bind_eq_some_iff.mp hd
  obtain ⟨set, hs, rfl⟩ := Option.map_eq_some_iff.mp hd
  refine ⟨applied, ha, definition, hf, rfl, ?_⟩
  cases hdec : definition.decode e.coordinate applied.arguments.entries <;> rw [hdec] at hs <;> cases hs
  rfl

/-- Legal directives of the vocabulary declare something, if only their key. -/
theorem declarations_eq_nil_iff (hl : ctx.IsLegal e) : ctx.declarations e = [] ↔
    ∀ applied ∈ e.directives, ctx.vocabulary.find? applied.name = none := by
  rw [declarations, List.filterMap_eq_nil_iff]
  refine forall_congr' fun applied => forall_congr' fun ha => ?_
  rw [declaration?]
  cases hf : ctx.vocabulary.find? applied.name with
  | none => simp
  | some d =>
    obtain ⟨_, set, hset, _⟩ := hl applied ha d hf
    simp [hset, Except.toOption]

/-- What is declared on a legal element fits its type. -/
theorem checkFits_of_mem (hl : ctx.IsLegal e) {d : Declaration}
    (hd : d ∈ ctx.declarations e) : ctx.checkFits e d.1 d.2 = .ok () := by
  obtain ⟨applied, ha, definition, hf, hk, hdec⟩ := exists_decode_of_mem hd
  obtain ⟨_, set, hdec', hfits⟩ := hl applied ha definition hf
  cases hdec.symm.trans hdec'
  rwa [← hk]

end SchemaContext
end ConstraintDirectives
