import ConstraintDirectives.Proofs.DistinctTrees
import ConstraintDirectives.Proofs.Extraction

/-! Trees are a monoid under merging, and extraction respects it. -/
namespace ConstraintDirectives

namespace ConstraintTree
variable {a b c t : ConstraintTree}

/-- What a tree says of a nested property. Where there is none, nothing is said. -/
def partAt : ConstraintTree → List String → ConstraintTree
  | t, [] => t
  | t, name :: path => ((t.property? name).getD .empty).partAt path

/-- One tree says what two others say, first all of one and then all of the other. Keys and names that both
have keep the place that they have in the first. -/
structure Concatenates (a b t : ConstraintTree) : Prop where
  sets : ∀ key, t.sets key = a.sets key ++ b.sets key
  hasKey : ∀ key, t.hasKey key = (a.hasKey key || b.hasKey key)
  inherits : t.inherits = a.inherits ++ b.inherits
  property? : ∀ name,
    (t.property? name).isSome = ((a.property? name).isSome || (b.property? name).isSome)
  keys : Entries.keys t.directives = Entries.keys a.directives ++
    (Entries.keys b.directives).filter (· ∉ Entries.keys a.directives)
  names : Entries.keys t.properties = Entries.keys a.properties ++
    (Entries.keys b.properties).filter (· ∉ Entries.keys a.properties)

/-- Trees are known by what is looked up in them, and by the order of their keys. -/
theorem eq_of_get? (ha : a.Distinct)
    (hkeys : Entries.keys a.directives = Entries.keys b.directives)
    (hdirectives : ∀ key, Entries.get? a.directives key = Entries.get? b.directives key)
    (hnames : Entries.keys a.properties = Entries.keys b.properties)
    (hproperties : ∀ name, a.property? name = b.property? name)
    (hinherits : a.inherits = b.inherits) : a = b := by
  have hd := Entries.eq_of_get? ha.directives hkeys hdirectives
  have hp := Entries.eq_of_get? ha.properties hnames hproperties
  cases a
  cases b
  cases hd
  cases hp
  cases hinherits
  rfl

section Keys
variable (a)

theorem keys_directives_merge (hb : (Entries.keys b.directives).Nodup) :
    Entries.keys (a.merge b).directives = Entries.keys a.directives ++
      (Entries.keys b.directives).filter (· ∉ Entries.keys a.directives) := by
  rw [directives_merge]
  exact Entries.keys_foldl_upsert (fun sets old => old.getD [] ++ sets) a.directives hb

theorem keys_properties_merge (hb : (Entries.keys b.properties).Nodup) :
    Entries.keys (a.merge b).properties = Entries.keys a.properties ++
      (Entries.keys b.properties).filter (· ∉ Entries.keys a.properties) := by
  rw [properties_merge, mergeProperties_eq]
  exact Entries.keys_foldl_upsert mergedProperty a.properties hb

private theorem concatenates_merge (hb : b.Distinct) : Concatenates a b (a.merge b) where
  sets := sets_merge a hb.directives
  hasKey := hasKey_merge a hb.directives
  inherits := inherits_merge a b
  property? name := by
    rw [property?_merge a hb.properties]
    cases b.property? name <;> simp
  keys := keys_directives_merge a hb.directives
  names := keys_properties_merge a hb.properties

end Keys

/-! ### The empty tree -/

@[simp] theorem merge_empty (a : ConstraintTree) : a.merge .empty = a := by
  cases a
  simp [merge, empty, mergeDirectives, mergeProperties]

theorem empty_merge (ha : a.Distinct) : merge .empty a = a := by
  refine eq_of_get? (.merge .empty ha) ?_ (fun key => ?_) ?_ (fun name => ?_) ?_
  · rw [keys_directives_merge _ ha.directives]
    simp [empty, Entries.keys]
  · rw [get?_directives_merge _ ha.directives]
    cases Entries.get? a.directives key <;> rfl
  · rw [keys_properties_merge _ ha.properties]
    simp [empty, Entries.keys]
  · rw [property?_merge _ ha.properties]
    cases a.property? name <;> rfl
  · rw [inherits_merge]
    rfl

/-! ### Associativity -/

private theorem append_new_assoc {α : Type} [DecidableEq α] (l m n : List α) :
    l ++ m.filter (· ∉ l) ++ n.filter (· ∉ l ++ m.filter (· ∉ l)) =
      l ++ (m ++ n.filter (· ∉ m)).filter (· ∉ l) := by
  rw [List.filter_append, List.filter_filter, List.append_assoc]
  congr 2
  refine List.filter_congr fun x _ => ?_
  by_cases hl : x ∈ l <;> simp [hl]

theorem merge_assoc (ha : a.Distinct) (hb : b.Distinct) (hc : c.Distinct) :
    (a.merge b).merge c = a.merge (b.merge c) := by
  induction c using byProperties generalizing a b with
  | tree c ih =>
    have hbc : (b.merge c).Distinct := hb.merge hc
    refine eq_of_get? ((ha.merge hb).merge hc) ?_ (fun key => ?_) ?_ (fun name => ?_) ?_
    · rw [keys_directives_merge _ hc.directives, keys_directives_merge _ hb.directives,
        keys_directives_merge _ hbc.directives, keys_directives_merge _ hc.directives]
      exact append_new_assoc ..
    · rw [get?_directives_merge _ hc.directives, get?_directives_merge _ hb.directives,
        get?_directives_merge _ hbc.directives, get?_directives_merge _ hc.directives,
        sets_merge _ hb.directives]
      cases Entries.get? c.directives key with
      | none => rfl
      | some sets => simp
    · rw [keys_properties_merge _ hc.properties, keys_properties_merge _ hb.properties,
        keys_properties_merge _ hbc.properties, keys_properties_merge _ hc.properties]
      exact append_new_assoc ..
    · rw [property?_merge _ hc.properties, property?_merge _ hb.properties,
        property?_merge _ hbc.properties, property?_merge _ hc.properties]
      cases hr : c.property? name with
      | none => rfl
      | some r =>
        cases hq : b.property? name with
        | none => rfl
        | some q =>
          cases hp : a.property? name with
          | none => rfl
          | some p =>
            have hassoc : (p.merge q).merge r = p.merge (q.merge r) :=
              ih (name, r) (Entries.mem_of_get? hr) (ha.property? hp) (hb.property? hq)
                (hc.property? hr)
            exact congrArg some hassoc
    · rw [inherits_merge, inherits_merge, inherits_merge, inherits_merge, List.append_assoc]

/-! ### Nested properties -/

private theorem partAt_empty (path : List String) : partAt .empty path = .empty := by
  induction path with
  | nil => rfl
  | cons name path ih => exact ih

private theorem Distinct.partAt (ht : t.Distinct) (path : List String) : (t.partAt path).Distinct := by
  induction path generalizing t with
  | nil => exact ht
  | cons name path ih =>
    rw [ConstraintTree.partAt]
    cases hp : t.property? name with
    | none => exact ih .empty
    | some p => exact ih (ht.property? hp)

/-- Merging goes on below, property by property. -/
theorem partAt_merge (a : ConstraintTree) (hb : b.Distinct) (path : List String) :
    (a.merge b).partAt path = (a.partAt path).merge (b.partAt path) := by
  induction path generalizing a b with
  | nil => rfl
  | cons name path ih =>
    rw [partAt, partAt, partAt, property?_merge a hb.properties]
    cases hq : b.property? name with
    | none => simp [partAt_empty]
    | some q =>
      cases hp : a.property? name with
      | none =>
        have hq' : (q.partAt path).Distinct := (hb.property? hq).partAt path
        simp [mergedProperty, partAt_empty, empty_merge hq']
      | some p => exact ih p (hb.property? hq)

/-- Merging concatenates at every nested property, and it is associative with the empty tree as its unit,
in all orders that a tree keeps. Keys are distinct in every tree that is built (see `Distinct`). -/
theorem merge_concatenates (ha : a.Distinct) (hb : b.Distinct) (hc : c.Distinct) :
    (∀ path, Concatenates (a.partAt path) (b.partAt path) ((a.merge b).partAt path)) ∧
      (a.merge b).merge c = a.merge (b.merge c) ∧ merge .empty a = a ∧ a.merge .empty = a := by
  refine ⟨fun path => ?_, merge_assoc ha hb hc, empty_merge ha, merge_empty a⟩
  rw [partAt_merge a hb]
  exact concatenates_merge (a.partAt path) (hb.partAt path)

/-- Bounds from both sides hold of the same tags, below a bare key and beside a property of one side. -/
theorem merge_concatenates_of_tags :
    let least : ConstraintSet := [(.minLength, .int 1)]
    let most : ConstraintSet := [(.maxLength, .int 9)]
    let a : ConstraintTree :=
      ⟨[(.list, [])], [("tags", ⟨[(.stringValue, [least])], [], [⟨2⟩]⟩)], []⟩
    let b : ConstraintTree :=
      ⟨[], [("page", .empty), ("tags", ⟨[(.numberValue, []), (.stringValue, [most])], [], [⟨2⟩]⟩)], []⟩
    let c : ConstraintTree := ⟨[(.list, [[(.maxItems, .int 3)]])], [("page", a)], [⟨4⟩]⟩
    a.Distinct ∧ b.Distinct ∧ c.Distinct ∧
      ((a.merge b).partAt ["tags"]).sets .stringValue = [least, most] ∧
      ((a.merge b).partAt ["tags"]).hasKey .numberValue = true ∧
      ((a.merge b).partAt ["tags"]).inherits = [⟨2⟩, ⟨2⟩] ∧
      Entries.keys (a.merge b).properties = ["tags", "page"] ∧
      (a.merge b).merge c = a.merge (b.merge c) := by
  intro least most a b c
  have ha : a.Distinct := by simp [a, Entries.keys]
  have hb : b.Distinct := by simp [b, Entries.keys, empty]
  have hc : c.Distinct := by
    simp only [c, distinct_mk, List.mem_singleton, forall_eq]
    exact ⟨by simp [Entries.keys], by simp [Entries.keys], ha⟩
  obtain ⟨hconcat, hassoc, -⟩ := merge_concatenates ha hb hc
  have htags := hconcat ["tags"]
  exact ⟨ha, hb, hc, htags.sets .stringValue, htags.hasKey .numberValue, htags.inherits,
    (hconcat []).names, hassoc⟩

/-! ### Declarations -/

private theorem insert_eq_merge (t : ConstraintTree) (key : DirectiveKey) (set : ConstraintSet) :
    t.insert key set = t.merge (.singleton key set) := by
  simp [insert, singleton, merge, empty, mergeDirectives, mergeProperties, addSets, Entries.upsert]

private theorem merge_insert (ha : a.Distinct) (hb : b.Distinct) (key : DirectiveKey)
    (set : ConstraintSet) : (a.merge b).insert key set = a.merge (b.insert key set) := by
  have hs : Distinct (.singleton key set) := Distinct.empty.insert key set
  rw [insert_eq_merge, insert_eq_merge, merge_assoc ha hb hs]

theorem distinct_ofDeclarations (ds : List Declaration) : (ofDeclarations ds).Distinct := by
  induction ds using List.reverseRecOn with
  | nil => exact .empty
  | append_singleton ds d ih =>
    rw [ofDeclarations_concat]
    exact ih.insert d.1 d.2

end ConstraintTree

namespace SchemaContext
variable {ctx : SchemaContext} {e : SchemaElement} {t s : ConstraintTree}

/-- A directive is looked at by itself: what was extracted before it has no part in what it adds, nor in how
it fails. -/
theorem extractOne_merge (ht : t.Distinct) (hs : s.Distinct) (applied : AppliedDirective) :
    ctx.extractOne e (t.merge s) applied = (ctx.extractOne e s applied).map t.merge := by
  rw [extractOne, extractOne]
  cases ctx.vocabulary.find? applied.name with
  | none => rfl
  | some d =>
    dsimp only
    split
    · cases d.decode e.coordinate applied.arguments.entries with
      | error err => rfl
      | ok set =>
        change (ctx.checkFits e d.key set >>= fun _ => pure ((t.merge s).insert d.key set)) =
          (ctx.checkFits e d.key set >>= fun _ => pure (s.insert d.key set)).map t.merge
        rw [ConstraintTree.merge_insert ht hs]
        cases ctx.checkFits e d.key set <;> rfl
    · rfl

private theorem extractOne_distinct (hs : s.Distinct) {applied : AppliedDirective}
    (h : ctx.extractOne e s applied = .ok t) : t.Distinct := by
  obtain ⟨-, rfl⟩ := extractOne_eq_ok_iff.mp h
  cases ctx.declaration? e applied with
  | none => exact hs
  | some d => exact hs.insert d.1 d.2

private theorem foldlM_extractOne_merge (ht : t.Distinct) (hs : s.Distinct) (ds : List AppliedDirective) :
    ds.foldlM (ctx.extractOne e) (t.merge s) = (ds.foldlM (ctx.extractOne e) s).map t.merge := by
  induction ds generalizing s with
  | nil => rfl
  | cons applied ds ih =>
    rw [List.foldlM_cons, List.foldlM_cons, extractOne_merge ht hs]
    cases h : ctx.extractOne e s applied with
    | error err => rfl
    | ok s' => exact ih (extractOne_distinct hs h)

private theorem extract_distinct (h : ctx.extract e = .ok t) : t.Distinct := by
  obtain ⟨-, rfl⟩ := extract_eq_ok_iff.mp h
  exact ConstraintTree.distinct_ofDeclarations _

/-- Extracting two lists of directives in a row is extracting each and merging. The first to fail decides,
and all that either declares stays in force. -/
theorem extract_append (ctx : SchemaContext) (e : SchemaElement) (ds ds' : List AppliedDirective) :
    ctx.extract { e with directives := ds ++ ds' } = (do
      let t ← ctx.extract { e with directives := ds }
      let t' ← ctx.extract { e with directives := ds' }
      return t.merge t') ∧
    ∀ t t', ctx.extract { e with directives := ds } = .ok t →
      ctx.extract { e with directives := ds' } = .ok t' → t.Concatenates t' (t.merge t') := by
  have hextract (ds : List AppliedDirective) :
      ctx.extract { e with directives := ds } = ds.foldlM (ctx.extractOne e) .empty := rfl
  refine ⟨?_, fun t t' _ ht' => ConstraintTree.concatenates_merge t (extract_distinct ht')⟩
  rw [hextract (ds ++ ds'), List.foldlM_append, ← hextract]
  cases h : ctx.extract { e with directives := ds } with
  | error err => rfl
  | ok t =>
    have hmerge : ds'.foldlM (ctx.extractOne e) (t.merge .empty) =
        (ds'.foldlM (ctx.extractOne e) .empty).map t.merge :=
      foldlM_extractOne_merge (extract_distinct h) .empty ds'
    rw [ConstraintTree.merge_empty] at hmerge
    exact hmerge

/-- A bare directive keeps its key, a repeated one both of its sets, and a misplaced one fails as it would
alone. -/
theorem extract_append_of_bare :
    let ctx : SchemaContext := ⟨.standard, .builtin, {}⟩
    let element (directives : List AppliedDirective) : SchemaElement :=
      ⟨"Query.find(tag:)", .argumentDefinition, directives, .declared (.named ⟨2⟩)⟩
    let bare : AppliedDirective := ⟨"stringValue", .ofList []⟩
    let least : AppliedDirective := ⟨"stringValue", .ofList [("minLength", .int 1)]⟩
    let misplaced : AppliedDirective := ⟨"list", .ofList []⟩
    let set : ConstraintSet := [(.minLength, .int 1)]
    ctx.extract (element [bare]) = .ok ⟨[(.stringValue, [])], [], []⟩ ∧
      ctx.extract (element [least, least]) = .ok ⟨[(.stringValue, [set, set])], [], []⟩ ∧
      ctx.extract (element ([bare] ++ [least, least])) =
        .ok ⟨[(.stringValue, [set, set])], [], []⟩ ∧
      ctx.extract (element ([least, least] ++ [misplaced])) =
        .error (.nonListType "Query.find(tag:)" "String") := by
  intro ctx element bare least misplaced set
  have hbare : ctx.extract (element [bare]) = .ok ⟨[(.stringValue, [])], [], []⟩ := rfl
  have hleast : ctx.extract (element [least, least]) =
      .ok ⟨[(.stringValue, [set, set])], [], []⟩ := rfl
  have hmisplaced : ctx.extract (element [misplaced]) =
      .error (.nonListType "Query.find(tag:)" "String") := rfl
  refine ⟨hbare, hleast, (extract_append ctx (element []) _ _).1.trans ?_,
    (extract_append ctx (element []) _ _).1.trans ?_⟩
  · rw [hbare, hleast]
    rfl
  · rw [hleast, hmisplaced]
    rfl

end SchemaContext
end ConstraintDirectives
