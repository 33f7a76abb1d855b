import ConstraintDirectives.Proofs.Conjunction
import ConstraintDirectives.Proofs.Matching

/-! Trees that say the same in another order, or say it twice, accept the same values. -/
namespace ConstraintDirectives
open ConstraintIndex (Gathered)

namespace ConstraintTree

/-- Trees that differ by rearrangements: of the directives, of the sets under one of them, of the
properties or of the inherited types, here or inside a property. -/
inductive Reorders : ConstraintTree → ConstraintTree → Prop where
  | trans {a b c : ConstraintTree} : Reorders a b → Reorders b c → Reorders a c
  | directives {ds ds' : List (DirectiveKey × List ConstraintSet)}
      {ps : List (String × ConstraintTree)} {is : List TypeId} : ds.Perm ds' →
      Reorders ⟨ds, ps, is⟩ ⟨ds', ps, is⟩
  | sets {before after : List (DirectiveKey × List ConstraintSet)} {key : DirectiveKey}
      {sets sets' : List ConstraintSet} {ps : List (String × ConstraintTree)} {is : List TypeId} :
      sets.Perm sets' →
      Reorders ⟨before ++ (key, sets) :: after, ps, is⟩ ⟨before ++ (key, sets') :: after, ps, is⟩
  | properties {ds : List (DirectiveKey × List ConstraintSet)}
      {ps ps' : List (String × ConstraintTree)} {is : List TypeId} : ps.Perm ps' →
      Reorders ⟨ds, ps, is⟩ ⟨ds, ps', is⟩
  | property {ds : List (DirectiveKey × List ConstraintSet)}
      {before after : List (String × ConstraintTree)} {name : String} {t t' : ConstraintTree}
      {is : List TypeId} : Reorders t t' →
      Reorders ⟨ds, before ++ (name, t) :: after, is⟩ ⟨ds, before ++ (name, t') :: after, is⟩
  | inherits {ds : List (DirectiveKey × List ConstraintSet)} {ps : List (String × ConstraintTree)}
      {is is' : List TypeId} : is.Perm is' → Reorders ⟨ds, ps, is⟩ ⟨ds, ps, is'⟩

/-- Trees that say the same: they have the same keys with the same sets under them, inherit the same types,
and say the same of the same properties. -/
inductive Equivalent : ConstraintTree → ConstraintTree → Prop where
  | intro {t t' : ConstraintTree} : (∀ key, t.hasKey key = t'.hasKey key) →
      (∀ key set, set ∈ t.sets key ↔ set ∈ t'.sets key) →
      (∀ name, (t.property? name).isSome = (t'.property? name).isSome) →
      (∀ name p p', t.property? name = some p → t'.property? name = some p' → Equivalent p p') →
      (∀ id, id ∈ t.inherits ↔ id ∈ t'.inherits) → Equivalent t t'

namespace Equivalent
variable {a b t t' : ConstraintTree}

private theorem hasKey_eq (h : t.Equivalent t') (key : DirectiveKey) : t.hasKey key = t'.hasKey key := by
  cases h
  next hk _ _ _ _ => exact hk key

private theorem mem_sets_iff (h : t.Equivalent t') (key : DirectiveKey) (set : ConstraintSet) :
    set ∈ t.sets key ↔ set ∈ t'.sets key := by
  cases h
  next _ hs _ _ _ => exact hs key set

private theorem mem_inherits_iff (h : t.Equivalent t') (id : TypeId) :
    id ∈ t.inherits ↔ id ∈ t'.inherits := by
  cases h
  next _ _ _ _ hi => exact hi id

private theorem exists_property? (h : t.Equivalent t') {name : String} {p : ConstraintTree}
    (hp : t.property? name = some p) : ∃ p', t'.property? name = some p' ∧ p.Equivalent p' := by
  cases h
  next hn hps _ =>
    have hsome : (t'.property? name).isSome = true := by
      rw [← hn, hp]
      rfl
    obtain ⟨p', hp'⟩ := Option.isSome_iff_exists.mp hsome
    exact ⟨p', hp', hps name p p' hp hp'⟩

theorem refl (t : ConstraintTree) : t.Equivalent t := by
  induction t using byProperties with
  | tree t ih =>
    refine .intro (fun _ => rfl) (fun _ _ => Iff.rfl) (fun _ => rfl) ?_ fun _ => Iff.rfl
    intro name p p' hp hp'
    cases hp.symm.trans hp'
    exact ih (name, p) (Entries.mem_of_get? hp)

theorem symm (h : t.Equivalent t') : t'.Equivalent t := by
  induction h with
  | intro hk hs hn _ hi ih =>
    exact .intro (fun key => (hk key).symm) (fun key set => (hs key set).symm)
      (fun name => (hn name).symm) (fun name p p' hp hp' => ih name p' p hp' hp)
      fun id => (hi id).symm

theorem trans {t'' : ConstraintTree} (h : t.Equivalent t') (h' : t'.Equivalent t'') :
    t.Equivalent t'' := by
  induction h generalizing t'' with
  | @intro t t' hk hs hn hps hi ih =>
    refine .intro (fun key => (hk key).trans (h'.hasKey_eq key))
      (fun key set => (hs key set).trans (h'.mem_sets_iff key set)) (fun name => ?_) ?_
      fun id => (hi id).trans (h'.mem_inherits_iff id)
    · cases h'
      next _ _ hn' _ _ => exact (hn name).trans (hn' name)
    · intro name p p'' hp hp''
      have hsome : (t'.property? name).isSome = true := by
        rw [← hn, hp]
        rfl
      obtain ⟨p', hp'⟩ := Option.isSome_iff_exists.mp hsome
      obtain ⟨q, hq, he⟩ := h'.exists_property? hp'
      cases hq.symm.trans hp''
      exact ih name p p' hp hp' he

/-- It is enough to look up each key and each property. -/
theorem of_get?
    (hd : ∀ key, Option.Rel (fun sets sets' => ∀ set, set ∈ sets ↔ set ∈ sets')
      (Entries.get? t.directives key) (Entries.get? t'.directives key))
    (hp : ∀ name, Option.Rel Equivalent (t.property? name) (t'.property? name))
    (hi : ∀ id, id ∈ t.inherits ↔ id ∈ t'.inherits) : t.Equivalent t' := by
  refine .intro (fun key => ?_) (fun key set => ?_) (fun name => ?_) ?_ hi
  · have hr := hd key
    rw [hasKey, hasKey]
    generalize Entries.get? t.directives key = o, Entries.get? t'.directives key = o' at hr
    cases hr <;> rfl
  · have hr := hd key
    rw [sets, sets]
    generalize Entries.get? t.directives key = o, Entries.get? t'.directives key = o' at hr
    cases hr with
    | some hs => exact hs set
    | none => exact Iff.rfl
  · have hr := hp name
    generalize t.property? name = o, t'.property? name = o' at hr
    cases hr <;> rfl
  · intro name p p' hq hq'
    have hr := hp name
    rw [hq, hq'] at hr
    cases hr with
    | some he => exact he

/-- Merging the other way round brings the same constraints in another order. -/
theorem merge_comm (ha : a.Distinct) (hb : b.Distinct) : (a.merge b).Equivalent (b.merge a) := by
  induction b using byProperties generalizing a with
  | tree b ih =>
    refine .intro (fun key => ?_) (fun key set => ?_) (fun name => ?_) ?_ fun id => ?_
    · rw [hasKey_merge a hb.directives, hasKey_merge b ha.directives, Bool.or_comm]
    · simp only [sets_merge a hb.directives, sets_merge b ha.directives, List.mem_append, or_comm]
    · rw [property?_merge a hb.properties, property?_merge b ha.properties]
      cases a.property? name <;> cases b.property? name <;> rfl
    · intro name p p' hp hp'
      rw [property?_merge a hb.properties] at hp
      rw [property?_merge b ha.properties] at hp'
      cases hqa : a.property? name with
      | none =>
        cases hqb : b.property? name with
        | none => simp [hqa, hqb] at hp
        | some q =>
          simp only [hqa, hqb, mergedProperty, Option.elim_some, Option.elim_none,
            Option.some.injEq] at hp hp'
          rw [← hp, ← hp']
          exact .refl q
      | some r =>
        cases hqb : b.property? name with
        | none =>
          simp only [hqa, hqb, mergedProperty, Option.elim_some, Option.elim_none,
            Option.some.injEq] at hp hp'
          rw [← hp, ← hp']
          exact .refl r
        | some q =>
          simp only [hqa, hqb, mergedProperty, Option.elim_some, Option.some.injEq] at hp hp'
          rw [← hp, ← hp']
          exact ih (name, q) (Entries.mem_of_get? hqb) (ha.property? hqa) (hb.property? hqb)
    · simp only [inherits_merge, List.mem_append, or_comm]

/-- A tree merged with itself says everything twice. -/
theorem merge_self (ha : a.Distinct) : (a.merge a).Equivalent a := by
  induction a using byProperties with
  | tree a ih =>
    refine .intro (fun key => ?_) (fun key set => ?_) (fun name => ?_) ?_ fun id => ?_
    · rw [hasKey_merge a ha.directives, Bool.or_self]
    · simp only [sets_merge a ha.directives, List.mem_append, or_self]
    · rw [property?_merge a ha.properties]
      cases a.property? name <;> rfl
    · intro name p p' hp hp'
      rw [property?_merge a ha.properties, hp', Option.elim_some, Option.some.injEq] at hp
      rw [← hp]
      exact ih (name, p') (Entries.mem_of_get? hp') (ha.property? hp')
    · simp only [inherits_merge, List.mem_append, or_self]

end Equivalent

/-! ### Rearrangements -/

/-- One entry may be exchanged for another that is related to it. -/
theorem matches_of_entry {κ α : Type} {R : α → α → Prop} (hr : ∀ x, R x x)
    (before after : Entries κ α) (k : κ) {x y : α} (h : R x y) :
    Entries.Matches R (before ++ (k, x) :: after) (before ++ (k, y) :: after) := by
  have hsame (es : Entries κ α) : Entries.Matches R es es :=
    List.forall₂_same.mpr fun e _ => ⟨rfl, hr e.2⟩
  exact List.rel_append (hsame before) (.cons ⟨rfl, h⟩ (hsame after))

namespace Reorders
variable {a b : ConstraintTree}

theorem distinct (h : a.Reorders b) (ha : a.Distinct) : b.Distinct := by
  induction h with
  | trans _ _ ih ih' => exact ih' (ih ha)
  | directives hp =>
    rw [distinct_mk] at ha ⊢
    exact ⟨(hp.map Prod.fst).nodup_iff.mp ha.1, ha.2⟩
  | sets => simpa [Entries.keys] using ha
  | properties hp =>
    rw [distinct_mk] at ha ⊢
    exact ⟨ha.1, (hp.map Prod.fst).nodup_iff.mp ha.2.1, fun p hm => ha.2.2 p (hp.mem_iff.mpr hm)⟩
  | @property ds before after name t t' is _ ih =>
    rw [distinct_mk] at ha ⊢
    refine ⟨ha.1, by simpa [Entries.keys] using ha.2.1, fun p hm => ?_⟩
    have ht' : t'.Distinct := ih (ha.2.2 (name, t) (by simp))
    rcases List.mem_append.mp hm with hm | hm
    · exact ha.2.2 p (List.mem_append_left _ hm)
    · rcases List.mem_cons.mp hm with rfl | hm
      · exact ht'
      · exact ha.2.2 p (List.mem_append_right _ (List.mem_cons_of_mem _ hm))
  | inherits => simpa using ha

theorem equivalent (h : a.Reorders b) (ha : a.Distinct) : a.Equivalent b := by
  have same {κ α : Type} [DecidableEq κ] {R : α → α → Prop} (hr : ∀ x, R x x) {es fs : Entries κ α}
      {k : κ} (he : Entries.get? es k = Entries.get? fs k) :
      Option.Rel R (Entries.get? es k) (Entries.get? fs k) := by
    rw [he]
    cases Entries.get? fs k with
    | none => exact .none
    | some x => exact .some (hr x)
  have hsets : ∀ (sets : List ConstraintSet) set, set ∈ sets ↔ set ∈ sets := fun _ _ => Iff.rfl
  induction h with
  | trans h _ ih ih' => exact (ih ha).trans (ih' (h.distinct ha))
  | directives hp =>
    exact .of_get? (fun key => same hsets (Entries.get?_of_perm ha.directives hp key))
      (fun name => same .refl rfl) fun _ => Iff.rfl
  | sets hp =>
    exact .of_get? (matches_of_entry hsets _ _ _ fun _ => hp.mem_iff).get?
      (fun name => same .refl rfl) fun _ => Iff.rfl
  | properties hp =>
    exact .of_get? (fun key => same hsets rfl)
      (fun name => same .refl (Entries.get?_of_perm ha.properties hp name)) fun _ => Iff.rfl
  | @property ds before after name t t' is _ ih =>
    have ht : t.Equivalent t' := ih (ha.of_mem (p := (name, t)) (by simp))
    exact .of_get? (fun key => same hsets rfl) (matches_of_entry .refl _ _ _ ht).get?
      fun _ => Iff.rfl
  | inherits hp =>
    exact .of_get? (fun key => same hsets rfl) (fun name => same .refl rfl) fun _ => hp.mem_iff

end Reorders
end ConstraintTree

/-! ### What is in force -/

structure Force.Covers (f g : Force) : Prop where
  depth : g.depth = f.depth
  trees : ∀ t, f.trees t → ∃ t', g.trees t' ∧ t.Equivalent t'

namespace Force.Covers
variable {index : ConstraintIndex} {f g : Force}

private theorem gathered {roots roots' : ConstraintTree → Prop}
    (h : ∀ t, roots t → ∃ t', roots' t' ∧ t.Equivalent t') :
    Covers ⟨Gathered index roots, 0⟩ ⟨Gathered index roots', 0⟩ where
  depth := rfl
  trees t hg := by
    induction hg with
    | root hr =>
      obtain ⟨t', hr', he⟩ := h _ hr
      exact ⟨t', .root hr', he⟩
    | @inherited t u id _ hi hid ih =>
      obtain ⟨t', hg', he⟩ := ih
      exact ⟨u, .inherited hg' ((he.mem_inherits_iff id).mp hi) hid, .refl u⟩

private theorem start {t t' : ConstraintTree} (h : t.Equivalent t') :
    Covers (.start index t) (.start index t') := by
  apply gathered
  rintro u rfl
  exact ⟨t', rfl, h⟩

private theorem step (h : Covers f g) (s : PathStep) : Covers (f.step index s) (g.step index s) := by
  cases s with
  | index i => exact ⟨congrArg (· + 1) h.depth, h.trees⟩
  | key name =>
    apply gathered
    rintro p ⟨t, hf, hp⟩
    obtain ⟨t', hg, he⟩ := h.trees t hf
    obtain ⟨p', hp', he'⟩ := he.exists_property? hp
    exact ⟨p', ⟨t', hg, hp'⟩, he'⟩

private theorem along (index : ConstraintIndex) {t t' : ConstraintTree} (h : t.Equivalent t')
    (path : ValuePath) : Covers (.along index t path) (.along index t' path) := by
  suffices ∀ {f g}, Covers f g →
      Covers (path.foldl (Force.step index) f) (path.foldl (Force.step index) g) from
    this (start h)
  induction path with
  | nil => exact id
  | cons s path ih => exact fun h => ih (h.step s)

private theorem demands (h : Covers f g) {key : DirectiveKey} {set : ConstraintSet}
    (hd : f.Demands key set) : g.Demands key set := by
  rw [Force.demands_iff] at hd ⊢
  obtain ⟨t, hf, outer, ho, hlink⟩ := hd
  obtain ⟨t', hg, he⟩ := h.trees t hf
  rw [Force.levels_eq_of_depth h.depth]
  exact ⟨t', hg, outer, (he.mem_sets_iff key outer).mp ho, hlink⟩

private theorem hasKey (h : Covers f g) {key : DirectiveKey} (hk : f.HasKey key) : g.HasKey key := by
  rw [Force.hasKey_iff] at hk ⊢
  rw [Force.levels_eq_of_depth h.depth]
  split
  · next hl =>
    rw [if_pos hl] at hk
    obtain ⟨t, hf, ht⟩ := hk
    obtain ⟨t', hg, he⟩ := h.trees t hf
    exact ⟨t', hg, he.hasKey_eq key ▸ ht⟩
  · next hl =>
    rw [if_neg hl] at hk
    obtain ⟨set, hd⟩ := hk
    exact ⟨set, h.demands hd⟩

end Force.Covers

namespace ConstraintIndex
variable (index : ConstraintIndex) {t t' : ConstraintTree}

private theorem validate_ok_of_equivalent (h : t.Equivalent t') {value : Value}
    (hv : index.validate t value = .ok ()) : index.validate t' value = .ok () := by
  refine validate_ok_iff_parts.mpr fun path part hp => ?_
  obtain ⟨hkinds, hholds⟩ := validate_ok_iff_parts.mp hv path part hp
  have hto := Force.Covers.along index h path
  have hfrom := Force.Covers.along index h.symm path
  constructor
  · intro hs key hk
    obtain ⟨own, ho, hown⟩ := hkinds hs key (hfrom.hasKey hk)
    exact ⟨own, ho, hto.hasKey hown⟩
  · exact fun key hk set hd => hholds key hk set (hfrom.demands hd)

/-- Trees that say the same accept the same values. -/
theorem validate_ok_iff_of_equivalent (h : t.Equivalent t') (value : Value) :
    index.validate t value = .ok () ↔ index.validate t' value = .ok () :=
  ⟨index.validate_ok_of_equivalent h, index.validate_ok_of_equivalent h.symm⟩

/-- What is accepted does not depend on which of two trees is merged into the other, on whether a tree
is merged with itself, or on any order within a tree. -/
theorem validate_ok_order_irrelevant {a b : ConstraintTree} (ha : a.Distinct) (hb : b.Distinct)
    (value : Value) :
    (index.validate (a.merge b) value = .ok () ↔ index.validate (b.merge a) value = .ok ()) ∧
    (index.validate (a.merge a) value = .ok () ↔ index.validate a value = .ok ()) ∧
    ∀ a', a.Reorders a' → (index.validate a value = .ok () ↔ index.validate a' value = .ok ()) :=
  ⟨index.validate_ok_iff_of_equivalent (.merge_comm ha hb) value,
    index.validate_ok_iff_of_equivalent (.merge_self ha) value,
    fun _ h => index.validate_ok_iff_of_equivalent (h.equivalent ha) value⟩

set_option maxRecDepth 8000 in
/-- Both sides ask for more tags than there are. Which bound is reported depends on the order; that one is
does not. -/
theorem validate_ok_order_irrelevant_of_few_tags :
    let index : ConstraintIndex := ⟨[⟨[], [("next", ⟨[], [], [⟨0⟩]⟩)], []⟩], .empty⟩
    let tags (sets : List ConstraintSet) : ConstraintTree := ⟨[(.list, sets)], [], []⟩
    let a : ConstraintTree :=
      ⟨[], [("tags", tags [[(.minItems, .int 2)], [(.maxItems, .int 9)]]), ("next", .empty)], [⟨0⟩]⟩
    let b : ConstraintTree := ⟨[], [("tags", tags [[(.minItems, .int 3)]])], []⟩
    let a' : ConstraintTree :=
      ⟨[], [("next", .empty), ("tags", tags [[(.maxItems, .int 9)], [(.minItems, .int 2)]])], [⟨0⟩]⟩
    let value : Value := .record [("tags", .list [.null])]
    let refusal (n : Int64) (reason : String) : Rejection :=
      .constraintViolation [.key "tags"] .list .minItems (.int n) (.list [.null]) reason
    a.Distinct ∧ b.Distinct ∧ a.Reorders a' ∧
      index.validate (a.merge b) value =
        .error (refusal 2 "list has 1 items, fewer than minItems 2") ∧
      index.validate (b.merge a) value =
        .error (refusal 3 "list has 1 items, fewer than minItems 3") ∧
      index.validate (a.merge a) value ≠ .ok () ∧ index.validate a' value ≠ .ok () := by
  intro index tags a b a' value refusal
  have ha : a.Distinct := by simp [a, tags, Entries.keys, ConstraintTree.empty]
  have hb : b.Distinct := by simp [b, tags, Entries.keys]
  have hreorders : a.Reorders a' := by
    have hinner : (tags [[(.minItems, .int 2)], [(.maxItems, .int 9)]]).Reorders
        (tags [[(.maxItems, .int 9)], [(.minItems, .int 2)]]) :=
      @ConstraintTree.Reorders.sets [] [] .list _ _ [] [] (.swap ..)
    have hinside : a.Reorders ⟨[], [("tags", tags [[(.maxItems, .int 9)], [(.minItems, .int 2)]]),
        ("next", .empty)], [⟨0⟩]⟩ :=
      @ConstraintTree.Reorders.property [] [] [("next", .empty)] "tags" _ _ [⟨0⟩] hinner
    exact hinside.trans (.properties (.swap ..))
  have hrefused : index.validate a value ≠ .ok () := by
    have : index.validate a value =
        .error (refusal 2 "list has 1 items, fewer than minItems 2") := by cbv
    simp [this]
  obtain ⟨-, hself, hsame⟩ := index.validate_ok_order_irrelevant ha hb value
  exact ⟨ha, hb, hreorders, by cbv, by cbv, mt hself.mp hrefused,
    mt (hsame a' hreorders).mpr hrefused⟩

end ConstraintIndex
end ConstraintDirectives
