import ConstraintDirectives.Proofs.Sequencing
import ConstraintDirectives.Schema.Basic

/-! Whatever edits are made or refused, names and ids go by one another, and a type that is defined
stays as it is. -/
namespace ConstraintDirectives

namespace Schema

inductive Edit where
  | add (t : NamedType)
  | addScalar (name : String) (directives : List AppliedDirective)
  | declare (name : String)
  | define (id : TypeId) (definition : TypeDefinition) (directives : List AppliedDirective)

def Edit.newType? : Edit → Option NamedType
  | .add t => some t
  | .addScalar name directives => some ⟨name, .scalar none, directives⟩
  | .declare name => some ⟨name, .placeholder, []⟩
  | .define .. => none

/-- Makes an edit. One that adds a type answers its id. -/
def perform (s : Schema) : Edit → Except SchemaError (Option TypeId) × Schema
  | .add t => (s.add t).map (·.map some) id
  | .addScalar name directives => (s.addScalar name directives).map (·.map some) id
  | .declare name => (s.declare name).map (·.map some) id
  | .define i definition directives => (s.define i definition directives).map (·.map fun _ => none) id

/-- The schema after an edit, whether it was made or refused. -/
def after (s : Schema) (edit : Edit) : Schema := (s.perform edit).2

def run (s : Schema) (edits : List Edit) : Schema := edits.foldl after s

/-- Each name leads to the one type that bears it. -/
def IsIndexed (s : Schema) : Prop :=
  ∀ name id, s.find? name = some id ↔ ∃ t, s.get? id = some t ∧ t.name = name

/-- A type that is declared only, and no type before it is. -/
structure IsFirstDeclared (s : Schema) (id : TypeId) (t : NamedType) : Prop where
  get? : s.get? id = some t
  declared : t.definition.isPlaceholder = true
  first : ∀ i u, i.index < id.index → s.get? i = some u → u.definition.isPlaceholder = false

/-- What an edit does when it is made: it adds a type at the end, or fills in one that was declared and
leaves all else as it was. -/
inductive Edit.Effect (s : Schema) : Edit → Option TypeId → Schema → Prop where
  | added {edit : Edit} {t : NamedType} {id : TypeId} {s' : Schema} : edit.newType? = some t →
      s.find? t.name = none → id.index = s.size → s'.types = s.types ++ [t] →
      Effect s edit (some id) s'
  | defined {id : TypeId} {definition : TypeDefinition} {directives : List AppliedDirective}
      {old : NamedType} {s' : Schema} : s.get? id = some old →
      old.definition.isPlaceholder = true →
      s'.get? id = some ⟨old.name, definition, directives⟩ →
      (∀ i, i ≠ id → s'.get? i = s.get? i) → s'.size = s.size → s'.names = s.names →
      Effect s (.define id definition directives) none s'

/-- Types keep their ids, and those that are defined stay as they are. -/
def Precedes (s s' : Schema) : Prop :=
  ∀ id t, s.get? id = some t →
    ∃ t', s'.get? id = some t' ∧ (t.definition.isPlaceholder = false → t' = t)

variable {s s' : Schema}

private theorem perform_add {edit : Edit} {t : NamedType} (h : edit.newType? = some t) :
    s.perform edit = (s.add t).map (·.map some) id := by
  cases edit with
  | add | addScalar | declare =>
    cases h
    rfl
  | define => cases h

/-- A type is added at the end, under the next id and a name that was free. -/
theorem add_eq_ok {t : NamedType} {id : TypeId} (h : s.add t = (.ok id, s')) :
    s.find? t.name = none ∧ s.size < TypeId.count ∧ id = .ofIndex s.size ∧
      s'.types = s.types ++ [t] ∧ s'.names = s.names.insert t.name id := by
  rw [add] at h
  split at h
  · cases h
  · next hname =>
    split at h
    · next hlt =>
      cases h
      exact ⟨by simpa using hname, hlt, rfl, rfl, rfl⟩
    · cases h

theorem add_eq_error {t : NamedType} {e : SchemaError} (h : s.add t = (.error e, s')) : s' = s := by
  rw [add] at h
  split at h
  · cases h
    rfl
  · split at h
    · cases h
    · cases h
      rfl

/-- As long as there are ids, only a name that is taken keeps a type out. -/
theorem add_of_free {t : NamedType} (hname : s.find? t.name = none) (hsize : s.size < TypeId.count) :
    ∃ id s', s.add t = (.ok id, s') := by
  have hlt : s.types.length < TypeId.count := hsize
  simp [add, hname, hlt]

theorem define_eq_ok {id : TypeId} {definition : TypeDefinition} {directives : List AppliedDirective}
    (h : s.define id definition directives = (.ok (), s')) :
    ∃ old, s.get? id = some old ∧ old.definition.isPlaceholder = true ∧
      s'.types = s.types.set id.index ⟨old.name, definition, directives⟩ ∧ s'.names = s.names := by
  rw [define] at h
  split at h
  · cases h
  · next old hold =>
    split at h
    · next hp =>
      cases h
      exact ⟨old, hold, hp, rfl, rfl⟩
    · cases h

theorem define_eq_error {id : TypeId} {definition : TypeDefinition}
    {directives : List AppliedDirective} {e : SchemaError}
    (h : s.define id definition directives = (.error e, s')) : s' = s := by
  rw [define] at h
  split at h
  · cases h
    rfl
  · split at h
    · cases h
    · cases h
      rfl

theorem index_lt_size {id : TypeId} {t : NamedType} (h : s.get? id = some t) : id.index < s.size :=
  (List.getElem?_eq_some_iff.mp h).1

theorem get?_of_types_append {t : NamedType} (h : s'.types = s.types ++ [t]) (id : TypeId) :
    s'.get? id = if id.index < s.size then s.get? id
      else if id.index = s.size then some t else none := by
  rw [get?, h]
  split
  · next hlt => exact List.getElem?_append_left hlt
  · next hge =>
    rw [List.getElem?_append_right (Nat.le_of_not_lt hge)]
    split
    · next heq =>
      have hzero : id.index - s.types.length = 0 := by
        simp only [size] at heq
        omega
      rw [hzero]
      rfl
    · next hne =>
      apply List.getElem?_eq_none
      simp only [size, List.length_singleton] at hge hne ⊢
      omega

theorem get?_of_types_set {id : TypeId} {old new : NamedType} (hold : s.get? id = some old)
    (h : s'.types = s.types.set id.index new) (i : TypeId) :
    s'.get? i = if i = id then some new else s.get? i := by
  have hlt : id.index < s.types.length := index_lt_size hold
  rw [get?, h]
  split
  · next he =>
    subst he
    exact List.getElem?_set_self hlt
  · next hne =>
    refine List.getElem?_set_ne fun he => hne ?_
    rw [← TypeId.ofIndex_index i, ← TypeId.ofIndex_index id, he]

/-- An edit is made if adding its type, or defining one, is. Otherwise the schema is what it was. -/
theorem perform_cases (s : Schema) (edit : Edit) : (∃ e, s.perform edit = (.error e, s)) ∨
    (∃ t id s', edit.newType? = some t ∧ s.add t = (.ok id, s') ∧
      s.perform edit = (.ok (some id), s')) ∨
    ∃ id definition directives s', edit = .define id definition directives ∧
      s.define id definition directives = (.ok (), s') ∧ s.perform edit = (.ok none, s') := by
  have adds {t : NamedType} (ht : edit.newType? = some t) : (∃ e, s.perform edit = (.error e, s)) ∨
      ∃ t id s', edit.newType? = some t ∧ s.add t = (.ok id, s') ∧
        s.perform edit = (.ok (some id), s') := by
    rw [perform_add ht]
    cases hadd : s.add t with
    | mk answer s' =>
      cases answer with
      | error e =>
        cases add_eq_error hadd
        exact .inl ⟨e, rfl⟩
      | ok id => exact .inr ⟨t, id, s', ht, hadd, rfl⟩
  cases edit with
  | add | addScalar | declare => exact (adds rfl).imp_right .inl
  | define id definition directives =>
    rw [perform]
    cases hdef : s.define id definition directives with
    | mk answer s' =>
      cases answer with
      | error e =>
        cases define_eq_error hdef
        exact .inl ⟨e, rfl⟩
      | ok => exact .inr (.inr ⟨id, definition, directives, s', rfl, hdef, rfl⟩)

private theorem effect_of_perform {edit : Edit} {answer : Option TypeId}
    (h : s.perform edit = (.ok answer, s')) : edit.Effect s answer s' := by
  rcases s.perform_cases edit with ⟨e, he⟩ | ⟨t, id, _, ht, hadd, he⟩ |
    ⟨id, definition, directives, _, rfl, hdef, he⟩
  · cases he.symm.trans h
  · cases he.symm.trans h
    obtain ⟨hfree, hlt, rfl, htypes, -⟩ := add_eq_ok hadd
    exact .added ht hfree (TypeId.index_ofIndex hlt) htypes
  · cases he.symm.trans h
    obtain ⟨old, hold, hdeclared, htypes, hnames⟩ := define_eq_ok hdef
    have hget := get?_of_types_set hold htypes
    refine .defined hold hdeclared (by rw [hget, if_pos rfl]) (fun i hi => ?_) ?_ hnames
    · rw [hget, if_neg hi]
    · rw [size, size, htypes, List.length_set]

private theorem perform_eq_error {edit : Edit} {e : SchemaError}
    (h : s.perform edit = (.error e, s')) : s' = s := by
  rcases s.perform_cases edit with ⟨e, he⟩ | ⟨t, id, _, -, -, he⟩ |
    ⟨id, definition, directives, _, -, -, he⟩
  · exact (Prod.mk.inj (he.symm.trans h)).2.symm
  · cases he.symm.trans h
  · cases he.symm.trans h

/-- What is kept by the edits that are made is kept by every edit. -/
theorem after_of_made {P : Schema → Prop} (edit : Edit) (hs : P s)
    (hadd : ∀ t id s', s.add t = (.ok id, s') → P s')
    (hdefine : ∀ id definition directives s',
      s.define id definition directives = (.ok (), s') → P s') : P (s.after edit) := by
  rw [after]
  rcases s.perform_cases edit with ⟨e, he⟩ | ⟨t, id, s', -, hmade, he⟩ |
    ⟨id, definition, directives, s', -, hmade, he⟩
  · rwa [he]
  · rw [he]
    exact hadd t id s' hmade
  · rw [he]
    exact hdefine id definition directives s' hmade

/-! ### The built-in schema -/

theorem get?_builtin (b : BuiltinScalar) : builtin.get? b.typeId = some (builtinType b) := by
  cases b <;> rfl

private theorem find?_builtin_eq_some_iff {name : String} {id : TypeId} :
    builtin.find? name = some id ↔ ∃ b : BuiltinScalar, b.typeName = name ∧ b.typeId = id := by
  have hentries : builtin.names.entries = BuiltinScalar.all.map fun b => (b.typeName, b.typeId) :=
    OrderedMap.entries_ofList (by decide)
  have hmem : builtin.find? name = some id ↔
      (name, id) ∈ BuiltinScalar.all.map fun b => (b.typeName, b.typeId) := by
    rw [find?, OrderedMap.get?, ← hentries]
    exact ⟨Entries.mem_of_get?, Entries.get?_of_mem builtin.names.nodup⟩
  rw [hmem, List.mem_map]
  constructor
  · rintro ⟨b, -, hb⟩
    cases hb
    exact ⟨b, rfl, rfl⟩
  · rintro ⟨b, rfl, rfl⟩
    exact ⟨b, by cases b <;> simp [BuiltinScalar.all], rfl⟩

private theorem exists_typeId_of_lt {id : TypeId} (h : id.index < 5) :
    ∃ b : BuiltinScalar, b.typeId = id := by
  rw [← TypeId.ofIndex_index id]
  generalize id.index = i at h
  match i, h with
  | 0, _ => exact ⟨.int, rfl⟩
  | 1, _ => exact ⟨.float, rfl⟩
  | 2, _ => exact ⟨.string, rfl⟩
  | 3, _ => exact ⟨.boolean, rfl⟩
  | 4, _ => exact ⟨.id, rfl⟩

theorem isIndexed_builtin : IsIndexed builtin := by
  intro name id
  rw [find?_builtin_eq_some_iff]
  constructor
  · rintro ⟨b, rfl, rfl⟩
    exact ⟨builtinType b, get?_builtin b, rfl⟩
  · rintro ⟨t, ht, rfl⟩
    obtain ⟨b, rfl⟩ := exists_typeId_of_lt (index_lt_size ht)
    cases (get?_builtin b).symm.trans ht
    exact ⟨b, rfl, rfl⟩

/-! ### One edit -/

private theorem IsIndexed.add (h : s.IsIndexed) {t : NamedType} {id : TypeId}
    (hadd : s.add t = (.ok id, s')) : s'.IsIndexed := by
  obtain ⟨hfree, hlt, rfl, htypes, hnames⟩ := add_eq_ok hadd
  have hindex : (TypeId.ofIndex s.size).index = s.size := TypeId.index_ofIndex hlt
  have hfind (name : String) : s'.find? name =
      if t.name = name then some (.ofIndex s.size) else s.find? name := by
    rw [find?, hnames]
    exact Entries.get?_upsert s.names.entries t.name name _
  intro name i
  rw [hfind, get?_of_types_append htypes]
  split
  · next hn =>
    -- the name was free, so no type that was there before bears it
    subst hn
    constructor
    · intro hi
      cases hi
      exact ⟨t, by simp [hindex], rfl⟩
    · rintro ⟨u, hu, hname⟩
      split at hu
      · rw [(h t.name i).mpr ⟨u, hu, hname⟩] at hfree
        cases hfree
      · split at hu
        · next he => rw [← TypeId.ofIndex_index i, he]
        · cases hu
  · next hn =>
    rw [h]
    constructor
    · rintro ⟨u, hu, hname⟩
      exact ⟨u, by rw [if_pos (index_lt_size hu)]; exact hu, hname⟩
    · rintro ⟨u, hu, hname⟩
      split at hu
      · exact ⟨u, hu, hname⟩
      · split at hu
        · cases hu
          exact absurd hname hn
        · cases hu

theorem IsIndexed.define (h : s.IsIndexed) {id : TypeId} {definition : TypeDefinition}
    {directives : List AppliedDirective} (hdef : s.define id definition directives = (.ok (), s')) :
    s'.IsIndexed := by
  obtain ⟨old, hold, -, htypes, hnames⟩ := define_eq_ok hdef
  have hfind (name : String) : s'.find? name = s.find? name := by rw [find?, find?, hnames]
  intro name i
  rw [hfind, h, get?_of_types_set hold htypes]
  split
  · next he =>
    subst he
    simp [hold]
  · exact Iff.rfl

private theorem IsIndexed.after (h : s.IsIndexed) (edit : Edit) : (s.after edit).IsIndexed :=
  after_of_made edit h (fun _ _ _ => h.add) fun _ _ _ _ => h.define

namespace Precedes

theorem refl (s : Schema) : s.Precedes s := fun _ t ht => ⟨t, ht, fun _ => rfl⟩

theorem trans {s'' : Schema} (h : s.Precedes s') (h' : s'.Precedes s'') : s.Precedes s'' := by
  intro id t ht
  obtain ⟨t', ht', hkeeps⟩ := h id t ht
  obtain ⟨t'', ht'', hkeeps'⟩ := h' id t' ht'
  refine ⟨t'', ht'', fun hd => ?_⟩
  have he := hkeeps hd
  subst he
  exact hkeeps' hd

private theorem of_add {t : NamedType} {id : TypeId} (hadd : s.add t = (.ok id, s')) : s.Precedes s' := by
  obtain ⟨-, -, -, htypes, -⟩ := add_eq_ok hadd
  intro i u hu
  exact ⟨u, by rw [get?_of_types_append htypes, if_pos (index_lt_size hu)]; exact hu, fun _ => rfl⟩

private theorem of_define {id : TypeId} {definition : TypeDefinition} {directives : List AppliedDirective}
    (hdef : s.define id definition directives = (.ok (), s')) : s.Precedes s' := by
  obtain ⟨old, hold, hdeclared, htypes, -⟩ := define_eq_ok hdef
  intro i u hu
  rw [get?_of_types_set hold htypes]
  split
  · next he =>
    subst he
    cases hold.symm.trans hu
    exact ⟨_, rfl, fun hd => absurd hdeclared (by simp [hd])⟩
  · exact ⟨u, hu, fun _ => rfl⟩

private theorem after (s : Schema) (edit : Edit) : s.Precedes (s.after edit) :=
  after_of_made edit (.refl s) (fun _ _ _ => of_add) fun _ _ _ _ => of_define

end Precedes

/-! ### Runs -/

theorem IsIndexed.run (h : s.IsIndexed) (edits : List Edit) : (s.run edits).IsIndexed := by
  induction edits generalizing s with
  | nil => exact h
  | cons edit edits ih => exact ih (h.after edit)

theorem Precedes.run (s : Schema) (edits : List Edit) : s.Precedes (s.run edits) := by
  induction edits generalizing s with
  | nil => exact .refl s
  | cons edit edits ih => exact (Precedes.after s edit).trans (ih (s.after edit))

/-- The built-in scalars come first, whatever follows. -/
theorem get?_run_builtin (edits : List Edit) (b : BuiltinScalar) :
    (builtin.run edits).get? b.typeId = some (builtinType b) := by
  obtain ⟨t, ht, hkeeps⟩ := Precedes.run builtin edits b.typeId (builtinType b) (get?_builtin b)
  rw [ht, hkeeps rfl]

/-! ### What is left to be defined -/

theorem mem_types_iff {t : NamedType} : t ∈ s.types ↔ ∃ id, s.get? id = some t := by
  rw [List.mem_iff_getElem?]
  constructor
  · rintro ⟨i, hi⟩
    have hlt : i < TypeId.count :=
      Nat.lt_of_lt_of_le (List.getElem?_eq_some_iff.mp hi).1 s.length_le
    exact ⟨.ofIndex i, by rw [get?, TypeId.index_ofIndex hlt]; exact hi⟩
  · rintro ⟨id, hid⟩
    exact ⟨id.index, hid⟩

theorem checkComplete_eq_ok_iff : s.checkComplete = .ok () ↔
    ∀ id t, s.get? id = some t → t.definition.isPlaceholder = false := by
  have hfind : s.checkComplete = .ok () ↔
      s.types.find? (·.definition.isPlaceholder) = none := by
    rw [checkComplete]
    split
    · next h => simp [h]
    · next h => simp [h]
  rw [hfind, List.find?_eq_none]
  simp only [mem_types_iff, Bool.not_eq_true]
  exact ⟨fun h id t ht => h t ⟨id, ht⟩, fun h t ⟨id, ht⟩ => h id t ht⟩

private theorem find?_isPlaceholder_eq_some_iff {t : NamedType} :
    s.types.find? (·.definition.isPlaceholder) = some t ↔ ∃ id, s.IsFirstDeclared id t := by
  rw [List.find?_eq_some_iff_getElem]
  constructor
  · rintro ⟨hdeclared, i, hi, rfl, hfirst⟩
    have hindex : (TypeId.ofIndex i).index = i :=
      TypeId.index_ofIndex (Nat.lt_of_lt_of_le hi s.length_le)
    refine ⟨.ofIndex i, ?_, hdeclared, fun j u hj hu => ?_⟩
    · rw [get?, hindex, List.getElem?_eq_getElem hi]
    · rw [hindex] at hj
      obtain ⟨hlt, rfl⟩ := List.getElem?_eq_some_iff.mp hu
      simpa using hfirst j.index hj
  · rintro ⟨id, hget, hdeclared, hfirst⟩
    obtain ⟨hlt, rfl⟩ := List.getElem?_eq_some_iff.mp hget
    refine ⟨hdeclared, id.index, hlt, rfl, fun j hj => ?_⟩
    have hindex : (TypeId.ofIndex j).index = j := TypeId.index_ofIndex (Nat.lt_trans hj id.index_lt)
    have hjlt : j < s.types.length := Nat.lt_trans hj hlt
    simpa using hfirst (.ofIndex j) s.types[j] (by rwa [hindex])
      (by rw [get?, hindex, List.getElem?_eq_getElem hjlt])

/-- The first type that is declared only is the one that is named. -/
theorem checkComplete_eq_error_iff {e : SchemaError} : s.checkComplete = .error e ↔
    ∃ id t, s.IsFirstDeclared id t ∧ e = .undefinedType t.name := by
  have hfind : s.checkComplete = .error e ↔ ∃ t,
      s.types.find? (·.definition.isPlaceholder) = some t ∧ e = .undefinedType t.name := by
    rw [checkComplete]
    split
    · next h => simp [h, eq_comm]
    · next h => simp [h]
  simp only [hfind, find?_isPlaceholder_eq_some_iff, exists_and_right.symm]
  exact exists_comm

/-- After any edits, names and ids go by one another and the built-in scalars have the first five ids. An
edit that is made does one thing only, and one that is refused does nothing. What is defined is so for
good, and the check for completeness names the first type that is not. -/
theorem run_builtin_consistent (edits : List Edit) :
    let s := builtin.run edits
    s.IsIndexed ∧
    (BuiltinScalar.all.map (·.typeId.index) = [0, 1, 2, 3, 4] ∧
      ∀ b : BuiltinScalar, s.get? b.typeId = some (builtinType b)) ∧
    (∀ edit answer s', s.perform edit = (.ok answer, s') → edit.Effect s answer s') ∧
    (∀ edit t, edit.newType? = some t → s.find? t.name = none → s.size < TypeId.count →
      ∃ id s', s.perform edit = (.ok (some id), s')) ∧
    (∀ edit e s', s.perform edit = (.error e, s') → s' = s) ∧
    (∀ more id t, s.get? id = some t → t.definition.isPlaceholder = false →
      (s.run more).get? id = some t) ∧
    (s.checkComplete = .ok () ↔ ∀ id t, s.get? id = some t → t.definition.isPlaceholder = false) ∧
    ∀ e, s.checkComplete = .error e ↔ ∃ id t, s.IsFirstDeclared id t ∧ e = .undefinedType t.name := by
  intro s
  refine ⟨isIndexed_builtin.run edits, ⟨by decide, get?_run_builtin edits⟩, ?_, ?_, ?_, ?_,
    checkComplete_eq_ok_iff, fun e => checkComplete_eq_error_iff⟩
  · exact fun edit answer s' => effect_of_perform
  · intro edit t ht hname hsize
    obtain ⟨id, s', hadd⟩ := add_of_free hname hsize
    exact ⟨id, s', by rw [perform_add ht, hadd]; rfl⟩
  · exact fun edit e s' => perform_eq_error
  · intro more id t ht hdefined
    obtain ⟨t', ht', hkeeps⟩ := Precedes.run s more id t ht
    rw [ht', hkeeps hdefined]

end Schema
end ConstraintDirectives
