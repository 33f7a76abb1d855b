import ConstraintDirectives.Proofs.AcceptedDefinitions
import ConstraintDirectives.Proofs.ValueOrder

/-! A null for an argument is passed over, but keeps a default from standing in. So nulls may go just
where there is none. -/
namespace ConstraintDirectives

/-- Nothing but a null stands in for the argument where it is left out. -/
def ArgumentDefinition.HasNoDefault (a : ArgumentDefinition) : Prop :=
  ∀ v ∈ a.default, v.isNull = true

instance : DecidablePred ArgumentDefinition.HasNoDefault := fun a =>
  inferInstanceAs (Decidable (∀ v ∈ a.default, v.isNull = true))

private theorem Value.isNull_iff {v : Value} : v.isNull = true ↔ v = .null := by
  cases v <;> simp [isNull]

namespace DirectiveDefinition
variable {d : DirectiveDefinition} {coordinate : String} {a : ArgumentDefinition}
  {p q : ArgumentDefinition → Prop} {supplied supplied' : List (String × Supplied)}
  {arguments arguments' : List (String × Value)}

/-- Arguments and what is left of them without some of their nulls, here and in the objects among them.
The nulls are written for arguments of the directive that have a certain property. -/
inductive OmitsNulls (d : DirectiveDefinition) (p : ArgumentDefinition → Prop) :
    List (String × Value) → List (String × Value) → Prop where
  | nil : OmitsNulls d p [] []
  | keep (entry : String × Value) {rest rest' : List (String × Value)} :
      OmitsNulls d p rest rest' → OmitsNulls d p (entry :: rest) (entry :: rest')
  | drop {name : String} {rest rest' : List (String × Value)} :
      (d.argument? name).isSome = true → (∀ a ∈ d.arguments, a.name.text = name → p a) →
      OmitsNulls d p rest rest' → OmitsNulls d p ((name, .null) :: rest) rest'
  | inside {name : String} {inner inner' rest rest' : List (String × Value)} :
      OmitsNulls d p inner inner' → OmitsNulls d p rest rest' →
      OmitsNulls d p ((name, .record inner) :: rest) ((name, .record inner') :: rest')

private theorem OmitsNulls.mono (h : d.OmitsNulls p arguments arguments')
    (hpq : ∀ a ∈ d.arguments, p a → q a) : d.OmitsNulls q arguments arguments' := by
  induction h with
  | nil => exact .nil
  | keep entry _ ih => exact .keep entry ih
  | drop hname hp _ ih => exact .drop hname (fun a ha he => hpq a ha (hp a ha he)) ih
  | inside _ _ ihinner ih => exact .inside ihinner ih

/-! ### Decoding without them -/

inductive Leaves (d : DirectiveDefinition) (coordinate : String) (a : ArgumentDefinition) :
    Option Value → Option Value → Prop where
  | same (literal? : Option Value) : Leaves d coordinate a literal? literal?
  | nothing : a.HasNoDefault → Leaves d coordinate a (some .null) none
  | inside {ps qs : List (String × Value)} : d.decode coordinate ps = d.decode coordinate qs →
      Leaves d coordinate a (some (.record ps)) (some (.record qs))

def unknown? (d : DirectiveDefinition) (names : List String) : Option String :=
  names.find? fun name => (d.argument? name).isNone

theorem decode_eq (d : DirectiveDefinition) (coordinate : String) (arguments : List (String × Value)) :
    d.decode coordinate arguments =
      match d.unknown? (Entries.keys arguments) with
      | some name => .error (.unknownArgument coordinate d.key name)
      | none => d.decodeGiven coordinate (d.supplyAll coordinate arguments) d.arguments := by
  rw [decode, decodeSupplied, supplyAll_eq, unknown?, Entries.keys, List.find?_map, List.find?_map]
  simp only [Function.comp_def]
  cases arguments.find? fun e => (d.argument? e.1).isNone <;> rfl

private theorem decodeGiven_congr {arguments : List ArgumentDefinition}
    (h : ∀ a ∈ arguments, (given? supplied a).map (d.decodeArgument coordinate a) =
      (given? supplied' a).map (d.decodeArgument coordinate a)) :
    d.decodeGiven coordinate supplied arguments = d.decodeGiven coordinate supplied' arguments := by
  induction arguments with
  | nil => rfl
  | cons a rest ih =>
    obtain ⟨ha, hrest⟩ := List.forall_mem_cons.mp h
    rw [decodeGiven, decodeGiven, ih hrest]
    cases hs : given? supplied a with
    | none =>
      rw [hs] at ha
      rw [Option.map_eq_none_iff.mp ha.symm]
    | some s =>
      rw [hs] at ha
      obtain ⟨s', hs', hdecode⟩ := Option.map_eq_some_iff.mp ha.symm
      simp only [hs', hdecode]

private theorem map_given?_of_leaves (h : d.Leaves coordinate a (Entries.get? arguments a.name.text)
      (Entries.get? arguments' a.name.text)) :
    (given? (d.supplyAll coordinate arguments) a).map (d.decodeArgument coordinate a) =
      (given? (d.supplyAll coordinate arguments') a).map (d.decodeArgument coordinate a) := by
  rw [given?, given?, get?_supplyAll, get?_supplyAll]
  generalize Entries.get? arguments a.name.text = o at h
  generalize Entries.get? arguments' a.name.text = o' at h
  cases h with
  | same => rfl
  | nothing ha =>
    cases hv : a.default with
    | none => rfl
    | some v =>
      have hnull : v = .null := Value.isNull_iff.mp (ha v hv)
      rw [hnull]
      rfl
  | @inside ps qs hdecode =>
    have hargument : d.decodeArgument coordinate a ⟨.record ps, some (d.decode coordinate ps)⟩ =
        d.decodeArgument coordinate a ⟨.record qs, some (d.decode coordinate qs)⟩ := by
      rw [hdecode, decodeArgument, decodeArgument]
      by_cases ht : a.type = .listConstraints
      · rw [decodeLiteral, decodeLiteral, ht]
      · rw [decodeLiteral_record ht, decodeLiteral_record ht]
        rfl
    exact congrArg some hargument

private theorem decode_congr
    (hnames : d.unknown? (Entries.keys arguments) = d.unknown? (Entries.keys arguments'))
    (h : ∀ a ∈ d.arguments, d.Leaves coordinate a (Entries.get? arguments a.name.text)
      (Entries.get? arguments' a.name.text)) :
    d.decode coordinate arguments = d.decode coordinate arguments' := by
  rw [decode_eq, decode_eq, hnames, decodeGiven_congr fun a ha => map_given?_of_leaves (h a ha)]

private theorem unknown?_cons (d : DirectiveDefinition) (name : String) {names names' : List String}
    (h : d.unknown? names = d.unknown? names') :
    d.unknown? (name :: names) = d.unknown? (name :: names') := by
  simp only [unknown?, List.find?_cons] at h ⊢
  rw [h]

private theorem Leaves.cons {entry entry' : String × Value} {rest rest' : List (String × Value)}
    (hname : entry.1 = entry'.1)
    (hentry : d.Leaves coordinate a (some entry.2) (some entry'.2))
    (hrest : d.Leaves coordinate a (Entries.get? rest a.name.text) (Entries.get? rest' a.name.text)) :
    d.Leaves coordinate a (Entries.get? (entry :: rest) a.name.text)
      (Entries.get? (entry' :: rest') a.name.text) := by
  rw [Entries.get?, Entries.get?, hname]
  split
  · exact hentry
  · exact hrest

/-- Unknown names stay, and every argument without its null is given as it was. -/
theorem OmitsNulls.leaves (h : d.OmitsNulls ArgumentDefinition.HasNoDefault arguments arguments')
    (hd : (Value.record arguments).Distinct) :
    d.unknown? (Entries.keys arguments) = d.unknown? (Entries.keys arguments') ∧
      ∀ a ∈ d.arguments, d.Leaves coordinate a (Entries.get? arguments a.name.text)
        (Entries.get? arguments' a.name.text) := by
  induction h with
  | nil => exact ⟨rfl, fun _ _ => .same none⟩
  | keep entry _ ih =>
    obtain ⟨-, -, hrest⟩ := Value.distinct_record_cons.mp hd
    obtain ⟨hnames, hleaves⟩ := ih hrest
    exact ⟨d.unknown?_cons entry.1 hnames, fun a ha => .cons rfl (.same _) (hleaves a ha)⟩
  | @drop name rest rest' hname hp _ ih =>
    obtain ⟨hfresh, -, hrest⟩ := Value.distinct_record_cons.mp hd
    obtain ⟨hnames, hleaves⟩ := ih hrest
    constructor
    · rw [← hnames, unknown?, unknown?]
      exact List.find?_cons_of_neg (by simpa [Option.isSome_iff_ne_none] using hname)
    · intro a ha
      have hleave := hleaves a ha
      rw [Entries.get?]
      split
      · next he =>
        -- The null was all that was written for the argument.
        rw [Entries.get?_of_not_mem (he ▸ hfresh)] at hleave
        generalize Entries.get? rest' a.name.text = o at hleave
        cases hleave
        exact .nothing (hp a ha he.symm)
      · exact hleave
  | @inside name inner inner' rest rest' _ _ ihinner ih =>
    obtain ⟨-, hinner, hrest⟩ := Value.distinct_record_cons.mp hd
    obtain ⟨hnames, hleaves⟩ := ih hrest
    have hdecode : d.decode coordinate inner = d.decode coordinate inner' :=
      decode_congr (ihinner hinner).1 (ihinner hinner).2
    exact ⟨d.unknown?_cons name hnames, fun a ha => .cons rfl (.inside hdecode) (hleaves a ha)⟩

/-- Nulls may be left out where there is no default. -/
theorem OmitsNulls.decode_eq (h : d.OmitsNulls ArgumentDefinition.HasNoDefault arguments arguments')
    (hd : (Value.record arguments).Distinct) :
    d.decode coordinate arguments = d.decode coordinate arguments' := by
  obtain ⟨hnames, hleaves⟩ := h.leaves hd
  exact decode_congr hnames hleaves

/-! ### Defaults -/

/-- What an argument comes to is found in the decoded set. -/
theorem get?_of_decode (hn : (d.arguments.map (·.name)).Nodup) {set : ConstraintSet}
    (h : d.decode coordinate arguments = .ok set) (ha : a ∈ d.arguments) :
    set.get? a.name = d.contribution? coordinate (d.supplyAll coordinate arguments) a :=
  get?_decodeGiven hn (decode_eq_ok_iff.mp h).2 ha

/-- A null keeps a default from standing in, so the argument is missing from what is decoded. -/
theorem IsAccepted.decode_null_ne (h : d.IsAccepted) (ha : a ∈ d.arguments)
    (hdefault : ¬ a.HasNoDefault) :
    d.decode coordinate [(a.name.text, .null)] ≠ d.decode coordinate [] := by
  intro heq
  obtain ⟨v, hv, hn⟩ : ∃ v, a.default = some v ∧ v.isNull = false := by
    simpa [ArgumentDefinition.HasNoDefault] using hdefault
  obtain ⟨set, hset⟩ := h.exists_decode_nil coordinate
  obtain ⟨declared, hdeclared⟩ := h.exists_decodeArgument coordinate ha hv hn
  have hmissing : set.get? a.name = none := by
    rw [get?_of_decode h.nodup (heq.trans hset) ha, contribution?, given?, get?_supplyAll,
      Entries.get?, if_pos rfl]
    rfl
  have hpresent : set.get? a.name = some declared := by
    have hgiven : given? (d.supplyAll coordinate []) a = some { literal := v } := by
      rw [given?, hv]
      exact Option.filter_some_pos (by simp [hn])
    rw [get?_of_decode h.nodup hset ha, contribution?, hgiven, Option.bind_some, hdeclared]
    rfl
  cases hmissing.symm.trans hpresent

private theorem isSome_argument? (ha : a ∈ d.arguments) : (d.argument? a.name.text).isSome = true :=
  List.find?_isSome.mpr ⟨a, ha, beq_self_eq_true _⟩

/-- Nulls for the arguments of an accepted directive may be left out, whichever they are, just if none
of its arguments has a default. -/
theorem IsAccepted.forall_decode_eq_iff (h : d.IsAccepted) (coordinate : String) :
    (∀ arguments arguments', (Value.record arguments).Distinct →
      d.OmitsNulls (fun _ => True) arguments arguments' →
        d.decode coordinate arguments = d.decode coordinate arguments') ↔
      ∀ a ∈ d.arguments, a.HasNoDefault := by
  constructor
  · intro hall a ha
    by_contra hdefault
    have hd : (Value.record [(a.name.text, .null)]).Distinct :=
      .record (List.nodup_singleton _) (List.forall_mem_singleton.mpr (.leaf nofun nofun))
    have homits : d.OmitsNulls (fun _ => True) [(a.name.text, .null)] [] :=
      .drop (isSome_argument? ha) (fun _ _ _ => trivial) .nil
    exact h.decode_null_ne ha hdefault (hall _ _ hd homits)
  · intro hall arguments arguments' hd homits
    exact (homits.mono fun a ha _ => hall a ha).decode_eq hd

/-- A null counts as nothing written where no default waits for it: leaving out nulls of such arguments,
here and inside inner lists, changes neither the decoded set nor the error. Of an accepted directive
that has a default, some null counts for more. -/
theorem decode_without_nulls {definitions : List DirectiveDefinition} {vocabulary : Vocabulary}
    (haccepted : Vocabulary.ofDefinitions definitions = .ok vocabulary)
    (hmem : d ∈ vocabulary.definitions) (coordinate : String) :
    (∀ arguments arguments', (Value.record arguments).Distinct →
      d.OmitsNulls ArgumentDefinition.HasNoDefault arguments arguments' →
        d.decode coordinate arguments = d.decode coordinate arguments') ∧
    ((∀ arguments arguments', (Value.record arguments).Distinct →
      d.OmitsNulls (fun _ => True) arguments arguments' →
        d.decode coordinate arguments = d.decode coordinate arguments') ↔
      ∀ a ∈ d.arguments, a.HasNoDefault) :=
  ⟨fun _ _ hd homits => homits.decode_eq hd,
    (Vocabulary.ofDefinitions_eq_ok haccepted d hmem).forall_decode_eq_iff coordinate⟩

def limitedList : DirectiveDefinition where
  key := .list
  arguments :=
    [{ name := .maxItems, type := .int, default := some (.int 5) },
      { name := .uniqueItems, type := .boolean, default := some .null },
      { name := .innerList, type := .listConstraints }]
  locations := [.argumentDefinition]

/-- Nulls at two levels that stand for nothing, and one level that has a limit of its own. -/
theorem decode_without_nulls_of_limitedList :
    let arguments : List (String × Value) :=
      [("uniqueItems", .null), ("innerList", .record [("innerList", .null), ("maxItems", .int 2)])]
    let arguments' : List (String × Value) := [("innerList", .record [("maxItems", .int 2)])]
    Vocabulary.ofDefinitions [limitedList] = .ok ⟨[limitedList]⟩ ∧
      limitedList ∈ [limitedList] ∧ (Value.record arguments).Distinct ∧
      limitedList.OmitsNulls ArgumentDefinition.HasNoDefault arguments arguments' ∧
      limitedList.decode "Query.find(tags:)" arguments =
        limitedList.decode "Query.find(tags:)" arguments' := by
  intro arguments arguments'
  have haccepted : Vocabulary.ofDefinitions [limitedList] = .ok ⟨[limitedList]⟩ := by rfl
  have hmem : limitedList ∈ [limitedList] := List.mem_singleton_self _
  have hd : (Value.record arguments).Distinct := by
    have hinner : (Value.record [("innerList", .null), ("maxItems", .int 2)]).Distinct := by
      simp [Value.distinct_leaf, Entries.keys, Value.kind, ValueKind.isScalar]
    simp [arguments, Value.distinct_leaf, Entries.keys, hinner]
  have homits : limitedList.OmitsNulls ArgumentDefinition.HasNoDefault arguments arguments' := by
    refine .drop (by decide) ?_ (.inside (.drop (by decide) ?_ (.keep _ .nil)) .nil)
    · decide
    · decide
  exact ⟨haccepted, hmem, hd, homits,
    (decode_without_nulls haccepted hmem "Query.find(tags:)").1 _ _ hd homits⟩

def limitedText : DirectiveDefinition where
  key := .stringValue
  arguments :=
    [{ name := .minLength, type := .int, default := some (.int 3) },
      { name := .maxLength, type := .int }]
  locations := [.argumentDefinition]

/-- A null for an argument with a default is not the same as nothing. -/
theorem decode_null_not_absent :
    let arguments : List (String × Value) := [("maxLength", .int 9), ("minLength", .null)]
    let arguments' : List (String × Value) := [("maxLength", .int 9)]
    Vocabulary.ofDefinitions [limitedText] = .ok ⟨[limitedText]⟩ ∧
      limitedText.OmitsNulls (fun _ => True) arguments arguments' ∧
      limitedText.decode "Query.find(text:)" arguments = .ok [(.maxLength, .int 9)] ∧
      limitedText.decode "Query.find(text:)" arguments' =
        .ok [(.minLength, .int 3), (.maxLength, .int 9)] := by
  intro arguments arguments'
  have homits : limitedText.OmitsNulls (fun _ => True) arguments arguments' :=
    .keep _ (.drop (by decide) (fun _ _ _ => trivial) .nil)
  exact ⟨rfl, homits, rfl, rfl⟩

end DirectiveDefinition
end ConstraintDirectives
