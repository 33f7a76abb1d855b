import ConstraintDirectives.Proofs.JsonText
import ConstraintDirectives.Proofs.ValueOrder
import ConstraintDirectives.Schema.Json

/-! A schema that is written as JSON reads back as the same schema, with the variant of each literal. -/
namespace ConstraintDirectives

/-- What is written as a document is read back from it, and the document from its text. -/
structure Recovers {α : Type} (write : α → Json) (read : Json → Option α) (a : α) : Prop where
  read_write : read (write a) = some a
  lossless : (write a).Lossless

/-! ### Shapes of documents -/

section Shapes
variable {α : Type} {write : α → Json} {read : Json → Option α}

/-- A structure is taken apart into the fields it was put together from. -/
theorem slots?_object {fields : List (String × Json)} {names : List String}
    (hnames : Entries.keys fields = names) (hn : names.Nodup) :
    Json.slots? names (.object fields) = some (fields.map fun f => some f.2) := by
  subst hnames
  have hknown : fields.filter (fun f => (Entries.keys fields).contains f.1) = fields :=
    List.filter_eq_self.mpr fun f hf => List.contains_iff_mem.mpr (List.mem_map_of_mem hf)
  have hget : (Entries.keys fields).map (Entries.get? fields ·) = fields.map fun f => some f.2 := by
    rw [Entries.keys, List.map_map]
    exact List.map_congr_left fun f hf => Entries.get?_of_mem hn hf
  simp only [Json.slots?, hknown, hget]
  exact if_pos hn

private theorem lossless_single {key : String} {j : Json} (hj : j.Lossless) :
    (Json.object [(key, j)]).Lossless :=
  .object (List.forall_mem_singleton.mpr hj)

theorem Recovers.list {xs : List α} (h : ∀ x ∈ xs, Recovers write read x) :
    Recovers (fun xs => .array (xs.map write)) (Json.list? read) xs := by
  have hall : (xs.map write).mapM read = some (xs.map id) :=
    Json.mapM_map_eq_some fun x hx => (h x hx).read_write
  rw [List.map_id] at hall
  exact ⟨hall, .array (List.forall_mem_map.mpr fun x hx => (h x hx).lossless)⟩

theorem Recovers.map {m : OrderedMap String α} (h : ∀ e ∈ m.entries, Recovers write read e.2) :
    Recovers (mapJson write) (Json.entries? read) m := by
  have hall : (m.entries.map fun e => (e.1, write e.2)).mapM
      (fun e => (read e.2).map fun a => (e.1, a)) = some (m.entries.map id) :=
    Json.mapM_map_eq_some fun e he => by
      rw [(h e he).read_write]
      rfl
  have hm : OrderedMap.ofList m.entries = m := by
    cases m with
    | mk entries hn => exact OrderedMap.mk.injEq .. ▸ Entries.ofList_of_nodup hn
  rw [List.map_id] at hall
  constructor
  · exact (congrArg (Option.map OrderedMap.ofList) hall).trans (congrArg some hm)
  · exact .object (List.forall_mem_map.mpr fun e he => (h e he).lossless)

end Shapes

/-! ### Literals -/

namespace Value

mutual
def floats : Value → List Binary64
  | .float x => [x]
  | .list items => itemFloats items
  | .record properties => propertyFloats properties
  | _ => []

def itemFloats : List Value → List Binary64
  | [] => []
  | x :: xs => x.floats ++ itemFloats xs

def propertyFloats : List (String × Value) → List Binary64
  | [] => []
  | (_, x) :: ps => x.floats ++ propertyFloats ps
end

theorem forall_mem_itemFloats {p : Binary64 → Prop} {items : List Value} :
    (∀ x ∈ itemFloats items, p x) ↔ ∀ v ∈ items, ∀ x ∈ v.floats, p x := by
  induction items with
  | nil => simp [itemFloats]
  | cons v vs ih => rw [itemFloats, List.forall_mem_append, ih, List.forall_mem_cons]

theorem forall_mem_propertyFloats {p : Binary64 → Prop} {properties : List (String × Value)} :
    (∀ x ∈ propertyFloats properties, p x) ↔ ∀ q ∈ properties, ∀ x ∈ q.2.floats, p x := by
  induction properties with
  | nil => simp [propertyFloats]
  | cons q qs ih => rw [propertyFloats, List.forall_mem_append, ih, List.forall_mem_cons]

theorem toItems_eq_map (items : List Value) : toItems items = items.map toJson := by
  induction items with
  | nil => rfl
  | cons x xs ih => rw [toItems, ih, List.map_cons]

theorem toMembers_eq_map (properties : List (String × Value)) :
    toMembers properties = properties.map fun p => (p.1, p.2.toJson) := by
  induction properties with
  | nil => rfl
  | cons p ps ih => rw [toMembers, ih, List.map_cons]

private theorem ofItems?_toItems {items : List Value} (h : ∀ x ∈ items, ofJson? x.toJson = some x) :
    ofItems? (toItems items) = some items := by
  induction items with
  | nil => rfl
  | cons x xs ih =>
    obtain ⟨hx, hxs⟩ := List.forall_mem_cons.mp h
    rw [toItems, ofItems?, hx, ih hxs]
    rfl

private theorem ofMembers?_toMembers {properties : List (String × Value)}
    (h : ∀ p ∈ properties, ofJson? p.2.toJson = some p.2) :
    ofMembers? (toMembers properties) = some properties := by
  induction properties with
  | nil => rfl
  | cons p ps ih =>
    obtain ⟨hp, hps⟩ := List.forall_mem_cons.mp h
    rw [toMembers, ofMembers?, hp, ih hps]
    rfl

private theorem ofInteger_toInt (i : Int64) : ofInteger i.toInt = .int i := by
  have hint : int64? i.toInt = some i := by
    rw [int64?, if_pos ⟨i.minValue_le_toInt, i.toInt_le⟩, Int64.ofInt_toInt]
  rw [ofInteger, hint]

/-- A literal keeps its variant, its items and its properties in order. -/
theorem ofJson?_toJson {v : Value} (hkeys : v.Distinct)
    (hfinite : ∀ x ∈ v.floats, x.isFinite = true) : ofJson? v.toJson = some v := by
  induction v using byParts with
  | null => rfl
  | scalar v hv =>
    cases v with
    | int i => rw [toJson, ofJson?, ofInteger_toInt]
    | float x =>
      have hx : x.isFinite = true := hfinite x (List.mem_singleton_self x)
      rw [toJson, Json.ofNumber, if_pos hx, ofJson?]
    | boolean | string => rfl
    | null | list | record => cases hv
  | list items ih =>
    rw [distinct_list] at hkeys
    rw [floats, forall_mem_itemFloats] at hfinite
    rw [toJson, ofJson?, ofItems?_toItems fun x hx => ih x hx (hkeys x hx) (hfinite x hx)]
    rfl
  | record ps ih =>
    rw [distinct_record] at hkeys
    rw [floats, forall_mem_propertyFloats] at hfinite
    rw [toJson, ofJson?, ofMembers?_toMembers fun p hp => ih p hp (hkeys.2 p hp) (hfinite p hp),
      Option.map_some, Entries.ofList_of_nodup hkeys.1]

/-- The text of a literal tells everything about it, if the texts of its floats do. -/
theorem lossless_toJson {v : Value}
    (hreads : ∀ x ∈ v.floats, Json.parse? (Json.ofNumber x).render = some (.ofNumber x)) :
    v.toJson.Lossless := by
  induction v using byParts with
  | null => exact .null
  | scalar v hv =>
    cases v with
    | boolean b => exact .bool b
    | int i =>
      have hsize : (2 ^ 63 : Int) ≤ UInt64.size := by decide
      exact .integer i.minValue_le_toInt (Int.lt_of_lt_of_le i.toInt_lt hsize)
    | float x =>
      have hx := hreads x (List.mem_singleton_self x)
      rw [toJson]
      by_cases hfinite : x.isFinite = true
      · rw [Json.ofNumber, if_pos hfinite] at hx ⊢
        exact .real hfinite hx
      · rw [Json.ofNumber, if_neg hfinite]
        exact .null
    | string s => exact .string s
    | null | list | record => cases hv
  | list items ih =>
    rw [floats, forall_mem_itemFloats] at hreads
    rw [toJson, toItems_eq_map]
    exact .array (List.forall_mem_map.mpr fun x hx => ih x hx (hreads x hx))
  | record ps ih =>
    rw [floats, forall_mem_propertyFloats] at hreads
    rw [toJson, toMembers_eq_map]
    exact .object (List.forall_mem_map.mpr fun p hp => ih p hp (hreads p hp))

end Value

/-! ### Types -/

private theorem TypeId.recovers (id : TypeId) : Recovers toJson ofJson? id := by
  constructor
  · have hlt : (id.index : Int) < count := Int.ofNat_lt.mpr id.index_lt
    rw [toJson, ofJson?, if_pos ⟨Int.natCast_nonneg _, hlt⟩, Int.toNat_natCast, ofIndex_index]
  · have hmin : Int64.minValue.toInt ≤ 0 := by decide
    have hmax : count ≤ UInt64.size := by decide
    exact .integer (Int.le_trans hmin (Int.natCast_nonneg _))
      (Int.ofNat_lt.mpr (Nat.lt_of_lt_of_le id.index_lt hmax))

private theorem WrappedType.recovers (t : WrappedType) : Recovers toJson ofJson? t := by
  induction t with
  | named id =>
    constructor
    · rw [toJson, ofJson?, if_pos rfl, id.recovers.read_write]
      rfl
    · exact lossless_single id.recovers.lossless
  | list inner ih =>
    constructor
    · rw [toJson, ofJson?, if_neg (by decide), if_pos rfl, ih.read_write]
      rfl
    · exact lossless_single ih.lossless
  | nonNull inner ih =>
    constructor
    · rw [toJson, ofJson?, if_neg (by decide), if_neg (by decide), if_pos rfl, ih.read_write]
      rfl
    · exact lossless_single ih.lossless

/-! ### Directives and what they are written on

Everything that carries directives is recovered if the literals in them are. -/

def AppliedDirective.literals (d : AppliedDirective) : List Value := d.arguments.entries.map (·.2)

def directiveLiterals (ds : List AppliedDirective) : List Value := ds.flatMap (·.literals)

def InputDefinition.literals (d : InputDefinition) : List Value := directiveLiterals d.directives

def FieldDefinition.literals (d : FieldDefinition) : List Value :=
  d.arguments.entries.flatMap (·.2.literals) ++ directiveLiterals d.directives

def TypeDefinition.literals : TypeDefinition → List Value
  | .inputObject fields => fields.entries.flatMap (·.2.literals)
  | .object fields => fields.entries.flatMap (·.2.literals)
  | _ => []

def NamedType.literals (t : NamedType) : List Value :=
  t.definition.literals ++ directiveLiterals t.directives

def Schema.literals (s : Schema) : List Value := s.types.flatMap (·.literals)

section Directives

private theorem AppliedDirective.recovers {d : AppliedDirective}
    (h : ∀ v ∈ d.literals, Recovers Value.toJson Value.ofJson? v) :
    Recovers toJson ofJson? d := by
  have harguments : Recovers (mapJson Value.toJson) valuesOf? d.arguments :=
    .map (List.forall_mem_map.mp h)
  have hslots : Json.slots? ["name", "arguments"] d.toJson =
      some [some (.string d.name), some (mapJson Value.toJson d.arguments)] :=
    slots?_object rfl (by decide)
  constructor
  · simp only [ofJson?, hslots, Option.bind_eq_bind, Option.bind_some, Json.text?,
      Json.optional?, harguments.read_write]
    rfl
  · exact .object (by simp [Json.Lossless.string, harguments.lossless])

private theorem recovers_directives {ds : List AppliedDirective}
    (h : ∀ v ∈ directiveLiterals ds, Recovers Value.toJson Value.ofJson? v) :
    Recovers directivesJson (fun j => directivesOf? (some j)) ds :=
  .list fun d hd => d.recovers fun v hv => h v (List.mem_flatMap_of_mem hd hv)

private theorem InputDefinition.recovers {d : InputDefinition}
    (h : ∀ v ∈ d.literals, Recovers Value.toJson Value.ofJson? v) :
    Recovers toJson ofJson? d := by
  have htype := d.type.recovers
  have hdirectives := recovers_directives h
  have hslots : Json.slots? ["ty", "directives"] d.toJson =
      some [some d.type.toJson, some (directivesJson d.directives)] :=
    slots?_object rfl (by decide)
  constructor
  · simp only [ofJson?, hslots, Option.bind_eq_bind, Option.bind_some, htype.read_write,
      hdirectives.read_write]
    rfl
  · exact .object (by simp [htype.lossless, hdirectives.lossless])

private theorem FieldDefinition.recovers {d : FieldDefinition}
    (h : ∀ v ∈ d.literals, Recovers Value.toJson Value.ofJson? v) :
    Recovers toJson ofJson? d := by
  obtain ⟨hinner, houter⟩ := List.forall_mem_append.mp h
  have htype := d.type.recovers
  have harguments : Recovers (mapJson InputDefinition.toJson) (Json.entries? InputDefinition.ofJson?)
      d.arguments :=
    .map fun e he => e.2.recovers fun v hv => hinner v (List.mem_flatMap_of_mem he hv)
  have hdirectives := recovers_directives houter
  have hslots : Json.slots? ["ty", "arguments", "directives"] d.toJson =
      some [some d.type.toJson, some (mapJson InputDefinition.toJson d.arguments),
        some (directivesJson d.directives)] :=
    slots?_object rfl (by decide)
  constructor
  · simp only [ofJson?, hslots, Option.bind_eq_bind, Option.bind_some, htype.read_write,
      Json.optional?, harguments.read_write, hdirectives.read_write]
    rfl
  · exact .object (by simp [htype.lossless, harguments.lossless, hdirectives.lossless])

private theorem TypeDefinition.onlySlot?_object (name : String) (j : Json) :
    onlySlot? name (.object [(name, j)]) = some j := by
  have hslots : Json.slots? [name] (.object [(name, j)]) = some [some j] :=
    slots?_object rfl (by simp)
  simp only [onlySlot?, hslots]

/-- Every kind of type has a tag of its own. -/
theorem TypeDefinition.recovers {d : TypeDefinition}
    (h : ∀ v ∈ d.literals, Recovers Value.toJson Value.ofJson? v) :
    Recovers toJson ofJson? d := by
  cases d with
  | scalar builtin =>
    rcases builtin with - | b
    · exact ⟨rfl, lossless_single (lossless_single .null)⟩
    · exact ⟨by cases b <;> rfl, lossless_single (lossless_single (.string b.tag))⟩
  | inputObject fields =>
    have hfields : Recovers (mapJson InputDefinition.toJson) (Json.entries? InputDefinition.ofJson?)
        fields :=
      .map fun e he => e.2.recovers fun v hv => h v (List.mem_flatMap_of_mem he hv)
    constructor
    · simp only [toJson, ofJson?, Json.tagged?, onlySlot?_object, Option.bind_eq_bind,
        Option.bind_some, hfields.read_write]
      rfl
    · exact lossless_single (lossless_single hfields.lossless)
  | object fields =>
    have hfields : Recovers (mapJson FieldDefinition.toJson) (Json.entries? FieldDefinition.ofJson?)
        fields :=
      .map fun e he => e.2.recovers fun v hv => h v (List.mem_flatMap_of_mem he hv)
    constructor
    · simp only [toJson, ofJson?, Json.tagged?, onlySlot?_object, Option.bind_eq_bind,
        Option.bind_some, hfields.read_write]
      rfl
    · exact lossless_single (lossless_single hfields.lossless)
  | enumeration values =>
    have hvalues : Recovers (fun vs => .array (vs.map .string)) (Json.list? Json.text?) values :=
      .list fun s _ => ⟨rfl, .string s⟩
    constructor
    · simp only [toJson, ofJson?, Json.tagged?, onlySlot?_object, Option.bind_eq_bind,
        Option.bind_some, hvalues.read_write]
      rfl
    · exact lossless_single (lossless_single hvalues.lossless)
  | placeholder => exact ⟨rfl, .string _⟩

private theorem NamedType.recovers {t : NamedType}
    (h : ∀ v ∈ t.literals, Recovers Value.toJson Value.ofJson? v) :
    Recovers toJson ofJson? t := by
  obtain ⟨hinner, houter⟩ := List.forall_mem_append.mp h
  have hkind := t.definition.recovers hinner
  have hdirectives := recovers_directives houter
  have hslots : Json.slots? ["name", "kind", "directives"] t.toJson =
      some [some (.string t.name), some t.definition.toJson, some (directivesJson t.directives)] :=
    slots?_object rfl (by decide)
  constructor
  · simp only [ofJson?, hslots, Option.bind_eq_bind, Option.bind_some, Json.text?,
      hkind.read_write, hdirectives.read_write]
    rfl
  · exact .object (by simp [Json.Lossless.string, hkind.lossless, hdirectives.lossless])

private theorem Schema.recovers {s : Schema}
    (h : ∀ v ∈ s.literals, Recovers Value.toJson Value.ofJson? v) : Recovers toJson ofJson? s := by
  have htypes : Recovers (fun ts => .array (ts.map NamedType.toJson)) (Json.list? NamedType.ofJson?)
      s.types :=
    .list fun t ht => t.recovers fun v hv => h v (List.mem_flatMap_of_mem ht hv)
  have hnames : Recovers (mapJson TypeId.toJson) (Json.entries? TypeId.ofJson?) s.names :=
    .map fun e _ => e.2.recovers
  have hslots : Json.slots? ["types", "names"] s.toJson =
      some [some (.array (s.types.map NamedType.toJson)), some (mapJson TypeId.toJson s.names)] :=
    slots?_object rfl (by decide)
  constructor
  · simp only [ofJson?, hslots, Option.bind_eq_bind, Option.bind_some, htypes.read_write,
      hnames.read_write, s.length_le]
    rfl
  · exact .object (by simp [htypes.lossless, hnames.lossless])

end Directives

/-! ### The text of a schema

The reader rounds more than once, so a float can come back as its neighbour. One comes back as it
was. -/

def Binary64.one : Binary64 := .ofInt 1

private theorem Binary64.shortest_one : shortest .toEven unitsPerOne = ⟨1, 0⟩ := by
  have hdigits : (Nat.toDigits 10 (unitsPerOne * Nat.pow 10 340 / unitsPerOne)).length = 341 := by
    decide +kernel
  have hleading : leadingExponent unitsPerOne = 0 := by
    rw [leadingExponent, Nat.repr, String.length_ofList, hdigits]
    rfl
  have hfound : (List.range 17).findSome? (fun (n : Nat) =>
      neighbour? .toEven unitsPerOne (0 - n)) = some ⟨1, 0⟩ := by
    decide +kernel
  simp only [shortest, hleading, hfound]
  decide +kernel

private theorem NumberLayout.text_one : json.text .one = "1.0" := by
  have hone : Binary64.one = .finite false Binary64.unitsPerOne (by decide +kernel) := by
    decide +kernel
  rw [hone, text, magnitudeText]
  simp only [json, Binary64.shortest_one]
  decide +kernel

theorem Json.parse?_one : parse? (ofNumber .one).render = some (ofNumber .one) := by
  have hone : ofNumber .one = .real .one := if_pos (by decide +kernel)
  have hnumeral : ofNumeral ⟨false, ['1'], ['0'], 0⟩ false = .real .one := by
    have hwhole : appendDigits 0 ['1'] = (1, 0) := by decide +kernel
    have hfraction : appendDigits 1 ['0'] = (10, 0) := by decide +kernel
    have hscaled : scaled? (.ofDecimal false 10 0) (-1) = some .one := by decide +kernel
    simp [ofNumeral, hwhole, hfraction, hscaled]
  have hstart : StartsUnsigned '1' := IsNumeric.startsUnsigned (.inl (by decide)) (by decide)
  have hlist : "1.0".toList = ['1', '.', '0'] := rfl
  rw [hone, render, NumberLayout.text_one, ← hnumeral]
  apply parse?_of_value
  rw [hlist, value_unsigned hstart]
  exact ⟨by decide, rfl⟩

/-- A schema comes back from its JSON text as it was: every literal with its variant, and all in
order. Each float in it has to read back on its own, and containers may nest as deep as the reader
goes. -/
theorem Schema.parse?_render_toJson {s : Schema} (hkeys : ∀ v ∈ s.literals, v.Distinct)
    (hfinite : ∀ v ∈ s.literals, ∀ x ∈ v.floats, x.isFinite = true)
    (hreads : ∀ v ∈ s.literals, ∀ x ∈ v.floats,
      Json.parse? (Json.ofNumber x).render = some (.ofNumber x))
    (hnesting : s.toJson.nesting ≤ 127) : Schema.parse? s.toJson.render = some s := by
  have hs : Recovers toJson ofJson? s := recovers fun v hv =>
    ⟨v.ofJson?_toJson (hkeys v hv) (hfinite v hv), v.lossless_toJson (hreads v hv)⟩
  rw [Schema.parse?, Json.parse?_render hs.lossless hnesting]
  exact hs.read_write

def literalSchema : Schema where
  types :=
    [Schema.builtinType .int,
      ⟨"Filter", .inputObject (.ofList [("size", ⟨.nonNull (.list (.named ⟨0⟩)),
        [⟨"range", .ofList [("min", .int 1), ("max", .float .one),
          ("but", .record [("of", .list [.null, .list []]), ("at", .string "\n"),
            ("up", .boolean true)])]⟩]⟩)]), []⟩,
      ⟨"Query", .object (.ofList [("find", ⟨.named ⟨3⟩,
        .ofList [("by", ⟨.named ⟨1⟩, [⟨"one", .ofList [("of", .null)]⟩]⟩)], []⟩)]), []⟩,
      ⟨"Kind", .enumeration ["A", "B"], [⟨"key", .ofList [("size", .int 0)]⟩]⟩,
      ⟨"Other", .placeholder, []⟩]
  names := .ofList [("Int", ⟨0⟩), ("Filter", ⟨1⟩), ("Query", ⟨2⟩), ("Kind", ⟨3⟩), ("Other", ⟨4⟩)]
  length_le := by decide

/-- An integer and a float of the same size stay apart, and so do an empty list and null. -/
theorem Schema.parse?_render_toJson_of_literalSchema :
    (∀ v ∈ literalSchema.literals, v.Distinct) ∧
      (∀ v ∈ literalSchema.literals, ∀ x ∈ v.floats, x.isFinite = true) ∧
      (∀ v ∈ literalSchema.literals, ∀ x ∈ v.floats,
        Json.parse? (Json.ofNumber x).render = some (.ofNumber x)) ∧
      literalSchema.toJson.nesting ≤ 127 ∧
      Schema.parse? literalSchema.toJson.render = some literalSchema := by
  have hliterals : literalSchema.literals = [.int 1, .float .one,
      .record [("of", .list [.null, .list []]), ("at", .string "\n"), ("up", .boolean true)], .null,
      .int 0] := rfl
  have hleaf : (∀ i, (Value.int i).Distinct) ∧ (Value.float .one).Distinct ∧ Value.null.Distinct ∧
      (Value.string "\n").Distinct ∧ (Value.boolean true).Distinct :=
    ⟨fun _ => .leaf nofun nofun, .leaf nofun nofun, .leaf nofun nofun, .leaf nofun nofun,
      .leaf nofun nofun⟩
  have hkeys : ∀ v ∈ literalSchema.literals, v.Distinct := by
    rw [hliterals]
    simp [Entries.keys, hleaf]
  have hfloats : ∀ v ∈ literalSchema.literals, ∀ x ∈ v.floats, x = .one := by
    rw [hliterals]
    simp [Value.floats, Value.itemFloats, Value.propertyFloats]
  have hfinite : ∀ v ∈ literalSchema.literals, ∀ x ∈ v.floats, x.isFinite = true := by
    intro v hv x hx
    rw [hfloats v hv x hx]
    decide +kernel
  have hreads : ∀ v ∈ literalSchema.literals, ∀ x ∈ v.floats,
      Json.parse? (Json.ofNumber x).render = some (.ofNumber x) := by
    intro v hv x hx
    rw [hfloats v hv x hx]
    exact Json.parse?_one
  have hnesting : literalSchema.toJson.nesting ≤ 127 := by
    decide +kernel
  exact ⟨hkeys, hfinite, hreads, hnesting, parse?_render_toJson hkeys hfinite hreads hnesting⟩

end ConstraintDirectives
