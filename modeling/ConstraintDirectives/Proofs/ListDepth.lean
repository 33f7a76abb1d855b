import ConstraintDirectives.Proofs.Decoding
import ConstraintDirectives.Proofs.Extraction

/-! A list directive is legal where its chain of `innerList` objects is as long as the declared lists
are deep. -/
namespace ConstraintDirectives

inductive Wrapper where
  | list
  | nonNull
  deriving DecidableEq

def WrappedType.wrappers : WrappedType → List Wrapper
  | .named _ => []
  | .list inner => .list :: inner.wrappers
  | .nonNull inner => .nonNull :: inner.wrappers

theorem WrappedType.listDepth_eq_count (type : WrappedType) :
    type.listDepth = type.wrappers.count .list := by
  induction type with
  | named id => rfl
  | list inner ih => simp [listDepth, wrappers, ih]
  | nonNull inner ih => simp [listDepth, wrappers, ih]

namespace ConstraintSet

private theorem innerDepth_eq (set : ConstraintSet) :
    innerDepth set = ((set.get? .innerList).map Declared.listDepth).getD 0 := by
  induction set with
  | nil => rfl
  | cons c set ih =>
    obtain ⟨name, d⟩ := c
    rw [innerDepth, get?, Entries.get?, ih]
    split <;> rfl

theorem listDepth_of_innerList? {set inner : ConstraintSet} (h : set.innerList? = some inner) :
    set.listDepth = inner.listDepth + 1 := by
  rw [innerList?, Declared.innerOf?] at h
  split at h
  · next hg =>
    cases h
    rw [listDepth, innerDepth_eq, get?, hg]
    rfl
  · cases h

end ConstraintSet

/-! ### Chains of literals -/

def Value.IsCount : Value → Prop
  | .null => True
  | .int n => 0 ≤ n.toInt
  | _ => False

def Value.IsFlag : Value → Prop
  | .null | .boolean _ => True
  | _ => False

structure IsListLevel (arguments : List (String × Value)) : Prop where
  known : ∀ name ∈ Entries.keys arguments,
    name ∈ ["maxItems", "minItems", "uniqueItems", "innerList"]
  maxItems : ∀ literal, Entries.get? arguments "maxItems" = some literal → literal.IsCount
  minItems : ∀ literal, Entries.get? arguments "minItems" = some literal → literal.IsCount
  uniqueItems : ∀ literal, Entries.get? arguments "uniqueItems" = some literal → literal.IsFlag

/-- Arguments of a list directive with the length of the chain that they start. An `innerList` that is
absent or null ends it, and an empty object still makes a level. -/
inductive ListChain : List (String × Value) → Nat → Prop where
  | last {arguments : List (String × Value)} : IsListLevel arguments →
      (∀ literal, Entries.get? arguments "innerList" = some literal → literal = .null) →
      ListChain arguments 1
  | inner {arguments inner : List (String × Value)} {k : Nat} : IsListLevel arguments →
      Entries.get? arguments "innerList" = some (.record inner) → ListChain inner k →
      ListChain arguments (k + 1)

theorem ListChain.pos {arguments : List (String × Value)} {k : Nat} (h : ListChain arguments k) :
    1 ≤ k := by
  cases h with
  | last => exact Nat.le_refl 1
  | inner => exact Nat.succ_pos _

/-! ### Decoding -/

namespace DirectiveDefinition
variable {d : DirectiveDefinition} {coordinate : String} {literal : Value}

private theorem decodes_count_iff {name : ConstraintName} (hname : name = .maxItems ∨ name = .minItems) :
    (literal = .null ∨ ∃ declared,
      d.decodeArgument coordinate { name := name, type := .int } (d.supply coordinate literal) =
        .ok declared) ↔ literal.IsCount := by
  cases literal with
  | null => simp [Value.IsCount]
  | int n =>
    rcases hname with rfl | rfl <;>
    · by_cases hn : n.toInt < 0 <;>
        simp [decodeArgument, decodeLiteral, supply, ArgumentType.decode?, Value.IsCount,
          ConstraintName.rangeFault?, bind, Except.bind, hn, Int.not_lt.mp]
  | _ =>
    simp [decodeArgument, decodeLiteral, supply, ArgumentType.decode?, Value.IsCount, bind,
      Except.bind]

private theorem decodes_flag_iff : (literal = .null ∨ ∃ declared,
    d.decodeArgument coordinate { name := .uniqueItems, type := .boolean }
      (d.supply coordinate literal) = .ok declared) ↔ literal.IsFlag := by
  cases literal with
  | null => simp [Value.IsFlag]
  | _ =>
    simp [decodeArgument, decodeLiteral, supply, ArgumentType.decode?, Value.IsFlag,
      ConstraintName.rangeFault?, bind, Except.bind]

/-- An object for `innerList` is decoded by the directive that it is given to. -/
theorem decodeArgument_innerList (inner : List (String × Value)) :
    d.decodeArgument coordinate { name := .innerList, type := .listConstraints }
      (d.supply coordinate (.record inner)) = (d.decode coordinate inner).map Declared.nested := by
  change (d.decode coordinate inner).map Declared.nested >>= _ = _
  cases d.decode coordinate inner <;> rfl

private theorem decodes_innerList_iff : (literal = .null ∨ ∃ declared,
    d.decodeArgument coordinate { name := .innerList, type := .listConstraints }
      (d.supply coordinate literal) = .ok declared) ↔
    literal = .null ∨ ∃ inner set, literal = .record inner ∧ d.decode coordinate inner = .ok set := by
  refine or_congr_right ?_
  cases literal with
  | record inner =>
    rw [decodeArgument_innerList]
    simp [Sequencing.map_eq_ok_iff]
  | _ => simp [decodeArgument, decodeLiteral, supply, ArgumentType.decode?, bind, Except.bind]

end DirectiveDefinition

namespace Vocabulary
open DirectiveDefinition
variable {coordinate : String} {arguments inner : List (String × Value)} {set innerSet : ConstraintSet}
  {k : Nat}

private theorem isSome_argument?_list {name : String} : (list.argument? name).isSome = true ↔
    name ∈ ["maxItems", "minItems", "uniqueItems", "innerList"] := by
  rw [DirectiveDefinition.argument?, List.find?_isSome]
  simp [list, ConstraintName.text, @eq_comm _ name]

/-- All that is given to a list directive decodes if each argument is of its kind, and objects for
`innerList` decode again. -/
theorem forall_decodes_list_iff :
    (∀ a ∈ list.arguments, ∀ s, given? (list.supplyAll coordinate arguments) a = some s →
      ∃ declared, list.decodeArgument coordinate a s = .ok declared) ↔
    (∀ literal, Entries.get? arguments "maxItems" = some literal → literal.IsCount) ∧
    (∀ literal, Entries.get? arguments "minItems" = some literal → literal.IsCount) ∧
    (∀ literal, Entries.get? arguments "uniqueItems" = some literal → literal.IsFlag) ∧
    ∀ literal, Entries.get? arguments "innerList" = some literal → literal = .null ∨
      ∃ inner set, literal = .record inner ∧ list.decode coordinate inner = .ok set := by
  have harguments : list.arguments =
      [{ name := .maxItems, type := .int }, { name := .minItems, type := .int },
        { name := .uniqueItems, type := .boolean },
        { name := .innerList, type := .listConstraints }] := rfl
  rw [harguments, List.forall_mem_cons, List.forall_mem_cons, List.forall_mem_cons,
    List.forall_mem_singleton, forall_given?_iff rfl, forall_given?_iff rfl, forall_given?_iff rfl,
    forall_given?_iff rfl]
  simp only [decodes_count_iff, decodes_flag_iff, decodes_innerList_iff, true_or, or_true,
    ConstraintName.text]

private theorem exists_decode_list_iff : (∃ set, list.decode coordinate arguments = .ok set) ↔
    IsListLevel arguments ∧ ∀ literal, Entries.get? arguments "innerList" = some literal →
      literal = .null ∨ ∃ inner set, literal = .record inner ∧
        list.decode coordinate inner = .ok set := by
  constructor
  · rintro ⟨set, h⟩
    obtain ⟨hknown, h⟩ := decode_eq_ok_iff.mp h
    obtain ⟨hmax, hmin, hunique, hinner⟩ := forall_decodes_list_iff.mp (decodeGiven_eq_ok_iff.mp h).1
    exact ⟨⟨fun name hm => isSome_argument?_list.mp (hknown name hm), hmax, hmin, hunique⟩, hinner⟩
  · rintro ⟨⟨hknown, hmax, hmin, hunique⟩, hinner⟩
    have hall := forall_decodes_list_iff.mpr ⟨hmax, hmin, hunique, hinner⟩
    exact ⟨_, decode_eq_ok_iff.mpr ⟨fun name hm => isSome_argument?_list.mpr (hknown name hm),
      decodeGiven_eq_ok_iff.mpr ⟨hall, rfl⟩⟩⟩

private theorem get?_innerList_of_decode (h : list.decode coordinate arguments = .ok set) :
    set.get? .innerList = ((Entries.get? arguments "innerList").filter (!·.isNull)).bind fun literal =>
      (list.decodeArgument coordinate { name := .innerList, type := .listConstraints }
        (list.supply coordinate literal)).toOption := by
  have hg := get?_decodeGiven (a := { name := .innerList, type := .listConstraints })
    (by decide) (decode_eq_ok_iff.mp h).2 (by simp [list])
  refine hg.trans ?_
  rw [contribution?, given?_supplyAll rfl, Option.bind_map]
  rfl

private theorem listDepth_of_last (h : list.decode coordinate arguments = .ok set)
    (hlast : ∀ literal, Entries.get? arguments "innerList" = some literal → literal = .null) :
    set.listDepth = 1 := by
  have hnone : (Entries.get? arguments "innerList").filter (!·.isNull) = none := by
    cases hl : Entries.get? arguments "innerList" with
    | none => rfl
    | some literal =>
      rw [hlast literal hl]
      rfl
  rw [ConstraintSet.listDepth, ConstraintSet.innerDepth_eq, get?_innerList_of_decode h, hnone]
  rfl

private theorem listDepth_of_inner (h : list.decode coordinate arguments = .ok set)
    (hinner : Entries.get? arguments "innerList" = some (.record inner))
    (hset : list.decode coordinate inner = .ok innerSet) :
    set.listDepth = innerSet.listDepth + 1 := by
  have hget : set.get? .innerList = some (.nested innerSet) := by
    rw [get?_innerList_of_decode h, hinner]
    change (list.decodeArgument coordinate _ (list.supply coordinate (.record inner))).toOption = _
    rw [decodeArgument_innerList, hset]
    rfl
  have hinnerList : set.innerList? = some innerSet := by
    rw [ConstraintSet.get?] at hget
    rw [ConstraintSet.innerList?, Declared.innerOf?, hget]
  exact ConstraintSet.listDepth_of_innerList? hinnerList

/-- A list directive takes the arguments that start a chain, and decodes them to one of the same length. -/
theorem exists_decode_listDepth_iff :
    (∃ set, list.decode coordinate arguments = .ok set ∧ set.listDepth = k) ↔
      ListChain arguments k := by
  constructor
  · rintro ⟨set, h, rfl⟩
    induction arguments using byObjects generalizing set with
    | step arguments ih =>
      obtain ⟨hlevel, hinner⟩ := exists_decode_list_iff.mp ⟨set, h⟩
      by_cases hlast :
          ∀ literal, Entries.get? arguments "innerList" = some literal → literal = .null
      · rw [listDepth_of_last h hlast]
        exact .last hlevel hlast
      · simp only [not_forall] at hlast
        obtain ⟨literal, hl, hne⟩ := hlast
        obtain ⟨inner, innerSet, rfl, hset⟩ := (hinner literal hl).resolve_left hne
        rw [listDepth_of_inner h hl hset]
        exact .inner hlevel hl (ih _ (Entries.mem_of_get? hl) inner rfl innerSet hset)
  · intro h
    induction h with
    | @last arguments hlevel hlast =>
      obtain ⟨set, h⟩ := exists_decode_list_iff.mpr
        ⟨hlevel, fun literal hl => .inl (hlast literal hl)⟩
      exact ⟨set, h, listDepth_of_last h hlast⟩
    | @inner arguments inner k hlevel hinner _ ih =>
      obtain ⟨innerSet, hset, rfl⟩ := ih
      obtain ⟨set, h⟩ : ∃ set, list.decode coordinate arguments = .ok set := by
        refine exists_decode_list_iff.mpr ⟨hlevel, fun literal hl => ?_⟩
        cases hinner.symm.trans hl
        exact .inr ⟨inner, innerSet, rfl, hset⟩
      exact ⟨set, h, listDepth_of_inner h hinner hset⟩

end Vocabulary

/-! ### Extraction -/

namespace SchemaContext
variable {ctx : SchemaContext}

/-- What a single directive declares, if it decodes and stands where it is allowed. -/
theorem extract_single {e : SchemaElement} {applied : AppliedDirective} {d : DirectiveDefinition}
    {set : ConstraintSet} (he : e.directives = [applied])
    (hfind : ctx.vocabulary.find? applied.name = some d) (hallows : d.allows e.location = true)
    (hset : d.decode e.coordinate applied.arguments.entries = .ok set) :
    ctx.extract e = (ctx.checkFits e d.key set).map fun _ => .singleton d.key set := by
  rw [extract, he, List.foldlM_cons, extractOne, hfind]
  dsimp only
  rw [if_pos hallows, hset]
  change (ctx.checkFits e d.key set >>= fun _ => pure _) >>= pure = _
  cases ctx.checkFits e d.key set <;> rfl

private theorem checkFits_list_eq {e : SchemaElement} {t : NamedType}
    (ht : ctx.schema.get? e.type.coreType = some t) (set : ConstraintSet) :
    ctx.checkFits e .list set =
      if e.type.listDepth = 0 then .error (.nonListType e.coordinate t.name)
      else if set.listDepth = e.type.listDepth then .ok ()
      else .error (.listDepthMismatch e.coordinate set.listDepth e.type.listDepth) := by
  rw [checkFits, ht]
  rfl

/-- A list directive is extracted exactly where as many lists are declared as its chain is long. It fails
with what is no list, and with lists of another depth. -/
theorem extract_listChain (hv : ctx.vocabulary = .standard) {coordinate : String}
    {location : DirectiveLocation} (hl : location ≠ .scalar) {arguments : OrderedMap String Value}
    {k : Nat} (hk : ListChain arguments.entries k) {type : WrappedType} {t : NamedType}
    (ht : ctx.schema.get? type.coreType = some t) :
    let e : SchemaElement := ⟨coordinate, location, [⟨"list", arguments⟩], .declared type⟩
    let depth := type.wrappers.count .list
    1 ≤ k ∧ ((∃ tree, ctx.extract e = .ok tree) ↔ depth = k) ∧
      (depth = 0 → ctx.extract e = .error (.nonListType coordinate t.name)) ∧
      (depth ≠ 0 → depth ≠ k → ctx.extract e = .error (.listDepthMismatch coordinate k depth)) := by
  intro e depth
  obtain ⟨set, hset, rfl⟩ : ∃ set, Vocabulary.list.decode coordinate arguments.entries = .ok set ∧
      set.listDepth = k := Vocabulary.exists_decode_listDepth_iff.mpr hk
  have hpos := hk.pos
  have hfind : ctx.vocabulary.find? "list" = some Vocabulary.list := by
    rw [hv]
    rfl
  have hallows : Vocabulary.list.allows location = true := by
    cases location <;> first | rfl | exact absurd rfl hl
  have hdepth : e.type.listDepth = depth := type.listDepth_eq_count
  have hfits : ctx.checkFits e .list set = if depth = 0 then .error (.nonListType coordinate t.name)
      else if set.listDepth = depth then .ok ()
      else .error (.listDepthMismatch coordinate set.listDepth depth) := by
    rw [checkFits_list_eq ht, hdepth]
  have hextract : ctx.extract e = (ctx.checkFits e .list set).map fun _ => .singleton .list set :=
    extract_single (e := e) (d := Vocabulary.list) rfl hfind hallows hset
  rw [hextract, hfits]
  refine ⟨hpos, ?_, fun hzero => ?_, fun hzero hne => ?_⟩
  · by_cases hzero : depth = 0
    · rw [if_pos hzero]
      exact iff_of_false nofun (by omega)
    · rw [if_neg hzero]
      by_cases heq : set.listDepth = depth
      · rw [if_pos heq]
        exact iff_of_true ⟨_, rfl⟩ heq.symm
      · rw [if_neg heq]
        exact iff_of_false nofun fun h => heq h.symm
  · rw [if_pos hzero]
    rfl
  · rw [if_neg hzero, if_neg fun h => hne h.symm]
    rfl

/-- Three levels, the last of them an empty object, are for lists of lists of lists of texts. -/
theorem extract_listChain_of_three_levels :
    let ctx : SchemaContext := ⟨.standard, .builtin, {}⟩
    let arguments : OrderedMap String Value := .ofList
      [("maxItems", .int 4), ("innerList", .record [("minItems", .null), ("innerList", .record [])])]
    let element (type : WrappedType) : SchemaElement :=
      ⟨"Query.find(tags:)", .argumentDefinition, [⟨"list", arguments⟩], .declared type⟩
    let text : WrappedType := .nonNull (.named ⟨2⟩)
    ListChain arguments.entries 3 ∧ ctx.schema.get? ⟨2⟩ = some (Schema.builtinType .string) ∧
      (∃ tree, ctx.extract (element (.list (.nonNull (.list (.list text))))) = .ok tree) ∧
      ctx.extract (element (.list (.nonNull (.list text)))) =
        .error (.listDepthMismatch "Query.find(tags:)" 3 2) ∧
      ctx.extract (element text) = .error (.nonListType "Query.find(tags:)" "String") := by
  intro ctx arguments element text
  have hk : ListChain arguments.entries 3 := by
    refine .inner ⟨by decide, ?_, ?_, ?_⟩ rfl (.inner ⟨by decide, ?_, ?_, ?_⟩ rfl
      (.last ⟨by decide, ?_, ?_, ?_⟩ ?_))
    all_goals
      intro literal h
      cases h
    all_goals first | trivial | exact (by decide : 0 ≤ Int64.toInt 4)
  have hlocation : DirectiveLocation.argumentDefinition ≠ .scalar := nofun
  have hchain (type : WrappedType)
      (ht : ctx.schema.get? type.coreType = some (Schema.builtinType .string)) :=
    @extract_listChain ctx rfl "Query.find(tags:)" _ hlocation _ _ hk _ _ ht
  exact ⟨hk, rfl, (hchain (.list (.nonNull (.list (.list text)))) rfl).2.1.mpr rfl,
    (hchain (.list (.nonNull (.list text))) rfl).2.2.2 (by decide) (by decide),
    (hchain text rfl).2.2.1 rfl⟩

end SchemaContext
end ConstraintDirectives
