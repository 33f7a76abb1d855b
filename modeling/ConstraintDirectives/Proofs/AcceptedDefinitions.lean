import Mathlib.Data.List.Nodup
import ConstraintDirectives.Directive.Vocabulary
import ConstraintDirectives.Proofs.WrittenOrder

namespace ConstraintDirectives

namespace ConstraintName

theorem ofText?_text (name : ConstraintName) : ofText? name.text = some name := by
  cases name <;> decide

theorem text_injective : Function.Injective text := by
  intro m n h
  have hsome := congrArg ofText? h
  rw [ofText?_text, ofText?_text] at hsome
  exact Option.some.inj hsome

end ConstraintName

structure DirectiveDefinition.IsAccepted (d : DirectiveDefinition) : Prop where
  nodup : (d.arguments.map (·.name)).Nodup
  not_list_on_scalar : ¬ (d.key = .list ∧ d.allows .scalar = true)
  not_nested : ∀ a ∈ d.arguments, Vocabulary.isNestedDefault a = false
  decodes : ∃ set, d.decode d.key.text (Vocabulary.defaults d) = .ok set

namespace Vocabulary
variable {d : DirectiveDefinition} {a : ArgumentDefinition}

theorem repeated?_eq_none_iff {arguments : List ArgumentDefinition} {seen : List ConstraintName} :
    repeated? arguments seen = none ↔
      (arguments.map (·.name)).Nodup ∧ ∀ a ∈ arguments, a.name ∉ seen := by
  induction arguments generalizing seen with
  | nil => simp [repeated?]
  | cons a rest ih =>
    rw [repeated?, List.map_cons, List.nodup_cons, List.forall_mem_cons]
    split
    · next hs => simp_all
    · next hs =>
      rw [ih]
      constructor
      · rintro ⟨hn, hseen⟩
        refine ⟨⟨fun hm => ?_, hn⟩, by simpa using hs, fun b hb hm => ?_⟩
        · obtain ⟨b, hb, he⟩ := List.mem_map.mp hm
          exact hseen b hb (he ▸ List.mem_cons_self ..)
        · exact hseen b hb (List.mem_cons_of_mem _ hm)
      · rintro ⟨⟨hfresh, hn⟩, -, hseen⟩
        refine ⟨hn, fun b hb hm => ?_⟩
        rcases List.mem_cons.mp hm with he | hm
        · exact hfresh (he ▸ List.mem_map_of_mem hb)
        · exact hseen b hb hm

theorem check_eq (d : DirectiveDefinition) : check d =
    match repeated? d.arguments [], d.arguments.find? isNestedDefault with
    | some name, _ => .error (.invalidVocabulary (.repeatedArgument d.key name))
    | none, nested? =>
      if d.key = .list ∧ d.allows .scalar then .error (.invalidVocabulary .listOnScalar)
      else match nested? with
        | some a => .error (.invalidVocabulary (.nestedDefault d.key a.name))
        | none => (d.decode d.key.text (defaults d)).map fun _ => () := by
  unfold check
  cases repeated? d.arguments [] with
  | some name => rfl
  | none =>
    dsimp only
    split
    · rfl
    · cases d.arguments.find? isNestedDefault with
      | some a => rfl
      | none => cases d.decode d.key.text (defaults d) <;> rfl

theorem check_eq_ok_iff : check d = .ok () ↔ d.IsAccepted := by
  rw [check_eq]
  cases hr : repeated? d.arguments [] with
  | some name =>
    refine iff_of_false nofun fun h => ?_
    cases hr.symm.trans (repeated?_eq_none_iff.mpr ⟨h.nodup, fun _ _ => List.not_mem_nil⟩)
  | none =>
    dsimp only
    split
    · next hs => exact iff_of_false nofun fun h => h.not_list_on_scalar hs
    · next hs =>
      cases hf : d.arguments.find? isNestedDefault with
      | some a =>
        refine iff_of_false nofun fun h => ?_
        have hnested := List.find?_some hf
        rw [h.not_nested a (List.mem_of_find?_eq_some hf)] at hnested
        cases hnested
      | none =>
        have hnested : ∀ a ∈ d.arguments, isNestedDefault a = false := by
          simpa using List.find?_eq_none.mp hf
        rw [Sequencing.map_eq_ok_iff]
        constructor
        · rintro ⟨set, hset, -⟩
          exact ⟨(repeated?_eq_none_iff.mp hr).1, hs, hnested, set, hset⟩
        · rintro ⟨-, -, -, set, hset⟩
          exact ⟨set, hset, rfl⟩

private theorem add_eq_ok_iff {u v : Vocabulary} : u.add d = .ok v ↔
    d.IsAccepted ∧ d.name ∉ u.definitions.map (·.name) ∧ v = ⟨u.definitions ++ [d]⟩ := by
  have hfree : (u.find? d.name).isSome = false ↔ d.name ∉ u.definitions.map (·.name) := by
    simp [find?]
  rw [add, Sequencing.bind_eq_ok_iff, ← hfree, ← check_eq_ok_iff]
  constructor
  · rintro ⟨_, hcheck, hadd⟩
    split at hadd
    · cases hadd
    · next hnone =>
      cases hadd
      exact ⟨hcheck, by simpa using hnone, rfl⟩
  · rintro ⟨hcheck, hnone, rfl⟩
    exact ⟨(), hcheck, by rw [hnone]; rfl⟩

private theorem foldlM_add_eq_ok_iff {definitions : List DirectiveDefinition} {u v : Vocabulary}
    (hu : (u.definitions.map (·.name)).Nodup) : definitions.foldlM add u = .ok v ↔
      (∀ d ∈ definitions, d.IsAccepted) ∧ ((u.definitions ++ definitions).map (·.name)).Nodup ∧
        v = ⟨u.definitions ++ definitions⟩ := by
  induction definitions generalizing u with
  | nil => simp [hu, pure, Except.pure, eq_comm]
  | cons d rest ih =>
    rw [List.foldlM_cons, Sequencing.bind_eq_ok_iff, List.forall_mem_cons,
      List.append_cons u.definitions d rest]
    constructor
    · rintro ⟨u', hadd, hrest⟩
      obtain ⟨hd, hfree, rfl⟩ := add_eq_ok_iff.mp hadd
      have hu' : ((u.definitions ++ [d]).map (·.name)).Nodup := by
        rw [List.map_append]
        exact List.nodup_append_comm.mp (List.nodup_cons.mpr ⟨hfree, hu⟩)
      obtain ⟨hall, hn, rfl⟩ := (ih hu').mp hrest
      exact ⟨⟨hd, hall⟩, hn, rfl⟩
    · rintro ⟨⟨hd, hall⟩, hn, rfl⟩
      have hu' : ((u.definitions ++ [d]).map (·.name)).Nodup := by
        rw [List.map_append] at hn
        exact hn.of_append_left
      have hfree : d.name ∉ u.definitions.map (·.name) := by
        rw [List.map_append] at hu'
        exact (List.nodup_cons.mp (List.nodup_append_comm.mp hu')).1
      exact ⟨_, add_eq_ok_iff.mpr ⟨hd, hfree, rfl⟩, (ih hu').mpr ⟨hall, hn, rfl⟩⟩

theorem ofDefinitions_eq_ok_iff {definitions : List DirectiveDefinition} {v : Vocabulary} :
    ofDefinitions definitions = .ok v ↔ (∀ d ∈ definitions, d.IsAccepted) ∧
      (definitions.map (·.name)).Nodup ∧ v = ⟨definitions⟩ :=
  foldlM_add_eq_ok_iff List.nodup_nil

theorem ofDefinitions_eq_ok {definitions : List DirectiveDefinition} {v : Vocabulary}
    (h : ofDefinitions definitions = .ok v) : ∀ d ∈ v.definitions, d.IsAccepted := by
  obtain ⟨hall, -, rfl⟩ := ofDefinitions_eq_ok_iff.mp h
  exact hall

theorem find?_of_mem {v : Vocabulary} (hn : (v.definitions.map (·.name)).Nodup)
    (hd : d ∈ v.definitions) : v.find? d.name = some d := by
  cases hf : v.find? d.name with
  | none => exact absurd (List.find?_eq_none.mp hf d hd) (by simp)
  | some e =>
    have hname : e.name = d.name := by simpa using List.find?_some hf
    rw [List.inj_on_of_nodup_map hn (List.mem_of_find?_eq_some hf) hd hname]

/-- Each default is written under the name of its argument. -/
theorem get?_defaults (hn : (d.arguments.map (·.name)).Nodup) (ha : a ∈ d.arguments) :
    Entries.get? (defaults d) a.name.text = a.default := by
  have hkeys : (d.arguments.map (·.name.text)).Nodup := by
    have htexts := List.Nodup.map ConstraintName.text_injective hn
    rwa [List.map_map] at htexts
  exact Entries.get?_filterMap hkeys (·.default) ha

end Vocabulary

namespace DirectiveDefinition
variable {d : DirectiveDefinition} {coordinate : String} {a : ArgumentDefinition} {v : Value}

private theorem IsAccepted.default_not_record (h : d.IsAccepted) (ha : a ∈ d.arguments)
    (hv : a.default = some v) {s : Supplied} (hs : s.literal = v) {declared : Declared}
    (hdecode : d.decodeArgument coordinate a s = .ok declared) : v.kind ≠ .record := by
  intro hrecord
  cases v with
  | record ps =>
    have ht : a.type ≠ .listConstraints := by
      intro ht
      have hnested := h.not_nested a ha
      rw [Vocabulary.isNestedDefault, hv, ht] at hnested
      cases hnested
    obtain ⟨hliteral, -⟩ := decodeArgument_eq_ok hdecode
    obtain ⟨literal, inner⟩ := s
    cases hs
    rw [decodeLiteral_record ht] at hliteral
    cases hliteral
  | null | boolean | int | float | string | list => cases hrecord

/-- A default decodes wherever it stands in. -/
theorem IsAccepted.exists_decodeArgument (h : d.IsAccepted) (coordinate : String)
    (ha : a ∈ d.arguments) (hv : a.default = some v) (hn : v.isNull = false) :
    ∃ declared, d.decodeArgument coordinate a { literal := v } = .ok declared := by
  obtain ⟨set, hset⟩ := h.decodes
  obtain ⟨-, hset⟩ := decode_eq_ok_iff.mp hset
  obtain ⟨hall, -⟩ := decodeGiven_eq_ok_iff.mp hset
  have hgiven : given? (d.supplyAll d.key.text (Vocabulary.defaults d)) a =
      some (d.supply d.key.text v) := by
    rw [given?, get?_supplyAll, Vocabulary.get?_defaults h.nodup ha, hv]
    exact Option.filter_some_pos (by simp [hn])
  obtain ⟨declared, hdecode⟩ := hall a ha _ hgiven
  have hrecord : v.kind ≠ .record := h.default_not_record ha hv (literal_supply v) hdecode
  have halike : (d.supply d.key.text v).Alike { literal := v } :=
    supply_of_not_record hrecord ▸ .leaf v
  have hoption := d.toOption_decodeArgument d.key.text coordinate a halike
  rw [hdecode] at hoption
  exact Sequencing.exists_eq_ok (hoption ▸ rfl)

/-- Without arguments a directive decodes to its defaults. -/
theorem IsAccepted.exists_decode_nil (h : d.IsAccepted) (coordinate : String) :
    ∃ set, d.decode coordinate [] = .ok set := by
  refine ⟨_, decode_eq_ok_iff.mpr ⟨List.forall_mem_nil _, decodeGiven_eq_ok_iff.mpr ⟨?_, rfl⟩⟩⟩
  intro a ha s hs
  obtain ⟨hs, hn⟩ := Option.filter_eq_some_iff.mp hs
  obtain ⟨v, hv, rfl⟩ := Option.map_eq_some_iff.mp hs
  exact h.exists_decodeArgument coordinate ha hv (by simpa using hn)

end DirectiveDefinition
end ConstraintDirectives
