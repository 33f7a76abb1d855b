import ConstraintDirectives.Directive.Decoding
import ConstraintDirectives.Proofs.Sequencing
import ConstraintDirectives.Proofs.ValueParts

namespace ConstraintDirectives

/-- A declared value is of the variant that its argument's type asks for. Patterns and texts share a
type, and the name of the argument tells which of them it takes. -/
def ArgumentDefinition.Takes (a : ArgumentDefinition) : Declared → Prop
  | .int _ => a.type = .int
  | .float _ => a.type = .float
  | .string _ => a.type = .string ∧ a.name ≠ .regex
  | .boolean _ => a.type = .boolean
  | .floats _ => a.type = .floats
  | .strings _ => a.type = .strings
  | .pattern _ => a.type = .string ∧ a.name = .regex
  | .nested _ => a.type = .listConstraints

def DirectiveError.coordinate? : DirectiveError → Option String
  | .incompatibleType coordinate _ _ | .nonListType coordinate _
  | .listDepthMismatch coordinate _ _ | .misplacedDirective coordinate _ _
  | .unknownArgument coordinate _ _ | .wrongArgumentType coordinate _ _ _ _
  | .invalidArgument coordinate _ _ _ => some coordinate
  | .invalidVocabulary _ | .schema _ => none

def DirectiveError.argument? : DirectiveError → Option ConstraintName
  | .wrongArgumentType _ _ argument _ _ | .invalidArgument _ _ argument _ => some argument
  | _ => none

private theorem ArgumentType.decode?_takes {a : ArgumentDefinition} {literal : Value}
    {declared : Declared} (h : a.type.decode? literal = some declared)
    (hs : ∀ source, a.type = .string → literal ≠ .string source) :
    a.Takes declared ∧ ∀ inner, declared ≠ .nested inner := by
  cases ht : a.type <;> cases literal <;> rw [ht] at h hs <;>
    first
    | exact absurd rfl (hs _ rfl)
    | cases h
    | obtain ⟨x, hx, rfl⟩ := Option.map_eq_some_iff.mp h
  all_goals exact ⟨ht, nofun⟩

namespace DirectiveDefinition
variable {d : DirectiveDefinition} {coordinate : String}

theorem supplyAll_eq (properties : List (String × Value)) : d.supplyAll coordinate properties =
    properties.map fun p => (p.1, d.supply coordinate p.2) := by
  induction properties with
  | nil => rfl
  | cons p properties ih => rw [supplyAll, ih, List.map_cons]

@[simp] theorem literal_supply (literal : Value) : (d.supply coordinate literal).literal = literal := by
  cases literal <;> rfl

theorem supply_of_not_record {v : Value} (hv : v.kind ≠ .record) :
    d.supply coordinate v = { literal := v } := by
  cases v with
  | record => exact absurd rfl hv
  | null | boolean | int | float | string | list => rfl

theorem get?_supplyAll (properties : List (String × Value)) (name : String) :
    Entries.get? (d.supplyAll coordinate properties) name =
      (Entries.get? properties name).map (d.supply coordinate) := by
  rw [supplyAll_eq]
  exact Entries.get?_map (fun _ => d.supply coordinate) properties name

theorem keys_supplyAll (properties : List (String × Value)) :
    Entries.keys (d.supplyAll coordinate properties) = Entries.keys properties := by
  rw [supplyAll_eq, Entries.keys, List.map_map]
  rfl

/-- The objects that were written for inner lists, each with the places of the arguments on the way to
it, the innermost first. -/
inductive Reaches (d : DirectiveDefinition) (arguments : List (String × Value)) :
    List Nat → List (String × Value) → Prop where
  | top : Reaches d arguments [] arguments
  | inner {site : List Nat} {object inner : List (String × Value)} {i : Nat}
      {a : ArgumentDefinition} : Reaches d arguments site object → d.arguments[i]? = some a →
      a.type = .listConstraints → Entries.get? object a.name.text = some (.record inner) →
      Reaches d arguments (i :: site) inner

/-- Induction on the arguments of an application by the objects among them. -/
theorem byObjects {motive : List (String × Value) → Prop}
    (step : ∀ arguments, (∀ p ∈ arguments, ∀ inner, p.2 = .record inner → motive inner) →
      motive arguments) (arguments : List (String × Value)) : motive arguments := by
  suffices ∀ literal : Value, ∀ inner, literal = .record inner → motive inner from
    this (.record arguments) arguments rfl
  intro literal
  induction literal using Value.byParts with
  | null => exact nofun
  | scalar v hv =>
    rintro inner rfl
    cases hv
  | list items _ => exact nofun
  | record properties ih =>
    rintro inner he
    cases he
    exact step properties fun p hp => ih p hp

section Induction
variable {P : Except DirectiveError ConstraintSet → Prop}

private theorem inner_supply (step : ∀ supplied : List (String × Supplied),
    (∀ p ∈ supplied, ∀ result, p.2.inner = some result → P result) →
      P (d.decodeSupplied coordinate supplied)) (literal : Value) :
    ∀ result, (d.supply coordinate literal).inner = some result → P result := by
  induction literal using Value.byParts with
  | null => simp [supply]
  | scalar v hv => cases v <;> simp [Value.kind, ValueKind.isScalar, supply] at hv ⊢
  | list items _ => simp [supply]
  | record properties ih =>
    intro result h
    rw [supply, Option.some.injEq] at h
    subst h
    refine step _ fun p hp => ?_
    rw [supplyAll_eq] at hp
    obtain ⟨q, hq, rfl⟩ := List.mem_map.mp hp
    exact ih q hq

/-- Induction on the literals of an application. -/
theorem decode_induction (step : ∀ supplied : List (String × Supplied),
    (∀ p ∈ supplied, ∀ result, p.2.inner = some result → P result) →
      P (d.decodeSupplied coordinate supplied)) (arguments : List (String × Value)) :
    P (d.decode coordinate arguments) := by
  refine step _ fun p hp => ?_
  rw [supplyAll_eq] at hp
  obtain ⟨q, _, rfl⟩ := List.mem_map.mp hp
  exact inner_supply step q.2

end Induction

section Arguments
variable {supplied : List (String × Supplied)} {a : ArgumentDefinition} {s : Supplied}

/-- An inner list is a supplied one. Defaults have none. -/
theorem exists_inner_of_given? (h : given? supplied a = some s)
    {result : Except DirectiveError ConstraintSet} (hs : s.inner = some result) :
    ∃ p ∈ supplied, p.2.inner = some result := by
  obtain ⟨h, _⟩ := Option.filter_eq_some_iff.mp h
  cases hg : Entries.get? supplied a.name.text with
  | some s' =>
    rw [hg] at h
    cases h
    exact ⟨_, Entries.mem_of_get? hg, hs⟩
  | none =>
    rw [hg] at h
    obtain ⟨_, _, rfl⟩ := Option.map_eq_some_iff.mp h
    cases hs

/-- What is given for an argument is written for it, or is its default where nothing is written. -/
theorem exists_literal_of_given? {arguments : List (String × Value)}
    (h : given? (d.supplyAll coordinate arguments) a = some s) :
    ∃ v, v.isNull = false ∧
      ((Entries.get? arguments a.name.text = some v ∧ s = d.supply coordinate v) ∨
        (Entries.get? arguments a.name.text = none ∧ a.default = some v ∧ s = { literal := v })) := by
  obtain ⟨h, hn⟩ := Option.filter_eq_some_iff.mp h
  rw [get?_supplyAll] at h
  cases hg : Entries.get? arguments a.name.text with
  | some v =>
    rw [hg] at h
    cases h
    exact ⟨v, by simpa using hn, .inl ⟨rfl, rfl⟩⟩
  | none =>
    rw [hg] at h
    obtain ⟨v, hv, rfl⟩ := Option.map_eq_some_iff.mp h
    exact ⟨v, by simpa using hn, .inr ⟨rfl, hv, rfl⟩⟩

/-- A decoded literal is of its argument's type. A nested set is the inner list it decodes to. -/
theorem decodeLiteral_eq_ok {declared : Declared}
    (h : d.decodeLiteral coordinate a s = .ok declared) : a.Takes declared ∧
      ∀ inner, declared = .nested inner → s.inner = some (.ok inner) := by
  rw [decodeLiteral] at h
  split at h
  · next ht hs =>
    obtain ⟨set, rfl, rfl⟩ := Sequencing.map_eq_ok_iff.mp h
    refine ⟨ht, fun inner he => ?_⟩
    cases he
    exact hs
  · next source ht hs =>
    split at h
    · next hr =>
      rw [decodePattern] at h
      split at h
      · cases h
        exact ⟨⟨ht, hr⟩, nofun⟩
      · cases h
    · next hr =>
      cases h
      exact ⟨⟨ht, hr⟩, nofun⟩
  · next hno _ =>
    split at h
    · next hd =>
      cases h
      obtain ⟨htakes, hnested⟩ := ArgumentType.decode?_takes hd hno
      exact ⟨htakes, fun inner he => absurd he (hnested inner)⟩
    · cases h

/-- Only an inner list is written as an object. -/
theorem decodeLiteral_record (ht : a.type ≠ .listConstraints) (ps : List (String × Value))
    (inner : Option (Except DirectiveError ConstraintSet)) :
    d.decodeLiteral coordinate a ⟨.record ps, inner⟩ =
      .error (d.wrongType coordinate a (.record ps)) := by
  rw [decodeLiteral]
  cases h : a.type with
  | listConstraints => exact absurd h ht
  | int | float | string | boolean | floats | strings => cases inner <;> rfl

/-- A literal that does not decode is to blame itself, or its inner list is. -/
theorem decodeLiteral_eq_error {err : DirectiveError}
    (h : d.decodeLiteral coordinate a s = .error err) :
    (err.coordinate? = some coordinate ∧ err.argument? = some a.name) ∨
      (a.type = .listConstraints ∧ s.inner = some (.error err)) := by
  rw [decodeLiteral] at h
  split at h
  · next ht hs =>
    rw [Sequencing.map_eq_error_iff] at h
    exact .inr ⟨ht, h ▸ hs⟩
  · split at h
    · rw [decodePattern] at h
      split at h
      · cases h
      · cases h
        exact .inl ⟨rfl, rfl⟩
    · cases h
  · split at h
    · cases h
    · cases h
      exact .inl ⟨rfl, rfl⟩

theorem decodeArgument_eq_ok {declared : Declared}
    (h : d.decodeArgument coordinate a s = .ok declared) :
    d.decodeLiteral coordinate a s = .ok declared ∧ a.name.rangeFault? declared = none := by
  obtain ⟨declared', hl, h⟩ := Sequencing.bind_eq_ok_iff.mp h
  split at h
  · cases h
  · next hr =>
    cases h
    exact ⟨hl, hr⟩

theorem decodeArgument_eq_error {err : DirectiveError}
    (h : d.decodeArgument coordinate a s = .error err) :
    (err.coordinate? = some coordinate ∧ err.argument? = some a.name) ∨
      (a.type = .listConstraints ∧ s.inner = some (.error err)) := by
  rcases Sequencing.bind_eq_error_iff.mp h with h | ⟨declared, _, h⟩
  · exact decodeLiteral_eq_error h
  · split at h
    · cases h
      exact .inl ⟨rfl, rfl⟩
    · cases h

/-- The decoded arguments are given ones, in order. -/
theorem decodeGiven_eq_ok {arguments : List ArgumentDefinition} {set : ConstraintSet}
    (h : d.decodeGiven coordinate supplied arguments = .ok set) :
    (set.map (·.1)).Sublist (arguments.map (·.name)) ∧ ∀ c ∈ set, ∃ a ∈ arguments, ∃ s,
      given? supplied a = some s ∧ a.name = c.1 ∧ d.decodeArgument coordinate a s = .ok c.2 := by
  induction arguments generalizing set with
  | nil =>
    cases h
    exact ⟨.slnil, nofun⟩
  | cons a rest ih =>
    have later {set' : ConstraintSet} (hset : ∀ c ∈ set', ∃ b ∈ rest, ∃ s,
        given? supplied b = some s ∧ b.name = c.1 ∧ d.decodeArgument coordinate b s = .ok c.2) :
        ∀ c ∈ set', ∃ b ∈ a :: rest, ∃ s,
          given? supplied b = some s ∧ b.name = c.1 ∧
            d.decodeArgument coordinate b s = .ok c.2 := fun c hc => by
      obtain ⟨b, hb, hrest⟩ := hset c hc
      exact ⟨b, List.mem_cons_of_mem _ hb, hrest⟩
    rw [decodeGiven] at h
    split at h
    · obtain ⟨hsub, hset⟩ := ih h
      exact ⟨hsub.cons _, later hset⟩
    · next s hs =>
      obtain ⟨declared, hd, h⟩ := Sequencing.bind_eq_ok_iff.mp h
      obtain ⟨tail, htail, h⟩ := Sequencing.bind_eq_ok_iff.mp h
      cases h
      obtain ⟨hsub, hset⟩ := ih htail
      exact ⟨hsub.cons_cons _,
        List.forall_mem_cons.mpr ⟨⟨a, List.mem_cons_self .., s, hs, rfl, hd⟩, later hset⟩⟩

theorem decodeGiven_eq_error {arguments : List ArgumentDefinition} {err : DirectiveError}
    (h : d.decodeGiven coordinate supplied arguments = .error err) :
    ∃ a ∈ arguments, ∃ s, given? supplied a = some s ∧
      d.decodeArgument coordinate a s = .error err := by
  induction arguments with
  | nil => cases h
  | cons a rest ih =>
    have later (hrest : d.decodeGiven coordinate supplied rest = .error err) :
        ∃ b ∈ a :: rest, ∃ s, given? supplied b = some s ∧
          d.decodeArgument coordinate b s = .error err := by
      obtain ⟨b, hb, hs⟩ := ih hrest
      exact ⟨b, List.mem_cons_of_mem _ hb, hs⟩
    rw [decodeGiven] at h
    split at h
    · exact later h
    · next s hs =>
      rcases Sequencing.bind_eq_error_iff.mp h with h | ⟨declared, _, h⟩
      · exact ⟨a, List.mem_cons_self .., s, hs, h⟩
      · rcases Sequencing.bind_eq_error_iff.mp h with h | ⟨tail, _, h⟩
        · exact later h
        · cases h

theorem decodeSupplied_eq_ok {set : ConstraintSet}
    (h : d.decodeSupplied coordinate supplied = .ok set) :
    d.decodeGiven coordinate supplied d.arguments = .ok set := by
  rw [decodeSupplied] at h
  split at h
  · cases h
  · exact h

end Arguments

section Success
variable {supplied : List (String × Supplied)} {a : ArgumentDefinition}

/-- Without a default, what is given for an argument is what is written for it, if that is not null. -/
theorem given?_supplyAll (ha : a.default = none)
    (arguments : List (String × Value)) : given? (d.supplyAll coordinate arguments) a =
      ((Entries.get? arguments a.name.text).filter (!·.isNull)).map (d.supply coordinate) := by
  rw [given?, ha, get?_supplyAll]
  cases Entries.get? arguments a.name.text with
  | none => rfl
  | some v => cases v <;> rfl

def contribution? (d : DirectiveDefinition) (coordinate : String)
    (supplied : List (String × Supplied)) (a : ArgumentDefinition) : Option Declared :=
  (given? supplied a).bind fun s => (d.decodeArgument coordinate a s).toOption

/-- Arguments decode if all that is given for them does, each to its part of the set. -/
theorem decodeGiven_eq_ok_iff {arguments : List ArgumentDefinition} {set : ConstraintSet} :
    d.decodeGiven coordinate supplied arguments = .ok set ↔
      (∀ a ∈ arguments, ∀ s, given? supplied a = some s →
        ∃ declared, d.decodeArgument coordinate a s = .ok declared) ∧
      set = arguments.filterMap fun a =>
        (d.contribution? coordinate supplied a).map fun declared => (a.name, declared) := by
  induction arguments generalizing set with
  | nil => simp [decodeGiven, eq_comm]
  | cons a rest ih =>
    rw [decodeGiven, List.forall_mem_cons]
    cases hg : given? supplied a with
    | none => simp [hg, ih, contribution?]
    | some s =>
      dsimp only
      cases hd : d.decodeArgument coordinate a s with
      | error err =>
        refine iff_of_false nofun ?_
        rintro ⟨⟨ha, -⟩, -⟩
        obtain ⟨declared, hdec⟩ := ha s rfl
        cases hd.symm.trans hdec
      | ok declared =>
        have hc : d.contribution? coordinate supplied a = some declared := by
          rw [contribution?, hg, Option.bind_some, hd]
          rfl
        change (d.decodeGiven coordinate supplied rest >>= fun tail => pure _) = .ok set ↔ _
        rw [Sequencing.bind_eq_ok_iff, List.filterMap_cons, hc]
        constructor
        · rintro ⟨tail, htail, he⟩
          cases he
          obtain ⟨hall, rfl⟩ := ih.mp htail
          exact ⟨⟨fun _ hs => ⟨declared, Option.some.inj hs ▸ hd⟩, hall⟩, rfl⟩
        · rintro ⟨⟨-, hall⟩, rfl⟩
          exact ⟨_, ih.mpr ⟨hall, rfl⟩, rfl⟩

/-- In a decoded set every argument is found under its name. -/
theorem get?_decodeGiven {arguments : List ArgumentDefinition} {set : ConstraintSet}
    (hn : (arguments.map (·.name)).Nodup)
    (h : d.decodeGiven coordinate supplied arguments = .ok set)
    (ha : a ∈ arguments) : set.get? a.name = d.contribution? coordinate supplied a := by
  obtain ⟨-, rfl⟩ := decodeGiven_eq_ok_iff.mp h
  exact Entries.get?_filterMap hn (d.contribution? coordinate supplied) ha

theorem find?_unknown_eq_none (supplied : List (String × Supplied)) :
    (supplied.find? fun e => (d.argument? e.1).isNone) = none ↔
      ∀ name ∈ Entries.keys supplied, (d.argument? name).isSome = true := by
  rw [List.find?_eq_none, Entries.keys, List.forall_mem_map]
  simp [Option.isSome_iff_ne_none]

theorem decode_eq_ok_iff {arguments : List (String × Value)} {set : ConstraintSet} :
    d.decode coordinate arguments = .ok set ↔
      (∀ name ∈ Entries.keys arguments, (d.argument? name).isSome = true) ∧
        d.decodeGiven coordinate (d.supplyAll coordinate arguments) d.arguments = .ok set := by
  have hkeys : Entries.keys (d.supplyAll coordinate arguments) = Entries.keys arguments :=
    keys_supplyAll arguments
  rw [decode, decodeSupplied, ← hkeys, ← find?_unknown_eq_none]
  split
  · next hu => simp [hu]
  · next hu => simp [hu]

/-- What is written for an argument without a default decodes, unless it is null. -/
theorem forall_given?_iff (ha : a.default = none)
    {arguments : List (String × Value)} {P : Supplied → Prop} :
    (∀ s, given? (d.supplyAll coordinate arguments) a = some s → P s) ↔
      ∀ literal, Entries.get? arguments a.name.text = some literal → literal = .null ∨
        P (d.supply coordinate literal) := by
  rw [given?_supplyAll ha]
  constructor
  · intro h literal hl
    cases hn : literal.isNull with
    | true => cases literal <;> first | exact .inl rfl | cases hn
    | false =>
      refine .inr (h _ ?_)
      rw [hl, Option.filter_some_pos (by simp [hn])]
      rfl
  · intro h s hs
    obtain ⟨literal, hl, rfl⟩ := Option.map_eq_some_iff.mp hs
    obtain ⟨hl, hn⟩ := Option.filter_eq_some_iff.mp hl
    rcases h literal hl with rfl | hp
    · cases hn
    · exact hp

end Success

/-- Decoding fails with an error about the element that the directive is on. -/
theorem decode_eq_error {arguments : List (String × Value)} {err : DirectiveError}
    (h : d.decode coordinate arguments = .error err) : err.coordinate? = some coordinate := by
  suffices ∀ err, d.decode coordinate arguments = .error err → err.coordinate? = some coordinate from
    this err h
  refine decode_induction (P := fun result =>
    ∀ err, result = .error err → err.coordinate? = some coordinate) ?_ arguments
  intro supplied hinner err h
  rw [decodeSupplied] at h
  split at h
  · cases h
    rfl
  · obtain ⟨a, -, s, hs, h⟩ := decodeGiven_eq_error h
    rcases decodeArgument_eq_error h with ⟨hc, -⟩ | ⟨-, hi⟩
    · exact hc
    · obtain ⟨p, hp, hp'⟩ := exists_inner_of_given? hs hi
      exact hinner p hp _ hp' err rfl

end DirectiveDefinition
end ConstraintDirectives
