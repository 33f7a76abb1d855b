import ConstraintDirectives.Proofs.Acceptance
import ConstraintDirectives.Proofs.Conformance
import ConstraintDirectives.Proofs.Sameness

/-! What a constraint asks of a value, read off the literal that declares it. Decoding and the table of
checks agree on it. -/
namespace ConstraintDirectives

namespace Value

/-- A literal as a list of options. A single one is the only option. -/
def options : Value → List Value
  | .list items => items
  | literal => [literal]

/-- Both are numbers that stand in a relation, integers as the floats nearest to them. -/
def Compared (r : Binary64 → Binary64 → Bool) (v w : Value) : Prop :=
  ∃ x y, v.number? = some x ∧ w.number? = some y ∧ r x y = true

def OnTexts (r : String → String → Prop) (v w : Value) : Prop :=
  ∃ s t, v = .string s ∧ w = .string t ∧ r s t

def SameScalar (v w : Value) : Prop := Compared Binary64.equal v w ∨ OnTexts Eq v w

end Value

namespace ConstraintName
open Value

/-- What a constraint that a literal declares asks of a value. -/
def Asks (name : ConstraintName) (literal value : Value) : Prop :=
  match name with
  | .min => Compared Binary64.le literal value
  | .max => Compared Binary64.le value literal
  | .exclusiveMin => Compared Binary64.lt literal value
  | .exclusiveMax => Compared Binary64.lt value literal
  | .equals => literal.SameScalar value
  | .oneOf => ∃ option ∈ literal.options, option.SameScalar value
  | .minLength => ∃ n s, literal = .int n ∧ value = .string s ∧ n.toInt ≤ s.length
  | .maxLength => ∃ n s, literal = .int n ∧ value = .string s ∧ s.length ≤ n.toInt
  | .startsWith => OnTexts (fun t s => t.toList <+: s.toList) literal value
  | .endsWith => OnTexts (fun t s => t.toList <:+ s.toList) literal value
  | .includes => OnTexts (fun t s => t.toList <:+: s.toList) literal value
  | .regex =>
    OnTexts (fun t s => ∃ p, Pattern.ofSource? t = some p ∧ p.isMatch s = true) literal value
  | .minItems => ∃ n items, literal = .int n ∧ value = .list items ∧ n.toInt ≤ items.length
  | .maxItems => ∃ n items, literal = .int n ∧ value = .list items ∧ items.length ≤ n.toInt
  | .uniqueItems => ∃ b items, literal = .boolean b ∧ value = .list items ∧
      (b = true → items.Pairwise fun x y => x.same y = false)
  | .multipleOf | .innerList => True

/-- The rows of the table of checks: kinds of values with the constraints and the variants of what they
declare that are checked of them. -/
inductive HasRow : ValueKind → ConstraintName → Declared → Prop where
  | bound {name : ConstraintName} {declared : Declared} {b : Binary64} :
      name ∈ [min, max, exclusiveMin, exclusiveMax, equals] → declared.number? = some b →
      HasRow .number name declared
  | divisor {declared : Declared} {m : Binary64} : declared.number? = some m →
      HasRow .number multipleOf declared
  | numbers (xs : List Binary64) : HasRow .number oneOf (.floats xs)
  | length {name : ConstraintName} (n : Int64) : name ∈ [minLength, maxLength] →
      HasRow .string name (.int n)
  | text {name : ConstraintName} (t : String) : name ∈ [startsWith, endsWith, includes, equals] →
      HasRow .string name (.string t)
  | texts (ts : List String) : HasRow .string oneOf (.strings ts)
  | pattern (p : Pattern) : HasRow .string regex (.pattern p)
  | count {name : ConstraintName} (n : Int64) : name ∈ [minItems, maxItems] →
      HasRow .list name (.int n)
  | unique : HasRow .list uniqueItems (.boolean true)

/-- Where the table has no row for it, a constraint holds of everything. -/
theorem holds_of_not_hasRow {name : ConstraintName} {declared : Declared} {value : Value}
    (h : ¬ HasRow value.kind name declared) : name.holds declared value = true := by
  have numbers (x : Binary64) (h : ¬ HasRow .number name declared) :
      holdsNumber name declared value x = true := by
    unfold holdsNumber
    split
    · exact absurd (.numbers _) h
    · cases hd : declared.number? with
      | none => rfl
      | some m => exact absurd (.divisor hd) h
    · cases hd : declared.number? with
      | none => rfl
      | some b => cases name <;> first | rfl | exact absurd (.bound (by decide) hd) h
  cases value with
  | int i => exact numbers _ h
  | float x => exact numbers x h
  | string s =>
    change holdsText name declared s = true
    unfold holdsText
    split
    · exact absurd (.length _ (by decide)) h
    · exact absurd (.length _ (by decide)) h
    · exact absurd (.text _ (by decide)) h
    · exact absurd (.text _ (by decide)) h
    · exact absurd (.text _ (by decide)) h
    · exact absurd (.texts _) h
    · exact absurd (.text _ (by decide)) h
    · exact absurd (.pattern _) h
    · rfl
  | list items =>
    change holdsItems name declared items = true
    unfold holdsItems
    split
    · exact absurd (.count _ (by decide)) h
    · exact absurd (.count _ (by decide)) h
    · exact absurd .unique h
    · rfl
  | null | boolean | record => rfl

end ConstraintName

/-! ### Literals as they are decoded -/

def ArgumentDefinition.Reads (a : ArgumentDefinition) (literal : Value) (declared : Declared) : Prop :=
  match a.type with
  | .int => ∃ n, literal = .int n ∧ declared = .int n
  | .float => ∃ x, literal.number? = some x ∧ declared = .float x
  | .string => ∃ s, literal = .string s ∧
      if a.name = .regex then ∃ p, Pattern.ofSource? s = some p ∧ declared = .pattern p
      else declared = .string s
  | .boolean => ∃ b, literal = .boolean b ∧ declared = .boolean b
  | .floats => ∃ xs, literal.options.mapM Value.number? = some xs ∧ declared = .floats xs
  | .strings => ∃ ss, literal.options.mapM Value.string? = some ss ∧ declared = .strings ss
  | .listConstraints => ∃ inner, declared = .nested inner

private theorem ArgumentType.float?_eq (v : Value) : float? v = v.number? := by
  cases v <;> rfl

/-- Only texts are read by the name of the argument as well. -/
theorem ArgumentDefinition.reads_of_decode? {a : ArgumentDefinition} {literal : Value}
    {declared : Declared} (h : a.type.decode? literal = some declared)
    (hs : ∀ source, a.type = .string → literal ≠ .string source) : a.Reads literal declared := by
  have single (v : Value) {f : Value → Option Binary64} {x : Binary64} (hx : f v = some x) :
      [v].mapM f = some [x] := by
    simp [hx]
  rw [Reads]
  cases htype : a.type with
  | int =>
    rw [htype] at h
    cases literal with
    | int n =>
      cases h
      exact ⟨n, rfl, rfl⟩
    | null | boolean | float | string | list | record => cases h
  | float =>
    rw [htype, ArgumentType.decode?] at h
    obtain ⟨x, hx, rfl⟩ := Option.map_eq_some_iff.mp h
    exact ⟨x, (ArgumentType.float?_eq literal).symm.trans hx, rfl⟩
  | string =>
    rw [htype] at h
    cases literal with
    | string s => exact absurd rfl (hs s htype)
    | null | boolean | int | float | list | record => cases h
  | boolean =>
    rw [htype] at h
    cases literal with
    | boolean b =>
      cases h
      exact ⟨b, rfl, rfl⟩
    | null | int | float | string | list | record => cases h
  | floats =>
    rw [htype] at h
    cases literal with
    | list items =>
      obtain ⟨xs, hxs, rfl⟩ := Option.map_eq_some_iff.mp h
      rw [funext ArgumentType.float?_eq] at hxs
      exact ⟨xs, hxs, rfl⟩
    | int | float =>
      cases h
      exact ⟨_, single _ rfl, rfl⟩
    | null | boolean | string | record => cases h
  | strings =>
    rw [htype] at h
    cases literal with
    | list items =>
      obtain ⟨ss, hss, rfl⟩ := Option.map_eq_some_iff.mp h
      exact ⟨ss, hss, rfl⟩
    | string s =>
      cases h
      exact ⟨[s], rfl, rfl⟩
    | null | boolean | int | float | record => cases h
  | listConstraints =>
    rw [htype] at h
    cases literal <;> cases h

namespace DirectiveDefinition
variable {d : DirectiveDefinition} {coordinate : String} {a : ArgumentDefinition} {literal : Value}
  {declared : Declared}

private theorem reads_of_decodeLiteral
    (h : d.decodeLiteral coordinate a (d.supply coordinate literal) = .ok declared) :
    a.Reads literal declared := by
  rw [decodeLiteral, literal_supply] at h
  split at h
  · next ht _ =>
    obtain ⟨inner, -, rfl⟩ := Sequencing.map_eq_ok_iff.mp h
    rw [ArgumentDefinition.Reads, ht]
    exact ⟨inner, rfl⟩
  · next ht =>
    rw [ArgumentDefinition.Reads, ht]
    refine ⟨_, rfl, ?_⟩
    split at h
    · next hr =>
      rw [decodePattern] at h
      split at h
      · next p hp =>
        cases h
        exact (if_pos hr).mpr ⟨p, hp, rfl⟩
      · cases h
    · next hr =>
      cases h
      exact (if_neg hr).mpr rfl
  · next hnot _ =>
    split at h
    · next hd =>
      cases h
      exact ArgumentDefinition.reads_of_decode? hd hnot
    · cases h

end DirectiveDefinition

/-! ### Rows -/

namespace Value
variable {v w : Value} {r : Binary64 → Binary64 → Bool} {x y : Binary64}

private theorem compared_iff (hv : v.number? = some x) (hw : w.number? = some y) :
    Compared r v w ↔ r x y = true := by
  constructor
  · rintro ⟨x', y', hx, hy, h⟩
    cases hv.symm.trans hx
    cases hw.symm.trans hy
    exact h
  · exact fun h => ⟨x, y, hv, hw, h⟩

private theorem onTexts_iff {r : String → String → Prop} {s t : String} :
    OnTexts r (.string s) (.string t) ↔ r s t := by
  constructor
  · rintro ⟨_, _, hs, ht, h⟩
    cases hs
    cases ht
    exact h
  · exact fun h => ⟨s, t, rfl, rfl, h⟩

private theorem sameScalar_iff_of_number? (hw : w.number? = some y) :
    v.SameScalar w ↔ ∃ x, v.number? = some x ∧ x.equal y = true := by
  constructor
  · rintro (⟨x, y', hx, hy, h⟩ | ⟨s, t, rfl, rfl, -⟩)
    · cases hw.symm.trans hy
      exact ⟨x, hx, h⟩
    · cases hw
  · exact fun ⟨x, hx, h⟩ => .inl ⟨x, y, hx, hw, h⟩

private theorem sameScalar_string_iff {t : String} : v.SameScalar (.string t) ↔ v.string? = some t := by
  constructor
  · rintro (⟨x, y, -, hy, -⟩ | ⟨s, t', rfl, ht, rfl⟩)
    · cases hy
    · cases ht
      rfl
  · intro h
    cases v with
    | string s =>
      cases h
      exact .inr ⟨_, _, rfl, rfl, rfl⟩
    | null | boolean | int | float | list | record => cases h

/-- Looking for one among some options is looking among what they are. -/
theorem any_of_mapM {α : Type} {f : Value → Option α} {p : α → Bool} {items : List Value}
    {ys : List α} (h : items.mapM f = some ys) :
    ys.any p = true ↔ ∃ v ∈ items, ∃ y, f v = some y ∧ p y = true := by
  induction items generalizing ys with
  | nil =>
    cases h
    simp
  | cons v items ih =>
    rw [List.mapM_cons] at h
    obtain ⟨y, hy, h⟩ := Option.bind_eq_some_iff.mp h
    obtain ⟨zs, hzs, h⟩ := Option.bind_eq_some_iff.mp h
    cases h
    simp [ih hzs, hy]

end Value

namespace ConstraintName
open Value Vocabulary
variable {a : ArgumentDefinition} {literal value : Value} {declared : Declared}

def Agrees (name : ConstraintName) (literal : Value) (declared : Declared) (value : Value) : Prop :=
  (name.holds declared value = true ↔ name.Asks literal value) ∧
    (HasRow value.kind name declared ∨ name = .uniqueItems ∧ literal = .boolean false)

private theorem agrees_number (ha : a ∈ numberValue.arguments) (hm : a.name ≠ .multipleOf)
    (hr : a.Reads literal declared) (hv : value.kind = .number) :
    a.name.Agrees literal declared value := by
  obtain ⟨x, hx⟩ : ∃ x, value.number? = some x := by
    cases value with
    | int | float => exact ⟨_, rfl⟩
    | null | boolean | string | list | record => cases hv
  rw [Agrees, hv, holds_of_number? hx]
  simp only [numberValue, List.mem_cons, List.not_mem_nil, or_false] at ha
  rcases ha with rfl | rfl | rfl | rfl | rfl | rfl | rfl
  · obtain ⟨b, hb, rfl⟩ := hr
    exact ⟨(compared_iff (r := Binary64.le) hb hx).symm, .inl (.bound (by decide) rfl)⟩
  · obtain ⟨b, hb, rfl⟩ := hr
    exact ⟨(compared_iff (r := Binary64.le) hx hb).symm, .inl (.bound (by decide) rfl)⟩
  · obtain ⟨b, hb, rfl⟩ := hr
    exact ⟨(compared_iff (r := Binary64.lt) hx hb).symm, .inl (.bound (by decide) rfl)⟩
  · obtain ⟨b, hb, rfl⟩ := hr
    exact ⟨(compared_iff (r := Binary64.lt) hb hx).symm, .inl (.bound (by decide) rfl)⟩
  · obtain ⟨xs, hxs, rfl⟩ := hr
    refine ⟨(any_of_mapM hxs).trans ?_, .inl (.numbers xs)⟩
    exact exists_congr fun v => and_congr_right' (sameScalar_iff_of_number? hx).symm
  · obtain ⟨b, hb, rfl⟩ := hr
    have hequal : x.equal b = true ↔ literal.SameScalar value := by
      rw [sameScalar_iff_of_number? hx, Binary64.equal_comm, hb]
      simp
    exact ⟨hequal, .inl (.bound (by decide) rfl)⟩
  · exact absurd rfl hm

private theorem agrees_string (ha : a ∈ stringValue.arguments) (hr : a.Reads literal declared)
    (hv : value.kind = .string) : a.name.Agrees literal declared value := by
  obtain ⟨s, rfl⟩ : ∃ s, value = .string s := by
    cases value with
    | string s => exact ⟨s, rfl⟩
    | null | boolean | int | float | list | record => cases hv
  simp only [stringValue, List.mem_cons, List.not_mem_nil, or_false] at ha
  rcases ha with rfl | rfl | rfl | rfl | rfl | rfl | rfl | rfl
  · obtain ⟨n, rfl, rfl⟩ := hr
    exact ⟨by simp [holds, holdsText, Asks], .inl (.length n (by decide))⟩
  · obtain ⟨n, rfl, rfl⟩ := hr
    exact ⟨by simp [holds, holdsText, Asks], .inl (.length n (by decide))⟩
  · obtain ⟨t, rfl, rfl⟩ := hr
    exact ⟨by simp [holds, holdsText, Asks, onTexts_iff], .inl (.text t (by decide))⟩
  · obtain ⟨t, rfl, rfl⟩ := hr
    exact ⟨by simp [holds, holdsText, Asks, onTexts_iff], .inl (.text t (by decide))⟩
  · obtain ⟨t, rfl, rfl⟩ := hr
    exact ⟨by simp [holds, holdsText, Asks, onTexts_iff, occursIn_iff], .inl (.text t (by decide))⟩
  · obtain ⟨ts, hts, rfl⟩ := hr
    have hany : ts.contains s = true ↔ ∃ v ∈ literal.options, v.SameScalar (.string s) := by
      rw [List.contains_eq_any_beq, any_of_mapM hts]
      exact exists_congr fun v => and_congr_right' (by simp [sameScalar_string_iff])
    exact ⟨hany, .inl (.texts ts)⟩
  · obtain ⟨t, rfl, rfl⟩ := hr
    have hequal : (s == t) = true ↔ (Value.string t).SameScalar (.string s) := by
      rw [sameScalar_string_iff, string?, beq_iff_eq, Option.some.injEq, eq_comm]
    exact ⟨hequal, .inl (.text t (by decide))⟩
  · obtain ⟨t, rfl, p, hp, rfl⟩ := hr
    exact ⟨by simp [holds, holdsText, Asks, onTexts_iff, hp], .inl (.pattern p)⟩

private theorem agrees_list (ha : a ∈ list.arguments) (hi : a.name ≠ .innerList)
    (hr : a.Reads literal declared) (hv : value.kind = .list) :
    a.name.Agrees literal declared value := by
  obtain ⟨items, rfl⟩ : ∃ items, value = .list items := by
    cases value with
    | list items => exact ⟨items, rfl⟩
    | null | boolean | int | float | string | record => cases hv
  simp only [Vocabulary.list, List.mem_cons, List.not_mem_nil, or_false] at ha
  rcases ha with rfl | rfl | rfl | rfl
  · obtain ⟨n, rfl, rfl⟩ := hr
    exact ⟨by simp [holds, holdsItems, Asks], .inl (.count n (by decide))⟩
  · obtain ⟨n, rfl, rfl⟩ := hr
    exact ⟨by simp [holds, holdsItems, Asks], .inl (.count n (by decide))⟩
  · obtain ⟨b, rfl, rfl⟩ := hr
    cases b with
    | false => exact ⟨by simp [holds, holdsItems, Asks], .inr ⟨rfl, rfl⟩⟩
    | true => exact ⟨by simp [holds, holdsItems, Asks, ← firstRepeat?_isNone_iff], .inl .unique⟩
  · exact absurd rfl hi

end ConstraintName

namespace DirectiveDefinition
variable {d : DirectiveDefinition} {coordinate : String} {a : ArgumentDefinition} {literal : Value}

/-- Without a default, a set declares what is written for an argument, unless that is null. -/
theorem get?_decode (hn : (d.arguments.map (·.name)).Nodup) (ha : a ∈ d.arguments)
    (hdef : a.default = none) {arguments : List (String × Value)} {set : ConstraintSet}
    (h : d.decode coordinate arguments = .ok set)
    (hl : Entries.get? arguments a.name.text = some literal) :
    (literal = .null ∧ set.get? a.name = none) ∨ ∃ declared, set.get? a.name = some declared ∧
      d.decodeLiteral coordinate a (d.supply coordinate literal) = .ok declared := by
  obtain ⟨-, hg⟩ := decode_eq_ok_iff.mp h
  have hset : set.get? a.name = d.contribution? coordinate (d.supplyAll coordinate arguments) a :=
    get?_decodeGiven hn hg ha
  have hgiven : given? (d.supplyAll coordinate arguments) a = _ := given?_supplyAll hdef arguments
  rw [hl] at hgiven
  cases hnull : literal.isNull with
  | true =>
    left
    rw [Option.filter_some_neg (by simp [hnull]), Option.map_none] at hgiven
    rw [hset, contribution?, hgiven]
    cases literal with
    | null => exact ⟨rfl, rfl⟩
    | boolean | int | float | string | list | record => cases hnull
  | false =>
    right
    rw [Option.filter_some_pos (by simp [hnull]), Option.map_some] at hgiven
    obtain ⟨declared, hd⟩ := (decodeGiven_eq_ok_iff.mp hg).1 a ha _ hgiven
    refine ⟨declared, ?_, (decodeArgument_eq_ok hd).1⟩
    rw [hset, contribution?, hgiven, Option.bind_some, hd]
    rfl

end DirectiveDefinition

/-- The kind of value that a directive's constraints are about. -/
theorem DirectiveKey.kind_of_ofKind? {kind : ValueKind} {key : DirectiveKey}
    (h : ofKind? kind = some key) :
    kind = match key with
      | .numberValue => .number
      | .stringValue => .string
      | .list => .list := by
  cases kind <;> cases h <;> rfl

/-- What a standard directive decodes from a literal asks what the literal says, of every value of the
directive's kind, and the table of checks has a row for it. Only a list that need not be without
repetitions has none. A null declares nothing. Divisors and inner lists are apart. -/
theorem holds_decoded_iff_asks {d : DirectiveDefinition} {a : ArgumentDefinition}
    (hd : d ∈ Vocabulary.standard.definitions) (ha : a ∈ d.arguments)
    (hi : a.name ≠ .innerList) (hm : a.name ≠ .multipleOf)
    {coordinate : String} {arguments : List (String × Value)} {set : ConstraintSet}
    (h : d.decode coordinate arguments = .ok set) {literal : Value}
    (hl : Entries.get? arguments a.name.text = some literal) :
    (literal = .null ∧ set.get? a.name = none) ∨
      ∃ declared, set.get? a.name = some declared ∧
        ∀ value : Value, DirectiveKey.ofKind? value.kind = some d.key →
          (a.name.holds declared value = true ↔ a.name.Asks literal value) ∧
          (ConstraintName.HasRow value.kind a.name declared ∨
            a.name = .uniqueItems ∧ literal = .boolean false) := by
  have hdef : ∀ d ∈ Vocabulary.standard.definitions, ∀ a ∈ d.arguments, a.default = none := by
    simp [Vocabulary.standard, Vocabulary.numberValue, Vocabulary.stringValue, Vocabulary.list]
  have hn := (Vocabulary.isRegular_of_mem_standard hd).nodup
  refine (DirectiveDefinition.get?_decode hn ha (hdef d hd a ha) h hl).imp_right ?_
  rintro ⟨declared, hset, hdec⟩
  have hr : a.Reads literal declared := DirectiveDefinition.reads_of_decodeLiteral hdec
  refine ⟨declared, hset, fun value hv => ?_⟩
  simp only [Vocabulary.standard, List.mem_cons, List.not_mem_nil, or_false] at hd
  rcases hd with rfl | rfl | rfl
  · exact ConstraintName.agrees_number ha hm hr (DirectiveKey.kind_of_ofKind? hv)
  · exact ConstraintName.agrees_string ha hr (DirectiveKey.kind_of_ofKind? hv)
  · exact ConstraintName.agrees_list ha hi hr (DirectiveKey.kind_of_ofKind? hv)

/-- A single integer among the options for numbers is the only option, and is met by floats too. -/
theorem holds_decoded_iff_asks_of_single :
    Vocabulary.numberValue ∈ Vocabulary.standard.definitions ∧
    { name := .oneOf, type := .floats } ∈ Vocabulary.numberValue.arguments ∧
    ConstraintName.oneOf ≠ .innerList ∧ ConstraintName.oneOf ≠ .multipleOf ∧
    Vocabulary.numberValue.decode "Query.books" [("oneOf", .int 3)] =
      .ok [(.oneOf, .floats [.ofInt 3])] ∧
    Entries.get? [("oneOf", Value.int 3)] ConstraintName.oneOf.text = some (.int 3) ∧
    ∀ value : Value, DirectiveKey.ofKind? value.kind = some .numberValue →
      (ConstraintName.oneOf.holds (.floats [.ofInt 3]) value = true ↔
        ∃ option ∈ [Value.int 3], option.SameScalar value) := by
  have hd : Vocabulary.numberValue ∈ Vocabulary.standard.definitions := List.mem_cons_self ..
  have ha : { name := .oneOf, type := .floats } ∈ Vocabulary.numberValue.arguments := by
    simp [Vocabulary.numberValue]
  have hdec : Vocabulary.numberValue.decode "Query.books" [("oneOf", .int 3)] =
      .ok [(.oneOf, .floats [.ofInt 3])] := by
    rfl
  have hl : Entries.get? [("oneOf", Value.int 3)] ConstraintName.oneOf.text = some (.int 3) := rfl
  have hi : ConstraintName.oneOf ≠ .innerList := by decide
  have hm : ConstraintName.oneOf ≠ .multipleOf := by decide
  refine ⟨hd, ha, hi, hm, hdec, hl, ?_⟩
  rcases holds_decoded_iff_asks hd ha hi hm hdec hl with ⟨hnull, -⟩ | ⟨declared, hset, hall⟩
  · cases hnull
  · cases hset
    exact fun value hv => (hall value hv).1

end ConstraintDirectives
