import ConstraintDirectives.Proofs.ExplicitNulls

/-! Where no inner list has an object as its default, decoding ends, and nested calls are for objects
that were written. -/
namespace ConstraintDirectives

mutual
/-- How deep objects nest in a literal, not counting those in lists. -/
def Value.nesting : Value → Nat
  | .record properties => Value.nestingAll properties + 1
  | _ => 0

def Value.nestingAll : List (String × Value) → Nat
  | [] => 0
  | (_, literal) :: rest => max literal.nesting (Value.nestingAll rest)
end

private theorem Value.nesting_le_nestingAll {arguments : List (String × Value)} {p : String × Value}
    (hp : p ∈ arguments) : p.2.nesting ≤ nestingAll arguments := by
  induction arguments with
  | nil => cases hp
  | cons q rest ih =>
    rw [nestingAll]
    rcases List.mem_cons.mp hp with rfl | hp
    · exact Nat.le_max_left ..
    · exact Nat.le_trans (ih hp) (Nat.le_max_right ..)

/-- A call for the object given for an inner list. The places of the arguments that lead there, the
innermost first, say which object that is. -/
structure NestedCall where
  site : List Nat
  object : List (String × Value)

/-- What may be cut short where calls nest too deep, with the nested calls that are made. -/
abbrev Calls := ExceptT DirectiveError (StateT (List NestedCall) Option)

namespace Calls
variable {α β : Type}

def tooDeep : Calls α := .mk fun _ => none

def note (call : NestedCall) : Calls Unit := .mk fun log => some (.ok (), log ++ [call])

def Runs (x : Calls α) (result : Except DirectiveError α) (calls : List NestedCall) : Prop :=
  ∀ log, x.run.run log = some (result, log ++ calls)

theorem runs_lift (result : Except DirectiveError α) : Runs (liftM result) result [] := by
  intro log
  rw [List.append_nil]
  rfl

theorem runs_throw (err : DirectiveError) : Runs (throw err : Calls α) (.error err) [] :=
  runs_lift (.error err)

theorem runs_pure (a : α) : Runs (pure a) (.ok a) [] := runs_lift (.ok a)

private theorem runs_note (call : NestedCall) : Runs (note call) (.ok ()) [call] := fun _ => rfl

variable {x : Calls α} {f : α → Calls β} {calls calls' : List NestedCall}

theorem run_bind (x : Calls α) (f : α → Calls β) (log : List NestedCall) :
    (x >>= f).run.run log = (x.run.run log).bind fun r =>
      match r.1 with
      | .ok a => (f a).run.run r.2
      | .error err => some (.error err, r.2) := by
  change (x.run.run log).bind _ = _
  congr 1
  funext r
  obtain ⟨_ | a, log'⟩ := r <;> rfl

private theorem run_bind_of_eq_none {log : List NestedCall} (h : x.run.run log = none) (f : α → Calls β) :
    (x >>= f).run.run log = none := by
  rw [run_bind, h]
  rfl

theorem Runs.bind {a : α} {result : Except DirectiveError β} (hx : Runs x (.ok a) calls)
    (hf : Runs (f a) result calls') : Runs (x >>= f) result (calls ++ calls') := by
  intro log
  rw [run_bind, hx, Option.bind_some]
  dsimp only
  rw [hf, List.append_assoc]

/-- Steps that make no calls may follow. -/
theorem Runs.bind_quiet {result : Except DirectiveError α} {g : α → Except DirectiveError β}
    (hx : Runs x result calls) (hf : ∀ a, Runs (f a) (g a) []) :
    Runs (x >>= f) (result >>= g) calls := by
  intro log
  rw [run_bind, hx, Option.bind_some]
  cases result with
  | error err => rfl
  | ok a =>
    dsimp only
    rw [hf a, List.append_nil]
    rfl

theorem Runs.bind_error {err : DirectiveError} (hx : Runs x (.error err) calls) :
    Runs (x >>= f) (.error err) calls := by
  intro log
  rw [run_bind, hx]
  rfl

/-- What holds of the calls of every step holds of all calls. -/
theorem exists_runs_foldlM {step : Nat → β → α → Calls β} {plain : β → α → Except DirectiveError β}
    {enough : Nat → Prop} {P : NestedCall → Prop} {l : List α}
    (h : ∀ x ∈ l, ∀ s, ∃ calls, (∀ c ∈ calls, P c) ∧
      ∀ depth, enough depth → Runs (step depth s x) (plain s x) calls) (s : β) :
    ∃ calls, (∀ c ∈ calls, P c) ∧
      ∀ depth, enough depth → Runs (l.foldlM (step depth) s) (l.foldlM plain s) calls := by
  induction l generalizing s with
  | nil => exact ⟨[], nofun, fun _ _ => runs_pure s⟩
  | cons x l ih =>
    obtain ⟨hx, hl⟩ := List.forall_mem_cons.mp h
    obtain ⟨own, hown, hruns⟩ := hx s
    simp only [List.foldlM_cons]
    cases hs : plain s x with
    | error err =>
      refine ⟨own, hown, fun depth hdepth => ?_⟩
      have hfails := hruns depth hdepth
      rw [hs] at hfails
      exact hfails.bind_error
    | ok s' =>
      obtain ⟨later, hlater, hrest⟩ := ih hl s'
      refine ⟨own ++ later, List.forall_mem_append.mpr ⟨hown, hlater⟩, fun depth hdepth => ?_⟩
      have hpasses := hruns depth hdepth
      rw [hs] at hpasses
      exact hpasses.bind (hrest depth hdepth)

end Calls

namespace DirectiveDefinition
variable (d : DirectiveDefinition) (coordinate : String)

def literal? (arguments : List (String × Value)) (a : ArgumentDefinition) : Option Value :=
  ((Entries.get? arguments a.name.text) <|> a.default).filter (!·.isNull)

def callArgument (call : List (String × Value) → Calls ConstraintSet) (a : ArgumentDefinition) :
    Value → Calls Declared
  | .record inner =>
    if a.type = .listConstraints then do
      let set ← call inner
      liftM (d.decodeArgument coordinate a ⟨.record inner, some (.ok set)⟩)
    else liftM (d.decodeArgument coordinate a { literal := .record inner })
  | literal => liftM (d.decodeArgument coordinate a { literal })

def callGiven (call : Nat → List (String × Value) → Calls ConstraintSet)
    (arguments : List (String × Value)) : Nat → List ArgumentDefinition → Calls ConstraintSet
  | _, [] => return []
  | i, a :: rest =>
    match literal? arguments a with
    | none => callGiven call arguments (i + 1) rest
    | some literal => do
      let declared ← d.callArgument coordinate (call i) a literal
      return (a.name, declared) :: (← callGiven call arguments (i + 1) rest)

/-- Decoding with calls nested to some depth at most, and no measure of what is left to decode. -/
def decodeWithin : Nat → List Nat → List (String × Value) → Calls ConstraintSet
  | 0, _, _ => .tooDeep
  | depth + 1, site, arguments =>
    match d.unknown? (Entries.keys arguments) with
    | some name => throw (.unknownArgument coordinate d.key name)
    | none =>
      d.callGiven coordinate (fun i inner => do
        Calls.note ⟨i :: site, inner⟩
        decodeWithin depth (i :: site) inner) arguments 0 d.arguments

/-- Calls that are made below some of the arguments at a site. Each is for an object that was written,
and no two are for the same. -/
structure CallsBelow (arguments : List (String × Value)) (site : List Nat) (places : Nat → Prop)
    (calls : List NestedCall) : Prop where
  nodup : (calls.map (·.site)).Nodup
  reached : ∀ c ∈ calls, d.Reaches arguments c.site c.object
  below : ∀ c ∈ calls, ∃ i, places i ∧ (i :: site) <:+ c.site

def EndsBelow {α : Type} (arguments : List (String × Value)) (site : List Nat) (places : Nat → Prop)
    (bound : Nat) (x : Nat → Calls α) (result : Except DirectiveError α) : Prop :=
  ∃ calls, d.CallsBelow arguments site places calls ∧
    ∀ depth, bound ≤ depth → (x depth).Runs result calls

variable {d} {coordinate} {arguments top : List (String × Value)} {site : List Nat}
  {places places' : Nat → Prop} {calls calls' : List NestedCall} {a : ArgumentDefinition}

theorem CallsBelow.nil : d.CallsBelow top site places [] :=
  ⟨List.nodup_nil, nofun, nofun⟩

theorem CallsBelow.mono (h : d.CallsBelow top site places calls)
    (hp : ∀ i, places i → places' i) : d.CallsBelow top site places' calls := by
  refine ⟨h.nodup, h.reached, fun c hc => ?_⟩
  obtain ⟨i, hi, hsite⟩ := h.below c hc
  exact ⟨i, hp i hi, hsite⟩

/-- Calls below different arguments are different. -/
theorem CallsBelow.append (h : d.CallsBelow top site places calls)
    (h' : d.CallsBelow top site places' calls') (hp : ∀ i, places i → ¬ places' i) :
    d.CallsBelow top site (fun i => places i ∨ places' i) (calls ++ calls') where
  nodup := by
    rw [List.map_append, List.nodup_append]
    refine ⟨h.nodup, h'.nodup, fun s hs s' hs' he => ?_⟩
    subst he
    obtain ⟨c, hc, rfl⟩ := List.mem_map.mp hs
    obtain ⟨c', hc', hsame⟩ := List.mem_map.mp hs'
    obtain ⟨i, hi, hsuffix⟩ := h.below c hc
    obtain ⟨j, hj, hsuffix'⟩ := h'.below c' hc'
    rw [hsame] at hsuffix'
    have hle : (i :: site).length ≤ (j :: site).length := Nat.le_refl _
    have hij : i :: site = j :: site :=
      (List.suffix_of_suffix_length_le hsuffix hsuffix' hle).eq_of_length rfl
    cases hij
    exact hp i hi hj
  reached := List.forall_mem_append.mpr ⟨h.reached, h'.reached⟩
  below := by
    refine List.forall_mem_append.mpr ⟨fun c hc => ?_, fun c hc => ?_⟩
    · obtain ⟨i, hi, hsite⟩ := h.below c hc
      exact ⟨i, .inl hi, hsite⟩
    · obtain ⟨i, hi, hsite⟩ := h'.below c hc
      exact ⟨i, .inr hi, hsite⟩

/-- A call, with those that it nests, is below the argument that it is made for. -/
theorem CallsBelow.cons {inner : List (String × Value)} {i : Nat}
    (h : d.CallsBelow top (i :: site) places calls) (hr : d.Reaches top (i :: site) inner) :
    d.CallsBelow top site (· = i) (⟨i :: site, inner⟩ :: calls) where
  nodup := by
    rw [List.map_cons, List.nodup_cons]
    refine ⟨fun hm => ?_, h.nodup⟩
    obtain ⟨c, hc, (hsite : c.site = i :: site)⟩ := List.mem_map.mp hm
    obtain ⟨j, -, hsuffix⟩ := h.below c hc
    rw [hsite] at hsuffix
    exact Nat.not_succ_le_self _ hsuffix.length_le
  reached := List.forall_mem_cons.mpr ⟨hr, h.reached⟩
  below := by
    refine List.forall_mem_cons.mpr ⟨⟨i, rfl, List.suffix_rfl⟩, fun c hc => ?_⟩
    obtain ⟨j, -, hsuffix⟩ := h.below c hc
    exact ⟨i, rfl, (List.suffix_cons j _).trans hsuffix⟩

section Bound
variable {α β : Type} {bound : Nat} {x : Nat → Calls α} {result : Except DirectiveError α}

private theorem EndsBelow.of_quiet (h : ∀ depth, bound ≤ depth → (x depth).Runs result []) :
    d.EndsBelow top site places bound x result :=
  ⟨[], .nil, h⟩

private theorem EndsBelow.mono (h : d.EndsBelow top site places bound x result)
    (hp : ∀ i, places i → places' i) : d.EndsBelow top site places' bound x result := by
  obtain ⟨calls, hbelow, hruns⟩ := h
  exact ⟨calls, hbelow.mono hp, hruns⟩

private theorem EndsBelow.bind_quiet {f : α → Calls β} {g : α → Except DirectiveError β}
    (h : d.EndsBelow top site places bound x result) (hf : ∀ a, (f a).Runs (g a) []) :
    d.EndsBelow top site places bound (fun depth => x depth >>= f) (result >>= g) := by
  obtain ⟨calls, hbelow, hruns⟩ := h
  exact ⟨calls, hbelow, fun depth hdepth => (hruns depth hdepth).bind_quiet hf⟩

/-- What follows may make calls below other arguments. -/
theorem EndsBelow.bind {f : Nat → α → Calls β} {g : α → Except DirectiveError β}
    (h : d.EndsBelow top site places bound x result)
    (hf : ∀ a, d.EndsBelow top site places' bound (f · a) (g a))
    (hp : ∀ i, places i → ¬ places' i) :
    d.EndsBelow top site (fun i => places i ∨ places' i) bound
      (fun depth => x depth >>= f depth) (result >>= g) := by
  obtain ⟨calls, hbelow, hruns⟩ := h
  cases result with
  | error err =>
    exact ⟨calls, hbelow.mono fun _ => .inl, fun depth hdepth => (hruns depth hdepth).bind_error⟩
  | ok a =>
    obtain ⟨later, hlater, hrest⟩ := hf a
    exact ⟨calls ++ later, hbelow.append hlater hp,
      fun depth hdepth => (hruns depth hdepth).bind (hrest depth hdepth)⟩

private theorem EndsBelow.noted {inner : List (String × Value)} {i : Nat}
    (h : d.EndsBelow top (i :: site) places bound x result)
    (hr : d.Reaches top (i :: site) inner) :
    d.EndsBelow top site (· = i) bound
      (fun depth => do
        Calls.note ⟨i :: site, inner⟩
        x depth) result := by
  obtain ⟨calls, hbelow, hruns⟩ := h
  exact ⟨⟨i :: site, inner⟩ :: calls, hbelow.cons hr,
    fun depth hdepth => (Calls.runs_note _).bind (hruns depth hdepth)⟩

end Bound

/-! ### Arguments -/

/-- A default that may be an object is of no inner list, so it is refused like a written one. -/
theorem decodeArgument_supply {v : Value} (h : a.type = .listConstraints → v.kind ≠ .record) :
    d.decodeArgument coordinate a (d.supply coordinate v) =
      d.decodeArgument coordinate a { literal := v } := by
  by_cases hv : v.kind = .record
  · cases v with
    | record inner =>
      have ht : a.type ≠ .listConstraints := fun ht => h ht rfl
      rw [supply, decodeArgument, decodeArgument, decodeLiteral_record ht, decodeLiteral_record ht]
    | null | boolean | int | float | string | list => cases hv
  · rw [supply_of_not_record hv]

private theorem decodeArgument_supply_record (ht : a.type = .listConstraints)
    (inner : List (String × Value)) :
    d.decodeArgument coordinate a (d.supply coordinate (.record inner)) =
      d.decode coordinate inner >>= fun set =>
        d.decodeArgument coordinate a ⟨.record inner, some (.ok set)⟩ := by
  rw [supply, ← decode]
  cases hd : d.decode coordinate inner with
  | error err =>
    rw [decodeArgument, decodeLiteral, ht]
    rfl
  | ok set => rfl

theorem not_record_of_isNestedDefault {v : Value} (ha : Vocabulary.isNestedDefault a = false)
    (hv : a.default = some v) (ht : a.type = .listConstraints) : v.kind ≠ .record := by
  intro hrecord
  cases v with
  | record inner =>
    rw [Vocabulary.isNestedDefault, hv, ht] at ha
    cases ha
  | null | boolean | int | float | string | list => cases hrecord

private theorem map_given?_eq_map_literal? (ha : Vocabulary.isNestedDefault a = false)
    (arguments : List (String × Value)) :
    (given? (d.supplyAll coordinate arguments) a).map (d.decodeArgument coordinate a) =
      (literal? arguments a).map fun v =>
        d.decodeArgument coordinate a (d.supply coordinate v) := by
  rw [given?, get?_supplyAll, literal?]
  cases Entries.get? arguments a.name.text with
  | some v =>
    change ((some (d.supply coordinate v)).filter _).map _ = ((some v).filter _).map _
    rw [Option.filter_some, Option.filter_some, literal_supply]
    cases v.isNull <;> rfl
  | none =>
    cases hv : a.default with
    | none => rfl
    | some v =>
      change ((some _).filter _).map _ = ((some v).filter _).map _
      rw [Option.filter_some, Option.filter_some]
      cases v.isNull with
      | true => rfl
      | false =>
        exact congrArg some
          (decodeArgument_supply (not_record_of_isNestedDefault ha hv)).symm

private theorem decodeGiven_cons (ha : Vocabulary.isNestedDefault a = false)
    (arguments : List (String × Value)) (rest : List ArgumentDefinition) :
    d.decodeGiven coordinate (d.supplyAll coordinate arguments) (a :: rest) =
      match literal? arguments a with
      | none => d.decodeGiven coordinate (d.supplyAll coordinate arguments) rest
      | some v => do
        let declared ← d.decodeArgument coordinate a (d.supply coordinate v)
        return (a.name, declared) ::
          (← d.decodeGiven coordinate (d.supplyAll coordinate arguments) rest) := by
  have hmap : (given? (d.supplyAll coordinate arguments) a).map (d.decodeArgument coordinate a) = _ :=
    map_given?_eq_map_literal? ha arguments
  rw [decodeGiven]
  cases hl : literal? arguments a with
  | none =>
    rw [hl, Option.map_none, Option.map_eq_none_iff] at hmap
    rw [hmap]
  | some v =>
    rw [hl, Option.map_some, Option.map_eq_some_iff] at hmap
    obtain ⟨s, hs, hdecode⟩ := hmap
    rw [hs]
    dsimp only
    rw [hdecode]

/-- An object that is decoded for an inner list was written. -/
theorem get?_of_literal?_record {inner : List (String × Value)}
    (ha : Vocabulary.isNestedDefault a = false) (ht : a.type = .listConstraints)
    (h : literal? arguments a = some (.record inner)) :
    Entries.get? arguments a.name.text = some (.record inner) := by
  obtain ⟨h, -⟩ := Option.filter_eq_some_iff.mp h
  cases hg : Entries.get? arguments a.name.text with
  | some v =>
    rw [hg] at h
    exact h
  | none =>
    rw [hg] at h
    exact absurd rfl (not_record_of_isNestedDefault ha h ht)

/-! ### Nested calls -/

section Depth
variable {bound : Nat} {call : Nat → Nat → List (String × Value) → Calls ConstraintSet}

private theorem callArgument_ends {i : Nat} {v : Value} (ha : Vocabulary.isNestedDefault a = false)
    (hv : literal? arguments a = some v)
    (hcall : ∀ inner, a.type = .listConstraints →
      Entries.get? arguments a.name.text = some (.record inner) →
      d.EndsBelow top site (· = i) bound (call · i inner) (d.decode coordinate inner)) :
    d.EndsBelow top site (· = i) bound (fun depth => d.callArgument coordinate (call depth i) a v)
      (d.decodeArgument coordinate a (d.supply coordinate v)) := by
  by_cases hnests : a.type = .listConstraints ∧ v.kind = .record
  · obtain ⟨ht, hrecord⟩ := hnests
    cases v with
    | record inner =>
      simp only [callArgument, if_pos ht]
      rw [decodeArgument_supply_record ht]
      exact (hcall inner ht (get?_of_literal?_record ha ht hv)).bind_quiet fun _ =>
        Calls.runs_lift _
    | null | boolean | int | float | string | list => cases hrecord
  · refine .of_quiet fun depth _ => ?_
    have hplain : d.callArgument coordinate (call depth i) a v =
        liftM (d.decodeArgument coordinate a { literal := v }) := by
      cases v with
      | record inner => exact if_neg fun ht => hnests ⟨ht, rfl⟩
      | null | boolean | int | float | string | list => rfl
    rw [hplain, decodeArgument_supply fun ht hrecord => hnests ⟨ht, hrecord⟩]
    exact Calls.runs_lift _

/-- One argument after the other, each with the calls that it needs. -/
theorem callGiven_ends (hd : ∀ a ∈ d.arguments, Vocabulary.isNestedDefault a = false)
    (hcall : ∀ i a inner, d.arguments[i]? = some a → a.type = .listConstraints →
      Entries.get? arguments a.name.text = some (.record inner) →
      d.EndsBelow top site (· = i) bound (call · i inner) (d.decode coordinate inner))
    {i : Nat} {rest : List ArgumentDefinition} (hrest : d.arguments.drop i = rest) :
    d.EndsBelow top site (i ≤ ·) bound
      (fun depth => d.callGiven coordinate (call depth) arguments i rest)
      (d.decodeGiven coordinate (d.supplyAll coordinate arguments) rest) := by
  induction rest generalizing i with
  | nil => exact .of_quiet fun depth _ => Calls.runs_pure _
  | cons a rest ih =>
    have hi : d.arguments[i]? = some a := by
      rw [← List.head?_drop, hrest, List.head?_cons]
    have ha : Vocabulary.isNestedDefault a = false := hd a (List.mem_of_getElem? hi)
    have hlater : d.arguments.drop (i + 1) = rest := by
      rw [← List.tail_drop, hrest, List.tail_cons]
    rw [decodeGiven_cons ha]
    simp only [callGiven]
    cases hv : literal? arguments a with
    | none => exact (ih hlater).mono fun j hj => Nat.le_of_succ_le hj
    | some v =>
      have hown := callArgument_ends ha hv fun inner => hcall i a inner hi
      have hset (declared : Declared) := (ih hlater).bind_quiet fun set =>
        Calls.runs_pure ((a.name, declared) :: set)
      refine (hown.bind hset fun j hj => ?_).mono fun j hj => ?_
      · omega
      · omega

end Depth

/-- Decoding ends as soon as calls may nest deeper than the objects that were written. -/
theorem decode_ends (hd : ∀ a ∈ d.arguments, Vocabulary.isNestedDefault a = false)
    (coordinate : String) (hr : d.Reaches top site arguments) :
    d.EndsBelow top site (fun _ => True) (Value.nestingAll arguments + 1)
      (d.decodeWithin coordinate · site arguments) (d.decode coordinate arguments) := by
  induction arguments using byObjects generalizing site with
  | step arguments ih =>
    rw [decode_eq]
    cases hunknown : d.unknown? (Entries.keys arguments) with
    | some name =>
      refine .of_quiet fun depth hdepth => ?_
      obtain ⟨depth, rfl⟩ := Nat.exists_eq_succ_of_ne_zero (Nat.ne_zero_of_lt hdepth)
      rw [decodeWithin, hunknown]
      exact Calls.runs_throw _
    | none =>
      have hcall : ∀ i a inner, d.arguments[i]? = some a → a.type = .listConstraints →
          Entries.get? arguments a.name.text = some (.record inner) →
          d.EndsBelow top site (· = i) (Value.nestingAll arguments)
            (fun depth => do
              Calls.note ⟨i :: site, inner⟩
              d.decodeWithin coordinate depth (i :: site) inner)
            (d.decode coordinate inner) := by
        intro i a inner hi ht hv
        have hmem := Entries.mem_of_get? hv
        have hreaches : d.Reaches top (i :: site) inner := hr.inner hi ht hv
        have hnesting : Value.nestingAll inner + 1 ≤ Value.nestingAll arguments := by
          have hle := Value.nesting_le_nestingAll hmem
          rwa [Value.nesting] at hle
        obtain ⟨calls, hbelow, hruns⟩ := (ih _ hmem inner rfl hreaches).noted hreaches
        exact ⟨calls, hbelow, fun depth hdepth => hruns depth (Nat.le_trans hnesting hdepth)⟩
      obtain ⟨calls, hbelow, hruns⟩ := callGiven_ends hd hcall (List.drop_zero ..)
      refine ⟨calls, hbelow.mono fun _ _ => trivial, fun depth hdepth => ?_⟩
      -- One level is used up by the arguments themselves, the others are left for the calls.
      obtain ⟨depth, rfl⟩ := Nat.exists_eq_succ_of_ne_zero (Nat.ne_zero_of_lt hdepth)
      dsimp only
      rw [decodeWithin, hunknown]
      exact hruns depth (Nat.le_of_succ_le_succ hdepth)

/-- A default for an inner list that leaves the inner list out again is decoded inside itself, so no depth
is enough. -/
theorem decodeWithin_of_nested_default {rest : List ArgumentDefinition}
    {inner : List (String × Value)} (hd : d.arguments = a :: rest) (ht : a.type = .listConstraints)
    (hdefault : a.default = some (.record inner)) (hknown : d.unknown? (Entries.keys inner) = none)
    (hfree : Entries.get? inner a.name.text = none) (depth : Nat) {log : List NestedCall}
    (harguments : d.unknown? (Entries.keys arguments) = none)
    (habsent : Entries.get? arguments a.name.text = none) :
    (d.decodeWithin coordinate depth site arguments).run.run log = none := by
  induction depth generalizing site arguments log with
  | zero => rfl
  | succ depth ih =>
    have hliteral : literal? arguments a = some (.record inner) := by
      rw [literal?, habsent, hdefault]
      rfl
    have hcall : (do
        Calls.note ⟨0 :: site, inner⟩
        d.decodeWithin coordinate depth (0 :: site) inner).run.run log = none := by
      rw [Calls.run_bind, Calls.runs_note]
      exact ih hknown hfree
    rw [decodeWithin, harguments, hd]
    simp only [callGiven, hliteral, callArgument, ht, if_true]
    exact Calls.run_bind_of_eq_none (Calls.run_bind_of_eq_none hcall _) _

end DirectiveDefinition
end ConstraintDirectives
