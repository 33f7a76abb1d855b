import ConstraintDirectives.Proofs.Decoding
import ConstraintDirectives.Proofs.Matching

namespace ConstraintDirectives

namespace Value

/-- Literals that differ at most in the order of an object's properties, and so on inside the
properties. -/
inductive Reorders : Value → Value → Prop where
  | leaf {v : Value} : v.kind ≠ .record → Reorders v v
  | record {ps qs : List (String × Value)} :
      (∀ name, name ∈ Entries.keys ps ↔ name ∈ Entries.keys qs) →
      (∀ name x y, Entries.get? ps name = some x → Entries.get? qs name = some y → Reorders x y) →
      Reorders (.record ps) (.record qs)

namespace Reorders

theorem refl (v : Value) : v.Reorders v := by
  induction v using byParts with
  | null => exact .leaf nofun
  | scalar v hv => exact .leaf fun h => by rw [h] at hv; cases hv
  | list items _ => exact .leaf nofun
  | record ps ih =>
    refine .record (fun _ => Iff.rfl) fun name x y hx hy => ?_
    cases hx.symm.trans hy
    exact ih _ (Entries.mem_of_get? hx)

/-- Properties may come in another order, and be reordered inside. -/
theorem of_perm {ps ps' qs : List (String × Value)} (hn : (Entries.keys ps).Nodup)
    (h : Entries.Matches Reorders ps ps') (hp : ps'.Perm qs) :
    (Value.record ps).Reorders (.record qs) := by
  have hkeys : (Entries.keys ps).Perm (Entries.keys qs) := h.keys_eq ▸ hp.map Prod.fst
  refine .record (fun name => hkeys.mem_iff) fun name x y hx hy => ?_
  have hr := h.get? name
  rw [hx] at hr
  generalize hz : Entries.get? ps' name = o at hr
  cases hr with
  | some hr =>
    have hmem := hp.mem_iff.mp (Entries.mem_of_get? hz)
    cases (Entries.get?_of_mem (hkeys.nodup_iff.mp hn) hmem).symm.trans hy
    exact hr

end Reorders
end Value

inductive Supplied.Alike : Supplied → Supplied → Prop where
  | leaf (literal : Value) : Alike ⟨literal, none⟩ ⟨literal, none⟩
  | inner {ps qs : List (String × Value)} {r r' : Except DirectiveError ConstraintSet} :
      r.toOption = r'.toOption → Alike ⟨.record ps, some r⟩ ⟨.record qs, some r'⟩

namespace DirectiveDefinition
variable (d : DirectiveDefinition) (c c' : String)

private theorem toOption_decodePattern (a : ArgumentDefinition) (source : String) :
    (d.decodePattern c a source).toOption = (d.decodePattern c' a source).toOption := by
  rw [decodePattern, decodePattern]
  split <;> rfl

private theorem toOption_decodeLiteral (a : ArgumentDefinition) {s s' : Supplied} (h : s.Alike s') :
    (d.decodeLiteral c a s).toOption = (d.decodeLiteral c' a s').toOption := by
  cases h with
  | leaf literal =>
    simp only [decodeLiteral]
    split
    · next h => cases h
    · split
      · exact d.toOption_decodePattern c c' a _
      · rfl
    · split <;> rfl
  | inner hr =>
    simp only [decodeLiteral]
    cases ht : a.type with
    | listConstraints => simp only [Sequencing.toOption_map, hr]
    | _ => rfl

theorem toOption_decodeArgument (a : ArgumentDefinition) {s s' : Supplied} (h : s.Alike s') :
    (d.decodeArgument c a s).toOption = (d.decodeArgument c' a s').toOption := by
  rw [decodeArgument, decodeArgument, Sequencing.toOption_bind, Sequencing.toOption_bind,
    d.toOption_decodeLiteral c c' a h]
  congr 1
  funext declared
  split <;> rfl

section Supplied
variable {ss ss' : List (String × Supplied)}

private theorem given?_alike
    (h : ∀ name, Option.Rel Supplied.Alike (Entries.get? ss name) (Entries.get? ss' name))
    (a : ArgumentDefinition) : Option.Rel Supplied.Alike (given? ss a) (given? ss' a) := by
  have hfilter {s s' : Supplied} (hs : s.Alike s') : Option.Rel Supplied.Alike
      ((some s).filter (!·.literal.isNull)) ((some s').filter (!·.literal.isNull)) := by
    cases hs with
    | leaf literal =>
      cases hn : literal.isNull with
      | true => simp only [Option.filter_some, hn]; exact .none
      | false => simp only [Option.filter_some, hn]; exact .some (.leaf literal)
    | inner hr => exact .some (.inner hr)
  have hr := h a.name.text
  simp only [given?]
  generalize Entries.get? ss a.name.text = o at hr
  generalize Entries.get? ss' a.name.text = o' at hr
  cases hr with
  | some hs => exact hfilter hs
  | none =>
    cases a.default with
    | none => exact .none
    | some v => exact hfilter (.leaf v)

private theorem toOption_decodeGiven
    (h : ∀ name, Option.Rel Supplied.Alike (Entries.get? ss name) (Entries.get? ss' name))
    (arguments : List ArgumentDefinition) :
    (d.decodeGiven c ss arguments).toOption = (d.decodeGiven c' ss' arguments).toOption := by
  induction arguments with
  | nil => rfl
  | cons a rest ih =>
    have hg := given?_alike h a
    rw [decodeGiven, decodeGiven]
    generalize given? ss a = g at hg
    generalize given? ss' a = g' at hg
    cases hg with
    | none => exact ih
    | some hs =>
      simp only [Sequencing.toOption_bind, d.toOption_decodeArgument c c' a hs, ih]

private theorem toOption_decodeSupplied (hk : ∀ name, name ∈ Entries.keys ss ↔ name ∈ Entries.keys ss')
    (h : ∀ name, Option.Rel Supplied.Alike (Entries.get? ss name) (Entries.get? ss' name)) :
    (d.decodeSupplied c ss).toOption = (d.decodeSupplied c' ss').toOption := by
  have hunknown : (ss.find? fun e => (d.argument? e.1).isNone) = none ↔
      (ss'.find? fun e => (d.argument? e.1).isNone) = none := by
    rw [find?_unknown_eq_none, find?_unknown_eq_none]
    exact forall_congr' fun name => imp_congr_left (hk name)
  rw [decodeSupplied, decodeSupplied]
  cases hu : ss.find? fun e => (d.argument? e.1).isNone with
  | none =>
    rw [hunknown.mp hu]
    exact d.toOption_decodeGiven c c' h d.arguments
  | some e =>
    cases hu' : ss'.find? fun e => (d.argument? e.1).isNone with
    | none => rw [hunknown.mpr hu'] at hu; cases hu
    | some e' => rfl

end Supplied

private theorem supply_alike {v w : Value} (h : v.Reorders w) : (d.supply c v).Alike (d.supply c' w) := by
  induction h with
  | @leaf v hv =>
    cases v with
    | record => exact absurd rfl hv
    | _ => exact .leaf _
  | @record ps qs hk hv ih =>
    have hkeys (name : String) : name ∈ Entries.keys (d.supplyAll c ps) ↔
        name ∈ Entries.keys (d.supplyAll c' qs) := by
      rw [keys_supplyAll, keys_supplyAll, hk]
    rw [supply, supply]
    refine .inner (d.toOption_decodeSupplied c c' hkeys fun name =>
      Entries.rel_get? (hkeys name) fun s s' hs hs' => ?_)
    rw [get?_supplyAll, Option.map_eq_some_iff] at hs hs'
    obtain ⟨x, hx, rfl⟩ := hs
    obtain ⟨y, hy, rfl⟩ := hs'
    exact ih name x y hx hy

/-- What an application decodes to depends neither on the order of its arguments nor on the element. -/
theorem toOption_decode {ps qs : List (String × Value)} (h : (Value.record ps).Reorders (.record qs)) :
    (d.decode c ps).toOption = (d.decode c' qs).toOption := by
  have ha : Supplied.Alike ⟨.record ps, some (d.decode c ps)⟩ ⟨.record qs, some (d.decode c' qs)⟩ :=
    d.supply_alike c c' h
  cases ha with
  | inner hr => exact hr

end DirectiveDefinition
end ConstraintDirectives
