import Mathlib
import ConstraintDirectives.Proofs.Sequencing
import ConstraintDirectives.Proofs.Traversal
import ConstraintDirectives.Proofs.ValueOrder

/-! A call and a rearrangement of it are both accepted, or both rejected at the same place in the same
words. -/
namespace ConstraintDirectives

/-- Rejections that agree in everything but the order of properties in the value at fault. -/
inductive Rejection.Rearranges : Rejection → Rejection → Prop where
  | kindMismatch (path : ValuePath) (got : ValueKind) (expected : List DirectiveKey) :
      Rearranges (.kindMismatch path got expected) (.kindMismatch path got expected)
  | constraintViolation (path : ValuePath) (directive : DirectiveKey) (constraint : ConstraintName)
      (declared : Declared) {actual actual' : Value} (reason : String) : actual.Rearranges actual' →
      Rearranges (.constraintViolation path directive constraint declared actual reason)
        (.constraintViolation path directive constraint declared actual' reason)

theorem Rejection.Rearranges.refl (e : Rejection) : e.Rearranges e := by
  cases e with
  | kindMismatch path got expected => exact .kindMismatch path got expected
  | constraintViolation path directive constraint declared actual reason =>
    exact .constraintViolation path directive constraint declared reason (.refl actual)

namespace ConstraintName
variable {name : ConstraintName} {declared : Declared} {v w : Value}

/-- A list fails a constraint for the number of its items, or for a repetition among them. -/
theorem of_not_holds_list {items : List Value} (h : name.holds declared (.list items) = false) :
    name = .minItems ∨ name = .maxItems ∨ name = .uniqueItems := by
  cases name <;> simp_all [holds, holdsItems]

private theorem holds_congr (name : ConstraintName) (declared : Declared) (h : v.Rearranges w)
    (hd : v.Distinct) : name.holds declared v = name.holds declared w := by
  cases h with
  | leaf => rfl
  | record => rfl
  | @list xs ys hlen hitems =>
    have hrepeat := Value.firstRepeat?_congr (.list hlen hitems) hd
    simp only [holds, holdsItems, hlen, hrepeat]

/-- The words for a failure are the same. No record is ever shown in them. -/
theorem describe_congr (h : v.Rearranges w) (hd : v.Distinct)
    (hfails : name.holds declared v = false) : name.describe declared v = name.describe declared w := by
  cases h with
  | leaf => rfl
  | record => cases hfails
  | @list xs ys hlen hitems =>
    exact describe_items_eq (of_not_holds_list hfails) hlen
      (Value.firstRepeat?_congr (.list hlen hitems) hd) declared

end ConstraintName

namespace Validation
variable {α β γ : Type}

inductive Alike : Except Rejection α → Except Rejection α → Prop where
  | ok (a : α) : Alike (.ok a) (.ok a)
  | error {e e' : Rejection} : e.Rearranges e' → Alike (.error e) (.error e')

namespace Alike

theorem refl (r : Except Rejection α) : Alike r r := by
  cases r with
  | ok a => exact .ok a
  | error e => exact .error (.refl e)

theorem bind {r r' : Except Rejection α} {f f' : α → Except Rejection β} (h : Alike r r')
    (hf : ∀ a, Alike (f a) (f' a)) : Alike (r >>= f) (r' >>= f') := by
  cases h with
  | ok a => exact hf a
  | error he => exact .error he

theorem map {r r' : Except Rejection α} (h : Alike r r') (f : α → β) :
    Alike (r.map f) (r'.map f) := by
  cases h with
  | ok a => exact .ok (f a)
  | error he => exact .error he

private theorem foldlM {f f' : β → α → Except Rejection β} (l : List α)
    (h : ∀ s, ∀ a ∈ l, Alike (f s a) (f' s a)) (s : β) : Alike (l.foldlM f s) (l.foldlM f' s) := by
  induction l generalizing s with
  | nil => exact .ok s
  | cons a l ih =>
    rw [List.foldlM_cons, List.foldlM_cons]
    apply bind (h s a (List.mem_cons_self ..))
    exact fun s' => ih (fun s b hb => h s b (List.mem_cons_of_mem _ hb)) s'

private theorem forM {f f' : α → Except Rejection Unit} (l : List α) (h : ∀ a ∈ l, Alike (f a) (f' a)) :
    Alike (l.forM f) (l.forM f') := by
  induction l with
  | nil => exact .ok ()
  | cons a l ih =>
    rw [Sequencing.forM_cons, Sequencing.forM_cons]
    apply bind (h a (List.mem_cons_self ..))
    exact fun _ => ih fun b hb => h b (List.mem_cons_of_mem _ hb)

end Alike

variable {index : ConstraintIndex} {v w : Value}

private theorem checkSets_alike (path : ValuePath) (key : DirectiveKey) (h : v.Rearranges w)
    (hd : v.Distinct) (cs : List (ConstraintName × Declared)) :
    Alike (checkSets path key v cs) (checkSets path key w cs) := by
  have hholds (c : ConstraintName × Declared) : c.1.holds c.2 v = c.1.holds c.2 w :=
    c.1.holds_congr c.2 h hd
  rw [checkSets, checkSets]
  simp only [← hholds]
  split
  · next name declared hfind =>
    have hfails : name.holds declared v = false := by simpa using List.find?_some hfind
    rw [ConstraintName.describe_congr h hd hfails]
    exact .error (.constraintViolation path key name declared _ h)
  · exact .ok ()

private theorem checkItems_alike {xs ys : List Value}
    (h : List.Forall₂ (fun x y => ∀ view path, Alike (check index view path x) (check index view path y))
      xs ys) (view : InForce) (path : ValuePath) (i : Nat) :
    Alike (checkItems index view path i xs) (checkItems index view path i ys) := by
  induction h generalizing path i with
  | nil => exact .refl _
  | cons hxy _ ih =>
    rw [checkItems_cons, checkItems_cons]
    apply Alike.bind ((hxy view (path.push (.index i))).map ValuePath.pop)
    exact fun path => ih path (i + 1)

/-- The check of a value and of a rearrangement of it end alike. -/
theorem check_alike (h : v.Rearranges w) (hd : v.Distinct) (view : InForce) (path : ValuePath) :
    Alike (check index view path v) (check index view path w) := by
  induction h generalizing view path with
  | leaf => exact .refl _
  | @list xs ys hlen hitems ih =>
    have hlist : (Value.list xs).Rearranges (.list ys) := .list hlen hitems
    have hd' := Value.distinct_list.mp hd
    rw [check, check]
    apply Alike.bind (checkSets_alike path .list hlist hd _)
    intro _
    refine checkItems_alike (List.forall₂_iff_get.mpr ⟨hlen, fun i hi hi' => ?_⟩) _ path 0
    exact ih i _ _ (List.getElem?_eq_getElem hi) (List.getElem?_eq_getElem hi')
      (hd' _ (List.getElem_mem hi))
  | @record ps qs hk hps ih =>
    have hrecord : (Value.record ps).Rearranges (.record qs) := .record hk hps
    have hd' := (Value.distinct_record.mp hd).2
    rw [check, check]
    refine Alike.foldlM _ (fun path name _ => ?_) path
    rw [checkProperty_eq, checkProperty_eq]
    have hget := hrecord.get? name
    generalize hx : Entries.get? ps name = o, hy : Entries.get? qs name = o' at hget
    cases hget with
    | none => exact .ok path
    | @some x y _ =>
      exact (ih name x y hx hy (hd' _ (Entries.mem_of_get? hx)) _ _).map ValuePath.pop

end Validation

namespace ConstraintIndex
open Validation

/-- What an argument is given. Null counts as nothing. -/
def given? (supplied : List (String × Value)) (name : String) : Option Value :=
  (Entries.get? supplied name).filter (!·.isNull)

/-- Two ways to supply the same to a field: each of its constrained arguments is given the same value up to
the order of properties, or nothing in both. The order of arguments and what else is supplied are free. -/
def SuppliedAlike (index : ConstraintIndex) (key : FieldCoordinate)
    (supplied supplied' : List (String × Value)) : Prop :=
  ∀ name, (index.argumentTree? key name).isSome = true →
    Option.Rel Value.Rearranges (given? supplied name) (given? supplied' name)

def checkArgument (index : ConstraintIndex) (name : String) (tree : ConstraintTree) :
    Option Value → Except Rejection Unit
  | some value => (check index (.ofTrees index [tree]) (.argument name) value).map fun _ => ()
  | none => .ok ()

private theorem checkArgument_given? (index : ConstraintIndex) (name : String) (tree : ConstraintTree)
    (supplied : List (String × Value)) :
    index.checkArgument name tree (Entries.get? supplied name) =
      index.checkArgument name tree (given? supplied name) := by
  rw [given?]
  cases Entries.get? supplied name with
  | none => rfl
  | some value => cases value <;> rfl

private theorem validateCall_eq {index : ConstraintIndex} {key : FieldCoordinate}
    {trees : OrderedMap String ConstraintTree} (ht : index.fieldTrees? key = some trees)
    (supplied : List (String × Value)) : index.validateCall key supplied =
      trees.entries.forM fun e => index.checkArgument e.1 e.2 (given? supplied e.1) := by
  rw [validateCall, ht]
  apply Sequencing.forM_congr
  rintro ⟨name, tree⟩ _
  simp only [← checkArgument_given?]
  cases Entries.get? supplied name <;> rfl

/-- Calls that supply the same to a field are both accepted, or rejected with the same path, directive,
constraint, declared value, kinds and words. -/
theorem validateCall_alike (index : ConstraintIndex) (key : FieldCoordinate)
    {supplied supplied' : List (String × Value)} (hd : (Value.record supplied).Distinct)
    (h : index.SuppliedAlike key supplied supplied') :
    Alike (index.validateCall key supplied) (index.validateCall key supplied') := by
  cases ht : index.fieldTrees? key with
  | none =>
    rw [validateCall, validateCall, ht]
    exact .ok ()
  | some trees =>
    rw [validateCall_eq ht, validateCall_eq ht]
    apply Alike.forM
    rintro ⟨name, tree⟩ hm
    have htree : index.argumentTree? key name = some tree := by
      rw [argumentTree?, ht]
      exact Entries.get?_of_mem trees.nodup hm
    have hgiven := h name (by rw [htree]; rfl)
    generalize hv : given? supplied name = o, given? supplied' name = o' at hgiven
    cases hgiven with
    | none => exact .ok ()
    | @some value value' hr =>
      obtain ⟨hget, -⟩ := Option.filter_eq_some_iff.mp hv
      have hdistinct : value.Distinct :=
        (Value.distinct_record.mp hd).2 _ (Entries.mem_of_get? hget)
      exact (check_alike hr hdistinct _ _).map _

set_option maxRecDepth 8000 in
/-- A repeated filter is refused, whatever the order of its parts, of the arguments, and whatever else is
supplied. -/
theorem validateCall_alike_of_repeated_filter :
    let unique : ConstraintTree := ⟨[(.list, [[(.uniqueItems, .boolean true)]])], [], []⟩
    let index : ConstraintIndex :=
      ⟨[], .ofList [(⟨"Query", "find"⟩, .ofList [("first", unique), ("by", unique)])]⟩
    let filter : Value := .record [("of", .null), ("up", .boolean true)]
    let turned : Value := .record [("up", .boolean true), ("of", .null)]
    let supplied : List (String × Value) := [("by", .list [filter, .null, turned])]
    let supplied' : List (String × Value) :=
      [("note", .boolean true), ("first", .null), ("by", .list [turned, .null, turned])]
    let refusal (items : List Value) : Rejection :=
      .constraintViolation [.key "by"] .list .uniqueItems (.boolean true) (.list items)
        "items at index 0 and 2 are equal, violating uniqueItems"
    (Value.record supplied).Distinct ∧ index.SuppliedAlike ⟨"Query", "find"⟩ supplied supplied' ∧
      index.validateCall ⟨"Query", "find"⟩ supplied = .error (refusal [filter, .null, turned]) ∧
      index.validateCall ⟨"Query", "find"⟩ supplied' = .error (refusal [turned, .null, turned]) ∧
      Alike (index.validateCall ⟨"Query", "find"⟩ supplied)
        (index.validateCall ⟨"Query", "find"⟩ supplied') := by
  intro unique index filter turned supplied supplied' refusal
  have hleaf : Value.null.Distinct ∧ (Value.boolean true).Distinct :=
    ⟨.leaf nofun nofun, .leaf nofun nofun⟩
  have hd : (Value.record supplied).Distinct := by
    simp [supplied, filter, turned, Entries.keys, hleaf]
  have hturned : filter.Rearranges turned := .of_perm (by decide) (.swap ..)
  have hby : (Value.list [filter, .null, turned]).Rearranges (.list [turned, .null, turned]) := by
    refine .list rfl fun i x y hx hy => ?_
    match i, hx, hy with
    | 0, rfl, rfl => exact hturned
    | 1, rfl, rfl => exact .refl _
    | 2, rfl, rfl => exact .refl _
  have halike : index.SuppliedAlike ⟨"Query", "find"⟩ supplied supplied' := by
    intro name hname
    have hnames : name = "first" ∨ name = "by" := by
      have hget : index.argumentTree? ⟨"Query", "find"⟩ name =
          Entries.get? [("first", unique), ("by", unique)] name := rfl
      rw [hget, ← Entries.mem_keys_iff] at hname
      simpa [Entries.keys] using hname
    rcases hnames with rfl | rfl
    · exact .none
    · exact .some hby
  exact ⟨hd, halike, by cbv, by cbv, index.validateCall_alike _ hd halike⟩

end ConstraintIndex
end ConstraintDirectives
