import ConstraintDirectives.Proofs.Acceptance
import ConstraintDirectives.Proofs.Multiples
import ConstraintDirectives.Proofs.Sameness

/-! Integers supplied as floats. A value is accepted in either form, except where rounding tells the
forms apart. -/
namespace ConstraintDirectives

namespace Value

/-- The same value with some of its integers, all of them exact, as floats. -/
inductive Recasts : Value → Value → Prop where
  | leaf {v : Value} : v.kind ≠ .list → v.kind ≠ .record → Recasts v v
  | number {i : Int64} : Binary64.IsExact i.toInt → Recasts (.int i) (.float (.ofInt i.toInt))
  | list {xs ys : List Value} : xs.length = ys.length →
      (∀ (k : Nat) x y, xs[k]? = some x → ys[k]? = some y → Recasts x y) →
      Recasts (.list xs) (.list ys)
  | record {ps qs : List (String × Value)} : Entries.keys ps = Entries.keys qs →
      (∀ name x y, Entries.get? ps name = some x → Entries.get? qs name = some y →
        Recasts x y) → Recasts (.record ps) (.record qs)

def RecastAt (v w : Value) (path : ValuePath) (i : Int64) : Prop :=
  v.part? path = some (.int i) ∧ w.part? path = some (.float (.ofInt i.toInt))

/-- An integer becomes a float that a different integer, at its place in a further value, is rounded to. -/
def Confuses (v w other : Value) : Prop :=
  ∃ path i j, v.RecastAt w path i ∧ other.part? path = some (.int j) ∧ j ≠ i ∧
    (Binary64.ofInt j.toInt).equal (.ofInt i.toInt) = true

/-- An item of the one list is confused, in its form in the other, with a further item. -/
def ConfusesItems (xs ys : List Value) : Prop :=
  ∃ (k l : Nat) (x y z : Value), k ≠ l ∧ xs[k]? = some x ∧ ys[k]? = some y ∧ xs[l]? = some z ∧
    x.Confuses y z

namespace Recasts
variable {v w : Value} {xs ys : List Value} {ps qs : List (String × Value)}

theorem kind_eq (h : v.Recasts w) : v.kind = w.kind := by
  cases h <;> rfl

theorem length_eq (h : (Value.list xs).Recasts (.list ys)) : xs.length = ys.length := by
  cases h with
  | leaf => rfl
  | list hlen _ => exact hlen

theorem items (h : (Value.list xs).Recasts (.list ys)) (k : Nat) :
    Option.Rel Recasts xs[k]? ys[k]? := by
  cases h with
  | leaf hl _ => exact absurd rfl hl
  | list hlen hitems =>
    refine Matching.getElem? (List.forall₂_iff_get.mpr ⟨hlen, fun i hi hi' => ?_⟩) k
    exact hitems i _ _ (List.getElem?_eq_getElem hi) (List.getElem?_eq_getElem hi')

theorem get? (h : (Value.record ps).Recasts (.record qs)) (name : String) :
    Option.Rel Recasts (Entries.get? ps name) (Entries.get? qs name) := by
  cases h with
  | leaf _ hr => exact absurd rfl hr
  | record hk hps => exact Entries.rel_get? (by rw [hk]) (hps name)

theorem part? (h : v.Recasts w) (path : ValuePath) :
    Option.Rel Recasts (v.part? path) (w.part? path) := by
  have parts {o o' : Option Value} {rest : ValuePath} (ho : Option.Rel Recasts o o')
      (ih : ∀ {x y : Value}, x.Recasts y → Option.Rel Recasts (x.part? rest) (y.part? rest)) :
      Option.Rel Recasts (o.bind fun x => x.part? rest) (o'.bind fun y => y.part? rest) := by
    cases ho with
    | none => exact .none
    | some hxy => exact ih hxy
  induction path generalizing v w with
  | nil => exact .some h
  | cons s rest ih =>
    cases h with
    | leaf hl hr =>
      rw [part?_cons_of_leaf hl hr]
      exact .none
    | number => cases s <;> exact .none
    | list hlen hitems =>
      cases s with
      | index k => exact parts (items (.list hlen hitems) k) ih
      | key name => exact .none
    | record hk hps =>
      cases s with
      | index k => exact .none
      | key name => exact parts (get? (.record hk hps) name) ih

/-- Integers are left over, they do not arise. -/
theorem part?_int (h : v.Recasts w) {path : ValuePath} {i : Int64}
    (hi : w.part? path = some (.int i)) : v.part? path = some (.int i) := by
  have hp := h.part? path
  rw [hi] at hp
  generalize v.part? path = o at hp
  cases hp with
  | some hx =>
    cases hx with
    | leaf => rfl

theorem distinct (h : v.Recasts w) (hv : v.Distinct) : w.Distinct := by
  induction h with
  | leaf => exact hv
  | number => exact distinct_leaf (.inr rfl)
  | list hlen _ ih =>
    rw [distinct_list] at hv
    exact distinct_list_of_length hlen fun k x y hx hy =>
      ih k x y hx hy (hv x (List.mem_of_getElem? hx))
  | record hk _ ih =>
    rw [distinct_record] at hv
    exact distinct_record_of_keys hv.1 (.of_eq hk) fun name x y hx hy =>
      ih name x y hx hy (hv.2 _ (Entries.mem_of_get? hx))

end Recasts

/-! ### Equality -/

section Equality
variable {v w other : Value} {xs ys zs : List Value} {ps qs rs : List (String × Value)}

private theorem Confuses.items (h : v.Confuses w other) {k : Nat} (hv : xs[k]? = some v)
    (hw : ys[k]? = some w) (ho : zs[k]? = some other) :
    (Value.list xs).Confuses (.list ys) (.list zs) := by
  obtain ⟨path, i, j, hi, hj, hne, heq⟩ := h
  refine ⟨.index k :: path, i, j, ⟨?_, ?_⟩, ?_, hne, heq⟩
  · exact part?_list.mpr (.inr ⟨k, v, path, rfl, hv, hi.1⟩)
  · exact part?_list.mpr (.inr ⟨k, w, path, rfl, hw, hi.2⟩)
  · exact part?_list.mpr (.inr ⟨k, other, path, rfl, ho, hj⟩)

private theorem Confuses.properties (h : v.Confuses w other) {name : String}
    (hv : Entries.get? ps name = some v) (hw : Entries.get? qs name = some w)
    (ho : Entries.get? rs name = some other) :
    (Value.record ps).Confuses (.record qs) (.record rs) := by
  obtain ⟨path, i, j, hi, hj, hne, heq⟩ := h
  refine ⟨.key name :: path, i, j, ⟨?_, ?_⟩, ?_, hne, heq⟩
  · exact part?_record.mpr (.inr ⟨name, v, path, rfl, hv, hi.1⟩)
  · exact part?_record.mpr (.inr ⟨name, w, path, rfl, hw, hi.2⟩)
  · exact part?_record.mpr (.inr ⟨name, other, path, rfl, ho, hj⟩)

/-- An exact integer equals a different one as a float only if that one is rounded to it. -/
theorem same_number {i : Int64} (hi : Binary64.IsExact i.toInt)
    (hc : ¬ (Value.int i).Confuses (.float (.ofInt i.toInt)) other) :
    (Value.int i).same other = (Value.float (.ofInt i.toInt)).same other := by
  cases other with
  | int j =>
    have hequal : (Binary64.ofInt i.toInt).equal (.ofInt j.toInt) = true ↔ i = j := by
      constructor
      · intro heq
        by_contra hne
        rw [Binary64.equal_comm] at heq
        exact hc ⟨[], i, j, ⟨rfl, rfl⟩, rfl, Ne.symm hne, heq⟩
      · rintro rfl
        rw [Binary64.equal_of_whole? hi hi]
        exact decide_eq_true rfl
    rw [same, alike, alike, Bool.true_and, Bool.eq_iff_iff, beq_iff_eq, hequal]
  | float y => rw [same, alike, alike, Bool.true_and]
  | null | boolean | string | list | record => rfl

private theorem same_list_mono (hlen : xs.length = ys.length)
    (h : ∀ (k : Nat) x y z, xs[k]? = some x → ys[k]? = some y → zs[k]? = some z →
      x.same z = true → y.same z = true)
    (hs : (Value.list xs).same (.list zs) = true) : (Value.list ys).same (.list zs) = true := by
  rw [same, alike, alikeItems_iff, List.forall₂_iff_get] at hs ⊢
  refine ⟨hlen ▸ hs.1, fun k hk hk' => ?_⟩
  have hk0 : k < xs.length := hlen ▸ hk
  exact h k _ _ _ (List.getElem?_eq_getElem hk0) (List.getElem?_eq_getElem hk)
    (List.getElem?_eq_getElem hk') (hs.2 k hk0 hk')

private theorem same_record_mono (hn : (Entries.keys ps).Nodup) (hk : Entries.keys ps = Entries.keys qs)
    (h : ∀ name x y z, Entries.get? ps name = some x → Entries.get? qs name = some y →
      Entries.get? rs name = some z → x.same z = true → y.same z = true)
    (hs : (Value.record ps).same (.record rs) = true) :
    (Value.record qs).same (.record rs) = true := by
  rw [same, alike_record_iff hn] at hs
  rw [same, alike_record_iff (hk ▸ hn)]
  have hlen : ps.length = qs.length := by simpa [Entries.keys] using congrArg List.length hk
  refine ⟨hlen ▸ hs.1, fun name y hy => ?_⟩
  obtain ⟨x, hx⟩ := Entries.exists_get?_of_keys (by rw [hk]) hy
  obtain ⟨z, hz, hxz⟩ := hs.2 name x hx
  exact ⟨z, hz, h name x y z hx hy hz hxz⟩

/-- Unless it confuses, a value equals what it did before. -/
theorem same_recast (h : v.Recasts w) (hd : v.Distinct) (hc : ¬ v.Confuses w other) :
    v.same other = w.same other := by
  induction h generalizing other with
  | leaf => rfl
  | number hi => exact same_number hi hc
  | @list xs ys hlen hitems ih =>
    cases other with
    | list zs =>
      have hitem {k : Nat} {x y z : Value} (hx : xs[k]? = some x) (hy : ys[k]? = some y)
          (hz : zs[k]? = some z) : x.same z = y.same z :=
        ih k x y hx hy (distinct_list.mp hd x (List.mem_of_getElem? hx))
          fun hxy => hc (hxy.items hx hy hz)
      rw [Bool.eq_iff_iff]
      exact ⟨same_list_mono hlen fun k x y z hx hy hz => (hitem hx hy hz).symm.trans,
        same_list_mono hlen.symm fun k y x z hy hx hz => (hitem hx hy hz).trans⟩
    | null | boolean | int | float | string | record => rfl
  | @record ps qs hk hps ih =>
    cases other with
    | record rs =>
      obtain ⟨hn, hd⟩ := distinct_record.mp hd
      have hproperty {name : String} {x y z : Value} (hx : Entries.get? ps name = some x)
          (hy : Entries.get? qs name = some y) (hz : Entries.get? rs name = some z) :
          x.same z = y.same z :=
        ih name x y hx hy (hd _ (Entries.mem_of_get? hx)) fun hxy => hc (hxy.properties hx hy hz)
      rw [Bool.eq_iff_iff]
      exact ⟨same_record_mono hn hk fun name x y z hx hy hz => (hproperty hx hy hz).symm.trans,
        same_record_mono (hk ▸ hn) hk.symm fun name y x z hy hx hz => (hproperty hx hy hz).trans⟩
    | null | boolean | int | float | string | list => rfl

/-- Nor do two items of a list become equal, or cease to be so, unless one is confused with the other. -/
theorem same_items_recast (h : (Value.list xs).Recasts (.list ys)) (hd : (Value.list xs).Distinct)
    (hc : ¬ ConfusesItems xs ys) {k l : Nat} {x x' y y' : Value} (hkl : k ≠ l) (hx : xs[k]? = some x)
    (hx' : ys[k]? = some x') (hy : xs[l]? = some y) (hy' : ys[l]? = some y') :
    x.same y = x'.same y' := by
  have hrecast {k : Nat} {x x' : Value} (hx : xs[k]? = some x) (hx' : ys[k]? = some x') :
      x.Recasts x' := by
    have hrel := h.items k
    rwa [hx, hx', Option.rel_some_some] at hrel
  have hdistinct {k : Nat} {x : Value} (hx : xs[k]? = some x) : x.Distinct :=
    distinct_list.mp hd x (List.mem_of_getElem? hx)
  -- One side changes at a time. When the other does, the integers of the first are those left over.
  have hright : ¬ x.Confuses x' y := fun hxy => hc ⟨k, l, x, x', y, hkl, hx, hx', hy, hxy⟩
  have hleft : ¬ y.Confuses y' x' := by
    rintro ⟨path, i, j, hi, hj, hne, heq⟩
    have hj : x.part? path = some (.int j) := (hrecast hx hx').part?_int hj
    exact hc ⟨l, k, y, y', x, hkl.symm, hy, hy', hx, path, i, j, hi, hj, hne, heq⟩
  calc x.same y = x'.same y := same_recast (hrecast hx hx') (hdistinct hx) hright
    _ = y.same x' := alike_comm ((hrecast hx hx').distinct (hdistinct hx)) (hdistinct hy)
    _ = y'.same x' := same_recast (hrecast hy hy') (hdistinct hy) hleft
    _ = x'.same y' := alike_comm ((hrecast hy hy').distinct (hdistinct hy))
        ((hrecast hx hx').distinct (hdistinct hx))

end Equality
end Value

/-! ### Verdicts -/

namespace ConstraintName
variable {name : ConstraintName} {declared : Declared}

private theorem holdsNumber_eq (h : name ≠ .multipleOf) (v w : Value) (x : Binary64) :
    holdsNumber name declared v x = holdsNumber name declared w x := by
  cases name with
  | multipleOf => exact absurd rfl h
  | oneOf => cases declared <;> rfl
  | _ => rfl

private theorem holds_int_eq_float_iff {i : Int64} (hi : Binary64.IsExact i.toInt) :
    name.holds declared (.int i) = name.holds declared (.float (.ofInt i.toInt)) ↔
      ¬ (name = .multipleOf ∧ declared.FalselyDivides i) := by
  by_cases h : name = .multipleOf
  · subst h
    rw [holds_multipleOf_int_eq_float_iff hi, eq_self_iff_true, true_and]
  · refine iff_of_true ?_ fun hm => h hm.1
    rw [holds_of_number? rfl, holds_of_number? rfl]
    exact holdsNumber_eq h _ _ _

private theorem holds_list_recast {xs ys : List Value} (h : (Value.list xs).Recasts (.list ys))
    (hd : (Value.list xs).Distinct)
    (hc : name = .uniqueItems → declared = .boolean true → ¬ Value.ConfusesItems xs ys) :
    name.holds declared (.list xs) = name.holds declared (.list ys) := by
  change holdsItems name declared xs = holdsItems name declared ys
  have hlen : xs.length = ys.length := h.length_eq
  unfold holdsItems
  split
  · rw [hlen]
  · rw [hlen]
  · have hunique := hc rfl rfl
    rw [Value.firstRepeat?_eq hlen fun k l x x' y y' hkl hx hx' hy hy' =>
      Value.same_items_recast h hd hunique (Nat.ne_of_lt hkl) hx hx' hy hy']
  · rfl

end ConstraintName

/-- What is in force for a value in one form holds in the other, if no constraint tells them apart. -/
theorem Force.holdsOf_recast {f : Force} {v w : Value} (h : v.Recasts w) (hd : v.Distinct)
    (hdiv : ∀ i, v = .int i → w = .float (.ofInt i.toInt) → ∀ set, f.Demands .numberValue set →
      ∀ declared, (.multipleOf, declared) ∈ set → ¬ declared.FalselyDivides i)
    (huniq : ∀ xs ys, v = .list xs → w = .list ys → ∀ set, f.Demands .list set →
      (.uniqueItems, .boolean true) ∈ set → ¬ Value.ConfusesItems xs ys) :
    f.HoldsOf v ↔ f.HoldsOf w := by
  rw [HoldsOf, HoldsOf, h.kind_eq]
  refine forall_congr' fun key => forall_congr' fun hkey => forall_congr' fun set =>
    forall_congr' fun hset => forall_congr' fun c => forall_congr' fun hc => ?_
  cases h with
  | leaf => rfl
  | @number i hi =>
    cases hkey
    have heq : c.1.holds c.2 (.int i) = c.1.holds c.2 (.float (.ofInt i.toInt)) := by
      refine (ConstraintName.holds_int_eq_float_iff hi).mpr ?_
      rintro ⟨hname, hfalse⟩
      exact hdiv i rfl rfl set hset c.2 (hname ▸ hc) hfalse
    rw [heq]
  | @list xs ys hlen hitems =>
    cases hkey
    rw [ConstraintName.holds_list_recast (.list hlen hitems) hd]
    rintro hname hdeclared
    refine huniq xs ys rfl rfl set hset ?_
    rw [← hname, ← hdeclared]
    exact hc
  | record => rfl

section Verdict
variable {index : ConstraintIndex} {tree : ConstraintTree} {v w : Value}

/-- A value is accepted with some exact integers as floats just if it is accepted without. Excepted
are multiples that are none before the quotient is rounded, and two items that have, at one place,
different integers and are rounded to one number there. Both take an integer beyond `2^53`, or that one
itself. Each constraint holds of a number in both forms or in neither, but for such multiples. -/
theorem ConstraintIndex.validate_recast_iff (hd : v.Distinct) (h : v.Recasts w)
    (hdiv : ∀ path i, v.RecastAt w path i → ∀ set,
      (Force.along index tree path).Demands .numberValue set →
      ∀ declared, (.multipleOf, declared) ∈ set → ¬ declared.FalselyDivides i)
    (huniq : ∀ path xs ys, v.part? path = some (.list xs) → w.part? path = some (.list ys) →
      ∀ set, (Force.along index tree path).Demands .list set →
        (.uniqueItems, .boolean true) ∈ set → ¬ Value.ConfusesItems xs ys) :
    (index.validate tree v = .ok () ↔ index.validate tree w = .ok ()) ∧
    ∀ i : Int64, Binary64.IsExact i.toInt →
      (∀ (name : ConstraintName) declared, ¬ (name = .multipleOf ∧ declared.FalselyDivides i) →
        name.holds declared (.int i) = name.holds declared (.float (.ofInt i.toInt))) ∧
      (∀ declared : Declared, declared.FalselyDivides i → 2 ^ 53 < i.toInt.natAbs) ∧
      ∀ j : Int64, j ≠ i → (Binary64.ofInt j.toInt).equal (.ofInt i.toInt) = true →
        2 ^ 53 ≤ i.toInt.natAbs := by
  refine ⟨?_, fun i hi => ⟨fun name declared => (ConstraintName.holds_int_eq_float_iff hi).mpr,
    fun declared => ConstraintName.lt_natAbs_of_falselyDivides hi, fun j hne heq => ?_⟩⟩
  · rw [validate_ok_iff_parts, validate_ok_iff_parts]
    refine forall_congr' fun path => ?_
    have hparts := h.part? path
    generalize hv : v.part? path = o, hw : w.part? path = o' at hparts
    cases hparts with
    | none => exact iff_of_true nofun nofun
    | @some x y hxy =>
      have hdiv' := hdiv path
      have huniq' := huniq path
      generalize Force.along index tree path = f at hdiv' huniq' ⊢
      have hholds : f.HoldsOf x ↔ f.HoldsOf y := by
        refine Force.holdsOf_recast hxy (hd.part hv) ?_ ?_
        · rintro i rfl rfl
          exact hdiv' i ⟨hv, hw⟩
        · rintro xs ys rfl rfl
          exact huniq' xs ys hv hw
      have hboth : f.AdmitsKind x ∧ f.HoldsOf x ↔ f.AdmitsKind y ∧ f.HoldsOf y := by
        rw [hholds, Force.AdmitsKind, Force.AdmitsKind, hxy.kind_eq]
      constructor
      · intro hall part he
        cases he
        exact hboth.mp (hall x rfl)
      · intro hall part he
        cases he
        exact hboth.mpr (hall y rfl)
  · by_contra hsmall
    rw [Binary64.equal_comm, Binary64.equal_ofInt_of_lt (Nat.lt_of_not_le hsmall) (natAbs_toInt_lt j),
      decide_eq_true_eq, Int64.toInt_inj] at heq
    exact hne heq.symm

/-- A tree without properties that inherits nothing is the only one in force, wherever that is. -/
theorem Force.eq_of_along {path : ValuePath} (hp : tree.properties = []) (hi : tree.inherits = [])
    {t : ConstraintTree} (ht : (Force.along index tree path).trees t) : t = tree := by
  have gathered {origin : ConstraintTree → Prop} (ho : ∀ t, origin t → t = tree)
      {t : ConstraintTree} (ht : ConstraintIndex.Gathered index origin t) : t = tree := by
    induction ht with
    | root hroot => exact ho _ hroot
    | inherited _ hid _ ih =>
      rw [ih, hi] at hid
      cases hid
  suffices ∀ f : Force, (∀ t, f.trees t → t = tree) →
      ∀ t, (path.foldl (Force.step index) f).trees t → t = tree from
    this _ (fun t => gathered fun t => id) t ht
  clear ht
  induction path with
  | nil => exact fun f hf => hf
  | cons s path ih =>
    refine fun f hf => ih (f.step index s) fun t ht => ?_
    cases s with
    | index k => exact hf t ht
    | key name =>
      refine gathered (fun t' ht' => ?_) ht
      obtain ⟨parent, hparent, hname⟩ := ht'
      rw [hf parent hparent, ConstraintTree.property?, hp] at hname
      cases hname

/-- A set of number constraints alone. -/
theorem ConstraintIndex.validate_numberSet_iff {set : ConstraintSet} (hv : v.kind = .number) :
    index.validate ⟨[(.numberValue, [set])], [], []⟩ v = .ok () ↔
      ∀ c ∈ set, c.1.holds c.2 v = true := by
  have hleaf {path : ValuePath} {part : Value} (hp : v.part? path = some part) :
      path = [] ∧ part = v :=
    (Value.part?_leaf (.inr (by rw [hv]; rfl))).mp hp
  rw [validate_ok_iff_parts]
  constructor
  · intro h c hc
    refine (h [] v rfl).2 .numberValue (by rw [hv]; rfl) set ?_ c hc
    exact ⟨_, .root rfl, List.mem_singleton_self set⟩
  · intro h path part hp
    obtain ⟨rfl, rfl⟩ := hleaf hp
    constructor
    · exact fun _ _ _ => ⟨.numberValue, by rw [hv]; rfl, _, .root rfl, rfl⟩
    · intro key hkey set' hset
      rw [hv] at hkey
      cases hkey
      obtain ⟨t, ht, hmem⟩ := hset
      cases Force.eq_of_along rfl rfl ht
      cases List.mem_singleton.mp hmem
      exact h

/-- Beyond `2^53` odd integers are rounded, and so may quotients be. Two items become one number when the
first is a float, and a power of two becomes a multiple of three. -/
theorem ConstraintIndex.recast_changes_verdict :
    let unique : ConstraintTree := ⟨[(.list, [[(.uniqueItems, .boolean true)]])], [], []⟩
    let triple : ConstraintTree := ⟨[(.numberValue, [[(.multipleOf, .int 3)]])], [], []⟩
    let i : Int64 := 9007199254740992
    let j : Int64 := 9007199254740993
    let k : Int64 := 1152921504606846976
    (Value.list [.int i, .int j]).Recasts (.list [.float (.ofInt i.toInt), .int j]) ∧
    empty.validate unique (.list [.int i, .int j]) = .ok () ∧
    empty.validate unique (.list [.float (.ofInt i.toInt), .int j]) ≠ .ok () ∧
    (Value.int k).Recasts (.float (.ofInt k.toInt)) ∧
    ConstraintName.multipleOf.holds (.int 3) (.int k) = false ∧
    ConstraintName.multipleOf.holds (.int 3) (.float (.ofInt k.toInt)) = true ∧
    empty.validate triple (.int k) ≠ .ok () ∧
    empty.validate triple (.float (.ofInt k.toInt)) = .ok () := by
  intro unique triple i j k
  have hitems : (Value.list [.int i, .int j]).Recasts (.list [.float (.ofInt i.toInt), .int j]) := by
    refine .list rfl fun n x y hx hy => ?_
    match n, hx, hy with
    | 0, rfl, rfl => exact .number (by decide +kernel)
    | 1, rfl, rfl => exact .leaf nofun nofun
  have haccepted : empty.validate unique (.list [.int i, .int j]) = .ok () := by cbv
  have hrejected :
      (empty.validate unique (.list [.float (.ofInt i.toInt), .int j])).isOk = false := by
    decide +kernel
  have hfails : ConstraintName.multipleOf.holds (.int 3) (.int k) = false := by decide +kernel
  have hholds : ConstraintName.multipleOf.holds (.int 3) (.float (.ofInt k.toInt)) = true := by
    decide +kernel
  refine ⟨hitems, haccepted, ?_, .number (by decide +kernel), hfails, hholds, ?_, ?_⟩
  · intro hok
    rw [hok] at hrejected
    cases hrejected
  · intro hok
    have hall := (validate_numberSet_iff rfl).mp hok
    have hk : ConstraintName.multipleOf.holds (.int 3) (.int k) = true :=
      hall (.multipleOf, .int 3) (List.mem_singleton_self _)
    exact Bool.false_ne_true (hfails.symm.trans hk)
  · refine (validate_numberSet_iff rfl).mpr fun c hc => ?_
    rw [List.mem_singleton.mp hc]
    exact hholds

def distinctTriples : ConstraintTree :=
  ⟨[(.list, [[(.uniqueItems, .boolean true)]]), (.numberValue, [[(.multipleOf, .int 3)]])], [], []⟩

/-- A large triple and a small one are two in either form. -/
theorem ConstraintIndex.validate_recast_iff_of_triples :
    let i : Int64 := 3458764513820540928
    let v : Value := .list [.int i, .int 6]
    let w : Value := .list [.float (.ofInt i.toInt), .int 6]
    v.Distinct ∧ v.Recasts w ∧ Binary64.IsExact i.toInt ∧ 2 ^ 53 < i.toInt.natAbs ∧
      (empty.validate distinctTriples v = .ok () ↔ empty.validate distinctTriples w = .ok ()) := by
  intro i v w
  have hexact : Binary64.IsExact i.toInt := by decide +kernel
  have hd : v.Distinct := by
    refine Value.distinct_list.mpr fun x hx => ?_
    simp only [List.mem_cons, List.not_mem_nil, or_false] at hx
    rcases hx with rfl | rfl <;> exact Value.distinct_leaf (.inr rfl)
  have h : v.Recasts w := by
    refine .list rfl fun k x y hx hy => ?_
    match k, hx, hy with
    | 0, rfl, rfl => exact .number hexact
    | 1, rfl, rfl => exact .leaf nofun nofun
  have hparts {path : ValuePath} {part : Value} (hp : v.part? path = some part) :
      part = v ∨ part = .int i ∨ part = .int 6 := by
    rcases Value.part?_list.mp hp with ⟨_, he⟩ | ⟨k, x, rest, _, hx, hpart⟩
    · exact .inl he
    · have hmem := List.mem_of_getElem? hx
      simp only [List.mem_cons, List.not_mem_nil, or_false] at hmem
      rcases hmem with rfl | rfl
      · exact .inr (.inl ((Value.part?_leaf (.inr rfl)).mp hpart).2)
      · exact .inr (.inr ((Value.part?_leaf (.inr rfl)).mp hpart).2)
  have hints {path : ValuePath} {j : Int64} (hj : v.part? path = some (.int j)) : j = i ∨ j = 6 := by
    rcases hparts hj with he | he | he
    · cases (show Value.int j = .list [.int i, .int 6] from he)
    · exact .inl (Value.int.inj he)
    · exact .inr (Value.int.inj he)
  refine ⟨hd, h, hexact, by decide, (validate_recast_iff hd h ?_ ?_).1⟩
  · rintro path j ⟨hj, -⟩ set ⟨t, ht, hset⟩ declared hmem ⟨m, k, hm, hk, -, -, hnot, -⟩
    cases Force.eq_of_along rfl rfl ht
    cases List.mem_singleton.mp hset
    cases List.mem_singleton.mp hmem
    have hthree : Binary64.IsExact (3 : Int64).toInt := Binary64.isExact_of_le (by decide)
    rw [← Option.some.inj hm, hthree] at hk
    rw [← Option.some.inj hk] at hnot
    rcases hints hj with rfl | rfl
    · exact hnot (by decide)
    · exact hnot (by decide)
  · rintro path xs ys hxs - set - - ⟨k, l, x, y, z, -, hx, -, hz, path', a, b, ⟨ha, -⟩, hb, hne, heq⟩
    have hlist : Value.list xs = v := by
      rcases hparts hxs with he | he | he
      · exact he
      · cases he
      · cases he
    have hitem {k : Nat} {x : Value} {j : Int64} (hx : xs[k]? = some x)
        (hj : x.part? path' = some (.int j)) : j = i ∨ j = 6 :=
      hints (hlist ▸ Value.part?_list.mpr (.inr ⟨k, x, path', rfl, hx, hj⟩))
    rcases hitem hx ha with rfl | rfl <;> rcases hitem hz hb with rfl | rfl
    · exact hne rfl
    · exact absurd heq (by decide +kernel)
    · exact absurd heq (by decide +kernel)
    · exact hne rfl

end Verdict
end ConstraintDirectives
