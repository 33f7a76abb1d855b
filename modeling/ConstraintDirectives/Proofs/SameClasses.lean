import ConstraintDirectives.Proofs.Multiples
import ConstraintDirectives.Proofs.Sameness

/-! Two integers can equal one float and still differ. Where that does not happen, equality sorts items
into classes. -/
namespace ConstraintDirectives

theorem Binary64.equal_iff {x y : Binary64} :
    x.equal y = true ↔ ∃ a, x.rank? = some a ∧ y.rank? = some a := by
  rw [equal, related]
  cases x.rank? <;> cases y.rank? <;> simp [eq_comm]

theorem Binary64.equal_trans {x y z : Binary64} (hxy : x.equal y = true) (hyz : y.equal z = true) :
    x.equal z = true := by
  obtain ⟨a, hx, hy⟩ := equal_iff.mp hxy
  obtain ⟨b, hy', hz⟩ := equal_iff.mp hyz
  cases hy.symm.trans hy'
  exact equal_iff.mpr ⟨a, hx, hz⟩

namespace Value
variable {x y z : Value} {i j : Int64} {path : ValuePath}

/-- Two different integers stand where `middle` has a float that both are rounded to. -/
def BridgesAt (middle left right : Value) (path : ValuePath) (i j : Int64) : Prop :=
  left.part? path = some (.int i) ∧ right.part? path = some (.int j) ∧ i ≠ j ∧
    ∃ f, middle.part? path = some (.float f) ∧ (Binary64.ofInt i.toInt).equal f = true ∧
      f.equal (.ofInt j.toInt) = true

def Bridges (middle left right : Value) : Prop := ∃ path i j, middle.BridgesAt left right path i j

/-! ### Parts of equal values -/

theorem same_items_iff {xs ys : List Value} : (Value.list xs).same (.list ys) = true ↔
    List.Forall₂ (fun x y => x.same y = true) xs ys := by
  rw [same, alike]
  exact alikeItems_iff

private theorem exists_item_of_same {xs ys : List Value}
    (h : (Value.list xs).same (.list ys) = true) {k : Nat} {x : Value} (hx : xs[k]? = some x) :
    ∃ y, ys[k]? = some y ∧ x.same y = true := by
  have hrel := Matching.getElem? (same_items_iff.mp h) k
  rw [hx] at hrel
  cases hy : ys[k]? with
  | none => simp [hy] at hrel
  | some y =>
    rw [hy, Option.rel_some_some] at hrel
    exact ⟨y, rfl, hrel⟩

private theorem exists_property_of_same {ps qs : List (String × Value)} (hn : (Entries.keys ps).Nodup)
    (h : (Value.record ps).same (.record qs) = true) {name : String} {x : Value}
    (hx : Entries.get? ps name = some x) : ∃ y, Entries.get? qs name = some y ∧ x.same y = true :=
  ((alike_record_iff hn).mp h).2 name x hx

/-- Equal values have equal parts at every place. -/
theorem exists_part_of_same {part : Value} (hd : x.Distinct) (h : x.same y = true)
    (hp : x.part? path = some part) : ∃ part', y.part? path = some part' ∧ part.same part' = true := by
  induction path generalizing x y with
  | nil =>
    cases hp
    exact ⟨y, rfl, h⟩
  | cons s rest ih =>
    cases hd with
    | leaf hl hr =>
      rw [part?_cons_of_leaf hl hr] at hp
      cases hp
    | @list xs hxs =>
      cases y with
      | list ys =>
        rcases part?_list.mp hp with ⟨he, _⟩ | ⟨k, u, r, he, hu, hpart⟩
        · cases he
        · cases he
          obtain ⟨w, hw, huw⟩ := exists_item_of_same h hu
          obtain ⟨part', hpart', hsame⟩ := ih (hxs u (List.mem_of_getElem? hu)) huw hpart
          exact ⟨part', part?_list.mpr (.inr ⟨k, w, rest, rfl, hw, hpart'⟩), hsame⟩
      | null | boolean | int | float | string | record => cases h
    | @record ps hn hps =>
      cases y with
      | record qs =>
        rcases part?_record.mp hp with ⟨he, _⟩ | ⟨name, u, r, he, hu, hpart⟩
        · cases he
        · cases he
          obtain ⟨w, hw, huw⟩ := exists_property_of_same hn h hu
          obtain ⟨part', hpart', hsame⟩ := ih (hps _ (Entries.mem_of_get? hu)) huw hpart
          exact ⟨part', part?_record.mpr (.inr ⟨name, w, rest, rfl, hw, hpart'⟩), hsame⟩
      | null | boolean | int | float | string | list => cases h

/-! ### Chains -/

private theorem Bridges.item {xs ys zs : List Value} {k : Nat} (h : y.Bridges x z) (hx : xs[k]? = some x)
    (hy : ys[k]? = some y) (hz : zs[k]? = some z) :
    (Value.list ys).Bridges (.list xs) (.list zs) := by
  obtain ⟨path, i, j, hi, hj, hne, f, hf, hif, hfj⟩ := h
  refine ⟨.index k :: path, i, j, ?_, ?_, hne, f, ?_, hif, hfj⟩
  · exact part?_list.mpr (.inr ⟨k, x, path, rfl, hx, hi⟩)
  · exact part?_list.mpr (.inr ⟨k, z, path, rfl, hz, hj⟩)
  · exact part?_list.mpr (.inr ⟨k, y, path, rfl, hy, hf⟩)

private theorem Bridges.property {ps qs rs : List (String × Value)} {name : String} (h : y.Bridges x z)
    (hx : Entries.get? ps name = some x) (hy : Entries.get? qs name = some y)
    (hz : Entries.get? rs name = some z) : (Value.record qs).Bridges (.record ps) (.record rs) := by
  obtain ⟨path, i, j, hi, hj, hne, f, hf, hif, hfj⟩ := h
  refine ⟨.key name :: path, i, j, ?_, ?_, hne, f, ?_, hif, hfj⟩
  · exact part?_record.mpr (.inr ⟨name, x, path, rfl, hx, hi⟩)
  · exact part?_record.mpr (.inr ⟨name, z, path, rfl, hz, hj⟩)
  · exact part?_record.mpr (.inr ⟨name, y, path, rfl, hy, hf⟩)

/-- Both integers are so large that there is no room for all of them among the floats. -/
theorem BridgesAt.le_natAbs (h : y.BridgesAt x z path i j) :
    2 ^ 53 ≤ i.toInt.natAbs ∧ 2 ^ 53 ≤ j.toInt.natAbs := by
  obtain ⟨-, -, hne, f, -, hif, hfj⟩ := h
  have hequal : (Binary64.ofInt i.toInt).equal (.ofInt j.toInt) = true := Binary64.equal_trans hif hfj
  have large {a b : Int64} (hab : a ≠ b)
      (he : (Binary64.ofInt a.toInt).equal (.ofInt b.toInt) = true) : 2 ^ 53 ≤ a.toInt.natAbs := by
    by_contra hsmall
    rw [Binary64.equal_ofInt_of_lt (Nat.lt_of_not_le hsmall) (natAbs_toInt_lt b),
      decide_eq_true_eq, Int64.toInt_inj] at he
    exact hab he
  exact ⟨large hne hequal, large hne.symm (Binary64.equal_comm .. ▸ hequal)⟩

section Numbers
variable {f g : Binary64}

private theorem same_int_int : (Value.int i).same (.int j) = true ↔ i = j := by
  rw [same, alike, beq_iff_eq]

private theorem same_int_float : (Value.int i).same (.float f) = (Binary64.ofInt i.toInt).equal f := by
  rw [same, alike, Bool.true_and]

private theorem same_float_int : (Value.float f).same (.int j) = f.equal (.ofInt j.toInt) := by
  rw [same, alike, Bool.true_and]

private theorem same_float_float : (Value.float f).same (.float g) = f.equal g := by
  rw [same, alike]

end Numbers

private theorem same_trans_scalar (hx : x.kind.isScalar = true) (hxy : x.same y = true)
    (hyz : y.same z = true) (hb : ¬ y.Bridges x z) : x.same z = true := by
  cases x with
  | int i =>
    cases y with
    | int j =>
      cases same_int_int.mp hxy
      exact hyz
    | float f =>
      rw [same_int_float] at hxy
      cases z with
      | int j =>
        rw [same_float_int] at hyz
        rw [same_int_int]
        by_contra hne
        exact hb ⟨[], i, j, rfl, rfl, hne, f, rfl, hxy, hyz⟩
      | float g =>
        rw [same_float_float] at hyz
        rw [same_int_float]
        exact Binary64.equal_trans hxy hyz
      | null | boolean | string | list | record => cases hyz
    | null | boolean | string | list | record => cases hxy
  | float f =>
    cases y with
    | int j =>
      cases z with
      | int k =>
        cases same_int_int.mp hyz
        exact hxy
      | float g =>
        rw [same_float_int] at hxy
        rw [same_int_float] at hyz
        rw [same_float_float]
        exact Binary64.equal_trans hxy hyz
      | null | boolean | string | list | record => cases hyz
    | float g =>
      rw [same_float_float] at hxy
      cases z with
      | int k =>
        rw [same_float_int] at hyz ⊢
        exact Binary64.equal_trans hxy hyz
      | float h =>
        rw [same_float_float] at hyz ⊢
        exact Binary64.equal_trans hxy hyz
      | null | boolean | string | list | record => cases hyz
    | null | boolean | string | list | record => cases hxy
  | boolean a =>
    cases y with
    | boolean b =>
      cases (beq_iff_eq.mp hxy : a = b)
      exact hyz
    | null | int | float | string | list | record => cases hxy
  | string s =>
    cases y with
    | string t =>
      cases (beq_iff_eq.mp hxy : s = t)
      exact hyz
    | null | boolean | int | float | list | record => cases hxy
  | null | list | record => cases hx

private theorem same_trans_of_not_bridges (hx : x.Distinct) (hy : y.Distinct) (hxy : x.same y = true)
    (hyz : y.same z = true) (hb : ¬ y.Bridges x z) : x.same z = true := by
  induction x using byParts generalizing y z with
  | null => cases y <;> first | exact hyz | cases hxy
  | scalar x hs => exact same_trans_scalar hs hxy hyz hb
  | list xs ih =>
    cases y with
    | list ys =>
      cases z with
      | list zs =>
        have hlen := (same_items_iff.mp hxy).length_eq.trans (same_items_iff.mp hyz).length_eq
        refine same_items_iff.mpr (List.forall₂_iff_get.mpr ⟨hlen, fun k hk hk' => ?_⟩)
        have hu : xs[k]? = some xs[k] := List.getElem?_eq_getElem hk
        obtain ⟨v, hv, huv⟩ := exists_item_of_same hxy hu
        obtain ⟨w, hw, hvw⟩ := exists_item_of_same hyz hv
        have huw : xs[k].same w = true :=
          ih _ (List.getElem_mem hk) (distinct_list.mp hx _ (List.getElem_mem hk))
            (distinct_list.mp hy v (List.mem_of_getElem? hv)) huv hvw fun h => hb (h.item hu hv hw)
        rw [List.getElem?_eq_getElem hk'] at hw
        cases hw
        exact huw
      | null | boolean | int | float | string | record => cases hyz
    | null | boolean | int | float | string | record => cases hxy
  | record ps ih =>
    cases y with
    | record qs =>
      cases z with
      | record rs =>
        obtain ⟨hn, hps⟩ := distinct_record.mp hx
        obtain ⟨hn', hqs⟩ := distinct_record.mp hy
        refine (alike_record_iff hn).mpr ⟨?_, fun name u hu => ?_⟩
        · exact ((alike_record_iff hn).mp hxy).1.trans ((alike_record_iff hn').mp hyz).1
        · obtain ⟨v, hv, huv⟩ := exists_property_of_same hn hxy hu
          obtain ⟨w, hw, hvw⟩ := exists_property_of_same hn' hyz hv
          have hu' := Entries.mem_of_get? hu
          exact ⟨w, hw, ih _ hu' (hps _ hu') (hqs _ (Entries.mem_of_get? hv)) huv hvw
            fun h => hb (h.property hu hv hw)⟩
      | null | boolean | int | float | string | list => cases hyz
    | null | boolean | int | float | string | list => cases hxy

private theorem not_bridges_of_same (hx : x.Distinct) (h : x.same z = true) : ¬ y.Bridges x z := by
  rintro ⟨path, i, j, hi, hj, hne, -⟩
  obtain ⟨part, hpart, hsame⟩ := exists_part_of_same hx h hi
  cases hj.symm.trans hpart
  exact hne (same_int_int.mp hsame)

/-- Two values equal to a third are equal unless it bridges them. -/
theorem same_trans_iff (hx : x.Distinct) (hy : y.Distinct) (hxy : x.same y = true)
    (hyz : y.same z = true) : x.same z = true ↔ ¬ y.Bridges x z :=
  ⟨not_bridges_of_same hx, same_trans_of_not_bridges hx hy hxy hyz⟩

/-- Equality sorts the items of a list into classes if each equals itself and none bridges others. -/
theorem equivalence_same_iff {items : List Value} (hd : (Value.list items).Distinct) :
    Equivalence (fun x y : { v // v ∈ items } => x.1.same y.1 = true) ↔
      (Value.list items).NanFree ∧ ∀ x ∈ items, ∀ y ∈ items, ∀ z ∈ items,
        x.same y = true → y.same z = true → ¬ y.Bridges x z := by
  rw [distinct_list] at hd
  rw [nanFree_list]
  constructor
  · rintro ⟨hrefl, -, htrans⟩
    constructor
    · exact fun x hx => (alike_self_iff (hd x hx)).mp (hrefl ⟨x, hx⟩)
    · intro x hx y hy z hz hxy hyz
      have hxz : x.same z = true := @htrans ⟨x, hx⟩ ⟨y, hy⟩ ⟨z, hz⟩ hxy hyz
      exact not_bridges_of_same (hd x hx) hxz
  · rintro ⟨hfree, hbridges⟩
    refine ⟨fun x => ?_, fun {x y} hxy => ?_, fun {x y z} hxy hyz => ?_⟩
    · exact (alike_self_iff (hd x.1 x.2)).mpr (hfree x.1 x.2)
    · exact alike_symm (hd x.1 x.2) hxy
    · exact same_trans_of_not_bridges (hd x.1 x.2) (hd y.1 y.2) hxy hyz
        (hbridges x.1 x.2 y.1 y.2 z.1 z.2 hxy hyz)

/-- Two values that equal a third are equal, unless at one place it has a float that different
integers of theirs are rounded to, both of them `2 ^ 53` or larger. A list is sorted into classes by
equality if it has no NaN and no item that keeps two others apart in this way. -/
theorem same_trans_unless_bridged (hx : x.Distinct) (hy : y.Distinct) (hxy : x.same y = true)
    (hyz : y.same z = true) :
    (x.same z = true ↔ ¬ y.Bridges x z) ∧
    (∀ path i j, y.BridgesAt x z path i j → 2 ^ 53 ≤ i.toInt.natAbs ∧ 2 ^ 53 ≤ j.toInt.natAbs) ∧
    ∀ items : List Value, (Value.list items).Distinct →
      (Equivalence (fun v w : { v // v ∈ items } => v.1.same w.1 = true) ↔
        (Value.list items).NanFree ∧ ∀ u ∈ items, ∀ v ∈ items, ∀ w ∈ items,
          u.same v = true → v.same w = true → ¬ v.Bridges u w) :=
  ⟨same_trans_iff hx hy hxy hyz, fun _ _ _ => BridgesAt.le_natAbs,
    fun _ hd => equivalence_same_iff hd⟩

/-- Records with `2 ^ 53` and its successor, and one with the float between them in another order. -/
theorem same_trans_unless_bridged_of_neighbours :
    let i : Int64 := 9007199254740992
    let j : Int64 := 9007199254740993
    let x : Value := .record [("id", .int i), ("tags", .list [])]
    let y : Value := .record [("tags", .list []), ("id", .float (.ofInt i.toInt))]
    let z : Value := .record [("id", .int j), ("tags", .list [])]
    x.Distinct ∧ y.Distinct ∧ x.same y = true ∧ y.same z = true ∧
      y.BridgesAt x z [.key "id"] i j ∧ x.same z = false := by
  intro i j x y z
  have hempty : (Value.list []).Distinct := distinct_list.mpr (List.forall_mem_nil _)
  have hx : x.Distinct := by
    simp only [x, distinct_record, List.forall_mem_cons]
    exact ⟨by decide, distinct_leaf (.inr rfl), hempty, List.forall_mem_nil _⟩
  have hy : y.Distinct := by
    simp only [y, distinct_record, List.forall_mem_cons]
    exact ⟨by decide, hempty, distinct_leaf (.inr rfl), List.forall_mem_nil _⟩
  have hxy : x.same y = true := by decide +kernel
  have hyz : y.same z = true := by decide +kernel
  have hb : y.BridgesAt x z [.key "id"] i j :=
    ⟨rfl, rfl, by decide, .ofInt i.toInt, rfl, by decide +kernel, by decide +kernel⟩
  refine ⟨hx, hy, hxy, hyz, hb, Bool.eq_false_iff.mpr fun hxz => ?_⟩
  exact (same_trans_unless_bridged hx hy hxy hyz).1.mp hxz ⟨_, _, _, hb⟩

/-- An integer and its successor, both without NaN, are rounded to one float and differ. -/
theorem same_not_transitive :
    let i : Int64 := 9007199254740992
    let j : Int64 := 9007199254740993
    let f : Value := .float (.ofInt i.toInt)
    (Value.int i).NanFree ∧ f.NanFree ∧ (Value.int j).NanFree ∧
      (Value.int i).same f = true ∧ f.same (.int j) = true ∧ (Value.int i).same (.int j) = false := by
  intro i j f
  have hf : f ≠ .float .nan := by
    intro h
    have hne : Binary64.ofInt i.toInt ≠ .nan := by decide +kernel
    exact hne (Value.float.inj h)
  refine ⟨(nanFree_leaf (.inr rfl)).mpr nofun, (nanFree_leaf (.inr rfl)).mpr hf,
    (nanFree_leaf (.inr rfl)).mpr nofun, ?_, ?_, ?_⟩
  · decide +kernel
  · decide +kernel
  · decide +kernel

end Value
end ConstraintDirectives
