import ConstraintDirectives.Constraint.Description
import ConstraintDirectives.Constraint.Satisfaction
import ConstraintDirectives.Proofs.Sameness

/-! What is found among the items of a list is the first position that equals an earlier one. -/
namespace ConstraintDirectives

/-- The first number below a bound that has a result. -/
theorem findSome?_range_eq_some_iff {α : Type} {f : Nat → Option α} {n : Nat} {a : α} :
    (List.range n).findSome? f = some a ↔ ∃ k < n, f k = some a ∧ ∀ l < k, f l = none := by
  induction n with
  | zero => simp
  | succ n ih =>
    rw [List.range_succ, List.findSome?_append, Option.or_eq_some_iff, ih, List.findSome?_eq_none_iff]
    simp only [List.mem_range, List.findSome?_singleton]
    constructor
    · rintro (⟨k, hk, ha, hnone⟩ | ⟨hnone, ha⟩)
      · exact ⟨k, Nat.lt_succ_of_lt hk, ha, hnone⟩
      · exact ⟨n, Nat.lt_succ_self n, ha, hnone⟩
    · rintro ⟨k, hk, ha, hnone⟩
      rcases Nat.lt_or_eq_of_le (Nat.le_of_lt_succ hk) with hk | rfl
      · exact .inl ⟨k, hk, ha, hnone⟩
      · exact .inr ⟨hnone, ha⟩

namespace Value
variable {items : List Value} {i j : Nat}

def SameAt (items : List Value) (i j : Nat) : Prop :=
  ∃ x y, items[i]? = some x ∧ items[j]? = some y ∧ x.same y = true

/-- The least position that repeats an earlier one, with the least that it repeats. -/
structure IsFirstRepeat (items : List Value) (i j : Nat) : Prop where
  lt : i < j
  lt_length : j < items.length
  same : SameAt items i j
  least : ∀ k l, k < l → l < j → ¬ SameAt items k l
  earliest : ∀ k < i, ¬ SameAt items k j

theorem sameAt_iff (hi : i < items.length) (hj : j < items.length) :
    SameAt items i j ↔ items[i].same items[j] = true := by
  simp [SameAt, hi, hj]

theorem SameAt.symm (hd : (Value.list items).Distinct) (h : SameAt items i j) : SameAt items j i := by
  obtain ⟨x, y, hx, hy, hxy⟩ := h
  exact ⟨y, x, hy, hx, alike_symm (distinct_list.mp hd x (List.mem_of_getElem? hx)) hxy⟩

/-- The search among the positions before one. -/
theorem findIdx?_take_eq_some_iff (hj : j < items.length) :
    (items.take j).findIdx? (·.same items[j]) = some i ↔
      i < j ∧ SameAt items i j ∧ ∀ k < i, ¬ SameAt items k j := by
  have hlen : (items.take j).length = j := List.length_take_of_le (Nat.le_of_lt hj)
  rw [List.findIdx?_eq_some_iff_getElem]
  simp only [List.getElem_take]
  constructor
  · rintro ⟨hi, hsame, hnone⟩
    rw [hlen] at hi
    refine ⟨hi, (sameAt_iff (by omega) hj).mpr hsame, fun k hk h => ?_⟩
    exact hnone k hk ((sameAt_iff (by omega) hj).mp h)
  · rintro ⟨hi, hsame, hnone⟩
    refine ⟨hlen.symm ▸ hi, (sameAt_iff (by omega) hj).mp hsame, fun k hk h => ?_⟩
    exact hnone k hk ((sameAt_iff (by omega) hj).mpr h)

private theorem findIdx?_take_eq_none_iff (hj : j < items.length) :
    (items.take j).findIdx? (·.same items[j]) = none ↔ ∀ k < j, ¬ SameAt items k j := by
  rw [List.findIdx?_eq_none_iff]
  constructor
  · intro hnone k hk h
    have hmem : items[k] ∈ items.take j := List.mem_take_iff_getElem.mpr ⟨k, by omega, rfl⟩
    exact Bool.eq_false_iff.mp (hnone _ hmem) ((sameAt_iff (by omega) hj).mp h)
  · intro hnone x hx
    obtain ⟨k, hk, rfl⟩ := List.mem_take_iff_getElem.mp hx
    exact Bool.eq_false_iff.mpr fun h => hnone k (by omega) ((sameAt_iff (by omega) hj).mpr h)

/-- What is found is the first repeat. -/
theorem firstRepeat?_eq_some_iff : firstRepeat? items = some (i, j) ↔ IsFirstRepeat items i j := by
  rw [firstRepeat?, findSome?_range_eq_some_iff]
  constructor
  · rintro ⟨l, hl, hfound, hnone⟩
    rw [List.getElem?_eq_getElem hl] at hfound
    obtain ⟨k, hk, he⟩ := Option.map_eq_some_iff.mp hfound
    cases he
    obtain ⟨hlt, hsame, hearliest⟩ := (findIdx?_take_eq_some_iff hl).mp hk
    refine ⟨hlt, hl, hsame, fun k l hkl hlj => ?_, hearliest⟩
    have hl := Nat.lt_trans hlj hl
    have hnone := hnone l hlj
    rw [List.getElem?_eq_getElem hl] at hnone
    exact (findIdx?_take_eq_none_iff hl).mp (Option.map_eq_none_iff.mp hnone) k hkl
  · rintro ⟨hlt, hj, hsame, hleast, hearliest⟩
    refine ⟨j, hj, ?_, fun l hl => ?_⟩
    · rw [List.getElem?_eq_getElem hj]
      exact Option.map_eq_some_iff.mpr
        ⟨i, (findIdx?_take_eq_some_iff hj).mpr ⟨hlt, hsame, hearliest⟩, rfl⟩
    · rw [List.getElem?_eq_getElem (Nat.lt_trans hl hj)]
      exact Option.map_eq_none_iff.mpr
        ((findIdx?_take_eq_none_iff (Nat.lt_trans hl hj)).mpr fun k hk => hleast k l hk hl)

/-- Nothing is found just if different positions hold different items, whichever comes first. -/
theorem firstRepeat?_eq_none_iff (hd : (Value.list items).Distinct) :
    firstRepeat? items = none ↔ ∀ i j, i ≠ j → ¬ SameAt items i j := by
  rw [← Option.isNone_iff_eq_none, firstRepeat?_isNone_iff, List.pairwise_iff_getElem]
  constructor
  · intro h i j hne hsame
    obtain ⟨x, y, hx, hy, -⟩ := id hsame
    obtain ⟨hi, -⟩ := List.getElem?_eq_some_iff.mp hx
    obtain ⟨hj, -⟩ := List.getElem?_eq_some_iff.mp hy
    rcases Nat.lt_or_gt_of_ne hne with hlt | hlt
    · exact Bool.eq_false_iff.mp (h i j hi hj hlt) ((sameAt_iff hi hj).mp hsame)
    · exact Bool.eq_false_iff.mp (h j i hj hi hlt) ((sameAt_iff hj hi).mp (hsame.symm hd))
  · intro h i j hi hj hij
    exact Bool.eq_false_iff.mpr fun hsame => h i j (Nat.ne_of_lt hij) ((sameAt_iff hi hj).mpr hsame)

/-- Whether some items repeat does not depend on their order. -/
theorem firstRepeat?_isNone_perm {other : List Value} (hd : (Value.list items).Distinct)
    (hp : items.Perm other) : (firstRepeat? other).isNone = (firstRepeat? items).isNone := by
  have hmutual {l : List Value} (hl : (Value.list l).Distinct) :
      (firstRepeat? l).isNone = true ↔
        l.Pairwise fun x y => x.same y = false ∧ y.same x = false := by
    rw [firstRepeat?_isNone_iff]
    refine List.Pairwise.iff_of_mem fun {x y} hx hy => ?_
    have hcomm : x.same y = y.same x := alike_comm (distinct_list.mp hl x hx) (distinct_list.mp hl y hy)
    rw [hcomm, and_self_iff]
  have hd' : (Value.list other).Distinct :=
    distinct_list.mpr fun x hx => distinct_list.mp hd x (hp.mem_iff.mpr hx)
  rw [Bool.eq_iff_iff, hmutual hd', hmutual hd]
  exact (hp.pairwise_iff And.symm).symm

/-- A list is said to repeat an item just if two of its positions are equal. What is found is the least
position that repeats an earlier one, and the least it repeats. Whether items are unique does not depend
on their order, and where they are not the message tells these two positions. -/
theorem firstRepeat?_exact (hd : (Value.list items).Distinct) :
    (firstRepeat? items = none ↔ ∀ i j, i ≠ j → ¬ SameAt items i j) ∧
    (∀ i j, firstRepeat? items = some (i, j) ↔ IsFirstRepeat items i j) ∧
    (∀ other, items.Perm other → ConstraintName.uniqueItems.holds (.boolean true) (.list other) =
      ConstraintName.uniqueItems.holds (.boolean true) (.list items)) ∧
    (ConstraintName.uniqueItems.holds (.boolean true) (.list items) = false →
      ∃ i j, IsFirstRepeat items i j ∧
        ConstraintName.uniqueItems.describe (.boolean true) (.list items) =
          "items at index " ++ toString i ++ " and " ++ toString j
            ++ " are equal, violating uniqueItems") := by
  refine ⟨firstRepeat?_eq_none_iff hd, fun _ _ => firstRepeat?_eq_some_iff,
    fun _ hp => firstRepeat?_isNone_perm hd hp, fun hfails => ?_⟩
  have hsome : firstRepeat? items ≠ none := fun hnone => by
    have hholds : ConstraintName.uniqueItems.holds (.boolean true) (.list items) = true :=
      Option.isNone_iff_eq_none.mpr hnone
    exact Bool.noConfusion (hholds.symm.trans hfails)
  obtain ⟨⟨i, j⟩, hfound⟩ := Option.ne_none_iff_exists'.mp hsome
  exact ⟨i, j, firstRepeat?_eq_some_iff.mp hfound, ConstraintName.describe_uniqueItems hfound _⟩

/-- Two NaN, a number and its successor repeat nothing. The float that both are rounded to repeats the
first of them, in whatever order they stand. -/
theorem firstRepeat?_exact_of_neighbours :
    let i : Int64 := 9007199254740992
    let j : Int64 := 9007199254740993
    let x : Value := .record [("id", .int i)]
    let y : Value := .record [("id", .int j)]
    let f : Value := .record [("id", .float (.ofInt i.toInt))]
    let items : List Value := [.float .nan, x, .float .nan, y, f]
    (Value.list items).Distinct ∧ IsFirstRepeat items 1 4 ∧
      ConstraintName.uniqueItems.holds (.boolean true) (.list items.reverse) = false ∧
      ConstraintName.uniqueItems.describe (.boolean true) (.list items) =
        "items at index 1 and 4 are equal, violating uniqueItems" := by
  intro i j x y f items
  have hd : (Value.list items).Distinct := by
    have hrecord {v : Value} (hv : v.kind.isScalar = true) : (Value.record [("id", v)]).Distinct :=
      distinct_record.mpr
        ⟨by simp [Entries.keys], List.forall_mem_singleton.mpr (distinct_leaf (.inr hv))⟩
    have hnan : (Value.float .nan).Distinct := distinct_leaf (.inr rfl)
    simp only [items, distinct_list, List.forall_mem_cons]
    exact ⟨hnan, hrecord rfl, hnan, hrecord rfl, hrecord rfl, List.forall_mem_nil _⟩
  obtain ⟨-, hfirst, hperm, hmessage⟩ := firstRepeat?_exact hd
  have hfound : firstRepeat? items = some (1, 4) := by decide +kernel
  have hfails : ConstraintName.uniqueItems.holds (.boolean true) (.list items) = false := by
    decide +kernel
  refine ⟨hd, (hfirst 1 4).mp hfound, (hperm _ items.reverse_perm.symm).trans hfails, ?_⟩
  obtain ⟨k, l, hkl, htext⟩ := hmessage hfails
  cases ((hfirst k l).mpr hkl).symm.trans hfound
  exact htext

end Value
end ConstraintDirectives
