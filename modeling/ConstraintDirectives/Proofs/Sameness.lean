import Mathlib.Data.List.Perm.Subperm
import ConstraintDirectives.Proofs.ValueOrder

namespace ConstraintDirectives

namespace Binary64

theorem equal_comm (x y : Binary64) : x.equal y = y.equal x := by
  rw [equal, equal, related, related]
  cases x.rank? with
  | none => cases y.rank? <;> rfl
  | some a =>
    cases y.rank? with
    | none => rfl
    | some b => exact decide_eq_decide.mpr eq_comm

theorem equal_self_iff {x : Binary64} : x.equal x = true ↔ x ≠ .nan := by
  cases x with
  | nan => exact iff_of_false nofun fun h => h rfl
  | infinite | finite => exact iff_of_true (decide_eq_true rfl) nofun

end Binary64

namespace Value
variable {mixed : Bool}

/-- A record that has as many properties as one that all of its keys are among has the same keys. -/
theorem keys_perm {ps qs : List (String × Value)} (hn : (Entries.keys ps).Nodup)
    (hlen : ps.length = qs.length) (hsub : ∀ name x, Entries.get? ps name = some x →
      ∃ y, Entries.get? qs name = some y) : (Entries.keys ps).Perm (Entries.keys qs) := by
  have hkeys : Entries.keys ps ⊆ Entries.keys qs := by
    intro name hmem
    obtain ⟨x, hx⟩ := (Entries.exists_get?_iff ps name).mpr hmem
    exact (Entries.exists_get?_iff qs name).mp (hsub name x hx)
  refine (List.subperm_of_subset hn hkeys).perm_of_length_le ?_
  rw [Entries.keys, Entries.keys, List.length_map, List.length_map]
  exact Nat.le_of_eq hlen.symm

theorem alike_symm {v w : Value} (hd : v.Distinct) (h : alike mixed v w = true) :
    alike mixed w v = true := by
  induction v using byParts generalizing w with
  | null => cases w <;> first | rfl | cases h
  | scalar v hv =>
    cases v <;> cases w <;> simp_all [alike, kind, ValueKind.isScalar, Binary64.equal_comm]
  | list xs ih =>
    cases w with
    | list ys =>
      rw [alike, alikeItems_iff, List.forall₂_iff_get] at h ⊢
      refine ⟨h.1.symm, fun i hi hi' => ?_⟩
      exact ih _ (List.getElem_mem hi') (distinct_list.mp hd _ (List.getElem_mem hi')) (h.2 i hi' hi)
    | null | boolean | int | float | string | record => cases h
  | record ps ih =>
    cases w with
    | record qs =>
      obtain ⟨hn, hd⟩ := distinct_record.mp hd
      rw [alike_record_iff hn] at h
      -- Look-up goes from left to right only; that no key is left over on the right is by number.
      have hperm : (Entries.keys ps).Perm (Entries.keys qs) :=
        keys_perm hn h.1 fun name x hx => (h.2 name x hx).imp fun _ => And.left
      rw [alike_record_iff (hperm.nodup_iff.mp hn)]
      refine ⟨h.1.symm, fun name y hy => ?_⟩
      obtain ⟨x, hx⟩ := Entries.exists_get?_of_keys hperm.mem_iff hy
      obtain ⟨y', hy', hxy⟩ := h.2 name x hx
      cases hy.symm.trans hy'
      exact ⟨x, hx, ih _ (Entries.mem_of_get? hx) (hd _ (Entries.mem_of_get? hx)) hxy⟩
    | null | boolean | int | float | string | list => cases h

theorem alike_comm {v w : Value} (hv : v.Distinct) (hw : w.Distinct) :
    alike mixed v w = alike mixed w v :=
  Bool.eq_iff_iff.mpr ⟨alike_symm hv, alike_symm hw⟩

def NanFree (v : Value) : Prop := ∀ path, v.part? path ≠ some (.float .nan)

section NanFree
variable {v : Value} {items : List Value} {ps : List (String × Value)}

theorem nanFree_leaf (h : v = .null ∨ v.kind.isScalar = true) : v.NanFree ↔ v ≠ .float .nan := by
  constructor
  · exact fun hfree he => hfree [] (congrArg some he)
  · exact fun hne path hp => hne ((part?_leaf h).mp hp).2.symm

theorem nanFree_list : (Value.list items).NanFree ↔ ∀ x ∈ items, x.NanFree := by
  constructor
  · intro h x hx path hp
    obtain ⟨i, hi⟩ := List.mem_iff_getElem?.mp hx
    exact h (.index i :: path) (part?_list.mpr (.inr ⟨i, x, path, rfl, hi, hp⟩))
  · intro h path hp
    rcases part?_list.mp hp with ⟨_, he⟩ | ⟨i, x, rest, _, hi, hpart⟩
    · cases he
    · exact h x (List.mem_of_getElem? hi) rest hpart

theorem nanFree_record : (Value.record ps).NanFree ↔
    ∀ name x, Entries.get? ps name = some x → x.NanFree := by
  constructor
  · exact fun h name x hx path hp =>
      h (.key name :: path) (part?_record.mpr (.inr ⟨name, x, path, rfl, hx, hp⟩))
  · intro h path hp
    rcases part?_record.mp hp with ⟨_, he⟩ | ⟨name, x, rest, _, hx, hpart⟩
    · cases he
    · exact h name x hx rest hpart

theorem alike_self_iff (hd : v.Distinct) : alike mixed v v = true ↔ v.NanFree := by
  induction v using byParts with
  | null =>
    refine iff_of_true rfl ((nanFree_leaf (.inl rfl)).mpr ?_)
    intro h
    cases h
  | scalar v hv =>
    rw [nanFree_leaf (.inr hv)]
    cases v with
    | float x => rw [alike, Binary64.equal_self_iff, ne_eq, ne_eq, float.injEq]
    | boolean | int | string =>
      refine iff_of_true (beq_self_eq_true _) ?_
      intro h
      cases h
    | null | list | record => cases hv
  | list items ih =>
    rw [alike, alikeItems_iff, List.forall₂_same, nanFree_list]
    exact forall₂_congr fun x hx => ih x hx (distinct_list.mp hd x hx)
  | record ps ih =>
    obtain ⟨hn, hd⟩ := distinct_record.mp hd
    have hself (name : String) (x : Value) (hx : Entries.get? ps name = some x) :
        alike mixed x x = true ↔ x.NanFree :=
      ih _ (Entries.mem_of_get? hx) (hd _ (Entries.mem_of_get? hx))
    rw [alike_record_iff hn, nanFree_record]
    constructor
    · intro h name x hx
      obtain ⟨y, hy, hxy⟩ := h.2 name x hx
      cases hx.symm.trans hy
      exact (hself name x hx).mp hxy
    · exact fun h => ⟨rfl, fun name x hx => ⟨x, hx, (hself name x hx).mpr (h name x hx)⟩⟩

end NanFree

/-- No position repeats an earlier one just if no two items are the same. -/
theorem firstRepeat?_isNone_iff {items : List Value} :
    (firstRepeat? items).isNone = true ↔ items.Pairwise fun x y => x.same y = false := by
  rw [Option.isNone_iff_eq_none, firstRepeat?, List.findSome?_eq_none_iff, List.pairwise_iff_getElem]
  constructor
  · intro h i j hi hj hij
    have hj' := h j (List.mem_range.mpr hj)
    rw [List.getElem?_eq_getElem hj] at hj'
    have hnone := List.findIdx?_eq_none_iff.mp (Option.map_eq_none_iff.mp hj')
    exact hnone _ (List.mem_take_iff_getElem.mpr ⟨i, by omega, rfl⟩)
  · intro h j hj
    have hj := List.mem_range.mp hj
    rw [List.getElem?_eq_getElem hj]
    refine Option.map_eq_none_iff.mpr (List.findIdx?_eq_none_iff.mpr fun x hx => ?_)
    obtain ⟨i, hi, rfl⟩ := List.mem_take_iff_getElem.mp hx
    exact h i j (by omega) hj (by omega)

/-- Equality of values is symmetric, a value is equal to itself if no part of it is a NaN, and the
order of the properties on either side does not matter. -/
theorem same_comm_self_rearranged {x y : Value} (hx : x.Distinct) (hy : y.Distinct) :
    x.same y = y.same x ∧ (x.same x = true ↔ ∀ path, x.part? path ≠ some (.float .nan)) ∧
      ∀ x' y', x.Rearranges x' → y.Rearranges y' → x'.same y' = x.same y :=
  ⟨alike_comm hx hy, alike_self_iff hx, fun _ _ hx' hy' => (same_congr hx' hy' hx).symm⟩

/-- Records of which one has an integer where the other has a float, in either order, and a NaN. -/
theorem same_comm_self_rearranged_of_mixed :
    let x : Value := .record [("sizes", .list [.int 1, .float .nan]), ("note", .null)]
    let y : Value := .record [("note", .null), ("sizes", .list [.float (.ofInt 1), .int 2])]
    x.Distinct ∧ y.Distinct ∧ x.same y = y.same x ∧ x.same x = false ∧
      (Value.record [("note", .null), ("sizes", .list [.int 1, .float .nan])]).same y = x.same y := by
  intro x y
  have hx : x.Distinct := by
    simp only [x, distinct_record, distinct_list, List.forall_mem_cons]
    exact ⟨by decide, ⟨distinct_leaf (.inr rfl), distinct_leaf (.inr rfl), List.forall_mem_nil _⟩,
      distinct_leaf (.inl rfl), List.forall_mem_nil _⟩
  have hy : y.Distinct := by
    simp only [y, distinct_record, distinct_list, List.forall_mem_cons]
    exact ⟨by decide, distinct_leaf (.inl rfl), ⟨distinct_leaf (.inr rfl), distinct_leaf (.inr rfl),
      List.forall_mem_nil _⟩, List.forall_mem_nil _⟩
  obtain ⟨hcomm, hself, hswap⟩ := same_comm_self_rearranged hx hy
  have hnan : ¬ x.same x = true := fun h => hself.mp h [.key "sizes", .index 1] rfl
  have hturned := Rearranges.of_perm (distinct_record.mp hx).1 (.swap ..)
  exact ⟨hx, hy, hcomm, Bool.eq_false_iff.mpr hnan, hswap _ y hturned (.refl y)⟩

end Value
end ConstraintDirectives
