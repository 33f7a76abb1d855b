import Mathlib.Data.List.Forall2
import ConstraintDirectives.Proofs.Matching
import ConstraintDirectives.Proofs.ValueParts

namespace ConstraintDirectives.Value

/-- Each property stands once, at every depth. -/
inductive Distinct : Value → Prop where
  | leaf {v : Value} : v.kind ≠ .list → v.kind ≠ .record → Distinct v
  | list {items : List Value} : (∀ x ∈ items, Distinct x) → Distinct (.list items)
  | record {properties : List (String × Value)} : (Entries.keys properties).Nodup →
      (∀ p ∈ properties, Distinct p.2) → Distinct (.record properties)

theorem distinct_leaf {v : Value} (h : v = .null ∨ v.kind.isScalar = true) : v.Distinct := by
  cases v with
  | list | record => simp [kind, ValueKind.isScalar] at h
  | null | boolean | int | float | string => exact .leaf (by simp [kind]) (by simp [kind])

@[simp] theorem distinct_list {items : List Value} :
    (Value.list items).Distinct ↔ ∀ x ∈ items, x.Distinct := by
  constructor
  · intro h
    cases h with
    | leaf hl _ => exact absurd rfl hl
    | list hitems => exact hitems
  · exact .list

@[simp] theorem distinct_record {properties : List (String × Value)} :
    (Value.record properties).Distinct ↔
      (Entries.keys properties).Nodup ∧ ∀ p ∈ properties, p.2.Distinct := by
  constructor
  · intro h
    cases h with
    | leaf _ hr => exact absurd rfl hr
    | record hn hps => exact ⟨hn, hps⟩
  · exact fun h => .record h.1 h.2

theorem distinct_record_cons {entry : String × Value} {rest : List (String × Value)} :
    (Value.record (entry :: rest)).Distinct ↔
      entry.1 ∉ Entries.keys rest ∧ entry.2.Distinct ∧ (Value.record rest).Distinct := by
  rw [distinct_record, distinct_record, List.forall_mem_cons, Entries.keys, List.map_cons,
    List.nodup_cons]
  exact ⟨fun ⟨⟨hfresh, hn⟩, he, hrest⟩ => ⟨hfresh, he, hn, hrest⟩,
    fun ⟨hfresh, he, hn, hrest⟩ => ⟨⟨hfresh, hn⟩, he, hrest⟩⟩

theorem distinct_list_of_length {xs ys : List Value} (hlen : xs.length = ys.length)
    (h : ∀ (i : Nat) x y, xs[i]? = some x → ys[i]? = some y → y.Distinct) :
    (Value.list ys).Distinct := by
  refine .list fun y hy => ?_
  obtain ⟨i, hi⟩ := List.mem_iff_getElem?.mp hy
  have hlt : i < xs.length := hlen ▸ (List.getElem?_eq_some_iff.mp hi).1
  exact h i _ y (List.getElem?_eq_getElem hlt) hi

theorem distinct_record_of_keys {ps qs : List (String × Value)} (hn : (Entries.keys ps).Nodup)
    (hk : (Entries.keys ps).Perm (Entries.keys qs))
    (h : ∀ name x y, Entries.get? ps name = some x → Entries.get? qs name = some y → y.Distinct) :
    (Value.record qs).Distinct := by
  have hn' : (Entries.keys qs).Nodup := hk.nodup_iff.mp hn
  refine .record hn' fun q hq => ?_
  have hget : Entries.get? qs q.1 = some q.2 := Entries.get?_of_mem hn' hq
  obtain ⟨x, hx⟩ := Entries.exists_get?_of_keys hk.mem_iff hget
  exact h q.1 x q.2 hx hget

theorem Distinct.part {v part : Value} {path : ValuePath} (hd : v.Distinct)
    (hp : v.part? path = some part) : part.Distinct := by
  induction path generalizing v with
  | nil =>
    cases hp
    exact hd
  | cons s rest ih =>
    cases hd with
    | leaf hl hr =>
      rw [part?_cons_of_leaf hl hr] at hp
      cases hp
    | list hitems =>
      rcases part?_list.mp hp with ⟨he, _⟩ | ⟨k, x, r, he, hx, hpart⟩
      · cases he
      · cases he
        exact ih (hitems x (List.mem_of_getElem? hx)) hpart
    | record _ hps =>
      rcases part?_record.mp hp with ⟨he, _⟩ | ⟨name, x, r, he, hx, hpart⟩
      · cases he
      · cases he
        exact ih (hps _ (Entries.mem_of_get? hx)) hpart

/-- The same value with the properties of its records in other orders, also inside lists. -/
inductive Rearranges : Value → Value → Prop where
  | leaf {v : Value} : v.kind ≠ .list → v.kind ≠ .record → Rearranges v v
  | list {xs ys : List Value} : xs.length = ys.length →
      (∀ (i : Nat) x y, xs[i]? = some x → ys[i]? = some y → Rearranges x y) →
      Rearranges (.list xs) (.list ys)
  | record {ps qs : List (String × Value)} : (Entries.keys ps).Perm (Entries.keys qs) →
      (∀ name x y, Entries.get? ps name = some x → Entries.get? qs name = some y → Rearranges x y) →
      Rearranges (.record ps) (.record qs)

namespace Rearranges
variable {v w : Value} {xs ys : List Value} {ps qs : List (String × Value)}

theorem refl (v : Value) : v.Rearranges v := by
  induction v using byParts with
  | null => exact .leaf (by simp [kind]) (by simp [kind])
  | scalar v hv =>
    apply leaf
    · intro h
      simp [h, ValueKind.isScalar] at hv
    · intro h
      simp [h, ValueKind.isScalar] at hv
  | list items ih =>
    refine .list rfl fun i x y hx hy => ?_
    cases hx.symm.trans hy
    exact ih x (List.mem_of_getElem? hx)
  | record ps ih =>
    refine .record (.refl _) fun name x y hx hy => ?_
    cases hx.symm.trans hy
    exact ih _ (Entries.mem_of_get? hx)

theorem symm (h : v.Rearranges w) : w.Rearranges v := by
  induction h with
  | leaf hl hr => exact .leaf hl hr
  | list hlen _ ih => exact .list hlen.symm fun i x y hx hy => ih i y x hy hx
  | record hk _ ih => exact .record hk.symm fun name x y hx hy => ih name y x hy hx

theorem items (h : (Value.list xs).Rearranges (.list ys)) : List.Forall₂ Rearranges xs ys := by
  cases h with
  | leaf hl _ => exact absurd rfl hl
  | list hlen hitems =>
    refine List.forall₂_iff_get.mpr ⟨hlen, fun i hi hi' => ?_⟩
    exact hitems i _ _ (List.getElem?_eq_getElem hi) (List.getElem?_eq_getElem hi')

theorem get? (h : (Value.record ps).Rearranges (.record qs)) (name : String) :
    Option.Rel Rearranges (Entries.get? ps name) (Entries.get? qs name) := by
  cases h with
  | leaf _ hr => exact absurd rfl hr
  | record hk hps => exact Entries.rel_get? hk.mem_iff (hps name)

theorem of_perm (hn : (Entries.keys ps).Nodup) (h : ps.Perm qs) :
    (Value.record ps).Rearranges (.record qs) := by
  refine .record (h.map Prod.fst) fun name x y hx hy => ?_
  rw [Entries.get?_of_perm hn h] at hx
  cases hx.symm.trans hy
  exact .refl x

/-- Rearranging repeats nothing and leaves nothing out. -/
theorem distinct (h : v.Rearranges w) (hv : v.Distinct) : w.Distinct := by
  induction h with
  | leaf => exact hv
  | list hlen _ ih =>
    rw [distinct_list] at hv
    exact distinct_list_of_length hlen fun i x y hx hy =>
      ih i x y hx hy (hv x (List.mem_of_getElem? hx))
  | record hk _ ih =>
    rw [distinct_record] at hv
    exact distinct_record_of_keys hv.1 hk fun name x y hx hy =>
      ih name x y hx hy (hv.2 _ (Entries.mem_of_get? hx))

end Rearranges

/-! ### Equality -/

section Equality
variable {mixed : Bool} {xs ys : List Value} {ps qs : List (String × Value)}

theorem alikeItems_iff : alikeItems mixed xs ys = true ↔
    List.Forall₂ (fun x y => alike mixed x y = true) xs ys := by
  induction xs generalizing ys with
  | nil => cases ys <;> simp [alikeItems]
  | cons x xs ih => cases ys <;> simp [alikeItems, ih]

private theorem alikeProperties_iff : alikeProperties mixed ps qs = true ↔
    ∀ p ∈ ps, ∃ y, Entries.get? qs p.1 = some y ∧ alike mixed p.2 y = true := by
  induction ps with
  | nil => simp [alikeProperties]
  | cons p ps ih =>
    rw [alikeProperties, Bool.and_eq_true, ih, List.forall_mem_cons]
    apply and_congr_left'
    cases Entries.get? qs p.1 <;> simp

theorem alike_record_iff (hn : (Entries.keys ps).Nodup) :
    alike mixed (.record ps) (.record qs) = true ↔ ps.length = qs.length ∧
      ∀ name x, Entries.get? ps name = some x →
        ∃ y, Entries.get? qs name = some y ∧ alike mixed x y = true := by
  rw [alike, Bool.and_eq_true, beq_iff_eq, alikeProperties_iff]
  apply and_congr_right'
  constructor
  · exact fun h name x hx => h (name, x) (Entries.mem_of_get? hx)
  · exact fun h p hp => h p.1 p.2 (Entries.get?_of_mem hn hp)

/-- Values that are alike stay so when either is rearranged. -/
theorem alike_of_rearranges {v v' w w' : Value} (hv : v.Rearranges v') (hw : w.Rearranges w')
    (hd : v.Distinct) (h : alike mixed v w = true) : alike mixed v' w' = true := by
  induction hv generalizing w w' with
  | @leaf v hl hr =>
    cases hw with
    | leaf => exact h
    | list | record => cases v <;> simp_all [alike, kind]
  | @list xs xs' hlen hitems ih =>
    cases hw with
    | leaf hl hr => cases w <;> simp_all [alike, kind]
    | record => simp [alike] at h
    | @list ys ys' hlen' hitems' =>
      rw [alike, alikeItems_iff, List.forall₂_iff_get] at h ⊢
      refine ⟨hlen ▸ hlen' ▸ h.1, fun i hi hi' => ?_⟩
      have hx : xs[i]? = some xs[i] := List.getElem?_eq_getElem (hlen ▸ hi)
      have hy : ys[i]? = some ys[i] := List.getElem?_eq_getElem (hlen' ▸ hi')
      exact ih i _ _ hx (List.getElem?_eq_getElem hi)
        (hitems' i _ _ hy (List.getElem?_eq_getElem hi'))
        (distinct_list.mp hd _ (List.mem_of_getElem? hx)) (h.2 i _ _)
  | @record ps ps' hk hps ih =>
    cases hw with
    | leaf hl hr => cases w <;> simp_all [alike, kind]
    | list => simp [alike] at h
    | @record qs qs' hk' hqs =>
      obtain ⟨hn, hd⟩ := distinct_record.mp hd
      rw [alike_record_iff hn] at h
      rw [alike_record_iff (hk.nodup_iff.mp hn)]
      have hlen : ps'.length = ps.length := by simpa [Entries.keys] using hk.length_eq.symm
      have hlen' : qs.length = qs'.length := by simpa [Entries.keys] using hk'.length_eq
      refine ⟨hlen.trans (h.1.trans hlen'), fun name x' hx' => ?_⟩
      obtain ⟨x, hx⟩ := Entries.exists_get?_of_keys hk.mem_iff hx'
      obtain ⟨y, hy, hxy⟩ := h.2 name x hx
      obtain ⟨y', hy'⟩ := Entries.exists_get?_of_keys hk'.symm.mem_iff hy
      exact ⟨y', hy', ih name x x' hx hx' (hqs name y y' hy hy')
        (hd _ (Entries.mem_of_get? hx)) hxy⟩

private theorem alike_congr {v v' w w' : Value} (hv : v.Rearranges v') (hw : w.Rearranges w')
    (hd : v.Distinct) : alike mixed v w = alike mixed v' w' :=
  Bool.eq_iff_iff.mpr ⟨alike_of_rearranges hv hw hd,
    alike_of_rearranges hv.symm hw.symm (hv.distinct hd)⟩

theorem same_congr {v v' w w' : Value} (hv : v.Rearranges v') (hw : w.Rearranges w')
    (hd : v.Distinct) : v.same w = v'.same w' :=
  alike_congr hv hw hd

end Equality

/-- Which items repeat each other depends on nothing but which of them are the same. -/
theorem firstRepeat?_eq {xs ys : List Value} (hlen : xs.length = ys.length)
    (h : ∀ (k l : Nat) x x' y y', k < l → xs[k]? = some x → ys[k]? = some x' → xs[l]? = some y →
      ys[l]? = some y' → x.same y = x'.same y') : firstRepeat? xs = firstRepeat? ys := by
  rw [firstRepeat?, firstRepeat?, hlen]
  congr 1
  funext j
  cases hx : xs[j]? with
  | none =>
    have hy : ys[j]? = none := List.getElem?_eq_none (hlen ▸ List.getElem?_eq_none_iff.mp hx)
    rw [hy]
  | some x =>
    have hj : j < ys.length := hlen ▸ (List.getElem?_eq_some_iff.mp hx).1
    have hy : ys[j]? = some ys[j] := List.getElem?_eq_getElem hj
    have hearlier : List.Forall₂ (fun a a' => a.same x = a'.same ys[j]) (xs.take j) (ys.take j) := by
      refine List.forall₂_iff_get.mpr ⟨by simp [hlen], fun k hk hk' => ?_⟩
      rw [List.length_take] at hk hk'
      simp only [List.get_eq_getElem, List.getElem_take]
      exact h k j _ _ _ _ (by omega) (List.getElem?_eq_getElem (by omega))
        (List.getElem?_eq_getElem (by omega)) hx hy
    rw [hy]
    simp only
    rw [Matching.findIdx?_eq hearlier fun _ _ _ => id]

/-- Which items repeat each other does not depend on the order of properties. -/
theorem firstRepeat?_congr {xs ys : List Value} (h : (Value.list xs).Rearranges (.list ys))
    (hd : (Value.list xs).Distinct) : firstRepeat? xs = firstRepeat? ys := by
  have hitem {k : Nat} {x x' : Value} (hx : xs[k]? = some x) (hx' : ys[k]? = some x') :
      x.Rearranges x' := by
    have hrel := Matching.getElem? h.items k
    rwa [hx, hx', Option.rel_some_some] at hrel
  refine firstRepeat?_eq h.items.length_eq fun k l x x' y y' _ hx hx' hy hy' => ?_
  exact same_congr (hitem hx hx') (hitem hy hy') (distinct_list.mp hd x (List.mem_of_getElem? hx))

end ConstraintDirectives.Value
