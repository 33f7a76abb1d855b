import Mathlib.Data.String.Basic
import ConstraintDirectives.Proofs.JsonText
import ConstraintDirectives.Proofs.ValueOrder
import ConstraintDirectives.Value.Json

/-! Two ways to read a value from a document come to the same value, but for the order of properties. -/
namespace ConstraintDirectives

/-! ### Documents and their parts -/

namespace Json

/-- Induction on a document by its items and members. -/
theorem byParts {motive : Json → Prop}
    (leaf : ∀ j : Json, (∀ items, j ≠ .array items) → (∀ members, j ≠ .object members) → motive j)
    (array : ∀ items, (∀ x ∈ items, motive x) → motive (.array items))
    (object : ∀ members, (∀ m ∈ members, motive m.2) → motive (.object members))
    (j : Json) : motive j :=
  match j with
  | .array items => array items fun x _ => byParts leaf array object x
  | .object members => object members fun m _ => byParts leaf array object m.2
  | .null => leaf .null nofun nofun
  | .bool b => leaf (.bool b) nofun nofun
  | .integer i => leaf (.integer i) nofun nofun
  | .real x => leaf (.real x) nofun nofun
  | .string s => leaf (.string s) nofun nofun
  | .unreadable => leaf .unreadable nofun nofun
termination_by sizeOf j
decreasing_by
  · next hx =>
    have := List.sizeOf_lt_of_mem hx
    simp only [Json.array.sizeOf_spec]
    omega
  · next hm =>
    have := List.sizeOf_lt_of_mem hm
    cases m
    simp only [Json.object.sizeOf_spec, Prod.mk.sizeOf_spec] at this ⊢
    omega

/-- The part of a document that a path leads to. A name leads to the last member that has it. -/
def part? : Json → ValuePath → Option Json
  | j, [] => some j
  | .array items, .index i :: path => items[i]?.bind fun x => part? x path
  | .object members, .key name :: path =>
    (Entries.get? members.reverse name).bind fun x => part? x path
  | _, _ :: _ => none

/-! ### The order-free form -/

section Sorted
variable {k name : String} {j : Json} {done members : List (String × Json)}

private theorem get?_insertSorted : Entries.get? (insertSorted k j members) name =
    if k = name then some j else Entries.get? members name := by
  induction members with
  | nil => rfl
  | cons m ms ih =>
    obtain ⟨k', j'⟩ := m
    rw [insertSorted]
    split
    · next he =>
      subst he
      simp only [Entries.get?]
      split <;> rfl
    · next he =>
      split
      · rfl
      · simp only [Entries.get?, ih]
        split
        · next he' => rw [if_neg (he' ▸ he)]
        · rfl

private theorem mem_keys_insertSorted (h : name ∈ Entries.keys (insertSorted k j members)) :
    name = k ∨ name ∈ Entries.keys members := by
  rw [Entries.mem_keys_iff, get?_insertSorted] at h
  split at h
  · next he => exact .inl he.symm
  · exact .inr ((Entries.mem_keys_iff ..).mpr h)

private theorem pairwise_insertSorted (h : (Entries.keys members).Pairwise (· < ·)) :
    (Entries.keys (insertSorted k j members)).Pairwise (· < ·) := by
  induction members with
  | nil => exact List.pairwise_singleton _ _
  | cons m ms ih =>
    obtain ⟨k', j'⟩ := m
    obtain ⟨hfirst, hrest⟩ := List.pairwise_cons.mp h
    rw [insertSorted]
    split
    · next he =>
      subst he
      exact List.pairwise_cons.mpr ⟨hfirst, hrest⟩
    · next hne =>
      split
      · next hlt =>
        refine List.pairwise_cons.mpr ⟨fun name hm => ?_, h⟩
        rcases List.mem_cons.mp hm with rfl | hm
        · exact hlt
        · exact hlt.trans (hfirst name hm)
      · next hnlt =>
        refine List.pairwise_cons.mpr ⟨fun name hm => ?_, ih hrest⟩
        rcases mem_keys_insertSorted hm with rfl | hm
        · exact lt_of_le_of_ne (not_lt.mp hnlt) (Ne.symm hne)
        · exact hfirst name hm

private theorem pairwise_sortedMembers (h : (Entries.keys done).Pairwise (· < ·)) :
    (Entries.keys (sortedMembers done members)).Pairwise (· < ·) := by
  induction members generalizing done with
  | nil => exact h
  | cons m ms ih => exact ih (pairwise_insertSorted h)

private theorem nodup_keys_sortedMembers (members : List (String × Json)) :
    (Entries.keys (sortedMembers [] members)).Nodup :=
  (pairwise_sortedMembers .nil).imp fun hlt => hlt.ne

/-- Members that come later replace those already stored. -/
theorem get?_sortedMembers_into : Entries.get? (sortedMembers done members) name =
    ((Entries.get? members.reverse name).map sorted).or (Entries.get? done name) := by
  induction members generalizing done with
  | nil => rfl
  | cons m ms ih =>
    rw [sortedMembers, ih, get?_insertSorted, List.reverse_cons, Entries.get?_append, Option.map_or,
      Option.or_assoc, Entries.get?]
    congr 1
    split <;> rfl

/-- The last of some repeated members is kept. -/
theorem get?_sortedMembers (members : List (String × Json)) (name : String) :
    Entries.get? (sortedMembers [] members) name =
      (Entries.get? members.reverse name).map sorted := by
  rw [get?_sortedMembers_into, Entries.get?, Option.or_none]

private theorem get?_reverse_sortedMembers (members : List (String × Json)) (name : String) :
    Entries.get? (sortedMembers [] members).reverse name =
      (Entries.get? members.reverse name).map sorted := by
  rw [← Entries.get?_of_perm (nodup_keys_sortedMembers members) (List.reverse_perm _).symm,
    get?_sortedMembers]

private theorem mem_keys_sortedMembers (members : List (String × Json)) (name : String) :
    name ∈ Entries.keys (sortedMembers [] members) ↔ name ∈ Entries.keys members := by
  rw [Entries.mem_keys_iff, get?_sortedMembers, Option.isSome_map,
    ← Entries.mem_keys_iff, Entries.keys, List.map_reverse, List.mem_reverse, Entries.keys]

private theorem sortedItems_eq_map (items : List Json) : sortedItems items = items.map sorted := by
  induction items with
  | nil => rfl
  | cons x xs ih => rw [sortedItems, ih, List.map_cons]

private theorem sorted_of_leaf (ha : ∀ items, j ≠ .array items) (ho : ∀ members, j ≠ .object members) :
    j.sorted = j := by
  cases j with
  | array items => exact absurd rfl (ha items)
  | object members => exact absurd rfl (ho members)
  | null | bool | integer | real | string | unreadable => rfl

end Sorted
end Json

namespace Value
variable {j : Json} {items : List Json} {members : List (String × Json)} {v : Value}

/-! ### Variants in order -/

inductive Variant where
  | null
  | boolean
  | int
  | float
  | string
  | list
  | record

def Variant.all : List Variant := [.null, .boolean, .int, .float, .string, .list, .record]

structure Candidate where
  document : Json
  items : Option (List Value) := none
  members : Option (List (String × Value)) := none

/-- The value that a document is in one of the variants. Every number will do for a float. -/
def Variant.read? (variant : Variant) (c : Candidate) : Option Value :=
  match variant, c.document with
  | .null, .null => some .null
  | .boolean, .bool b => some (.boolean b)
  | .int, .integer i => (int64? i).map .int
  | .float, .integer i => some (.float (.ofInt i))
  | .float, .real x => some (.float x)
  | .string, .string s => some (.string s)
  | .list, .array _ => c.items.map .list
  | .record, .object _ => c.members.map fun ps => .record (Entries.ofList ps)
  | _, _ => none

def firstVariant? (c : Candidate) : Option Value := Variant.all.findSome? (·.read? c)

mutual
def ofUntagged? : Json → Option Value
  | .array items => firstVariant? { document := .array items, items := untaggedItems? items }
  | .object members =>
    firstVariant? { document := .object members, members := untaggedMembers? members }
  | j => firstVariant? { document := j }

def untaggedItems? : List Json → Option (List Value)
  | [] => some []
  | j :: js => do return (← ofUntagged? j) :: (← untaggedItems? js)

def untaggedMembers? : List (String × Json) → Option (List (String × Value))
  | [] => some []
  | (k, j) :: ms => do return (k, ← ofUntagged? j) :: (← untaggedMembers? ms)
end

private theorem untaggedItems?_eq (h : ∀ x ∈ items, ofUntagged? x = ofJson? x) :
    untaggedItems? items = ofItems? items := by
  induction items with
  | nil => rfl
  | cons x xs ih =>
    obtain ⟨hx, hxs⟩ := List.forall_mem_cons.mp h
    rw [untaggedItems?, ofItems?, hx, ih hxs]

private theorem untaggedMembers?_eq (h : ∀ m ∈ members, ofUntagged? m.2 = ofJson? m.2) :
    untaggedMembers? members = ofMembers? members := by
  induction members with
  | nil => rfl
  | cons m ms ih =>
    obtain ⟨hm, hms⟩ := List.forall_mem_cons.mp h
    rw [untaggedMembers?, ofMembers?, hm, ih hms]

/-- Trying the variants in order finds the one that the document is read as. -/
theorem ofUntagged?_eq (j : Json) : ofUntagged? j = ofJson? j := by
  induction j using Json.byParts with
  | leaf j ha ho =>
    cases j with
    | array items => exact absurd rfl (ha items)
    | object members => exact absurd rfl (ho members)
    | integer i =>
      have hvariant : firstVariant? { document := .integer i } = some (ofInteger i) := by
        rw [firstVariant?, ofInteger]
        cases hi : int64? i <;> simp [Variant.all, Variant.read?, hi]
      exact hvariant
    | null | bool | real | string | unreadable => rfl
  | array items ih =>
    rw [ofUntagged?, ofJson?, untaggedItems?_eq ih]
    cases ofItems? items <;> rfl
  | object members ih =>
    rw [ofUntagged?, ofJson?, untaggedMembers?_eq ih]
    cases ofMembers? members <;> rfl

/-! ### What is read -/

private theorem ofItems?_eq_some {vs : List Value} :
    ofItems? items = some vs ↔ List.Forall₂ (fun j v => ofJson? j = some v) items vs := by
  induction items generalizing vs with
  | nil => simp [ofItems?, eq_comm]
  | cons x xs ih =>
    simp [ofItems?, List.forall₂_cons_left_iff, Option.bind_eq_some_iff, ih, @eq_comm _ vs]

private theorem ofMembers?_eq_some {ps : List (String × Value)} :
    ofMembers? members = some ps ↔ Entries.Matches (fun j v => ofJson? j = some v) members ps := by
  induction members generalizing ps with
  | nil => simp [ofMembers?, eq_comm]
  | cons m ms ih =>
    simp [ofMembers?, List.forall₂_cons_left_iff, Option.bind_eq_some_iff, ih, @eq_comm _ ps,
      @eq_comm _ m.1]

private theorem exists_ofItems?_iff :
    (∃ vs, ofItems? items = some vs) ↔ ∀ x ∈ items, ∃ v, ofJson? x = some v := by
  simp only [ofItems?_eq_some]
  exact Matching.exists_iff

/-- An object can be read if each of its members can, repeated or not. -/
theorem exists_ofMembers?_iff :
    (∃ ps, ofMembers? members = some ps) ↔ ∀ m ∈ members, ∃ v, ofJson? m.2 = some v := by
  simp only [ofMembers?_eq_some, Matching.exists_iff]
  refine forall₂_congr fun m _ => ?_
  constructor
  · rintro ⟨p, -, hp⟩
    exact ⟨p.2, hp⟩
  · rintro ⟨v, hv⟩
    exact ⟨(m.1, v), rfl, hv⟩

private theorem eq_bind_of_rel {α β : Type} {f : α → Option β} {a : Option α} {b : Option β}
    (h : Option.Rel (fun x y => f x = some y) a b) : b = a.bind f := by
  cases h with
  | none => rfl
  | some hxy => exact hxy.symm

private theorem getElem?_ofItems? {vs : List Value} (h : ofItems? items = some vs) (i : Nat) :
    vs[i]? = items[i]?.bind ofJson? :=
  eq_bind_of_rel (Matching.getElem? (ofItems?_eq_some.mp h) i)

section Members
variable {ps : List (String × Value)}

/-- The last of some repeated members is the one that counts. -/
theorem get?_ofMembers? (h : ofMembers? members = some ps) (name : String) :
    Entries.get? (Entries.ofList ps) name =
      (Entries.get? members.reverse name).bind ofJson? := by
  rw [Entries.get?_ofList]
  have hmatch : Entries.Matches (fun j v => ofJson? j = some v) members.reverse ps.reverse :=
    List.rel_reverse (ofMembers?_eq_some.mp h)
  exact eq_bind_of_rel (hmatch.get? name)

private theorem mem_keys_ofMembers? (h : ofMembers? members = some ps) (name : String) :
    name ∈ Entries.keys (Entries.ofList ps) ↔ name ∈ Entries.keys members := by
  rw [Entries.mem_keys_iff, Entries.get?_ofList, ← Entries.mem_keys_iff,
    (ofMembers?_eq_some.mp h).keys_eq, Entries.keys, List.map_reverse, List.mem_reverse,
    Entries.keys]

end Members

private theorem kind_of_leaf (ha : ∀ items, j ≠ .array items) (ho : ∀ members, j ≠ .object members)
    (h : ofJson? j = some v) : v.kind ≠ .list ∧ v.kind ≠ .record := by
  cases j with
  | array items => exact absurd rfl (ha items)
  | object members => exact absurd rfl (ho members)
  | integer i =>
    cases h
    rw [ofInteger]
    split <;> simp [kind]
  | unreadable => cases h
  | null | bool | real | string =>
    cases h
    simp [kind]

/-- What is read has each property once. -/
theorem distinct_ofJson? (h : ofJson? j = some v) : v.Distinct := by
  induction j using Json.byParts generalizing v with
  | leaf j ha ho =>
    obtain ⟨hl, hr⟩ := kind_of_leaf ha ho h
    exact .leaf hl hr
  | array items ih =>
    obtain ⟨vs, hvs, rfl⟩ := Option.map_eq_some_iff.mp h
    refine .list fun x hx => ?_
    obtain ⟨i, hi⟩ := List.mem_iff_getElem?.mp hx
    rw [getElem?_ofItems? hvs] at hi
    obtain ⟨j, hj, hread⟩ := Option.bind_eq_some_iff.mp hi
    exact ih j (List.mem_of_getElem? hj) hread
  | object members ih =>
    obtain ⟨ps, hps, rfl⟩ := Option.map_eq_some_iff.mp h
    refine .record (Entries.nodup_keys_ofList ps) fun p hp => ?_
    have hget := Entries.get?_of_mem (Entries.nodup_keys_ofList ps) hp
    rw [get?_ofMembers? hps] at hget
    obtain ⟨j, hj, hread⟩ := Option.bind_eq_some_iff.mp hget
    exact ih (p.1, j) (List.mem_reverse.mp (Entries.mem_of_get? hj)) hread

/-- Each part of what is read is read from the same part of the document. -/
theorem part?_ofJson? (h : ofJson? j = some v) (path : ValuePath) :
    v.part? path = (j.part? path).bind ofJson? := by
  induction path generalizing j v with
  | nil => exact h.symm
  | cons s rest ih =>
    have hstep {part : Option Json} (hread : ∀ x ∈ part, ∃ x', ofJson? x = some x') :
        ((part.bind ofJson?).bind fun x => x.part? rest) =
          (part.bind fun x => x.part? rest).bind ofJson? := by
      cases part with
      | none => rfl
      | some x =>
        obtain ⟨x', hx'⟩ := hread x rfl
        rw [Option.bind_some, Option.bind_some, hx', Option.bind_some, ih hx']
    cases j with
    | array items =>
      obtain ⟨vs, hvs, rfl⟩ := Option.map_eq_some_iff.mp h
      cases s with
      | key name => rfl
      | index i =>
        rw [part?, Json.part?, getElem?_ofItems? hvs]
        exact hstep fun x hx => exists_ofItems?_iff.mp ⟨vs, hvs⟩ x (List.mem_of_getElem? hx)
    | object members =>
      obtain ⟨ps, hps, rfl⟩ := Option.map_eq_some_iff.mp h
      cases s with
      | index i => rfl
      | key name =>
        rw [part?, Json.part?, get?_ofMembers? hps]
        exact hstep fun x hx => exists_ofMembers?_iff.mp ⟨ps, hps⟩ (name, x)
          (List.mem_reverse.mp (Entries.mem_of_get? hx))
    | null | bool | integer | real | string | unreadable =>
      obtain ⟨hl, hr⟩ := kind_of_leaf (by simp) (by simp) h
      rw [part?_cons_of_leaf hl hr]
      cases s <;> rfl

section Sorted
variable {vs : List Value} {ps : List (String × Value)}

private theorem exists_rearranges_items (h : ofItems? items = some vs)
    (hitems : ∀ x ∈ items, ∀ v, ofJson? x = some v →
      ∃ w, ofJson? x.sorted = some w ∧ v.Rearranges w) :
    ∃ ws, ofItems? (items.map Json.sorted) = some ws ∧
      (Value.list vs).Rearranges (.list ws) := by
  have hreads := exists_ofItems?_iff.mp ⟨vs, h⟩
  obtain ⟨ws, hws⟩ : ∃ ws, ofItems? (items.map Json.sorted) = some ws := by
    refine exists_ofItems?_iff.mpr (List.forall_mem_map.mpr fun x hx => ?_)
    obtain ⟨v, hv⟩ := hreads x hx
    obtain ⟨w, hw, -⟩ := hitems x hx v hv
    exact ⟨w, hw⟩
  refine ⟨ws, hws, .list ?_ fun i v w hv hw => ?_⟩
  · have hlen := (ofItems?_eq_some.mp hws).length_eq
    rw [List.length_map] at hlen
    exact (ofItems?_eq_some.mp h).length_eq.symm.trans hlen
  · rw [getElem?_ofItems? h] at hv
    obtain ⟨j, hj, hjv⟩ := Option.bind_eq_some_iff.mp hv
    rw [getElem?_ofItems? hws, List.getElem?_map, hj] at hw
    obtain ⟨w', hw', hvw⟩ := hitems j (List.mem_of_getElem? hj) v hjv
    cases hw.symm.trans hw'
    exact hvw

private theorem exists_rearranges_members (h : ofMembers? members = some ps)
    (hmembers : ∀ m ∈ members, ∀ v, ofJson? m.2 = some v →
      ∃ w, ofJson? m.2.sorted = some w ∧ v.Rearranges w) :
    ∃ qs, ofMembers? (Json.sortedMembers [] members) = some qs ∧
      (Value.record (Entries.ofList ps)).Rearranges (.record (Entries.ofList qs)) := by
  have hreads := exists_ofMembers?_iff.mp ⟨ps, h⟩
  obtain ⟨qs, hqs⟩ : ∃ qs, ofMembers? (Json.sortedMembers [] members) = some qs := by
    refine exists_ofMembers?_iff.mpr fun m hm => ?_
    -- Each member kept is the order-free form of a member written.
    have hget := Entries.get?_of_mem (Json.nodup_keys_sortedMembers members) hm
    rw [Json.get?_sortedMembers] at hget
    obtain ⟨x, hx, hxm⟩ := Option.map_eq_some_iff.mp hget
    have hmem := List.mem_reverse.mp (Entries.mem_of_get? hx)
    obtain ⟨v, hv⟩ := hreads _ hmem
    obtain ⟨w, hw, -⟩ := hmembers _ hmem v hv
    exact ⟨w, hxm ▸ hw⟩
  refine ⟨qs, hqs, .record ?_ fun name v w hv hw => ?_⟩
  · refine (List.perm_ext_iff_of_nodup (Entries.nodup_keys_ofList ps)
      (Entries.nodup_keys_ofList qs)).mpr fun name => ?_
    rw [mem_keys_ofMembers? h, mem_keys_ofMembers? hqs, Json.mem_keys_sortedMembers]
  · rw [get?_ofMembers? h] at hv
    obtain ⟨j, hj, hjv⟩ := Option.bind_eq_some_iff.mp hv
    rw [get?_ofMembers? hqs, Json.get?_reverse_sortedMembers, hj] at hw
    obtain ⟨w', hw', hvw⟩ := hmembers _ (List.mem_reverse.mp (Entries.mem_of_get? hj)) v hjv
    cases hw.symm.trans hw'
    exact hvw

/-- The order-free form of a document is read as the same value, with properties in other orders. -/
theorem exists_rearranges_sorted (h : ofJson? j = some v) :
    ∃ w, ofJson? j.sorted = some w ∧ v.Rearranges w := by
  induction j using Json.byParts generalizing v with
  | leaf j ha ho =>
    exact ⟨v, (congrArg ofJson? (Json.sorted_of_leaf ha ho)).trans h, .refl v⟩
  | array items ih =>
    obtain ⟨vs, hvs, rfl⟩ := Option.map_eq_some_iff.mp h
    obtain ⟨ws, hws, hrearranges⟩ := exists_rearranges_items hvs fun x hx _ => ih x hx
    refine ⟨.list ws, ?_, hrearranges⟩
    rw [Json.sorted, Json.sortedItems_eq_map, ofJson?, hws]
    rfl
  | object members ih =>
    obtain ⟨ps, hps, rfl⟩ := Option.map_eq_some_iff.mp h
    obtain ⟨qs, hqs, hrearranges⟩ := exists_rearranges_members hps fun m hm _ => ih m hm
    refine ⟨.record (Entries.ofList qs), ?_, hrearranges⟩
    rw [Json.sorted, ofJson?, hqs]
    rfl

end Sorted

/-- Both ways succeed or fail together, with the same variant for each number. Of some repeated
members, both keep the last. -/
theorem readers_agree (text : String) :
    parse? text = (Json.parse? text).bind ofUntagged? ∧
      Option.Rel Rearranges (parse? text) (parseSorted? text) ∧
      ∀ j v, Json.parse? text = some j → parse? text = some v →
        v.Distinct ∧ ∀ path, v.part? path = (j.part? path).bind ofUntagged? := by
  have huntagged : ofUntagged? = ofJson? := funext ofUntagged?_eq
  rw [huntagged, parse?, parseSorted?]
  refine ⟨rfl, ?_, ?_⟩
  · cases Json.parse? text with
    | none => exact .none
    | some j =>
      rw [Option.bind_some, Option.bind_eq_bind, Option.bind_some]
      cases hv : ofJson? j with
      | none => exact .none
      | some v =>
        obtain ⟨w, hw, hvw⟩ := exists_rearranges_sorted hv
        rw [Option.bind_eq_bind, Option.bind_some, hw]
        exact .some hvw
  · intro j v hj hv
    rw [hj, Option.bind_some] at hv
    exact ⟨distinct_ofJson? hv, part?_ofJson? hv⟩

def repeatedDocument : Json :=
  .object [("b", .integer 1), ("a", .array [.integer 9223372036854775808]), ("b", .null)]

theorem readers_agree_on_repeatedDocument :
    ∃ v w, parse? repeatedDocument.render = some v ∧
      parseSorted? repeatedDocument.render = some w ∧ v.Rearranges w ∧
      v.part? [.key "b"] = some .null ∧
      v.part? [.key "a", .index 0] = some (.float (.ofInt 9223372036854775808)) := by
  have hlossless : repeatedDocument.Lossless := by
    refine .object fun m hm => ?_
    simp only [List.mem_cons, List.not_mem_nil, or_false] at hm
    obtain rfl | rfl | rfl := hm
    · exact .integer (by decide) (by decide)
    · exact .array (List.forall_mem_singleton.mpr (.integer (by decide) (by decide)))
    · exact .null
  have hdocument : Json.parse? repeatedDocument.render = some repeatedDocument :=
    Json.parse?_render hlossless (by decide)
  have hwide : int64? 9223372036854775808 = none := by decide
  obtain ⟨hfirst, hrel, hparts⟩ := readers_agree repeatedDocument.render
  obtain ⟨v, hv⟩ : ∃ v, parse? repeatedDocument.render = some v := by
    rw [hfirst, hdocument]
    exact ⟨_, rfl⟩
  rw [hv] at hrel
  obtain ⟨-, hpart⟩ := hparts repeatedDocument v hdocument hv
  cases hw : parseSorted? repeatedDocument.render with
  | none =>
    rw [hw] at hrel
    cases hrel
  | some w =>
    rw [hw, Option.rel_some_some] at hrel
    refine ⟨v, w, hv, rfl, hrel, ?_, ?_⟩
    · rw [hpart]
      rfl
    · rw [hpart]
      have hitem : repeatedDocument.part? [.key "a", .index 0] =
          some (.integer 9223372036854775808) := rfl
      rw [hitem, Option.bind_some, ofUntagged?_eq, ofJson?, ofInteger, hwide]

end Value
end ConstraintDirectives
