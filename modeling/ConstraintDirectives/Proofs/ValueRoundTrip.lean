import ConstraintDirectives.Proofs.SchemaRoundTrip

/-! A value reads back from JSON, with null for each float that is not finite. -/
namespace ConstraintDirectives.Value
variable {v : Value}

mutual
/-- The value with null for each float that is not finite. -/
def blanked : Value → Value
  | .float x => if x.isFinite then .float x else .null
  | .list items => .list (blankedItems items)
  | .record properties => .record (blankedProperties properties)
  | v => v

def blankedItems : List Value → List Value
  | [] => []
  | x :: xs => x.blanked :: blankedItems xs

def blankedProperties : List (String × Value) → List (String × Value)
  | [] => []
  | (k, x) :: ps => (k, x.blanked) :: blankedProperties ps
end

theorem blankedItems_eq_map (items : List Value) : blankedItems items = items.map blanked := by
  induction items with
  | nil => rfl
  | cons x xs ih => rw [blankedItems, ih, List.map_cons]

theorem blankedProperties_eq_map (properties : List (String × Value)) :
    blankedProperties properties = properties.map fun p => (p.1, p.2.blanked) := by
  induction properties with
  | nil => rfl
  | cons p ps ih => rw [blankedProperties, ih, List.map_cons]

private theorem keys_blankedProperties (properties : List (String × Value)) :
    Entries.keys (blankedProperties properties) = Entries.keys properties := by
  rw [blankedProperties_eq_map, Entries.keys, List.map_map]
  rfl

/-- A document does not tell a float that is not finite from null. -/
theorem toJson_blanked (v : Value) : v.blanked.toJson = v.toJson := by
  induction v using byParts with
  | null => rfl
  | scalar v hv =>
    cases v with
    | float x =>
      by_cases hx : x.isFinite = true
      · rw [blanked, if_pos hx]
      · rw [blanked, if_neg hx, toJson, toJson, Json.ofNumber, if_neg hx]
    | boolean | int | string => rfl
    | null | list | record => cases hv
  | list items ih =>
    rw [blanked, toJson, toJson, toItems_eq_map, toItems_eq_map, blankedItems_eq_map, List.map_map]
    exact congrArg Json.array (List.map_congr_left ih)
  | record ps ih =>
    rw [blanked, toJson, toJson, toMembers_eq_map, toMembers_eq_map, blankedProperties_eq_map,
      List.map_map]
    exact congrArg Json.object (List.map_congr_left fun p hp => congrArg (p.1, ·) (ih p hp))

private theorem isFinite_of_blanked (v : Value) : ∀ x ∈ v.blanked.floats, x.isFinite = true := by
  induction v using byParts with
  | null => simp [blanked, floats]
  | scalar v hv =>
    cases v with
    | float x =>
      by_cases hx : x.isFinite = true
      · rw [blanked, if_pos hx]
        exact List.forall_mem_singleton.mpr hx
      · simp [blanked, hx, floats]
    | boolean | int | string => simp [blanked, floats]
    | null | list | record => cases hv
  | list items ih =>
    rw [blanked, floats, forall_mem_itemFloats, blankedItems_eq_map]
    exact List.forall_mem_map.mpr ih
  | record ps ih =>
    rw [blanked, floats, forall_mem_propertyFloats, blankedProperties_eq_map]
    exact List.forall_mem_map.mpr ih

theorem Distinct.blanked (hkeys : v.Distinct) : v.blanked.Distinct := by
  induction v using byParts with
  | null => exact hkeys
  | scalar v hv =>
    cases v with
    | float x =>
      rw [Value.blanked]
      split
      · exact hkeys
      · exact distinct_leaf (.inl rfl)
    | boolean | int | string => exact hkeys
    | null | list | record => cases hv
  | list items ih =>
    rw [distinct_list] at hkeys
    rw [Value.blanked, distinct_list, blankedItems_eq_map]
    exact List.forall_mem_map.mpr fun x hx => ih x hx (hkeys x hx)
  | record ps ih =>
    obtain ⟨hn, hps⟩ := distinct_record.mp hkeys
    rw [Value.blanked, distinct_record, keys_blankedProperties, blankedProperties_eq_map]
    exact ⟨hn, List.forall_mem_map.mpr fun p hp => ih p hp (hps p hp)⟩

/-- A float that is not finite is written as null, which needs no digits. -/
theorem parse?_ofNumber
    (hreads : ∀ x ∈ v.floats, x.isFinite = true → Json.parse? (Json.real x).render = some (.real x)) :
    ∀ x ∈ v.floats, Json.parse? (Json.ofNumber x).render = some (.ofNumber x) := by
  intro x hx
  rw [Json.ofNumber]
  split
  · next hfinite => exact hreads x hx hfinite
  · exact Json.parse?_render .null (Nat.zero_le _)

/-- Reading what is written of a value gives null for each float that is not finite and all else as it
was, so the value itself comes back just where all its floats are finite. Each of those has to read back
on its own, and containers may nest as deep as the reader goes. -/
theorem parse?_text_iff_finite (hkeys : v.Distinct) (hnesting : v.toJson.nesting ≤ Json.depthLimit)
    (hreads : ∀ x ∈ v.floats, x.isFinite = true →
      Json.parse? (Json.real x).render = some (.real x)) :
    parse? v.toJson.render = some v.blanked ∧
      (parse? v.toJson.render = some v ↔ ∀ x ∈ v.floats, x.isFinite = true) := by
  have hdocument : Json.parse? v.toJson.render = some v.toJson :=
    Json.parse?_render (lossless_toJson (parse?_ofNumber hreads)) hnesting
  have hblanked : parse? v.toJson.render = some v.blanked := by
    rw [parse?, hdocument, Option.bind_some, ← toJson_blanked]
    exact ofJson?_toJson hkeys.blanked (isFinite_of_blanked v)
  refine ⟨hblanked, fun h => ?_, fun hfinite => ?_⟩
  · have hsame : v.blanked = v := Option.some.inj (hblanked.symm.trans h)
    exact hsame ▸ isFinite_of_blanked v
  · rw [parse?, hdocument, Option.bind_some, ofJson?_toJson hkeys hfinite]

def numbered (x : Binary64) : Value :=
  .record [("one", .list [.int 1, .float .one]), ("none", .list []), ("of", .record [("x", .float x)])]

theorem parse?_text_iff_finite_of_numbered :
    (∀ x, (numbered x).Distinct) ∧ (∀ x, (numbered x).toJson.nesting ≤ Json.depthLimit) ∧
      parse? (numbered .one).toJson.render = some (numbered .one) ∧
      parse? (numbered .nan).toJson.render = some (.record [("one", .list [.int 1, .float .one]),
        ("none", .list []), ("of", .record [("x", .null)])]) ∧
      parse? (numbered .nan).toJson.render ≠ some (numbered .nan) := by
  have hkeys (x : Binary64) : (numbered x).Distinct := by
    have hleaf : (Value.int 1).Distinct ∧ ∀ y, (Value.float y).Distinct :=
      ⟨distinct_leaf (.inr rfl), fun _ => distinct_leaf (.inr rfl)⟩
    simp [numbered, Entries.keys, hleaf]
  have hnesting (x : Binary64) : (numbered x).toJson.nesting ≤ Json.depthLimit := by
    have hleaf (y : Binary64) : (Json.ofNumber y).nesting = 0 := by
      rw [Json.ofNumber]
      split <;> rfl
    simp [numbered, toJson, toItems, toMembers, Json.nesting, Json.itemNesting, Json.memberNesting,
      hleaf, Json.depthLimit]
  have hfloats (x : Binary64) : (numbered x).floats = [.one, x] := rfl
  have hfinite : Binary64.one.isFinite = true := by decide +kernel
  have hnan : Binary64.nan.isFinite = false := rfl
  have hone : Json.parse? (Json.real .one).render = some (.real .one) := by
    have hparse := Json.parse?_one
    rwa [Json.ofNumber, if_pos hfinite] at hparse
  have hreads (x : Binary64) (hx : x.isFinite = true → x = .one) : ∀ y ∈ (numbered x).floats,
      y.isFinite = true → Json.parse? (Json.real y).render = some (.real y) := by
    rw [hfloats]
    refine List.forall_mem_cons.mpr ⟨fun _ => hone, List.forall_mem_singleton.mpr fun h => ?_⟩
    rw [hx h]
    exact hone
  obtain ⟨-, hwhole⟩ := parse?_text_iff_finite (hkeys .one) (hnesting .one) (hreads .one fun _ => rfl)
  obtain ⟨hread, hlost⟩ :=
    parse?_text_iff_finite (hkeys .nan) (hnesting .nan) (hreads .nan (by simp [hnan]))
  refine ⟨hkeys, hnesting, hwhole.mpr ?_, hread.trans ?_, fun h => ?_⟩
  · rw [hfloats]
    simp [hfinite]
  · simp [numbered, blanked, blankedProperties, blankedItems, hfinite, hnan]
  · exact absurd (hlost.mp h .nan (by simp [hfloats])) (by simp [hnan])

end ConstraintDirectives.Value
