import ConstraintDirectives.Index.Inheritance

/-! Gathering collects the closure of the roots under inheritance, whatever circles and dangling ids
the index holds. -/
namespace ConstraintDirectives.ConstraintIndex
variable {index : ConstraintIndex}

/-- What some roots lead to by following inherited ids through the index, the roots included. -/
inductive Gathered (index : ConstraintIndex) (roots : ConstraintTree → Prop) :
    ConstraintTree → Prop where
  | root {t : ConstraintTree} : roots t → Gathered index roots t
  | inherited {t t' : ConstraintTree} {id : TypeId} : Gathered index roots t → id ∈ t.inherits →
      index.typeTree? id = some t' → Gathered index roots t'

theorem Gathered.mono {roots roots' : ConstraintTree → Prop} {t : ConstraintTree}
    (h : Gathered index roots t) (hr : ∀ t, roots t → roots' t) : Gathered index roots' t := by
  induction h with
  | root h => exact .root (hr _ h)
  | inherited _ hi ht ih => exact .inherited ih hi ht

/-- Nothing that has been seen is forgotten, and all that was pending is seen. -/
theorem inherited_seen (index : ConstraintIndex) (seen pending : List TypeId) :
    ∀ id, id ∈ seen ∨ id ∈ pending → id ∈ (index.inherited seen pending).2 := by
  fun_induction inherited index seen pending with
  | case1 seen => simp
  | case2 seen id rest hs ih =>
    rintro i (hi | hi)
    · exact ih i (.inl hi)
    · rcases List.mem_cons.mp hi with rfl | hi
      · exact ih i (.inl hs)
      · exact ih i (.inr hi)
  | case3 seen id rest hs hm ih =>
    rintro i (hi | hi)
    · exact ih i (.inl (List.mem_cons_of_mem _ hi))
    · rcases List.mem_cons.mp hi with rfl | hi
      · exact ih i (.inl (List.mem_cons_self ..))
      · exact ih i (.inr hi)
  | case4 seen id rest hs tree hm trees seen' he ih =>
    rw [he] at ih
    rintro i (hi | hi)
    · exact ih i (.inl (List.mem_cons_of_mem _ hi))
    · rcases List.mem_cons.mp hi with rfl | hi
      · exact ih i (.inl (List.mem_cons_self ..))
      · exact ih i (.inr (List.mem_append_right _ hi))

/-- The tree of an id that is newly seen is found, and what it inherits is seen as well. -/
theorem inherited_closed (index : ConstraintIndex) (seen pending : List TypeId) :
    ∀ id ∈ (index.inherited seen pending).2, id ∈ seen ∨
      ∀ t, index.typeTree? id = some t → t ∈ (index.inherited seen pending).1 ∧
        ∀ i ∈ t.inherits, i ∈ (index.inherited seen pending).2 := by
  fun_induction inherited index seen pending with
  | case1 seen => exact fun id h => .inl h
  | case2 seen id rest hs ih => exact ih
  | case3 seen id rest hs hm ih =>
    intro i hi
    rcases ih i hi with h | h
    · rcases List.mem_cons.mp h with rfl | h
      · exact .inr fun t ht => by rw [hm] at ht; cases ht
      · exact .inl h
    · exact .inr h
  | case4 seen id rest hs tree hm trees seen' he ih =>
    have hseen := inherited_seen index (id :: seen) (tree.inherits ++ rest)
    rw [he] at ih hseen
    intro i hi
    rcases ih i hi with h | h
    · rcases List.mem_cons.mp h with rfl | h
      · refine .inr fun t ht => ?_
        rw [hm] at ht
        cases ht
        exact ⟨List.mem_cons_self .., fun j hj =>
          hseen j (.inr (List.mem_append_left _ hj))⟩
      · exact .inl h
    · exact .inr fun t ht => ⟨List.mem_cons_of_mem _ (h t ht).1, (h t ht).2⟩

/-- What a tree that is found inherits is seen. -/
theorem inherited_inherits_seen (index : ConstraintIndex) (seen pending : List TypeId) :
    ∀ t ∈ (index.inherited seen pending).1, ∀ i ∈ t.inherits,
      i ∈ (index.inherited seen pending).2 := by
  fun_induction inherited index seen pending with
  | case1 seen => simp
  | case2 seen id rest hs ih => exact ih
  | case3 seen id rest hs hm ih => exact ih
  | case4 seen id rest hs tree hm trees seen' he ih =>
    have hseen := inherited_seen index (id :: seen) (tree.inherits ++ rest)
    rw [he] at ih hseen
    intro t ht i hi
    rcases List.mem_cons.mp ht with rfl | ht
    · exact hseen i (.inr (List.mem_append_left _ hi))
    · exact ih t ht i hi

private theorem inherited_sound (index : ConstraintIndex) (seen pending : List TypeId)
    {roots : ConstraintTree → Prop}
    (hp : ∀ id ∈ pending, ∀ t, index.typeTree? id = some t → Gathered index roots t) :
    ∀ t ∈ (index.inherited seen pending).1, Gathered index roots t := by
  fun_induction inherited index seen pending with
  | case1 seen => simp
  | case2 seen id rest hs ih => exact ih fun i hi => hp i (List.mem_cons_of_mem _ hi)
  | case3 seen id rest hs hm ih => exact ih fun i hi => hp i (List.mem_cons_of_mem _ hi)
  | case4 seen id rest hs tree hm trees seen' he ih =>
    rw [he] at ih
    have htree := hp id (List.mem_cons_self ..) tree hm
    intro t ht
    rcases List.mem_cons.mp ht with rfl | ht
    · exact htree
    · refine ih (fun i hi t' ht' => ?_) t ht
      rcases List.mem_append.mp hi with hi | hi
      · exact .inherited htree hi ht'
      · exact hp i (List.mem_cons_of_mem _ hi) t' ht'

theorem inherited_cons_of_mem {seen : List TypeId} {id : TypeId} (hs : id ∈ seen)
    (rest : List TypeId) : index.inherited seen (id :: rest) = index.inherited seen rest := by
  rw [inherited, dif_pos hs]

theorem inherited_cons_of_dangling {seen : List TypeId} {id : TypeId} (hs : id ∉ seen)
    (hm : index.typeTree? id = none) (rest : List TypeId) :
    index.inherited seen (id :: rest) = index.inherited (id :: seen) rest := by
  rw [inherited, dif_neg hs]
  split
  · rfl
  · next hn =>
    rw [hm] at hn
    cases hn

theorem inherited_cons_of_some {seen : List TypeId} {id : TypeId} {tree : ConstraintTree}
    (hs : id ∉ seen) (hm : index.typeTree? id = some tree) (rest : List TypeId) :
    index.inherited seen (id :: rest) =
      (tree :: (index.inherited (id :: seen) (tree.inherits ++ rest)).1,
        (index.inherited (id :: seen) (tree.inherits ++ rest)).2) := by
  rw [inherited, dif_neg hs]
  split
  · next hn =>
    rw [hm] at hn
    cases hn
  · next hn =>
    rw [hm] at hn
    cases hn
    rfl

/-- Ids that come later are followed with all seen that those before them lead to. -/
theorem inherited_append (seen pending rest : List TypeId) :
    index.inherited seen (pending ++ rest) =
      ((index.inherited seen pending).1 ++
          (index.inherited (index.inherited seen pending).2 rest).1,
        (index.inherited (index.inherited seen pending).2 rest).2) := by
  fun_induction inherited index seen pending with
  | case1 seen => rfl
  | case2 seen id pending hs ih =>
    rw [List.cons_append, inherited_cons_of_mem hs, ih]
  | case3 seen id pending hs hm ih =>
    rw [List.cons_append, inherited_cons_of_dangling hs hm, ih]
  | case4 seen id pending hs tree hm trees seen' he ih =>
    rw [List.append_assoc, he] at ih
    rw [List.cons_append, inherited_cons_of_some hs hm, ih]
    rfl

/-- A type that inherits nothing is found alone. -/
theorem inherited_leaf {id : TypeId} {t : ConstraintTree} (ht : index.typeTree? id = some t)
    (hi : t.inherits = []) : index.inherited [] [id] = ([t], [id]) := by
  rw [inherited_cons_of_some List.not_mem_nil ht, hi, List.append_nil, inherited]

theorem gather_cons (index : ConstraintIndex) (seen : List TypeId) (root : ConstraintTree)
    (trees : List ConstraintTree) :
    index.gather seen (root :: trees) = root :: ((index.inherited seen root.inherits).1 ++
      index.gather (index.inherited seen root.inherits).2 trees) := rfl

private theorem gather_sound (index : ConstraintIndex) {roots : ConstraintTree → Prop}
    (seen : List TypeId) (trees : List ConstraintTree) (hr : ∀ t ∈ trees, roots t) :
    ∀ t ∈ index.gather seen trees, Gathered index roots t := by
  induction trees generalizing seen with
  | nil => simp [gather]
  | cons root trees ih =>
    have hroot : Gathered index roots root := .root (hr root (List.mem_cons_self ..))
    intro t ht
    rw [gather_cons, List.mem_cons, List.mem_append] at ht
    rcases ht with rfl | ht | ht
    · exact hroot
    · exact inherited_sound index seen root.inherits
        (fun i hi t' ht' => .inherited hroot hi ht') t ht
    · exact ih _ (fun t ht => hr t (List.mem_cons_of_mem _ ht)) t ht

private theorem mem_gather_of_mem (index : ConstraintIndex) (seen : List TypeId)
    (trees : List ConstraintTree) : ∀ t ∈ trees, t ∈ index.gather seen trees := by
  induction trees generalizing seen with
  | nil => simp
  | cons root trees ih =>
    intro t ht
    rw [gather_cons, List.mem_cons, List.mem_append]
    rcases List.mem_cons.mp ht with rfl | ht
    · exact .inl rfl
    · exact .inr (.inr (ih _ t ht))

private theorem gather_closed (index : ConstraintIndex) (seen : List TypeId)
    (trees : List ConstraintTree) :
    ∀ t ∈ index.gather seen trees, ∀ id ∈ t.inherits, ∀ t', index.typeTree? id = some t' →
      id ∈ seen ∨ t' ∈ index.gather seen trees := by
  induction trees generalizing seen with
  | nil => simp [gather]
  | cons root trees ih =>
    have mem (t' : ConstraintTree) : t' ∈ index.gather seen (root :: trees) ↔ t' = root ∨
        t' ∈ (index.inherited seen root.inherits).1 ∨
        t' ∈ index.gather (index.inherited seen root.inherits).2 trees := by
      rw [gather_cons, List.mem_cons, List.mem_append]
    have found : ∀ id ∈ (index.inherited seen root.inherits).2, ∀ t',
        index.typeTree? id = some t' → id ∈ seen ∨ t' ∈ index.gather seen (root :: trees) := by
      intro id hid t' ht'
      rcases inherited_closed index seen root.inherits id hid with h | h
      · exact .inl h
      · exact .inr ((mem t').mpr (.inr (.inl (h t' ht').1)))
    intro t ht id hid t' ht'
    rcases (mem t).mp ht with rfl | ht | ht
    · exact found id (inherited_seen index seen t.inherits id (.inr hid)) t' ht'
    · exact found id (inherited_inherits_seen index seen root.inherits t ht id hid) t' ht'
    · rcases ih _ t ht id hid t' ht' with h | h
      · exact found id h t' ht'
      · exact .inr ((mem t').mpr (.inr (.inr h)))

/-- Gathering finds the whole closure and nothing else. -/
theorem mem_gather_iff (index : ConstraintIndex) (trees : List ConstraintTree)
    (t : ConstraintTree) : t ∈ index.gather [] trees ↔ Gathered index (· ∈ trees) t := by
  constructor
  · exact gather_sound index [] trees (fun _ h => h) t
  · intro h
    induction h with
    | root h => exact mem_gather_of_mem index [] trees _ h
    | inherited _ hid ht' ih =>
      rcases gather_closed index [] trees _ ih _ hid _ ht' with h | h
      · cases h
      · exact h

end ConstraintDirectives.ConstraintIndex
