import ConstraintDirectives.Index.Basic

namespace ConstraintDirectives.ConstraintIndex

/-- How many types of the index have not been seen. -/
def unseenCount (index : ConstraintIndex) (seen : List TypeId) : Nat :=
  (List.range index.types.length).countP fun i => !seen.contains (.ofIndex i)

theorem unseenCount_cons_le (index : ConstraintIndex) (seen : List TypeId) (id : TypeId) :
    index.unseenCount (id :: seen) ≤ index.unseenCount seen := by
  apply List.countP_mono_left
  intro i _
  simp

theorem unseenCount_cons_lt {index : ConstraintIndex} {seen : List TypeId} {id : TypeId}
    {tree : ConstraintTree} (hm : index.typeTree? id = some tree) (hs : id ∉ seen) :
    index.unseenCount (id :: seen) < index.unseenCount seen := by
  obtain ⟨hi, _⟩ := List.getElem?_eq_some_iff.mp hm
  have hmem : id.index ∈ List.range index.types.length := List.mem_range.mpr hi
  obtain ⟨before, after, hsplit⟩ := List.append_of_mem hmem
  have mono (l : List Nat) :
      l.countP (fun i => !(id :: seen).contains (TypeId.ofIndex i)) ≤
        l.countP (fun i => !seen.contains (TypeId.ofIndex i)) :=
    List.countP_mono_left fun i _ => by simp
  have hb := mono before
  have ha := mono after
  simp only [unseenCount, hsplit, List.countP_append, List.countP_cons, TypeId.ofIndex_index]
  simp [hs] at hb ha ⊢
  omega

/-- The trees that pending ids lead to, and all ids seen by then. An id that names no type is seen
and leads nowhere. -/
def inherited (index : ConstraintIndex) (seen pending : List TypeId) :
    List ConstraintTree × List TypeId :=
  match pending with
  | [] => ([], seen)
  | id :: rest =>
    if _hs : id ∈ seen then inherited index seen rest
    else
      match _hm : index.typeTree? id with
      | none => inherited index (id :: seen) rest
      | some tree =>
        let (trees, seen) := inherited index (id :: seen) (tree.inherits ++ rest)
        (tree :: trees, seen)
termination_by (index.unseenCount seen, pending.length)
decreasing_by
  · exact Prod.Lex.right' _ (Nat.le_refl _) (Nat.lt_succ_self _)
  · exact Prod.Lex.right' _ (unseenCount_cons_le ..) (Nat.lt_succ_self _)
  · exact Prod.Lex.left _ _ (unseenCount_cons_lt _hm _hs)

/-- Each root with what it inherits, leaving out named types that an earlier root inherits. -/
def gather (index : ConstraintIndex) (seen : List TypeId) :
    List ConstraintTree → List ConstraintTree
  | [] => []
  | root :: roots =>
    let (trees, seen) := index.inherited seen root.inherits
    root :: trees ++ gather index seen roots

end ConstraintDirectives.ConstraintIndex
