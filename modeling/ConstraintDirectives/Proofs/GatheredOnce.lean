import Mathlib.Data.List.Nodup
import ConstraintDirectives.Index.Validation
import ConstraintDirectives.Proofs.Inheritance

/-! Gathering takes each root and each type once. Whatever circles and dangling ids there are, it nests
no more calls than there are types. -/
namespace ConstraintDirectives

/-- A tree by where it is kept. Different types can have equal trees. -/
inductive TreeRef where
  | root (position : Nat)
  | type (id : TypeId)
  deriving DecidableEq

/-- What a traversal has gathered, in order, and the ids it has seen, the latest first. -/
structure Gathering where
  refs : List TreeRef
  seen : List TypeId

namespace Gathering

def start : Gathering := ⟨[], []⟩

def push (g : Gathering) (ref : TreeRef) : Gathering := { g with refs := g.refs ++ [ref] }

def mark (g : Gathering) (id : TypeId) : Gathering := { g with seen := id :: g.seen }

end Gathering

namespace ConstraintIndex
variable (index : ConstraintIndex)

def treeAt? (roots : List ConstraintTree) : TreeRef → Option ConstraintTree
  | .root position => roots[position]?
  | .type id => index.typeTree? id

/-- The ids that a tree leads to, be there types of these ids or not. -/
inductive Reaches (tree : ConstraintTree) : TypeId → Prop where
  | inherits {id : TypeId} : id ∈ tree.inherits → Reaches tree id
  | through {id next : TypeId} {inherited : ConstraintTree} : Reaches tree id →
      index.typeTree? id = some inherited → next ∈ inherited.inherits → Reaches tree next

def FirstReaches (roots : List ConstraintTree) (position : Nat) (id : TypeId) : Prop :=
  (∃ root, roots[position]? = some root ∧ index.Reaches root id) ∧
    ∀ earlier < position, ∀ root, roots[earlier]? = some root → ¬ index.Reaches root id

/-- The roots and the types they lead to stand in a list once each, and nothing else does. No type
stands before the root it is first reached from. -/
structure ListsOnce (roots : List ConstraintTree) (refs : List TreeRef) : Prop where
  nodup : refs.Nodup
  root_mem : ∀ position, .root position ∈ refs ↔ position < roots.length
  type_mem : ∀ id, .type id ∈ refs ↔
    (index.typeTree? id).isSome = true ∧ ∃ root ∈ roots, index.Reaches root id
  precedes : ∀ position id, index.FirstReaches roots position id → .type id ∈ refs →
    [TreeRef.root position, .type id].Sublist refs

/-! ### Nesting -/

/-- Follows an inherited id. It is marked before it is known whether there is a type. -/
def follow (descend : TypeId → ConstraintTree → Gathering → Option Gathering) (g : Gathering)
    (id : TypeId) : Option Gathering :=
  if id ∈ g.seen then some g
  else
    match index.typeTree? id with
    | none => some (g.mark id)
    | some tree => descend id tree (g.mark id)

/-- Takes a tree and, one after the other, what it inherits. Calls nest to some depth at most, and there
is no measure of what is left to do. -/
def collect : Nat → TreeRef → ConstraintTree → Gathering → Option Gathering
  | 0, _, _, _ => none
  | depth + 1, ref, tree, g =>
    tree.inherits.foldlM (index.follow fun id => collect depth (.type id)) (g.push ref)

def collectRoots (depth : Nat) : Nat → List ConstraintTree → Gathering → Option Gathering
  | _, [], g => some g
  | position, root :: roots, g => do
    let later ← index.collect depth (.root position) root g
    collectRoots depth (position + 1) roots later

variable {index}

/-! ### Ids seen -/

/-- What is newly seen can be reached. -/
theorem reaches_of_mem_inherited {root : ConstraintTree} {seen pending : List TypeId}
    (hp : ∀ id ∈ pending, index.Reaches root id) :
    ∀ id ∈ (index.inherited seen pending).2, id ∈ seen ∨ index.Reaches root id := by
  fun_induction inherited index seen pending with
  | case1 seen => exact fun id hid => .inl hid
  | case2 seen id rest hs ih => exact ih fun i hi => hp i (List.mem_cons_of_mem _ hi)
  | case3 seen id rest hs hm ih =>
    intro i hi
    rcases ih (fun j hj => hp j (List.mem_cons_of_mem _ hj)) i hi with h | h
    · rcases List.mem_cons.mp h with rfl | h
      · exact .inr (hp i (List.mem_cons_self ..))
      · exact .inl h
    · exact .inr h
  | case4 seen id rest hs tree hm trees seen' he ih =>
    rw [he] at ih
    have hid : index.Reaches root id := hp id (List.mem_cons_self ..)
    have hpending : ∀ i ∈ tree.inherits ++ rest, index.Reaches root i := by
      intro i hi
      rcases List.mem_append.mp hi with hi | hi
      · exact .through hid hm hi
      · exact hp i (List.mem_cons_of_mem _ hi)
    intro i hi
    rcases ih hpending i hi with h | h
    · rcases List.mem_cons.mp h with rfl | h
      · exact .inr hid
      · exact .inl h
    · exact .inr h

/-- After a root, what has been seen is what it reaches besides what earlier ones do. -/
theorem mem_inherited_iff {done : List ConstraintTree} {seen : List TypeId}
    (hs : ∀ id, id ∈ seen ↔ ∃ root ∈ done, index.Reaches root id) (root : ConstraintTree)
    (id : TypeId) :
    id ∈ (index.inherited seen root.inherits).2 ↔ ∃ r ∈ done ++ [root], index.Reaches r id := by
  have hkept := inherited_seen index seen root.inherits
  simp only [List.mem_append, List.mem_singleton, or_and_right, exists_or, exists_eq_left, ← hs]
  constructor
  · exact reaches_of_mem_inherited (fun i hi => .inherits hi) id
  · rintro (h | h)
    · exact hkept id (.inl h)
    · induction h with
      | inherits hi => exact hkept _ (.inr hi)
      | @through id next tree _ ht hnext ih =>
        rcases inherited_closed index seen root.inherits id ih with h | h
        · obtain ⟨r, hr, hreach⟩ := (hs id).mp h
          exact hkept next (.inl ((hs next).mpr ⟨r, hr, .through hreach ht hnext⟩))
        · exact (h tree ht).2 next hnext

/-! ### One root -/

private theorem unseenCount_append_le (index : ConstraintIndex) (ids seen : List TypeId) :
    index.unseenCount (ids ++ seen) ≤ index.unseenCount seen := by
  apply List.countP_mono_left
  intro i _
  simp

private theorem unseenCount_le_length (index : ConstraintIndex) (seen : List TypeId) :
    index.unseenCount seen ≤ index.types.length :=
  Nat.le_trans List.countP_le_length (Nat.le_of_eq List.length_range)

/-- What a traversal from pending ids sees for the first time, in order. -/
inductive Explores (index : ConstraintIndex) : List TypeId → List TypeId → List TypeId → Prop where
  | done {seen : List TypeId} : Explores index seen [] []
  | known {seen rest fresh : List TypeId} {id : TypeId} : id ∈ seen →
      Explores index seen rest fresh → Explores index seen (id :: rest) fresh
  | dangling {seen rest fresh : List TypeId} {id : TypeId} : id ∉ seen →
      index.typeTree? id = none → Explores index (id :: seen) rest fresh →
      Explores index seen (id :: rest) (id :: fresh)
  | type {seen rest inner outer : List TypeId} {id : TypeId} {tree : ConstraintTree} : id ∉ seen →
      index.typeTree? id = some tree → Explores index (id :: seen) tree.inherits inner →
      Explores index (inner.reverse ++ id :: seen) rest outer →
      Explores index seen (id :: rest) (id :: (inner ++ outer))

private theorem exists_explores (index : ConstraintIndex) (seen pending : List TypeId) :
    ∃ fresh, Explores index seen pending fresh := by
  match pending with
  | [] => exact ⟨[], .done⟩
  | id :: rest =>
    by_cases hs : id ∈ seen
    · obtain ⟨fresh, h⟩ := exists_explores index seen rest
      exact ⟨fresh, .known hs h⟩
    · cases hm : index.typeTree? id with
      | none =>
        obtain ⟨fresh, h⟩ := exists_explores index (id :: seen) rest
        exact ⟨id :: fresh, .dangling hs hm h⟩
      | some tree =>
        have hlt := unseenCount_cons_lt hm hs
        obtain ⟨inner, hinner⟩ := exists_explores index (id :: seen) tree.inherits
        have hle := unseenCount_append_le index inner.reverse (id :: seen)
        obtain ⟨outer, houter⟩ := exists_explores index (inner.reverse ++ id :: seen) rest
        exact ⟨id :: (inner ++ outer), .type hs hm hinner houter⟩
termination_by (index.unseenCount seen, pending.length)
decreasing_by
  · exact Prod.Lex.right' _ (Nat.le_refl _) (Nat.lt_succ_self _)
  · exact Prod.Lex.right' _ (unseenCount_cons_le ..) (Nat.lt_succ_self _)
  · exact Prod.Lex.left _ _ hlt
  · exact Prod.Lex.left _ _ (Nat.lt_of_le_of_lt hle hlt)

def typeRefs (index : ConstraintIndex) (ids : List TypeId) : List TreeRef :=
  (ids.filter fun id => (index.typeTree? id).isSome).map .type

private theorem type_mem_typeRefs {ids : List TypeId} {id : TypeId} :
    TreeRef.type id ∈ index.typeRefs ids ↔ id ∈ ids ∧ (index.typeTree? id).isSome = true := by
  simp [typeRefs]

private theorem root_notMem_typeRefs (position : Nat) (ids : List TypeId) :
    TreeRef.root position ∉ index.typeRefs ids := by
  simp [typeRefs]

private theorem nodup_typeRefs {ids : List TypeId} (hn : ids.Nodup) : (index.typeRefs ids).Nodup :=
  List.Nodup.map (fun _ _ => TreeRef.type.inj) (hn.filter _)

private theorem map_treeAt?_typeRefs (index : ConstraintIndex) (roots : List ConstraintTree)
    (ids : List TypeId) :
    (index.typeRefs ids).map (index.treeAt? roots) = (ids.filterMap index.typeTree?).map some := by
  induction ids with
  | nil => rfl
  | cons id ids ih =>
    rw [typeRefs] at ih ⊢
    cases ht : index.typeTree? id with
    | none => simp [ht, ih]
    | some tree => simp [ht, ih, treeAt?]

namespace Explores
variable {seen pending fresh : List TypeId}

private theorem inherited_eq (h : Explores index seen pending fresh) :
    index.inherited seen pending = (fresh.filterMap index.typeTree?, fresh.reverse ++ seen) := by
  induction h with
  | done => rw [inherited]; rfl
  | known hs _ ih => rw [inherited_cons_of_mem hs, ih]
  | dangling hs hm _ ih => simp [inherited_cons_of_dangling hs hm, ih, hm]
  | type hs hm _ _ ihinner ihouter =>
    simp [inherited_cons_of_some hs hm, inherited_append, ihinner, ihouter, hm]

/-- The traversal sees the same, if no more types are unseen than its calls may nest. -/
theorem foldlM_follow (h : Explores index seen pending fresh) {refs : List TreeRef} {depth : Nat}
    (hd : index.unseenCount seen ≤ depth) :
    pending.foldlM (index.follow fun id => index.collect depth (.type id)) ⟨refs, seen⟩ =
      some ⟨refs ++ index.typeRefs fresh, fresh.reverse ++ seen⟩ := by
  induction h generalizing refs depth with
  | done => simp [typeRefs]
  | known hs _ ih => simp [follow, hs, ih hd]
  | @dangling seen rest fresh id hs hm _ ih =>
    have hle := unseenCount_cons_le index seen id
    simp [follow, hs, hm, Gathering.mark, ih (Nat.le_trans hle hd), typeRefs]
  | @type seen rest inner outer id tree hs hm _ _ ihinner ihouter =>
    have hlt := unseenCount_cons_lt hm hs
    have hle := unseenCount_append_le index inner.reverse (id :: seen)
    have hroom := Nat.lt_of_lt_of_le hlt hd
    -- The call uses up one level of nesting, and the type that is now seen makes up for it.
    obtain ⟨depth, rfl⟩ := Nat.exists_eq_succ_of_ne_zero (Nat.ne_zero_of_lt hroom)
    have hcall : index.collect (depth + 1) (.type id) tree ⟨refs, id :: seen⟩ =
        some ⟨refs ++ [.type id] ++ index.typeRefs inner, inner.reverse ++ id :: seen⟩ :=
      ihinner (Nat.le_of_lt_succ hroom)
    rw [List.foldlM_cons, follow, if_neg hs, hm]
    simp only [Gathering.mark, hcall, Option.bind_eq_bind, Option.bind_some]
    rw [ihouter (by omega)]
    simp [typeRefs, hm]

/-- Taking a root takes what it inherits. -/
theorem collect_eq {tree : ConstraintTree} (h : Explores index seen tree.inherits fresh)
    {refs : List TreeRef} {depth : Nat} (hd : index.unseenCount seen < depth) (ref : TreeRef) :
    index.collect depth ref tree ⟨refs, seen⟩ =
      some ⟨refs ++ ref :: index.typeRefs fresh, fresh.reverse ++ seen⟩ := by
  obtain ⟨depth, rfl⟩ := Nat.exists_eq_succ_of_ne_zero (Nat.ne_zero_of_lt hd)
  rw [collect, Gathering.push, h.foldlM_follow (Nat.le_of_lt_succ hd), List.append_assoc,
    List.singleton_append]

private theorem nodup (h : Explores index seen pending fresh) (hn : seen.Nodup) :
    (fresh.reverse ++ seen).Nodup := by
  induction h with
  | done => exact hn
  | known _ _ ih => exact ih hn
  | dangling hs _ _ ih => simpa using ih (List.nodup_cons.mpr ⟨hs, hn⟩)
  | type hs _ _ _ ihinner ihouter =>
    simpa using ihouter (ihinner (List.nodup_cons.mpr ⟨hs, hn⟩))

end Explores

/-! ### All roots -/

structure Covers (index : ConstraintIndex) (done : List ConstraintTree) (g : Gathering) : Prop
    extends index.ListsOnce done g.refs where
  nodup_seen : g.seen.Nodup
  seen_iff : ∀ id, id ∈ g.seen ↔ ∃ root ∈ done, index.Reaches root id

private theorem covers_start (index : ConstraintIndex) : index.Covers [] .start := by
  constructor
  case nodup_seen => exact List.nodup_nil
  case seen_iff => simp [Gathering.start]
  case toListsOnce =>
    constructor
    case nodup => exact List.nodup_nil
    all_goals simp [Gathering.start]

/-- A new root is the first to reach what none before it does. -/
theorem FirstReaches.of_concat {done : List ConstraintTree} {root : ConstraintTree} {position : Nat}
    {id : TypeId} (h : index.FirstReaches (done ++ [root]) position id) :
    index.FirstReaches done position id ∨
      position = done.length ∧ ∀ r ∈ done, ¬ index.Reaches r id := by
  obtain ⟨⟨r, hr, hreach⟩, hfirst⟩ := h
  have hold {k : Nat} (hk : k < done.length) : (done ++ [root])[k]? = done[k]? :=
    List.getElem?_append_left hk
  have hlt : position < (done ++ [root]).length := (List.getElem?_eq_some_iff.mp hr).1
  rw [List.length_append, List.length_singleton] at hlt
  rcases Nat.lt_or_eq_of_le (Nat.le_of_lt_succ hlt) with hp | rfl
  · refine .inl ⟨⟨r, (hold hp).symm.trans hr, hreach⟩, fun k hk r' hr' => ?_⟩
    exact hfirst k hk r' ((hold (Nat.lt_trans hk hp)).trans hr')
  · refine .inr ⟨rfl, fun r' hr' => ?_⟩
    obtain ⟨k, hk, rfl⟩ := List.getElem_of_mem hr'
    exact hfirst k hk _ ((hold hk).trans (List.getElem?_eq_getElem hk))

namespace Covers
variable {done : List ConstraintTree} {g : Gathering} {root : ConstraintTree} {fresh : List TypeId}

private theorem type_mem_iff (h : index.Covers done g) (id : TypeId) :
    .type id ∈ g.refs ↔ id ∈ g.seen ∧ (index.typeTree? id).isSome = true := by
  rw [h.type_mem, h.seen_iff, and_comm]

private theorem notMem_seen (h : index.Covers done g) (he : Explores index g.seen root.inherits fresh)
    {id : TypeId} (hid : id ∈ fresh) : id ∉ g.seen := fun hs =>
  (List.nodup_append.mp (he.nodup h.nodup_seen)).2.2 id (List.mem_reverse.mpr hid) id hs rfl

private theorem nodup_concat (h : index.Covers done g) (he : Explores index g.seen root.inherits fresh) :
    (g.refs ++ .root done.length :: index.typeRefs fresh).Nodup := by
  have hfresh : fresh.Nodup :=
    List.nodup_reverse.mp (List.nodup_append.mp (he.nodup h.nodup_seen)).1
  have hnew : (TreeRef.root done.length :: index.typeRefs fresh).Nodup :=
    List.nodup_cons.mpr ⟨root_notMem_typeRefs done.length fresh, nodup_typeRefs hfresh⟩
  refine List.nodup_append.mpr ⟨h.nodup, hnew, ?_⟩
  rintro ref hold _ hmem rfl
  rcases List.mem_cons.mp hmem with rfl | hmem
  · exact Nat.lt_irrefl _ ((h.root_mem _).mp hold)
  · cases ref with
    | root position => exact root_notMem_typeRefs position fresh hmem
    | type id => exact h.notMem_seen he (type_mem_typeRefs.mp hmem).1 ((h.type_mem_iff id).mp hold).1

/-- Types that an earlier root reaches are there already, and the others stand behind the new root. -/
theorem precedes_concat (h : index.Covers done g) (he : Explores index g.seen root.inherits fresh)
    {position : Nat} {id : TypeId} (hfirst : index.FirstReaches (done ++ [root]) position id)
    (hid : .type id ∈ g.refs ++ .root done.length :: index.typeRefs fresh) :
    [TreeRef.root position, .type id].Sublist
      (g.refs ++ .root done.length :: index.typeRefs fresh) := by
  have hid : .type id ∈ g.refs ∨ .type id ∈ index.typeRefs fresh := by simpa using hid
  rcases hfirst.of_concat with hearlier | ⟨rfl, hnone⟩
  · obtain ⟨r, hr, hreach⟩ := hearlier.1
    have hs : id ∈ g.seen := (h.seen_iff id).mpr ⟨r, List.mem_of_getElem? hr, hreach⟩
    have hold : .type id ∈ g.refs :=
      hid.resolve_right fun hmem => h.notMem_seen he (type_mem_typeRefs.mp hmem).1 hs
    exact (h.precedes position id hearlier hold).trans (List.sublist_append_left ..)
  · have hnew : .type id ∈ index.typeRefs fresh := by
      refine hid.resolve_left fun hold => ?_
      obtain ⟨r, hr, hreach⟩ := (h.seen_iff id).mp ((h.type_mem_iff id).mp hold).1
      exact hnone r hr hreach
    exact ((List.singleton_sublist.mpr hnew).cons_cons _).trans (List.sublist_append_right ..)

/-- One more root keeps what holds of those before it. -/
theorem concat (h : index.Covers done g) (he : Explores index g.seen root.inherits fresh) :
    index.Covers (done ++ [root])
      ⟨g.refs ++ .root done.length :: index.typeRefs fresh, fresh.reverse ++ g.seen⟩ := by
  have hseen (id : TypeId) :
      id ∈ fresh.reverse ++ g.seen ↔ ∃ r ∈ done ++ [root], index.Reaches r id := by
    rw [← mem_inherited_iff h.seen_iff, he.inherited_eq]
  constructor
  case nodup_seen => exact he.nodup h.nodup_seen
  case seen_iff => exact hseen
  case toListsOnce =>
    constructor
    case nodup => exact h.nodup_concat he
    case root_mem =>
      intro position
      have hno : TreeRef.root position ∉ index.typeRefs fresh := root_notMem_typeRefs position fresh
      rw [List.mem_append, List.mem_cons, h.root_mem, TreeRef.root.injEq, List.length_append,
        List.length_singleton, or_iff_left hno]
      omega
    case type_mem =>
      intro id
      rw [← hseen, List.mem_append, List.mem_cons, h.type_mem_iff, type_mem_typeRefs,
        List.mem_append, List.mem_reverse]
      simp only [reduceCtorEq, false_or]
      tauto
    case precedes => exact fun position id hfirst hid => h.precedes_concat he hfirst hid

end Covers

/-- Going through more roots ends at every depth that leaves room for all types, and gathers the trees
that `gather` does. -/
theorem exists_collectRoots {done : List ConstraintTree} {g : Gathering} (h : index.Covers done g)
    (roots : List ConstraintTree) : ∃ later,
      (∀ depth, index.types.length < depth →
        index.collectRoots depth done.length roots g = some later) ∧
      index.Covers (done ++ roots) later ∧
      later.refs.map (index.treeAt? (done ++ roots)) =
        g.refs.map (index.treeAt? (done ++ roots)) ++ (index.gather g.seen roots).map some := by
  induction roots generalizing done g with
  | nil => exact ⟨g, fun _ _ => rfl, by simpa using h, by simp [gather]⟩
  | cons root roots ih =>
    obtain ⟨fresh, he⟩ := exists_explores index g.seen root.inherits
    obtain ⟨later, hrun, hcovers, htrees⟩ := ih (h.concat he)
    rw [List.append_assoc, List.singleton_append] at hcovers htrees
    refine ⟨later, fun depth hd => ?_, hcovers, ?_⟩
    · have hlt := Nat.lt_of_le_of_lt (unseenCount_le_length index g.seen) hd
      have hrest := hrun depth hd
      rw [List.length_append, List.length_singleton] at hrest
      rw [collectRoots, he.collect_eq hlt]
      exact hrest
    · have hroot : index.treeAt? (done ++ root :: roots) (.root done.length) = some root := by
        simp [treeAt?]
      rw [htrees, gather_cons, he.inherited_eq]
      simp [hroot, map_treeAt?_typeRefs]

/-- A view of some roots is gathered in the end, by calls nested no deeper than there are types. It has
each root once and, behind the root it is first reached from, each type that is reached once. -/
theorem ofTrees_lists_once (index : ConstraintIndex) (roots : List ConstraintTree) :
    ∃ refs : List TreeRef,
      (∀ depth, index.types.length < depth →
        (index.collectRoots depth 0 roots .start).map (·.refs) = some refs) ∧
      (InForce.ofTrees index roots).trees.map some = refs.map (index.treeAt? roots) ∧
      index.ListsOnce roots refs := by
  obtain ⟨later, hrun, hcovers, htrees⟩ := exists_collectRoots (covers_start index) roots
  refine ⟨later.refs, fun depth hd => ?_, ?_, hcovers.toListsOnce⟩
  · exact congrArg (Option.map (·.refs)) (hrun depth hd)
  · simpa [Gathering.start, InForce.ofTrees] using htrees.symm

/-- Two types that inherit each other, themselves and one that does not exist. -/
example :
    let tree (inherits : List TypeId) : ConstraintTree := ⟨[], [], inherits⟩
    let index : ConstraintIndex := ⟨[tree [⟨1⟩, ⟨0⟩, ⟨1⟩], tree [⟨0⟩, ⟨9⟩]], .empty⟩
    (index.collectRoots 3 0 [tree [⟨1⟩], tree [⟨0⟩, ⟨7⟩]] .start).map (·.refs) =
      some [.root 0, .type ⟨1⟩, .type ⟨0⟩, .root 1] := by
  decide

end ConstraintIndex
end ConstraintDirectives
