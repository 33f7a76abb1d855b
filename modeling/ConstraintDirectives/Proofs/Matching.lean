import Mathlib.Data.List.Forall2
import ConstraintDirectives.Entries
import ConstraintDirectives.Proofs.Sequencing

namespace ConstraintDirectives

namespace Matching
variable {α β γ ε : Type} {R : α → β → Prop} {l : List α} {m : List β}

theorem getElem? (h : List.Forall₂ R l m) (i : Nat) : Option.Rel R l[i]? m[i]? := by
  induction h generalizing i with
  | nil => exact .none
  | cons hab _ ih =>
    cases i with
    | zero => exact .some hab
    | succ i => exact ih i

theorem map_eq (h : List.Forall₂ R l m) {f : α → γ} {g : β → γ} (hfg : ∀ a b, R a b → f a = g b) :
    l.map f = m.map g := by
  induction h with
  | nil => rfl
  | cons hab _ ih => rw [List.map_cons, List.map_cons, hfg _ _ hab, ih]

theorem forM_eq (h : List.Forall₂ R l m) {f : α → Except ε Unit} {g : β → Except ε Unit}
    (hfg : ∀ a b, R a b → f a = g b) : l.forM f = m.forM g := by
  induction h with
  | nil => rfl
  | cons hab _ ih => rw [Sequencing.forM_cons, Sequencing.forM_cons, hfg _ _ hab, ih]

theorem findIdx?_eq (h : List.Forall₂ R l m) {p : α → Bool} {q : β → Bool}
    (hpq : ∀ a ∈ l, ∀ b, R a b → p a = q b) : l.findIdx? p = m.findIdx? q := by
  induction h with
  | nil => rfl
  | @cons a b l m hab _ ih =>
    rw [List.findIdx?_cons, List.findIdx?_cons, hpq a (List.mem_cons_self ..) b hab,
      ih fun a ha => hpq a (List.mem_cons_of_mem _ ha)]

/-- A list has a match if each of its members does. -/
theorem exists_iff : (∃ m, List.Forall₂ R l m) ↔ ∀ a ∈ l, ∃ b, R a b := by
  induction l with
  | nil => simp
  | cons a l ih =>
    rw [List.forall_mem_cons, ← ih]
    constructor
    · rintro ⟨m, hm⟩
      cases hm with
      | cons hab hrest => exact ⟨⟨_, hab⟩, _, hrest⟩
    · rintro ⟨⟨b, hab⟩, m, hrest⟩
      exact ⟨b :: m, .cons hab hrest⟩

end Matching

/-- The same keys in the same order, with related values. -/
abbrev Entries.Matches {κ α β : Type} (R : α → β → Prop) (es : Entries κ α) (fs : Entries κ β) :
    Prop :=
  List.Forall₂ (fun p q => p.1 = q.1 ∧ R p.2 q.2) es fs

namespace Entries.Matches
variable {κ α β : Type} {R : α → β → Prop} {es : Entries κ α} {fs : Entries κ β}

theorem keys_eq (h : es.Matches R fs) : keys es = keys fs :=
  Matching.map_eq h fun _ _ hp => hp.1

theorem get? [DecidableEq κ] (h : es.Matches R fs) (k : κ) :
    Option.Rel R (Entries.get? es k) (Entries.get? fs k) := by
  induction h with
  | nil => exact .none
  | cons hp _ ih =>
    rw [Entries.get?, Entries.get?, hp.1]
    split
    · exact .some hp.2
    · exact ih

theorem map {γ δ : Type} {S : γ → δ → Prop} (h : es.Matches R fs) {f : κ → α → γ} {g : κ → β → δ}
    (hfg : ∀ k a b, R a b → S (f k a) (g k b)) :
    Entries.Matches S (es.map fun p => (p.1, f p.1 p.2)) (fs.map fun p => (p.1, g p.1 p.2)) := by
  refine List.rel_map ?_ h
  rintro ⟨k, a⟩ ⟨k', b⟩ ⟨hk, hab⟩
  cases hk
  exact ⟨rfl, hfg k a b hab⟩

end Entries.Matches
end ConstraintDirectives
