import Mathlib.Data.List.Induction

namespace ConstraintDirectives.FirstArrival
variable {α : Type} [DecidableEq α]

theorem eraseDups_concat (l : List α) (a : α) :
    (l ++ [a]).eraseDups = if a ∈ l then l.eraseDups else l.eraseDups ++ [a] := by
  by_cases h : a ∈ l <;> simp [List.eraseDups_append, List.removeAll, h, List.eraseDups_cons]

theorem nodup_eraseDups (l : List α) : l.eraseDups.Nodup := by
  induction l using List.reverseRecOn with
  | nil => simp
  | append_singleton l a ih =>
    rw [eraseDups_concat]
    split
    · exact ih
    · next h =>
      refine List.nodup_append.mpr ⟨ih, by simp, fun x hx y hy he => h ?_⟩
      rw [List.mem_singleton] at hy
      rw [List.mem_eraseDups] at hx
      exact hy ▸ he ▸ hx

theorem eraseDups_of_nodup {l : List α} (h : l.Nodup) : l.eraseDups = l := by
  induction l using List.reverseRecOn with
  | nil => rfl
  | append_singleton l a ih =>
    obtain ⟨hl, _, hd⟩ := List.nodup_append.mp h
    have ha : a ∉ l := fun hm => hd a hm a (by simp) rfl
    rw [eraseDups_concat, if_neg ha, ih hl]

theorem eraseDups_filter (p : α → Bool) (l : List α) :
    (l.filter p).eraseDups = l.eraseDups.filter p := by
  induction l using List.reverseRecOn with
  | nil => rfl
  | append_singleton l a ih =>
    rw [List.filter_append, eraseDups_concat]
    cases hp : p a with
    | false =>
      have hnil : [a].filter p = [] := by simp [hp]
      rw [hnil, List.append_nil, ih]
      split <;> simp [hp]
    | true =>
      have hone : [a].filter p = [a] := by simp [hp]
      rw [hone, eraseDups_concat, ih]
      by_cases ha : a ∈ l <;> simp [ha, hp]

/-- Repeats may be left out of both halves of a list first. -/
theorem eraseDups_append_eraseDups (l m : List α) :
    (l.eraseDups ++ m.eraseDups).eraseDups = (l ++ m).eraseDups := by
  induction m using List.reverseRecOn with
  | nil => rw [List.eraseDups_nil, List.append_nil, List.append_nil,
      eraseDups_of_nodup (nodup_eraseDups l)]
  | append_singleton m a ih =>
    rw [← List.append_assoc, eraseDups_concat, eraseDups_concat, ← ih]
    by_cases hm : a ∈ m
    · simp [hm]
    · by_cases hl : a ∈ l <;> simp [hm, hl, ← List.append_assoc, eraseDups_concat]

/-- A part of a list without repeats is what a filter by membership leaves. -/
theorem filter_mem_of_sublist {l m : List α} (h : l.Sublist m) (hn : m.Nodup) :
    m.filter (· ∈ l) = l := by
  induction h with
  | slnil => rfl
  | @cons l m a h ih =>
    obtain ⟨ha, hn⟩ := List.nodup_cons.mp hn
    rw [List.filter_cons_of_neg (by simpa using fun hm => ha (h.subset hm)), ih hn]
  | @cons_cons l m a h ih =>
    obtain ⟨ha, hn⟩ := List.nodup_cons.mp hn
    have hrest : m.filter (· ∈ a :: l) = m.filter (· ∈ l) := by
      refine List.filter_congr fun x hx => ?_
      have hne : x ≠ a := fun he => ha (he ▸ hx)
      simp [hne]
    rw [List.filter_cons_of_pos (by simp), hrest, ih hn]

end ConstraintDirectives.FirstArrival
