/-! Keyed entries in the order in which their keys first arrived. Storing under a known key keeps
its place. -/
namespace ConstraintDirectives

abbrev Entries (κ α : Type) := List (κ × α)

namespace Entries
variable {κ α : Type}

def keys (es : Entries κ α) : List κ := es.map Prod.fst

variable [DecidableEq κ]

def get? : Entries κ α → κ → Option α
  | [], _ => none
  | (k', a) :: es, k => if k' = k then some a else get? es k

/-- Replaces what is stored under a key by a function of it, at the end for a new key. -/
def upsert (k : κ) (f : Option α → α) : Entries κ α → Entries κ α
  | [] => [(k, f none)]
  | (k', a) :: es => if k' = k then (k', f (some a)) :: es else (k', a) :: upsert k f es

def insert (es : Entries κ α) (k : κ) (a : α) : Entries κ α := upsert k (fun _ => a) es

/-- A repeated key keeps its first place and takes its last value. -/
def ofList (pairs : List (κ × α)) : Entries κ α :=
  pairs.foldl (fun es (k, a) => insert es k a) []

theorem get?_upsert (es : Entries κ α) (k j : κ) (f : Option α → α) :
    get? (upsert k f es) j = if k = j then some (f (get? es k)) else get? es j := by
  induction es with
  | nil => simp [upsert, get?]
  | cons e es ih =>
    by_cases h : e.1 = k
    · by_cases h' : k = j <;> simp [upsert, get?, h, h']
    · by_cases h' : e.1 = j
      · subst h'
        simp [upsert, get?, h, Ne.symm h]
      · simp [upsert, get?, h, h', ih]

theorem get?_append (es fs : Entries κ α) (k : κ) :
    get? (es ++ fs) k = (get? es k).or (get? fs k) := by
  induction es with
  | nil => rfl
  | cons e es ih =>
    rw [List.cons_append, get?, get?, ih]
    split <;> rfl

theorem mem_keys_iff (es : Entries κ α) (k : κ) : k ∈ keys es ↔ (get? es k).isSome := by
  induction es with
  | nil => simp [keys, get?]
  | cons e es ih =>
    by_cases h : e.1 = k
    · simp [keys, get?, h]
    · have h' : ¬ k = e.1 := fun he => h he.symm
      simpa [keys, get?, h, h'] using ih

theorem exists_get?_iff (es : Entries κ α) (k : κ) : (∃ a, get? es k = some a) ↔ k ∈ keys es := by
  rw [mem_keys_iff, Option.isSome_iff_exists]

theorem mem_of_get? {es : Entries κ α} {k : κ} {a : α} (h : get? es k = some a) :
    (k, a) ∈ es := by
  induction es with
  | nil => cases h
  | cons e es ih =>
    rw [get?] at h
    split at h
    · next hk =>
      cases h
      exact List.mem_cons.mpr (.inl (Prod.ext hk.symm rfl))
    · exact List.mem_cons_of_mem _ (ih h)

theorem get?_of_not_mem {es : Entries κ α} {k : κ} (h : k ∉ keys es) : get? es k = none := by
  simpa using mt (mem_keys_iff es k).mpr h

theorem get?_of_mem {es : Entries κ α} (hn : (keys es).Nodup) {k : κ} {a : α}
    (h : (k, a) ∈ es) : get? es k = some a := by
  induction es with
  | nil => cases h
  | cons e es ih =>
    obtain ⟨hk, hn⟩ := List.nodup_cons.mp hn
    rcases List.mem_cons.mp h with rfl | h
    · simp [get?]
    · have hne : ¬ e.1 = k := fun he => hk (he ▸ List.mem_map.mpr ⟨_, h, rfl⟩)
      rw [get?, if_neg hne]
      exact ih hn h

/-- Where keys are distinct, their order does not matter. -/
theorem get?_of_perm {es fs : Entries κ α} (hn : (keys es).Nodup) (h : es.Perm fs) (k : κ) :
    get? es k = get? fs k := by
  have hn' : (keys fs).Nodup := (h.map Prod.fst).nodup_iff.mp hn
  apply Option.ext
  intro a
  exact ⟨fun ha => get?_of_mem hn' (h.mem_iff.mp (mem_of_get? ha)),
    fun ha => get?_of_mem hn (h.mem_iff.mpr (mem_of_get? ha))⟩

theorem keys_upsert (es : Entries κ α) (k : κ) (f : Option α → α) :
    keys (upsert k f es) = if k ∈ keys es then keys es else keys es ++ [k] := by
  induction es with
  | nil => simp [upsert, keys]
  | cons e es ih =>
    by_cases h : e.1 = k
    · simp [upsert, keys, h]
    · have h' : ¬ k = e.1 := fun he => h he.symm
      by_cases hk : k ∈ keys es <;> simp_all [upsert, keys]

theorem upsert_of_not_mem {es : Entries κ α} {k : κ} (h : k ∉ keys es) (f : Option α → α) :
    upsert k f es = es ++ [(k, f none)] := by
  induction es with
  | nil => rfl
  | cons e es ih =>
    have hne : ¬ e.1 = k := fun he => h (he ▸ List.mem_cons_self ..)
    rw [upsert, if_neg hne, ih fun hm => h (List.mem_cons_of_mem _ hm)]
    rfl

theorem nodup_keys_upsert {es : Entries κ α} (h : (keys es).Nodup) (k : κ) (f : Option α → α) :
    (keys (upsert k f es)).Nodup := by
  rw [keys_upsert]
  split
  · exact h
  · next hk =>
    refine List.nodup_append.mpr ⟨h, by simp, fun a ha b hb he => hk ?_⟩
    simp only [List.mem_singleton] at hb
    exact hb ▸ he ▸ ha

theorem nodup_keys_ofList (pairs : List (κ × α)) : (keys (ofList pairs)).Nodup := by
  suffices ∀ es : Entries κ α, (keys es).Nodup →
      (keys (pairs.foldl (fun es (k, a) => insert es k a) es)).Nodup from
    this [] (by simp [keys])
  induction pairs with
  | nil => exact fun _ h => h
  | cons p ps ih => exact fun es h => ih _ (nodup_keys_upsert h p.1 fun _ => p.2)

theorem ofList_of_nodup {pairs : List (κ × α)} (h : (keys pairs).Nodup) : ofList pairs = pairs := by
  suffices ∀ es : Entries κ α, (keys (es ++ pairs)).Nodup →
      pairs.foldl (fun es (k, a) => insert es k a) es = es ++ pairs from this [] h
  clear h
  induction pairs with
  | nil => simp
  | cons p ps ih =>
    intro es h
    have hp : p.1 ∉ keys es := by
      rw [keys, List.map_append, List.nodup_append] at h
      exact fun hm => h.2.2 _ hm _ (List.mem_cons_self ..) rfl
    have hs : insert es p.1 p.2 = es ++ [p] := upsert_of_not_mem hp _
    refine (ih (insert es p.1 p.2) ?_).trans ?_
    · simpa [hs] using h
    · simp [hs]

/-- The last of some repeated keys is the one that counts. -/
theorem get?_ofList (pairs : List (κ × α)) (j : κ) :
    get? (ofList pairs) j = get? pairs.reverse j := by
  rw [ofList, List.foldl_eq_foldr_reverse]
  induction pairs.reverse with
  | nil => rfl
  | cons p ps ih =>
    refine (get?_upsert _ p.1 j _).trans ?_
    rw [ih, get?]

/-- Storing each of some entries in turn: a key that they bring goes by its entry, the others by what
was there. -/
theorem get?_foldl_upsert (f : α → Option α → α) (es : Entries κ α) {fs : Entries κ α}
    (hn : (keys fs).Nodup) (k : κ) :
    get? (fs.foldl (fun acc e => upsert e.1 (f e.2) acc) es) k =
      (get? fs k).elim (get? es k) fun a => some (f a (get? es k)) := by
  induction fs generalizing es with
  | nil => rfl
  | cons e fs ih =>
    obtain ⟨hk, hn⟩ := List.nodup_cons.mp hn
    rw [List.foldl_cons, ih _ hn, get?_upsert, get?]
    by_cases he : e.1 = k
    · subst he
      simp [get?_of_not_mem hk]
    · simp [he]

theorem nodup_keys_foldl_upsert (f : α → Option α → α) {es : Entries κ α} (h : (keys es).Nodup)
    (fs : Entries κ α) : (keys (fs.foldl (fun acc e => upsert e.1 (f e.2) acc) es)).Nodup := by
  induction fs generalizing es with
  | nil => exact h
  | cons e fs ih => exact ih (nodup_keys_upsert h e.1 (f e.2))

/-- New keys come last, in the order in which they are stored. -/
theorem keys_foldl_upsert (f : α → Option α → α) (es : Entries κ α) {fs : Entries κ α}
    (hn : (keys fs).Nodup) :
    keys (fs.foldl (fun acc e => upsert e.1 (f e.2) acc) es) =
      keys es ++ (keys fs).filter (· ∉ keys es) := by
  induction fs generalizing es with
  | nil => simp [keys]
  | cons e fs ih =>
    obtain ⟨hk, hn⟩ := List.nodup_cons.mp hn
    rw [List.foldl_cons, ih _ hn, keys_upsert]
    change _ = keys es ++ (e.1 :: keys fs).filter _
    split
    · next he => rw [List.filter_cons_of_neg (by simpa using he)]
    · next he =>
      have hrest : (keys fs).filter (· ∉ keys es ++ [e.1]) = (keys fs).filter (· ∉ keys es) := by
        refine List.filter_congr fun k hm => ?_
        have hne : k ≠ e.1 := fun h => hk (h ▸ hm)
        simp [hne]
      rw [List.filter_cons_of_pos (by simpa using he), hrest, List.append_assoc]
      rfl

/-- Entries are known by their keys, in order, and by what is stored under each. -/
theorem eq_of_get? {es fs : Entries κ α} (hn : (keys es).Nodup) (hk : keys es = keys fs)
    (hg : ∀ k, get? es k = get? fs k) : es = fs := by
  induction es generalizing fs with
  | nil =>
    cases fs with
    | nil => rfl
    | cons f fs => cases hk
  | cons e es ih =>
    cases fs with
    | nil => cases hk
    | cons f fs =>
      obtain ⟨k, a⟩ := e
      obtain ⟨k', b⟩ := f
      obtain ⟨hfresh, hn⟩ := List.nodup_cons.mp hn
      obtain ⟨rfl, hks⟩ := List.cons.inj hk
      have hab : some a = some b := by simpa [get?] using hg k
      cases hab
      have hrest (j : κ) : get? es j = get? fs j := by
        by_cases hj : k = j
        · subst hj
          rw [get?_of_not_mem hfresh, get?_of_not_mem fun hm => hfresh (hks ▸ hm)]
        · simpa [get?, hj] using hg j
      rw [ih hn hks hrest]

theorem get?_map {β : Type} (f : κ → α → β) (es : Entries κ α) (k : κ) :
    get? (es.map fun e => (e.1, f e.1 e.2)) k = (get? es k).map (f k) := by
  induction es with
  | nil => rfl
  | cons e es ih =>
    rw [List.map_cons, get?, get?, ih]
    split
    · next he => rw [he, Option.map_some]
    · rfl

/-- Entries stored under distinct keys, wherever there is something to store. -/
theorem get?_filterMap {β : Type} {l : List β} {key : β → κ} (hn : (l.map key).Nodup)
    (value : β → Option α) {b : β} (hb : b ∈ l) :
    get? (l.filterMap fun b => (value b).map fun a => (key b, a)) (key b) = value b := by
  induction l with
  | nil => cases hb
  | cons c l ih =>
    obtain ⟨hc, hn⟩ := List.nodup_cons.mp hn
    rw [List.filterMap_cons]
    rcases List.mem_cons.mp hb with rfl | hmem
    · cases hv : value b with
      | some a => exact if_pos rfl
      | none =>
        refine get?_of_not_mem fun hm => hc ?_
        obtain ⟨e, he, hkey⟩ := List.mem_map.mp hm
        obtain ⟨b', hb', he⟩ := List.mem_filterMap.mp he
        obtain ⟨_, -, rfl⟩ := Option.map_eq_some_iff.mp he
        exact List.mem_map.mpr ⟨b', hb', hkey⟩
    · have hne : key c ≠ key b := fun he => hc (List.mem_map.mpr ⟨b, hmem, he.symm⟩)
      cases hv : value c with
      | none => exact ih hn hmem
      | some a => exact (if_neg hne).trans (ih hn hmem)

theorem get?_filter {es : Entries κ α} (hn : (keys es).Nodup) (p : α → Bool) (k : κ) :
    get? (es.filter fun e => p e.2) k = (get? es k).filter p := by
  induction es with
  | nil => rfl
  | cons e es ih =>
    obtain ⟨hk, hn⟩ := List.nodup_cons.mp hn
    by_cases he : e.1 = k
    · subst he
      cases hp : p e.2 <;> simp [get?, hp, ih hn, get?_of_not_mem hk, Option.filter]
    · cases hp : p e.2 <;> simp [get?, hp, he, ih hn]

/-- What one finds under a key, the other does too if it has that key. -/
theorem exists_get?_of_keys {β : Type} {es : Entries κ α} {fs : Entries κ β} {k : κ} {b : β}
    (hk : k ∈ keys es ↔ k ∈ keys fs) (h : get? fs k = some b) : ∃ a, get? es k = some a :=
  (exists_get?_iff es k).mpr (hk.mpr ((exists_get?_iff fs k).mp ⟨b, h⟩))

/-- Entries with the same keys look up alike, if they do where both have something. -/
theorem rel_get? {β : Type} {R : α → β → Prop} {es : Entries κ α} {fs : Entries κ β} {k : κ}
    (hk : k ∈ keys es ↔ k ∈ keys fs)
    (h : ∀ a b, get? es k = some a → get? fs k = some b → R a b) :
    Option.Rel R (get? es k) (get? fs k) := by
  rw [mem_keys_iff, mem_keys_iff] at hk
  cases ha : get? es k with
  | none =>
    cases hb : get? fs k with
    | none => exact .none
    | some b => simp [ha, hb] at hk
  | some a =>
    cases hb : get? fs k with
    | none => simp [ha, hb] at hk
    | some b => exact .some (h a b ha hb)

end Entries
end ConstraintDirectives
