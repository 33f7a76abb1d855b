import ConstraintDirectives.Value.Path

/-! No two paths are written alike, if their keys are names. -/
namespace ConstraintDirectives.ValuePath

def isNameStart (c : Char) : Bool := c.isAlpha || c = '_'

def isNameChar (c : Char) : Bool := c.isAlphanum || c = '_'

/-- A letter or an underscore, then letters, digits and underscores. -/
def isName (name : String) : Bool :=
  match name.toList with
  | [] => false
  | c :: rest => isNameStart c && rest.all isNameChar

def HasNames (path : ValuePath) : Prop := ∀ name, .key name ∈ path → isName name = true

variable {p q : ValuePath}

@[simp] theorem hasNames_nil : HasNames [] := fun _ h => absurd h List.not_mem_nil

@[simp] theorem hasNames_key {name : String} :
    HasNames (.key name :: p) ↔ isName name = true ∧ HasNames p := by
  simp [HasNames]

@[simp] theorem hasNames_index {i : Nat} : HasNames (.index i :: p) ↔ HasNames p := by
  simp [HasNames]

private theorem isNameChar_of_isNameStart {c : Char} (h : isNameStart c = true) :
    isNameChar c = true := by
  simp only [isNameStart, isNameChar, Char.isAlphanum, Bool.or_eq_true] at h ⊢
  exact h.imp_left .inl

private theorem exists_of_isName {name : String} (h : isName name = true) : ∃ c rest,
    name.toList = c :: rest ∧ isNameStart c = true ∧ ∀ d ∈ name.toList, isNameChar d = true := by
  rw [isName] at h
  cases hn : name.toList with
  | nil =>
    rw [hn] at h
    cases h
  | cons c rest =>
    rw [hn, Bool.and_eq_true, List.all_eq_true] at h
    obtain ⟨hc, hrest⟩ := h
    exact ⟨c, rest, rfl, hc, List.forall_mem_cons.mpr ⟨isNameChar_of_isNameStart hc, hrest⟩⟩

/-! ### Where a step ends -/

/-- Characters of one kind end where the first of another kind stands. -/
theorem append_inj_of_head {kind : Char → Bool} {xs ys rest rest' : List Char}
    (hxs : ∀ c ∈ xs, kind c = true) (hys : ∀ c ∈ ys, kind c = true)
    (hrest : ∀ c ∈ rest.head?, kind c = false) (hrest' : ∀ c ∈ rest'.head?, kind c = false)
    (h : xs ++ rest = ys ++ rest') : xs = ys ∧ rest = rest' := by
  induction xs generalizing ys with
  | nil =>
    cases ys with
    | nil => exact ⟨rfl, h⟩
    | cons y ys =>
      rw [List.nil_append] at h
      subst h
      have hy : kind y = false := hrest y rfl
      rw [hys y (List.mem_cons_self ..)] at hy
      cases hy
  | cons x xs ih =>
    cases ys with
    | nil =>
      rw [List.nil_append] at h
      subst h
      have hx : kind x = false := hrest' x rfl
      rw [hxs x (List.mem_cons_self ..)] at hx
      cases hx
    | cons y ys =>
      obtain ⟨rfl, htail⟩ := List.cons.inj h
      obtain ⟨rfl, hr⟩ := ih (List.forall_mem_cons.mp hxs).2 (List.forall_mem_cons.mp hys).2 htail
      exact ⟨rfl, hr⟩

def stepChars (path : ValuePath) : List Char := path.flatMap fun s => (segmentText s).toList

private theorem toList_join_segmentText (path : ValuePath) :
    (String.join (path.map segmentText)).toList = stepChars path := by
  rw [String.toList_join, List.flatMap_map, stepChars]

private theorem stepChars_key (name : String) (path : ValuePath) :
    stepChars (.key name :: path) = '.' :: (name.toList ++ stepChars path) := by
  simp [stepChars, segmentText]

private theorem stepChars_index (i : Nat) (path : ValuePath) :
    stepChars (.index i :: path) = '[' :: (Nat.toDigits 10 i ++ ']' :: stepChars path) := by
  simp [stepChars, segmentText]

private theorem stepChars_eq_nil_iff : stepChars p = [] ↔ p = [] := by
  cases p with
  | nil => exact iff_of_true rfl rfl
  | cons s p =>
    refine iff_of_false ?_ (List.cons_ne_nil s p)
    cases s with
    | key name => rw [stepChars_key]; exact List.cons_ne_nil _ _
    | index i => rw [stepChars_index]; exact List.cons_ne_nil _ _

private theorem head_stepChars (path : ValuePath) :
    ∀ c ∈ (stepChars path).head?, isNameChar c = false := by
  intro c hc
  cases path with
  | nil => cases hc
  | cons s path =>
    cases s with
    | key name =>
      rw [stepChars_key] at hc
      cases hc
      decide
    | index i =>
      rw [stepChars_index] at hc
      cases hc
      decide

/-- A numeral is read back as the number that it was written for. -/
theorem toDigits_inj {i j : Nat} (h : Nat.toDigits 10 i = Nat.toDigits 10 j) : i = j :=
  calc
    i = Nat.ofDigitChars 10 (Nat.toDigits 10 i) 0 :=
      (Nat.ofDigitChars_toDigits (by decide) (by decide)).symm
    _ = Nat.ofDigitChars 10 (Nat.toDigits 10 j) 0 := by rw [h]
    _ = j := Nat.ofDigitChars_toDigits (by decide) (by decide)

/-! ### Steps -/

private theorem key_inj {name name' : String} (hn : isName name = true) (hn' : isName name' = true)
    (h : name.toList ++ stepChars p = name'.toList ++ stepChars q) :
    name = name' ∧ stepChars p = stepChars q := by
  obtain ⟨_, _, _, _, hchars⟩ := exists_of_isName hn
  obtain ⟨_, _, _, _, hchars'⟩ := exists_of_isName hn'
  obtain ⟨hname, hsteps⟩ :=
    append_inj_of_head hchars hchars' (head_stepChars p) (head_stepChars q) h
  exact ⟨String.toList_inj.mp hname, hsteps⟩

private theorem index_inj {i j : Nat} {rest rest' : List Char}
    (h : Nat.toDigits 10 i ++ ']' :: rest = Nat.toDigits 10 j ++ ']' :: rest') :
    i = j ∧ rest = rest' := by
  have hdigits (n : Nat) : ∀ c ∈ Nat.toDigits 10 n, c.isDigit = true := fun c hc =>
    Nat.isDigit_of_mem_toDigits (by decide) (by decide) hc
  have hbracket (r : List Char) : ∀ c ∈ (']' :: r).head?, c.isDigit = false := by
    intro c hc
    cases hc
    decide
  obtain ⟨hnumeral, hrest⟩ :=
    append_inj_of_head (hdigits i) (hdigits j) (hbracket rest) (hbracket rest') h
  exact ⟨toDigits_inj hnumeral, (List.cons.inj hrest).2⟩

/-- The first step and what comes after it are known by the characters. -/
theorem step_inj {s t : PathStep} (hp : HasNames (s :: p)) (hq : HasNames (t :: q))
    (h : stepChars (s :: p) = stepChars (t :: q)) : s = t ∧ stepChars p = stepChars q := by
  cases s with
  | key name =>
    rw [stepChars_key] at h
    cases t with
    | key name' =>
      rw [stepChars_key] at h
      obtain ⟨rfl, hsteps⟩ :=
        key_inj (hasNames_key.mp hp).1 (hasNames_key.mp hq).1 (List.cons.inj h).2
      exact ⟨rfl, hsteps⟩
    | index j =>
      rw [stepChars_index] at h
      cases (List.cons.inj h).1
  | index i =>
    rw [stepChars_index] at h
    cases t with
    | key name =>
      rw [stepChars_key] at h
      cases (List.cons.inj h).1
    | index j =>
      rw [stepChars_index] at h
      obtain ⟨rfl, hsteps⟩ := index_inj (List.cons.inj h).2
      exact ⟨rfl, hsteps⟩

private theorem HasNames.tail {s : PathStep} (h : HasNames (s :: p)) : HasNames p :=
  fun name hm => h name (List.mem_cons_of_mem s hm)

private theorem stepChars_inj (hp : HasNames p) (hq : HasNames q) (h : stepChars p = stepChars q) :
    p = q := by
  induction p generalizing q with
  | nil => exact (stepChars_eq_nil_iff.mp h.symm).symm
  | cons s p ih =>
    cases q with
    | nil => exact stepChars_eq_nil_iff.mp h
    | cons t q =>
      obtain ⟨rfl, hsteps⟩ := step_inj hp hq h
      rw [ih hp.tail hq.tail hsteps]

/-! ### Texts -/

def pointed : List Char → List Char
  | ['$'] => []
  | '[' :: cs => '[' :: cs
  | cs => '.' :: cs

private theorem pointed_of_isNameStart {c : Char} (hc : isNameStart c = true) (cs : List Char) :
    pointed (c :: cs) = '.' :: c :: cs := by
  unfold pointed
  split
  · next h =>
    cases h
    exact absurd hc (by decide)
  · next h =>
    cases h
    exact absurd hc (by decide)
  · rfl

/-- What a text leaves out can be told from its first character. -/
theorem pointed_text (hp : HasNames p) : pointed p.text.toList = stepChars p := by
  cases p with
  | nil => rfl
  | cons s p =>
    cases s with
    | key name =>
      obtain ⟨c, cs, hname, hc, -⟩ := exists_of_isName (hasNames_key.mp hp).1
      rw [text, String.toList_append, toList_join_segmentText, stepChars_key, hname,
        List.cons_append]
      exact pointed_of_isNameStart hc (cs ++ stepChars p)
    | index i =>
      have htext : (text (.index i :: p)).toList = stepChars (.index i :: p) :=
        toList_join_segmentText (.index i :: p)
      rw [htext, stepChars_index]
      rfl

/-- Where keys are names, a path is known by its text. -/
theorem text_eq_iff (hp : HasNames p) (hq : HasNames q) : p.text = q.text ↔ p = q := by
  refine ⟨fun h => stepChars_inj hp hq ?_, congrArg text⟩
  rw [← pointed_text hp, ← pointed_text hq, h]

/-- Indexes that share their digits are told apart by the brackets. -/
theorem text_eq_iff_of_shared_digits :
    let p : ValuePath := [.index 1, .index 20, .key "tags_2"]
    let q : ValuePath := [.index 12, .index 0, .key "tags_2"]
    HasNames p ∧ HasNames q ∧ p.text = "[1][20].tags_2" ∧ q.text = "[12][0].tags_2" ∧
      (p.text = q.text ↔ p = q) := by
  intro p q
  have hname : isName "tags_2" = true := by decide
  have hp : HasNames p := by simp [p, hname]
  have hq : HasNames q := by simp [q, hname]
  exact ⟨hp, hq, by decide, by decide, text_eq_iff hp hq⟩

end ConstraintDirectives.ValuePath
