import Mathlib.Data.List.TakeWhile
import ConstraintDirectives.Json.Reader

/-! A number ends where a comma or a closing bracket stands, so it reads back inside a document as on
its own. -/
namespace ConstraintDirectives.Json
open Text

def Yields {α : Type} {P : List Char → Prop} (result : Option (α × { rest // P rest })) (x : α)
    (rest : List Char) : Prop :=
  ∃ h : P rest, result = some (x, ⟨rest, h⟩)

/-- What may follow a value: nothing, a comma, or the end of the container that the value is in. -/
def Ends (rest : List Char) : Prop := ∀ c ∈ rest.head?, c = ',' ∨ c = ']' ∨ c = '\x7d'

theorem ends_nil : Ends [] := by simp [Ends]

theorem ends_cons {c : Char} {rest : List Char} :
    Ends (c :: rest) ↔ c = ',' ∨ c = ']' ∨ c = '\x7d' := by
  simp [Ends]

private theorem Ends.of_forall {rest : List Char} (h : Ends rest) {p : Char → Prop} (hcomma : p ',')
    (hbracket : p ']') (hbrace : p '\x7d') : ∀ c ∈ rest.head?, p c := by
  intro c hc
  rcases h c hc with rfl | rfl | rfl
  · exact hcomma
  · exact hbracket
  · exact hbrace

variable {cs rest : List Char}

/-! ### What follows a number -/

section Locality

private theorem forall_head_append {p : Char → Prop} (hcs : ∀ c ∈ cs.head?, p c)
    (hrest : ∀ c ∈ rest.head?, p c) : ∀ c ∈ (cs ++ rest).head?, p c := by
  cases cs with
  | nil => exact hrest
  | cons c cs => exact hcs

private theorem takeWhile_append_of_head {p : Char → Bool} (hrest : ∀ c ∈ rest.head?, p c = false) :
    (cs ++ rest).takeWhile p = cs.takeWhile p := by
  induction cs with
  | nil => cases rest <;> simp_all
  | cons c cs ih => cases hc : p c <;> simp [hc, ih]

private theorem dropWhile_append_of_head {p : Char → Bool} (hrest : ∀ c ∈ rest.head?, p c = false) :
    (cs ++ rest).dropWhile p = cs.dropWhile p ++ rest := by
  induction cs with
  | nil => cases rest <;> simp_all
  | cons c cs ih => cases hc : p c <;> simp [hc, ih]

private theorem spanned_append_of_head {p : Char → Bool} (hrest : ∀ c ∈ rest.head?, p c = false) :
    ∃ h, spanned p (cs ++ rest) = (cs.takeWhile p, ⟨cs.dropWhile p ++ rest, h⟩) := by
  have h : (cs.dropWhile p ++ rest).length ≤ (cs ++ rest).length := by
    simpa using (List.dropWhile_suffix p).length_le
  refine ⟨h, ?_⟩
  ext1
  · exact takeWhile_append_of_head hrest
  · exact Subtype.ext (dropWhile_append_of_head hrest)

private theorem Ends.head_not_digit (h : Ends rest) : ∀ c ∈ rest.head?, c.isDigit = false :=
  h.of_forall (by decide) (by decide) (by decide)

private theorem Ends.head_ne_point (h : Ends rest) : ∀ c ∈ rest.head?, c ≠ '.' :=
  h.of_forall (by decide) (by decide) (by decide)

private theorem Ends.head_not_mark (h : Ends rest) : ∀ c ∈ rest.head?, ¬(c = 'e' ∨ c = 'E') :=
  h.of_forall (by decide) (by decide) (by decide)

private theorem wholePart_append {whole : List Char} {r : Shorter cs} (h : wholePart cs = some (whole, r))
    (hrest : Ends rest) :
    r.1 <:+ cs ∧ Yields (wholePart (cs ++ rest)) whole (r.1 ++ rest) := by
  cases cs with
  | nil => simp [wholePart] at h
  | cons c cs =>
    rw [wholePart] at h
    rw [List.cons_append, wholePart]
    split at h
    · next hc =>
      cases h
      rw [if_pos hc]
      exact ⟨List.suffix_cons c cs, _, rfl⟩
    · next hc =>
      rw [if_neg hc]
      split at h
      · next hd =>
        cases h
        obtain ⟨_, hspan⟩ := @spanned_append_of_head cs rest _ hrest.head_not_digit
        rw [if_pos hd, hspan]
        exact ⟨(List.dropWhile_suffix _).trans (List.suffix_cons c cs), _, rfl⟩
      · cases h

private theorem fraction?_of_head (h : ∀ c ∈ cs.head?, c ≠ '.') :
    fraction? cs = some (none, .whole cs) := by
  unfold fraction?
  split
  · exact absurd rfl (h '.' rfl)
  · rfl

private theorem fraction?_append {fraction : Option (List Char)} {r : Within cs}
    (h : fraction? cs = some (fraction, r)) (hrest : Ends rest) :
    r.1 <:+ cs ∧ Yields (fraction? (cs ++ rest)) fraction (r.1 ++ rest) := by
  by_cases hpoint : ∃ ds, cs = '.' :: ds
  · obtain ⟨ds, rfl⟩ := hpoint
    rw [fraction?] at h
    rw [List.cons_append, fraction?]
    obtain ⟨_, hspan⟩ := @spanned_append_of_head ds rest _ hrest.head_not_digit
    simp only [spanned] at h
    simp only [hspan]
    obtain ⟨hne, h⟩ := Option.ite_none_left_eq_some.mp h
    cases h
    rw [if_neg hne]
    exact ⟨(List.dropWhile_suffix _).trans (List.suffix_cons '.' ds), _, rfl⟩
  · have hhead : ∀ c ∈ cs.head?, c ≠ '.' := by
      rintro c hc rfl
      exact hpoint (List.head?_eq_some_iff.mp hc)
    have hhead' : ∀ c ∈ (cs ++ rest).head?, c ≠ '.' :=
      forall_head_append hhead hrest.head_ne_point
    rw [fraction?_of_head hhead] at h
    cases h
    rw [fraction?_of_head hhead']
    exact ⟨List.suffix_rfl, _, rfl⟩

private theorem exponentDigits?_append {negative : Bool} {exponent : Option Int} {r : Within cs}
    (h : exponentDigits? negative cs = some (exponent, r)) (hrest : Ends rest) :
    r.1 <:+ cs ∧ Yields (exponentDigits? negative (cs ++ rest)) exponent (r.1 ++ rest) := by
  obtain ⟨_, hspan⟩ := @spanned_append_of_head cs rest _ hrest.head_not_digit
  simp only [exponentDigits?, spanned] at h
  simp only [exponentDigits?, hspan]
  obtain ⟨hne, h⟩ := Option.ite_none_left_eq_some.mp h
  cases h
  rw [if_neg hne]
  exact ⟨List.dropWhile_suffix _, _, rfl⟩

private theorem exponent?_of_head (h : ∀ c ∈ cs.head?, ¬(c = 'e' ∨ c = 'E')) :
    exponent? cs = some (none, .whole cs) := by
  unfold exponent?
  split
  · next c ds => rw [if_neg (h c rfl)]
  · rfl

/-- The digits of an exponent end where the whole number ends, whatever mark and sign stand before
them. -/
theorem exponentDigits?_behind_append {negative : Bool} {front : List Char} {exponent : Option Int}
    {r : Within (front ++ cs)}
    (h : (exponentDigits? negative cs).map (fun (e, r) => (e, r.behind front)) = some (exponent, r))
    (hrest : Ends rest) :
    r.1 <:+ front ++ cs ∧
      Yields ((exponentDigits? negative (cs ++ rest)).map fun (e, r) => (e, r.behind front))
        exponent (r.1 ++ rest) := by
  obtain ⟨⟨e, t⟩, ht, he⟩ := Option.map_eq_some_iff.mp h
  obtain ⟨hsuffix, hlen, hy⟩ := exponentDigits?_append ht hrest
  cases he
  rw [hy]
  exact ⟨hsuffix.trans (List.suffix_append front cs), _, rfl⟩

private theorem exponent?_minus {c : Char} (hc : c = 'e' ∨ c = 'E') (ds : List Char) :
    exponent? (c :: '-' :: ds) =
      (exponentDigits? true ds).map fun (e, r) => (e, r.behind [c, '-']) := by
  rw [exponent?, if_pos hc]

private theorem exponent?_plus {c : Char} (hc : c = 'e' ∨ c = 'E') (ds : List Char) :
    exponent? (c :: '+' :: ds) =
      (exponentDigits? false ds).map fun (e, r) => (e, r.behind [c, '+']) := by
  rw [exponent?, if_pos hc]

private theorem exponent?_bare {c d : Char} (hc : c = 'e' ∨ c = 'E') (hminus : d ≠ '-') (hplus : d ≠ '+')
    (ds : List Char) :
    exponent? (c :: d :: ds) =
      (exponentDigits? false (d :: ds)).map fun (e, r) => (e, r.behind [c]) := by
  rw [exponent?, if_pos hc] <;> simp [hminus, hplus]

private theorem exponent?_append {exponent : Option Int} {r : Within cs}
    (h : exponent? cs = some (exponent, r)) (hrest : Ends rest) :
    r.1 <:+ cs ∧ Yields (exponent? (cs ++ rest)) exponent (r.1 ++ rest) := by
  by_cases hmark : ∃ c ds, cs = c :: ds ∧ (c = 'e' ∨ c = 'E')
  · obtain ⟨c, ds, rfl, hc⟩ := hmark
    cases ds with
    | nil =>
      -- A mark needs digits, so nothing is read here, and what follows does not matter.
      have hnone : exponent? [c] = none := by
        rw [exponent?, if_pos hc] <;> simp [exponentDigits?, spanned]
      rw [hnone] at h
      cases h
    | cons d ds =>
      by_cases hminus : d = '-'
      · subst hminus
        rw [exponent?_minus hc] at h
        rw [List.cons_append, List.cons_append, exponent?_minus hc]
        exact exponentDigits?_behind_append h hrest
      · by_cases hplus : d = '+'
        · subst hplus
          rw [exponent?_plus hc] at h
          rw [List.cons_append, List.cons_append, exponent?_plus hc]
          exact exponentDigits?_behind_append h hrest
        · rw [exponent?_bare hc hminus hplus] at h
          rw [List.cons_append, List.cons_append, exponent?_bare hc hminus hplus]
          exact exponentDigits?_behind_append h hrest
  · have hhead : ∀ c ∈ cs.head?, ¬(c = 'e' ∨ c = 'E') := fun c hc he => by
      obtain ⟨ds, rfl⟩ := List.head?_eq_some_iff.mp hc
      exact hmark ⟨c, ds, rfl, he⟩
    have hhead' : ∀ c ∈ (cs ++ rest).head?, ¬(c = 'e' ∨ c = 'E') :=
      forall_head_append hhead hrest.head_not_mark
    rw [exponent?_of_head hhead] at h
    cases h
    rw [exponent?_of_head hhead']
    exact ⟨List.suffix_rfl, _, rfl⟩

private theorem unsignedNumber_append {negative : Bool} {j : Json} {r : Shorter cs}
    (h : unsignedNumber negative cs = some (j, r)) (hrest : Ends rest) :
    r.1 <:+ cs ∧ Yields (unsignedNumber negative (cs ++ rest)) j (r.1 ++ rest) := by
  simp only [unsignedNumber, Option.bind_eq_bind, Option.bind_eq_some_iff] at h
  obtain ⟨⟨whole, r₁⟩, hwhole, ⟨fraction, r₂⟩, hfraction, ⟨exponent, r₃⟩, hexponent, hj⟩ := h
  obtain ⟨hs₁, h₁, hw⟩ := wholePart_append hwhole hrest
  obtain ⟨hs₂, h₂, hf⟩ := fraction?_append hfraction hrest
  obtain ⟨hs₃, h₃, he⟩ := exponent?_append hexponent hrest
  cases hj
  refine ⟨hs₃.trans (hs₂.trans hs₁), Nat.lt_of_le_of_lt h₃ (Nat.lt_of_le_of_lt h₂ h₁), ?_⟩
  simp only [unsignedNumber, Option.bind_eq_bind, hw, hf, he, Option.bind_some]
  rfl

end Locality

/-! ### Integers -/

section Integers
variable {n : Nat}

private theorem head_toDigits_ne_zero (hn : 0 < n) : ∀ c ∈ (Nat.toDigits 10 n).head?, c ≠ '0' := by
  induction n using Nat.strongRecOn with
  | _ n ih =>
    by_cases hlt : n < 10
    · rw [Nat.toDigits_of_lt_base hlt]
      intro c hc he
      cases hc
      have hnat := Nat.toNat_digitChar_of_lt_ten hlt
      rw [he] at hnat
      have hzero : '0'.toNat = 48 := rfl
      omega
    · have hle : 10 ≤ n := Nat.le_of_not_lt hlt
      have hhead := ih (n / 10) (by omega) (by omega)
      rw [Nat.toDigits_of_base_le (by decide) hle]
      cases hds : Nat.toDigits 10 (n / 10) with
      | nil => exact absurd hds Nat.toDigits_ne_nil
      | cons c ds =>
        rw [hds] at hhead
        exact hhead

private theorem wholePart_toDigits (n : Nat) {rest : List Char} (hrest : Ends rest) :
    Yields (wholePart (Nat.toDigits 10 n ++ rest)) (Nat.toDigits 10 n) rest := by
  rcases Nat.eq_zero_or_pos n with rfl | hn
  · exact ⟨by simp, rfl⟩
  · have hdigit : ∀ c ∈ Nat.toDigits 10 n, c.isDigit = true := fun c hc =>
      Nat.isDigit_of_mem_toDigits (by decide) (by decide) hc
    have hhead := head_toDigits_ne_zero hn
    cases hds : Nat.toDigits 10 n with
    | nil => exact absurd hds Nat.toDigits_ne_nil
    | cons c ds =>
      rw [hds] at hdigit hhead
      obtain ⟨hc, hds'⟩ := List.forall_mem_cons.mp hdigit
      obtain ⟨_, hspan⟩ := @spanned_append_of_head ds rest _ hrest.head_not_digit
      have htake : ds.takeWhile Char.isDigit = ds := List.takeWhile_eq_self_iff.mpr hds'
      have hdrop : ds.dropWhile Char.isDigit = [] := List.dropWhile_eq_nil_iff.mpr hds'
      simp only [htake, hdrop] at hspan
      rw [List.cons_append, wholePart, if_neg (hhead c rfl), if_pos hc, hspan]
      exact ⟨_, rfl⟩

/-- Digits appended one list after the other. -/
theorem appendDigits_append {m : Nat} {cs : List Char} (h : appendDigits n cs = (m, 0))
    (ds : List Char) : appendDigits n (cs ++ ds) = appendDigits m ds := by
  induction cs generalizing n with
  | nil =>
    cases h
    rfl
  | cons c cs ih =>
    rw [appendDigits] at h
    rw [List.cons_append, appendDigits]
    split at h
    · next hlt =>
      simp only [if_pos hlt]
      exact ih h
    · cases h

private theorem appendDigits_toDigits (hn : n < UInt64.size) :
    appendDigits 0 (Nat.toDigits 10 n) = (n, 0) := by
  induction n using Nat.strongRecOn with
  | _ n ih =>
    have hzero : '0'.toNat = 48 := rfl
    have hstep (m d : Nat) (hd : d < 10) (hlt : 10 * m + d < UInt64.size) :
        appendDigits m [Nat.digitChar d] = (10 * m + d, 0) := by
      have hval : 10 * m + ((Nat.digitChar d).toNat - '0'.toNat) = 10 * m + d := by
        rw [Nat.toNat_digitChar_of_lt_ten hd, hzero]
        omega
      simp only [appendDigits, hval, if_pos hlt]
    by_cases hlt : n < 10
    · rw [Nat.toDigits_of_lt_base hlt, hstep 0 n hlt (by omega)]
      simp
    · have hle : 10 ≤ n := Nat.le_of_not_lt hlt
      rw [Nat.toDigits_of_base_le (by decide) hle,
        appendDigits_append (ih (n / 10) (by omega) (by omega)),
        hstep (n / 10) (n % 10) (by omega) (by omega)]
      congr 1
      omega

private theorem ofNumeral_toDigits {negative : Bool} (hn : n < UInt64.size)
    (hmin : Int64.minValue.toInt ≤ signed negative n) (hzero : ¬(negative = true ∧ n = 0)) :
    ofNumeral ⟨negative, Nat.toDigits 10 n, [], 0⟩ true = .integer (signed negative n) := by
  simp only [ofNumeral, appendDigits_toDigits hn, appendDigits]
  apply if_pos
  refine ⟨trivial, trivial, hmin, ?_⟩
  rintro ⟨hnegative, hsigned⟩
  apply hzero
  rw [hnegative, signed] at hsigned
  exact ⟨hnegative, by simpa using hsigned⟩

private theorem unsignedNumber_toDigits {negative : Bool} {rest : List Char} (hn : n < UInt64.size)
    (hmin : Int64.minValue.toInt ≤ signed negative n) (hzero : ¬(negative = true ∧ n = 0))
    (hrest : Ends rest) :
    Yields (unsignedNumber negative (Nat.toDigits 10 n ++ rest)) (.integer (signed negative n))
      rest := by
  obtain ⟨hlen, hwhole⟩ := wholePart_toDigits n hrest
  have hfraction : fraction? rest = some (none, .whole rest) :=
    fraction?_of_head hrest.head_ne_point
  have hexponent : exponent? rest = some (none, .whole rest) :=
    exponent?_of_head hrest.head_not_mark
  refine ⟨hlen, ?_⟩
  simp only [unsignedNumber, Option.bind_eq_bind, hwhole, hfraction, Within.whole, hexponent,
    Option.bind_some, Option.getD_none, Option.isNone_none, Bool.and_self,
    ofNumeral_toDigits hn hmin hzero]
  rfl

end Integers

/-! ### Numbers as values -/

section Values
variable {depth allowed : Nat} {c : Char} {j : Json}

private theorem skipBlank_of_not (hc : isBlank c = false) (cs : List Char) :
    skipBlank (c :: cs) = .whole (c :: cs) :=
  Subtype.ext (List.dropWhile_cons_of_neg (by simp [hc]))

theorem uncons?_skipBlank (hc : isBlank c = false) (cs : List Char) :
    (skipBlank (c :: cs)).uncons? = some (c, .tail c cs) := by
  rw [skipBlank_of_not hc]
  rfl

private theorem value_minus (cs : List Char) :
    value depth allowed ('-' :: cs) =
      (unsignedNumber true cs).map fun (n, t) => (n, t.after '-') := by
  cases depth <;> simp only [value, uncons?_skipBlank (show isBlank '-' = false by decide)] <;> rfl

/-- The first characters of numbers that are not negative, and what no other value starts with. -/
def StartsUnsigned (c : Char) : Prop :=
  isBlank c = false ∧ c ∉ ['[', '\x7b', '"', '-', 'n', 't', 'f']

theorem value_unsigned (hc : StartsUnsigned c) (cs : List Char) :
    value depth allowed (c :: cs) = unsignedNumber false (c :: cs) := by
  obtain ⟨hblank, hother⟩ := hc
  have hrest : value depth allowed (c :: cs) = (unsignedNumber false (skipBlank (c :: cs)).1).map
      fun p => (p.1, (skipBlank (c :: cs)).transShorter p.2) := by
    cases depth <;> unfold value <;> simp only [uncons?_skipBlank hblank] <;> split <;> simp_all
  rw [hrest, skipBlank_of_not hblank]
  exact Option.map_id'

private theorem Yields.map_after {cs : List Char} {result : Option (Json × Shorter cs)}
    (h : Yields result j rest) : Yields (result.map fun (n, t) => (n, t.after c)) j rest := by
  obtain ⟨_, rfl⟩ := h
  exact ⟨_, rfl⟩

def IsNumeric (c : Char) : Prop := c.isDigit = true ∨ c ∈ ['.', '-', '+', 'e']

def IsNumericText (s : String) : Prop := ∀ c ∈ s.toList, IsNumeric c

theorem IsNumeric.not_blank (hc : IsNumeric c) : isBlank c = false := by
  apply Bool.eq_false_iff.mpr
  intro hb
  simp only [isBlank, Bool.or_eq_true, decide_eq_true_eq] at hb
  rcases hb with ((rfl | rfl) | rfl) | rfl <;> exact absurd hc (by simp [IsNumeric])

theorem IsNumeric.startsUnsigned (hc : IsNumeric c) (hminus : c ≠ '-') : StartsUnsigned c := by
  refine ⟨hc.not_blank, fun hmem => ?_⟩
  simp only [List.mem_cons, List.not_mem_nil, or_false] at hmem
  rcases hmem with rfl | rfl | rfl | rfl | rfl | rfl | rfl <;>
    first | exact hminus rfl | exact absurd hc (by simp [IsNumeric])

private theorem isNumeric_of_mem_toDigits {n : Nat} (hc : c ∈ Nat.toDigits 10 n) : IsNumeric c :=
  .inl (Nat.isDigit_of_mem_toDigits (by decide) (by decide) hc)

private theorem value_toDigits {n : Nat} (hn : n < UInt64.size) (hrest : Ends rest) :
    Yields (value depth allowed (Nat.toDigits 10 n ++ rest)) (.integer n) rest := by
  have hmin : Int64.minValue.toInt ≤ signed false n :=
    Int.le_trans (show Int64.minValue.toInt ≤ 0 by decide) (Int.natCast_nonneg n)
  have hy := unsignedNumber_toDigits hn hmin (by simp) hrest
  cases hds : Nat.toDigits 10 n with
  | nil => exact absurd hds Nat.toDigits_ne_nil
  | cons c ds =>
    have hc : c.isDigit = true := by
      apply Nat.isDigit_of_mem_toDigits (b := 10) (n := n) (by decide) (by decide)
      simp [hds]
    have hminus : c ≠ '-' := by
      rintro rfl
      exact absurd hc (by decide)
    rw [hds, List.cons_append] at hy
    rw [List.cons_append, value_unsigned (IsNumeric.startsUnsigned (.inl hc) hminus)]
    exact hy

private theorem toList_toString_ofNat (n : Nat) :
    (toString (Int.ofNat n)).toList = Nat.toDigits 10 n := Nat.toList_repr

private theorem toList_toString_negSucc (n : Nat) :
    (toString (Int.negSucc n)).toList = '-' :: Nat.toDigits 10 (n + 1) := by
  rw [Int.toString_eq_repr, Int.repr, String.toList_append, Nat.toList_repr]
  rfl

theorem value_integer {i : Int} (hmin : Int64.minValue.toInt ≤ i) (hmax : i < UInt64.size)
    (hrest : Ends rest) :
    Yields (value depth allowed ((toString i).toList ++ rest)) (.integer i) rest := by
  cases i with
  | ofNat n =>
    rw [toList_toString_ofNat]
    exact value_toDigits (Int.ofNat_lt.mp hmax) hrest
  | negSucc n =>
    have hn : n + 1 < UInt64.size := by
      have hlower : -(UInt64.size : Int) < Int64.minValue.toInt := by decide
      have hneg : Int.negSucc n = -((n + 1 : Nat) : Int) := rfl
      rw [hneg] at hmin
      exact Int.ofNat_lt.mp (Int.neg_lt_neg_iff.mp (Int.lt_of_lt_of_le hlower hmin))
    have hy : Yields (unsignedNumber true (Nat.toDigits 10 (n + 1) ++ rest))
        (.integer (Int.negSucc n)) rest :=
      unsignedNumber_toDigits hn hmin (by simp) hrest
    rw [toList_toString_negSucc, List.cons_append, value_minus]
    exact hy.map_after

/-- Numbers are read alike in documents of any depth, and whatever follows them there. -/
theorem value_append {cs : List Char} {r : Shorter cs} (hcs : ∀ c ∈ cs, IsNumeric c)
    (h : value depth allowed cs = some (j, r)) (hrest : Ends rest) (depth' allowed' : Nat) :
    r.1 <:+ cs ∧ Yields (value depth' allowed' (cs ++ rest)) j (r.1 ++ rest) := by
  cases cs with
  | nil => simp [value, skipBlank, spanned, Within.uncons?] at h
  | cons c cs =>
    have hc : IsNumeric c := hcs c (List.mem_cons_self ..)
    rw [List.cons_append]
    by_cases hminus : c = '-'
    · subst hminus
      rw [value_minus] at h ⊢
      obtain ⟨⟨j', t⟩, ht, hj⟩ := Option.map_eq_some_iff.mp h
      obtain ⟨hsuffix, hy⟩ := unsignedNumber_append ht hrest
      cases hj
      exact ⟨hsuffix.trans (List.suffix_cons '-' cs), hy.map_after⟩
    · rw [value_unsigned (hc.startsUnsigned hminus)] at h ⊢
      exact unsignedNumber_append h hrest

/-- A number that is a whole document has no blanks after it, so all of it is read. -/
theorem value_of_parse? {text : String} (htext : IsNumericText text)
    (h : parse? text = some j) (hrest : Ends rest) :
    Yields (value depth allowed (text.toList ++ rest)) j rest := by
  unfold parse? at h
  split at h
  · next j' r hlen hvalue =>
    obtain ⟨hend, h⟩ := Option.ite_none_right_eq_some.mp h
    cases h
    obtain ⟨hsuffix, hy⟩ := value_append htext hvalue hrest depth allowed
    cases r with
    | nil => exact hy
    | cons d ds =>
      have hd : IsNumeric d := htext d (hsuffix.mem (List.mem_cons_self ..))
      rw [skipBlank_of_not hd.not_blank] at hend
      cases hend
  · cases h

end Values

/-! ### The text of a real number -/

section Reals

private theorem isNumericText_repr (n : Nat) : IsNumericText n.repr := by
  rw [IsNumericText, Nat.toList_repr]
  exact fun c hc => isNumeric_of_mem_toDigits hc

theorem isNumericText_toString (i : Int) : IsNumericText (toString i) := by
  cases i with
  | ofNat n =>
    rw [IsNumericText, toList_toString_ofNat]
    exact fun c hc => isNumeric_of_mem_toDigits hc
  | negSucc n =>
    rw [IsNumericText, toList_toString_negSucc, List.forall_mem_cons]
    exact ⟨by simp [IsNumeric], fun c hc => isNumeric_of_mem_toDigits hc⟩

private theorem isNumericText_zeros (n : Nat) : IsNumericText (NumberLayout.zeros n) := by
  intro c hc
  rw [NumberLayout.zeros, String.toList_ofList] at hc
  rw [List.eq_of_mem_replicate hc]
  exact .inl (by decide)

private theorem IsNumericText.append {s t : String} (hs : IsNumericText s) (ht : IsNumericText t) :
    IsNumericText (s ++ t) := by
  rw [IsNumericText, String.toList_append]
  exact List.forall_mem_append.mpr ⟨hs, ht⟩

/-- Parts of a numeric text are numeric. -/
theorem IsNumericText.sublist {s : String} (hs : IsNumericText s) {cs : List Char}
    (h : cs.Sublist s.toList) : IsNumericText (.ofList cs) := by
  rw [IsNumericText, String.toList_ofList]
  exact fun c hc => hs c (h.mem hc)

private theorem isNumericText_positionalText (d : Decimal) :
    IsNumericText (NumberLayout.json.positionalText d) := by
  have hdigits := isNumericText_repr d.digits
  have hpoint : IsNumericText "." := by simp [IsNumericText, IsNumeric]
  unfold NumberLayout.positionalText
  split
  · have hending : IsNumericText NumberLayout.json.wholeEnding := by
      simp [IsNumericText, NumberLayout.json, IsNumeric]
    exact (hdigits.append (isNumericText_zeros _)).append hending
  · have hpadded (k : Nat) : IsNumericText (NumberLayout.zeros k ++ d.digits.repr) :=
      (isNumericText_zeros k).append hdigits
    apply IsNumericText.append
    · exact ((hpadded _).sublist (List.take_sublist ..)).append hpoint
    · exact (hpadded _).sublist (List.drop_sublist ..)

private theorem isNumericText_scientificText (d : Decimal) (exponent : Int) :
    IsNumericText (NumberLayout.scientificText d exponent) := by
  have hdigits := isNumericText_repr d.digits
  have hmark : IsNumericText "e" := by simp [IsNumericText, IsNumeric]
  unfold NumberLayout.scientificText
  refine .append (.append (.append (.append ?_ ?_) hmark) ?_) (isNumericText_toString exponent)
  · exact hdigits.sublist (List.take_sublist ..)
  · split
    · simp [IsNumericText]
    · have hpoint : IsNumericText "." := by simp [IsNumericText, IsNumeric]
      exact hpoint.append (hdigits.sublist (List.tail_sublist _))
  · split <;> simp [IsNumericText, IsNumeric]

private theorem isNumericText_magnitudeText (units : Nat) :
    IsNumericText (NumberLayout.json.magnitudeText units) := by
  have hlaid (d : Decimal) (exponent : Int) :
      IsNumericText (if NumberLayout.json.positional exponent then
        NumberLayout.json.positionalText d else NumberLayout.scientificText d exponent) := by
    split
    · exact isNumericText_positionalText d
    · exact isNumericText_scientificText d exponent
  exact hlaid _ _

theorem isNumericText_text {x : Binary64} (hx : x.isFinite = true) :
    IsNumericText (NumberLayout.json.text x) := by
  cases x with
  | nan | infinite => cases hx
  | finite negative units h =>
    apply IsNumericText.append _ (isNumericText_magnitudeText units)
    cases negative <;> simp [IsNumericText, IsNumeric]

end Reals

end ConstraintDirectives.Json
