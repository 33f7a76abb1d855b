import Mathlib
import ConstraintDirectives.Binary64.Basic

/-! A quotient of whole numbers up to `2^53` is rounded to a whole number only if it is one. -/
namespace ConstraintDirectives

/-! ### Rounding a ratio -/

private theorem roundHalfEven_cases (p q : Nat) :
    (roundHalfEven p q = p / q ∧ 2 * (p % q) ≤ q) ∨
      (roundHalfEven p q = p / q + 1 ∧ q ≤ 2 * (p % q)) := by
  rw [roundHalfEven]
  split
  · next h => exact .inl ⟨rfl, Nat.le_of_lt h⟩
  · split
    · next h => exact .inr ⟨rfl, Nat.le_of_lt h⟩
    · rcases Nat.mod_two_eq_zero_or_one (p / q) with h | h
      · exact .inl ⟨by rw [h, Nat.add_zero], by omega⟩
      · exact .inr ⟨by rw [h], by omega⟩

private theorem div_le_roundHalfEven (p q : Nat) : p / q ≤ roundHalfEven p q := by
  rcases roundHalfEven_cases p q with ⟨h, _⟩ | ⟨h, _⟩ <;> omega

private theorem roundHalfEven_le (p q : Nat) : roundHalfEven p q ≤ p / q + 1 := by
  rcases roundHalfEven_cases p q with ⟨h, _⟩ | ⟨h, _⟩ <;> omega

/-- The distance to the ratio is at most a half. -/
theorem roundHalfEven_error (p : Nat) {q : Nat} (hq : 0 < q) :
    2 * (roundHalfEven p q * q) ≤ 2 * p + q ∧ 2 * p ≤ 2 * (roundHalfEven p q * q) + q := by
  have hp : p / q * q + p % q = p := Nat.div_add_mod' p q
  have hlt : p % q < q := Nat.mod_lt p hq
  rcases roundHalfEven_cases p q with ⟨h, hr⟩ | ⟨h, hr⟩
  · rw [h]
    omega
  · rw [h, Nat.add_one_mul (p / q)]
    omega

theorem roundHalfEven_of_dvd {p q : Nat} (hq : 0 < q) (h : q ∣ p) : roundHalfEven p q = p / q := by
  rw [roundHalfEven, Nat.mod_eq_zero_of_dvd h]
  exact if_pos hq

theorem roundHalfEven_mul_right (p q : Nat) {c : Nat} (hc : 0 < c) :
    roundHalfEven (p * c) (q * c) = roundHalfEven p q := by
  have hlt (m n : Nat) : 2 * (m * c) < n * c ↔ 2 * m < n := by
    rw [← Nat.mul_assoc]
    exact Nat.mul_lt_mul_right hc
  have hgt (m n : Nat) : n * c < 2 * (m * c) ↔ n < 2 * m := by
    rw [← Nat.mul_assoc]
    exact Nat.mul_lt_mul_right hc
  rw [roundHalfEven, roundHalfEven, Nat.mul_div_mul_right _ _ hc, Nat.mul_mod_mul_right]
  simp only [hlt, hgt]

theorem natAbs_signed (negative : Bool) (n : Nat) : (signed negative n).natAbs = n := by
  cases negative
  · rfl
  · exact Int.natAbs_neg n

theorem signed_natAbs (i : Int) : signed (decide (i < 0)) i.natAbs = i := by
  rw [signed]
  split
  · next hi => rw [decide_eq_true_eq] at hi; omega
  · next hi => rw [decide_eq_true_eq] at hi; omega

theorem signed_mul (negative : Bool) (m n : Nat) : signed negative (m * n) = signed negative m * n := by
  cases negative
  · exact Int.natCast_mul m n
  · rw [signed, signed, if_pos rfl, if_pos rfl, Int.neg_mul, Int.natCast_mul]

namespace Binary64

def spareDigits (p q : Nat) : Nat := (p / q).log2 - 52

def nearestUnits (p q : Nat) : Nat := roundHalfEven p (q * 2 ^ spareDigits p q) * 2 ^ spareDigits p q

private theorem ofRatio_eq (negative : Bool) (p q : Nat) :
    ofRatio negative p q = ofUnits negative (nearestUnits p q) := by
  simp only [ofRatio, nearestUnits, spareDigits, Nat.shiftLeft_eq]

private theorem nearestUnits_mul_right (p q : Nat) {c : Nat} (hc : 0 < c) :
    nearestUnits (p * c) (q * c) = nearestUnits p q := by
  have hspare : spareDigits (p * c) (q * c) = spareDigits p q := by
    rw [spareDigits, Nat.mul_div_mul_right _ _ hc, spareDigits]
  rw [nearestUnits, hspare, Nat.mul_right_comm q c, roundHalfEven_mul_right _ _ hc, nearestUnits]

private theorem pow_le_of_spareDigits {p q : Nat} (h : spareDigits p q ≠ 0) :
    2 ^ (spareDigits p q + 52) * q ≤ p := by
  have hlog : spareDigits p q + 52 = (p / q).log2 := by
    rw [spareDigits] at h ⊢
    omega
  have hpos : p / q ≠ 0 := by
    intro h0
    rw [h0, Nat.log2_zero] at hlog
    omega
  rw [hlog]
  exact (Nat.mul_le_mul_right q (Nat.log2_self_le hpos)).trans (Nat.div_mul_le_self p q)

/-- At most 53 digits are left, or all of them are zero but the first. -/
theorem roundHalfEven_spare_le (p q : Nat) :
    roundHalfEven p (q * 2 ^ spareDigits p q) ≤ 2 ^ 53 := by
  refine (roundHalfEven_le _ _).trans (Nat.succ_le_of_lt ?_)
  have hlt : p / q < 2 ^ ((p / q).log2 + 1) := Nat.lt_log2_self
  have hle : 2 ^ ((p / q).log2 + 1) ≤ 2 ^ 53 * 2 ^ spareDigits p q := by
    rw [← Nat.pow_add, spareDigits]
    exact Nat.pow_le_pow_right (by decide) (by omega)
  rw [← Nat.div_div_eq_div_mul]
  exact (Nat.div_lt_iff_lt_mul (Nat.two_pow_pos _)).mpr (hlt.trans_le hle)

private theorem log2_mul_pow {r : Nat} (hr : r ≠ 0) (s : Nat) : (r * 2 ^ s).log2 = r.log2 + s := by
  have hpos : r * 2 ^ s ≠ 0 := Nat.mul_ne_zero hr (Nat.two_pow_pos s).ne'
  rw [Nat.log2_eq_iff hpos, Nat.add_right_comm, Nat.pow_add, Nat.pow_add 2 (r.log2 + 1)]
  exact ⟨Nat.mul_le_mul_right _ (Nat.log2_self_le hr),
    Nat.mul_lt_mul_of_pos_right Nat.lt_log2_self (Nat.two_pow_pos s)⟩

/-- A significand of 53 digits, and the one above all of them, makes a magnitude. -/
theorem representable_mul_pow {r s : Nat} (hr : r ≤ 2 ^ 53) (hlt : r * 2 ^ s < 1 <<< 2098) :
    Representable (r * 2 ^ s) := by
  refine ⟨hlt, ?_⟩
  rw [Nat.one_shiftLeft]
  by_cases h0 : r = 0
  · simp [h0]
  · have hlog : (r * 2 ^ s).log2 = r.log2 + s := log2_mul_pow h0 s
    rcases Nat.lt_or_eq_of_le hr with hr | rfl
    · have hr : r.log2 < 53 := (Nat.log2_lt h0).mpr hr
      exact Nat.dvd_mul_left_of_dvd (Nat.pow_dvd_pow 2 (by omega)) r
    · rw [hlog, Nat.log2_two_pow, ← Nat.pow_add]
      exact Nat.pow_dvd_pow 2 (by omega)

private theorem representable_nearestUnits {p q : Nat} (h : nearestUnits p q < 1 <<< 2098) :
    Representable (nearestUnits p q) :=
  representable_mul_pow (roundHalfEven_spare_le p q) h

private theorem ofRatio_of_lt {negative : Bool} {p q : Nat} (h : nearestUnits p q < 1 <<< 2098) :
    ofRatio negative p q = .finite negative (nearestUnits p q) (representable_nearestUnits h) := by
  rw [ofRatio_eq, ofUnits]
  exact dif_pos _

/-- A magnitude stands for itself. -/
theorem nearestUnits_one {units : Nat} (h : Representable units) : nearestUnits units 1 = units := by
  have hdvd : 2 ^ spareDigits units 1 ∣ units := by
    rw [spareDigits, Nat.div_one, ← Nat.one_shiftLeft]
    exact h.2
  rw [nearestUnits, Nat.one_mul, roundHalfEven_of_dvd (Nat.two_pow_pos _) hdvd]
  exact Nat.div_mul_cancel hdvd

/-! ### Ratios of whole numbers -/

/-- The binary digits of a count of units that stand behind the point. It is irreducible so that no
power of it is ever computed. -/
@[irreducible]
def fractionDigits : Nat := 1074

private theorem unitsPerOne_eq : unitsPerOne = 2 ^ fractionDigits := by
  rw [← Nat.one_shiftLeft, fractionDigits, unitsPerOne]

private theorem overflow_eq : 1 <<< 2098 = 2 ^ (fractionDigits + 1024) := by
  rw [← Nat.one_shiftLeft, fractionDigits]

theorem unitsPerOne_pos : 0 < unitsPerOne := by
  rw [unitsPerOne_eq]
  exact Nat.two_pow_pos fractionDigits

private theorem nearestUnits_whole {a : Nat} (ha : a ≤ 2 ^ 53) :
    nearestUnits (a * unitsPerOne) 1 = a * unitsPerOne := by
  have hlt : a * 2 ^ fractionDigits < 1 <<< 2098 := by
    rw [overflow_eq]
    calc _ ≤ 2 ^ 53 * 2 ^ fractionDigits := Nat.mul_le_mul_right _ ha
      _ = 2 ^ (53 + fractionDigits) := (Nat.pow_add ..).symm
      _ < 2 ^ (fractionDigits + 1024) := Nat.pow_lt_pow_right (by decide) (by omega)
  rw [unitsPerOne_eq]
  exact nearestUnits_one (representable_mul_pow ha hlt)

private theorem spareDigits_whole {a : Nat} (ha : a ≠ 0) :
    spareDigits (a * unitsPerOne) 1 = a.log2 + fractionDigits - 52 := by
  rw [spareDigits, Nat.div_one, unitsPerOne_eq, log2_mul_pow ha]

/-- From `2^53` on there is no place for a fraction. -/
theorem unitsPerOne_dvd_nearestUnits (a : Nat) : unitsPerOne ∣ nearestUnits (a * unitsPerOne) 1 := by
  rcases Nat.lt_or_ge (2 ^ 53) a with ha | ha
  · have ha0 : a ≠ 0 := by omega
    have hlog : 53 ≤ a.log2 := (Nat.le_log2 ha0).mpr ha.le
    rw [nearestUnits, spareDigits_whole ha0, unitsPerOne_eq]
    exact Nat.dvd_mul_left_of_dvd (Nat.pow_dvd_pow 2 (by omega)) _
  · rw [nearestUnits_whole ha]
    exact Nat.dvd_mul_left _ _

private theorem nearestUnits_lt {a : Nat} (ha : a < 2 ^ 64) (b : Nat) :
    nearestUnits (a * unitsPerOne) b < 1 <<< 2098 := by
  have hlt : a * unitsPerOne / b < 2 ^ (64 + fractionDigits) := by
    refine (Nat.div_le_self _ b).trans_lt ?_
    rw [unitsPerOne_eq, Nat.pow_add]
    exact Nat.mul_lt_mul_of_pos_right ha (Nat.two_pow_pos _)
  have hspare : spareDigits (a * unitsPerOne) b ≤ 64 + fractionDigits := by
    rw [spareDigits]
    by_cases h0 : a * unitsPerOne / b = 0
    · rw [h0, Nat.log2_zero]
      omega
    · have hlog : (a * unitsPerOne / b).log2 < 64 + fractionDigits := (Nat.log2_lt h0).mpr hlt
      omega
  rw [overflow_eq, nearestUnits]
  calc _ ≤ 2 ^ 53 * 2 ^ spareDigits (a * unitsPerOne) b :=
        Nat.mul_le_mul_right _ (roundHalfEven_spare_le _ _)
    _ = 2 ^ (53 + spareDigits (a * unitsPerOne) b) := (Nat.pow_add ..).symm
    _ < 2 ^ (fractionDigits + 1024) := Nat.pow_lt_pow_right (by decide) (by omega)

/-- Rounding does not fall below `2^53` from above it. -/
theorem le_nearestUnits {a : Nat} (ha : 2 ^ 53 ≤ a) (hlt : a < 2 ^ 64) :
    2 ^ 53 * unitsPerOne ≤ nearestUnits (a * unitsPerOne) 1 := by
  have ha0 : a ≠ 0 := by omega
  have hlog : a.log2 < 64 := (Nat.log2_lt ha0).mpr hlt
  have hdvd : 2 ^ spareDigits (a * unitsPerOne) 1 ∣ 2 ^ 53 * unitsPerOne := by
    rw [spareDigits_whole ha0, unitsPerOne_eq, ← Nat.pow_add]
    exact Nat.pow_dvd_pow 2 (by omega)
  have hdiv : 2 ^ 53 * unitsPerOne / 2 ^ spareDigits (a * unitsPerOne) 1 ≤
      a * unitsPerOne / 2 ^ spareDigits (a * unitsPerOne) 1 :=
    Nat.div_le_div_right (Nat.mul_le_mul_right _ ha)
  rw [nearestUnits, Nat.one_mul, ← Nat.div_mul_cancel hdvd]
  exact Nat.mul_le_mul_right _ (hdiv.trans (div_le_roundHalfEven _ _))

private theorem unitsPerOne_dvd_of_dvd {a b : Nat} (hb : 0 < b) (h : b ∣ a) :
    unitsPerOne ∣ nearestUnits (a * unitsPerOne) b := by
  obtain ⟨c, rfl⟩ := h
  have hscale : nearestUnits (b * c * unitsPerOne) b = nearestUnits (c * unitsPerOne) 1 := by
    have := nearestUnits_mul_right (c * unitsPerOne) 1 hb
    rwa [Nat.one_mul, Nat.mul_comm _ b, ← Nat.mul_assoc] at this
  rw [hscale]
  exact unitsPerOne_dvd_nearestUnits c

/-- Were a quotient of small numbers rounded to a whole number that it is not, the step between
magnitudes near it would be two at least. Only for `2^53` over a power of two is it that wide. -/
theorem dvd_of_unitsPerOne_dvd {a b : Nat} (ha : a ≤ 2 ^ 53) (hb : 0 < b) (hb' : b ≤ 2 ^ 53)
    (h : unitsPerOne ∣ nearestUnits (a * unitsPerOne) b) : b ∣ a := by
  by_contra hnot
  obtain ⟨n, hn⟩ := h
  generalize hs : spareDigits (a * unitsPerOne) b = s
  have hstep : 0 < b * 2 ^ s := Nat.mul_pos hb (Nat.two_pow_pos s)
  have hunits : roundHalfEven (a * unitsPerOne) (b * 2 ^ s) * (b * 2 ^ s) = b * n * unitsPerOne := by
    rw [nearestUnits, hs] at hn
    rw [Nat.mul_left_comm, hn, Nat.mul_comm unitsPerOne, Nat.mul_assoc]
  have herror := roundHalfEven_error (a * unitsPerOne) hstep
  rw [hunits] at herror
  -- The whole number that is missed lies a unit away at least, and the error is half a step at most.
  have hne : a ≠ b * n := fun he => hnot ⟨n, he⟩
  have hwide : 2 * unitsPerOne ≤ b * 2 ^ s := by
    rcases Nat.lt_or_gt_of_ne hne with hlt | hlt
    · have := Nat.mul_le_mul_right unitsPerOne (Nat.succ_le_of_lt hlt)
      rw [Nat.succ_mul] at this
      omega
    · have := Nat.mul_le_mul_right unitsPerOne (Nat.succ_le_of_lt hlt)
      rw [Nat.succ_mul] at this
      omega
  have hspare : s ≠ 0 := by
    rintro rfl
    have hlt : 2 ^ 53 < unitsPerOne := by
      rw [unitsPerOne_eq]
      exact Nat.pow_lt_pow_right (by decide) (by rw [fractionDigits]; decide)
    omega
  have hle : 2 ^ 52 * (b * 2 ^ s) ≤ a * unitsPerOne := by
    have := pow_le_of_spareDigits (hs.symm ▸ hspare)
    rw [hs, Nat.pow_add, Nat.mul_comm, Nat.mul_comm (2 ^ s), Nat.mul_left_comm] at this
    exact this
  have hmax : a * unitsPerOne ≤ 2 ^ 53 * unitsPerOne := Nat.mul_le_mul_right _ ha
  have hexact : a = 2 ^ 53 := by
    refine Nat.eq_of_mul_eq_mul_right unitsPerOne_pos ?_
    omega
  have hpow : b * 2 ^ s = 2 ^ (fractionDigits + 1) := by
    rw [Nat.pow_succ, ← unitsPerOne_eq]
    omega
  obtain ⟨j, -, rfl⟩ := (Nat.dvd_prime_pow Nat.prime_two).mp (Dvd.intro _ hpow)
  rw [hexact] at hnot
  exact hnot (Nat.pow_dvd_pow 2 ((Nat.pow_le_pow_iff_right (by decide)).mp hb'))

/-! ### Whole numbers -/

section Whole
variable {x y : Binary64} {a b k : Int}

private theorem whole?_finite (negative : Bool) (units : Nat) (representable : Representable units) :
    (finite negative units representable).whole? =
      if units % unitsPerOne = 0 then some (signed negative (units / unitsPerOne)) else none :=
  rfl

theorem whole?_eq_some_iff : x.whole? = some k ↔ ∃ negative units representable,
    x = .finite negative units representable ∧ units = k.natAbs * unitsPerOne ∧
      signed negative k.natAbs = k := by
  constructor
  · intro h
    cases x with
    | nan => cases h
    | infinite negative => cases h
    | finite negative units representable =>
      rw [whole?_finite] at h
      split at h
      · next hmod =>
        cases h
        rw [natAbs_signed]
        have hunits : units = units / unitsPerOne * unitsPerOne :=
          (Nat.div_mul_cancel (Nat.dvd_of_mod_eq_zero hmod)).symm
        exact ⟨negative, units, representable, rfl, hunits, rfl⟩
      · cases h
  · rintro ⟨negative, units, representable, rfl, rfl, hk⟩
    rw [whole?_finite, if_pos (Nat.mul_mod_left ..), Nat.mul_div_cancel _ unitsPerOne_pos, hk]

private theorem rank?_of_whole? (h : x.whole? = some k) : x.rank? = some (k * unitsPerOne) := by
  obtain ⟨negative, units, representable, rfl, rfl, hk⟩ := whole?_eq_some_iff.mp h
  rw [rank?, signed_mul, hk]

private theorem equal_of_rank? (hx : x.rank? = some a) (hy : y.rank? = some b) :
    x.equal y = decide (a = b) := by
  rw [equal, related, hx, hy]

theorem equal_of_whole? (hx : x.whole? = some a) (hy : y.whole? = some b) :
    x.equal y = decide (a = b) := by
  have hpos : (unitsPerOne : Int) ≠ 0 := by exact_mod_cast unitsPerOne_pos.ne'
  rw [equal_of_rank? (rank?_of_whole? hx) (rank?_of_whole? hy)]
  exact decide_eq_decide.mpr (Int.mul_eq_mul_right_iff hpos)

theorem whole?_zero : (zero false).whole? = some 0 := by
  rw [zero, whole?_finite, Nat.zero_mod, if_pos rfl, Nat.zero_div]
  rfl

/-- Conversion back to a machine integer loses nothing. -/
theorem toInt_toInt64 (h : x.whole? = some k) (hk : k.natAbs ≤ 2 ^ 53) : x.toInt64.toInt = k := by
  obtain ⟨negative, units, representable, rfl, rfl, hs⟩ := whole?_eq_some_iff.mp h
  rw [toInt64, Nat.mul_div_cancel _ unitsPerOne_pos, hs]
  refine Int64.toInt_ofIntClamp ?_ ?_
  · rw [Int64.toInt_minValue]
    omega
  · rw [Int64.toInt_maxValue]
    omega

/-- An integer that is the same number after conversion. -/
def IsExact (i : Int) : Prop := (ofInt i).whole? = some i

instance : DecidablePred IsExact := fun i => inferInstanceAs (Decidable ((ofInt i).whole? = some i))

private theorem ofInt_eq {i : Int} (h : i.natAbs < 2 ^ 64) :
    ofInt i = .finite (decide (i < 0)) (nearestUnits (i.natAbs * unitsPerOne) 1)
      (representable_nearestUnits (nearestUnits_lt h 1)) :=
  ofRatio_of_lt (nearestUnits_lt h 1)

theorem isExact_of_le {i : Int} (h : i.natAbs ≤ 2 ^ 53) : IsExact i := by
  rw [IsExact, whole?_eq_some_iff]
  exact ⟨_, _, _, ofInt_eq (by omega), nearestUnits_whole h, signed_natAbs i⟩

private theorem equal_ofInt_of_isExact (ha : IsExact a) (hb : IsExact b) :
    (ofInt a).equal (ofInt b) = decide (a = b) :=
  equal_of_whole? ha hb

/-- No other integer is rounded to one below `2^53`. -/
theorem equal_ofInt_of_lt (ha : a.natAbs < 2 ^ 53) (hb : b.natAbs < 2 ^ 64) :
    (ofInt a).equal (ofInt b) = decide (a = b) := by
  have hexact : IsExact a := isExact_of_le (by omega)
  rcases Nat.lt_or_ge (2 ^ 53) b.natAbs with hlarge | hsmall
  · have hge := le_nearestUnits hlarge.le hb
    have hlt : a.natAbs * unitsPerOne < 2 ^ 53 * unitsPerOne :=
      Nat.mul_lt_mul_of_pos_right ha unitsPerOne_pos
    have habs : (a * (unitsPerOne : Int)).natAbs = a.natAbs * unitsPerOne := Int.natAbs_mul ..
    have hne : a ≠ b := by
      rintro rfl
      omega
    have hrank : (ofInt b).rank? =
        some (signed (decide (b < 0)) (nearestUnits (b.natAbs * unitsPerOne) 1)) := by
      rw [ofInt_eq hb]
      rfl
    rw [equal_of_rank? (rank?_of_whole? hexact) hrank]
    refine decide_eq_decide.mpr (iff_of_false (fun he => ?_) hne)
    have hunits := natAbs_signed (decide (b < 0)) (nearestUnits (b.natAbs * unitsPerOne) 1)
    rw [← he] at hunits
    omega
  · exact equal_ofInt_of_isExact hexact (isExact_of_le hsmall)

/-! ### Quotients -/

private theorem ofRatio_mul_right (negative : Bool) (p q : Nat) {c : Nat} (hc : 0 < c) :
    ofRatio negative (p * c) (q * c) = ofRatio negative p q := by
  rw [ofRatio_eq, ofRatio_eq, nearestUnits_mul_right p q hc]

private theorem isSome_whole?_ofRatio_iff {negative : Bool} {p q : Nat}
    (h : nearestUnits p q < 1 <<< 2098) :
    (ofRatio negative p q).whole?.isSome = true ↔ unitsPerOne ∣ nearestUnits p q := by
  rw [ofRatio_of_lt h, whole?_finite, Nat.dvd_iff_mod_eq_zero]
  split
  · next hmod => exact iff_of_true rfl hmod
  · next hmod => exact iff_of_false nofun hmod

private theorem div_eq_ofRatio (hx : x.whole? = some a) (hy : y.whole? = some k) (hk : k ≠ 0) :
    ∃ negative, x.div y = ofRatio negative (a.natAbs * unitsPerOne) k.natAbs := by
  obtain ⟨negative, _, _, rfl, rfl, -⟩ := whole?_eq_some_iff.mp hx
  obtain ⟨negative', _, _, rfl, rfl, -⟩ := whole?_eq_some_iff.mp hy
  have hne : k.natAbs * unitsPerOne ≠ 0 :=
    Nat.mul_ne_zero (Int.natAbs_ne_zero.mpr hk) unitsPerOne_pos.ne'
  refine ⟨negative != negative', ?_⟩
  rw [div, if_neg hne]
  exact ofRatio_mul_right _ _ _ unitsPerOne_pos

/-- The quotient by a divisor is whole, even if it had to be rounded. -/
theorem isSome_whole?_div_of_dvd (hx : x.whole? = some a) (hy : y.whole? = some k) (hk : k ≠ 0)
    (ha : a.natAbs < 2 ^ 64) (h : k ∣ a) : (x.div y).whole?.isSome = true := by
  obtain ⟨negative, hdiv⟩ := div_eq_ofRatio hx hy hk
  rw [hdiv, isSome_whole?_ofRatio_iff (nearestUnits_lt ha _)]
  exact unitsPerOne_dvd_of_dvd (Int.natAbs_pos.mpr hk) (Int.natAbs_dvd_natAbs.mpr h)

/-- Up to `2^53` a rounded quotient is whole only if the quotient itself is. -/
theorem isSome_whole?_div_iff (hx : x.whole? = some a) (hy : y.whole? = some k) (hk : k ≠ 0)
    (ha : a.natAbs ≤ 2 ^ 53) (hk' : k.natAbs ≤ 2 ^ 53) :
    (x.div y).whole?.isSome = true ↔ k ∣ a := by
  have hlt : a.natAbs < 2 ^ 64 := by omega
  refine ⟨fun h => ?_, isSome_whole?_div_of_dvd hx hy hk hlt⟩
  obtain ⟨negative, hdiv⟩ := div_eq_ofRatio hx hy hk
  rw [hdiv, isSome_whole?_ofRatio_iff (nearestUnits_lt hlt _)] at h
  exact Int.natAbs_dvd_natAbs.mp (dvd_of_unitsPerOne_dvd ha (Int.natAbs_pos.mpr hk) hk' h)

end Whole

end Binary64
end ConstraintDirectives
