import ConstraintDirectives.Directive.Decoding
import ConstraintDirectives.Proofs.WholeNumbers

/-! A whole divisor up to `2^53` is converted back without loss, so the remainder by it tells whether it
divides. -/
namespace ConstraintDirectives

private theorem Binary64.consecutiveWhole_eq : consecutiveWhole = 2 ^ 53 := rfl

theorem natAbs_toInt_lt (i : Int64) : i.toInt.natAbs < 2 ^ 64 := by
  have hlo := i.le_toInt
  have hhi := i.toInt_lt
  omega

def Declared.whole? (declared : Declared) : Option Int := declared.number?.bind Binary64.whole?

/-- A whole number up to `2^53` that does not divide an integer, although their rounded quotient is
whole. -/
def Declared.FalselyDivides (declared : Declared) (i : Int64) : Prop :=
  ∃ m k, declared.number? = some m ∧ m.whole? = some k ∧ k ≠ 0 ∧ k.natAbs ≤ 2 ^ 53 ∧
    ¬ k ∣ i.toInt ∧ ((Binary64.ofInt i.toInt).div m).whole?.isSome = true

private theorem Declared.whole?_eq_some_iff {declared : Declared} {k : Int} :
    declared.whole? = some k ↔ ∃ m, declared.number? = some m ∧ m.whole? = some k :=
  Option.bind_eq_some_iff

namespace ConstraintName
variable {declared : Declared} {m : Binary64} {k : Int}

private theorem holds_multipleOf {value : Value} {x : Binary64} (hx : value.number? = some x)
    (hm : declared.number? = some m) :
    multipleOf.holds declared value = isMultiple value x m := by
  rw [holds_of_number? hx, holdsNumber, hm, Option.all_some]

private theorem equal_zero_of_whole? (hm : m.whole? = some k) (hk : k ≠ 0) :
    m.equal (.zero false) = false := by
  rw [Binary64.equal_of_whole? hm Binary64.whole?_zero]
  exact decide_eq_false hk

private theorem isMultiple_int (hm : m.whole? = some k) (hk : k ≠ 0) (hle : k.natAbs ≤ 2 ^ 53)
    (i : Int64) (x : Binary64) : isMultiple (.int i) x m = (i % m.toInt64 == 0) := by
  rw [← Binary64.consecutiveWhole_eq] at hle
  rw [isMultiple.eq_1 x m i k hm, equal_zero_of_whole? hm hk, if_neg Bool.false_ne_true, if_pos hle]

/-- The remainder of machine integers is that of integers. Only for the least integer by `-1` does
the quotient overflow, and then too the remainder is zero. -/
theorem remainder_eq_zero_iff {i j : Int64} : (i % j == 0) = true ↔ j.toInt ∣ i.toInt := by
  rw [beq_iff_eq, ← Int64.toInt_inj, Int64.toInt_mod, Int64.toInt_zero, ← Int.dvd_iff_tmod_eq_zero]

/-- A rounded quotient is no whole number by mistake unless the integer is large. -/
theorem lt_natAbs_of_falselyDivides {i : Int64} (hi : Binary64.IsExact i.toInt)
    (h : declared.FalselyDivides i) : 2 ^ 53 < i.toInt.natAbs := by
  obtain ⟨m, k, -, hm, hk, hle, hnot, hwhole⟩ := h
  by_contra hsmall
  have hsmall : i.toInt.natAbs ≤ 2 ^ 53 := Nat.le_of_not_lt hsmall
  exact hnot ((Binary64.isSome_whole?_div_iff hi hm hk hsmall hle).mp hwhole)

private theorem isMultiple_float (hm : m.equal (.zero false) = false) (x y : Binary64) :
    isMultiple (.float y) x m = (x.div m).whole?.isSome := by
  rw [isMultiple, hm, if_neg Bool.false_ne_true]
  nofun

/-- The remainder is not asked for if the divisor is zero, not whole or too large. -/
theorem isMultiple_int_eq_float (h : ∀ k, m.whole? = some k → k ≠ 0 → ¬ k.natAbs ≤ 2 ^ 53)
    (i : Int64) (x y : Binary64) : isMultiple (.int i) x m = isMultiple (.float y) x m := by
  cases hzero : m.equal (.zero false) with
  | true => rw [isMultiple.eq_def, isMultiple.eq_def, hzero, if_pos rfl, if_pos rfl]
  | false =>
    rw [isMultiple_float hzero, isMultiple.eq_def, hzero, if_neg Bool.false_ne_true]
    cases hw : m.whole? with
    | none => rfl
    | some k =>
      have hk : k ≠ 0 := by
        rintro rfl
        rw [Binary64.equal_of_whole? hw Binary64.whole?_zero] at hzero
        cases hzero
      exact if_neg (h k hw hk)

/-- A number is a multiple in one form just if it is in the other, but where its quotient is whole by
rounding only. -/
theorem holds_multipleOf_int_eq_float_iff {i : Int64} (hi : Binary64.IsExact i.toInt) :
    multipleOf.holds declared (.int i) = multipleOf.holds declared (.float (.ofInt i.toInt)) ↔
      ¬ declared.FalselyDivides i := by
  cases hd : declared.number? with
  | none =>
    refine iff_of_true ?_ ?_
    · rw [holds_of_number? rfl, holds_of_number? rfl, holdsNumber, holdsNumber, hd, Option.all_none,
        Option.all_none]
    · rintro ⟨m, _, hm, _⟩
      cases hd.symm.trans hm
  | some m =>
    rw [holds_multipleOf rfl hd, holds_multipleOf rfl hd]
    by_cases h : ∃ k, m.whole? = some k ∧ k ≠ 0 ∧ k.natAbs ≤ 2 ^ 53
    · obtain ⟨k, hm, hk, hle⟩ := h
      rw [isMultiple_int hm hk hle, isMultiple_float (equal_zero_of_whole? hm hk), Bool.eq_iff_iff,
        remainder_eq_zero_iff, Binary64.toInt_toInt64 hm hle]
      have hdvd : k ∣ i.toInt → ((Binary64.ofInt i.toInt).div m).whole?.isSome = true :=
        Binary64.isSome_whole?_div_of_dvd hi hm hk (natAbs_toInt_lt i)
      constructor
      · rintro heq ⟨m', k', hd', hm', -, -, hnot, hwhole⟩
        cases hd.symm.trans hd'
        cases hm.symm.trans hm'
        exact hnot (heq.mpr hwhole)
      · exact fun hnot => ⟨hdvd, fun hwhole =>
          by_contra fun hn => hnot ⟨m, k, hd, hm, hk, hle, hn, hwhole⟩⟩
    · have hsame := isMultiple_int_eq_float (fun k hm hk hle => h ⟨k, hm, hk, hle⟩) i
      refine iff_of_true (hsame _ _) ?_
      rintro ⟨m', k, hd', hm, hk, hle, -⟩
      cases hd.symm.trans hd'
      exact h ⟨k, hm, hk, hle⟩

/-- Whether an integer is a multiple of a whole number up to `2^53` is decided exactly. The divisor is
converted to a machine integer without loss and is not zero there, and the remainder is the one that
division toward zero leaves. -/
theorem holds_multipleOf_int_iff_dvd (hk : k ≠ 0) (hle : k.natAbs ≤ 2 ^ 53) :
    (∀ j : Int64, j.toInt = k → (Declared.int j).whole? = some k ∧ ∃ declared,
      ArgumentType.float.decode? (.int j) = some declared ∧ declared.whole? = some k) ∧
    ∀ declared : Declared, declared.whole? = some k → ∃ m, declared.number? = some m ∧
      m.toInt64.toInt = k ∧ m.toInt64 ≠ 0 ∧
      ∀ i : Int64, (i % m.toInt64).toInt = i.toInt.tmod k ∧
        (multipleOf.holds declared (.int i) = true ↔ k ∣ i.toInt) := by
  constructor
  · rintro j rfl
    have hexact : (Binary64.ofInt j.toInt).whole? = some j.toInt := Binary64.isExact_of_le hle
    exact ⟨Declared.whole?_eq_some_iff.mpr ⟨_, rfl, hexact⟩, _, rfl,
      Declared.whole?_eq_some_iff.mpr ⟨_, rfl, hexact⟩⟩
  · intro declared h
    obtain ⟨m, hd, hm⟩ := Declared.whole?_eq_some_iff.mp h
    have hexact : m.toInt64.toInt = k := Binary64.toInt_toInt64 hm hle
    refine ⟨m, hd, hexact, ?_, fun i => ⟨?_, ?_⟩⟩
    · intro h0
      rw [h0] at hexact
      exact hk hexact.symm
    · rw [Int64.toInt_mod, hexact]
    · rw [holds_multipleOf rfl hd, isMultiple_int hm hk hle, remainder_eq_zero_iff, hexact]

/-- The least integer is a multiple of `-1` and none of `-3`. -/
theorem holds_multipleOf_int_iff_dvd_least :
    (-1 : Int) ≠ 0 ∧ (-1 : Int).natAbs ≤ 2 ^ 53 ∧
      multipleOf.holds (.int (-1)) (.int Int64.minValue) = true ∧
    (-3 : Int) ≠ 0 ∧ (-3 : Int).natAbs ≤ 2 ^ 53 ∧
      multipleOf.holds (.float (.ofInt (-3))) (.int Int64.minValue) = false := by
  refine ⟨by decide, by decide, ?_, by decide, by decide, ?_⟩
  · obtain ⟨hints, hall⟩ := holds_multipleOf_int_iff_dvd (k := -1) (by decide) (by decide)
    obtain ⟨m, -, -, -, hm⟩ := hall (.int (-1)) (hints (-1) rfl).1
    exact (hm Int64.minValue).2.mpr (by decide)
  · obtain ⟨-, hall⟩ := holds_multipleOf_int_iff_dvd (k := -3) (by decide) (by decide)
    have hwhole : (Declared.float (.ofInt (-3))).whole? = some (-3) :=
      Declared.whole?_eq_some_iff.mpr ⟨_, rfl, Binary64.isExact_of_le (by decide)⟩
    obtain ⟨m, -, -, -, hm⟩ := hall _ hwhole
    exact Bool.eq_false_iff.mpr fun h => absurd ((hm Int64.minValue).2.mp h) (by decide)

end ConstraintName
end ConstraintDirectives
