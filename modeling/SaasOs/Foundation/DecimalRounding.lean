import SaasOs.Foundation.PyDecimal

/-!
# Rounding of decimals

A decimal with more digits than the context keeps is cut after the last digit kept, and what is cut
off decides whether the last digit goes up.  The rounded number has the value of the decimal exactly
if only zeros are cut off, and a bound below the decimal stays below the rounded number exactly if
it goes up or the bound is below what is kept.
-/

namespace PyDecimal

def excess (d : PyDecimal) : ℕ :=
  digits d.coefficient.natAbs - prec

def kept (d : PyDecimal) : ℕ :=
  d.coefficient.natAbs / 10 ^ d.excess

def cutOff (d : PyDecimal) : ℕ :=
  d.coefficient.natAbs % 10 ^ d.excess

def cut (d : PyDecimal) : PyDecimal :=
  ⟨d.coefficient.sign * d.kept, d.exponent + d.excess⟩

/-- No digit is cut off when the number is rounded to the precision. -/
def FitsContext (d : PyDecimal) : Prop :=
  d.cutOff = 0

/-- What is cut off is more than half a unit of the last digit kept, or half a unit and that digit
is odd. -/
def RoundsUp (d : PyDecimal) : Prop :=
  10 ^ d.excess < 2 * d.cutOff ∨ 2 * d.cutOff = 10 ^ d.excess ∧ d.kept % 2 = 1

instance (d : PyDecimal) : Decidable d.FitsContext :=
  inferInstanceAs (Decidable (_ = _))

instance (d : PyDecimal) : Decidable d.RoundsUp :=
  inferInstanceAs (Decidable (_ ∨ _))

variable {d : PyDecimal}

lemma kept_mul_add_cutOff (d : PyDecimal) :
    d.kept * 10 ^ d.excess + d.cutOff = d.coefficient.natAbs :=
  Nat.div_add_mod' _ _

lemma cutOff_lt (d : PyDecimal) : d.cutOff < 10 ^ d.excess :=
  Nat.mod_lt _ (by positivity)

lemma digits_le_iff {n k : ℕ} (hk : 0 < k) : digits n ≤ k ↔ n < 10 ^ k :=
  Nat.length_toDigits_le_iff (by norm_num) hk

lemma kept_lt (d : PyDecimal) : d.kept < 10 ^ prec := by
  have hdigits : digits d.coefficient.natAbs ≤ prec + d.excess := by
    unfold excess
    omega
  have hlt := (digits_le_iff (by unfold prec; omega)).mp hdigits
  rw [pow_add] at hlt
  exact Nat.div_lt_of_lt_mul (by rwa [mul_comm])

lemma divHalfEven_eq (d : PyDecimal) :
    divHalfEven d.coefficient.natAbs (10 ^ d.excess) =
      if d.RoundsUp then d.kept + 1 else d.kept := by
  unfold divHalfEven RoundsUp kept cutOff
  grind

lemma sign_mul_value {c : ℤ} (hc : 0 < c) (n : ℕ) (e : ℤ) :
    value ⟨c.sign * n, e⟩ = n * 10 ^ e := by
  simp [value, Int.sign_eq_one_of_pos hc]

lemma value_fix (h : 0 < d.coefficient) :
    d.fix.value = (if d.RoundsUp then d.kept + 1 else d.kept : ℕ) * 10 ^ (d.exponent + d.excess) := by
  rw [← divHalfEven_eq]
  unfold fix
  dsimp only
  have hexcess : digits d.coefficient.natAbs - prec = d.excess := rfl
  rw [hexcess]
  split
  case isTrue hzero =>
    have hnat : (d.coefficient.natAbs : ℤ) = d.coefficient := by omega
    have hdiv : divHalfEven d.coefficient.natAbs (10 ^ d.excess) = d.coefficient.natAbs := by
      rw [hzero]
      simp [divHalfEven, Nat.mod_one]
    rw [hdiv, hzero]
    unfold value
    rw [← hnat]
    simp
  case isFalse hpos =>
    split
    case isTrue hcarry =>
      -- only the least number of 29 digits is too long
      have hbound : divHalfEven d.coefficient.natAbs (10 ^ d.excess) = 10 ^ prec := by
        have hkept := kept_lt d
        have hlong : 10 ^ prec ≤ divHalfEven d.coefficient.natAbs (10 ^ d.excess) :=
          not_lt.mp ((digits_le_iff (by unfold prec; omega)).not.mp (by omega))
        rw [divHalfEven_eq] at hlong ⊢
        split at hlong <;> split <;> omega
      rw [hbound, sign_mul_value h]
      have hten : (10 : ℚ) ≠ 0 := by norm_num
      rw [zpow_add₀ hten _ 1]
      norm_num [prec]
      ring
    case isFalse => exact sign_mul_value h _ _

lemma value_cut (h : 0 < d.coefficient) :
    d.cut.value = d.kept * 10 ^ (d.exponent + d.excess) :=
  sign_mul_value h _ _

lemma value_eq_kept_add_cutOff (h : 0 < d.coefficient) :
    d.value = d.kept * 10 ^ (d.exponent + d.excess) + d.cutOff * 10 ^ d.exponent := by
  have hnat : ((d.kept * 10 ^ d.excess + d.cutOff : ℕ) : ℚ) = d.coefficient := by
    rw [kept_mul_add_cutOff, ← Int.cast_natCast, Int.natAbs_of_nonneg h.le]
  rw [value, ← hnat, zpow_add₀ (by norm_num)]
  push_cast
  rw [zpow_natCast]
  ring

lemma cutOff_mul_lt (d : PyDecimal) :
    (d.cutOff * 10 ^ d.exponent : ℚ) < 10 ^ (d.exponent + d.excess) := by
  have hlt : (d.cutOff : ℚ) < 10 ^ d.excess := by
    exact_mod_cast cutOff_lt d
  rw [zpow_add₀ (by norm_num), zpow_natCast, mul_comm]
  have hpos : (0 : ℚ) < 10 ^ d.exponent := by positivity
  exact mul_lt_mul_of_pos_left hlt hpos

lemma value_fix_eq_cut (h : 0 < d.coefficient) :
    d.fix.value = d.cut.value + if d.RoundsUp then 10 ^ (d.exponent + d.excess) else 0 := by
  rw [value_fix h, value_cut h]
  split
  · push_cast
    ring
  · rw [add_zero]

lemma FitsContext.not_roundsUp (h : d.FitsContext) : ¬ d.RoundsUp := by
  have hpos : 0 < 10 ^ d.excess := by positivity
  unfold FitsContext at h
  unfold RoundsUp
  omega

lemma value_fix_eq_iff (h : 0 ≤ d.coefficient) : d.fix.value = d.value ↔ d.FitsContext := by
  rcases h.eq_or_lt with hzero | h
  · have hdigits : digits d.coefficient.natAbs ≤ prec := by
      rw [← hzero]
      decide
    rw [fix_eq_self hdigits]
    simp [FitsContext, cutOff, ← hzero]
  have hunit := cutOff_mul_lt d
  have hpos : (0 : ℚ) < 10 ^ d.exponent := by positivity
  rw [value_fix_eq_cut h, value_eq_kept_add_cutOff h, ← value_cut h, add_right_inj]
  constructor
  · intro heq
    split at heq
    · exact absurd heq.symm hunit.ne
    · have hcutOff : (d.cutOff : ℚ) = 0 := by
        rcases mul_eq_zero.mp heq.symm with hcutOff | hten
        · exact hcutOff
        · exact absurd hten hpos.ne'
      exact_mod_cast hcutOff
  · intro hfits
    rw [if_neg hfits.not_roundsUp]
    unfold FitsContext at hfits
    rw [hfits]
    simp

/-- A bound below the decimal is below the rounded one exactly if that goes up, or if the bound is
already below what is kept. -/
lemma lt_value_fix_iff (h : 0 ≤ d.coefficient) {x : ℚ} (hx : x < d.value) :
    x < d.fix.value ↔ d.FitsContext ∨ d.RoundsUp ∨ x < d.cut.value := by
  rcases h.eq_or_lt with hzero | h
  · have hfits : d.FitsContext := by
      simp [FitsContext, cutOff, ← hzero]
    rw [(value_fix_eq_iff hzero.le).mpr hfits]
    exact ⟨fun _ => .inl hfits, fun _ => hx⟩
  by_cases hfits : d.FitsContext
  · rw [(value_fix_eq_iff h.le).mpr hfits]
    exact ⟨fun _ => .inl hfits, fun _ => hx⟩
  have hunit := cutOff_mul_lt d
  rw [value_eq_kept_add_cutOff h, ← value_cut h] at hx
  rw [value_fix_eq_cut h]
  split
  case isTrue hup =>
    refine ⟨fun _ => .inr (.inl hup), fun _ => ?_⟩
    linarith
  case isFalse hup =>
    rw [add_zero]
    exact ⟨fun hlt => .inr (.inr hlt), fun hcases => (hcases.resolve_left hfits).resolve_left hup⟩

@[simp] lemma value_stripZeros (n : ℕ) (d : PyDecimal) : (stripZeros n d).value = d.value := by
  induction n generalizing d with
  | zero => rfl
  | succ n ih =>
    unfold stripZeros
    split
    · next hzero =>
      rw [ih]
      obtain ⟨k, hk⟩ := Int.dvd_of_emod_eq_zero hzero
      have hquotient : d.coefficient / 10 = k := by omega
      have hten : (10 : ℚ) ≠ 0 := by norm_num
      unfold value
      rw [hquotient, hk, zpow_add_one₀ hten]
      push_cast
      ring
    · rfl

end PyDecimal
