import SaasOs.Foundation.DecimalRounding

/-!
# Arithmetic of decimals

Products, differences, quotients and quantized numbers in the context of 28 digits.  A quotient is
computed to one digit more than the context keeps and then rounded; where the division leaves no
remainder, its trailing zeros are removed first, so a decimal within the precision is divided by a
power of ten exactly.
-/

namespace PyDecimal

/-! ## Products and differences -/

def mulExact (a b : PyDecimal) : PyDecimal :=
  ⟨a.coefficient * b.coefficient, a.exponent + b.exponent⟩

/-- `a * b`. -/
def mul (a b : PyDecimal) : PyDecimal :=
  (mulExact a b).fix

/-- `-d`, exactly. -/
def negExact (d : PyDecimal) : PyDecimal :=
  ⟨-d.coefficient, d.exponent⟩

def subExact (a b : PyDecimal) : PyDecimal :=
  addExact a b.negExact

/-- `a - b`. -/
def sub (a b : PyDecimal) : PyDecimal :=
  (subExact a b).fix

@[simp] lemma value_mulExact (a b : PyDecimal) : (mulExact a b).value = a.value * b.value := by
  unfold mulExact value
  rw [Int.cast_mul, zpow_add₀ (by norm_num)]
  ring

variable (d : PyDecimal)

@[simp] lemma value_negExact : d.negExact.value = -d.value := by
  simp [negExact, value]

@[simp] lemma value_subExact (a b : PyDecimal) : (subExact a b).value = a.value - b.value := by
  rw [subExact, value_addExact, value_negExact, sub_eq_add_neg]

variable {k : ℕ}

lemma coefficient_le {d : PyDecimal} (hexp : -(k : ℤ) ≤ d.exponent)
    (hnonneg : 0 ≤ d.coefficient) : (d.coefficient : ℚ) ≤ d.value * 10 ^ k := by
  have hcoefficient : (0 : ℚ) ≤ d.coefficient := by exact_mod_cast hnonneg
  have hten : (1 : ℚ) ≤ 10 ^ (d.exponent + k) := one_le_zpow₀ (by norm_num) (by omega)
  calc (d.coefficient : ℚ) = d.coefficient * 1 := (mul_one _).symm
    _ ≤ d.coefficient * 10 ^ (d.exponent + k) := mul_le_mul_of_nonneg_left hten hcoefficient
    _ = d.value * 10 ^ k := by
      rw [value, zpow_add₀ (by norm_num), zpow_natCast, mul_assoc]

lemma digits_le_prec {d : PyDecimal} (hexp : -(k : ℤ) ≤ d.exponent)
    (hnonneg : 0 ≤ d.value) (hlt : d.value * 10 ^ k < 10 ^ prec) :
    digits d.coefficient.natAbs ≤ prec := by
  have hcoefficient := value_nonneg_iff.mp hnonneg
  have hbound : (d.coefficient : ℚ) < 10 ^ prec := (coefficient_le hexp hcoefficient).trans_lt hlt
  have hint : (d.coefficient.natAbs : ℤ) < (10 : ℕ) ^ prec := by
    rw [Int.natAbs_of_nonneg hcoefficient]
    exact_mod_cast hbound
  rw [digits_le_iff (by decide)]
  exact_mod_cast hint

variable {a b : PyDecimal}

lemma mul_eq (h : digits (mulExact a b).coefficient.natAbs ≤ prec) :
    mul a b = mulExact a b :=
  fix_eq_self h

/-! ## Signs, and numbers within the context -/

lemma fix_negExact : d.negExact.fix = d.fix.negExact := by
  unfold fix negExact
  dsimp only
  rw [Int.natAbs_neg, Int.sign_neg]
  split
  · rfl
  · split
    · rw [neg_mul]
    · rw [neg_mul]

lemma fitsContext_negExact {d : PyDecimal} : d.negExact.FitsContext ↔ d.FitsContext := by
  unfold FitsContext cutOff excess negExact
  rw [Int.natAbs_neg]

lemma value_fix_eq_value_iff : d.fix.value = d.value ↔ d.FitsContext := by
  rcases le_total 0 d.coefficient with h | h
  · exact value_fix_eq_iff h
  · have hneg : 0 ≤ d.negExact.coefficient := neg_nonneg.mpr h
    rw [← fitsContext_negExact, ← value_fix_eq_iff hneg, fix_negExact, value_negExact,
      value_negExact, neg_inj]

lemma natAbs_sign_mul_le (c : ℤ) (n : ℕ) : (c.sign * n).natAbs ≤ n := by
  have hsign : c.sign.natAbs ≤ 1 := by
    rcases Int.sign_trichotomy c with h | h | h <;> rw [h] <;> decide
  rw [Int.natAbs_mul, Int.natAbs_natCast]
  calc c.sign.natAbs * n ≤ 1 * n := Nat.mul_le_mul_right n hsign
    _ = n := one_mul n

lemma fitsContext_iff :
    d.FitsContext ↔ ∃ c e : ℤ, c.natAbs < 10 ^ prec ∧ d.value = c * 10 ^ e := by
  have hten : (10 : ℚ) ≠ 0 := by norm_num
  constructor
  · intro h
    refine ⟨d.coefficient.sign * d.kept, d.exponent + d.excess, ?_, ?_⟩
    · exact (natAbs_sign_mul_le _ _).trans_lt d.kept_lt
    · have hnat := kept_mul_add_cutOff d
      rw [h, add_zero] at hnat
      have hcoefficient : d.coefficient = d.coefficient.sign * d.kept * 10 ^ d.excess := by
        rw [mul_assoc]
        exact_mod_cast (congrArg (fun n : ℕ => d.coefficient.sign * (n : ℤ)) hnat.symm).symm ▸
          (Int.sign_mul_natAbs d.coefficient).symm
      unfold value
      conv_lhs => rw [hcoefficient]
      rw [zpow_add₀ hten, zpow_natCast]
      push_cast
      ring
  · rintro ⟨c, e, hc, hvalue⟩
    rcases Nat.eq_zero_or_pos d.excess with hzero | hpos
    · unfold FitsContext cutOff
      rw [hzero, pow_zero, Nat.mod_one]
    -- the decimal is too large for a unit below its last digit kept
    have hlong : 10 ^ (prec + d.excess - 1) ≤ d.coefficient.natAbs := by
      have hdigits : ¬ digits d.coefficient.natAbs ≤ prec + d.excess - 1 := by
        unfold excess at hpos ⊢
        omega
      rwa [digits_le_iff (by unfold prec; omega), not_lt] at hdigits
    have habs : (d.coefficient.natAbs : ℚ) * 10 ^ d.exponent = c.natAbs * 10 ^ e := by
      have hcongr := congrArg abs hvalue
      unfold value at hcongr
      rw [abs_mul, abs_mul, abs_of_pos (by positivity : (0 : ℚ) < 10 ^ d.exponent),
        abs_of_pos (by positivity : (0 : ℚ) < 10 ^ e), ← Int.cast_abs, ← Int.cast_abs] at hcongr
      rwa [Nat.cast_natAbs, Nat.cast_natAbs]
    have hexp : d.exponent + d.excess ≤ e := by
      by_contra hlow
      have hsmall : (c.natAbs : ℚ) * 10 ^ e < 10 ^ (prec + d.excess - 1 : ℕ) * 10 ^ d.exponent := by
        calc (c.natAbs : ℚ) * 10 ^ e < 10 ^ prec * 10 ^ e := by
              gcongr
              exact_mod_cast hc
          _ ≤ 10 ^ prec * 10 ^ (d.exponent + d.excess - 1) := by
              gcongr
              · norm_num
              · omega
          _ = 10 ^ (prec + d.excess - 1 : ℕ) * 10 ^ d.exponent := by
              rw [← zpow_natCast, ← zpow_natCast, ← zpow_add₀ hten, ← zpow_add₀ hten]
              congr 1
              omega
      have hlarge : (10 : ℚ) ^ (prec + d.excess - 1 : ℕ) * 10 ^ d.exponent ≤
          d.coefficient.natAbs * 10 ^ d.exponent := by
        gcongr
        exact_mod_cast hlong
      linarith
    obtain ⟨k, hk⟩ : ∃ k : ℕ, e = d.exponent + d.excess + k :=
      ⟨(e - (d.exponent + d.excess)).toNat, by omega⟩
    have hnat : d.coefficient.natAbs = c.natAbs * 10 ^ k * 10 ^ d.excess := by
      have hpow : (10 : ℚ) ^ d.exponent ≠ 0 := by positivity
      rw [hk, zpow_add₀ hten, zpow_add₀ hten, zpow_natCast, zpow_natCast] at habs
      have hcast : (d.coefficient.natAbs : ℚ) = c.natAbs * 10 ^ k * 10 ^ d.excess := by
        apply mul_right_cancel₀ hpow
        rw [habs]
        ring
      exact_mod_cast hcast
    unfold FitsContext cutOff
    conv_lhs => rw [hnat]
    exact Nat.mul_mod_left _ _

lemma FitsContext.congr (h : a.value = b.value) (ha : a.FitsContext) :
    b.FitsContext := by
  rw [fitsContext_iff] at ha ⊢
  rwa [← h]

lemma fitsContext_fix : d.fix.FitsContext := by
  have hshort : ∀ {c e : ℤ}, c.natAbs < 10 ^ prec → FitsContext ⟨c, e⟩ := by
    intro c e hc
    exact (fitsContext_iff _).mpr ⟨c, e, hc, rfl⟩
  unfold fix
  dsimp only
  split
  case isTrue hzero =>
    refine hshort ((digits_le_iff (by decide)).mp ?_)
    omega
  case isFalse =>
    split
    case isTrue =>
      refine hshort ((natAbs_sign_mul_le _ _).trans_lt ?_)
      have hrounded := divHalfEven_eq d
      have hkept := d.kept_lt
      unfold excess at hrounded
      rw [hrounded]
      unfold prec at hkept ⊢
      split <;> omega
    case isFalse hcarry =>
      exact hshort ((natAbs_sign_mul_le _ _).trans_lt
        ((digits_le_iff (by decide)).mp (not_lt.mp hcarry)))

lemma value_foldl_add (acc : PyDecimal) (ds : List PyDecimal)
    (h : ∀ part, part <+: ds → (acc.addExact (sumExact part)).FitsContext) :
    (ds.foldl add acc).value = acc.value + (ds.map value).sum := by
  induction ds generalizing acc with
  | nil => simp
  | cons d ds ih =>
    have hfirst := h [d] (List.prefix_append [d] ds)
    have hadd : (acc.add d).value = acc.value + d.value := by
      rw [← value_addExact]
      refine (value_fix_eq_value_iff _).mpr (hfirst.congr ?_)
      simp
    rw [List.foldl_cons, ih, hadd, List.map_cons, List.sum_cons, add_assoc]
    intro part hpart
    refine (h (d :: part) (List.cons_prefix_cons.mpr ⟨rfl, hpart⟩)).congr ?_
    simp only [value_addExact, value_sumExact, List.map_cons, List.sum_cons, hadd]
    ring

lemma fitsContext_foldl_add {acc : PyDecimal} (hacc : acc.FitsContext) (ds : List PyDecimal) :
    (ds.foldl add acc).FitsContext := by
  induction ds generalizing acc with
  | nil => exact hacc
  | cons d ds ih => exact ih (fitsContext_fix _)

/-! ## Quotients -/

variable (n : ℕ)

lemma natAbs_stripZeros_le (d : PyDecimal) :
    (stripZeros n d).coefficient.natAbs ≤ d.coefficient.natAbs := by
  induction n generalizing d with
  | zero => exact le_rfl
  | succ n ih =>
    unfold stripZeros
    split
    case isTrue hzero =>
      refine (ih _).trans ?_
      dsimp only
      omega
    case isFalse => exact le_rfl

lemma natAbs_stripZeros_mul_le (c e : ℤ) {k n : ℕ} (hk : k ≤ n) :
    (stripZeros n ⟨c * 10 ^ k, e⟩).coefficient.natAbs ≤ c.natAbs := by
  induction k generalizing n e with
  | zero =>
    rw [pow_zero, mul_one]
    exact natAbs_stripZeros_le n ⟨c, e⟩
  | succ k ih =>
    obtain ⟨n, rfl⟩ : ∃ m, n = m + 1 := ⟨n - 1, by omega⟩
    have hpow : c * 10 ^ (k + 1) = c * 10 ^ k * 10 := by ring
    unfold stripZeros
    rw [hpow, if_pos (Int.mul_emod_left _ _)]
    dsimp only
    rw [Int.mul_ediv_cancel _ (by norm_num)]
    exact ih (e + 1) (by omega)

/-- `a / b`; `none` if it raises. -/
def div (a b : PyDecimal) : Option PyDecimal :=
  if b.coefficient = 0 then none
  else if a.coefficient = 0 then some ⟨0, a.exponent - b.exponent⟩
  else
    let sign := a.coefficient.sign * b.coefficient.sign
    let shift : ℤ := digits b.coefficient.natAbs - digits a.coefficient.natAbs + prec + 1
    let dividend := a.coefficient.natAbs * 10 ^ shift.toNat
    let divisor := b.coefficient.natAbs * 10 ^ (-shift).toNat
    let quotient := dividend / divisor
    let exponent := a.exponent - b.exponent - shift
    if dividend % divisor ≠ 0 then
      -- the last digit is made one that does not round to even
      some (fix ⟨sign * (if quotient % 5 = 0 then quotient + 1 else quotient : ℕ), exponent⟩)
    else some (stripZeros shift.toNat ⟨sign * quotient, exponent⟩).fix

lemma digits_ten_pow (k : ℕ) : digits (10 ^ k) = k + 1 := by
  have hle : digits (10 ^ k) ≤ k + 1 :=
    (digits_le_iff (by omega)).mpr (Nat.pow_lt_pow_right (by norm_num) (by omega))
  rcases Nat.eq_zero_or_pos k with rfl | hk
  · rfl
  · have hlt : ¬ digits (10 ^ k) ≤ k := (digits_le_iff hk).not.mpr (lt_irrefl _)
    omega

lemma value_div_ten_pow (h : digits a.coefficient.natAbs ≤ prec) (k : ℕ) :
    ∃ quotient, div a ⟨10 ^ k, 0⟩ = some quotient ∧ quotient.value = a.value / 10 ^ k := by
  have hpos : (0 : ℤ) < 10 ^ k := by positivity
  have hnatAbs : ((10 : ℤ) ^ k).natAbs = 10 ^ k := by
    rw [Int.natAbs_pow]
    rfl
  unfold div
  rw [if_neg hpos.ne']
  split
  case isTrue hzero => exact ⟨_, rfl, by simp [value, hzero]⟩
  case isFalse =>
    dsimp only
    rw [hnatAbs, digits_ten_pow]
    -- the shift is at least the zeros of the divisor, so nothing remains
    obtain ⟨s, hs⟩ : ∃ s : ℕ, ((k + 1 : ℕ) : ℤ) - digits a.coefficient.natAbs + prec + 1 =
        (k + s : ℕ) := ⟨prec + 2 - digits a.coefficient.natAbs, by push_cast; omega⟩
    rw [hs, Int.toNat_natCast]
    have hneg : (-((k + s : ℕ) : ℤ)).toNat = 0 := by omega
    have hquotient : a.coefficient.natAbs * 10 ^ (k + s) / 10 ^ k =
        a.coefficient.natAbs * 10 ^ s := by
      rw [pow_add, mul_left_comm, Nat.mul_div_cancel_left _ (by positivity)]
    have hremainder : a.coefficient.natAbs * 10 ^ (k + s) % 10 ^ k = 0 := by
      rw [pow_add, mul_left_comm, Nat.mul_mod_right]
    rw [hneg, pow_zero, mul_one, hquotient, hremainder, if_neg (not_not.mpr rfl),
      Int.sign_eq_one_of_pos hpos, mul_one]
    have hcoefficient : a.coefficient.sign * ((a.coefficient.natAbs * 10 ^ s : ℕ) : ℤ) =
        a.coefficient * 10 ^ s := by
      push_cast
      rw [← mul_assoc, Int.sign_mul_abs]
    rw [hcoefficient]
    have hle := natAbs_stripZeros_mul_le a.coefficient (a.exponent - 0 - (k + s : ℕ))
      (Nat.le_add_left s k)
    have hfits : digits (stripZeros (k + s)
        ⟨a.coefficient * 10 ^ s, a.exponent - 0 - (k + s : ℕ)⟩).coefficient.natAbs ≤ prec := by
      rw [digits_le_iff (by decide)] at h ⊢
      omega
    refine ⟨_, rfl, ?_⟩
    rw [fix_eq_self hfits, value_stripZeros]
    unfold value
    have hten : (10 : ℚ) ≠ 0 := by norm_num
    dsimp only
    rw [sub_zero, zpow_sub₀ hten, zpow_natCast, pow_add]
    push_cast
    field_simp

/-! ## Quantizing -/

def divHalfUp (n d : ℕ) : ℕ :=
  if d ≤ 2 * (n % d) then n / d + 1 else n / d

/-- `d.quantize(Decimal((0, (1,), exponent)), rounding=ROUND_HALF_UP)`; `none` if it raises. -/
def quantizeHalfUp (d : PyDecimal) (exponent : ℤ) : Option PyDecimal :=
  if d.coefficient = 0 then some ⟨0, exponent⟩
  else if (prec : ℤ) < d.exponent + digits d.coefficient.natAbs - exponent then none
  else
    let rescaled := divHalfUp (d.coefficient.natAbs * 10 ^ (d.exponent - exponent).toNat)
      (10 ^ (exponent - d.exponent).toNat)
    if prec < digits rescaled then none else some ⟨d.coefficient.sign * rescaled, exponent⟩

/-- The nearest number with so many places, the greater of two. -/
def roundHalfUp (places : ℕ) (x : ℚ) : ℚ :=
  ⌊x * 10 ^ places + 1 / 2⌋ / 10 ^ places

lemma roundHalfUp_mono (places : ℕ) : Monotone (roundHalfUp places) := by
  intro x y hxy
  unfold roundHalfUp
  have hfloor : ⌊x * 10 ^ places + 1 / 2⌋ ≤ ⌊y * 10 ^ places + 1 / 2⌋ :=
    Int.floor_le_floor (by gcongr)
  have hcast : (⌊x * 10 ^ places + 1 / 2⌋ : ℚ) ≤ ⌊y * 10 ^ places + 1 / 2⌋ := by
    exact_mod_cast hfloor
  gcongr

lemma divHalfUp_eq_floor {d : ℕ} (hd : 0 < d) :
    (divHalfUp n d : ℤ) = ⌊(n / d : ℚ) + 1 / 2⌋ := by
  have hdiv : ((d * (n / d) + n % d : ℕ) : ℚ) = n := by
    rw [Nat.div_add_mod]
  push_cast at hdiv
  have hdpos : (0 : ℚ) < d := by exact_mod_cast hd
  have hquotient : (n / d : ℚ) = (n / d : ℕ) + (n % d : ℕ) / (d : ℚ) := by
    rw [eq_comm, ← hdiv]
    field_simp
  have hmod : ((n % d : ℕ) : ℚ) < d := by exact_mod_cast Nat.mod_lt n hd
  rw [eq_comm, Int.floor_eq_iff, hquotient, Int.cast_natCast]
  unfold divHalfUp
  split
  case isTrue h =>
    have hhalf : (d : ℚ) ≤ 2 * (n % d : ℕ) := by exact_mod_cast h
    have hle : 1 / 2 ≤ ((n % d : ℕ) : ℚ) / d := by
      rw [le_div_iff₀ hdpos]
      linarith
    have hlt : ((n % d : ℕ) : ℚ) / d < 1 := by
      rwa [div_lt_one hdpos]
    rw [Nat.cast_add_one]
    constructor <;> linarith
  case isFalse h =>
    have hhalf : 2 * ((n % d : ℕ) : ℚ) < d := by exact_mod_cast not_le.mp h
    have hlt : ((n % d : ℕ) : ℚ) / d < 1 / 2 := by
      rw [div_lt_iff₀ hdpos]
      linarith
    have hnonneg : 0 ≤ ((n % d : ℕ) : ℚ) / d := by positivity
    constructor <;> linarith

lemma rescaled_eq {d : PyDecimal} (h : 0 ≤ d.coefficient) (places : ℕ) :
    (((d.coefficient.natAbs * 10 ^ (d.exponent - -(places : ℤ)).toNat : ℕ) : ℚ) /
      ((10 ^ (-(places : ℤ) - d.exponent).toNat : ℕ) : ℚ)) = d.value * 10 ^ places := by
  have hnat : ((d.coefficient.natAbs : ℕ) : ℚ) = d.coefficient := by
    rw [← Int.cast_natCast, Int.natAbs_of_nonneg h]
  have hten : (10 : ℚ) ≠ 0 := by norm_num
  have hexp : d.exponent + places =
      ((d.exponent - -(places : ℤ)).toNat : ℤ) - ((-(places : ℤ) - d.exponent).toNat : ℤ) := by
    omega
  have hpow : (10 : ℚ) ^ d.exponent * 10 ^ places = 10 ^ (d.exponent - -(places : ℤ)).toNat /
      10 ^ (-(places : ℤ) - d.exponent).toNat := by
    rw [← zpow_natCast, ← zpow_natCast, ← zpow_natCast, ← zpow_add₀ hten, ← zpow_sub₀ hten, hexp]
  push_cast
  rw [hnat, value, mul_assoc, hpow, mul_div_assoc]

lemma quantizeHalfUp_eq {d : PyDecimal} (h : 0 ≤ d.value) {places : ℕ}
    (hlt : d.value * 10 ^ places + 1 / 2 < 10 ^ prec) :
    ∃ quantized, quantizeHalfUp d (-places) = some quantized ∧
      quantized.value = roundHalfUp places d.value := by
  have hcoefficient := value_nonneg_iff.mp h
  unfold quantizeHalfUp
  split
  case isTrue hzero =>
    refine ⟨_, rfl, ?_⟩
    have hvalue : d.value = 0 := by simp [value, hzero]
    rw [hvalue]
    norm_num [value, roundHalfUp]
  case isFalse hne =>
    have hpos : 0 < d.coefficient := lt_of_le_of_ne hcoefficient (Ne.symm hne)
    have hrescaled : (divHalfUp (d.coefficient.natAbs * 10 ^ (d.exponent - -(places : ℤ)).toNat)
        (10 ^ (-(places : ℤ) - d.exponent).toNat) : ℤ) = ⌊d.value * 10 ^ places + 1 / 2⌋ := by
      rw [divHalfUp_eq_floor _ (by positivity), rescaled_eq hcoefficient]
    rw [if_neg]
    · dsimp only
      rw [if_neg]
      · refine ⟨_, rfl, ?_⟩
        rw [sign_mul_value hpos, ← Int.cast_natCast, hrescaled, zpow_neg, zpow_natCast,
          ← div_eq_mul_inv, roundHalfUp]
      · rw [not_lt, digits_le_iff (by decide)]
        have hfloor : ⌊d.value * 10 ^ places + 1 / 2⌋ < (10 : ℤ) ^ prec := by
          rw [Int.floor_lt]
          exact_mod_cast hlt
        rw [← hrescaled] at hfloor
        exact_mod_cast hfloor
    · -- the leading digit is below the precision
      intro hlong
      have hdigits : ¬ digits d.coefficient.natAbs ≤ digits d.coefficient.natAbs - 1 := by
        have : 0 < digits d.coefficient.natAbs := List.length_pos_iff.mpr (by simp)
        omega
      have hlead : (10 : ℚ) ^ (digits d.coefficient.natAbs - 1 : ℕ) ≤ d.coefficient := by
        rcases Nat.eq_zero_or_pos (digits d.coefficient.natAbs - 1) with hone | hmore
        · rw [hone, pow_zero]
          exact_mod_cast hpos
        · rw [digits_le_iff hmore, not_lt] at hdigits
          have hint : (10 : ℤ) ^ (digits d.coefficient.natAbs - 1) ≤ d.coefficient := by
            zify at hdigits
            rwa [abs_of_pos hpos] at hdigits
          exact_mod_cast hint
      have hten : (10 : ℚ) ≠ 0 := by norm_num
      have hlarge : (10 : ℚ) ^ prec ≤ d.value * 10 ^ places := by
        calc (10 : ℚ) ^ prec = 10 ^ (prec : ℤ) := (zpow_natCast _ _).symm
          _ ≤ 10 ^ (((digits d.coefficient.natAbs - 1 : ℕ) : ℤ) + d.exponent + places) :=
            zpow_le_zpow_right₀ (by norm_num) (by omega)
          _ = 10 ^ (digits d.coefficient.natAbs - 1) * 10 ^ d.exponent * 10 ^ places := by
            rw [zpow_add₀ hten, zpow_add₀ hten, zpow_natCast, zpow_natCast]
          _ ≤ d.value * 10 ^ places := by
            rw [value]
            gcongr
      linarith

/-- A half is rounded up, and what does not fit raises. -/
example : quantizeHalfUp ⟨5, -9⟩ (-8) = some ⟨1, -8⟩ ∧ quantizeHalfUp ⟨4, -9⟩ (-8) = some ⟨0, -8⟩ ∧
    quantizeHalfUp ⟨1, 20⟩ (-8) = none := by
  decide +kernel

end PyDecimal
