import Mathlib.Tactic

/-!
# Python decimals

A finite `Decimal` is an integer coefficient and a power of ten.  Its value is an exact rational
number, by which decimals are compared.  Constructing a decimal is exact; arithmetic is exact first
and then rounded to the precision of the context, which is 28 significant digits, a half to the even
digit.
-/

/-- A finite `Decimal`: the coefficient times a power of ten. -/
structure PyDecimal where
  coefficient : ℤ
  exponent : ℤ
  deriving DecidableEq

namespace PyDecimal

def value (d : PyDecimal) : ℚ :=
  d.coefficient * 10 ^ d.exponent

def ofInt (n : ℤ) : PyDecimal := ⟨n, 0⟩

@[simp] lemma value_ofInt (n : ℤ) : (ofInt n).value = n := by
  simp [ofInt, value]

lemma value_nonneg_iff {d : PyDecimal} : 0 ≤ d.value ↔ 0 ≤ d.coefficient := by
  have hpos : (0 : ℚ) < 10 ^ d.exponent := by positivity
  rw [value, mul_nonneg_iff_of_pos_right hpos, Int.cast_nonneg_iff]

/-! ## Rounding -/

def prec : ℕ := 28

def digits (n : ℕ) : ℕ :=
  (Nat.toDigits 10 n).length

def divHalfEven (n d : ℕ) : ℕ :=
  if 2 * (n % d) < d then n / d
  else if d < 2 * (n % d) then n / d + 1
  else if n / d % 2 = 0 then n / d else n / d + 1

def fix (d : PyDecimal) : PyDecimal :=
  let excess := digits d.coefficient.natAbs - prec
  if excess = 0 then d
  else
    let rounded := divHalfEven d.coefficient.natAbs (10 ^ excess)
    -- a carry out of the first digit
    if digits rounded > prec then ⟨d.coefficient.sign * (rounded / 10 : ℕ), d.exponent + excess + 1⟩
    else ⟨d.coefficient.sign * rounded, d.exponent + excess⟩

lemma fix_eq_self {d : PyDecimal} (h : digits d.coefficient.natAbs ≤ prec) : d.fix = d := by
  unfold fix
  rw [Nat.sub_eq_zero_of_le h]
  rfl

/-- Remove at most `n` trailing zeros. -/
def stripZeros : ℕ → PyDecimal → PyDecimal
  | 0, d => d
  | n + 1, d =>
    if d.coefficient % 10 = 0 then stripZeros n ⟨d.coefficient / 10, d.exponent + 1⟩ else d

/-- `d.normalize()`: rounded to the context, with the trailing zeros removed. -/
def normalize (d : PyDecimal) : PyDecimal :=
  if d.fix.coefficient = 0 then ⟨0, 0⟩
  else stripZeros (digits d.fix.coefficient.natAbs) d.fix

/-! ## Sums -/

def addExact (a b : PyDecimal) : PyDecimal :=
  let exponent := min a.exponent b.exponent
  ⟨a.coefficient * 10 ^ (a.exponent - exponent).toNat +
    b.coefficient * 10 ^ (b.exponent - exponent).toNat, exponent⟩

/-- `a + b`. -/
def add (a b : PyDecimal) : PyDecimal :=
  (addExact a b).fix

def sumExact (ds : List PyDecimal) : PyDecimal :=
  ds.foldr addExact (ofInt 0)

lemma shift_mul_zpow (c : ℤ) {e e' : ℤ} (h : e' ≤ e) :
    ((c * 10 ^ (e - e').toNat : ℤ) : ℚ) * 10 ^ e' = c * 10 ^ e := by
  have hten : (10 : ℚ) ≠ 0 := by norm_num
  have hshift : ((e - e').toNat : ℤ) = e - e' := Int.toNat_of_nonneg (by omega)
  push_cast
  rw [mul_assoc, ← zpow_natCast, ← zpow_add₀ hten, hshift, sub_add_cancel]

@[simp] lemma value_addExact (a b : PyDecimal) : (addExact a b).value = a.value + b.value := by
  have ha := shift_mul_zpow a.coefficient (min_le_left a.exponent b.exponent)
  have hb := shift_mul_zpow b.coefficient (min_le_right a.exponent b.exponent)
  unfold addExact value
  rw [Int.cast_add, add_mul, ha, hb]

@[simp] lemma value_sumExact (ds : List PyDecimal) :
    (sumExact ds).value = (ds.map value).sum := by
  induction ds with
  | nil => simp [sumExact]
  | cons d ds ih =>
    rw [List.map_cons, List.sum_cons, ← ih]
    exact value_addExact d (sumExact ds)

lemma value_add {a b : PyDecimal} (h : digits (addExact a b).coefficient.natAbs ≤ prec) :
    (add a b).value = a.value + b.value := by
  rw [add, fix_eq_self h, value_addExact]

end PyDecimal
