import SaasOs.Foundation.DecimalArithmetic
import SaasOs.Inference.Settlement

/-!
# Cost estimates

The cost of an attempt is the sum of its plain input, its cached input and its output, each at its
rate, divided by a million and quantized to eight decimals.  Every rate is checked when the price is
set, and at the largest rates and counts the sum still has fewer digits than the context keeps.  So
the estimate is the exact cost rounded half up, and its column holds it.
-/

namespace SaasOs.Inference.Accounting

open PyDecimal

/-! ## Rates -/

inductive RateArgument
  | none
  | finite (d : PyDecimal)
  /-- A decimal that is not a number, or infinite. -/
  | notFinite
  /-- Not a decimal. -/
  | other

def maxRate : PyDecimal := ⟨1000000, 0⟩

/-- `_rate`, with the code of the `AIConfigurationError`. -/
def rate (optional : Bool) : RateArgument → Except String (Option PyDecimal)
  | .none => if optional then .ok Option.none else .error "invalid_rate"
  | .other => .error "invalid_rate"
  | .notFinite => .error "invalid_rate"
  | .finite value =>
    if ¬ (0 ≤ value.value ∧ value.value ≤ maxRate.value) then .error "invalid_rate"
    else if value.exponent < -8 then .error "invalid_rate"
    else .ok (some value)

/-- The rate is one that `_rate` accepts. -/
def IsAcceptedRate (d : PyDecimal) : Prop :=
  rate false (.finite d) = .ok (some d)

instance (d : PyDecimal) : Decidable (IsAcceptedRate d) :=
  inferInstanceAs (Decidable (_ = _))

/-- The rates of the price are those that `set_model_price` accepts. -/
def IsAcceptedPrice (price : AIModelPrice) : Prop :=
  IsAcceptedRate price.inputPerMillion ∧ IsAcceptedRate price.outputPerMillion ∧
    ∀ cachedRate ∈ price.cachedInputPerMillion, IsAcceptedRate cachedRate

instance (price : AIModelPrice) : Decidable (IsAcceptedPrice price) :=
  inferInstanceAs (Decidable (_ ∧ _ ∧ _))

/-- The row of a price that `set_model_price` adds; its other arguments have passed their checks. -/
def setModelPrice (pricingVersion currency : String)
    (inputPerMillion outputPerMillion cachedInputPerMillion : RateArgument) :
    Except String AIModelPrice :=
  match rate false inputPerMillion, rate false outputPerMillion,
    rate true cachedInputPerMillion with
  | .ok (some input), .ok (some output), .ok cached =>
    .ok ⟨input, output, cached, currency, pricingVersion⟩
  | _, _, _ => .error "invalid_rate"

variable {d : PyDecimal}

lemma isAcceptedRate_iff :
    IsAcceptedRate d ↔ 0 ≤ d.value ∧ d.value ≤ 1000000 ∧ -8 ≤ d.exponent := by
  have hmax : maxRate.value = 1000000 := by norm_num [maxRate, value]
  unfold IsAcceptedRate rate
  dsimp only
  rw [hmax]
  split
  case isTrue h =>
    refine iff_of_false (by simp) fun hd => h ⟨hd.1, hd.2.1⟩
  case isFalse h =>
    have h := not_not.mp h
    split
    case isTrue hexp => exact iff_of_false (by simp) fun hd => absurd hd.2.2 (not_le.mpr hexp)
    case isFalse hexp => exact iff_of_true rfl ⟨h.1, h.2, not_lt.mp hexp⟩

lemma rate_eq_ok {optional : Bool} {argument : RateArgument}
    (h : rate optional argument = .ok (some d)) : IsAcceptedRate d := by
  cases argument with
  | none => cases optional <;> cases h
  | other => cases h
  | notFinite => cases h
  | finite value =>
    have hvalue : d = value := by
      unfold rate at h
      dsimp only at h
      split at h
      · cases h
      · split at h
        · cases h
        · cases h
          rfl
    cases hvalue
    exact h

theorem isAcceptedPrice_of_setModelPrice {pricingVersion currency : String}
    {input output cached : RateArgument} {price : AIModelPrice}
    (h : setModelPrice pricingVersion currency input output cached = .ok price) :
    IsAcceptedPrice price := by
  unfold setModelPrice at h
  split at h
  case h_1 i o c hinput houtput hcached =>
    cases h
    refine ⟨rate_eq_ok hinput, rate_eq_ok houtput, fun cachedRate hrate => ?_⟩
    cases hrate
    exact rate_eq_ok hcached
  case h_2 => cases h

/-- A rate of at most eight decimals as its column, `Numeric(18, 8)`, gives it back. -/
def rateColumn (d : PyDecimal) : PyDecimal :=
  ⟨d.coefficient * 10 ^ (d.exponent + 8).toNat, -8⟩

def readBack (price : AIModelPrice) : AIModelPrice :=
  { price with
    inputPerMillion := rateColumn price.inputPerMillion
    outputPerMillion := rateColumn price.outputPerMillion
    cachedInputPerMillion := price.cachedInputPerMillion.map rateColumn }

lemma value_rateColumn (h : IsAcceptedRate d) : (rateColumn d).value = d.value := by
  obtain ⟨-, -, hexp⟩ := isAcceptedRate_iff.mp h
  have hshift := shift_mul_zpow d.coefficient hexp
  rw [sub_neg_eq_add] at hshift
  exact hshift

lemma IsAcceptedRate.rateColumn {d : PyDecimal} (h : IsAcceptedRate d) :
    IsAcceptedRate (rateColumn d) := by
  obtain ⟨hnonneg, hle, -⟩ := isAcceptedRate_iff.mp h
  rw [isAcceptedRate_iff, value_rateColumn h]
  exact ⟨hnonneg, hle, le_rfl⟩

lemma IsAcceptedPrice.readBack {price : AIModelPrice} (h : IsAcceptedPrice price) :
    IsAcceptedPrice (readBack price) := by
  refine ⟨h.1.rateColumn, h.2.1.rateColumn, fun cachedRate hrate => ?_⟩
  obtain ⟨d, hd, rfl⟩ := Option.map_eq_some_iff.mp hrate
  exact (h.2.2 d hd).rateColumn

/-! ## The estimate -/

def million : PyDecimal := ⟨10 ^ 6, 0⟩

def cachedCost (price : AIModelPrice) (input cached : ℤ) : ℤ × PyDecimal :=
  match price.cachedInputPerMillion with
  | none => (input, .ofInt 0)
  | some cachedRate =>
    (input - min cached input, (ofInt (min cached input)).mul cachedRate)

def costSum (price : AIModelPrice) (input output cached : ℤ) : PyDecimal :=
  (((ofInt (cachedCost price input cached).1).mul price.inputPerMillion).add
    ((ofInt output).mul price.outputPerMillion)).add (cachedCost price input cached).2

/-- The amount of an estimate; `none` if it raises. -/
def estimateAmount (price : AIModelPrice) (input output cached : ℤ) : Option PyDecimal :=
  (div (costSum price input output cached) million).bind fun amount => quantizeHalfUp amount (-8)

/-- `estimate_cost`; the outer `none` if it raises. -/
def estimateCost (price : Option AIModelPrice) (inputTokens outputTokens : Option ℤ)
    (cachedInputTokens : Option ℤ) : Option (Option CostEstimate) :=
  match price, inputTokens, outputTokens with
  | some price, some input, some output =>
    (estimateAmount price input output (cachedInputTokens.getD 0)).map fun amount =>
      some ⟨amount, price.currency, price.pricingVersion⟩
  | _, _, _ => some none

/-! ## Exactness -/

def exactCost (price : AIModelPrice) (input output cached : ℤ) : ℚ :=
  match price.cachedInputPerMillion with
  | none => (input * price.inputPerMillion.value + output * price.outputPerMillion.value) / 10 ^ 6
  | some cachedRate =>
    ((input - min cached input : ℤ) * price.inputPerMillion.value +
      (min cached input : ℤ) * cachedRate.value + output * price.outputPerMillion.value) / 10 ^ 6

def IsCount (n : ℤ) : Prop :=
  0 ≤ n ∧ n ≤ 2 ^ 31 - 1

instance (n : ℤ) : Decidable (IsCount n) :=
  inferInstanceAs (Decidable (_ ∧ _))

/-- A bounded cost of at most eight decimals. -/
structure IsCost (d : PyDecimal) (bound : ℚ) : Prop where
  nonneg : 0 ≤ d.value
  le : d.value ≤ bound
  decimals : -8 ≤ d.exponent

lemma IsCost.digits_le {bound : ℚ} (h : IsCost d bound) (hbound : bound ≤ 10 ^ 17) :
    digits d.coefficient.natAbs ≤ prec := by
  refine digits_le_prec h.decimals h.nonneg ?_
  have hle := h.le
  norm_num [prec]
  linarith

lemma isCost_mul {n : ℤ} (hn : IsCount n) (hd : IsAcceptedRate d) :
    ((ofInt n).mul d).value = n * d.value ∧ IsCost ((ofInt n).mul d) (n * 1000000) := by
  obtain ⟨hnonneg, hle, hexp⟩ := isAcceptedRate_iff.mp hd
  obtain ⟨hzero, hmax⟩ := hn
  have hzeroCast : (0 : ℚ) ≤ n := by exact_mod_cast hzero
  have hmaxCast : (n : ℚ) ≤ 2 ^ 31 - 1 := by exact_mod_cast hmax
  have hvalue : (mulExact (ofInt n) d).value = n * d.value := by
    rw [value_mulExact, value_ofInt]
  have hcost : IsCost (mulExact (ofInt n) d) (n * 1000000) := by
    constructor
    · rw [hvalue]
      positivity
    · rw [hvalue]
      gcongr
    · simpa [mulExact, ofInt] using hexp
  have hfits := hcost.digits_le (by norm_num at hmaxCast ⊢; linarith)
  rw [mul_eq hfits]
  exact ⟨hvalue, hcost⟩

lemma isCost_add {a b : PyDecimal} {boundA boundB : ℚ} (ha : IsCost a boundA) (hb : IsCost b boundB)
    (hbound : boundA + boundB ≤ 10 ^ 17) :
    (a.add b).value = a.value + b.value ∧ IsCost (a.add b) (boundA + boundB) := by
  have hcost : IsCost (addExact a b) (boundA + boundB) := by
    have hnonneg := add_nonneg ha.nonneg hb.nonneg
    have hle := add_le_add ha.le hb.le
    rw [← value_addExact] at hnonneg hle
    exact ⟨hnonneg, hle, le_min ha.decimals hb.decimals⟩
  have hfits := hcost.digits_le hbound
  have hadd : a.add b = addExact a b := fix_eq_self hfits
  rw [hadd]
  exact ⟨value_addExact a b, hcost⟩

variable {price : AIModelPrice} {input output cached : ℤ}

section

variable (hprice : IsAcceptedPrice price) (hinput : IsCount input)

include hprice hinput

lemma isCost_cachedCost (hcached : IsCount cached) :
    IsCount (cachedCost price input cached).1 ∧
      IsCost (cachedCost price input cached).2 (2147483647 * 1000000) ∧
      ((cachedCost price input cached).1 * price.inputPerMillion.value +
        (cachedCost price input cached).2.value) / 10 ^ 6 = exactCost price input 0 cached := by
  unfold cachedCost exactCost
  cases hrate : price.cachedInputPerMillion with
  | none =>
    refine ⟨hinput, ⟨?_, ?_, ?_⟩, ?_⟩
    · simp
    · norm_num
    · show (-8 : ℤ) ≤ 0
      norm_num
    · simp
  | some cachedRate =>
    unfold IsCount at hinput hcached
    have hmin : IsCount (min cached input) := by
      unfold IsCount
      omega
    have hplain : IsCount (input - min cached input) := by
      unfold IsCount
      omega
    obtain ⟨hvalue, hcost⟩ := isCost_mul hmin (hprice.2.2 cachedRate hrate)
    refine ⟨hplain, ⟨hcost.nonneg, hcost.le.trans ?_, hcost.decimals⟩, ?_⟩
    · have hmax : (min cached input : ℤ) ≤ (2147483647 : ℚ) := by exact_mod_cast hmin.2
      gcongr
    · dsimp only
      rw [hvalue, Int.cast_zero, zero_mul, add_zero]

lemma costSum_spec (houtput : IsCount output) (hcached : IsCount cached) :
    (costSum price input output cached).value / 10 ^ 6 = exactCost price input output cached ∧
      IsCost (costSum price input output cached) (3 * (2147483647 * 1000000)) := by
  have hmax : ∀ {n : ℤ}, IsCount n → (n : ℚ) * 1000000 ≤ 2147483647 * 1000000 := by
    intro n hn
    have hle : (n : ℚ) ≤ 2147483647 := by exact_mod_cast hn.2
    gcongr
  obtain ⟨hplain, hcachedCost, hcachedValue⟩ := isCost_cachedCost hprice hinput hcached
  obtain ⟨hinputValue, hinputCost⟩ := isCost_mul hplain hprice.1
  obtain ⟨houtputValue, houtputCost⟩ := isCost_mul houtput hprice.2.1
  have hplainMax := hmax hplain
  have houtputMax := hmax houtput
  obtain ⟨hsumValue, hsumCost⟩ := isCost_add hinputCost houtputCost (by norm_num; linarith)
  obtain ⟨hvalue, hcost⟩ := isCost_add hsumCost hcachedCost (by norm_num; linarith)
  constructor
  · have hexact : exactCost price input output cached =
        exactCost price input 0 cached + output * price.outputPerMillion.value / 10 ^ 6 := by
      unfold exactCost
      cases price.cachedInputPerMillion <;> push_cast <;> ring
    rw [hexact, ← hcachedValue]
    unfold costSum
    rw [hvalue, hsumValue, hinputValue, houtputValue]
    ring
  · exact ⟨hcost.nonneg, hcost.le.trans (by linarith), hcost.decimals⟩

lemma exactCost_bounds (houtput : IsCount output) (hcached : IsCount cached) :
    0 ≤ exactCost price input output cached ∧
      exactCost price input output cached ≤ 3 * 2147483647 := by
  obtain ⟨hvalue, hcost⟩ := costSum_spec hprice hinput houtput hcached
  have hnonneg := hcost.nonneg
  have hle := hcost.le
  rw [← hvalue]
  constructor
  · positivity
  · rw [div_le_iff₀ (by positivity)]
    linarith

lemma estimateAmount_eq (houtput : IsCount output) (hcached : IsCount cached) :
    ∃ amount, estimateAmount price input output cached = some amount ∧
      amount.value = roundHalfUp 8 (exactCost price input output cached) := by
  obtain ⟨hvalue, hcost⟩ := costSum_spec hprice hinput houtput hcached
  obtain ⟨hnonneg, hle⟩ := exactCost_bounds hprice hinput houtput hcached
  obtain ⟨quotient, hquotient, hquotientValue⟩ :=
    value_div_ten_pow (hcost.digits_le (by norm_num)) 6
  rw [hvalue] at hquotientValue
  rw [← hquotientValue] at hnonneg hle
  have hlt : quotient.value * 10 ^ 8 + 1 / 2 < 10 ^ prec := by
    norm_num [prec]
    linarith
  obtain ⟨amount, hamount, hamountValue⟩ := quantizeHalfUp_eq hnonneg hlt
  refine ⟨amount, ?_, ?_⟩
  · unfold estimateAmount million
    rw [hquotient]
    exact hamount
  · rw [hamountValue, hquotientValue]

end

lemma abs_roundHalfUp_lt {x : ℚ} (hnonneg : 0 ≤ x) (hle : x ≤ 3 * 2147483647) :
    |roundHalfUp 8 x| < 10 ^ 10 := by
  have hlow : roundHalfUp 8 0 ≤ roundHalfUp 8 x := roundHalfUp_mono 8 hnonneg
  have hhigh : roundHalfUp 8 x ≤ roundHalfUp 8 (3 * 2147483647) := roundHalfUp_mono 8 hle
  have hzero : roundHalfUp 8 0 = 0 := by norm_num [roundHalfUp]
  have hmax : roundHalfUp 8 (3 * 2147483647) = 3 * 2147483647 := by norm_num [roundHalfUp]
  rw [hzero] at hlow
  rw [hmax] at hhigh
  rw [abs_of_nonneg hlow]
  linarith

lemma exactCost_mono_input (hprice : IsAcceptedPrice price) {input' : ℤ} (hle : input ≤ input') :
    exactCost price input output cached ≤ exactCost price input' output cached := by
  have hinputRate := (isAcceptedRate_iff.mp hprice.1).1
  have hcast : (input : ℚ) ≤ input' := by exact_mod_cast hle
  unfold exactCost
  cases hrate : price.cachedInputPerMillion with
  | none =>
    dsimp only
    gcongr
  | some cachedRate =>
    have hcachedRate := (isAcceptedRate_iff.mp (hprice.2.2 cachedRate hrate)).1
    have hcachedLe : ((min cached input : ℤ) : ℚ) ≤ (min cached input' : ℤ) := by
      exact_mod_cast min_le_min_left cached hle
    have hplainLe : ((input - min cached input : ℤ) : ℚ) ≤ (input' - min cached input' : ℤ) := by
      have hint : input - min cached input ≤ input' - min cached input' := by omega
      exact_mod_cast hint
    dsimp only
    gcongr

lemma exactCost_mono_output (hprice : IsAcceptedPrice price) {output' : ℤ}
    (hle : output ≤ output') :
    exactCost price input output cached ≤ exactCost price input output' cached := by
  have houtputRate := (isAcceptedRate_iff.mp hprice.2.1).1
  have hcast : (output : ℚ) ≤ output' := by exact_mod_cast hle
  unfold exactCost
  cases price.cachedInputPerMillion with
  | none =>
    dsimp only
    gcongr
  | some cachedRate =>
    dsimp only
    gcongr

variable {cachedRate : PyDecimal}

lemma exactCost_sub_exactCost (hrate : price.cachedInputPerMillion = some cachedRate)
    (cached' : ℤ) :
    exactCost price input output cached' - exactCost price input output cached =
      ((min cached' input : ℤ) - (min cached input : ℤ)) *
        (cachedRate.value - price.inputPerMillion.value) / 10 ^ 6 := by
  unfold exactCost
  rw [hrate]
  push_cast
  ring

variable {cached' : ℤ}

lemma exactCost_mono_cached (hcheaper : ∀ cachedRate ∈ price.cachedInputPerMillion,
      price.inputPerMillion.value ≤ cachedRate.value) (hle : cached ≤ cached') :
    exactCost price input output cached ≤ exactCost price input output cached' := by
  cases hrate : price.cachedInputPerMillion with
  | none =>
    unfold exactCost
    rw [hrate]
  | some cachedRate =>
    have hmin : ((min cached input : ℤ) : ℚ) ≤ (min cached' input : ℤ) := by
      exact_mod_cast min_le_min_right input hle
    have hdifference := hcheaper cachedRate hrate
    rw [← sub_nonneg, exactCost_sub_exactCost hrate]
    have hfirst := sub_nonneg.mpr hmin
    have hsecond := sub_nonneg.mpr hdifference
    positivity

lemma exactCost_anti_cached (hrate : price.cachedInputPerMillion = some cachedRate)
    (hcheaper : cachedRate.value < price.inputPerMillion.value) (hle : cached ≤ cached') :
    exactCost price input output cached' ≤ exactCost price input output cached := by
  have hmin : ((min cached input : ℤ) : ℚ) ≤ (min cached' input : ℤ) := by
    exact_mod_cast min_le_min_right input hle
  have hproduct := mul_nonpos_of_nonneg_of_nonpos (sub_nonneg.mpr hmin) (sub_neg.mpr hcheaper).le
  rw [← sub_nonpos, exactCost_sub_exactCost hrate]
  exact div_nonpos_of_nonpos_of_nonneg hproduct (by positivity)

lemma exactCost_readBack (hprice : IsAcceptedPrice price) :
    exactCost (readBack price) input output cached = exactCost price input output cached := by
  have hinput := value_rateColumn hprice.1
  have houtput := value_rateColumn hprice.2.1
  unfold exactCost readBack
  cases hrate : price.cachedInputPerMillion with
  | none =>
    dsimp only [Option.map_none]
    rw [hinput, houtput]
  | some cachedRate =>
    dsimp only [Option.map_some]
    rw [hinput, houtput, value_rateColumn (hprice.2.2 cachedRate hrate)]

/-- On accepted prices and valid counts nothing raises: the estimate is the one of the settlement, for
the amount that is computed here. -/
theorem estimateCost_eq_settlement {price : Option AIModelPrice} {tokens : TokenCounts}
    (hprice : ∀ p ∈ price, IsAcceptedPrice p) (hinput : ∀ n ∈ tokens.inputTokens, IsCount n)
    (houtput : ∀ n ∈ tokens.outputTokens, IsCount n)
    (hcached : IsCount (tokens.cachedInputTokens.getD 0)) :
    estimateCost price tokens.inputTokens tokens.outputTokens tokens.cachedInputTokens =
      some (Inference.estimateCost
        (fun price input output cached => (estimateAmount price input output cached).getD ⟨0, 0⟩)
        price tokens) := by
  obtain ⟨input, output, cached, cacheWrite⟩ := tokens
  unfold estimateCost Inference.estimateCost
  cases price with
  | none => rfl
  | some price =>
    cases input with
    | none => rfl
    | some input =>
      cases output with
      | none => rfl
      | some output =>
        obtain ⟨amount, hamount, -⟩ :=
          estimateAmount_eq (hprice price rfl) (hinput input rfl) (houtput output rfl) hcached
        dsimp only
        rw [hamount, Option.map_some, Option.getD_some]

/-! ## All counts -/

/-- The token counts of an estimate; the cached count may be missing. -/
structure Counts where
  input : ℤ
  output : ℤ
  cached : Option ℤ

def Counts.Valid (counts : Counts) : Prop :=
  IsCount counts.input ∧ IsCount counts.output ∧ ∀ n ∈ counts.cached, IsCount n

def estimateOf (row : AIModelPrice) (counts : Counts) : Option (Option CostEstimate) :=
  estimateCost (some row) (some counts.input) (some counts.output) counts.cached

def Counts.exactCost (counts : Counts) (price : AIModelPrice) : ℚ :=
  Accounting.exactCost price counts.input counts.output (counts.cached.getD 0)

/-- The price as it was set, or as its columns give it back. -/
def IsRowOf (price row : AIModelPrice) : Prop :=
  row = price ∨ row = readBack price

variable {row : AIModelPrice} {counts : Counts}

lemma Counts.Valid.isCount_cached (h : counts.Valid) : IsCount (counts.cached.getD 0) := by
  cases hcached : counts.cached with
  | none =>
    show IsCount 0
    decide
  | some n => exact h.2.2 n hcached

section

variable (hrow : IsRowOf price row) (hprice : IsAcceptedPrice price)

include hrow hprice

lemma IsRowOf.spec (counts : Counts) :
    IsAcceptedPrice row ∧ counts.exactCost row = counts.exactCost price := by
  rcases hrow with rfl | rfl
  · exact ⟨hprice, rfl⟩
  · exact ⟨hprice.readBack, exactCost_readBack hprice⟩

lemma estimateOf_spec (hcounts : counts.Valid) :
    ∃ estimate, estimateOf row counts = some (some estimate) ∧
      estimate.amount.value = roundHalfUp 8 (counts.exactCost price) ∧ estimate.fits = true := by
  obtain ⟨hrowPrice, hcost⟩ := hrow.spec hprice counts
  obtain ⟨amount, hamount, hvalue⟩ :=
    estimateAmount_eq hrowPrice hcounts.1 hcounts.2.1 hcounts.isCount_cached
  have hbounds := exactCost_bounds hrowPrice hcounts.1 hcounts.2.1 hcounts.isCount_cached
  refine ⟨⟨amount, row.currency, row.pricingVersion⟩, ?_, ?_, ?_⟩
  · unfold estimateOf estimateCost
    dsimp only
    rw [hamount]
    rfl
  · rw [← hcost]
    exact hvalue
  · have habs := abs_roundHalfUp_lt hbounds.1 hbounds.2
    rw [← hvalue] at habs
    exact decide_eq_true habs

lemma amount_le_amount {a b : Counts} (ha : a.Valid) (hb : b.Valid) {costA costB : CostEstimate}
    (hcostA : estimateOf row a = some (some costA)) (hcostB : estimateOf row b = some (some costB))
    (hle : a.exactCost price ≤ b.exactCost price) : costA.amount.value ≤ costB.amount.value := by
  obtain ⟨estimateA, hestimateA, hvalueA, -⟩ := estimateOf_spec hrow hprice ha
  obtain ⟨estimateB, hestimateB, hvalueB, -⟩ := estimateOf_spec hrow hprice hb
  cases hcostA.symm.trans hestimateA
  cases hcostB.symm.trans hestimateB
  rw [hvalueA, hvalueB]
  exact roundHalfUp_mono 8 hle

end

/-- Every estimate of a price that was set is the exact cost rounded half up to eight decimals, which
its column holds; it grows with the input and with the output, and with the cached count unless
cached input is cheaper, where it falls. -/
theorem estimateCost_eq_roundHalfUp {pricingVersion currency : String}
    {inputRate outputRate cachedRate : RateArgument} {price row : AIModelPrice}
    (hset : setModelPrice pricingVersion currency inputRate outputRate cachedRate = .ok price)
    (hrow : IsRowOf price row) :
    (∀ counts : Counts, counts.Valid → ∃ estimate, estimateOf row counts = some (some estimate) ∧
      estimate.amount.value = roundHalfUp 8 (counts.exactCost price) ∧ estimate.fits = true) ∧
    ∀ a b : Counts, a.Valid → b.Valid → ∀ costA costB : CostEstimate,
      estimateOf row a = some (some costA) → estimateOf row b = some (some costB) →
      (a.input ≤ b.input → a.output = b.output → a.cached = b.cached →
        costA.amount.value ≤ costB.amount.value) ∧
      (a.input = b.input → a.output ≤ b.output → a.cached = b.cached →
        costA.amount.value ≤ costB.amount.value) ∧
      (a.input = b.input → a.output = b.output → a.cached.getD 0 ≤ b.cached.getD 0 →
        ((∀ d ∈ price.cachedInputPerMillion, price.inputPerMillion.value ≤ d.value) →
          costA.amount.value ≤ costB.amount.value) ∧
        ((∃ d ∈ price.cachedInputPerMillion, d.value < price.inputPerMillion.value) →
          costB.amount.value ≤ costA.amount.value)) := by
  have hprice := isAcceptedPrice_of_setModelPrice hset
  refine ⟨fun counts hcounts => estimateOf_spec hrow hprice hcounts, ?_⟩
  intro a b ha hb costA costB hcostA hcostB
  have hAB := amount_le_amount hrow hprice ha hb hcostA hcostB
  have hBA := amount_le_amount hrow hprice hb ha hcostB hcostA
  unfold Counts.exactCost at hAB hBA
  refine ⟨fun hinput houtput hcached => hAB ?_, fun hinput houtput hcached => hAB ?_,
    fun hinput houtput hcached => ⟨fun hcheaper => hAB ?_, ?_⟩⟩
  · rw [houtput, hcached]
    exact exactCost_mono_input hprice hinput
  · rw [hinput, hcached]
    exact exactCost_mono_output hprice houtput
  · rw [hinput, houtput]
    exact exactCost_mono_cached hcheaper hcached
  · rintro ⟨d, hd, hcheaper⟩
    refine hBA ?_
    rw [hinput, houtput]
    exact exactCost_anti_cached hd hcheaper hcached

/-- The largest rates and counts. -/
theorem estimateCost_eq_roundHalfUp_largest :
    ∃ estimate, estimateOf ⟨maxRate, maxRate, some ⟨1, -8⟩, "EUR", "v1"⟩
        ⟨2 ^ 31 - 1, 2 ^ 31 - 1, some 1⟩ = some (some estimate) ∧
      estimate.amount.value = roundHalfUp 8 (Counts.exactCost ⟨2 ^ 31 - 1, 2 ^ 31 - 1, some 1⟩
        ⟨maxRate, maxRate, some ⟨1, -8⟩, "EUR", "v1"⟩) ∧ estimate.fits = true := by
  have hset : setModelPrice "v1" "EUR" (.finite maxRate) (.finite maxRate) (.finite ⟨1, -8⟩) =
      .ok ⟨maxRate, maxRate, some ⟨1, -8⟩, "EUR", "v1"⟩ := by
    decide +kernel
  refine (estimateCost_eq_roundHalfUp hset (.inl rfl)).1 _ ⟨by decide, by decide, ?_⟩
  rintro n ⟨⟩
  decide

end SaasOs.Inference.Accounting
