import SaasOs.Foundation.Exceptions
import SaasOs.Foundation.DecimalText
import SaasOs.Usage.Events

/-!
# Ingestion of usage events

A usage event is validated, written into the payload of an outbox event as three texts, and read
back and validated again when the event is delivered.  The text of a quantity and of an instant tell
them exactly, so the event that is recorded is the one that was accepted.
-/

namespace SaasOs

open PyDecimal

/-! ## The two ends -/

/-- A quantity, with the sign of a zero. -/
inductive SignedQuantity
  | int (n : ℤ)
  | decimal (d : SignedDecimal)

namespace SignedQuantity

/-- `Decimal(quantity)`. -/
def toDecimal : SignedQuantity → SignedDecimal
  | .int n => ⟨n < 0, n.natAbs, 0⟩
  | .decimal d => d

def value : SignedQuantity → ℚ
  | .int n => n
  | .decimal d => d.value

end SignedQuantity

/-- `_validate_quantity` on an int or a finite decimal, which is returned as it is. -/
def validateSigned (quantity : SignedQuantity) : Except String SignedDecimal :=
  (validateDecimal quantity.toDecimal.decimal).map fun _ => quantity.toDecimal

/-- An int or a decimal: a number, or an infinity or a NaN. -/
inductive DecimalArgument
  | finite (quantity : SignedQuantity)
  | notFinite

/-- `_validate_quantity` on an int or a decimal. -/
def validateArgument : DecimalArgument → Except String SignedDecimal
  | .finite quantity => validateSigned quantity
  | .notFinite => .error "quantity must be a finite number."

/-- The time of an event: an aware datetime, by its instant, or a naive one. -/
inductive OccurredAt
  | aware (instant : Instant)
  | naive

/-- `_utc`; the calendar of `datetime` is bounded. -/
def utc : OccurredAt → Except String Instant
  | .naive => .error "occurred_at must be a timezone-aware datetime."
  | .aware instant =>
    if PyDatetime.min ≤ instant ∧ instant ≤ PyDatetime.max then .ok instant
    else .error "OverflowError"

structure IngestionPayload where
  metric : String
  quantity : String
  occurredAt : String

/-- `ingest_event`: the payload of the event that is appended. -/
def ingestEvent (metric : String) (quantity : DecimalArgument) (occurredAt : OccurredAt) :
    Except String IngestionPayload := do
  validateMetric metric
  let quantity ← validateArgument quantity
  let eventOccurredAt ← utc occurredAt
  return ⟨metric, String.ofList quantity.str, PyDatetime.isoformat eventOccurredAt⟩

def parseIngestion (data : IngestionPayload) : Except String (String × SignedDecimal × Instant) := do
  validateMetric data.metric
  let quantity ←
    match SignedDecimal.parse data.quantity.toList with
    | some d => validateSigned (.decimal d)
    | none => .error "InvalidOperation"
  match PyDatetime.parseIsoformat data.occurredAt.toList with
  | some occurredAt => return (data.metric, quantity, occurredAt)
  | none => .error "ValueError"

/-! ## What is promised -/

/-- A quantity as it is allowed: non-negative, below `10 ** 18`, with at most 18 decimal places. -/
def IsAllowed (q : ℚ) : Prop :=
  0 ≤ q ∧ q < 10 ^ 18 ∧ HasPlaces 18 q

instance (q : ℚ) : Decidable (IsAllowed q) :=
  inferInstanceAs (Decidable (_ ∧ _ ∧ _))

/-- A quantity that is allowed is returned with exactly its value, and any other one is refused. -/
def ValidatesExactly : DecimalArgument → Prop
  | .finite quantity =>
    match validateArgument (.finite quantity) with
    | .ok value => value.value = quantity.value ∧ IsAllowed quantity.value
    | .error _ => ¬ IsAllowed quantity.value
  | .notFinite => (validateArgument .notFinite).isOk = false

/-- An event that is accepted is read back with the same metric, an equal quantity and the same
instant. -/
def IngestsExactly (metric : String) (argument : DecimalArgument) (occurredAt : OccurredAt) : Prop :=
  ∀ payload, ingestEvent metric argument occurredAt = .ok payload →
    ∃ quantity value instant, argument = .finite quantity ∧
      parseIngestion payload = .ok (metric, value, instant) ∧
      value.value = quantity.value ∧ occurredAt = .aware instant

/-- The quantity is in range and has more than 18 decimal places, but not any more once it is
rounded to the context. -/
def LosesPlaces : DecimalArgument → Prop
  | .finite quantity => 0 ≤ quantity.value ∧ quantity.value < 10 ^ 18 ∧
      ¬ HasPlaces 18 quantity.value ∧ HasPlaces 18 quantity.toDecimal.decimal.fix.value
  | .notFinite => False

instance : ∀ argument, Decidable (LosesPlaces argument)
  | .finite quantity => inferInstanceAs (Decidable (0 ≤ quantity.value ∧ quantity.value < 10 ^ 18 ∧
      ¬ HasPlaces 18 quantity.value ∧ HasPlaces 18 quantity.toDecimal.decimal.fix.value))
  | .notFinite => inferInstanceAs (Decidable False)

/-! ## Validation -/

lemma value_toDecimal (quantity : SignedQuantity) :
    quantity.toDecimal.decimal.value = quantity.value := by
  cases quantity with
  | int n =>
    simp only [SignedQuantity.toDecimal, SignedDecimal.decimal, SignedQuantity.value]
    by_cases hn : n < 0
    · simp [hn, PyDecimal.value, abs_of_neg]
    · simp [hn, PyDecimal.value, abs_of_nonneg (not_lt.mp hn)]
  | decimal d => rfl

lemma isOk_validateDecimal_iff (d : PyDecimal) :
    (∃ value, validateDecimal d = .ok value) ↔
      0 ≤ d.value ∧ d.value < 10 ^ 18 ∧ (d.value = 0 ∨ HasPlaces 18 d.fix.value) := by
  have hmax : maxQuantity.value = 10 ^ 18 := by
    norm_num [maxQuantity, PyDecimal.value]
  unfold validateDecimal
  rw [hmax]
  split
  · next hneg =>
    simp only [reduceCtorEq, exists_false, false_iff, not_and]
    exact fun hnonneg => absurd hneg (not_lt.mpr hnonneg)
  next hnonneg =>
  rw [not_lt] at hnonneg
  split
  · next hlarge =>
    simp only [reduceCtorEq, exists_false, false_iff, not_and]
    exact fun _ hlt => absurd hlarge (not_le.mpr hlt)
  next hlt =>
  rw [not_le] at hlt
  by_cases hzero : d.value = 0
  · simp [hzero]
  · have hpos : 0 < d.coefficient := by
      rcases (value_nonneg_iff.mp hnonneg).eq_or_lt with hcoefficient | hpos
      · refine absurd ?_ hzero
        rw [PyDecimal.value, ← hcoefficient, Int.cast_zero, zero_mul]
      · exact hpos
    have hplaces : maxQuantityDecimalPlaces < -d.normalize.exponent ↔ ¬ HasPlaces 18 d.fix.value := by
      rw [← le_exponent_normalize_iff (fix_coefficient_ne_zero hpos), not_le]
      unfold maxQuantityDecimalPlaces
      push_cast
      omega
    by_cases hfix : HasPlaces 18 d.fix.value
    · rw [if_neg fun hlost => hplaces.mp hlost.2 hfix]
      simp [hfix, hnonneg, hlt]
    · rw [if_pos ⟨hzero, hplaces.mpr hfix⟩]
      simp [hzero, hfix]

lemma validateSigned_cases (quantity : SignedQuantity) :
    (validateSigned quantity = .ok quantity.toDecimal ∧
        ∃ value, validateDecimal quantity.toDecimal.decimal = .ok value) ∨
      ((∃ message, validateSigned quantity = .error message) ∧
        ¬ ∃ value, validateDecimal quantity.toDecimal.decimal = .ok value) := by
  unfold validateSigned
  cases validateDecimal quantity.toDecimal.decimal with
  | ok value => exact .inl ⟨rfl, value, rfl⟩
  | error message => exact .inr ⟨⟨message, rfl⟩, by simp⟩

lemma hasPlaces_zero : HasPlaces 18 0 :=
  hasPlaces_iff.mpr ⟨0, by simp⟩

lemma validatesExactly_iff (argument : DecimalArgument) :
    ValidatesExactly argument ↔ ¬ LosesPlaces argument := by
  cases argument with
  | notFinite => exact iff_of_true rfl id
  | finite quantity =>
  have hvalue := value_toDecimal quantity
  have hfix : HasPlaces 18 quantity.value → quantity.value ≠ 0 → 0 ≤ quantity.value →
      HasPlaces 18 quantity.toDecimal.decimal.fix.value := by
    intro hplaces hzero hnonneg
    rw [← hvalue] at hplaces hzero hnonneg
    refine hplaces.fix ?_
    rcases (value_nonneg_iff.mp hnonneg).eq_or_lt with hcoefficient | hpos
    · refine absurd ?_ hzero
      rw [PyDecimal.value, ← hcoefficient, Int.cast_zero, zero_mul]
    · exact hpos
  simp only [ValidatesExactly, LosesPlaces, IsAllowed, validateArgument]
  rcases validateSigned_cases quantity with ⟨hok, haccepts⟩ | ⟨⟨message, herror⟩, haccepts⟩
  · rw [hok]
    rw [isOk_validateDecimal_iff, hvalue] at haccepts
    obtain ⟨hnonneg, hlt, hplaces⟩ := haccepts
    dsimp only
    constructor
    · rintro ⟨-, -, -, hallowed⟩ ⟨-, -, hlost, -⟩
      exact hlost hallowed
    · intro hkeeps
      refine ⟨hvalue, hnonneg, hlt, ?_⟩
      by_contra hlost
      rcases hplaces with hzero | hplaces
      · rw [hzero] at hlost
        exact hlost hasPlaces_zero
      · exact hkeeps ⟨hnonneg, hlt, hlost, hplaces⟩
  · rw [herror]
    rw [isOk_validateDecimal_iff, hvalue] at haccepts
    dsimp only
    constructor
    · rintro - ⟨hnonneg, hlt, -, hplaces⟩
      exact haccepts ⟨hnonneg, hlt, .inr hplaces⟩
    · rintro - ⟨hnonneg, hlt, hplaces⟩
      by_cases hzero : quantity.value = 0
      · exact haccepts ⟨hnonneg, hlt, .inl hzero⟩
      · exact haccepts ⟨hnonneg, hlt, .inr (hfix hplaces hzero hnonneg)⟩

/-! ## The round trip -/

lemma parseIngestion_ingestEvent (metric : String) (argument : DecimalArgument)
    (occurredAt : OccurredAt) : IngestsExactly metric argument occurredAt := by
  intro payload h
  unfold ingestEvent at h
  obtain ⟨_, hmetric, h⟩ := bind_eq_ok.mp h
  obtain ⟨value, hquantity, h⟩ := bind_eq_ok.mp h
  obtain ⟨instant, hinstant, h⟩ := bind_eq_ok.mp h
  obtain ⟨quantity, rfl⟩ : ∃ quantity, argument = .finite quantity := by
    cases argument with
    | finite quantity => exact ⟨quantity, rfl⟩
    | notFinite => cases hquantity
  have hquantity : validateSigned quantity = .ok value := hquantity
  have hvalue : value = quantity.toDecimal := by
    rcases validateSigned_cases quantity with ⟨hok, -⟩ | ⟨⟨message, herror⟩, -⟩
    · rw [hok] at hquantity
      exact (Except.ok.inj hquantity).symm
    · rw [herror] at hquantity
      cases hquantity
  subst hvalue
  obtain ⟨hoccurredAt, hmin, hmax⟩ : occurredAt = .aware instant ∧ PyDatetime.min ≤ instant ∧
      instant ≤ PyDatetime.max := by
    cases occurredAt with
    | naive => cases hinstant
    | aware other =>
      simp only [utc] at hinstant
      by_cases hrange : PyDatetime.min ≤ other ∧ other ≤ PyDatetime.max
      · rw [if_pos hrange, Except.ok.injEq] at hinstant
        subst hinstant
        exact ⟨rfl, hrange⟩
      · rw [if_neg hrange] at hinstant
        cases hinstant
  have hpayload := Except.ok.inj h
  subst hpayload
  refine ⟨quantity, quantity.toDecimal, instant, rfl, ?_, value_toDecimal quantity, hoccurredAt⟩
  have hagain : validateSigned (.decimal quantity.toDecimal) = .ok quantity.toDecimal := hquantity
  unfold parseIngestion
  simp only [String.toList_ofList, SignedDecimal.parse_str, hmetric, hagain,
    PyDatetime.parseIsoformat_isoformat hmin hmax]
  rfl

/-- **Exact quantities.**  A quantity is validated exactly, and an event with it read back exactly, if
and only if rounding to the context does not take its decimal places away. -/
theorem quantity_exact_iff (metric : String) (argument : DecimalArgument) (occurredAt : OccurredAt) :
    ValidatesExactly argument ∧ IngestsExactly metric argument occurredAt ↔
      ¬ LosesPlaces argument := by
  rw [validatesExactly_iff]
  exact and_iff_left (parseIngestion_ingestEvent metric argument occurredAt)

/-- A quantity with a 30th decimal place, in its 48th digit. -/
theorem quantity_not_exact_thirty_places :
    ¬ ValidatesExactly (.finite (.decimal ⟨false, 10 ^ 47 + 1, -30⟩)) := by
  rw [validatesExactly_iff, not_not]
  decide +kernel

end SaasOs
