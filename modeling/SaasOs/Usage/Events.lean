import SaasOs.Schema.Tables
import SaasOs.Foundation.PyDecimal
import SaasOs.Foundation.PyDatetime
import SaasOs.Foundation.PyString

/-!
# Usage events

A usage event says that a tenant has used a quantity of a metric at some instant.  Quantities are
exact decimals, and so are their sums in the database.  Usage is measured over a window of instants,
by default the current calendar month in UTC, which is all instants of that month and no others.
-/

namespace SaasOs

/-! ## Validation -/

def maxMetricLength : ℕ := 100

/-- The checks of a metric, with the message of the `InvalidUsageEventError`. -/
def validateMetric (metric : String) : Except String Unit :=
  if metric == "" || PyString.strip metric == "" then .error "metric must be a non-empty string."
  else if metric.length > maxMetricLength then .error "metric exceeds 100 characters."
  else if PyString.hasControlCharacter metric then
    .error "metric must not contain control characters."
  else .ok ()

/-- What a caller may pass for a quantity. -/
inductive QuantityArgument
  | int (n : ℤ)
  | decimal (d : PyDecimal)
  /-- A decimal that is not a number, or infinite. -/
  | notFinite
  /-- A boolean, a float, or no number at all. -/
  | other

def maxQuantity : PyDecimal := ⟨10 ^ 18, 0⟩

def maxQuantityDecimalPlaces : ℤ := 18

def validateDecimal (value : PyDecimal) : Except String PyDecimal :=
  if value.value < 0 then .error "quantity must not be negative."
  else if maxQuantity.value ≤ value.value then .error "quantity must be less than 10**18."
  else if value.value ≠ 0 ∧ maxQuantityDecimalPlaces < -value.normalize.exponent then
    .error "quantity must have at most 18 decimal places."
  else .ok value

/-- The quantity as an exact decimal, or the message of the `InvalidUsageEventError`. -/
def validateQuantity : QuantityArgument → Except String PyDecimal
  | .other => .error "quantity must be a Decimal or an int, never a float."
  | .notFinite => .error "quantity must be a finite number."
  | .int n => validateDecimal (.ofInt n)
  | .decimal d => validateDecimal d

/-- The value of an entitlement: a capability, a number as the decimal its text denotes, or
something else. -/
inductive Entitlement
  | bool (granted : Bool)
  | number (d : PyDecimal)
  | other

def numericLimit : Option Entitlement → Option PyDecimal
  | some (.number d) => some d
  | _ => none

/-! ## Windows -/

/-- The current calendar month in UTC, as its first instant and that of the next month; `none` where
`datetime.replace` raises because the next month is in the year 10000. -/
def currentUtcMonthWindow (now : Instant) : Option (Instant × Instant) :=
  let month := PyDatetime.utcMonth now
  if 9999 < (PyDatetime.nextMonth month).1 then none
  else some (PyDatetime.monthStart month, PyDatetime.monthStart (PyDatetime.nextMonth month))

def inWindow (window : Instant × Instant) (instant : Instant) : Prop :=
  window.1 ≤ instant ∧ instant < window.2

instance (window : Instant × Instant) (instant : Instant) : Decidable (inWindow window instant) :=
  inferInstanceAs (Decidable (_ ∧ _))

lemma inWindow_currentUtcMonthWindow {now instant : Instant} {window : Instant × Instant}
    (hwindow : currentUtcMonthWindow now = some window) (hinstant : 0 ≤ instant) :
    inWindow window instant ↔ PyDatetime.utcMonth instant = PyDatetime.utcMonth now := by
  unfold currentUtcMonthWindow at hwindow
  dsimp only at hwindow
  split at hwindow
  · cases hwindow
  · cases hwindow
    obtain ⟨hyear, hmonth, hmonth'⟩ := PyDatetime.utcMonth_spec now
    exact PyDatetime.monthStart_le_and_lt_iff hyear hmonth hmonth' hinstant

/-! ## Events -/

/-- A row of `core.usage_events`. -/
structure UsageEvent where
  tenantId : Uuid
  metric : String
  quantity : PyDecimal
  occurredAt : Instant
  deriving DecidableEq

namespace UsageEvent

def counts (event : UsageEvent) (tenantId : Uuid) (metric : String) : Bool :=
  decide (event.tenantId = tenantId ∧ event.metric = metric)

end UsageEvent

def usedIn (events : List UsageEvent) (tenantId : Uuid) (metric : String)
    (window : Instant × Instant) : PyDecimal :=
  PyDecimal.sumExact ((events.filter fun event =>
    event.counts tenantId metric && decide (inWindow window event.occurredAt)).map
      UsageEvent.quantity)

def monthTotal (events : List UsageEvent) (tenantId : Uuid) (metric : String) (month : ℕ × ℕ) : ℚ :=
  ((events.filter fun event =>
    event.counts tenantId metric && decide (PyDatetime.utcMonth event.occurredAt = month)).map
      fun event => event.quantity.value).sum

variable {events : List UsageEvent} {tenantId : Uuid} {metric : String}

lemma value_usedIn (hevents : ∀ event ∈ events, 0 ≤ event.occurredAt) {now : Instant}
    {window : Instant × Instant} (hwindow : currentUtcMonthWindow now = some window) :
    (usedIn events tenantId metric window).value =
      monthTotal events tenantId metric (PyDatetime.utcMonth now) := by
  unfold usedIn monthTotal
  rw [PyDecimal.value_sumExact, List.map_map]
  have hfilter : (events.filter fun event =>
      event.counts tenantId metric && decide (inWindow window event.occurredAt)) =
      events.filter fun event => event.counts tenantId metric &&
        decide (PyDatetime.utcMonth event.occurredAt = PyDatetime.utcMonth now) := by
    refine List.filter_congr fun event hevent => ?_
    simp only [inWindow_currentUtcMonthWindow hwindow (hevents event hevent)]
  rw [hfilter]
  rfl

lemma monthTotal_concat (events : List UsageEvent) (event : UsageEvent) (tenantId : Uuid)
    (metric : String) (month : ℕ × ℕ) :
    monthTotal (events ++ [event]) tenantId metric month =
      monthTotal events tenantId metric month +
        if event.counts tenantId metric = true ∧ PyDatetime.utcMonth event.occurredAt = month then
          event.quantity.value else 0 := by
  unfold monthTotal
  rw [List.filter_append, List.map_append, List.sum_append]
  congr 1
  by_cases hcounts : event.counts tenantId metric = true
  · by_cases hmonth : PyDatetime.utcMonth event.occurredAt = month
    · simp [hcounts, hmonth]
    · simp [hmonth]
  · simp [hcounts]

lemma usedIn_concat_of_not_counts {event : UsageEvent} (h : event.counts tenantId metric = false)
    (window : Instant × Instant) :
    usedIn (events ++ [event]) tenantId metric window = usedIn events tenantId metric window := by
  unfold usedIn
  rw [List.filter_append, List.filter_singleton]
  simp [h]

end SaasOs
