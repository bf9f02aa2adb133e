import SaasOs.Foundation.DecimalRounding
import SaasOs.Usage.Quota

/-!
# The quota decision

Once the lock is held, a consumption is decided in one transaction: the usage of the window is
summed up exactly by the database, the quantity is added to it in the context of 28 digits, and the
rounded sum is both compared with the limit and returned.  So the decision is exact where the digits
beyond the 28th are zeros, or where the limit is exceeded both before and after the rounding.
-/

namespace SaasOs

/-- What is raised where the quantity does not fit. -/
structure QuotaExceededError where
  tenantId : Uuid
  metric : String
  used : PyDecimal
  limit : PyDecimal

def isAboveLimit (limit : Option PyDecimal) (total : ℚ) : Prop :=
  ∃ bound, limit = some bound ∧ bound.value < total

instance (limit : Option PyDecimal) (total : ℚ) : Decidable (isAboveLimit limit total) :=
  match limit with
  | none => isFalse fun ⟨_, h, _⟩ => by cases h
  | some bound => decidable_of_iff (bound.value < total)
    ⟨fun h => ⟨bound, rfl, h⟩, fun ⟨_, h, hlt⟩ => by cases h; exact hlt⟩

/-- The check and the record of a consumption, under the lock: what is returned, and the events with
the new one. -/
def consumeQuotaInSession (events : List UsageEvent) (tenantId : Uuid) (metric : String)
    (quantity : PyDecimal) (limit : Option PyDecimal) (window : Instant × Instant) (now : Instant) :
    Except QuotaExceededError (QuotaCheckResult × List UsageEvent) :=
  let used := usedIn events tenantId metric window
  match limit.filter fun limit => decide (limit.value < (used.add quantity).value) with
  | some limit => .error ⟨tenantId, metric, used, limit⟩
  | none => .ok (⟨metric, used.add quantity, limit, false⟩,
      events ++ [⟨tenantId, metric, quantity, now⟩])

def exactTotal (events : List UsageEvent) (tenantId : Uuid) (metric : String) (quantity : PyDecimal)
    (window : Instant × Instant) : PyDecimal :=
  (usedIn events tenantId metric window).addExact quantity

variable {events : List UsageEvent} {tenantId : Uuid} {metric : String} {quantity : PyDecimal}
  {limit : Option PyDecimal} {window : Instant × Instant} {now : Instant}

lemma value_exactTotal :
    (exactTotal events tenantId metric quantity window).value =
      (usedIn events tenantId metric window).value + quantity.value :=
  PyDecimal.value_addExact _ _

lemma add_eq_fix_exactTotal :
    (usedIn events tenantId metric window).add quantity =
      (exactTotal events tenantId metric quantity window).fix :=
  rfl

lemma not_isAboveLimit {total : ℚ} :
    ¬ isAboveLimit limit total ↔ ∀ bound, limit = some bound → total ≤ bound.value := by
  simp only [isAboveLimit, not_exists, not_and, not_lt]

lemma isOk_consumeQuotaInSession (events : List UsageEvent) (tenantId : Uuid) (metric : String)
    (quantity : PyDecimal) (limit : Option PyDecimal) (window : Instant × Instant) (now : Instant) :
    (consumeQuotaInSession events tenantId metric quantity limit window now).isOk = true ↔
      ¬ isAboveLimit limit (exactTotal events tenantId metric quantity window).fix.value := by
  rw [not_isAboveLimit]
  unfold consumeQuotaInSession
  dsimp only
  rw [add_eq_fix_exactTotal]
  cases limit with
  | none => simp [Except.isOk, Except.toBool]
  | some bound =>
    by_cases h : bound.value < (exactTotal events tenantId metric quantity window).fix.value
    · simp [h, Option.filter, Except.isOk, Except.toBool]
    · simp [h, Option.filter, not_lt.mp h, Except.isOk, Except.toBool]

lemma used_consumeQuotaInSession {result : QuotaCheckResult × List UsageEvent}
    (h : consumeQuotaInSession events tenantId metric quantity limit window now = .ok result) :
    result.1.used = (exactTotal events tenantId metric quantity window).fix := by
  unfold consumeQuotaInSession at h
  dsimp only at h
  split at h
  · cases h
  · cases h
    rfl

/-! ## Accepted quantities -/

def IsAccepted (quantity : PyDecimal) : Prop :=
  ∃ argument, validateQuantity argument = .ok quantity

lemma validateDecimal_eq_ok {value quantity : PyDecimal} (h : validateDecimal value = .ok quantity) :
    quantity = value ∧ 0 ≤ value.value := by
  unfold validateDecimal at h
  split at h
  · cases h
  · split at h
    · cases h
    · split at h
      · cases h
      · cases h
        exact ⟨rfl, le_of_not_gt ‹_›⟩

lemma IsAccepted.nonneg (h : IsAccepted quantity) : 0 ≤ quantity.value := by
  obtain ⟨argument, hargument⟩ := h
  cases argument with
  | int n =>
    obtain ⟨rfl, hnonneg⟩ := validateDecimal_eq_ok hargument
    exact hnonneg
  | decimal d =>
    obtain ⟨rfl, hnonneg⟩ := validateDecimal_eq_ok hargument
    exact hnonneg
  | notFinite => cases hargument
  | other => cases hargument

lemma exactTotal_nonneg (hevents : ∀ event ∈ events, IsAccepted event.quantity)
    (hquantity : IsAccepted quantity) :
    0 ≤ (exactTotal events tenantId metric quantity window).coefficient := by
  have hused : 0 ≤ (usedIn events tenantId metric window).value := by
    unfold usedIn
    rw [PyDecimal.value_sumExact]
    refine List.sum_nonneg fun x hx => ?_
    obtain ⟨d, hd, rfl⟩ := List.mem_map.mp hx
    obtain ⟨event, hevent, rfl⟩ := List.mem_map.mp hd
    exact (hevents event (List.mem_of_mem_filter hevent)).nonneg
  have htotal : 0 ≤ (exactTotal events tenantId metric quantity window).value := by
    rw [value_exactTotal]
    exact add_nonneg hused hquantity.nonneg
  exact PyDecimal.value_nonneg_iff.mp htotal

/-! ## Exactness -/

/-- The answer is that of the exact sum, and reports it. -/
def DecidesExactly (events : List UsageEvent) (tenantId : Uuid) (metric : String)
    (quantity : PyDecimal) (limit : Option PyDecimal) (window : Instant × Instant) (now : Instant) :
    Prop :=
  let answer := consumeQuotaInSession events tenantId metric quantity limit window now
  let total := (usedIn events tenantId metric window).value + quantity.value
  (answer.isOk = true ↔ ∀ bound, limit = some bound → total ≤ bound.value) ∧
    ∀ result, answer = .ok result → result.1.used.value = total

lemma returnsExactly_iff (events : List UsageEvent) (tenantId : Uuid) (metric : String)
    (quantity : PyDecimal) (limit : Option PyDecimal) (window : Instant × Instant) (now : Instant) :
    (∀ result, consumeQuotaInSession events tenantId metric quantity limit window now = .ok result →
      result.1.used.value = (exactTotal events tenantId metric quantity window).value) ↔
    isAboveLimit limit (exactTotal events tenantId metric quantity window).fix.value ∨
      (exactTotal events tenantId metric quantity window).fix.value =
        (exactTotal events tenantId metric quantity window).value := by
  have hok := isOk_consumeQuotaInSession events tenantId metric quantity limit window now
  cases hanswer : consumeQuotaInSession events tenantId metric quantity limit window now with
  | error error =>
    rw [hanswer] at hok
    have habove : isAboveLimit limit
        (exactTotal events tenantId metric quantity window).fix.value := by
      by_contra h
      cases hok.mpr h
    exact iff_of_true (fun result h => by cases h) (.inl habove)
  | ok result =>
    rw [hanswer] at hok
    rw [or_iff_right (hok.mp rfl), ← used_consumeQuotaInSession hanswer]
    constructor
    · intro h
      exact h result rfl
    · rintro h result' hresult'
      cases hresult'
      exact h

/-- The decision is exact exactly if the exact total has only zeros beyond its 28th digit, or the
limit is below the exact total and what is cut off either counts for a unit of the 28th digit or
leaves the total above the limit. -/
theorem decidesExactly_iff (hevents : ∀ event ∈ events, IsAccepted event.quantity)
    (hquantity : IsAccepted quantity) :
    DecidesExactly events tenantId metric quantity limit window now ↔
      let total := exactTotal events tenantId metric quantity window
      total.FitsContext ∨ ∃ bound, limit = some bound ∧ bound.value < total.value ∧
        (total.RoundsUp ∨ bound.value < total.cut.value) := by
  dsimp only
  have hnonneg : 0 ≤ (exactTotal events tenantId metric quantity window).coefficient :=
    exactTotal_nonneg hevents hquantity
  have hreturned := returnsExactly_iff events tenantId metric quantity limit window now
  unfold DecidesExactly
  dsimp only
  rw [isOk_consumeQuotaInSession, ← not_isAboveLimit, ← value_exactTotal, hreturned,
    PyDecimal.value_fix_eq_iff hnonneg]
  constructor
  · rintro ⟨hdecision, hrounded | hfits⟩
    · obtain ⟨bound, hlimit, hlt⟩ := not_not.mp (hdecision.not.mp (not_not.mpr hrounded))
      obtain ⟨bound', hlimit', hlt'⟩ := hrounded
      cases hlimit.symm.trans hlimit'
      rcases (PyDecimal.lt_value_fix_iff hnonneg hlt).mp hlt' with hfits | habove
      · exact .inl hfits
      · exact .inr ⟨bound, hlimit, hlt, habove⟩
    · exact .inl hfits
  · rintro (hfits | ⟨bound, hlimit, hlt, habove⟩)
    · rw [(PyDecimal.value_fix_eq_iff hnonneg).mpr hfits]
      exact ⟨Iff.rfl, .inr hfits⟩
    · have hexact : isAboveLimit limit (exactTotal events tenantId metric quantity window).value :=
        ⟨bound, hlimit, hlt⟩
      have hrounded : isAboveLimit limit
          (exactTotal events tenantId metric quantity window).fix.value :=
        ⟨bound, hlimit, (PyDecimal.lt_value_fix_iff hnonneg hlt).mpr (.inr habove)⟩
      exact ⟨iff_of_false (not_not.mpr hrounded) (not_not.mpr hexact), .inl hrounded⟩

def smallestEvent : UsageEvent :=
  ⟨1, "storage_bytes", ⟨1, -18⟩, PyDatetime.monthStart (2024, 2)⟩

def februaryWindow : Instant × Instant :=
  (PyDatetime.monthStart (2024, 2), PyDatetime.monthStart (2024, 3))

lemma smallestEvent_isAccepted : ∀ event ∈ [smallestEvent], IsAccepted event.quantity := by
  intro event hevent
  obtain rfl := List.mem_singleton.mp hevent
  exact ⟨.decimal ⟨1, -18⟩, by decide +kernel⟩

/-- A total of 28 digits is decided exactly. -/
theorem decidesExactly_28_digits :
    DecidesExactly [smallestEvent] 1 "storage_bytes" ⟨10 ^ 9, 0⟩ (some ⟨10 ^ 9, 0⟩) februaryWindow
      (PyDatetime.monthStart (2024, 2)) :=
  (decidesExactly_iff smallestEvent_isAccepted ⟨.int (10 ^ 9), by decide +kernel⟩).mpr
    (.inl (by decide +kernel))

/-- A quantity of the whole limit is admitted, although the month is not empty. -/
theorem not_decidesExactly_whole_limit :
    IsAccepted smallestEvent.quantity ∧ IsAccepted ⟨10 ^ 17, 0⟩ ∧
      ¬ DecidesExactly [smallestEvent] 1 "storage_bytes" ⟨10 ^ 17, 0⟩ (some ⟨10 ^ 17, 0⟩)
        februaryWindow (PyDatetime.monthStart (2024, 2)) := by
  refine ⟨⟨.decimal ⟨1, -18⟩, by decide +kernel⟩, ⟨.int (10 ^ 17), by decide +kernel⟩, ?_⟩
  rintro ⟨hdecision, -⟩
  have hadmitted := hdecision.mp (by decide +kernel) ⟨10 ^ 17, 0⟩ rfl
  revert hadmitted
  decide +kernel

end SaasOs
