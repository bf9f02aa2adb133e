import SaasOs.Foundation.DecimalArithmetic
import SaasOs.Tenancy.Registry
import SaasOs.Usage.QuotaDecision

/-!
# Usage reports

A report lists, for each metric, the usage of one tenant with the limit that applies to it, or the
usage of a tenant and all its descendants without a limit.  The database sums up the usage of each
tenant exactly, but what remains of a limit and the sum over the tenants are computed in the context
of 28 digits.  So a report of one tenant is exact exactly where no such difference has more digits,
and one with the descendants where no partial sum has.
-/

namespace SaasOs.Reporting

open PyDecimal

/-! ## The report -/

/-- `MetricUsage`. -/
structure MetricUsage where
  metric : String
  used : PyDecimal
  limit : Option PyDecimal
  remaining : Option PyDecimal
  overLimit : Bool

/-- The numbers of a `TenantUsageReport`. -/
structure TenantUsageReport where
  metrics : List MetricUsage
  perTenant : List (Uuid × List (String × PyDecimal))

def checkQuota (events : List UsageEvent) (entitlements : List (String × Entitlement))
    (tenantId : Uuid) (metric : String) (window : Instant × Instant) : QuotaCheckResult :=
  let used := usedIn events tenantId metric window
  let limit := numericLimit (entitlements.lookup metric)
  ⟨metric, used, limit, limit.any fun limit => limit.value < used.value⟩

def metricLine (entitlements : List (String × Entitlement)) (metric : String) (used : PyDecimal) :
    MetricUsage :=
  match numericLimit (entitlements.lookup metric) with
  | none => ⟨metric, used, none, none, false⟩
  | some limit => ⟨metric, used, some limit, some (limit.sub used), limit.value < used.value⟩

def isSelected (selected : Option (List String)) (metric : String) : Bool :=
  selected.all fun metrics => metrics.contains metric

def addUsage (totals : String → Option PyDecimal) (usage : String × PyDecimal) :
    String → Option PyDecimal :=
  Function.update totals usage.1 (some (((totals usage.1).getD (.ofInt 0)).add usage.2))

def descendantTotals (perTenant : List (Uuid × List (String × PyDecimal))) :
    String → Option PyDecimal :=
  perTenant.foldl (fun totals usage => usage.2.foldl addUsage totals) fun _ => none

def numericKeys (entitlements : List (String × Entitlement)) : List String :=
  (entitlements.map Prod.fst).filter fun key => (numericLimit (entitlements.lookup key)).isSome

def reportTenants (db : Tables) (tenantId : Uuid) (includeDescendants : Bool) : List Uuid :=
  if includeDescendants then
    tenantId :: (db.descendantIdsByDepth tenantId).dedup.mergeSort fun a b => a ≤ b
  else [tenantId]

section Report

variable (events : List UsageEvent) (entitlements : List (String × Entitlement)) (tenantId : Uuid)
  (tenants : List Uuid) (window : Instant × Instant) (selected : Option (List String))
  (includeDescendants : Bool)

def usedMetrics : List String :=
  ((events.filter fun event => decide (event.tenantId = tenantId) &&
    decide (inWindow window event.occurredAt) && isSelected selected event.metric).map
      UsageEvent.metric).dedup

def usageTotals : List (String × PyDecimal) :=
  (usedMetrics events tenantId window selected).map fun metric =>
    (metric, usedIn events tenantId metric window)

def perTenantTotals : List (Uuid × List (String × PyDecimal)) :=
  tenants.map fun tenant => (tenant, usageTotals events tenant window selected)

def reportedMetrics : List String :=
  ((usedMetrics events tenantId window selected ++
    (numericKeys entitlements).filter (isSelected selected) ++
    if includeDescendants then
      tenants.flatMap fun tenant => usedMetrics events tenant window selected
    else []).dedup).mergeSort fun a b => a ≤ b

def reportOver : TenantUsageReport :=
  let perTenant := perTenantTotals events tenants window selected
  let own := usageTotals events tenantId window selected
  let totals := descendantTotals perTenant
  let reported := reportedMetrics events entitlements tenantId tenants window selected
    includeDescendants
  ⟨if includeDescendants then
      reported.map fun metric => ⟨metric, (totals metric).getD (.ofInt 0), none, none, false⟩
    else reported.map fun metric =>
      metricLine entitlements metric ((own.lookup metric).getD (.ofInt 0)),
    perTenant⟩

def serviceTenantUsageReport (db : Tables) : TenantUsageReport :=
  reportOver events entitlements tenantId (reportTenants db tenantId includeDescendants) window
    selected includeDescendants

/-! ## Exactness -/

def tenantTotal (metric : String) : ℚ :=
  ((events.filter fun event =>
    event.counts tenantId metric && decide (inWindow window event.occurredAt)).map
      fun event => event.quantity.value).sum

/-- What the report says of the sums, the quotas and what remains. -/
structure ReportsExactly : Prop where
  /-- Each total of a tenant is the sum of its events. -/
  perTenant : ∀ entry ∈ (reportOver events entitlements tenantId tenants window selected
    includeDescendants).perTenant, ∀ total ∈ entry.2,
      total.2.value = tenantTotal events entry.1 window total.1
  /-- In whatever order the tenants come, each sum is exact. -/
  summed : includeDescendants = true → ∀ order : List Uuid, order.Perm tenants →
    ∀ line ∈ (reportOver events entitlements tenantId order window selected
      includeDescendants).metrics,
      line.used.value = (tenants.map fun tenant => tenantTotal events tenant window line.metric).sum
  /-- The line of a metric agrees with its quota, and what remains is the difference. -/
  direct : includeDescendants = false → ∀ line ∈ (reportOver events entitlements tenantId tenants
    window selected includeDescendants).metrics,
      let quota := checkQuota events entitlements tenantId line.metric window
      line.used.value = tenantTotal events tenantId window line.metric ∧
        line.limit = quota.limit ∧ line.used = quota.used ∧ line.overLimit = quota.exceeded ∧
        (line.overLimit = true ↔ ∃ limit ∈ line.limit, limit.value < line.used.value) ∧
        ∀ limit ∈ line.limit, ∃ remaining ∈ line.remaining,
          remaining.value = limit.value - line.used.value

/-- What remains of each quota needs no rounding. -/
def RemaindersFit : Prop :=
  ∀ metric, isSelected selected metric = true →
    ∀ limit ∈ numericLimit (entitlements.lookup metric),
      (limit.subExact (usedIn events tenantId metric window)).FitsContext

/-- The sums over some of the tenants need no rounding. -/
def SumsFit : Prop :=
  ∀ metric, isSelected selected metric = true → ∀ part : List Uuid, part.Subperm tenants →
    (sumExact (part.map fun tenant => usedIn events tenant metric window)).FitsContext

def TenantUsageReport.reportedUse (report : TenantUsageReport) (metric : String) : ℚ :=
  ((report.metrics.find? fun line => line.metric = metric).map fun line => line.used.value).getD 0

def TenantUsageReport.tenantUse (report : TenantUsageReport) (tenant : Uuid) (metric : String) :
    ℚ :=
  (((report.perTenant.lookup tenant).bind fun totals => totals.lookup metric).map
    PyDecimal.value).getD 0

end Report

variable {events : List UsageEvent} {entitlements : List (String × Entitlement)} {tenantId : Uuid}
  {tenants : List Uuid} {window : Instant × Instant} {selected : Option (List String)}
  {includeDescendants : Bool} {metric : String}

/-! ## One tenant -/

lemma value_usedIn_eq_tenantTotal (events : List UsageEvent) (tenantId : Uuid) (metric : String)
    (window : Instant × Instant) :
    (usedIn events tenantId metric window).value = tenantTotal events tenantId window metric := by
  unfold usedIn tenantTotal
  rw [value_sumExact, List.map_map]
  rfl

lemma mem_usedMetrics :
    metric ∈ usedMetrics events tenantId window selected ↔
      isSelected selected metric = true ∧
        ∃ event ∈ events, event.counts tenantId metric = true ∧ inWindow window event.occurredAt := by
  unfold usedMetrics UsageEvent.counts
  simp only [List.mem_dedup, List.mem_map, List.mem_filter, Bool.and_eq_true, decide_eq_true_eq]
  constructor
  · rintro ⟨event, ⟨hevent, ⟨htenant, hwindow⟩, hselected⟩, rfl⟩
    exact ⟨hselected, event, hevent, ⟨htenant, rfl⟩, hwindow⟩
  · rintro ⟨hselected, event, hevent, ⟨htenant, rfl⟩, hwindow⟩
    exact ⟨event, ⟨hevent, ⟨htenant, hwindow⟩, hselected⟩, rfl⟩

lemma usedIn_of_not_mem (hselected : isSelected selected metric = true)
    (h : metric ∉ usedMetrics events tenantId window selected) :
    usedIn events tenantId metric window = .ofInt 0 := by
  have hempty : (events.filter fun event =>
      event.counts tenantId metric && decide (inWindow window event.occurredAt)) = [] := by
    refine List.filter_eq_nil_iff.mpr fun event hevent hcounts => h ?_
    rw [Bool.and_eq_true, decide_eq_true_eq] at hcounts
    exact mem_usedMetrics.mpr ⟨hselected, event, hevent, hcounts⟩
  unfold usedIn
  rw [hempty]
  rfl

lemma lookup_map_self {α β : Type} [DecidableEq α] (keys : List α) (f : α → β) (key : α) :
    (keys.map fun k => (k, f k)).lookup key = if key ∈ keys then some (f key) else none := by
  induction keys with
  | nil => rfl
  | cons k keys ih =>
    rw [List.map_cons, List.lookup_cons]
    by_cases hk : key = k
    · subst hk
      simp
    · rw [beq_false_of_ne hk, ih]
      simp [hk]

lemma getD_lookup_usageTotals (hselected : isSelected selected metric = true) :
    ((usageTotals events tenantId window selected).lookup metric).getD (.ofInt 0) =
      usedIn events tenantId metric window := by
  unfold usageTotals
  rw [lookup_map_self]
  split
  case isTrue => rfl
  case isFalse h => exact (usedIn_of_not_mem hselected h).symm

/-! ## Sums over tenants -/

lemma getD_foldl_addUsage (totals : String → Option PyDecimal) (usages : List (String × PyDecimal))
    (metric : String) :
    ((usages.foldl addUsage totals) metric).getD (.ofInt 0) =
      ((usages.filter fun usage => usage.1 = metric).map Prod.snd).foldl add
        ((totals metric).getD (.ofInt 0)) := by
  induction usages generalizing totals with
  | nil => rfl
  | cons usage usages ih =>
    rw [List.foldl_cons, ih]
    unfold addUsage
    by_cases hmetric : usage.1 = metric
    · subst hmetric
      simp
    · rw [Function.update_of_ne (Ne.symm hmetric)]
      simp [hmetric]

lemma filter_usageTotals :
    (usageTotals events tenantId window selected).filter (fun usage => usage.1 = metric) =
      if metric ∈ usedMetrics events tenantId window selected then
        [(metric, usedIn events tenantId metric window)]
      else [] := by
  have hnodup : (usedMetrics events tenantId window selected).Nodup := List.nodup_dedup _
  unfold usageTotals
  rw [List.filter_map]
  have hfilter : (usedMetrics events tenantId window selected).filter
      ((fun usage : String × PyDecimal => decide (usage.1 = metric)) ∘
        fun metric => (metric, usedIn events tenantId metric window)) =
      List.replicate ((usedMetrics events tenantId window selected).count metric) metric :=
    List.filter_eq metric
  rw [hfilter, hnodup.count]
  split <;> rfl

def isUsed (events : List UsageEvent) (window : Instant × Instant) (selected : Option (List String))
    (metric : String) (tenant : Uuid) : Bool :=
  (usedMetrics events tenant window selected).contains metric

lemma getD_descendantTotals (order : List Uuid) :
    (descendantTotals (perTenantTotals events order window selected) metric).getD (.ofInt 0) =
      ((order.filter (isUsed events window selected metric)).map fun tenant =>
        usedIn events tenant metric window).foldl add (.ofInt 0) := by
  suffices hfold : ∀ totals : String → Option PyDecimal,
      ((perTenantTotals events order window selected).foldl
        (fun totals usage => usage.2.foldl addUsage totals) totals metric).getD (.ofInt 0) =
      ((order.filter (isUsed events window selected metric)).map fun tenant =>
        usedIn events tenant metric window).foldl add ((totals metric).getD (.ofInt 0)) by
    exact hfold fun _ => none
  induction order with
  | nil => exact fun _ => rfl
  | cons tenant order ih =>
    intro totals
    unfold perTenantTotals at ih ⊢
    rw [List.map_cons, List.foldl_cons, ih, getD_foldl_addUsage, filter_usageTotals,
      List.filter_cons]
    unfold isUsed
    by_cases hused : metric ∈ usedMetrics events tenant window selected
    · simp [hused]
    · simp [hused]

lemma sum_filter_isUsed (hselected : isSelected selected metric = true) (order : List Uuid) :
    (((order.filter (isUsed events window selected metric)).map fun tenant =>
      usedIn events tenant metric window).map value).sum =
      (order.map fun tenant => tenantTotal events tenant window metric).sum := by
  induction order with
  | nil => rfl
  | cons tenant order ih =>
    rw [List.map_cons, List.sum_cons, ← ih, List.filter_cons]
    split
    case isTrue =>
      rw [List.map_cons, List.map_cons, List.sum_cons, value_usedIn_eq_tenantTotal]
    case isFalse h =>
      have hnone := usedIn_of_not_mem hselected (by simpa [isUsed] using h)
      rw [← value_usedIn_eq_tenantTotal, hnone, value_ofInt, Int.cast_zero, zero_add]

lemma value_descendantTotals (hfits : SumsFit events tenants window selected)
    (hselected : isSelected selected metric = true) {order : List Uuid}
    (horder : order.Perm tenants) :
    ((descendantTotals (perTenantTotals events order window selected) metric).getD
      (.ofInt 0)).value =
      (tenants.map fun tenant => tenantTotal events tenant window metric).sum := by
  rw [getD_descendantTotals, value_foldl_add, sum_filter_isUsed hselected,
    (horder.map _).sum_eq]
  · simp
  · intro part hpart
    -- a partial sum is the sum over a part of the tenants
    have hpart := List.prefix_iff_eq_take.mp hpart
    rw [← List.map_take] at hpart
    have hsub : ((order.filter (isUsed events window selected metric)).take
        part.length).Subperm tenants :=
      ((List.take_sublist _ _).trans List.filter_sublist).subperm.trans horder.subperm
    refine (hfits metric hselected _ hsub).congr ?_
    rw [value_addExact, value_ofInt, Int.cast_zero, zero_add, ← hpart]

lemma fitsContext_of_exact {order : List Uuid} {d : PyDecimal}
    (h : ((descendantTotals (perTenantTotals events order window selected) metric).getD
      (.ofInt 0)).value = d.value) : d.FitsContext := by
  refine FitsContext.congr h ?_
  rw [getD_descendantTotals]
  exact fitsContext_foldl_add (by decide) _

/-! ## The lines of a report -/

lemma isSelected_of_mem_reportedMetrics
    (h : metric ∈ reportedMetrics events entitlements tenantId tenants window selected
      includeDescendants) : isSelected selected metric = true := by
  unfold reportedMetrics at h
  rw [List.mem_mergeSort, List.mem_dedup, List.mem_append, List.mem_append] at h
  rcases h with (hown | hnumeric) | htenants
  · exact (mem_usedMetrics.mp hown).1
  · exact (List.mem_filter.mp hnumeric).2
  · split at htenants
    case isTrue =>
      obtain ⟨tenant, -, hused⟩ := List.mem_flatMap.mp htenants
      exact (mem_usedMetrics.mp hused).1
    case isFalse => cases htenants

lemma mem_reportedMetrics_of_limit (hselected : isSelected selected metric = true)
    {limit : PyDecimal} (hlimit : numericLimit (entitlements.lookup metric) = some limit) :
    metric ∈ reportedMetrics events entitlements tenantId tenants window selected
      includeDescendants := by
  have hkey : metric ∈ entitlements.map Prod.fst := by
    by_contra hnot
    have hnone : entitlements.lookup metric = none := by
      rw [List.lookup_eq_none_iff]
      intro entry hentry
      have hne : metric ≠ entry.1 := fun heq => hnot (heq ▸ List.mem_map_of_mem hentry)
      simpa using hne
    rw [hnone] at hlimit
    cases hlimit
  have hnumeric : metric ∈ numericKeys entitlements :=
    List.mem_filter.mpr ⟨hkey, by rw [hlimit]; rfl⟩
  unfold reportedMetrics
  rw [List.mem_mergeSort, List.mem_dedup, List.mem_append, List.mem_append]
  exact .inl (.inr (List.mem_filter.mpr ⟨hnumeric, hselected⟩))

lemma metricLine_usedIn (events : List UsageEvent) (entitlements : List (String × Entitlement))
    (tenantId : Uuid) (metric : String) (window : Instant × Instant) :
    let line := metricLine entitlements metric (usedIn events tenantId metric window)
    let quota := checkQuota events entitlements tenantId metric window
    line.metric = metric ∧ line.used = quota.used ∧ line.limit = quota.limit ∧
      line.overLimit = quota.exceeded ∧
      (line.overLimit = true ↔ ∃ limit ∈ line.limit, limit.value < line.used.value) ∧
      line.remaining = line.limit.map fun limit => limit.sub line.used := by
  unfold metricLine checkQuota
  cases hlimit : numericLimit (entitlements.lookup metric) with
  | none => simp
  | some limit => simp

lemma metrics_reportOver_direct :
    (reportOver events entitlements tenantId tenants window selected false).metrics =
      (reportedMetrics events entitlements tenantId tenants window selected false).map fun metric =>
        metricLine entitlements metric (usedIn events tenantId metric window) := by
  unfold reportOver
  dsimp only
  rw [if_neg Bool.false_ne_true]
  refine List.map_congr_left fun metric hmetric => ?_
  rw [getD_lookup_usageTotals (isSelected_of_mem_reportedMetrics hmetric)]

lemma perTenant_reportOver :
    ∀ entry ∈ (reportOver events entitlements tenantId tenants window selected
      includeDescendants).perTenant, ∀ total ∈ entry.2,
        total.2.value = tenantTotal events entry.1 window total.1 := by
  intro entry hentry total htotal
  obtain ⟨tenant, -, rfl⟩ := List.mem_map.mp hentry
  obtain ⟨metric, -, rfl⟩ := List.mem_map.mp htotal
  exact value_usedIn_eq_tenantTotal events tenant metric window

lemma reportsExactly_direct_iff :
    ReportsExactly events entitlements tenantId tenants window selected false ↔
      RemaindersFit events entitlements tenantId window selected := by
  constructor
  · intro h metric hselected limit hlimit
    have hmem : metricLine entitlements metric (usedIn events tenantId metric window) ∈
        (reportOver events entitlements tenantId tenants window selected false).metrics := by
      rw [metrics_reportOver_direct]
      exact List.mem_map_of_mem (mem_reportedMetrics_of_limit hselected hlimit)
    obtain ⟨-, -, -, -, -, hremaining⟩ := h.direct rfl _ hmem
    have hline := metricLine_usedIn events entitlements tenantId metric window
    dsimp only at hline
    obtain ⟨-, hused, hlineLimit, -, -, hlineRemaining⟩ := hline
    obtain ⟨remaining, hmemRemaining, hvalue⟩ := hremaining limit (hlineLimit.trans hlimit)
    rw [hlineRemaining, hlineLimit] at hmemRemaining
    unfold checkQuota at hused hmemRemaining
    dsimp only at hused hmemRemaining
    rw [hlimit, Option.map_some, hused, Option.mem_some] at hmemRemaining
    rw [← value_fix_eq_value_iff, value_subExact, ← hused, ← hvalue, ← hmemRemaining, hused]
    rfl
  · intro h
    refine ⟨perTenant_reportOver, fun hinclude => (by cases hinclude), fun _ line hline => ?_⟩
    rw [metrics_reportOver_direct] at hline
    obtain ⟨metric, hmetric, rfl⟩ := List.mem_map.mp hline
    have hselected := isSelected_of_mem_reportedMetrics hmetric
    have hline := metricLine_usedIn events entitlements tenantId metric window
    dsimp only at hline ⊢
    obtain ⟨hname, hused, hlimit, hover, hiff, hremaining⟩ := hline
    rw [hname]
    refine ⟨?_, hlimit, hused, hover, hiff, fun limit hmem => ?_⟩
    · rw [hused]
      exact value_usedIn_eq_tenantTotal events tenantId metric window
    · have hmemLimit : numericLimit (entitlements.lookup metric) = some limit :=
        hlimit.symm.trans hmem
      rw [hremaining, hmem, hused]
      refine ⟨_, rfl, ?_⟩
      rw [← value_subExact]
      exact (value_fix_eq_value_iff _).mpr (h metric hselected limit hmemLimit)

lemma reportsExactly_descendants (hfits : SumsFit events tenants window selected) :
    ReportsExactly events entitlements tenantId tenants window selected true := by
  refine ⟨perTenant_reportOver, fun _ order horder line hline => ?_, fun hinclude => ?_⟩
  · unfold reportOver at hline
    dsimp only at hline
    rw [if_pos rfl] at hline
    obtain ⟨metric, hmetric, rfl⟩ := List.mem_map.mp hline
    exact value_descendantTotals hfits (isSelected_of_mem_reportedMetrics hmetric) horder
  · cases hinclude

lemma fitsContext_of_reportsExactly
    (h : ReportsExactly events entitlements tenantId tenants window selected true) (metric : String)
    (hselected : isSelected selected metric = true) :
    (sumExact (tenants.map fun tenant => usedIn events tenant metric window)).FitsContext := by
  have hvalue : (sumExact (tenants.map fun tenant => usedIn events tenant metric window)).value =
      (tenants.map fun tenant => tenantTotal events tenant window metric).sum := by
    rw [value_sumExact, List.map_map]
    exact congrArg List.sum (List.map_congr_left fun tenant _ =>
      value_usedIn_eq_tenantTotal events tenant metric window)
  by_cases hused : ∃ tenant ∈ tenants, metric ∈ usedMetrics events tenant window selected
  · obtain ⟨tenant, htenant, hused⟩ := hused
    have hreported : metric ∈ reportedMetrics events entitlements tenantId tenants window selected
        true := by
      unfold reportedMetrics
      rw [List.mem_mergeSort, List.mem_dedup, List.mem_append, if_pos rfl]
      exact .inr (List.mem_flatMap.mpr ⟨tenant, htenant, hused⟩)
    have hline : (⟨metric, (descendantTotals (perTenantTotals events tenants window selected)
        metric).getD (.ofInt 0), none, none, false⟩ : MetricUsage) ∈
        (reportOver events entitlements tenantId tenants window selected true).metrics := by
      unfold reportOver
      dsimp only
      rw [if_pos rfl]
      exact List.mem_map_of_mem hreported
    exact fitsContext_of_exact ((h.summed rfl tenants (List.Perm.refl _) _ hline).trans hvalue.symm)
  · -- nobody has used the metric
    have hzero : (sumExact (tenants.map fun tenant => usedIn events tenant metric window)).value =
        0 := by
      rw [value_sumExact, List.map_map]
      refine List.sum_eq_zero fun x hx => ?_
      obtain ⟨tenant, htenant, rfl⟩ := List.mem_map.mp hx
      have hnone := usedIn_of_not_mem hselected fun hmem => hused ⟨tenant, htenant, hmem⟩
      rw [Function.comp_apply, hnone, value_ofInt, Int.cast_zero]
    exact FitsContext.congr (hzero.symm ▸ by simp) (show (ofInt 0).FitsContext by decide)

/-! ## Adjacent windows -/

lemma tenantTotal_adjacent (events : List UsageEvent) {since middle until_ : Instant}
    (hsince : since ≤ middle) (huntil : middle ≤ until_) (tenant : Uuid) (metric : String) :
    tenantTotal events tenant (since, until_) metric =
      tenantTotal events tenant (since, middle) metric +
        tenantTotal events tenant (middle, until_) metric := by
  unfold tenantTotal
  induction events with
  | nil => simp
  | cons event events ih =>
    unfold inWindow at ih ⊢
    dsimp only at ih ⊢
    rw [List.filter_cons, List.filter_cons, List.filter_cons]
    by_cases hcounts : event.counts tenant metric = true
    · by_cases hbefore : event.occurredAt < middle
      · by_cases hin : since ≤ event.occurredAt
        · have hunion : event.occurredAt < until_ := hbefore.trans_le huntil
          simp [hcounts, hin, hbefore, hunion, not_le.mpr hbefore, ih, add_assoc]
        · simp [hcounts, hin, not_le.mpr hbefore, ih]
      · have hin : since ≤ event.occurredAt := hsince.trans (not_lt.mp hbefore)
        by_cases hafter : event.occurredAt < until_
        · simp [hcounts, hin, hbefore, hafter, not_lt.mp hbefore, ih, add_left_comm]
        · simp [hcounts, hin, hbefore, hafter, ih]
    · simp [hcounts, ih]

lemma find?_map_metric {metrics : List String} {line : String → MetricUsage}
    (hline : ∀ metric, (line metric).metric = metric) :
    (metrics.map line).find? (fun line => line.metric = metric) =
      if metric ∈ metrics then some (line metric) else none := by
  induction metrics with
  | nil => rfl
  | cons m metrics ih =>
    rw [List.map_cons, List.find?_cons, hline]
    by_cases hm : m = metric
    · subst hm
      simp
    · rw [decide_eq_false hm, ih]
      simp [Ne.symm hm]

lemma metrics_reportOver_descendants :
    (reportOver events entitlements tenantId tenants window selected true).metrics =
      (reportedMetrics events entitlements tenantId tenants window selected true).map fun metric =>
        ⟨metric, (descendantTotals (perTenantTotals events tenants window selected) metric).getD
          (.ofInt 0), none, none, false⟩ := by
  unfold reportOver
  dsimp only
  rw [if_pos rfl]

lemma tenantTotal_eq_zero_of_not_mem (hselected : isSelected selected metric = true) {tenant : Uuid}
    (h : metric ∉ usedMetrics events tenant window selected) :
    tenantTotal events tenant window metric = 0 := by
  rw [← value_usedIn_eq_tenantTotal, usedIn_of_not_mem hselected h, value_ofInt, Int.cast_zero]

lemma reportedUse_direct :
    (reportOver events entitlements tenantId tenants window selected false).reportedUse metric =
      if isSelected selected metric = true then tenantTotal events tenantId window metric
      else 0 := by
  have hline : ∀ metric, (metricLine entitlements metric
      (usedIn events tenantId metric window)).metric = metric := fun metric =>
    (metricLine_usedIn events entitlements tenantId metric window).1
  unfold TenantUsageReport.reportedUse
  rw [metrics_reportOver_direct, find?_map_metric hline]
  split
  case isTrue hmem =>
    have hused := (metricLine_usedIn events entitlements tenantId metric window).2.1
    rw [if_pos (isSelected_of_mem_reportedMetrics hmem), Option.map_some, Option.getD_some, hused]
    exact value_usedIn_eq_tenantTotal events tenantId metric window
  case isFalse hmem =>
    rw [Option.map_none, Option.getD_none]
    split
    case isTrue hselected =>
      refine (tenantTotal_eq_zero_of_not_mem hselected fun hused => hmem ?_).symm
      unfold reportedMetrics
      rw [List.mem_mergeSort, List.mem_dedup, List.mem_append, List.mem_append]
      exact .inl (.inl hused)
    case isFalse => rfl

lemma reportedUse_descendants (hfits : SumsFit events tenants window selected) :
    (reportOver events entitlements tenantId tenants window selected true).reportedUse metric =
      if isSelected selected metric = true then
        (tenants.map fun tenant => tenantTotal events tenant window metric).sum
      else 0 := by
  unfold TenantUsageReport.reportedUse
  rw [metrics_reportOver_descendants, find?_map_metric fun _ => rfl]
  split
  case isTrue hmem =>
    have hselected := isSelected_of_mem_reportedMetrics hmem
    rw [if_pos hselected, Option.map_some, Option.getD_some]
    exact value_descendantTotals hfits hselected (List.Perm.refl _)
  case isFalse hmem =>
    rw [Option.map_none, Option.getD_none]
    split
    case isTrue hselected =>
      refine (List.sum_eq_zero fun x hx => ?_).symm
      obtain ⟨tenant, htenant, rfl⟩ := List.mem_map.mp hx
      refine tenantTotal_eq_zero_of_not_mem hselected fun hused => hmem ?_
      unfold reportedMetrics
      rw [List.mem_mergeSort, List.mem_dedup, List.mem_append, if_pos rfl]
      exact .inr (List.mem_flatMap.mpr ⟨tenant, htenant, hused⟩)
    case isFalse => rfl

lemma tenantUse_reportOver (tenant : Uuid) :
    (reportOver events entitlements tenantId tenants window selected includeDescendants).tenantUse
      tenant metric =
      if tenant ∈ tenants ∧ isSelected selected metric = true then
        tenantTotal events tenant window metric
      else 0 := by
  unfold TenantUsageReport.tenantUse reportOver perTenantTotals
  dsimp only
  rw [lookup_map_self]
  by_cases htenant : tenant ∈ tenants
  · rw [if_pos htenant, Option.bind_some]
    unfold usageTotals
    rw [lookup_map_self]
    by_cases hselected : isSelected selected metric = true
    · have hboth : tenant ∈ tenants ∧ isSelected selected metric = true := ⟨htenant, hselected⟩
      rw [if_pos hboth]
      by_cases hmem : metric ∈ usedMetrics events tenant window selected
      · rw [if_pos hmem]
        exact value_usedIn_eq_tenantTotal events tenant metric window
      · rw [if_neg hmem]
        exact (tenantTotal_eq_zero_of_not_mem hselected hmem).symm
    · have hmem : metric ∉ usedMetrics events tenant window selected := fun hmem =>
        hselected (mem_usedMetrics.mp hmem).1
      rw [if_neg hmem, if_neg fun h => hselected h.2]
      rfl
  · rw [if_neg htenant, if_neg fun h => htenant h.1]
    rfl

/-! ## Every report -/

/-- A report of one tenant is exact, and agrees with its quotas, exactly if only zeros stand beyond
the 28th digit of each limit less the usage. -/
theorem reportsExactly_iff (events : List UsageEvent) (entitlements : List (String × Entitlement))
    (db : Tables) (tenantId : Uuid) (window : Instant × Instant)
    (selected : Option (List String)) :
    (ReportsExactly events entitlements tenantId (reportTenants db tenantId false) window selected
        false ↔ RemaindersFit events entitlements tenantId window selected) ∧
      (SumsFit events (reportTenants db tenantId true) window selected →
        ReportsExactly events entitlements tenantId (reportTenants db tenantId true) window selected
          true) ∧
      (ReportsExactly events entitlements tenantId (reportTenants db tenantId true) window selected
          true → ∀ metric, isSelected selected metric = true →
        (sumExact ((reportTenants db tenantId true).map fun tenant =>
          usedIn events tenant metric window)).FitsContext) ∧
      ∀ middle : Instant, window.1 ≤ middle → middle ≤ window.2 → ∀ includeDescendants : Bool,
        (includeDescendants = true →
          ∀ part ∈ [window, (window.1, middle), (middle, window.2)],
            SumsFit events (reportTenants db tenantId true) part selected) →
        let report := fun window => serviceTenantUsageReport events entitlements tenantId window
          selected includeDescendants db
        ∀ metric,
          (report window).reportedUse metric =
            (report (window.1, middle)).reportedUse metric +
              (report (middle, window.2)).reportedUse metric ∧
          ∀ tenant, (report window).tenantUse tenant metric =
            (report (window.1, middle)).tenantUse tenant metric +
              (report (middle, window.2)).tenantUse tenant metric := by
  refine ⟨reportsExactly_direct_iff, reportsExactly_descendants,
    fitsContext_of_reportsExactly, ?_⟩
  intro middle hsince huntil includeDescendants hfits
  dsimp only
  intro metric
  have hadd := fun tenant => tenantTotal_adjacent events hsince huntil tenant metric
  unfold serviceTenantUsageReport
  constructor
  · cases includeDescendants with
    | false =>
      rw [reportedUse_direct, reportedUse_direct, reportedUse_direct]
      split
      · exact hadd tenantId
      · simp
    | true =>
      rw [reportedUse_descendants (hfits rfl _ (by simp)),
        reportedUse_descendants (hfits rfl _ (by simp)),
        reportedUse_descendants (hfits rfl _ (by simp))]
      split
      · rw [← List.sum_map_add]
        exact congrArg List.sum (List.map_congr_left fun tenant _ => hadd tenant)
      · simp
  · intro tenant
    rw [tenantUse_reportOver, tenantUse_reportOver, tenantUse_reportOver]
    split
    · exact hadd tenant
    · simp

def wholeLimitEvent : UsageEvent :=
  ⟨1, "storage_bytes", ⟨10 ^ 17, 0⟩, PyDatetime.monthStart (2024, 2)⟩

/-- What remains of a limit after the smallest quantity is rounded to the whole limit, and so is the
sum of the two. -/
theorem not_reportsExactly_smallest :
    (∀ event ∈ [smallestEvent, wholeLimitEvent], IsAccepted event.quantity) ∧
      ¬ ReportsExactly [smallestEvent] [("storage_bytes", .number ⟨10 ^ 17, 0⟩)] 1 [1]
        februaryWindow none false ∧
      ¬ ReportsExactly [smallestEvent, wholeLimitEvent] [] 1 [1] februaryWindow none true := by
  refine ⟨?_, ?_, ?_⟩
  · intro event hevent
    rcases List.mem_pair.mp hevent with rfl | rfl
    · exact ⟨.decimal ⟨1, -18⟩, by decide +kernel⟩
    · exact ⟨.int (10 ^ 17), by decide +kernel⟩
  · rw [reportsExactly_direct_iff]
    intro h
    have hfits := h "storage_bytes" rfl ⟨10 ^ 17, 0⟩ rfl
    revert hfits
    decide +kernel
  · intro h
    have hfits := fitsContext_of_reportsExactly h "storage_bytes" rfl
    revert hfits
    decide +kernel

end SaasOs.Reporting
