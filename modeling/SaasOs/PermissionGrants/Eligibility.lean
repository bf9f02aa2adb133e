import SaasOs.Foundation.JsonArray
import SaasOs.Foundation.PyDatetime
import SaasOs.Schema.Tables
import Mathlib.Data.String.Basic

/-!
# Which ledger rows may expire

The ledger rows of a tenant may expire two years after its purge, unless a legal hold is active:
`retentionEligibility` decides it from the status of the tenant, the purge evidence in the platform
audit log and the number of active holds.  Three loops over tenants gather what is eligible: the
retention report, the state of the scope of a deletion request, and the deletion itself.  A request
is confirmed with the total and the digest of the report, so the three must agree.
-/

namespace SaasOs.PermissionGrants

open Rows

/-! ## The decision -/

inductive RetentionStatus
  | tenantNotFound
  | notPurged
  | purgeTimeUnknown
  | purgeTimeAmbiguous
  | legalHold
  | retentionRunning
  | eligible
  deriving DecidableEq

structure RetentionDecision where
  status : RetentionStatus
  purgedAt : Option Instant
  expiresAt : Option Instant

namespace RetentionDecision

def undated (status : RetentionStatus) : RetentionDecision := ⟨status, none, none⟩

def eligible (decision : RetentionDecision) : Bool :=
  decision.status = .eligible

end RetentionDecision

def retentionPeriodYears : ℕ := 2

def dayLength : ℤ := 86400 * PyDatetime.second

/-- `datetime.replace(year=, month=, day=)`, with the time of the day; a date that does not exist is a
`ValueError`. -/
def replaceDate (year month day : ℕ) (time : ℤ) : Option Instant :=
  if 1 ≤ year ∧ year ≤ 9999 ∧ 1 ≤ day ∧ day ≤ PyDatetime.daysInMonth year month then
    some ((PyDatetime.toOrdinal year month day - 1 : ℤ) * dayLength + time)
  else none

/-- `retention_expires_at`; nothing for an error. -/
def retentionExpiresAt (purgedAt : Instant) : Option Instant :=
  let (year, month, day) := PyDatetime.fromOrdinal ((purgedAt / dayLength).toNat + 1)
  let time := purgedAt % dayLength
  match replaceDate (year + retentionPeriodYears) month day time with
  | some expiresAt => some expiresAt
  -- 29 February, target year not a leap year
  | none => (replaceDate (year + retentionPeriodYears) 2 28 time).bind (PyDatetime.add · dayLength)

/-- `retention_eligibility`; nothing for an error. -/
def retentionEligibility (tenantStatus : Option TenantStatus) (purgeEvidence : List Instant)
    (activeHolds : ℕ) (now : Instant) : Option RetentionDecision :=
  match tenantStatus with
  | none => some (.undated .tenantNotFound)
  | some status =>
    if status ≠ .purged then some (.undated .notPurged)
    else
      match purgeEvidence with
      | [] => some (.undated .purgeTimeUnknown)
      | _ :: _ :: _ => some (.undated .purgeTimeAmbiguous)
      | [purgedAt] => do
        let expiresAt ← retentionExpiresAt purgedAt
        if 0 < activeHolds then some ⟨.legalHold, some purgedAt, some expiresAt⟩
        else if now < expiresAt then some ⟨.retentionRunning, some purgedAt, some expiresAt⟩
        else some ⟨.eligible, some purgedAt, some expiresAt⟩

/-! ## What the database holds -/

/-- The columns of `core.platform_audit_log` that purge evidence is read from. -/
structure PurgeAuditRow where
  action : String
  targetTenantId : Option Uuid
  outcome : String
  systemAuthority : Option String
  entryMetadata : Option Json
  createdAt : Instant

/-- A row of `core.permission_grant_ledger_holds`. -/
structure LedgerHoldRow where
  id : Uuid
  targetTenantId : Uuid
  releasedAt : Option Instant

/-- The tables that the decision reads, with the ids and the tenants of the ledger rows. -/
structure RetentionTables where
  tenants : List (Uuid × TenantStatus)
  platformAuditLog : List PurgeAuditRow
  holds : List LedgerHoldRow
  applications : List (Uuid × Uuid)
  uniqueApplications : UniqueOn applications Prod.fst

namespace RetentionTables

variable (tables : RetentionTables)

def tenantStatus (tenantId : Uuid) : Option TenantStatus :=
  (tables.tenants.find? fun tenant => tenant.1 = tenantId).map Prod.snd

def isPurged : Option Json → Bool
  | some (.obj members) =>
    match members.get? "to_status" with
    | some (.str status) => status = "purged"
    | _ => false
  | _ => false

/-- `tenant_purge_completion_times`. -/
def purgeEvidence (tenantId : Uuid) : List Instant :=
  (tables.platformAuditLog.filter fun row =>
    row.action = "platform.tenant.purge_transition" && row.targetTenantId = some tenantId &&
      row.outcome = "success" && row.systemAuthority = some "tenant_purge" &&
      isPurged row.entryMetadata).map PurgeAuditRow.createdAt

def activeHolds (tenantId : Uuid) : ℕ :=
  (tables.holds.filter fun hold =>
    hold.targetTenantId = tenantId && hold.releasedAt.isNone).length

/-- `_ledger_row_ids`: the ids of the rows of the tenant, in order. -/
def ledgerRowIds (tenantId : Uuid) : List Uuid :=
  ((tables.applications.filter fun row => row.2 = tenantId).map Prod.fst).insertionSort (· ≤ ·)

end RetentionTables

/-! ## The digest -/

/-- The row ids under each tenant, as a dictionary keeps them. -/
abbrev RowsByTenant := List (Uuid × List Uuid)

namespace RowsByTenant

/-- `rows[tenant] = ids`. -/
def set (rows : RowsByTenant) (tenantId : Uuid) (ids : List Uuid) : RowsByTenant :=
  if tenantId ∈ rows.map Prod.fst then
    rows.map fun entry => if entry.1 = tenantId then (tenantId, ids) else entry
  else rows ++ [(tenantId, ids)]

/-- `rows[tenant]`. -/
def of (rows : RowsByTenant) (tenantId : Uuid) : List Uuid :=
  ((rows.find? fun entry => entry.1 = tenantId).map Prod.snd).getD []

def total (rows : RowsByTenant) : ℕ :=
  (rows.map fun entry => entry.2.length).sum

def canonical (rows : RowsByTenant) : List (String × List String) :=
  ((rows.map Prod.fst).insertionSort fun a b => uuidStr a ≤ uuidStr b).map fun tenantId =>
    (uuidStr tenantId, ((rows.of tenantId).map uuidStr).insertionSort (· ≤ ·))

end RowsByTenant

def eligibleLedgerDigest (sha256 : String → String) (rows : RowsByTenant) : String :=
  sha256 (String.ofList (Json.array (Json.pair Json.quote (Json.array Json.quote)) rows.canonical))

/-! ## The report -/

structure TenantLedgerRetention where
  tenantId : Uuid
  status : RetentionStatus
  ledgerRows : ℕ
  activeHolds : ℕ
  purgedAt : Option Instant
  expiresAt : Option Instant

structure LedgerRetentionReport where
  asOf : Instant
  tenants : List TenantLedgerRetention
  eligibleDigest : String

def LedgerRetentionReport.eligibleLedgerRows (report : LedgerRetentionReport) : ℕ :=
  ((report.tenants.filter fun tenant => tenant.status = .eligible).map
    TenantLedgerRetention.ledgerRows).sum

/-- The loop of `permission_grant_ledger_retention_report`: the tenants and the eligible rows. -/
def reportLoop (tables : RetentionTables) (decidedAt : Instant) :
    List TenantLedgerRetention → RowsByTenant → List Uuid →
      Option (List TenantLedgerRetention × RowsByTenant)
  | tenants, eligibleRows, [] => some (tenants, eligibleRows)
  | tenants, eligibleRows, tenantId :: rest => do
    let status := tables.tenantStatus tenantId
    let holds := if status.isSome then tables.activeHolds tenantId else 0
    let decision ← retentionEligibility status (tables.purgeEvidence tenantId) holds decidedAt
    let rowIds := if status.isSome then tables.ledgerRowIds tenantId else []
    let eligibleRows :=
      if decision.eligible ∧ rowIds ≠ [] then eligibleRows.set tenantId rowIds else eligibleRows
    reportLoop tables decidedAt (tenants ++ [⟨tenantId, decision.status, rowIds.length, holds,
      decision.purgedAt, decision.expiresAt⟩]) eligibleRows rest

def retentionReport (sha256 : String → String) (tables : RetentionTables) (targets : List Uuid)
    (decidedAt : Instant) : Option LedgerRetentionReport := do
  let (tenants, eligibleRows) ← reportLoop tables decidedAt [] [] targets
  return ⟨decidedAt, tenants, eligibleLedgerDigest sha256 eligibleRows⟩

/-! ## The scope of a request -/

structure ScopeState where
  rows : RowsByTenant
  notEligible : List Uuid

def ScopeState.total (state : ScopeState) : ℕ := state.rows.total

def ScopeState.digest (sha256 : String → String) (state : ScopeState) : String :=
  eligibleLedgerDigest sha256 state.rows

/-- The loop of `scope_state`. -/
def scopeLoop (tables : RetentionTables) (at' : Instant) :
    RowsByTenant → List Uuid → List Uuid → Option ScopeState
  | rows, refused, [] => some ⟨rows, refused⟩
  | rows, refused, tenantId :: rest => do
    let status := tables.tenantStatus tenantId
    let decision ← retentionEligibility status (tables.purgeEvidence tenantId)
      (if status.isSome then tables.activeHolds tenantId else 0) at'
    let ids := if decision.eligible then tables.ledgerRowIds tenantId else []
    if decision.eligible ∧ ids ≠ [] then
      scopeLoop tables at' (rows.set tenantId ids) refused rest
    else scopeLoop tables at' rows (refused ++ [tenantId]) rest

def scopeState (tables : RetentionTables) (tenantIds : List Uuid) (at' : Instant) :
    Option ScopeState :=
  scopeLoop tables at' [] [] tenantIds

/-! ## The deletion -/

structure ExpiredLedgerTenant where
  tenantId : Uuid
  ledgerRows : ℕ
  purgedAt : Option Instant
  expiresAt : Option Instant

/-- What `_decide` answers. -/
structure Decided where
  rows : RowsByTenant
  eligible : List ExpiredLedgerTenant
  notEligible : List (RetentionStatus × ℕ)

/-- `not_eligible.get(status, 0)`. -/
def statusCount (counts : List (RetentionStatus × ℕ)) (status : RetentionStatus) : ℕ :=
  ((counts.find? fun entry => entry.1 = status).map Prod.snd).getD 0

/-- `not_eligible[status] = count`. -/
def setStatusCount (counts : List (RetentionStatus × ℕ)) (status : RetentionStatus) (count : ℕ) :
    List (RetentionStatus × ℕ) :=
  if status ∈ counts.map Prod.fst then
    counts.map fun entry => if entry.1 = status then (status, count) else entry
  else counts ++ [(status, count)]

/-- `_decide`, from what it gathered so far. -/
def decideLoop (tables : RetentionTables) (decidedAt : Instant) (decided : Decided) :
    List Uuid → Option Decided
  | [] => some decided
  | tenantId :: rest => do
    let status := tables.tenantStatus tenantId
    let decision ← retentionEligibility status (tables.purgeEvidence tenantId)
      (if status.isSome then tables.activeHolds tenantId else 0) decidedAt
    if decision.status ≠ .eligible then
      decideLoop tables decidedAt { decided with
        notEligible := setStatusCount decided.notEligible decision.status
          (statusCount decided.notEligible decision.status + 1) } rest
    else
      let ids := tables.ledgerRowIds tenantId
      -- eligible, but nothing to delete: not part of the run
      if ids = [] then decideLoop tables decidedAt decided rest
      else
        decideLoop tables decidedAt { decided with
          rows := decided.rows.set tenantId ids
          eligible := decided.eligible ++
            [⟨tenantId, ids.length, decision.purgedAt, decision.expiresAt⟩] } rest

/-- `_decide`. -/
def decideTargets (tables : RetentionTables) (targets : List Uuid) (decidedAt : Instant) :
    Option Decided :=
  decideLoop tables decidedAt ⟨[], [], []⟩ targets

/-! ## Agreement -/

def TenantLedgerRetention.inRun (tenant : TenantLedgerRetention) : Bool :=
  tenant.status = .eligible && 0 < tenant.ledgerRows

/-- The report, the scope and the deletion classify each tenant alike, up to the order in which the
tenants were named, and gather the same rows. -/
structure Agree (sha256 : String → String) (report : LedgerRetentionReport) (scope : ScopeState)
    (decided : Decided) : Prop where
  scopeRows : (scope.rows.map fun entry => (entry.1, entry.2.length)).Perm
    ((report.tenants.filter TenantLedgerRetention.inRun).map fun tenant =>
      (tenant.tenantId, tenant.ledgerRows))
  scopeRefused : scope.notEligible.Perm
    ((report.tenants.filter fun tenant => !tenant.inRun).map TenantLedgerRetention.tenantId)
  decidedEligible : (decided.eligible.map fun tenant =>
      (tenant.tenantId, tenant.ledgerRows, tenant.purgedAt, tenant.expiresAt)).Perm
    ((report.tenants.filter TenantLedgerRetention.inRun).map fun tenant =>
      (tenant.tenantId, tenant.ledgerRows, tenant.purgedAt, tenant.expiresAt))
  decidedRefused : ∀ status, status ≠ .eligible → statusCount decided.notEligible status =
    report.tenants.countP fun tenant => tenant.status = status
  rows : decided.rows.Perm scope.rows
  total : report.eligibleLedgerRows = scope.total ∧ scope.total = decided.rows.total
  digest : report.eligibleDigest = scope.digest sha256 ∧
    scope.digest sha256 = eligibleLedgerDigest sha256 decided.rows

/-! ## What the loops gather -/

lemma RowsByTenant.set_of_not_mem {rows : RowsByTenant} {tenantId : Uuid} {ids : List Uuid}
    (h : tenantId ∉ rows.map Prod.fst) : rows.set tenantId ids = rows ++ [(tenantId, ids)] :=
  if_neg h

section Loops

variable (tables : RetentionTables) (now : Instant)

def verdict (tenantId : Uuid) : Option RetentionDecision :=
  retentionEligibility (tables.tenantStatus tenantId) (tables.purgeEvidence tenantId)
    (if (tables.tenantStatus tenantId).isSome then tables.activeHolds tenantId else 0) now

def Verdicts (decisions : Uuid → RetentionDecision) (targets : List Uuid) : Prop :=
  ∀ tenantId ∈ targets, verdict tables now tenantId = some (decisions tenantId)

def inRun (decisions : Uuid → RetentionDecision) (tenantId : Uuid) : Bool :=
  (decisions tenantId).eligible && decide (tables.ledgerRowIds tenantId ≠ [])

def eligibleRows (decisions : Uuid → RetentionDecision) (targets : List Uuid) : RowsByTenant :=
  (targets.filter (inRun tables decisions)).map fun tenantId =>
    (tenantId, tables.ledgerRowIds tenantId)

def reported (decisions : Uuid → RetentionDecision) (tenantId : Uuid) : TenantLedgerRetention where
  tenantId := tenantId
  status := (decisions tenantId).status
  ledgerRows :=
    if (tables.tenantStatus tenantId).isSome then (tables.ledgerRowIds tenantId).length else 0
  activeHolds := if (tables.tenantStatus tenantId).isSome then tables.activeHolds tenantId else 0
  purgedAt := (decisions tenantId).purgedAt
  expiresAt := (decisions tenantId).expiresAt

variable {tables now} {decisions : Uuid → RetentionDecision} {targets rest : List Uuid}
  {tenantId : Uuid}

lemma Verdicts.head (h : Verdicts tables now decisions (tenantId :: rest)) :
    verdict tables now tenantId = some (decisions tenantId) :=
  h tenantId List.mem_cons_self

lemma Verdicts.tail (h : Verdicts tables now decisions (tenantId :: rest)) :
    Verdicts tables now decisions rest :=
  fun other hother => h other (List.mem_cons_of_mem tenantId hother)

variable {decision : RetentionDecision}

lemma isSome_of_eligible (h : verdict tables now tenantId = some decision)
    (heligible : decision.eligible = true) :
    (tables.tenantStatus tenantId).isSome = true := by
  unfold verdict at h
  cases hstatus : tables.tenantStatus tenantId with
  | none =>
    rw [hstatus] at h
    simp only [retentionEligibility, Option.some.injEq] at h
    subst h
    simp [RetentionDecision.eligible, RetentionDecision.undated] at heligible
  | some status => rfl

lemma inRun_iff :
    inRun tables decisions tenantId = true ↔
      (decisions tenantId).eligible = true ∧ tables.ledgerRowIds tenantId ≠ [] := by
  unfold inRun
  rw [Bool.and_eq_true, decide_eq_true_iff]

lemma eligibleRows_cons : eligibleRows tables decisions (tenantId :: rest) =
    (if inRun tables decisions tenantId = true then [(tenantId, tables.ledgerRowIds tenantId)]
      else []) ++ eligibleRows tables decisions rest := by
  unfold eligibleRows
  rw [List.filter_cons]
  split
  · rfl
  · rfl

variable {rows : RowsByTenant}

lemma not_mem_keys_concat {ids : List Uuid} (hnodup : (tenantId :: rest).Nodup)
    (hkeys : ∀ other ∈ tenantId :: rest, other ∉ rows.map Prod.fst) :
    ∀ other ∈ rest, other ∉ (rows ++ [(tenantId, ids)]).map Prod.fst := by
  intro other hother
  rw [List.map_append, List.mem_append, List.map_singleton, List.mem_singleton, not_or]
  refine ⟨hkeys other (List.mem_cons_of_mem tenantId hother), ?_⟩
  rintro rfl
  exact (List.nodup_cons.mp hnodup).1 hother

lemma scopeLoop_eq (rows : RowsByTenant) (refused : List Uuid)
    (h : Verdicts tables now decisions targets) (hnodup : targets.Nodup)
    (hkeys : ∀ tenantId ∈ targets, tenantId ∉ rows.map Prod.fst) :
    scopeLoop tables now rows refused targets =
      some ⟨rows ++ eligibleRows tables decisions targets,
        refused ++ targets.filter fun tenantId => !inRun tables decisions tenantId⟩ := by
  induction targets generalizing rows refused with
  | nil => simp [scopeLoop, eligibleRows]
  | cons tenantId rest ih =>
    have hverdict := h.head
    unfold verdict at hverdict
    unfold scopeLoop
    simp only [hverdict, Option.bind_eq_bind, Option.bind_some]
    by_cases hrun : inRun tables decisions tenantId = true
    · obtain ⟨heligible, hids⟩ := inRun_iff.mp hrun
      rw [if_pos heligible, if_pos ⟨heligible, hids⟩,
        RowsByTenant.set_of_not_mem (hkeys tenantId List.mem_cons_self),
        ih _ _ h.tail hnodup.of_cons (not_mem_keys_concat hnodup hkeys), eligibleRows_cons, if_pos hrun]
      simp [hrun]
    · have hnot : ¬ ((decisions tenantId).eligible = true ∧
          (if (decisions tenantId).eligible = true then tables.ledgerRowIds tenantId else []) ≠
            []) := by
        rintro ⟨heligible, hids⟩
        rw [if_pos heligible] at hids
        exact hrun (inRun_iff.mpr ⟨heligible, hids⟩)
      rw [if_neg hnot, ih _ _ h.tail hnodup.of_cons
        (fun other hother => hkeys other (List.mem_cons_of_mem tenantId hother)), eligibleRows_cons,
        if_neg hrun]
      simp [hrun]

lemma reportLoop_eq (tenants : List TenantLedgerRetention) (rows : RowsByTenant)
    (h : Verdicts tables now decisions targets) (hnodup : targets.Nodup)
    (hkeys : ∀ tenantId ∈ targets, tenantId ∉ rows.map Prod.fst) :
    reportLoop tables now tenants rows targets =
      some (tenants ++ targets.map (reported tables decisions),
        rows ++ eligibleRows tables decisions targets) := by
  induction targets generalizing tenants rows with
  | nil => simp [reportLoop, eligibleRows]
  | cons tenantId rest ih =>
    have hverdict := h.head
    have hsome := fun heligible => isSome_of_eligible h.head heligible
    unfold verdict at hverdict
    unfold reportLoop
    simp only [hverdict, Option.bind_eq_bind, Option.bind_some]
    have hreported : reported tables decisions tenantId =
        ⟨tenantId, (decisions tenantId).status,
          (if (tables.tenantStatus tenantId).isSome = true then tables.ledgerRowIds tenantId
            else []).length,
          if (tables.tenantStatus tenantId).isSome = true then tables.activeHolds tenantId else 0,
          (decisions tenantId).purgedAt, (decisions tenantId).expiresAt⟩ := by
      unfold reported
      split
      · rfl
      · rfl
    rw [← hreported]
    by_cases hrun : inRun tables decisions tenantId = true
    · obtain ⟨heligible, hids⟩ := inRun_iff.mp hrun
      rw [if_pos (hsome heligible), if_pos ⟨heligible, hids⟩,
        RowsByTenant.set_of_not_mem (hkeys tenantId List.mem_cons_self),
        ih _ _ h.tail hnodup.of_cons (not_mem_keys_concat hnodup hkeys), eligibleRows_cons, if_pos hrun]
      simp
    · have hnot : ¬ ((decisions tenantId).eligible = true ∧
          (if (tables.tenantStatus tenantId).isSome = true then tables.ledgerRowIds tenantId
            else []) ≠ []) := by
        rintro ⟨heligible, hids⟩
        rw [if_pos (hsome heligible)] at hids
        exact hrun (inRun_iff.mpr ⟨heligible, hids⟩)
      rw [if_neg hnot, ih _ _ h.tail hnodup.of_cons
        (fun other hother => hkeys other (List.mem_cons_of_mem tenantId hother)), eligibleRows_cons,
        if_neg hrun]
      simp

lemma statusCount_setStatusCount (counts : List (RetentionStatus × ℕ)) (status other : RetentionStatus)
    (count : ℕ) : statusCount (setStatusCount counts status count) other =
      if other = status then count else statusCount counts other := by
  unfold setStatusCount statusCount
  split
  · next hmem =>
    have hkey : ((fun entry : RetentionStatus × ℕ => decide (entry.1 = other)) ∘ fun entry =>
        if entry.1 = status then (status, count) else entry) = fun entry => decide (entry.1 = other) := by
      funext entry
      by_cases hentry : entry.1 = status
      · simp [hentry]
      · simp [hentry]
    rw [List.find?_map, hkey, Option.map_map]
    cases hfind : counts.find? fun entry => decide (entry.1 = other) with
    | none =>
      have hother : other ≠ status := by
        rintro rfl
        obtain ⟨entry, hentry, hstatus⟩ := List.mem_map.mp hmem
        exact List.find?_eq_none.mp hfind entry hentry (decide_eq_true hstatus)
      rw [if_neg hother]
      rfl
    | some entry =>
      have hentry : entry.1 = other := by simpa using List.find?_some hfind
      by_cases hother : other = status
      · simp [hentry, hother]
      · simp [hentry, hother]
  · next hmem =>
    rw [List.find?_append]
    by_cases hother : other = status
    · subst hother
      have hnone : counts.find? (fun entry => decide (entry.1 = other)) = none := by
        refine List.find?_eq_none.mpr fun entry hentry hstatus => hmem ?_
        exact List.mem_map.mpr ⟨entry, hentry, of_decide_eq_true hstatus⟩
      rw [hnone]
      simp
    · have hne : ¬ status = other := fun heq => hother heq.symm
      simp [hother, hne]

lemma decideLoop_eq (decided : Decided) (h : Verdicts tables now decisions targets)
    (hnodup : targets.Nodup) (hkeys : ∀ tenantId ∈ targets, tenantId ∉ decided.rows.map Prod.fst) :
    ∃ decided', decideLoop tables now decided targets = some decided' ∧
      decided'.rows = decided.rows ++ eligibleRows tables decisions targets ∧
      decided'.eligible = decided.eligible ++ (targets.filter (inRun tables decisions)).map
        (fun tenantId => ⟨tenantId, (tables.ledgerRowIds tenantId).length,
          (decisions tenantId).purgedAt, (decisions tenantId).expiresAt⟩) ∧
      ∀ status, status ≠ .eligible → statusCount decided'.notEligible status =
        statusCount decided.notEligible status +
          targets.countP fun tenantId => (decisions tenantId).status = status := by
  induction targets generalizing decided with
  | nil => exact ⟨decided, rfl, by simp [eligibleRows], by simp, by simp⟩
  | cons tenantId rest ih =>
    have hverdict := h.head
    unfold verdict at hverdict
    unfold decideLoop
    simp only [hverdict, Option.bind_eq_bind, Option.bind_some]
    have hrest : ∀ other ∈ rest, other ∉ decided.rows.map Prod.fst :=
      fun other hother => hkeys other (List.mem_cons_of_mem tenantId hother)
    by_cases heligible : (decisions tenantId).status = .eligible
    · rw [if_neg (not_not.mpr heligible)]
      have heligible' : (decisions tenantId).eligible = true := decide_eq_true heligible
      by_cases hids : tables.ledgerRowIds tenantId = []
      · rw [if_pos hids]
        obtain ⟨decided', heq, hrows, heligibles, hcounts⟩ := ih _ h.tail hnodup.of_cons hrest
        have hrun : ¬ inRun tables decisions tenantId = true :=
          fun hrun => (inRun_iff.mp hrun).2 hids
        refine ⟨decided', heq, ?_, ?_, fun status hstatus => ?_⟩
        · rw [hrows, eligibleRows_cons, if_neg hrun, List.nil_append]
        · rw [heligibles, List.filter_cons_of_neg hrun]
        · rw [hcounts status hstatus, List.countP_cons_of_neg]
          simpa [heligible] using hstatus.symm
      · rw [if_neg hids, RowsByTenant.set_of_not_mem (hkeys tenantId List.mem_cons_self)]
        obtain ⟨decided', heq, hrows, heligibles, hcounts⟩ :=
          ih { decided with
            rows := decided.rows ++ [(tenantId, tables.ledgerRowIds tenantId)]
            eligible := decided.eligible ++ [⟨tenantId, (tables.ledgerRowIds tenantId).length,
              (decisions tenantId).purgedAt, (decisions tenantId).expiresAt⟩] }
            h.tail hnodup.of_cons (not_mem_keys_concat hnodup hkeys)
        have hrun : inRun tables decisions tenantId = true := inRun_iff.mpr ⟨heligible', hids⟩
        refine ⟨decided', heq, ?_, ?_, fun status hstatus => ?_⟩
        · rw [hrows, eligibleRows_cons, if_pos hrun, List.append_assoc]
        · rw [heligibles, List.filter_cons_of_pos hrun, List.map_cons, List.append_assoc,
            List.singleton_append]
        · rw [hcounts status hstatus, List.countP_cons_of_neg]
          simpa [heligible] using hstatus.symm
    · rw [if_pos heligible]
      obtain ⟨decided', heq, hrows, heligibles, hcounts⟩ :=
        ih { decided with
          notEligible := setStatusCount decided.notEligible (decisions tenantId).status
            (statusCount decided.notEligible (decisions tenantId).status + 1) }
          h.tail hnodup.of_cons hrest
      have hrun : ¬ inRun tables decisions tenantId = true := by
        intro hrun
        exact heligible (of_decide_eq_true (inRun_iff.mp hrun).1)
      refine ⟨decided', heq, ?_, ?_, fun status hstatus => ?_⟩
      · rw [hrows, eligibleRows_cons, if_neg hrun, List.nil_append]
      · rw [heligibles, List.filter_cons_of_neg hrun]
      · rw [hcounts status hstatus]
        dsimp only
        rw [statusCount_setStatusCount, List.countP_cons]
        by_cases hsame : status = (decisions tenantId).status
        · simp only [hsame, if_true, decide_true]
          omega
        · have hne : ¬ (decisions tenantId).status = status := fun heq => hsame heq.symm
          simp only [hsame, hne, if_false, decide_false, Bool.false_eq_true, Nat.add_zero]

/-! ### A decision that fails -/

lemma exists_none_tail (hverdict : verdict tables now tenantId = some decision)
    (h : ∃ other ∈ tenantId :: rest, verdict tables now other = none) :
    ∃ other ∈ rest, verdict tables now other = none := by
  obtain ⟨other, hother, hnone⟩ := h
  rcases List.mem_cons.mp hother with rfl | hother
  · rw [hverdict] at hnone
    cases hnone
  · exact ⟨other, hother, hnone⟩

lemma bind_verdict_none {β : Type} {next : RetentionDecision → Option β}
    (h : ∃ other ∈ tenantId :: rest, verdict tables now other = none)
    (hnext : (∃ other ∈ rest, verdict tables now other = none) → ∀ decision, next decision = none) :
    (verdict tables now tenantId).bind next = none := by
  cases hverdict : verdict tables now tenantId with
  | none => rfl
  | some decision => exact hnext (exists_none_tail hverdict h) decision

section

variable (h : ∃ tenantId ∈ targets, verdict tables now tenantId = none)

include h

lemma scopeLoop_none {refused : List Uuid} :
    scopeLoop tables now rows refused targets = none := by
  induction targets generalizing rows refused with
  | nil => simp at h
  | cons tenantId rest ih =>
    unfold scopeLoop
    refine bind_verdict_none h fun hrest decision => ?_
    simp only [ih hrest, ite_self]

lemma reportLoop_none {tenants : List TenantLedgerRetention} :
    reportLoop tables now tenants rows targets = none := by
  induction targets generalizing tenants rows with
  | nil => simp at h
  | cons tenantId rest ih =>
    unfold reportLoop
    exact bind_verdict_none h fun hrest decision => ih hrest

lemma decideLoop_none {decided : Decided} :
    decideLoop tables now decided targets = none := by
  induction targets generalizing decided with
  | nil => simp at h
  | cons tenantId rest ih =>
    unfold decideLoop
    refine bind_verdict_none h fun hrest decision => ?_
    simp only [ih hrest, ite_self]

end

end Loops

/-! ## The digest tells the rows -/

def hexDigitValue (c : Char) : ℕ :=
  if c.isDigit then c.toNat - 48 else c.toNat - 87

def hexValue (digits : List Char) : ℕ :=
  digits.foldl (fun value c => 16 * value + hexDigitValue c) 0

lemma hexDigitValue_digitChar : ∀ n < 16, hexDigitValue (Nat.digitChar n) = n := by
  decide

lemma hexValue_toDigits (n : ℕ) : hexValue (Nat.toDigits 16 n) = n := by
  induction n using Nat.strong_induction_on with
  | h n ih =>
    by_cases hn : n < 16
    · rw [Nat.toDigits_of_lt_base hn]
      simp [hexValue, hexDigitValue_digitChar n hn]
    · rw [Nat.toDigits_of_base_le (by decide) (not_lt.mp hn), hexValue, List.foldl_append,
        ← hexValue, ih (n / 16) (by omega)]
      simp only [List.foldl_cons, List.foldl_nil,
        hexDigitValue_digitChar (n % 16) (Nat.mod_lt n (by decide))]
      omega

lemma hexValue_replicate_append (k : ℕ) (digits : List Char) :
    hexValue (List.replicate k '0' ++ digits) = hexValue digits := by
  induction k with
  | zero => rfl
  | succ k ih =>
    rw [List.replicate_succ, List.cons_append, hexValue, List.foldl_cons]
    exact ih

lemma uuidStr_injective : Function.Injective uuidStr := by
  intro a b h
  unfold uuidStr at h
  dsimp only at h
  have h := String.ofList_injective h
  generalize ha : List.replicate (32 - (Nat.toDigits 16 a).length) '0' ++ Nat.toDigits 16 a = hex at h
  generalize hb : List.replicate (32 - (Nat.toDigits 16 b).length) '0' ++ Nat.toDigits 16 b = hex'
    at h
  have hlength : 32 ≤ hex.length := by
    rw [← ha, List.length_append, List.length_replicate]
    omega
  have hlength' : 32 ≤ hex'.length := by
    rw [← hb, List.length_append, List.length_replicate]
    omega
  simp only [List.append_assoc, List.singleton_append] at h
  obtain ⟨h1, h⟩ := List.append_inj h (by simp only [List.length_take]; omega)
  obtain ⟨h2, h⟩ := List.append_inj (List.cons.inj h).2
    (by simp only [List.length_take, List.length_drop]; omega)
  obtain ⟨h3, h⟩ := List.append_inj (List.cons.inj h).2
    (by simp only [List.length_take, List.length_drop]; omega)
  obtain ⟨h4, h⟩ := List.append_inj (List.cons.inj h).2
    (by simp only [List.length_take, List.length_drop]; omega)
  have h5 := (List.cons.inj h).2
  have hdrop : ∀ digits : List Char, digits = digits.take 8 ++ ((digits.drop 8).take 4 ++
      ((digits.drop 12).take 4 ++ ((digits.drop 16).take 4 ++ digits.drop 20))) := by
    intro digits
    conv_lhs => rw [← List.take_append_drop 8 digits, ← List.take_append_drop 4 (digits.drop 8),
      List.drop_drop, ← List.take_append_drop 4 (digits.drop 12), List.drop_drop,
      ← List.take_append_drop 4 (digits.drop 16), List.drop_drop]
  have hhex : hex = hex' := by
    rw [hdrop hex, hdrop hex', h1, h2, h3, h4, h5]
  rw [← hexValue_toDigits a, ← hexValue_replicate_append (32 - (Nat.toDigits 16 a).length), ha,
    hhex, ← hb, hexValue_replicate_append, hexValue_toDigits]

/-- Eligible rows: each tenant once, with distinct row ids. -/
structure EligibleRows where
  entries : RowsByTenant
  unique : UniqueOn entries Prod.fst
  nodup : ∀ entry ∈ entries, entry.2.Nodup

/-- The same tenants with the same rows, in whatever order. -/
def SameRows (rows rows' : RowsByTenant) : Prop :=
  ∀ tenantId, (tenantId ∈ rows.map Prod.fst ↔ tenantId ∈ rows'.map Prod.fst) ∧
    ∀ rowId, rowId ∈ rows.of tenantId ↔ rowId ∈ rows'.of tenantId

namespace RowsByTenant

variable {rows : RowsByTenant} {tenantId : Uuid} {ids : List Uuid}

lemma of_eq (h : UniqueOn rows Prod.fst) (hmem : (tenantId, ids) ∈ rows) :
    rows.of tenantId = ids := by
  have hone : AtMostOne rows fun entry => decide (entry.1 = tenantId) :=
    h.atMostOne fun entry hentry => of_decide_eq_true hentry
  unfold of
  rw [(find?_eq_some_iff hone).mpr ⟨hmem, decide_eq_true rfl⟩]
  rfl

lemma of_eq_nil (h : tenantId ∉ rows.map Prod.fst) : rows.of tenantId = [] := by
  unfold of
  rw [List.find?_eq_none.mpr fun entry hentry hkey =>
    h (List.mem_map.mpr ⟨entry, hentry, of_decide_eq_true hkey⟩)]
  rfl

lemma sameRows_of_perm {rows' : RowsByTenant} (h : UniqueOn rows Prod.fst) (hperm : rows.Perm rows') :
    SameRows rows rows' := by
  intro tenantId
  refine ⟨(hperm.map Prod.fst).mem_iff, fun rowId => ?_⟩
  by_cases hmem : tenantId ∈ rows.map Prod.fst
  · obtain ⟨⟨_, ids⟩, hentry, rfl⟩ := List.mem_map.mp hmem
    rw [of_eq h hentry, of_eq ((hperm.map Prod.fst).nodup_iff.mp h) (hperm.mem_iff.mp hentry)]
  · rw [of_eq_nil hmem, of_eq_nil fun hmem' => hmem ((hperm.map Prod.fst).mem_iff.mpr hmem')]

end RowsByTenant

lemma EligibleRows.nodup_of (rows : EligibleRows) (tenantId : Uuid) :
    (rows.entries.of tenantId).Nodup := by
  by_cases hmem : tenantId ∈ rows.entries.map Prod.fst
  · obtain ⟨⟨_, ids⟩, hentry, rfl⟩ := List.mem_map.mp hmem
    rw [RowsByTenant.of_eq rows.unique hentry]
    exact rows.nodup _ hentry
  · rw [RowsByTenant.of_eq_nil hmem]
    exact List.nodup_nil

lemma canonical_eq_iff (rows rows' : EligibleRows) :
    rows.entries.canonical = rows'.entries.canonical ↔ SameRows rows.entries rows'.entries := by
  have hids : ∀ tenantId,
      ((rows.entries.of tenantId).map uuidStr).insertionSort (· ≤ ·) =
          ((rows'.entries.of tenantId).map uuidStr).insertionSort (· ≤ ·) ↔
        ∀ rowId, rowId ∈ rows.entries.of tenantId ↔ rowId ∈ rows'.entries.of tenantId :=
    fun tenantId => List.sorted_map_eq_iff uuidStr_injective (rows.nodup_of tenantId)
      (rows'.nodup_of tenantId)
  have hmem : ∀ (entries : RowsByTenant) tenantId,
      tenantId ∈ (entries.map Prod.fst).insertionSort (fun a b => uuidStr a ≤ uuidStr b) ↔
        tenantId ∈ entries.map Prod.fst := fun entries tenantId => List.mem_insertionSort _
  unfold RowsByTenant.canonical
  constructor
  · intro h tenantId
    have hkeys := congrArg (List.map Prod.fst) h
    rw [List.map_map, List.map_map] at hkeys
    have hkeys := List.map_injective_iff.mpr uuidStr_injective hkeys
    have hkey : tenantId ∈ rows.entries.map Prod.fst ↔ tenantId ∈ rows'.entries.map Prod.fst := by
      rw [← hmem rows.entries, ← hmem rows'.entries, hkeys]
    refine ⟨hkey, fun rowId => ?_⟩
    by_cases hin : tenantId ∈ rows.entries.map Prod.fst
    · rw [hkeys] at h
      have hentry := List.map_inj_left.mp h tenantId
        ((hmem rows'.entries tenantId).mpr (hkey.mp hin))
      exact (hids tenantId).mp (Prod.mk.inj hentry).2 rowId
    · rw [RowsByTenant.of_eq_nil hin, RowsByTenant.of_eq_nil fun hin' => hin (hkey.mpr hin')]
  · intro h
    have hperm : (rows.entries.map Prod.fst).Perm (rows'.entries.map Prod.fst) :=
      (List.perm_ext_iff_of_nodup rows.unique rows'.unique).mpr fun tenantId => (h tenantId).1
    have htotal : Std.Total fun a b : Uuid => uuidStr a ≤ uuidStr b :=
      ⟨fun a b => le_total (uuidStr a) (uuidStr b)⟩
    have htrans : IsTrans Uuid fun a b => uuidStr a ≤ uuidStr b :=
      ⟨fun a b c hab hbc => le_trans hab hbc⟩
    have hkeys : (rows.entries.map Prod.fst).insertionSort (fun a b => uuidStr a ≤ uuidStr b) =
        (rows'.entries.map Prod.fst).insertionSort fun a b => uuidStr a ≤ uuidStr b :=
      List.Perm.eq_of_pairwise
        (fun a b _ _ hab hba => uuidStr_injective (le_antisymm hab hba))
        (List.pairwise_insertionSort _ _) (List.pairwise_insertionSort _ _)
        (((List.perm_insertionSort _ _).trans hperm).trans (List.perm_insertionSort _ _).symm)
    rw [hkeys]
    refine List.map_congr_left fun tenantId _ => ?_
    rw [(hids tenantId).mpr (h tenantId).2]

lemma selfDelimiting_canonical :
    Json.SelfDelimiting (Json.array (Json.pair Json.quote (Json.array Json.quote))) := by
  have hquote : Json.SelfDelimiting (Json.array Json.quote) :=
    Json.selfDelimiting_quote.array (fun s c hc => by cases hc; decide)
      fun s hs => List.cons_ne_nil _ _ hs
  exact (Json.selfDelimiting_quote.pair hquote).array (fun value c hc => by cases hc; decide)
    fun value hs => List.cons_ne_nil _ _ hs

lemma eligibleLedgerDigest_eq_iff {sha256 : String → String} (hsha256 : sha256.Injective)
    (rows rows' : EligibleRows) :
    eligibleLedgerDigest sha256 rows.entries = eligibleLedgerDigest sha256 rows'.entries ↔
      SameRows rows.entries rows'.entries := by
  rw [← canonical_eq_iff]
  refine ⟨fun h => ?_, fun h => by unfold eligibleLedgerDigest; rw [h]⟩
  have htext := String.ofList_injective (hsha256 h)
  exact (selfDelimiting_canonical _ _ [] [] (by rw [List.append_nil, List.append_nil, htext])).1

/-! ## Agreement of the loops -/

section Agreement

variable {tables : RetentionTables} {now : Instant} {decisions : Uuid → RetentionDecision}
  {targets named scope : List Uuid}

lemma RetentionTables.nodup_ledgerRowIds (tables : RetentionTables) (tenantId : Uuid) :
    (tables.ledgerRowIds tenantId).Nodup := by
  unfold RetentionTables.ledgerRowIds
  rw [(List.perm_insertionSort _ _).nodup_iff]
  exact tables.uniqueApplications.filter _

def gathered (tables : RetentionTables) (decisions : Uuid → RetentionDecision) {targets : List Uuid}
    (hnodup : targets.Nodup) : EligibleRows where
  entries := eligibleRows tables decisions targets
  unique := by
    unfold UniqueOn eligibleRows
    rw [List.map_map]
    simpa [Function.comp_def] using hnodup.filter (inRun tables decisions)
  nodup := by
    intro entry hentry
    obtain ⟨tenantId, -, rfl⟩ := List.mem_map.mp hentry
    exact tables.nodup_ledgerRowIds tenantId

lemma inRun_reported (h : Verdicts tables now decisions targets) :
    ∀ tenantId ∈ targets,
      (reported tables decisions tenantId).inRun = inRun tables decisions tenantId := by
  intro tenantId htenant
  rw [Bool.eq_iff_iff, inRun_iff]
  unfold TenantLedgerRetention.inRun reported
  rw [Bool.and_eq_true, decide_eq_true_iff, decide_eq_true_iff]
  constructor
  · rintro ⟨hstatus, hrows⟩
    have heligible : (decisions tenantId).eligible = true := decide_eq_true hstatus
    rw [if_pos (isSome_of_eligible (h tenantId htenant) heligible)] at hrows
    exact ⟨heligible, List.length_pos_iff.mp hrows⟩
  · rintro ⟨heligible, hids⟩
    rw [if_pos (isSome_of_eligible (h tenantId htenant) heligible)]
    exact ⟨of_decide_eq_true heligible, List.length_pos_iff.mpr hids⟩

lemma eligibleLedgerRows_reported (asOf : Instant) (digest : String)
    (h : Verdicts tables now decisions targets) :
    LedgerRetentionReport.eligibleLedgerRows
        ⟨asOf, targets.map (reported tables decisions), digest⟩ =
      (eligibleRows tables decisions targets).total := by
  unfold LedgerRetentionReport.eligibleLedgerRows
  dsimp only
  induction targets with
  | nil => rfl
  | cons tenantId rest ih =>
    have hrest := ih h.tail
    rw [eligibleRows_cons, List.map_cons, List.filter_cons]
    by_cases hstatus : (decisions tenantId).status = .eligible
    · have heligible : (decisions tenantId).eligible = true := decide_eq_true hstatus
      have hreported : decide ((reported tables decisions tenantId).status = .eligible) = true :=
        decide_eq_true hstatus
      have hrows : (reported tables decisions tenantId).ledgerRows =
          (tables.ledgerRowIds tenantId).length :=
        if_pos (isSome_of_eligible h.head heligible)
      rw [if_pos hreported, List.map_cons, List.sum_cons, hrest, hrows]
      unfold RowsByTenant.total
      rw [List.map_append, List.sum_append]
      by_cases hrun : inRun tables decisions tenantId = true
      · simp [hrun]
      · have hids : tables.ledgerRowIds tenantId = [] := by
          by_contra hids
          exact hrun (inRun_iff.mpr ⟨heligible, hids⟩)
        simp [hrun, hids]
    · have hrun : ¬ inRun tables decisions tenantId = true :=
        fun hrun => hstatus (of_decide_eq_true (inRun_iff.mp hrun).1)
      have hreported : ¬ decide ((reported tables decisions tenantId).status = .eligible) = true :=
        fun heligible => hstatus (of_decide_eq_true heligible)
      rw [if_neg hreported, hrest, if_neg hrun, List.nil_append]

section

variable (h : Verdicts tables now decisions named)

include h

lemma filter_inRun_reported :
    (named.map (reported tables decisions)).filter TenantLedgerRetention.inRun =
      (named.filter (inRun tables decisions)).map (reported tables decisions) := by
  rw [List.filter_map]
  exact congrArg _ (List.filter_congr (inRun_reported h))

lemma filter_not_inRun_reported :
    (named.map (reported tables decisions)).filter (fun tenant => !tenant.inRun) =
      (named.filter fun tenantId => !inRun tables decisions tenantId).map
        (reported tables decisions) := by
  rw [List.filter_map]
  refine congrArg _ (List.filter_congr fun tenantId htenant => ?_)
  exact congrArg _ (inRun_reported h tenantId htenant)

lemma ledgerRows_reported :
    ∀ tenantId ∈ named.filter (inRun tables decisions),
      (reported tables decisions tenantId).ledgerRows = (tables.ledgerRowIds tenantId).length := by
  intro tenantId htenant
  obtain ⟨hmem, hrun⟩ := List.mem_filter.mp htenant
  exact if_pos (isSome_of_eligible (h tenantId hmem) (inRun_iff.mp hrun).1)

end

lemma eligibleRows_perm (h : named.Perm targets) :
    (eligibleRows tables decisions named).Perm (eligibleRows tables decisions targets) :=
  (h.filter _).map _

lemma total_eligibleRows (h : named.Perm targets) : (eligibleRows tables decisions named).total =
    (eligibleRows tables decisions targets).total :=
  ((eligibleRows_perm h).map _).sum_eq

variable (sha256 : String → String)

lemma digest_eligibleRows (hnodup : named.Nodup) (h : named.Perm targets) :
    eligibleLedgerDigest sha256 (eligibleRows tables decisions named) =
      eligibleLedgerDigest sha256 (eligibleRows tables decisions targets) := by
  have hcanonical : (eligibleRows tables decisions named).canonical =
      (eligibleRows tables decisions targets).canonical :=
    (canonical_eq_iff (gathered tables decisions hnodup)
      (gathered tables decisions (h.nodup_iff.mp hnodup))).mpr
        (RowsByTenant.sameRows_of_perm (gathered tables decisions hnodup).unique
          (eligibleRows_perm h))
  unfold eligibleLedgerDigest
  rw [hcanonical]

lemma agree_of_verdicts (h : Verdicts tables now decisions named) (hnodup : named.Nodup)
    (hscope : named.Perm scope) (htargets : named.Perm targets) :
    ∃ report state decided, retentionReport sha256 tables named now = some report ∧
      scopeState tables scope now = some state ∧ decideTargets tables targets now = some decided ∧
      Agree sha256 report state decided := by
  have hverdicts : ∀ {other}, named.Perm other → Verdicts tables now decisions other :=
    fun hperm tenantId htenant => h tenantId (hperm.mem_iff.mpr htenant)
  have hreport := reportLoop_eq [] [] h hnodup (by simp)
  have hstate := scopeLoop_eq [] [] (hverdicts hscope)
    (hscope.nodup_iff.mp hnodup) (by simp)
  obtain ⟨decided, hdecided, hrows, heligible, hcounts⟩ :=
    decideLoop_eq ⟨[], [], []⟩ (hverdicts htargets) (htargets.nodup_iff.mp hnodup)
      (by simp)
  simp only [List.nil_append] at hreport hstate hrows heligible
  refine ⟨_, _, decided, by rw [retentionReport, hreport]; rfl, hstate, hdecided,
    ?_, ?_, ?_, ?_, ?_, ?_, ?_⟩
  · dsimp only
    rw [filter_inRun_reported h, List.map_map]
    refine ((eligibleRows_perm hscope).symm.map _).trans (List.Perm.of_eq ?_)
    unfold eligibleRows
    rw [List.map_map]
    exact List.map_congr_left fun tenantId htenant => Prod.ext rfl (ledgerRows_reported h tenantId htenant).symm
  · dsimp only
    rw [filter_not_inRun_reported h, List.map_map]
    refine (hscope.symm.filter _).trans (List.Perm.of_eq ?_)
    exact (List.map_id _).symm
  · dsimp only
    rw [filter_inRun_reported h, heligible, List.map_map, List.map_map]
    refine ((htargets.symm.filter _).map _).trans (List.Perm.of_eq ?_)
    refine List.map_congr_left fun tenantId htenant => ?_
    simp only [Function.comp_apply, ledgerRows_reported h tenantId htenant]
    rfl
  · intro status hstatus
    rw [hcounts status hstatus, ← htargets.countP_eq, List.countP_map]
    exact Nat.zero_add _
  · rw [hrows]
    exact (eligibleRows_perm htargets).symm.trans (eligibleRows_perm hscope)
  · rw [eligibleLedgerRows_reported _ _ h, hrows]
    exact ⟨total_eligibleRows hscope, (total_eligibleRows hscope).symm.trans (total_eligibleRows htargets)⟩
  · rw [hrows]
    exact ⟨digest_eligibleRows sha256 hnodup hscope,
      (digest_eligibleRows sha256 hnodup hscope).symm.trans
        (digest_eligibleRows sha256 hnodup htargets)⟩

end Agreement

/-- **Agreement.**  On the same tenants, named in any order, the report, the scope of a request and the
deletion fail together or agree on what is eligible; and a digest tells the eligible rows. -/
theorem eligibility_agrees (sha256 : String → String) (tables : RetentionTables) (now : Instant)
    {named scope targets : List Uuid} (hnodup : named.Nodup) (hscope : named.Perm scope)
    (htargets : named.Perm targets) :
    ((retentionReport sha256 tables named now = none ∧ scopeState tables scope now = none ∧
        decideTargets tables targets now = none) ∨
      ∃ report state decided, retentionReport sha256 tables named now = some report ∧
        scopeState tables scope now = some state ∧ decideTargets tables targets now = some decided ∧
        Agree sha256 report state decided) ∧
    (sha256.Injective → ∀ rows rows' : EligibleRows,
      eligibleLedgerDigest sha256 rows.entries = eligibleLedgerDigest sha256 rows'.entries ↔
        SameRows rows.entries rows'.entries) := by
  refine ⟨?_, eligibleLedgerDigest_eq_iff⟩
  by_cases hfails : ∃ tenantId ∈ named, verdict tables now tenantId = none
  · have hfails' : ∀ {other}, named.Perm other →
        ∃ tenantId ∈ other, verdict tables now tenantId = none := by
      intro other hperm
      obtain ⟨tenantId, htenant, hnone⟩ := hfails
      exact ⟨tenantId, hperm.mem_iff.mp htenant, hnone⟩
    exact .inl ⟨by rw [retentionReport, reportLoop_none hfails]; rfl,
      scopeLoop_none (hfails' hscope), decideLoop_none (hfails' htargets)⟩
  · have hverdicts : Verdicts tables now
        (fun tenantId => (verdict tables now tenantId).getD (.undated .tenantNotFound)) named := by
      intro tenantId htenant
      cases hverdict : verdict tables now tenantId with
      | none => exact absurd ⟨tenantId, htenant, hverdict⟩ hfails
      | some decision => simp only [hverdict, Option.getD_some]
    exact .inr (agree_of_verdicts sha256 hverdicts hnodup hscope htargets)

def purgedRow (tenantId : Uuid) (createdAt : Instant) : PurgeAuditRow where
  action := "platform.tenant.purge_transition"
  targetTenantId := some tenantId
  outcome := "success"
  systemAuthority := some "tenant_purge"
  entryMetadata := some (.obj (.ofList [("to_status", .str "purged")]))
  createdAt := createdAt

/-- Two purged tenants, the second one on 29 February, with three ledger rows, and a tenant that is
not purged. -/
def threeTenants : RetentionTables where
  tenants := [(1, .purged), (2, .purged), (3, .active)]
  platformAuditLog := [purgedRow 1 0, purgedRow 2 ((PyDatetime.toOrdinal 2024 2 29 - 1) * dayLength)]
  holds := [⟨7, 1, some 5⟩]
  applications := [(21, 1), (12, 2), (11, 1), (13, 3)]
  uniqueApplications := by decide

/-- The rows of the two purged tenants as `json.dumps` writes them. -/
def threeTenantsText : String :=
  "[[\"00000000-0000-0000-0000-000000000001\",[\"00000000-0000-0000-0000-00000000000b\"," ++
    "\"00000000-0000-0000-0000-000000000015\"]]," ++
    "[\"00000000-0000-0000-0000-000000000002\",[\"00000000-0000-0000-0000-00000000000c\"]]]"

/-- The hexadecimal SHA-256 of the text. -/
def threeTenantsDigest : String :=
  "2e75c6a1e3fe6af8bb6dd1c99fd0dba008e78c15f8ca6edbbb48b637f73453ee"

/-- An injective function that is SHA-256 on the text. -/
def sha256OfText : String → String := Equiv.swap threeTenantsText threeTenantsDigest

theorem eligibility_agrees_threeTenants :
    ∃ report state decided,
      retentionReport sha256OfText threeTenants [1, 2, 3]
          ((PyDatetime.toOrdinal 2026 3 1 - 1) * dayLength) = some report ∧
        scopeState threeTenants [1, 2, 3] ((PyDatetime.toOrdinal 2026 3 1 - 1) * dayLength) =
          some state ∧
        decideTargets threeTenants [3, 2, 1] ((PyDatetime.toOrdinal 2026 3 1 - 1) * dayLength) =
          some decided ∧
        report.eligibleDigest = threeTenantsDigest ∧
        Agree sha256OfText report state decided ∧
        ∀ rows rows' : EligibleRows, eligibleLedgerDigest sha256OfText rows.entries =
          eligibleLedgerDigest sha256OfText rows'.entries ↔
            SameRows rows.entries rows'.entries := by
  obtain ⟨hloops, hdigest⟩ := eligibility_agrees sha256OfText threeTenants
    ((PyDatetime.toOrdinal 2026 3 1 - 1) * dayLength) (by decide : [1, 2, 3].Nodup)
    (List.Perm.refl _) (by decide : [1, 2, 3].Perm [3, 2, 1])
  rcases hloops with ⟨-, hnone, -⟩ | ⟨report, state, decided, hreport, hstate, hdecided, hagree⟩
  · exact absurd hnone (by decide +kernel)
  · have heligible : (retentionReport sha256OfText threeTenants [1, 2, 3]
        ((PyDatetime.toOrdinal 2026 3 1 - 1) * dayLength)).map (fun report =>
          report.eligibleDigest) = some threeTenantsDigest := by decide +kernel
    rw [hreport] at heligible
    exact ⟨report, state, decided, hreport, hstate, hdecided, Option.some.inj heligible, hagree,
      hdigest (Equiv.injective _)⟩

end SaasOs.PermissionGrants
