import SaasOs.Schema.Tables
import SaasOs.Foundation.Json
import SaasOs.Foundation.PyDatetime
import Mathlib.Data.String.Basic

/-!
# Digest records

The rows of the two audit tables are digested by windows of their creation times: each row is a line
of canonical JSON, and the lines of a scope are hashed together, for `core.audit_log` by tenant and
for `core.platform_audit_log` as a whole.  A record names the digests of one window and the digest
of the record before.
-/

namespace SaasOs

/-! ## Rows -/

/-- A row of `core.audit_log`; the metadata are the stored text. -/
structure AuditLogRow where
  id : Uuid
  tenantId : Uuid
  actorType : String
  actorUserId : Option Uuid
  actorServiceAccountId : Option Uuid
  actingAsTenantId : Option Uuid
  delegationGrantId : Option Uuid
  supportAccessId : Option Uuid
  action : String
  resourceType : String
  resourceId : Option String
  outcome : String
  correlationId : Option String
  metadata : Option String
  createdAt : Instant

/-- A row of `core.platform_audit_log`. -/
structure PlatformAuditLogRow where
  id : Uuid
  actorType : String
  actorUserId : Option Uuid
  systemAuthority : Option String
  action : String
  targetType : String
  targetId : Option String
  targetTenantId : Option Uuid
  outcome : String
  reason : Option String
  correlationId : Option String
  metadata : Option String
  createdAt : Instant

/-- The columns of a row of `core.audit_log`, in format version 1. -/
def auditLogColumns : List String :=
  ["id", "tenant_id", "actor_type", "actor_user_id", "actor_service_account_id",
    "acting_as_tenant_id", "delegation_grant_id", "support_access_id", "action", "resource_type",
    "resource_id", "outcome", "correlation_id", "metadata", "created_at"]

/-- The columns of a row of `core.platform_audit_log`, in format version 1. -/
def platformAuditLogColumns : List String :=
  ["id", "actor_type", "actor_user_id", "system_authority", "action", "target_type", "target_id",
    "target_tenant_id", "outcome", "reason", "correlation_id", "metadata", "created_at"]

def uuidValue (id : Uuid) : Json := .str (uuidStr id)

def timestampValue (instant : Instant) : Json :=
  .str (PyDatetime.isoformatMicroseconds instant)

def nullable {α : Type} (value : α → Json) : Option α → Json
  | none => .null
  | some a => value a

def AuditLogRow.values (row : AuditLogRow) : List Json :=
  [uuidValue row.id, uuidValue row.tenantId, .str row.actorType, nullable uuidValue row.actorUserId,
    nullable uuidValue row.actorServiceAccountId, nullable uuidValue row.actingAsTenantId,
    nullable uuidValue row.delegationGrantId, nullable uuidValue row.supportAccessId,
    .str row.action, .str row.resourceType, nullable .str row.resourceId, .str row.outcome,
    nullable .str row.correlationId, nullable .str row.metadata, timestampValue row.createdAt]

def PlatformAuditLogRow.values (row : PlatformAuditLogRow) : List Json :=
  [uuidValue row.id, .str row.actorType, nullable uuidValue row.actorUserId,
    nullable .str row.systemAuthority, .str row.action, .str row.targetType,
    nullable .str row.targetId, nullable uuidValue row.targetTenantId, .str row.outcome,
    nullable .str row.reason, nullable .str row.correlationId, nullable .str row.metadata,
    timestampValue row.createdAt]

def canonicalRow (columns : List String) (values : List Json) : String :=
  (Json.obj (.ofList (columns.zip values))).canonical

def AuditLogRow.line (row : AuditLogRow) : String :=
  canonicalRow auditLogColumns row.values

def PlatformAuditLogRow.line (row : PlatformAuditLogRow) : String :=
  canonicalRow platformAuditLogColumns row.values

/-- The tenants and the two audit tables. -/
structure AuditTables where
  tenants : List Uuid
  auditLog : List AuditLogRow
  platformAuditLog : List PlatformAuditLogRow

def CreatedBefore {ρ : Type} (createdAt : ρ → Instant) (id : ρ → Uuid) (a b : ρ) : Prop :=
  createdAt a < createdAt b ∨ (createdAt a = createdAt b ∧ id a ≤ id b)

instance {ρ : Type} (createdAt : ρ → Instant) (id : ρ → Uuid) :
    DecidableRel (CreatedBefore createdAt id) :=
  fun _ _ => inferInstanceAs (Decidable (_ ∨ _))

namespace AuditTables

def tenantIds (tables : AuditTables) : List Uuid :=
  tables.tenants.insertionSort (· ≤ ·)

/-- The rows of one tenant in `[start, end)`, in order, with their creation times. -/
def tenantRows (tables : AuditTables) (tenantId : Uuid) (start finish : Instant) :
    List (Instant × String) :=
  ((tables.auditLog.filter fun row => decide (row.tenantId = tenantId ∧ start ≤ row.createdAt ∧
    row.createdAt < finish)).insertionSort (CreatedBefore AuditLogRow.createdAt AuditLogRow.id)).map
      fun row => (row.createdAt, row.line)

/-- The platform rows in `[start, end)`, in order, with their creation times. -/
def platformRows (tables : AuditTables) (start finish : Instant) : List (Instant × String) :=
  ((tables.platformAuditLog.filter fun row => decide (start ≤ row.createdAt ∧
    row.createdAt < finish)).insertionSort
      (CreatedBefore PlatformAuditLogRow.createdAt PlatformAuditLogRow.id)).map
        fun row => (row.createdAt, row.line)

def earliestRow (tables : AuditTables) : Option Instant :=
  ((tables.tenantIds.flatMap fun tenantId =>
    (tables.auditLog.filter fun row => decide (row.tenantId = tenantId)).map
      AuditLogRow.createdAt) ++
    tables.platformAuditLog.map PlatformAuditLogRow.createdAt).min?

end AuditTables

/-! ## Digests -/

/-- The number of the rows of a scope in a window, and their hash. -/
structure ScopeDigest where
  rows : ℕ
  sha256 : String

namespace ScopeDigest

def toMembers (scope : ScopeDigest) : List (String × Json) :=
  [("rows", .num scope.rows), ("sha256", .str scope.sha256)]

def toJson (scope : ScopeDigest) : Json :=
  .obj (.ofList scope.toMembers)

end ScopeDigest

def joinLines (lines : List String) : String :=
  String.ofList (lines.flatMap fun line => line.toList ++ ['\n'])

def sha256Lines (sha256 : String → String) (lines : List String) : ScopeDigest :=
  ⟨lines.length, sha256 (joinLines lines)⟩

/-- The digests of one window; those of the tenants by their ids. -/
structure WindowDigest where
  windowStart : Instant
  windowEnd : Instant
  tenants : List (String × ScopeDigest)
  platform : ScopeDigest

def WindowDigest.sortedTenants (window : WindowDigest) : List (String × ScopeDigest) :=
  window.tenants.insertionSort fun a b => a.1 ≤ b.1

def WindowDigest.auditLog (sha256 : String → String) (window : WindowDigest) : ScopeDigest :=
  ⟨(window.tenants.map fun entry => entry.2.rows).sum,
    (sha256Lines sha256 (window.sortedTenants.map fun entry =>
      entry.1 ++ ":" ++ toString entry.2.rows ++ ":" ++ entry.2.sha256)).sha256⟩

def bucket (rows : List (Instant × String)) (first : Instant) (width : ℤ) (count : ℕ) :
    List (List String) :=
  (List.range count).map fun index =>
    (rows.filter fun row => decide ((row.1 - first) / width = index)).map Prod.snd

/-- The digests of the contiguous windows `[s, s + width)`, one for each `s`. -/
def computeWindows (sha256 : String → String) (tables : AuditTables) (starts : List Instant)
    (width : ℤ) : List WindowDigest :=
  match starts.head?, starts.getLast? with
  | some first, some last =>
    let platform := bucket (tables.platformRows first (last + width)) first width starts.length
    let tenants := tables.tenantIds.map fun tenantId => (uuidStr tenantId,
      bucket (tables.tenantRows tenantId first (last + width)) first width starts.length)
    starts.zipIdx.map fun (start, index) => {
      windowStart := start
      windowEnd := start + width
      tenants := tenants.filterMap fun (tenant, buckets) =>
        match buckets.getD index [] with
        | [] => none
        | lines => some (tenant, sha256Lines sha256 lines)
      platform := sha256Lines sha256 (platform.getD index []) }
  | _, _ => []

/-! ## Records -/

def recordFormat : String := "saas-os-audit-digest/1"

structure DigestRecord where
  format : String
  windowStart : Instant
  windowEnd : Instant
  auditLog : ScopeDigest
  tenants : List (String × ScopeDigest)
  platformAuditLog : ScopeDigest
  previous : Option String

/-- The record of a window; `previous` is the digest of the record before. -/
def buildRecord (sha256 : String → String) (window : WindowDigest) (previous : Option String) :
    DigestRecord where
  format := recordFormat
  windowStart := window.windowStart
  windowEnd := window.windowEnd
  auditLog := window.auditLog sha256
  tenants := window.sortedTenants
  platformAuditLog := window.platform
  previous := previous

namespace DigestRecord

def toJson (record : DigestRecord) : Json :=
  .obj (.ofList [("format", .str record.format),
    ("window_start", timestampValue record.windowStart),
    ("window_end", timestampValue record.windowEnd),
    ("audit_log", .obj (.ofList (record.auditLog.toMembers ++
      [("tenants", .obj (.ofList (record.tenants.map fun entry =>
        (entry.1, entry.2.toJson))))]))),
    ("platform_audit_log", record.platformAuditLog.toJson),
    ("previous", nullable .str record.previous)])

def digest (sha256 : String → String) (record : DigestRecord) : String :=
  sha256 record.toJson.canonical

end DigestRecord

/-! ## Windows -/

def epoch : Instant := PyDatetime.monthStart (1970, 1)

def floorToWindow (moment : Instant) (width : ℤ) : Instant :=
  epoch + (moment - epoch) / width * width

/-- The tunables, which are checked when they are read. -/
structure AuditDigestConfig where
  windowSeconds : ℕ := 3600
  settleSeconds : ℕ := 900
  maxWindowsPerRun : ℕ := 24
  valid_window : 300 ≤ windowSeconds ∧ 86400 % windowSeconds = 0 := by decide
  valid_settle : 60 ≤ settleSeconds := by decide
  valid_max : 1 ≤ maxWindowsPerRun := by decide

namespace AuditDigestConfig

def window (config : AuditDigestConfig) : ℤ := config.windowSeconds * PyDatetime.second

def settle (config : AuditDigestConfig) : ℤ := config.settleSeconds * PyDatetime.second

lemma window_pos (config : AuditDigestConfig) : 0 < config.window := by
  have hvalid := config.valid_window.1
  unfold window PyDatetime.second
  omega

end AuditDigestConfig

/-- The starts of at most `n` windows that have settled by the clock. -/
def settledStarts (clock width settle : ℤ) : ℕ → Instant → List Instant
  | 0, _ => []
  | n + 1, start =>
    if start + width + settle ≤ clock then
      start :: settledStarts clock width settle n (start + width)
    else []

end SaasOs
