import SaasOs.Schema.Tables
import SaasOs.Foundation.PyDatetime

/-!
# Idempotency records

A row of `core.idempotency_records` reserves one operation of one tenant under a key that the
client chose, and keeps its result.  The key is unique for the tenant and the operation; the
fingerprint tells whether a request that repeats the key is the same request.
-/

namespace SaasOs

open Rows

/-! ## Rows -/

/-- How long records are kept and reservations count as running, in seconds. -/
structure IdempotencyConfig where
  retentionSeconds : ℤ := 24 * 60 * 60
  pendingTtlSeconds : ℤ := 30
  one_le_retention : 1 ≤ retentionSeconds := by decide
  one_le_pendingTtl : 1 ≤ pendingTtlSeconds := by decide

namespace IdempotencyConfig

def pendingTtl (config : IdempotencyConfig) : ℤ :=
  config.pendingTtlSeconds * PyDatetime.second

def expiresAt (config : IdempotencyConfig) (now : Instant) : Instant :=
  now + config.retentionSeconds * PyDatetime.second

lemma pendingTtl_pos (config : IdempotencyConfig) : 0 < config.pendingTtl :=
  mul_pos (by have := config.one_le_pendingTtl; omega) (by decide)

end IdempotencyConfig

/-- `core.idempotency_records.status`. -/
inductive IdempotencyStatus
  | pending
  | succeeded
  | failed
  deriving DecidableEq

/-- What a caller reserves: an operation of a tenant under a key, and the fingerprint of the
request. -/
structure IdempotencyRequest where
  tenantId : Uuid
  operation : String
  idempotencyKey : String
  fingerprint : String
  deriving DecidableEq

/-- A row of `core.idempotency_records`. -/
structure IdempotencyRecord (R : Type) where
  id : Uuid
  tenantId : Uuid
  operation : String
  idempotencyKey : String
  fingerprint : String
  status : IdempotencyStatus
  result : Option R
  expiresAt : Instant
  updatedAt : Instant
  deriving DecidableEq

def IdempotencyRequest.scope (request : IdempotencyRequest) : Uuid × String × String :=
  (request.tenantId, request.operation, request.idempotencyKey)

namespace IdempotencyRecord

variable {R : Type}

def scope (row : IdempotencyRecord R) : Uuid × String × String :=
  (row.tenantId, row.operation, row.idempotencyKey)

def reserved (id : Uuid) (request : IdempotencyRequest) (expiresAt updatedAt : Instant) :
    IdempotencyRecord R where
  id := id
  tenantId := request.tenantId
  operation := request.operation
  idempotencyKey := request.idempotencyKey
  fingerprint := request.fingerprint
  status := .pending
  result := none
  expiresAt := expiresAt
  updatedAt := updatedAt

/-- The row after a write of its status, result and expiry, which stamps `updated_at`; a write that
changes nothing is not made. -/
def written [DecidableEq R] (writtenAt : Instant) (status : IdempotencyStatus) (result : Option R)
    (expiresAt : Instant) (row : IdempotencyRecord R) : IdempotencyRecord R :=
  if row.status = status ∧ row.result = result ∧ row.expiresAt = expiresAt then row
  else
    { row with status := status, result := result, expiresAt := expiresAt, updatedAt := writtenAt }

variable (writtenAt : Instant)

variable (status : IdempotencyStatus)

section

variable (result : Option R) (expiresAt : Instant) (row : IdempotencyRecord R)

include result expiresAt row

@[simp] lemma id_written [DecidableEq R] :
    (row.written writtenAt status result expiresAt).id = row.id := by
  unfold written
  split <;> rfl

@[simp] lemma scope_written [DecidableEq R] :
    (row.written writtenAt status result expiresAt).scope = row.scope := by
  unfold written
  split <;> rfl

@[simp] lemma status_written [DecidableEq R] :
    (row.written writtenAt status result expiresAt).status = status := by
  unfold written
  split
  · next hsame => exact hsame.1
  · rfl

end

end IdempotencyRecord

/-- The table `core.idempotency_records`, with its primary key and its unique key. -/
structure IdempotencyRecords (R : Type) where
  rows : List (IdempotencyRecord R)
  unique_id : UniqueOn rows IdempotencyRecord.id
  unique_scope : UniqueOn rows IdempotencyRecord.scope

/-! ## The transactions -/

namespace IdempotencyRecords

variable {R : Type}

def existing? (records : IdempotencyRecords R) (request : IdempotencyRequest) :
    Option (IdempotencyRecord R) :=
  records.rows.find? fun row => row.scope == request.scope

def get? (records : IdempotencyRecords R) (tenantId recordId : Uuid) :
    Option (IdempotencyRecord R) :=
  records.rows.find? fun row => row.id == recordId && row.tenantId == tenantId

/-- Insert a reservation; `none` where the insertion raises `IntegrityError`. -/
def insert (records : IdempotencyRecords R) (row : IdempotencyRecord R) :
    Option (IdempotencyRecords R) :=
  if h : ∀ other ∈ records.rows, other.id ≠ row.id ∧ other.scope ≠ row.scope then
    some
      { rows := records.rows ++ [row]
        unique_id := records.unique_id.concat fun other hother => (h other hother).1
        unique_scope := records.unique_scope.concat fun other hother => (h other hother).2 }
  else
    none

def update (records : IdempotencyRecords R) (recordId : Uuid)
    (f : IdempotencyRecord R → IdempotencyRecord R) (hid : ∀ row, (f row).id = row.id)
    (hscope : ∀ row, (f row).scope = row.scope) : IdempotencyRecords R where
  rows := records.rows.map fun row => if row.id = recordId then f row else row
  unique_id := records.unique_id.map_of_key fun row => by
    split
    · exact hid row
    · rfl
  unique_scope := records.unique_scope.map_of_key fun row => by
    split
    · exact hscope row
    · rfl

def delete (records : IdempotencyRecords R) (p : IdempotencyRecord R → Bool) :
    IdempotencyRecords R where
  rows := records.rows.filter fun row => !p row
  unique_id := records.unique_id.filter _
  unique_scope := records.unique_scope.filter _

end IdempotencyRecords

/-- What the existing record says to a caller that could not reserve its key. -/
inductive ExistingRecord (R : Type)
  | noResultFound
  | keyReused
  | replay (recordId : Uuid) (result : R)
  | inProgress
  /-- The earlier attempt failed, or was abandoned. -/
  | retryable (existing : IdempotencyRecord R)

section Transactions

variable {R : Type}

def reserve (config : IdempotencyConfig) (request : IdempotencyRequest) (recordId : Uuid)
    (now writtenAt : Instant) (records : IdempotencyRecords R) : Option (IdempotencyRecords R) :=
  records.insert (.reserved recordId request (config.expiresAt now) writtenAt)

/-- The second transaction, after the insertion failed: the existing record is read, and judged at
the instant the call began. -/
def judgeExisting [EmptyCollection R] (config : IdempotencyConfig) (request : IdempotencyRequest)
    (now : Instant) (records : IdempotencyRecords R) : ExistingRecord R :=
  match records.existing? request with
  | none => .noResultFound
  | some existing =>
    if existing.fingerprint ≠ request.fingerprint then .keyReused
    else
      match existing.status with
      | .succeeded => .replay existing.id (existing.result.getD ∅)
      | .pending =>
        if now - existing.updatedAt < config.pendingTtl then .inProgress else .retryable existing
      | .failed => .retryable existing

/-- The third transaction: a record that may be retried becomes pending again; `none` where the
record is gone and the assertion fails. -/
def resetToPending [DecidableEq R] (config : IdempotencyConfig) (request : IdempotencyRequest)
    (recordId : Uuid) (now writtenAt : Instant) (records : IdempotencyRecords R) :
    Option (IdempotencyRecords R) :=
  (records.get? request.tenantId recordId).map fun _ =>
    records.update recordId
      (fun row => row.written writtenAt .pending row.result (config.expiresAt now))
      (fun row => row.id_written writtenAt _ _ _) (fun row => row.scope_written writtenAt _ _ _)

def finalizeIdempotentOperation [DecidableEq R] (tenantId recordId : Uuid)
    (status : IdempotencyStatus) (result : Option R) (writtenAt : Instant)
    (records : IdempotencyRecords R) :
    IdempotencyRecords R :=
  match records.get? tenantId recordId with
  | none => records
  | some _ =>
    records.update recordId (fun row => row.written writtenAt status result row.expiresAt)
      (fun row => row.id_written writtenAt _ _ _) (fun row => row.scope_written writtenAt _ _ _)

end Transactions

def purgeExpiredIdempotencyRecords {R : Type} (tenantId : Uuid) (now : Instant)
    (records : IdempotencyRecords R) : IdempotencyRecords R :=
  records.delete fun row => row.tenantId == tenantId && decide (row.expiresAt < now)

def purgeTenantIdempotencyRecords {R : Type} (tenantId : Uuid) (records : IdempotencyRecords R) :
    IdempotencyRecords R :=
  records.delete fun row => row.tenantId == tenantId

/-! ## What the transactions do -/

namespace IdempotencyRecords

variable {R : Type} {records records' : IdempotencyRecords R} {row : IdempotencyRecord R}

lemma existing?_eq_some {request : IdempotencyRequest} :
    records.existing? request = some row ↔ row ∈ records.rows ∧ row.scope = request.scope := by
  have hone : AtMostOne records.rows fun row => row.scope == request.scope :=
    records.unique_scope.atMostOne (k := request.scope) fun r hr => by simpa using hr
  unfold existing?
  rw [find?_eq_some_iff hone, beq_iff_eq]

lemma insert_eq_some (h : records.insert row = some records') :
    records'.rows = records.rows ++ [row] ∧
      ∀ other ∈ records.rows, other.id ≠ row.id ∧ other.scope ≠ row.scope := by
  unfold insert at h
  split at h
  · next hnew =>
    cases h
    exact ⟨rfl, hnew⟩
  · cases h

lemma mem_update {recordId : Uuid} {f : IdempotencyRecord R → IdempotencyRecord R}
    {hid : ∀ row, (f row).id = row.id} {hscope : ∀ row, (f row).scope = row.scope} :
    row ∈ (records.update recordId f hid hscope).rows ↔
      (∃ row₀ ∈ records.rows, row₀.id = recordId ∧ row = f row₀) ∨
        (row ∈ records.rows ∧ row.id ≠ recordId) := by
  unfold update
  rw [List.mem_map]
  constructor
  · rintro ⟨row₀, hrow₀, rfl⟩
    split
    · next hid => exact .inl ⟨row₀, hrow₀, hid, rfl⟩
    · next hid => exact .inr ⟨hrow₀, hid⟩
  · rintro (⟨row₀, hrow₀, hid, rfl⟩ | ⟨hrow, hid⟩)
    · exact ⟨row₀, hrow₀, if_pos hid⟩
    · exact ⟨row, hrow, if_neg hid⟩

lemma mem_delete_of_kept (hrow : row ∈ records.rows) {p : IdempotencyRecord R → Bool}
    (hkept : ∃ kept ∈ (records.delete p).rows, kept.id = row.id) :
    row ∈ (records.delete p).rows := by
  obtain ⟨kept, hmem, hid⟩ := hkept
  have heq : kept = row :=
    records.unique_id.eq_of_key_eq (List.mem_of_mem_filter hmem) hrow hid
  exact heq ▸ hmem

end IdempotencyRecords

def IdempotencyRecord.Retryable {R : Type} (config : IdempotencyConfig) (now : Instant)
    (row : IdempotencyRecord R) : Prop :=
  row.status = .failed ∨ (row.status = .pending ∧ row.updatedAt + config.pendingTtl ≤ now)

variable {R : Type} {config : IdempotencyConfig} {request : IdempotencyRequest}

variable {now : Instant} {records : IdempotencyRecords R}

lemma judgeExisting_eq_retryable [EmptyCollection R] {existing : IdempotencyRecord R}
    (h : judgeExisting config request now records = .retryable existing) :
    existing ∈ records.rows ∧ existing.scope = request.scope ∧
      existing.Retryable config now := by
  unfold judgeExisting at h
  split at h
  · cases h
  · next row hrow =>
    obtain ⟨hmem, hscope⟩ := IdempotencyRecords.existing?_eq_some.mp hrow
    split at h
    · cases h
    · split at h
      · cases h
      · next hpending =>
        split at h
        · cases h
        · next hage =>
          cases h
          exact ⟨hmem, hscope, .inr ⟨hpending, by linarith⟩⟩
      · next hfailed =>
        cases h
        exact ⟨hmem, hscope, .inl hfailed⟩

variable {row : IdempotencyRecord R}

lemma judgeExisting_of_succeeded [EmptyCollection R] (hrow : row ∈ records.rows)
    (hscope : row.scope = request.scope) (hfingerprint : row.fingerprint = request.fingerprint)
    (hsucceeded : row.status = .succeeded) :
    judgeExisting config request now records = .replay row.id (row.result.getD ∅) := by
  have hexisting := IdempotencyRecords.existing?_eq_some.mpr ⟨hrow, hscope⟩
  simp [judgeExisting, hexisting, hfingerprint, hsucceeded]

lemma reserve_eq_none (hrow : row ∈ records.rows) (hscope : request.scope = row.scope)
    (recordId : Uuid) (now writtenAt : Instant) :
    reserve config request recordId now writtenAt records = none := by
  unfold reserve IdempotencyRecords.insert
  rw [dif_neg]
  intro hnew
  exact (hnew row hrow).2 hscope.symm

variable {writtenAt : Instant}

lemma mem_resetToPending_of_ne [DecidableEq R] {recordId : Uuid}
    {records records' : IdempotencyRecords R}
    (h : resetToPending config request recordId now writtenAt records = some records')
    (hrow : row ∈ records.rows) (hne : row.id ≠ recordId) :
    row ∈ records'.rows := by
  unfold resetToPending at h
  obtain ⟨existing, -, rfl⟩ := Option.map_eq_some_iff.mp h
  exact IdempotencyRecords.mem_update.mpr (.inr ⟨hrow, hne⟩)

lemma mem_finalize_of_ne [DecidableEq R] {tenantId recordId : Uuid} {status : IdempotencyStatus}
    {result : Option R} (hrow : row ∈ records.rows) (hne : row.id ≠ recordId) :
    row ∈ (finalizeIdempotentOperation tenantId recordId status result writtenAt records).rows := by
  unfold finalizeIdempotentOperation
  split
  · exact hrow
  · exact IdempotencyRecords.mem_update.mpr (.inr ⟨hrow, hne⟩)

end SaasOs
