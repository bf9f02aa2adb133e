import SaasOs.Authority.Caller
import SaasOs.Foundation.LockedRead
import Mathlib.Data.List.Sort

/-!
# Reading the tenant registry

The lifecycle predicates of a tenant status and the reads of `core.tenants` and
`core.tenant_ancestry` that other operations rely on.  A read with the prefix `lock` keeps the rows
it returns locked `FOR SHARE` until its transaction ends; it answers in `LockedRead`, which records
those rows.
-/

namespace SaasOs

inductive RowKey
  | tenant (id : Uuid)
  | tenantAncestry (tenantId ancestorId : Uuid)
  | user (id : Uuid)
  | tenantMembership (id : Uuid)
  | serviceAccount (id : Uuid)
  | rolePermission (id : Uuid)
  | membershipRole (id : Uuid)
  | serviceAccountRole (id : Uuid)
  | delegationGrant (id : Uuid)
  | supportAccessRequest (id : Uuid)
  | platformOperator (id : Uuid)
  | platformGrant (id : Uuid)
  deriving DecidableEq

abbrev Locked (α : Type) := LockedRead RowKey α

/-- The body of a transaction on the registry. -/
abbrev Transaction (α : Type) := LockedExcept ServiceError RowKey α

/-! ## Lifecycle -/

namespace TenantStatus

def isClosed : TenantStatus → Bool
  | deleted | purging | purged => true
  | pending | active | suspended => false

def isAccessibleToPrincipals : TenantStatus → Bool
  | pending | active => true
  | suspended | deleted | purging | purged => false

def allowedTransitions : TenantStatus → List TenantStatus
  | pending => [active, deleted]
  | active => [suspended, deleted]
  | suspended => [active, deleted]
  | deleted => [purging]
  | purging => [purged]
  | purged => []

lemma not_isClosed_of_isAccessibleToPrincipals {status : TenantStatus}
    (h : status.isAccessibleToPrincipals = true) : status.isClosed = false := by
  cases status <;> simp_all [isAccessibleToPrincipals, isClosed]

end TenantStatus

def validateTransition (current target : TenantStatus) : Result Unit :=
  require (current.allowedTransitions.contains target) (.invalidTenantTransition current target)

namespace Tables

/-! ## Tenants -/

def tenant? (db : Tables) (tenantId : Uuid) : Option Tenant :=
  db.tenants.find? fun row => row.id == tenantId

variable {db : Tables} {tenantId : Uuid} {tenant : Tenant}

lemma tenant?_eq_some (h : db.tenant? tenantId = some tenant) :
    tenant ∈ db.tenants ∧ tenant.id = tenantId := by
  unfold tenant? at h
  have hid := List.find?_some h
  exact ⟨List.mem_of_find?_eq_some h, by simpa using hid⟩

lemma isSome_tenant?_iff :
    (db.tenant? tenantId).isSome = true ↔ tenantId ∈ db.tenants.map Tenant.id := by
  unfold tenant?
  rw [List.find?_isSome]
  simp

def getTenant (db : Tables) (tenantId : Uuid) : Result Tenant :=
  match db.tenant? tenantId with
  | none => .error (.tenantNotFound tenantId)
  | some tenant => .ok tenant

lemma getTenant_eq_ok :
    db.getTenant tenantId = .ok tenant ↔ db.tenant? tenantId = some tenant := by
  unfold getTenant
  cases db.tenant? tenantId <;> simp

def requireOpenTenant (db : Tables) (tenantId : Uuid) : Result Tenant := do
  let tenant ← db.getTenant tenantId
  if tenant.status.isClosed then
    .error (.tenantClosed tenantId tenant.status)
  else
    return tenant

/-- The row of a tenant, locked `FOR SHARE`. -/
def lockTenant (db : Tables) (tenantId : Uuid) : Locked (Option Tenant) :=
  match db.tenant? tenantId with
  | none => .reading [] none
  | some tenant => .reading [.tenant tenant.id] (some tenant)

@[simp] lemma val_lockTenant (db : Tables) (tenantId : Uuid) :
    (db.lockTenant tenantId).val = db.tenant? tenantId := by
  unfold lockTenant
  cases db.tenant? tenantId <;> rfl

def lockOpenTenant (db : Tables) (tenantId : Uuid) : Locked (Result Tenant) := do
  match ← db.lockTenant tenantId with
  | none => return .error (.tenantNotFound tenantId)
  | some tenant =>
    if tenant.status.isClosed then
      return .error (.tenantClosed tenantId tenant.status)
    else
      return .ok tenant

lemma val_lockOpenTenant_eq_ok (h : (db.lockOpenTenant tenantId).val = .ok tenant) :
    db.tenant? tenantId = some tenant ∧ tenant.status.isClosed = false := by
  unfold lockOpenTenant at h
  rw [LockedRead.val_bind, val_lockTenant] at h
  cases hfind : db.tenant? tenantId with
  | none => rw [hfind] at h; cases h
  | some row =>
    rw [hfind, LockedRead.val_ite] at h
    split at h
    · cases h
    · next hopen =>
      cases h
      exact ⟨rfl, Bool.eq_false_iff.mpr hopen⟩

def lockAccessibleTenant (db : Tables) (tenantId : Uuid) : Locked (Result Tenant) := do
  match ← db.lockTenant tenantId with
  | none => return .error (.tenantNotFound tenantId)
  | some tenant =>
    if tenant.status.isAccessibleToPrincipals then
      return .ok tenant
    else
      return .error (.tenantInaccessible tenantId tenant.status)

def whenAccessible (db : Tables) (tenantId : Uuid) (query : Locked Bool) : Locked Bool := do
  match ← db.lockAccessibleTenant tenantId with
  | .error _ => return false
  | .ok _ => query

def whenOpen (db : Tables) (tenantId : Uuid) (query : Locked Bool) : Locked Bool := do
  match ← db.lockOpenTenant tenantId with
  | .error _ => return false
  | .ok _ => query

/-- Is the tenant registered in a status that satisfies `p`? -/
def tenantStatusIs (db : Tables) (p : TenantStatus → Bool) (tenantId : Uuid) : Bool :=
  (db.tenant? tenantId).any fun tenant => p tenant.status

lemma isOk_lockAccessibleTenant (db : Tables) (tenantId : Uuid) :
    (db.lockAccessibleTenant tenantId).val.isOk =
      db.tenantStatusIs TenantStatus.isAccessibleToPrincipals tenantId := by
  unfold lockAccessibleTenant tenantStatusIs
  rw [LockedRead.val_bind, val_lockTenant]
  cases db.tenant? tenantId with
  | none => rfl
  | some tenant =>
    rw [LockedRead.val_ite, Option.any_some]
    split
    · next h => rw [h]; rfl
    · next h => rw [Bool.eq_false_iff.mpr h]; rfl

lemma isOk_lockOpenTenant (db : Tables) (tenantId : Uuid) :
    (db.lockOpenTenant tenantId).val.isOk =
      db.tenantStatusIs (fun status => !status.isClosed) tenantId := by
  unfold lockOpenTenant tenantStatusIs
  rw [LockedRead.val_bind, val_lockTenant]
  cases db.tenant? tenantId with
  | none => rfl
  | some tenant =>
    rw [LockedRead.val_ite, Option.any_some]
    split
    · next h => simp [h, Except.isOk, Except.toBool]
    · next h => simp [h, Except.isOk, Except.toBool]

lemma val_whenAccessible (db : Tables) (tenantId : Uuid) (query : Locked Bool) :
    (db.whenAccessible tenantId query).val = true ↔
      db.tenantStatusIs TenantStatus.isAccessibleToPrincipals tenantId = true ∧
        query.val = true := by
  unfold whenAccessible
  rw [LockedRead.val_bind, ← isOk_lockAccessibleTenant]
  cases (db.lockAccessibleTenant tenantId).val <;> simp [Except.isOk, Except.toBool]

lemma val_whenOpen (db : Tables) (tenantId : Uuid) (query : Locked Bool) :
    (db.whenOpen tenantId query).val = true ↔
      db.tenantStatusIs (fun status => !status.isClosed) tenantId = true ∧ query.val = true := by
  unfold whenOpen
  rw [LockedRead.val_bind, ← isOk_lockOpenTenant]
  cases (db.lockOpenTenant tenantId).val <;> simp [Except.isOk, Except.toBool]

/-! ## Ancestry -/

def ancestryOf (db : Tables) (tenantId : Uuid) : List TenantAncestry :=
  db.tenantAncestry.filter fun row => row.tenantId == tenantId

def subtreeOf (db : Tables) (tenantId : Uuid) : List TenantAncestry :=
  db.tenantAncestry.filter fun row => row.ancestorId == tenantId

/-- The ancestors of a tenant, the tenant itself included, with their ancestry rows locked. -/
def lockAncestorIds (db : Tables) (tenantId : Uuid) : Locked (List Uuid) :=
  .reading ((db.ancestryOf tenantId).map fun row => .tenantAncestry row.tenantId row.ancestorId)
    ((db.ancestryOf tenantId).map TenantAncestry.ancestorId)

@[simp] lemma val_lockAncestorIds (db : Tables) (tenantId : Uuid) :
    (db.lockAncestorIds tenantId).val = (db.ancestryOf tenantId).map TenantAncestry.ancestorId :=
  rfl

@[simp] lemma mem_ancestryOf {row : TenantAncestry} :
    row ∈ db.ancestryOf tenantId ↔ row ∈ db.tenantAncestry ∧ row.tenantId = tenantId := by
  simp [ancestryOf]

@[simp] lemma mem_subtreeOf {row : TenantAncestry} :
    row ∈ db.subtreeOf tenantId ↔ row ∈ db.tenantAncestry ∧ row.ancestorId = tenantId := by
  simp [subtreeOf]

def nearestFirst (a b : TenantAncestry) : Prop :=
  a.depth < b.depth ∨ (a.depth = b.depth ∧ a.tenantId ≤ b.tenantId)

instance : DecidableRel nearestFirst := fun _ _ =>
  inferInstanceAs (Decidable (_ ∨ _))

def descendantIdsByDepth (db : Tables) (tenantId : Uuid) : List Uuid :=
  (((db.subtreeOf tenantId).filter fun row => row.tenantId != tenantId).insertionSort
    nearestFirst).map TenantAncestry.tenantId

/-- `a` is recorded as a strict ancestor of `t`. -/
def IsStrictAncestor (db : Tables) (a t : Uuid) : Prop :=
  a ≠ t ∧ ∃ row ∈ db.tenantAncestry, row.tenantId = t ∧ row.ancestorId = a

lemma isStrictAncestor_iff_mem {a t : Uuid} :
    db.IsStrictAncestor a t ↔ a ≠ t ∧ a ∈ (db.lockAncestorIds t).val := by
  simp [IsStrictAncestor, and_assoc]

lemma mem_descendantIdsByDepth {a t : Uuid} :
    t ∈ db.descendantIdsByDepth a ↔ db.IsStrictAncestor a t := by
  unfold descendantIdsByDepth IsStrictAncestor
  simp only [List.mem_map, List.mem_insertionSort, List.mem_filter, mem_subtreeOf, bne_iff_ne]
  constructor
  · rintro ⟨row, ⟨⟨hrow, ha⟩, hne⟩, rfl⟩
    exact ⟨fun h => hne h.symm, row, hrow, rfl, ha⟩
  · rintro ⟨hne, row, hrow, rfl, ha⟩
    exact ⟨row, ⟨⟨hrow, ha⟩, fun h => hne h.symm⟩, rfl⟩

end Tables

end SaasOs
