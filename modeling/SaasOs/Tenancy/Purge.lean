import SaasOs.Tenancy.Lifecycle

/-!
# The purge of a tenant, as far as its own row is concerned

A purge enters the purge phase in one transaction and leaves it in another one; the steps between
them delete rows of other tables.  The first transaction refuses a tenant that has children which
are not purged themselves, and the last one replaces the name of the tenant by its tombstone name.
-/

namespace SaasOs

def tombstoneName (tenantId : Uuid) : String :=
  "purged-" ++ uuidStr tenantId

namespace Tables

def liveChildren (db : Tables) (tenantId : Uuid) : List Uuid :=
  (db.tenants.filter fun row =>
    row.parentId == some tenantId && decide (row.status ≠ .purged)).map Tenant.id

def setTombstone (db : Tables) (tenantId : Uuid) : Tables :=
  { db with
    tenants := db.tenants.map fun row =>
      if row.id = tenantId then { row with name := tombstoneName tenantId, status := .purged }
      else row }

/-- The row of the tenant to be purged, for an authorized caller; locked `FOR UPDATE`. -/
def readPurgedTenant (db : Tables) (tenantId : Uuid) (caller : Caller) : Result Tenant := do
  (db.authorizePlatformCaller caller .tenantPurgeTransition).val
  db.getTenant tenantId

def requireNoLiveChildren (db : Tables) (tenantId : Uuid) : Result Unit :=
  require (db.liveChildren tenantId).isEmpty
    (.tenantHasDescendants tenantId (db.liveChildren tenantId))

/-- The row of the parent of a tenant to be created, locked `FOR SHARE`, after the checks of the
request. -/
def readParentToAttach (db : Tables) (name : String) (parentId : Option Uuid) (caller : Caller) :
    Result (Option Tenant) := do
  let operation : PlatformOperation :=
    if parentId.isNone then .tenantCreateRoot else .tenantCreateChild
  requireLifecycleCaller operation.key caller
  require (!PyString.hasControlCharacter name)
    (.invalidPlatformRequest "name must not contain control characters.")
  db.parentToAttach parentId

/-- The row of the tenant to be moved, locked `FOR SHARE`, for an authorized caller. -/
def readMovedTenant (db : Tables) (tenantId : Uuid) (caller : Caller) (reason : Option String) :
    Result Tenant := do
  requireLifecycleCaller PlatformOperation.tenantMove.key caller
  let _ ← validatedReason reason
  (db.authorizePlatformCaller caller .tenantMove).val
  (db.lockOpenTenant tenantId).val

/-- What a transition establishes before its transaction: the reason and the operations that the
request can mean. -/
def admitTransition (db : Tables) (tenantId : Uuid) (target : TenantStatus) (caller : Caller)
    (reason : Option String) (expectedOperation : Option PlatformOperation) (selfService : Bool) :
    Result (Option String × List PlatformOperation) := do
  requireLifecycleCaller "tenant.transition" caller
  let reason ← validatedReason reason
  let candidates ← requestedOperations target expectedOperation selfService
  require (db.passesTransitionGate caller candidates tenantId selfService)
    (candidatesRefusal candidates)
  return (reason, candidates)

end Tables

def foundTenant (tenantId : Uuid) : Option Tenant → Result Tenant
  | none => .error (.tenantNotFound tenantId)
  | some tenant => .ok tenant

namespace Database

def attachTenant (config : TenancyConfig) (db : Database) (tenantId : Uuid) (name : String)
    (parentId : Option Uuid) (caller : Caller) (parent : Option Tenant) :
    Result (Database × Tenant) := do
  let operation : PlatformOperation :=
    if parentId.isNone then .tenantCreateRoot else .tenantCreateChild
  (db.authorizePlatformCaller caller operation).val
  applyParentRuleTo operation.key caller parent
  let tenant : Tenant := ⟨tenantId, name, .pending, parentId⟩
  let inserted ← flush .integrityError { db.toTables with tenants := db.tenants ++ [tenant] }
  let ancestry ← db.newTenantAncestry config tenantId parentId
  let created ← flush .integrityError
    { inserted.toTables with tenantAncestry := inserted.tenantAncestry ++ ancestry }
  return (created, tenant)

def reparentTenant (config : TenancyConfig) (db : Database) (now : Instant) (tenantId : Uuid)
    (newParentId : Option Uuid) (tenant : Tenant) (newParent : Option Tenant) : Result Database :=
  if tenant.parentId = newParentId then
    .ok db
  else do
    Tables.refuseSuspendedParent newParent
    db.rewriteHierarchy config now tenantId newParentId

/-- The transition, once the row is read; `before` is the state the guard was taken in. -/
def transitionTenantRow (config : TenancyConfig) (db before : Database) (now : Instant)
    (newId tenantId : Uuid) (target : TenantStatus) (caller : Caller)
    (expectedOperation : Option PlatformOperation) (selfService : Bool) (row : Option Tenant)
    (admitted : Option String × List PlatformOperation) : Result Database :=
  match admitted.2 with
  | [requested] => do
    let session ←
      db.authorizeTransition config newId caller requested tenantId admitted.1 selfService
    let tenant ← foundTenant tenantId row
    validateTransition tenant.status target
    let operation ← transitionOperation tenant.status target
    require (expectedOperation.all fun expected => expected == operation)
      (.invalidTenantTransition tenant.status target)
    before.applyTransition session now tenantId target
  | candidates => do
    let tenant ← db.disclosing caller candidates (foundTenant tenantId row)
    db.disclosing caller candidates (validateTransition tenant.status target)
    let operation ← transitionOperation tenant.status target
    let session ← db.authorizeTransition config newId caller operation tenantId admitted.1 false
    before.applyTransition session now tenantId target

def enterPurging (db : Database) (tenant : Tenant) : Result Database :=
  if tenant.status = .purging then
    .ok db
  else do
    validateTransition tenant.status .purging
    flush .integrityError (db.setTenantStatus tenant.id .purging)

def leavePurging (db : Database) (tenant : Tenant) : Result Database :=
  if tenant.status = .purged then
    .ok db
  else do
    validateTransition tenant.status .purged
    flush .integrityError (db.setTombstone tenant.id)

end Database

end SaasOs
