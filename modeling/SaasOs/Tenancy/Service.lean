import SaasOs.Platform.Authorization
import SaasOs.Rbac.Administrators

/-!
# Creating and moving tenants

The writes of the tenant hierarchy.  `createTenant` inserts a tenant and its ancestry rows, and
`moveTenant` re-parents a whole subtree and rewrites the ancestry rows that the move invalidates.
Each of them is one transaction: it returns the committed database or an error, and an error commits
nothing.
-/

namespace SaasOs

structure TenancyConfig where
  maxHierarchyDepth : ℕ := 6
  platformTenantId : Option Uuid := none
  one_le_maxHierarchyDepth : 1 ≤ maxHierarchyDepth := by decide

def requireLifecycleCaller (operation : String) (caller : Caller) : Result Unit :=
  refuseServiceAccount operation caller

def applyParentRule (operation : String) (caller : Caller) (parentId : Uuid)
    (parentStatus : TenantStatus) : Result Unit :=
  match parentStatus, caller with
  | .deleted, _ | .purging, _ | .purged, _ => .error (.tenantClosed parentId parentStatus)
  | .pending, _ => .ok ()
  | .suspended, _ =>
    .error (.tenantParentRule operation parentId parentStatus "parent_suspended")
  | .active, .system _ =>
    .error (.tenantParentRule operation parentId parentStatus "parent_active_requires_operator")
  | .active, _ => .ok ()

def applyParentRuleTo (operation : String) (caller : Caller) : Option Tenant → Result Unit
  | none => .ok ()
  | some parent => applyParentRule operation caller parent.id parent.status

namespace Tables

/-- The greatest depth of some ancestry rows; Python's `max` of nothing raises. -/
def maxDepth (rows : List TenantAncestry) : Result ℕ :=
  match (rows.map TenantAncestry.depth).max? with
  | none => .error .emptyMaximum
  | some depth => .ok depth

def callerIsMemberOfAny (db : Tables) (caller : Caller) (tenantIds : List Uuid) : Bool :=
  match caller with
  | .user userId =>
    tenantIds.any fun tenantId => db.tenantMemberships.any fun row =>
      row.tenantId == tenantId && row.userId == userId && decide (row.status ≠ .revoked)
  | _ => false

def setParent (db : Tables) (tenantId : Uuid) (parentId : Option Uuid) : Tables :=
  { db with
    tenants := db.tenants.map fun row =>
      if row.id = tenantId then { row with parentId := parentId } else row }

def setTenantStatus (db : Tables) (tenantId : Uuid) (status : TenantStatus) : Tables :=
  { db with
    tenants := db.tenants.map fun row =>
      if row.id = tenantId then { row with status := status } else row }

/-! ## Creation -/

def parentToAttach (db : Tables) : Option Uuid → Result (Option Tenant)
  | none => .ok none
  | some parentId => some <$> db.getTenant parentId

def newTenantAncestry (config : TenancyConfig) (db : Tables) (tenantId : Uuid) :
    Option Uuid → Result (List TenantAncestry)
  | none => .ok [⟨tenantId, tenantId, 0⟩]
  | some parentId => do
    let parentAncestry := db.ancestryOf parentId
    let resultingDepth := (← maxDepth parentAncestry) + 1
    require (resultingDepth ≤ config.maxHierarchyDepth)
      (.tenantHierarchyDepthExceeded tenantId resultingDepth config.maxHierarchyDepth)
    return ⟨tenantId, tenantId, 0⟩ ::
      parentAncestry.map fun row => ⟨tenantId, row.ancestorId, row.depth + 1⟩

/-! ## Moves -/

def isBridgeRow (subtreeIds : List Uuid) (row : TenantAncestry) : Bool :=
  subtreeIds.contains row.tenantId && !subtreeIds.contains row.ancestorId

def deleteBridgeRows (db : Tables) (subtreeIds : List Uuid) : Tables :=
  { db with tenantAncestry := db.tenantAncestry.filter fun row => !isBridgeRow subtreeIds row }

def newBridgeRows (newParentAncestry subtree : List TenantAncestry) : List TenantAncestry :=
  newParentAncestry.flatMap fun parentRow => subtree.map fun node =>
    ⟨node.tenantId, parentRow.ancestorId, parentRow.depth + 1 + node.depth⟩

/-- What a move checks about the new parent: it is open, it is not in the moved subtree, and the
caller is not a member of it or of one of its ancestors. -/
def checkNewParent (db : Tables) (caller : Caller) (tenantId : Uuid) :
    Option Uuid → Result (Option Tenant)
  | none => .ok none
  | some newParentId => do
    let newParent ← (db.lockOpenTenant newParentId).val
    require (!db.tenantAncestry.any fun row =>
        row.ancestorId == tenantId && row.tenantId == newParentId)
      (.tenantCycle tenantId newParentId)
    require (!db.callerIsMemberOfAny caller (db.lockAncestorIds newParentId).val)
      (.moveIntoCallerHierarchy PlatformOperation.tenantMove.key newParentId)
    return some newParent

def refuseSuspendedParent : Option Tenant → Result Unit
  | none => .ok ()
  | some newParent =>
    require (newParent.status ≠ .suspended)
      (.tenantParentRule PlatformOperation.tenantMove.key newParent.id newParent.status
        "parent_suspended")

def depthBelowNewParent (db : Tables) : Option Uuid → Result ℕ
  | none => .ok 0
  | some newParentId => do return (← maxDepth (db.ancestryOf newParentId)) + 1

def newParentAncestry (db : Tables) : Option Uuid → List TenantAncestry
  | none => []
  | some newParentId => db.ancestryOf newParentId

end Tables

namespace Database

def createTenant (config : TenancyConfig) (db : Database) (tenantId : Uuid) (name : String)
    (parentId : Option Uuid) (caller : Caller) : Result (Database × Tenant) := do
  let operation : PlatformOperation :=
    if parentId.isNone then .tenantCreateRoot else .tenantCreateChild
  requireLifecycleCaller operation.key caller
  require (!PyString.hasControlCharacter name)
    (.invalidPlatformRequest "name must not contain control characters.")
  let parent ← db.parentToAttach parentId
  (db.authorizePlatformCaller caller operation).val
  applyParentRuleTo operation.key caller parent
  let tenant : Tenant := ⟨tenantId, name, .pending, parentId⟩
  let inserted ← flush .integrityError { db.toTables with tenants := db.tenants ++ [tenant] }
  let ancestry ← db.newTenantAncestry config tenantId parentId
  let created ← flush .integrityError
    { inserted.toTables with tenantAncestry := inserted.tenantAncestry ++ ancestry }
  return (created, tenant)

def rewriteHierarchy (config : TenancyConfig) (db : Database) (now : Instant) (tenantId : Uuid)
    (newParentId : Option Uuid) : Result Database := do
  let subtree := db.subtreeOf tenantId
  let subtreeIds := subtree.map TenantAncestry.tenantId
  let administrators := (db.guardTenants now
    ((subtree.insertionSort Tables.nearestFirst).map TenantAncestry.tenantId)).val
  let resultingMaxDepth :=
    (← db.depthBelowNewParent newParentId) + (← Tables.maxDepth subtree)
  require (resultingMaxDepth ≤ config.maxHierarchyDepth)
    (.tenantHierarchyDepthExceeded tenantId resultingMaxDepth config.maxHierarchyDepth)
  let detached ← flush .integrityError (db.deleteBridgeRows subtreeIds)
  let attached := { detached.toTables with
    tenantAncestry := detached.tenantAncestry ++
      Tables.newBridgeRows (db.newParentAncestry newParentId) subtree }
  let moved ← flush .integrityError (attached.setParent tenantId newParentId)
  (administrators.verify moved.toTables now).val
  return moved

def moveTenant (config : TenancyConfig) (db : Database) (now : Instant) (tenantId : Uuid)
    (newParentId : Option Uuid) (caller : Caller) (reason : Option String) : Result Database := do
  requireLifecycleCaller PlatformOperation.tenantMove.key caller
  let _ ← validatedReason reason
  (db.authorizePlatformCaller caller .tenantMove).val
  let tenant ← (db.lockOpenTenant tenantId).val
  let newParent ← db.checkNewParent caller tenantId newParentId
  if tenant.parentId = newParentId then
    return db
  else
    Tables.refuseSuspendedParent newParent
    db.rewriteHierarchy config now tenantId newParentId

end Database

end SaasOs
