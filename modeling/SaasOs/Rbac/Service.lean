import SaasOs.Rbac.Administrators

/-!
# Handing out authority

Every operation here first authorizes its caller in its own transaction: it registers the permission
it asks for in the global catalog, asks `can`, and, where it hands permissions out, asks for each of
them whether the caller holds it through ordinary membership roles alone
(`actorReachesTenantAtScope`).  Only then does it insert its row.
-/

namespace SaasOs

/-- The identifiers generated for the rows a transaction inserts: the catalog row of a permission it
registers, and its own row. -/
structure NewIds where
  permission : Uuid
  row : Uuid

def provisioningAuthorities : List SystemAuthority := [.provisioning]

def requireUserCaller (operation : String) : Caller → Result Uuid
  | .user userId => .ok userId
  | .serviceAccount _ _ => .error (.callerType operation)
  | .system _ => .error (.callerType operation)

namespace Tables

/-! ## Lookups -/

def getPermissionById (db : Tables) (permissionId : Uuid) : Result Permission :=
  match db.permissions.find? fun row => row.id == permissionId with
  | none => .error (.permissionNotFound permissionId)
  | some permission => .ok permission

def requireUser (db : Tables) (userId : Uuid) : Result Unit :=
  require (db.users.any fun row => row.id == userId) (.invalidPrincipal .user userId)

def requireServiceAccount (db : Tables) (tenantId serviceAccountId : Uuid) : Result Unit :=
  require (db.serviceAccounts.any fun row => row.tenantId == tenantId && row.id == serviceAccountId)
    (.invalidPrincipal .serviceAccount serviceAccountId)

def requireRole (db : Tables) (tenantId roleId : Uuid) : Result Unit :=
  require (db.roles.any fun row => row.tenantId == tenantId && row.id == roleId)
    (.roleNotFound tenantId roleId)

/-- Every `(resource, action)` that the role grants within the tenant. -/
def listRolePermissions (db : Tables) (tenantId roleId : Uuid) : List (String × String) :=
  (db.rolePermissions.filter fun grant => grant.tenantId == tenantId && grant.roleId == roleId).flatMap
    fun grant => (db.permissions.filter fun p => p.id == grant.permissionId).map fun p =>
      (p.resource, p.action)

/-! ## The anti-amplification check -/

/-- The actor must hold every one of the permissions over the tenant through ordinary membership
roles, at least at the given scope. -/
def requireReach (db : Tables) (actorId tenantId : Uuid) (scope : RoleScope)
    (refusal : ServiceError) : List (String × String) → Transaction Unit
  | [] => pure ()
  | (resource, action) :: permissions => do
    let reaches ← .read (db.actorReachesTenantAtScope actorId tenantId action resource scope)
    .check (require reaches refusal)
    db.requireReach actorId tenantId scope refusal permissions

/-- A principal hands out only what it holds; provisioning has no principal to compare with, and the
check never passes for a service account. -/
def requireNoAmplification (db : Tables) (caller : Caller) (operation : String) (tenantId : Uuid)
    (permissions : List (String × String)) (scope : RoleScope) : Transaction Unit :=
  match caller with
  | .system _ => pure ()
  | .serviceAccount _ _ => .check (.error (.authorityNotAuthorized operation tenantId))
  | .user userId =>
    db.requireReach userId tenantId scope (.authorityNotAuthorized operation tenantId) permissions

end Tables

namespace Database

/-! ## Authorizing a caller -/

def registerPermissionIn (db : Database) (newId : Uuid) (resource action : String) :
    Result Database :=
  if db.permissions.any fun p => p.resource == resource && p.action == action then
    .ok db
  else
    flush .integrityError
      { db.toTables with permissions := db.permissions ++ [⟨newId, resource, action⟩] }

def registerAndDecide (db : Database) (now : Instant) (newId : Uuid) (request : AccessRequest)
    (refusal : ServiceError) : Transaction Database := do
  let registered ← .check (db.registerPermissionIn newId request.resource request.action)
  let allowed ← .read (registered.canLocked now request)
  .check (require allowed refusal)
  return registered

def authorizeCaller (db : Database) (now : Instant) (newId : Uuid) (caller : Caller)
    (operation : String) (tenantId : Uuid) (resource action : String)
    (systemAuthorities : List SystemAuthority := []) : Transaction Database :=
  let refusal : ServiceError := .authorityNotAuthorized operation tenantId
  match caller with
  | .system authority => do
    .check (require (systemAuthorities.contains authority) refusal)
    return db
  | .user userId =>
    db.registerAndDecide now newId ⟨userId, tenantId, action, resource, .user, none, false⟩ refusal
  | .serviceAccount serviceAccountId ownTenantId =>
    db.registerAndDecide now newId
      ⟨serviceAccountId, tenantId, action, resource, .serviceAccount, some ownTenantId, false⟩
      refusal

/-! ## Role permissions -/

def grantPermissionViolation (db : Database) (tenantId roleId permissionId : Uuid) : ServiceError :=
  if db.rolePermissions.any fun row =>
      row.tenantId == tenantId && row.roleId == roleId && row.permissionId == permissionId then
    .duplicatePermissionGrant roleId permissionId
  else
    .roleNotFound tenantId roleId

def grantPermission (db : Database) (now : Instant) (ids : NewIds)
    (tenantId roleId permissionId : Uuid) (caller : Caller) : Result Database := do
  let _ ← db.requireOpenTenant tenantId
  let permission ← db.getPermissionById permissionId
  let session ← (db.authorizeCaller now ids.permission caller "grant_permission" tenantId
    "role_permission" "grant" provisioningAuthorities).result
  (session.requireNoAmplification caller "grant_permission" tenantId
    [(permission.resource, permission.action)] .self).result
  flush (db.grantPermissionViolation tenantId roleId permissionId)
    { session.toTables with
      rolePermissions := session.rolePermissions ++ [⟨ids.row, tenantId, roleId, permissionId⟩] }

/-! ## Role assignments -/

def assignRoleViolation (db : Database) (tenantId membershipId roleId : Uuid) : ServiceError :=
  if db.membershipRoles.any fun row =>
      row.tenantId == tenantId && row.membershipId == membershipId && row.roleId == roleId then
    .duplicateRoleAssignment membershipId roleId
  else if db.roles.any fun row => row.tenantId == tenantId && row.id == roleId then
    .membershipNotFound tenantId membershipId
  else
    .roleNotFound tenantId roleId

/-- Assign a role to a membership of the tenant, at the given scope. -/
def assignRole (db : Database) (now : Instant) (ids : NewIds) (tenantId membershipId roleId : Uuid)
    (scope : RoleScope) (caller : Caller) : Result Database := do
  let actorUserId ← requireUserCaller "assign_role" caller
  let _ ← db.requireOpenTenant tenantId
  let refusal : ServiceError := .roleAssignmentNotAuthorized actorUserId tenantId
  let session ← (db.registerAndDecide now ids.permission
    ⟨actorUserId, tenantId, "create", "membership_role", .user, none, false⟩ refusal).result
  (session.requireReach actorUserId tenantId scope refusal
    (session.listRolePermissions tenantId roleId)).result
  flush (db.assignRoleViolation tenantId membershipId roleId)
    { session.toTables with
      membershipRoles :=
        session.membershipRoles ++ [⟨ids.row, tenantId, membershipId, roleId, scope⟩] }

def assignServiceAccountRole (db : Database) (now : Instant) (ids : NewIds)
    (tenantId serviceAccountId roleId : Uuid) (scope : RoleScope) (caller : Caller) :
    Result Database := do
  let actorUserId ← requireUserCaller "assign_service_account_role" caller
  let _ ← db.requireOpenTenant tenantId
  db.requireServiceAccount tenantId serviceAccountId
  db.requireRole tenantId roleId
  let refusal : ServiceError := .serviceAccountRoleNotAuthorized actorUserId tenantId
  let session ← (db.registerAndDecide now ids.permission
    ⟨actorUserId, tenantId, "create", "service_account_role", .user, none, false⟩ refusal).result
  (session.requireReach actorUserId tenantId scope refusal
    (session.listRolePermissions tenantId roleId)).result
  flush (.duplicateServiceAccountRoleAssignment serviceAccountId roleId)
    { session.toTables with
      serviceAccountRoles :=
        session.serviceAccountRoles ++ [⟨ids.row, tenantId, serviceAccountId, roleId, scope⟩] }

/-! ## Delegations -/

/-- The permission, scope and time window of a delegation to be created. -/
structure DelegationTerms where
  tenantId : Uuid
  scopeMode : RoleScope
  permissionId : Uuid
  startsAt : Option Instant := none
  expiresAt : Option Instant := none
  allowRedelegate : Bool := false

def requireTimeRange (startsAt : Instant) : Option Instant → Result Unit
  | none => .ok ()
  | some expiresAt =>
    require (startsAt < expiresAt) (.invalidDelegationTimeRange startsAt expiresAt)

/-- The shared tail of both delegation operations: authorize the delegator and insert the grant. -/
def insertDelegation (db : Database) (now : Instant) (ids : NewIds) (delegatorUserId : Uuid)
    (delegateType : PrincipalType) (delegateUserId delegateServiceAccountId : Option Uuid)
    (terms : DelegationTerms) : Result Database := do
  let permission ← db.getPermissionById terms.permissionId
  let startsAt := terms.startsAt.getD now
  requireTimeRange startsAt terms.expiresAt
  let refusal : ServiceError := .delegationNotAuthorized delegatorUserId terms.tenantId
  let session ← (db.registerAndDecide now ids.permission
    ⟨delegatorUserId, terms.tenantId, "create", "delegation_grant", .user, none, false⟩
    refusal).result
  (session.requireReach delegatorUserId terms.tenantId terms.scopeMode refusal
    [(permission.resource, permission.action)]).result
  flush .integrityError
    { session.toTables with
      delegationGrants := session.delegationGrants ++
        [⟨ids.row, terms.tenantId, .user, some delegatorUserId, delegateType, delegateUserId,
          delegateServiceAccountId, terms.scopeMode, terms.permissionId, startsAt,
          terms.expiresAt, none, terms.allowRedelegate⟩] }

def createDelegation (db : Database) (now : Instant) (ids : NewIds) (delegateUserId : Uuid)
    (terms : DelegationTerms) (caller : Caller) : Result Database := do
  let delegatorUserId ← requireUserCaller "create_delegation" caller
  let _ ← db.requireOpenTenant terms.tenantId
  db.requireUser delegatorUserId
  db.requireUser delegateUserId
  db.insertDelegation now ids delegatorUserId .user (some delegateUserId) none terms

/-- Delegate one permission to a service account, which may belong to another tenant. -/
def createDelegationToServiceAccount (db : Database) (now : Instant) (ids : NewIds)
    (serviceAccountId serviceAccountTenantId : Uuid) (terms : DelegationTerms) (caller : Caller) :
    Result Database := do
  let delegatorUserId ← requireUserCaller "create_delegation_to_service_account" caller
  let _ ← db.requireOpenTenant terms.tenantId
  db.requireUser delegatorUserId
  db.requireServiceAccount serviceAccountTenantId serviceAccountId
  db.insertDelegation now ids delegatorUserId .serviceAccount none (some serviceAccountId)
    { terms with allowRedelegate := false }

/-! ## What a passed authorization says -/

variable {now : Instant} {request : AccessRequest}

lemma exists_granted_permission_of_can (db : Database)
    (hresource : request.resource ∈ authorityResources) (h : db.can now request = true) :
    ∃ permissionId, db.NamesPermission permissionId request.resource request.action ∧
      ((∃ grant ∈ db.rolePermissions, grant.permissionId = permissionId) ∨
        ∃ grant ∈ db.delegationGrants, grant.permissionId = permissionId) := by
  obtain ⟨-, -, -, ⟨-, c, s, -, -, hrole | hdelegation⟩ | ⟨-, hmay, -⟩⟩ := db.can_iff_allowed.mp h
  · have hgrants : ∃ roleId, db.RoleGrants c roleId request.resource request.action := by
      unfold Tables.HoldsByRole at hrole
      split at hrole
      · obtain ⟨m, -, -, -, -, assignment, -, -, -, -, hgrants⟩ := hrole
        exact ⟨assignment.roleId, hgrants⟩
      · obtain ⟨assignment, -, -, -, -, hgrants⟩ := hrole
        exact ⟨assignment.roleId, hgrants⟩
    obtain ⟨roleId, grant, hgrant, -, -, hname⟩ := hgrants
    exact ⟨grant.permissionId, hname, Or.inl ⟨grant, hgrant, rfl⟩⟩
  · obtain ⟨-, grant, hgrant, -, -, -, -, -, -, -, hname⟩ := hdelegation
    exact ⟨grant.permissionId, hname, Or.inr ⟨grant, hgrant, rfl⟩⟩
  · exact absurd hresource hmay.1

variable {db db' : Database} {newId : Uuid} {resource action : String}

lemma registerPermissionIn_of_referred (h : db.registerPermissionIn newId resource action = .ok db')
    (hreferred : ∃ permissionId, db'.NamesPermission permissionId resource action ∧
      ((∃ grant ∈ db'.rolePermissions, grant.permissionId = permissionId) ∨
        ∃ grant ∈ db'.delegationGrants, grant.permissionId = permissionId)) :
    db' = db := by
  unfold registerPermissionIn at h
  split at h
  · cases h
    rfl
  · next hmissing =>
    exfalso
    have htables := flush_ok h
    obtain ⟨permissionId, ⟨p, hp, hid, hresource, haction⟩, hreferred⟩ := hreferred
    -- the permission is referred to, so it was registered before, under the same name
    have hold : permissionId ∈ db.permissions.map Permission.id := by
      rcases hreferred with ⟨grant, hgrant, rfl⟩ | ⟨grant, hgrant, rfl⟩
      · rw [htables] at hgrant
        exact db.constraints.foreignKeys.role_permissions_permission grant hgrant
      · rw [htables] at hgrant
        exact db.constraints.foreignKeys.delegation_grants_permission grant hgrant
    obtain ⟨p₀, hp₀, hid₀⟩ := List.mem_map.mp hold
    have hp₀' : p₀ ∈ db'.permissions := by
      rw [htables]
      exact List.mem_append_left _ hp₀
    have heq : p = p₀ :=
      db'.constraints.unique.permissions_pk.eq_of_key_eq hp hp₀' (hid.trans hid₀.symm)
    subst heq
    exact hmissing (List.any_eq_true.mpr ⟨p, hp₀, by simp [hresource, haction]⟩)

lemma registerAndDecide_ok {refusal : ServiceError}
    (hresource : request.resource ∈ authorityResources)
    (h : (db.registerAndDecide now newId request refusal).result = .ok db') :
    db' = db ∧ db.can now request = true := by
  unfold registerAndDecide at h
  simp only [LockedExcept.result_bind, LockedExcept.result_check, LockedExcept.result_read,
    LockedExcept.result_pure, bind_eq_ok] at h
  obtain ⟨registered, hregistered, _, hallowed, ⟨⟩, hrequired, hdone⟩ := h
  cases hallowed
  cases hdone
  have hcan : db'.can now request = true := require_eq_ok.mp hrequired
  have heq : db' = db := registerPermissionIn_of_referred hregistered
    (db'.exists_granted_permission_of_can hresource hcan)
  exact ⟨heq, heq ▸ hcan⟩

def principalRequest (caller : Caller) (tenantId : Uuid) (resource action : String) :
    Option AccessRequest :=
  match caller with
  | .system _ => none
  | .user userId => some ⟨userId, tenantId, action, resource, .user, none, false⟩
  | .serviceAccount serviceAccountId ownTenantId =>
    some ⟨serviceAccountId, tenantId, action, resource, .serviceAccount, some ownTenantId, false⟩

lemma authorizeCaller_ok {caller : Caller} {operation : String} {tenantId : Uuid}
    {systemAuthorities : List SystemAuthority} (hresource : resource ∈ authorityResources)
    (h : (db.authorizeCaller now newId caller operation tenantId resource action
      systemAuthorities).result = .ok db') :
    db' = db ∧ ∀ request ∈ principalRequest caller tenantId resource action,
      db.can now request = true := by
  cases caller with
  | system authority =>
    simp only [authorizeCaller, LockedExcept.result_bind, LockedExcept.result_check,
      LockedExcept.result_pure, bind_eq_ok] at h
    obtain ⟨-, -, hdone⟩ := h
    cases hdone
    refine ⟨rfl, ?_⟩
    intro request hrequest
    cases hrequest
  | user userId =>
    obtain ⟨hdb, hcan⟩ := registerAndDecide_ok hresource h
    refine ⟨hdb, ?_⟩
    rintro request ⟨⟩
    exact hcan
  | serviceAccount serviceAccountId ownTenantId =>
    obtain ⟨hdb, hcan⟩ := registerAndDecide_ok hresource h
    refine ⟨hdb, ?_⟩
    rintro request ⟨⟩
    exact hcan

end Database

end SaasOs
