import SaasOs.Tenancy.Registry

/-!
# The authorization decision

`can` decides whether an actor may perform an action on a resource within a tenant.  The decision is
one procedure with early exits: the lifecycle of the target tenant, the status of the actor,
explicit denies along the ancestor chain, then ordinary roles and delegations at the target and at
each strict ancestor, and last support access.  Each helper leaves the rows it relied on locked;
`Tables.can` is the answer alone.
-/

namespace SaasOs

/-! ## What a support grant never satisfies -/

def authorityResources : List String :=
  ["delegation_grant", "deny_grant", "service_account_role", "support_access_request", "api_key",
    "service_account", "role", "role_permission", "membership", "membership_role", "invitation",
    "webhook_subscription"]

def billingMutationActions : List (String × String) :=
  [("billing.subscription", "create"), ("billing.subscription", "change"),
    ("billing.subscription", "cancel"), ("billing.subscription", "reactivate"),
    ("billing.account", "charge"), ("billing.account", "manage"), ("billing.catalog", "manage"),
    ("billing.merchant", "manage")]

def tenantSelfSuspendAction : String × String := ("tenant", "suspend")

def aiSupportAccessExcludedActions : List (String × String) :=
  [("ai.inference", "run"), ("ai.policy", "manage"), ("ai.credential", "manage")]

/-- Whether `(resource, action)` changes authority or a commercial relationship, or suspends the
tenant. -/
def isAuthorityChanging (resource action : String) : Bool :=
  authorityResources.contains resource || billingMutationActions.contains (resource, action) ||
    (resource, action) == tenantSelfSuspendAction

/-- Whether a support-access grant can satisfy `(resource, action)` at all. -/
def supportAccessExcluded (resource action : String) : Bool :=
  isAuthorityChanging resource action || aiSupportAccessExcludedActions.contains (resource, action)

/-! ## Scopes -/

def targetTenantScopes : List RoleScope := [.self, .subtree]

def ancestorTenantScopes : List RoleScope := [.subtree]

/-! ## Requests -/

/-- One question to the decision procedure. -/
structure AccessRequest where
  actorId : Uuid
  tenantId : Uuid
  action : String
  resource : String
  /-- A user unless stated otherwise. -/
  actorType : PrincipalType := .user
  /-- The one tenant a service account belongs to. -/
  actorTenantId : Option Uuid := none
  /-- Leave out every delegation that carries an expiry. -/
  ignoreExpiringDelegations : Bool := false

namespace Tables

/-! ## Principals -/

/-- Whether a user is active, with the row locked; `none` when there is no such user. -/
def lockUserIsActive (db : Tables) (userId : Uuid) : Locked (Option Bool) :=
  match db.users.find? fun row => row.id == userId with
  | none => .reading [] none
  | some user => .reading [.user user.id] (some user.isActive)

def lockMembership (db : Tables) (tenantId userId : Uuid) : Locked (Option TenantMembership) :=
  match db.tenantMemberships.find? fun row => row.tenantId == tenantId && row.userId == userId with
  | none => .reading [] none
  | some membership => .reading [.tenantMembership membership.id] (some membership)

def lockServiceAccountStatus (db : Tables) (tenantId serviceAccountId : Uuid) :
    Locked (Option ServiceAccountStatus) :=
  match db.serviceAccounts.find? fun row =>
      row.tenantId == tenantId && row.id == serviceAccountId with
  | none => .reading [] none
  | some account => .reading [.serviceAccount account.id] (some account.status)

/-! ## Ordinary roles -/

/-- Does the catalog name `permissionId` as `(resource, action)`? -/
def permissionIs (db : Tables) (permissionId : Uuid) (resource action : String) : Bool :=
  db.permissions.any fun p => p.id == permissionId && p.resource == resource && p.action == action

/-- The rows by which a role of a tenant grants `(resource, action)`. -/
def grantsOfRole (db : Tables) (tenantId roleId : Uuid) (resource action : String) :
    List RolePermission :=
  db.rolePermissions.filter fun grant =>
    grant.roleId == roleId && grant.tenantId == tenantId &&
      db.permissionIs grant.permissionId resource action

/-- The assignments that pass `keep`, joined with the rows by which their roles grant
`(resource, action)`. -/
def joinGrants {γ : Type} (db : Tables) (tenantId : Uuid) (resource action : String)
    (assignments : List γ) (roleOf : γ → Uuid) (keep : γ → Bool) : List (γ × RolePermission) :=
  (assignments.filter keep).flatMap fun assignment =>
    (db.grantsOfRole tenantId (roleOf assignment) resource action).map fun grant =>
      (assignment, grant)

/-- Does the actor's membership in the candidate tenant have a role, with one of the allowed scopes,
granting `(resource, action)`? -/
def tenantGrantsPermission (db : Tables) (candidateTenantId actorId : Uuid)
    (action resource : String) (allowedScopes : List RoleScope) : Locked Bool := do
  match ← db.lockMembership candidateTenantId actorId with
  | none => return false
  | some membership =>
    if membership.status = .active then
      db.whenAccessible candidateTenantId <|
        .firstHit
          (db.joinGrants candidateTenantId resource action db.membershipRoles MembershipRole.roleId
            fun assignment =>
              assignment.tenantId == candidateTenantId &&
              assignment.membershipId == membership.id &&
              allowedScopes.contains assignment.scope)
          fun (assignment, grant) => [.membershipRole assignment.id, .rolePermission grant.id]
    else
      return false

def tenantGrantsPermissionForServiceAccount (db : Tables) (candidateTenantId actorId : Uuid)
    (action resource : String) (allowedScopes : List RoleScope) : Locked Bool :=
  db.whenAccessible candidateTenantId <|
    .firstHit
      (db.joinGrants candidateTenantId resource action db.serviceAccountRoles
        ServiceAccountRole.roleId fun assignment =>
          assignment.tenantId == candidateTenantId &&
          assignment.serviceAccountId == actorId &&
          allowedScopes.contains assignment.scope)
      fun (assignment, grant) => [.serviceAccountRole assignment.id, .rolePermission grant.id]

def actorGrantsPermission (db : Tables) (candidateTenantId actorId : Uuid)
    (actorType : PrincipalType) (action resource : String) (allowedScopes : List RoleScope) :
    Locked Bool :=
  if actorType = .user then
    db.tenantGrantsPermission candidateTenantId actorId action resource allowedScopes
  else
    db.tenantGrantsPermissionForServiceAccount candidateTenantId actorId action resource
      allowedScopes

/-! ## Delegations -/

/-- A delegate who is a member of the candidate tenant must be an active one; a delegate who is no
member there is unaffected. -/
def delegateUserMembershipPermitsAuthorization (db : Tables) (candidateTenantId actorId : Uuid) :
    Locked Bool := do
  match ← db.lockMembership candidateTenantId actorId with
  | none => return true
  | some membership => return decide (membership.status = .active)

/-- Only a user can be a member; a service account delegate is never held back by a membership. -/
def delegateMayUseDelegation (db : Tables) (candidateTenantId actorId : Uuid)
    (actorType : PrincipalType) : Locked Bool :=
  if actorType = .user then
    db.delegateUserMembershipPermitsAuthorization candidateTenantId actorId
  else
    pure true

def principalColumn (actorType : PrincipalType) (userId serviceAccountId : Option Uuid) :
    Option Uuid :=
  if actorType = .user then userId else serviceAccountId

/-- Does a delegation grant lend `(resource, action)` to the actor at the candidate tenant now? -/
def delegationApplies (db : Tables) (now : Instant) (candidateTenantId actorId : Uuid)
    (actorType : PrincipalType) (action resource : String) (allowedScopeModes : List RoleScope)
    (ignoreExpiring : Bool) (grant : DelegationGrant) : Bool :=
  grant.tenantId == candidateTenantId &&
  grant.delegatePrincipalType == actorType &&
  principalColumn actorType grant.delegatePrincipalId grant.delegateServiceAccountId ==
    some actorId &&
  allowedScopeModes.contains grant.scopeMode &&
  grant.revokedAt.isNone &&
  decide (grant.startsAt ≤ now) &&
  (if ignoreExpiring then grant.expiresAt.isNone
    else grant.expiresAt.all fun expires => decide (now < expires)) &&
  db.permissionIs grant.permissionId resource action

def tenantGrantsPermissionViaDelegation (db : Tables) (now : Instant)
    (candidateTenantId actorId : Uuid) (actorType : PrincipalType) (action resource : String)
    (allowedScopeModes : List RoleScope) (ignoreExpiring : Bool) : Locked Bool := do
  if ← db.delegateMayUseDelegation candidateTenantId actorId actorType then
    db.whenAccessible candidateTenantId <|
      .firstHit
        (db.delegationGrants.filter (db.delegationApplies now candidateTenantId actorId actorType
          action resource allowedScopeModes ignoreExpiring))
        fun grant => [.delegationGrant grant.id]
  else
    return false

/-! ## Denies -/

/-- Does a deny grant block `(resource, action)` for the actor at the candidate tenant? -/
def denyApplies (db : Tables) (candidateTenantId actorId : Uuid) (actorType : PrincipalType)
    (action resource : String) (allowedScopeModes : List RoleScope) (grant : DenyGrant) : Bool :=
  grant.tenantId == candidateTenantId &&
  grant.principalType == actorType &&
  principalColumn actorType grant.principalId grant.principalServiceAccountId == some actorId &&
  allowedScopeModes.contains grant.scopeMode &&
  grant.revokedAt.isNone &&
  db.permissionIs grant.permissionId resource action

def tenantDeniesPermission (db : Tables) (candidateTenantId actorId : Uuid)
    (actorType : PrincipalType) (action resource : String) (allowedScopeModes : List RoleScope) :
    Locked Bool :=
  pure (db.denyGrants.any
    (db.denyApplies candidateTenantId actorId actorType action resource allowedScopeModes))

/-! ## Walking the ancestor chain -/

/-- Ask the target tenant with either scope, and then every strict ancestor with the subtree scope
only, until one of them answers yes. -/
def anyCandidate (db : Tables) (tenantId : Uuid) (ask : Uuid → List RoleScope → Locked Bool) :
    Locked Bool := do
  if ← ask tenantId targetTenantScopes then
    return true
  else
    let ancestorIds ← db.lockAncestorIds tenantId
    ancestorIds.anyM fun ancestorId =>
      if ancestorId = tenantId then pure false else ask ancestorId ancestorTenantScopes

def actorIsDenied (db : Tables) (actorId : Uuid) (actorType : PrincipalType) (tenantId : Uuid)
    (action resource : String) : Locked Bool :=
  db.anyCandidate tenantId fun candidateTenantId scopes =>
    db.tenantDeniesPermission candidateTenantId actorId actorType action resource scopes

/-- Does a strict ancestor grant the actor `(resource, action)` over its subtree? -/
def ancestorGrantsSubtreePermission (db : Tables) (tenantId actorId : Uuid)
    (action resource : String) : Locked Bool := do
  let ancestorIds ← db.lockAncestorIds tenantId
  ancestorIds.anyM fun ancestorId =>
    if ancestorId = tenantId then pure false
    else db.tenantGrantsPermission ancestorId actorId action resource ancestorTenantScopes

/-- The anti-amplification check: does the actor hold `(resource, action)` over the tenant through
ordinary membership roles alone, at least at the required scope? -/
def actorReachesTenantAtScope (db : Tables) (actorId tenantId : Uuid) (action resource : String)
    (requiredScope : RoleScope) : Locked Bool := do
  let targetScopes := if requiredScope = .self then targetTenantScopes else ancestorTenantScopes
  if ← db.tenantGrantsPermission tenantId actorId action resource targetScopes then
    return true
  else
    db.ancestorGrantsSubtreePermission tenantId actorId action resource

/-! ## Support access -/

def supportRequestApplies (now : Instant) (candidateTenantId actorId : Uuid)
    (allowedScopeModes : List RoleScope) (request : SupportAccessRequest) : Bool :=
  request.tenantId == candidateTenantId &&
  request.requesterUserId == actorId &&
  allowedScopeModes.contains request.scopeMode &&
  request.approvedAt.isSome &&
  request.deniedAt.isNone &&
  request.revokedAt.isNone &&
  decide (request.requestedStartsAt ≤ now) &&
  decide (now < request.requestedExpiresAt)

def tenantGrantsSupportAccess (db : Tables) (now : Instant) (candidateTenantId actorId : Uuid)
    (resource action : String) (allowedScopeModes : List RoleScope) : Locked Bool := do
  if supportAccessExcluded resource action then
    return false
  else
    db.whenOpen candidateTenantId <|
      .firstHit
        (db.supportAccessRequests.filter
          (supportRequestApplies now candidateTenantId actorId allowedScopeModes))
        fun request => [.supportAccessRequest request.id]

def actorHasSupportAccess (db : Tables) (now : Instant) (actorId tenantId : Uuid)
    (resource action : String) : Locked Bool :=
  db.anyCandidate tenantId fun candidateTenantId scopes =>
    db.tenantGrantsSupportAccess now candidateTenantId actorId resource action scopes

/-! ## The decision -/

def candidateAllows (db : Tables) (now : Instant) (request : AccessRequest)
    (candidateTenantId : Uuid) (scopes : List RoleScope) : Locked Bool := do
  if ← db.actorGrantsPermission candidateTenantId request.actorId request.actorType request.action
      request.resource scopes then
    return true
  else
    db.tenantGrantsPermissionViaDelegation now candidateTenantId request.actorId request.actorType
      request.action request.resource scopes request.ignoreExpiringDelegations

/-- The allow loop over the target and its strict ancestors, skipped when the target does not admit
its principals. -/
def principalPathAllows (db : Tables) (now : Instant) (request : AccessRequest)
    (targetAdmitsPrincipals : Bool) : Locked Bool :=
  if targetAdmitsPrincipals then
    db.anyCandidate request.tenantId (db.candidateAllows now request)
  else
    pure false

def supportPathAllows (db : Tables) (now : Instant) (request : AccessRequest) : Locked Bool :=
  if request.actorType = .user then
    db.actorHasSupportAccess now request.actorId request.tenantId request.resource request.action
  else
    pure false

/-- What the target tenant's lifecycle leaves open: nothing (`none`), or the support path alone
(`some false`), or every path (`some true`). -/
def targetAdmits (db : Tables) (tenantId : Uuid) : Locked (Option Bool) := do
  match ← db.lockAccessibleTenant tenantId with
  | .ok _ => return some true
  | .error (.tenantInaccessible _ status) =>
    return if status.isClosed then none else some false
  | .error _ => return none

/-- Is the actor someone who may act at all: an active user, or an active service account of the
tenant the request names?  Every other actor type is refused. -/
def actorMayAct (db : Tables) (request : AccessRequest) : Locked Bool := do
  match request.actorType with
  | .user => return (← db.lockUserIsActive request.actorId) == some true
  | .serviceAccount =>
    match request.actorTenantId with
    | none => return false
    | some actorTenantId =>
      return (← db.lockServiceAccountStatus actorTenantId request.actorId) == some .active
  | .system => return false

def canLocked (db : Tables) (now : Instant) (request : AccessRequest) : Locked Bool := do
  match ← db.targetAdmits request.tenantId with
  | none => return false
  | some targetAdmitsPrincipals =>
    if ← db.actorMayAct request then
      if ← db.actorIsDenied request.actorId request.actorType request.tenantId request.action
          request.resource then
        return false
      else if ← db.principalPathAllows now request targetAdmitsPrincipals then
        return true
      else
        db.supportPathAllows now request
    else
      return false

def can (db : Tables) (now : Instant) (request : AccessRequest) : Bool :=
  (db.canLocked now request).val

/-- Does the user, an active one, hold `(resource, action)` through an ordinary role of their own
membership of exactly this tenant, with no deny in the way? -/
def holdsThroughOwnMembership (db : Tables) (userId tenantId : Uuid) (action resource : String) :
    Locked Bool :=
  db.whenAccessible tenantId do
    if (← db.lockUserIsActive userId) == some true then
      if ← db.actorIsDenied userId .user tenantId action resource then
        return false
      else
        db.tenantGrantsPermission tenantId userId action resource targetTenantScopes
    else
      return false

end Tables

end SaasOs
