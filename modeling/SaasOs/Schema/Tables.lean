import SaasOs.Foundation.Rows
import Mathlib.Tactic.MkIffOfInductiveProp

/-!
# The registry tables

The rows of the tenancy, identity, role-based access control and platform-authority tables, as far
as an authorization decision, an authority-changing operation or a tenant lifecycle operation reads
or writes them.  Identifiers are natural numbers (a UUID is a 128-bit number, and its text form
sorts as that number does); instants are microseconds on one time axis.
-/

namespace SaasOs

open Rows

/-- A UUID, as the 128-bit number it denotes. -/
abbrev Uuid := ℕ

/-- `str(uuid)`. -/
def uuidStr (id : Uuid) : String :=
  let digits := Nat.toDigits 16 id
  let hex := List.replicate (32 - digits.length) '0' ++ digits
  String.ofList (hex.take 8 ++ ['-'] ++ (hex.drop 8).take 4 ++ ['-'] ++ (hex.drop 12).take 4 ++
    ['-'] ++ (hex.drop 16).take 4 ++ ['-'] ++ hex.drop 20)

example : uuidStr 0x123e4567e89b42d3a456426614174000 = "123e4567-e89b-42d3-a456-426614174000" := by
  decide +kernel

/-- Microseconds of UTC. -/
abbrev Instant := ℤ

/-! ## Enumerated columns -/

/-- `core.tenants.status`. -/
inductive TenantStatus
  | pending
  | active
  | suspended
  | deleted
  | purging
  | purged
  deriving DecidableEq

/-- `core.tenant_memberships.status`. -/
inductive MembershipStatus
  | active
  | suspended
  | revoked
  deriving DecidableEq

/-- `core.service_accounts.status`. -/
inductive ServiceAccountStatus
  | active
  | disabled
  deriving DecidableEq

/-- How far a role assignment, delegation, deny or support request reaches: its own tenant only, or
every descendant of it too. -/
inductive RoleScope
  | self
  | subtree
  deriving DecidableEq

/-- The kind of identity a grant names. -/
inductive PrincipalType
  | user
  | system
  | serviceAccount
  deriving DecidableEq

/-- `core.platform_operators.status`. -/
inductive OperatorStatus
  | active
  | suspended
  | revoked
  deriving DecidableEq

/-- A capability on the platform itself, held by an enrolled operator. -/
inductive PlatformPermission
  | tenantRead
  | userRead
  | operatorRead
  | auditRead
  | billingRead
  | featureFlagRead
  | aiConfigRead
  | aiUsageRead
  | tenantCreate
  | tenantSuspend
  | tenantReactivate
  | tenantMove
  | tenantDelete
  | userDeactivate
  | userReactivate
  | sessionRevoke
  | apiKeyRevoke
  | featureFlagDefine
  | featureFlagOverride
  | aiProviderManage
  | aiEndpointTrustManage
  | aiPolicyManage
  | outboxReplay
  | webhookSecretReencrypt
  | permissionGrantApply
  | securityRetentionReport
  | securityRetentionHoldManage
  | authorityManage
  deriving DecidableEq

/-! ## Rows -/

/-- A row of `core.tenants`. -/
structure Tenant where
  id : Uuid
  name : String
  status : TenantStatus
  parentId : Option Uuid
  deriving DecidableEq

/-- A row of `core.tenant_ancestry`, the closure table of the parent relation. -/
structure TenantAncestry where
  tenantId : Uuid
  ancestorId : Uuid
  depth : ℕ
  deriving DecidableEq

/-- A row of `core.users`. -/
structure User where
  id : Uuid
  isActive : Bool
  deriving DecidableEq

/-- A row of `core.tenant_memberships`. -/
structure TenantMembership where
  id : Uuid
  tenantId : Uuid
  userId : Uuid
  status : MembershipStatus
  createdAt : Instant
  deriving DecidableEq

/-- A row of `core.service_accounts`. -/
structure ServiceAccount where
  id : Uuid
  tenantId : Uuid
  status : ServiceAccountStatus
  deriving DecidableEq

/-- A row of `core.roles`. -/
structure Role where
  id : Uuid
  tenantId : Uuid
  name : String
  deriving DecidableEq

/-- A row of the global catalog `core.permissions`. -/
structure Permission where
  id : Uuid
  resource : String
  action : String
  deriving DecidableEq

/-- A row of `core.role_permissions`: the role grants the permission. -/
structure RolePermission where
  id : Uuid
  tenantId : Uuid
  roleId : Uuid
  permissionId : Uuid
  deriving DecidableEq

/-- A row of `core.membership_roles`: the membership holds the role. -/
structure MembershipRole where
  id : Uuid
  tenantId : Uuid
  membershipId : Uuid
  roleId : Uuid
  scope : RoleScope
  deriving DecidableEq

/-- A row of `core.service_account_roles`: the service account holds the role. -/
structure ServiceAccountRole where
  id : Uuid
  tenantId : Uuid
  serviceAccountId : Uuid
  roleId : Uuid
  scope : RoleScope
  deriving DecidableEq

/-- A row of `core.delegation_grants`. -/
structure DelegationGrant where
  id : Uuid
  tenantId : Uuid
  delegatorPrincipalType : PrincipalType
  delegatorPrincipalId : Option Uuid
  delegatePrincipalType : PrincipalType
  delegatePrincipalId : Option Uuid
  delegateServiceAccountId : Option Uuid
  scopeMode : RoleScope
  permissionId : Uuid
  startsAt : Instant
  expiresAt : Option Instant
  revokedAt : Option Instant
  allowRedelegate : Bool
  deriving DecidableEq

/-- A row of `core.deny_grants`. -/
structure DenyGrant where
  id : Uuid
  tenantId : Uuid
  principalType : PrincipalType
  principalId : Option Uuid
  principalServiceAccountId : Option Uuid
  scopeMode : RoleScope
  permissionId : Uuid
  revokedAt : Option Instant
  deriving DecidableEq

/-- A row of `core.support_access_requests`. -/
structure SupportAccessRequest where
  id : Uuid
  tenantId : Uuid
  requesterUserId : Uuid
  scopeMode : RoleScope
  requestedStartsAt : Instant
  requestedExpiresAt : Instant
  approvedAt : Option Instant
  approvedByUserId : Option Uuid
  deniedAt : Option Instant
  deniedByUserId : Option Uuid
  revokedAt : Option Instant
  revokedByUserId : Option Uuid
  deriving DecidableEq

/-- A row of `core.platform_operators`. -/
structure PlatformOperator where
  id : Uuid
  userId : Uuid
  status : OperatorStatus
  deriving DecidableEq

/-- A row of `core.platform_grants`. -/
structure PlatformGrant where
  id : Uuid
  operatorId : Uuid
  permission : PlatformPermission
  revokedAt : Option Instant
  deriving DecidableEq

/-- A row of `core.sessions`. -/
structure UserSession where
  id : Uuid
  userId : Uuid
  tokenHash : String
  expiresAt : Instant
  revokedAt : Option Instant
  deriving DecidableEq

/-- A row of `core.api_keys`, owned by a member of the tenant or by one of its service accounts. -/
structure ApiKey where
  id : Uuid
  tenantId : Uuid
  userId : Option Uuid
  serviceAccountId : Option Uuid
  name : String
  keyHash : String
  expiresAt : Option Instant
  revokedAt : Option Instant
  deriving DecidableEq

/-- A row of `core.invitations`. -/
structure Invitation where
  id : Uuid
  tenantId : Uuid
  invitedEmail : String
  tokenHash : String
  inviterUserId : Uuid
  createdAt : Instant
  expiresAt : Instant
  acceptedAt : Option Instant
  acceptedByUserId : Option Uuid
  revokedAt : Option Instant
  revokedByUserId : Option Uuid
  deriving DecidableEq

structure Tables where
  tenants : List Tenant := []
  tenantAncestry : List TenantAncestry := []
  users : List User := []
  tenantMemberships : List TenantMembership := []
  serviceAccounts : List ServiceAccount := []
  roles : List Role := []
  permissions : List Permission := []
  rolePermissions : List RolePermission := []
  membershipRoles : List MembershipRole := []
  serviceAccountRoles : List ServiceAccountRole := []
  delegationGrants : List DelegationGrant := []
  denyGrants : List DenyGrant := []
  supportAccessRequests : List SupportAccessRequest := []
  platformOperators : List PlatformOperator := []
  platformGrants : List PlatformGrant := []
  sessions : List UserSession := []
  apiKeys : List ApiKey := []
  invitations : List Invitation := []
  deriving DecidableEq

/-! ## Constraints -/

/-- A nullable foreign key: `none` is `NULL` and references nothing. -/
def references (target : List Uuid) : Option Uuid → Prop
  | none => True
  | some id => id ∈ target

instance (target : List Uuid) (key : Option Uuid) : Decidable (references target key) :=
  match key with
  | none => inferInstanceAs (Decidable True)
  | some id => inferInstanceAs (Decidable (id ∈ target))

/-- `ck_tenant_ancestry_self_row_iff_depth_zero`. -/
def TenantAncestry.SelfRowIffDepthZero (row : TenantAncestry) : Prop :=
  (row.tenantId = row.ancestorId ∧ row.depth = 0) ∨
    (row.tenantId ≠ row.ancestorId ∧ 0 < row.depth)

instance (row : TenantAncestry) : Decidable row.SelfRowIffDepthZero :=
  inferInstanceAs (Decidable (_ ∨ _))

def principalPairing (type : PrincipalType) (userId serviceAccountId : Option Uuid) : Bool :=
  match type with
  | .user => userId.isSome && serviceAccountId.isNone
  | .system => userId.isNone && serviceAccountId.isNone
  | .serviceAccount => userId.isNone && serviceAccountId.isSome

/-- The checks of `core.delegation_grants`: both pairings and the time range. -/
def DelegationGrant.checks (grant : DelegationGrant) : Bool :=
  (match grant.delegatorPrincipalType with
    | .user => grant.delegatorPrincipalId.isSome
    | .system => grant.delegatorPrincipalId.isNone
    | .serviceAccount => false) &&
  principalPairing grant.delegatePrincipalType grant.delegatePrincipalId
    grant.delegateServiceAccountId &&
  grant.expiresAt.all fun expires => decide (grant.startsAt < expires)

/-- The check of `core.deny_grants`. -/
def DenyGrant.checks (grant : DenyGrant) : Bool :=
  principalPairing grant.principalType grant.principalId grant.principalServiceAccountId

/-- The checks of `core.support_access_requests`. -/
def SupportAccessRequest.checks (request : SupportAccessRequest) : Bool :=
  decide (request.requestedStartsAt < request.requestedExpiresAt) &&
  (request.approvedAt.isSome == request.approvedByUserId.isSome) &&
  (request.deniedAt.isSome == request.deniedByUserId.isSome) &&
  (request.revokedByUserId.isNone || request.revokedAt.isSome) &&
  !(request.approvedAt.isSome && request.deniedAt.isSome) &&
  (request.revokedAt.isNone || request.approvedAt.isSome) &&
  (request.approvedByUserId.isNone ||
    request.approvedByUserId != some request.requesterUserId)

/-- The checks of `core.invitations`: the time range, both pairings, and never accepted and
revoked. -/
def Invitation.checks (invitation : Invitation) : Bool :=
  decide (invitation.createdAt < invitation.expiresAt) &&
  (invitation.acceptedAt.isSome == invitation.acceptedByUserId.isSome) &&
  (invitation.revokedAt.isSome == invitation.revokedByUserId.isSome) &&
  !(invitation.acceptedAt.isSome && invitation.revokedAt.isSome)

/-- Primary keys, unique constraints and unique indexes. -/
@[mk_iff]
structure UniqueConstraints (db : Tables) : Prop where
  tenants_pk : UniqueOn db.tenants Tenant.id
  tenant_ancestry_pk : UniqueOn db.tenantAncestry fun row => (row.tenantId, row.ancestorId)
  users_pk : UniqueOn db.users User.id
  tenant_memberships_pk : UniqueOn db.tenantMemberships TenantMembership.id
  tenant_memberships_tenant_user :
    UniqueOn db.tenantMemberships fun row => (row.tenantId, row.userId)
  service_accounts_pk : UniqueOn db.serviceAccounts ServiceAccount.id
  roles_pk : UniqueOn db.roles Role.id
  roles_tenant_name : UniqueOn db.roles fun row => (row.tenantId, row.name)
  permissions_pk : UniqueOn db.permissions Permission.id
  permissions_resource_action : UniqueOn db.permissions fun row => (row.resource, row.action)
  role_permissions_pk : UniqueOn db.rolePermissions RolePermission.id
  role_permissions_role_permission :
    UniqueOn db.rolePermissions fun row => (row.roleId, row.permissionId)
  membership_roles_pk : UniqueOn db.membershipRoles MembershipRole.id
  membership_roles_membership_role :
    UniqueOn db.membershipRoles fun row => (row.membershipId, row.roleId)
  service_account_roles_pk : UniqueOn db.serviceAccountRoles ServiceAccountRole.id
  service_account_roles_service_account_role :
    UniqueOn db.serviceAccountRoles fun row => (row.serviceAccountId, row.roleId)
  delegation_grants_pk : UniqueOn db.delegationGrants DelegationGrant.id
  deny_grants_pk : UniqueOn db.denyGrants DenyGrant.id
  support_access_requests_pk : UniqueOn db.supportAccessRequests SupportAccessRequest.id
  support_access_requests_live :
    UniqueOn (db.supportAccessRequests.filter fun row => row.deniedAt.isNone && row.revokedAt.isNone)
      fun row => (row.tenantId, row.requesterUserId, row.scopeMode)
  platform_operators_pk : UniqueOn db.platformOperators PlatformOperator.id
  platform_operators_live_user :
    UniqueOn (db.platformOperators.filter fun row => row.status != .revoked) PlatformOperator.userId
  platform_grants_pk : UniqueOn db.platformGrants PlatformGrant.id
  sessions_pk : UniqueOn db.sessions UserSession.id
  api_keys_pk : UniqueOn db.apiKeys ApiKey.id
  invitations_pk : UniqueOn db.invitations Invitation.id
  invitations_token_hash : UniqueOn db.invitations Invitation.tokenHash
  invitations_live :
    UniqueOn (db.invitations.filter fun row => row.acceptedAt.isNone && row.revokedAt.isNone)
      fun row => (row.tenantId, row.invitedEmail)

/-- Foreign keys, the composite ones included. -/
@[mk_iff]
structure ForeignKeys (db : Tables) : Prop where
  tenants_parent : ∀ row ∈ db.tenants, references (db.tenants.map Tenant.id) row.parentId
  tenant_ancestry_tenant : ∀ row ∈ db.tenantAncestry, row.tenantId ∈ db.tenants.map Tenant.id
  tenant_ancestry_ancestor : ∀ row ∈ db.tenantAncestry, row.ancestorId ∈ db.tenants.map Tenant.id
  tenant_memberships_tenant :
    ∀ row ∈ db.tenantMemberships, row.tenantId ∈ db.tenants.map Tenant.id
  tenant_memberships_user : ∀ row ∈ db.tenantMemberships, row.userId ∈ db.users.map User.id
  service_accounts_tenant : ∀ row ∈ db.serviceAccounts, row.tenantId ∈ db.tenants.map Tenant.id
  roles_tenant : ∀ row ∈ db.roles, row.tenantId ∈ db.tenants.map Tenant.id
  role_permissions_tenant_role : ∀ row ∈ db.rolePermissions,
    (row.tenantId, row.roleId) ∈ db.roles.map fun role => (role.tenantId, role.id)
  role_permissions_permission :
    ∀ row ∈ db.rolePermissions, row.permissionId ∈ db.permissions.map Permission.id
  membership_roles_tenant_membership : ∀ row ∈ db.membershipRoles,
    (row.tenantId, row.membershipId) ∈ db.tenantMemberships.map fun m => (m.tenantId, m.id)
  membership_roles_tenant_role : ∀ row ∈ db.membershipRoles,
    (row.tenantId, row.roleId) ∈ db.roles.map fun role => (role.tenantId, role.id)
  service_account_roles_tenant_service_account : ∀ row ∈ db.serviceAccountRoles,
    (row.tenantId, row.serviceAccountId) ∈ db.serviceAccounts.map fun a => (a.tenantId, a.id)
  service_account_roles_tenant_role : ∀ row ∈ db.serviceAccountRoles,
    (row.tenantId, row.roleId) ∈ db.roles.map fun role => (role.tenantId, role.id)
  delegation_grants_tenant : ∀ row ∈ db.delegationGrants, row.tenantId ∈ db.tenants.map Tenant.id
  delegation_grants_delegator :
    ∀ row ∈ db.delegationGrants, references (db.users.map User.id) row.delegatorPrincipalId
  delegation_grants_delegate :
    ∀ row ∈ db.delegationGrants, references (db.users.map User.id) row.delegatePrincipalId
  delegation_grants_delegate_service_account : ∀ row ∈ db.delegationGrants,
    references (db.serviceAccounts.map ServiceAccount.id) row.delegateServiceAccountId
  delegation_grants_permission :
    ∀ row ∈ db.delegationGrants, row.permissionId ∈ db.permissions.map Permission.id
  deny_grants_tenant : ∀ row ∈ db.denyGrants, row.tenantId ∈ db.tenants.map Tenant.id
  deny_grants_principal :
    ∀ row ∈ db.denyGrants, references (db.users.map User.id) row.principalId
  deny_grants_service_account : ∀ row ∈ db.denyGrants,
    references (db.serviceAccounts.map ServiceAccount.id) row.principalServiceAccountId
  deny_grants_permission :
    ∀ row ∈ db.denyGrants, row.permissionId ∈ db.permissions.map Permission.id
  support_access_requests_tenant :
    ∀ row ∈ db.supportAccessRequests, row.tenantId ∈ db.tenants.map Tenant.id
  support_access_requests_requester :
    ∀ row ∈ db.supportAccessRequests, row.requesterUserId ∈ db.users.map User.id
  platform_operators_user : ∀ row ∈ db.platformOperators, row.userId ∈ db.users.map User.id
  platform_grants_operator :
    ∀ row ∈ db.platformGrants, row.operatorId ∈ db.platformOperators.map PlatformOperator.id
  sessions_user : ∀ row ∈ db.sessions, row.userId ∈ db.users.map User.id
  invitations_tenant : ∀ row ∈ db.invitations, row.tenantId ∈ db.tenants.map Tenant.id
  invitations_inviter : ∀ row ∈ db.invitations, row.inviterUserId ∈ db.users.map User.id
  invitations_accepted_by :
    ∀ row ∈ db.invitations, references (db.users.map User.id) row.acceptedByUserId
  invitations_revoked_by :
    ∀ row ∈ db.invitations, references (db.users.map User.id) row.revokedByUserId

@[mk_iff]
structure CheckConstraints (db : Tables) : Prop where
  tenants_parent_not_self : ∀ row ∈ db.tenants, row.parentId ≠ some row.id
  tenant_ancestry_self_row_iff_depth_zero :
    ∀ row ∈ db.tenantAncestry, row.SelfRowIffDepthZero
  delegation_grants_checks : ∀ row ∈ db.delegationGrants, row.checks = true
  deny_grants_checks : ∀ row ∈ db.denyGrants, row.checks = true
  support_access_requests_checks : ∀ row ∈ db.supportAccessRequests, row.checks = true
  invitations_checks : ∀ row ∈ db.invitations, row.checks = true
  api_keys_single_owner : ∀ row ∈ db.apiKeys, row.userId.isSome ≠ row.serviceAccountId.isSome

/-- Everything PostgreSQL enforces about a content. -/
@[mk_iff]
structure Constraints (db : Tables) : Prop where
  unique : UniqueConstraints db
  foreignKeys : ForeignKeys db
  checks : CheckConstraints db

instance (db : Tables) : Decidable (UniqueConstraints db) :=
  decidable_of_iff' _ (uniqueConstraints_iff db)

set_option synthInstance.maxSize 400 in
instance (db : Tables) : Decidable (ForeignKeys db) :=
  decidable_of_iff' _ (foreignKeys_iff db)

instance (db : Tables) : Decidable (CheckConstraints db) :=
  decidable_of_iff' _ (checkConstraints_iff db)

instance (db : Tables) : Decidable (Constraints db) :=
  decidable_of_iff' _ (constraints_iff db)

/-- A content that meets every constraint. -/
structure Database extends Tables where
  constraints : Constraints toTables
  deriving DecidableEq

@[ext]
lemma Database.ext {db db' : Database} (h : db.toTables = db'.toTables) : db = db' := by
  cases db
  cases db'
  cases h
  rfl

/-- Send a content to PostgreSQL: accepted when it meets the constraints, refused with `violation`
otherwise. -/
def flush {ε : Type} (violation : ε) (tables : Tables) : Except ε Database :=
  if h : Constraints tables then .ok ⟨tables, h⟩ else .error violation

lemma flush_ok {ε : Type} {violation : ε} {tables : Tables} {db : Database}
    (h : flush violation tables = .ok db) : db.toTables = tables := by
  unfold flush at h
  split at h
  · cases h
    rfl
  · cases h

/-! ## Which rows a key names -/

namespace Database

lemma tenant_atMostOne (db : Database) (id : Uuid) :
    AtMostOne db.tenants fun row => row.id == id :=
  db.constraints.unique.tenants_pk.atMostOne fun _ h => by simpa using h

lemma user_atMostOne (db : Database) (id : Uuid) : AtMostOne db.users fun row => row.id == id :=
  db.constraints.unique.users_pk.atMostOne fun _ h => by simpa using h

lemma membership_atMostOne (db : Database) (tenantId userId : Uuid) :
    AtMostOne db.tenantMemberships fun row => row.tenantId == tenantId && row.userId == userId :=
  db.constraints.unique.tenant_memberships_tenant_user.atMostOne
    (k := (tenantId, userId)) fun _ h => by simpa using h

lemma serviceAccount_atMostOne (db : Database) (tenantId id : Uuid) :
    AtMostOne db.serviceAccounts fun row => row.tenantId == tenantId && row.id == id :=
  db.constraints.unique.service_accounts_pk.atMostOne (k := id) fun _ h => by
    simp only [Bool.and_eq_true, beq_iff_eq] at h
    exact h.2

end Database

end SaasOs
