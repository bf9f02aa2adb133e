import SaasOs.Foundation.Exceptions
import SaasOs.Schema.Tables

/-!
# Callers, platform operations and errors

Who calls an operation (`Caller`), the declared platform operations with the permission and the
system purposes each of them accepts (`platformOperation`), and the errors an operation may raise
(`ServiceError`).  An operation that raises is rolled back, so an error carries no state.
-/

namespace SaasOs

/-! ## Callers -/

/-- The purpose a system caller acts for. -/
inductive SystemAuthority
  | provisioning
  | tenantPurge
  | billingOperations
  | platformBootstrap
  | permissionUpgrade
  deriving DecidableEq

/-- Who acts: a user, a service account of one tenant, or the platform itself for one purpose. -/
inductive Caller
  | user (userId : Uuid)
  | serviceAccount (serviceAccountId tenantId : Uuid)
  | system (authority : SystemAuthority)
  deriving DecidableEq

/-! ## Platform operations -/

/-- The platform operations on tenants, users, credentials, platform authority, the outbox and
permission grant migrations. -/
inductive PlatformOperation
  | tenantCreateRoot
  | tenantCreateChild
  | tenantActivate
  | tenantSuspend
  | tenantReactivate
  | tenantMove
  | tenantDelete
  | tenantPurgeTransition
  | userDeactivate
  | userReactivate
  | sessionRevoke
  | apiKeyRevoke
  | operatorEnroll
  | operatorSuspend
  | operatorReactivate
  | operatorRevoke
  | grantCreate
  | grantRevoke
  | outboxReplay
  | permissionGrantApply
  deriving DecidableEq

def PlatformOperation.key : PlatformOperation → String
  | tenantCreateRoot => "tenant.create_root"
  | tenantCreateChild => "tenant.create_child"
  | tenantActivate => "tenant.activate"
  | tenantSuspend => "tenant.suspend"
  | tenantReactivate => "tenant.reactivate"
  | tenantMove => "tenant.move"
  | tenantDelete => "tenant.delete"
  | tenantPurgeTransition => "tenant.purge_transition"
  | userDeactivate => "user.deactivate"
  | userReactivate => "user.reactivate"
  | sessionRevoke => "session.revoke"
  | apiKeyRevoke => "api_key.revoke"
  | operatorEnroll => "operator.enroll"
  | operatorSuspend => "operator.suspend"
  | operatorReactivate => "operator.reactivate"
  | operatorRevoke => "operator.revoke"
  | grantCreate => "grant.create"
  | grantRevoke => "grant.revoke"
  | outboxReplay => "outbox.replay"
  | permissionGrantApply => "permission_grant.apply"

/-- The permission a person needs for the operation; `none` when no person may perform it. -/
def PlatformOperation.permission : PlatformOperation → Option PlatformPermission
  | tenantCreateRoot => some .tenantCreate
  | tenantCreateChild => some .tenantCreate
  | tenantActivate => some .tenantCreate
  | tenantSuspend => some .tenantSuspend
  | tenantReactivate => some .tenantReactivate
  | tenantMove => some .tenantMove
  | tenantDelete => some .tenantDelete
  | tenantPurgeTransition => none
  | userDeactivate => some .userDeactivate
  | userReactivate => some .userReactivate
  | sessionRevoke => some .sessionRevoke
  | apiKeyRevoke => some .apiKeyRevoke
  | operatorEnroll => some .authorityManage
  | operatorSuspend => some .authorityManage
  | operatorReactivate => some .authorityManage
  | operatorRevoke => some .authorityManage
  | grantCreate => some .authorityManage
  | grantRevoke => some .authorityManage
  | outboxReplay => some .outboxReplay
  | permissionGrantApply => some .permissionGrantApply

def PlatformOperation.systemAuthorities : PlatformOperation → List SystemAuthority
  | tenantCreateRoot => [.provisioning]
  | tenantCreateChild => [.provisioning]
  | tenantActivate => [.provisioning]
  | tenantPurgeTransition => [.tenantPurge]
  | operatorEnroll => [.platformBootstrap]
  | operatorSuspend => [.platformBootstrap]
  | grantCreate => [.platformBootstrap]
  | _ => []

/-! ## Errors -/

/-- The errors of the modelled operations, with what each of them names. -/
inductive ServiceError
  | integrityError
  | callerType (operation : String)
  | invalidPlatformRequest (message : String)
  | platformNotAuthorized (operation : String)
  | platformSelfTarget (operation : String)
  | platformSubjectNotFound (userId : Uuid)
  | lastPlatformOwner (operation : String)
  | deactivationScanLimit (operation : String) (ceiling : ℕ)
  | membershipAppeared
  | deactivationRetry (userId : Uuid)
  | invalidUserState (userId : Uuid) (state : String)
  | tenantParentRule (operation : String) (parentId : Uuid) (status : TenantStatus) (rule : String)
  | moveIntoCallerHierarchy (operation : String) (newParentId : Uuid)
  | tenantNotFound (tenantId : Uuid)
  | tenantClosed (tenantId : Uuid) (status : TenantStatus)
  | tenantInaccessible (tenantId : Uuid) (status : TenantStatus)
  | tenantCycle (tenantId newParentId : Uuid)
  | tenantHierarchyDepthExceeded (tenantId : Uuid) (depth maxDepth : ℕ)
  | invalidTenantTransition (current target : TenantStatus)
  | tenantHasDescendants (tenantId : Uuid) (children : List Uuid)
  | tenantNotPurging (tenantId : Uuid) (status : TenantStatus)
  | emptyMaximum
  | authorityNotAuthorized (operation : String) (tenantId : Uuid)
  | lastTenantAdministrator (tenantId : Uuid) (membershipId : Option Uuid)
  | membershipNotFound (tenantId membershipId : Uuid)
  | invitationInvalid
  | invalidMembershipTransition (membershipId : Uuid) (current target : MembershipStatus)
  | roleNotFound (tenantId roleId : Uuid)
  | permissionNotFound (permissionId : Uuid)
  | duplicatePermissionGrant (roleId permissionId : Uuid)
  | duplicateRoleAssignment (membershipId roleId : Uuid)
  | roleAssignmentNotAuthorized (actorUserId tenantId : Uuid)
  | invalidPrincipal (principalType : PrincipalType) (principalId : Uuid)
  | invalidDelegationTimeRange (startsAt expiresAt : Instant)
  | delegationNotAuthorized (delegatorUserId tenantId : Uuid)
  | delegationNotFound (tenantId delegationGrantId : Uuid)
  | denyNotAuthorized (grantorUserId tenantId : Uuid)
  | serviceAccountRoleNotAuthorized (actorUserId tenantId : Uuid)
  | duplicateServiceAccountRoleAssignment (serviceAccountId roleId : Uuid)
  deriving DecidableEq

/-- The result of an operation: an error, or what it returns. -/
abbrev Result (α : Type) := Except ServiceError α

/-- Raise `error` unless `condition` holds. -/
def require (condition : Bool) (error : ServiceError) : Result Unit :=
  if condition then .ok () else .error error

@[simp] lemma require_eq_ok {condition : Bool} {error : ServiceError} :
    require condition error = .ok () ↔ condition = true := by
  unfold require
  split <;> simp_all

end SaasOs
