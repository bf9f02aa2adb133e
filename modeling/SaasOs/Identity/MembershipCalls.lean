import SaasOs.Foundation.ReadCommitted
import SaasOs.Identity.Invitations
import SaasOs.Tenancy.Lifecycle

/-!
# Joining and leaving tenants, concurrently

Invitations are created, redeemed and revoked, memberships are suspended, reactivated and revoked,
and tenants move through their lifecycle, all at the same time.  The programs below go through the
statements of these calls one by one, with the locks that each statement takes under
`READ COMMITTED`.
-/

namespace SaasOs

open ReadCommitted

namespace Membership

/-! ## Writes and locks -/

inductive Write
  | insertPermission (row : Permission)
  | insertInvitation (row : Invitation)
  | acceptInvitation (invitationId userId : Uuid) (now : Instant)
  | revokeInvitation (invitationId actorUserId : Uuid) (now : Instant)
  | insertMembership (row : TenantMembership)
  | setMembershipStatus (membershipId : Uuid) (status : MembershipStatus)
  | setTenantStatus (tenantId : Uuid) (status : TenantStatus)
  deriving DecidableEq

/-- What a transaction can lock: a row, an advisory lock, or the entry of a unique index that a new
row waits for. -/
inductive Lock
  | row (key : RowKey)
  | administrators (tenantId : Uuid)
  | invitation (id : Uuid)
  | newToken (tokenHash : String)
  | pendingInvitation (tenantId : Uuid) (email : String)
  | newMembership (tenantId userId : Uuid)
  deriving DecidableEq

inductive Error
  | service (e : ServiceError)
  | invitationNotAuthorized (actorUserId tenantId : Uuid)
  | invalidInvitationEmail (message : String)
  | duplicateInvitation (tenantId : Uuid) (email : String)
  | invitationNotFound (tenantId invitationId : Uuid)
  | invitationAlreadyAccepted (invitationId : Uuid)
  deriving DecidableEq

end Membership

def Tables.writeMembership (db : Tables) : Membership.Write → Tables
  | .insertPermission row => { db with permissions := db.permissions ++ [row] }
  | .insertInvitation row => { db with invitations := db.invitations ++ [row] }
  | .acceptInvitation invitationId userId now =>
    { db with invitations := db.invitationsAcceptedBy now invitationId userId }
  | .revokeInvitation invitationId actorUserId now =>
    { db with
      invitations := db.invitations.map fun row =>
        if row.id = invitationId then
          { row with revokedAt := some now, revokedByUserId := some actorUserId }
        else row }
  | .insertMembership row => { db with tenantMemberships := db.tenantMemberships ++ [row] }
  | .setMembershipStatus membershipId status =>
    { db with
      tenantMemberships := db.tenantMemberships.map fun row =>
        if row.id = membershipId then { row with status := status } else row }
  | .setTenantStatus tenantId status => db.setTenantStatus tenantId status

namespace Membership

abbrev Transaction (α : Type) := Body Tables Write Lock Error α

abbrev CallProgram := Program Tables Write Lock (Except Error Unit)

/-- What the calls take from the deployment and from libraries. -/
structure RedemptionConfig where
  tenancy : TenancyConfig := {}
  hashInvitationToken : String → String
  casefold : String → String

/-! ## Statements -/

def inTransaction {α : Type} (body : Transaction α) : Transaction α := ExceptT.mk body.transaction

def check {α : Type} (result : Result α) : Transaction α := Body.check (result.mapError .service)

def query {α : Type} (answer : Tables → Locked α) : Transaction α := Body.query .row answer

def queryResult {α : Type} (answer : Tables → Locked (Result α)) : Transaction α := do
  let result ← query answer
  check result

def updateRow (key : RowKey) (write : Write) : Transaction Unit :=
  Body.statement .exclusive (fun _ => [.row key]) (fun _ => [write]) fun _ => .ok ()

def registerPermission (newId : Uuid) (resource action : String) : Transaction Unit :=
  Body.statement .exclusive (fun _ => [])
    (fun db => if db.permissions.any fun p => p.resource == resource && p.action == action then []
      else [.insertPermission ⟨newId, resource, action⟩]) fun _ => .ok ()

def registerAndDecide (now : Instant) (newId : Uuid) (request : AccessRequest) (refusal : Error) :
    Transaction Unit := do
  registerPermission newId request.resource request.action
  let allowed ← query fun db => db.canLocked now request
  Body.check (if allowed then .ok () else .error refusal)

def authorizeCaller (now : Instant) (newId : Uuid) (caller : Caller) (operation : String)
    (tenantId : Uuid) (resource action : String) : Transaction Unit :=
  let refusal : Error := .service (.authorityNotAuthorized operation tenantId)
  match caller with
  | .system _ => throw refusal
  | .user userId =>
    registerAndDecide now newId ⟨userId, tenantId, action, resource, .user, none, false⟩ refusal
  | .serviceAccount serviceAccountId ownTenantId =>
    registerAndDecide now newId
      ⟨serviceAccountId, tenantId, action, resource, .serviceAccount, some ownTenantId, false⟩
      refusal

def requireOpenTenant (tenantId : Uuid) : Transaction Unit :=
  inTransaction (Body.read fun db =>
    ((db.requireOpenTenant tenantId).map fun _ => ()).mapError .service)

/-! ## Invitations -/

def normalizeEmail (casefold : String → String) (invitedEmail : String) : Except Error String :=
  let normalized := casefold (PyString.strip invitedEmail)
  if PyString.hasControlCharacter normalized then
    .error (.invalidInvitationEmail "not a valid email address")
  else if normalized.isEmpty || !(normalized.toList.contains '@') ||
      normalized.toList.head? == some '@' then
    .error (.invalidInvitationEmail "not a valid email address")
  else if 320 < normalized.length then
    .error (.invalidInvitationEmail "exceeds 320 characters.")
  else
    .ok normalized

def day : Instant := 24 * 60 * 60 * 1000000

/-- The expiry of an invitation: a week from now unless asked for otherwise, and at most thirty
days. -/
def resolveExpiry (now : Instant) (expiresAt : Option Instant) : Instant :=
  min (expiresAt.getD (now + 7 * day)) (now + 30 * day)

def admitsInvitation (db : Tables) (row : Invitation) : Bool :=
  !(db.invitations.any fun other => other.id == row.id) &&
    !(db.invitations.any fun other => other.tokenHash == row.tokenHash) &&
    !(db.invitations.any fun other => other.tenantId == row.tenantId &&
      other.invitedEmail == row.invitedEmail && other.acceptedAt.isNone && other.revokedAt.isNone) &&
    (db.tenants.any fun tenant => tenant.id == row.tenantId) &&
    (db.users.any fun user => user.id == row.inviterUserId) && decide (row.createdAt < row.expiresAt)

def insertInvitation (row : Invitation) : Transaction Unit :=
  Body.statement .exclusive
    (fun _ => [.invitation row.id, .newToken row.tokenHash,
      .pendingInvitation row.tenantId row.invitedEmail])
    (fun _ => [.insertInvitation row]) fun db =>
      if admitsInvitation db row then .ok ()
      else .error (.duplicateInvitation row.tenantId row.invitedEmail)

def createInvitation (config : RedemptionConfig) (now createdAt : Instant)
    (newId newPermissionId tenantId : Uuid) (invitedEmail rawToken : String) (caller : Caller)
    (expiresAt : Option Instant) : Transaction Unit := do
  let inviterUserId ← check (requireUserCaller "create_invitation" caller)
  requireOpenTenant tenantId
  let email ← Body.check (normalizeEmail config.casefold invitedEmail)
  inTransaction do
    registerAndDecide now newPermissionId
      ⟨inviterUserId, tenantId, "create", "invitation", .user, none, false⟩
      (.invitationNotAuthorized inviterUserId tenantId)
    insertInvitation ⟨newId, tenantId, email, config.hashInvitationToken rawToken, inviterUserId,
      createdAt, resolveExpiry now expiresAt, none, none, none, none⟩

def invitation? (db : Tables) (tenantId invitationId : Uuid) : Option Invitation :=
  db.invitations.find? fun row => row.tenantId == tenantId && row.id == invitationId

/-- Revoke an invitation that was read without a lock; the update locks the row, and the check on the
table refuses an invitation that has been accepted in between. -/
def markRevoked (invitation : Invitation) (actorUserId : Uuid) (now : Instant) : Transaction Unit :=
  Body.statement .exclusive (fun _ => [.invitation invitation.id])
    (fun _ => [.revokeInvitation invitation.id actorUserId now]) fun db =>
      if db.invitations.any fun row => row.id == invitation.id && row.acceptedAt.isSome then
        .error (.service .integrityError)
      else .ok ()

def revokeInvitation (now : Instant) (newPermissionId tenantId invitationId : Uuid)
    (caller : Caller) : Transaction Unit := do
  let actorUserId ← check (requireUserCaller "revoke_invitation" caller)
  registerAndDecide now newPermissionId
    ⟨actorUserId, tenantId, "revoke", "invitation", .user, none, false⟩
    (.invitationNotAuthorized actorUserId tenantId)
  let invitation ← Body.read fun db =>
    (invitation? db tenantId invitationId).elim (.error (.invitationNotFound tenantId invitationId))
      .ok
  if invitation.revokedAt.isSome then
    return ()
  else if invitation.acceptedAt.isSome then
    throw (.invitationAlreadyAccepted invitationId)
  else
    markRevoked invitation actorUserId now

/-! ### Redemption -/

def requireActiveUser (userId : Uuid) (operation : String) (tenantId : Uuid) :
    Transaction Unit := do
  let isActive ← query fun db => db.lockUserIsActive userId
  check (requireActive userId operation tenantId isActive)

def findInvitationId (tenantId : Uuid) (tokenHash : String) : Transaction Uuid :=
  Body.read fun db => ((Database.requireInvitation (db.invitationByTokenHash? tenantId tokenHash)).map
    Invitation.id).mapError .service

def lockInvitation (tenantId invitationId : Uuid) : Transaction Invitation :=
  Body.lockedRead .exclusive
    (fun db => (invitation? db tenantId invitationId).toList.map fun row => .invitation row.id)
    fun db => (Database.requireInvitation (invitation? db tenantId invitationId)).mapError .service

def admitsMembership (db : Tables) (row : TenantMembership) : Bool :=
  !(db.tenantMemberships.any fun other => other.id == row.id) &&
    !(db.tenantMemberships.any fun other =>
      other.tenantId == row.tenantId && other.userId == row.userId) &&
    (db.tenants.any fun tenant => tenant.id == row.tenantId) &&
    db.users.any fun user => user.id == row.userId

def insertMembership (row : TenantMembership) : Transaction Unit :=
  Body.statement .exclusive
    (fun _ => [.row (.tenantMembership row.id), .newMembership row.tenantId row.userId])
    (fun _ => [.insertMembership row]) fun db =>
      if admitsMembership db row then .ok () else .error (.service .integrityError)

def joinTenant (now : Instant) (newId tenantId userId : Uuid) : Transaction Unit := do
  let existing ← Body.read fun db => .ok (db.tenantMemberships.find? fun row =>
    row.tenantId == tenantId && row.userId == userId)
  match existing with
  | none => insertMembership ⟨newId, tenantId, userId, .active, now⟩
  | some membership =>
    check (require (membership.status = .active)
      (.invalidMembershipTransition membership.id membership.status .active))

def consumeLockedInvitation (now : Instant) (newId tenantId invitationId : Uuid)
    (tokenHash : String) (acceptingUserId : Uuid) (acceptingEmail : Option String) :
    Transaction Unit := do
  let invitation ← lockInvitation tenantId invitationId
  let tenant ← query fun db => db.lockAccessibleTenant tenantId
  check (fenceInvitation tenant)
  check (require (invitation.redeemable now tenantId tokenHash) .invitationInvalid)
  check (require (invitation.boundTo acceptingEmail) .invitationInvalid)
  Body.statement .exclusive (fun _ => [.invitation invitation.id])
    (fun _ => [.acceptInvitation invitation.id acceptingUserId now]) fun _ => .ok ()
  joinTenant now newId tenantId acceptingUserId

def acceptInvitation (config : RedemptionConfig) (now : Instant) (newId : Uuid) (rawToken : String)
    (tenantId : Uuid) (caller : Caller) (acceptingEmail : Option String) : Transaction Unit := do
  let acceptingUserId ← check (requireUserCaller "accept_invitation" caller)
  let tokenHash := config.hashInvitationToken rawToken
  requireActiveUser acceptingUserId "accept_invitation" tenantId
  let invitationId ← findInvitationId tenantId tokenHash
  consumeLockedInvitation now newId tenantId invitationId tokenHash acceptingUserId acceptingEmail

/-! ## Memberships -/

def lockAdministrators : List Uuid → Transaction Unit
  | [] => pure ()
  | tenantId :: tenantIds => do
    Body.lock .exclusive (.administrators tenantId)
    lockAdministrators tenantIds

def guardLastAdministrator (now : Instant) (tenantId : Uuid) (affectedUsers : List Uuid) :
    Transaction AdministratorGuard := do
  let reached ← Body.read fun db => .ok (db.reachedDescendants tenantId affectedUsers)
  lockAdministrators reached
  query fun db => db.guardTenants now (tenantId :: reached)

def transitionMembershipStatus (now : Instant) (newPermissionId tenantId membershipId : Uuid)
    (transition : MembershipTransition) (caller : Caller) : Transaction Unit := do
  Body.lock .exclusive (.administrators tenantId)
  authorizeCaller now newPermissionId caller (transition.verb ++ "_membership") tenantId
    "membership" transition.verb
  let membership ← Body.read fun db =>
    (db.getMembershipById tenantId membershipId).mapError .service
  if transition.idempotentFrom.contains membership.status then
    return ()
  else
    check (require (transition.allowedFrom.contains membership.status)
      (.invalidMembershipTransition membershipId membership.status transition.toStatus))
    let write : Write := .setMembershipStatus membershipId transition.toStatus
    if transition.removing then
      let guard ← guardLastAdministrator now tenantId [membership.userId]
      updateRow (.tenantMembership membershipId) write
      queryResult fun db => guard.verify db now (some membershipId)
    else
      updateRow (.tenantMembership membershipId) write

/-! ## Tenants -/

def holdsAnyPermission (userId : Uuid) : List PlatformPermission → Transaction Bool
  | [] => pure false
  | permission :: permissions => do
    let held ← inTransaction (query fun db => db.platformCan userId permission)
    if held then return true else holdsAnyPermission userId permissions

def platformCallerCouldHoldAny (caller : Caller) (operations : List PlatformOperation) :
    Transaction Bool :=
  match caller with
  | .system authority => pure (operations.any fun op => op.systemAuthorities.contains authority)
  | .serviceAccount _ _ => pure false
  | .user userId =>
    holdsAnyPermission userId (operations.filterMap PlatformOperation.permission).eraseDups

def passesTransitionGate (caller : Caller) (operations : List PlatformOperation) (tenantId : Uuid)
    (selfServiceOnly : Bool) : Transaction Bool := do
  let couldHold ← if selfServiceOnly then pure false else platformCallerCouldHoldAny caller operations
  if couldHold then
    return true
  else if operations.contains .tenantSuspend then
    inTransaction (Body.read fun db => .ok (db.callerIsMemberOfAny caller [tenantId]))
  else
    return false

def isAuthorized (caller : Caller) (operation : PlatformOperation) : Transaction Bool := do
  let decision ← query fun db => db.authorizePlatformCaller caller operation
  return decision.isOk

def requireSomeCandidate (caller : Caller) (refusal : ServiceError) :
    List PlatformOperation → Transaction Unit
  | [] => throw (.service refusal)
  | operation :: operations => do
    let allowed ← isAuthorized caller operation
    if allowed then return () else requireSomeCandidate caller refusal operations

/-- The self-service rule: an active member of exactly this tenant who holds `tenant:suspend` there
through an ordinary role. -/
def authorizeSelfSuspend (newPermissionId tenantId : Uuid) (refusal : ServiceError) :
    Caller → Transaction Unit
  | .user userId => do
    registerPermission newPermissionId "tenant" "suspend"
    let holds ← query fun db => db.holdsThroughOwnMembership userId tenantId "suspend" "tenant"
    check (require holds refusal)
  | .serviceAccount _ _ => throw (.service refusal)
  | .system _ => throw (.service refusal)

/-- The decision for one lifecycle operation: platform authority, or else the self-service rule. -/
def authorizeTransition (config : TenancyConfig) (newPermissionId : Uuid) (caller : Caller)
    (operation : PlatformOperation) (tenantId : Uuid) (reason : Option String)
    (selfServiceOnly : Bool) : Transaction Unit := do
  let refusal : ServiceError := .platformNotAuthorized operation.key
  let allowed ← if selfServiceOnly then pure false else isAuthorized caller operation
  if allowed then
    return ()
  else
    check (require (operation == .tenantSuspend) refusal)
    authorizeSelfSuspend newPermissionId tenantId refusal caller
    check (require (config.platformTenantId != some tenantId) refusal)
    check (require reason.isSome
      (.invalidPlatformRequest "reason is required to suspend one's own tenant."))

/-- The decision where the request fixes the operation: it comes before anything about the tenant is
reported. -/
def authorizeRequested (config : TenancyConfig) (newPermissionId : Uuid) (caller : Caller)
    (tenantId : Uuid) (reason : Option String) (selfServiceOnly : Bool) :
    List PlatformOperation → Transaction Unit
  | [requested] =>
    authorizeTransition config newPermissionId caller requested tenantId reason selfServiceOnly
  | _ => pure ()

def authorizeSelected (config : TenancyConfig) (newPermissionId : Uuid) (caller : Caller)
    (operation : PlatformOperation) (tenantId : Uuid) (reason : Option String) :
    List PlatformOperation → Transaction Unit
  | [_] => pure ()
  | _ => authorizeTransition config newPermissionId caller operation tenantId reason false

def guardDescendants (now : Instant) (tenantId : Uuid) (target : TenantStatus) :
    Transaction (Option AdministratorGuard) :=
  if target.isAccessibleToPrincipals then
    pure none
  else do
    Body.lock .exclusive (.administrators tenantId)
    let descendants ← Body.read fun db => .ok (db.descendantIdsByDepth tenantId)
    lockAdministrators descendants
    let guard ← query fun db => db.guardTenants now descendants
    return some guard

def lockTenantRow (tenantId : Uuid) : Transaction (Option Tenant) :=
  Body.lockedRead .exclusive (fun db => (db.tenant? tenantId).toList.map fun row => .row (.tenant row.id))
    fun db => .ok (db.tenant? tenantId)

/-- Report an error; where the request does not fix the operation, only to a caller who is authorized
for one of the candidates. -/
def disclose {α : Type} (caller : Caller) (candidates : List PlatformOperation) (e : ServiceError) :
    Transaction α := do
  match candidates with
  | [_] => throw (.service e)
  | _ =>
    requireSomeCandidate caller (candidatesRefusal candidates) candidates
    throw (.service e)

def transitionInTransaction (config : TenancyConfig) (now : Instant) (newPermissionId tenantId : Uuid)
    (target : TenantStatus) (caller : Caller) (reason : Option String)
    (candidates : List PlatformOperation) (expectedOperation : Option PlatformOperation)
    (selfService : Bool) : Transaction Unit := do
  let guard ← guardDescendants now tenantId target
  let found ← lockTenantRow tenantId
  authorizeRequested config newPermissionId caller tenantId reason selfService candidates
  match found with
  | none => disclose caller candidates (.tenantNotFound tenantId)
  | some tenant =>
    match validateTransition tenant.status target with
    | .error e => disclose caller candidates e
    | .ok () =>
      let operation ← check (transitionOperation tenant.status target)
      check (require (expectedOperation.all fun expected => expected == operation)
        (.invalidTenantTransition tenant.status target))
      authorizeSelected config newPermissionId caller operation tenantId reason candidates
      updateRow (.tenant tenantId) (.setTenantStatus tenantId target)
      match guard with
      | none => pure ()
      | some guard => queryResult fun db => guard.verify db now

def transitionTenantStatus (config : TenancyConfig) (now : Instant) (newPermissionId tenantId : Uuid)
    (target : TenantStatus) (caller : Caller) (reason : Option String)
    (expectedOperation : Option PlatformOperation) (selfService : Bool) : Transaction Unit := do
  check (requireLifecycleCaller "tenant.transition" caller)
  let reason ← check (validatedReason reason)
  let candidates ← check (requestedOperations target expectedOperation selfService)
  let passes ← passesTransitionGate caller candidates tenantId selfService
  check (require passes (candidatesRefusal candidates))
  inTransaction (transitionInTransaction config now newPermissionId tenantId target caller reason
    candidates expectedOperation selfService)

/-! ## The calls -/

/-- A call, with the ids of the rows it may insert and the time it writes. -/
inductive Call
  | createInvitation (now createdAt : Instant) (newId newPermissionId tenantId : Uuid)
      (invitedEmail rawToken : String) (caller : Caller) (expiresAt : Option Instant)
  | acceptInvitation (now : Instant) (newId : Uuid) (rawToken : String) (tenantId : Uuid)
      (caller : Caller) (acceptingEmail : Option String)
  | revokeInvitation (now : Instant) (newPermissionId tenantId invitationId : Uuid) (caller : Caller)
  | suspendMembership (now : Instant) (newPermissionId tenantId membershipId : Uuid)
      (caller : Caller)
  | reactivateMembership (now : Instant) (newPermissionId tenantId membershipId : Uuid)
      (caller : Caller)
  | revokeMembership (now : Instant) (newPermissionId tenantId membershipId : Uuid) (caller : Caller)
  | transitionTenantStatus (now : Instant) (newPermissionId tenantId : Uuid) (target : TenantStatus)
      (caller : Caller) (reason : Option String) (expectedOperation : Option PlatformOperation)
      (selfService : Bool)
  deriving DecidableEq

def Call.program (config : RedemptionConfig) : Call → CallProgram
  | createInvitation now createdAt newId newPermissionId tenantId invitedEmail rawToken caller
      expiresAt =>
    (Membership.createInvitation config now createdAt newId newPermissionId tenantId invitedEmail
      rawToken caller expiresAt).run
  | acceptInvitation now newId rawToken tenantId caller acceptingEmail =>
    (Membership.acceptInvitation config now newId rawToken tenantId caller
      acceptingEmail).transaction
  | revokeInvitation now newPermissionId tenantId invitationId caller =>
    (Membership.revokeInvitation now newPermissionId tenantId invitationId caller).transaction
  | suspendMembership now newPermissionId tenantId membershipId caller =>
    (transitionMembershipStatus now newPermissionId tenantId membershipId .suspend
      caller).transaction
  | reactivateMembership now newPermissionId tenantId membershipId caller =>
    (do
      requireOpenTenant tenantId
      inTransaction (transitionMembershipStatus now newPermissionId tenantId membershipId .reactivate
        caller) : Transaction Unit).run
  | revokeMembership now newPermissionId tenantId membershipId caller =>
    (transitionMembershipStatus now newPermissionId tenantId membershipId .revoke caller).transaction
  | transitionTenantStatus now newPermissionId tenantId target caller reason expectedOperation
      selfService =>
    (Membership.transitionTenantStatus config.tenancy now newPermissionId tenantId target caller
      reason expectedOperation selfService).run

end Membership

end SaasOs
