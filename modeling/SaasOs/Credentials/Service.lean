import SaasOs.Platform.Operators
import SaasOs.Identity.Invitations

/-!
# Sessions and API keys

A session is issued to a user who logs in, and an API key to a member of a tenant or to one of its
service accounts.  A key is rotated by revoking it and issuing another one with the same owner.
Revocation is permanent.  Platform operators revoke all sessions or all keys of a user, alone or
together with the deactivation of the user.
-/

namespace SaasOs

open ReadCommitted

def inTransaction {α : Type} (body : PlatformBody α) : PlatformBody α := ExceptT.mk body.transaction

/-! ## Authorization -/

def registerPermission (newId : Uuid) (resource action : String) : PlatformBody Unit :=
  Body.statement .exclusive (fun _ => [])
    (fun db => if db.permissions.any fun p => p.resource == resource && p.action == action then []
      else [.insertPermission ⟨newId, resource, action⟩]) fun _ => .ok ()

def registerAndDecide (now : Instant) (newId : Uuid) (request : AccessRequest)
    (refusal : PlatformError) : PlatformBody Unit := do
  registerPermission newId request.resource request.action
  let allowed ← lockedQuery fun db => db.canLocked now request
  Body.check (if allowed then .ok () else .error refusal)

def authorizeKeyCaller (now : Instant) (newId : Uuid) (caller : Caller) (operation : String)
    (tenantId : Uuid) (action : String) : PlatformBody Unit :=
  let refusal : PlatformError := .service (.authorityNotAuthorized operation tenantId)
  match caller with
  | .system _ => throw refusal
  | .user userId =>
    registerAndDecide now newId ⟨userId, tenantId, action, "api_key", .user, none, false⟩ refusal
  | .serviceAccount serviceAccountId ownTenantId =>
    registerAndDecide now newId
      ⟨serviceAccountId, tenantId, action, "api_key", .serviceAccount, some ownTenantId, false⟩
      refusal

def requireActiveCaller (userId : Uuid) (operation : String) (tenantId : Uuid) :
    PlatformBody Unit := do
  let isActive ← lockedQuery fun db => db.lockUserIsActive userId
  Body.check ((requireActive userId operation tenantId isActive).mapError .service)

/-- A user manages their own key, and a service account may revoke its own; anything else needs the
permission. -/
def authorizeKeyManagement (now : Instant) (newId : Uuid) (caller : Caller) (key : ApiKey)
    (operation action : String) (tenantId : Uuid) : PlatformBody Unit :=
  match caller with
  | .user userId =>
    if key.userId = some userId then
      if action = "revoke" then pure () else requireActiveCaller userId operation tenantId
    else
      authorizeKeyCaller now newId caller operation tenantId action
  | .serviceAccount serviceAccountId ownTenantId =>
    if action = "revoke" ∧ key.serviceAccountId = some serviceAccountId ∧
        key.tenantId = ownTenantId then
      pure ()
    else
      authorizeKeyCaller now newId caller operation tenantId action
  | .system _ => authorizeKeyCaller now newId caller operation tenantId action

def requireOpenTenant (tenantId : Uuid) : PlatformBody Unit :=
  inTransaction (Body.read fun db =>
    ((db.requireOpenTenant tenantId).map fun _ => ()).mapError .service)

def lockAccessibleTenant (tenantId : Uuid) : PlatformBody Unit := do
  let tenant ← lockedQuery fun db => db.lockAccessibleTenant tenantId
  Body.check ((tenant.map fun _ => ()).mapError .service)

/-! ## Sessions -/

def Tables.admitsSession (db : Tables) (row : UserSession) : Bool :=
  !(db.sessions.any fun other => other.id == row.id) &&
    !(db.sessions.any fun other => other.tokenHash == row.tokenHash) &&
    db.users.any fun user => user.id == row.userId

def issueSession (newId userId : Uuid) (tokenHash : String) (expiresAt : Instant) :
    PlatformBody Unit := do
  let isActive ← lockedQuery fun db => db.lockUserIsActive userId
  Body.check (if isActive = some true then .ok () else .error (.inactiveUser userId))
  let row : UserSession := ⟨newId, userId, tokenHash, expiresAt, none⟩
  Body.statement .exclusive (fun _ => [.session newId]) (fun _ => [.insertSession row]) fun db =>
    if db.admitsSession row then .ok () else .error (.service .integrityError)

/-- Revoke a session that is found live; the update does not ask again whether it still is. -/
def revokeSession (sessionId : Uuid) (now : Instant) : PlatformBody Unit := do
  let row ← Body.read fun db =>
    (db.sessions.find? fun row => row.id == sessionId).elim (.error .sessionNotFound) .ok
  if row.revokedAt.isSome then pure ()
  else
    Body.statement .exclusive (fun _ => [.session sessionId])
      (fun _ => [.revokeSessions [sessionId] now]) fun _ => .ok ()

def lockCredentialOwner (userId : Uuid) : PlatformBody Unit := do
  let isActive ← lockUserExclusively userId
  Body.check (if isActive.isSome then .ok () else .error (.service (.platformSubjectNotFound userId)))

def revokeUserSessions (userId : Uuid) (now : Instant) (caller : Caller) : PlatformBody Unit := do
  authorizePlatformCaller caller .sessionRevoke
  lockCredentialOwner userId
  revokeSessions userId now

/-! ## API keys -/

def validateName (name : String) : Except PlatformError Unit :=
  if (PyString.strip name).isEmpty then
    .error (.invalidApiKeyName "name must be a non-empty string.")
  else if 200 < name.length then
    .error (.invalidApiKeyName "name exceeds 200 characters.")
  else
    .ok ()

/-- The constraints on a new key: the unique columns, the owner, and the two composite foreign
keys. -/
def Tables.admitsApiKey (db : Tables) (row : ApiKey) : Bool :=
  !(db.apiKeys.any fun other => other.id == row.id) &&
    !(db.apiKeys.any fun other => other.keyHash == row.keyHash) &&
    row.userId.isSome != row.serviceAccountId.isSome &&
    (row.userId.all fun userId => db.tenantMemberships.any fun membership =>
      membership.tenantId == row.tenantId && membership.userId == userId) &&
    row.serviceAccountId.all fun serviceAccountId => db.serviceAccounts.any fun account =>
      account.tenantId == row.tenantId && account.id == serviceAccountId

def insertApiKey (row : ApiKey) (violation : PlatformError) : PlatformBody Unit :=
  Body.statement .exclusive (fun _ => [.apiKey row.id]) (fun _ => [.insertApiKey row]) fun db =>
    if db.admitsApiKey row then .ok () else .error violation

/-- Issue a key to the user, who holds fewer than `limit` of them. -/
def createApiKeyInTransaction (limit : ℕ) (newId tenantId userId : Uuid) (name keyHash : String)
    (expiresAt : Option Instant) : PlatformBody Unit := do
  Body.lock .exclusive (.userKeyLimit userId)
  requireActiveCaller userId "create_api_key" tenantId
  lockAccessibleTenant tenantId
  Body.read fun db => if limit ≤ ((db.liveApiKeys userId).take limit).length then
      .error (.apiKeyLimitExceeded userId limit)
    else
      .ok ()
  insertApiKey ⟨newId, tenantId, some userId, none, name, keyHash, expiresAt, none⟩
    (.tenantMembershipRequired tenantId userId)

def createApiKey (limit : ℕ) (newId tenantId userId : Uuid) (name keyHash : String)
    (expiresAt : Option Instant) : PlatformBody Unit := do
  requireOpenTenant tenantId
  Body.check (validateName name)
  requireOpenTenant tenantId
  inTransaction (createApiKeyInTransaction limit newId tenantId userId name keyHash expiresAt)

def createServiceAccountApiKey (now : Instant) (newId newPermissionId tenantId actorUserId
    serviceAccountId : Uuid) (name keyHash : String) (expiresAt : Option Instant) :
    PlatformBody Unit := do
  Body.check (validateName name)
  requireOpenTenant tenantId
  inTransaction (Body.read fun db => if db.serviceAccounts.any fun account =>
      account.tenantId == tenantId && account.id == serviceAccountId then .ok ()
    else .error (.serviceAccountRequired tenantId serviceAccountId))
  inTransaction do
    registerAndDecide now newPermissionId
      ⟨actorUserId, tenantId, "create", "api_key", .user, none, false⟩
      (.apiKeyNotAuthorized actorUserId tenantId)
    insertApiKey ⟨newId, tenantId, none, some serviceAccountId, name, keyHash, expiresAt, none⟩
      (.serviceAccountRequired tenantId serviceAccountId)

def Tables.apiKey? (db : Tables) (tenantId keyId : Uuid) : Option ApiKey :=
  db.apiKeys.find? fun row => row.id == keyId && row.tenantId == tenantId

def lockKey (tenantId keyId : Uuid) : PlatformBody ApiKey :=
  Body.lockedRead .exclusive
    (fun db => (db.apiKey? tenantId keyId).toList.map fun row => .apiKey row.id)
    fun db => (db.apiKey? tenantId keyId).elim (.error (.apiKeyNotFound tenantId keyId)) .ok

def revokeLockedKey (key : ApiKey) (now : Instant) : PlatformBody Unit :=
  if key.revokedAt.isSome then pure () else perform (.revokeApiKeys [key.id] now)

def revokeApiKey (now : Instant) (newPermissionId tenantId keyId : Uuid) (caller : Caller) :
    PlatformBody Unit := do
  let key ← lockKey tenantId keyId
  authorizeKeyManagement now newPermissionId caller key "revoke_api_key" "revoke" tenantId
  revokeLockedKey key now

def revokeServiceAccountApiKey (now : Instant) (newPermissionId tenantId keyId actorUserId : Uuid) :
    PlatformBody Unit := do
  registerAndDecide now newPermissionId
    ⟨actorUserId, tenantId, "revoke", "api_key", .user, none, false⟩
    (.apiKeyNotAuthorized actorUserId tenantId)
  let key ← lockKey tenantId keyId
  revokeLockedKey key now

/-- The earlier of two expiries, where `none` means "never". -/
def earlier (first second : Option Instant) : Option Instant :=
  match first, second with
  | none, second => second
  | first, none => first
  | some first, some second => some (min first second)

def keyOwner (tenantId keyId : Uuid) : PlatformBody (Option Uuid) :=
  inTransaction (Body.read fun db =>
    (db.apiKey? tenantId keyId).elim (.error (.apiKeyNotFound tenantId keyId)) fun key =>
      .ok key.userId)

def requireActiveOwner (tenantId : Uuid) : Option Uuid → PlatformBody Unit
  | none => pure ()
  | some userId => do
    let isActive ← lockedQuery fun db => db.lockUserIsActive userId
    Body.check (if isActive = some true then .ok () else
      .error (.service (.authorityNotAuthorized "rotate_api_key" tenantId)))

def rotateInTransaction (now : Instant) (newId newPermissionId tenantId keyId : Uuid)
    (caller : Caller) (ownerUserId : Option Uuid) (keyHash : String)
    (expiresNoLaterThan : Option Instant) : PlatformBody Unit := do
  lockAccessibleTenant tenantId
  requireActiveOwner tenantId ownerUserId
  let oldKey ← lockKey tenantId keyId
  authorizeKeyManagement now newPermissionId caller oldKey "rotate_api_key" "rotate" tenantId
  Body.check (if oldKey.revokedAt.isSome then .error (.revokedApiKey oldKey.id) else .ok ())
  perform (.revokeApiKeys [oldKey.id] now)
  insertApiKey ⟨newId, oldKey.tenantId, oldKey.userId, oldKey.serviceAccountId, oldKey.name, keyHash,
    earlier oldKey.expiresAt expiresNoLaterThan, none⟩ (.service .integrityError)
  perform (.recordRotation ⟨newId, keyId⟩)

def rotateApiKey (now : Instant) (newId newPermissionId tenantId keyId : Uuid) (caller : Caller)
    (keyHash : String) (expiresNoLaterThan : Option Instant) : PlatformBody Unit := do
  requireOpenTenant tenantId
  let ownerUserId ← keyOwner tenantId keyId
  inTransaction (rotateInTransaction now newId newPermissionId tenantId keyId caller ownerUserId
    keyHash expiresNoLaterThan)

/-- Revoke every API key of the user and change nothing else. -/
def revokeUserApiKeys (userId : Uuid) (now : Instant) (caller : Caller) : PlatformBody Unit := do
  authorizePlatformCaller caller .apiKeyRevoke
  Body.check (match caller with
    | .user _ => .ok ()
    | .serviceAccount _ _ | .system _ => .error (.service (.callerType "api_key.revoke")))
  lockCredentialOwner userId
  revokeUserApiKeysInTransaction userId now

/-! ## The calls -/

/-- A call, with the ids of the rows it may insert and the time it writes. -/
inductive CredentialCall
  | issueSession (newId userId : Uuid) (tokenHash : String) (expiresAt : Instant)
  | revokeSession (sessionId : Uuid) (now : Instant)
  | createApiKey (newId tenantId userId : Uuid) (name keyHash : String)
      (expiresAt : Option Instant)
  | createServiceAccountApiKey (now : Instant)
      (newId newPermissionId tenantId actorUserId serviceAccountId : Uuid) (name keyHash : String)
      (expiresAt : Option Instant)
  | rotateApiKey (now : Instant) (newId newPermissionId tenantId keyId : Uuid) (caller : Caller)
      (keyHash : String) (expiresNoLaterThan : Option Instant)
  | revokeApiKey (now : Instant) (newPermissionId tenantId keyId : Uuid) (caller : Caller)
  | revokeServiceAccountApiKey (now : Instant) (newPermissionId tenantId keyId actorUserId : Uuid)
  | revokeUserSessions (userId : Uuid) (now : Instant) (caller : Caller) (reason : String)
  | revokeUserApiKeys (userId : Uuid) (now : Instant) (caller : Caller) (reason : String)
  | deactivateUser (userId : Uuid) (now : Instant) (ceiling : ℕ) (caller : Caller) (reason : String)
  | reactivateUser (userId : Uuid) (now : Instant) (caller : Caller) (reason : String)
  deriving DecidableEq

def validateOperation (operation : PlatformOperation) (caller : Caller) (reason : String) :
    Result String := do
  refuseServiceAccount operation.key caller
  validateReason reason

/-- What a call runs; `limit` is the number of keys that a user may hold. -/
def CredentialCall.program (limit : ℕ) : CredentialCall → PlatformProgram
  | issueSession newId userId tokenHash expiresAt =>
    (SaasOs.issueSession newId userId tokenHash expiresAt).transaction
  | revokeSession sessionId now => (SaasOs.revokeSession sessionId now).transaction
  | createApiKey newId tenantId userId name keyHash expiresAt =>
    (SaasOs.createApiKey limit newId tenantId userId name keyHash expiresAt).run
  | createServiceAccountApiKey now newId newPermissionId tenantId actorUserId serviceAccountId name
      keyHash expiresAt =>
    (SaasOs.createServiceAccountApiKey now newId newPermissionId tenantId actorUserId
      serviceAccountId name keyHash expiresAt).run
  | rotateApiKey now newId newPermissionId tenantId keyId caller keyHash expiresNoLaterThan =>
    (SaasOs.rotateApiKey now newId newPermissionId tenantId keyId caller keyHash
      expiresNoLaterThan).run
  | revokeApiKey now newPermissionId tenantId keyId caller =>
    (SaasOs.revokeApiKey now newPermissionId tenantId keyId caller).transaction
  | revokeServiceAccountApiKey now newPermissionId tenantId keyId actorUserId =>
    (SaasOs.revokeServiceAccountApiKey now newPermissionId tenantId keyId actorUserId).transaction
  | revokeUserSessions userId now caller reason =>
    validated (validateOperation .sessionRevoke caller reason) fun _ =>
      (SaasOs.revokeUserSessions userId now caller).transaction
  | revokeUserApiKeys userId now caller reason =>
    validated (validateOperation .apiKeyRevoke caller reason) fun _ =>
      (SaasOs.revokeUserApiKeys userId now caller).transaction
  | deactivateUser userId now ceiling caller reason =>
    validated (validateOperation .userDeactivate caller reason) fun _ =>
      retryDeactivationProgram userId (deactivateBody now userId caller ceiling).transaction
        maxAttempts
  | reactivateUser userId now caller reason =>
    validated (validateOperation .userReactivate caller reason) fun _ =>
      (reactivateBody now userId caller).transaction

end SaasOs
