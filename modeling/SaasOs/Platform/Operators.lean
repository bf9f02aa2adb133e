import SaasOs.Identity.UserAuthority
import SaasOs.Foundation.ReadCommitted

/-!
# Operators and their grants

Who holds platform authority is changed by the enrolment of operators, their suspension,
reactivation and revocation, by the granting and revoking of single permissions, and by the two
composites for bootstrap and recovery; deactivating and reactivating users changes it too, because
the authority of an operator is that of an active user.
-/

namespace SaasOs

open ReadCommitted

/-! ## Tables, writes and locks -/

/-- A row of `core.external_identities`. -/
structure ExternalIdentity where
  id : Uuid
  userId : Uuid
  issuer : String
  subject : String

/-- What the audit row of a rotation says: which key replaced which. -/
structure KeyRotation where
  newKeyId : Uuid
  previousKeyId : Uuid
  deriving DecidableEq

/-- The tables, the links of users to external identities, and the audit rows of rotated API keys. -/
structure PlatformTables extends Tables where
  externalIdentities : List ExternalIdentity := []
  keyRotations : List KeyRotation := []

inductive PlatformWrite
  | insertUser (row : User)
  | insertExternalIdentity (row : ExternalIdentity)
  | deleteExternalIdentities (ids : List Uuid)
  | insertOperator (row : PlatformOperator)
  | setOperatorStatus (operatorId : Uuid) (status : OperatorStatus)
  | insertGrant (row : PlatformGrant)
  | revokeGrants (ids : List Uuid) (now : Instant)
  | setUserActive (userId : Uuid) (isActive : Bool)
  | revokeSessions (ids : List Uuid) (now : Instant)
  | revokeApiKeys (ids : List Uuid) (now : Instant)
  | insertSession (row : UserSession)
  | insertApiKey (row : ApiKey)
  | recordRotation (row : KeyRotation)
  | insertPermission (row : Permission)

def PlatformTables.write (db : PlatformTables) : PlatformWrite → PlatformTables
  | .insertUser row => { db with users := db.users ++ [row] }
  | .insertExternalIdentity row => { db with externalIdentities := db.externalIdentities ++ [row] }
  | .deleteExternalIdentities ids =>
    { db with externalIdentities := db.externalIdentities.filter fun row => !ids.contains row.id }
  | .insertOperator row => { db with platformOperators := db.platformOperators ++ [row] }
  | .setOperatorStatus operatorId status =>
    { db with
      platformOperators := db.platformOperators.map fun row =>
        if row.id = operatorId then { row with status := status } else row }
  | .insertGrant row => { db with platformGrants := db.platformGrants ++ [row] }
  | .revokeGrants ids now =>
    { db with
      platformGrants := db.platformGrants.map fun row =>
        if row.id ∈ ids then { row with revokedAt := some now } else row }
  | .setUserActive userId isActive =>
    { db with
      users := db.users.map fun row =>
        if row.id = userId then { row with isActive := isActive } else row }
  | .revokeSessions ids now =>
    { db with
      sessions := db.sessions.map fun row =>
        if row.id ∈ ids then { row with revokedAt := some now } else row }
  | .revokeApiKeys ids now =>
    { db with
      apiKeys := db.apiKeys.map fun row =>
        if row.id ∈ ids then { row with revokedAt := some now } else row }
  | .insertSession row => { db with sessions := db.sessions ++ [row] }
  | .insertApiKey row => { db with apiKeys := db.apiKeys ++ [row] }
  | .recordRotation row => { db with keyRotations := db.keyRotations ++ [row] }
  | .insertPermission row => { db with permissions := db.permissions ++ [row] }

namespace PlatformTables

def after (db : PlatformTables) (writes : List PlatformWrite) : PlatformTables :=
  writes.foldl write db

@[simp] lemma after_nil (db : PlatformTables) : db.after [] = db := rfl

@[simp] lemma after_concat (db : PlatformTables) (writes : List PlatformWrite) (w : PlatformWrite) :
    db.after (writes ++ [w]) = (db.after writes).write w :=
  List.foldl_concat _ _ _ _

def ActiveUser (db : PlatformTables) (userId : Uuid) : Prop :=
  ∃ row ∈ db.users, row.id = userId ∧ row.isActive = true

end PlatformTables

inductive PlatformLock
  /-- The advisory lock on the platform's owners. -/
  | owners
  /-- The advisory lock on the administrators of a tenant. -/
  | administrators (tenantId : Uuid)
  /-- The advisory lock on the API keys that a user may hold. -/
  | userKeyLimit (userId : Uuid)
  | row (key : RowKey)
  | externalIdentity (id : Uuid)
  | session (id : Uuid)
  | apiKey (id : Uuid)
  /-- The key of a user that is inserted. -/
  | newUser (id : Uuid)
  /-- The unique key of an identity link that is inserted. -/
  | newExternalIdentity (issuer subject : String)
  deriving DecidableEq

inductive PlatformError
  | service (e : ServiceError)
  | selfAuthorityChange (operation : String)
  | inactivePlatformSubject (userId : Uuid)
  | platformSubjectNotLinked (operation : String) (userId : Uuid)
  | platformOperatorAlreadyEnrolled (userId : Uuid)
  | platformOperatorNotFound (operatorId : Uuid)
  | invalidPlatformOperatorState (operatorId : Uuid) (status : OperatorStatus) (operation : String)
  | platformAmplification (operation : String) (permission : PlatformPermission)
  | duplicatePlatformGrant (operatorId : Uuid) (permission : PlatformPermission)
  | platformGrantNotFound (operatorId : Uuid) (permission : PlatformPermission)
  | platformAlreadyBootstrapped
  | invalidExternalIdentity
  | duplicateExternalIdentity (issuer subject : String)
  | enrolledOperatorErasure (operation : String)
  | inactiveUser (userId : Uuid)
  | invalidApiKeyName (message : String)
  | tenantMembershipRequired (tenantId userId : Uuid)
  | serviceAccountRequired (tenantId serviceAccountId : Uuid)
  | apiKeyNotAuthorized (actorUserId tenantId : Uuid)
  | apiKeyNotFound (tenantId keyId : Uuid)
  | apiKeyLimitExceeded (userId : Uuid) (limit : ℕ)
  | revokedApiKey (keyId : Uuid)
  | sessionNotFound
  deriving DecidableEq

/-- The part of a call that lies in its transaction. -/
abbrev PlatformBody (α : Type) := Body PlatformTables PlatformWrite PlatformLock PlatformError α

abbrev PlatformProgram :=
  Program PlatformTables PlatformWrite PlatformLock (Except PlatformError Unit)

/-! ## Statements -/

section Statements

def lockPlatformOwners : PlatformBody Unit := Body.lock .exclusive .owners

/-- A read of the registry that locks rows `FOR SHARE`. -/
def lockedQuery {α : Type} (query : PlatformTables → Locked α) : PlatformBody α :=
  Body.lockedRead .share (fun db => (query db).locks.map .row) fun db => .ok (query db).val

def authorizePlatformCaller (caller : Caller) (operation : PlatformOperation) : PlatformBody Unit := do
  let decision ← lockedQuery fun db => db.authorizePlatformCaller caller operation
  Body.check (decision.mapError .service)

def authorizeAll (caller : Caller) : List PlatformOperation → PlatformBody Unit
  | [] => pure ()
  | operation :: operations => do
    authorizePlatformCaller caller operation
    authorizeAll caller operations

def refuseSelf (operation : PlatformOperation) (caller : Caller) (subjectUserId : Uuid) :
    Except PlatformError Unit :=
  if caller = .user subjectUserId then .error (.selfAuthorityChange operation.key) else .ok ()

def requireActiveSubject (userId : Uuid) : PlatformBody Unit := do
  let isActive ← lockedQuery fun db => db.lockUserIsActive userId
  match isActive with
  | none => throw (.service (.platformSubjectNotFound userId))
  | some false => throw (.inactivePlatformSubject userId)
  | some true => return ()

def lockExternalIdentityExists (userId : Uuid) : PlatformBody Bool :=
  let links := fun db : PlatformTables => db.externalIdentities.find? fun row => row.userId == userId
  Body.lockedRead .share (fun db => (links db).toList.map fun row => .externalIdentity row.id)
    fun db => .ok (links db).isSome

def lockOperator (operatorId : Uuid) : PlatformBody PlatformOperator :=
  let row := fun db : PlatformTables => db.platformOperators.find? fun row => row.id == operatorId
  Body.lockedRead .exclusive (fun db => (row db).toList.map fun row => .row (.platformOperator row.id))
    fun db => (row db).elim (.error (.platformOperatorNotFound operatorId)) .ok

def lockUserExclusively (userId : Uuid) : PlatformBody (Option Bool) :=
  Body.lockedRead .exclusive (fun db => (db.lockUserIsActive userId).locks.map .row) fun db =>
    .ok (db.lockUserIsActive userId).val

def perform (write : PlatformWrite) : PlatformBody Unit :=
  Body.statement .exclusive (fun _ => []) (fun _ => [write]) fun _ => .ok ()

def Tables.liveGrants (db : Tables) (operatorId : Uuid) : List PlatformGrant :=
  db.platformGrants.filter fun grant => grant.operatorId == operatorId && grant.revokedAt.isNone

def Tables.unrevokedOperators (db : Tables) (userId : Uuid) : List PlatformOperator :=
  db.platformOperators.filter fun row => row.userId == userId && row.status != .revoked

def Tables.liveSessions (db : Tables) (userId : Uuid) : List Uuid :=
  (db.sessions.filter fun row => row.userId == userId && row.revokedAt.isNone).map UserSession.id

def Tables.liveApiKeys (db : Tables) (userId : Uuid) : List Uuid :=
  (db.apiKeys.filter fun row => row.userId == some userId && row.revokedAt.isNone).map ApiKey.id

/-- An update of many rows: those it finds are locked, and those that still qualify are written. -/
def revokeLive (live : PlatformTables → List Uuid) (lock : Uuid → PlatformLock)
    (write : List Uuid → PlatformWrite) : PlatformBody Unit := do
  let found ← Body.read fun db => .ok (live db)
  Body.statement .exclusive (fun _ => found.map lock)
    (fun db => [write ((live db).filter found.contains)]) fun _ => .ok ()

def revokeSessions (userId : Uuid) (now : Instant) : PlatformBody Unit :=
  revokeLive (fun db => db.liveSessions userId) .session fun ids => .revokeSessions ids now

def revokeUserApiKeysInTransaction (userId : Uuid) (now : Instant) : PlatformBody Unit :=
  revokeLive (fun db => db.liveApiKeys userId) .apiKey fun ids => .revokeApiKeys ids now

def revokeCredentials (userId : Uuid) (now : Instant) : PlatformBody Unit := do
  revokeSessions userId now
  revokeUserApiKeysInTransaction userId now

end Statements

/-! ## The changes -/

/-- The constraints on a new operator: the key, the foreign key, and the unique index on the operators
of a user that are not revoked. -/
def Tables.admitsOperator (db : Tables) (newId userId : Uuid) : Bool :=
  !(db.platformOperators.any fun row => row.id == newId) &&
    (db.users.any fun row => row.id == userId) && (db.unrevokedOperators userId).isEmpty

def enrollInTransaction (caller : Caller) (userId newId : Uuid) : PlatformBody Uuid := do
  Body.check (refuseSelf .operatorEnroll caller userId)
  requireActiveSubject userId
  let linked ← lockExternalIdentityExists userId
  Body.check (if linked then .ok () else
    .error (.platformSubjectNotLinked PlatformOperation.operatorEnroll.key userId))
  Body.read fun db => if (db.unrevokedOperators userId).isEmpty then .ok () else
    .error (.platformOperatorAlreadyEnrolled userId)
  Body.statement .exclusive (fun _ => [.row (.platformOperator newId)])
    (fun _ => [.insertOperator ⟨newId, userId, .active⟩]) fun db =>
      if db.admitsOperator newId userId then .ok newId else .error (.service .integrityError)

def setStatus (operation : PlatformOperation) (caller : Caller) (operatorId : Uuid)
    (expected new : OperatorStatus) : PlatformBody Unit := do
  let operator ← lockOperator operatorId
  Body.check (refuseSelf operation caller operator.userId)
  Body.check (if operator.status = expected then .ok () else
    .error (.invalidPlatformOperatorState operatorId operator.status operation.key))
  perform (.setOperatorStatus operatorId new)

def suspendInTransaction (caller : Caller) (operatorId : Uuid) : PlatformBody Unit :=
  setStatus .operatorSuspend caller operatorId .active .suspended

def requireHeld (caller : Caller) (permission : PlatformPermission) : PlatformBody Unit :=
  match caller with
  | .user userId => do
    let held ← lockedQuery fun db => db.platformCan userId permission
    Body.check (if held then .ok () else
      .error (.platformAmplification PlatformOperation.grantCreate.key permission))
  | .serviceAccount _ _ => pure ()
  | .system _ => pure ()

/-- The constraints on a new grant: the key, the foreign key, and the unique index on live grants. -/
def Tables.admitsGrant (db : Tables) (newId operatorId : Uuid) (permission : PlatformPermission) :
    Bool :=
  !(db.platformGrants.any fun row => row.id == newId) &&
    (db.platformOperators.any fun row => row.id == operatorId) &&
    !((db.liveGrants operatorId).any fun grant => grant.permission == permission)

def grantInTransaction (caller : Caller) (operatorId : Uuid) (permission : PlatformPermission)
    (newId : Uuid) : PlatformBody Unit := do
  let operator ← lockOperator operatorId
  Body.check (refuseSelf .grantCreate caller operator.userId)
  Body.check (if operator.status = .revoked then
    .error (.invalidPlatformOperatorState operatorId operator.status
      PlatformOperation.grantCreate.key) else .ok ())
  requireActiveSubject operator.userId
  requireHeld caller permission
  Body.read fun db =>
    if (db.liveGrants operatorId).any fun grant => grant.permission == permission then
      .error (.duplicatePlatformGrant operatorId permission)
    else
      .ok ()
  Body.statement .exclusive (fun _ => [.row (.platformGrant newId)])
    (fun _ => [.insertGrant ⟨newId, operatorId, permission, none⟩]) fun db =>
      if db.admitsGrant newId operatorId permission then .ok ()
      else .error (.service .integrityError)

def revokeInTransaction (caller : Caller) (operatorId : Uuid) (now : Instant) : PlatformBody Unit := do
  let operator ← lockOperator operatorId
  Body.check (refuseSelf .operatorRevoke caller operator.userId)
  Body.check (if operator.status = .revoked then
    .error (.invalidPlatformOperatorState operatorId operator.status
      PlatformOperation.operatorRevoke.key) else .ok ())
  Body.statement .exclusive
    (fun db => (db.liveGrants operatorId).map fun grant => .row (.platformGrant grant.id))
    (fun db => [.revokeGrants ((db.liveGrants operatorId).map PlatformGrant.id) now])
    fun _ => .ok ()
  perform (.setOperatorStatus operatorId .revoked)

def revokeGrantInTransaction (caller : Caller) (operatorId : Uuid) (permission : PlatformPermission)
    (now : Instant) : PlatformBody Unit := do
  let operator ← lockOperator operatorId
  Body.check (refuseSelf .grantRevoke caller operator.userId)
  let live := fun db : PlatformTables =>
    (db.liveGrants operatorId).find? fun grant => grant.permission == permission
  Body.statement .exclusive
    (fun db => (live db).toList.map fun grant => .row (.platformGrant grant.id))
    (fun db => (live db).toList.map fun grant => .revokeGrants [grant.id] now)
    fun db => if (live db).isSome then .ok () else
      .error (.platformGrantNotFound operatorId permission)

/-! ## The transaction of a change of authority -/

/-- The shape of every change of authority: the lock, the authorization, whether an owner exists, the
change, and whether one still does. -/
def authorityTransaction (operations : List PlatformOperation) (caller : Caller)
    (body : PlatformBody Unit) : PlatformProgram :=
  Body.transaction do
    lockPlatformOwners
    authorizeAll caller operations
    let hadOwner ← Body.read fun db => .ok db.platformOwnerExists
    body
    Body.read fun db => if hadOwner && !db.platformOwnerExists then
        .error (.service (.lastPlatformOwner ((operations.getLast?.map PlatformOperation.key).getD "")))
      else .ok ()

def validated {α : Type} (checked : Result α) (program : α → PlatformProgram) : PlatformProgram :=
  match checked with
  | .error e => .done (.error (.service e))
  | .ok a => program a

/-! ## Bootstrap and recovery -/

/-- The issuer and the subject of a person who is not resolved to a user yet. -/
structure OperatorIdentity where
  issuer : String
  subject : String
  issuer_valid : (PyString.strip issuer).isEmpty = false ∧ issuer.length ≤ 2048
  subject_valid : (PyString.strip subject).isEmpty = false ∧ subject.length ≤ 255

inductive PlatformSubject
  | user (userId : Uuid)
  | identity (identity : OperatorIdentity)

def PlatformTables.findUserId (db : PlatformTables) (issuer subject : String) : Option Uuid :=
  (db.externalIdentities.find? fun row => row.issuer == issuer && row.subject == subject).map
    ExternalIdentity.userId

def PlatformTables.findUser (db : PlatformTables) : PlatformSubject → Option Uuid
  | .user userId => some userId
  | .identity identity => db.findUserId identity.issuer identity.subject

/-- The ids of the rows that a composite may insert. -/
structure NewPlatformIds where
  user : Uuid
  externalIdentity : Uuid
  operator : Uuid

def newUserRows (newUserId newLinkId : Uuid) (issuer subject : String) : List PlatformWrite :=
  [.insertUser ⟨newUserId, true⟩, .insertExternalIdentity ⟨newLinkId, newUserId, issuer, subject⟩]

def PlatformTables.admitsNewUser (db : PlatformTables) (newUserId newLinkId : Uuid) : Bool :=
  !(db.users.any fun row => row.id == newUserId) &&
    !(db.externalIdentities.any fun row => row.id == newLinkId)

/-- The user linked to an identity, created with the link when there is none. -/
def getOrCreateUserId (newUserId newLinkId : Uuid) (issuer subject : String) : PlatformBody Uuid := do
  let existing ← Body.read fun db => .ok (db.findUserId issuer subject)
  match existing with
  | some userId => return userId
  | none =>
    let inserts := fun db : PlatformTables =>
      (db.findUserId issuer subject).isNone && db.admitsNewUser newUserId newLinkId
    Body.statement .exclusive
      (fun _ => [.newUser newUserId, .newExternalIdentity issuer subject])
      (fun db => if inserts db then newUserRows newUserId newLinkId issuer subject else [])
      fun db => if inserts db then .ok newUserId else
        (db.findUserId issuer subject).elim (.error (.duplicateExternalIdentity issuer subject)) .ok

def resolveUser (newIds : NewPlatformIds) : PlatformSubject → PlatformBody Uuid
  | .user userId => pure userId
  | .identity identity =>
    getOrCreateUserId newIds.user newIds.externalIdentity identity.issuer identity.subject

def grantAll (caller : Caller) (operatorId : Uuid) :
    List (PlatformPermission × Uuid) → PlatformBody Unit
  | [] => pure ()
  | (permission, newId) :: grants => do
    grantInTransaction caller operatorId permission newId
    grantAll caller operatorId grants

def Tables.livePermissions (db : Tables) (operatorId : Uuid) : List PlatformPermission :=
  (db.liveGrants operatorId).map PlatformGrant.permission

def PlatformTables.isBootstrappedAs (db : PlatformTables) (owner : PlatformSubject)
    (requested : List PlatformPermission) : Bool :=
  match db.platformOperators with
  | [only] => db.findUser owner == some only.userId && only.status == .active &&
      ((db.livePermissions only.id).all requested.contains) &&
      requested.all (db.livePermissions only.id).contains
  | _ => false

/-- Enroll the first owner and grant the permissions; a second run that asks for what is there
changes nothing. -/
def bootstrapInTransaction (caller : Caller) (owner : PlatformSubject)
    (requested : List (PlatformPermission × Uuid)) (newIds : NewPlatformIds) : PlatformBody Unit := do
  let existing ← Body.read fun db =>
    if db.platformOperators.isEmpty then .ok false
    else if db.isBootstrappedAs owner (requested.map Prod.fst) then .ok true
    else .error .platformAlreadyBootstrapped
  if existing then
    return ()
  else
    let userId ← resolveUser newIds owner
    let operatorId ← enrollInTransaction caller userId newIds.operator
    grantAll caller operatorId requested

def enrollOrReuse (caller : Caller) (userId newId : Uuid) : PlatformBody Uuid := do
  let row := fun db : PlatformTables => (db.unrevokedOperators userId).head?
  let current ← Body.lockedRead .exclusive
    (fun db => (row db).toList.map fun operator => .row (.platformOperator operator.id))
    fun db => .ok (row db)
  match current with
  | none => enrollInTransaction caller userId newId
  | some operator =>
    if operator.status = .active then
      let linked ← lockExternalIdentityExists userId
      Body.check (if linked then .ok operator.id else
        .error (.platformSubjectNotLinked PlatformOperation.operatorEnroll.key userId))
    else
      throw (.invalidPlatformOperatorState operator.id operator.status
        PlatformOperation.operatorEnroll.key)

def recoverEnrollment (caller : Caller) (requested : List (PlatformPermission × Uuid))
    (newIds : NewPlatformIds) : Option PlatformSubject → PlatformBody Unit
  | none => pure ()
  | some subject => do
    let userId ← resolveUser newIds subject
    let operatorId ← enrollOrReuse caller userId newIds.operator
    let held ← Body.read fun db => .ok (db.livePermissions operatorId)
    grantAll caller operatorId (requested.filter fun grant => !held.contains grant.1)

def recoverSuspension (caller : Caller) : Option Uuid → PlatformBody Unit
  | none => pure ()
  | some operatorId => do
    let row := fun db : PlatformTables => db.platformOperators.find? fun row => row.id == operatorId
    let status ← Body.lockedRead .exclusive
      (fun db => (row db).toList.map fun operator => .row (.platformOperator operator.id))
      fun db => .ok ((row db).map PlatformOperator.status)
    if status = some .suspended then pure () else suspendInTransaction caller operatorId

def recoverInTransaction (caller : Caller) (enroll : Option PlatformSubject)
    (requested : List (PlatformPermission × Uuid)) (suspendOperatorId : Option Uuid)
    (newIds : NewPlatformIds) : PlatformBody Unit := do
  recoverEnrollment caller requested newIds enroll
  recoverSuspension caller suspendOperatorId

def validatedPermissions (permissions : List PlatformPermission) (requireOwner : Bool) :
    Result Unit := do
  require (decide permissions.Nodup)
    (.invalidPlatformRequest "permissions must not contain duplicates.")
  require (!requireOwner || permissions.contains .authorityManage)
    (.invalidPlatformRequest ("the bootstrap permission list must include " ++
      "platform.authority:manage: bootstrap must leave the deployment with a platform owner."))

def requireBootstrapCaller (composite : String) : Caller → Result Unit
  | .system .platformBootstrap => .ok ()
  | .system _ => .error (.platformNotAuthorized composite)
  | .user _ => .error (.callerType composite)
  | .serviceAccount _ _ => .error (.callerType composite)

def validateRecovery (enroll : Option PlatformSubject) (requested : List PlatformPermission)
    (suspendOperatorId : Option Uuid) : Result Unit := do
  require (enroll.isSome || suspendOperatorId.isSome)
    (.invalidPlatformRequest "recovery must enroll an operator, suspend an operator, or both.")
  require (requested.isEmpty || enroll.isSome)
    (.invalidPlatformRequest "grant_permissions requires a person to enroll.")

def recoveryOperations (enroll : Option PlatformSubject) (requested : List PlatformPermission)
    (suspendOperatorId : Option Uuid) : List PlatformOperation :=
  (if enroll.isSome then [.operatorEnroll] else []) ++
    (if requested.isEmpty then [] else [.grantCreate]) ++
    if suspendOperatorId.isSome then [.operatorSuspend] else []

/-! ## Users -/

def lockAdministrators : List Uuid → PlatformBody Unit
  | [] => pure ()
  | tenantId :: tenantIds => do
    Body.lock .exclusive (.administrators tenantId)
    lockAdministrators tenantIds

/-- What a deactivation does before it changes anything: guard the tenants that the user is an active
member of, decide, lock the user, and look again. -/
def guardDeactivation (now : Instant) (userId : Uuid) (caller : Caller) (ceiling : ℕ) :
    PlatformBody AdministratorGuard := do
  let operation := PlatformOperation.userDeactivate
  Body.read fun db => (require (db.mayScan caller) (.platformNotAuthorized operation.key)).mapError
    .service
  Body.read fun db => (require (db.countUnpurgedTenants (ceiling + 1) ≤ ceiling)
    (.deactivationScanLimit operation.key ceiling)).mapError .service
  let first ← Body.read fun db => (db.scanActiveMemberships userId ceiling).mapError .service
  let order ← Body.read fun db => .ok (first.1.insertionSort db.rootFirst)
  lockAdministrators order
  let guard ← lockedQuery fun db => db.guardTenants now order
  authorizePlatformCaller caller operation
  Body.check ((Tables.requireOtherTarget userId caller).mapError .service)
  let isActive ← lockUserExclusively userId
  Body.check (match isActive with
    | none => .error (.service (.platformSubjectNotFound userId))
    | some false => .error (.service (.invalidUserState userId "inactive"))
    | some true => .ok ())
  let second ← Body.read fun db => (db.scanActiveMemberships userId ceiling).mapError .service
  Body.check ((require (second.1.all first.1.contains) .membershipAppeared).mapError .service)
  return guard

def deactivateBody (now : Instant) (userId : Uuid) (caller : Caller) (ceiling : ℕ) :
    PlatformBody Unit := do
  lockPlatformOwners
  let guard ← guardDeactivation now userId caller ceiling
  let hadOwner ← Body.read fun db => .ok db.platformOwnerExists
  perform (.setUserActive userId false)
  revokeCredentials userId now
  let verdict ← lockedQuery fun db => guard.verify db.toTables now
  Body.check (verdict.mapError .service)
  Body.read fun db => if hadOwner && !db.platformOwnerExists then
      .error (.service (.lastPlatformOwner PlatformOperation.userDeactivate.key))
    else .ok ()

def retryDeactivationProgram (userId : Uuid) (attempt : PlatformProgram) : ℕ → PlatformProgram
  | 0 => .done (.error (.service (.deactivationRetry userId)))
  | attempts + 1 => attempt.bind fun result =>
    if result = .error (.service .membershipAppeared) then
      retryDeactivationProgram userId attempt attempts
    else
      .done result

def reactivateBody (now : Instant) (userId : Uuid) (caller : Caller) : PlatformBody Unit := do
  lockPlatformOwners
  authorizePlatformCaller caller .userReactivate
  let isActive ← lockUserExclusively userId
  match isActive with
  | none => throw (.service (.platformSubjectNotFound userId))
  | some true => throw (.service (.invalidUserState userId "active"))
  | some false =>
    revokeCredentials userId now
    perform (.setUserActive userId true)

def createUserBody (newUserId : Uuid) : PlatformBody Unit :=
  Body.statement .exclusive (fun _ => [.newUser newUserId])
    (fun _ => [.insertUser ⟨newUserId, true⟩]) fun db =>
      if db.users.any fun row => row.id == newUserId then .error (.service .integrityError)
      else .ok ()

def linkExternalIdentityBody (newLinkId userId : Uuid) (issuer subject : String) :
    PlatformBody Unit :=
  Body.statement .exclusive (fun _ => [.newExternalIdentity issuer subject])
    (fun _ => [.insertExternalIdentity ⟨newLinkId, userId, issuer, subject⟩]) fun db =>
      if (db.findUserId issuer subject).isSome ||
          (db.externalIdentities.any fun row => row.id == newLinkId) then
        .error (.duplicateExternalIdentity issuer subject)
      else .ok ()

def findUserIdBody (issuer subject : String) : PlatformBody (Option Uuid) :=
  Body.read fun db => .ok (db.findUserId issuer subject)

/-- The first login of an identity, in transactions of their own: look for the user, or else create
one and link it; when another login has linked the identity first, its user is taken. -/
def firstLoginProgram (newUserId newLinkId : Uuid) (issuer subject : String) : PlatformProgram :=
  (findUserIdBody issuer subject).transaction.bind fun
    | .error e => .done (.error e)
    | .ok (some _) => .done (.ok ())
    | .ok none => (createUserBody newUserId).transaction.bind fun
      | .error e => .done (.error e)
      | .ok () => (linkExternalIdentityBody newLinkId newUserId issuer subject).transaction.bind fun
        | .ok () => .done (.ok ())
        | .error _ => (findUserIdBody issuer subject).transaction.bind fun
          | .error e => .done (.error e)
          | .ok (some _) => .done (.ok ())
          | .ok none => .done (.error (.duplicateExternalIdentity issuer subject))

def removeIdentityLinksBody (userId : Uuid) : PlatformBody Unit := do
  lockPlatformOwners
  Body.read fun db => if (db.unrevokedOperators userId).isEmpty then .ok () else
    .error (.enrolledOperatorErasure "user.erase")
  let links := fun db : PlatformTables => db.externalIdentities.filter fun row => row.userId == userId
  Body.statement .exclusive (fun db => (links db).map fun row => .externalIdentity row.id)
    (fun db => [.deleteExternalIdentities ((links db).map ExternalIdentity.id)]) fun _ => .ok ()

/-! ## The calls -/

/-- A call, with the ids of the rows it may insert and the time it writes. -/
inductive PlatformCall
  | enrollOperator (userId newId : Uuid) (caller : Caller) (reason : String)
  | suspendOperator (operatorId : Uuid) (caller : Caller) (reason : String)
  | reactivateOperator (operatorId : Uuid) (caller : Caller) (reason : String)
  | revokeOperator (operatorId : Uuid) (now : Instant) (caller : Caller) (reason : String)
  | grantPlatformPermission (operatorId : Uuid) (permission : PlatformPermission) (newId : Uuid)
      (caller : Caller) (reason : String)
  | revokePlatformPermission (operatorId : Uuid) (permission : PlatformPermission) (now : Instant)
      (caller : Caller) (reason : String)
  | bootstrapPlatformOwner (owner : PlatformSubject) (requested : List (PlatformPermission × Uuid))
      (newIds : NewPlatformIds) (caller : Caller) (reason : String)
  | recoverPlatformAuthority (enroll : Option PlatformSubject)
      (requested : List (PlatformPermission × Uuid)) (suspendOperatorId : Option Uuid)
      (newIds : NewPlatformIds) (caller : Caller) (reason : String)
  | deactivateUser (userId : Uuid) (now : Instant) (ceiling : ℕ) (caller : Caller) (reason : String)
  | reactivateUser (userId : Uuid) (now : Instant) (caller : Caller) (reason : String)
  | removeIdentityLinks (userId : Uuid) (actorUserId : Uuid)
  /-- The first login of an external identity. -/
  | firstLogin (newUserId newLinkId : Uuid) (issuer subject : String)

def PlatformCall.program : PlatformCall → PlatformProgram
  | enrollOperator userId newId caller reason =>
    validated (validateReason reason) fun _ =>
      authorityTransaction [.operatorEnroll] caller do
        let _ ← enrollInTransaction caller userId newId
  | suspendOperator operatorId caller reason =>
    validated (validateReason reason) fun _ =>
      authorityTransaction [.operatorSuspend] caller (suspendInTransaction caller operatorId)
  | reactivateOperator operatorId caller reason =>
    validated (validateReason reason) fun _ =>
      authorityTransaction [.operatorReactivate] caller
        (setStatus .operatorReactivate caller operatorId .suspended .active)
  | revokeOperator operatorId now caller reason =>
    validated (validateReason reason) fun _ =>
      authorityTransaction [.operatorRevoke] caller (revokeInTransaction caller operatorId now)
  | grantPlatformPermission operatorId permission newId caller reason =>
    validated (validateReason reason) fun _ =>
      authorityTransaction [.grantCreate] caller
        (grantInTransaction caller operatorId permission newId)
  | revokePlatformPermission operatorId permission now caller reason =>
    validated (validateReason reason) fun _ =>
      authorityTransaction [.grantRevoke] caller
        (revokeGrantInTransaction caller operatorId permission now)
  | bootstrapPlatformOwner owner requested newIds caller reason =>
    validated (do
        requireBootstrapCaller "platform.bootstrap" caller
        validatedPermissions (requested.map Prod.fst) true
        validateReason reason) fun _ =>
      authorityTransaction [.operatorEnroll, .grantCreate] caller
        (bootstrapInTransaction caller owner requested newIds)
  | recoverPlatformAuthority enroll requested suspendOperatorId newIds caller reason =>
    validated (do
        requireBootstrapCaller "platform.recover" caller
        let _ ← validateReason reason
        validatedPermissions (requested.map Prod.fst) false
        validateRecovery enroll (requested.map Prod.fst) suspendOperatorId) fun _ =>
      authorityTransaction
        (recoveryOperations enroll (requested.map Prod.fst) suspendOperatorId) caller
        (recoverInTransaction caller enroll requested suspendOperatorId newIds)
  | deactivateUser userId now ceiling caller reason =>
    validated (do
        refuseServiceAccount PlatformOperation.userDeactivate.key caller
        validateReason reason) fun _ =>
      retryDeactivationProgram userId (deactivateBody now userId caller ceiling).transaction
        maxAttempts
  | reactivateUser userId now caller reason =>
    validated (do
        refuseServiceAccount PlatformOperation.userReactivate.key caller
        validateReason reason) fun _ => (reactivateBody now userId caller).transaction
  | removeIdentityLinks userId _ => (removeIdentityLinksBody userId).transaction
  | firstLogin newUserId newLinkId issuer subject =>
    if PyString.hasControlCharacter issuer || PyString.hasControlCharacter subject then
      .done (.error .invalidExternalIdentity)
    else
      firstLoginProgram newUserId newLinkId issuer subject

end SaasOs
