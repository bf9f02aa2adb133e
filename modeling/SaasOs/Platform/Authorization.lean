import SaasOs.Rbac.Authorization
import SaasOs.Foundation.PyString

/-!
# Platform authority

Operations on the platform itself (creating, moving and closing tenants, deactivating users) are
authorized by grants of enrolled operators, never by a tenant's roles.  `platformCan` decides for
one permission, `authorizePlatformCaller` for one declared operation and any kind of caller.
-/

namespace SaasOs

def refuseServiceAccount (operation : String) : Caller → Result Unit
  | .serviceAccount _ _ => .error (.platformNotAuthorized operation)
  | .user _ => .ok ()
  | .system _ => .ok ()

def maxReasonLength : ℕ := 500

/-- A reason must be non-empty, short enough and free of control characters; the stripped value is
kept. -/
def validateReason (reason : String) : Result String :=
  let value := PyString.strip reason
  if value.isEmpty then
    .error (.invalidPlatformRequest "reason must not be empty.")
  else if maxReasonLength < value.length then
    .error (.invalidPlatformRequest "reason exceeds 500 characters.")
  else if PyString.hasControlCharacter value then
    .error (.invalidPlatformRequest "reason must not contain control characters.")
  else
    .ok value

def validatedReason : Option String → Result (Option String)
  | none => .ok none
  | some reason => some <$> validateReason reason

namespace Tables

/-- Does the user hold the platform permission: an active user, with an active operator row that has
an unrevoked grant of it? -/
def platformCan (db : Tables) (userId : Uuid) (permission : PlatformPermission) : Locked Bool := do
  if (← db.lockUserIsActive userId) == some true then
    match db.platformOperators.find? fun row => row.userId == userId && row.status != .revoked with
    | none => return false
    | some operator =>
      let status ← .reading [.platformOperator operator.id] operator.status
      if status = .active then
        .firstHit
          (db.platformGrants.filter fun grant =>
            grant.operatorId == operator.id && grant.permission == permission &&
              grant.revokedAt.isNone)
          fun grant => [.platformGrant grant.id]
      else
        return false
  else
    return false

def authorizePlatformCaller (db : Tables) (caller : Caller) (operation : PlatformOperation) :
    Locked (Result Unit) :=
  let refusal : Result Unit := .error (.platformNotAuthorized operation.key)
  match caller with
  | .system authority =>
    pure (require (operation.systemAuthorities.contains authority)
      (.platformNotAuthorized operation.key))
  | .serviceAccount _ _ => pure refusal
  | .user userId =>
    match operation.permission with
    | none => pure refusal
    | some permission => do
      return require (← db.platformCan userId permission) (.platformNotAuthorized operation.key)

def platformCallerCouldHoldAny (db : Tables) (caller : Caller) (operations : List PlatformOperation) :
    Bool :=
  match caller with
  | .system authority => operations.any fun op => op.systemAuthorities.contains authority
  | .serviceAccount _ _ => false
  | .user userId =>
    (operations.filterMap PlatformOperation.permission).any fun permission =>
      (db.platformCan userId permission).val

def platformOwnerExists (db : Tables) : Bool :=
  db.platformOperators.any fun operator =>
    operator.status == .active &&
      (db.users.any fun user => user.id == operator.userId && user.isActive) &&
      db.platformGrants.any fun grant =>
        grant.operatorId == operator.id && grant.permission == .authorityManage &&
          grant.revokedAt.isNone

end Tables

end SaasOs
