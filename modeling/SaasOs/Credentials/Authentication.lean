import SaasOs.Credentials.Deactivation
import SaasOs.Credentials.Lineage

/-!
# Authentication by a key or a session

`validate_api_key` reads the key, its tenant and its owner one after the other, in transactions of
their own.  A revoked credential authenticates nobody any more.
-/

namespace SaasOs

open ReadCommitted

/-- The errors of `validate_api_key` and of `validate_session`. -/
inductive AuthenticationError
  | invalidApiKey
  | revokedApiKey (keyId : Uuid)
  | expiredApiKey (keyId : Uuid)
  | tenantNotFound (tenantId : Uuid)
  | inactiveServiceAccount (keyId serviceAccountId : Uuid)
  | sessionNotFound
  | sessionRevoked (sessionId : Uuid)
  | sessionExpired (sessionId : Uuid)
  | inactiveUser (userId : Uuid)

namespace Tables

/-- `User.is_active`. -/
def hasActiveUser (db : Tables) (userId : Uuid) : Bool :=
  (db.users.find? fun user => user.id == userId).any User.isActive

/-- The account is `ACTIVE`. -/
def hasActiveServiceAccount (db : Tables) (tenantId serviceAccountId : Uuid) : Bool :=
  (db.serviceAccounts.find? fun account =>
    account.tenantId == tenantId && account.id == serviceAccountId).any (·.status == .active)

/-- `validate_api_key`, with the contents that each of its reads sees. -/
def validateApiKey (db atTenant atUser atAccount : Tables) (now : Instant) (keyHash : String) :
    Except AuthenticationError ApiKey :=
  match db.apiKeys.find? fun key => key.keyHash == keyHash with
  | none => .error .invalidApiKey
  | some key =>
    if key.revokedAt.isSome then .error (.revokedApiKey key.id)
    else if key.expiresAt.any (· ≤ now) then .error (.expiredApiKey key.id)
    else
      match atTenant.tenant? key.tenantId with
      | none => .error (.tenantNotFound key.tenantId)
      | some tenant =>
        if !tenant.status.isAccessibleToPrincipals then .error .invalidApiKey
        else if key.userId.any fun userId => !atUser.hasActiveUser userId then
          .error .invalidApiKey
        else
          match key.serviceAccountId with
          | none => .ok key
          | some serviceAccountId =>
            if atAccount.hasActiveServiceAccount key.tenantId serviceAccountId then .ok key
            else .error (.inactiveServiceAccount key.id serviceAccountId)

/-- `validate_session`; its second read, of the user, sees a later state. -/
def validateSession (db atUser : Tables) (now : Instant) (tokenHash : String) :
    Except AuthenticationError UserSession :=
  match db.sessions.find? fun row => row.tokenHash == tokenHash with
  | none => .error .sessionNotFound
  | some row =>
    if row.revokedAt.isSome then .error (.sessionRevoked row.id)
    else if row.expiresAt ≤ now then .error (.sessionExpired row.id)
    else if atUser.hasActiveUser row.userId then .ok row
    else .error (.inactiveUser row.userId)

end Tables

namespace PlatformTables

variable {db : PlatformTables} {id : Uuid}

/-- The key authenticates at some time, whatever the later reads of the validation see. -/
def KeyAuthenticates (db : PlatformTables) (id : Uuid) : Prop :=
  ∃ atTenant atUser atAccount now keyHash key,
    db.validateApiKey atTenant atUser atAccount now keyHash = .ok key ∧ key.id = id

/-- The same of a session. -/
def SessionAuthenticates (db : PlatformTables) (id : Uuid) : Prop :=
  ∃ atUser now tokenHash row, db.validateSession atUser now tokenHash = .ok row ∧ row.id = id

/-- What passes is live. -/
lemma KeyRevoked.not_authenticates (h : db.KeyRevoked id) : ¬db.KeyAuthenticates id := by
  rintro ⟨atTenant, atUser, atAccount, now, keyHash, key, hkey, rfl⟩
  have hlive : key ∈ db.apiKeys ∧ key.revokedAt = none := by
    unfold Tables.validateApiKey at hkey
    repeat' split at hkey
    all_goals cases hkey
    all_goals exact ⟨List.mem_of_find?_eq_some ‹_›, Option.not_isSome_iff_eq_none.mp ‹_›⟩
  exact h.2 key hlive.1 rfl hlive.2

/-- So is a session that passes. -/
lemma SessionRevoked.not_authenticates (h : db.SessionRevoked id) :
    ¬db.SessionAuthenticates id := by
  rintro ⟨atUser, now, tokenHash, row, hrow, rfl⟩
  have hlive : row ∈ db.sessions ∧ row.revokedAt = none := by
    unfold Tables.validateSession at hrow
    repeat' split at hrow
    all_goals cases hrow
    exact ⟨List.mem_of_find?_eq_some ‹_›, Option.not_isSome_iff_eq_none.mp ‹_›⟩
  exact h.2 row hlive.1 rfl hlive.2

end PlatformTables

/-- **What is revoked never authenticates again.**  In every interleaving of the calls: a key or a
session that is revoked in a committed state, by whichever call, authenticates nobody in any later
state. -/
theorem revoked_never_authenticates {limit : ℕ} {db : PlatformTables}
    {before after : List (Event CredentialCall PlatformTables)} (hinv : CredentialInvariant db)
    (hallowed : Run.Along (CredentialSystem.step limit) CredentialSystem.Allowed
      (System.initial db) (before ++ after)) :
    let s := Run.run (CredentialSystem.step limit) (System.initial db) before
    Run.Always (CredentialSystem.step limit) (fun later => ∀ id,
      (s.db.KeyRevoked id → ¬later.db.KeyAuthenticates id) ∧
      (s.db.SessionRevoked id → ¬later.db.SessionAuthenticates id)) s after := by
  rintro s between rest rfl id
  obtain ⟨hbefore, hafter⟩ := Run.along_append.mp hallowed
  have hsound : CredentialSystem.Sound limit s :=
    CredentialSystem.sound_run (System.sound_initial hinv) hbefore
  have hbetween := (Run.along_append.mp hafter).1
  constructor
  · intro hrevoked
    exact (CredentialSystem.keyRevoked_run hsound hbetween hrevoked).not_authenticates
  · rintro ⟨⟨row, hrow, rfl⟩, hall⟩
    have hpk := (CredentialSystem.sound_run hsound hbetween).inv.valid.sessions_pk
    have hcontinue := (CredentialSystem.continue_run hsound hbetween).1
    exact (sessionRevoked_of_continue hpk hcontinue hrow (hall row hrow rfl)).not_authenticates

/-- The session authenticates until the deactivation commits, and not when its user is active
again. -/
theorem revoked_never_authenticates_login :
    (let db := (Run.run (CredentialSystem.step 5) (System.initial operatedUsers)
        loginBeforeDeactivation).db
     db.validateSession db.toTables 1 "token").isOk = true ∧
      ¬(Run.run (CredentialSystem.step 5) (System.initial operatedUsers)
        ((loginBeforeDeactivation ++ [.advance 1]) ++ laterReactivation)).db.SessionAuthenticates
          31 := by
  refine ⟨by decide +kernel, ?_⟩
  have hinternal : ∀ event ∈ (loginBeforeDeactivation ++ [.advance 1]) ++ laterReactivation,
      event.isInternal = true := by decide
  have hrevoked : (Run.run (CredentialSystem.step 5) (System.initial operatedUsers)
      (loginBeforeDeactivation ++ [.advance 1])).db.SessionRevoked 31 := by
    unfold PlatformTables.SessionRevoked
    decide +kernel
  rw [Run.run_append]
  exact (@revoked_never_authenticates 5 _ _ _ credentialInvariant_operatedUsers
    (Run.along_of_mem fun event hevent s =>
      CredentialSystem.allowed_of_isInternal (hinternal event hevent) s)
    laterReactivation [] (List.append_nil _).symm 31).2 hrevoked

end SaasOs
