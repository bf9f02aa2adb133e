import SaasOs.Credentials.Runs

/-!
# A deactivated user has no usable credential

Issuing a credential of a user waits for the row of the user, and so do deactivation and
reactivation, which leave no live credential behind.  So no order of the waits lets a credential land
behind the revocation (`deactivation_leaves_no_credential`).
-/

namespace SaasOs

open ReadCommitted

variable {limit : ℕ} {db : PlatformTables}

namespace CredentialSystem

variable {s : CredentialSystem} {event : Event CredentialCall PlatformTables}
  {events : List (Event CredentialCall PlatformTables)}

lemma deactivated_event (h : Sound limit s) {call : CredentialCall} {userId : Uuid}
    (hdeactivates : call.Deactivates userId) (hcommits : s.Commits event call) :
    (step limit s event).db.InactiveUser userId ∧ (step limit s event).db.NoneLive userId := by
  obtain ⟨held, hguarantee⟩ :=
    h.guarantee_of_commits (CredentialCall.program limit) hcommits
  exact ⟨hguarantee.deactivated userId hdeactivates,
    hguarantee.settled userId hdeactivates.sets⟩

lemma revoked_run (h : Sound limit s) {call : CredentialCall} {userId : Uuid}
    (hdeactivates : call.Deactivates userId) (hcommits : s.Commits event call)
    (hevent : s.Allowed event)
    (hallowed : Run.Along (step limit) Allowed (step limit s event) events) :
    (∀ session ∈ s.db.sessions, session.userId = userId →
      (Run.run (step limit) (step limit s event) events).db.SessionRevoked session.id) ∧
    ∀ key ∈ s.db.apiKeys, key.userId = some userId →
      (Run.run (step limit) (step limit s event) events).db.KeyRevoked key.id := by
  have hsound := sound_event h hevent
  obtain ⟨-, hnone⟩ := deactivated_event h hdeactivates hcommits
  obtain ⟨hsessions, hkeys⟩ := continue_event h hevent
  obtain ⟨hsessionsLater, hkeysLater⟩ := continue_run hsound hallowed
  have hvalid := (sound_run hsound hallowed).inv.valid
  constructor
  · intro session hsession huser
    obtain ⟨next, hnext, hcontinues⟩ := hsessions session hsession
    have hrevoked := hnone.sessions next hnext (hcontinues.userId.trans huser)
    rw [← hcontinues.id]
    exact sessionRevoked_of_continue hvalid.sessions_pk hsessionsLater hnext hrevoked
  · intro key hkey huser
    obtain ⟨next, hnext, hcontinues⟩ := hkeys key hkey
    have hrevoked := hnone.apiKeys next hnext (hcontinues.userId.trans huser)
    rw [← hcontinues.id]
    exact keyRevoked_of_continue hvalid.api_keys_pk hkeysLater hnext hrevoked

end CredentialSystem

/-- **Deactivation leaves no usable credential.**  In every interleaving of the calls that begins in
contents where inactive users have no live credential: in every committed state an inactive user has
no session and no API key that is not revoked; and when a deactivation has committed, every session
and every key that the user had before is revoked in every later state. -/
theorem deactivation_leaves_no_credential (hinv : CredentialInvariant db)
    {events : List (Event CredentialCall PlatformTables)}
    (hallowed : Run.Along (CredentialSystem.step limit) CredentialSystem.Allowed
      (System.initial db) events) :
    Run.Always (CredentialSystem.step limit)
      (fun s => ∀ userId, s.db.InactiveUser userId → s.db.NoneLive userId)
      (System.initial db) events ∧
    ∀ before event after call userId, events = before ++ event :: after →
      (Run.run (CredentialSystem.step limit) (System.initial db) before).Commits event call →
      call.Deactivates userId →
      let s := Run.run (CredentialSystem.step limit) (System.initial db) before
      Run.Always (CredentialSystem.step limit) (fun later =>
        (∀ session ∈ s.db.sessions, session.userId = userId →
          later.db.SessionRevoked session.id) ∧
        ∀ key ∈ s.db.apiKeys, key.userId = some userId → later.db.KeyRevoked key.id)
        (CredentialSystem.step limit s event) after := by
  have hstart : CredentialSystem.Sound limit (System.initial db) := System.sound_initial hinv
  constructor
  · rintro before after rfl
    exact (CredentialSystem.sound_run hstart (Run.along_append.mp hallowed).1).inv.inactive
  · rintro before event after call userId rfl hcommits hdeactivates s between rest rfl
    obtain ⟨hbefore, hevent, hafter⟩ := Run.along_append.mp hallowed
    have hsound := CredentialSystem.sound_run hstart hbefore
    exact CredentialSystem.revoked_run hsound hdeactivates hcommits hevent
      (Run.along_append.mp hafter).1

/-! ### A login that races a deactivation -/

def operatedUsers : PlatformTables where
  users := [⟨1, true⟩, ⟨2, true⟩]
  platformOperators := [⟨12, 2, .active⟩]
  platformGrants := [⟨21, 12, .authorityManage, none⟩, ⟨22, 12, .userDeactivate, none⟩,
    ⟨23, 12, .userReactivate, none⟩]

lemma credentialInvariant_operatedUsers : CredentialInvariant operatedUsers where
  valid :=
    { users_pk := by decide
      sessions_pk := by decide
      api_keys_pk := by decide
      rotations_new := by decide
      rotations_previous := by decide
      rotated := nofun }
  inactive := by
    rintro userId ⟨row, hrow, -, hinactive⟩
    have hactive : ∀ row ∈ operatedUsers.users, row.isActive = true := by decide
    rw [hactive row hrow] at hinactive
    cases hinactive

/-- A session is inserted while the deactivation waits for the row of the user; the next event of the
second call is the commit of the deactivation. -/
def loginBeforeDeactivation : List (Event CredentialCall PlatformTables) :=
  [.start 0 (.issueSession 31 1 "token" 5), .start 1 (.deactivateUser 1 3 10 (.user 2) "left"),
    .advance 0, .advance 0] ++ List.replicate 20 (.advance 1) ++ List.replicate 4 (.advance 0) ++
    List.replicate 10 (.advance 1)

def laterReactivation : List (Event CredentialCall PlatformTables) :=
  .start 2 (.reactivateUser 1 4 (.user 2) "back") :: List.replicate 15 (.advance 2)

/-- The session that landed before the deactivation is still revoked when the user is active again. -/
theorem deactivation_leaves_no_credential_login :
    ((Run.run (CredentialSystem.step 5) (System.initial operatedUsers)
        loginBeforeDeactivation).db.sessions.map UserSession.revokedAt = [none] ∧
      (Run.run (CredentialSystem.step 5) (System.initial operatedUsers)
        (loginBeforeDeactivation ++ .advance 1 :: laterReactivation)).db.users =
          [⟨1, true⟩, ⟨2, true⟩]) ∧
    (Run.run (CredentialSystem.step 5) (System.initial operatedUsers)
      (loginBeforeDeactivation ++ .advance 1 :: laterReactivation)).db.SessionRevoked 31 := by
  refine ⟨by decide +kernel, ?_⟩
  have hinternal : ∀ event ∈ loginBeforeDeactivation ++ .advance 1 :: laterReactivation,
      event.isInternal = true := by decide
  have hall := (@deactivation_leaves_no_credential 5 _ credentialInvariant_operatedUsers _
    (Run.along_of_mem fun event hevent s =>
      CredentialSystem.allowed_of_isInternal (hinternal event hevent) s)).2
  have hcommitting : (Run.run (CredentialSystem.step 5) (System.initial operatedUsers)
      loginBeforeDeactivation).committing (.advance 1) =
        some (.deactivateUser 1 3 10 (.user 2) "left") := by decide +kernel
  have hlater := hall loginBeforeDeactivation (.advance 1) laterReactivation _ 1 rfl
    (System.commits_of_committing hcommitting) rfl laterReactivation [] (List.append_nil _).symm
  have hsession : (⟨31, 1, "token", 5, none⟩ : UserSession) ∈ (Run.run (CredentialSystem.step 5)
      (System.initial operatedUsers) loginBeforeDeactivation).db.sessions := by decide +kernel
  rw [Run.run_append, Run.run_cons]
  exact hlater.1 ⟨31, 1, "token", 5, none⟩ hsession rfl

end SaasOs
