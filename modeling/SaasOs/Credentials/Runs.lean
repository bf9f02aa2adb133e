import SaasOs.Credentials.Calls

/-!
# Runs of the calls on credentials

The contents change when a call commits, as its guarantee says, or from outside, where users and
credentials are left alone.  Through a whole run sessions and keys stay there with their owners, and
what is revoked stays revoked.
-/

namespace SaasOs

open ReadCommitted

variable {limit : ℕ} {call : CredentialCall} {held : Locks PlatformLock}
  {db db' : PlatformTables} {writes : List PlatformWrite}

/-! ## Sessions stay what they are -/

/-- A later version of the session: only its revocation may have been added. -/
structure UserSession.Continues (later earlier : UserSession) : Prop where
  id : later.id = earlier.id
  userId : later.userId = earlier.userId
  revokedAt : earlier.revokedAt ≠ none → later.revokedAt ≠ none

lemma UserSession.Continues.refl (session : UserSession) : session.Continues session :=
  ⟨rfl, rfl, fun h => h⟩

lemma UserSession.Continues.trans {a b c : UserSession} (h : a.Continues b) (h' : b.Continues c) :
    a.Continues c :=
  ⟨h.id.trans h'.id, h.userId.trans h'.userId, fun hrevoked => h.revokedAt (h'.revokedAt hrevoked)⟩

def SessionsContinue (db db' : PlatformTables) : Prop :=
  ∀ session ∈ db.sessions, ∃ session' ∈ db'.sessions, session'.Continues session

lemma sessionsContinue_refl (db : PlatformTables) : SessionsContinue db db :=
  fun session hsession => ⟨session, hsession, .refl session⟩

lemma SessionsContinue.trans {db'' : PlatformTables} (h : SessionsContinue db db')
    (h' : SessionsContinue db' db'') : SessionsContinue db db'' := by
  intro session hsession
  obtain ⟨session', hsession', hcontinues⟩ := h session hsession
  obtain ⟨session'', hsession'', hcontinues'⟩ := h' session' hsession'
  exact ⟨session'', hsession'', hcontinues'.trans hcontinues⟩

lemma sessionsContinue_write (view : PlatformTables) (w : PlatformWrite) :
    SessionsContinue view (view.write w) := by
  intro session hsession
  rcases sessions_write_cases view w with ⟨row, rfl⟩ | ⟨ids, now, rfl⟩ | hsame
  · exact ⟨session, List.mem_append_left _ hsession, .refl session⟩
  · refine ⟨_, List.mem_map.mpr ⟨session, hsession, rfl⟩, ?_⟩
    split
    · exact ⟨rfl, rfl, fun _ => Option.some_ne_none _⟩
    · exact .refl session
  · rw [hsame]
    exact ⟨session, hsession, .refl session⟩

lemma sessionsContinue_after (db : PlatformTables) (writes : List PlatformWrite) :
    SessionsContinue db (db.after writes) := by
  induction writes using List.reverseRecOn with
  | nil => exact sessionsContinue_refl db
  | append_singleton writes w ih =>
    rw [PlatformTables.after_concat]
    exact ih.trans (sessionsContinue_write _ w)

/-! ## Revoked credentials -/

namespace PlatformTables

/-- There is the session, and it is revoked. -/
def SessionRevoked (db : PlatformTables) (id : Uuid) : Prop :=
  (∃ session ∈ db.sessions, session.id = id) ∧
    ∀ session ∈ db.sessions, session.id = id → session.revokedAt ≠ none

/-- There is the key, and it is revoked. -/
def KeyRevoked (db : PlatformTables) (id : Uuid) : Prop :=
  (∃ key ∈ db.apiKeys, key.id = id) ∧ ∀ key ∈ db.apiKeys, key.id = id → key.revokedAt ≠ none

end PlatformTables

lemma sessionRevoked_of_continue (hpk : Rows.UniqueOn db'.sessions UserSession.id)
    (hcontinue : SessionsContinue db db') {session : UserSession} (hsession : session ∈ db.sessions)
    (hrevoked : session.revokedAt ≠ none) : db'.SessionRevoked session.id := by
  obtain ⟨later, hlater, hcontinues⟩ := hcontinue session hsession
  refine ⟨⟨later, hlater, hcontinues.id⟩, fun other hother hid => ?_⟩
  rw [hpk.eq_of_key_eq hother hlater (hid.trans hcontinues.id.symm)]
  exact hcontinues.revokedAt hrevoked

lemma keyRevoked_of_continue (hpk : Rows.UniqueOn db'.apiKeys ApiKey.id)
    (hcontinue : KeysContinue db db') {key : ApiKey} (hkey : key ∈ db.apiKeys)
    (hrevoked : key.revokedAt ≠ none) : db'.KeyRevoked key.id := by
  obtain ⟨later, hlater, hcontinues⟩ := hcontinue key hkey
  refine ⟨⟨later, hlater, hcontinues.id⟩, fun other hother hid => ?_⟩
  rw [hpk.eq_of_key_eq hother hlater (hid.trans hcontinues.id.symm)]
  exact hcontinues.revokedAt hrevoked

/-! ## The system -/

lemma PlatformTables.SameCredentials.of_eq (h : db' = db) : db.SameCredentials db' := by
  subst h
  exact ⟨rfl, rfl, rfl, rfl⟩

/-- The calls in progress, and the committed contents. -/
abbrev CredentialSystem :=
  System CredentialCall PlatformTables PlatformWrite PlatformLock (Except PlatformError Unit)

namespace CredentialSystem

/-- One event; `limit` is the number of keys that a user may hold. -/
def step (limit : ℕ) : CredentialSystem → Event CredentialCall PlatformTables → CredentialSystem :=
  System.step (CredentialCall.program limit) PlatformTables.write

def Allowed (s : CredentialSystem) : Event CredentialCall PlatformTables → Prop
  | .external db => s.db.SameCredentials db
  | .start _ _ | .advance _ | .abort _ => True

/-- What holds in every state of a run. -/
abbrev Sound (limit : ℕ) (s : CredentialSystem) : Prop :=
  System.Sound (credentialProtocol limit) (fun _ _ _ => True) s

variable {s : CredentialSystem} {event : Event CredentialCall PlatformTables}
  {events : List (Event CredentialCall PlatformTables)}

lemma Allowed.system (h : s.Allowed event) :
    System.Allowed (credentialProtocol limit) (fun _ => True) s event := by
  cases event with
  | external db => exact h
  | _ => trivial

lemma allowed_of_isInternal (h : event.isInternal = true) (s : CredentialSystem) :
    s.Allowed event := by
  cases event with
  | external db => cases h
  | _ => trivial

section

variable (h : Sound limit s)

include h

lemma sound_event (hallowed : s.Allowed event) :
    Sound limit (step limit s event) :=
  System.sound_step (fun call _ _ hinv => call.program_safe hinv) s event h hallowed.system

lemma sound_run (hallowed : Run.Along (step limit) Allowed s events) :
    Sound limit (Run.run (step limit) s events) :=
  Run.run_of_along (fun _ _ hsound hevent => sound_event hsound hevent) h hallowed

lemma db_event (hallowed : s.Allowed event) :
    s.db.SameCredentials (step limit s event).db ∨
      ∃ call held, CredentialGuarantee limit call held s.db (step limit s event).db := by
  rcases h.db_step hallowed.system with hsame | hothers | ⟨call, held, -, hguarantee⟩
  · exact .inl (.of_eq hsame)
  · exact .inl hothers
  · exact .inr ⟨call, held, hguarantee⟩

lemma continue_event (hallowed : s.Allowed event) :
    SessionsContinue s.db (step limit s event).db ∧ KeysContinue s.db (step limit s event).db := by
  rcases db_event h hallowed with hsame | ⟨call, held, hguarantee⟩
  · refine ⟨fun session hsession => ⟨session, ?_, .refl session⟩,
      fun key hkey => ⟨key, ?_, .refl key⟩⟩
    · rw [hsame.sessions]
      exact hsession
    · rw [hsame.apiKeys]
      exact hkey
  · obtain ⟨writes, -, hdb⟩ := hguarantee.justified
    rw [hdb]
    exact ⟨sessionsContinue_after _ _, keysContinue_after _ _⟩

lemma continue_run (hallowed : Run.Along (step limit) Allowed s events) :
    SessionsContinue s.db (Run.run (step limit) s events).db ∧
      KeysContinue s.db (Run.run (step limit) s events).db := by
  induction events generalizing s with
  | nil => exact ⟨sessionsContinue_refl _, keysContinue_refl _⟩
  | cons event events ih =>
    obtain ⟨hsessions, hkeys⟩ := continue_event h hallowed.1
    obtain ⟨hsessions', hkeys'⟩ := ih (sound_event h hallowed.1) hallowed.2
    exact ⟨hsessions.trans hsessions', hkeys.trans hkeys'⟩

end

end CredentialSystem

end SaasOs
