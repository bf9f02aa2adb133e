import SaasOs.Credentials.Service
import SaasOs.Foundation.ProgramLogic

/-!
# What the changes of credentials owe each other

Every write of a call on sessions and API keys is justified by the locks the call holds and by what
it has seen: a credential of a user is only inserted by a call that holds the row of the active
user, a credential is only revoked by a call that holds its row, and a rotation is recorded by a
call that holds the two keys.
-/

namespace SaasOs

open ReadCommitted

/-! ## The contents -/

/-- The key replaces another one: it has its tenant and its owner, and does not live longer. -/
structure ApiKey.Replaces (key previous : ApiKey) : Prop where
  tenantId : key.tenantId = previous.tenantId
  userId : key.userId = previous.userId
  serviceAccountId : key.serviceAccountId = previous.serviceAccountId
  expiresAt : ∀ t, previous.expiresAt = some t → ∃ t', key.expiresAt = some t' ∧ t' ≤ t

variable (key : ApiKey)

lemma ApiKey.Replaces.refl : key.Replaces key :=
  ⟨rfl, rfl, rfl, fun t h => ⟨t, h, le_rfl⟩⟩

lemma ApiKey.Replaces.trans {key middle previous : ApiKey} (h : key.Replaces middle)
    (h' : middle.Replaces previous) : key.Replaces previous where
  tenantId := h.tenantId.trans h'.tenantId
  userId := h.userId.trans h'.userId
  serviceAccountId := h.serviceAccountId.trans h'.serviceAccountId
  expiresAt t ht := by
    obtain ⟨t', ht', hle⟩ := h'.expiresAt t ht
    obtain ⟨t'', ht'', hle'⟩ := h.expiresAt t' ht'
    exact ⟨t'', ht'', hle'.trans hle⟩

namespace PlatformTables

/-- No session of the user is live, and no API key. -/
structure NoneLive (db : PlatformTables) (userId : Uuid) : Prop where
  sessions : ∀ row ∈ db.sessions, row.userId = userId → row.revokedAt ≠ none
  apiKeys : ∀ row ∈ db.apiKeys, row.userId = some userId → row.revokedAt ≠ none

def InactiveUser (db : PlatformTables) (userId : Uuid) : Prop :=
  ∃ row ∈ db.users, row.id = userId ∧ row.isActive = false

def liveKeyCount (db : PlatformTables) (userId : Uuid) : ℕ := (db.liveApiKeys userId).length

/-- What the schema says of users and credentials, and what the rotations recorded so far look
like. -/
structure CredentialsValid (db : PlatformTables) : Prop where
  users_pk : Rows.UniqueOn db.users User.id
  sessions_pk : Rows.UniqueOn db.sessions UserSession.id
  api_keys_pk : Rows.UniqueOn db.apiKeys ApiKey.id
  /-- Every key was issued by one rotation at most, and is rotated once at most. -/
  rotations_new : Rows.UniqueOn db.keyRotations KeyRotation.newKeyId
  rotations_previous : Rows.UniqueOn db.keyRotations KeyRotation.previousKeyId
  /-- A key that was rotated is revoked. -/
  rotated : ∀ rotation ∈ db.keyRotations, ∃ key ∈ db.apiKeys, ∃ previous ∈ db.apiKeys,
    key.id = rotation.newKeyId ∧ previous.id = rotation.previousKeyId ∧
      previous.revokedAt ≠ none ∧ key.Replaces previous

def InactiveWithout (db : PlatformTables) : Prop :=
  ∀ userId, db.InactiveUser userId → db.NoneLive userId

end PlatformTables

namespace CredentialCall

def Sets : CredentialCall → Uuid → Prop
  | deactivateUser target _ _ _ _, userId | reactivateUser target _ _ _, userId => target = userId
  | _, _ => False

def Deactivates : CredentialCall → Uuid → Prop
  | deactivateUser target _ _ _ _, userId => target = userId
  | _, _ => False

end CredentialCall

/-! ## Writes and what justifies them -/

def HoldsUser (held : Locks PlatformLock) (userId : Uuid) : Prop :=
  ∃ mode, (PlatformLock.row (.user userId), mode) ∈ held

/-- What a call that holds the locks has made sure of when it writes, in the committed contents and
in the view of its transaction. -/
def CredentialJustified (call : CredentialCall) (held : Locks PlatformLock)
    (db view : PlatformTables) : PlatformWrite → Prop
  | .insertSession row =>
    (PlatformLock.session row.id, LockMode.exclusive) ∈ held ∧ HoldsUser held row.userId ∧
      view.ActiveUser row.userId ∧ ∀ other ∈ view.sessions, other.id ≠ row.id
  | .insertApiKey row =>
    (PlatformLock.apiKey row.id, LockMode.exclusive) ∈ held ∧
      (∀ userId, row.userId = some userId → HoldsUser held userId ∧ view.ActiveUser userId) ∧
      ∀ other ∈ view.apiKeys, other.id ≠ row.id
  | .revokeSessions ids _ => ∀ id ∈ ids, (PlatformLock.session id, LockMode.exclusive) ∈ held
  | .revokeApiKeys ids _ => ∀ id ∈ ids, (PlatformLock.apiKey id, LockMode.exclusive) ∈ held
  | .recordRotation row =>
    (PlatformLock.apiKey row.newKeyId, LockMode.exclusive) ∈ held ∧
      (PlatformLock.apiKey row.previousKeyId, LockMode.exclusive) ∈ held ∧
      (∀ other ∈ view.keyRotations, other.newKeyId ≠ row.newKeyId) ∧
      (∀ other ∈ view.keyRotations, other.previousKeyId ≠ row.previousKeyId) ∧
      (∃ key ∈ view.apiKeys, ∃ previous ∈ view.apiKeys, key.id = row.newKeyId ∧
        previous.id = row.previousKeyId ∧ previous.revokedAt ≠ none ∧ key.Replaces previous) ∧
      ∃ previous ∈ db.apiKeys, previous.id = row.previousKeyId ∧ previous.revokedAt = none
  | .setUserActive userId _ =>
    (PlatformLock.row (.user userId), LockMode.exclusive) ∈ held ∧ call.Sets userId
  | .insertPermission _ => True
  | .insertUser _ | .insertExternalIdentity _ | .deleteExternalIdentities _ | .insertOperator _
  | .setOperatorStatus _ _ | .insertGrant _ | .revokeGrants _ _ => False

/-- The writes of a call, justified one after the other. -/
abbrev CredentialWrites (call : CredentialCall) (held : Locks PlatformLock) (db : PlatformTables) :
    List PlatformWrite → Prop :=
  JustifiedWrites PlatformTables.write (CredentialJustified call held db) db

variable {call : CredentialCall} {held held' : Locks PlatformLock}
  {db db' view view' : PlatformTables} {w : PlatformWrite} {writes : List PlatformWrite}

/-! ### Which table a write changes -/

lemma CredentialJustified.users (h : CredentialJustified call held db view w) :
    (∃ userId isActive, w = .setUserActive userId isActive) ∨
      (view.write w).users = view.users := by
  cases w with
  | setUserActive userId isActive => exact .inl ⟨userId, isActive, rfl⟩
  | insertUser row => exact h.elim
  | _ => exact .inr rfl

lemma sessions_write_cases (view : PlatformTables) (w : PlatformWrite) :
    (∃ row, w = .insertSession row) ∨ (∃ ids now, w = .revokeSessions ids now) ∨
      (view.write w).sessions = view.sessions := by
  cases w with
  | insertSession row => exact .inl ⟨row, rfl⟩
  | revokeSessions ids now => exact .inr (.inl ⟨ids, now, rfl⟩)
  | _ => exact .inr (.inr rfl)

lemma apiKeys_write_cases (view : PlatformTables) (w : PlatformWrite) :
    (∃ row, w = .insertApiKey row) ∨ (∃ ids now, w = .revokeApiKeys ids now) ∨
      (view.write w).apiKeys = view.apiKeys := by
  cases w with
  | insertApiKey row => exact .inl ⟨row, rfl⟩
  | revokeApiKeys ids now => exact .inr (.inl ⟨ids, now, rfl⟩)
  | _ => exact .inr (.inr rfl)

lemma keyRotations_write_cases (view : PlatformTables) (w : PlatformWrite) :
    (∃ row, w = .recordRotation row) ∨ (view.write w).keyRotations = view.keyRotations := by
  cases w with
  | recordRotation row => exact .inl ⟨row, rfl⟩
  | _ => exact .inr rfl

/-! ### Keys stay what they are -/

/-- A later version of the key: only its revocation may have been added. -/
structure ApiKey.Continues (later earlier : ApiKey) : Prop where
  id : later.id = earlier.id
  tenantId : later.tenantId = earlier.tenantId
  userId : later.userId = earlier.userId
  serviceAccountId : later.serviceAccountId = earlier.serviceAccountId
  expiresAt : later.expiresAt = earlier.expiresAt
  revokedAt : earlier.revokedAt ≠ none → later.revokedAt ≠ none

lemma ApiKey.Continues.refl : key.Continues key :=
  ⟨rfl, rfl, rfl, rfl, rfl, fun h => h⟩

lemma ApiKey.Continues.trans {a b c : ApiKey} (h : a.Continues b) (h' : b.Continues c) :
    a.Continues c where
  id := h.id.trans h'.id
  tenantId := h.tenantId.trans h'.tenantId
  userId := h.userId.trans h'.userId
  serviceAccountId := h.serviceAccountId.trans h'.serviceAccountId
  expiresAt := h.expiresAt.trans h'.expiresAt
  revokedAt hrevoked := h.revokedAt (h'.revokedAt hrevoked)

lemma ApiKey.Replaces.of_continues {key key' previous previous' : ApiKey}
    (h : key.Replaces previous) (hkey : key'.Continues key)
    (hprevious : previous'.Continues previous) : key'.Replaces previous' where
  tenantId := hkey.tenantId.trans (h.tenantId.trans hprevious.tenantId.symm)
  userId := hkey.userId.trans (h.userId.trans hprevious.userId.symm)
  serviceAccountId :=
    hkey.serviceAccountId.trans (h.serviceAccountId.trans hprevious.serviceAccountId.symm)
  expiresAt t ht := by
    rw [hprevious.expiresAt] at ht
    rw [hkey.expiresAt]
    exact h.expiresAt t ht

def KeysContinue (db db' : PlatformTables) : Prop :=
  ∀ key ∈ db.apiKeys, ∃ key' ∈ db'.apiKeys, key'.Continues key

lemma keysContinue_refl (db : PlatformTables) : KeysContinue db db :=
  fun key hkey => ⟨key, hkey, .refl key⟩

lemma KeysContinue.trans {db'' : PlatformTables} (h : KeysContinue db db')
    (h' : KeysContinue db' db'') : KeysContinue db db'' := by
  intro key hkey
  obtain ⟨key', hkey', hcontinues⟩ := h key hkey
  obtain ⟨key'', hkey'', hcontinues'⟩ := h' key' hkey'
  exact ⟨key'', hkey'', hcontinues'.trans hcontinues⟩

lemma keysContinue_write (view : PlatformTables) (w : PlatformWrite) :
    KeysContinue view (view.write w) := by
  intro key hkey
  rcases apiKeys_write_cases view w with ⟨row, rfl⟩ | ⟨ids, now, rfl⟩ | hsame
  · exact ⟨key, List.mem_append_left _ hkey, .refl key⟩
  · refine ⟨_, List.mem_map.mpr ⟨key, hkey, rfl⟩, ?_⟩
    split
    · exact ⟨rfl, rfl, rfl, rfl, rfl, fun _ => Option.some_ne_none _⟩
    · exact .refl key
  · rw [hsame]
    exact ⟨key, hkey, .refl key⟩

lemma keysContinue_after (db : PlatformTables) (writes : List PlatformWrite) :
    KeysContinue db (db.after writes) := by
  induction writes using List.reverseRecOn with
  | nil => exact keysContinue_refl db
  | append_singleton writes w ih =>
    rw [PlatformTables.after_concat]
    exact ih.trans (keysContinue_write _ w)

/-! ### The constraints are kept -/

lemma PlatformTables.CredentialsValid.write (h : view.CredentialsValid)
    (hw : CredentialJustified call held db view w) : (view.write w).CredentialsValid where
  users_pk := by
    rcases hw.users with ⟨userId, isActive, rfl⟩ | hsame
    · refine h.users_pk.map_of_key fun row => ?_
      split <;> rfl
    · rw [hsame]
      exact h.users_pk
  sessions_pk := by
    rcases sessions_write_cases view w with ⟨row, rfl⟩ | ⟨ids, now, rfl⟩ | hsame
    · exact h.sessions_pk.concat hw.2.2.2
    · refine h.sessions_pk.map_of_key fun row => ?_
      split <;> rfl
    · rw [hsame]
      exact h.sessions_pk
  api_keys_pk := by
    rcases apiKeys_write_cases view w with ⟨row, rfl⟩ | ⟨ids, now, rfl⟩ | hsame
    · exact h.api_keys_pk.concat hw.2.2
    · refine h.api_keys_pk.map_of_key fun row => ?_
      split <;> rfl
    · rw [hsame]
      exact h.api_keys_pk
  rotations_new := by
    rcases keyRotations_write_cases view w with ⟨row, rfl⟩ | hsame
    · exact h.rotations_new.concat hw.2.2.1
    · rw [hsame]
      exact h.rotations_new
  rotations_previous := by
    rcases keyRotations_write_cases view w with ⟨row, rfl⟩ | hsame
    · exact h.rotations_previous.concat hw.2.2.2.1
    · rw [hsame]
      exact h.rotations_previous
  rotated rotation hrotation := by
    have hbefore : ∃ key ∈ view.apiKeys, ∃ previous ∈ view.apiKeys, key.id = rotation.newKeyId ∧
        previous.id = rotation.previousKeyId ∧ previous.revokedAt ≠ none ∧
          key.Replaces previous := by
      rcases keyRotations_write_cases view w with ⟨row, rfl⟩ | hsame
      · rcases List.mem_append.mp hrotation with hold | hnew
        · exact h.rotated rotation hold
        · obtain rfl := List.mem_singleton.mp hnew
          exact hw.2.2.2.2.1
      · rw [hsame] at hrotation
        exact h.rotated rotation hrotation
    obtain ⟨key, hkey, previous, hprevious, hid, hpreviousId, hrevoked, hreplaces⟩ := hbefore
    obtain ⟨key', hkey', hcontinues⟩ := keysContinue_write view w key hkey
    obtain ⟨previous', hprevious', hcontinues'⟩ := keysContinue_write view w previous hprevious
    exact ⟨key', hkey', previous', hprevious', hcontinues.id.trans hid,
      hcontinues'.id.trans hpreviousId, hcontinues'.revokedAt hrevoked,
      hreplaces.of_continues hcontinues hcontinues'⟩

lemma credentialsValid_after (h : CredentialWrites call held db writes) (hvalid : db.CredentialsValid) :
    (db.after writes).CredentialsValid :=
  h.preserves hvalid fun _ _ hview hw => hview.write hw

/-! ## What the others leave alone -/

/-- What does not change while a call holds the locks. -/
structure CredentialRely (held : Locks PlatformLock) (db db' : PlatformTables) : Prop where
  users : ∀ userId, HoldsUser held userId → ∀ row : User, row.id = userId →
    (row ∈ db'.users ↔ row ∈ db.users)
  sessions : ∀ id, (PlatformLock.session id, LockMode.exclusive) ∈ held → ∀ row : UserSession,
    row.id = id → (row ∈ db'.sessions ↔ row ∈ db.sessions)
  apiKeys : ∀ id, (PlatformLock.apiKey id, LockMode.exclusive) ∈ held → ∀ row : ApiKey,
    row.id = id → (row ∈ db'.apiKeys ↔ row ∈ db.apiKeys)
  /-- Nobody else issues a session to a user whose row is held exclusively. -/
  noNewSession : ∀ userId, (PlatformLock.row (.user userId), LockMode.exclusive) ∈ held →
    ∀ row ∈ db'.sessions, row.userId = userId → row.revokedAt = none → row ∈ db.sessions
  noNewKey : ∀ userId, (PlatformLock.row (.user userId), LockMode.exclusive) ∈ held →
    ∀ row ∈ db'.apiKeys, row.userId = some userId → row.revokedAt = none → row ∈ db.apiKeys
  /-- Nobody else adds to the keys of a user whose limit is locked. -/
  limit : ∀ userId, (PlatformLock.userKeyLimit userId, LockMode.exclusive) ∈ held →
    db'.liveKeyCount userId ≤ db.liveKeyCount userId
  keys : KeysContinue db db'

lemma credentialRely_refl (held : Locks PlatformLock) (db : PlatformTables) :
    CredentialRely held db db where
  users _ _ _ _ := .rfl
  sessions _ _ _ _ := .rfl
  apiKeys _ _ _ _ := .rfl
  noNewSession _ _ _ h _ _ := h
  noNewKey _ _ _ h _ _ := h
  limit _ _ := le_rfl
  keys := keysContinue_refl db

lemma CredentialRely.trans {db'' : PlatformTables} (h : CredentialRely held db db')
    (h' : CredentialRely held db' db'') : CredentialRely held db db'' where
  users userId hheld row hid := (h'.users userId hheld row hid).trans (h.users userId hheld row hid)
  sessions id hheld row hid := (h'.sessions id hheld row hid).trans (h.sessions id hheld row hid)
  apiKeys id hheld row hid := (h'.apiKeys id hheld row hid).trans (h.apiKeys id hheld row hid)
  noNewSession userId hheld row hrow huser hlive :=
    h.noNewSession userId hheld row (h'.noNewSession userId hheld row hrow huser hlive) huser hlive
  noNewKey userId hheld row hrow huser hlive :=
    h.noNewKey userId hheld row (h'.noNewKey userId hheld row hrow huser hlive) huser hlive
  limit userId hheld := (h'.limit userId hheld).trans (h.limit userId hheld)
  keys := h.keys.trans h'.keys

lemma mem_of_mem_map_ite {α : Type} {P : α → Prop} [DecidablePred P] {f : α → α} {rows : List α}
    {row : α} (h : row ∈ rows.map fun other => if P other then f other else other)
    (hnot : ∀ other, f other ≠ row) : row ∈ rows := by
  obtain ⟨before, hbefore, rfl⟩ := List.mem_map.mp h
  by_cases hP : P before
  · exact absurd (if_pos hP).symm (hnot before)
  · rwa [if_neg hP]

section Others

variable (hcompatible : Compatible held held') (hwrites : CredentialWrites call held' db writes)

include hcompatible hwrites

variable {userId : Uuid}

lemma others_users (hheld : HoldsUser held userId) {row : User} (hid : row.id = userId) :
    row ∈ (db.after writes).users ↔ row ∈ db.users := by
  refine hwrites.preserves (I := fun view => row ∈ view.users ↔ row ∈ db.users) .rfl ?_
  intro view w hview hw
  rw [← hview]
  rcases hw.users with ⟨target, isActive, rfl⟩ | hsame
  · obtain ⟨mode, hmode⟩ := hheld
    have hne : target ≠ userId := by
      rintro rfl
      exact hcompatible.not_exclusive hmode hw.1
    refine Rows.mem_map_iff_of_fixed User.id (fun r => ?_) (fun r hr => ?_) hid
    · split <;> rfl
    · exact if_neg fun htarget => hne (htarget.symm.trans hr)
  · rw [hsame]

variable {id : Uuid} {row : UserSession}

lemma others_sessions (hheld : (PlatformLock.session id, LockMode.exclusive) ∈ held)
    (hid : row.id = id) : row ∈ (db.after writes).sessions ↔ row ∈ db.sessions := by
  have hnot := hcompatible.not_mem hheld
  refine hwrites.preserves (I := fun view => row ∈ view.sessions ↔ row ∈ db.sessions) .rfl ?_
  intro view w hview hw
  rw [← hview]
  rcases sessions_write_cases view w with ⟨new, rfl⟩ | ⟨ids, now, rfl⟩ | hsame
  · refine ⟨fun h => (List.mem_append.mp h).resolve_right fun hnew => ?_, List.mem_append_left _⟩
    obtain rfl := List.mem_singleton.mp hnew
    exact hnot _ (hid ▸ hw.1)
  · refine Rows.mem_map_iff_of_fixed UserSession.id (fun r => ?_) (fun r hr => ?_) hid
    · split <;> rfl
    · exact if_neg fun hmem => hnot _ (hr ▸ hw r.id hmem)
  · rw [hsame]

lemma others_apiKeys (hheld : (PlatformLock.apiKey id, LockMode.exclusive) ∈ held) {row : ApiKey}
    (hid : row.id = id) : row ∈ (db.after writes).apiKeys ↔ row ∈ db.apiKeys := by
  have hnot := hcompatible.not_mem hheld
  refine hwrites.preserves (I := fun view => row ∈ view.apiKeys ↔ row ∈ db.apiKeys) .rfl ?_
  intro view w hview hw
  rw [← hview]
  rcases apiKeys_write_cases view w with ⟨new, rfl⟩ | ⟨ids, now, rfl⟩ | hsame
  · refine ⟨fun h => (List.mem_append.mp h).resolve_right fun hnew => ?_, List.mem_append_left _⟩
    obtain rfl := List.mem_singleton.mp hnew
    exact hnot _ (hid ▸ hw.1)
  · refine Rows.mem_map_iff_of_fixed ApiKey.id (fun r => ?_) (fun r hr => ?_) hid
    · split <;> rfl
    · exact if_neg fun hmem => hnot _ (hr ▸ hw r.id hmem)
  · rw [hsame]

lemma others_noNewSession (hheld : (PlatformLock.row (.user userId), LockMode.exclusive) ∈ held)
    (hrow : row ∈ (db.after writes).sessions) (huser : row.userId = userId)
    (hlive : row.revokedAt = none) : row ∈ db.sessions := by
  refine hwrites.preserves (I := fun view => row ∈ view.sessions → row ∈ db.sessions)
    (fun h => h) ?_ hrow
  intro view w hview hw hrow
  rcases sessions_write_cases view w with ⟨new, rfl⟩ | ⟨ids, now, rfl⟩ | hsame
  · refine hview ((List.mem_append.mp hrow).resolve_right fun hnew => ?_)
    obtain rfl := List.mem_singleton.mp hnew
    obtain ⟨mode, hmode⟩ := hw.2.1
    rw [huser] at hmode
    exact hcompatible.not_mem hheld mode hmode
  · refine hview (mem_of_mem_map_ite hrow ?_)
    rintro before rfl
    cases hlive
  · rw [hsame] at hrow
    exact hview hrow

lemma others_noNewKey (hheld : (PlatformLock.row (.user userId), LockMode.exclusive) ∈ held)
    {row : ApiKey}
    (hrow : row ∈ (db.after writes).apiKeys) (huser : row.userId = some userId)
    (hlive : row.revokedAt = none) : row ∈ db.apiKeys := by
  refine hwrites.preserves (I := fun view => row ∈ view.apiKeys → row ∈ db.apiKeys)
    (fun h => h) ?_ hrow
  intro view w hview hw hrow
  rcases apiKeys_write_cases view w with ⟨new, rfl⟩ | ⟨ids, now, rfl⟩ | hsame
  · refine hview ((List.mem_append.mp hrow).resolve_right fun hnew => ?_)
    obtain rfl := List.mem_singleton.mp hnew
    obtain ⟨mode, hmode⟩ := (hw.2.1 userId huser).1
    exact hcompatible.not_mem hheld mode hmode
  · refine hview (mem_of_mem_map_ite hrow ?_)
    rintro before rfl
    cases hlive
  · rw [hsame] at hrow
    exact hview hrow

end Others

/-! ## Inactive users -/

variable {userId : Uuid}

lemma CredentialJustified.inactiveWithout (hw : CredentialJustified call held db view w)
    (hvalid : view.CredentialsValid) (hother : ¬ call.Sets userId)
    (h : view.InactiveUser userId → view.NoneLive userId) :
    (view.write w).InactiveUser userId → (view.write w).NoneLive userId := by
  intro hinactive
  have hbefore : view.InactiveUser userId := by
    obtain ⟨row, hrow, hid, hinactive⟩ := hinactive
    rcases hw.users with ⟨target, isActive, rfl⟩ | hsame
    · have hne : target ≠ userId := by
        rintro rfl
        exact hother hw.2
      have hrow' := (Rows.mem_map_iff_of_fixed User.id (k := userId) (fun r => by split <;> rfl)
        (fun r hr => if_neg fun htarget => hne (htarget.symm.trans hr)) hid).mp hrow
      exact ⟨row, hrow', hid, hinactive⟩
    · rw [hsame] at hrow
      exact ⟨row, hrow, hid, hinactive⟩
  obtain ⟨hsessions, hkeys⟩ := h hbefore
  -- an inactive user is not active
  have hnotActive : ¬ view.ActiveUser userId := by
    rintro ⟨active, hactiveRow, hactiveId, hactive⟩
    obtain ⟨row, hrow, hid, hinactive⟩ := hbefore
    rw [hvalid.users_pk.eq_of_key_eq hactiveRow hrow (hactiveId.trans hid.symm)] at hactive
    rw [hactive] at hinactive
    cases hinactive
  constructor
  · intro row hrow huser
    rcases sessions_write_cases view w with ⟨new, rfl⟩ | ⟨ids, now, rfl⟩ | hsame
    · rcases List.mem_append.mp hrow with hold | hnew
      · exact hsessions row hold huser
      · obtain rfl := List.mem_singleton.mp hnew
        exact absurd (huser ▸ hw.2.2.1) hnotActive
    · obtain ⟨before, hbefore, rfl⟩ := List.mem_map.mp hrow
      by_cases hid : before.id ∈ ids
      · rw [if_pos hid]
        exact Option.some_ne_none _
      · rw [if_neg hid] at huser ⊢
        exact hsessions before hbefore huser
    · rw [hsame] at hrow
      exact hsessions row hrow huser
  · intro row hrow huser
    rcases apiKeys_write_cases view w with ⟨new, rfl⟩ | ⟨ids, now, rfl⟩ | hsame
    · rcases List.mem_append.mp hrow with hold | hnew
      · exact hkeys row hold huser
      · obtain rfl := List.mem_singleton.mp hnew
        exact absurd (hw.2.1 userId huser).2 hnotActive
    · obtain ⟨before, hbefore, rfl⟩ := List.mem_map.mp hrow
      by_cases hid : before.id ∈ ids
      · rw [if_pos hid]
        exact Option.some_ne_none _
      · rw [if_neg hid] at huser ⊢
        exact hkeys before hbefore huser
    · rw [hsame] at hrow
      exact hkeys row hrow huser

lemma inactiveWithout_after (hwrites : CredentialWrites call held db writes)
    (hvalid : db.CredentialsValid) (h : db.InactiveWithout) (hother : ¬ call.Sets userId) :
    (db.after writes).InactiveUser userId → (db.after writes).NoneLive userId := by
  have hboth := hwrites.preserves (I := fun view => view.CredentialsValid ∧
    (view.InactiveUser userId → view.NoneLive userId)) ⟨hvalid, h userId⟩ fun _ _ hview hw =>
      ⟨hview.1.write hw, hw.inactiveWithout hview.1 hother hview.2⟩
  exact hboth.2

/-! ## The protocol -/

structure CredentialGuarantee (limit : ℕ) (call : CredentialCall) (held : Locks PlatformLock)
    (db db' : PlatformTables) : Prop where
  justified : ∃ writes, CredentialWrites call held db writes ∧ db' = db.after writes
  /-- Whoever changes the activity of a user leaves no live credential of the user. -/
  settled : ∀ userId, call.Sets userId → db'.NoneLive userId
  deactivated : ∀ userId, call.Deactivates userId → db'.InactiveUser userId
  /-- Only under the advisory lock the keys of a user become more, and not more than the limit. -/
  counted : ∀ userId, db'.liveKeyCount userId ≤ db.liveKeyCount userId ∨
    (PlatformLock.userKeyLimit userId, LockMode.exclusive) ∈ held ∧ db'.liveKeyCount userId ≤ limit

/-- Others change neither users nor credentials. -/
structure PlatformTables.SameCredentials (db db' : PlatformTables) : Prop where
  users : db'.users = db.users
  sessions : db'.sessions = db.sessions
  apiKeys : db'.apiKeys = db.apiKeys
  keyRotations : db'.keyRotations = db.keyRotations

/-- What holds of the committed contents. -/
structure CredentialInvariant (db : PlatformTables) : Prop where
  valid : db.CredentialsValid
  inactive : db.InactiveWithout

lemma CredentialInvariant.of_same (h : CredentialInvariant db) (hsame : db.SameCredentials db') :
    CredentialInvariant db' := by
  obtain ⟨husers, hsessions, hapiKeys, hrotations⟩ := hsame
  refine ⟨?_, ?_⟩
  · constructor
    · exact husers ▸ h.valid.users_pk
    · exact hsessions ▸ h.valid.sessions_pk
    · exact hapiKeys ▸ h.valid.api_keys_pk
    · exact hrotations ▸ h.valid.rotations_new
    · exact hrotations ▸ h.valid.rotations_previous
    · rw [hrotations, hapiKeys]
      exact h.valid.rotated
  · rintro userId ⟨row, hrow, hid, hinactive⟩
    rw [husers] at hrow
    obtain ⟨hnoSession, hnoKey⟩ := h.inactive userId ⟨row, hrow, hid, hinactive⟩
    refine ⟨?_, ?_⟩
    · rw [hsessions]
      exact hnoSession
    · rw [hapiKeys]
      exact hnoKey

lemma CredentialInvariant.of_guarantee {limit : ℕ} (h : CredentialInvariant db)
    (hguarantee : CredentialGuarantee limit call held db db') : CredentialInvariant db' := by
  obtain ⟨⟨writes, hwrites, rfl⟩, hsettled, -, -⟩ := hguarantee
  refine ⟨credentialsValid_after hwrites h.valid, fun userId => ?_⟩
  by_cases hsets : call.Sets userId
  · exact fun _ => hsettled userId hsets
  · exact inactiveWithout_after hwrites h.valid h.inactive hsets

def credentialProtocol (limit : ℕ) :
    Protocol CredentialCall PlatformTables PlatformWrite PlatformLock where
  apply := PlatformTables.write
  Inv := CredentialInvariant
  Guarantee := CredentialGuarantee limit
  External := PlatformTables.SameCredentials
  Rely := CredentialRely
  rely_refl := credentialRely_refl
  rely_trans _ _ _ _ h h' := h.trans h'
  inv_of_guarantee _ _ _ _ hinv hguarantee := hinv.of_guarantee hguarantee
  inv_of_external _ _ hinv hsame := hinv.of_same hsame
  rely_of_guarantee call held held' db db' hcompatible _ hguarantee := by
    obtain ⟨⟨writes, hwrites, rfl⟩, -, -, hcounted⟩ := hguarantee
    exact
      { users := fun _ hheld _ hid => others_users hcompatible hwrites hheld hid
        sessions := fun _ hheld _ hid => others_sessions hcompatible hwrites hheld hid
        apiKeys := fun _ hheld _ hid => others_apiKeys hcompatible hwrites hheld hid
        noNewSession := fun _ hheld _ hrow huser hlive =>
          others_noNewSession hcompatible hwrites hheld hrow huser hlive
        noNewKey := fun _ hheld _ hrow huser hlive =>
          others_noNewKey hcompatible hwrites hheld hrow huser hlive
        limit := fun userId hheld =>
          (hcounted userId).resolve_right fun hother => hcompatible.not_mem hheld _ hother.1
        keys := keysContinue_after db writes }
  rely_of_external held db db' _ hsame := by
    obtain ⟨husers, hsessions, hapiKeys, -⟩ := hsame
    exact
      { users := fun _ _ _ _ => by rw [husers]
        sessions := fun _ _ _ _ => by rw [hsessions]
        apiKeys := fun _ _ _ _ => by rw [hapiKeys]
        noNewSession := fun _ _ _ hrow _ _ => hsessions ▸ hrow
        noNewKey := fun _ _ _ hrow _ _ => hapiKeys ▸ hrow
        limit := fun userId _ => by
          unfold PlatformTables.liveKeyCount Tables.liveApiKeys
          rw [hapiKeys]
        keys := fun key hkey => ⟨key, hapiKeys ▸ hkey, .refl key⟩ }

end SaasOs
