import SaasOs.Credentials.Safety

/-!
# The calls on credentials keep the protocol

A transaction ends with writes that are known one by one.  What the call knows of the committed
contents is then enough for its guarantee, and every call is safe (`CredentialCall.program_safe`).
-/

namespace SaasOs

open ReadCommitted

variable {limit : ℕ} {call : CredentialCall} {held : Locks PlatformLock}
  {db db' view : PlatformTables} {w : PlatformWrite} {writes : List PlatformWrite}

/-! ## Permissions that are registered on the way -/

lemma sameCredentials_of_permissions (h : ∀ w ∈ writes, ∃ row, w = .insertPermission row) :
    db.SameCredentials (db.after writes) := by
  induction writes using List.reverseRecOn with
  | nil => exact ⟨rfl, rfl, rfl, rfl⟩
  | append_singleton writes w ih =>
    have hbefore := ih fun other hother => h other (List.mem_append_left _ hother)
    obtain ⟨row, rfl⟩ := h w (List.mem_append_right _ (List.mem_singleton.mpr rfl))
    rw [PlatformTables.after_concat]
    exact ⟨hbefore.users, hbefore.sessions, hbefore.apiKeys, hbefore.keyRotations⟩

lemma credentialWrites_of_permissions (h : ∀ w ∈ writes, ∃ row, w = .insertPermission row) :
    CredentialWrites call held db writes := by
  refine credentialWrites_of_onlyRevokes fun w hw => ?_
  obtain ⟨row, rfl⟩ := h w hw
  trivial

lemma credentialWrites_concat (h : CredentialWrites call held db writes)
    (hw : CredentialJustified call held db (db.after writes) w) :
    CredentialWrites call held db (writes ++ [w]) :=
  h.concat hw

variable {userId : Uuid}

lemma PlatformTables.SameCredentials.activeUser (h : db.SameCredentials db') :
    db'.ActiveUser userId ↔ db.ActiveUser userId := by
  unfold PlatformTables.ActiveUser
  rw [h.users]

/-! ## Guarantees -/

section

variable (hcall : ∀ userId, ¬ call.Sets userId)

include hcall

lemma guarantee_of_writes (hwrites : CredentialWrites call held db writes)
    (hcounted : ∀ userId, (db.after writes).liveKeyCount userId ≤ db.liveKeyCount userId ∨
      (PlatformLock.userKeyLimit userId, LockMode.exclusive) ∈ held ∧
        (db.after writes).liveKeyCount userId ≤ limit) :
    CredentialGuarantee limit call held db (db.after writes) where
  justified := ⟨writes, hwrites, rfl⟩
  settled userId hsets := absurd hsets (hcall userId)
  deactivated userId hdeactivates := absurd hdeactivates.sets (hcall userId)
  counted := hcounted

lemma guarantee_nil :
    CredentialGuarantee limit call held db (db.after []) :=
  guarantee_of_writes hcall .nil fun _ => .inl le_rfl

lemma guarantee_insertSession {row : UserSession}
    (hlock : (PlatformLock.session row.id, LockMode.exclusive) ∈ held)
    (hnew : ∀ other ∈ db.sessions, other.id ≠ row.id)
    (hactive : HoldsUser held row.userId ∧ db.ActiveUser row.userId) :
    CredentialGuarantee limit call held db (db.after [.insertSession row]) :=
  guarantee_of_writes hcall (JustifiedWrites.nil.concat ⟨hlock, hactive.1, hactive.2, hnew⟩)
    fun _ => .inl (@liveKeyCount_of_apiKeys_eq db _ _ rfl).le

lemma guarantee_insertApiKey {row : ApiKey}
    (hwrites : ∀ w ∈ writes, ∃ row, w = .insertPermission row)
    (hlock : (PlatformLock.apiKey row.id, LockMode.exclusive) ∈ held)
    (hnew : ∀ other ∈ db.apiKeys, other.id ≠ row.id)
    (hactive : ∀ userId, row.userId = some userId →
      (HoldsUser held userId ∧ db.ActiveUser userId) ∧
        (PlatformLock.userKeyLimit userId, LockMode.exclusive) ∈ held ∧
          db.liveKeyCount userId < limit) :
    CredentialGuarantee limit call held db (db.after (writes ++ [.insertApiKey row])) := by
  have hsame : db.SameCredentials (db.after writes) := sameCredentials_of_permissions hwrites
  have hregistered : CredentialWrites call held db writes := credentialWrites_of_permissions hwrites
  refine guarantee_of_writes hcall (credentialWrites_concat hregistered ?_) ?_
  · refine ⟨hlock, fun userId huser => ?_, ?_⟩
    · obtain ⟨⟨hheld, hactive⟩, -⟩ := hactive userId huser
      exact ⟨hheld, hsame.activeUser.mpr hactive⟩
    · rw [hsame.apiKeys]
      exact hnew
  · intro userId
    rw [PlatformTables.after_concat, liveKeyCount_insertApiKey,
      liveKeyCount_of_apiKeys_eq hsame.apiKeys]
    by_cases hlive : row.isLiveOf userId = true
    · rw [if_pos hlive]
      have huser : row.userId = some userId := beq_iff_eq.mp (Bool.and_eq_true_iff.mp hlive).1
      obtain ⟨-, hlimit, hroom⟩ := hactive userId huser
      exact .inr ⟨hlimit, hroom⟩
    · rw [if_neg hlive]
      exact .inl le_rfl

end

lemma earlier_le {expiresAt expiresNoLaterThan : Option Instant} {t : Instant}
    (h : expiresAt = some t) : ∃ t', earlier expiresAt expiresNoLaterThan = some t' ∧ t' ≤ t := by
  subst h
  cases expiresNoLaterThan with
  | none => exact ⟨t, rfl, le_rfl⟩
  | some bound => exact ⟨min t bound, rfl, min_le_left t bound⟩

variable {now : Instant}

lemma guarantee_rotate {old new : ApiKey} (hcall : ∀ userId, ¬ call.Sets userId)
    (hvalid : db.CredentialsValid) (hwrites : ∀ w ∈ writes, ∃ row, w = .insertPermission row)
    (hold : old ∈ db.apiKeys) (hlive : old.revokedAt = none)
    (holdLock : (PlatformLock.apiKey old.id, LockMode.exclusive) ∈ held)
    (hnewLock : (PlatformLock.apiKey new.id, LockMode.exclusive) ∈ held)
    (hnew : ∀ other ∈ db.apiKeys, other.id ≠ new.id) (hreplaces : new.Replaces old)
    (hactive : ∀ userId, old.userId = some userId → HoldsUser held userId ∧ db.ActiveUser userId) :
    CredentialGuarantee limit call held db (db.after (writes ++ [.revokeApiKeys [old.id] now] ++
      [.insertApiKey new] ++ [.recordRotation ⟨new.id, old.id⟩])) := by
  have hsame : db.SameCredentials (db.after writes) := sameCredentials_of_permissions hwrites
  have hrevoked : CredentialWrites call held db (writes ++ [.revokeApiKeys [old.id] now]) :=
    (credentialWrites_of_permissions hwrites).concat fun id hid =>
      List.mem_singleton.mp hid ▸ holdLock
  have hkeys : (db.after (writes ++ [.revokeApiKeys [old.id] now])).apiKeys =
      db.apiKeys.map fun row =>
        if row.id ∈ [old.id] then { row with revokedAt := some now } else row := by
    rw [PlatformTables.after_concat, ← hsame.apiKeys]
    rfl
  have hnewId : ∀ other ∈ (db.after (writes ++ [.revokeApiKeys [old.id] now])).apiKeys,
      other.id ≠ new.id := by
    intro other hother
    rw [hkeys] at hother
    obtain ⟨before, hbefore, rfl⟩ := List.mem_map.mp hother
    split
    · exact hnew before hbefore
    · exact hnew before hbefore
  have hinserted : CredentialWrites call held db
      (writes ++ [.revokeApiKeys [old.id] now] ++ [.insertApiKey new]) := by
    refine credentialWrites_concat hrevoked ⟨hnewLock, fun userId huser => ?_, hnewId⟩
    obtain ⟨hheld, row, hrow, hactive⟩ := hactive userId (hreplaces.userId.symm.trans huser)
    refine ⟨hheld, row, ?_, hactive⟩
    rw [PlatformTables.after_concat]
    exact hsame.users ▸ hrow
  refine guarantee_of_writes hcall (credentialWrites_concat hinserted ?_) ?_
  · have hrotations : (db.after (writes ++ [.revokeApiKeys [old.id] now] ++
        [.insertApiKey new])).keyRotations = db.keyRotations := by
      rw [PlatformTables.after_concat, PlatformTables.after_concat]
      exact hsame.keyRotations
    refine ⟨hnewLock, holdLock, ?_, ?_, ?_, old, hold, rfl, hlive⟩
    · intro other hother heq
      rw [hrotations] at hother
      obtain ⟨key, hkey, -, -, hid, -⟩ := hvalid.rotated other hother
      exact hnew key hkey (hid.trans heq)
    · intro other hother heq
      rw [hrotations] at hother
      obtain ⟨-, -, previous, hprevious, -, hid, hdead, -⟩ := hvalid.rotated other hother
      obtain rfl := hvalid.api_keys_pk.eq_of_key_eq hprevious hold (hid.trans heq)
      exact hdead hlive
    · refine ⟨new, ?_, { old with revokedAt := some now }, ?_, rfl, rfl, Option.some_ne_none _, ?_⟩
      · rw [PlatformTables.after_concat]
        exact List.mem_append_right _ (List.mem_singleton.mpr rfl)
      · rw [PlatformTables.after_concat]
        refine List.mem_append_left _ ?_
        rw [hkeys]
        exact List.mem_map.mpr ⟨old, hold, if_pos (List.mem_singleton.mpr rfl)⟩
      · exact ⟨hreplaces.tenantId, hreplaces.userId, hreplaces.serviceAccountId,
          hreplaces.expiresAt⟩
  · intro userId
    refine .inl ?_
    have hrecorded : (db.after (writes ++ [.revokeApiKeys [old.id] now] ++ [.insertApiKey new] ++
        [.recordRotation ⟨new.id, old.id⟩])).liveKeyCount userId =
        (db.after (writes ++ [.revokeApiKeys [old.id] now] ++ [.insertApiKey new])).liveKeyCount
          userId := by
      rw [PlatformTables.after_concat]
      exact liveKeyCount_of_apiKeys_eq rfl
    rw [hrecorded, PlatformTables.after_concat, liveKeyCount_insertApiKey,
      PlatformTables.after_concat, ← @liveKeyCount_of_apiKeys_eq _ _ userId hsame.apiKeys]
    by_cases huser : new.userId = some userId
    · -- the old key made room for the new one
      have holdKept : old ∈ (db.after writes).apiKeys := hsame.apiKeys ▸ hold
      have hfewer := liveKeyCount_revokeApiKeys_lt holdKept hlive
        (hreplaces.userId.symm.trans huser) now
      split <;> omega
    · have hother : new.isLiveOf userId = false := by simp [ApiKey.isLiveOf, huser]
      rw [hother]
      exact liveKeyCount_revokeApiKeys_le _ _ _ _

lemma noneLive_of_found {userId : Uuid} {sessionIds keyIds : List Uuid} {now : Instant}
    (hsessions : ∀ row ∈ view.sessions, row.userId = userId → row.revokedAt = none →
      row.id ∈ sessionIds)
    (hkeys : ∀ row ∈ view.apiKeys, row.userId = some userId → row.revokedAt = none →
      row.id ∈ keyIds) :
    ((view.write (.revokeSessions sessionIds now)).write (.revokeApiKeys keyIds now)).NoneLive
      userId where
  sessions row hrow huser hlive := by
    obtain ⟨before, hbefore, rfl⟩ := List.mem_map.mp hrow
    by_cases hid : before.id ∈ sessionIds
    · rw [if_pos hid] at hlive
      cases hlive
    · rw [if_neg hid] at huser hlive
      exact hid (hsessions before hbefore huser hlive)
  apiKeys row hrow huser hlive := by
    obtain ⟨before, hbefore, rfl⟩ := List.mem_map.mp hrow
    by_cases hid : before.id ∈ keyIds
    · rw [if_pos hid] at hlive
      cases hlive
    · rw [if_neg hid] at huser hlive
      exact hid (hkeys before hbefore huser hlive)

/-- What a change of the activity of a user has found and locked. -/
structure Settles (held : Locks PlatformLock) (db : PlatformTables) (userId : Uuid)
    (sessionIds keyIds : List Uuid) : Prop where
  lock : (PlatformLock.row (.user userId), LockMode.exclusive) ∈ held
  sessionLocks : ∀ id ∈ sessionIds, (PlatformLock.session id, LockMode.exclusive) ∈ held
  keyLocks : ∀ id ∈ keyIds, (PlatformLock.apiKey id, LockMode.exclusive) ∈ held
  sessions : ∀ row ∈ db.sessions, row.userId = userId → row.revokedAt = none → row.id ∈ sessionIds
  apiKeys : ∀ row ∈ db.apiKeys, row.userId = some userId → row.revokedAt = none → row.id ∈ keyIds

variable {sessionIds keyIds : List Uuid}

lemma guarantee_deactivate (hcall : ∀ id, call.Sets id ↔ id = userId)
    (hactive : db.ActiveUser userId) (h : Settles held db userId sessionIds keyIds) :
    CredentialGuarantee limit call held db (db.after [.setUserActive userId false,
      .revokeSessions sessionIds now, .revokeApiKeys keyIds now]) where
  justified := by
    have hset : CredentialWrites call held db [.setUserActive userId false] :=
      JustifiedWrites.nil.concat ⟨h.lock, (hcall userId).mpr rfl⟩
    have hsessions := credentialWrites_concat (w := .revokeSessions sessionIds now) hset h.sessionLocks
    exact ⟨_, credentialWrites_concat (w := .revokeApiKeys keyIds now) hsessions h.keyLocks, rfl⟩
  settled id hsets := by
    obtain rfl := (hcall id).mp hsets
    exact @noneLive_of_found (db.write (.setUserActive id false)) _ _ _ now h.sessions h.apiKeys
  deactivated id hdeactivates := by
    obtain rfl := (hcall id).mp hdeactivates.sets
    obtain ⟨row, hrow, hid, -⟩ := hactive
    refine ⟨_, List.mem_map.mpr ⟨row, hrow, rfl⟩, ?_⟩
    rw [if_pos hid]
    exact ⟨hid, rfl⟩
  counted id := .inl (liveKeyCount_after_le id fun w hw row heq => by
    subst heq
    simp at hw)

lemma guarantee_reactivate (hcall : ∀ id, call.Sets id ↔ id = userId)
    (hnot : ∀ id, ¬ call.Deactivates id) (h : Settles held db userId sessionIds keyIds) :
    CredentialGuarantee limit call held db (db.after [.revokeSessions sessionIds now,
      .revokeApiKeys keyIds now, .setUserActive userId true]) where
  justified := by
    have hsessions : CredentialWrites call held db [.revokeSessions sessionIds now] :=
      credentialWrites_concat (w := .revokeSessions sessionIds now) .nil h.sessionLocks
    have hkeys := credentialWrites_concat (w := .revokeApiKeys keyIds now) hsessions h.keyLocks
    exact ⟨_, credentialWrites_concat (w := .setUserActive userId true) hkeys
      ⟨h.lock, (hcall userId).mpr rfl⟩, rfl⟩
  settled id hsets := by
    obtain rfl := (hcall id).mp hsets
    obtain ⟨hsessions, hkeys⟩ := @noneLive_of_found _ _ _ _ now h.sessions h.apiKeys
    exact ⟨hsessions, hkeys⟩
  deactivated id hdeactivates := absurd hdeactivates (hnot id)
  counted id := .inl (liveKeyCount_after_le id fun w hw row heq => by
    subst heq
    simp at hw)

namespace Credentials

variable {F : Protocol.Assertion PlatformTables PlatformWrite PlatformLock}

/-! ## Transactions that issue -/

lemma perform_triple {w : PlatformWrite} (hF : (credentialProtocol limit).Steady F) :
    (credentialProtocol limit).Triple call F (perform w) fun _ => Protocol.Wrote F w :=
  Protocol.triple_write hF fun _ _ _ _ hknown _ _ => hknown

variable (t : Standing PlatformWrite PlatformLock)

lemma nothingWritten_eq_nil (db : PlatformTables) (h : nothingWritten t db) :
    t.writes = [] := h

variable {newId userId : Uuid}

lemma issueSession_safe {tokenHash : String} {expiresAt : Instant}
    (hcall : ∀ userId, ¬ call.Sets userId) (hinv : CredentialInvariant db) :
    (credentialProtocol limit).Safe call (fun _ _ _ => True)
      (issueSession newId userId tokenHash expiresAt).transaction {} db := by
  let row : UserSession := ⟨newId, userId, tokenHash, expiresAt, none⟩
  have hactive : (credentialProtocol limit).Steady fun t db =>
      nothingWritten t db ∧ activeUser userId t db :=
    steady_nothingWritten.and (steady_activeUser userId)
  have htriple : (credentialProtocol limit).Triple call nothingWritten
      (issueSession newId userId tokenHash expiresAt) fun _ =>
        Protocol.Wrote (fun t db => (nothingWritten t db ∧ activeUser userId t db) ∧
          (PlatformLock.session newId, LockMode.exclusive) ∈ t.held ∧
            ∀ other ∈ db.sessions, other.id ≠ newId) (.insertSession row) := by
    refine (PlatformLogic.triple_lockUser steady_nothingWritten nothingWritten_eq_nil).bind
      fun found => ?_
    refine (checkActive_triple fun h => ?_).bind fun _ => ?_
    · by_contra hinactive
      rw [if_neg hinactive] at h
      cases h
    · refine Protocol.triple_write hactive fun t db _ _ hknown hheld hresult => ?_
      refine ⟨hknown, hheld _ List.mem_cons_self, fun other hother hid => ?_⟩
      have hnone : t.writes = [] := hknown.1
      rw [hnone] at hresult
      have hadmits : db.admitsSession row = true := by
        split at hresult
        · assumption
        · cases hresult
      simp only [Tables.admitsSession, Bool.and_eq_true, Bool.not_eq_true', List.any_eq_false,
        beq_iff_eq] at hadmits
      exact hadmits.1.1 other hother hid
  refine htriple.safe (fun _ => (hactive.and (steady_newSession newId)).wrote _) ?_ hinv rfl
  rintro _ t db - ⟨writes, hwrites, ⟨hnone, hactive⟩, hlock, hnew⟩
  obtain rfl : writes = [] := hnone
  rw [hwrites]
  exact guarantee_insertSession hcall hlock hnew hactive

variable {α : Type}

lemma length_lt_of_take {l : List α} (h : ¬ limit ≤ (l.take limit).length) :
    l.length < limit := by
  rw [List.length_take] at h
  omega

variable {tenantId : Uuid} {name keyHash : String} {expiresAt : Option Instant}

lemma createApiKeyInTransaction_triple :
    (credentialProtocol limit).Triple call nothingWritten
      (createApiKeyInTransaction limit newId tenantId userId name keyHash expiresAt) fun _ =>
        Protocol.Wrote (fun t db => ((nothingWritten t db ∧ activeUser userId t db) ∧
          (PlatformLock.userKeyLimit userId, LockMode.exclusive) ∈ t.held ∧
            db.liveKeyCount userId < limit) ∧
          (PlatformLock.apiKey newId, LockMode.exclusive) ∈ t.held ∧
            ∀ other ∈ db.apiKeys, other.id ≠ newId)
          (.insertApiKey ⟨newId, tenantId, some userId, none, name, keyHash, expiresAt, none⟩) := by
  have hlocked : (credentialProtocol limit).Steady fun t db => nothingWritten t db ∧
      (PlatformLock.userKeyLimit userId, LockMode.exclusive) ∈ t.held :=
    steady_nothingWritten.and (Protocol.steady_held _)
  have hactive : (credentialProtocol limit).Steady fun t db => (nothingWritten t db ∧
      (PlatformLock.userKeyLimit userId, LockMode.exclusive) ∈ t.held) ∧ activeUser userId t db :=
    hlocked.and (steady_activeUser userId)
  refine (Protocol.triple_lock steady_nothingWritten).bind fun _ => ?_
  refine (requireActiveCaller_triple hlocked fun _ _ h => h.1).bind fun _ => ?_
  refine (lockAccessibleTenant_triple hactive).bind fun _ => ?_
  refine Protocol.Triple.bind (Protocol.triple_lockedRead hactive
    (G := fun _ t db => (nothingWritten t db ∧ activeUser userId t db) ∧
      (PlatformLock.userKeyLimit userId, LockMode.exclusive) ∈ t.held ∧
        db.liveKeyCount userId < limit) ?_) fun _ => ?_
  · rintro t db _ - ⟨⟨hnone, hlimit⟩, hactive⟩ - hresult
    refine ⟨⟨hnone, hactive⟩, hlimit, ?_⟩
    have hwrites : t.writes = [] := hnone
    rw [hwrites] at hresult
    split at hresult
    · cases hresult
    · next hroom => exact length_lt_of_take hroom
  · exact insertApiKey_triple
      ((steady_nothingWritten.and (steady_activeUser userId)).and (steady_room userId))

/-- A transaction of a call that changes the activity of nobody, and of whose end only something
steady between transactions is needed. -/
abbrev Keeps (limit : ℕ) (call : CredentialCall) {α : Type} (before : PlatformTables → Prop)
    (body : PlatformBody α) (after : α → PlatformTables → Prop) : Prop :=
  (credentialProtocol limit).Transactions call (fun _ _ => True) (fun _ => before) body
    fun a _ => after a

section

variable (hcall : ∀ userId, ¬ call.Sets userId)

include hcall

lemma read_keeps {result : PlatformTables → Except PlatformError α}
    {after : α → PlatformTables → Prop}
    (hafter : ∀ a, (credentialProtocol limit).Steady fun _ db => after a db)
    (hresult : ∀ a db, result db = .ok a → after a db) :
    Keeps limit call (fun _ => True) (inTransaction (Body.read result)) after := by
  have htriple : (credentialProtocol limit).Triple call nothingWritten (Body.read result)
      fun a t db => nothingWritten t db ∧ after a db := by
    refine Protocol.triple_lockedRead steady_nothingWritten fun t db a _ hnone _ hread => ?_
    have hwrites : t.writes = [] := hnone
    rw [hwrites] at hread
    exact ⟨hnone, hresult a db hread⟩
  refine htriple.transactions (fun a => steady_nothingWritten.and (hafter a)) ?_ (fun _ _ _ => rfl)
    ?_ fun _ _ _ _ => trivial
  · rintro a t db - ⟨hnone, -⟩
    have hwrites : t.writes = [] := hnone
    rw [hwrites]
    exact guarantee_nil hcall
  · rintro a t db - ⟨hnone, hafter⟩
    have hwrites : t.writes = [] := hnone
    rw [hwrites]
    exact hafter

lemma requireOpenTenant_keeps :
    Keeps limit call (fun _ => True) (requireOpenTenant tenantId) fun _ _ => True :=
  read_keeps hcall (fun _ => Protocol.steady_const True) fun _ _ _ => trivial

lemma createApiKey_keeps :
    Keeps limit call (fun _ => True)
      (createApiKey limit newId tenantId userId name keyHash expiresAt) fun _ _ => True := by
  refine (requireOpenTenant_keeps hcall).bind fun _ => ?_
  refine (Protocol.transactions_check fun _ _ _ _ => trivial).bind fun _ => ?_
  refine (requireOpenTenant_keeps hcall).bind fun _ => ?_
  refine createApiKeyInTransaction_triple.transactions (fun _ => ?_) ?_ (fun _ _ _ => rfl)
    (fun _ _ _ _ _ => trivial) fun _ _ _ _ => trivial
  · exact (((steady_nothingWritten.and (steady_activeUser userId)).and (steady_room userId)).and
      (steady_newKey newId)).wrote _
  · rintro _ t db - ⟨writes, hwrites, ⟨⟨hnone, hactive⟩, hlimit, hroom⟩, hlock, hnew⟩
    obtain rfl : writes = [] := hnone
    rw [hwrites]
    refine guarantee_insertApiKey hcall (nofun : ∀ w ∈ ([] : List PlatformWrite), _) hlock hnew ?_
    rintro _ ⟨⟩
    exact ⟨hactive, hlimit, hroom⟩

end

def onlyPermissions : Protocol.Assertion PlatformTables PlatformWrite PlatformLock :=
  fun t _ => ∀ w ∈ t.writes, ∃ row, w = .insertPermission row

lemma steady_onlyPermissions : (credentialProtocol limit).Steady onlyPermissions :=
  Protocol.steady_writes fun writes =>
    ∀ w ∈ writes, ∃ row, w = PlatformWrite.insertPermission row

lemma onlyPermissions_of_nothingWritten (db : PlatformTables) (h : nothingWritten t db) :
    onlyPermissions t db := by
  have hwrites : t.writes = [] := h
  unfold onlyPermissions
  rw [hwrites]
  exact nofun

lemma permissive_onlyPermissions : Permissive onlyPermissions := by
  intro t db row h w hw
  rcases List.mem_append.mp hw with hold | hnew
  · exact h w hold
  · exact ⟨row, List.mem_singleton.mp hnew⟩

variable {now : Instant}

lemma createServiceAccountApiKey_keeps
    {newId newPermissionId tenantId actorUserId serviceAccountId : Uuid}
    (hcall : ∀ userId, ¬ call.Sets userId) :
    Keeps limit call (fun _ => True) (createServiceAccountApiKey now newId newPermissionId tenantId
      actorUserId serviceAccountId name keyHash expiresAt) fun _ _ => True := by
  refine (Protocol.transactions_check fun _ _ _ _ => trivial).bind fun _ => ?_
  refine (requireOpenTenant_keeps hcall).bind fun _ => ?_
  refine (read_keeps hcall (fun _ => Protocol.steady_const True) fun _ _ _ => trivial).bind
    fun _ => ?_
  refine Protocol.Triple.transactions (F := onlyPermissions)
    ((registerAndDecide_triple steady_onlyPermissions permissive_onlyPermissions).bind fun _ =>
      insertApiKey_triple steady_onlyPermissions) (fun _ => ?_) ?_
    (fun _ _ _ => nofun) (fun _ _ _ _ _ => trivial) fun _ _ _ _ => trivial
  · exact (steady_onlyPermissions.and (steady_newKey newId)).wrote _
  · rintro _ t db - ⟨writes, hwrites, hpermissions, hlock, hnew⟩
    rw [hwrites]
    exact guarantee_insertApiKey hcall hpermissions hlock hnew nofun

/-! ## Rotation -/

def holdsKey (keyId : Uuid) (old : ApiKey) :
    Protocol.Assertion PlatformTables PlatformWrite PlatformLock := fun t db =>
  onlyPermissions t db ∧ old.id = keyId ∧
    ((PlatformLock.apiKey old.id, LockMode.exclusive) ∈ t.held ∧ old ∈ db.apiKeys) ∧
      ∀ userId, old.userId = some userId → activeUser userId t db

lemma steady_holdsKey (keyId : Uuid) (old : ApiKey) :
    (credentialProtocol limit).Steady (holdsKey keyId old) :=
  steady_onlyPermissions.and ((Protocol.steady_const _).and ((steady_lockedKey old).and
    (Protocol.steady_forall fun userId => (steady_activeUser userId).imp _)))

lemma permissive_holdsKey (keyId : Uuid) (old : ApiKey) : Permissive (holdsKey keyId old) :=
  fun t db row h => ⟨permissive_onlyPermissions t db row h.1, h.2⟩

/-- The key that a rotation puts in place of the old one. -/
abbrev rotatedKey (old : ApiKey) (newId : Uuid) (keyHash : String)
    (expiresNoLaterThan : Option Instant) : ApiKey :=
  ⟨newId, old.tenantId, old.userId, old.serviceAccountId, old.name, keyHash,
    earlier old.expiresAt expiresNoLaterThan, none⟩

variable {keyId : Uuid}

variable {ownerUserId : Option Uuid}

lemma lockOwnedKey_triple :
    (credentialProtocol limit).Triple call
      (fun t db => (nothingWritten t db ∧
        ∃ key ∈ db.apiKeys, key.id = keyId ∧ key.userId = ownerUserId) ∧
          ∀ userId, ownerUserId = some userId → activeUser userId t db)
      (lockKey tenantId keyId) fun old => holdsKey keyId old := by
  have hF : (credentialProtocol limit).Steady fun t db => (nothingWritten t db ∧
      ∃ key ∈ db.apiKeys, key.id = keyId ∧ key.userId = ownerUserId) ∧
        ∀ userId, ownerUserId = some userId → activeUser userId t db :=
    (steady_nothingWritten.and (steady_owner keyId ownerUserId)).and
      (Protocol.steady_forall fun userId => (steady_activeUser userId).imp _)
  refine (lockKey_triple_mem hF).weaken (fun _ _ _ h => h) ?_
  rintro old t db hinv ⟨⟨⟨hnone, key, hkey, hid, howner⟩, hactive⟩, holdId, hlock, hold⟩
  have hwrites : t.writes = [] := hnone
  rw [hwrites] at hold
  obtain rfl := hinv.valid.api_keys_pk.eq_of_key_eq hkey hold (hid.trans holdId.symm)
  refine ⟨onlyPermissions_of_nothingWritten t db hnone, holdId, ⟨hlock, hold⟩, ?_⟩
  intro userId huser
  exact hactive userId (howner.symm.trans huser)

variable {newPermissionId : Uuid} {caller : Caller}

variable {expiresNoLaterThan : Option Instant}

lemma rotateInTransaction_triple :
    (credentialProtocol limit).Triple call
      (fun t db => nothingWritten t db ∧
        ∃ key ∈ db.apiKeys, key.id = keyId ∧ key.userId = ownerUserId)
      (rotateInTransaction now newId newPermissionId tenantId keyId caller ownerUserId keyHash
        expiresNoLaterThan) fun _ t db =>
      ∃ old, Protocol.Wrote (Protocol.Wrote (fun t db =>
        Protocol.Wrote (fun t db => holdsKey keyId old t db ∧ old.revokedAt = none)
          (.revokeApiKeys [old.id] now) t db ∧
          (PlatformLock.apiKey newId, LockMode.exclusive) ∈ t.held ∧
            ∀ other ∈ db.apiKeys, other.id ≠ newId)
        (.insertApiKey (rotatedKey old newId keyHash expiresNoLaterThan)))
        (.recordRotation ⟨newId, keyId⟩) t db := by
  have howner : (credentialProtocol limit).Steady fun t db => nothingWritten t db ∧
      ∃ key ∈ db.apiKeys, key.id = keyId ∧ key.userId = ownerUserId :=
    steady_nothingWritten.and (steady_owner keyId ownerUserId)
  refine (lockAccessibleTenant_triple howner).bind fun _ => ?_
  refine (requireActiveOwner_triple howner fun _ _ h => h.1).bind fun _ => ?_
  refine lockOwnedKey_triple.bind fun old => ?_
  refine (authorizeKeyManagement_triple (steady_holdsKey keyId old)
    (permissive_holdsKey keyId old)).bind fun _ => ?_
  have hlive : (credentialProtocol limit).Steady fun t db =>
      holdsKey keyId old t db ∧ old.revokedAt = none :=
    (steady_holdsKey keyId old).and (Protocol.steady_const _)
  refine (Protocol.triple_check.weaken (fun _ _ _ h => h) ?_).bind fun _ =>
    (perform_triple hlive).bind fun _ => (insertApiKey_triple (hlive.wrote _)).bind fun _ =>
      (perform_triple (((hlive.wrote _).and (steady_newKey newId)).wrote _)).weaken
        (fun _ _ _ h => h) fun _ _ _ _ h => ⟨old, h⟩
  rintro _ t db - ⟨hknown, hcheck⟩
  refine ⟨hknown, ?_⟩
  split at hcheck
  · cases hcheck
  · next hnotRevoked => simpa using hnotRevoked

lemma rotateApiKey_keeps (hcall : ∀ userId, ¬ call.Sets userId) :
    Keeps limit call (fun _ => True) (rotateApiKey now newId newPermissionId tenantId keyId caller
      keyHash expiresNoLaterThan) fun _ _ => True := by
  refine (requireOpenTenant_keeps hcall).bind fun _ => ?_
  refine (read_keeps hcall (fun ownerUserId => steady_owner keyId ownerUserId) ?_).bind
    fun ownerUserId => ?_
  · intro ownerUserId db hread
    cases hfind : db.apiKey? tenantId keyId with
    | none =>
      rw [hfind] at hread
      cases hread
    | some key =>
      rw [hfind] at hread
      have hid := List.find?_some hfind
      rw [Bool.and_eq_true, beq_iff_eq] at hid
      exact ⟨key, List.mem_of_find?_eq_some hfind, hid.1, Except.ok.inj hread⟩
  · refine rotateInTransaction_triple.transactions (fun _ => ?_) ?_ (fun _ _ h => ⟨rfl, h⟩)
      (fun _ _ _ _ _ => trivial) fun _ _ _ _ => trivial
    · exact Protocol.steady_exists fun old => ((((steady_holdsKey keyId old).and
        (Protocol.steady_const _)).wrote _).and (steady_newKey newId)).wrote _ |>.wrote _
    · rintro _ t db hinv ⟨old, w₁, hw₁, w₂, hw₂, ⟨w₃, hw₃, ⟨⟨hpermissions, hid, ⟨hlock, hold⟩,
        hactive⟩, hlive⟩⟩, hnewLock, hnew⟩
      obtain rfl : w₁ = w₂ ++ [_] := hw₂
      obtain rfl : w₂ = w₃ ++ [_] := hw₃
      rw [hw₁, ← hid]
      exact guarantee_rotate hcall hinv.valid hpermissions hold hlive hlock hnewLock hnew
        ⟨rfl, rfl, rfl, fun _ h => earlier_le h⟩ hactive

/-! ## Transactions that only revoke -/

lemma permissive_onlyRevokes : Permissive onlyRevokes :=
  fun _ _ _ h => onlyRevokes_concat h trivial

lemma onlyRevokes_safe {body : PlatformBody Unit} (hcall : ∀ userId, ¬ call.Sets userId)
    (h : (credentialProtocol limit).Triple call onlyRevokes body fun _ => onlyRevokes)
    (hinv : CredentialInvariant db) :
    (credentialProtocol limit).Safe call (fun _ _ _ => True) body.transaction {} db :=
  h.safe (fun _ => steady_onlyRevokes)
    (fun _ _ _ _ hrevokes => guarantee_of_onlyRevokes hcall hrevokes) hinv nofun

lemma revokeLockedKey_triple {key : ApiKey} :
    (credentialProtocol limit).Triple call
      (fun t db => onlyRevokes t db ∧ (PlatformLock.apiKey key.id, LockMode.exclusive) ∈ t.held)
      (revokeLockedKey key now) fun _ => onlyRevokes := by
  unfold revokeLockedKey
  split
  · exact Protocol.triple_pure fun _ _ h => h.1
  · refine Protocol.triple_statement (steady_onlyRevokes.and (Protocol.steady_held _)) ?_
    intro t db _ _ hknown _ _
    refine onlyRevokes_concat hknown.1 fun id hid => ?_
    rw [List.mem_singleton.mp hid]
    exact hknown.2

lemma revokeApiKey_triple :
    (credentialProtocol limit).Triple call onlyRevokes
      (revokeApiKey now newPermissionId tenantId keyId caller) fun _ => onlyRevokes := by
  refine (lockKey_triple steady_onlyRevokes).bind fun key => ?_
  refine (authorizeKeyManagement_triple ?_ ?_).bind fun _ => revokeLockedKey_triple
  · exact steady_onlyRevokes.and (Protocol.steady_held _)
  · exact fun t db row h => ⟨permissive_onlyRevokes t db row h.1, h.2⟩

lemma revokeServiceAccountApiKey_triple {newPermissionId tenantId keyId actorUserId : Uuid} :
    (credentialProtocol limit).Triple call onlyRevokes
      (revokeServiceAccountApiKey now newPermissionId tenantId keyId actorUserId)
      fun _ => onlyRevokes := by
  refine (registerAndDecide_triple steady_onlyRevokes permissive_onlyRevokes).bind fun _ => ?_
  exact (lockKey_triple steady_onlyRevokes).bind fun key => revokeLockedKey_triple

lemma revokeSession_triple {sessionId : Uuid} :
    (credentialProtocol limit).Triple call onlyRevokes (revokeSession sessionId now)
      fun _ => onlyRevokes := by
  refine (Protocol.triple_query steady_onlyRevokes).bind fun row => ?_
  split
  · exact Protocol.triple_pure fun _ _ h => h
  · refine Protocol.triple_statement steady_onlyRevokes fun t db _ _ hknown hheld _ => ?_
    refine onlyRevokes_concat hknown fun id hid => ?_
    rw [List.mem_singleton.mp hid]
    exact hheld _ List.mem_cons_self

lemma lockCredentialOwner_triple (hF : (credentialProtocol limit).Steady F) :
    (credentialProtocol limit).Triple call F (lockCredentialOwner userId) fun _ => F :=
  (Protocol.triple_query hF).bind fun _ => Protocol.triple_require

lemma revokeSessions_onlyRevokes :
    (credentialProtocol limit).Triple call onlyRevokes (revokeSessions userId now)
      fun _ => onlyRevokes :=
  revokeLive_onlyRevokes fun _ _ h => h

lemma revokeUserApiKeysInTransaction_onlyRevokes :
    (credentialProtocol limit).Triple call onlyRevokes (revokeUserApiKeysInTransaction userId now)
      fun _ => onlyRevokes :=
  revokeLive_onlyRevokes fun _ _ h => h

lemma revokeUserSessions_triple :
    (credentialProtocol limit).Triple call onlyRevokes (revokeUserSessions userId now caller)
      fun _ => onlyRevokes := by
  refine (PlatformLogic.triple_authorizePlatformCaller steady_onlyRevokes).bind fun _ => ?_
  exact (lockCredentialOwner_triple steady_onlyRevokes).bind fun _ => revokeSessions_onlyRevokes

lemma revokeUserApiKeys_triple :
    (credentialProtocol limit).Triple call onlyRevokes (revokeUserApiKeys userId now caller)
      fun _ => onlyRevokes := by
  refine (PlatformLogic.triple_authorizePlatformCaller steady_onlyRevokes).bind fun _ => ?_
  refine Protocol.triple_require.bind fun _ => ?_
  exact (lockCredentialOwner_triple steady_onlyRevokes).bind fun _ =>
    revokeUserApiKeysInTransaction_onlyRevokes

/-! ## Changes of the activity of a user -/

/-- The live credentials of the user have been revoked; before that `F` was known. -/
def settled (F : Protocol.Assertion PlatformTables PlatformWrite PlatformLock) (userId : Uuid)
    (now : Instant) : Protocol.Assertion PlatformTables PlatformWrite PlatformLock := fun t db =>
  ∃ sessionIds keyIds writes,
    t.writes = writes ++ [.revokeSessions sessionIds now, .revokeApiKeys keyIds now] ∧
      Settles t.held db userId sessionIds keyIds ∧ F { t with writes := writes } db

lemma steady_settled {userId : Uuid} {now : Instant} (hF : (credentialProtocol limit).Steady F) :
    (credentialProtocol limit).Steady (settled F userId now) where
  rely t db db' hinv hinv' hrely := by
    rintro ⟨sessionIds, keyIds, writes, hwrites, hsettles, hknown⟩
    refine ⟨sessionIds, keyIds, writes, hwrites, ?_, hF.rely _ db db' hinv hinv' hrely hknown⟩
    exact
      { lock := hsettles.lock
        sessionLocks := hsettles.sessionLocks
        keyLocks := hsettles.keyLocks
        sessions := fun row hrow huser hlive => hsettles.sessions row
          (hrely.noNewSession userId hsettles.lock row hrow huser hlive) huser hlive
        apiKeys := fun row hrow huser hlive => hsettles.apiKeys row
          (hrely.noNewKey userId hsettles.lock row hrow huser hlive) huser hlive }
  lock t db locks := by
    rintro ⟨sessionIds, keyIds, writes, hwrites, hsettles, hknown⟩
    refine ⟨sessionIds, keyIds, writes, hwrites, ?_, hF.lock _ db locks hknown⟩
    exact
      { lock := List.mem_append_right _ hsettles.lock
        sessionLocks := fun id hid => List.mem_append_right _ (hsettles.sessionLocks id hid)
        keyLocks := fun id hid => List.mem_append_right _ (hsettles.keyLocks id hid)
        sessions := hsettles.sessions
        apiKeys := hsettles.apiKeys }

lemma revokeCredentials_triple (hF : (credentialProtocol limit).Steady F)
    (hsessions : SessionsUnwritten F)
    (hkeys : KeysUnwritten F)
    (hheld : ∀ t db, F t db → (PlatformLock.row (.user userId), LockMode.exclusive) ∈ t.held) :
    (credentialProtocol limit).Triple call F (revokeCredentials userId now)
      fun _ => settled F userId now := by
  refine (revokeSessions_triple hF hsessions hheld).bind fun _ => ?_
  refine Protocol.triple_exists fun sessionIds => ?_
  have hfound : (credentialProtocol limit).Steady (Protocol.Wrote
      (fun t db => (F t db ∧ sessionsFound userId sessionIds t db) ∧
        ∀ id ∈ sessionIds, (PlatformLock.session id, LockMode.exclusive) ∈ t.held)
      (.revokeSessions sessionIds now)) :=
    ((hF.and (steady_sessionsFound userId sessionIds)).and
      (Protocol.steady_forall fun _ => (Protocol.steady_held _).imp _)).wrote _
  refine (revokeUserApiKeysInTransaction_triple hfound ?_ ?_).weaken (fun _ _ _ h => h) ?_
  · rintro t db ⟨writes, hwrites, ⟨hknown, -⟩, -⟩
    rw [hwrites, PlatformTables.after_concat]
    exact hkeys _ db hknown
  · rintro t db ⟨writes, -, ⟨hknown, -⟩, -⟩
    have hlock := hheld { t with writes := writes } db hknown
    exact hlock
  · rintro _ t db - ⟨keyIds, w₁, hw₁, ⟨⟨w₂, hw₂, ⟨hknown, hsessionsFound⟩, hsessionLocks⟩,
      hkeysFound⟩, hkeyLocks⟩
    obtain rfl : w₁ = w₂ ++ [_] := hw₂
    refine ⟨sessionIds, keyIds, w₂, ?_, ?_, hknown⟩
    · rw [hw₁, List.append_assoc]
      rfl
    · exact ⟨hsessionsFound.1, hsessionLocks, hkeyLocks, hsessionsFound.2, hkeysFound.2⟩

def deactivating (userId : Uuid) : Protocol.Assertion PlatformTables PlatformWrite PlatformLock :=
  fun t db => nothingWritten t db ∧
    (PlatformLock.row (.user userId), LockMode.exclusive) ∈ t.held ∧ db.ActiveUser userId

lemma steady_deactivating (userId : Uuid) : (credentialProtocol limit).Steady (deactivating userId) where
  rely t db db' hinv hinv' hrely h :=
    ⟨h.1, h.2.1, ((steady_activeUser userId).rely t db db' hinv hinv' hrely
      ⟨⟨.exclusive, h.2.1⟩, h.2.2⟩).2⟩
  lock _ _ _ h := ⟨h.1, List.mem_append_right _ h.2.1, h.2.2⟩

variable {ceiling : ℕ}

lemma deactivateBody_triple :
    (credentialProtocol limit).Triple call nothingWritten (deactivateBody now userId caller ceiling)
      fun _ => settled (Protocol.Wrote (deactivating userId) (.setUserActive userId false)) userId
        now := by
  have hset : (credentialProtocol limit).Steady
      (Protocol.Wrote (deactivating userId) (.setUserActive userId false)) :=
    (steady_deactivating userId).wrote _
  have hsettled := @steady_settled _ _ userId now hset
  refine (Protocol.triple_query steady_nothingWritten).bind fun _ => ?_
  refine (PlatformLogic.triple_guardDeactivation steady_nothingWritten nothingWritten_eq_nil
    (steady_deactivating userId)).bind fun guard => ?_
  refine (Protocol.triple_query (steady_deactivating userId)).bind fun hadOwner => ?_
  refine (perform_triple (steady_deactivating userId)).bind fun _ => ?_
  refine (revokeCredentials_triple hset ?_ ?_ ?_).bind fun _ => ?_
  · rintro t db ⟨writes, hwrites, hnone, -⟩
    obtain rfl : writes = [] := hnone
    rw [hwrites]
    rfl
  · rintro t db ⟨writes, hwrites, hnone, -⟩
    obtain rfl : writes = [] := hnone
    rw [hwrites]
    rfl
  · rintro t db ⟨writes, -, -, hlock, -⟩
    exact hlock
  · refine (PlatformLogic.triple_lockedQuery hsettled).bind fun _ => ?_
    exact Protocol.triple_require.bind fun _ => Protocol.triple_query hsettled

/-- The end of a call after which it may be tried again: whatever was refused has left nothing. -/
def Retriable (result : Except PlatformError Unit) (t : Standing PlatformWrite PlatformLock)
    (db : PlatformTables) : Prop :=
  ∀ e, result = .error e → t = {} ∧ CredentialInvariant db

lemma deactivateBody_safe (hcall : ∀ id, call.Sets id ↔ id = userId)
    (hinv : CredentialInvariant db) :
    (credentialProtocol limit).Safe call Retriable
      (deactivateBody now userId caller ceiling).transaction {} db := by
  refine deactivateBody_triple.transaction
    (fun _ => steady_settled ((steady_deactivating userId).wrote _)) ?_ hinv rfl
    (fun _ _ _ _ _ _ _ => nofun) fun _ _ hinv' _ _ => ⟨rfl, hinv'⟩
  rintro _ t db - ⟨sessionIds, keyIds, w₁, hw₁, hsettles, w₂, hw₂, hnone, -, hactive⟩
  obtain rfl : w₂ = [] := hnone
  obtain rfl : w₁ = [_] := hw₂
  rw [hw₁]
  exact guarantee_deactivate hcall hactive hsettles

lemma retryDeactivationProgram_safe {attempt : PlatformProgram}
    (hattempt : ∀ db, CredentialInvariant db →
      (credentialProtocol limit).Safe call Retriable attempt {} db) (attempts : ℕ)
    (hinv : CredentialInvariant db) :
    (credentialProtocol limit).Safe call Retriable (retryDeactivationProgram userId attempt attempts)
      {} db := by
  induction attempts generalizing db with
  | zero => exact fun _ _ => ⟨rfl, hinv⟩
  | succ attempts ih =>
    refine Protocol.Safe.bind (Protocol.Safe.mono ?_ (hattempt db hinv))
    intro result t db' hended
    by_cases happeared : result = .error (.service .membershipAppeared)
    · rw [if_pos happeared]
      obtain ⟨rfl, hinv'⟩ := hended _ happeared
      exact ih hinv'
    · rw [if_neg happeared]
      exact hended

lemma reactivateBody_triple :
    (credentialProtocol limit).Triple call nothingWritten (reactivateBody now userId caller)
      fun _ => Protocol.Wrote (settled (fun t db => nothingWritten t db ∧
        (PlatformLock.row (.user userId), LockMode.exclusive) ∈ t.held) userId now)
        (.setUserActive userId true) := by
  have hlocked : (credentialProtocol limit).Steady fun t db => nothingWritten t db ∧
      (PlatformLock.row (.user userId), LockMode.exclusive) ∈ t.held :=
    steady_nothingWritten.and (Protocol.steady_held _)
  refine (Protocol.triple_query steady_nothingWritten).bind fun _ => ?_
  refine (PlatformLogic.triple_authorizePlatformCaller steady_nothingWritten).bind fun _ => ?_
  refine (PlatformLogic.triple_lockUser steady_nothingWritten nothingWritten_eq_nil).bind
    fun found => ?_
  rcases found with _ | _ | _
  · exact Protocol.triple_throw
  · refine ((revokeCredentials_triple hlocked ?_ ?_ fun _ _ h => h.2).weaken ?_
      fun _ _ _ _ h => h).bind fun _ => perform_triple (steady_settled hlocked)
    · intro t db hknown
      have hwrites : t.writes = [] := hknown.1
      rw [hwrites]
      rfl
    · intro t db hknown
      have hwrites : t.writes = [] := hknown.1
      rw [hwrites]
      rfl
    · exact fun t db _ h => ⟨h.1, (h.2 false rfl).1⟩
  · exact Protocol.triple_throw

lemma reactivateBody_safe (hcall : ∀ id, call.Sets id ↔ id = userId)
    (hnot : ∀ id, ¬ call.Deactivates id) (hinv : CredentialInvariant db) :
    (credentialProtocol limit).Safe call (fun _ _ _ => True)
      (reactivateBody now userId caller).transaction {} db := by
  refine reactivateBody_triple.safe (fun _ => (steady_settled
    (steady_nothingWritten.and (Protocol.steady_held _))).wrote _) ?_ hinv rfl
  rintro _ t db - ⟨w₁, hw₁, sessionIds, keyIds, w₂, hw₂, hsettles, hnone, -⟩
  obtain rfl : w₂ = [] := hnone
  obtain rfl : w₁ = _ := hw₂
  rw [hw₁]
  exact guarantee_reactivate hcall hnot hsettles

/-! ## The calls -/

lemma validated_safe {checked : Result α} {program : α → PlatformProgram}
    (h : ∀ a, (credentialProtocol limit).Safe call (fun _ _ _ => True) (program a) {} db) :
    (credentialProtocol limit).Safe call (fun _ _ _ => True) (validated checked program) {} db := by
  unfold validated
  cases checked with
  | error e => trivial
  | ok a => exact h a

end Credentials

open Credentials in
theorem CredentialCall.program_safe (call : CredentialCall) (hinv : CredentialInvariant db) :
    (credentialProtocol limit).Safe call (fun _ _ _ => True) (call.program limit) {} db := by
  have hkeeps : ∀ {body : PlatformBody Unit},
      Keeps limit call (fun _ => True) body (fun _ _ => True) →
      (credentialProtocol limit).Safe call (fun _ _ _ => True) body.run {} db :=
    fun h => Protocol.Safe.mono (fun _ _ _ _ => trivial) (h [] db hinv trivial)
  cases call with
  | issueSession newId userId tokenHash expiresAt => exact issueSession_safe (fun _ => id) hinv
  | revokeSession sessionId now =>
    exact onlyRevokes_safe (fun _ => id) revokeSession_triple hinv
  | createApiKey newId tenantId userId name keyHash expiresAt =>
    exact hkeeps (createApiKey_keeps fun _ => id)
  | createServiceAccountApiKey now newId newPermissionId tenantId actorUserId serviceAccountId name
      keyHash expiresAt =>
    exact hkeeps (createServiceAccountApiKey_keeps fun _ => id)
  | rotateApiKey now newId newPermissionId tenantId keyId caller keyHash expiresNoLaterThan =>
    exact hkeeps (rotateApiKey_keeps fun _ => id)
  | revokeApiKey now newPermissionId tenantId keyId caller =>
    exact onlyRevokes_safe (fun _ => id) revokeApiKey_triple hinv
  | revokeServiceAccountApiKey now newPermissionId tenantId keyId actorUserId =>
    exact onlyRevokes_safe (fun _ => id) revokeServiceAccountApiKey_triple hinv
  | revokeUserSessions userId now caller reason =>
    exact Credentials.validated_safe fun _ =>
      onlyRevokes_safe (fun _ => id) revokeUserSessions_triple hinv
  | revokeUserApiKeys userId now caller reason =>
    exact Credentials.validated_safe fun _ =>
      onlyRevokes_safe (fun _ => id) revokeUserApiKeys_triple hinv
  | deactivateUser userId now ceiling caller reason =>
    have hsets : ∀ id, (deactivateUser userId now ceiling caller reason).Sets id ↔ id = userId :=
      fun _ => eq_comm
    exact Credentials.validated_safe fun _ => Protocol.Safe.mono (fun _ _ _ _ => trivial)
      (Credentials.retryDeactivationProgram_safe
        (fun _ hinv' => Credentials.deactivateBody_safe hsets hinv') maxAttempts hinv)
  | reactivateUser userId now caller reason =>
    exact Credentials.validated_safe fun _ =>
      Credentials.reactivateBody_safe (fun _ => eq_comm) (fun _ => id) hinv

end SaasOs
