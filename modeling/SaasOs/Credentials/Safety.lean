import SaasOs.Credentials.Protocol
import SaasOs.Platform.Statements

/-!
# What the statements of the calls lead to

While a call holds its locks, what it has read of users, sessions and keys stays true; the assertions
that say so are steady in the protocol of the calls.  For each statement a triple says which write the
transaction has made and what the call knows of the committed contents.
-/

namespace SaasOs

open ReadCommitted

variable {limit : ℕ} {call : CredentialCall} {held : Locks PlatformLock}
  {db db' view : PlatformTables} {w : PlatformWrite} {writes : List PlatformWrite}

/-! ## Counting keys -/

lemma countP_add_countP {α : Type} {p q r : α → Bool} {l : List α}
    (h : ∀ a ∈ l, (q a).toNat + (r a).toNat = (p a).toNat) :
    l.countP q + l.countP r = l.countP p := by
  induction l with
  | nil => rfl
  | cons a l ih =>
    have hhead := h a List.mem_cons_self
    have htail := ih fun b hb => h b (List.mem_cons_of_mem a hb)
    rw [List.countP_cons, List.countP_cons, List.countP_cons]
    cases hp : p a <;> cases hq : q a <;> cases hr : r a <;> simp_all <;> omega

def ApiKey.isLiveOf (userId : Uuid) (key : ApiKey) : Bool :=
  key.userId == some userId && key.revokedAt.isNone

lemma PlatformTables.liveKeyCount_eq_countP (db : PlatformTables) (userId : Uuid) :
    db.liveKeyCount userId = db.apiKeys.countP (ApiKey.isLiveOf userId) := by
  unfold PlatformTables.liveKeyCount Tables.liveApiKeys
  rw [List.length_map, List.countP_eq_length_filter]
  rfl

lemma liveKeyCount_of_apiKeys_eq {userId : Uuid} (h : db'.apiKeys = db.apiKeys) :
    db'.liveKeyCount userId = db.liveKeyCount userId := by
  rw [PlatformTables.liveKeyCount_eq_countP, PlatformTables.liveKeyCount_eq_countP, h]

lemma liveKeyCount_revokeApiKeys (db : PlatformTables) (userId : Uuid) (ids : List Uuid)
    (now : Instant) : (db.write (.revokeApiKeys ids now)).liveKeyCount userId +
      db.apiKeys.countP (fun key => key.isLiveOf userId && decide (key.id ∈ ids)) =
    db.liveKeyCount userId := by
  rw [PlatformTables.liveKeyCount_eq_countP, PlatformTables.liveKeyCount_eq_countP]
  unfold PlatformTables.write
  dsimp only
  rw [List.countP_map]
  refine countP_add_countP fun key _ => ?_
  unfold ApiKey.isLiveOf Function.comp
  by_cases hid : key.id ∈ ids
  · simp [hid]
  · simp [hid]

lemma liveKeyCount_revokeApiKeys_le (db : PlatformTables) (userId : Uuid) (ids : List Uuid)
    (now : Instant) :
    (db.write (.revokeApiKeys ids now)).liveKeyCount userId ≤ db.liveKeyCount userId := by
  have hcount := liveKeyCount_revokeApiKeys db userId ids now
  omega

variable {userId : Uuid}

lemma liveKeyCount_revokeApiKeys_lt {key : ApiKey} (hkey : key ∈ db.apiKeys)
    (hlive : key.revokedAt = none) (huser : key.userId = some userId) (now : Instant) :
    (db.write (.revokeApiKeys [key.id] now)).liveKeyCount userId < db.liveKeyCount userId := by
  have hcount := liveKeyCount_revokeApiKeys db userId [key.id] now
  have hpos : 0 < db.apiKeys.countP
      (fun other => other.isLiveOf userId && decide (other.id ∈ [key.id])) := by
    refine List.countP_pos_iff.mpr ⟨key, hkey, ?_⟩
    simp [ApiKey.isLiveOf, hlive, huser]
  omega

lemma liveKeyCount_insertApiKey (db : PlatformTables) (row : ApiKey) (userId : Uuid) :
    (db.write (.insertApiKey row)).liveKeyCount userId =
      db.liveKeyCount userId + if row.isLiveOf userId then 1 else 0 := by
  rw [PlatformTables.liveKeyCount_eq_countP, PlatformTables.liveKeyCount_eq_countP]
  unfold PlatformTables.write
  dsimp only
  rw [List.countP_append, List.countP_singleton]

lemma liveKeyCount_write_le (userId : Uuid) (hw : ∀ row, w ≠ .insertApiKey row) :
    (view.write w).liveKeyCount userId ≤ view.liveKeyCount userId := by
  rcases apiKeys_write_cases view w with ⟨row, rfl⟩ | ⟨ids, now, rfl⟩ | hsame
  · exact absurd rfl (hw row)
  · exact liveKeyCount_revokeApiKeys_le view userId ids now
  · exact (liveKeyCount_of_apiKeys_eq hsame).le

lemma liveKeyCount_after_le (userId : Uuid) (hwrites : ∀ w ∈ writes, ∀ row, w ≠ .insertApiKey row) :
    (db.after writes).liveKeyCount userId ≤ db.liveKeyCount userId := by
  induction writes using List.reverseRecOn with
  | nil => exact le_rfl
  | append_singleton writes w ih =>
    rw [PlatformTables.after_concat]
    have hbefore := ih fun other hother => hwrites other (List.mem_append_left _ hother)
    have hlast := hwrites w (List.mem_append_right _ (List.mem_singleton.mpr rfl))
    exact (liveKeyCount_write_le userId hlast).trans hbefore

/-! ## Steady assertions -/

section Steady

variable (userId : Uuid)

lemma steady_activeUser : (credentialProtocol limit).Steady fun t db =>
    HoldsUser t.held userId ∧ db.ActiveUser userId where
  rely _ _ _ _ _ hrely h := by
    obtain ⟨hheld, row, hrow, hid, hactive⟩ := h
    exact ⟨hheld, row, (hrely.users userId hheld row hid).mpr hrow, hid, hactive⟩
  lock _ _ _ h := by
    obtain ⟨⟨mode, hmode⟩, hactive⟩ := h
    exact ⟨⟨mode, List.mem_append_right _ hmode⟩, hactive⟩

variable (id : Uuid)

lemma steady_newSession : (credentialProtocol limit).Steady fun t db =>
    (PlatformLock.session id, LockMode.exclusive) ∈ t.held ∧
      ∀ other ∈ db.sessions, other.id ≠ id where
  rely _ _ _ _ _ hrely h :=
    ⟨h.1, fun other hother hid => h.2 other ((hrely.sessions id h.1 other hid).mp hother) hid⟩
  lock _ _ _ h := ⟨List.mem_append_right _ h.1, h.2⟩

lemma steady_newKey : (credentialProtocol limit).Steady fun t db =>
    (PlatformLock.apiKey id, LockMode.exclusive) ∈ t.held ∧
      ∀ other ∈ db.apiKeys, other.id ≠ id where
  rely _ _ _ _ _ hrely h :=
    ⟨h.1, fun other hother hid => h.2 other ((hrely.apiKeys id h.1 other hid).mp hother) hid⟩
  lock _ _ _ h := ⟨List.mem_append_right _ h.1, h.2⟩

lemma steady_lockedKey (key : ApiKey) : (credentialProtocol limit).Steady fun t db =>
    (PlatformLock.apiKey key.id, LockMode.exclusive) ∈ t.held ∧ key ∈ db.apiKeys where
  rely _ _ _ _ _ hrely h := ⟨h.1, (hrely.apiKeys key.id h.1 key rfl).mpr h.2⟩
  lock _ _ _ h := ⟨List.mem_append_right _ h.1, h.2⟩

variable (ids : List Uuid)

lemma steady_sessionsFound :
    (credentialProtocol limit).Steady fun t db =>
      (PlatformLock.row (.user userId), LockMode.exclusive) ∈ t.held ∧
        ∀ row ∈ db.sessions, row.userId = userId → row.revokedAt = none → row.id ∈ ids where
  rely _ _ _ _ _ hrely h :=
    ⟨h.1, fun row hrow huser hlive =>
      h.2 row (hrely.noNewSession userId h.1 row hrow huser hlive) huser hlive⟩
  lock _ _ _ h := ⟨List.mem_append_right _ h.1, h.2⟩

lemma steady_keysFound :
    (credentialProtocol limit).Steady fun t db =>
      (PlatformLock.row (.user userId), LockMode.exclusive) ∈ t.held ∧
        ∀ row ∈ db.apiKeys, row.userId = some userId → row.revokedAt = none → row.id ∈ ids where
  rely _ _ _ _ _ hrely h :=
    ⟨h.1, fun row hrow huser hlive =>
      h.2 row (hrely.noNewKey userId h.1 row hrow huser hlive) huser hlive⟩
  lock _ _ _ h := ⟨List.mem_append_right _ h.1, h.2⟩

lemma steady_room : (credentialProtocol limit).Steady fun t db =>
    (PlatformLock.userKeyLimit userId, LockMode.exclusive) ∈ t.held ∧
      db.liveKeyCount userId < limit where
  rely _ _ _ _ _ hrely h := ⟨h.1, (hrely.limit userId h.1).trans_lt h.2⟩
  lock _ _ _ h := ⟨List.mem_append_right _ h.1, h.2⟩

lemma steady_owner (keyId : Uuid) (ownerUserId : Option Uuid) :
    (credentialProtocol limit).Steady fun _ db =>
      ∃ key ∈ db.apiKeys, key.id = keyId ∧ key.userId = ownerUserId where
  rely _ _ _ _ _ hrely h := by
    obtain ⟨key, hkey, hid, howner⟩ := h
    obtain ⟨key', hkey', hcontinues⟩ := hrely.keys key hkey
    exact ⟨key', hkey', hcontinues.id.trans hid, hcontinues.userId.trans howner⟩
  lock _ _ _ h := h

end Steady

/-! ## Transactions that only revoke -/

def OnlyRevokes (held : Locks PlatformLock) : PlatformWrite → Prop
  | .revokeSessions ids _ => ∀ id ∈ ids, (PlatformLock.session id, LockMode.exclusive) ∈ held
  | .revokeApiKeys ids _ => ∀ id ∈ ids, (PlatformLock.apiKey id, LockMode.exclusive) ∈ held
  | .insertPermission _ => True
  | _ => False

lemma OnlyRevokes.justified (h : OnlyRevokes held w) : CredentialJustified call held db view w := by
  cases w with
  | revokeSessions ids now => exact h
  | revokeApiKeys ids now => exact h
  | insertPermission row => trivial
  | _ => exact h.elim

lemma OnlyRevokes.not_insertApiKey (h : OnlyRevokes held w) (row : ApiKey) :
    w ≠ .insertApiKey row := by
  rintro rfl
  exact h

lemma credentialWrites_of_onlyRevokes (h : ∀ w ∈ writes, OnlyRevokes held w) :
    CredentialWrites call held db writes := by
  induction writes using List.reverseRecOn with
  | nil => exact .nil
  | append_singleton writes w ih =>
    refine (ih fun other hother => h other (List.mem_append_left _ hother)).concat ?_
    exact (h w (List.mem_append_right _ (List.mem_singleton.mpr rfl))).justified

lemma CredentialCall.Deactivates.sets (h : call.Deactivates userId) :
    call.Sets userId := by
  cases call with
  | deactivateUser target now ceiling caller reason => exact h
  | _ => exact h.elim

lemma guarantee_of_onlyRevokes (hcall : ∀ userId, ¬ call.Sets userId)
    (h : ∀ w ∈ writes, OnlyRevokes held w) :
    CredentialGuarantee limit call held db (db.after writes) where
  justified := ⟨writes, credentialWrites_of_onlyRevokes h, rfl⟩
  settled userId hsets := absurd hsets (hcall userId)
  deactivated userId hdeactivates := absurd hdeactivates.sets (hcall userId)
  counted userId := .inl (liveKeyCount_after_le userId fun w hw row => (h w hw).not_insertApiKey row)

def onlyRevokes : Protocol.Assertion PlatformTables PlatformWrite PlatformLock :=
  fun t _ => ∀ w ∈ t.writes, OnlyRevokes t.held w

lemma OnlyRevokes.of_held {held' : Locks PlatformLock} (h : OnlyRevokes held w)
    (hheld : ∀ l ∈ held, l ∈ held') : OnlyRevokes held' w := by
  cases w with
  | revokeSessions ids now => exact fun id hid => hheld _ (h id hid)
  | revokeApiKeys ids now => exact fun id hid => hheld _ (h id hid)
  | insertPermission row => trivial
  | _ => exact h.elim

lemma steady_onlyRevokes : (credentialProtocol limit).Steady onlyRevokes where
  rely _ _ _ _ _ _ h := h
  lock _ _ _ h w hw := (h w hw).of_held fun _ hl => List.mem_append_right _ hl

lemma onlyRevokes_concat {t : Standing PlatformWrite PlatformLock} (h : onlyRevokes t db)
    (hw : OnlyRevokes t.held w) : onlyRevokes { t with writes := t.writes ++ [w] } db := by
  intro other hother
  rcases List.mem_append.mp hother with hold | hnew
  · exact h other hold
  · obtain rfl := List.mem_singleton.mp hnew
    exact hw

/-! ## Statements -/

namespace Credentials

variable {F F' : Protocol.Assertion PlatformTables PlatformWrite PlatformLock}

def nothingWritten : Protocol.Assertion PlatformTables PlatformWrite PlatformLock :=
  fun t _ => t.writes = []

lemma steady_nothingWritten : (credentialProtocol limit).Steady nothingWritten :=
  Protocol.steady_writes (· = [])

def Permissive (F : Protocol.Assertion PlatformTables PlatformWrite PlatformLock) : Prop :=
  ∀ t db row, F t db → F { t with writes := t.writes ++ [.insertPermission row] } db

variable {newId : Uuid}

lemma registerPermission_triple {resource action : String}
    (hF : (credentialProtocol limit).Steady F) (hpermissive : Permissive F) :
    (credentialProtocol limit).Triple call F (registerPermission newId resource action)
      fun _ => F := by
  refine Protocol.triple_statement hF fun t db _ _ hknown _ _ => ?_
  split
  · rw [List.append_nil]
    exact hknown
  · exact hpermissive t db _ hknown

variable {now : Instant}

lemma registerAndDecide_triple {request : AccessRequest} {refusal : PlatformError}
    (hF : (credentialProtocol limit).Steady F)
    (hpermissive : Permissive F) :
    (credentialProtocol limit).Triple call F (registerAndDecide now newId request refusal)
      fun _ => F := by
  refine (registerPermission_triple hF hpermissive).bind fun _ => ?_
  exact (PlatformLogic.triple_lockedQuery hF).bind fun _ => Protocol.triple_require

variable {tenantId : Uuid}

variable {caller : Caller}

section

variable (hF : (credentialProtocol limit).Steady F)

include hF

lemma authorizeKeyCaller_triple {operation action : String} (hpermissive : Permissive F) :
    (credentialProtocol limit).Triple call F
      (authorizeKeyCaller now newId caller operation tenantId action) fun _ => F := by
  cases caller with
  | system authority => exact Protocol.triple_throw
  | user userId => exact registerAndDecide_triple hF hpermissive
  | serviceAccount serviceAccountId ownTenantId => exact registerAndDecide_triple hF hpermissive

lemma authorizeKeyManagement_triple {key : ApiKey} {operation action : String}
    (hpermissive : Permissive F) :
    (credentialProtocol limit).Triple call F
      (authorizeKeyManagement now newId caller key operation action tenantId) fun _ => F := by
  have hauthorize : (credentialProtocol limit).Triple call F
      (authorizeKeyCaller now newId caller operation tenantId action) fun _ => F :=
    authorizeKeyCaller_triple hF hpermissive
  have hpure : (credentialProtocol limit).Triple call F (pure () : PlatformBody Unit) fun _ => F :=
    Protocol.triple_pure fun _ _ h => h
  cases caller with
  | user userId =>
    dsimp only [authorizeKeyManagement]
    split
    · split
      · exact hpure
      · exact (PlatformLogic.triple_lockedQuery hF).bind fun _ => Protocol.triple_require
    · exact hauthorize
  | serviceAccount serviceAccountId ownTenantId =>
    dsimp only [authorizeKeyManagement]
    split
    · exact hpure
    · exact hauthorize
  | system authority => exact hauthorize

lemma lockAccessibleTenant_triple :
    (credentialProtocol limit).Triple call F (lockAccessibleTenant tenantId) fun _ => F :=
  (PlatformLogic.triple_lockedQuery hF).bind fun _ => Protocol.triple_require

end

def activeUser (userId : Uuid) : Protocol.Assertion PlatformTables PlatformWrite PlatformLock :=
  fun t db => HoldsUser t.held userId ∧ db.ActiveUser userId

variable {userId : Uuid}

lemma checkActive_triple {found : Option Bool} {verdict : Except PlatformError Unit}
    (hverdict : verdict = .ok () → found = some true) :
    (credentialProtocol limit).Triple call
      (fun t db => F t db ∧ ∀ isActive, found = some isActive →
        (PlatformLock.row (.user userId), LockMode.share) ∈ t.held ∧
          ∃ row ∈ db.users, row.id = userId ∧ row.isActive = isActive)
      (Body.check verdict) fun _ t db => F t db ∧ activeUser userId t db := by
  refine Protocol.triple_check.weaken (fun _ _ _ h => h) ?_
  rintro _ t db - ⟨⟨hknown, hfound⟩, hcheck⟩
  obtain ⟨hheld, hactive⟩ := hfound true (hverdict hcheck)
  exact ⟨hknown, ⟨.share, hheld⟩, hactive⟩

variable {operation : String}

section

variable (hF : (credentialProtocol limit).Steady F)

include hF

lemma requireActiveCaller_triple (hwrites : ∀ t db, F t db → t.writes = []) :
    (credentialProtocol limit).Triple call F (requireActiveCaller userId operation tenantId)
      fun _ t db => F t db ∧ activeUser userId t db := by
  refine (PlatformLogic.triple_lockUser hF hwrites).bind fun found => ?_
  refine checkActive_triple fun h => ?_
  rcases found with _ | _ | _
  · cases h
  · cases h
  · rfl

lemma requireActiveOwner_triple {ownerUserId : Option Uuid}
    (hwrites : ∀ t db, F t db → t.writes = []) :
    (credentialProtocol limit).Triple call F (requireActiveOwner tenantId ownerUserId)
      fun _ t db => F t db ∧ ∀ userId, ownerUserId = some userId → activeUser userId t db := by
  cases ownerUserId with
  | none => exact Protocol.triple_pure fun t db h => ⟨h, nofun⟩
  | some userId =>
    refine (PlatformLogic.triple_lockUser hF hwrites).bind fun found => ?_
    refine (checkActive_triple fun h => ?_).weaken (fun _ _ _ h => h) ?_
    · by_contra hinactive
      rw [if_neg hinactive] at h
      cases h
    · rintro _ t db - ⟨hknown, hactive⟩
      refine ⟨hknown, ?_⟩
      rintro _ ⟨⟩
      exact hactive

lemma lockKey_triple_mem {tenantId keyId : Uuid} :
    (credentialProtocol limit).Triple call F (lockKey tenantId keyId) fun key t db =>
      F t db ∧ key.id = keyId ∧ (PlatformLock.apiKey key.id, LockMode.exclusive) ∈ t.held ∧
        key ∈ (db.after t.writes).apiKeys := by
  refine Protocol.triple_lockedRead hF fun t db key _ hknown hheld hresult => ⟨hknown, ?_⟩
  cases hfind : ((credentialProtocol limit).view db t.writes).apiKey? tenantId keyId with
  | none =>
    rw [hfind] at hresult
    cases hresult
  | some row =>
    rw [hfind] at hheld hresult
    obtain rfl : row = key := Except.ok.inj hresult
    have hid := List.find?_some hfind
    rw [Bool.and_eq_true, beq_iff_eq] at hid
    exact ⟨hid.1, hheld _ (List.mem_singleton.mpr rfl), List.mem_of_find?_eq_some hfind⟩

lemma lockKey_triple {tenantId keyId : Uuid} :
    (credentialProtocol limit).Triple call F (lockKey tenantId keyId) fun key t db =>
      F t db ∧ (PlatformLock.apiKey key.id, LockMode.exclusive) ∈ t.held :=
  (lockKey_triple_mem hF).weaken (fun _ _ _ h => h) fun _ _ _ _ h => ⟨h.1, h.2.2.1⟩

end

variable {row : ApiKey}

lemma insertApiKey_triple {violation : PlatformError} (hF : (credentialProtocol limit).Steady F) :
    (credentialProtocol limit).Triple call F (insertApiKey row violation) fun _ =>
      Protocol.Wrote (fun t db => F t db ∧
        (PlatformLock.apiKey row.id, LockMode.exclusive) ∈ t.held ∧
          ∀ other ∈ db.apiKeys, other.id ≠ row.id) (.insertApiKey row) := by
  refine Protocol.triple_write hF fun t db _ _ hknown hheld hresult => ?_
  refine ⟨hknown, hheld _ List.mem_cons_self, fun other hother hid => ?_⟩
  obtain ⟨other', hother', hcontinues⟩ := keysContinue_after db t.writes other hother
  have hadmits : ((credentialProtocol limit).view db t.writes).admitsApiKey row = true := by
    split at hresult
    · assumption
    · cases hresult
  simp only [Tables.admitsApiKey, Bool.and_eq_true, Bool.not_eq_true', List.any_eq_false,
    beq_iff_eq, bne_iff_ne] at hadmits
  exact hadmits.1.1.1.1 other' hother' (hcontinues.id.trans hid)

/-! ### Bulk revocations -/

variable {live : PlatformTables → List Uuid} {lock : Uuid → PlatformLock}
   {write : List Uuid → PlatformWrite}

lemma revokeLive_triple
    {C : List Uuid → Protocol.Assertion PlatformTables PlatformWrite PlatformLock}
    (hF : (credentialProtocol limit).Steady F) (hC : ∀ ids, (credentialProtocol limit).Steady (C ids))
    (hread : ∀ t db, F t db → C (live (db.after t.writes)) t db)
    (hkeep : ∀ ids t db, F t db → C ids t db →
      C ((live (db.after t.writes)).filter ids.contains) t db) :
    (credentialProtocol limit).Triple call F (revokeLive live lock write) fun _ t db =>
      ∃ ids, Protocol.Wrote (fun t db => (F t db ∧ C ids t db) ∧
        ∀ id ∈ ids, (lock id, LockMode.exclusive) ∈ t.held) (write ids) t db := by
  refine Protocol.Triple.bind (G := fun found t db => F t db ∧ C found t db) ?_ fun found => ?_
  · refine Protocol.triple_lockedRead hF fun t db found _ hknown _ hresult => ⟨hknown, ?_⟩
    rw [← Except.ok.inj hresult]
    exact hread t db hknown
  · refine Protocol.triple_statement (hF.and (hC found)) fun t db _ _ hknown hheld _ => ?_
    refine ⟨(live (db.after t.writes)).filter found.contains, t.writes, rfl,
      ⟨hknown.1, hkeep found t db hknown.1 hknown.2⟩, ?_⟩
    intro id hid
    have hfound := (List.mem_filter.mp hid).2
    exact hheld _ (List.mem_map.mpr ⟨id, List.contains_iff_mem.mp hfound, rfl⟩)

lemma revokeLive_onlyRevokes
    (hwrite : ∀ ids held, (∀ id ∈ ids, (lock id, LockMode.exclusive) ∈ held) →
      OnlyRevokes held (write ids)) :
    (credentialProtocol limit).Triple call onlyRevokes (revokeLive live lock write)
      fun _ => onlyRevokes := by
  refine (revokeLive_triple (C := fun _ _ _ => True) steady_onlyRevokes
    (fun _ => Protocol.steady_const True) (fun _ _ _ => trivial)
    (fun _ _ _ _ _ => trivial)).weaken (fun _ _ _ h => h) ?_
  rintro _ t db - ⟨ids, writes, hwrites, ⟨hknown, -⟩, hheld⟩
  have hlast := onlyRevokes_concat hknown (hwrite ids t.held hheld)
  unfold onlyRevokes at hlast ⊢
  rw [hwrites]
  exact hlast

def SessionsUnwritten (F : Protocol.Assertion PlatformTables PlatformWrite PlatformLock) : Prop :=
  ∀ t db, F t db → (db.after t.writes).sessions = db.sessions

def KeysUnwritten (F : Protocol.Assertion PlatformTables PlatformWrite PlatformLock) : Prop :=
  ∀ t db, F t db → (db.after t.writes).apiKeys = db.apiKeys

def sessionsFound (userId : Uuid) (ids : List Uuid) :
    Protocol.Assertion PlatformTables PlatformWrite PlatformLock := fun t db =>
  (PlatformLock.row (.user userId), LockMode.exclusive) ∈ t.held ∧
    ∀ row ∈ db.sessions, row.userId = userId → row.revokedAt = none → row.id ∈ ids

def keysFound (userId : Uuid) (ids : List Uuid) :
    Protocol.Assertion PlatformTables PlatformWrite PlatformLock := fun t db =>
  (PlatformLock.row (.user userId), LockMode.exclusive) ∈ t.held ∧
    ∀ row ∈ db.apiKeys, row.userId = some userId → row.revokedAt = none → row.id ∈ ids

lemma mem_liveSessions {row : UserSession} (hrow : row ∈ view.sessions)
    (huser : row.userId = userId) (hlive : row.revokedAt = none) :
    row.id ∈ view.liveSessions userId := by
  refine List.mem_map.mpr ⟨row, List.mem_filter.mpr ⟨hrow, ?_⟩, rfl⟩
  simp [huser, hlive]

lemma mem_liveApiKeys (hrow : row ∈ view.apiKeys) (huser : row.userId = some userId)
    (hlive : row.revokedAt = none) :
    row.id ∈ view.liveApiKeys userId := by
  refine List.mem_map.mpr ⟨row, List.mem_filter.mpr ⟨hrow, ?_⟩, rfl⟩
  simp [huser, hlive]

lemma revokeSessions_triple (hF : (credentialProtocol limit).Steady F)
    (hunwritten : SessionsUnwritten F)
    (hheld : ∀ t db, F t db → (PlatformLock.row (.user userId), LockMode.exclusive) ∈ t.held) :
    (credentialProtocol limit).Triple call F (revokeSessions userId now) fun _ t db =>
      ∃ ids, Protocol.Wrote (fun t db => (F t db ∧ sessionsFound userId ids t db) ∧
        ∀ id ∈ ids, (PlatformLock.session id, LockMode.exclusive) ∈ t.held)
        (.revokeSessions ids now) t db := by
  refine revokeLive_triple hF (steady_sessionsFound userId) ?_ ?_
  · intro t db hknown
    refine ⟨hheld t db hknown, fun row hrow huser hlive => ?_⟩
    rw [← hunwritten t db hknown] at hrow
    exact mem_liveSessions hrow huser hlive
  · intro ids t db hknown hfound
    refine ⟨hfound.1, fun row hrow huser hlive => ?_⟩
    refine List.mem_filter.mpr ⟨?_, List.contains_iff_mem.mpr (hfound.2 row hrow huser hlive)⟩
    rw [← hunwritten t db hknown] at hrow
    exact mem_liveSessions hrow huser hlive

lemma revokeUserApiKeysInTransaction_triple (hF : (credentialProtocol limit).Steady F)
    (hunwritten : KeysUnwritten F)
    (hheld : ∀ t db, F t db → (PlatformLock.row (.user userId), LockMode.exclusive) ∈ t.held) :
    (credentialProtocol limit).Triple call F (revokeUserApiKeysInTransaction userId now)
      fun _ t db => ∃ ids, Protocol.Wrote (fun t db => (F t db ∧ keysFound userId ids t db) ∧
        ∀ id ∈ ids, (PlatformLock.apiKey id, LockMode.exclusive) ∈ t.held)
        (.revokeApiKeys ids now) t db := by
  refine revokeLive_triple hF (steady_keysFound userId) ?_ ?_
  · intro t db hknown
    refine ⟨hheld t db hknown, fun row hrow huser hlive => ?_⟩
    rw [← hunwritten t db hknown] at hrow
    exact mem_liveApiKeys hrow huser hlive
  · intro ids t db hknown hfound
    refine ⟨hfound.1, fun row hrow huser hlive => ?_⟩
    refine List.mem_filter.mpr ⟨?_, List.contains_iff_mem.mpr (hfound.2 row hrow huser hlive)⟩
    rw [← hunwritten t db hknown] at hrow
    exact mem_liveApiKeys hrow huser hlive

end Credentials

end SaasOs
