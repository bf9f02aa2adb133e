import SaasOs.Identity.MembershipSafety

/-!
# Redeeming invitations, concurrently

A redemption holds the rows of the invitation, of the tenant and of the user until it commits, so
what it has validated is still true then.  Together with the check on the table and the unique index
on memberships this settles what becomes of invitations in every interleaving.
-/

namespace SaasOs

namespace Membership

open ReadCommitted

variable {config : RedemptionConfig} {call : Call} {db db' : Tables}

/-! ## A redemption -/

def activeUser (userId : Uuid) : Assertion := fun _ db =>
  ∃ user ∈ db.users, user.id = userId ∧ user.isActive = true

def accessibleTenant (tenantId : Uuid) : Assertion := fun t db =>
  ∃ tenant : Tenant, (Lock.row (.tenant tenant.id), LockMode.share) ∈ t.held ∧ tenant ∈ db.tenants ∧
    tenant.id = tenantId ∧ tenant.status.isAccessibleToPrincipals = true

def lockedInvitation (invitation : Invitation) : Assertion := fun t db =>
  (Lock.invitation invitation.id, LockMode.exclusive) ∈ t.held ∧ invitation ∈ db.invitations

def isMember (tenantId userId : Uuid) : Assertion := fun _ db =>
  ∃ membership ∈ db.tenantMemberships, membership.tenantId = tenantId ∧ membership.userId = userId

lemma steady_activeUser (userId : Uuid) :
    (membershipProtocol config).Steady (activeUser userId) where
  rely _ _ _ _ _ hrely h := by
    obtain ⟨user, huser, hactive⟩ := h
    exact ⟨user, hrely.users ▸ huser, hactive⟩
  lock _ _ _ h := h

lemma steady_accessibleTenant (tenantId : Uuid) :
    (membershipProtocol config).Steady (accessibleTenant tenantId) where
  rely _ _ _ _ _ hrely h := by
    obtain ⟨tenant, hheld, htenant, hknown⟩ := h
    exact ⟨tenant, hheld, (hrely.tenants tenant.id _ hheld tenant rfl).mpr htenant, hknown⟩
  lock _ _ _ h := by
    obtain ⟨tenant, hheld, hknown⟩ := h
    exact ⟨tenant, List.mem_append_right _ hheld, hknown⟩

lemma steady_lockedInvitation (invitation : Invitation) :
    (membershipProtocol config).Steady (lockedInvitation invitation) where
  rely _ _ _ _ _ hrely h := ⟨h.1, (hrely.invitations invitation.id h.1 invitation rfl).mpr h.2⟩
  lock _ _ _ h := ⟨List.mem_append_right _ h.1, h.2⟩

lemma steady_isMember (tenantId userId : Uuid) :
    (membershipProtocol config).Steady (isMember tenantId userId) where
  rely _ _ _ _ _ hrely h := by
    obtain ⟨membership, hmembership, rfl, rfl⟩ := h
    obtain ⟨later, hlater, -, htenant, huser⟩ := hrely.memberships membership hmembership
    exact ⟨later, hlater, htenant, huser⟩
  lock _ _ _ h := h

structure Redeems (invitation : Invitation) (now : Instant) (tokenHash : String)
    (tenantId : Uuid) (acceptingEmail : Option String) : Prop where
  redeemable : invitation.redeemable now tenantId tokenHash = true
  boundTo : invitation.boundTo acceptingEmail = true

def redeeming (invitation : Invitation) (now : Instant) (tokenHash : String)
    (tenantId userId : Uuid) (acceptingEmail : Option String) : Assertion := fun t db =>
  (((nothingWritten t db ∧ activeUser userId t db) ∧ lockedInvitation invitation t db) ∧
    accessibleTenant tenantId t db) ∧
      Redeems invitation now tokenHash tenantId acceptingEmail

lemma steady_redeeming (invitation : Invitation) (now : Instant) (tokenHash : String)
    (tenantId userId : Uuid) (acceptingEmail : Option String) :
    (membershipProtocol config).Steady
      (redeeming invitation now tokenHash tenantId userId acceptingEmail) :=
  (((steady_nothingWritten.and (steady_activeUser userId)).and
    (steady_lockedInvitation invitation)).and (steady_accessibleTenant tenantId)).and
      (Protocol.steady_const _)

/-- The membership that a redemption inserts. -/
abbrev newMember (now : Instant) (newId tenantId userId : Uuid) : TenantMembership :=
  ⟨newId, tenantId, userId, .active, now⟩

/-- The end of a redemption: the invitation is accepted, and the user is a member or becomes one. -/
def redeemed (now : Instant) (newId : Uuid) (tokenHash : String) (tenantId userId : Uuid)
    (acceptingEmail : Option String) : Assertion := fun t db =>
  ∃ invitation,
    let accepted : Assertion := Protocol.Wrote
      (redeeming invitation now tokenHash tenantId userId acceptingEmail)
      (.acceptInvitation invitation.id userId now)
    (accepted t db ∧ isMember tenantId userId t db) ∨
      Protocol.Wrote (fun t db => accepted t db ∧
        Justified t.held db (.insertMembership (newMember now newId tenantId userId)))
        (.insertMembership (newMember now newId tenantId userId)) t db

lemma steady_redeemed (now : Instant) (newId : Uuid) (tokenHash : String) (tenantId userId : Uuid)
    (acceptingEmail : Option String) : (membershipProtocol config).Steady
      (redeemed now newId tokenHash tenantId userId acceptingEmail) := by
  refine Protocol.steady_exists fun invitation => ?_
  have haccepted := (@steady_redeeming config invitation now tokenHash tenantId userId
    acceptingEmail).wrote (.acceptInvitation invitation.id userId now)
  exact (haccepted.and (steady_isMember tenantId userId)).or
    ((haccepted.and (steady_justified _)).wrote _)

/-! ### Its statements -/

variable {F : Assertion}

lemma triple_check_eq {α : Type} {result : Result α} :
    (membershipProtocol config).Triple call F (check result) fun a t db =>
      F t db ∧ result = .ok a := by
  refine Protocol.triple_check.weaken (fun _ _ _ h => h) ?_
  rintro a t db - ⟨hknown, hresult⟩
  cases result with
  | error e => cases hresult
  | ok b =>
    obtain rfl : b = a := Except.ok.inj hresult
    exact ⟨hknown, rfl⟩

lemma triple_requireActiveUser {userId tenantId : Uuid} {operation : String} :
    (membershipProtocol config).Triple call nothingWritten
      (requireActiveUser userId operation tenantId) fun _ t db =>
        nothingWritten t db ∧ activeUser userId t db := by
  refine Protocol.Triple.bind (G := fun found t db => nothingWritten t db ∧
    ∀ isActive, found = some isActive →
      ∃ user ∈ db.users, user.id = userId ∧ user.isActive = isActive) ?_ fun found => ?_
  · refine Protocol.triple_lockedRead steady_nothingWritten fun t db found _ hnone _ hresult => ?_
    refine ⟨hnone, ?_⟩
    rintro isActive rfl
    have hwrites : t.writes = [] := hnone
    rw [hwrites] at hresult
    have hfound : (db.lockUserIsActive userId).val = some isActive := Except.ok.inj hresult
    unfold Tables.lockUserIsActive at hfound
    cases hfind : db.users.find? fun row => row.id == userId with
    | none =>
      rw [hfind] at hfound
      cases hfound
    | some user =>
      rw [hfind] at hfound
      have hid := List.find?_some hfind
      rw [beq_iff_eq] at hid
      exact ⟨user, List.mem_of_find?_eq_some hfind, hid, Option.some.inj hfound⟩
  · refine triple_check_eq.weaken (fun _ _ _ h => h) ?_
    rintro _ t db - ⟨⟨hnone, hfound⟩, hactive⟩
    rcases found with _ | _ | _
    · cases hactive
    · cases hactive
    · exact ⟨hnone, hfound true rfl⟩

lemma triple_lockInvitation {tenantId invitationId : Uuid}
    (hF : (membershipProtocol config).Steady F) (hnone : ∀ t db, F t db → t.writes = []) :
    (membershipProtocol config).Triple call F (lockInvitation tenantId invitationId)
      fun invitation t db => F t db ∧ lockedInvitation invitation t db := by
  refine Protocol.triple_lockedRead hF fun t db invitation _ hknown hheld hresult => ⟨hknown, ?_⟩
  rw [hnone t db hknown] at hheld hresult
  cases hfind : invitation? db tenantId invitationId with
  | none =>
    have hnotFound : invitation? ((membershipProtocol config).view db []) tenantId invitationId =
      none := hfind
    rw [hnotFound] at hresult
    cases hresult
  | some row =>
    have hrow : invitation? ((membershipProtocol config).view db []) tenantId invitationId =
      some row := hfind
    rw [hrow] at hheld hresult
    obtain rfl : row = invitation := Except.ok.inj hresult
    exact ⟨hheld _ List.mem_cons_self, List.mem_of_find?_eq_some hfind⟩

variable {tenantId : Uuid}

lemma lockAccessibleTenant_eq_ok {tenant : Tenant}
    (h : (db.lockAccessibleTenant tenantId).val = .ok tenant) :
    RowKey.tenant tenant.id ∈ (db.lockAccessibleTenant tenantId).locks ∧ tenant ∈ db.tenants ∧
      tenant.id = tenantId ∧ tenant.status.isAccessibleToPrincipals = true := by
  unfold Tables.lockAccessibleTenant Tables.lockTenant at h ⊢
  cases hfind : db.tenant? tenantId with
  | none =>
    rw [hfind] at h
    cases h
  | some row =>
    obtain ⟨hrow, hid⟩ := Tables.tenant?_eq_some hfind
    rw [hfind] at h
    rw [LockedRead.val_bind] at h
    dsimp only [LockedRead.val_reading] at h
    split at h
    · next haccessible =>
      obtain rfl : row = tenant := Except.ok.inj h
      exact ⟨List.mem_cons_self, hrow, hid, haccessible⟩
    · cases h

lemma triple_fence (hF : (membershipProtocol config).Steady F)
    (hnone : ∀ t db, F t db → t.writes = []) :
    (membershipProtocol config).Triple call F
      (query fun db => db.lockAccessibleTenant tenantId) fun result t db =>
        F t db ∧ ∀ tenant, result = .ok tenant → accessibleTenant tenantId t db := by
  refine Protocol.triple_lockedRead hF fun t db result _ hknown hheld hresult => ⟨hknown, ?_⟩
  rintro tenant rfl
  rw [hnone t db hknown] at hheld hresult
  obtain ⟨hlock, hknownTenant⟩ := lockAccessibleTenant_eq_ok (Except.ok.inj hresult)
  exact ⟨tenant, hheld _ (List.mem_map.mpr ⟨_, hlock, rfl⟩), hknownTenant⟩

lemma triple_insertMembership {row : TenantMembership} (hF : (membershipProtocol config).Steady F)
    (hkept : ∀ t db, F t db → (after db t.writes).tenantMemberships = db.tenantMemberships) :
    (membershipProtocol config).Triple call F (insertMembership row) fun _ =>
      Protocol.Wrote (fun t db => F t db ∧ Justified t.held db (.insertMembership row))
        (.insertMembership row) := by
  refine Protocol.triple_write hF fun t db _ _ hknown hheld hresult => ⟨hknown, ?_⟩
  have hadmits : admitsMembership (after db t.writes) row = true := by
    split at hresult
    · assumption
    · cases hresult
  simp only [admitsMembership, Bool.and_eq_true, Bool.not_eq_true', List.any_eq_false,
    beq_iff_eq, hkept t db hknown] at hadmits
  exact ⟨hheld _ List.mem_cons_self, hheld _ (List.mem_cons_of_mem _ List.mem_cons_self),
    hadmits.1.1.1, hadmits.1.1.2⟩

variable {now : Instant}

lemma triple_joinTenant {newId tenantId userId : Uuid} (hF : (membershipProtocol config).Steady F)
    (hkept : ∀ t db, F t db → (after db t.writes).tenantMemberships = db.tenantMemberships) :
    (membershipProtocol config).Triple call F (joinTenant now newId tenantId userId) fun _ t db =>
      (F t db ∧ isMember tenantId userId t db) ∨
        Protocol.Wrote (fun t db => F t db ∧
          Justified t.held db (.insertMembership (newMember now newId tenantId userId)))
          (.insertMembership (newMember now newId tenantId userId)) t db := by
  refine Protocol.Triple.bind (G := fun existing t db => F t db ∧ ∀ membership : TenantMembership,
    existing = some membership → isMember tenantId userId t db) ?_ fun existing => ?_
  · refine Protocol.triple_lockedRead hF fun t db existing _ hknown _ hresult => ⟨hknown, ?_⟩
    rintro membership rfl
    have hfind : (after db t.writes).tenantMemberships.find? (fun row =>
      row.tenantId == tenantId && row.userId == userId) = some membership := Except.ok.inj hresult
    rw [hkept t db hknown] at hfind
    have hkey := List.find?_some hfind
    rw [Bool.and_eq_true, beq_iff_eq, beq_iff_eq] at hkey
    exact ⟨membership, List.mem_of_find?_eq_some hfind, hkey.1, hkey.2⟩
  · cases existing with
    | none =>
      refine (triple_insertMembership hF hkept).weaken (fun _ _ _ h => h.1) ?_
      exact fun _ _ _ _ h => .inr h
    | some membership =>
      refine triple_check_eq.weaken (fun _ _ _ h => h) ?_
      exact fun _ _ _ _ h => .inl ⟨h.1.1, h.1.2 membership rfl⟩

variable {tokenHash : String} {acceptingEmail : Option String}

lemma triple_consumeLockedInvitation {newId tenantId invitationId userId : Uuid} :
    (membershipProtocol config).Triple call
      (fun t db => nothingWritten t db ∧ activeUser userId t db)
      (consumeLockedInvitation now newId tenantId invitationId tokenHash userId acceptingEmail)
      fun _ => redeemed now newId tokenHash tenantId userId acceptingEmail := by
  have hactive : (membershipProtocol config).Steady fun t db =>
      nothingWritten t db ∧ activeUser userId t db :=
    steady_nothingWritten.and (steady_activeUser userId)
  refine (triple_lockInvitation hactive fun _ _ h => h.1).bind fun invitation => ?_
  refine (triple_fence (hactive.and (steady_lockedInvitation invitation))
    fun _ _ h => h.1.1).bind fun tenant => ?_
  refine Protocol.Triple.bind (G := fun _ t db => ((nothingWritten t db ∧
    activeUser userId t db) ∧ lockedInvitation invitation t db) ∧ accessibleTenant tenantId t db)
      (triple_check_eq.weaken (fun _ _ _ h => h) ?_) fun _ => ?_
  · rintro _ t db - ⟨⟨hknown, hfound⟩, hfence⟩
    cases tenant with
    | error e => cases hfence
    | ok tenant => exact ⟨hknown, hfound tenant rfl⟩
  refine triple_check_eq.bind fun _ => triple_check_eq.bind fun _ => ?_
  have hsteady := @steady_redeeming config invitation now tokenHash tenantId userId acceptingEmail
  refine Protocol.Triple.bind (G := fun _ => Protocol.Wrote
    (redeeming invitation now tokenHash tenantId userId acceptingEmail)
    (.acceptInvitation invitation.id userId now)) ?_ fun _ => ?_
  · refine (Protocol.triple_write hsteady fun t db _ _ hknown _ _ => hknown).weaken ?_
      fun _ _ _ _ h => h
    rintro t db - ⟨⟨hknown, hredeemable⟩, hbound⟩
    exact ⟨hknown, require_eq_ok.mp hredeemable, require_eq_ok.mp hbound⟩
  · refine (triple_joinTenant (hsteady.wrote _) ?_).weaken (fun _ _ _ h => h)
      fun _ _ _ _ h => ⟨invitation, h⟩
    rintro t db ⟨writes, hwrites, ⟨⟨⟨hnone, -⟩, -⟩, -⟩, -⟩
    obtain rfl : writes = [] := hnone
    rw [hwrites]
    rfl

/-! ### What it guarantees -/

lemma Redeems.fields {invitation : Invitation}
    (h : Redeems invitation now tokenHash tenantId acceptingEmail) :
    invitation.tenantId = tenantId ∧ invitation.tokenHash = tokenHash ∧ invitation.IsOpen ∧
      now < invitation.expiresAt := by
  have hredeemable := h.redeemable
  simp only [Invitation.redeemable, Bool.and_eq_true, beq_iff_eq, Option.isNone_iff_eq_none,
    decide_eq_true_eq] at hredeemable
  obtain ⟨⟨⟨⟨htenant, htoken⟩, haccepted⟩, hrevoked⟩, hexpires⟩ := hredeemable
  exact ⟨htenant, htoken, ⟨haccepted, hrevoked⟩, hexpires⟩

lemma Redeems.email {invitation : Invitation} {now : Instant} {tokenHash : String} {tenantId : Uuid}
    {acceptingEmail : Option String} (h : Redeems invitation now tokenHash tenantId acceptingEmail)
    (email : String) (hgiven : acceptingEmail = some email) :
    PyString.isAscii email = true ∧
      PyString.isAscii invitation.invitedEmail = true ∧
        PyString.asciiCasefold (PyString.strip email) = invitation.invitedEmail := by
  have hbound := h.boundTo
  subst hgiven
  simp only [Invitation.boundTo, Option.all_some, Bool.and_eq_true, beq_iff_eq] at hbound
  exact ⟨hbound.1.1, hbound.1.2, hbound.2⟩

section Redeeming

variable {t : Standing Write Lock} {invitation : Invitation} {now : Instant} {newId : Uuid}
  {tokenHash : String} {tenantId userId : Uuid} {acceptingEmail : Option String}

lemma justified_accept (hvalid : Valid db)
    (h : redeeming invitation now tokenHash tenantId userId acceptingEmail t db) :
    Justified t.held db (.acceptInvitation invitation.id userId now) := by
  obtain ⟨⟨⟨-, hheld, hmem⟩, -⟩, hredeems⟩ := h
  refine ⟨hheld, fun row hrow hid => ?_⟩
  rw [hvalid.invitations_pk.eq_of_key_eq hrow hmem hid]
  exact hredeems.fields.2.2.1

lemma acceptance_of_redeeming
    (h : redeeming invitation now tokenHash tenantId userId acceptingEmail t db)
    (hinvitations : db'.invitations = db.invitationsAcceptedBy now invitation.id userId)
    (hmemberships : (db'.tenantMemberships = db.tenantMemberships ∧
        ∃ membership ∈ db.tenantMemberships,
          membership.tenantId = tenantId ∧ membership.userId = userId) ∨
      ∃ joined : TenantMembership, joined.tenantId = tenantId ∧ joined.userId = userId ∧
        joined.status = .active ∧ db'.tenantMemberships = db.tenantMemberships ++ [joined]) :
    Acceptance db db' invitation now tokenHash tenantId userId acceptingEmail := by
  obtain ⟨⟨⟨⟨-, huser⟩, -, hmem⟩, tenant, -, htenant, hid, haccessible⟩, hredeems⟩ := h
  obtain ⟨rfl, htoken, hopen, hexpires⟩ := hredeems.fields
  exact
    { mem := hmem
      isOpen := hopen
      tokenHash := htoken
      tenantId := rfl
      not_expired := hexpires
      email := hredeems.email
      tenant := ⟨tenant, htenant, hid, haccessible⟩
      user := huser
      invitations := hinvitations
      memberships := hmemberships }

lemma guarantee_of_redeemed {rawToken : String} (hvalid : Valid db)
    (h : redeemed now newId (config.hashInvitationToken rawToken) tenantId userId acceptingEmail
      t db) :
    Guarantee config (.acceptInvitation now newId rawToken tenantId (.user userId) acceptingEmail)
      t.held db (after db t.writes) := by
  suffices hall : Writes t.held db t.writes ∧ ∃ invitation, Acceptance db (after db t.writes)
      invitation now (config.hashInvitationToken rawToken) tenantId userId acceptingEmail by
    obtain ⟨hwrites, invitation, hacceptance⟩ := hall
    refine ⟨⟨t.writes, hwrites, rfl⟩, ?_⟩
    rintro _ _ _ _ _ _ ⟨⟩
    exact ⟨userId, invitation, rfl, hacceptance⟩
  obtain ⟨invitation, ⟨⟨writes, hwrites, hredeeming⟩, hmember⟩ |
    ⟨_, hlast, ⟨writes, hwrites, hredeeming⟩, hinsert⟩⟩ := h
  · obtain rfl : writes = [] := hredeeming.1.1.1.1
    have haccept := justified_accept hvalid hredeeming
    rw [hwrites]
    exact ⟨.concat .nil haccept, invitation,
      acceptance_of_redeeming hredeeming rfl (.inl ⟨rfl, hmember⟩)⟩
  · obtain rfl : writes = [] := hredeeming.1.1.1.1
    have haccept := justified_accept hvalid hredeeming
    dsimp only at hwrites
    rw [hlast, hwrites]
    -- the insertion is justified in the committed contents, and accepting changes no membership
    exact ⟨.concat (.concat .nil haccept) hinsert, invitation,
      acceptance_of_redeeming hredeeming rfl (.inr ⟨_, rfl, rfl, rfl, rfl⟩)⟩

end Redeeming

/-! ## Every call keeps the protocol -/

lemma triple_findInvitationId (hF : (membershipProtocol config).Steady F) :
    (membershipProtocol config).Triple call F (findInvitationId tenantId tokenHash) fun _ => F :=
  Protocol.triple_query hF

lemma triple_acceptInvitation {newId : Uuid} {rawToken : String} {caller : Caller} :
    (membershipProtocol config).Triple call nothingWritten
      (acceptInvitation config now newId rawToken tenantId caller acceptingEmail) fun _ t db =>
        ∃ userId, caller = .user userId ∧ redeemed now newId (config.hashInvitationToken rawToken)
          tenantId userId acceptingEmail t db := by
  cases caller with
  | system authority => exact Protocol.Triple.bind triple_check_eq fun _ _ _ _ h => nomatch h.2
  | serviceAccount serviceAccountId ownTenantId =>
    exact Protocol.Triple.bind triple_check_eq fun _ _ _ _ h => nomatch h.2
  | user userId =>
    refine Protocol.Triple.bind (G := fun actor t db => nothingWritten t db ∧ actor = userId) ?_
      fun actor => ?_
    · refine triple_check_eq.weaken (fun _ _ _ h => h) ?_
      rintro _ t db - ⟨hnone, ⟨⟩⟩
      exact ⟨hnone, rfl⟩
    · by_cases hactor : actor = userId
      · subst hactor
        have hactive : (membershipProtocol config).Steady fun t db =>
            nothingWritten t db ∧ activeUser actor t db :=
          steady_nothingWritten.and (steady_activeUser actor)
        refine Protocol.Triple.weaken (F := nothingWritten) (G := fun _ => redeemed now newId
          (config.hashInvitationToken rawToken) tenantId actor acceptingEmail) ?_
          (fun _ _ _ h => h.1) fun _ t db _ h => ⟨actor, rfl, h⟩
        refine triple_requireActiveUser.bind fun _ => ?_
        exact (triple_findInvitationId hactive).bind fun invitationId =>
          triple_consumeLockedInvitation
      · exact fun _ _ _ h => absurd h.2 hactor

def FailureUnchanged (call : Call) (result : Except Error Unit) (committed : List Write) : Prop :=
  call.IsRedemption → ∀ e, result = .error e → committed = []

lemma acceptInvitation_safe {now : Instant} {newId : Uuid} {rawToken : String} {tenantId : Uuid}
    {caller : Caller} {acceptingEmail : Option String} (hvalid : Valid db) :
    let call : Call := .acceptInvitation now newId rawToken tenantId caller acceptingEmail
    (membershipProtocol config).Safe call (fun result t _ => FailureUnchanged call result t.committed)
      (call.program config) {} db := by
  refine Protocol.Triple.transaction triple_acceptInvitation (fun _ => ?_) ?_ hvalid rfl ?_ ?_
  · exact Protocol.steady_exists fun userId => (Protocol.steady_const _).and (steady_redeemed _ _ _ _ _ _)
  · rintro _ t db hvalid ⟨userId, rfl, hredeemed⟩
    exact guarantee_of_redeemed hvalid hredeemed
  · exact fun _ _ _ _ _ _ _ _ _ => nofun
  · exact fun _ _ _ _ _ _ => rfl

lemma Keeps.safe {body : Transaction Unit} (h : Keeps config call body)
    (hcall : ¬ call.IsRedemption) (hvalid : Valid db) :
    (membershipProtocol config).Safe call (fun result t _ => FailureUnchanged call result t.committed)
      body.run {} db :=
  Protocol.Transactions.safe h hvalid trivial (fun _ _ _ _ hredemption => absurd hredemption hcall)
    fun _ _ _ hredemption => absurd hredemption hcall

lemma safe_of_triple {body : Transaction Unit} (hcall : ¬ call.IsRedemption)
    (h : (membershipProtocol config).Triple call onlyPermissions body fun _ => atMostOne)
    (hvalid : Valid db) :
    (membershipProtocol config).Safe call (fun result t _ => FailureUnchanged call result t.committed)
      body.transaction {} db :=
  Keeps.safe (keeps_inTransaction hcall h) hcall hvalid

theorem Call.program_safe (call : Call) (hvalid : Valid db) :
    (membershipProtocol config).Safe call (fun result t _ => FailureUnchanged call result t.committed)
      (call.program config) {} db := by
  cases call with
  | createInvitation => exact Keeps.safe (keeps_createInvitation id) id hvalid
  | acceptInvitation => exact acceptInvitation_safe hvalid
  | revokeInvitation => exact safe_of_triple id triple_revokeInvitation hvalid
  | suspendMembership => exact safe_of_triple id triple_transitionMembershipStatus hvalid
  | reactivateMembership =>
    exact Keeps.safe ((keeps_requireOpenTenant id).bind fun _ =>
      keeps_inTransaction id triple_transitionMembershipStatus) id hvalid
  | revokeMembership => exact safe_of_triple id triple_transitionMembershipStatus hvalid
  | transitionTenantStatus => exact Keeps.safe (keeps_transitionTenantStatus id) id hvalid

end Membership

end SaasOs
