import SaasOs.Identity.Service
import SaasOs.Foundation.PyString

/-!
# Redeeming an invitation

The bearer of an invitation's token joins its tenant.  The row of the invitation is locked and
validated again before it is consumed; every refusal of the token itself is the same error.  Whoever
is a member already stays one, and a membership that is not active is never reactivated this way.
-/

namespace SaasOs

def Invitation.redeemable (invitation : Invitation) (now : Instant) (tenantId : Uuid)
    (tokenHash : String) : Bool :=
  invitation.tenantId == tenantId && invitation.tokenHash == tokenHash &&
    invitation.acceptedAt.isNone && invitation.revokedAt.isNone &&
    decide (now < invitation.expiresAt)

/-- The verified email of the caller, if one is given, is the invited one. -/
def Invitation.boundTo (invitation : Invitation) (acceptingEmail : Option String) : Bool :=
  acceptingEmail.all fun email =>
    PyString.isAscii email && PyString.isAscii invitation.invitedEmail &&
      PyString.asciiCasefold (PyString.strip email) == invitation.invitedEmail

def requireActive (userId : Uuid) (operation : String) (tenantId : Uuid) :
    Option Bool → Result Unit
  | none => .error (.invalidPrincipal .user userId)
  | some isActive => require isActive (.authorityNotAuthorized operation tenantId)

namespace Tables

def requireActiveUser (db : Tables) (userId : Uuid) (operation : String) (tenantId : Uuid) :
    Transaction Unit := do
  let isActive ← .read (db.lockUserIsActive userId)
  .check (requireActive userId operation tenantId isActive)

def invitationByTokenHash? (db : Tables) (tenantId : Uuid) (tokenHash : String) :
    Option Invitation :=
  db.invitations.find? fun row => row.tenantId == tenantId && row.tokenHash == tokenHash

/-- The memberships after a user joined the tenant: unchanged for an active member, an error for an
inactive one. -/
def membershipsJoinedBy (db : Tables) (now : Instant) (newId tenantId userId : Uuid) :
    Result (List TenantMembership) :=
  match db.tenantMemberships.find? fun row => row.tenantId == tenantId && row.userId == userId with
  | none => .ok (db.tenantMemberships ++ [⟨newId, tenantId, userId, .active, now⟩])
  | some membership =>
    if membership.status = .active then .ok db.tenantMemberships
    else .error (.invalidMembershipTransition membership.id membership.status .active)

def invitationsAcceptedBy (db : Tables) (now : Instant) (invitationId userId : Uuid) :
    List Invitation :=
  db.invitations.map fun row =>
    if row.id = invitationId then
      { row with acceptedAt := some now, acceptedByUserId := some userId }
    else row

end Tables

/-- The lifecycle fence of an acceptance: whatever is wrong with the tenant, the token is
invalid. -/
def fenceInvitation : Result Tenant → Result Unit
  | .ok _ => .ok ()
  | .error _ => .error .invitationInvalid

namespace Database

def consumeLockedInvitation (db : Database) (now : Instant) (newId tenantId : Uuid)
    (invitation : Invitation) (tokenHash : String) (acceptingUserId : Uuid)
    (acceptingEmail : Option String) : Transaction Database := do
  let tenant ← .read (db.lockAccessibleTenant tenantId)
  .check (fenceInvitation tenant)
  .check (require (invitation.redeemable now tenantId tokenHash) .invitationInvalid)
  .check (require (invitation.boundTo acceptingEmail) .invitationInvalid)
  let memberships ← .check (db.membershipsJoinedBy now newId tenantId acceptingUserId)
  .check (flush .integrityError
    { db.toTables with
      invitations := db.invitationsAcceptedBy now invitation.id acceptingUserId
      tenantMemberships := memberships })

def requireInvitation : Option Invitation → Result Invitation
  | none => .error .invitationInvalid
  | some invitation => .ok invitation

def acceptInvitation (hashInvitationToken : String → String) (db : Database) (now : Instant)
    (newId : Uuid) (rawToken : String) (tenantId : Uuid) (caller : Caller)
    (acceptingEmail : Option String) : Transaction Database := do
  let acceptingUserId ← .check (requireUserCaller "accept_invitation" caller)
  let tokenHash := hashInvitationToken rawToken
  db.requireActiveUser acceptingUserId "accept_invitation" tenantId
  let invitation ← .check (requireInvitation (db.invitationByTokenHash? tenantId tokenHash))
  db.consumeLockedInvitation now newId tenantId invitation tokenHash acceptingUserId acceptingEmail

end Database

/-! ## What joining changes -/

/-- From `db` to `db'` the user may have become an active member of the tenant; beyond that only
invitations changed. -/
def Tables.JoinedBy (db db' : Tables) (tenantId userId : Uuid) : Prop :=
  ∃ (invitations : List Invitation) (joined : List TenantMembership),
    db' = { db with
      invitations := invitations
      tenantMemberships := db.tenantMemberships ++ joined } ∧
    ∀ m ∈ joined, m.tenantId = tenantId ∧ m.userId = userId ∧ m.status = .active

namespace Database

variable {db db' : Database} {now : Instant} {tenantId userId : Uuid}

lemma addTenantMembership_joinedBy {ids : NewIds} {caller : Caller}
    (h : db.addTenantMembership now ids tenantId userId caller = .ok db') :
    db.JoinedBy db'.toTables tenantId userId := by
  unfold addTenantMembership planAddTenantMembership at h
  simp only [LockedExcept.result_bind, LockedExcept.result_check, bind_eq_ok] at h
  obtain ⟨session, ⟨-, -, hauthorized⟩, hflush⟩ := h
  obtain ⟨rfl, -⟩ := authorizeCaller_ok (by decide) hauthorized
  refine ⟨session.invitations, _, flush_ok hflush, ?_⟩
  intro m hm
  obtain rfl := List.mem_singleton.mp hm
  exact ⟨rfl, rfl, rfl⟩

lemma acceptInvitation_joinedBy {hashInvitationToken : String → String} {newId : Uuid}
    {rawToken : String} {acceptingEmail : Option String}
    (h : (db.acceptInvitation hashInvitationToken now newId rawToken tenantId (.user userId)
      acceptingEmail).result = .ok db') :
    db.JoinedBy db'.toTables tenantId userId := by
  unfold acceptInvitation consumeLockedInvitation at h
  simp only [LockedExcept.result_bind, LockedExcept.result_check, LockedExcept.result_read,
    bind_eq_ok] at h
  obtain ⟨_, hcaller, -, -, invitation, -, -, -, -, -, -, -, -, -, memberships, hjoined, hflush⟩ := h
  cases hcaller
  have hnew : ∃ joined, memberships = db.tenantMemberships ++ joined ∧
      ∀ m ∈ joined, m.tenantId = tenantId ∧ m.userId = userId ∧ m.status = .active := by
    unfold Tables.membershipsJoinedBy at hjoined
    split at hjoined
    · cases hjoined
      refine ⟨_, rfl, ?_⟩
      intro m hm
      obtain rfl := List.mem_singleton.mp hm
      exact ⟨rfl, rfl, rfl⟩
    · split at hjoined
      · cases hjoined
        exact ⟨[], (List.append_nil _).symm, fun m hm => absurd hm List.not_mem_nil⟩
      · cases hjoined
  obtain ⟨joined, rfl, hactive⟩ := hnew
  exact ⟨_, joined, flush_ok hflush, hactive⟩

end Database

end SaasOs
