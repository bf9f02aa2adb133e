import SaasOs.Foundation.ProgramLogic
import SaasOs.Identity.MembershipCalls

/-!
# What the calls on memberships owe each other

An invitation is only accepted, and only revoked, under the lock on its row; an acceptance finds it
pending, and a revocation finds it not accepted, which the check on the table makes sure of.  A
membership is only inserted where there is none, and a tenant only changes its status under the
exclusive lock on its row.
-/

namespace SaasOs

open ReadCommitted

/-! ## The contents -/

def Invitation.IsOpen (invitation : Invitation) : Prop :=
  invitation.acceptedAt = none ∧ invitation.revokedAt = none

/-- A later version of the invitation: accepted once it stays accepted by the same user at the same
time, and revoked once it stays revoked. -/
structure Invitation.Continues (later earlier : Invitation) : Prop where
  id : later.id = earlier.id
  tenantId : later.tenantId = earlier.tenantId
  tokenHash : later.tokenHash = earlier.tokenHash
  invitedEmail : later.invitedEmail = earlier.invitedEmail
  accepted : earlier.acceptedAt ≠ none → later.acceptedAt = earlier.acceptedAt ∧
    later.acceptedByUserId = earlier.acceptedByUserId
  revoked : earlier.revokedAt ≠ none → later.revokedAt ≠ none

lemma Invitation.Continues.refl (invitation : Invitation) : invitation.Continues invitation :=
  ⟨rfl, rfl, rfl, rfl, fun _ => ⟨rfl, rfl⟩, fun h => h⟩

lemma Invitation.Continues.trans {a b c : Invitation} (h : a.Continues b) (h' : b.Continues c) :
    a.Continues c where
  id := h.id.trans h'.id
  tenantId := h.tenantId.trans h'.tenantId
  tokenHash := h.tokenHash.trans h'.tokenHash
  invitedEmail := h.invitedEmail.trans h'.invitedEmail
  accepted haccepted := by
    obtain ⟨hat, hby⟩ := h'.accepted haccepted
    obtain ⟨hat', hby'⟩ := h.accepted (hat ▸ haccepted)
    exact ⟨hat'.trans hat, hby'.trans hby⟩
  revoked hrevoked := h.revoked (h'.revoked hrevoked)

namespace Membership

variable {call : Call} {held held' : Locks Lock} {db db' view : Tables} {w : Write}
  {writes : List Write}

/-- What the schema says of tenants, users, invitations and memberships. -/
structure Valid (db : Tables) : Prop where
  tenants_pk : Rows.UniqueOn db.tenants Tenant.id
  users_pk : Rows.UniqueOn db.users User.id
  invitations_pk : Rows.UniqueOn db.invitations Invitation.id
  tenant_memberships_pk : Rows.UniqueOn db.tenantMemberships TenantMembership.id
  /-- `uq_tenant_memberships_tenant_user`. -/
  tenant_memberships_tenant_user :
    Rows.UniqueOn db.tenantMemberships fun membership => (membership.tenantId, membership.userId)
  /-- `ck_invitations_not_accepted_and_revoked`. -/
  not_accepted_and_revoked : ∀ invitation ∈ db.invitations,
    invitation.acceptedAt = none ∨ invitation.revokedAt = none

def InvitationsContinue (db db' : Tables) : Prop :=
  ∀ invitation ∈ db.invitations, ∃ later ∈ db'.invitations, later.Continues invitation

def MembershipsContinue (db db' : Tables) : Prop :=
  ∀ membership ∈ db.tenantMemberships, ∃ later ∈ db'.tenantMemberships,
    later.id = membership.id ∧ later.tenantId = membership.tenantId ∧
      later.userId = membership.userId

lemma invitationsContinue_refl (db : Tables) : InvitationsContinue db db :=
  fun invitation hinvitation => ⟨invitation, hinvitation, .refl invitation⟩

lemma InvitationsContinue.trans {db'' : Tables} (h : InvitationsContinue db db')
    (h' : InvitationsContinue db' db'') : InvitationsContinue db db'' := by
  intro invitation hinvitation
  obtain ⟨next, hnext, hcontinues⟩ := h invitation hinvitation
  obtain ⟨later, hlater, hcontinues'⟩ := h' next hnext
  exact ⟨later, hlater, hcontinues'.trans hcontinues⟩

lemma membershipsContinue_refl (db : Tables) : MembershipsContinue db db :=
  fun membership hmembership => ⟨membership, hmembership, rfl, rfl, rfl⟩

lemma MembershipsContinue.trans {db'' : Tables} (h : MembershipsContinue db db')
    (h' : MembershipsContinue db' db'') : MembershipsContinue db db'' := by
  intro membership hmembership
  obtain ⟨next, hnext, hid, htenant, huser⟩ := h membership hmembership
  obtain ⟨later, hlater, hid', htenant', huser'⟩ := h' next hnext
  exact ⟨later, hlater, hid'.trans hid, htenant'.trans htenant, huser'.trans huser⟩

/-! ## Writes and what justifies them -/

def Justified (held : Locks Lock) (view : Tables) : Write → Prop
  | .insertPermission _ => True
  | .insertInvitation row =>
    (Lock.invitation row.id, LockMode.exclusive) ∈ held ∧ row.IsOpen ∧
      ∀ other ∈ view.invitations, other.id ≠ row.id
  | .acceptInvitation invitationId _ _ =>
    (Lock.invitation invitationId, LockMode.exclusive) ∈ held ∧
      ∀ row ∈ view.invitations, row.id = invitationId → row.IsOpen
  | .revokeInvitation invitationId _ _ =>
    (Lock.invitation invitationId, LockMode.exclusive) ∈ held ∧
      ∀ row ∈ view.invitations, row.id = invitationId → row.acceptedAt = none
  | .insertMembership row =>
    (Lock.row (.tenantMembership row.id), LockMode.exclusive) ∈ held ∧
      (Lock.newMembership row.tenantId row.userId, LockMode.exclusive) ∈ held ∧
      (∀ other ∈ view.tenantMemberships, other.id ≠ row.id) ∧
      ∀ other ∈ view.tenantMemberships, ¬ (other.tenantId = row.tenantId ∧ other.userId = row.userId)
  | .setMembershipStatus membershipId _ =>
    (Lock.row (.tenantMembership membershipId), LockMode.exclusive) ∈ held
  | .setTenantStatus tenantId _ => (Lock.row (.tenant tenantId), LockMode.exclusive) ∈ held

/-- The contents after the writes of a transaction. -/
abbrev after (db : Tables) (writes : List Write) : Tables := writes.foldl Tables.writeMembership db

lemma after_concat (db : Tables) (writes : List Write) (w : Write) :
    after db (writes ++ [w]) = (after db writes).writeMembership w :=
  List.foldl_concat _ _ _ _

/-- The writes of a call, justified one after the other. -/
abbrev Writes (held : Locks Lock) (db : Tables) : List Write → Prop :=
  JustifiedWrites Tables.writeMembership (Justified held) db

/-! ### Which table a write changes -/

lemma invitations_write_cases (view : Tables) (w : Write) :
    (∃ row, w = .insertInvitation row) ∨ (∃ id userId now, w = .acceptInvitation id userId now) ∨
      (∃ id userId now, w = .revokeInvitation id userId now) ∨
      (view.writeMembership w).invitations = view.invitations := by
  cases w with
  | insertInvitation row => exact .inl ⟨row, rfl⟩
  | acceptInvitation id userId now => exact .inr (.inl ⟨id, userId, now, rfl⟩)
  | revokeInvitation id userId now => exact .inr (.inr (.inl ⟨id, userId, now, rfl⟩))
  | _ => exact .inr (.inr (.inr rfl))

lemma memberships_write_cases (view : Tables) (w : Write) :
    (∃ row, w = .insertMembership row) ∨ (∃ id status, w = .setMembershipStatus id status) ∨
      (view.writeMembership w).tenantMemberships = view.tenantMemberships := by
  cases w with
  | insertMembership row => exact .inl ⟨row, rfl⟩
  | setMembershipStatus id status => exact .inr (.inl ⟨id, status, rfl⟩)
  | _ => exact .inr (.inr rfl)

lemma tenants_write_cases (view : Tables) (w : Write) :
    (∃ id status, w = .setTenantStatus id status) ∨
      (view.writeMembership w).tenants = view.tenants := by
  cases w with
  | setTenantStatus id status => exact .inl ⟨id, status, rfl⟩
  | _ => exact .inr rfl

lemma users_write (view : Tables) (w : Write) : (view.writeMembership w).users = view.users := by
  cases w <;> rfl

/-! ### What a justified write keeps -/

lemma Justified.invitationsContinue (hw : Justified held view w) :
    InvitationsContinue view (view.writeMembership w) := by
  intro invitation hinvitation
  rcases invitations_write_cases view w with ⟨row, rfl⟩ | ⟨id, userId, now, rfl⟩ |
    ⟨id, userId, now, rfl⟩ | hsame
  · exact ⟨invitation, List.mem_append_left _ hinvitation, .refl invitation⟩
  · refine ⟨_, List.mem_map.mpr ⟨invitation, hinvitation, rfl⟩, ?_⟩
    by_cases hid : invitation.id = id
    · rw [if_pos hid]
      obtain ⟨hopen, -⟩ := hw.2 invitation hinvitation hid
      exact ⟨rfl, rfl, rfl, rfl, fun haccepted => absurd hopen haccepted, fun h => h⟩
    · rw [if_neg hid]
      exact .refl invitation
  · refine ⟨_, List.mem_map.mpr ⟨invitation, hinvitation, rfl⟩, ?_⟩
    by_cases hid : invitation.id = id
    · rw [if_pos hid]
      exact ⟨rfl, rfl, rfl, rfl, fun _ => ⟨rfl, rfl⟩, fun _ => Option.some_ne_none _⟩
    · rw [if_neg hid]
      exact .refl invitation
  · rw [hsame]
    exact ⟨invitation, hinvitation, .refl invitation⟩

lemma membershipsContinue_write (view : Tables) (w : Write) :
    MembershipsContinue view (view.writeMembership w) := by
  intro membership hmembership
  rcases memberships_write_cases view w with ⟨row, rfl⟩ | ⟨id, status, rfl⟩ | hsame
  · exact ⟨membership, List.mem_append_left _ hmembership, rfl, rfl, rfl⟩
  · refine ⟨_, List.mem_map.mpr ⟨membership, hmembership, rfl⟩, ?_⟩
    split
    · exact ⟨rfl, rfl, rfl⟩
    · exact ⟨rfl, rfl, rfl⟩
  · rw [hsame]
    exact ⟨membership, hmembership, rfl, rfl, rfl⟩

section

variable (h : Valid view) (hw : Justified held view w)

include h hw

lemma Valid.invitations_write :
    Rows.UniqueOn (view.writeMembership w).invitations Invitation.id ∧
      ∀ invitation ∈ (view.writeMembership w).invitations,
        invitation.acceptedAt = none ∨ invitation.revokedAt = none := by
  rcases invitations_write_cases view w with ⟨row, rfl⟩ | ⟨id, userId, now, rfl⟩ |
    ⟨id, userId, now, rfl⟩ | hsame
  · refine ⟨h.invitations_pk.concat hw.2.2, fun invitation hinvitation => ?_⟩
    rcases List.mem_append.mp hinvitation with hold | hnew
    · exact h.not_accepted_and_revoked invitation hold
    · obtain rfl := List.mem_singleton.mp hnew
      exact .inl hw.2.1.1
  · refine ⟨h.invitations_pk.update fun _ => rfl, fun invitation hinvitation => ?_⟩
    obtain ⟨before, hbefore, rfl⟩ := List.mem_map.mp hinvitation
    by_cases hid : before.id = id
    · rw [if_pos hid]
      exact .inr (hw.2 before hbefore hid).2
    · rw [if_neg hid]
      exact h.not_accepted_and_revoked before hbefore
  · refine ⟨h.invitations_pk.update fun _ => rfl, fun invitation hinvitation => ?_⟩
    obtain ⟨before, hbefore, rfl⟩ := List.mem_map.mp hinvitation
    by_cases hid : before.id = id
    · rw [if_pos hid]
      exact .inl (hw.2 before hbefore hid)
    · rw [if_neg hid]
      exact h.not_accepted_and_revoked before hbefore
  · rw [hsame]
    exact ⟨h.invitations_pk, h.not_accepted_and_revoked⟩

lemma Valid.memberships_write :
    Rows.UniqueOn (view.writeMembership w).tenantMemberships TenantMembership.id ∧
      Rows.UniqueOn (view.writeMembership w).tenantMemberships
        fun membership => (membership.tenantId, membership.userId) := by
  rcases memberships_write_cases view w with ⟨row, rfl⟩ | ⟨id, status, rfl⟩ | hsame
  · obtain ⟨-, -, hid, hkey⟩ := hw
    exact ⟨h.tenant_memberships_pk.concat hid, h.tenant_memberships_tenant_user.concat
      fun other hother heq => hkey other hother (Prod.mk.inj heq)⟩
  · exact ⟨h.tenant_memberships_pk.update fun _ => rfl,
      h.tenant_memberships_tenant_user.update fun _ => rfl⟩
  · rw [hsame]
    exact ⟨h.tenant_memberships_pk, h.tenant_memberships_tenant_user⟩

lemma Valid.write :
    Valid (view.writeMembership w) where
  tenants_pk := by
    rcases tenants_write_cases view w with ⟨id, status, rfl⟩ | hsame
    · exact h.tenants_pk.update fun _ => rfl
    · rw [hsame]
      exact h.tenants_pk
  users_pk := by
    rw [users_write]
    exact h.users_pk
  invitations_pk := (h.invitations_write hw).1
  tenant_memberships_pk := (h.memberships_write hw).1
  tenant_memberships_tenant_user := (h.memberships_write hw).2
  not_accepted_and_revoked := (h.invitations_write hw).2

end

lemma valid_after (hwrites : Writes held db writes) (h : Valid db) : Valid (after db writes) :=
  hwrites.preserves h fun _ _ hview hw => hview.write hw

lemma invitationsContinue_after (hwrites : Writes held db writes) :
    InvitationsContinue db (after db writes) :=
  hwrites.preserves (I := InvitationsContinue db) (invitationsContinue_refl db)
    fun _ _ hview hw => hview.trans hw.invitationsContinue

lemma membershipsContinue_after (db : Tables) (writes : List Write) :
    MembershipsContinue db (after db writes) := by
  induction writes using List.reverseRecOn with
  | nil => exact membershipsContinue_refl db
  | append_singleton writes w ih =>
    rw [after_concat]
    exact ih.trans (membershipsContinue_write _ w)

lemma users_after (db : Tables) (writes : List Write) : (after db writes).users = db.users := by
  induction writes using List.reverseRecOn with
  | nil => rfl
  | append_singleton writes w ih =>
    rw [after_concat, users_write]
    exact ih

/-! ## What the others leave alone -/

/-- What does not change while a call holds the locks. -/
structure Rely (held : Locks Lock) (db db' : Tables) : Prop where
  users : db'.users = db.users
  tenants : ∀ id mode, (Lock.row (.tenant id), mode) ∈ held → ∀ row : Tenant, row.id = id →
    (row ∈ db'.tenants ↔ row ∈ db.tenants)
  invitations : ∀ id, (Lock.invitation id, LockMode.exclusive) ∈ held → ∀ row : Invitation,
    row.id = id → (row ∈ db'.invitations ↔ row ∈ db.invitations)
  /-- Nobody else uses the id of a membership that is inserted. -/
  noNewId : ∀ id, (Lock.row (.tenantMembership id), LockMode.exclusive) ∈ held →
    ∀ row ∈ db'.tenantMemberships, row.id = id → ∃ before ∈ db.tenantMemberships, before.id = id
  /-- Nobody else adds the user to the tenant. -/
  noNewMember : ∀ tenantId userId, (Lock.newMembership tenantId userId, LockMode.exclusive) ∈ held →
    ∀ row ∈ db'.tenantMemberships, row.tenantId = tenantId → row.userId = userId →
      ∃ before ∈ db.tenantMemberships, before.tenantId = tenantId ∧ before.userId = userId
  memberships : MembershipsContinue db db'

lemma rely_refl (held : Locks Lock) (db : Tables) : Rely held db db where
  users := rfl
  tenants _ _ _ _ _ := .rfl
  invitations _ _ _ _ := .rfl
  noNewId _ _ row hrow hid := ⟨row, hrow, hid⟩
  noNewMember _ _ _ row hrow htenant huser := ⟨row, hrow, htenant, huser⟩
  memberships := membershipsContinue_refl db

lemma Rely.trans {db'' : Tables} (h : Rely held db db') (h' : Rely held db' db'') :
    Rely held db db'' where
  users := h'.users.trans h.users
  tenants id mode hheld row hid :=
    (h'.tenants id mode hheld row hid).trans (h.tenants id mode hheld row hid)
  invitations id hheld row hid :=
    (h'.invitations id hheld row hid).trans (h.invitations id hheld row hid)
  noNewId id hheld row hrow hid := by
    obtain ⟨before, hbefore, hid'⟩ := h'.noNewId id hheld row hrow hid
    exact h.noNewId id hheld before hbefore hid'
  noNewMember tenantId userId hheld row hrow htenant huser := by
    obtain ⟨before, hbefore, htenant', huser'⟩ :=
      h'.noNewMember tenantId userId hheld row hrow htenant huser
    exact h.noNewMember tenantId userId hheld before hbefore htenant' huser'
  memberships := h.memberships.trans h'.memberships

section Others

variable (hcompatible : Compatible held held') (hwrites : Writes held' db writes)

include hcompatible hwrites

lemma others_tenants {id : Uuid} {mode : LockMode} (hheld : (Lock.row (.tenant id), mode) ∈ held)
    {row : Tenant} (hid : row.id = id) : row ∈ (after db writes).tenants ↔ row ∈ db.tenants := by
  refine hwrites.preserves (I := fun view => row ∈ view.tenants ↔ row ∈ db.tenants) .rfl ?_
  intro view w hview hw
  rw [← hview]
  rcases tenants_write_cases view w with ⟨target, status, rfl⟩ | hsame
  · have hne : target ≠ id := by
      rintro rfl
      exact hcompatible.not_exclusive hheld hw
    refine Rows.mem_map_iff_of_fixed Tenant.id (fun r => ?_) (fun r hr => ?_) hid
    · split <;> rfl
    · exact if_neg fun htarget => hne (htarget.symm.trans hr)
  · rw [hsame]

lemma others_invitations {id : Uuid} (hheld : (Lock.invitation id, LockMode.exclusive) ∈ held)
    {row : Invitation} (hid : row.id = id) :
    row ∈ (after db writes).invitations ↔ row ∈ db.invitations := by
  have hnot := hcompatible.not_mem hheld
  refine hwrites.preserves (I := fun view => row ∈ view.invitations ↔ row ∈ db.invitations) .rfl ?_
  intro view w hview hw
  rw [← hview]
  rcases invitations_write_cases view w with ⟨new, rfl⟩ | ⟨target, userId, now, rfl⟩ |
    ⟨target, userId, now, rfl⟩ | hsame
  · refine ⟨fun h => (List.mem_append.mp h).resolve_right fun hnew => ?_, List.mem_append_left _⟩
    obtain rfl := List.mem_singleton.mp hnew
    exact hnot _ (hid ▸ hw.1)
  · have hne : target ≠ id := fun heq => hnot _ (heq ▸ hw.1)
    refine Rows.mem_map_iff_of_fixed Invitation.id (fun r => ?_) (fun r hr => ?_) hid
    · split <;> rfl
    · exact if_neg fun htarget => hne (htarget.symm.trans hr)
  · have hne : target ≠ id := fun heq => hnot _ (heq ▸ hw.1)
    refine Rows.mem_map_iff_of_fixed Invitation.id (fun r => ?_) (fun r hr => ?_) hid
    · split <;> rfl
    · exact if_neg fun htarget => hne (htarget.symm.trans hr)
  · rw [hsame]

lemma others_noNewId {id : Uuid}
    (hheld : (Lock.row (.tenantMembership id), LockMode.exclusive) ∈ held) {row : TenantMembership}
    (hrow : row ∈ (after db writes).tenantMemberships) (hid : row.id = id) :
    ∃ before ∈ db.tenantMemberships, before.id = id := by
  have hall := hwrites.preserves (I := fun view => ∀ row ∈ view.tenantMemberships, row.id = id →
    ∃ before ∈ db.tenantMemberships, before.id = id) (fun row hrow hid => ⟨row, hrow, hid⟩)
    (fun view w hview hw row hrow hid => ?_)
  · exact hall row hrow hid
  · rcases memberships_write_cases view w with ⟨new, rfl⟩ | ⟨target, status, rfl⟩ | hsame
    · rcases List.mem_append.mp hrow with hold | hnew
      · exact hview row hold hid
      · obtain rfl := List.mem_singleton.mp hnew
        exact absurd (hid ▸ hw.1) (hcompatible.not_mem hheld _)
    · obtain ⟨before, hbefore, rfl⟩ := List.mem_map.mp hrow
      refine hview before hbefore ?_
      split at hid
      · exact hid
      · exact hid
    · rw [hsame] at hrow
      exact hview row hrow hid

lemma others_noNewMember {tenantId userId : Uuid}
    (hheld : (Lock.newMembership tenantId userId, LockMode.exclusive) ∈ held)
    {row : TenantMembership} (hrow : row ∈ (after db writes).tenantMemberships)
    (htenant : row.tenantId = tenantId) (huser : row.userId = userId) :
    ∃ before ∈ db.tenantMemberships, before.tenantId = tenantId ∧ before.userId = userId := by
  have hall := hwrites.preserves (I := fun view => ∀ row ∈ view.tenantMemberships,
    row.tenantId = tenantId → row.userId = userId → ∃ before ∈ db.tenantMemberships,
      before.tenantId = tenantId ∧ before.userId = userId)
    (fun row hrow htenant huser => ⟨row, hrow, htenant, huser⟩)
    (fun view w hview hw row hrow htenant huser => ?_)
  · exact hall row hrow htenant huser
  · rcases memberships_write_cases view w with ⟨new, rfl⟩ | ⟨target, status, rfl⟩ | hsame
    · rcases List.mem_append.mp hrow with hold | hnew
      · exact hview row hold htenant huser
      · obtain rfl := List.mem_singleton.mp hnew
        subst htenant huser
        exact absurd hw.2.1 (hcompatible.not_mem hheld _)
    · obtain ⟨before, hbefore, rfl⟩ := List.mem_map.mp hrow
      have hkept : (if before.id = target then { before with status := status } else before).tenantId =
          before.tenantId ∧
          (if before.id = target then { before with status := status } else before).userId =
            before.userId := by
        split
        · exact ⟨rfl, rfl⟩
        · exact ⟨rfl, rfl⟩
      exact hview before hbefore (hkept.1.symm.trans htenant) (hkept.2.symm.trans huser)
    · rw [hsame] at hrow
      exact hview row hrow htenant huser

end Others

/-! ## The protocol -/

/-- What an acceptance that commits has found and has changed. -/
structure Acceptance (db db' : Tables) (invitation : Invitation) (now : Instant)
    (tokenHash : String) (tenantId userId : Uuid) (acceptingEmail : Option String) : Prop where
  mem : invitation ∈ db.invitations
  isOpen : invitation.IsOpen
  tokenHash : invitation.tokenHash = tokenHash
  tenantId : invitation.tenantId = tenantId
  not_expired : now < invitation.expiresAt
  /-- The address that is given is the invited one, after normalization. -/
  email : ∀ email, acceptingEmail = some email → PyString.isAscii email = true ∧
    PyString.isAscii invitation.invitedEmail = true ∧
      PyString.asciiCasefold (PyString.strip email) = invitation.invitedEmail
  tenant : ∃ tenant ∈ db.tenants, tenant.id = invitation.tenantId ∧
    tenant.status.isAccessibleToPrincipals = true
  user : ∃ user ∈ db.users, user.id = userId ∧ user.isActive = true
  invitations : db'.invitations = db.invitationsAcceptedBy now invitation.id userId
  /-- The user was a member already, or becomes an active one; no membership changes. -/
  memberships : (db'.tenantMemberships = db.tenantMemberships ∧ ∃ membership ∈ db.tenantMemberships,
      membership.tenantId = invitation.tenantId ∧ membership.userId = userId) ∨
    ∃ joined : TenantMembership, joined.tenantId = invitation.tenantId ∧ joined.userId = userId ∧
      joined.status = .active ∧ db'.tenantMemberships = db.tenantMemberships ++ [joined]

structure Guarantee (config : RedemptionConfig) (call : Call) (held : Locks Lock)
    (db db' : Tables) : Prop where
  justified : ∃ writes, Writes held db writes ∧ db' = after db writes
  accepted : ∀ now newId rawToken tenantId caller acceptingEmail,
    call = .acceptInvitation now newId rawToken tenantId caller acceptingEmail →
      ∃ userId invitation, caller = .user userId ∧ Acceptance db db' invitation now
        (config.hashInvitationToken rawToken) tenantId userId acceptingEmail

/-- Others change neither tenants nor users, invitations or memberships. -/
structure Same (db db' : Tables) : Prop where
  tenants : db'.tenants = db.tenants
  users : db'.users = db.users
  invitations : db'.invitations = db.invitations
  tenantMemberships : db'.tenantMemberships = db.tenantMemberships

lemma Valid.of_same (h : Valid db) (hsame : Same db db') : Valid db' := by
  obtain ⟨htenants, husers, hinvitations, hmemberships⟩ := hsame
  constructor
  · exact htenants ▸ h.tenants_pk
  · exact husers ▸ h.users_pk
  · exact hinvitations ▸ h.invitations_pk
  · exact hmemberships ▸ h.tenant_memberships_pk
  · exact hmemberships ▸ h.tenant_memberships_tenant_user
  · exact hinvitations ▸ h.not_accepted_and_revoked

def membershipProtocol (config : RedemptionConfig) : Protocol Call Tables Write Lock where
  apply := Tables.writeMembership
  Inv := Valid
  Guarantee := Guarantee config
  External := Same
  Rely := Rely
  rely_refl := rely_refl
  rely_trans _ _ _ _ h h' := h.trans h'
  inv_of_guarantee _ _ _ _ hvalid hguarantee := by
    obtain ⟨⟨writes, hwrites, rfl⟩, -⟩ := hguarantee
    exact valid_after hwrites hvalid
  inv_of_external _ _ hvalid hsame := hvalid.of_same hsame
  rely_of_guarantee _ _ _ _ _ hcompatible _ hguarantee := by
    obtain ⟨⟨writes, hwrites, rfl⟩, -⟩ := hguarantee
    exact
      { users := users_after _ writes
        tenants := fun _ _ hheld _ hid => others_tenants hcompatible hwrites hheld hid
        invitations := fun _ hheld _ hid => others_invitations hcompatible hwrites hheld hid
        noNewId := fun _ hheld _ hrow hid => others_noNewId hcompatible hwrites hheld hrow hid
        noNewMember := fun _ _ hheld _ hrow htenant huser =>
          others_noNewMember hcompatible hwrites hheld hrow htenant huser
        memberships := membershipsContinue_after _ writes }
  rely_of_external _ _ _ _ hsame := by
    obtain ⟨htenants, husers, hinvitations, hmemberships⟩ := hsame
    exact
      { users := husers
        tenants := fun _ _ _ _ _ => by rw [htenants]
        invitations := fun _ _ _ _ => by rw [hinvitations]
        noNewId := fun _ _ row hrow hid => ⟨row, hmemberships ▸ hrow, hid⟩
        noNewMember := fun _ _ _ row hrow htenant huser => ⟨row, hmemberships ▸ hrow, htenant, huser⟩
        memberships := fun row hrow => ⟨row, hmemberships ▸ hrow, rfl, rfl, rfl⟩ }

end Membership

end SaasOs
