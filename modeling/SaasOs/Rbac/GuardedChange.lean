import SaasOs.Rbac.Service

/-!
# Guarded changes of authority

The operations that take authority away inside one tenant share one shape.  The plan authorizes the
caller and finds the row to change and the users whose authority depends on it; then the guard
records the administrators of the tenant and of the descendants those users are members of, the row
is changed, and the guard is verified (`Database.changeGuarded`).
-/

namespace SaasOs

/-! ## Row changes -/

/-- The row write of a guarded mutation. -/
inductive RowChange
  | setMembershipStatus (membershipId : Uuid) (status : MembershipStatus)
  | deleteMembershipRole (id : Uuid)
  | deleteRolePermission (id : Uuid)
  | insertDenyGrant (grant : DenyGrant)
  | revokeDelegationGrant (id : Uuid) (revokedAt : Instant)

namespace RowChange

def apply (db : Tables) : RowChange → Tables
  | setMembershipStatus membershipId status =>
    { db with
      tenantMemberships := db.tenantMemberships.map fun row =>
        if row.id = membershipId then { row with status := status } else row }
  | deleteMembershipRole id =>
    { db with membershipRoles := db.membershipRoles.filter fun row => row.id != id }
  | deleteRolePermission id =>
    { db with rolePermissions := db.rolePermissions.filter fun row => row.id != id }
  | insertDenyGrant grant => { db with denyGrants := db.denyGrants ++ [grant] }
  | revokeDelegationGrant id revokedAt =>
    { db with
      delegationGrants := db.delegationGrants.map fun row =>
        if row.id = id then { row with revokedAt := some revokedAt } else row }

/-- The row the write locks exclusively: the changed row, or, for a deny, which changes none, the
row of the denied user. -/
def lockedRow : RowChange → Option RowKey
  | setMembershipStatus membershipId _ => some (.tenantMembership membershipId)
  | deleteMembershipRole id => some (.membershipRole id)
  | deleteRolePermission id => some (.rolePermission id)
  | insertDenyGrant grant => grant.principalId.map .user
  | revokeDelegationGrant id _ => some (.delegationGrant id)

def Removes : RowChange → Prop
  | setMembershipStatus _ status => status ≠ .active
  | _ => True

def lockPrincipal (db : Tables) : RowChange → Result Unit
  | insertDenyGrant grant => grant.principalId.elim (.ok ()) db.requireUser
  | _ => .ok ()

end RowChange

/-- A planned change: the write, the users whose authority depends on the row, and the membership
that a refusal names. -/
structure GuardedChange where
  change : RowChange
  affectedUsers : List Uuid
  membershipId : Option Uuid := none

/-- What a plan finds: the session's database, and the change to make unless there is nothing to
do. -/
abbrev Plan := Transaction (Database × Option GuardedChange)

namespace Database

def writeRow (db : Database) (change : RowChange) : Result Database := do
  change.lockPrincipal db.toTables
  flush .integrityError (change.apply db.toTables)

def changeGuarded (db : Database) (now : Instant) (tenantId : Uuid) (planned : GuardedChange) :
    Result Database := do
  let guard := (db.guardLastAdministrator now tenantId planned.affectedUsers).val
  let changed ← db.writeRow planned.change
  (guard.verify changed.toTables now planned.membershipId).val
  return changed

def performPlanned (now : Instant) (tenantId : Uuid) :
    Database × Option GuardedChange → Result Database
  | (session, none) => .ok session
  | (session, some planned) => session.changeGuarded now tenantId planned

def performGuarded (now : Instant) (tenantId : Uuid) (plan : Plan) : Result Database := do
  let planned ← plan.result
  performPlanned now tenantId planned

end Database

/-! ## The mutations of role-based access control -/

namespace Tables

def roleHolders (db : Tables) (tenantId roleId : Uuid) : List Uuid :=
  (db.membershipRoles.filter fun row => row.tenantId == tenantId && row.roleId == roleId).flatMap
    fun assignment =>
      (db.tenantMemberships.filter fun row => row.id == assignment.membershipId).map
        TenantMembership.userId

def rolePermission? (db : Tables) (tenantId roleId permissionId : Uuid) : Option RolePermission :=
  db.rolePermissions.find? fun row =>
    row.tenantId == tenantId && row.roleId == roleId && row.permissionId == permissionId

def permissionRevocation (db : Tables) (tenantId roleId permissionId : Uuid) :
    Option GuardedChange :=
  (db.rolePermission? tenantId roleId permissionId).map fun grant =>
    { change := .deleteRolePermission grant.id, affectedUsers := db.roleHolders tenantId roleId }

def membershipRole? (db : Tables) (tenantId membershipId roleId : Uuid) : Option MembershipRole :=
  db.membershipRoles.find? fun row =>
    row.tenantId == tenantId && row.membershipId == membershipId && row.roleId == roleId

def membershipById? (db : Tables) (tenantId membershipId : Uuid) : Option TenantMembership :=
  db.tenantMemberships.find? fun row => row.tenantId == tenantId && row.id == membershipId

def roleRemoval (db : Tables) (tenantId membershipId roleId : Uuid) : Option GuardedChange :=
  (db.membershipRole? tenantId membershipId roleId).map fun assignment =>
    { change := .deleteMembershipRole assignment.id
      affectedUsers :=
        ((db.membershipById? tenantId membershipId).map TenantMembership.userId).toList }

def getDelegation (db : Tables) (tenantId delegationGrantId : Uuid) : Result DelegationGrant :=
  match db.delegationGrants.find? fun row => row.id == delegationGrantId with
  | none => .error (.delegationNotFound tenantId delegationGrantId)
  | some grant =>
    if grant.tenantId = tenantId then .ok grant
    else .error (.delegationNotFound tenantId delegationGrantId)

end Tables

def DelegationGrant.revocation (grant : DelegationGrant) (now : Instant) : Option GuardedChange :=
  if grant.revokedAt.isSome then
    none
  else
    some
      { change := .revokeDelegationGrant grant.id now
        affectedUsers :=
          if grant.delegatePrincipalType = .user then grant.delegatePrincipalId.toList else [] }

namespace Database

def planRevokePermission (db : Database) (now : Instant) (newId : Uuid)
    (tenantId roleId permissionId : Uuid) (caller : Caller) : Plan := do
  let session ← db.authorizeCaller now newId caller "revoke_permission" tenantId "role_permission"
    "revoke"
  return (session, session.permissionRevocation tenantId roleId permissionId)

def revokePermission (db : Database) (now : Instant) (newId : Uuid)
    (tenantId roleId permissionId : Uuid) (caller : Caller) : Result Database :=
  performGuarded now tenantId (db.planRevokePermission now newId tenantId roleId permissionId caller)

def planRemoveRole (db : Database) (now : Instant) (newId : Uuid)
    (tenantId membershipId roleId : Uuid) (caller : Caller) : Plan := do
  let session ← db.authorizeCaller now newId caller "remove_role" tenantId "membership_role"
    "delete"
  return (session, session.roleRemoval tenantId membershipId roleId)

def removeRole (db : Database) (now : Instant) (newId : Uuid) (tenantId membershipId roleId : Uuid)
    (caller : Caller) : Result Database :=
  performGuarded now tenantId (db.planRemoveRole now newId tenantId membershipId roleId caller)

def authorizeRevocation (db : Database) (now : Instant) (newId revokerUserId : Uuid)
    (tenantId : Uuid) (grant : DelegationGrant) : Transaction Database :=
  if grant.delegatorPrincipalType = .user ∧ grant.delegatorPrincipalId = some revokerUserId then
    pure db
  else
    db.registerAndDecide now newId
      ⟨revokerUserId, tenantId, "revoke", "delegation_grant", .user, none, false⟩
      (.delegationNotAuthorized revokerUserId tenantId)

def planRevokeDelegation (db : Database) (now : Instant) (newId : Uuid)
    (tenantId delegationGrantId : Uuid) (caller : Caller) : Plan := do
  let revokerUserId ← .check (requireUserCaller "revoke_delegation" caller)
  let grant ← .check (db.getDelegation tenantId delegationGrantId)
  let session ← db.authorizeRevocation now newId revokerUserId tenantId grant
  return (session, grant.revocation now)

def revokeDelegation (db : Database) (now : Instant) (newId : Uuid)
    (tenantId delegationGrantId : Uuid) (caller : Caller) : Result Database :=
  performGuarded now tenantId (db.planRevokeDelegation now newId tenantId delegationGrantId caller)

def planCreateDeny (db : Database) (now : Instant) (ids : NewIds) (principalUserId : Uuid)
    (tenantId : Uuid) (scopeMode : RoleScope) (permissionId : Uuid) (caller : Caller) : Plan := do
  let grantorUserId ← .check (requireUserCaller "create_deny" caller)
  let _ ← .check (db.requireOpenTenant tenantId)
  .check (db.requireUser principalUserId)
  let _ ← .check (db.getPermissionById permissionId)
  let session ← db.registerAndDecide now ids.permission
    ⟨grantorUserId, tenantId, "create", "deny_grant", .user, none, false⟩
    (.denyNotAuthorized grantorUserId tenantId)
  let grant : DenyGrant :=
    ⟨ids.row, tenantId, .user, some principalUserId, none, scopeMode, permissionId, none⟩
  return (session, some { change := .insertDenyGrant grant, affectedUsers := [principalUserId] })

def createDeny (db : Database) (now : Instant) (ids : NewIds) (principalUserId : Uuid)
    (tenantId : Uuid) (scopeMode : RoleScope) (permissionId : Uuid) (caller : Caller) :
    Result Database :=
  performGuarded now tenantId
    (db.planCreateDeny now ids principalUserId tenantId scopeMode permissionId caller)

end Database

/-! ## What a row change leaves alone -/

namespace Tables

def Administers (db : Tables) (now : Instant) (tenantId userId : Uuid) : Prop :=
  db.ActiveMember tenantId userId ∧
    Allowed db.IsStrictAncestor db now (administratorRequest tenantId userId)

/-- From `db` to `db'` nothing changes but what the tenant `t` lends to the users `affected`: the
hierarchy, the users and the catalog are the same, and elsewhere, or for somebody else, memberships,
roles, delegations and denies are the same. -/
structure ChangesOnly (db db' : Tables) (t : Uuid) (affected : List Uuid) : Prop where
  tenants : db'.tenants = db.tenants
  tenantAncestry : db'.tenantAncestry = db.tenantAncestry
  users : db'.users = db.users
  member : ∀ p c u, c ≠ t ∨ u ∉ affected → (db'.MemberWith p c u ↔ db.MemberWith p c u)
  role : ∀ c u s resource action, c ≠ t ∨ u ∉ affected →
    (db'.HoldsByMembership u c s resource action ↔ db.HoldsByMembership u c s resource action)
  delegation : ∀ now c u s resource action ignoreExpiring, c ≠ t ∨ u ∉ affected →
    (db'.HoldsByDelegation now u .user c s resource action ignoreExpiring ↔
      db.HoldsByDelegation now u .user c s resource action ignoreExpiring)
  deny : ∀ c u s resource action, c ≠ t ∨ u ∉ affected →
    (db'.DeniesAt u .user c s resource action ↔ db.DeniesAt u .user c s resource action)

lemma not_supportMaySatisfy_administratorRequest (tenantId userId : Uuid) :
    ¬ SupportMaySatisfy (administratorRequest tenantId userId).resource
      (administratorRequest tenantId userId).action := by
  intro hmay
  have hauthority : "membership_role" ∈ authorityResources := by decide
  exact hmay.1 hauthority

variable {now now' : Instant}

lemma HoldsByDelegation.mono {db : Tables} (hle : now ≤ now') {actorId : Uuid}
    {actorType : PrincipalType} {tenantId : Uuid} {s : RoleScope} {resource action : String}
    (h : db.HoldsByDelegation now actorId actorType tenantId s resource action true) :
    db.HoldsByDelegation now' actorId actorType tenantId s resource action true := by
  obtain ⟨hmember, grant, hgrant, ht, hty, hactor, hs, hrevoked, hstarts, hexpires, hname⟩ := h
  refine ⟨hmember, grant, hgrant, ht, hty, hactor, hs, hrevoked, le_trans hstarts hle, ?_, hname⟩
  rcases hexpires with hnone | ⟨hfalse, -⟩
  · exact Or.inl hnone
  · cases hfalse

lemma ChangesOnly.administers {db db' : Tables} {t : Uuid} {affected : List Uuid}
    (h : ChangesOnly db db' t affected) (hle : now ≤ now') {d u : Uuid}
    (hadmin : db.Administers now d u) (houtside : u ∈ affected → d ≠ t ∧ ¬ db.IsStrictAncestor t d) :
    db'.Administers now' d u := by
  obtain ⟨hmember, hallowed⟩ := hadmin
  have hd : d ≠ t ∨ u ∉ affected := by
    by_cases hu : u ∈ affected
    · exact Or.inl (houtside hu).1
    · exact Or.inr hu
  have hstatus : ∀ p c, db'.HasStatus p c ↔ db.HasStatus p c := by
    intro p c
    unfold HasStatus
    rw [h.tenants]
  refine ⟨(h.member _ d u hd).mpr hmember, hallowed.carries ?_ (hstatus _ _).mpr ?_ ?_⟩
  · intro a
    unfold IsStrictAncestor
    rw [h.tenantAncestry]
  · rintro (⟨hty, user, huser, hid, hactive⟩ | ⟨hty, -⟩)
    · exact Or.inl ⟨hty, user, h.users ▸ huser, hid, hactive⟩
    · cases hty
  · intro c hc
    have hkept : c ≠ t ∨ u ∉ affected := by
      by_cases hu : u ∈ affected
      · obtain ⟨hdt, habove⟩ := houtside hu
        refine Or.inl ?_
        rintro rfl
        exact hc.elim (fun heq => hdt heq.symm) habove
      · exact Or.inr hu
    refine ⟨(hstatus _ c).mpr, ?_, ?_, ?_, ?_⟩
    · intro s hrole
      exact (h.role c u s _ _ hkept).mpr hrole
    · intro s hdelegation
      exact (h.delegation now' c u s _ _ _ hkept).mpr (hdelegation.mono hle)
    · intro s hdeny
      exact (h.deny c u s _ _ hkept).mp hdeny
    · intro hmay
      exact absurd hmay (not_supportMaySatisfy_administratorRequest d u)

end Tables

lemma Database.administrator_iff (db : Database) {now : Instant} {tenantId userId : Uuid} :
    db.Administrator now tenantId userId ↔ db.Administers now tenantId userId := by
  unfold Tables.Administrator Tables.Administers
  rw [db.can_iff_allowed]

namespace RowChange

/-- The changed row belongs to the tenant `t`, and only the given users draw authority from it. -/
def Concerns (db : Tables) (t : Uuid) (affected : List Uuid) : RowChange → Prop
  | setMembershipStatus membershipId _ =>
    membershipId ∈ db.tenantMemberships.map TenantMembership.id ∧
      ∀ m ∈ db.tenantMemberships, m.id = membershipId → m.tenantId = t ∧ m.userId ∈ affected
  | deleteMembershipRole id =>
    ∀ assignment ∈ db.membershipRoles, assignment.id = id → assignment.tenantId = t ∧
      ∀ m ∈ db.tenantMemberships, m.id = assignment.membershipId → m.userId ∈ affected
  | deleteRolePermission id =>
    ∀ grant ∈ db.rolePermissions, grant.id = id → grant.tenantId = t ∧
      ∀ assignment ∈ db.membershipRoles, assignment.tenantId = t →
        assignment.roleId = grant.roleId →
        ∀ m ∈ db.tenantMemberships, m.id = assignment.membershipId → m.userId ∈ affected
  | insertDenyGrant grant =>
    grant.tenantId = t ∧ ∀ u, grant.principalId = some u → u ∈ affected
  | revokeDelegationGrant id _ =>
    ∀ grant ∈ db.delegationGrants, grant.id = id → grant.tenantId = t ∧
      (grant.delegatePrincipalType = .user →
        ∀ u, grant.delegatePrincipalId = some u → u ∈ affected)

variable {db : Tables} {t : Uuid} {affected : List Uuid}

lemma changesOnly_setMembershipStatus {membershipId : Uuid} {status : MembershipStatus}
    (h : (setMembershipStatus membershipId status).Concerns db t affected) :
    Tables.ChangesOnly db ((setMembershipStatus membershipId status).apply db) t affected := by
  -- a membership elsewhere, or of somebody else, is not the changed one
  have hrow : ∀ c u, c ≠ t ∨ u ∉ affected → ∀ m : TenantMembership, m.tenantId = c → m.userId = u →
      (m ∈ ((setMembershipStatus membershipId status).apply db).tenantMemberships ↔
        m ∈ db.tenantMemberships) := by
    intro c u hout m hc hu
    have hother : ∀ m₀ ∈ db.tenantMemberships, m₀.tenantId = c → m₀.userId = u →
        m₀.id ≠ membershipId := by
      intro m₀ hm₀ hc₀ hu₀ hid
      obtain ⟨ht, husers⟩ := h.2 m₀ hm₀ hid
      rcases hout with hct | hnot
      · exact hct (hc₀ ▸ ht)
      · exact hnot (hu₀ ▸ husers)
    simp only [apply, List.mem_map]
    constructor
    · rintro ⟨m₀, hm₀, rfl⟩
      split at hc
      · next hid =>
        rw [if_pos hid] at hu
        exact absurd hid (hother m₀ hm₀ hc hu)
      · next hid => rwa [if_neg hid]
    · intro hm
      exact ⟨m, hm, if_neg (hother m hm hc hu)⟩
  have hmember : ∀ p c u, c ≠ t ∨ u ∉ affected →
      (((setMembershipStatus membershipId status).apply db).MemberWith p c u ↔
        db.MemberWith p c u) := by
    intro p c u hout
    constructor
    · rintro ⟨m, hm, hc, hu, hp⟩
      exact ⟨m, (hrow c u hout m hc hu).mp hm, hc, hu, hp⟩
    · rintro ⟨m, hm, hc, hu, hp⟩
      exact ⟨m, (hrow c u hout m hc hu).mpr hm, hc, hu, hp⟩
  refine ⟨rfl, rfl, rfl, hmember, ?_, ?_, fun _ _ _ _ _ _ => Iff.rfl⟩
  · intro c u s resource action hout
    constructor
    · rintro ⟨m, hm, hc, hu, hrest⟩
      exact ⟨m, (hrow c u hout m hc hu).mp hm, hc, hu, hrest⟩
    · rintro ⟨m, hm, hc, hu, hrest⟩
      exact ⟨m, (hrow c u hout m hc hu).mpr hm, hc, hu, hrest⟩
  · intro now c u s resource action ignoreExpiring hout
    unfold Tables.HoldsByDelegation
    rw [hmember _ c u hout]
    exact Iff.rfl

variable {id : Uuid}

lemma changesOnly_deleteMembershipRole (h : (deleteMembershipRole id).Concerns db t affected) :
    Tables.ChangesOnly db ((deleteMembershipRole id).apply db) t affected := by
  refine ⟨rfl, rfl, rfl, fun _ _ _ _ => Iff.rfl, ?_, fun _ _ _ _ _ _ _ _ => Iff.rfl,
    fun _ _ _ _ _ _ => Iff.rfl⟩
  intro c u s resource action hout
  constructor
  · rintro ⟨m, hm, hc, hu, hactive, assignment, hassignment, hrest⟩
    exact ⟨m, hm, hc, hu, hactive, assignment, List.mem_of_mem_filter hassignment, hrest⟩
  · rintro ⟨m, hm, hc, hu, hactive, assignment, hassignment, hac, ham, hrest⟩
    have hkept : assignment.id ≠ id := by
      intro hid
      obtain ⟨hat, husers⟩ := h assignment hassignment hid
      rcases hout with hct | hnot
      · exact hct (hac ▸ hat)
      · exact hnot (hu ▸ husers m hm ham.symm)
    exact ⟨m, hm, hc, hu, hactive, assignment,
      List.mem_filter.mpr ⟨hassignment, by simpa using hkept⟩, hac, ham, hrest⟩

lemma changesOnly_deleteRolePermission (h : (deleteRolePermission id).Concerns db t affected) :
    Tables.ChangesOnly db ((deleteRolePermission id).apply db) t affected := by
  refine ⟨rfl, rfl, rfl, fun _ _ _ _ => Iff.rfl, ?_, fun _ _ _ _ _ _ _ _ => Iff.rfl,
    fun _ _ _ _ _ _ => Iff.rfl⟩
  intro c u s resource action hout
  constructor
  · rintro ⟨m, hm, hc, hu, hactive, assignment, hassignment, hac, ham, hs, grant, hgrant, hrest⟩
    exact ⟨m, hm, hc, hu, hactive, assignment, hassignment, hac, ham, hs, grant,
      List.mem_of_mem_filter hgrant, hrest⟩
  · rintro ⟨m, hm, hc, hu, hactive, assignment, hassignment, hac, ham, hs, grant, hgrant, hgc, hgr,
      hname⟩
    have hkept : grant.id ≠ id := by
      intro hid
      obtain ⟨hgt, husers⟩ := h grant hgrant hid
      have hct : c = t := hgc.symm.trans hgt
      rcases hout with hne | hnot
      · exact hne hct
      · exact hnot (hu ▸ husers assignment hassignment (hac.trans hct) hgr.symm m hm ham.symm)
    exact ⟨m, hm, hc, hu, hactive, assignment, hassignment, hac, ham, hs, grant,
      List.mem_filter.mpr ⟨hgrant, by simpa using hkept⟩, hgc, hgr, hname⟩

lemma changesOnly_insertDenyGrant {grant : DenyGrant}
    (h : (insertDenyGrant grant).Concerns db t affected) :
    Tables.ChangesOnly db ((insertDenyGrant grant).apply db) t affected := by
  refine ⟨rfl, rfl, rfl, fun _ _ _ _ => Iff.rfl, fun _ _ _ _ _ _ => Iff.rfl,
    fun _ _ _ _ _ _ _ _ => Iff.rfl, ?_⟩
  intro c u s resource action hout
  constructor
  · rintro ⟨deny, hdeny, hc, hty, hu, hrest⟩
    rcases List.mem_append.mp hdeny with hold | hnew
    · exact ⟨deny, hold, hc, hty, hu, hrest⟩
    · obtain rfl := List.mem_singleton.mp hnew
      exfalso
      rcases hout with hct | hnot
      · exact hct (hc ▸ h.1)
      · exact hnot (h.2 u hu)
  · rintro ⟨deny, hdeny, hrest⟩
    exact ⟨deny, List.mem_append_left _ hdeny, hrest⟩

lemma changesOnly_revokeDelegationGrant {revokedAt : Instant}
    (h : (revokeDelegationGrant id revokedAt).Concerns db t affected) :
    Tables.ChangesOnly db ((revokeDelegationGrant id revokedAt).apply db) t affected := by
  refine ⟨rfl, rfl, rfl, fun _ _ _ _ => Iff.rfl, fun _ _ _ _ _ _ => Iff.rfl, ?_,
    fun _ _ _ _ _ _ => Iff.rfl⟩
  intro now c u s resource action ignoreExpiring hout
  constructor
  · rintro ⟨hmember, grant, hgrant, hc, hty, hu, hs, hrevoked, hrest⟩
    obtain ⟨grant₀, hgrant₀, rfl⟩ := List.mem_map.mp hgrant
    split at hrevoked
    · cases hrevoked
    · next hid =>
      simp only [if_neg hid] at hc hty hu hs hrest
      exact ⟨hmember, grant₀, hgrant₀, hc, hty, hu, hs, hrevoked, hrest⟩
  · rintro ⟨hmember, grant, hgrant, hc, hty, hu, hrest⟩
    have hkept : grant.id ≠ id := by
      intro hid
      obtain ⟨hgt, husers⟩ := h grant hgrant hid
      rcases hout with hct | hnot
      · exact hct (hc ▸ hgt)
      · exact hnot (husers hty u hu)
    exact ⟨hmember, grant, List.mem_map.mpr ⟨grant, hgrant, if_neg hkept⟩, hc, hty, hu, hrest⟩

lemma changesOnly {change : RowChange} (h : change.Concerns db t affected) :
    Tables.ChangesOnly db (change.apply db) t affected := by
  cases change with
  | setMembershipStatus membershipId status => exact changesOnly_setMembershipStatus h
  | deleteMembershipRole id => exact changesOnly_deleteMembershipRole h
  | deleteRolePermission id => exact changesOnly_deleteRolePermission h
  | insertDenyGrant grant => exact changesOnly_insertDenyGrant h
  | revokeDelegationGrant id revokedAt => exact changesOnly_revokeDelegationGrant h

end RowChange

/-! ## Sound plans -/

namespace Tables

variable {db : Tables} {m : TenantMembership}

lemma membershipById?_eq_some {tenantId membershipId : Uuid}
    (h : db.membershipById? tenantId membershipId = some m) :
    m ∈ db.tenantMemberships ∧ m.tenantId = tenantId ∧ m.id = membershipId := by
  have hrow := List.find?_some h
  simp only [Bool.and_eq_true, beq_iff_eq] at hrow
  exact ⟨List.mem_of_find?_eq_some h, hrow.1, hrow.2⟩

lemma mem_roleHolders {tenantId roleId : Uuid} {assignment : MembershipRole}
    (hassignment : assignment ∈ db.membershipRoles) (htenant : assignment.tenantId = tenantId)
    (hrole : assignment.roleId = roleId) (hm : m ∈ db.tenantMemberships)
    (hid : m.id = assignment.membershipId) : m.userId ∈ db.roleHolders tenantId roleId := by
  unfold roleHolders
  rw [List.mem_flatMap]
  have hof : m ∈ db.tenantMemberships.filter fun row => row.id == assignment.membershipId :=
    List.mem_filter.mpr ⟨hm, by simp [hid]⟩
  refine ⟨assignment, List.mem_filter.mpr ⟨hassignment, by simp [htenant, hrole]⟩, ?_⟩
  exact List.mem_map.mpr ⟨m, hof, rfl⟩

end Tables

namespace Database

/-- A sound plan leaves the session as it was, changes a row of the tenant from which only the
affected users draw authority, and activates no membership. -/
def SoundPlan (db : Database) (tenantId : Uuid) (plan : Plan) : Prop :=
  ∀ session planned?, plan.result = .ok (session, planned?) → session = db ∧
    ∀ planned ∈ planned?, planned.change.Concerns db.toTables tenantId planned.affectedUsers ∧
      planned.change.Removes

variable (db : Database)

lemma planRevokePermission_sound (now : Instant) (newId : Uuid)
    (tenantId roleId permissionId : Uuid) (caller : Caller) :
    db.SoundPlan tenantId
      (db.planRevokePermission now newId tenantId roleId permissionId caller) := by
  intro session planned? h
  unfold planRevokePermission at h
  simp only [LockedExcept.result_bind, LockedExcept.result_pure, bind_eq_ok] at h
  obtain ⟨session', hauthorized, hdone⟩ := h
  cases hdone
  obtain ⟨rfl, -⟩ := authorizeCaller_ok (by decide) hauthorized
  refine ⟨rfl, ?_⟩
  intro planned hplanned
  obtain ⟨grant, hfind, rfl⟩ := Option.map_eq_some_iff.mp hplanned
  have hrow := List.find?_some hfind
  simp only [Bool.and_eq_true, beq_iff_eq] at hrow
  refine ⟨?_, trivial⟩
  intro grant' hgrant' hid
  have heq : grant' = grant := session.constraints.unique.role_permissions_pk.eq_of_key_eq hgrant'
    (List.mem_of_find?_eq_some hfind) hid
  subst heq
  refine ⟨hrow.1.1, ?_⟩
  intro assignment hassignment htenant hrole m hm hmid
  exact Tables.mem_roleHolders hassignment htenant (hrole.trans hrow.1.2) hm hmid

lemma planRemoveRole_sound (now : Instant) (newId : Uuid) (tenantId membershipId roleId : Uuid)
    (caller : Caller) :
    db.SoundPlan tenantId (db.planRemoveRole now newId tenantId membershipId roleId caller) := by
  intro session planned? h
  unfold planRemoveRole at h
  simp only [LockedExcept.result_bind, LockedExcept.result_pure, bind_eq_ok] at h
  obtain ⟨session', hauthorized, hdone⟩ := h
  cases hdone
  obtain ⟨rfl, -⟩ := authorizeCaller_ok (by decide) hauthorized
  refine ⟨rfl, ?_⟩
  intro planned hplanned
  obtain ⟨assignment, hfind, rfl⟩ := Option.map_eq_some_iff.mp hplanned
  have hrow := List.find?_some hfind
  simp only [Bool.and_eq_true, beq_iff_eq] at hrow
  have hmem := List.mem_of_find?_eq_some hfind
  refine ⟨?_, trivial⟩
  intro assignment' hassignment' hid
  have heq : assignment' = assignment :=
    session.constraints.unique.membership_roles_pk.eq_of_key_eq hassignment' hmem hid
  subst heq
  refine ⟨hrow.1.1, ?_⟩
  intro m hm hmid
  -- the composite foreign key puts the membership into the assignment's tenant
  have htenant : m.tenantId = tenantId := by
    have hfk := session.constraints.foreignKeys.membership_roles_tenant_membership _ hmem
    obtain ⟨m', hm', hpair⟩ := List.mem_map.mp hfk
    have heq : m' = m := session.constraints.unique.tenant_memberships_pk.eq_of_key_eq hm' hm
      ((congrArg Prod.snd hpair).trans hmid.symm)
    rw [← heq, ← hrow.1.1]
    exact congrArg Prod.fst hpair
  have hlookup : session.membershipById? tenantId membershipId = some m := by
    have hunique : Rows.AtMostOne session.tenantMemberships
        fun row => row.tenantId == tenantId && row.id == membershipId :=
      session.constraints.unique.tenant_memberships_pk.atMostOne (k := membershipId) fun _ h => by
        simp only [Bool.and_eq_true, beq_iff_eq] at h
        exact h.2
    exact (Rows.find?_eq_some_iff hunique).mpr ⟨hm, by simp [htenant, hmid, hrow.1.2]⟩
  simp [hlookup]

lemma getDelegation_eq_ok {db : Tables} {tenantId delegationGrantId : Uuid} {grant : DelegationGrant}
    (h : db.getDelegation tenantId delegationGrantId = .ok grant) :
    grant ∈ db.delegationGrants ∧ grant.tenantId = tenantId := by
  unfold Tables.getDelegation at h
  cases hfind : db.delegationGrants.find? fun row => row.id == delegationGrantId with
  | none =>
    rw [hfind] at h
    cases h
  | some row =>
    simp only [hfind] at h
    split at h
    · next htenant =>
      cases h
      exact ⟨List.mem_of_find?_eq_some hfind, htenant⟩
    · cases h

lemma planRevokeDelegation_sound (now : Instant) (newId : Uuid) (tenantId delegationGrantId : Uuid)
    (caller : Caller) :
    db.SoundPlan tenantId
      (db.planRevokeDelegation now newId tenantId delegationGrantId caller) := by
  intro session planned? h
  unfold planRevokeDelegation at h
  simp only [LockedExcept.result_bind, LockedExcept.result_check, LockedExcept.result_pure,
    bind_eq_ok] at h
  obtain ⟨revoker, -, grant, hgrant, session', hauthorized, hdone⟩ := h
  cases hdone
  have hsession : session = db := by
    unfold authorizeRevocation at hauthorized
    rw [LockedExcept.result_ite] at hauthorized
    split at hauthorized
    · cases hauthorized
      rfl
    · exact (registerAndDecide_ok (by simp [authorityResources]) hauthorized).1
  subst hsession
  obtain ⟨hmem, htenant⟩ := getDelegation_eq_ok hgrant
  refine ⟨rfl, ?_⟩
  intro planned hplanned
  unfold DelegationGrant.revocation at hplanned
  split at hplanned
  · cases hplanned
  · cases hplanned
    refine ⟨?_, trivial⟩
    intro grant' hgrant' hid
    have heq : grant' = grant :=
      session.constraints.unique.delegation_grants_pk.eq_of_key_eq hgrant' hmem hid
    subst heq
    refine ⟨htenant, ?_⟩
    intro huser u hu
    simp [huser, hu]

lemma planCreateDeny_sound (now : Instant) (ids : NewIds) (principalUserId : Uuid) (tenantId : Uuid)
    (scopeMode : RoleScope) (permissionId : Uuid) (caller : Caller) :
    db.SoundPlan tenantId
      (db.planCreateDeny now ids principalUserId tenantId scopeMode permissionId caller) := by
  intro session planned? h
  unfold planCreateDeny at h
  simp only [LockedExcept.result_bind, LockedExcept.result_check, LockedExcept.result_pure,
    bind_eq_ok] at h
  obtain ⟨grantor, -, -, -, -, -, -, -, session', hauthorized, hdone⟩ := h
  cases hdone
  obtain ⟨rfl, -⟩ := registerAndDecide_ok (by simp [authorityResources]) hauthorized
  refine ⟨rfl, ?_⟩
  rintro planned ⟨⟩
  refine ⟨⟨rfl, ?_⟩, trivial⟩
  rintro u ⟨⟩
  exact List.mem_singleton.mpr rfl

end Database

end SaasOs
