import SaasOs.Rbac.Authorization
import SaasOs.Foundation.ParentChain

/-!
# What the decision decides

A declarative reading of `can`: a target tenant that exists and is not closed, an actor that may
act, no deny that reaches the target, and some role, delegation or support grant that does.  A grant
with scope `s` at a candidate tenant `c` *reaches* the target `t` when `c` is `t` itself, or `c` is
a strict ancestor of `t` and `s` is the subtree scope.
-/

namespace SaasOs

open ParentChain Rows

namespace Tables

/-! ## The parent pointers and their closure -/

def parentOf (db : Tables) (tenantId : Uuid) : Option Uuid :=
  (db.tenant? tenantId).bind Tenant.parentId

/-- `a` is met above `t` by following the parent pointer at least once. -/
def StrictlyAbove (db : Tables) (a t : Uuid) : Prop :=
  ∃ d, climb db.parentOf (d + 1) t = some a

/-- The closure table holds a row for `(t, a, d)` exactly when `d` steps up from the registered
tenant `t` lead to `a`. -/
def AncestryIsClosure (db : Tables) : Prop :=
  ∀ t a d, ⟨t, a, d⟩ ∈ db.tenantAncestry ↔
    t ∈ db.tenants.map Tenant.id ∧ climb db.parentOf d t = some a

lemma registered_of_parentOf {db : Tables} {t p : Uuid} (h : db.parentOf t = some p) :
    t ∈ db.tenants.map Tenant.id := by
  obtain ⟨tenant, hfind, -⟩ := Option.bind_eq_some_iff.mp h
  obtain ⟨hmem, hid⟩ := tenant?_eq_some hfind
  exact List.mem_map.mpr ⟨tenant, hmem, hid⟩

/-! ## The clauses -/

/-- The tenant is registered in a status that satisfies `p`. -/
def HasStatus (db : Tables) (p : TenantStatus → Bool) (tenantId : Uuid) : Prop :=
  ∃ tenant ∈ db.tenants, tenant.id = tenantId ∧ p tenant.status = true

def Accessible (db : Tables) (tenantId : Uuid) : Prop :=
  db.HasStatus TenantStatus.isAccessibleToPrincipals tenantId

def Open (db : Tables) (tenantId : Uuid) : Prop :=
  db.HasStatus (fun status => !status.isClosed) tenantId

/-- The catalog names the permission as `(resource, action)`. -/
def NamesPermission (db : Tables) (permissionId : Uuid) (resource action : String) : Prop :=
  ∃ p ∈ db.permissions, p.id = permissionId ∧ p.resource = resource ∧ p.action = action

/-- The role grants `(resource, action)` within its tenant. -/
def RoleGrants (db : Tables) (tenantId roleId : Uuid) (resource action : String) : Prop :=
  ∃ grant ∈ db.rolePermissions, grant.tenantId = tenantId ∧ grant.roleId = roleId ∧
    db.NamesPermission grant.permissionId resource action

def MemberWith (db : Tables) (status : MembershipStatus → Prop) (tenantId userId : Uuid) : Prop :=
  ∃ m ∈ db.tenantMemberships, m.tenantId = tenantId ∧ m.userId = userId ∧ status m.status

def ActiveMember (db : Tables) (tenantId userId : Uuid) : Prop :=
  db.MemberWith (· = .active) tenantId userId

/-- An active membership of the user at the tenant holds, at scope `s`, a role that grants
`(resource, action)`. -/
def HoldsByMembership (db : Tables) (userId tenantId : Uuid) (s : RoleScope)
    (resource action : String) : Prop :=
  ∃ m ∈ db.tenantMemberships, m.tenantId = tenantId ∧ m.userId = userId ∧ m.status = .active ∧
    ∃ assignment ∈ db.membershipRoles, assignment.tenantId = tenantId ∧
      assignment.membershipId = m.id ∧ assignment.scope = s ∧
      db.RoleGrants tenantId assignment.roleId resource action

/-- The service account holds, at scope `s`, a role of the tenant that grants
`(resource, action)`. -/
def HoldsByServiceAccountRole (db : Tables) (serviceAccountId tenantId : Uuid) (s : RoleScope)
    (resource action : String) : Prop :=
  ∃ assignment ∈ db.serviceAccountRoles, assignment.tenantId = tenantId ∧
    assignment.serviceAccountId = serviceAccountId ∧ assignment.scope = s ∧
    db.RoleGrants tenantId assignment.roleId resource action

def HoldsByRole (db : Tables) (actorId : Uuid) (actorType : PrincipalType) (tenantId : Uuid)
    (s : RoleScope) (resource action : String) : Prop :=
  if actorType = .user then db.HoldsByMembership actorId tenantId s resource action
  else db.HoldsByServiceAccountRole actorId tenantId s resource action

/-- A delegation of `(resource, action)` at scope `s` to the actor is started, unrevoked and
unexpired (or, when expiring ones are ignored, carries no expiry), and the actor, if a user, is not
a member of the tenant in a status other than active. -/
def HoldsByDelegation (db : Tables) (now : Instant) (actorId : Uuid) (actorType : PrincipalType)
    (tenantId : Uuid) (s : RoleScope) (resource action : String) (ignoreExpiring : Bool) : Prop :=
  (actorType = .user → ¬ db.MemberWith (· ≠ .active) tenantId actorId) ∧
  ∃ grant ∈ db.delegationGrants, grant.tenantId = tenantId ∧
    grant.delegatePrincipalType = actorType ∧
    principalColumn actorType grant.delegatePrincipalId grant.delegateServiceAccountId =
      some actorId ∧
    grant.scopeMode = s ∧ grant.revokedAt = none ∧ grant.startsAt ≤ now ∧
    (grant.expiresAt = none ∨
      (ignoreExpiring = false ∧ ∃ expires, grant.expiresAt = some expires ∧ now < expires)) ∧
    db.NamesPermission grant.permissionId resource action

/-- An unrevoked deny of `(resource, action)` at scope `s` names the actor at the tenant. -/
def DeniesAt (db : Tables) (actorId : Uuid) (actorType : PrincipalType) (tenantId : Uuid)
    (s : RoleScope) (resource action : String) : Prop :=
  ∃ grant ∈ db.denyGrants, grant.tenantId = tenantId ∧ grant.principalType = actorType ∧
    principalColumn actorType grant.principalId grant.principalServiceAccountId = some actorId ∧
    grant.scopeMode = s ∧ grant.revokedAt = none ∧
    db.NamesPermission grant.permissionId resource action

/-- A support-access request of the user at scope `s` is approved, neither denied nor revoked, and
in its time window. -/
def SupportedAt (db : Tables) (now : Instant) (userId tenantId : Uuid) (s : RoleScope) : Prop :=
  ∃ request ∈ db.supportAccessRequests, request.tenantId = tenantId ∧
    request.requesterUserId = userId ∧ request.scopeMode = s ∧ request.approvedAt ≠ none ∧
    request.deniedAt = none ∧ request.revokedAt = none ∧ request.requestedStartsAt ≤ now ∧
    now < request.requestedExpiresAt

def ActorMayAct (db : Tables) (request : AccessRequest) : Prop :=
  (request.actorType = .user ∧ ∃ user ∈ db.users, user.id = request.actorId ∧ user.isActive = true) ∨
  (request.actorType = .serviceAccount ∧ ∃ account ∈ db.serviceAccounts,
    request.actorTenantId = some account.tenantId ∧ account.id = request.actorId ∧
    account.status = .active)

/-- A support grant may satisfy `(resource, action)`: it changes no authority and no commercial
relationship, does not suspend the tenant and is none of the excluded AI actions. -/
def SupportMaySatisfy (resource action : String) : Prop :=
  resource ∉ authorityResources ∧ (resource, action) ∉ billingMutationActions ∧
    (resource, action) ≠ tenantSelfSuspendAction ∧
    (resource, action) ∉ aiSupportAccessExcludedActions

/-- A grant with scope `s` at `c` reaches `t`, for a given notion of strict ancestor. -/
def Reaches (above : Uuid → Uuid → Prop) (s : RoleScope) (c t : Uuid) : Prop :=
  c = t ∨ (above c t ∧ s = .subtree)

/-- A deny reaches the tenant, from it or from above. -/
def Denied (above : Uuid → Uuid → Prop) (db : Tables) (actorId : Uuid) (actorType : PrincipalType)
    (tenantId : Uuid) (resource action : String) : Prop :=
  ∃ c s, Reaches above s c tenantId ∧ db.DeniesAt actorId actorType c s resource action

def HoldsAsPrincipal (above : Uuid → Uuid → Prop) (db : Tables) (now : Instant)
    (request : AccessRequest) : Prop :=
  ∃ c s, Reaches above s c request.tenantId ∧ db.Accessible c ∧
    (db.HoldsByRole request.actorId request.actorType c s request.resource request.action ∨
      db.HoldsByDelegation now request.actorId request.actorType c s request.resource
        request.action request.ignoreExpiringDelegations)

def HoldsBySupport (above : Uuid → Uuid → Prop) (db : Tables) (now : Instant)
    (request : AccessRequest) : Prop :=
  ∃ c s, Reaches above s c request.tenantId ∧ db.Open c ∧
    db.SupportedAt now request.actorId c s

def Allowed (above : Uuid → Uuid → Prop) (db : Tables) (now : Instant) (request : AccessRequest) :
    Prop :=
  db.Open request.tenantId ∧
  db.ActorMayAct request ∧
  ¬ Denied above db request.actorId request.actorType request.tenantId request.resource
    request.action ∧
  ((db.Accessible request.tenantId ∧ HoldsAsPrincipal above db now request) ∨
    (request.actorType = .user ∧ SupportMaySatisfy request.resource request.action ∧
      HoldsBySupport above db now request))

/-- The policy over the hierarchy itself: an ancestor is a tenant met by following the parent
pointers. -/
def Policy (db : Tables) (now : Instant) (request : AccessRequest) : Prop :=
  Allowed db.StrictlyAbove db now request

end Tables

namespace Database

/-! ## The queries answer the clauses -/

variable (db : Database)

lemma tenantStatusIs_iff {p : TenantStatus → Bool} {tenantId : Uuid} :
    db.tenantStatusIs p tenantId = true ↔ db.HasStatus p tenantId := by
  unfold Tables.tenantStatusIs Tables.HasStatus
  rw [Option.any_eq_true]
  constructor
  · rintro ⟨tenant, hfind, hp⟩
    have hrow := (find?_eq_some_iff (db.tenant_atMostOne tenantId)).mp hfind
    exact ⟨tenant, hrow.1, by simpa using hrow.2, hp⟩
  · rintro ⟨tenant, hmem, hid, hp⟩
    refine ⟨tenant, ?_, hp⟩
    exact (find?_eq_some_iff (db.tenant_atMostOne tenantId)).mpr ⟨hmem, by simpa using hid⟩

lemma val_lockMembership_eq_some_iff {tenantId userId : Uuid} {m : TenantMembership} :
    (db.lockMembership tenantId userId).val = some m ↔
      m ∈ db.tenantMemberships ∧ m.tenantId = tenantId ∧ m.userId = userId := by
  have hval : (db.lockMembership tenantId userId).val = db.tenantMemberships.find?
      fun row => row.tenantId == tenantId && row.userId == userId := by
    unfold Tables.lockMembership
    cases db.tenantMemberships.find? fun row => row.tenantId == tenantId && row.userId == userId <;>
      rfl
  rw [hval, find?_eq_some_iff (db.membership_atMostOne tenantId userId)]
  simp

lemma memberWith_iff {p : MembershipStatus → Prop} {tenantId userId : Uuid} :
    db.MemberWith p tenantId userId ↔
      ∃ m, (db.lockMembership tenantId userId).val = some m ∧ p m.status := by
  unfold Tables.MemberWith
  constructor
  · rintro ⟨m, hm, ht, hu, hp⟩
    exact ⟨m, db.val_lockMembership_eq_some_iff.mpr ⟨hm, ht, hu⟩, hp⟩
  · rintro ⟨m, hfind, hp⟩
    obtain ⟨hm, ht, hu⟩ := db.val_lockMembership_eq_some_iff.mp hfind
    exact ⟨m, hm, ht, hu, hp⟩

end Database

namespace Tables

variable {db : Tables} {resource action : String}

@[simp] lemma permissionIs_iff {permissionId : Uuid} :
    db.permissionIs permissionId resource action = true ↔
      db.NamesPermission permissionId resource action := by
  simp [permissionIs, NamesPermission, and_assoc]

lemma exists_mem_grantsOfRole_iff {tenantId roleId : Uuid} :
    (∃ grant, grant ∈ db.grantsOfRole tenantId roleId resource action) ↔
      db.RoleGrants tenantId roleId resource action := by
  unfold grantsOfRole RoleGrants
  simp only [List.mem_filter, Bool.and_eq_true, beq_iff_eq, permissionIs_iff]
  constructor
  · rintro ⟨grant, hgrant, ⟨hrole, htenant⟩, hperm⟩
    exact ⟨grant, hgrant, htenant, hrole, hperm⟩
  · rintro ⟨grant, hgrant, htenant, hrole, hperm⟩
    exact ⟨grant, hgrant, ⟨hrole, htenant⟩, hperm⟩

lemma exists_mem_joinGrants_iff {γ : Type} {assignments : List γ} {keep : γ → Bool}
    {roleOf : γ → Uuid} {tenantId : Uuid} :
    (∃ pair, pair ∈ db.joinGrants tenantId resource action assignments roleOf keep) ↔
    ∃ assignment ∈ assignments, keep assignment = true ∧
      db.RoleGrants tenantId (roleOf assignment) resource action := by
  unfold joinGrants
  simp only [List.mem_flatMap, List.mem_filter, List.mem_map]
  constructor
  · rintro ⟨pair, assignment, ⟨hmem, hkeep⟩, grant, hgrant, -⟩
    exact ⟨assignment, hmem, hkeep, exists_mem_grantsOfRole_iff.mp ⟨grant, hgrant⟩⟩
  · rintro ⟨assignment, hmem, hkeep, hgrants⟩
    obtain ⟨grant, hgrant⟩ := exists_mem_grantsOfRole_iff.mpr hgrants
    exact ⟨(assignment, grant), assignment, ⟨hmem, hkeep⟩, grant, hgrant, rfl⟩

end Tables

namespace Database

variable (db : Database) {c actorId : Uuid} {action resource : String} {scopes : List RoleScope}

lemma tenantGrantsPermission_iff :
    (db.tenantGrantsPermission c actorId action resource scopes).val = true ↔
      ∃ s ∈ scopes, db.Accessible c ∧ db.HoldsByMembership actorId c s resource action := by
  have key : (db.tenantGrantsPermission c actorId action resource scopes).val = true ↔
      ∃ m, (db.lockMembership c actorId).val = some m ∧ m.status = .active ∧ db.Accessible c ∧
        ∃ assignment ∈ db.membershipRoles,
          (assignment.tenantId == c && assignment.membershipId == m.id &&
            scopes.contains assignment.scope) = true ∧
          db.RoleGrants c assignment.roleId resource action := by
    unfold Tables.tenantGrantsPermission
    rw [LockedRead.val_bind]
    cases (db.lockMembership c actorId).val with
    | none => simp
    | some m =>
      simp only [LockedRead.val_ite, Option.some.injEq]
      by_cases hactive : m.status = .active
      · rw [if_pos hactive, Tables.val_whenAccessible, LockedRead.val_firstHit,
          Tables.exists_mem_joinGrants_iff, db.tenantStatusIs_iff]
        constructor
        · rintro ⟨hacc, hassigned⟩
          exact ⟨m, rfl, hactive, hacc, hassigned⟩
        · rintro ⟨_, rfl, -, hacc, hassigned⟩
          exact ⟨hacc, hassigned⟩
      · rw [if_neg hactive]
        constructor
        · intro h
          simp at h
        · rintro ⟨_, rfl, hactive', -⟩
          exact absurd hactive' hactive
  rw [key]
  constructor
  · rintro ⟨m, hfind, hactive, hacc, assignment, hmem, hkeep, hgrants⟩
    obtain ⟨hm, ht, hu⟩ := db.val_lockMembership_eq_some_iff.mp hfind
    simp only [Bool.and_eq_true, beq_iff_eq, List.contains_iff_mem] at hkeep
    exact ⟨assignment.scope, hkeep.2, hacc, m, hm, ht, hu, hactive, assignment, hmem,
      hkeep.1.1, hkeep.1.2, rfl, hgrants⟩
  · rintro ⟨s, hs, hacc, m, hm, ht, hu, hactive, assignment, hmem, hat, ham, rfl, hgrants⟩
    refine ⟨m, db.val_lockMembership_eq_some_iff.mpr ⟨hm, ht, hu⟩, hactive, hacc, assignment,
      hmem, ?_, hgrants⟩
    simp [hat, ham, hs]

lemma tenantGrantsPermissionForServiceAccount_iff :
    (db.tenantGrantsPermissionForServiceAccount c actorId action resource scopes).val = true ↔
      ∃ s ∈ scopes, db.Accessible c ∧
        db.HoldsByServiceAccountRole actorId c s resource action := by
  unfold Tables.tenantGrantsPermissionForServiceAccount
  rw [Tables.val_whenAccessible, LockedRead.val_firstHit, Tables.exists_mem_joinGrants_iff,
    db.tenantStatusIs_iff]
  constructor
  · rintro ⟨hacc, assignment, hmem, hkeep, hgrants⟩
    simp only [Bool.and_eq_true, beq_iff_eq, List.contains_iff_mem] at hkeep
    exact ⟨assignment.scope, hkeep.2, hacc, assignment, hmem, hkeep.1.1, hkeep.1.2, rfl, hgrants⟩
  · rintro ⟨s, hs, hacc, assignment, hmem, hat, haa, rfl, hgrants⟩
    exact ⟨hacc, assignment, hmem, by simp [hat, haa, hs], hgrants⟩

variable {actorType : PrincipalType}

lemma actorGrantsPermission_iff :
    (db.actorGrantsPermission c actorId actorType action resource scopes).val = true ↔
      ∃ s ∈ scopes, db.Accessible c ∧
        db.HoldsByRole actorId actorType c s resource action := by
  unfold Tables.actorGrantsPermission Tables.HoldsByRole
  by_cases huser : actorType = .user
  · simp only [if_pos huser]
    exact db.tenantGrantsPermission_iff
  · simp only [if_neg huser]
    exact db.tenantGrantsPermissionForServiceAccount_iff

variable {now : Instant}

lemma delegationApplies_iff {db : Tables} {ignoreExpiring : Bool} {grant : DelegationGrant} :
    db.delegationApplies now c actorId actorType action resource scopes ignoreExpiring grant = true ↔
      grant.scopeMode ∈ scopes ∧ grant.tenantId = c ∧ grant.delegatePrincipalType = actorType ∧
      Tables.principalColumn actorType grant.delegatePrincipalId grant.delegateServiceAccountId =
        some actorId ∧
      grant.revokedAt = none ∧ grant.startsAt ≤ now ∧
      (grant.expiresAt = none ∨
        (ignoreExpiring = false ∧ ∃ expires, grant.expiresAt = some expires ∧ now < expires)) ∧
      db.NamesPermission grant.permissionId resource action := by
  have hexpiry : (if ignoreExpiring then grant.expiresAt.isNone
      else grant.expiresAt.all fun expires => decide (now < expires)) = true ↔
      (grant.expiresAt = none ∨
        (ignoreExpiring = false ∧ ∃ expires, grant.expiresAt = some expires ∧ now < expires)) := by
    cases grant.expiresAt <;> cases ignoreExpiring <;> simp
  unfold Tables.delegationApplies
  simp only [Bool.and_eq_true, beq_iff_eq, List.contains_iff_mem, decide_eq_true_eq, hexpiry,
    Tables.permissionIs_iff, Option.isNone_iff_eq_none]
  tauto

lemma tenantGrantsPermissionViaDelegation_iff {ignoreExpiring : Bool} :
    (db.tenantGrantsPermissionViaDelegation now c actorId actorType action resource scopes
      ignoreExpiring).val = true ↔
      ∃ s ∈ scopes, db.Accessible c ∧
        db.HoldsByDelegation now actorId actorType c s resource action ignoreExpiring := by
  have hpermits : (db.delegateMayUseDelegation c actorId actorType).val = true ↔
      (actorType = .user → ¬ db.MemberWith (· ≠ .active) c actorId) := by
    unfold Tables.delegateMayUseDelegation
    rw [LockedRead.val_ite, db.memberWith_iff]
    by_cases huser : actorType = .user
    · rw [if_pos huser]
      unfold Tables.delegateUserMembershipPermitsAuthorization
      rw [LockedRead.val_bind]
      cases (db.lockMembership c actorId).val with
      | none => simp
      | some m => simp [huser]
    · simp [huser]
  unfold Tables.tenantGrantsPermissionViaDelegation Tables.HoldsByDelegation
  rw [LockedRead.val_bind, LockedRead.val_ite]
  by_cases hmay : (db.delegateMayUseDelegation c actorId actorType).val = true
  · rw [if_pos hmay, Tables.val_whenAccessible, LockedRead.val_firstHit, db.tenantStatusIs_iff]
    simp only [List.mem_filter]
    constructor
    · rintro ⟨hacc, grant, hmem, happlies⟩
      obtain ⟨hs, ht, hty, hact, hrev, hstart, hexp, hperm⟩ := delegationApplies_iff.mp happlies
      exact ⟨grant.scopeMode, hs, hacc, hpermits.mp hmay, grant, hmem, ht, hty, hact, rfl, hrev,
        hstart, hexp, hperm⟩
    · rintro ⟨s, hs, hacc, -, grant, hmem, ht, hty, hact, rfl, hrev, hstart, hexp, hperm⟩
      exact ⟨hacc, grant, hmem,
        delegationApplies_iff.mpr ⟨hs, ht, hty, hact, hrev, hstart, hexp, hperm⟩⟩
  · rw [if_neg hmay]
    constructor
    · intro h
      simp at h
    · rintro ⟨s, hs, hacc, hmember, -⟩
      exact absurd (hpermits.mpr hmember) hmay

lemma tenantDeniesPermission_iff {db : Tables} :
    (db.tenantDeniesPermission c actorId actorType action resource scopes).val = true ↔
      ∃ s ∈ scopes, db.DeniesAt actorId actorType c s resource action := by
  unfold Tables.tenantDeniesPermission Tables.DeniesAt
  rw [LockedRead.val_pure, List.any_eq_true]
  unfold Tables.denyApplies
  simp only [Bool.and_eq_true, beq_iff_eq, List.contains_iff_mem, Tables.permissionIs_iff,
    Option.isNone_iff_eq_none]
  constructor
  · rintro ⟨grant, hmem, ⟨⟨⟨⟨ht, hty⟩, hact⟩, hs⟩, hrev⟩, hperm⟩
    exact ⟨grant.scopeMode, hs, grant, hmem, ht, hty, hact, rfl, hrev, hperm⟩
  · rintro ⟨s, hs, grant, hmem, ht, hty, hact, rfl, hrev, hperm⟩
    exact ⟨grant, hmem, ⟨⟨⟨⟨ht, hty⟩, hact⟩, hs⟩, hrev⟩, hperm⟩

lemma supportAccessExcluded_eq_false_iff :
    supportAccessExcluded resource action = false ↔ Tables.SupportMaySatisfy resource action := by
  simp [supportAccessExcluded, isAuthorityChanging, Tables.SupportMaySatisfy, and_assoc]

lemma tenantGrantsSupportAccess_iff :
    (db.tenantGrantsSupportAccess now c actorId resource action scopes).val = true ↔
      ∃ s ∈ scopes, Tables.SupportMaySatisfy resource action ∧ db.Open c ∧
        db.SupportedAt now actorId c s := by
  unfold Tables.tenantGrantsSupportAccess Tables.SupportedAt
  rw [LockedRead.val_ite]
  by_cases hex : supportAccessExcluded resource action = true
  · rw [if_pos hex]
    constructor
    · intro h
      simp at h
    · rintro ⟨s, hs, hmay, -⟩
      rw [supportAccessExcluded_eq_false_iff.mpr hmay] at hex
      cases hex
  · rw [if_neg hex, Tables.val_whenOpen, LockedRead.val_firstHit, db.tenantStatusIs_iff]
    simp only [List.mem_filter]
    have hmay := supportAccessExcluded_eq_false_iff.mp (Bool.eq_false_iff.mpr hex)
    unfold Tables.supportRequestApplies
    simp only [Bool.and_eq_true, beq_iff_eq, List.contains_iff_mem, decide_eq_true_eq,
      Option.isNone_iff_eq_none, Option.isSome_iff_ne_none]
    constructor
    · rintro ⟨hopen, request, hmem, ⟨⟨⟨⟨⟨⟨ht, hu⟩, hs⟩, happ⟩, hden⟩, hrev⟩, hstart⟩, hexp⟩
      exact ⟨request.scopeMode, hs, hmay, hopen, request, hmem, ht, hu, rfl, happ, hden, hrev,
        hstart, hexp⟩
    · rintro ⟨s, hs, -, hopen, request, hmem, ht, hu, rfl, happ, hden, hrev, hstart, hexp⟩
      exact ⟨hopen, request, hmem, ⟨⟨⟨⟨⟨⟨ht, hu⟩, hs⟩, happ⟩, hden⟩, hrev⟩, hstart⟩, hexp⟩

/-! ## Walking the chain answers reach -/

lemma anyCandidate_iff {db : Tables} {t : Uuid} {ask : Uuid → List RoleScope → Locked Bool}
    {grantAt : Uuid → RoleScope → Prop}
    (hask : ∀ c scopes, (ask c scopes).val = true ↔ ∃ s ∈ scopes, grantAt c s) :
    (db.anyCandidate t ask).val = true ↔
      ∃ c s, Tables.Reaches db.IsStrictAncestor s c t ∧ grantAt c s := by
  have hwalk : (db.anyCandidate t ask).val = true ↔
      (ask t targetTenantScopes).val = true ∨
        ∃ a, db.IsStrictAncestor a t ∧ (ask a ancestorTenantScopes).val = true := by
    unfold Tables.anyCandidate
    simp only [LockedRead.val_bind, LockedRead.val_ite, LockedRead.val_pure, LockedRead.val_anyM,
      Tables.isStrictAncestor_iff_mem]
    by_cases htarget : (ask t targetTenantScopes).val = true
    · simp [htarget]
    · rw [if_neg htarget, List.any_eq_true]
      rw [or_iff_right htarget]
      constructor
      · rintro ⟨a, hmem, hval⟩
        by_cases hat : a = t
        · simp [hat] at hval
        · exact ⟨a, ⟨hat, hmem⟩, by simpa [hat] using hval⟩
      · rintro ⟨a, ⟨hat, hmem⟩, hval⟩
        exact ⟨a, hmem, by simpa [hat] using hval⟩
  rw [hwalk, hask]
  constructor
  · rintro (⟨s, -, hgrant⟩ | ⟨a, habove, hval⟩)
    · exact ⟨t, s, Or.inl rfl, hgrant⟩
    · obtain ⟨s, hs, hgrant⟩ := (hask a _).mp hval
      exact ⟨a, s, Or.inr ⟨habove, by simpa [ancestorTenantScopes] using hs⟩, hgrant⟩
  · rintro ⟨c, s, rfl | ⟨habove, rfl⟩, hgrant⟩
    · exact Or.inl ⟨s, by cases s <;> simp [targetTenantScopes], hgrant⟩
    · exact Or.inr ⟨c, habove, (hask c _).mpr ⟨.subtree, by simp [ancestorTenantScopes], hgrant⟩⟩

lemma actorIsDenied_iff {db : Tables} {actorId t : Uuid} :
    (db.actorIsDenied actorId actorType t action resource).val = true ↔
      Tables.Denied db.IsStrictAncestor db actorId actorType t resource action :=
  anyCandidate_iff fun _ _ => tenantDeniesPermission_iff

variable {request : AccessRequest}

lemma anyCandidate_candidateAllows_iff :
    (db.anyCandidate request.tenantId (db.candidateAllows now request)).val = true ↔
      Tables.HoldsAsPrincipal db.IsStrictAncestor db.toTables now request := by
  apply anyCandidate_iff
  intro c scopes
  unfold Tables.candidateAllows
  simp only [LockedRead.val_bind, LockedRead.val_ite, LockedRead.val_pure]
  by_cases hrole : (db.actorGrantsPermission c request.actorId request.actorType request.action
      request.resource scopes).val = true
  · rw [if_pos hrole]
    obtain ⟨s, hs, hacc, hholds⟩ := db.actorGrantsPermission_iff.mp hrole
    exact ⟨fun _ => ⟨s, hs, hacc, Or.inl hholds⟩, fun _ => rfl⟩
  · rw [if_neg hrole, db.tenantGrantsPermissionViaDelegation_iff]
    constructor
    · rintro ⟨s, hs, hacc, hholds⟩
      exact ⟨s, hs, hacc, Or.inr hholds⟩
    · rintro ⟨s, hs, hacc, hholds | hholds⟩
      · exact absurd (db.actorGrantsPermission_iff.mpr ⟨s, hs, hacc, hholds⟩) hrole
      · exact ⟨s, hs, hacc, hholds⟩

lemma actorHasSupportAccess_iff :
    (db.actorHasSupportAccess now request.actorId request.tenantId request.resource
      request.action).val = true ↔
      Tables.SupportMaySatisfy request.resource request.action ∧
        Tables.HoldsBySupport db.IsStrictAncestor db.toTables now request := by
  have hwalk : (db.actorHasSupportAccess now request.actorId request.tenantId request.resource
      request.action).val = true ↔
      ∃ c s, Tables.Reaches db.IsStrictAncestor s c request.tenantId ∧
        Tables.SupportMaySatisfy request.resource request.action ∧ db.Open c ∧
          db.SupportedAt now request.actorId c s :=
    anyCandidate_iff fun c scopes => db.tenantGrantsSupportAccess_iff
  rw [hwalk]
  unfold Tables.HoldsBySupport
  constructor
  · rintro ⟨c, s, hreach, hmay, hopen, hsupport⟩
    exact ⟨hmay, c, s, hreach, hopen, hsupport⟩
  · rintro ⟨hmay, c, s, hreach, hopen, hsupport⟩
    exact ⟨c, s, hreach, hmay, hopen, hsupport⟩

lemma actorMayAct_iff :
    (db.actorMayAct request).val = true ↔ db.ActorMayAct request := by
  unfold Tables.actorMayAct Tables.ActorMayAct
  cases hty : request.actorType with
  | user =>
    have hval : (db.lockUserIsActive request.actorId).val =
        (db.users.find? fun row => row.id == request.actorId).map User.isActive := by
      unfold Tables.lockUserIsActive
      cases db.users.find? fun row => row.id == request.actorId <;> rfl
    simp only [LockedRead.val_bind, LockedRead.val_pure, hval, beq_iff_eq, Option.map_eq_some_iff,
      find?_eq_some_iff (db.user_atMostOne request.actorId)]
    simp [and_assoc]
  | serviceAccount =>
    cases htenant : request.actorTenantId with
    | none => simp
    | some actorTenantId =>
      have hval : (db.lockServiceAccountStatus actorTenantId request.actorId).val =
          (db.serviceAccounts.find? fun row =>
            row.tenantId == actorTenantId && row.id == request.actorId).map
              ServiceAccount.status := by
        unfold Tables.lockServiceAccountStatus
        cases db.serviceAccounts.find? fun row =>
          row.tenantId == actorTenantId && row.id == request.actorId <;> rfl
      simp only [LockedRead.val_bind, LockedRead.val_pure, hval, beq_iff_eq,
        Option.map_eq_some_iff, Bool.and_eq_true,
        find?_eq_some_iff (db.serviceAccount_atMostOne actorTenantId request.actorId)]
      constructor
      · rintro ⟨account, ⟨hmem, ht, hid⟩, hstatus⟩
        exact Or.inr ⟨trivial, account, hmem, by rw [ht], hid, hstatus⟩
      · rintro (⟨h, -⟩ | ⟨-, account, hmem, ht, hid, hstatus⟩)
        · cases h
        · exact ⟨account, ⟨hmem, (Option.some.inj ht).symm, hid⟩, hstatus⟩
  | system => simp

lemma targetAdmits_iff {tenantId : Uuid} {admits : Bool} :
    (db.targetAdmits tenantId).val = some admits ↔
      db.Open tenantId ∧ (admits = true ↔ db.Accessible tenantId) := by
  unfold Tables.targetAdmits Tables.Open Tables.Accessible Tables.lockAccessibleTenant
  rw [← db.tenantStatusIs_iff, ← db.tenantStatusIs_iff]
  unfold Tables.tenantStatusIs
  simp only [LockedRead.val_bind, Tables.val_lockTenant]
  cases db.tenant? tenantId with
  | none => simp
  | some tenant =>
    obtain ⟨id, name, status, parentId⟩ := tenant
    cases status <;> cases admits <;>
      simp [TenantStatus.isClosed, TenantStatus.isAccessibleToPrincipals]

theorem can_iff_allowed :
    db.can now request = true ↔ Tables.Allowed db.IsStrictAncestor db.toTables now request := by
  unfold Tables.can Tables.canLocked Tables.Allowed
  rw [LockedRead.val_bind]
  cases hadmits : (db.targetAdmits request.tenantId).val with
  | none =>
    have hclosed : ¬ db.Open request.tenantId := by
      intro hopen
      by_cases hacc : db.Accessible request.tenantId
      · have := db.targetAdmits_iff.mpr ⟨hopen, iff_of_true rfl hacc⟩
        rw [hadmits] at this
        cases this
      · have := db.targetAdmits_iff.mpr ⟨hopen, iff_of_false Bool.false_ne_true hacc⟩
        rw [hadmits] at this
        cases this
    exact ⟨fun h => by simp at h, fun h => absurd h.1 hclosed⟩
  | some admits =>
    obtain ⟨hopen, hacc⟩ := db.targetAdmits_iff.mp hadmits
    have hprincipal : (db.principalPathAllows now request admits).val = true ↔
        db.Accessible request.tenantId ∧
          Tables.HoldsAsPrincipal db.IsStrictAncestor db.toTables now request := by
      unfold Tables.principalPathAllows
      rw [← hacc, ← db.anyCandidate_candidateAllows_iff]
      cases admits <;> simp
    have hsupport : (db.supportPathAllows now request).val = true ↔
        request.actorType = .user ∧ Tables.SupportMaySatisfy request.resource request.action ∧
          Tables.HoldsBySupport db.IsStrictAncestor db.toTables now request := by
      unfold Tables.supportPathAllows
      rw [← db.actorHasSupportAccess_iff]
      by_cases huser : request.actorType = .user <;> simp [huser]
    rw [← db.actorMayAct_iff, ← actorIsDenied_iff, ← hprincipal, ← hsupport]
    simp only [LockedRead.val_bind, LockedRead.val_ite, LockedRead.val_pure, hopen, true_and]
    cases (db.actorMayAct request).val <;>
      cases (db.actorIsDenied request.actorId request.actorType request.tenantId request.action
        request.resource).val <;>
      cases (db.principalPathAllows now request admits).val <;> simp

/-! ## The policy over the hierarchy -/

lemma isStrictAncestor_iff_strictlyAbove (h : db.AncestryIsClosure) {a t : Uuid} :
    db.IsStrictAncestor a t ↔ db.StrictlyAbove a t := by
  have hcheck := db.constraints.checks.tenant_ancestry_self_row_iff_depth_zero
  constructor
  · rintro ⟨hne, row, hrow, rfl, rfl⟩
    obtain ⟨tenantId, ancestorId, depth⟩ := row
    obtain ⟨-, hclimb⟩ := (h tenantId ancestorId depth).mp hrow
    rcases hcheck _ hrow with ⟨heq, -⟩ | ⟨-, hpos⟩
    · exact absurd heq.symm hne
    · obtain ⟨d, rfl⟩ := Nat.exists_eq_succ_of_ne_zero (Nat.pos_iff_ne_zero.mp hpos)
      exact ⟨d, hclimb⟩
  · rintro ⟨d, hclimb⟩
    have hregistered : t ∈ db.tenants.map Tenant.id := by
      rw [climb_succ] at hclimb
      obtain ⟨p, hparent, -⟩ := Option.bind_eq_some_iff.mp hclimb
      exact Tables.registered_of_parentOf hparent
    have hrow := (h t a (d + 1)).mpr ⟨hregistered, hclimb⟩
    refine ⟨?_, _, hrow, rfl, rfl⟩
    rcases hcheck _ hrow with ⟨-, hzero⟩ | ⟨hne, -⟩
    · cases hzero
    · exact Ne.symm hne

/-- `can` equals its declarative policy: in every state whose ancestry table is the closure of the
parent pointers, at every instant, for every request. -/
theorem can_iff_policy (db : Database) (h : db.AncestryIsClosure) (now : Instant)
    (request : AccessRequest) : db.can now request = true ↔ db.Policy now request := by
  have habove : db.IsStrictAncestor = db.StrictlyAbove := by
    funext a t
    exact propext (db.isStrictAncestor_iff_strictlyAbove h)
  rw [db.can_iff_allowed, habove]
  exact Iff.rfl

end Database

namespace Tables

/-! ## A state whose ancestry table is the closure -/

lemma ancestryIsClosure_of_height {db : Tables} (height : ℕ)
    (hrows : ∀ row ∈ db.tenantAncestry, row.tenantId ∈ db.tenants.map Tenant.id ∧
      climb db.parentOf row.depth row.tenantId = some row.ancestorId)
    (hchains : ∀ t ∈ db.tenants.map Tenant.id, climb db.parentOf height t = none ∧
      ∀ d ∈ List.range height, ∀ a ∈ climb db.parentOf d t,
        (⟨t, a, d⟩ : TenantAncestry) ∈ db.tenantAncestry) :
    db.AncestryIsClosure := by
  intro t a d
  constructor
  · intro hrow
    exact hrows _ hrow
  · rintro ⟨ht, hclimb⟩
    obtain ⟨htop, hall⟩ := hchains t ht
    have hd : d < height := by
      by_contra hge
      obtain ⟨b, hb⟩ := exists_climb_of_le hclimb (not_lt.mp hge)
      rw [htop] at hb
      cases hb
    exact hall d (List.mem_range.mpr hd) a hclimb

end Tables

/-- A root tenant `1` with one child `2`. -/
def twoTierTables : Tables where
  tenants := [⟨1, "root", .active, none⟩, ⟨2, "child", .active, some 1⟩]
  tenantAncestry := [⟨1, 1, 0⟩, ⟨2, 2, 0⟩, ⟨2, 1, 1⟩]
  users := [⟨10, true⟩, ⟨11, true⟩]
  tenantMemberships :=
    [⟨100, 1, 10, .active, 0⟩, ⟨101, 1, 11, .active, 0⟩, ⟨102, 2, 10, .active, 0⟩,
      ⟨103, 2, 11, .active, 0⟩]
  serviceAccounts := [⟨20, 1, .active⟩]
  roles := [⟨200, 1, "owner"⟩, ⟨201, 1, "reader"⟩]
  permissions :=
    [⟨1, "membership_role", "create"⟩, ⟨2, "role_permission", "grant"⟩,
      ⟨3, "delegation_grant", "create"⟩, ⟨4, "service_account_role", "create"⟩,
      ⟨5, "deny_grant", "create"⟩, ⟨6, "membership", "suspend"⟩, ⟨7, "report", "read"⟩]
  rolePermissions :=
    [⟨300, 1, 200, 1⟩, ⟨301, 1, 200, 2⟩, ⟨302, 1, 200, 3⟩, ⟨303, 1, 200, 4⟩, ⟨304, 1, 200, 5⟩,
      ⟨305, 1, 200, 6⟩, ⟨306, 1, 200, 7⟩, ⟨307, 1, 201, 7⟩]
  membershipRoles := [⟨400, 1, 100, 200, .subtree⟩, ⟨401, 1, 101, 201, .self⟩]

def twoTierDatabase : Database := ⟨twoTierTables, by decide⟩

lemma twoTierDatabase_ancestryIsClosure : twoTierDatabase.AncestryIsClosure :=
  Tables.ancestryIsClosure_of_height 2 (by decide) (by decide)

/-- In the two-tier registry the owner of the root reads reports in the child, and so the policy
allows it. -/
theorem can_iff_policy_twoTier :
    twoTierDatabase.can 0 ⟨10, 2, "read", "report", .user, none, false⟩ = true ∧
      twoTierDatabase.Policy 0 ⟨10, 2, "read", "report", .user, none, false⟩ := by
  have hcan : twoTierDatabase.can 0 ⟨10, 2, "read", "report", .user, none, false⟩ = true := by
    decide
  exact ⟨hcan, (Database.can_iff_policy twoTierDatabase twoTierDatabase_ancestryIsClosure 0 _).mp
    hcan⟩

end SaasOs
