import SaasOs.Rbac.Service

/-!
# Handing out no more than one holds

An operation that hands permissions out asks whether the caller holds each of them through ordinary
membership roles, at least at the scope it hands them out at.  `HandsOut` collects what such an
operation does to the tables: it adds grants of some permissions at one tenant and one scope, all of
them held by the caller at that scope, and changes nothing else.
-/

namespace SaasOs

open ParentChain Rows

namespace Tables

/-! ## Holding a permission through roles -/

/-- The user holds `(resource, action)` over the tenant through a membership role: one at the tenant
itself, or one at an ancestor that reaches its subtree. -/
def HoldsThroughRoles (db : Tables) (userId tenantId : Uuid) (resource action : String) : Prop :=
  ∃ c s, Reaches db.IsStrictAncestor s c tenantId ∧ db.Accessible c ∧
    db.HoldsByMembership userId c s resource action

/-- The user holds `(resource, action)` over the tenant through a membership role that reaches at
least as far as the scope. -/
def HoldsAtScope (db : Tables) (userId tenantId : Uuid) (resource action : String) :
    RoleScope → Prop
  | .self => db.HoldsThroughRoles userId tenantId resource action
  | .subtree => ∃ c, (c = tenantId ∨ db.IsStrictAncestor c tenantId) ∧ db.Accessible c ∧
      db.HoldsByMembership userId c .subtree resource action

lemma HoldsAtScope.holdsThroughRoles {db : Tables} {userId tenantId : Uuid}
    {resource action : String} {s : RoleScope}
    (h : db.HoldsAtScope userId tenantId resource action s) :
    db.HoldsThroughRoles userId tenantId resource action := by
  cases s with
  | self => exact h
  | subtree =>
    obtain ⟨c, hc, hacc, hholds⟩ := h
    exact ⟨c, .subtree, hc.imp_right fun habove => ⟨habove, rfl⟩, hacc, hholds⟩

end Tables

namespace Database

variable (db : Database) {actorId tenantId : Uuid} {s : RoleScope}

lemma actorReachesTenantAtScope_iff {action resource : String} :
    (db.actorReachesTenantAtScope actorId tenantId action resource s).val = true ↔
      db.HoldsAtScope actorId tenantId resource action s := by
  have hancestor : (db.ancestorGrantsSubtreePermission tenantId actorId action resource).val =
      true ↔ ∃ c, db.IsStrictAncestor c tenantId ∧ db.Accessible c ∧
        db.HoldsByMembership actorId c .subtree resource action := by
    unfold Tables.ancestorGrantsSubtreePermission
    rw [LockedRead.val_bind, LockedRead.val_anyM, List.any_eq_true]
    constructor
    · rintro ⟨c, hc, hval⟩
      by_cases hct : c = tenantId
      · simp [hct] at hval
      · rw [if_neg hct] at hval
        obtain ⟨s', hs', hacc, hholds⟩ := db.tenantGrantsPermission_iff.mp hval
        obtain rfl : s' = .subtree := by simpa [ancestorTenantScopes] using hs'
        exact ⟨c, Tables.isStrictAncestor_iff_mem.mpr ⟨hct, hc⟩, hacc, hholds⟩
    · rintro ⟨c, habove, hacc, hholds⟩
      obtain ⟨hct, hc⟩ := Tables.isStrictAncestor_iff_mem.mp habove
      refine ⟨c, hc, ?_⟩
      rw [if_neg hct]
      exact db.tenantGrantsPermission_iff.mpr
        ⟨.subtree, by simp [ancestorTenantScopes], hacc, hholds⟩
  unfold Tables.actorReachesTenantAtScope
  simp only [LockedRead.val_bind, LockedRead.val_ite, LockedRead.val_pure]
  cases s with
  | self =>
    rw [if_pos rfl]
    by_cases htarget :
        (db.tenantGrantsPermission tenantId actorId action resource targetTenantScopes).val = true
    · rw [if_pos htarget]
      obtain ⟨s', -, hacc, hholds⟩ := db.tenantGrantsPermission_iff.mp htarget
      exact ⟨fun _ => ⟨tenantId, s', Or.inl rfl, hacc, hholds⟩, fun _ => rfl⟩
    · rw [if_neg htarget, hancestor]
      constructor
      · rintro ⟨c, habove, hacc, hholds⟩
        exact ⟨c, .subtree, Or.inr ⟨habove, rfl⟩, hacc, hholds⟩
      · rintro ⟨c, s', rfl | ⟨habove, rfl⟩, hacc, hholds⟩
        · refine absurd (db.tenantGrantsPermission_iff.mpr ⟨s', ?_, hacc, hholds⟩) htarget
          cases s' <;> simp [targetTenantScopes]
        · exact ⟨c, habove, hacc, hholds⟩
  | subtree =>
    rw [if_neg (show ¬ RoleScope.subtree = RoleScope.self by decide)]
    by_cases htarget :
        (db.tenantGrantsPermission tenantId actorId action resource ancestorTenantScopes).val = true
    · rw [if_pos htarget]
      obtain ⟨s', hs', hacc, hholds⟩ := db.tenantGrantsPermission_iff.mp htarget
      obtain rfl : s' = .subtree := by simpa [ancestorTenantScopes] using hs'
      exact ⟨fun _ => ⟨tenantId, Or.inl rfl, hacc, hholds⟩, fun _ => rfl⟩
    · rw [if_neg htarget, hancestor]
      constructor
      · rintro ⟨c, habove, hacc, hholds⟩
        exact ⟨c, Or.inr habove, hacc, hholds⟩
      · rintro ⟨c, rfl | habove, hacc, hholds⟩
        · exact absurd (db.tenantGrantsPermission_iff.mpr
            ⟨.subtree, by simp [ancestorTenantScopes], hacc, hholds⟩) htarget
        · exact ⟨c, habove, hacc, hholds⟩

lemma requireReach_ok {db : Database} {refusal : ServiceError}
    {permissions : List (String × String)}
    (h : (db.requireReach actorId tenantId s refusal permissions).result = .ok ()) :
    ∀ p ∈ permissions, db.HoldsAtScope actorId tenantId p.1 p.2 s := by
  induction permissions with
  | nil => simp
  | cons p permissions ih =>
    obtain ⟨resource, action⟩ := p
    simp only [Tables.requireReach, LockedExcept.result_bind, LockedExcept.result_read,
      LockedExcept.result_check, bind_eq_ok] at h
    obtain ⟨_, hreaches, ⟨⟩, hrequired, hrest⟩ := h
    cases hreaches
    intro q hq
    rcases List.mem_cons.mp hq with rfl | hq
    · exact db.actorReachesTenantAtScope_iff.mp (require_eq_ok.mp hrequired)
    · exact ih hrest q hq

lemma isStrictAncestor_trans (hclosure : db.AncestryIsClosure) {a b c : Uuid}
    (hab : db.IsStrictAncestor a b) (hbc : db.IsStrictAncestor b c) : db.IsStrictAncestor a c := by
  have hrow : ∀ x y, db.IsStrictAncestor x y → ∃ k, (⟨y, x, k⟩ : TenantAncestry) ∈
      db.tenantAncestry := by
    rintro x y ⟨-, ⟨_, _, k⟩, hmem, rfl, rfl⟩
    exact ⟨k, hmem⟩
  obtain ⟨m, hrowab⟩ := hrow a b hab
  obtain ⟨n, hrowbc⟩ := hrow b c hbc
  obtain ⟨-, hm⟩ := (hclosure b a m).mp hrowab
  obtain ⟨hregistered, hn⟩ := (hclosure c b n).mp hrowbc
  have hlong := (hclosure c a (n + m)).mpr ⟨hregistered, climb_trans hn hm⟩
  refine ⟨?_, _, hlong, rfl, rfl⟩
  rintro rfl
  -- a row from a tenant to itself has depth zero, so the first step was no step
  have hcheck := db.constraints.checks.tenant_ancestry_self_row_iff_depth_zero _ hlong
  have hzero : n + m = 0 := by
    rcases hcheck with ⟨-, hdepth⟩ | ⟨hdiff, -⟩
    · exact hdepth
    · exact absurd rfl hdiff
  have hmzero : m = 0 := by omega
  subst hmzero
  exact hab.1 (Option.some.inj hm).symm

end Database

namespace Tables

/-! ## Operations that hand out permissions -/

/-- From `db` to `db'` the user `u` hands out permissions at the tenant `t` and the scope `scope`:
nothing but grants is added, the user holds every permission handed out at that scope, and what
anybody gains is one of them, there. -/
structure HandsOut (db db' : Tables) (u t : Uuid) (scope : RoleScope)
    (handedOut : List (String × String)) : Prop where
  tenants : db'.tenants = db.tenants
  tenantAncestry : db'.tenantAncestry = db.tenantAncestry
  users : db'.users = db.users
  serviceAccounts : db'.serviceAccounts = db.serviceAccounts
  permissions : db'.permissions = db.permissions
  denyGrants : db'.denyGrants = db.denyGrants
  supportAccessRequests : db'.supportAccessRequests = db.supportAccessRequests
  held : ∀ p ∈ handedOut, db.HoldsAtScope u t p.1 p.2 scope
  role : ∀ v type c s resource action, db'.HoldsByRole v type c s resource action →
    db.HoldsByRole v type c s resource action ∨
      (c = t ∧ s = scope ∧ (resource, action) ∈ handedOut)
  delegation : ∀ now v type c s resource action ignoreExpiring,
    db'.HoldsByDelegation now v type c s resource action ignoreExpiring →
    db.HoldsByDelegation now v type c s resource action ignoreExpiring ∨
      (c = t ∧ s = scope ∧ (resource, action) ∈ handedOut)

namespace HandsOut

variable {db db' : Tables} {u t : Uuid} {scope : RoleScope} {handedOut : List (String × String)}

section

variable (h : HandsOut db db' u t scope handedOut)

include h

lemma hasStatus_iff {p : TenantStatus → Bool} {c : Uuid} :
    db'.HasStatus p c ↔ db.HasStatus p c := by
  unfold HasStatus
  rw [h.tenants]

lemma isStrictAncestor_iff {a d : Uuid} :
    db'.IsStrictAncestor a d ↔ db.IsStrictAncestor a d := by
  unfold IsStrictAncestor
  rw [h.tenantAncestry]

lemma allowed_or_gained {now : Instant} {request : AccessRequest}
    (hallowed : Allowed db'.IsStrictAncestor db' now request) :
    Allowed db.IsStrictAncestor db now request ∨
      (Reaches db.IsStrictAncestor scope t request.tenantId ∧
        (request.resource, request.action) ∈ handedOut) := by
  obtain ⟨hopen, hactor, hdeny, hholds⟩ := hallowed
  have hreaches : ∀ {s c}, Reaches db'.IsStrictAncestor s c request.tenantId →
      Reaches db.IsStrictAncestor s c request.tenantId := fun hreach =>
    hreach.congr fun _ => h.isStrictAncestor_iff.mp
  have hopen' : db.Open request.tenantId := h.hasStatus_iff.mp hopen
  have hactor' : db.ActorMayAct request := by
    unfold ActorMayAct at hactor ⊢
    rwa [h.users, h.serviceAccounts] at hactor
  have hdeny' : ¬ Denied db.IsStrictAncestor db request.actorId request.actorType request.tenantId
      request.resource request.action := by
    rintro ⟨c, s, hreach, hdenies⟩
    refine hdeny ⟨c, s, hreach.congr fun _ => h.isStrictAncestor_iff.mpr, ?_⟩
    unfold DeniesAt NamesPermission at hdenies ⊢
    rwa [h.denyGrants, h.permissions]
  rcases hholds with ⟨hacc, c, s, hreach, hacc', hheld⟩ | ⟨huser, hmay, c, s, hreach, hopen'', hsup⟩
  · have hgain : (db.HoldsByRole request.actorId request.actorType c s request.resource
        request.action ∨ db.HoldsByDelegation now request.actorId request.actorType c s
          request.resource request.action request.ignoreExpiringDelegations) ∨
        (c = t ∧ s = scope ∧ (request.resource, request.action) ∈ handedOut) := by
      rcases hheld with hrole | hdelegation
      · exact (h.role _ _ _ _ _ _ hrole).imp_left Or.inl
      · exact (h.delegation _ _ _ _ _ _ _ _ hdelegation).imp_left Or.inr
    rcases hgain with hold | ⟨rfl, rfl, hhanded⟩
    · refine Or.inl ⟨hopen', hactor', hdeny', Or.inl ⟨h.hasStatus_iff.mp hacc, c, s,
        hreaches hreach, h.hasStatus_iff.mp hacc', hold⟩⟩
    · exact Or.inr ⟨hreaches hreach, hhanded⟩
  · refine Or.inl ⟨hopen', hactor', hdeny', Or.inr ⟨huser, hmay, c, s, hreaches hreach,
      h.hasStatus_iff.mp hopen'', ?_⟩⟩
    unfold SupportedAt at hsup ⊢
    rwa [h.supportAccessRequests] at hsup

end

variable {resource action : String}

section

variable (h : HandsOut db db' u t scope handedOut)
  (htrans : ∀ a b c, db.IsStrictAncestor a b → db.IsStrictAncestor b c → db.IsStrictAncestor a c)

include h htrans

lemma holdsThroughRoles_of_reaches {d : Uuid} (hreach : Reaches db.IsStrictAncestor scope t d)
    (hhanded : (resource, action) ∈ handedOut) : db.HoldsThroughRoles u d resource action := by
  have hheld := h.held _ hhanded
  rcases hreach with rfl | ⟨habove, rfl⟩
  · exact hheld.holdsThroughRoles
  · obtain ⟨c, hc, hacc, hholds⟩ := hheld
    refine ⟨c, .subtree, Or.inr ⟨?_, rfl⟩, hacc, hholds⟩
    rcases hc with rfl | hc
    · exact habove
    · exact htrans c t d hc habove

lemma holdsThroughRoles_or {v d : Uuid} (hholds : db'.HoldsThroughRoles v d resource action) :
    db.HoldsThroughRoles v d resource action ∨ db.HoldsThroughRoles u d resource action := by
  obtain ⟨c, s, hreach, hacc, hheld⟩ := hholds
  have hreach' : Reaches db.IsStrictAncestor s c d :=
    hreach.congr fun _ => h.isStrictAncestor_iff.mp
  have hrole : db'.HoldsByRole v .user c s resource action := hheld
  rcases h.role _ _ _ _ _ _ hrole with hold | ⟨rfl, rfl, hhanded⟩
  · exact Or.inl ⟨c, s, hreach', h.hasStatus_iff.mp hacc, hold⟩
  · exact Or.inr (h.holdsThroughRoles_of_reaches htrans hreach' hhanded)

end

end HandsOut

/-! ## The rows that hand out -/

variable {resource action : String}

lemma mem_listRolePermissions {db : Tables} {tenantId roleId : Uuid} :
    (resource, action) ∈ db.listRolePermissions tenantId roleId ↔
      db.RoleGrants tenantId roleId resource action := by
  unfold listRolePermissions RoleGrants NamesPermission
  simp only [List.mem_flatMap, List.mem_filter, List.mem_map, Bool.and_eq_true, beq_iff_eq,
    Prod.mk.injEq]
  constructor
  · rintro ⟨grant, ⟨hgrant, ht, hr⟩, p, ⟨hp, hid⟩, hresource, haction⟩
    exact ⟨grant, hgrant, ht, hr, p, hp, hid, hresource, haction⟩
  · rintro ⟨grant, hgrant, ht, hr, p, hp, hid, hresource, haction⟩
    exact ⟨grant, ⟨hgrant, ht, hr⟩, p, ⟨hp, hid⟩, hresource, haction⟩

def permissionNames (db : Tables) (permissionId : Uuid) : List (String × String) :=
  (db.permissions.filter fun p => p.id == permissionId).map fun p => (p.resource, p.action)

lemma mem_permissionNames {db : Tables} {permissionId : Uuid} :
    (resource, action) ∈ db.permissionNames permissionId ↔
      db.NamesPermission permissionId resource action := by
  unfold permissionNames NamesPermission
  simp only [List.mem_map, List.mem_filter, beq_iff_eq, Prod.mk.injEq, and_assoc]

variable {db : Tables} {u : Uuid}

lemma handsOut_membershipRole (row : MembershipRole)
    (hheld : ∀ p ∈ db.listRolePermissions row.tenantId row.roleId,
      db.HoldsAtScope u row.tenantId p.1 p.2 row.scope) :
    HandsOut db { db with membershipRoles := db.membershipRoles ++ [row] } u row.tenantId row.scope
      (db.listRolePermissions row.tenantId row.roleId) := by
  refine ⟨rfl, rfl, rfl, rfl, rfl, rfl, rfl, hheld, ?_, fun _ _ _ _ _ _ _ _ => Or.inl⟩
  intro v type c s resource action hrole
  by_cases huser : type = .user
  · subst huser
    obtain ⟨m, hm, hc, hv, hactive, assignment, hassignment, hac, ham, hs, hgrants⟩ := hrole
    rcases List.mem_append.mp hassignment with hold | hnew
    · exact Or.inl ⟨m, hm, hc, hv, hactive, assignment, hold, hac, ham, hs, hgrants⟩
    · obtain rfl := List.mem_singleton.mp hnew
      subst hac
      exact Or.inr ⟨rfl, hs.symm, mem_listRolePermissions.mpr hgrants⟩
  · unfold HoldsByRole at hrole ⊢
    rw [if_neg huser] at hrole ⊢
    exact Or.inl hrole

lemma handsOut_serviceAccountRole (row : ServiceAccountRole)
    (hheld : ∀ p ∈ db.listRolePermissions row.tenantId row.roleId,
      db.HoldsAtScope u row.tenantId p.1 p.2 row.scope) :
    HandsOut db { db with serviceAccountRoles := db.serviceAccountRoles ++ [row] } u row.tenantId
      row.scope (db.listRolePermissions row.tenantId row.roleId) := by
  refine ⟨rfl, rfl, rfl, rfl, rfl, rfl, rfl, hheld, ?_, fun _ _ _ _ _ _ _ _ => Or.inl⟩
  intro v type c s resource action hrole
  unfold HoldsByRole at hrole ⊢
  split at hrole
  · next huser =>
    rw [if_pos huser]
    exact Or.inl hrole
  · next huser =>
    rw [if_neg huser]
    obtain ⟨assignment, hassignment, hac, hv, hs, hgrants⟩ := hrole
    rcases List.mem_append.mp hassignment with hold | hnew
    · exact Or.inl ⟨assignment, hold, hac, hv, hs, hgrants⟩
    · obtain rfl := List.mem_singleton.mp hnew
      subst hac
      exact Or.inr ⟨rfl, hs.symm, mem_listRolePermissions.mpr hgrants⟩

lemma handsOut_delegationGrant (row : DelegationGrant)
    (hheld : ∀ p ∈ db.permissionNames row.permissionId,
      db.HoldsAtScope u row.tenantId p.1 p.2 row.scopeMode) :
    HandsOut db { db with delegationGrants := db.delegationGrants ++ [row] } u row.tenantId
      row.scopeMode (db.permissionNames row.permissionId) := by
  refine ⟨rfl, rfl, rfl, rfl, rfl, rfl, rfl, hheld, fun _ _ _ _ _ _ => Or.inl, ?_⟩
  rintro now v type c s resource action ignoreExpiring
    ⟨hmember, grant, hgrant, hc, hty, hv, hs, hrevoked, hstarts, hexpires, hname⟩
  rcases List.mem_append.mp hgrant with hold | hnew
  · exact Or.inl ⟨hmember, grant, hold, hc, hty, hv, hs, hrevoked, hstarts, hexpires, hname⟩
  · obtain rfl := List.mem_singleton.mp hnew
    exact Or.inr ⟨hc.symm, hs.symm, mem_permissionNames.mpr hname⟩

end Tables

/-! ## Assignments and delegations -/

/-- A call by a user that assigns a role or creates a delegation, with its arguments. -/
inductive HandOutCall
  | assignRole (ids : NewIds) (tenantId membershipId roleId : Uuid) (scope : RoleScope)
  | assignServiceAccountRole (ids : NewIds) (tenantId serviceAccountId roleId : Uuid)
      (scope : RoleScope)
  | createDelegation (ids : NewIds) (delegateUserId : Uuid) (terms : Database.DelegationTerms)
  | createDelegationToServiceAccount (ids : NewIds) (serviceAccountId serviceAccountTenantId : Uuid)
      (terms : Database.DelegationTerms)

namespace HandOutCall

def perform (db : Database) (now : Instant) (userId : Uuid) : HandOutCall → Result Database
  | assignRole ids tenantId membershipId roleId scope =>
    db.assignRole now ids tenantId membershipId roleId scope (.user userId)
  | assignServiceAccountRole ids tenantId serviceAccountId roleId scope =>
    db.assignServiceAccountRole now ids tenantId serviceAccountId roleId scope (.user userId)
  | createDelegation ids delegateUserId terms =>
    db.createDelegation now ids delegateUserId terms (.user userId)
  | createDelegationToServiceAccount ids serviceAccountId serviceAccountTenantId terms =>
    db.createDelegationToServiceAccount now ids serviceAccountId serviceAccountTenantId terms
      (.user userId)

def tenantId : HandOutCall → Uuid
  | assignRole _ tenantId _ _ _ => tenantId
  | assignServiceAccountRole _ tenantId _ _ _ => tenantId
  | createDelegation _ _ terms => terms.tenantId
  | createDelegationToServiceAccount _ _ _ terms => terms.tenantId

def scope : HandOutCall → RoleScope
  | assignRole _ _ _ _ scope => scope
  | assignServiceAccountRole _ _ _ _ scope => scope
  | createDelegation _ _ terms => terms.scopeMode
  | createDelegationToServiceAccount _ _ _ terms => terms.scopeMode

/-- The permissions that the call hands out. -/
def handedOut (db : Tables) : HandOutCall → List (String × String)
  | assignRole _ tenantId _ roleId _ => db.listRolePermissions tenantId roleId
  | assignServiceAccountRole _ tenantId _ roleId _ => db.listRolePermissions tenantId roleId
  | createDelegation _ _ terms => db.permissionNames terms.permissionId
  | createDelegationToServiceAccount _ _ _ terms => db.permissionNames terms.permissionId

def capability : HandOutCall → String
  | assignRole .. => "membership_role"
  | assignServiceAccountRole .. => "service_account_role"
  | createDelegation .. => "delegation_grant"
  | createDelegationToServiceAccount .. => "delegation_grant"

end HandOutCall

namespace Database

lemma getPermissionById_ok {db : Tables} {permissionId : Uuid} {permission : Permission}
    (h : db.getPermissionById permissionId = .ok permission) :
    permission ∈ db.permissions ∧ permission.id = permissionId := by
  unfold Tables.getPermissionById at h
  cases hfind : db.permissions.find? fun row => row.id == permissionId with
  | none =>
    rw [hfind] at h
    cases h
  | some row =>
    rw [hfind] at h
    cases h
    exact ⟨List.mem_of_find?_eq_some hfind, by simpa using List.find?_some hfind⟩

lemma insertDelegation_ok {db db' : Database} {now : Instant} {ids : NewIds} {userId : Uuid}
    {delegateType : PrincipalType} {delegateUserId delegateServiceAccountId : Option Uuid}
    {terms : DelegationTerms}
    (h : db.insertDelegation now ids userId delegateType delegateUserId delegateServiceAccountId
      terms = .ok db') :
    db.can now ⟨userId, terms.tenantId, "create", "delegation_grant", .user, none, false⟩ = true ∧
    Tables.HandsOut db.toTables db'.toTables userId terms.tenantId terms.scopeMode
      (db.permissionNames terms.permissionId) := by
  unfold insertDelegation at h
  simp only [bind_eq_ok] at h
  obtain ⟨permission, hpermission, ⟨⟩, -, session, hsession, ⟨⟩, hreach, hflush⟩ := h
  obtain ⟨rfl, hcan⟩ := registerAndDecide_ok (by simp [authorityResources]) hsession
  refine ⟨hcan, ?_⟩
  rw [flush_ok hflush]
  refine Tables.handsOut_delegationGrant _ ?_
  intro p hp
  -- the catalog names the permission once, so it is the one that was checked
  obtain ⟨q, hq, rfl⟩ := List.mem_map.mp hp
  obtain ⟨hq, hid⟩ := List.mem_filter.mp hq
  obtain ⟨hmem, hpid⟩ := getPermissionById_ok hpermission
  have heq : q = permission := session.constraints.unique.permissions_pk.eq_of_key_eq hq hmem
    ((beq_iff_eq.mp hid).trans hpid.symm)
  subst heq
  exact requireReach_ok hreach _ (List.mem_singleton.mpr rfl)

end Database

lemma HandOutCall.perform_ok {db db' : Database} {now : Instant} {userId : Uuid}
    {call : HandOutCall} (h : call.perform db now userId = .ok db') :
    db.can now ⟨userId, call.tenantId, "create", call.capability, .user, none, false⟩ = true ∧
    Tables.HandsOut db.toTables db'.toTables userId call.tenantId call.scope
      (call.handedOut db.toTables) := by
  cases call with
  | assignRole ids tenantId membershipId roleId scope =>
    simp only [perform, Database.assignRole, requireUserCaller, bind_eq_ok] at h
    obtain ⟨_, huser, _, -, session, hsession, ⟨⟩, hreach, hflush⟩ := h
    cases huser
    obtain ⟨rfl, hcan⟩ := Database.registerAndDecide_ok (by simp [authorityResources]) hsession
    refine ⟨hcan, ?_⟩
    rw [flush_ok hflush]
    exact Tables.handsOut_membershipRole ⟨ids.row, tenantId, membershipId, roleId, scope⟩
      (Database.requireReach_ok hreach)
  | assignServiceAccountRole ids tenantId serviceAccountId roleId scope =>
    simp only [perform, Database.assignServiceAccountRole, requireUserCaller, bind_eq_ok] at h
    obtain ⟨_, huser, _, -, ⟨⟩, -, ⟨⟩, -, session, hsession, ⟨⟩, hreach, hflush⟩ := h
    cases huser
    obtain ⟨rfl, hcan⟩ := Database.registerAndDecide_ok (by simp [authorityResources]) hsession
    refine ⟨hcan, ?_⟩
    rw [flush_ok hflush]
    exact Tables.handsOut_serviceAccountRole ⟨ids.row, tenantId, serviceAccountId, roleId, scope⟩
      (Database.requireReach_ok hreach)
  | createDelegation ids delegateUserId terms =>
    simp only [perform, Database.createDelegation, requireUserCaller, bind_eq_ok] at h
    obtain ⟨_, huser, _, -, ⟨⟩, -, ⟨⟩, -, hinsert⟩ := h
    cases huser
    exact Database.insertDelegation_ok hinsert
  | createDelegationToServiceAccount ids serviceAccountId serviceAccountTenantId terms =>
    simp only [perform, Database.createDelegationToServiceAccount, requireUserCaller,
      bind_eq_ok] at h
    obtain ⟨_, huser, _, -, ⟨⟩, -, ⟨⟩, -, hinsert⟩ := h
    cases huser
    have hdelegated := Database.insertDelegation_ok hinsert
    exact hdelegated

/-- One call in a chain: who makes it, and when. -/
structure HandOut where
  now : Instant
  userId : Uuid
  call : HandOutCall

def HandOut.commit (db : Database) (handOut : HandOut) : Database :=
  match handOut.call.perform db handOut.now handOut.userId with
  | .ok db' => db'
  | .error _ => db

namespace Database

variable {db db' : Database} {u t : Uuid} {scope : RoleScope} {handedOut : List (String × String)}

section

variable (hclosure : db.AncestryIsClosure)
  (h : Tables.HandsOut db.toTables db'.toTables u t scope handedOut)

include hclosure h

lemma holdsThroughRoles_of_gained {now : Instant} {request : AccessRequest}
    (hbefore : db.can now request = false) (hafter : db'.can now request = true) :
    db.HoldsThroughRoles u request.tenantId request.resource request.action := by
  have hnot : ¬ Tables.Allowed db.IsStrictAncestor db.toTables now request := by
    rw [← db.can_iff_allowed, hbefore]
    exact Bool.false_ne_true
  obtain ⟨hreach, hhanded⟩ := (h.allowed_or_gained (db'.can_iff_allowed.mp hafter)).resolve_left hnot
  exact h.holdsThroughRoles_of_reaches (fun a b c => db.isStrictAncestor_trans hclosure) hreach
    hhanded

lemma ancestryIsClosure_of_handsOut :
    db'.AncestryIsClosure := by
  have hparent : db'.parentOf = db.parentOf := by
    funext a
    unfold Tables.parentOf Tables.tenant?
    rw [h.tenants]
  intro a b d
  rw [h.tenantAncestry, h.tenants, hparent]
  exact hclosure a b d

end

/-- No privilege amplification through assignments and delegations. -/
theorem handOut_no_amplification (db : Database) (hclosure : db.AncestryIsClosure) :
    (∀ (now : Instant) (u : Uuid) (call : HandOutCall) (db' : Database),
      call.perform db now u = .ok db' →
      ∀ (t : Instant) (request : AccessRequest), db.can t request = false →
        db'.can t request = true →
        db.HoldsThroughRoles u request.tenantId request.resource request.action) ∧
    ∀ (chain : List HandOut) (t : Instant) (request : AccessRequest), db.can t request = false →
      (chain.foldl HandOut.commit db).can t request = true →
      ∃ handOut ∈ chain,
        db.HoldsThroughRoles handOut.userId request.tenantId request.resource request.action := by
  refine ⟨?_, ?_⟩
  · intro now u call db' h t request hbefore hafter
    exact holdsThroughRoles_of_gained hclosure (HandOutCall.perform_ok h).2 hbefore hafter
  · intro chain t request hbefore hafter
    -- along the chain: at each step either the answer flips, or the step may have made a later
    -- caller a holder, and then its own caller was one before
    induction chain generalizing db with
    | nil =>
      rw [List.foldl_nil, hbefore] at hafter
      cases hafter
    | cons handOut chain ih =>
      rw [List.foldl_cons] at hafter
      cases hcall : handOut.call.perform db handOut.now handOut.userId with
      | error e =>
        have hsame : handOut.commit db = db := by
          unfold HandOut.commit
          rw [hcall]
        rw [hsame] at hafter
        obtain ⟨caller, hcaller, hholds⟩ := ih db hclosure hbefore hafter
        exact ⟨caller, List.mem_cons_of_mem _ hcaller, hholds⟩
      | ok db₁ =>
        have hnext : handOut.commit db = db₁ := by
          unfold HandOut.commit
          rw [hcall]
        rw [hnext] at hafter
        have hhands := (HandOutCall.perform_ok hcall).2
        by_cases hflip : db₁.can t request = true
        · exact ⟨handOut, List.mem_cons_self,
            holdsThroughRoles_of_gained hclosure hhands hbefore hflip⟩
        · obtain ⟨caller, hcaller, hholds⟩ := ih db₁ (ancestryIsClosure_of_handsOut hclosure hhands)
            (Bool.eq_false_iff.mpr hflip) hafter
          have htrans := fun a b c => db.isStrictAncestor_trans hclosure (a := a) (b := b) (c := c)
          rcases hhands.holdsThroughRoles_or htrans hholds with hcallerHeld | hheld
          · exact ⟨caller, List.mem_cons_of_mem _ hcaller, hcallerHeld⟩
          · exact ⟨handOut, List.mem_cons_self, hheld⟩

/-- In the two-tier registry the owner of the root delegates the reading of reports to the reader
over the whole subtree; the reader can then read in the child, where the owner held the
permission. -/
theorem handOut_no_amplification_twoTier :
    twoTierDatabase.can 3 ⟨11, 2, "read", "report", .user, none, false⟩ = false ∧
    ([⟨0, 10, .createDelegation ⟨900, 901⟩ 11 ⟨1, .subtree, 7, none, none, false⟩⟩].foldl
      HandOut.commit twoTierDatabase).can 3 ⟨11, 2, "read", "report", .user, none, false⟩ = true ∧
    twoTierDatabase.HoldsThroughRoles 10 2 "report" "read" := by
  have hbefore : twoTierDatabase.can 3 ⟨11, 2, "read", "report", .user, none, false⟩ = false := by
    decide
  have hafter :
      ([⟨0, 10, .createDelegation ⟨900, 901⟩ 11 ⟨1, .subtree, 7, none, none, false⟩⟩].foldl
        HandOut.commit twoTierDatabase).can 3 ⟨11, 2, "read", "report", .user, none, false⟩ =
          true := by
    decide
  obtain ⟨handOut, hmem, hholds⟩ := (handOut_no_amplification twoTierDatabase
    twoTierDatabase_ancestryIsClosure).2 _ 3 _ hbefore hafter
  obtain rfl := List.mem_singleton.mp hmem
  exact ⟨hbefore, hafter, hholds⟩

/-! ## Denied hands -/

/-- When a call succeeds, the caller is allowed what it hands out at the tenant exactly as far as no
deny names the caller there. -/
theorem handedOut_allowed_iff_not_denied (db db' : Database) (now : Instant) (u : Uuid)
    (call : HandOutCall) (h : call.perform db now u = .ok db') :
    (∀ p ∈ call.handedOut db.toTables,
      db.can now ⟨u, call.tenantId, p.2, p.1, .user, none, false⟩ = true) ↔
    ∀ p ∈ call.handedOut db.toTables,
      ¬ Tables.Denied db.IsStrictAncestor db.toTables u .user call.tenantId p.1 p.2 := by
  obtain ⟨hcapability, hhands⟩ := HandOutCall.perform_ok h
  obtain ⟨hopen, hactor, -, hprincipal⟩ := db.can_iff_allowed.mp hcapability
  -- the capability is an authority resource: the tenant admits its principals
  have haccessible : db.Accessible call.tenantId := by
    rcases hprincipal with ⟨hacc, -⟩ | ⟨-, hmay, -⟩
    · exact hacc
    · refine absurd ?_ hmay.1
      cases call <;> simp [HandOutCall.capability, authorityResources]
  constructor
  · intro hallowed p hp
    exact (db.can_iff_allowed.mp (hallowed p hp)).2.2.1
  · intro hnot p hp
    obtain ⟨c, s, hreach, hacc, hheld⟩ := (hhands.held p hp).holdsThroughRoles
    refine db.can_iff_allowed.mpr ⟨hopen, hactor, hnot p hp, Or.inl ⟨haccessible, ?_⟩⟩
    exact ⟨c, s, hreach, hacc, Or.inl hheld⟩

def deniedOwnerDatabase : Database where
  toTables := { twoTierTables with
    denyGrants := [⟨500, 1, .user, some 10, none, .self, 7, none⟩] }
  constraints := by decide

/-- The denied owner still delegates the reading of reports to the reader. -/
theorem handedOut_not_allowed_deniedOwner :
    ¬ ∀ (db db' : Database) (now : Instant) (u : Uuid) (call : HandOutCall),
      call.perform db now u = .ok db' → ∀ p ∈ call.handedOut db.toTables,
        db.can now ⟨u, call.tenantId, p.2, p.1, .user, none, false⟩ = true := by
  intro hclaim
  obtain ⟨db', hdelegated⟩ := exists_eq_ok_of_isOk (x := HandOutCall.perform deniedOwnerDatabase 0 10
    (.createDelegation ⟨900, 901⟩ 11 ⟨1, .self, 7, none, none, false⟩)) (by decide)
  have hcan := hclaim deniedOwnerDatabase db' 0 10 _ hdelegated ("report", "read") (by decide)
  have hdenied : deniedOwnerDatabase.can 0 ⟨10, 1, "read", "report", .user, none, false⟩ = false := by
    decide
  exact Bool.false_ne_true (hdenied.symm.trans hcan)

/-- Without the deny the owner is allowed what is delegated. -/
theorem handedOut_allowed_twoTier :
    (HandOutCall.perform twoTierDatabase 0 10
      (.createDelegation ⟨900, 901⟩ 11 ⟨1, .self, 7, none, none, false⟩)).isOk = true ∧
    ∀ p ∈ HandOutCall.handedOut twoTierTables
        (.createDelegation ⟨900, 901⟩ 11 ⟨1, .self, 7, none, none, false⟩),
      twoTierDatabase.can 0 ⟨10, 1, p.2, p.1, .user, none, false⟩ = true := by
  have hok : (HandOutCall.perform twoTierDatabase 0 10
      (.createDelegation ⟨900, 901⟩ 11 ⟨1, .self, 7, none, none, false⟩)).isOk = true := by decide
  obtain ⟨db', hdelegated⟩ := exists_eq_ok_of_isOk hok
  refine ⟨hok, (handedOut_allowed_iff_not_denied twoTierDatabase db' 0 10 _ hdelegated).mpr ?_⟩
  rintro p - ⟨c, s, -, deny, hdeny, -⟩
  cases hdeny

end Database

/-! ## Granting a permission to a role -/

namespace Tables

/-- The actor holds the role at the tenant at the scope: through an active membership, or as a
service account. -/
def HoldsRole (db : Tables) (actorId : Uuid) (actorType : PrincipalType) (tenantId roleId : Uuid)
    (s : RoleScope) : Prop :=
  if actorType = .user then
    ∃ m ∈ db.tenantMemberships, m.tenantId = tenantId ∧ m.userId = actorId ∧ m.status = .active ∧
      ∃ assignment ∈ db.membershipRoles, assignment.tenantId = tenantId ∧
        assignment.membershipId = m.id ∧ assignment.scope = s ∧ assignment.roleId = roleId
  else
    ∃ assignment ∈ db.serviceAccountRoles, assignment.tenantId = tenantId ∧
      assignment.serviceAccountId = actorId ∧ assignment.scope = s ∧ assignment.roleId = roleId

/-- The principal of the request stands to gain at a strict descendant of the tenant from what the
role is granted: it holds the role over the subtree of the tenant, both tenants admit their
principals, the principal may act and is not denied, and it is not allowed the request yet. -/
def StandsToGain (db : Tables) (now : Instant) (tenantId roleId : Uuid) (request : AccessRequest) :
    Prop :=
  db.IsStrictAncestor tenantId request.tenantId ∧
  db.HoldsRole request.actorId request.actorType tenantId roleId .subtree ∧
  db.Accessible tenantId ∧ db.Accessible request.tenantId ∧ db.ActorMayAct request ∧
  ¬ Denied db.IsStrictAncestor db request.actorId request.actorType request.tenantId
    request.resource request.action ∧
  db.can now request = false

variable {db : Tables} {actorId : Uuid} {actorType : PrincipalType} {s : RoleScope}
   {resource action : String}

lemma HoldsRole.holdsByRole {tenantId roleId : Uuid}
    (h : db.HoldsRole actorId actorType tenantId roleId s)
    (hgrants : db.RoleGrants tenantId roleId resource action) :
    db.HoldsByRole actorId actorType tenantId s resource action := by
  unfold HoldsRole at h
  unfold HoldsByRole
  split at h
  · next huser =>
    rw [if_pos huser]
    obtain ⟨m, hm, ht, hu, hactive, assignment, hassignment, hat, ham, hs, rfl⟩ := h
    exact ⟨m, hm, ht, hu, hactive, assignment, hassignment, hat, ham, hs, hgrants⟩
  · next huser =>
    rw [if_neg huser]
    obtain ⟨assignment, hassignment, hat, haa, hs, rfl⟩ := h
    exact ⟨assignment, hassignment, hat, haa, hs, hgrants⟩

lemma holdsByRole_or_holdsRole (row : RolePermission) {c : Uuid}
    (h : HoldsByRole { db with rolePermissions := db.rolePermissions ++ [row] } actorId actorType c s
      resource action) :
    db.HoldsByRole actorId actorType c s resource action ∨
      (c = row.tenantId ∧ db.HoldsRole actorId actorType c row.roleId s) := by
  have hgrants : ∀ roleId,
      RoleGrants { db with rolePermissions := db.rolePermissions ++ [row] } c roleId resource
        action → db.RoleGrants c roleId resource action ∨ (c = row.tenantId ∧ roleId = row.roleId) := by
    rintro roleId ⟨grant, hgrant, ht, hr, hname⟩
    rcases List.mem_append.mp hgrant with hold | hnew
    · exact Or.inl ⟨grant, hold, ht, hr, hname⟩
    · obtain rfl := List.mem_singleton.mp hnew
      exact Or.inr ⟨ht.symm, hr.symm⟩
  unfold HoldsByRole at h ⊢
  unfold HoldsRole
  split at h
  · next huser =>
    rw [if_pos huser, if_pos huser]
    obtain ⟨m, hm, ht, hu, hactive, assignment, hassignment, hat, ham, hs, hrole⟩ := h
    rcases hgrants _ hrole with hold | ⟨hc, hr⟩
    · exact Or.inl ⟨m, hm, ht, hu, hactive, assignment, hassignment, hat, ham, hs, hold⟩
    · exact Or.inr ⟨hc, m, hm, ht, hu, hactive, assignment, hassignment, hat, ham, hs, hr⟩
  · next huser =>
    rw [if_neg huser, if_neg huser]
    obtain ⟨assignment, hassignment, hat, haa, hs, hrole⟩ := h
    rcases hgrants _ hrole with hold | ⟨hc, hr⟩
    · exact Or.inl ⟨assignment, hassignment, hat, haa, hs, hold⟩
    · exact Or.inr ⟨hc, assignment, hassignment, hat, haa, hs, hr⟩

lemma Accessible.open {t : Uuid} (h : db.Accessible t) : db.Open t := by
  obtain ⟨tenant, htenant, hid, hstatus⟩ := h
  have hopen := TenantStatus.not_isClosed_of_isAccessibleToPrincipals hstatus
  exact ⟨tenant, htenant, hid, by simp [hopen]⟩

end Tables

namespace Database

lemma grantPermission_ok {db db' : Database} {now : Instant} {ids : NewIds}
    {tenantId roleId permissionId u : Uuid}
    (h : db.grantPermission now ids tenantId roleId permissionId (.user u) = .ok db') :
    (∀ resource action, db.NamesPermission permissionId resource action →
      db.HoldsThroughRoles u tenantId resource action) ∧
    db'.toTables = { db.toTables with
      rolePermissions := db.rolePermissions ++ [⟨ids.row, tenantId, roleId, permissionId⟩] } := by
  unfold grantPermission at h
  simp only [bind_eq_ok] at h
  obtain ⟨_, -, permission, hpermission, session, hsession, ⟨⟩, hreach, hflush⟩ := h
  obtain ⟨rfl, -⟩ := authorizeCaller_ok (by decide) hsession
  refine ⟨?_, flush_ok hflush⟩
  rintro resource action ⟨q, hq, hid, rfl, rfl⟩
  obtain ⟨hmem, hpid⟩ := getPermissionById_ok hpermission
  obtain rfl : q = permission := session.constraints.unique.permissions_pk.eq_of_key_eq hq hmem
    (hid.trans hpid.symm)
  exact requireReach_ok hreach (q.resource, q.action) (List.mem_singleton.mpr rfl)

/-- Granting a permission to a role amplifies nothing exactly when the caller holds the permission
at every descendant at which a principal stands to gain it.  The check asks for the caller's
authority at the tenant itself only. -/
theorem grantPermission_no_amplification_iff (db db' : Database) (now : Instant) (ids : NewIds)
    (tenantId roleId permissionId u : Uuid)
    (h : db.grantPermission now ids tenantId roleId permissionId (.user u) = .ok db') :
    (∀ (t : Instant) (request : AccessRequest),
      db.NamesPermission permissionId request.resource request.action →
      db.can t request = false → db'.can t request = true →
      db.HoldsThroughRoles u request.tenantId request.resource request.action) ↔
    ∀ (t : Instant) (request : AccessRequest),
      db.NamesPermission permissionId request.resource request.action →
      db.StandsToGain t tenantId roleId request →
      db.HoldsThroughRoles u request.tenantId request.resource request.action := by
  obtain ⟨hheld, hdb'⟩ := grantPermission_ok h
  constructor
  · intro hclaim t request hname hgain
    obtain ⟨habove, hrole, haccT, hacc, hactor, hdeny, hbefore⟩ := hgain
    refine hclaim t request hname hbefore (db'.can_iff_allowed.mpr ?_)
    rw [hdb']
    refine ⟨hacc.open, hactor, hdeny, Or.inl ⟨hacc, tenantId, .subtree, Or.inr ⟨habove, rfl⟩, haccT,
      Or.inl ?_⟩⟩
    have hrole' : Tables.HoldsRole { db.toTables with
        rolePermissions := db.rolePermissions ++ [⟨ids.row, tenantId, roleId, permissionId⟩] }
        request.actorId request.actorType tenantId roleId .subtree := hrole
    exact hrole'.holdsByRole ⟨⟨ids.row, tenantId, roleId, permissionId⟩, by simp, rfl, rfl, hname⟩
  · intro hcondition t request hname hbefore hafter
    have hnot : ¬ Tables.Allowed db.IsStrictAncestor db.toTables t request := by
      rw [← db.can_iff_allowed, hbefore]
      exact Bool.false_ne_true
    have hallowed := db'.can_iff_allowed.mp hafter
    rw [hdb'] at hallowed
    obtain ⟨hopen, hactor, hdeny, ⟨hacc, c, s, hreach, haccC, hrole | hdelegation⟩ | hsupport⟩ :=
      hallowed
    · rcases Tables.holdsByRole_or_holdsRole _ hrole with hold | ⟨rfl, hholder⟩
      · exact absurd ⟨hopen, hactor, hdeny, Or.inl ⟨hacc, c, s, hreach, haccC, Or.inl hold⟩⟩ hnot
      · rcases hreach with hsame | ⟨habove, rfl⟩
        · rw [← hsame]
          exact hheld _ _ hname
        · exact hcondition t request hname
            ⟨habove, hholder, haccC, hacc, hactor, hdeny, hbefore⟩
    · exact absurd ⟨hopen, hactor, hdeny, Or.inl ⟨hacc, c, s, hreach, haccC,
        Or.inr hdelegation⟩⟩ hnot
    · exact absurd ⟨hopen, hactor, hdeny, Or.inr hsupport⟩ hnot

/-- The two-tier registry with the owner's role narrowed to the root itself, and the reader's role,
which grants nothing yet, assigned over the subtree. -/
def narrowOwnerDatabase : Database where
  toTables := { twoTierTables with
    rolePermissions := twoTierTables.rolePermissions.filter fun row => row.roleId != 201
    membershipRoles := [⟨400, 1, 100, 200, .self⟩, ⟨401, 1, 101, 201, .subtree⟩] }
  constraints := by decide

/-- The owner of the root, whose role reaches no descendant, grants the reading of reports to the
reader's role, and the reader can then read in the child. -/
theorem grantPermission_amplifies_narrowOwner :
    ¬ ∀ (db db' : Database) (now : Instant) (ids : NewIds) (tenantId roleId permissionId u : Uuid),
      db.grantPermission now ids tenantId roleId permissionId (.user u) = .ok db' →
      ∀ (t : Instant) (request : AccessRequest),
        db.NamesPermission permissionId request.resource request.action →
        db.can t request = false → db'.can t request = true →
        db.HoldsThroughRoles u request.tenantId request.resource request.action := by
  intro hclaim
  obtain ⟨db', hgranted⟩ := exists_eq_ok_of_isOk
    (x := narrowOwnerDatabase.grantPermission 0 ⟨900, 901⟩ 1 201 7 (.user 10)) (by decide)
  have hbefore : narrowOwnerDatabase.can 0 ⟨11, 2, "read", "report", .user, none, false⟩ = false := by
    decide
  have hgained : (narrowOwnerDatabase.grantPermission 0 ⟨900, 901⟩ 1 201 7 (.user 10)).toOption.any
      (fun db => db.can 0 ⟨11, 2, "read", "report", .user, none, false⟩) = true := by
    decide
  have hafter : db'.can 0 ⟨11, 2, "read", "report", .user, none, false⟩ = true := by
    rw [hgranted] at hgained
    exact hgained
  have hname : narrowOwnerDatabase.NamesPermission 7 "report" "read" :=
    ⟨⟨7, "report", "read"⟩, by decide, rfl, rfl, rfl⟩
  have hholds := hclaim _ db' 0 _ 1 201 7 10 hgranted 0 _ hname hbefore hafter
  have hreach : (narrowOwnerDatabase.actorReachesTenantAtScope 10 2 "read" "report" .self).val =
      true := narrowOwnerDatabase.actorReachesTenantAtScope_iff.mpr hholds
  have hnot : (narrowOwnerDatabase.actorReachesTenantAtScope 10 2 "read" "report" .self).val =
      false := by
    decide
  exact Bool.false_ne_true (hnot.symm.trans hreach)

/-- In the two-tier registry nobody holds the reader's role over the subtree, so that granting it a
further permission amplifies nothing. -/
theorem grantPermission_no_amplification_twoTier :
    (twoTierDatabase.grantPermission 0 ⟨900, 901⟩ 1 201 6 (.user 10)).isOk = true ∧
    ∀ db', twoTierDatabase.grantPermission 0 ⟨900, 901⟩ 1 201 6 (.user 10) = .ok db' →
      ∀ (t : Instant) (request : AccessRequest),
        twoTierDatabase.NamesPermission 6 request.resource request.action →
        twoTierDatabase.can t request = false → db'.can t request = true →
        twoTierDatabase.HoldsThroughRoles 10 request.tenantId request.resource request.action := by
  refine ⟨by decide, ?_⟩
  intro db' hgranted
  refine (grantPermission_no_amplification_iff twoTierDatabase db' 0 _ 1 201 6 10 hgranted).mpr ?_
  rintro t request - ⟨-, hrole, -⟩
  have hself : ∀ assignment ∈ twoTierDatabase.membershipRoles, assignment.roleId = 201 →
      assignment.scope = .self := by
    decide
  unfold Tables.HoldsRole at hrole
  split at hrole
  · obtain ⟨m, -, -, -, -, assignment, hassignment, -, -, hs, hr⟩ := hrole
    rw [hself assignment hassignment hr] at hs
    cases hs
  · obtain ⟨assignment, hassignment, -⟩ := hrole
    cases hassignment

end Database

end SaasOs
