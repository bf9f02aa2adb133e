import SaasOs.Tenancy.Closure
import SaasOs.Tenancy.Lifecycle
import SaasOs.Identity.Service
import SaasOs.Identity.UserAuthority

/-!
# No operation removes a tenant's last administrator

Nine operations can take authority away: the six guarded row changes, the deactivation of a user,
the move of a tenant and a status transition.  Each guards some tenants and verifies that none of
them lost its last administrator.  A tenant that the guard does not look at keeps every
administrator it had.
-/

namespace SaasOs

open ParentChain Rows

namespace Tables

/-! ## Changes of the hierarchy and of users -/

/-- The two states store the same memberships, roles, delegations, denies and permissions. -/
structure SameGrants (db db' : Tables) : Prop where
  tenantMemberships : db'.tenantMemberships = db.tenantMemberships
  membershipRoles : db'.membershipRoles = db.membershipRoles
  rolePermissions : db'.rolePermissions = db.rolePermissions
  permissions : db'.permissions = db.permissions
  delegationGrants : db'.delegationGrants = db.delegationGrants
  denyGrants : db'.denyGrants = db.denyGrants

variable {now now' : Instant} {d u : Uuid}

lemma SameGrants.administers {db db' : Tables} (h : SameGrants db db') (hle : now ≤ now')
    (hadmin : db.Administers now d u)
    (huser : ∀ row ∈ db.users, row.id = u → row.isActive = true → row ∈ db'.users)
    (habove : ∀ a, db.IsStrictAncestor a d ↔ db'.IsStrictAncestor a d)
    (haccessible : ∀ c, c = d ∨ db.IsStrictAncestor c d → db.Accessible c → db'.Accessible c)
    (hopen : db.Open d → db'.Open d) : db'.Administers now' d u := by
  obtain ⟨hmember, hallowed⟩ := hadmin
  have hmembers : ∀ p c v, db'.MemberWith p c v ↔ db.MemberWith p c v := by
    intro p c v
    unfold MemberWith
    rw [h.tenantMemberships]
  have hnames : ∀ permissionId resource action,
      db'.NamesPermission permissionId resource action ↔
        db.NamesPermission permissionId resource action := by
    intro permissionId resource action
    unfold NamesPermission
    rw [h.permissions]
  refine ⟨(hmembers _ d u).mpr hmember, hallowed.carries habove hopen ?_ ?_⟩
  · rintro (⟨hty, row, hrow, hid, hactive⟩ | ⟨hty, -⟩)
    · exact Or.inl ⟨hty, row, huser row hrow hid hactive, hid, hactive⟩
    · cases hty
  · intro c hc
    refine ⟨haccessible c hc, ?_, ?_, ?_, ?_⟩
    · intro s hrole
      have hheld : db.HoldsByMembership u c s "membership_role" "create" := hrole
      change db'.HoldsByMembership u c s "membership_role" "create"
      unfold HoldsByMembership RoleGrants at hheld ⊢
      simpa only [h.tenantMemberships, h.membershipRoles, h.rolePermissions, hnames] using hheld
    · intro s hdelegation
      have hheld : db.HoldsByDelegation now' u .user c s "membership_role" "create" true :=
        HoldsByDelegation.mono hle hdelegation
      change db'.HoldsByDelegation now' u .user c s "membership_role" "create" true
      unfold HoldsByDelegation at hheld ⊢
      simpa only [hmembers, h.delegationGrants, hnames] using hheld
    · intro s hdeny
      unfold DeniesAt at hdeny ⊢
      simpa only [h.denyGrants, hnames] using hdeny
    · intro hmay
      exact absurd hmay (not_supportMaySatisfy_administratorRequest d u)

lemma Administers.mono {db : Tables} (hle : now ≤ now') (h : db.Administers now d u) :
    db.Administers now' d u :=
  SameGrants.administers ⟨rfl, rfl, rfl, rfl, rfl, rfl⟩ hle h (fun _ hrow _ _ => hrow)
    (fun _ => Iff.rfl) (fun _ _ => id) id

end Tables

namespace Database

variable {now : Instant} {d : Uuid}

lemma hasAdministrator_iff (db : Database) :
    db.HasAdministrator now d ↔ ∃ u, db.Administers now d u :=
  exists_congr fun _ => db.administrator_iff

lemma hasAdministrator_mono (db : Database) {now now' : Instant} (hle : now ≤ now')
    (h : db.HasAdministrator now d) : db.HasAdministrator now' d := by
  obtain ⟨u, hadmin⟩ := db.hasAdministrator_iff.mp h
  exact db.hasAdministrator_iff.mpr ⟨u, hadmin.mono hle⟩

variable {db db' : Database} {t₀ t₁ : Instant}

/-- The common argument: a guarded tenant is verified, and in a tenant that is not guarded every
administrator keeps the office. -/
lemma hasAdministrator_of_verified (h₀ : t₀ ≤ now) (h₁ : now ≤ t₁) {guarded : List Uuid}
    {membershipId : Option Uuid}
    (hverified : ((db.guardTenants now guarded).val.verify db'.toTables now membershipId).val =
      .ok ()) (hunguarded : d ∉ guarded → ∀ u, db.Administers now d u → db'.Administers now d u)
    (h : db.HasAdministrator t₀ d) : db'.HasAdministrator t₁ d := by
  have hbefore := db.hasAdministrator_mono h₀ h
  refine db'.hasAdministrator_mono h₁ ?_
  by_cases hd : d ∈ guarded
  · exact AdministratorGuard.verify_ok_iff.mp hverified d hd hbefore
  · obtain ⟨u, hadmin⟩ := db.hasAdministrator_iff.mp hbefore
    exact db'.hasAdministrator_iff.mpr ⟨u, hunguarded hd u hadmin⟩

/-! ## Row changes -/

variable {t : Uuid}

lemma administers_of_unguarded {db : Tables} {planned : GuardedChange}
    (hconcerns : planned.change.Concerns db t planned.affectedUsers)
    (hunguarded : d ∉ t :: db.reachedDescendants t planned.affectedUsers) {u : Uuid}
    (hadmin : db.Administers now d u) :
    (planned.change.apply db).Administers now d u := by
  refine (RowChange.changesOnly hconcerns).administers le_rfl hadmin ?_
  intro hu
  refine ⟨fun hdt => hunguarded (hdt ▸ List.mem_cons_self), ?_⟩
  intro habove
  apply hunguarded
  refine List.mem_cons_of_mem _ (List.mem_filter.mpr ⟨?_, ?_⟩)
  · exact Tables.mem_descendantIdsByDepth.mpr habove
  · exact Tables.isActiveMember_iff.mpr ⟨u, hu, hadmin.1⟩

lemma performGuarded_hasAdministrator (h₀ : t₀ ≤ now) (h₁ : now ≤ t₁) {plan : Plan}
    (hsound : db.SoundPlan t plan) (h : performGuarded now t plan = .ok db')
    (hadmin : db.HasAdministrator t₀ d) :
    db'.HasAdministrator t₁ d := by
  obtain ⟨⟨session, planned?⟩, hplan, hperform⟩ := bind_eq_ok.mp h
  obtain ⟨rfl, hplanned⟩ := hsound session planned? hplan
  cases planned? with
  | none =>
    cases hperform
    exact db'.hasAdministrator_mono (le_trans h₀ h₁) hadmin
  | some planned =>
    obtain ⟨hconcerns, -⟩ := hplanned planned rfl
    unfold performPlanned changeGuarded writeRow at hperform
    simp only [bind_eq_ok] at hperform
    obtain ⟨changed, ⟨⟨⟩, -, hchanged⟩, ⟨⟩, hverified, hdone⟩ := hperform
    cases hdone
    refine hasAdministrator_of_verified h₀ h₁ hverified ?_ hadmin
    intro hunguarded u hu
    rw [flush_ok hchanged]
    exact administers_of_unguarded hconcerns hunguarded hu

/-! ## Deactivation of a user -/

variable {caller : Caller}

lemma deactivateUser_hasAdministrator (h₀ : t₀ ≤ now) (h₁ : now ≤ t₁) {userId : Uuid}
    {reason : String} {ceiling : ℕ}
    (h : db.deactivateUser now userId caller reason ceiling = .ok db')
    (hadmin : db.HasAdministrator t₀ d) : db'.HasAdministrator t₁ d := by
  obtain ⟨hdb', scanned, hscanned, hverified⟩ := deactivateUser_ok h
  refine hasAdministrator_of_verified h₀ h₁ hverified ?_ hadmin
  intro hunguarded u hu
  have hother : u ≠ userId := by
    rintro rfl
    -- an administrator is an active member of an accessible tenant, and the scan finds those
    apply hunguarded
    rw [List.mem_insertionSort]
    obtain ⟨hmember, -, -, -, ⟨⟨tenant, htenant, rfl, hstatus⟩, -⟩ | ⟨-, hmay, -⟩⟩ := hu
    · refine Tables.scanActiveMemberships_ok hscanned htenant ?_ hmember
      intro hpurged
      rw [hpurged] at hstatus
      cases hstatus
    · exact absurd hmay (Tables.not_supportMaySatisfy_administratorRequest d u)
  have hsame : Tables.SameGrants db.toTables (db.withoutUser now userId) :=
    ⟨rfl, rfl, rfl, rfl, rfl, rfl⟩
  rw [hdb']
  refine hsame.administers le_rfl hu ?_ (fun _ => Iff.rfl) (fun _ _ => id) id
  intro row hrow hid _
  refine List.mem_map.mpr ⟨row, hrow, if_neg ?_⟩
  rw [hid]
  exact hother

/-! ## Moves -/

variable {q : TenantStatus → Bool} {c : Uuid}

lemma hasStatus_setParent {db : Tables} {p : Option Uuid} (h : db.HasStatus q c) :
    (db.setParent t p).HasStatus q c := by
  obtain ⟨tenant, htenant, hid, hstatus⟩ := h
  refine ⟨_, List.mem_map.mpr ⟨tenant, htenant, rfl⟩, ?_, ?_⟩
  · split <;> exact hid
  · split <;> exact hstatus

variable {config : TenancyConfig} {reason : Option String}

lemma moveTenant_hasAdministrator (h₀ : t₀ ≤ now) (h₁ : now ≤ t₁) {tenantId : Uuid}
    {newParentId : Option Uuid}
    (h : db.moveTenant config now tenantId newParentId caller reason = .ok db')
    (hadmin : db.HasAdministrator t₀ d) : db'.HasAdministrator t₁ d := by
  obtain rfl | ⟨-, -, hrewrite⟩ := moveTenant_ok h
  · exact db'.hasAdministrator_mono (le_trans h₀ h₁) hadmin
  obtain ⟨-, hdb', hverified⟩ := rewriteHierarchy_ok hrewrite
  refine hasAdministrator_of_verified h₀ h₁ hverified ?_ hadmin
  intro hunguarded u hu
  have houtside : d ∉ (db.subtreeOf tenantId).map TenantAncestry.tenantId := by
    intro hmem
    obtain ⟨row, hrow, hd⟩ := List.mem_map.mp hmem
    exact hunguarded (List.mem_map.mpr ⟨row, (List.mem_insertionSort _).mpr hrow, hd⟩)
  -- the rows a move deletes and inserts are rows of tenants in the moved subtree
  have hrows : ∀ row : TenantAncestry, row.tenantId = d →
      (row ∈ db.tenantAncestry ↔ row ∈ db'.tenantAncestry) := by
    intro row hrow
    rw [hdb']
    simp only [Tables.setParent, List.mem_append, List.mem_filter]
    constructor
    · intro hmem
      refine Or.inl ⟨hmem, ?_⟩
      have hnot : ((db.subtreeOf tenantId).map TenantAncestry.tenantId).contains row.tenantId =
          false := by
        rw [hrow]
        simpa using houtside
      rw [Tables.isBridgeRow, hnot]
      rfl
    · rintro (⟨hmem, -⟩ | hnew)
      · exact hmem
      · obtain ⟨q, -, m, k, -, hsub, -⟩ := mem_newBridgeRows.mp hnew
        refine absurd ?_ houtside
        refine List.mem_map.mpr ⟨⟨row.tenantId, tenantId, k⟩, ?_, hrow⟩
        exact Tables.mem_subtreeOf.mpr ⟨hsub, rfl⟩
  have hstatus : ∀ q c, db.HasStatus q c → db'.HasStatus q c := by
    intro q c hq
    rw [hdb']
    exact hasStatus_setParent hq
  refine Tables.SameGrants.administers ?_ le_rfl hu ?_ ?_ (fun c _ => hstatus _ c) (hstatus _ d)
  · rw [hdb']
    exact ⟨rfl, rfl, rfl, rfl, rfl, rfl⟩
  · intro row hrow _ _
    rw [hdb']
    exact hrow
  · intro a
    constructor
    · rintro ⟨hne, row, hrow, ht, ha⟩
      exact ⟨hne, row, (hrows row ht).mp hrow, ht, ha⟩
    · rintro ⟨hne, row, hrow, ht, ha⟩
      exact ⟨hne, row, (hrows row ht).mpr hrow, ht, ha⟩

/-! ## Status transitions -/

variable {target : TenantStatus}

lemma hasStatus_setTenantStatus {db : Tables} (hc : c ≠ t ∨ q target = true)
    (h : db.HasStatus q c) :
    (db.setTenantStatus t target).HasStatus q c := by
  obtain ⟨tenant, htenant, hid, hstatus⟩ := h
  refine ⟨_, List.mem_map.mpr ⟨tenant, htenant, rfl⟩, ?_, ?_⟩
  · split <;> exact hid
  · split
    · next ht => exact hc.resolve_left fun hne => hne (hid ▸ ht)
    · exact hstatus

lemma transitionTenantStatus_hasAdministrator (h₀ : t₀ ≤ now) (h₁ : now ≤ t₁)
    {newId tenantId : Uuid} {expectedOperation : Option PlatformOperation} {selfService : Bool}
    (h : db.transitionTenantStatus config now newId tenantId target caller reason expectedOperation
      selfService = .ok db') (hd : d ≠ tenantId) (hadmin : db.HasAdministrator t₀ d) :
    db'.HasAdministrator t₁ d := by
  obtain ⟨-, hdb', hverified⟩ := transitionTenantStatus_ok h
  -- every administrator of a tenant that does not lie below an inaccessible target keeps the office
  have hkeeps : (target.isAccessibleToPrincipals = true ∨ ¬ db.IsStrictAncestor tenantId d) →
      ∀ u, db.Administers now d u → db'.Administers now d u := by
    intro hcase u hu
    have hsame : Tables.SameGrants db.toTables (db.setTenantStatus tenantId target) :=
      ⟨rfl, rfl, rfl, rfl, rfl, rfl⟩
    rw [hdb']
    refine hsame.administers le_rfl hu (fun _ hrow _ _ => hrow) (fun _ => Iff.rfl) ?_
      (hasStatus_setTenantStatus (Or.inl hd))
    intro c hc
    refine hasStatus_setTenantStatus ?_
    rcases hcase with hacc | hnot
    · exact Or.inr hacc
    · refine Or.inl ?_
      rintro rfl
      exact hc.elim (fun heq => hd heq.symm) hnot
  by_cases hacc : target.isAccessibleToPrincipals = true
  · obtain ⟨u, hu⟩ := db.hasAdministrator_iff.mp (db.hasAdministrator_mono h₀ hadmin)
    exact db'.hasAdministrator_mono h₁ (db'.hasAdministrator_iff.mpr ⟨u, hkeeps (Or.inl hacc) u hu⟩)
  · refine hasAdministrator_of_verified h₀ h₁ (hverified (Bool.eq_false_iff.mpr hacc)) ?_ hadmin
    intro hunguarded
    exact hkeeps (Or.inr fun habove => hunguarded (Tables.mem_descendantIdsByDepth.mpr habove))

end Database

/-! ## All nine operations -/

/-- A call of one of the six guarded row changes, with its arguments. -/
inductive GuardedMutation
  | suspendMembership (newId tenantId membershipId : Uuid) (caller : Caller)
  | revokeMembership (newId tenantId membershipId : Uuid) (caller : Caller)
  | removeRole (newId tenantId membershipId roleId : Uuid) (caller : Caller)
  | revokePermission (newId tenantId roleId permissionId : Uuid) (caller : Caller)
  | createDeny (ids : NewIds) (principalUserId tenantId : Uuid) (scopeMode : RoleScope)
      (permissionId : Uuid) (caller : Caller)
  | revokeDelegation (newId tenantId delegationGrantId : Uuid) (caller : Caller)

namespace GuardedMutation

def tenantId : GuardedMutation → Uuid
  | suspendMembership _ tenantId _ _ => tenantId
  | revokeMembership _ tenantId _ _ => tenantId
  | removeRole _ tenantId _ _ _ => tenantId
  | revokePermission _ tenantId _ _ _ => tenantId
  | createDeny _ _ tenantId _ _ _ => tenantId
  | revokeDelegation _ tenantId _ _ => tenantId

def plan (db : Database) (now : Instant) : GuardedMutation → Plan
  | suspendMembership newId tenantId membershipId caller =>
    db.planTransitionMembershipStatus now newId tenantId membershipId .suspend caller
  | revokeMembership newId tenantId membershipId caller =>
    db.planTransitionMembershipStatus now newId tenantId membershipId .revoke caller
  | removeRole newId tenantId membershipId roleId caller =>
    db.planRemoveRole now newId tenantId membershipId roleId caller
  | revokePermission newId tenantId roleId permissionId caller =>
    db.planRevokePermission now newId tenantId roleId permissionId caller
  | createDeny ids principalUserId tenantId scopeMode permissionId caller =>
    db.planCreateDeny now ids principalUserId tenantId scopeMode permissionId caller
  | revokeDelegation newId tenantId delegationGrantId caller =>
    db.planRevokeDelegation now newId tenantId delegationGrantId caller

def perform (db : Database) (now : Instant) : GuardedMutation → Result Database
  | suspendMembership newId tenantId membershipId caller =>
    db.suspendMembership now newId tenantId membershipId caller
  | revokeMembership newId tenantId membershipId caller =>
    db.revokeMembership now newId tenantId membershipId caller
  | removeRole newId tenantId membershipId roleId caller =>
    db.removeRole now newId tenantId membershipId roleId caller
  | revokePermission newId tenantId roleId permissionId caller =>
    db.revokePermission now newId tenantId roleId permissionId caller
  | createDeny ids principalUserId tenantId scopeMode permissionId caller =>
    db.createDeny now ids principalUserId tenantId scopeMode permissionId caller
  | revokeDelegation newId tenantId delegationGrantId caller =>
    db.revokeDelegation now newId tenantId delegationGrantId caller

variable (db : Database)

lemma perform_eq (now : Instant) (mutation : GuardedMutation) :
    mutation.perform db now =
      Database.performGuarded now mutation.tenantId (mutation.plan db now) := by
  cases mutation <;> rfl

lemma plan_sound (now : Instant) (mutation : GuardedMutation) :
    db.SoundPlan mutation.tenantId (mutation.plan db now) := by
  cases mutation with
  | suspendMembership newId tenantId membershipId caller =>
    exact db.planTransitionMembershipStatus_sound now newId tenantId membershipId .suspend
      (by decide) caller
  | revokeMembership newId tenantId membershipId caller =>
    exact db.planTransitionMembershipStatus_sound now newId tenantId membershipId .revoke
      (by decide) caller
  | removeRole newId tenantId membershipId roleId caller =>
    exact db.planRemoveRole_sound now newId tenantId membershipId roleId caller
  | revokePermission newId tenantId roleId permissionId caller =>
    exact db.planRevokePermission_sound now newId tenantId roleId permissionId caller
  | createDeny ids principalUserId tenantId scopeMode permissionId caller =>
    exact db.planCreateDeny_sound now ids principalUserId tenantId scopeMode permissionId caller
  | revokeDelegation newId tenantId delegationGrantId caller =>
    exact db.planRevokeDelegation_sound now newId tenantId delegationGrantId caller

end GuardedMutation

/-- A call of an operation that can take authority away, with its arguments. -/
inductive GuardedCall
  | change (mutation : GuardedMutation)
  | deactivateUser (userId : Uuid) (caller : Caller) (reason : String) (ceiling : ℕ)
  | moveTenant (tenantId : Uuid) (newParentId : Option Uuid) (caller : Caller)
      (reason : Option String)
  | transitionTenantStatus (newId tenantId : Uuid) (target : TenantStatus) (caller : Caller)
      (reason : Option String) (expectedOperation : Option PlatformOperation) (selfService : Bool)

namespace GuardedCall

def perform (config : TenancyConfig) (db : Database) (now : Instant) :
    GuardedCall → Result Database
  | change mutation => mutation.perform db now
  | deactivateUser userId caller reason ceiling =>
    db.deactivateUser now userId caller reason ceiling
  | moveTenant tenantId newParentId caller reason =>
    db.moveTenant config now tenantId newParentId caller reason
  | transitionTenantStatus newId tenantId target caller reason expectedOperation selfService =>
    db.transitionTenantStatus config now newId tenantId target caller reason expectedOperation
      selfService

def commit (config : TenancyConfig) (db : Database) (now : Instant) (call : GuardedCall) :
    Database :=
  match call.perform config db now with
  | .ok db' => db'
  | .error _ => db

def transitionedTenant : GuardedCall → Option Uuid
  | transitionTenantStatus _ tenantId _ _ _ _ _ => some tenantId
  | _ => none

lemma perform_hasAdministrator {config : TenancyConfig} {db db' : Database} {now t₀ t₁ : Instant}
    (h₀ : t₀ ≤ now) (h₁ : now ≤ t₁) {call : GuardedCall} (h : call.perform config db now = .ok db')
    {d : Uuid} (hd : call.transitionedTenant ≠ some d) (hadmin : db.HasAdministrator t₀ d) :
    db'.HasAdministrator t₁ d := by
  cases call with
  | change mutation =>
    have hrun := (mutation.perform_eq db now).symm.trans h
    exact Database.performGuarded_hasAdministrator h₀ h₁ (mutation.plan_sound db now) hrun hadmin
  | deactivateUser userId caller reason ceiling =>
    exact Database.deactivateUser_hasAdministrator h₀ h₁ h hadmin
  | moveTenant tenantId newParentId caller reason =>
    exact Database.moveTenant_hasAdministrator h₀ h₁ h hadmin
  | transitionTenantStatus newId tenantId target caller reason expectedOperation selfService =>
    have hne : d ≠ tenantId := fun heq => hd (congrArg some heq.symm)
    exact Database.transitionTenantStatus_hasAdministrator h₀ h₁ h hne hadmin

/-- The last-administrator invariant: whatever call is made, every tenant that had an administrator
before it has one after it, apart from the tenant whose own status the call changes; and a call that
raises leaves the database as it was. -/
theorem commit_hasAdministrator (config : TenancyConfig) (db : Database) (now t₀ t₁ : Instant)
    (h₀ : t₀ ≤ now) (h₁ : now ≤ t₁) (call : GuardedCall) :
    (∀ d, call.transitionedTenant ≠ some d → db.HasAdministrator t₀ d →
      (call.commit config db now).HasAdministrator t₁ d) ∧
    ∀ e, call.perform config db now = .error e → call.commit config db now = db := by
  refine ⟨?_, ?_⟩
  · intro d hd hadmin
    unfold commit
    cases hcall : call.perform config db now with
    | ok db' => exact perform_hasAdministrator h₀ h₁ hcall hd hadmin
    | error e => exact db.hasAdministrator_mono (le_trans h₀ h₁) hadmin
  · intro e hcall
    unfold commit
    rw [hcall]

/-- In the two-tier registry the owner suspends the reader's membership of the root; the root had an
administrator and keeps it. -/
theorem commit_hasAdministrator_twoTier :
    ((change (.suspendMembership 900 1 101 (.user 10))).commit {} twoTierDatabase
        5).tenantMemberships =
      [⟨100, 1, 10, .active, 0⟩, ⟨101, 1, 11, .suspended, 0⟩, ⟨102, 2, 10, .active, 0⟩,
        ⟨103, 2, 11, .active, 0⟩] ∧
    ((change (.suspendMembership 900 1 101 (.user 10))).commit {} twoTierDatabase
        5).HasAdministrator 7 1 := by
  refine ⟨by decide, ?_⟩
  have hbefore : twoTierDatabase.HasAdministrator 0 1 :=
    ⟨10, ⟨⟨100, 1, 10, .active, 0⟩, by decide, rfl, rfl, rfl⟩, by decide⟩
  exact (commit_hasAdministrator {} twoTierDatabase 5 0 7 (by decide) (by decide)
    (change (.suspendMembership 900 1 101 (.user 10)))).1 1 (by decide) hbefore

end GuardedCall

end SaasOs
