import SaasOs.Rbac.Interleaving

/-!
# Row changes side by side

What one guarded change means for another one that is planned but not yet committed.  A change that
concerns a tenant goes on concerning it (`Concerns.apply`, `Concerns.joined`), and two changes at
different tenants can be made in either order (`lendsMore_apply_comm`).
-/

namespace SaasOs

namespace Tables

/-- Over the same tenants, users and permissions, `db'` has every grant of `db`, no deny beyond
those of `db`, and no membership beyond those of `db` but active ones. -/
structure LendsMore (db db' : Tables) : Prop where
  tenants : db'.tenants = db.tenants
  tenantAncestry : db'.tenantAncestry = db.tenantAncestry
  users : db'.users = db.users
  permissions : db'.permissions = db.permissions
  membership : ∀ m ∈ db.tenantMemberships, m ∈ db'.tenantMemberships
  inactive : ∀ m ∈ db'.tenantMemberships, m.status ≠ .active → m ∈ db.tenantMemberships
  membershipRole : ∀ row ∈ db.membershipRoles, row ∈ db'.membershipRoles
  rolePermission : ∀ row ∈ db.rolePermissions, row ∈ db'.rolePermissions
  delegationGrant : ∀ row ∈ db.delegationGrants, row ∈ db'.delegationGrants
  denyGrant : ∀ row ∈ db'.denyGrants, row ∈ db.denyGrants

variable {db db' : Tables}

lemma LendsMore.of_eq (h : db = db') : LendsMore db db' := by
  subst h
  exact ⟨rfl, rfl, rfl, rfl, fun _ => id, fun _ hm _ => hm, fun _ => id, fun _ => id, fun _ => id,
    fun _ => id⟩

lemma LendsMore.administers (h : LendsMore db db') {now : Instant} {d u : Uuid}
    (hadmin : db.Administers now d u) : db'.Administers now d u := by
  obtain ⟨⟨m, hm, hd, hu, hactive⟩, hallowed⟩ := hadmin
  have hstatus : ∀ p c, db.HasStatus p c → db'.HasStatus p c := by
    intro p c hp
    unfold HasStatus
    rw [h.tenants]
    exact hp
  have hnames : ∀ permissionId resource action,
      db'.NamesPermission permissionId resource action ↔
        db.NamesPermission permissionId resource action := by
    intro permissionId resource action
    unfold NamesPermission
    rw [h.permissions]
  refine ⟨⟨m, h.membership m hm, hd, hu, hactive⟩, hallowed.carries ?_ (hstatus _ d) ?_ ?_⟩
  · intro a
    unfold IsStrictAncestor
    rw [h.tenantAncestry]
  · rintro (⟨hty, user, huser, hid, huserActive⟩ | ⟨hty, -⟩)
    · exact Or.inl ⟨hty, user, h.users ▸ huser, hid, huserActive⟩
    · cases hty
  · intro c _
    refine ⟨hstatus _ c, ?_, ?_, ?_, ?_⟩
    · intro s hrole
      obtain ⟨m', hm', hc, hu', hactive', assignment, hassignment, hac, ham, hs, grant, hgrant, hgc,
        hgr, hname⟩ : db.HoldsByMembership u c s "membership_role" "create" := hrole
      exact ⟨m', h.membership m' hm', hc, hu', hactive', assignment,
        h.membershipRole assignment hassignment, hac, ham, hs, grant, h.rolePermission grant hgrant,
        hgc, hgr, (hnames _ _ _).mpr hname⟩
    · rintro s ⟨hmember, grant, hgrant, hc, hty, hactor, hs, hrevoked, hstarts, hexpires, hname⟩
      refine ⟨?_, grant, h.delegationGrant grant hgrant, hc, hty, hactor, hs, hrevoked, hstarts,
        hexpires, (hnames _ _ _).mpr hname⟩
      rintro huser ⟨m', hm', hc', hu', hne⟩
      exact hmember huser ⟨m', h.inactive m' hm' hne, hc', hu', hne⟩
    · rintro s ⟨grant, hgrant, hc, hty, hactor, hs, hrevoked, hname⟩
      exact ⟨grant, h.denyGrant grant hgrant, hc, hty, hactor, hs, hrevoked, (hnames _ _ _).mp hname⟩
    · intro hmay
      exact absurd hmay (not_supportMaySatisfy_administratorRequest d u)

end Tables

namespace RowChange

/-! ## The rows after a change -/

variable (change : RowChange) (db : Tables)

@[simp] lemma apply_tenants : (change.apply db).tenants = db.tenants := by
  cases change <;> rfl

@[simp] lemma apply_tenantAncestry : (change.apply db).tenantAncestry = db.tenantAncestry := by
  cases change <;> rfl

variable {change db}

lemma exists_membership_of_apply {m : TenantMembership}
    (hm : m ∈ (change.apply db).tenantMemberships) :
    ∃ m₀ ∈ db.tenantMemberships, m₀.id = m.id ∧ m₀.tenantId = m.tenantId ∧
      m₀.userId = m.userId := by
  cases change with
  | setMembershipStatus membershipId status =>
    obtain ⟨m₀, hm₀, rfl⟩ := List.mem_map.mp hm
    refine ⟨m₀, hm₀, ?_⟩
    split
    · exact ⟨rfl, rfl, rfl⟩
    · exact ⟨rfl, rfl, rfl⟩
  | deleteMembershipRole id => exact ⟨m, hm, rfl, rfl, rfl⟩
  | deleteRolePermission id => exact ⟨m, hm, rfl, rfl, rfl⟩
  | insertDenyGrant grant => exact ⟨m, hm, rfl, rfl, rfl⟩
  | revokeDelegationGrant id revokedAt => exact ⟨m, hm, rfl, rfl, rfl⟩

lemma map_id_apply_tenantMemberships :
    (change.apply db).tenantMemberships.map TenantMembership.id =
      db.tenantMemberships.map TenantMembership.id := by
  cases change with
  | setMembershipStatus membershipId status =>
    simp only [apply, List.map_map]
    refine List.map_congr_left fun m _ => ?_
    simp only [Function.comp_apply]
    split <;> rfl
  | deleteMembershipRole id => rfl
  | deleteRolePermission id => rfl
  | insertDenyGrant grant => rfl
  | revokeDelegationGrant id revokedAt => rfl

variable {d u : Uuid}

lemma activeMember_of_apply (hremoves : change.Removes) (h : (change.apply db).ActiveMember d u) :
    db.ActiveMember d u := by
  obtain ⟨m, hm, hd, hu, hactive⟩ := h
  cases change with
  | setMembershipStatus membershipId status =>
    obtain ⟨m₀, hm₀, rfl⟩ := List.mem_map.mp hm
    split at hactive
    · exact absurd hactive hremoves
    · next hid =>
      rw [if_neg hid] at hd hu
      exact ⟨m₀, hm₀, hd, hu, hactive⟩
  | deleteMembershipRole id => exact ⟨m, hm, hd, hu, hactive⟩
  | deleteRolePermission id => exact ⟨m, hm, hd, hu, hactive⟩
  | insertDenyGrant grant => exact ⟨m, hm, hd, hu, hactive⟩
  | revokeDelegationGrant id revokedAt => exact ⟨m, hm, hd, hu, hactive⟩

lemma mem_membershipRoles_of_apply {row : MembershipRole}
    (h : row ∈ (change.apply db).membershipRoles) : row ∈ db.membershipRoles := by
  cases change with
  | deleteMembershipRole id => exact List.mem_of_mem_filter h
  | setMembershipStatus membershipId status => exact h
  | deleteRolePermission id => exact h
  | insertDenyGrant grant => exact h
  | revokeDelegationGrant id revokedAt => exact h

lemma mem_rolePermissions_of_apply {row : RolePermission}
    (h : row ∈ (change.apply db).rolePermissions) : row ∈ db.rolePermissions := by
  cases change with
  | deleteRolePermission id => exact List.mem_of_mem_filter h
  | setMembershipStatus membershipId status => exact h
  | deleteMembershipRole id => exact h
  | insertDenyGrant grant => exact h
  | revokeDelegationGrant id revokedAt => exact h

lemma exists_delegationGrant_of_apply {grant : DelegationGrant}
    (h : grant ∈ (change.apply db).delegationGrants) :
    ∃ grant₀ ∈ db.delegationGrants, grant₀.id = grant.id ∧ grant₀.tenantId = grant.tenantId ∧
      grant₀.delegatePrincipalType = grant.delegatePrincipalType ∧
      grant₀.delegatePrincipalId = grant.delegatePrincipalId := by
  cases change with
  | revokeDelegationGrant id revokedAt =>
    obtain ⟨grant₀, hgrant₀, rfl⟩ := List.mem_map.mp h
    refine ⟨grant₀, hgrant₀, ?_⟩
    split
    · exact ⟨rfl, rfl, rfl, rfl⟩
    · exact ⟨rfl, rfl, rfl, rfl⟩
  | setMembershipStatus membershipId status => exact ⟨grant, h, rfl, rfl, rfl, rfl⟩
  | deleteMembershipRole id => exact ⟨grant, h, rfl, rfl, rfl, rfl⟩
  | deleteRolePermission id => exact ⟨grant, h, rfl, rfl, rfl, rfl⟩
  | insertDenyGrant deny => exact ⟨grant, h, rfl, rfl, rfl, rfl⟩

/-! ## A planned change goes on concerning the same users -/

lemma Concerns.apply {t : Uuid} {affected : List Uuid} (h : change.Concerns db t affected)
    (other : RowChange) : change.Concerns (other.apply db) t affected := by
  cases change with
  | setMembershipStatus membershipId status =>
    refine ⟨?_, ?_⟩
    · rw [map_id_apply_tenantMemberships]
      exact h.1
    · intro m hm hid
      obtain ⟨m₀, hm₀, hid₀, ht₀, hu₀⟩ := exists_membership_of_apply hm
      have hrow := h.2 m₀ hm₀ (hid₀.trans hid)
      rwa [ht₀, hu₀] at hrow
  | deleteMembershipRole id =>
    intro assignment hassignment hid
    obtain ⟨ht, husers⟩ := h assignment (mem_membershipRoles_of_apply hassignment) hid
    refine ⟨ht, ?_⟩
    intro m hm hmid
    obtain ⟨m₀, hm₀, hid₀, -, hu₀⟩ := exists_membership_of_apply hm
    exact hu₀ ▸ husers m₀ hm₀ (hid₀.trans hmid)
  | deleteRolePermission id =>
    intro grant hgrant hid
    obtain ⟨ht, husers⟩ := h grant (mem_rolePermissions_of_apply hgrant) hid
    refine ⟨ht, ?_⟩
    intro assignment hassignment hat har m hm hmid
    obtain ⟨m₀, hm₀, hid₀, -, hu₀⟩ := exists_membership_of_apply hm
    exact hu₀ ▸ husers assignment (mem_membershipRoles_of_apply hassignment) hat har m₀ hm₀
      (hid₀.trans hmid)
  | insertDenyGrant grant => exact h
  | revokeDelegationGrant id revokedAt =>
    intro grant hgrant hid
    obtain ⟨grant₀, hgrant₀, hid₀, ht₀, hty₀, hp₀⟩ := exists_delegationGrant_of_apply hgrant
    have hrow := h grant₀ hgrant₀ (hid₀.trans hid)
    rwa [ht₀, hty₀, hp₀] at hrow

/-! ## Two changes in either order -/

variable {other : RowChange} {t t' : Uuid} {affected affected' : List Uuid}

section

variable (h : change.Concerns db t affected) (h' : other.Concerns db t' affected') (hne : t ≠ t')

include h h' hne

lemma lendsMore_apply_comm :
    Tables.LendsMore (other.apply (change.apply db)) (change.apply (other.apply db)) := by
  -- changes of different tables commute by definition
  cases change <;> cases other <;> try exact Tables.LendsMore.of_eq rfl
  case setMembershipStatus.setMembershipStatus id status id' status' =>
    refine Tables.LendsMore.of_eq
      (congrArg (fun rows => { db with tenantMemberships := rows })
        (Rows.map_update_comm (f := fun row => { row with status := status })
          (g := fun row => { row with status := status' }) (fun _ => rfl) (fun _ => rfl) ?_))
    rintro m hm ⟨hid, hid'⟩
    exact hne ((h.2 m hm hid).1.symm.trans (h'.2 m hm hid').1)
  case deleteMembershipRole.deleteMembershipRole id id' =>
    refine Tables.LendsMore.of_eq ?_
    simp only [apply, List.filter_filter, Bool.and_comm]
  case deleteRolePermission.deleteRolePermission id id' =>
    refine Tables.LendsMore.of_eq ?_
    simp only [apply, List.filter_filter, Bool.and_comm]
  case insertDenyGrant.insertDenyGrant grant grant' =>
    -- the two denies are stored in another order
    refine ⟨rfl, rfl, rfl, rfl, fun _ => id, fun _ hm _ => hm, fun _ => id, fun _ => id, fun _ => id,
      ?_⟩
    intro row hrow
    simp only [apply, List.mem_append, List.mem_singleton] at hrow ⊢
    tauto
  case revokeDelegationGrant.revokeDelegationGrant id revokedAt id' revokedAt' =>
    refine Tables.LendsMore.of_eq
      (congrArg (fun rows => { db with delegationGrants := rows })
        (Rows.map_update_comm (f := fun row => { row with revokedAt := some revokedAt })
          (g := fun row => { row with revokedAt := some revokedAt' }) (fun _ => rfl) (fun _ => rfl)
          ?_))
    rintro grant hgrant ⟨hid, hid'⟩
    exact hne ((h grant hgrant hid).1.symm.trans (h' grant hgrant hid').1)

lemma administers_apply_apply {now : Instant} (hadmin : (change.apply db).Administers now d u)
    (houtside : u ∈ affected' → d ≠ t' ∧ ¬ db.IsStrictAncestor t' d) :
    (change.apply (other.apply db)).Administers now d u := by
  have hother : (other.apply (change.apply db)).Administers now d u := by
    refine (changesOnly (h'.apply change)).administers le_rfl hadmin fun hu => ?_
    refine ⟨(houtside hu).1, ?_⟩
    unfold Tables.IsStrictAncestor
    rw [apply_tenantAncestry]
    exact (houtside hu).2
  exact (lendsMore_apply_comm h h' hne).administers hother

end

end RowChange

/-! ## Joining beside a planned change -/

namespace Database

variable {db db' : Database} {tenantId userId : Uuid}

lemma ne_id_of_joined {joined : List TenantMembership}
    (htables : db'.tenantMemberships = db.tenantMemberships ++ joined) {m m₀ : TenantMembership}
    (hm : m ∈ joined) (hm₀ : m₀ ∈ db.tenantMemberships) : m.id ≠ m₀.id := by
  have hunique := db'.constraints.unique.tenant_memberships_pk
  unfold Rows.UniqueOn at hunique
  rw [htables, List.map_append, List.nodup_append] at hunique
  exact fun hid => hunique.2.2 _ (List.mem_map_of_mem hm₀) _ (List.mem_map_of_mem hm) hid.symm

variable {change : RowChange} {t : Uuid} {affected : List Uuid}

section

variable (hjoined : db.JoinedBy db'.toTables tenantId userId)

include hjoined

lemma concerns_of_joinedBy (h : change.Concerns db.toTables t affected) :
    change.Concerns db'.toTables t affected := by
  obtain ⟨invitations, joined, htables, -⟩ := hjoined
  have hmemberships : db'.tenantMemberships = db.tenantMemberships ++ joined := by rw [htables]
  -- a membership with the id of an old one is that old one
  have hold : ∀ m ∈ db'.tenantMemberships, ∀ m₀ ∈ db.tenantMemberships, m.id = m₀.id →
      m ∈ db.tenantMemberships := by
    intro m hm m₀ hm₀ hid
    rw [hmemberships] at hm
    rcases List.mem_append.mp hm with hmem | hnew
    · exact hmem
    · exact absurd hid (ne_id_of_joined hmemberships hnew hm₀)
  -- the membership of a role assignment is an old one
  have hassigned : ∀ assignment ∈ db.membershipRoles, ∀ m ∈ db'.tenantMemberships,
      m.id = assignment.membershipId → m ∈ db.tenantMemberships := by
    intro assignment hassignment m hm hid
    have hfk := db.constraints.foreignKeys.membership_roles_tenant_membership _ hassignment
    obtain ⟨m₀, hm₀, hpair⟩ := List.mem_map.mp hfk
    exact hold m hm m₀ hm₀ (hid.trans (congrArg Prod.snd hpair).symm)
  cases change with
  | setMembershipStatus membershipId status =>
    obtain ⟨hexists, hrows⟩ := h
    obtain ⟨m₀, hm₀, hid₀⟩ := List.mem_map.mp hexists
    refine ⟨?_, ?_⟩
    · rw [hmemberships, List.map_append]
      exact List.mem_append_left _ hexists
    · intro m hm hid
      exact hrows m (hold m hm m₀ hm₀ (hid.trans hid₀.symm)) hid
  | deleteMembershipRole id =>
    intro assignment hassignment hid
    have hassignment' : assignment ∈ db.membershipRoles := by rwa [htables] at hassignment
    obtain ⟨ht, husers⟩ := h assignment hassignment' hid
    exact ⟨ht, fun m hm hmid => husers m (hassigned assignment hassignment' m hm hmid) hmid⟩
  | deleteRolePermission id =>
    intro grant hgrant hid
    have hgrant' : grant ∈ db.rolePermissions := by rwa [htables] at hgrant
    obtain ⟨ht, husers⟩ := h grant hgrant' hid
    refine ⟨ht, ?_⟩
    intro assignment hassignment hat har m hm hmid
    have hassignment' : assignment ∈ db.membershipRoles := by rwa [htables] at hassignment
    exact husers assignment hassignment' hat har m (hassigned assignment hassignment' m hm hmid) hmid
  | insertDenyGrant grant => exact h
  | revokeDelegationGrant id revokedAt =>
    intro grant hgrant hid
    rw [htables] at hgrant
    exact h grant hgrant hid

lemma lendsMore_of_joinedBy :
    Tables.LendsMore db.toTables db'.toTables := by
  obtain ⟨invitations, joined, htables, hactive⟩ := hjoined
  rw [htables]
  refine ⟨rfl, rfl, rfl, rfl, fun _ => List.mem_append_left _, ?_, fun _ => id, fun _ => id,
    fun _ => id, fun _ => id⟩
  intro m hm hne
  rcases List.mem_append.mp hm with hold | hnew
  · exact hold
  · exact absurd (hactive m hnew).2.2 hne

lemma lendsMore_apply_of_joinedBy (h : change.Concerns db.toTables t affected) :
    Tables.LendsMore (change.apply db.toTables) (change.apply db'.toTables) := by
  have hmore := lendsMore_of_joinedBy hjoined
  obtain ⟨invitations, joined, htables, hactive⟩ := hjoined
  cases change with
  | setMembershipStatus membershipId status =>
    refine ⟨hmore.tenants, hmore.tenantAncestry, hmore.users, hmore.permissions, ?_, ?_,
      hmore.membershipRole, hmore.rolePermission, hmore.delegationGrant, hmore.denyGrant⟩
    · intro m hm
      obtain ⟨m₀, hm₀, rfl⟩ := List.mem_map.mp hm
      exact List.mem_map_of_mem (hmore.membership m₀ hm₀)
    · intro m hm hne
      obtain ⟨m₀, hm₀, rfl⟩ := List.mem_map.mp hm
      have hmemberships : db'.tenantMemberships = db.tenantMemberships ++ joined := by rw [htables]
      rw [hmemberships] at hm₀
      rcases List.mem_append.mp hm₀ with hold | hnew
      · exact List.mem_map_of_mem hold
      · -- the changed membership is an old one, so a new one stays active
        obtain ⟨m₁, hm₁, hid₁⟩ := List.mem_map.mp h.1
        have hid : m₀.id ≠ membershipId := hid₁ ▸ ne_id_of_joined hmemberships hnew hm₁
        rw [if_neg hid] at hne
        exact absurd (hactive m₀ hnew).2.2 hne
  | deleteMembershipRole id =>
    refine ⟨hmore.tenants, hmore.tenantAncestry, hmore.users, hmore.permissions, hmore.membership,
      hmore.inactive, ?_, hmore.rolePermission, hmore.delegationGrant, hmore.denyGrant⟩
    intro row hrow
    obtain ⟨hmem, hkept⟩ := List.mem_filter.mp hrow
    exact List.mem_filter.mpr ⟨hmore.membershipRole row hmem, hkept⟩
  | deleteRolePermission id =>
    refine ⟨hmore.tenants, hmore.tenantAncestry, hmore.users, hmore.permissions, hmore.membership,
      hmore.inactive, hmore.membershipRole, ?_, hmore.delegationGrant, hmore.denyGrant⟩
    intro row hrow
    obtain ⟨hmem, hkept⟩ := List.mem_filter.mp hrow
    exact List.mem_filter.mpr ⟨hmore.rolePermission row hmem, hkept⟩
  | insertDenyGrant grant =>
    refine ⟨hmore.tenants, hmore.tenantAncestry, hmore.users, hmore.permissions, hmore.membership,
      hmore.inactive, hmore.membershipRole, hmore.rolePermission, hmore.delegationGrant, ?_⟩
    intro row hrow
    rcases List.mem_append.mp hrow with hold | hnew
    · exact List.mem_append_left _ (hmore.denyGrant row hold)
    · exact List.mem_append_right _ hnew
  | revokeDelegationGrant id revokedAt =>
    refine ⟨hmore.tenants, hmore.tenantAncestry, hmore.users, hmore.permissions, hmore.membership,
      hmore.inactive, hmore.membershipRole, hmore.rolePermission, ?_, hmore.denyGrant⟩
    intro row hrow
    obtain ⟨grant, hgrant, rfl⟩ := List.mem_map.mp hrow
    exact List.mem_map_of_mem (hmore.delegationGrant grant hgrant)

end

end Database

end SaasOs
