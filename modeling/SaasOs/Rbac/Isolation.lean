import SaasOs.Rbac.Policy

/-!
# Which rows a decision depends on

`AuthorityCarries` compares two states at one candidate tenant: whatever the first one lends the
actor there the second one lends too, and the second one denies nothing that the first did not.
When it holds at the target and at each of its ancestors, an allow of the first state is an allow of
the second.
-/

namespace SaasOs

namespace Tables

/-! ## Carrying authority from one state to another -/

/-- At the candidate tenant `c`, everything `db` lends the actor of the request is lent by `db'` as
well, and `db'` denies nothing more. -/
structure AuthorityCarries (db db' : Tables) (now now' : Instant) (request : AccessRequest)
    (c : Uuid) : Prop where
  accessible : db.Accessible c → db'.Accessible c
  role : ∀ s, db.HoldsByRole request.actorId request.actorType c s request.resource request.action →
    db'.HoldsByRole request.actorId request.actorType c s request.resource request.action
  delegation : ∀ s,
    db.HoldsByDelegation now request.actorId request.actorType c s request.resource request.action
      request.ignoreExpiringDelegations →
    db'.HoldsByDelegation now' request.actorId request.actorType c s request.resource
      request.action request.ignoreExpiringDelegations
  deny : ∀ s,
    db'.DeniesAt request.actorId request.actorType c s request.resource request.action →
    db.DeniesAt request.actorId request.actorType c s request.resource request.action
  support : SupportMaySatisfy request.resource request.action → ∀ s,
    db.Open c → db.SupportedAt now request.actorId c s →
    db'.Open c ∧ db'.SupportedAt now' request.actorId c s

variable {above : Uuid → Uuid → Prop} {s : RoleScope} {c t : Uuid}

lemma Reaches.candidate (h : Reaches above s c t) : c = t ∨ above c t := by
  rcases h with h | ⟨h, -⟩
  · exact Or.inl h
  · exact Or.inr h

variable {above' : Uuid → Uuid → Prop}

lemma Reaches.congr (h : ∀ a, above a t → above' a t) (hreach : Reaches above s c t) :
    Reaches above' s c t := by
  rcases hreach with hc | ⟨habove, hs⟩
  · exact Or.inl hc
  · exact Or.inr ⟨h c habove, hs⟩

lemma Allowed.carries {db db' : Tables} {now now' : Instant} {request : AccessRequest}
    (habove : ∀ a, above a request.tenantId ↔ above' a request.tenantId)
    (hopen : db.Open request.tenantId → db'.Open request.tenantId)
    (hactor : db.ActorMayAct request → db'.ActorMayAct request)
    (hcarries : ∀ c, c = request.tenantId ∨ above c request.tenantId →
      AuthorityCarries db db' now now' request c)
    (h : Allowed above db now request) : Allowed above' db' now' request := by
  obtain ⟨hopen', hactor', hdeny, hholds⟩ := h
  refine ⟨hopen hopen', hactor hactor', ?_, ?_⟩
  · rintro ⟨c, s, hreach, hdenies⟩
    have hreach' := hreach.congr fun a => (habove a).mpr
    exact hdeny ⟨c, s, hreach', (hcarries c hreach'.candidate).deny s hdenies⟩
  · rcases hholds with ⟨hacc, c, s, hreach, hacc', hheld⟩ | ⟨huser, hmay, c, s, hreach, hopen'', hsup⟩
    · refine Or.inl ⟨(hcarries _ (Or.inl rfl)).accessible hacc, c, s,
        hreach.congr fun a => (habove a).mp, (hcarries c hreach.candidate).accessible hacc', ?_⟩
      rcases hheld with hrole | hdel
      · exact Or.inl ((hcarries c hreach.candidate).role s hrole)
      · exact Or.inr ((hcarries c hreach.candidate).delegation s hdel)
    · exact Or.inr ⟨huser, hmay, c, s, hreach.congr fun a => (habove a).mp,
        (hcarries c hreach.candidate).support hmay s hopen'' hsup⟩

/-! ## Agreement of two states -/

/-- The two states hold the same rows under tenant `c`: its status, its memberships, its roles'
permissions, its role assignments, its grants and its support requests. -/
structure AgreeUnder (db db' : Tables) (c : Uuid) : Prop where
  status : ∀ status, (∃ row ∈ db.tenants, row.id = c ∧ row.status = status) ↔
    ∃ row ∈ db'.tenants, row.id = c ∧ row.status = status
  tenantMemberships : ∀ row : TenantMembership, row.tenantId = c →
    (row ∈ db.tenantMemberships ↔ row ∈ db'.tenantMemberships)
  membershipRoles : ∀ row : MembershipRole, row.tenantId = c →
    (row ∈ db.membershipRoles ↔ row ∈ db'.membershipRoles)
  serviceAccountRoles : ∀ row : ServiceAccountRole, row.tenantId = c →
    (row ∈ db.serviceAccountRoles ↔ row ∈ db'.serviceAccountRoles)
  rolePermissions : ∀ row : RolePermission, row.tenantId = c →
    (row ∈ db.rolePermissions ↔ row ∈ db'.rolePermissions)
  delegationGrants : ∀ row : DelegationGrant, row.tenantId = c →
    (row ∈ db.delegationGrants ↔ row ∈ db'.delegationGrants)
  denyGrants : ∀ row : DenyGrant, row.tenantId = c → (row ∈ db.denyGrants ↔ row ∈ db'.denyGrants)
  supportAccessRequests : ∀ row : SupportAccessRequest, row.tenantId = c →
    (row ∈ db.supportAccessRequests ↔ row ∈ db'.supportAccessRequests)

def SameCatalog (db db' : Tables) : Prop :=
  ∀ row : Permission, row ∈ db.permissions ↔ row ∈ db'.permissions

namespace AgreeUnder

variable {db db' : Tables} {c : Uuid}

lemma symm (h : AgreeUnder db db' c) : AgreeUnder db' db c where
  status s := (h.status s).symm
  tenantMemberships row hrow := (h.tenantMemberships row hrow).symm
  membershipRoles row hrow := (h.membershipRoles row hrow).symm
  serviceAccountRoles row hrow := (h.serviceAccountRoles row hrow).symm
  rolePermissions row hrow := (h.rolePermissions row hrow).symm
  delegationGrants row hrow := (h.delegationGrants row hrow).symm
  denyGrants row hrow := (h.denyGrants row hrow).symm
  supportAccessRequests row hrow := (h.supportAccessRequests row hrow).symm

lemma hasStatus (h : AgreeUnder db db' c) {p : TenantStatus → Bool} (hp : db.HasStatus p c) :
    db'.HasStatus p c := by
  obtain ⟨tenant, hmem, hid, hstatus⟩ := hp
  obtain ⟨tenant', hmem', hid', heq⟩ := (h.status tenant.status).mp ⟨tenant, hmem, hid, rfl⟩
  exact ⟨tenant', hmem', hid', heq ▸ hstatus⟩

variable {resource action : String}

lemma roleGrants (h : AgreeUnder db db' c) (hcatalog : SameCatalog db db') {roleId : Uuid}
    (hgrants : db.RoleGrants c roleId resource action) :
    db'.RoleGrants c roleId resource action := by
  obtain ⟨grant, hmem, htenant, hrole, p, hp, hname⟩ := hgrants
  have hmem' := (h.rolePermissions grant htenant).mp hmem
  have hp' := (hcatalog p).mp hp
  exact ⟨grant, hmem', htenant, hrole, p, hp', hname⟩

variable {userId : Uuid} {s : RoleScope}

section

variable (h : AgreeUnder db db' c)

include h

lemma holdsByMembership (hcatalog : SameCatalog db db')
    (hholds : db.HoldsByMembership userId c s resource action) :
    db'.HoldsByMembership userId c s resource action := by
  obtain ⟨m, hm, ht, hu, hactive, assignment, hmem, hat, ham, hscope, hgrants⟩ := hholds
  have hm' := (h.tenantMemberships m ht).mp hm
  have hmem' := (h.membershipRoles assignment hat).mp hmem
  have hgrants' := h.roleGrants hcatalog hgrants
  exact ⟨m, hm', ht, hu, hactive, assignment, hmem', hat, ham, hscope, hgrants'⟩

lemma holdsByServiceAccountRole (hcatalog : SameCatalog db db') {serviceAccountId : Uuid}
    (hholds : db.HoldsByServiceAccountRole serviceAccountId c s resource action) :
    db'.HoldsByServiceAccountRole serviceAccountId c s resource action := by
  obtain ⟨assignment, hmem, hat, haa, hscope, hgrants⟩ := hholds
  have hmem' := (h.serviceAccountRoles assignment hat).mp hmem
  have hgrants' := h.roleGrants hcatalog hgrants
  exact ⟨assignment, hmem', hat, haa, hscope, hgrants'⟩

lemma memberWith {p : MembershipStatus → Prop} (hmember : db.MemberWith p c userId) :
    db'.MemberWith p c userId := by
  obtain ⟨m, hm, ht, hu, hp⟩ := hmember
  have hm' := (h.tenantMemberships m ht).mp hm
  exact ⟨m, hm', ht, hu, hp⟩

lemma carries (hcatalog : SameCatalog db db') (now : Instant) (request : AccessRequest) :
    AuthorityCarries db db' now now request c where
  accessible hacc := h.hasStatus hacc
  role s hrole := by
    unfold HoldsByRole at hrole ⊢
    split at hrole
    · next huser =>
      rw [if_pos huser]
      exact h.holdsByMembership hcatalog hrole
    · next huser =>
      rw [if_neg huser]
      exact h.holdsByServiceAccountRole hcatalog hrole
  delegation s hdel := by
    obtain ⟨hmember, grant, hmem, ht, hty, hact, hscope, hrev, hstart, hexp, p, hp, hname⟩ := hdel
    have hmem' := (h.delegationGrants grant ht).mp hmem
    have hp' := (hcatalog p).mp hp
    refine ⟨fun huser hmember' => ?_, grant, hmem', ht, hty, hact, hscope, hrev, hstart, hexp, p,
      hp', hname⟩
    exact hmember huser (h.symm.memberWith hmember')
  deny s hdeny := by
    obtain ⟨grant, hmem, ht, hty, hact, hscope, hrev, p, hp, hname⟩ := hdeny
    have hmem' := (h.denyGrants grant ht).mpr hmem
    have hp' := (hcatalog p).mpr hp
    exact ⟨grant, hmem', ht, hty, hact, hscope, hrev, p, hp', hname⟩
  support _ s hopen hsup := by
    obtain ⟨r, hmem, ht, hrest⟩ := hsup
    have hmem' := (h.supportAccessRequests r ht).mp hmem
    exact ⟨h.hasStatus hopen, r, hmem', ht, hrest⟩

end

end AgreeUnder

/-- The two states agree on everything the request is about: the actor's own row, the ancestry rows
of the target, the rows stored under the target and under each of its ancestors, and the permission
catalog. -/
structure AgreeFor (db db' : Tables) (request : AccessRequest) : Prop where
  user : request.actorType = .user →
    ∀ row : User, row.id = request.actorId → (row ∈ db.users ↔ row ∈ db'.users)
  serviceAccount : request.actorType = .serviceAccount → ∀ row : ServiceAccount,
    row.id = request.actorId → some row.tenantId = request.actorTenantId →
    (row ∈ db.serviceAccounts ↔ row ∈ db'.serviceAccounts)
  ancestry : ∀ row : TenantAncestry, row.tenantId = request.tenantId →
    (row ∈ db.tenantAncestry ↔ row ∈ db'.tenantAncestry)
  under : ∀ c, c = request.tenantId ∨ db.IsStrictAncestor c request.tenantId → AgreeUnder db db' c
  catalog : SameCatalog db db'

namespace AgreeFor

variable {db db' : Tables} {request : AccessRequest}

lemma isStrictAncestor_iff (h : AgreeFor db db' request) (a : Uuid) :
    db.IsStrictAncestor a request.tenantId ↔ db'.IsStrictAncestor a request.tenantId := by
  constructor
  · rintro ⟨hne, row, hrow, ht, ha⟩
    exact ⟨hne, row, (h.ancestry row ht).mp hrow, ht, ha⟩
  · rintro ⟨hne, row, hrow, ht, ha⟩
    exact ⟨hne, row, (h.ancestry row ht).mpr hrow, ht, ha⟩

lemma symm (h : AgreeFor db db' request) : AgreeFor db' db request where
  user hty row hrow := (h.user hty row hrow).symm
  serviceAccount hty row hrow ht := (h.serviceAccount hty row hrow ht).symm
  ancestry row hrow := (h.ancestry row hrow).symm
  under c hc := (h.under c (hc.imp_right (h.isStrictAncestor_iff c).mpr)).symm
  catalog row := (h.catalog row).symm

lemma actorMayAct (h : AgreeFor db db' request) (hactor : db.ActorMayAct request) :
    db'.ActorMayAct request := by
  rcases hactor with ⟨hty, user, hmem, hid, hactive⟩ | ⟨hty, account, hmem, ht, hid, hactive⟩
  · have hmem' := (h.user hty user hid).mp hmem
    exact Or.inl ⟨hty, user, hmem', hid, hactive⟩
  · have hmem' := (h.serviceAccount hty account hid ht.symm).mp hmem
    exact Or.inr ⟨hty, account, hmem', ht, hid, hactive⟩

lemma allowed (h : AgreeFor db db' request) {now : Instant}
    (hallowed : Allowed db.IsStrictAncestor db now request) :
    Allowed db'.IsStrictAncestor db' now request :=
  hallowed.carries h.isStrictAncestor_iff (fun hopen => (h.under _ (Or.inl rfl)).hasStatus hopen)
    h.actorMayAct fun c hc => (h.under c hc).carries h.catalog now request

end AgreeFor

end Tables

namespace Database

/-- Tenant isolation of the decision: two states that agree on the actor's row, on the ancestry rows
of the target, on the rows stored under the target and under each of its ancestors and on the
catalog give the same answer, whatever other tenants store. -/
theorem can_eq_of_agreeFor (db db' : Database) (now : Instant) (request : AccessRequest)
    (h : Tables.AgreeFor db.toTables db'.toTables request) :
    db.can now request = db'.can now request := by
  rw [Bool.eq_iff_iff, db.can_iff_allowed, db'.can_iff_allowed]
  exact ⟨h.allowed, h.symm.allowed⟩

end Database

/-- The two-tier registry with a second tree: tenant `3` with its own owner, who denies everything
to everyone there. -/
def twoTreesTables : Tables :=
  { twoTierTables with
    tenants := twoTierTables.tenants ++ [⟨3, "other", .suspended, none⟩]
    tenantAncestry := ⟨3, 3, 0⟩ :: twoTierTables.tenantAncestry
    users := twoTierTables.users ++ [⟨12, false⟩]
    tenantMemberships := ⟨104, 3, 10, .revoked, 5⟩ :: twoTierTables.tenantMemberships
    denyGrants := [⟨500, 3, .user, some 10, none, .subtree, 7, none⟩] }

def twoTreesDatabase : Database := ⟨twoTreesTables, by decide⟩

/-- A revoked membership and a deny in an unrelated tree change nothing for the first tree. -/
theorem can_eq_of_agreeFor_twoTrees :
    twoTierDatabase.can 0 ⟨10, 2, "read", "report", .user, none, false⟩ =
      twoTreesDatabase.can 0 ⟨10, 2, "read", "report", .user, none, false⟩ := by
  apply Database.can_eq_of_agreeFor
  have hchain : ∀ c, c = 2 ∨ twoTierTables.IsStrictAncestor c 2 → c = 2 ∨ c = 1 := by
    rintro c (hc | ⟨-, row, hrow, ht, rfl⟩)
    · exact Or.inl hc
    · simp only [twoTierTables, List.mem_cons, List.not_mem_nil, or_false] at hrow
      rcases hrow with rfl | rfl | rfl <;> simp_all
  refine ⟨?_, ?_, ?_, ?_, ?_⟩
  · rintro - ⟨id, active⟩ rfl
    simp [twoTierDatabase, twoTreesDatabase, twoTreesTables, twoTierTables]
  · rintro ⟨⟩
  · rintro ⟨t, a, d⟩ rfl
    simp [twoTierDatabase, twoTreesDatabase, twoTreesTables, twoTierTables]
  · intro c hc
    rcases hchain c hc with rfl | rfl <;> constructor <;>
      simp +contextual [twoTierDatabase, twoTreesDatabase, twoTreesTables, twoTierTables]
    -- the rows that only the second tree stores belong to tenant `3`
    all_goals
      rintro row hrow rfl
      simp at hrow
  · intro row
    exact Iff.rfl

end SaasOs
