import SaasOs.Rbac.InterleavedGuard

/-!
# Removals and joins widen nothing

However guarded mutations and joins are interleaved, nobody may do afterwards what they might not do
before: a row change that takes authority away carries every decision back, and no role is assigned
to a membership that is new.
-/

namespace SaasOs

open Tables

namespace RowChange

variable {change : RowChange} {db : Tables} {now : Instant} {actorId c : Uuid}
  {actorType : PrincipalType} {s : RoleScope} {resource action : String}

/-! ## What is still there was there before -/

/-- No membership becomes active. -/
lemma mem_memberships_of_apply (hremoves : change.Removes) {m : TenantMembership}
    (hm : m ∈ (change.apply db).tenantMemberships) (hactive : m.status = .active) :
    m ∈ db.tenantMemberships := by
  cases change with
  | setMembershipStatus membershipId status =>
    obtain ⟨m₀, hm₀, rfl⟩ := List.mem_map.mp hm
    split at hactive
    · exact absurd hactive hremoves
    · next hid => rwa [if_neg hid]
  | _ => exact hm

lemma namesPermission_of_apply {permissionId : Uuid}
    (h : (change.apply db).NamesPermission permissionId resource action) :
    db.NamesPermission permissionId resource action := by
  cases change <;> exact h

lemma roleGrants_of_apply {roleId : Uuid}
    (h : (change.apply db).RoleGrants c roleId resource action) :
    db.RoleGrants c roleId resource action := by
  obtain ⟨grant, hgrant, htenant, hrole, hnames⟩ := h
  exact ⟨grant, mem_rolePermissions_of_apply hgrant, htenant, hrole, namesPermission_of_apply hnames⟩

/-- No role assignment appears. -/
lemma holdsByRole_of_apply (hremoves : change.Removes)
    (h : (change.apply db).HoldsByRole actorId actorType c s resource action) :
    db.HoldsByRole actorId actorType c s resource action := by
  unfold HoldsByRole at h ⊢
  split at h
  · next huser =>
    obtain ⟨m, hm, hc, hu, hactive, assignment, hassignment, hat, ham, hs, hgrants⟩ := h
    rw [if_pos huser]
    exact ⟨m, mem_memberships_of_apply hremoves hm hactive, hc, hu, hactive, assignment,
      mem_membershipRoles_of_apply hassignment, hat, ham, hs, roleGrants_of_apply hgrants⟩
  · next huser =>
    obtain ⟨assignment, hassignment, hat, haa, hs, hgrants⟩ := h
    have hbefore : assignment ∈ db.serviceAccountRoles := by
      cases change <;> exact hassignment
    rw [if_neg huser]
    exact ⟨assignment, hbefore, hat, haa, hs, roleGrants_of_apply hgrants⟩

lemma holdsByDelegation_of_apply (hremoves : change.Removes) {ignoreExpiring : Bool}
    (h : (change.apply db).HoldsByDelegation now actorId actorType c s resource action
      ignoreExpiring) :
    db.HoldsByDelegation now actorId actorType c s resource action ignoreExpiring := by
  cases change with
  | setMembershipStatus membershipId status =>
    -- a membership that is not active stays one
    refine ⟨fun huser => ?_, h.2⟩
    rintro ⟨m, hm, hc, hu, hstatus⟩
    refine h.1 huser ⟨_, List.mem_map.mpr ⟨m, hm, rfl⟩, ?_⟩
    split
    · exact ⟨hc, hu, hremoves⟩
    · exact ⟨hc, hu, hstatus⟩
  | revokeDelegationGrant id revokedAt =>
    obtain ⟨hmember, grant, hgrant, hc, hty, hu, hs, hrevoked, hrest⟩ := h
    obtain ⟨grant₀, hgrant₀, rfl⟩ := List.mem_map.mp hgrant
    split at hrevoked
    · cases hrevoked
    · next hid =>
      simp only [if_neg hid] at hc hty hu hs hrest
      exact ⟨hmember, grant₀, hgrant₀, hc, hty, hu, hs, hrevoked, hrest⟩
  | _ => exact h

/-- No deny is lifted. -/
lemma deniesAt_apply (h : db.DeniesAt actorId actorType c s resource action) :
    (change.apply db).DeniesAt actorId actorType c s resource action := by
  cases change with
  | insertDenyGrant grant =>
    obtain ⟨deny, hdeny, hrest⟩ := h
    exact ⟨deny, List.mem_append_left _ hdeny, hrest⟩
  | _ => exact h

/-- What is allowed was allowed before. -/
lemma allowed_of_apply (hremoves : change.Removes) {request : AccessRequest}
    (h : Allowed (change.apply db).IsStrictAncestor (change.apply db) now request) :
    Allowed db.IsStrictAncestor db now request := by
  refine h.carries ?_ ?_ ?_ fun c _ => ⟨?_, fun s => holdsByRole_of_apply hremoves,
    fun s => holdsByDelegation_of_apply hremoves, fun s => deniesAt_apply, ?_⟩
  · cases change <;> exact fun _ => .rfl
  · cases change <;> exact id
  · cases change <;> exact id
  · cases change <;> exact id
  · cases change <;> exact fun _ _ hopen hsupported => ⟨hopen, hsupported⟩

end RowChange

/-- A new member has no roles. -/
lemma Database.allowed_of_joinedBy {db db' : Database} {tenantId userId : Uuid} {now : Instant}
    {request : AccessRequest} (hjoined : db.JoinedBy db'.toTables tenantId userId)
    (h : Allowed db'.IsStrictAncestor db'.toTables now request) :
    Allowed db.IsStrictAncestor db.toTables now request := by
  obtain ⟨invitations, joined, htables, -⟩ := hjoined
  have hmemberships : db'.tenantMemberships = db.tenantMemberships ++ joined := by rw [htables]
  rw [htables] at h
  refine h.carries ?_ ?_ ?_ fun c _ => ⟨?_, fun s hrole => ?_, fun s hdelegation => ?_, ?_, ?_⟩
  · exact fun _ => .rfl
  · exact id
  · exact id
  · exact id
  · unfold HoldsByRole at hrole ⊢
    split at hrole
    · next huser =>
      obtain ⟨m, hm, hc, hu, hactive, assignment, hassignment, hat, ham, hrest⟩ := hrole
      rw [if_pos huser]
      rcases List.mem_append.mp hm with hold | hnew
      · exact ⟨m, hold, hc, hu, hactive, assignment, hassignment, hat, ham, hrest⟩
      · obtain ⟨m₀, hm₀, hpair⟩ := List.mem_map.mp
          (db.constraints.foreignKeys.membership_roles_tenant_membership _ hassignment)
        exact absurd ((congrArg Prod.snd hpair).trans ham).symm (ne_id_of_joined hmemberships hnew hm₀)
    · next huser =>
      rw [if_neg huser]
      exact hrole
  · refine ⟨fun huser => ?_, hdelegation.2⟩
    rintro ⟨m, hm, hrest⟩
    exact hdelegation.1 huser ⟨m, List.mem_append_left _ hm, hrest⟩
  · exact fun _ => id
  · exact fun _ _ hopen hsupported => ⟨hopen, hsupported⟩

/-! ## Runs -/

/-- The change to be made. -/
def Phase.planned? : Phase → Option GuardedChange
  | authorized planned => some planned
  | phase => phase.target?.map GuardTarget.planned

namespace System

/-- Every change that is planned takes authority away. -/
def OnlyRemoves (s : System) : Prop :=
  ∀ i transaction, s.transaction i = some transaction →
    ∀ planned ∈ transaction.phase.planned?, planned.change.Removes

/-- In `s'` nobody may do what they might not do in `s`, at any tenant and at any instant. -/
def Narrows (s s' : System) : Prop :=
  ∀ now request, s'.db.can now request ≤ s.db.can now request

variable {s s' : System} {i : ℕ} {mutation : GuardedMutation} {phase : Phase}

lemma OnlyRemoves.proceed (h : s.OnlyRemoves) {locks : LockTable LockKey ℕ}
    (hphase : ∀ planned ∈ phase.planned?, planned.change.Removes) :
    (s.proceed i mutation locks phase).OnlyRemoves := by
  intro j transaction hj
  by_cases hji : j = i
  · subst hji
    rw [proceed_transaction_self] at hj
    cases hj
    exact hphase
  · rw [proceed_transaction_of_ne s hji] at hj
    exact h j transaction hj

lemma OnlyRemoves.close (h : s.OnlyRemoves) (i : ℕ) : (s.close i).OnlyRemoves := by
  intro j transaction hj
  by_cases hji : j = i
  · subst hji
    rw [close_transaction_self] at hj
    cases hj
  · rw [close_transaction_of_ne s hji] at hj
    exact h j transaction hj

lemma OnlyRemoves.settle (h : s.OnlyRemoves) {locks : LockTable LockKey ℕ}
    {found : Result (Option Phase)}
    (hfound : ∀ phase, found = .ok (some phase) → ∀ planned ∈ phase.planned?, planned.change.Removes) :
    (s.settle i mutation locks found).OnlyRemoves ∧ s.Narrows (s.settle i mutation locks found) := by
  unfold System.settle
  split
  · exact ⟨h.proceed (hfound _ rfl), fun _ _ => le_rfl⟩
  · exact ⟨h.close i, fun _ _ => le_rfl⟩
  · exact ⟨h.close i, fun _ _ => le_rfl⟩

lemma OnlyRemoves.commit (h : s.OnlyRemoves) {change : RowChange} (hremoves : change.Removes) :
    (s.commit i change).OnlyRemoves ∧ s.Narrows (s.commit i change) := by
  unfold System.commit
  split
  · next db hwritten =>
    refine ⟨h.close i, fun now request => Bool.le_iff_imp.mpr fun hcan => ?_⟩
    rw [Database.can_iff_allowed] at hcan ⊢
    change Allowed db.IsStrictAncestor db.toTables now request at hcan
    rw [writeRow_ok hwritten] at hcan
    exact RowChange.allowed_of_apply hremoves hcan
  · exact ⟨h.close i, fun _ _ => le_rfl⟩

/-- Only the commit writes. -/
lemma OnlyRemoves.advance (h : s.OnlyRemoves)
    (hphase : ∀ planned ∈ phase.planned?, planned.change.Removes)
    (hadvance : s.advance i mutation phase = some s') : s'.OnlyRemoves ∧ s.Narrows s' := by
  cases phase with
  | begun =>
    obtain ⟨locks, -, hdone⟩ := Option.bind_eq_some_iff.mp hadvance
    cases hdone
    exact ⟨h.proceed nofun, fun _ _ => le_rfl⟩
  | ownTenantLocked =>
    obtain ⟨locks, -, hdone⟩ := Option.bind_eq_some_iff.mp hadvance
    cases hdone
    refine h.settle fun phase hfound => ?_
    obtain ⟨⟨session, planned?⟩, hplan, hsome⟩ := map_eq_ok.mp hfound
    obtain ⟨planned, rfl, rfl⟩ := Option.map_eq_some_iff.mp hsome
    rintro _ ⟨⟩
    exact ((mutation.plan_sound s.db s.now session (some planned) hplan).2 planned rfl).2
  | authorized planned =>
    cases hadvance
    exact ⟨h.proceed hphase, fun _ _ => le_rfl⟩
  | locking target pending =>
    cases pending
    all_goals
      obtain ⟨locks, -, hdone⟩ := Option.bind_eq_some_iff.mp hadvance
      cases hdone
      exact ⟨h.proceed hphase, fun _ _ => le_rfl⟩
  | recorded target guard =>
    obtain ⟨locks, -, hdone⟩ := Option.bind_eq_some_iff.mp hadvance
    cases hdone
    refine h.settle fun phase hfound => ?_
    obtain ⟨_, -, hsome⟩ := map_eq_ok.mp hfound
    cases hsome
    exact hphase
  | changed target guard =>
    obtain ⟨locks, -, hdone⟩ := Option.bind_eq_some_iff.mp hadvance
    cases hdone
    refine h.settle fun phase hfound => ?_
    obtain ⟨⟨⟩, -, hsome⟩ := map_eq_ok.mp hfound
    cases hsome
    exact hphase
  | verified target =>
    cases hadvance
    exact h.commit (hphase target.planned rfl)

variable {hashInvitationToken : String → String}

/-- Every event narrows. -/
lemma OnlyRemoves.step (h : s.OnlyRemoves) {action : Action}
    (hstep : s.step hashInvitationToken action = some s') : s'.OnlyRemoves ∧ s.Narrows s' := by
  cases action with
  | begin i mutation =>
    obtain ⟨-, hdone⟩ := Option.ite_none_right_eq_some.mp hstep
    cases hdone
    exact ⟨h.proceed nofun, fun _ _ => le_rfl⟩
  | advance i =>
    obtain ⟨transaction, htransaction, hadvance⟩ := Option.bind_eq_some_iff.mp hstep
    exact h.advance (h i transaction htransaction) hadvance
  | abort i =>
    obtain ⟨_, -, hdone⟩ := Option.bind_eq_some_iff.mp hstep
    cases hdone
    exact ⟨h.close i, fun _ _ => le_rfl⟩
  | join i call =>
    obtain ⟨-, hjoin⟩ := Option.ite_none_right_eq_some.mp hstep
    obtain ⟨_, -, hdone⟩ := Option.bind_eq_some_iff.mp hjoin
    cases hdone
    cases hcall : call.perform hashInvitationToken s.db s.now with
    | error e => exact ⟨h, fun _ _ => le_rfl⟩
    | ok db =>
      refine ⟨h, fun now request => Bool.le_iff_imp.mpr fun hcan => ?_⟩
      rw [Database.can_iff_allowed] at hcan ⊢
      exact Database.allowed_of_joinedBy (JoinCall.perform_joinedBy hcall) hcan
  | tick now =>
    obtain ⟨-, hdone⟩ := Option.ite_none_right_eq_some.mp hstep
    cases hdone
    exact ⟨h, fun _ _ => le_rfl⟩

lemma OnlyRemoves.run (h : s.OnlyRemoves) {actions : List Action}
    (hrun : s.run hashInvitationToken actions = some s') : s.Narrows s' := by
  induction actions generalizing s with
  | nil =>
    cases hrun
    exact fun _ _ => le_rfl
  | cons action actions ih =>
    obtain ⟨s₁, hstep, hrest⟩ := Option.bind_eq_some_iff.mp hrun
    obtain ⟨h₁, hnarrows⟩ := h.step hstep
    exact fun now request => (ih h₁ hrest now request).trans (hnarrows now request)

/-- **Removals and joins widen nothing.**  However guarded mutations and joins are interleaved, every
actor may do at most what they might do before, at every tenant and at every instant. -/
theorem run_can_le (db : Database) (now : Instant) (actions : List Action) (s : System)
    (hrun : (initial db now).run hashInvitationToken actions = some s) (at' : Instant)
    (request : AccessRequest) : s.db.can at' request ≤ db.can at' request := by
  have hstart : (initial db now).OnlyRemoves := by
    intro i transaction hi
    cases hi
  exact hstart.run hrun at' request

end System

/-- A join and a deny. -/
theorem run_can_le_timely :
    ∃ s, (System.initial raceDatabase 0).run id timelyActions = some s ∧
      ∀ now request, s.db.can now request ≤ raceDatabase.can now request := by
  have hrun : ((System.initial raceDatabase 0).run id timelyActions).isSome = true := by
    decide +kernel
  obtain ⟨s, hs⟩ := Option.isSome_iff_exists.mp hrun
  exact ⟨s, hs, System.run_can_le raceDatabase 0 timelyActions s hs⟩

end SaasOs
