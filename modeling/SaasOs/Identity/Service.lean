import SaasOs.Rbac.GuardedChange

/-!
# Memberships

Joining a tenant, and the three transitions of a membership's status.  A transition is described by
its verb, the statuses it starts from, the status it leads to and the statuses in which there is
nothing to do; a transition away from the active status is a guarded change of authority.
-/

namespace SaasOs

/-! ## Transitions of a membership -/

/-- One of the three membership transitions. -/
structure MembershipTransition where
  verb : String
  allowedFrom : List MembershipStatus
  toStatus : MembershipStatus
  idempotentFrom : List MembershipStatus

namespace MembershipTransition

def suspend : MembershipTransition := ⟨"suspend", [.active], .suspended, [.suspended]⟩

def reactivate : MembershipTransition := ⟨"reactivate", [.suspended], .active, [.active]⟩

def revoke : MembershipTransition := ⟨"revoke", [.active, .suspended], .revoked, [.revoked]⟩

def removing (transition : MembershipTransition) : Bool := decide (transition.toStatus ≠ .active)

end MembershipTransition

namespace Tables

def getMembershipById (db : Tables) (tenantId membershipId : Uuid) : Result TenantMembership :=
  match db.membershipById? tenantId membershipId with
  | none => .error (.membershipNotFound tenantId membershipId)
  | some membership => .ok membership

end Tables

/-- The change a transition makes to a membership: none where it is idempotent, an error where it is
not allowed. -/
def MembershipTransition.changeOf (transition : MembershipTransition)
    (membership : TenantMembership) : Result (Option GuardedChange) :=
  if transition.idempotentFrom.contains membership.status then
    .ok none
  else if transition.allowedFrom.contains membership.status then
    .ok (some
      { change := .setMembershipStatus membership.id transition.toStatus
        affectedUsers := [membership.userId]
        membershipId := some membership.id })
  else
    .error (.invalidMembershipTransition membership.id membership.status transition.toStatus)

namespace Database

def planTransitionMembershipStatus (db : Database) (now : Instant) (newId : Uuid)
    (tenantId membershipId : Uuid) (transition : MembershipTransition) (caller : Caller) : Plan := do
  let session ← db.authorizeCaller now newId caller (transition.verb ++ "_membership") tenantId
    "membership" transition.verb
  let membership ← .check (session.getMembershipById tenantId membershipId)
  let planned ← .check (transition.changeOf membership)
  return (session, planned)

def performUnguarded (plan : Plan) : Result Database := do
  let planned ← plan.result
  planned.2.elim (.ok planned.1) fun change => planned.1.writeRow change.change

def transitionMembershipStatus (db : Database) (now : Instant) (newId : Uuid)
    (tenantId membershipId : Uuid) (transition : MembershipTransition) (caller : Caller) :
    Result Database :=
  let plan := db.planTransitionMembershipStatus now newId tenantId membershipId transition caller
  if transition.removing then performGuarded now tenantId plan else performUnguarded plan

def suspendMembership (db : Database) (now : Instant) (newId : Uuid) (tenantId membershipId : Uuid)
    (caller : Caller) : Result Database :=
  db.transitionMembershipStatus now newId tenantId membershipId .suspend caller

def reactivateMembership (db : Database) (now : Instant) (newId : Uuid)
    (tenantId membershipId : Uuid) (caller : Caller) : Result Database := do
  let _ ← db.requireOpenTenant tenantId
  db.transitionMembershipStatus now newId tenantId membershipId .reactivate caller

def revokeMembership (db : Database) (now : Instant) (newId : Uuid) (tenantId membershipId : Uuid)
    (caller : Caller) : Result Database :=
  db.transitionMembershipStatus now newId tenantId membershipId .revoke caller

/-! ## Joining a tenant -/

def planAddTenantMembership (db : Database) (now : Instant) (newId : Uuid) (tenantId : Uuid)
    (caller : Caller) : Transaction Database := do
  let _ ← .check (db.requireOpenTenant tenantId)
  db.authorizeCaller now newId caller "add_tenant_membership" tenantId "membership" "create"
    provisioningAuthorities

def addTenantMembership (db : Database) (now : Instant) (ids : NewIds) (tenantId userId : Uuid)
    (caller : Caller) : Result Database := do
  let session ← (db.planAddTenantMembership now ids.permission tenantId caller).result
  flush .integrityError
    { session.toTables with
      tenantMemberships := session.tenantMemberships ++
        [⟨ids.row, tenantId, userId, .active, now⟩] }

/-! ## Soundness of the plan -/

lemma planTransitionMembershipStatus_sound (db : Database) (now : Instant) (newId : Uuid)
    (tenantId membershipId : Uuid) (transition : MembershipTransition)
    (hremoving : transition.toStatus ≠ .active) (caller : Caller) :
    db.SoundPlan tenantId
      (db.planTransitionMembershipStatus now newId tenantId membershipId transition caller) := by
  intro session planned? h
  unfold planTransitionMembershipStatus at h
  simp only [LockedExcept.result_bind, LockedExcept.result_check, LockedExcept.result_pure,
    bind_eq_ok] at h
  obtain ⟨session', hauthorized, membership, hmembership, planned', hchange, hdone⟩ := h
  cases hdone
  obtain ⟨rfl, -⟩ := authorizeCaller_ok (by decide) hauthorized
  have hfind : session.membershipById? tenantId membershipId = some membership := by
    unfold Tables.getMembershipById at hmembership
    cases hlookup : session.membershipById? tenantId membershipId with
    | none => rw [hlookup] at hmembership; cases hmembership
    | some row => rw [hlookup] at hmembership; cases hmembership; rfl
  obtain ⟨hmem, htenant, -⟩ := Tables.membershipById?_eq_some hfind
  refine ⟨rfl, ?_⟩
  rintro planned ⟨⟩
  unfold MembershipTransition.changeOf at hchange
  split at hchange
  · cases hchange
  · split at hchange
    · cases hchange
      refine ⟨⟨List.mem_map_of_mem hmem, ?_⟩, hremoving⟩
      intro m hm hid
      have heq : m = membership :=
        session.constraints.unique.tenant_memberships_pk.eq_of_key_eq hm hmem hid
      subst heq
      exact ⟨htenant, List.mem_singleton.mpr rfl⟩
    · cases hchange

end Database

end SaasOs
