import SaasOs.Rbac.Isolation

/-!
# The last-tenant-administrator guard

An administrator of a tenant is an active member for whom `can` allows `membership_role:create`
there without any delegation that carries an expiry.  A guarded mutation records one administrator
of every tenant the change can reach (`guardLastAdministrator`, `guardTenants`), changes its rows
and asks the same question again (`AdministratorGuard.verify`); if a tenant that had an
administrator has none, it raises and is rolled back.
-/

namespace SaasOs

open Rows

def administratorRequest (tenantId userId : Uuid) : AccessRequest where
  actorId := userId
  tenantId := tenantId
  action := "create"
  resource := "membership_role"
  ignoreExpiringDelegations := true

/-- One administrator, or none, of each guarded tenant, as it was before the mutation. -/
structure AdministratorGuard where
  before : List (Uuid × Option Uuid)

namespace Tables

/-! ## Finding an administrator -/

/-- Does `can` make the user an administrator of the tenant? -/
def isAdministrator (db : Tables) (now : Instant) (tenantId userId : Uuid) : Locked Bool :=
  db.canLocked now (administratorRequest tenantId userId)

def isActiveMember (db : Tables) (tenantId : Uuid) (userIds : List Uuid) : Bool :=
  db.tenantMemberships.any fun row =>
    row.tenantId == tenantId && userIds.contains row.userId && decide (row.status = .active)

def oldestFirst (a b : TenantMembership) : Prop :=
  a.createdAt < b.createdAt ∨ (a.createdAt = b.createdAt ∧ a.id ≤ b.id)

instance : DecidableRel oldestFirst := fun _ _ =>
  inferInstanceAs (Decidable (_ ∨ _))

def activeMembers (db : Tables) (tenantId : Uuid) : List Uuid :=
  ((db.tenantMemberships.filter fun row =>
    row.tenantId == tenantId && decide (row.status = .active)).insertionSort oldestFirst).map
      TenantMembership.userId

def firstChoiceAdministers (db : Tables) (now : Instant) (tenantId : Uuid)
    (tryFirst excluding : Option Uuid) : Locked Bool :=
  match tryFirst with
  | none => pure false
  | some userId =>
    if tryFirst ≠ excluding ∧ db.isActiveMember tenantId [userId] = true then
      db.isAdministrator now tenantId userId
    else
      pure false

/-- The user id of one administrator of the tenant, or none. -/
def findAdministrator (db : Tables) (now : Instant) (tenantId : Uuid)
    (tryFirst excluding : Option Uuid := none) : Locked (Option Uuid) := do
  if ← db.firstChoiceAdministers now tenantId tryFirst excluding then
    return tryFirst
  else
    (db.activeMembers tenantId).findM? fun userId =>
      if some userId = tryFirst ∨ some userId = excluding then pure false
      else db.isAdministrator now tenantId userId

/-! ## The guard -/

def guardTenants (db : Tables) (now : Instant) (tenantIds : List Uuid) :
    Locked AdministratorGuard := do
  let before ← LockedRead.forEach
    (fun tenantId => do
      let administrator ← db.findAdministrator now tenantId
      return (tenantId, administrator))
    tenantIds
  return ⟨before⟩

def reachedDescendants (db : Tables) (tenantId : Uuid) (affectedUsers : List Uuid) : List Uuid :=
  (db.descendantIdsByDepth tenantId).filter fun descendantId =>
    db.isActiveMember descendantId affectedUsers

/-- Record who administers the tenant, and every descendant of it in which one of the affected users
is an active member. -/
def guardLastAdministrator (db : Tables) (now : Instant) (tenantId : Uuid)
    (affectedUsers : List Uuid) : Locked AdministratorGuard :=
  db.guardTenants now (tenantId :: db.reachedDescendants tenantId affectedUsers)

def lostAdministrator (db : Tables) (now : Instant) (guarded : Uuid × Option Uuid) : Locked Bool :=
  match guarded.2 with
  | none => pure false
  | some administratorBefore => do
    let administrator ← db.findAdministrator now guarded.1 (some administratorBefore)
    return administrator.isNone

end Tables

def AdministratorGuard.verify (guard : AdministratorGuard) (db : Tables) (now : Instant)
    (membershipId : Option Uuid := none) : Locked (Result Unit) := do
  match ← guard.before.findM? (db.lostAdministrator now) with
  | none => return .ok ()
  | some (tenantId, _) => return .error (.lastTenantAdministrator tenantId membershipId)

namespace Tables

/-! ## What the search and the guard are worth -/

/-- The user is an administrator of the tenant: an active member whom `can` allows to assign roles
without an expiring delegation. -/
def Administrator (db : Tables) (now : Instant) (tenantId userId : Uuid) : Prop :=
  db.ActiveMember tenantId userId ∧ db.can now (administratorRequest tenantId userId) = true

/-- The tenant has an active member that may administer it. -/
def HasAdministrator (db : Tables) (now : Instant) (tenantId : Uuid) : Prop :=
  ∃ userId, db.Administrator now tenantId userId

variable {db : Tables} {tenantId : Uuid}

lemma isActiveMember_iff {userIds : List Uuid} :
    db.isActiveMember tenantId userIds = true ↔
      ∃ userId ∈ userIds, db.ActiveMember tenantId userId := by
  unfold isActiveMember ActiveMember MemberWith
  simp only [List.any_eq_true, Bool.and_eq_true, beq_iff_eq, List.contains_iff_mem,
    decide_eq_true_eq]
  constructor
  · rintro ⟨row, hrow, ⟨ht, hu⟩, hactive⟩
    exact ⟨row.userId, hu, row, hrow, ht, rfl, hactive⟩
  · rintro ⟨userId, hu, row, hrow, ht, rfl, hactive⟩
    exact ⟨row, hrow, ⟨ht, hu⟩, hactive⟩

lemma mem_activeMembers {tenantId userId : Uuid} :
    userId ∈ db.activeMembers tenantId ↔ db.ActiveMember tenantId userId := by
  unfold activeMembers ActiveMember MemberWith
  simp only [List.mem_map, List.mem_insertionSort, List.mem_filter, Bool.and_eq_true, beq_iff_eq,
    decide_eq_true_eq]
  constructor
  · rintro ⟨row, ⟨hrow, ht, hactive⟩, hu⟩
    exact ⟨row, hrow, ht, hu, hactive⟩
  · rintro ⟨row, hrow, ht, hu, hactive⟩
    exact ⟨row, ⟨hrow, ht, hactive⟩, hu⟩

variable {now : Instant}

variable {tryFirst excluding : Option Uuid}

lemma firstChoiceAdministers_iff :
    (db.firstChoiceAdministers now tenantId tryFirst excluding).val = true ↔
      ∃ userId, tryFirst = some userId ∧ tryFirst ≠ excluding ∧
        db.Administrator now tenantId userId := by
  unfold firstChoiceAdministers Administrator
  cases tryFirst with
  | none => simp
  | some userId =>
    have hmember : db.isActiveMember tenantId [userId] = true ↔ db.ActiveMember tenantId userId := by
      simp [isActiveMember_iff]
    rw [LockedRead.val_ite]
    split
    · next h => simp [h.1, hmember.mp h.2, can, isAdministrator]
    · next h =>
      constructor
      · intro hfalse
        cases hfalse
      · rintro ⟨_, ⟨⟩, hne, hactive, -⟩
        exact absurd ⟨hne, hmember.mpr hactive⟩ h

lemma isSome_findAdministrator_iff :
    (db.findAdministrator now tenantId tryFirst excluding).val.isSome = true ↔
      ∃ userId, some userId ≠ excluding ∧ db.Administrator now tenantId userId := by
  unfold findAdministrator
  rw [LockedRead.val_bind, LockedRead.val_ite]
  by_cases hfirst : (db.firstChoiceAdministers now tenantId tryFirst excluding).val = true
  · rw [if_pos hfirst]
    obtain ⟨userId, rfl, hne, hadmin⟩ := firstChoiceAdministers_iff.mp hfirst
    exact ⟨fun _ => ⟨userId, hne, hadmin⟩, fun _ => rfl⟩
  · rw [if_neg hfirst, LockedRead.val_findM, List.find?_isSome]
    simp only [LockedRead.val_ite, LockedRead.val_pure, mem_activeMembers]
    constructor
    · rintro ⟨userId, hmember, hval⟩
      split at hval
      · cases hval
      · next hskip => exact ⟨userId, fun h => hskip (Or.inr h), hmember, hval⟩
    · rintro ⟨userId, hne, hadmin⟩
      refine ⟨userId, hadmin.1, ?_⟩
      have hskip : ¬ (some userId = tryFirst ∨ some userId = excluding) := by
        rintro (h | h)
        · exact hfirst (firstChoiceAdministers_iff.mpr ⟨userId, h.symm, h ▸ hne, hadmin⟩)
        · exact hne h
      rw [if_neg hskip]
      exact hadmin.2

lemma isSome_findAdministrator_iff_hasAdministrator :
    (db.findAdministrator now tenantId tryFirst).val.isSome = true ↔
      db.HasAdministrator now tenantId := by
  rw [isSome_findAdministrator_iff]
  simp [HasAdministrator]

lemma val_guardTenants_before {tenantIds : List Uuid} :
    (db.guardTenants now tenantIds).val.before =
      tenantIds.map fun tenantId => (tenantId, (db.findAdministrator now tenantId).val) := by
  simp [guardTenants]

end Tables

variable {membershipId : Option Uuid}

lemma AdministratorGuard.verify_ok_iff_forall {guard : AdministratorGuard} {db : Tables}
    {now : Instant} :
    (guard.verify db now membershipId).val = .ok () ↔
      ∀ guarded ∈ guard.before, guarded.2.isSome = true → db.HasAdministrator now guarded.1 := by
  have hlost : ∀ guarded, (db.lostAdministrator now guarded).val = true ↔
      guarded.2.isSome = true ∧ ¬ db.HasAdministrator now guarded.1 := by
    rintro ⟨tenantId, before⟩
    cases before with
    | none => simp [Tables.lostAdministrator]
    | some administrator =>
      have hsearch : (db.findAdministrator now tenantId (some administrator)).val.isSome = true ↔
          db.HasAdministrator now tenantId := Tables.isSome_findAdministrator_iff_hasAdministrator
      simp only [Tables.lostAdministrator, LockedRead.val_bind, LockedRead.val_pure, ← hsearch]
      simp
  unfold AdministratorGuard.verify
  rw [LockedRead.val_bind, LockedRead.val_findM]
  cases hfind : guard.before.find? fun guarded => (db.lostAdministrator now guarded).val with
  | none =>
    have hnone := List.find?_eq_none.mp hfind
    simp only [LockedRead.val_pure, true_iff]
    intro guarded hmem hsome
    by_contra hno
    exact hnone guarded hmem ((hlost guarded).mpr ⟨hsome, hno⟩)
  | some guarded =>
    have hval := List.find?_some hfind
    obtain ⟨hsome, hno⟩ := (hlost guarded).mp hval
    simp only [LockedRead.val_pure, reduceCtorEq, false_iff]
    intro hall
    exact hno (hall guarded (List.mem_of_find?_eq_some hfind) hsome)

lemma AdministratorGuard.verify_ok_iff {db db' : Tables} {now now' : Instant}
    {tenantIds : List Uuid} :
    ((db.guardTenants now tenantIds).val.verify db' now' membershipId).val = .ok () ↔
      ∀ tenantId ∈ tenantIds, db.HasAdministrator now tenantId →
        db'.HasAdministrator now' tenantId := by
  rw [verify_ok_iff_forall, Tables.val_guardTenants_before]
  simp only [List.mem_map, forall_exists_index, and_imp, forall_apply_eq_imp_iff₂,
    Tables.isSome_findAdministrator_iff_hasAdministrator]

end SaasOs
