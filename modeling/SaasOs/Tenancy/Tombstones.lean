import SaasOs.Tenancy.Purge
import SaasOs.Tenancy.Closure
import SaasOs.Foundation.LockTable
import SaasOs.Foundation.Run

/-!
# Purged tenants are tombstones, leaves first

The four operations that write `core.tenants` run as transactions of several steps each, and a purge
as two of them; every step reads what the others have committed by then.  A transaction keeps the
rows it reads locked, `FOR SHARE` or `FOR UPDATE`, and holds the hierarchy lock where it changes the
hierarchy.  The administrator locks and the locks of single hierarchy nodes are not modelled:
without them there are only more runs.
-/

namespace SaasOs

/-! ## Calls -/

/-- What the operations lock: the hierarchy as a whole, by an advisory lock, or a tenant's row. -/
inductive LifecycleLock
  | hierarchy
  | tenant (id : Uuid)
  deriving DecidableEq

/-- A call of one of the operations that write `core.tenants`. -/
inductive LifecycleRequest
  | createTenant (tenantId : Uuid) (name : String) (parentId : Option Uuid) (caller : Caller)
  | moveTenant (now : Instant) (tenantId : Uuid) (newParentId : Option Uuid) (caller : Caller)
      (reason : Option String)
  | transitionTenantStatus (now : Instant) (newId tenantId : Uuid) (target : TenantStatus)
      (caller : Caller) (reason : Option String) (expectedOperation : Option PlatformOperation)
      (selfService : Bool)
  | purgeTenant (tenantId : Uuid) (caller : Caller)

inductive LifecyclePhase
  | begun
  /-- A creation has read the row of the parent. -/
  | parentRead (parent : Option Tenant)
  /-- A move has read the row of the tenant. -/
  | tenantRead (tenant : Tenant)
  /-- A move has read the row of the new parent. -/
  | newParentRead (tenant : Tenant) (newParent : Option Tenant)
  /-- A transition has passed the gate. -/
  | admitted (request : Option String × List PlatformOperation)
  /-- A transition has taken its guard and read the row. -/
  | rowRead (before : Database) (request : Option String × List PlatformOperation)
      (row : Option Tenant)
  /-- A purge has read the row, in its first transaction. -/
  | entryRead (tenant : Tenant)
  /-- A purge has found no live children. -/
  | entryChecked (tenant : Tenant)
  /-- A purge has committed its first transaction. -/
  | purging
  /-- A purge has read the row, in its last transaction. -/
  | finalRead (tenant : Tenant)

structure LifecycleCall where
  request : LifecycleRequest
  phase : LifecyclePhase

/-- The committed database, the locks and the calls. -/
structure LifecycleSystem where
  db : Database
  locks : LockTable LifecycleLock ℕ
  call : ℕ → Option LifecycleCall

/-- What can happen next: a call begins, takes its next step, or is rolled back or crashes; or
another transaction, a step of a purge on other tables among them, commits. -/
inductive LifecycleEvent
  | begin (n : ℕ) (request : LifecycleRequest)
  | advance (n : ℕ)
  | abort (n : ℕ)
  | other (db : Database)

namespace LifecycleSystem

def proceed (s : LifecycleSystem) (n : ℕ) (request : LifecycleRequest) (phase : LifecyclePhase) :
    LifecycleSystem :=
  { s with call := Function.update s.call n (some ⟨request, phase⟩) }

def close (s : LifecycleSystem) (n : ℕ) : LifecycleSystem :=
  { s with locks := s.locks.release n, call := Function.update s.call n none }

def settle (s : LifecycleSystem) (n : ℕ) (request : LifecycleRequest) :
    Result LifecyclePhase → LifecycleSystem
  | .ok phase => s.proceed n request phase
  | .error _ => s.close n

def commit (s : LifecycleSystem) (n : ℕ) : Result Database → LifecycleSystem
  | .ok db => { s.close n with db := db }
  | .error _ => s.close n

def commitEntry (s : LifecycleSystem) (n : ℕ) (request : LifecycleRequest) :
    Result Database → LifecycleSystem
  | .ok db => { s.close n with db := db }.proceed n request .purging
  | .error _ => s.close n

def rowLock (db : Tables) (tenantId : Uuid) : List LifecycleLock :=
  if (db.tenant? tenantId).isSome then [.tenant tenantId] else []

def readRow (s : LifecycleSystem) (n : ℕ) (tenantId : Uuid) (caller : Caller)
    (phase : Tenant → LifecyclePhase) : Option LifecycleSystem := do
  let locks ← s.locks.acquire n .exclusive (rowLock s.db.toTables tenantId)
  return { s with locks := locks }.settle n (.purgeTenant tenantId caller)
    ((s.db.readPurgedTenant tenantId caller).map phase)

/-- The next step of a call; `none` while it has to wait for a lock. -/
def advance (config : TenancyConfig) (s : LifecycleSystem) (n : ℕ) :
    LifecycleRequest → LifecyclePhase → Option LifecycleSystem
  | .createTenant tenantId name parentId caller, .begun => do
    let locks ← s.locks.acquire n .exclusive (parentId.toList.map fun _ => .hierarchy)
    let locks ← locks.acquire n .share (parentId.toList.flatMap (rowLock s.db.toTables))
    return { s with locks := locks }.settle n (.createTenant tenantId name parentId caller)
      ((s.db.readParentToAttach name parentId caller).map .parentRead)
  | .createTenant tenantId name parentId caller, .parentRead parent =>
    s.commit n ((s.db.attachTenant config tenantId name parentId caller parent).map Prod.fst)
  | .moveTenant now tenantId newParentId caller reason, .begun => do
    let locks ← s.locks.acquire n .exclusive [.hierarchy]
    let locks ← locks.acquire n .share (rowLock s.db.toTables tenantId)
    return { s with locks := locks }.settle n (.moveTenant now tenantId newParentId caller reason)
      ((s.db.readMovedTenant tenantId caller reason).map .tenantRead)
  | .moveTenant now tenantId newParentId caller reason, .tenantRead tenant => do
    let locks ← s.locks.acquire n .share (newParentId.toList.flatMap (rowLock s.db.toTables))
    return { s with locks := locks }.settle n (.moveTenant now tenantId newParentId caller reason)
      ((s.db.checkNewParent caller tenantId newParentId).map (.newParentRead tenant))
  | .moveTenant now tenantId newParentId _ _, .newParentRead tenant newParent =>
    if tenant.parentId = newParentId then
      s.close n
    else do
      -- `FOR NO KEY UPDATE`, by the lock on the subtree and by the write itself
      let locks ← s.locks.acquire n .exclusive
        ((tenantId :: (s.db.subtreeOf tenantId).map TenantAncestry.tenantId).map .tenant)
      return { s with locks := locks }.commit n
        (s.db.reparentTenant config now tenantId newParentId tenant newParent)
  | .transitionTenantStatus now newId tenantId target caller reason expectedOperation selfService,
      .begun =>
    s.settle n (.transitionTenantStatus now newId tenantId target caller reason expectedOperation
        selfService)
      ((s.db.admitTransition tenantId target caller reason expectedOperation selfService).map
        .admitted)
  | .transitionTenantStatus now newId tenantId target caller reason expectedOperation selfService,
      .admitted request => do
    let locks ← s.locks.acquire n .exclusive (rowLock s.db.toTables tenantId)
    return { s with locks := locks }.proceed n
      (.transitionTenantStatus now newId tenantId target caller reason expectedOperation
        selfService) (.rowRead s.db request (s.db.tenant? tenantId))
  | .transitionTenantStatus now newId tenantId target caller _ expectedOperation selfService,
      .rowRead before request row =>
    s.commit n (s.db.transitionTenantRow config before now newId tenantId target caller
      expectedOperation selfService row request)
  | .purgeTenant tenantId caller, .begun =>
    match requireLifecycleCaller PlatformOperation.tenantPurgeTransition.key caller with
    | .error _ => s.close n
    | .ok _ => s.readRow n tenantId caller .entryRead
  | .purgeTenant tenantId caller, .entryRead tenant =>
    if tenant.status = .purged then
      s.close n
    else
      s.settle n (.purgeTenant tenantId caller)
        ((s.db.requireNoLiveChildren tenantId).map fun _ => .entryChecked tenant)
  | .purgeTenant tenantId caller, .entryChecked tenant =>
    s.commitEntry n (.purgeTenant tenantId caller) (s.db.enterPurging tenant)
  | .purgeTenant tenantId caller, .purging => s.readRow n tenantId caller .finalRead
  | .purgeTenant _ _, .finalRead tenant => s.commit n (s.db.leavePurging tenant)
  | _, _ => none

def step (config : TenancyConfig) (s : LifecycleSystem) : LifecycleEvent → LifecycleSystem
  | .begin n request =>
    match s.call n with
    | none => s.proceed n request .begun
    | some _ => s
  | .advance n =>
    match s.call n with
    | none => s
    | some call => (s.advance config n call.request call.phase).getD s
  | .abort n => s.close n
  | .other db => if db.tenants = s.db.tenants then { s with db := db } else s

end LifecycleSystem

/-! ## What a transaction does to the tenants -/

namespace Tables

/-- The children of a tenant that is purged are purged before it. -/
def LeavesFirst (db : Tables) : Prop :=
  ∀ parent ∈ db.tenants, parent.status = .purging ∨ parent.status = .purged →
    ∀ child ∈ db.tenants, child.parentId = some parent.id → child.status = .purged

instance (db : Tables) : Decidable db.LeavesFirst :=
  inferInstanceAs (Decidable (∀ _ ∈ _, _ → ∀ _ ∈ _, _ → _))

/-- A purged tenant carries its tombstone name. -/
def Tombstoned (db : Tables) : Prop :=
  ∀ tenant ∈ db.tenants, tenant.status = .purged → tenant.name = tombstoneName tenant.id

instance (db : Tables) : Decidable db.Tombstoned :=
  inferInstanceAs (Decidable (∀ _ ∈ _, _ → _))

/-- What another transaction can rely on when one is committed: only the rows in `written` change,
and only the tenants in `parents` get new children that are alive. -/
structure CommittedChange (db db' : Tables) (written parents : List Uuid) : Prop where
  kept : ∀ row ∈ db.tenants, row.id ∉ written → row ∈ db'.tenants
  children : ∀ row' ∈ db'.tenants, row'.status ≠ .purged → ∀ p, row'.parentId = some p →
    p ∉ parents → ∃ row ∈ db.tenants, row.status ≠ .purged ∧ row.parentId = some p

variable {db : Tables}

variable {tenantId : Uuid}

lemma liveChildren_eq_nil_iff : db.liveChildren tenantId = [] ↔
    ∀ row ∈ db.tenants, row.parentId = some tenantId → row.status = .purged := by
  unfold liveChildren
  rw [List.map_eq_nil_iff, List.filter_eq_nil_iff]
  simp

variable {db' : Tables}

lemma CommittedChange.liveChildren_eq_nil {written parents : List Uuid}
    (h : db.CommittedChange db' written parents) (hlive : db.liveChildren tenantId = [])
    (hparents : tenantId ∉ parents) :
    db'.liveChildren tenantId = [] := by
  rw [liveChildren_eq_nil_iff] at hlive ⊢
  intro row' hrow' hchild
  by_contra hstatus
  obtain ⟨row, hrow, halive, hparent⟩ := h.children row' hrow' hstatus tenantId hchild hparents
  exact halive (hlive row hrow hparent)

lemma CommittedChange.of_eq (h : db'.tenants = db.tenants) :
    db.CommittedChange db' [] [] where
  kept _ hrow _ := h ▸ hrow
  children row' hrow' halive _ hp _ := ⟨row', h ▸ hrow', halive, hp⟩

/-! ### A new tenant -/

section Inserted

variable {db db' : Tables} {tenant : Tenant} (hdb' : db'.tenants = db.tenants ++ [tenant])
include hdb'

lemma CommittedChange.of_insert : db.CommittedChange db' [] tenant.parentId.toList where
  kept row hrow _ := by
    rw [hdb']
    exact List.mem_append_left _ hrow
  children row' hrow' halive p hp hparents := by
    rw [hdb', List.mem_append, List.mem_singleton] at hrow'
    rcases hrow' with hold | rfl
    · exact ⟨row', hold, halive, hp⟩
    · exact absurd (Option.mem_toList.mpr hp) hparents

lemma LeavesFirst.of_insert (h : db.LeavesFirst) (hpending : tenant.status = .pending)
    (hopen : ∀ parent ∈ db.tenants, tenant.parentId = some parent.id →
      parent.status.isClosed = false) : db'.LeavesFirst := by
  intro parent hparent hphase child hchild hlink
  rw [hdb', List.mem_append, List.mem_singleton] at hparent hchild
  rcases hparent with hparent | rfl
  · rcases hchild with hchild | rfl
    · exact h parent hparent hphase child hchild hlink
    · have hstatus := hopen parent hparent hlink
      rcases hphase with hphase | hphase <;> rw [hphase] at hstatus <;> cases hstatus
  · rcases hphase with hphase | hphase <;> rw [hpending] at hphase <;> cases hphase

lemma Tombstoned.of_insert (h : db.Tombstoned) (hpending : tenant.status = .pending) :
    db'.Tombstoned := by
  intro row hrow hpurged
  rw [hdb', List.mem_append, List.mem_singleton] at hrow
  rcases hrow with hrow | rfl
  · exact h row hrow hpurged
  · rw [hpending] at hpurged
    cases hpurged

end Inserted

/-! ### A row is replaced -/

/-- One row is replaced by another one with the same id. -/
structure Replaced (db db' : Tables) (row row' : Tenant) : Prop where
  mem : row ∈ db.tenants
  id : row'.id = row.id
  unique : ∀ other ∈ db.tenants, other.id = row.id → other = row
  mem_iff : ∀ other, other ∈ db'.tenants ↔ other = row' ∨ other ∈ db.tenants ∧ other.id ≠ row.id

section Replaced

variable {db db' : Tables} {row row' : Tenant}

section

variable (hreplaced : db.Replaced db' row row')

include hreplaced

lemma Replaced.committedChange {parents : List Uuid}
    (hchildren : row'.status ≠ .purged → ∀ p, row'.parentId = some p → p ∉ parents →
      row.status ≠ .purged ∧ row.parentId = some p) :
    db.CommittedChange db' [row.id] parents where
  kept other hother hid := by
    rw [List.mem_singleton] at hid
    exact (hreplaced.mem_iff other).mpr (.inr ⟨hother, hid⟩)
  children other hother halive p hp hparents := by
    rcases (hreplaced.mem_iff other).mp hother with rfl | ⟨hold, -⟩
    · exact ⟨row, hreplaced.mem, hchildren halive p hp hparents⟩
    · exact ⟨other, hold, halive, hp⟩

lemma Replaced.leavesFirst (h : db.LeavesFirst)
    (hparent : row'.status = .purging ∨ row'.status = .purged →
      ∀ child ∈ db.tenants, child.parentId = some row.id → child.status = .purged)
    (hchild : ∀ parent ∈ db'.tenants, parent.status = .purging ∨ parent.status = .purged →
      row'.parentId = some parent.id → row'.status = .purged) : db'.LeavesFirst := by
  intro parent hmem hphase child hchildmem hlink
  rcases (hreplaced.mem_iff child).mp hchildmem with rfl | ⟨hold, -⟩
  · exact hchild parent hmem hphase hlink
  · rcases (hreplaced.mem_iff parent).mp hmem with rfl | ⟨hparentOld, -⟩
    · rw [hreplaced.id] at hlink
      exact hparent hphase child hold hlink
    · exact h parent hparentOld hphase child hold hlink

lemma Replaced.leavesFirst_of_transition (h : db.LeavesFirst)
    (hedge : row'.status ∈ row.status.allowedTransitions) (hlink : row'.parentId = row.parentId)
    (hlive : row'.status = .purging → db.liveChildren row.id = []) : db'.LeavesFirst := by
  have hnotPurged : row.status ≠ .purged := by
    intro hpurged
    rw [hpurged] at hedge
    cases hedge
  have hchildren : row'.status = .purging ∨ row'.status = .purged →
      ∀ child ∈ db.tenants, child.parentId = some row.id → child.status = .purged := by
    rintro (hpurging | hpurged)
    · exact liveChildren_eq_nil_iff.mp (hlive hpurging)
    · -- the only way to the end of the purge phase is from within
      have hfrom : row.status = .purging := by
        rw [hpurged] at hedge
        cases hstatus : row.status <;> rw [hstatus] at hedge <;>
          simp [TenantStatus.allowedTransitions] at hedge ⊢
      exact h row hreplaced.mem (.inl hfrom)
  refine hreplaced.leavesFirst h hchildren fun parent hmem hphase hparentLink => ?_
  rw [hlink] at hparentLink
  rcases (hreplaced.mem_iff parent).mp hmem with rfl | ⟨hold, -⟩
  · rw [hreplaced.id] at hparentLink
    exact absurd (hchildren hphase row hreplaced.mem hparentLink) hnotPurged
  · exact absurd (h parent hold hphase row hreplaced.mem hparentLink) hnotPurged

lemma Replaced.leavesFirst_of_move (h : db.LeavesFirst) (hstatus : row'.status = row.status)
    (hopen : ∀ parent ∈ db.tenants, row'.parentId = some parent.id →
      parent.status.isClosed = false) : db'.LeavesFirst := by
  refine hreplaced.leavesFirst h ?_ fun parent hmem hphase hlink => ?_
  · rw [hstatus]
    exact h row hreplaced.mem
  · have hnotOpen : parent.status.isClosed = false := by
      rcases (hreplaced.mem_iff parent).mp hmem with rfl | ⟨hold, -⟩
      · rw [hstatus]
        exact hopen row hreplaced.mem (hreplaced.id ▸ hlink)
      · exact hopen parent hold hlink
    rcases hphase with hphase | hphase <;> rw [hphase] at hnotOpen <;> cases hnotOpen

lemma Replaced.tombstoned (h : db.Tombstoned)
    (hnew : row'.status = .purged → row'.name = tombstoneName row.id) : db'.Tombstoned := by
  intro tenant htenant hpurged
  rcases (hreplaced.mem_iff tenant).mp htenant with rfl | ⟨hold, -⟩
  · rw [hreplaced.id]
    exact hnew hpurged
  · exact h tenant hold hpurged

end

end Replaced

/-- What one transaction does to the tenants. -/
inductive TenantsChange (harmless : Prop) (db db' : Tables) : Prop
  | unchanged (htenants : db'.tenants = db.tenants)
  | created (tenant : Tenant) (htenants : db'.tenants = db.tenants ++ [tenant])
      (hpending : tenant.status = .pending)
      (hopen : ∀ parent ∈ db.tenants, tenant.parentId = some parent.id →
        parent.status.isClosed = false)
  | moved (row row' : Tenant) (hreplaced : db.Replaced db' row row')
      (hstatus : row'.status = row.status) (hname : row'.name = row.name)
      (hopen : ∀ parent ∈ db.tenants, row'.parentId = some parent.id →
        parent.status.isClosed = false)
  | transitioned (row row' : Tenant) (hreplaced : db.Replaced db' row row')
      (hedge : row'.status ∈ row.status.allowedTransitions) (hlink : row'.parentId = row.parentId)
      (hlive : harmless → row'.status = .purging → db.liveChildren row.id = [])
      (hname : harmless → row'.status = .purged → row'.name = tombstoneName row.id)

lemma TenantsChange.imp {harmless harmless' : Prop} (h : TenantsChange harmless db db')
    (himp : harmless' → harmless) :
    TenantsChange harmless' db db' := by
  cases h with
  | unchanged htenants => exact .unchanged htenants
  | created tenant htenants hpending hopen => exact .created tenant htenants hpending hopen
  | moved row row' hreplaced hstatus hname hopen => exact .moved row row' hreplaced hstatus hname hopen
  | transitioned row row' hreplaced hedge hlink hlive hname =>
    exact .transitioned row row' hreplaced hedge hlink (fun h => hlive (himp h))
      fun h => hname (himp h)

variable {harmless : Prop}

lemma TenantsChange.exists_isClosed (h : TenantsChange harmless db db') {tenant : Tenant}
    (htenant : tenant ∈ db.tenants) (hclosed : tenant.status.isClosed = true) :
    ∃ tenant' ∈ db'.tenants, tenant'.id = tenant.id ∧ tenant'.status.isClosed = true := by
  have hkept : ∀ row row', db.Replaced db' row row' →
      (row.status.isClosed = true → row'.status.isClosed = true) →
      ∃ tenant' ∈ db'.tenants, tenant'.id = tenant.id ∧ tenant'.status.isClosed = true := by
    intro row row' hreplaced hstays
    by_cases hid : tenant.id = row.id
    · obtain rfl := hreplaced.unique tenant htenant hid
      exact ⟨row', (hreplaced.mem_iff row').mpr (.inl rfl), hreplaced.id, hstays hclosed⟩
    · exact ⟨tenant, (hreplaced.mem_iff tenant).mpr (.inr ⟨htenant, hid⟩), rfl, hclosed⟩
  cases h with
  | unchanged htenants => exact ⟨tenant, htenants ▸ htenant, rfl, hclosed⟩
  | created new htenants hpending hopen =>
    refine ⟨tenant, ?_, rfl, hclosed⟩
    rw [htenants]
    exact List.mem_append_left _ htenant
  | moved row row' hreplaced hstatus hname hopen =>
    exact hkept row row' hreplaced fun h => hstatus ▸ h
  | transitioned row row' hreplaced hedge hlink hlive hname =>
    refine hkept row row' hreplaced fun h => ?_
    -- no edge of the lifecycle graph leads back
    cases hfrom : row.status <;> rw [hfrom] at h hedge <;>
      simp [TenantStatus.isClosed, TenantStatus.allowedTransitions] at h hedge <;>
      rw [hedge] <;> rfl

lemma TenantsChange.leavesFirst (h : TenantsChange harmless db db') (hharmless : harmless)
    (hleaves : db.LeavesFirst) :
    db'.LeavesFirst := by
  cases h with
  | unchanged htenants =>
    intro parent hparent hphase child hchild
    rw [htenants] at hparent hchild
    exact hleaves parent hparent hphase child hchild
  | created tenant htenants hpending hopen => exact hleaves.of_insert htenants hpending hopen
  | moved row row' hreplaced hstatus hname hopen =>
    exact hreplaced.leavesFirst_of_move hleaves hstatus hopen
  | transitioned row row' hreplaced hedge hlink hlive hname =>
    exact hreplaced.leavesFirst_of_transition hleaves hedge hlink (hlive hharmless)

lemma TenantsChange.tombstoned {harmless : Prop} {db db' : Tables}
    (h : TenantsChange harmless db db') (hharmless : harmless) (htombstoned : db.Tombstoned) :
    db'.Tombstoned := by
  cases h with
  | unchanged htenants =>
    intro tenant htenant
    rw [htenants] at htenant
    exact htombstoned tenant htenant
  | created tenant htenants hpending hopen => exact htombstoned.of_insert htenants hpending
  | moved row row' hreplaced hstatus hname hopen =>
    refine hreplaced.tombstoned htombstoned fun hpurged => ?_
    rw [hname]
    exact htombstoned row hreplaced.mem (hstatus ▸ hpurged)
  | transitioned row row' hreplaced hedge hlink hlive hname =>
    exact hreplaced.tombstoned htombstoned (hname hharmless)

end Tables

namespace Database

lemma replaced_of_update (db : Database) {db' : Tables} {row : Tenant} (f : Tenant → Tenant)
    (hrow : row ∈ db.tenants) (hid : (f row).id = row.id)
    (hdb' : db'.tenants = db.tenants.map fun other => if other.id = row.id then f other else other) :
    db.Replaced db' row (f row) where
  mem := hrow
  id := hid
  unique _ hother heq := db.constraints.unique.tenants_pk.eq_of_key_eq hother hrow heq
  mem_iff other := by
    rw [hdb']
    exact db.constraints.unique.tenants_pk.mem_update f hrow

variable {config : TenancyConfig} {db db' : Database} {tenant : Tenant}

variable {tenantId : Uuid} {caller : Caller}

lemma attachTenant_ok {name : String} {parentId : Option Uuid} {parent : Option Tenant}
    (h : db.attachTenant config tenantId name parentId caller parent = .ok (db', tenant)) :
    (∀ row ∈ parent, row.status.isClosed = false) ∧
      db'.tenants = db.tenants ++ [⟨tenantId, name, .pending, parentId⟩] := by
  simp only [attachTenant, bind_eq_ok] at h
  obtain ⟨-, -, ⟨⟩, hrule, inserted, hinserted, rows, -, created, hcreated, hdone⟩ := h
  cases hdone
  refine ⟨?_, ?_⟩
  · rintro row ⟨⟩
    unfold applyParentRuleTo applyParentRule at hrule
    cases hstatus : row.status <;> simp [hstatus] at hrule <;> rfl
  · rw [flush_ok hcreated]
    dsimp only
    rw [flush_ok hinserted]

variable {now : Instant}

lemma reparentTenant_ok {newParentId : Option Uuid} {newParent : Option Tenant}
    (h : db.reparentTenant config now tenantId newParentId tenant newParent = .ok db') :
    db' = db ∨ db'.tenants = (db.setParent tenantId newParentId).tenants := by
  unfold reparentTenant at h
  split at h
  · cases h
    exact .inl rfl
  · obtain ⟨-, -, hrewrite⟩ := bind_eq_ok.mp h
    obtain ⟨-, hdb', -⟩ := rewriteHierarchy_ok hrewrite
    rw [hdb']
    exact .inr rfl

lemma transitionTenantRow_ok {db before db' : Database} {newId tenantId : Uuid}
    {target : TenantStatus} {expectedOperation : Option PlatformOperation} {selfService : Bool}
    {row : Option Tenant} {admitted : Option String × List PlatformOperation}
    (h : db.transitionTenantRow config before now newId tenantId target caller expectedOperation
      selfService row admitted = .ok db') :
    ∃ tenant, row = some tenant ∧ target ∈ tenant.status.allowedTransitions ∧
      db'.toTables = db.setTenantStatus tenantId target := by
  have hfound : ∀ tenant, foundTenant tenantId row = .ok tenant → row = some tenant := by
    intro tenant hfound
    cases row with
    | none => cases hfound
    | some tenant' =>
      cases hfound
      rfl
  have hedge : ∀ tenant : Tenant, validateTransition tenant.status target = .ok () →
      target ∈ tenant.status.allowedTransitions := by
    intro tenant hvalid
    exact List.contains_iff_mem.mp (require_eq_ok.mp hvalid)
  unfold transitionTenantRow at h
  split at h
  · simp only [bind_eq_ok] at h
    obtain ⟨session, hsession, tenant, htenant, ⟨⟩, hvalid, operation, -, ⟨⟩, -, happly⟩ := h
    obtain rfl := authorizeTransition_ok hsession
    exact ⟨tenant, hfound tenant htenant, hedge tenant hvalid, (applyTransition_ok happly).1⟩
  · simp only [bind_eq_ok] at h
    obtain ⟨tenant, htenant, ⟨⟩, hvalid, operation, -, session, hsession, happly⟩ := h
    obtain rfl := authorizeTransition_ok hsession
    exact ⟨tenant, hfound tenant (disclosing_eq_ok htenant),
      hedge tenant (disclosing_eq_ok hvalid), (applyTransition_ok happly).1⟩

lemma enterPurging_ok (h : db.enterPurging tenant = .ok db') :
    db' = db ∨ .purging ∈ tenant.status.allowedTransitions ∧
      db'.toTables = db.setTenantStatus tenant.id .purging := by
  unfold enterPurging at h
  split at h
  · cases h
    exact .inl rfl
  · obtain ⟨⟨⟩, hvalid, hwritten⟩ := bind_eq_ok.mp h
    exact .inr ⟨List.contains_iff_mem.mp (require_eq_ok.mp hvalid), flush_ok hwritten⟩

lemma leavePurging_ok (h : db.leavePurging tenant = .ok db') :
    db' = db ∨ .purged ∈ tenant.status.allowedTransitions ∧
      db'.toTables = db.setTombstone tenant.id := by
  unfold leavePurging at h
  split at h
  · cases h
    exact .inl rfl
  · obtain ⟨⟨⟩, hvalid, hwritten⟩ := bind_eq_ok.mp h
    exact .inr ⟨List.contains_iff_mem.mp (require_eq_ok.mp hvalid), flush_ok hwritten⟩

end Database

/-! ## The invariant -/

namespace LifecycleSystem

def Reads (db : Tables) (locks : LockTable LifecycleLock ℕ) (n : ℕ) (mode : LockMode)
    (tenant : Tenant) : Prop :=
  tenant ∈ db.tenants ∧ locks.Holds n mode (.tenant tenant.id)

def PhaseSound (db : Tables) (locks : LockTable LifecycleLock ℕ) (n : ℕ) :
    LifecycleRequest → LifecyclePhase → Prop
  | .createTenant _ _ parentId _, .parentRead parent =>
    parent.map Tenant.id = parentId ∧ ∀ row ∈ parent, Reads db locks n .share row
  | .moveTenant _ tenantId _ _ _, .tenantRead tenant =>
    tenant.id = tenantId ∧ Reads db locks n .share tenant
  | .moveTenant _ tenantId newParentId _ _, .newParentRead tenant newParent =>
    (tenant.id = tenantId ∧ Reads db locks n .share tenant) ∧
      newParent.map Tenant.id = newParentId ∧
      ∀ row ∈ newParent, row.status.isClosed = false ∧ Reads db locks n .share row
  | .transitionTenantStatus _ _ tenantId _ _ _ _ _, .rowRead _ _ row =>
    ∀ tenant ∈ row, tenant.id = tenantId ∧ Reads db locks n .exclusive tenant
  | .purgeTenant tenantId _, .entryRead tenant | .purgeTenant tenantId _, .finalRead tenant =>
    tenant.id = tenantId ∧ Reads db locks n .exclusive tenant
  | .purgeTenant tenantId _, .entryChecked tenant =>
    (tenant.id = tenantId ∧ Reads db locks n .exclusive tenant) ∧ db.liveChildren tenantId = []
  | _, _ => True

def Sound (s : LifecycleSystem) : Prop :=
  ∀ n call, s.call n = some call → PhaseSound s.db.toTables s.locks n call.request call.phase

variable {db db' : Tables} {locks locks' : LockTable LifecycleLock ℕ} {s : LifecycleSystem} {n : ℕ}

variable {phase : LifecyclePhase}

variable {request : LifecycleRequest} {written parents : List Uuid}

lemma PhaseSound.frame (h : PhaseSound db locks n request phase)
    (hchange : db.CommittedChange db' written parents)
    (hlocks : ∀ mode resource, locks.Holds n mode resource → locks'.Holds n mode resource)
    (hwritten : ∀ id ∈ written, ∀ mode, ¬ locks.Holds n mode (.tenant id))
    (hparents : ∀ id ∈ parents, ¬ locks.Holds n .exclusive (.tenant id)) :
    PhaseSound db' locks' n request phase := by
  have hreads : ∀ mode tenant, Reads db locks n mode tenant → Reads db' locks' n mode tenant := by
    rintro mode tenant ⟨hmem, hheld⟩
    exact ⟨hchange.kept tenant hmem fun hid => hwritten _ hid mode hheld, hlocks _ _ hheld⟩
  cases request with
  | createTenant tenantId name parentId caller =>
    cases phase with
    | parentRead parent => exact ⟨h.1, fun row hrow => hreads _ row (h.2 row hrow)⟩
    | _ => trivial
  | moveTenant now tenantId newParentId caller reason =>
    cases phase with
    | tenantRead tenant => exact ⟨h.1, hreads _ tenant h.2⟩
    | newParentRead tenant newParent =>
      obtain ⟨⟨hid, htenant⟩, hids, hparent⟩ := h
      refine ⟨⟨hid, hreads _ tenant htenant⟩, hids, fun row hrow => ?_⟩
      exact ⟨(hparent row hrow).1, hreads _ row (hparent row hrow).2⟩
    | _ => trivial
  | transitionTenantStatus now newId tenantId target caller reason expectedOperation selfService =>
    cases phase with
    | rowRead before admitted row =>
      exact fun tenant htenant => ⟨(h tenant htenant).1, hreads _ tenant (h tenant htenant).2⟩
    | _ => trivial
  | purgeTenant tenantId caller =>
    cases phase with
    | entryRead tenant => exact ⟨h.1, hreads _ tenant h.2⟩
    | entryChecked tenant =>
      obtain ⟨⟨rfl, htenant⟩, hlive⟩ := h
      refine ⟨⟨rfl, hreads _ tenant htenant⟩, hchange.liveChildren_eq_nil hlive fun hparent => ?_⟩
      exact hparents _ hparent htenant.2
    | finalRead tenant => exact ⟨h.1, hreads _ tenant h.2⟩
    | _ => trivial

lemma PhaseSound.of_eq {request : LifecycleRequest} {phase : LifecyclePhase}
    (h : PhaseSound db locks n request phase) (hdb' : db'.tenants = db.tenants)
    (hlocks : ∀ mode resource, locks.Holds n mode resource → locks'.Holds n mode resource) :
    PhaseSound db' locks' n request phase :=
  h.frame (.of_eq hdb') hlocks (fun _ hid => absurd hid List.not_mem_nil)
    fun _ hid => absurd hid List.not_mem_nil

lemma Sound.acquire (hsound : s.Sound) {mode : LockMode} {resources : List LifecycleLock}
    (h : s.locks.acquire n mode resources = some locks) :
    ({ s with locks := locks } : LifecycleSystem).Sound :=
  fun m call hm => (hsound m call hm).of_eq rfl fun _ _ hheld => hheld.of_acquire h

lemma Sound.proceed (hsound : s.Sound) {request : LifecycleRequest} {phase : LifecyclePhase}
    (hphase : PhaseSound s.db.toTables s.locks n request phase) :
    (s.proceed n request phase).Sound := by
  intro m call hm
  obtain rfl | hne := eq_or_ne m n
  · simp only [LifecycleSystem.proceed, Function.update_self, Option.some.injEq] at hm
    subst hm
    exact hphase
  · simp only [LifecycleSystem.proceed, Function.update_of_ne hne] at hm
    exact hsound m call hm

variable {new : Database}

lemma Sound.commit (hsound : s.Sound) (hchange : s.db.CommittedChange new.toTables written parents)
    (hwritten : ∀ id ∈ written, s.locks.HoldsExclusively n (.tenant id))
    (hparents : ∀ id ∈ parents, s.locks.Holds n .share (.tenant id)) :
    ({ s.close n with db := new } : LifecycleSystem).Sound := by
  intro m call hm
  obtain rfl | hne := eq_or_ne m n
  · simp [LifecycleSystem.close] at hm
  · simp only [LifecycleSystem.close, Function.update_of_ne hne] at hm
    refine (hsound m call hm).frame hchange (fun _ _ hheld => hheld.of_release hne) ?_ ?_
    · intro id hid mode
      exact LockTable.not_holds_of_exclusively hne.symm (hwritten id hid) mode
    · intro id hid hexclusive
      exact LockTable.not_holds_of_exclusively hne hexclusive .share (hparents id hid)

lemma Sound.close (hsound : s.Sound) (n : ℕ) : (s.close n).Sound := by
  have hsame : s.db.CommittedChange s.db.toTables [] [] := .of_eq rfl
  exact hsound.commit hsame (fun _ hid => absurd hid List.not_mem_nil)
    fun _ hid => absurd hid List.not_mem_nil

lemma mem_rowLock {row : Tenant} (hrow : row ∈ db.tenants) :
    LifecycleLock.tenant row.id ∈ rowLock db row.id := by
  have hregistered : (db.tenant? row.id).isSome = true :=
    Tables.isSome_tenant?_iff.mpr (List.mem_map_of_mem hrow)
  rw [rowLock, if_pos hregistered]
  exact List.mem_singleton_self _

structure Kept (harmless : Prop) (s s' : LifecycleSystem) : Prop where
  sound : s'.Sound
  change : Tables.TenantsChange harmless s.db.toTables s'.db.toTables

variable {s' : LifecycleSystem} {harmless : Prop}

lemma Sound.kept (hsound : s'.Sound) (hdb : s'.db = s.db) : Kept harmless s s' :=
  ⟨hsound, .unchanged (by rw [hdb])⟩

lemma Sound.kept_close (hsound : ({ s with locks := locks } : LifecycleSystem).Sound) (n : ℕ) :
    Kept harmless s ({ s with locks := locks }.close n) :=
  (hsound.close n).kept rfl

lemma Sound.kept_settle (hsound : ({ s with locks := locks } : LifecycleSystem).Sound) {α : Type}
    {result : Result α} {phase : α → LifecyclePhase}
    (hphase : ∀ a, result = .ok a → PhaseSound s.db.toTables locks n request (phase a)) :
    Kept harmless s ({ s with locks := locks }.settle n request (result.map phase)) := by
  cases result with
  | ok a => exact (hsound.proceed (hphase a rfl)).kept rfl
  | error refusal => exact hsound.kept_close n

/-! ### Creations -/

variable {caller : Caller}

variable {name : String} {parentId : Option Uuid}

lemma readParentToAttach_ok {parent : Option Tenant}
    (h : db.readParentToAttach name parentId caller = .ok parent) :
    parent.map Tenant.id = parentId ∧ ∀ row ∈ parent, row ∈ db.tenants := by
  simp only [Tables.readParentToAttach, bind_eq_ok] at h
  obtain ⟨⟨⟩, -, ⟨⟩, -, hparent⟩ := h
  cases parentId with
  | none =>
    cases hparent
    exact ⟨rfl, fun row hrow => by cases hrow⟩
  | some p =>
    obtain ⟨row, hrow, hdone⟩ := bind_eq_ok.mp (hparent : (db.getTenant p >>= fun row => _) = _)
    cases hdone
    obtain ⟨hmem, hid⟩ := Tables.tenant?_eq_some (Tables.getTenant_eq_ok.mp hrow)
    refine ⟨congrArg some hid, ?_⟩
    rintro _ ⟨⟩
    exact hmem

variable {config : TenancyConfig} {tenantId : Uuid}

lemma Sound.advance_createTenant (hsound : s.Sound)
    (hphase : PhaseSound s.db.toTables s.locks n (.createTenant tenantId name parentId caller) phase)
    (h : s.advance config n (.createTenant tenantId name parentId caller) phase = some s') :
    Kept harmless s s' := by
  cases phase with
  | begun =>
    simp only [advance, Option.bind_eq_bind, Option.bind_eq_some_iff] at h
    obtain ⟨hierarchy, hhierarchy, locks, hlocks, hdone⟩ := h
    cases hdone
    have hlocked : ({ s with locks := locks } : LifecycleSystem).Sound :=
      (hsound.acquire hhierarchy).acquire hlocks
    refine hlocked.kept_settle fun parent hread => ?_
    obtain ⟨hids, hmem⟩ := readParentToAttach_ok hread
    refine ⟨hids, fun row hrow => ⟨hmem row hrow, LockTable.holds_of_acquire hlocks ?_⟩⟩
    obtain rfl : some row = parent := hrow.symm
    subst hids
    exact List.mem_flatMap.mpr ⟨row.id, List.mem_singleton_self _, mem_rowLock (hmem row rfl)⟩
  | parentRead parent =>
    cases h
    cases hattach : s.db.attachTenant config tenantId name parentId caller parent with
    | error refusal => exact hsound.kept_close n
    | ok created =>
      obtain ⟨new, tenant⟩ := created
      obtain ⟨hids, hreads⟩ := hphase
      obtain ⟨hopen, hdb'⟩ := Database.attachTenant_ok hattach
      have hparent : ∀ id, parentId = some id → ∃ row ∈ parent, row.id = id := by
        rintro id rfl
        exact Option.map_eq_some_iff.mp hids
      refine ⟨hsound.commit (.of_insert hdb') (fun _ hid => absurd hid List.not_mem_nil) ?_,
        .created _ hdb' rfl ?_⟩
      · intro id hid
        obtain ⟨row, hrow, rfl⟩ := hparent id (Option.mem_toList.mp hid)
        exact (hreads row hrow).2
      · intro other hother hlink
        obtain ⟨row, hrow, hid⟩ := hparent other.id hlink
        obtain rfl := s.db.constraints.unique.tenants_pk.eq_of_key_eq (hreads row hrow).1 hother hid
        exact hopen row hrow
  | _ => cases h

/-! ### Moves -/

variable {newParentId : Option Uuid}

lemma checkNewParent_ok {newParent : Option Tenant}
    (h : db.checkNewParent caller tenantId newParentId = .ok newParent) :
    newParent.map Tenant.id = newParentId ∧
      ∀ row ∈ newParent, row.status.isClosed = false ∧ row ∈ db.tenants := by
  cases newParentId with
  | none =>
    cases h
    exact ⟨rfl, fun row hrow => by cases hrow⟩
  | some p =>
    simp only [Tables.checkNewParent, bind_eq_ok] at h
    obtain ⟨row, hrow, ⟨⟩, -, ⟨⟩, -, hdone⟩ := h
    cases hdone
    obtain ⟨hfind, hopen⟩ := Tables.val_lockOpenTenant_eq_ok hrow
    obtain ⟨hmem, hid⟩ := Tables.tenant?_eq_some hfind
    refine ⟨congrArg some hid, ?_⟩
    rintro _ ⟨⟩
    exact ⟨hopen, hmem⟩

variable {now : Instant} {reason : Option String}

lemma Sound.advance_moveTenant (hsound : s.Sound) (hphase : PhaseSound s.db.toTables s.locks n
      (.moveTenant now tenantId newParentId caller reason) phase)
    (h : s.advance config n (.moveTenant now tenantId newParentId caller reason) phase = some s') :
    Kept harmless s s' := by
  cases phase with
  | begun =>
    simp only [advance, Option.bind_eq_bind, Option.bind_eq_some_iff] at h
    obtain ⟨hierarchy, hhierarchy, locks, hlocks, hdone⟩ := h
    cases hdone
    have hlocked : ({ s with locks := locks } : LifecycleSystem).Sound :=
      (hsound.acquire hhierarchy).acquire hlocks
    refine hlocked.kept_settle fun tenant hread => ?_
    simp only [Tables.readMovedTenant, bind_eq_ok] at hread
    obtain ⟨⟨⟩, -, -, -, ⟨⟩, -, hrow⟩ := hread
    obtain ⟨hmem, rfl⟩ := Tables.tenant?_eq_some (Tables.val_lockOpenTenant_eq_ok hrow).1
    exact ⟨rfl, hmem, LockTable.holds_of_acquire hlocks (mem_rowLock hmem)⟩
  | tenantRead tenant =>
    simp only [advance, Option.bind_eq_bind, Option.bind_eq_some_iff] at h
    obtain ⟨locks, hlocks, hdone⟩ := h
    cases hdone
    refine (hsound.acquire hlocks).kept_settle fun newParent hread => ?_
    obtain ⟨hids, hrows⟩ := checkNewParent_ok hread
    obtain ⟨hid, htenant, hheld⟩ := hphase
    refine ⟨⟨hid, htenant, hheld.of_acquire hlocks⟩, hids, fun row hrow => ?_⟩
    obtain ⟨hopen, hmem⟩ := hrows row hrow
    refine ⟨hopen, hmem, LockTable.holds_of_acquire hlocks ?_⟩
    obtain rfl : some row = newParent := hrow.symm
    subst hids
    exact List.mem_flatMap.mpr ⟨row.id, List.mem_singleton_self _, mem_rowLock hmem⟩
  | newParentRead tenant newParent =>
    simp only [advance] at h
    split at h
    · cases h
      exact hsound.kept_close n
    · simp only [Option.bind_eq_bind, Option.bind_eq_some_iff] at h
      obtain ⟨locks, hlocks, hdone⟩ := h
      cases hdone
      have hlocked := hsound.acquire hlocks
      cases hmove : s.db.reparentTenant config now tenantId newParentId tenant newParent with
      | error refusal => exact hlocked.kept_close n
      | ok new =>
        obtain ⟨⟨rfl, htenant, -⟩, hids, hrows⟩ := hphase
        have hparent : ∀ id, newParentId = some id → ∃ row ∈ newParent, row.id = id := by
          rintro id rfl
          exact Option.map_eq_some_iff.mp hids
        rcases Database.reparentTenant_ok hmove with rfl | hdb'
        · exact hlocked.kept_close n
        · have hreplaced : s.db.Replaced new.toTables tenant { tenant with parentId := newParentId } :=
            s.db.replaced_of_update (fun row => { row with parentId := newParentId }) htenant rfl hdb'
          have hchange : s.db.CommittedChange new.toTables [tenant.id] newParentId.toList := by
            refine hreplaced.committedChange fun halive p hp hnot => ?_
            exact absurd (Option.mem_toList.mpr hp) hnot
          refine ⟨hlocked.commit hchange ?_ ?_, .moved _ _ hreplaced rfl rfl ?_⟩
          · intro id hid
            obtain rfl := List.mem_singleton.mp hid
            exact LockTable.holdsExclusively_of_acquire hlocks
              (List.mem_map_of_mem List.mem_cons_self)
          · intro id hid
            obtain ⟨row, hrow, rfl⟩ := hparent id (Option.mem_toList.mp hid)
            exact (hrows row hrow).2.2.of_acquire hlocks
          · intro other hother hlink
            obtain ⟨row, hrow, hid⟩ := hparent other.id hlink
            obtain rfl := s.db.constraints.unique.tenants_pk.eq_of_key_eq (hrows row hrow).2.1
              hother hid
            exact (hrows row hrow).1
  | _ => cases h

/-! ### Transitions and purges -/

lemma Sound.commit_transition (hsound : s.Sound) {row row' : Tenant}
    (hreads : Reads s.db.toTables s.locks n .exclusive row)
    (hreplaced : s.db.Replaced new.toTables row row')
    (hedge : row'.status ∈ row.status.allowedTransitions) (hlink : row'.parentId = row.parentId) :
    ({ s.close n with db := new } : LifecycleSystem).Sound := by
  have hchange : s.db.CommittedChange new.toTables [row.id] [] := by
    refine hreplaced.committedChange fun _ p hp _ => ⟨fun hpurged => ?_, hlink ▸ hp⟩
    rw [hpurged] at hedge
    cases hedge
  refine hsound.commit hchange (fun id hid => ?_) fun _ hid => absurd hid List.not_mem_nil
  obtain rfl := List.mem_singleton.mp hid
  exact hreads.2

/-- A transition that the next step of a call commits is one that a purge would make: it does not
enter the purge phase with live children, and does not leave it without the tombstone name. -/
def HarmlessTransition (config : TenancyConfig) (db : Database) :
    LifecycleRequest → LifecyclePhase → Prop
  | .transitionTenantStatus now newId tenantId target caller _ expectedOperation selfService,
      .rowRead before request row =>
    (db.transitionTenantRow config before now newId tenantId target caller expectedOperation
        selfService row request).toBool = true →
      (target = .purging → db.liveChildren tenantId = []) ∧
        (target = .purged → ∀ tenant ∈ row, tenant.name = tombstoneName tenantId)
  | _, _ => True

instance (config : TenancyConfig) (db : Database) (request : LifecycleRequest)
    (phase : LifecyclePhase) : Decidable (HarmlessTransition config db request phase) := by
  unfold HarmlessTransition
  split <;> infer_instance

lemma Sound.advance_transitionTenantStatus (hsound : s.Sound) {newId tenantId : Uuid}
    {target : TenantStatus} {expectedOperation : Option PlatformOperation} {selfService : Bool}
    (hphase : PhaseSound s.db.toTables s.locks n
      (.transitionTenantStatus now newId tenantId target caller reason expectedOperation
        selfService) phase)
    (h : s.advance config n (.transitionTenantStatus now newId tenantId target caller reason
      expectedOperation selfService) phase = some s') :
    Kept (HarmlessTransition config s.db (.transitionTenantStatus now newId tenantId target caller
      reason expectedOperation selfService) phase) s s' := by
  cases phase with
  | begun =>
    cases h
    exact hsound.kept_settle fun _ _ => trivial
  | admitted request =>
    simp only [advance, Option.bind_eq_bind, Option.bind_eq_some_iff] at h
    obtain ⟨locks, hlocks, hdone⟩ := h
    cases hdone
    refine Sound.kept ((hsound.acquire hlocks).proceed ?_) rfl
    intro tenant htenant
    obtain ⟨hmem, rfl⟩ := Tables.tenant?_eq_some htenant
    exact ⟨rfl, hmem, LockTable.holds_of_acquire hlocks (mem_rowLock hmem)⟩
  | rowRead before request row =>
    cases h
    cases hwrite : s.db.transitionTenantRow config before now newId tenantId target caller
        expectedOperation selfService row request with
    | error refusal => exact hsound.kept_close n
    | ok new =>
      obtain ⟨tenant, rfl, hedge, hdb'⟩ := Database.transitionTenantRow_ok hwrite
      obtain ⟨rfl, hreads⟩ := hphase tenant rfl
      have hreplaced : s.db.Replaced new.toTables tenant { tenant with status := target } :=
        s.db.replaced_of_update (fun row => { row with status := target }) hreads.1 rfl (by rw [hdb']; rfl)
      refine ⟨hsound.commit_transition hreads hreplaced hedge rfl,
        .transitioned _ _ hreplaced hedge rfl ?_ ?_⟩
      · exact fun hharmless => (hharmless (congrArg Except.toBool hwrite)).1
      · exact fun hharmless hpurged =>
          (hharmless (congrArg Except.toBool hwrite)).2 hpurged tenant rfl
  | _ => cases h

lemma Sound.readRow (hsound : s.Sound) {tenantId : Uuid} {caller : Caller}
    {phase : Tenant → LifecyclePhase} (h : s.readRow n tenantId caller phase = some s')
    (hphase : ∀ locks tenant, tenant.id = tenantId → Reads s.db.toTables locks n .exclusive tenant →
      PhaseSound s.db.toTables locks n (.purgeTenant tenantId caller) (phase tenant)) :
    Kept harmless s s' := by
  simp only [LifecycleSystem.readRow, Option.bind_eq_bind, Option.bind_eq_some_iff] at h
  obtain ⟨locks, hlocks, hdone⟩ := h
  cases hdone
  refine (hsound.acquire hlocks).kept_settle fun tenant hread => ?_
  simp only [Tables.readPurgedTenant, bind_eq_ok] at hread
  obtain ⟨⟨⟩, -, hrow⟩ := hread
  obtain ⟨hmem, rfl⟩ := Tables.tenant?_eq_some (Tables.getTenant_eq_ok.mp hrow)
  exact hphase locks tenant rfl ⟨hmem, LockTable.holds_of_acquire hlocks (mem_rowLock hmem)⟩

lemma Sound.advance_purgeTenant (hsound : s.Sound)
    (hphase : PhaseSound s.db.toTables s.locks n (.purgeTenant tenantId caller) phase)
    (h : s.advance config n (.purgeTenant tenantId caller) phase = some s') :
    Kept harmless s s' := by
  cases phase with
  | begun =>
    simp only [advance] at h
    split at h
    · cases h
      exact hsound.kept_close n
    · exact hsound.readRow h fun _ _ hid hreads => ⟨hid, hreads⟩
  | entryRead tenant =>
    simp only [advance] at h
    split at h
    · cases h
      exact hsound.kept_close n
    · cases h
      refine hsound.kept_settle fun _ hlive => ⟨hphase, ?_⟩
      exact List.isEmpty_iff.mp (require_eq_ok.mp hlive)
  | entryChecked tenant =>
    cases h
    obtain ⟨⟨rfl, hreads⟩, hlive⟩ := hphase
    cases hwrite : s.db.enterPurging tenant with
    | error refusal => exact hsound.kept_close n
    | ok new =>
      rcases Database.enterPurging_ok hwrite with rfl | ⟨hedge, hdb'⟩
      · refine Sound.kept ((hsound.close n).proceed ?_) rfl
        trivial
      · have hreplaced : s.db.Replaced new.toTables tenant { tenant with status := .purging } :=
          s.db.replaced_of_update (fun row => { row with status := .purging }) hreads.1 rfl
            (by rw [hdb']; rfl)
        refine ⟨(hsound.commit_transition hreads hreplaced hedge rfl).proceed trivial,
          .transitioned _ _ hreplaced hedge rfl (fun _ _ => hlive) fun _ hpurged => ?_⟩
        cases hpurged
  | purging => exact hsound.readRow h fun _ _ hid hreads => ⟨hid, hreads⟩
  | finalRead tenant =>
    cases h
    obtain ⟨rfl, hreads⟩ := hphase
    cases hwrite : s.db.leavePurging tenant with
    | error refusal => exact hsound.kept_close n
    | ok new =>
      rcases Database.leavePurging_ok hwrite with rfl | ⟨hedge, hdb'⟩
      · exact hsound.kept_close n
      · have hreplaced : s.db.Replaced new.toTables tenant
            { tenant with name := tombstoneName tenant.id, status := .purged } :=
          s.db.replaced_of_update
            (fun row => { row with name := tombstoneName tenant.id, status := .purged }) hreads.1
            rfl (by rw [hdb']; rfl)
        refine ⟨hsound.commit_transition hreads hreplaced hedge rfl,
          .transitioned _ _ hreplaced hedge rfl (fun _ hpurging => ?_) fun _ _ => rfl⟩
        cases hpurging
  | _ => cases h

/-! ## Runs -/

lemma Sound.advance (hsound : s.Sound) {call : LifecycleCall} (hcall : s.call n = some call)
    (h : s.advance config n call.request call.phase = some s') :
    Kept (HarmlessTransition config s.db call.request call.phase) s s' := by
  have hphase := hsound n call hcall
  obtain ⟨request, phase⟩ := call
  cases request with
  | createTenant tenantId name parentId caller => exact hsound.advance_createTenant hphase h
  | moveTenant now tenantId newParentId caller reason => exact hsound.advance_moveTenant hphase h
  | transitionTenantStatus now newId tenantId target caller reason expectedOperation selfService =>
    exact hsound.advance_transitionTenantStatus hphase h
  | purgeTenant tenantId caller => exact hsound.advance_purgeTenant hphase h

/-- A transition that goes through purges no parent and leaves no name. -/
def KeepsTombstones (config : TenancyConfig) (s : LifecycleSystem) : LifecycleEvent → Prop
  | .advance n => ∀ call ∈ s.call n, HarmlessTransition config s.db call.request call.phase
  | _ => True

instance (config : TenancyConfig) (s : LifecycleSystem) (event : LifecycleEvent) :
    Decidable (s.KeepsTombstones config event) := by
  cases event <;> unfold KeepsTombstones <;> infer_instance

lemma Sound.step (hsound : s.Sound) (config : TenancyConfig) (event : LifecycleEvent) :
    Kept (s.KeepsTombstones config event) s (s.step config event) := by
  cases event with
  | begin n request =>
    dsimp only [LifecycleSystem.step]
    split
    · refine Sound.kept (hsound.proceed ?_) rfl
      cases request <;> trivial
    · exact hsound.kept rfl
  | advance n =>
    dsimp only [LifecycleSystem.step]
    split
    · exact hsound.kept rfl
    · next call hcall =>
      cases hadvance : s.advance config n call.request call.phase with
      | none => exact hsound.kept rfl
      | some s' =>
        have hkept := hsound.advance hcall hadvance
        exact ⟨hkept.sound, hkept.change.imp fun hkeeps => hkeeps call hcall⟩
  | abort n => exact (hsound.close n).kept rfl
  | other db =>
    dsimp only [LifecycleSystem.step]
    split
    · next htenants =>
      exact ⟨fun m call hm => (hsound m call hm).of_eq htenants fun _ _ hheld => hheld,
        .unchanged htenants⟩
    · exact hsound.kept rfl

/-- Nothing runs, and the tenants are in order. -/
structure Initial (s : LifecycleSystem) : Prop where
  leavesFirst : s.db.LeavesFirst
  tombstoned : s.db.Tombstoned
  call : ∀ n, s.call n = none

lemma Initial.sound (hinitial : s.Initial) : s.Sound := by
  intro n call hn
  rw [hinitial.call n] at hn
  cases hn

lemma Sound.run (hsound : s.Sound) (config : TenancyConfig) (events : List LifecycleEvent) :
    (Run.run (LifecycleSystem.step config) s events).Sound :=
  Run.run_of_step (fun _ event hstate => (hstate.step config event).sound) hsound events

lemma Sound.exists_isClosed_run (hsound : s.Sound) (config : TenancyConfig)
    (events : List LifecycleEvent) {tenant : Tenant} (htenant : tenant ∈ s.db.tenants)
    (hclosed : tenant.status.isClosed = true) :
    ∃ tenant' ∈ (Run.run (LifecycleSystem.step config) s events).db.tenants,
      tenant'.id = tenant.id ∧ tenant'.status.isClosed = true := by
  induction events generalizing s tenant with
  | nil => exact ⟨tenant, htenant, rfl, hclosed⟩
  | cons event events ih =>
    have hkept := hsound.step config event
    obtain ⟨next, hnext, hid, hstill⟩ := hkept.change.exists_isClosed htenant hclosed
    obtain ⟨last, hlast, hlastId, hend⟩ := ih hkept.sound hnext hstill
    exact ⟨last, hlast, hlastId.trans hid, hend⟩

/-- In every run in which no committed status transition enters the purge phase of a tenant with live children
or leaves it without the tombstone name, every child of a tenant that is being purged or is purged
is purged itself, and every purged tenant carries its tombstone name.  In every run whatsoever, a
tenant that is closed is never open again. -/
theorem run_leavesFirst (config : TenancyConfig) {s : LifecycleSystem} (hinitial : s.Initial)
    (events : List LifecycleEvent) :
    (Run.Along (step config) (KeepsTombstones config) s events →
      Run.Always (step config) (fun s => s.db.LeavesFirst ∧ s.db.Tombstoned) s events) ∧
    ∀ before middle after, events = before ++ middle ++ after →
      ∀ tenant ∈ (Run.run (step config) s before).db.tenants, tenant.status.isClosed = true →
        ∃ tenant' ∈ (Run.run (step config) s (before ++ middle)).db.tenants,
          tenant'.id = tenant.id ∧ tenant'.status.isClosed = true := by
  refine ⟨fun hkeeps => ?_, ?_⟩
  · have hinvariant : Run.Always (step config)
        (fun s => s.Sound ∧ s.db.LeavesFirst ∧ s.db.Tombstoned) s events := by
      refine Run.always_of_along ?_
        ⟨hinitial.sound, hinitial.leavesFirst, hinitial.tombstoned⟩ hkeeps
      rintro state event ⟨hsound, hleaves, htombstoned⟩ hevent
      have hkept := hsound.step config event
      exact ⟨hkept.sound, hkept.change.leavesFirst hevent hleaves,
        hkept.change.tombstoned hevent htombstoned⟩
    exact fun before after hsplit => (hinvariant before after hsplit).2
  · rintro before middle after rfl tenant htenant hclosed
    rw [Run.run_append]
    exact (hinitial.sound.run config before).exists_isClosed_run config middle htenant hclosed

end LifecycleSystem

/-! ## A purge, and a transition in its place -/

def operatedRegistry : LifecycleSystem where
  db :=
    { users := [⟨1, true⟩]
      platformOperators := [⟨2, 1, .active⟩]
      platformGrants := [⟨3, 2, .tenantCreate, none⟩, ⟨4, 2, .tenantDelete, none⟩]
      constraints := by decide }
  locks := .empty
  call := fun _ => none

def uninterrupted (n : ℕ) (request : LifecycleRequest) (steps : ℕ) : List LifecycleEvent :=
  .begin n request :: List.replicate steps (.advance n)

def transitionTo (tenantId : Uuid) (target : TenantStatus) (caller : Caller) : LifecycleRequest :=
  .transitionTenantStatus 0 99 tenantId target caller none none false

def branchLeft : List LifecycleEvent :=
  uninterrupted 0 (.createTenant 10 "Acme" none (.user 1)) 2 ++
  uninterrupted 1 (.createTenant 20 "Branch" (some 10) (.user 1)) 2 ++
  uninterrupted 2 (transitionTo 10 .deleted (.user 1)) 3

/-- The lower tenant is deleted too; a purge of the upper one is refused, and then both are purged,
the lower one first. -/
def purgedLeavesFirst : List LifecycleEvent :=
  branchLeft ++ uninterrupted 3 (transitionTo 20 .deleted (.user 1)) 3 ++
  uninterrupted 4 (.purgeTenant 10 (.system .tenantPurge)) 2 ++
  uninterrupted 5 (.purgeTenant 20 (.system .tenantPurge)) 5 ++
  uninterrupted 6 (.purgeTenant 10 (.system .tenantPurge)) 5

/-- Both tenants end as tombstones. -/
theorem run_leavesFirst_purged :
    (Run.run (LifecycleSystem.step {}) operatedRegistry purgedLeavesFirst).db.tenants =
      [⟨10, tombstoneName 10, .purged, none⟩, ⟨20, tombstoneName 20, .purged, some 10⟩] ∧
    Run.Always (LifecycleSystem.step {}) (fun s => s.db.LeavesFirst ∧ s.db.Tombstoned)
      operatedRegistry purgedLeavesFirst := by
  have hinitial : operatedRegistry.Initial := ⟨by decide, by decide, fun _ => rfl⟩
  refine ⟨by decide +kernel, ?_⟩
  exact (LifecycleSystem.run_leavesFirst {} hinitial purgedLeavesFirst).1 (by decide +kernel)

def transitionedThrough : List LifecycleEvent :=
  branchLeft ++ uninterrupted 3 (transitionTo 10 .purging (.system .tenantPurge)) 3 ++
  uninterrupted 4 (transitionTo 10 .purged (.system .tenantPurge)) 3

/-- The tenant is purged with a child that is alive, and keeps its name. -/
theorem transitionedThrough_not_leavesFirst : operatedRegistry.Initial ∧
    (Run.run (LifecycleSystem.step {}) operatedRegistry transitionedThrough).db.tenants =
      [⟨10, "Acme", .purged, none⟩, ⟨20, "Branch", .pending, some 10⟩] ∧
    ¬ (Run.run (LifecycleSystem.step {}) operatedRegistry transitionedThrough).db.LeavesFirst ∧
    ¬ (Run.run (LifecycleSystem.step {}) operatedRegistry transitionedThrough).db.Tombstoned := by
  refine ⟨⟨by decide, by decide, fun _ => rfl⟩, ?_, ?_, ?_⟩
  · decide +kernel
  · decide +kernel
  · decide +kernel

end SaasOs
