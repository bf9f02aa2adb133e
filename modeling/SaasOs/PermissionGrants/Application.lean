import SaasOs.PermissionGrants.Declarations

/-!
# Applying permission grant migrations

A run applies the validated migrations to one tenant in a transaction: a migration that the ledger
names is not looked at again, a missing role is recorded, and every permission that the role lacks is
added.  A dry run has no run id; it counts the same, and writes nothing.
-/

namespace SaasOs.PermissionGrants

/-! ## The tenant -/

/-- The global catalog of permissions, whose ids are its primary key. -/
structure PermissionCatalog where
  rows : List Permission
  unique : Rows.UniqueOn rows Permission.id

/-- `APPLICATION_OUTCOME_APPLIED` and `APPLICATION_OUTCOME_ROLE_MISSING`. -/
inductive ApplicationOutcome
  | applied | roleMissing

/-- A row of `core.permission_grant_applications`, the ledger. -/
structure PermissionGrantApplication where
  tenantId : Uuid
  «namespace» : String
  migrationId : String
  contentDigest : String
  outcome : ApplicationOutcome
  grantsAdded : ℕ
  appliedByPlatformAuditId : Uuid

/-- What the audit rows of a run say of the run. -/
structure GrantMetadata where
  «namespace» : String
  migrationId : String
  operatorUserId : Uuid
  runId : Uuid

/-- The audit rows that a run writes in a tenant. -/
inductive GrantAuditRow
  | rolePermissionGrant (tenantId roleId permissionId : Uuid) (permission : String)
      (metadata : GrantMetadata)
  | permissionGrantMigrationApply (tenantId operatorUserId runId : Uuid) («namespace» : String)
      (migrationIds : List String) (rolesMissing grantsAdded grantsAlreadyPresent : ℕ)

/-- What the transaction of a tenant sees. -/
structure GrantState where
  permissions : PermissionCatalog
  roles : List Role
  rolePermissions : List RolePermission
  ledger : List PermissionGrantApplication
  audit : List GrantAuditRow

/-- The outcome of a run in one tenant. -/
inductive TenantOutcome
  | changed | unchanged | tenantClosed | tenantNotFound | failed
  deriving DecidableEq

/-- What a run did, or without a run id would do, in one tenant. -/
structure TenantGrantResult where
  tenantId : Uuid
  outcome : TenantOutcome
  migrationsApplied : ℕ
  rolesMissing : ℕ
  migrationsAlreadyApplied : ℕ
  grantsAdded : ℕ
  grantsAlreadyPresent : ℕ
  error : Option String
  deriving DecidableEq

inductive ApplyError
  | refused (error : Error)
  /-- A permission that was not resolved. -/
  | keyError (pair : String × String)
  deriving DecidableEq

/-- The ids of the declared permissions. -/
abbrev PermissionIds := List ((String × String) × Uuid)

def resolvePairs (catalog : PermissionCatalog) (migrationId : String) :
    List (String × String) → PermissionIds → Except Error PermissionIds
  | [], resolved => .ok resolved
  | pair :: pairs, resolved =>
    match resolved.lookup pair with
    | some _ => resolvePairs catalog migrationId pairs resolved
    | none =>
      match catalog.rows.find? fun permission =>
          permission.resource = pair.1 ∧ permission.action = pair.2 with
      | none => .error (.unregisteredPermissionGrant migrationId pair.1 pair.2)
      | some permission =>
        resolvePairs catalog migrationId pairs ((pair, permission.id) :: resolved)

/-- `_resolve_permissions`, with what has been resolved before. -/
def resolvePermissions (catalog : PermissionCatalog) :
    List ValidatedMigration → PermissionIds → Except Error PermissionIds
  | [], resolved => .ok resolved
  | item :: items, resolved => do
    let resolved ← resolvePairs catalog item.migration.id item.migration.permissions resolved
    resolvePermissions catalog items resolved

namespace GrantState

variable (state : GrantState) (tenantId : Uuid)

/-- `_ledger`: the digests of the migrations that were applied. -/
def ledgerOf («namespace» : String) : List (String × String) :=
  (state.ledger.filter fun row => row.tenantId = tenantId ∧ row.namespace = «namespace»).map
    fun row => (row.migrationId, row.contentDigest)

def roleId (roleName : String) : Option Uuid :=
  (state.roles.find? fun role => role.tenantId = tenantId ∧ role.name = roleName).map Role.id

/-- `_holds`: the role has the permission. -/
def holds (grant : Uuid × Uuid) : Bool :=
  state.rolePermissions.any fun row =>
    row.tenantId = tenantId ∧ row.roleId = grant.1 ∧ row.permissionId = grant.2

/-- `grant_registered_permission_to_role`, by the authority of a permission upgrade: whether the
permission was added. -/
def grantRegisteredPermissionToRole (newId : ℕ → Uuid) (roleId permissionId : Uuid)
    (metadata : GrantMetadata) : Except ApplyError (Bool × GrantState) :=
  match state.permissions.rows.find? fun permission => permission.id = permissionId with
  | none => .error (.refused (.service (.permissionNotFound permissionId)))
  | some permission =>
    if isAuthorityChanging permission.resource permission.action then
      .error (.refused (.service
        (.authorityNotAuthorized "grant_registered_permission_to_role" tenantId)))
    else
      match state.roles.find? fun role => role.tenantId = tenantId ∧ role.id = roleId with
      | none => .error (.refused (.service (.roleNotFound tenantId roleId)))
      | some _ =>
        if state.holds tenantId (roleId, permissionId) then .ok (false, state)
        else
          .ok (true, { state with
            rolePermissions := state.rolePermissions ++
              [⟨newId state.rolePermissions.length, tenantId, roleId, permissionId⟩]
            audit := state.audit ++ [.rolePermissionGrant tenantId roleId permissionId
              s!"{permission.resource}:{permission.action}" metadata] })

end GrantState

/-! ## The run -/

/-- What a run in a tenant is called with, besides the migrations and the run id; `newId` stands for
the ids of new rows. -/
structure GrantRun where
  tenantId : Uuid
  operatorUserId : Uuid
  «namespace» : String
  permissionIds : PermissionIds
  newId : ℕ → Uuid

structure GrantProgress where
  state : GrantState
  applied : List String
  missing : ℕ
  already : ℕ
  added : ℕ
  present : ℕ

/-- `_refuse_changed`: an applied migration was edited. -/
def refuseChanged (ledger : List (String × String)) («namespace» : String) :
    List ValidatedMigration → Except ApplyError Unit
  | [] => .ok ()
  | item :: items =>
    if ∃ recorded ∈ ledger.lookup item.migration.id, recorded ≠ item.digest then
      .error (.refused (.permissionGrantMigrationChanged «namespace» item.migration.id))
    else refuseChanged ledger «namespace» items

namespace GrantRun

variable (run : GrantRun) (runId : Option Uuid)

def grantPair (migrationId : String) (roleId : Uuid) (state : GrantState) (pair : String × String) :
    Except ApplyError (Bool × GrantState) :=
  match run.permissionIds.lookup pair with
  | none => .error (.keyError pair)
  | some permissionId =>
    match runId with
    | some runId =>
      state.grantRegisteredPermissionToRole run.tenantId run.newId roleId permissionId
        ⟨run.namespace, migrationId, run.operatorUserId, runId⟩
    | none => .ok (!state.holds run.tenantId (roleId, permissionId), state)

def grantPairs (migrationId : String) (roleId : Uuid) :
    GrantState → List (String × String) → Except ApplyError (ℕ × ℕ × GrantState)
  | state, [] => .ok (0, 0, state)
  | state, pair :: pairs => do
    let (inserted, state) ← grantPair run runId migrationId roleId state pair
    let (newGrants, present, state) ← grantPairs migrationId roleId state pairs
    if inserted then .ok (newGrants + 1, present, state) else .ok (newGrants, present + 1, state)

def recordApplication (item : ValidatedMigration) (outcome : ApplicationOutcome) (newGrants : ℕ)
    (state : GrantState) : GrantState :=
  match runId with
  | none => state
  | some runId =>
    { state with ledger := state.ledger ++ [⟨run.tenantId, run.namespace, item.migration.id,
        item.digest, outcome, newGrants, runId⟩] }

def applyItem (ledger : List (String × String)) (progress : GrantProgress)
    (item : ValidatedMigration) : Except ApplyError GrantProgress :=
  match ledger.lookup item.migration.id with
  | some _ => .ok { progress with already := progress.already + 1 }
  | none =>
    match progress.state.roleId run.tenantId item.migration.roleName with
    | none => .ok { progress with
        state := recordApplication run runId item .roleMissing 0 progress.state
        missing := progress.missing + 1 }
    | some roleId => do
      let (newGrants, present, state) ←
        grantPairs run runId item.migration.id roleId progress.state item.migration.permissions
      .ok { progress with
        state := recordApplication run runId item .applied newGrants state
        applied := progress.applied ++ [item.migration.id]
        added := progress.added + newGrants
        present := progress.present + present }

def applyItems (ledger : List (String × String)) :
    GrantProgress → List ValidatedMigration → Except ApplyError GrantProgress
  | progress, [] => .ok progress
  | progress, item :: items => do
    let progress ← applyItem run runId ledger progress item
    applyItems ledger progress items

end GrantRun

def GrantProgress.changed (progress : GrantProgress) : Bool :=
  !progress.applied.isEmpty || decide (0 < progress.missing)

def GrantProgress.result (progress : GrantProgress) (tenantId : Uuid) : TenantGrantResult where
  tenantId := tenantId
  outcome := if progress.changed then .changed else .unchanged
  migrationsApplied := progress.applied.length
  rolesMissing := progress.missing
  migrationsAlreadyApplied := progress.already
  grantsAdded := progress.added
  grantsAlreadyPresent := progress.present
  error := none

def GrantRun.recordRun (run : GrantRun) (runId : Option Uuid) (progress : GrantProgress) :
    GrantState :=
  match runId with
  | none => progress.state
  | some runId =>
    if progress.changed then
      { progress.state with audit := progress.state.audit ++ [.permissionGrantMigrationApply
          run.tenantId run.operatorUserId runId run.namespace progress.applied progress.missing
          progress.added progress.present] }
    else progress.state

/-- `_apply_in_tenant`: what is returned, and the state of the tenant after it. -/
def applyInTenant (run : GrantRun) (runId : Option Uuid) (validated : List ValidatedMigration)
    (state : GrantState) : Except ApplyError (TenantGrantResult × GrantState) := do
  let ledger := state.ledgerOf run.tenantId run.namespace
  refuseChanged ledger run.namespace validated
  let progress ← run.applyItems runId ledger ⟨state, [], 0, 0, 0, 0⟩ validated
  .ok (progress.result run.tenantId, run.recordRun runId progress)

/-! ## Resolved permissions -/

def PermissionIds.Sound (ids : PermissionIds) (catalog : PermissionCatalog) : Prop :=
  ∀ pair id, ids.lookup pair = some id → ∃ permission ∈ catalog.rows,
    permission.id = id ∧ (permission.resource, permission.action) = pair

def PermissionIds.Covers (ids : PermissionIds) (pairs : List (String × String)) : Prop :=
  ∀ pair ∈ pairs, (ids.lookup pair).isSome

variable {catalog : PermissionCatalog} {library : Library} {runNamespace : String}

lemma isSome_lookup_cons {ids : PermissionIds} {pair other : String × String} {id : Uuid}
    (h : (ids.lookup pair).isSome) : (List.lookup pair ((other, id) :: ids)).isSome := by
  rw [List.lookup_cons]
  split
  · rfl
  · exact h

lemma PermissionIds.Sound.cons {ids : PermissionIds} (h : ids.Sound catalog)
    {permission : Permission} (hmem : permission ∈ catalog.rows) :
    PermissionIds.Sound (((permission.resource, permission.action), permission.id) :: ids)
      catalog := by
  intro pair id hlookup
  rw [List.lookup_cons] at hlookup
  split at hlookup
  · next heq =>
    cases hlookup
    exact ⟨permission, hmem, rfl, (beq_iff_eq.mp heq).symm⟩
  · exact h pair id hlookup

lemma resolvePairs_ok {migrationId : String} {pairs : List (String × String)}
    {ids ids' : PermissionIds} (h : resolvePairs catalog migrationId pairs ids = .ok ids')
    (hsound : ids.Sound catalog) :
    ids'.Sound catalog ∧ ids'.Covers pairs ∧
      ∀ pair, (ids.lookup pair).isSome → (ids'.lookup pair).isSome := by
  induction pairs generalizing ids with
  | nil =>
    cases h
    exact ⟨hsound, fun _ hpair => absurd hpair List.not_mem_nil, fun _ hpair => hpair⟩
  | cons pair pairs ih =>
    unfold resolvePairs at h
    split at h
    case h_1 id hid =>
      obtain ⟨hsound', hcovers, hkeeps⟩ := ih h hsound
      refine ⟨hsound', List.forall_mem_cons.mpr ⟨hkeeps pair ?_, hcovers⟩, hkeeps⟩
      rw [hid]
      rfl
    case h_2 =>
      split at h
      case h_1 => cases h
      case h_2 permission hfind =>
        have hfound := List.find?_some hfind
        simp only [decide_eq_true_eq] at hfound
        obtain ⟨hresource, haction⟩ := hfound
        have hpair : pair = (permission.resource, permission.action) :=
          Prod.ext hresource.symm haction.symm
        subst hpair
        obtain ⟨hsound', hcovers, hkeeps⟩ := ih h (hsound.cons (List.mem_of_find?_eq_some hfind))
        refine ⟨hsound', List.forall_mem_cons.mpr ⟨hkeeps _ ?_, hcovers⟩,
          fun other hother => hkeeps other (isSome_lookup_cons hother)⟩
        simp

lemma resolvePermissions_ok {items : List ValidatedMigration} {ids ids' : PermissionIds}
    (h : resolvePermissions catalog items ids = .ok ids') (hsound : ids.Sound catalog) :
    ids'.Sound catalog ∧ (∀ item ∈ items, ids'.Covers item.migration.permissions) ∧
      ∀ pair, (ids.lookup pair).isSome → (ids'.lookup pair).isSome := by
  induction items generalizing ids with
  | nil =>
    cases h
    exact ⟨hsound, fun _ hitem => absurd hitem List.not_mem_nil, fun _ hpair => hpair⟩
  | cons item items ih =>
    obtain ⟨resolved, hresolved, hrest⟩ := bind_eq_ok.mp h
    obtain ⟨hsound', hcovers, hkeeps⟩ := resolvePairs_ok hresolved hsound
    obtain ⟨hsound'', hcovers', hkeeps'⟩ := ih hrest hsound'
    refine ⟨hsound'', List.forall_mem_cons.mpr ⟨fun pair hpair => ?_, hcovers'⟩,
      fun pair hpair => hkeeps' pair (hkeeps pair hpair)⟩
    exact hkeeps' pair (hcovers pair hpair)

/-! ## Grants -/

namespace GrantRun

def grantsOf (run : GrantRun) (roleId : Uuid) (pairs : List (String × String)) :
    List (Uuid × Uuid) :=
  pairs.filterMap fun pair => (run.permissionIds.lookup pair).map fun id => (roleId, id)

def targets (run : GrantRun) (state : GrantState) (ledger : List (String × String))
    (item : ValidatedMigration) : List (Uuid × Uuid) :=
  match ledger.lookup item.migration.id with
  | some _ => []
  | none =>
    match state.roleId run.tenantId item.migration.roleName with
    | none => []
    | some roleId => run.grantsOf roleId item.migration.permissions

def lacked (run : GrantRun) (state : GrantState) (grants : List (Uuid × Uuid)) :
    List (Uuid × Uuid) :=
  grants.filter fun grant => !state.holds run.tenantId grant

def pendingGrants (run : GrantRun) (state : GrantState) (validated : List ValidatedMigration) :
    List (Uuid × Uuid) :=
  run.lacked state (validated.flatMap
    (run.targets state (state.ledgerOf run.tenantId run.namespace)))

/-- The state is one that grants have been added to, and nothing else that a run reads. -/
structure Extends (run : GrantRun) (state : GrantState) (grants : List (Uuid × Uuid))
    (state' : GrantState) : Prop where
  permissions : state'.permissions = state.permissions
  roles : state'.roles = state.roles
  holds : ∀ grant, state'.holds run.tenantId grant = true ↔
    state.holds run.tenantId grant = true ∨ grant ∈ grants

variable {run : GrantRun} {state state' : GrantState} {grants : List (Uuid × Uuid)}

lemma Extends.refl (run : GrantRun) (state : GrantState) : run.Extends state [] state :=
  ⟨rfl, rfl, fun grant => by simp⟩

lemma card_lacked_concat (grants : List (Uuid × Uuid)) (grant : Uuid × Uuid) :
    (run.lacked state (grants ++ [grant])).toFinset.card =
      (run.lacked state grants).toFinset.card +
        if state.holds run.tenantId grant = true ∨ grant ∈ grants then 0 else 1 := by
  unfold lacked
  rw [List.filter_append, List.toFinset_append, List.filter_singleton]
  by_cases hholds : state.holds run.tenantId grant = true
  · simp [hholds]
  · by_cases hmem : grant ∈ grants
    · simp [hholds, hmem]
    · simp [hholds, hmem]

variable {pair : String × String}

lemma grantPair_run (runId : Uuid) {roleId : Uuid} (migrationId : String) {permission : Permission}
    (hextends : run.Extends state grants state') (hmem : permission ∈ state.permissions.rows)
    (hlookup : run.permissionIds.lookup pair = some permission.id)
    (hpermitted : isAuthorityChanging permission.resource permission.action = false)
    (hrole : ∃ role ∈ state.roles, role.tenantId = run.tenantId ∧ role.id = roleId) :
    ∃ inserted state'',
      run.grantPair (some runId) migrationId roleId state' pair = .ok (inserted, state'') ∧
      run.Extends state (grants ++ [(roleId, permission.id)]) state'' ∧
      (inserted = false ↔ state.holds run.tenantId (roleId, permission.id) = true ∨
        (roleId, permission.id) ∈ grants) := by
  have hfind : state'.permissions.rows.find? (fun row => row.id = permission.id) =
      some permission := by
    rw [hextends.permissions]
    have hone := state.permissions.unique.atMostOne (p := fun row => row.id = permission.id)
      fun row hrow => of_decide_eq_true hrow
    exact (Rows.find?_eq_some_iff hone).mpr ⟨hmem, by simp⟩
  have hfindRole : ∃ role,
      state'.roles.find? (fun role => role.tenantId = run.tenantId ∧ role.id = roleId) =
        some role := by
    rw [hextends.roles]
    obtain ⟨role, hrole, htenant, hid⟩ := hrole
    exact Option.isSome_iff_exists.mp (List.find?_isSome.mpr ⟨role, hrole, by simp [htenant, hid]⟩)
  obtain ⟨role, hfindRole⟩ := hfindRole
  unfold grantPair
  rw [hlookup]
  dsimp only
  unfold GrantState.grantRegisteredPermissionToRole
  rw [hfind, hfindRole]
  simp only [hpermitted, Bool.false_eq_true, if_false]
  by_cases hholds : state'.holds run.tenantId (roleId, permission.id) = true
  · rw [if_pos hholds]
    have hnamed := (hextends.holds _).mp hholds
    refine ⟨false, state', rfl, ⟨hextends.permissions, hextends.roles, fun grant => ?_⟩,
      iff_of_true rfl hnamed⟩
    rw [hextends.holds, List.mem_append, List.mem_singleton]
    constructor
    · tauto
    · rintro (h | h | rfl)
      · exact .inl h
      · exact .inr h
      · exact hnamed
  · rw [if_neg hholds]
    have hnamed := (hextends.holds _).not.mp hholds
    refine ⟨true, _, rfl, ⟨hextends.permissions, hextends.roles, fun grant => ?_⟩,
      iff_of_false (fun h => Bool.noConfusion h) hnamed⟩
    rw [List.mem_append, List.mem_singleton, ← or_assoc, ← hextends.holds]
    simp only [GrantState.holds, List.any_append, List.any_cons, List.any_nil, Bool.or_false,
      Bool.or_eq_true, true_and, decide_eq_true_eq]
    rw [Prod.ext_iff, eq_comm (a := grant.1), eq_comm (a := grant.2)]

/-- The permissions may be granted: they have the ids of the catalog. -/
structure Grantable (run : GrantRun) (catalog : PermissionCatalog)
    (pairs : List (String × String)) : Prop where
  sound : run.permissionIds.Sound catalog
  covers : run.permissionIds.Covers pairs
  permitted : ∀ pair ∈ pairs, isAuthorityChanging pair.1 pair.2 = false

variable {pairs : List (String × String)}

lemma Grantable.tail {catalog : PermissionCatalog} (h : run.Grantable catalog (pair :: pairs)) :
    run.Grantable catalog pairs :=
  ⟨h.sound, fun other hother => h.covers other (List.mem_cons_of_mem pair hother),
    fun other hother => h.permitted other (List.mem_cons_of_mem pair hother)⟩

lemma Grantable.head {catalog : PermissionCatalog} (h : run.Grantable catalog (pair :: pairs)) :
    ∃ permission ∈ catalog.rows, run.permissionIds.lookup pair = some permission.id ∧
      isAuthorityChanging permission.resource permission.action = false := by
  obtain ⟨id, hid⟩ := Option.isSome_iff_exists.mp (h.covers pair List.mem_cons_self)
  obtain ⟨permission, hmem, rfl, hpair⟩ := h.sound pair id hid
  refine ⟨permission, hmem, hid, ?_⟩
  have hpermitted := h.permitted pair List.mem_cons_self
  rw [← hpair] at hpermitted
  exact hpermitted

lemma grantsOf_cons {roleId id : Uuid} (h : run.permissionIds.lookup pair = some id) :
    run.grantsOf roleId (pair :: pairs) = (roleId, id) :: run.grantsOf roleId pairs := by
  simp [grantsOf, h]

lemma grantPairs_run (runId : Uuid) {roleId : Uuid} (migrationId : String)
    (hextends : run.Extends state grants state')
    (hgrantable : run.Grantable state.permissions pairs)
    (hrole : ∃ role ∈ state.roles, role.tenantId = run.tenantId ∧ role.id = roleId) :
    ∃ newGrants present state'', run.grantPairs (some runId) migrationId roleId state' pairs =
        .ok (newGrants, present, state'') ∧
      run.Extends state (grants ++ run.grantsOf roleId pairs) state'' ∧
      (run.lacked state (grants ++ run.grantsOf roleId pairs)).toFinset.card =
        (run.lacked state grants).toFinset.card + newGrants ∧
      newGrants + present = (run.grantsOf roleId pairs).length := by
  induction pairs generalizing grants state' with
  | nil =>
    refine ⟨0, 0, state', rfl, ?_⟩
    simpa [grantsOf] using hextends
  | cons pair pairs ih =>
    obtain ⟨permission, hmem, hlookup, hpermitted⟩ := hgrantable.head
    obtain ⟨inserted, state₁, hpair, hextends₁, hinserted⟩ :=
      grantPair_run runId migrationId hextends hmem hlookup hpermitted hrole
    obtain ⟨newGrants, present, state₂, hpairs, hextends₂, hcard, hlength⟩ :=
      ih hextends₁ hgrantable.tail
    rw [card_lacked_concat] at hcard
    rw [grantsOf_cons hlookup, List.append_cons, List.length_cons, ← hlength]
    unfold grantPairs
    rw [hpair]
    dsimp only [bind, Except.bind]
    rw [hpairs]
    cases inserted with
    | false =>
      rw [if_pos (hinserted.mp rfl)] at hcard
      exact ⟨newGrants, present + 1, state₂, rfl, hextends₂, hcard, by omega⟩
    | true =>
      rw [if_neg fun h => Bool.false_ne_true (hinserted.mpr h).symm] at hcard
      exact ⟨newGrants + 1, present, state₂, rfl, hextends₂, by omega, by omega⟩

lemma grantPairs_dryRun (roleId : Uuid) (migrationId : String)
    (hgrantable : run.Grantable state.permissions pairs) :
    ∃ newGrants present, run.grantPairs none migrationId roleId state pairs =
        .ok (newGrants, present, state) ∧
      (run.lacked state (run.grantsOf roleId pairs)).length = newGrants ∧
      newGrants + present = (run.grantsOf roleId pairs).length := by
  induction pairs with
  | nil => exact ⟨0, 0, rfl, rfl, rfl⟩
  | cons pair pairs ih =>
    obtain ⟨permission, -, hlookup, -⟩ := hgrantable.head
    obtain ⟨newGrants, present, hpairs, hlacked, hlength⟩ := ih hgrantable.tail
    rw [grantsOf_cons hlookup, List.length_cons, ← hlength]
    unfold grantPairs grantPair lacked
    rw [hlookup, List.filter_cons]
    unfold lacked at hlacked
    dsimp only [bind, Except.bind]
    rw [hpairs]
    cases state.holds run.tenantId (roleId, permission.id) with
    | false => exact ⟨newGrants + 1, present, rfl, by simp [hlacked], by omega⟩
    | true => exact ⟨newGrants, present + 1, rfl, by simp [hlacked], by omega⟩

/-! ## The dry run and the run -/

/-- A dry run and a run have come through the same migrations, which named these grants. -/
structure Alike (run : GrantRun) (state : GrantState) (grants : List (Uuid × Uuid))
    (dry wet : GrantProgress) : Prop where
  unchanged : dry.state = state
  extends_ : run.Extends state grants wet.state
  applied : dry.applied = wet.applied
  missing : dry.missing = wet.missing
  already : dry.already = wet.already
  dryAdded : dry.added = (run.lacked state grants).length
  wetAdded : wet.added = (run.lacked state grants).toFinset.card
  dryTotal : dry.added + dry.present = grants.length
  wetTotal : wet.added + wet.present = grants.length

lemma Extends.recordApplication (h : run.Extends state grants state') (runId : Option Uuid)
    (item : ValidatedMigration) (outcome : ApplicationOutcome) (newGrants : ℕ) :
    run.Extends state grants (run.recordApplication runId item outcome newGrants state') := by
  cases runId with
  | none => exact h
  | some runId => exact ⟨h.permissions, h.roles, h.holds⟩

lemma exists_role_of_roleId {tenantId roleId : Uuid} {roleName : String}
    (h : state.roleId tenantId roleName = some roleId) :
    ∃ role ∈ state.roles, role.tenantId = tenantId ∧ role.id = roleId := by
  obtain ⟨role, hfind, hid⟩ := Option.map_eq_some_iff.mp h
  have hfound := List.find?_some hfind
  simp only [decide_eq_true_eq] at hfound
  exact ⟨role, List.mem_of_find?_eq_some hfind, hfound.1, hid⟩

variable {dry wet : GrantProgress}

lemma Alike.applyItem (h : run.Alike state grants dry wet) (runId : Uuid)
    (ledger : List (String × String)) {item : ValidatedMigration}
    (hgrantable : run.Grantable state.permissions item.migration.permissions) :
    ∃ dry' wet', run.applyItem none ledger dry item = .ok dry' ∧
      run.applyItem (some runId) ledger wet item = .ok wet' ∧
      run.Alike state (grants ++ run.targets state ledger item) dry' wet' := by
  have hroleId : wet.state.roleId run.tenantId item.migration.roleName =
      state.roleId run.tenantId item.migration.roleName := by
    unfold GrantState.roleId
    rw [h.extends_.roles]
  unfold GrantRun.applyItem targets
  rw [h.unchanged, hroleId]
  cases ledger.lookup item.migration.id with
  | some digest =>
    refine ⟨_, _, rfl, rfl, ?_⟩
    rw [List.append_nil]
    exact { h with
      unchanged := rfl
      already := congrArg (· + 1) h.already }
  | none =>
    dsimp only
    cases hrole : state.roleId run.tenantId item.migration.roleName with
    | none =>
      refine ⟨_, _, rfl, rfl, ?_⟩
      rw [List.append_nil]
      exact { h with
        unchanged := rfl
        extends_ := h.extends_.recordApplication (some runId) item .roleMissing 0
        missing := congrArg (· + 1) h.missing }
    | some roleId =>
      obtain ⟨new, old, hdry, hnew, htotal⟩ :=
        grantPairs_dryRun roleId item.migration.id hgrantable
      obtain ⟨new', old', state'', hwet, hextends, hcard, htotal'⟩ :=
        grantPairs_run runId item.migration.id h.extends_ hgrantable (exists_role_of_roleId hrole)
      dsimp only [bind, Except.bind]
      rw [hdry, hwet]
      refine ⟨_, _, rfl, rfl, ?_⟩
      have hdryAdded := h.dryAdded
      have hwetAdded := h.wetAdded
      have hdryTotal := h.dryTotal
      have hwetTotal := h.wetTotal
      exact {
        unchanged := rfl
        extends_ := hextends.recordApplication (some runId) item .applied new'
        applied := congrArg (· ++ [item.migration.id]) h.applied
        missing := h.missing
        already := h.already
        dryAdded := by
          unfold lacked at hdryAdded hnew ⊢
          rw [List.filter_append, List.length_append]
          dsimp only
          omega
        wetAdded := by
          dsimp only
          omega
        dryTotal := by
          rw [List.length_append]
          dsimp only
          omega
        wetTotal := by
          rw [List.length_append]
          dsimp only
          omega }

lemma Alike.applyItems (h : run.Alike state grants dry wet) (runId : Uuid)
    (ledger : List (String × String)) {items : List ValidatedMigration}
    (hgrantable : ∀ item ∈ items,
      run.Grantable state.permissions item.migration.permissions) :
    ∃ dry' wet', run.applyItems none ledger dry items = .ok dry' ∧
      run.applyItems (some runId) ledger wet items = .ok wet' ∧
      run.Alike state (grants ++ items.flatMap (run.targets state ledger)) dry' wet' := by
  induction items generalizing grants dry wet with
  | nil =>
    refine ⟨dry, wet, rfl, rfl, ?_⟩
    simpa using h
  | cons item items ih =>
    obtain ⟨hitem, hitems⟩ := List.forall_mem_cons.mp hgrantable
    obtain ⟨dry₁, wet₁, hdry₁, hwet₁, halike₁⟩ := h.applyItem runId ledger hitem
    obtain ⟨dry₂, wet₂, hdry₂, hwet₂, halike₂⟩ := ih halike₁ hitems
    refine ⟨dry₂, wet₂, ?_, ?_, ?_⟩
    · unfold GrantRun.applyItems
      rw [hdry₁]
      exact hdry₂
    · unfold GrantRun.applyItems
      rw [hwet₁]
      exact hwet₂
    · rw [List.flatMap_cons, ← List.append_assoc]
      exact halike₂

lemma Alike.result_eq_iff (h : run.Alike state grants dry wet) :
    dry.result run.tenantId = wet.result run.tenantId ↔ (run.lacked state grants).Nodup := by
  have hcard : (run.lacked state grants).toFinset.card = (run.lacked state grants).length ↔
      (run.lacked state grants).Nodup :=
    Multiset.toFinset_card_eq_card_iff_nodup
  have hchanged : dry.changed = wet.changed := by
    unfold GrantProgress.changed
    rw [h.applied, h.missing]
  have hdryTotal := h.dryTotal
  have hwetTotal := h.wetTotal
  rw [← hcard, ← h.dryAdded, ← h.wetAdded]
  unfold GrantProgress.result
  rw [hchanged, h.applied, h.missing, h.already]
  constructor
  · intro heq
    exact (congrArg TenantGrantResult.grantsAdded heq).symm
  · intro heq
    have hpresent : dry.present = wet.present := by omega
    rw [heq, hpresent]

end GrantRun

/-! ## Prediction -/

/-- The dry run gives the result of the run, and changes nothing. -/
def DryRunPredicts (run : GrantRun) (runId : Uuid) (validated : List ValidatedMigration)
    (state : GrantState) : Prop :=
  (applyInTenant run none validated state).map Prod.fst =
      (applyInTenant run (some runId) validated state).map Prod.fst ∧
    ∀ result state', applyInTenant run none validated state = .ok (result, state') → state' = state

/-- A declared migration has another digest than the ledger. -/
def IsEdited (ledger : List (String × String)) (validated : List ValidatedMigration) : Prop :=
  ∃ item ∈ validated, ∃ recorded ∈ ledger.lookup item.migration.id, recorded ≠ item.digest

lemma refuseChanged_eq_ok {ledger : List (String × String)} («namespace» : String)
    {validated : List ValidatedMigration} :
    refuseChanged ledger «namespace» validated = .ok () ↔ ¬ IsEdited ledger validated := by
  unfold IsEdited
  induction validated with
  | nil => simp [refuseChanged]
  | cons item items ih =>
    unfold refuseChanged
    rw [List.exists_mem_cons_iff, not_or, ← ih]
    split
    case isTrue h => exact iff_of_false (fun hok => by cases hok) fun hnone => hnone.1 h
    case isFalse h => exact (and_iff_right h).symm

def firstDigest : String :=
  "27119f7643c9e5961e6facc0374c6bb3fc8bf584250421fe052741ba2b6ed7fa"

def secondDigest : String :=
  "dff2e2a0fb4b5f5fcdd033d102ff6f4fe58c703fe13e2d4f9d3cde26acbe9d6c"

def writeDigest : String :=
  "7b8e20ffea7fc37c041f25c4e3a39b0550c659b00e4b07d548eea138dc82100e"

def exampleLibrary : Library where
  repr text := s!"'{text}'"
  sha256 text :=
    match [("m1", "read"), ("m2", "read"), ("m2", "write")].findIdx fun names => text ==
        (PermissionGrantMigration.mk names.1 "docs" "editor" [("docs", names.2)] "R").canonical with
    | 0 => firstDigest
    | 1 => secondDigest
    | _ => writeDigest

def editorTenant : GrantState where
  permissions := ⟨[⟨10, "docs", "read"⟩, ⟨11, "docs", "write"⟩], by decide⟩
  roles := [⟨20, 1, "editor"⟩]
  rolePermissions := []
  ledger := []
  audit := []

def editorRun (permissionIds : PermissionIds) : GrantRun where
  tenantId := 1
  operatorUserId := 2
  «namespace» := "docs"
  permissionIds := permissionIds
  newId n := 100 + n

def editorMigration (id action : String) : PermissionGrantMigration :=
  ⟨id, "docs", "editor", [("docs", action)], "R"⟩

def twoPermissions : List ValidatedMigration :=
  [⟨editorMigration "m1" "read", firstDigest⟩, ⟨editorMigration "m2" "write", writeDigest⟩]

def onePermission : List ValidatedMigration :=
  [⟨editorMigration "m1" "read", firstDigest⟩, ⟨editorMigration "m2" "read", secondDigest⟩]

end SaasOs.PermissionGrants
