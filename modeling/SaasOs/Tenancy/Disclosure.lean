import SaasOs.Tenancy.Purge

/-!
# What a transition tells a caller without authority

A transition passes a preliminary gate before anything about the tenant is read, and is decided
again under the locks of its transaction; authority can be revoked between the two.  A caller who is
not authorized then, neither by the platform nor by the self-service rule, is refused.  The refusal
is the same whether the tenant exists and whatever its row says, with one exception: a transition to
the active status that names no expected operation is refused in the name of the operation which the
status of the tenant selects.
-/

namespace SaasOs

/-! ## Two states that differ in one tenant -/

/-- The contents differ at most in the row of one tenant: whether there is one, and what it says. -/
structure Tables.SameButTenant (tenantId : Uuid) (db db' : Tables) : Prop where
  others : (db.tenants.filter fun row => row.id != tenantId) =
    db'.tenants.filter fun row => row.id != tenantId
  rest : { db with tenants := db'.tenants } = db'

def Tables.isSuspended (db : Tables) (tenantId : Uuid) : Bool :=
  (db.tenant? tenantId).any fun tenant => tenant.status == .suspended

/-- The caller is authorized by the platform for an operation that the target status can select. -/
def Tables.HoldsCandidate (db : Tables) (caller : Caller) (target : TenantStatus) : Prop :=
  ∃ operation ∈ candidateOperations target,
    (db.authorizePlatformCaller caller operation).val.isOk = true

/-- The caller asks for a suspension, and the self-service rule admits them: an active member of
exactly this tenant who holds `tenant:suspend` there. -/
def Tables.SelfSuspends (db : Tables) (caller : Caller) (tenantId : Uuid) (target : TenantStatus) :
    Prop :=
  target = .suspended ∧ ∃ userId, caller = .user userId ∧
    (∃ row ∈ db.tenantMemberships, row.tenantId = tenantId ∧ row.userId = userId ∧
      row.status = .active) ∧
    (db.holdsThroughOwnMembership userId tenantId "suspend" "tenant").val = true

section SameButTenant

variable {tenantId : Uuid} {db db' : Tables}

lemma Tables.SameButTenant.authorizePlatformCaller (h : db.SameButTenant tenantId db')
    (caller : Caller) (operation : PlatformOperation) :
    db'.authorizePlatformCaller caller operation = db.authorizePlatformCaller caller operation := by
  rw [← h.rest]
  rfl

lemma Tables.SameButTenant.holdsCandidate_iff (h : db.SameButTenant tenantId db') (caller : Caller)
    (target : TenantStatus) :
    db'.HoldsCandidate caller target ↔ db.HoldsCandidate caller target := by
  unfold Tables.HoldsCandidate
  simp only [h.authorizePlatformCaller]

lemma Tables.SameButTenant.admitTransition (h : db.SameButTenant tenantId db')
    (target : TenantStatus) (caller : Caller) (reason : Option String)
    (expectedOperation : Option PlatformOperation) (selfService : Bool) :
    db'.admitTransition tenantId target caller reason expectedOperation selfService =
      db.admitTransition tenantId target caller reason expectedOperation selfService := by
  rw [← h.rest]
  rfl

end SameButTenant

/-! ## Refusals -/

/-- The decision under the locks, with the gate before it passed in another state; the outcome is
an error, or success. -/
def transitionOutcome (config : TenancyConfig) (gate : Tables) (db : Database) (now : Instant)
    (newId tenantId : Uuid) (target : TenantStatus) (caller : Caller) (reason : Option String)
    (expectedOperation : Option PlatformOperation) (selfService : Bool) : Result Unit := do
  let admitted ← gate.admitTransition tenantId target caller reason expectedOperation selfService
  let _ ← db.transitionTenantRow config db now newId tenantId target caller expectedOperation
    selfService (db.tenant? tenantId) admitted
  return ()

lemma constraints_insertPermission (db : Database) (permission : Permission) :
    Constraints { db.toTables with permissions := db.permissions ++ [permission] } ↔
      Rows.UniqueOn (db.permissions ++ [permission]) Permission.id ∧
      Rows.UniqueOn (db.permissions ++ [permission]) fun row => (row.resource, row.action) := by
  constructor
  · exact fun h => ⟨h.unique.permissions_pk, h.unique.permissions_resource_action⟩
  · rintro ⟨hid, hname⟩
    have hmem : ∀ id ∈ db.permissions.map Permission.id,
        id ∈ (db.permissions ++ [permission]).map Permission.id := by
      intro id hid
      rw [List.map_append]
      exact List.mem_append_left _ hid
    have hkeys := db.constraints.foreignKeys
    exact ⟨{ db.constraints.unique with
        permissions_pk := hid
        permissions_resource_action := hname },
      { hkeys with
        role_permissions_permission := fun row hrow =>
          hmem _ (hkeys.role_permissions_permission row hrow)
        delegation_grants_permission := fun row hrow =>
          hmem _ (hkeys.delegation_grants_permission row hrow)
        deny_grants_permission := fun row hrow => hmem _ (hkeys.deny_grants_permission row hrow) },
      { db.constraints.checks with }⟩

lemma isOk_registerPermissionIn_congr {db db' : Database} (h : db'.permissions = db.permissions)
    (newId : Uuid) (resource action : String) :
    (db'.registerPermissionIn newId resource action).isOk =
      (db.registerPermissionIn newId resource action).isOk := by
  have hflush : ∀ tables : Tables, (flush ServiceError.integrityError tables).isOk =
      decide (Constraints tables) := by
    intro tables
    unfold flush
    split
    · next hvalid => exact (decide_eq_true hvalid).symm
    · next hinvalid => exact (decide_eq_false hinvalid).symm
  unfold Database.registerPermissionIn
  rw [h]
  split
  · rfl
  · rw [hflush, hflush, decide_eq_decide]
    have hcatalog := constraints_insertPermission db' ⟨newId, resource, action⟩
    rw [h] at hcatalog
    exact hcatalog.trans (constraints_insertPermission db ⟨newId, resource, action⟩).symm

def transitionRefusal (db : Database) (newId : Uuid) (operation : PlatformOperation) :
    Caller → ServiceError
  | .user _ =>
    if operation = .tenantSuspend ∧
        (db.registerPermissionIn newId "tenant" "suspend").isOk = false then
      .integrityError
    else
      .platformNotAuthorized operation.key
  | .serviceAccount _ _ => .platformNotAuthorized operation.key
  | .system _ => .platformNotAuthorized operation.key

lemma Tables.SameButTenant.transitionRefusal {db db' : Database} {tenantId : Uuid}
    (h : db.toTables.SameButTenant tenantId db'.toTables) (newId : Uuid)
    (operation : PlatformOperation) (caller : Caller) :
    transitionRefusal db' newId operation caller = transitionRefusal db newId operation caller := by
  have hpermissions : db'.permissions = db.permissions := by rw [← h.rest]
  cases caller with
  | user userId =>
    unfold SaasOs.transitionRefusal
    rw [isOk_registerPermissionIn_congr hpermissions]
  | serviceAccount serviceAccountId ownTenantId => rfl
  | system authority => rfl

lemma exists_active_of_holdsThroughOwnMembership {db : Database} {userId tenantId : Uuid}
    {action resource : String}
    (h : (db.holdsThroughOwnMembership userId tenantId action resource).val = true) :
    ∃ row ∈ db.tenantMemberships, row.tenantId = tenantId ∧ row.userId = userId ∧
      row.status = .active := by
  unfold Tables.holdsThroughOwnMembership at h
  rw [Tables.val_whenAccessible] at h
  obtain ⟨-, hquery⟩ := h
  simp only [LockedRead.val_bind, LockedRead.val_ite, LockedRead.val_pure] at hquery
  split at hquery
  · split at hquery
    · cases hquery
    · obtain ⟨_, -, -, row, hrow, htenant, huser, hactive, -⟩ :=
        db.tenantGrantsPermission_iff.mp hquery
      exact ⟨row, hrow, htenant, huser, hactive⟩
  · cases hquery

variable {config : TenancyConfig} {db db' : Database} {now : Instant} {newId tenantId : Uuid}
  {target : TenantStatus} {caller : Caller} {reason : Option String}
  {operation : PlatformOperation} {expectedOperation : Option PlatformOperation} {selfService : Bool}

lemma authorizeSelfSuspend_user {userId : Uuid} {refusal : ServiceError}
    (hself : ¬ db.SelfSuspends (.user userId) tenantId .suspended) :
    db.authorizeSelfSuspend newId tenantId refusal (.user userId) = .error
      (if (db.registerPermissionIn newId "tenant" "suspend").isOk = false then .integrityError
        else refusal) := by
  cases hregister : db.registerPermissionIn newId "tenant" "suspend" with
  | error e =>
    obtain rfl : e = .integrityError := by
      unfold Database.registerPermissionIn flush at hregister
      split at hregister
      · cases hregister
      · split at hregister
        · cases hregister
        · exact (Except.error.inj hregister).symm
    simp only [Database.authorizeSelfSuspend, hregister]
    rfl
  | ok registered =>
    cases hholds : (registered.holdsThroughOwnMembership userId tenantId "suspend" "tenant").val with
    | true =>
      -- whoever holds the permission finds it registered
      exfalso
      have hok : db.authorizeSelfSuspend newId tenantId refusal (.user userId) = .ok registered := by
        simp only [Database.authorizeSelfSuspend, hregister]
        exact bind_eq_ok.mpr ⟨registered, rfl, bind_eq_ok.mpr ⟨(), require_eq_ok.mpr hholds, rfl⟩⟩
      obtain rfl := Database.authorizeSelfSuspend_ok hok
      exact hself ⟨rfl, userId, rfl, exists_active_of_holdsThroughOwnMembership hholds, hholds⟩
    | false =>
      simp only [Database.authorizeSelfSuspend, hregister]
      change (require _ refusal >>= _) = _
      rw [hholds]
      rfl

lemma authorizeTransition_eq_error
    (hplatform : (db.authorizePlatformCaller caller operation).val.isOk = false)
    (hself : operation = .tenantSuspend → ¬ db.SelfSuspends caller tenantId .suspended) :
    db.authorizeTransition config newId caller operation tenantId reason selfService =
      .error (transitionRefusal db newId operation caller) := by
  have hnot : ¬ (selfService = false ∧
      (db.authorizePlatformCaller caller operation).val.isOk = true) := by
    rw [hplatform]
    exact fun h => Bool.false_ne_true h.2
  unfold Database.authorizeTransition
  dsimp only
  rw [if_neg hnot]
  by_cases hsuspend : operation = .tenantSuspend
  · subst hsuspend
    cases caller with
    | user userId =>
      rw [authorizeSelfSuspend_user (hself rfl)]
      simp only [transitionRefusal, true_and]
      rfl
    | serviceAccount serviceAccountId ownTenantId => rfl
    | system authority => rfl
  · have hbeq : (operation == .tenantSuspend) = false := beq_eq_false_iff_ne.mpr hsuspend
    rw [hbeq]
    cases caller with
    | user userId =>
      simp only [transitionRefusal, hsuspend, false_and, if_false]
      rfl
    | serviceAccount serviceAccountId ownTenantId => rfl
    | system authority => rfl

/-! ## Requests -/

lemma requestedOperations_ok {candidates : List PlatformOperation}
    (h : requestedOperations target expectedOperation selfService = .ok candidates) :
    (∃ operation ∈ candidateOperations target, candidates = [operation] ∧
        (operation = .tenantSuspend → target = .suspended)) ∧
        ¬ (target = .active ∧ expectedOperation = none) ∨
      (target = .active ∧ expectedOperation = none) ∧
        candidates = [.tenantActivate, .tenantReactivate] := by
  unfold requestedOperations at h
  simp only [bind_eq_ok] at h
  obtain ⟨⟨⟩, hsome, ⟨⟩, hexpected, ⟨⟩, -, hdone⟩ := h
  have hreachable : (!(candidateOperations target).isEmpty) = true := require_eq_ok.mp hsome
  cases hdone
  cases expectedOperation with
  | none =>
    cases target with
    | pending => exact absurd hreachable (by decide)
    | active => exact .inr ⟨⟨rfl, rfl⟩, rfl⟩
    | suspended => exact .inl ⟨⟨.tenantSuspend, by decide, rfl, fun _ => rfl⟩, nofun⟩
    | deleted => exact .inl ⟨⟨.tenantDelete, by decide, rfl, nofun⟩, nofun⟩
    | purging => exact .inl ⟨⟨.tenantPurgeTransition, by decide, rfl, nofun⟩, nofun⟩
    | purged => exact .inl ⟨⟨.tenantPurgeTransition, by decide, rfl, nofun⟩, nofun⟩
  | some operation =>
    have hmem : operation ∈ candidateOperations target := by
      simpa using require_eq_ok.mp hexpected
    refine .inl ⟨⟨operation, hmem, rfl, ?_⟩, by simp⟩
    rintro rfl
    revert hmem
    cases target <;> decide

variable (row : Option Tenant)

lemma transitionTenantRow_one (reason' : Option String)
    (hplatform : (db.authorizePlatformCaller caller operation).val.isOk = false)
    (hself : operation = .tenantSuspend → ¬ db.SelfSuspends caller tenantId .suspended) :
    db.transitionTenantRow config db now newId tenantId target caller expectedOperation
      selfService row (reason', [operation]) =
        .error (transitionRefusal db newId operation caller) := by
  unfold Database.transitionTenantRow
  dsimp only
  rw [authorizeTransition_eq_error hplatform hself]
  rfl

lemma transitionTenantRow_two (reason' : Option String)
    (hactivate : (db.authorizePlatformCaller caller .tenantActivate).val.isOk = false)
    (hreactivate : (db.authorizePlatformCaller caller .tenantReactivate).val.isOk = false) :
    db.transitionTenantRow config db now newId tenantId .active caller none selfService row
      (reason', [.tenantActivate, .tenantReactivate]) = .error (.platformNotAuthorized
        (if row.any fun tenant => tenant.status == .suspended then "tenant.reactivate"
          else "tenant.activate")) := by
  have hnone : ∀ {α : Type} (e : ServiceError),
      db.disclosing caller [.tenantActivate, .tenantReactivate] (.error e : Result α) =
        .error (.platformNotAuthorized "tenant.activate") := by
    intro α e
    unfold Tables.disclosing Tables.requireSomeCandidate
    simp only [List.any_cons, List.any_nil, hactivate, hreactivate]
    rfl
  cases row with
  | none =>
    unfold Database.transitionTenantRow foundTenant
    dsimp only
    rw [hnone]
    rfl
  | some tenant =>
    obtain ⟨id, name, status, parentId⟩ := tenant
    unfold Database.transitionTenantRow foundTenant
    dsimp only
    cases status with
    | pending =>
      change (db.authorizeTransition config newId caller .tenantActivate tenantId reason' false >>=
        fun session => db.applyTransition session now tenantId .active) = _
      rw [authorizeTransition_eq_error hactivate nofun]
      cases caller <;> rfl
    | suspended =>
      change (db.authorizeTransition config newId caller .tenantReactivate tenantId reason' false >>=
        fun session => db.applyTransition session now tenantId .active) = _
      rw [authorizeTransition_eq_error hreactivate nofun]
      cases caller <;> rfl
    | active =>
      change (db.disclosing caller _ (.error _) >>= _) = _
      rw [hnone]
      rfl
    | deleted =>
      change (db.disclosing caller _ (.error _) >>= _) = _
      rw [hnone]
      rfl
    | purging =>
      change (db.disclosing caller _ (.error _) >>= _) = _
      rw [hnone]
      rfl
    | purged =>
      change (db.disclosing caller _ (.error _) >>= _) = _
      rw [hnone]
      rfl

/-! ## Two runs -/

variable {e : ServiceError}

lemma bind_eq_error_of_eq_error {α β : Type} {x : Result α} {f : α → Result β} (h : x = .error e) :
    (x >>= f) = .error e := by
  rw [h]
  rfl

variable {gate : Tables} {admitted : Option String × List PlatformOperation}

lemma requestedOperations_of_admitted
    (hok : gate.admitTransition tenantId target caller reason expectedOperation selfService =
      .ok admitted) :
    requestedOperations target expectedOperation selfService = .ok admitted.2 := by
  unfold Tables.admitTransition at hok
  simp only [bind_eq_ok] at hok
  obtain ⟨_, -, _, -, requested, hrequested, _, -, hdone⟩ := hok
  cases hdone
  exact hrequested

lemma transitionOutcome_of_refused
    (herror : gate.admitTransition tenantId target caller reason expectedOperation selfService =
      .error e) :
    transitionOutcome config gate db now newId tenantId target caller reason expectedOperation
      selfService = .error e :=
  bind_eq_error_of_eq_error herror

lemma transitionOutcome_of_admitted
    (hok : gate.admitTransition tenantId target caller reason expectedOperation selfService =
      .ok admitted)
    (hrow : db.transitionTenantRow config db now newId tenantId target caller expectedOperation
      selfService (db.tenant? tenantId) admitted = .error e) :
    transitionOutcome config gate db now newId tenantId target caller reason expectedOperation
      selfService = .error e := by
  have hdecision := bind_eq_error_of_eq_error (f := fun _ => (pure () : Result Unit)) hrow
  unfold transitionOutcome
  rw [hok]
  exact hdecision

lemma authorizePlatformCaller_of_not_holdsCandidate (hplatform : ¬ db.HoldsCandidate caller target)
    (hmem : operation ∈ candidateOperations target) :
    (db.authorizePlatformCaller caller operation).val.isOk = false := by
  by_contra hheld
  exact hplatform ⟨operation, hmem, Bool.eq_true_of_not_eq_false hheld⟩

lemma transitionOutcome_one {reason' : Option String}
    (hok : gate.admitTransition tenantId target caller reason expectedOperation selfService =
      .ok (reason', [operation]))
    (hmem : operation ∈ candidateOperations target)
    (hsuspend : operation = .tenantSuspend → target = .suspended)
    (hplatform : ¬ db.HoldsCandidate caller target)
    (hself : ¬ db.SelfSuspends caller tenantId target) :
    transitionOutcome config gate db now newId tenantId target caller reason expectedOperation
      selfService = .error (transitionRefusal db newId operation caller) := by
  have hdenied : operation = .tenantSuspend → ¬ db.SelfSuspends caller tenantId .suspended := by
    intro hoperation
    rw [← hsuspend hoperation]
    exact hself
  exact transitionOutcome_of_admitted hok (transitionTenantRow_one _ _
    (authorizePlatformCaller_of_not_holdsCandidate hplatform hmem) hdenied)

lemma transitionOutcome_active
    (hadmitted : (gate.admitTransition tenantId .active caller reason none selfService).isOk = true)
    (hplatform : ¬ db.HoldsCandidate caller .active) :
    transitionOutcome config gate db now newId tenantId .active caller reason none selfService =
      .error (.platformNotAuthorized (if db.isSuspended tenantId then "tenant.reactivate"
        else "tenant.activate")) := by
  obtain ⟨⟨reason', candidates⟩, hok⟩ := exists_eq_ok_of_isOk hadmitted
  have hcandidates : candidates = [.tenantActivate, .tenantReactivate] := by
    rcases requestedOperations_ok (requestedOperations_of_admitted hok) with
      ⟨-, hnot⟩ | ⟨-, hboth⟩
    · exact absurd ⟨rfl, rfl⟩ hnot
    · exact hboth
  subst hcandidates
  exact transitionOutcome_of_admitted hok (transitionTenantRow_two _ _
    (authorizePlatformCaller_of_not_holdsCandidate hplatform (by decide))
    (authorizePlatformCaller_of_not_holdsCandidate hplatform (by decide)))

lemma transitionOutcome_eq {gate gate' : Tables} (hgate : gate.SameButTenant tenantId gate')
    (hdb : db.toTables.SameButTenant tenantId db'.toTables)
    (hplatform : ¬ db.HoldsCandidate caller target)
    (hself : ¬ db.SelfSuspends caller tenantId target)
    (hself' : ¬ db'.SelfSuspends caller tenantId target)
    (hsame : target = .active → expectedOperation = none →
      (gate.admitTransition tenantId target caller reason expectedOperation selfService).isOk =
        true → db.isSuspended tenantId = db'.isSuspended tenantId) :
    transitionOutcome config gate db now newId tenantId target caller reason expectedOperation
        selfService =
      transitionOutcome config gate' db' now newId tenantId target caller reason expectedOperation
        selfService := by
  have hplatform' : ¬ db'.HoldsCandidate caller target := by
    rw [hdb.holdsCandidate_iff]
    exact hplatform
  have hgates := hgate.admitTransition target caller reason expectedOperation selfService
  cases hok : gate.admitTransition tenantId target caller reason expectedOperation selfService with
  | error e =>
    rw [transitionOutcome_of_refused hok, transitionOutcome_of_refused (hgates.trans hok)]
  | ok admitted =>
    obtain ⟨reason', candidates⟩ := admitted
    have hok' := hgates.trans hok
    rcases requestedOperations_ok (requestedOperations_of_admitted hok) with
      ⟨⟨operation, hmem, rfl, hsuspend⟩, -⟩ | ⟨⟨rfl, rfl⟩, rfl⟩
    · rw [transitionOutcome_one hok hmem hsuspend hplatform hself,
        transitionOutcome_one hok' hmem hsuspend hplatform' hself', hdb.transitionRefusal]
    · rw [transitionOutcome_active (by rw [hok]; rfl) hplatform,
        transitionOutcome_active (by rw [hok']; rfl) hplatform',
        hsame rfl rfl (by rw [hok]; rfl)]

/-- Two runs on states that differ only in the row of the tenant, with the gates passed in states
that differ only there as well: they end alike, or in one of them the caller is authorized for an
operation that the target can select or admitted by the self-service rule. -/
theorem transition_discloses_iff {gate gate' : Tables} (hgate : gate.SameButTenant tenantId gate')
    (hdb : db.toTables.SameButTenant tenantId db'.toTables) :
    (transitionOutcome config gate db now newId tenantId target caller reason expectedOperation
        selfService ≠
      transitionOutcome config gate' db' now newId tenantId target caller reason expectedOperation
        selfService →
      (db.HoldsCandidate caller target ∨ db.SelfSuspends caller tenantId target) ∨
        (db'.HoldsCandidate caller target ∨ db'.SelfSuspends caller tenantId target)) ↔
    ¬ (target = .active ∧ expectedOperation = none ∧
      (gate.admitTransition tenantId target caller reason expectedOperation selfService).isOk =
        true ∧
      ¬ db.HoldsCandidate caller target ∧ db.isSuspended tenantId ≠ db'.isSuspended tenantId) := by
  constructor
  · rintro hsafe ⟨rfl, rfl, hadmitted, hplatform, hdiffer⟩
    have hplatform' : ¬ db'.HoldsCandidate caller .active := by
      rw [hdb.holdsCandidate_iff]
      exact hplatform
    have hadmitted' :
        (gate'.admitTransition tenantId .active caller reason none selfService).isOk = true := by
      rw [hgate.admitTransition]
      exact hadmitted
    refine absurd (hsafe ?_) ?_
    · rw [transitionOutcome_active hadmitted hplatform, transitionOutcome_active hadmitted' hplatform']
      cases hsuspended : db.isSuspended tenantId with
      | false =>
        cases hsuspended' : db'.isSuspended tenantId with
        | false => exact absurd (hsuspended.trans hsuspended'.symm) hdiffer
        | true => decide
      | true =>
        cases hsuspended' : db'.isSuspended tenantId with
        | false => decide
        | true => exact absurd (hsuspended.trans hsuspended'.symm) hdiffer
    · rintro ((hheld | ⟨hsuspend, -⟩) | (hheld | ⟨hsuspend, -⟩))
      · exact hplatform hheld
      · cases hsuspend
      · exact hplatform' hheld
      · cases hsuspend
  · intro hcondition hdiffer
    by_contra hnone
    simp only [not_or] at hnone
    obtain ⟨⟨hplatform, hself⟩, -, hself'⟩ := hnone
    refine hdiffer (transitionOutcome_eq hgate hdb hplatform hself hself' ?_)
    intro hactive hexpected hadmitted
    by_contra hsuspended
    exact hcondition ⟨hactive, hexpected, hadmitted, hplatform, hsuspended⟩

/-! ### An operator who loses the grants between the gate and the decision -/

/-- A deployment with one tenant and one operator, whose grants are revoked at the given moment. -/
def operatorTables (status : TenantStatus) (revokedAt : Option Instant) : Tables :=
  { tenants := [⟨10, "acme", status, none⟩]
    users := [⟨1, true⟩]
    platformOperators := [⟨2, 1, .active⟩]
    platformGrants := [⟨3, 2, .tenantCreate, revokedAt⟩, ⟨4, 2, .tenantDelete, revokedAt⟩] }

def revokedOperatorDatabase (status : TenantStatus) : Database where
  toTables := operatorTables status (some 0)
  constraints := by cases status <;> decide

def operatorOutcome (config : TenancyConfig) (status target : TenantStatus) : Result Unit :=
  transitionOutcome config (operatorTables status none) (revokedOperatorDatabase status) 0 900 10
    target (.user 1) none none false

lemma operatorTables_sameButTenant (status status' : TenantStatus) (revokedAt : Option Instant) :
    (operatorTables status revokedAt).SameButTenant 10 (operatorTables status' revokedAt) :=
  ⟨rfl, rfl⟩

lemma not_holdsCandidate_revokedOperator (status target : TenantStatus) :
    ¬ (revokedOperatorDatabase status).HoldsCandidate (.user 1) target := by
  rintro ⟨operation, -, hheld⟩
  revert hheld
  cases operation <;> cases status <;> decide

/-- The refusal of an activation tells the suspended tenant from the pending one, to a caller without
any authority. -/
theorem activation_discloses_suspension :
    ¬ ∀ (gate gate' : Tables) (db db' : Database) (caller : Caller) (target : TenantStatus),
      gate.SameButTenant 10 gate' → db.toTables.SameButTenant 10 db'.toTables →
      transitionOutcome {} gate db 0 900 10 target caller none none false ≠
        transitionOutcome {} gate' db' 0 900 10 target caller none none false →
      (db.HoldsCandidate caller target ∨ db.SelfSuspends caller 10 target) ∨
        (db'.HoldsCandidate caller target ∨ db'.SelfSuspends caller 10 target) := by
  intro hclaim
  have hdiffer : operatorOutcome {} .pending .active ≠ operatorOutcome {} .suspended .active := by
    decide
  rcases hclaim _ _ _ _ (.user 1) .active (operatorTables_sameButTenant .pending .suspended none)
    (operatorTables_sameButTenant .pending .suspended (some 0)) hdiffer with
    (hheld | ⟨hsuspend, -⟩) | (hheld | ⟨hsuspend, -⟩)
  · exact not_holdsCandidate_revokedOperator .pending .active hheld
  · cases hsuspend
  · exact not_holdsCandidate_revokedOperator .suspended .active hheld
  · cases hsuspend

/-- The refusal of a deletion does not, although the gate is passed. -/
theorem deletion_discloses_nothing :
    ((operatorTables .pending none).admitTransition 10 .deleted (.user 1) none none false).isOk =
        true ∧
      operatorOutcome {} .pending .deleted = operatorOutcome {} .suspended .deleted := by
  refine ⟨by decide, ?_⟩
  by_contra hdiffer
  have hsafe : operatorOutcome {} .pending .deleted ≠ operatorOutcome {} .suspended .deleted → _ :=
    (transition_discloses_iff (operatorTables_sameButTenant .pending .suspended none)
      (operatorTables_sameButTenant .pending .suspended (some 0))).mpr fun h => nomatch h.1
  rcases hsafe hdiffer with (hheld | ⟨hsuspend, -⟩) | (hheld | ⟨hsuspend, -⟩)
  · exact not_holdsCandidate_revokedOperator .pending .deleted hheld
  · cases hsuspend
  · exact not_holdsCandidate_revokedOperator .suspended .deleted hheld
  · cases hsuspend

end SaasOs
