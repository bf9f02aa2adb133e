import SaasOs.Tenancy.Service
import SaasOs.Rbac.Service

/-!
# Status transitions of a tenant

`transitionTenantStatus` follows one edge of the lifecycle graph.  The edge selects the platform
operation the caller must be authorized for.
-/

namespace SaasOs

/-! ## Edges and operations -/

def lifecycleEdges : List ((TenantStatus × TenantStatus) × PlatformOperation) :=
  [((.pending, .active), .tenantActivate),
    ((.suspended, .active), .tenantReactivate),
    ((.active, .suspended), .tenantSuspend),
    ((.pending, .deleted), .tenantDelete),
    ((.active, .deleted), .tenantDelete),
    ((.suspended, .deleted), .tenantDelete),
    ((.deleted, .purging), .tenantPurgeTransition),
    ((.purging, .purged), .tenantPurgeTransition)]

def transitionOperation (current target : TenantStatus) : Result PlatformOperation :=
  match lifecycleEdges.lookup (current, target) with
  | none => .error (.invalidTenantTransition current target)
  | some operation => .ok operation

def candidateOperations (target : TenantStatus) : List PlatformOperation :=
  ((lifecycleEdges.filter fun edge => edge.1.2 == target).map Prod.snd).eraseDups

def TenantStatus.value : TenantStatus → String
  | pending => "pending"
  | active => "active"
  | suspended => "suspended"
  | deleted => "deleted"
  | purging => "purging"
  | purged => "purged"

def requestedOperations (target : TenantStatus) (expectedOperation : Option PlatformOperation)
    (selfService : Bool) : Result (List PlatformOperation) := do
  let candidates := candidateOperations target
  require (!candidates.isEmpty)
    (.invalidPlatformRequest ("No tenant transition leads to '" ++ target.value ++ "'."))
  require (expectedOperation.all candidates.contains)
    (.invalidPlatformRequest "expected_operation is not an operation this target status can select.")
  let requested := expectedOperation.elim candidates fun operation => [operation]
  require (!selfService || requested == [.tenantSuspend])
    (.invalidPlatformRequest "The self-service rule applies to suspension only.")
  return requested

def candidatesRefusal (candidates : List PlatformOperation) : ServiceError :=
  .platformNotAuthorized ((candidates.head?.map PlatformOperation.key).getD "tenant.transition")

namespace Tables

def passesTransitionGate (db : Tables) (caller : Caller) (operations : List PlatformOperation)
    (tenantId : Uuid) (selfServiceOnly : Bool) : Bool :=
  (!selfServiceOnly && db.platformCallerCouldHoldAny caller operations) ||
    (operations.contains .tenantSuspend && db.callerIsMemberOfAny caller [tenantId])

def requireSomeCandidate (db : Tables) (caller : Caller) (candidates : List PlatformOperation) :
    Result Unit :=
  require (candidates.any fun operation => (db.authorizePlatformCaller caller operation).val.isOk)
    (candidatesRefusal candidates)

def disclosing {α : Type} (db : Tables) (caller : Caller) (candidates : List PlatformOperation) :
    Result α → Result α
  | .ok a => .ok a
  | .error e => do
    db.requireSomeCandidate caller candidates
    .error e

end Tables

namespace Database

/-- The self-service rule: an active member of exactly this tenant who holds `tenant:suspend` there
through an ordinary role. -/
def authorizeSelfSuspend (db : Database) (newId tenantId : Uuid) (refusal : ServiceError) :
    Caller → Result Database
  | .user userId => do
    let registered ← db.registerPermissionIn newId "tenant" "suspend"
    require (registered.holdsThroughOwnMembership userId tenantId "suspend" "tenant").val refusal
    return registered
  | .serviceAccount _ _ => .error refusal
  | .system _ => .error refusal

/-- The decision for one lifecycle operation: platform authority, or else the self-service rule. -/
def authorizeTransition (config : TenancyConfig) (db : Database) (newId : Uuid) (caller : Caller)
    (operation : PlatformOperation) (tenantId : Uuid) (reason : Option String)
    (selfServiceOnly : Bool) : Result Database :=
  let refusal : ServiceError := .platformNotAuthorized operation.key
  if selfServiceOnly = false ∧ (db.authorizePlatformCaller caller operation).val.isOk = true then
    .ok db
  else do
    require (operation == .tenantSuspend) refusal
    let session ← db.authorizeSelfSuspend newId tenantId refusal caller
    require (config.platformTenantId != some tenantId) refusal
    require reason.isSome
      (.invalidPlatformRequest "reason is required to suspend one's own tenant.")
    return session

/-- Write the new status and verify that no descendant lost its last administrator; `before` is the
state the guard was taken in. -/
def applyTransition (before session : Database) (now : Instant) (tenantId : Uuid)
    (target : TenantStatus) : Result Database := do
  let changed ← flush .integrityError (session.setTenantStatus tenantId target)
  if target.isAccessibleToPrincipals then
    return changed
  else
    ((before.guardTenants now (before.descendantIdsByDepth tenantId)).val.verify changed.toTables
      now).val
    return changed

def transitionAsRequested (config : TenancyConfig) (db : Database) (now : Instant) (newId : Uuid)
    (tenantId : Uuid) (target : TenantStatus) (caller : Caller) (reason : Option String)
    (requested : PlatformOperation) (expectedOperation : Option PlatformOperation)
    (selfService : Bool) : Result Database := do
  let session ← db.authorizeTransition config newId caller requested tenantId reason selfService
  let tenant ← session.getTenant tenantId
  validateTransition tenant.status target
  let operation ← transitionOperation tenant.status target
  require (expectedOperation.all fun expected => expected == operation)
    (.invalidTenantTransition tenant.status target)
  db.applyTransition session now tenantId target

def transitionAsSelected (config : TenancyConfig) (db : Database) (now : Instant) (newId : Uuid)
    (tenantId : Uuid) (target : TenantStatus) (caller : Caller) (reason : Option String)
    (candidates : List PlatformOperation) : Result Database := do
  let tenant ← db.disclosing caller candidates (db.getTenant tenantId)
  db.disclosing caller candidates (validateTransition tenant.status target)
  let operation ← transitionOperation tenant.status target
  let session ← db.authorizeTransition config newId caller operation tenantId reason false
  db.applyTransition session now tenantId target

def transitionTenantStatus (config : TenancyConfig) (db : Database) (now : Instant) (newId : Uuid)
    (tenantId : Uuid) (target : TenantStatus) (caller : Caller) (reason : Option String)
    (expectedOperation : Option PlatformOperation) (selfService : Bool) : Result Database := do
  requireLifecycleCaller "tenant.transition" caller
  let reason ← validatedReason reason
  let candidates ← requestedOperations target expectedOperation selfService
  require (db.passesTransitionGate caller candidates tenantId selfService)
    (candidatesRefusal candidates)
  match candidates with
  | [requested] =>
    db.transitionAsRequested config now newId tenantId target caller reason requested
      expectedOperation selfService
  | _ =>
    db.transitionAsSelected config now newId tenantId target caller reason candidates

/-! ## What a successful transition did -/

lemma exists_granted_permission_of_holdsThroughOwnMembership (db : Database) {userId tenantId : Uuid}
    {action resource : String}
    (h : (db.holdsThroughOwnMembership userId tenantId action resource).val = true) :
    ∃ permissionId, db.NamesPermission permissionId resource action ∧
      ∃ grant ∈ db.rolePermissions, grant.permissionId = permissionId := by
  unfold Tables.holdsThroughOwnMembership at h
  rw [Tables.val_whenAccessible] at h
  obtain ⟨-, hquery⟩ := h
  simp only [LockedRead.val_bind, LockedRead.val_ite, LockedRead.val_pure] at hquery
  split at hquery
  · split at hquery
    · cases hquery
    · obtain ⟨s, -, -, m, -, -, -, -, assignment, -, -, -, -, grant, hgrant, -, -, hname⟩ :=
        db.tenantGrantsPermission_iff.mp hquery
      exact ⟨grant.permissionId, hname, grant, hgrant, rfl⟩
  · cases hquery

variable {db session : Database} {newId tenantId : Uuid} {caller : Caller}

lemma authorizeSelfSuspend_ok {refusal : ServiceError}
    (h : db.authorizeSelfSuspend newId tenantId refusal caller = .ok session) : session = db := by
  cases caller with
  | user userId =>
    simp only [authorizeSelfSuspend, bind_eq_ok] at h
    obtain ⟨registered, hregistered, ⟨⟩, hholds, hdone⟩ := h
    cases hdone
    obtain ⟨permissionId, hname, hgrant⟩ :=
      session.exists_granted_permission_of_holdsThroughOwnMembership (require_eq_ok.mp hholds)
    exact registerPermissionIn_of_referred hregistered ⟨permissionId, hname, Or.inl hgrant⟩
  | serviceAccount serviceAccountId ownTenantId => cases h
  | system authority => cases h

variable {config : TenancyConfig} {reason : Option String}

lemma authorizeTransition_ok {operation : PlatformOperation} {selfServiceOnly : Bool}
    (h : db.authorizeTransition config newId caller operation tenantId reason selfServiceOnly =
      .ok session) : session = db := by
  unfold authorizeTransition at h
  split at h
  · cases h
    rfl
  · simp only [bind_eq_ok] at h
    obtain ⟨⟨⟩, -, session', hself, ⟨⟩, -, ⟨⟩, -, hdone⟩ := h
    cases hdone
    exact authorizeSelfSuspend_ok hself

variable {now : Instant} {target : TenantStatus}

lemma applyTransition_ok {before session changed : Database}
    (h : before.applyTransition session now tenantId target = .ok changed) :
    changed.toTables = session.setTenantStatus tenantId target ∧
    (target.isAccessibleToPrincipals = false →
      ((before.guardTenants now (before.descendantIdsByDepth tenantId)).val.verify
        changed.toTables now).val = .ok ()) := by
  unfold applyTransition at h
  obtain ⟨written, hwritten, hrest⟩ := bind_eq_ok.mp h
  split at hrest
  · next hacc =>
    cases hrest
    exact ⟨flush_ok hwritten, fun hnot => absurd hacc (by simp [hnot])⟩
  · obtain ⟨⟨⟩, hverified, hdone⟩ := bind_eq_ok.mp hrest
    cases hdone
    exact ⟨flush_ok hwritten, fun _ => hverified⟩

lemma disclosing_eq_ok {α : Type} {db : Tables} {candidates : List PlatformOperation} {x : Result α}
    {a : α} (h : db.disclosing caller candidates x = .ok a) :
    x = .ok a := by
  cases x with
  | ok b => exact h
  | error e =>
    simp only [Tables.disclosing, bind_eq_ok] at h
    obtain ⟨-, -, herror⟩ := h
    cases herror

lemma transitionTenantStatus_ok {db db' : Database} {expectedOperation : Option PlatformOperation}
    {selfService : Bool}
    (h : db.transitionTenantStatus config now newId tenantId target caller reason expectedOperation
      selfService = .ok db') :
    (∃ tenant, db.tenant? tenantId = some tenant ∧
      target ∈ tenant.status.allowedTransitions) ∧
    db'.toTables = db.setTenantStatus tenantId target ∧
    (target.isAccessibleToPrincipals = false →
      ((db.guardTenants now (db.descendantIdsByDepth tenantId)).val.verify db'.toTables now).val =
        .ok ()) := by
  unfold transitionTenantStatus at h
  simp only [bind_eq_ok] at h
  obtain ⟨⟨⟩, -, reason', -, candidates, -, ⟨⟩, -, hrest⟩ := h
  have hedge : ∀ tenant : Tenant, validateTransition tenant.status target = .ok () →
      target ∈ tenant.status.allowedTransitions := by
    intro tenant hvalid
    exact List.contains_iff_mem.mp (require_eq_ok.mp hvalid)
  split at hrest
  · simp only [transitionAsRequested, bind_eq_ok] at hrest
    obtain ⟨session, hsession, tenant, htenant, ⟨⟩, hvalid, operation, -, ⟨⟩, -, happly⟩ := hrest
    obtain rfl := authorizeTransition_ok hsession
    exact ⟨⟨tenant, Tables.getTenant_eq_ok.mp htenant, hedge tenant hvalid⟩,
      applyTransition_ok happly⟩
  · simp only [transitionAsSelected, bind_eq_ok] at hrest
    obtain ⟨tenant, htenant, ⟨⟩, hvalid, operation, -, session, hsession, happly⟩ := hrest
    obtain rfl := authorizeTransition_ok hsession
    exact ⟨⟨tenant, Tables.getTenant_eq_ok.mp (disclosing_eq_ok htenant),
      hedge tenant (disclosing_eq_ok hvalid)⟩, applyTransition_ok happly⟩

end Database

end SaasOs
