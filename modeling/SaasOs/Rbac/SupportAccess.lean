import SaasOs.Rbac.Amplification
import SaasOs.Identity.Invitations
import SaasOs.Foundation.Run

/-!
# Support access

A request for support access names a tenant, a scope and a window.  Whoever may approve support
access at the tenant approves it, and from then on the requester is allowed, in the window, whatever
support may satisfy: at the tenant, and below it if the scope is the subtree.
-/

namespace SaasOs

open Run

/-- The errors of the operations on support access. -/
inductive SupportAccessError
  | service (error : ServiceError)
  | invalidTimeRange
  | duplicate (tenantId requesterUserId : Uuid)
  | notFound (tenantId requestId : Uuid)
  | alreadyDecided (requestId : Uuid)
  | selfApproval (approverUserId requestId : Uuid)
  | notAuthorized (userId tenantId : Uuid)
  | notApproved (requestId : Uuid)

/-- `_MAX_SUPPORT_ACCESS_DURATION`, 24 hours. -/
def maxSupportAccessDuration : ℤ := 24 * 60 * 60 * 1000000

def maxSupportAccessReasonLength : ℕ := 1000

namespace SupportAccessRequest

def decided (request : SupportAccessRequest) : Bool :=
  request.approvedAt.isSome || request.deniedAt.isSome

def approve (now : Instant) (userId : Uuid) (request : SupportAccessRequest) :
    SupportAccessRequest :=
  { request with approvedAt := some now, approvedByUserId := some userId }

def deny (now : Instant) (userId : Uuid) (request : SupportAccessRequest) : SupportAccessRequest :=
  { request with deniedAt := some now, deniedByUserId := some userId }

def revoke (now : Instant) (userId : Option Uuid) (request : SupportAccessRequest) :
    SupportAccessRequest :=
  { request with revokedAt := some now, revokedByUserId := userId }

end SupportAccessRequest

/-! ## The operations -/

def liftService {α : Type} (result : Result α) : Except SupportAccessError α :=
  result.mapError .service

namespace Tables

def getSupportAccessRequest (db : Tables) (tenantId requestId : Uuid) :
    Except SupportAccessError SupportAccessRequest :=
  match db.supportAccessRequests.find? fun row => row.tenantId == tenantId && row.id == requestId with
  | none => .error (.notFound tenantId requestId)
  | some request => .ok request

def supportAccessRequestsWith (db : Tables) (tenantId requestId : Uuid)
    (change : SupportAccessRequest → SupportAccessRequest) : List SupportAccessRequest :=
  db.supportAccessRequests.map fun row =>
    if row.tenantId = tenantId ∧ row.id = requestId then change row else row

end Tables

namespace Database

/-- `create_support_access_request`: the lifecycle is read from `seen`, before the transaction. -/
def createSupportAccessRequest (seen db : Database) (now : Instant) (newId tenantId : Uuid)
    (scopeMode : RoleScope) (reason : String) (startsAt : Option Instant) (expiresAt : Instant)
    (caller : Caller) : Except SupportAccessError Database := do
  let requesterUserId ← liftService (requireUserCaller "create_support_access_request" caller)
  let _ ← liftService (seen.requireOpenTenant tenantId)
  if PyString.strip reason = "" || maxSupportAccessReasonLength < reason.length then
    .error .invalidTimeRange
  else if expiresAt ≤ startsAt.getD now then
    .error .invalidTimeRange
  else if maxSupportAccessDuration < expiresAt - startsAt.getD now then
    .error .invalidTimeRange
  else do
    liftService
      (db.requireActiveUser requesterUserId "create_support_access_request" tenantId).result
    flush (.duplicate tenantId requesterUserId)
      { db.toTables with
        supportAccessRequests := db.supportAccessRequests ++
          [⟨newId, tenantId, requesterUserId, scopeMode, startsAt.getD now, expiresAt, none, none,
            none, none, none, none⟩] }

def authorizeSupportDecision (db : Database) (now : Instant) (newId userId tenantId : Uuid)
    (action : String) : Except SupportAccessError Database :=
  match (db.registerAndDecide now newId
      ⟨userId, tenantId, action, "support_access_request", .user, none, false⟩
      (.authorityNotAuthorized action tenantId)).result with
  | .ok session => .ok session
  | .error (.authorityNotAuthorized _ _) => .error (.notAuthorized userId tenantId)
  | .error error => .error (.service error)

def requireUndecided (request : SupportAccessRequest) : Except SupportAccessError Unit :=
  if request.decided then .error (.alreadyDecided request.id) else .ok ()

/-- `approve_support_access`: what is read before the transaction is read from `seen`. -/
def approveSupportAccess (seen db : Database) (now : Instant) (newId tenantId requestId : Uuid)
    (caller : Caller) : Except SupportAccessError Database := do
  let approverUserId ← liftService (requireUserCaller "approve_support_access" caller)
  let _ ← liftService (seen.requireOpenTenant tenantId)
  let request ← seen.getSupportAccessRequest tenantId requestId
  requireUndecided request
  if approverUserId = request.requesterUserId then
    .error (.selfApproval approverUserId requestId)
  else do
    let session ← db.authorizeSupportDecision now newId approverUserId tenantId "approve"
    let row ← session.getSupportAccessRequest tenantId requestId
    requireUndecided row
    flush (.service .integrityError)
      { session.toTables with
        supportAccessRequests :=
          session.supportAccessRequestsWith tenantId requestId (.approve now approverUserId) }

def denySupportAccess (seen db : Database) (now : Instant) (newId tenantId requestId : Uuid)
    (caller : Caller) : Except SupportAccessError Database := do
  let approverUserId ← liftService (requireUserCaller "deny_support_access" caller)
  let request ← seen.getSupportAccessRequest tenantId requestId
  requireUndecided request
  let session ← db.authorizeSupportDecision now newId approverUserId tenantId "deny"
  let row ← session.getSupportAccessRequest tenantId requestId
  requireUndecided row
  flush (.service .integrityError)
    { session.toTables with
      supportAccessRequests :=
        session.supportAccessRequestsWith tenantId requestId (.deny now approverUserId) }

/-- `revoke_support_access`; a request that was revoked already is left as it is. -/
def revokeSupportAccess (seen db : Database) (now : Instant) (newId tenantId requestId : Uuid)
    (caller : Caller) : Except SupportAccessError Database := do
  let revokerUserId ← liftService (requireUserCaller "revoke_support_access" caller)
  let request ← seen.getSupportAccessRequest tenantId requestId
  if request.approvedAt = none then
    .error (.notApproved requestId)
  else do
    let session ← db.authorizeSupportDecision now newId revokerUserId tenantId "revoke"
    let row ← session.getSupportAccessRequest tenantId requestId
    if row.revokedAt ≠ none then
      .ok session
    else
      flush (.service .integrityError)
        { session.toTables with
          supportAccessRequests :=
            session.supportAccessRequestsWith tenantId requestId (.revoke now (some revokerUserId)) }

def tenantSupportRevoker (tenantId : Uuid) : Caller → Except SupportAccessError (Option Uuid)
  | .user userId => .ok (some userId)
  | .serviceAccount _ _ => .error (.service (.callerType "revoke_tenant_support_access"))
  | .system .tenantPurge => .ok none
  | .system _ => .error (.service (.authorityNotAuthorized "revoke_tenant_support_access" tenantId))

/-- `revoke_tenant_support_access`: while the tenant is purged, every request that is live is
revoked. -/
def revokeTenantSupportAccess (seen db : Database) (now : Instant) (tenantId : Uuid)
    (caller : Caller) : Except SupportAccessError Database := do
  let userId ← tenantSupportRevoker tenantId caller
  let tenant ← liftService (seen.getTenant tenantId)
  if tenant.status = .purging ∨ tenant.status = .purged then
    flush (.service .integrityError)
      { db.toTables with
        supportAccessRequests := db.supportAccessRequests.map fun row =>
          if row.tenantId = tenantId ∧ row.approvedAt ≠ none ∧ row.deniedAt = none ∧
            row.revokedAt = none then row.revoke now userId else row }
  else .error (.service (.tenantNotPurging tenantId tenant.status))

end Database

/-! ## Runs -/

/-- What happens to the database: an operation on support access, each with the state that it read
before its transaction, or a change that leaves the requests as they are. -/
inductive SupportEvent
  | create (seen : Database) (now : Instant) (newId tenantId : Uuid) (scopeMode : RoleScope)
      (reason : String) (startsAt : Option Instant) (expiresAt : Instant) (caller : Caller)
  | approve (seen : Database) (now : Instant) (newId tenantId requestId : Uuid) (caller : Caller)
  | deny (seen : Database) (now : Instant) (newId tenantId requestId : Uuid) (caller : Caller)
  | revoke (seen : Database) (now : Instant) (newId tenantId requestId : Uuid) (caller : Caller)
  | revokeTenant (seen : Database) (now : Instant) (tenantId : Uuid) (caller : Caller)
  | other (db' : Database)

namespace Database

def committed (db : Database) (result : Except SupportAccessError Database) : Database :=
  match result with
  | .ok db' => db'
  | .error _ => db

def supportStep (db : Database) : SupportEvent → Database
  | .create seen now newId tenantId scopeMode reason startsAt expiresAt caller =>
    db.committed (seen.createSupportAccessRequest db now newId tenantId scopeMode reason startsAt
      expiresAt caller)
  | .approve seen now newId tenantId requestId caller =>
    db.committed (seen.approveSupportAccess db now newId tenantId requestId caller)
  | .deny seen now newId tenantId requestId caller =>
    db.committed (seen.denySupportAccess db now newId tenantId requestId caller)
  | .revoke seen now newId tenantId requestId caller =>
    db.committed (seen.revokeSupportAccess db now newId tenantId requestId caller)
  | .revokeTenant seen now tenantId caller =>
    db.committed (seen.revokeTenantSupportAccess db now tenantId caller)
  | .other db' => if db'.supportAccessRequests = db.supportAccessRequests then db' else db

/-- The database comes from one without requests. -/
def SupportReachable (db : Database) : Prop :=
  ∃ base : Database, base.supportAccessRequests = [] ∧ ∃ events, db = run supportStep base events

def WithinADay (db : Database) : Prop :=
  ∀ row ∈ db.supportAccessRequests,
    row.requestedExpiresAt ≤ row.requestedStartsAt + maxSupportAccessDuration

variable {seen db db' : Database} {now : Instant} {newId tenantId requestId userId : Uuid}

/-! ## What the operations checked -/

lemma liftService_ok {α : Type} {result : Result α} {a : α} (h : liftService result = .ok a) :
    result = .ok a := by
  cases result with
  | error e => cases h
  | ok b => exact congrArg _ (Except.ok.inj h)

variable {row : SupportAccessRequest}

lemma getSupportAccessRequest_ok {db : Tables}
    (h : db.getSupportAccessRequest tenantId requestId = .ok row) :
    row ∈ db.supportAccessRequests ∧ row.tenantId = tenantId ∧ row.id = requestId := by
  unfold Tables.getSupportAccessRequest at h
  split at h
  · cases h
  next request hfind =>
    cases h
    have hkey := List.find?_some hfind
    simp only [Bool.and_eq_true, beq_iff_eq] at hkey
    exact ⟨List.mem_of_find?_eq_some hfind, hkey⟩

lemma authorizeSupportDecision_ok {action : String}
    (h : db.authorizeSupportDecision now newId userId tenantId action = .ok db') :
    db' = db ∧
      db.can now ⟨userId, tenantId, action, "support_access_request", .user, none, false⟩ = true := by
  unfold authorizeSupportDecision at h
  split at h
  next session hsession =>
    cases h
    exact registerAndDecide_ok
      (show "support_access_request" ∈ authorityResources by decide) hsession
  · cases h
  · cases h

lemma requireUndecided_ok (h : requireUndecided row = .ok ()) :
    row.approvedAt = none ∧ row.deniedAt = none := by
  unfold requireUndecided at h
  split_ifs at h with hdecided
  simpa [SupportAccessRequest.decided] using hdecided

lemma approveSupportAccess_ok
    (h : seen.approveSupportAccess db now newId tenantId requestId (.user userId) = .ok db') :
    ∃ row ∈ db.supportAccessRequests, row.tenantId = tenantId ∧ row.id = requestId ∧
      row.approvedAt = none ∧ row.deniedAt = none ∧
      db.can now ⟨userId, tenantId, "approve", "support_access_request", .user, none, false⟩ = true ∧
      db'.toTables = { db.toTables with
        supportAccessRequests :=
          db.supportAccessRequestsWith tenantId requestId (.approve now userId) } := by
  unfold approveSupportAccess at h
  simp only [bind_eq_ok] at h
  obtain ⟨approver, hcaller, -, -, request, -, -, -, h⟩ := h
  obtain rfl : userId = approver := Except.ok.inj (liftService_ok hcaller)
  split_ifs at h
  simp only [bind_eq_ok] at h
  obtain ⟨session, hsession, row, hrow, ⟨⟩, hundecided, hflush⟩ := h
  obtain ⟨rfl, hcan⟩ := authorizeSupportDecision_ok hsession
  obtain ⟨hmem, htenant, hid⟩ := getSupportAccessRequest_ok hrow
  obtain ⟨happroved, hdenied⟩ := requireUndecided_ok hundecided
  exact ⟨row, hmem, htenant, hid, happroved, hdenied, hcan, flush_ok hflush⟩

/-! ## Windows are short -/

variable {change : SupportAccessRequest → SupportAccessRequest}

lemma withinADay_map (h : WithinADay db)
    (hrequests : db'.supportAccessRequests = db.supportAccessRequests.map change)
    (hwindow : ∀ row, (change row).requestedStartsAt = row.requestedStartsAt ∧
      (change row).requestedExpiresAt = row.requestedExpiresAt) : WithinADay db' := by
  intro row hrow
  rw [hrequests] at hrow
  obtain ⟨old, hold, rfl⟩ := List.mem_map.1 hrow
  rw [(hwindow old).1, (hwindow old).2]
  exact h old hold

lemma withinADay_with (h : WithinADay db)
    (hrequests : db'.supportAccessRequests =
      db.supportAccessRequestsWith tenantId requestId change)
    (hwindow : ∀ row, (change row).requestedStartsAt = row.requestedStartsAt ∧
      (change row).requestedExpiresAt = row.requestedExpiresAt) : WithinADay db' := by
  refine withinADay_map h hrequests fun row => ?_
  split_ifs
  · exact hwindow row
  · exact ⟨rfl, rfl⟩

variable {caller : Caller}

lemma createSupportAccessRequest_withinADay {scopeMode : RoleScope} {reason : String}
    {startsAt : Option Instant} {expiresAt : Instant} (h : WithinADay db)
    (hcreate : seen.createSupportAccessRequest db now newId tenantId scopeMode reason startsAt
      expiresAt caller = .ok db') : WithinADay db' := by
  unfold createSupportAccessRequest at hcreate
  simp only [bind_eq_ok] at hcreate
  obtain ⟨requester, -, -, -, hcreate⟩ := hcreate
  split_ifs at hcreate with hreason hrange hduration
  simp only [bind_eq_ok] at hcreate
  obtain ⟨-, -, hflush⟩ := hcreate
  intro row hrow
  rw [flush_ok hflush] at hrow
  rcases List.mem_append.1 hrow with hrow | hrow
  · exact h row hrow
  · obtain rfl := List.mem_singleton.1 hrow
    have := not_lt.1 hduration
    dsimp only at *
    linarith

lemma denySupportAccess_withinADay (h : WithinADay db)
    (hdeny : seen.denySupportAccess db now newId tenantId requestId caller = .ok db') :
    WithinADay db' := by
  unfold denySupportAccess at hdeny
  simp only [bind_eq_ok] at hdeny
  obtain ⟨user, -, request, -, -, -, session, hsession, row, -, -, -, hflush⟩ := hdeny
  obtain ⟨rfl, -⟩ := authorizeSupportDecision_ok hsession
  exact withinADay_with h (congrArg Tables.supportAccessRequests (flush_ok hflush)) fun _ => ⟨rfl, rfl⟩

lemma revokeSupportAccess_ok
    (h : seen.revokeSupportAccess db now newId tenantId requestId caller = .ok db') :
    (∃ row ∈ db.supportAccessRequests, row.tenantId = tenantId ∧ row.id = requestId ∧
      row.revokedAt ≠ none ∧ db' = db) ∨
    ∃ userId, db'.toTables = { db.toTables with
      supportAccessRequests :=
        db.supportAccessRequestsWith tenantId requestId (.revoke now (some userId)) } := by
  unfold revokeSupportAccess at h
  simp only [bind_eq_ok] at h
  obtain ⟨user, -, request, -, h⟩ := h
  split_ifs at h
  simp only [bind_eq_ok] at h
  obtain ⟨session, hsession, row, hrow, h⟩ := h
  obtain ⟨rfl, -⟩ := authorizeSupportDecision_ok hsession
  obtain ⟨hmem, htenant, hid⟩ := getSupportAccessRequest_ok hrow
  split_ifs at h with hrevoked
  · exact .inl ⟨row, hmem, htenant, hid, hrevoked, (Except.ok.inj h).symm⟩
  · exact .inr ⟨user, flush_ok h⟩

lemma revokeTenantSupportAccess_withinADay (h : WithinADay db)
    (hrevoke : seen.revokeTenantSupportAccess db now tenantId caller = .ok db') :
    WithinADay db' := by
  unfold revokeTenantSupportAccess at hrevoke
  simp only [bind_eq_ok] at hrevoke
  obtain ⟨user, -, tenant, -, hrevoke⟩ := hrevoke
  split_ifs at hrevoke
  refine withinADay_map h (congrArg Tables.supportAccessRequests (flush_ok hrevoke)) fun row => ?_
  split_ifs
  · exact ⟨rfl, rfl⟩
  · exact ⟨rfl, rfl⟩

lemma approveSupportAccess_withinADay (h : WithinADay db)
    (happrove : seen.approveSupportAccess db now newId tenantId requestId caller = .ok db') :
    WithinADay db' := by
  cases caller with
  | user userId =>
    obtain ⟨row, -, -, -, -, -, -, htables⟩ := approveSupportAccess_ok happrove
    exact withinADay_with h (congrArg Tables.supportAccessRequests htables) fun _ => ⟨rfl, rfl⟩
  | serviceAccount serviceAccountId ownTenantId => cases happrove
  | system authority => cases happrove

lemma committed_keeps {P : Database → Prop} {result : Except SupportAccessError Database} (h : P db)
    (hresult : ∀ db', result = .ok db' → P db') : P (db.committed result) := by
  unfold committed
  split
  · exact hresult _ rfl
  · exact h

lemma supportStep_withinADay (h : WithinADay db) (event : SupportEvent) :
    WithinADay (db.supportStep event) := by
  cases event with
  | create => exact committed_keeps h fun _ => createSupportAccessRequest_withinADay h
  | approve => exact committed_keeps h fun _ => approveSupportAccess_withinADay h
  | deny => exact committed_keeps h fun _ => denySupportAccess_withinADay h
  | revoke =>
    refine committed_keeps h fun db' hrevoke => ?_
    rcases revokeSupportAccess_ok hrevoke with ⟨-, -, -, -, -, rfl⟩ | ⟨user, htables⟩
    · exact h
    · exact withinADay_with h (congrArg Tables.supportAccessRequests htables) fun _ => ⟨rfl, rfl⟩
  | revokeTenant => exact committed_keeps h fun _ => revokeTenantSupportAccess_withinADay h
  | other db' =>
    simp only [supportStep]
    split_ifs with hsame
    · intro row hrow
      exact h row (hsame ▸ hrow)
    · exact h

lemma SupportReachable.withinADay (h : db.SupportReachable) : WithinADay db := by
  obtain ⟨base, hbase, events, rfl⟩ := h
  refine run_of_step (I := WithinADay) (fun _ event h => supportStep_withinADay h event) ?_ events
  intro row hrow
  rw [hbase] at hrow
  cases hrow

/-! ## What an approval lends -/

section Approval

variable {row : SupportAccessRequest} {t : Instant} {request : AccessRequest}

variable {requests : List SupportAccessRequest}

lemma can_with_iff (h : db'.toTables = { db.toTables with supportAccessRequests := requests }) :
    db'.can t request = true ↔
      db.Open request.tenantId ∧ db.ActorMayAct request ∧
        ¬ Tables.Denied db.IsStrictAncestor db.toTables request.actorId request.actorType
          request.tenantId request.resource request.action ∧
        ((db.Accessible request.tenantId ∧
            Tables.HoldsAsPrincipal db.IsStrictAncestor db.toTables t request) ∨
          (request.actorType = .user ∧
            Tables.SupportMaySatisfy request.resource request.action ∧
            ∃ c s, Tables.Reaches db.IsStrictAncestor s c request.tenantId ∧ db.Open c ∧
              db'.SupportedAt t request.actorId c s)) := by
  rw [db'.can_iff_allowed, h]
  exact Iff.rfl

lemma can_of_with (h : db'.toTables = { db.toTables with supportAccessRequests := requests })
    (hsupported : ∀ c s, db.Open c → db'.SupportedAt t request.actorId c s →
      db.SupportedAt t request.actorId c s) (hcan : db'.can t request = true) :
    db.can t request = true := by
  obtain ⟨hopen, hactor, hdeny, hholds⟩ := (can_with_iff h).1 hcan
  refine db.can_iff_allowed.2 ⟨hopen, hactor, hdeny, hholds.imp_right ?_⟩
  rintro ⟨huser, hmay, c, s, hreach, hopen', hsup⟩
  exact ⟨huser, hmay, c, s, hreach, hopen', hsupported c s hopen' hsup⟩

def InWindow (row : SupportAccessRequest) (t : Instant) : Prop :=
  row.requestedStartsAt ≤ t ∧ t < row.requestedExpiresAt

lemma revokedAt_of_undecided (hmem : row ∈ db.supportAccessRequests)
    (happroved : row.approvedAt = none) : row.revokedAt = none := by
  have := db.constraints.checks.support_access_requests_checks row hmem
  unfold SupportAccessRequest.checks at this
  simp_all

variable {v c : Uuid} {s : RoleScope}

lemma supportedAt_congr {db db' : Tables}
    (h : db'.supportAccessRequests = db.supportAccessRequests) :
    db'.SupportedAt t v c s ↔ db.SupportedAt t v c s := by
  unfold Tables.SupportedAt
  rw [h]

lemma supportedAt_approve {c v : Uuid} {s : RoleScope} (hmem : row ∈ db.supportAccessRequests)
    (hundecided : row.approvedAt = none ∧ row.deniedAt = none) :
    Tables.SupportedAt { db.toTables with
        supportAccessRequests :=
          db.supportAccessRequestsWith row.tenantId row.id (.approve now userId) } t v c s ↔
      db.SupportedAt t v c s ∨
        (v = row.requesterUserId ∧ c = row.tenantId ∧ s = row.scopeMode ∧ InWindow row t) := by
  have hunrevoked := revokedAt_of_undecided hmem hundecided.1
  have hsame : ∀ other ∈ db.supportAccessRequests, other.tenantId = row.tenantId ∧
      other.id = row.id → other = row := fun other hother hkey =>
    db.constraints.unique.support_access_requests_pk.eq_of_key_eq hother hmem hkey.2
  unfold Tables.SupportedAt Tables.supportAccessRequestsWith InWindow
  constructor
  · rintro ⟨_, hin, ht, hv, hs, happroved, hdenied, hrevoked, hstart, hend⟩
    obtain ⟨old, hold, rfl⟩ := List.mem_map.1 hin
    by_cases hkey : old.tenantId = row.tenantId ∧ old.id = row.id
    · obtain rfl := hsame old hold hkey
      simp only [and_self, if_true, SupportAccessRequest.approve] at ht hv hs hstart hend
      exact .inr ⟨hv.symm, ht.symm, hs.symm, hstart, hend⟩
    · rw [if_neg hkey] at ht hv hs happroved hdenied hrevoked hstart hend
      exact .inl ⟨old, hold, ht, hv, hs, happroved, hdenied, hrevoked, hstart, hend⟩
  · rintro (⟨old, hold, ht, hv, hs, happroved, hdenied, hrevoked, hstart, hend⟩ |
      ⟨rfl, rfl, rfl, hstart, hend⟩)
    · refine ⟨old, List.mem_map.2 ⟨old, hold, if_neg fun hkey => ?_⟩, ht, hv, hs, happroved, hdenied,
        hrevoked, hstart, hend⟩
      exact happroved (hsame old hold hkey ▸ hundecided.1)
    · refine ⟨row.approve now userId, List.mem_map.2 ⟨row, hmem, if_pos ⟨rfl, rfl⟩⟩, rfl, rfl, rfl,
        by simp [SupportAccessRequest.approve], hundecided.2, hunrevoked, hstart, hend⟩

lemma supportedAt_of_revoke {later : Instant} {revoker : Option Uuid}
    (hrequests : db'.supportAccessRequests =
      db.supportAccessRequestsWith row.tenantId row.id (.approve now userId))
    (h : Tables.SupportedAt { db'.toTables with
        supportAccessRequests :=
          db'.supportAccessRequestsWith row.tenantId row.id (.revoke later revoker) } t v c s) :
    db.SupportedAt t v c s := by
  obtain ⟨_, hin, ht, hv, hs, happroved, hdenied, hrevoked, hstart, hend⟩ := h
  obtain ⟨approved, happrovedIn, rfl⟩ := List.mem_map.1 hin
  by_cases hkey : approved.tenantId = row.tenantId ∧ approved.id = row.id
  · simp [hkey, SupportAccessRequest.revoke] at hrevoked
  · rw [if_neg hkey] at ht hv hs happroved hdenied hrevoked hstart hend
    rw [hrequests] at happrovedIn
    obtain ⟨old, hold, rfl⟩ := List.mem_map.1 happrovedIn
    have hother : ¬ (old.tenantId = row.tenantId ∧ old.id = row.id) := by
      intro hsame
      rw [if_pos hsame] at hkey
      exact hkey hsame
    rw [if_neg hother] at ht hv hs happroved hdenied hrevoked hstart hend
    exact ⟨old, hold, ht, hv, hs, happroved, hdenied, hrevoked, hstart, hend⟩

lemma named_of_holdsAsPrincipal {above : Uuid → Uuid → Prop}
    (h : Tables.HoldsAsPrincipal above db.toTables t request) :
    ∃ permissionId, db.NamesPermission permissionId request.resource request.action := by
  obtain ⟨c, s, -, -, hrole | hdelegation⟩ := h
  · unfold Tables.HoldsByRole at hrole
    split at hrole
    · obtain ⟨m, -, -, -, -, assignment, -, -, -, -, grant, -, -, -, hname⟩ := hrole
      exact ⟨_, hname⟩
    · obtain ⟨assignment, -, -, -, -, grant, -, -, -, hname⟩ := hrole
      exact ⟨_, hname⟩
  · obtain ⟨-, grant, -, -, -, -, -, -, -, -, hname⟩ := hdelegation
    exact ⟨_, hname⟩

lemma exists_unnamed (db : Database) : ∃ resource : String,
    (∀ permissionId action, ¬ db.NamesPermission permissionId resource action) ∧
      Tables.SupportMaySatisfy resource "read" := by
  have : Infinite String := Infinite.of_injective String.ofList fun a b h => by
    simpa using congrArg String.toList h
  obtain ⟨resource, hfresh⟩ := Infinite.exists_notMem_finset
    (db.permissions.map Permission.resource ++ authorityResources ++
      billingMutationActions.map Prod.fst ++ [tenantSelfSuspendAction.1] ++
      aiSupportAccessExcludedActions.map Prod.fst).toFinset
  simp only [List.mem_toFinset, List.mem_append, not_or] at hfresh
  obtain ⟨⟨⟨⟨hcatalog, hauthority⟩, hbilling⟩, hsuspend⟩, hai⟩ := hfresh
  refine ⟨resource, ?_, hauthority, fun h => hbilling ?_, fun h => hsuspend ?_, fun h => hai ?_⟩
  · rintro permissionId action ⟨p, hp, -, rfl, -⟩
    exact hcatalog (List.mem_map_of_mem hp)
  · exact List.mem_map_of_mem (f := Prod.fst) h
  · exact List.mem_singleton.2 (congrArg Prod.fst h)
  · exact List.mem_map_of_mem (f := Prod.fst) h

/-! ## What the approver governs -/

def Gained (db db' : Database) (t : Instant) (request : AccessRequest) : Prop :=
  db.can t request = false ∧ db'.can t request = true

def approvalRequest (userId tenantId : Uuid) : AccessRequest :=
  ⟨userId, tenantId, "approve", "support_access_request", .user, none, false⟩

/-- What an approval lends is what its request asks for, and is governed by the approver. -/
structure GovernedGain (db : Database) (now : Instant) (userId : Uuid) (row : SupportAccessRequest)
    (t : Instant) (request : AccessRequest) : Prop where
  place : Tables.Reaches db.IsStrictAncestor row.scopeMode row.tenantId request.tenantId
  permission : Tables.SupportMaySatisfy request.resource request.action
  window : InWindow row t
  day : row.requestedExpiresAt ≤ row.requestedStartsAt + maxSupportAccessDuration
  approver : db.can now (approvalRequest userId request.tenantId) = true
  ownAuthority : Tables.HoldsAsPrincipal db.IsStrictAncestor db.toTables now
    (approvalRequest userId request.tenantId)

/-- An approval reaches nothing that the approver does not govern, and nothing of it is left once the
request is revoked or the tenant closed. -/
structure ApprovalGoverned (db db' : Database) (now : Instant) (userId : Uuid)
    (row : SupportAccessRequest) : Prop where
  distinct : userId ≠ row.requesterUserId
  gained : ∀ t, now ≤ t → ∀ request : AccessRequest, request.actorId = row.requesterUserId →
    request.actorType = .user → Gained db db' t request → GovernedGain db now userId row t request
  revoked : ∀ (seen revoked : Database) (later : Instant) (newId : Uuid) (caller : Caller),
    seen.revokeSupportAccess db' later newId row.tenantId row.id caller = .ok revoked →
    ∀ t request, ¬ Gained db revoked t request
  closed : ∀ (closed closed' : Database) (tenants : List Tenant),
    closed.toTables = { db.toTables with tenants := tenants } →
    closed'.toTables = { db'.toTables with tenants := tenants } →
    ¬ closed.Open row.tenantId → ∀ t request, ¬ Gained closed closed' t request

/-- If the request is for the subtree, the approver may approve at every open descendant at which an
active requester has, at some time left in the window, no support access yet. -/
def GovernsSubtree (db : Database) (now : Instant) (userId : Uuid) (row : SupportAccessRequest) :
    Prop :=
  row.scopeMode = .subtree → (∃ user ∈ db.users, user.id = row.requesterUserId ∧
    user.isActive = true) → ∀ d, db.IsStrictAncestor row.tenantId d → db.Open d →
    ∀ t, now ≤ t → InWindow row t →
      (¬ ∃ c s, Tables.Reaches db.IsStrictAncestor s c d ∧ db.Open c ∧
        db.SupportedAt t row.requesterUserId c s) →
      db.can now (approvalRequest userId d) = true

/-- An approval that succeeded reaches only what the approver governs, and nothing of it outlives the
request or the tenant, exactly if the approver may approve wherever below the tenant the requester is
newly reached. -/
theorem approval_governed_iff (hreachable : db.SupportReachable)
    (h : seen.approveSupportAccess db now newId tenantId requestId (.user userId) = .ok db')
    (hrow : row ∈ db.supportAccessRequests) (hid : row.id = requestId) :
    ApprovalGoverned db db' now userId row ↔ GovernsSubtree db now userId row := by
  obtain ⟨row', hrow', rfl, hid', happroved, hdenied, hcan, htables⟩ := approveSupportAccess_ok h
  obtain rfl : row = row' := db.constraints.unique.support_access_requests_pk.eq_of_key_eq hrow hrow'
    (hid.trans hid'.symm)
  subst hid
  have hsupported : ∀ {t v c s}, db'.SupportedAt t v c s ↔ db.SupportedAt t v c s ∨
      (v = row.requesterUserId ∧ c = row.tenantId ∧ s = row.scopeMode ∧ InWindow row t) := by
    intro t v c s
    rw [htables]
    exact supportedAt_approve hrow ⟨happroved, hdenied⟩
  have hopen : db.Open row.tenantId := (db.can_iff_allowed.1 hcan).1
  have hin : row.approve now userId ∈ db'.supportAccessRequests := by
    rw [htables]
    exact List.mem_map.2 ⟨row, hrow, if_pos ⟨rfl, rfl⟩⟩
  constructor
  · intro hgoverned hscope hactive d habove hopenD t hnow hwindow hnew
    -- a permission that nobody was granted or denied is newly allowed at the descendant
    obtain ⟨resource, hunnamed, hmay⟩ := exists_unnamed db
    refine (hgoverned.gained t hnow ⟨row.requesterUserId, d, "read", resource, .user, none, false⟩ rfl
      rfl ⟨Bool.eq_false_iff.2 fun hbefore => ?_, (can_with_iff htables).2 ⟨hopenD, .inl ⟨rfl, hactive⟩,
        ?_, .inr ⟨rfl, hmay, row.tenantId, row.scopeMode, .inr ⟨habove, hscope⟩, hopen,
          hsupported.2 (.inr ⟨rfl, rfl, rfl, hwindow⟩)⟩⟩⟩).approver
    · obtain ⟨-, -, -, ⟨-, hholds⟩ | ⟨-, -, c, s, hreach, hopenC, hsup⟩⟩ :=
        db.can_iff_allowed.1 hbefore
      · obtain ⟨permissionId, hname⟩ := named_of_holdsAsPrincipal hholds
        exact hunnamed permissionId _ hname
      · exact hnew ⟨c, s, hreach, hopenC, hsup⟩
    · rintro ⟨c, s, -, grant, -, -, -, -, -, -, hname⟩
      exact hunnamed _ _ hname
  · intro hgoverns
    refine ⟨?_, ?_, ?_, ?_⟩
    · -- the database refuses an approval by the requester
      have hchecks := db'.constraints.checks.support_access_requests_checks _ hin
      intro heq
      simp [SupportAccessRequest.checks, SupportAccessRequest.approve, heq] at hchecks
    · intro t hnow request hactor huser ⟨hbefore, hafter⟩
      have hnot : ¬ Tables.Allowed db.IsStrictAncestor db.toTables t request := by
        rw [← db.can_iff_allowed, hbefore]
        exact Bool.false_ne_true
      obtain ⟨hopenD, hact, hdeny, hholds | ⟨-, hmay, c, s, hreach, hopenC, hsup⟩⟩ :=
        (can_with_iff htables).1 hafter
      · exact absurd ⟨hopenD, hact, hdeny, .inl hholds⟩ hnot
      · rcases hsupported.1 hsup with hsup | ⟨-, rfl, rfl, hwindow⟩
        · exact absurd ⟨hopenD, hact, hdeny, .inr ⟨huser, hmay, c, s, hreach, hopenC, hsup⟩⟩ hnot
        · have happroves : db.can now (approvalRequest userId request.tenantId) = true := by
            rcases hreach with hsame | ⟨habove, hscope⟩
            · rw [← hsame]
              exact hcan
            · refine hgoverns hscope ?_ _ habove hopenD t hnow hwindow ?_
              · rcases hact with ⟨-, user, hmem, hid, hactive⟩ | ⟨hservice, -⟩
                · exact ⟨user, hmem, hid.trans hactor, hactive⟩
                · rw [huser] at hservice
                  cases hservice
              · rintro ⟨c, s, hreach, hopenC, hsup⟩
                exact hnot ⟨hopenD, hact, hdeny, .inr ⟨huser, hmay, c, s, hreach, hopenC,
                  hactor ▸ hsup⟩⟩
          refine ⟨hreach, hmay, hwindow, hreachable.withinADay row hrow, happroves, ?_⟩
          -- no support grant lets anybody approve support access
          obtain ⟨-, -, -, ⟨-, hholds⟩ | ⟨-, hexcluded, -⟩⟩ := db.can_iff_allowed.1 happroves
          · exact hholds
          · exact absurd (show "support_access_request" ∈ authorityResources by decide) hexcluded.1
    · rintro seen revoked later newId caller hrevoke t request ⟨hbefore, hafter⟩
      rcases revokeSupportAccess_ok hrevoke with ⟨other, hother, -, hsame, hrevoked, -⟩ | ⟨user, hto⟩
      · -- the request was not revoked before
        have heq : other = row.approve now userId :=
          db'.constraints.unique.support_access_requests_pk.eq_of_key_eq hother hin hsame
        rw [heq] at hrevoked
        exact absurd (revokedAt_of_undecided hrow happroved) hrevoked
      · have hall : revoked.toTables = { db.toTables with
            supportAccessRequests :=
              db'.supportAccessRequestsWith row.tenantId row.id (.revoke later (some user)) } := by
          rw [hto, htables]
        refine absurd (can_of_with hall (fun c s _ hsup => ?_) hafter) (by simp [hbefore])
        rw [hto] at hsup
        exact supportedAt_of_revoke (congrArg Tables.supportAccessRequests htables) hsup
    · rintro closed closed' tenants hclosed hclosed' hshut t request ⟨hbefore, hafter⟩
      have hall : closed'.toTables = { closed.toTables with
          supportAccessRequests :=
            db.supportAccessRequestsWith row.tenantId row.id (.approve now userId) } := by
        rw [hclosed', htables, hclosed]
      refine absurd (can_of_with hall (fun c s hopenC hsup => ?_) hafter) (by simp [hbefore])
      have hsame' : closed'.supportAccessRequests = db'.supportAccessRequests := by
        rw [hclosed']
      have hsame : closed.supportAccessRequests = db.supportAccessRequests := by
        rw [hclosed]
      rcases hsupported.1 ((supportedAt_congr hsame').1 hsup) with hsup | ⟨-, rfl, -⟩
      · exact (supportedAt_congr hsame).2 hsup
      · exact absurd hopenC hshut

/-- Two tenants, an approver whose role reaches the root only, and somebody who is a member of
neither. -/
def supportDatabase : Database where
  toTables := { twoTierTables with
    users := [⟨10, true⟩, ⟨11, true⟩, ⟨12, true⟩]
    permissions := twoTierTables.permissions ++ [⟨8, "support_access_request", "approve"⟩]
    rolePermissions := twoTierTables.rolePermissions ++ [⟨308, 1, 200, 8⟩]
    membershipRoles := [⟨400, 1, 100, 200, .self⟩] }
  constraints := by decide

def supportRequested (scopeMode : RoleScope) : Database where
  toTables := { supportDatabase.toTables with
    supportAccessRequests :=
      [⟨500, 1, 12, scopeMode, 0, 1000000, none, none, none, none, none, none⟩] }
  constraints := by cases scopeMode <;> decide

lemma supportRequested_reachable (scopeMode : RoleScope) :
    (supportRequested scopeMode).SupportReachable := by
  refine ⟨supportDatabase, rfl, [.create supportDatabase 0 500 1 scopeMode "outage" none 1000000
    (.user 12)], ?_⟩
  cases scopeMode <;> decide +kernel

/-- In the scope of the root alone the approver governs what is lent. -/
theorem approval_governed_root :
    ∃ db', (supportRequested .self).approveSupportAccess (supportRequested .self) 0 900 1 500
        (.user 10) = .ok db' ∧
      ApprovalGoverned (supportRequested .self) db' 0 10
        ⟨500, 1, 12, .self, 0, 1000000, none, none, none, none, none, none⟩ := by
  have hok : ((supportRequested .self).approveSupportAccess (supportRequested .self) 0 900 1 500
      (.user 10)).isOk = true := by
    decide +kernel
  cases happrove : (supportRequested .self).approveSupportAccess (supportRequested .self) 0 900
      1 500 (.user 10) with
  | error e =>
    rw [happrove] at hok
    cases hok
  | ok db' =>
    exact ⟨db', rfl, (approval_governed_iff (supportRequested_reachable .self) happrove (by decide)
      rfl).2 fun hscope => by cases hscope⟩

/-- Over the subtree the requester is allowed to act in the child, where the approver may not approve
support access. -/
theorem approval_reaches_ungoverned :
    ∃ db', (supportRequested .subtree).approveSupportAccess (supportRequested .subtree) 0 900 1 500
        (.user 10) = .ok db' ∧
      (supportRequested .subtree).SupportReachable ∧
      ¬ ApprovalGoverned (supportRequested .subtree) db' 0 10
        ⟨500, 1, 12, .subtree, 0, 1000000, none, none, none, none, none, none⟩ := by
  have hok : ((supportRequested .subtree).approveSupportAccess (supportRequested .subtree) 0 900 1 500
      (.user 10)).toOption.any (fun db' => db'.can 0
        ⟨12, 2, "read", "report", .user, none, false⟩) = true := by
    decide +kernel
  have hbefore : (supportRequested .subtree).can 0 ⟨12, 2, "read", "report", .user, none, false⟩ =
      false := by
    decide +kernel
  have hnot : (supportRequested .subtree).can 0 (approvalRequest 10 2) = false := by decide +kernel
  cases happrove : (supportRequested .subtree).approveSupportAccess (supportRequested .subtree) 0 900
      1 500 (.user 10) with
  | error e => simp [happrove, Except.toOption] at hok
  | ok db' =>
    rw [happrove] at hok
    refine ⟨db', rfl, supportRequested_reachable .subtree, fun hgoverned => ?_⟩
    have := (hgoverned.gained 0 le_rfl _ rfl rfl ⟨hbefore, hok⟩).approver
    rw [hnot] at this
    cases this

end Approval

end Database

end SaasOs
