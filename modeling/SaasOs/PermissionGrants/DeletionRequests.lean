import SaasOs.Schema.Tables
import SaasOs.Foundation.LockTable
import SaasOs.Foundation.Run

/-!
# Requests to delete expired ledger rows

A deletion of ledger rows is requested for a set of tenants, approved, authorised for execution and
executed, each in a transaction of its own.  Every transaction locks the tenant rows of its request
one by one, in the order of their ids, reads the wall clock, checks what is committed at that time,
and inserts its row, whose times a trigger takes from the clock once more.
-/

namespace SaasOs.PermissionGrants

/-! ## The rows -/

def hour : Instant := 3600000000

/-- `REQUEST_VALIDITY` and `APPROVAL_VALIDITY`. -/
def requestValidity : Instant := 72 * hour

def executionAuthorizationValidity : Instant := hour

def maxReportTenants : ℕ := 1000

/-- A row of `permission_grant_ledger_deletion_requests`. -/
structure DeletionRequest where
  id : Uuid
  tenantIds : List Uuid
  requestedAt : Instant
  expiresAt : Instant

/-- A row of `permission_grant_ledger_deletion_approvals`. -/
structure DeletionApproval where
  id : Uuid
  requestId : Uuid
  approvedAt : Instant
  expiresAt : Instant
  consumedAt : Option Instant
  invalidatedAt : Option Instant

/-- A row of `permission_grant_ledger_deletion_execution_authorizations`. -/
structure ExecutionAuthorization where
  id : Uuid
  approvalId : Uuid
  authorizedAt : Instant
  expiresAt : Instant
  consumedAt : Option Instant
  invalidatedAt : Option Instant

/-- Why an approval or an authorisation is not live. -/
inductive RecordRefusal
  | consumed | invalidated | expired

def recordRefusal (consumedAt invalidatedAt : Option Instant) (expiresAt at' : Instant) :
    Option RecordRefusal :=
  if consumedAt ≠ none then some .consumed
  else if invalidatedAt ≠ none then some .invalidated
  else if expiresAt ≤ at' then some .expired
  else none

def approvalRefusal (approval : DeletionApproval) (at' : Instant) : Option RecordRefusal :=
  recordRefusal approval.consumedAt approval.invalidatedAt approval.expiresAt at'

def authorizationRefusal (authorization : ExecutionAuthorization) (at' : Instant) :
    Option RecordRefusal :=
  recordRefusal authorization.consumedAt authorization.invalidatedAt authorization.expiresAt at'

inductive DeletionState
  | pending | approved | consumed | expired | invalidated
  deriving DecidableEq

/-- `_state`. -/
def deletionState (request : DeletionRequest) (approval : Option DeletionApproval) (at' : Instant) :
    DeletionState :=
  match approval with
  | none => if at' < request.expiresAt then .pending else .expired
  | some approval =>
    if approval.consumedAt ≠ none then .consumed
    else if approval.invalidatedAt ≠ none then .invalidated
    else if at' < approval.expiresAt then .approved
    else .expired

def DeletionState.IsLive (state : DeletionState) : Prop :=
  state = pending ∨ state = approved

instance : DecidablePred DeletionState.IsLive := fun _ => inferInstanceAs (Decidable (_ ∨ _))

structure DeletionLedger where
  requests : List DeletionRequest
  approvals : List DeletionApproval
  authorizations : List ExecutionAuthorization

def Overlap (scope scope' : List Uuid) : Prop := ∃ tenantId ∈ scope, tenantId ∈ scope'

instance (scope scope' : List Uuid) : Decidable (Overlap scope scope') :=
  inferInstanceAs (Decidable (∃ tenantId ∈ scope, _))

namespace DeletionLedger

def approvalOf (ledger : DeletionLedger) (requestId : Uuid) : Option DeletionApproval :=
  ledger.approvals.find? fun approval => approval.requestId = requestId

def state (ledger : DeletionLedger) (request : DeletionRequest) (at' : Instant) : DeletionState :=
  deletionState request (ledger.approvalOf request.id) at'

def liveRequests (ledger : DeletionLedger) (scope : List Uuid) (at' : Instant) :
    List DeletionRequest :=
  ledger.requests.filter fun request =>
    Overlap request.tenantIds scope ∧ (ledger.state request at').IsLive

def liveAuthorizations (ledger : DeletionLedger) (approvalId : Uuid) (at' : Instant) :
    List ExecutionAuthorization :=
  ledger.authorizations.filter fun authorization =>
    authorization.approvalId = approvalId ∧ authorizationRefusal authorization at' = none

end DeletionLedger

/-! ## The transactions -/

/-- `canonical_scope`: the sorted, distinct tenant ids, 1 to 1000 of them. -/
def canonicalScope (tenantIds : List Uuid) : Option (List Uuid) :=
  let scope := tenantIds.dedup.insertionSort (· ≤ ·)
  if 0 < scope.length ∧ scope.length ≤ maxReportTenants then some scope else none

inductive DeletionCall
  | request (tenantIds : List Uuid)
  | approve (requestId : Uuid)
  | authorize (requestId : Uuid)
  | execute (authorizationId : Uuid)

/-- A call that read the rows it is about. -/
inductive DeletionOperation
  | request (scope : List Uuid)
  | approve (request : DeletionRequest)
  | authorize (request : DeletionRequest)
  | execute (request : DeletionRequest) (approvalId authorizationId : Uuid)

namespace DeletionOperation

def scope : DeletionOperation → List Uuid
  | request scope => scope
  | approve row => row.tenantIds
  | authorize row => row.tenantIds
  | execute row _ _ => row.tenantIds

def subject : DeletionOperation → Option DeletionRequest
  | request _ => none
  | approve row => some row
  | authorize row => some row
  | execute row _ _ => some row

end DeletionOperation

inductive DeletionWrite
  | request (row : DeletionRequest)
  | approval (row : DeletionApproval)
  | authorization (row : ExecutionAuthorization)
  | consumed (approvalId authorizationId : Uuid) (at' : Instant)

inductive DeletionPhase
  /-- The tenants whose rows are still to be locked. -/
  | locking (remaining : List Uuid)
  /-- It read the clock. -/
  | timed (at' : Instant)
  /-- Its checks passed. -/
  | checked
  /-- Its rows are inserted, not yet committed. -/
  | written (write : DeletionWrite)

structure DeletionTransaction where
  operation : DeletionOperation
  phase : DeletionPhase

namespace DeletionLedger

def begin (ledger : DeletionLedger) : DeletionCall → Option DeletionOperation
  | .request tenantIds => (canonicalScope tenantIds).map .request
  | .approve requestId => (ledger.requests.find? fun row => row.id = requestId).map .approve
  | .authorize requestId =>
    if ledger.approvalOf requestId = none then none
    else (ledger.requests.find? fun row => row.id = requestId).map .authorize
  | .execute authorizationId => do
    let authorization ← ledger.authorizations.find? fun row => row.id = authorizationId
    let approval ← ledger.approvals.find? fun row => row.id = authorization.approvalId
    let request ← ledger.requests.find? fun row => row.id = approval.requestId
    return .execute request approval.id authorization.id

def Executable (ledger : DeletionLedger) (approvalId authorizationId : Uuid) (at' : Instant) :
    Prop :=
  (∃ row ∈ ledger.authorizations, row.id = authorizationId ∧ authorizationRefusal row at' = none) ∧
    ∃ row ∈ ledger.approvals, row.id = approvalId ∧ approvalRefusal row at' = none

instance (ledger : DeletionLedger) (approvalId authorizationId : Uuid) (at' : Instant) :
    Decidable (ledger.Executable approvalId authorizationId at') :=
  inferInstanceAs (Decidable (_ ∧ _))

def Accepts (ledger : DeletionLedger) (at' : Instant) : DeletionOperation → Prop
  | .request scope => ledger.liveRequests scope at' = []
  | .approve request => ledger.approvalOf request.id = none ∧ at' < request.expiresAt
  | .authorize request => ∃ approval ∈ ledger.approvalOf request.id,
    approvalRefusal approval at' = none ∧ ledger.liveAuthorizations approval.id at' = []
  | .execute _ approvalId authorizationId => ledger.Executable approvalId authorizationId at'

instance (ledger : DeletionLedger) (at' : Instant) (operation : DeletionOperation) :
    Decidable (ledger.Accepts at' operation) := by
  cases operation <;> unfold Accepts <;> infer_instance

/-- The row that an operation inserts at the time of the clock; `none` when a trigger refuses. -/
def insert (ledger : DeletionLedger) (id : Uuid) (clock : Instant) :
    DeletionOperation → Option DeletionWrite
  | .request scope => some (.request ⟨id, scope, clock, clock + requestValidity⟩)
  | .approve request =>
    if clock < request.expiresAt then
      some (.approval ⟨id, request.id, clock, clock + requestValidity, none, none⟩)
    else none
  | .authorize request =>
    match ledger.approvalOf request.id with
    | some approval =>
      if approvalRefusal approval clock = none then
        some (.authorization ⟨id, approval.id, clock,
          min (clock + executionAuthorizationValidity) approval.expiresAt, none, none⟩)
      else none
    | none => none
  | .execute _ approvalId authorizationId =>
    if ledger.Executable approvalId authorizationId clock then
      some (.consumed approvalId authorizationId clock)
    else none

/-- The one-way `UPDATE` that consumes an approval. -/
def consumeApproval (id : Uuid) (at' : Instant) (row : DeletionApproval) : DeletionApproval :=
  if row.id = id ∧ row.consumedAt = none ∧ row.invalidatedAt = none then
    { row with consumedAt := some at' }
  else row

/-- The one-way `UPDATE` that consumes an authorisation. -/
def consumeAuthorization (id : Uuid) (at' : Instant) (row : ExecutionAuthorization) :
    ExecutionAuthorization :=
  if row.id = id ∧ row.consumedAt = none ∧ row.invalidatedAt = none then
    { row with consumedAt := some at' }
  else row

/-- `_invalidate`, of the approvals of the revoked users. -/
def invalidateApproval (ids : List Uuid) (at' : Instant) (row : DeletionApproval) :
    DeletionApproval :=
  if row.id ∈ ids ∧ row.consumedAt = none ∧ row.invalidatedAt = none then
    { row with invalidatedAt := some at' }
  else row

/-- `_invalidate`, of their execution authorisations. -/
def invalidateAuthorization (ids : List Uuid) (at' : Instant) (row : ExecutionAuthorization) :
    ExecutionAuthorization :=
  if row.id ∈ ids ∧ row.consumedAt = none ∧ row.invalidatedAt = none then
    { row with invalidatedAt := some at' }
  else row

def settle (ledger : DeletionLedger) (approval : DeletionApproval → DeletionApproval)
    (authorization : ExecutionAuthorization → ExecutionAuthorization) : DeletionLedger :=
  { ledger with
    approvals := ledger.approvals.map approval
    authorizations := ledger.authorizations.map authorization }

def commit (ledger : DeletionLedger) : DeletionWrite → DeletionLedger
  | .request row =>
    if ∃ other ∈ ledger.requests, other.id = row.id then ledger
    else { ledger with requests := row :: ledger.requests }
  | .approval row =>
    if ∃ other ∈ ledger.approvals, other.id = row.id then ledger
    else { ledger with approvals := row :: ledger.approvals }
  | .authorization row =>
    if ∃ other ∈ ledger.authorizations, other.id = row.id then ledger
    else { ledger with authorizations := row :: ledger.authorizations }
  | .consumed approvalId authorizationId at' =>
    ledger.settle (consumeApproval approvalId at') (consumeAuthorization authorizationId at')

end DeletionLedger

/-! ## The system -/

/-- The wall clock, the committed rows, the locks on tenant rows and the transactions under way. -/
structure DeletionSystem where
  clock : Instant
  ledger : DeletionLedger
  locks : LockTable Uuid ℕ
  transactions : ℕ → Option DeletionTransaction

inductive DeletionEvent
  | tick (elapsed : ℕ)
  | begin (n : ℕ) (call : DeletionCall)
  | lock (n : ℕ)
  | readClock (n : ℕ)
  | check (n : ℕ) (granted : Bool)
  | insert (n : ℕ) (id : Uuid)
  | commit (n : ℕ)
  | abort (n : ℕ)
  | revoke (approvalIds authorizationIds : List Uuid)

namespace DeletionSystem

def start (clock : Instant) : DeletionSystem where
  clock := clock
  ledger := ⟨[], [], []⟩
  locks := LockTable.empty
  transactions := fun _ => none

/-- The system with another transaction at `n`. -/
def setTransaction (system : DeletionSystem) (n : ℕ) (operation : DeletionOperation)
    (phase : DeletionPhase) : DeletionSystem :=
  { system with transactions := Function.update system.transactions n (some ⟨operation, phase⟩) }

/-- The transaction at `n` ends, with these rows committed. -/
def finish (system : DeletionSystem) (n : ℕ) (ledger : DeletionLedger) : DeletionSystem :=
  { system with
    ledger := ledger
    locks := system.locks.release n
    transactions := Function.update system.transactions n none }

def lock (system : DeletionSystem) (n : ℕ) : DeletionSystem :=
  match system.transactions n with
  | some ⟨operation, .locking (tenantId :: remaining)⟩ =>
    match system.locks.acquire n .exclusive [tenantId] with
    | some locks => { system.setTransaction n operation (.locking remaining) with locks := locks }
    | none => system
  | _ => system

def readClock (system : DeletionSystem) (n : ℕ) : DeletionSystem :=
  match system.transactions n with
  | some ⟨operation, .locking []⟩ => system.setTransaction n operation (.timed system.clock)
  | _ => system

def check (system : DeletionSystem) (n : ℕ) (granted : Bool) : DeletionSystem :=
  match system.transactions n with
  | some ⟨operation, .timed at'⟩ =>
    if granted = true ∧ system.ledger.Accepts at' operation then
      system.setTransaction n operation .checked
    else system.finish n system.ledger
  | _ => system

def insert (system : DeletionSystem) (n : ℕ) (id : Uuid) : DeletionSystem :=
  match system.transactions n with
  | some ⟨operation, .checked⟩ =>
    match system.ledger.insert id system.clock operation with
    | some write => system.setTransaction n operation (.written write)
    | none => system.finish n system.ledger
  | _ => system

def step (system : DeletionSystem) : DeletionEvent → DeletionSystem
  | .tick elapsed => { system with clock := system.clock + elapsed }
  | .begin n call =>
    match system.transactions n, system.ledger.begin call with
    | none, some operation => system.setTransaction n operation (.locking operation.scope)
    | _, _ => system
  | .lock n => system.lock n
  | .readClock n => system.readClock n
  | .check n granted => system.check n granted
  | .insert n id => system.insert n id
  | .commit n =>
    match system.transactions n with
    | some ⟨_, .written write⟩ => system.finish n (system.ledger.commit write)
    | _ => system
  | .abort n => system.finish n system.ledger
  | .revoke approvalIds authorizationIds =>
    let ledger := system.ledger.settle
      (DeletionLedger.invalidateApproval approvalIds system.clock)
      (DeletionLedger.invalidateAuthorization authorizationIds system.clock)
    { system with ledger := ledger }

/-- At most one live request names a tenant, a request has at most one approval, and an approval at
most one live execution authorisation. -/
structure OneLive (system : DeletionSystem) : Prop where
  request : ∀ first ∈ system.ledger.requests, ∀ second ∈ system.ledger.requests,
    (system.ledger.state first system.clock).IsLive →
    (system.ledger.state second system.clock).IsLive →
    Overlap first.tenantIds second.tenantIds → first = second
  approval : ∀ first ∈ system.ledger.approvals, ∀ second ∈ system.ledger.approvals,
    first.requestId = second.requestId → first = second
  authorization : ∀ first ∈ system.ledger.authorizations,
    ∀ second ∈ system.ledger.authorizations, first.approvalId = second.approvalId →
    authorizationRefusal first system.clock = none →
    authorizationRefusal second system.clock = none → first = second

end DeletionSystem

end SaasOs.PermissionGrants
