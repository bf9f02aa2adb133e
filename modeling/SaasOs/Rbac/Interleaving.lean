import SaasOs.Rbac.LastAdministrator
import SaasOs.Identity.Invitations
import SaasOs.Foundation.LockTable

/-!
# Guarded mutations as concurrent transactions

The six guarded row changes run as transactions of several steps each: the administrator lock of the
own tenant, the authorization, the scan for the descendants the affected users are members of, their
administrator locks one by one, the recording of the administrators, the row change under an
exclusive row lock, the verification and the commit.  Every read that locks rows takes them `FOR
SHARE`, and a step whose locks are not free waits.  Under `READ COMMITTED` each step sees what the
other transactions have committed by then, and its own change.
-/

namespace SaasOs

/-- What a transaction can lock: the administrators of a tenant, by an advisory lock, or a row. -/
inductive LockKey
  | administrators (tenantId : Uuid)
  | row (key : RowKey)
  deriving DecidableEq

/-- What a guarded mutation is about to do: the planned change, and the descendants its guard looks
at. -/
structure GuardTarget where
  planned : GuardedChange
  descendants : List Uuid

/-- How far a guarded mutation has come. -/
inductive Phase
  /-- Nothing is locked yet. -/
  | begun
  /-- The administrators of the own tenant are locked. -/
  | ownTenantLocked
  /-- The caller is authorized and the row is found. -/
  | authorized (planned : GuardedChange)
  /-- The reached descendants are known, and those in `pending` are still to be locked. -/
  | locking (target : GuardTarget) (pending : List Uuid)
  /-- The administrators are recorded. -/
  | recorded (target : GuardTarget) (guard : AdministratorGuard)
  /-- The row is changed. -/
  | changed (target : GuardTarget) (guard : AdministratorGuard)
  /-- The guard is verified. -/
  | verified (target : GuardTarget)

def Phase.target? : Phase → Option GuardTarget
  | begun => none
  | ownTenantLocked => none
  | authorized _ => none
  | locking target _ => some target
  | recorded target _ => some target
  | changed target _ => some target
  | verified target => some target

/-- An open transaction of a guarded mutation. -/
structure GuardedTransaction where
  mutation : GuardedMutation
  phase : Phase

/-- A call that makes a user an active member of a tenant. -/
inductive JoinCall
  | addTenantMembership (ids : NewIds) (tenantId userId : Uuid) (caller : Caller)
  | acceptInvitation (newId : Uuid) (rawToken : String) (tenantId userId : Uuid)
      (acceptingEmail : Option String)

namespace JoinCall

def tenantId : JoinCall → Uuid
  | addTenantMembership _ tenantId _ _ => tenantId
  | acceptInvitation _ _ tenantId _ _ => tenantId

def userId : JoinCall → Uuid
  | addTenantMembership _ _ userId _ => userId
  | acceptInvitation _ _ _ userId _ => userId

def locks (hashInvitationToken : String → String) (db : Database) (now : Instant) :
    JoinCall → List RowKey
  | addTenantMembership ids tenantId _ caller =>
    (db.planAddTenantMembership now ids.permission tenantId caller).locks
  | acceptInvitation newId rawToken tenantId userId acceptingEmail =>
    (db.acceptInvitation hashInvitationToken now newId rawToken tenantId (.user userId)
      acceptingEmail).locks

def perform (hashInvitationToken : String → String) (db : Database) (now : Instant) :
    JoinCall → Result Database
  | addTenantMembership ids tenantId userId caller =>
    db.addTenantMembership now ids tenantId userId caller
  | acceptInvitation newId rawToken tenantId userId acceptingEmail =>
    (db.acceptInvitation hashInvitationToken now newId rawToken tenantId (.user userId)
      acceptingEmail).result

lemma perform_joinedBy {hashInvitationToken : String → String} {db db' : Database} {now : Instant}
    {call : JoinCall} (h : call.perform hashInvitationToken db now = .ok db') :
    db.JoinedBy db'.toTables call.tenantId call.userId := by
  cases call with
  | addTenantMembership ids tenantId userId caller => exact Database.addTenantMembership_joinedBy h
  | acceptInvitation newId rawToken tenantId userId acceptingEmail =>
    exact Database.acceptInvitation_joinedBy h

end JoinCall

/-- The committed database, the clock, the locks and the open transactions. -/
structure System where
  db : Database
  now : Instant
  locks : LockTable LockKey ℕ
  transaction : ℕ → Option GuardedTransaction

inductive Action
  /-- A transaction begins. -/
  | begin (i : ℕ) (mutation : GuardedMutation)
  /-- A transaction takes its next step. -/
  | advance (i : ℕ)
  /-- A transaction is rolled back, as the victim of a deadlock or because its client is gone. -/
  | abort (i : ℕ)
  /-- Somebody joins a tenant, in one transaction. -/
  | join (i : ℕ) (call : JoinCall)
  /-- Time passes. -/
  | tick (now : Instant)

namespace System

def initial (db : Database) (now : Instant) : System where
  db := db
  now := now
  locks := .empty
  transaction := fun _ => none

def close (s : System) (i : ℕ) : System :=
  { s with
    locks := s.locks.release i
    transaction := Function.update s.transaction i none }

def proceed (s : System) (i : ℕ) (mutation : GuardedMutation) (locks : LockTable LockKey ℕ)
    (phase : Phase) : System :=
  { s with
    locks := locks
    transaction := Function.update s.transaction i (some ⟨mutation, phase⟩) }

@[simp] lemma proceed_transaction_self (s : System) (i : ℕ) (mutation : GuardedMutation)
    (locks : LockTable LockKey ℕ) (phase : Phase) :
    (s.proceed i mutation locks phase).transaction i = some ⟨mutation, phase⟩ :=
  Function.update_self i _ s.transaction

@[simp] lemma proceed_transaction_of_ne (s : System) {i j : ℕ} (hji : j ≠ i)
    (mutation : GuardedMutation) (locks : LockTable LockKey ℕ) (phase : Phase) :
    (s.proceed i mutation locks phase).transaction j = s.transaction j :=
  Function.update_of_ne hji _ s.transaction

@[simp] lemma close_transaction_self (s : System) (i : ℕ) : (s.close i).transaction i = none :=
  Function.update_self i _ s.transaction

@[simp] lemma close_transaction_of_ne (s : System) {i j : ℕ} (hji : j ≠ i) :
    (s.close i).transaction j = s.transaction j :=
  Function.update_of_ne hji _ s.transaction

def settle (s : System) (i : ℕ) (mutation : GuardedMutation) (locks : LockTable LockKey ℕ) :
    Result (Option Phase) → System
  | .ok (some phase) => s.proceed i mutation locks phase
  | .ok none => s.close i
  | .error _ => s.close i

def commit (s : System) (i : ℕ) (change : RowChange) : System :=
  match s.db.writeRow change with
  | .ok db => { s.close i with db := db }
  | .error _ => s.close i

/-- Verify a guard in the session of a transaction, which sees its own change on top of what is
committed by now. -/
def verifyWritten (now : Instant) (guard : AdministratorGuard) (membershipId : Option Uuid) :
    Result Database → Locked (Result Unit)
  | .ok session => guard.verify session.toTables now membershipId
  | .error refusal => pure (.error refusal)

/-- The next step of a guarded mutation; `none` while it has to wait for a lock. -/
def advance (s : System) (i : ℕ) (mutation : GuardedMutation) : Phase → Option System
  | .begun => do
    let locks ← s.locks.acquire i .exclusive [.administrators mutation.tenantId]
    return s.proceed i mutation locks .ownTenantLocked
  | .ownTenantLocked => do
    let plan := mutation.plan s.db s.now
    let locks ← s.locks.acquire i .share (plan.locks.map .row)
    return s.settle i mutation locks (plan.result.map fun found => found.2.map .authorized)
  | .authorized planned =>
    -- the scan reads memberships without a lock
    let descendants := s.db.reachedDescendants mutation.tenantId planned.affectedUsers
    some (s.proceed i mutation s.locks (.locking ⟨planned, descendants⟩ descendants))
  | .locking target (descendantId :: pending) => do
    let locks ← s.locks.acquire i .exclusive [.administrators descendantId]
    return s.proceed i mutation locks (.locking target pending)
  | .locking target [] => do
    let guard := s.db.guardTenants s.now (mutation.tenantId :: target.descendants)
    let locks ← s.locks.acquire i .share (guard.locks.map .row)
    return s.proceed i mutation locks (.recorded target guard.val)
  | .recorded target guard => do
    let locks ← s.locks.acquire i .exclusive (target.planned.change.lockedRow.toList.map .row)
    return s.settle i mutation locks
      ((s.db.writeRow target.planned.change).map fun _ => some (.changed target guard))
  | .changed target guard => do
    let verdict := verifyWritten s.now guard target.planned.membershipId
      (s.db.writeRow target.planned.change)
    let locks ← s.locks.acquire i .share (verdict.locks.map .row)
    return s.settle i mutation locks (verdict.val.map fun _ => some (.verified target))
  | .verified target => some (s.commit i target.planned.change)

def afterJoin (s : System) : Result Database → System
  | .ok db => { s with db := db }
  | .error _ => s

def step (hashInvitationToken : String → String) (s : System) : Action → Option System
  | .begin i mutation =>
    if s.transaction i = none then some (s.proceed i mutation s.locks .begun) else none
  | .advance i => do
    let transaction ← s.transaction i
    s.advance i transaction.mutation transaction.phase
  | .abort i => do
    let _ ← s.transaction i
    return s.close i
  | .join i call =>
    if s.transaction i = none then do
      let _ ← s.locks.acquire i .share ((call.locks hashInvitationToken s.db s.now).map .row)
      return s.afterJoin (call.perform hashInvitationToken s.db s.now)
    else none
  | .tick now => if s.now ≤ now then some { s with now := now } else none

def run (hashInvitationToken : String → String) : System → List Action → Option System
  | s, [] => some s
  | s, action :: actions => do
    let s' ← s.step hashInvitationToken action
    s'.run hashInvitationToken actions

end System

end SaasOs
