import SaasOs.Outbox.LastError
import SaasOs.Tenancy.Registry

/-!
# The durable outbox

The rows of `core.outbox_events` and the transitions of their delivery.  A dispatcher claims due
events (`claimDueEvents`), which gives each of them a fresh claim token and a lease; a worker begins
the execution under that token, may mark that its external request is about to be sent, and records
one outcome; a claim whose hand-over to the queue failed is released.
-/

namespace SaasOs

open Rows

/-! ## The dispatch policy -/

/-- The dispatch policy; one that is out of range cannot be built. -/
structure OutboxDispatchConfig where
  maxAttempts : ℕ := 10
  retryBaseSeconds : ℚ := 30
  retryMaxSeconds : ℚ := 3600
  retryJitterRatio : ℚ := 1 / 10
  leaseSeconds : ℚ := 900
  enqueueRetrySeconds : ℚ := 30
  batchSize : ℕ := 100
  perTenantLimit : ℕ := 25
  retryHintMaxSeconds : ℚ := 86400
  externalEffectMarkers : Bool := false
  one_le_maxAttempts : 1 ≤ maxAttempts := by decide
  retryBase_pos : 0 < retryBaseSeconds := by norm_num
  retryBase_le_max : retryBaseSeconds ≤ retryMaxSeconds := by norm_num
  retryJitter_nonneg : 0 ≤ retryJitterRatio := by norm_num
  retryJitter_le_one : retryJitterRatio ≤ 1 := by norm_num
  lease_pos : 0 < leaseSeconds := by norm_num
  enqueueRetry_pos : 0 < enqueueRetrySeconds := by norm_num
  one_le_batchSize : 1 ≤ batchSize := by decide
  one_le_perTenantLimit : 1 ≤ perTenantLimit := by decide
  retryHintMax_pos : 0 < retryHintMaxSeconds := by norm_num
  retryHintMax_le : retryHintMaxSeconds ≤ 31 * 86400 := by norm_num

namespace OutboxDispatchConfig

def lease (config : OutboxDispatchConfig) : ℤ :=
  PyDatetime.timedelta config.leaseSeconds

def enqueueRetryDelay (config : OutboxDispatchConfig) : ℤ :=
  PyDatetime.timedelta config.enqueueRetrySeconds

end OutboxDispatchConfig

/-- The delay before the next attempt after `attempts` failed ones: the base doubled for each
attempt, capped, plus a random part of the jitter. -/
def retryDelay (attempts : ℕ) (config : OutboxDispatchConfig) (random : ℚ) : ℤ :=
  let exponent := attempts - 1
  let delay := min (config.retryBaseSeconds * 2 ^ exponent) config.retryMaxSeconds
  let jitter := delay * config.retryJitterRatio * random
  PyDatetime.timedelta (delay + jitter)

/-- A consumer's retry hint: a number of seconds, infinity, or something that is no hint (`NaN`,
minus infinity, a boolean or a value of another type). -/
inductive RetryHint
  | seconds (seconds : ℚ)
  | infinite
  | unusable

def retryHintDelay (retryAfter : RetryHint) (config : OutboxDispatchConfig) : ℤ :=
  match retryAfter with
  | .unusable => 0
  | .infinite => PyDatetime.timedelta config.retryHintMaxSeconds
  | .seconds seconds =>
    if seconds ≤ 0 then 0 else PyDatetime.timedelta (min seconds config.retryHintMaxSeconds)

/-! ## Rows -/

/-- `core.outbox_events.status`. -/
inductive EventStatus
  | pending
  | published
  | deadLettered
  deriving DecidableEq

/-- The started marker: the claim that was about to send an external request, and when. -/
structure StartedMarker where
  externalStartedAt : Instant
  externalStartedClaim : Uuid
  deriving DecidableEq

lemma claim_only_pending_none {status : EventStatus} :
    (none : Option Uuid).isSome = true → status = .pending := by
  intro h
  cases h

/-- The columns that the dispatcher maintains; only a pending event carries a claim. -/
structure DispatchState where
  status : EventStatus
  attempts : ℕ
  nextAttemptAt : Instant
  lastError : Option String
  publishedAt : Option Instant
  claimToken : Option Uuid
  started : Option StartedMarker
  updatedAt : Instant
  claim_only_pending : claimToken.isSome = true → status = .pending
  deriving DecidableEq

/-- A row of `core.outbox_events`. -/
structure OutboxEvent where
  id : Uuid
  tenantId : Uuid
  eventType : String
  correlationId : Option String
  createdAt : Instant
  state : DispatchState
  deriving DecidableEq

/-- The table `core.outbox_events`, with its primary key. -/
structure OutboxEvents where
  rows : List OutboxEvent
  unique_id : UniqueOn rows OutboxEvent.id

namespace DispatchState

def externalStartedClaim (state : DispatchState) : Option Uuid :=
  state.started.map StartedMarker.externalStartedClaim

def markedBy (state : DispatchState) (claimToken : Option Uuid) : Bool :=
  claimToken.isSome && state.externalStartedClaim == claimToken

def recordError (state : DispatchState) (error : Failure) : DispatchState :=
  { state with lastError := some (SaasOs.recordError state.lastError error) }

def deadLetter (state : DispatchState) (reason : Option String) : DispatchState :=
  let dead : DispatchState :=
    { state with
      status := .deadLettered
      claimToken := none
      claim_only_pending := claim_only_pending_none }
  match reason with
  | none => dead
  | some reason => dead.recordError (.text reason)

section

variable (state : DispatchState) (reason : Option String)

include state reason

@[simp] lemma status_deadLetter :
    (state.deadLetter reason).status = .deadLettered := by
  cases reason <;> rfl

@[simp] lemma claimToken_deadLetter :
    (state.deadLetter reason).claimToken = none := by
  cases reason <;> rfl

@[simp] lemma attempts_deadLetter :
    (state.deadLetter reason).attempts = state.attempts := by
  cases reason <;> rfl

end

def unclaimed (state : DispatchState) : DispatchState :=
  { state with claimToken := none, claim_only_pending := claim_only_pending_none }

def clearMarker (state : DispatchState) : DispatchState :=
  { state with started := none }

def retryAt (state : DispatchState) (due : Instant) : DispatchState :=
  { state.unclaimed.clearMarker with nextAttemptAt := due }

end DispatchState

namespace OutboxEvent

/-- The row with another dispatch state; the write stamps `updated_at`. -/
def written (now : Instant) (state : DispatchState) (row : OutboxEvent) : OutboxEvent :=
  { row with state := { state with updatedAt := now } }

def stored (now : Instant) (eventId : Uuid) (state : DispatchState) (row : OutboxEvent) :
    OutboxEvent :=
  if row.id = eventId then row.written now state else row

@[simp] lemma id_stored (now : Instant) (eventId : Uuid) (state : DispatchState) (row : OutboxEvent) :
    (stored now eventId state row).id = row.id := by
  unfold stored
  split <;> rfl

end OutboxEvent

/-- The claim an operation names: the tenant whose scope it runs in, the event and the claim
token. -/
structure EventClaim where
  tenantId : Uuid
  eventId : Uuid
  claimToken : Uuid

namespace OutboxEvents

def event? (events : OutboxEvents) (tenantId eventId : Uuid) : Option OutboxEvent :=
  events.rows.find? fun row => row.id == eventId && row.tenantId == tenantId

def store (events : OutboxEvents) (now : Instant) (eventId : Uuid) (state : DispatchState) :
    OutboxEvents where
  rows := events.rows.map (OutboxEvent.stored now eventId state)
  unique_id := by
    have hids : OutboxEvent.id ∘ OutboxEvent.stored now eventId state = OutboxEvent.id :=
      funext fun row => OutboxEvent.id_stored now eventId state row
    unfold UniqueOn
    rw [List.map_map, hids]
    exact events.unique_id

def lockedClaimedRow (events : OutboxEvents) (claim : EventClaim) : Option OutboxEvent :=
  (events.event? claim.tenantId claim.eventId).filter fun row =>
    row.state.status == .pending && row.state.claimToken == some claim.claimToken

end OutboxEvents

/-! ## Operations -/

/-- What a transaction on the outbox runs in: the registry it reads the tenant's status from, the
dispatch policy and the database's transaction timestamp. -/
structure OutboxSession where
  registry : Tables
  config : OutboxDispatchConfig
  now : Instant

/-- The errors of the outbox operations. -/
inductive OutboxError
  | externalEffectNotStarted (eventId : Uuid)
  | overflow
  deriving DecidableEq

structure ClaimedEvent where
  id : Uuid
  tenantId : Uuid
  eventType : String
  claimToken : Uuid
  attempts : ℕ
  correlationId : Option String
  deriving DecidableEq

structure EventExecution where
  id : Uuid
  tenantId : Uuid
  eventType : String
  correlationId : Option String
  attempts : ℕ
  deriving DecidableEq

def crashAfterStartError : String := "CrashAfterStart: outcome unknown; not retried automatically"

def outcomeUnknownPrefix : String := "OutcomeUnknown: "

def replayHint : String :=
  "Check the destination, then replay (saas-os-operator replay-outbox-events)."

namespace Tables

def listOpenTenantIds (db : Tables) : List Uuid :=
  ((db.tenants.filter fun row => !row.status.isClosed).map Tenant.id).insertionSort (· ≤ ·)

end Tables

/-! ### Claiming -/

namespace DispatchState

/-- Is the row without a further attempt, because its claim committed a marker or because no
attempts are left?  The reason is what the dead letter records. -/
def reclaimRefusal (state : DispatchState) (config : OutboxDispatchConfig) :
    Option (Option String) :=
  if state.markedBy state.claimToken then
    some (some crashAfterStartError)
  else if config.maxAttempts ≤ state.attempts then
    some (if state.claimToken.isSome then
      some s!"LeaseExpired: no outcome recorded for final attempt {state.attempts}"
    else none)
  else
    none

def recordLostLease (state : DispatchState) : DispatchState :=
  if state.claimToken.isSome then
    state.recordError (.text s!"LeaseExpired: no outcome recorded for attempt {state.attempts}")
  else
    state

def claimedBy (state : DispatchState) (claimToken : Uuid) (leaseExpiry : Instant)
    (hpending : state.status = .pending) : DispatchState :=
  { state.recordLostLease with
    status := state.status
    attempts := state.attempts + 1
    claimToken := some claimToken
    nextAttemptAt := leaseExpiry
    claim_only_pending := fun _ => hpending }

end DispatchState

/-- The claim transaction while it visits the rows: the table and the claims made so far. -/
structure ClaimLoop where
  events : OutboxEvents
  claimed : List ClaimedEvent

namespace ClaimLoop

def visit (session : OutboxSession) (uuid4 : ℕ → Uuid) (loop : ClaimLoop) (row : OutboxEvent) :
    ClaimLoop :=
  if hpending : row.state.status = .pending then
    match row.state.reclaimRefusal session.config with
    | some reason =>
      { loop with
        events := loop.events.store session.now row.id (row.state.deadLetter reason) }
    | none =>
      let claimToken := uuid4 loop.claimed.length
      let state := row.state.claimedBy claimToken (session.now + session.config.lease) hpending
      { events := loop.events.store session.now row.id state
        claimed := loop.claimed ++
          [{  id := row.id
              tenantId := row.tenantId
              eventType := row.eventType
              claimToken := claimToken
              attempts := state.attempts
              correlationId := row.correlationId }] }
  else
    loop

def dueRows (session : OutboxSession) (locked : List Uuid) (events : OutboxEvents) (tenantId : Uuid)
    (limit : ℕ) : List OutboxEvent :=
  ((events.rows.filter fun row =>
    row.tenantId == tenantId && row.state.status == .pending &&
      decide (row.state.nextAttemptAt ≤ session.now) && !locked.contains row.id).insertionSort
    fun a b => a.state.nextAttemptAt < b.state.nextAttemptAt ∨
      (a.state.nextAttemptAt = b.state.nextAttemptAt ∧ a.id ≤ b.id)).take limit

def visitTenant (session : OutboxSession) (uuid4 : ℕ → Uuid) (locked : List Uuid) (loop : ClaimLoop)
    (tenantId : Uuid) : ClaimLoop :=
  let remaining := session.config.batchSize - loop.claimed.length
  -- a full batch stays full, so the tenants that follow are passed over too
  if remaining = 0 then loop
  else
    (dueRows session locked loop.events tenantId
      (min session.config.perTenantLimit remaining)).foldl (visit session uuid4) loop

end ClaimLoop

def OutboxSession.tenantsFrom (session : OutboxSession) (random : ℚ) : List Uuid :=
  let tenantIds := session.registry.listOpenTenantIds
  let start := (random * tenantIds.length).floor.toNat % tenantIds.length
  tenantIds.drop start ++ tenantIds.take start

/-- Claim due events, at most a batch and at most so many of each tenant, across the open tenants.
Rows that another transaction holds (`locked`) are skipped. -/
def claimDueEvents (session : OutboxSession) (random : ℚ) (uuid4 : ℕ → Uuid) (locked : List Uuid)
    (events : OutboxEvents) : ClaimLoop :=
  (session.tenantsFrom random).foldl (ClaimLoop.visitTenant session uuid4 locked)
    { events := events, claimed := [] }

/-! ### Executing -/

namespace OutboxEvents

/-- Apply a transition to the row that the claim still owns, and report on it; report `stale` if it
owns none. -/
def onClaimedRow {α : Type} (events : OutboxEvents) (now : Instant) (claim : EventClaim) (stale : α)
    (transition : OutboxEvent → DispatchState × α) : OutboxEvents × α :=
  match events.lockedClaimedRow claim with
  | none => (events, stale)
  | some row => (events.store now claim.eventId (transition row).1, (transition row).2)

end OutboxEvents

namespace DispatchState

/-- Did the idempotency window of an ambiguous outcome close before this retry?  The first attempt
after a replay is the operator's decision and runs in any case. -/
def retryWindowClosed (state : DispatchState) (now : Instant) : Bool :=
  decide (1 < state.attempts) &&
    ((retryDeadline state.lastError).any fun deadline => decide (deadline ≤ now))

def retryWindowClosedError : String :=
  "OutcomeUnknown: the idempotency window closed before the retry ran; " ++
    "not retried automatically. " ++ replayHint

def leased (state : DispatchState) (session : OutboxSession) : DispatchState :=
  { state with nextAttemptAt := session.now + session.config.lease }

def startedBy (state : DispatchState) (session : OutboxSession) (claimToken : Uuid) :
    DispatchState :=
  { state.leased session with
    started := some { externalStartedAt := session.now, externalStartedClaim := claimToken } }

def completed (state : DispatchState) (session : OutboxSession) : DispatchState :=
  { state.unclaimed.clearMarker with
    status := .published
    publishedAt := some session.now
    claim_only_pending := claim_only_pending_none }

def released (state : DispatchState) (session : OutboxSession) (error : Failure) : DispatchState :=
  { (state.unclaimed.recordError error).clearMarker with
    attempts := state.attempts - 1
    nextAttemptAt := session.now + session.config.enqueueRetryDelay }

/-- The failure of an attempt that no marker holds back: a retry after the backoff or the hint,
whichever is longer, or a dead letter. -/
def ordinaryFailure (state : DispatchState) (session : OutboxSession) (error : Failure)
    (terminal : Bool) (retryAfter : Option RetryHint) (random : ℚ) : DispatchState :=
  let recorded := state.recordError error
  if terminal || decide (session.config.maxAttempts ≤ state.attempts) then
    recorded.deadLetter none
  else
    let backoff := retryDelay state.attempts session.config random
    let delay := match retryAfter with
      | none => backoff
      | some hint => max backoff (retryHintDelay hint session.config)
    recorded.retryAt (session.now + delay)

def failed (state : DispatchState) (session : OutboxSession) (claimToken : Uuid) (error : Failure)
    (terminal : Bool) (retryAfter : Option RetryHint) (random : ℚ) : DispatchState :=
  if state.markedBy (some claimToken) then
    let described := describeError error
    state.deadLetter (some (if terminal then described else outcomeUnknownPrefix ++ described))
  else
    state.ordinaryFailure session error terminal retryAfter random

/-- The failure of an attempt whose consumer attests that nothing was sent: a marked one is retried
only if the error is such an attestation and not permanent. -/
def notSent (state : DispatchState) (session : OutboxSession) (claimToken : Uuid)
    (error : PyException) (blockException : Option PyException) (retryAfter : Option RetryHint)
    (random : ℚ) : DispatchState :=
  let described := describeError (.exception error)
  if state.markedBy (some claimToken) && error.raised.permanent then
    state.deadLetter (some described)
  else if state.markedBy (some claimToken) && !isAttestedNotSent error blockException then
    state.deadLetter (some (outcomeUnknownPrefix ++ described))
  else
    state.ordinaryFailure session (.exception error) false retryAfter random

end DispatchState

def OutboxEvent.execution (row : OutboxEvent) : EventExecution where
  id := row.id
  tenantId := row.tenantId
  eventType := row.eventType
  correlationId := row.correlationId
  attempts := row.state.attempts

/-- The execution that begins while the tenant is open: the lease is renewed, unless the retry
window has closed. -/
def OutboxEvent.begun (session : OutboxSession) (row : OutboxEvent) :
    DispatchState × Option EventExecution :=
  if row.state.retryWindowClosed session.now then
    (row.state.deadLetter (some DispatchState.retryWindowClosedError), none)
  else
    (row.state.leased session, some row.execution)

def beginEventExecution (session : OutboxSession) (claim : EventClaim) (events : OutboxEvents) :
    OutboxEvents × Option EventExecution :=
  match (session.registry.lockOpenTenant claim.tenantId).val with
  | .error _ => events.onClaimedRow session.now claim none fun row => (row.state.unclaimed, none)
  | .ok _ => events.onClaimedRow session.now claim none (OutboxEvent.begun session)

/-- Commit the started marker of the claim before its external request is sent, and renew the lease;
nothing is written when markers are switched off. -/
def markExternalEffectStarted (session : OutboxSession) (claim : EventClaim) (events : OutboxEvents) :
    Except OutboxError (OutboxEvents × Bool) :=
  if session.config.externalEffectMarkers then
    match (events.lockedClaimedRow claim).filter fun row =>
        decide (session.now < row.state.nextAttemptAt) &&
          row.state.externalStartedClaim != some claim.claimToken with
    | none => .error (.externalEffectNotStarted claim.eventId)
    | some row =>
      .ok (events.store session.now claim.eventId (row.state.startedBy session claim.claimToken),
        true)
  else
    .ok (events, false)

/-! ### Outcomes -/

def completeEvent (session : OutboxSession) (claim : EventClaim) (events : OutboxEvents) :
    OutboxEvents × Bool :=
  events.onClaimedRow session.now claim false fun row => (row.state.completed session, true)

def releaseClaim (session : OutboxSession) (claim : EventClaim) (error : Failure)
    (events : OutboxEvents) : OutboxEvents × Bool :=
  events.onClaimedRow session.now claim false fun row => (row.state.released session error, true)

def failEvent (session : OutboxSession) (claim : EventClaim) (error : Failure) (terminal : Bool)
    (retryAfter : Option RetryHint) (random : ℚ) (events : OutboxEvents) :
    OutboxEvents × Option EventStatus :=
  events.onClaimedRow session.now claim none fun row =>
    let state := row.state.failed session claim.claimToken error terminal retryAfter random
    (state, some state.status)

def recordConfirmedNotSent (session : OutboxSession) (claim : EventClaim) (error : PyException)
    (blockException : Option PyException) (retryAfter : Option RetryHint) (random : ℚ)
    (events : OutboxEvents) : OutboxEvents × Option EventStatus :=
  events.onClaimedRow session.now claim none fun row =>
    let state :=
      row.state.notSent session claim.claimToken error blockException retryAfter random
    (state, some state.status)

/-! ### Ambiguous outcomes -/

namespace OutboxEvent

def ambiguousDeadLetter (row : OutboxEvent) (error : AmbiguousOutcome) : DispatchState :=
  (row.state.recordError
    (.text (outcomeUnknown error ("not retried automatically. " ++ replayHint)))).deadLetter none

def ambiguousAtLeastOnce (session : OutboxSession) (error : AmbiguousOutcome) (random : ℚ)
    (row : OutboxEvent) : DispatchState :=
  let recorded := row.state.recordError
    (.text (outcomeUnknown error "retried: at-least-once delivery on a stable event id"))
  if row.state.attempts < session.config.maxAttempts then
    recorded.retryAt (session.now + retryDelay row.state.attempts session.config random)
  else
    recorded.deadLetter none

def ambiguousUntil (row : OutboxEvent) (error : AmbiguousOutcome) (deadline : Instant)
    (note : String) : DispatchState :=
  { row.state with
    lastError := some (withTag (outcomeUnknown error note) (some (deadlineTag deadline))) }

/-- The outcome under the policy that a repeated request is recognised for a while after the event
was recorded. -/
def ambiguousRetryWithin (session : OutboxSession) (error : AmbiguousOutcome) (retryWithin : ℤ)
    (random : ℚ) (row : OutboxEvent) : Except OutboxError DispatchState :=
  match PyDatetime.add row.createdAt retryWithin with
  | none => .error .overflow
  | some deadline =>
    if row.state.attempts < session.config.maxAttempts then
      let delay := retryDelay row.state.attempts session.config random
      match PyDatetime.add session.now delay with
      | none => .error .overflow
      | some retry =>
        if retry < deadline then
          .ok ((row.ambiguousUntil error deadline
            "retried with the same idempotency key").retryAt (session.now + delay))
        else
          .ok ((row.ambiguousUntil error deadline
            ("idempotency window closed; not retried automatically. " ++
              replayHint)).deadLetter none)
    else
      .ok ((row.ambiguousUntil error deadline
        ("attempts exhausted; not retried automatically. " ++ replayHint)).deadLetter none)

/-- The outcome of an attempt whose effect is not known. -/
def ambiguousOutcome (session : OutboxSession) (claimToken : Uuid) (error : AmbiguousOutcome)
    (random : ℚ) (row : OutboxEvent) : Except OutboxError DispatchState :=
  if row.state.markedBy (some claimToken) && !error.atLeastOnce then
    .ok (row.ambiguousDeadLetter error)
  else if error.atLeastOnce then
    .ok (row.ambiguousAtLeastOnce session error random)
  else
    match error.retryWithin with
    | some retryWithin => row.ambiguousRetryWithin session error retryWithin random
    | none => .ok (row.ambiguousDeadLetter error)

end OutboxEvent

def recordAmbiguousOutcome (session : OutboxSession) (claim : EventClaim) (error : AmbiguousOutcome)
    (random : ℚ) (events : OutboxEvents) :
    Except OutboxError (OutboxEvents × Option EventStatus) :=
  match events.lockedClaimedRow claim with
  | none => .ok (events, none)
  | some row =>
    match row.ambiguousOutcome session claim.claimToken error random with
    | .error error => .error error
    | .ok state => .ok (events.store session.now claim.eventId state, some state.status)

end SaasOs
