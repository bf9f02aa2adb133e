import SaasOs.Outbox.Dispatch
import SaasOs.Platform.Authorization

/-!
# Replaying dead-lettered events

The one way back for a dead-lettered event: a platform operator names a tenant and either the events
or a time since which they were dead-lettered, and each of them becomes pending again, with no
attempts made, no claim and no marker.  Without `apply` the matching events are only counted.
-/

namespace SaasOs

def maxReplayEvents : ℕ := 1000

structure OutboxReplayResult where
  tenantId : Uuid
  matched : ℕ
  replayed : ℕ
  applied : Bool
  deriving DecidableEq

/-- The dead letters an operator selects: by their ids, or by the time of their last change. -/
inductive ReplaySelection
  | eventIds (ids : List Uuid)
  | deadLetteredSince (since : Instant)

def validatedSelection (eventIds : Option (List Uuid)) (deadLetteredSince : Option Instant) :
    Result ReplaySelection :=
  match eventIds, deadLetteredSince with
  | none, none | some _, some _ =>
    .error (.invalidPlatformRequest "give exactly one of event_ids and dead_lettered_since.")
  | some eventIds, none =>
    let ids := eventIds.eraseDups
    if ids.isEmpty then
      .error (.invalidPlatformRequest "event_ids must not be empty.")
    else if maxReplayEvents < ids.length then
      .error (.invalidPlatformRequest "at most 1000 event ids.")
    else
      .ok (.eventIds ids)
  | none, some since => .ok (.deadLetteredSince since)

def ReplaySelection.selects : ReplaySelection → OutboxEvent → Bool
  | eventIds ids, row => ids.contains row.id
  | deadLetteredSince since, row => decide (since ≤ row.state.updatedAt)

def DispatchState.replayed (state : DispatchState) (now : Instant) : DispatchState :=
  { state with
    status := .pending
    attempts := 0
    nextAttemptAt := now
    claimToken := none
    started := none
    claim_only_pending := claim_only_pending_none }

namespace OutboxEvents

def deadLetters (events : OutboxEvents) (tenantId : Uuid) (selection : ReplaySelection) :
    List OutboxEvent :=
  ((events.rows.filter fun row =>
    row.tenantId == tenantId && row.state.status == .deadLettered &&
      selection.selects row).insertionSort fun a b => a.id ≤ b.id).take (maxReplayEvents + 1)

def replayRow (now : Instant) (events : OutboxEvents) (row : OutboxEvent) : OutboxEvents :=
  events.store now row.id (row.state.replayed now)

end OutboxEvents

def requireReplayCaller : Caller → Result Unit
  | .user _ => .ok ()
  | .serviceAccount _ _ | .system _ => .error (.callerType PlatformOperation.outboxReplay.key)

/-- Count, or with `apply` replay, the selected dead letters of a tenant. -/
def replayDeadLetteredEvents (session : OutboxSession) (tenantId : Uuid) (caller : Caller)
    (reason : String) (eventIds : Option (List Uuid)) (deadLetteredSince : Option Instant)
    (apply : Bool) (events : OutboxEvents) : Result (OutboxEvents × OutboxReplayResult) := do
  let selection ← validatedSelection eventIds deadLetteredSince
  let _ ← validateReason reason
  (session.registry.authorizePlatformCaller caller .outboxReplay).val
  requireReplayCaller caller
  let _ ← (session.registry.lockOpenTenant tenantId).val
  let rows := events.deadLetters tenantId selection
  require (decide (rows.length ≤ maxReplayEvents))
    (.invalidPlatformRequest "the selection matches more than 1000 events; narrow it.")
  if apply then
    return (rows.foldl (OutboxEvents.replayRow session.now) events,
      { tenantId := tenantId, matched := rows.length, replayed := rows.length, applied := true })
  else
    return (events,
      { tenantId := tenantId, matched := rows.length, replayed := 0, applied := false })

end SaasOs
