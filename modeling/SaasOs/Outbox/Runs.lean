import SaasOs.Outbox.Replay
import Mathlib.Data.List.Forall2

/-!
# Runs of the outbox

Any number of dispatchers, workers and operators act on one table.  A step is one operation in its
own session; the sessions are arbitrary, so that a tenant may be closed, the policy changed and the
clock moved between any two steps.  A run is a list of steps (`OutboxSystem.run`).
-/

namespace SaasOs

open Rows

/-! ## Steps -/

/-- The operations on the outbox, with their arguments. -/
inductive OutboxOp
  | claimDue (random : ℚ) (uuid4 : ℕ → Uuid) (locked : List Uuid)
  | beginExecution (claim : EventClaim)
  | markStarted (claim : EventClaim)
  | complete (claim : EventClaim)
  | fail (claim : EventClaim) (error : Failure) (terminal : Bool) (retryAfter : Option RetryHint)
      (random : ℚ)
  | confirmedNotSent (claim : EventClaim) (error : PyException)
      (blockException : Option PyException) (retryAfter : Option RetryHint) (random : ℚ)
  | ambiguous (claim : EventClaim) (error : AmbiguousOutcome) (random : ℚ)
  | release (claim : EventClaim) (error : Failure)
  | replay (tenantId : Uuid) (caller : Caller) (reason : String) (eventIds : Option (List Uuid))
      (deadLetteredSince : Option Instant) (apply : Bool)

/-- What an operation returns or raises. -/
inductive OutboxReport
  | claimed (claims : List ClaimedEvent)
  | execution (execution : Option EventExecution)
  | done (done : Bool)
  | status (status : Option EventStatus)
  | replayed (result : OutboxReplayResult)
  | refused (error : ServiceError)
  | raised (error : OutboxError)
  deriving DecidableEq

structure OutboxStep where
  session : OutboxSession
  op : OutboxOp

/-- The table after an operation that may raise, and what it reports; an operation that raises is
rolled back. -/
def OutboxEvents.orElse {ε α : Type} (events : OutboxEvents) (raised : ε → OutboxReport)
    (returned : α → OutboxReport) : Except ε (OutboxEvents × α) → OutboxEvents × OutboxReport
  | .error error => (events, raised error)
  | .ok (events', value) => (events', returned value)

def OutboxStep.perform (step : OutboxStep) (events : OutboxEvents) : OutboxEvents × OutboxReport :=
  match step.op with
  | .claimDue random uuid4 locked =>
    let loop := claimDueEvents step.session random uuid4 locked events
    (loop.events, .claimed loop.claimed)
  | .beginExecution claim =>
    (beginEventExecution step.session claim events).map id .execution
  | .markStarted claim =>
    events.orElse .raised .done (markExternalEffectStarted step.session claim events)
  | .complete claim => (completeEvent step.session claim events).map id .done
  | .fail claim error terminal retryAfter random =>
    (failEvent step.session claim error terminal retryAfter random events).map id .status
  | .confirmedNotSent claim error blockException retryAfter random =>
    (recordConfirmedNotSent step.session claim error blockException retryAfter random events).map id
      .status
  | .ambiguous claim error random =>
    events.orElse .raised .status (recordAmbiguousOutcome step.session claim error random events)
  | .release claim error => (releaseClaim step.session claim error events).map id .done
  | .replay tenantId caller reason eventIds deadLetteredSince apply =>
    events.orElse .refused .replayed
      (replayDeadLetteredEvents step.session tenantId caller reason eventIds deadLetteredSince apply
        events)

def OutboxReport.claimTokens : OutboxReport → List Uuid
  | claimed claims => claims.map ClaimedEvent.claimToken
  | _ => []

/-- The table, and the claim tokens that were ever issued. -/
structure OutboxSystem where
  events : OutboxEvents
  issued : List Uuid

namespace OutboxSystem

def step (system : OutboxSystem) (step : OutboxStep) : OutboxSystem where
  events := (step.perform system.events).1
  issued := system.issued ++ (step.perform system.events).2.claimTokens

def run (system : OutboxSystem) (steps : List OutboxStep) : OutboxSystem :=
  steps.foldl OutboxSystem.step system

variable (system : OutboxSystem)

@[simp] lemma run_nil : system.run [] = system := rfl

@[simp] lemma run_cons (step : OutboxStep) (steps : List OutboxStep) :
    system.run (step :: steps) = (system.step step).run steps := rfl

lemma run_append (before after : List OutboxStep) :
    system.run (before ++ after) = (system.run before).run after :=
  List.foldl_append

end OutboxSystem

/-! ## Ownership of a row -/

/-- The claim owns the row: it names the row, and the row is pending and carries its token. -/
structure OutboxEvent.OwnedBy (row : OutboxEvent) (claim : EventClaim) : Prop where
  id_eq : row.id = claim.eventId
  tenantId_eq : row.tenantId = claim.tenantId
  pending : row.state.status = .pending
  token : row.state.claimToken = some claim.claimToken

namespace OutboxEvents

variable {events : OutboxEvents} {claim : EventClaim}

lemma lockedClaimedRow_eq_some {row : OutboxEvent} :
    events.lockedClaimedRow claim = some row ↔ row ∈ events.rows ∧ row.OwnedBy claim := by
  have hone : AtMostOne events.rows fun row =>
      row.id == claim.eventId && row.tenantId == claim.tenantId :=
    events.unique_id.atMostOne (k := claim.eventId) fun r hr => by simp_all
  unfold lockedClaimedRow event?
  rw [Option.filter_eq_some_iff, find?_eq_some_iff hone]
  simp only [Bool.and_eq_true, beq_iff_eq]
  constructor
  · rintro ⟨⟨hmem, hid, htenant⟩, hpending, htoken⟩
    exact ⟨hmem, hid, htenant, hpending, htoken⟩
  · rintro ⟨hmem, hid, htenant, hpending, htoken⟩
    exact ⟨⟨hmem, hid, htenant⟩, hpending, htoken⟩

lemma lockedClaimedRow_eq_none :
    events.lockedClaimedRow claim = none ↔ ∀ row ∈ events.rows, ¬ row.OwnedBy claim := by
  rw [Option.eq_none_iff_forall_not_mem]
  constructor
  · intro h row hrow howned
    exact h row (lockedClaimedRow_eq_some.mpr ⟨hrow, howned⟩)
  · intro h row hrow
    have howned := lockedClaimedRow_eq_some.mp hrow
    exact h row howned.1 howned.2

end OutboxEvents

/-! ## What a step can do to a row -/

/-- The transitions of a row in a step, with what each of them requires of the row. -/
inductive OutboxStep.Transition (step : OutboxStep) (row : OutboxEvent) : DispatchState → Prop
  | reclaimRefused {random : ℚ} {uuid4 : ℕ → Uuid} {locked : List Uuid} {reason : Option String}
      (hop : step.op = .claimDue random uuid4 locked) (hpending : row.state.status = .pending)
      (hrefusal : row.state.reclaimRefusal step.session.config = some reason) :
      Transition step row (row.state.deadLetter reason)
  | claimed {random : ℚ} {uuid4 : ℕ → Uuid} {locked : List Uuid} (n : ℕ)
      (hop : step.op = .claimDue random uuid4 locked) (hpending : row.state.status = .pending)
      (hrefusal : row.state.reclaimRefusal step.session.config = none) :
      Transition step row
        (row.state.claimedBy (uuid4 n) (step.session.now + step.session.config.lease) hpending)
  | closed {claim : EventClaim} (hop : step.op = .beginExecution claim) (howned : row.OwnedBy claim)
      (hclosed : (step.session.registry.lockOpenTenant claim.tenantId).val.isOk = false) :
      Transition step row row.state.unclaimed
  | begun {claim : EventClaim} (hop : step.op = .beginExecution claim)
      (howned : row.OwnedBy claim) : Transition step row (row.begun step.session).1
  | started {claim : EventClaim} (hop : step.op = .markStarted claim) (howned : row.OwnedBy claim)
      (hunmarked : row.state.externalStartedClaim ≠ some claim.claimToken) :
      Transition step row (row.state.startedBy step.session claim.claimToken)
  | completed {claim : EventClaim} (hop : step.op = .complete claim) (howned : row.OwnedBy claim) :
      Transition step row (row.state.completed step.session)
  | failed {claim : EventClaim} {error : Failure} {terminal : Bool} {retryAfter : Option RetryHint}
      {random : ℚ} (hop : step.op = .fail claim error terminal retryAfter random)
      (howned : row.OwnedBy claim) :
      Transition step row
        (row.state.failed step.session claim.claimToken error terminal retryAfter random)
  | notSent {claim : EventClaim} {error : PyException} {blockException : Option PyException}
      {retryAfter : Option RetryHint} {random : ℚ}
      (hop : step.op = .confirmedNotSent claim error blockException retryAfter random)
      (howned : row.OwnedBy claim) :
      Transition step row
        (row.state.notSent step.session claim.claimToken error blockException retryAfter random)
  | ambiguous {claim : EventClaim} {error : AmbiguousOutcome} {random : ℚ} {state : DispatchState}
      (hop : step.op = .ambiguous claim error random) (howned : row.OwnedBy claim)
      (hstate : row.ambiguousOutcome step.session claim.claimToken error random = .ok state) :
      Transition step row state
  | released {claim : EventClaim} {error : Failure} (hop : step.op = .release claim error)
      (howned : row.OwnedBy claim) : Transition step row (row.state.released step.session error)
  | replayed {tenantId : Uuid} {caller : Caller} {reason : String} {eventIds : Option (List Uuid)}
      {deadLetteredSince : Option Instant}
      (hop : step.op = .replay tenantId caller reason eventIds deadLetteredSince true)
      (hdead : row.state.status = .deadLettered) :
      Transition step row (row.state.replayed step.session.now)

def OutboxStep.Moves (step : OutboxStep) (row row' : OutboxEvent) : Prop :=
  ∃ state, step.Transition row state ∧ row' = row.written step.session.now state

def OutboxStep.Moved (step : OutboxStep) (events events' : OutboxEvents) : Prop :=
  List.Forall₂ (Relation.ReflTransGen step.Moves) events.rows events'.rows

namespace OutboxStep

variable {step : OutboxStep} {events events' events'' : OutboxEvents}

lemma Moved.refl (step : OutboxStep) (events : OutboxEvents) : step.Moved events events :=
  List.forall₂_same.mpr fun _ _ => .refl

lemma Moved.trans (h : step.Moved events events') (h' : step.Moved events' events'') :
    step.Moved events events'' := by
  unfold Moved at h h' ⊢
  rw [List.forall₂_iff_get] at h h' ⊢
  obtain ⟨hlen, hrows⟩ := h
  obtain ⟨hlen', hrows'⟩ := h'
  refine ⟨hlen.trans hlen', fun i hi hi'' => ?_⟩
  have hi' : i < events'.rows.length := hlen ▸ hi
  exact (hrows i hi hi').trans (hrows' i hi' hi'')

lemma Moved.store {row : OutboxEvent} {state : DispatchState} (hrow : row ∈ events.rows)
    (htransition : step.Transition row state) :
    step.Moved events (events.store step.session.now row.id state) := by
  unfold Moved OutboxEvents.store
  rw [List.forall₂_map_right_iff, List.forall₂_same]
  intro other hother
  unfold OutboxEvent.stored
  split
  · next hid =>
    -- ids are unique, so the row that is written is the row itself
    have heq : other = row := events.unique_id.eq_of_key_eq hother hrow hid
    subst heq
    exact .single ⟨state, htransition, rfl⟩
  · exact .refl

lemma Moved.exists_of_mem (h : step.Moved events events') {row' : OutboxEvent}
    (hrow' : row' ∈ events'.rows) :
    ∃ row ∈ events.rows, Relation.ReflTransGen step.Moves row row' := by
  obtain ⟨i, hi, rfl⟩ := List.getElem_of_mem hrow'
  obtain ⟨hlen, hrows⟩ := List.forall₂_iff_get.mp h
  have hi' : i < events.rows.length := hlen ▸ hi
  exact ⟨events.rows[i], List.getElem_mem hi', hrows i hi' hi⟩

lemma Moved.exists_mem (h : step.Moved events events') {row : OutboxEvent}
    (hrow : row ∈ events.rows) :
    ∃ row' ∈ events'.rows, Relation.ReflTransGen step.Moves row row' := by
  obtain ⟨i, hi, rfl⟩ := List.getElem_of_mem hrow
  obtain ⟨hlen, hrows⟩ := List.forall₂_iff_get.mp h
  have hi' : i < events'.rows.length := hlen ▸ hi
  exact ⟨events'.rows[i], List.getElem_mem hi', hrows i hi hi'⟩

end OutboxStep

/-! ## A step does nothing else -/

namespace OutboxEvents

variable {events : OutboxEvents}

variable {row : OutboxEvent}

lemma mem_store_of_ne (hrow : row ∈ events.rows) {now : Instant} {eventId : Uuid}
    (hne : row.id ≠ eventId) (state : DispatchState) :
    row ∈ (events.store now eventId state).rows := by
  refine List.mem_map.mpr ⟨row, hrow, ?_⟩
  unfold OutboxEvent.stored
  rw [if_neg hne]

lemma written_mem_store (hrow : row ∈ events.rows) (now : Instant) (state : DispatchState) :
    row.written now state ∈ (events.store now row.id state).rows := by
  refine List.mem_map.mpr ⟨row, hrow, ?_⟩
  unfold OutboxEvent.stored
  rw [if_pos rfl]

end OutboxEvents

namespace ClaimLoop

variable {session : OutboxSession} {uuid4 : ℕ → Uuid} {locked : List Uuid}

lemma dueRows_spec (events : OutboxEvents) (tenantId : Uuid) (limit : ℕ) :
    UniqueOn (dueRows session locked events tenantId limit) OutboxEvent.id ∧
      ∀ row ∈ dueRows session locked events tenantId limit,
        row ∈ events.rows ∧ row.state.status = .pending := by
  unfold dueRows
  refine ⟨events.unique_id.selected _ _ limit, fun row hrow => ?_⟩
  obtain ⟨hmem, hp⟩ := mem_of_mem_selected hrow
  simp only [Bool.and_eq_true, beq_iff_eq] at hp
  exact ⟨hmem, hp.1.1.2⟩

lemma mem_visit_of_ne {loop : ClaimLoop} {row other : OutboxEvent}
    (hother : other ∈ loop.events.rows) (hne : other.id ≠ row.id) :
    other ∈ (loop.visit session uuid4 row).events.rows := by
  unfold visit
  split
  · split
    · exact OutboxEvents.mem_store_of_ne hother hne _
    · exact OutboxEvents.mem_store_of_ne hother hne _
  · exact hother

/-- The rule for the claim transaction: what holds at its start and is kept by each visit of a
pending row holds at its end. -/
lemma claimDueEvents_induction {P : ClaimLoop → Prop} {random : ℚ} {events : OutboxEvents}
    (hvisit : ∀ loop row, row ∈ loop.events.rows → row.state.status = .pending → P loop →
      P (loop.visit session uuid4 row))
    (hstart : P { events := events, claimed := [] }) :
    P (claimDueEvents session random uuid4 locked events) := by
  unfold claimDueEvents
  refine List.foldlRecOn _ _ hstart fun loop hloop tenantId _ => ?_
  unfold visitTenant
  dsimp only
  split
  · exact hloop
  · obtain ⟨hunique, hrows⟩ := dueRows_spec loop.events tenantId _
    exact foldl_selected (fun loop => loop.events.rows) (visit session uuid4)
      (fun _ _ _ hother hne => mem_visit_of_ne hother hne) hvisit hunique hrows hloop

end ClaimLoop

namespace OutboxStep

variable {step : OutboxStep}

variable {random : ℚ}

lemma moved_visit {uuid4 : ℕ → Uuid} {locked : List Uuid}
    (hop : step.op = .claimDue random uuid4 locked) {loop : ClaimLoop} {row : OutboxEvent}
    (hrow : row ∈ loop.events.rows) (hpending : row.state.status = .pending) :
    step.Moved loop.events (loop.visit step.session uuid4 row).events := by
  unfold ClaimLoop.visit
  rw [dif_pos hpending]
  split
  · next reason hrefusal => exact .store hrow (.reclaimRefused hop hpending hrefusal)
  · next hrefusal => exact .store hrow (.claimed _ hop hpending hrefusal)

variable {events : OutboxEvents} {claim : EventClaim}

lemma moved_onClaimedRow {α : Type} {stale : α} {transition : OutboxEvent → DispatchState × α}
    (h : ∀ row, row.OwnedBy claim → step.Transition row (transition row).1) :
    step.Moved events (events.onClaimedRow step.session.now claim stale transition).1 := by
  unfold OutboxEvents.onClaimedRow
  split
  · exact .refl step events
  · next row hrow =>
    obtain ⟨hmem, howned⟩ := OutboxEvents.lockedClaimedRow_eq_some.mp hrow
    rw [← howned.id_eq]
    exact .store hmem (h row howned)

variable {tenantId : Uuid} {caller : Caller} {reason : String} {eventIds : Option (List Uuid)}
   {deadLetteredSince : Option Instant}

lemma moved_replay (hop : step.op = .replay tenantId caller reason eventIds deadLetteredSince true)
    (events : OutboxEvents) (selection : ReplaySelection) :
    step.Moved events ((events.deadLetters tenantId selection).foldl
      (OutboxEvents.replayRow step.session.now) events) := by
  have hrows : ∀ row ∈ events.deadLetters tenantId selection,
      row ∈ events.rows ∧ row.state.status = .deadLettered := by
    intro row hrow
    obtain ⟨hmem, hp⟩ := mem_of_mem_selected hrow
    simp only [Bool.and_eq_true, beq_iff_eq] at hp
    exact ⟨hmem, hp.1.2⟩
  refine foldl_selected OutboxEvents.rows (OutboxEvents.replayRow step.session.now)
    (fun _ _ _ hother hne => OutboxEvents.mem_store_of_ne hother hne _) (P := step.Moved events)
    (fun table row hrow hdead hmoved => ?_) (events.unique_id.selected _ _ _) hrows
    (.refl step events)
  exact hmoved.trans (.store hrow (.replayed hop hdead))

lemma moved_beginEventExecution (hop : step.op = .beginExecution claim) (events : OutboxEvents) :
    step.Moved events (beginEventExecution step.session claim events).1 := by
  unfold beginEventExecution
  split
  · next error hclosed =>
    exact moved_onClaimedRow fun row howned => .closed hop howned (by rw [hclosed]; rfl)
  · exact moved_onClaimedRow fun row howned => .begun hop howned

variable {events' : OutboxEvents}

lemma moved_markExternalEffectStarted (hop : step.op = .markStarted claim) {done : Bool}
    (h : markExternalEffectStarted step.session claim events = .ok (events', done)) :
    step.Moved events events' := by
  unfold markExternalEffectStarted at h
  split at h
  · split at h
    · cases h
    · next row hrow =>
      cases h
      obtain ⟨hlocked, hlive⟩ := Option.filter_eq_some_iff.mp hrow
      obtain ⟨hmem, howned⟩ := OutboxEvents.lockedClaimedRow_eq_some.mp hlocked
      have hunmarked : row.state.externalStartedClaim ≠ some claim.claimToken := by
        simp only [Bool.and_eq_true, bne_iff_ne] at hlive
        exact hlive.2
      rw [← howned.id_eq]
      exact .store hmem (.started hop howned hunmarked)
  · cases h
    exact .refl step events

lemma moved_recordAmbiguousOutcome {error : AmbiguousOutcome}
    (hop : step.op = .ambiguous claim error random) {status : Option EventStatus}
    (h : recordAmbiguousOutcome step.session claim error random events = .ok (events', status)) :
    step.Moved events events' := by
  unfold recordAmbiguousOutcome at h
  split at h
  · cases h
    exact .refl step events
  · next row hrow =>
    split at h
    · cases h
    · next state hstate =>
      cases h
      obtain ⟨hmem, howned⟩ := OutboxEvents.lockedClaimedRow_eq_some.mp hrow
      rw [← howned.id_eq]
      exact .store hmem (.ambiguous hop howned hstate)

lemma moved_replayDeadLetteredEvents {apply : Bool}
    (hop : step.op = .replay tenantId caller reason eventIds deadLetteredSince apply)
    {result : OutboxReplayResult}
    (h : replayDeadLetteredEvents step.session tenantId caller reason eventIds deadLetteredSince
      apply events = .ok (events', result)) :
    step.Moved events events' := by
  simp only [replayDeadLetteredEvents, bind_eq_ok] at h
  obtain ⟨selection, -, -, -, -, -, -, -, -, -, -, -, h⟩ := h
  cases apply with
  | false =>
    cases h
    exact .refl step events
  | true =>
    cases h
    exact moved_replay hop events selection

lemma moved_orElse {ε α : Type} {raised : ε → OutboxReport} {returned : α → OutboxReport}
    {result : Except ε (OutboxEvents × α)}
    (h : ∀ events' value, result = .ok (events', value) → step.Moved events events') :
    step.Moved events (events.orElse raised returned result).1 := by
  cases result with
  | error error => exact .refl step events
  | ok written => exact h written.1 written.2 rfl

theorem moved_perform (step : OutboxStep) (events : OutboxEvents) :
    step.Moved events (step.perform events).1 := by
  unfold perform
  cases hop : step.op with
  | claimDue random uuid4 locked =>
    exact ClaimLoop.claimDueEvents_induction (P := fun loop => step.Moved events loop.events)
      (fun loop row hrow hpending hmoved => hmoved.trans (moved_visit hop hrow hpending))
      (.refl step events)
  | beginExecution claim => exact moved_beginEventExecution hop events
  | markStarted claim =>
    exact moved_orElse fun events' done h => moved_markExternalEffectStarted hop h
  | complete claim => exact moved_onClaimedRow fun row howned => .completed hop howned
  | fail claim error terminal retryAfter random =>
    exact moved_onClaimedRow fun row howned => .failed hop howned
  | confirmedNotSent claim error blockException retryAfter random =>
    exact moved_onClaimedRow fun row howned => .notSent hop howned
  | ambiguous claim error random =>
    exact moved_orElse fun events' status h => moved_recordAmbiguousOutcome hop h
  | release claim error => exact moved_onClaimedRow fun row howned => .released hop howned
  | replay tenantId caller reason eventIds deadLetteredSince apply =>
    exact moved_orElse fun events' result h => moved_replayDeadLetteredEvents hop h

end OutboxStep

end SaasOs
