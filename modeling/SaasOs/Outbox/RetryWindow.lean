import SaasOs.Outbox.Ownership

/-!
# The idempotency window of an ambiguous outcome

A destination that recognises repeated requests does so for a while.  When an attempt whose outcome
is not known is retried on this ground, the end of the window is stored in the error text of the
event, and no later attempt is begun after it, unless an operator replayed the event.
-/

namespace SaasOs

open Rows

/-! ## Rewriting stored errors -/

def DispatchState.errorStartsWith (state : DispatchState) (start : String) : Bool :=
  state.lastError.any fun text => start.toList.isPrefixOf text.toList

namespace OutboxEvent

/-- The row with the replacement text if its stored error starts with the given one. -/
def rewritten (now : Instant) (start replacement : String) (row : OutboxEvent) : OutboxEvent :=
  let lastError := some (describeError (.text replacement))
  if row.state.errorStartsWith start && decide (row.state.lastError ≠ lastError) then
    row.written now { row.state with lastError := lastError }
  else
    row

variable (now : Instant)

@[simp] lemma id_rewritten (start replacement : String) (row : OutboxEvent) :
    (row.rewritten now start replacement).id = row.id := by
  unfold rewritten
  dsimp only
  split <;> rfl

def rewrittenIn (now : Instant) (tenantId : Uuid) (start replacement : String) (row : OutboxEvent) :
    OutboxEvent :=
  if row.tenantId = tenantId then row.rewritten now start replacement else row

@[simp] lemma id_rewrittenIn (tenantId : Uuid) (start replacement : String) (row : OutboxEvent) :
    (row.rewrittenIn now tenantId start replacement).id = row.id := by
  unfold rewrittenIn
  split
  · exact id_rewritten now start replacement row
  · rfl

end OutboxEvent

namespace OutboxEvents

def rewriteErrors (events : OutboxEvents) (now : Instant) (tenantId : Uuid)
    (start replacement : String) : OutboxEvents where
  rows := events.rows.map (OutboxEvent.rewrittenIn now tenantId start replacement)
  unique_id := by
    have hids : OutboxEvent.id ∘ OutboxEvent.rewrittenIn now tenantId start replacement =
        OutboxEvent.id :=
      funext fun row => OutboxEvent.id_rewrittenIn now tenantId start replacement row
    unfold UniqueOn
    rw [List.map_map, hids]
    exact events.unique_id

def matchingErrors (events : OutboxEvents) (tenantId : Uuid) (start : String) : ℕ :=
  events.rows.countP fun row => row.tenantId == tenantId && row.state.errorStartsWith start

end OutboxEvents

/-- The transaction of one tenant in the rewriting of stored errors: for each text and its
replacement in turn, count, and with `apply` rewrite, the errors that start with the text. -/
def rewriteTenantErrors (now : Instant) (tenantId : Uuid) (replacements : List (String × String))
    (apply : Bool) (events : OutboxEvents) : OutboxEvents × ℕ :=
  replacements.foldl (fun (events, matched) (start, replacement) =>
    (if apply then events.rewriteErrors now tenantId start replacement else events,
      matched + events.matchingErrors tenantId start)) (events, 0)

/-! ## Runs with rewriting -/

/-- A step of the delivery, or the rewriting of one tenant's stored errors. -/
inductive DeliveryStep
  | outbox (step : OutboxStep)
  | rewrite (now : Instant) (tenantId : Uuid) (replacements : List (String × String))
      (apply : Bool)

def DeliveryStep.after (events : OutboxEvents) : DeliveryStep → OutboxEvents
  | outbox step => (step.perform events).1
  | rewrite now tenantId replacements apply =>
    (rewriteTenantErrors now tenantId replacements apply events).1

namespace OutboxEvents

def deliver (events : OutboxEvents) (steps : List DeliveryStep) : OutboxEvents :=
  steps.foldl DeliveryStep.after events

variable (events : OutboxEvents)

lemma deliver_append (before after : List DeliveryStep) :
    events.deliver (before ++ after) = (events.deliver before).deliver after :=
  List.foldl_append

end OutboxEvents

/-! ## The window -/

/-- The step records the end of a window for the event: the outcome of an attempt that was not
marked is ambiguous, and repeated requests are recognised for the given time. -/
def OutboxStep.RecordsWindow (step : OutboxStep) (events : OutboxEvents) (eventId : Uuid)
    (window : ℤ) (status : EventStatus) : Prop :=
  ∃ claim error random, step.op = .ambiguous claim error random ∧ claim.eventId = eventId ∧
    error.retryWithin = some window ∧ (step.perform events).2 = .status (some status) ∧
    ∀ row ∈ events.rows, row.OwnedBy claim → row.state.markedBy (some claim.claimToken) = false

def OutboxStep.Replays (step : OutboxStep) (events : OutboxEvents) (eventId : Uuid) : Prop :=
  ∃ tenantId caller reason eventIds deadLetteredSince,
    step.op = .replay tenantId caller reason eventIds deadLetteredSince true ∧
      ∃ row ∈ events.rows, row.id = eventId ∧ row.state.status = .deadLettered ∧
        ∃ row' ∈ (step.perform events).1.rows, row'.id = eventId ∧ row'.state.status = .pending

def DeliveryStep.ErasesDeadline (step : DeliveryStep) (events : OutboxEvents) (eventId : Uuid) :
    Prop :=
  ∃ now tenantId replacements, step = .rewrite now tenantId replacements true ∧
    ∃ row ∈ events.rows, row.id = eventId ∧ row.tenantId = tenantId ∧
      (retryDeadline row.state.lastError).isSome = true ∧
      ∃ pair ∈ replacements, row.state.errorStartsWith pair.1 = true

namespace OutboxEvents

/-- No step of the run erases a deadline of the event. -/
def ErasesNoDeadline (events : OutboxEvents) (steps : List DeliveryStep) (eventId : Uuid) : Prop :=
  ∀ before step after, steps = before ++ step :: after →
    ¬ step.ErasesDeadline (events.deliver before) eventId

def RecordsAtMost (events : OutboxEvents) (steps : List DeliveryStep) (eventId : Uuid) (window : ℤ) :
    Prop :=
  ∀ before step after window' status, steps = before ++ .outbox step :: after →
    step.RecordsWindow (events.deliver before) eventId window' status → window' ≤ window

def Replayed (events : OutboxEvents) (steps : List DeliveryStep) (eventId : Uuid) : Prop :=
  ∃ before step after, steps = before ++ .outbox step :: after ∧
    step.Replays (events.deliver before) eventId

/-- No outcome of the event records a longer window than one that was accepted before. -/
def ProlongsNoWindow (events : OutboxEvents) (steps : List DeliveryStep) (eventId : Uuid) : Prop :=
  ∀ before accept between step after window window' status,
    steps = before ++ .outbox accept :: (between ++ .outbox step :: after) →
    accept.RecordsWindow (events.deliver before) eventId window .pending →
    step.RecordsWindow (events.deliver (before ++ .outbox accept :: between)) eventId window'
      status →
    window' ≤ window

/-- The window of the event is kept: once a retry was accepted with a deadline, the event is not
returned at or after the deadline, except as the first claimed attempt after a replay. -/
def WindowKept (events : OutboxEvents) (steps : List DeliveryStep) (eventId : Uuid) : Prop :=
  ∀ before accept between start after window,
    steps = before ++ .outbox accept :: (between ++ .outbox start :: after) →
    accept.RecordsWindow (events.deliver before) eventId window .pending →
    ∀ row ∈ events.rows, row.id = eventId →
    PyDatetime.truncated (row.createdAt + window) ≤ start.session.now →
    ∀ claim execution, start.op = .beginExecution claim → claim.eventId = eventId →
    (start.perform (events.deliver (before ++ .outbox accept :: between))).2 =
      .execution (some execution) →
    execution.attempts = 1 ∧
      (events.deliver (before ++ [.outbox accept])).Replayed between eventId

end OutboxEvents

/-! ## What the outcomes do to the error text -/

def CarriedOver (lastError lastError' : Option String) : Prop :=
  lastError' = lastError ∨ ∃ error, lastError' = some (recordError lastError error)

/-- The error text is carried over, and the attempts are kept. -/
structure DispatchState.CarriesOver (state state' : DispatchState) : Prop where
  lastError : CarriedOver state.lastError state'.lastError
  attempts : state'.attempts = state.attempts

namespace DispatchState

variable (state : DispatchState)

lemma carriesOver_deadLetter (reason : Option String) :
    state.CarriesOver (state.deadLetter reason) := by
  cases reason with
  | none => exact ⟨.inl rfl, rfl⟩
  | some reason => exact ⟨.inr ⟨.text reason, rfl⟩, rfl⟩

lemma carriesOver_ordinaryFailure (session : OutboxSession) (error : Failure) (terminal : Bool)
    (retryAfter : Option RetryHint) (random : ℚ) :
    state.CarriesOver (state.ordinaryFailure session error terminal retryAfter random) := by
  unfold ordinaryFailure
  dsimp only
  split
  · exact ⟨.inr ⟨error, rfl⟩, rfl⟩
  · exact ⟨.inr ⟨error, rfl⟩, rfl⟩

lemma carriesOver_failed (session : OutboxSession) (claimToken : Uuid) (error : Failure)
    (terminal : Bool) (retryAfter : Option RetryHint) (random : ℚ) :
    state.CarriesOver (state.failed session claimToken error terminal retryAfter random) := by
  unfold failed
  split
  · exact carriesOver_deadLetter state _
  · exact carriesOver_ordinaryFailure state session error terminal retryAfter random

lemma carriesOver_notSent (session : OutboxSession) (claimToken : Uuid) (error : PyException)
    (blockException : Option PyException) (retryAfter : Option RetryHint) (random : ℚ) :
    state.CarriesOver
      (state.notSent session claimToken error blockException retryAfter random) := by
  unfold notSent
  dsimp only
  split
  · exact carriesOver_deadLetter state _
  · split
    · exact carriesOver_deadLetter state _
    · exact carriesOver_ordinaryFailure state session _ false retryAfter random

end DispatchState

namespace OutboxEvent

variable {session : OutboxSession} {claimToken : Uuid} {error : AmbiguousOutcome} {random : ℚ}
  {row : OutboxEvent} {state : DispatchState}

variable {window : ℤ}

lemma ambiguousRetryWithin_spec
    (h : row.ambiguousRetryWithin session error window random = .ok state) :
    state.attempts = row.state.attempts ∧
      ∃ deadline text, PyDatetime.add row.createdAt window = some deadline ∧
        state.lastError = some (withTag text (some (deadlineTag deadline))) := by
  unfold ambiguousRetryWithin at h
  split at h
  · cases h
  · next deadline hdeadline =>
    split at h
    · dsimp only at h
      split at h
      · cases h
      · split at h
        · cases h
          exact ⟨rfl, deadline, _, hdeadline, rfl⟩
        · cases h
          exact ⟨rfl, deadline, _, hdeadline, rfl⟩
    · cases h
      exact ⟨rfl, deadline, _, hdeadline, rfl⟩

lemma ambiguousOutcome_of_retryWithin (hwindow : error.retryWithin = some window)
    (hunmarked : row.state.markedBy (some claimToken) = false) :
    row.ambiguousOutcome session claimToken error random =
      row.ambiguousRetryWithin session error window random := by
  have honce : error.atLeastOnce = false := error.one_policy (by simp [hwindow])
  simp [ambiguousOutcome, hunmarked, honce, hwindow]

lemma carriesOver_ambiguousOutcome
    (h : row.ambiguousOutcome session claimToken error random = .ok state)
    (hother : row.state.markedBy (some claimToken) = true ∨ error.retryWithin = none) :
    row.state.CarriesOver state := by
  unfold ambiguousOutcome at h
  split at h
  · cases h
    exact ⟨.inr ⟨_, rfl⟩, rfl⟩
  · next hpolicy =>
    split at h
    · cases h
      unfold ambiguousAtLeastOnce
      dsimp only
      split
      · exact ⟨.inr ⟨_, rfl⟩, rfl⟩
      · exact ⟨.inr ⟨_, rfl⟩, rfl⟩
    · next honce =>
      rcases hother with hmarked | hnone
      · simp [hmarked, honce] at hpolicy
      · rw [hnone] at h
        cases h
        exact ⟨.inr ⟨_, rfl⟩, rfl⟩

end OutboxEvent

variable {events : OutboxEvents}

lemma OutboxStep.perform_ambiguous_of_owned {step : OutboxStep} {claim : EventClaim}
    {error : AmbiguousOutcome} {random : ℚ} {row : OutboxEvent}
    (hop : step.op = .ambiguous claim error random) (hrow : row ∈ events.rows)
    (howned : row.OwnedBy claim) :
    (∃ raised, row.ambiguousOutcome step.session claim.claimToken error random = .error raised ∧
      step.perform events = (events, .raised raised)) ∨
    ∃ state, row.ambiguousOutcome step.session claim.claimToken error random = .ok state ∧
      step.perform events =
        (events.store step.session.now row.id state, .status (some state.status)) := by
  have hlocked := OutboxEvents.lockedClaimedRow_eq_some.mpr ⟨hrow, howned⟩
  cases hstate : row.ambiguousOutcome step.session claim.claimToken error random with
  | error raised =>
    refine .inl ⟨raised, rfl, ?_⟩
    simp [perform, hop, recordAmbiguousOutcome, hlocked, hstate, OutboxEvents.orElse]
  | ok state =>
    refine .inr ⟨state, rfl, ?_⟩
    simp [perform, hop, recordAmbiguousOutcome, hlocked, hstate, OutboxEvents.orElse, howned.id_eq]

namespace OutboxStep.Transition

variable {step : OutboxStep} {row : OutboxEvent} {state : DispatchState}

lemma errors (h : step.Transition row state) :
    row.state.CarriesOver state ∨
    (CarriedOver row.state.lastError state.lastError ∧
      state.attempts = row.state.attempts + 1) ∨
    (CarriedOver row.state.lastError state.lastError ∧
      state.attempts = row.state.attempts - 1 ∧ row.state.claimToken.isSome = true) ∨
    state.status = .published ∨
    (state = row.state.replayed step.session.now ∧
      ∃ tenantId caller reason eventIds deadLetteredSince,
        step.op = .replay tenantId caller reason eventIds deadLetteredSince true) ∨
    ∃ claim error random window, step.op = .ambiguous claim error random ∧ row.OwnedBy claim ∧
      error.retryWithin = some window ∧
      row.ambiguousRetryWithin step.session error window random = .ok state := by
  cases h with
  | reclaimRefused hop hpending hrefusal => exact .inl (row.state.carriesOver_deadLetter _)
  | claimed n hop hpending hrefusal =>
    refine .inr (.inl ⟨?_, rfl⟩)
    simp only [DispatchState.claimedBy, DispatchState.recordLostLease]
    split
    · exact .inr ⟨_, rfl⟩
    · exact .inl rfl
  | closed hop howned hclosed => exact .inl ⟨.inl rfl, rfl⟩
  | begun hop howned =>
    unfold OutboxEvent.begun
    split
    · exact .inl (row.state.carriesOver_deadLetter (some DispatchState.retryWindowClosedError))
    · exact .inl ⟨.inl rfl, rfl⟩
  | started hop howned hunmarked => exact .inl ⟨.inl rfl, rfl⟩
  | completed hop howned => exact .inr (.inr (.inr (.inl rfl)))
  | failed hop howned => exact .inl (row.state.carriesOver_failed _ _ _ _ _ _)
  | notSent hop howned => exact .inl (row.state.carriesOver_notSent _ _ _ _ _ _)
  | @ambiguous claim error random _ hop howned hstate =>
    cases hwindow : error.retryWithin with
    | none => exact .inl (OutboxEvent.carriesOver_ambiguousOutcome hstate (.inr hwindow))
    | some window =>
      cases hmarked : row.state.markedBy (some claim.claimToken) with
      | true => exact .inl (OutboxEvent.carriesOver_ambiguousOutcome hstate (.inl hmarked))
      | false =>
        rw [OutboxEvent.ambiguousOutcome_of_retryWithin hwindow hmarked] at hstate
        exact .inr (.inr (.inr (.inr (.inr ⟨claim, error, random, window, hop, howned, hwindow,
          hstate⟩))))
  | @released claim error hop howned =>
    exact .inr (.inr (.inl ⟨.inr ⟨error, rfl⟩, rfl, by simp [howned.token]⟩))
  | replayed hop hdead => exact .inr (.inr (.inr (.inr (.inl ⟨rfl, _, _, _, _, _, hop⟩))))

end OutboxStep.Transition

/-! ## The recorded deadline -/

def HasDeadlineBy (lastError : Option String) (deadline : Instant) : Prop :=
  ∃ recorded, retryDeadline lastError = some recorded ∧ PyDatetime.min ≤ recorded ∧
    recorded ≤ deadline ∧ PyDatetime.truncated recorded = recorded

namespace HasDeadlineBy

variable {lastError : Option String} {deadline : Instant}

lemma of_withTag {createdAt : Instant} {window window' : ℤ} {recorded : Instant}
    (hrecorded : PyDatetime.add createdAt window' = some recorded) (hle : window' ≤ window)
    (text : String) :
    HasDeadlineBy (some (withTag text (some (deadlineTag recorded))))
      (PyDatetime.truncated (createdAt + window)) := by
  unfold PyDatetime.add at hrecorded
  split at hrecorded
  · next hrange =>
    cases hrecorded
    refine ⟨_, retryDeadline_withTag text hrange.1 hrange.2,
      PyDatetime.min_le_truncated hrange.1, ?_, PyDatetime.truncated_truncated _⟩
    unfold PyDatetime.truncated
    have hsecond : (0 : ℤ) ≤ PyDatetime.second := by decide
    have hsum : createdAt + window' ≤ createdAt + window := Int.add_le_add_left hle createdAt
    exact mul_le_mul_of_nonneg_right (Int.ediv_le_ediv (by decide) hsum) hsecond
  · cases hrecorded

lemma carriedOver {lastError' : Option String} (h : HasDeadlineBy lastError deadline)
    (hmax : deadline ≤ PyDatetime.max) (hcarried : CarriedOver lastError lastError') :
    HasDeadlineBy lastError' deadline := by
  obtain ⟨recorded, hrecorded, hmin, hle, hseconds⟩ := h
  rcases hcarried with rfl | ⟨error, rfl⟩
  · exact ⟨recorded, hrecorded, hmin, hle, hseconds⟩
  · exact ⟨recorded, retryDeadline_recordError hrecorded hmin (hle.trans hmax) hseconds error,
      hmin, hle, hseconds⟩

end HasDeadlineBy

def OutboxEvent.ExpiresBy (row : OutboxEvent) (deadline : Instant) : Prop :=
  row.state.status ≠ .published → HasDeadlineBy row.state.lastError deadline

namespace OutboxStep

variable {step : OutboxStep} {events : OutboxEvents} {eventId : Uuid} {createdAt : Instant}
  {window : ℤ}

variable {row : OutboxEvent}

lemma Transition.expiresBy {state : DispatchState} (h : step.Transition row state)
    {deadline : Instant} (hmax : deadline ≤ PyDatetime.max) (hexpires : row.ExpiresBy deadline)
    (hop : ∀ claim error random, step.op = .ambiguous claim error random → claim.eventId = row.id →
      error.retryWithin = none) :
    (row.written step.session.now state).ExpiresBy deadline := by
  intro hunpublished
  have hrow : HasDeadlineBy row.state.lastError deadline := hexpires h.status_ne_published
  rcases h.errors with hcarries | ⟨hcarried, -⟩ | ⟨hcarried, -⟩ | hpublished | ⟨rfl, -⟩ |
    ⟨claim, error, random, window, hop', howned, hwindow, -⟩
  · exact hrow.carriedOver hmax hcarries.lastError
  · exact hrow.carriedOver hmax hcarried
  · exact hrow.carriedOver hmax hcarried
  · exact absurd hpublished hunpublished
  · exact hrow
  · have hnone := hop claim error random hop' howned.id_eq.symm
    rw [hnone] at hwindow
    cases hwindow

lemma expiresBy_ambiguous {claim : EventClaim} {error : AmbiguousOutcome} {random : ℚ} {window' : ℤ}
    (hop : step.op = .ambiguous claim error random) (hwindow : error.retryWithin = some window')
    (hrow : row ∈ events.rows) (hid : claim.eventId = row.id)
    (hmax : PyDatetime.truncated (row.createdAt + window) ≤ PyDatetime.max)
    (hexpires : row.ExpiresBy (PyDatetime.truncated (row.createdAt + window)))
    (hatMost : ∀ window' status, step.RecordsWindow events row.id window' status →
      window' ≤ window) :
    ∃ row' ∈ (step.perform events).1.rows, row'.id = row.id ∧ row'.createdAt = row.createdAt ∧
      row'.ExpiresBy (PyDatetime.truncated (row.createdAt + window)) := by
  by_cases howned : row.OwnedBy claim
  · rcases perform_ambiguous_of_owned hop hrow howned with
      ⟨raised, -, hperform⟩ | ⟨state, hstate, hperform⟩
    · rw [hperform]
      exact ⟨row, hrow, rfl, rfl, hexpires⟩
    · rw [hperform]
      refine ⟨_, OutboxEvents.written_mem_store hrow _ state, rfl, rfl, fun _ => ?_⟩
      cases hmarked : row.state.markedBy (some claim.claimToken) with
      | true =>
        have hcarries := OutboxEvent.carriesOver_ambiguousOutcome hstate (.inl hmarked)
        have hunpublished : row.state.status ≠ .published := by simp [howned.pending]
        exact (hexpires hunpublished).carriedOver hmax hcarries.lastError
      | false =>
        have hle : window' ≤ window := by
          refine hatMost window' state.status ⟨claim, error, random, hop, hid, hwindow, ?_, ?_⟩
          · rw [hperform]
          · intro other hother howned'
            have heq : other = row := events.unique_id.eq_of_key_eq hother hrow
              (howned'.id_eq.trans hid)
            exact heq ▸ hmarked
        rw [OutboxEvent.ambiguousOutcome_of_retryWithin hwindow hmarked] at hstate
        obtain ⟨-, recorded, text, hrecorded, htext⟩ :=
          OutboxEvent.ambiguousRetryWithin_spec hstate
        simp only [OutboxEvent.written, htext]
        exact HasDeadlineBy.of_withTag hrecorded hle text
  · -- the claim names the event, so it owns no other row either
    have hstale : ∀ other ∈ events.rows, ¬ other.OwnedBy claim := by
      intro other hother howned'
      have heq : other = row := events.unique_id.eq_of_key_eq hother hrow
        (howned'.id_eq.trans hid)
      exact howned (heq ▸ howned')
    have hclaim : step.op.claim? = some claim := by rw [hop]; rfl
    rw [(perform_of_stale hclaim hstale).1]
    exact ⟨row, hrow, rfl, rfl, hexpires⟩

end OutboxStep

/-! ## Rewritten rows -/

/-- The rows differ in the error text and the time of the last write at most. -/
structure OutboxEvent.SameDelivery (row row' : OutboxEvent) : Prop where
  id : row'.id = row.id
  tenantId : row'.tenantId = row.tenantId
  createdAt : row'.createdAt = row.createdAt
  status : row'.state.status = row.state.status
  attempts : row'.state.attempts = row.state.attempts
  claimToken : row'.state.claimToken = row.state.claimToken

namespace OutboxEvent

lemma SameDelivery.refl (row : OutboxEvent) : row.SameDelivery row :=
  ⟨rfl, rfl, rfl, rfl, rfl, rfl⟩

lemma SameDelivery.trans {row row' row'' : OutboxEvent} (h : row.SameDelivery row')
    (h' : row'.SameDelivery row'') : row.SameDelivery row'' :=
  ⟨h'.id.trans h.id, h'.tenantId.trans h.tenantId, h'.createdAt.trans h.createdAt,
    h'.status.trans h.status, h'.attempts.trans h.attempts, h'.claimToken.trans h.claimToken⟩

lemma rewrittenIn_spec (now : Instant) (tenantId : Uuid) (start replacement : String)
    (row : OutboxEvent) :
    row.SameDelivery (row.rewrittenIn now tenantId start replacement) ∧
      (row.rewrittenIn now tenantId start replacement = row ∨
        (row.tenantId = tenantId ∧ row.state.errorStartsWith start = true)) := by
  unfold rewrittenIn
  split
  · next htenant =>
    unfold rewritten
    dsimp only
    split
    · next hmatches =>
      rw [Bool.and_eq_true] at hmatches
      exact ⟨⟨rfl, rfl, rfl, rfl, rfl, rfl⟩, .inr ⟨htenant, hmatches.1⟩⟩
    · exact ⟨.refl row, .inl rfl⟩
  · exact ⟨.refl row, .inl rfl⟩

end OutboxEvent

lemma exists_of_mem_rewriteTenantErrors {now : Instant} {tenantId : Uuid}
    {replacements : List (String × String)} {apply : Bool} {row' : OutboxEvent}
    (h : row' ∈ (rewriteTenantErrors now tenantId replacements apply events).1.rows) :
    ∃ row ∈ events.rows, row.SameDelivery row' ∧
      (row' = row ∨ (apply = true ∧ row.tenantId = tenantId ∧
        ∃ pair ∈ replacements, row.state.errorStartsWith pair.1 = true)) := by
  unfold rewriteTenantErrors at h
  revert h
  -- the count of the texts before plays no part
  generalize 0 = matched
  induction replacements generalizing events matched with
  | nil =>
    intro h
    exact ⟨row', h, .refl row', .inl rfl⟩
  | cons pair replacements ih =>
    intro h
    rw [List.foldl_cons] at h
    obtain ⟨row₁, hrow₁, hsame₁, hcases₁⟩ := ih _ h
    cases apply with
    | false =>
      rcases hcases₁ with heq | ⟨happly, -⟩
      · exact ⟨row₁, hrow₁, hsame₁, .inl heq⟩
      · cases happly
    | true =>
      obtain ⟨row, hrow, rfl⟩ := List.mem_map.mp hrow₁
      obtain ⟨hsame, hcases⟩ := row.rewrittenIn_spec now tenantId pair.1 pair.2
      refine ⟨row, hrow, hsame.trans hsame₁, ?_⟩
      rcases hcases with hkept | ⟨htenant, hstarts⟩
      · rw [hkept] at hcases₁
        rcases hcases₁ with heq | ⟨-, htenant, pair', hpair', hstarts⟩
        · exact .inl heq
        · exact .inr ⟨rfl, htenant, pair', List.mem_cons_of_mem pair hpair', hstarts⟩
      · exact .inr ⟨rfl, htenant, pair, List.mem_cons_self, hstarts⟩

lemma DeliveryStep.forall_after {step : DeliveryStep} {I : OutboxEvent → Prop}
    (houtbox : ∀ step', step = .outbox step' → ∀ row ∈ events.rows,
      ∀ row' ∈ (step'.perform events).1.rows, Relation.ReflTransGen step'.Moves row row' →
      I row → I row')
    (hrewrite : ∀ row row', row.SameDelivery row' → I row → I row')
    (h : ∀ row ∈ events.rows, I row) : ∀ row ∈ (step.after events).rows, I row := by
  intro row' hrow'
  cases step with
  | outbox step =>
    obtain ⟨row, hrow, hmoves⟩ := (step.moved_perform events).exists_of_mem hrow'
    exact houtbox step rfl row hrow row' hrow' hmoves (h row hrow)
  | rewrite now tenantId replacements apply =>
    obtain ⟨row, hrow, hsame, -⟩ := exists_of_mem_rewriteTenantErrors hrow'
    exact hrewrite row row' hsame (h row hrow)

/-! ## Counted claims -/

def OutboxEvents.ClaimsCounted (events : OutboxEvents) : Prop :=
  ∀ row ∈ events.rows, row.state.claimToken.isSome = true → 1 ≤ row.state.attempts

def OutboxEvent.Retried (row : OutboxEvent) : Prop :=
  row.state.status = .pending →
    1 ≤ row.state.attempts ∧ (row.state.claimToken.isSome = true → 2 ≤ row.state.attempts)

namespace OutboxStep.Transition

variable {step : OutboxStep} {row : OutboxEvent} {state : DispatchState}

section

variable (h : step.Transition row state)

include h

lemma counts (hrow : row.state.claimToken.isSome = true → 1 ≤ row.state.attempts)
    (hclaimed : state.claimToken.isSome = true) : 1 ≤ state.attempts := by
  rcases h.kinds with ⟨-, hgives⟩ | ⟨-, hkeeps⟩ | ⟨-, -, -, hattempts, -⟩ | ⟨claim, -, -, rfl⟩ |
    ⟨-, rfl⟩
  · simp [hgives.claimToken] at hclaimed
  · rw [hkeeps.claimToken] at hclaimed
    rw [hkeeps.attempts]
    exact hrow hclaimed
  · omega
  · cases hclaimed
  · cases hclaimed

lemma replay_of_deadLettered (hdead : row.state.status = .deadLettered) :
    ∃ tenantId caller reason eventIds deadLetteredSince,
      step.op = .replay tenantId caller reason eventIds deadLetteredSince true := by
  have hunowned : ∀ claim, ¬ row.OwnedBy claim := by
    intro claim howned
    simp [howned.pending] at hdead
  cases h with
  | reclaimRefused _ hpending _ | claimed _ _ hpending _ => simp [hdead] at hpending
  | closed _ howned _ | begun _ howned | started _ howned _ | completed _ howned
  | failed _ howned | notSent _ howned | ambiguous _ howned _ | released _ howned =>
    exact absurd howned (hunowned _)
  | replayed hop _ => exact ⟨_, _, _, _, _, hop⟩

lemma retried (hretried : row.Retried)
    (hop : ∀ tenantId caller reason eventIds deadLetteredSince,
      step.op ≠ .replay tenantId caller reason eventIds deadLetteredSince true) :
    (row.written step.session.now state).Retried := by
  intro hstate
  have hrow : row.state.status = .pending := by
    cases hstatus : row.state.status with
    | pending => rfl
    | published => exact absurd hstatus h.status_ne_published
    | deadLettered =>
      obtain ⟨tenantId, caller, reason, eventIds, since, hop'⟩ := h.replay_of_deadLettered hstatus
      exact absurd hop' (hop tenantId caller reason eventIds since)
  obtain ⟨hone, htwo⟩ := hretried hrow
  have hattempts : 1 ≤ state.attempts := by
    rcases h.errors with hcarries | ⟨-, hmore⟩ | ⟨-, hless, hclaimed⟩ | hpublished |
      ⟨-, tenantId, caller, reason, eventIds, since, hop'⟩ | ⟨_, _, _, _, -, -, -, hstate'⟩
    · rw [hcarries.attempts]
      exact hone
    · omega
    · have htwice := htwo hclaimed
      omega
    · rw [OutboxEvent.written, hpublished] at hstate
      cases hstate
    · exact absurd hop' (hop tenantId caller reason eventIds since)
    · rw [(OutboxEvent.ambiguousRetryWithin_spec hstate').1]
      exact hone
  refine ⟨hattempts, fun hclaimed => ?_⟩
  have hclaimed' : state.claimToken.isSome = true := hclaimed
  rcases h.kinds with ⟨-, hgives⟩ | ⟨-, hkeeps⟩ | ⟨-, -, -, hcounted, -⟩ | ⟨claim, -, -, rfl⟩ |
    ⟨hdead, -⟩
  · simp [hgives.claimToken] at hclaimed'
  · rw [hkeeps.claimToken] at hclaimed'
    have htwice := htwo hclaimed'
    rw [← hkeeps.attempts] at htwice
    exact htwice
  · have htwice : 2 ≤ state.attempts := by omega
    exact htwice
  · cases hclaimed'
  · simp [hrow] at hdead

end

end OutboxStep.Transition

/-! ## One step -/

namespace OutboxEvents

/-- The event was recorded at the given instant, and its error carries a deadline. -/
structure Expiring (events : OutboxEvents) (eventId : Uuid) (createdAt : Instant) (window : ℤ) :
    Prop where
  createdAt_eq : ∀ row ∈ events.rows, row.id = eventId → row.createdAt = createdAt
  expiresBy : ∀ row ∈ events.rows, row.id = eventId →
    row.ExpiresBy (PyDatetime.truncated (createdAt + window))

lemma ClaimsCounted.after {events : OutboxEvents} (h : events.ClaimsCounted) (step : DeliveryStep) :
    (step.after events).ClaimsCounted := by
  refine DeliveryStep.forall_after
    (I := fun row => row.state.claimToken.isSome = true → 1 ≤ row.state.attempts) ?_ ?_ h
  · rintro step' rfl row hrow row' - hmoves hcounted
    exact OutboxStep.reflTransGen_keeps
      (I := fun row => row.state.claimToken.isSome = true → 1 ≤ row.state.attempts)
      (fun r state htransition hr hclaimed => htransition.counts hr hclaimed) hmoves hcounted
  · intro row row' hsame hcounted hclaimed
    rw [hsame.claimToken] at hclaimed
    rw [hsame.attempts]
    exact hcounted hclaimed

variable {events : OutboxEvents} {eventId : Uuid}

lemma createdAt_after {createdAt : Instant}
    (h : ∀ row ∈ events.rows, row.id = eventId → row.createdAt = createdAt) (step : DeliveryStep) :
    ∀ row ∈ (step.after events).rows, row.id = eventId → row.createdAt = createdAt := by
  refine DeliveryStep.forall_after
    (I := fun row => row.id = eventId → row.createdAt = createdAt) ?_ ?_ h
  · rintro step' rfl row hrow row' - hmoves hcreated
    exact OutboxStep.reflTransGen_keeps
      (I := fun row => row.id = eventId → row.createdAt = createdAt)
      (fun r state htransition hr hid => hr hid) hmoves hcreated
  · intro row row' hsame hcreated hid
    rw [hsame.createdAt]
    exact hcreated (hsame.id.symm.trans hid)

lemma Expiring.perform {events : OutboxEvents} {eventId : Uuid} {createdAt : Instant} {window : ℤ}
    (h : events.Expiring eventId createdAt window)
    (hmax : PyDatetime.truncated (createdAt + window) ≤ PyDatetime.max) {step : OutboxStep}
    (hatMost : ∀ window' status, step.RecordsWindow events eventId window' status →
      window' ≤ window) :
    ∀ row ∈ (step.perform events).1.rows, row.id = eventId →
      row.ExpiresBy (PyDatetime.truncated (createdAt + window)) := by
  intro row' hrow' hid'
  obtain ⟨row, hrow, hmoves⟩ := (step.moved_perform events).exists_of_mem hrow'
  have hid : row.id = eventId := (OutboxStep.id_eq_of_moves hmoves).symm.trans hid'
  have hexpires := h.expiresBy row hrow hid
  by_cases hnames : ∃ claim error random window', step.op = .ambiguous claim error random ∧
      claim.eventId = row.id ∧ error.retryWithin = some window'
  · obtain ⟨claim, error, random, window', hop, hevent, hwindow⟩ := hnames
    have hcreated := h.createdAt_eq row hrow hid
    subst hid
    subst hcreated
    obtain ⟨row₁, hrow₁, hid₁, -, hexpires₁⟩ :=
      OutboxStep.expiresBy_ambiguous hop hwindow hrow hevent hmax hexpires hatMost
    have heq : row₁ = row' :=
      (step.perform events).1.unique_id.eq_of_key_eq hrow₁ hrow' (hid₁.trans hid'.symm)
    exact heq ▸ hexpires₁
  · refine (OutboxStep.reflTransGen_keeps (I := fun r => r.id = row.id ∧
      r.ExpiresBy (PyDatetime.truncated (createdAt + window)))
      (fun r state htransition hr => ⟨hr.1, ?_⟩) hmoves ⟨rfl, hexpires⟩).2
    refine htransition.expiresBy hmax hr.2 fun claim error random hop hevent => ?_
    by_contra hsome
    obtain ⟨window', hwindow⟩ := Option.ne_none_iff_exists'.mp hsome
    exact hnames ⟨claim, error, random, window', hop, hevent.trans hr.1, hwindow⟩

lemma Expiring.after {events : OutboxEvents} {eventId : Uuid} {createdAt : Instant} {window : ℤ}
    (h : events.Expiring eventId createdAt window)
    (hmax : PyDatetime.truncated (createdAt + window) ≤ PyDatetime.max) {step : DeliveryStep}
    (hatMost : ∀ step' window' status, step = .outbox step' →
      step'.RecordsWindow events eventId window' status → window' ≤ window)
    (herases : ¬ step.ErasesDeadline events eventId) :
    (step.after events).Expiring eventId createdAt window := by
  refine ⟨createdAt_after h.createdAt_eq step, ?_⟩
  cases step with
  | outbox step => exact h.perform hmax fun window' status => hatMost step window' status rfl
  | rewrite now tenantId replacements apply =>
    intro row' hrow' hid' hunpublished
    obtain ⟨row, hrow, hsame, hcases⟩ := exists_of_mem_rewriteTenantErrors hrow'
    have hid : row.id = eventId := hsame.id.symm.trans hid'
    have hdeadline :
        HasDeadlineBy row.state.lastError (PyDatetime.truncated (createdAt + window)) :=
      h.expiresBy row hrow hid (hsame.status ▸ hunpublished)
    rcases hcases with rfl | ⟨rfl, htenant, pair, hpair, hstarts⟩
    · exact hdeadline
    · obtain ⟨recorded, hrecorded, -⟩ := hdeadline
      exact absurd ⟨now, tenantId, replacements, rfl, row, hrow, hid, htenant,
        by simp [hrecorded], pair, hpair, hstarts⟩ herases

lemma retried_after (h : ∀ row ∈ events.rows, row.id = eventId → row.Retried) {step : DeliveryStep}
    (hreplays : ∀ step', step = .outbox step' → ¬ step'.Replays events eventId) :
    ∀ row ∈ (step.after events).rows, row.id = eventId → row.Retried := by
  refine DeliveryStep.forall_after (I := fun row => row.id = eventId → row.Retried) ?_ ?_ h
  · rintro step' rfl row hrow row' hrow' hmoves hretried hid'
    have hid : row.id = eventId := (OutboxStep.id_eq_of_moves hmoves).symm.trans hid'
    by_cases hop : ∃ tenantId caller reason eventIds deadLetteredSince,
        step'.op = .replay tenantId caller reason eventIds deadLetteredSince true
    · obtain ⟨tenantId, caller, reason, eventIds, since, hop⟩ := hop
      rcases Relation.ReflTransGen.cases_head hmoves with rfl | ⟨_, ⟨state, htransition, -⟩, -⟩
      · exact hretried hid
      · -- a row that moves in a replay was a dead letter
        have hdead : row.state.status = .deadLettered := by
          cases htransition <;> simp_all
        intro hpending
        exact absurd ⟨tenantId, caller, reason, eventIds, since, hop, row, hrow, hid, hdead, row',
          hrow', hid', hpending⟩ (hreplays step' rfl)
    · have hop' : ∀ tenantId caller reason eventIds deadLetteredSince,
          step'.op ≠ .replay tenantId caller reason eventIds deadLetteredSince true :=
        fun tenantId caller reason eventIds since heq =>
          hop ⟨tenantId, caller, reason, eventIds, since, heq⟩
      exact OutboxStep.reflTransGen_keeps (I := OutboxEvent.Retried)
        (fun r state htransition hr => htransition.retried hr hop') hmoves (hretried hid)
  · intro row row' hsame hretried hid' hpending
    rw [hsame.status] at hpending
    rw [hsame.attempts, hsame.claimToken]
    exact hretried (hsame.id.symm.trans hid') hpending

end OutboxEvents

namespace OutboxStep

variable {step : OutboxStep} {events : OutboxEvents}

variable {eventId : Uuid} {window : ℤ}

lemma RecordsWindow.exists_retried (h : step.RecordsWindow events eventId window .pending) :
    ∃ row ∈ events.rows, row.id = eventId ∧ row.state.claimToken.isSome = true ∧
      ∃ error random state, row.ambiguousRetryWithin step.session error window random = .ok state ∧
        state.claimToken = none ∧
        (step.perform events).1 = events.store step.session.now row.id state := by
  obtain ⟨claim, error, random, hop, hevent, hwindow, hreport, hunmarked⟩ := h
  obtain ⟨row, hrow, howned⟩ : ∃ row ∈ events.rows, row.OwnedBy claim := by
    by_contra hnone
    have hstale : ∀ row ∈ events.rows, ¬ row.OwnedBy claim :=
      fun row hrow howned => hnone ⟨row, hrow, howned⟩
    have hclaim : step.op.claim? = some claim := by rw [hop]; rfl
    rcases (perform_of_stale hclaim hstale).2 with hnegative | ⟨hmark, -⟩
    · simp [hreport, OutboxReport.isNegative] at hnegative
    · simp [hop] at hmark
  refine ⟨row, hrow, howned.id_eq.trans hevent, by simp [howned.token], error, random, ?_⟩
  rcases perform_ambiguous_of_owned hop hrow howned with
    ⟨raised, -, hperform⟩ | ⟨state, hstate, hperform⟩
  · rw [hperform] at hreport
    cases hreport
  · have hgives := OutboxEvent.givesUp_ambiguousOutcome hstate
    rw [OutboxEvent.ambiguousOutcome_of_retryWithin hwindow (hunmarked row hrow howned)] at hstate
    exact ⟨state, hstate, hgives.claimToken, by rw [hperform]⟩

lemma RecordsWindow.expiring (h : step.RecordsWindow events eventId window .pending)
    (hcounted : events.ClaimsCounted) {createdAt : Instant}
    (hcreated : ∀ row ∈ events.rows, row.id = eventId → row.createdAt = createdAt) :
    PyDatetime.truncated (createdAt + window) ≤ PyDatetime.max ∧
      (step.perform events).1.Expiring eventId createdAt window ∧
      ∀ row ∈ (step.perform events).1.rows, row.id = eventId → row.Retried := by
  obtain ⟨row, hrow, hid, hclaimed, error, random, state, hstate, htoken, hperform⟩ :=
    h.exists_retried
  obtain ⟨hattempts, deadline, text, hdeadline, htext⟩ :=
    OutboxEvent.ambiguousRetryWithin_spec hstate
  obtain rfl := hcreated row hrow hid
  have hmax : row.createdAt + window ≤ PyDatetime.max := by
    unfold PyDatetime.add at hdeadline
    split at hdeadline
    · next hrange => exact hrange.2
    · cases hdeadline
  -- the row of the event is the written one
  have hwritten : ∀ row' ∈ (step.perform events).1.rows, row'.id = eventId →
      row' = row.written step.session.now state := by
    intro row' hrow' hid'
    rw [hperform] at hrow'
    exact (events.store step.session.now row.id state).unique_id.eq_of_key_eq hrow'
      (OutboxEvents.written_mem_store hrow step.session.now state) (hid'.trans hid.symm)
  refine ⟨(PyDatetime.truncated_le _).trans hmax, ⟨?_, ?_⟩, ?_⟩
  · exact OutboxEvents.createdAt_after hcreated (.outbox step)
  · intro row' hrow' hid' _
    rw [hwritten row' hrow' hid']
    simp only [OutboxEvent.written, htext]
    exact HasDeadlineBy.of_withTag hdeadline le_rfl text
  · intro row' hrow' hid' _
    rw [hwritten row' hrow' hid']
    simp only [OutboxEvent.written, hattempts, htoken]
    exact ⟨hcounted row hrow hclaimed, fun hclaim => by cases hclaim⟩

lemma exists_begun_of_execution {claim : EventClaim} (hop : step.op = .beginExecution claim)
    {execution : EventExecution}
    (hexecution : (step.perform events).2 = .execution (some execution)) :
    ∃ row ∈ events.rows, row.OwnedBy claim ∧
      row.state.retryWindowClosed step.session.now = false ∧ execution = row.execution := by
  have hbegin : (beginEventExecution step.session claim events).2 = some execution := by
    simp only [perform, hop, Prod.map, OutboxReport.execution.injEq] at hexecution
    exact hexecution
  cases hlocked : events.lockedClaimedRow claim with
  | none =>
    unfold beginEventExecution OutboxEvents.onClaimedRow at hbegin
    rw [hlocked] at hbegin
    split at hbegin <;> cases hbegin
  | some row =>
    obtain ⟨hrow, howned⟩ := OutboxEvents.lockedClaimedRow_eq_some.mp hlocked
    refine ⟨row, hrow, howned, ?_⟩
    unfold beginEventExecution OutboxEvents.onClaimedRow at hbegin
    rw [hlocked] at hbegin
    split at hbegin
    · cases hbegin
    · dsimp only [OutboxEvent.begun] at hbegin
      split at hbegin
      · cases hbegin
      · next hopen =>
        cases hbegin
        exact ⟨by simpa using hopen, rfl⟩

end OutboxStep

/-! ## Runs -/

namespace OutboxEvents

variable {events : OutboxEvents} {eventId : Uuid}

lemma ClaimsCounted.deliver (h : events.ClaimsCounted) (steps : List DeliveryStep) :
    (events.deliver steps).ClaimsCounted := by
  induction steps generalizing events with
  | nil => exact h
  | cons step steps ih => exact ih (h.after step)

lemma createdAt_deliver {createdAt : Instant}
    (h : ∀ row ∈ events.rows, row.id = eventId → row.createdAt = createdAt)
    (steps : List DeliveryStep) :
    ∀ row ∈ (events.deliver steps).rows, row.id = eventId → row.createdAt = createdAt := by
  induction steps generalizing events with
  | nil => exact h
  | cons step steps ih => exact ih (createdAt_after h step)

lemma Expiring.deliver {createdAt : Instant} {window : ℤ}
    (h : events.Expiring eventId createdAt window)
    (hmax : PyDatetime.truncated (createdAt + window) ≤ PyDatetime.max)
    {steps : List DeliveryStep} (hatMost : events.RecordsAtMost steps eventId window)
    (herases : events.ErasesNoDeadline steps eventId) :
    (events.deliver steps).Expiring eventId createdAt window := by
  induction steps generalizing events with
  | nil => exact h
  | cons step steps ih =>
    have hstep : (step.after events).Expiring eventId createdAt window := by
      refine h.after hmax (fun step' window' status heq => ?_) (herases [] step steps rfl)
      exact hatMost [] step' steps window' status (by rw [heq]; rfl)
    refine ih hstep (fun before step' after window' status hsteps => ?_)
      fun before step' after hsteps => ?_
    · exact hatMost (step :: before) step' after window' status (by rw [hsteps, List.cons_append])
    · exact herases (step :: before) step' after (by rw [hsteps, List.cons_append])

lemma replayed_or_retried (h : ∀ row ∈ events.rows, row.id = eventId → row.Retried)
    (steps : List DeliveryStep) :
    events.Replayed steps eventId ∨
      ∀ row ∈ (events.deliver steps).rows, row.id = eventId → row.Retried := by
  induction steps generalizing events with
  | nil => exact .inr h
  | cons step steps ih =>
    by_cases hreplays : ∃ step', step = .outbox step' ∧ step'.Replays events eventId
    · obtain ⟨step', rfl, hreplays⟩ := hreplays
      exact .inl ⟨[], step', steps, rfl, hreplays⟩
    · have hstep : ∀ row ∈ (step.after events).rows, row.id = eventId → row.Retried :=
        retried_after h fun step' heq hreplays' => hreplays ⟨step', heq, hreplays'⟩
      rcases ih hstep with ⟨before, step', after, rfl, hreplays'⟩ | hretried
      · exact .inl ⟨step :: before, step', after, rfl, hreplays'⟩
      · exact .inr hretried

lemma ErasesNoDeadline.of_append {before between : List DeliveryStep} (after : List DeliveryStep)
    (h : events.ErasesNoDeadline (before ++ (between ++ after)) eventId) :
    (events.deliver before).ErasesNoDeadline between eventId := by
  intro before' step after' hsteps
  have hnot := h (before ++ before') step (after' ++ after) (by simp [hsteps])
  rwa [deliver_append] at hnot

/-- **The idempotency window is kept.**  In every run of recorded events in which no error text of
the event that carries a deadline is rewritten and no accepted window is prolonged, an event whose
retry was accepted until a deadline is not returned at or after it, except as the first claimed
attempt after a replay. -/
theorem deliver_windowKept {system : OutboxSystem} (hrecorded : system.Recorded)
    {steps : List DeliveryStep} {eventId : Uuid}
    (herases : system.events.ErasesNoDeadline steps eventId)
    (hprolongs : system.events.ProlongsNoWindow steps eventId) :
    system.events.WindowKept steps eventId := by
  intro before accept between start after window hsteps haccept row₀ hrow₀ hid₀ hlate claim
    execution hop hevent hexecution
  have hcounted₀ : system.events.ClaimsCounted := by
    intro row hrow hclaimed
    simp [hrecorded.claimToken row hrow] at hclaimed
  have hcreated₀ : ∀ row ∈ system.events.rows, row.id = eventId →
      row.createdAt = row₀.createdAt := by
    intro row hrow hid
    rw [system.events.unique_id.eq_of_key_eq hrow hrow₀ (hid.trans hid₀.symm)]
  have hcounted := hcounted₀.deliver before
  have hcreated := createdAt_deliver hcreated₀ before
  obtain ⟨hmax, hexpiring, hretried⟩ := haccept.expiring hcounted hcreated
  -- from the accepted retry on
  have haccepted : system.events.deliver (before ++ [.outbox accept]) =
      (accept.perform (system.events.deliver before)).1 := by
    rw [deliver_append]
    rfl
  have hrun : system.events.deliver (before ++ .outbox accept :: between) =
      (system.events.deliver (before ++ [.outbox accept])).deliver between := by
    rw [← deliver_append, List.append_assoc]
    rfl
  have hatMost : (system.events.deliver (before ++ [.outbox accept])).RecordsAtMost between eventId
      window := by
    intro before' step after' window' status hbetween hrecords
    refine hprolongs before accept before' step (after' ++ .outbox start :: after) window window'
      status (by simp [hsteps, hbetween]) haccept ?_
    rwa [← deliver_append, List.append_assoc] at hrecords
  have herases' :
      (system.events.deliver (before ++ [.outbox accept])).ErasesNoDeadline between eventId := by
    refine ErasesNoDeadline.of_append (.outbox start :: after) ?_
    rwa [List.append_assoc, List.singleton_append, ← hsteps]
  rw [← haccepted] at hexpiring hretried
  have hend := hexpiring.deliver hmax hatMost herases'
  rw [hrun] at hexecution
  obtain ⟨row, hrow, howned, hopen, rfl⟩ := OutboxStep.exists_begun_of_execution hop hexecution
  have hid : row.id = eventId := howned.id_eq.trans hevent
  have hclaimed : row.state.claimToken.isSome = true := by simp [howned.token]
  have hunpublished : row.state.status ≠ .published := by simp [howned.pending]
  -- the deadline has passed, so that only a first attempt is begun
  have hfirst : ¬ 1 < row.state.attempts := by
    intro hagain
    obtain ⟨recorded, hdeadline, -, hle, -⟩ := hend.expiresBy row hrow hid hunpublished
    have hpassed : recorded ≤ start.session.now := hle.trans hlate
    simp [DispatchState.retryWindowClosed, hagain, hdeadline, hpassed] at hopen
  constructor
  · have hone : 1 ≤ row.state.attempts :=
      (hcounted.after (.outbox accept)).deliver between row (by rwa [haccepted] at hrow) hclaimed
    have hattempts : row.execution.attempts = row.state.attempts := rfl
    omega
  · rcases replayed_or_retried hretried between with hreplayed | hretried'
    · exact hreplayed
    · have htwice := (hretried' row hrow hid howned.pending).2 hclaimed
      omega

end OutboxEvents

def firstAttempt : List DeliveryStep :=
  [.outbox (claimAt 0 100), .outbox ⟨openSession 1000000, .beginExecution ⟨1, 7, 100⟩⟩]

def retryWithinHour : OutboxStep :=
  ⟨openSession 2000000, .ambiguous ⟨1, 7, 100⟩
    { reason := "read_timeout", phase := "read", retryWithin := some 3600000000 } 0⟩

def lateExecution : OutboxStep := ⟨openSession 4001000000, .beginExecution ⟨1, 7, 200⟩⟩

def DeliveryStep.isAmbiguous : DeliveryStep → Bool
  | outbox step => match step.op with
    | .ambiguous _ _ _ => true
    | _ => false
  | rewrite _ _ _ _ => false

/-- The window is kept when the event is claimed again after it has closed. -/
theorem deliver_windowKept_hour :
    retryWithinHour.RecordsWindow (recordedSystem.events.deliver firstAttempt) 7 3600000000
        .pending ∧
      recordedSystem.events.WindowKept (firstAttempt ++ [.outbox retryWithinHour,
        .outbox (claimAt 4000000000 200), .outbox lateExecution]) 7 := by
  have hrecorded : recordedSystem.Recorded := ⟨rfl, by decide, by decide, by decide⟩
  refine ⟨⟨⟨1, 7, 100⟩, _, 0, rfl, rfl, rfl, by decide +kernel, ?_⟩,
    OutboxEvents.deliver_windowKept hrecorded ?_ ?_⟩
  · intro row hrow _
    have hunmarked : ∀ row ∈ (recordedSystem.events.deliver firstAttempt).rows,
        row.state.markedBy (some 100) = false := by decide +kernel
    exact hunmarked row hrow
  · rintro before step after hsteps ⟨now, tenantId, replacements, rfl, -⟩
    have hstep : DeliveryStep.rewrite now tenantId replacements true ∈ firstAttempt ++
        [.outbox retryWithinHour, .outbox (claimAt 4000000000 200), .outbox lateExecution] := by
      rw [hsteps]
      simp
    simp [firstAttempt] at hstep
  · rintro before accept between step after window window' status hsteps ⟨_, _, _, hop, -⟩
      ⟨_, _, _, hop', -⟩
    -- the run reports one ambiguous outcome only
    have hcount := congrArg (List.countP DeliveryStep.isAmbiguous) hsteps
    simp only [List.countP_append, List.countP_cons, DeliveryStep.isAmbiguous, hop, hop'] at hcount
    have hone : firstAttempt.countP DeliveryStep.isAmbiguous = 0 := by decide
    simp [hone, retryWithinHour, claimAt, lateExecution] at hcount
    omega

def rewriteOutcomes : DeliveryStep :=
  .rewrite 3000000 1 [("OutcomeUnknown: ", "removed")] true

/-- The rewriting erases the deadline, and the event is returned after its window, in its second
attempt and without a replay. -/
theorem rewriteOutcomes_reopens :
    ¬ recordedSystem.events.WindowKept (firstAttempt ++ [.outbox retryWithinHour, rewriteOutcomes,
      .outbox (claimAt 4000000000 200), .outbox lateExecution]) 7 := by
  intro hkept
  have hunmarked : ∀ row ∈ (recordedSystem.events.deliver firstAttempt).rows,
      row.state.markedBy (some 100) = false := by decide +kernel
  have hattempts := (hkept firstAttempt retryWithinHour
    [rewriteOutcomes, .outbox (claimAt 4000000000 200)] lateExecution [] 3600000000 rfl
    ⟨⟨1, 7, 100⟩, _, 0, rfl, rfl, rfl, by decide +kernel, fun row hrow _ => hunmarked row hrow⟩
    recordedEvent (by decide) rfl (by decide) ⟨1, 7, 200⟩
    ⟨7, 1, "billing.invoice_issued", none, 2⟩ rfl rfl (by decide +kernel)).1
  cases hattempts

end SaasOs
