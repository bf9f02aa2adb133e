import SaasOs.Outbox.Ownership

/-!
# Marked attempts are not run again

A claim that marked its row was about to send an external request.  As long as no one excuses a
further attempt, the row is held: while it is pending, it carries this claim and its marker
(`OutboxEvent.HeldBy`).
-/

namespace SaasOs

/-! ## Held rows -/

/-- The row of the claim's event, while it is pending, carries the claim and its marker. -/
structure OutboxEvent.HeldBy (row : OutboxEvent) (claim : EventClaim) : Prop where
  id_eq : row.id = claim.eventId
  tenantId_eq : row.tenantId = claim.tenantId
  marked : row.state.status = .pending → row.state.claimToken = some claim.claimToken ∧
    row.state.externalStartedClaim = some claim.claimToken

def OutboxStep.MayRetry (step : OutboxStep) (claim : EventClaim) : Prop :=
  (∃ error blockException retryAfter random,
    step.op = .confirmedNotSent claim error blockException retryAfter random ∧
      isAttestedNotSent error blockException = true) ∨
  (∃ error random, step.op = .ambiguous claim error random ∧ error.atLeastOnce = true) ∨
  ∃ tenantId caller reason eventIds deadLetteredSince,
    step.op = .replay tenantId caller reason eventIds deadLetteredSince true

def OutboxSession.OpenFor (session : OutboxSession) (tenantId : Uuid) : Prop :=
  (session.registry.lockOpenTenant tenantId).val.isOk = true

namespace OutboxEvent.HeldBy

variable {row : OutboxEvent} {claim claim' : EventClaim}

variable {state : DispatchState}

lemma written_of_ne_pending (h : row.HeldBy claim) {now : Instant}
    (hstatus : state.status ≠ .pending) : (row.written now state).HeldBy claim :=
  ⟨h.id_eq, h.tenantId_eq, fun hpending => absurd hpending hstatus⟩

lemma eq_of_ownedBy (h : row.HeldBy claim) (howned : row.OwnedBy claim') : claim' = claim := by
  obtain ⟨tenantId, eventId, claimToken⟩ := claim
  obtain ⟨tenantId', eventId', claimToken'⟩ := claim'
  have htoken : some claimToken' = some claimToken :=
    howned.token.symm.trans (h.marked howned.pending).1
  simp only [EventClaim.mk.injEq]
  exact ⟨howned.tenantId_eq.symm.trans h.tenantId_eq, howned.id_eq.symm.trans h.id_eq,
    Option.some.inj htoken⟩

lemma ownedBy (h : row.HeldBy claim) (hpending : row.state.status = .pending) :
    row.OwnedBy claim :=
  ⟨h.id_eq, h.tenantId_eq, hpending, (h.marked hpending).1⟩

lemma markedBy (h : row.HeldBy claim) (hpending : row.state.status = .pending) :
    row.state.markedBy (some claim.claimToken) = true := by
  simp [DispatchState.markedBy, (h.marked hpending).2]

lemma transition (h : row.HeldBy claim) {step : OutboxStep}
    (htransition : step.Transition row state) (hopen : step.session.OpenFor claim.tenantId)
    (hrelease : ∀ claim' error, step.op ≠ .release claim' error) (hretry : ¬ step.MayRetry claim) :
    (row.written step.session.now state).HeldBy claim := by
  cases htransition with
  | reclaimRefused hop hpending hrefusal => exact h.written_of_ne_pending (by simp)
  | claimed n hop hpending hrefusal =>
    -- the lost lease of a marked attempt is not claimed again
    have hmarked : row.state.markedBy row.state.claimToken = true := by
      rw [(h.marked hpending).1]
      exact h.markedBy hpending
    simp [DispatchState.reclaimRefusal, hmarked] at hrefusal
  | closed hop howned hclosed =>
    rw [h.eq_of_ownedBy howned] at hclosed
    rw [OutboxSession.OpenFor, hclosed] at hopen
    cases hopen
  | begun hop howned =>
    unfold OutboxEvent.begun
    split
    · exact h.written_of_ne_pending (by simp)
    · exact ⟨h.id_eq, h.tenantId_eq, h.marked⟩
  | started hop howned hunmarked =>
    rw [h.eq_of_ownedBy howned] at hunmarked
    exact absurd (h.marked howned.pending).2 hunmarked
  | completed hop howned => exact h.written_of_ne_pending (by simp [DispatchState.completed])
  | failed hop howned =>
    rw [h.eq_of_ownedBy howned, DispatchState.failed, if_pos (h.markedBy howned.pending)]
    exact h.written_of_ne_pending (by simp)
  | @notSent claim' error blockException retryAfter random hop howned =>
    obtain rfl := h.eq_of_ownedBy howned
    have hunattested : isAttestedNotSent error blockException = false := by
      by_contra hattested
      exact hretry (.inl ⟨error, blockException, retryAfter, random, hop, by simpa using hattested⟩)
    unfold DispatchState.notSent
    dsimp only
    split
    · exact h.written_of_ne_pending (by simp)
    · simp only [h.markedBy howned.pending, hunattested, Bool.not_false, Bool.and_self, if_true]
      exact h.written_of_ne_pending (by simp)
  | @ambiguous claim' error random _ hop howned hstate =>
    obtain rfl := h.eq_of_ownedBy howned
    have honce : error.atLeastOnce = false := by
      by_contra htolerated
      exact hretry (.inr (.inl ⟨error, random, hop, by simpa using htolerated⟩))
    simp only [OutboxEvent.ambiguousOutcome, h.markedBy howned.pending, honce, Bool.not_false,
      Bool.and_self, if_true] at hstate
    cases hstate
    exact h.written_of_ne_pending (by simp [OutboxEvent.ambiguousDeadLetter])
  | @released claim' error hop howned => exact absurd hop (hrelease claim' error)
  | replayed hop hdead => exact absurd (.inr (.inr ⟨_, _, _, _, _, hop⟩)) hretry

end OutboxEvent.HeldBy

/-! ## One step -/

/-- The step lets the event be attempted again after the claim marked it: the attempt was retried on
its attested failure or on an ambiguous outcome that the destination tolerates, or the dead-lettered
event was replayed. -/
def OutboxStep.Excuses (step : OutboxStep) (events : OutboxEvents) (claim : EventClaim) : Prop :=
  (∃ error blockException retryAfter random,
    step.op = .confirmedNotSent claim error blockException retryAfter random ∧
      isAttestedNotSent error blockException = true ∧
      (step.perform events).2 = .status (some .pending)) ∨
  (∃ error random, step.op = .ambiguous claim error random ∧ error.atLeastOnce = true ∧
    (step.perform events).2 = .status (some .pending)) ∨
  ∃ tenantId caller reason eventIds deadLetteredSince,
    step.op = .replay tenantId caller reason eventIds deadLetteredSince true ∧
      ∃ row ∈ events.rows, row.id = claim.eventId ∧ row.state.status = .deadLettered ∧
        ∃ row' ∈ (step.perform events).1.rows, row'.id = row.id ∧ row'.state.status = .pending

def OutboxStep.ReleasesMarked (step : OutboxStep) (events : OutboxEvents) (eventId : Uuid) : Prop :=
  ∃ claim error, step.op = .release claim error ∧ claim.eventId = eventId ∧
    ∃ row ∈ events.rows, row.OwnedBy claim ∧ row.state.markedBy (some claim.claimToken) = true

namespace OutboxEvent.HeldBy

variable {row : OutboxEvent} {claim : EventClaim} {step : OutboxStep} {events : OutboxEvents}

lemma exists_held_or_pending (h : row.HeldBy claim) (hrow : row ∈ events.rows)
    {state : DispatchState} (hstore : (step.perform events).1 =
      events.store step.session.now row.id state) :
    state.status = .pending ∨ ∃ row' ∈ (step.perform events).1.rows, row'.HeldBy claim := by
  by_cases hpending : state.status = .pending
  · exact .inl hpending
  · refine .inr ⟨row.written step.session.now state, ?_, h.written_of_ne_pending hpending⟩
    rw [hstore]
    exact OutboxEvents.written_mem_store hrow step.session.now state

lemma mem_perform_of_ne_pending (h : row.HeldBy claim) (hrow : row ∈ events.rows)
    (hclaim : step.op.claim? = some claim) (hpending : row.state.status ≠ .pending) :
    row ∈ (step.perform events).1.rows := by
  have hstale : ∀ other ∈ events.rows, ¬ other.OwnedBy claim := by
    intro other hother howned
    have heq : other = row := events.unique_id.eq_of_key_eq hother hrow
      (howned.id_eq.trans h.id_eq.symm)
    exact hpending (heq ▸ howned.pending)
  rw [(OutboxStep.perform_of_stale hclaim hstale).1]
  exact hrow

variable {random : ℚ}

section

variable (h : row.HeldBy claim) (hrow : row ∈ events.rows)

include h hrow

lemma perform_confirmedNotSent {error : PyException} {blockException : Option PyException}
    {retryAfter : Option RetryHint}
    (hop : step.op = .confirmedNotSent claim error blockException retryAfter random)
    (hattested : isAttestedNotSent error blockException = true) :
    step.Excuses events claim ∨ ∃ row' ∈ (step.perform events).1.rows, row'.HeldBy claim := by
  by_cases hpending : row.state.status = .pending
  · have hperform : step.perform events =
        (events.store step.session.now row.id (row.state.notSent step.session claim.claimToken error
          blockException retryAfter random),
        .status (some (row.state.notSent step.session claim.claimToken error blockException
          retryAfter random).status)) := by
      simp [OutboxStep.perform, hop, recordConfirmedNotSent,
        OutboxEvents.onClaimedRow_of_owned hrow (h.ownedBy hpending)]
    rcases h.exists_held_or_pending hrow (congrArg Prod.fst hperform) with hretried | hheld
    · refine .inl (.inl ⟨error, blockException, retryAfter, random, hop, hattested, ?_⟩)
      rw [hperform, hretried]
    · exact .inr hheld
  · exact .inr ⟨row, h.mem_perform_of_ne_pending hrow (by rw [hop]; rfl) hpending, h⟩

lemma perform_ambiguous {error : AmbiguousOutcome} (hop : step.op = .ambiguous claim error random)
    (htolerated : error.atLeastOnce = true) :
    step.Excuses events claim ∨ ∃ row' ∈ (step.perform events).1.rows, row'.HeldBy claim := by
  by_cases hpending : row.state.status = .pending
  · have hlocked := OutboxEvents.lockedClaimedRow_eq_some.mpr ⟨hrow, h.ownedBy hpending⟩
    have houtcome : row.ambiguousOutcome step.session claim.claimToken error random =
        .ok (row.ambiguousAtLeastOnce step.session error random) := by
      simp [OutboxEvent.ambiguousOutcome, htolerated]
    have hperform : step.perform events =
        (events.store step.session.now row.id (row.ambiguousAtLeastOnce step.session error random),
        .status (some (row.ambiguousAtLeastOnce step.session error random).status)) := by
      simp [OutboxStep.perform, hop, recordAmbiguousOutcome, hlocked, houtcome, OutboxEvents.orElse,
        h.id_eq]
    rcases h.exists_held_or_pending hrow (congrArg Prod.fst hperform) with hretried | hheld
    · refine .inl (.inr (.inl ⟨error, random, hop, htolerated, ?_⟩))
      rw [hperform, hretried]
    · exact .inr hheld
  · exact .inr ⟨row, h.mem_perform_of_ne_pending hrow (by rw [hop]; rfl) hpending, h⟩

lemma perform_replay {tenantId : Uuid} {caller : Caller} {reason : String}
    {eventIds : Option (List Uuid)}
    {deadLetteredSince : Option Instant}
    (hop : step.op = .replay tenantId caller reason eventIds deadLetteredSince true) :
    step.Excuses events claim ∨ ∃ row' ∈ (step.perform events).1.rows, row'.HeldBy claim := by
  obtain ⟨row', hrow', hmoves⟩ := (step.moved_perform events).exists_mem hrow
  rcases Relation.ReflTransGen.cases_head hmoves with rfl | ⟨_, ⟨state, htransition, -⟩, -⟩
  · exact .inr ⟨row, hrow', h⟩
  · have hdead : row.state.status = .deadLettered := by
      cases htransition <;> simp_all
    by_cases hpending : row'.state.status = .pending
    · exact .inl (.inr (.inr ⟨tenantId, caller, reason, eventIds, deadLetteredSince, hop, row, hrow,
        h.id_eq, hdead, row', hrow', OutboxStep.id_eq_of_moves hmoves, hpending⟩))
    · refine .inr ⟨row', hrow', ?_, ?_, fun hpending' => absurd hpending' hpending⟩
      · exact (OutboxStep.id_eq_of_moves hmoves).trans h.id_eq
      · exact (OutboxStep.tenantId_eq_of_moves hmoves).trans h.tenantId_eq

end

lemma perform (h : row.HeldBy claim) (hrow : row ∈ events.rows)
    (hopen : step.session.OpenFor claim.tenantId)
    (hrelease : ¬ step.ReleasesMarked events claim.eventId) :
    step.Excuses events claim ∨ ∃ row' ∈ (step.perform events).1.rows, row'.HeldBy claim := by
  by_cases hretry : step.MayRetry claim
  · rcases hretry with ⟨error, blockException, retryAfter, random, hop, hattested⟩ |
      ⟨error, random, hop, htolerated⟩ | ⟨tenantId, caller, reason, eventIds, since, hop⟩
    · exact h.perform_confirmedNotSent hrow hop hattested
    · exact h.perform_ambiguous hrow hop htolerated
    · exact h.perform_replay hrow hop
  obtain ⟨row', hrow', hmoves⟩ := (step.moved_perform events).exists_mem hrow
  by_cases hop : ∃ claim' error, step.op = .release claim' error
  · -- the row is not owned by the claim that is released, so it does not move at all
    obtain ⟨claim', error, hop⟩ := hop
    rcases Relation.ReflTransGen.cases_head hmoves with rfl | ⟨_, ⟨state, htransition, -⟩, -⟩
    · exact .inr ⟨row, hrow', h⟩
    · have howned : row.OwnedBy claim' := by
        cases htransition <;> simp_all
      obtain rfl := h.eq_of_ownedBy howned
      exact absurd ⟨claim', error, hop, rfl, row, hrow, howned, h.markedBy howned.pending⟩ hrelease
  · have hop' : ∀ claim' error, step.op ≠ .release claim' error :=
      fun claim' error heq => hop ⟨claim', error, heq⟩
    refine .inr ⟨row', hrow', OutboxStep.reflTransGen_keeps (I := fun r => r.HeldBy claim)
      (fun r state htransition hr => hr.transition htransition hopen hop' hretry) hmoves h⟩

end OutboxEvent.HeldBy

/-! ## Runs -/

namespace OutboxSystem

def Excused (system : OutboxSystem) (steps : List OutboxStep) (claim : EventClaim) : Prop :=
  ∃ before step after, steps = before ++ step :: after ∧
    step.Excuses (system.run before).events claim

/-- No step of the run releases a claim of the event under a marker. -/
def ReleasesNoMarked (system : OutboxSystem) (steps : List OutboxStep) (eventId : Uuid) : Prop :=
  ∀ before step after, steps = before ++ step :: after →
    ¬ step.ReleasesMarked (system.run before).events eventId

/-- A marked attempt of the event is never silently run again: after a claim committed its marker,
an execution under another claim does not begin unless something in between excuses it. -/
def NeverRerun (system : OutboxSystem) (steps : List OutboxStep) (tenantId eventId : Uuid) : Prop :=
  ∀ before mark between start after token claim,
    steps = before ++ mark :: (between ++ start :: after) →
    mark.op = .markStarted ⟨tenantId, eventId, token⟩ →
    (mark.perform (system.run before).events).2 = .done true →
    start.op = .beginExecution claim → claim.eventId = eventId → claim.claimToken ≠ token →
    (∃ execution, (start.perform (system.run (before ++ mark :: between)).events).2 =
      .execution (some execution)) →
    ((system.run before).step mark).Excused between ⟨tenantId, eventId, token⟩

variable {system : OutboxSystem} {steps : List OutboxStep} {eventId : Uuid}

lemma ReleasesNoMarked.tail {step : OutboxStep}
    (h : system.ReleasesNoMarked (step :: steps) eventId) :
    (system.step step).ReleasesNoMarked steps eventId := by
  intro before step' after hsteps
  exact h (step :: before) step' after (by rw [hsteps, List.cons_append])

variable {before after : List OutboxStep}

lemma ReleasesNoMarked.of_append (h : system.ReleasesNoMarked (before ++ after) eventId) :
    (system.run before).ReleasesNoMarked after eventId := by
  intro before' step after' hsteps
  have hnot := h (before ++ before') step after' (by rw [hsteps, List.append_assoc])
  rwa [run_append] at hnot

lemma ReleasesNoMarked.of_append_left (h : system.ReleasesNoMarked (before ++ after) eventId) :
    system.ReleasesNoMarked before eventId := by
  intro before' step after' hsteps
  exact h before' step (after' ++ after) (by rw [hsteps, List.append_assoc, List.cons_append])

lemma excused_or_held {claim : EventClaim} {row : OutboxEvent} (hrow : row ∈ system.events.rows)
    (hheld : row.HeldBy claim) (hopen : ∀ step ∈ steps, step.session.OpenFor claim.tenantId)
    (hrelease : system.ReleasesNoMarked steps claim.eventId) :
    system.Excused steps claim ∨
      ∃ row' ∈ (system.run steps).events.rows, row'.HeldBy claim := by
  induction steps generalizing system row with
  | nil => exact .inr ⟨row, hrow, hheld⟩
  | cons step steps ih =>
    rcases hheld.perform hrow (hopen step List.mem_cons_self) (hrelease [] step steps rfl) with
      hexcuses | ⟨row', hrow', hheld'⟩
    · exact .inl ⟨[], step, steps, rfl, hexcuses⟩
    · have hopen' : ∀ s ∈ steps, s.session.OpenFor claim.tenantId :=
        fun s hs => hopen s (List.mem_cons_of_mem step hs)
      rcases ih hrow' hheld' hopen' hrelease.tail with
        ⟨before, excuse, after, rfl, hexcuses⟩ | hend
      · exact .inl ⟨step :: before, excuse, after, rfl, hexcuses⟩
      · exact .inr hend

end OutboxSystem

variable {step : OutboxStep} {events : OutboxEvents} {claim : EventClaim}

lemma OutboxStep.exists_heldBy_of_marked (hop : step.op = .markStarted claim)
    (hdone : (step.perform events).2 = .done true) :
    ∃ row ∈ (step.perform events).1.rows, row.HeldBy claim := by
  cases hmark : markExternalEffectStarted step.session claim events with
  | error raised => simp [OutboxStep.perform, hop, hmark, OutboxEvents.orElse] at hdone
  | ok written =>
    have hperform : step.perform events = (written.1, .done written.2) := by
      simp [OutboxStep.perform, hop, hmark, OutboxEvents.orElse]
    rw [hperform] at hdone ⊢
    unfold markExternalEffectStarted at hmark
    split at hmark
    · split at hmark
      · cases hmark
      · next row hrow =>
        cases hmark
        obtain ⟨hmem, howned⟩ :=
          OutboxEvents.lockedClaimedRow_eq_some.mp (Option.filter_eq_some_iff.mp hrow).1
        rw [← howned.id_eq]
        exact ⟨_, OutboxEvents.written_mem_store hmem _ _, howned.id_eq, howned.tenantId_eq,
          fun _ => ⟨howned.token, rfl⟩⟩
    · cases hmark
      cases hdone

lemma OutboxStep.exists_ownedBy_of_execution (hop : step.op = .beginExecution claim)
    {execution : EventExecution}
    (hexecution : (step.perform events).2 = .execution (some execution)) :
    ∃ row ∈ events.rows, row.OwnedBy claim := by
  by_contra hnone
  have hstale : ∀ row ∈ events.rows, ¬ row.OwnedBy claim :=
    fun row hrow howned => hnone ⟨row, hrow, howned⟩
  have hclaim : step.op.claim? = some claim := by rw [hop]; rfl
  rcases (OutboxStep.perform_of_stale hclaim hstale).2 with hnegative | ⟨hmark, -⟩
  · simp [hexecution, OutboxReport.isNegative] at hnegative
  · simp [hop] at hmark

namespace OutboxSystem

/-- **A marked attempt is not run again.**  In every run in which the event's tenant is open and no
current claim of the event is released after it has marked it, an execution under another claim than
the marked one begins only after the marked attempt was retried on its attested failure or on an
ambiguous outcome that the destination tolerates, or after the event was replayed. -/
theorem run_neverRerun (system : OutboxSystem) (steps : List OutboxStep) (tenantId eventId : Uuid)
    (hopen : ∀ step ∈ steps, step.session.OpenFor tenantId)
    (hrelease : system.ReleasesNoMarked steps eventId) :
    system.NeverRerun steps tenantId eventId := by
  intro before mark between start after token claim hsteps hmark hdone hstart hevent hne hexecution
  subst hsteps
  obtain ⟨row, hrow, hheld⟩ := OutboxStep.exists_heldBy_of_marked hmark hdone
  have hopen' : ∀ step ∈ between, step.session.OpenFor tenantId := by
    intro step hstep
    exact hopen step (by simp [hstep])
  have hrelease' : ((system.run before).step mark).ReleasesNoMarked between eventId :=
    hrelease.of_append.tail.of_append_left
  have hlater : ((system.run before).step mark).Excused between ⟨tenantId, eventId, token⟩ ∨
      ∃ row' ∈ (((system.run before).step mark).run between).events.rows,
        row'.HeldBy ⟨tenantId, eventId, token⟩ := excused_or_held hrow hheld hopen' hrelease'
  rcases hlater with hexcused | ⟨row', hrow', hheld'⟩
  · exact hexcused
  · -- the row is still held, so the other claim does not own it
    obtain ⟨execution, hexecution⟩ := hexecution
    rw [run_append, run_cons] at hexecution
    obtain ⟨row₁, hrow₁, howned⟩ := OutboxStep.exists_ownedBy_of_execution hstart hexecution
    have heq : row₁ = row' := (((system.run before).step mark).run
      between).events.unique_id.eq_of_key_eq hrow₁ hrow'
      (howned.id_eq.trans (hevent.trans hheld'.id_eq.symm))
    subst heq
    have hclaim := hheld'.eq_of_ownedBy howned
    exact absurd (congrArg EventClaim.claimToken hclaim) hne

end OutboxSystem

def markedRun : List OutboxStep :=
  [claimAt 0 100, ⟨openSession 1, .beginExecution ⟨1, 7, 100⟩⟩,
    ⟨openSession 2, .markStarted ⟨1, 7, 100⟩⟩]

def secondExecution : OutboxStep := ⟨openSession 41000000, .beginExecution ⟨1, 7, 200⟩⟩

def toleratedOutcome : OutboxStep :=
  ⟨openSession 3, .ambiguous ⟨1, 7, 100⟩
    { reason := "read_timeout", phase := "read", atLeastOnce := true } 0⟩

/-- The second execution begins after the excused retry, and only because of it. -/
theorem run_neverRerun_tolerated :
    (secondExecution.perform (recordedSystem.run
      (markedRun ++ [toleratedOutcome, claimAt 40000000 200])).events).2 =
        .execution (some ⟨7, 1, "billing.invoice_issued", none, 2⟩) ∧
      recordedSystem.NeverRerun (markedRun ++ [toleratedOutcome, claimAt 40000000 200,
        secondExecution]) 1 7 := by
  refine ⟨by decide +kernel, OutboxSystem.run_neverRerun _ _ 1 7 ?_ ?_⟩
  · intro step hstep
    simp only [markedRun, List.cons_append, List.nil_append, List.mem_cons, List.not_mem_nil,
      or_false] at hstep
    rcases hstep with rfl | rfl | rfl | rfl | rfl | rfl <;> rfl
  · rintro before step after hsteps ⟨claim, error, hop, -⟩
    have hstep : step ∈ markedRun ++ [toleratedOutcome, claimAt 40000000 200, secondExecution] := by
      rw [hsteps]
      simp
    simp only [markedRun, List.cons_append, List.nil_append, List.mem_cons, List.not_mem_nil,
      or_false] at hstep
    rcases hstep with rfl | rfl | rfl | rfl | rfl | rfl <;> cases hop

def failedHandOver : OutboxStep :=
  ⟨openSession 3, .release ⟨1, 7, 100⟩ (.text "ConnectionError: connection reset")⟩

/-- The tenant is open all the time, and still the marked attempt is run again after its claim was
given back, without anything that excuses it. -/
theorem failedHandOver_reruns :
    (∀ step ∈ markedRun ++ [failedHandOver, claimAt 40000000 200, secondExecution],
      step.session.OpenFor 1) ∧
      ¬ recordedSystem.NeverRerun (markedRun ++ [failedHandOver, claimAt 40000000 200,
        secondExecution]) 1 7 := by
  constructor
  · intro step hstep
    simp only [markedRun, List.cons_append, List.nil_append, List.mem_cons, List.not_mem_nil,
      or_false] at hstep
    rcases hstep with rfl | rfl | rfl | rfl | rfl | rfl <;> rfl
  · intro hnever
    obtain ⟨before, step, after, hsteps, hexcuses⟩ := hnever
      [claimAt 0 100, ⟨openSession 1, .beginExecution ⟨1, 7, 100⟩⟩]
      ⟨openSession 2, .markStarted ⟨1, 7, 100⟩⟩ [failedHandOver, claimAt 40000000 200]
      secondExecution [] 100 ⟨1, 7, 200⟩ rfl rfl (by decide +kernel) rfl rfl (by decide)
      ⟨⟨7, 1, "billing.invoice_issued", none, 1⟩, by decide +kernel⟩
    have hstep : step ∈ [failedHandOver, claimAt 40000000 200] := by
      rw [hsteps]
      simp
    simp only [List.mem_cons, List.not_mem_nil, or_false] at hstep
    rcases hexcuses with ⟨_, _, _, _, hop, -⟩ | ⟨_, _, hop, -⟩ | ⟨_, _, _, _, _, hop, -⟩ <;>
      rcases hstep with rfl | rfl <;> cases hop

end SaasOs
