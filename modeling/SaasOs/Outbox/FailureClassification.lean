import SaasOs.Outbox.Ownership

/-!
# The classification of a consumer's failure

What a consumer raises is a tree: groups of exceptions, nested, whose leaves and groups are of classes
that say what is known of the request.  The dispatcher classifies the tree, the consumer's explicit
statement first, and records the attempt under the row lock.
-/

namespace SaasOs

/-! ## Exceptions -/

/-- What the dispatcher reads of one exception object of a consumer. -/
structure ConsumerError where
  raised : RaisedError
  ambiguous : Option AmbiguousOutcome
  retryAfter : Option RetryHint
  /-- A `TimeoutError` or an `httpx.TimeoutException`. -/
  timeout : Bool
  class_rule : ambiguous.isSome = true → raised.confirmedNotSent = false := by decide

/-- What a consumer raises: an exception, or a group of them. -/
inductive ConsumerException
  | single (error : ConsumerError)
  | group (error : ConsumerError) (members : List ConsumerException)

namespace ConsumerException

def error : ConsumerException → ConsumerError
  | single error => error
  | group error _ => error

mutual

/-- `_leaf_exceptions`: the exception itself, or every member of the group that is no group. -/
def leafExceptions : ConsumerException → List ConsumerError
  | single error => [error]
  | group _ members => leavesOf members

def leavesOf : List ConsumerException → List ConsumerError
  | [] => []
  | member :: members => leafExceptions member ++ leavesOf members

end

mutual

def toPyException : ConsumerException → PyException
  | single error => .single error.raised
  | group error members => .group error.raised (toPyExceptions members)

def toPyExceptions : List ConsumerException → List PyException
  | [] => []
  | member :: members => toPyException member :: toPyExceptions members

end

mutual

def isUnclassifiedTimeout : ConsumerException → Bool
  | single error => !error.raised.confirmedNotSent && error.timeout
  | group error members =>
    !error.raised.confirmedNotSent && (error.timeout || anyUnclassifiedTimeout members)

def anyUnclassifiedTimeout : List ConsumerException → Bool
  | [] => false
  | member :: members => isUnclassifiedTimeout member || anyUnclassifiedTimeout members

end

mutual

/-- `_ambiguous_members`: what is ambiguous, whether it is a leaf or a group. -/
def ambiguousMembers : ConsumerException → List AmbiguousOutcome
  | single error => error.ambiguous.toList
  | group error members =>
    match error.ambiguous with
    | some outcome => [outcome]
    | none => ambiguousMembersOf members

def ambiguousMembersOf : List ConsumerException → List AmbiguousOutcome
  | [] => []
  | member :: members => ambiguousMembers member ++ ambiguousMembersOf members

end

end ConsumerException

/-! ## Classification -/

def unclassifiedPhase : String := "unclassified"

lemma shortest_pos (members : List AmbiguousOutcome) :
    ∀ w ∈ (members.filterMap AmbiguousOutcome.retryWithin).min?, 0 < w := by
  intro w hw
  obtain ⟨outcome, -, hwindow⟩ := List.mem_filterMap.mp (List.min?_mem hw)
  exact outcome.retryWithin_pos w hwindow

lemma window_pos_none : ∀ w ∈ (none : Option ℤ), 0 < w := by
  simp

lemma one_policy_none : (none : Option ℤ).isSome = true → true = false := by
  simp

def mergedOutcome (first : AmbiguousOutcome) (members : List AmbiguousOutcome) : AmbiguousOutcome :=
  if members.all AmbiguousOutcome.atLeastOnce then
    { reason := first.reason
      phase := first.phase
      atLeastOnce := true
      one_policy := one_policy_none
      retryWithin_pos := window_pos_none }
  else if members.all fun outcome => outcome.retryWithin.isSome then
    { reason := first.reason
      phase := first.phase
      retryWithin := (members.filterMap AmbiguousOutcome.retryWithin).min?
      one_policy := fun _ => rfl
      retryWithin_pos := shortest_pos members }
  else { reason := first.reason, phase := first.phase, retryWithin_pos := window_pos_none }

/-- `_ambiguous_outcome`. -/
def ambiguousOutcomeOf (exc : ConsumerException) : Option AmbiguousOutcome :=
  match exc.error.ambiguous with
  | some outcome => some outcome
  | none =>
    if exc.error.raised.permanent || exc.error.retryAfter.isSome then none
    else if exc.isUnclassifiedTimeout then
      some { reason := exc.error.raised.typeName, phase := unclassifiedPhase,
             retryWithin_pos := window_pos_none }
    else
      match exc.ambiguousMembers with
      | [] => none
      | first :: members => some (mergedOutcome first (first :: members))

def everyLeafConfirmedNotSent (exc : ConsumerException) : Bool :=
  exc.leafExceptions.all fun leaf => leaf.raised.confirmedNotSent

def everyLeafAtLeastOnce (exc : ConsumerException) : Bool :=
  exc.leafExceptions.all fun leaf => leaf.ambiguous.any AmbiguousOutcome.atLeastOnce

def sharesLeaf (exc block : ConsumerException) : Bool :=
  exc.leafExceptions.any fun leaf =>
    block.leafExceptions.any fun other => leaf.raised.identity == other.raised.identity

def blockGroupDeclaresOnlyAtLeastOnce (exc : ConsumerException)
    (blockException : Option ConsumerException) : Bool :=
  match blockException with
  | none => true
  | some block => !sharesLeaf exc block || everyLeafAtLeastOnce block

/-- What the writer of the started marker knows: whether this execution has committed it, and what
has left the block of the external effect. -/
structure ExternalEffectStarter where
  started : Bool
  blockException : Option ConsumerException

/-- The outcome that is recorded: after a marker `at_least_once` counts only if the consumer has
declared it and nothing else. -/
def creditedOutcome (exc : ConsumerException) (starter : Option ExternalEffectStarter)
    (outcome : AmbiguousOutcome) : AmbiguousOutcome :=
  match starter with
  | none => outcome
  | some starter =>
    if starter.started && outcome.atLeastOnce &&
        !(everyLeafAtLeastOnce exc &&
          blockGroupDeclaresOnlyAtLeastOnce exc starter.blockException) then
      { reason := outcome.reason, phase := outcome.phase, retryWithin_pos := window_pos_none }
    else outcome

def recordConsumerFailure (session : OutboxSession) (claim : EventClaim) (exc : ConsumerException)
    (starter : Option ExternalEffectStarter) (random : ℚ) (events : OutboxEvents) :
    Except OutboxError (OutboxEvents × Option EventStatus) :=
  let failure := Failure.exception exc.toPyException
  match ambiguousOutcomeOf exc with
  | some outcome =>
    recordAmbiguousOutcome session claim (creditedOutcome exc starter outcome) random events
  | none =>
    if exc.error.raised.permanent then
      .ok (failEvent session claim failure true none random events)
    else
      match starter.filter fun starter => starter.started && everyLeafConfirmedNotSent exc with
      | some starter =>
        .ok (recordConfirmedNotSent session claim exc.toPyException
          (starter.blockException.map ConsumerException.toPyException) exc.error.retryAfter random
          events)
      | none =>
        match exc.error.retryAfter with
        | some hint => .ok (failEvent session claim failure false (some hint) random events)
        | none => .ok (failEvent session claim failure false none random events)

/-! ## Statements of the consumer -/

namespace ConsumerException

/-- Every leaf is an ambiguous outcome that declares `at_least_once`. -/
def DeclaresAtLeastOnce (exc : ConsumerException) : Prop :=
  ∀ leaf ∈ exc.leafExceptions, ∃ outcome ∈ leaf.ambiguous, outcome.atLeastOnce = true

def SharesLeaf (exc block : ConsumerException) : Prop :=
  ∃ leaf ∈ exc.leafExceptions, ∃ other ∈ block.leafExceptions,
    leaf.raised.identity = other.raised.identity

/-- Every leaf declares `at_least_once`, and none of them has left the block in a group with a leaf
that does not. -/
def ToleratesRepetition (exc : ConsumerException) (blockException : Option ConsumerException) :
    Prop :=
  exc.DeclaresAtLeastOnce ∧
    ∀ block ∈ blockException, exc.SharesLeaf block → block.DeclaresAtLeastOnce

/-- Every leaf is confirmed not sent and, by identity, a leaf of what has left the block, and so is
every leaf of the latter confirmed not sent. -/
def AttestsNotSent (exc : ConsumerException) (blockException : Option ConsumerException) : Prop :=
  ∃ block ∈ blockException,
    (∀ leaf ∈ exc.leafExceptions, leaf.raised.confirmedNotSent = true ∧
      ∃ other ∈ block.leafExceptions, leaf.raised.identity = other.raised.identity) ∧
    ∀ leaf ∈ block.leafExceptions, leaf.raised.confirmedNotSent = true

mutual

lemma leaves_toPyException :
    ∀ exc : ConsumerException, exc.toPyException.leaves = exc.leafExceptions.map ConsumerError.raised
  | single error => by simp [toPyException, leafExceptions, PyException.leaves]
  | group error members => by
    rw [toPyException, leafExceptions, PyException.leaves]
    exact leaves_toPyExceptions members

lemma leaves_toPyExceptions : ∀ members : List ConsumerException,
    (toPyExceptions members).flatMap PyException.leaves =
      (leavesOf members).map ConsumerError.raised
  | [] => rfl
  | member :: members => by
    rw [toPyExceptions, leavesOf, List.flatMap_cons, List.map_append, leaves_toPyException member,
      leaves_toPyExceptions members]

end

variable {exc : ConsumerException} {blockException : Option ConsumerException}

lemma everyLeafAtLeastOnce_iff : everyLeafAtLeastOnce exc = true ↔ exc.DeclaresAtLeastOnce := by
  unfold everyLeafAtLeastOnce DeclaresAtLeastOnce
  rw [List.all_eq_true]
  refine forall₂_congr fun leaf _ => ?_
  rw [Option.any_eq_true]
  rfl

lemma toleratesRepetition_iff :
    (everyLeafAtLeastOnce exc && blockGroupDeclaresOnlyAtLeastOnce exc blockException) = true ↔
      exc.ToleratesRepetition blockException := by
  rw [Bool.and_eq_true, everyLeafAtLeastOnce_iff]
  refine and_congr_right fun _ => ?_
  cases blockException with
  | none => simp [blockGroupDeclaresOnlyAtLeastOnce]
  | some block =>
    have hshares : sharesLeaf exc block = true ↔ exc.SharesLeaf block := by
      simp [sharesLeaf, SharesLeaf]
    simp only [blockGroupDeclaresOnlyAtLeastOnce, Bool.or_eq_true, Bool.not_eq_true',
      Bool.eq_false_iff, ne_eq, hshares, everyLeafAtLeastOnce_iff, Option.mem_def,
      Option.some.injEq, forall_eq']
    exact imp_iff_not_or.symm

lemma attestsNotSent_iff :
    isAttestedNotSent exc.toPyException (blockException.map toPyException) = true ↔
      exc.AttestsNotSent blockException := by
  cases blockException with
  | none => simp [isAttestedNotSent, AttestsNotSent]
  | some block =>
    simp only [isAttestedNotSent, AttestsNotSent, Option.map_some, leaves_toPyException,
      Bool.and_eq_true, List.all_eq_true, List.mem_map, forall_exists_index, and_imp,
      forall_apply_eq_imp_iff₂, List.contains_iff_mem, Option.mem_def, Option.some.injEq,
      exists_eq_left']
    constructor
    · rintro ⟨⟨hexc, hblock⟩, hfrom⟩
      refine ⟨fun leaf hleaf => ⟨hexc leaf hleaf, ?_⟩, hblock⟩
      obtain ⟨-, ⟨other, hother, rfl⟩, hidentity⟩ := hfrom leaf hleaf
      exact ⟨other, hother, hidentity.symm⟩
    · rintro ⟨hexc, hblock⟩
      refine ⟨⟨fun leaf hleaf => (hexc leaf hleaf).1, hblock⟩, fun leaf hleaf => ?_⟩
      obtain ⟨-, other, hother, hidentity⟩ := hexc leaf hleaf
      exact ⟨_, ⟨other, hother, rfl⟩, hidentity.symm⟩

end ConsumerException

/-! ## Marked attempts -/

/-- A marked attempt is released for a retry, which the consumer's statement allows, or dead-lettered
with its marker kept. -/
def DispatchState.RetriedOnlyIf (before after : DispatchState) (statement : Prop) : Prop :=
  after.status = .pending ∧ after.started = none ∧ statement ∨
    after.status = .deadLettered ∧ after.started = before.started

namespace DispatchState

variable {before : DispatchState} {statement : Prop} {claimToken : Uuid} {session : OutboxSession}
  {random : ℚ}

lemma retriedOnlyIf_deadLetter (reason : Option String) :
    before.RetriedOnlyIf (before.deadLetter reason) statement := by
  refine .inr ⟨status_deadLetter _ _, ?_⟩
  cases reason <;> rfl

lemma retriedOnlyIf_failed (hmarked : before.markedBy (some claimToken) = true) (error : Failure)
    (terminal : Bool) (retryAfter : Option RetryHint) :
    before.RetriedOnlyIf (before.failed session claimToken error terminal retryAfter random)
      statement := by
  unfold failed
  rw [if_pos hmarked]
  exact retriedOnlyIf_deadLetter _

lemma retriedOnlyIf_notSent (hpending : before.status = .pending)
    (hmarked : before.markedBy (some claimToken) = true)
    (hattempts : before.attempts < session.config.maxAttempts) {exc : ConsumerException}
    {blockException : Option ConsumerException} (retryAfter : Option RetryHint) (random : ℚ)
    (hstatement : exc.AttestsNotSent blockException → statement) :
    before.RetriedOnlyIf (before.notSent session claimToken exc.toPyException
      (blockException.map ConsumerException.toPyException) retryAfter random) statement := by
  unfold notSent
  dsimp only
  rw [hmarked, Bool.true_and, Bool.true_and]
  split
  case isTrue => exact retriedOnlyIf_deadLetter _
  case isFalse =>
    split
    case isTrue => exact retriedOnlyIf_deadLetter _
    case isFalse hattested =>
      rw [Bool.not_eq_true', Bool.not_eq_false, ConsumerException.attestsNotSent_iff] at hattested
      unfold ordinaryFailure
      rw [Bool.false_or, decide_eq_false (not_le.mpr hattempts)]
      exact .inl ⟨hpending, rfl, hstatement hattested⟩

end DispatchState

lemma OutboxEvent.retriedOnlyIf_ambiguousOutcome {row : OutboxEvent} {claimToken : Uuid}
    {session : OutboxSession} {statement : Prop} (hpending : row.state.status = .pending)
    (hmarked : row.state.markedBy (some claimToken) = true)
    (hattempts : row.state.attempts < session.config.maxAttempts) {outcome : AmbiguousOutcome}
    (random : ℚ) (hstatement : outcome.atLeastOnce = true → statement) :
    ∃ state, row.ambiguousOutcome session claimToken outcome random = .ok state ∧
      row.state.RetriedOnlyIf state statement := by
  unfold OutboxEvent.ambiguousOutcome
  rw [hmarked, Bool.true_and]
  cases honce : outcome.atLeastOnce with
  | false =>
    refine ⟨_, rfl, .inr ⟨DispatchState.status_deadLetter _ _, rfl⟩⟩
  | true =>
    refine ⟨_, rfl, .inl ?_⟩
    unfold OutboxEvent.ambiguousAtLeastOnce
    dsimp only
    rw [if_pos hattempts]
    exact ⟨hpending, rfl, hstatement honce⟩

lemma toleratesRepetition_of_credited {exc : ConsumerException}
    {blockException : Option ConsumerException} {outcome : AmbiguousOutcome}
    (h : (creditedOutcome exc (some ⟨true, blockException⟩) outcome).atLeastOnce = true) :
    exc.ToleratesRepetition blockException := by
  unfold creditedOutcome at h
  dsimp only at h
  split at h
  case isTrue => cases h
  case isFalse hcredited =>
    rw [h, Bool.true_and, Bool.true_and, Bool.not_eq_true', Bool.not_eq_false,
      ConsumerException.toleratesRepetition_iff] at hcredited
    exact hcredited

/-- **A marked attempt is retried only on the consumer's statement**, whatever tree it raises: that
repeated requests are tolerated, or that nothing was sent.  In every other case the event is
dead-lettered, and its marker is kept. -/
theorem recordConsumerFailure_marked (session : OutboxSession) (claim : EventClaim)
    (events : OutboxEvents) {row : OutboxEvent} (hrow : row ∈ events.rows)
    (howned : row.OwnedBy claim) (hmarked : row.state.externalStartedClaim = some claim.claimToken)
    (hattempts : row.state.attempts < session.config.maxAttempts) (exc : ConsumerException)
    (blockException : Option ConsumerException) (random : ℚ) :
    ∃ events' state, recordConsumerFailure session claim exc (some ⟨true, blockException⟩) random
        events = .ok (events', some state.status) ∧
      row.written session.now state ∈ events'.rows ∧
      row.state.RetriedOnlyIf state
        (exc.ToleratesRepetition blockException ∨ exc.AttestsNotSent blockException) := by
  have hlocked := OutboxEvents.lockedClaimedRow_eq_some.mpr ⟨hrow, howned⟩
  have hmarkedBy : row.state.markedBy (some claim.claimToken) = true := by
    simp [DispatchState.markedBy, hmarked]
  have hstored : ∀ state, row.written session.now state ∈
      (events.store session.now claim.eventId state).rows := by
    rw [← howned.id_eq]
    exact OutboxEvents.written_mem_store hrow session.now
  have hfailed : ∀ terminal retryAfter, ∃ events' state,
      failEvent session claim (.exception exc.toPyException) terminal retryAfter random events =
        (events', some state.status) ∧
      row.written session.now state ∈ events'.rows ∧ row.state.RetriedOnlyIf state
        (exc.ToleratesRepetition blockException ∨ exc.AttestsNotSent blockException) := by
    intro terminal retryAfter
    unfold failEvent OutboxEvents.onClaimedRow
    rw [hlocked]
    exact ⟨_, _, rfl, hstored _, DispatchState.retriedOnlyIf_failed hmarkedBy _ terminal retryAfter⟩
  unfold recordConsumerFailure
  dsimp only
  cases ambiguousOutcomeOf exc with
  | some outcome =>
    obtain ⟨state, hstate, hretried⟩ := row.retriedOnlyIf_ambiguousOutcome howned.pending hmarkedBy
      hattempts random fun honce => Or.inl (toleratesRepetition_of_credited honce)
    refine ⟨_, state, ?_, hstored state, hretried⟩
    dsimp only
    unfold recordAmbiguousOutcome
    rw [hlocked]
    dsimp only
    rw [hstate]
  | none =>
    dsimp only
    split
    · obtain ⟨events', state, hfail, hwritten⟩ := hfailed true none
      exact ⟨events', state, congrArg Except.ok hfail, hwritten⟩
    · cases hleaves : everyLeafConfirmedNotSent exc with
      | true =>
        simp only [Option.filter_some, Bool.and_self, if_true]
        refine ⟨_, _, ?_, hstored _, DispatchState.retriedOnlyIf_notSent howned.pending hmarkedBy
          hattempts exc.error.retryAfter random Or.inr⟩
        unfold recordConfirmedNotSent OutboxEvents.onClaimedRow
        rw [hlocked]
      | false =>
        simp only [Option.filter_some, Bool.and_false, Bool.false_eq_true, if_false]
        cases exc.error.retryAfter with
        | none =>
          obtain ⟨events', state, hfail, hwritten⟩ := hfailed false none
          exact ⟨events', state, congrArg Except.ok hfail, hwritten⟩
        | some hint =>
          obtain ⟨events', state, hfail, hwritten⟩ := hfailed false (some hint)
          exact ⟨events', state, congrArg Except.ok hfail, hwritten⟩

def markedEvent : OutboxEvent :=
  { recordedEvent with
    state :=
      { status := .pending
        attempts := 1
        nextAttemptAt := 900000000
        lastError := none
        publishedAt := none
        claimToken := some 100
        started := some ⟨2, 100⟩
        updatedAt := 2
        claim_only_pending := fun _ => rfl } }

def refusedConnection : ConsumerError where
  raised := ⟨1, "ConnectionRefused", "destination refused", false, true⟩
  ambiguous := none
  retryAfter := none
  timeout := false

def readTimeout : ConsumerError where
  raised := ⟨3, "ReadTimeout", "no answer", false, false⟩
  ambiguous := none
  retryAfter := none
  timeout := true

def refusedOrTimedOut : ConsumerException :=
  .group ⟨⟨2, "ExceptionGroup", "two attempts", false, false⟩, none, none, false, by decide⟩
    [.single refusedConnection, .single readTimeout]

/-- The refused connection alone does not hide the timeout that has left the block with it: the event
is dead-lettered, with its marker. -/
theorem recordConsumerFailure_refusedOrTimedOut :
    ∃ events' state, recordConsumerFailure (openSession 3) ⟨1, 7, 100⟩ (.single refusedConnection)
        (some ⟨true, some refusedOrTimedOut⟩) 0 ⟨[markedEvent], by decide⟩ =
          .ok (events', some state.status) ∧
      markedEvent.written 3 state ∈ events'.rows ∧
      state.status = .deadLettered ∧ state.started = some ⟨2, 100⟩ := by
  obtain ⟨events', state, hrecorded, hmem, hretried⟩ := recordConsumerFailure_marked
    (openSession 3) ⟨1, 7, 100⟩ ⟨[markedEvent], by decide⟩ List.mem_cons_self ⟨rfl, rfl, rfl, rfl⟩
    rfl (by decide) (.single refusedConnection) (some refusedOrTimedOut) 0
  refine ⟨events', state, hrecorded, hmem, ?_⟩
  rcases hretried with ⟨-, -, hstatement⟩ | hkept
  · exfalso
    rcases hstatement with ⟨hdeclares, -⟩ | ⟨block, hblock, -, hall⟩
    · obtain ⟨outcome, houtcome, -⟩ := hdeclares refusedConnection List.mem_cons_self
      cases houtcome
    · cases hblock
      have htimeout := hall readTimeout (List.mem_cons_of_mem _ List.mem_cons_self)
      cases htimeout
  · exact hkept

end SaasOs
