import SaasOs.Outbox.Runs

/-!
# Ownership of outbox events

A claim is proven by its token.  Whatever dispatchers, workers and operators do, at most one token
of an event is current; an operation that names another one changes nothing; a token is settled at
most once; a published row stays as it is; and no event is attempted more often than the policy
allows.
-/

namespace SaasOs

/-! ## What the outcomes have in common -/

/-- The claim is given up: the row is not published by it and no attempt is added. -/
structure DispatchState.GivesUp (state state' : DispatchState) : Prop where
  claimToken : state'.claimToken = none
  attempts_le : state'.attempts ≤ state.attempts
  status : state'.status = state.status ∨ state'.status = .deadLettered

namespace DispatchState

variable {state : DispatchState}

lemma givesUp_deadLetter (state : DispatchState) (reason : Option String) :
    state.GivesUp (state.deadLetter reason) :=
  ⟨by simp, by simp, .inr (by simp)⟩

lemma givesUp_unclaimed (state : DispatchState) : state.GivesUp state.unclaimed :=
  ⟨rfl, le_rfl, .inl rfl⟩

lemma givesUp_released (state : DispatchState) (session : OutboxSession) (error : Failure) :
    state.GivesUp (state.released session error) :=
  ⟨rfl, Nat.sub_le state.attempts 1, .inl rfl⟩

lemma givesUp_ordinaryFailure (state : DispatchState) (session : OutboxSession) (error : Failure)
    (terminal : Bool) (retryAfter : Option RetryHint) (random : ℚ) :
    state.GivesUp (state.ordinaryFailure session error terminal retryAfter random) := by
  unfold ordinaryFailure
  dsimp only
  split
  · exact ⟨rfl, le_rfl, .inr rfl⟩
  · exact ⟨rfl, le_rfl, .inl rfl⟩

lemma givesUp_failed (state : DispatchState) (session : OutboxSession) (claimToken : Uuid)
    (error : Failure) (terminal : Bool) (retryAfter : Option RetryHint) (random : ℚ) :
    state.GivesUp (state.failed session claimToken error terminal retryAfter random) := by
  unfold failed
  split
  · exact givesUp_deadLetter state _
  · exact givesUp_ordinaryFailure state session error terminal retryAfter random

lemma givesUp_notSent (state : DispatchState) (session : OutboxSession) (claimToken : Uuid)
    (error : PyException) (blockException : Option PyException) (retryAfter : Option RetryHint)
    (random : ℚ) :
    state.GivesUp
      (state.notSent session claimToken error blockException retryAfter random) := by
  unfold notSent
  dsimp only
  split
  · exact givesUp_deadLetter state _
  · split
    · exact givesUp_deadLetter state _
    · exact givesUp_ordinaryFailure state session _ false retryAfter random

end DispatchState

lemma OutboxEvent.givesUp_ambiguousOutcome {session : OutboxSession} {claimToken : Uuid}
    {error : AmbiguousOutcome} {random : ℚ} {row : OutboxEvent} {state : DispatchState}
    (h : row.ambiguousOutcome session claimToken error random = .ok state) :
    row.state.GivesUp state := by
  unfold ambiguousOutcome at h
  split at h
  · cases h
    exact ⟨rfl, le_rfl, .inr rfl⟩
  split at h
  · cases h
    unfold ambiguousAtLeastOnce
    dsimp only
    split
    · exact ⟨rfl, le_rfl, .inl rfl⟩
    · exact ⟨rfl, le_rfl, .inr rfl⟩
  split at h
  · unfold ambiguousRetryWithin at h
    split at h
    · cases h
    split at h
    · dsimp only at h
      split at h
      · cases h
      split at h
      · cases h
        exact ⟨rfl, le_rfl, .inl rfl⟩
      · cases h
        exact ⟨rfl, le_rfl, .inr rfl⟩
    · cases h
      exact ⟨rfl, le_rfl, .inr rfl⟩
  · cases h
    exact ⟨rfl, le_rfl, .inr rfl⟩

/-- A lease is renewed: the row keeps its status, its claim and its attempts. -/
structure DispatchState.Keeps (state state' : DispatchState) : Prop where
  claimToken : state'.claimToken = state.claimToken
  attempts : state'.attempts = state.attempts
  status : state'.status = state.status

namespace OutboxStep.Transition

variable {step : OutboxStep} {row : OutboxEvent} {state : DispatchState}

section

variable (h : step.Transition row state)

include h

lemma kinds :
    (row.state.status = .pending ∧ row.state.GivesUp state) ∨
    (row.state.status = .pending ∧ row.state.Keeps state) ∨
    (row.state.status = .pending ∧ state.status = .pending ∧
      row.state.attempts < step.session.config.maxAttempts ∧
      state.attempts = row.state.attempts + 1 ∧
      ∃ random uuid4 locked n, step.op = .claimDue random uuid4 locked ∧
        state.claimToken = some (uuid4 n)) ∨
    (∃ claim, step.op = .complete claim ∧ row.OwnedBy claim ∧
      state = row.state.completed step.session) ∨
    (row.state.status = .deadLettered ∧ state = row.state.replayed step.session.now) := by
  cases h with
  | reclaimRefused hop hpending hrefusal => exact .inl ⟨hpending, row.state.givesUp_deadLetter _⟩
  | @claimed random uuid4 locked n hop hpending hrefusal =>
    have hleft : row.state.attempts < step.session.config.maxAttempts := by
      unfold DispatchState.reclaimRefusal at hrefusal
      split at hrefusal
      · cases hrefusal
      · split at hrefusal
        · cases hrefusal
        · omega
    exact .inr (.inr (.inl ⟨hpending, hpending, hleft, rfl, random, uuid4, locked, n, hop, rfl⟩))
  | closed hop howned hclosed => exact .inl ⟨howned.pending, row.state.givesUp_unclaimed⟩
  | begun hop howned =>
    unfold OutboxEvent.begun
    split
    · exact .inl ⟨howned.pending,
        row.state.givesUp_deadLetter (some DispatchState.retryWindowClosedError)⟩
    · exact .inr (.inl ⟨howned.pending, rfl, rfl, rfl⟩)
  | started hop howned hunmarked => exact .inr (.inl ⟨howned.pending, rfl, rfl, rfl⟩)
  | completed hop howned => exact .inr (.inr (.inr (.inl ⟨_, hop, howned, rfl⟩)))
  | failed hop howned => exact .inl ⟨howned.pending, row.state.givesUp_failed _ _ _ _ _ _⟩
  | notSent hop howned => exact .inl ⟨howned.pending, row.state.givesUp_notSent _ _ _ _ _ _⟩
  | ambiguous hop howned hstate =>
    exact .inl ⟨howned.pending, OutboxEvent.givesUp_ambiguousOutcome hstate⟩
  | released hop howned => exact .inl ⟨howned.pending, row.state.givesUp_released _ _⟩
  | replayed hop hdead => exact .inr (.inr (.inr (.inr ⟨hdead, rfl⟩)))

lemma status_ne_published : row.state.status ≠ .published := by
  rcases h.kinds with ⟨hpending, -⟩ | ⟨hpending, -⟩ | ⟨hpending, -⟩ | ⟨claim, -, howned, -⟩ |
    ⟨hdead, -⟩
  · simp [hpending]
  · simp [hpending]
  · simp [hpending]
  · simp [howned.pending]
  · simp [hdead]

lemma complete_of_published (hpublished : state.status = .published) :
    ∃ claim, step.op = .complete claim ∧ row.OwnedBy claim := by
  rcases h.kinds with ⟨hpending, hgives⟩ | ⟨hpending, hkeeps⟩ | ⟨-, hpending, -⟩ |
    ⟨claim, hop, howned, -⟩ | ⟨-, rfl⟩
  · rcases hgives.status with hstatus | hstatus
    · simp [hstatus, hpending] at hpublished
    · simp [hstatus] at hpublished
  · simp [hkeeps.status, hpending] at hpublished
  · simp [hpending] at hpublished
  · exact ⟨claim, hop, howned⟩
  · cases hpublished

lemma published_of_complete {claim : EventClaim} (hop : step.op = .complete claim) :
    state.status = .published := by
  cases h <;> first | rfl | simp_all

end

lemma attempts_le (h : step.Transition row state) {maxAttempts : ℕ}
    (hpolicy : step.session.config.maxAttempts ≤ maxAttempts)
    (hrow : row.state.attempts ≤ maxAttempts) : state.attempts ≤ maxAttempts := by
  rcases h.kinds with ⟨-, hgives⟩ | ⟨-, hkeeps⟩ | ⟨-, -, hleft, hattempts, -⟩ | ⟨claim, -, -, rfl⟩ |
    ⟨-, rfl⟩
  · exact hgives.attempts_le.trans hrow
  · exact hkeeps.attempts ▸ hrow
  · omega
  · exact hrow
  · exact Nat.zero_le maxAttempts

lemma claimToken_cases (h : step.Transition row state) {token : Uuid}
    (htoken : state.claimToken = some token) :
    row.state.claimToken = some token ∨
      ∃ random uuid4 locked n, step.op = .claimDue random uuid4 locked ∧ token = uuid4 n := by
  rcases h.kinds with ⟨-, hgives⟩ | ⟨-, hkeeps⟩ |
    ⟨-, -, -, -, random, uuid4, locked, n, hop, hdrawn⟩ | ⟨claim, -, -, rfl⟩ | ⟨-, rfl⟩
  · simp [hgives.claimToken] at htoken
  · exact .inl (hkeeps.claimToken ▸ htoken)
  · have heq : uuid4 n = token := Option.some.inj (hdrawn.symm.trans htoken)
    exact .inr ⟨random, uuid4, locked, n, hop, heq.symm⟩
  · cases htoken
  · cases htoken

end OutboxStep.Transition

/-! ## Rows through a step -/

namespace OutboxStep

variable {step : OutboxStep} {row row' : OutboxEvent}

lemma reflTransGen_keeps {I : OutboxEvent → Prop}
    (hkeep : ∀ row state, step.Transition row state → I row →
      I (row.written step.session.now state))
    (h : Relation.ReflTransGen step.Moves row row') (hrow : I row) : I row' := by
  induction h with
  | refl => exact hrow
  | tail _ hmoves ih =>
    obtain ⟨state, htransition, rfl⟩ := hmoves
    exact hkeep _ state htransition ih

section

variable (h : Relation.ReflTransGen step.Moves row row')

include h

lemma id_eq_of_moves : row'.id = row.id :=
  reflTransGen_keeps (I := fun r => r.id = row.id) (fun _ _ _ hid => hid) h rfl

lemma tenantId_eq_of_moves :
    row'.tenantId = row.tenantId :=
  reflTransGen_keeps (I := fun r => r.tenantId = row.tenantId) (fun _ _ _ hid => hid) h rfl

lemma eq_of_published (hpublished : row.state.status = .published) : row' = row := by
  rcases Relation.ReflTransGen.cases_head h with heq | ⟨_, hmoves, -⟩
  · exact heq.symm
  · obtain ⟨state, htransition, -⟩ := hmoves
    exact absurd hpublished htransition.status_ne_published

end

lemma complete_of_published (h : Relation.ReflTransGen step.Moves row row')
    (hrow : row.state.status ≠ .published) (hpublished : row'.state.status = .published) :
    ∃ claim, step.op = .complete claim ∧ row.OwnedBy claim := by
  induction h using Relation.ReflTransGen.head_induction_on with
  | refl => exact absurd hpublished hrow
  | head hmoves _ ih =>
    obtain ⟨state, htransition, rfl⟩ := hmoves
    by_cases hnow : state.status = .published
    · exact htransition.complete_of_published hnow
    · -- a later completion is impossible: the step would have completed the row already
      obtain ⟨claim, hop, -⟩ := ih hnow
      exact absurd (htransition.published_of_complete hop) hnow

end OutboxStep

/-! ## Issued tokens -/

namespace OutboxSystem

/-- Every token in the table was issued, and no two rows carry the same one. -/
structure ClaimsIssued (events : OutboxEvents) (issued : List Uuid) : Prop where
  mem_issued : ∀ row ∈ events.rows, ∀ token, row.state.claimToken = some token → token ∈ issued
  unique : ∀ row ∈ events.rows, ∀ row' ∈ events.rows, ∀ token,
    row.state.claimToken = some token → row'.state.claimToken = some token → row = row'

end OutboxSystem

namespace OutboxSystem.ClaimsIssued

variable {events : OutboxEvents} {issued : List Uuid}

variable {row : OutboxEvent} {state : DispatchState}

section

variable (h : ClaimsIssued events issued)

include h

lemma store_none (now : Instant) (hstate : state.claimToken = none) :
    ClaimsIssued (events.store now row.id state) issued := by
  -- a row that carries a token afterwards was not written
  have hunwritten : ∀ r ∈ (events.store now row.id state).rows, ∀ token,
      r.state.claimToken = some token → r ∈ events.rows := by
    intro r hr token htoken
    obtain ⟨r₀, hr₀, rfl⟩ := List.mem_map.mp hr
    unfold OutboxEvent.stored at htoken ⊢
    split at htoken
    · simp [OutboxEvent.written, hstate] at htoken
    · next hne => rwa [if_neg hne]
  refine ⟨fun r hr token htoken => ?_, fun r hr r' hr' token htoken htoken' => ?_⟩
  · exact h.mem_issued r (hunwritten r hr token htoken) token htoken
  · have hold := hunwritten r hr token htoken
    have hold' := hunwritten r' hr' token htoken'
    exact h.unique r hold r' hold' token htoken htoken'

lemma store_fresh (hrow : row ∈ events.rows) (now : Instant) {token : Uuid}
    (hstate : state.claimToken = some token) (hfresh : token ∉ issued) :
    ClaimsIssued (events.store now row.id state) (issued ++ [token]) := by
  -- a row that carries a token afterwards is the written one, with the new token, or untouched
  have hcases : ∀ r ∈ (events.store now row.id state).rows, ∀ token',
      r.state.claimToken = some token' →
      (token' = token ∧ r = row.written now state) ∨ (token' ∈ issued ∧ r ∈ events.rows) := by
    intro r hr token' htoken'
    obtain ⟨r₀, hr₀, rfl⟩ := List.mem_map.mp hr
    unfold OutboxEvent.stored at htoken' ⊢
    split at htoken'
    · next hid =>
      have heq : r₀ = row := events.unique_id.eq_of_key_eq hr₀ hrow hid
      have htoken : some token = some token' := hstate.symm.trans htoken'
      refine .inl ⟨(Option.some.inj htoken).symm, ?_⟩
      rw [if_pos hid, heq]
    · next hne =>
      rw [if_neg hne]
      exact .inr ⟨h.mem_issued r₀ hr₀ token' htoken', hr₀⟩
  refine ⟨fun r hr token' htoken' => ?_, fun r hr r' hr' token' htoken htoken' => ?_⟩
  · rcases hcases r hr token' htoken' with ⟨rfl, -⟩ | ⟨hissued, -⟩
    · simp
    · exact List.mem_append_left _ hissued
  · rcases hcases r hr token' htoken with ⟨rfl, rfl⟩ | ⟨hissued, hold⟩
    · rcases hcases r' hr' token' htoken' with ⟨-, rfl⟩ | ⟨hissued', -⟩
      · rfl
      · exact absurd hissued' hfresh
    · rcases hcases r' hr' token' htoken' with ⟨rfl, -⟩ | ⟨-, hold'⟩
      · exact absurd hissued hfresh
      · exact h.unique r hold r' hold' token' htoken htoken'

lemma of_moved {step : OutboxStep} {events' : OutboxEvents} (hmoved : step.Moved events events')
    (hop : ∀ random uuid4 locked, step.op ≠ .claimDue random uuid4 locked) :
    ClaimsIssued events' issued := by
  have hcarried : ∀ {r r' : OutboxEvent} {token : Uuid}, Relation.ReflTransGen step.Moves r r' →
      r'.state.claimToken = some token → r.state.claimToken = some token := by
    intro r r' token hmoves htoken
    by_contra hne
    refine absurd htoken (OutboxStep.reflTransGen_keeps
      (I := fun r => r.state.claimToken ≠ some token) (fun r state htransition hr hwritten => ?_)
      hmoves hne)
    rcases htransition.claimToken_cases hwritten with hold | ⟨random, uuid4, locked, n, hclaim, -⟩
    · exact hr hold
    · exact hop random uuid4 locked hclaim
  refine ⟨fun r' hr' token htoken => ?_, fun r' hr' s' hs' token htoken htoken' => ?_⟩
  · obtain ⟨r, hr, hmoves⟩ := hmoved.exists_of_mem hr'
    exact h.mem_issued r hr token (hcarried hmoves htoken)
  · obtain ⟨r, hr, hmoves⟩ := hmoved.exists_of_mem hr'
    obtain ⟨s, hs, hmoves'⟩ := hmoved.exists_of_mem hs'
    have heq : r = s := h.unique r hr s hs token (hcarried hmoves htoken) (hcarried hmoves' htoken')
    have hid : r'.id = s'.id := by
      rw [OutboxStep.id_eq_of_moves hmoves, OutboxStep.id_eq_of_moves hmoves', heq]
    exact events'.unique_id.eq_of_key_eq hr' hs' hid

end

end OutboxSystem.ClaimsIssued

def OutboxStep.DrawsFresh (step : OutboxStep) (issued : List Uuid) : Prop :=
  ∀ random uuid4 locked, step.op = .claimDue random uuid4 locked →
    Function.Injective uuid4 ∧ ∀ n, uuid4 n ∉ issued

namespace OutboxSystem

def DrawsFresh (system : OutboxSystem) : List OutboxStep → Prop
  | [] => True
  | step :: steps => step.DrawsFresh system.issued ∧ (system.step step).DrawsFresh steps

variable {system : OutboxSystem}

lemma drawsFresh_append {before after : List OutboxStep} :
    system.DrawsFresh (before ++ after) ↔
      system.DrawsFresh before ∧ (system.run before).DrawsFresh after := by
  induction before generalizing system with
  | nil => simp [DrawsFresh]
  | cons step before ih => simp only [List.cons_append, DrawsFresh, ih, run_cons, and_assoc]

lemma claimsIssued_claimDueEvents {session : OutboxSession} {random : ℚ} {uuid4 : ℕ → Uuid}
    {locked : List Uuid} {events : OutboxEvents} {issued : List Uuid}
    (h : ClaimsIssued events issued) (hinjective : Function.Injective uuid4)
    (hfresh : ∀ n, uuid4 n ∉ issued) :
    ClaimsIssued (claimDueEvents session random uuid4 locked events).events
      (issued ++ (claimDueEvents session random uuid4 locked events).claimed.map
        ClaimedEvent.claimToken) := by
  refine (ClaimLoop.claimDueEvents_induction (P := fun loop =>
    ClaimsIssued loop.events (issued ++ loop.claimed.map ClaimedEvent.claimToken) ∧
      ∀ n, loop.claimed.length ≤ n →
        uuid4 n ∉ issued ++ loop.claimed.map ClaimedEvent.claimToken)
    ?_ ⟨by simpa using h, by simpa using hfresh⟩).1
  rintro loop row hrow hpending ⟨hissued, hunused⟩
  unfold ClaimLoop.visit
  rw [dif_pos hpending]
  split
  · exact ⟨hissued.store_none session.now (by simp), hunused⟩
  · dsimp only
    rw [List.map_append, ← List.append_assoc]
    refine ⟨hissued.store_fresh hrow session.now rfl (hunused _ le_rfl), fun n hn => ?_⟩
    rw [List.length_append] at hn
    have hlater : loop.claimed.length ≤ n ∧ loop.claimed.length ≠ n := by
      simp only [List.length_singleton] at hn
      omega
    have hne : uuid4 n ≠ uuid4 loop.claimed.length := fun heq => hlater.2 (hinjective heq).symm
    simpa [hne] using hunused n hlater.1

lemma claimsIssued_step {step : OutboxStep} (h : ClaimsIssued system.events system.issued)
    (hfresh : step.DrawsFresh system.issued) :
    ClaimsIssued (system.step step).events (system.step step).issued := by
  by_cases hclaim : ∃ random uuid4 locked, step.op = .claimDue random uuid4 locked
  · obtain ⟨random, uuid4, locked, hop⟩ := hclaim
    obtain ⟨hinjective, hunused⟩ := hfresh random uuid4 locked hop
    simp only [OutboxSystem.step, OutboxStep.perform, hop]
    exact claimsIssued_claimDueEvents h hinjective hunused
  · have hop : ∀ random uuid4 locked, step.op ≠ .claimDue random uuid4 locked :=
      fun random uuid4 locked hop => hclaim ⟨random, uuid4, locked, hop⟩
    have hmoved := h.of_moved (step.moved_perform system.events) hop
    refine ⟨fun row hrow token htoken => ?_, hmoved.unique⟩
    exact List.mem_append_left _ (hmoved.mem_issued row hrow token htoken)

lemma claimsIssued_run {steps : List OutboxStep} (h : ClaimsIssued system.events system.issued)
    (hfresh : system.DrawsFresh steps) :
    ClaimsIssued (system.run steps).events (system.run steps).issued := by
  induction steps generalizing system with
  | nil => exact h
  | cons step steps ih => exact ih (claimsIssued_step h hfresh.1) hfresh.2

def Spent (system : OutboxSystem) (token : Uuid) : Prop :=
  token ∈ system.issued ∧ ∀ row ∈ system.events.rows, row.state.claimToken ≠ some token

lemma Spent.step {system : OutboxSystem} {token : Uuid} (h : system.Spent token) {step : OutboxStep}
    (hfresh : step.DrawsFresh system.issued) : (system.step step).Spent token := by
  refine ⟨List.mem_append_left _ h.1, fun row' hrow' => ?_⟩
  obtain ⟨row, hrow, hmoves⟩ := (step.moved_perform system.events).exists_of_mem hrow'
  refine OutboxStep.reflTransGen_keeps (I := fun r => r.state.claimToken ≠ some token)
    (fun r state htransition hr hwritten => ?_) hmoves (h.2 row hrow)
  rcases htransition.claimToken_cases hwritten with hold | ⟨random, uuid4, locked, n, hop, rfl⟩
  · exact hr hold
  · exact (hfresh random uuid4 locked hop).2 n h.1

lemma Spent.run {system : OutboxSystem} {token : Uuid} (h : system.Spent token)
    {steps : List OutboxStep} (hfresh : system.DrawsFresh steps) :
    (system.run steps).Spent token := by
  induction steps generalizing system with
  | nil => exact h
  | cons step steps ih => exact ih (h.step hfresh.1) hfresh.2

end OutboxSystem

/-! ## Stale claims and settled claims -/

def OutboxOp.claim? : OutboxOp → Option EventClaim
  | claimDue _ _ _ => none
  | beginExecution claim => some claim
  | markStarted claim => some claim
  | complete claim => some claim
  | fail claim _ _ _ _ => some claim
  | confirmedNotSent claim _ _ _ _ => some claim
  | ambiguous claim _ _ => some claim
  | release claim _ => some claim
  | replay _ _ _ _ _ _ => none

def OutboxOp.settles? : OutboxOp → Option EventClaim
  | complete claim => some claim
  | fail claim _ _ _ _ => some claim
  | confirmedNotSent claim _ _ _ _ => some claim
  | ambiguous claim _ _ => some claim
  | release claim _ => some claim
  | claimDue _ _ _ | beginExecution _ | markStarted _ | replay _ _ _ _ _ _ => none

lemma OutboxOp.claim?_of_settles? {op : OutboxOp} {claim : EventClaim}
    (h : op.settles? = some claim) : op.claim? = some claim := by
  cases op <;> first | exact h | cases h

/-- The operation returned `False` or `None`. -/
def OutboxReport.isNegative : OutboxReport → Bool
  | execution none | done false | status none => true
  | _ => false

/-- The operation returned `True` or a status. -/
def OutboxReport.isEffect : OutboxReport → Bool
  | done true | status (some _) => true
  | _ => false

def OutboxSystem.Current (system : OutboxSystem) (claim : EventClaim) : Prop :=
  ∃ row ∈ system.events.rows, row.OwnedBy claim

namespace OutboxEvents

variable {events : OutboxEvents} {claim : EventClaim}

variable {α : Type}

lemma onClaimedRow_of_stale (h : ∀ row ∈ events.rows, ¬ row.OwnedBy claim) (now : Instant)
    (stale : α) (transition : OutboxEvent → DispatchState × α) :
    events.onClaimedRow now claim stale transition = (events, stale) := by
  unfold onClaimedRow
  rw [lockedClaimedRow_eq_none.mpr h]

lemma onClaimedRow_of_owned {row : OutboxEvent} (hrow : row ∈ events.rows)
    (howned : row.OwnedBy claim) (now : Instant) (stale : α)
    (transition : OutboxEvent → DispatchState × α) :
    events.onClaimedRow now claim stale transition =
      (events.store now row.id (transition row).1, (transition row).2) := by
  unfold onClaimedRow
  rw [lockedClaimedRow_eq_some.mpr ⟨hrow, howned⟩, howned.id_eq]

end OutboxEvents

namespace OutboxStep

variable {step : OutboxStep} {events : OutboxEvents} {claim : EventClaim}

lemma perform_of_stale (hclaim : step.op.claim? = some claim)
    (h : ∀ row ∈ events.rows, ¬ row.OwnedBy claim) :
    (step.perform events).1 = events ∧
      ((step.perform events).2.isNegative = true ∨
        (step.op = .markStarted claim ∧ step.session.config.externalEffectMarkers = true ∧
          (step.perform events).2 = .raised (.externalEffectNotStarted claim.eventId))) := by
  have hlocked := OutboxEvents.lockedClaimedRow_eq_none.mpr h
  have hstale : ∀ {α : Type} (now : Instant) (stale : α)
      (transition : OutboxEvent → DispatchState × α),
      events.onClaimedRow now claim stale transition = (events, stale) :=
    fun now stale transition => OutboxEvents.onClaimedRow_of_stale h now stale transition
  obtain ⟨session, op⟩ := step
  cases op with
  | claimDue random uuid4 locked => cases hclaim
  | replay => cases hclaim
  | beginExecution =>
    cases hclaim
    have hbegin : beginEventExecution session claim events = (events, none) := by
      unfold beginEventExecution
      split
      · exact hstale _ _ _
      · exact hstale _ _ _
    simp [perform, hbegin, OutboxReport.isNegative]
  | markStarted =>
    cases hclaim
    by_cases hmarkers : session.config.externalEffectMarkers = true
    · simp [perform, markExternalEffectStarted, hmarkers, hlocked, OutboxEvents.orElse]
    · simp [perform, markExternalEffectStarted, hmarkers, OutboxEvents.orElse,
        OutboxReport.isNegative]
  | complete =>
    cases hclaim
    simp [perform, completeEvent, hstale, OutboxReport.isNegative]
  | fail =>
    cases hclaim
    simp [perform, failEvent, hstale, OutboxReport.isNegative]
  | confirmedNotSent =>
    cases hclaim
    simp [perform, recordConfirmedNotSent, hstale, OutboxReport.isNegative]
  | ambiguous =>
    cases hclaim
    simp [perform, recordAmbiguousOutcome, hlocked, OutboxEvents.orElse, OutboxReport.isNegative]
  | release =>
    cases hclaim
    simp [perform, releaseClaim, hstale, OutboxReport.isNegative]

lemma exists_store_of_isEffect (hsettles : step.op.settles? = some claim)
    (heffect : (step.perform events).2.isEffect = true) :
    ∃ row ∈ events.rows, row.OwnedBy claim ∧ ∃ state : DispatchState, state.claimToken = none ∧
      (step.perform events).1 = events.store step.session.now row.id state := by
  by_cases hcurrent : ∃ row ∈ events.rows, row.OwnedBy claim
  · obtain ⟨row, hrow, howned⟩ := hcurrent
    refine ⟨row, hrow, howned, ?_⟩
    have hon : ∀ {α : Type} (now : Instant) (stale : α)
        (transition : OutboxEvent → DispatchState × α),
        events.onClaimedRow now claim stale transition =
          (events.store now row.id (transition row).1, (transition row).2) :=
      fun now stale transition =>
        OutboxEvents.onClaimedRow_of_owned hrow howned now stale transition
    obtain ⟨session, op⟩ := step
    cases op with
    | claimDue | beginExecution | markStarted | replay => cases hsettles
    | complete =>
      cases hsettles
      exact ⟨row.state.completed session, rfl, by simp [perform, completeEvent, hon]⟩
    | fail claim error terminal retryAfter random =>
      cases hsettles
      have hgives :=
        row.state.givesUp_failed session claim.claimToken error terminal retryAfter random
      exact ⟨_, hgives.claimToken, by simp [perform, failEvent, hon]⟩
    | confirmedNotSent claim error blockException retryAfter random =>
      cases hsettles
      have hgives :=
        row.state.givesUp_notSent session claim.claimToken error blockException retryAfter random
      exact ⟨_, hgives.claimToken, by simp [perform, recordConfirmedNotSent, hon]⟩
    | ambiguous claim error random =>
      cases hsettles
      have hlocked := OutboxEvents.lockedClaimedRow_eq_some.mpr ⟨hrow, howned⟩
      cases hstate : row.ambiguousOutcome session claim.claimToken error random with
      | error raised =>
        simp [perform, recordAmbiguousOutcome, hlocked, hstate, OutboxEvents.orElse,
          OutboxReport.isEffect] at heffect
      | ok state =>
        refine ⟨state, (OutboxEvent.givesUp_ambiguousOutcome hstate).claimToken, ?_⟩
        simp [perform, recordAmbiguousOutcome, hlocked, hstate, OutboxEvents.orElse, howned.id_eq]
    | release claim error =>
      cases hsettles
      exact ⟨_, (row.state.givesUp_released session error).claimToken,
        by simp [perform, releaseClaim, hon]⟩
  · -- a stale claim has no effect
    have hstale : ∀ row ∈ events.rows, ¬ row.OwnedBy claim :=
      fun row hrow howned => hcurrent ⟨row, hrow, howned⟩
    obtain ⟨-, hnegative⟩ := perform_of_stale (OutboxOp.claim?_of_settles? hsettles) hstale
    rcases hnegative with hnegative | ⟨hop, -⟩
    · revert hnegative heffect
      cases (step.perform events).2 with
      | done done => cases done <;> simp [OutboxReport.isEffect, OutboxReport.isNegative]
      | status status => cases status <;> simp [OutboxReport.isEffect, OutboxReport.isNegative]
      | _ => simp [OutboxReport.isEffect]
    · rw [hop] at hsettles
      cases hsettles

end OutboxStep

/-! ## Ownership over runs -/

namespace OutboxSystem

/-- The outbox before anything was claimed: its events are as they were recorded. -/
structure Recorded (system : OutboxSystem) : Prop where
  issued : system.issued = []
  status : ∀ row ∈ system.events.rows, row.state.status = .pending
  attempts : ∀ row ∈ system.events.rows, row.state.attempts = 0
  claimToken : ∀ row ∈ system.events.rows, row.state.claimToken = none

variable {system : OutboxSystem}

lemma Recorded.claimsIssued (h : system.Recorded) :
    ClaimsIssued system.events system.issued := by
  refine ⟨fun row hrow token htoken => ?_, fun row hrow row' hrow' token htoken => ?_⟩
  · simp [h.claimToken row hrow] at htoken
  · simp [h.claimToken row hrow] at htoken

/-- What ownership of events by claim tokens means for a run. -/
structure Owned (system : OutboxSystem) (steps : List OutboxStep) (maxAttempts : ℕ) : Prop where
  /-- At every moment at most one token of an event is current. -/
  current_unique : ∀ before after, steps = before ++ after → ∀ claim claim' : EventClaim,
    (system.run before).Current claim → (system.run before).Current claim' →
    claim.eventId = claim'.eventId → claim = claim'
  /-- An operation that names a claim which is not current changes nothing and reports so. -/
  stale : ∀ before step after, steps = before ++ step :: after → ∀ claim,
    step.op.claim? = some claim → ¬ (system.run before).Current claim →
    (step.perform (system.run before).events).1 = (system.run before).events ∧
      ((step.perform (system.run before).events).2.isNegative = true ∨
        (step.op = .markStarted claim ∧ step.session.config.externalEffectMarkers = true ∧
          (step.perform (system.run before).events).2 =
            .raised (.externalEffectNotStarted claim.eventId)))
  /-- A token is settled at most once. -/
  settled_once : ∀ before step between step' after,
    steps = before ++ step :: (between ++ step' :: after) → ∀ claim claim',
    step.op.settles? = some claim → (step.perform (system.run before).events).2.isEffect = true →
    step'.op.settles? = some claim' →
    (step'.perform (system.run (before ++ step :: between)).events).2.isEffect = true →
    claim.claimToken ≠ claim'.claimToken
  /-- A published row is never changed again. -/
  published_final : ∀ before after, steps = before ++ after →
    ∀ row ∈ (system.run before).events.rows, row.state.status = .published →
    row ∈ (system.run steps).events.rows
  /-- A row becomes published only by a completion under its current claim. -/
  published_by_complete : ∀ before step after, steps = before ++ step :: after →
    ∀ row ∈ (system.run before).events.rows, row.state.status ≠ .published →
    ∀ row' ∈ ((system.run before).step step).events.rows, row'.id = row.id →
    row'.state.status = .published → ∃ claim, step.op = .complete claim ∧ row.OwnedBy claim
  /-- The attempts never exceed the policy. -/
  attempts_le : ∀ before after, steps = before ++ after →
    ∀ row ∈ (system.run before).events.rows, row.state.attempts ≤ maxAttempts

lemma Current.eq {claim claim' : EventClaim} (h : system.Current claim) (h' : system.Current claim')
    (hevent : claim.eventId = claim'.eventId) : claim = claim' := by
  obtain ⟨row, hrow, howned⟩ := h
  obtain ⟨row', hrow', howned'⟩ := h'
  have hid : row.id = row'.id := by rw [howned.id_eq, howned'.id_eq, hevent]
  have heq : row = row' := system.events.unique_id.eq_of_key_eq hrow hrow' hid
  subst heq
  obtain ⟨tenantId, eventId, claimToken⟩ := claim
  obtain ⟨tenantId', eventId', claimToken'⟩ := claim'
  have htenant : tenantId = tenantId' := howned.tenantId_eq.symm.trans howned'.tenantId_eq
  have htoken : some claimToken = some claimToken' := howned.token.symm.trans howned'.token
  simp only [EventClaim.mk.injEq]
  exact ⟨htenant, hevent, Option.some.inj htoken⟩

lemma spent_of_settled (h : ClaimsIssued system.events system.issued) {step : OutboxStep}
    {claim : EventClaim} (hsettles : step.op.settles? = some claim)
    (heffect : (step.perform system.events).2.isEffect = true) :
    (system.step step).Spent claim.claimToken := by
  obtain ⟨row, hrow, howned, state, hstate, hstore⟩ :=
    OutboxStep.exists_store_of_isEffect hsettles heffect
  have hissued := h.mem_issued row hrow claim.claimToken howned.token
  refine ⟨List.mem_append_left _ hissued, fun row' hrow' htoken => ?_⟩
  simp only [OutboxSystem.step, hstore] at hrow'
  obtain ⟨other, hother, rfl⟩ := List.mem_map.mp hrow'
  unfold OutboxEvent.stored at htoken
  split at htoken
  · simp [OutboxEvent.written, hstate] at htoken
  · next hne =>
    have heq : other = row := h.unique other hother row hrow _ htoken howned.token
    exact hne (congrArg OutboxEvent.id heq)

lemma mem_run_of_published {row : OutboxEvent} (hrow : row ∈ system.events.rows)
    (hpublished : row.state.status = .published) (steps : List OutboxStep) :
    row ∈ (system.run steps).events.rows := by
  induction steps generalizing system with
  | nil => exact hrow
  | cons step steps ih =>
    obtain ⟨row', hrow', hmoves⟩ := (step.moved_perform system.events).exists_mem hrow
    have heq : row' = row := OutboxStep.eq_of_published hmoves hpublished
    exact ih (heq ▸ hrow')

lemma attempts_le_run {maxAttempts : ℕ}
    (h : ∀ row ∈ system.events.rows, row.state.attempts ≤ maxAttempts) {steps : List OutboxStep}
    (hpolicy : ∀ step ∈ steps, step.session.config.maxAttempts ≤ maxAttempts) :
    ∀ row ∈ (system.run steps).events.rows, row.state.attempts ≤ maxAttempts := by
  induction steps generalizing system with
  | nil => exact h
  | cons step steps ih =>
    refine ih (fun row' hrow' => ?_) fun step' hstep' =>
      hpolicy step' (List.mem_cons_of_mem step hstep')
    obtain ⟨row, hrow, hmoves⟩ := (step.moved_perform system.events).exists_of_mem hrow'
    exact OutboxStep.reflTransGen_keeps (I := fun r => r.state.attempts ≤ maxAttempts)
      (fun r state htransition hr => htransition.attempts_le (hpolicy step List.mem_cons_self) hr)
      hmoves (h row hrow)

/-- **Ownership.**  Whatever dispatchers, workers and operators do to recorded events, in any order,
their claim tokens own the events. -/
theorem run_owned {system : OutboxSystem} (hrecorded : system.Recorded) {steps : List OutboxStep}
    (hfresh : system.DrawsFresh steps) {maxAttempts : ℕ}
    (hpolicy : ∀ step ∈ steps, step.session.config.maxAttempts ≤ maxAttempts) :
    system.Owned steps maxAttempts where
  current_unique before after _ claim claim' hcurrent hcurrent' hevent :=
    hcurrent.eq hcurrent' hevent
  stale before step after _ claim hclaim hstale :=
    OutboxStep.perform_of_stale hclaim fun row hrow howned => hstale ⟨row, hrow, howned⟩
  settled_once before step between step' after hsteps claim claim' hsettles heffect hsettles'
      heffect' htoken := by
    subst hsteps
    obtain ⟨hbefore, hstep, hrest⟩ := drawsFresh_append.mp hfresh
    obtain ⟨hbetween, -⟩ := drawsFresh_append.mp hrest
    have hissued := claimsIssued_run hrecorded.claimsIssued hbefore
    -- the token of the first settlement is spent when the second one comes
    have hspent := (spent_of_settled hissued hsettles heffect).run hbetween
    rw [run_append, run_cons] at heffect'
    obtain ⟨row, hrow, howned, -⟩ := OutboxStep.exists_store_of_isEffect hsettles' heffect'
    exact hspent.2 row hrow (htoken ▸ howned.token)
  published_final before after hsteps row hrow hpublished := by
    rw [hsteps, run_append]
    exact mem_run_of_published hrow hpublished after
  published_by_complete before step after _ row hrow hunpublished row' hrow' hid hpublished := by
    obtain ⟨row₀, hrow₀, hmoves⟩ := (step.moved_perform _).exists_of_mem hrow'
    have heq : row₀ = row := (system.run before).events.unique_id.eq_of_key_eq hrow₀ hrow
      ((OutboxStep.id_eq_of_moves hmoves).symm.trans hid)
    subst heq
    exact OutboxStep.complete_of_published hmoves hunpublished hpublished
  attempts_le before after hsteps := by
    refine attempts_le_run (fun row hrow => ?_) fun step hstep => ?_
    · rw [hrecorded.attempts row hrow]
      exact Nat.zero_le maxAttempts
    · exact hpolicy step (hsteps ▸ List.mem_append_left after hstep)

end OutboxSystem

def openSession (now : Instant) : OutboxSession where
  registry := { tenants := [⟨1, "acme", .active, none⟩] }
  config := { externalEffectMarkers := true }
  now := now

def recordedEvent : OutboxEvent where
  id := 7
  tenantId := 1
  eventType := "billing.invoice_issued"
  correlationId := none
  createdAt := 0
  state :=
    { status := .pending
      attempts := 0
      nextAttemptAt := 0
      lastError := none
      publishedAt := none
      claimToken := none
      started := none
      updatedAt := 0
      claim_only_pending := claim_only_pending_none }

def recordedSystem : OutboxSystem where
  events := { rows := [recordedEvent], unique_id := by decide }
  issued := []

def claimAt (now : Instant) (token : Uuid) : OutboxStep :=
  ⟨openSession now, .claimDue 0 (fun n => token + n) []⟩

def delivery : List OutboxStep :=
  [claimAt 0 100, ⟨openSession 1, .beginExecution ⟨1, 7, 100⟩⟩,
    ⟨openSession 2, .complete ⟨1, 7, 100⟩⟩]

/-- Ownership holds along the delivery, which publishes the event. -/
theorem run_owned_delivery :
    (recordedSystem.run delivery).events.rows.map (fun row => row.state.status) = [.published] ∧
      recordedSystem.Owned delivery 10 := by
  have hrecorded : recordedSystem.Recorded := ⟨rfl, by decide, by decide, by decide⟩
  have hfresh : recordedSystem.DrawsFresh delivery := by
    refine ⟨?_, ?_, ?_, trivial⟩
    · intro random uuid4 locked hop
      cases hop
      exact ⟨add_right_injective 100, by simp [recordedSystem]⟩
    · intro random uuid4 locked hop
      cases hop
    · intro random uuid4 locked hop
      cases hop
  have hpolicy : ∀ step ∈ delivery, step.session.config.maxAttempts ≤ 10 := by
    intro step hstep
    simp only [delivery, List.mem_cons, List.not_mem_nil, or_false] at hstep
    rcases hstep with rfl | rfl | rfl <;> decide
  exact ⟨by decide +kernel, OutboxSystem.run_owned hrecorded hfresh hpolicy⟩

def reclaimed : OutboxSystem :=
  recordedSystem.run [claimAt 0 100, claimAt 901000000 200]

def staleMark : OutboxStep := ⟨openSession 902000000, .markStarted ⟨1, 7, 100⟩⟩

/-- The second token is current and the first one is not; to mark under the first one raises instead
of returning `False`. -/
theorem staleMark_raises :
    reclaimed.Current ⟨1, 7, 200⟩ ∧ ¬ reclaimed.Current ⟨1, 7, 100⟩ ∧
      staleMark.op.claim? = some ⟨1, 7, 100⟩ ∧
      (staleMark.perform reclaimed.events).2 = .raised (.externalEffectNotStarted 7) ∧
      (staleMark.perform reclaimed.events).2.isNegative = false := by
  have hcurrent : (reclaimed.events.lockedClaimedRow ⟨1, 7, 200⟩).isSome = true := by
    decide +kernel
  have hstale : reclaimed.events.lockedClaimedRow ⟨1, 7, 100⟩ = none := by decide +kernel
  refine ⟨?_, ?_, rfl, by decide +kernel, by decide +kernel⟩
  · obtain ⟨row, hrow⟩ := Option.isSome_iff_exists.mp hcurrent
    exact ⟨row, OutboxEvents.lockedClaimedRow_eq_some.mp hrow⟩
  · rintro ⟨row, hrow, howned⟩
    exact OutboxEvents.lockedClaimedRow_eq_none.mp hstale row hrow howned

end SaasOs
