import SaasOs.Billing.PlanChanges

/-!
# Reconciliation with the provider

`reconcile_subscription_status`, called directly or by `process_provider_event` for a delivery,
loads the row, reads the state of the subscription at the provider, and applies the answer to the
locked row, each in a step of its own.  The provider is read without a lock and its answer does not
say when it was given.
-/

namespace SaasOs.Billing

/-! ## Applying an answer -/

def targetStatusFor : ProviderSubscriptionState → Option SubscriptionStatus
  | .active => some .active
  | .pending => some .pending
  | .pastDue => some .pastDue
  | .canceled => some .canceled
  | .notFound => none
  | .unknown => none

/-- The row that `_apply_provider_state` leaves: an answer without a status, or with one that the
lifecycle forbids, changes nothing. -/
def applyProviderState (row : Subscription) (answer : ProviderSubscriptionState) : Subscription :=
  match targetStatusFor answer with
  | some target =>
    if isTransitionAllowed row.status target then (setSubscriptionStatus row target).getD row
    else row
  | none => row

lemma isTransitionAllowed_self (status : SubscriptionStatus) :
    isTransitionAllowed status status = true := by
  cases status <;> rfl

variable {target : SubscriptionStatus}

lemma eq_canceled_of_isTransitionAllowed (h : isTransitionAllowed .canceled target = true) :
    target = .canceled := by
  cases target <;> revert h <;> decide

variable {row : Subscription}

lemma status_applyProviderState {answer : ProviderSubscriptionState}
    (htarget : targetStatusFor answer = some target)
    (hallowed : isTransitionAllowed row.status target = true) :
    (applyProviderState row answer).status = target := by
  simp [applyProviderState, setSubscriptionStatus, htarget, hallowed]

lemma applyProviderState_cases (row : Subscription) (answer : ProviderSubscriptionState) :
    (applyProviderState row answer).status = row.status ∨
      ∃ target, targetStatusFor answer = some target ∧ target ≠ row.status ∧
        isTransitionAllowed row.status target = true ∧
        (applyProviderState row answer).status = target := by
  cases htarget : targetStatusFor answer with
  | none => exact .inl (by simp [applyProviderState, htarget])
  | some target =>
    cases hallowed : isTransitionAllowed row.status target with
    | false => exact .inl (by simp [applyProviderState, htarget, hallowed])
    | true =>
      have hstatus := status_applyProviderState htarget hallowed
      by_cases hsame : target = row.status
      · exact .inl (hstatus.trans hsame)
      · exact .inr ⟨target, rfl, hsame, hallowed, hstatus⟩

lemma applyProviderState_canceled (h : row.status = .canceled) (answer : ProviderSubscriptionState) :
    (applyProviderState row answer).status = .canceled := by
  rcases applyProviderState_cases row answer with hsame | ⟨target, -, -, hallowed, hstatus⟩
  · exact hsame.trans h
  · rw [h] at hallowed
    exact hstatus.trans (eq_canceled_of_isTransitionAllowed hallowed)

/-! ## The system -/

inductive ProviderEventStatus
  | received | processed | ignored | failed

/-- `_DONE`. -/
def ProviderEventStatus.isDone : ProviderEventStatus → Bool
  | received => false
  | processed => true
  | ignored => true
  | failed => false

inductive ReconcileCaller
  | direct
  | delivery (eventId : String)

/-- Where a run is. -/
inductive ReconcilePhase
  | started
  | loaded
  | answered (answer : ProviderSubscriptionState) (version : ℕ)
  | settled (version : Option ℕ)
  | returned (version : Option ℕ)
  | raised

def ReconcilePhase.IsOver : ReconcilePhase → Prop
  | started => False
  | loaded => False
  | answered _ _ => False
  | settled _ => False
  | returned _ => True
  | raised => True

instance : DecidablePred ReconcilePhase.IsOver
  | .started => isFalse id
  | .loaded => isFalse id
  | .answered _ _ => isFalse id
  | .settled _ => isFalse id
  | .returned _ => isTrue trivial
  | .raised => isTrue trivial

/-- The row, the provider's state and its number, the status of the row when the provider last
changed, whether an answer that was read since then has been applied, the runs, and the ledger of
the deliveries. -/
structure ReconcileState where
  row : Subscription
  provider : ProviderSubscriptionState
  version : ℕ
  statusAtChange : SubscriptionStatus
  caughtUp : Bool
  runs : ℕ → Option (ReconcileCaller × ReconcilePhase)
  ledger : String → Option ProviderEventStatus

/-- What happens: the provider changes, or a run takes its next step.  `ignore` is a delivery that
does not resolve to the subscription; `fail` is an error at any point, which the ledger records
unless that fails as well. -/
inductive ReconcileEvent
  | change (provider : ProviderSubscriptionState)
  | start (n : ℕ) (caller : ReconcileCaller)
  | load (n : ℕ)
  | ignore (n : ℕ)
  | read (n : ℕ)
  | apply (n : ℕ)
  | finish (n : ℕ)
  | fail (n : ℕ) (recorded : Bool)

namespace ReconcileState

/-- The state with the run at `n` in another phase. -/
def setRun (state : ReconcileState) (n : ℕ) (caller : ReconcileCaller) (phase : ReconcilePhase) :
    ReconcileState :=
  { state with runs := Function.update state.runs n (some (caller, phase)) }

/-- `_mark` and `_mark_failed`: the first to finish an event decides. -/
def mark (state : ReconcileState) (caller : ReconcileCaller) (status : ProviderEventStatus) :
    ReconcileState :=
  match caller with
  | .direct => state
  | .delivery eventId =>
    if (state.ledger eventId).any ProviderEventStatus.isDone then state
    else { state with ledger := Function.update state.ledger eventId (some status) }

def change (state : ReconcileState) (provider : ProviderSubscriptionState) : ReconcileState :=
  { state with
    provider := provider
    version := state.version + 1
    statusAtChange := state.row.status
    caughtUp := false }

/-- A direct call begins, or `_claim` records a delivery; a duplicate of one that is done returns. -/
def start (state : ReconcileState) (n : ℕ) (caller : ReconcileCaller) : ReconcileState :=
  if state.runs n = none then
    match caller with
    | .direct => state.setRun n caller .started
    | .delivery eventId =>
      match state.ledger eventId with
      | none => (state.setRun n caller .started).mark caller .received
      | some status =>
        if status.isDone then state.setRun n caller (.returned none)
        else state.setRun n caller .started
  else state

/-- `_load`: an unverified row is refused, and its delivery ignored. -/
def load (state : ReconcileState) (n : ℕ) : ReconcileState :=
  match state.runs n with
  | some (caller, .started) =>
    if state.row.verification = .verified then state.setRun n caller .loaded
    else
      match caller with
      | .direct => state.setRun n caller .raised
      | .delivery _ => state.setRun n caller (.settled none)
  | _ => state

/-- `_resolve` answers an outcome. -/
def ignore (state : ReconcileState) (n : ℕ) : ReconcileState :=
  match state.runs n with
  | some (.delivery eventId, .started) => state.setRun n (.delivery eventId) (.settled none)
  | _ => state

/-- `get_subscription_status`. -/
def read (state : ReconcileState) (n : ℕ) : ReconcileState :=
  match state.runs n with
  | some (caller, .loaded) => state.setRun n caller (.answered state.provider state.version)
  | _ => state

/-- The transaction of `_apply_provider_state`. -/
def apply (state : ReconcileState) (n : ℕ) : ReconcileState :=
  match state.runs n with
  | some (caller, .answered answer version) =>
    { state.setRun n caller (.settled (some version)) with
      row := applyProviderState state.row answer
      caughtUp := state.caughtUp || version == state.version }
  | _ => state

def finish (state : ReconcileState) (n : ℕ) : ReconcileState :=
  match state.runs n with
  | some (caller, .settled version) =>
    (state.setRun n caller (.returned version)).mark caller
      (if version.isSome then .processed else .ignored)
  | _ => state

def fail (state : ReconcileState) (n : ℕ) (recorded : Bool) : ReconcileState :=
  match state.runs n with
  | some (caller, phase) =>
    if phase.IsOver then state
    else if recorded then (state.setRun n caller .raised).mark caller .failed
    else state.setRun n caller .raised
  | none => state

def step (state : ReconcileState) : ReconcileEvent → ReconcileState
  | .change provider => state.change provider
  | .start n caller => state.start n caller
  | .load n => state.load n
  | .ignore n => state.ignore n
  | .read n => state.read n
  | .apply n => state.apply n
  | .finish n => state.finish n
  | .fail n recorded => state.fail n recorded

structure Initial (state : ReconcileState) : Prop where
  noRuns : ∀ n, state.runs n = none
  statusAtChange : state.statusAtChange = state.row.status
  caughtUp : state.caughtUp = false

/-- When a run has applied an answer that it read after the provider's last change, and all runs
have finished, the row has the provider's status, if that was within reach. -/
def Converged (state : ReconcileState) : Prop :=
  ∀ target, targetStatusFor state.provider = some target →
    isTransitionAllowed state.statusAtChange target = true →
    (∃ n caller, state.runs n = some (caller, .returned (some state.version))) →
    (∀ n caller phase, state.runs n = some (caller, phase) → phase.IsOver) →
    state.row.status = target

/-- An old answer does no harm: it leaves the row as it is, or the provider's status is out of reach
anyway, or no newer answer has been applied and the provider's status stays within reach. -/
def Harmless (state : ReconcileState) (answer : ProviderSubscriptionState) : Prop :=
  ∀ target ∈ targetStatusFor answer, target ≠ state.row.status →
    isTransitionAllowed state.row.status target = true →
    ∀ current ∈ targetStatusFor state.provider,
      isTransitionAllowed state.row.status current = true →
      state.caughtUp = false ∧ isTransitionAllowed target current = true

instance (state : ReconcileState) (answer : ProviderSubscriptionState) :
    Decidable (state.Harmless answer) :=
  inferInstanceAs (Decidable (∀ target ∈ targetStatusFor answer, _))

def InTime (state : ReconcileState) (event : ReconcileEvent) : Prop :=
  match event with
  | .apply n => ∀ caller answer version,
    state.runs n = some (caller, .answered answer version) →
      version = state.version ∨ state.Harmless answer
  | _ => True

end ReconcileState

open ReconcileState

/-- What reconciliation promises about a run. -/
structure StatusConverges (state : ReconcileState) (events : List ReconcileEvent) : Prop where
  converged : Run.Always ReconcileState.step Converged state events
  /-- Once canceled, the subscription stays canceled. -/
  canceledStays : ∀ before after, events = before ++ after →
    (Run.run ReconcileState.step state before).row.status = .canceled →
    (Run.run ReconcileState.step state events).row.status = .canceled

/-! ## The invariant -/

namespace ReconcileState

/-- What the phase of a run tells about the state: an answer with the present number is the present
answer, and once it was applied the row has caught up. -/
def Fits (state : ReconcileState) : ReconcilePhase → Prop
  | .started => True
  | .loaded => True
  | .answered answer version =>
    version ≤ state.version ∧ (version = state.version → answer = state.provider)
  | .settled version =>
    ∀ number ∈ version, number ≤ state.version ∧
      (number = state.version → state.caughtUp = true)
  | .returned version =>
    ∀ number ∈ version, number ≤ state.version ∧
      (number = state.version → state.caughtUp = true)
  | .raised => True

/-- What every state of a run in time satisfies. -/
structure Sound (state : ReconcileState) : Prop where
  fits : ∀ n caller phase, state.runs n = some (caller, phase) → state.Fits phase
  /-- The provider's status stays within reach. -/
  reach : ∀ target, targetStatusFor state.provider = some target →
    isTransitionAllowed state.statusAtChange target = true →
    isTransitionAllowed state.row.status target = true
  /-- The row that has caught up has the provider's status. -/
  caught : state.caughtUp = true → ∀ target, targetStatusFor state.provider = some target →
    isTransitionAllowed state.statusAtChange target = true → state.row.status = target

variable {state : ReconcileState}

lemma Initial.sound (h : state.Initial) : state.Sound where
  fits n caller phase hrun := by
    rw [h.noRuns n] at hrun
    cases hrun
  reach target _ hallowed := by
    rw [← h.statusAtChange]
    exact hallowed
  caught hcaught := by
    rw [h.caughtUp] at hcaught
    cases hcaught

lemma Sound.setRun {state : ReconcileState} (h : state.Sound) {n : ℕ} {caller : ReconcileCaller}
    {phase : ReconcilePhase} (hfits : state.Fits phase) : (state.setRun n caller phase).Sound where
  fits m other phase' hrun := by
    rcases Run.update_some_cases hrun with ⟨-, hnew⟩ | ⟨-, hold⟩
    · obtain ⟨rfl, rfl⟩ := Prod.mk.inj hnew
      exact hfits
    · exact h.fits m other phase' hold
  reach := h.reach
  caught := h.caught

lemma Sound.mark {state : ReconcileState} (h : state.Sound) (caller : ReconcileCaller)
    (status : ProviderEventStatus) : (state.mark caller status).Sound := by
  cases caller with
  | direct => exact h
  | delivery eventId =>
    dsimp only [ReconcileState.mark]
    split
    · exact h
    · exact ⟨h.fits, h.reach, h.caught⟩

lemma Sound.change {state : ReconcileState} (h : state.Sound) (provider : ProviderSubscriptionState) :
    (state.change provider).Sound where
  fits n caller phase hrun := by
    have hold : state.Fits phase := h.fits n caller phase hrun
    have hnever : ∀ number, number ≤ state.version → number ≠ state.version + 1 :=
      fun number hle => (Nat.lt_succ_of_le hle).ne
    cases phase with
    | started => trivial
    | loaded => trivial
    | answered answer version =>
      exact ⟨Nat.le_succ_of_le hold.1, fun heq => absurd heq (hnever version hold.1)⟩
    | settled version =>
      intro number hnumber
      have hle := (hold number hnumber).1
      exact ⟨Nat.le_succ_of_le hle, fun heq => absurd heq (hnever number hle)⟩
    | returned version =>
      intro number hnumber
      have hle := (hold number hnumber).1
      exact ⟨Nat.le_succ_of_le hle, fun heq => absurd heq (hnever number hle)⟩
    | raised => trivial
  reach _ _ hallowed := hallowed
  caught hcaught := by cases hcaught

lemma Fits.caughtUp {state state' : ReconcileState} {phase : ReconcilePhase} (h : state.Fits phase)
    (hprovider : state'.provider = state.provider) (hversion : state'.version = state.version)
    (hcaught : state.caughtUp = true → state'.caughtUp = true) : state'.Fits phase := by
  cases phase with
  | started => trivial
  | loaded => trivial
  | answered answer version =>
    dsimp only [Fits]
    rw [hprovider, hversion]
    exact h
  | settled version =>
    dsimp only [Fits]
    rw [hversion]
    exact fun number hnumber => ⟨(h number hnumber).1, fun heq => hcaught ((h number hnumber).2 heq)⟩
  | returned version =>
    dsimp only [Fits]
    rw [hversion]
    exact fun number hnumber => ⟨(h number hnumber).1, fun heq => hcaught ((h number hnumber).2 heq)⟩
  | raised => trivial

variable {target : SubscriptionStatus}

lemma Sound.status_apply (h : state.Sound) (htarget : targetStatusFor state.provider = some target)
    (hreach : isTransitionAllowed state.statusAtChange target = true) :
    (applyProviderState state.row state.provider).status = target :=
  status_applyProviderState htarget (h.reach target htarget hreach)

lemma Sound.harmless (h : state.Sound) {answer : ProviderSubscriptionState}
    (hharmless : state.Harmless answer) (htarget : targetStatusFor state.provider = some target)
    (hreach : isTransitionAllowed state.statusAtChange target = true) :
    isTransitionAllowed (applyProviderState state.row answer).status target = true ∧
      (state.caughtUp = true → (applyProviderState state.row answer).status = target) := by
  have hallowed := h.reach target htarget hreach
  rcases applyProviderState_cases state.row answer with
    hsame | ⟨moved, hmoved, hne, hmoves, hstatus⟩
  · rw [hsame]
    exact ⟨hallowed, fun hcaught => h.caught hcaught target htarget hreach⟩
  · obtain ⟨hbehind, hstays⟩ := hharmless moved hmoved hne hmoves target htarget hallowed
    rw [hstatus]
    exact ⟨hstays, fun hcaught => by cases hbehind.symm.trans hcaught⟩

lemma Sound.apply {state : ReconcileState} (h : state.Sound) (n : ℕ)
    (htime : state.InTime (.apply n)) : (state.apply n).Sound := by
  unfold ReconcileState.apply
  split
  · next caller answer version hrun =>
    obtain ⟨hle, hanswer⟩ := h.fits n caller _ hrun
    refine ⟨?_, ?_, ?_⟩
    · intro m other phase hm
      rcases Run.update_some_cases hm with ⟨-, hnew⟩ | ⟨-, hold⟩
      · obtain ⟨rfl, rfl⟩ := Prod.mk.inj hnew
        intro number hnumber
        obtain rfl := Option.some.inj hnumber
        exact ⟨hle, fun heq => Bool.or_eq_true_iff.mpr (.inr (beq_iff_eq.mpr heq))⟩
      · exact (h.fits m other phase hold).caughtUp rfl rfl fun hcaught =>
          Bool.or_eq_true_iff.mpr (.inl hcaught)
    · intro target htarget hreach
      rcases htime caller answer version hrun with hnow | hharmless
      · obtain rfl := hanswer hnow
        have hstatus := h.status_apply htarget hreach
        exact hstatus ▸ isTransitionAllowed_self _
      · exact (h.harmless hharmless htarget hreach).1
    · intro hcaught target htarget hreach
      by_cases hnow : version = state.version
      · obtain rfl := hanswer hnow
        exact h.status_apply htarget hreach
      · have hharmless := (htime caller answer version hrun).resolve_left hnow
        refine (h.harmless hharmless htarget hreach).2 ?_
        exact (Bool.or_eq_true_iff.mp hcaught).resolve_right fun heq => hnow (beq_iff_eq.mp heq)
  · exact h

lemma sound_step (state : ReconcileState) (event : ReconcileEvent) (h : state.Sound)
    (htime : state.InTime event) : (state.step event).Sound := by
  cases event with
  | change provider => exact h.change provider
  | start n caller =>
    dsimp only [step, ReconcileState.start]
    split
    · cases caller with
      | direct => exact h.setRun trivial
      | delivery eventId =>
        dsimp only
        split
        · refine Sound.mark ?_ _ _
          exact h.setRun trivial
        · split
          · exact h.setRun fun number hnumber => absurd hnumber (Option.not_mem_none number)
          · exact h.setRun trivial
    · exact h
  | load n =>
    dsimp only [step, ReconcileState.load]
    split
    · next caller _ =>
      split
      · exact h.setRun trivial
      · cases caller with
        | direct => exact h.setRun trivial
        | delivery eventId =>
          exact h.setRun fun number hnumber => absurd hnumber (Option.not_mem_none number)
    · exact h
  | ignore n =>
    dsimp only [step, ReconcileState.ignore]
    split
    · exact h.setRun fun number hnumber => absurd hnumber (Option.not_mem_none number)
    · exact h
  | read n =>
    dsimp only [step, ReconcileState.read]
    split
    · exact h.setRun ⟨le_rfl, fun _ => rfl⟩
    · exact h
  | apply n => exact h.apply n htime
  | finish n =>
    dsimp only [step, ReconcileState.finish]
    split
    · next caller version hrun =>
      have hsettled : state.Fits (.settled version) := h.fits n caller _ hrun
      have hreturned : state.Fits (.returned version) := hsettled
      refine Sound.mark ?_ _ _
      exact h.setRun hreturned
    · exact h
  | fail n recorded =>
    dsimp only [step, ReconcileState.fail]
    split
    · split
      · exact h
      · split
        · refine Sound.mark ?_ _ _
          exact h.setRun trivial
        · exact h.setRun trivial
    · exact h

lemma Sound.converged (h : state.Sound) : state.Converged := by
  rintro target htarget hreach ⟨n, caller, hrun⟩ -
  have hcaught := (h.fits n caller _ hrun state.version rfl).2 rfl
  exact h.caught hcaught target htarget hreach

lemma row_mark (state : ReconcileState) (caller : ReconcileCaller) (status : ProviderEventStatus) :
    (state.mark caller status).row = state.row := by
  unfold mark
  split
  · rfl
  · split <;> rfl

lemma row_step (state : ReconcileState) (event : ReconcileEvent) :
    (state.step event).row = state.row ∨
      ∃ answer, (state.step event).row = applyProviderState state.row answer := by
  cases event with
  | change provider => exact .inl rfl
  | start n caller =>
    left
    dsimp only [step, start]
    split
    · cases caller with
      | direct => rfl
      | delivery eventId =>
        dsimp only
        split
        · exact row_mark _ _ _
        · split <;> rfl
    · rfl
  | load n =>
    left
    dsimp only [step, load]
    split
    · split
      · rfl
      · split <;> rfl
    · rfl
  | ignore n =>
    left
    dsimp only [step, ignore]
    split <;> rfl
  | read n =>
    left
    dsimp only [step, read]
    split <;> rfl
  | apply n =>
    dsimp only [step, apply]
    split
    · next caller answer version hrun => exact .inr ⟨answer, rfl⟩
    · exact .inl rfl
  | finish n =>
    left
    dsimp only [step, finish]
    split
    · exact row_mark _ _ _
    · rfl
  | fail n recorded =>
    left
    dsimp only [step, fail]
    split
    · split
      · rfl
      · split
        · exact row_mark _ _ _
        · rfl
    · rfl

lemma canceled_step (state : ReconcileState) (event : ReconcileEvent)
    (h : state.row.status = .canceled) : (state.step event).row.status = .canceled := by
  rcases row_step state event with hrow | ⟨answer, hrow⟩
  · rw [hrow]
    exact h
  · rw [hrow]
    exact applyProviderState_canceled h answer

end ReconcileState

/-! ## Runs -/

/-- **The status converges on the provider** in every run in which no answer is applied too late,
and a canceled subscription stays canceled. -/
theorem status_converges {state : ReconcileState} {events : List ReconcileEvent}
    (hstart : state.Initial) (h : Run.Along ReconcileState.step InTime state events) :
    StatusConverges state events := by
  have hsound : Run.Always ReconcileState.step Sound state events :=
    Run.always_of_along sound_step hstart.sound h
  constructor
  · exact fun before after hsplit => (hsound before after hsplit).converged
  · rintro before after rfl hcanceled
    rw [Run.run_append]
    exact Run.run_of_step canceled_step hcanceled after

/-! ## Answers in time and too late -/

instance (state : ReconcileState) (event : ReconcileEvent) : Decidable (state.InTime event) :=
  match event with
  | .change _ => isTrue trivial
  | .start _ _ => isTrue trivial
  | .load _ => isTrue trivial
  | .ignore _ => isTrue trivial
  | .read _ => isTrue trivial
  | .apply n =>
    match hrun : state.runs n with
    | some (caller, .answered answer version) =>
      decidable_of_iff (version = state.version ∨ state.Harmless answer) <| by
        constructor
        · rintro h other answer' version' hother
          obtain ⟨-, hphase⟩ := Prod.mk.inj (Option.some.inj (hrun.symm.trans hother))
          obtain ⟨rfl, rfl⟩ := ReconcilePhase.answered.inj hphase
          exact h
        · exact fun h => h caller answer version hrun
    | none => isTrue fun _ _ _ hother => by cases hrun.symm.trans hother
    | some (_, .started) => isTrue fun _ _ _ hother => by cases hrun.symm.trans hother
    | some (_, .loaded) => isTrue fun _ _ _ hother => by cases hrun.symm.trans hother
    | some (_, .settled _) => isTrue fun _ _ _ hother => by cases hrun.symm.trans hother
    | some (_, .returned _) => isTrue fun _ _ _ hother => by cases hrun.symm.trans hother
    | some (_, .raised) => isTrue fun _ _ _ hother => by cases hrun.symm.trans hother
  | .finish _ => isTrue trivial
  | .fail _ _ => isTrue trivial

def overdueSubscription : ReconcileState where
  row := ⟨1, .pastDue, some 2, .verified⟩
  provider := .active
  version := 0
  statusAtChange := .pastDue
  caughtUp := false
  runs := fun _ => none
  ledger := fun _ => none

lemma overdueSubscription_initial : overdueSubscription.Initial :=
  ⟨fun _ => rfl, rfl, rfl⟩

/-- A delivery reads that the provider is paid; then the next payment is overdue, and another
delivery reads that. -/
def twoDeliveries : List ReconcileEvent :=
  [.start 0 (.delivery "paid"), .load 0, .read 0, .change .pastDue,
    .start 1 (.delivery "overdue"), .load 1, .read 1]

def appliedInOrder : List ReconcileEvent :=
  twoDeliveries ++ [.apply 0, .finish 0, .apply 1, .finish 1]

def appliedOutOfOrder : List ReconcileEvent :=
  twoDeliveries ++ [.apply 1, .finish 1, .apply 0, .finish 0]

/-- In order, the row ends with the overdue payment. -/
theorem status_converges_twoDeliveries : StatusConverges overdueSubscription appliedInOrder ∧
    (Run.run ReconcileState.step overdueSubscription appliedInOrder).row.status = .pastDue :=
  ⟨status_converges overdueSubscription_initial (by decide +kernel), by decide +kernel⟩

/-- Out of order, both deliveries are marked processed and the subscription is active, although its
payment is overdue. -/
theorem status_diverges : ¬ StatusConverges overdueSubscription appliedOutOfOrder := by
  intro h
  have hruns : ∀ n caller phase, (Run.run ReconcileState.step overdueSubscription
      appliedOutOfOrder).runs n = some (caller, phase) → phase.IsOver := by
    rintro (_ | _ | n) caller phase hrun
    · obtain ⟨-, rfl⟩ := Prod.mk.inj (Option.some.inj hrun)
      trivial
    · obtain ⟨-, rfl⟩ := Prod.mk.inj (Option.some.inj hrun)
      trivial
    · cases hrun
  have hstatus := h.converged appliedOutOfOrder [] (List.append_nil _).symm .pastDue rfl rfl
    ⟨1, .delivery "overdue", rfl⟩ hruns
  have hactive : (Run.run ReconcileState.step overdueSubscription
      appliedOutOfOrder).row.status = .active := by decide +kernel
  rw [hactive] at hstatus
  cases hstatus

end SaasOs.Billing
