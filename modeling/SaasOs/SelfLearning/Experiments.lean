import SaasOs.SelfLearning.Canaries

/-!
# Experiments

An experiment is executed, and a comparison of its own versions completes or fails it; until then it
can be cancelled.  Each operation loads the row without a lock, checks its status and writes in the
same transaction, so the status may have changed when the write is made.
-/

namespace SaasOs.SelfLearning

open StatusWrite

inductive ExperimentStatus
  | configured | running | completed | failed | cancelled
  deriving DecidableEq

namespace ExperimentStatus

/-- `TERMINAL_EXPERIMENT_STATUSES`. -/
def IsTerminal (status : ExperimentStatus) : Prop :=
  status = completed ∨ status = failed ∨ status = cancelled

instance : DecidablePred IsTerminal := fun _ => inferInstanceAs (Decidable (_ ∨ _ ∨ _))

inductive Edge : ExperimentStatus → ExperimentStatus → Prop
  | execute : Edge configured running
  | complete : Edge running completed
  | fail : Edge running failed
  | cancelConfigured : Edge configured cancelled
  | cancelRunning : Edge running cancelled

end ExperimentStatus

/-- The columns of `self_learning.experiments` that the transitions read and write. -/
structure Experiment where
  tenantId : Uuid
  status : ExperimentStatus
  baselineVersion : String
  candidateVersion : String
  evaluationComparisonId : Option Uuid
  evaluationOutcome : Option EvaluationOutcome

/-- The operations on an experiment after its creation. -/
inductive ExperimentOperation
  | execute
  | recordResult (comparison : EvaluationComparison)
  | cancel

namespace ExperimentOperation

def Accepts : ExperimentOperation → ExperimentStatus → Prop
  | execute, status => status = .configured
  | recordResult _, status => status = .running
  | cancel, status => ¬ status.IsTerminal

instance (operation : ExperimentOperation) : DecidablePred operation.Accepts := fun status => by
  cases operation <;> unfold Accepts <;> infer_instance

def target : ExperimentOperation → ExperimentStatus
  | execute => .running
  | recordResult comparison => if comparison.outcome = .invalid then .failed else .completed
  | cancel => .cancelled

def admitted (log : List AuditEntry) (row : Experiment) : ExperimentOperation → Bool
  | recordResult comparison =>
    verifyEvaluationProvenance log comparison row.tenantId &&
      comparison.baselineVersion == row.baselineVersion &&
      comparison.candidateVersion == row.candidateVersion
  | _ => true

end ExperimentOperation

/-- A call that loaded its row and passed its checks. -/
structure ExperimentCall where
  operation : ExperimentOperation
  loaded : Experiment

/-- The committed experiment and the calls under way. -/
structure ExperimentState where
  experiment : Experiment
  calls : ℕ → Option ExperimentCall

/-- What happens: a call loads the row and checks it, or writes.  `isOpen` is the answer of
`lock_open_tenant`. -/
inductive ExperimentEvent
  | load (n : ℕ) (operation : ExperimentOperation) (log : List AuditEntry) (isOpen : Bool)
  | write (n : ℕ)

/-- The row after a call's `UPDATE`. -/
def Experiment.written (call : ExperimentCall) (row : Experiment) : Experiment :=
  let moved := { row with status := writeStatus call.loaded.status call.operation.target row.status }
  match call.operation with
  | .recordResult comparison =>
    { moved with
      evaluationComparisonId := writeStatus call.loaded.evaluationComparisonId
        (some comparison.decisionId) row.evaluationComparisonId
      evaluationOutcome := writeStatus call.loaded.evaluationOutcome (some comparison.outcome)
        row.evaluationOutcome }
  | _ => moved

namespace ExperimentState

def step (state : ExperimentState) : ExperimentEvent → ExperimentState
  | .load n operation log isOpen =>
    if isOpen = true ∧ operation.Accepts state.experiment.status ∧
        operation.admitted log state.experiment = true then
      { state with calls := Function.update state.calls n (some ⟨operation, state.experiment⟩) }
    else { state with calls := Function.update state.calls n none }
  | .write n =>
    match state.calls n with
    | some call =>
      ⟨state.experiment.written call, Function.update state.calls n none⟩
    | none => state

def status (state : ExperimentState) : ExperimentStatus := state.experiment.status

def WritesAccepted (state : ExperimentState) (event : ExperimentEvent) : Prop :=
  match event with
  | .write n => ∀ call ∈ state.calls n, StillAccepted call.operation.Accepts call.loaded.status
      call.operation.target state.experiment.status
  | _ => True

instance (state : ExperimentState) (event : ExperimentEvent) :
    Decidable (state.WritesAccepted event) :=
  match event with
  | .load .. => isTrue trivial
  | .write n => inferInstanceAs (Decidable (∀ call ∈ state.calls n, _))

def StatusMove (status status' : ExperimentStatus) : Prop :=
  status' = status ∨ status.Edge status' ∧ ¬ status.IsTerminal

def Kept (state : ExperimentState) (events : List ExperimentEvent) : Prop :=
  Run.Moves ExperimentState.step ExperimentState.status StatusMove state events

lemma edge_target {operation : ExperimentOperation} {status : ExperimentStatus}
    (h : operation.Accepts status) : status.Edge operation.target ∧ ¬ status.IsTerminal := by
  cases operation with
  | execute =>
    obtain rfl := h
    exact ⟨.execute, by decide⟩
  | recordResult comparison =>
    obtain rfl := h
    refine ⟨?_, by decide⟩
    dsimp only [ExperimentOperation.target]
    split
    · exact .fail
    · exact .complete
  | cancel =>
    refine ⟨?_, h⟩
    cases status with
    | configured => exact .cancelConfigured
    | running => exact .cancelRunning
    | completed => exact absurd (Or.inl rfl) h
    | failed => exact absurd (Or.inr (Or.inl rfl)) h
    | cancelled => exact absurd (Or.inr (Or.inr rfl)) h

lemma status_written (call : ExperimentCall) (row : Experiment) : (row.written call).status =
    writeStatus call.loaded.status call.operation.target row.status := by
  unfold Experiment.written
  cases call.operation <;> rfl

lemma statusMove_step {state : ExperimentState} {event : ExperimentEvent}
    (h : state.WritesAccepted event) : StatusMove state.status (state.step event).status := by
  cases event with
  | load n operation log isOpen =>
    refine Or.inl ?_
    dsimp only [ExperimentState.step]
    split <;> rfl
  | write n =>
    dsimp only [ExperimentState.step]
    cases hcall : state.calls n with
    | none => exact Or.inl rfl
    | some call =>
      dsimp only [ExperimentState.status]
      rw [status_written]
      rcases writeStatus_cases (h call hcall) with hsame | ⟨haccepts, hmoved⟩
      · exact Or.inl hsame
      · rw [hmoved]
        exact Or.inr (edge_target haccepts)

end ExperimentState

/-- **The state machines of canaries and experiments are kept**, in every run in which each unlocked
write finds a status that the operation's check accepts, or leaves it as it is. -/
theorem machines_kept {canary : CanaryState} {canaryEvents : List CanaryEvent}
    {experiment : ExperimentState} {experimentEvents : List ExperimentEvent}
    (hstart : canary.Initial)
    (hcanary : Run.Along CanaryState.step CanaryState.WritesAccepted canary canaryEvents)
    (hexperiment : Run.Along ExperimentState.step ExperimentState.WritesAccepted experiment
      experimentEvents) :
    canary.Kept canaryEvents ∧ experiment.Kept experimentEvents :=
  ⟨CanaryState.kept_of_along hstart hcanary,
    Run.moves_of_along (I := fun _ => True) (fun _ _ _ _ => trivial)
      (fun _ _ _ hevent => ExperimentState.statusMove_step hevent) trivial hexperiment⟩

/-! ## Runs that keep and break the machines -/

instance (state : CanaryState) (event : CanaryEvent) : Decidable (state.WritesAccepted event) :=
  match event with
  | .create .. => isTrue trivial
  | .call .. => isTrue trivial
  | .proceed n granted _ =>
    match hcall : state.calls n with
    | none => isTrue fun _ call hmem => by cases hcall.symm.trans hmem
    | some ⟨operation, .loaded loaded⟩ =>
      decidable_of_iff (granted = true → ∀ target ∈ operation.target, ∀ row ∈ state.canary,
        StillAccepted operation.Accepts loaded target row.status) <| by
        constructor
        · intro h hgranted call hmem other hother
          obtain rfl := Option.some.inj (hcall.symm.trans hmem)
          obtain rfl := CanaryPhase.loaded.inj hother
          exact h hgranted
        · intro h hgranted
          exact h hgranted _ hcall loaded rfl
    | some ⟨operation, .checked⟩ => isTrue fun _ call hmem loaded hloaded => by
      obtain rfl := Option.some.inj (hcall.symm.trans hmem)
      cases hloaded
    | some ⟨operation, .rollingBack⟩ => isTrue fun _ call hmem loaded hloaded => by
      obtain rfl := Option.some.inj (hcall.symm.trans hmem)
      cases hloaded
    | some ⟨operation, .failing⟩ => isTrue fun _ call hmem loaded hloaded => by
      obtain rfl := Option.some.inj (hcall.symm.trans hmem)
      cases hloaded

def passedCandidate : CanaryState where
  tenantId := 1
  canary := none
  table := adaptationRun [] (proposeAndEvaluate 101 ++ [activateVersion 101] ++
    proposeAndEvaluate 102)
  calls := fun _ => none
  started := false
  rolledBack := false
  ended := []

lemma passedCandidate_initial : passedCandidate.Initial :=
  ⟨rfl, fun _ => rfl, ⟨_, rfl⟩, rfl, rfl, rfl⟩

def watchErrorRate : CanaryEvent :=
  .create 102 [⟨"error_rate", .lowerIsBetter, none, none, none⟩]

def nothingMeasured : CanaryOperation :=
  .observe ⟨none, none, none, none, none, none, none, none⟩ 5

def observedAndRolledBack : List CanaryEvent :=
  [watchErrorRate, .call 0 (.start 5), .proceed 0 true audited, .call 1 nothingMeasured,
    .proceed 1 true audited, .proceed 1 true audited]

def runningExperiment : ExperimentState where
  experiment := ⟨1, .running, "1", "2", none, none⟩
  calls := fun _ => none

def resultRecorded : List ExperimentEvent :=
  [.load 0 (.recordResult ⟨.pass, "1", "2", none, none, [], [], 12⟩) audited.log true, .write 0]

/-- A violating observation rolls the canary back, and the experiment is completed. -/
theorem machines_kept_observed :
    (passedCandidate.Kept observedAndRolledBack ∧ runningExperiment.Kept resultRecorded) ∧
      (Run.run CanaryState.step passedCandidate observedAndRolledBack).ended =
        [(nothingMeasured, .returned), (.start 5, .returned)] ∧
      (Run.run ExperimentState.step runningExperiment resultRecorded).status = .completed :=
  ⟨machines_kept passedCandidate_initial (by decide +kernel) (by decide +kernel),
    rfl, by decide +kernel⟩

def cancelledAfterStart : List CanaryEvent :=
  [watchErrorRate, .call 0 .cancel, .proceed 0 true audited, .call 1 (.start 5),
    .proceed 1 true audited, .proceed 0 true audited]

def completedAfterCancellation : List ExperimentEvent :=
  [.load 0 (.recordResult ⟨.pass, "1", "2", none, none, [], [], 12⟩) audited.log true,
    .load 1 .cancel [] true, .write 1, .write 0]

/-- The canary is cancelled while its version is active, and the cancelled experiment is completed.
-/
theorem machines_broken :
    ¬ passedCandidate.Kept cancelledAfterStart ∧
      ¬ runningExperiment.Kept completedAfterCancellation := by
  constructor
  · intro h
    have hstatus : (Run.run CanaryState.step passedCandidate cancelledAfterStart).status =
        some .cancelled := by decide +kernel
    have hstarted : (Run.run CanaryState.step passedCandidate cancelledAfterStart).started =
        true := by decide +kernel
    have hactive : ∃ row ∈ (Run.run CanaryState.step passedCandidate cancelledAfterStart).table,
        row.id = 102 ∧ row.status = .active := by decide +kernel
    have hcanary : (Run.run CanaryState.step passedCandidate cancelledAfterStart).canary.map
        (fun row => row.adaptationId) = some 102 := by decide +kernel
    obtain ⟨row, hrow, hid⟩ := Option.map_eq_some_iff.mp hcanary
    refine (h.agrees cancelledAfterStart [] (List.append_nil _).symm).cancelled hstatus
      ⟨hstarted, row, hrow, ?_⟩
    rw [hid]
    exact hactive
  · intro h
    have hmove := h (completedAfterCancellation.take 3) (.write 0) [] rfl
    have hbefore : (Run.run ExperimentState.step runningExperiment
        (completedAfterCancellation.take 3)).status = .cancelled := by decide +kernel
    have hafter : (Run.run ExperimentState.step runningExperiment
        (completedAfterCancellation.take 3 ++ [.write 0])).status = .completed := by decide +kernel
    rw [hbefore, hafter] at hmove
    rcases hmove with heq | ⟨-, hterminal⟩
    · cases heq
    · exact hterminal (Or.inr (Or.inr rfl))

end SaasOs.SelfLearning
