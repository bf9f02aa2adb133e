import SaasOs.SelfLearning.Rollback
import SaasOs.Foundation.StatusWrites

/-!
# Canaries

A canary activates an adaptation when it is started and watches it: it is concluded and promoted,
or rolled back together with its adaptation, or cancelled before it starts.
-/

namespace SaasOs.SelfLearning

open StatusWrite

/-! ## The row and the operations -/

/-- `CanaryStatus`. -/
inductive CanaryStatus
  | configured | running | succeeded | promoted | rolledBack | rollbackFailed | cancelled
  deriving DecidableEq

namespace CanaryStatus

/-- `TERMINAL_CANARY_STATUSES`. -/
def IsTerminal (status : CanaryStatus) : Prop :=
  status = promoted ∨ status = rolledBack ∨ status = rollbackFailed ∨ status = cancelled

inductive Edge : CanaryStatus → CanaryStatus → Prop
  | start : Edge configured running
  | conclude : Edge running succeeded
  | promote : Edge succeeded promoted
  | rollBackRunning : Edge running rolledBack
  | rollBackSucceeded : Edge succeeded rolledBack
  | failRunning : Edge running rollbackFailed
  | failSucceeded : Edge succeeded rollbackFailed
  | cancelConfigured : Edge configured cancelled
  | cancelRunning : Edge running cancelled

end CanaryStatus

/-- The columns of `self_learning.canaries` that the transitions read and write. -/
structure Canary where
  status : CanaryStatus
  adaptationId : Uuid
  monitoringRules : List MetricThreshold

/-- `_violated_metrics`: the metrics that were not measured or fail their absolute bar. -/
def violatedMetrics (metrics : EvaluationMetrics) (rules : List MetricThreshold) : List String :=
  (rules.filter fun threshold =>
    match metrics.get threshold.metricName with
    | none => true
    | some value => threshold.fails value).map fun threshold => threshold.metricName

/-- The operations on a canary after its creation. -/
inductive CanaryOperation
  | start (userId : Uuid)
  | observe (metrics : EvaluationMetrics) (userId : Uuid)
  | conclude
  | promote
  | rollback (userId : Uuid)
  | cancel

namespace CanaryOperation

def Accepts : CanaryOperation → CanaryStatus → Prop
  | start _, status => status = .configured
  | observe _ _, status => status = .running
  | conclude, status => status = .running
  | promote, status => status = .succeeded
  | rollback _, status => status = .running ∨ status = .succeeded
  | cancel, status => status = .configured

instance (operation : CanaryOperation) : DecidablePred operation.Accepts := fun status => by
  cases operation <;> unfold Accepts <;> infer_instance

end CanaryOperation

inductive CanaryPhase
  /-- The canary was read and its status accepted. -/
  | checked
  /-- The canary was loaded in the transaction that writes. -/
  | loaded (status : CanaryStatus)
  /-- An observation was recorded that violates a threshold, or a rollback was asked for. -/
  | rollingBack
  /-- The adaptation could not be rolled back. -/
  | failing

structure CanaryCall where
  operation : CanaryOperation
  phase : CanaryPhase

/-- How a call ends: with the canary that it returns, or with an exception. -/
inductive CallEnd
  | returned | raised
  deriving DecidableEq

/-- The committed canary and adaptations, the calls under way, how the calls before them ended, and
what is known of the past: that the start activated the adaptation, and that its rollback committed.
-/
structure CanaryState where
  tenantId : Uuid
  canary : Option Canary
  table : AdaptationTable
  calls : ℕ → Option CanaryCall
  started : Bool
  rolledBack : Bool
  ended : List (CanaryOperation × CallEnd)

/-- What happens: the canary is created, a call begins with its first read, and a call proceeds to
its next step.  `granted` is the answer of `require_open_tenant` and of the fresh authorization, and
of `lock_open_tenant` in the other operations. -/
inductive CanaryEvent
  | create (adaptationId : Uuid) (monitoringRules : List MetricThreshold)
  | call (n : ℕ) (operation : CanaryOperation)
  | proceed (n : ℕ) (granted : Bool) (env : Surroundings)

def CanaryOperation.target : CanaryOperation → Option CanaryStatus
  | conclude => some .succeeded
  | promote => some .promoted
  | cancel => some .cancelled
  | _ => none

namespace CanaryState

/-- The state with another call at `n`. -/
def setCall (state : CanaryState) (n : ℕ) (call : Option CanaryCall) : CanaryState :=
  { state with calls := Function.update state.calls n call }

/-- The call at `n` ends. -/
def finish (state : CanaryState) (n : ℕ) (operation : CanaryOperation) (callEnd : CallEnd) :
    CanaryState :=
  { state.setCall n none with ended := (operation, callEnd) :: state.ended }

def status (state : CanaryState) : Option CanaryStatus := state.canary.map fun row => row.status

def setStatus (state : CanaryState) (status : CanaryStatus) : CanaryState :=
  { state with canary := state.canary.map fun row => { row with status := status } }

def begin (state : CanaryState) (n : ℕ) (operation : CanaryOperation) : CanaryState :=
  match state.canary with
  | some row =>
    if operation.Accepts row.status then state.setCall n (some ⟨operation, .checked⟩)
    else state.finish n operation .raised
  | none => state.finish n operation .raised

/-- The transaction of `start_canary`: the locked row is checked again, the adaptation activated,
and the canary running. -/
def start (state : CanaryState) (n : ℕ) (env : Surroundings) (userId : Uuid) (row : Canary) :
    CanaryState :=
  if row.status = .configured then
    match activateAdaptationInSession env state.tenantId row.adaptationId userId state.table with
    | .ok table =>
      { (state.setStatus .running).finish n (.start userId) .returned with
        table := table
        started := true }
    | .error _ => state.finish n (.start userId) .raised
  else state.finish n (.start userId) .raised

/-- An error of the adaptation's rollback that `_rollback` turns into `rollback_failed`. -/
def isRefusal : AdaptationError → Bool
  | .notActive _ _ => true
  | .noPreviousVersion _ => true
  | _ => false

def Rollbackable (status : CanaryStatus) : Prop := status = .running ∨ status = .succeeded

instance : DecidablePred Rollbackable := fun _ => inferInstanceAs (Decidable (_ ∨ _))

/-- The transaction of `_rollback`: the locked row is checked again, the adaptation rolled back, and
the canary with it. -/
def rollBack (state : CanaryState) (n : ℕ) (env : Surroundings) (operation : CanaryOperation)
    (userId : Uuid) (row : Canary) : CanaryState :=
  if Rollbackable row.status then
    match rollbackAdaptationInSession env state.tenantId row.adaptationId userId state.table with
    | .ok table =>
      { (state.setStatus .rolledBack).finish n operation .returned with
        table := table
        rolledBack := true }
    | .error e =>
      if isRefusal e then state.setCall n ((state.calls n).map fun call =>
        { call with phase := .failing })
      else state.finish n operation .raised
  else state.finish n operation .raised

def failRollback (state : CanaryState) (row : Canary) : CanaryState :=
  if Rollbackable row.status then state.setStatus .rollbackFailed else state

def proceedChecked (state : CanaryState) (n : ℕ) (granted : Bool) (env : Surroundings)
    (operation : CanaryOperation) (row : Canary) : CanaryState :=
  match operation with
  | .start userId =>
    if granted then state.start n env userId row else state.finish n (.start userId) .raised
  | .observe metrics userId =>
    if granted then
      if violatedMetrics metrics row.monitoringRules ≠ [] then
        state.setCall n (some ⟨.observe metrics userId, .rollingBack⟩)
      else state.finish n (.observe metrics userId) .returned
    else state.finish n (.observe metrics userId) .raised
  | .rollback userId => state.setCall n (some ⟨.rollback userId, .rollingBack⟩)
  | operation => state.setCall n (some ⟨operation, .loaded row.status⟩)

def proceedRollingBack (state : CanaryState) (n : ℕ) (granted : Bool) (env : Surroundings)
    (operation : CanaryOperation) (row : Canary) : CanaryState :=
  if granted then
    match operation with
    | .observe _ userId => state.rollBack n env operation userId row
    | .rollback userId => state.rollBack n env operation userId row
    | _ => state
  else state.finish n operation .raised

def proceedLoaded (state : CanaryState) (n : ℕ) (granted : Bool) (operation : CanaryOperation)
    (loaded : CanaryStatus) (row : Canary) : CanaryState :=
  match operation.target with
  | some target =>
    if granted then
      (state.setStatus (writeStatus loaded target row.status)).finish n operation .returned
    else state.finish n operation .raised
  | none => state

def proceed (state : CanaryState) (n : ℕ) (granted : Bool) (env : Surroundings) : CanaryState :=
  match state.calls n, state.canary with
  | some ⟨operation, .checked⟩, some row => state.proceedChecked n granted env operation row
  | some ⟨operation, .rollingBack⟩, some row => state.proceedRollingBack n granted env operation row
  | some ⟨operation, .loaded loaded⟩, some row => state.proceedLoaded n granted operation loaded row
  | some ⟨operation, .failing⟩, some row => (state.failRollback row).finish n operation .raised
  | _, _ => state

/-- `create_canary`: a configured canary, when there is none yet. -/
def create (state : CanaryState) (adaptationId : Uuid) (monitoringRules : List MetricThreshold) :
    CanaryState :=
  match state.canary with
  | none => { state with canary := some ⟨.configured, adaptationId, monitoringRules⟩ }
  | some _ => state

def step (state : CanaryState) : CanaryEvent → CanaryState
  | .create adaptationId monitoringRules => state.create adaptationId monitoringRules
  | .call n operation => state.begin n operation
  | .proceed n granted env => state.proceed n granted env

/-- Before the run there is no canary and no call, and the adaptations are what calls of their own
functions left. -/
structure Initial (state : CanaryState) : Prop where
  noCanary : state.canary = none
  noCalls : ∀ n, state.calls n = none
  adaptations : ∃ events, state.table = adaptationRun [] events
  notStarted : state.started = false
  notRolledBack : state.rolledBack = false
  noneEnded : state.ended = []

/-- A write of an operation without a lock finds a status that its check accepts, or leaves it. -/
def WritesAccepted (state : CanaryState) (event : CanaryEvent) : Prop :=
  match event with
  | .proceed n granted _ => granted = true → ∀ call ∈ state.calls n, ∀ loaded,
    call.phase = .loaded loaded → ∀ target ∈ call.operation.target, ∀ row ∈ state.canary,
      StillAccepted call.operation.Accepts loaded target row.status
  | _ => True

def AdaptationActive (state : CanaryState) : Prop :=
  ∃ row ∈ state.canary, state.table.IsActive row.adaptationId

/-- How the canary agrees with its adaptation. -/
structure Agrees (state : CanaryState) : Prop where
  /-- A cancelled canary has no activation in force. -/
  cancelled : state.status = some .cancelled → ¬ (state.started = true ∧ state.AdaptationActive)
  /-- A canary is not a success after the rollback of its adaptation. -/
  rolledBack : state.rolledBack = true →
    state.status ≠ some .succeeded ∧ state.status ≠ some .promoted
  /-- A canary that runs or succeeded activated its adaptation. -/
  started : state.status = some .running ∨ state.status = some .succeeded → state.started = true
  /-- After an observation that returned and violates a monitored threshold, the canary and its
  adaptation are rolled back. -/
  violation : ∀ metrics userId, (.observe metrics userId, .returned) ∈ state.ended →
    ∀ row ∈ state.canary, violatedMetrics metrics row.monitoringRules ≠ [] →
      state.status = some .rolledBack ∧ ¬ state.AdaptationActive

def StatusMove (status status' : Option CanaryStatus) : Prop :=
  status' = status ∨ status = none ∧ status' = some .configured ∨
    ∃ old new, status = some old ∧ status' = some new ∧ old.Edge new ∧ ¬ old.IsTerminal

end CanaryState

/-! ## The adaptations of a canary -/

def AdaptationTable.NoSelf (table : AdaptationTable) : Prop :=
  ∀ row ∈ table, row.previousAdaptationId ≠ some row.id

variable {table table' : AdaptationTable}

lemma Rewritten.noSelf {status : Adaptation → AdaptationStatus} (h : Rewritten table status table')
    (hself : table.NoSelf) : table'.NoSelf := by
  intro row' hrow' hprevious
  obtain ⟨row, hrow, hid, -, hsame, -⟩ := h.exists_before hrow'
  exact hself row hrow (hsame.symm.trans (hprevious.trans (congrArg some hid)))

lemma AdaptationTable.NoSelf.step {event : AdaptationEvent} (h : table.NoSelf)
    (hsound : table.Sound) : (adaptationStep table event).NoSelf := by
  obtain ⟨env, call⟩ := event
  unfold adaptationStep
  split
  · next table' hperform =>
    cases call with
    | propose proposal id =>
      obtain ⟨new, rfl, hnew, -, hprevious⟩ := proposeAdaptation_ok hperform
      intro row hrow hself
      rcases List.mem_append.mp hrow with hrow | hrow
      · exact h row hrow hself
      · obtain rfl := List.mem_singleton.mp hrow
        obtain ⟨active, hactive, hid, -⟩ := exists_active_of_activeIn (hprevious.symm.trans hself)
        exact hnew active hactive hid
    | recordEvaluation tenantId adaptationId comparison =>
      exact (recordAdaptationEvaluation_ok hperform).noSelf h
    | activate tenantId adaptationId userId =>
      obtain ⟨_, _, hrewritten⟩ := activateAdaptationInSession_ok hsound.keys hperform
      exact hrewritten.noSelf h
    | rollback tenantId adaptationId userId =>
      obtain ⟨_, _, _, _, _, _, hrewritten⟩ := rollbackAdaptationInSession_ok hperform
      exact hrewritten.noSelf h
  · exact h

lemma sound_adaptationRun (events : List AdaptationEvent) :
    (adaptationRun [] events).Sound ∧ (adaptationRun [] events).NoSelf :=
  Run.run_of_step (I := fun table : AdaptationTable => table.Sound ∧ table.NoSelf)
    (fun _ _ h => ⟨h.1.step, h.2.step h.1⟩)
    ⟨sound_nil, fun _ hrow => absurd hrow List.not_mem_nil⟩ events

lemma not_isActive_of_rollback {env : Surroundings} {tenantId adaptationId userId : Uuid}
    (hsound : table.Sound) (hself : table.NoSelf)
    (h : rollbackAdaptationInSession env tenantId adaptationId userId table = .ok table') :
    ¬ table'.IsActive adaptationId := by
  obtain ⟨row, previous, hget, -, hprevious, -, hrewritten⟩ := rollbackAdaptationInSession_ok h
  obtain ⟨hrow, hrowId, -⟩ := get_eq_ok hget
  rintro ⟨row', hrow', hid', hactive⟩
  obtain ⟨before, hbefore, hid, -, -, hstatus⟩ := hrewritten.exists_before hrow'
  have hbeforeId : before.id = adaptationId := hid.symm.trans hid'
  have hne : before.id ≠ previous.id := by
    intro heq
    obtain rfl := hsound.keys.eq_of_key_eq hbefore hrow (hbeforeId.trans hrowId.symm)
    exact hself before hrow (hprevious.trans (congrArg some heq.symm))
  rw [hactive] at hstatus
  unfold rollbackStatus at hstatus
  rw [if_neg hne, if_pos hbeforeId] at hstatus
  cases hstatus

namespace CanaryState

/-! ## What a step can do -/

/-- What one step that meets the condition does to the canary and its adaptations. -/
inductive Change (state : CanaryState) : CanaryState → Prop
  | same (calls : ℕ → Option CanaryCall) (ended : List (CanaryOperation × CallEnd)) :
    Change state { state with calls := calls, ended := ended }
  | created (row : Canary) (hnone : state.canary = none) (hstatus : row.status = .configured) :
    Change state { state with canary := some row }
  | started (row : Canary) (env : Surroundings) (userId : Uuid) (table : AdaptationTable)
      (calls : ℕ → Option CanaryCall) (ended : List (CanaryOperation × CallEnd))
      (hrow : state.canary = some row) (hstatus : row.status = .configured)
      (hactivated : activateAdaptationInSession env state.tenantId row.adaptationId userId
        state.table = .ok table) :
    Change state { state.setStatus .running with
      table := table
      started := true
      calls := calls
      ended := ended }
  | rolledBack (row : Canary) (env : Surroundings) (userId : Uuid) (table : AdaptationTable)
      (calls : ℕ → Option CanaryCall) (ended : List (CanaryOperation × CallEnd))
      (hrow : state.canary = some row) (hstatus : Rollbackable row.status)
      (hrolledBack : rollbackAdaptationInSession env state.tenantId row.adaptationId userId
        state.table = .ok table) :
    Change state { state.setStatus .rolledBack with
      table := table
      calls := calls
      rolledBack := true
      ended := ended }
  | failed (row : Canary) (calls : ℕ → Option CanaryCall)
      (ended : List (CanaryOperation × CallEnd)) (hrow : state.canary = some row)
      (hstatus : Rollbackable row.status) :
    Change state { state.setStatus .rollbackFailed with calls := calls, ended := ended }
  | written (row : Canary) (operation : CanaryOperation) (target : CanaryStatus)
      (calls : ℕ → Option CanaryCall) (ended : List (CanaryOperation × CallEnd))
      (hrow : state.canary = some row) (htarget : operation.target = some target)
      (hstatus : operation.Accepts row.status) :
    Change state { state.setStatus target with calls := calls, ended := ended }

variable {state : CanaryState} {row : Canary}

lemma setStatus_self (hrow : state.canary = some row) :
    state.setStatus row.status = state := by
  unfold setStatus
  rw [hrow, Option.map_some, ← hrow]

variable (n : ℕ)

variable (granted : Bool)

lemma change_proceedChecked (env : Surroundings) (operation : CanaryOperation)
    (hrow : state.canary = some row) :
    state.Change (state.proceedChecked n granted env operation row) := by
  cases operation with
  | start userId =>
    dsimp only [proceedChecked]
    cases granted with
    | false => exact .same _ _
    | true =>
      rw [if_pos rfl]
      unfold CanaryState.start
      split
      · next hstatus =>
        split
        · next table hactivated => exact .started row env userId table _ _ hrow hstatus hactivated
        · exact .same _ _
      · exact .same _ _
  | observe metrics userId =>
    dsimp only [proceedChecked]
    split
    · split <;> exact .same _ _
    · exact .same _ _
  | conclude => exact .same _ _
  | promote => exact .same _ _
  | rollback userId => exact .same _ _
  | cancel => exact .same _ _

lemma change_rollBack (env : Surroundings) (operation : CanaryOperation) (userId : Uuid)
    (hrow : state.canary = some row) :
    state.Change (state.rollBack n env operation userId row) := by
  unfold CanaryState.rollBack
  split
  · next hstatus =>
    split
    · next table hrolledBack =>
      exact .rolledBack row env userId table _ _ hrow hstatus hrolledBack
    · split <;> exact .same _ _
  · exact .same _ _

lemma change_proceedRollingBack (env : Surroundings) (operation : CanaryOperation)
    (hrow : state.canary = some row) :
    state.Change (state.proceedRollingBack n granted env operation row) := by
  unfold proceedRollingBack
  cases granted with
  | false => exact .same _ _
  | true =>
    rw [if_pos rfl]
    cases operation with
    | start userId => exact .same _ _
    | observe metrics userId => exact change_rollBack n env _ userId hrow
    | conclude => exact .same _ _
    | promote => exact .same _ _
    | rollback userId => exact change_rollBack n env _ userId hrow
    | cancel => exact .same _ _

lemma change_proceedLoaded (operation : CanaryOperation) (loaded : CanaryStatus)
    (hrow : state.canary = some row)
    (haccepted : granted = true → ∀ target ∈ operation.target,
      StillAccepted operation.Accepts loaded target row.status) :
    state.Change (state.proceedLoaded n granted operation loaded row) := by
  unfold proceedLoaded
  cases htarget : operation.target with
  | none => exact .same _ _
  | some target =>
    dsimp only
    cases granted with
    | false => exact .same _ _
    | true =>
      rw [if_pos rfl]
      rcases writeStatus_cases (haccepted rfl target htarget) with hsame | ⟨haccepts, hmoved⟩
      · rw [hsame, setStatus_self hrow]
        exact .same _ _
      · rw [hmoved]
        exact .written row operation target _ _ hrow htarget haccepts

lemma change_step {event : CanaryEvent} (h : state.WritesAccepted event) :
    state.Change (state.step event) := by
  cases event with
  | create adaptationId monitoringRules =>
    dsimp only [CanaryState.step, CanaryState.create]
    cases hcanary : state.canary with
    | none => exact .created _ hcanary rfl
    | some row => exact .same _ _
  | call n operation =>
    dsimp only [CanaryState.step, CanaryState.begin]
    cases state.canary with
    | none => exact .same _ _
    | some row =>
      dsimp only
      split <;> exact .same _ _
  | proceed n granted env =>
    dsimp only [CanaryState.step, CanaryState.proceed]
    cases hcall : state.calls n with
    | none => exact .same _ _
    | some call =>
      obtain ⟨operation, phase⟩ := call
      cases hrow : state.canary with
      | none => cases phase <;> exact .same _ _
      | some row =>
        cases phase with
        | checked => exact change_proceedChecked n granted env operation hrow
        | loaded loaded =>
          exact change_proceedLoaded n granted operation loaded hrow
            fun hgranted target htarget => h hgranted _ hcall loaded rfl target htarget row hrow
        | rollingBack => exact change_proceedRollingBack n granted env operation hrow
        | failing =>
          dsimp only [CanaryState.failRollback]
          split
          · next hstatus => exact .failed row _ _ hrow hstatus
          · exact .same _ _

/-! ## The invariant -/

/-- What every state of a run satisfies whose unlocked writes meet the condition. -/
structure Sound (state : CanaryState) : Prop where
  table : state.table.Sound
  noSelf : state.table.NoSelf
  /-- Before its start a canary has activated nothing. -/
  notStarted : state.status = none ∨ state.status = some .configured ∨
    state.status = some .cancelled → state.started = false
  started : state.status = some .running ∨ state.status = some .succeeded → state.started = true
  rolledBack : state.rolledBack = true → state.status = some .rolledBack
  notActive : state.status = some .rolledBack → ¬ state.AdaptationActive

lemma Initial.sound (h : state.Initial) : state.Sound := by
  have hstatus : state.status = none := by
    unfold status
    rw [h.noCanary, Option.map_none]
  obtain ⟨events, htable⟩ := h.adaptations
  obtain ⟨hsound, hself⟩ := sound_adaptationRun events
  rw [← htable] at hsound hself
  refine ⟨hsound, hself, fun _ => h.notStarted, ?_, ?_, ?_⟩
  · rw [hstatus]
    rintro (heq | heq) <;> cases heq
  · rw [h.notRolledBack]
    exact fun heq => by cases heq
  · rw [hstatus]
    exact fun heq => by cases heq

/-- An observation that returned measured the canary, and when it violates a monitored threshold the
rollback committed. -/
def Observed (state : CanaryState) : Prop :=
  ∀ metrics userId, (.observe metrics userId, .returned) ∈ state.ended →
    ∃ row ∈ state.canary, violatedMetrics metrics row.monitoringRules ≠ [] → state.rolledBack = true

lemma Observed.finish (h : state.Observed) (operation : CanaryOperation) (callEnd : CallEnd)
    (hnew : ∀ metrics userId, operation = .observe metrics userId → callEnd = .returned →
      ∃ row ∈ state.canary, violatedMetrics metrics row.monitoringRules ≠ [] →
        state.rolledBack = true) : (state.finish n operation callEnd).Observed := by
  intro metrics userId hmem
  rcases List.mem_cons.mp hmem with heq | hmem
  · obtain ⟨hoperation, hend⟩ := Prod.mk.inj heq
    exact hnew metrics userId hoperation.symm hend.symm
  · exact h metrics userId hmem

lemma Observed.raised (h : state.Observed) (operation : CanaryOperation) :
    (state.finish n operation .raised).Observed :=
  h.finish n operation .raised fun _ _ _ hend => by cases hend

lemma Observed.setStatus (h : state.Observed) (new : CanaryStatus) :
    (state.setStatus new).Observed := by
  intro metrics userId hmem
  obtain ⟨row, hrow, hviolated⟩ := h metrics userId hmem
  exact ⟨{ row with status := new }, Option.mem_map_of_mem _ hrow, hviolated⟩

lemma Observed.start (h : state.Observed) (env : Surroundings) (userId : Uuid) (row : Canary) :
    (state.start n env userId row).Observed := by
  unfold CanaryState.start
  split
  · split
    · exact (h.setStatus .running).finish n (.start userId) .returned
        fun _ _ hoperation => by cases hoperation
    · exact h.raised n _
  · exact h.raised n _

lemma Observed.rollBack (h : state.Observed) (env : Surroundings) (operation : CanaryOperation)
    (userId : Uuid) (hrow : state.canary = some row) :
    (state.rollBack n env operation userId row).Observed := by
  unfold CanaryState.rollBack
  split
  · split
    · exact fun _ _ _ => ⟨_, Option.mem_map_of_mem _ hrow, fun _ => rfl⟩
    · split
      · exact h
      · exact h.raised n _
  · exact h.raised n _

lemma Observed.proceedChecked (h : state.Observed) (env : Surroundings)
    (operation : CanaryOperation) (hrow : state.canary = some row) :
    (state.proceedChecked n granted env operation row).Observed := by
  cases operation with
  | start userId =>
    dsimp only [CanaryState.proceedChecked]
    split
    · exact h.start n env userId row
    · exact h.raised n _
  | observe metrics userId =>
    dsimp only [CanaryState.proceedChecked]
    split
    · split
      · exact h
      · next hkept =>
        refine h.finish n _ _ fun metrics' userId' hoperation _ => ⟨row, hrow, fun hviolated => ?_⟩
        obtain ⟨rfl, -⟩ := CanaryOperation.observe.inj hoperation
        exact absurd hviolated hkept
    · exact h.raised n _
  | conclude => exact h
  | promote => exact h
  | rollback userId => exact h
  | cancel => exact h

lemma Observed.proceed (h : state.Observed) (env : Surroundings) :
    (state.proceed n granted env).Observed := by
  unfold CanaryState.proceed
  split
  · next hrow => exact h.proceedChecked n granted env _ hrow
  · next hrow =>
    unfold proceedRollingBack
    split
    · split
      · exact h.rollBack n env _ _ hrow
      · exact h.rollBack n env _ _ hrow
      · exact h
    · exact h.raised n _
  · next operation _ _ _ _ =>
    unfold proceedLoaded
    split
    · next htarget =>
      split
      · refine (h.setStatus _).finish n _ _ fun _ _ hoperation _ => ?_
        rw [hoperation] at htarget
        cases htarget
      · exact h.raised n _
    · exact h
  · unfold failRollback
    split
    · exact (h.setStatus _).raised n _
    · exact h.raised n _
  · exact h

lemma Observed.step (h : state.Observed) (event : CanaryEvent) : (state.step event).Observed := by
  cases event with
  | create adaptationId monitoringRules =>
    dsimp only [CanaryState.step, CanaryState.create]
    split
    · next hnone =>
      intro metrics userId hmem
      obtain ⟨row, hrow, -⟩ := h metrics userId hmem
      rw [hnone] at hrow
      cases hrow
    · exact h
  | call n operation =>
    dsimp only [CanaryState.step, CanaryState.begin]
    split
    · split
      · exact h
      · exact h.raised n _
    · exact h.raised n _
  | proceed n granted env => exact h.proceed n granted env

lemma Sound.agrees (h : state.Sound) (hobserved : state.Observed) : state.Agrees where
  cancelled hstatus := by
    rintro ⟨hstarted, -⟩
    rw [h.notStarted (Or.inr (Or.inr hstatus))] at hstarted
    cases hstarted
  rolledBack hrolledBack := by
    rw [h.rolledBack hrolledBack]
    decide
  started := h.started
  violation metrics userId hmem row hrow hviolated := by
    obtain ⟨row', hrow', hrolledBack⟩ := hobserved metrics userId hmem
    obtain rfl := Option.some.inj (hrow'.symm.trans hrow)
    have hstatus := h.rolledBack (hrolledBack hviolated)
    exact ⟨hstatus, h.notActive hstatus⟩

lemma status_of_canary (hrow : state.canary = some row) :
    state.status = some row.status := by
  unfold status
  rw [hrow, Option.map_some]

lemma status_setStatus (hrow : state.canary = some row) (new : CanaryStatus) :
    (state.setStatus new).status = some new := by
  unfold setStatus status
  rw [hrow, Option.map_some, Option.map_some]

lemma Sound.rolledBack_eq_false (h : state.Sound) (hrow : state.canary = some row)
    (hstatus : row.status ≠ .rolledBack) :
    state.rolledBack = false := by
  by_contra hflag
  have hrolledBack := h.rolledBack (Bool.eq_true_of_not_eq_false hflag)
  rw [status_of_canary hrow] at hrolledBack
  exact hstatus (Option.some.inj hrolledBack)

lemma Rollbackable.ne {status : CanaryStatus} (h : Rollbackable status) : status ≠ .rolledBack := by
  rintro rfl
  rcases h with h | h <;> cases h

lemma edge_of_target {operation : CanaryOperation} {status target : CanaryStatus}
    (htarget : operation.target = some target) (haccepts : operation.Accepts status) :
    status.Edge target ∧ ¬ status.IsTerminal ∧ status ≠ .rolledBack ∧ target ≠ .rolledBack ∧
      (target = .cancelled → status = .configured) ∧
      (target = .succeeded → status = .running) ∧ target ≠ .running ∧ target ≠ .configured := by
  cases operation with
  | conclude =>
    obtain rfl := Option.some.inj htarget
    obtain rfl := haccepts
    exact ⟨.conclude, by unfold CanaryStatus.IsTerminal; decide, by decide⟩
  | promote =>
    obtain rfl := Option.some.inj htarget
    obtain rfl := haccepts
    exact ⟨.promote, by unfold CanaryStatus.IsTerminal; decide, by decide⟩
  | cancel =>
    obtain rfl := Option.some.inj htarget
    obtain rfl := haccepts
    exact ⟨.cancelConfigured, by unfold CanaryStatus.IsTerminal; decide, by decide⟩
  | start => cases htarget
  | observe => cases htarget
  | rollback => cases htarget

lemma Sound.moved (h : state.Sound) {new : CanaryStatus} (calls : ℕ → Option CanaryCall)
    (ended : List (CanaryOperation × CallEnd)) (hrow : state.canary = some row)
    (hstatus : row.status ≠ .rolledBack) (hnew : new ≠ .rolledBack)
    (hcancelled : new = .configured ∨ new = .cancelled → state.started = false)
    (hrunning : new = .running ∨ new = .succeeded → state.started = true) :
    Sound { state.setStatus new with calls := calls, ended := ended } where
  table := h.table
  noSelf := h.noSelf
  notStarted hold := by
    have hset : CanaryState.status { state.setStatus new with calls := calls, ended := ended } =
        some new :=
      status_setStatus hrow new
    rw [hset] at hold
    rcases hold with hold | hold | hold
    · cases hold
    · exact hcancelled (Or.inl (Option.some.inj hold))
    · exact hcancelled (Or.inr (Option.some.inj hold))
  started hold := by
    have hset : CanaryState.status { state.setStatus new with calls := calls, ended := ended } =
        some new :=
      status_setStatus hrow new
    rw [hset] at hold
    exact hrunning (hold.imp Option.some.inj Option.some.inj)
  rolledBack hflag := by
    have hflag' : state.rolledBack = true := hflag
    rw [h.rolledBack_eq_false hrow hstatus] at hflag'
    cases hflag'
  notActive hold := by
    have hset : CanaryState.status { state.setStatus new with calls := calls, ended := ended } =
        some new :=
      status_setStatus hrow new
    rw [hset] at hold
    exact absurd (Option.some.inj hold) hnew

lemma Sound.change {state state' : CanaryState} (h : state.Sound) (hchange : state.Change state') :
    state'.Sound := by
  cases hchange with
  | same calls ended =>
    exact ⟨h.table, h.noSelf, h.notStarted, h.started, h.rolledBack, h.notActive⟩
  | created row hnone hconfigured =>
    have hstatus : state.status = none := by
      unfold status
      rw [hnone, Option.map_none]
    have hset : CanaryState.status { state with canary := some row } = some .configured := by
      unfold status
      rw [Option.map_some, hconfigured]
    refine ⟨h.table, h.noSelf, fun _ => h.notStarted (Or.inl hstatus), ?_, ?_, ?_⟩
    · rw [hset]
      rintro (heq | heq) <;> cases heq
    · intro hflag
      have hrolledBack := h.rolledBack hflag
      rw [hstatus] at hrolledBack
      cases hrolledBack
    · rw [hset]
      exact fun heq => by cases heq
  | started row env userId table calls ended hrow hconfigured hactivated =>
    have hne : row.status ≠ .rolledBack := by
      rw [hconfigured]
      decide
    obtain ⟨_, _, hrewritten⟩ := activateAdaptationInSession_ok h.table.keys hactivated
    have htable : table.Sound :=
      @AdaptationTable.Sound.perform _ _ _ h.table (.activate state.tenantId row.adaptationId userId)
        hactivated
    have hset : CanaryState.status { state.setStatus .running with
        table := table, started := true, calls := calls, ended := ended } = some .running :=
      status_setStatus hrow .running
    refine ⟨htable, hrewritten.noSelf h.noSelf, ?_, fun _ => rfl, ?_, ?_⟩
    · rw [hset]
      rintro (heq | heq | heq) <;> cases heq
    · intro hflag
      have hflag' : state.rolledBack = true := hflag
      rw [h.rolledBack_eq_false hrow hne] at hflag'
      cases hflag'
    · rw [hset]
      exact fun heq => by cases heq
  | rolledBack row env userId table calls ended hrow hstatus hrolledBack =>
    obtain ⟨_, _, _, _, _, _, hrewritten⟩ := rollbackAdaptationInSession_ok hrolledBack
    have htable : table.Sound :=
      @AdaptationTable.Sound.perform _ _ _ h.table (.rollback state.tenantId row.adaptationId userId)
        hrolledBack
    have hnot := not_isActive_of_rollback h.table h.noSelf hrolledBack
    refine ⟨htable, hrewritten.noSelf h.noSelf, ?_, ?_, fun _ => status_setStatus hrow .rolledBack,
      ?_⟩
    · rintro (heq | heq | heq)
      all_goals cases (status_setStatus hrow .rolledBack).symm.trans heq
    · rintro (heq | heq)
      all_goals cases (status_setStatus hrow .rolledBack).symm.trans heq
    · rintro - ⟨other, hother, hactive⟩
      have hcanary : (state.setStatus .rolledBack).canary =
          some { row with status := .rolledBack } := by
        unfold setStatus
        rw [hrow, Option.map_some]
      obtain rfl := Option.some.inj (hcanary.symm.trans hother)
      exact hnot hactive
  | failed row calls ended hrow hstatus =>
    refine h.moved calls ended hrow hstatus.ne (by decide) ?_ ?_
    · rintro (heq | heq) <;> cases heq
    · rintro (heq | heq) <;> cases heq
  | written row operation target calls ended hrow htarget haccepts =>
    obtain ⟨-, -, hne, hne', hcancelled, hsucceeded, hrunning, hconfigured⟩ :=
      edge_of_target htarget haccepts
    refine h.moved calls ended hrow hne hne' ?_ ?_
    · rintro (heq | heq)
      · exact absurd heq hconfigured
      · refine h.notStarted (Or.inr (Or.inl ?_))
        rw [status_of_canary hrow, hcancelled heq]
    · rintro (heq | heq)
      · exact absurd heq hrunning
      · refine h.started (Or.inl ?_)
        rw [status_of_canary hrow, hsucceeded heq]

lemma Change.statusMove {state state' : CanaryState} (h : state.Change state') :
    StatusMove state.status state'.status := by
  cases h with
  | same calls ended => exact Or.inl rfl
  | created row hnone hconfigured =>
    refine Or.inr (Or.inl ⟨?_, ?_⟩)
    · unfold status
      rw [hnone, Option.map_none]
    · unfold status
      rw [Option.map_some, hconfigured]
  | started row env userId table calls ended hrow hconfigured hactivated =>
    refine Or.inr (Or.inr ⟨_, _, status_of_canary hrow, status_setStatus hrow .running, ?_, ?_⟩)
    · rw [hconfigured]
      exact .start
    · rw [hconfigured]
      unfold CanaryStatus.IsTerminal
      decide
  | rolledBack row env userId table calls ended hrow hstatus hrolledBack =>
    refine Or.inr (Or.inr ⟨_, _, status_of_canary hrow, status_setStatus hrow .rolledBack, ?_⟩)
    unfold CanaryStatus.IsTerminal
    rcases hstatus with hstatus | hstatus
    · rw [hstatus]
      exact ⟨.rollBackRunning, by decide⟩
    · rw [hstatus]
      exact ⟨.rollBackSucceeded, by decide⟩
  | failed row calls ended hrow hstatus =>
    refine Or.inr (Or.inr ⟨_, _, status_of_canary hrow, status_setStatus hrow .rollbackFailed, ?_⟩)
    unfold CanaryStatus.IsTerminal
    rcases hstatus with hstatus | hstatus
    · rw [hstatus]
      exact ⟨.failRunning, by decide⟩
    · rw [hstatus]
      exact ⟨.failSucceeded, by decide⟩
  | written row operation target calls ended hrow htarget haccepts =>
    obtain ⟨hedge, hterminal, -⟩ := edge_of_target htarget haccepts
    exact Or.inr (Or.inr ⟨_, _, status_of_canary hrow, status_setStatus hrow target, hedge,
      hterminal⟩)

/-- What the transitions promise about a run: the status moves along the documented edges, and the
canary agrees with its adaptation. -/
structure Kept (state : CanaryState) (events : List CanaryEvent) : Prop where
  moves : Run.Moves CanaryState.step CanaryState.status StatusMove state events
  agrees : Run.Always CanaryState.step Agrees state events

lemma kept_of_along {events : List CanaryEvent} (hstart : state.Initial)
    (h : Run.Along CanaryState.step WritesAccepted state events) : state.Kept events where
  moves := Run.moves_of_along (fun _ _ hsound hevent => hsound.change (change_step hevent))
    (fun _ _ _ hevent => (change_step hevent).statusMove) hstart.sound h
  agrees := by
    have hsound : Run.Always CanaryState.step Sound state events :=
      Run.always_of_along (fun _ _ hsound hevent => hsound.change (change_step hevent))
        hstart.sound h
    have hobserved : state.Observed := by
      intro metrics userId hmem
      rw [hstart.noneEnded] at hmem
      cases hmem
    exact fun before after hsplit => (hsound before after hsplit).agrees
      (Run.run_of_step (fun _ event hkept => hkept.step event) hobserved before)

end CanaryState

end SaasOs.SelfLearning
