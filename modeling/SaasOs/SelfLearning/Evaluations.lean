import SaasOs.SelfLearning.Rollback
import SaasOs.SelfLearning.Provenance

/-!
# Evaluations of candidates

`record_adaptation_evaluation` verifies the comparison, reads the candidate's row without a lock,
checks its status, and writes the outcome when it commits; an activation reads the row under a lock
and demands the outcome `pass`.  Between a recorder's read and its write other transactions commit.
-/

namespace SaasOs.SelfLearning

/-! ## The system -/

/-- Where a call of `record_adaptation_evaluation` is. -/
inductive RecorderPhase
  | verified
  | loaded (row : Adaptation)

/-- A call of `record_adaptation_evaluation`. -/
structure Recorder where
  tenantId : Uuid
  adaptationId : Uuid
  comparison : EvaluationComparison
  phase : RecorderPhase

/-- The committed tables, the recorders under way, and the outcomes written so far. -/
structure EvaluationState where
  table : AdaptationTable
  log : List AuditEntry
  recorders : ℕ → Option Recorder
  recorded : List (Uuid × EvaluationComparison)

/-- What can happen next to the evaluations. -/
inductive EvaluationEvent
  | runEvaluation (baseline candidate : EvaluationSubjectResult)
      (thresholds : List MetricThreshold) (crossTenantPolicy : Option CrossTenantLearningPolicy)
      (actorUserId : Uuid) (correlationId : Option String) (decisionId : Uuid)
  | verify (n : ℕ) (tenantId adaptationId : Uuid) (comparison : EvaluationComparison)
  | load (n : ℕ) (openTenant : Uuid → Bool)
  | write (n : ℕ)
  | activate (openTenant : Uuid → Bool) (now : Instant) (tenantId adaptationId userId : Uuid)
  | startCanary (granted : Bool) (openTenant : Uuid → Bool) (now : Instant)
      (tenantId adaptationId userId : Uuid)

namespace EvaluationState

/-- The state with another recorder at `n`. -/
def setRecorder (state : EvaluationState) (n : ℕ) (recorder : Option Recorder) : EvaluationState :=
  { state with recorders := Function.update state.recorders n recorder }

def verify (state : EvaluationState) (n : ℕ) (tenantId adaptationId : Uuid)
    (comparison : EvaluationComparison) : EvaluationState :=
  if verifyEvaluationProvenance state.log comparison tenantId then
    state.setRecorder n (some ⟨tenantId, adaptationId, comparison, .verified⟩)
  else state.setRecorder n none

def loadCandidate (state : EvaluationState) (openTenant : Uuid → Bool) (recorder : Recorder) :
    Except AdaptationError Adaptation := do
  let row ← state.table.get recorder.tenantId recorder.adaptationId
  let _ ← requiring (openTenant recorder.tenantId = true) (.tenantNotOpen recorder.tenantId)
  let _ ← requireCandidate row
  return row

def load (state : EvaluationState) (n : ℕ) (openTenant : Uuid → Bool) : EvaluationState :=
  match state.recorders n with
  | some ⟨tenantId, adaptationId, comparison, .verified⟩ =>
    match state.loadCandidate openTenant ⟨tenantId, adaptationId, comparison, .verified⟩ with
    | .ok row => state.setRecorder n (some ⟨tenantId, adaptationId, comparison, .loaded row⟩)
    | .error _ => state.setRecorder n none
  | _ => state

/-- The row after a recorder's `UPDATE`, which sets the columns that differ from what it read. -/
def rewritten (loaded : Adaptation) (comparison : EvaluationComparison) (row : Adaptation) :
    Adaptation :=
  { row with
    evaluationComparisonId := if loaded.evaluationComparisonId = some comparison.decisionId then
      row.evaluationComparisonId else some comparison.decisionId
    evaluationOutcome := if loaded.evaluationOutcome = some comparison.outcome then
      row.evaluationOutcome else some comparison.outcome }

def write (state : EvaluationState) (n : ℕ) : EvaluationState :=
  match state.recorders n with
  | some ⟨_, adaptationId, comparison, .loaded row⟩ =>
    { state with
      table := state.table.update adaptationId (rewritten row comparison)
      recorders := Function.update state.recorders n none
      recorded := state.recorded ++ [(adaptationId, comparison)] }
  | _ => state

def activate (state : EvaluationState) (openTenant : Uuid → Bool) (now : Instant)
    (tenantId adaptationId userId : Uuid) : EvaluationState :=
  match activateAdaptationInSession ⟨state.log, openTenant, now⟩ tenantId adaptationId userId
      state.table with
  | .ok table => { state with table := table }
  | .error _ => state

/-- The state after an event. -/
def step (admits : AuditEntry → Bool) (state : EvaluationState) : EvaluationEvent → EvaluationState
  | .runEvaluation baseline candidate thresholds policy actorUserId correlationId decisionId =>
    let call : IssuingCall := .runEvaluation baseline candidate thresholds policy actorUserId
      correlationId decisionId
    { state with log := issue admits state.log call }
  | .verify n tenantId adaptationId comparison => state.verify n tenantId adaptationId comparison
  | .load n openTenant => state.load n openTenant
  | .write n => state.write n
  | .activate openTenant now tenantId adaptationId userId =>
    state.activate openTenant now tenantId adaptationId userId
  | .startCanary granted openTenant now tenantId adaptationId userId =>
    if granted then state.activate openTenant now tenantId adaptationId userId else state

/-- Before the run: distinct candidates without an outcome, and no recorder. -/
structure Initial (state : EvaluationState) : Prop where
  keys : state.table.KeysUnique
  candidates : ∀ row ∈ state.table, row.status = .candidate ∧ row.evaluationOutcome = none ∧
    row.evaluationComparisonId = none
  noRecorder : ∀ n, state.recorders n = none

/-- The row has the outcome `pass`, recorded from a comparison of its own version. -/
def PassedOwn (state : EvaluationState) (row : Adaptation) : Prop :=
  row.evaluationOutcome = some .pass ∧ ∃ comparison, (row.id, comparison) ∈ state.recorded ∧
    row.evaluationComparisonId = some comparison.decisionId ∧ comparison.outcome = .pass ∧
    comparison.candidateVersion = toString row.version

def ActivePassed (state : EvaluationState) : Prop :=
  ∀ row ∈ state.table, row.status = .active → state.PassedOwn row

/-- A recorder's write finds the status that it read, finds no other outcome, and records a pass of
the row's own version only. -/
def WritesOwn (state : EvaluationState) (event : EvaluationEvent) : Prop :=
  match event with
  | .write n => ∀ recorder ∈ state.recorders n, ∀ loaded, recorder.phase = .loaded loaded →
    ∀ row ∈ state.table, row.id = recorder.adaptationId → row.status = loaded.status ∧
      (∀ outcome, row.evaluationOutcome = some outcome → outcome = recorder.comparison.outcome) ∧
      (recorder.comparison.outcome = .pass →
        recorder.comparison.candidateVersion = toString row.version)
  | _ => True

end EvaluationState

/-- What evaluations promise about a run. -/
structure EvaluationsHold (admits : AuditEntry → Bool) (state : EvaluationState)
    (events : List EvaluationEvent) : Prop where
  /-- Every active version passed its own evaluation. -/
  activePassed : Run.Always (EvaluationState.step admits) EvaluationState.ActivePassed state events
  /-- An outcome that is recorded never changes. -/
  outcomeFixed : ∀ before event after, events = before ++ event :: after →
    ∀ row ∈ (Run.run (EvaluationState.step admits) state before).table,
    ∀ row' ∈ (Run.run (EvaluationState.step admits) state (before ++ [event])).table,
      row'.id = row.id → ∀ outcome, row.evaluationOutcome = some outcome →
        row'.evaluationOutcome = some outcome
  /-- An outcome is written to candidates only. -/
  candidatesOnly : ∀ before n after, events = before ++ .write n :: after →
    ∀ recorder ∈ (Run.run (EvaluationState.step admits) state before).recorders n,
    ∀ loaded, recorder.phase = .loaded loaded →
    ∀ row ∈ (Run.run (EvaluationState.step admits) state before).table,
      row.id = recorder.adaptationId → row.status = .candidate

/-! ## What an activation keeps -/

def Adaptation.SameEvaluation (row row' : Adaptation) : Prop :=
  row'.id = row.id ∧ row'.version = row.version ∧
    row'.evaluationOutcome = row.evaluationOutcome ∧
    row'.evaluationComparisonId = row.evaluationComparisonId

lemma exists_before_activation {env : Surroundings} {tenantId adaptationId userId : Uuid}
    {table table' : AdaptationTable} (hkeys : table.KeysUnique)
    (h : activateAdaptationInSession env tenantId adaptationId userId table = .ok table') :
    ∃ activated ∈ table, activated.evaluationOutcome = some .pass ∧
      ∀ row' ∈ table', ∃ row ∈ table, row.SameEvaluation row' ∧
        (row'.status = row.status ∨ row.id = activated.id ∨ row.status = .active) := by
  unfold activateAdaptationInSession at h
  obtain ⟨activated, hcheck, h⟩ := bind_eq_ok.mp h
  obtain ⟨found, hfound, h⟩ := bind_eq_ok.mp h
  obtain ⟨_, -, h⟩ := bind_eq_ok.mp h
  obtain rfl := Except.ok.inj h
  obtain ⟨hget, -, hpass⟩ := checkActivation_ok hcheck
  obtain ⟨hmem, hid, -⟩ := get_eq_ok hget
  have hrows := currentActive_eq_ok hfound
  have hsuperseded : ∀ row' ∈ table.supersede found, ∃ row ∈ table, row.SameEvaluation row' ∧
      (row'.status = row.status ∨ row.status = .active) := by
    intro row' hrow'
    cases found with
    | none => exact ⟨row', hrow', ⟨rfl, rfl, rfl, rfl⟩, Or.inl rfl⟩
    | some current =>
      have hcurrent := mem_activeRows.mp (hrows ▸ List.mem_singleton_self current :
        current ∈ table.activeRows activated.lineage)
      obtain ⟨row, hrow, rfl⟩ := List.mem_map.mp hrow'
      refine ⟨row, hrow, ?_⟩
      split
      · next hrowId =>
        obtain rfl := hkeys.eq_of_key_eq hrow hcurrent.1 hrowId
        exact ⟨⟨rfl, rfl, rfl, rfl⟩, Or.inr hcurrent.2.2⟩
      · exact ⟨⟨rfl, rfl, rfl, rfl⟩, Or.inl rfl⟩
  refine ⟨activated, hmem, hpass, fun row' hrow' => ?_⟩
  obtain ⟨middle, hmiddle, rfl⟩ := List.mem_map.mp hrow'
  obtain ⟨row, hrow, hsame, hstatus⟩ := hsuperseded middle hmiddle
  refine ⟨row, hrow, ?_⟩
  split
  · next hmiddleId =>
    exact ⟨hsame, Or.inr (Or.inl (hsame.1.symm.trans (hmiddleId.trans hid.symm)))⟩
  · rcases hstatus with hstatus | hstatus
    · exact ⟨hsame, Or.inl hstatus⟩
    · exact ⟨hsame, Or.inr (Or.inr hstatus)⟩

namespace EvaluationState

/-! ## The invariant -/

/-- What a recorder has read: a candidate whose recorded outcome still stands. -/
structure RecorderSound (state : EvaluationState) (recorder : Recorder) (loaded : Adaptation) :
    Prop where
  id : loaded.id = recorder.adaptationId
  candidate : loaded.status = .candidate
  /-- A comparison is recorded together with its outcome. -/
  together : loaded.evaluationComparisonId ≠ none → loaded.evaluationOutcome ≠ none
  /-- An outcome that was read is still there. -/
  stands : ∀ row ∈ state.table, row.id = loaded.id → ∀ outcome,
    loaded.evaluationOutcome = some outcome → row.evaluationOutcome = some outcome

/-- What every state of a run satisfies whose writes meet the condition. -/
structure Sound (state : EvaluationState) : Prop where
  keys : state.table.KeysUnique
  /-- A version beyond candidacy has passed. -/
  passed : ∀ row ∈ state.table, row.status ≠ .candidate → row.evaluationOutcome = some .pass
  /-- A pass was recorded from a comparison of the own version. -/
  own : ∀ row ∈ state.table, row.evaluationOutcome = some .pass → state.PassedOwn row
  together : ∀ row ∈ state.table, row.evaluationComparisonId ≠ none → row.evaluationOutcome ≠ none
  recorders : ∀ n recorder, state.recorders n = some recorder → ∀ loaded,
    recorder.phase = .loaded loaded → state.RecorderSound recorder loaded

variable {state : EvaluationState}

lemma Initial.sound (h : state.Initial) : state.Sound where
  keys := h.keys
  passed row hrow hstatus := absurd (h.candidates row hrow).1 hstatus
  own row hrow hpass := by
    rw [(h.candidates row hrow).2.1] at hpass
    cases hpass
  together row hrow hsome := absurd (h.candidates row hrow).2.2 hsome
  recorders n recorder hn := by
    rw [h.noRecorder n] at hn
    cases hn

lemma Sound.sameEvaluation (h : state.Sound) {table : AdaptationTable} (hkeys : table.KeysUnique)
    (hpassed : ∀ row ∈ table, row.status ≠ .candidate → row.evaluationOutcome = some .pass)
    (hrows : ∀ row' ∈ table, ∃ row ∈ state.table, row.SameEvaluation row') :
    Sound { state with table := table } where
  keys := hkeys
  passed := hpassed
  own row' hrow' hpass := by
    obtain ⟨row, hrow, hid, hversion, houtcome, hcomparison⟩ := hrows row' hrow'
    obtain ⟨-, comparison, hmem, hrecorded, hown⟩ := h.own row hrow (houtcome.symm.trans hpass)
    refine ⟨hpass, comparison, ?_, hcomparison.trans hrecorded, ?_⟩
    · rw [hid]
      exact hmem
    · rw [hversion]
      exact hown
  together row' hrow' hsome := by
    obtain ⟨row, hrow, -, -, houtcome, hcomparison⟩ := hrows row' hrow'
    rw [houtcome]
    rw [hcomparison] at hsome
    exact h.together row hrow hsome
  recorders n recorder hn loaded hloaded := by
    obtain ⟨hid, hcandidate, htogether, hstands⟩ := h.recorders n recorder hn loaded hloaded
    refine ⟨hid, hcandidate, htogether, fun row' hrow' hrowId outcome houtcome => ?_⟩
    obtain ⟨row, hrow, hsameId, -, hsame, -⟩ := hrows row' hrow'
    exact hsame.trans (hstands row hrow (hsameId.symm.trans hrowId) outcome houtcome)

lemma Sound.activate {state : EvaluationState} (h : state.Sound) (openTenant : Uuid → Bool)
    (now : Instant) (tenantId adaptationId userId : Uuid) :
    (state.activate openTenant now tenantId adaptationId userId).Sound := by
  unfold EvaluationState.activate
  split
  · next table hactivated =>
    obtain ⟨activated, hmem, hpass, hrows⟩ := exists_before_activation h.keys hactivated
    obtain ⟨_, _, hrewritten⟩ := activateAdaptationInSession_ok h.keys hactivated
    refine h.sameEvaluation (hrewritten.keysUnique h.keys) (fun row' hrow' hstatus => ?_)
      fun row' hrow' => ?_
    · obtain ⟨row, hrow, hsame, hkept | hself | hactive⟩ := hrows row' hrow'
      · rw [hkept] at hstatus
        exact hsame.2.2.1.trans (h.passed row hrow hstatus)
      · obtain rfl := h.keys.eq_of_key_eq hrow hmem hself
        exact hsame.2.2.1.trans hpass
      · refine hsame.2.2.1.trans (h.passed row hrow ?_)
        rw [hactive]
        exact fun heq => by cases heq
    · obtain ⟨row, hrow, hsame, -⟩ := hrows row' hrow'
      exact ⟨row, hrow, hsame⟩
  · exact h

lemma Sound.setRecorder {state : EvaluationState} (h : state.Sound) {n : ℕ}
    {recorder : Option Recorder} (hrecorder : ∀ call ∈ recorder, ∀ loaded,
      call.phase = .loaded loaded → state.RecorderSound call loaded) :
    (state.setRecorder n recorder).Sound where
  keys := h.keys
  passed := h.passed
  own := h.own
  together := h.together
  recorders m call hm loaded hloaded := by
    dsimp only [EvaluationState.setRecorder] at hm
    by_cases hmn : m = n
    · subst hmn
      rw [Function.update_self] at hm
      obtain ⟨hid, hcandidate, htogether, hstands⟩ := hrecorder call hm loaded hloaded
      exact ⟨hid, hcandidate, htogether, hstands⟩
    · rw [Function.update_of_ne hmn] at hm
      obtain ⟨hid, hcandidate, htogether, hstands⟩ := h.recorders m call hm loaded hloaded
      exact ⟨hid, hcandidate, htogether, hstands⟩

variable {row : Adaptation}

lemma loadCandidate_ok {openTenant : Uuid → Bool} {recorder : Recorder}
    (h : state.loadCandidate openTenant recorder = .ok row) :
    row ∈ state.table ∧ row.id = recorder.adaptationId ∧ row.status = .candidate := by
  unfold loadCandidate at h
  obtain ⟨found, hfound, h⟩ := bind_eq_ok.mp h
  obtain ⟨_, -, h⟩ := bind_eq_ok.mp h
  obtain ⟨_, hcandidate, h⟩ := bind_eq_ok.mp h
  obtain rfl := Except.ok.inj h
  obtain ⟨hmem, hid, -⟩ := get_eq_ok hfound
  exact ⟨hmem, hid, requiring_eq_ok.mp hcandidate⟩

lemma Sound.load {state : EvaluationState} (h : state.Sound) (n : ℕ) (openTenant : Uuid → Bool) :
    (state.load n openTenant).Sound := by
  unfold EvaluationState.load
  split
  · next tenantId adaptationId comparison hn =>
    split
    · next row hload =>
      obtain ⟨hmem, hid, hcandidate⟩ := loadCandidate_ok hload
      refine h.setRecorder ?_
      rintro call hcall loaded hloaded
      obtain rfl := Option.some.inj hcall
      obtain rfl := RecorderPhase.loaded.inj hloaded
      refine ⟨hid, hcandidate, h.together row hmem, fun other hother hotherId outcome houtcome => ?_⟩
      obtain rfl := h.keys.eq_of_key_eq hother hmem hotherId
      exact houtcome
    · exact h.setRecorder fun call hcall => by cases hcall
  · exact h

lemma RecorderSound.rewritten {state : EvaluationState} {n : ℕ} {tenantId adaptationId : Uuid}
    {comparison : EvaluationComparison} {loaded row : Adaptation}
    (h : state.RecorderSound ⟨tenantId, adaptationId, comparison, .loaded loaded⟩ loaded)
    (hn : state.recorders n = some ⟨tenantId, adaptationId, comparison, .loaded loaded⟩)
    (hown : state.WritesOwn (.write n)) (hrow : row ∈ state.table) (hid : row.id = adaptationId) :
    row.status = .candidate ∧
      (rewritten loaded comparison row).evaluationOutcome = some comparison.outcome ∧
      (∀ outcome, row.evaluationOutcome = some outcome → outcome = comparison.outcome) ∧
      (comparison.outcome = .pass → comparison.candidateVersion = toString row.version) := by
  obtain ⟨hstatus, hsame, hversion⟩ := hown _ hn loaded rfl row hrow hid
  refine ⟨hstatus.trans h.candidate, ?_, hsame, hversion⟩
  dsimp only [EvaluationState.rewritten]
  split
  · next houtcome => exact h.stands row hrow (hid.trans h.id.symm) _ houtcome
  · rfl

lemma Sound.write {state : EvaluationState} (h : state.Sound) {n : ℕ}
    (hown : state.WritesOwn (.write n)) : (state.write n).Sound := by
  unfold EvaluationState.write
  split
  · next tenantId adaptationId comparison loaded hn =>
    have hrecorder := h.recorders n _ hn loaded rfl
    have hwritten := fun {row : Adaptation} (hrow : row ∈ state.table) =>
      hrecorder.rewritten hn hown hrow
    refine ⟨Rows.UniqueOn.update h.keys fun _ => rfl, ?_, ?_, ?_, ?_⟩
    · intro row' hrow' hstatus
      obtain ⟨row, hrow, rfl⟩ := List.mem_map.mp hrow'
      split at hstatus
      · next hid => exact absurd (hwritten hrow hid).1 hstatus
      · next hid =>
        rw [if_neg hid]
        exact h.passed row hrow hstatus
    · intro row' hrow' hpass
      refine ⟨hpass, ?_⟩
      obtain ⟨row, hrow, rfl⟩ := List.mem_map.mp hrow'
      by_cases hid : row.id = adaptationId
      · rw [if_pos hid] at hpass ⊢
        obtain ⟨-, houtcome, hsame, hversion⟩ := hwritten hrow hid
        have hcomparison : comparison.outcome = .pass := Option.some.inj (houtcome.symm.trans hpass)
        by_cases hrecorded : loaded.evaluationComparisonId = some comparison.decisionId
        · -- The same comparison was recorded before, so the row has its pass from before.
          obtain ⟨outcome, hloaded⟩ := Option.ne_none_iff_exists'.mp (hrecorder.together (by
            rw [hrecorded]
            exact Option.some_ne_none _))
          have hbefore := hrecorder.stands row hrow (hid.trans hrecorder.id.symm) outcome hloaded
          rw [hsame outcome hbefore, hcomparison] at hbefore
          obtain ⟨-, first, hmem, hfirst⟩ := h.own row hrow hbefore
          refine ⟨first, List.mem_append_left _ hmem, ?_⟩
          dsimp only [EvaluationState.rewritten]
          rw [if_pos hrecorded]
          exact hfirst
        · refine ⟨comparison, ?_, if_neg hrecorded, hcomparison, hversion hcomparison⟩
          rw [show (rewritten loaded comparison row).id = adaptationId from hid]
          exact List.mem_append_right _ List.mem_cons_self
      · rw [if_neg hid] at hpass ⊢
        obtain ⟨-, first, hmem, hfirst⟩ := h.own row hrow hpass
        exact ⟨first, List.mem_append_left _ hmem, hfirst⟩
    · intro row' hrow' hsome
      obtain ⟨row, hrow, rfl⟩ := List.mem_map.mp hrow'
      by_cases hid : row.id = adaptationId
      · rw [if_pos hid, (hwritten hrow hid).2.1]
        exact Option.some_ne_none _
      · rw [if_neg hid] at hsome ⊢
        exact h.together row hrow hsome
    · intro m recorder hm other hother
      dsimp only at hm
      have hmn : m ≠ n := by
        rintro rfl
        rw [Function.update_self] at hm
        cases hm
      rw [Function.update_of_ne hmn] at hm
      obtain ⟨hid, hcandidate, htogether, hstands⟩ := h.recorders m recorder hm other hother
      refine ⟨hid, hcandidate, htogether, fun row' hrow' hrowId outcome houtcome => ?_⟩
      obtain ⟨row, hrow, rfl⟩ := List.mem_map.mp hrow'
      by_cases hself : row.id = adaptationId
      · rw [if_pos hself] at hrowId ⊢
        obtain ⟨-, hout, hsame, -⟩ := hwritten hrow hself
        rw [hsame outcome (hstands row hrow hrowId outcome houtcome)]
        exact hout
      · rw [if_neg hself] at hrowId ⊢
        exact hstands row hrow hrowId outcome houtcome
  · exact h

variable {admits : AuditEntry → Bool}

lemma Sound.step {state : EvaluationState} {event : EvaluationEvent} (h : state.Sound)
    (hown : state.WritesOwn event) : (step admits state event).Sound := by
  cases event with
  | runEvaluation baseline candidate thresholds policy actorUserId correlationId decisionId =>
    exact ⟨h.keys, h.passed, h.own, h.together, fun n recorder hn loaded hloaded =>
      let hsound := h.recorders n recorder hn loaded hloaded
      ⟨hsound.id, hsound.candidate, hsound.together, hsound.stands⟩⟩
  | verify n tenantId adaptationId comparison =>
    show (state.verify n tenantId adaptationId comparison).Sound
    unfold EvaluationState.verify
    split
    · refine h.setRecorder fun call hcall loaded hloaded => ?_
      obtain rfl := Option.some.inj hcall
      cases hloaded
    · exact h.setRecorder fun call hcall => by cases hcall
  | load n openTenant => exact h.load n openTenant
  | write n => exact h.write hown
  | activate openTenant now tenantId adaptationId userId =>
    exact h.activate openTenant now tenantId adaptationId userId
  | startCanary granted openTenant now tenantId adaptationId userId =>
    cases granted with
    | false => exact h
    | true => exact h.activate openTenant now tenantId adaptationId userId

variable {row' : Adaptation}

lemma outcome_activate (h : state.Sound) (openTenant : Uuid → Bool) (now : Instant)
    (tenantId adaptationId userId : Uuid) (hrow : row ∈ state.table)
    (hrow' : row' ∈ (state.activate openTenant now tenantId adaptationId userId).table)
    (hid : row'.id = row.id) : row'.evaluationOutcome = row.evaluationOutcome := by
  unfold EvaluationState.activate at hrow'
  split at hrow'
  · next table hactivated =>
    obtain ⟨_, -, -, hrows⟩ := exists_before_activation h.keys hactivated
    obtain ⟨before, hbefore, hsame, -⟩ := hrows row' hrow'
    obtain rfl := h.keys.eq_of_key_eq hbefore hrow (hsame.1.symm.trans hid)
    exact hsame.2.2.1
  · rw [h.keys.eq_of_key_eq hrow' hrow hid]

lemma outcome_step {event : EvaluationEvent} (h : state.Sound) (hown : state.WritesOwn event)
    (hrow : row ∈ state.table) (hrow' : row' ∈ (step admits state event).table)
    (hid : row'.id = row.id)
    {outcome : EvaluationOutcome} (houtcome : row.evaluationOutcome = some outcome) :
    row'.evaluationOutcome = some outcome := by
  have hsame : row' ∈ state.table → row'.evaluationOutcome = some outcome := by
    intro hmem
    rw [h.keys.eq_of_key_eq hmem hrow hid]
    exact houtcome
  cases event with
  | runEvaluation => exact hsame hrow'
  | verify n tenantId adaptationId comparison =>
    refine hsame ?_
    dsimp only [step, EvaluationState.verify] at hrow'
    split at hrow' <;> exact hrow'
  | load n openTenant =>
    refine hsame ?_
    dsimp only [step, EvaluationState.load] at hrow'
    split at hrow'
    · split at hrow' <;> exact hrow'
    · exact hrow'
  | write n =>
    dsimp only [step, EvaluationState.write] at hrow'
    split at hrow'
    · next tenantId adaptationId comparison loaded hn =>
      obtain ⟨before, hbefore, rfl⟩ := List.mem_map.mp hrow'
      by_cases hself : before.id = adaptationId
      · rw [if_pos hself] at hid ⊢
        obtain rfl := h.keys.eq_of_key_eq hbefore hrow hid
        obtain ⟨-, hwritten, hfixed, -⟩ :=
          (h.recorders n _ hn loaded rfl).rewritten hn hown hbefore hself
        rw [hfixed outcome houtcome]
        exact hwritten
      · rw [if_neg hself] at hid ⊢
        rw [h.keys.eq_of_key_eq hbefore hrow hid]
        exact houtcome
    · exact hsame hrow'
  | activate openTenant now tenantId adaptationId userId =>
    rw [outcome_activate h openTenant now tenantId adaptationId userId hrow hrow' hid]
    exact houtcome
  | startCanary granted openTenant now tenantId adaptationId userId =>
    cases granted with
    | false => exact hsame hrow'
    | true =>
      rw [outcome_activate h openTenant now tenantId adaptationId userId hrow hrow' hid]
      exact houtcome

end EvaluationState

open EvaluationState in
/-- **Only versions that passed their own evaluation become active**, in every run in which each
recorder's write meets the condition. -/
theorem run_evaluated {admits : AuditEntry → Bool} {state : EvaluationState}
    {events : List EvaluationEvent} (hstart : state.Initial)
    (h : Run.Along (EvaluationState.step admits) WritesOwn state events) :
    EvaluationsHold admits state events where
  activePassed := by
    rintro before after rfl
    have hsound := Run.run_of_along (fun _ _ h hown => Sound.step h hown) hstart.sound
      (Run.along_append.mp h).1
    intro row hrow hactive
    refine hsound.own row hrow (hsound.passed row hrow ?_)
    rw [hactive]
    exact fun heq => by cases heq
  outcomeFixed := by
    rintro before event after rfl row hrow row' hrow' hid outcome houtcome
    obtain ⟨hbefore, hevent, -⟩ := Run.along_append.mp h
    have hsound := Run.run_of_along (fun _ _ h hown => Sound.step h hown) hstart.sound hbefore
    rw [Run.run_append, Run.run_cons, Run.run_nil] at hrow'
    exact outcome_step hsound hevent hrow hrow' hid houtcome
  candidatesOnly := by
    rintro before n after rfl recorder hn loaded hloaded row hrow hid
    obtain ⟨hbefore, hevent, -⟩ := Run.along_append.mp h
    have hsound := Run.run_of_along (fun _ _ h hown => Sound.step h hown) hstart.sound hbefore
    exact (hevent recorder hn loaded hloaded row hrow hid).1.trans
      (hsound.recorders n recorder hn loaded hloaded).candidate

/-! ## Three runs -/

namespace EvaluationState

instance (state : EvaluationState) (row : Adaptation) : Decidable (state.PassedOwn row) :=
  decidable_of_iff (row.evaluationOutcome = some .pass ∧ ∃ entry ∈ state.recorded,
    entry.1 = row.id ∧ row.evaluationComparisonId = some entry.2.decisionId ∧
      entry.2.outcome = .pass ∧ entry.2.candidateVersion = toString row.version) <| by
    refine and_congr_right fun _ => ?_
    constructor
    · rintro ⟨⟨id, comparison⟩, hmem, rfl, hrest⟩
      exact ⟨comparison, hmem, hrest⟩
    · rintro ⟨comparison, hmem, hrest⟩
      exact ⟨(row.id, comparison), hmem, rfl, hrest⟩

instance (state : EvaluationState) : Decidable state.ActivePassed :=
  inferInstanceAs (Decidable (∀ row ∈ state.table, _ → _))

instance (state : EvaluationState) (event : EvaluationEvent) :
    Decidable (state.WritesOwn event) :=
  match event with
  | .runEvaluation .. => isTrue trivial
  | .verify .. => isTrue trivial
  | .load .. => isTrue trivial
  | .activate .. => isTrue trivial
  | .startCanary .. => isTrue trivial
  | .write n =>
    match hn : state.recorders n with
    | none => isTrue fun recorder hrecorder => by cases hn.symm.trans hrecorder
    | some ⟨tenantId, adaptationId, comparison, .verified⟩ =>
      isTrue fun recorder hrecorder loaded hloaded => by
        obtain rfl := Option.some.inj (hn.symm.trans hrecorder)
        cases hloaded
    | some ⟨tenantId, adaptationId, comparison, .loaded loaded⟩ =>
      decidable_of_iff (∀ row ∈ state.table, row.id = adaptationId → row.status = loaded.status ∧
        (∀ outcome ∈ row.evaluationOutcome, outcome = comparison.outcome) ∧
        (comparison.outcome = .pass → comparison.candidateVersion = toString row.version)) <| by
        constructor
        · intro h recorder hrecorder other hother row hrow hid
          obtain rfl := Option.some.inj (hn.symm.trans hrecorder)
          obtain rfl := RecorderPhase.loaded.inj hother
          exact h row hrow hid
        · intro h row hrow hid
          exact h _ hn loaded rfl row hrow hid

end EvaluationState

def toneCandidate (id : Uuid) (version : ℕ) : Adaptation where
  id := id
  lineage := tonePrompt
  version := version
  status := .candidate
  scope := .tenant
  proposedValue := "be brief"
  previousAdaptationId := none
  learningPurpose := "summaries"
  evidenceType := "user_feedback"
  evidenceSourceReference := "ticket 7"
  learningAuthorizationDecisionId := 11
  evaluationComparisonId := none
  evaluationOutcome := none
  createdByUserId := 5
  activatedByUserId := none
  rolledBackByUserId := none
  activatedAt := none
  rolledBackAt := none

/-- Versions 2 and 3 are candidates; the log holds the learning authorization with id 11 and an
evaluation with id 13 that failed. -/
def twoCandidates : EvaluationState where
  table := [toneCandidate 102 2, toneCandidate 103 3]
  log := [⟨1, 5, "learning.data_access_approved", "learning_authorization", 11, .success, none, []⟩,
    ⟨1, 5, "learning.evaluation_run", "learning_evaluation", 13, .failure, none, []⟩]
  recorders := fun _ => none
  recorded := []

lemma twoCandidates_initial : twoCandidates.Initial :=
  ⟨by unfold AdaptationTable.KeysUnique; decide +kernel, by decide +kernel, fun _ => rfl⟩

/-- Version 2 passes its evaluation, and the pass is recorded for the version with this id, which is
then activated. -/
def passRecordedFor (id : Uuid) : List EvaluationEvent :=
  [.runEvaluation (measuredVersion "1") (measuredVersion "2") [] none 5 none 12,
    .verify 0 1 id secondVersionPassed, .load 0 audited.openTenant, .write 0,
    .activate audited.openTenant 0 1 id 5]

def secondVersionFailed : EvaluationComparison :=
  ⟨.fail, "1", "2", none, none, ["error_rate"], [], 13⟩

/-- A second recorder reads the candidate before the first one has written, and writes after the
activation. -/
def overtakenRecorder : List EvaluationEvent :=
  [.runEvaluation (measuredVersion "1") (measuredVersion "2") [] none 5 none 12,
    .verify 0 1 102 secondVersionPassed, .verify 1 1 102 secondVersionFailed,
    .load 0 audited.openTenant, .load 1 audited.openTenant, .write 0,
    .activate audited.openTenant 0 1 102 5, .write 1]

open EvaluationState in
/-- Version 2 becomes active with its own pass. -/
theorem run_evaluated_secondVersion :
    EvaluationsHold (fun _ => true) twoCandidates (passRecordedFor 102) ∧
      ∃ row ∈ (Run.run (step fun _ => true) twoCandidates (passRecordedFor 102)).table,
        row.id = 102 ∧ row.status = .active :=
  ⟨run_evaluated twoCandidates_initial (by decide +kernel), by decide +kernel⟩

open EvaluationState in
/-- The pass of version 2 activates version 3; and a failure overwrites the pass of an active
version. -/
theorem evaluated_broken :
    ¬ EvaluationsHold (fun _ => true) twoCandidates (passRecordedFor 103) ∧
      ¬ EvaluationsHold (fun _ => true) twoCandidates overtakenRecorder := by
  constructor
  · intro h
    have hactive := h.activePassed (passRecordedFor 103) [] (List.append_nil _).symm
    revert hactive
    decide +kernel
  · intro h
    have hactive := h.activePassed overtakenRecorder [] (List.append_nil _).symm
    revert hactive
    decide +kernel

end SaasOs.SelfLearning
