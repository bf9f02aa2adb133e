import SaasOs.Approvals.Requests
import SaasOs.Foundation.StatusWrites

/-!
# The approval workflow

Approving and rejecting check that the request is pending in one transaction and write the decision
in another, where the row is loaded without a lock and without a check.  An execution claims the
request by an `UPDATE` that only an approved row matches, runs the tool, and then writes `executed`,
or `approved` again when the tool raised.
-/

namespace SaasOs.Approvals

open StatusWrite

/-! ## The system -/

inductive DecisionOutcome
  | approved | rejected
  deriving DecidableEq

def DecisionOutcome.status : DecisionOutcome → ApprovalStatus
  | approved => .approved
  | rejected => .rejected

inductive ToolOutcome
  | succeeds
  | raisesBeforeEffect
  | raisesAfterEffect
  | cancelled (effect : Bool)
  deriving DecidableEq

def ToolOutcome.hasEffect : ToolOutcome → Bool
  | succeeds => true
  | raisesBeforeEffect => false
  | raisesAfterEffect => true
  | cancelled effect => effect

inductive ApprovalPhase
  /-- A decision whose first read found the request pending. -/
  | checked (outcome : DecisionOutcome) (userId : Uuid)
  /-- A decision that loaded the row in the transaction that writes. -/
  | loaded (outcome : DecisionOutcome) (userId : Uuid) (row : ApprovalRequest)
  /-- An execution that won the claim. -/
  | claimed
  /-- An execution whose tool raised. -/
  | raised
  /-- It found the request executing and is to restore `approved`. -/
  | restoring
  /-- An execution whose tool succeeded. -/
  | succeeded
  /-- It loaded the row and is to write `executed`. -/
  | finishing (loaded : ApprovalStatus)
  deriving DecidableEq

def ApprovalPhase.IsExecution : ApprovalPhase → Prop
  | checked _ _ => False
  | loaded _ _ _ => False
  | claimed => True
  | raised => True
  | restoring => True
  | succeeded => True
  | finishing _ => True

instance : DecidablePred ApprovalPhase.IsExecution := fun phase => by
  cases phase <;> unfold ApprovalPhase.IsExecution <;> infer_instance

/-- The committed request and the calls under way; how often the tool's effect took place, and the
approvers whose approval was committed. -/
structure WorkflowState where
  request : ApprovalRequest
  calls : ℕ → Option ApprovalPhase
  effects : ℕ
  approvals : List Uuid

/-- What happens.  `isOpen` is the answer of `lock_open_tenant`. -/
inductive WorkflowEvent
  | decide (n : ℕ) (outcome : DecisionOutcome) (userId : Uuid)
  | load (n : ℕ)
  | write (n : ℕ) (isOpen : Bool) (now : Instant)
  | claim (n : ℕ) (isOpen : Bool)
  | runTool (n : ℕ) (outcome : ToolOutcome)
  | reload (n : ℕ)
  | settle (n : ℕ)

/-- The row after the `UPDATE` of a decision that loaded a row. -/
def ApprovalRequest.decided (row : ApprovalRequest) (outcome : DecisionOutcome) (userId : Uuid)
    (now : Instant) (loaded : ApprovalRequest) : ApprovalRequest :=
  { row with
    status := writeStatus loaded.status outcome.status row.status
    approverUserId := writeStatus loaded.approverUserId (some userId) row.approverUserId
    decidedAt := some now }

namespace WorkflowState

/-- The state with another call at `n`. -/
def setCall (state : WorkflowState) (n : ℕ) (phase : Option ApprovalPhase) : WorkflowState :=
  { state with calls := Function.update state.calls n phase }

def setStatus (state : WorkflowState) (status : ApprovalStatus) : WorkflowState :=
  { state with request := { state.request with status := status } }

/-- The first read of `approve` and `reject`; only `approve` refuses the proposer here. -/
def decide (state : WorkflowState) (n : ℕ) (outcome : DecisionOutcome) (userId : Uuid) :
    WorkflowState :=
  if state.calls n = none ∧ state.request.status = .pending ∧
      (outcome = .approved → userId ≠ state.request.proposerUserId) then
    state.setCall n (some (.checked outcome userId))
  else state

def write (state : WorkflowState) (n : ℕ) (isOpen : Bool) (now : Instant) : WorkflowState :=
  match state.calls n with
  | some (.loaded outcome userId row) =>
    let request := state.request.decided outcome userId now row
    if isOpen = true ∧ request.NoSelfApproval then
      { state with
        request := request
        calls := Function.update state.calls n none
        approvals := if outcome = .approved then userId :: state.approvals else state.approvals }
    else state.setCall n none
  | _ => state

def runTool (state : WorkflowState) (n : ℕ) (outcome : ToolOutcome) : WorkflowState :=
  match state.calls n with
  | some .claimed =>
    let ran := { state with effects := state.effects + if outcome.hasEffect then 1 else 0 }
    match outcome with
    | .succeeds => ran.setCall n (some .succeeded)
    | .raisesBeforeEffect => ran.setCall n (some .raised)
    | .raisesAfterEffect => ran.setCall n (some .raised)
    | .cancelled _ => ran.setCall n none
  | _ => state

def step (state : WorkflowState) : WorkflowEvent → WorkflowState
  | .decide n outcome userId => state.decide n outcome userId
  | .load n =>
    match state.calls n with
    | some (.checked outcome userId) =>
      state.setCall n (some (.loaded outcome userId state.request))
    | _ => state
  | .write n isOpen now => state.write n isOpen now
  | .claim n isOpen =>
    if isOpen = true ∧ state.calls n = none ∧ state.request.status = .approved then
      (state.setStatus .executing).setCall n (some .claimed)
    else state
  | .runTool n outcome => state.runTool n outcome
  | .reload n =>
    match state.calls n with
    | some .raised =>
      if state.request.status = .executing then state.setCall n (some .restoring)
      else state.setCall n none
    | some .succeeded => state.setCall n (some (.finishing state.request.status))
    | _ => state
  | .settle n =>
    match state.calls n with
    | some .restoring => (state.setStatus .approved).setCall n none
    | some (.finishing loaded) =>
      (state.setStatus (writeStatus loaded .executed state.request.status)).setCall n none
    | _ => state

/-- A proposed request: pending, undecided, nothing under way. -/
structure Initial (state : WorkflowState) : Prop where
  pending : state.request.status = .pending
  undecided : state.request.approverUserId = none
  noCalls : ∀ n, state.calls n = none
  noEffects : state.effects = 0
  noApprovals : state.approvals = []

def decision (state : WorkflowState) : Option (Uuid × Bool) :=
  if state.request.status = .pending then none
  else state.request.approverUserId.map fun userId =>
    (userId, Decidable.decide (state.request.status = .rejected))

def Executing (state : WorkflowState) : Prop :=
  ∃ n, ∃ phase ∈ state.calls n, phase.IsExecution

/-- A decision that is written finds the request pending, or sends neither a new status nor a new
approver; the proposer's own is refused by the table.  No tool run raises after its effect or is
cancelled. -/
def Orderly (state : WorkflowState) (event : WorkflowEvent) : Prop :=
  match event with
  | .write n isOpen _ => ∀ outcome userId row, state.calls n = some (.loaded outcome userId row) →
    isOpen = true → userId ≠ state.request.proposerUserId → state.request.status = .pending ∨
      (row.status = outcome.status ∨ state.request.status = outcome.status) ∧
      (row.approverUserId = some userId ∨ state.request.approverUserId = some userId)
  | .runTool n outcome => state.calls n = some .claimed →
    outcome = .succeeds ∨ outcome = .raisesBeforeEffect
  | _ => True

end WorkflowState

def DecisionKept (decision decision' : Option (Uuid × Bool)) : Prop :=
  ∀ recorded, decision = some recorded → decision' = some recorded

/-- What the workflow promises about a run. -/
structure WorkflowSound (state : WorkflowState) (events : List WorkflowEvent) : Prop where
  /-- After a rejection the tool is not run. -/
  rejectedNeverRuns : ∀ before middle n outcome after,
    events = before ++ middle ++ .runTool n outcome :: after →
    (Run.run WorkflowState.step state before).request.status = .rejected →
    (Run.run WorkflowState.step state (before ++ middle)).calls n ≠ some .claimed
  /-- The effect takes place at most once. -/
  effectOnce : Run.Always WorkflowState.step (fun state => state.effects ≤ 1) state events
  /-- A recorded decision never changes. -/
  decisionKept : Run.Moves WorkflowState.step WorkflowState.decision DecisionKept state events
  /-- The tool runs only after a committed approval by somebody else than the proposer. -/
  approvedByAnother : ∀ before n outcome after, events = before ++ .runTool n outcome :: after →
    (Run.run WorkflowState.step state before).calls n = some .claimed →
    ∃ userId ∈ (Run.run WorkflowState.step state before).approvals,
      userId ≠ (Run.run WorkflowState.step state before).request.proposerUserId
  /-- Without an execution in progress the request is not executing. -/
  notStranded : Run.Always WorkflowState.step
    (fun state => state.request.status = .executing → state.Executing) state events

/-! ## The invariant -/

def ApprovalPhase.Fits (request : ApprovalRequest) (effects : ℕ) : ApprovalPhase → Prop
  | checked outcome userId => outcome = .approved → userId ≠ request.proposerUserId
  | loaded outcome userId row => (outcome = .approved → userId ≠ request.proposerUserId) ∧
    row.approverUserId ≠ some request.proposerUserId ∧
    (request.status = .pending → row.status = .pending ∧ row.approverUserId = none)
  | claimed => request.status = .executing ∧ effects = 0
  | raised => request.status = .executing ∧ effects = 0
  | restoring => request.status = .executing ∧ effects = 0
  | succeeded => request.status = .executing ∧ effects = 1
  | finishing status => request.status = .executing ∧ effects = 1 ∧ status = .executing

namespace ApprovalPhase

variable {request request' : ApprovalRequest} {effects effects' : ℕ} {phase : ApprovalPhase}

lemma Fits.status (h : phase.Fits request effects) (hexecution : phase.IsExecution) :
    request.status = .executing := by
  cases phase with
  | checked outcome userId => exact absurd hexecution id
  | loaded outcome userId row => exact absurd hexecution id
  | claimed => exact h.1
  | raised => exact h.1
  | restoring => exact h.1
  | succeeded => exact h.1
  | finishing loaded => exact h.1

lemma Fits.of_decision (h : phase.Fits request effects) (hdecision : ¬ phase.IsExecution)
    (hproposer : request'.proposerUserId = request.proposerUserId)
    (hpending : request'.status = .pending → request.status = .pending) :
    phase.Fits request' effects' := by
  cases phase with
  | checked outcome userId =>
    intro happroved
    rw [hproposer]
    exact h happroved
  | loaded outcome userId row =>
    obtain ⟨hother, hself, hloaded⟩ := h
    refine ⟨?_, ?_, fun hstatus => hloaded (hpending hstatus)⟩
    · rw [hproposer]
      exact hother
    · rw [hproposer]
      exact hself
  | claimed => exact absurd trivial hdecision
  | raised => exact absurd trivial hdecision
  | restoring => exact absurd trivial hdecision
  | succeeded => exact absurd trivial hdecision
  | finishing loaded => exact absurd trivial hdecision

lemma Fits.congr (h : phase.Fits request effects)
    (hproposer : request'.proposerUserId = request.proposerUserId)
    (hstatus : request'.status = request.status) : phase.Fits request' effects := by
  by_cases hexecution : phase.IsExecution
  · have hexecuting := h.status hexecution
    cases phase with
    | checked outcome userId => exact absurd hexecution id
    | loaded outcome userId row => exact absurd hexecution id
    | claimed => exact ⟨hstatus.trans hexecuting, h.2⟩
    | raised => exact ⟨hstatus.trans hexecuting, h.2⟩
    | restoring => exact ⟨hstatus.trans hexecuting, h.2⟩
    | succeeded => exact ⟨hstatus.trans hexecuting, h.2⟩
    | finishing loaded => exact ⟨hstatus.trans hexecuting, h.2⟩
  · exact h.of_decision hexecution hproposer fun hpending => hstatus.symm.trans hpending

end ApprovalPhase

namespace WorkflowState

/-- What every state of an orderly run satisfies. -/
structure Sound (state : WorkflowState) : Prop where
  fits : ∀ n, ∀ phase ∈ state.calls n, phase.Fits state.request state.effects
  /-- At most one execution is in progress. -/
  alone : ∀ n m, ∀ phase ∈ state.calls n, ∀ phase' ∈ state.calls m, phase.IsExecution →
    phase'.IsExecution → m = n
  running : state.request.status = .executing → state.Executing
  effects : state.request.status ≠ .executing →
    state.effects = if state.request.status = .executed then 1 else 0
  undecided : state.request.status = .pending → state.request.approverUserId = none
  noSelf : state.request.NoSelfApproval
  approvedBy : state.request.status ≠ .pending → state.request.status ≠ .rejected →
    ∃ userId ∈ state.approvals, userId ≠ state.request.proposerUserId

variable {state : WorkflowState}

lemma Initial.sound (h : state.Initial) : state.Sound where
  fits n phase hphase := by
    rw [h.noCalls n] at hphase
    cases hphase
  alone n m phase hphase := by
    rw [h.noCalls n] at hphase
    cases hphase
  running hstatus := by
    rw [h.pending] at hstatus
    cases hstatus
  effects _ := by
    rw [h.noEffects, h.pending]
    rfl
  undecided _ := h.undecided
  noSelf := by
    unfold ApprovalRequest.NoSelfApproval
    rw [h.undecided]
    exact fun hnone => by cases hnone
  approvedBy hstatus := absurd h.pending hstatus

/-- The moves of an execution in progress, with the effects they add. -/
inductive Advance : ApprovalPhase → ApprovalPhase → ℕ → Prop
  | succeeds : Advance .claimed .succeeded 1
  | raises : Advance .claimed .raised 0
  | restores : Advance .raised .restoring 0
  | finishes : Advance .succeeded (.finishing .executing) 0

/-- What an event can change in a sound state. -/
inductive Change (state : WorkflowState) : WorkflowState → Prop
  | same : Change state state
  /-- A decision begins, loads the row, or ends without a commit. -/
  | decision (n : ℕ) (phase : Option ApprovalPhase)
      (hold : ∀ old ∈ state.calls n, ¬ old.IsExecution)
      (hnew : ∀ new ∈ phase, ¬ new.IsExecution ∧ new.Fits state.request state.effects) :
      Change state (state.setCall n phase)
  /-- A decision is written again. -/
  | repeated (n : ℕ) (request : ApprovalRequest) (approvals : List Uuid)
      (hold : ∀ old ∈ state.calls n, ¬ old.IsExecution)
      (hproposer : request.proposerUserId = state.request.proposerUserId)
      (hstatus : request.status = state.request.status)
      (happrover : request.approverUserId = state.request.approverUserId)
      (happrovals : ∀ userId ∈ state.approvals, userId ∈ approvals) :
      Change state { state with
        request := request
        calls := Function.update state.calls n none
        approvals := approvals }
  /-- A pending request is decided. -/
  | decided (n : ℕ) (outcome : DecisionOutcome) (userId : Uuid) (request : ApprovalRequest)
      (approvals : List Uuid) (hpending : state.request.status = .pending)
      (hproposer : request.proposerUserId = state.request.proposerUserId)
      (hstatus : request.status = outcome.status)
      (hnoSelf : request.NoSelfApproval)
      (happroved : outcome = .approved → userId ∈ approvals ∧
        userId ≠ state.request.proposerUserId) :
      Change state { state with
        request := request
        calls := Function.update state.calls n none
        approvals := approvals }
  | claimed (n : ℕ) (hcall : state.calls n = none) (happroved : state.request.status = .approved) :
      Change state ((state.setStatus .executing).setCall n (some .claimed))
  | advanced (n : ℕ) (phase phase' : ApprovalPhase) (gain : ℕ) (hcall : state.calls n = some phase)
      (hadvance : Advance phase phase' gain) :
      Change state { state with
        effects := state.effects + gain
        calls := Function.update state.calls n (some phase') }
  | restored (n : ℕ) (hcall : state.calls n = some .restoring) :
      Change state ((state.setStatus .approved).setCall n none)
  | executed (n : ℕ) (hcall : state.calls n = some (.finishing .executing)) :
      Change state ((state.setStatus .executed).setCall n none)

variable {phase phase' : ApprovalPhase}

lemma Advance.isExecution {gain : ℕ} (h : Advance phase phase' gain) :
    phase.IsExecution ∧ phase'.IsExecution := by
  cases h <;> exact ⟨trivial, trivial⟩

lemma Advance.fits {gain effects : ℕ} {request : ApprovalRequest} (h : Advance phase phase' gain)
    (hfits : phase.Fits request effects) :
    phase'.Fits request (effects + gain) := by
  cases h with
  | succeeds =>
    obtain ⟨hstatus, hnone⟩ := hfits
    exact ⟨hstatus, by omega⟩
  | raises => exact hfits
  | restores => exact hfits
  | finishes =>
    obtain ⟨hstatus, hone⟩ := hfits
    exact ⟨hstatus, hone, rfl⟩

variable {n m : ℕ}

lemma Sound.decision_of_ne (h : state.Sound) (hcall : state.calls n = some phase)
    (hexecution : phase.IsExecution) (hne : m ≠ n) (hcall' : state.calls m = some phase') :
    ¬ phase'.IsExecution :=
  fun hexecution' => hne (h.alone n m phase hcall phase' hcall' hexecution hexecution')

lemma Sound.decision_of_status (h : state.Sound) (hstatus : state.request.status ≠ .executing)
    (hcall : state.calls m = some phase) : ¬ phase.IsExecution :=
  fun hexecution => hstatus ((h.fits m phase hcall).status hexecution)

lemma Sound.change_step {event : WorkflowEvent} (h : state.Sound) (horderly : state.Orderly event) :
    state.Change (state.step event) := by
  cases event with
  | decide n outcome userId =>
    dsimp only [step, WorkflowState.decide]
    split
    · next hguard =>
      obtain ⟨hcall, -, hother⟩ := hguard
      refine .decision n _ ?_ ?_
      · rw [hcall]
        exact fun old hold => by cases hold
      · rintro new hnew
        obtain rfl := Option.some.inj hnew
        exact ⟨id, hother⟩
    · exact .same
  | load n =>
    dsimp only [step]
    split
    · next outcome userId hcall =>
      have hother : outcome = .approved → userId ≠ state.request.proposerUserId :=
        h.fits n _ hcall
      refine .decision n _ ?_ ?_
      · rintro old hold
        obtain rfl := Option.some.inj (hcall.symm.trans hold)
        exact id
      · rintro new hnew
        obtain rfl := Option.some.inj hnew
        exact ⟨id, hother, h.noSelf, fun hpending => ⟨hpending, h.undecided hpending⟩⟩
    · exact .same
  | write n isOpen now =>
    dsimp only [step, WorkflowState.write]
    split
    · next outcome userId row hcall =>
      obtain ⟨hother, hself, hloaded⟩ := h.fits n _ hcall
      have hold : ∀ old ∈ state.calls n, ¬ old.IsExecution := by
        rintro old hold
        obtain rfl := Option.some.inj (hcall.symm.trans hold)
        exact id
      split
      · next hguard =>
        obtain ⟨hopen, hnoSelf⟩ := hguard
        have hproposer : userId ≠ state.request.proposerUserId := by
          rintro rfl
          exact hnoSelf (if_neg hself)
        rcases horderly outcome userId row hcall hopen hproposer with hpending | ⟨hstatus, happrover⟩
        · obtain ⟨hstatus, hnone⟩ := hloaded hpending
          refine .decided n outcome userId _ _ hpending rfl ?_ hnoSelf ?_
          · dsimp only [ApprovalRequest.decided]
            rw [hstatus]
            cases outcome <;> rfl
          · rintro rfl
            exact ⟨List.mem_cons_self, hproposer⟩
        · refine .repeated n _ _ hold rfl ?_ ?_ ?_
          · rcases hstatus with hstatus | hstatus
            · exact if_pos hstatus
            · dsimp only [ApprovalRequest.decided, writeStatus]
              rw [hstatus, ite_self]
          · rcases happrover with happrover | happrover
            · exact if_pos happrover
            · dsimp only [ApprovalRequest.decided, writeStatus]
              rw [happrover, ite_self]
          · intro other hmem
            split
            · exact List.mem_cons_of_mem _ hmem
            · exact hmem
      · exact .decision n none hold fun new hnew => by cases hnew
    · exact .same
  | claim n isOpen =>
    dsimp only [step]
    split
    · next hguard => exact .claimed n hguard.2.1 hguard.2.2
    · exact .same
  | runTool n outcome =>
    dsimp only [step, WorkflowState.runTool]
    split
    · next hcall =>
      rcases horderly hcall with rfl | rfl
      · exact .advanced n _ _ 1 hcall .succeeds
      · exact .advanced n _ _ 0 hcall .raises
    · exact .same
  | reload n =>
    dsimp only [step]
    split
    · next hcall =>
      rw [if_pos (h.fits n _ hcall).1]
      exact .advanced n _ _ 0 hcall .restores
    · next hcall =>
      rw [(h.fits n _ hcall).1]
      exact .advanced n _ _ 0 hcall .finishes
    · exact .same
  | settle n =>
    dsimp only [step]
    split
    · next hcall => exact .restored n hcall
    · next loaded hcall =>
      obtain ⟨-, -, rfl⟩ := h.fits n _ hcall
      exact .executed n hcall
    · exact .same

lemma update_cases {phase : Option ApprovalPhase} {new : ApprovalPhase}
    (h : new ∈ Function.update state.calls n phase m) :
    m = n ∧ new ∈ phase ∨ m ≠ n ∧ state.calls m = some new := by
  by_cases hm : m = n
  · subst hm
    rw [Function.update_self] at h
    exact Or.inl ⟨rfl, h⟩
  · rw [Function.update_of_ne hm] at h
    exact Or.inr ⟨hm, h⟩

lemma Sound.alone_of_decision (h : state.Sound) {phase : Option ApprovalPhase}
    (hnew : ∀ new ∈ phase, ¬ new.IsExecution) (i j : ℕ) :
    ∀ first ∈ Function.update state.calls n phase i,
    ∀ second ∈ Function.update state.calls n phase j, first.IsExecution → second.IsExecution →
    j = i := by
  intro first hfirst second hsecond hexecution hexecution'
  rcases update_cases hfirst with ⟨-, hmem⟩ | ⟨-, hi⟩
  · exact absurd hexecution (hnew first hmem)
  · rcases update_cases hsecond with ⟨-, hmem⟩ | ⟨-, hj⟩
    · exact absurd hexecution' (hnew second hmem)
    · exact h.alone i j first hi second hj hexecution hexecution'

lemma Sound.alone_of_return (h : state.Sound) (n i j : ℕ) :
    ∀ first ∈ Function.update state.calls n none i,
    ∀ second ∈ Function.update state.calls n none j, first.IsExecution → second.IsExecution →
    j = i :=
  h.alone_of_decision (fun new hmem => absurd hmem (Option.not_mem_none new)) i j

lemma Executing.update {state : WorkflowState} (h : state.Executing) {n : ℕ}
    (hold : ∀ old ∈ state.calls n, ¬ old.IsExecution) (phase : Option ApprovalPhase) :
    ∃ m, ∃ new ∈ Function.update state.calls n phase m, new.IsExecution := by
  obtain ⟨m, new, hnew, hexecution⟩ := h
  have hne : m ≠ n := by
    rintro rfl
    exact hold new hnew hexecution
  refine ⟨m, new, ?_, hexecution⟩
  rw [Function.update_of_ne hne]
  exact hnew

lemma alone_of_others {phase : Option ApprovalPhase}
    (hothers : ∀ m, m ≠ n → ∀ other ∈ state.calls m, ¬ other.IsExecution) (i j : ℕ) :
    ∀ first ∈ Function.update state.calls n phase i,
    ∀ second ∈ Function.update state.calls n phase j, first.IsExecution → second.IsExecution →
    j = i := by
  intro first hfirst second hsecond hexecution hexecution'
  rcases update_cases hfirst with ⟨hi, -⟩ | ⟨hne, hi⟩
  · rcases update_cases hsecond with ⟨hj, -⟩ | ⟨hne, hj⟩
    · exact hj.trans hi.symm
    · exact absurd hexecution' (hothers j hne second hj)
  · exact absurd hexecution (hothers i hne first hi)

lemma Sound.settled (h : state.Sound) {status : ApprovalStatus} (hcall : state.calls n = some phase)
    (hexecution : phase.IsExecution)
    (hstatus : status = .approved ∧ state.effects = 0 ∨ status = .executed ∧ state.effects = 1) :
    ((state.setStatus status).setCall n none).Sound := by
  have hexecuting := (h.fits n phase hcall).status hexecution
  have hothers : ∀ m, m ≠ n → ∀ other ∈ state.calls m, ¬ other.IsExecution :=
    fun m hne other hother => h.decision_of_ne hcall hexecution hne hother
  have hnot : status ≠ .pending ∧ status ≠ .executing := by
    rcases hstatus with ⟨rfl, -⟩ | ⟨rfl, -⟩
    all_goals exact ⟨by decide, by decide⟩
  refine ⟨?_, alone_of_others hothers, fun hnew => absurd hnew hnot.2, ?_,
    fun hnew => absurd hnew hnot.1, h.noSelf, ?_⟩
  · intro m new hmem
    rcases update_cases hmem with ⟨-, hmem⟩ | ⟨hne, hm⟩
    · cases hmem
    · exact (h.fits m new hm).of_decision (hothers m hne new hm) rfl
        fun hnew => absurd hnew hnot.1
  · intro _
    rcases hstatus with ⟨rfl, heffects⟩ | ⟨rfl, heffects⟩
    all_goals exact heffects
  · intro _ _
    refine h.approvedBy ?_ ?_
    all_goals rw [hexecuting]; decide

lemma Sound.change {state state' : WorkflowState} (h : state.Sound) (hchange : state.Change state') :
    state'.Sound := by
  cases hchange with
  | same => exact h
  | decision n phase hold hnew =>
    refine ⟨?_, h.alone_of_decision fun new hmem => (hnew new hmem).1,
      fun hstatus => (h.running hstatus).update hold phase, h.effects, h.undecided, h.noSelf,
      h.approvedBy⟩
    intro m new hmem
    rcases update_cases hmem with ⟨-, hmem⟩ | ⟨-, hm⟩
    · exact (hnew new hmem).2
    · exact h.fits m new hm
  | repeated n request approvals hold hproposer hstatus happrover happrovals =>
    refine ⟨?_, h.alone_of_return n, ?_, ?_, ?_, ?_, ?_⟩
    · intro m new hmem
      rcases update_cases hmem with ⟨-, hmem⟩ | ⟨-, hm⟩
      · cases hmem
      · exact (h.fits m new hm).congr hproposer hstatus
    · intro hexecuting
      exact (h.running (hstatus.symm.trans hexecuting)).update hold none
    · dsimp only
      rw [hstatus]
      exact h.effects
    · dsimp only
      rw [hstatus, happrover]
      exact h.undecided
    · show request.approverUserId ≠ some request.proposerUserId
      rw [happrover, hproposer]
      exact h.noSelf
    · dsimp only
      rw [hstatus, hproposer]
      intro hdecided hrejected
      obtain ⟨userId, hmem, hother⟩ := h.approvedBy hdecided hrejected
      exact ⟨userId, happrovals userId hmem, hother⟩
  | decided n outcome userId request approvals hpending hproposer hstatus hnoSelf happroved =>
    have hdecisions : ∀ m phase, state.calls m = some phase → ¬ phase.IsExecution :=
      fun m phase hcall => h.decision_of_status (by rw [hpending]; decide) hcall
    have hstatuses : request.status = .approved ∨ request.status = .rejected := by
      rw [hstatus]
      cases outcome with
      | approved => exact Or.inl rfl
      | rejected => exact Or.inr rfl
    have hnone : state.effects = 0 := by
      have heffects := h.effects (by rw [hpending]; decide)
      rw [hpending] at heffects
      exact heffects
    refine ⟨?_, h.alone_of_return n, ?_, ?_, ?_, hnoSelf, ?_⟩
    · intro m new hmem
      rcases update_cases hmem with ⟨-, hmem⟩ | ⟨-, hm⟩
      · cases hmem
      · exact (h.fits m new hm).of_decision (hdecisions m new hm) hproposer fun _ => hpending
    · intro hexecuting
      rcases hstatuses with hnew | hnew
      all_goals cases hnew.symm.trans hexecuting
    · intro _
      dsimp only
      rcases hstatuses with hnew | hnew
      all_goals rw [hnone, hnew]; rfl
    · intro hpending'
      rcases hstatuses with hnew | hnew
      all_goals cases hnew.symm.trans hpending'
    · intro _ hrejected
      cases outcome with
      | approved =>
        obtain ⟨hmem, hother⟩ := happroved rfl
        refine ⟨userId, hmem, ?_⟩
        dsimp only
        rw [hproposer]
        exact hother
      | rejected => exact absurd hstatus hrejected
  | claimed n hcall happroved =>
    have hdecisions : ∀ m phase, state.calls m = some phase → ¬ phase.IsExecution :=
      fun m phase hcall => h.decision_of_status (by rw [happroved]; decide) hcall
    have hnone : state.effects = 0 := by
      have heffects := h.effects (by rw [happroved]; decide)
      rw [happroved] at heffects
      exact heffects
    refine ⟨?_, alone_of_others fun m _ other hother => hdecisions m other hother, ?_,
      fun hstatus => absurd rfl hstatus, ?_, h.noSelf, ?_⟩
    · intro m new hmem
      rcases update_cases hmem with ⟨-, hmem⟩ | ⟨-, hm⟩
      · obtain rfl := Option.some.inj hmem
        exact ⟨rfl, hnone⟩
      · exact (h.fits m new hm).of_decision (hdecisions m new hm) rfl fun heq => by cases heq
    · intro _
      exact ⟨n, .claimed, Function.update_self .., trivial⟩
    · exact fun hstatus => by cases hstatus
    · intro _ _
      refine h.approvedBy ?_ ?_
      · rw [happroved]
        decide
      · rw [happroved]
        decide
  | advanced n phase phase' gain hcall hadvance =>
    obtain ⟨hexecution, hexecution'⟩ := hadvance.isExecution
    have hstatus := (h.fits n phase hcall).status hexecution
    refine ⟨?_, alone_of_others fun m hne other hother =>
      h.decision_of_ne hcall hexecution hne hother, ?_, fun hne => absurd hstatus hne, h.undecided,
      h.noSelf, h.approvedBy⟩
    · intro m new hmem
      rcases update_cases hmem with ⟨-, hmem⟩ | ⟨hne, hm⟩
      · obtain rfl := Option.some.inj hmem
        exact hadvance.fits (h.fits n phase hcall)
      · exact (h.fits m new hm).of_decision (h.decision_of_ne hcall hexecution hne hm) rfl id
    · intro _
      exact ⟨n, phase', Function.update_self .., hexecution'⟩
  | restored n hcall =>
    exact h.settled hcall trivial (Or.inl ⟨rfl, (h.fits n _ hcall).2⟩)
  | executed n hcall =>
    exact h.settled hcall trivial (Or.inr ⟨rfl, (h.fits n _ hcall).2.1⟩)

lemma Sound.effects_le_one (h : state.Sound) : state.effects ≤ 1 := by
  by_cases hstatus : state.request.status = .executing
  · obtain ⟨n, phase, hcall, hexecution⟩ := h.running hstatus
    have hfits := h.fits n phase hcall
    cases phase with
    | checked outcome userId => exact absurd hexecution id
    | loaded outcome userId row => exact absurd hexecution id
    | claimed => exact hfits.2.le.trans zero_le_one
    | raised => exact hfits.2.le.trans zero_le_one
    | restoring => exact hfits.2.le.trans zero_le_one
    | succeeded => exact hfits.2.le
    | finishing status => exact hfits.2.1.le
  · rw [h.effects hstatus]
    split
    · exact le_refl 1
    · exact zero_le_one

lemma Sound.status_of_claimed (h : state.Sound) (hcall : state.calls n = some .claimed) :
    state.request.status = .executing :=
  (h.fits n _ hcall).1

lemma kept_setStatus {phase : Option ApprovalPhase} (old new : ApprovalStatus)
    (hstatus : state.request.status = old) (hold : old ≠ .rejected) (hpending : new ≠ .pending)
    (hrejected : new ≠ .rejected) :
    (state.request.status = .rejected → new = .rejected) ∧
      DecisionKept state.decision ((state.setStatus new).setCall n phase).decision := by
  have hnot : state.request.status ≠ .rejected := by
    rw [hstatus]
    exact hold
  refine ⟨fun heq => absurd heq hnot, ?_⟩
  intro recorded hrecorded
  unfold WorkflowState.decision at hrecorded ⊢
  split at hrecorded
  · cases hrecorded
  · have hpending' : ((state.setStatus new).setCall n phase).request.status ≠ .pending := hpending
    have hflag : ((state.setStatus new).setCall n phase).request.status ≠ .rejected := hrejected
    rw [if_neg hpending', ← hrecorded]
    simp only [hnot, hflag]
    rfl

lemma Change.kept {state state' : WorkflowState} (h : state.Sound) (hchange : state.Change state') :
    (state.request.status = .rejected → state'.request.status = .rejected) ∧
      DecisionKept state.decision state'.decision := by
  have hsame : DecisionKept state.decision state.decision := fun _ hrecorded => hrecorded
  cases hchange with
  | same => exact ⟨id, hsame⟩
  | decision n phase hold hnew => exact ⟨id, hsame⟩
  | repeated n request approvals hold hproposer hstatus happrover happrovals =>
    refine ⟨hstatus.trans, ?_⟩
    intro recorded hrecorded
    unfold WorkflowState.decision at hrecorded ⊢
    dsimp only
    rw [hstatus, happrover]
    exact hrecorded
  | decided n outcome userId request approvals hpending hproposer hstatus hnoSelf happroved =>
    constructor
    · rw [hpending]
      exact fun heq => by cases heq
    · intro recorded hrecorded
      unfold WorkflowState.decision at hrecorded
      rw [if_pos hpending] at hrecorded
      cases hrecorded
  | claimed n hcall happroved =>
    exact kept_setStatus .approved .executing happroved (by decide) (by decide) (by decide)
  | advanced n phase phase' gain hcall hadvance => exact ⟨id, hsame⟩
  | restored n hcall =>
    exact kept_setStatus .executing .approved (h.fits n _ hcall).1 (by decide) (by decide) (by decide)
  | executed n hcall =>
    exact kept_setStatus .executing .executed (h.fits n _ hcall).1 (by decide) (by decide) (by decide)

end WorkflowState

/-! ## Runs -/

open WorkflowState

lemma sound_step (state : WorkflowState) (event : WorkflowEvent) (h : state.Sound)
    (horderly : state.Orderly event) : (state.step event).Sound :=
  h.change (h.change_step horderly)

/-- **The approval workflow is sound** in every run in which each decision that is written finds the
request pending, or repeats the decision that is there, and in which no tool run raises after its
effect or is cancelled. -/
theorem run_workflow {state : WorkflowState} {events : List WorkflowEvent} (hstart : state.Initial)
    (h : Run.Along WorkflowState.step Orderly state events) : WorkflowSound state events := by
  have hsound : Run.Always WorkflowState.step Sound state events :=
    Run.always_of_along sound_step hstart.sound h
  constructor
  · rintro before middle n outcome after rfl hrejected hclaimed
    obtain ⟨hbefore, hmiddle⟩ := Run.along_append.mp (Run.along_append.mp h).1
    have hsound' := hsound (before ++ middle) (.runTool n outcome :: after) rfl
    have hstays : (Run.run WorkflowState.step (Run.run WorkflowState.step state before)
        middle).Sound ∧ (Run.run WorkflowState.step (Run.run WorkflowState.step state before)
        middle).request.status = .rejected := by
      refine Run.run_of_along (I := fun state => state.Sound ∧ state.request.status = .rejected)
        ?_ ⟨?_, hrejected⟩ hmiddle
      · rintro state event ⟨hstate, hstatus⟩ horderly
        have hchange := hstate.change_step horderly
        exact ⟨hstate.change hchange, (hchange.kept hstate).1 hstatus⟩
      · exact hsound before (middle ++ .runTool n outcome :: after) (List.append_assoc ..)
    rw [Run.run_append] at hclaimed
    have hexecuting := hstays.1.status_of_claimed hclaimed
    rw [hstays.2] at hexecuting
    cases hexecuting
  · exact fun before after hsplit => (hsound before after hsplit).effects_le_one
  · exact Run.moves_of_along sound_step
      (fun _ _ hstate horderly => ((hstate.change_step horderly).kept hstate).2) hstart.sound h
  · rintro before n outcome after rfl hclaimed
    have hstate := hsound before (.runTool n outcome :: after) rfl
    have hexecuting := hstate.status_of_claimed hclaimed
    refine hstate.approvedBy ?_ ?_
    all_goals rw [hexecuting]; decide
  · exact fun before after hsplit => (hsound before after hsplit).running

/-! ## Orderly and disorderly runs -/

instance (state : WorkflowState) (event : WorkflowEvent) : Decidable (state.Orderly event) :=
  match event with
  | .decide .. => isTrue trivial
  | .load _ => isTrue trivial
  | .write n isOpen _ =>
    match hcall : state.calls n with
    | some (.loaded outcome userId row) =>
      decidable_of_iff (isOpen = true → userId ≠ state.request.proposerUserId →
        state.request.status = .pending ∨
          (row.status = outcome.status ∨ state.request.status = outcome.status) ∧
          (row.approverUserId = some userId ∨ state.request.approverUserId = some userId)) <| by
        constructor
        · rintro h outcome' userId' row' hother
          obtain ⟨rfl, rfl, rfl⟩ := ApprovalPhase.loaded.inj
            (Option.some.inj (hcall.symm.trans hother))
          exact h
        · exact fun h => h outcome userId row hcall
    | none => isTrue fun _ _ _ hother => by cases hcall.symm.trans hother
    | some (.checked _ _) => isTrue fun _ _ _ hother => by cases hcall.symm.trans hother
    | some .claimed => isTrue fun _ _ _ hother => by cases hcall.symm.trans hother
    | some .raised => isTrue fun _ _ _ hother => by cases hcall.symm.trans hother
    | some .restoring => isTrue fun _ _ _ hother => by cases hcall.symm.trans hother
    | some .succeeded => isTrue fun _ _ _ hother => by cases hcall.symm.trans hother
    | some (.finishing _) => isTrue fun _ _ _ hother => by cases hcall.symm.trans hother
  | .claim .. => isTrue trivial
  | .runTool n outcome => inferInstanceAs (Decidable (state.calls n = some .claimed →
    outcome = .succeeds ∨ outcome = .raisesBeforeEffect))
  | .reload _ => isTrue trivial
  | .settle _ => isTrue trivial

def proposedAction : WorkflowState where
  request := ⟨1, 1, 7, "send_report", .pending, none, none⟩
  calls := fun _ => none
  effects := 0
  approvals := []

lemma proposedAction_initial : proposedAction.Initial :=
  ⟨rfl, rfl, fun _ => rfl, rfl, rfl⟩

def approvedByUser8 : List WorkflowEvent :=
  [.decide 0 .approved 8, .load 0, .write 0 true 5]

def approvedAndExecuted : List WorkflowEvent :=
  approvedByUser8 ++ [.claim 1 true, .runTool 1 .raisesBeforeEffect, .reload 1, .settle 1,
    .claim 2 true, .runTool 2 .succeeds, .reload 2, .settle 2]

/-- An action is approved, retried and executed. -/
theorem run_workflow_executed : WorkflowSound proposedAction approvedAndExecuted ∧
    (Run.run WorkflowState.step proposedAction approvedAndExecuted).request.status = .executed ∧
    (Run.run WorkflowState.step proposedAction approvedAndExecuted).effects = 1 :=
  ⟨run_workflow proposedAction_initial (by decide +kernel), by decide +kernel, by decide +kernel⟩

def rejectedAfterClaim : List WorkflowEvent :=
  .decide 2 .rejected 9 :: approvedByUser8 ++ [.claim 1 true, .load 2, .write 2 true 6]

def retriedAfterEffect : List WorkflowEvent :=
  approvedByUser8 ++ [.claim 1 true, .runTool 1 .raisesAfterEffect, .reload 1, .settle 1,
    .claim 2 true, .runTool 2 .succeeds]

def cancelledExecution : List WorkflowEvent :=
  approvedByUser8 ++ [.claim 1 true, .runTool 1 (.cancelled false)]

/-- A rejected action runs, an effect takes place twice, and an action stays executing. -/
theorem workflow_broken :
    ¬ WorkflowSound proposedAction (rejectedAfterClaim ++ [.runTool 1 .succeeds]) ∧
      ¬ WorkflowSound proposedAction retriedAfterEffect ∧
      ¬ WorkflowSound proposedAction cancelledExecution := by
  refine ⟨fun h => ?_, fun h => ?_, fun h => ?_⟩
  · exact h.rejectedNeverRuns rejectedAfterClaim [] 1 .succeeds [] rfl (by decide +kernel)
      (by decide +kernel)
  · have heffects : (Run.run WorkflowState.step proposedAction retriedAfterEffect).effects = 2 := by
      decide +kernel
    have honce := h.effectOnce retriedAfterEffect [] (List.append_nil _).symm
    dsimp only at honce
    omega
  · have hexecuting : (Run.run WorkflowState.step proposedAction
        cancelledExecution).request.status = .executing := by decide +kernel
    obtain ⟨n, phase, hphase, -⟩ := h.notStranded cancelledExecution [] (List.append_nil _).symm
      hexecuting
    have hnone : (Run.run WorkflowState.step proposedAction cancelledExecution).calls n = none := by
      rcases n with _ | _ | n <;> rfl
    rw [hnone] at hphase
    cases hphase

end SaasOs.Approvals
