import SaasOs.SelfLearning.Decisions
import SaasOs.Authority.Caller

/-!
# Adaptations

An adaptation is a version of one behavioural setting of a tenant; the versions of a setting form a
lineage.  A candidate is proposed, evaluated and activated, which supersedes the active version of
its lineage; an active version can be rolled back, which reactivates its recorded predecessor.
-/

namespace SaasOs.SelfLearning

/-! ## Rows -/

inductive AdaptationSurface
  | promptInstruction | modelSelection | routingStrategy | toolSelectionStrategy
  | retrievalStrategy | responseStrategy | personalization
  deriving DecidableEq

inductive AdaptationStatus
  | candidate | active | superseded | rolledBack
  deriving DecidableEq

inductive AdaptationScope
  | tenant | platformWide
  deriving DecidableEq

/-- What the versions of one setting share. -/
structure Lineage where
  tenantId : Uuid
  surface : AdaptationSurface
  lineageKey : String
  deriving DecidableEq

/-- A row of `self_learning.adaptations`. -/
structure Adaptation where
  id : Uuid
  lineage : Lineage
  version : ℕ
  status : AdaptationStatus
  scope : AdaptationScope
  proposedValue : String
  previousAdaptationId : Option Uuid
  learningPurpose : String
  evidenceType : String
  evidenceSourceReference : String
  learningAuthorizationDecisionId : Uuid
  evaluationComparisonId : Option Uuid
  evaluationOutcome : Option EvaluationOutcome
  createdByUserId : Uuid
  activatedByUserId : Option Uuid
  rolledBackByUserId : Option Uuid
  activatedAt : Option Instant
  rolledBackAt : Option Instant
  deriving DecidableEq

def Adaptation.tenantId (row : Adaptation) : Uuid := row.lineage.tenantId

/-- The table `self_learning.adaptations`. -/
abbrev AdaptationTable := List Adaptation

/-- The errors that the functions raise. -/
inductive AdaptationError
  | unauthorizedEvidence (message : String)
  | platformWideScopeNotAuthorized (tenantId : Uuid) (purpose : String)
  | evaluationProvenance (decisionId : Uuid)
  | notFound (tenantId adaptationId : Uuid)
  | notCandidate (adaptationId : Uuid) (status : AdaptationStatus)
  | notEvaluated (adaptationId : Uuid) (outcome : Option EvaluationOutcome)
  | notActive (adaptationId : Uuid) (status : AdaptationStatus)
  | noPreviousVersion (adaptationId : Uuid)
  | tenantNotOpen (tenantId : Uuid)
  | multipleResultsFound
  | integrity
  deriving DecidableEq

def requiring (condition : Prop) [Decidable condition] (error : AdaptationError) :
    Except AdaptationError Unit :=
  if condition then .ok () else .error error

@[simp] lemma requiring_eq_ok {condition : Prop} [Decidable condition] {error : AdaptationError}
    {u : Unit} : requiring condition error = .ok u ↔ condition := by
  unfold requiring
  split <;> simp_all

@[simp] lemma requiring_eq_error {condition : Prop} [Decidable condition]
    {error error' : AdaptationError} :
    requiring condition error = .error error' ↔ ¬ condition ∧ error = error' := by
  unfold requiring
  split <;> simp_all

lemma bind_eq_error {ε α β : Type} {x : Except ε α} {f : α → Except ε β} {e : ε} :
    (x >>= f) = .error e ↔ x = .error e ∨ ∃ a, x = .ok a ∧ f a = .error e := by
  cases x with
  | error e' => simp [bind, Except.bind]
  | ok a => simp [bind, Except.bind]

/-- What the functions read besides the table: the audit log, the open tenants and the clock. -/
structure Surroundings where
  log : List AuditEntry
  openTenant : Uuid → Bool
  now : Instant

def Surroundings.lockOpenTenant (env : Surroundings) (tenantId : Uuid) :
    Except AdaptationError Unit :=
  requiring (env.openTenant tenantId = true) (.tenantNotOpen tenantId)

namespace AdaptationTable

/-- `session.get(Adaptation, adaptation_id)` in the tenant's own session, and the check that the row
is there. -/
def get (table : AdaptationTable) (tenantId adaptationId : Uuid) :
    Except AdaptationError Adaptation :=
  match table.find? fun row => row.id == adaptationId && row.tenantId == tenantId with
  | some row => .ok row
  | none => .error (.notFound tenantId adaptationId)

def activeRows (table : AdaptationTable) (lineage : Lineage) : List Adaptation :=
  table.filter fun row => row.lineage == lineage && row.status == .active

/-- The query for the active row of a lineage, `scalar_one_or_none()`. -/
def currentActive (table : AdaptationTable) (lineage : Lineage) :
    Except AdaptationError (Option Adaptation) :=
  match table.activeRows lineage with
  | [] => .ok none
  | [row] => .ok (some row)
  | _ => .error .multipleResultsFound

def update (table : AdaptationTable) (id : Uuid) (f : Adaptation → Adaptation) : AdaptationTable :=
  table.map fun row => if row.id = id then f row else row

/-- The index `ux_adaptations_one_active_per_lineage` when the row becomes active: the statement
fails when another row of its lineage is. -/
def checkOneActive (table : AdaptationTable) (row : Adaptation) : Except AdaptationError Unit :=
  requiring (∀ other ∈ table.activeRows row.lineage, other.id = row.id) .integrity

def nextVersion (table : AdaptationTable) (lineage : Lineage) : ℕ :=
  ((table.filter fun row => row.lineage == lineage).map fun row => row.version).foldl max 0 + 1

end AdaptationTable

/-! ## Proposals -/

def validAdaptationEvidenceTypes : Finset String := {"user_feedback", "operator_feedback"}

/-- The arguments of `propose_adaptation`; a platform-wide authorization is its purposes. -/
structure Proposal where
  lineage : Lineage
  proposedValue : String
  learningPurpose : String
  learningAuthorizationDecision : LearningAuthorizationDecision
  evidenceType : String
  evidenceSourceReference : String
  createdByUserId : Uuid
  scope : AdaptationScope
  platformWideAuthorization : Option (Finset String)

def notAllowedMessage : String :=
  "Learning Authorization for this tenant must be ALLOW before proposing an adaptation."

def notPermittedEvidenceMessage (evidenceType : String) : String :=
  "'" ++ evidenceType ++ "' is not permitted L1 adaptation evidence -- only " ++
    "user_feedback/operator_feedback (docs/IMPLEMENTATION-ROADMAP.md Phase 9.4)."

/-- The checks of `propose_adaptation` before its transaction. -/
def checkProposal (env : Surroundings) (proposal : Proposal) : Except AdaptationError Unit := do
  let decision := proposal.learningAuthorizationDecision
  let tenantId := proposal.lineage.tenantId
  let _ ← requiring (decision.outcome = .allow ∧ decision.tenantId = tenantId)
    (.unauthorizedEvidence notAllowedMessage)
  let _ ← requiring (proposal.evidenceType ∈ validAdaptationEvidenceTypes)
    (.unauthorizedEvidence (notPermittedEvidenceMessage proposal.evidenceType))
  let _ ← requiring (proposal.scope = .platformWide →
      (proposal.platformWideAuthorization.any fun purposes =>
        proposal.learningPurpose ∈ purposes) = true)
    (.platformWideScopeNotAuthorized tenantId proposal.learningPurpose)
  requiring (verifyLearningAuthorizationProvenance env.log decision tenantId = true)
    (.unauthorizedEvidence notAllowedMessage)

def proposedRow (table : AdaptationTable) (proposal : Proposal) (id : Uuid)
    (currentActive : Option Adaptation) : Adaptation where
  id := id
  lineage := proposal.lineage
  version := table.nextVersion proposal.lineage
  status := .candidate
  scope := proposal.scope
  proposedValue := proposal.proposedValue
  previousAdaptationId := currentActive.map fun row => row.id
  learningPurpose := proposal.learningPurpose
  evidenceType := proposal.evidenceType
  evidenceSourceReference := proposal.evidenceSourceReference
  learningAuthorizationDecisionId := proposal.learningAuthorizationDecision.decisionId
  evaluationComparisonId := none
  evaluationOutcome := none
  createdByUserId := proposal.createdByUserId
  activatedByUserId := none
  rolledBackByUserId := none
  activatedAt := none
  rolledBackAt := none

/-- `propose_adaptation`; `id` is the primary key that the row draws. -/
def proposeAdaptation (env : Surroundings) (proposal : Proposal) (id : Uuid)
    (table : AdaptationTable) : Except AdaptationError AdaptationTable := do
  let _ ← checkProposal env proposal
  let _ ← env.lockOpenTenant proposal.lineage.tenantId
  let currentActive ← table.currentActive proposal.lineage
  let _ ← requiring (∀ row ∈ table, row.id ≠ id) .integrity
  return table ++ [proposedRow table proposal id currentActive]

/-! ## Evaluations -/

/-- The check of `record_adaptation_evaluation` before its transaction. -/
def checkEvaluation (env : Surroundings) (tenantId : Uuid) (comparison : EvaluationComparison) :
    Except AdaptationError Unit :=
  requiring (verifyEvaluationProvenance env.log comparison tenantId = true)
    (.evaluationProvenance comparison.decisionId)

def requireCandidate (row : Adaptation) : Except AdaptationError Unit :=
  requiring (row.status = .candidate) (.notCandidate row.id row.status)

def Adaptation.evaluated (comparison : EvaluationComparison) (row : Adaptation) : Adaptation :=
  { row with
    evaluationComparisonId := some comparison.decisionId
    evaluationOutcome := some comparison.outcome }

def recordAdaptationEvaluation (env : Surroundings) (tenantId adaptationId : Uuid)
    (comparison : EvaluationComparison) (table : AdaptationTable) :
    Except AdaptationError AdaptationTable := do
  let _ ← checkEvaluation env tenantId comparison
  let row ← table.get tenantId adaptationId
  let _ ← env.lockOpenTenant tenantId
  let _ ← requireCandidate row
  return table.update adaptationId (Adaptation.evaluated comparison)

/-! ## Activation -/

def Adaptation.activated (env : Surroundings) (userId : Uuid) (row : Adaptation) : Adaptation :=
  { row with
    status := .active
    activatedByUserId := some userId
    activatedAt := some env.now }

def Adaptation.withStatus (status : AdaptationStatus) (row : Adaptation) : Adaptation :=
  { row with status := status }

def AdaptationTable.supersede (table : AdaptationTable) (currentActive : Option Adaptation) :
    AdaptationTable :=
  match currentActive with
  | none => table
  | some row => table.update row.id (Adaptation.withStatus .superseded)

/-- The checks of `activate_adaptation_in_session`: the row that is to become active. -/
def checkActivation (env : Surroundings) (tenantId adaptationId : Uuid) (table : AdaptationTable) :
    Except AdaptationError Adaptation := do
  let row ← table.get tenantId adaptationId
  let _ ← env.lockOpenTenant tenantId
  let _ ← requireCandidate row
  let _ ← requiring (row.evaluationOutcome = some .pass)
    (.notEvaluated adaptationId row.evaluationOutcome)
  return row

def activateAdaptationInSession (env : Surroundings) (tenantId adaptationId userId : Uuid)
    (table : AdaptationTable) : Except AdaptationError AdaptationTable := do
  let row ← checkActivation env tenantId adaptationId table
  let currentActive ← table.currentActive row.lineage
  let superseded := table.supersede currentActive
  let _ ← superseded.checkOneActive row
  return superseded.update adaptationId (Adaptation.activated env userId)

/-! ## Rollback -/

def Adaptation.rolledBack (env : Surroundings) (userId : Uuid) (row : Adaptation) : Adaptation :=
  { row with
    status := .rolledBack
    rolledBackByUserId := some userId
    rolledBackAt := some env.now }

/-- The checks of `rollback_adaptation_in_session`: the row that is rolled back and the one that is
reactivated. -/
def checkRollback (env : Surroundings) (tenantId adaptationId : Uuid) (table : AdaptationTable) :
    Except AdaptationError (Adaptation × Adaptation) := do
  let row ← table.get tenantId adaptationId
  let _ ← env.lockOpenTenant tenantId
  let _ ← requiring (row.status = .active) (.notActive adaptationId row.status)
  match row.previousAdaptationId with
  | none => .error (.noPreviousVersion adaptationId)
  | some previousId =>
    let previous ← table.get tenantId previousId
    return (row, previous)

def rollbackAdaptationInSession (env : Surroundings) (tenantId adaptationId userId : Uuid)
    (table : AdaptationTable) : Except AdaptationError AdaptationTable := do
  let (_, previous) ← checkRollback env tenantId adaptationId table
  let rolledBack := table.update adaptationId (Adaptation.rolledBack env userId)
  let _ ← rolledBack.checkOneActive previous
  return rolledBack.update previous.id (Adaptation.withStatus .active)

end SaasOs.SelfLearning
