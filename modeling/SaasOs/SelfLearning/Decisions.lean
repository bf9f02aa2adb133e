import SaasOs.Schema.Tables
import Mathlib.Data.Finset.Basic

/-!
# Authorization decisions and their audit rows

Four functions issue decisions: data authorization, learning authorization, evaluation and the
policy gate.  A decision is an object in memory that any caller can build; what makes it genuine is
the row that its issuer wrote to `core.audit_log` under its `decision_id`, and each kind of decision
has a function that looks this row up.
-/

namespace SaasOs.SelfLearning

/-! ## Audit rows -/

/-- `AuditOutcome`. -/
inductive AuditOutcome
  | success | failure | denied
  deriving DecidableEq

/-- A value in the metadata of an audit row. -/
inductive MetadataValue
  | text (value : String)
  | number (value : ℤ)
  | names (values : List String)
  | reference (id : Uuid)

/-- A row of `core.audit_log` written for a user. -/
structure AuditEntry where
  tenantId : Uuid
  actorUserId : Uuid
  action : String
  resourceType : String
  resourceId : Uuid
  outcome : AuditOutcome
  correlationId : Option String
  metadata : List (String × MetadataValue)

/-- `list(tenant_id, resource_type=…, resource_id=…, limit=…)`: the tenant's rows of one resource,
most recent first. -/
def listAuditEvents (log : List AuditEntry) (tenantId : Uuid) (resourceType : String)
    (resourceId : Uuid) (limit : ℕ) : List AuditEntry :=
  (log.reverse.filter fun entry => entry.tenantId == tenantId &&
    entry.resourceType == resourceType && entry.resourceId == resourceId).take limit

/-- The test that the four verification functions share: one of the tenant's rows for the decision
carries the action and the outcome. -/
def isAudited (log : List AuditEntry) (tenantId : Uuid) (resourceType : String) (decisionId : Uuid)
    (action : String) (outcome : AuditOutcome) : Bool :=
  (listAuditEvents log tenantId resourceType decisionId 25).any fun entry =>
    entry.action == action && entry.outcome == outcome

/-! ## Data authorization -/

/-- The outcome of a gate, `DataAuthorizationOutcome`, `LearningAuthorizationOutcome` and
`PolicyGateOutcome`. -/
inductive GateOutcome
  | allow | deny
  deriving DecidableEq

def validDataClassifications : Finset String := {"none", "tenant_data", "sensitive"}

inductive DataDenialReason
  | unclassifiedData | noTenantPolicy | dataClassNotPermitted | purposeNotPermitted
  | providerNotGloballyEligible | providerNotPermitted
  deriving DecidableEq

def DataDenialReason.value : DataDenialReason → String
  | unclassifiedData => "unclassified_data"
  | noTenantPolicy => "no_tenant_policy"
  | dataClassNotPermitted => "data_class_not_permitted"
  | purposeNotPermitted => "purpose_not_permitted"
  | providerNotGloballyEligible => "provider_not_globally_eligible"
  | providerNotPermitted => "provider_not_permitted"

structure ProviderEligibilityPolicy where
  eligibleProviders : Finset String

structure TenantAIDataPolicy where
  tenantId : Uuid
  allowedDataClassifications : Finset String
  allowedPurposes : Finset String
  allowedProviders : Finset String

/-- `DataAuthorizationRequest`; its `resource_type` and `resource_id` are provenance only. -/
structure DataAuthorizationRequest where
  tenantId : Uuid
  dataClassification : String
  purpose : String
  provider : String

/-- The fields of a `DataAuthorizationDecision`. -/
structure DataAuthorizationDecision where
  outcome : GateOutcome
  tenantId : Uuid
  dataClassification : String
  purpose : String
  provider : String
  reason : Option DataDenialReason
  decisionId : Uuid
  deriving DecidableEq

namespace DataAuthorizationDecision

def isAllowed (decision : DataAuthorizationDecision) : Bool := decision.outcome == .allow

/-- What the constructor accepts, `__post_init__`. -/
def Constructible (decision : DataAuthorizationDecision) : Prop :=
  (decision.outcome = .allow → decision.reason = none) ∧
    (decision.outcome = .deny → decision.reason ≠ none) ∧
    (decision.outcome = .allow → decision.dataClassification ∈ validDataClassifications)

instance (decision : DataAuthorizationDecision) : Decidable decision.Constructible :=
  inferInstanceAs (Decidable (_ ∧ _ ∧ _))

/-- `_deny`. -/
def denied (request : DataAuthorizationRequest) (reason : DataDenialReason) (decisionId : Uuid) :
    DataAuthorizationDecision :=
  ⟨.deny, request.tenantId, request.dataClassification, request.purpose, request.provider,
    some reason, decisionId⟩

/-- `_allow`. -/
def allowed (request : DataAuthorizationRequest) (decisionId : Uuid) : DataAuthorizationDecision :=
  ⟨.allow, request.tenantId, request.dataClassification, request.purpose, request.provider, none,
    decisionId⟩

end DataAuthorizationDecision

/-- `evaluate_data_authorization`; `decisionId` is the UUID that the decision draws. -/
def evaluateDataAuthorization (request : DataAuthorizationRequest)
    (tenantPolicy : Option TenantAIDataPolicy) (providerPolicy : ProviderEligibilityPolicy)
    (decisionId : Uuid) : DataAuthorizationDecision :=
  let deny := fun reason => DataAuthorizationDecision.denied request reason decisionId
  if request.dataClassification ∉ validDataClassifications then deny .unclassifiedData
  else match tenantPolicy with
    | none => deny .noTenantPolicy
    | some tenantPolicy =>
      if tenantPolicy.tenantId ≠ request.tenantId then deny .noTenantPolicy
      else if request.dataClassification ∉ tenantPolicy.allowedDataClassifications then
        deny .dataClassNotPermitted
      else if request.purpose = "" ∨ request.purpose ∉ tenantPolicy.allowedPurposes then
        deny .purposeNotPermitted
      else if request.provider ∉ providerPolicy.eligibleProviders then
        deny .providerNotGloballyEligible
      else if request.provider ∉ tenantPolicy.allowedProviders then deny .providerNotPermitted
      else .allowed request decisionId

/-- The audit row that `authorize_data_access` records. -/
def dataAuthorizationEntry (tenantId : Uuid) (decision : DataAuthorizationDecision)
    (actorUserId : Uuid) (correlationId : Option String) : AuditEntry where
  tenantId := tenantId
  actorUserId := actorUserId
  action := if decision.isAllowed then "ai_control_plane.data_access_approved"
    else "ai_control_plane.data_access_denied"
  resourceType := "ai_data_authorization"
  resourceId := decision.decisionId
  outcome := if decision.isAllowed then .success else .denied
  correlationId := correlationId
  metadata := [("data_classification", .text decision.dataClassification),
    ("purpose", .text decision.purpose), ("provider", .text decision.provider),
    ("decision_id", .reference decision.decisionId)] ++
      decision.reason.toList.map fun reason => ("denial_reason", .text reason.value)

def verifyDataAuthorizationProvenance (log : List AuditEntry) (decision : DataAuthorizationDecision)
    (tenantId : Uuid) : Bool :=
  decision.outcome == .allow && decision.tenantId == tenantId &&
    isAudited log tenantId "ai_data_authorization" decision.decisionId
      "ai_control_plane.data_access_approved" .success

/-! ## Learning authorization -/

def validEvidenceTypes : Finset String :=
  {"user_feedback", "operator_feedback", "tool_output", "external_content",
    "model_generated_content", "imported_learning_material", "evaluation_input"}

inductive LearningDenialReason
  | dataAuthorizationNotPassed | invalidEvidence | crossTenantNotAuthorized | noLearningPolicy
  | purposeNotPermitted | modelOrProviderNotPermitted | retentionNotPermitted
  deriving DecidableEq

def LearningDenialReason.value : LearningDenialReason → String
  | dataAuthorizationNotPassed => "data_authorization_not_passed"
  | invalidEvidence => "invalid_evidence"
  | crossTenantNotAuthorized => "cross_tenant_not_authorized"
  | noLearningPolicy => "no_learning_policy"
  | purposeNotPermitted => "purpose_not_permitted"
  | modelOrProviderNotPermitted => "model_or_provider_not_permitted"
  | retentionNotPermitted => "retention_not_permitted"

structure LearningEvidence where
  evidenceType : String
  sourceReference : String

structure TenantLearningPolicy where
  tenantId : Uuid
  allowedPurposes : Finset String
  allowedModelsOrProviders : Finset String
  allowedRetentions : Finset String

structure CrossTenantLearningPolicy where
  sourceTenantId : Uuid
  targetTenantId : Uuid
  approvedPurposes : Finset String

def CrossTenantLearningPolicy.Approves (policy : CrossTenantLearningPolicy)
    (sourceTenantId targetTenantId : Uuid) (purpose : String) : Prop :=
  policy.sourceTenantId = sourceTenantId ∧ policy.targetTenantId = targetTenantId ∧
    purpose ∈ policy.approvedPurposes

instance (policy : CrossTenantLearningPolicy) (source target : Uuid) (purpose : String) :
    Decidable (policy.Approves source target purpose) :=
  inferInstanceAs (Decidable (_ ∧ _ ∧ _))

def approvedBy (policy : Option CrossTenantLearningPolicy) (source target : Uuid) (purpose : String) :
    Bool :=
  policy.any fun policy => policy.Approves source target purpose

structure LearningAuthorizationRequest where
  tenantId : Uuid
  purpose : String
  targetModelOrProvider : String
  retention : String
  evidence : LearningEvidence
  crossTenantTargetTenantId : Option Uuid

/-- The fields of a `LearningAuthorizationDecision`. -/
structure LearningAuthorizationDecision where
  outcome : GateOutcome
  tenantId : Uuid
  purpose : String
  reason : Option LearningDenialReason
  dataAuthorizationDecisionId : Uuid
  decisionId : Uuid
  deriving DecidableEq

namespace LearningAuthorizationDecision

def isAllowed (decision : LearningAuthorizationDecision) : Bool := decision.outcome == .allow

/-- What the constructor accepts, `__post_init__`. -/
def Constructible (decision : LearningAuthorizationDecision) : Prop :=
  (decision.outcome = .allow → decision.reason = none) ∧
    (decision.outcome = .deny → decision.reason ≠ none)

instance (decision : LearningAuthorizationDecision) : Decidable decision.Constructible :=
  inferInstanceAs (Decidable (_ ∧ _))

/-- `_deny`. -/
def denied (request : LearningAuthorizationRequest) (dataDecision : DataAuthorizationDecision)
    (reason : LearningDenialReason) (decisionId : Uuid) : LearningAuthorizationDecision :=
  ⟨.deny, request.tenantId, request.purpose, some reason, dataDecision.decisionId, decisionId⟩

/-- `_allow`. -/
def allowed (request : LearningAuthorizationRequest) (dataDecision : DataAuthorizationDecision)
    (decisionId : Uuid) : LearningAuthorizationDecision :=
  ⟨.allow, request.tenantId, request.purpose, none, dataDecision.decisionId, decisionId⟩

end LearningAuthorizationDecision

def LearningAuthorizationRequest.foreignTarget (request : LearningAuthorizationRequest) :
    Option Uuid :=
  request.crossTenantTargetTenantId.filter fun target => target ≠ request.tenantId

def evaluateLearningAuthorization (request : LearningAuthorizationRequest)
    (dataDecision : DataAuthorizationDecision) (tenantPolicy : Option TenantLearningPolicy)
    (crossTenantPolicy : Option CrossTenantLearningPolicy) (decisionId : Uuid) :
    LearningAuthorizationDecision :=
  let deny := fun reason =>
    LearningAuthorizationDecision.denied request dataDecision reason decisionId
  if dataDecision.outcome ≠ .allow ∨ dataDecision.tenantId ≠ request.tenantId then
    deny .dataAuthorizationNotPassed
  else if request.evidence.evidenceType ∉ validEvidenceTypes ∨
      request.evidence.sourceReference = "" then deny .invalidEvidence
  else if request.foreignTarget.any fun target =>
      !approvedBy crossTenantPolicy request.tenantId target request.purpose then
    deny .crossTenantNotAuthorized
  else match tenantPolicy with
    | none => deny .noLearningPolicy
    | some tenantPolicy =>
      if tenantPolicy.tenantId ≠ request.tenantId then deny .noLearningPolicy
      else if request.purpose = "" ∨ request.purpose ∉ tenantPolicy.allowedPurposes then
        deny .purposeNotPermitted
      else if request.targetModelOrProvider ∉ tenantPolicy.allowedModelsOrProviders then
        deny .modelOrProviderNotPermitted
      else if request.retention ∉ tenantPolicy.allowedRetentions then deny .retentionNotPermitted
      else .allowed request dataDecision decisionId

/-- The decision that `authorize_learning_use` records: an allowed one is denied after all when the
data authorization was not audited. -/
def decideLearningUse (log : List AuditEntry) (request : LearningAuthorizationRequest)
    (dataDecision : DataAuthorizationDecision) (tenantPolicy : Option TenantLearningPolicy)
    (crossTenantPolicy : Option CrossTenantLearningPolicy) (decisionId : Uuid) :
    LearningAuthorizationDecision :=
  let decision := evaluateLearningAuthorization request dataDecision tenantPolicy
    crossTenantPolicy decisionId
  if decision.isAllowed && !verifyDataAuthorizationProvenance log dataDecision request.tenantId then
    .denied request dataDecision .dataAuthorizationNotPassed decisionId
  else decision

/-- The audit row that `authorize_learning_use` records. -/
def learningAuthorizationEntry (request : LearningAuthorizationRequest)
    (decision : LearningAuthorizationDecision) (actorUserId : Uuid) (correlationId : Option String) :
    AuditEntry where
  tenantId := request.tenantId
  actorUserId := actorUserId
  action := if decision.isAllowed then "learning.data_access_approved"
    else "learning.data_access_denied"
  resourceType := "learning_authorization"
  resourceId := decision.decisionId
  outcome := if decision.isAllowed then .success else .denied
  correlationId := correlationId
  metadata := [("purpose", .text decision.purpose),
    ("evidence_type", .text request.evidence.evidenceType),
    ("evidence_source_reference", .text request.evidence.sourceReference),
    ("target_model_or_provider", .text request.targetModelOrProvider),
    ("retention", .text request.retention),
    ("data_authorization_decision_id", .reference decision.dataAuthorizationDecisionId),
    ("decision_id", .reference decision.decisionId)] ++
      (request.crossTenantTargetTenantId.toList.map fun target =>
        ("cross_tenant_target_tenant_id", .reference target)) ++
      decision.reason.toList.map fun reason => ("denial_reason", .text reason.value)

def verifyLearningAuthorizationProvenance (log : List AuditEntry)
    (decision : LearningAuthorizationDecision) (tenantId : Uuid) : Bool :=
  decision.outcome == .allow && decision.tenantId == tenantId &&
    isAudited log tenantId "learning_authorization" decision.decisionId
      "learning.data_access_approved" .success

/-! ## Evaluation -/

/-- `Benchmark`. -/
structure Benchmark where
  benchmarkId : String
  version : String
  deriving DecidableEq

/-- `EvaluationMetrics`; a Python float is a `Float`. -/
structure EvaluationMetrics where
  taskSuccessRate : Option Float
  errorRate : Option Float
  latencyMs : Option Float
  cost : Option Float
  toolSuccessRate : Option Float
  userFeedbackScore : Option Float
  safetyViolations : Option Float
  regressionRate : Option Float

/-- `getattr(metrics, metric_name, None)`. -/
def EvaluationMetrics.get (metrics : EvaluationMetrics) : String → Option Float
  | "task_success_rate" => metrics.taskSuccessRate
  | "error_rate" => metrics.errorRate
  | "latency_ms" => metrics.latencyMs
  | "cost" => metrics.cost
  | "tool_success_rate" => metrics.toolSuccessRate
  | "user_feedback_score" => metrics.userFeedbackScore
  | "safety_violations" => metrics.safetyViolations
  | "regression_rate" => metrics.regressionRate
  | _ => none

structure EvaluationSubjectResult where
  subjectVersion : String
  tenantId : Uuid
  benchmark : Benchmark
  metrics : EvaluationMetrics
  learningAuthorizationDecision : LearningAuthorizationDecision

inductive MetricDirection
  | higherIsBetter | lowerIsBetter

structure MetricThreshold where
  metricName : String
  direction : MetricDirection
  minimumAbsolute : Option Float
  maximumAbsolute : Option Float
  maximumRegression : Option Float

inductive EvaluationOutcome
  | pass | fail | regression | invalid
  deriving DecidableEq

def EvaluationOutcome.value : EvaluationOutcome → String
  | pass => "pass"
  | fail => "fail"
  | regression => "regression"
  | invalid => "invalid"

inductive EvaluationInvalidReason
  | learningAuthorizationNotPassed | benchmarkMismatch | crossTenantNotAuthorized
  | missingRequiredMetric
  deriving DecidableEq

def EvaluationInvalidReason.value : EvaluationInvalidReason → String
  | learningAuthorizationNotPassed => "learning_authorization_not_passed"
  | benchmarkMismatch => "benchmark_mismatch"
  | crossTenantNotAuthorized => "cross_tenant_not_authorized"
  | missingRequiredMetric => "missing_required_metric"

/-- The fields of an `EvaluationComparison`. -/
structure EvaluationComparison where
  outcome : EvaluationOutcome
  baselineVersion : String
  candidateVersion : String
  benchmark : Option Benchmark
  invalidReason : Option EvaluationInvalidReason
  failedMetrics : List String
  regressedMetrics : List String
  decisionId : Uuid
  deriving DecidableEq

namespace EvaluationComparison

/-- What the constructor accepts, `__post_init__`. -/
def Constructible (comparison : EvaluationComparison) : Prop :=
  (comparison.outcome = .invalid ↔ comparison.invalidReason ≠ none) ∧
    (comparison.outcome = .pass →
      comparison.failedMetrics = [] ∧ comparison.regressedMetrics = []) ∧
    (comparison.outcome = .fail → comparison.failedMetrics ≠ []) ∧
    (comparison.outcome = .regression → comparison.regressedMetrics ≠ [])

instance (comparison : EvaluationComparison) : Decidable comparison.Constructible :=
  inferInstanceAs (Decidable (_ ∧ _ ∧ _ ∧ _))

def invalid (baseline candidate : EvaluationSubjectResult) (reason : EvaluationInvalidReason)
    (benchmark : Option Benchmark) (decisionId : Uuid) : EvaluationComparison :=
  ⟨.invalid, baseline.subjectVersion, candidate.subjectVersion, benchmark, some reason, [], [],
    decisionId⟩

end EvaluationComparison

def exceeds (bound : Option Float) (compare : Float → Bool) : Bool :=
  bound.any compare

def MetricThreshold.fails (threshold : MetricThreshold) (candidate : Float) : Bool :=
  match threshold.direction with
  | .higherIsBetter => exceeds threshold.minimumAbsolute fun bound => candidate < bound
  | .lowerIsBetter => exceeds threshold.maximumAbsolute fun bound => candidate > bound

def MetricThreshold.regresses (threshold : MetricThreshold) (baseline candidate : Float) : Bool :=
  match threshold.direction with
  | .higherIsBetter =>
    exceeds threshold.maximumRegression fun bound => (baseline - candidate) > bound
  | .lowerIsBetter =>
    exceeds threshold.maximumRegression fun bound => (candidate - baseline) > bound

/-- The loop over the thresholds: the failed and the regressed metrics, or nothing when a metric was
not measured. -/
def judgeThresholds (baseline candidate : EvaluationMetrics) :
    List MetricThreshold → Option (List String × List String)
  | [] => some ([], [])
  | threshold :: thresholds => do
    let baselineValue ← baseline.get threshold.metricName
    let candidateValue ← candidate.get threshold.metricName
    let (failed, regressed) ← judgeThresholds baseline candidate thresholds
    if threshold.fails candidateValue then
      return (threshold.metricName :: failed, regressed)
    else if threshold.regresses baselineValue candidateValue then
      return (failed, threshold.metricName :: regressed)
    else return (failed, regressed)

def conclusive (baseline candidate : EvaluationSubjectResult) (failed regressed : List String)
    (decisionId : Uuid) : EvaluationComparison where
  outcome := if failed ≠ [] then .fail else if regressed ≠ [] then .regression else .pass
  baselineVersion := baseline.subjectVersion
  candidateVersion := candidate.subjectVersion
  benchmark := some candidate.benchmark
  invalidReason := none
  failedMetrics := failed
  regressedMetrics := regressed
  decisionId := decisionId

def EvaluationSubjectResult.authorized (subject : EvaluationSubjectResult) : Bool :=
  subject.learningAuthorizationDecision.outcome == .allow &&
    subject.learningAuthorizationDecision.tenantId == subject.tenantId

def evaluateCandidate (baseline candidate : EvaluationSubjectResult)
    (thresholds : List MetricThreshold) (crossTenantPolicy : Option CrossTenantLearningPolicy)
    (decisionId : Uuid) : EvaluationComparison :=
  if !baseline.authorized || !candidate.authorized then
    .invalid baseline candidate .learningAuthorizationNotPassed none decisionId
  else if baseline.benchmark ≠ candidate.benchmark then
    .invalid baseline candidate .benchmarkMismatch none decisionId
  else if baseline.tenantId ≠ candidate.tenantId ∧
      approvedBy crossTenantPolicy baseline.tenantId candidate.tenantId
        candidate.learningAuthorizationDecision.purpose = false then
    .invalid baseline candidate .crossTenantNotAuthorized (some candidate.benchmark) decisionId
  else match judgeThresholds baseline.metrics candidate.metrics thresholds with
    | none =>
      .invalid baseline candidate .missingRequiredMetric (some candidate.benchmark) decisionId
    | some (failed, regressed) => conclusive baseline candidate failed regressed decisionId

/-- The comparison that `run_evaluation` records. -/
def decideEvaluation (log : List AuditEntry) (baseline candidate : EvaluationSubjectResult)
    (thresholds : List MetricThreshold) (crossTenantPolicy : Option CrossTenantLearningPolicy)
    (decisionId : Uuid) : EvaluationComparison :=
  let comparison := evaluateCandidate baseline candidate thresholds crossTenantPolicy decisionId
  if comparison.invalidReason.isNone && !([baseline, candidate].all fun subject =>
      verifyLearningAuthorizationProvenance log subject.learningAuthorizationDecision
        subject.tenantId) then
    .invalid baseline candidate .learningAuthorizationNotPassed none decisionId
  else comparison

/-- `_AUDIT_OUTCOME_BY_EVALUATION_OUTCOME`. -/
def EvaluationOutcome.auditOutcome : EvaluationOutcome → AuditOutcome
  | pass => .success
  | fail => .failure
  | regression => .failure
  | invalid => .denied

/-- The audit row that `run_evaluation` records. -/
def evaluationEntry (tenantId : Uuid) (comparison : EvaluationComparison) (actorUserId : Uuid)
    (correlationId : Option String) : AuditEntry where
  tenantId := tenantId
  actorUserId := actorUserId
  action := "learning.evaluation_run"
  resourceType := "learning_evaluation"
  resourceId := comparison.decisionId
  outcome := comparison.outcome.auditOutcome
  correlationId := correlationId
  metadata := [("baseline_version", .text comparison.baselineVersion),
    ("candidate_version", .text comparison.candidateVersion),
    ("evaluation_outcome", .text comparison.outcome.value),
    ("decision_id", .reference comparison.decisionId)] ++
      (comparison.benchmark.toList.flatMap fun benchmark =>
        [("benchmark_id", .text benchmark.benchmarkId),
          ("benchmark_version", .text benchmark.version)]) ++
      (comparison.invalidReason.toList.map fun reason => ("invalid_reason", .text reason.value)) ++
      (if comparison.failedMetrics = [] then []
        else [("failed_metrics", .names comparison.failedMetrics)]) ++
      if comparison.regressedMetrics = [] then []
        else [("regressed_metrics", .names comparison.regressedMetrics)]

def verifyEvaluationProvenance (log : List AuditEntry) (comparison : EvaluationComparison)
    (tenantId : Uuid) : Bool :=
  isAudited log tenantId "learning_evaluation" comparison.decisionId "learning.evaluation_run"
    comparison.outcome.auditOutcome

end SaasOs.SelfLearning
