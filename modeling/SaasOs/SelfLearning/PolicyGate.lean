import SaasOs.SelfLearning.Decisions
import SaasOs.Approvals.Requests

/-!
# The policy gate

The policy gate composes the decisions before it: it allows an action at an autonomy tier when the
learning authorization allows, the evaluation passed, and the tier's own evidence is there.
-/

namespace SaasOs.SelfLearning

open SaasOs.Approvals (ApprovalRequest)

def validAutonomyTiers : Finset ℤ := {0, 1, 2, 3}

def validPolicyGateActions : Finset String := {"activate_adaptation", "promote_experiment"}

inductive PolicyGateDenialReason
  | missingTenant | unknownAction | unknownAutonomyTier | tier3NotEnabled | missingScope
  | scopeMismatch | learningAuthorizationNotAllowed | crossTenantNotAuthorized
  | evaluationNotPassed | missingRequiredApproval | approvalNotApproved | selfApprovalNotAllowed
  | actorMismatch | tier2EvidenceMissing | actionNotTier2Eligible
  deriving DecidableEq

def PolicyGateDenialReason.value : PolicyGateDenialReason → String
  | missingTenant => "missing_tenant"
  | unknownAction => "unknown_action"
  | unknownAutonomyTier => "unknown_autonomy_tier"
  | tier3NotEnabled => "tier_3_not_enabled"
  | missingScope => "missing_scope"
  | scopeMismatch => "scope_mismatch"
  | learningAuthorizationNotAllowed => "learning_authorization_not_allowed"
  | crossTenantNotAuthorized => "cross_tenant_not_authorized"
  | evaluationNotPassed => "evaluation_not_passed"
  | missingRequiredApproval => "missing_required_approval"
  | approvalNotApproved => "approval_not_approved"
  | selfApprovalNotAllowed => "self_approval_not_allowed"
  | actorMismatch => "actor_mismatch"
  | tier2EvidenceMissing => "tier2_evidence_missing"
  | actionNotTier2Eligible => "action_not_tier2_eligible"

structure PolicyGateScope where
  authorized : Finset String
  requested : Finset String

/-- `Tier2PromotionEvidence`; the gate asks only whether it is there. -/
structure Tier2PromotionEvidence where
  adrReference : String
  reliabilitySummary : String

structure PolicyGateRequest where
  tenantId : Option Uuid
  actorUserId : Uuid
  requestedAction : String
  requestedAutonomyTier : ℤ
  scope : Option PolicyGateScope
  learningAuthorizationDecision : Option LearningAuthorizationDecision
  evaluationComparison : Option EvaluationComparison
  approval : Option ApprovalRequest
  tier2PromotionEvidence : Option Tier2PromotionEvidence
  tier2EligibleActions : Finset String

/-- The fields of a `PolicyGateDecision`. -/
structure PolicyGateDecision where
  outcome : GateOutcome
  tenantId : Option Uuid
  requestedAction : String
  requestedAutonomyTier : ℤ
  reason : Option PolicyGateDenialReason
  decisionId : Uuid
  deriving DecidableEq

namespace PolicyGateDecision

def isAllowed (decision : PolicyGateDecision) : Bool := decision.outcome == .allow

/-- What the constructor accepts, `__post_init__`. -/
def Constructible (decision : PolicyGateDecision) : Prop :=
  (decision.outcome = .allow → decision.reason = none) ∧
    (decision.outcome = .deny → decision.reason ≠ none) ∧
    (decision.outcome = .allow → decision.tenantId ≠ none ∧
      decision.requestedAutonomyTier ∈ validAutonomyTiers ∧ decision.requestedAutonomyTier ≠ 3 ∧
      decision.requestedAction ∈ validPolicyGateActions)

instance (decision : PolicyGateDecision) : Decidable decision.Constructible :=
  inferInstanceAs (Decidable (_ ∧ _ ∧ _))

/-- `_deny`. -/
def denied (request : PolicyGateRequest) (reason : PolicyGateDenialReason) (decisionId : Uuid) :
    PolicyGateDecision :=
  ⟨.deny, request.tenantId, request.requestedAction, request.requestedAutonomyTier, some reason,
    decisionId⟩

/-- `_allow`. -/
def allowed (request : PolicyGateRequest) (decisionId : Uuid) : PolicyGateDecision :=
  ⟨.allow, request.tenantId, request.requestedAction, request.requestedAutonomyTier, none,
    decisionId⟩

end PolicyGateDecision

def checkApproval (request : PolicyGateRequest) : Option PolicyGateDenialReason :=
  match request.approval with
  | none => some .missingRequiredApproval
  | some approval =>
    if request.tenantId ≠ some approval.tenantId then some .crossTenantNotAuthorized
    else if approval.status ≠ .approved then some .approvalNotApproved
    else if approval.approverUserId = none ∨
        approval.approverUserId = some approval.proposerUserId then some .selfApprovalNotAllowed
    else if approval.proposerUserId ≠ request.actorUserId then some .actorMismatch
    else none

def checkPromotionEvidence (request : PolicyGateRequest) : Option PolicyGateDenialReason :=
  if request.tier2PromotionEvidence.isNone then some .tier2EvidenceMissing
  else if request.requestedAction ∉ request.tier2EligibleActions then
    some .actionNotTier2Eligible
  else none

def checkScope (request : PolicyGateRequest) : Option PolicyGateDenialReason :=
  match request.scope with
  | none => some .missingScope
  | some scope =>
    if scope.authorized = ∅ ∨ scope.requested = ∅ then some .missingScope
    else if ¬ scope.requested ⊆ scope.authorized then some .scopeMismatch
    else none

def checkUpstream (request : PolicyGateRequest) : Option PolicyGateDenialReason :=
  match request.learningAuthorizationDecision with
  | none => some .learningAuthorizationNotAllowed
  | some decision =>
    if request.tenantId ≠ some decision.tenantId then some .crossTenantNotAuthorized
    else if decision.outcome ≠ .allow then some .learningAuthorizationNotAllowed
    else if request.evaluationComparison.all fun comparison => comparison.outcome ≠ .pass then
      some .evaluationNotPassed
    else none

/-- Why `evaluate_policy_gate` denies the request, if it does. -/
def policyGateRefusal (request : PolicyGateRequest) : Option PolicyGateDenialReason :=
  if request.tenantId.isNone then some .missingTenant
  else if request.requestedAction ∉ validPolicyGateActions then some .unknownAction
  else if request.requestedAutonomyTier ∉ validAutonomyTiers then some .unknownAutonomyTier
  else if request.requestedAutonomyTier = 3 then some .tier3NotEnabled
  else match checkScope request with
    | some reason => some reason
    | none => match checkUpstream request with
      | some reason => some reason
      | none =>
        if request.requestedAutonomyTier = 0 then none
        else if request.requestedAutonomyTier = 1 then checkApproval request
        else checkPromotionEvidence request

def evaluatePolicyGate (request : PolicyGateRequest) (decisionId : Uuid) : PolicyGateDecision :=
  match policyGateRefusal request with
  | some reason => .denied request reason decisionId
  | none => .allowed request decisionId

/-- `_approval_is_stored_as_given`, where `stored` is the tenant's stored request of that id. -/
def approvalIsStoredAsGiven (stored : Option ApprovalRequest) (approval : ApprovalRequest) : Bool :=
  stored.any fun row => row.status == .approved && row.proposerUserId == approval.proposerUserId &&
    row.approverUserId == approval.approverUserId

/-- Why an allowing decision is denied after all: an input was not audited or is not stored as it
was given. -/
def unverifiedInput (log : List AuditEntry) (approvals : Uuid → Uuid → Option ApprovalRequest)
    (request : PolicyGateRequest) (tenantId : Uuid) : Option PolicyGateDenialReason :=
  if request.learningAuthorizationDecision.any fun decision =>
      !verifyLearningAuthorizationProvenance log decision tenantId then
    some .learningAuthorizationNotAllowed
  else if request.evaluationComparison.any fun comparison =>
      !verifyEvaluationProvenance log comparison tenantId then some .evaluationNotPassed
  else if request.requestedAutonomyTier = 1 ∧ request.approval.any fun approval =>
      !approvalIsStoredAsGiven (approvals tenantId approval.id) approval then
    some .approvalNotApproved
  else none

/-- The decision that `evaluate_and_record_policy_gate_decision` returns. -/
def decidePolicyGate (log : List AuditEntry) (approvals : Uuid → Uuid → Option ApprovalRequest)
    (request : PolicyGateRequest) (decisionId : Uuid) : PolicyGateDecision :=
  let decision := evaluatePolicyGate request decisionId
  match request.tenantId with
  | none => decision
  | some tenantId =>
    if decision.isAllowed then
      match unverifiedInput log approvals request tenantId with
      | some reason => .denied request reason decisionId
      | none => decision
    else decision

/-- The audit row that `evaluate_and_record_policy_gate_decision` records for a tenant. -/
def policyGateEntry (tenantId : Uuid) (request : PolicyGateRequest) (decision : PolicyGateDecision)
    (correlationId : Option String) : AuditEntry where
  tenantId := tenantId
  actorUserId := request.actorUserId
  action := "learning.policy_gate_decision"
  resourceType := "self_learning_policy_gate_decision"
  resourceId := decision.decisionId
  outcome := if decision.isAllowed then .success else .denied
  correlationId := correlationId
  metadata := [("requested_action", .text decision.requestedAction),
    ("requested_autonomy_tier", .number decision.requestedAutonomyTier)] ++
      decision.reason.toList.map fun reason => ("reason", .text reason.value)

def verifyPolicyGateProvenance (log : List AuditEntry) (decision : PolicyGateDecision)
    (tenantId : Uuid) : Bool :=
  decision.outcome == .allow && decision.tenantId == some tenantId &&
    isAudited log tenantId "self_learning_policy_gate_decision" decision.decisionId
      "learning.policy_gate_decision" .success

end SaasOs.SelfLearning
