import SaasOs.SelfLearning.PolicyGate
import SaasOs.Foundation.Run

/-!
# What the verification functions accept

A run is a sequence of calls of the four issuing functions on one audit log.  Each call draws the
UUID of its decision and writes one row, and a verification function accepts a presented decision
exactly when a call of the run issued a decision with the same id, for the tenant it is presented
for, and with an outcome of the same kind.  The other fields of the presented object are compared
with nothing: an object that carries a genuine id and other fields is accepted, so that no object is
judged by what was issued unless it presents the fields of the decision behind its id.
-/

namespace SaasOs.SelfLearning

open SaasOs.Approvals (ApprovalRequest)

/-! ## Issuing calls -/

/-- A call of one of the four issuing functions, with the id that its decision draws. -/
inductive IssuingCall
  | authorizeDataAccess (request : DataAuthorizationRequest)
      (tenantPolicy : Option TenantAIDataPolicy) (providerPolicy : ProviderEligibilityPolicy)
      (actorUserId : Uuid) (correlationId : Option String) (decisionId : Uuid)
  | authorizeLearningUse (request : LearningAuthorizationRequest)
      (dataDecision : DataAuthorizationDecision) (tenantPolicy : Option TenantLearningPolicy)
      (crossTenantPolicy : Option CrossTenantLearningPolicy) (actorUserId : Uuid)
      (correlationId : Option String) (decisionId : Uuid)
  | runEvaluation (baseline candidate : EvaluationSubjectResult)
      (thresholds : List MetricThreshold) (crossTenantPolicy : Option CrossTenantLearningPolicy)
      (actorUserId : Uuid) (correlationId : Option String) (decisionId : Uuid)
  | evaluateAndRecordPolicyGateDecision (request : PolicyGateRequest)
      (approvals : Uuid → Uuid → Option ApprovalRequest) (correlationId : Option String)
      (decisionId : Uuid)

inductive DecisionKind
  | data | learning | evaluation | policyGate

def DecisionKind.resourceType : DecisionKind → String
  | data => "ai_data_authorization"
  | learning => "learning_authorization"
  | evaluation => "learning_evaluation"
  | policyGate => "self_learning_policy_gate_decision"

lemma DecisionKind.resourceType_inj {kind kind' : DecisionKind}
    (h : kind.resourceType = kind'.resourceType) : kind = kind' := by
  cases kind <;> cases kind' <;> first | rfl | exact absurd h (by decide)

/-- The same id, outcome, classification, purpose and provider. -/
def DataAuthorizationDecision.SameAuthority (decision other : DataAuthorizationDecision) : Prop :=
  decision.decisionId = other.decisionId ∧ decision.outcome = other.outcome ∧
    decision.dataClassification = other.dataClassification ∧ decision.purpose = other.purpose ∧
    decision.provider = other.provider

/-- The same id, outcome and purpose. -/
def LearningAuthorizationDecision.SameAuthority (decision other : LearningAuthorizationDecision) :
    Prop :=
  decision.decisionId = other.decisionId ∧ decision.outcome = other.outcome ∧
    decision.purpose = other.purpose

/-- The same id, outcome, baseline version and candidate version. -/
def EvaluationComparison.SameAuthority (comparison other : EvaluationComparison) : Prop :=
  comparison.decisionId = other.decisionId ∧ comparison.outcome = other.outcome ∧
    comparison.baselineVersion = other.baselineVersion ∧
    comparison.candidateVersion = other.candidateVersion

/-- The same id, outcome, requested action and autonomy tier. -/
def PolicyGateDecision.SameAuthority (decision other : PolicyGateDecision) : Prop :=
  decision.decisionId = other.decisionId ∧ decision.outcome = other.outcome ∧
    decision.requestedAction = other.requestedAction ∧
    decision.requestedAutonomyTier = other.requestedAutonomyTier

/-- A decision of one of the four kinds. -/
inductive Decision
  | data (decision : DataAuthorizationDecision)
  | learning (decision : LearningAuthorizationDecision)
  | evaluation (comparison : EvaluationComparison)
  | policyGate (decision : PolicyGateDecision)
  deriving DecidableEq

namespace Decision

def kind : Decision → DecisionKind
  | data _ => .data
  | learning _ => .learning
  | evaluation _ => .evaluation
  | policyGate _ => .policyGate

/-- The `decision_id` of a decision. -/
def id : Decision → Uuid
  | data decision => decision.decisionId
  | learning decision => decision.decisionId
  | evaluation comparison => comparison.decisionId
  | policyGate decision => decision.decisionId

def auditAction : Decision → String
  | data decision => if decision.isAllowed then "ai_control_plane.data_access_approved"
    else "ai_control_plane.data_access_denied"
  | learning decision => if decision.isAllowed then "learning.data_access_approved"
    else "learning.data_access_denied"
  | evaluation _ => "learning.evaluation_run"
  | policyGate _ => "learning.policy_gate_decision"

def auditOutcome : Decision → AuditOutcome
  | data decision => if decision.isAllowed then .success else .denied
  | learning decision => if decision.isAllowed then .success else .denied
  | evaluation comparison => comparison.outcome.auditOutcome
  | policyGate decision => if decision.isAllowed then .success else .denied

end Decision

namespace IssuingCall

def tenantId : IssuingCall → Option Uuid
  | authorizeDataAccess request _ _ _ _ _ => some request.tenantId
  | authorizeLearningUse request _ _ _ _ _ _ => some request.tenantId
  | runEvaluation _ candidate _ _ _ _ _ => some candidate.tenantId
  | evaluateAndRecordPolicyGateDecision request _ _ _ => request.tenantId

def decisionId : IssuingCall → Uuid
  | authorizeDataAccess _ _ _ _ _ decisionId => decisionId
  | authorizeLearningUse _ _ _ _ _ _ decisionId => decisionId
  | runEvaluation _ _ _ _ _ _ decisionId => decisionId
  | evaluateAndRecordPolicyGateDecision _ _ _ decisionId => decisionId

def kind : IssuingCall → DecisionKind
  | authorizeDataAccess .. => .data
  | authorizeLearningUse .. => .learning
  | runEvaluation .. => .evaluation
  | evaluateAndRecordPolicyGateDecision .. => .policyGate

def decide (log : List AuditEntry) : IssuingCall → Decision
  | authorizeDataAccess request tenantPolicy providerPolicy _ _ decisionId =>
    .data (evaluateDataAuthorization request tenantPolicy providerPolicy decisionId)
  | authorizeLearningUse request dataDecision tenantPolicy crossTenantPolicy _ _ decisionId =>
    .learning (decideLearningUse log request dataDecision tenantPolicy crossTenantPolicy decisionId)
  | runEvaluation baseline candidate thresholds crossTenantPolicy _ _ decisionId =>
    .evaluation (decideEvaluation log baseline candidate thresholds crossTenantPolicy decisionId)
  | evaluateAndRecordPolicyGateDecision request approvals _ decisionId =>
    .policyGate (decidePolicyGate log approvals request decisionId)

/-- The row that the call records for its decision; a policy gate request without a tenant leaves
none. -/
def entry? (log : List AuditEntry) : IssuingCall → Option AuditEntry
  | authorizeDataAccess request tenantPolicy providerPolicy actorUserId correlationId decisionId =>
    some (dataAuthorizationEntry request.tenantId
      (evaluateDataAuthorization request tenantPolicy providerPolicy decisionId) actorUserId
      correlationId)
  | authorizeLearningUse request dataDecision tenantPolicy crossTenantPolicy actorUserId
      correlationId decisionId =>
    some (learningAuthorizationEntry request (decideLearningUse log request dataDecision
      tenantPolicy crossTenantPolicy decisionId) actorUserId correlationId)
  | runEvaluation baseline candidate thresholds crossTenantPolicy actorUserId correlationId
      decisionId =>
    some (evaluationEntry candidate.tenantId (decideEvaluation log baseline candidate thresholds
      crossTenantPolicy decisionId) actorUserId correlationId)
  | evaluateAndRecordPolicyGateDecision request approvals correlationId decisionId =>
    request.tenantId.map fun tenantId => policyGateEntry tenantId request
      (decidePolicyGate log approvals request decisionId) correlationId

end IssuingCall

/-- The log after a call: its row is there when `record` admits it, and otherwise the call raises.
-/
def issue (admits : AuditEntry → Bool) (log : List AuditEntry) (call : IssuingCall) :
    List AuditEntry :=
  log ++ ((call.entry? log).filter admits).toList

def Returns (admits : AuditEntry → Bool) (log : List AuditEntry) (call : IssuingCall)
    (decision : Decision) : Prop :=
  call.decide log = decision ∧ ∀ entry ∈ call.entry? log, admits entry = true

def Issued (admits : AuditEntry → Bool) (log : List AuditEntry) (calls : List IssuingCall)
    (tenantId : Uuid) (decision : Decision) : Prop :=
  ∃ before call after, calls = before ++ call :: after ∧ call.tenantId = some tenantId ∧
    Returns admits (Run.run (issue admits) log before) call decision

/-- No decision has been recorded yet. -/
def NoDecisions (log : List AuditEntry) : Prop :=
  ∀ entry ∈ log, ∀ kind : DecisionKind, entry.resourceType ≠ kind.resourceType

/-- The call draws an id that no row of its resource type carries, as `uuid4` does. -/
def DrawsFresh (log : List AuditEntry) (call : IssuingCall) : Prop :=
  ∀ entry ∈ log, entry.resourceType = call.kind.resourceType → entry.resourceId ≠ call.decisionId

instance (log : List AuditEntry) (call : IssuingCall) : Decidable (DrawsFresh log call) :=
  inferInstanceAs (Decidable (∀ entry ∈ log, _ → _))

/-! ## Rows and decisions -/

@[simp] lemma decisionId_evaluateDataAuthorization (request : DataAuthorizationRequest)
    (tenantPolicy : Option TenantAIDataPolicy) (providerPolicy : ProviderEligibilityPolicy)
    (decisionId : Uuid) :
    (evaluateDataAuthorization request tenantPolicy providerPolicy decisionId).decisionId =
      decisionId := by
  unfold evaluateDataAuthorization
  dsimp only
  split
  · rfl
  · cases tenantPolicy with
    | none => rfl
    | some tenantPolicy =>
      dsimp only
      split_ifs <;> rfl

variable (request : LearningAuthorizationRequest)

@[simp] lemma decisionId_evaluateLearningAuthorization (dataDecision : DataAuthorizationDecision)
    (tenantPolicy : Option TenantLearningPolicy)
    (crossTenantPolicy : Option CrossTenantLearningPolicy) (decisionId : Uuid) :
    (evaluateLearningAuthorization request dataDecision tenantPolicy crossTenantPolicy
      decisionId).decisionId = decisionId := by
  unfold evaluateLearningAuthorization
  dsimp only
  split_ifs <;> try rfl
  cases tenantPolicy with
  | none => rfl
  | some tenantPolicy =>
    dsimp only
    split_ifs <;> rfl

variable (log : List AuditEntry)

@[simp] lemma decisionId_decideLearningUse (dataDecision : DataAuthorizationDecision)
    (tenantPolicy : Option TenantLearningPolicy)
    (crossTenantPolicy : Option CrossTenantLearningPolicy) (decisionId : Uuid) :
    (decideLearningUse log request dataDecision tenantPolicy crossTenantPolicy
      decisionId).decisionId = decisionId := by
  unfold decideLearningUse
  dsimp only
  split
  · rfl
  · exact decisionId_evaluateLearningAuthorization ..

section

variable (baseline candidate : EvaluationSubjectResult) (thresholds : List MetricThreshold)
  (crossTenantPolicy : Option CrossTenantLearningPolicy) (decisionId : Uuid)

include baseline candidate thresholds crossTenantPolicy decisionId

@[simp] lemma decisionId_evaluateCandidate :
    (evaluateCandidate baseline candidate thresholds crossTenantPolicy decisionId).decisionId =
      decisionId := by
  unfold evaluateCandidate
  split_ifs <;> try rfl
  split <;> rfl

@[simp] lemma decisionId_decideEvaluation :
    (decideEvaluation log baseline candidate thresholds crossTenantPolicy decisionId).decisionId =
      decisionId := by
  unfold decideEvaluation
  dsimp only
  split
  · rfl
  · exact decisionId_evaluateCandidate ..

end

@[simp] lemma decisionId_evaluatePolicyGate (request : PolicyGateRequest) (decisionId : Uuid) :
    (evaluatePolicyGate request decisionId).decisionId = decisionId := by
  unfold evaluatePolicyGate
  split <;> rfl

variable (approvals : Uuid → Uuid → Option ApprovalRequest)

@[simp] lemma decisionId_decidePolicyGate (request : PolicyGateRequest) (decisionId : Uuid) :
    (decidePolicyGate log approvals request decisionId).decisionId = decisionId := by
  unfold decidePolicyGate
  dsimp only
  cases request.tenantId with
  | none => exact decisionId_evaluatePolicyGate ..
  | some tenantId =>
    dsimp only
    split_ifs
    · split
      · rfl
      · exact decisionId_evaluatePolicyGate ..
    · exact decisionId_evaluatePolicyGate ..

lemma IssuingCall.decide_spec (call : IssuingCall) (log : List AuditEntry) :
    (call.decide log).kind = call.kind ∧ (call.decide log).id = call.decisionId := by
  cases call with
  | authorizeDataAccess => exact ⟨rfl, decisionId_evaluateDataAuthorization ..⟩
  | authorizeLearningUse => exact ⟨rfl, decisionId_decideLearningUse ..⟩
  | runEvaluation => exact ⟨rfl, decisionId_decideEvaluation ..⟩
  | evaluateAndRecordPolicyGateDecision => exact ⟨rfl, decisionId_decidePolicyGate ..⟩

variable {call : IssuingCall} {entry : AuditEntry}

lemma IssuingCall.entry_spec {log : List AuditEntry} (h : call.entry? log = some entry) :
    call.tenantId = some entry.tenantId ∧ entry.resourceType = call.kind.resourceType ∧
      entry.resourceId = call.decisionId ∧ entry.action = (call.decide log).auditAction ∧
      entry.outcome = (call.decide log).auditOutcome := by
  cases call with
  | authorizeDataAccess request tenantPolicy providerPolicy actorUserId correlationId decisionId =>
    obtain rfl := Option.some.inj h
    exact ⟨rfl, rfl, decisionId_evaluateDataAuthorization .., rfl, rfl⟩
  | authorizeLearningUse request dataDecision tenantPolicy crossTenantPolicy actorUserId
      correlationId decisionId =>
    obtain rfl := Option.some.inj h
    exact ⟨rfl, rfl, decisionId_decideLearningUse .., rfl, rfl⟩
  | runEvaluation baseline candidate thresholds crossTenantPolicy actorUserId correlationId
      decisionId =>
    obtain rfl := Option.some.inj h
    exact ⟨rfl, rfl, decisionId_decideEvaluation .., rfl, rfl⟩
  | evaluateAndRecordPolicyGateDecision request approvals correlationId decisionId =>
    obtain ⟨tenantId, htenant, rfl⟩ := Option.map_eq_some_iff.mp h
    exact ⟨htenant, rfl, decisionId_decidePolicyGate .., rfl, rfl⟩

lemma IssuingCall.exists_entry {tenantId : Uuid} (h : call.tenantId = some tenantId)
    (log : List AuditEntry) :
    ∃ entry, call.entry? log = some entry := by
  cases call with
  | authorizeDataAccess => exact ⟨_, rfl⟩
  | authorizeLearningUse => exact ⟨_, rfl⟩
  | runEvaluation => exact ⟨_, rfl⟩
  | evaluateAndRecordPolicyGateDecision => exact ⟨_, Option.map_eq_some_iff.mpr ⟨tenantId, h, rfl⟩⟩

/-! ## The log of a run -/

def DistinctIds (log : List AuditEntry) : Prop :=
  ∀ (kind : DecisionKind) (id : Uuid), (log.filter fun entry =>
    entry.resourceType == kind.resourceType && entry.resourceId == id).length ≤ 1

lemma NoDecisions.distinctIds {log : List AuditEntry} (h : NoDecisions log) : DistinctIds log := by
  intro kind id
  have hnone : (log.filter fun entry =>
      entry.resourceType == kind.resourceType && entry.resourceId == id) = [] := by
    refine List.filter_eq_nil_iff.mpr fun entry hentry => ?_
    simp [h entry hentry kind]
  rw [hnone]
  exact Nat.zero_le 1

lemma DistinctIds.issue {admits : AuditEntry → Bool} {log : List AuditEntry} {call : IssuingCall}
    (h : DistinctIds log) (hfresh : DrawsFresh log call) :
    DistinctIds (issue admits log call) := by
  intro kind id
  unfold SelfLearning.issue
  cases hentry : (call.entry? log).filter admits with
  | none =>
    rw [Option.toList_none, List.append_nil]
    exact h kind id
  | some entry =>
    obtain ⟨-, htype, hid, -⟩ := IssuingCall.entry_spec (Option.filter_eq_some_iff.mp hentry).1
    rw [Option.toList_some, List.filter_append, List.length_append]
    by_cases hmatch : entry.resourceType = kind.resourceType ∧ entry.resourceId = id
    · have hnone : (log.filter fun entry =>
          entry.resourceType == kind.resourceType && entry.resourceId == id) = [] := by
        refine List.filter_eq_nil_iff.mpr fun row hrow => ?_
        simp only [Bool.and_eq_true, beq_iff_eq, not_and]
        intro hrowType
        rw [← hmatch.2, hid]
        exact hfresh row hrow (hrowType.trans (hmatch.1.symm.trans htype))
      rw [hnone, List.length_nil, zero_add]
      exact List.length_filter_le _ _
    · have hnone : ([entry].filter fun entry =>
          entry.resourceType == kind.resourceType && entry.resourceId == id) = [] := by
        refine List.filter_eq_nil_iff.mpr fun row hrow => ?_
        rw [List.mem_singleton.mp hrow]
        simpa only [Bool.and_eq_true, beq_iff_eq] using hmatch
      rw [hnone, List.length_nil, add_zero]
      exact h kind id

variable {admits : AuditEntry → Bool}

lemma mem_issue {log : List AuditEntry} :
    entry ∈ issue admits log call ↔
      entry ∈ log ∨ admits entry = true ∧ call.entry? log = some entry := by
  unfold issue
  rw [List.mem_append, Option.mem_toList, Option.filter_eq_some_iff, and_comm (b := admits entry = _)]

lemma mem_run_issue {log : List AuditEntry} {calls : List IssuingCall} :
    entry ∈ Run.run (issue admits) log calls ↔ entry ∈ log ∨
      ∃ before call after, calls = before ++ call :: after ∧ admits entry = true ∧
        call.entry? (Run.run (issue admits) log before) = some entry := by
  induction calls using List.reverseRecOn with
  | nil => simp
  | append_singleton calls last ih =>
    rw [Run.run_append, Run.run_cons, Run.run_nil]
    rw [mem_issue, ih, or_assoc]
    refine or_congr_right ?_
    constructor
    · rintro (⟨before, call, after, rfl, hentry⟩ | hentry)
      · exact ⟨before, call, after ++ [last], by simp, hentry⟩
      · exact ⟨calls, last, [], rfl, hentry⟩
    · rintro ⟨before, call, after, hsplit, hentry⟩
      rcases List.eq_nil_or_concat after with rfl | ⟨after, other, rfl⟩
      · obtain ⟨rfl, hcall⟩ := List.append_inj' hsplit rfl
        obtain rfl := List.singleton_inj.mp hcall
        exact Or.inr hentry
      · have hsplit' : calls ++ [last] = (before ++ call :: after) ++ [other] := by simpa using hsplit
        obtain ⟨rfl, -⟩ := List.append_inj' hsplit' rfl
        exact Or.inl ⟨before, call, after, rfl, hentry⟩

lemma isAudited_iff {log : List AuditEntry} (h : DistinctIds log) (kind : DecisionKind)
    {tenantId decisionId : Uuid} {action : String} {outcome : AuditOutcome} :
    isAudited log tenantId kind.resourceType decisionId action outcome = true ↔
      ∃ entry ∈ log, entry.tenantId = tenantId ∧ entry.resourceType = kind.resourceType ∧
        entry.resourceId = decisionId ∧ entry.action = action ∧ entry.outcome = outcome := by
  have hlength : (log.reverse.filter fun entry => entry.tenantId == tenantId &&
      entry.resourceType == kind.resourceType && entry.resourceId == decisionId).length ≤ 25 := by
    refine le_trans ?_ (show 1 ≤ 25 by decide)
    rw [List.filter_reverse, List.length_reverse]
    refine le_trans (List.Sublist.length_le (List.monotone_filter_right log ?_)) (h kind decisionId)
    intro entry hentry
    simp only [Bool.and_eq_true] at hentry ⊢
    exact ⟨hentry.1.2, hentry.2⟩
  unfold isAudited listAuditEvents
  rw [List.take_of_length_le hlength]
  simp only [List.any_eq_true, List.mem_filter, List.mem_reverse, Bool.and_eq_true, beq_iff_eq]
  constructor
  · rintro ⟨entry, ⟨hmem, ⟨htenant, htype⟩, hid⟩, haction, houtcome⟩
    exact ⟨entry, hmem, htenant, htype, hid, haction, houtcome⟩
  · rintro ⟨entry, hmem, htenant, htype, hid, haction, houtcome⟩
    exact ⟨entry, ⟨hmem, ⟨htenant, htype⟩, hid⟩, haction, houtcome⟩

/-! ## Acceptance -/

section Acceptance

variable {admits : AuditEntry → Bool} {log : List AuditEntry} {calls : List IssuingCall}

lemma isAudited_run_iff (hstart : NoDecisions log)
    (hfresh : Run.Along (issue admits) DrawsFresh log calls) (kind : DecisionKind)
    {tenantId decisionId : Uuid} {action : String} {outcome : AuditOutcome} :
    isAudited (Run.run (issue admits) log calls) tenantId kind.resourceType decisionId action
        outcome = true ↔
      ∃ genuine, Issued admits log calls tenantId genuine ∧ genuine.kind = kind ∧
        genuine.id = decisionId ∧ genuine.auditAction = action ∧
        genuine.auditOutcome = outcome := by
  have hdistinct : DistinctIds (Run.run (issue admits) log calls) :=
    Run.run_of_along (fun _ _ h hcall => h.issue hcall) hstart.distinctIds hfresh
  rw [isAudited_iff hdistinct]
  constructor
  · rintro ⟨entry, hmem, rfl, htype, rfl, rfl, rfl⟩
    rcases mem_run_issue.mp hmem with hold | ⟨before, call, after, hsplit, hadmits, hentry⟩
    · exact absurd htype (hstart entry hold kind)
    · obtain ⟨htenant, hkind, hid, haction, houtcome⟩ := IssuingCall.entry_spec hentry
      obtain ⟨hdecideKind, hdecideId⟩ := call.decide_spec (Run.run (issue admits) log before)
      refine ⟨_, ⟨before, call, after, hsplit, htenant, rfl, ?_⟩, hdecideKind.trans ?_,
        hdecideId.trans hid.symm, haction.symm, houtcome.symm⟩
      · rintro other hother
        obtain rfl := Option.some.inj (hentry.symm.trans hother)
        exact hadmits
      · exact DecisionKind.resourceType_inj (hkind.symm.trans htype)
  · rintro ⟨genuine, ⟨before, call, after, hsplit, htenant, rfl, hadmits⟩, rfl, rfl, rfl, rfl⟩
    obtain ⟨entry, hentry⟩ := IssuingCall.exists_entry htenant (Run.run (issue admits) log before)
    obtain ⟨htenant', hkind, hid, haction, houtcome⟩ := IssuingCall.entry_spec hentry
    obtain ⟨hdecideKind, hdecideId⟩ := call.decide_spec (Run.run (issue admits) log before)
    refine ⟨entry, mem_run_issue.mpr (Or.inr ⟨before, call, after, hsplit, hadmits _ hentry, hentry⟩),
      Option.some.inj (htenant'.symm.trans htenant), ?_, hid.trans hdecideId.symm, haction, houtcome⟩
    rw [hdecideKind]
    exact hkind

lemma exists_issued_iff {α : Type} {make : α → Decision} {kind : DecisionKind} {tenantId : Uuid}
    {p : Decision → Prop} {q : α → Prop} (hkind : ∀ a, (make a).kind = kind)
    (hmake : ∀ decision : Decision, decision.kind = kind → ∃ a, make a = decision)
    (hmade : ∀ a, p (make a) ↔ q a) :
    (∃ genuine, Issued admits log calls tenantId genuine ∧ genuine.kind = kind ∧ p genuine) ↔
      ∃ a, Issued admits log calls tenantId (make a) ∧ q a := by
  constructor
  · rintro ⟨genuine, hissued, hgenuine, hp⟩
    obtain ⟨a, rfl⟩ := hmake genuine hgenuine
    exact ⟨a, hissued, (hmade a).mp hp⟩
  · rintro ⟨a, hissued, ha⟩
    exact ⟨make a, hissued, hkind a, (hmade a).mpr ha⟩

/-- **What the verification functions accept.** -/
theorem accepted_iff_issued (hstart : NoDecisions log)
    (hfresh : Run.Along (issue admits) DrawsFresh log calls) (tenantId : Uuid) :
    (∀ decision : DataAuthorizationDecision,
      verifyDataAuthorizationProvenance (Run.run (issue admits) log calls) decision tenantId =
          true ↔
        decision.outcome = .allow ∧ decision.tenantId = tenantId ∧
          ∃ genuine, Issued admits log calls tenantId (.data genuine) ∧
            genuine.decisionId = decision.decisionId ∧ genuine.outcome = .allow) ∧
    (∀ decision : LearningAuthorizationDecision,
      verifyLearningAuthorizationProvenance (Run.run (issue admits) log calls) decision tenantId =
          true ↔
        decision.outcome = .allow ∧ decision.tenantId = tenantId ∧
          ∃ genuine, Issued admits log calls tenantId (.learning genuine) ∧
            genuine.decisionId = decision.decisionId ∧ genuine.outcome = .allow) ∧
    (∀ comparison : EvaluationComparison,
      verifyEvaluationProvenance (Run.run (issue admits) log calls) comparison tenantId = true ↔
        ∃ genuine, Issued admits log calls tenantId (.evaluation genuine) ∧
          genuine.decisionId = comparison.decisionId ∧
          genuine.outcome.auditOutcome = comparison.outcome.auditOutcome) ∧
    ∀ decision : PolicyGateDecision,
      verifyPolicyGateProvenance (Run.run (issue admits) log calls) decision tenantId = true ↔
        decision.outcome = .allow ∧ decision.tenantId = some tenantId ∧
          ∃ genuine, Issued admits log calls tenantId (.policyGate genuine) ∧
            genuine.decisionId = decision.decisionId ∧ genuine.outcome = .allow := by
  refine ⟨fun decision => ?_, fun decision => ?_, fun comparison => ?_, fun decision => ?_⟩
  · rw [verifyDataAuthorizationProvenance, Bool.and_eq_true, Bool.and_eq_true, beq_iff_eq, beq_iff_eq,
      and_assoc]
    refine and_congr_right fun _ => and_congr_right fun _ =>
      (isAudited_run_iff hstart hfresh .data).trans
        (exists_issued_iff (fun _ => rfl) ?_ fun genuine => ?_)
    · rintro (d | d | d | d) hkind <;> first | exact ⟨d, rfl⟩ | cases hkind
    · simp [Decision.id, Decision.auditAction, Decision.auditOutcome,
        DataAuthorizationDecision.isAllowed]
  · rw [verifyLearningAuthorizationProvenance, Bool.and_eq_true, Bool.and_eq_true, beq_iff_eq,
      beq_iff_eq, and_assoc]
    refine and_congr_right fun _ => and_congr_right fun _ =>
      (isAudited_run_iff hstart hfresh .learning).trans
        (exists_issued_iff (fun _ => rfl) ?_ fun genuine => ?_)
    · rintro (d | d | d | d) hkind <;> first | exact ⟨d, rfl⟩ | cases hkind
    · simp [Decision.id, Decision.auditAction, Decision.auditOutcome,
        LearningAuthorizationDecision.isAllowed]
  · refine (isAudited_run_iff hstart hfresh .evaluation).trans
      (exists_issued_iff (fun _ => rfl) ?_ fun genuine => ?_)
    · rintro (d | d | d | d) hkind <;> first | exact ⟨d, rfl⟩ | cases hkind
    · simp [Decision.id, Decision.auditAction, Decision.auditOutcome]
  · rw [verifyPolicyGateProvenance, Bool.and_eq_true, Bool.and_eq_true, beq_iff_eq, beq_iff_eq,
      and_assoc]
    refine and_congr_right fun _ => and_congr_right fun _ =>
      (isAudited_run_iff hstart hfresh .policyGate).trans
        (exists_issued_iff (fun _ => rfl) ?_ fun genuine => ?_)
    · rintro (d | d | d | d) hkind <;> first | exact ⟨d, rfl⟩ | cases hkind
    · simp [Decision.id, Decision.auditAction, Decision.auditOutcome, PolicyGateDecision.isAllowed]

lemma not_reissued {before between after : List IssuingCall} {first second : IssuingCall}
    {tenantId : Uuid} {decision : Decision}
    (hfresh : Run.Along (issue admits) DrawsFresh log (before ++ first :: (between ++ second :: after)))
    (htenant : first.tenantId = some tenantId)
    (hreturns : Returns admits (Run.run (issue admits) log before) first decision)
    (hkind : first.kind = second.kind) : first.decisionId ≠ second.decisionId := by
  obtain ⟨entry, hentry⟩ := IssuingCall.exists_entry htenant (Run.run (issue admits) log before)
  obtain ⟨-, htype, hid, -⟩ := IssuingCall.entry_spec hentry
  have hmem : entry ∈ Run.run (issue admits) log (before ++ first :: between) :=
    mem_run_issue.mpr (Or.inr ⟨before, first, between, rfl, hreturns.2 entry hentry, hentry⟩)
  rw [show before ++ first :: (between ++ second :: after) =
    (before ++ first :: between) ++ second :: after by simp, Run.along_append] at hfresh
  rw [← hid]
  exact hfresh.2.1 entry hmem (htype.trans (congrArg DecisionKind.resourceType hkind))

/-- An id was issued once for each kind of decision. -/
lemma Issued.unique {tenantId : Uuid} {decision other : Decision}
    (hfresh : Run.Along (issue admits) DrawsFresh log calls)
    (h : Issued admits log calls tenantId decision) (h' : Issued admits log calls tenantId other)
    (hkind : decision.kind = other.kind) (hid : decision.id = other.id) : decision = other := by
  obtain ⟨before, first, after, hsplit, htenant, hreturns⟩ := h
  obtain ⟨before', second, after', hsplit', htenant', hreturns'⟩ := h'
  have hspec := first.decide_spec (Run.run (issue admits) log before)
  have hspec' := second.decide_spec (Run.run (issue admits) log before')
  rw [hreturns.1] at hspec
  rw [hreturns'.1] at hspec'
  have hsameKind : first.kind = second.kind := hspec.1.symm.trans (hkind.trans hspec'.1)
  have hsameId : first.decisionId = second.decisionId := hspec.2.symm.trans (hid.trans hspec'.2)
  rcases List.append_eq_append_iff.mp (hsplit.symm.trans hsplit') with
    ⟨between, rfl, htail⟩ | ⟨between, rfl, htail⟩
  · cases between with
    | nil =>
      obtain ⟨rfl, -⟩ := List.cons.inj htail
      rw [← hreturns.1, ← hreturns'.1, List.append_nil]
    | cons call between =>
      obtain ⟨rfl, rfl⟩ := List.cons.inj htail
      rw [hsplit] at hfresh
      exact absurd hsameId (not_reissued hfresh htenant hreturns hsameKind)
  · cases between with
    | nil =>
      obtain ⟨rfl, -⟩ := List.cons.inj htail
      rw [← hreturns.1, ← hreturns'.1, List.append_nil]
    | cons call between =>
      obtain ⟨rfl, rfl⟩ := List.cons.inj htail
      rw [hsplit'] at hfresh
      exact absurd hsameId.symm (not_reissued hfresh htenant' hreturns' hsameKind.symm)

/-- The object is presented as it was issued: one that asks to be accepted carries the fields of
every decision issued behind its id, and no other one is the copy of an issued decision. -/
def PresentedAsIssued {α : Type} (issued : α → Prop) (asks : Prop) (behind same : α → Prop) : Prop :=
  (asks → ∀ genuine, issued genuine → behind genuine → same genuine) ∧
    (¬ asks → ∀ genuine, issued genuine → ¬ same genuine)

lemma accepted_iff_same_iff {α : Type} {issued behind same : α → Prop} {asks accepted : Prop}
    (hunique : ∀ a b, issued a → issued b → behind a → behind b → a = b)
    (hsame : ∀ a, asks → same a → behind a)
    (haccepted : accepted ↔ asks ∧ ∃ genuine, issued genuine ∧ behind genuine) :
    (accepted ↔ ∃ genuine, issued genuine ∧ same genuine) ↔
      PresentedAsIssued issued asks behind same := by
  rw [haccepted]
  constructor
  · intro h
    refine ⟨fun hasks genuine hissued hbehind => ?_, fun hasks genuine hissued hgenuine => ?_⟩
    · obtain ⟨other, hother, hsameOther⟩ := h.mp ⟨hasks, genuine, hissued, hbehind⟩
      obtain rfl := hunique genuine other hissued hother hbehind (hsame other hasks hsameOther)
      exact hsameOther
    · exact hasks (h.mpr ⟨genuine, hissued, hgenuine⟩).1
  · rintro ⟨hpresented, hother⟩
    constructor
    · rintro ⟨hasks, genuine, hissued, hbehind⟩
      exact ⟨genuine, hissued, hpresented hasks genuine hissued hbehind⟩
    · rintro ⟨genuine, hissued, hgenuine⟩
      by_cases hasks : asks
      · exact ⟨hasks, genuine, hissued, hsame genuine hasks hgenuine⟩
      · exact absurd hgenuine (hother hasks genuine hissued)

/-- **The verification functions accept exactly what was issued** when the object is presented as it
was issued. -/
theorem accepted_iff_genuine_iff (hstart : NoDecisions log)
    (hfresh : Run.Along (issue admits) DrawsFresh log calls) (tenantId : Uuid) :
    (∀ decision : DataAuthorizationDecision,
      (verifyDataAuthorizationProvenance (Run.run (issue admits) log calls) decision tenantId =
          true ↔
        ∃ genuine, Issued admits log calls tenantId (.data genuine) ∧
          genuine.SameAuthority decision) ↔
      PresentedAsIssued (fun genuine => Issued admits log calls tenantId (.data genuine))
        (decision.outcome = .allow ∧ decision.tenantId = tenantId)
        (fun genuine => genuine.decisionId = decision.decisionId ∧ genuine.outcome = .allow)
        (fun genuine => genuine.SameAuthority decision)) ∧
    (∀ decision : LearningAuthorizationDecision,
      (verifyLearningAuthorizationProvenance (Run.run (issue admits) log calls) decision tenantId =
          true ↔
        ∃ genuine, Issued admits log calls tenantId (.learning genuine) ∧
          genuine.SameAuthority decision) ↔
      PresentedAsIssued (fun genuine => Issued admits log calls tenantId (.learning genuine))
        (decision.outcome = .allow ∧ decision.tenantId = tenantId)
        (fun genuine => genuine.decisionId = decision.decisionId ∧ genuine.outcome = .allow)
        (fun genuine => genuine.SameAuthority decision)) ∧
    (∀ comparison : EvaluationComparison,
      (verifyEvaluationProvenance (Run.run (issue admits) log calls) comparison tenantId = true ↔
        ∃ genuine, Issued admits log calls tenantId (.evaluation genuine) ∧
          genuine.SameAuthority comparison) ↔
      PresentedAsIssued (fun genuine => Issued admits log calls tenantId (.evaluation genuine)) True
        (fun genuine => genuine.decisionId = comparison.decisionId ∧
          genuine.outcome.auditOutcome = comparison.outcome.auditOutcome)
        (fun genuine => genuine.SameAuthority comparison)) ∧
    ∀ decision : PolicyGateDecision,
      (verifyPolicyGateProvenance (Run.run (issue admits) log calls) decision tenantId = true ↔
        ∃ genuine, Issued admits log calls tenantId (.policyGate genuine) ∧
          genuine.SameAuthority decision) ↔
      PresentedAsIssued (fun genuine => Issued admits log calls tenantId (.policyGate genuine))
        (decision.outcome = .allow ∧ decision.tenantId = some tenantId)
        (fun genuine => genuine.decisionId = decision.decisionId ∧ genuine.outcome = .allow)
        (fun genuine => genuine.SameAuthority decision) := by
  obtain ⟨hdata, hlearning, hevaluation, hpolicyGate⟩ := accepted_iff_issued hstart hfresh tenantId
  refine ⟨fun decision => accepted_iff_same_iff ?_ ?_ ((hdata decision).trans and_assoc.symm),
    fun decision => accepted_iff_same_iff ?_ ?_ ((hlearning decision).trans and_assoc.symm),
    fun comparison => accepted_iff_same_iff ?_ ?_ ((hevaluation comparison).trans
      (and_iff_right trivial).symm),
    fun decision => accepted_iff_same_iff ?_ ?_ ((hpolicyGate decision).trans and_assoc.symm)⟩
  · intro a b ha hb hida hidb
    exact Decision.data.inj (ha.unique hfresh hb rfl (hida.1.trans hidb.1.symm))
  · exact fun a hasks hsame => ⟨hsame.1, hsame.2.1.trans hasks.1⟩
  · intro a b ha hb hida hidb
    exact Decision.learning.inj (ha.unique hfresh hb rfl (hida.1.trans hidb.1.symm))
  · exact fun a hasks hsame => ⟨hsame.1, hsame.2.1.trans hasks.1⟩
  · intro a b ha hb hida hidb
    exact Decision.evaluation.inj (ha.unique hfresh hb rfl (hida.1.trans hidb.1.symm))
  · exact fun a _ hsame => ⟨hsame.1, congrArg EvaluationOutcome.auditOutcome hsame.2.1⟩
  · intro a b ha hb hida hidb
    exact Decision.policyGate.inj (ha.unique hfresh hb rfl (hida.1.trans hidb.1.symm))
  · exact fun a hasks hsame => ⟨hsame.1, hsame.2.1.trans hasks.1⟩

end Acceptance

/-! ## A run with one decision of each kind -/

def summaryRequest : DataAuthorizationRequest := ⟨1, "tenant_data", "summaries", "acme"⟩

def summaryAccess : DataAuthorizationDecision := .allowed summaryRequest 10

def feedbackRequest : LearningAuthorizationRequest :=
  ⟨1, "summaries", "acme", "30d", ⟨"user_feedback", "ticket 7"⟩, none⟩

def feedbackUse : LearningAuthorizationDecision := .allowed feedbackRequest summaryAccess 11

def measuredVersion (version : String) : EvaluationSubjectResult where
  subjectVersion := version
  tenantId := 1
  benchmark := ⟨"summaries", "1"⟩
  metrics := ⟨none, none, none, none, none, none, none, none⟩
  learningAuthorizationDecision := feedbackUse

def secondVersionPassed : EvaluationComparison :=
  conclusive (measuredVersion "1") (measuredVersion "2") [] [] 12

def activationRequest (tier : ℤ) : PolicyGateRequest where
  tenantId := some 1
  actorUserId := 5
  requestedAction := "activate_adaptation"
  requestedAutonomyTier := tier
  scope := some ⟨{"prompt"}, {"prompt"}⟩
  learningAuthorizationDecision := some feedbackUse
  evaluationComparison := some secondVersionPassed
  approval := none
  tier2PromotionEvidence := none
  tier2EligibleActions := ∅

def oneOfEachKind : List IssuingCall :=
  [.authorizeDataAccess summaryRequest
      (some ⟨1, {"tenant_data"}, {"summaries"}, {"acme"}⟩) ⟨{"acme"}⟩ 5 none 10,
    .authorizeLearningUse feedbackRequest summaryAccess
      (some ⟨1, {"summaries"}, {"acme"}, {"30d"}⟩) none 5 none 11,
    .runEvaluation (measuredVersion "1") (measuredVersion "2") [] none 5 none 12,
    .evaluateAndRecordPolicyGateDecision (activationRequest 0) (fun _ _ => none) none 13,
    .evaluateAndRecordPolicyGateDecision (activationRequest 2) (fun _ _ => none) none 14]

lemma oneOfEachKind_drawsFresh : Run.Along (issue fun _ => true) DrawsFresh [] oneOfEachKind := by
  decide +kernel

/-- The summaries' data decision is presented as it was issued, and so accepted. -/
theorem accepted_iff_genuine_iff_summaries :
    NoDecisions [] ∧ Run.Along (issue fun _ => true) DrawsFresh [] oneOfEachKind ∧
      PresentedAsIssued
        (fun genuine => Issued (fun _ => true) [] oneOfEachKind 1 (.data genuine))
        (summaryAccess.outcome = .allow ∧ summaryAccess.tenantId = 1)
        (fun genuine => genuine.decisionId = summaryAccess.decisionId ∧ genuine.outcome = .allow)
        (fun genuine => genuine.SameAuthority summaryAccess) :=
  ⟨by simp [NoDecisions], oneOfEachKind_drawsFresh,
    ((accepted_iff_genuine_iff (by simp [NoDecisions]) oneOfEachKind_drawsFresh 1).1
      summaryAccess).mp (iff_of_true (by decide +kernel)
        ⟨summaryAccess, ⟨[], _, _, rfl, rfl, by decide +kernel, fun _ _ => rfl⟩,
          rfl, rfl, rfl, rfl, rfl⟩)⟩

lemma requestedAutonomyTier_decidePolicyGate (request : PolicyGateRequest) (decisionId : Uuid) :
    (decidePolicyGate log approvals request decisionId).requestedAutonomyTier =
      request.requestedAutonomyTier := by
  have hevaluated : (evaluatePolicyGate request decisionId).requestedAutonomyTier =
      request.requestedAutonomyTier := by
    unfold evaluatePolicyGate
    split <;> rfl
  unfold decidePolicyGate
  dsimp only
  cases request.tenantId with
  | none => exact hevaluated
  | some tenantId =>
    dsimp only
    split_ifs
    · split
      · rfl
      · exact hevaluated
    · exact hevaluated

lemma candidateVersion_decideEvaluation (baseline candidate : EvaluationSubjectResult)
    (thresholds : List MetricThreshold) (crossTenantPolicy : Option CrossTenantLearningPolicy)
    (decisionId : Uuid) :
    (decideEvaluation log baseline candidate thresholds crossTenantPolicy
      decisionId).candidateVersion = candidate.subjectVersion := by
  have hevaluated : (evaluateCandidate baseline candidate thresholds crossTenantPolicy
      decisionId).candidateVersion = candidate.subjectVersion := by
    unfold evaluateCandidate
    split_ifs <;> try rfl
    split <;> rfl
  unfold decideEvaluation
  dsimp only
  split
  · rfl
  · exact hevaluated

/-- The two checks of `create_canary` on the policy gate decision. -/
def authorizesCanary (log : List AuditEntry) (decision : PolicyGateDecision) (tenantId : Uuid) :
    Bool :=
  decision.outcome == .allow && decision.tenantId == some tenantId &&
    decision.requestedAction == "activate_adaptation" && decision.requestedAutonomyTier == 2 &&
    verifyPolicyGateProvenance log decision tenantId

/-- The tier-0 decision with id 13 is accepted as one of tier 2, also by `create_canary`, though no
call issued it; and the pass of version 2 is accepted as a pass of version 3. -/
theorem accepted_with_other_fields :
    let log := Run.run (issue fun _ => true) [] oneOfEachKind
    let tier2 : PolicyGateDecision := ⟨.allow, some 1, "activate_adaptation", 2, none, 13⟩
    let thirdVersion : EvaluationComparison :=
      ⟨.pass, "1", "3", some ⟨"summaries", "1"⟩, none, [], [], 12⟩
    (tier2.Constructible ∧ authorizesCanary log tier2 1 = true ∧
      ¬ (verifyPolicyGateProvenance log tier2 1 = true ↔
        ∃ genuine, Issued (fun _ => true) [] oneOfEachKind 1 (.policyGate genuine) ∧
          genuine.SameAuthority tier2)) ∧
    thirdVersion.Constructible ∧
      ¬ (verifyEvaluationProvenance log thirdVersion 1 = true ↔
        ∃ genuine, Issued (fun _ => true) [] oneOfEachKind 1 (.evaluation genuine) ∧
          genuine.SameAuthority thirdVersion) := by
  intro log tier2 thirdVersion
  refine ⟨⟨by decide +kernel, by decide +kernel, ?_⟩, by decide +kernel, ?_⟩
  · intro hiff
    obtain ⟨genuine, ⟨before, call, after, hsplit, -, hdecide, -⟩, hid, -, -, htier⟩ :=
      hiff.mp (by decide +kernel)
    have hcall : call ∈ oneOfEachKind := by rw [hsplit]; simp
    simp only [oneOfEachKind, List.mem_cons, List.not_mem_nil, or_false] at hcall
    rcases hcall with rfl | rfl | rfl | rfl | rfl
    · cases hdecide
    · cases hdecide
    · cases hdecide
    · obtain rfl := Decision.policyGate.inj hdecide
      rw [requestedAutonomyTier_decidePolicyGate] at htier
      exact absurd htier (by decide)
    · obtain rfl := Decision.policyGate.inj hdecide
      rw [decisionId_decidePolicyGate] at hid
      exact absurd hid (by decide)
  · intro hiff
    obtain ⟨genuine, ⟨before, call, after, hsplit, -, hdecide, -⟩, -, -, -, hversion⟩ :=
      hiff.mp (by decide +kernel)
    have hcall : call ∈ oneOfEachKind := by rw [hsplit]; simp
    simp only [oneOfEachKind, List.mem_cons, List.not_mem_nil, or_false] at hcall
    rcases hcall with rfl | rfl | rfl | rfl | rfl
    · cases hdecide
    · cases hdecide
    · obtain rfl := Decision.evaluation.inj hdecide
      rw [candidateVersion_decideEvaluation] at hversion
      exact absurd hversion (by decide)
    · cases hdecide
    · cases hdecide

end SaasOs.SelfLearning
