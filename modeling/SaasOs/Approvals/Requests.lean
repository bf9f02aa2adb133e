import SaasOs.Schema.Tables

/-!
# Approval requests

A row of `control_plane.approval_requests` is a proposed tool invocation that waits for a human
decision.
-/

namespace SaasOs.Approvals

/-- The statuses of an approval request. -/
inductive ApprovalStatus
  | pending | approved | rejected | executing | executed
  deriving DecidableEq

/-- A row of `control_plane.approval_requests`. -/
structure ApprovalRequest where
  id : Uuid
  tenantId : Uuid
  proposerUserId : Uuid
  toolKey : String
  status : ApprovalStatus
  approverUserId : Option Uuid
  decidedAt : Option Instant
  deriving DecidableEq

/-- The check `ck_approval_requests_no_self_approval`. -/
def ApprovalRequest.NoSelfApproval (request : ApprovalRequest) : Prop :=
  request.approverUserId ≠ some request.proposerUserId

instance (request : ApprovalRequest) : Decidable request.NoSelfApproval :=
  inferInstanceAs (Decidable (_ ≠ _))

end SaasOs.Approvals
