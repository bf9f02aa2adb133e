import SaasOs.Identity.MembershipProtocol

/-!
# The calls on memberships keep the protocol

Apart from redemptions a transaction registers permissions and makes at most one other write, which
the locks it holds and what it has just read justify.  A redemption makes two: it accepts the
invitation and inserts the membership, unless there is one.
-/

namespace SaasOs

namespace Membership

open ReadCommitted

variable {config : RedemptionConfig} {call : Call} {held held' : Locks Lock} {db db' view : Tables}
  {w : Write} {writes : List Write}

/-! ## Assertions -/

/-- What a call knows of its locks and writes and of the committed contents. -/
abbrev Assertion := Protocol.Assertion Tables Write Lock

def nothingWritten : Assertion := fun t _ => t.writes = []

def onlyPermissions : Assertion := fun t _ => ∀ w ∈ t.writes, ∃ row, w = Write.insertPermission row

/-- The transaction has registered permissions and made at most one other write, which is justified in
the committed contents. -/
def atMostOne : Assertion := fun t db => ∃ (permissions : List Write) (last : Option Write),
  t.writes = permissions ++ last.toList ∧
    (∀ w ∈ permissions, ∃ row, w = Write.insertPermission row) ∧
      ∀ w, last = some w → Justified t.held db w

lemma steady_nothingWritten : (membershipProtocol config).Steady nothingWritten :=
  Protocol.steady_writes (· = [])

lemma steady_onlyPermissions : (membershipProtocol config).Steady onlyPermissions :=
  Protocol.steady_writes fun writes => ∀ w ∈ writes, ∃ row, w = Write.insertPermission row

lemma Justified.rely (h : Justified held db w) (hrely : Rely held db db') : Justified held db' w := by
  cases w with
  | insertPermission row => trivial
  | insertInvitation row =>
    refine ⟨h.1, h.2.1, fun other hother hid => ?_⟩
    exact h.2.2 other ((hrely.invitations row.id h.1 other hid).mp hother) hid
  | acceptInvitation invitationId userId now =>
    refine ⟨h.1, fun row hrow hid => ?_⟩
    exact h.2 row ((hrely.invitations invitationId h.1 row hid).mp hrow) hid
  | revokeInvitation invitationId actorUserId now =>
    refine ⟨h.1, fun row hrow hid => ?_⟩
    exact h.2 row ((hrely.invitations invitationId h.1 row hid).mp hrow) hid
  | insertMembership row =>
    refine ⟨h.1, h.2.1, fun other hother hid => ?_, fun other hother hkey => ?_⟩
    · obtain ⟨before, hbefore, hid'⟩ := hrely.noNewId row.id h.1 other hother hid
      exact h.2.2.1 before hbefore hid'
    · obtain ⟨before, hbefore, hkey'⟩ :=
        hrely.noNewMember row.tenantId row.userId h.2.1 other hother hkey.1 hkey.2
      exact h.2.2.2 before hbefore hkey'
  | setMembershipStatus membershipId status => exact h
  | setTenantStatus tenantId status => exact h

lemma Justified.of_held (h : Justified held view w) (hheld : ∀ l ∈ held, l ∈ held') :
    Justified held' view w := by
  cases w with
  | insertPermission row => trivial
  | insertInvitation row => exact ⟨hheld _ h.1, h.2⟩
  | acceptInvitation invitationId userId now => exact ⟨hheld _ h.1, h.2⟩
  | revokeInvitation invitationId actorUserId now => exact ⟨hheld _ h.1, h.2⟩
  | insertMembership row => exact ⟨hheld _ h.1, hheld _ h.2.1, h.2.2⟩
  | setMembershipStatus membershipId status => exact hheld _ h
  | setTenantStatus tenantId status => exact hheld _ h

lemma steady_justified (w : Write) :
    (membershipProtocol config).Steady fun t db => Justified t.held db w where
  rely _ _ _ _ _ hrely h := h.rely hrely
  lock _ _ _ h := h.of_held fun _ hl => List.mem_append_right _ hl

lemma steady_atMostOne : (membershipProtocol config).Steady atMostOne :=
  Protocol.steady_exists fun _ => Protocol.steady_exists fun _ =>
    (Protocol.steady_writes (· = _)).and ((Protocol.steady_const _).and
      (Protocol.steady_forall fun w => (steady_justified w).imp _))

/-! ## Guarantees -/

section

variable (h : ∀ w ∈ writes, ∃ row, w = Write.insertPermission row)

include h

lemma same_of_permissions :
    Same db (after db writes) := by
  induction writes using List.reverseRecOn with
  | nil => exact ⟨rfl, rfl, rfl, rfl⟩
  | append_singleton writes w ih =>
    obtain ⟨htenants, husers, hinvitations, hmemberships⟩ :=
      ih fun other hother => h other (List.mem_append_left _ hother)
    obtain ⟨row, rfl⟩ := h w (List.mem_append_right _ (List.mem_singleton.mpr rfl))
    rw [after_concat]
    exact ⟨htenants, husers, hinvitations, hmemberships⟩

lemma writes_of_permissions :
    Writes held db writes := by
  induction writes using List.reverseRecOn with
  | nil => exact .nil
  | append_singleton writes w ih =>
    obtain ⟨row, rfl⟩ := h w (List.mem_append_right _ (List.mem_singleton.mpr rfl))
    exact (ih fun other hother => h other (List.mem_append_left _ hother)).concat trivial

end

lemma Justified.of_same (h : Justified held db w) (hsame : Same db db') : Justified held db' w := by
  cases w with
  | insertPermission row => trivial
  | insertInvitation row => exact ⟨h.1, h.2.1, hsame.invitations ▸ h.2.2⟩
  | acceptInvitation invitationId userId now => exact ⟨h.1, hsame.invitations ▸ h.2⟩
  | revokeInvitation invitationId actorUserId now => exact ⟨h.1, hsame.invitations ▸ h.2⟩
  | insertMembership row =>
    refine ⟨h.1, h.2.1, ?_⟩
    rw [hsame.tenantMemberships]
    exact h.2.2
  | setMembershipStatus membershipId status => exact h
  | setTenantStatus tenantId status => exact h

def Call.IsRedemption : Call → Prop
  | acceptInvitation _ _ _ _ _ _ => True
  | _ => False

variable {t : Standing Write Lock}

lemma guarantee_of_atMostOne (hcall : ¬ call.IsRedemption) (h : atMostOne t db) :
    Guarantee config call t.held db (after db t.writes) where
  justified := by
    obtain ⟨permissions, last, hwrites, hpermissions, hlast⟩ := h
    refine ⟨t.writes, ?_, rfl⟩
    rw [hwrites]
    cases last with
    | none =>
      rw [Option.toList_none, List.append_nil]
      exact writes_of_permissions hpermissions
    | some w =>
      exact (writes_of_permissions hpermissions).concat
        ((hlast w rfl).of_same (same_of_permissions hpermissions))
  accepted now newId rawToken tenantId caller acceptingEmail hredemption := by
    subst hredemption
    exact absurd trivial hcall

/-! ## Statements -/

variable {F : Assertion}

lemma triple_query {α : Type} {answer : Tables → Locked α}
    (hF : (membershipProtocol config).Steady F) :
    (membershipProtocol config).Triple call F (query answer) fun _ => F :=
  Protocol.triple_query hF

variable {α : Type}

variable {result : Result α}

lemma triple_check :
    (membershipProtocol config).Triple call F (check result) fun _ => F :=
  Protocol.triple_require

lemma triple_queryResult {answer : Tables → Locked (Result α)}
    (hF : (membershipProtocol config).Steady F) :
    (membershipProtocol config).Triple call F (queryResult answer) fun _ => F :=
  (triple_query hF).bind fun _ => triple_check

variable {newId : Uuid}

lemma triple_registerPermission {resource action : String} :
    (membershipProtocol config).Triple call onlyPermissions
      (registerPermission newId resource action) fun _ => onlyPermissions := by
  refine Protocol.triple_statement steady_onlyPermissions fun t db _ _ hknown _ _ => ?_
  split
  · rw [List.append_nil]
    exact hknown
  · intro w hw
    rcases List.mem_append.mp hw with hold | hnew
    · exact hknown w hold
    · exact ⟨_, List.mem_singleton.mp hnew⟩

variable {now : Instant}

lemma triple_registerAndDecide {request : AccessRequest} {refusal : Error} :
    (membershipProtocol config).Triple call onlyPermissions
      (registerAndDecide now newId request refusal) fun _ => onlyPermissions :=
  triple_registerPermission.bind fun _ =>
    (triple_query steady_onlyPermissions).bind fun _ => Protocol.triple_require

variable {tenantId : Uuid} {caller : Caller}

lemma triple_authorizeCaller {operation resource action : String} :
    (membershipProtocol config).Triple call onlyPermissions
      (authorizeCaller now newId caller operation tenantId resource action)
      fun _ => onlyPermissions := by
  cases caller with
  | system authority => exact Protocol.triple_throw
  | user userId => exact triple_registerAndDecide
  | serviceAccount serviceAccountId ownTenantId => exact triple_registerAndDecide

lemma triple_lockAdministrators {tenantIds : List Uuid}
    (hF : (membershipProtocol config).Steady F) :
    (membershipProtocol config).Triple call F (lockAdministrators tenantIds) fun _ => F := by
  induction tenantIds with
  | nil => exact Protocol.triple_pure fun _ _ h => h
  | cons tenantId tenantIds ih => exact (Protocol.triple_query hF).bind fun _ => ih

lemma atMostOne_of_onlyPermissions (h : onlyPermissions t db) :
    atMostOne t db :=
  ⟨t.writes, none, (List.append_nil _).symm, h, nofun⟩

lemma triple_one {resources : Tables → List Lock} {result : Tables → Except Error Unit}
    (h : ∀ (t : Standing Write Lock) db,
      (∀ resource ∈ resources (after db t.writes), (resource, LockMode.exclusive) ∈ t.held) →
      result (after db t.writes) = .ok () → Same db (after db t.writes) → Justified t.held db w) :
    (membershipProtocol config).Triple call onlyPermissions
      (Body.statement .exclusive resources (fun _ => [w]) result) fun _ => atMostOne := by
  refine Protocol.triple_statement steady_onlyPermissions fun t db _ _ hknown hheld hresult => ?_
  refine ⟨t.writes, some w, rfl, hknown, ?_⟩
  rintro _ ⟨⟩
  exact h t db hheld hresult (same_of_permissions hknown)

lemma triple_updateRow {key : RowKey}
    (h : ∀ held db, (Lock.row key, LockMode.exclusive) ∈ held → Justified held db w) :
    (membershipProtocol config).Triple call onlyPermissions (updateRow key w)
      fun _ => atMostOne :=
  triple_one fun t db hheld _ _ => h t.held db (hheld _ List.mem_cons_self)

/-! ## Transactions of one write -/

lemma triple_insertInvitation {row : Invitation} (hopen : row.IsOpen) :
    (membershipProtocol config).Triple call onlyPermissions (insertInvitation row)
      fun _ => atMostOne := by
  refine triple_one fun t db hheld hresult hsame => ?_
  refine ⟨hheld _ List.mem_cons_self, hopen, fun other hother => ?_⟩
  have hadmits : admitsInvitation (after db t.writes) row = true := by
    split at hresult
    · assumption
    · cases hresult
  simp only [admitsInvitation, Bool.and_eq_true, Bool.not_eq_true', List.any_eq_false,
    beq_iff_eq] at hadmits
  rw [← hsame.invitations] at hother
  exact hadmits.1.1.1.1.1 other hother

lemma triple_markRevoked {invitation : Invitation} {actorUserId : Uuid} :
    (membershipProtocol config).Triple call onlyPermissions (markRevoked invitation actorUserId now)
      fun _ => atMostOne := by
  refine triple_one fun t db hheld hresult hsame => ?_
  refine ⟨hheld _ List.mem_cons_self, fun row hrow hid => ?_⟩
  split at hresult
  · cases hresult
  · next hnone =>
    -- the check on the table has found the row not accepted
    rw [← hsame.invitations] at hrow
    by_contra haccepted
    refine hnone (List.any_eq_true.mpr ⟨row, hrow, ?_⟩)
    rw [Bool.and_eq_true, beq_iff_eq]
    exact ⟨hid, Option.isSome_iff_ne_none.mpr haccepted⟩

lemma triple_revokeInvitation {newPermissionId tenantId invitationId : Uuid} :
    (membershipProtocol config).Triple call onlyPermissions
      (revokeInvitation now newPermissionId tenantId invitationId caller) fun _ => atMostOne := by
  refine triple_check.bind fun actorUserId => triple_registerAndDecide.bind fun _ => ?_
  refine (Protocol.triple_query steady_onlyPermissions).bind fun invitation => ?_
  split
  · exact Protocol.triple_pure fun _ _ => atMostOne_of_onlyPermissions
  · split
    · exact Protocol.triple_throw
    · exact triple_markRevoked

lemma triple_guardLastAdministrator {affectedUsers : List Uuid} :
    (membershipProtocol config).Triple call onlyPermissions
      (guardLastAdministrator now tenantId affectedUsers) fun _ => onlyPermissions := by
  refine (Protocol.triple_query steady_onlyPermissions).bind fun reached => ?_
  exact (triple_lockAdministrators steady_onlyPermissions).bind fun _ =>
    triple_query steady_onlyPermissions

lemma triple_transitionMembershipStatus {newPermissionId tenantId membershipId : Uuid}
    {transition : MembershipTransition} :
    (membershipProtocol config).Triple call onlyPermissions (transitionMembershipStatus now
      newPermissionId tenantId membershipId transition caller) fun _ => atMostOne := by
  have hupdate : (membershipProtocol config).Triple call onlyPermissions
      (updateRow (.tenantMembership membershipId)
        (.setMembershipStatus membershipId transition.toStatus)) fun _ => atMostOne :=
    triple_updateRow fun _ _ hheld => hheld
  refine (Protocol.triple_query steady_onlyPermissions).bind fun _ => ?_
  refine triple_authorizeCaller.bind fun _ => ?_
  refine (Protocol.triple_query steady_onlyPermissions).bind fun membership => ?_
  split
  · exact Protocol.triple_pure fun _ _ => atMostOne_of_onlyPermissions
  · refine triple_check.bind fun _ => ?_
    dsimp only
    split
    · exact triple_guardLastAdministrator.bind fun guard => hupdate.bind fun _ =>
        triple_queryResult steady_atMostOne
    · exact hupdate

/-! ### Transitions of tenants -/

variable {operation : PlatformOperation}

lemma triple_isAuthorized :
    (membershipProtocol config).Triple call onlyPermissions (isAuthorized caller operation)
      fun _ => onlyPermissions :=
  (triple_query steady_onlyPermissions).bind fun _ => Protocol.triple_pure fun _ _ h => h

variable {candidates : List PlatformOperation}

variable {refusal : ServiceError}

lemma triple_requireSomeCandidate :
    (membershipProtocol config).Triple call onlyPermissions
      (requireSomeCandidate caller refusal candidates) fun _ => onlyPermissions := by
  induction candidates with
  | nil => exact Protocol.triple_throw
  | cons operation operations ih =>
    refine triple_isAuthorized.bind fun allowed => ?_
    split
    · exact Protocol.triple_pure fun _ _ h => h
    · exact ih

variable {newPermissionId : Uuid}

lemma triple_authorizeSelfSuspend :
    (membershipProtocol config).Triple call onlyPermissions
      (authorizeSelfSuspend newPermissionId tenantId refusal caller) fun _ => onlyPermissions := by
  cases caller with
  | user userId =>
    exact triple_registerPermission.bind fun _ =>
      (triple_query steady_onlyPermissions).bind fun _ => triple_check
  | serviceAccount serviceAccountId ownTenantId => exact Protocol.triple_throw
  | system authority => exact Protocol.triple_throw

variable {tenancy : TenancyConfig} {reason : Option String}

variable {selfServiceOnly : Bool}

lemma triple_authorizeTransition :
    (membershipProtocol config).Triple call onlyPermissions (authorizeTransition tenancy
      newPermissionId caller operation tenantId reason selfServiceOnly)
      fun _ => onlyPermissions := by
  have hrest : ∀ allowed : Bool, (membershipProtocol config).Triple call onlyPermissions
      (if allowed then pure () else do
        check (require (operation == .tenantSuspend) (.platformNotAuthorized operation.key))
        authorizeSelfSuspend newPermissionId tenantId (.platformNotAuthorized operation.key) caller
        check (require (tenancy.platformTenantId != some tenantId)
          (.platformNotAuthorized operation.key))
        check (require reason.isSome
          (.invalidPlatformRequest "reason is required to suspend one's own tenant.")) :
        Transaction Unit) fun _ => onlyPermissions := by
    intro allowed
    split
    · exact Protocol.triple_pure fun _ _ h => h
    · exact triple_check.bind fun _ => triple_authorizeSelfSuspend.bind fun _ =>
        triple_check.bind fun _ => triple_check
  cases selfServiceOnly with
  | true => exact (Protocol.triple_pure fun _ _ h => h).bind hrest
  | false => exact triple_isAuthorized.bind hrest

variable {target : TenantStatus}

lemma triple_guardDescendants :
    (membershipProtocol config).Triple call onlyPermissions (guardDescendants now tenantId target)
      fun _ => onlyPermissions := by
  unfold guardDescendants
  split
  · exact Protocol.triple_pure fun _ _ h => h
  · refine (Protocol.triple_query steady_onlyPermissions).bind fun _ => ?_
    refine (Protocol.triple_query steady_onlyPermissions).bind fun descendants => ?_
    refine (triple_lockAdministrators steady_onlyPermissions).bind fun _ => ?_
    exact (triple_query steady_onlyPermissions).bind fun guard => Protocol.triple_pure fun _ _ h => h

lemma triple_disclose {G : α → Assertion} {e : ServiceError} :
    (membershipProtocol config).Triple call onlyPermissions
      (disclose caller candidates e : Transaction α) G := by
  unfold disclose
  split
  · exact Protocol.triple_throw
  · exact triple_requireSomeCandidate.bind fun _ => Protocol.triple_throw

variable {expectedOperation : Option PlatformOperation} {selfService : Bool}

lemma triple_transitionInTransaction :
    (membershipProtocol config).Triple call onlyPermissions (transitionInTransaction tenancy now
      newPermissionId tenantId target caller reason candidates expectedOperation selfService)
      fun _ => atMostOne := by
  refine triple_guardDescendants.bind fun guard => ?_
  refine (Protocol.triple_query steady_onlyPermissions).bind fun found => ?_
  have hrequested : (membershipProtocol config).Triple call onlyPermissions (authorizeRequested
      tenancy newPermissionId caller tenantId reason selfService candidates)
      fun _ => onlyPermissions := by
    unfold authorizeRequested
    split
    · exact triple_authorizeTransition
    · exact Protocol.triple_pure fun _ _ h => h
  refine hrequested.bind fun _ => ?_
  cases found with
  | none => exact triple_disclose
  | some tenant =>
    dsimp only
    split
    · exact triple_disclose
    · refine triple_check.bind fun operation => triple_check.bind fun _ => ?_
      have hselected : (membershipProtocol config).Triple call onlyPermissions (authorizeSelected
          tenancy newPermissionId caller operation tenantId reason candidates)
          fun _ => onlyPermissions := by
        unfold authorizeSelected
        split
        · exact Protocol.triple_pure fun _ _ h => h
        · exact triple_authorizeTransition
      refine hselected.bind fun _ => ?_
      have hupdate : (membershipProtocol config).Triple call onlyPermissions
          (updateRow (.tenant tenantId) (.setTenantStatus tenantId target)) fun _ => atMostOne :=
        triple_updateRow fun _ _ hheld => hheld
      refine hupdate.bind fun _ => ?_
      cases guard with
      | none => exact Protocol.triple_pure fun _ _ h => h
      | some guard => exact triple_queryResult steady_atMostOne

/-! ## Calls of several transactions -/

/-- The transactions of a call that is no redemption, about whose end nothing is said. -/
abbrev Keeps (config : RedemptionConfig) (call : Call) {α : Type} (body : Transaction α) : Prop :=
  (membershipProtocol config).Transactions call (fun _ _ => True) (fun _ _ => True) body
    fun _ _ _ => True

variable {body : Transaction α}

lemma keeps_inTransaction (hcall : ¬ call.IsRedemption)
    (h : (membershipProtocol config).Triple call onlyPermissions body fun _ => atMostOne) :
    Keeps config call (inTransaction body) :=
  h.transactions (fun _ => steady_atMostOne)
    (fun _ _ _ _ hend => guarantee_of_atMostOne hcall hend) (fun _ _ _ => nofun)
    (fun _ _ _ _ _ => trivial) fun _ _ _ _ => trivial

lemma keeps_check : Keeps config call (check result) :=
  Protocol.transactions_check fun _ _ _ _ => trivial

lemma keeps_read (hcall : ¬ call.IsRedemption)
    (h : (membershipProtocol config).Triple call onlyPermissions body fun _ => onlyPermissions) :
    Keeps config call (inTransaction body) :=
  keeps_inTransaction hcall
    (h.weaken (fun _ _ _ h => h) fun _ _ _ _ h => atMostOne_of_onlyPermissions h)

lemma keeps_requireOpenTenant (hcall : ¬ call.IsRedemption) :
    Keeps config call (requireOpenTenant tenantId) :=
  keeps_read hcall (Protocol.triple_query steady_onlyPermissions)

lemma keeps_pure {a : α} : Keeps config call (pure a : Transaction α) :=
  fun _ _ hvalid _ => Protocol.safeBody_pure ⟨hvalid, rfl, rfl, trivial⟩

section

variable (hcall : ¬ call.IsRedemption)

include hcall

lemma keeps_holdsAnyPermission {userId : Uuid} {permissions : List PlatformPermission} :
    Keeps config call (holdsAnyPermission userId permissions) := by
  induction permissions with
  | nil => exact keeps_pure
  | cons permission permissions ih =>
    refine (keeps_read hcall (triple_query steady_onlyPermissions)).bind fun held => ?_
    split
    · exact keeps_pure
    · exact ih

lemma keeps_passesTransitionGate {operations : List PlatformOperation} :
    Keeps config call (passesTransitionGate caller operations tenantId selfServiceOnly) := by
  have hrest : ∀ couldHold : Bool, Keeps config call (if couldHold then pure true
      else if operations.contains .tenantSuspend then
        inTransaction (Body.read fun db => .ok (db.callerIsMemberOfAny caller [tenantId]))
      else pure false : Transaction Bool) := by
    intro couldHold
    split
    · exact keeps_pure
    · split
      · exact keeps_read hcall (Protocol.triple_query steady_onlyPermissions)
      · exact keeps_pure
  cases selfServiceOnly with
  | true => exact keeps_pure.bind hrest
  | false =>
    refine Protocol.Transactions.bind ?_ hrest
    cases caller with
    | system authority => exact keeps_pure
    | serviceAccount serviceAccountId ownTenantId => exact keeps_pure
    | user userId => exact keeps_holdsAnyPermission hcall

lemma keeps_transitionTenantStatus :
    Keeps config call (transitionTenantStatus tenancy now newPermissionId tenantId target caller
      reason expectedOperation selfService) := by
  refine keeps_check.bind fun _ => keeps_check.bind fun reason => keeps_check.bind fun candidates => ?_
  refine (keeps_passesTransitionGate hcall).bind fun passes => keeps_check.bind fun _ => ?_
  exact keeps_inTransaction hcall triple_transitionInTransaction

lemma keeps_createInvitation {now createdAt : Instant} {invitedEmail rawToken : String}
    {expiresAt : Option Instant} :
    Keeps config call (createInvitation config now createdAt newId newPermissionId tenantId
      invitedEmail rawToken caller expiresAt) := by
  refine keeps_check.bind fun inviterUserId => (keeps_requireOpenTenant hcall).bind fun _ => ?_
  refine (Protocol.transactions_check fun _ _ _ _ => trivial).bind fun email => ?_
  exact keeps_inTransaction hcall
    (triple_registerAndDecide.bind fun _ => triple_insertInvitation ⟨rfl, rfl⟩)

end

end Membership

end SaasOs
