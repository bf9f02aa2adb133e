import SaasOs.Platform.Owners

/-!
# People cannot amplify platform permissions

Among calls that are made by users, a permission comes from somebody who holds it.  What a commit
can do to operators and grants is read off the justification of its writes: an operator that is not
revoked was there before or is enrolled by the call, a live grant was there before or is given by
the call, and the rows of the caller's own operator stay as they are.
-/

namespace SaasOs

open ReadCommitted

namespace PlatformTables

def operatorsOf (db : PlatformTables) (userId : Uuid) : List PlatformOperator :=
  db.platformOperators.filter fun operator => operator.userId == userId

def grantsOf (db : PlatformTables) (userId : Uuid) : List PlatformGrant :=
  db.platformGrants.filter fun grant =>
    (db.operatorsOf userId).any fun operator => operator.id == grant.operatorId

def HasOperator (db : PlatformTables) (userId : Uuid) : Prop :=
  ∃ operator ∈ db.platformOperators, operator.userId = userId ∧ operator.status ≠ .revoked

def OperatorGrants (db : PlatformTables) (userId : Uuid) (permission : PlatformPermission) : Prop :=
  ∃ operator ∈ db.platformOperators, operator.userId = userId ∧ operator.status ≠ .revoked ∧
    db.Grants operator.id permission

/-- The operator is one of the user's. -/
def Owns (db : PlatformTables) (userId operatorId : Uuid) : Prop :=
  ∃ operator ∈ db.platformOperators, operator.id = operatorId ∧ operator.userId = userId

def AnyGrants (db : PlatformTables) (permission : PlatformPermission) : Prop :=
  ∃ operator ∈ db.platformOperators, db.Grants operator.id permission

lemma Can.operatorGrants {db : PlatformTables} {userId : Uuid} {permission : PlatformPermission}
    (h : db.Can userId permission) : db.OperatorGrants userId permission := by
  obtain ⟨-, operator, hoperator, huserId, hstatus, hgrants⟩ := h
  refine ⟨operator, hoperator, huserId, ?_, hgrants⟩
  rw [hstatus]
  decide

lemma OperatorGrants.hasOperator {db : PlatformTables} {userId : Uuid}
    {permission : PlatformPermission} (h : db.OperatorGrants userId permission) :
    db.HasOperator userId := by
  obtain ⟨operator, hoperator, huserId, hstatus, -⟩ := h
  exact ⟨operator, hoperator, huserId, hstatus⟩

lemma OperatorGrants.anyGrants {db : PlatformTables} {userId : Uuid}
    {permission : PlatformPermission} (h : db.OperatorGrants userId permission) :
    db.AnyGrants permission := by
  obtain ⟨operator, hoperator, -, -, hgrants⟩ := h
  exact ⟨operator, hoperator, hgrants⟩

end PlatformTables

variable {call : PlatformCall} {held : Locks PlatformLock} {db view : PlatformTables}
  {w : PlatformWrite} {writes : List PlatformWrite} {userId : Uuid}
  {permission : PlatformPermission}

/-! ## What a commit does to operators and grants -/

lemma PlatformTables.Owns.write {operatorId : Uuid} (h : view.Owns userId operatorId) :
    (view.write w).Owns userId operatorId := by
  obtain ⟨operator, hoperator, hid, huserId⟩ := h
  cases w with
  | insertOperator row => exact ⟨operator, List.mem_append_left _ hoperator, hid, huserId⟩
  | setOperatorStatus operatorId' status =>
    refine ⟨_, List.mem_map.mpr ⟨operator, hoperator, rfl⟩, ?_, ?_⟩
    · split
      · exact hid
      · exact hid
    · split
      · exact huserId
      · exact huserId
  | insertUser row | insertExternalIdentity row | deleteExternalIdentities ids | insertGrant row
  | revokeGrants ids now | setUserActive target isActive | revokeSessions ids now
  | revokeApiKeys ids now | insertSession row | insertApiKey row | recordRotation row
  | insertPermission row => exact ⟨operator, hoperator, hid, huserId⟩

lemma PlatformTables.Owns.after {operatorId : Uuid} (h : db.Owns userId operatorId)
    (writes : List PlatformWrite) :
    (db.after writes).Owns userId operatorId := by
  induction writes using List.reverseRecOn with
  | nil => exact h
  | append_singleton writes w ih =>
    rw [PlatformTables.after_concat]
    exact ih.write

lemma Justified.operator_cases (hw : Justified call held db view w) (hvalid : view.Valid)
    {operator : PlatformOperator} (h : operator ∈ (view.write w).platformOperators) :
    (∃ row ∈ view.platformOperators, row.id = operator.id ∧ row.userId = operator.userId ∧
        (operator.status ≠ .revoked → row.status ≠ .revoked)) ∨
      call.Enrolls operator.userId ∧ ∀ row ∈ view.platformOperators, row.id ≠ operator.id := by
  cases w with
  | insertOperator row =>
    rcases List.mem_append.mp h with hold | hnew
    · exact .inl ⟨operator, hold, rfl, rfl, id⟩
    · obtain rfl := List.mem_singleton.mp hnew
      exact .inr ⟨hw.2.1, hw.2.2.2.1⟩
  | setOperatorStatus operatorId status =>
    obtain ⟨row, hrow, rfl⟩ := List.mem_map.mp h
    obtain ⟨-, target, htarget, htargetId, htargetStatus, -⟩ := hw
    refine .inl ⟨row, hrow, ?_, ?_, ?_⟩
    · split <;> rfl
    · split <;> rfl
    · intro hstatus
      by_cases hid : row.id = operatorId
      · rw [hvalid.operators_pk.eq_of_key_eq hrow htarget (hid.trans htargetId.symm)]
        exact htargetStatus
      · rw [if_neg hid] at hstatus
        exact hstatus
  | insertUser row | insertExternalIdentity row | deleteExternalIdentities ids | insertGrant row
  | revokeGrants ids now | setUserActive target isActive | revokeSessions ids now
  | revokeApiKeys ids now | insertSession row | insertApiKey row | recordRotation row
  | insertPermission row => exact .inl ⟨operator, h, rfl, rfl, id⟩

lemma Chain.operator_cases (h : Chain call held db writes) (hvalid : db.Valid)
    {operator : PlatformOperator} (hoperator : operator ∈ (db.after writes).platformOperators) :
    (∃ row ∈ db.platformOperators, row.id = operator.id ∧ row.userId = operator.userId ∧
        (operator.status ≠ .revoked → row.status ≠ .revoked)) ∨
      call.Enrolls operator.userId ∧ ∀ row ∈ db.platformOperators, row.id ≠ operator.id := by
  induction h generalizing operator with
  | nil => exact .inl ⟨operator, hoperator, rfl, rfl, id⟩
  | @concat writes w hchain hw ih =>
    rw [PlatformTables.after_concat] at hoperator
    rcases hw.operator_cases (hchain.valid hvalid) hoperator with
      ⟨middle, hmiddle, hid, huserId, hstatus⟩ | ⟨henrolls, hfresh⟩
    · rcases ih hmiddle with ⟨row, hrow, hid', huserId', hstatus'⟩ | ⟨henrolls, hfresh⟩
      · exact .inl ⟨row, hrow, hid'.trans hid, huserId'.trans huserId,
          fun hafter => hstatus' (hstatus hafter)⟩
      · rw [huserId] at henrolls
        rw [hid] at hfresh
        exact .inr ⟨henrolls, hfresh⟩
    · refine .inr ⟨henrolls, fun row hrow hid => ?_⟩
      have howns : db.Owns row.userId row.id := ⟨row, hrow, rfl, rfl⟩
      obtain ⟨other, hother, hotherId, -⟩ := howns.after writes
      exact hfresh other hother (hotherId.trans hid)

lemma Justified.grant_cases {grant : PlatformGrant} (h : grant ∈ (view.write w).platformGrants)
    (hlive : grant.revokedAt = none) : grant ∈ view.platformGrants ∨ w = .insertGrant grant := by
  cases w with
  | insertGrant row =>
    refine (List.mem_append.mp h).imp_right fun hnew => ?_
    rw [List.mem_singleton.mp hnew]
  | revokeGrants ids now =>
    obtain ⟨row, hrow, rfl⟩ := List.mem_map.mp h
    by_cases hid : row.id ∈ ids
    · rw [if_pos hid] at hlive
      cases hlive
    · rw [if_neg hid]
      exact .inl hrow
  | insertOperator row | setOperatorStatus operatorId status | insertUser row
  | insertExternalIdentity row | deleteExternalIdentities ids | setUserActive target isActive
  | revokeSessions ids now | revokeApiKeys ids now | insertSession row | insertApiKey row
  | recordRotation row | insertPermission row => exact .inl h

/-- What a call has made sure of when it gives a grant. -/
structure GrantJustified (call : PlatformCall) (db : PlatformTables) (grant : PlatformGrant) :
    Prop where
  grantsTo : call.GrantsTo grant.operatorId grant.permission
  held : ∀ userId, call.IsBy userId → db.Can userId grant.permission
  /-- The operator was there, unless the call enrolls it; it is not the caller's. -/
  operator : ∃ operatorUser, ¬ call.IsBy operatorUser ∧
    (db.Owns operatorUser grant.operatorId ∨ call.Enrolls operatorUser)

lemma Chain.grant_cases (h : Chain call held db writes) (hvalid : db.Valid) {grant : PlatformGrant}
    (hgrant : grant ∈ (db.after writes).platformGrants) (hlive : grant.revokedAt = none) :
    grant ∈ db.platformGrants ∨ GrantJustified call db grant := by
  induction h with
  | nil => exact .inl hgrant
  | @concat writes w hchain hw ih =>
    rw [PlatformTables.after_concat] at hgrant
    rcases Justified.grant_cases hgrant hlive with hold | rfl
    · exact ih hold
    · obtain ⟨-, -, hgrantsTo, -, hheld, operator, hoperator, hid, -, hself⟩ := hw
      refine .inr ⟨hgrantsTo, hheld, operator.userId, hself, ?_⟩
      refine (hchain.operator_cases hvalid hoperator).imp ?_ fun henrolls => henrolls.1
      rintro ⟨row, hrow, hrowId, huserId, -⟩
      exact ⟨row, hrow, hrowId.trans hid, huserId⟩

/-! ## The caller's own operator -/

lemma filter_map_of_forall {α : Type} {p : α → Bool} {f : α → α} {l : List α}
    (hp : ∀ a ∈ l, p (f a) = p a) (hf : ∀ a ∈ l, p a = true → f a = a) :
    (l.map f).filter p = l.filter p := by
  induction l with
  | nil => rfl
  | cons a l ih =>
    have htail := ih (fun b hb => hp b (List.mem_cons_of_mem a hb))
      fun b hb => hf b (List.mem_cons_of_mem a hb)
    rw [List.map_cons, List.filter_cons, List.filter_cons, htail, hp a List.mem_cons_self]
    by_cases ha : p a = true
    · rw [if_pos ha, if_pos ha, hf a List.mem_cons_self ha]
    · rw [if_neg ha, if_neg ha]

lemma Justified.operatorsOf (hw : Justified call held db view w) (hvalid : view.Valid)
    (hby : call.IsBy userId) : (view.write w).operatorsOf userId = view.operatorsOf userId := by
  cases w with
  | insertOperator row =>
    have hother : row.userId ≠ userId := by
      rintro rfl
      exact hw.2.2.1 hby
    unfold PlatformTables.operatorsOf PlatformTables.write
    rw [List.filter_append, List.filter_singleton, beq_eq_false_iff_ne.mpr hother]
    exact List.append_nil _
  | setOperatorStatus operatorId status =>
    obtain ⟨-, target, htarget, htargetId, -, hself, -⟩ := hw
    refine filter_map_of_forall ?_ ?_
    · intro row _
      split <;> rfl
    · intro row hrow huserId
      refine if_neg fun hid => hself ?_
      rw [← hvalid.operators_pk.eq_of_key_eq hrow htarget (hid.trans htargetId.symm),
        beq_iff_eq.mp huserId]
      exact hby
  | insertUser row | insertExternalIdentity row | deleteExternalIdentities ids | insertGrant row
  | revokeGrants ids now | setUserActive target isActive | revokeSessions ids now
  | revokeApiKeys ids now | insertSession row | insertApiKey row | recordRotation row
  | insertPermission row => rfl

lemma Justified.grantsOf (hw : Justified call held db view w) (hvalid : view.Valid)
    (hby : call.IsBy userId) : (view.write w).grantsOf userId = view.grantsOf userId := by
  have hsame := hw.operatorsOf hvalid hby
  -- an operator that is not the caller's is none of the caller's operators
  have hother : ∀ operator ∈ view.platformOperators, ¬ call.IsBy operator.userId →
      ((view.operatorsOf userId).any fun own => own.id == operator.id) = false := by
    intro operator hoperator hself
    rw [List.any_eq_false]
    intro own hown hid
    obtain ⟨hmem, huserId⟩ := List.mem_filter.mp hown
    refine hself ?_
    rw [← hvalid.operators_pk.eq_of_key_eq hmem hoperator (beq_iff_eq.mp hid),
      beq_iff_eq.mp huserId]
    exact hby
  unfold PlatformTables.grantsOf
  rw [hsame]
  cases w with
  | insertGrant row =>
    obtain ⟨-, -, -, -, -, operator, hoperator, hid, -, hself⟩ := hw
    have hnone := hother operator hoperator hself
    rw [hid] at hnone
    unfold PlatformTables.write
    rw [List.filter_append, List.filter_singleton, hnone]
    exact List.append_nil _
  | revokeGrants ids now =>
    refine filter_map_of_forall ?_ ?_
    · intro grant _
      split <;> rfl
    · intro grant hgrant hown
      refine if_neg fun hid => ?_
      obtain ⟨operator, hoperator, hoperatorId, hself⟩ := hw.2 grant hgrant hid
      have hnone := hother operator hoperator hself
      rw [hoperatorId, hown] at hnone
      cases hnone
  | insertOperator row | setOperatorStatus operatorId status | insertUser row
  | insertExternalIdentity row | deleteExternalIdentities ids | setUserActive target isActive
  | revokeSessions ids now | revokeApiKeys ids now | insertSession row | insertApiKey row
  | recordRotation row | insertPermission row => rfl

lemma Chain.own_unchanged (h : Chain call held db writes) (hvalid : db.Valid)
    (hby : call.IsBy userId) : (db.after writes).operatorsOf userId = db.operatorsOf userId ∧
      (db.after writes).grantsOf userId = db.grantsOf userId := by
  induction h with
  | nil => exact ⟨rfl, rfl⟩
  | @concat writes w hchain hw ih =>
    rw [PlatformTables.after_concat]
    have hview := hchain.valid hvalid
    exact ⟨(hw.operatorsOf hview hby).trans ih.1, (hw.grantsOf hview hby).trans ih.2⟩

/-! ## Calls by people -/

namespace PlatformCall

/-- An operation on operators, grants and users that a user calls. -/
def IsPersonal : PlatformCall → Prop
  | enrollOperator _ _ caller _ | suspendOperator _ caller _ | reactivateOperator _ caller _
  | revokeOperator _ _ caller _ | grantPlatformPermission _ _ _ caller _
  | revokePlatformPermission _ _ _ caller _ | deactivateUser _ _ _ caller _
  | reactivateUser _ _ caller _ => ∃ userId, caller = .user userId
  | bootstrapPlatformOwner _ _ _ _ _ | recoverPlatformAuthority _ _ _ _ _ _ => False
  | removeIdentityLinks _ _ | firstLogin _ _ _ _ => True

lemma IsPersonal.not_isComposite (h : call.IsPersonal) : ¬ call.IsComposite := by
  cases call with
  | bootstrapPlatformOwner owner requested newIds caller reason => exact h.elim
  | recoverPlatformAuthority enroll requested suspended newIds caller reason => exact h.elim
  | _ => exact id

lemma IsPersonal.enrolls (h : call.IsPersonal) (henrolls : call.Enrolls userId) :
    ∃ newId caller reason, call = enrollOperator userId newId caller reason :=
  henrolls.resolve_right h.not_isComposite

lemma IsPersonal.grantsTo {operatorId : Uuid} (h : call.IsPersonal)
    (hgrants : call.GrantsTo operatorId permission) :
    ∃ granter newId reason,
      call = grantPlatformPermission operatorId permission newId (.user granter) reason := by
  obtain ⟨newId, caller, reason, rfl⟩ := hgrants.resolve_right h.not_isComposite
  obtain ⟨granter, rfl⟩ := h
  exact ⟨granter, newId, reason, rfl⟩

end PlatformCall

namespace PlatformSystem

variable {s : PlatformSystem} {event : Event PlatformCall PlatformTables}
  {events : List (Event PlatformCall PlatformTables)}

/-- The event commits an enrolment of the user as an operator. -/
def Enrolled (s : PlatformSystem) (event : Event PlatformCall PlatformTables) (userId : Uuid) :
    Prop :=
  ∃ newId caller reason, s.Commits event (.enrollOperator userId newId caller reason)

/-- The event is the commit of a grant of the permission to an operator of the user, by another user
who holds the permission. -/
def Granted (s : PlatformSystem) (event : Event PlatformCall PlatformTables) (userId : Uuid)
    (permission : PlatformPermission) : Prop :=
  ∃ granter operatorId newId reason,
    s.Commits event (.grantPlatformPermission operatorId permission newId (.user granter) reason) ∧
    granter ≠ userId ∧ (s.db.platformCan granter permission).val = true ∧ s.db.Owns userId operatorId

structure OfPeople (s : PlatformSystem) : Prop where
  sound : Sound s
  admits : s.Admits PlatformCall.IsPersonal

lemma OfPeople.after_event (h : s.OfPeople) (hallowed : s.Allowed PlatformCall.IsPersonal event) :
    (s.step event).OfPeople :=
  ⟨sound_event h.sound hallowed, System.admits_step s event h.admits hallowed⟩

lemma OfPeople.run (h : s.OfPeople)
    (hallowed : Run.Along step (Allowed PlatformCall.IsPersonal) s events) :
    (Run.run step s events).OfPeople :=
  Run.run_of_along (fun _ _ hpeople hevent => hpeople.after_event hevent) h hallowed

lemma ofPeople_initial (hvalid : db.Valid) : OfPeople (System.initial db) :=
  ⟨System.sound_initial hvalid, System.admits_initial⟩

section

variable (h : s.OfPeople) (hallowed : s.Allowed PlatformCall.IsPersonal event)

include h hallowed

lemma anyGrants_event (hafter : (s.step event).db.AnyGrants permission) :
    s.db.AnyGrants permission := by
  rcases db_event h.sound hallowed with hsame | hothers |
    ⟨call, held, writes, hcommits, hchain, hdb, -, -⟩
  · rw [hsame] at hafter
    exact hafter
  · obtain ⟨operator, hoperator, grant, hgrant, hof⟩ := hafter
    rw [hothers.operators] at hoperator
    rw [hothers.grants] at hgrant
    exact ⟨operator, hoperator, grant, hgrant, hof⟩
  · rw [hdb] at hafter
    obtain ⟨-, -, grant, hgrant, -, hpermission, hlive⟩ := hafter
    rcases hchain.grant_cases h.sound.inv hgrant hlive with hold | hnew
    · obtain ⟨operator, hoperator, hid⟩ := h.sound.inv.grants_operator grant hold
      exact ⟨operator, hoperator, grant, hold, hid.symm, hpermission, hlive⟩
    · -- whoever gives a grant holds the permission
      obtain ⟨granter, newId, reason, rfl⟩ := (hcommits.admitted h.admits).grantsTo hnew.grantsTo
      rw [← hpermission]
      exact (hnew.held granter rfl).operatorGrants.anyGrants

lemma hasOperator_event (hbefore : ¬ s.db.HasOperator userId)
    (hafter : (s.step event).db.HasOperator userId) :
    s.Enrolled event userId := by
  obtain ⟨operator, hoperator, huserId, hstatus⟩ := hafter
  rcases db_event h.sound hallowed with hsame | hothers |
    ⟨call, held, writes, hcommits, hchain, hdb, -, -⟩
  · rw [hsame] at hoperator
    exact absurd ⟨operator, hoperator, huserId, hstatus⟩ hbefore
  · rw [hothers.operators] at hoperator
    exact absurd ⟨operator, hoperator, huserId, hstatus⟩ hbefore
  · rw [hdb] at hoperator
    rcases hchain.operator_cases h.sound.inv hoperator with
      ⟨row, hrow, -, hrowUser, hrowStatus⟩ | ⟨henrolls, -⟩
    · exact absurd ⟨row, hrow, hrowUser.trans huserId, hrowStatus hstatus⟩ hbefore
    · rw [huserId] at henrolls
      obtain ⟨newId, caller, reason, rfl⟩ := (hcommits.admitted h.admits).enrolls henrolls
      exact ⟨newId, caller, reason, hcommits⟩

lemma operatorGrants_event (hbefore : ¬ s.db.OperatorGrants userId permission)
    (hafter : (s.step event).db.OperatorGrants userId permission) :
    s.Granted event userId permission := by
  obtain ⟨operator, hoperator, huserId, hstatus, grant, hgrant, hof, hpermission, hlive⟩ := hafter
  rcases db_event h.sound hallowed with hsame | hothers |
    ⟨call, held, writes, hcommits, hchain, hdb, -, -⟩
  · rw [hsame] at hoperator hgrant
    exact absurd ⟨operator, hoperator, huserId, hstatus, grant, hgrant, hof, hpermission, hlive⟩
      hbefore
  · rw [hothers.operators] at hoperator
    rw [hothers.grants] at hgrant
    exact absurd ⟨operator, hoperator, huserId, hstatus, grant, hgrant, hof, hpermission, hlive⟩
      hbefore
  · rw [hdb] at hoperator hgrant
    have hvalid := h.sound.inv
    rcases hchain.grant_cases hvalid hgrant hlive with hold | hnew
    · -- the grant was there: so was its operator
      rcases hchain.operator_cases hvalid hoperator with
        ⟨row, hrow, hid, hrowUser, hrowStatus⟩ | ⟨-, hfresh⟩
      · exact absurd ⟨row, hrow, hrowUser.trans huserId, hrowStatus hstatus, grant, hold,
          hof.trans hid.symm, hpermission, hlive⟩ hbefore
      · obtain ⟨other, hother, hotherId⟩ := hvalid.grants_operator grant hold
        exact absurd (hotherId.trans hof) (hfresh other hother)
    · obtain ⟨granter, newId, reason, rfl⟩ := (hcommits.admitted h.admits).grantsTo hnew.grantsTo
      obtain ⟨operatorUser, hself, howns | henrolls⟩ := hnew.operator
      · obtain ⟨row, hrow, hrowId, hrowUser⟩ := howns.after writes
        have hrow' : row = operator :=
          (hchain.valid hvalid).operators_pk.eq_of_key_eq hrow hoperator (hrowId.trans hof)
        rw [hrow', huserId] at hrowUser
        subst hrowUser
        rw [hpermission] at hcommits
        refine ⟨granter, grant.operatorId, newId, reason, hcommits, ?_, ?_, howns⟩
        · rintro rfl
          exact hself rfl
        · rw [← hpermission]
          exact hvalid.platformCan_iff.mpr (hnew.held granter rfl)
      · obtain ⟨_, _, _, hcall⟩ := (hcommits.admitted h.admits).enrolls henrolls
        cases hcall

end

lemma revoked_event (h : s.OfPeople) {operatorId : Uuid} {now : Instant} {caller : Caller}
    {reason : String} (hcommits : s.Commits event (.revokeOperator operatorId now caller reason))
    (howns : s.db.Owns userId operatorId) : ¬ (s.step event).db.HasOperator userId := by
  rintro ⟨operator, hoperator, huserId, hstatus⟩
  have hvalid := h.sound.inv
  obtain ⟨held, writes, hchain, hdb, hachieved, -⟩ :=
    h.sound.guarantee_of_commits PlatformCall.program hcommits
  obtain ⟨⟨row, hrow, hid, hrowStatus⟩, hrevoked⟩ := hachieved operatorId now caller reason rfl
  have hoperator' := hoperator
  rw [show (s.step event).db = _ from hdb] at hoperator'
  rcases hchain.operator_cases hvalid hoperator' with
    ⟨row', hrow', hid', hrowUser', hrowStatus'⟩ | ⟨henrolls, -⟩
  · obtain ⟨owned, howned, hownedId, hownedUser⟩ := howns
    rw [hvalid.operators_pk.eq_of_key_eq howned hrow (hownedId.trans hid.symm)] at hownedUser
    -- the user's only operator is the revoked one
    have hsame : row = row' := hvalid.one_operator row hrow row' hrow' hrowStatus
      (hrowStatus' hstatus) (hownedUser.trans (hrowUser'.trans huserId).symm)
    refine hstatus (hrevoked operator hoperator ?_)
    rw [← hid', ← hsame]
    exact hid
  · obtain ⟨_, _, _, hcall⟩ := (hcommits.admitted h.admits).enrolls henrolls
    cases hcall

/-! ## Back through a run -/

section

variable (h : s.OfPeople) (hallowed : Run.Along step (Allowed PlatformCall.IsPersonal) s events)

include h hallowed

lemma anyGrants_run (hend : (Run.run step s events).db.AnyGrants permission) :
    s.db.AnyGrants permission := by
  by_contra hnot
  have hnever := Run.run_of_along (I := fun s : PlatformSystem =>
    s.OfPeople ∧ ¬ s.db.AnyGrants permission)
    (fun _ _ hkept hevent => ⟨hkept.1.after_event hevent,
      fun hafter => hkept.2 (anyGrants_event hkept.1 hevent hafter)⟩) ⟨h, hnot⟩ hallowed
  exact hnever.2 hend

lemma exists_granted (hstart : ¬ s.db.OperatorGrants userId permission)
    (hend : (Run.run step s events).db.OperatorGrants userId permission) :
    ∃ before event after, events = before ++ event :: after ∧
      (Run.run step s before).Granted event userId permission := by
  obtain ⟨before, event, after, rfl, hbefore, hafter⟩ :=
    Run.exists_step_of_not (I := fun s : PlatformSystem => s.db.OperatorGrants userId permission)
      hstart hend
  obtain ⟨hbeforeAllowed, hevent, -⟩ := Run.along_append.mp hallowed
  exact ⟨before, event, after, rfl,
    operatorGrants_event (h.run hbeforeAllowed) hevent hbefore hafter⟩

end

lemma exists_enrolled (permission : PlatformPermission) (h : s.OfPeople)
    (hallowed : Run.Along step (Allowed PlatformCall.IsPersonal) s events)
    (hstart : ¬ s.db.HasOperator userId) (hend : (Run.run step s events).db.HasOperator userId) :
    ∃ before event after, events = before ++ event :: after ∧
      (Run.run step s before).Enrolled event userId ∧
      ¬ (step (Run.run step s before) event).db.OperatorGrants userId permission := by
  obtain ⟨before, event, after, rfl, hbefore, hafter⟩ :=
    Run.exists_step_of_not (I := fun s : PlatformSystem => s.db.HasOperator userId) hstart hend
  obtain ⟨hbeforeAllowed, hevent, -⟩ := Run.along_append.mp hallowed
  have hpeople := h.run hbeforeAllowed
  have henrolled := hasOperator_event hpeople hevent hbefore hafter
  refine ⟨before, event, after, rfl, henrolled, fun hgrants => ?_⟩
  obtain ⟨_, _, _, _, hgrant, -⟩ := operatorGrants_event hpeople hevent
    (fun hgrants => hbefore hgrants.hasOperator) hgrants
  obtain ⟨_, _, _, henroll⟩ := henrolled
  cases henroll.unique hgrant

lemma exists_enrolled_granted (h : s.OfPeople)
    (hallowed : Run.Along step (Allowed PlatformCall.IsPersonal) s events)
    (hstart : ¬ s.db.HasOperator userId)
    (hend : (Run.run step s events).db.OperatorGrants userId permission) :
    ∃ before enrolment between grant after,
      events = before ++ enrolment :: (between ++ grant :: after) ∧
      (Run.run step s before).Enrolled enrolment userId ∧
      (Run.run step s (before ++ enrolment :: between)).Granted grant userId permission := by
  obtain ⟨before, enrolment, rest, rfl, henrolled, hnone⟩ :=
    exists_enrolled permission h hallowed hstart hend.hasOperator
  obtain ⟨hbeforeAllowed, henrolmentAllowed, hrestAllowed⟩ := Run.along_append.mp hallowed
  have hpeople := (h.run hbeforeAllowed).after_event henrolmentAllowed
  rw [Run.run_append, Run.run_cons] at hend
  obtain ⟨between, grant, after, rfl, hgranted⟩ := exists_granted hpeople hrestAllowed hnone hend
  refine ⟨before, enrolment, between, grant, after, rfl, henrolled, ?_⟩
  rw [Run.run_append, Run.run_cons]
  exact hgranted

end PlatformSystem

/-- **People cannot amplify platform permissions.**  In every interleaving of calls that people make,
from valid contents: a permission that a user has was held by some operator at the beginning, and if
the user's own operator did not hold it, then another user who held it has granted it; a call does
not change the operators of its caller or their grants; and after the revocation of a user's operator
the user has a permission only after being enrolled and being granted it, in this order. -/
theorem platformPermissions_notAmplified {db : PlatformTables} (hvalid : db.Valid)
    {events : List (Event PlatformCall PlatformTables)}
    (hallowed : Run.Along PlatformSystem.step (PlatformSystem.Allowed PlatformCall.IsPersonal)
      (System.initial db) events) :
    (∀ userId permission,
      ((Run.run PlatformSystem.step (System.initial db) events).db.platformCan userId
        permission).val = true →
      (∃ operator ∈ db.platformOperators, db.Grants operator.id permission) ∧
      ((∀ operator ∈ db.platformOperators, operator.userId = userId → operator.status ≠ .revoked →
          ¬ db.Grants operator.id permission) →
        ∃ before event after, events = before ++ event :: after ∧
          (Run.run PlatformSystem.step (System.initial db) before).Granted event userId
            permission)) ∧
    (∀ before event after call userId, events = before ++ event :: after →
      (Run.run PlatformSystem.step (System.initial db) before).Commits event call →
      call.IsBy userId →
      (Run.run PlatformSystem.step (System.initial db) (before ++ [event])).db.operatorsOf userId =
        (Run.run PlatformSystem.step (System.initial db) before).db.operatorsOf userId ∧
      (Run.run PlatformSystem.step (System.initial db) (before ++ [event])).db.grantsOf userId =
        (Run.run PlatformSystem.step (System.initial db) before).db.grantsOf userId) ∧
    (∀ before revocation between after userId permission operatorId now caller reason,
      events = before ++ revocation :: between ++ after →
      (Run.run PlatformSystem.step (System.initial db) before).Commits revocation
        (.revokeOperator operatorId now caller reason) →
      (Run.run PlatformSystem.step (System.initial db) before).db.Owns userId operatorId →
      ((Run.run PlatformSystem.step (System.initial db)
        (before ++ revocation :: between)).db.platformCan userId permission).val = true →
      ∃ between₁ enrolment between₂ grant between₃,
        between = between₁ ++ enrolment :: (between₂ ++ grant :: between₃) ∧
        (Run.run PlatformSystem.step (System.initial db)
          (before ++ revocation :: between₁)).Enrolled enrolment userId ∧
        (Run.run PlatformSystem.step (System.initial db)
          (before ++ revocation :: (between₁ ++ enrolment :: between₂))).Granted grant userId
            permission) := by
  have hstart := PlatformSystem.ofPeople_initial hvalid
  refine ⟨?_, ?_, ?_⟩
  · intro userId permission hcan
    have hgrants := ((hstart.run hallowed).sound.inv.platformCan_iff.mp hcan).operatorGrants
    refine ⟨PlatformSystem.anyGrants_run hstart hallowed hgrants.anyGrants, fun hnone => ?_⟩
    refine PlatformSystem.exists_granted hstart hallowed ?_ hgrants
    rintro ⟨operator, hoperator, huserId, hstatus, hheld⟩
    exact hnone operator hoperator huserId hstatus hheld
  · rintro before event after call userId rfl hcommits hby
    obtain ⟨hbeforeAllowed, -, -⟩ := Run.along_append.mp hallowed
    have hsound := (hstart.run hbeforeAllowed).sound
    obtain ⟨held, writes, hchain, hdb, -, -⟩ :=
      hsound.guarantee_of_commits PlatformCall.program hcommits
    have hown := hchain.own_unchanged hsound.inv hby
    rw [← show (PlatformSystem.step _ event).db = _ from hdb] at hown
    rw [Run.run_append]
    exact hown
  · rintro before revocation between after userId permission operatorId now caller reason rfl hcommits
      howns hcan
    obtain ⟨hallowed', -⟩ := Run.along_append.mp hallowed
    have hgrants := ((hstart.run hallowed').sound.inv.platformCan_iff.mp hcan).operatorGrants
    obtain ⟨hbeforeAllowed, hrevocationAllowed, hbetweenAllowed⟩ := Run.along_append.mp hallowed'
    have hpeople := hstart.run hbeforeAllowed
    have hnone := PlatformSystem.revoked_event hpeople hcommits howns
    rw [Run.run_append, Run.run_cons] at hgrants
    obtain ⟨between₁, enrolment, between₂, grant, between₃, rfl, henrolled, hgranted⟩ :=
      PlatformSystem.exists_enrolled_granted (hpeople.after_event hrevocationAllowed) hbetweenAllowed
        hnone hgrants
    refine ⟨between₁, enrolment, between₂, grant, between₃, rfl, ?_, ?_⟩
    · rw [Run.run_append, Run.run_cons]
      exact henrolled
    · rw [Run.run_append, Run.run_cons]
      exact hgranted

/-! ### A grant -/

def oneGranted : PlatformTables where
  users := [⟨1, true⟩, ⟨2, true⟩]
  platformOperators := [⟨11, 1, .active⟩, ⟨12, 2, .active⟩]
  platformGrants := [⟨21, 11, .authorityManage, none⟩]

lemma oneGranted_valid : oneGranted.Valid := by
  constructor <;> decide

def sharing : List (Event PlatformCall PlatformTables) :=
  .start 0 (.grantPlatformPermission 12 .authorityManage 22 (.user 1) "shared") ::
    List.replicate 13 (.advance 0)

lemma sharing_allowed : Run.Along PlatformSystem.step
    (PlatformSystem.Allowed PlatformCall.IsPersonal) (System.initial oneGranted) sharing :=
  ⟨⟨1, rfl⟩, Run.along_of_mem fun event hevent _ => by
    obtain rfl := List.eq_of_mem_replicate hevent
    trivial⟩

/-- The second user has the permission at the end, and has it from somebody else. -/
theorem platformPermissions_notAmplified_sharing :
    ∃ before event after, sharing = before ++ event :: after ∧
      (Run.run PlatformSystem.step (System.initial oneGranted) before).Granted event 2
        .authorityManage := by
  have hcan : ((Run.run PlatformSystem.step (System.initial oneGranted) sharing).db.platformCan 2
      .authorityManage).val = true := by decide +kernel
  have hfrom := (platformPermissions_notAmplified oneGranted_valid sharing_allowed).1 2
    .authorityManage hcan
  refine hfrom.2 ?_
  unfold PlatformTables.Grants
  decide

end SaasOs
