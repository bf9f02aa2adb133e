import SaasOs.Platform.Operators

/-!
# What the changes of platform authority owe each other

Every write of a call is justified by what the call has seen: a new operator is the only one of its
user that is not revoked, a grant goes to an operator that is not revoked, and no person touches
their own operator (`Justified`).  The writes of a transaction are justified one after the other, each
in the view of the ones before it (`Chain`).
-/

namespace SaasOs

open ReadCommitted

/-! ## Authority -/

namespace PlatformTables

/-- The operator has a grant of the permission that is not revoked. -/
def Grants (db : PlatformTables) (operatorId : Uuid) (permission : PlatformPermission) : Prop :=
  ∃ grant ∈ db.platformGrants, grant.operatorId = operatorId ∧ grant.permission = permission ∧
    grant.revokedAt = none

/-- The user is active, and an active operator with the permission. -/
def Can (db : PlatformTables) (userId : Uuid) (permission : PlatformPermission) : Prop :=
  db.ActiveUser userId ∧ ∃ operator ∈ db.platformOperators, operator.userId = userId ∧
    operator.status = .active ∧ db.Grants operator.id permission

def IsPlatformOwner (db : PlatformTables) (userId : Uuid) : Prop := db.Can userId .authorityManage

/-- What the schema says of users, operators and grants. -/
structure Valid (db : PlatformTables) : Prop where
  users_pk : Rows.UniqueOn db.users User.id
  operators_pk : Rows.UniqueOn db.platformOperators PlatformOperator.id
  grants_pk : Rows.UniqueOn db.platformGrants PlatformGrant.id
  operators_user : ∀ row ∈ db.platformOperators, ∃ user ∈ db.users, user.id = row.userId
  grants_operator : ∀ grant ∈ db.platformGrants, ∃ row ∈ db.platformOperators,
    row.id = grant.operatorId
  /-- Every user has at most one operator that is not revoked. -/
  one_operator : ∀ row ∈ db.platformOperators, ∀ row' ∈ db.platformOperators,
    row.status ≠ .revoked → row'.status ≠ .revoked → row.userId = row'.userId → row = row'

/-- Grants that are not revoked belong to operators that are not revoked. -/
def GrantsLive (db : PlatformTables) : Prop :=
  ∀ grant ∈ db.platformGrants, grant.revokedAt = none →
    ∃ row ∈ db.platformOperators, row.id = grant.operatorId ∧ row.status ≠ .revoked

lemma platformOwnerExists_iff {db : PlatformTables} :
    db.platformOwnerExists = true ↔ ∃ userId, db.IsPlatformOwner userId := by
  unfold Tables.platformOwnerExists IsPlatformOwner Can ActiveUser Grants
  simp only [List.any_eq_true, Bool.and_eq_true, beq_iff_eq, Option.isNone_iff_eq_none]
  constructor
  · rintro ⟨operator, hoperator, ⟨hstatus, user, huser, hid, hactive⟩, grant, hgrant,
      ⟨howner, hpermission⟩, hlive⟩
    exact ⟨operator.userId, ⟨user, huser, hid, hactive⟩, operator, hoperator, rfl, hstatus, grant,
      hgrant, howner, hpermission, hlive⟩
  · rintro ⟨userId, ⟨user, huser, hid, hactive⟩, operator, hoperator, rfl, hstatus, grant, hgrant,
      howner, hpermission, hlive⟩
    exact ⟨operator, hoperator, ⟨hstatus, user, huser, hid, hactive⟩, grant, hgrant,
      ⟨howner, hpermission⟩, hlive⟩

variable {userId : Uuid} {permission : PlatformPermission}

lemma Valid.platformCan_iff {db : PlatformTables} (h : db.Valid) :
    (db.platformCan userId permission).val = true ↔ db.Can userId permission := by
  have huser : db.ActiveUser userId ↔ (db.lockUserIsActive userId).val = some true := by
    unfold ActiveUser Tables.lockUserIsActive
    have hone := h.users_pk.atMostOne (p := fun row => row.id == userId) fun _ hr => beq_iff_eq.mp hr
    cases hfind : db.users.find? fun row => row.id == userId with
    | none =>
      rw [List.find?_eq_none] at hfind
      simp only [LockedRead.val_reading, reduceCtorEq, iff_false]
      rintro ⟨row, hrow, hid, -⟩
      exact hfind row hrow (beq_iff_eq.mpr hid)
    | some user =>
      obtain ⟨hmem, hid⟩ := (Rows.find?_eq_some_iff hone).mp hfind
      simp only [LockedRead.val_reading, Option.some.injEq]
      constructor
      · rintro ⟨row, hrow, hrowid, hactive⟩
        rw [hone user hmem row hrow hid (beq_iff_eq.mpr hrowid)]
        exact hactive
      · exact fun hactive => ⟨user, hmem, beq_iff_eq.mp hid, hactive⟩
  have hunrevoked : Rows.AtMostOne db.platformOperators
      fun row => row.userId == userId && row.status != .revoked := by
    intro r hr s hs hpr hps
    simp only [Bool.and_eq_true, beq_iff_eq, bne_iff_ne] at hpr hps
    exact h.one_operator r hr s hs hpr.2 hps.2 (hpr.1.trans hps.1.symm)
  unfold Can
  rw [huser]
  unfold Tables.platformCan
  simp only [LockedRead.val_bind]
  by_cases hactive : (db.lockUserIsActive userId).val = some true
  · simp only [hactive, BEq.rfl, if_true, true_and]
    cases hfind : db.platformOperators.find? fun row =>
        row.userId == userId && row.status != .revoked with
    | none =>
      rw [List.find?_eq_none] at hfind
      simp only [LockedRead.val_pure, Bool.false_eq_true, false_iff]
      rintro ⟨operator, hoperator, huserId, hstatus, -⟩
      refine hfind operator hoperator ?_
      rw [huserId, hstatus]
      simp
    | some operator =>
      obtain ⟨hmem, hp⟩ := (Rows.find?_eq_some_iff hunrevoked).mp hfind
      simp only [Bool.and_eq_true, beq_iff_eq, bne_iff_ne] at hp
      have honly : ∀ other ∈ db.platformOperators, other.userId = userId → other.status = .active →
          other = operator := by
        intro other hother huserId hstatus
        exact h.one_operator other hother operator hmem (by rw [hstatus]; decide) hp.2
          (huserId.trans hp.1.symm)
      simp only [LockedRead.val_bind, LockedRead.val_reading]
      by_cases hstatus : operator.status = .active
      · simp only [hstatus, if_true, LockedRead.val_firstHit, List.mem_filter, Bool.and_eq_true,
          beq_iff_eq, Option.isNone_iff_eq_none]
        constructor
        · rintro ⟨grant, hgrant, ⟨howner, hpermission⟩, hlive⟩
          exact ⟨operator, hmem, hp.1, hstatus, grant, hgrant, howner, hpermission, hlive⟩
        · rintro ⟨other, hother, huserId, hactive', grant, hgrant, howner, hpermission, hlive⟩
          obtain rfl := honly other hother huserId hactive'
          exact ⟨grant, hgrant, ⟨howner, hpermission⟩, hlive⟩
      · simp only [hstatus, if_false, LockedRead.val_pure, Bool.false_eq_true, false_iff]
        rintro ⟨other, hother, huserId, hactive', -⟩
        obtain rfl := honly other hother huserId hactive'
        exact hstatus hactive'
  · have hne : ((db.lockUserIsActive userId).val == some true) = false :=
      beq_eq_false_iff_ne.mpr hactive
    simp [hne, hactive]

/-- Nothing that authority depends on differs, except that there are more users. -/
structure SamePlatform (db db' : PlatformTables) : Prop where
  operators : db'.platformOperators = db.platformOperators
  grants : db'.platformGrants = db.platformGrants
  users : ∀ row ∈ db.users, row ∈ db'.users
  newUsers : ∀ row ∈ db'.users, row ∈ db.users ∨ ∀ user ∈ db.users, user.id ≠ row.id

lemma SamePlatform.refl (db : PlatformTables) : SamePlatform db db :=
  ⟨rfl, rfl, fun _ h => h, fun _ h => .inl h⟩

lemma SamePlatform.trans {db db' db'' : PlatformTables} (h : SamePlatform db db')
    (h' : SamePlatform db' db'') : SamePlatform db db'' where
  operators := h'.operators.trans h.operators
  grants := h'.grants.trans h.grants
  users row hrow := h'.users row (h.users row hrow)
  newUsers row hrow := by
    rcases h'.newUsers row hrow with hold | hnew
    · exact h.newUsers row hold
    · exact .inr fun user huser => hnew user (h.users user huser)

lemma SamePlatform.can {db db' : PlatformTables} (h : SamePlatform db db')
    (hcan : db.Can userId permission) :
    db'.Can userId permission := by
  obtain ⟨⟨row, hrow, hid, hactive⟩, operator, hoperator, huserId, hstatus, hgrants⟩ := hcan
  refine ⟨⟨row, h.users row hrow, hid, hactive⟩, operator, ?_, huserId, hstatus, ?_⟩
  · rw [h.operators]
    exact hoperator
  · unfold Grants
    rw [h.grants]
    exact hgrants

lemma SamePlatform.can_iff {db db' : PlatformTables} (h : SamePlatform db db')
    (huser : ∀ row ∈ db.platformOperators, ∃ user ∈ db.users, user.id = row.userId) :
    db'.Can userId permission ↔ db.Can userId permission := by
  refine ⟨?_, h.can⟩
  rintro ⟨⟨row, hrow, hid, hactive⟩, operator, hoperator, huserId, hstatus, hgrants⟩
  rw [h.operators] at hoperator
  refine ⟨?_, operator, hoperator, huserId, hstatus, ?_⟩
  · rcases h.newUsers row hrow with hold | hnew
    · exact ⟨row, hold, hid, hactive⟩
    · obtain ⟨user, huser, huserId'⟩ := huser operator hoperator
      exact absurd (huserId'.trans (huserId.trans hid.symm)) (hnew user huser)
  · unfold Grants at hgrants ⊢
    rw [h.grants] at hgrants
    exact hgrants

lemma SamePlatform.write {db db' : PlatformTables} (h : SamePlatform db db') (w : PlatformWrite)
    (hnew : ∀ row, w = .insertUser row → ∀ user ∈ db'.users, user.id ≠ row.id) :
    SamePlatform (db.write w) (db'.write w) := by
  cases w with
  | insertUser row =>
    refine ⟨h.operators, h.grants, ?_, ?_⟩
    · intro user huser
      rcases List.mem_append.mp huser with hold | hrow
      · exact List.mem_append_left _ (h.users user hold)
      · exact List.mem_append_right _ hrow
    · intro user huser
      rcases List.mem_append.mp huser with hold | hrow
      · refine (h.newUsers user hold).imp (fun hmem => List.mem_append_left _ hmem) ?_
        intro hfresh other hother
        rcases List.mem_append.mp hother with hother | hother
        · exact hfresh other hother
        · obtain rfl := List.mem_singleton.mp hother
          exact (hnew _ rfl user hold).symm
      · exact .inl (List.mem_append_right _ hrow)
  | insertExternalIdentity row => exact ⟨h.operators, h.grants, h.users, h.newUsers⟩
  | deleteExternalIdentities ids => exact ⟨h.operators, h.grants, h.users, h.newUsers⟩
  | insertOperator row =>
    exact ⟨congrArg (· ++ [row]) h.operators, h.grants, h.users, h.newUsers⟩
  | setOperatorStatus operatorId status =>
    exact ⟨congrArg (List.map _) h.operators, h.grants, h.users, h.newUsers⟩
  | insertGrant row => exact ⟨h.operators, congrArg (· ++ [row]) h.grants, h.users, h.newUsers⟩
  | revokeGrants ids now =>
    exact ⟨h.operators, congrArg (List.map _) h.grants, h.users, h.newUsers⟩
  | setUserActive userId isActive =>
    have hid : ∀ row : User, (if row.id = userId then { row with isActive := isActive } else row).id =
        row.id := by
      intro row
      split <;> rfl
    refine ⟨h.operators, h.grants, ?_, ?_⟩
    · intro user huser
      obtain ⟨row, hrow, rfl⟩ := List.mem_map.mp huser
      exact List.mem_map.mpr ⟨row, h.users row hrow, rfl⟩
    · intro user huser
      obtain ⟨row, hrow, rfl⟩ := List.mem_map.mp huser
      refine (h.newUsers row hrow).imp (fun hmem => List.mem_map.mpr ⟨row, hmem, rfl⟩) ?_
      intro hfresh other hother
      obtain ⟨row', hrow', rfl⟩ := List.mem_map.mp hother
      rw [hid, hid]
      exact hfresh row' hrow'
  | revokeSessions ids now | revokeApiKeys ids now | insertSession row | insertApiKey row
  | recordRotation row | insertPermission row =>
    exact ⟨h.operators, h.grants, h.users, h.newUsers⟩

end PlatformTables

/-! ## Writes and what justifies them -/

namespace PlatformCall

def caller? : PlatformCall → Option Caller
  | enrollOperator _ _ caller _ | suspendOperator _ caller _ | reactivateOperator _ caller _
  | revokeOperator _ _ caller _ | grantPlatformPermission _ _ _ caller _
  | revokePlatformPermission _ _ _ caller _ | bootstrapPlatformOwner _ _ _ caller _
  | recoverPlatformAuthority _ _ _ _ caller _ | deactivateUser _ _ _ caller _
  | reactivateUser _ _ caller _ => some caller
  | removeIdentityLinks _ actorUserId => some (.user actorUserId)
  | firstLogin _ _ _ _ => none

def IsBy (call : PlatformCall) (userId : Uuid) : Prop := call.caller? = some (.user userId)

def IsComposite : PlatformCall → Prop
  | bootstrapPlatformOwner _ _ _ _ _ | recoverPlatformAuthority _ _ _ _ _ _ => True
  | _ => False

def Enrolls (call : PlatformCall) (userId : Uuid) : Prop :=
  (∃ newId caller reason, call = enrollOperator userId newId caller reason) ∨ call.IsComposite

def GrantsTo (call : PlatformCall) (operatorId : Uuid) (permission : PlatformPermission) : Prop :=
  (∃ newId caller reason, call = grantPlatformPermission operatorId permission newId caller reason) ∨
    call.IsComposite

end PlatformCall

/-- What a call that holds the locks has made sure of when it writes, in the committed contents and
in the view of its transaction. -/
def Justified (call : PlatformCall) (held : Locks PlatformLock) (db view : PlatformTables) :
    PlatformWrite → Prop
  | .insertUser row =>
    (PlatformLock.newUser row.id, LockMode.exclusive) ∈ held ∧ ∀ user ∈ view.users, user.id ≠ row.id
  | .insertExternalIdentity _ => True
  | .deleteExternalIdentities _ => True
  | .insertOperator row =>
    (PlatformLock.owners, LockMode.exclusive) ∈ held ∧ call.Enrolls row.userId ∧
      ¬ call.IsBy row.userId ∧ (∀ other ∈ view.platformOperators, other.id ≠ row.id) ∧
      (∀ other ∈ view.platformOperators, other.userId = row.userId → other.status = .revoked) ∧
      ∃ user ∈ view.users, user.id = row.userId
  | .setOperatorStatus operatorId status =>
    (PlatformLock.owners, LockMode.exclusive) ∈ held ∧
      ∃ row ∈ view.platformOperators, row.id = operatorId ∧ row.status ≠ .revoked ∧
        ¬ call.IsBy row.userId ∧
        (status = .revoked → ∀ grant ∈ view.platformGrants, grant.operatorId = operatorId →
          grant.revokedAt ≠ none)
  | .insertGrant row =>
    (PlatformLock.owners, LockMode.exclusive) ∈ held ∧ row.revokedAt = none ∧
      call.GrantsTo row.operatorId row.permission ∧
      (∀ other ∈ view.platformGrants, other.id ≠ row.id) ∧
      (∀ userId, call.IsBy userId → db.Can userId row.permission) ∧
      ∃ operator ∈ view.platformOperators, operator.id = row.operatorId ∧
        operator.status ≠ .revoked ∧ ¬ call.IsBy operator.userId
  | .revokeGrants ids _ =>
    (PlatformLock.owners, LockMode.exclusive) ∈ held ∧
      ∀ grant ∈ view.platformGrants, grant.id ∈ ids → ∃ operator ∈ view.platformOperators,
        operator.id = grant.operatorId ∧ ¬ call.IsBy operator.userId
  | .setUserActive _ _ => (PlatformLock.owners, LockMode.exclusive) ∈ held
  | .revokeSessions _ _ | .revokeApiKeys _ _ | .insertSession _ | .insertApiKey _
  | .recordRotation _ | .insertPermission _ => True

/-- The writes of a transaction, each justified in the view of the ones before it. -/
inductive Chain (call : PlatformCall) (held : Locks PlatformLock) (db : PlatformTables) :
    List PlatformWrite → Prop
  | nil : Chain call held db []
  | concat {writes : List PlatformWrite} {w : PlatformWrite} (h : Chain call held db writes)
      (hw : Justified call held db (db.after writes) w) : Chain call held db (writes ++ [w])

variable {call : PlatformCall} {held held' : Locks PlatformLock} {db db' view view' : PlatformTables}
  {w : PlatformWrite} {writes : List PlatformWrite}

lemma Justified.of_held (hheld : ∀ l ∈ held, l ∈ held') (h : Justified call held db view w) :
    Justified call held' db view w := by
  cases w with
  | insertUser row => exact h.imp_left (hheld _)
  | insertOperator row => exact h.imp_left (hheld _)
  | setOperatorStatus operatorId status => exact h.imp_left (hheld _)
  | insertGrant row => exact h.imp_left (hheld _)
  | revokeGrants ids now => exact h.imp_left (hheld _)
  | setUserActive userId isActive => exact hheld _ h
  | insertExternalIdentity row => trivial
  | deleteExternalIdentities ids => trivial
  | revokeSessions ids now | revokeApiKeys ids now | insertSession row | insertApiKey row
  | recordRotation row | insertPermission row => trivial

lemma Chain.of_held (hheld : ∀ l ∈ held, l ∈ held') (h : Chain call held db writes) :
    Chain call held' db writes := by
  induction h with
  | nil => exact .nil
  | concat _ hw ih => exact ih.concat (hw.of_held hheld)

lemma Justified.of_same (h : Justified call held db view w) (hdb : db.SamePlatform db')
    (hview : view.SamePlatform view')
    (hnew : ∀ row, w = .insertUser row → ∀ user ∈ view'.users, user.id ≠ row.id) :
    Justified call held db' view' w := by
  cases w with
  | insertUser row => exact ⟨h.1, hnew row rfl⟩
  | insertOperator row =>
    obtain ⟨howners, henrolls, hother, hid, huser, user, hmem, huserId⟩ := h
    rw [← hview.operators] at hid huser
    exact ⟨howners, henrolls, hother, hid, huser, user, hview.users user hmem, huserId⟩
  | setOperatorStatus operatorId status =>
    obtain ⟨howners, row, hrow⟩ := h
    rw [← hview.operators, ← hview.grants] at hrow
    exact ⟨howners, row, hrow⟩
  | insertGrant row =>
    obtain ⟨howners, hlive, hgrants, hid, hheld, operator, hoperator⟩ := h
    rw [← hview.operators] at hoperator
    rw [← hview.grants] at hid
    exact ⟨howners, hlive, hgrants, hid, fun userId hby => hdb.can (hheld userId hby), operator,
      hoperator⟩
  | revokeGrants ids now =>
    obtain ⟨howners, hall⟩ := h
    rw [← hview.operators, ← hview.grants] at hall
    exact ⟨howners, hall⟩
  | setUserActive userId isActive => exact h
  | insertExternalIdentity row => trivial
  | deleteExternalIdentities ids => trivial
  | revokeSessions ids now | revokeApiKeys ids now | insertSession row | insertApiKey row
  | recordRotation row | insertPermission row => trivial

lemma PlatformTables.Valid.write (h : view.Valid) (hw : Justified call held db view w) :
    (view.write w).Valid := by
  cases w with
  | insertUser row =>
    refine { h with users_pk := h.users_pk.concat hw.2, operators_user := ?_ }
    intro operator hoperator
    obtain ⟨user, huser, hid⟩ := h.operators_user operator hoperator
    exact ⟨user, List.mem_append_left _ huser, hid⟩
  | insertExternalIdentity row => exact { h with }
  | deleteExternalIdentities ids => exact { h with }
  | revokeSessions ids now | revokeApiKeys ids now | insertSession row | insertApiKey row
  | recordRotation row | insertPermission row => exact { h with }
  | insertOperator row =>
    obtain ⟨-, -, -, hid, hrevoked, huser⟩ := hw
    have hmem : ∀ other, other ∈ view.platformOperators ++ [row] →
        other ∈ view.platformOperators ∨ other = row := by
      intro other hother
      exact (List.mem_append.mp hother).imp_right List.mem_singleton.mp
    refine { h with
      operators_pk := h.operators_pk.concat hid
      operators_user := ?_
      grants_operator := ?_
      one_operator := ?_ }
    · intro operator hoperator
      rcases hmem operator hoperator with hold | rfl
      · exact h.operators_user operator hold
      · exact huser
    · intro grant hgrant
      obtain ⟨operator, hoperator, hid⟩ := h.grants_operator grant hgrant
      exact ⟨operator, List.mem_append_left _ hoperator, hid⟩
    · intro a ha b hb hsa hsb huserId
      rcases hmem a ha with holda | hnewa
      · rcases hmem b hb with holdb | hnewb
        · exact h.one_operator a holda b holdb hsa hsb huserId
        · exact absurd (hrevoked a holda (hnewb ▸ huserId)) hsa
      · rcases hmem b hb with holdb | hnewb
        · exact absurd (hrevoked b holdb (hnewa ▸ huserId.symm)) hsb
        · exact hnewa.trans hnewb.symm
  | setOperatorStatus operatorId status =>
    obtain ⟨-, row, hrow, rfl, hstatus, -, -⟩ := hw
    have hid : ∀ r : PlatformOperator,
        (if r.id = row.id then { r with status := status } else r).id = r.id := by
      intro r
      split <;> rfl
    have huserId : ∀ r : PlatformOperator,
        (if r.id = row.id then { r with status := status } else r).userId = r.userId := by
      intro r
      split <;> rfl
    have hbefore : ∀ r ∈ view.platformOperators,
        (if r.id = row.id then { r with status := status } else r).status ≠ .revoked →
        r.status ≠ .revoked := by
      intro r hr hafter
      split at hafter
      · next heq =>
        rw [h.operators_pk.eq_of_key_eq hr hrow heq]
        exact hstatus
      · exact hafter
    refine { h with
      operators_pk := h.operators_pk.map_of_key hid
      operators_user := ?_
      grants_operator := ?_
      one_operator := ?_ }
    · intro operator hoperator
      obtain ⟨r, hr, rfl⟩ := List.mem_map.mp hoperator
      rw [huserId]
      exact h.operators_user r hr
    · intro grant hgrant
      obtain ⟨r, hr, hrid⟩ := h.grants_operator grant hgrant
      exact ⟨_, List.mem_map.mpr ⟨r, hr, rfl⟩, (hid r).trans hrid⟩
    · intro a ha b hb hsa hsb hab
      obtain ⟨r, hr, rfl⟩ := List.mem_map.mp ha
      obtain ⟨r', hr', rfl⟩ := List.mem_map.mp hb
      rw [huserId, huserId] at hab
      rw [h.one_operator r hr r' hr' (hbefore r hr hsa) (hbefore r' hr' hsb) hab]
  | insertGrant row =>
    obtain ⟨-, -, -, hid, -, operator, hoperator, hoperatorId, -, -⟩ := hw
    have hmem : ∀ other, other ∈ view.platformGrants ++ [row] →
        other ∈ view.platformGrants ∨ other = row := by
      intro other hother
      exact (List.mem_append.mp hother).imp_right List.mem_singleton.mp
    refine { h with
      grants_pk := h.grants_pk.concat hid
      grants_operator := ?_ }
    intro grant hgrant
    rcases hmem grant hgrant with hold | rfl
    · exact h.grants_operator grant hold
    · exact ⟨operator, hoperator, hoperatorId⟩
  | revokeGrants ids now =>
    have hid : ∀ r : PlatformGrant,
        (if r.id ∈ ids then { r with revokedAt := some now } else r).id = r.id := by
      intro r
      split <;> rfl
    have hoperatorId : ∀ r : PlatformGrant,
        (if r.id ∈ ids then { r with revokedAt := some now } else r).operatorId = r.operatorId := by
      intro r
      split <;> rfl
    refine { h with
      grants_pk := h.grants_pk.map_of_key hid
      grants_operator := ?_ }
    intro grant hgrant
    obtain ⟨r, hr, rfl⟩ := List.mem_map.mp hgrant
    rw [hoperatorId]
    exact h.grants_operator r hr
  | setUserActive userId isActive =>
    have hid : ∀ r : User,
        (if r.id = userId then { r with isActive := isActive } else r).id = r.id := by
      intro r
      split <;> rfl
    refine { h with users_pk := h.users_pk.map_of_key hid, operators_user := ?_ }
    intro operator hoperator
    obtain ⟨user, huser, huserId⟩ := h.operators_user operator hoperator
    exact ⟨_, List.mem_map.mpr ⟨user, huser, rfl⟩, (hid user).trans huserId⟩

lemma PlatformTables.GrantsLive.write (h : view.GrantsLive) (hw : Justified call held db view w) :
    (view.write w).GrantsLive := by
  intro grant hgrant hlive
  cases w with
  | insertUser row => exact h grant hgrant hlive
  | insertExternalIdentity row => exact h grant hgrant hlive
  | deleteExternalIdentities ids => exact h grant hgrant hlive
  | revokeSessions ids now | revokeApiKeys ids now | insertSession row | insertApiKey row
  | recordRotation row | insertPermission row => exact h grant hgrant hlive
  | setUserActive userId isActive => exact h grant hgrant hlive
  | insertOperator row =>
    obtain ⟨operator, hoperator, hid, hstatus⟩ := h grant hgrant hlive
    exact ⟨operator, List.mem_append_left _ hoperator, hid, hstatus⟩
  | setOperatorStatus operatorId status =>
    obtain ⟨-, -, -, -, -, -, hnone⟩ := hw
    obtain ⟨r, hr, hrid, hrstatus⟩ := h grant hgrant hlive
    refine ⟨_, List.mem_map.mpr ⟨r, hr, rfl⟩, ?_, ?_⟩
    · split
      · exact hrid
      · exact hrid
    · split
      · next heq =>
        -- the operator of a live grant is not being revoked
        exact fun hrevoked => hnone hrevoked grant hgrant (hrid.symm.trans heq) hlive
      · exact hrstatus
  | insertGrant row =>
    obtain ⟨-, -, -, -, -, operator, hoperator, hoperatorId, hstatus, -⟩ := hw
    rcases List.mem_append.mp hgrant with hold | hnew
    · exact h grant hold hlive
    · obtain rfl := List.mem_singleton.mp hnew
      exact ⟨operator, hoperator, hoperatorId, hstatus⟩
  | revokeGrants ids now =>
    obtain ⟨r, hr, rfl⟩ := List.mem_map.mp hgrant
    by_cases hid : r.id ∈ ids
    · rw [if_pos hid] at hlive
      cases hlive
    · rw [if_neg hid] at hlive ⊢
      exact h r hr hlive

lemma Chain.grantsLive (h : Chain call held db writes) (hlive : db.GrantsLive) :
    (db.after writes).GrantsLive := by
  induction h with
  | nil => exact hlive
  | concat _ hw ih =>
    rw [PlatformTables.after_concat]
    exact ih.write hw

lemma Chain.valid (h : Chain call held db writes) (hvalid : db.Valid) : (db.after writes).Valid := by
  induction h with
  | nil => exact hvalid
  | concat _ hw ih =>
    rw [PlatformTables.after_concat]
    exact ih.write hw

lemma Justified.samePlatform (h : Justified call held db view w)
    (hheld : (PlatformLock.owners, LockMode.exclusive) ∉ held) :
    view.SamePlatform (view.write w) := by
  cases w with
  | insertUser row =>
    refine ⟨rfl, rfl, fun user huser => List.mem_append_left _ huser, ?_⟩
    intro user huser
    rcases List.mem_append.mp huser with hold | hnew
    · exact .inl hold
    · obtain rfl := List.mem_singleton.mp hnew
      exact .inr h.2
  | insertOperator row => exact absurd h.1 hheld
  | setOperatorStatus operatorId status => exact absurd h.1 hheld
  | insertGrant row => exact absurd h.1 hheld
  | revokeGrants ids now => exact absurd h.1 hheld
  | setUserActive userId isActive => exact absurd h hheld
  | insertExternalIdentity row => exact ⟨rfl, rfl, fun _ hrow => hrow, fun _ hrow => .inl hrow⟩
  | deleteExternalIdentities ids => exact ⟨rfl, rfl, fun _ hrow => hrow, fun _ hrow => .inl hrow⟩
  | revokeSessions ids now | revokeApiKeys ids now | insertSession row | insertApiKey row
  | recordRotation row | insertPermission row =>
    exact ⟨rfl, rfl, fun _ hrow => hrow, fun _ hrow => .inl hrow⟩

lemma Chain.samePlatform (h : Chain call held db writes)
    (hheld : (PlatformLock.owners, LockMode.exclusive) ∉ held) :
    db.SamePlatform (db.after writes) := by
  induction h with
  | nil => exact .refl db
  | concat _ hw ih =>
    rw [PlatformTables.after_concat]
    exact ih.trans (hw.samePlatform hheld)

/-! ### The ids of users -/

def PlatformTables.HasUser (db : PlatformTables) (userId : Uuid) : Prop :=
  ∃ user ∈ db.users, user.id = userId

variable {userId : Uuid}

lemma PlatformTables.hasUser_write : (db.write w).HasUser userId ↔
    db.HasUser userId ∨ ∃ row, w = .insertUser row ∧ row.id = userId := by
  cases w with
  | insertUser row =>
    unfold HasUser write
    simp only [List.mem_append, List.mem_singleton, or_and_right, exists_or, exists_eq_left,
      PlatformWrite.insertUser.injEq, exists_eq_left']
  | setUserActive id isActive =>
    have hid : ∀ r : User,
        (if r.id = id then { r with isActive := isActive } else r).id = r.id := by
      intro r
      split <;> rfl
    unfold HasUser write
    simp only [List.mem_map, exists_exists_and_eq_and, hid, reduceCtorEq, false_and, exists_false,
      or_false]
  | insertOperator row | setOperatorStatus operatorId status | insertGrant row | revokeGrants ids now
  | insertExternalIdentity row | deleteExternalIdentities ids | revokeSessions ids now
  | revokeApiKeys ids now | insertSession row | insertApiKey row | recordRotation row
  | insertPermission row =>
    simp [HasUser, write]

lemma PlatformTables.hasUser_after : (db.after writes).HasUser userId ↔
    db.HasUser userId ∨ ∃ row, .insertUser row ∈ writes ∧ row.id = userId := by
  induction writes using List.reverseRecOn with
  | nil => simp
  | append_singleton writes w ih =>
    rw [after_concat, hasUser_write, ih, or_assoc]
    refine or_congr_right ?_
    simp only [List.mem_append, List.mem_singleton, or_and_right, exists_or, eq_comm (b := w)]

lemma Chain.newUser_mem (h : Chain call held db writes) {row : User}
    (hrow : .insertUser row ∈ writes) : (PlatformLock.newUser row.id, LockMode.exclusive) ∈ held := by
  induction h with
  | nil => cases hrow
  | concat _ hw ih =>
    rcases List.mem_append.mp hrow with hold | hnew
    · exact ih hold
    · obtain rfl := List.mem_singleton.mp hnew
      exact hw.1

lemma Chain.of_same (h : Chain call held db writes) (hdb : db.SamePlatform db')
    (hnew : ∀ userId, (PlatformLock.newUser userId, LockMode.exclusive) ∈ held →
      db'.HasUser userId → db.HasUser userId) :
    Chain call held db' writes ∧ (db.after writes).SamePlatform (db'.after writes) := by
  induction h with
  | nil => exact ⟨.nil, hdb⟩
  | @concat writes w hchain hw ih =>
    obtain ⟨hchain', hview⟩ := ih
    have hfresh : ∀ row, w = .insertUser row → ∀ user ∈ (db'.after writes).users,
        user.id ≠ row.id := by
      rintro row rfl user huser hid
      have hhas : (db.after writes).HasUser row.id := by
        rw [PlatformTables.hasUser_after]
        refine (PlatformTables.hasUser_after.mp ⟨user, huser, hid⟩).imp_left ?_
        exact hnew row.id hw.1
      obtain ⟨other, hother, hotherId⟩ := hhas
      exact hw.2 other hother hotherId
    rw [PlatformTables.after_concat, PlatformTables.after_concat]
    exact ⟨hchain'.concat (hw.of_same hdb hview hfresh), hview.write w hfresh⟩

/-! ## The protocol -/

/-- What does not change while a call holds the locks. -/
structure PlatformRely (held : Locks PlatformLock) (db db' : PlatformTables) : Prop where
  platform : (PlatformLock.owners, LockMode.exclusive) ∈ held → db.SamePlatform db'
  newUser : ∀ userId, (PlatformLock.newUser userId, LockMode.exclusive) ∈ held →
    db'.HasUser userId → db.HasUser userId

/-- What the others leave alone: users, links to identities, operators and grants. -/
structure PlatformTables.OthersChange (db db' : PlatformTables) : Prop where
  users : db'.users = db.users
  externalIdentities : db'.externalIdentities = db.externalIdentities
  operators : db'.platformOperators = db.platformOperators
  grants : db'.platformGrants = db.platformGrants

/-- What a call has achieved when it commits: a revocation finds an operator that is not revoked, and
leaves it revoked. -/
def PlatformCall.Achieved (call : PlatformCall) (db db' : PlatformTables) : Prop :=
  ∀ operatorId now caller reason, call = .revokeOperator operatorId now caller reason →
    (∃ row ∈ db.platformOperators, row.id = operatorId ∧ row.status ≠ .revoked) ∧
      ∀ row ∈ db'.platformOperators, row.id = operatorId → row.status = .revoked

/-- What the calls owe each other: justified writes, which achieve what the call is for, and an owner
if there was one. -/
def platformProtocol : Protocol PlatformCall PlatformTables PlatformWrite PlatformLock where
  apply := PlatformTables.write
  Inv := PlatformTables.Valid
  Guarantee call held db db' := ∃ writes, Chain call held db writes ∧ db' = db.after writes ∧
    call.Achieved db db' ∧
    ((∃ userId, db.IsPlatformOwner userId) → ∃ userId, db'.IsPlatformOwner userId)
  External := PlatformTables.OthersChange
  Rely := PlatformRely
  rely_refl held db := ⟨fun _ => .refl db, fun _ _ h => h⟩
  rely_trans held db db' db'' h h' :=
    ⟨fun hheld => (h.platform hheld).trans (h'.platform hheld),
      fun userId hheld hhas => h.newUser userId hheld (h'.newUser userId hheld hhas)⟩
  inv_of_guarantee call held db db' hinv h := by
    obtain ⟨writes, hchain, rfl, -, -⟩ := h
    exact hchain.valid hinv
  inv_of_external db db' hinv h := by
    obtain ⟨husers, -, hoperators, hgrants⟩ := h
    exact
      { users_pk := husers ▸ hinv.users_pk
        operators_pk := hoperators ▸ hinv.operators_pk
        grants_pk := hgrants ▸ hinv.grants_pk
        operators_user := by
          rw [hoperators, husers]
          exact hinv.operators_user
        grants_operator := by
          rw [hoperators, hgrants]
          exact hinv.grants_operator
        one_operator := by
          rw [hoperators]
          exact hinv.one_operator }
  rely_of_guarantee call held held' db db' hcompatible hinv h := by
    obtain ⟨writes, hchain, rfl, -, -⟩ := h
    refine ⟨fun hheld => hchain.samePlatform (hcompatible.not_mem hheld _), ?_⟩
    intro userId hheld hhas
    rcases PlatformTables.hasUser_after.mp hhas with hold | ⟨row, hrow, rfl⟩
    · exact hold
    · exact absurd (hchain.newUser_mem hrow) (hcompatible.not_mem hheld _)
  rely_of_external held db db' hinv h := by
    obtain ⟨husers, -, hoperators, hgrants⟩ := h
    refine ⟨fun _ => ⟨hoperators, hgrants, ?_, ?_⟩, ?_⟩
    · intro row hrow
      rw [husers]
      exact hrow
    · intro row hrow
      rw [husers] at hrow
      exact .inl hrow
    · intro userId _ hhas
      unfold PlatformTables.HasUser at hhas
      rw [husers] at hhas
      exact hhas

/-! ## Calls that hold the lock on the owners -/

def NothingCommitted (_ : PlatformError) (committed : List PlatformWrite) : Prop := committed = []

/-- A call in its transaction, with the lock on the owners; `origin` are the contents when it got the
lock. -/
structure Working (call : PlatformCall) (origin : PlatformTables)
    (t : Standing PlatformWrite PlatformLock) (db : PlatformTables) : Prop where
  owners : (PlatformLock.owners, LockMode.exclusive) ∈ t.held
  committed : t.committed = []
  chain : Chain call t.held db t.writes
  valid : origin.Valid
  same : origin.SamePlatform db

variable {origin : PlatformTables} {t : Standing PlatformWrite PlatformLock} {α : Type}
  {Q : α → Standing PlatformWrite PlatformLock → PlatformTables → Prop}

lemma Working.of_rely (h : Working call origin t db) (hrely : PlatformRely t.held db db') :
    Working call origin t db' ∧ (db.after t.writes).SamePlatform (db'.after t.writes) := by
  have hsame := hrely.platform h.owners
  obtain ⟨hchain, hview⟩ := h.chain.of_same hsame hrely.newUser
  exact ⟨⟨h.owners, h.committed, hchain, h.valid, h.same.trans hsame⟩, hview⟩

lemma Working.of_held (h : Working call origin t db) (hheld : ∀ l ∈ t.held, l ∈ held) :
    Working call origin { t with held := held } db :=
  ⟨hheld _ h.owners, h.committed, h.chain.of_held hheld, h.valid, h.same⟩

lemma Working.concat (h : Working call origin t db)
    (hw : Justified call t.held db (db.after t.writes) w) :
    Working call origin { t with writes := t.writes ++ [w] } db :=
  ⟨h.owners, h.committed, h.chain.concat hw, h.valid, h.same⟩

variable {mode : LockMode} {resources : PlatformTables → List PlatformLock}
   {result : PlatformTables → Except PlatformError α}

lemma Working.safe_statement (h : Working call origin t db)
    {write : PlatformTables → List PlatformWrite}
    (hok : ∀ held db' a, db'.Valid → db.SamePlatform db' →
      (db.after t.writes).SamePlatform (db'.after t.writes) →
      (∀ resource ∈ resources (db'.after t.writes), (resource, mode) ∈ held) →
      Working call origin { t with held := held } db' → result (db'.after t.writes) = .ok a →
      Q a { t with held := held, writes := t.writes ++ write (db'.after t.writes) } db') :
    platformProtocol.SafeBody call Q NothingCommitted
      (Body.statement mode resources write result) t db := by
  refine Protocol.safeBody_statement fun db' hrely hvalid => ?_
  obtain ⟨hworking, hview⟩ := h.of_rely hrely
  change Except.casesOn (result (db'.after t.writes)) _ _
  cases hresult : result (db'.after t.writes) with
  | error e => exact h.committed
  | ok a =>
    refine hok _ db' a hvalid (hrely.platform h.owners) hview ?_ ?_ hresult
    · intro resource hresource
      exact List.mem_append_left _ (List.mem_map.mpr ⟨resource, hresource, rfl⟩)
    · exact hworking.of_held fun l hl => List.mem_append_right _ hl

lemma Working.safe_lockedRead (h : Working call origin t db)
    (hok : ∀ held db' a, db'.Valid → db.SamePlatform db' →
      (db.after t.writes).SamePlatform (db'.after t.writes) →
      Working call origin { t with held := held } db' → result (db'.after t.writes) = .ok a →
      Q a { t with held := held } db') :
    platformProtocol.SafeBody call Q NothingCommitted
      (Body.lockedRead mode resources result) t db := by
  refine h.safe_statement fun held db' a hvalid hdb hview _ hworking hresult => ?_
  rw [List.append_nil]
  exact hok held db' a hvalid hdb hview hworking hresult

/-- What a call knows when it has made these writes, in these committed contents. -/
abbrev Knowledge := List PlatformWrite → PlatformTables → Prop

def Stable (F : Knowledge) : Prop :=
  ∀ writes db db', db.SamePlatform db' → (db.after writes).SamePlatform (db'.after writes) →
    F writes db → F writes db'

/-- The body keeps the protocol when the call knows `F`, and when it returns the call knows `G`. -/
def Triple (call : PlatformCall) (F : Knowledge) (body : PlatformBody α) (G : α → Knowledge) : Prop :=
  ∀ origin t db (Q : α → Standing PlatformWrite PlatformLock → PlatformTables → Prop),
    Working call origin t db → db.Valid → F t.writes db →
    (∀ a t' db', db'.Valid → Working call origin t' db' → G a t'.writes db' → Q a t' db') →
    platformProtocol.SafeBody call Q NothingCommitted body t db

def nothing : Knowledge := fun _ _ => True

lemma stable_nothing : Stable nothing := fun _ _ _ _ _ _ => trivial

def nothingWritten : Knowledge := fun writes _ => writes = []

lemma stable_nothingWritten : Stable nothingWritten := fun _ _ _ _ _ h => h

section Triple

variable {β : Type} {F F' : Knowledge} {G G' : α → Knowledge} {H : β → Knowledge}

variable {body : PlatformBody α}

lemma Triple.weaken (h : Triple call F body G) (hF : ∀ writes db, F' writes db → F writes db)
    (hG : ∀ a writes db, G a writes db → G' a writes db) : Triple call F' body G' := by
  intro origin t db Q hworking hvalid hknown hQ
  refine h origin t db Q hworking hvalid (hF _ _ hknown) ?_
  exact fun a t' db' hvalid' hworking' hknown' => hQ a t' db' hvalid' hworking' (hG _ _ _ hknown')

lemma triple_pure {a : α} (h : ∀ writes db, F writes db → G a writes db) :
    Triple call F (pure a) G :=
  fun _ t db _ hworking hvalid hknown hQ =>
    Protocol.safeBody_pure (hQ a t db hvalid hworking (h _ _ hknown))

lemma triple_throw {e : PlatformError} : Triple call F (throw e : PlatformBody α) G :=
  fun _ _ _ _ hworking _ _ _ => Protocol.safeBody_throw hworking.committed

lemma Triple.bind {f : α → PlatformBody β} (h : Triple call F body G)
    (hf : ∀ a, Triple call (G a) (f a) H) : Triple call F (body >>= f) H := by
  intro origin t db Q hworking hvalid hknown hQ
  refine Protocol.safeBody_bind (h origin t db _ hworking hvalid hknown ?_)
  exact fun a t' db' hvalid' hworking' hknown' =>
    hf a origin t' db' Q hworking' hvalid' hknown' hQ

lemma triple_check {result : Except PlatformError α} :
    Triple call F (Body.check result) fun a writes db => F writes db ∧ result = .ok a := by
  intro origin t db Q hworking hvalid hknown hQ
  refine Protocol.safeBody_check ?_
  cases hresult : result with
  | error e => exact hworking.committed
  | ok a => exact hQ a t db hvalid hworking ⟨hknown, hresult⟩

lemma triple_require {result : Except PlatformError α} :
    Triple call F (Body.check result) fun _ => F :=
  triple_check.weaken (fun _ _ h => h) fun _ _ _ h => h.1

variable {mode : LockMode} {resources : PlatformTables → List PlatformLock}
   {result : PlatformTables → Except PlatformError α}

lemma triple_lockedRead (hF : Stable F)
    (hG : ∀ a writes db, db.Valid → (db.after writes).Valid → F writes db →
      result (db.after writes) = .ok a → G a writes db) :
    Triple call F (Body.lockedRead mode resources result) G := by
  intro origin t db Q hworking hvalid hknown hQ
  refine hworking.safe_lockedRead fun held db' a hvalid' hdb hview hworking' hresult => ?_
  refine hQ a _ db' hvalid' hworking' ?_
  exact hG a _ _ hvalid' (hworking'.chain.valid hvalid') (hF _ _ _ hdb hview hknown) hresult

lemma triple_query (hF : Stable F) :
    Triple call F (Body.lockedRead mode resources result) fun _ => F :=
  triple_lockedRead hF fun _ _ _ _ _ hknown _ => hknown

variable {write : PlatformTables → PlatformWrite}

lemma triple_write_of (hF : Stable F)
    (h : ∀ held writes db a, (PlatformLock.owners, LockMode.exclusive) ∈ held → db.Valid →
      (db.after writes).Valid → F writes db → result (db.after writes) = .ok a →
      Justified call held db (db.after writes) (write (db.after writes)) ∧
        G a (writes ++ [write (db.after writes)]) db) :
    Triple call F (Body.statement mode resources (fun db => [write db]) result) G := by
  intro origin t db Q hworking _ hknown hQ
  refine hworking.safe_statement fun held db' a hvalid' hdb hview _ hworking' hresult => ?_
  obtain ⟨hjustified, hafter⟩ := h held t.writes db' a hworking'.owners hvalid'
    (hworking'.chain.valid hvalid') (hF _ _ _ hdb hview hknown) hresult
  exact hQ a _ db' hvalid' (hworking'.concat hjustified) hafter

lemma triple_write (hF : Stable F)
    (h : ∀ held writes db a, (PlatformLock.owners, LockMode.exclusive) ∈ held → db.Valid →
      (db.after writes).Valid → F writes db → result (db.after writes) = .ok a →
      Justified call held db (db.after writes) (write (db.after writes))) :
    Triple call F (Body.statement mode resources (fun db => [write db]) result) fun _ => nothing :=
  triple_write_of hF fun held writes db a howners hvalid hview hknown hresult =>
    ⟨h held writes db a howners hvalid hview hknown hresult, trivial⟩

end Triple

/-! ## The statements -/

section Statements

variable {F : Knowledge}

lemma triple_lockedQuery {query : PlatformTables → Locked α} (hF : Stable F) :
    Triple call F (lockedQuery query) fun _ => F :=
  triple_query hF

variable {caller : Caller}

variable {operation : PlatformOperation}

lemma authorizePlatformCaller_triple (hF : Stable F) :
    Triple call F (authorizePlatformCaller caller operation) fun _ => F :=
  (triple_lockedQuery hF).bind fun _ => triple_require

lemma authorizeAll_triple {operations : List PlatformOperation} (hF : Stable F) :
    Triple call F (authorizeAll caller operations) fun _ => F := by
  induction operations with
  | nil => exact triple_pure fun _ _ h => h
  | cons operation operations ih => exact (authorizePlatformCaller_triple hF).bind fun _ => ih

variable {userId : Uuid}

lemma requireActiveSubject_triple (hF : Stable F) :
    Triple call F (requireActiveSubject userId) fun _ => F := by
  refine (triple_lockedQuery hF).bind fun isActive => ?_
  cases isActive with
  | none => exact triple_throw
  | some isActive =>
    cases isActive with
    | false => exact triple_throw
    | true => exact triple_pure fun _ _ h => h

def knowsOperator (operatorId : Uuid) (operator : PlatformOperator) : Knowledge := fun writes db =>
  operator ∈ (db.after writes).platformOperators ∧ operator.id = operatorId

lemma stable_knowsOperator (operatorId : Uuid) (operator : PlatformOperator) :
    Stable (knowsOperator operatorId operator) := by
  intro writes db db' _ hview h
  unfold knowsOperator
  rw [hview.operators]
  exact h

lemma Stable.and {G : Knowledge} (hF : Stable F) (hG : Stable G) :
    Stable fun writes db => F writes db ∧ G writes db :=
  fun writes db db' hdb hview h => ⟨hF writes db db' hdb hview h.1, hG writes db db' hdb hview h.2⟩

lemma stable_const (p : Prop) : Stable fun _ _ => p := fun _ _ _ _ _ h => h

lemma lockOperator_triple {operatorId : Uuid} (hF : Stable F) :
    Triple call F (lockOperator operatorId) fun operator writes db =>
      F writes db ∧ knowsOperator operatorId operator writes db := by
  refine triple_lockedRead hF fun operator writes db _ _ hknown hresult => ⟨hknown, ?_⟩
  dsimp only at hresult
  cases hfind : (db.after writes).platformOperators.find? fun row => row.id == operatorId with
  | none =>
    rw [hfind] at hresult
    cases hresult
  | some row =>
    rw [hfind] at hresult
    obtain rfl : row = operator := Except.ok.inj hresult
    have hid := List.find?_some hfind
    exact ⟨List.mem_of_find?_eq_some hfind, beq_iff_eq.mp hid⟩

lemma refuseSelf_ok (hcaller : call.caller? = some caller)
    (h : refuseSelf operation caller userId = .ok ()) :
    ¬ call.IsBy userId := by
  intro hby
  obtain rfl : caller = .user userId := Option.some.inj (hcaller.symm.trans hby)
  unfold refuseSelf at h
  rw [if_pos rfl] at h
  cases h

lemma setUserActive_triple {isActive : Bool} (hF : Stable F) :
    Triple call F (perform (.setUserActive userId isActive)) fun _ => nothing :=
  triple_write hF fun _ _ _ _ howners _ _ _ _ => howners

lemma revokeCredentials_triple {now : Instant} (hF : Stable F)
    (hsessions : ∀ ids writes db, F writes db → F (writes ++ [.revokeSessions ids now]) db)
    (hkeys : ∀ ids writes db, F writes db → F (writes ++ [.revokeApiKeys ids now]) db) :
    Triple call F (revokeCredentials userId now) fun _ => F := by
  refine Triple.bind ((triple_query hF).bind fun found => triple_write_of hF ?_) fun _ =>
    (triple_query hF).bind fun found => triple_write_of hF ?_
  · exact fun _ writes db _ _ _ _ hknown _ => ⟨trivial, hsessions _ writes db hknown⟩
  · exact fun _ writes db _ _ _ _ hknown _ => ⟨trivial, hkeys _ writes db hknown⟩

end Statements

/-! ## The changes -/

section Changes

variable {caller : Caller} {F : Knowledge}

lemma enrollInTransaction_triple {userId newId : Uuid} (hcaller : call.caller? = some caller)
    (henrolls : call.Enrolls userId) :
    Triple call nothing (enrollInTransaction caller userId newId) fun _ => nothing := by
  refine triple_check.bind fun _ => ?_
  have hstable := stable_nothing.and (stable_const (refuseSelf .operatorEnroll caller userId = .ok ()))
  refine (requireActiveSubject_triple hstable).bind fun _ => ?_
  refine (triple_query hstable).bind fun linked => ?_
  refine triple_require.bind fun _ => (triple_query hstable).bind fun _ => ?_
  refine triple_write hstable ?_
  intro held writes db a howners _ _ hknown hresult
  have hadmits : (db.after writes).admitsOperator newId userId = true := by
    split at hresult
    · assumption
    · cases hresult
  simp only [Tables.admitsOperator, Bool.and_eq_true, Bool.not_eq_true', List.any_eq_false,
    List.any_eq_true, beq_iff_eq, List.isEmpty_iff, Tables.unrevokedOperators,
    List.filter_eq_nil_iff, bne_iff_ne, not_and, not_not] at hadmits
  obtain ⟨⟨hid, huser⟩, hrevoked⟩ := hadmits
  exact ⟨howners, henrolls, refuseSelf_ok hcaller hknown.2, hid, hrevoked, huser⟩

variable {operatorId : Uuid}

lemma setStatus_triple {operation : PlatformOperation} {expected new : OperatorStatus}
    (hcaller : call.caller? = some caller) (hexpected : expected ≠ .revoked)
    (hnew : new ≠ .revoked) :
    Triple call nothing (setStatus operation caller operatorId expected new) fun _ => nothing := by
  refine (lockOperator_triple stable_nothing).bind fun operator => ?_
  refine triple_check.bind fun _ => triple_check.bind fun _ => ?_
  refine triple_write (((stable_nothing.and (stable_knowsOperator operatorId operator)).and
    (stable_const _)).and (stable_const _)) ?_
  rintro held writes db a howners - - ⟨⟨⟨-, hmem, hid⟩, hself⟩, hstatus⟩ -
  have hcurrent : operator.status = expected := by
    split at hstatus
    · assumption
    · cases hstatus
  refine ⟨howners, operator, hmem, hid, ?_, refuseSelf_ok hcaller hself, fun h => absurd h hnew⟩
  rw [hcurrent]
  exact hexpected

def knowsNoLiveGrant (operatorId : Uuid) : Knowledge := fun writes db =>
  ∀ grant ∈ (db.after writes).platformGrants, grant.operatorId = operatorId → grant.revokedAt ≠ none

lemma stable_knowsNoLiveGrant (operatorId : Uuid) : Stable (knowsNoLiveGrant operatorId) := by
  intro writes db db' _ hview h
  unfold knowsNoLiveGrant
  rw [hview.grants]
  exact h

def knowsCommitted (operator : PlatformOperator) : Knowledge := fun _ db =>
  operator ∈ db.platformOperators

lemma stable_knowsCommitted (operator : PlatformOperator) : Stable (knowsCommitted operator) := by
  intro writes db db' hdb _ h
  unfold knowsCommitted
  rw [hdb.operators]
  exact h

def revokes (operatorId : Uuid) : Knowledge := fun writes db =>
  (∃ row ∈ db.platformOperators, row.id = operatorId ∧ row.status ≠ .revoked) ∧
    ∀ row ∈ (db.after writes).platformOperators, row.id = operatorId → row.status = .revoked

variable {now : Instant}

lemma revokeInTransaction_triple (hcaller : call.caller? = some caller) :
    Triple call nothingWritten (revokeInTransaction caller operatorId now)
      fun _ => revokes operatorId := by
  refine Triple.bind (G := fun operator writes db =>
    knowsCommitted operator writes db ∧ knowsOperator operatorId operator writes db)
    ((lockOperator_triple stable_nothingWritten).weaken (fun _ _ h => h) ?_) fun operator => ?_
  · rintro operator writes db ⟨rfl, hmem, hid⟩
    exact ⟨hmem, hmem, hid⟩
  refine triple_check.bind fun _ => triple_check.bind fun _ => ?_
  have hstable := (((stable_knowsCommitted operator).and
    (stable_knowsOperator operatorId operator)).and
    (stable_const (refuseSelf .operatorRevoke caller operator.userId = .ok ()))).and
    (stable_const ((if operator.status = .revoked then
      .error (.invalidPlatformOperatorState operatorId operator.status
        PlatformOperation.operatorRevoke.key) else .ok () : Except PlatformError Unit) = .ok ()))
  refine Triple.bind (G := fun _ writes db => (((knowsCommitted operator writes db ∧
      knowsOperator operatorId operator writes db) ∧ _) ∧ _) ∧
      knowsNoLiveGrant operatorId writes db) (triple_write_of hstable ?_) fun _ =>
    triple_write_of (hstable.and (stable_knowsNoLiveGrant operatorId)) ?_
  · rintro held writes db a howners - hview ⟨⟨⟨hcommitted, hmem, hid⟩, hself⟩, hstatus⟩ -
    refine ⟨⟨howners, ?_⟩, ⟨⟨⟨hcommitted, ?_, hid⟩, hself⟩, hstatus⟩, ?_⟩
    · intro grant hgrant hlive
      obtain ⟨live, hlive, hlivId⟩ := List.mem_map.mp hlive
      obtain ⟨hliveMem, hliveOf⟩ := List.mem_filter.mp hlive
      simp only [Bool.and_eq_true, beq_iff_eq] at hliveOf
      have heq : live = grant := hview.grants_pk.eq_of_key_eq hliveMem hgrant hlivId
      rw [heq] at hliveOf
      exact ⟨operator, hmem, hid.trans hliveOf.1.symm, refuseSelf_ok hcaller hself⟩
    · rw [PlatformTables.after_concat]
      exact hmem
    · unfold knowsNoLiveGrant
      rw [PlatformTables.after_concat]
      intro grant hgrant hoperator
      obtain ⟨row, hrow, rfl⟩ := List.mem_map.mp hgrant
      by_cases hrevoked : row.id ∈
          ((db.after writes).liveGrants operatorId).map PlatformGrant.id
      · rw [if_pos hrevoked]
        exact Option.some_ne_none _
      · rw [if_neg hrevoked] at hoperator ⊢
        intro hlive
        refine hrevoked (List.mem_map.mpr ⟨row, List.mem_filter.mpr ⟨hrow, ?_⟩, rfl⟩)
        rw [hlive, hoperator]
        simp
  · rintro held writes db a howners - - ⟨⟨⟨⟨hcommitted, hmem, hid⟩, hself⟩, hstatus⟩, hnone⟩ -
    have hunrevoked : operator.status ≠ .revoked := by
      split at hstatus
      · cases hstatus
      · assumption
    refine ⟨⟨howners, operator, hmem, hid, hunrevoked, refuseSelf_ok hcaller hself, fun _ => hnone⟩,
      ⟨operator, hcommitted, hid, hunrevoked⟩, ?_⟩
    rw [PlatformTables.after_concat]
    intro row hrow hrowId
    obtain ⟨before, -, rfl⟩ := List.mem_map.mp hrow
    by_cases hbefore : before.id = operatorId
    · rw [if_pos hbefore]
    · rw [if_neg hbefore] at hrowId
      exact absurd hrowId hbefore

def personFirst (call : PlatformCall) : Knowledge := fun writes _ =>
  ∀ userId, call.IsBy userId → writes = []

lemma stable_personFirst (call : PlatformCall) : Stable (personFirst call) :=
  fun _ _ _ _ _ h => h

def knowsHeld (call : PlatformCall) (permission : PlatformPermission) : Knowledge := fun _ db =>
  ∀ userId, call.IsBy userId → db.Can userId permission

lemma stable_knowsHeld (call : PlatformCall) (permission : PlatformPermission) :
    Stable (knowsHeld call permission) :=
  fun _ _ _ hdb _ h userId hby => hdb.can (h userId hby)

variable {permission : PlatformPermission}

section

variable (hcaller : call.caller? = some caller)

include hcaller

lemma requireHeld_triple (hF : Stable F)
    (hperson : ∀ writes db, F writes db → personFirst call writes db) :
    Triple call F (requireHeld caller permission) fun _ writes db =>
      F writes db ∧ knowsHeld call permission writes db := by
  cases caller with
  | user userId =>
    refine (triple_lockedRead (G := fun held writes db => F writes db ∧
      (held = true → db.Can userId permission)) hF ?_).bind fun held => ?_
    · intro held writes db hvalid _ hknown hresult
      obtain rfl : writes = [] := hperson writes db hknown userId hcaller
      refine ⟨hknown, ?_⟩
      rintro rfl
      exact hvalid.platformCan_iff.mp (Except.ok.inj hresult)
    · refine triple_check.weaken (fun _ _ h => h) ?_
      rintro _ writes db ⟨⟨hknown, hcan⟩, hheld⟩
      refine ⟨hknown, ?_⟩
      intro other hby
      obtain rfl : userId = other := Caller.user.inj (Option.some.inj (hcaller.symm.trans hby))
      split at hheld
      · next h => exact hcan h
      · cases hheld
  | serviceAccount serviceAccountId ownTenantId =>
    refine triple_pure fun writes db hknown => ⟨hknown, ?_⟩
    intro userId hby
    cases hcaller.symm.trans hby
  | system authority =>
    refine triple_pure fun writes db hknown => ⟨hknown, ?_⟩
    intro userId hby
    cases hcaller.symm.trans hby

lemma revokeGrantInTransaction_triple :
    Triple call nothing (revokeGrantInTransaction caller operatorId permission now)
      fun _ => nothing := by
  refine (lockOperator_triple stable_nothing).bind fun operator => ?_
  refine triple_check.bind fun _ => ?_
  have hstable := (stable_nothing.and (stable_knowsOperator operatorId operator)).and
    (stable_const (refuseSelf .grantRevoke caller operator.userId = .ok ()))
  intro origin t db Q hworking _ hknown hQ
  refine hworking.safe_statement fun held db' a hvalid' hdb hview _ hworking' hresult => ?_
  obtain ⟨⟨-, hmem, hid⟩, hself⟩ := hstable _ _ _ hdb hview hknown
  dsimp only at hresult ⊢
  split at hresult
  · next hsome =>
    obtain ⟨live, hfind⟩ := Option.isSome_iff_exists.mp hsome
    obtain ⟨hlive, hliveOf⟩ := List.mem_filter.mp (List.mem_of_find?_eq_some hfind)
    simp only [Bool.and_eq_true, beq_iff_eq] at hliveOf
    rw [hfind]
    refine hQ a _ db' hvalid' (hworking'.concat ⟨hworking'.owners, ?_⟩) trivial
    intro grant hgrant hgrantId
    have hview' : (db'.after t.writes).Valid := hworking'.chain.valid hvalid'
    have heq : grant = live :=
      hview'.grants_pk.eq_of_key_eq hgrant hlive (List.mem_singleton.mp hgrantId)
    rw [heq]
    exact ⟨operator, hmem, hid.trans hliveOf.1.symm, refuseSelf_ok hcaller hself⟩
  · cases hresult

lemma grantInTransaction_triple {operatorId newId : Uuid}
    (hgrants : call.GrantsTo operatorId permission) :
    Triple call (personFirst call) (grantInTransaction caller operatorId permission newId)
      fun _ => nothing := by
  refine (lockOperator_triple (stable_personFirst call)).bind fun operator => ?_
  refine triple_check.bind fun _ => triple_check.bind fun _ => ?_
  have hstable := (((stable_personFirst call).and (stable_knowsOperator operatorId operator)).and
    (stable_const (refuseSelf .grantCreate caller operator.userId = .ok ()))).and
    (stable_const ((if operator.status = .revoked then
      .error (.invalidPlatformOperatorState operatorId operator.status
        PlatformOperation.grantCreate.key) else .ok () : Except PlatformError Unit) = .ok ()))
  refine (requireActiveSubject_triple hstable).bind fun _ => ?_
  refine (requireHeld_triple hcaller hstable fun _ _ h => h.1.1.1).bind fun _ => ?_
  have hstable' := hstable.and (stable_knowsHeld call permission)
  refine (triple_query hstable').bind fun _ => ?_
  refine triple_write hstable' ?_
  rintro held writes db a howners - - ⟨⟨⟨⟨-, hmem, hid⟩, hself⟩, hstatus⟩, hheld⟩ hresult
  have hadmits : (db.after writes).admitsGrant newId operatorId permission = true := by
    split at hresult
    · assumption
    · cases hresult
  simp only [Tables.admitsGrant, Bool.and_eq_true, Bool.not_eq_true', List.any_eq_false,
    beq_iff_eq] at hadmits
  refine ⟨howners, rfl, hgrants, hadmits.1.1, hheld, operator, hmem, hid, ?_,
    refuseSelf_ok hcaller hself⟩
  split at hstatus
  · cases hstatus
  · assumption

end

end Changes

/-! ## The composites -/

section Composites

variable {caller : Caller}

lemma getOrCreateUserId_triple {newUserId newLinkId : Uuid} {issuer subject : String} :
    Triple call nothing (getOrCreateUserId newUserId newLinkId issuer subject) fun _ => nothing := by
  refine (triple_query stable_nothing).bind fun existing => ?_
  cases existing with
  | some userId => exact triple_pure fun _ _ h => h
  | none =>
    intro origin t db Q hworking _ _ hQ
    refine hworking.safe_statement fun held db' a hvalid' hdb hview hheld hworking' _ => ?_
    dsimp only
    split
    · next hinserts =>
      simp only [PlatformTables.admitsNewUser, Bool.and_eq_true, Bool.not_eq_true',
        List.any_eq_false, beq_iff_eq] at hinserts
      have huser := hworking'.concat (w := .insertUser ⟨newUserId, true⟩)
        ⟨hheld _ List.mem_cons_self, hinserts.2.1⟩
      have hlink := huser.concat (w := .insertExternalIdentity ⟨newLinkId, newUserId, issuer, subject⟩)
        trivial
      unfold newUserRows
      rw [← List.singleton_append, ← List.append_assoc]
      exact hQ a _ db' hvalid' hlink trivial
    · rw [List.append_nil]
      exact hQ a _ db' hvalid' hworking' trivial

variable {newIds : NewPlatformIds}

lemma resolveUser_triple {subject : PlatformSubject} :
    Triple call nothing (resolveUser newIds subject) fun _ => nothing := by
  cases subject with
  | user userId => exact triple_pure fun _ _ h => h
  | identity identity => exact getOrCreateUserId_triple

variable (hcaller : call.caller? = some caller) (hcomposite : call.IsComposite)
  (hsystem : ∀ userId, ¬ call.IsBy userId)

include hcaller hcomposite hsystem

lemma grantAll_triple {operatorId : Uuid} {grants : List (PlatformPermission × Uuid)} :
    Triple call nothing (grantAll caller operatorId grants) fun _ => nothing := by
  induction grants with
  | nil => exact triple_pure fun _ _ h => h
  | cons grant grants ih =>
    have hgrant : Triple call (personFirst call)
        (grantInTransaction caller operatorId grant.1 grant.2) fun _ => nothing :=
      grantInTransaction_triple hcaller (.inr hcomposite)
    exact (hgrant.weaken (fun _ _ _ userId hby => absurd hby (hsystem userId))
      fun _ _ _ h => h).bind fun _ => ih

variable {requested : List (PlatformPermission × Uuid)}

lemma bootstrapInTransaction_triple {owner : PlatformSubject} :
    Triple call nothing (bootstrapInTransaction caller owner requested newIds) fun _ => nothing := by
  refine (triple_query stable_nothing).bind fun existing => ?_
  cases existing with
  | true => exact triple_pure fun _ _ h => h
  | false =>
    refine resolveUser_triple.bind fun userId => ?_
    refine (enrollInTransaction_triple hcaller (.inr hcomposite)).bind fun operatorId => ?_
    exact grantAll_triple hcaller hcomposite hsystem

omit hsystem in
lemma enrollOrReuse_triple {userId newId : Uuid} :
    Triple call nothing (enrollOrReuse caller userId newId) fun _ => nothing := by
  refine (triple_query stable_nothing).bind fun current => ?_
  cases current with
  | none => exact enrollInTransaction_triple hcaller (.inr hcomposite)
  | some operator =>
    dsimp only
    split
    · refine (triple_query stable_nothing).bind fun linked => ?_
      exact triple_require
    · exact triple_throw

lemma recoverInTransaction_triple {enroll : Option PlatformSubject}
    {suspendOperatorId : Option Uuid} :
    Triple call nothing (recoverInTransaction caller enroll requested suspendOperatorId newIds)
      fun _ => nothing := by
  refine Triple.bind (G := fun _ => nothing) ?_ fun _ => ?_
  · cases enroll with
    | none => exact triple_pure fun _ _ h => h
    | some subject =>
      refine resolveUser_triple.bind fun userId => ?_
      refine (enrollOrReuse_triple hcaller hcomposite).bind fun operatorId => ?_
      refine (triple_query stable_nothing).bind fun held => ?_
      exact grantAll_triple hcaller hcomposite hsystem
  · cases suspendOperatorId with
    | none => exact triple_pure fun _ _ h => h
    | some operatorId =>
      refine (triple_query stable_nothing).bind fun status => ?_
      split
      · exact triple_pure fun _ _ h => h
      · exact setStatus_triple hcaller nofun nofun

end Composites

/-! ## Commits -/

def PlatformWrite.IsHarmless : PlatformWrite → Prop
  | .setOperatorStatus _ _ | .revokeGrants _ _ => False
  | .setUserActive _ isActive => isActive = true
  | .insertUser _ | .insertExternalIdentity _ | .deleteExternalIdentities _ | .insertOperator _
  | .insertGrant _ | .revokeSessions _ _ | .revokeApiKeys _ _ | .insertSession _ | .insertApiKey _
  | .recordRotation _ | .insertPermission _ => True

lemma PlatformTables.Can.write {userId : Uuid} {permission : PlatformPermission}
    (h : db.Can userId permission) (hw : w.IsHarmless) : (db.write w).Can userId permission := by
  obtain ⟨⟨user, huser, hid, hactive⟩, operator, hoperator, huserId, hstatus, grant, hgrant, hof⟩ := h
  cases w with
  | insertUser row =>
    exact ⟨⟨user, List.mem_append_left _ huser, hid, hactive⟩, operator, hoperator, huserId, hstatus,
      grant, hgrant, hof⟩
  | insertOperator row =>
    exact ⟨⟨user, huser, hid, hactive⟩, operator, List.mem_append_left _ hoperator, huserId, hstatus,
      grant, hgrant, hof⟩
  | insertGrant row =>
    exact ⟨⟨user, huser, hid, hactive⟩, operator, hoperator, huserId, hstatus, grant,
      List.mem_append_left _ hgrant, hof⟩
  | setUserActive id isActive =>
    obtain rfl : isActive = true := hw
    refine ⟨⟨_, List.mem_map.mpr ⟨user, huser, rfl⟩, ?_⟩, operator, hoperator, huserId, hstatus,
      grant, hgrant, hof⟩
    split
    · exact ⟨hid, rfl⟩
    · exact ⟨hid, hactive⟩
  | setOperatorStatus operatorId status => cases hw
  | revokeGrants ids now => cases hw
  | insertExternalIdentity row | deleteExternalIdentities ids | revokeSessions ids now
  | revokeApiKeys ids now | insertSession row | insertApiKey row | recordRotation row
  | insertPermission row =>
    exact ⟨⟨user, huser, hid, hactive⟩, operator, hoperator, huserId, hstatus, grant, hgrant, hof⟩

lemma PlatformTables.Can.after {userId : Uuid} {permission : PlatformPermission}
    (h : db.Can userId permission) (hwrites : ∀ w ∈ writes, w.IsHarmless) :
    (db.after writes).Can userId permission := by
  induction writes using List.reverseRecOn with
  | nil => exact h
  | append_singleton writes w ih =>
    rw [PlatformTables.after_concat]
    have hold := ih fun other hother => hwrites other (List.mem_append_left _ hother)
    exact hold.write (hwrites w (List.mem_append_right _ (List.mem_singleton.mpr rfl)))

def onlyHarmless : Knowledge := fun writes _ => ∀ w ∈ writes, w.IsHarmless

lemma stable_onlyHarmless : Stable onlyHarmless := fun _ _ _ _ _ h => h

lemma onlyHarmless_concat (h : onlyHarmless writes db) (hw : w.IsHarmless) :
    onlyHarmless (writes ++ [w]) db := by
  intro other hother
  rcases List.mem_append.mp hother with hold | hnew
  · exact h other hold
  · obtain rfl := List.mem_singleton.mp hnew
    exact hw

def achieves (call : PlatformCall) : Knowledge := fun writes db => call.Achieved db (db.after writes)

lemma stable_achieves (call : PlatformCall) : Stable (achieves call) := by
  intro writes db db' hdb hview h
  unfold achieves PlatformCall.Achieved
  rw [hdb.operators, hview.operators]
  exact h

def PlatformCall.IsRevocation : PlatformCall → Prop
  | revokeOperator _ _ _ _ => True
  | _ => False

lemma PlatformCall.achieved_of_not_isRevocation (h : ¬ call.IsRevocation) :
    call.Achieved db db' := by
  rintro operatorId now caller reason rfl
  exact absurd trivial h

lemma Chain.guarantee_of_harmless (h : Chain call held db writes) (hcall : ¬ call.IsRevocation)
    (hwrites : ∀ w ∈ writes, w.IsHarmless) :
    platformProtocol.Guarantee call held db (db.after writes) :=
  ⟨writes, h, rfl, call.achieved_of_not_isRevocation hcall,
    fun ⟨userId, howner⟩ => ⟨userId, PlatformTables.Can.after howner hwrites⟩⟩

lemma Working.guarantee (h : Working call origin t db) (hachieves : achieves call t.writes db)
    {hadOwner : Bool} (hbefore : (∃ userId, origin.IsPlatformOwner userId) → hadOwner = true)
    (hafter : hadOwner = true → ∃ userId, (db.after t.writes).IsPlatformOwner userId) :
    platformProtocol.Guarantee call t.held db (db.after t.writes) := by
  refine ⟨t.writes, h.chain, rfl, hachieves, ?_⟩
  rintro ⟨userId, howner⟩
  refine hafter (hbefore ⟨userId, ?_⟩)
  exact (h.same.can_iff h.valid.operators_user).mp howner

end SaasOs
