import SaasOs.Platform.OwnerProtocol

/-!
# A deployment that had a platform owner has one

Every call that changes platform authority keeps the protocol of `OwnerProtocol`, so that in every
interleaving of such calls every committed state is valid, a platform owner that was there is
succeeded by one, and a call that is refused has changed nothing.
-/

namespace SaasOs

open ReadCommitted

variable {call : PlatformCall} {db : PlatformTables} {caller : Caller}

/-- The end of a transaction that is not the last one of its call: nothing is locked or written, and
after an error nothing is committed. -/
def Ended (result : Except PlatformError Unit) (t : Standing PlatformWrite PlatformLock)
    (db : PlatformTables) : Prop :=
  ∀ e, result = .error e → t = {} ∧ db.Valid

/-! ## The shape of a change -/

variable {body : PlatformBody Unit}

lemma safe_transaction_of_nothingCommitted
    (h : platformProtocol.SafeBody call (fun _ t db => ∀ db', PlatformRely t.held db db' →
      db'.Valid → platformProtocol.Guarantee call t.held db' (db'.after t.writes)) NothingCommitted
      body {} db) :
    platformProtocol.Safe call Ended body.transaction {} db := by
  refine Protocol.safe_transaction (h.mono ?_ ?_)
  · exact fun _ t db hend db' hrely hvalid => ⟨hend db' hrely hvalid, nofun⟩
  · rintro e committed rfl db' hvalid _ _
    exact ⟨rfl, hvalid⟩

lemma safe_lockPlatformOwners
    {Q : Unit → Standing PlatformWrite PlatformLock → PlatformTables → Prop}
    (h : ∀ t db, db.Valid → t.writes = [] → Working call db t db → Q () t db) :
    platformProtocol.SafeBody call Q NothingCommitted lockPlatformOwners {} db := by
  refine Protocol.safeBody_statement fun db' _ hvalid => ?_
  exact h _ db' hvalid rfl ⟨List.mem_cons_self, rfl, .nil, hvalid, .refl db'⟩

variable {t : Standing PlatformWrite PlatformLock}

variable {origin : PlatformTables} {hadOwner : Bool}

lemma Working.hadOwner_iff (h : Working call origin t db)
    (hread : hadOwner = db.platformOwnerExists) :
    hadOwner = true ↔ ∃ userId, origin.IsPlatformOwner userId := by
  rw [hread, PlatformTables.platformOwnerExists_iff]
  exact exists_congr fun _ => h.same.can_iff h.valid.operators_user

lemma Working.commit (h : Working call origin t db)
    (hbefore : hadOwner = true ↔ ∃ userId, origin.IsPlatformOwner userId)
    (hafter : hadOwner = true → (db.after t.writes).platformOwnerExists = true)
    (hachieves : achieves call t.writes db) {db' : PlatformTables} (hrely : PlatformRely t.held db db') :
    platformProtocol.Guarantee call t.held db' (db'.after t.writes) := by
  obtain ⟨hworking, hview⟩ := h.of_rely hrely
  have hkept := stable_achieves call _ _ _ (hrely.platform h.owners) hview hachieves
  refine hworking.guarantee hkept hbefore.mpr fun hhad => ?_
  obtain ⟨userId, howner⟩ := PlatformTables.platformOwnerExists_iff.mp (hafter hhad)
  exact ⟨userId, hview.can howner⟩

lemma recheck_ok {hadOwner exists' : Bool} {e : PlatformError}
    (h : (if hadOwner && !exists' then .error e else .ok () : Except PlatformError Unit) = .ok ()) :
    hadOwner = true → exists' = true := by
  rintro rfl
  cases exists' with
  | true => rfl
  | false => cases h

lemma authorityTransaction_safe {operations : List PlatformOperation}
    (hbody : Triple call nothingWritten body fun _ => achieves call) :
    platformProtocol.Safe call Ended (authorityTransaction operations caller body) {} db := by
  refine safe_transaction_of_nothingCommitted ?_
  refine Protocol.safeBody_bind (safe_lockPlatformOwners fun t₁ db₁ hvalid₁ hwrites₁ hworking₁ => ?_)
  refine Protocol.safeBody_bind (authorizeAll_triple stable_nothingWritten db₁ t₁ db₁ _ hworking₁
    hvalid₁ hwrites₁
    fun _ t₂ db₂ hvalid₂ hworking₂ hwrites₂ => ?_)
  refine Protocol.safeBody_bind (hworking₂.safe_lockedRead
    fun held₃ db₃ hadOwner hvalid₃ _ _ hworking₃ hread => ?_)
  rw [hwrites₂] at hread
  have hbefore := hworking₃.hadOwner_iff (Except.ok.inj hread).symm
  refine Protocol.safeBody_bind (hbody db₁ _ db₃ _ hworking₃ hvalid₃ hwrites₂
    fun _ t₄ db₄ hvalid₄ hworking₄ hachieves => ?_)
  refine hworking₄.safe_lockedRead fun held₅ db₅ _ hvalid₅ hdb₅ hview₅ hworking₅ hrecheck => ?_
  intro db' hrely hvalid'
  have hkept := stable_achieves call _ _ _ hdb₅ hview₅ hachieves
  exact hworking₅.commit hbefore (recheck_ok hrecheck) hkept hrely

/-! ## Users -/

variable {F : Knowledge}

lemma lockAdministrators_triple {tenantIds : List Uuid} (hF : Stable F) :
    Triple call F (lockAdministrators tenantIds) fun _ => F := by
  induction tenantIds with
  | nil => exact triple_pure fun _ _ h => h
  | cons tenantId tenantIds ih => exact (triple_query hF).bind fun _ => ih

variable {now : Instant} {userId : Uuid}

variable {ceiling : ℕ}

lemma guardDeactivation_triple (hF : Stable F) :
    Triple call F (guardDeactivation now userId caller ceiling) fun _ => F := by
  refine (triple_query hF).bind fun _ => (triple_query hF).bind fun _ => ?_
  refine (triple_query hF).bind fun first => (triple_query hF).bind fun order => ?_
  refine (lockAdministrators_triple hF).bind fun _ => (triple_lockedQuery hF).bind fun guard => ?_
  refine (authorizePlatformCaller_triple hF).bind fun _ => triple_require.bind fun _ => ?_
  refine (triple_query hF).bind fun isActive => triple_require.bind fun _ => ?_
  refine (triple_query hF).bind fun second => triple_require.bind fun _ => ?_
  exact triple_pure fun _ _ h => h

lemma deactivateBody_safe (hcall : ¬ call.IsRevocation) :
    platformProtocol.Safe call Ended (deactivateBody now userId caller ceiling).transaction {} db := by
  refine safe_transaction_of_nothingCommitted ?_
  refine Protocol.safeBody_bind (safe_lockPlatformOwners fun t₁ db₁ hvalid₁ hwrites₁ hworking₁ => ?_)
  refine Protocol.safeBody_bind (guardDeactivation_triple stable_nothingWritten _ _ _ _ hworking₁
    hvalid₁ hwrites₁
    fun guard t₂ db₂ hvalid₂ hworking₂ hwrites₂ => ?_)
  refine Protocol.safeBody_bind (hworking₂.safe_lockedRead
    fun held₃ db₃ hadOwner hvalid₃ _ _ hworking₃ hread => ?_)
  rw [hwrites₂] at hread
  have hbefore := hworking₃.hadOwner_iff (Except.ok.inj hread).symm
  refine Protocol.safeBody_bind (setUserActive_triple stable_nothing _ _ _ _ hworking₃ hvalid₃ trivial
    fun _ t₄ db₄ hvalid₄ hworking₄ _ => ?_)
  refine Protocol.safeBody_bind (revokeCredentials_triple stable_nothing (fun _ _ _ _ => trivial)
    (fun _ _ _ _ => trivial) _ _ _ _ hworking₄ hvalid₄ trivial
    fun _ t₅ db₅ hvalid₅ hworking₅ _ => ?_)
  refine Protocol.safeBody_bind (triple_lockedQuery stable_nothing _ _ _ _ hworking₅ hvalid₅ trivial
    fun _ t₆ db₆ hvalid₆ hworking₆ _ => ?_)
  refine Protocol.safeBody_bind (triple_require (F := nothing) _ _ _ _ hworking₆ hvalid₆ trivial
    fun _ t₇ db₇ hvalid₇ hworking₇ _ => ?_)
  refine hworking₇.safe_lockedRead fun held₈ db₈ _ hvalid₈ _ _ hworking₈ hrecheck => ?_
  exact fun db' hrely _ => hworking₈.commit hbefore (recheck_ok hrecheck)
    (call.achieved_of_not_isRevocation hcall) hrely

lemma retryDeactivationProgram_safe {attempt : PlatformProgram}
    (hattempt : ∀ db, db.Valid → platformProtocol.Safe call Ended attempt {} db) (attempts : ℕ)
    (hvalid : db.Valid) :
    platformProtocol.Safe call Ended (retryDeactivationProgram userId attempt attempts) {} db := by
  induction attempts generalizing db with
  | zero => exact fun _ _ => ⟨rfl, hvalid⟩
  | succ attempts ih =>
    refine Protocol.Safe.bind (Protocol.Safe.mono ?_ (hattempt db hvalid))
    intro result t db' hended
    by_cases happeared : result = .error (.service .membershipAppeared)
    · rw [if_pos happeared]
      obtain ⟨rfl, hvalid'⟩ := hended _ happeared
      exact ih hvalid'
    · rw [if_neg happeared]
      exact hended

lemma safe_transaction_of_harmless {body : Unit → PlatformBody Unit} (hcall : ¬ call.IsRevocation)
    (hbody : Triple call onlyHarmless (body ()) fun _ => onlyHarmless) :
    platformProtocol.Safe call Ended (Body.transaction (lockPlatformOwners >>= body)) {} db := by
  refine safe_transaction_of_nothingCommitted ?_
  refine Protocol.safeBody_bind (safe_lockPlatformOwners fun t₁ db₁ hvalid₁ hwrites₁ hworking₁ => ?_)
  have hstart : onlyHarmless t₁.writes db₁ := by
    rw [hwrites₁]
    exact fun _ h => absurd h List.not_mem_nil
  refine hbody _ _ _ _ hworking₁ hvalid₁ hstart fun _ t₂ db₂ hvalid₂ hworking₂ hharmless => ?_
  intro db' hrely _
  exact (hworking₂.of_rely hrely).1.chain.guarantee_of_harmless hcall hharmless

lemma reactivateBody_safe (hcall : ¬ call.IsRevocation) :
    platformProtocol.Safe call Ended (reactivateBody now userId caller).transaction {} db := by
  refine safe_transaction_of_harmless hcall ?_
  refine (authorizePlatformCaller_triple stable_onlyHarmless).bind fun _ => ?_
  refine (triple_query stable_onlyHarmless).bind fun isActive => ?_
  cases isActive with
  | none => exact triple_throw
  | some isActive =>
    cases isActive with
    | true => exact triple_throw
    | false =>
      refine (revokeCredentials_triple stable_onlyHarmless ?_ ?_).bind fun _ => ?_
      · exact fun _ writes db h => onlyHarmless_concat h trivial
      · exact fun _ writes db h => onlyHarmless_concat h trivial
      · refine triple_write_of stable_onlyHarmless ?_
        intro held writes db a howners _ _ hknown _
        exact ⟨howners, onlyHarmless_concat hknown rfl⟩

lemma removeIdentityLinksBody_safe (hcall : ¬ call.IsRevocation) :
    platformProtocol.Safe call Ended (removeIdentityLinksBody userId).transaction {} db := by
  refine safe_transaction_of_harmless hcall ?_
  refine (triple_query stable_onlyHarmless).bind fun _ => ?_
  refine triple_write_of stable_onlyHarmless ?_
  intro held writes db a howners _ _ hknown _
  exact ⟨trivial, onlyHarmless_concat hknown trivial⟩

/-! ## First logins -/

def Between (t : Standing PlatformWrite PlatformLock) (db : PlatformTables) : Prop :=
  t.held = [] ∧ t.writes = [] ∧ db.Valid

variable {α : Type}

lemma safe_single_statement {mode : LockMode} {resources : PlatformTables → List PlatformLock}
    {write : PlatformTables → List PlatformWrite} {result : PlatformTables → Except PlatformError α}
    (hcall : ¬ call.IsRevocation) (ht : Between t db)
    (hchain : ∀ db₁ db₂ a, db₁.Valid → result db₁ = .ok a → PlatformRely
      ((resources db₁).map fun resource => (resource, mode)) db₁ db₂ →
      Chain call ((resources db₁).map fun resource => (resource, mode)) db₂ (write db₁) ∧
        ∀ w ∈ write db₁, w.IsHarmless) :
    platformProtocol.Safe call (fun _ t db => Between t db)
      (Body.statement mode resources write result).transaction t db := by
  obtain ⟨held, writes, committed⟩ := t
  obtain ⟨rfl, rfl, -⟩ := ht
  refine Protocol.safe_transaction (Protocol.safeBody_statement fun db₁ _ hvalid₁ => ?_)
  change Except.casesOn (result db₁) _ _
  cases hresult : result db₁ with
  | error e => exact fun db' hvalid' => ⟨rfl, rfl, hvalid'⟩
  | ok a =>
    intro db' hrely hvalid'
    rw [List.append_nil] at hrely ⊢
    obtain ⟨hwrites, hharmless⟩ := hchain db₁ db' a hvalid₁ hresult hrely
    exact ⟨hwrites.guarantee_of_harmless hcall hharmless, rfl, rfl, hwrites.valid hvalid'⟩

lemma firstLoginProgram_safe {newUserId newLinkId : Uuid} {issuer subject : String}
    (hcall : ¬ call.IsRevocation) (hvalid : db.Valid) :
    platformProtocol.Safe call (fun _ _ _ => True)
      (firstLoginProgram newUserId newLinkId issuer subject) {} db := by
  have hfind : ∀ t db, Between t db → platformProtocol.Safe call (fun _ t db => Between t db)
      (findUserIdBody issuer subject).transaction t db := by
    intro t db hbetween
    refine safe_single_statement hcall hbetween fun db₁ db₂ a _ _ _ => ⟨.nil, ?_⟩
    exact fun _ h => absurd h List.not_mem_nil
  have hcreate : ∀ t db, Between t db → platformProtocol.Safe call (fun _ t db => Between t db)
      (createUserBody newUserId).transaction t db := by
    intro t db hbetween
    refine safe_single_statement hcall hbetween fun db₁ db₂ a _ hresult hrely => ?_
    split at hresult
    · cases hresult
    · next hfresh =>
      refine ⟨Chain.nil.concat ⟨List.mem_cons_self, ?_⟩, ?_⟩
      · intro user huser hid
        obtain ⟨other, hother, hotherId⟩ :=
          hrely.newUser newUserId List.mem_cons_self ⟨user, huser, hid⟩
        exact hfresh (List.any_eq_true.mpr ⟨other, hother, beq_iff_eq.mpr hotherId⟩)
      · intro w hw
        obtain rfl := List.mem_singleton.mp hw
        trivial
  have hlink : ∀ t db, Between t db → platformProtocol.Safe call (fun _ t db => Between t db)
      (linkExternalIdentityBody newLinkId newUserId issuer subject).transaction t db := by
    intro t db hbetween
    refine safe_single_statement hcall hbetween fun db₁ db₂ a _ _ _ => ⟨Chain.nil.concat trivial, ?_⟩
    intro w hw
    obtain rfl := List.mem_singleton.mp hw
    trivial
  refine Protocol.Safe.bind ((hfind {} db ⟨rfl, rfl, hvalid⟩).mono fun result t db hbetween => ?_)
  rcases result with e | (_ | userId)
  · trivial
  · refine Protocol.Safe.bind ((hcreate t db hbetween).mono fun result t db hbetween => ?_)
    rcases result with e | ⟨⟩
    · trivial
    · refine Protocol.Safe.bind ((hlink t db hbetween).mono fun result t db hbetween => ?_)
      rcases result with e | ⟨⟩
      · refine Protocol.Safe.bind ((hfind t db hbetween).mono fun result t db _ => ?_)
        rcases result with e | (_ | userId) <;> trivial
      · trivial
  · trivial

/-! ## Every call -/

def PlatformCall.IsFirstLogin : PlatformCall → Prop
  | firstLogin _ _ _ _ => True
  | _ => False

/-- A call that raises has committed nothing; a first login, which works in several transactions, may
leave a user behind that is not linked. -/
def RefusedUnchanged (call : PlatformCall) (result : Except PlatformError Unit)
    (committed : List PlatformWrite) : Prop :=
  ¬ call.IsFirstLogin → ∀ e, result = .error e → committed = []

lemma validated_safe {checked : Result α} {program : α → PlatformProgram}
    (h : ∀ a, checked = .ok a → platformProtocol.Safe call Ended (program a) {} db) :
    platformProtocol.Safe call (fun result t _ => RefusedUnchanged call result t.committed)
      (validated checked program) {} db := by
  unfold validated
  cases hchecked : checked with
  | error e => exact fun _ _ _ => rfl
  | ok a =>
    refine (h a hchecked).mono fun result t db' hended _ e he => ?_
    rw [(hended e he).1]

-- the validation of a reason is not evaluated where a call is matched against `validated_safe`
attribute [local irreducible] validated

lemma requireBootstrapCaller_ok {composite : String} {caller : Caller}
    (h : requireBootstrapCaller composite caller = .ok ()) : caller = .system .platformBootstrap := by
  unfold requireBootstrapCaller at h
  split at h
  · rfl
  · cases h
  · cases h
  · cases h

theorem PlatformCall.program_safe (call : PlatformCall) (hvalid : db.Valid) :
    platformProtocol.Safe call (fun result t _ => RefusedUnchanged call result t.committed)
      call.program {} db := by
  have hfirst : ∀ {body : PlatformBody Unit}, ¬ call.IsRevocation →
      Triple call nothing body (fun _ => nothing) →
      Triple call nothingWritten body fun _ => achieves call :=
    fun hcall h => h.weaken (fun _ _ _ => trivial) fun _ _ _ _ =>
      call.achieved_of_not_isRevocation hcall
  cases call with
  | enrollOperator userId newId caller reason =>
    refine validated_safe fun _ _ => authorityTransaction_safe (hfirst id ?_)
    exact (enrollInTransaction_triple rfl (.inl ⟨newId, caller, reason, rfl⟩)).bind fun _ =>
      triple_pure fun _ _ h => h
  | suspendOperator operatorId caller reason =>
    refine validated_safe fun _ _ => authorityTransaction_safe (hfirst id ?_)
    exact setStatus_triple rfl nofun nofun
  | reactivateOperator operatorId caller reason =>
    refine validated_safe fun _ _ => authorityTransaction_safe (hfirst id ?_)
    exact setStatus_triple rfl nofun nofun
  | revokeOperator operatorId now caller reason =>
    refine validated_safe fun _ _ => authorityTransaction_safe ?_
    refine (revokeInTransaction_triple rfl).weaken (fun _ _ h => h) ?_
    rintro _ writes db hrevokes _ _ _ _ ⟨⟩
    exact hrevokes
  | grantPlatformPermission operatorId permission newId caller reason =>
    refine validated_safe fun _ _ => authorityTransaction_safe ?_
    refine (grantInTransaction_triple rfl (.inl ⟨newId, caller, reason, rfl⟩)).weaken ?_ ?_
    · exact fun _ _ hwrites _ _ => hwrites
    · exact fun _ _ _ _ => PlatformCall.achieved_of_not_isRevocation id
  | revokePlatformPermission operatorId permission now caller reason =>
    refine validated_safe fun _ _ => authorityTransaction_safe (hfirst id ?_)
    exact revokeGrantInTransaction_triple rfl
  | bootstrapPlatformOwner owner requested newIds caller reason =>
    refine validated_safe fun _ hchecked => authorityTransaction_safe (hfirst id ?_)
    obtain ⟨⟨⟩, hbootstrap, -⟩ := bind_eq_ok.mp hchecked
    obtain rfl := requireBootstrapCaller_ok hbootstrap
    refine bootstrapInTransaction_triple rfl ?_ ?_
    · trivial
    · exact fun _ hby => nomatch Option.some.inj hby
  | recoverPlatformAuthority enroll requested suspendOperatorId newIds caller reason =>
    refine validated_safe fun _ hchecked => authorityTransaction_safe (hfirst id ?_)
    obtain ⟨⟨⟩, hbootstrap, -⟩ := bind_eq_ok.mp hchecked
    obtain rfl := requireBootstrapCaller_ok hbootstrap
    refine recoverInTransaction_triple rfl ?_ ?_
    · trivial
    · exact fun _ hby => nomatch Option.some.inj hby
  | deactivateUser userId now ceiling caller reason =>
    exact validated_safe fun _ _ =>
      retryDeactivationProgram_safe (fun _ _ => deactivateBody_safe id) maxAttempts hvalid
  | reactivateUser userId now caller reason => exact validated_safe fun _ _ => reactivateBody_safe id
  | removeIdentityLinks userId actorUserId =>
    refine (removeIdentityLinksBody_safe id).mono fun result t db' hended _ e he => ?_
    rw [(hended e he).1]
  | firstLogin newUserId newLinkId issuer subject =>
    dsimp only [PlatformCall.program]
    split
    · exact fun hnot => absurd trivial hnot
    · refine Protocol.Safe.mono ?_ (firstLoginProgram_safe id hvalid)
      exact fun _ _ _ _ hnot => absurd trivial hnot

/-! ## Runs -/

/-- The calls in progress, and the committed contents. -/
abbrev PlatformSystem :=
  System PlatformCall PlatformTables PlatformWrite PlatformLock (Except PlatformError Unit)

namespace PlatformSystem

def step : PlatformSystem → Event PlatformCall PlatformTables → PlatformSystem :=
  System.step PlatformCall.program PlatformTables.write

/-- Any of the calls begins; what does not belong to operators, grants and users changes freely. -/
def Allowed (Admitted : PlatformCall → Prop) (s : PlatformSystem) :
    Event PlatformCall PlatformTables → Prop :=
  System.Allowed platformProtocol Admitted s

/-- What holds in every state of a run. -/
abbrev Sound (s : PlatformSystem) : Prop := System.Sound platformProtocol RefusedUnchanged s

variable {Admitted : PlatformCall → Prop} {s : PlatformSystem}
  {event : Event PlatformCall PlatformTables} {events : List (Event PlatformCall PlatformTables)}

lemma sound_event (h : Sound s) (hallowed : s.Allowed Admitted event) : Sound (s.step event) :=
  System.sound_step (fun call _ _ hvalid => call.program_safe hvalid) s event h hallowed

lemma samePlatform_of_othersChange {db db' : PlatformTables} (h : db.OthersChange db') :
    db.SamePlatform db' where
  operators := h.operators
  grants := h.grants
  users _ hrow := h.users ▸ hrow
  newUsers _ hrow := .inl (h.users ▸ hrow)

section

variable (h : Sound s) (hallowed : s.Allowed Admitted event)

include h hallowed

lemma db_event :
    (s.step event).db = s.db ∨ s.db.OthersChange (s.step event).db ∨
      ∃ call held writes, s.Commits event call ∧ Chain call held s.db writes ∧
        (s.step event).db = s.db.after writes ∧ call.Achieved s.db (s.db.after writes) ∧
        ((∃ userId, s.db.IsPlatformOwner userId) →
          ∃ userId, (s.db.after writes).IsPlatformOwner userId) := by
  rcases h.db_step hallowed with hsame | hothers |
    ⟨call, held, hcommits, writes, hchain, hdb, hachieved, hkept⟩
  · exact .inl hsame
  · exact .inr (.inl hothers)
  · rw [hdb] at hachieved hkept
    exact .inr (.inr ⟨call, held, writes, hcommits, hchain, hdb, hachieved, hkept⟩)

lemma owner_event (howner : ∃ userId, s.db.IsPlatformOwner userId) :
    ∃ userId, (s.step event).db.IsPlatformOwner userId := by
  rcases db_event h hallowed with hsame | hothers | ⟨call, held, writes, -, -, hdb, -, hkept⟩
  · rw [hsame]
    exact howner
  · obtain ⟨userId, hcan⟩ := howner
    exact ⟨userId, (samePlatform_of_othersChange hothers).can hcan⟩
  · rw [hdb]
    exact hkept howner

lemma grantsLive_event (hlive : s.db.GrantsLive) : (s.step event).db.GrantsLive := by
  rcases db_event h hallowed with hsame | hothers | ⟨call, held, writes, -, hchain, hdb, -, -⟩
  · rw [hsame]
    exact hlive
  · intro grant hgrant hgrantLive
    rw [hothers.grants] at hgrant
    rw [hothers.operators]
    exact hlive grant hgrant hgrantLive
  · rw [hdb]
    exact hchain.grantsLive hlive

end

section

variable (h : Sound s) (hallowed : Run.Along step (Allowed Admitted) s events)

include h hallowed

lemma sound_run :
    Sound (Run.run step s events) :=
  Run.run_of_along (fun _ _ hsound hevent => sound_event hsound hevent) h hallowed

lemma grantsLive_run (hlive : s.db.GrantsLive) : (Run.run step s events).db.GrantsLive := by
  have hboth := Run.run_of_along (I := fun s : PlatformSystem => Sound s ∧ s.db.GrantsLive)
    (fun _ _ hkept hevent => ⟨sound_event hkept.1 hevent, grantsLive_event hkept.1 hevent hkept.2⟩)
    ⟨h, hlive⟩ hallowed
  exact hboth.2

lemma owner_run (howner : ∃ userId, s.db.IsPlatformOwner userId) :
    ∃ userId, (Run.run step s events).db.IsPlatformOwner userId := by
  have hboth := Run.run_of_along (I := fun s : PlatformSystem =>
    Sound s ∧ ∃ userId, s.db.IsPlatformOwner userId)
    (fun _ _ hkept hevent => ⟨sound_event hkept.1 hevent, owner_event hkept.1 hevent hkept.2⟩)
    ⟨h, howner⟩ hallowed
  exact hboth.2

end

end PlatformSystem

/-- **A deployment that had a platform owner has one.**  In every interleaving of calls that begins in
valid contents without a live grant of a revoked operator: in every committed state every user has at
most one operator that is not revoked and every live grant belongs to an operator that is not revoked;
a committed state with an owner is only followed by states with one; and a call that was refused has
committed nothing. -/
theorem platformOwner_kept {db : PlatformTables} (hvalid : db.Valid) (hlive : db.GrantsLive)
    {events : List (Event PlatformCall PlatformTables)}
    (hallowed : Run.Along PlatformSystem.step (PlatformSystem.Allowed fun _ => True)
      (System.initial db) events) :
    Run.Always PlatformSystem.step (fun s =>
        (∀ row ∈ s.db.platformOperators, ∀ row' ∈ s.db.platformOperators, row.status ≠ .revoked →
          row'.status ≠ .revoked → row.userId = row'.userId → row = row') ∧
        ∀ grant ∈ s.db.platformGrants, grant.revokedAt = none →
          ∃ row ∈ s.db.platformOperators, row.id = grant.operatorId ∧ row.status ≠ .revoked)
      (System.initial db) events ∧
    (∀ before between after, events = before ++ between ++ after →
      (∃ userId, (Run.run PlatformSystem.step (System.initial db) before).db.IsPlatformOwner userId) →
      ∃ userId, (Run.run PlatformSystem.step (System.initial db)
        (before ++ between)).db.IsPlatformOwner userId) ∧
    ∀ outcome ∈ (Run.run PlatformSystem.step (System.initial db) events).finished,
      ¬ outcome.call.IsFirstLogin → ∀ e, outcome.result = .error e → outcome.committed = [] := by
  have hstart : PlatformSystem.Sound (System.initial db) := System.sound_initial hvalid
  refine ⟨?_, ?_, ?_⟩
  · rintro before after rfl
    have hsound := PlatformSystem.sound_run hstart (Run.along_append.mp hallowed).1
    have hgrants := PlatformSystem.grantsLive_run hstart (Run.along_append.mp hallowed).1 hlive
    exact ⟨hsound.inv.one_operator, hgrants⟩
  · rintro before between after rfl howner
    obtain ⟨hbefore, hbetween⟩ := Run.along_append.mp (Run.along_append.mp hallowed).1
    rw [Run.run_append]
    exact PlatformSystem.owner_run (PlatformSystem.sound_run hstart hbefore) hbetween howner
  · intro outcome houtcome
    exact (PlatformSystem.sound_run hstart hallowed).finished outcome houtcome

/-! ### Two owners who suspend each other -/

def twoOwners : PlatformTables where
  users := [⟨1, true⟩, ⟨2, true⟩]
  platformOperators := [⟨11, 1, .active⟩, ⟨12, 2, .active⟩]
  platformGrants := [⟨21, 11, .authorityManage, none⟩, ⟨22, 12, .authorityManage, none⟩]

lemma twoOwners_valid : twoOwners.Valid := by
  constructor <;> decide

lemma twoOwners_grantsLive : twoOwners.GrantsLive := by
  unfold PlatformTables.GrantsLive
  decide

/-- Each owner asks for the suspension of the other one; the second call waits for the lock until the
first one has committed. -/
def mutualSuspension : List (Event PlatformCall PlatformTables) :=
  [.start 0 (.suspendOperator 12 (.user 1) "left"), .start 1 (.suspendOperator 11 (.user 2) "left"),
    .advance 0, .advance 1] ++ List.replicate 8 (.advance 0) ++ List.replicate 5 (.advance 1)

/-- The first call succeeds, the second one is refused because its caller is no operator any more, and
an owner is left. -/
theorem platformOwner_kept_mutualSuspension :
    ((Run.run PlatformSystem.step (System.initial twoOwners) mutualSuspension).finished.map
        Outcome.result) =
      [.ok (), .error (.service (.platformNotAuthorized "operator.suspend"))] ∧
    ∃ userId, (Run.run PlatformSystem.step (System.initial twoOwners)
      mutualSuspension).db.IsPlatformOwner userId := by
  refine ⟨by decide +kernel, ?_⟩
  have hinternal : ∀ event ∈ mutualSuspension, event.isInternal = true := by decide
  have hkept := platformOwner_kept twoOwners_valid twoOwners_grantsLive
    (Run.along_of_mem fun event hevent _ =>
    System.allowed_of_isInternal (fun _ => trivial) (hinternal event hevent))
  refine hkept.2.1 [] mutualSuspension [] (by simp) ?_
  exact PlatformTables.platformOwnerExists_iff.mp (by decide)

end SaasOs
