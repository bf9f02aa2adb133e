import SaasOs.Tenancy.PurgeRuns

/-!
# Creating rows while a tenant is purged

Operations that create rows of a tenant ask whether it is open: some in a transaction of its own,
before the one that inserts, some with the row of the tenant locked until they commit, and one not at
all.  Meanwhile the tenant is deleted and purged by any number of calls.
-/

namespace SaasOs

open Run

/-- `require_open_tenant` in a transaction of its own, no check, or `lock_open_tenant` in the one that
inserts. -/
inductive CreationFence
  | checked
  | absent
  | locked
  deriving DecidableEq

/-- The operations that create rows, with what their rows name; dispatching a notification and
ingesting a usage event record an outbox event, and the jobs insert the rows later, with the
consumption of the event when there is one. -/
inductive Creation
  | runIdempotent (id : Uuid)
  | beginIdempotentOperation (id : Uuid)
  | consumeQuota (id : Uuid)
  | createSupportAccessRequest (id : Uuid)
  | addTenantMembership (id : Uuid)
  | recordWebhookDelivery (id subscriptionId : Uuid)
  | dispatchNotification (eventId : Uuid)
  | dispatchNotificationJob (id membershipId : Uuid) (consumptionId : Option Uuid)
  | ingestEvent (eventId : Uuid)
  | ingestUsageEventJob (id : Uuid) (consumptionId : Option Uuid)
  | setTenantOverride (id : Uuid)

namespace Creation

def fence : Creation → CreationFence
  | runIdempotent _ | beginIdempotentOperation _ | consumeQuota _ | createSupportAccessRequest _
  | addTenantMembership _ => .checked
  | recordWebhookDelivery _ _ => .absent
  | dispatchNotification _ | dispatchNotificationJob _ _ _ | ingestEvent _ | ingestUsageEventJob _ _
  | setTenantOverride _ => .locked

def consumptionRow (tenantId : Uuid) (consumptionId : Option Uuid) : List OwnedRow :=
  consumptionId.toList.map fun id => ⟨.outboxConsumptions, id, tenantId, [], true⟩

/-- The rows that are inserted into purged tables. -/
def rows (tenantId : Uuid) : Creation → List OwnedRow
  | runIdempotent id | beginIdempotentOperation id =>
    [⟨.idempotencyRecords, id, tenantId, [], true⟩]
  | addTenantMembership id => [⟨.tenantMemberships, id, tenantId, [], true⟩]
  | recordWebhookDelivery id subscriptionId =>
    [⟨.webhookReplayRecords, id, tenantId, [(.webhookSubscriptions, subscriptionId)], true⟩]
  | dispatchNotification eventId | ingestEvent eventId =>
    [⟨.outboxEvents, eventId, tenantId, [], true⟩]
  | dispatchNotificationJob id membershipId consumptionId =>
    consumptionRow tenantId consumptionId ++
      [⟨.notifications, id, tenantId, [(.tenantMemberships, membershipId)], true⟩]
  | ingestUsageEventJob _ consumptionId => consumptionRow tenantId consumptionId
  | setTenantOverride id => [⟨.featureFlagTenantOverrides, id, tenantId, [], true⟩]
  | consumeQuota _ | createSupportAccessRequest _ => []

def isRetained (creation : Creation) : Bool := (creation.rows 0).isEmpty

lemma isEmpty_rows (creation : Creation) (tenantId : Uuid) :
    (creation.rows tenantId).isEmpty = creation.isRetained := by
  cases creation with
  | ingestUsageEventJob id consumptionId => cases consumptionId <;> rfl
  | dispatchNotificationJob id membershipId consumptionId => cases consumptionId <;> rfl
  | _ => rfl

end Creation

inductive CreationPhase
  | begun
  | passed
  | ended
  deriving DecidableEq

structure CreationCall where
  creation : Creation
  phase : CreationPhase

/-- The tenant with its purges, the operations in progress, and what was inserted, with the status of
the tenant at the time. -/
structure CreationSystem where
  purge : PurgeSystem
  call : ℕ → Option CreationCall
  inserted : List (Creation × TenantStatus)

/-- What can happen next: a step of the purges, another transition of the tenant, or an operation
begins, reads the status beforehand, or runs its inserting transaction. -/
inductive CreationEvent
  | purge (event : PurgeStepEvent)
  | transition (target : TenantStatus)
  | create (n : ℕ) (creation : Creation)
  | check (n : ℕ)
  | insert (n : ℕ)

namespace CreationSystem

def status (s : CreationSystem) : TenantStatus := s.purge.tenant.status

def setPhase (s : CreationSystem) (n : ℕ) (creation : Creation) (phase : CreationPhase) :
    CreationSystem :=
  { s with call := Function.update s.call n (some ⟨creation, phase⟩) }

/-- `transition_tenant_status`, to a status before the purge. -/
def transition (s : CreationSystem) (target : TenantStatus) : CreationSystem :=
  if target ≠ .purging ∧ target ≠ .purged ∧ s.status.allowedTransitions.contains target = true then
    { s with purge := { s.purge with tenant := { s.purge.tenant with status := target } } }
  else s

/-- What the database asks of a row: a fresh id, and foreign keys to rows that are there. -/
def Accepts (purge : PurgeSystem) (row : OwnedRow) : Prop :=
  row.ref ∉ purge.rows.map OwnedRow.ref ∧
    (∀ ref ∈ row.references, ref ∈ purge.rows.map OwnedRow.ref) ∧
    SchemaSound purge.audit (purge.rows ++ [row])

instance (purge : PurgeSystem) (row : OwnedRow) : Decidable (Accepts purge row) :=
  inferInstanceAs (Decidable (row.ref ∉ purge.rows.map OwnedRow.ref ∧
    (∀ ref ∈ row.references, ref ∈ purge.rows.map OwnedRow.ref) ∧
    SchemaSound purge.audit (purge.rows ++ [row])))

/-- The rows after the insert; `none` where the database refuses it. -/
def insertRow (purge : PurgeSystem) (row : OwnedRow) : Option PurgeSystem :=
  if Accepts purge row then some { purge with rows := purge.rows ++ [row] } else none

def insertRows (purge : PurgeSystem) (creation : Creation) : Option PurgeSystem :=
  (creation.rows purge.tenant.id).foldlM insertRow purge

/-- The inserting transaction is due, and its fence lets it insert: it checked beforehand, it does not
check, or it sees the tenant open with the row locked. -/
def mayInsert (s : CreationSystem) (call : CreationCall) : Bool :=
  match call.creation.fence with
  | .checked => call.phase = .passed
  | .absent => call.phase = .begun
  | .locked => call.phase = .begun && !s.status.isClosed

def step (s : CreationSystem) : CreationEvent → CreationSystem
  | .purge event => { s with purge := s.purge.step event }
  | .transition target => s.transition target
  | .create n creation =>
    match s.call n with
    | none => s.setPhase n creation .begun
    | some _ => s
  | .check n =>
    match s.call n with
    | none => s
    | some call =>
      if call.phase = .begun ∧ call.creation.fence = .checked then
        s.setPhase n call.creation (if s.status.isClosed then .ended else .passed)
      else s
  | .insert n =>
    match s.call n with
    | none => s
    | some call =>
      if s.mayInsert call then
        match insertRows s.purge call.creation with
        | none => s.setPhase n call.creation .ended
        | some purge =>
          { s.setPhase n call.creation .ended with
            purge := purge, inserted := s.inserted ++ [(call.creation, s.status)] }
      else s

/-! ## What a purge relies on -/

/-- An insert is late: into a purged table once the tenant is being purged, and into a retained one
once it is purged. -/
def isLate (creation : Creation) (status : TenantStatus) : Bool :=
  status = .purged || (!creation.isRetained && status = .purging)

/-- A purged tenant has no row in a purged table, but for the revoked and disabled ones that the audit
trail names, and nothing was inserted late. -/
structure NothingAdded (s : CreationSystem) : Prop where
  purged : s.status = .purged → s.purge.AllCleared
  emptied : s.status = .purged → ∀ row ∈ s.purge.rows, row.tenantId = s.purge.tenant.id →
    row.table = .delegationGrants ∨ row.table = .serviceAccounts
  timely : ∀ insertion ∈ s.inserted, isLate insertion.1 insertion.2 = false

/-- An insert without the row lock that goes through is not late. -/
def Timely (s : CreationSystem) : CreationEvent → Prop
  | .insert n => ∀ call ∈ s.call n, call.creation.fence ≠ .locked → s.mayInsert call = true →
      (insertRows s.purge call.creation).isSome = true → isLate call.creation s.status = false
  | _ => True

instance (s : CreationSystem) (event : CreationEvent) : Decidable (s.Timely event) :=
  match event with
  | .insert n => inferInstanceAs (Decidable (∀ call ∈ s.call n, call.creation.fence ≠ .locked →
      s.mayInsert call = true → (insertRows s.purge call.creation).isSome = true →
        isLate call.creation s.status = false))
  | .purge _ | .transition _ | .create _ _ | .check _ => isTrue trivial

/-- No purge has begun, and nothing was inserted yet. -/
structure Initial (s : CreationSystem) : Prop where
  status : s.status ≠ .purged
  call : ∀ n, s.purge.call n = none
  log : ∀ n, s.purge.log n = []
  completions : s.purge.completions = 0
  inserted : s.inserted = []

variable {s : CreationSystem} {call : CreationCall} {n : ℕ}

/-! ## Before the purge -/

lemma sound_of_unpurged {purge purge' : PurgeSystem} (hsound : purge.Sound)
    (hbefore : purge.tenant.status ≠ .purging ∧ purge.tenant.status ≠ .purged)
    (hafter : purge'.tenant.status ≠ .purged) (hcall : purge'.call = purge.call)
    (hlog : purge'.log = purge.log) (hevents : purge'.events = purge.events) : purge'.Sound := by
  have hpast : ¬ purge.Past := fun h => h.1.elim hbefore.1 hbefore.2
  have htombstone : ∀ n, .tombstone ∉ purge.log n := fun n hn =>
    hbefore.2 (hsound.tombstone n hn)
  have hcompletions : purge'.completions = purge.completions := by
    unfold PurgeSystem.completions
    rw [hevents]
  refine ⟨fun n call hn => ?_, fun n call hn => ?_, fun n _ => ?_, fun h => absurd h hafter,
    fun n hn => ?_, fun n m hn => ?_, ?_, fun n call hn => ?_, fun h => ?_⟩
  · rw [hcall] at hn
    have hrows := hsound.rows n call hn
    cases hphase : call.phase with
    | begun | refused | returned => trivial
    | entered | started | failing | failed =>
      rw [hphase] at hrows
      exact absurd hrows hpast
    | passing | deleting | participating | cleaning | finishing | completing =>
      rw [hphase] at hrows
      exact absurd hrows.1 hpast
  · rw [hcall] at hn
    rw [hlog]
    exact hsound.log n call hn
  · rw [hlog]
    exact htombstone n
  · rw [hlog] at hn
    exact absurd hn (htombstone n)
  · rw [hlog] at hn
    exact absurd hn (htombstone n)
  · rw [hcompletions]
    exact hsound.completions_le
  · rw [hcall] at hn
    rw [hcompletions]
    exact hsound.completing n call hn
  · rw [hcompletions] at h
    exact absurd (hsound.completed h) hbefore.2

lemma unpurged_of_transition {status target : TenantStatus}
    (h : status.allowedTransitions.contains target = true) (htarget : target ≠ .purged) :
    status ≠ .purging ∧ status ≠ .purged := by
  cases status <;> cases target <;> simp_all [TenantStatus.allowedTransitions]

lemma sound_transition (hsound : s.purge.Sound) (target : TenantStatus) :
    (s.transition target).purge.Sound := by
  unfold transition
  split_ifs with h
  · obtain ⟨-, hpurged, hedge⟩ := h
    exact sound_of_unpurged hsound (unpurged_of_transition hedge hpurged) hpurged rfl rfl rfl
  · exact hsound

lemma frame_insertRows {purge purge' : PurgeSystem} {rows : List OwnedRow}
    (h : rows.foldlM insertRow purge = some purge') :
    purge'.tenant = purge.tenant ∧ purge'.call = purge.call ∧ purge'.log = purge.log ∧
      purge'.events = purge.events := by
  induction rows generalizing purge with
  | nil =>
    obtain rfl := Option.some.inj h
    exact ⟨rfl, rfl, rfl, rfl⟩
  | cons row rows ih =>
    rw [List.foldlM_cons, Option.bind_eq_bind, Option.bind_eq_some_iff] at h
    obtain ⟨next, hnext, hrest⟩ := h
    unfold insertRow at hnext
    split_ifs at hnext
    obtain rfl := Option.some.inj hnext
    have hkept := ih hrest
    exact hkept

lemma sound_insertRows {purge purge' : PurgeSystem} {creation : Creation} (hsound : purge.Sound)
    (hinsert : insertRows purge creation = some purge')
    (htimely : isLate creation purge.tenant.status = false) : purge'.Sound := by
  unfold insertRows at hinsert
  cases hretained : creation.isRetained with
  | true =>
    rw [← creation.isEmpty_rows purge.tenant.id, List.isEmpty_iff] at hretained
    rw [hretained] at hinsert
    obtain rfl := Option.some.inj hinsert
    exact hsound
  | false =>
    have hbefore : purge.tenant.status ≠ .purging ∧ purge.tenant.status ≠ .purged := by
      simp only [isLate, hretained, Bool.not_false, Bool.true_and, Bool.or_eq_false_iff,
        decide_eq_false_iff_not] at htimely
      exact ⟨htimely.2, htimely.1⟩
    obtain ⟨htenant, hcall, hlog, hevents⟩ := frame_insertRows hinsert
    exact sound_of_unpurged hsound hbefore (htenant ▸ hbefore.2) hcall hlog hevents

lemma not_isLate_of_locked (hlocked : call.creation.fence = .locked)
    (hmay : s.mayInsert call = true) : isLate call.creation s.status = false := by
  have hopen : s.status.isClosed = false := by
    unfold mayInsert at hmay
    rw [hlocked] at hmay
    simpa using (Bool.and_eq_true_iff.1 hmay).2
  unfold isLate
  cases hstatus : s.status <;> simp_all [TenantStatus.isClosed]

/-! ## Runs -/

/-- The invariant: the purges are sound, and nothing was inserted late. -/
structure Sound (s : CreationSystem) : Prop where
  purge : s.purge.Sound
  timely : ∀ insertion ∈ s.inserted, isLate insertion.1 insertion.2 = false

lemma Initial.sound (h : s.Initial) : s.Sound := by
  have hlog : ∀ n, .tombstone ∉ s.purge.log n := fun n hn => by
    rw [h.log n] at hn
    cases hn
  have hcall : ∀ {n call}, s.purge.call n = some call → False := fun hn => by
    rw [h.call] at hn
    cases hn
  refine ⟨⟨fun _ _ hn => (hcall hn).elim, fun _ _ hn => (hcall hn).elim, fun n _ => hlog n,
    fun hpurged => absurd hpurged h.status, fun n hn => absurd hn (hlog n),
    fun n _ hn => absurd hn (hlog n), h.completions.le.trans (Nat.zero_le 1),
    fun _ _ _ _ => h.completions, fun hpos => ?_⟩, fun insertion hmem => ?_⟩
  · rw [h.completions] at hpos
    cases hpos
  · rw [h.inserted] at hmem
    cases hmem

lemma Sound.step (hsound : s.Sound) {event : CreationEvent} (htimely : s.Timely event) :
    (s.step event).Sound := by
  cases event with
  | purge event => exact ⟨hsound.purge.step event, hsound.timely⟩
  | transition target =>
    refine ⟨sound_transition hsound.purge target, ?_⟩
    simp only [CreationSystem.step, transition]
    split_ifs <;> exact hsound.timely
  | create n creation =>
    dsimp only [CreationSystem.step]
    split <;> exact ⟨hsound.purge, hsound.timely⟩
  | check n =>
    dsimp only [CreationSystem.step]
    split
    · exact hsound
    · split_ifs <;> exact ⟨hsound.purge, hsound.timely⟩
  | insert n =>
    dsimp only [CreationSystem.step]
    split
    · exact hsound
    next call hcall =>
      split_ifs with hmay
      · cases hinsert : insertRows s.purge call.creation with
        | none => exact ⟨hsound.purge, hsound.timely⟩
        | some purge =>
          have hlate : isLate call.creation s.status = false := by
            by_cases hlocked : call.creation.fence = .locked
            · exact not_isLate_of_locked hlocked hmay
            · exact htimely call hcall hlocked hmay (by rw [hinsert]; rfl)
          refine ⟨sound_insertRows hsound.purge hinsert hlate, fun insertion hmem => ?_⟩
          rcases List.mem_append.1 hmem with hmem | hmem
          · exact hsound.timely insertion hmem
          · obtain rfl := List.mem_singleton.1 hmem
            exact hlate
      · exact hsound

lemma Sound.nothingAdded (h : s.Sound) : s.NothingAdded where
  purged hpurged := (h.purge.purged hpurged).1
  emptied hpurged row hrow howner := by
    obtain ⟨-, haudited | ⟨haccount, -⟩⟩ := (h.purge.purged hpurged).1 row.table row hrow howner rfl
    · exact .inl haudited.table
    · exact .inr haccount
  timely := h.timely

lemma timely_of_nothingAdded {event : CreationEvent} (h : (s.step event).NothingAdded) :
    s.Timely event := by
  cases event with
  | purge | transition | create | check => trivial
  | insert n =>
    intro call hcall _ hmay hinsert
    obtain ⟨purge, hpurge⟩ := Option.isSome_iff_exists.1 hinsert
    have hcall' : s.call n = some call := hcall
    have hmem : (call.creation, s.status) ∈ (s.step (.insert n)).inserted := by
      simp [CreationSystem.step, hcall', hmay, hpurge]
    exact h.timely _ hmem

/-- In any interleaving of creating operations, transitions and purges: nothing is added to the tenant
when it is being purged or purged, and a purged tenant stays empty, exactly if no operation without
the lock commits its insert late. -/
theorem nothingAdded_iff (hinitial : s.Initial) (events : List CreationEvent) :
    Along CreationSystem.step Timely s events ↔
      Always CreationSystem.step NothingAdded s events := by
  constructor
  · intro h before after heq
    exact (always_of_along (I := Sound) (fun _ _ hsound htimely => hsound.step htimely)
      hinitial.sound h before after heq).nothingAdded
  · intro h
    clear hinitial
    induction events generalizing s with
    | nil => trivial
    | cons event events ih =>
      refine ⟨timely_of_nothingAdded (h [event] events rfl), ih ?_⟩
      rintro before after rfl
      exact h (event :: before) after rfl

def activeTenant : CreationSystem where
  purge :=
    { tenant := ⟨10, "Acme", .active, none⟩
      liveChildren := []
      rows := [⟨.tenantMemberships, 4, 10, [], true⟩]
      audit := []
      events := []
      liveSupportAccess := []
      deadLetters := []
      locks := .empty
      call := fun _ => none
      log := fun _ => [] }
  call := fun _ => none
  inserted := []

lemma activeTenant_initial : activeTenant.Initial :=
  ⟨by decide, fun _ => rfl, fun _ => rfl, rfl, rfl⟩

def deletedAndPurged : List CreationEvent :=
  .transition .deleted :: .purge (.begin 0 (.system .tenantPurge) []) ::
    List.replicate 60 (.purge (.advance 0))

theorem nothingAdded_beforehand : Always CreationSystem.step NothingAdded activeTenant
    ([.create 0 (.runIdempotent 7), .check 0, .insert 0] ++ deletedAndPurged) :=
  (nothingAdded_iff activeTenant_initial _).1 (by decide +kernel)

/-- An operation that found the tenant open inserts its row after the purge has ended. -/
theorem row_added_to_purged : activeTenant.Initial ∧
    ¬ Always CreationSystem.step NothingAdded activeTenant
      ([.create 0 (.runIdempotent 7), .check 0] ++ deletedAndPurged ++ [.insert 0]) := by
  refine ⟨activeTenant_initial, fun h => ?_⟩
  have hadded := h _ [] (List.append_nil _).symm
  rcases hadded.emptied (by decide +kernel) ⟨.idempotencyRecords, 7, 10, [], true⟩
    (by decide +kernel) (by decide +kernel) with htable | htable
  · cases htable
  · cases htable

end CreationSystem

end SaasOs
