import SaasOs.Idempotency.Records
import SaasOs.Foundation.Run

/-!
# Reservations around an external call

An operation that makes an external call reserves its key first and records the outcome afterwards.
The reservation is made in up to three transactions: the insertion of a pending record; when the key
is taken, the read of the existing record; when that one failed or was abandoned, the write that
makes it pending again.  The outcome is recorded in a fourth one.  Each transaction is a step of its
own.
-/

namespace SaasOs

open Rows

/-! ## Calls -/

inductive ReservationError
  | keyReused
  | inProgress
  | noResultFound
  | assertion
  deriving DecidableEq

inductive CallPhase (R : Type)
  /-- The call has read the clock. -/
  | started (now : Instant)
  /-- Its insertion failed. -/
  | refused (now : Instant)
  /-- It has read a record that may be retried. -/
  | takingOver (now : Instant) (existing : IdempotencyRecord R)
  /-- It has returned with `is_replay=False`; its reservation was written at the given instant. -/
  | holding (recordId : Uuid) (reservedAt : Instant)
  /-- Its outcome was recorded. -/
  | finalized (recordId : Uuid) (reservedAt : Instant)
  /-- It has returned with `is_replay=True`. -/
  | replayed (recordId : Uuid) (result : R)
  | raised (error : ReservationError)
  deriving DecidableEq

structure IdempotentCall (R : Type) where
  request : IdempotencyRequest
  phase : CallPhase R
  deriving DecidableEq

/-- The clock of the database, the table and the calls. -/
structure Reservations (R : Type) where
  clock : Instant
  records : IdempotencyRecords R
  calls : ℕ → Option (IdempotentCall R)

inductive CallTransaction (R : Type)
  | insert (recordId : Uuid)
  | read
  | reset
  | finalize (status : IdempotencyStatus) (result : Option R)
  deriving DecidableEq

/-- The passing of time, the start of a call with the instant that its host's clock shows, a
transaction of a call, or a deletion. -/
inductive ReservationStep (R : Type)
  | tick (elapsed : ℕ)
  | start (n : ℕ) (request : IdempotencyRequest) (now : Instant)
  | transaction (n : ℕ) (transaction : CallTransaction R)
  | purgeExpired (tenantId : Uuid) (now : Instant)
  | purgeTenant (tenantId : Uuid)
  deriving DecidableEq

def CallPhase.afterRead {R : Type} (now : Instant) : ExistingRecord R → CallPhase R
  | .noResultFound => .raised .noResultFound
  | .keyReused => .raised .keyReused
  | .replay recordId result => .replayed recordId result
  | .inProgress => .raised .inProgress
  | .retryable existing => .takingOver now existing

namespace Reservations

variable {R : Type}

def setPhase (state : Reservations R) (n : ℕ) (request : IdempotencyRequest) (phase : CallPhase R) :
    Reservations R :=
  { state with calls := Function.update state.calls n (some ⟨request, phase⟩) }

def insert (config : IdempotencyConfig) (state : Reservations R) (n : ℕ)
    (request : IdempotencyRequest) (recordId : Uuid) (now : Instant) : Reservations R :=
  match reserve config request recordId now state.clock state.records with
  | none => state.setPhase n request (.refused now)
  | some records =>
    { state with records := records }.setPhase n request (.holding recordId state.clock)

def reset [DecidableEq R] (config : IdempotencyConfig) (state : Reservations R) (n : ℕ)
    (request : IdempotencyRequest) (now : Instant) (existing : IdempotencyRecord R) :
    Reservations R :=
  match resetToPending config request existing.id now state.clock state.records with
  | none => state.setPhase n request (.raised .assertion)
  | some records =>
    { state with records := records }.setPhase n request (.holding existing.id state.clock)

def finalize [DecidableEq R] (state : Reservations R) (n : ℕ) (request : IdempotencyRequest)
    (recordId : Uuid) (reservedAt : Instant) (status : IdempotencyStatus) (result : Option R) :
    Reservations R :=
  { state with
    records := finalizeIdempotentOperation request.tenantId recordId status result state.clock
      state.records }.setPhase n request (.finalized recordId reservedAt)

def advance [DecidableEq R] [EmptyCollection R] (config : IdempotencyConfig)
    (state : Reservations R) (n : ℕ) (request : IdempotencyRequest) :
    CallTransaction R → CallPhase R → Reservations R
  | .insert recordId, .started now => state.insert config n request recordId now
  | .read, .refused now =>
    state.setPhase n request (.afterRead now (judgeExisting config request now state.records))
  | .reset, .takingOver now existing => state.reset config n request now existing
  | .finalize status result, .holding recordId reservedAt =>
    state.finalize n request recordId reservedAt status result
  | _, _ => state

def step [DecidableEq R] [EmptyCollection R] (config : IdempotencyConfig) (state : Reservations R) :
    ReservationStep R → Reservations R
  | .tick elapsed => { state with clock := state.clock + elapsed }
  | .start n request now =>
    match state.calls n with
    | none => state.setPhase n request (.started now)
    | some _ => state
  | .transaction n transaction =>
    match state.calls n with
    | none => state
    | some call => state.advance config n call.request transaction call.phase
  | .purgeExpired tenantId now =>
    { state with records := purgeExpiredIdempotencyRecords tenantId now state.records }
  | .purgeTenant tenantId =>
    { state with records := purgeTenantIdempotencyRecords tenantId state.records }

/-- No call was made yet, and nothing is recorded. -/
structure Initial (state : Reservations R) : Prop where
  calls : ∀ n, state.calls n = none
  rows : state.records.rows = []

/-- The call holds the key of the scope: it has returned with `is_replay=False`, after its
reservation was written at the given instant, and has not recorded its outcome. -/
def Holds (state : Reservations R) (n : ℕ) (scope : Uuid × String × String) (recordId : Uuid)
    (reservedAt : Instant) : Prop :=
  ∃ request, state.calls n = some ⟨request, .holding recordId reservedAt⟩ ∧ request.scope = scope

/-- Of two calls that hold a key, one had been pending for the whole time-out when the other one
took over. -/
def Exclusive (config : IdempotencyConfig) (state : Reservations R) : Prop :=
  ∀ n m scope recordId recordId' reservedAt reservedAt', n ≠ m →
    state.Holds n scope recordId reservedAt → state.Holds m scope recordId' reservedAt' →
    reservedAt + config.pendingTtl ≤ reservedAt' ∨ reservedAt' + config.pendingTtl ≤ reservedAt

/-- A call that finalizes does so before its reservation can be taken over. -/
def FinalizesInTime (config : IdempotencyConfig) (state : Reservations R) (step : ReservationStep R) :
    Prop :=
  ∀ n status result, step = .transaction n (.finalize status result) →
    ∀ scope recordId reservedAt, state.Holds n scope recordId reservedAt →
    state.clock < reservedAt + config.pendingTtl

/-- No host's clock is ahead of the database's when a call reads it. -/
def ReadsPast (state : Reservations R) (step : ReservationStep R) : Prop :=
  ∀ n request now, step = .start n request now → now ≤ state.clock

/-- A reset finds the record as its call has read it. -/
def ResetsAsRead (state : Reservations R) (step : ReservationStep R) : Prop :=
  ∀ n, step = .transaction n .reset → ∀ request now existing,
    state.calls n = some ⟨request, .takingOver now existing⟩ → existing ∈ state.records.rows

end Reservations

def ReservationStep.KeepsRecords {R : Type} : ReservationStep R → Prop
  | purgeExpired _ _ | purgeTenant _ => False
  | tick _ | start _ _ _ | transaction _ _ => True

/-! ## One call at a time -/

/-- What is known of a call: the instant it read is past; a record it takes over may be retried; and
while its reservation has not timed out, the record is the one it wrote. -/
def IdempotentCall.Sound {R : Type} (config : IdempotencyConfig) (clock : Instant)
    (records : IdempotencyRecords R) (call : IdempotentCall R) : Prop :=
  match call.phase with
  | .started now | .refused now => now ≤ clock
  | .takingOver now existing =>
    now ≤ clock ∧ existing.scope = call.request.scope ∧ existing.Retryable config now
  | .holding recordId reservedAt =>
    reservedAt ≤ clock ∧ ∃ row ∈ records.rows, row.id = recordId ∧
      row.scope = call.request.scope ∧
      (clock < reservedAt + config.pendingTtl →
        row.status = .pending ∧ row.updatedAt = reservedAt)
  | .finalized _ _ | .replayed _ _ | .raised _ => True

/-- The invariant of runs in which no clock is ahead, records are reset as they were read and outcomes
are recorded in time. -/
structure Reservations.Sound {R : Type} (config : IdempotencyConfig) (state : Reservations R) :
    Prop where
  call : ∀ n call, state.calls n = some call → call.Sound config state.clock state.records
  exclusive : state.Exclusive config
  expires : ∀ row ∈ state.records.rows, row.expiresAt ≤ config.expiresAt row.updatedAt

namespace IdempotentCall.Sound

variable {R : Type} {config : IdempotencyConfig} {clock : Instant}
  {records records' : IdempotencyRecords R} {call : IdempotentCall R}

lemma tick (h : call.Sound config clock records) (elapsed : ℕ) :
    call.Sound config (clock + elapsed) records := by
  have hlater : clock ≤ clock + (elapsed : ℤ) := Int.le_add_of_nonneg_right (by positivity)
  obtain ⟨request, phase⟩ := call
  cases phase with
  | started now => exact h.trans hlater
  | refused now => exact h.trans hlater
  | takingOver now existing => exact ⟨h.1.trans hlater, h.2⟩
  | holding recordId reservedAt =>
    obtain ⟨hreserved, row, hrow, hid, hscope, hown⟩ := h
    exact ⟨hreserved.trans hlater, row, hrow, hid, hscope, fun hyoung =>
      hown (hlater.trans_lt hyoung)⟩
  | finalized | replayed | raised => trivial

lemma insert (h : call.Sound config clock records) {row : IdempotencyRecord R}
    (hinsert : records.insert row = some records') : call.Sound config clock records' := by
  obtain ⟨hrows, -⟩ := IdempotencyRecords.insert_eq_some hinsert
  obtain ⟨request, phase⟩ := call
  cases phase with
  | started | refused | takingOver => exact h
  | holding recordId reservedAt =>
    obtain ⟨hreserved, row', hrow', hrest⟩ := h
    exact ⟨hreserved, row', by rw [hrows]; exact List.mem_append_left _ hrow', hrest⟩
  | finalized | replayed | raised => trivial

lemma update (h : call.Sound config clock records) {recordId : Uuid}
    {f : IdempotencyRecord R → IdempotencyRecord R} {hid : ∀ row, (f row).id = row.id}
    {hscope : ∀ row, (f row).scope = row.scope}
    (hold : ∀ reservedAt, call.phase = .holding recordId reservedAt →
      reservedAt + config.pendingTtl ≤ clock) :
    call.Sound config clock (records.update recordId f hid hscope) := by
  obtain ⟨request, phase⟩ := call
  cases phase with
  | started | refused | takingOver => exact h
  | holding id reservedAt =>
    obtain ⟨hreserved, row, hrow, rfl, hscope', hown⟩ := h
    refine ⟨hreserved, ?_⟩
    by_cases heq : row.id = recordId
    · refine ⟨f row, IdempotencyRecords.mem_update.mpr (.inl ⟨row, hrow, heq, rfl⟩), hid row,
        (hscope row).trans hscope', fun hyoung => ?_⟩
      have htimedOut := hold reservedAt (by rw [heq])
      exact absurd hyoung (not_lt.mpr htimedOut)
    · exact ⟨row, IdempotencyRecords.mem_update.mpr (.inr ⟨hrow, heq⟩), rfl, hscope', hown⟩
  | finalized | replayed | raised => trivial

end IdempotentCall.Sound

namespace Reservations

variable {R : Type} {config : IdempotencyConfig} {state : Reservations R} {n : ℕ}
  {request : IdempotencyRequest}

variable {m : ℕ}

lemma calls_setPhase {request' : IdempotencyRequest} {phase phase' : CallPhase R}
    (h : (state.setPhase m request' phase').calls n = some ⟨request, phase⟩) :
    state.calls n = some ⟨request, phase⟩ ∨ (n = m ∧ request = request' ∧ phase = phase') := by
  unfold setPhase at h
  by_cases hn : n = m
  · subst hn
    simp only [Function.update_self, Option.some.injEq, IdempotentCall.mk.injEq] at h
    exact .inr ⟨rfl, h.1.symm, h.2.symm⟩
  · simp only [Function.update_of_ne hn] at h
    exact .inl h

variable {phase : CallPhase R} {recordId : Uuid} {reservedAt : Instant}

lemma Holds.of_setPhase {scope : Uuid × String × String}
    (h : (state.setPhase n request phase).Holds m scope recordId reservedAt) :
    (m = n ∧ phase = .holding recordId reservedAt ∧ request.scope = scope) ∨
      (m ≠ n ∧ state.Holds m scope recordId reservedAt) := by
  obtain ⟨request', hcall, hscope⟩ := h
  unfold setPhase at hcall
  by_cases hm : m = n
  · subst hm
    simp only [Function.update_self, Option.some.injEq, IdempotentCall.mk.injEq] at hcall
    exact .inl ⟨rfl, hcall.2, hcall.1 ▸ hscope⟩
  · simp only [Function.update_of_ne hm] at hcall
    exact .inr ⟨hm, request', hcall, hscope⟩

lemma Sound.setPhase (hsound : state.Sound config) {records : IdempotencyRecords R}
    {phase : CallPhase R}
    (hothers : ∀ m call, m ≠ n → state.calls m = some call →
      call.Sound config state.clock records)
    (hcall : (IdempotentCall.mk request phase).Sound config state.clock records)
    (hexclusive : ∀ recordId reservedAt, phase = .holding recordId reservedAt →
      ∀ m recordId' reservedAt', m ≠ n → state.Holds m request.scope recordId' reservedAt' →
      reservedAt' + config.pendingTtl ≤ reservedAt)
    (hexpires : ∀ row ∈ records.rows, row.expiresAt ≤ config.expiresAt row.updatedAt) :
    ({ state with records := records }.setPhase n request phase).Sound config := by
  refine ⟨fun m call hm => ?_, ?_, hexpires⟩
  · by_cases heq : m = n
    · subst heq
      simp only [Reservations.setPhase, Function.update_self, Option.some.injEq] at hm
      exact hm ▸ hcall
    · simp only [Reservations.setPhase, Function.update_of_ne heq] at hm
      exact hothers m call heq hm
  · intro m m' scope recordId recordId' reservedAt reservedAt' hne hholds hholds'
    rcases hholds.of_setPhase with ⟨rfl, hphase, hscope⟩ | ⟨hm, hheld⟩
    · rcases hholds'.of_setPhase with ⟨rfl, -⟩ | ⟨hm', hheld'⟩
      · exact absurd rfl hne
      · subst hscope
        exact .inr (hexclusive recordId reservedAt hphase m' recordId' reservedAt' hm' hheld')
    · rcases hholds'.of_setPhase with ⟨rfl, hphase, hscope⟩ | ⟨hm', hheld'⟩
      · subst hscope
        exact .inl (hexclusive recordId' reservedAt' hphase m recordId reservedAt hm hheld)
      · exact hsound.exclusive m m' scope recordId recordId' reservedAt reservedAt' hne hheld hheld'

lemma Sound.setPhase_of_not_holding (hsound : state.Sound config)
    (hcall : (IdempotentCall.mk request phase).Sound config state.clock state.records)
    (hphase : ∀ recordId reservedAt, phase ≠ .holding recordId reservedAt) :
    (state.setPhase n request phase).Sound config :=
  hsound.setPhase (fun m call _ hm => hsound.call m call hm) hcall
    (fun recordId reservedAt heq => absurd heq (hphase recordId reservedAt)) hsound.expires

lemma Sound.holds (hsound : state.Sound config) {scope : Uuid × String × String}
    (h : state.Holds n scope recordId reservedAt) :
    reservedAt ≤ state.clock ∧ ∃ row ∈ state.records.rows, row.id = recordId ∧ row.scope = scope ∧
      (state.clock < reservedAt + config.pendingTtl →
        row.status = .pending ∧ row.updatedAt = reservedAt) := by
  obtain ⟨request, hcall, rfl⟩ := h
  exact hsound.call n _ hcall

lemma Sound.insert (hsound : state.Sound config) {recordId : Uuid} {now : Instant}
    (hnow : now ≤ state.clock) : (state.insert config n request recordId now).Sound config := by
  unfold Reservations.insert
  split
  · exact hsound.setPhase_of_not_holding hnow fun _ _ h => by cases h
  · next records hreserve =>
    obtain ⟨hrows, hnew⟩ := IdempotencyRecords.insert_eq_some hreserve
    have hmem : IdempotencyRecord.reserved recordId request (config.expiresAt now) state.clock ∈
        records.rows := by
      rw [hrows]
      exact List.mem_append_right _ List.mem_cons_self
    refine hsound.setPhase (fun m call _ hm => (hsound.call m call hm).insert hreserve)
      ⟨le_rfl, _, hmem, rfl, rfl, fun _ => ⟨rfl, rfl⟩⟩ ?_ ?_
    · intro _ _ _ m recordId' reservedAt' _ hholds
      obtain ⟨-, row, hrow, -, hscope, -⟩ := hsound.holds hholds
      exact absurd hscope (hnew row hrow).2
    · intro row hrow
      rw [hrows, List.mem_append, List.mem_singleton] at hrow
      rcases hrow with hrow | rfl
      · exact hsound.expires row hrow
      · exact Int.add_le_add_right hnow _

variable {now : Instant}

lemma updatedAt_written_of_retryable [DecidableEq R] {row : IdempotencyRecord R}
    (hretryable : row.Retryable config now)
    (hexpires : row.expiresAt ≤ config.expiresAt row.updatedAt) (writtenAt : Instant) :
    (row.written writtenAt .pending row.result (config.expiresAt now)).updatedAt = writtenAt := by
  unfold IdempotencyRecord.written
  rw [if_neg]
  rintro ⟨hpending, -, hexpiresAt⟩
  rcases hretryable with hfailed | ⟨-, htimedOut⟩
  · rw [hpending] at hfailed
    cases hfailed
  · have hpos := config.pendingTtl_pos
    unfold IdempotencyConfig.expiresAt at hexpires hexpiresAt
    linarith

lemma expiresAt_written_le [DecidableEq R] {row : IdempotencyRecord R}
    (hexpires : row.expiresAt ≤ config.expiresAt row.updatedAt) {writtenAt expiresAt : Instant}
    (hle : expiresAt ≤ config.expiresAt writtenAt) (status : IdempotencyStatus)
    (result : Option R) :
    (row.written writtenAt status result expiresAt).expiresAt ≤
      config.expiresAt (row.written writtenAt status result expiresAt).updatedAt := by
  unfold IdempotencyRecord.written
  split
  · exact hexpires
  · exact hle

lemma Sound.reset [DecidableEq R] (hsound : state.Sound config) {now : Instant}
    {existing : IdempotencyRecord R}
    (hcall : (IdempotentCall.mk request (.takingOver now existing)).Sound config state.clock
      state.records)
    (hread : existing ∈ state.records.rows) :
    (state.reset config n request now existing).Sound config := by
  obtain ⟨hnow, hscope, hretryable⟩ := hcall
  -- a reservation that has not timed out is pending, and younger than a retryable record
  have htimedOut : ∀ m scope reservedAt, state.Holds m scope existing.id reservedAt →
      reservedAt + config.pendingTtl ≤ state.clock := by
    intro m scope reservedAt hholds
    by_contra hyoung
    obtain ⟨-, row, hrow, hid, -, hown⟩ := hsound.holds hholds
    obtain rfl := state.records.unique_id.eq_of_key_eq hrow hread hid
    obtain ⟨hpending, hupdated⟩ := hown (not_le.mp hyoung)
    rcases hretryable with hfailed | ⟨-, hage⟩
    · rw [hpending] at hfailed
      cases hfailed
    · rw [hupdated] at hage
      exact hyoung (hage.trans hnow)
  unfold Reservations.reset
  split
  · exact hsound.setPhase_of_not_holding trivial fun _ _ h => by cases h
  · next records hreset =>
    obtain ⟨-, -, rfl⟩ := Option.map_eq_some_iff.mp hreset
    have hwritten := updatedAt_written_of_retryable hretryable (hsound.expires existing hread)
      state.clock
    refine hsound.setPhase
      (fun m call _ hm => (hsound.call m call hm).update fun reservedAt hp => ?_)
      ⟨le_rfl, _, IdempotencyRecords.mem_update.mpr (.inl ⟨existing, hread, rfl, rfl⟩), by simp,
        by simpa using hscope, fun _ => ⟨by simp, hwritten⟩⟩ ?_ ?_
    · exact htimedOut m call.request.scope reservedAt ⟨call.request, by rw [hm, ← hp], rfl⟩
    · rintro _ _ ⟨⟩ m recordId' reservedAt' hne hholds
      obtain ⟨-, row, hrow, hid, hscope', -⟩ := hsound.holds hholds
      obtain rfl := state.records.unique_scope.eq_of_key_eq hrow hread (hscope'.trans hscope.symm)
      subst hid
      exact htimedOut m _ reservedAt' hholds
    · intro row hrow
      rcases IdempotencyRecords.mem_update.mp hrow with ⟨row₀, hrow₀, -, rfl⟩ | ⟨hrow, -⟩
      · exact expiresAt_written_le (hsound.expires row₀ hrow₀) (Int.add_le_add_right hnow _) _ _
      · exact hsound.expires row hrow

lemma Sound.finalize [DecidableEq R] (hsound : state.Sound config) {recordId : Uuid}
    {reservedAt : Instant} (hholds : state.Holds n request.scope recordId reservedAt)
    (hintime : state.clock < reservedAt + config.pendingTtl) (status : IdempotencyStatus)
    (result : Option R) :
    (state.finalize n request recordId reservedAt status result).Sound config := by
  obtain ⟨hreserved, row, hrow, hid, hscope, hown⟩ := hsound.holds hholds
  obtain ⟨-, hupdated⟩ := hown hintime
  unfold Reservations.finalize finalizeIdempotentOperation
  split
  · exact hsound.setPhase_of_not_holding trivial fun _ _ h => by cases h
  · refine hsound.setPhase (fun m call hne hm => (hsound.call m call hm).update fun other hp => ?_)
      trivial (fun _ _ h => by cases h) ?_
    · -- the other call holds the same key, and not both reservations are that young
      have hother : state.Holds m call.request.scope recordId other :=
        ⟨call.request, by rw [hm, ← hp], rfl⟩
      obtain ⟨hother', row', hrow', hid', hscope', -⟩ := hsound.holds hother
      obtain rfl := state.records.unique_id.eq_of_key_eq hrow' hrow (hid'.trans hid.symm)
      rw [← hscope', hscope] at hother
      rcases hsound.exclusive n m request.scope recordId recordId reservedAt other hne.symm hholds
        hother with hlater | hearlier
      · exact absurd (hlater.trans hother') (not_le.mpr hintime)
      · exact hearlier.trans hreserved
    · intro row' hrow'
      rcases IdempotencyRecords.mem_update.mp hrow' with ⟨row₀, hrow₀, hid₀, rfl⟩ | ⟨hrow', -⟩
      · obtain rfl := state.records.unique_id.eq_of_key_eq hrow₀ hrow (hid₀.trans hid.symm)
        have hexpires := hsound.expires row₀ hrow₀
        refine expiresAt_written_le hexpires (hexpires.trans ?_) _ _
        rw [hupdated]
        exact Int.add_le_add_right hreserved _
      · exact hsound.expires row' hrow'

variable [EmptyCollection R]

lemma Sound.read (hsound : state.Sound config) (hnow : now ≤ state.clock) :
    (state.setPhase n request
      (.afterRead now (judgeExisting config request now state.records))).Sound config := by
  cases hjudge : judgeExisting config request now state.records with
  | retryable existing =>
    obtain ⟨-, hscope, hretryable⟩ := judgeExisting_eq_retryable hjudge
    exact hsound.setPhase_of_not_holding ⟨hnow, hscope, hretryable⟩ fun _ _ h => by cases h
  | noResultFound | keyReused | replay | inProgress =>
    exact hsound.setPhase_of_not_holding trivial fun _ _ h => by cases h

variable [DecidableEq R]

lemma Sound.advance (hsound : state.Sound config) {phase : CallPhase R}
    (hcall : state.calls n = some ⟨request, phase⟩) {transaction : CallTransaction R}
    (hintime : state.FinalizesInTime config (.transaction n transaction))
    (hread : state.ResetsAsRead (.transaction n transaction)) :
    (state.advance config n request transaction phase).Sound config := by
  have hphase := hsound.call n _ hcall
  cases transaction with
  | insert recordId =>
    cases phase with
    | started now => exact hsound.insert hphase
    | _ => exact hsound
  | read =>
    cases phase with
    | refused now => exact hsound.read hphase
    | _ => exact hsound
  | reset =>
    cases phase with
    | takingOver now existing => exact hsound.reset hphase (hread n rfl request now existing hcall)
    | _ => exact hsound
  | finalize status result =>
    cases phase with
    | holding recordId reservedAt =>
      have hholds : state.Holds n request.scope recordId reservedAt := ⟨request, hcall, rfl⟩
      have hyoung := hintime n status result rfl _ _ _ hholds
      exact hsound.finalize hholds hyoung status result
    | _ => exact hsound

lemma Sound.step (hsound : state.Sound config) {step : ReservationStep R}
    (hkeeps : step.KeepsRecords) (hpast : state.ReadsPast step)
    (hintime : state.FinalizesInTime config step) (hread : state.ResetsAsRead step) :
    (state.step config step).Sound config := by
  cases step with
  | tick elapsed =>
    exact ⟨fun n call hn => (hsound.call n call hn).tick elapsed, hsound.exclusive, hsound.expires⟩
  | start n request now =>
    dsimp only [Reservations.step]
    split
    · exact hsound.setPhase_of_not_holding (hpast n request now rfl) fun _ _ h => by cases h
    · exact hsound
  | transaction n transaction =>
    dsimp only [Reservations.step]
    split
    · exact hsound
    · next call hcall => exact hsound.advance hcall hintime hread
  | purgeExpired | purgeTenant => exact absurd hkeeps id

/-- **One call at a time.**  In every run, from an empty table on, in which no host's clock is ahead of
the database's, outcomes are recorded within the time-out and every write that makes a record pending
again finds it as it was read, two calls never hold the same key, unless the one had been pending for
the whole time-out when the other one took over. -/
theorem run_exclusive (hinitial : state.Initial) {steps : List (ReservationStep R)}
    (hkeeps : ∀ step ∈ steps, step.KeepsRecords)
    (hpast : Run.Along (Reservations.step config) ReadsPast state steps)
    (hintime : Run.Along (Reservations.step config) (FinalizesInTime config) state steps)
    (hread : Run.Along (Reservations.step config) ResetsAsRead state steps) :
    Run.Always (Reservations.step config) (Exclusive config) state steps := by
  have hstart : state.Sound config := by
    refine ⟨fun n call hn => ?_, ?_, fun row hrow => ?_⟩
    · rw [hinitial.calls n] at hn
      cases hn
    · rintro n m scope _ _ _ _ - ⟨request, hn, -⟩
      rw [hinitial.calls n] at hn
      cases hn
    · rw [hinitial.rows] at hrow
      cases hrow
  have halong := (((Run.along_of_forall hkeeps).and hpast).and hintime).and hread
  have hsound := Run.always_of_along (I := Sound config)
    (fun state step hsound h => hsound.step h.1.1.1 h.1.1.2 h.1.2 h.2) hstart halong
  exact fun before after hsteps => (hsound before after hsteps).exclusive

end Reservations

def subscribeRequest : IdempotencyRequest := ⟨1, "billing.subscribe", "order-1", "f1"⟩

def noReservations : Reservations (List (String × String)) where
  clock := 0
  records := { rows := [], unique_id := by decide, unique_scope := by decide }
  calls := fun _ => none

lemma noReservations_initial : noReservations.Initial :=
  ⟨fun _ => rfl, rfl⟩

def beginCall (n : ℕ) (recordId : Uuid) (now : Instant) :
    List (ReservationStep (List (String × String))) :=
  [.start n subscribeRequest now, .transaction n (.insert recordId)]

def retriedOnce : List (ReservationStep (List (String × String))) :=
  beginCall 1 7 0 ++ [.transaction 1 (.finalize .failed none)] ++ beginCall 2 8 0 ++
    [.transaction 2 .read, .transaction 2 .reset]

/-- The second call holds the key after the first one has failed, alone. -/
theorem run_exclusive_retriedOnce :
    (Run.run (Reservations.step {}) noReservations retriedOnce).calls 2 =
        some ⟨subscribeRequest, .holding 7 0⟩ ∧
      Run.Always (Reservations.step {}) (Reservations.Exclusive {}) noReservations
        retriedOnce := by
  refine ⟨by decide +kernel, Reservations.run_exclusive noReservations_initial ?_ ?_ ?_ ?_⟩
  · intro step hstep
    simp only [retriedOnce, beginCall, List.cons_append, List.nil_append, List.mem_cons,
      List.not_mem_nil, or_false] at hstep
    rcases hstep with rfl | rfl | rfl | rfl | rfl | rfl | rfl <;> trivial
  · refine ⟨?_, ?_, ?_, ?_, ?_, ?_, ?_, trivial⟩
    all_goals
      rintro n request now hstep
      cases hstep <;> decide
  · refine ⟨?_, ?_, ?_, ?_, ?_, ?_, ?_, trivial⟩
    all_goals rintro n status result hstep
    case refine_3 =>
      cases hstep
      rintro scope recordId reservedAt ⟨request, hcall, -⟩
      cases hcall
      decide
    all_goals cases hstep
  · refine ⟨?_, ?_, ?_, ?_, ?_, ?_, ?_, trivial⟩
    all_goals rintro n hstep
    case refine_7 =>
      cases hstep
      intro request now existing hcall
      have hread : (Run.run (Reservations.step {}) noReservations (retriedOnce.take 6)).calls 2 =
          some ⟨subscribeRequest, .takingOver 0 ⟨7, 1, "billing.subscribe", "order-1", "f1",
            .failed, none, 86400000000, 0⟩⟩ := by decide +kernel
      cases hread.symm.trans hcall
      decide +kernel
    all_goals cases hstep

def retriedTwice : List (ReservationStep (List (String × String))) :=
  beginCall 1 7 0 ++ [.transaction 1 (.finalize .failed none)] ++ beginCall 2 8 0 ++ beginCall 3 9 0 ++
    [.transaction 2 .read, .transaction 3 .read, .transaction 2 .reset, .transaction 3 .reset]

/-- Every outcome is recorded in time, and still two calls hold the key at once. -/
theorem retriedTwice_not_exclusive :
    Run.Along (Reservations.step {}) (Reservations.FinalizesInTime {}) noReservations
        retriedTwice ∧
      ¬ Run.Always (Reservations.step {}) (Reservations.Exclusive {}) noReservations
        retriedTwice := by
  constructor
  · refine ⟨?_, ?_, ?_, ?_, ?_, ?_, ?_, ?_, ?_, ?_, ?_, trivial⟩
    all_goals rintro n status result hstep
    case refine_3 =>
      cases hstep
      rintro scope recordId reservedAt ⟨request, hcall, -⟩
      cases hcall
      decide
    all_goals cases hstep
  · intro halways
    have hsecond : (Run.run (Reservations.step {}) noReservations retriedTwice).calls 2 =
        some ⟨subscribeRequest, .holding 7 0⟩ := by decide +kernel
    have hthird : (Run.run (Reservations.step {}) noReservations retriedTwice).calls 3 =
        some ⟨subscribeRequest, .holding 7 0⟩ := by decide +kernel
    have htimedOut := halways retriedTwice [] (by simp) 2 3 subscribeRequest.scope 7 7 0 0
      (by decide) ⟨subscribeRequest, hsecond, rfl⟩ ⟨subscribeRequest, hthird, rfl⟩
    revert htimedOut
    decide

namespace Reservations

variable {R : Type} [EmptyCollection R] [DecidableEq R] {config : IdempotencyConfig}
  {state : Reservations R} {n : ℕ} {request : IdempotencyRequest}

/-! ## A recorded success is final -/

/-- A call that finalizes finds its record pending since it reserved it. -/
def FinalizesOwn (state : Reservations R) (step : ReservationStep R) : Prop :=
  ∀ n status result, step = .transaction n (.finalize status result) →
    ∀ scope recordId reservedAt, state.Holds n scope recordId reservedAt →
    ∀ row ∈ state.records.rows, row.id = recordId →
    row.status = .pending ∧ row.updatedAt = reservedAt

def Repeats (state : Reservations R) (n : ℕ) (row : IdempotencyRecord R) (phase : CallPhase R) :
    Prop :=
  ∃ request, state.calls n = some ⟨request, phase⟩ ∧ request.scope = row.scope ∧
    request.fingerprint = row.fingerprint

/-- A recorded success is final: while the record is not deleted it keeps its status and its result,
and every call that repeats its request from then on is answered with this result, the empty one if
none was recorded, as soon as its two transactions are through. -/
def SuccessFinal (config : IdempotencyConfig) (state : Reservations R)
    (steps : List (ReservationStep R)) : Prop :=
  ∀ before after, steps = before ++ after →
    ∀ row ∈ (Run.run (step config) state before).records.rows, row.status = .succeeded →
    Run.Always (step config) (fun s => ∃ kept ∈ s.records.rows, kept.id = row.id)
      (Run.run (step config) state before) after →
    row ∈ (Run.run (step config) state steps).records.rows ∧
      (∀ n phase, (Run.run (step config) state before).calls n = none →
        (Run.run (step config) state steps).Repeats n row phase →
        (∃ now, phase = .started now) ∨ (∃ now, phase = .refused now) ∨
          phase = .replayed row.id (row.result.getD ∅)) ∧
      ∀ n now recordId, (Run.run (step config) state steps).Repeats n row (.started now) →
        (Run.run (step config) (Run.run (step config) state steps)
          [.transaction n (.insert recordId), .transaction n .read]).Repeats n row
          (.replayed row.id (row.result.getD ∅))

def TakesOverRetryable (config : IdempotencyConfig) (state : Reservations R) : Prop :=
  ∀ n request now existing, state.calls n = some ⟨request, .takingOver now existing⟩ →
    existing.Retryable config now

lemma calls_step {step : ReservationStep R} {phase : CallPhase R}
    (h : (state.step config step).calls n = some ⟨request, phase⟩) :
    state.calls n = some ⟨request, phase⟩ ∨
    (state.calls n = none ∧ ∃ now, phase = .started now) ∨
    (∃ now recordId, state.calls n = some ⟨request, .started now⟩ ∧
      ((reserve config request recordId now state.clock state.records = none ∧
          phase = .refused now) ∨
        ((reserve config request recordId now state.clock state.records).isSome = true ∧
          phase = .holding recordId state.clock))) ∨
    (∃ now, state.calls n = some ⟨request, .refused now⟩ ∧
      phase = .afterRead now (judgeExisting config request now state.records)) ∨
    (∃ now existing, state.calls n = some ⟨request, .takingOver now existing⟩ ∧
      (phase = .raised .assertion ∨ phase = .holding existing.id state.clock)) ∨
    (∃ recordId reservedAt, state.calls n = some ⟨request, .holding recordId reservedAt⟩ ∧
      phase = .finalized recordId reservedAt) := by
  cases step with
  | tick | purgeExpired | purgeTenant => exact .inl h
  | start m request' now =>
    dsimp only [Reservations.step] at h
    split at h
    · next hnone =>
      rcases calls_setPhase h with hsame | ⟨rfl, rfl, rfl⟩
      · exact .inl hsame
      · exact .inr (.inl ⟨hnone, now, rfl⟩)
    · exact .inl h
  | transaction m transaction =>
    dsimp only [Reservations.step] at h
    split at h
    · exact .inl h
    · next call hcall =>
      obtain ⟨request', phase'⟩ := call
      cases transaction with
      | insert recordId =>
        cases phase' with
        | started now =>
          dsimp only [advance, insert] at h
          split at h
          · next hreserve =>
            rcases calls_setPhase h with hsame | ⟨rfl, rfl, rfl⟩
            · exact .inl hsame
            · exact .inr (.inr (.inl ⟨now, recordId, hcall, .inl ⟨hreserve, rfl⟩⟩))
          · next records hreserve =>
            rcases calls_setPhase h with hsame | ⟨rfl, rfl, rfl⟩
            · exact .inl hsame
            · exact .inr (.inr (.inl ⟨now, recordId, hcall, .inr ⟨by simp [hreserve], rfl⟩⟩))
        | _ => exact .inl h
      | read =>
        cases phase' with
        | refused now =>
          rcases calls_setPhase h with hsame | ⟨rfl, rfl, rfl⟩
          · exact .inl hsame
          · exact .inr (.inr (.inr (.inl ⟨now, hcall, rfl⟩)))
        | _ => exact .inl h
      | reset =>
        cases phase' with
        | takingOver now existing =>
          dsimp only [advance, reset] at h
          split at h
          · rcases calls_setPhase h with hsame | ⟨rfl, rfl, rfl⟩
            · exact .inl hsame
            · exact .inr (.inr (.inr (.inr (.inl ⟨now, existing, hcall, .inl rfl⟩))))
          · rcases calls_setPhase h with hsame | ⟨rfl, rfl, rfl⟩
            · exact .inl hsame
            · exact .inr (.inr (.inr (.inr (.inl ⟨now, existing, hcall, .inr rfl⟩))))
        | _ => exact .inl h
      | finalize status result =>
        cases phase' with
        | holding recordId reservedAt =>
          rcases calls_setPhase h with hsame | ⟨rfl, rfl, rfl⟩
          · exact .inl hsame
          · exact .inr (.inr (.inr (.inr (.inr ⟨recordId, reservedAt, hcall, rfl⟩))))
        | _ => exact .inl h

lemma TakesOverRetryable.step (h : state.TakesOverRetryable config) (step : ReservationStep R) :
    (state.step config step).TakesOverRetryable config := by
  intro n request now existing hcall
  rcases calls_step hcall with hsame | ⟨-, _, hphase⟩ | ⟨_, _, -, ⟨-, hphase⟩ | ⟨-, hphase⟩⟩ |
    ⟨now', -, hphase⟩ | ⟨_, _, -, hphase | hphase⟩ | ⟨_, _, -, hphase⟩
  · exact h n request now existing hsame
  · cases hphase
  · cases hphase
  · cases hphase
  · cases hjudge : judgeExisting config request now' state.records with
    | retryable existing' =>
      rw [hjudge] at hphase
      cases hphase
      exact (judgeExisting_eq_retryable hjudge).2.2
    | noResultFound | keyReused | replay | inProgress =>
      rw [hjudge] at hphase
      cases hphase
  · cases hphase
  · cases hphase
  · cases hphase

lemma mem_step_of_succeeded {step : ReservationStep R} {row : IdempotencyRecord R}
    (hrow : row ∈ state.records.rows) (hsucceeded : row.status = .succeeded)
    (hretryable : state.TakesOverRetryable config) (hread : state.ResetsAsRead step)
    (hown : state.FinalizesOwn step)
    (hkept : ∃ kept ∈ (state.step config step).records.rows, kept.id = row.id) :
    row ∈ (state.step config step).records.rows := by
  cases step with
  | tick => exact hrow
  | purgeExpired | purgeTenant => exact IdempotencyRecords.mem_delete_of_kept hrow hkept
  | start m request' =>
    dsimp only [Reservations.step]
    split
    · exact hrow
    · exact hrow
  | transaction m transaction =>
    dsimp only [Reservations.step]
    split
    · exact hrow
    · next call hcall =>
      obtain ⟨request', phase⟩ := call
      cases transaction with
      | insert recordId =>
        cases phase with
        | started now =>
          dsimp only [advance, insert]
          split
          · exact hrow
          · next records hreserve =>
            have hrows := (IdempotencyRecords.insert_eq_some hreserve).1
            simp only [setPhase, hrows]
            exact List.mem_append_left _ hrow
        | _ => exact hrow
      | read =>
        cases phase with
        | _ => exact hrow
      | reset =>
        cases phase with
        | takingOver now existing =>
          have hother : row.id ≠ existing.id := by
            intro hid
            obtain rfl := state.records.unique_id.eq_of_key_eq hrow
              (hread m rfl request' now existing hcall) hid
            rcases hretryable m request' now row hcall with hfailed | ⟨hpending, -⟩
            · simp [hsucceeded] at hfailed
            · simp [hsucceeded] at hpending
          dsimp only [advance, reset]
          split
          · exact hrow
          · next records hreset => exact mem_resetToPending_of_ne hreset hrow hother
        | _ => exact hrow
      | finalize status result =>
        cases phase with
        | holding recordId reservedAt =>
          have hother : row.id ≠ recordId := by
            intro hid
            have hpending := (hown m status result rfl _ _ _ ⟨request', hcall, rfl⟩ row hrow hid).1
            simp [hsucceeded] at hpending
          exact mem_finalize_of_ne hrow hother
        | _ => exact hrow

def Replaying (row : IdempotencyRecord R) (phase : CallPhase R) : Prop :=
  (∃ now, phase = .started now) ∨ (∃ now, phase = .refused now) ∨
    phase = .replayed row.id (row.result.getD ∅)

lemma replaying_step {step : ReservationStep R} {row : IdempotencyRecord R}
    (hrow : row ∈ state.records.rows) (hsucceeded : row.status = .succeeded)
    (h : ∀ phase, state.Repeats n row phase → Replaying row phase) :
    ∀ phase, (state.step config step).Repeats n row phase → Replaying row phase := by
  rintro phase ⟨request, hcall, hscope, hfingerprint⟩
  have hbefore : ∀ phase', state.calls n = some ⟨request, phase'⟩ → Replaying row phase' :=
    fun phase' hcall' => h phase' ⟨request, hcall', hscope, hfingerprint⟩
  rcases calls_step hcall with hsame | ⟨-, _, rfl⟩ | ⟨now, recordId, -, ⟨-, rfl⟩ | ⟨hsome, -⟩⟩ |
    ⟨now, -, rfl⟩ | ⟨now, existing, hcall', -⟩ | ⟨recordId, reservedAt, hcall', -⟩
  · exact hbefore phase hsame
  · exact .inl ⟨_, rfl⟩
  · exact .inr (.inl ⟨now, rfl⟩)
  · rw [reserve_eq_none hrow hscope] at hsome
    cases hsome
  · rw [judgeExisting_of_succeeded hrow hscope.symm hfingerprint.symm hsucceeded]
    exact .inr (.inr rfl)
  · rcases hbefore _ hcall' with ⟨_, hphase⟩ | ⟨_, hphase⟩ | hphase <;> cases hphase
  · rcases hbefore _ hcall' with ⟨_, hphase⟩ | ⟨_, hphase⟩ | hphase <;> cases hphase

lemma repeats_after_read {row : IdempotencyRecord R} (hrow : row ∈ state.records.rows)
    (hsucceeded : row.status = .succeeded) {now : Instant}
    (h : state.Repeats n row (.started now)) (recordId : Uuid) :
    (Run.run (step config) state [.transaction n (.insert recordId), .transaction n .read]).Repeats
      n row (.replayed row.id (row.result.getD ∅)) := by
  obtain ⟨request, hcall, hscope, hfingerprint⟩ := h
  refine ⟨request, ?_, hscope, hfingerprint⟩
  have hjudge : judgeExisting config request now state.records =
      .replay row.id (row.result.getD ∅) :=
    judgeExisting_of_succeeded hrow hscope.symm hfingerprint.symm hsucceeded
  simp [Run.run, step, hcall, advance, insert, reserve_eq_none hrow hscope, setPhase, hjudge,
    CallPhase.afterRead]

lemma final_of_along {row : IdempotencyRecord R} (hrow : row ∈ state.records.rows)
    (hsucceeded : row.status = .succeeded) {steps : List (ReservationStep R)}
    (hretryable : state.TakesOverRetryable config)
    (hread : Run.Along (step config) ResetsAsRead state steps)
    (hown : Run.Along (step config) FinalizesOwn state steps)
    (hkept : Run.Always (step config) (fun s => ∃ kept ∈ s.records.rows, kept.id = row.id) state
      steps) :
    row ∈ (Run.run (step config) state steps).records.rows ∧
      ∀ n, (∀ phase, state.Repeats n row phase → Replaying row phase) →
        ∀ phase, (Run.run (step config) state steps).Repeats n row phase →
        Replaying row phase := by
  induction steps generalizing state with
  | nil => exact ⟨hrow, fun n h => h⟩
  | cons step steps ih =>
    have hstep := mem_step_of_succeeded hrow hsucceeded hretryable hread.1 hown.1
      (hkept [step] steps rfl)
    obtain ⟨hend, hreplaying⟩ := ih hstep (hretryable.step step) hread.2 hown.2
      fun before after hsteps => hkept (step :: before) after (by rw [hsteps, List.cons_append])
    refine ⟨hend, fun n h => hreplaying n ?_⟩
    exact replaying_step hrow hsucceeded h

/-- **A recorded success is final** in every run, from an empty table on, in which every write that
makes a record pending again finds it as it was read, and every write of an outcome finds it as the
call's own reservation has left it. -/
theorem run_final (hinitial : state.Initial) {steps : List (ReservationStep R)}
    (hread : Run.Along (step config) ResetsAsRead state steps)
    (hown : Run.Along (step config) FinalizesOwn state steps) :
    state.SuccessFinal config steps := by
  intro before after hsteps row hrow hsucceeded hkept
  subst hsteps
  have hstart : state.TakesOverRetryable config := by
    intro n request now existing hcall
    rw [hinitial.calls n] at hcall
    cases hcall
  have hretryable : (Run.run (step config) state before).TakesOverRetryable config :=
    Run.run_of_along (fun state event h _ => h.step event) hstart
      (Run.along_of_forall (P := fun _ => True) fun _ _ => trivial)
  obtain ⟨-, hread'⟩ := Run.along_append.mp hread
  obtain ⟨-, hown'⟩ := Run.along_append.mp hown
  obtain ⟨hend, hreplaying⟩ :=
    final_of_along hrow hsucceeded hretryable hread' hown' hkept
  rw [Run.run_append]
  refine ⟨hend, fun n phase hnew => hreplaying n ?_ phase, fun n now recordId hstarted => ?_⟩
  · rintro phase ⟨request, hcall, -⟩
    rw [hnew] at hcall
    cases hcall
  · exact repeats_after_read hend hsucceeded hstarted recordId

end Reservations

def repeatedSuccess : List (ReservationStep (List (String × String))) :=
  beginCall 1 7 0 ++ [.transaction 1 (.finalize .succeeded (some [("subscription", "sub-1")]))] ++
    beginCall 2 8 0 ++ [.transaction 2 .read]

/-- The second call gets the result of the first one, which is final. -/
theorem run_final_repeated :
    (Run.run (Reservations.step {}) noReservations repeatedSuccess).calls 2 =
        some ⟨subscribeRequest, .replayed 7 [("subscription", "sub-1")]⟩ ∧
      noReservations.SuccessFinal {} repeatedSuccess := by
  refine ⟨by decide +kernel, Reservations.run_final noReservations_initial ?_ ?_⟩
  · refine ⟨?_, ?_, ?_, ?_, ?_, ?_, trivial⟩
    all_goals rintro n hstep
    all_goals cases hstep
  · refine ⟨?_, ?_, ?_, ?_, ?_, ?_, trivial⟩
    all_goals rintro n status result hstep
    case refine_3 =>
      cases hstep
      rintro scope recordId reservedAt ⟨request, hcall, -⟩
      cases hcall
      decide
    all_goals cases hstep

def supersededSuccess : List (ReservationStep (List (String × String))) :=
  beginCall 1 7 0 ++ [.tick 30000000] ++ beginCall 2 8 30000000 ++ [.transaction 2 .read,
    .transaction 2 .reset, .transaction 2 (.finalize .succeeded (some [("subscription", "sub-2")]))]

/-- The first call records its failure late, over the success of the second one. -/
theorem lateFailure_not_final :
    ¬ noReservations.SuccessFinal {} (supersededSuccess ++
      [.transaction 1 (.finalize .failed none)]) := by
  intro hfinal
  have hrow : (⟨7, 1, "billing.subscribe", "order-1", "f1", .succeeded,
      some [("subscription", "sub-2")], 86430000000, 30000000⟩ : IdempotencyRecord _) ∈
      (Run.run (Reservations.step {}) noReservations supersededSuccess).records.rows := by
    decide +kernel
  have hkept := (hfinal supersededSuccess [.transaction 1 (.finalize .failed none)] rfl _ hrow rfl
    ?_).1
  · revert hkept
    decide +kernel
  · intro before after hsteps
    rcases List.append_eq_singleton_iff.mp hsteps.symm with ⟨rfl, -⟩ | ⟨rfl, -⟩
    · exact ⟨_, hrow, rfl⟩
    · decide +kernel

end SaasOs
