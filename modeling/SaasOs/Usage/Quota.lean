import SaasOs.Usage.Events
import SaasOs.Idempotency.Atomic
import SaasOs.Foundation.LockTable

/-!
# Quotas

A call that consumes quota reads the clock for the current month, opens a transaction, takes the
advisory lock of its tenant and metric, sums up the usage of the month, and compares it with the
limit; it then reads the clock once more, for the event that it inserts, and commits.  With an
idempotency key all of this happens in the transaction that reserves the key.
-/

namespace SaasOs

open UniqueInsert

/-! ## Calls -/

structure QuotaCheckResult where
  metric : String
  used : PyDecimal
  limit : Option PyDecimal
  exceeded : Bool
  deriving DecidableEq

/-- A stored result, where the empty one is none. -/
instance : EmptyCollection (Option QuotaCheckResult) := ⟨none⟩

inductive QuotaPhase
  /-- The idempotency key is not reserved yet. -/
  | reserving
  /-- The transaction is open, and the lock is not obtained yet. -/
  | waiting
  | locked
  | summed (used : PyDecimal)
  /-- The quantity fits. -/
  | checked (used : PyDecimal)
  /-- The clock was read for the event. -/
  | stamped (used : PyDecimal) (occurredAt : Instant)
  | inserted (used : PyDecimal) (event : UsageEvent)
  /-- Another call holds the idempotency key. -/
  | resolving
  | returned (result : QuotaCheckResult)
  /-- What the call answers from the record of its key. -/
  | answered (answer : AtomicPhase (Option QuotaCheckResult) Empty)
  /-- `QuotaExceededError` was raised. -/
  | exceeded (used limit : PyDecimal)
  /-- Something else was raised, or the process is gone. -/
  | failed
  deriving DecidableEq

/-- A call, with what it has read before its transaction, and how far it has come. -/
structure QuotaCall where
  tenantId : Uuid
  metric : String
  quantity : PyDecimal
  window : Instant × Instant
  limit : Option PyDecimal
  /-- The request to reserve, if a key was given. -/
  request : Option IdempotencyRequest
  phase : QuotaPhase

/-- What the calls depend on: the entitlements of the tenants, which stay the same, the key of the
advisory lock, which is a pair of hashes, and the fingerprints. -/
structure QuotaConfig where
  entitlements : Uuid → String → Option Entitlement
  lockKey : Uuid → String → ℤ × ℤ
  fingerprint : String → PyDecimal → String

inductive QuotaAction
  | reserve
  | lock
  | sum
  | check
  | readClock
  | insert
  | commit
  | resolve
  | fail
  deriving DecidableEq

/-- A step: time passes, a call starts, with an idempotency key or without, or a call takes its next
action. -/
inductive QuotaStep
  | tick (microseconds : ℕ)
  | start (n : ℕ) (tenantId : Uuid) (metric : String) (quantity : QuantityArgument)
      (key : Option String)
  | act (n : ℕ) (action : QuotaAction)

/-- The clock, the committed events with the calls that recorded them, the advisory locks, the
records of the idempotency keys, and the calls. -/
structure QuotaState where
  clock : Instant
  recorded : List (ℕ × UsageEvent)
  locks : LockTable (ℤ × ℤ) ℕ
  reservations : Table ℕ (Execution UsageEvent (Option QuotaCheckResult))
  calls : ℕ → Option QuotaCall

namespace QuotaCall

/-- What a call does before its transaction, or the message of what it raises: the checks, the month
of the clock, and the limit. -/
def begin (config : QuotaConfig) (now : Instant) (tenantId : Uuid) (metric : String)
    (quantity : QuantityArgument) (key : Option String) : Except String QuotaCall := do
  validateMetric metric
  let quantity ← validateQuantity quantity
  match currentUtcMonthWindow now with
  | none => .error "year 10000 is out of range"
  | some window =>
    .ok {
      tenantId := tenantId
      metric := metric
      quantity := quantity
      window := window
      limit := numericLimit (config.entitlements tenantId metric)
      request := key.map fun key =>
        ⟨tenantId, "usage.consume_quota", key, config.fingerprint metric quantity⟩
      phase := if key.isSome then .reserving else .waiting }

def exceeds (call : QuotaCall) (used limit : PyDecimal) : Prop :=
  limit.value < (used.add call.quantity).value

instance (call : QuotaCall) (used limit : PyDecimal) : Decidable (call.exceeds used limit) :=
  inferInstanceAs (Decidable (_ < _))

def exceededLimit (call : QuotaCall) (used : PyDecimal) : Option PyDecimal :=
  call.limit.filter fun limit => decide (call.exceeds used limit)

def event (call : QuotaCall) (occurredAt : Instant) : UsageEvent :=
  ⟨call.tenantId, call.metric, call.quantity, occurredAt⟩

def result (call : QuotaCall) (used : PyDecimal) : QuotaCheckResult :=
  ⟨call.metric, used.add call.quantity, call.limit, false⟩

end QuotaCall

/-! ## Steps -/

namespace QuotaState

def events (state : QuotaState) : List UsageEvent :=
  state.recorded.map Prod.snd

def setCall (state : QuotaState) (n : ℕ) (call : QuotaCall) (phase : QuotaPhase) : QuotaState :=
  { state with calls := Function.update state.calls n (some { call with phase := phase }) }

/-- The transaction of the call is rolled back: its locks are given back, and its reservation is
gone. -/
def rollback (state : QuotaState) (n : ℕ) : QuotaState :=
  { state with
    locks := state.locks.release n
    reservations := state.reservations.rollback n }

def reserve (state : QuotaState) (n : ℕ) (call : QuotaCall) (request : IdempotencyRequest) :
    QuotaState :=
  match state.reservations.tryInsert Execution.scope n request.scope with
  | .waits => state
  | .violates => state.setCall n call .resolving
  | .inserted =>
    { state with
      reservations := state.reservations.insert n ⟨n, request, .pending, none, []⟩ }.setCall n call
        .waiting

def lock (config : QuotaConfig) (state : QuotaState) (n : ℕ) (call : QuotaCall) : QuotaState :=
  match state.locks.acquire n .exclusive [config.lockKey call.tenantId call.metric] with
  | none => state
  | some locks => { state with locks := locks }.setCall n call .locked

def check (state : QuotaState) (n : ℕ) (call : QuotaCall) (used : PyDecimal) : QuotaState :=
  match call.exceededLimit used with
  | some limit => (state.rollback n).setCall n call (.exceeded used limit)
  | none => state.setCall n call (.checked used)

def commit (state : QuotaState) (n : ℕ) (call : QuotaCall) (used : PyDecimal) (event : UsageEvent) :
    QuotaState :=
  { state with
    recorded := state.recorded ++ [(n, event)]
    locks := state.locks.release n
    reservations := (state.reservations.updateOwn n
      (Execution.succeed [event] (some (call.result used)))).commit n }.setCall n call
        (.returned (call.result used))

def advance (config : QuotaConfig) (state : QuotaState) (n : ℕ) (call : QuotaCall) :
    QuotaAction → QuotaPhase → Option IdempotencyRequest → QuotaState
  | .reserve, .reserving, some request => state.reserve n call request
  | .lock, .waiting, _ => state.lock config n call
  | .sum, .locked, _ =>
    state.setCall n call (.summed (usedIn state.events call.tenantId call.metric call.window))
  | .check, .summed used, _ => state.check n call used
  | .readClock, .checked used, _ => state.setCall n call (.stamped used state.clock)
  | .insert, .stamped used occurredAt, _ =>
    state.setCall n call (.inserted used (call.event occurredAt))
  | .commit, .inserted used event, _ => state.commit n call used event
  | .resolve, .resolving, some request =>
    state.setCall n call (.answered (resolveExisting request state.reservations.committed))
  | .fail, .returned _, _ | .fail, .answered _, _ | .fail, .exceeded _ _, _ => state
  | .fail, _, _ => (state.rollback n).setCall n call .failed
  | _, _, _ => state

def step (config : QuotaConfig) (state : QuotaState) : QuotaStep → QuotaState
  | .tick microseconds => { state with clock := state.clock + microseconds }
  | .start n tenantId metric quantity key =>
    match state.calls n with
    | some _ => state
    | none =>
      match QuotaCall.begin config state.clock tenantId metric quantity key with
      | .error _ => state
      | .ok call => { state with calls := Function.update state.calls n (some call) }
  | .act n action =>
    match state.calls n with
    | none => state
    | some call => state.advance config n call action call.phase call.request

/-- Nothing is recorded, and no call was made. -/
structure Initial (state : QuotaState) : Prop where
  clock : 0 ≤ state.clock
  recorded : state.recorded = []
  calls : ∀ n, state.calls n = none

/-- No month exceeds its limit, and who was refused has recorded nothing. -/
structure WithinLimits (config : QuotaConfig) (state : QuotaState) : Prop where
  month_le : ∀ tenantId metric limit,
    numericLimit (config.entitlements tenantId metric) = some limit →
    ∀ month, monthTotal state.events tenantId metric month ≤ limit.value
  exceeded : ∀ n call used limit, state.calls n = some call →
    call.phase = .exceeded used limit → ∀ entry ∈ state.recorded, entry.1 ≠ n

/-- The clock is read for the event inside the window that was summed. -/
def StampsInWindow (state : QuotaState) (step : QuotaStep) : Prop :=
  ∀ n, step = .act n .readClock → ∀ call used, state.calls n = some call →
    call.phase = .checked used → inWindow call.window state.clock

/-- A sum above the limit is still above it when it is rounded to the precision of the context. -/
def RoundsAboveLimit (state : QuotaState) (step : QuotaStep) : Prop :=
  ∀ n, step = .act n .sum → ∀ call, state.calls n = some call → call.phase = .locked →
    ∀ limit, call.limit = some limit →
    let used := usedIn state.events call.tenantId call.metric call.window
    limit.value < used.value + call.quantity.value → limit.value < (used.add call.quantity).value

end QuotaState

/-! ## The invariant -/

namespace QuotaCall

def HoldsLock (config : QuotaConfig) (state : QuotaState) (n : ℕ) (call : QuotaCall) : Prop :=
  state.locks.HoldsExclusively n (config.lockKey call.tenantId call.metric)

def Current (state : QuotaState) (call : QuotaCall) (used : PyDecimal) : Prop :=
  used = usedIn state.events call.tenantId call.metric call.window

def Fits (call : QuotaCall) (used : PyDecimal) : Prop :=
  ∀ limit, call.limit = some limit → used.value + call.quantity.value ≤ limit.value

def PhaseSound (config : QuotaConfig) (state : QuotaState) (n : ℕ) (call : QuotaCall) :
    QuotaPhase → Prop
  | .locked => call.HoldsLock config state n
  | .summed used => call.HoldsLock config state n ∧ call.Current state used ∧
      ∀ limit, call.limit = some limit → limit.value < used.value + call.quantity.value →
        call.exceeds used limit
  | .checked used => call.HoldsLock config state n ∧ call.Current state used ∧ call.Fits used
  | .stamped used occurredAt => call.HoldsLock config state n ∧ call.Current state used ∧
      call.Fits used ∧ 0 ≤ occurredAt ∧ inWindow call.window occurredAt
  | .inserted used event => call.HoldsLock config state n ∧ call.Current state used ∧
      call.Fits used ∧ ∃ occurredAt, 0 ≤ occurredAt ∧ inWindow call.window occurredAt ∧
        event = call.event occurredAt
  | _ => True

/-- A call consumes against the month and the limit that it has read. -/
structure Sound (config : QuotaConfig) (state : QuotaState) (n : ℕ) (call : QuotaCall) : Prop where
  window : ∃ now, currentUtcMonthWindow now = some call.window
  limit : call.limit = numericLimit (config.entitlements call.tenantId call.metric)
  phase : call.PhaseSound config state n call.phase

lemma PhaseSound.frame {config : QuotaConfig} {state state' : QuotaState} {n : ℕ} {call : QuotaCall}
    {phase : QuotaPhase} (h : call.PhaseSound config state n phase)
    (hholds : call.HoldsLock config state n → call.HoldsLock config state' n)
    (hused : call.HoldsLock config state n →
      usedIn state'.events call.tenantId call.metric call.window =
        usedIn state.events call.tenantId call.metric call.window) :
    call.PhaseSound config state' n phase := by
  have hcurrent : ∀ used, call.HoldsLock config state n → call.Current state used →
      call.Current state' used := by
    intro used hlock hcurrent
    rw [Current, hused hlock]
    exact hcurrent
  cases phase with
  | locked => exact hholds h
  | summed used => exact ⟨hholds h.1, hcurrent used h.1 h.2.1, h.2.2⟩
  | checked used => exact ⟨hholds h.1, hcurrent used h.1 h.2.1, h.2.2⟩
  | stamped used occurredAt => exact ⟨hholds h.1, hcurrent used h.1 h.2.1, h.2.2⟩
  | inserted used event => exact ⟨hholds h.1, hcurrent used h.1 h.2.1, h.2.2⟩
  | _ => trivial

lemma sound_of_begin {config : QuotaConfig} {now : Instant} {tenantId : Uuid} {metric : String}
    {quantity : QuantityArgument} {key : Option String} {call : QuotaCall}
    (h : begin config now tenantId metric quantity key = .ok call) (state : QuotaState) (n : ℕ) :
    call.Sound config state n := by
  unfold begin at h
  cases hmetric : validateMetric metric with
  | error message =>
    rw [hmetric] at h
    cases h
  | ok =>
    cases hquantity : validateQuantity quantity with
    | error message =>
      rw [hmetric, hquantity] at h
      cases h
    | ok quantity =>
      cases hwindow : currentUtcMonthWindow now with
      | none =>
        rw [hmetric, hquantity, hwindow] at h
        cases h
      | some window =>
        rw [hmetric, hquantity, hwindow] at h
        cases h
        refine ⟨⟨now, hwindow⟩, rfl, ?_⟩
        dsimp only
        split
        · trivial
        · trivial

end QuotaCall

namespace QuotaState

/-- The invariant: no month exceeds its limit, and every call knows what it needs to keep it so. -/
structure Sound (config : QuotaConfig) (state : QuotaState) : Prop where
  clock : 0 ≤ state.clock
  occurredAt : ∀ event ∈ state.events, 0 ≤ event.occurredAt
  month_le : ∀ tenantId metric limit,
    numericLimit (config.entitlements tenantId metric) = some limit →
    ∀ month, monthTotal state.events tenantId metric month ≤ limit.value
  recorded : ∀ entry ∈ state.recorded, ∃ call result, state.calls entry.1 = some call ∧
    call.phase = .returned result
  call : ∀ n call, state.calls n = some call → call.Sound config state n

variable {config : QuotaConfig} {state : QuotaState} {n : ℕ} {call : QuotaCall}

lemma Sound.setCall (hsound : state.Sound config) (hn : state.calls n = some call)
    (hphase : ∀ result, call.phase ≠ .returned result) {locks : LockTable (ℤ × ℤ) ℕ}
    {reservations : Table ℕ (Execution UsageEvent (Option QuotaCheckResult))} {phase : QuotaPhase}
    (hlocks : ∀ m, m ≠ n → ∀ resource, state.locks.HoldsExclusively m resource →
      locks.HoldsExclusively m resource)
    (hcall : call.PhaseSound config { state with locks := locks } n phase) :
    ({ state with locks := locks, reservations := reservations }.setCall n call phase).Sound
      config := by
  refine ⟨hsound.clock, hsound.occurredAt, hsound.month_le, fun entry hentry => ?_,
    fun m other hm => ?_⟩
  · obtain ⟨other, result, hother, hreturned⟩ := hsound.recorded entry hentry
    refine ⟨other, result, ?_, hreturned⟩
    have hne : entry.1 ≠ n := by
      intro heq
      rw [heq, hn] at hother
      cases hother
      exact hphase result hreturned
    simpa [QuotaState.setCall, Function.update_of_ne hne] using hother
  · obtain rfl | hne := eq_or_ne m n
    · simp only [QuotaState.setCall, Function.update_self, Option.some.injEq] at hm
      obtain ⟨hwindow, hlimit, -⟩ := hsound.call m call hn
      subst hm
      exact ⟨hwindow, hlimit, hcall.frame (fun h => h) fun _ => rfl⟩
    · simp only [QuotaState.setCall, Function.update_of_ne hne] at hm
      obtain ⟨hwindow, hlimit, hother⟩ := hsound.call m other hm
      exact ⟨hwindow, hlimit, hother.frame (hlocks m hne _) fun _ => rfl⟩

lemma Sound.setPhase (hsound : state.Sound config) (hn : state.calls n = some call)
    (hphase : ∀ result, call.phase ≠ .returned result) {phase : QuotaPhase}
    (hcall : call.PhaseSound config state n phase) : (state.setCall n call phase).Sound config :=
  hsound.setCall hn hphase (fun _ _ _ h => h) hcall

lemma Sound.rollback (hsound : state.Sound config) (hn : state.calls n = some call)
    (hphase : ∀ result, call.phase ≠ .returned result) {phase : QuotaPhase}
    (hcall : ∀ state', call.PhaseSound config state' n phase) :
    ((state.rollback n).setCall n call phase).Sound config :=
  hsound.setCall hn hphase (fun _ hne _ h => h.of_release hne) (hcall _)

lemma Sound.month_le_concat (hsound : state.Sound config) (hn : state.calls n = some call)
    {used : PyDecimal} (hcurrent : call.Current state used) (hfits : call.Fits used)
    {occurredAt : Instant} (hnonneg : 0 ≤ occurredAt) (hin : inWindow call.window occurredAt)
    {tenantId : Uuid} {metric : String} {limit : PyDecimal}
    (hlimit : numericLimit (config.entitlements tenantId metric) = some limit) (month : ℕ × ℕ) :
    monthTotal (state.events ++ [call.event occurredAt]) tenantId metric month ≤ limit.value := by
  rw [monthTotal_concat]
  split
  · next hcounts =>
    obtain ⟨hcounts, rfl⟩ := hcounts
    obtain ⟨rfl, rfl⟩ : call.tenantId = tenantId ∧ call.metric = metric :=
      of_decide_eq_true hcounts
    obtain ⟨⟨now, hwindow⟩, hcallLimit, -⟩ := hsound.call n call hn
    have hmonth : PyDatetime.utcMonth occurredAt = PyDatetime.utcMonth now :=
      (inWindow_currentUtcMonthWindow hwindow hnonneg).mp hin
    have htotal : used.value = monthTotal state.events call.tenantId call.metric
        (PyDatetime.utcMonth occurredAt) := by
      rw [hcurrent, value_usedIn hsound.occurredAt hwindow, hmonth]
    have hwithin := hfits limit (hcallLimit.trans hlimit)
    rw [htotal] at hwithin
    exact hwithin
  · rw [add_zero]
    exact hsound.month_le tenantId metric limit hlimit month

lemma Sound.usedIn_concat (hlock : call.HoldsLock config state n) {m : ℕ} (hne : m ≠ n)
    {other : QuotaCall} (hother : other.HoldsLock config state m) (occurredAt : Instant) :
    usedIn (state.events ++ [call.event occurredAt]) other.tenantId other.metric other.window =
      usedIn state.events other.tenantId other.metric other.window := by
  refine usedIn_concat_of_not_counts (decide_eq_false ?_) _
  rintro ⟨htenant, hmetric⟩
  refine LockTable.not_both_exclusive hne hother ?_
  rw [← htenant, ← hmetric]
  exact hlock

lemma Sound.commit (hsound : state.Sound config) (hn : state.calls n = some call) {used : PyDecimal}
    {event : UsageEvent} (hphase : call.phase = .inserted used event) :
    (state.commit n call used event).Sound config := by
  have hcall := (hsound.call n call hn).phase
  rw [hphase] at hcall
  obtain ⟨hlock, hcurrent, hfits, occurredAt, hnonneg, hin, rfl⟩ := hcall
  have hevents : (state.commit n call used (call.event occurredAt)).events =
      state.events ++ [call.event occurredAt] := by
    simp [QuotaState.commit, QuotaState.setCall, QuotaState.events]
  refine ⟨hsound.clock, ?_, ?_, ?_, fun m other hm => ?_⟩
  · rw [hevents]
    intro event hevent
    rcases List.mem_append.mp hevent with hold | hnew
    · exact hsound.occurredAt event hold
    · rw [List.mem_singleton.mp hnew]
      exact hnonneg
  · rw [hevents]
    intro tenantId metric limit hlimit month
    exact hsound.month_le_concat hn hcurrent hfits hnonneg hin hlimit month
  · intro entry hentry
    obtain heq | hne := eq_or_ne entry.1 n
    · exact ⟨_, _, by rw [heq]; exact Function.update_self .., rfl⟩
    · rcases List.mem_append.mp hentry with hold | hnew
      · obtain ⟨other, result, hother, hreturned⟩ := hsound.recorded entry hold
        exact ⟨other, result, (Function.update_of_ne hne ..).trans hother, hreturned⟩
      · rw [List.mem_singleton.mp hnew] at hne
        exact absurd rfl hne
  · obtain rfl | hne := eq_or_ne m n
    · obtain ⟨hwindow, hlimit, -⟩ := hsound.call m call hn
      simp only [QuotaState.commit, QuotaState.setCall, Function.update_self,
        Option.some.injEq] at hm
      subst hm
      exact ⟨hwindow, hlimit, trivial⟩
    · have hm' : state.calls m = some other := (Function.update_of_ne hne ..).symm.trans hm
      obtain ⟨hwindow, hlimit, hother⟩ := hsound.call m other hm'
      refine ⟨hwindow, hlimit, hother.frame (fun h => h.of_release hne) fun hholds => ?_⟩
      rw [hevents]
      exact Sound.usedIn_concat hlock hne hholds occurredAt

lemma Sound.check (hsound : state.Sound config) (hn : state.calls n = some call) {used : PyDecimal}
    (hphase : call.phase = .summed used) : (state.check n call used).Sound config := by
  have hcall := (hsound.call n call hn).phase
  rw [hphase] at hcall
  obtain ⟨hlock, hcurrent, hrounds⟩ := hcall
  have hreturned : ∀ result, call.phase ≠ .returned result := by simp [hphase]
  unfold QuotaState.check
  split
  · exact hsound.rollback hn hreturned fun _ => trivial
  · next hnone =>
    refine hsound.setPhase hn hreturned ⟨hlock, hcurrent, fun limit hlimit => ?_⟩
    have hfits : ¬ call.exceeds used limit := by
      simpa [QuotaCall.exceededLimit, hlimit] using hnone
    by_contra hover
    exact hfits (hrounds limit hlimit (not_le.mp hover))

lemma Sound.advance (hsound : state.Sound config) (hn : state.calls n = some call)
    {action : QuotaAction} (hstamps : state.StampsInWindow (.act n action))
    (hrounds : state.RoundsAboveLimit (.act n action)) :
    (state.advance config n call action call.phase call.request).Sound config := by
  have hcall := (hsound.call n call hn).phase
  unfold QuotaState.advance
  split
  · next request hphase hrequest =>
    have hreturned : ∀ result, call.phase ≠ .returned result := by simp [hphase]
    unfold QuotaState.reserve
    split
    · exact hsound
    · exact hsound.setPhase hn hreturned trivial
    · exact hsound.setCall hn hreturned (fun _ _ _ h => h) trivial
  · next hphase =>
    have hreturned : ∀ result, call.phase ≠ .returned result := by simp [hphase]
    unfold QuotaState.lock
    split
    · exact hsound
    · next locks hacquired =>
      refine hsound.setCall hn hreturned (fun _ _ _ h => h.of_acquire hacquired) ?_
      exact LockTable.holdsExclusively_of_acquire hacquired List.mem_cons_self
  · next hphase =>
    rw [hphase] at hcall
    refine hsound.setPhase hn (by simp [hphase]) ⟨hcall, rfl, ?_⟩
    exact hrounds n rfl call hn hphase
  · next used hphase => exact hsound.check hn hphase
  · next used hphase =>
    rw [hphase] at hcall
    obtain ⟨hlock, hcurrent, hfits⟩ := hcall
    refine hsound.setPhase hn (by simp [hphase]) ⟨hlock, hcurrent, hfits, hsound.clock, ?_⟩
    exact hstamps n rfl call used hn hphase
  · next used occurredAt hphase =>
    rw [hphase] at hcall
    obtain ⟨hlock, hcurrent, hfits, hnonneg, hin⟩ := hcall
    exact hsound.setPhase hn (by simp [hphase])
      ⟨hlock, hcurrent, hfits, occurredAt, hnonneg, hin, rfl⟩
  · next used event hphase => exact hsound.commit hn hphase
  · next request hphase hrequest => exact hsound.setPhase hn (by simp [hphase]) trivial
  · exact hsound
  · exact hsound
  · exact hsound
  · next hunreturned _ _ => exact hsound.rollback hn hunreturned fun _ => trivial
  · exact hsound

lemma Sound.step (hsound : state.Sound config) {step : QuotaStep}
    (hstamps : state.StampsInWindow step) (hrounds : state.RoundsAboveLimit step) :
    (state.step config step).Sound config := by
  cases step with
  | tick microseconds =>
    refine ⟨?_, hsound.occurredAt, hsound.month_le, hsound.recorded, fun n call hn => ?_⟩
    · exact Int.add_nonneg hsound.clock (Int.natCast_nonneg microseconds)
    · obtain ⟨hwindow, hlimit, hphase⟩ := hsound.call n call hn
      exact ⟨hwindow, hlimit, hphase.frame (fun h => h) fun _ => rfl⟩
  | start n tenantId metric quantity key =>
    dsimp only [QuotaState.step]
    split
    · exact hsound
    · next hn =>
      split
      · exact hsound
      · next call hbegin =>
        refine ⟨hsound.clock, hsound.occurredAt, hsound.month_le, fun entry hentry => ?_,
          fun m other hm => ?_⟩
        · obtain ⟨other, result, hother, hreturned⟩ := hsound.recorded entry hentry
          have hne : entry.1 ≠ n := by
            intro heq
            rw [heq, hn] at hother
            cases hother
          exact ⟨other, result, (Function.update_of_ne hne ..).trans hother, hreturned⟩
        · obtain rfl | hne := eq_or_ne m n
          · simp only [Function.update_self, Option.some.injEq] at hm
            subst hm
            exact QuotaCall.sound_of_begin hbegin _ m
          · simp only [Function.update_of_ne hne] at hm
            obtain ⟨hwindow, hlimit, hphase⟩ := hsound.call m other hm
            exact ⟨hwindow, hlimit, hphase.frame (fun h => h) fun _ => rfl⟩
  | act n action =>
    dsimp only [QuotaState.step]
    split
    · exact hsound
    · next call hn => exact hsound.advance hn hstamps hrounds

lemma Initial.sound (h : state.Initial) (hlimits : ∀ tenantId metric limit,
    numericLimit (config.entitlements tenantId metric) = some limit → 0 ≤ limit.value) :
    state.Sound config := by
  have hevents : state.events = [] := by rw [events, h.recorded, List.map_nil]
  refine ⟨h.clock, ?_, ?_, ?_, fun n call hn => ?_⟩
  · rw [hevents]
    exact fun _ hevent => absurd hevent List.not_mem_nil
  · rw [hevents]
    exact fun tenantId metric limit hlimit month => hlimits tenantId metric limit hlimit
  · rw [h.recorded]
    exact fun _ hentry => absurd hentry List.not_mem_nil
  · rw [h.calls] at hn
    cases hn

lemma Sound.withinLimits (hsound : state.Sound config) : state.WithinLimits config := by
  refine ⟨hsound.month_le, ?_⟩
  rintro n call used limit hn hphase entry hentry rfl
  obtain ⟨other, result, hother, hreturned⟩ := hsound.recorded entry hentry
  rw [hn] at hother
  cases hother
  rw [hphase] at hreturned
  cases hreturned

/-- **No quota is exceeded.**  In every run, from no usage on, in which events are stamped in the
month that their calls have read and no sum above a limit is rounded down to it, the usage of every
calendar month is within the limit, and calls that were refused have recorded nothing. -/
theorem run_withinLimits (hinitial : state.Initial) (hlimits : ∀ tenantId metric limit,
      numericLimit (config.entitlements tenantId metric) = some limit → 0 ≤ limit.value)
    {steps : List QuotaStep} (hstamps : Run.Along (step config) StampsInWindow state steps)
    (hrounds : Run.Along (step config) RoundsAboveLimit state steps) :
    Run.Always (step config) (WithinLimits config) state steps := by
  have hsound := Run.always_of_along (I := Sound config)
    (fun state step hsound h => hsound.step h.1 h.2) (hinitial.sound hlimits)
    (hstamps.and hrounds)
  exact fun before after hsteps => (hsound before after hsteps).withinLimits

lemma roundsAboveLimit_of_digits_le {step : QuotaStep}
    (h : ∀ n, step = .act n .sum → (state.calls n).all (fun call =>
      PyDecimal.digits ((usedIn state.events call.tenantId call.metric call.window).addExact
        call.quantity).coefficient.natAbs ≤ PyDecimal.prec) = true) :
    state.RoundsAboveLimit step := by
  intro n hstep call hn _ limit _ used habove
  have hdigits := h n hstep
  rw [hn] at hdigits
  rw [PyDecimal.value_add (of_decide_eq_true hdigits)]
  exact habove

end QuotaState

def smallPlan : QuotaConfig where
  entitlements := fun _ metric =>
    if metric = "api_calls" then some (.number (.ofInt 10))
    else if metric = "storage_bytes" then some (.number (.ofInt (10 ^ 17)))
    else none
  lockKey := fun tenantId metric => (tenantId, metric.length)
  fingerprint := fun metric _ => metric

def unused (clock : Instant) : QuotaState :=
  ⟨clock, [], .empty, .empty, fun _ => none⟩

def lockAndCheck (n : ℕ) : List QuotaStep :=
  [.act n .lock, .act n .sum, .act n .check]

def recordEvent (n : ℕ) : List QuotaStep :=
  [.act n .readClock, .act n .insert, .act n .commit]

lemma smallPlan_nonneg (tenantId : Uuid) (metric : String) (limit : PyDecimal)
    (h : numericLimit (smallPlan.entitlements tenantId metric) = some limit) : 0 ≤ limit.value := by
  unfold smallPlan at h
  dsimp only at h
  split at h
  · cases h
    simp
  · split at h
    · cases h
      simp
    · cases h

def twoCalls : List QuotaStep :=
  [.start 1 1 "api_calls" (.int 7) none, .start 2 1 "api_calls" (.int 5) (some "order-1")] ++
    [.act 1 .lock, .act 2 .reserve, .act 2 .lock, .act 1 .sum, .act 1 .check] ++ recordEvent 1 ++
    lockAndCheck 2

def february : QuotaState := unused (PyDatetime.monthStart (2024, 2))

lemma twoCalls_stampsInWindow :
    Run.Along (QuotaState.step smallPlan) QuotaState.StampsInWindow february twoCalls := by
  refine ⟨?_, ?_, ?_, ?_, ?_, ?_, ?_, ?_, ?_, ?_, ?_, ?_, ?_, trivial⟩
  all_goals rintro n hstep
  case refine_8 =>
    cases hstep
    rintro call used hcall -
    let state := Run.run (QuotaState.step smallPlan) february (twoCalls.take 7)
    have hwindow : (state.calls 1).all (fun call => inWindow call.window state.clock) = true := by
      decide +kernel
    rw [show state.calls 1 = some call from hcall] at hwindow
    exact of_decide_eq_true hwindow
  all_goals cases hstep

lemma twoCalls_roundsAboveLimit :
    Run.Along (QuotaState.step smallPlan) QuotaState.RoundsAboveLimit february twoCalls := by
  refine ⟨?_, ?_, ?_, ?_, ?_, ?_, ?_, ?_, ?_, ?_, ?_, ?_, ?_, trivial⟩
  all_goals refine QuotaState.roundsAboveLimit_of_digits_le fun n hstep => ?_
  case refine_6 =>
    cases hstep
    decide +kernel
  case refine_12 =>
    cases hstep
    decide +kernel
  all_goals cases hstep

/-- The second call is refused. -/
theorem run_withinLimits_twoCalls :
    ((Run.run (QuotaState.step smallPlan) february twoCalls).calls 2).map QuotaCall.phase =
        some (.exceeded ⟨7, 0⟩ ⟨10, 0⟩) ∧
      Run.Always (QuotaState.step smallPlan) (QuotaState.WithinLimits smallPlan) february
        twoCalls :=
  ⟨by decide +kernel, QuotaState.run_withinLimits ⟨by decide +kernel, rfl, fun _ => rfl⟩
    smallPlan_nonneg twoCalls_stampsInWindow twoCalls_roundsAboveLimit⟩

/-- A call reads the clock in the last microsecond of January, and another one uses up February
before it obtains the lock. -/
def straddlingCalls : List QuotaStep :=
  [.start 1 1 "api_calls" (.int 10) none, .tick 1, .start 2 1 "api_calls" (.int 10) none] ++
    lockAndCheck 2 ++ recordEvent 2 ++ lockAndCheck 1 ++ recordEvent 1

def january : QuotaState := unused (PyDatetime.monthStart (2024, 2) - 1)

def roundedCalls : List QuotaStep :=
  [.start 1 1 "storage_bytes" (.decimal ⟨1, -18⟩) none] ++ lockAndCheck 1 ++ recordEvent 1 ++
    [.start 2 1 "storage_bytes" (.int (10 ^ 17)) none] ++ lockAndCheck 2 ++ recordEvent 2

/-- Twice the limit is recorded in February, and once a little more than the limit. -/
theorem quota_exceeded_twice :
    ¬ Run.Always (QuotaState.step smallPlan) (QuotaState.WithinLimits smallPlan) january
        straddlingCalls ∧
      ¬ Run.Always (QuotaState.step smallPlan) (QuotaState.WithinLimits smallPlan) february
        roundedCalls := by
  constructor
  · intro halways
    have hwithin := (halways straddlingCalls [] (List.append_nil _).symm).month_le 1 "api_calls"
      (.ofInt 10) rfl (2024, 2)
    have hevents : (Run.run (QuotaState.step smallPlan) january straddlingCalls).events =
        [⟨1, "api_calls", ⟨10, 0⟩, PyDatetime.monthStart (2024, 2)⟩,
          ⟨1, "api_calls", ⟨10, 0⟩, PyDatetime.monthStart (2024, 2)⟩] := by decide +kernel
    rw [hevents] at hwithin
    revert hwithin
    decide +kernel
  · intro halways
    have hwithin := (halways roundedCalls [] (List.append_nil _).symm).month_le 1 "storage_bytes"
      (.ofInt (10 ^ 17)) rfl (2024, 2)
    have hevents : (Run.run (QuotaState.step smallPlan) february roundedCalls).events =
        [⟨1, "storage_bytes", ⟨1, -18⟩, PyDatetime.monthStart (2024, 2)⟩,
          ⟨1, "storage_bytes", ⟨10 ^ 17, 0⟩, PyDatetime.monthStart (2024, 2)⟩] := by
      decide +kernel
    rw [hevents] at hwithin
    revert hwithin
    decide +kernel

end SaasOs
