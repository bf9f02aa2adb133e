import SaasOs.Foundation.Run
import SaasOs.Usage.Events

/-!
# Settling inference attempts

`run_inference` commits an attempt row in state `started`, calls the adapter, and settles the row in
a transaction of its own, which also appends the usage events.  The first step of every call, its
resolution, marks attempts as abandoned that were started long ago; they may belong to a process that
died, but also to a call that is still running.
-/

namespace SaasOs.Inference

open Rows

/-! ## Rows and settlements -/

/-- `AttemptState`. -/
inductive AttemptState
  | started
  | succeeded
  | failed
  | interrupted
  | abandoned
  deriving DecidableEq

/-- `usage_provenance`. -/
inductive Provenance
  | providerReported
  | estimated
  | unknown
  deriving DecidableEq

/-- The token counts of a settlement, a row or a report. -/
structure TokenCounts where
  inputTokens : Option ℤ
  outputTokens : Option ℤ
  cachedInputTokens : Option ℤ
  cacheWriteTokens : Option ℤ
  deriving DecidableEq

def TokenCounts.none : TokenCounts := ⟨Option.none, Option.none, Option.none, Option.none⟩

/-- `CostEstimate`. -/
structure CostEstimate where
  amount : PyDecimal
  currency : String
  pricingVersion : String
  deriving DecidableEq

/-- The column of the estimated cost, `Numeric(18, 8)`, holds the amount. -/
def CostEstimate.fits (cost : CostEstimate) : Bool :=
  |cost.amount.value| < 10 ^ 10

/-- The columns of `AIModelPrice` that an estimate reads. -/
structure AIModelPrice where
  inputPerMillion : PyDecimal
  outputPerMillion : PyDecimal
  cachedInputPerMillion : Option PyDecimal
  currency : String
  pricingVersion : String
  deriving DecidableEq

/-- The columns of `AIInferenceAttempt` that a settlement reads or writes. -/
structure AIInferenceAttempt where
  id : Uuid
  requestId : Uuid
  attemptNumber : ℕ
  state : AttemptState
  errorCategory : Option String
  possiblyAccepted : Bool
  outputDelivered : Bool
  startedAt : Instant
  finishedAt : Option Instant
  durationMs : Option ℤ
  tokens : TokenCounts
  usageProvenance : Provenance
  cost : Option CostEstimate
  providerRequestId : Option String

/-- `_Settlement`. -/
structure Settlement where
  state : AttemptState
  errorCategory : Option String
  possiblyAccepted : Bool
  outputDelivered : Bool
  tokens : TokenCounts
  provenance : Provenance
  providerRequestId : Option String
  modelRef : Option Uuid
  deriving DecidableEq

/-- `AdapterResult`. -/
structure AdapterResult where
  text : String
  usage : TokenCounts
  providerRequestId : Option String
  deriving DecidableEq

/-- `UsageReport`. -/
structure UsageReport where
  tokens : TokenCounts
  provenance : Provenance
  cost : Option CostEstimate
  deriving DecidableEq

def estimate (byteCount : ℕ) : ℤ :=
  max 1 ((byteCount + 3) / 4)

def usageSettlement (result : AdapterResult) (inputBytes : ℕ) (modelRef : Uuid) : Settlement where
  state := .succeeded
  errorCategory := none
  possiblyAccepted := false
  outputDelivered := true
  tokens :=
    if result.usage.inputTokens.isSome || result.usage.outputTokens.isSome then result.usage
    else ⟨some (estimate inputBytes), some (estimate result.text.utf8ByteSize), none, none⟩
  provenance :=
    if result.usage.inputTokens.isSome || result.usage.outputTokens.isSome then .providerReported
    else .estimated
  providerRequestId := result.providerRequestId
  modelRef := some modelRef

def failureSettlement (state : AttemptState) (errorCategory : String) (possiblyAccepted : Bool)
    (providerRequestId : Option String) : Settlement where
  state := state
  errorCategory := some errorCategory
  possiblyAccepted := possiblyAccepted
  outputDelivered := false
  tokens := .none
  provenance := .unknown
  providerRequestId := providerRequestId
  modelRef := none

/-- A usage event in the outbox, of one of the two metrics. -/
structure TokenEvent where
  metric : String
  quantity : PyDecimal
  deriving DecidableEq

def inputTokensMetric : String := "ai.input_tokens"

def outputTokensMetric : String := "ai.output_tokens"

/-- The usage events of counts with their provenance: one for each count that the provider reported. -/
def tokenEvents (provenance : Provenance) (tokens : TokenCounts) : List TokenEvent :=
  if provenance = .providerReported then
    (tokens.inputTokens.map fun n => ⟨inputTokensMetric, .ofInt n⟩).toList ++
      (tokens.outputTokens.map fun n => ⟨outputTokensMetric, .ofInt n⟩).toList
  else []

def AIInferenceAttempt.accounted (row : AIInferenceAttempt) : List TokenEvent :=
  if row.state = .succeeded then tokenEvents row.usageProvenance row.tokens else []

section Settle

variable (amountOf : AIModelPrice → ℤ → ℤ → ℤ → PyDecimal)

/-- `estimate_cost`; the decimal arithmetic of the amount is a parameter. -/
def estimateCost (price : Option AIModelPrice) (tokens : TokenCounts) : Option CostEstimate :=
  match price, tokens.inputTokens, tokens.outputTokens with
  | some price, some input, some output =>
    some ⟨amountOf price input output (tokens.cachedInputTokens.getD 0), price.currency,
      price.pricingVersion⟩
  | _, _, _ => none

def Settlement.cost (outcome : Settlement) (price : Option AIModelPrice) : Option CostEstimate :=
  if outcome.modelRef.isSome && outcome.provenance ≠ .unknown then
    estimateCost amountOf price outcome.tokens
  else none

def AIInferenceAttempt.settled (row : AIInferenceAttempt) (now : Instant) (outcome : Settlement)
    (price : Option AIModelPrice) : AIInferenceAttempt :=
  { row with
    state := outcome.state
    errorCategory := outcome.errorCategory
    possiblyAccepted := outcome.possiblyAccepted
    outputDelivered := outcome.outputDelivered
    finishedAt := some now
    durationMs := some ((now - row.startedAt).tdiv 1000)
    tokens := outcome.tokens
    usageProvenance := outcome.provenance
    cost := outcome.cost amountOf price
    providerRequestId := (outcome.providerRequestId.filter fun text => text ≠ "").map
      (PyString.take 255) }

/-- What `_settle` leaves: the cost that it returns, the attempts and the outbox. -/
structure Settled where
  cost : Option CostEstimate
  attempts : List AIInferenceAttempt
  outbox : List TokenEvent

/-- `_settle`; `none` if it raises.  `tenantOpen` is what `ingest_event` finds, `fails` is an error
of the database, and `price` is the price in effect. -/
def settle (now : Instant) (attempts : List AIInferenceAttempt) (outbox : List TokenEvent)
    (attemptId : Uuid) (outcome : Settlement) (price : Option AIModelPrice)
    (tenantOpen fails : Bool) : Option Settled :=
  if fails then none
  else
    match attempts.find? fun row => row.id = attemptId with
    | none => none
    | some row =>
      if row.state ≠ .started then some ⟨none, attempts, outbox⟩
      else
        let events := tokenEvents outcome.provenance outcome.tokens
        if events.all fun event =>
            tenantOpen && (validateQuantity (.decimal event.quantity)).isOk then
          some ⟨outcome.cost amountOf price, attempts.map fun other =>
            if other.id = attemptId then other.settled amountOf now outcome price else other,
            outbox ++ events⟩
        else none

end Settle

/-- The row that `_abandon_stale` leaves. -/
def AIInferenceAttempt.abandon (row : AIInferenceAttempt) (now : Instant) : AIInferenceAttempt :=
  { row with
    state := .abandoned
    finishedAt := some now
    errorCategory := some "abandoned"
    possiblyAccepted := true
    usageProvenance := .unknown }

def AIInferenceAttempt.isStale (row : AIInferenceAttempt) (olderThan : Instant) : Bool :=
  row.state = .started && row.startedAt < olderThan

def abandonStale (now : Instant) (attempts : List AIInferenceAttempt) (olderThan : Instant) :
    List AIInferenceAttempt :=
  attempts.map fun row => if row.isStale olderThan then row.abandon now else row

/-- `ABANDON_MARGIN_SECONDS`, in microseconds. -/
def abandonMargin : ℤ := 300 * 1000000

/-! ## The system -/

/-- What comes back from the adapter. -/
inductive AdapterOutcome
  | completed (result : AdapterResult)
  | failed (category : String) (possiblyAccepted : Bool) (providerRequestId : Option String)
      (retries : Bool)
  | cancelled
  | notConfigured
  | adapterFailure

/-- Where a call is: it is to be resolved, with the instant before which attempts are abandoned; it
may begin an attempt; its attempt is at the adapter; the adapter's answer or failure is to be
settled; it has returned its report, or raised. -/
inductive InferencePhase
  | resolving (abandonBefore : Instant)
  | ready (attempts : ℕ)
  | sent (attemptId modelRef : Uuid) (attempts : ℕ)
  | answered (attemptId modelRef : Uuid) (result : AdapterResult)
  | failing (attemptId : Uuid) (outcome : Settlement) (retries : Bool) (attempts : ℕ)
  | returned (attemptId : Uuid) (usage : UsageReport)
  | raised
  deriving DecidableEq

def InferencePhase.attempt? : InferencePhase → Option Uuid
  | resolving _ => none
  | ready _ => none
  | sent attemptId _ _ => some attemptId
  | answered attemptId _ _ => some attemptId
  | failing attemptId _ _ _ => some attemptId
  | returned _ _ => none
  | raised => none

/-- A call of `run_inference`. -/
structure InferenceCall where
  requestId : Uuid
  inputBytes : ℕ
  phase : InferencePhase
  deriving DecidableEq

/-- The clock, the attempts of the tenant, its token events in the outbox, and the calls. -/
structure InferenceState where
  clock : Instant
  attempts : List AIInferenceAttempt
  outbox : List TokenEvent
  calls : ℕ → Option InferenceCall

/-- What happens.  `granted` is what the checks of a transaction answer. -/
inductive InferenceEvent
  | tick (elapsed : ℕ)
  | start (n : ℕ) (requestId : Uuid) (inputBytes : ℕ)
  | resolve (n : ℕ) (granted : Bool)
  | refuse (n : ℕ)
  | begin (n : ℕ) (attemptId modelRef : Uuid) (granted : Bool)
  | answer (n : ℕ) (outcome : AdapterOutcome)
  | settle (n : ℕ) (price : Option AIModelPrice) (tenantOpen fails : Bool)
  | crash (n : ℕ)

namespace InferenceState

/-- The call at `n` enters a phase. -/
def setPhase (state : InferenceState) (n : ℕ) (call : InferenceCall) (phase : InferencePhase) :
    InferenceState :=
  { state with calls := Function.update state.calls n (some { call with phase := phase }) }

def afterAdapter (attemptId modelRef : Uuid) (attempts : ℕ) : AdapterOutcome → InferencePhase
  | .completed result => .answered attemptId modelRef result
  | .failed category possiblyAccepted providerRequestId retries =>
    .failing attemptId (failureSettlement .failed category possiblyAccepted providerRequestId)
      retries attempts
  | .cancelled => .failing attemptId (failureSettlement .interrupted "cancelled" true none) false
      attempts
  | .notConfigured => .failing attemptId (failureSettlement .failed "internal" false none) false
      attempts
  | .adapterFailure => .failing attemptId (failureSettlement .failed "internal" true none) false
      attempts

section Step

variable (amountOf : AIModelPrice → ℤ → ℤ → ℤ → PyDecimal) (deadline : ℕ)

def settleCall (state : InferenceState) (n : ℕ) (call : InferenceCall) (price : Option AIModelPrice)
    (tenantOpen fails : Bool) : InferenceState :=
  match call.phase with
  | .answered attemptId modelRef result =>
    let outcome := usageSettlement result call.inputBytes modelRef
    match settle amountOf state.clock state.attempts state.outbox attemptId outcome price tenantOpen
      fails with
    | some settled =>
      { state with attempts := settled.attempts, outbox := settled.outbox }.setPhase n call
        (.returned attemptId ⟨outcome.tokens, outcome.provenance, settled.cost⟩)
    | none => state.setPhase n call .raised
  | .failing attemptId outcome retries attempts =>
    match settle amountOf state.clock state.attempts state.outbox attemptId outcome price tenantOpen
      fails with
    | some settled =>
      { state with attempts := settled.attempts, outbox := settled.outbox }.setPhase n call
        (if retries then .ready attempts else .raised)
    | none => state.setPhase n call .raised
  | _ => state

/-- The state after an event; `deadline` is the configured total deadline in microseconds. -/
def step (state : InferenceState) : InferenceEvent → InferenceState
  | .tick elapsed => { state with clock := state.clock + elapsed }
  | .start n requestId inputBytes =>
    if state.calls n = none then
      state.setPhase n ⟨requestId, inputBytes, .raised⟩
        (.resolving (state.clock - (deadline + abandonMargin)))
    else state
  | .resolve n granted =>
    match state.calls n with
    | some ⟨requestId, inputBytes, .resolving abandonBefore⟩ =>
      if granted then
        { state with attempts := abandonStale state.clock state.attempts abandonBefore }.setPhase n
          ⟨requestId, inputBytes, .raised⟩ (.ready 0)
      else state.setPhase n ⟨requestId, inputBytes, .raised⟩ .raised
    | _ => state
  | .refuse n =>
    match state.calls n with
    | some ⟨requestId, inputBytes, .ready _⟩ =>
      state.setPhase n ⟨requestId, inputBytes, .raised⟩ .raised
    | _ => state
  | .begin n attemptId modelRef granted =>
    match state.calls n with
    | some ⟨requestId, inputBytes, .ready attempts⟩ =>
      if granted ∧ ∀ row ∈ state.attempts, row.id ≠ attemptId then
        { state with
          attempts := ⟨attemptId, requestId, attempts + 1, .started, none, false, false,
            state.clock, none, none, .none, .unknown, none, none⟩ :: state.attempts }.setPhase n
              ⟨requestId, inputBytes, .raised⟩ (.sent attemptId modelRef (attempts + 1))
      else state.setPhase n ⟨requestId, inputBytes, .raised⟩ .raised
    | _ => state
  | .answer n outcome =>
    match state.calls n with
    | some ⟨requestId, inputBytes, .sent attemptId modelRef attempts⟩ =>
      state.setPhase n ⟨requestId, inputBytes, .raised⟩
        (afterAdapter attemptId modelRef attempts outcome)
    | _ => state
  | .settle n price tenantOpen fails =>
    match state.calls n with
    | some call => state.settleCall amountOf n call price tenantOpen fails
    | none => state
  | .crash n => { state with calls := Function.update state.calls n none }

/-- The sweep of a resolution abandons no attempt that a call still holds. -/
def SweepsDead (state : InferenceState) : InferenceEvent → Prop
  | .resolve n granted => ∀ requestId inputBytes abandonBefore, granted = true →
      state.calls n = some ⟨requestId, inputBytes, .resolving abandonBefore⟩ →
        ∀ row ∈ state.attempts, row.isStale abandonBefore = true →
          ∀ m call, state.calls m = some call → call.phase.attempt? ≠ some row.id
  | _ => True

/-- A row that has left the state `started` is never written again. -/
def LeavesStartedOnce (state : InferenceState) (event : InferenceEvent) : Prop :=
  ∀ row ∈ state.attempts, row.state ≠ .started →
    row ∈ (step amountOf deadline state event).attempts

/-- The outbox has the usage events of the rows, one for each count that the provider of a succeeded
attempt reported, and no others. -/
structure Mirrored (state : InferenceState) : Prop where
  distinct : UniqueOn state.attempts AIInferenceAttempt.id
  events : state.outbox.Perm (state.attempts.flatMap AIInferenceAttempt.accounted)

/-- A call that returned has its usage in a succeeded row and in the outbox. -/
def ReturnedAsSettled (state : InferenceState) : Prop :=
  ∀ n call attemptId usage, state.calls n = some call → call.phase = .returned attemptId usage →
    (∃ row ∈ state.attempts, row.id = attemptId ∧ row.state = .succeeded ∧
      row.tokens = usage.tokens ∧ row.usageProvenance = usage.provenance ∧ row.cost = usage.cost) ∧
    ∀ event ∈ tokenEvents usage.provenance usage.tokens, event ∈ state.outbox

end Step

def initial (clock : Instant) : InferenceState := ⟨clock, [], [], fun _ => none⟩

/-! ## What a settlement does -/

variable {amountOf : AIModelPrice → ℤ → ℤ → ℤ → PyDecimal} {deadline : ℕ}
  {state : InferenceState} {attempts : List AIInferenceAttempt} {outbox : List TokenEvent}
  {row : AIInferenceAttempt} {now : Instant} {outcome : Settlement} {attemptId : Uuid}

def settledAttempts (amountOf : AIModelPrice → ℤ → ℤ → ℤ → PyDecimal) (now : Instant)
    (attempts : List AIInferenceAttempt) (attemptId : Uuid) (outcome : Settlement)
    (price : Option AIModelPrice) : List AIInferenceAttempt :=
  attempts.map fun other =>
    if other.id = attemptId then other.settled amountOf now outcome price else other

variable {price : Option AIModelPrice} {tenantOpen fails : Bool} {settled : Settled}

lemma settle_cases
    (h : settle amountOf now attempts outbox attemptId outcome price tenantOpen fails =
      some settled) :
    ∃ row ∈ attempts, row.id = attemptId ∧
      (row.state ≠ .started ∧ settled = ⟨none, attempts, outbox⟩ ∨
        row.state = .started ∧ settled = ⟨outcome.cost amountOf price,
          settledAttempts amountOf now attempts attemptId outcome price,
          outbox ++ tokenEvents outcome.provenance outcome.tokens⟩) := by
  unfold settle at h
  split at h
  · cases h
  split at h
  · cases h
  · next row hfind =>
    have hid : row.id = attemptId := by simpa using List.find?_some hfind
    refine ⟨row, List.mem_of_find?_eq_some hfind, hid, ?_⟩
    split at h
    · next hstate => exact .inl ⟨hstate, (Option.some.inj h).symm⟩
    · next hstate =>
      dsimp only at h
      split at h
      · exact .inr ⟨not_not.mp hstate, (Option.some.inj h).symm⟩
      · cases h

lemma accounted_settledAttempts (hdistinct : UniqueOn attempts AIInferenceAttempt.id)
    (hrow : row ∈ attempts) (hstarted : row.state = .started) (price : Option AIModelPrice) :
    ((settledAttempts amountOf now attempts row.id outcome price).flatMap
      AIInferenceAttempt.accounted).Perm (attempts.flatMap AIInferenceAttempt.accounted ++
        (row.settled amountOf now outcome price).accounted) := by
  obtain ⟨before, after, rfl⟩ := List.append_of_mem hrow
  have hnodup : (before.map AIInferenceAttempt.id ++
      row.id :: after.map AIInferenceAttempt.id).Nodup := by
    have hkeys := hdistinct
    unfold UniqueOn at hkeys
    rwa [List.map_append, List.map_cons] at hkeys
  have hsame : ∀ rows : List AIInferenceAttempt, (∀ other ∈ rows, other.id ≠ row.id) →
      settledAttempts amountOf now rows row.id outcome price = rows := by
    intro rows hne
    refine (List.map_congr_left fun other hother => ?_).trans (List.map_id rows)
    exact if_neg (hne other hother)
  have hbefore : ∀ other ∈ before, other.id ≠ row.id := fun other hother heq =>
    List.disjoint_of_nodup_append hnodup (List.mem_map_of_mem hother) (heq ▸ List.mem_cons_self)
  have hafter : ∀ other ∈ after, other.id ≠ row.id := fun other hother heq =>
    (List.nodup_cons.mp hnodup.of_append_right).1 (heq ▸ List.mem_map_of_mem hother)
  have hrows : settledAttempts amountOf now (before ++ row :: after) row.id outcome price =
      before ++ row.settled amountOf now outcome price :: after := by
    unfold settledAttempts at hsame ⊢
    rw [List.map_append, List.map_cons, hsame before hbefore, hsame after hafter, if_pos rfl]
  have hnone : row.accounted = [] := by
    unfold AIInferenceAttempt.accounted
    rw [hstarted]
    rfl
  rw [hrows]
  simp only [List.flatMap_append, List.flatMap_cons, hnone, List.nil_append, List.append_assoc]
  exact (List.perm_append_comm).append_left _

lemma accounted_settled (row : AIInferenceAttempt) (now : Instant) (price : Option AIModelPrice)
    (houtcome : outcome.state = .succeeded ∨ outcome.provenance = .unknown) :
    (row.settled amountOf now outcome price).accounted =
      tokenEvents outcome.provenance outcome.tokens := by
  unfold AIInferenceAttempt.accounted AIInferenceAttempt.settled
  rcases houtcome with hstate | hprovenance
  · rw [if_pos hstate]
  · simp [tokenEvents, hprovenance]

lemma accounted_abandonStale (now : Instant) (attempts : List AIInferenceAttempt)
    (olderThan : Instant) :
    (abandonStale now attempts olderThan).flatMap AIInferenceAttempt.accounted =
      attempts.flatMap AIInferenceAttempt.accounted := by
  unfold abandonStale
  rw [List.flatMap_map]
  refine List.flatMap_congr fun row _ => ?_
  split
  · next hstale =>
    have hstarted : row.state = .started := by
      simp only [AIInferenceAttempt.isStale, Bool.and_eq_true, decide_eq_true_eq] at hstale
      exact hstale.1
    simp [AIInferenceAttempt.accounted, AIInferenceAttempt.abandon, hstarted]
  · rfl

lemma mem_abandonStale_of_not_stale {olderThan : Instant} (hrow : row ∈ attempts)
    (hstale : row.isStale olderThan = false) : row ∈ abandonStale now attempts olderThan :=
  List.mem_map.mpr ⟨row, hrow, if_neg (Bool.eq_false_iff.mp hstale)⟩

lemma isStale_eq_false {olderThan : Instant} (h : row.state ≠ .started) :
    row.isStale olderThan = false := by
  simp [AIInferenceAttempt.isStale, h]

/-! ## The invariant -/

/-- What every state of every run satisfies: the outbox mirrors the rows, a failure has no usage, and
the attempts in progress are rows, each of one call. -/
structure Sound (state : InferenceState) : Prop where
  mirrored : state.Mirrored
  failing : ∀ n call attemptId outcome retries attempts, state.calls n = some call →
    call.phase = .failing attemptId outcome retries attempts → outcome.provenance = .unknown
  known : ∀ n call attemptId, state.calls n = some call → call.phase.attempt? = some attemptId →
    ∃ row ∈ state.attempts, row.id = attemptId
  alone : ∀ n m call other attemptId, state.calls n = some call → state.calls m = some other →
    call.phase.attempt? = some attemptId → other.phase.attempt? = some attemptId → n = m

/-- What the states of a run satisfy as long as no attempt in progress is abandoned. -/
structure Live (state : InferenceState) : Prop where
  started : ∀ n call row, state.calls n = some call → row ∈ state.attempts →
    call.phase.attempt? = some row.id → row.state = .started
  returned : ∀ n call attemptId usage, state.calls n = some call →
    call.phase = .returned attemptId usage →
      ∃ row ∈ state.attempts, row.id = attemptId ∧ row.state = .succeeded ∧
        row.tokens = usage.tokens ∧ row.usageProvenance = usage.provenance ∧ row.cost = usage.cost

lemma sound_initial (clock : Instant) : (initial clock).Sound where
  mirrored := ⟨List.nodup_nil, List.Perm.nil⟩
  failing _ _ _ _ _ _ h := by cases h
  known _ _ _ h := by cases h
  alone _ _ _ _ _ h := by cases h

lemma live_initial (clock : Instant) : (initial clock).Live where
  started _ _ _ h := by cases h
  returned _ _ _ _ h := by cases h

variable {phase : InferencePhase}

lemma calls_setPhase {n m : ℕ} {call other : InferenceCall}
    (h : (state.setPhase n call phase).calls m = some other) :
    m = n ∧ other = { call with phase := phase } ∨ m ≠ n ∧ state.calls m = some other := by
  unfold setPhase at h
  exact Run.update_some_cases h

lemma Sound.update (h : state.Sound) {n : ℕ} (call : InferenceCall)
    (hmirrored : Mirrored { state with attempts := attempts, outbox := outbox })
    (hids : ∀ row ∈ state.attempts, ∃ row' ∈ attempts, row'.id = row.id)
    (hfailing : ∀ attemptId outcome retries k, phase = .failing attemptId outcome retries k →
      outcome.provenance = .unknown)
    (hattempt : ∀ attemptId, phase.attempt? = some attemptId →
      (∃ old, state.calls n = some old ∧ old.phase.attempt? = some attemptId) ∨
      (∃ row ∈ attempts, row.id = attemptId) ∧ ∀ row ∈ state.attempts, row.id ≠ attemptId) :
    (setPhase { state with attempts := attempts, outbox := outbox } n call phase).Sound where
  mirrored := ⟨hmirrored.distinct, hmirrored.events⟩
  failing m other attemptId outcome retries k hm hphase := by
    rcases calls_setPhase hm with ⟨-, rfl⟩ | ⟨-, hm⟩
    · exact hfailing attemptId outcome retries k hphase
    · exact h.failing m other attemptId outcome retries k hm hphase
  known m other attemptId hm hphase := by
    have hold : (∃ row ∈ state.attempts, row.id = attemptId) →
        ∃ row ∈ attempts, row.id = attemptId := by
      rintro ⟨row, hrow, rfl⟩
      exact hids row hrow
    rcases calls_setPhase hm with ⟨-, rfl⟩ | ⟨-, hm⟩
    · rcases hattempt attemptId hphase with ⟨old, hcall, hsame⟩ | ⟨hnew, -⟩
      · exact hold (h.known n old attemptId hcall hsame)
      · exact hnew
    · exact hold (h.known m other attemptId hm hphase)
  alone m k other third attemptId hm hk hother hthird := by
    have hfresh : ∀ i call', state.calls i = some call' → call'.phase.attempt? = some attemptId →
        i ≠ n → phase.attempt? ≠ some attemptId := by
      intro i call' hi hcall' hne hphase
      rcases hattempt attemptId hphase with ⟨old, hcall, hsame⟩ | ⟨-, hnew⟩
      · exact hne (h.alone i n call' old attemptId hi hcall hcall' hsame)
      · obtain ⟨row, hrow, hid⟩ := h.known i call' attemptId hi hcall'
        exact hnew row hrow hid
    rcases calls_setPhase hm with ⟨rfl, rfl⟩ | ⟨hmn, hm'⟩
    · rcases calls_setPhase hk with ⟨rfl, -⟩ | ⟨hkn, hk'⟩
      · rfl
      · exact absurd hother (hfresh k third hk' hthird hkn)
    · rcases calls_setPhase hk with ⟨rfl, rfl⟩ | ⟨-, hk'⟩
      · exact absurd hthird (hfresh m other hm' hother hmn)
      · exact h.alone m k other third attemptId hm' hk' hother hthird

lemma Sound.setPhase (h : state.Sound) (n : ℕ) (call : InferenceCall) {phase : InferencePhase}
    (hphase : phase.attempt? = none) : (state.setPhase n call phase).Sound := by
  refine h.update call ⟨h.mirrored.distinct, h.mirrored.events⟩ (fun row hrow => ⟨row, hrow, rfl⟩)
    ?_ ?_
  · rintro attemptId outcome retries k rfl
    cases hphase
  · intro attemptId hattempt
    rw [hphase] at hattempt
    cases hattempt

lemma Live.update (h : state.Live) {n : ℕ} (call : InferenceCall)
    (hfrom : ∀ m other, m ≠ n → state.calls m = some other → ∀ row ∈ attempts,
      other.phase.attempt? = some row.id → row ∈ state.attempts)
    (hstarted : ∀ row ∈ attempts, phase.attempt? = some row.id → row.state = .started)
    (hkept : ∀ row ∈ state.attempts, row.state ≠ .started → row ∈ attempts)
    (hreturned : ∀ attemptId usage, phase = .returned attemptId usage →
      ∃ row ∈ attempts, row.id = attemptId ∧ row.state = .succeeded ∧
        row.tokens = usage.tokens ∧ row.usageProvenance = usage.provenance ∧
          row.cost = usage.cost) :
    (InferenceState.setPhase { state with attempts := attempts, outbox := outbox } n call
      phase).Live where
  started m other row hm hrow hother := by
    rcases calls_setPhase hm with ⟨-, rfl⟩ | ⟨hmn, hm⟩
    · exact hstarted row hrow hother
    · exact h.started m other row hm (hfrom m other hmn hm row hrow hother) hother
  returned m other attemptId usage hm hother := by
    rcases calls_setPhase hm with ⟨-, rfl⟩ | ⟨-, hm⟩
    · exact hreturned attemptId usage hother
    · obtain ⟨row, hrow, hid, hstate, hreport⟩ := h.returned m other attemptId usage hm hother
      refine ⟨row, hkept row hrow ?_, hid, hstate, hreport⟩
      rw [hstate]
      decide

lemma Live.setPhase (h : state.Live) (n : ℕ) (call : InferenceCall) {phase : InferencePhase}
    (hattempt : ∀ attemptId, phase.attempt? = some attemptId →
      ∃ old, state.calls n = some old ∧ old.phase.attempt? = some attemptId)
    (hreturned : ∀ attemptId usage, phase ≠ .returned attemptId usage) :
    (state.setPhase n call phase).Live := by
  refine h.update call (fun _ _ _ _ _ hrow _ => hrow) (fun row hrow hphase => ?_)
    (fun _ hrow _ => hrow) fun attemptId usage hphase => absurd hphase (hreturned attemptId usage)
  obtain ⟨old, hcall, hold⟩ := hattempt row.id hphase
  exact h.started n old row hcall hrow hold

/-! ## One event -/

lemma id_settledAttempts (price : Option AIModelPrice) (row : AIInferenceAttempt) :
    (if row.id = attemptId then row.settled amountOf now outcome price else row).id = row.id := by
  split <;> rfl

lemma id_abandonStale (olderThan : Instant) (row : AIInferenceAttempt) :
    (if row.isStale olderThan then row.abandon now else row).id = row.id := by
  split <;> rfl

lemma Mirrored.settle (h : state.Mirrored)
    (houtcome : outcome.state = .succeeded ∨ outcome.provenance = .unknown)
    (hsettled : Inference.settle amountOf state.clock state.attempts state.outbox attemptId outcome
      price tenantOpen fails = some settled) :
    Mirrored { state with attempts := settled.attempts, outbox := settled.outbox } := by
  obtain ⟨row, hrow, rfl, ⟨-, rfl⟩ | ⟨hstarted, rfl⟩⟩ := settle_cases hsettled
  · exact h
  · refine ⟨h.distinct.map_of_key (id_settledAttempts price), ?_⟩
    have hperm : (settledAttempts amountOf state.clock state.attempts row.id outcome
        price).flatMap AIInferenceAttempt.accounted |>.Perm
          (state.attempts.flatMap AIInferenceAttempt.accounted ++
            tokenEvents outcome.provenance outcome.tokens) := by
      rw [← accounted_settled row state.clock price houtcome]
      exact accounted_settledAttempts h.distinct hrow hstarted price
    exact (h.events.append_right _).trans hperm.symm

lemma exists_of_settle
    (hsettled : settle amountOf now attempts outbox attemptId outcome price tenantOpen fails =
      some settled) (hrow : row ∈ attempts) : ∃ row' ∈ settled.attempts, row'.id = row.id := by
  obtain ⟨-, -, -, ⟨-, rfl⟩ | ⟨-, rfl⟩⟩ := settle_cases hsettled
  · exact ⟨row, hrow, rfl⟩
  · exact ⟨_, List.mem_map_of_mem hrow, id_settledAttempts price row⟩

lemma mem_settle (hdistinct : UniqueOn attempts AIInferenceAttempt.id)
    (hsettled : settle amountOf now attempts outbox attemptId outcome price tenantOpen fails =
      some settled) (hrow : row ∈ attempts) (hother : row.state ≠ .started ∨ row.id ≠ attemptId) :
    row ∈ settled.attempts := by
  obtain ⟨old, hold, rfl, ⟨-, rfl⟩ | ⟨hstarted, rfl⟩⟩ := settle_cases hsettled
  · exact hrow
  · have hne : row.id ≠ old.id := by
      intro heq
      obtain rfl := hdistinct.eq_of_key_eq hrow hold heq
      rcases hother with hstate | hid
      · exact hstate hstarted
      · exact hid rfl
    exact List.mem_map.mpr ⟨row, hrow, if_neg hne⟩

lemma of_mem_settle
    (hsettled : settle amountOf now attempts outbox attemptId outcome price tenantOpen fails =
      some settled) (hrow : row ∈ settled.attempts) : row ∈ attempts ∨ row.id = attemptId := by
  obtain ⟨-, -, -, ⟨-, rfl⟩ | ⟨-, rfl⟩⟩ := settle_cases hsettled
  · exact .inl hrow
  · obtain ⟨old, hold, rfl⟩ := List.mem_map.mp hrow
    split
    · next hid => exact .inr hid
    · exact .inl hold

lemma provenance_afterAdapter {modelRef other : Uuid} {k k' : ℕ} {adapterOutcome : AdapterOutcome}
    {retries : Bool}
    (h : afterAdapter attemptId modelRef k adapterOutcome = .failing other outcome retries k') :
    outcome.provenance = .unknown := by
  cases adapterOutcome with
  | completed result => cases h
  | failed category possiblyAccepted providerRequestId retries' =>
    cases h
    rfl
  | cancelled =>
    cases h
    rfl
  | notConfigured =>
    cases h
    rfl
  | adapterFailure =>
    cases h
    rfl

lemma attempt?_afterAdapter (attemptId modelRef : Uuid) (k : ℕ) (adapterOutcome : AdapterOutcome) :
    (afterAdapter attemptId modelRef k adapterOutcome).attempt? = some attemptId := by
  cases adapterOutcome <;> rfl

lemma afterAdapter_ne_returned (attemptId modelRef : Uuid) (k : ℕ) (adapterOutcome : AdapterOutcome)
    (other : Uuid) (usage : UsageReport) :
    afterAdapter attemptId modelRef k adapterOutcome ≠ .returned other usage := by
  cases adapterOutcome <;> exact nofun

lemma Sound.settleCall (h : state.Sound) {n : ℕ} {call : InferenceCall}
    (hcall : state.calls n = some call) (price : Option AIModelPrice) (tenantOpen fails : Bool) :
    (state.settleCall amountOf n call price tenantOpen fails).Sound := by
  unfold InferenceState.settleCall
  split
  · dsimp only
    split
    · next settled hsettled =>
      exact h.update call (h.mirrored.settle (.inl rfl) hsettled)
        (fun row hrow => exists_of_settle hsettled hrow) (fun _ _ _ _ => nofun) fun _ => nofun
    · exact h.setPhase n call rfl
  · next attemptId outcome retries k hphase =>
    have hunknown := h.failing n call attemptId outcome retries k hcall hphase
    split
    · next settled hsettled =>
      refine h.update call (h.mirrored.settle (.inr hunknown) hsettled)
        (fun row hrow => exists_of_settle hsettled hrow) (fun _ _ _ _ => ?_) fun _ => ?_
      · split <;> exact nofun
      · split <;> exact nofun
    · exact h.setPhase n call rfl
  · exact h

lemma Live.settleCall (h : state.Live) (hsound : state.Sound) {n : ℕ} {call : InferenceCall}
    (hcall : state.calls n = some call) (price : Option AIModelPrice) (tenantOpen fails : Bool) :
    (state.settleCall amountOf n call price tenantOpen fails).Live := by
  have hdistinct := hsound.mirrored.distinct
  have hfrom : ∀ attemptId outcome settled, call.phase.attempt? = some attemptId →
      settle amountOf state.clock state.attempts state.outbox attemptId outcome price tenantOpen
        fails = some settled → ∀ m other, m ≠ n → state.calls m = some other →
          ∀ row ∈ settled.attempts, other.phase.attempt? = some row.id → row ∈ state.attempts := by
    intro attemptId outcome settled hattempt hsettled m other hmn hm row hrow hother
    rcases of_mem_settle hsettled hrow with hold | rfl
    · exact hold
    · exact absurd (hsound.alone m n other call row.id hm hcall hother hattempt) hmn
  unfold InferenceState.settleCall
  split
  · next attemptId modelRef result hphase =>
    have hattempt : call.phase.attempt? = some attemptId := by rw [hphase]; rfl
    dsimp only
    split
    · next settled hsettled =>
      refine h.update call (hfrom _ _ settled hattempt hsettled) (fun _ _ => nofun)
        (fun row hrow hstate => mem_settle hdistinct hsettled hrow (.inl hstate)) ?_
      rintro other usage ⟨⟩
      -- the attempt is still started, so the settlement writes its row
      obtain ⟨row, hrow, rfl, ⟨hstate, -⟩ | ⟨-, rfl⟩⟩ := settle_cases hsettled
      · exact absurd (h.started n call row hcall hrow hattempt) hstate
      · exact ⟨_, List.mem_map.mpr ⟨row, hrow, if_pos rfl⟩, rfl, rfl, rfl, rfl, rfl⟩
    · exact h.setPhase n call (fun _ => nofun) fun _ _ => nofun
  · next attemptId outcome retries k hphase =>
    have hattempt : call.phase.attempt? = some attemptId := by rw [hphase]; rfl
    split
    · next settled hsettled =>
      refine h.update call (hfrom _ _ settled hattempt hsettled) (fun row _ => ?_)
        (fun row hrow hstate => mem_settle hdistinct hsettled hrow (.inl hstate)) fun _ _ => ?_
      · split <;> exact nofun
      · split <;> exact nofun
    · exact h.setPhase n call (fun _ => nofun) fun _ _ => nofun
  · exact h

lemma Sound.step (h : state.Sound) (event : InferenceEvent) :
    (state.step amountOf deadline event).Sound := by
  cases event with
  | tick elapsed => exact ⟨⟨h.mirrored.distinct, h.mirrored.events⟩, h.failing, h.known, h.alone⟩
  | start n requestId inputBytes =>
    dsimp only [InferenceState.step]
    split
    · exact h.setPhase n _ rfl
    · exact h
  | resolve n granted =>
    dsimp only [InferenceState.step]
    split
    · next requestId inputBytes abandonBefore hcall =>
      split
      · refine h.update _ ⟨h.mirrored.distinct.map_of_key (id_abandonStale abandonBefore), ?_⟩
          (fun row hrow => ⟨_, List.mem_map_of_mem hrow, id_abandonStale abandonBefore row⟩)
          (fun _ _ _ _ => nofun) fun _ => nofun
        dsimp only
        rw [accounted_abandonStale]
        exact h.mirrored.events
      · exact h.setPhase n _ rfl
    · exact h
  | refuse n =>
    dsimp only [InferenceState.step]
    split
    · exact h.setPhase n _ rfl
    · exact h
  | begin n attemptId modelRef granted =>
    dsimp only [InferenceState.step]
    split
    · split
      · next hnew =>
        refine h.update _ ⟨List.nodup_cons.mpr ⟨fun hmem => ?_, h.mirrored.distinct⟩,
          h.mirrored.events⟩ (fun row hrow => ⟨row, List.mem_cons_of_mem _ hrow, rfl⟩)
          (fun _ _ _ _ => nofun) fun other hother => ?_
        · obtain ⟨row, hrow, hid⟩ := List.mem_map.mp hmem
          exact hnew.2 row hrow hid
        · cases hother
          exact .inr ⟨⟨_, List.mem_cons_self, rfl⟩, hnew.2⟩
      · exact h.setPhase n _ rfl
    · exact h
  | answer n outcome =>
    dsimp only [InferenceState.step]
    split
    · next requestId inputBytes attemptId modelRef k hcall =>
      refine h.update _ ⟨h.mirrored.distinct, h.mirrored.events⟩
        (fun row hrow => ⟨row, hrow, rfl⟩)
        (fun _ _ _ _ hphase => provenance_afterAdapter hphase) fun other hother => ?_
      rw [attempt?_afterAdapter] at hother
      exact .inl ⟨_, hcall, hother⟩
    · exact h
  | settle n price tenantOpen fails =>
    dsimp only [InferenceState.step]
    split
    · next call hcall => exact h.settleCall hcall price tenantOpen fails
    · exact h
  | crash n =>
    have hcalls : ∀ m call, Function.update state.calls n none m = some call →
        state.calls m = some call := fun m call hm => (Run.update_none_cases hm).2
    exact
      { mirrored := ⟨h.mirrored.distinct, h.mirrored.events⟩
        failing := fun m call attemptId outcome retries k hm =>
          h.failing m call attemptId outcome retries k (hcalls m call hm)
        known := fun m call attemptId hm => h.known m call attemptId (hcalls m call hm)
        alone := fun m k call other attemptId hm hk =>
          h.alone m k call other attemptId (hcalls m call hm) (hcalls k other hk) }

lemma Live.step (h : state.Live) (hsound : state.Sound) {event : InferenceEvent}
    (hdead : state.SweepsDead event) : (state.step amountOf deadline event).Live := by
  cases event with
  | tick elapsed => exact ⟨h.started, h.returned⟩
  | start n requestId inputBytes =>
    dsimp only [InferenceState.step]
    split
    · exact h.setPhase n _ (fun _ => nofun) fun _ _ => nofun
    · exact h
  | resolve n granted =>
    dsimp only [InferenceState.step]
    split
    · next requestId inputBytes abandonBefore hcall =>
      split
      · next hgranted =>
        refine h.update _ (fun m other _ hm row hrow hother => ?_) (fun _ _ => nofun)
          (fun row hrow hstate => mem_abandonStale_of_not_stale hrow (isStale_eq_false hstate))
          fun _ _ => nofun
        obtain ⟨old, hold, rfl⟩ := List.mem_map.mp hrow
        rw [id_abandonStale] at hother
        split
        · next hstale =>
          exact absurd hother
            (hdead requestId inputBytes abandonBefore hgranted hcall old hold hstale m other hm)
        · exact hold
      · exact h.setPhase n _ (fun _ => nofun) fun _ _ => nofun
    · exact h
  | refuse n =>
    dsimp only [InferenceState.step]
    split
    · exact h.setPhase n _ (fun _ => nofun) fun _ _ => nofun
    · exact h
  | begin n attemptId modelRef granted =>
    dsimp only [InferenceState.step]
    split
    · split
      · next hnew =>
        refine h.update _ (fun m other _ hm row hrow hother => ?_) (fun row hrow hattempt => ?_)
          (fun row hrow _ => List.mem_cons_of_mem _ hrow) fun _ _ => nofun
        · rcases List.mem_cons.mp hrow with rfl | hrow
          · obtain ⟨old, hold, hid⟩ := hsound.known m other attemptId hm hother
            exact absurd hid (hnew.2 old hold)
          · exact hrow
        · rcases List.mem_cons.mp hrow with rfl | hrow
          · rfl
          · exact absurd (Option.some.inj hattempt).symm (hnew.2 row hrow)
      · exact h.setPhase n _ (fun _ => nofun) fun _ _ => nofun
    · exact h
  | answer n outcome =>
    dsimp only [InferenceState.step]
    split
    · next requestId inputBytes attemptId modelRef k hcall =>
      refine h.setPhase n _ (fun other hother => ?_) fun _ _ => afterAdapter_ne_returned _ _ _ _ _ _
      rw [attempt?_afterAdapter] at hother
      exact ⟨_, hcall, hother⟩
    · exact h
  | settle n price tenantOpen fails =>
    dsimp only [InferenceState.step]
    split
    · next call hcall => exact h.settleCall hsound hcall price tenantOpen fails
    · exact h
  | crash n =>
    have hcalls : ∀ m call, Function.update state.calls n none m = some call →
        state.calls m = some call := fun m call hm => (Run.update_none_cases hm).2
    exact ⟨fun m call row hm => h.started m call row (hcalls m call hm),
      fun m call attemptId usage hm => h.returned m call attemptId usage (hcalls m call hm)⟩

lemma Sound.leavesStartedOnce (h : state.Sound) (event : InferenceEvent) :
    state.LeavesStartedOnce amountOf deadline event := by
  intro row hrow hstate
  cases event with
  | tick elapsed => exact hrow
  | start n requestId inputBytes =>
    dsimp only [InferenceState.step]
    split <;> exact hrow
  | resolve n granted =>
    dsimp only [InferenceState.step]
    split
    · split
      · exact mem_abandonStale_of_not_stale hrow (isStale_eq_false hstate)
      · exact hrow
    · exact hrow
  | refuse n =>
    dsimp only [InferenceState.step]
    split <;> exact hrow
  | begin n attemptId modelRef granted =>
    dsimp only [InferenceState.step]
    split
    · split
      · exact List.mem_cons_of_mem _ hrow
      · exact hrow
    · exact hrow
  | answer n outcome =>
    dsimp only [InferenceState.step]
    split <;> exact hrow
  | settle n price tenantOpen fails =>
    dsimp only [InferenceState.step]
    split
    · unfold InferenceState.settleCall
      split
      · dsimp only
        split
        · next hsettled => exact mem_settle h.mirrored.distinct hsettled hrow (.inl hstate)
        · exact hrow
      · split
        · next hsettled => exact mem_settle h.mirrored.distinct hsettled hrow (.inl hstate)
        · exact hrow
      · exact hrow
    · exact hrow
  | crash n => exact hrow

lemma Live.returnedAsSettled (h : state.Live) (hsound : state.Sound) : state.ReturnedAsSettled := by
  intro n call attemptId usage hcall hphase
  obtain ⟨row, hrow, hid, hstate, htokens, hprovenance, hcost⟩ :=
    h.returned n call attemptId usage hcall hphase
  refine ⟨⟨row, hrow, hid, hstate, htokens, hprovenance, hcost⟩, fun event hevent => ?_⟩
  refine hsound.mirrored.events.mem_iff.mpr (List.mem_flatMap.mpr ⟨row, hrow, ?_⟩)
  rw [AIInferenceAttempt.accounted, if_pos hstate, htokens, hprovenance]
  exact hevent

end InferenceState

open InferenceState

/-! ## Runs -/

/-- What the settlement promises about every run. -/
structure Settles (amountOf : AIModelPrice → ℤ → ℤ → ℤ → PyDecimal) (deadline : ℕ)
    (state : InferenceState) (events : List InferenceEvent) : Prop where
  once : Run.Along (step amountOf deadline) (LeavesStartedOnce amountOf deadline) state events
  mirrored : Run.Always (step amountOf deadline) Mirrored state events

/-- **An attempt is settled once and accounted for once** in every run, and every call returns what
its row says in every run in which no attempt in progress is abandoned. -/
theorem settled_as_returned (amountOf : AIModelPrice → ℤ → ℤ → ℤ → PyDecimal) (deadline : ℕ)
    (clock : Instant) (events : List InferenceEvent) :
    Settles amountOf deadline (initial clock) events ∧
      (Run.Along (step amountOf deadline) SweepsDead (initial clock) events →
        Run.Always (step amountOf deadline) ReturnedAsSettled (initial clock) events) := by
  have hkeeps : ∀ state event, Sound state → Sound (state.step amountOf deadline event) :=
    fun _ event h => h.step event
  refine ⟨⟨?_, fun before _ _ => ?_⟩, fun hdead => ?_⟩
  · exact Run.along_of_invariant hkeeps (fun _ event h => h.leavesStartedOnce event)
      (sound_initial clock) events
  · exact (Run.run_of_step hkeeps (sound_initial clock) before).mirrored
  · have halways := Run.always_of_along (I := fun state : InferenceState => state.Live ∧ state.Sound)
      (fun _ event h hevent => ⟨h.1.step h.2 hevent, h.2.step event⟩)
      ⟨live_initial clock, sound_initial clock⟩ hdead
    intro before after hsplit
    obtain ⟨hlive, hsound⟩ := halways before after hsplit
    exact hlive.returnedAsSettled hsound

def freeOfCharge : AIModelPrice → ℤ → ℤ → ℤ → PyDecimal := fun _ _ _ _ => .ofInt 0

def reportedAnswer : AdapterResult := ⟨"hello", ⟨some 12, some 3, none, none⟩, none⟩

/-- The answer to call 0 is delivered, and 400 seconds pass before its settlement; in between, the
resolution of call 1 abandons the attempt. -/
def lateSettlement : List InferenceEvent :=
  [.start 0 7 40, .resolve 0 true, .begin 0 1 5 true, .answer 0 (.completed reportedAnswer),
    .tick 400000000, .start 1 8 40, .resolve 1 true, .settle 0 none true false]

def reportedUsage : UsageReport := ⟨⟨some 12, some 3, none, none⟩, .providerReported, none⟩

/-- Call 0 returns the usage that its provider reported, and no event of it is in the outbox. -/
theorem unaccounted :
    ¬ Run.Always (step freeOfCharge 60000000) ReturnedAsSettled (initial 0) lateSettlement := by
  intro halways
  have hreturned := halways lateSettlement [] (List.append_nil _).symm
  have hcall : (Run.run (step freeOfCharge 60000000) (initial 0) lateSettlement).calls 0 =
      some ⟨7, 40, .returned 1 reportedUsage⟩ := by decide +kernel
  have hevent := (hreturned 0 _ 1 reportedUsage hcall rfl).2 ⟨inputTokensMetric, .ofInt 12⟩
    (by decide +kernel)
  have houtbox : (Run.run (step freeOfCharge 60000000) (initial 0) lateSettlement).outbox = [] := by
    decide +kernel
  rw [houtbox] at hevent
  cases hevent

def promptSettlement : List InferenceEvent :=
  [.start 0 7 40, .resolve 0 true, .begin 0 1 5 true, .answer 0 (.completed reportedAnswer),
    .tick 400000000, .settle 0 none true false, .start 1 8 40, .resolve 1 true]

/-- Its two counts are in the outbox. -/
theorem settled_as_returned_prompt :
    Run.Always (step freeOfCharge 60000000) ReturnedAsSettled (initial 0) promptSettlement ∧
      (Run.run (step freeOfCharge 60000000) (initial 0) promptSettlement).outbox =
        [⟨inputTokensMetric, .ofInt 12⟩, ⟨outputTokensMetric, .ofInt 3⟩] := by
  refine ⟨(settled_as_returned freeOfCharge 60000000 0 promptSettlement).2 ⟨trivial, ?_, trivial,
    trivial, trivial, trivial, trivial, ?_, trivial⟩, by decide +kernel⟩
  · intro _ _ _ _ _ row hrow
    cases hrow
  · -- the only attempt is settled by then
    intro _ _ abandonBefore _ _ row hrow hstale
    have hsettled : ∀ row ∈ (Run.run (step freeOfCharge 60000000) (initial 0)
        (promptSettlement.take 7)).attempts, row.state = .succeeded := by decide +kernel
    rw [AIInferenceAttempt.isStale, hsettled row hrow] at hstale
    cases hstale

end SaasOs.Inference
