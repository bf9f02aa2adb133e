import SaasOs.Billing.Reconciliation
import SaasOs.Idempotency.Records

/-!
# Creating a commercial subscription

`create_subscription` reserves an idempotency key, asks the provider to create the subscription,
registers the reference that the provider answers, inserts the local row, asks the provider to
confirm it and resolves the reservation.  Every step is a transaction or a provider call of its own,
and a call can fail or crash at any of them; a reservation that was abandoned is taken over, while
its first holder may still be running.
-/

namespace SaasOs.Billing

open Rows

/-! ## Records, rows and the provider -/

structure CreationRequest where
  operation : String
  idempotencyKey : String
  planId : Uuid
  payerTenantId : Uuid
  billingAccountId : Uuid
  deriving DecidableEq

def CreationRequest.scope (request : CreationRequest) : String × String :=
  (request.operation, request.idempotencyKey)

/-- A reservation; the plan, the payer and the account are its fingerprint. -/
structure CreationRecord where
  id : Uuid
  request : CreationRequest
  status : IdempotencyStatus

/-- The columns of a commercial subscription that the creation reads and writes. -/
structure CommercialRow where
  id : Uuid
  merchantAccountId : Uuid
  request : CreationRequest
  status : SubscriptionStatus
  providerSubscriptionId : String
  deriving DecidableEq

/-- `LIVE_STATUSES`. -/
def SubscriptionStatus.isLive : SubscriptionStatus → Bool
  | pending => true
  | active => true
  | pastDue => true
  | canceled => false

def CommercialRow.answered (row : CommercialRow) (id : Uuid) (answer : ProviderSubscriptionState) :
    CommercialRow :=
  match targetStatusFor answer with
  | some target =>
    if row.id = id ∧ isTransitionAllowed row.status target = true then { row with status := target }
    else row
  | none => row

variable (row : CommercialRow)

lemma CommercialRow.answered_cases (id : Uuid) (answer : ProviderSubscriptionState) :
    row.answered id answer = row ∨ row.id = id ∧ ∃ target, targetStatusFor answer = some target ∧
      isTransitionAllowed row.status target = true ∧
      row.answered id answer = { row with status := target } := by
  unfold answered
  split
  · next target htarget =>
    split
    · next hmoves => exact .inr ⟨hmoves.1, target, htarget, hmoves.2, rfl⟩
    · exact .inl rfl
  · exact .inl rfl

lemma CommercialRow.answered_fields (id : Uuid) (answer : ProviderSubscriptionState) :
    (row.answered id answer).id = row.id ∧
      (row.answered id answer).merchantAccountId = row.merchantAccountId ∧
      (row.answered id answer).providerSubscriptionId = row.providerSubscriptionId := by
  rcases row.answered_cases id answer with hsame | ⟨-, target, -, -, hmoved⟩
  · rw [hsame]
    exact ⟨rfl, rfl, rfl⟩
  · rw [hmoved]
    exact ⟨rfl, rfl, rfl⟩

variable {answer : ProviderSubscriptionState}

lemma CommercialRow.isLive_of_answered {row : CommercialRow} {id : Uuid}
    (h : (row.answered id answer).status.isLive = true) :
    row.status.isLive = true := by
  rcases row.answered_cases id answer with hsame | ⟨-, target, -, hallowed, hmoved⟩
  · rwa [hsame] at h
  · rw [hmoved] at h
    cases hstatus : row.status with
    | pending => rfl
    | active => rfl
    | pastDue => rfl
    | canceled =>
      rw [hstatus] at hallowed
      obtain rfl := eq_canceled_of_isTransitionAllowed hallowed
      exact h

lemma eq_active_of_targetStatusFor (h : targetStatusFor answer = some .active) :
    answer = .active := by
  cases answer <;> first | rfl | cases h

/-- The parts of the text `saas-os:{operation}:{operation_id}`. -/
structure ProviderKey where
  operation : String
  operationId : Uuid
  deriving DecidableEq

/-! ## The system -/

/-- Where a call is: the reservation is to be taken over, the row is to be looked for, then the
reference; the provider is to be asked, its answer is to be registered, the row to be inserted, or
read again after a unique violation; the provider is to be asked for confirmation, and its answer
applied; the reservation is to be resolved. -/
inductive CreationPhase
  | resetting (operationId : Uuid)
  | reserved (operationId : Uuid)
  | searching (operationId : Uuid)
  | creating (operationId : Uuid)
  | created (operationId : Uuid) (ref : String) (isStored : Bool)
  | registered (operationId : Uuid) (ref : String)
  | violating (operationId : Uuid) (ref : String)
  | confirming (operationId : Uuid) (ref : String)
  | answered (operationId : Uuid) (ref : String) (answer : ProviderSubscriptionState)
  | finalizing (operationId : Uuid) (status : IdempotencyStatus)
  | returned
  | raised

structure CreationCall where
  request : CreationRequest
  phase : CreationPhase

/-- The reservations, the rows, the reference index, what the provider created for which key and in
which state it is, the calls, the requests that were made to the provider, and the subscriptions
that it reported to be active. -/
structure CreationState where
  records : List CreationRecord
  rows : List CommercialRow
  refs : List (String × Uuid)
  created : List (ProviderKey × String)
  provider : String → ProviderSubscriptionState
  calls : ℕ → Option CreationCall
  requests : List (CreationRequest × ProviderKey)
  reported : List String

/-- What happens.  `expired` tells whether a pending reservation is old enough, `liveExists` is the
answer of the advisory check, `ref` is the name of a new subscription at the provider and `isLost`
whether its answer is lost, `granted` is what the checks of a transaction answer. -/
inductive CreationEvent
  | begin (n : ℕ) (request : CreationRequest) (newId : Uuid) (expired : Bool)
  | reset (n : ℕ)
  | findRow (n : ℕ)
  | findRef (n : ℕ) (liveExists : Bool)
  | create (n : ℕ) (ref : String) (isLost : Bool)
  | register (n : ℕ)
  | insert (n : ℕ) (granted : Bool)
  | reread (n : ℕ)
  | confirm (n : ℕ) (answers : Bool)
  | apply (n : ℕ) (granted : Bool)
  | finalize (n : ℕ)
  | fail (n : ℕ)
  | crash (n : ℕ)
  | change (ref : String) (answer : ProviderSubscriptionState)

namespace CreationState

/-- The call at `n` enters a phase. -/
def setPhase (state : CreationState) (n : ℕ) (call : CreationCall) (phase : CreationPhase) :
    CreationState :=
  { state with calls := Function.update state.calls n (some { call with phase := phase }) }

def setStatus (state : CreationState) (operationId : Uuid) (status : IdempotencyStatus) :
    CreationState :=
  { state with records := state.records.map fun record =>
      if record.id = operationId then { record with status := status } else record }

/-- `begin_idempotent_operation`, but for the transaction that takes a reservation over. -/
def begin (state : CreationState) (n : ℕ) (request : CreationRequest) (newId : Uuid)
    (expired : Bool) : CreationState :=
  let call : CreationCall := ⟨request, .raised⟩
  if state.calls n = none then
    match state.records.find? fun record => record.request.scope = request.scope with
    | none =>
      if ∀ record ∈ state.records, record.id ≠ newId then
        { state with records := ⟨newId, request, .pending⟩ :: state.records }.setPhase n call
          (.reserved newId)
      else state
    | some record =>
      if record.request ≠ request then state.setPhase n call .raised
      else
        match record.status with
        | .succeeded => state.setPhase n call .returned
        | .pending =>
          if expired then state.setPhase n call (.resetting record.id)
          else state.setPhase n call .raised
        | .failed => state.setPhase n call (.resetting record.id)
  else state

section Steps

variable (derive merchantOf : Uuid → Uuid) (state : CreationState) (n : ℕ) (call : CreationCall)

/-- `register_provider_ref`; a call whose row is stored goes on to the confirmation. -/
def register (operationId : Uuid) (ref : String) (isStored : Bool) : CreationState :=
  let next := if isStored then .confirming operationId ref else .registered operationId ref
  match state.refs.find? fun entry => entry.1 = ref with
  | none => { state with refs := (ref, derive operationId) :: state.refs }.setPhase n call next
  | some entry =>
    if entry.2 = derive operationId then state.setPhase n call next
    else state.setPhase n call (.finalizing operationId .failed)

/-- `_insert_pending`: the primary key and the index of live subscriptions can refuse the row. -/
def insert (operationId : Uuid) (ref : String) : CreationState :=
  let merchant := merchantOf call.request.billingAccountId
  if ∃ row ∈ state.rows, row.id = derive operationId ∨
      row.merchantAccountId = merchant ∧ row.status.isLive = true then
    state.setPhase n call (.violating operationId ref)
  else
    { state with
      rows := ⟨derive operationId, merchant, call.request, .pending, ref⟩ :: state.rows }.setPhase n
        call (.confirming operationId ref)

/-- `_apply_provider_state`, on the row of that id. -/
def applyAnswer (operationId : Uuid) (answer : ProviderSubscriptionState) : CreationState :=
  { state with rows := state.rows.map fun row => row.answered (derive operationId) answer }

/-- The provider's `create_subscription`: the same subscription for the same key, a new one for a
new key; a name that is taken is none. -/
def create (operationId : Uuid) (ref : String) (isLost : Bool) : CreationState :=
  let key : ProviderKey := ⟨call.request.operation, operationId⟩
  let asked := { state with requests := (call.request, key) :: state.requests }
  match state.created.find? fun entry => entry.1 = key with
  | some entry =>
    if isLost then asked.setPhase n call (.finalizing operationId .failed)
    else asked.setPhase n call (.created operationId entry.2 false)
  | none =>
    if ∃ entry ∈ state.created, entry.2 = ref then
      asked.setPhase n call (.finalizing operationId .failed)
    else
      let answered := { asked with created := (key, ref) :: state.created }
      if isLost then answered.setPhase n call (.finalizing operationId .failed)
      else answered.setPhase n call (.created operationId ref false)

end Steps

def fail (state : CreationState) (n : ℕ) (call : CreationCall) : CreationState :=
  match call.phase with
  | .reserved operationId => state.setPhase n call (.finalizing operationId .failed)
  | .searching operationId => state.setPhase n call (.finalizing operationId .failed)
  | .creating operationId => state.setPhase n call (.finalizing operationId .failed)
  | .created operationId _ _ => state.setPhase n call (.finalizing operationId .failed)
  | .registered operationId _ => state.setPhase n call (.finalizing operationId .failed)
  | .violating operationId _ => state.setPhase n call (.finalizing operationId .failed)
  | .returned => state
  | _ => state.setPhase n call .raised

def step (derive merchantOf : Uuid → Uuid) (state : CreationState) (event : CreationEvent) :
    CreationState :=
  match event with
  | .begin n request newId expired => state.begin n request newId expired
  | .change ref answer => { state with provider := Function.update state.provider ref answer }
  | .reset n =>
    match state.calls n with
    | some ⟨request, .resetting operationId⟩ =>
      (state.setStatus operationId .pending).setPhase n ⟨request, .raised⟩ (.reserved operationId)
    | _ => state
  | .findRow n =>
    match state.calls n with
    | some ⟨request, .reserved operationId⟩ =>
      match state.rows.find? fun row => row.id = derive operationId with
      | some row =>
        state.setPhase n ⟨request, .raised⟩ (.created operationId row.providerSubscriptionId true)
      | none => state.setPhase n ⟨request, .raised⟩ (.searching operationId)
    | _ => state
  | .findRef n liveExists =>
    match state.calls n with
    | some ⟨request, .searching operationId⟩ =>
      match state.refs.find? fun entry => entry.2 = derive operationId with
      | some entry => state.setPhase n ⟨request, .raised⟩ (.created operationId entry.1 false)
      | none =>
        if liveExists then state.setPhase n ⟨request, .raised⟩ (.finalizing operationId .failed)
        else state.setPhase n ⟨request, .raised⟩ (.creating operationId)
    | _ => state
  | .create n ref isLost =>
    match state.calls n with
    | some ⟨request, .creating operationId⟩ =>
      state.create n ⟨request, .raised⟩ operationId ref isLost
    | _ => state
  | .register n =>
    match state.calls n with
    | some ⟨request, .created operationId ref isStored⟩ =>
      register derive state n ⟨request, .raised⟩ operationId ref isStored
    | _ => state
  | .insert n granted =>
    match state.calls n with
    | some ⟨request, .registered operationId ref⟩ =>
      if granted then insert derive merchantOf state n ⟨request, .raised⟩ operationId ref
      else state.setPhase n ⟨request, .raised⟩ (.finalizing operationId .failed)
    | _ => state
  | .reread n =>
    match state.calls n with
    | some ⟨request, .violating operationId ref⟩ =>
      if ∃ row ∈ state.rows, row.id = derive operationId ∧ row.providerSubscriptionId = ref then
        state.setPhase n ⟨request, .raised⟩ (.confirming operationId ref)
      else state.setPhase n ⟨request, .raised⟩ (.finalizing operationId .failed)
    | _ => state
  | .confirm n answers =>
    match state.calls n with
    | some ⟨request, .confirming operationId ref⟩ =>
      if answers then
        { state with
          reported := if state.provider ref = ProviderSubscriptionState.active then ref :: state.reported
            else state.reported }.setPhase n ⟨request, .raised⟩
              (.answered operationId ref (state.provider ref))
      else state.setPhase n ⟨request, .raised⟩ (.finalizing operationId .succeeded)
    | _ => state
  | .apply n granted =>
    match state.calls n with
    | some ⟨request, .answered operationId _ answer⟩ =>
      if granted then
        (applyAnswer derive state operationId answer).setPhase n ⟨request, .raised⟩
          (.finalizing operationId .succeeded)
      else state.setPhase n ⟨request, .raised⟩ (.finalizing operationId .succeeded)
    | _ => state
  | .finalize n =>
    match state.calls n with
    | some ⟨request, .finalizing operationId status⟩ =>
      (state.setStatus operationId status).setPhase n ⟨request, .raised⟩
        (if status = .succeeded then .returned else .raised)
    | _ => state
  | .fail n =>
    match state.calls n with
    | some call => state.fail n call
    | none => state
  | .crash n => { state with calls := Function.update state.calls n none }

def initial (provider : String → ProviderSubscriptionState) : CreationState where
  records := []
  rows := []
  refs := []
  created := []
  provider := provider
  calls _ := none
  requests := []
  reported := []

/-- What the creation promises in a state. -/
structure CreatedOnce (derive : Uuid → Uuid) (state : CreationState) : Prop where
  /-- All requests to the provider for one idempotency key carry the same key. -/
  sameKey : ∀ first ∈ state.requests, ∀ second ∈ state.requests,
    first.1.scope = second.1.scope → first.2 = second.2
  /-- The provider created one subscription for each key. -/
  oneCreated : UniqueOn state.created fun entry => entry.1
  /-- At most one row has a derived id. -/
  oneRow : UniqueOn state.rows fun row => row.id
  /-- The row of a reservation names the subscription that was created for it. -/
  ofKey : ∀ record ∈ state.records, ∀ row ∈ state.rows, row.id = derive record.id →
    (⟨record.request.operation, record.id⟩, row.providerSubscriptionId) ∈ state.created
  /-- A row is active only after the provider reported that. -/
  active : ∀ row ∈ state.rows, row.status = .active → row.providerSubscriptionId ∈ state.reported
  /-- A merchant has at most one live subscription. -/
  oneLive : ∀ first ∈ state.rows, ∀ second ∈ state.rows, first.status.isLive = true →
    second.status.isLive = true → first.merchantAccountId = second.merchantAccountId →
    first = second

/-! ## The invariant -/

variable {derive merchantOf : Uuid → Uuid} {state state' : CreationState}
  {scope : String × String} {operationId : Uuid} {ref : String}

def Known (state : CreationState) (scope : String × String) (operationId : Uuid) : Prop :=
  ∃ record ∈ state.records, record.request.scope = scope ∧ record.id = operationId

def Made (state : CreationState) (scope : String × String) (operationId : Uuid) (ref : String) :
    Prop :=
  (⟨scope.1, operationId⟩, ref) ∈ state.created

def Fits (state : CreationState) (scope : String × String) : CreationPhase → Prop
  | .resetting operationId => state.Known scope operationId
  | .reserved operationId => state.Known scope operationId
  | .searching operationId => state.Known scope operationId
  | .creating operationId => state.Known scope operationId
  | .created operationId ref _ =>
    state.Known scope operationId ∧ state.Made scope operationId ref
  | .registered operationId ref =>
    state.Known scope operationId ∧ state.Made scope operationId ref
  | .violating operationId ref =>
    state.Known scope operationId ∧ state.Made scope operationId ref
  | .confirming operationId ref =>
    state.Known scope operationId ∧ state.Made scope operationId ref
  | .answered operationId ref answer =>
    state.Known scope operationId ∧ state.Made scope operationId ref ∧
      (answer = .active → ref ∈ state.reported)
  | .finalizing _ _ => True
  | .returned => True
  | .raised => True

/-- The reservations derive different ids. -/
def DerivesApart (derive : Uuid → Uuid) (state : CreationState) : Prop :=
  ∀ first ∈ state.records, ∀ second ∈ state.records, derive first.id = derive second.id →
    first.id = second.id

/-- What every state of a run satisfies. -/
structure Sound (derive : Uuid → Uuid) (state : CreationState) : Prop where
  oneScope : UniqueOn state.records fun record => record.request.scope
  oneId : UniqueOn state.records fun record => record.id
  asked : ∀ entry ∈ state.requests,
    state.Known entry.1.scope entry.2.operationId ∧ entry.2.operation = entry.1.operation
  oneCreated : UniqueOn state.created fun entry => entry.1
  refs : ∀ entry ∈ state.refs, ∃ scope operationId, state.Known scope operationId ∧
    entry.2 = derive operationId ∧ state.Made scope operationId entry.1
  rows : ∀ row ∈ state.rows, ∃ scope operationId, state.Known scope operationId ∧
    row.id = derive operationId ∧ state.Made scope operationId row.providerSubscriptionId
  oneRow : UniqueOn state.rows fun row => row.id
  active : ∀ row ∈ state.rows, row.status = .active → row.providerSubscriptionId ∈ state.reported
  oneLive : ∀ first ∈ state.rows, ∀ second ∈ state.rows, first.status.isLive = true →
    second.status.isLive = true → first.merchantAccountId = second.merchantAccountId →
    first = second
  fits : ∀ n call, state.calls n = some call → state.Fits call.request.scope call.phase

lemma sound_initial (provider : String → ProviderSubscriptionState) :
    (initial provider).Sound derive where
  oneScope := List.nodup_nil
  oneId := List.nodup_nil
  asked _ hmem := by cases hmem
  oneCreated := List.nodup_nil
  refs _ hmem := by cases hmem
  rows _ hmem := by cases hmem
  oneRow := List.nodup_nil
  active _ hmem := by cases hmem
  oneLive _ hmem := by cases hmem
  fits _ _ hcall := by cases hcall

variable {other : Uuid}

section

variable (h : state.Sound derive)

include h

lemma Sound.operationId_eq (hknown : state.Known scope operationId)
    (hother : state.Known scope other) :
    operationId = other := by
  obtain ⟨record, hrecord, hscope, rfl⟩ := hknown
  obtain ⟨record', hrecord', hscope', rfl⟩ := hother
  rw [h.oneScope.eq_of_key_eq hrecord hrecord' (hscope.trans hscope'.symm)]

lemma Sound.scope_eq {other : String × String} (hknown : state.Known scope operationId)
    (hother : state.Known other operationId) :
    scope = other := by
  obtain ⟨record, hrecord, rfl, hid⟩ := hknown
  obtain ⟨record', hrecord', rfl, hid'⟩ := hother
  rw [h.oneId.eq_of_key_eq hrecord hrecord' (hid.trans hid'.symm)]

lemma Sound.ref_eq {other : String} (hmade : state.Made scope operationId ref)
    (hother : state.Made scope operationId other) :
    ref = other :=
  congrArg Prod.snd (h.oneCreated.eq_of_key_eq hmade hother rfl)

lemma Sound.made_of_derive (hderive : state.DerivesApart derive) {otherScope : String × String}
    (hknown : state.Known scope operationId) (hother : state.Known otherScope other)
    (hid : derive other = derive operationId) (hmade : state.Made otherScope other ref) :
    state.Made scope operationId ref := by
  have hsame : other = operationId := by
    obtain ⟨record, hrecord, -, rfl⟩ := hknown
    obtain ⟨record', hrecord', -, rfl⟩ := hother
    exact hderive record' hrecord' record hrecord hid
  obtain rfl := hsame
  obtain rfl := h.scope_eq hknown hother
  exact hmade

end

/-- Reservations, subscriptions at the provider and reports only become more. -/
structure Grows (state state' : CreationState) : Prop where
  known : ∀ scope operationId, state.Known scope operationId → state'.Known scope operationId
  created : ∀ entry ∈ state.created, entry ∈ state'.created
  reported : ∀ ref ∈ state.reported, ref ∈ state'.reported

lemma Fits.grows {phase : CreationPhase} (h : state.Fits scope phase) (hgrows : Grows state state') :
    state'.Fits scope phase := by
  cases phase with
  | resetting operationId => exact hgrows.known scope operationId h
  | reserved operationId => exact hgrows.known scope operationId h
  | searching operationId => exact hgrows.known scope operationId h
  | creating operationId => exact hgrows.known scope operationId h
  | created operationId ref isStored =>
    exact ⟨hgrows.known scope operationId h.1, hgrows.created _ h.2⟩
  | registered operationId ref =>
    exact ⟨hgrows.known scope operationId h.1, hgrows.created _ h.2⟩
  | violating operationId ref =>
    exact ⟨hgrows.known scope operationId h.1, hgrows.created _ h.2⟩
  | confirming operationId ref =>
    exact ⟨hgrows.known scope operationId h.1, hgrows.created _ h.2⟩
  | answered operationId ref answer =>
    exact ⟨hgrows.known scope operationId h.1, hgrows.created _ h.2.1,
      fun hactive => hgrows.reported ref (h.2.2 hactive)⟩
  | finalizing operationId status => trivial
  | returned => trivial
  | raised => trivial

lemma Sound.of_grows (h : state.Sound derive) (hgrows : Grows state state')
    (hscope : UniqueOn state'.records fun record => record.request.scope)
    (hid : UniqueOn state'.records fun record => record.id)
    (hasked : ∀ entry ∈ state'.requests, entry ∈ state.requests ∨
      state'.Known entry.1.scope entry.2.operationId ∧ entry.2.operation = entry.1.operation)
    (hcreated : UniqueOn state'.created fun entry => entry.1)
    (hrefs : ∀ entry ∈ state'.refs, entry ∈ state.refs ∨ ∃ scope operationId,
      state'.Known scope operationId ∧ entry.2 = derive operationId ∧
        state'.Made scope operationId entry.1)
    (hrows : state'.rows = state.rows)
    (hcalls : state'.calls = state.calls) : state'.Sound derive where
  oneScope := hscope
  oneId := hid
  asked entry hentry := by
    rcases hasked entry hentry with hold | hnew
    · obtain ⟨hknown, hoperation⟩ := h.asked entry hold
      exact ⟨hgrows.known _ _ hknown, hoperation⟩
    · exact hnew
  oneCreated := hcreated
  refs entry hentry := by
    rcases hrefs entry hentry with hold | hnew
    · obtain ⟨scope, operationId, hknown, hid, hmade⟩ := h.refs entry hold
      exact ⟨scope, operationId, hgrows.known _ _ hknown, hid, hgrows.created _ hmade⟩
    · exact hnew
  rows row hrow := by
    rw [hrows] at hrow
    obtain ⟨scope, operationId, hknown, hid, hmade⟩ := h.rows row hrow
    exact ⟨scope, operationId, hgrows.known _ _ hknown, hid, hgrows.created _ hmade⟩
  oneRow := hrows ▸ h.oneRow
  active row hrow hactive := by
    rw [hrows] at hrow
    exact hgrows.reported _ (h.active row hrow hactive)
  oneLive := hrows ▸ h.oneLive
  fits n call hcall := by
    rw [hcalls] at hcall
    exact (h.fits n call hcall).grows hgrows

lemma Sound.setPhase (h : state.Sound derive) {n : ℕ} {call : CreationCall} {phase : CreationPhase}
    (hfits : state.Fits call.request.scope phase) :
    (state.setPhase n call phase).Sound derive := by
  refine ⟨h.oneScope, h.oneId, h.asked, h.oneCreated, h.refs, h.rows, h.oneRow, h.active,
    h.oneLive, fun m other hother => ?_⟩
  dsimp only [CreationState.setPhase] at hother
  by_cases hm : m = n
  · subst hm
    rw [Function.update_self] at hother
    obtain rfl := Option.some.inj hother
    exact hfits
  · rw [Function.update_of_ne hm] at hother
    exact h.fits m other hother

lemma known_setStatus {status : IdempotencyStatus} (h : state.Known scope operationId) :
    (state.setStatus other status).Known scope operationId := by
  obtain ⟨record, hrecord, rfl, rfl⟩ := h
  refine ⟨_, List.mem_map.mpr ⟨record, hrecord, rfl⟩, ?_, ?_⟩ <;> split <;> rfl

lemma Sound.setStatus (h : state.Sound derive) (other : Uuid) (status : IdempotencyStatus) :
    (state.setStatus other status).Sound derive := by
  refine h.of_grows ⟨fun _ _ => known_setStatus, fun _ => id, fun _ => id⟩ ?_ ?_
    (fun _ => .inl) h.oneCreated (fun _ => .inl) rfl rfl
  · exact h.oneScope.update (p := fun record => record.id = other) fun record => rfl
  · exact h.oneId.update (p := fun record => record.id = other) fun record => rfl

lemma Sound.begin (h : state.Sound derive) (n : ℕ) (request : CreationRequest) (newId : Uuid)
    (expired : Bool) : (state.begin n request newId expired).Sound derive := by
  unfold CreationState.begin
  dsimp only
  split
  · split
    · next hnone =>
      split
      · next hfresh =>
        have hnew : ∀ record ∈ state.records, record.request.scope ≠ request.scope := by
          intro record hrecord hscope
          exact absurd (decide_eq_true hscope) (List.find?_eq_none.mp hnone record hrecord)
        have hreserved : Sound derive { state with
            records := ⟨newId, request, .pending⟩ :: state.records } := by
          refine h.of_grows ⟨?_, fun _ => id, fun _ => id⟩ ?_ ?_ (fun _ => .inl) h.oneCreated
            (fun _ => .inl) rfl rfl
          · rintro scope operationId ⟨record, hrecord, hknown⟩
            exact ⟨record, List.mem_cons_of_mem _ hrecord, hknown⟩
          · refine List.nodup_cons.mpr ⟨fun hmem => ?_, h.oneScope⟩
            obtain ⟨record, hrecord, hscope⟩ := List.mem_map.mp hmem
            exact hnew record hrecord hscope
          · refine List.nodup_cons.mpr ⟨fun hmem => ?_, h.oneId⟩
            obtain ⟨record, hrecord, hid⟩ := List.mem_map.mp hmem
            exact hfresh record hrecord hid
        refine hreserved.setPhase ?_
        exact ⟨_, List.mem_cons_self, rfl, rfl⟩
      · exact h
    · next record hrecord =>
      have hfound := List.find?_some hrecord
      have hknown : state.Known request.scope record.id :=
        ⟨record, List.mem_of_find?_eq_some hrecord, of_decide_eq_true hfound, rfl⟩
      split
      · exact h.setPhase trivial
      · cases record.status with
        | succeeded => exact h.setPhase trivial
        | pending =>
          dsimp only
          split
          · exact h.setPhase hknown
          · exact h.setPhase trivial
        | failed => exact h.setPhase hknown
  · exact h

lemma Sound.create (h : state.Sound derive) {n : ℕ} {call : CreationCall}
    (hknown : state.Known call.request.scope operationId) (ref : String) (isLost : Bool) :
    (state.create n call operationId ref isLost).Sound derive := by
  have hasked : Sound derive { state with
      requests := (call.request, ⟨call.request.operation, operationId⟩) :: state.requests } := by
    refine h.of_grows ⟨fun _ _ => id, fun _ => id, fun _ => id⟩ h.oneScope h.oneId
      (fun entry hentry => ?_) h.oneCreated (fun _ => .inl) rfl rfl
    rcases List.mem_cons.mp hentry with rfl | hold
    · exact .inr ⟨hknown, rfl⟩
    · exact .inl hold
  unfold CreationState.create
  dsimp only
  split
  · next entry hentry =>
    split
    · exact hasked.setPhase trivial
    · have hmem := List.mem_of_find?_eq_some hentry
      have hfound := List.find?_some hentry
      have hkey := of_decide_eq_true hfound
      have hmade : state.Made call.request.scope operationId entry.2 := by
        obtain ⟨key, name⟩ := entry
        obtain rfl : key = _ := hkey
        exact hmem
      exact hasked.setPhase ⟨hknown, hmade⟩
  · next hnone =>
    split
    · exact hasked.setPhase trivial
    · have hnew : Sound derive { state with
          requests := (call.request, ⟨call.request.operation, operationId⟩) :: state.requests
          created := (⟨call.request.operation, operationId⟩, ref) :: state.created } := by
        refine hasked.of_grows ⟨fun _ _ => id, fun _ => List.mem_cons_of_mem _, fun _ => id⟩
          h.oneScope h.oneId (fun _ => .inl) ?_ (fun _ => .inl) rfl rfl
        refine List.nodup_cons.mpr ⟨fun hmem => ?_, h.oneCreated⟩
        obtain ⟨entry, hentry, hkey⟩ := List.mem_map.mp hmem
        exact absurd (decide_eq_true hkey) (List.find?_eq_none.mp hnone entry hentry)
      split
      · exact hnew.setPhase trivial
      · exact hnew.setPhase ⟨hknown, List.mem_cons_self⟩

lemma Sound.register (h : state.Sound derive) {n : ℕ} {call : CreationCall}
    (hknown : state.Known call.request.scope operationId)
    (hmade : state.Made call.request.scope operationId ref) (isStored : Bool) :
    (register derive state n call operationId ref isStored).Sound derive := by
  have hnext : ∀ state' : CreationState, state'.Known call.request.scope operationId →
      state'.Made call.request.scope operationId ref → state'.Fits call.request.scope
        (if isStored then .confirming operationId ref else .registered operationId ref) := by
    intro state' hknown' hmade'
    split
    · exact ⟨hknown', hmade'⟩
    · exact ⟨hknown', hmade'⟩
  unfold CreationState.register
  dsimp only
  split
  · have hregistered : Sound derive { state with
        refs := (ref, derive operationId) :: state.refs } := by
      refine h.of_grows ⟨fun _ _ => id, fun _ => id, fun _ => id⟩ h.oneScope h.oneId
        (fun _ => .inl) h.oneCreated (fun entry hentry => ?_) rfl rfl
      rcases List.mem_cons.mp hentry with rfl | hold
      · exact .inr ⟨call.request.scope, operationId, hknown, rfl, hmade⟩
      · exact .inl hold
    exact hregistered.setPhase (hnext _ hknown hmade)
  · split
    · exact h.setPhase (hnext state hknown hmade)
    · exact h.setPhase trivial

lemma Sound.confirm (h : state.Sound derive) {n : ℕ} {call : CreationCall}
    (hknown : state.Known call.request.scope operationId)
    (hmade : state.Made call.request.scope operationId ref) :
    Sound derive ({ state with
      reported := if state.provider ref = ProviderSubscriptionState.active then ref :: state.reported
        else state.reported }.setPhase n call (.answered operationId ref (state.provider ref))) := by
  have hheard : Sound derive { state with
      reported := if state.provider ref = ProviderSubscriptionState.active then
        ref :: state.reported else state.reported } := by
    refine h.of_grows ⟨fun _ _ => id, fun _ => id, fun other hother => ?_⟩ h.oneScope h.oneId
      (fun _ => .inl) h.oneCreated (fun _ => .inl) rfl rfl
    dsimp only
    split
    · exact List.mem_cons_of_mem _ hother
    · exact hother
  refine hheard.setPhase ⟨hknown, hmade, fun hactive => ?_⟩
  dsimp only
  rw [if_pos hactive]
  exact List.mem_cons_self

lemma Sound.insert (h : state.Sound derive) {n : ℕ} {call : CreationCall}
    (hknown : state.Known call.request.scope operationId)
    (hmade : state.Made call.request.scope operationId ref) :
    (insert derive merchantOf state n call operationId ref).Sound derive := by
  unfold CreationState.insert
  dsimp only
  split
  · exact h.setPhase ⟨hknown, hmade⟩
  · next hfree =>
    have hother : ∀ row ∈ state.rows, row.id ≠ derive operationId ∧
        (row.status.isLive = true →
          row.merchantAccountId ≠ merchantOf call.request.billingAccountId) :=
      fun row hrow => ⟨fun hid => hfree ⟨row, hrow, .inl hid⟩,
        fun hlive hmerchant => hfree ⟨row, hrow, .inr ⟨hmerchant, hlive⟩⟩⟩
    have hinserted : Sound derive { state with
        rows := ⟨derive operationId, merchantOf call.request.billingAccountId, call.request,
          .pending, ref⟩ :: state.rows } := by
      refine ⟨h.oneScope, h.oneId, h.asked, h.oneCreated, h.refs, ?_, ?_, ?_, ?_, h.fits⟩
      · intro row hrow
        rcases List.mem_cons.mp hrow with rfl | hold
        · exact ⟨call.request.scope, operationId, hknown, rfl, hmade⟩
        · exact h.rows row hold
      · refine List.nodup_cons.mpr ⟨fun hmem => ?_, h.oneRow⟩
        obtain ⟨row, hrow, hid⟩ := List.mem_map.mp hmem
        exact (hother row hrow).1 hid
      · intro row hrow hactive
        rcases List.mem_cons.mp hrow with rfl | hold
        · cases hactive
        · exact h.active row hold hactive
      · intro first hfirst second hsecond hlive hlive' hmerchant
        rcases List.mem_cons.mp hfirst with rfl | hold
        · rcases List.mem_cons.mp hsecond with rfl | hold'
          · rfl
          · exact absurd hmerchant.symm ((hother second hold').2 hlive')
        · rcases List.mem_cons.mp hsecond with rfl | hold'
          · exact absurd hmerchant ((hother first hold).2 hlive)
          · exact h.oneLive first hold second hold' hlive hlive' hmerchant
    exact hinserted.setPhase ⟨hknown, hmade⟩

lemma Sound.applyAnswer (h : state.Sound derive) (hderive : state.DerivesApart derive)
    {answer : ProviderSubscriptionState} (hknown : state.Known scope operationId)
    (hmade : state.Made scope operationId ref)
    (hreported : answer = .active → ref ∈ state.reported) :
    (applyAnswer derive state operationId answer).Sound derive := by
  refine ⟨h.oneScope, h.oneId, h.asked, h.oneCreated, h.refs, ?_, ?_, ?_, ?_, h.fits⟩
  · intro row hrow
    obtain ⟨old, hold, rfl⟩ := List.mem_map.mp hrow
    obtain ⟨hid, -, href⟩ := old.answered_fields (derive operationId) answer
    rw [hid, href]
    exact h.rows old hold
  · exact h.oneRow.map_of_key fun row => (row.answered_fields (derive operationId) answer).1
  · intro row hrow hactive
    obtain ⟨old, hold, rfl⟩ := List.mem_map.mp hrow
    rw [(old.answered_fields (derive operationId) answer).2.2]
    rcases old.answered_cases (derive operationId) answer with
      hsame | ⟨hid, target, htarget, -, hmoved⟩
    · rw [hsame] at hactive
      exact h.active old hold hactive
    · rw [hmoved] at hactive
      obtain rfl : target = .active := hactive
      obtain ⟨otherScope, other, hother, hderived, hmade'⟩ := h.rows old hold
      have hsame := h.made_of_derive hderive hknown hother (hderived.symm.trans hid) hmade'
      rw [h.ref_eq hsame hmade]
      exact hreported (eq_active_of_targetStatusFor htarget)
  · intro first hfirst second hsecond hlive hlive' hmerchant
    obtain ⟨old, hold, rfl⟩ := List.mem_map.mp hfirst
    obtain ⟨old', hold', rfl⟩ := List.mem_map.mp hsecond
    rw [(old.answered_fields (derive operationId) answer).2.1,
      (old'.answered_fields (derive operationId) answer).2.1] at hmerchant
    rw [h.oneLive old hold old' hold' (CommercialRow.isLive_of_answered hlive)
      (CommercialRow.isLive_of_answered hlive') hmerchant]

lemma Sound.fail (h : state.Sound derive) (n : ℕ) (call : CreationCall) :
    (state.fail n call).Sound derive := by
  unfold CreationState.fail
  split
  · exact h.setPhase trivial
  · exact h.setPhase trivial
  · exact h.setPhase trivial
  · exact h.setPhase trivial
  · exact h.setPhase trivial
  · exact h.setPhase trivial
  · exact h
  · exact h.setPhase trivial

lemma Sound.findRow (h : state.Sound derive) (hderive : state.DerivesApart derive) (n : ℕ) :
    (step derive merchantOf state (.findRow n)).Sound derive := by
  dsimp only [CreationState.step]
  split
  · next request operationId hcall =>
    have hknown : state.Known request.scope operationId := h.fits n _ hcall
    split
    · next row hrow =>
      have hfound := List.find?_some hrow
      have hid : row.id = derive operationId := of_decide_eq_true hfound
      obtain ⟨otherScope, other, hother, hderived, hmade⟩ :=
        h.rows row (List.mem_of_find?_eq_some hrow)
      exact h.setPhase ⟨hknown,
        h.made_of_derive hderive hknown hother (hderived.symm.trans hid) hmade⟩
    · exact h.setPhase hknown
  · exact h

lemma Sound.findRef (h : state.Sound derive) (hderive : state.DerivesApart derive) (n : ℕ)
    (liveExists : Bool) :
    (step derive merchantOf state (.findRef n liveExists)).Sound derive := by
  dsimp only [CreationState.step]
  split
  · next request operationId hcall =>
    have hknown : state.Known request.scope operationId := h.fits n _ hcall
    split
    · next entry hentry =>
      have hfound := List.find?_some hentry
      have hid : entry.2 = derive operationId := of_decide_eq_true hfound
      obtain ⟨otherScope, other, hother, hderived, hmade⟩ :=
        h.refs entry (List.mem_of_find?_eq_some hentry)
      exact h.setPhase ⟨hknown,
        h.made_of_derive hderive hknown hother (hderived.symm.trans hid) hmade⟩
    · split
      · exact h.setPhase trivial
      · exact h.setPhase hknown
  · exact h

lemma Sound.crash (h : state.Sound derive) (n : ℕ) :
    (step derive merchantOf state (.crash n)).Sound derive := by
  refine ⟨h.oneScope, h.oneId, h.asked, h.oneCreated, h.refs, h.rows, h.oneRow, h.active,
    h.oneLive, fun m call hcall => ?_⟩
  exact h.fits m call (Run.update_none_cases hcall).2

lemma Sound.step (h : state.Sound derive) (hderive : state.DerivesApart derive)
    (event : CreationEvent) : (step derive merchantOf state event).Sound derive := by
  cases event with
  | begin n request newId expired => exact h.begin n request newId expired
  | change ref answer =>
    exact ⟨h.oneScope, h.oneId, h.asked, h.oneCreated, h.refs, h.rows, h.oneRow, h.active,
      h.oneLive, h.fits⟩
  | reset n =>
    dsimp only [CreationState.step]
    split
    · next request operationId hcall =>
      have hknown : state.Known request.scope operationId := h.fits n _ hcall
      exact Sound.setPhase (h.setStatus operationId .pending) (known_setStatus hknown)
    · exact h
  | findRow n => exact h.findRow hderive n
  | findRef n liveExists => exact h.findRef hderive n liveExists
  | create n ref isLost =>
    dsimp only [CreationState.step]
    split
    · next request operationId hcall =>
      have hknown : state.Known request.scope operationId := h.fits n _ hcall
      exact h.create hknown ref isLost
    · exact h
  | register n =>
    dsimp only [CreationState.step]
    split
    · next request operationId ref isStored hcall =>
      obtain ⟨hknown, hmade⟩ := h.fits n _ hcall
      exact h.register hknown hmade isStored
    · exact h
  | insert n granted =>
    dsimp only [CreationState.step]
    split
    · next request operationId ref hcall =>
      obtain ⟨hknown, hmade⟩ := h.fits n _ hcall
      split
      · exact h.insert hknown hmade
      · exact h.setPhase trivial
    · exact h
  | reread n =>
    dsimp only [CreationState.step]
    split
    · next request operationId ref hcall =>
      obtain ⟨hknown, hmade⟩ := h.fits n _ hcall
      split
      · exact h.setPhase ⟨hknown, hmade⟩
      · exact h.setPhase trivial
    · exact h
  | confirm n answers =>
    dsimp only [CreationState.step]
    split
    · next request operationId ref hcall =>
      obtain ⟨hknown, hmade⟩ := h.fits n _ hcall
      split
      · exact h.confirm hknown hmade
      · exact h.setPhase trivial
    · exact h
  | apply n granted =>
    dsimp only [CreationState.step]
    split
    · next request operationId ref answer hcall =>
      obtain ⟨hknown, hmade, hreported⟩ := h.fits n _ hcall
      split
      · exact (h.applyAnswer hderive hknown hmade hreported).setPhase trivial
      · exact h.setPhase trivial
    · exact h
  | finalize n =>
    dsimp only [CreationState.step]
    split
    · next request operationId status hcall =>
      refine Sound.setPhase (h.setStatus operationId status) ?_
      split
      · trivial
      · trivial
    · exact h
  | fail n =>
    dsimp only [CreationState.step]
    split
    · exact h.fail n _
    · exact h
  | crash n => exact h.crash n

lemma Sound.createdOnce (h : state.Sound derive) (hderive : state.DerivesApart derive) :
    state.CreatedOnce derive where
  sameKey first hfirst second hsecond hscope := by
    obtain ⟨hknown, hoperation⟩ := h.asked first hfirst
    obtain ⟨hknown', hoperation'⟩ := h.asked second hsecond
    rw [← hscope] at hknown'
    have hid := h.operationId_eq hknown hknown'
    have hsame : first.1.operation = second.1.operation := congrArg Prod.fst hscope
    obtain ⟨request, operation, operationId⟩ := first
    obtain ⟨request', operation', operationId'⟩ := second
    dsimp only at hid hoperation hoperation' hsame ⊢
    rw [hoperation, hoperation', hsame, hid]
  oneCreated := h.oneCreated
  oneRow := h.oneRow
  ofKey record hrecord row hrow hid := by
    obtain ⟨otherScope, other, hother, hderived, hmade⟩ := h.rows row hrow
    have hknown : state.Known record.request.scope record.id := ⟨record, hrecord, rfl, rfl⟩
    exact h.made_of_derive hderive hknown hother (hderived.symm.trans hid) hmade
  active := h.active
  oneLive := h.oneLive

/-! ## Rows begin as pending -/

def RowsBegin (state state' : CreationState) : Prop :=
  ∀ row ∈ state'.rows, (∃ old ∈ state.rows, old.id = row.id) ∨ row.status = .pending

lemma rowsBegin_of_eq (h : state'.rows = state.rows) : RowsBegin state state' :=
  fun row hrow => .inl ⟨row, h ▸ hrow, rfl⟩

lemma rowsBegin_step (state : CreationState) (event : CreationEvent) :
    RowsBegin state (step derive merchantOf state event) := by
  have hsame : RowsBegin state state := rowsBegin_of_eq rfl
  cases event with
  | begin n request newId expired =>
    refine rowsBegin_of_eq ?_
    dsimp only [step, begin]
    split
    · split
      · split <;> rfl
      · split
        · rfl
        · split
          · rfl
          · split <;> rfl
          · rfl
    · rfl
  | change ref answer => exact hsame
  | reset n =>
    refine rowsBegin_of_eq ?_
    dsimp only [step]
    split <;> rfl
  | findRow n =>
    refine rowsBegin_of_eq ?_
    dsimp only [step]
    split
    · split <;> rfl
    · rfl
  | findRef n liveExists =>
    refine rowsBegin_of_eq ?_
    dsimp only [step]
    split
    · split
      · rfl
      · split <;> rfl
    · rfl
  | create n ref isLost =>
    refine rowsBegin_of_eq ?_
    dsimp only [step, create]
    split
    · split
      · split <;> rfl
      · split
        · rfl
        · split <;> rfl
    · rfl
  | register n =>
    refine rowsBegin_of_eq ?_
    dsimp only [step, register]
    split
    · split
      · rfl
      · split <;> rfl
    · rfl
  | insert n granted =>
    dsimp only [step]
    split
    · split
      · dsimp only [insert]
        split
        · exact hsame
        · intro row hrow
          rcases List.mem_cons.mp hrow with rfl | hold
          · exact .inr rfl
          · exact .inl ⟨row, hold, rfl⟩
      · exact hsame
    · exact hsame
  | reread n =>
    refine rowsBegin_of_eq ?_
    dsimp only [step]
    split
    · split <;> rfl
    · rfl
  | confirm n answers =>
    refine rowsBegin_of_eq ?_
    dsimp only [step]
    split
    · split <;> rfl
    · rfl
  | apply n granted =>
    dsimp only [step]
    split
    · split
      · intro row hrow
        obtain ⟨old, hold, rfl⟩ := List.mem_map.mp hrow
        exact .inl ⟨old, hold, (old.answered_fields _ _).1.symm⟩
      · exact hsame
    · exact hsame
  | finalize n =>
    refine rowsBegin_of_eq ?_
    dsimp only [step]
    split <;> rfl
  | fail n =>
    refine rowsBegin_of_eq ?_
    dsimp only [step]
    split
    · unfold fail
      split <;> rfl
    · rfl
  | crash n => exact hsame

end CreationState

open CreationState

/-! ## Runs -/

/-- What the creation promises about a run. -/
structure CreationOnce (derive merchantOf : Uuid → Uuid) (state : CreationState)
    (events : List CreationEvent) : Prop where
  once : Run.Always (CreationState.step derive merchantOf) (CreatedOnce derive) state events
  /-- A row is first stored pending. -/
  pendingFirst : ∀ before event after, events = before ++ event :: after →
    ∀ row ∈ (Run.run (CreationState.step derive merchantOf) state (before ++ [event])).rows,
      (∀ old ∈ (Run.run (CreationState.step derive merchantOf) state before).rows,
        old.id ≠ row.id) → row.status = .pending

/-- **A commercial subscription is created once** for each idempotency key, in every run of calls
that fail, crash and take reservations over, if no two reservations derive one id. -/
theorem creation_once {derive : Uuid → Uuid} (merchantOf : Uuid → Uuid)
    (provider : String → ProviderSubscriptionState) (events : List CreationEvent)
    (hderive : Run.Always (CreationState.step derive merchantOf) (DerivesApart derive)
      (initial provider) events) :
    CreationOnce derive merchantOf (initial provider) events := by
  have hsound : Run.Always (CreationState.step derive merchantOf) (Sound derive)
      (initial provider) events :=
    Run.always_of_along (fun _ event h hapart => h.step hapart event) (sound_initial provider)
      hderive.along
  constructor
  · intro before after hevents
    exact (hsound before after hevents).createdOnce (hderive before after hevents)
  · intro before event after _ row hrow hnew
    rw [Run.run_append] at hrow
    rcases rowsBegin_step _ event row hrow with ⟨old, hold, hid⟩ | hpending
    · exact absurd hid (hnew old hold)
    · exact hpending

/-! ### A lost answer -/

def planFive : CreationRequest :=
  ⟨"billing.subscription.create", "key-1", 5, 1, 2⟩

/-- The provider's answer to the first call is lost and the call crashes; the second call takes the
reservation over, and a third one repeats the request. -/
def lostAnswer : List CreationEvent :=
  [.begin 0 planFive 7 false, .findRow 0, .findRef 0 false, .create 0 "sub-1" true, .crash 0,
    .begin 1 planFive 8 true, .reset 1, .findRow 1, .findRef 1 false, .create 1 "sub-2" false,
    .register 1, .insert 1 true, .change "sub-1" .active, .confirm 1 true, .apply 1 true,
    .finalize 1, .begin 2 planFive 9 false]

/-- One subscription is created and becomes active, after two requests to the provider. -/
theorem creation_once_lostAnswer :
    CreationOnce (fun id => id + 1000) (fun _ => 4) (initial fun _ => .pending) lostAnswer ∧
      (Run.run (CreationState.step (fun id => id + 1000) fun _ => 4) (initial fun _ => .pending)
        lostAnswer).rows = [⟨1007, 4, planFive, .active, "sub-1"⟩] ∧
      (Run.run (CreationState.step (fun id => id + 1000) fun _ => 4) (initial fun _ => .pending)
        lostAnswer).requests.length = 2 :=
  ⟨creation_once (fun _ => 4) (fun _ => .pending) lostAnswer
      fun _ _ _ _ _ _ _ h => Nat.add_right_cancel h,
    by decide +kernel, by decide +kernel⟩

end SaasOs.Billing
