import SaasOs.Foundation.Run
import SaasOs.Foundation.UniqueInsert
import SaasOs.Webhooks.Signing

/-!
# The replay ledger

`verify_and_record_webhook_delivery` verifies a request against the present and then records its
event in a ledger with a unique key, in a transaction of its own; `purge_expired_replay_records`
deletes old records.  Both are calls of several steps, which interleave.
-/

namespace SaasOs.Webhooks

open Rows UniqueInsert

/-! ## Requests and records -/

structure WebhookRequest where
  tenantId : Uuid
  subscriptionId : Uuid
  eventId : Uuid
  payload : List UInt8
  timestamp : ℤ
  signature : String
  deriving DecidableEq

/-- A row of `core.webhook_replay_records`. -/
structure WebhookReplayRecord where
  tenantId : Uuid
  subscriptionId : Uuid
  eventId : Uuid
  createdAt : Instant
  deriving DecidableEq

def WebhookRequest.key (request : WebhookRequest) : Uuid × Uuid × Uuid :=
  (request.tenantId, request.subscriptionId, request.eventId)

def WebhookReplayRecord.key (record : WebhookReplayRecord) : Uuid × Uuid × Uuid :=
  (record.tenantId, record.subscriptionId, record.eventId)

structure SignedDelivery where
  secret : String
  payload : List UInt8
  timestamp : ℤ
  signature : String

/-! ## The system -/

/-- Where a call is: a delivery has been verified, its transaction has begun, its record has been
inserted, it was refused, found to be a replay or accepted; a purge has selected records, or ended. -/
inductive ReplayPhase
  | verified (request : WebhookRequest)
  | begun (request : WebhookRequest) (createdAt : Instant)
  | inserted (request : WebhookRequest)
  | rejected (error : VerificationError)
  | replayed
  | accepted
  | purging (records : List WebhookReplayRecord)
  | purged

def ReplayPhase.request? : ReplayPhase → Option WebhookRequest
  | verified request => some request
  | begun request _ => some request
  | inserted request => some request
  | rejected _ => none
  | replayed => none
  | accepted => none
  | purging _ => none
  | purged => none

/-- The clock, the ledger, the calls, what the sender has signed, and the requests that were
accepted. -/
structure ReplayState where
  clock : Instant
  ledger : Table ℕ WebhookReplayRecord
  calls : ℕ → Option ReplayPhase
  signed : List SignedDelivery
  accepted : List WebhookRequest

/-- What can happen next to the ledger of deliveries. -/
inductive ReplayEvent
  | tick (elapsed : ℕ)
  | sign (tenantId subscriptionId : Uuid) (payload : List UInt8) (timestamp : ℤ)
  | verify (n : ℕ) (request : WebhookRequest)
  | begin (n : ℕ)
  | insert (n : ℕ)
  | commit (n : ℕ)
  | select (n : ℕ) (tenantId : Uuid) (olderThan : Instant)
  | delete (n : ℕ)
  | crash (n : ℕ)

def ReplayEvent.call? : ReplayEvent → Option ℕ
  | tick _ => none
  | sign _ _ _ _ => none
  | verify n _ => some n
  | begin n => some n
  | insert n => some n
  | commit n => some n
  | select n _ _ => some n
  | delete n => some n
  | crash n => some n

namespace ReplayState

/-- The call at `n` enters a phase. -/
def setCall (state : ReplayState) (n : ℕ) (phase : Option ReplayPhase) : ReplayState :=
  { state with calls := Function.update state.calls n phase }

def initial (clock : Instant) : ReplayState :=
  ⟨clock, Table.empty, fun _ => none, [], []⟩

section Step

variable (hexdigest : String → List UInt8 → String) (secretOf : Uuid → Uuid → String)
  (tolerance : ℕ)

/-- The state after an event. -/
def step (state : ReplayState) : ReplayEvent → ReplayState
  | .tick elapsed => { state with clock := state.clock + elapsed }
  | .sign tenantId subscriptionId payload timestamp =>
    let secret := secretOf tenantId subscriptionId
    { state with
      signed := ⟨secret, payload, timestamp,
        computeSignedEnvelope hexdigest secret payload timestamp⟩ :: state.signed }
  | .verify n request =>
    if state.calls n = none then
      match verifyWebhookSignature hexdigest tolerance state.clock
        (secretOf request.tenantId request.subscriptionId) request.payload request.timestamp
        request.signature with
      | .ok () => state.setCall n (some (.verified request))
      | .error error => state.setCall n (some (.rejected error))
    else state
  | .begin n =>
    match state.calls n with
    | some (.verified request) => state.setCall n (some (.begun request state.clock))
    | _ => state
  | .insert n =>
    match state.calls n with
    | some (.begun request createdAt) =>
      match state.ledger.tryInsert WebhookReplayRecord.key n request.key with
      | .inserted =>
        { state with
          ledger := state.ledger.insert n ⟨request.tenantId, request.subscriptionId,
            request.eventId, createdAt⟩ }.setCall n (some (.inserted request))
      | .waits => state
      | .violates => state.setCall n (some .replayed)
    | _ => state
  | .commit n =>
    match state.calls n with
    | some (.inserted request) =>
      { state with
        ledger := state.ledger.commit n
        accepted := request :: state.accepted }.setCall n (some .accepted)
    | _ => state
  | .select n tenantId olderThan =>
    if state.calls n = none ∧ olderThan ≤ state.clock - tolerance * 1000000 then
      state.setCall n (some (.purging (state.ledger.committed.filter fun record =>
        record.tenantId = tenantId ∧ record.createdAt < olderThan)))
    else state
  | .delete n =>
    match state.calls n with
    | some (.purging records) =>
      { state with
        ledger := state.ledger.delete fun record => decide (record ∈ records) }.setCall n
          (some .purged)
    | _ => state
  | .crash n => { state with ledger := state.ledger.rollback n }.setCall n none

/-- Only the sender makes signatures: a request with a signature of the subscription's secret
carries one that the sender has made. -/
def Unforged (state : ReplayState) : ReplayEvent → Prop
  | .verify _ request => ∀ bytes, request.signature = computeSignature hexdigest
      (secretOf request.tenantId request.subscriptionId) bytes →
        ∃ delivery ∈ state.signed, delivery.secret = secretOf request.tenantId
          request.subscriptionId ∧ delivery.signature = request.signature
  | _ => True

/-- A purge deletes only records whose accepted requests are stale, and not verified by a call that
is still to record them. -/
def PurgesStale (state : ReplayState) : ReplayEvent → Prop
  | .delete n => ∀ records, state.calls n = some (.purging records) → ∀ record ∈ records,
      ∀ request ∈ state.accepted, request.key = record.key →
        tolerance * 1000000 < state.clock - request.timestamp * 1000000 ∧
          ∀ m phase, state.calls m = some phase → phase.request? ≠ some request
  | _ => True

def Signed (state : ReplayState) (request : WebhookRequest) : Prop :=
  (⟨secretOf request.tenantId request.subscriptionId, request.payload, request.timestamp,
    request.signature⟩ : SignedDelivery) ∈ state.signed

/-- What the ledger promises in a state: no request was accepted twice, and each that was is as the
sender signed it. -/
structure ReplaySafe (state : ReplayState) : Prop where
  once : state.accepted.Nodup
  signed : ∀ request ∈ state.accepted, state.Signed secretOf request

/-- A rejected request leaves the ledger as it was. -/
def RejectsSilently (state : ReplayState) (event : ReplayEvent) : Prop :=
  ∀ n error, event.call? = some n →
    (step hexdigest secretOf tolerance state event).calls n = some (.rejected error) →
      (step hexdigest secretOf tolerance state event).ledger = state.ledger

end Step

/-! ## The invariant -/

variable {hexdigest : String → List UInt8 → String} {secretOf : Uuid → Uuid → String}
  {tolerance : ℕ} {state : ReplayState}

def Spent (tolerance : ℕ) (state : ReplayState) (request : WebhookRequest) : Prop :=
  tolerance * 1000000 < state.clock - request.timestamp * 1000000 ∧
    ∀ m phase, state.calls m = some phase → phase.request? ≠ some request

/-- What every state of a run satisfies. -/
structure Sound (secretOf : Uuid → Uuid → String) (tolerance : ℕ) (state : ReplayState) : Prop where
  unique : state.ledger.Unique WebhookReplayRecord.key
  inserted : ∀ n request, state.calls n = some (.inserted request) →
    ∃ record, (n, record) ∈ state.ledger.uncommitted ∧ record.key = request.key
  verified : ∀ n phase request, state.calls n = some phase → phase.request? = some request →
    state.Signed secretOf request
  signed : ∀ request ∈ state.accepted, state.Signed secretOf request
  recorded : ∀ request ∈ state.accepted,
    (∃ record ∈ state.ledger.committed, record.key = request.key) ∨ state.Spent tolerance request
  once : state.accepted.Nodup

lemma sound_initial (secretOf : Uuid → Uuid → String) (tolerance : ℕ) (clock : Instant) :
    (initial clock).Sound secretOf tolerance where
  unique := List.nodup_nil
  inserted _ _ h := by cases h
  verified _ _ _ h := by cases h
  signed _ h := by cases h
  recorded _ h := by cases h
  once := List.nodup_nil

lemma Sound.setCall (h : state.Sound secretOf tolerance) {n : ℕ} {phase : Option ReplayPhase}
    (hinserted : ∀ request, phase = some (.inserted request) →
      ∃ record, (n, record) ∈ state.ledger.uncommitted ∧ record.key = request.key)
    (hrequest : ∀ new ∈ phase, ∀ request, new.request? = some request →
      (∃ old, state.calls n = some old ∧ old.request? = some request) ∨
        state.Signed secretOf request ∧ isFresh tolerance state.clock request.timestamp = true) :
    (state.setCall n phase).Sound secretOf tolerance where
  unique := h.unique
  inserted m request hm := by
    dsimp only [ReplayState.setCall] at hm
    rcases Run.update_cases hm with ⟨rfl, hwritten⟩ | ⟨-, hm⟩
    · exact hinserted request hwritten
    · exact h.inserted m request hm
  verified m new request hm hnew := by
    dsimp only [ReplayState.setCall] at hm
    rcases Run.update_cases hm with ⟨rfl, hwritten⟩ | ⟨-, hm⟩
    · rcases hrequest new hwritten request hnew with ⟨old, hcall, hold⟩ | ⟨hsigned, -⟩
      · exact h.verified m old request hcall hold
      · exact hsigned
    · exact h.verified m new request hm hnew
  signed := h.signed
  recorded request haccepted := by
    rcases h.recorded request haccepted with hrecord | ⟨hstale, hfree⟩
    · exact .inl hrecord
    · refine .inr ⟨hstale, fun m new hm hnew => ?_⟩
      dsimp only [ReplayState.setCall] at hm
      rcases Run.update_cases hm with ⟨rfl, hwritten⟩ | ⟨-, hm⟩
      · rcases hrequest new hwritten request hnew with ⟨old, hcall, hold⟩ | ⟨-, hfresh⟩
        · exact hfree m old hcall hold
        · simp only [isFresh, Bool.not_eq_true', Bool.or_eq_false_iff, decide_eq_false_iff_not]
            at hfresh
          exact hfresh.1 hstale
      · exact hfree m new hm hnew
  once := h.once

section

variable (h : state.Sound secretOf tolerance)

include h

lemma Sound.setCall_none {n : ℕ} {phase : Option ReplayPhase}
    (hphase : ∀ new ∈ phase, new.request? = none) :
    (state.setCall n phase).Sound secretOf tolerance := by
  refine h.setCall (fun request heq => ?_) fun new hnew request hrequest => ?_
  · cases hphase _ heq
  · rw [hphase new hnew] at hrequest
    cases hrequest

/-! ## One event -/

lemma Sound.tick (elapsed : ℕ) :
    Sound secretOf tolerance { state with clock := state.clock + elapsed } where
  unique := h.unique
  inserted := h.inserted
  verified := h.verified
  signed := h.signed
  recorded request haccepted := by
    rcases h.recorded request haccepted with hrecord | ⟨hstale, hfree⟩
    · exact .inl hrecord
    · have hlater : state.clock ≤ state.clock + elapsed :=
        Int.le_add_of_nonneg_right (Int.natCast_nonneg elapsed)
      exact .inr ⟨hstale.trans_le (Int.sub_le_sub_right hlater _), hfree⟩
  once := h.once

lemma Sound.sign (delivery : SignedDelivery) :
    Sound secretOf tolerance { state with signed := delivery :: state.signed } where
  unique := h.unique
  inserted := h.inserted
  verified n phase request hn hrequest := List.mem_cons_of_mem _ (h.verified n phase request hn hrequest)
  signed request haccepted := List.mem_cons_of_mem _ (h.signed request haccepted)
  recorded := h.recorded
  once := h.once

end

lemma signed_of_verified {request : WebhookRequest}
    (hhash : ∀ secret, Function.Injective (hexdigest secret))
    (hgenuine : ∀ delivery ∈ state.signed, delivery.signature =
      computeSignedEnvelope hexdigest delivery.secret delivery.payload delivery.timestamp)
    (hunforged : ∀ bytes, request.signature = computeSignature hexdigest
      (secretOf request.tenantId request.subscriptionId) bytes →
        ∃ delivery ∈ state.signed, delivery.secret = secretOf request.tenantId
          request.subscriptionId ∧ delivery.signature = request.signature)
    (hsignature : computeSignedEnvelope hexdigest (secretOf request.tenantId
      request.subscriptionId) request.payload request.timestamp = request.signature) :
    state.Signed secretOf request := by
  obtain ⟨delivery, hdelivery, hsecret, hsame⟩ := hunforged _ hsignature.symm
  have hmade := hgenuine delivery hdelivery
  rw [hsame, ← hsignature, hsecret] at hmade
  obtain ⟨htimestamp, hpayload⟩ := computeSignedEnvelope_inj (hhash _) hmade
  unfold Signed
  rw [← hsecret, htimestamp, hpayload, ← hsame]
  exact hdelivery

lemma Sound.insert (h : state.Sound secretOf tolerance) {n : ℕ} {request : WebhookRequest}
    {createdAt : Instant} (hcall : state.calls n = some (.begun request createdAt))
    (htry : state.ledger.tryInsert WebhookReplayRecord.key n request.key = .inserted) :
    ({ state with
      ledger := state.ledger.insert n ⟨request.tenantId, request.subscriptionId,
        request.eventId, createdAt⟩ }.setCall n (some (.inserted request))).Sound secretOf
          tolerance := by
  have hstate : Sound secretOf tolerance { state with
      ledger := state.ledger.insert n ⟨request.tenantId, request.subscriptionId,
        request.eventId, createdAt⟩ } :=
    { unique := h.unique.insert htry
      inserted := fun m other hm => by
        obtain ⟨record, hrecord, hkey⟩ := h.inserted m other hm
        exact ⟨record, Table.mem_uncommitted_insert.mpr (.inl hrecord), hkey⟩
      verified := h.verified
      signed := h.signed
      recorded := h.recorded
      once := h.once }
  refine hstate.setCall (fun other hother => ?_) fun new hnew other hother => ?_
  · cases hother
    exact ⟨_, Table.mem_uncommitted_insert.mpr (.inr ⟨rfl, rfl⟩), rfl⟩
  · obtain rfl := Option.mem_some_iff.mp hnew
    exact .inl ⟨_, hcall, hother⟩

lemma Sound.commit (h : state.Sound secretOf tolerance) {n : ℕ} {request : WebhookRequest}
    (hcall : state.calls n = some (.inserted request)) :
    ({ state with
      ledger := state.ledger.commit n
      accepted := request :: state.accepted }.setCall n (some .accepted)).Sound secretOf
        tolerance := by
  obtain ⟨record, hrecord, hkey⟩ := h.inserted n request hcall
  have hnew : request ∉ state.accepted := by
    intro haccepted
    rcases h.recorded request haccepted with ⟨old, hold, holdKey⟩ | ⟨-, hfree⟩
    · exact h.unique.key_ne hold hrecord (hkey.trans holdKey.symm)
    · exact hfree n _ hcall rfl
  have hcommitted : record ∈ (state.ledger.commit n).committed :=
    Table.mem_committed_commit.mpr (.inr hrecord)
  refine
    { unique := h.unique.commit n
      inserted := fun m other hm => ?_
      verified := fun m phase other hm hother => ?_
      signed := fun other hother => ?_
      recorded := fun other hother => ?_
      once := List.nodup_cons.mpr ⟨hnew, h.once⟩ }
  · dsimp only [ReplayState.setCall] at hm
    rcases Run.update_cases hm with ⟨-, hm⟩ | ⟨hmn, hm⟩
    · cases hm
    · obtain ⟨own, hown, hownKey⟩ := h.inserted m other hm
      exact ⟨own, Table.mem_uncommitted_commit.mpr ⟨hown, hmn⟩, hownKey⟩
  · dsimp only [ReplayState.setCall] at hm
    rcases Run.update_some_cases hm with ⟨-, rfl⟩ | ⟨-, hm⟩
    · cases hother
    · exact h.verified m phase other hm hother
  · rcases List.mem_cons.mp hother with rfl | hother
    · exact h.verified n _ other hcall rfl
    · exact h.signed other hother
  · rcases List.mem_cons.mp hother with rfl | hother
    · exact .inl ⟨record, hcommitted, hkey⟩
    · rcases h.recorded other hother with ⟨old, hold, holdKey⟩ | ⟨hstale, hfree⟩
      · exact .inl ⟨old, Table.mem_committed_commit.mpr (.inl hold), holdKey⟩
      · refine .inr ⟨hstale, fun m phase hm hphase => ?_⟩
        dsimp only [ReplayState.setCall] at hm
        rcases Run.update_some_cases hm with ⟨-, rfl⟩ | ⟨-, hm⟩
        · cases hphase
        · exact hfree m phase hm hphase

lemma Sound.delete (h : state.Sound secretOf tolerance) {n : ℕ} {records : List WebhookReplayRecord}
    (hspent : ∀ record ∈ records, ∀ request ∈ state.accepted, request.key = record.key →
      state.Spent tolerance request) :
    ({ state with
      ledger := state.ledger.delete fun record => decide (record ∈ records) }.setCall n
        (some .purged)).Sound secretOf tolerance := by
  have hstate : Sound secretOf tolerance { state with
      ledger := state.ledger.delete fun record => decide (record ∈ records) } :=
    { unique := h.unique.delete _
      inserted := h.inserted
      verified := h.verified
      signed := h.signed
      recorded := fun request haccepted => by
        rcases h.recorded request haccepted with ⟨record, hrecord, hkey⟩ | hold
        · by_cases hdeleted : record ∈ records
          · exact .inr (hspent record hdeleted request haccepted hkey.symm)
          · refine .inl ⟨record, List.mem_filter.mpr ⟨hrecord, ?_⟩, hkey⟩
            simpa using hdeleted
        · exact .inr hold
      once := h.once }
  exact hstate.setCall_none fun new hnew => by
    obtain rfl := Option.mem_some_iff.mp hnew
    rfl

lemma Sound.crash (h : state.Sound secretOf tolerance) (n : ℕ) :
    ({ state with ledger := state.ledger.rollback n }.setCall n none).Sound secretOf
      tolerance where
  unique := h.unique.rollback n
  inserted m request hm := by
    dsimp only [ReplayState.setCall] at hm
    obtain ⟨hmn, hm⟩ := Run.update_none_cases hm
    obtain ⟨record, hrecord, hkey⟩ := h.inserted m request hm
    exact ⟨record, Table.mem_uncommitted_rollback.mpr ⟨hrecord, hmn⟩, hkey⟩
  verified m phase request hm hphase :=
    (h.setCall_none (by simp)).verified m phase request hm hphase
  signed := h.signed
  recorded request haccepted :=
    (h.setCall_none (by simp)).recorded request haccepted
  once := h.once

def Genuine (hexdigest : String → List UInt8 → String) (state : ReplayState) : Prop :=
  ∀ delivery ∈ state.signed, delivery.signature =
    computeSignedEnvelope hexdigest delivery.secret delivery.payload delivery.timestamp

lemma signed_step (event : ReplayEvent) :
    (step hexdigest secretOf tolerance state event).signed = state.signed ∨
      ∃ secret payload timestamp, (step hexdigest secretOf tolerance state event).signed =
        ⟨secret, payload, timestamp, computeSignedEnvelope hexdigest secret payload timestamp⟩ ::
          state.signed := by
  cases event with
  | tick elapsed => exact .inl rfl
  | sign tenantId subscriptionId payload timestamp => exact .inr ⟨_, _, _, rfl⟩
  | verify n request =>
    refine .inl ?_
    dsimp only [step]
    split
    · split <;> rfl
    · rfl
  | begin n =>
    refine .inl ?_
    dsimp only [step]
    split <;> rfl
  | insert n =>
    refine .inl ?_
    dsimp only [step]
    split
    · split <;> rfl
    · rfl
  | commit n =>
    refine .inl ?_
    dsimp only [step]
    split <;> rfl
  | select n tenantId olderThan =>
    refine .inl ?_
    dsimp only [step]
    split <;> rfl
  | delete n =>
    refine .inl ?_
    dsimp only [step]
    split <;> rfl
  | crash n => exact .inl rfl

lemma Genuine.step (h : state.Genuine hexdigest) (event : ReplayEvent) :
    (step hexdigest secretOf tolerance state event).Genuine hexdigest := by
  intro delivery hdelivery
  rcases signed_step event with hsame | ⟨secret, payload, timestamp, hsigned⟩
  · rw [hsame] at hdelivery
    exact h delivery hdelivery
  · rw [hsigned] at hdelivery
    rcases List.mem_cons.mp hdelivery with rfl | hold
    · rfl
    · exact h delivery hold

/-- **One event keeps the state sound**, if no signature is forged and purges delete only what is
spent. -/
lemma Sound.step (hhash : ∀ secret, Function.Injective (hexdigest secret))
    (h : state.Sound secretOf tolerance) (hgenuine : state.Genuine hexdigest)
    {event : ReplayEvent} (hunforged : Unforged hexdigest secretOf state event)
    (hpurges : PurgesStale tolerance state event) :
    (ReplayState.step hexdigest secretOf tolerance state event).Sound secretOf tolerance := by
  cases event with
  | tick elapsed => exact h.tick elapsed
  | sign tenantId subscriptionId payload timestamp => exact h.sign _
  | verify n request =>
    dsimp only [ReplayState.step]
    split
    · split
      · next hok =>
        obtain ⟨hfresh, hsignature⟩ := verifyWebhookSignature_ok hok
        refine h.setCall (fun other hother => by cases hother) fun new hnew other hother => ?_
        obtain rfl := Option.mem_some_iff.mp hnew
        obtain rfl := Option.some.inj hother
        exact .inr ⟨signed_of_verified hhash hgenuine hunforged hsignature, hfresh⟩
      · exact h.setCall_none fun new hnew => by
          obtain rfl := Option.mem_some_iff.mp hnew
          rfl
    · exact h
  | begin n =>
    dsimp only [ReplayState.step]
    split
    · next request hcall =>
      refine h.setCall (fun other hother => by cases hother) fun new hnew other hother => ?_
      obtain rfl := Option.mem_some_iff.mp hnew
      exact .inl ⟨_, hcall, hother⟩
    · exact h
  | insert n =>
    dsimp only [ReplayState.step]
    split
    · next request createdAt hcall =>
      split
      · next htry => exact h.insert hcall htry
      · exact h
      · exact h.setCall_none fun new hnew => by
          obtain rfl := Option.mem_some_iff.mp hnew
          rfl
    · exact h
  | commit n =>
    dsimp only [ReplayState.step]
    split
    · next request hcall => exact h.commit hcall
    · exact h
  | select n tenantId olderThan =>
    dsimp only [ReplayState.step]
    split
    · exact h.setCall_none fun new hnew => by
        obtain rfl := Option.mem_some_iff.mp hnew
        rfl
    · exact h
  | delete n =>
    dsimp only [ReplayState.step]
    split
    · next records hcall => exact h.delete (hpurges records hcall)
    · exact h
  | crash n => exact h.crash n

lemma rejectsSilently (state : ReplayState) (event : ReplayEvent) :
    RejectsSilently hexdigest secretOf tolerance state event := by
  intro n error hevent hrejected
  cases event with
  | tick elapsed => rfl
  | sign tenantId subscriptionId payload timestamp => rfl
  | verify m request =>
    dsimp only [step]
    split
    · split <;> rfl
    · rfl
  | begin m =>
    dsimp only [step]
    split <;> rfl
  | insert m =>
    obtain rfl := Option.some.inj hevent
    revert hrejected
    dsimp only [step]
    split
    · split
      · intro hrejected
        simp [setCall] at hrejected
      · exact fun _ => rfl
      · exact fun _ => rfl
    · exact fun _ => rfl
  | commit m =>
    obtain rfl := Option.some.inj hevent
    revert hrejected
    dsimp only [step]
    split
    · intro hrejected
      simp [setCall] at hrejected
    · exact fun _ => rfl
  | select m tenantId olderThan =>
    dsimp only [step]
    split <;> rfl
  | delete m =>
    obtain rfl := Option.some.inj hevent
    revert hrejected
    dsimp only [step]
    split
    · intro hrejected
      simp [setCall] at hrejected
    · exact fun _ => rfl
  | crash m =>
    obtain rfl := Option.some.inj hevent
    simp [step, setCall] at hrejected

end ReplayState

open ReplayState

/-! ## Runs -/

/-- **Every request is accepted at most once**, as the sender signed it, and a refused one leaves no
trace, in every run in which purges delete only the records of spent requests. -/
theorem accepted_once {hexdigest : String → List UInt8 → String}
    (hhash : ∀ secret, Function.Injective (hexdigest secret)) (secretOf : Uuid → Uuid → String)
    (tolerance : ℕ) (clock : Instant) (events : List ReplayEvent)
    (hunforged : Run.Along (step hexdigest secretOf tolerance) (Unforged hexdigest secretOf)
      (initial clock) events)
    (hpurges : Run.Along (step hexdigest secretOf tolerance) (PurgesStale tolerance)
      (initial clock) events) :
    Run.Always (step hexdigest secretOf tolerance) (ReplaySafe secretOf) (initial clock) events ∧
      Run.Along (step hexdigest secretOf tolerance)
        (RejectsSilently hexdigest secretOf tolerance) (initial clock) events := by
  have hstart : (initial clock).Sound secretOf tolerance ∧ (initial clock).Genuine hexdigest :=
    ⟨sound_initial secretOf tolerance clock, fun delivery hdelivery => by cases hdelivery⟩
  constructor
  · have halways := Run.always_of_along (I := fun state : ReplayState =>
      state.Sound secretOf tolerance ∧ state.Genuine hexdigest) (fun state event hstate hevent =>
        ⟨hstate.1.step hhash hstate.2 hevent.1 hevent.2, hstate.2.step event⟩)
      hstart (hunforged.and hpurges)
    intro before after hsplit
    obtain ⟨hsound, -⟩ := halways before after hsplit
    exact ⟨hsound.once, hsound.signed⟩
  · exact Run.along_of_mem fun event _ state => rejectsSilently state event

/-! ### A request from the future -/

def textDigest (secret : String) (bytes : List UInt8) : String :=
  secret ++ String.ofList (bytes.map byteChar)

lemma textDigest_injective (secret : String) : Function.Injective (textDigest secret) := by
  intro bytes bytes' h
  have htext := congrArg String.toList h
  simp only [textDigest, String.toList_append, String.toList_ofList] at htext
  exact byteChar_injective.list_map (List.append_cancel_left htext)

def earlyRequest : WebhookRequest :=
  ⟨1, 2, 3, [104, 105], 1000300,
    computeSignedEnvelope textDigest "key" [104, 105] 1000300⟩

/-- The request is accepted at once, its record is purged 301 seconds later, and a copy of it
arrives. -/
def purgedEarly : List ReplayEvent :=
  [.sign 1 2 [104, 105] 1000300, .verify 0 earlyRequest, .begin 0, .insert 0, .commit 0,
    .tick 301000000, .select 1 1 1000001000000, .delete 1, .verify 2 earlyRequest, .begin 2,
    .insert 2, .commit 2]

/-- The copy is accepted too. -/
theorem accepted_twice :
    (∀ secret, Function.Injective (textDigest secret)) ∧
      Run.Along (step textDigest (fun _ _ => "key") 300) (Unforged textDigest fun _ _ => "key")
        (initial 1000000000000) purgedEarly ∧
      ¬ Run.Always (step textDigest (fun _ _ => "key") 300) (ReplaySafe fun _ _ => "key")
        (initial 1000000000000) purgedEarly := by
  refine ⟨textDigest_injective, ?_, fun halways => ?_⟩
  · have hsigned : ∀ bytes, earlyRequest.signature = computeSignature textDigest "key" bytes →
        ∃ delivery ∈ [(⟨"key", [104, 105], 1000300, earlyRequest.signature⟩ : SignedDelivery)],
          delivery.secret = "key" ∧ delivery.signature = earlyRequest.signature :=
      fun _ _ => ⟨_, List.mem_singleton_self _, rfl, rfl⟩
    exact ⟨trivial, hsigned, trivial, trivial, trivial, trivial, trivial, trivial, hsigned, trivial,
      trivial, trivial, trivial⟩
  · have honce := (halways purgedEarly [] (List.append_nil _).symm).once
    have htwice : ¬ (Run.run (step textDigest (fun _ _ => "key") 300) (initial 1000000000000)
        purgedEarly).accepted.Nodup := by decide +kernel
    exact htwice honce

/-- The request is accepted, a copy is refused as a replay, the record is purged 700 seconds later,
and another copy is refused for its timestamp. -/
def purgedLate : List ReplayEvent :=
  [.sign 1 2 [104, 105] 1000300, .verify 0 earlyRequest, .begin 0, .insert 0, .commit 0,
    .verify 1 earlyRequest, .begin 1, .insert 1, .tick 700000000, .select 2 1 1000400000000,
    .delete 2, .verify 3 earlyRequest]

/-- It is accepted once, and the ledger is empty in the end. -/
theorem accepted_once_purgedLate :
    (Run.Always (step textDigest (fun _ _ => "key") 300) (ReplaySafe fun _ _ => "key")
        (initial 1000000000000) purgedLate ∧
      Run.Along (step textDigest (fun _ _ => "key") 300)
        (RejectsSilently textDigest (fun _ _ => "key") 300) (initial 1000000000000) purgedLate) ∧
      (Run.run (step textDigest (fun _ _ => "key") 300) (initial 1000000000000)
        purgedLate).accepted = [earlyRequest] ∧
      (Run.run (step textDigest (fun _ _ => "key") 300) (initial 1000000000000)
        purgedLate).ledger.committed = [] := by
  have hsigned : ∀ bytes, earlyRequest.signature = computeSignature textDigest "key" bytes →
      ∃ delivery ∈ [(⟨"key", [104, 105], 1000300, earlyRequest.signature⟩ : SignedDelivery)],
        delivery.secret = "key" ∧ delivery.signature = earlyRequest.signature :=
    fun _ _ => ⟨_, List.mem_singleton_self _, rfl, rfl⟩
  have haccepted : (Run.run (step textDigest (fun _ _ => "key") 300) (initial 1000000000000)
      (purgedLate.take 10)).accepted = [earlyRequest] := by decide +kernel
  have hcalls : ∀ m phase, (Run.run (step textDigest (fun _ _ => "key") 300)
      (initial 1000000000000) (purgedLate.take 10)).calls m = some phase →
        phase.request? ≠ some earlyRequest := by
    intro m phase hm
    have hended : ((Run.run (step textDigest (fun _ _ => "key") 300) (initial 1000000000000)
        (purgedLate.take 10)).calls m).all fun phase => phase.request?.isNone := by
      match m with
      | 0 => decide +kernel
      | 1 => decide +kernel
      | 2 => decide +kernel
      | m + 3 => rfl
    rw [hm] at hended
    intro hrequest
    rw [Option.all_some, hrequest] at hended
    cases hended
  refine ⟨accepted_once textDigest_injective (fun _ _ => "key") 300 1000000000000 purgedLate
    ⟨trivial, hsigned, trivial, trivial, trivial, hsigned, trivial, trivial, trivial, trivial,
      trivial, hsigned, trivial⟩
    ⟨trivial, trivial, trivial, trivial, trivial, trivial, trivial, trivial, trivial, trivial, ?_,
      trivial, trivial⟩, by decide +kernel, by decide +kernel⟩
  intro records _ record _ request hrequest _
  have hrequest' : request ∈ (Run.run (step textDigest (fun _ _ => "key") 300)
      (initial 1000000000000) (purgedLate.take 10)).accepted := hrequest
  rw [haccepted] at hrequest'
  obtain rfl := List.mem_singleton.mp hrequest'
  have hstale : 300 * 1000000 < (Run.run (step textDigest (fun _ _ => "key") 300)
      (initial 1000000000000) (purgedLate.take 10)).clock - earlyRequest.timestamp * 1000000 := by
    decide +kernel
  exact ⟨hstale, hcalls⟩

end SaasOs.Webhooks
