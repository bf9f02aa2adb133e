import SaasOs.Foundation.Run
import SaasOs.Schema.Tables

/-!
# Queued jobs

A worker starts a queued job with a number that is one higher than at the start before.  The wrapper
that `_register` has put around the handler checks the payload, calls the handler, and decides:
another attempt, or an entry in the dead-letter list.  A shutdown or a crash may interrupt an
attempt after any of its effects.
-/

namespace SaasOs.Jobs

/-! ## Payloads -/

/-- `JobKind`. -/
inductive JobKind
  | tenant
  | system

/-- What `getattr(payload, name, None)` comes to: it raises, or is `None`, a string, or another value,
which JSON can write or not. -/
inductive Attribute
  | raises
  | none
  | str (value : String)
  | other (serializable : Bool)
  deriving DecidableEq

inductive Payload
  | none
  | tenantJob (tenantId correlationId : Attribute)
  | other (typeName : String) (tenantId correlationId : Attribute)
  deriving DecidableEq

namespace Payload

def tenantId : Payload → Attribute
  | none => .none
  | tenantJob tenantId _ => tenantId
  | other _ tenantId _ => tenantId

def correlationId : Payload → Attribute
  | none => .none
  | tenantJob _ correlationId => correlationId
  | other _ _ correlationId => correlationId

/-- `type(payload).__name__`. -/
def typeName : Payload → String
  | none => "NoneType"
  | tenantJob _ _ => "TenantJobPayload"
  | other typeName _ _ => typeName

end Payload

section Wrapper

variable (parseUuid : String → Option Uuid)

/-- `_contract_violation`: the reason, and the tenant. -/
def contractViolation (kind : JobKind) (payload : Payload) : Option String × Option Uuid :=
  match kind, payload with
  | .system, .none => (none, none)
  | .system, payload => (some ("system job requires no payload, got " ++ payload.typeName), none)
  | .tenant, .tenantJob (.str value) _ =>
    match parseUuid value with
    | none => (some "tenant job requires a UUID tenant_id", none)
    | some id =>
      if uuidStr id ≠ value then (some "tenant job requires a canonical UUID tenant_id", none)
      else (none, some id)
  | .tenant, .tenantJob _ _ => (some "tenant job requires a UUID tenant_id", none)
  | .tenant, payload =>
    (some ("tenant job requires a TenantJobPayload, got " ++ payload.typeName), none)

def Matches : JobKind → Payload → Prop
  | .system, payload => payload = .none
  | .tenant, payload => ∃ id value correlationId,
      payload = .tenantJob (.str value) correlationId ∧ parseUuid value = some id ∧
        uuidStr id = value

/-! ## Attempts -/

/-- An exception, as it is looked at: its class is one of `Exception`, `TimeoutError` and
`NonRetriableJobError` (with its `job_retry_safe`) or not, and `str` of it may raise. -/
structure Raised where
  typeName : String
  text : Option String
  isException : Bool
  isTimeout : Bool
  retrySafe : Option Bool
  deriving DecidableEq

/-- How the handler ends; the deadline may have expired. -/
inductive HandlerEnding
  | returned
  | raised (error : Raised) (expired : Bool)

def timedOut (error : Raised) (expired : Bool) : Bool := error.isTimeout && expired

def notRetriable (error : Raised) : Bool := error.retrySafe == some false

/-- `DeadLetterEntry`, without its time. -/
structure DeadLetterEntry where
  functionName : String
  tenantId : Attribute
  error : String
  attempts : ℕ
  deriving DecidableEq

/-- A registered job: the arguments of `_with_retry_and_dead_letter`. -/
structure Job where
  functionName : String
  kind : JobKind
  maxTries : ℕ
  atLeastOne : 1 ≤ maxTries
  backoffBase : ℕ

/-- What an attempt does that others can see. -/
inductive Effect
  | called (payload : Payload)
  | returned
  | failed (error : Raised) (expired : Bool)
  | recorded (entry : DeadLetterEntry)
  deriving DecidableEq

/-- How the coroutine ends: it returns, it raises `Retry`, or it raises anything else. -/
inductive Disposition
  | returned
  | retry (defer : ℕ)
  | raised

/-- `record_dead_letter`: the entry, if its JSON can be written. -/
def recordDeadLetter (functionName : String) (payload : Payload) (typeName : String)
    (text : Option String) (attempts : ℕ) : Option DeadLetterEntry :=
  match payload.tenantId, text with
  | .raises, _ | .other false, _ | _, none => none
  | tenantId, some text => some ⟨functionName, tenantId, typeName ++ ": " ++ text, attempts⟩

def isRetried (job : Job) (scheduled : Bool) (jobTry : ℕ) (error : Raised) (expired : Bool) : Bool :=
  !scheduled && !timedOut error expired && !notRetriable error && jobTry < job.maxTries

def afterFailure (job : Job) (scheduled : Bool) (jobTry : ℕ) (payload : Payload) (error : Raised)
    (expired : Bool) : List Effect × Disposition :=
  if !error.isException then ([], .raised)
  else if isRetried job scheduled jobTry error expired then
    ([], .retry (job.backoffBase * 2 ^ (jobTry - 1)))
  else
    ((recordDeadLetter job.functionName payload error.typeName error.text jobTry).toList.map
      .recorded, .raised)

/-- `wrapped`: the effects of one attempt in turn, and how the coroutine ends. -/
def wrapped (job : Job) (scheduled : Bool) (jobTry : ℕ) (payload : Payload) (ending : HandlerEnding) :
    List Effect × Disposition :=
  if payload.tenantId = .raises ∨ payload.correlationId = .raises then ([], .raised)
  else match contractViolation parseUuid job.kind payload with
    | (some reason, _) =>
      ((recordDeadLetter job.functionName payload "JobContractViolationError"
        (some ("Job '" ++ job.functionName ++ "' contract violation: " ++ reason))
        jobTry).toList.map .recorded, .raised)
    | (none, _) =>
      match ending with
      | .returned => ([.called payload, .returned], .returned)
      | .raised error expired =>
        let (effects, disposition) := afterFailure job scheduled jobTry payload error expired
        (.called payload :: .failed error expired :: effects, disposition)

/-! ## Runs -/

/-- An attempt: how the handler would end, and after how many effects the attempt is interrupted. -/
structure Attempt where
  ending : HandlerEnding
  cut : Option ℕ

/-- The job in the queue: how often it was started, what happened, and whether it is still there. -/
structure QueueState where
  tries : ℕ
  log : List Effect
  queued : Bool

def QueueState.start : QueueState := ⟨0, [], true⟩

variable (job : Job) (payload : Payload)

def effects (jobTry : ℕ) (attempt : Attempt) : List Effect :=
  match attempt.cut with
  | none => (wrapped parseUuid job false jobTry payload attempt.ending).1
  | some k => (wrapped parseUuid job false jobTry payload attempt.ending).1.take k

def staysQueued (jobTry : ℕ) (attempt : Attempt) : Bool :=
  match attempt.cut, (wrapped parseUuid job false jobTry payload attempt.ending).2 with
  | some _, _ => true
  | none, .retry _ => true
  | none, .returned => false
  | none, .raised => false

/-- A worker starts the job, with the number of tries that `_register` has told it. -/
def startJob (state : QueueState) (attempt : Attempt) : QueueState :=
  if !state.queued then state
  else if job.maxTries < state.tries + 1 then { state with queued := false }
  else
    { tries := state.tries + 1
      log := state.log ++ effects parseUuid job payload (state.tries + 1) attempt
      queued := staysQueued parseUuid job payload (state.tries + 1) attempt }

/-! ## What is promised -/

def Effect.isRecorded : Effect → Bool
  | recorded _ => true
  | called _ => false
  | returned => false
  | failed _ _ => false

def Effect.isCall : Effect → Bool
  | called _ => true
  | recorded _ => false
  | returned => false
  | failed _ _ => false

def Effect.isFinal : Effect → Bool
  | failed error expired => timedOut error expired || notRetriable error
  | called _ => false
  | returned => false
  | recorded _ => false

/-- **What is to hold of a job in every state.** -/
structure Accounted (state : QueueState) : Prop where
  told : state.queued = false →
    state.log.count .returned = 1 ∨ state.log.countP Effect.isRecorded = 1
  matching : ∀ given, .called given ∈ state.log → Matches parseUuid job.kind given
  notAgain : ∀ before last after, state.log = before ++ last :: after → last.isFinal = true →
    ∀ effect ∈ after, effect.isCall = false
  calls : state.log.countP Effect.isCall ≤ job.maxTries

def Effect.isOver : Effect → Bool
  | returned => true
  | recorded _ => true
  | called _ => false
  | failed error expired => timedOut error expired || notRetriable error

/-- The handler returns, or raises an `Exception` after which it is called again or that has a
text. -/
def HandlerEnding.isTold (jobTry : ℕ) : HandlerEnding → Bool
  | returned => true
  | raised error expired =>
    error.isException && (isRetried job false jobTry error expired || error.text.isSome)

/-- An interruption comes early enough: nothing has come to an end, and another attempt is left; or
late enough: the handler has returned or the entry was written, and no attempt is left. -/
def CutInTime (state : QueueState) (attempt : Attempt) : Prop :=
  (∀ effect ∈ effects parseUuid job payload (state.tries + 1) attempt, effect.isOver = false) ∧
      state.tries + 1 < job.maxTries ∨
    (∃ effect ∈ effects parseUuid job payload (state.tries + 1) attempt,
      effect = .returned ∨ effect.isRecorded = true) ∧ state.tries + 1 = job.maxTries

def InTime (state : QueueState) (attempt : Attempt) : Prop :=
  if attempt.cut = none then attempt.ending.isTold job (state.tries + 1) = true
  else CutInTime parseUuid job payload state attempt

instance (state : QueueState) (attempt : Attempt) :
    Decidable (CutInTime parseUuid job payload state attempt) :=
  inferInstanceAs (Decidable (_ ∧ _ ∨ _ ∧ _))

instance (state : QueueState) (attempt : Attempt) :
    Decidable (InTime parseUuid job payload state attempt) :=
  inferInstanceAs (Decidable (if attempt.cut = none then
    attempt.ending.isTold job (state.tries + 1) = true
    else CutInTime parseUuid job payload state attempt))

/-- The dead-letter entry of the payload can be written. -/
def Payload.Writable (payload : Payload) : Prop :=
  payload.tenantId ≠ .raises ∧ payload.correlationId ≠ .raises ∧ payload.tenantId ≠ .other false

instance (payload : Payload) : Decidable payload.Writable :=
  inferInstanceAs (Decidable (_ ∧ _ ∧ _))

/-! ## One attempt -/

def TellsOf (log : List Effect) : Prop :=
  log.count .returned = 1 ∨ log.countP Effect.isRecorded = 1

variable {parseUuid job payload} {scheduled : Bool} {jobTry : ℕ} {ending : HandlerEnding}
  {error : Raised} {expired : Bool} {state : QueueState} {attempt : Attempt}

lemma matches_of_contractViolation {kind : JobKind} {tenant : Option Uuid}
    (h : contractViolation parseUuid kind payload = (none, tenant)) :
    Matches parseUuid kind payload := by
  unfold contractViolation at h
  split at h
  · rfl
  · cases h
  · next value correlationId =>
    split at h
    · cases h
    · next id hparse =>
      split at h
      · cases h
      · next hcanonical => exact ⟨id, value, correlationId, rfl, hparse, not_not.mp hcanonical⟩
  · cases h
  · cases h

lemma afterFailure_effects (job : Job) (scheduled : Bool) (jobTry : ℕ) (payload : Payload)
    (error : Raised) (expired : Bool) :
    (afterFailure job scheduled jobTry payload error expired).1 = [] ∨
      ∃ entry, (afterFailure job scheduled jobTry payload error expired).1 = [.recorded entry] := by
  unfold afterFailure
  split
  · exact .inl rfl
  · split
    · exact .inl rfl
    · cases recordDeadLetter job.functionName payload error.typeName error.text jobTry with
      | none => exact .inl rfl
      | some entry => exact .inr ⟨entry, rfl⟩

lemma wrapped_effects (parseUuid : String → Option Uuid) (job : Job) (scheduled : Bool) (jobTry : ℕ)
    (payload : Payload) (ending : HandlerEnding) :
    let full := (wrapped parseUuid job scheduled jobTry payload ending).1
    full = [] ∨ (∃ entry, full = [.recorded entry]) ∨
      Matches parseUuid job.kind payload ∧ (full = [.called payload, .returned] ∨
        (∃ error expired, full = [.called payload, .failed error expired]) ∨
        ∃ error expired entry,
          full = [.called payload, .failed error expired, .recorded entry]) := by
  unfold wrapped
  split
  · exact .inl rfl
  · split
    · next reason tenant _ =>
      cases recordDeadLetter job.functionName payload "JobContractViolationError"
          (some ("Job '" ++ job.functionName ++ "' contract violation: " ++ reason)) jobTry with
      | none => exact .inl rfl
      | some entry => exact .inr (.inl ⟨entry, rfl⟩)
    · next hmatches =>
      refine .inr (.inr ⟨matches_of_contractViolation hmatches, ?_⟩)
      split
      · exact .inl rfl
      · next error expired =>
        refine .inr ?_
        rcases afterFailure_effects job scheduled jobTry payload error expired with
          hnone | ⟨entry, hentry⟩
        · exact .inl ⟨error, expired, by dsimp only; rw [hnone]⟩
        · exact .inr ⟨error, expired, entry, by dsimp only; rw [hentry]⟩

lemma exists_recordDeadLetter (h : payload.Writable) (functionName typeName text : String)
    (attempts : ℕ) : ∃ entry, recordDeadLetter functionName payload typeName (some text) attempts =
      some entry := by
  unfold recordDeadLetter
  split
  · next heq => exact absurd heq h.1
  · next heq => exact absurd heq h.2.2
  · next htext _ _ => cases htext
  · exact ⟨_, rfl⟩

lemma of_afterFailure_retry {k : ℕ}
    (h : (afterFailure job scheduled jobTry payload error expired).2 = .retry k) :
    isRetried job scheduled jobTry error expired = true ∧
      (afterFailure job scheduled jobTry payload error expired).1 = [] := by
  unfold afterFailure at h ⊢
  split at h
  · cases h
  · next hexception =>
    split at h
    · next hretried => exact ⟨hretried, by rw [if_neg hexception, if_pos hretried]⟩
    · cases h

lemma of_wrapped_retry {k : ℕ}
    (h : (wrapped parseUuid job false jobTry payload ending).2 = .retry k) :
    (∀ effect ∈ (wrapped parseUuid job false jobTry payload ending).1, effect.isOver = false) ∧
      jobTry < job.maxTries := by
  by_cases hread : payload.tenantId = .raises ∨ payload.correlationId = .raises
  · unfold wrapped at h
    rw [if_pos hread] at h
    cases h
  · unfold wrapped at h ⊢
    rw [if_neg hread] at h ⊢
    split at h
    · cases h
    · cases ending with
      | returned => cases h
      | raised error expired =>
        obtain ⟨hretried, hnone⟩ := of_afterFailure_retry h
        simp only [isRetried, Bool.not_false, Bool.true_and, Bool.and_eq_true, Bool.not_eq_true',
          decide_eq_true_eq] at hretried
        refine ⟨?_, hretried.2⟩
        dsimp only
        rw [hnone]
        simp [Effect.isOver, hretried.1.1, hretried.1.2]

lemma tellsOf_wrapped (h : payload.Writable) (htold : ending.isTold job jobTry = true)
    (hleaves : ∀ k, (wrapped parseUuid job false jobTry payload ending).2 ≠ .retry k) :
    TellsOf (wrapped parseUuid job false jobTry payload ending).1 := by
  unfold wrapped at hleaves ⊢
  rw [if_neg (not_or.mpr ⟨h.1, h.2.1⟩)] at hleaves ⊢
  split
  · next reason _ _ =>
    obtain ⟨entry, hentry⟩ := exists_recordDeadLetter h job.functionName "JobContractViolationError"
      ("Job '" ++ job.functionName ++ "' contract violation: " ++ reason) jobTry
    rw [hentry]
    exact .inr rfl
  · next hcontract =>
    rw [hcontract] at hleaves
    cases ending with
    | returned => exact .inl rfl
    | raised error expired =>
      simp only [HandlerEnding.isTold, Bool.and_eq_true, Bool.or_eq_true] at htold
      have hexception : ¬ (!error.isException) = true := by simp [htold.1]
      dsimp only at hleaves ⊢
      unfold afterFailure at hleaves ⊢
      rw [if_neg hexception] at hleaves ⊢
      split at hleaves
      · exact absurd rfl (hleaves _)
      · next hretried =>
        obtain ⟨text, htext⟩ := Option.isSome_iff_exists.mp (htold.2.resolve_left hretried)
        obtain ⟨entry, hentry⟩ := exists_recordDeadLetter h job.functionName error.typeName text
          jobTry
        rw [if_neg hretried, htext, hentry]
        exact .inr rfl

lemma mem_wrapped_of_mem_effects {effect : Effect}
    (h : effect ∈ effects parseUuid job payload jobTry attempt) :
    effect ∈ (wrapped parseUuid job false jobTry payload attempt.ending).1 := by
  unfold effects at h
  split at h
  · exact h
  · exact List.mem_of_mem_take h

lemma effects_sublist :
    (effects parseUuid job payload jobTry attempt).Sublist
      (wrapped parseUuid job false jobTry payload attempt.ending).1 := by
  unfold effects
  split
  · exact List.Sublist.refl _
  · exact List.take_sublist _ _

lemma effects_calls :
    (effects parseUuid job payload jobTry attempt).countP Effect.isCall ≤ 1 ∧
      ∀ given, .called given ∈ effects parseUuid job payload jobTry attempt →
        Matches parseUuid job.kind given := by
  have hfull : (wrapped parseUuid job false jobTry payload attempt.ending).1.countP
      Effect.isCall ≤ 1 ∧ ∀ given, .called given ∈
        (wrapped parseUuid job false jobTry payload attempt.ending).1 →
          Matches parseUuid job.kind given := by
    rcases wrapped_effects parseUuid job false jobTry payload attempt.ending with
      hnone | ⟨entry, hentry⟩ | ⟨hmatches, hcall | ⟨error, expired, hcall⟩ |
        ⟨error, expired, entry, hcall⟩⟩
    · simp [hnone]
    · simp [hentry, Effect.isCall]
    · simp [hcall, List.countP_cons, Effect.isCall, hmatches]
    · simp [hcall, List.countP_cons, Effect.isCall, hmatches]
    · simp [hcall, List.countP_cons, Effect.isCall, hmatches]
  exact ⟨(effects_sublist.countP_le).trans hfull.1,
    fun given hgiven => hfull.2 given (mem_wrapped_of_mem_effects hgiven)⟩

lemma tellsOf_effects {effect : Effect} (h : effect ∈ effects parseUuid job payload jobTry attempt)
    (hends : effect = .returned ∨ effect.isRecorded = true) :
    TellsOf (effects parseUuid job payload jobTry attempt) := by
  have hfull : (wrapped parseUuid job false jobTry payload attempt.ending).1.count .returned ≤ 1 ∧
      (wrapped parseUuid job false jobTry payload attempt.ending).1.countP Effect.isRecorded ≤ 1 := by
    rcases wrapped_effects parseUuid job false jobTry payload attempt.ending with
      hnone | ⟨entry, hentry⟩ | ⟨-, hcall | ⟨error, expired, hcall⟩ | ⟨error, expired, entry, hcall⟩⟩
    · simp [hnone]
    · simp [hentry, Effect.isRecorded]
    · simp [hcall, Effect.isRecorded]
    · simp [hcall, Effect.isRecorded]
    · simp [hcall, Effect.isRecorded]
  rcases hends with rfl | hrecorded
  · exact .inl (le_antisymm ((effects_sublist.count_le _).trans hfull.1)
      (List.count_pos_iff.mpr h))
  · exact .inr (le_antisymm (effects_sublist.countP_le.trans hfull.2)
      (List.countP_pos_iff.mpr ⟨effect, h, hrecorded⟩))

lemma effects_notAgain {before after : List Effect} {last : Effect}
    (h : effects parseUuid job payload jobTry attempt = before ++ last :: after) :
    ∀ effect ∈ after, effect.isCall = false := by
  have hfull : ∀ effect ∈ (wrapped parseUuid job false jobTry payload attempt.ending).1.tail,
      effect.isCall = false := by
    rcases wrapped_effects parseUuid job false jobTry payload attempt.ending with
      hnone | ⟨entry, hentry⟩ | ⟨-, hcall | ⟨error, expired, hcall⟩ | ⟨error, expired, entry, hcall⟩⟩
    · simp [hnone]
    · simp [hentry]
    · simp [hcall, Effect.isCall]
    · simp [hcall, Effect.isCall]
    · simp [hcall, Effect.isCall]
  intro effect heffect
  have htail : effect ∈ (effects parseUuid job payload jobTry attempt).tail := by
    rw [h]
    cases before with
    | nil => exact heffect
    | cons first before => exact List.mem_append_right _ (List.mem_cons_of_mem _ heffect)
  exact hfull effect (effects_sublist.tail.subset htail)

/-! ## Runs -/

/-- What every state of a run satisfies. -/
structure Sound (parseUuid : String → Option Uuid) (job : Job) (state : QueueState) : Prop where
  leaves : state.queued = false → TellsOf state.log
  stays : state.queued = true →
    (∀ effect ∈ state.log, effect.isOver = false) ∧ state.tries < job.maxTries ∨
      TellsOf state.log ∧ state.tries = job.maxTries
  matching : ∀ given, .called given ∈ state.log → Matches parseUuid job.kind given
  notAgain : ∀ before last after, state.log = before ++ last :: after → last.isFinal = true →
    ∀ effect ∈ after, effect.isCall = false
  calls : state.log.countP Effect.isCall ≤ state.tries
  tries : state.tries ≤ job.maxTries

lemma sound_start : Sound parseUuid job .start where
  leaves := nofun
  stays _ := .inl ⟨nofun, job.atLeastOne⟩
  matching _ := nofun
  notAgain before last after h := by
    cases before <;> cases h
  calls := le_rfl
  tries := Nat.zero_le _

lemma Effect.isOver_of_isFinal {effect : Effect} (h : effect.isFinal = true) :
    effect.isOver = true := by
  cases effect with
  | failed error expired => exact h
  | called | returned | recorded => cases h

lemma tellsOf_append {log rest : List Effect} (h : ∀ effect ∈ log, effect.isOver = false) :
    TellsOf (log ++ rest) ↔ TellsOf rest := by
  have hreturned : log.count .returned = 0 := List.count_eq_zero.mpr fun hmem => by
    cases h _ hmem
  have hrecorded : log.countP Effect.isRecorded = 0 := List.countP_eq_zero.mpr fun effect hmem => by
    have hover := h effect hmem
    cases effect with
    | recorded entry => cases hover
    | called | returned | failed => exact Bool.false_ne_true
  simp only [TellsOf, List.count_append, List.countP_append, hreturned, hrecorded, zero_add]

lemma Sound.another (h : Sound parseUuid job state) (hwritable : payload.Writable)
    (hopen : ∀ effect ∈ state.log, effect.isOver = false) (hleft : state.tries < job.maxTries)
    (htime : InTime parseUuid job payload state attempt) :
    Sound parseUuid job
      { tries := state.tries + 1
        log := state.log ++ effects parseUuid job payload (state.tries + 1) attempt
        queued := staysQueued parseUuid job payload (state.tries + 1) attempt } where
  leaves hqueued := by
    refine (tellsOf_append hopen).mpr ?_
    unfold InTime at htime
    unfold staysQueued at hqueued
    unfold effects
    split at hqueued
    · cases hqueued
    · cases hqueued
    · next hcut hreturned =>
      rw [if_pos hcut] at htime
      rw [hcut]
      exact tellsOf_wrapped hwritable htime fun k hk => by rw [hreturned] at hk; cases hk
    · next hcut hraised =>
      rw [if_pos hcut] at htime
      rw [hcut]
      exact tellsOf_wrapped hwritable htime fun k hk => by rw [hraised] at hk; cases hk
  stays hqueued := by
    have hlog : (∀ effect ∈ effects parseUuid job payload (state.tries + 1) attempt,
        effect.isOver = false) → ∀ effect ∈ state.log ++
          effects parseUuid job payload (state.tries + 1) attempt, effect.isOver = false := by
      intro hnew effect heffect
      rcases List.mem_append.mp heffect with heffect | heffect
      · exact hopen effect heffect
      · exact hnew effect heffect
    unfold InTime at htime
    unfold staysQueued at hqueued
    split at hqueued
    · next hcut =>
      rw [if_neg (by rw [hcut]; exact nofun)] at htime
      rcases htime with ⟨hnew, htries⟩ | ⟨⟨effect, heffect, hends⟩, htries⟩
      · exact .inl ⟨hlog hnew, htries⟩
      · exact .inr ⟨(tellsOf_append hopen).mpr (tellsOf_effects heffect hends), htries⟩
    · next hcut hretry =>
      obtain ⟨hnew, htries⟩ := of_wrapped_retry hretry
      exact .inl ⟨hlog fun effect heffect => hnew effect (mem_wrapped_of_mem_effects heffect), htries⟩
    · cases hqueued
    · cases hqueued
  matching given hgiven := by
    rcases List.mem_append.mp hgiven with hgiven | hgiven
    · exact h.matching given hgiven
    · exact effects_calls.2 given hgiven
  notAgain before last after hlog hfinal := by
    -- the last effect is of this attempt, as those before have brought nothing to an end
    rcases List.append_eq_append_iff.mp hlog with ⟨rest, rfl, hrest⟩ | ⟨rest, hold, hrest⟩
    · exact effects_notAgain hrest
    · cases rest with
      | nil =>
        have hfirst : effects parseUuid job payload _ _ = [] ++ last :: after := hrest.symm
        exact effects_notAgain hfirst
      | cons first rest =>
        obtain ⟨rfl, -⟩ := List.cons_eq_cons.mp hrest
        have hmem : last ∈ state.log := by simp [hold]
        exact absurd (Effect.isOver_of_isFinal hfinal) (Bool.eq_false_iff.mp (hopen last hmem))
  calls := by
    rw [List.countP_append]
    exact Nat.add_le_add h.calls effects_calls.1
  tries := hleft

lemma Sound.startJob (h : Sound parseUuid job state) (hwritable : payload.Writable)
    (htime : InTime parseUuid job payload state attempt) :
    Sound parseUuid job (startJob parseUuid job payload state attempt) := by
  unfold Jobs.startJob
  split
  · exact h
  · next hqueued =>
    have hstays := h.stays (by simpa using hqueued)
    split
    · next hexhausted =>
      have hends := hstays.resolve_left fun hopen => by omega
      exact ⟨fun _ => hends.1, nofun, h.matching, h.notAgain, h.calls, h.tries⟩
    · next hleft =>
      have hopen := hstays.resolve_right fun hends => by omega
      exact h.another hwritable hopen.1 hopen.2 htime

lemma Sound.accounts (h : Sound parseUuid job state) : Accounted parseUuid job state where
  told := h.leaves
  matching := h.matching
  notAgain := h.notAgain
  calls := h.calls.trans h.tries

end Wrapper

/-! ## Every run -/

/-- **No queued job disappears silently**, as long as its payload can be written and every start is
in time. -/
theorem accounted (parseUuid : String → Option Uuid) (job : Job) (payload : Payload)
    (hwritable : payload.Writable) (attempts : List Attempt)
    (htime : Run.Along (startJob parseUuid job payload) (InTime parseUuid job payload) .start
      attempts) :
    Run.Always (startJob parseUuid job payload) (Accounted parseUuid job) .start attempts := by
  have hsound : Run.Always (startJob parseUuid job payload) (Sound parseUuid job) .start attempts :=
    Run.always_of_along (fun _ _ h htime => h.startJob hwritable htime) sound_start htime
  exact fun before after heq => (hsound before after heq).accounts

def nightlyJob : Job where
  functionName := "nightly"
  kind := .system
  maxTries := 3
  atLeastOne := by decide
  backoffBase := 1

def passingError : Raised := ⟨"OSError", some "unreachable", true, false, none⟩

/-- A shutdown, a failure and a return. -/
theorem accounted_returned :
    Run.Always (startJob (fun _ => none) nightlyJob .none) (Accounted (fun _ => none) nightlyJob)
      .start [⟨.returned, some 0⟩, ⟨.raised passingError false, none⟩, ⟨.returned, none⟩] :=
  accounted (fun _ => none) nightlyJob .none (by decide) _ (by decide +kernel)

/-- Two failures, and a shutdown while the handler is called for the last time: the next start drops
the job. -/
theorem lastAttempt_lost :
    ¬ Accounted (fun _ => none) nightlyJob (Run.run (startJob (fun _ => none) nightlyJob .none)
      .start [⟨.raised passingError false, none⟩, ⟨.raised passingError false, none⟩,
        ⟨.returned, some 1⟩, ⟨.returned, none⟩]) := by
  intro h
  have htold := h.told (by decide +kernel)
  revert htold
  decide +kernel

end SaasOs.Jobs
