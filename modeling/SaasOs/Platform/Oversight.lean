import SaasOs.Foundation.Run
import SaasOs.Platform.Authorization

/-!
# Oversight reads

An oversight read runs in two transactions: the attempt, whose row is committed before anything is
read, and the read, which authorizes again, reads, and writes the completion row.  Every statement
and every commit may fail, and between any two of them the authority of the caller may change.
-/

namespace SaasOs.Oversight

/-! ## Requests and rows -/

/-- A row of the operation table, as far as an oversight read uses it. -/
structure OversightOperation where
  key : String
  auditAction : String
  permission : Option PlatformPermission
  systemAuthorities : List SystemAuthority

/-- `authorize_platform_caller` accepts the caller. -/
def authorizes (db : Tables) (operation : OversightOperation) : Caller → Bool
  | .system authority => operation.systemAuthorities.contains authority
  | .serviceAccount _ _ => false
  | .user userId =>
    match operation.permission with
    | none => false
    | some permission => (db.platformCan userId permission).val

inductive PlatformAuditOutcome
  | success
  | denied
  | failure
  deriving DecidableEq

/-- The metadata of a row: of the request, or of what was returned. -/
inductive AuditMetadata
  | none
  | request (text : String)
  | completion (attemptId : Uuid) (returned : ℕ)

structure PlatformAuditLogEntry where
  id : Uuid
  caller : Caller
  action : String
  targetType : String
  targetId : Option String
  targetTenantId : Option Uuid
  outcome : PlatformAuditOutcome
  reason : Option String
  metadata : AuditMetadata

/-- The arguments of `run_oversight_read`, without the read function. -/
structure OversightRequest where
  caller : Caller
  operation : OversightOperation
  targetType : String
  targetId : Option String
  targetUserId : Option Uuid
  requestMetadata : Option String
  recordsFailure : Bool

structure OversightOutcome (Value : Type) where
  value : Value
  returned : ℕ
  targetId : Option String
  targetTenantId : Option Uuid
  targetUserId : Option Uuid

def oversightAttemptSuffix : String := "_attempt"

def oversightAttemptAction (operation : OversightOperation) : String :=
  operation.auditAction ++ oversightAttemptSuffix

def rowTarget (targetType : String) (targetId : Option String) (targetUserId : Option Uuid)
    (resolved : String × Option String) : String × Option String :=
  match targetUserId with
  | none => (targetType, targetId)
  | some _ => resolved

def attemptEntry (request : OversightRequest) (id : Uuid) (resolved : String × Option String) :
    PlatformAuditLogEntry where
  id := id
  caller := request.caller
  action := oversightAttemptAction request.operation
  targetType := (rowTarget request.targetType request.targetId request.targetUserId resolved).1
  targetId := (rowTarget request.targetType request.targetId request.targetUserId resolved).2
  targetTenantId := none
  outcome := .success
  reason := none
  metadata := match request.requestMetadata with
    | none => .none
    | some text => .request text

variable {Value : Type}

def completionUserId (request : OversightRequest) (outcome : OversightOutcome Value) : Option Uuid :=
  outcome.targetUserId.or request.targetUserId

def completionEntry (request : OversightRequest) (attemptId : Uuid)
    (outcome : OversightOutcome Value) (id : Uuid) (resolved : String × Option String) :
    PlatformAuditLogEntry where
  id := id
  caller := request.caller
  action := request.operation.auditAction
  targetType := (rowTarget request.targetType (outcome.targetId.or request.targetId)
    (completionUserId request outcome) resolved).1
  targetId := (rowTarget request.targetType (outcome.targetId.or request.targetId)
    (completionUserId request outcome) resolved).2
  targetTenantId := outcome.targetTenantId
  outcome := .success
  reason := none
  metadata := .completion attemptId outcome.returned

def refusalEntry (request : OversightRequest) (outcome : PlatformAuditOutcome) (code : String)
    (id : Uuid) (resolved : String × Option String) : PlatformAuditLogEntry where
  id := id
  caller := request.caller
  action := request.operation.auditAction
  targetType := (rowTarget request.targetType request.targetId request.targetUserId resolved).1
  targetId := (rowTarget request.targetType request.targetId request.targetUserId resolved).2
  targetTenantId := none
  outcome := outcome
  reason := some code
  metadata := .none

/-! ## The system -/

inductive Stage
  | attempt
  | read

inductive Cause
  | statementTimeout
  | other (name : String)

/-- What a call raises: a refusal with its code, a timeout, or anything else. -/
inductive OversightError
  | refusal (code : String)
  | timeout (stage : Stage)
  | other (name : String)

inductive ReadResult (Value : Type)
  | returned (outcome : OversightOutcome Value)
  | refuses (code : String)
  | fails (cause : Cause)

/-- Where a call is: it has begun; the attempt's transaction is open, has authorized the caller, has
written its row, was committed; the same for the read, which reads before it writes; the call was
refused or has failed, and is to record it; it has returned or raised. -/
inductive OversightPhase (Value : Type)
  | called
  | attempting
  | attemptAuthorized
  | attemptRecorded (entry : PlatformAuditLogEntry)
  | attempted (attemptId : Uuid)
  | reading (attemptId : Uuid)
  | readAuthorized (attemptId : Uuid)
  | read (attemptId : Uuid) (outcome : OversightOutcome Value)
  | completionRecorded (outcome : OversightOutcome Value) (entry : PlatformAuditLogEntry)
  | refused (code : String)
  | failed (error : OversightError)
  | returned (value : Value)
  | raised (error : OversightError)

/-- What has happened in a call, in turn. -/
inductive Happening (Value : Type)
  | decided (stage : Stage) (db : Tables)
  | committed (stage : Stage)
  | read (result : ReadResult Value)

structure OversightCall (Value : Type) where
  request : OversightRequest
  phase : OversightPhase Value
  log : List (Happening Value)

/-- The tables that decide on authority, the rows that were committed (with the call that wrote
them), and the calls. -/
structure OversightState (Value : Type) where
  db : Tables
  auditLog : List (ℕ × PlatformAuditLogEntry)
  calls : ℕ → Option (OversightCall Value)

/-- How the next statement or commit of a call goes: it fails; it succeeds, with the id and the
target of a row that it writes; or, where the read function is next, what that comes to. -/
inductive Progress (Value : Type)
  | fails (cause : Cause)
  | succeeds (newId : Uuid) (resolved : String × Option String)
  | reads (result : ReadResult Value)

/-- An event: others change the tables, a call begins, or goes on. -/
inductive OversightEvent (Value : Type)
  | others (db : Tables)
  | call (n : ℕ) (request : OversightRequest)
  | proceed (n : ℕ) (progress : Progress Value)

def Cause.error (stage : Stage) : Cause → OversightError
  | statementTimeout => .timeout stage
  | other name => .other name

def OversightError.code : OversightError → String
  | timeout _ => "statement_timeout"
  | refusal _ => "error"
  | other _ => "error"

/-- `PlatformNotAuthorizedError.code`. -/
def notAuthorized : String := "not_authorized"

def afterReadFailure (request : OversightRequest) (cause : Cause) : OversightPhase Value :=
  if request.recordsFailure then .failed (cause.error .read) else .raised (cause.error .read)

namespace OversightState

/-- The call at `n` enters a phase, with what has happened. -/
def enter (state : OversightState Value) (n : ℕ) (call : OversightCall Value)
    (phase : OversightPhase Value) (happened : List (Happening Value)) : OversightState Value :=
  { state with
    calls := Function.update state.calls n
      (some { call with phase := phase, log := call.log ++ happened }) }

/-- A transaction of the call at `n` commits its row. -/
def commit (state : OversightState Value) (n : ℕ) (entry : PlatformAuditLogEntry) :
    OversightState Value :=
  { state with auditLog := state.auditLog ++ [(n, entry)] }

def proceed (state : OversightState Value) (n : ℕ) (call : OversightCall Value)
    (progress : Progress Value) : OversightState Value :=
  match call.phase, progress with
  -- `require_oversight_caller`, and the statement timeout
  | .called, .succeeds _ _ =>
    match call.request.caller with
    | .serviceAccount _ _ => state.enter n call (.raised (.refusal notAuthorized)) []
    | .user _ | .system _ => state.enter n call .attempting []
  | .called, .fails cause | .attempting, .fails cause | .attemptAuthorized, .fails cause
  | .attemptRecorded _, .fails cause =>
    state.enter n call (.raised (cause.error .attempt)) []
  | .attempting, .succeeds _ _ =>
    if authorizes state.db call.request.operation call.request.caller then
      state.enter n call .attemptAuthorized [.decided .attempt state.db]
    else state.enter n call (.refused notAuthorized) [.decided .attempt state.db]
  | .attemptAuthorized, .succeeds newId resolved =>
    state.enter n call (.attemptRecorded (attemptEntry call.request newId resolved)) []
  | .attemptRecorded entry, .succeeds _ _ =>
    (state.commit n entry).enter n call (.attempted entry.id) [.committed .attempt]
  | .attempted attemptId, .succeeds _ _ => state.enter n call (.reading attemptId) []
  | .reading attemptId, .succeeds _ _ =>
    if authorizes state.db call.request.operation call.request.caller then
      state.enter n call (.readAuthorized attemptId) [.decided .read state.db]
    else state.enter n call (.refused notAuthorized) [.decided .read state.db]
  | .readAuthorized attemptId, .reads (.returned outcome) =>
    state.enter n call (.read attemptId outcome) [.read (.returned outcome)]
  | .readAuthorized _, .reads (.refuses code) =>
    state.enter n call (.refused code) [.read (.refuses code)]
  | .readAuthorized _, .reads (.fails cause) =>
    state.enter n call (afterReadFailure call.request cause) [.read (.fails cause)]
  | .read attemptId outcome, .succeeds newId resolved =>
    state.enter n call (.completionRecorded outcome
      (completionEntry call.request attemptId outcome newId resolved)) []
  | .completionRecorded outcome entry, .succeeds _ _ =>
    (state.commit n entry).enter n call (.returned outcome.value) [.committed .read]
  | .attempted _, .fails cause | .reading _, .fails cause | .read _ _, .fails cause
  | .completionRecorded _ _, .fails cause =>
    state.enter n call (afterReadFailure call.request cause) []
  -- `record_platform_refusal` never raises
  | .refused code, .succeeds newId resolved =>
    (state.commit n (refusalEntry call.request .denied code newId resolved)).enter n call
      (.raised (.refusal code)) []
  | .refused code, .fails _ => state.enter n call (.raised (.refusal code)) []
  | .failed error, .succeeds newId resolved =>
    (state.commit n (refusalEntry call.request .failure error.code newId resolved)).enter n call
      (.raised error) []
  | .failed error, .fails _ => state.enter n call (.raised error) []
  | _, _ => state

def step (state : OversightState Value) : OversightEvent Value → OversightState Value
  | .others db => { state with db := db }
  | .call n request =>
    match state.calls n with
    | none => { state with calls := Function.update state.calls n (some ⟨request, .called, []⟩) }
    | some _ => state
  | .proceed n progress =>
    match state.calls n with
    | some call => state.proceed n call progress
    | none => state

def initial (db : Tables) : OversightState Value := ⟨db, [], fun _ => none⟩

end OversightState

/-! ## What is promised -/

/-- The rows of attempts and completions that the call at `n` has committed. -/
def evidence (auditLog : List (ℕ × PlatformAuditLogEntry)) (n : ℕ) : List PlatformAuditLogEntry :=
  (auditLog.filter fun x => x.1 = n ∧ x.2.outcome = .success).map Prod.snd

def IsAttempt (request : OversightRequest) (entry : PlatformAuditLogEntry) : Prop :=
  ∃ id resolved, entry = attemptEntry request id resolved

def IsCompletion (request : OversightRequest) (attemptId : Uuid) (outcome : OversightOutcome Value)
    (entry : PlatformAuditLogEntry) : Prop :=
  ∃ id resolved, entry = completionEntry request attemptId outcome id resolved

def Happening.isRead : Happening Value → Bool
  | read _ => true
  | decided _ _ => false
  | committed _ => false

/-- **What is to hold of a call**, with the rows that it has committed. -/
structure Evidenced (call : OversightCall Value) (rows : List PlatformAuditLogEntry) : Prop where
  /-- A value leaves with both rows committed, the first one before anything was read, and was read
  in a transaction that had authorized the caller. -/
  returned : ∀ value, call.phase = .returned value →
    ∃ db db' outcome attempt completion,
      call.log = [.decided .attempt db, .committed .attempt, .decided .read db',
        .read (.returned outcome), .committed .read] ∧
      authorizes db call.request.operation call.request.caller = true ∧
      authorizes db' call.request.operation call.request.caller = true ∧
      outcome.value = value ∧
      IsAttempt call.request attempt ∧ IsCompletion call.request attempt.id outcome completion ∧
      rows = [attempt, completion]
  /-- A caller that was not authorized at the attempt reads nothing and leaves no such row. -/
  unauthorized : ∀ db, .decided .attempt db ∈ call.log →
    authorizes db call.request.operation call.request.caller = false →
      (∀ happening ∈ call.log, happening.isRead = false) ∧ rows = []
  /-- Any other call leaves no completion, and the row of its attempt if that was committed; else
  nothing was read. -/
  otherwise : (∀ value, call.phase ≠ .returned value) → .committed .read ∉ call.log ∧
    (.committed .attempt ∉ call.log ∧ (∀ happening ∈ call.log, happening.isRead = false) ∧
        rows = [] ∨
      .committed .attempt ∈ call.log ∧ ∃ attempt, IsAttempt call.request attempt ∧
        rows = [attempt])
  /-- The read function is called at most once. -/
  once : call.log.countP Happening.isRead ≤ 1
  /-- No row claims more entries than the value holds, as the read function has counted them. -/
  counted : ∀ entries : Value → ℕ,
    (∀ outcome, .read (.returned outcome) ∈ call.log → outcome.returned ≤ entries outcome.value) →
    ∀ entry ∈ rows, ∀ attemptId returned, entry.metadata = .completion attemptId returned →
      ∃ value, call.phase = .returned value ∧ returned ≤ entries value

def OversightState.Evidenced (state : OversightState Value) : Prop :=
  ∀ n call, state.calls n = some call → Oversight.Evidenced call (evidence state.auditLog n)

/-! ## Invariants -/

/-- How far a call has come that has not returned. -/
inductive Unfinished (request : OversightRequest) :
    List (Happening Value) → List PlatformAuditLogEntry → Prop
  | silent : Unfinished request [] []
  | decided (db : Tables) : Unfinished request [.decided .attempt db] []
  | attempted {db : Tables} (hdb : authorizes db request.operation request.caller = true)
      {attempt : PlatformAuditLogEntry} (hattempt : IsAttempt request attempt) :
      Unfinished request [.decided .attempt db, .committed .attempt] [attempt]
  | decidedAgain {db : Tables} (hdb : authorizes db request.operation request.caller = true)
      {attempt : PlatformAuditLogEntry} (hattempt : IsAttempt request attempt) (db' : Tables) :
      Unfinished request [.decided .attempt db, .committed .attempt, .decided .read db'] [attempt]
  | read {db : Tables} (hdb : authorizes db request.operation request.caller = true)
      {attempt : PlatformAuditLogEntry} (hattempt : IsAttempt request attempt) (db' : Tables)
      (result : ReadResult Value) :
      Unfinished request
        [.decided .attempt db, .committed .attempt, .decided .read db', .read result] [attempt]

def Fits (request : OversightRequest) (phase : OversightPhase Value) (log : List (Happening Value))
    (rows : List PlatformAuditLogEntry) : Prop :=
  match phase with
  | .called | .attempting => log = [] ∧ rows = []
  | .attemptAuthorized => ∃ db, authorizes db request.operation request.caller = true ∧
      log = [.decided .attempt db] ∧ rows = []
  | .attemptRecorded entry => ∃ db, authorizes db request.operation request.caller = true ∧
      log = [.decided .attempt db] ∧ rows = [] ∧ IsAttempt request entry
  | .attempted attemptId | .reading attemptId =>
    ∃ db attempt, authorizes db request.operation request.caller = true ∧
      IsAttempt request attempt ∧ attempt.id = attemptId ∧
      log = [.decided .attempt db, .committed .attempt] ∧ rows = [attempt]
  | .readAuthorized attemptId =>
    ∃ db db' attempt, authorizes db request.operation request.caller = true ∧
      authorizes db' request.operation request.caller = true ∧
      IsAttempt request attempt ∧ attempt.id = attemptId ∧
      log = [.decided .attempt db, .committed .attempt, .decided .read db'] ∧ rows = [attempt]
  | .read attemptId outcome =>
    ∃ db db' attempt, authorizes db request.operation request.caller = true ∧
      authorizes db' request.operation request.caller = true ∧
      IsAttempt request attempt ∧ attempt.id = attemptId ∧
      log = [.decided .attempt db, .committed .attempt, .decided .read db',
        .read (.returned outcome)] ∧ rows = [attempt]
  | .completionRecorded outcome entry =>
    ∃ db db' attempt, authorizes db request.operation request.caller = true ∧
      authorizes db' request.operation request.caller = true ∧
      IsAttempt request attempt ∧ IsCompletion request attempt.id outcome entry ∧
      log = [.decided .attempt db, .committed .attempt, .decided .read db',
        .read (.returned outcome)] ∧ rows = [attempt]
  | .returned value =>
    ∃ db db' outcome attempt completion, authorizes db request.operation request.caller = true ∧
      authorizes db' request.operation request.caller = true ∧ outcome.value = value ∧
      IsAttempt request attempt ∧ IsCompletion request attempt.id outcome completion ∧
      log = [.decided .attempt db, .committed .attempt, .decided .read db',
        .read (.returned outcome), .committed .read] ∧ rows = [attempt, completion]
  | .refused _ | .failed _ | .raised _ => Unfinished request log rows

variable {state : OversightState Value} {n : ℕ} {call : OversightCall Value}
  {request : OversightRequest} {log : List (Happening Value)} {rows : List PlatformAuditLogEntry}
  {entry : PlatformAuditLogEntry}

/-- What every state of a run satisfies. -/
structure Sound (state : OversightState Value) : Prop where
  fits : ∀ n call, state.calls n = some call →
    Fits call.request call.phase call.log (evidence state.auditLog n)
  none : ∀ n, state.calls n = none → evidence state.auditLog n = []

lemma IsAttempt.outcome (h : IsAttempt request entry) : entry.outcome = .success := by
  obtain ⟨id, resolved, rfl⟩ := h
  rfl

lemma IsCompletion.outcome {attemptId : Uuid} {outcome : OversightOutcome Value}
    (h : IsCompletion request attemptId outcome entry) : entry.outcome = .success := by
  obtain ⟨id, resolved, rfl⟩ := h
  rfl

lemma IsAttempt.metadata_ne (h : IsAttempt request entry) (attemptId : Uuid) (returned : ℕ) :
    entry.metadata ≠ .completion attemptId returned := by
  obtain ⟨id, resolved, rfl⟩ := h
  unfold attemptEntry
  dsimp only
  split <;> exact nofun

/-! ## Rows -/

section Rows

variable {auditLog : List (ℕ × PlatformAuditLogEntry)}

lemma evidence_append_self (h : entry.outcome = .success) :
    evidence (auditLog ++ [(n, entry)]) n = evidence auditLog n ++ [entry] := by
  simp [evidence, h]

variable {m : ℕ}

lemma evidence_append_other (h : m ≠ n) :
    evidence (auditLog ++ [(n, entry)]) m = evidence auditLog m := by
  simp [evidence, h.symm]

lemma evidence_append_refusal (h : entry.outcome ≠ .success) :
    evidence (auditLog ++ [(n, entry)]) m = evidence auditLog m := by
  simp [evidence, h]

end Rows

lemma fits_afterReadFailure {cause : Cause} (h : Unfinished request log rows) :
    Fits request (afterReadFailure request cause : OversightPhase Value) log rows := by
  unfold afterReadFailure
  split <;> exact h

lemma Sound.enter (h : Sound state) (hcall : state.calls n = some call)
    {phase : OversightPhase Value} {happened : List (Happening Value)}
    (hfits : Fits call.request phase (call.log ++ happened) (evidence state.auditLog n)) :
    Sound (state.enter n call phase happened) where
  fits m other hm := by
    rcases Run.update_some_cases hm with ⟨rfl, rfl⟩ | ⟨-, hm⟩
    · exact hfits
    · exact h.fits m other hm
  none m hm := by
    by_cases hmn : m = n
    · subst hmn
      simp [OversightState.enter] at hm
    · exact h.none m (by simpa [OversightState.enter, hmn] using hm)

lemma Sound.commit (h : Sound state) (hcall : state.calls n = some call)
    {phase : OversightPhase Value} {happened : List (Happening Value)}
    (hfits : Fits call.request phase (call.log ++ happened)
      (evidence (state.auditLog ++ [(n, entry)]) n)) :
    Sound ((state.commit n entry).enter n call phase happened) where
  fits m other hm := by
    rcases Run.update_some_cases hm with ⟨rfl, rfl⟩ | ⟨hmn, hm⟩
    · exact hfits
    · exact (evidence_append_other hmn).symm ▸ h.fits m other hm
  none m hm := by
    by_cases hmn : m = n
    · subst hmn
      simp [OversightState.enter] at hm
    · have hnone := h.none m (by simpa [OversightState.enter, OversightState.commit, hmn] using hm)
      exact (evidence_append_other hmn).trans hnone

lemma Sound.refuse (h : Sound state) (hcall : state.calls n = some call) {error : OversightError}
    {outcome : PlatformAuditOutcome} (houtcome : outcome ≠ .success) {code : String} {newId : Uuid}
    {resolved : String × Option String}
    (hfits : Unfinished call.request call.log (evidence state.auditLog n)) :
    Sound ((state.commit n (refusalEntry call.request outcome code newId resolved)).enter n call
      (.raised error) []) := by
  refine h.commit hcall ?_
  rw [evidence_append_refusal houtcome, List.append_nil]
  exact hfits

variable {phase : OversightPhase Value}

lemma Sound.enter_nil (h : Sound state) (hcall : state.calls n = some call)
    (hfits : Fits call.request phase call.log (evidence state.auditLog n)) :
    Sound (state.enter n call phase []) :=
  h.enter hcall (by rwa [List.append_nil])

lemma Sound.proceed (h : Sound state) (hcall : state.calls n = some call)
    (progress : Progress Value) : Sound (state.proceed n call progress) := by
  have hfits := h.fits n call hcall
  obtain ⟨request, phase, log⟩ := call
  cases phase with
  | called =>
    obtain ⟨rfl, hrows⟩ := hfits
    cases progress with
    | reads result => exact h
    | fails cause => exact h.enter_nil hcall (hrows ▸ .silent)
    | succeeds newId resolved =>
      unfold OversightState.proceed
      dsimp only
      split
      · exact h.enter_nil hcall (hrows ▸ .silent)
      · exact h.enter_nil hcall ⟨rfl, hrows⟩
      · exact h.enter_nil hcall ⟨rfl, hrows⟩
  | attempting =>
    obtain ⟨rfl, hrows⟩ := hfits
    cases progress with
    | reads result => exact h
    | fails cause => exact h.enter_nil hcall (hrows ▸ .silent)
    | succeeds newId resolved =>
      unfold OversightState.proceed
      dsimp only
      split
      · exact h.enter hcall ⟨state.db, ‹_›, rfl, hrows⟩
      · exact h.enter hcall (hrows ▸ .decided state.db)
  | attemptAuthorized =>
    obtain ⟨db, hdb, rfl, hrows⟩ := hfits
    cases progress with
    | reads result => exact h
    | fails cause => exact h.enter_nil hcall (hrows ▸ .decided db)
    | succeeds newId resolved =>
      exact h.enter_nil hcall ⟨db, hdb, rfl, hrows, newId, resolved, rfl⟩
  | attemptRecorded entry =>
    obtain ⟨db, hdb, rfl, hrows, hentry⟩ := hfits
    cases progress with
    | reads result => exact h
    | fails cause => exact h.enter_nil hcall (hrows ▸ .decided db)
    | succeeds newId resolved =>
      refine h.commit hcall ⟨db, entry, hdb, hentry, rfl, rfl, ?_⟩
      rw [evidence_append_self hentry.outcome, hrows, List.nil_append]
  | attempted attemptId =>
    cases progress with
    | reads result => exact h
    | succeeds newId resolved => exact h.enter_nil hcall hfits
    | fails cause =>
      obtain ⟨db, attempt, hdb, hattempt, -, rfl, hrows⟩ := hfits
      exact h.enter_nil hcall (fits_afterReadFailure (hrows ▸ .attempted hdb hattempt))
  | reading attemptId =>
    obtain ⟨db, attempt, hdb, hattempt, hid, rfl, hrows⟩ := hfits
    cases progress with
    | reads result => exact h
    | fails cause =>
      exact h.enter_nil hcall (fits_afterReadFailure (hrows ▸ .attempted hdb hattempt))
    | succeeds newId resolved =>
      unfold OversightState.proceed
      dsimp only
      split
      · exact h.enter hcall ⟨db, state.db, attempt, hdb, ‹_›, hattempt, hid, rfl, hrows⟩
      · exact h.enter hcall (hrows ▸ .decidedAgain hdb hattempt state.db)
  | readAuthorized attemptId =>
    obtain ⟨db, db', attempt, hdb, hdb', hattempt, hid, rfl, hrows⟩ := hfits
    cases progress with
    | succeeds newId resolved => exact h
    | fails cause => exact h
    | reads result =>
      cases result with
      | returned outcome =>
        exact h.enter hcall ⟨db, db', attempt, hdb, hdb', hattempt, hid, rfl, hrows⟩
      | refuses code => exact h.enter hcall (hrows ▸ .read hdb hattempt db' _)
      | fails cause =>
        exact h.enter hcall (fits_afterReadFailure (hrows ▸ .read hdb hattempt db' _))
  | read attemptId outcome =>
    obtain ⟨db, db', attempt, hdb, hdb', hattempt, hid, rfl, hrows⟩ := hfits
    cases progress with
    | reads result => exact h
    | succeeds newId resolved =>
      exact h.enter_nil hcall ⟨db, db', attempt, hdb, hdb', hattempt,
        ⟨newId, resolved, by rw [hid]⟩, rfl, hrows⟩
    | fails cause =>
      exact h.enter_nil hcall (fits_afterReadFailure (hrows ▸ .read hdb hattempt db' _))
  | completionRecorded outcome entry =>
    obtain ⟨db, db', attempt, hdb, hdb', hattempt, hentry, rfl, hrows⟩ := hfits
    cases progress with
    | reads result => exact h
    | fails cause =>
      exact h.enter_nil hcall (fits_afterReadFailure (hrows ▸ .read hdb hattempt db' _))
    | succeeds newId resolved =>
      refine h.commit hcall
        ⟨db, db', outcome, attempt, entry, hdb, hdb', rfl, hattempt, hentry, rfl, ?_⟩
      rw [evidence_append_self hentry.outcome, hrows]
      rfl
  | refused code =>
    cases progress with
    | reads result => exact h
    | fails cause => exact h.enter_nil hcall hfits
    | succeeds newId resolved => exact h.refuse hcall (by decide : PlatformAuditOutcome.denied ≠ _) hfits
  | failed error =>
    cases progress with
    | reads result => exact h
    | fails cause => exact h.enter_nil hcall hfits
    | succeeds newId resolved => exact h.refuse hcall (by decide : PlatformAuditOutcome.failure ≠ _) hfits
  | returned value => exact h
  | raised error => exact h

lemma Sound.step (h : Sound state) (event : OversightEvent Value) : Sound (state.step event) := by
  cases event with
  | others db => exact ⟨h.fits, h.none⟩
  | call n request =>
    unfold OversightState.step
    dsimp only
    split
    case h_2 => exact h
    case h_1 hnone =>
      constructor
      · intro m other hm
        rcases Run.update_some_cases hm with ⟨rfl, rfl⟩ | ⟨-, hm⟩
        · exact ⟨rfl, h.none _ hnone⟩
        · exact h.fits m other hm
      · intro m hm
        by_cases hmn : m = n
        · subst hmn
          simp at hm
        · exact h.none m (by simpa [hmn] using hm)
  | proceed n progress =>
    unfold OversightState.step
    dsimp only
    split
    case h_1 call hcall => exact h.proceed hcall progress
    case h_2 => exact h

lemma sound_initial (db : Tables) : Sound (OversightState.initial db : OversightState Value) where
  fits n call hcall := by cases hcall
  none n _ := rfl

/-! ## What holds -/

lemma Unfinished.evidenced (h : Unfinished request log rows)
    (hphase : ∀ value, phase ≠ .returned value) :
    Evidenced ⟨request, phase, log⟩ rows where
  returned value hvalue := absurd hvalue (hphase value)
  unauthorized db hdb hfalse := by
    cases h <;> simp_all [Happening.isRead]
  otherwise _ := by
    cases h with
    | silent => exact ⟨by simp, .inl ⟨by simp, by simp, rfl⟩⟩
    | decided db => exact ⟨by simp, .inl ⟨by simp, by simp [Happening.isRead], rfl⟩⟩
    | attempted hdb hattempt => exact ⟨by simp, .inr ⟨by simp, _, hattempt, rfl⟩⟩
    | decidedAgain hdb hattempt db' => exact ⟨by simp, .inr ⟨by simp, _, hattempt, rfl⟩⟩
    | read hdb hattempt db' result => exact ⟨by simp, .inr ⟨by simp, _, hattempt, rfl⟩⟩
  once := by cases h <;> simp [Happening.isRead]
  counted entries _ entry hentry attemptId returned hmetadata := by
    have hne : ∀ attempt, IsAttempt request attempt → rows = [attempt] → False := by
      rintro attempt hattempt rfl
      obtain rfl := List.mem_singleton.1 hentry
      exact hattempt.metadata_ne attemptId returned hmetadata
    cases h with
    | silent => cases hentry
    | decided db => cases hentry
    | attempted hdb hattempt => exact (hne _ hattempt rfl).elim
    | decidedAgain hdb hattempt db' => exact (hne _ hattempt rfl).elim
    | read hdb hattempt db' result => exact (hne _ hattempt rfl).elim

lemma Fits.unfinished (h : Fits request phase log rows) (hphase : ∀ value, phase ≠ .returned value) :
    Unfinished request log rows := by
  cases phase with
  | called | attempting =>
    obtain ⟨rfl, rfl⟩ := h
    exact .silent
  | attemptAuthorized =>
    obtain ⟨db, -, rfl, rfl⟩ := h
    exact .decided db
  | attemptRecorded entry =>
    obtain ⟨db, -, rfl, rfl, -⟩ := h
    exact .decided db
  | attempted attemptId | reading attemptId =>
    obtain ⟨db, attempt, hdb, hattempt, -, rfl, rfl⟩ := h
    exact .attempted hdb hattempt
  | readAuthorized attemptId =>
    obtain ⟨db, db', attempt, hdb, -, hattempt, -, rfl, rfl⟩ := h
    exact .decidedAgain hdb hattempt db'
  | read attemptId outcome =>
    obtain ⟨db, db', attempt, hdb, -, hattempt, -, rfl, rfl⟩ := h
    exact .read hdb hattempt db' _
  | completionRecorded outcome entry =>
    obtain ⟨db, db', attempt, hdb, -, hattempt, -, rfl, rfl⟩ := h
    exact .read hdb hattempt db' _
  | returned value => exact absurd rfl (hphase value)
  | refused code | failed error | raised error => exact h

lemma Fits.evidenced (h : Fits call.request call.phase call.log rows) : Evidenced call rows := by
  obtain ⟨request, phase, log⟩ := call
  by_cases hphase : ∀ value, phase ≠ .returned value
  · exact (h.unfinished hphase).evidenced hphase
  push Not at hphase
  obtain ⟨value, rfl⟩ := hphase
  obtain ⟨db, db', outcome, attempt, completion, hdb, hdb', rfl, hattempt, hcompletion, rfl, rfl⟩ :=
    h
  refine ⟨?_, ?_, ?_, ?_, ?_⟩
  · rintro _ ⟨⟩
    exact ⟨db, db', outcome, attempt, completion, rfl, hdb, hdb', rfl, hattempt, hcompletion, rfl⟩
  · intro db'' hdb'' hfalse
    obtain rfl : db'' = db := by simpa using hdb''
    exact absurd (hdb.symm.trans hfalse) nofun
  · exact fun hreturned => absurd rfl (hreturned outcome.value)
  · simp [Happening.isRead, List.countP_cons]
  · intro entries hentries entry hentry attemptId returned hmetadata
    refine ⟨outcome.value, rfl, ?_⟩
    rcases List.mem_pair.1 hentry with rfl | rfl
    · exact absurd hmetadata (hattempt.metadata_ne attemptId returned)
    · obtain ⟨id, resolved, rfl⟩ := hcompletion
      obtain ⟨-, rfl⟩ := AuditMetadata.completion.inj hmetadata
      exact hentries outcome (by simp)

/-- **No platform read without evidence**: in every run, whatever fails and however the authority of
the callers changes. -/
theorem evidenced_always (db : Tables) (events : List (OversightEvent Value)) :
    Run.Always OversightState.step OversightState.Evidenced (OversightState.initial db) events := by
  rintro before after rfl n call hcall
  have hsound : Sound (Run.run OversightState.step (OversightState.initial db) before) :=
    Run.run_of_step (fun state event h => h.step event) (sound_initial db) before
  exact (hsound.fits n call hcall).evidenced

end SaasOs.Oversight
