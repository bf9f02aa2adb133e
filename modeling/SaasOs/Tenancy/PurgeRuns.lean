import SaasOs.Tenancy.PurgeSteps
import SaasOs.Foundation.LockTable
import SaasOs.Foundation.Run

/-!
# Concurrent purges of one tenant

Any number of calls purge the same tenant.  Each of them is a sequence of transactions: the first
one enters the purge phase, a step of a pass selects the rows of its tables `FOR UPDATE`, waiting
for a call that has selected them before, and deletes them, and the last transaction writes the
tombstone.  Between them run the participants that products have registered and the cleanup of the
dead letters.
-/

namespace SaasOs

/-! ## Calls -/

def mayPurge : Caller → Bool
  | .system authority => PlatformOperation.tenantPurgeTransition.systemAuthorities.contains authority
  | .user _ | .serviceAccount _ _ => false

/-- The rows that one step has deleted. -/
structure StepCount where
  step : PurgeStep
  deleted : ℕ
  deriving DecidableEq

/-- A pass over the steps: its number, the steps that are done, and the accounts to be kept. -/
structure PurgePass where
  attempt : ℕ
  done : List StepCount
  keep : List Uuid
  deriving DecidableEq

inductive PurgePhase
  | begun
  /-- The tenant is in the purge phase; the start is recorded next. -/
  | entered
  /-- The support access of the tenant is revoked next. -/
  | started
  /-- A pass with the steps that are still to do. -/
  | passing (pass : PurgePass) (todo : List PurgeStep)
  /-- A step has selected its rows. -/
  | deleting (pass : PurgePass) (step : PurgeStep) (selected : List OwnedRow)
      (todo : List PurgeStep)
  /-- The participants that are still to run. -/
  | participating (todo : List String)
  /-- The dead letters are removed next. -/
  | cleaning
  /-- The tombstone is written next. -/
  | finishing
  /-- This call has written the tombstone; the completion is recorded next. -/
  | completing
  /-- An exception was raised; the failure is recorded next. -/
  | failing
  /-- The call has returned. -/
  | returned
  /-- The call has raised in its first transaction. -/
  | refused
  /-- The call has raised after its first transaction, or has crashed. -/
  | failed
  deriving DecidableEq

/-- A call, with the participants registered in its process. -/
structure PurgeCall where
  caller : Caller
  participants : List String
  phase : PurgePhase
  deriving DecidableEq

/-- What a call has done without error. -/
inductive PurgeAction
  | step (count : StepCount)
  | participant (name : String)
  | deadLetters (removed : ℕ)
  | tombstone

/-- The purge events of the tenant's audit trail. -/
inductive PurgeEvent
  | purgeStarted
  | purgeFailed
  | purgeCompleted
  deriving DecidableEq

/-- The tenant with its children that are not purged, its rows and those of others, the audit trail,
the live support access, the dead letters with the tenants they name, the row locks, the calls, and
what each of them has done. -/
structure PurgeSystem where
  tenant : Tenant
  liveChildren : List Uuid
  rows : List OwnedRow
  audit : List AuditReference
  events : List PurgeEvent
  liveSupportAccess : List Uuid
  deadLetters : List (Option Uuid)
  locks : LockTable RowRef ℕ
  call : ℕ → Option PurgeCall
  log : ℕ → List PurgeAction

/-- What can happen next: a call begins, takes its next step, raises or crashes; a child is purged,
transactions of other tenants change their rows, or a job leaves a dead letter. -/
inductive PurgeStepEvent
  | begin (n : ℕ) (caller : Caller) (participants : List String)
  | advance (n : ℕ)
  | raise (n : ℕ)
  | crash (n : ℕ)
  | childPurged (id : Uuid)
  | others (rows : List OwnedRow)
  | deadLetter (tenantId : Option Uuid)

def maxPurgePasses : ℕ := 3

namespace PurgeSystem

def setPhase (s : PurgeSystem) (n : ℕ) (call : PurgeCall) (phase : PurgePhase) : PurgeSystem :=
  { s with call := Function.update s.call n (some { call with phase := phase }) }

def logged (s : PurgeSystem) (n : ℕ) (action : PurgeAction) : PurgeSystem :=
  { s with log := Function.update s.log n (s.log n ++ [action]) }

@[simp] lemma logged_log_self (s : PurgeSystem) (n : ℕ) (action : PurgeAction) :
    (s.logged n action).log n = s.log n ++ [action] :=
  Function.update_self n _ s.log

lemma logged_log_of_ne (s : PurgeSystem) {n m : ℕ} (hne : m ≠ n) (action : PurgeAction) :
    (s.logged n action).log m = s.log m :=
  Function.update_of_ne hne _ s.log

def recorded (s : PurgeSystem) (event : PurgeEvent) : PurgeSystem :=
  { s with events := s.events ++ [event] }

def unlocked (s : PurgeSystem) (n : ℕ) : PurgeSystem :=
  { s with locks := s.locks.release n }

/-- `require_purging_tenant`. -/
def isPurging (s : PurgeSystem) : Bool :=
  s.tenant.status == .purging || s.tenant.status == .purged

def enter (s : PurgeSystem) (n : ℕ) (call : PurgeCall) : PurgeSystem :=
  if !mayPurge call.caller then
    s.setPhase n call .refused
  else if s.tenant.status = .purged then
    s.setPhase n call .returned
  else if s.liveChildren ≠ [] then
    s.setPhase n call .refused
  else if s.tenant.status = .purging then
    s.setPhase n call .entered
  else if s.tenant.status.allowedTransitions.contains .purging then
    { s with tenant := { s.tenant with status := .purging } }.setPhase n call .entered
  else
    s.setPhase n call .refused

/-- The rows of a step are selected `FOR UPDATE`; `none` while another call has them locked. -/
def select (s : PurgeSystem) (n : ℕ) (call : PurgeCall) (pass : PurgePass) (step : PurgeStep)
    (todo : List PurgeStep) : Option PurgeSystem :=
  if s.isPurging then do
    let selected := selectRows s.tenant.id s.rows step.tables
    let locks ← s.locks.acquire n .exclusive (selected.map OwnedRow.ref)
    return { s with locks := locks }.setPhase n call (.deleting pass step selected todo)
  else
    s.setPhase n call .failing

def keepAfter (s : PurgeSystem) (pass : PurgePass) (selected : List OwnedRow) :
    PurgeStep → List Uuid
  | .authorization => retainedDelegates s.audit s.tenant.id selected
  | _ => pass.keep

/-- The selected rows are deleted, and the transaction is committed; a foreign key that would dangle
raises. -/
def delete (s : PurgeSystem) (n : ℕ) (call : PurgeCall) (pass : PurgePass) (step : PurgeStep)
    (selected : List OwnedRow) (todo : List PurgeStep) : PurgeSystem :=
  match purgeTables s.audit s.tenant.id pass.keep selected step.tables s.rows with
  | none => (s.unlocked n).setPhase n call .failing
  | some rows =>
    let count := ⟨step, deletedCount s.audit s.tenant.id pass.keep selected step.tables⟩
    (({ s with rows := rows }.unlocked n).logged n (.step count)).setPhase n call
      (.passing ⟨pass.attempt, pass.done ++ [count], s.keepAfter pass selected step⟩ todo)

def endPass (s : PurgeSystem) (n : ℕ) (call : PurgeCall) (pass : PurgePass) : PurgeSystem :=
  if (pass.done.map StepCount.deleted).sum = 0 then
    s.setPhase n call (.participating call.participants)
  else if pass.attempt < maxPurgePasses then
    s.setPhase n call (.passing ⟨pass.attempt + 1, [], []⟩ purgeSteps)
  else
    s.setPhase n call .failing

def clean (s : PurgeSystem) (n : ℕ) (call : PurgeCall) : PurgeSystem :=
  let removed := s.deadLetters.countP fun entry => entry == some s.tenant.id
  ({ s with
    deadLetters := s.deadLetters.filter fun entry => entry != some s.tenant.id }.logged n
      (.deadLetters removed)).setPhase n call .finishing

def finish (s : PurgeSystem) (n : ℕ) (call : PurgeCall) : PurgeSystem :=
  if !mayPurge call.caller then
    s.setPhase n call .failing
  else if s.tenant.status = .purged then
    s.setPhase n call .returned
  else if s.tenant.status.allowedTransitions.contains .purged then
    ({ s with
      tenant := { s.tenant with name := tombstoneName s.tenant.id, status := .purged } }.logged n
        .tombstone).setPhase n call .completing
  else
    s.setPhase n call .failing

/-- The next step of a call; `none` while it has to wait, and when it has ended. -/
def advance (s : PurgeSystem) (n : ℕ) (call : PurgeCall) : PurgePhase → Option PurgeSystem
  | .begun => s.enter n call
  | .entered => (s.recorded .purgeStarted).setPhase n call .started
  | .started =>
    if s.isPurging then
      { s with liveSupportAccess := [] }.setPhase n call (.passing ⟨1, [], []⟩ purgeSteps)
    else
      s.setPhase n call .failing
  | .passing pass (step :: todo) => s.select n call pass step todo
  | .passing pass [] => s.endPass n call pass
  | .deleting pass step selected todo => s.delete n call pass step selected todo
  | .participating (name :: todo) =>
    (s.logged n (.participant name)).setPhase n call (.participating todo)
  | .participating [] => s.setPhase n call .cleaning
  | .cleaning => s.clean n call
  | .finishing => s.finish n call
  | .completing => (s.recorded .purgeCompleted).setPhase n call .returned
  | .failing => (s.recorded .purgeFailed).setPhase n call .failed
  | .returned | .refused | .failed => none

/-- An exception is raised: the transaction is rolled back, and the failure is recorded next if the
start was. -/
def raised (s : PurgeSystem) (n : ℕ) (call : PurgeCall) : PurgePhase → PurgeSystem
  | .begun => s.setPhase n call .refused
  | .entered | .completing | .failing => s.setPhase n call .failed
  | .returned | .refused | .failed => s
  | .started | .passing _ _ | .deleting _ _ _ _ | .participating _ | .cleaning | .finishing =>
    (s.unlocked n).setPhase n call .failing

def crashed (s : PurgeSystem) (n : ℕ) : PurgeSystem :=
  match s.call n with
  | none => s.unlocked n
  | some call =>
    match call.phase with
    | .begun => (s.unlocked n).setPhase n call .refused
    | .returned | .refused | .failed => s.unlocked n
    | _ => (s.unlocked n).setPhase n call .failed

def step (s : PurgeSystem) : PurgeStepEvent → PurgeSystem
  | .begin n caller participants =>
    match s.call n with
    | none => s.setPhase n ⟨caller, participants, .begun⟩ .begun
    | some _ => s
  | .advance n =>
    match s.call n with
    | none => s
    | some call => (s.advance n call call.phase).getD s
  | .raise n =>
    match s.call n with
    | none => s
    | some call => s.raised n call call.phase
  | .crash n => s.crashed n
  | .childPurged id => { s with liveChildren := s.liveChildren.filter fun child => child != id }
  | .others rows =>
    let rows := s.rows.filter (fun row => row.tenantId == s.tenant.id) ++
      rows.filter fun row => row.tenantId != s.tenant.id
    if SchemaSound s.audit rows then { s with rows := rows } else s
  | .deadLetter tenantId => { s with deadLetters := s.deadLetters ++ [tenantId] }

/-! ## The invariant -/

def Past (s : PurgeSystem) : Prop :=
  (s.tenant.status = .purging ∨ s.tenant.status = .purged) ∧ s.liveChildren = []

lemma Past.isPurging {s : PurgeSystem} (h : s.Past) : s.isPurging = true := by
  simpa [PurgeSystem.isPurging] using h.1

def AllCleared (s : PurgeSystem) : Prop :=
  ∀ table, IsCleared s.audit s.tenant.id s.rows table

def cleanPass : List PurgeAction :=
  purgeSteps.map fun step => .step ⟨step, 0⟩

/-- The call has written the tombstone after a pass that deleted nothing, all participants and the
cleanup of the dead letters, in this order. -/
def WroteTombstone (participants : List String) (log : List PurgeAction) : Prop :=
  ∃ before removed, log = before ++ cleanPass ++ participants.map .participant ++
    [.deadLetters removed, .tombstone]

def RowsSound (s : PurgeSystem) : PurgePhase → Prop
  | .begun | .refused | .returned => True
  | .entered | .started | .failing | .failed => s.Past
  | .passing pass todo => s.Past ∧ pass.done.map StepCount.step ++ todo = purgeSteps ∧
      KeepSound s.audit s.tenant.id s.rows pass.keep ∧
      ∀ count ∈ pass.done, ∀ table ∈ count.step.tables,
        IsCleared s.audit s.tenant.id s.rows table
  | .deleting pass step selected todo => s.Past ∧
      pass.done.map StepCount.step ++ step :: todo = purgeSteps ∧
      KeepSound s.audit s.tenant.id s.rows pass.keep ∧
      (∀ count ∈ pass.done, ∀ table ∈ count.step.tables,
        IsCleared s.audit s.tenant.id s.rows table) ∧
      Covers s.tenant.id s.rows selected step.tables ∧
      (∀ row ∈ selected, row.tenantId = s.tenant.id) ∧
      ∀ row ∈ selected, IsAuditedGrant s.audit s.tenant.id row →
        row ∈ s.rows ∨ row.retire ∈ s.rows
  | .participating _ | .cleaning | .finishing => s.Past ∧ s.AllCleared
  | .completing => s.Past ∧ s.tenant.status = .purged

def LogSound (participants : List String) (log : List PurgeAction) : PurgePhase → Prop
  | .begun | .entered | .started | .failing | .refused => .tombstone ∉ log
  | .passing pass _ | .deleting pass _ _ _ => .tombstone ∉ log ∧
      ∃ before, log = before ++ pass.done.map .step
  | .participating todo => .tombstone ∉ log ∧ ∃ before ran, participants = ran ++ todo ∧
      log = before ++ cleanPass ++ ran.map .participant
  | .cleaning => .tombstone ∉ log ∧
      ∃ before, log = before ++ cleanPass ++ participants.map .participant
  | .finishing => .tombstone ∉ log ∧ ∃ before removed,
      log = before ++ cleanPass ++ participants.map .participant ++ [.deadLetters removed]
  | .completing => WroteTombstone participants log
  | .returned | .failed => .tombstone ∈ log → WroteTombstone participants log

def completions (s : PurgeSystem) : ℕ := s.events.count .purgeCompleted

structure Sound (s : PurgeSystem) : Prop where
  rows : ∀ n call, s.call n = some call → s.RowsSound call.phase
  log : ∀ n call, s.call n = some call → LogSound call.participants (s.log n) call.phase
  idle : ∀ n, s.call n = none → .tombstone ∉ s.log n
  purged : s.tenant.status = .purged → s.AllCleared ∧ s.tenant.name = tombstoneName s.tenant.id ∧
    ∃ n call, s.call n = some call ∧ WroteTombstone call.participants (s.log n)
  tombstone : ∀ n, .tombstone ∈ s.log n → s.tenant.status = .purged
  unique : ∀ n m, .tombstone ∈ s.log n → .tombstone ∈ s.log m → n = m
  completions_le : s.completions ≤ 1
  completing : ∀ n call, s.call n = some call → call.phase = .completing → s.completions = 0
  completed : 0 < s.completions → s.tenant.status = .purged

variable {s s' : PurgeSystem} {n : ℕ} {call : PurgeCall} {phase : PurgePhase}

variable {participants : List String} {log : List PurgeAction}

lemma WroteTombstone.mem (h : WroteTombstone participants log) : .tombstone ∈ log := by
  obtain ⟨before, removed, rfl⟩ := h
  simp

lemma LogSound.wrote (h : LogSound participants log phase) (hmem : .tombstone ∈ log) :
    WroteTombstone participants log := by
  cases phase with
  | begun | entered | started | failing | refused => exact absurd hmem h
  | passing | deleting | participating | cleaning | finishing => exact absurd hmem h.1
  | completing => exact h
  | returned | failed => exact h hmem

lemma Sound.wrote (hsound : s.Sound) (n : ℕ) (hn : .tombstone ∈ s.log n) :
    ∃ call, s.call n = some call ∧ WroteTombstone call.participants (s.log n) := by
  cases hcall : s.call n with
  | none => exact absurd hn (hsound.idle n hcall)
  | some call => exact ⟨call, rfl, (hsound.log n call hcall).wrote hn⟩

/-- What every step leaves behind it: the same tenant, further on its way, with fewer rows. -/
structure Later (s s' : PurgeSystem) : Prop where
  tenant : s'.tenant.id = s.tenant.id
  audit : s'.audit = s.audit
  past : s.Past → s'.Past
  purged : s.tenant.status = .purged → s'.tenant.status = .purged ∧ s'.tenant.name = s.tenant.name
  rows : OwnShrunk s.audit s.tenant.id s.rows s'.rows
  schema : SchemaSound s.audit s.rows → SchemaSound s.audit s'.rows

lemma Later.allCleared (h : s.Later s') (hcleared : s.AllCleared) : s'.AllCleared := by
  intro table
  rw [h.tenant, h.audit]
  exact h.rows.isCleared (hcleared table)

lemma Later.rowsSound (h : s.Later s') (hrows : s.RowsSound phase) : s'.RowsSound phase := by
  have hcleared : ∀ done : List StepCount,
      (∀ count ∈ done, ∀ table ∈ count.step.tables, IsCleared s.audit s.tenant.id s.rows table) →
      ∀ count ∈ done, ∀ table ∈ count.step.tables,
        IsCleared s'.audit s'.tenant.id s'.rows table := by
    intro done hdone count hcount table htable
    rw [h.tenant, h.audit]
    exact h.rows.isCleared (hdone count hcount table htable)
  cases phase with
  | begun | refused | returned => trivial
  | entered | started | failing | failed => exact h.past hrows
  | passing pass todo =>
    obtain ⟨hpast, hsteps, hkeep, hdone⟩ := hrows
    refine ⟨h.past hpast, hsteps, ?_, hcleared pass.done hdone⟩
    rw [h.tenant, h.audit]
    exact h.rows.keepSound hkeep
  | deleting pass step selected todo =>
    obtain ⟨hpast, hsteps, hkeep, hdone, hcovers, howner, hselected⟩ := hrows
    refine ⟨h.past hpast, hsteps, ?_, hcleared pass.done hdone, ?_, ?_, ?_⟩
    · rw [h.tenant, h.audit]
      exact h.rows.keepSound hkeep
    · rw [h.tenant]
      exact h.rows.covers hcovers
    · rw [h.tenant]
      exact howner
    · rw [h.tenant, h.audit]
      intro row hrow haudited
      rcases hselected row hrow haudited with hkept | hretired
      · exact h.rows.audited row hkept haudited
      · exact .inr ((h.rows.audited _ hretired haudited.retire).elim id id)
  | participating todo => exact ⟨h.past hrows.1, h.allCleared hrows.2⟩
  | cleaning => exact ⟨h.past hrows.1, h.allCleared hrows.2⟩
  | finishing => exact ⟨h.past hrows.1, h.allCleared hrows.2⟩
  | completing => exact ⟨h.past hrows.1, (h.purged hrows.2).1⟩

lemma Sound.update (hsound : s.Sound) (hn : s.call n = some call) (hlater : s.Later s')
    (hcall : s'.call = Function.update s.call n (some { call with phase := phase }))
    (hlogs : ∀ m, m ≠ n → s'.log m = s.log m)
    (hlog : s'.log n = s.log n ∨ .tombstone ∉ s.log n ∧ .tombstone ∉ s'.log n)
    (hevents : s'.completions = s.completions)
    (hstatus : s'.tenant.status = .purged → s.tenant.status = .purged)
    (hphase : phase ≠ .completing) (hrows : s'.RowsSound phase)
    (hlogSound : LogSound call.participants (s'.log n) phase) : s'.Sound := by
  have htombstone : ∀ m, .tombstone ∈ s'.log m → .tombstone ∈ s.log m := by
    intro m hm
    obtain rfl | hne := eq_or_ne m n
    · rcases hlog with hsame | ⟨-, hnot⟩
      · exact hsame ▸ hm
      · exact absurd hm hnot
    · exact hlogs m hne ▸ hm
  have hothers : ∀ m other, s'.call m = some other →
      m = n ∧ other = { call with phase := phase } ∨ m ≠ n ∧ s.call m = some other := by
    intro m other hm
    rw [hcall] at hm
    exact Run.update_some_cases hm
  refine ⟨fun m other hm => ?_, fun m other hm => ?_, fun m hm => ?_, fun hpurged => ?_, fun m hm => ?_,
    fun m k hm hk => ?_, ?_, fun m other hm hcompleting => ?_, fun hcompleted => ?_⟩
  · rcases hothers m other hm with ⟨rfl, rfl⟩ | ⟨-, hold⟩
    · exact hrows
    · exact hlater.rowsSound (hsound.rows m other hold)
  · rcases hothers m other hm with ⟨rfl, rfl⟩ | ⟨hne, hold⟩
    · exact hlogSound
    · rw [hlogs m hne]
      exact hsound.log m other hold
  · rw [hcall] at hm
    obtain rfl | hne := eq_or_ne m n
    · rw [Function.update_self] at hm
      cases hm
    · rw [Function.update_of_ne hne] at hm
      rw [hlogs m hne]
      exact hsound.idle m hm
  · obtain ⟨hcleared, hname, m, other, hm, hwrote⟩ := hsound.purged (hstatus hpurged)
    refine ⟨hlater.allCleared hcleared, ?_, m, ?_⟩
    · rw [(hlater.purged (hstatus hpurged)).2, hlater.tenant]
      exact hname
    · obtain rfl | hne := eq_or_ne m n
      · obtain rfl : call = other := Option.some.inj (hn.symm.trans hm)
        refine ⟨{ call with phase := phase }, by rw [hcall, Function.update_self], ?_⟩
        rcases hlog with hsame | ⟨hnot, -⟩
        · rw [hsame]
          exact hwrote
        · exact absurd hwrote.mem hnot
      · refine ⟨other, by rw [hcall, Function.update_of_ne hne, hm], ?_⟩
        rw [hlogs m hne]
        exact hwrote
  · exact (hlater.purged (hsound.tombstone m (htombstone m hm))).1
  · exact hsound.unique m k (htombstone m hm) (htombstone k hk)
  · rw [hevents]
    exact hsound.completions_le
  · rw [hevents]
    rcases hothers m other hm with ⟨rfl, rfl⟩ | ⟨-, hold⟩
    · exact absurd hcompleting hphase
    · exact hsound.completing m other hold hcompleting
  · rw [hevents] at hcompleted
    exact (hlater.purged (hsound.completed hcompleted)).1

lemma Later.of_eq (htenant : s'.tenant = s.tenant) (hchildren : s'.liveChildren = s.liveChildren)
    (haudit : s'.audit = s.audit) (hrows : s'.rows = s.rows) : s.Later s' where
  tenant := by rw [htenant]
  audit := haudit
  past hpast := ⟨htenant ▸ hpast.1, hchildren ▸ hpast.2⟩
  purged hpurged := by
    rw [htenant]
    exact ⟨hpurged, rfl⟩
  rows := by
    rw [hrows]
    exact .refl s.rows
  schema := by
    rw [hrows]
    exact id

lemma completions_recorded {event : PurgeEvent} (h : event ≠ .purgeCompleted) :
    (s.recorded event).completions = s.completions := by
  change (s.events ++ [event]).count .purgeCompleted = _
  rw [List.count_append, List.count_singleton, beq_eq_false_iff_ne.mpr h]
  rfl

lemma Sound.of_later (hsound : s.Sound) (hlater : s.Later s') (hcall : s'.call = s.call)
    (hlog : s'.log = s.log) (hevents : s'.events = s.events) (hstatus : s'.tenant = s.tenant) :
    s'.Sound where
  rows m other hm := hlater.rowsSound (hsound.rows m other (hcall ▸ hm))
  log m other hm := hlog ▸ hsound.log m other (hcall ▸ hm)
  idle m hm := hlog ▸ hsound.idle m (hcall ▸ hm)
  purged hpurged := by
    rw [hstatus] at hpurged ⊢
    obtain ⟨hcleared, hname, m, other, hm, hwrote⟩ := hsound.purged hpurged
    exact ⟨hlater.allCleared hcleared, hname, m, other, hcall ▸ hm, hlog ▸ hwrote⟩
  tombstone m hm := hstatus ▸ hsound.tombstone m (hlog ▸ hm)
  unique m k hm hk := hsound.unique m k (hlog ▸ hm) (hlog ▸ hk)
  completions_le := by
    unfold completions
    rw [hevents]
    exact hsound.completions_le
  completing m other hm hcompleting := by
    unfold completions
    rw [hevents]
    exact hsound.completing m other (hcall ▸ hm) hcompleting
  completed hcompleted := by
    unfold completions at hcompleted
    rw [hevents] at hcompleted
    exact hstatus ▸ hsound.completed hcompleted

lemma Sound.setPhase (hsound : s.Sound) (hn : s.call n = some call) {locks : LockTable RowRef ℕ}
    {liveSupportAccess : List Uuid} (hphase : phase ≠ .completing) (hrows : s.RowsSound phase)
    (hlog : LogSound call.participants (s.log n) phase) :
    ({ s with locks := locks, liveSupportAccess := liveSupportAccess }.setPhase n call phase).Sound :=
  hsound.update hn (.of_eq rfl rfl rfl rfl) rfl (fun _ _ => rfl) (.inl rfl) rfl id hphase hrows hlog

/-! ## Steps -/

lemma Sound.fail (hsound : s.Sound) (hn : s.call n = some call) (hpast : s.Past)
    (hlog : .tombstone ∉ s.log n) : (s.setPhase n call .failing).Sound :=
  hsound.setPhase hn nofun hpast hlog

lemma Sound.enter (hsound : s.Sound) (hn : s.call n = some call) (hlog : .tombstone ∉ s.log n) :
    (s.enter n call).Sound := by
  unfold PurgeSystem.enter
  split
  · exact hsound.setPhase hn nofun trivial hlog
  · split
    · exact hsound.setPhase hn nofun trivial fun hmem => absurd hmem hlog
    · next hnotPurged =>
      split
      · exact hsound.setPhase hn nofun trivial hlog
      · next hlive =>
        have hchildren : s.liveChildren = [] := not_not.mp hlive
        split
        · next hpurging => exact hsound.setPhase hn nofun ⟨.inl hpurging, hchildren⟩ hlog
        · split
          · have hlater : s.Later ({ s with
                tenant := { s.tenant with status := .purging } }.setPhase n call .entered) :=
              ⟨rfl, rfl, fun _ => ⟨.inl rfl, hchildren⟩, fun hpurged => absurd hpurged hnotPurged,
                .refl s.rows, id⟩
            exact hsound.update hn hlater rfl (fun _ _ => rfl) (.inl rfl) rfl nofun nofun
              ⟨.inl rfl, hchildren⟩ hlog
          · exact hsound.setPhase hn nofun trivial hlog

lemma Sound.select (hsound : s.Sound) (hn : s.call n = some call) {pass : PurgePass}
    {step : PurgeStep} {todo : List PurgeStep} (hphase : call.phase = .passing pass (step :: todo))
    (h : s.select n call pass step todo = some s') : s'.Sound := by
  have hrows := hsound.rows n call hn
  have hlog := hsound.log n call hn
  rw [hphase] at hrows hlog
  obtain ⟨hpast, hsteps, hkeep, hdone⟩ := hrows
  unfold PurgeSystem.select at h
  split at h
  · simp only [Option.bind_eq_bind, Option.bind_eq_some_iff] at h
    obtain ⟨locks, -, hdone'⟩ := h
    cases hdone'
    exact hsound.setPhase hn nofun ⟨hpast, hsteps, hkeep, hdone, covers_selectRows _ _,
      fun row hrow => (mem_selectRows.mp hrow).2.1,
      fun row hrow _ => .inl (mem_selectRows.mp hrow).1⟩ hlog
  · cases h
    exact hsound.fail hn hpast hlog.1

lemma map_step_append (done : List StepCount) (count : StepCount) :
    (done ++ [count]).map StepCount.step = done.map StepCount.step ++ [count.step] := by
  simp

lemma Sound.delete (hsound : s.Sound) (hn : s.call n = some call) {pass : PurgePass}
    {step : PurgeStep} {selected : List OwnedRow} {todo : List PurgeStep}
    (hphase : call.phase = .deleting pass step selected todo) :
    (s.delete n call pass step selected todo).Sound := by
  have hrows := hsound.rows n call hn
  have hlog := hsound.log n call hn
  rw [hphase] at hrows hlog
  obtain ⟨hpast, hsteps, hkeep, hdone, hcovers, howner, hselected⟩ := hrows
  obtain ⟨hnot, before, hbefore⟩ := hlog
  unfold PurgeSystem.delete
  split
  · exact hsound.setPhase hn nofun hpast hnot
  · next rows hpurged =>
    have hshrunk := purgeTables_shrunk hpurged
    have hcleared := purgeTables_cleared hpurged hcovers hkeep
    refine hsound.update hn
      ⟨rfl, rfl, id, fun h => ⟨h, rfl⟩, hshrunk.toOwnShrunk, hshrunk.schemaSound⟩ rfl
      (fun m hne => logged_log_of_ne _ hne _) (.inr ⟨hnot, ?_⟩) rfl id nofun
      ⟨hpast, ?_, ?_, ?_⟩ ⟨?_, before, ?_⟩
    · simp [PurgeSystem.setPhase, logged, unlocked, hnot]
    · rw [map_step_append, List.append_assoc, List.singleton_append]
      exact hsteps
    · change KeepSound s.audit s.tenant.id rows (s.keepAfter pass selected step)
      unfold keepAfter
      split
      · refine keepSound_retainedDelegates howner fun row hrow haudited => ?_
        rcases hselected row hrow haudited with hkept | hretired
        · exact hshrunk.audited row hkept haudited
        · exact .inr ((hshrunk.audited _ hretired haudited.retire).elim id id)
      · exact hshrunk.keepSound hkeep
    · intro count hcount table htable
      rcases List.mem_append.mp hcount with hold | hnew
      · exact hshrunk.isCleared (hdone count hold table htable)
      · obtain rfl := List.mem_singleton.mp hnew
        exact hcleared table htable
    · simp [PurgeSystem.setPhase, logged, unlocked, hnot]
    · simp [PurgeSystem.setPhase, logged, unlocked, hbefore]

variable {done : List StepCount}

lemma allCleared_of_pass (hsteps : done.map StepCount.step = purgeSteps)
    (hdone : ∀ count ∈ done, ∀ table ∈ count.step.tables,
      IsCleared s.audit s.tenant.id s.rows table) : s.AllCleared := by
  intro table
  obtain ⟨step, hstep, htable⟩ := mem_tables_of_purgeSteps table
  rw [← hsteps] at hstep
  obtain ⟨count, hcount, rfl⟩ := List.mem_map.mp hstep
  exact hdone count hcount table htable

lemma map_step_eq_cleanPass (hsteps : done.map StepCount.step = purgeSteps)
    (hsum : (done.map StepCount.deleted).sum = 0) : done.map PurgeAction.step = cleanPass := by
  have hzero : ∀ count ∈ done, count.deleted = 0 := by
    intro count hcount
    exact List.sum_eq_zero_iff.mp hsum _ (List.mem_map_of_mem hcount)
  unfold cleanPass
  rw [← hsteps, List.map_map]
  refine List.map_congr_left fun count hcount => ?_
  rw [Function.comp_apply, ← hzero count hcount]

lemma Sound.endPass (hsound : s.Sound) (hn : s.call n = some call) {pass : PurgePass}
    (hphase : call.phase = .passing pass []) : (s.endPass n call pass).Sound := by
  have hrows := hsound.rows n call hn
  have hlog := hsound.log n call hn
  rw [hphase] at hrows hlog
  obtain ⟨hpast, hsteps, -, hdone⟩ := hrows
  obtain ⟨hnot, before, hbefore⟩ := hlog
  rw [List.append_nil] at hsteps
  unfold PurgeSystem.endPass
  split
  · next hsum =>
    refine hsound.setPhase hn nofun ⟨hpast, allCleared_of_pass hsteps hdone⟩
      ⟨hnot, before, [], rfl, ?_⟩
    rw [hbefore, map_step_eq_cleanPass hsteps hsum, List.map_nil, List.append_nil]
  · split
    · refine hsound.setPhase hn nofun ⟨hpast, rfl, fun _ hid => absurd hid List.not_mem_nil,
        fun _ hcount => absurd hcount List.not_mem_nil⟩ ⟨hnot, s.log n, ?_⟩
      rw [List.map_nil, List.append_nil]
    · exact hsound.fail hn hpast hnot

lemma Sound.participate (hsound : s.Sound) (hn : s.call n = some call) {name : String}
    {todo : List String} (hphase : call.phase = .participating (name :: todo)) :
    ((s.logged n (.participant name)).setPhase n call (.participating todo)).Sound := by
  have hrows := hsound.rows n call hn
  have hlog := hsound.log n call hn
  rw [hphase] at hrows hlog
  obtain ⟨hnot, before, ran, hran, hbefore⟩ := hlog
  have hstill : .tombstone ∉ (s.logged n (.participant name)).log n := by simp [hnot]
  refine hsound.update hn (.of_eq rfl rfl rfl rfl) rfl (fun m hne => logged_log_of_ne _ hne _)
    (.inr ⟨hnot, hstill⟩) rfl id nofun hrows ⟨hstill, before, ran ++ [name], ?_, ?_⟩
  · rw [hran, List.append_assoc, List.singleton_append]
  · change (s.logged n (.participant name)).log n = _
    rw [logged_log_self, hbefore, List.map_append, List.map_singleton, List.append_assoc]

lemma Sound.clean (hsound : s.Sound) (hn : s.call n = some call) (hphase : call.phase = .cleaning) :
    (s.clean n call).Sound := by
  have hrows := hsound.rows n call hn
  have hlog := hsound.log n call hn
  rw [hphase] at hrows hlog
  obtain ⟨hnot, before, hbefore⟩ := hlog
  unfold PurgeSystem.clean
  dsimp only
  refine hsound.update hn (.of_eq rfl rfl rfl rfl) rfl (fun m hne => logged_log_of_ne _ hne _)
    (.inr ⟨hnot, ?_⟩) rfl id nofun hrows
    ⟨?_, before, s.deadLetters.countP fun entry => entry == some s.tenant.id, ?_⟩
  · simp [PurgeSystem.setPhase, logged, hnot]
  · simp [PurgeSystem.setPhase, logged, hnot]
  · simp only [PurgeSystem.setPhase, logged, Function.update_self]
    rw [hbefore]

lemma Sound.writeTombstone (hsound : s.Sound) (hn : s.call n = some call)
    (hphase : call.phase = .finishing) (hnotPurged : s.tenant.status ≠ .purged) :
    (({ s with
      tenant := { s.tenant with name := tombstoneName s.tenant.id, status := .purged } }.logged n
        .tombstone).setPhase n call .completing).Sound := by
  have hrows := hsound.rows n call hn
  have hlog := hsound.log n call hn
  rw [hphase] at hrows hlog
  obtain ⟨hnot, before, removed, hbefore⟩ := hlog
  have hnone : ∀ m, .tombstone ∉ s.log m := fun m hm => hnotPurged (hsound.tombstone m hm)
  have hzero : s.completions = 0 := by
    by_contra hpositive
    exact hnotPurged (hsound.completed (Nat.pos_of_ne_zero hpositive))
  have hwrote : WroteTombstone call.participants (s.log n ++ [.tombstone]) := by
    refine ⟨before, removed, ?_⟩
    rw [hbefore, List.append_assoc _ [PurgeAction.deadLetters removed]]
    rfl
  let t := ({ s with
    tenant := { s.tenant with name := tombstoneName s.tenant.id, status := .purged } }.logged n
      .tombstone).setPhase n call .completing
  have hlater : s.Later t :=
    ⟨rfl, rfl, fun hpast => ⟨.inr rfl, hpast.2⟩, fun hpurged => absurd hpurged hnotPurged,
      .refl s.rows, id⟩
  have hself : t.log n = s.log n ++ [.tombstone] := logged_log_self _ n _
  have hothers : ∀ m, m ≠ n → t.log m = s.log m := fun m hne => logged_log_of_ne _ hne _
  have htombstone : ∀ m, .tombstone ∈ t.log m → m = n := by
    intro m hm
    by_contra hne
    exact hnone m (hothers m hne ▸ hm)
  refine ⟨fun m other hm => ?_, fun m other hm => ?_, fun m hm => ?_, fun _ => ⟨?_, rfl, n, ?_⟩,
    fun _ _ => rfl, fun m k hm hk => ?_, hsound.completions_le, fun _ _ _ _ => hzero, fun _ => rfl⟩
  · rcases Run.update_some_cases hm with ⟨rfl, rfl⟩ | ⟨-, hold⟩
    · exact ⟨hlater.past hrows.1, (rfl : t.tenant.status = .purged)⟩
    · exact hlater.rowsSound (hsound.rows m other hold)
  · rcases Run.update_some_cases hm with ⟨rfl, rfl⟩ | ⟨hne, hold⟩
    · exact hself ▸ hwrote
    · exact hothers m hne ▸ hsound.log m other hold
  · have hne : m ≠ n := by
      rintro rfl
      simp [PurgeSystem.setPhase] at hm
    exact hothers m hne ▸ hnone m
  · exact hlater.allCleared hrows.2
  · exact ⟨{ call with phase := .completing }, Function.update_self n _ _, hself ▸ hwrote⟩
  · rw [htombstone m hm, htombstone k hk]

lemma Sound.finish (hsound : s.Sound) (hn : s.call n = some call) (hphase : call.phase = .finishing) :
    (s.finish n call).Sound := by
  have hrows := hsound.rows n call hn
  have hlog := hsound.log n call hn
  rw [hphase] at hrows hlog
  unfold PurgeSystem.finish
  split
  · exact hsound.fail hn hrows.1 hlog.1
  · split
    · exact hsound.setPhase hn nofun trivial fun hmem => absurd hmem hlog.1
    · next hnotPurged =>
      split
      · exact hsound.writeTombstone hn hphase hnotPurged
      · exact hsound.fail hn hrows.1 hlog.1

lemma Sound.complete (hsound : s.Sound) (hn : s.call n = some call)
    (hphase : call.phase = .completing) :
    ((s.recorded .purgeCompleted).setPhase n call .returned).Sound := by
  have hrows := hsound.rows n call hn
  have hwrote := hsound.log n call hn
  have hzero := hsound.completing n call hn hphase
  rw [hphase] at hrows hwrote
  have hpurged : s.tenant.status = .purged := hrows.2
  have hone : ((s.recorded .purgeCompleted).setPhase n call .returned).completions = 1 := by
    change (s.events ++ [PurgeEvent.purgeCompleted]).count .purgeCompleted = 1
    rw [List.count_append]
    change s.completions + 1 = 1
    rw [hzero]
  have hlater : s.Later ((s.recorded .purgeCompleted).setPhase n call .returned) :=
    .of_eq rfl rfl rfl rfl
  refine ⟨fun m other hm => ?_, fun m other hm => ?_, fun m hm => ?_, fun _ => ⟨?_, ?_, n, ?_⟩,
    hsound.tombstone, hsound.unique, hone.le, fun m other hm hcompleting => ?_, fun _ => hpurged⟩
  · rcases Run.update_some_cases hm with ⟨rfl, rfl⟩ | ⟨-, hold⟩
    · trivial
    · exact hlater.rowsSound (hsound.rows m other hold)
  · rcases Run.update_some_cases hm with ⟨rfl, rfl⟩ | ⟨-, hold⟩
    · exact fun _ => hwrote
    · exact hsound.log m other hold
  · have hne : m ≠ n := by
      rintro rfl
      simp [PurgeSystem.setPhase] at hm
    refine hsound.idle m ?_
    rw [← hm]
    exact (Function.update_of_ne hne _ _).symm
  · exact hlater.allCleared (hsound.purged hpurged).1
  · exact (hsound.purged hpurged).2.1
  · exact ⟨{ call with phase := .returned }, Function.update_self n _ _, hwrote⟩
  · -- another call that completes would have written the tombstone as well
    rcases Run.update_some_cases hm with ⟨rfl, rfl⟩ | ⟨hne, hold⟩
    · cases hcompleting
    · have hother := hsound.log m other hold
      rw [hcompleting] at hother
      exact absurd (hsound.unique m n hother.mem hwrote.mem) hne

lemma Sound.advance (hsound : s.Sound) (hn : s.call n = some call)
    (h : s.advance n call call.phase = some s') : s'.Sound := by
  have hrows := hsound.rows n call hn
  have hlog := hsound.log n call hn
  generalize hphase : call.phase = phase at h hrows hlog
  cases phase with
  | begun =>
    cases h
    exact hsound.enter hn hlog
  | entered =>
    cases h
    refine hsound.update hn (.of_eq rfl rfl rfl rfl) rfl (fun _ _ => rfl) (.inl rfl) ?_ id nofun
      hrows hlog
    exact completions_recorded nofun
  | started =>
    dsimp only [PurgeSystem.advance] at h
    rw [if_pos hrows.isPurging] at h
    cases h
    refine hsound.setPhase hn nofun ⟨hrows, rfl, fun _ hid => absurd hid List.not_mem_nil,
      fun _ hcount => absurd hcount List.not_mem_nil⟩ ⟨hlog, s.log n, ?_⟩
    rw [List.map_nil, List.append_nil]
  | passing pass todo =>
    cases todo with
    | nil =>
      cases h
      exact hsound.endPass hn hphase
    | cons step todo => exact hsound.select hn hphase h
  | deleting pass step selected todo =>
    cases h
    exact hsound.delete hn hphase
  | participating todo =>
    cases todo with
    | nil =>
      cases h
      obtain ⟨hnot, before, ran, hran, hbefore⟩ := hlog
      rw [List.append_nil] at hran
      exact hsound.setPhase hn nofun hrows ⟨hnot, before, hran ▸ hbefore⟩
    | cons name todo =>
      cases h
      exact hsound.participate hn hphase
  | cleaning =>
    cases h
    exact hsound.clean hn hphase
  | finishing =>
    cases h
    exact hsound.finish hn hphase
  | completing =>
    cases h
    exact hsound.complete hn hphase
  | failing =>
    cases h
    refine hsound.update hn (.of_eq rfl rfl rfl rfl) rfl (fun _ _ => rfl) (.inl rfl) ?_ id nofun
      hrows fun hmem => absurd hmem hlog
    exact completions_recorded nofun
  | returned | refused | failed => cases h

/-! ## Failures -/

lemma LogSound.notMem (h : LogSound participants log phase) (hcompleting : phase ≠ .completing)
    (hreturned : phase ≠ .returned) (hfailed : phase ≠ .failed) : .tombstone ∉ log := by
  cases phase with
  | begun | entered | started | failing | refused => exact h
  | passing | deleting | participating | cleaning | finishing => exact h.1
  | completing => exact absurd rfl hcompleting
  | returned => exact absurd rfl hreturned
  | failed => exact absurd rfl hfailed

lemma RowsSound.past (h : s.RowsSound phase) (hbegun : phase ≠ .begun) (hrefused : phase ≠ .refused)
    (hreturned : phase ≠ .returned) : s.Past := by
  cases phase with
  | begun => exact absurd rfl hbegun
  | refused => exact absurd rfl hrefused
  | returned => exact absurd rfl hreturned
  | entered | started | failing | failed => exact h
  | passing | deleting | participating | cleaning | finishing | completing => exact h.1

lemma Sound.raised (hsound : s.Sound) (hn : s.call n = some call) :
    (s.raised n call call.phase).Sound := by
  have hrows := hsound.rows n call hn
  have hlog := hsound.log n call hn
  generalize call.phase = phase at hrows hlog
  cases phase with
  | begun => exact hsound.setPhase hn nofun trivial hlog
  | entered | failing | completing =>
    exact hsound.setPhase hn nofun (hrows.past nofun nofun nofun) hlog.wrote
  | returned | refused | failed => exact hsound
  | started | passing | deleting | participating | cleaning | finishing =>
    exact hsound.setPhase hn nofun (hrows.past nofun nofun nofun) (hlog.notMem nofun nofun nofun)

lemma Sound.crashed (hsound : s.Sound) : (s.crashed n).Sound := by
  have hunlocked : (s.unlocked n).Sound := hsound.of_later (.of_eq rfl rfl rfl rfl) rfl rfl rfl rfl
  unfold PurgeSystem.crashed
  split
  · exact hunlocked
  · next call hn =>
    have hrows := hsound.rows n call hn
    have hlog := hsound.log n call hn
    split
    · next hphase =>
      rw [hphase] at hlog
      exact hsound.setPhase hn nofun trivial hlog
    · exact hunlocked
    · exact hunlocked
    · exact hunlocked
    · next hbegun hreturned hrefused hfailed =>
      exact hsound.setPhase hn nofun (hrows.past hbegun hrefused hreturned) hlog.wrote

/-! ## What a step does to the tenant -/

/-- What the next step of a call does to the tenant, its rows and the locks. -/
structure Effect (n : ℕ) (s s' : PurgeSystem) : Prop where
  audit : s'.audit = s.audit
  liveChildren : s'.liveChildren = s.liveChildren
  rows : s'.rows = s.rows ∨ ∃ keep selected tables,
    purgeTables s.audit s.tenant.id keep selected tables s.rows = some s'.rows
  locks : ∀ lock ∈ s'.locks.held, lock ∈ s.locks.held ∨ lock.holder = n
  tenant : s'.tenant = s.tenant ∨
    s.tenant.status ≠ .purged ∧ s.liveChildren = [] ∧
      s'.tenant = { s.tenant with status := .purging } ∨
    s.tenant.status ≠ .purged ∧
      s'.tenant = { s.tenant with name := tombstoneName s.tenant.id, status := .purged }

lemma Effect.shrunk (h : Effect n s s') : Shrunk s.audit s.tenant.id s.rows s'.rows := by
  rcases h.rows with hsame | ⟨keep, selected, tables, hpurged⟩
  · rw [hsame]
    exact .refl s.rows
  · exact purgeTables_shrunk hpurged

lemma Effect.later (h : Effect n s s') : s.Later s' where
  tenant := by
    rcases h.tenant with htenant | ⟨-, -, htenant⟩ | ⟨-, htenant⟩ <;> rw [htenant]
  audit := h.audit
  past hpast := by
    refine ⟨?_, h.liveChildren.trans hpast.2⟩
    rcases h.tenant with htenant | ⟨-, -, htenant⟩ | ⟨-, htenant⟩ <;> rw [htenant]
    · exact hpast.1
    · exact .inl rfl
    · exact .inr rfl
  purged hpurged := by
    rcases h.tenant with htenant | ⟨hnot, -⟩ | ⟨hnot, -⟩
    · rw [htenant]
      exact ⟨hpurged, rfl⟩
    · exact absurd hpurged hnot
    · exact absurd hpurged hnot
  rows := h.shrunk.toOwnShrunk
  schema := h.shrunk.schemaSound

lemma Effect.of_eq (htenant : s'.tenant = s.tenant) (hchildren : s'.liveChildren = s.liveChildren)
    (haudit : s'.audit = s.audit) (hrows : s'.rows = s.rows) (hlocks : s'.locks = s.locks) :
    Effect n s s' where
  audit := haudit
  liveChildren := hchildren
  rows := .inl hrows
  locks _ hlock := .inl (hlocks ▸ hlock)
  tenant := .inl htenant

lemma effect_setPhase : Effect n s (s.setPhase n call phase) :=
  .of_eq rfl rfl rfl rfl rfl

lemma effect_enter : Effect n s (s.enter n call) := by
  unfold PurgeSystem.enter
  split
  · exact effect_setPhase
  · split
    · exact effect_setPhase
    · next hnotPurged =>
      split
      · exact effect_setPhase
      · next hlive =>
        split
        · exact effect_setPhase
        · split
          · exact ⟨rfl, rfl, .inl rfl, fun _ hlock => .inl hlock,
              .inr (.inl ⟨hnotPurged, not_not.mp hlive, rfl⟩)⟩
          · exact effect_setPhase

variable {pass : PurgePass} {todo : List PurgeStep}

lemma effect_select {step : PurgeStep} (h : s.select n call pass step todo = some s') :
    Effect n s s' := by
  unfold PurgeSystem.select at h
  split at h
  · simp only [Option.bind_eq_bind, Option.bind_eq_some_iff] at h
    obtain ⟨locks, hlocks, hdone⟩ := h
    cases hdone
    refine ⟨rfl, rfl, .inl rfl, fun lock hlock => ?_, .inl rfl⟩
    rcases (LockTable.mem_held_of_acquire hlocks).mp hlock with hnew | hold
    · obtain ⟨ref, -, rfl⟩ := List.mem_map.mp hnew
      exact .inr rfl
    · exact .inl hold
  · cases h
    exact effect_setPhase

lemma effect_delete {step : PurgeStep} {selected : List OwnedRow} :
    Effect n s (s.delete n call pass step selected todo) := by
  unfold PurgeSystem.delete
  split
  · exact ⟨rfl, rfl, .inl rfl, fun _ hlock => .inl (List.mem_of_mem_filter hlock), .inl rfl⟩
  · next rows hpurged =>
    exact ⟨rfl, rfl, .inr ⟨_, _, _, hpurged⟩,
      fun _ hlock => .inl (List.mem_of_mem_filter hlock), .inl rfl⟩

lemma effect_endPass : Effect n s (s.endPass n call pass) := by
  unfold PurgeSystem.endPass
  split
  · exact effect_setPhase
  · split <;> exact effect_setPhase

lemma effect_finish : Effect n s (s.finish n call) := by
  unfold PurgeSystem.finish
  split
  · exact effect_setPhase
  · split
    · exact effect_setPhase
    · next hnotPurged =>
      split
      · exact ⟨rfl, rfl, .inl rfl, fun _ hlock => .inl hlock, .inr (.inr ⟨hnotPurged, rfl⟩)⟩
      · exact effect_setPhase

lemma effect_advance (h : s.advance n call phase = some s') : Effect n s s' := by
  cases phase with
  | begun =>
    cases h
    exact effect_enter
  | entered | cleaning | completing | failing =>
    cases h
    exact .of_eq rfl rfl rfl rfl rfl
  | started =>
    dsimp only [PurgeSystem.advance] at h
    split at h <;> cases h <;> exact .of_eq rfl rfl rfl rfl rfl
  | passing pass todo =>
    cases todo with
    | nil =>
      cases h
      exact effect_endPass
    | cons step todo => exact effect_select h
  | deleting pass step selected todo =>
    cases h
    exact effect_delete
  | participating todo => cases todo <;> cases h <;> exact .of_eq rfl rfl rfl rfl rfl
  | finishing =>
    cases h
    exact effect_finish
  | returned | refused | failed => cases h

lemma later_raised : s.Later (s.raised n call phase) := by
  cases phase <;> exact .of_eq rfl rfl rfl rfl

lemma later_crashed : s.Later (s.crashed n) := by
  unfold PurgeSystem.crashed
  split
  · exact .of_eq rfl rfl rfl rfl
  · split <;> exact .of_eq rfl rfl rfl rfl

lemma ownShrunk_others (rows : List OwnedRow) : OwnShrunk s.audit s.tenant.id s.rows
    (s.rows.filter (fun row => row.tenantId == s.tenant.id) ++
      rows.filter fun row => row.tenantId != s.tenant.id) where
  of_mem row' hrow' howner := by
    rcases List.mem_append.mp hrow' with hown | hother
    · exact ⟨row', List.mem_of_mem_filter hown, .inl rfl⟩
    · have hne := List.of_mem_filter hother
      simp [howner] at hne
  audited row hrow haudited := by
    refine .inl (List.mem_append_left _ (List.mem_filter.mpr ⟨hrow, ?_⟩))
    exact beq_iff_eq.mpr haudited.owner

lemma later_step (s : PurgeSystem) (event : PurgeStepEvent) : s.Later (s.step event) := by
  have hsame : s.Later s := .of_eq rfl rfl rfl rfl
  cases event with
  | begin m caller participants =>
    dsimp only [PurgeSystem.step]
    split
    · exact .of_eq rfl rfl rfl rfl
    · exact hsame
  | advance m =>
    dsimp only [PurgeSystem.step]
    split
    · exact hsame
    · next call hcall =>
      cases hadvance : s.advance m call call.phase with
      | none => exact hsame
      | some s' => exact (effect_advance hadvance).later
  | raise m =>
    dsimp only [PurgeSystem.step]
    split
    · exact hsame
    · exact later_raised
  | crash m => exact later_crashed
  | childPurged id =>
    refine ⟨rfl, rfl, fun hpast => ⟨hpast.1, ?_⟩, fun hpurged => ⟨hpurged, rfl⟩, .refl s.rows,
      fun hschema => hschema⟩
    change s.liveChildren.filter _ = []
    rw [hpast.2, List.filter_nil]
  | others rows =>
    dsimp only [PurgeSystem.step]
    split
    · next hschema =>
      exact ⟨rfl, rfl, fun hpast => hpast, fun hpurged => ⟨hpurged, rfl⟩, ownShrunk_others rows,
        fun _ => hschema⟩
    · exact hsame
  | deadLetter tenantId => exact .of_eq rfl rfl rfl rfl

lemma Later.trans {s'' : PurgeSystem} (h : s.Later s') (h' : s'.Later s'') : s.Later s'' where
  tenant := h'.tenant.trans h.tenant
  audit := h'.audit.trans h.audit
  past hpast := h'.past (h.past hpast)
  purged hpurged := by
    obtain ⟨hnext, hname⟩ := h.purged hpurged
    obtain ⟨hlast, hsame⟩ := h'.purged hnext
    exact ⟨hlast, hsame.trans hname⟩
  rows := by
    have hrest := h'.rows
    rw [h.audit, h.tenant] at hrest
    exact h.rows.trans hrest
  schema hschema := by
    have hrest := h'.schema
    rw [h.audit] at hrest
    exact hrest (h.schema hschema)

lemma later_run (s : PurgeSystem) (events : List PurgeStepEvent) :
    s.Later (Run.run PurgeSystem.step s events) := by
  induction events generalizing s with
  | nil => exact .of_eq rfl rfl rfl rfl
  | cons event events ih => exact (later_step s event).trans (ih (s.step event))

/-! ## Runs -/

lemma Sound.begin (hsound : s.Sound) (hn : s.call n = none) (caller : Caller)
    (participants : List String) :
    (s.setPhase n ⟨caller, participants, .begun⟩ .begun).Sound := by
  have hcases : ∀ {m other}, (s.setPhase n ⟨caller, participants, .begun⟩ .begun).call m = some other →
      m = n ∧ other = ⟨caller, participants, .begun⟩ ∨ m ≠ n ∧ s.call m = some other := Run.update_some_cases
  refine ⟨fun m other hm => ?_, fun m other hm => ?_, fun m hm => ?_, fun hpurged => ?_,
    hsound.tombstone, hsound.unique, hsound.completions_le, fun m other hm hcompleting => ?_,
    hsound.completed⟩
  · rcases hcases hm with ⟨rfl, rfl⟩ | ⟨-, hold⟩
    · trivial
    · exact hsound.rows m other hold
  · rcases hcases hm with ⟨rfl, rfl⟩ | ⟨-, hold⟩
    · exact hsound.idle m hn
    · exact hsound.log m other hold
  · refine hsound.idle m ?_
    obtain rfl | hne := eq_or_ne m n
    · exact hn
    · rw [← hm]
      exact (Function.update_of_ne hne _ _).symm
  · obtain ⟨hcleared, hname, m, other, hm, hwrote⟩ := hsound.purged hpurged
    refine ⟨hcleared, hname, m, other, ?_, hwrote⟩
    have hne : m ≠ n := by
      rintro rfl
      rw [hn] at hm
      cases hm
    exact (Function.update_of_ne hne _ _).trans hm
  · rcases hcases hm with ⟨rfl, rfl⟩ | ⟨-, hold⟩
    · cases hcompleting
    · exact hsound.completing m other hold hcompleting

lemma Sound.step (hsound : s.Sound) (event : PurgeStepEvent) : (s.step event).Sound := by
  cases event with
  | begin m caller participants =>
    dsimp only [PurgeSystem.step]
    split
    · next hm => exact hsound.begin hm caller participants
    · exact hsound
  | advance m =>
    dsimp only [PurgeSystem.step]
    split
    · exact hsound
    · next call hcall =>
      cases hadvance : s.advance m call call.phase with
      | none => exact hsound
      | some s' => exact hsound.advance hcall hadvance
  | raise m =>
    dsimp only [PurgeSystem.step]
    split
    · exact hsound
    · next call hcall => exact hsound.raised hcall
  | crash m => exact hsound.crashed
  | childPurged id => exact hsound.of_later (later_step s (.childPurged id)) rfl rfl rfl rfl
  | others rows =>
    have hlater := later_step s (.others rows)
    dsimp only [PurgeSystem.step] at hlater ⊢
    split
    · next hschema =>
      rw [if_pos hschema] at hlater
      exact hsound.of_later hlater rfl rfl rfl rfl
    · exact hsound
  | deadLetter tenantId => exact hsound.of_later (.of_eq rfl rfl rfl rfl) rfl rfl rfl rfl

/-- The tenant is deleted, or in the purge phase; no call has begun, and no purge has been
completed. -/
structure Initial (s : PurgeSystem) : Prop where
  status : s.tenant.status = .deleted ∨ s.tenant.status = .purging
  call : ∀ n, s.call n = none
  log : ∀ n, s.log n = []
  completions : s.completions = 0
  schema : SchemaSound s.audit s.rows

lemma Initial.sound (hinitial : s.Initial) : s.Sound := by
  have hnone : ∀ {n call}, s.call n = some call → False := by
    intro n call hn
    rw [hinitial.call n] at hn
    cases hn
  have hlog : ∀ n, .tombstone ∉ s.log n := by
    intro n
    rw [hinitial.log n]
    exact List.not_mem_nil
  have hnotPurged : s.tenant.status ≠ .purged := by
    rcases hinitial.status with h | h <;> rw [h] <;> nofun
  exact ⟨fun _ _ hn => (hnone hn).elim, fun _ _ hn => (hnone hn).elim, fun n _ => hlog n,
    fun hpurged => absurd hpurged hnotPurged, fun n hn => absurd hn (hlog n),
    fun n _ hn _ => absurd hn (hlog n), hinitial.completions.le.trans (Nat.zero_le 1),
    fun _ _ _ _ => hinitial.completions, fun hcompleted => by
      rw [hinitial.completions] at hcompleted
      cases hcompleted⟩

lemma Sound.run (hsound : s.Sound) (events : List PurgeStepEvent) :
    (Run.run PurgeSystem.step s events).Sound :=
  Run.run_of_step (fun _ event hstate => hstate.step event) hsound events

end PurgeSystem

end SaasOs
