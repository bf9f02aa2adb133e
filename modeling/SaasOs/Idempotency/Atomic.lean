import SaasOs.Idempotency.Records
import SaasOs.Foundation.Run
import SaasOs.Foundation.UniqueInsert

/-!
# Operations that run at most once

An operation that is a database mutation runs in the transaction that reserves its key: the
reservation is inserted, the business function writes through the same session, the result is stored
and everything commits together.  A second call with the key waits for the first one to end; its
insertion then fails, and it answers with the stored result, or goes ahead.  The results are stored
in a JSON column: one that JSON cannot express is refused when it is flushed, and a later call gets
back what the JSON text denotes, for which a tuple is a list.
-/

namespace SaasOs

open Rows UniqueInsert

/-! ## Calls -/

/-- A record and what the business function wrote along with it. -/
structure Execution (W R : Type) where
  call : ℕ
  request : IdempotencyRequest
  status : IdempotencyStatus
  result : Option R
  writes : List W

namespace Execution

def scope {W R : Type} (execution : Execution W R) : Uuid × String × String :=
  execution.request.scope

def succeed {W R : Type} (writes : List W) (result : R) (execution : Execution W R) :
    Execution W R :=
  { execution with status := .succeeded, result := some result, writes := writes }

end Execution

/-- What a call raises: an error of its own, the exception of its business function, or the one of
the flush that stores the result. -/
inductive AtomicError (E : Type)
  | keyReused
  | inProgress
  | noResultFound
  | business (error : E)
  /-- The session could not be flushed once the business function had returned. -/
  | flush (error : E)
  deriving DecidableEq

inductive AtomicPhase (R E : Type)
  | inserting
  /-- The reservation is inserted, and the business function has not run. -/
  | reserved
  /-- The business function has returned the result, which is flushed. -/
  | executed (result : R)
  /-- The transaction was rolled back on an `IntegrityError`. -/
  | resolving
  | returned (isReplay : Bool) (result : R)
  | raised (error : AtomicError E)
  | crashed
  deriving DecidableEq

/-- Which exceptions are `IntegrityError`s, and what flushing the writes and the result of a business
function does: it raises, or the JSON column holds what a later read of the result returns. -/
structure AtomicConfig (W R E : Type) where
  isIntegrityError : E → Bool
  flush : List W → R → Except E R

/-- A call, how far it has come, and what its business function did once it has run: the writes and
the result, or the exception. -/
structure AtomicCall (V W R E : Type) where
  request : IdempotencyRequest
  businessFn : V → Except E (List W × R)
  phase : AtomicPhase R E
  outcome : Option (Except E (List W × R))

/-- The table of the records with their writes, and the calls. -/
structure AtomicCalls (V W R E : Type) where
  table : Table ℕ (Execution W R)
  calls : ℕ → Option (AtomicCall V W R E)

/-- What a call does next; `view` is what the statements of the business function have read. -/
inductive AtomicAction (V : Type)
  | insert
  | execute (view : V)
  | commit
  | resolve
  | crash

/-- The start of a call, or its next action. -/
inductive AtomicStep (V W R E : Type)
  | start (n : ℕ) (request : IdempotencyRequest) (businessFn : V → Except E (List W × R))
  | act (n : ℕ) (action : AtomicAction V)

def resolveExisting {W R E : Type} [EmptyCollection R] (request : IdempotencyRequest)
    (committed : List (Execution W R)) : AtomicPhase R E :=
  match committed.find? fun execution => execution.scope == request.scope with
  | none => .raised .noResultFound
  | some existing =>
    if existing.request.fingerprint ≠ request.fingerprint then .raised .keyReused
    else
      match existing.status with
      | .succeeded => .returned true (existing.result.getD ∅)
      | .pending | .failed => .raised .inProgress

namespace AtomicCalls

variable {V W R E : Type}

def setCall (state : AtomicCalls V W R E) (n : ℕ) (call : AtomicCall V W R E) :
    AtomicCalls V W R E :=
  { state with calls := Function.update state.calls n (some call) }

def insert (state : AtomicCalls V W R E) (n : ℕ) (call : AtomicCall V W R E) :
    AtomicCalls V W R E :=
  match state.table.tryInsert Execution.scope n call.request.scope with
  | .waits => state
  | .violates => state.setCall n { call with phase := .resolving }
  | .inserted =>
    { state with table := state.table.insert n ⟨n, call.request, .pending, none, []⟩ }.setCall n
      { call with phase := .reserved }

/-- An exception inside the transaction rolls it back, and one that is an `IntegrityError` is not
raised. -/
def rollback (config : AtomicConfig W R E) (state : AtomicCalls V W R E) (n : ℕ)
    (call : AtomicCall V W R E) (error : E) (raised : AtomicError E) : AtomicCalls V W R E :=
  { state with table := state.table.rollback n }.setCall n
    { call with phase := if config.isIntegrityError error then .resolving else .raised raised }

/-- The business function runs, and its result is stored. -/
def execute (config : AtomicConfig W R E) (state : AtomicCalls V W R E) (n : ℕ)
    (call : AtomicCall V W R E) (view : V) : AtomicCalls V W R E :=
  match call.businessFn view with
  | .error error =>
    state.rollback config n { call with outcome := some (.error error) } error (.business error)
  | .ok (writes, result) =>
    match config.flush writes result with
    | .error error =>
      state.rollback config n { call with outcome := some (.ok (writes, result)) } error
        (.flush error)
    | .ok stored =>
      { state with table := state.table.updateOwn n (.succeed writes stored) }.setCall n
        { call with phase := .executed result, outcome := some (.ok (writes, result)) }

def crash (state : AtomicCalls V W R E) (n : ℕ) (call : AtomicCall V W R E) :
    AtomicCalls V W R E :=
  { state with table := state.table.rollback n }.setCall n { call with phase := .crashed }

def advance [EmptyCollection R] (config : AtomicConfig W R E) (state : AtomicCalls V W R E) (n : ℕ)
    (call : AtomicCall V W R E) : AtomicAction V → AtomicPhase R E → AtomicCalls V W R E
  | .insert, .inserting => state.insert n call
  | .execute view, .reserved => state.execute config n call view
  | .commit, .executed result =>
    { state with table := state.table.commit n }.setCall n
      { call with phase := .returned false result }
  | .resolve, .resolving =>
    state.setCall n { call with phase := resolveExisting call.request state.table.committed }
  | .crash, .inserting | .crash, .reserved | .crash, .executed _ | .crash, .resolving =>
    state.crash n call
  | _, _ => state

def step [EmptyCollection R] (config : AtomicConfig W R E) (state : AtomicCalls V W R E) :
    AtomicStep V W R E → AtomicCalls V W R E
  | .start n request businessFn =>
    match state.calls n with
    | none => state.setCall n ⟨request, businessFn, .inserting, none⟩
    | some _ => state
  | .act n action =>
    match state.calls n with
    | none => state
    | some call => state.advance config n call action call.phase

/-- No call was made yet, and nothing is recorded. -/
structure Initial (state : AtomicCalls V W R E) : Prop where
  table : state.table = .empty
  calls : ∀ n, state.calls n = none

def NoRows (table : Table ℕ (Execution W R)) (n : ℕ) : Prop :=
  (∀ entry ∈ table.uncommitted, entry.1 ≠ n) ∧ ∀ execution ∈ table.committed, execution.call ≠ n

/-- The business function of the call that made the execution has returned the result. -/
def Returned (state : AtomicCalls V W R E) (execution : Execution W R) (result : R) : Prop :=
  ∃ executed, state.calls execution.call = some executed ∧
    executed.outcome = some (.ok (execution.writes, result))

/-- What the calls of all keys come to in a state. -/
structure Once [EmptyCollection R] (config : AtomicConfig W R E) (state : AtomicCalls V W R E) :
    Prop where
  /-- At most one execution is committed for a key. -/
  at_most_one : ∀ scope,
    state.table.committed.countP (fun execution => execution.scope == scope) ≤ 1
  /-- A call that returns yields what the business function returned in the committed execution of
  its request. -/
  returned : ∀ n call isReplay result, state.calls n = some call →
    call.phase = .returned isReplay result →
    ∃ execution ∈ state.table.committed, execution.scope = call.request.scope ∧
      execution.request.fingerprint = call.request.fingerprint ∧
      state.Returned execution result
  /-- A call with another fingerprint than the committed execution writes nothing and raises that
  the key is reused, unless its own business function has raised, or its own result could not be
  stored. -/
  reused : ∀ n call, state.calls n = some call → ∀ execution ∈ state.table.committed,
    execution.scope = call.request.scope →
    execution.request.fingerprint ≠ call.request.fingerprint →
    NoRows state.table n ∧
      (call.phase = .inserting ∨ call.phase = .resolving ∨ call.phase = .crashed ∨
        call.phase = .raised .keyReused ∨ (∃ error, call.phase = .raised (.flush error)) ∨
        ∃ error, call.outcome = some (.error error) ∧ call.phase = .raised (.business error))
  /-- It does raise as soon as it has tried to insert its record. -/
  reused_raises : ∀ n call, state.calls n = some call → call.phase = .inserting →
    ∀ execution ∈ state.table.committed, execution.scope = call.request.scope →
    execution.request.fingerprint ≠ call.request.fingerprint →
    (Run.run (step config) state [.act n .insert, .act n .resolve]).calls n =
      some { call with phase := .raised .keyReused }
  /-- The exception of a business function reaches the caller, and nothing of the call survives. -/
  business_raises : ∀ n call error, state.calls n = some call →
    call.outcome = some (.error error) →
    call.phase = .raised (.business error) ∧ NoRows state.table n

/-- The business function that runs in the step raises no `IntegrityError`, nor does the flush of
what it returns, and a stored result reads back as it was returned. -/
def ReadsBack (config : AtomicConfig W R E) (state : AtomicCalls V W R E)
    (step : AtomicStep V W R E) : Prop :=
  ∀ n view, step = .act n (.execute view) → ∀ call, state.calls n = some call →
    call.phase = .reserved →
    match call.businessFn view with
    | .error error => config.isIntegrityError error = false
    | .ok (writes, result) =>
      match config.flush writes result with
      | .error error => config.isIntegrityError error = false
      | .ok stored => stored = result

end AtomicCalls

/-! ## The invariant -/

open AtomicCalls

def CommittedFor {W R : Type} (table : Table ℕ (Execution W R)) (request : IdempotencyRequest)
    (result : R) : Prop :=
  ∃ execution ∈ table.committed, execution.scope = request.scope ∧
    execution.request.fingerprint = request.fingerprint ∧ execution.result = some result

/-- The row of a call whose business function has returned. -/
structure Execution.Succeeded {W R E : Type} (execution : Execution W R)
    (outcome : Option (Except E (List W × R))) (result : R) : Prop where
  status_eq : execution.status = .succeeded
  result_eq : execution.result = some result
  outcome_eq : outcome = some (.ok (execution.writes, result))

def AtomicCall.Sound {V W R E : Type} (table : Table ℕ (Execution W R)) (n : ℕ)
    (call : AtomicCall V W R E) : Prop :=
  match call.phase with
  | .inserting => call.outcome = none ∧ NoRows table n
  | .reserved => call.outcome = none ∧ (∃ execution, (n, execution) ∈ table.uncommitted) ∧
      ∀ execution ∈ table.committed, execution.call ≠ n
  | .executed result => (∃ execution, (n, execution) ∈ table.uncommitted) ∧
      (∀ execution, (n, execution) ∈ table.uncommitted →
        execution.Succeeded call.outcome result) ∧
      ∀ execution ∈ table.committed, execution.call ≠ n
  | .resolving => call.outcome = none ∧ NoRows table n ∧
      ∃ execution ∈ table.committed, execution.scope = call.request.scope
  | .returned _ result => (∀ error, call.outcome ≠ some (.error error)) ∧
      CommittedFor table call.request result
  | .raised (.business error) => call.outcome = some (.error error) ∧ NoRows table n
  | .raised .keyReused => call.outcome = none ∧ NoRows table n
  | .raised (.flush _) => (∀ error, call.outcome ≠ some (.error error)) ∧ NoRows table n
  | .raised .inProgress | .raised .noResultFound => False
  | .crashed => (∀ error, call.outcome ≠ some (.error error)) ∧ NoRows table n

/-- The invariant of runs in which nothing raises an `IntegrityError` and the results read back. -/
structure AtomicCalls.Sound {V W R E : Type} (state : AtomicCalls V W R E) : Prop where
  unique : state.table.Unique Execution.scope
  call : ∀ n call, state.calls n = some call → call.Sound state.table n
  uncommitted : ∀ entry ∈ state.table.uncommitted, entry.2.call = entry.1 ∧
    ∃ call, state.calls entry.1 = some call ∧ entry.2.request = call.request
  committed : ∀ execution ∈ state.table.committed, ∃ call result,
    state.calls execution.call = some call ∧ execution.Succeeded call.outcome result

namespace AtomicCall.Sound

variable {V W R E : Type} {table table' : Table ℕ (Execution W R)} {n : ℕ}
  {call : AtomicCall V W R E}

lemma frame (h : call.Sound table n)
    (hown : ∀ execution, (n, execution) ∈ table'.uncommitted ↔ (n, execution) ∈ table.uncommitted)
    (hcommitted : ∀ execution ∈ table.committed, execution ∈ table'.committed)
    (hothers : ∀ execution ∈ table'.committed, execution ∈ table.committed ∨ execution.call ≠ n) :
    call.Sound table' n := by
  have hcall : (∀ execution ∈ table.committed, execution.call ≠ n) →
      ∀ execution ∈ table'.committed, execution.call ≠ n := by
    intro hnone execution hexecution
    rcases hothers execution hexecution with hold | hother
    · exact hnone execution hold
    · exact hother
  have hnoRows : NoRows table n → NoRows table' n := by
    rintro ⟨huncommitted, hnone⟩
    refine ⟨fun entry hentry heq => ?_, hcall hnone⟩
    obtain ⟨t, execution⟩ := entry
    obtain rfl : t = n := heq
    exact huncommitted _ ((hown execution).mp hentry) rfl
  obtain ⟨request, businessFn, phase, outcome⟩ := call
  cases phase with
  | inserting => exact ⟨h.1, hnoRows h.2⟩
  | reserved =>
    obtain ⟨houtcome, ⟨execution, hexecution⟩, hnone⟩ := h
    exact ⟨houtcome, ⟨execution, (hown execution).mpr hexecution⟩, hcall hnone⟩
  | executed result =>
    obtain ⟨⟨execution, hexecution⟩, hall, hnone⟩ := h
    exact ⟨⟨execution, (hown execution).mpr hexecution⟩,
      fun other hother => hall other ((hown other).mp hother), hcall hnone⟩
  | resolving =>
    obtain ⟨houtcome, hrows, execution, hexecution, hscope⟩ := h
    exact ⟨houtcome, hnoRows hrows, execution, hcommitted execution hexecution, hscope⟩
  | returned isReplay result =>
    obtain ⟨houtcome, execution, hexecution, hrest⟩ := h
    exact ⟨houtcome, execution, hcommitted execution hexecution, hrest⟩
  | raised error =>
    cases error with
    | business error => exact ⟨h.1, hnoRows h.2⟩
    | keyReused => exact ⟨h.1, hnoRows h.2⟩
    | flush error => exact ⟨h.1, hnoRows h.2⟩
    | inProgress | noResultFound => exact h
  | crashed => exact ⟨h.1, hnoRows h.2⟩

end AtomicCall.Sound

namespace AtomicCalls

variable {V W R E : Type} {state : AtomicCalls V W R E} {n : ℕ} {call : AtomicCall V W R E}

lemma Sound.setCall (hsound : state.Sound) {table : Table ℕ (Execution W R)}
    (hunique : table.Unique Execution.scope) {call' : AtomicCall V W R E}
    (hcall : call'.Sound table n)
    (hown : ∀ m, m ≠ n → ∀ execution,
      (m, execution) ∈ table.uncommitted ↔ (m, execution) ∈ state.table.uncommitted)
    (hnone : ∀ execution ∈ state.table.committed, execution.call ≠ n)
    (hcommitted : ∀ execution ∈ state.table.committed, execution ∈ table.committed)
    (hnew : ∀ execution ∈ table.committed, execution ∈ state.table.committed ∨
      (execution.call = n ∧ ∃ result, execution.Succeeded call'.outcome result))
    (hrows : ∀ execution, (n, execution) ∈ table.uncommitted →
      execution.call = n ∧ execution.request = call'.request) :
    ({ state with table := table }.setCall n call').Sound := by
  refine ⟨hunique, fun m other hm => ?_, fun entry hentry => ?_, fun execution hexecution => ?_⟩
  · by_cases heq : m = n
    · subst heq
      simp only [AtomicCalls.setCall, Function.update_self, Option.some.injEq] at hm
      exact hm ▸ hcall
    · simp only [AtomicCalls.setCall, Function.update_of_ne heq] at hm
      refine (hsound.call m other hm).frame (hown m heq) hcommitted fun execution hexecution => ?_
      rcases hnew execution hexecution with hold | ⟨hexecuted, -⟩
      · exact .inl hold
      · exact .inr (hexecuted ▸ Ne.symm heq)
  · obtain ⟨m, execution⟩ := entry
    by_cases heq : m = n
    · subst heq
      obtain ⟨hexecuted, hrequest⟩ := hrows execution hentry
      exact ⟨hexecuted, call', by simp [AtomicCalls.setCall], hrequest⟩
    · have hentry' := (hown m heq execution).mp hentry
      obtain ⟨hexecuted, other, hother, hrequest⟩ := hsound.uncommitted _ hentry'
      exact ⟨hexecuted, other, by simpa [AtomicCalls.setCall, Function.update_of_ne heq] using
        hother, hrequest⟩
  · rcases hnew execution hexecution with hold | ⟨hexecuted, result, hsucceeded⟩
    · obtain ⟨other, result, hother, hsucceeded⟩ := hsound.committed execution hold
      refine ⟨other, result, ?_, hsucceeded⟩
      simpa [AtomicCalls.setCall, Function.update_of_ne (hnone execution hold)] using hother
    · exact ⟨call', result, by simp [AtomicCalls.setCall, hexecuted], hsucceeded⟩

lemma Sound.setCall_self (hsound : state.Sound) {call' : AtomicCall V W R E}
    (hn : state.calls n = some call) (hrequest : call'.request = call.request)
    (hnone : ∀ execution ∈ state.table.committed, execution.call ≠ n)
    (hcall : call'.Sound state.table n) : (state.setCall n call').Sound := by
  refine hsound.setCall hsound.unique hcall (fun _ _ _ => Iff.rfl) hnone (fun _ h => h)
    (fun _ h => .inl h) fun execution hexecution => ?_
  obtain ⟨hexecuted, other, hother, heq⟩ := hsound.uncommitted _ hexecution
  rw [hn] at hother
  cases hother
  exact ⟨hexecuted, heq.trans hrequest.symm⟩

lemma Sound.start (hsound : state.Sound) (hn : state.calls n = none) (request : IdempotencyRequest)
    (businessFn : V → Except E (List W × R)) :
    (state.setCall n ⟨request, businessFn, .inserting, none⟩).Sound := by
  have hrows : ∀ entry ∈ state.table.uncommitted, entry.1 ≠ n := by
    rintro entry hentry rfl
    obtain ⟨-, other, hother, -⟩ := hsound.uncommitted entry hentry
    rw [hn] at hother
    cases hother
  have hnone : ∀ execution ∈ state.table.committed, execution.call ≠ n := by
    rintro execution hexecution rfl
    obtain ⟨other, -, hother, -⟩ := hsound.committed execution hexecution
    rw [hn] at hother
    cases hother
  exact hsound.setCall hsound.unique ⟨rfl, hrows, hnone⟩ (fun _ _ _ => Iff.rfl) hnone
    (fun _ h => h) (fun _ h => .inl h) fun execution hexecution =>
      absurd rfl (hrows _ hexecution)

lemma Sound.insert (hsound : state.Sound) (hn : state.calls n = some call)
    (hphase : call.phase = .inserting) : (state.insert n call).Sound := by
  have hcall := hsound.call n call hn
  simp only [AtomicCall.Sound, hphase] at hcall
  obtain ⟨houtcome, huncommitted, hcommitted⟩ := hcall
  unfold AtomicCalls.insert
  split
  · exact hsound
  · next hviolates =>
    have hexisting := Table.exists_committed_of_violates huncommitted hviolates
    exact hsound.setCall_self hn rfl hcommitted
      ⟨houtcome, ⟨huncommitted, hcommitted⟩, hexisting⟩
  · next hinserted =>
    refine hsound.setCall (hsound.unique.insert hinserted)
      ⟨houtcome, ⟨_, Table.mem_uncommitted_insert.mpr (.inr ⟨rfl, rfl⟩)⟩, hcommitted⟩
      (fun m hne execution => ?_) hcommitted (fun _ h => h) (fun _ h => .inl h)
      fun execution hexecution => ?_
    · simp [hne]
    · rcases Table.mem_uncommitted_insert.mp hexecution with hold | ⟨-, rfl⟩
      · exact absurd rfl (huncommitted _ hold)
      · exact ⟨rfl, rfl⟩

lemma Sound.rollbackCall (hsound : state.Sound) {call' : AtomicCall V W R E}
    (hnone : ∀ execution ∈ state.table.committed, execution.call ≠ n)
    (hcall : call'.Sound (state.table.rollback n) n) :
    ({ state with table := state.table.rollback n }.setCall n call').Sound := by
  refine hsound.setCall (hsound.unique.rollback n) hcall (fun m hne execution => ?_) hnone
    (fun _ h => h) (fun _ h => .inl h) fun execution hexecution => ?_
  · simp [hne]
  · exact absurd rfl (Table.mem_uncommitted_rollback.mp hexecution).2

lemma noRows_rollback {table : Table ℕ (Execution W R)}
    (hcommitted : ∀ execution ∈ table.committed, execution.call ≠ n) :
    NoRows (table.rollback n) n := by
  refine ⟨fun entry hentry => ?_, hcommitted⟩
  obtain ⟨m, execution⟩ := entry
  exact (Table.mem_uncommitted_rollback.mp hentry).2

lemma Sound.updateOwn (hsound : state.Sound) (hn : state.calls n = some call)
    (hreserved : ∃ execution, (n, execution) ∈ state.table.uncommitted)
    (hnone : ∀ execution ∈ state.table.committed, execution.call ≠ n) (writes : List W)
    (result : R) :
    ({ state with table := state.table.updateOwn n (.succeed writes result) }.setCall n
      { call with phase := .executed result, outcome := some (.ok (writes, result)) }).Sound := by
  obtain ⟨execution₀, hexecution₀⟩ := hreserved
  have hupdated : (state.table.updateOwn n (Execution.succeed writes result)).Unique
      Execution.scope := hsound.unique.updateOwn fun _ => rfl
  have hexecuted : ∃ execution, (n, execution) ∈
      (state.table.updateOwn n (Execution.succeed writes result)).uncommitted :=
    ⟨_, Table.mem_uncommitted_updateOwn_self.mpr ⟨execution₀, hexecution₀, rfl⟩⟩
  refine hsound.setCall hupdated ⟨hexecuted, fun execution hexecution => ?_, hnone⟩
    (fun m hne execution => Table.mem_uncommitted_updateOwn_of_ne hne) hnone (fun _ h => h)
    (fun _ h => .inl h) fun execution hexecution => ?_
  · obtain ⟨row, -, rfl⟩ := Table.mem_uncommitted_updateOwn_self.mp hexecution
    exact ⟨rfl, rfl, rfl⟩
  · obtain ⟨row, hrow, rfl⟩ := Table.mem_uncommitted_updateOwn_self.mp hexecution
    obtain ⟨hexecuted, other, hother, heq⟩ := hsound.uncommitted _ hrow
    rw [hn] at hother
    cases hother
    exact ⟨hexecuted, heq⟩

lemma Sound.execute (hsound : state.Sound) (hn : state.calls n = some call)
    (hphase : call.phase = .reserved) {config : AtomicConfig W R E} {view : V}
    (hback : state.ReadsBack config (.act n (.execute view))) :
    (state.execute config n call view).Sound := by
  have hcall := hsound.call n call hn
  simp only [AtomicCall.Sound, hphase] at hcall
  obtain ⟨-, hreserved, hnone⟩ := hcall
  have hback := hback n view rfl call hn hphase
  unfold AtomicCalls.execute AtomicCalls.rollback
  split
  · next error herror =>
    rw [herror] at hback
    refine hsound.rollbackCall hnone ?_
    simp only [AtomicCall.Sound, hback, Bool.false_eq_true, if_false]
    exact ⟨trivial, noRows_rollback hnone⟩
  · next writes result hreturned =>
    simp only [hreturned] at hback
    split
    · next error hflush =>
      rw [hflush] at hback
      refine hsound.rollbackCall hnone ?_
      simp only [AtomicCall.Sound, hback, Bool.false_eq_true, if_false]
      exact ⟨by simp, noRows_rollback hnone⟩
    · next stored hflush =>
      rw [hflush] at hback
      obtain rfl : stored = result := hback
      exact hsound.updateOwn hn hreserved hnone writes stored

lemma Sound.commit (hsound : state.Sound) (hn : state.calls n = some call) {result : R}
    (hphase : call.phase = .executed result) :
    ({ state with table := state.table.commit n }.setCall n
      { call with phase := .returned false result }).Sound := by
  have hcall := hsound.call n call hn
  simp only [AtomicCall.Sound, hphase] at hcall
  obtain ⟨⟨execution₀, hexecution₀⟩, hall, hnone⟩ := hcall
  have hown : ∀ execution, (n, execution) ∈ state.table.uncommitted →
      execution.call = n ∧ execution.request = call.request := by
    intro execution hexecution
    obtain ⟨hexecuted, other, hother, heq⟩ := hsound.uncommitted _ hexecution
    rw [hn] at hother
    cases hother
    exact ⟨hexecuted, heq⟩
  have hrequest := (hown execution₀ hexecution₀).2
  refine hsound.setCall (hsound.unique.commit n)
    ⟨by simp [(hall execution₀ hexecution₀).outcome_eq], execution₀,
      Table.mem_committed_commit.mpr (.inr hexecution₀), by rw [Execution.scope, hrequest],
      by rw [hrequest], (hall execution₀ hexecution₀).result_eq⟩
    (fun m hne execution => ?_) hnone
    (fun execution h => Table.mem_committed_commit.mpr (.inl h))
    (fun execution hexecution => ?_) fun execution hexecution => ?_
  · simp [hne]
  · rcases Table.mem_committed_commit.mp hexecution with hold | hnew
    · exact .inl hold
    · exact .inr ⟨(hown execution hnew).1, result, hall execution hnew⟩
  · exact absurd rfl (Table.mem_uncommitted_commit.mp hexecution).2

lemma Sound.crash (hsound : state.Sound) (houtcome : ∀ error, call.outcome ≠ some (.error error))
    (hcommitted : ∀ execution ∈ state.table.committed, execution.call ≠ n) :
    (state.crash n call).Sound :=
  hsound.rollbackCall hcommitted ⟨houtcome, noRows_rollback hcommitted⟩

section Resolve

variable [EmptyCollection R]

variable {execution : Execution W R}

lemma resolveExisting_of_committed (hsound : state.Sound) {request : IdempotencyRequest}
    (hexecution : execution ∈ state.table.committed) (hscope : execution.scope = request.scope) :
    ∃ result, execution.result = some result ∧
      (resolveExisting request state.table.committed : AtomicPhase R E) =
        if execution.request.fingerprint ≠ request.fingerprint then .raised .keyReused
        else .returned true result := by
  obtain ⟨-, result, -, hstatus, hresult, -⟩ := hsound.committed execution hexecution
  refine ⟨result, hresult, ?_⟩
  have hfound : state.table.committed.find? (fun other => other.scope == request.scope) =
      some execution := by
    have hatMostOne : AtMostOne state.table.committed fun other => other.scope == request.scope :=
      hsound.unique.uniqueOn_committed.atMostOne fun _ h => beq_iff_eq.mp h
    exact (find?_eq_some_iff hatMostOne).mpr ⟨hexecution, beq_iff_eq.mpr hscope⟩
  unfold resolveExisting
  rw [hfound]
  simp only [hstatus, hresult, Option.getD_some]

lemma Sound.resolve (hsound : state.Sound) (hn : state.calls n = some call)
    (hphase : call.phase = .resolving) :
    (state.setCall n
      { call with phase := resolveExisting call.request state.table.committed }).Sound := by
  have hcall := hsound.call n call hn
  simp only [AtomicCall.Sound, hphase] at hcall
  obtain ⟨houtcome, hrows, execution, hexecution, hscope⟩ := hcall
  obtain ⟨result, hresult, hresolved⟩ :=
    resolveExisting_of_committed (E := E) hsound hexecution hscope
  refine hsound.setCall_self hn rfl hrows.2 ?_
  rw [hresolved]
  split
  · exact ⟨houtcome, hrows⟩
  · next hfingerprint =>
    refine ⟨fun error h => ?_, execution, hexecution, hscope, not_ne_iff.mp hfingerprint, hresult⟩
    rw [houtcome] at h
    cases h

lemma Sound.advance (hsound : state.Sound) (hn : state.calls n = some call)
    {config : AtomicConfig W R E} {action : AtomicAction V}
    (hback : state.ReadsBack config (.act n action)) :
    (state.advance config n call action call.phase).Sound := by
  have hcall := hsound.call n call hn
  unfold AtomicCalls.advance
  split
  · next hphase => exact hsound.insert hn hphase
  · next view hphase => exact hsound.execute hn hphase hback
  · next result hphase => exact hsound.commit hn hphase
  · next hphase => exact hsound.resolve hn hphase
  · next hphase =>
    simp only [AtomicCall.Sound, hphase] at hcall
    exact hsound.crash (by simp [hcall.1]) hcall.2.2
  · next hphase =>
    simp only [AtomicCall.Sound, hphase] at hcall
    exact hsound.crash (by simp [hcall.1]) hcall.2.2
  · next hphase =>
    simp only [AtomicCall.Sound, hphase] at hcall
    obtain ⟨⟨execution, hexecution⟩, hall, hnone⟩ := hcall
    exact hsound.crash (by simp [(hall execution hexecution).outcome_eq]) hnone
  · next hphase =>
    simp only [AtomicCall.Sound, hphase] at hcall
    exact hsound.crash (by simp [hcall.1]) hcall.2.1.2
  · exact hsound

lemma Sound.step (hsound : state.Sound) {config : AtomicConfig W R E} {step : AtomicStep V W R E}
    (hback : state.ReadsBack config step) : (state.step config step).Sound := by
  cases step with
  | start n request businessFn =>
    dsimp only [AtomicCalls.step]
    split
    · next hn => exact hsound.start hn request businessFn
    · exact hsound
  | act n action =>
    dsimp only [AtomicCalls.step]
    split
    · exact hsound
    · next call hn => exact hsound.advance hn hback

omit [EmptyCollection R] in
lemma Initial.sound (h : state.Initial) : state.Sound := by
  obtain ⟨htable, hcalls⟩ := h
  refine ⟨?_, fun n call hn => ?_, fun entry hentry => ?_, fun execution hexecution => ?_⟩
  · rw [htable]
    exact List.nodup_nil
  · rw [hcalls] at hn
    cases hn
  · rw [htable] at hentry
    cases hentry
  · rw [htable] at hexecution
    cases hexecution

omit [EmptyCollection R] in
lemma Sound.reused (hsound : state.Sound) (hn : state.calls n = some call)
    (hexecution : execution ∈ state.table.committed) (hscope : execution.scope = call.request.scope)
    (hfingerprint : execution.request.fingerprint ≠ call.request.fingerprint) :
    NoRows state.table n ∧
      (call.phase = .inserting ∨ call.phase = .resolving ∨ call.phase = .crashed ∨
        call.phase = .raised .keyReused ∨ (∃ error, call.phase = .raised (.flush error)) ∨
        ∃ error, call.outcome = some (.error error) ∧ call.phase = .raised (.business error)) := by
  have hcall := hsound.call n call hn
  have hfree : ∀ other, (n, other) ∉ state.table.uncommitted := by
    intro other hother
    obtain ⟨-, call', hn', hrequest⟩ := hsound.uncommitted _ hother
    rw [hn] at hn'
    cases hn'
    refine hsound.unique.key_ne hexecution hother ?_
    rw [hscope, Execution.scope, hrequest]
  unfold AtomicCall.Sound at hcall
  cases hphase : call.phase with
  | inserting =>
    rw [hphase] at hcall
    exact ⟨hcall.2, .inl rfl⟩
  | reserved =>
    rw [hphase] at hcall
    obtain ⟨-, ⟨other, hother⟩, -⟩ := hcall
    exact absurd hother (hfree other)
  | executed result =>
    rw [hphase] at hcall
    obtain ⟨⟨other, hother⟩, -⟩ := hcall
    exact absurd hother (hfree other)
  | resolving =>
    rw [hphase] at hcall
    exact ⟨hcall.2.1, .inr (.inl rfl)⟩
  | returned isReplay result =>
    rw [hphase] at hcall
    obtain ⟨-, other, hother, hscope', hfingerprint', -⟩ := hcall
    have heq : execution = other := hsound.unique.uniqueOn_committed.eq_of_key_eq hexecution hother
      (hscope.trans hscope'.symm)
    exact absurd (heq ▸ hfingerprint') hfingerprint
  | raised error =>
    rw [hphase] at hcall
    cases error with
    | business error =>
      exact ⟨hcall.2, .inr (.inr (.inr (.inr (.inr ⟨error, hcall.1, rfl⟩))))⟩
    | flush error => exact ⟨hcall.2, .inr (.inr (.inr (.inr (.inl ⟨error, rfl⟩))))⟩
    | keyReused => exact ⟨hcall.2, .inr (.inr (.inr (.inl rfl)))⟩
    | inProgress => exact hcall.elim
    | noResultFound => exact hcall.elim
  | crashed =>
    rw [hphase] at hcall
    exact ⟨hcall.2, .inr (.inr (.inl rfl))⟩

lemma Sound.reused_raises (hsound : state.Sound) (config : AtomicConfig W R E)
    (hn : state.calls n = some call) (hphase : call.phase = .inserting)
    (hexecution : execution ∈ state.table.committed) (hscope : execution.scope = call.request.scope)
    (hfingerprint : execution.request.fingerprint ≠ call.request.fingerprint) :
    (Run.run (AtomicCalls.step config) state [.act n .insert, .act n .resolve]).calls n =
      some { call with phase := .raised .keyReused } := by
  have hviolates : state.table.tryInsert Execution.scope n call.request.scope = .violates := by
    rw [← hscope]
    exact Table.tryInsert_of_committed hexecution hsound.unique
  have hinsert : state.step config (.act n .insert) =
      state.setCall n { call with phase := .resolving } := by
    simp only [AtomicCalls.step, hn, hphase, AtomicCalls.advance, AtomicCalls.insert, hviolates]
  obtain ⟨result, -, hresolved⟩ := resolveExisting_of_committed (E := E) hsound hexecution hscope
  rw [if_pos hfingerprint] at hresolved
  rw [Run.run_cons, Run.run_cons, Run.run_nil, hinsert]
  simp only [AtomicCalls.step, AtomicCalls.setCall, Function.update_self, AtomicCalls.advance,
    hresolved]

omit [EmptyCollection R] in
lemma Sound.business_raises (hsound : state.Sound) (hn : state.calls n = some call) {error : E}
    (houtcome : call.outcome = some (.error error)) :
    call.phase = .raised (.business error) ∧ NoRows state.table n := by
  have hcall := hsound.call n call hn
  unfold AtomicCall.Sound at hcall
  split at hcall
  case h_6 other hphase =>
    rw [houtcome] at hcall
    obtain ⟨hother, hrows⟩ := hcall
    cases hother
    exact ⟨hphase, hrows⟩
  case h_3 hphase =>
    obtain ⟨⟨execution, hexecution⟩, hall, -⟩ := hcall
    rw [(hall execution hexecution).outcome_eq] at houtcome
    cases houtcome
  all_goals simp_all

omit [EmptyCollection R] in
lemma Sound.returned (hsound : state.Sound) {request : IdempotencyRequest} {result : R}
    (h : CommittedFor state.table request result) :
    ∃ execution ∈ state.table.committed, execution.scope = request.scope ∧
      execution.request.fingerprint = request.fingerprint ∧ state.Returned execution result := by
  obtain ⟨execution, hexecution, hscope, hfingerprint, hresult⟩ := h
  obtain ⟨executed, stored, hexecuted, -, hstored, houtcome⟩ :=
    hsound.committed execution hexecution
  obtain rfl : stored = result := Option.some.inj (hstored.symm.trans hresult)
  exact ⟨execution, hexecution, hscope, hfingerprint, executed, hexecuted, houtcome⟩

lemma Sound.once (hsound : state.Sound) (config : AtomicConfig W R E) : state.Once config where
  at_most_one := hsound.unique.countP_committed_le_one
  returned n call isReplay result hn hphase := by
    have hcall := hsound.call n call hn
    simp only [AtomicCall.Sound, hphase] at hcall
    exact hsound.returned hcall.2
  reused n call hn execution hexecution hscope hfingerprint :=
    hsound.reused hn hexecution hscope hfingerprint
  reused_raises n call hn hphase execution hexecution hscope hfingerprint :=
    hsound.reused_raises config hn hphase hexecution hscope hfingerprint
  business_raises n call error hn houtcome := hsound.business_raises hn houtcome

/-- **At most once.**  In every run, from no records on, in which neither a business function nor the
flush of its result raises an `IntegrityError` and the stored results read back as they were
returned, at most one execution is committed for a key, the calls that return yield what its
business function returned, those with another fingerprint are refused, and exceptions reach their
callers with nothing written. -/
theorem run_once (hinitial : state.Initial) {config : AtomicConfig W R E}
    {steps : List (AtomicStep V W R E)}
    (hback : Run.Along (step config) (ReadsBack config) state steps) :
    Run.Always (step config) (Once config) state steps := by
  have hsound := Run.always_of_along (I := Sound)
    (fun state event hsound h => hsound.step h) hinitial.sound hback
  exact fun before after hsteps => (hsound before after hsteps).once config

end Resolve

end AtomicCalls

/-- What the transactions of the examples may raise. -/
inductive SeatError
  | integrityError
  | seatLimitExceeded
  | typeError
  deriving DecidableEq

/-- A value of a result: JSON has no tuples, and no sets. -/
inductive SeatValue
  | str (s : String)
  | list (items : List String)
  | tuple (items : List String)
  | set (items : List String)
  deriving DecidableEq

def SeatValue.readBack : SeatValue → Except SeatError SeatValue
  | .str s => .ok (.str s)
  | .list items | .tuple items => .ok (.list items)
  | .set _ => .error .typeError

/-- The transactions of the examples, which store dictionaries of such values. -/
def seatConfig : AtomicConfig String (List (String × SeatValue)) SeatError where
  isIntegrityError error := error == .integrityError
  flush _ result := result.mapM fun entry => entry.2.readBack.map fun value => (entry.1, value)

/-- Adds a seat for a member, of which there are at most two; the seats that it reads are the first
of the pair, and the second one says that another transaction has just inserted the same seat. -/
def addSeat (member : String) (view : List String × Bool) :
    Except SeatError (List String × List (String × SeatValue)) :=
  if 2 ≤ view.1.length then .error .seatLimitExceeded
  else if member ∈ view.1 ∨ view.2 then .error .integrityError
  else .ok ([member], [("seat", .str member)])

/-- Returns the seats as the tuple in which it has them. -/
def listSeats (view : List String × Bool) :
    Except SeatError (List String × List (String × SeatValue)) :=
  .ok ([], [("seats", .tuple view.1)])

def seatRequest (fingerprint : String) : IdempotencyRequest :=
  ⟨1, "seats.add", "seat-1", fingerprint⟩

def noAtomicCalls :
    AtomicCalls (List String × Bool) String (List (String × SeatValue)) SeatError where
  table := .empty
  calls := fun _ => none

def seatCalls :
    List (AtomicStep (List String × Bool) String (List (String × SeatValue)) SeatError) :=
  [.start 1 (seatRequest "f1") (addSeat "ada"), .start 2 (seatRequest "f1") (addSeat "ada"),
    .act 1 .insert, .act 2 .insert, .act 1 (.execute ([], false)), .act 2 .insert, .act 1 .commit,
    .act 2 .insert, .act 2 .resolve, .start 3 (seatRequest "f2") (addSeat "bob"), .act 3 .insert,
    .act 3 .resolve]

/-- The second call returns the result of the first one, and the third one is refused. -/
theorem run_once_seats :
    ((Run.run (AtomicCalls.step seatConfig) noAtomicCalls seatCalls).calls 2).map
        AtomicCall.phase = some (.returned true [("seat", .str "ada")]) ∧
      ((Run.run (AtomicCalls.step seatConfig) noAtomicCalls seatCalls).calls 3).map
        AtomicCall.phase = some (.raised .keyReused) ∧
      Run.Always (AtomicCalls.step seatConfig) (AtomicCalls.Once seatConfig) noAtomicCalls
        seatCalls := by
  refine ⟨by decide +kernel, by decide +kernel, AtomicCalls.run_once ⟨rfl, fun _ => rfl⟩ ?_⟩
  refine ⟨?_, ?_, ?_, ?_, ?_, ?_, ?_, ?_, ?_, ?_, ?_, ?_, trivial⟩
  all_goals rintro n view hstep
  case refine_5 =>
    cases hstep
    rintro call hcall -
    cases hcall
    rfl
  all_goals cases hstep

def seatTaken :
    List (AtomicStep (List String × Bool) String (List (String × SeatValue)) SeatError) :=
  [.start 1 (seatRequest "f1") (addSeat "ada"), .act 1 .insert, .act 1 (.execute ([], true)),
    .act 1 .resolve]

def seatsListedTwice :
    List (AtomicStep (List String × Bool) String (List (String × SeatValue)) SeatError) :=
  [.start 1 (seatRequest "f1") listSeats, .act 1 .insert, .act 1 (.execute (["ada"], false)),
    .act 1 .commit, .start 2 (seatRequest "f1") listSeats, .act 2 .insert, .act 2 .resolve]

/-- The `IntegrityError` of the business function does not reach the caller, and a repeated call
returns a list where the first one has returned a tuple. -/
theorem seatTaken_not_once :
    addSeat "ada" ([], true) = .error .integrityError ∧
      ((Run.run (AtomicCalls.step seatConfig) noAtomicCalls seatTaken).calls 1).map
        AtomicCall.phase = some (.raised .noResultFound) ∧
      ¬ Run.Always (AtomicCalls.step seatConfig) (AtomicCalls.Once seatConfig) noAtomicCalls
        seatTaken ∧
      ((Run.run (AtomicCalls.step seatConfig) noAtomicCalls seatsListedTwice).calls 1).map
        AtomicCall.phase = some (.returned false [("seats", .tuple ["ada"])]) ∧
      ((Run.run (AtomicCalls.step seatConfig) noAtomicCalls seatsListedTwice).calls 2).map
        AtomicCall.phase = some (.returned true [("seats", .list ["ada"])]) ∧
      ¬ Run.Always (AtomicCalls.step seatConfig) (AtomicCalls.Once seatConfig) noAtomicCalls
        seatsListedTwice := by
  refine ⟨by decide, by decide +kernel, fun halways => ?_, by decide +kernel, by decide +kernel,
    fun halways => ?_⟩
  · have honce := halways seatTaken [] (List.append_nil _).symm
    have hraised := (honce.business_raises 1 ⟨seatRequest "f1", addSeat "ada",
      .raised .noResultFound, some (.error .integrityError)⟩ .integrityError rfl rfl).1
    cases hraised
  · have honce := halways seatsListedTwice [] (List.append_nil _).symm
    obtain ⟨execution, hexecution, -, -, executed, hexecuted, houtcome⟩ :=
      honce.returned 2 ⟨seatRequest "f1", listSeats, .returned true [("seats", .list ["ada"])],
        none⟩ true _ rfl rfl
    obtain rfl : execution = ⟨1, seatRequest "f1", .succeeded,
      some [("seats", .list ["ada"])], []⟩ := List.mem_singleton.mp hexecution
    cases hexecuted
    cases houtcome

end SaasOs
