import SaasOs.Foundation.Run
import SaasOs.Foundation.SerialOrder
import SaasOs.Foundation.UniqueInsert
import SaasOs.Schema.Tables

/-!
# Overrides of feature flags

`set_tenant_override` reads the override of a flag without a lock and then inserts a row, updates the
row that it has read, or emits no statement; `remove_tenant_override` locks the row and deletes it.
Calls run in any number and any order, each in one transaction under `READ COMMITTED`; a set whose
insertion violates the unique key starts once more.
-/

namespace SaasOs.FeatureFlags

open UniqueInsert SerialOrder

/-! ## Rows -/

structure OverrideKey where
  tenantId : Uuid
  flagId : Uuid
  deriving DecidableEq

structure FeatureFlagTenantOverride where
  id : Uuid
  key : OverrideKey
  enabled : Bool
  deriving DecidableEq

inductive Operation
  | set (enabled : Bool)
  | remove

/-- A call of `set_tenant_override` or `remove_tenant_override`. -/
structure Request where
  key : OverrideKey
  operation : Operation

/-- The rows that a transaction writes to the platform's audit log and to the tenant's. -/
inductive AuditRow
  | platform (key : OverrideKey) (enabled : Option Bool)
  | tenant (key : OverrideKey) (enabled : Option Bool)

/-- What a transaction writes to the overrides. -/
inductive Change
  | nothing
  | update (row : FeatureFlagTenantOverride)
  | insert (row : FeatureFlagTenantOverride)
  | delete (row : FeatureFlagTenantOverride)
  deriving DecidableEq

/-- The errors that a call may end with. -/
inductive OverrideError
  | integrityError
  | staleDataError
  | invalidRequestError
  deriving DecidableEq

/-- Where a call is: authorized, and past the fence of the tenant; a set has read a row, or none; a
remove has begun its locking read, with the row that its snapshot shows, or has locked it; the
statement of the change was emitted; all is ready to be committed; the call has ended. -/
inductive Phase
  | called
  | found (row : FeatureFlagTenantOverride)
  | absent
  | selecting (id : Option Uuid)
  | locked (row : FeatureFlagTenantOverride)
  | flushed (change : Change) (row : FeatureFlagTenantOverride)
  | ready (change : Change) (result : Option FeatureFlagTenantOverride)
  | returned (change : Change) (result : Option FeatureFlagTenantOverride)
  | raised (error : OverrideError)
  deriving DecidableEq

structure Call where
  request : Request
  retried : Bool
  phase : Phase

/-- The enabled value of the override of each key, if there is one. -/
abbrev View := OverrideKey → Option Bool

/-- The overrides, the locks of their rows with the calls that hold them, the number of ids given
out, the audit rows with the calls that committed them, the calls, and what has happened. -/
structure FlagState where
  overrides : Table ℕ FeatureFlagTenantOverride
  locks : Uuid → Option ℕ
  nextId : Uuid
  audit : List (ℕ × AuditRow)
  calls : ℕ → Option Call
  history : List (Happening View)

/-- A call begins, or goes on with its next statement or its commit. -/
inductive FlagEvent
  | call (n : ℕ) (request : Request)
  | proceed (n : ℕ)

/-! ## Steps -/

def findKey (rows : List FeatureFlagTenantOverride) (key : OverrideKey) :
    Option FeatureFlagTenantOverride :=
  rows.find? fun row => decide (row.key = key)

def findId (rows : List FeatureFlagTenantOverride) (id : Uuid) :
    Option FeatureFlagTenantOverride :=
  rows.find? fun row => decide (row.id = id)

def view (table : Table ℕ FeatureFlagTenantOverride) : View :=
  fun key => (findKey table.committed key).map (·.enabled)

def auditRows (request : Request) : Change → List AuditRow
  | .delete _ => [.platform request.key none, .tenant request.key none]
  | .nothing | .update _ | .insert _ =>
    match request.operation with
    | .set enabled => [.platform request.key (some enabled), .tenant request.key (some enabled)]
    | .remove => []

def Change.commit (n : ℕ) (table : Table ℕ FeatureFlagTenantOverride) :
    Change → Table ℕ FeatureFlagTenantOverride
  | nothing => table
  | update row => table.update fun other => if other.id = row.id then row else other
  | insert _ => table.commit n
  | delete row => table.delete fun other => decide (other.id = row.id)

namespace FlagState

def isWritten (state : FlagState) (id : Uuid) : Bool :=
  match (state.locks id).bind state.calls with
  | none => false
  | some call =>
    match call.phase with
    | .flushed _ _ | .ready _ _ => true
    | _ => false

/-- The call at `n` enters a phase. -/
def enter (state : FlagState) (n : ℕ) (call : Call) (phase : Phase) : FlagState :=
  { state with calls := Function.update state.calls n (some { call with phase := phase }) }

/-- The call at `n` locks a row. -/
def lock (state : FlagState) (n : ℕ) (id : Uuid) : FlagState :=
  { state with locks := Function.update state.locks id (some n) }

/-- The transaction of the call at `n` commits its change and its audit rows, and lets its locks
go. -/
def commit (state : FlagState) (n : ℕ) (call : Call) (change : Change) : FlagState :=
  { state with
    overrides := change.commit n state.overrides
    locks := fun id => if state.locks id = some n then none else state.locks id
    audit := state.audit ++ (auditRows call.request change).map (Prod.mk n)
    history := state.history ++ [.committed (view (change.commit n state.overrides)), .ended n] }

def insert (state : FlagState) (n : ℕ) (call : Call) (enabled : Bool) : FlagState :=
  let row := ⟨state.nextId, call.request.key, enabled⟩
  { state with
    overrides := state.overrides.insert n row
    nextId := state.nextId + 1 }.enter n call (.flushed (.insert row) row)

/-- The insertion of a set has violated the key: its transaction, which holds no lock and has
written nothing else, is rolled back, and starts once more. -/
def violate (state : FlagState) (n : ℕ) (call : Call) : FlagState :=
  if call.retried then state.enter n call (.raised .integrityError)
  else state.enter n { call with retried := true } .called

def proceed (state : FlagState) (n : ℕ) (call : Call) : FlagState :=
  match call.phase, call.request.operation with
  | .called, .set _ =>
    match findKey state.overrides.committed call.request.key with
    | some row => state.enter n call (.found row)
    | none => state.enter n call .absent
  | .called, .remove =>
    state.enter n call
      (.selecting ((findKey state.overrides.committed call.request.key).map (·.id)))
  | .found row, .set enabled =>
    if row.enabled = enabled then state.enter n call (.flushed .nothing row)
    else
      match state.locks row.id, findId state.overrides.committed row.id with
      | some _, _ => state
      | none, none => state.enter n call (.raised .staleDataError)
      | none, some _ =>
        (state.lock n row.id).enter n call
          (.flushed (.update { row with enabled := enabled }) { row with enabled := enabled })
  | .absent, .set enabled =>
    match state.overrides.tryInsert (·.key) n call.request.key with
    | .waits => state
    | .inserted => state.insert n call enabled
    | .violates =>
      -- the insertion waits for the transaction that has written the row, too
      if (findKey state.overrides.committed call.request.key).any (state.isWritten ·.id) then state
      else state.violate n call
  | .flushed .nothing row, .set _ =>
    match findId state.overrides.committed row.id with
    | none => state.enter n call (.raised .invalidRequestError)
    | some row' => state.enter n call (.ready .nothing (some row'))
  | .flushed change row, .set _ => state.enter n call (.ready change (some row))
  -- the row is looked at again when the lock is free
  | .selecting none, .remove => state.enter n call (.ready .nothing none)
  | .selecting (some id), .remove =>
    match state.locks id, findId state.overrides.committed id with
    | some _, _ => state
    | none, none => state.enter n call (.ready .nothing none)
    | none, some row => (state.lock n id).enter n call (.locked row)
  | .locked row, .remove => state.enter n call (.ready (.delete row) none)
  | .ready change result, _ => (state.commit n call change).enter n call (.returned change result)
  | _, _ => state

def step (state : FlagState) : FlagEvent → FlagState
  | .call n request =>
    match state.calls n with
    | none =>
      { state with
        calls := Function.update state.calls n (some ⟨request, false, .called⟩)
        history := state.history ++ [.began n] }
    | some _ => state
  | .proceed n =>
    match state.calls n with
    | some call => state.proceed n call
    | none => state

def initial : FlagState := ⟨Table.empty, fun _ => none, 0, [], fun _ => none, []⟩

end FlagState

/-! ## What is promised -/

def apply (request : Request) (view : View) : View :=
  match request.operation with
  | .set enabled => Function.update view request.key (some enabled)
  | .remove => Function.update view request.key none

def FlagState.requests (state : FlagState) (n : ℕ) : Option Request :=
  (state.calls n).map (·.request)

/-- The number of statements and commits that a call has at most before it, the second attempt of a
set included. -/
def Call.remaining (call : Call) : ℕ :=
  (if call.retried then 0 else 6) +
    match call.phase with
    | .called => 5
    | .found _ | .absent | .selecting _ => 4
    | .locked _ => 3
    | .flushed _ _ => 2
    | .ready _ _ => 1
    | .returned _ _ | .raised _ => 0

def Goes (state : FlagState) (n : ℕ) (call : Call) : Prop :=
  ∃ next, (state.proceed n call).calls n = some next ∧ next.remaining < call.remaining

/-- **The overrides are serializable and evidenced.** -/
structure Serializable (state : FlagState) : Prop where
  /-- There is never more than one override of a tenant and a flag. -/
  single : ∀ key, state.overrides.committed.countP (·.key == key) ≤ 1
  /-- No call ends with an error. -/
  normal : ∀ n call, state.calls n = some call → ∀ error, call.phase ≠ .raised error
  /-- A call that has not returned goes on, or waits for another one that does. -/
  live : ∀ n call, state.calls n = some call → (∀ change result, call.phase ≠ .returned change result) →
    Goes state n call ∨ ∃ m other, state.calls m = some other ∧ Goes state m other
  /-- The committed states are those of a serial order of the calls, in which a call that ended
  before another one began stands before it. -/
  serial : ∃ order, Explains apply state.requests (fun _ => none) state.history order
    (view state.overrides) ∧
    (∀ n call change result, state.calls n = some call → call.phase = .returned change result →
      n ∈ order.map Prod.fst) ∧
    -- after the last set with no later remove the override has that set's value
    ∀ before n request after enabled, order = before ++ (n, request) :: after →
      request.operation = .set enabled → (∀ later ∈ after, later.2.key ≠ request.key) →
      view state.overrides request.key = some enabled
  /-- A call that has returned has committed its audit rows, any other call none. -/
  evidenced : ∀ n call, state.calls n = some call →
    (state.audit.filter (·.1 = n)).map Prod.snd =
      match call.phase with
      | .returned change _ => auditRows call.request change
      | _ => []

/-- **Nothing was removed, or inserted, in between**: where a set writes the row that it has read or
refreshes it, the row is still there; and where the second attempt of a set inserts a row, no
committed row has its key, unless that one is being written. -/
def Undisturbed (state : FlagState) : FlagEvent → Prop
  | .call _ _ => True
  | .proceed n =>
    match state.calls n with
    | none => True
    | some call =>
      match call.phase, call.request.operation with
      | .found row, .set enabled => row.enabled ≠ enabled → state.locks row.id = none →
          ∃ other ∈ state.overrides.committed, other.id = row.id
      | .flushed .nothing row, .set _ => ∃ other ∈ state.overrides.committed, other.id = row.id
      | .absent, .set _ => call.retried = true →
          ∀ other ∈ state.overrides.committed, other.key = call.request.key →
            state.isWritten other.id = true
      | _, _ => True

section Counterexample

def setRemoved : List FlagEvent :=
  [.call 0 ⟨⟨1, 2⟩, .set true⟩, .proceed 0, .proceed 0, .proceed 0, .proceed 0,
    .call 1 ⟨⟨1, 2⟩, .set false⟩, .proceed 1,
    .call 2 ⟨⟨1, 2⟩, .remove⟩, .proceed 2, .proceed 2, .proceed 2, .proceed 2,
    .proceed 1]

/-- The second set fails. -/
theorem setRemoved_raises :
    ((Run.run FlagState.step FlagState.initial setRemoved).calls 1).map (·.phase) =
        some (.raised .staleDataError) ∧
      ¬ Run.Always FlagState.step Serializable FlagState.initial setRemoved := by
  have hraised : ((Run.run FlagState.step FlagState.initial setRemoved).calls 1).map (·.phase) =
      some (.raised .staleDataError) := by
    decide +kernel
  refine ⟨hraised, fun h => ?_⟩
  obtain ⟨call, hcall, hphase⟩ := Option.map_eq_some_iff.1 hraised
  exact (h setRemoved [] (List.append_nil _).symm).normal 1 call hcall _ hphase

end Counterexample

end SaasOs.FeatureFlags
