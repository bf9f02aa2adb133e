import SaasOs.Schema.Tables

/-!
# The tenant scope of a session

`session_scope` and `tenant_session_scope` run a transaction on a connection of the pool;
`bind_tenant_scope` sets `app.tenant_id` for a block of it and sets it back at the end; a block of a
savepoint is released or rolled back at its end.  Statements fail, which aborts the transaction until
a savepoint or all of it is rolled back, connections are lost, and exceptions are raised and caught
anywhere.
-/

namespace SaasOs.Database

/-! ## Connections -/

/-- `app.tenant_id`: never set, empty, or the text of an id. -/
inductive Setting
  | unset
  | empty
  | tenant (id : Uuid)
  deriving DecidableEq

/-- `NULLIF(current_setting('app.tenant_id', true), '')::uuid`. -/
def Setting.denotes : Setting → Option Uuid
  | unset => none
  | empty => none
  | tenant id => some id

/-- `coalesce(current_setting('app.tenant_id', true), '')`, as it is set back. -/
def Setting.coalesced : Setting → Setting
  | unset => empty
  | empty => empty
  | tenant id => tenant id

/-- A row of a table with `tenant_rls_statements` or `tenant_context_exclusion_statements`. -/
inductive TableRow
  | tenantOwned (tenantId : Uuid)
  | platform
  deriving DecidableEq

/-- The row security policy: a row is seen under its own tenant, a platform row without one. -/
def policy (setting : Setting) : TableRow → Bool
  | .tenantOwned tenantId => decide (setting.denotes = some tenantId)
  | .platform => decide (setting.denotes = none)

/-- The transaction goes on, has failed until a rollback, or has lost its connection. -/
inductive Status
  | active
  | aborted
  | lost
  deriving DecidableEq

/-- A connection: the setting, the status of its transaction, and the setting at each savepoint, the
last one first. -/
structure Connection where
  setting : Setting
  status : Status
  savepoints : List Setting
  deriving DecidableEq

/-- How the server answers a statement, if it can succeed at all. -/
inductive Reply
  | succeeds
  | fails
  | loses
  deriving DecidableEq

/-- What a statement or a block comes to for the program. -/
inductive Ending
  | returned
  | raised
  deriving DecidableEq

namespace Connection

def statement (connection : Connection) (reply : Reply) (effect : Connection → Connection) :
    Connection × Ending :=
  match connection.status, reply with
  | .active, .succeeds => (effect connection, .returned)
  | .active, .fails => ({ connection with status := .aborted }, .raised)
  | .active, .loses => ({ connection with status := .lost }, .raised)
  | .aborted, .loses => ({ connection with status := .lost }, .raised)
  | .aborted, _ => (connection, .raised)
  | .lost, _ => (connection, .raised)

/-- `ROLLBACK TO SAVEPOINT`, which also succeeds in an aborted transaction. -/
def rollbackTo (connection : Connection) (reply : Reply) : Connection :=
  match connection.status, reply, connection.savepoints with
  | .active, .succeeds, setting :: savepoints => ⟨setting, .active, savepoints⟩
  | .aborted, .succeeds, setting :: savepoints => ⟨setting, .active, savepoints⟩
  | _, _, _ => { connection with status := .lost }

def finish (resetsEmpty : Bool) : Connection :=
  ⟨if resetsEmpty then .empty else .unset, .active, []⟩

/-- `set_config('app.tenant_id', _, true)`. -/
def setConfig (connection : Connection) (setting : Setting) : Connection :=
  { connection with setting := setting }

end Connection

/-! ## Programs -/

/-- A statement on rows: one that finds rows, or one that inserts them. -/
inductive Access
  | finds (rows : List TableRow)
  | inserts (rows : List TableRow)

/-- The argument `tenant_id`: a UUID or not. -/
abbrev TenantArgument := Option Uuid

/-- What a program does in one of its runs: the statements and blocks of its sessions, each of which
is named by its connection, with the replies of the server. -/
inductive Program
  | skip
  | raise
  | seq (first second : Program)
  | attempt (body handler : Program)
  | access (n : ℕ) (reply : Reply) (access : Access)
  | bind (n : ℕ) (tenantId : TenantArgument) (read set restore : Reply) (body : Program)
  | savepoint (n : ℕ) (begins release rollback : Reply) (silent : Bool) (body : Program)
  | session (n : ℕ) (tenantId : Option TenantArgument) (set commit : Reply) (resetsEmpty : Bool)
      (body : Program)

/-- The sessions that are open, each with the tenant of its innermost block. -/
abbrev Scopes := ℕ → Option (Option Uuid)

/-- What is noted: the rows that a statement has touched, that a block of `bind_tenant_scope` was
left, with the setting before it, or a savepoint, or a session. -/
inductive Note
  | touched (rows : List TableRow)
  | leftScope (before : Setting)
  | leftSavepoint
  deriving DecidableEq

/-- A note, with the tenant of the innermost block and the connection at the time. -/
structure Observation where
  scope : Option Uuid
  connection : Connection
  note : Note
  deriving DecidableEq

/-- The connections of the pool, and what was noted. -/
structure Pool where
  connections : ℕ → Connection
  trace : List Observation

namespace Pool

def update (pool : Pool) (n : ℕ) (connection : Connection) : Pool :=
  { pool with connections := Function.update pool.connections n connection }

def note (pool : Pool) (n : ℕ) (scope : Option Uuid) (note : Note) : Pool :=
  { pool with trace := pool.trace ++ [⟨scope, pool.connections n, note⟩] }

def statement (pool : Pool) (n : ℕ) (reply : Reply) (effect : Connection → Connection) :
    Pool × Ending :=
  let (connection, ending) := (pool.connections n).statement reply effect
  (pool.update n connection, ending)

end Pool

/-- A statement on rows: it finds those that the policy shows, and fails where it inserts one that
the policy does not accept. -/
def runAccess (pool : Pool) (n : ℕ) (scope : Option Uuid) (reply : Reply) : Access → Pool × Ending
  | .finds rows =>
    match pool.statement n reply id with
    | (pool', .returned) =>
      (pool'.note n scope (.touched (rows.filter (policy (pool.connections n).setting))), .returned)
    | (pool', .raised) => (pool', .raised)
  | .inserts rows =>
    let accepted := rows.all (policy (pool.connections n).setting)
    match pool.statement n (if reply = .succeeds ∧ !accepted then .fails else reply) id with
    | (pool', .returned) => (pool'.note n scope (.touched rows), .returned)
    | (pool', .raised) => (pool', .raised)

/-- The end of a block of `bind_tenant_scope`: `_restore_tenant_scope`. -/
def restoreTenantScope (pool : Pool) (n : ℕ) (restore : Reply) (prior : Setting) :
    Ending → Pool × Ending
  | .raised => ((pool.statement n restore (·.setConfig prior)).1, .raised)
  | .returned => pool.statement n restore (·.setConfig prior)

/-- The end of a block of a savepoint: it is released, or rolled back where the block has raised, the
release fails, or the transaction was aborted (which may pass in silence). -/
def leaveSavepoint (pool : Pool) (n : ℕ) (release rollback : Reply) (silent : Bool)
    (ending : Ending) : Pool × Ending :=
  match ending, (pool.connections n).status, pool.statement n release fun connection =>
      { connection with savepoints := connection.savepoints.tail } with
  | .returned, _, (pool', .returned) => (pool', .returned)
  | .returned, .aborted, (_, .raised) =>
    (pool.update n ((pool.connections n).rollbackTo rollback),
      if silent then .returned else .raised)
  | .returned, _, (pool', .raised) =>
    (pool'.update n ((pool'.connections n).rollbackTo rollback), .raised)
  | .raised, _, _ => (pool.update n ((pool.connections n).rollbackTo rollback), .raised)

/-- The end of a session: a commit where the block has returned, which in an aborted transaction is a
rollback in silence. -/
def leaveSession (pool : Pool) (n : ℕ) (commit : Reply) (resetsEmpty : Bool) (ending : Ending) :
    Pool × Ending :=
  (pool.update n (.finish resetsEmpty),
    if ending = .returned ∧ (pool.connections n).status ≠ .lost ∧ commit = .succeeds then .returned
    else .raised)

def exec : Program → Scopes → Pool → Pool × Ending
  | .skip, _, pool => (pool, .returned)
  | .raise, _, pool => (pool, .raised)
  | .seq first second, scopes, pool =>
    match exec first scopes pool with
    | (pool', .returned) => exec second scopes pool'
    | (pool', .raised) => (pool', .raised)
  | .attempt body handler, scopes, pool =>
    match exec body scopes pool with
    | (pool', .returned) => (pool', .returned)
    | (pool', .raised) => exec handler scopes pool'
  | .access n reply access, scopes, pool =>
    match scopes n with
    | none => (pool, .raised)
    | some scope => runAccess pool n scope reply access
  | .bind n tenantId read set restore body, scopes, pool =>
    match scopes n, tenantId with
    | none, _ => (pool, .raised)
    | _, none => (pool, .raised)
    | some scope, some id =>
      let before := (pool.connections n).setting
      match pool.statement n read (fun connection => connection) with
      | (pool', .raised) => (pool'.note n scope (.leftScope before), .raised)
      | (pool', .returned) =>
        match pool'.statement n set (·.setConfig (.tenant id)) with
        | (pool'', .raised) => (pool''.note n scope (.leftScope before), .raised)
        | (pool'', .returned) =>
          let (inner, ending) := exec body (Function.update scopes n (some (some id))) pool''
          let (left, ending) := restoreTenantScope inner n restore before.coalesced ending
          (left.note n scope (.leftScope before), ending)
  | .savepoint n begins release rollback silent body, scopes, pool =>
    match scopes n with
    | none => (pool, .raised)
    | some scope =>
      match pool.statement n begins fun connection =>
          { connection with savepoints := connection.setting :: connection.savepoints } with
      | (pool', .raised) => (pool', .raised)
      | (pool', .returned) =>
        let (inner, ending) := exec body scopes pool'
        let (left, ending) := leaveSavepoint inner n release rollback silent ending
        (left.note n scope .leftSavepoint, ending)
  | .session n tenantId set commit resetsEmpty body, scopes, pool =>
    match scopes n, tenantId with
    -- the pool hands out no connection that is in use
    | some _, _ => (pool, .raised)
    | none, some none => (pool, .raised)
    | none, none =>
      let (inner, ending) := exec body (Function.update scopes n (some none)) pool
      leaveSession inner n commit resetsEmpty ending
    | none, some (some id) =>
      match pool.statement n set (·.setConfig (.tenant id)) with
      | (pool', .raised) => leaveSession pool' n commit resetsEmpty .raised
      | (pool', .returned) =>
        let (inner, ending) := exec body (Function.update scopes n (some (some id))) pool'
        leaveSession inner n commit resetsEmpty ending

def noScopes : Scopes := fun _ => none

def initialPool : Pool := ⟨fun _ => ⟨.unset, .active, []⟩, []⟩

/-! ## What is promised -/

/-- The row belongs to the scope: a tenant's row to the tenant's, a platform row to no tenant's. -/
def TableRow.BelongsTo (scope : Option Uuid) : TableRow → Prop
  | tenantOwned tenantId => scope = some tenantId
  | platform => scope = none

/-- **What was noted does not leak**: as long as statements can succeed, the setting is the tenant of
the innermost block, and behind a block of `bind_tenant_scope` the one before it; and only rows that
belong to the innermost block were touched. -/
structure Observation.Contained (observation : Observation) : Prop where
  scope : observation.connection.status = .active →
    observation.connection.setting.denotes = observation.scope
  restored : ∀ before, observation.note = .leftScope before →
    observation.connection.status = .active →
      observation.connection.setting.denotes = before.denotes
  touched : ∀ rows, observation.note = .touched rows →
    ∀ row ∈ rows, row.BelongsTo observation.scope

/-! ## Invariants -/

/-- Where statements can succeed, the setting of an open session is the tenant of its innermost block;
the setting of a connection in the pool is no tenant's. -/
structure Sound (scopes : Scopes) (pool : Pool) : Prop where
  opened : ∀ n scope, scopes n = some scope → (pool.connections n).status = .active →
    (pool.connections n).setting.denotes = scope
  pooled : ∀ n, scopes n = none → (pool.connections n).setting.denotes = none
  trace : ∀ observation ∈ pool.trace, observation.Contained

def Keeps (scopes : Scopes) (pool pool' : Pool) : Prop :=
  ∀ n, scopes n ≠ none → (pool'.connections n).status ≠ .lost →
    (pool.connections n).status ≠ .lost ∧
      (pool'.connections n).savepoints = (pool.connections n).savepoints

variable {scopes : Scopes} {pool pool' pool'' : Pool} {n : ℕ} {scope : Option Uuid}
  {reply : Reply} {effect : Connection → Connection} {ending : Ending}

lemma Keeps.refl (scopes : Scopes) (pool : Pool) : Keeps scopes pool pool :=
  fun _ _ hlost => ⟨hlost, rfl⟩

lemma Keeps.trans (h : Keeps scopes pool pool') (h' : Keeps scopes pool' pool'') :
    Keeps scopes pool pool'' := by
  intro n hn hlost
  obtain ⟨hlost', hsavepoints'⟩ := h' n hn hlost
  obtain ⟨hlost, hsavepoints⟩ := h n hn hlost'
  exact ⟨hlost, hsavepoints'.trans hsavepoints⟩

lemma Keeps.of_update {scope : Option (Option Uuid)}
    (h : Keeps (Function.update scopes n scope) pool pool')
    (hn : scopes n ≠ none → scope ≠ none) : Keeps scopes pool pool' := by
  intro m hm hlost
  refine h m ?_ hlost
  by_cases hmn : m = n
  · subst hmn
    rw [Function.update_self]
    exact hn hm
  · rwa [Function.update_of_ne hmn]

@[simp] lemma Pool.update_self {connection : Connection} :
    (pool.update n connection).connections n = connection :=
  Function.update_self ..

lemma Pool.update_of_ne {connection : Connection} {m : ℕ} (hm : m ≠ n) :
    (pool.update n connection).connections m = pool.connections m :=
  Function.update_of_ne hm ..

@[simp] lemma Pool.update_connections (pool : Pool) (n : ℕ) :
    pool.update n (pool.connections n) = pool := by
  unfold Pool.update
  rw [Function.update_eq_self]

variable {connection : Connection}

lemma keeps_update (h : connection.status ≠ .lost → (pool.connections n).status ≠ .lost ∧
      connection.savepoints = (pool.connections n).savepoints) :
    Keeps scopes pool (pool.update n connection) := by
  intro m _ hlost
  by_cases hmn : m = n
  · subst hmn
    rw [Pool.update_self] at hlost ⊢
    exact h hlost
  · rw [Pool.update_of_ne hmn] at hlost ⊢
    exact ⟨hlost, rfl⟩

lemma Sound.rescope (h : Sound scopes pool) (n : ℕ) (scope' : Option (Option Uuid))
    (connection : Connection)
    (hopened : ∀ scope, scope' = some scope → connection.status = .active →
      connection.setting.denotes = scope)
    (hpooled : scope' = none → connection.setting.denotes = none) :
    Sound (Function.update scopes n scope') (pool.update n connection) where
  opened m scope hm hactive := by
    by_cases hmn : m = n
    · subst hmn
      rw [Function.update_self] at hm
      rw [Pool.update_self] at hactive ⊢
      exact hopened scope hm hactive
    · rw [Function.update_of_ne hmn] at hm
      rw [Pool.update_of_ne hmn] at hactive ⊢
      exact h.opened m scope hm hactive
  pooled m hm := by
    by_cases hmn : m = n
    · subst hmn
      rw [Function.update_self] at hm
      rw [Pool.update_self]
      exact hpooled hm
    · rw [Function.update_of_ne hmn] at hm
      rw [Pool.update_of_ne hmn]
      exact h.pooled m hm
  trace := h.trace

lemma Sound.update (h : Sound scopes pool) (hn : scopes n = some scope) (connection : Connection)
    (hconnection : connection.status = .active → connection.setting.denotes = scope) :
    Sound scopes (pool.update n connection) := by
  have hrescope := h.rescope n (scopes n) connection
    (fun scope' hscope => Option.some.inj (hn.symm.trans hscope) ▸ hconnection)
    (fun hnone => absurd (hn.symm.trans hnone) nofun)
  rwa [Function.update_eq_self] at hrescope

lemma Sound.note (h : Sound scopes pool) {note : Note}
    (hnote : Observation.Contained ⟨scope, pool.connections n, note⟩) :
    Sound scopes (pool.note n scope note) where
  opened := h.opened
  pooled := h.pooled
  trace observation hobservation := by
    rcases List.mem_append.1 hobservation with hobservation | hobservation
    · exact h.trace observation hobservation
    · obtain rfl := List.mem_singleton.1 hobservation
      exact hnote

lemma statement_cases (h : pool.statement n reply effect = (pool', ending)) :
    ∃ connection, pool' = pool.update n connection ∧
      ((ending = .returned ∧ reply = .succeeds ∧ (pool.connections n).status = .active ∧
          connection = effect (pool.connections n)) ∨
        (ending = .raised ∧ connection.status ≠ .active ∧
          (connection.status ≠ .lost → (pool.connections n).status ≠ .lost ∧
            connection.savepoints = (pool.connections n).savepoints))) := by
  have hcases : ∀ connection : Connection,
      ((connection.statement reply effect).2 = .returned ∧ reply = .succeeds ∧
          connection.status = .active ∧ (connection.statement reply effect).1 = effect connection) ∨
        ((connection.statement reply effect).2 = .raised ∧
          (connection.statement reply effect).1.status ≠ .active ∧
          ((connection.statement reply effect).1.status ≠ .lost → connection.status ≠ .lost ∧
            (connection.statement reply effect).1.savepoints = connection.savepoints)) := by
    rintro ⟨setting, status, savepoints⟩
    cases status <;> cases reply <;> simp [Connection.statement]
  cases h
  exact ⟨_, rfl, hcases (pool.connections n)⟩

lemma belongsTo_of_policy {setting : Setting} {row : TableRow} (h : policy setting row = true)
    (hdenotes : setting.denotes = scope) : row.BelongsTo scope := by
  cases row with
  | tenantOwned tenantId => exact hdenotes.symm.trans (of_decide_eq_true h)
  | platform => exact hdenotes.symm.trans (of_decide_eq_true h)

/-- A statement that failed leaves the connection unusable. -/
lemma Sound.broken (h : Sound scopes pool) (hn : scopes n = some scope)
    (hne : connection.status ≠ .active)
    (hkept : connection.status ≠ .lost → (pool.connections n).status ≠ .lost ∧
      connection.savepoints = (pool.connections n).savepoints) :
    Sound scopes (pool.update n connection) ∧ Keeps scopes pool (pool.update n connection) :=
  ⟨h.update hn _ fun hactive => absurd hactive hne, keeps_update hkept⟩

lemma Sound.setTenant (h : Sound scopes pool) (n : ℕ) (id : Uuid) :
    Sound (Function.update scopes n (some (some id)))
        (pool.update n ((pool.connections n).setConfig (.tenant id))) ∧
      Keeps scopes pool (pool.update n ((pool.connections n).setConfig (.tenant id))) :=
  ⟨h.rescope n (some (some id)) _ (by rintro _ ⟨⟩ -; rfl) nofun,
    keeps_update fun hlost => ⟨hlost, rfl⟩⟩

/-! ## Blocks -/

lemma sound_runAccess (h : Sound scopes pool) (hn : scopes n = some scope) {access : Access}
    (hrun : runAccess pool n scope reply access = (pool', ending)) :
    Sound scopes pool' ∧ Keeps scopes pool pool' := by
  have hreturned : ∀ rows : List TableRow, (pool.connections n).status = .active →
      (∀ row ∈ rows, policy (pool.connections n).setting row = true) →
      Sound scopes ((pool.update n (pool.connections n)).note n scope (.touched rows)) ∧
        Keeps scopes pool ((pool.update n (pool.connections n)).note n scope (.touched rows)) := by
    intro rows hactive hpolicy
    have hdenotes := h.opened n scope hn hactive
    rw [Pool.update_connections]
    refine ⟨h.note ⟨fun _ => hdenotes, (fun _ heq => nomatch heq), ?_⟩, Keeps.refl scopes pool⟩
    rintro rows' ⟨⟩ row hrow
    exact belongsTo_of_policy (hpolicy row hrow) hdenotes
  cases access with
  | finds rows =>
    unfold runAccess at hrun
    dsimp only at hrun
    split at hrun
    case h_1 inner hstatement =>
      obtain ⟨rfl, -⟩ := Prod.mk.inj hrun
      obtain ⟨connection, rfl, ⟨-, -, hactive, rfl⟩ | ⟨hne, -⟩⟩ := statement_cases hstatement
      · exact hreturned _ hactive fun row hrow => (List.mem_filter.1 hrow).2
      · cases hne
    case h_2 inner hstatement =>
      obtain ⟨rfl, -⟩ := Prod.mk.inj hrun
      obtain ⟨connection, rfl, ⟨hne, -⟩ | ⟨-, hne, hkept⟩⟩ := statement_cases hstatement
      · cases hne
      · exact h.broken hn hne hkept
  | inserts rows =>
    unfold runAccess at hrun
    dsimp only at hrun
    split at hrun
    case h_1 inner hstatement =>
      obtain ⟨rfl, -⟩ := Prod.mk.inj hrun
      obtain ⟨connection, rfl, ⟨-, hreply, hactive, rfl⟩ | ⟨hne, -⟩⟩ := statement_cases hstatement
      · refine hreturned rows hactive ?_
        split_ifs at hreply with haccepted
        rw [not_and, Bool.not_eq_true, Bool.not_eq_false'] at haccepted
        exact List.all_eq_true.1 (haccepted hreply)
      · cases hne
    case h_2 inner hstatement =>
      obtain ⟨rfl, -⟩ := Prod.mk.inj hrun
      obtain ⟨connection, rfl, ⟨hne, -⟩ | ⟨-, hne, hkept⟩⟩ := statement_cases hstatement
      · cases hne
      · exact h.broken hn hne hkept

lemma Sound.leftScope (h : Sound scopes pool) (hn : scopes n = some scope) {before : Setting}
    (hbefore : (pool.connections n).status = .active → before.denotes = scope) :
    Sound scopes (pool.note n scope (.leftScope before)) := by
  refine h.note ⟨h.opened n scope hn, ?_, (fun _ heq => nomatch heq)⟩
  rintro _ ⟨⟩ hactive
  exact (h.opened n scope hn hactive).trans (hbefore hactive).symm

variable {ending' : Ending}

lemma sound_restoreTenantScope {id : Uuid} {prior : Setting} {restore : Reply}
    (h : Sound (Function.update scopes n (some (some id))) pool) (hn : scopes n = some scope)
    (hprior : prior.denotes = scope)
    (hrestore : restoreTenantScope pool n restore prior ending = (pool', ending')) :
    Sound scopes pool' ∧ Keeps scopes pool pool' := by
  obtain ⟨left, hleft⟩ : ∃ left, pool.statement n restore (·.setConfig prior) = (pool', left) := by
    unfold restoreTenantScope at hrestore
    split at hrestore
    · obtain ⟨rfl, -⟩ := Prod.mk.inj hrestore
      exact ⟨_, rfl⟩
    · exact ⟨_, hrestore⟩
  obtain ⟨connection, rfl, hcases⟩ := statement_cases hleft
  have hback : Function.update (Function.update scopes n (some (some id))) n (some scope) = scopes := by
    rw [Function.update_idem, ← hn, Function.update_eq_self]
  have hrescope := h.rescope n (some scope) connection ?_ nofun
  · rw [hback] at hrescope
    refine ⟨hrescope, keeps_update ?_⟩
    rcases hcases with ⟨-, -, hactive, rfl⟩ | ⟨-, -, hkept⟩
    · exact fun _ => ⟨by simp [hactive], rfl⟩
    · exact hkept
  · rintro _ ⟨⟩ hactive
    rcases hcases with ⟨-, -, -, rfl⟩ | ⟨-, hne, -⟩
    · exact hprior
    · exact absurd hactive hne

variable {saved : Setting} {savepoints : List Setting}

lemma rollbackTo_cases (rollback : Reply)
    (h : connection.status ≠ .lost → connection.savepoints = saved :: savepoints) :
    connection.rollbackTo rollback = ⟨saved, .active, savepoints⟩ ∧ connection.status ≠ .lost ∨
      (connection.rollbackTo rollback).status = .lost := by
  obtain ⟨setting, status, stack⟩ := connection
  cases status with
  | lost => exact .inr rfl
  | active | aborted =>
    obtain rfl : stack = saved :: savepoints := h nofun
    cases rollback with
    | succeeds => exact .inl ⟨rfl, nofun⟩
    | fails | loses => exact .inr rfl

lemma sound_leaveSavepoint (h : Sound scopes pool) (hn : scopes n = some scope)
    {release rollback : Reply} {silent : Bool} (hsaved : saved.denotes = scope)
    (hsavepoints : (pool.connections n).status ≠ .lost →
      (pool.connections n).savepoints = saved :: savepoints)
    (hleave : leaveSavepoint pool n release rollback silent ending = (pool', ending')) :
    Sound scopes pool' ∧ (∀ m, m ≠ n → pool'.connections m = pool.connections m) ∧
      ((pool'.connections n).status ≠ .lost → (pool.connections n).status ≠ .lost ∧
        (pool'.connections n).savepoints = savepoints) := by
  have hrollback : ∀ connection : Connection,
      (connection.status ≠ .lost → (pool.connections n).status ≠ .lost ∧
        connection.savepoints = saved :: savepoints) →
      pool' = pool.update n (connection.rollbackTo rollback) →
      Sound scopes pool' ∧ (∀ m, m ≠ n → pool'.connections m = pool.connections m) ∧
        ((pool'.connections n).status ≠ .lost → (pool.connections n).status ≠ .lost ∧
          (pool'.connections n).savepoints = savepoints) := by
    rintro connection hconnection rfl
    rcases rollbackTo_cases rollback fun hlost => (hconnection hlost).2 with ⟨heq, hlost⟩ | hlost
    · rw [heq]
      refine ⟨h.update hn _ fun _ => hsaved, fun m hm => Pool.update_of_ne hm, fun _ => ?_⟩
      rw [Pool.update_self]
      exact ⟨(hconnection hlost).1, rfl⟩
    · refine ⟨h.update hn _ fun hactive => ?_, fun m hm => Pool.update_of_ne hm, fun hne => ?_⟩
      · rw [hlost] at hactive
        cases hactive
      · rw [Pool.update_self] at hne
        exact absurd hlost hne
  have hown : (pool.connections n).status ≠ .lost → (pool.connections n).status ≠ .lost ∧
      (pool.connections n).savepoints = saved :: savepoints :=
    fun hlost => ⟨hlost, hsavepoints hlost⟩
  unfold leaveSavepoint at hleave
  split at hleave
  case h_1 _ inner hrelease =>
    -- the release has succeeded
    obtain ⟨rfl, -⟩ := Prod.mk.inj hleave
    obtain ⟨connection, rfl, ⟨-, -, hactive, rfl⟩ | ⟨hne, -⟩⟩ := statement_cases hrelease
    · have hlost : (pool.connections n).status ≠ .lost := by simp [hactive]
      refine ⟨h.update hn _ fun hactive => h.opened n scope hn hactive,
        fun m hm => Pool.update_of_ne hm, fun _ => ?_⟩
      rw [Pool.update_self]
      exact ⟨hlost, by simp [hsavepoints hlost]⟩
    · cases hne
  case h_2 _ inner hrelease =>
    obtain ⟨rfl, -⟩ := Prod.mk.inj hleave
    exact hrollback _ hown rfl
  case h_3 _ inner hrelease _ =>
    -- the release has failed
    obtain ⟨rfl, -⟩ := Prod.mk.inj hleave
    obtain ⟨connection, rfl, ⟨hne, -⟩ | ⟨-, -, hkept⟩⟩ := statement_cases hrelease
    · cases hne
    · refine hrollback connection (fun hlost => ?_) ?_
      · obtain ⟨hlost, hsame⟩ := hkept hlost
        exact ⟨hlost, hsame.trans (hsavepoints hlost)⟩
      · rw [Pool.update_self]
        unfold Pool.update
        rw [Function.update_idem]
  case h_4 =>
    obtain ⟨rfl, -⟩ := Prod.mk.inj hleave
    exact hrollback _ hown rfl

lemma sound_leaveSession {scope' : Option Uuid} {commit : Reply} {resetsEmpty : Bool}
    (h : Sound (Function.update scopes n (some scope')) pool) (hn : scopes n = none)
    (hleave : leaveSession pool n commit resetsEmpty ending = (pool', ending')) :
    Sound scopes pool' ∧ Keeps scopes pool pool' := by
  obtain ⟨rfl, -⟩ := Prod.mk.inj hleave
  have hback : Function.update (Function.update scopes n (some scope')) n none = scopes := by
    rw [Function.update_idem, ← hn, Function.update_eq_self]
  have hrescope := h.rescope n none (.finish resetsEmpty) nofun ?_
  · rw [hback] at hrescope
    refine ⟨hrescope, fun m hm hlost => ?_⟩
    have hmn : m ≠ n := by
      rintro rfl
      exact hm hn
    rw [Pool.update_of_ne hmn] at hlost ⊢
    exact ⟨hlost, rfl⟩
  · intro _
    unfold Connection.finish
    cases resetsEmpty <;> rfl

/-! ## Programs -/

/-- The program keeps the invariant, and the settings of the sessions that are open. -/
def KeepsSound (program : Program) : Prop :=
  ∀ {scopes pool pool' ending}, Sound scopes pool → exec program scopes pool = (pool', ending) →
    Sound scopes pool' ∧ Keeps scopes pool pool'

section Blocks

variable {body : Program} (ih : KeepsSound body) (n : ℕ)

include ih

lemma KeepsSound.bind (tenantId : TenantArgument) (read set restore : Reply) :
    KeepsSound (.bind n tenantId read set restore body) := by
  intro scopes pool pool' ending h hexec
  unfold exec at hexec
  split at hexec
  case h_1 =>
    obtain ⟨rfl, -⟩ := Prod.mk.inj hexec
    exact ⟨h, Keeps.refl scopes pool⟩
  case h_2 =>
    obtain ⟨rfl, -⟩ := Prod.mk.inj hexec
    exact ⟨h, Keeps.refl scopes pool⟩
  case h_3 scope id hn =>
    dsimp only at hexec
    split at hexec
    case h_1 inner hread =>
      obtain ⟨rfl, -⟩ := Prod.mk.inj hexec
      obtain ⟨connection, rfl, ⟨hne, -⟩ | ⟨-, hne, hkept⟩⟩ := statement_cases hread
      · cases hne
      · obtain ⟨hinner, hkeeps⟩ := h.broken hn hne hkept
        refine ⟨hinner.leftScope hn fun hactive => ?_, hkeeps⟩
        rw [Pool.update_self] at hactive
        exact absurd hactive hne
    case h_2 inner hread =>
      obtain ⟨connection, rfl, ⟨-, -, hactive, rfl⟩ | ⟨hne, -⟩⟩ := statement_cases hread
      case inr => cases hne
      rw [Pool.update_connections] at hexec
      have hbefore := h.opened n scope hn hactive
      split at hexec
      case h_1 inner hset =>
        obtain ⟨rfl, -⟩ := Prod.mk.inj hexec
        obtain ⟨connection, rfl, ⟨hne, -⟩ | ⟨-, hne, hkept⟩⟩ := statement_cases hset
        · cases hne
        · obtain ⟨hinner, hkeeps⟩ := h.broken hn hne hkept
          exact ⟨hinner.leftScope hn fun _ => hbefore, hkeeps⟩
      case h_2 inner hset =>
        obtain ⟨connection, rfl, ⟨-, -, -, rfl⟩ | ⟨hne, -⟩⟩ := statement_cases hset
        case inr => cases hne
        obtain ⟨hscoped, hkeeps⟩ := h.setTenant n id
        cases hbody : exec body (Function.update scopes n (some (some id)))
            (pool.update n ((pool.connections n).setConfig (.tenant id))) with
        | mk inner innerEnding =>
          obtain ⟨hinner, hkeeps'⟩ := ih hscoped hbody
          rw [hbody] at hexec
          dsimp only at hexec
          cases hrestore : restoreTenantScope inner n restore
              (pool.connections n).setting.coalesced innerEnding with
          | mk left leftEnding =>
            rw [hrestore] at hexec
            obtain ⟨rfl, -⟩ := Prod.mk.inj hexec
            have hprior : (pool.connections n).setting.coalesced.denotes = scope := by
              rw [← hbefore]
              cases (pool.connections n).setting <;> rfl
            obtain ⟨hleft, hkeeps''⟩ := sound_restoreTenantScope hinner hn hprior hrestore
            refine ⟨hleft.leftScope hn fun _ => hbefore, hkeeps.trans (Keeps.trans ?_ hkeeps'')⟩
            exact hkeeps'.of_update fun _ => nofun

lemma KeepsSound.savepoint (begins release rollback : Reply) (silent : Bool) :
    KeepsSound (.savepoint n begins release rollback silent body) := by
  intro scopes pool pool' ending h hexec
  unfold exec at hexec
  split at hexec
  case h_1 =>
    obtain ⟨rfl, -⟩ := Prod.mk.inj hexec
    exact ⟨h, Keeps.refl scopes pool⟩
  case h_2 scope hn =>
    split at hexec
    case h_1 inner hbegins =>
      obtain ⟨rfl, -⟩ := Prod.mk.inj hexec
      obtain ⟨connection, rfl, ⟨hne, -⟩ | ⟨-, hne, hkept⟩⟩ := statement_cases hbegins
      · cases hne
      · exact h.broken hn hne hkept
    case h_2 inner hbegins =>
      obtain ⟨connection, rfl, ⟨-, -, hactive, rfl⟩ | ⟨hne, -⟩⟩ := statement_cases hbegins
      case inr => cases hne
      have hsaved := h.opened n scope hn hactive
      have hbegun := h.update hn { pool.connections n with
        savepoints := (pool.connections n).setting :: (pool.connections n).savepoints }
        fun _ => hsaved
      cases hbody : exec body scopes (pool.update n { pool.connections n with
          savepoints := (pool.connections n).setting :: (pool.connections n).savepoints }) with
      | mk inner innerEnding =>
        obtain ⟨hinner, hkeeps⟩ := ih hbegun hbody
        rw [hbody] at hexec
        dsimp only at hexec
        have hsavepoints : (inner.connections n).status ≠ .lost →
            (inner.connections n).savepoints =
              (pool.connections n).setting :: (pool.connections n).savepoints := by
          intro hlost
          have hsame := (hkeeps n (by simp [hn]) hlost).2
          rwa [Pool.update_self] at hsame
        cases hleave : leaveSavepoint inner n release rollback silent innerEnding with
        | mk left leftEnding =>
          rw [hleave] at hexec
          obtain ⟨rfl, -⟩ := Prod.mk.inj hexec
          obtain ⟨hleft, hothers, hown⟩ := sound_leaveSavepoint hinner hn hsaved hsavepoints hleave
          refine ⟨hleft.note ⟨hleft.opened n scope hn, (fun _ heq => nomatch heq),
            (fun _ heq => nomatch heq)⟩, fun m hm hlost => ?_⟩
          by_cases hmn : m = n
          · subst hmn
            exact ⟨by simp [hactive], (hown hlost).2⟩
          · change (left.connections m).status ≠ .lost at hlost
            change _ ∧ (left.connections m).savepoints = _
            rw [hothers m hmn] at hlost ⊢
            have hbodyKept := hkeeps m hm hlost
            rwa [Pool.update_of_ne hmn] at hbodyKept

lemma KeepsSound.session (tenantId : Option TenantArgument) (set commit : Reply)
    (resetsEmpty : Bool) : KeepsSound (.session n tenantId set commit resetsEmpty body) := by
  intro scopes pool pool' ending h hexec
  unfold exec at hexec
  split at hexec
  case h_1 =>
    obtain ⟨rfl, -⟩ := Prod.mk.inj hexec
    exact ⟨h, Keeps.refl scopes pool⟩
  case h_2 =>
    obtain ⟨rfl, -⟩ := Prod.mk.inj hexec
    exact ⟨h, Keeps.refl scopes pool⟩
  case h_3 hn =>
    have hscoped := h.rescope n (some none) (pool.connections n)
      (by rintro _ ⟨⟩ -; exact h.pooled n hn) nofun
    rw [Pool.update_connections] at hscoped
    cases hbody : exec body (Function.update scopes n (some none)) pool with
    | mk inner innerEnding =>
      obtain ⟨hinner, hkeeps⟩ := ih hscoped hbody
      rw [hbody] at hexec
      obtain ⟨hleft, hkeeps'⟩ := sound_leaveSession hinner hn hexec
      exact ⟨hleft, (hkeeps.of_update fun _ => nofun).trans hkeeps'⟩
  case h_4 id hn =>
    split at hexec
    case h_1 inner hset =>
      obtain ⟨connection, rfl, ⟨hne, -⟩ | ⟨-, hne, hkept⟩⟩ := statement_cases hset
      · cases hne
      · have hscoped := h.rescope n (some (some id)) connection
          (by rintro _ ⟨⟩ hactive; exact absurd hactive hne) nofun
        obtain ⟨hleft, hkeeps⟩ := sound_leaveSession hscoped hn hexec
        exact ⟨hleft, (keeps_update hkept).trans hkeeps⟩
    case h_2 inner hset =>
      obtain ⟨connection, rfl, ⟨-, -, -, rfl⟩ | ⟨hne, -⟩⟩ := statement_cases hset
      case inr => cases hne
      obtain ⟨hscoped, hkeeps⟩ := h.setTenant n id
      cases hbody : exec body (Function.update scopes n (some (some id)))
          (pool.update n ((pool.connections n).setConfig (.tenant id))) with
      | mk inner innerEnding =>
        obtain ⟨hinner, hkeeps'⟩ := ih hscoped hbody
        rw [hbody] at hexec
        obtain ⟨hleft, hkeeps''⟩ := sound_leaveSession hinner hn hexec
        exact ⟨hleft, hkeeps.trans ((hkeeps'.of_update fun _ => nofun).trans hkeeps'')⟩

end Blocks

lemma sound_exec (program : Program) : KeepsSound program := by
  induction program with
  | skip =>
    rintro scopes pool _ _ h ⟨⟩
    exact ⟨h, Keeps.refl scopes pool⟩
  | raise =>
    rintro scopes pool _ _ h ⟨⟩
    exact ⟨h, Keeps.refl scopes pool⟩
  | seq first second ihFirst ihSecond =>
    intro scopes pool pool' ending h hexec
    unfold exec at hexec
    split at hexec
    case h_1 inner hfirst =>
      obtain ⟨hinner, hkeeps⟩ := ihFirst h hfirst
      obtain ⟨hpool, hkeeps'⟩ := ihSecond hinner hexec
      exact ⟨hpool, hkeeps.trans hkeeps'⟩
    case h_2 inner hfirst =>
      obtain ⟨rfl, -⟩ := Prod.mk.inj hexec
      exact ihFirst h hfirst
  | attempt body handler ihBody ihHandler =>
    intro scopes pool pool' ending h hexec
    unfold exec at hexec
    split at hexec
    case h_1 inner hbody =>
      obtain ⟨rfl, -⟩ := Prod.mk.inj hexec
      exact ihBody h hbody
    case h_2 inner hbody =>
      obtain ⟨hinner, hkeeps⟩ := ihBody h hbody
      obtain ⟨hpool, hkeeps'⟩ := ihHandler hinner hexec
      exact ⟨hpool, hkeeps.trans hkeeps'⟩
  | access n reply access =>
    intro scopes pool pool' ending h hexec
    unfold exec at hexec
    split at hexec
    case h_1 =>
      obtain ⟨rfl, -⟩ := Prod.mk.inj hexec
      exact ⟨h, Keeps.refl scopes pool⟩
    case h_2 scope hn => exact sound_runAccess h hn hexec
  | bind n tenantId read set restore body ih => exact ih.bind n tenantId read set restore
  | savepoint n begins release rollback silent body ih =>
    exact ih.savepoint n begins release rollback silent
  | session n tenantId set commit resetsEmpty body ih =>
    exact ih.session n tenantId set commit resetsEmpty

lemma sound_initialPool : Sound noScopes initialPool where
  opened _ _ h := nomatch h
  pooled _ _ := rfl
  trace _ h := nomatch h

/-- **The tenant scope is a stack and does not leak**, whatever a program does and however the server
answers. -/
theorem contained_exec (program : Program) : ∀ observation ∈
    (exec program noScopes initialPool).1.trace, observation.Contained :=
  (sound_exec program sound_initialPool rfl).1.trace

/-- A session of tenant 7 binds tenant 8 in a savepoint that is rolled back, and goes on. -/
def boundInSavepoint : Program :=
  .session 0 (some (some 7)) .succeeds .succeeds true <|
    .seq
      (.attempt
        (.savepoint 0 .succeeds .succeeds .succeeds false <|
          .bind 0 (some 8) .succeeds .succeeds .succeeds <|
            .seq (.access 0 .succeeds (.inserts [.tenantOwned 8])) .raise)
        .skip)
      (.access 0 .succeeds (.inserts [.tenantOwned 7]))

/-- The row inserted in the block is tenant 8's, the one behind the savepoint tenant 7's. -/
theorem contained_insert :
    (exec boundInSavepoint noScopes initialPool).1.trace =
        [⟨some 8, ⟨.tenant 8, .active, [.tenant 7]⟩, .touched [.tenantOwned 8]⟩,
          ⟨some 7, ⟨.tenant 7, .active, [.tenant 7]⟩, .leftScope (.tenant 7)⟩,
          ⟨some 7, ⟨.tenant 7, .active, []⟩, .leftSavepoint⟩,
          ⟨some 7, ⟨.tenant 7, .active, []⟩, .touched [.tenantOwned 7]⟩] ∧
      ∀ observation ∈ (exec boundInSavepoint noScopes initialPool).1.trace,
        observation.Contained :=
  ⟨by decide, contained_exec boundInSavepoint⟩

end SaasOs.Database
