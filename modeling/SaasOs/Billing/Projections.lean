import SaasOs.Billing.Reconciliation

/-!
# Projections of commercial subscriptions

Every committed change of a subscription increments its version and appends an event that announces
it.  An execution of `_project_subscription_job` for an event reads the subscription as it is then,
and writes it to the table of the seller and to that of the payer, in a transaction of its own each;
at last it records that the event is consumed.
-/

namespace SaasOs.Billing

/-! ## The subscription and its parties -/

/-- A row of `core.billing_accounts`, found by the payer's tenant and its id. -/
structure BillingAccount where
  merchantTenantId : Uuid
  merchantAccountId : Uuid

/-- The billing accounts; their merchants never change. -/
abbrev BillingAccounts := Uuid → Uuid → Option BillingAccount

/-- The columns of a subscription that are projected, besides its version. -/
structure Canonical where
  planId : Uuid
  status : SubscriptionStatus
  verification : VerificationState
  payerTenantId : Option Uuid
  billingAccountId : Option Uuid
  merchantAccountId : Option Uuid

/-- The parties of a commercial subscription. -/
structure Parties where
  payerTenantId : Uuid
  billingAccountId : Uuid
  merchantTenantId : Uuid
  merchantAccountId : Uuid

inductive ProjectionError
  | malformed
  | notReady

/-- The part of `_canonical_snapshot` that finds the parties. -/
def parties (accounts : BillingAccounts) (row : Canonical) :
    Except ProjectionError (Option Parties) :=
  match row.payerTenantId, row.billingAccountId, row.merchantAccountId with
  | some payer, some account, some merchant =>
    match accounts payer account with
    | some found =>
      if found.merchantAccountId = merchant then
        .ok (some ⟨payer, account, found.merchantTenantId, merchant⟩)
      else .error .malformed
    | none => .error .malformed
  | _, _, _ => .ok none

structure CanonicalSnapshot where
  parties : Parties
  planId : Uuid
  status : SubscriptionStatus
  verification : VerificationState
  version : ℕ

/-- `_canonical_snapshot` of a row at a version. -/
def canonicalSnapshot (accounts : BillingAccounts) (row : Option Canonical) (version : ℕ) :
    Except ProjectionError (Option CanonicalSnapshot) :=
  match row with
  | none => .error .malformed
  | some row =>
    match parties accounts row with
    | .error error => .error error
    | .ok none => .ok none
    | .ok (some found) =>
      .ok (some ⟨found, row.planId, row.status, row.verification, version⟩)

variable {accounts : BillingAccounts}

lemma parties_eq_ok {row : Canonical} {found : Parties} :
    parties accounts row = .ok (some found) ↔
      row.payerTenantId = some found.payerTenantId ∧
      row.billingAccountId = some found.billingAccountId ∧
      row.merchantAccountId = some found.merchantAccountId ∧
      accounts found.payerTenantId found.billingAccountId =
        some ⟨found.merchantTenantId, found.merchantAccountId⟩ := by
  unfold parties
  split
  · next payer account merchant hpayer haccount hmerchant =>
    rw [hpayer, haccount, hmerchant]
    split
    · next account' haccounts =>
      split
      · next hsame =>
        subst hsame
        constructor
        · intro h
          obtain rfl := Option.some.inj (Except.ok.inj h)
          exact ⟨rfl, rfl, rfl, haccounts⟩
        · rintro ⟨h, h', h'', hfound⟩
          obtain rfl := Option.some.inj h
          obtain rfl := Option.some.inj h'
          obtain rfl := Option.some.inj (haccounts.symm.trans hfound)
          rfl
      · next hdiffer =>
        refine ⟨fun h => (by cases h), ?_⟩
        rintro ⟨h, h', h'', hfound⟩
        obtain rfl := Option.some.inj h
        obtain rfl := Option.some.inj h'
        obtain rfl := Option.some.inj (haccounts.symm.trans hfound)
        exact absurd (Option.some.inj h'').symm hdiffer
    · next haccounts =>
      refine ⟨fun h => (by cases h), ?_⟩
      rintro ⟨h, h', -, hfound⟩
      obtain rfl := Option.some.inj h
      obtain rfl := Option.some.inj h'
      cases haccounts.symm.trans hfound
  · next hmissing =>
    refine ⟨fun h => (by cases Except.ok.inj h), ?_⟩
    rintro ⟨h, h', h'', -⟩
    exact absurd h'' (hmissing _ _ _ h h')

lemma canonicalSnapshot_eq_ok {row : Option Canonical} {version : ℕ}
    {snapshot : CanonicalSnapshot} :
    canonicalSnapshot accounts row version = .ok (some snapshot) ↔
      ∃ found parties', row = some found ∧ parties accounts found = .ok (some parties') ∧
        snapshot = ⟨parties', found.planId, found.status, found.verification, version⟩ := by
  unfold canonicalSnapshot
  cases row with
  | none => simp
  | some row =>
    cases hparties : parties accounts row with
    | error error => simp [hparties]
    | ok found =>
      cases found with
      | none => simp [hparties]
      | some found => simp [hparties, eq_comm]

/-! ## Projection rows -/

inductive ProjectionSide
  | seller | payer
  deriving DecidableEq

/-- A row of `core.billing_seller_subscriptions` or `core.billing_payer_subscriptions`; the seller
sees the payer's tenant, the payer sees the billing account and the merchant's tenant. -/
structure ProjectionRow where
  payerTenantId : Option Uuid
  billingAccountId : Option Uuid
  merchantTenantId : Option Uuid
  merchantAccountId : Uuid
  planId : Uuid
  status : SubscriptionStatus
  verification : VerificationState
  sourceVersion : ℕ

def ProjectionSide.owner (side : ProjectionSide) (parties : Parties) : Uuid :=
  match side with
  | .seller => parties.merchantTenantId
  | .payer => parties.payerTenantId

/-- The fields that `project_subscription` writes. -/
def ProjectionSide.row (side : ProjectionSide) (snapshot : CanonicalSnapshot) : ProjectionRow where
  payerTenantId :=
    match side with
    | .seller => some snapshot.parties.payerTenantId
    | .payer => none
  billingAccountId :=
    match side with
    | .seller => none
    | .payer => some snapshot.parties.billingAccountId
  merchantTenantId :=
    match side with
    | .seller => none
    | .payer => some snapshot.parties.merchantTenantId
  merchantAccountId := snapshot.parties.merchantAccountId
  planId := snapshot.planId
  status := snapshot.status
  verification := snapshot.verification
  sourceVersion := snapshot.version

/-! ## The system -/

inductive ProjectionPhase
  | started
  | checked
  | fenced
  | writing (side : ProjectionSide) (snapshot : CanonicalSnapshot)
  | inserting (side : ProjectionSide) (snapshot : CanonicalSnapshot)
  | projected
  | completed
  | failed (error : ProjectionError)

/-- An execution for the event that announces a version; only one with an event id records its
consumption. -/
structure ProjectionJob where
  announced : ℕ
  tracked : Bool
  phase : ProjectionPhase

/-- The contents of the subscription at each version, the last of which is the row, the versions
that were announced, the open tenants, the two tables by owner, the consumed events and the
executions. -/
structure ProjectionState where
  contents : ℕ → Option Canonical
  version : ℕ
  events : List ℕ
  isOpen : Uuid → Bool
  rows : ProjectionSide → Uuid → Option ProjectionRow
  consumed : ℕ → Bool
  jobs : ℕ → Option ProjectionJob

/-- What happens. -/
inductive ProjectionEvent
  | create (row : Canonical)
  | changeStatus (status : SubscriptionStatus)
  | changePlan (planId : Uuid)
  | reconcileLegacy (payerTenantId billingAccountId : Uuid) (status : SubscriptionStatus)
  | close (tenantId : Uuid)
  | start (n announced : ℕ) (tracked : Bool)
  | advance (n : ℕ)
  | crash (n : ℕ)

namespace ProjectionState

def current (state : ProjectionState) : Option Canonical :=
  state.contents state.version

/-- `announce_subscription_change`, in the transaction that writes the row. -/
def announce (state : ProjectionState) (row : Canonical) : ProjectionState :=
  { state with
    contents := Function.update state.contents (state.version + 1) (some row)
    version := state.version + 1
    events :=
      if row.billingAccountId = none ∨ row.merchantAccountId = none then state.events
      else (state.version + 1) :: state.events }

def create (state : ProjectionState) (row : Canonical) : ProjectionState :=
  if state.version = 0 then state.announce row else state

def changeStatus (state : ProjectionState) (status : SubscriptionStatus) : ProjectionState :=
  match state.current with
  | some row =>
    if isTransitionAllowed row.status status = true ∧ row.status ≠ status then
      state.announce { row with status := status }
    else state
  | none => state

def changePlan (state : ProjectionState) (planId : Uuid) : ProjectionState :=
  match state.current with
  | some row => state.announce { row with planId := planId }
  | none => state

/-- `reconcile_legacy_subscription`: a payer that the row records already must agree. -/
def reconcileLegacy (accounts : BillingAccounts) (state : ProjectionState)
    (payerTenantId billingAccountId : Uuid) (status : SubscriptionStatus) : ProjectionState :=
  match state.current, accounts payerTenantId billingAccountId with
  | some row, some account =>
    if row.verification = .legacyUnverified ∧
        (row.billingAccountId = none ∨
          row.billingAccountId = some billingAccountId ∧
            row.payerTenantId = some payerTenantId) ∧
        isTransitionAllowed row.status status = true then
      state.announce { row with
        status := status
        verification := .verified
        payerTenantId := some payerTenantId
        billingAccountId := some billingAccountId
        merchantAccountId := some account.merchantAccountId }
    else state
  | _, _ => state

/-- The execution at `n` enters a phase. -/
def setPhase (state : ProjectionState) (n : ℕ) (job : ProjectionJob) (phase : ProjectionPhase) :
    ProjectionState :=
  { state with jobs := Function.update state.jobs n (some { job with phase := phase }) }

def start (state : ProjectionState) (n announced : ℕ) (tracked : Bool) : ProjectionState :=
  if state.jobs n = none ∧ announced ∈ state.events then
    state.setPhase n ⟨announced, tracked, .started⟩ .started
  else state

def nextPhase (side : ProjectionSide) (snapshot : CanonicalSnapshot) : ProjectionPhase :=
  match side with
  | .seller => .writing .payer snapshot
  | .payer => .projected

def writeRow (state : ProjectionState) (side : ProjectionSide) (snapshot : CanonicalSnapshot) :
    ProjectionState :=
  { state with
    rows := Function.update state.rows side
      (Function.update (state.rows side) (side.owner snapshot.parties) (some (side.row snapshot))) }

def advanceJob (accounts : BillingAccounts) (state : ProjectionState) (n : ℕ) (job : ProjectionJob) :
    ProjectionState :=
  match job.phase with
  | .started =>
    -- `event_consumption_recorded`
    if job.tracked && state.consumed job.announced then state.setPhase n job .completed
    else state.setPhase n job .checked
  | .checked =>
    match canonicalSnapshot accounts state.current state.version with
    | .error error => state.setPhase n job (.failed error)
    | .ok none => state.setPhase n job .fenced
    | .ok (some snapshot) =>
      if snapshot.version < job.announced then state.setPhase n job (.failed .notReady)
      else state.setPhase n job .fenced
  | .fenced =>
    -- `project_subscription` reads the row again
    match canonicalSnapshot accounts state.current state.version with
    | .error error => state.setPhase n job (.failed error)
    | .ok none => state.setPhase n job .projected
    | .ok (some snapshot) => state.setPhase n job (.writing .seller snapshot)
  | .writing side snapshot =>
    if state.isOpen (side.owner snapshot.parties) then
      match state.rows side (side.owner snapshot.parties) with
      | none => state.setPhase n job (.inserting side snapshot)
      | some existing =>
        if snapshot.version ≤ existing.sourceVersion then
          state.setPhase n job (nextPhase side snapshot)
        else (state.writeRow side snapshot).setPhase n job (nextPhase side snapshot)
    else state.setPhase n job (nextPhase side snapshot)
  | .inserting side snapshot =>
    match state.rows side (side.owner snapshot.parties) with
    | none => (state.writeRow side snapshot).setPhase n job (nextPhase side snapshot)
    -- the unique constraint refuses the row, and the retry finds the other one
    | some _ => state.setPhase n job (.writing side snapshot)
  | .projected =>
    -- `record_event_consumption`
    if job.tracked then
      { state.setPhase n job .completed with
        consumed := Function.update state.consumed job.announced true }
    else state.setPhase n job .completed
  | .completed => state
  | .failed _ => state

def step (accounts : BillingAccounts) (state : ProjectionState) :
    ProjectionEvent → ProjectionState
  | .create row => state.create row
  | .changeStatus status => state.changeStatus status
  | .changePlan planId => state.changePlan planId
  | .reconcileLegacy payerTenantId billingAccountId status =>
    reconcileLegacy accounts state payerTenantId billingAccountId status
  | .close tenantId => { state with isOpen := Function.update state.isOpen tenantId false }
  | .start n announced tracked => state.start n announced tracked
  | .advance n =>
    match state.jobs n with
    | some job => advanceJob accounts state n job
    | none => state
  | .crash n => { state with jobs := Function.update state.jobs n none }

def initial (isOpen : Uuid → Bool) : ProjectionState where
  contents _ := none
  version := 0
  events := []
  isOpen := isOpen
  rows _ _ := none
  consumed _ := false
  jobs _ := none

/-- What the projections promise in a state. -/
structure Honest (accounts : BillingAccounts) (state : ProjectionState) : Prop where
  /-- A projection row carries what the subscription was at its version. -/
  tells : ∀ side owner row, state.rows side owner = some row →
    ∃ snapshot, canonicalSnapshot accounts (state.contents row.sourceVersion) row.sourceVersion =
      .ok (some snapshot) ∧ row = side.row snapshot ∧ owner = side.owner snapshot.parties
  /-- It is in the tenant of the subscription's own payer or merchant. -/
  owned : ∀ side owner row, state.rows side owner = some row →
    ∃ snapshot, canonicalSnapshot accounts state.current state.version = .ok (some snapshot) ∧
      owner = side.owner snapshot.parties

end ProjectionState

open ProjectionState

/-- What the projections promise about a run. -/
structure ProjectionsHonest (accounts : BillingAccounts) (state : ProjectionState)
    (events : List ProjectionEvent) : Prop where
  honest : Run.Always (ProjectionState.step accounts) (Honest accounts) state events
  /-- The version of a projection row never decreases. -/
  forward : ∀ before middle after, events = before ++ middle ++ after → ∀ side owner row,
    (Run.run (ProjectionState.step accounts) state before).rows side owner = some row →
    ∃ row', (Run.run (ProjectionState.step accounts) state (before ++ middle)).rows side owner =
      some row' ∧ row.sourceVersion ≤ row'.sourceVersion
  /-- Once an execution for the newest version has completed with both owners open, the projections
  are the subscription until it changes. -/
  current : ∀ before middle after, events = before ++ middle ++ after → ∀ n job snapshot,
    (Run.run (ProjectionState.step accounts) state before).jobs n = some job →
    job.phase = .completed →
    job.announced = (Run.run (ProjectionState.step accounts) state before).version →
    canonicalSnapshot accounts (Run.run (ProjectionState.step accounts) state before).current
      job.announced = .ok (some snapshot) →
    (∀ side : ProjectionSide, (Run.run (ProjectionState.step accounts) state before).isOpen
      (side.owner snapshot.parties) = true) →
    (Run.run (ProjectionState.step accounts) state (before ++ middle)).version = job.announced →
    ∀ side : ProjectionSide,
      (Run.run (ProjectionState.step accounts) state (before ++ middle)).rows side
        (side.owner snapshot.parties) = some (side.row snapshot)

namespace ProjectionState

/-! ## What every step keeps -/

variable {accounts : BillingAccounts} {state state' : ProjectionState}

/-- Versions stay as they were, closed tenants stay closed, and projections do not go back. -/
structure Grows (state state' : ProjectionState) : Prop where
  version_le : state.version ≤ state'.version
  contents : ∀ version ≤ state.version, state'.contents version = state.contents version
  isOpen : ∀ tenantId, state'.isOpen tenantId = true → state.isOpen tenantId = true
  rows : ∀ side owner row, state.rows side owner = some row →
    ∃ row', state'.rows side owner = some row' ∧ row.sourceVersion ≤ row'.sourceVersion

lemma Grows.of_eq (hversion : state'.version = state.version)
    (hcontents : state'.contents = state.contents) (hopen : state'.isOpen = state.isOpen)
    (hrows : state'.rows = state.rows) : Grows state state' where
  version_le := hversion.ge
  contents _ _ := by rw [hcontents]
  isOpen tenantId h := by rwa [hopen] at h
  rows side owner row hrow := ⟨row, by rwa [hrows], le_rfl⟩

lemma Grows.trans {state'' : ProjectionState} (h : Grows state state') (h' : Grows state' state'') :
    Grows state state'' where
  version_le := h.version_le.trans h'.version_le
  contents version hle := by
    rw [h'.contents version (hle.trans h.version_le), h.contents version hle]
  isOpen tenantId hopen := h.isOpen tenantId (h'.isOpen tenantId hopen)
  rows side owner row hrow := by
    obtain ⟨row', hrow', hle⟩ := h.rows side owner row hrow
    obtain ⟨row'', hrow'', hle'⟩ := h'.rows side owner row' hrow'
    exact ⟨row'', hrow'', hle.trans hle'⟩

lemma grows_announce (state : ProjectionState) (row : Canonical) :
    Grows state (state.announce row) where
  version_le := Nat.le_succ state.version
  contents _ hle := Function.update_of_ne (Nat.lt_succ_of_le hle).ne _ _
  isOpen _ h := h
  rows _ _ row' hrow := ⟨row', hrow, le_rfl⟩

variable {snapshot : CanonicalSnapshot} {row : ProjectionRow}

variable {owner : Uuid}

lemma rows_writeRow {side side' : ProjectionSide}
    (h : (state.writeRow side snapshot).rows side' owner = some row) :
    side' = side ∧ owner = side.owner snapshot.parties ∧ row = side.row snapshot ∨
      state.rows side' owner = some row := by
  dsimp only [writeRow] at h
  by_cases hside : side' = side
  · subst hside
    rw [Function.update_self] at h
    by_cases howner : owner = side'.owner snapshot.parties
    · subst howner
      rw [Function.update_self] at h
      exact .inl ⟨rfl, rfl, (Option.some.inj h).symm⟩
    · rw [Function.update_of_ne howner] at h
      exact .inr h
  · rw [Function.update_of_ne hside] at h
    exact .inr h

lemma rows_writeRow_self (state : ProjectionState) (side : ProjectionSide)
    (snapshot : CanonicalSnapshot) :
    (state.writeRow side snapshot).rows side (side.owner snapshot.parties) =
      some (side.row snapshot) := by
  dsimp only [writeRow]
  rw [Function.update_self, Function.update_self]

variable {side : ProjectionSide}

lemma grows_writeRow
    (hfence : ∀ existing, state.rows side (side.owner snapshot.parties) = some existing →
      existing.sourceVersion ≤ snapshot.version) :
    Grows state (state.writeRow side snapshot) where
  version_le := le_rfl
  contents _ _ := rfl
  isOpen _ h := h
  rows side' owner row hrow := by
    by_cases hhit : side' = side ∧ owner = side.owner snapshot.parties
    · obtain ⟨rfl, rfl⟩ := hhit
      exact ⟨side'.row snapshot, rows_writeRow_self state side' snapshot, hfence row hrow⟩
    · refine ⟨row, ?_, le_rfl⟩
      dsimp only [writeRow]
      by_cases hside : side' = side
      · subst hside
        rw [Function.update_self, Function.update_of_ne fun howner => hhit ⟨rfl, howner⟩]
        exact hrow
      · rw [Function.update_of_ne hside]
        exact hrow

lemma grows_advanceJob (state : ProjectionState) (n : ℕ) (job : ProjectionJob) :
    Grows state (advanceJob accounts state n job) := by
  have hphase : ∀ phase, Grows state (state.setPhase n job phase) :=
    fun phase => .of_eq rfl rfl rfl rfl
  unfold advanceJob
  cases job.phase with
  | started =>
    dsimp only
    split
    · exact hphase _
    · exact hphase _
  | checked =>
    dsimp only
    split
    · exact hphase _
    · exact hphase _
    · split
      · exact hphase _
      · exact hphase _
  | fenced =>
    dsimp only
    split
    · exact hphase _
    · exact hphase _
    · exact hphase _
  | writing side snapshot =>
    dsimp only
    split
    · split
      · exact hphase _
      · next existing hexisting =>
        split
        · exact hphase _
        · next hold =>
          refine (grows_writeRow fun row hrow => ?_).trans (.of_eq rfl rfl rfl rfl)
          obtain rfl := Option.some.inj (hexisting.symm.trans hrow)
          exact (not_le.mp hold).le
    · exact hphase _
  | inserting side snapshot =>
    dsimp only
    split
    · next hnone =>
      refine (grows_writeRow fun row hrow => ?_).trans (.of_eq rfl rfl rfl rfl)
      cases hnone.symm.trans hrow
    · exact hphase _
  | projected =>
    dsimp only
    split
    · exact .of_eq rfl rfl rfl rfl
    · exact hphase _
  | completed => exact .of_eq rfl rfl rfl rfl
  | failed error => exact .of_eq rfl rfl rfl rfl

lemma grows_step (state : ProjectionState) (event : ProjectionEvent) :
    Grows state (step accounts state event) := by
  have hsame : Grows state state := .of_eq rfl rfl rfl rfl
  cases event with
  | create row =>
    dsimp only [step, create]
    split
    · exact grows_announce state row
    · exact hsame
  | changeStatus status =>
    dsimp only [step, changeStatus]
    split
    · split
      · exact grows_announce state _
      · exact hsame
    · exact hsame
  | changePlan planId =>
    dsimp only [step, changePlan]
    split
    · exact grows_announce state _
    · exact hsame
  | reconcileLegacy payerTenantId billingAccountId status =>
    dsimp only [step, reconcileLegacy]
    split
    · split
      · exact grows_announce state _
      · exact hsame
    · exact hsame
  | close tenantId =>
    refine ⟨le_rfl, fun _ _ => rfl, fun other hother => ?_, fun _ _ row hrow => ⟨row, hrow, le_rfl⟩⟩
    dsimp only [step] at hother
    by_cases hsame : other = tenantId
    · subst hsame
      rw [Function.update_self] at hother
      cases hother
    · rwa [Function.update_of_ne hsame] at hother
  | start n announced tracked =>
    dsimp only [step, start]
    split
    · exact .of_eq rfl rfl rfl rfl
    · exact hsame
  | advance n =>
    dsimp only [step]
    split
    · exact grows_advanceJob state n _
    · exact hsame
  | crash n => exact .of_eq rfl rfl rfl rfl

/-! ## The invariant -/

def IsSnapshot (accounts : BillingAccounts) (state : ProjectionState) (snapshot : CanonicalSnapshot) :
    Prop :=
  snapshot.version ≤ state.version ∧
    canonicalSnapshot accounts (state.contents snapshot.version) snapshot.version =
      .ok (some snapshot)

def Reached (accounts : BillingAccounts) (state : ProjectionState) (version : ℕ)
    (side : ProjectionSide) : Prop :=
  ∀ snapshot, canonicalSnapshot accounts (state.contents version) version = .ok (some snapshot) →
    state.isOpen (side.owner snapshot.parties) = true →
    ∃ row, state.rows side (side.owner snapshot.parties) = some row ∧ version ≤ row.sourceVersion

def Fits (accounts : BillingAccounts) (state : ProjectionState) (announced : ℕ) :
    ProjectionPhase → Prop
  | .started => True
  | .checked => True
  | .fenced => True
  | .writing side snapshot => IsSnapshot accounts state snapshot ∧ announced ≤ snapshot.version ∧
      (side = .payer → Reached accounts state announced .seller)
  | .inserting side snapshot => IsSnapshot accounts state snapshot ∧ announced ≤ snapshot.version ∧
      (side = .payer → Reached accounts state announced .seller)
  | .projected => ∀ side, Reached accounts state announced side
  | .completed => ∀ side, Reached accounts state announced side
  | .failed _ => True

/-- What every state of a run satisfies. -/
structure Sound (accounts : BillingAccounts) (state : ProjectionState) : Prop where
  unborn : state.contents 0 = none
  bounded : ∀ version row, state.contents version = some row → version ≤ state.version
  announced : ∀ version ∈ state.events, version ≤ state.version
  /-- The parties of a commercial subscription never change. -/
  parties : ∀ version later row found, state.contents version = some row → version ≤ later →
    later ≤ state.version → parties accounts row = .ok (some found) →
    ∃ row', state.contents later = some row' ∧ parties accounts row' = .ok (some found)
  tells : ∀ side owner row, state.rows side owner = some row →
    ∃ snapshot, IsSnapshot accounts state snapshot ∧ row = side.row snapshot ∧
      owner = side.owner snapshot.parties
  consumed : ∀ version, state.consumed version = true →
    version ≤ state.version ∧ ∀ side, Reached accounts state version side
  fits : ∀ n job, state.jobs n = some job →
    job.announced ≤ state.version ∧ Fits accounts state job.announced job.phase

lemma IsSnapshot.grows (h : IsSnapshot accounts state snapshot) (hgrows : Grows state state') :
    IsSnapshot accounts state' snapshot := by
  refine ⟨h.1.trans hgrows.version_le, ?_⟩
  rw [hgrows.contents snapshot.version h.1]
  exact h.2

variable {version : ℕ}

lemma Reached.grows (h : Reached accounts state version side) (hle : version ≤ state.version)
    (hgrows : Grows state state') :
    Reached accounts state' version side := by
  intro snapshot hsnapshot hopen
  rw [hgrows.contents version hle] at hsnapshot
  obtain ⟨row, hrow, hversion⟩ := h snapshot hsnapshot (hgrows.isOpen _ hopen)
  obtain ⟨row', hrow', hle'⟩ := hgrows.rows side _ row hrow
  exact ⟨row', hrow', hversion.trans hle'⟩

lemma Fits.grows {announced : ℕ} {phase : ProjectionPhase} (h : Fits accounts state announced phase)
    (hle : announced ≤ state.version) (hgrows : Grows state state') :
    Fits accounts state' announced phase := by
  cases phase with
  | started => trivial
  | checked => trivial
  | fenced => trivial
  | writing side snapshot =>
    exact ⟨h.1.grows hgrows, h.2.1, fun hside => (h.2.2 hside).grows hle hgrows⟩
  | inserting side snapshot =>
    exact ⟨h.1.grows hgrows, h.2.1, fun hside => (h.2.2 hside).grows hle hgrows⟩
  | projected => exact fun side => (h side).grows hle hgrows
  | completed => exact fun side => (h side).grows hle hgrows
  | failed error => trivial

lemma sound_initial (isOpen : Uuid → Bool) : Sound accounts (initial isOpen) where
  unborn := rfl
  bounded _ _ hrow := by cases hrow
  announced _ hmem := by cases hmem
  parties _ _ _ _ hrow := by cases hrow
  tells _ _ _ hrow := by cases hrow
  consumed _ hconsumed := by cases hconsumed
  fits _ _ hjob := by cases hjob

lemma Sound.announce (h : Sound accounts state) (row : Canonical)
    (hkeeps : ∀ old found, state.current = some old →
      SaasOs.Billing.parties accounts old = .ok (some found) →
      SaasOs.Billing.parties accounts row = .ok (some found)) :
    Sound accounts (state.announce row) := by
  have hgrows := grows_announce state row
  have hnew : (state.announce row).contents (state.version + 1) = some row :=
    Function.update_self ..
  have hle : ∀ version, version ≠ state.version + 1 → version ≤ state.version + 1 →
      version ≤ state.version := fun version hne hle => by omega
  refine ⟨?_, ?_, ?_, ?_, ?_, ?_, ?_⟩
  · rw [hgrows.contents 0 (Nat.zero_le _)]
    exact h.unborn
  · intro version found hfound
    by_cases hlast : version = state.version + 1
    · exact hlast.le
    · dsimp only [ProjectionState.announce] at hfound
      rw [Function.update_of_ne hlast] at hfound
      exact Nat.le_succ_of_le (h.bounded version found hfound)
  · intro version hmem
    dsimp only [ProjectionState.announce] at hmem
    split at hmem
    · exact Nat.le_succ_of_le (h.announced version hmem)
    · rcases List.mem_cons.mp hmem with rfl | hold
      · exact le_rfl
      · exact Nat.le_succ_of_le (h.announced version hold)
  · intro version later row' found hrow hlater hbound hparties
    by_cases hfirst : version = state.version + 1
    · obtain rfl : later = version := le_antisymm (hbound.trans hfirst.ge) hlater
      exact ⟨row', hrow, hparties⟩
    · have hold := hle version hfirst (hlater.trans hbound)
      rw [hgrows.contents version hold] at hrow
      by_cases hlast : later = state.version + 1
      · obtain ⟨current, hcurrent, hfound⟩ :=
          h.parties version state.version row' found hrow hold le_rfl hparties
        subst hlast
        exact ⟨row, hnew, hkeeps current found hcurrent hfound⟩
      · have hold' := hle later hlast hbound
        rw [hgrows.contents later hold']
        exact h.parties version later row' found hrow hlater hold' hparties
  · intro side owner row' hrow
    obtain ⟨snapshot, hsnapshot, htells⟩ := h.tells side owner row' hrow
    exact ⟨snapshot, hsnapshot.grows hgrows, htells⟩
  · intro version hconsumed
    obtain ⟨hold, hreached⟩ := h.consumed version hconsumed
    exact ⟨Nat.le_succ_of_le hold, fun side => (hreached side).grows hold hgrows⟩
  · intro n job hjob
    obtain ⟨hold, hfits⟩ := h.fits n job hjob
    exact ⟨Nat.le_succ_of_le hold, hfits.grows hold hgrows⟩

lemma Sound.of_grows (h : Sound accounts state) (hgrows : Grows state state')
    (hversion : state'.version = state.version) (hcontents : state'.contents = state.contents)
    (hevents : state'.events = state.events)
    (hrows : ∀ side owner row, state'.rows side owner = some row →
      state.rows side owner = some row ∨ ∃ snapshot, IsSnapshot accounts state snapshot ∧
        row = side.row snapshot ∧ owner = side.owner snapshot.parties)
    (hconsumed : ∀ version, state'.consumed version = true → state.consumed version = true ∨
      version ≤ state.version ∧ ∀ side, Reached accounts state version side)
    (hjobs : ∀ n job, state'.jobs n = some job → state.jobs n = some job ∨
      job.announced ≤ state.version ∧ Fits accounts state' job.announced job.phase) :
    Sound accounts state' := by
  refine ⟨?_, ?_, ?_, ?_, ?_, ?_, ?_⟩
  · rw [hcontents]
    exact h.unborn
  · rw [hcontents, hversion]
    exact h.bounded
  · rw [hevents, hversion]
    exact h.announced
  · rw [hcontents, hversion]
    exact h.parties
  · intro side owner row hrow
    rcases hrows side owner row hrow with hold | ⟨snapshot, hsnapshot, htells⟩
    · obtain ⟨snapshot, hsnapshot, htells⟩ := h.tells side owner row hold
      exact ⟨snapshot, hsnapshot.grows hgrows, htells⟩
    · exact ⟨snapshot, hsnapshot.grows hgrows, htells⟩
  · intro version hdone
    obtain ⟨hle, hreached⟩ := (hconsumed version hdone).elim (h.consumed version) id
    exact ⟨hle.trans hversion.ge, fun side => (hreached side).grows hle hgrows⟩
  · intro n job hjob
    rcases hjobs n job hjob with hold | ⟨hle, hfits⟩
    · obtain ⟨hle, hfits⟩ := h.fits n job hold
      exact ⟨hle.trans hversion.ge, hfits.grows hle hgrows⟩
    · exact ⟨hle.trans hversion.ge, hfits⟩

variable {job : ProjectionJob}

lemma jobs_update {jobs : ℕ → Option ProjectionJob} {n m : ℕ} {new : Option ProjectionJob}
    (h : Function.update jobs n new m = some job) :
    new = some job ∨ jobs m = some job := by
  by_cases hm : m = n
  · subst hm
    rw [Function.update_self] at h
    exact .inl h
  · rw [Function.update_of_ne hm] at h
    exact .inr h

lemma Sound.setPhase (h : Sound accounts state) {n : ℕ} {job : ProjectionJob}
    {phase : ProjectionPhase} (hle : job.announced ≤ state.version)
    (hfits : Fits accounts state job.announced phase) :
    Sound accounts (state.setPhase n job phase) := by
  have hgrows : Grows state (state.setPhase n job phase) := .of_eq rfl rfl rfl rfl
  refine h.of_grows hgrows rfl rfl rfl (fun _ _ _ hrow => .inl hrow)
    (fun _ hconsumed => .inl hconsumed) fun m other hother => ?_
  rcases jobs_update hother with hnew | hold
  · obtain rfl := Option.some.inj hnew
    exact .inr ⟨hle, hfits.grows hle hgrows⟩
  · exact .inl hold

lemma Sound.writeRow (h : Sound accounts state) {side : ProjectionSide}
    {snapshot : CanonicalSnapshot} (hsnapshot : IsSnapshot accounts state snapshot)
    (hfence : ∀ existing, state.rows side (side.owner snapshot.parties) = some existing →
      existing.sourceVersion ≤ snapshot.version) :
    Sound accounts (state.writeRow side snapshot) := by
  refine h.of_grows (grows_writeRow hfence) rfl rfl rfl (fun side' owner row hrow => ?_)
    (fun _ hconsumed => .inl hconsumed) fun _ _ hjob => .inl hjob
  rcases rows_writeRow hrow with ⟨rfl, rfl, rfl⟩ | hold
  · exact .inr ⟨snapshot, hsnapshot, rfl, rfl⟩
  · exact .inl hold

variable {announced : ℕ}

section

variable (h : Sound accounts state)

include h

lemma Sound.parties_eq {snapshot later : CanonicalSnapshot}
    (hlater : IsSnapshot accounts state later) (hle : announced ≤ later.version)
    (hsnapshot : canonicalSnapshot accounts (state.contents announced) announced =
      .ok (some snapshot)) : snapshot.parties = later.parties := by
  obtain ⟨row, found, hrow, hfound, rfl⟩ := canonicalSnapshot_eq_ok.mp hsnapshot
  obtain ⟨row', found', hrow', hfound', htells⟩ := canonicalSnapshot_eq_ok.mp hlater.2
  obtain ⟨same, hsame, hkept⟩ :=
    h.parties announced later.version row found hrow hle hlater.1 hfound
  obtain rfl := Option.some.inj (hrow'.symm.trans hsame)
  obtain rfl := Option.some.inj (Except.ok.inj (hfound'.symm.trans hkept))
  rw [htells]

lemma Sound.reached_of_row (hsnapshot : IsSnapshot accounts state snapshot)
    (hle : announced ≤ snapshot.version)
    (hrow : state.rows side (side.owner snapshot.parties) = some row)
    (hversion : snapshot.version ≤ row.sourceVersion) : Reached accounts state announced side := by
  intro other hother _
  rw [h.parties_eq hsnapshot hle hother]
  exact ⟨row, hrow, hle.trans hversion⟩

lemma Sound.reached_of_closed (hsnapshot : IsSnapshot accounts state snapshot)
    (hle : announced ≤ snapshot.version)
    (hclosed : ¬ state.isOpen (side.owner snapshot.parties) = true) :
    Reached accounts state announced side := by
  intro other hother hopen
  rw [h.parties_eq hsnapshot hle hother] at hopen
  exact absurd hopen hclosed

lemma Sound.exists_current (hle : version ≤ state.version)
    (hsnapshot : canonicalSnapshot accounts (state.contents version) version =
      .ok (some snapshot)) :
    ∃ later, canonicalSnapshot accounts state.current state.version = .ok (some later) ∧
      later.parties = snapshot.parties := by
  obtain ⟨row, found, hrow, hfound, rfl⟩ := canonicalSnapshot_eq_ok.mp hsnapshot
  obtain ⟨row', hrow', hkept⟩ := h.parties version state.version row found hrow hle le_rfl hfound
  exact ⟨⟨found, row'.planId, row'.status, row'.verification, state.version⟩,
    canonicalSnapshot_eq_ok.mpr ⟨row', found, hrow', hkept, rfl⟩, rfl⟩

lemma Sound.reached_of_none (hle : announced ≤ state.version)
    (hnone : canonicalSnapshot accounts state.current state.version = .ok none)
    (side : ProjectionSide) : Reached accounts state announced side := by
  intro snapshot hsnapshot _
  obtain ⟨later, hlater, -⟩ := h.exists_current hle hsnapshot
  cases hnone.symm.trans hlater

end

lemma fits_nextPhase (hsnapshot : IsSnapshot accounts state snapshot)
    (hle : announced ≤ snapshot.version)
    (hseller : side = .payer → Reached accounts state announced .seller)
    (hreached : Reached accounts state announced side) :
    Fits accounts state announced (nextPhase side snapshot) := by
  cases side with
  | seller => exact ⟨hsnapshot, hle, fun _ => hreached⟩
  | payer =>
    intro side
    cases side with
    | seller => exact hseller rfl
    | payer => exact hreached

lemma Sound.writeNext (h : Sound accounts state) {n : ℕ} (hle : job.announced ≤ state.version)
    (hsnapshot : IsSnapshot accounts state snapshot) (hannounced : job.announced ≤ snapshot.version)
    (hseller : side = .payer → Reached accounts state job.announced .seller)
    (hfence : ∀ existing, state.rows side (side.owner snapshot.parties) = some existing →
      existing.sourceVersion ≤ snapshot.version) :
    Sound accounts ((state.writeRow side snapshot).setPhase n job (nextPhase side snapshot)) := by
  have hwritten := h.writeRow hsnapshot hfence
  have hgrows := grows_writeRow hfence
  have hsnapshot' := hsnapshot.grows hgrows
  refine hwritten.setPhase hle (fits_nextPhase hsnapshot' hannounced
    (fun hside => (hseller hside).grows hle hgrows) ?_)
  exact hwritten.reached_of_row hsnapshot' hannounced
    (rows_writeRow_self state side snapshot) le_rfl

lemma isSnapshot_of_current
    (h : canonicalSnapshot accounts state.current state.version = .ok (some snapshot)) :
    IsSnapshot accounts state snapshot ∧ snapshot.version = state.version := by
  have hversion : snapshot.version = state.version := by
    obtain ⟨row, found, -, -, rfl⟩ := canonicalSnapshot_eq_ok.mp h
    rfl
  refine ⟨⟨hversion.le, ?_⟩, hversion⟩
  rw [hversion]
  exact h

lemma Sound.advanceJob (h : Sound accounts state) {n : ℕ} {job : ProjectionJob}
    (hjob : state.jobs n = some job) : Sound accounts (advanceJob accounts state n job) := by
  obtain ⟨hle, hfits⟩ := h.fits n job hjob
  unfold ProjectionState.advanceJob
  cases hphase : job.phase with
  | started =>
    dsimp only
    split
    · next hconsumed =>
      have hdone := (Bool.and_eq_true_iff.mp hconsumed).2
      exact h.setPhase hle (h.consumed job.announced hdone).2
    · exact h.setPhase hle trivial
  | checked =>
    dsimp only
    split
    · exact h.setPhase hle trivial
    · exact h.setPhase hle trivial
    · split
      · exact h.setPhase hle trivial
      · exact h.setPhase hle trivial
  | fenced =>
    dsimp only
    split
    · exact h.setPhase hle trivial
    · next hnone => exact h.setPhase hle (h.reached_of_none hle hnone)
    · next snapshot hcurrent =>
      obtain ⟨hsnapshot, hversion⟩ := isSnapshot_of_current hcurrent
      exact h.setPhase hle ⟨hsnapshot, hle.trans hversion.ge, fun hside => by cases hside⟩
  | writing side snapshot =>
    rw [hphase] at hfits
    obtain ⟨hsnapshot, hannounced, hseller⟩ := hfits
    dsimp only
    split
    · split
      · exact h.setPhase hle ⟨hsnapshot, hannounced, hseller⟩
      · next existing hexisting =>
        split
        · next hnewer =>
          exact h.setPhase hle (fits_nextPhase hsnapshot hannounced hseller
            (h.reached_of_row hsnapshot hannounced hexisting hnewer))
        · next hold =>
          have hfence : ∀ row, state.rows side (side.owner snapshot.parties) = some row →
              row.sourceVersion ≤ snapshot.version := by
            intro row hrow
            obtain rfl := Option.some.inj (hexisting.symm.trans hrow)
            exact (not_le.mp hold).le
          exact h.writeNext hle hsnapshot hannounced hseller hfence
    · next hclosed =>
      exact h.setPhase hle (fits_nextPhase hsnapshot hannounced hseller
        (h.reached_of_closed hsnapshot hannounced hclosed))
  | inserting side snapshot =>
    rw [hphase] at hfits
    obtain ⟨hsnapshot, hannounced, hseller⟩ := hfits
    dsimp only
    split
    · next hnone =>
      refine h.writeNext hle hsnapshot hannounced hseller fun row hrow => ?_
      cases hnone.symm.trans hrow
    · exact h.setPhase hle ⟨hsnapshot, hannounced, hseller⟩
  | projected =>
    rw [hphase] at hfits
    have hreached : ∀ side, Reached accounts state job.announced side := hfits
    have hcompleted : Sound accounts (state.setPhase n job .completed) := h.setPhase hle hreached
    dsimp only
    split
    · refine hcompleted.of_grows (.of_eq rfl rfl rfl rfl) rfl rfl rfl (fun _ _ _ hrow => .inl hrow)
        (fun version hconsumed => ?_) fun _ _ hother => .inl hother
      by_cases hsame : version = job.announced
      · subst hsame
        exact .inr ⟨hle, fun side => (hreached side).grows hle (.of_eq rfl rfl rfl rfl)⟩
      · dsimp only at hconsumed
        rw [Function.update_of_ne hsame] at hconsumed
        exact .inl hconsumed
    · exact hcompleted
  | completed => exact h
  | failed error => exact h

lemma Sound.step (h : Sound accounts state) (event : ProjectionEvent) :
    Sound accounts (step accounts state event) := by
  cases event with
  | create row =>
    dsimp only [ProjectionState.step, create]
    split
    · next hnew =>
      refine h.announce row fun old found hold _ => ?_
      dsimp only [current] at hold
      rw [hnew, h.unborn] at hold
      cases hold
    · exact h
  | changeStatus status =>
    dsimp only [ProjectionState.step, changeStatus]
    split
    · next row hrow =>
      split
      · refine h.announce _ fun old found hold hparties => ?_
        obtain rfl := Option.some.inj (hrow.symm.trans hold)
        exact hparties
      · exact h
    · exact h
  | changePlan planId =>
    dsimp only [ProjectionState.step, changePlan]
    split
    · next row hrow =>
      refine h.announce _ fun old found hold hparties => ?_
      obtain rfl := Option.some.inj (hrow.symm.trans hold)
      exact hparties
    · exact h
  | reconcileLegacy payerTenantId billingAccountId status =>
    dsimp only [ProjectionState.step, reconcileLegacy]
    split
    · next row account hrow haccount =>
      split
      · next hagrees =>
        refine h.announce _ fun old found hold hparties => ?_
        obtain rfl := Option.some.inj (hrow.symm.trans hold)
        obtain ⟨hpayer, hbilling, hmerchant, haccounts⟩ := parties_eq_ok.mp hparties
        obtain ⟨-, hnone | ⟨hsame, hsame'⟩, -⟩ := hagrees
        · cases hbilling.symm.trans hnone
        · obtain rfl := Option.some.inj (hbilling.symm.trans hsame)
          obtain rfl := Option.some.inj (hpayer.symm.trans hsame')
          obtain rfl := Option.some.inj (haccounts.symm.trans haccount)
          exact parties_eq_ok.mpr ⟨rfl, rfl, rfl, haccounts⟩
      · exact h
    · exact h
  | close tenantId =>
    exact h.of_grows (grows_step state (.close tenantId)) rfl rfl rfl
      (fun _ _ _ hrow => .inl hrow) (fun _ hconsumed => .inl hconsumed) fun _ _ hjob => .inl hjob
  | start n announced tracked =>
    dsimp only [ProjectionState.step, start]
    split
    · next hevent => exact h.setPhase (h.announced announced hevent.2) trivial
    · exact h
  | advance n =>
    dsimp only [ProjectionState.step]
    split
    · next job hjob => exact h.advanceJob hjob
    · exact h
  | crash n =>
    refine h.of_grows (.of_eq rfl rfl rfl rfl) rfl rfl rfl (fun _ _ _ hrow => .inl hrow)
      (fun _ hconsumed => .inl hconsumed) fun m job hjob => ?_
    rcases jobs_update hjob with hnew | hold
    · cases hnew
    · exact .inl hold

lemma Sound.honest (h : Sound accounts state) : Honest accounts state where
  tells side owner row hrow := by
    obtain ⟨snapshot, hsnapshot, rfl, howner⟩ := h.tells side owner row hrow
    exact ⟨snapshot, hsnapshot.2, rfl, howner⟩
  owned side owner row hrow := by
    obtain ⟨snapshot, hsnapshot, -, rfl⟩ := h.tells side owner row hrow
    obtain ⟨later, hlater, hparties⟩ := h.exists_current hsnapshot.1 hsnapshot.2
    exact ⟨later, hlater, by rw [hparties]⟩

lemma Sound.row_eq (h : Sound accounts state)
    (hcurrent : canonicalSnapshot accounts state.current state.version = .ok (some snapshot))
    (hrow : state.rows side owner = some row) (hle : state.version ≤ row.sourceVersion) :
    row = side.row snapshot := by
  obtain ⟨told, htold, rfl, -⟩ := h.tells side owner row hrow
  have hversion : told.version = state.version := le_antisymm htold.1 hle
  have hsame := htold.2
  rw [hversion] at hsame
  rw [Option.some.inj (Except.ok.inj (hsame.symm.trans hcurrent))]

end ProjectionState

/-! ## Runs -/

/-- **Projections never regress and never lie**, whatever the interleaving of changes and of
executions, of which each may crash at any step. -/
theorem projections_honest (accounts : BillingAccounts) (isOpen : Uuid → Bool)
    (events : List ProjectionEvent) : ProjectionsHonest accounts (initial isOpen) events := by
  have hsound : ∀ before, Sound accounts
      (Run.run (ProjectionState.step accounts) (initial isOpen) before) :=
    fun before => Run.run_of_step (fun _ event h => h.step event) (sound_initial isOpen) before
  have hgrows : ∀ before middle,
      Grows (Run.run (ProjectionState.step accounts) (initial isOpen) before)
        (Run.run (ProjectionState.step accounts) (initial isOpen) (before ++ middle)) := by
    intro before middle
    rw [Run.run_append]
    exact Run.run_of_step (fun state event h => h.trans (grows_step state event))
      (.of_eq rfl rfl rfl rfl) middle
  constructor
  · exact fun before _ _ => (hsound before).honest
  · exact fun before middle _ _ => (hgrows before middle).rows
  · intro before middle _ _ n job snapshot hjob hphase hnewest hcurrent hopen hversion side
    obtain ⟨hle, hfits⟩ := (hsound before).fits n job hjob
    rw [hphase] at hfits
    have hsnapshot := hcurrent
    rw [current, ← hnewest] at hsnapshot
    obtain ⟨row, hrow, hreached⟩ := hfits side snapshot hsnapshot (hopen side)
    obtain ⟨row', hrow', hforward⟩ := (hgrows before middle).rows side _ row hrow
    have hkept : canonicalSnapshot accounts
        (Run.run (ProjectionState.step accounts) (initial isOpen) (before ++ middle)).current
        (Run.run (ProjectionState.step accounts) (initial isOpen) (before ++ middle)).version =
          .ok (some snapshot) := by
      rw [current, hversion, (hgrows before middle).contents job.announced hle]
      exact hsnapshot
    rw [hrow', (hsound (before ++ middle)).row_eq hkept hrow'
      (hversion.trans_le (hreached.trans hforward))]

end SaasOs.Billing
