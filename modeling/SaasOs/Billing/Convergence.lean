import SaasOs.Billing.Creation

/-!
# Retries of creations and sponsored migrations

A commercial subscription is created by a sequence of transactions and calls of the provider, and a
process can crash between any two of them.  A sponsored migration is such a creation that ends the
inheritance of its tenant in the transaction that writes the row, so its own retry is refused from then
on, and is answered from the record of the request.
-/

namespace SaasOs.Billing

open Run

/-! ## Requests -/

/-- The local row of a request; its id is derived from the id of the record. -/
structure SponsoredRow where
  providerSubscriptionId : String
  status : SubscriptionStatus

/-- `inherits_billing` of the tenant, and whether an opt-out was committed and audited. -/
structure BillingInheritance where
  inherits : Bool
  optedOut : Bool

/-- What there is of a request: the status of its idempotency record, whether the payer's account has a
customer of the provider, the provider's subscriptions that were created under the key of the request,
the reference that is registered for its row, and its rows. -/
structure RequestData where
  record : Option IdempotencyStatus
  hasCustomer : Bool
  objects : List String
  reference : Option String
  rows : List SponsoredRow

structure Sponsorship extends BillingInheritance, RequestData

/-- What a call is answered: whether the pending TTL of the record is over, whether the tenant has a live
subscription of another request, and one with the merchant of the plan, and what the provider says of the
subscription, unless it cannot be asked. -/
structure CallInput where
  expired : Bool
  otherLive : Bool
  merchantLive : Bool
  answer : Option ProviderSubscriptionState

/-- Where a call is. -/
inductive SponsorshipPhase
  | context
  | begins (isReplay : Bool)
  | resetting (isReplay : Bool)
  | replays
  | failing
  | reserved
  | searching
  | checking
  | ensuring
  | registeringCustomer
  | storingCustomer
  | creating
  | created (ref : String) (isStored : Bool)
  | registered (ref : String)
  | confirming
  | answered (answer : Option ProviderSubscriptionState)
  | charging (row : SponsoredRow)
  | finalizing (row : SponsoredRow)
  | returned (row : SponsoredRow)
  | raised

def SponsoredRow.answered (row : SponsoredRow) (answer : ProviderSubscriptionState) : SponsoredRow :=
  match targetStatusFor answer with
  | some target =>
    if isTransitionAllowed row.status target then { row with status := target } else row
  | none => row

namespace Sponsorship

def hasLive (s : Sponsorship) (other : Bool) : Bool :=
  other || s.rows.any fun row => row.status.isLive

/-- `_require_migratable`, or `require_service_tenant_owns_billing`: the tenant inherits and has no live
subscription, or does not inherit. -/
def isAdmitted (migrating : Bool) (s : Sponsorship) (input : CallInput) : Bool :=
  if migrating then s.inherits && !s.hasLive input.otherLive else !s.inherits

/-- The next transaction or call of the provider; `ref` is the object that the provider has for the key
of the request. -/
def proceed (migrating : Bool) (ref : String) (input : CallInput) (s : Sponsorship) :
    SponsorshipPhase → Sponsorship × SponsorshipPhase
  | .context =>
    if s.isAdmitted migrating input then (s, .begins false)
    else if migrating then (s, .begins true)
    else (s, .raised)
  | .begins isReplay =>
    match s.record with
    | none => ({ s with record := some .pending }, if isReplay then .failing else .reserved)
    | some .succeeded => (s, .replays)
    | some .pending => if input.expired then (s, .resetting isReplay) else (s, .raised)
    | some .failed => (s, .resetting isReplay)
  | .resetting isReplay =>
    ({ s with record := some .pending }, if isReplay then .failing else .reserved)
  | .replays =>
    match s.rows with
    | [] => (s, .raised)
    | row :: _ => (s, .returned row)
  | .failing => ({ s with record := some .failed }, .raised)
  | .reserved =>
    match s.rows with
    | [] => (s, .searching)
    | row :: _ => (s, .created row.providerSubscriptionId true)
  | .searching =>
    match s.reference with
    | none => (s, .checking)
    | some recorded => (s, .created recorded false)
  | .checking => if s.hasLive input.merchantLive then (s, .failing) else (s, .ensuring)
  -- `_ensure_provider_customer`: the provider answers the same customer for the account's key, and its
  -- reference is registered, before the account stores it
  | .ensuring => (s, if s.hasCustomer then .creating else .registeringCustomer)
  | .registeringCustomer => (s, .storingCustomer)
  | .storingCustomer => ({ s with hasCustomer := true }, .creating)
  | .creating =>
    ({ s with objects := if ref ∈ s.objects then s.objects else s.objects ++ [ref] },
      .created ref false)
  | .created ref isStored =>
    ({ s with reference := some ref }, if isStored then .confirming else .registered ref)
  | .registered ref =>
    -- the tenant's row is locked, and everything is checked again
    if !s.isAdmitted migrating input then (s, .failing)
    else
      match s.rows with
      | row :: _ => if row.providerSubscriptionId = ref then (s, .confirming) else (s, .failing)
      | [] =>
        if s.hasLive input.merchantLive then (s, .failing)
        else
          ({ s with
            rows := [⟨ref, .pending⟩]
            inherits := s.inherits && !migrating }, .confirming)
  | .confirming => (s, .answered input.answer)
  | .answered answer =>
    match s.rows, answer with
    | [], _ => (s, .raised)
    | row :: _, none => (s, .charging row)
    | row :: rows, some answer => ({ s with rows := row.answered answer :: rows },
      .charging (row.answered answer))
  | .charging row => (s, .finalizing row)
  | .finalizing row => ({ s with record := some .succeeded }, .returned row)
  | .returned row => (s, .returned row)
  | .raised => (s, .raised)

end Sponsorship

/-! ## Retries -/

section Retries

variable (migrating : Bool) (ref : String)

/-- A call, without a competing one and after the TTL: it crashes after a number of steps, or ends. -/
structure CallAttempt where
  answer : Option ProviderSubscriptionState
  crash : Option ℕ

def maxCallSteps : ℕ := 16

def callSteps (answer : Option ProviderSubscriptionState) (n : ℕ) (s : Sponsorship) :
    Sponsorship × SponsorshipPhase :=
  (fun state => state.1.proceed migrating ref ⟨true, false, false, answer⟩ state.2)^[n] (s, .context)

/-- The tenant, and how the calls that did not crash have ended, with the rows that there were then. -/
structure RetryState where
  tenant : Sponsorship
  outcomes : List (SponsorshipPhase × List SponsoredRow)

def attempt (state : RetryState) (call : CallAttempt) : RetryState :=
  match call.crash with
  | some n => { state with tenant := (callSteps migrating ref call.answer n state.tenant).1 }
  | none =>
    let last := callSteps migrating ref call.answer maxCallSteps state.tenant
    ⟨last.1, state.outcomes ++ [(last.2, last.1.rows)]⟩

/-- There is one object and one row of the request at most, and every call that ended has returned the
one row of its time. -/
structure Converged (state : RetryState) : Prop where
  objects : state.tenant.objects.length ≤ 1
  rows : state.tenant.rows.length ≤ 1
  returned : ∀ outcome ∈ state.outcomes, ∃ row, outcome = (.returned row, [row])

/-- A migration that is called again, and does not crash, begins before the inheritance was ended or
after its record was finalized. -/
def TimelyRetry (state : RetryState) (call : CallAttempt) : Prop :=
  call.crash = none → migrating = true → state.tenant.inherits = false →
    state.tenant.record = some .succeeded

instance : ∀ state call, Decidable (TimelyRetry migrating state call) := fun state call =>
  inferInstanceAs (Decidable (call.crash = none → migrating = true → state.tenant.inherits = false →
    state.tenant.record = some .succeeded))

def RetryState.initial : RetryState := ⟨⟨⟨migrating, false⟩, ⟨none, false, [], none, []⟩⟩, []⟩

end Retries

/-! ## Migrations and opt-outs -/

section Interleaving

/-- A tenant, its migration requests, and the calls in progress, each with its request. -/
structure MigrationSystem where
  inheritance : BillingInheritance
  requests : ℕ → RequestData
  calls : ℕ → Option (ℕ × SponsorshipPhase)

/-- What can happen next to the migrations of a tenant. -/
inductive MigrationEvent
  | begin (n request : ℕ)
  | proceed (n : ℕ) (input : CallInput)
  | crash (n : ℕ)
  /-- `opt_out_of_billing_inheritance`, in one transaction. -/
  | optOut

variable (ref : ℕ → String)

def MigrationSystem.step (state : MigrationSystem) : MigrationEvent → MigrationSystem
  | .begin n request =>
    match state.calls n with
    | none => { state with calls := Function.update state.calls n (some (request, .context)) }
    | some _ => state
  | .proceed n input =>
    match state.calls n with
    | none => state
    | some (request, phase) =>
      let next := Sponsorship.proceed true (ref request) input
        ⟨state.inheritance, state.requests request⟩ phase
      { inheritance := next.1.toBillingInheritance
        requests := Function.update state.requests request next.1.toRequestData
        calls := Function.update state.calls n (some (request, next.2)) }
  | .crash n => { state with calls := Function.update state.calls n none }
  | .optOut =>
    if state.inheritance.inherits then { state with inheritance := ⟨false, true⟩ } else state

/-- The tenant inherits, has a row of some request, or has opted out. -/
def Sponsored (state : MigrationSystem) : Prop :=
  state.inheritance.inherits = true ∨ (∃ request, (state.requests request).rows ≠ []) ∨
    state.inheritance.optedOut = true

/-- An inheritance that has ended does not come back. -/
def Retired (state : MigrationSystem) (event : MigrationEvent) : Prop :=
  state.inheritance.inherits = false → (state.step ref event).inheritance.inherits = false

def MigrationSystem.inheriting : MigrationSystem :=
  ⟨⟨true, false⟩, fun _ => ⟨none, false, [], none, []⟩, fun _ => none⟩

end Interleaving

/-! ## One step of a call -/

section Step

variable {migrating : Bool} {ref : String} {input : CallInput} {s : Sponsorship}
  {phase : SponsorshipPhase}

lemma proceed_keeps (migrating : Bool) (ref' : String) (input : CallInput) (s : Sponsorship)
    (phase : SponsorshipPhase) : (s.proceed migrating ref' input phase).1.optedOut = s.optedOut ∧
      (s.rows ≠ [] → (s.proceed migrating ref' input phase).1.rows ≠ []) ∧
      ((s.proceed migrating ref' input phase).1.inherits = s.inherits ∨
        (s.proceed migrating ref' input phase).1.inherits = false ∧
          (s.proceed migrating ref' input phase).1.rows ≠ []) := by
  have hsame : s.optedOut = s.optedOut ∧ (s.rows ≠ [] → s.rows ≠ []) ∧
      (s.inherits = s.inherits ∨ s.inherits = false ∧ s.rows ≠ []) := ⟨rfl, id, .inl rfl⟩
  cases phase with
  | registered ref =>
    by_cases hadmitted : s.isAdmitted migrating input = true
    · cases hrows : s.rows with
      | cons row rows =>
        simp only [Sponsorship.proceed, hadmitted, hrows, Bool.not_true, Bool.false_eq_true, if_false]
        split_ifs <;> exact ⟨rfl, fun _ => by simp [hrows], .inl rfl⟩
      | nil =>
        simp only [Sponsorship.proceed, hadmitted, hrows, Bool.not_true, Bool.false_eq_true, if_false]
        split_ifs
        · exact ⟨rfl, fun h => absurd rfl h, .inl rfl⟩
        · refine ⟨rfl, fun _ => List.cons_ne_nil _ _, ?_⟩
          cases migrating with
          | false => exact .inl (Bool.and_true _)
          | true => exact .inr ⟨Bool.and_false _, List.cons_ne_nil _ _⟩
    · have hrefused : s.proceed migrating ref' input (.registered ref) = (s, .failing) := by
        simp [Sponsorship.proceed, hadmitted]
      rw [hrefused]
      exact hsame
  | answered answer =>
    unfold Sponsorship.proceed
    cases hrows : s.rows with
    | nil => exact ⟨rfl, fun h => absurd rfl h, .inl rfl⟩
    | cons row rows =>
      cases answer with
      | none => exact ⟨rfl, fun _ => by simp [hrows], .inl rfl⟩
      | some answer => exact ⟨rfl, fun _ => List.cons_ne_nil _ _, .inl rfl⟩
  | context | begins isReplay | replays | reserved | searching | checking =>
    unfold Sponsorship.proceed
    dsimp only
    split <;> first | exact hsame | (split <;> exact hsame)
  | resetting isReplay => exact hsame
  | failing => exact hsame
  | ensuring => exact hsame
  | registeringCustomer => exact hsame
  | storingCustomer => exact hsame
  | creating => exact hsame
  | created ref isStored => exact hsame
  | confirming => exact hsame
  | charging row => exact hsame
  | finalizing row => exact hsame
  | returned row => exact hsame
  | raised => exact hsame

/-- What there is of the request belongs to one subscription, and the inheritance of a tenant that is
migrated ends with its row. -/
structure OneSubscription (migrating : Bool) (ref : String) (s : Sponsorship) : Prop where
  objects : s.objects = [] ∨ s.objects = [ref]
  reference : ∀ recorded, s.reference = some recorded → recorded = ref ∧ s.objects = [ref]
  rows : s.rows = [] ∨ ∃ status, s.rows = [⟨ref, status⟩] ∧ s.reference = some ref
  succeeded : s.record = some .succeeded → s.rows ≠ []
  inherits : s.inherits = (migrating && s.rows.isEmpty)

def IsStranded (migrating : Bool) (s : Sponsorship) : Prop :=
  migrating = true ∧ s.inherits = false ∧ s.record ≠ some .succeeded

/-- What is known in each phase of a call. -/
def FitsPhase (migrating : Bool) (ref : String) (stranded : Prop) (s : Sponsorship) : SponsorshipPhase → Prop
  | .context => stranded ↔ IsStranded migrating s
  | .begins true => s.rows ≠ [] ∧ (stranded ↔ s.record ≠ some .succeeded)
  | .begins false => ¬ stranded
  | .resetting true => stranded
  | .resetting false => ¬ stranded
  | .replays => ¬ stranded ∧ s.rows ≠ []
  | .failing => stranded
  | .reserved => ¬ stranded
  | .searching => ¬ stranded ∧ s.rows = []
  | .checking => ¬ stranded ∧ s.rows = []
  | .ensuring | .registeringCustomer | .storingCustomer => ¬ stranded ∧ s.rows = []
  | .creating => ¬ stranded ∧ s.rows = []
  | .created recorded isStored => ¬ stranded ∧ recorded = ref ∧ s.objects = [ref] ∧
    if isStored then s.rows ≠ [] else s.rows = []
  | .registered recorded => ¬ stranded ∧ recorded = ref ∧ s.reference = some ref ∧ s.rows = []
  | .confirming => ¬ stranded ∧ s.rows ≠ []
  | .answered _ => ¬ stranded ∧ s.rows ≠ []
  | .charging row => ¬ stranded ∧ s.rows = [row]
  | .finalizing row => ¬ stranded ∧ s.rows = [row]
  | .returned row => ¬ stranded ∧ s.rows = [row]
  | .raised => stranded

def SponsorshipPhase.left : SponsorshipPhase → ℕ
  | .context => 16
  | .begins _ => 15
  | .resetting _ => 14
  | .reserved => 13
  | .searching => 12
  | .checking => 11
  | .ensuring => 10
  | .registeringCustomer => 9
  | .storingCustomer => 8
  | .creating => 7
  | .created _ _ => 6
  | .registered _ => 5
  | .confirming => 4
  | .answered _ => 3
  | .charging _ => 2
  | .finalizing _ | .replays | .failing => 1
  | .returned _ | .raised => 0

lemma left_proceed : (s.proceed migrating ref input phase).2.left ≤ phase.left - 1 := by
  cases phase <;> unfold Sponsorship.proceed <;> dsimp only <;> (repeat' split) <;>
    simp [SponsorshipPhase.left]

variable {stranded : Prop} {answer : Option ProviderSubscriptionState}

lemma OneSubscription.setRecord (h : OneSubscription migrating ref s) {status : IdempotencyStatus}
    (hstatus : status ≠ .succeeded) :
    OneSubscription migrating ref { s with record := some status } :=
  ⟨h.objects, h.reference, h.rows, fun hsucceeded => absurd (Option.some.inj hsucceeded) hstatus,
    h.inherits⟩

lemma OneSubscription.exists_row (h : OneSubscription migrating ref s) (hrows : s.rows ≠ []) :
    ∃ status, s.rows = [⟨ref, status⟩] ∧ s.reference = some ref :=
  h.rows.resolve_left hrows

lemma SponsoredRow.answered_ref (row : SponsoredRow) (answer : ProviderSubscriptionState) :
    row.answered answer = ⟨row.providerSubscriptionId, (row.answered answer).status⟩ := by
  unfold SponsoredRow.answered
  split
  · split_ifs <;> rfl
  · rfl

/-- The step of a call from the phase leaves one subscription, and its next phase fits. -/
def StepFits (migrating : Bool) (ref : String) (answer : Option ProviderSubscriptionState)
    (stranded : Prop) (s : Sponsorship) (phase : SponsorshipPhase) : Prop :=
  OneSubscription migrating ref (s.proceed migrating ref ⟨true, false, false, answer⟩ phase).1 ∧
    FitsPhase migrating ref stranded (s.proceed migrating ref ⟨true, false, false, answer⟩ phase).1
      (s.proceed migrating ref ⟨true, false, false, answer⟩ phase).2

lemma fits_context (h : OneSubscription migrating ref s)
    (hfits : FitsPhase migrating ref stranded s .context) :
    StepFits migrating ref answer stranded s .context := by
  have hstranded : stranded ↔ IsStranded migrating s := hfits
  have hinherits := h.inherits
  cases migrating with
  | false =>
    have hadmitted : s.isAdmitted false ⟨true, false, false, answer⟩ = true := by
      simp [Sponsorship.isAdmitted, hinherits]
    simp only [StepFits, Sponsorship.proceed, hadmitted, if_true]
    exact ⟨h, fun hbegan => absurd (hstranded.1 hbegan).1 (by decide)⟩
  | true =>
    cases hrows : s.rows with
    | nil =>
      rw [hrows] at hinherits
      have hadmitted : s.isAdmitted true ⟨true, false, false, answer⟩ = true := by
        simp [Sponsorship.isAdmitted, Sponsorship.hasLive, hinherits, hrows]
      simp only [StepFits, Sponsorship.proceed, hadmitted, if_true]
      refine ⟨h, fun hbegan => ?_⟩
      have hended := (hstranded.1 hbegan).2.1
      rw [hinherits] at hended
      cases hended
    | cons row rows =>
      rw [hrows] at hinherits
      have hrefused : s.isAdmitted true ⟨true, false, false, answer⟩ = false := by
        simp [Sponsorship.isAdmitted, hinherits]
      simp only [StepFits, Sponsorship.proceed, hrefused, if_true, Bool.false_eq_true, if_false]
      refine ⟨h, by simp [hrows], hstranded.trans ?_⟩
      exact ⟨fun hbegan => hbegan.2.2, fun hrecord => ⟨rfl, hinherits, hrecord⟩⟩

lemma fits_begins {isReplay : Bool} (h : OneSubscription migrating ref s)
    (hfits : FitsPhase migrating ref stranded s (.begins isReplay)) :
    StepFits migrating ref answer stranded s (.begins isReplay) := by
  cases hrecord : s.record with
  | none =>
    simp only [StepFits, Sponsorship.proceed, hrecord]
    refine ⟨h.setRecord (by decide), ?_⟩
    cases isReplay with
    | false => exact hfits
    | true => exact hfits.2.2 (by simp [hrecord])
  | some status =>
    cases status with
    | succeeded =>
      simp only [StepFits, Sponsorship.proceed, hrecord]
      refine ⟨h, ?_, h.succeeded hrecord⟩
      cases isReplay with
      | false => exact hfits
      | true => exact fun hbegan => hfits.2.1 hbegan hrecord
    | pending =>
      simp only [StepFits, Sponsorship.proceed, hrecord, if_true]
      refine ⟨h, ?_⟩
      cases isReplay with
      | false => exact hfits
      | true => exact hfits.2.2 (by simp [hrecord])
    | failed =>
      simp only [StepFits, Sponsorship.proceed, hrecord]
      refine ⟨h, ?_⟩
      cases isReplay with
      | false => exact hfits
      | true => exact hfits.2.2 (by simp [hrecord])

lemma fits_created {recorded : String} {isStored : Bool}
    (h : OneSubscription migrating ref s)
    (hfits : FitsPhase migrating ref stranded s (.created recorded isStored)) :
    StepFits migrating ref answer stranded s (.created recorded isStored) := by
  obtain ⟨hbegan, rfl, hobjects, hrows⟩ := hfits
  have hone : OneSubscription migrating recorded { s with reference := some recorded } := by
    refine ⟨h.objects, fun other hother => ⟨(Option.some.inj hother).symm, hobjects⟩, ?_,
      h.succeeded, h.inherits⟩
    exact h.rows.imp_right fun ⟨status, hrow, _⟩ => ⟨status, hrow, rfl⟩
  refine ⟨hone, ?_⟩
  cases isStored with
  | false => exact ⟨hbegan, rfl, rfl, hrows⟩
  | true => exact ⟨hbegan, hrows⟩

lemma fits_registered {recorded : String} (h : OneSubscription migrating ref s)
    (hfits : FitsPhase migrating ref stranded s (.registered recorded)) :
    StepFits migrating ref answer stranded s (.registered recorded) := by
  obtain ⟨hbegan, rfl, hreference, hrows⟩ := hfits
  have hinherits := h.inherits
  rw [hrows] at hinherits
  have hlive : s.hasLive false = false := by simp [Sponsorship.hasLive, hrows]
  have hadmitted : s.isAdmitted migrating ⟨true, false, false, answer⟩ = true := by
    cases migrating <;> simp [Sponsorship.isAdmitted, hlive, hinherits]
  simp only [StepFits, Sponsorship.proceed, hadmitted, hrows, hlive, Bool.not_true, Bool.false_eq_true,
    if_false]
  refine ⟨⟨h.objects, h.reference, .inr ⟨.pending, rfl, hreference⟩,
    fun _ => List.cons_ne_nil _ _, ?_⟩, hbegan, List.cons_ne_nil _ _⟩
  rw [hinherits]
  cases migrating <;> rfl

lemma fits_answered {given : Option ProviderSubscriptionState}
    (h : OneSubscription migrating ref s)
    (hfits : FitsPhase migrating ref stranded s (.answered given)) :
    StepFits migrating ref answer stranded s (.answered given) := by
  obtain ⟨status, hrows, hreference⟩ := h.exists_row hfits.2
  cases given with
  | none =>
    simp only [StepFits, Sponsorship.proceed, hrows]
    exact ⟨h, hfits.1, hrows⟩
  | some answer =>
    simp only [StepFits, Sponsorship.proceed, hrows]
    have hanswered := SponsoredRow.answered_ref ⟨ref, status⟩ answer
    refine ⟨⟨h.objects, h.reference, .inr ⟨_, congrArg (fun row => [row]) hanswered, hreference⟩,
      fun _ => List.cons_ne_nil _ _, ?_⟩, hfits.1, rfl⟩
    · have hinherits := h.inherits
      rw [hrows] at hinherits
      exact hinherits

lemma fits_proceed (h : OneSubscription migrating ref s)
    (hfits : FitsPhase migrating ref stranded s phase) :
    StepFits migrating ref answer stranded s phase := by
  cases phase with
  | context => exact fits_context h hfits
  | begins isReplay => exact fits_begins h hfits
  | resetting isReplay =>
    refine ⟨h.setRecord (by decide), ?_⟩
    cases isReplay with
    | false => exact hfits
    | true => exact hfits
  | replays =>
    obtain ⟨status, hrows, -⟩ := h.exists_row hfits.2
    simp only [StepFits, Sponsorship.proceed, hrows]
    exact ⟨h, hfits.1, hrows⟩
  | failing => exact ⟨h.setRecord (by decide), hfits⟩
  | reserved =>
    rcases h.rows with hrows | ⟨status, hrows, hreference⟩
    · simp only [StepFits, Sponsorship.proceed, hrows]
      exact ⟨h, hfits, hrows⟩
    · simp only [StepFits, Sponsorship.proceed, hrows]
      exact ⟨h, hfits, rfl, (h.reference ref hreference).2, by simp [hrows]⟩
  | searching =>
    cases hreference : s.reference with
    | none =>
      simp only [StepFits, Sponsorship.proceed, hreference]
      exact ⟨h, hfits⟩
    | some recorded =>
      simp only [StepFits, Sponsorship.proceed, hreference]
      obtain ⟨rfl, hobjects⟩ := h.reference recorded hreference
      exact ⟨h, hfits.1, rfl, hobjects, by simp [hfits.2]⟩
  | checking =>
    have hlive : s.hasLive false = false := by simp [Sponsorship.hasLive, hfits.2]
    simp only [StepFits, Sponsorship.proceed, hlive, Bool.false_eq_true, if_false]
    exact ⟨h, hfits⟩
  | ensuring =>
    refine ⟨h, ?_⟩
    simp only [Sponsorship.proceed]
    split_ifs <;> exact hfits
  | registeringCustomer => exact ⟨h, hfits⟩
  | storingCustomer =>
    exact ⟨⟨h.objects, h.reference, h.rows, h.succeeded, h.inherits⟩, hfits⟩
  | creating =>
    have hobjects : (if ref ∈ s.objects then s.objects else s.objects ++ [ref]) = [ref] := by
      rcases h.objects with hnone | hone
      · simp [hnone]
      · simp [hone]
    simp only [StepFits, Sponsorship.proceed, hobjects]
    exact ⟨⟨.inr rfl, fun recorded hrecorded => ⟨(h.reference recorded hrecorded).1, rfl⟩, h.rows,
      h.succeeded, h.inherits⟩, hfits.1, rfl, rfl, by simp [hfits.2]⟩
  | created recorded isStored => exact fits_created h hfits
  | registered recorded => exact fits_registered h hfits
  | confirming => exact ⟨h, hfits⟩
  | answered given => exact fits_answered h hfits
  | charging row => exact ⟨h, hfits⟩
  | finalizing row =>
    refine ⟨⟨h.objects, h.reference, h.rows, fun _ hnone => ?_, h.inherits⟩, hfits⟩
    have hrows : s.rows = [row] := hfits.2
    exact List.cons_ne_nil _ _ (hrows.symm.trans hnone)
  | returned row => exact ⟨h, hfits⟩
  | raised => exact ⟨h, hfits⟩

lemma fits_callSteps (h : OneSubscription migrating ref s) (n : ℕ) :
    OneSubscription migrating ref (callSteps migrating ref answer n s).1 ∧
      FitsPhase migrating ref (IsStranded migrating s) (callSteps migrating ref answer n s).1
        (callSteps migrating ref answer n s).2 := by
  induction n with
  | zero => exact ⟨h, Iff.rfl⟩
  | succ n ih =>
    unfold callSteps at ih ⊢
    rw [Function.iterate_succ_apply']
    exact fits_proceed ih.1 ih.2

lemma left_callSteps (n : ℕ) : (callSteps migrating ref answer n s).2.left ≤ 16 - n := by
  induction n with
  | zero => exact le_rfl
  | succ n ih =>
    unfold callSteps at ih ⊢
    rw [Function.iterate_succ_apply']
    exact left_proceed.trans (by omega)

lemma callSteps_ends (h : OneSubscription migrating ref s) (answer : Option ProviderSubscriptionState) :
    (IsStranded migrating s ∧ (callSteps migrating ref answer maxCallSteps s).2 = .raised) ∨
      ¬ IsStranded migrating s ∧ ∃ row,
        (callSteps migrating ref answer maxCallSteps s).2 = .returned row ∧
          (callSteps migrating ref answer maxCallSteps s).1.rows = [row] := by
  have hleft : (callSteps migrating ref answer maxCallSteps s).2.left ≤ 0 := left_callSteps 16
  have hfits := (fits_callSteps h maxCallSteps : OneSubscription migrating ref
    (callSteps migrating ref answer maxCallSteps s).1 ∧ _).2
  generalize callSteps migrating ref answer maxCallSteps s = last at hleft hfits
  obtain ⟨last, phase⟩ := last
  cases phase with
  | returned row => exact .inr ⟨hfits.1, row, rfl, hfits.2⟩
  | raised => exact .inl ⟨hfits, rfl⟩
  | _ => simp [SponsorshipPhase.left] at hleft

end Step

/-! ## Every run -/

section Runs

variable {migrating : Bool} {ref : String} {state : RetryState} {call : CallAttempt}
  {attempts : List CallAttempt}

/-- What there is of the request belongs to one subscription, and every call that ended returned it. -/
structure SoundRetries (migrating : Bool) (ref : String) (state : RetryState) : Prop where
  one : OneSubscription migrating ref state.tenant
  returned : ∀ outcome ∈ state.outcomes, ∃ row, outcome = (.returned row, [row])

lemma soundRetries_initial : SoundRetries migrating ref (.initial migrating) where
  one := ⟨.inl rfl, nofun, .inl rfl, nofun, (Bool.and_true migrating).symm⟩
  returned := nofun

lemma SoundRetries.converged (h : SoundRetries migrating ref state) : Converged state where
  objects := by rcases h.one.objects with hnone | hone <;> simp [*]
  rows := by rcases h.one.rows with hnone | ⟨status, hone, -⟩ <;> simp [*]
  returned := h.returned

lemma oneSubscription_attempt (h : OneSubscription migrating ref state.tenant) :
    OneSubscription migrating ref (attempt migrating ref state call).tenant := by
  unfold attempt
  cases call.crash with
  | none => exact (fits_callSteps h maxCallSteps).1
  | some n => exact (fits_callSteps h n).1

lemma SoundRetries.attempt (h : SoundRetries migrating ref state)
    (htimely : TimelyRetry migrating state call) :
    SoundRetries migrating ref (attempt migrating ref state call) := by
  refine ⟨oneSubscription_attempt h.one, ?_⟩
  unfold Billing.attempt
  cases hcrash : call.crash with
  | some n => exact h.returned
  | none =>
    refine List.forall_mem_append.2 ⟨h.returned, List.forall_mem_singleton.2 ?_⟩
    rcases callSteps_ends h.one call.answer with ⟨hstranded, -⟩ | ⟨-, row, hreturned, hrows⟩
    · exact absurd (htimely hcrash hstranded.1 hstranded.2.1) hstranded.2.2
    · exact ⟨row, Prod.ext hreturned hrows⟩

lemma timely_of_converged (h : OneSubscription migrating ref state.tenant)
    (hconverged : Converged (attempt migrating ref state call)) : TimelyRetry migrating state call := by
  intro hcrash hmigrating hended
  by_contra hrecord
  rcases callSteps_ends h call.answer with ⟨-, hraised⟩ | ⟨hnot, -⟩
  · unfold attempt at hconverged
    rw [hcrash] at hconverged
    obtain ⟨row, houtcome⟩ :=
      hconverged.returned _ (List.mem_append_right _ (List.mem_singleton_self _))
    have hreturned := (congrArg Prod.fst houtcome).symm.trans hraised
    cases hreturned
  · exact hnot ⟨hmigrating, hended, hrecord⟩

lemma along_of_converged (h : OneSubscription migrating ref state.tenant)
    (hconverged : Always (attempt migrating ref) Converged state attempts) :
    Along (attempt migrating ref) (TimelyRetry migrating) state attempts := by
  induction attempts generalizing state with
  | nil => trivial
  | cons call attempts ih =>
    refine ⟨timely_of_converged h (hconverged [call] attempts rfl), ih (oneSubscription_attempt h) ?_⟩
    rintro before after rfl
    exact hconverged (call :: before) after rfl

variable {refs : ℕ → String} {system : MigrationSystem} {event : MigrationEvent}

lemma sponsored_step (h : Sponsored system) : Sponsored (system.step refs event) := by
  cases event with
  | begin n request =>
    unfold MigrationSystem.step
    dsimp only
    split <;> exact h
  | crash n => exact h
  | optOut =>
    unfold MigrationSystem.step
    dsimp only
    split_ifs
    · exact .inr (.inr rfl)
    · exact h
  | proceed n input =>
    unfold MigrationSystem.step
    dsimp only
    split
    · exact h
    · next request phase hcall =>
      obtain ⟨hopted, hkept, hinherits⟩ := proceed_keeps true (refs request) input
        ⟨system.inheritance, system.requests request⟩ phase
      rcases h with hbefore | ⟨other, hrows⟩ | hbefore
      · rcases hinherits with hsame | ⟨-, hrows⟩
        · exact .inl (hsame.trans hbefore)
        · refine .inr (.inl ⟨request, ?_⟩)
          dsimp only
          rw [Function.update_self]
          exact hrows
      · refine .inr (.inl ⟨other, ?_⟩)
        dsimp only
        by_cases hother : other = request
        · subst hother
          rw [Function.update_self]
          exact hkept hrows
        · rw [Function.update_of_ne hother]
          exact hrows
      · exact .inr (.inr (hopted.trans hbefore))

lemma retired_step : Retired refs system event := by
  intro hended
  cases event with
  | begin n request =>
    unfold MigrationSystem.step
    dsimp only
    split <;> exact hended
  | crash n => exact hended
  | optOut =>
    unfold MigrationSystem.step
    dsimp only
    split_ifs
    · rfl
    · exact hended
  | proceed n input =>
    unfold MigrationSystem.step
    dsimp only
    split
    · exact hended
    · next request phase hcall =>
      obtain ⟨-, -, hsame | ⟨hnow, -⟩⟩ := proceed_keeps true (refs request) input
        ⟨system.inheritance, system.requests request⟩ phase
      · exact hsame.trans hended
      · exact hnow

/-- **Creations and migrations converge under crashes**, as far as retries are timely: whatever crashes
before, every call that ends returns the one subscription of its request exactly if no migration is
called again after the inheritance was ended and before its record was finalized. -/
theorem converges_iff (migrating : Bool) (ref : String) (attempts : List CallAttempt)
    (refs : ℕ → String) (events : List MigrationEvent) :
    (Always (attempt migrating ref) Converged (.initial migrating) attempts ↔
        Along (attempt migrating ref) (TimelyRetry migrating) (.initial migrating) attempts) ∧
      Always (MigrationSystem.step refs) Sponsored .inheriting events ∧
        Along (MigrationSystem.step refs) (Retired refs) .inheriting events := by
  refine ⟨⟨along_of_converged soundRetries_initial.one, fun h => ?_⟩, ?_,
    along_of_mem fun _ _ _ => retired_step⟩
  · have hsound : Always (attempt migrating ref) (SoundRetries migrating ref) (.initial migrating)
        attempts :=
      always_of_along (fun _ _ hsound htimely => hsound.attempt htimely) soundRetries_initial h
    exact fun before after hattempts => (hsound before after hattempts).converged
  · rintro before after -
    exact run_of_step (fun _ _ h => sponsored_step h) (.inl rfl) before

/-- A migration crashes between its final transaction and the confirmation, and is called again. -/
theorem not_converged_migration : ¬ Always (attempt true "sub_1") Converged (.initial true)
    [⟨some .active, some 11⟩, ⟨some .active, none⟩] :=
  fun h => absurd (along_of_converged soundRetries_initial.one h) (by decide +kernel)

end Runs

end SaasOs.Billing
