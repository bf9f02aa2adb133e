import SaasOs.Schema.Tables
import SaasOs.Foundation.Run

/-!
# Plan changes of legacy subscriptions

`upgrade_subscription` and `cancel_subscription` read the subscription, call the provider, and write
the locked row, each in a step of its own; nothing is held from one to the next.  The provider
numbers the plan changes it applies, in the order in which it receives them.
-/

namespace SaasOs.Billing

/-! ## The rows and the provider -/

inductive SubscriptionStatus
  | pending | active | pastDue | canceled
  deriving DecidableEq

def allowedTransitions : SubscriptionStatus → List SubscriptionStatus
  | .pending => [.active, .pastDue, .canceled]
  | .active => [.pastDue, .canceled]
  | .pastDue => [.active, .canceled]
  | .canceled => []

def isTransitionAllowed (current target : SubscriptionStatus) : Bool :=
  current == target || (allowedTransitions current).contains target

lemma isTransitionAllowed_canceled (current : SubscriptionStatus) :
    isTransitionAllowed current .canceled = true := by
  cases current <;> rfl

inductive VerificationState
  | verified | legacyUnverified
  deriving DecidableEq

/-- The columns of `core.billing_subscriptions` that the two operations read and write. -/
structure Subscription where
  planId : Uuid
  status : SubscriptionStatus
  billingAccountId : Option Uuid
  verification : VerificationState
  deriving DecidableEq

/-- The columns of `core.billing_plans` that they read. -/
structure Plan where
  id : Uuid
  withdrawn : Bool
  deriving DecidableEq

/-- What `_refuse_commercial` refuses. -/
def Subscription.IsCommercial (subscription : Subscription) : Prop :=
  subscription.verification = .verified ∨ subscription.billingAccountId ≠ none

instance : DecidablePred Subscription.IsCommercial :=
  fun _ => inferInstanceAs (Decidable (_ ∨ _))

/-- `set_subscription_status`, with the row it leaves. -/
def setSubscriptionStatus (subscription : Subscription) (target : SubscriptionStatus) :
    Option Subscription :=
  if isTransitionAllowed subscription.status target then
    some { subscription with status := target }
  else none

inductive ProviderSubscriptionState
  | active | pending | pastDue | canceled | notFound | unknown
  deriving DecidableEq

/-- The subscription at the provider: the plan of the last change that was applied, and how many
were. -/
structure ProviderSubscription where
  planId : Uuid
  changes : ℕ
  state : ProviderSubscriptionState

/-! ## The system -/

inductive BillingCall
  /-- An upgrade that read the subscription and the plan. -/
  | upgrading (plan : Plan) (found : Subscription)
  /-- An upgrade whose change the provider applied, as the change of that number. -/
  | upgraded (plan : Plan) (found : Subscription) (number : ℕ)
  /-- A cancellation that read the subscription. -/
  | canceling
  /-- A cancellation that the provider refused; it is about to ask for the state. -/
  | asking
  /-- A cancellation that is done at the provider. -/
  | canceled
  deriving DecidableEq

def BillingCall.IsApplied : BillingCall → Prop
  | upgrading _ _ => False
  | upgraded _ _ _ => True
  | canceling => False
  | asking => False
  | canceled => True

/-- The committed row, the provider, the calls under way, the number of the latest plan change that
was written, and whether a call returned an error. -/
structure BillingState where
  row : Subscription
  provider : ProviderSubscription
  calls : ℕ → Option BillingCall
  written : ℕ
  failed : Bool

/-- What happens.  `granted` is the answer of the checks on the tenant, `accepts` tells whether the
provider's call succeeds, `answers` whether it can be asked for the state, and `withdrawn` is the
status of the plan when the row is written. -/
inductive BillingEvent
  | upgrade (n : ℕ) (plan : Plan) (granted : Bool)
  | cancel (n : ℕ) (granted : Bool)
  | callProvider (n : ℕ) (accepts : Bool)
  | askProvider (n : ℕ) (answers : Bool)
  | write (n : ℕ) (withdrawn : Bool)

namespace BillingState

/-- The state with another call at `n`. -/
def setCall (state : BillingState) (n : ℕ) (call : Option BillingCall) : BillingState :=
  { state with calls := Function.update state.calls n call }

/-- The call at `n` returns an error. -/
def raise (state : BillingState) (n : ℕ) : BillingState :=
  { state.setCall n none with failed := true }

/-- The reads of `upgrade_subscription`. -/
def upgrade (state : BillingState) (n : ℕ) (plan : Plan) (granted : Bool) : BillingState :=
  if state.calls n = none then
    if granted = true ∧ ¬ state.row.IsCommercial ∧ plan.withdrawn = false then
      state.setCall n (some (.upgrading plan state.row))
    else state.raise n
  else state

/-- The reads of `cancel_subscription`. -/
def cancel (state : BillingState) (n : ℕ) (granted : Bool) : BillingState :=
  if state.calls n = none then
    if granted = true ∧ ¬ state.row.IsCommercial then state.setCall n (some .canceling)
    else state.raise n
  else state

/-- `change_plan`, and the first call of `cancel_at_provider`. -/
def callProvider (state : BillingState) (n : ℕ) (accepts : Bool) : BillingState :=
  match state.calls n with
  | some (.upgrading plan found) =>
    if accepts then
      { state.setCall n (some (.upgraded plan found (state.provider.changes + 1))) with
        provider := { state.provider with
          planId := plan.id
          changes := state.provider.changes + 1 } }
    else state.raise n
  | some .canceling =>
    if accepts then
      { state.setCall n (some .canceled) with
        provider := { state.provider with state := .canceled } }
    else state.setCall n (some .asking)
  | _ => state

/-- The second call of `cancel_at_provider`. -/
def askProvider (state : BillingState) (n : ℕ) (answers : Bool) : BillingState :=
  match state.calls n with
  | some .asking =>
    if answers = true ∧ state.provider.state = .canceled then state.setCall n (some .canceled)
    else state.raise n
  | _ => state

def write (state : BillingState) (n : ℕ) (withdrawn : Bool) : BillingState :=
  match state.calls n with
  | some (.upgraded plan _ number) =>
    if ¬ state.row.IsCommercial ∧ withdrawn = false then
      { state.setCall n none with
        row := { state.row with planId := plan.id }
        written := max state.written number }
    else state.raise n
  | some .canceled =>
    if state.row.IsCommercial then state.raise n
    else
      match setSubscriptionStatus state.row .canceled with
      | some row => { state.setCall n none with row := row }
      | none => state.raise n
  | _ => state

def step (state : BillingState) : BillingEvent → BillingState
  | .upgrade n plan granted => state.upgrade n plan granted
  | .cancel n granted => state.cancel n granted
  | .callProvider n accepts => state.callProvider n accepts
  | .askProvider n answers => state.askProvider n answers
  | .write n withdrawn => state.write n withdrawn

def Agrees (state : BillingState) : Prop :=
  state.row.planId = state.provider.planId ∧
    (state.row.status = .canceled ↔ state.provider.state = .canceled)

/-- A subscription that agrees with the provider, before the first call. -/
structure Initial (state : BillingState) : Prop where
  agrees : state.Agrees
  noCalls : ∀ n, state.calls n = none
  allWritten : state.written = state.provider.changes

/-- An upgrade that writes the row does not write it after a later change, unless the row has its
plan. -/
def WrittenInOrder (state : BillingState) (event : BillingEvent) : Prop :=
  match event with
  | .write n withdrawn => ∀ plan found number, state.calls n = some (.upgraded plan found number) →
    ¬ state.row.IsCommercial ∧ withdrawn = false →
    state.written < number ∨ state.row.planId = plan.id
  | _ => True

/-- The provider applies no change for an upgrade that found the subscription canceled. -/
def ChangesLive (state : BillingState) (event : BillingEvent) : Prop :=
  match event with
  | .callProvider n accepts => ∀ plan found, state.calls n = some (.upgrading plan found) →
    accepts = true → found.status ≠ .canceled
  | _ => True

end BillingState

open BillingState

/-- When all calls have returned without an error the row agrees with the provider. -/
def PlansAgree (state : BillingState) (events : List BillingEvent) : Prop :=
  Run.Always BillingState.step (fun state => (∀ n, state.calls n = none) →
    state.failed = false → state.Agrees) state events

/-- An upgrade that found the subscription canceled does not change its plan. -/
def CanceledKeepsPlan (state : BillingState) (events : List BillingEvent) : Prop :=
  ∀ before n withdrawn after plan found number,
    events = before ++ .write n withdrawn :: after →
    (Run.run BillingState.step state before).calls n = some (.upgraded plan found number) →
    found.status = .canceled →
    (Run.run BillingState.step state (before ++ [.write n withdrawn])).row.planId =
      (Run.run BillingState.step state before).row.planId

/-! ## The invariant -/

namespace BillingState

/-- No upgrade whose change was applied found the subscription canceled. -/
def FoundLive (state : BillingState) : Prop :=
  ∀ n plan found number, state.calls n = some (.upgraded plan found number) →
    found.status ≠ .canceled

/-- What every state of a run in order satisfies. -/
structure Sound (state : BillingState) : Prop where
  /-- The last change that the provider applied is the one it has. -/
  numbered : ∀ n plan found number, state.calls n = some (.upgraded plan found number) →
    number ≤ state.provider.changes ∧
      (number = state.provider.changes → plan.id = state.provider.planId)
  written_le : state.written ≤ state.provider.changes
  /-- A later change than the latest that was written is still to be written. -/
  unwritten : state.failed = false → ∀ number, state.written < number →
    number ≤ state.provider.changes →
    ∃ n plan found, state.calls n = some (.upgraded plan found number)
  plan : state.written = state.provider.changes → state.row.planId = state.provider.planId
  rowCanceled : state.row.status = .canceled → state.provider.state = .canceled
  callCanceled : ∀ n, state.calls n = some .canceled → state.provider.state = .canceled
  providerCanceled : state.failed = false → state.provider.state = .canceled →
    state.row.status = .canceled ∨ ∃ n, state.calls n = some .canceled

variable {state : BillingState}

lemma Initial.sound (h : state.Initial) : state.Sound where
  numbered n plan found number hcall := by
    rw [h.noCalls n] at hcall
    cases hcall
  written_le := h.allWritten.le
  unwritten _ number hlt hle := by
    have hwritten := h.allWritten
    omega
  plan _ := h.agrees.1
  rowCanceled := h.agrees.2.mp
  callCanceled n hcall := by
    rw [h.noCalls n] at hcall
    cases hcall
  providerCanceled _ hstate := Or.inl (h.agrees.2.mpr hstate)

variable {calls : ℕ → Option BillingCall} {n m : ℕ} {new : BillingCall}

lemma update_of_calls (h : calls m = some new) (hn : calls n ≠ some new)
    (call : Option BillingCall) :
    Function.update calls n call m = some new := by
  have hne : m ≠ n := by
    rintro rfl
    exact hn h
  rw [Function.update_of_ne hne]
  exact h

lemma Sound.setCall {state : BillingState} (h : state.Sound) {n : ℕ} {call : Option BillingCall}
    (hold : ∀ old ∈ state.calls n, ¬ old.IsApplied) (hnew : ∀ new ∈ call, ¬ new.IsApplied) :
    (state.setCall n call).Sound := by
  have hothers : ∀ m new, new.IsApplied →
      (Function.update state.calls n call m = some new ↔ state.calls m = some new) := by
    intro m new happlied
    constructor
    · intro hm
      rcases Run.update_cases hm with ⟨-, hcall⟩ | ⟨-, hm⟩
      · exact absurd happlied (hnew new hcall)
      · exact hm
    · intro hm
      exact update_of_calls hm (fun hn => hold new hn happlied) call
  refine ⟨?_, h.written_le, ?_, h.plan, h.rowCanceled, ?_, ?_⟩
  · intro m plan found number hm
    exact h.numbered m plan found number ((hothers m (.upgraded plan found number) trivial).mp hm)
  · intro hfailed number hlt hle
    obtain ⟨m, plan, found, hm⟩ := h.unwritten hfailed number hlt hle
    exact ⟨m, plan, found, (hothers m (.upgraded plan found number) trivial).mpr hm⟩
  · intro m hm
    exact h.callCanceled m ((hothers m .canceled trivial).mp hm)
  · intro hfailed hstate
    refine (h.providerCanceled hfailed hstate).imp_right ?_
    rintro ⟨m, hm⟩
    exact ⟨m, (hothers m .canceled trivial).mpr hm⟩

lemma Sound.raise {state : BillingState} (h : state.Sound) (n : ℕ) : (state.raise n).Sound := by
  refine ⟨?_, h.written_le, ?_, h.plan, h.rowCanceled, ?_, ?_⟩
  · intro m plan found number hm
    exact h.numbered m plan found number (Run.update_none_cases hm).2
  · exact fun hfailed => by cases hfailed
  · exact fun m hm => h.callCanceled m (Run.update_none_cases hm).2
  · exact fun hfailed => by cases hfailed

lemma Sound.changed (h : state.Sound) {plan : Plan} {found : Subscription}
    (hcall : state.calls n = some (.upgrading plan found)) :
    Sound { state.setCall n (some (.upgraded plan found (state.provider.changes + 1))) with
      provider := { state.provider with
        planId := plan.id
        changes := state.provider.changes + 1 } } := by
  have hle := h.written_le
  refine ⟨?_, ?_, ?_, ?_, h.rowCanceled, ?_, ?_⟩
  · intro m plan' found' number hm
    rcases Run.update_cases hm with ⟨-, hnew⟩ | ⟨-, hm⟩
    · obtain ⟨rfl, rfl, rfl⟩ := BillingCall.upgraded.inj (Option.some.inj hnew)
      exact ⟨le_refl _, fun _ => rfl⟩
    · obtain ⟨hnumber, -⟩ := h.numbered m plan' found' number hm
      dsimp only
      refine ⟨by omega, fun heq => ?_⟩
      omega
  · dsimp only [BillingState.setCall]
    omega
  · intro hfailed number hlt hnumber
    dsimp only at hnumber
    by_cases hlast : number = state.provider.changes + 1
    · subst hlast
      exact ⟨n, plan, found, Function.update_self ..⟩
    · obtain ⟨m, plan', found', hm⟩ := h.unwritten hfailed number hlt (by omega)
      exact ⟨m, plan', found', update_of_calls hm (fun hn => by cases hcall.symm.trans hn) _⟩
  · dsimp only [BillingState.setCall]
    intro heq
    omega
  · intro m hm
    rcases Run.update_cases hm with ⟨-, hnew⟩ | ⟨-, hm⟩
    · cases hnew
    · exact h.callCanceled m hm
  · intro hfailed hstate
    refine (h.providerCanceled hfailed hstate).imp_right ?_
    rintro ⟨m, hm⟩
    exact ⟨m, update_of_calls hm (fun hn => by cases hcall.symm.trans hn) _⟩

lemma Sound.canceled {state : BillingState} (h : state.Sound) {n : ℕ}
    (hold : ∀ old ∈ state.calls n, ¬ old.IsApplied) :
    Sound { state.setCall n (some .canceled) with
      provider := { state.provider with state := .canceled } } := by
  refine ⟨?_, h.written_le, ?_, h.plan, fun _ => rfl, fun _ _ => rfl, ?_⟩
  · intro m plan found number hm
    rcases Run.update_cases hm with ⟨-, hnew⟩ | ⟨-, hm⟩
    · cases hnew
    · exact h.numbered m plan found number hm
  · intro hfailed number hlt hle
    obtain ⟨m, plan, found, hm⟩ := h.unwritten hfailed number hlt hle
    exact ⟨m, plan, found, update_of_calls hm (fun hn => hold _ hn trivial) _⟩
  · exact fun _ _ => Or.inr ⟨n, Function.update_self ..⟩

lemma Sound.writePlan (h : state.Sound) {plan : Plan} {found : Subscription} {number : ℕ}
    (hcall : state.calls n = some (.upgraded plan found number))
    (horder : state.written < number ∨ state.row.planId = plan.id) :
    Sound { state.setCall n none with
      row := { state.row with planId := plan.id }
      written := max state.written number } := by
  obtain ⟨hnumber, hplan⟩ := h.numbered n plan found number hcall
  have hle := h.written_le
  refine ⟨?_, ?_, ?_, ?_, h.rowCanceled, ?_, ?_⟩
  · intro m plan' found' number' hm
    exact h.numbered m plan' found' number' (Run.update_none_cases hm).2
  · exact max_le hle hnumber
  · intro hfailed number' hlt hle'
    obtain ⟨hlt, hne⟩ := max_lt_iff.mp hlt
    obtain ⟨m, plan', found', hm⟩ := h.unwritten hfailed number' hlt hle'
    refine ⟨m, plan', found', update_of_calls hm (fun hn => ?_) _⟩
    obtain ⟨-, -, rfl⟩ := BillingCall.upgraded.inj (Option.some.inj (hcall.symm.trans hn))
    exact absurd hne (lt_irrefl _)
  · dsimp only [BillingState.setCall]
    intro hmax
    rcases horder with hlt | hsame
    · exact hplan (by omega)
    · by_cases hlast : number = state.provider.changes
      · exact hplan hlast
      · rw [← hsame]
        exact h.plan (by omega)
  · exact fun m hm => h.callCanceled m (Run.update_none_cases hm).2
  · intro hfailed hstate
    refine (h.providerCanceled hfailed hstate).imp_right ?_
    rintro ⟨m, hm⟩
    exact ⟨m, update_of_calls hm (fun hn => by cases hcall.symm.trans hn) _⟩

lemma Sound.writeStatus (h : state.Sound) (hcall : state.calls n = some .canceled) :
    Sound { state.setCall n none with row := { state.row with status := .canceled } } := by
  refine ⟨?_, h.written_le, ?_, h.plan, fun _ => h.callCanceled n hcall, ?_,
    fun _ _ => Or.inl rfl⟩
  · intro m plan found number hm
    exact h.numbered m plan found number (Run.update_none_cases hm).2
  · intro hfailed number hlt hle
    obtain ⟨m, plan, found, hm⟩ := h.unwritten hfailed number hlt hle
    exact ⟨m, plan, found, update_of_calls hm (fun hn => by cases hcall.symm.trans hn) _⟩
  · exact fun m hm => h.callCanceled m (Run.update_none_cases hm).2

lemma sound_step (state : BillingState) (event : BillingEvent) (h : state.Sound)
    (horder : state.WrittenInOrder event) : (state.step event).Sound := by
  have hnone : ∀ {n : ℕ}, state.calls n = none → ∀ old ∈ state.calls n, ¬ old.IsApplied := by
    intro n hcall old hold
    cases hcall.symm.trans hold
  cases event with
  | upgrade n plan granted =>
    dsimp only [step, BillingState.upgrade]
    split
    · next hcall =>
      split
      · refine h.setCall (hnone hcall) fun new hnew => ?_
        obtain rfl := Option.some.inj hnew
        exact id
      · exact h.raise n
    · exact h
  | cancel n granted =>
    dsimp only [step, BillingState.cancel]
    split
    · next hcall =>
      split
      · refine h.setCall (hnone hcall) fun new hnew => ?_
        obtain rfl := Option.some.inj hnew
        exact id
      · exact h.raise n
    · exact h
  | callProvider n accepts =>
    dsimp only [step, BillingState.callProvider]
    split
    · next plan found hcall =>
      split
      · exact h.changed hcall
      · exact h.raise n
    · next hcall =>
      have hold : ∀ old ∈ state.calls n, ¬ old.IsApplied := by
        rintro old hold
        obtain rfl := Option.some.inj (hcall.symm.trans hold)
        exact id
      split
      · exact h.canceled hold
      · refine h.setCall hold fun new hnew => ?_
        obtain rfl := Option.some.inj hnew
        exact id
    · exact h
  | askProvider n answers =>
    dsimp only [step, BillingState.askProvider]
    split
    · next hcall =>
      split
      · next hanswer =>
        have hold : ∀ old ∈ state.calls n, ¬ old.IsApplied := by
          rintro old hold
          obtain rfl := Option.some.inj (hcall.symm.trans hold)
          exact id
        have hprovider : { state.provider with state := .canceled } = state.provider := by
          rw [← hanswer.2]
        have hsound := h.canceled hold
        rw [hprovider] at hsound
        exact hsound
      · exact h.raise n
    · exact h
  | write n withdrawn =>
    dsimp only [step, BillingState.write]
    split
    · next plan found number hcall =>
      split
      · next hwrites => exact h.writePlan hcall (horder plan found number hcall hwrites)
      · exact h.raise n
    · next hcall =>
      split
      · exact h.raise n
      · unfold setSubscriptionStatus
        rw [if_pos (isTransitionAllowed_canceled state.row.status)]
        exact h.writeStatus hcall
    · exact h

lemma Sound.agrees (h : state.Sound) (hcalls : ∀ n, state.calls n = none)
    (hfailed : state.failed = false) : state.Agrees := by
  have hle := h.written_le
  have hwritten : state.written = state.provider.changes := by
    by_contra hne
    obtain ⟨n, plan, found, hcall⟩ := h.unwritten hfailed state.provider.changes (by omega) le_rfl
    rw [hcalls n] at hcall
    cases hcall
  refine ⟨h.plan hwritten, h.rowCanceled, fun hstate => ?_⟩
  rcases h.providerCanceled hfailed hstate with hrow | ⟨n, hcall⟩
  · exact hrow
  · rw [hcalls n] at hcall
    cases hcall

lemma FoundLive.setCall (h : state.FoundLive) {call : Option BillingCall}
    (hnew : ∀ plan found number, call = some (.upgraded plan found number) →
      found.status ≠ .canceled) : (state.setCall n call).FoundLive := by
  intro m plan found number hm
  rcases Run.update_cases hm with ⟨-, hcall⟩ | ⟨-, hm⟩
  · exact hnew plan found number hcall
  · exact h m plan found number hm

lemma foundLive_step (state : BillingState) (event : BillingEvent) (h : state.FoundLive)
    (hlive : state.ChangesLive event) : (state.step event).FoundLive := by
  cases event with
  | upgrade n plan granted =>
    dsimp only [step, BillingState.upgrade]
    split
    · split
      · exact h.setCall (by simp)
      · exact h.setCall (by simp)
    · exact h
  | cancel n granted =>
    dsimp only [step, BillingState.cancel]
    split
    · split
      · exact h.setCall (by simp)
      · exact h.setCall (by simp)
    · exact h
  | callProvider n accepts =>
    dsimp only [step, BillingState.callProvider]
    split
    · next plan found hcall =>
      split
      · next haccepts =>
        refine h.setCall fun plan' found' number' hnew => ?_
        obtain ⟨rfl, rfl, rfl⟩ := BillingCall.upgraded.inj (Option.some.inj hnew)
        exact hlive plan found hcall haccepts
      · exact h.setCall (by simp)
    · split
      · exact h.setCall (by simp)
      · exact h.setCall (by simp)
    · exact h
  | askProvider n answers =>
    dsimp only [step, BillingState.askProvider]
    split
    · split
      · exact h.setCall (by simp)
      · exact h.setCall (by simp)
    · exact h
  | write n withdrawn =>
    dsimp only [step, BillingState.write]
    split
    · split
      · exact h.setCall (by simp)
      · exact h.setCall (by simp)
    · split
      · exact h.setCall (by simp)
      · split
        · exact h.setCall (by simp)
        · exact h.setCall (by simp)
    · exact h

end BillingState

/-! ## Runs -/

/-- **Plan changes agree with the provider** in every run in which no plan change is written after
a later one, unless the row has its plan; and no upgrade changes the plan of a subscription that it
found canceled, where the provider applies no change for such an upgrade. -/
theorem plans_agree {state : BillingState} {events : List BillingEvent} (hstart : state.Initial) :
    (Run.Along BillingState.step WrittenInOrder state events → PlansAgree state events) ∧
      (Run.Along BillingState.step ChangesLive state events →
        CanceledKeepsPlan state events) := by
  constructor
  · intro horder before after hsplit
    exact (Run.always_of_along sound_step hstart.sound horder before after hsplit).agrees
  · rintro hlive before n withdrawn after plan found number rfl hcall hcanceled
    have hnone : state.FoundLive := fun m _ _ _ hm => by
      rw [hstart.noCalls m] at hm
      cases hm
    exact absurd hcanceled (Run.always_of_along foundLive_step hnone hlive before
      (.write n withdrawn :: after) rfl n plan found number hcall)

/-! ## Runs in and out of order -/

instance (state : BillingState) (event : BillingEvent) : Decidable (state.WrittenInOrder event) :=
  match event with
  | .upgrade .. | .cancel .. | .callProvider .. | .askProvider .. => isTrue trivial
  | .write n withdrawn =>
    match hcall : state.calls n with
    | some (.upgraded plan found number) =>
      decidable_of_iff (¬ state.row.IsCommercial ∧ withdrawn = false →
          state.written < number ∨ state.row.planId = plan.id) <| by
        constructor
        · rintro h plan' found' number' hother
          obtain ⟨rfl, rfl, rfl⟩ := BillingCall.upgraded.inj
            (Option.some.inj (hcall.symm.trans hother))
          exact h
        · exact fun h => h plan found number hcall
    | none => isTrue fun _ _ _ hother => by cases hcall.symm.trans hother
    | some (.upgrading _ _) => isTrue fun _ _ _ hother => by cases hcall.symm.trans hother
    | some .canceling => isTrue fun _ _ _ hother => by cases hcall.symm.trans hother
    | some .asking => isTrue fun _ _ _ hother => by cases hcall.symm.trans hother
    | some .canceled => isTrue fun _ _ _ hother => by cases hcall.symm.trans hother

instance (state : BillingState) (event : BillingEvent) : Decidable (state.ChangesLive event) :=
  match event with
  | .upgrade .. | .cancel .. | .askProvider .. | .write .. => isTrue trivial
  | .callProvider n accepts =>
    match hcall : state.calls n with
    | some (.upgrading plan found) =>
      decidable_of_iff (accepts = true → found.status ≠ .canceled) <| by
        constructor
        · rintro h plan' found' hother
          obtain ⟨rfl, rfl⟩ := BillingCall.upgrading.inj
            (Option.some.inj (hcall.symm.trans hother))
          exact h
        · exact fun h => h plan found hcall
    | none => isTrue fun _ _ hother => by cases hcall.symm.trans hother
    | some (.upgraded _ _ _) => isTrue fun _ _ hother => by cases hcall.symm.trans hother
    | some .canceling => isTrue fun _ _ hother => by cases hcall.symm.trans hother
    | some .asking => isTrue fun _ _ hother => by cases hcall.symm.trans hother
    | some .canceled => isTrue fun _ _ hother => by cases hcall.symm.trans hother

def legacySubscription : BillingState where
  row := ⟨1, .active, none, .legacyUnverified⟩
  provider := ⟨1, 0, .active⟩
  calls := fun _ => none
  written := 0
  failed := false

lemma legacySubscription_initial : legacySubscription.Initial :=
  ⟨⟨rfl, by decide⟩, fun _ => rfl, rfl⟩

/-- Two upgrades are interleaved and written in order, and the subscription is canceled by two
calls, the second of which the provider refuses. -/
def upgradedAndCanceled : List BillingEvent :=
  [.upgrade 0 ⟨2, false⟩ true, .upgrade 1 ⟨3, false⟩ true, .callProvider 0 true,
    .callProvider 1 true, .write 0 false, .write 1 false, .cancel 2 true, .cancel 3 true,
    .callProvider 2 true, .callProvider 3 false, .askProvider 3 true, .write 3 false,
    .write 2 false]

/-- The later plan and the cancellation are recorded. -/
theorem plans_agree_canceled : PlansAgree legacySubscription upgradedAndCanceled ∧
    CanceledKeepsPlan legacySubscription upgradedAndCanceled ∧
    (Run.run BillingState.step legacySubscription upgradedAndCanceled).row.planId = 3 ∧
    (Run.run BillingState.step legacySubscription upgradedAndCanceled).row.status = .canceled ∧
    (Run.run BillingState.step legacySubscription upgradedAndCanceled).failed = false :=
  ⟨(plans_agree legacySubscription_initial).1 (by decide +kernel),
    (plans_agree legacySubscription_initial).2 (by decide +kernel), by decide +kernel,
    by decide +kernel, by decide +kernel⟩

def writtenOutOfOrder : List BillingEvent :=
  [.upgrade 0 ⟨2, false⟩ true, .upgrade 1 ⟨3, false⟩ true, .callProvider 0 true,
    .callProvider 1 true, .write 1 false, .write 0 false]

def upgradedAfterCancellation : List BillingEvent :=
  [.cancel 0 true, .callProvider 0 true, .write 0 false, .upgrade 1 ⟨2, false⟩ true,
    .callProvider 1 true]

/-- The row keeps the plan that the provider replaced, and a canceled subscription changes its plan.
-/
theorem plans_disagree : ¬ PlansAgree legacySubscription writtenOutOfOrder ∧
    ¬ CanceledKeepsPlan legacySubscription (upgradedAfterCancellation ++ [.write 1 false]) := by
  constructor
  · intro h
    have hcalls : ∀ n, (Run.run BillingState.step legacySubscription
        writtenOutOfOrder).calls n = none := by
      rintro (_ | _ | n) <;> rfl
    have hplans := (h writtenOutOfOrder [] (List.append_nil _).symm hcalls
      (by decide +kernel)).1
    have hrow : (Run.run BillingState.step legacySubscription writtenOutOfOrder).row.planId = 2 := by
      decide +kernel
    have hprovider : (Run.run BillingState.step legacySubscription
        writtenOutOfOrder).provider.planId = 3 := by decide +kernel
    rw [hrow, hprovider] at hplans
    cases hplans
  · intro h
    have hplans := h upgradedAfterCancellation 1 false [] ⟨2, false⟩
      ⟨1, .canceled, none, .legacyUnverified⟩ 1 rfl (by decide +kernel) rfl
    exact absurd hplans (by decide +kernel)

end SaasOs.Billing
