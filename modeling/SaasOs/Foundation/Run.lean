import Mathlib.Tactic

/-!
# Runs of a step function

A system is a step function `σ → ε → σ`; a run is a list of events.  `Along` says that every event
of a run meets a condition in the state before it, and `Always` that every state of a run, the first
and the last one included, has a property.  `always_of_along` is the rule for invariants: what holds
at the beginning and is kept by every step that meets the condition, always holds.
-/

namespace Run

variable {σ ε : Type*}

section Step

variable (step : σ → ε → σ)

def run (state : σ) (events : List ε) : σ :=
  events.foldl step state

@[simp] lemma run_nil (state : σ) : run step state [] = state := rfl

@[simp] lemma run_cons (state : σ) (event : ε) (events : List ε) :
    run step state (event :: events) = run step (step state event) events := rfl

lemma run_append (state : σ) (before after : List ε) :
    run step state (before ++ after) = run step (run step state before) after :=
  List.foldl_append

/-- Every event of the run meets the condition in the state that it finds. -/
def Along (C : σ → ε → Prop) (state : σ) : List ε → Prop
  | [] => True
  | event :: events => C state event ∧ Along C (step state event) events

instance decidableAlong {C : σ → ε → Prop} [∀ state event, Decidable (C state event)] :
    ∀ state events, Decidable (Along step C state events)
  | _, [] => isTrue trivial
  | state, event :: events =>
    have : Decidable (Along step C (step state event) events) :=
      decidableAlong (step state event) events
    inferInstanceAs (Decidable (C state event ∧ Along step C (step state event) events))

/-- Every state of the run has the property. -/
def Always (I : σ → Prop) (state : σ) (events : List ε) : Prop :=
  ∀ before after, events = before ++ after → I (run step state before)

end Step

variable {step : σ → ε → σ} {C D : σ → ε → Prop} {I : σ → Prop} {state : σ}
  {before after events : List ε}

lemma along_append : Along step C state (before ++ after) ↔
    Along step C state before ∧ Along step C (run step state before) after := by
  induction before generalizing state with
  | nil => simp [Along]
  | cons event before ih => simp only [List.cons_append, Along, ih, run_cons, and_assoc]

lemma Along.and (h : Along step C state events) (h' : Along step D state events) :
    Along step (fun state event => C state event ∧ D state event) state events := by
  induction events generalizing state with
  | nil => trivial
  | cons event events ih => exact ⟨⟨h.1, h'.1⟩, ih h.2 h'.2⟩

lemma along_of_mem (h : ∀ event ∈ events, ∀ state, C state event) : Along step C state events := by
  induction events generalizing state with
  | nil => trivial
  | cons event events ih =>
    refine ⟨h event List.mem_cons_self state, ih fun other hother => ?_⟩
    exact h other (List.mem_cons_of_mem event hother)

lemma along_of_forall {P : ε → Prop} (h : ∀ event ∈ events, P event) :
    Along step (fun _ event => P event) state events :=
  along_of_mem fun event hevent _ => h event hevent

lemma run_of_along (hkeeps : ∀ state event, I state → C state event → I (step state event))
    (hstart : I state) (h : Along step C state events) : I (run step state events) := by
  induction events generalizing state with
  | nil => exact hstart
  | cons event events ih => exact ih (hkeeps state event hstart h.1) h.2

lemma run_of_step (hkeeps : ∀ state event, I state → I (step state event)) (hstart : I state)
    (events : List ε) : I (run step state events) := by
  induction events generalizing state with
  | nil => exact hstart
  | cons event events ih => exact ih (hkeeps state event hstart)

lemma along_of_invariant (hkeeps : ∀ state event, I state → I (step state event))
    (hevent : ∀ state event, I state → C state event) (hstart : I state) (events : List ε) :
    Along step C state events := by
  induction events generalizing state with
  | nil => trivial
  | cons event events ih => exact ⟨hevent state event hstart, ih (hkeeps state event hstart)⟩

/-- What every event that meets the condition keeps from a state with an invariant, every event of a
run keeps. -/
lemma along_of_along (hkeeps : ∀ state event, I state → C state event → I (step state event))
    (hevent : ∀ state event, I state → C state event → D state event) (hstart : I state)
    (h : Along step C state events) : Along step D state events := by
  induction events generalizing state with
  | nil => trivial
  | cons event events ih =>
    exact ⟨hevent state event hstart h.1, ih (hkeeps state event hstart h.1) h.2⟩

lemma exists_step_of_not {I : σ → Prop} (hstart : ¬ I state) (hend : I (run step state events)) :
    ∃ before event after, events = before ++ event :: after ∧ ¬ I (run step state before) ∧
      I (step (run step state before) event) := by
  induction events generalizing state with
  | nil => exact absurd hend hstart
  | cons event events ih =>
    by_cases hnext : I (step state event)
    · exact ⟨[], event, events, rfl, hstart, hnext⟩
    · obtain ⟨before, other, after, rfl, hbefore, hafter⟩ := ih hnext hend
      exact ⟨event :: before, other, after, rfl, hbefore, hafter⟩

theorem always_of_along (hkeeps : ∀ state event, I state → C state event → I (step state event))
    (hstart : I state) (h : Along step C state events) : Always step I state events := by
  rintro before after rfl
  exact run_of_along hkeeps hstart (along_append.mp h).1

lemma Always.along (h : Always step I state events) :
    Along step (fun state _ => I state) state events := by
  induction events generalizing state with
  | nil => trivial
  | cons event events ih =>
    exact ⟨h [] (event :: events) rfl, ih fun before after hevents =>
      h (event :: before) after (congrArg (event :: ·) hevents)⟩

section Calls

/-! ## Calls in progress -/

variable {ι γ : Type*} [DecidableEq ι] {calls : ι → Option γ} {n m : ι} {call new : γ}

/-- A call, after one of the calls has been written, is the one that was written, or another one as
it was. -/
lemma update_cases {written : Option γ} (h : Function.update calls n written m = some call) :
    m = n ∧ written = some call ∨ m ≠ n ∧ calls m = some call := by
  by_cases hmn : m = n
  · subst hmn
    rw [Function.update_self] at h
    exact .inl ⟨rfl, h⟩
  · rw [Function.update_of_ne hmn] at h
    exact .inr ⟨hmn, h⟩

lemma update_some_cases (h : Function.update calls n (some new) m = some call) :
    m = n ∧ call = new ∨ m ≠ n ∧ calls m = some call :=
  (update_cases h).imp_left fun hnew => ⟨hnew.1, (Option.some.inj hnew.2).symm⟩

lemma update_none_cases (h : Function.update calls n none m = some call) :
    m ≠ n ∧ calls m = some call :=
  (update_cases h).resolve_left fun hnone => Option.some_ne_none call hnone.2.symm

end Calls

end Run
