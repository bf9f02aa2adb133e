import SaasOs.Foundation.Run

/-!
# Writes of a status that was read before

An operation reads a row without a lock, checks its status, and writes a new status when it commits;
in between other transactions commit.  An object-relational mapper sends the status in its `UPDATE`
only when it differs from the one it loaded (`writeStatus`).
-/

namespace StatusWrite

variable {σ : Type*} [DecidableEq σ]

/-- The status after the `UPDATE` of an operation that loaded one status and sets another. -/
def writeStatus (loaded target current : σ) : σ :=
  if loaded = target then current else target

def StillAccepted (accepts : σ → Prop) (loaded target current : σ) : Prop :=
  accepts current ∨ current = target ∨ loaded = target

instance (accepts : σ → Prop) [DecidablePred accepts] (loaded target current : σ) :
    Decidable (StillAccepted accepts loaded target current) :=
  inferInstanceAs (Decidable (_ ∨ _ ∨ _))

lemma writeStatus_cases {accepts : σ → Prop} {loaded target current : σ}
    (h : StillAccepted accepts loaded target current) :
    writeStatus loaded target current = current ∨
      accepts current ∧ writeStatus loaded target current = target := by
  unfold writeStatus
  by_cases hloaded : loaded = target
  · rw [if_pos hloaded]
    exact Or.inl rfl
  · rw [if_neg hloaded]
    rcases h with haccepts | hcurrent | hsame
    · exact Or.inr ⟨haccepts, rfl⟩
    · exact Or.inl hcurrent.symm
    · exact absurd hsame hloaded

end StatusWrite

namespace Run

variable {σ ε τ : Type*} (step : σ → ε → σ)

def Moves (observe : σ → τ) (R : τ → τ → Prop) (state : σ) (events : List ε) : Prop :=
  ∀ before event after, events = before ++ event :: after →
    R (observe (run step state before)) (observe (run step state (before ++ [event])))

variable {step} {observe : σ → τ} {R : τ → τ → Prop} {C : σ → ε → Prop} {I : σ → Prop} {state : σ}
  {events : List ε}

/-- **The rule for moves**: what every step does that meets the condition in a state of the
invariant, every step of the run does. -/
theorem moves_of_along (hkeeps : ∀ state event, I state → C state event → I (step state event))
    (hmoves : ∀ state event, I state → C state event → R (observe state)
      (observe (step state event)))
    (hstart : I state) (h : Along step C state events) : Moves step observe R state events := by
  rintro before event after rfl
  obtain ⟨hbefore, hevent, -⟩ := along_append.mp h
  rw [run_append, run_cons, run_nil]
  exact hmoves _ _ (run_of_along hkeeps hstart hbefore) hevent

end Run
