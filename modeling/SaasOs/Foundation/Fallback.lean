import Mathlib.Tactic

/-!
# Trying alternatives in turn

A loop tries the items of a list one after another.  A try ends the loop, or it asks for the next
item and leaves an error that is raised if there is none, or if the loop is told to stop before.
-/

namespace Fallback

variable {α β ε : Type}

/-- How a try ends: with a result of the loop, or with an error and the next item. -/
inductive Tried (β ε : Type)
  | done (result : β)
  | next (error : ε)

/-- The loop: `stop` says before which tries it stops, `attempt` how each try ends. -/
def inTurn (stop : ℕ → Bool) (attempt : ℕ → α → Tried β ε) (i : ℕ) (last : ε) :
    List α → List (ℕ × α) × Except ε β
  | [] => ([], .error last)
  | a :: rest =>
    if stop i then ([], .error last)
    else match attempt i a with
      | .done result => ([(i, a)], .ok result)
      | .next error =>
        let (tried, result) := inTurn stop attempt (i + 1) error rest
        ((i, a) :: tried, result)

def AskedForNext (attempt : ℕ → α → Tried β ε) (x : ℕ × α) : Prop :=
  ∃ error, attempt x.1 x.2 = .next error

def EndsWith (attempt : ℕ → α → Tried β ε) (tried : List (ℕ × α)) : Except ε β → Prop
  | .error _ => ∀ x ∈ tried, AskedForNext attempt x
  | .ok result => ∃ before x, tried = before ++ [x] ∧ (∀ y ∈ before, AskedForNext attempt y) ∧
      attempt x.1 x.2 = .done result

variable {stop : ℕ → Bool} {attempt : ℕ → α → Tried β ε} {i : ℕ} {last : ε} {items : List α}
  {tried : List (ℕ × α)} {result : Except ε β}

theorem inTurn_spec (h : inTurn stop attempt i last items = (tried, result)) :
    tried.map Prod.snd <+: items ∧ EndsWith attempt tried result := by
  induction items generalizing i last tried result with
  | nil =>
    obtain ⟨rfl, rfl⟩ : [] = tried ∧ .error last = result := by simpa [inTurn] using h
    exact ⟨List.prefix_rfl, by simp [EndsWith]⟩
  | cons a rest ih =>
    unfold inTurn at h
    split at h
    · obtain ⟨rfl, rfl⟩ : [] = tried ∧ .error last = result := by simpa using h
      exact ⟨List.nil_prefix, by simp [EndsWith]⟩
    · split at h
      · next result' hattempt =>
        obtain ⟨rfl, rfl⟩ : [(i, a)] = tried ∧ .ok result' = result := by simpa using h
        exact ⟨by simp, [], (i, a), rfl, by simp, hattempt⟩
      · next error hattempt =>
        obtain ⟨rfl, rfl⟩ := Prod.mk.inj h
        obtain ⟨hinitial, hends⟩ := ih rfl
        have hfirst : AskedForNext attempt (i, a) := ⟨error, hattempt⟩
        refine ⟨by simpa using hinitial, ?_⟩
        cases hresult : (inTurn stop attempt (i + 1) error rest).2 with
        | error error' =>
          rw [hresult] at hends
          intro x hx
          rcases List.mem_cons.1 hx with rfl | hx
          · exact hfirst
          · exact hends x hx
        | ok value =>
          rw [hresult] at hends
          obtain ⟨before, x, htried, hbefore, hdone⟩ := hends
          refine ⟨(i, a) :: before, x, by rw [htried]; rfl, fun y hy => ?_, hdone⟩
          rcases List.mem_cons.1 hy with rfl | hy
          · exact hfirst
          · exact hbefore y hy

lemma EndsWith.askedForNext {before after : List (ℕ × α)} {x y : ℕ × α}
    (h : EndsWith attempt (before ++ x :: y :: after) result) : AskedForNext attempt x := by
  cases result with
  | error error => exact h x (by simp)
  | ok value =>
    obtain ⟨initial, z, heq, hinitial, -⟩ := h
    have hdrop := congrArg List.dropLast heq
    rw [List.dropLast_concat, List.dropLast_append_of_ne_nil (by simp)] at hdrop
    refine hinitial x ?_
    rw [← hdrop]
    simp

end Fallback
