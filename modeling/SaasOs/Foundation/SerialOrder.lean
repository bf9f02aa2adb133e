import Mathlib.Tactic

/-!
# Serial orders of concurrent calls

Calls begin, commit and end; what they do to a state is a function `apply` of what they ask for.  A
list of calls explains a history when the calls, one after the other, give the states that were
committed, and when a call that ended before another one began stands before it
(`SerialOrder.Explains`).
-/

namespace SerialOrder

variable {σ ρ : Type*}

inductive Happening (σ : Type*)
  | began (n : ℕ)
  | committed (state : σ)
  | ended (n : ℕ)

def committedStates (start : σ) (history : List (Happening σ)) : List σ :=
  start :: history.filterMap fun
    | .committed state => some state
    | .began _ => none
    | .ended _ => none

/-- The same states in turn, however often each one is repeated. -/
inductive SameStates : List σ → List σ → Prop
  | start (s : σ) : SameStates [s] [s]
  | both {l r : List σ} (s : σ) (h : SameStates l r) : SameStates (l ++ [s]) (r ++ [s])
  | left {l r : List σ} (s : σ) (h : SameStates (l ++ [s]) r) : SameStates (l ++ [s, s]) r
  | right {l r : List σ} (s : σ) (h : SameStates l (r ++ [s])) : SameStates l (r ++ [s, s])

section Apply

variable (apply : ρ → σ → σ)

def replay (start : σ) (order : List (ℕ × ρ)) : σ :=
  order.foldl (fun state call => apply call.2 state) start

def serialStates (start : σ) : List (ℕ × ρ) → List σ
  | [] => [start]
  | call :: calls => start :: serialStates (apply call.2 start) calls

/-- **The list of calls explains the history**, at the end of which `current` is the state. -/
structure Explains (requests : ℕ → Option ρ) (start : σ) (history : List (Happening σ))
    (order : List (ℕ × ρ)) (current : σ) : Prop where
  nodup : (order.map Prod.fst).Nodup
  requested : ∀ call ∈ order, requests call.1 = some call.2
  begun : ∀ n, .began n ∈ history ↔ requests n ≠ none
  ended : ∀ n, .ended n ∈ history → n ∈ order.map Prod.fst
  realTime : ∀ n m, [.ended n, .began m].Sublist history → m ∈ order.map Prod.fst →
    [n, m].Sublist (order.map Prod.fst)
  states : SameStates (committedStates start history) (serialStates apply start order)
  last : current = replay apply start order

end Apply

variable {apply : ρ → σ → σ} {requests : ℕ → Option ρ} {start current : σ}
  {history : List (Happening σ)} {order : List (ℕ × ρ)}

@[simp] lemma replay_concat (call : ℕ × ρ) :
    replay apply start (order ++ [call]) = apply call.2 (replay apply start order) := by
  simp [replay]

lemma serialStates_concat (call : ℕ × ρ) :
    serialStates apply start (order ++ [call]) =
      serialStates apply start order ++ [apply call.2 (replay apply start order)] := by
  induction order generalizing start with
  | nil => rfl
  | cons first order ih => exact congrArg (start :: ·) ih

lemma exists_serialStates_eq (apply : ρ → σ → σ) (start : σ) (order : List (ℕ × ρ)) :
    ∃ before, serialStates apply start order = before ++ [replay apply start order] := by
  induction order using List.reverseRecOn with
  | nil => exact ⟨[], rfl⟩
  | append_singleton order call _ =>
    exact ⟨_, (serialStates_concat call).trans (by rw [replay_concat])⟩

lemma committedStates_committed (state : σ) :
    committedStates start (history ++ [.committed state]) =
      committedStates start history ++ [state] := by
  simp [committedStates]

lemma committedStates_began (n : ℕ) :
    committedStates start (history ++ [.began n]) = committedStates start history := by
  simp [committedStates]

lemma committedStates_ended (n : ℕ) :
    committedStates start (history ++ [.ended n]) = committedStates start history := by
  simp [committedStates]

lemma SameStates.exists_left {l r : List σ} (h : SameStates l r) :
    ∀ before s, r = before ++ [s] → ∃ before', l = before' ++ [s] := by
  induction h with
  | start s =>
    intro before s' heq
    obtain ⟨rfl, rfl⟩ : before = [] ∧ s = s' := by
      have := List.append_inj' (show [] ++ [s] = before ++ [s'] from heq) rfl
      exact ⟨this.1.symm, by simpa using this.2⟩
    exact ⟨[], rfl⟩
  | both s h ih =>
    intro before s' heq
    have := List.append_inj' heq rfl
    obtain rfl : s = s' := by simpa using this.2
    exact ⟨_, rfl⟩
  | @left l r s h ih =>
    intro before s' heq
    obtain ⟨before', heq'⟩ := ih before s' heq
    have := List.append_inj' heq' rfl
    obtain rfl : s = s' := by simpa using this.2
    exact ⟨l ++ [s], by simp⟩
  | @right l r s h ih =>
    intro before s' heq
    rw [List.append_cons r s [s]] at heq
    have := List.append_inj' heq rfl
    obtain rfl : s = s' := by simpa using this.2
    exact ih r s rfl

lemma pair_sublist_concat {α : Type*} {a b c : α} {l : List α} (h : [a, b].Sublist (l ++ [c])) :
    [a, b].Sublist l ∨ (a ∈ l ∧ b = c) := by
  obtain ⟨l₁, l₂, heq, h₁, h₂⟩ := List.sublist_append_iff.1 h
  rcases List.sublist_singleton.1 h₂ with rfl | rfl
  · rw [List.append_nil] at heq
    exact .inl (heq ▸ h₁)
  · obtain ⟨rfl, hb⟩ := List.append_inj' (show [a] ++ [b] = l₁ ++ [c] from heq) rfl
    exact .inr ⟨List.singleton_sublist.1 h₁, by simpa using hb⟩

namespace Explains

lemma nil (apply : ρ → σ → σ) (start : σ) :
    Explains apply (fun _ => none) start [] [] start where
  nodup := List.nodup_nil
  requested _ h := nomatch h
  begun _ := by simp
  ended _ h := nomatch h
  realTime _ _ h := by simp at h
  states := .start start
  last := rfl

lemma began (h : Explains apply requests start history order current) {n : ℕ}
    (hn : requests n = none) (request : ρ) :
    Explains apply (Function.update requests n (some request)) start (history ++ [.began n]) order
      current := by
  have hnot : n ∉ order.map Prod.fst := by
    intro hmem
    obtain ⟨call, hcall, rfl⟩ := List.mem_map.1 hmem
    exact absurd ((h.requested call hcall).symm.trans hn) nofun
  refine ⟨h.nodup, ?_, ?_, ?_, ?_, (committedStates_began n).symm ▸ h.states, h.last⟩
  · intro call hcall
    have hne : call.1 ≠ n := fun heq => hnot (heq ▸ List.mem_map_of_mem hcall)
    rw [Function.update_of_ne hne]
    exact h.requested call hcall
  · intro m
    by_cases hm : m = n
    · simp [hm]
    · simpa [Function.update_of_ne hm, hm] using h.begun m
  · intro m hm
    exact h.ended m (by simpa using hm)
  · intro m m' hpair hm'
    rcases pair_sublist_concat hpair with hpair | ⟨-, heq⟩
    · exact h.realTime m m' hpair hm'
    · cases heq
      exact absurd hm' hnot

private lemma append (h : Explains apply requests start history order current) {n : ℕ} {request : ρ}
    (hrequest : requests n = some request) (hn : n ∉ order.map Prod.fst) :
    ((order ++ [(n, request)]).map Prod.fst).Nodup ∧
      (∀ call ∈ order ++ [(n, request)], requests call.1 = some call.2) ∧
      ∀ m m', [.ended m, .began m'].Sublist history →
        m' ∈ (order ++ [(n, request)]).map Prod.fst →
        [m, m'].Sublist ((order ++ [(n, request)]).map Prod.fst) := by
  refine ⟨?_, ?_, ?_⟩
  · rw [List.map_append]
    exact h.nodup.append (List.nodup_singleton n) (by simpa using hn)
  · intro call hcall
    rcases List.mem_append.1 hcall with hcall | hcall
    · exact h.requested call hcall
    · obtain rfl := List.mem_singleton.1 hcall
      exact hrequest
  · intro m m' hpair hm'
    rw [List.map_append] at hm' ⊢
    rcases List.mem_append.1 hm' with hm' | hm'
    · exact (h.realTime m m' hpair hm').trans (List.sublist_append_left _ _)
    · have hm : m ∈ order.map Prod.fst := h.ended m (hpair.subset (List.mem_cons_self ..))
      obtain rfl : m' = n := by simpa using hm'
      exact List.Sublist.append (List.singleton_sublist.2 hm) (List.Sublist.refl [m'])

section

variable (h : Explains apply requests start history order current)

include h

lemma take {n : ℕ} {request : ρ} (hrequest : requests n = some request)
    (hn : n ∉ order.map Prod.fst) (hsame : apply request current = current) :
    Explains apply requests start history (order ++ [(n, request)]) current := by
  obtain ⟨hnodup, hrequested, hrealTime⟩ := h.append hrequest hn
  refine ⟨hnodup, hrequested, h.begun, ?_, hrealTime, ?_, ?_⟩
  · intro m hm
    rw [List.map_append]
    exact List.mem_append_left _ (h.ended m hm)
  · obtain ⟨before, hbefore⟩ := exists_serialStates_eq apply start order
    have hstates := h.states
    rw [serialStates_concat, ← h.last, hsame]
    rw [hbefore, ← h.last] at hstates ⊢
    rw [List.append_assoc]
    exact .right current hstates
  · rw [replay_concat, ← h.last, hsame]

lemma take_all (P : ℕ → Prop)
    (hP : ∀ n, P n → ∃ request, requests n = some request ∧ apply request current = current) :
    ∃ order', Explains apply requests start history order' current ∧
      ∀ n, n ∈ order'.map Prod.fst ↔ n ∈ order.map Prod.fst ∨ P n := by
  classical
  have htaken : ∀ happened : List (Happening σ), ∃ order',
      Explains apply requests start history order' current ∧
        ∀ n, n ∈ order'.map Prod.fst ↔ n ∈ order.map Prod.fst ∨ (.began n ∈ happened ∧ P n) := by
    intro happened
    induction happened with
    | nil => exact ⟨order, h, fun n => by simp⟩
    | cons happening happened ih =>
      obtain ⟨order', horder', hmem⟩ := ih
      by_cases htake : ∃ n, happening = .began n ∧ P n ∧ n ∉ order'.map Prod.fst
      · obtain ⟨n, rfl, hn, hnot⟩ := htake
        obtain ⟨request, hrequest, hsame⟩ := hP n hn
        refine ⟨_, horder'.take hrequest hnot hsame, fun m => ?_⟩
        rw [List.map_append, List.mem_append, hmem]
        by_cases hm : m = n
        · simp [hm, hn]
        · simp [hm]
      · refine ⟨order', horder', fun m => ?_⟩
        constructor
        · intro hm
          exact ((hmem m).1 hm).imp_right fun hP => ⟨List.mem_cons_of_mem _ hP.1, hP.2⟩
        · rintro (hm | ⟨hbegan, hm⟩)
          · exact (hmem m).2 (.inl hm)
          · rcases List.mem_cons.1 hbegan with hbegan | hbegan
            · by_contra hnot
              exact htake ⟨m, hbegan.symm, hm, hnot⟩
            · exact (hmem m).2 (.inr ⟨hbegan, hm⟩)
  obtain ⟨order', horder', hmem⟩ := htaken history
  refine ⟨order', horder', fun n => (hmem n).trans (or_congr_right ⟨And.right, fun hn => ⟨?_, hn⟩⟩)⟩
  obtain ⟨request, hrequest, -⟩ := hP n hn
  exact (h.begun n).2 (hrequest ▸ nofun)

lemma change {n : ℕ} {request : ρ} (hrequest : requests n = some request)
    (hn : n ∉ order.map Prod.fst) :
    Explains apply requests start (history ++ [.committed (apply request current)])
      (order ++ [(n, request)]) (apply request current) := by
  obtain ⟨hnodup, hrequested, hrealTime⟩ := h.append hrequest hn
  refine ⟨hnodup, hrequested, fun m => ?_, fun m hm => ?_, fun m m' hpair hm' => ?_, ?_, ?_⟩
  · simpa using h.begun m
  · rw [List.map_append]
    exact List.mem_append_left _ (h.ended m (by simpa using hm))
  · rcases pair_sublist_concat hpair with hpair | ⟨-, heq⟩
    · exact hrealTime m m' hpair hm'
    · cases heq
  · rw [committedStates_committed, serialStates_concat, ← h.last]
    exact .both _ h.states
  · rw [replay_concat, ← h.last]

lemma commit :
    Explains apply requests start (history ++ [.committed current]) order current := by
  refine ⟨h.nodup, h.requested, fun m => ?_, fun m hm => ?_, fun m m' hpair hm' => ?_, ?_, h.last⟩
  · simpa using h.begun m
  · exact h.ended m (by simpa using hm)
  · rcases pair_sublist_concat hpair with hpair | ⟨-, heq⟩
    · exact h.realTime m m' hpair hm'
    · cases heq
  · obtain ⟨before, hbefore⟩ := exists_serialStates_eq apply start order
    rw [← h.last] at hbefore
    obtain ⟨before', hbefore'⟩ := h.states.exists_left before current hbefore
    have hstates := h.states
    rw [committedStates_committed]
    rw [hbefore'] at hstates ⊢
    rw [List.append_assoc]
    exact .left current hstates

lemma finish {n : ℕ} (hn : n ∈ order.map Prod.fst) :
    Explains apply requests start (history ++ [.ended n]) order current := by
  refine ⟨h.nodup, h.requested, fun m => ?_, fun m hm => ?_, fun m m' hpair hm' => ?_,
    (committedStates_ended n).symm ▸ h.states, h.last⟩
  · simpa using h.begun m
  · rcases List.mem_append.1 hm with hm | hm
    · exact h.ended m hm
    · cases List.mem_singleton.1 hm
      exact hn
  · rcases pair_sublist_concat hpair with hpair | ⟨-, heq⟩
    · exact h.realTime m m' hpair hm'
    · cases heq

end

end Explains

end SerialOrder
