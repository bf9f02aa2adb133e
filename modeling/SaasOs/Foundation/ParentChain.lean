import Mathlib.Tactic
import Mathlib.Logic.Function.Basic

/-!
# Parent pointers and the chains they span

A forest is often stored as one optional parent per node.  `climb parent n a` follows the pointer
`n` times from `a`; a node is an ancestor of `a` at distance `n` when `climb parent n a` reaches it.
-/

namespace ParentChain

variable {α : Type*}

/-- The node reached from `a` by following `parent` exactly `n` times, if the chain is that long. -/
def climb (parent : α → Option α) : ℕ → α → Option α
  | 0, a => some a
  | n + 1, a => (parent a).bind (climb parent n)

section

variable (parent : α → Option α)

include parent

@[simp] lemma climb_zero (a : α) : climb parent 0 a = some a := rfl

lemma climb_succ (n : ℕ) (a : α) :
    climb parent (n + 1) a = (parent a).bind (climb parent n) := rfl

@[simp] lemma climb_one (a : α) : climb parent 1 a = parent a := by
  rw [climb_succ]
  cases parent a <;> rfl

lemma climb_add (m n : ℕ) (a : α) :
    climb parent (m + n) a = (climb parent m a).bind (climb parent n) := by
  induction m generalizing a with
  | zero => simp
  | succ m ih =>
    rw [Nat.succ_add_eq_add_succ, Nat.add_succ, climb_succ, climb_succ, Option.bind_assoc]
    congr 1
    funext b
    exact ih b

end

variable {parent : α → Option α} {n : ℕ} {a b : α}

lemma climb_succ_of_climb (h : climb parent n a = some b) : climb parent (n + 1) a = parent b := by
  rw [climb_add, h, Option.bind_some, climb_one]

variable {m : ℕ} {c : α}

lemma climb_trans (hab : climb parent m a = some b) (hbc : climb parent n b = some c) :
    climb parent (m + n) a = some c := by
  rw [climb_add, hab, Option.bind_some, hbc]

lemma climb_of_le (hb : climb parent m a = some b) (hc : climb parent n a = some c) (hmn : m ≤ n) :
    climb parent (n - m) b = some c := by
  obtain ⟨k, rfl⟩ := Nat.exists_eq_add_of_le hmn
  rw [climb_add, hb, Option.bind_some] at hc
  rwa [Nat.add_sub_cancel_left]

lemma exists_climb_of_le (hc : climb parent n a = some c) (hmn : m ≤ n) :
    ∃ b, climb parent m a = some b := by
  obtain ⟨k, rfl⟩ := Nat.exists_eq_add_of_le hmn
  rw [climb_add] at hc
  cases hb : climb parent m a with
  | none => rw [hb] at hc; simp at hc
  | some b => exact ⟨b, rfl⟩

def Acyclic (parent : α → Option α) : Prop :=
  ∀ a n, climb parent (n + 1) a ≠ some a

lemma Acyclic.eq_zero_of_climb_self (h : Acyclic parent) (hn : climb parent n a = some a) :
    n = 0 := by
  cases n with
  | zero => rfl
  | succ n => exact absurd hn (h a n)

lemma Acyclic.distance_unique (h : Acyclic parent) (hm : climb parent m a = some b)
    (hn : climb parent n a = some b) : m = n := by
  rcases le_total m n with hle | hle
  · have hself := climb_of_le hm hn hle
    have := h.eq_zero_of_climb_self hself
    omega
  · have hself := climb_of_le hn hm hle
    have := h.eq_zero_of_climb_self hself
    omega

variable {t : α}

lemma Acyclic.climb_ne_of_lt (h : Acyclic parent) {k j : ℕ} (hk : climb parent k a = some t)
    (hj : j < k) : climb parent j a ≠ some t := by
  intro hjt
  have := h.distance_unique hjt hk
  omega

/-! ### Redirecting one pointer -/

variable [DecidableEq α]

variable {p : Option α}

/-- A chain whose first `n` nodes avoid `t` does not notice that the pointer of `t` is
redirected. -/
lemma climb_update_of_avoids (h : ∀ k < n, climb parent k a ≠ some t) :
    climb (Function.update parent t p) n a = climb parent n a := by
  induction n generalizing a with
  | zero => rfl
  | succ n ih =>
    have hat : a ≠ t := fun hat => h 0 n.succ_pos (by rw [climb_zero, hat])
    rw [climb_succ, climb_succ, Function.update_of_ne hat]
    cases hp : parent a with
    | none => rfl
    | some b =>
      refine ih fun k hk => ?_
      have := h (k + 1) (Nat.succ_lt_succ hk)
      rwa [climb_succ, hp, Option.bind_some] at this

/-- A chain that first meets `t` after `k` steps reaches `t` also after the redirection, and then
continues from the new parent of `t`. -/
lemma climb_update_through {k : ℕ} (hk : climb parent k a = some t)
    (hfirst : ∀ j < k, climb parent j a ≠ some t) (n : ℕ) :
    climb (Function.update parent t p) (k + 1 + n) a =
      p.bind (climb (Function.update parent t p) n) := by
  have hreach : climb (Function.update parent t p) k a = some t := by
    rw [climb_update_of_avoids hfirst, hk]
  rw [climb_add, climb_succ_of_climb hreach, Function.update_self]

lemma Acyclic.update {parent : α → Option α} (h : Acyclic parent) {t : α} {p : Option α}
    (hp : ∀ b ∈ p, ∀ k, climb parent k b ≠ some t) :
    Acyclic (Function.update parent t p) := by
  intro a n hcycle
  by_cases hmeet : ∃ k, climb parent k a = some t
  · -- the old chain of `a` meets `t`: the new one continues from `p`, which never returns to `t`
    obtain ⟨k, hk⟩ := hmeet
    have hfirst : ∀ j < k, climb parent j a ≠ some t := fun j hj => h.climb_ne_of_lt hk hj
    rcases Nat.lt_or_ge k (n + 1) with hlt | hge
    · obtain ⟨m, hm⟩ := Nat.exists_eq_add_of_le hlt
      rw [hm, climb_update_through hk hfirst m] at hcycle
      cases hpb : p with
      | none => rw [hpb] at hcycle; simp at hcycle
      | some b =>
        have hb := hp b (by rw [hpb]; rfl)
        rw [hpb, Option.bind_some, climb_update_of_avoids fun j _ => hb j] at hcycle
        exact hb (m + k) (climb_trans hcycle hk)
    · rw [climb_update_of_avoids fun j hj => hfirst j (by omega)] at hcycle
      exact h a n hcycle
  · -- the chain of `a` never meets `t`, so the redirection is invisible to it
    have havoid : ∀ k, climb parent k a ≠ some t := fun k hk => hmeet ⟨k, hk⟩
    rw [climb_update_of_avoids fun j _ => havoid j] at hcycle
    exact h a n hcycle

/-- What a redirection of `t` does to the ancestor relation: a pair survives unless it links a node
that has `t` above it (or is `t`) to one that has not, and a node at distance `k` below `t` gains
the ancestors of the new parent, at their distance plus `k + 1`. -/
lemma climb_update_iff (h : Acyclic parent) (hp : ∀ b ∈ p, ∀ k, climb parent k b ≠ some t) :
    climb (Function.update parent t p) n a = some b ↔
      (climb parent n a = some b ∧
        ((∀ k, climb parent k a ≠ some t) ∨ ∃ k, climb parent k b = some t)) ∨
      ∃ k m q, climb parent k a = some t ∧ q ∈ p ∧ climb parent m q = some b ∧
        n = m + 1 + k := by
  by_cases hmeet : ∃ k, climb parent k a = some t
  · obtain ⟨k, hk⟩ := hmeet
    have hfirst : ∀ j < k, climb parent j a ≠ some t := fun j hj => h.climb_ne_of_lt hk hj
    rcases Nat.lt_or_ge k n with hlt | hge
    · -- beyond `t` the new chain is the one of the new parent, which never comes back to `t`
      obtain ⟨m, rfl⟩ := Nat.exists_eq_add_of_le hlt
      rw [climb_update_through hk hfirst m]
      constructor
      · intro hb
        obtain ⟨q, hq, hclimb⟩ := Option.bind_eq_some_iff.mp hb
        rw [climb_update_of_avoids fun j _ => hp q hq j] at hclimb
        exact Or.inr ⟨k, m, q, hk, hq, hclimb, by omega⟩
      · rintro (⟨hold, havoid | ⟨j, hj⟩⟩ | ⟨k', m', q, hk', hq, hclimb, hn⟩)
        · exact absurd hk (havoid k)
        · have := h.distance_unique hk (climb_trans hold hj)
          omega
        · have hkk := h.distance_unique hk hk'
          have hmm : m' = m := by omega
          subst hmm
          rw [Option.bind_eq_some_iff]
          exact ⟨q, hq, by rw [climb_update_of_avoids fun j _ => hp q hq j, hclimb]⟩
    · -- up to `t` nothing changes
      rw [climb_update_of_avoids fun j hj => hfirst j (by omega)]
      constructor
      · intro hb
        exact Or.inl ⟨hb, Or.inr ⟨k - n, climb_of_le hb hk hge⟩⟩
      · rintro (⟨hold, -⟩ | ⟨k', m', q, hk', -, -, hn⟩)
        · exact hold
        · have := h.distance_unique hk hk'
          omega
  · have havoid : ∀ k, climb parent k a ≠ some t := fun k hk => hmeet ⟨k, hk⟩
    rw [climb_update_of_avoids fun j _ => havoid j]
    constructor
    · intro hb
      exact Or.inl ⟨hb, Or.inl havoid⟩
    · rintro (⟨hold, -⟩ | ⟨k, m, q, hk, -⟩)
      · exact hold
      · exact absurd hk (havoid k)

end ParentChain
