import Mathlib.Tactic

/-!
# Reads that leave row locks behind

A query issued inside a transaction answers with a value and, when it is a locking read, keeps the
rows it relied on locked until the transaction ends.  `LockedRead ρ α` is the answer `val : α` of
such a computation together with the rows `locks : List ρ` it locked on the way, in the order in
which it locked them.  It is a monad.
-/

universe u

/-- The answer of a computation made of locking reads, with the rows it left locked. -/
@[ext]
structure LockedRead (ρ : Type u) (α : Type u) where
  /-- The answer. -/
  val : α
  /-- The rows locked on the way, first lock first. -/
  locks : List ρ

namespace LockedRead

variable {ρ α β : Type u}

instance : Monad (LockedRead ρ) where
  pure a := ⟨a, []⟩
  bind x f := ⟨(f x.val).val, x.locks ++ (f x.val).locks⟩

/-- A read that answers `a` and locks `rows`. -/
def reading (rows : List ρ) (a : α) : LockedRead ρ α := ⟨a, rows⟩

@[simp] lemma val_reading (rows : List ρ) (a : α) : (reading rows a).val = a := rfl

@[simp] lemma val_pure (a : α) : (pure a : LockedRead ρ α).val = a := rfl

@[simp] lemma val_bind (x : LockedRead ρ α) (f : α → LockedRead ρ β) :
    (x >>= f).val = (f x.val).val := rfl

@[simp] lemma val_ite (c : Prop) [Decidable c] (x y : LockedRead ρ α) :
    (if c then x else y).val = if c then x.val else y.val := by
  split <;> rfl

def firstHit {ρ γ : Type} (hits : List γ) (rows : γ → List ρ) : LockedRead ρ Bool :=
  match hits.head? with
  | none => reading [] false
  | some hit => reading (rows hit) true

@[simp] lemma val_firstHit {ρ γ : Type} (hits : List γ) (rows : γ → List ρ) :
    (firstHit hits rows).val = true ↔ ∃ hit, hit ∈ hits := by
  unfold firstHit
  cases hits with
  | nil => simp
  | cons hit hits => simp

@[simp] lemma val_anyM {ρ γ : Type} (p : γ → LockedRead ρ Bool) (l : List γ) :
    (l.anyM p).val = l.any fun a => (p a).val := by
  induction l with
  | nil => rfl
  | cons a l ih =>
    rw [List.anyM, val_bind, List.any_cons]
    cases (p a).val with
    | true => rfl
    | false => exact ih

@[simp] lemma val_findM {ρ γ : Type} (p : γ → LockedRead ρ Bool) (l : List γ) :
    (l.findM? p).val = l.find? fun a => (p a).val := by
  induction l with
  | nil => rfl
  | cons a l ih =>
    rw [List.findM?, val_bind, List.find?_cons]
    cases (p a).val with
    | true => rfl
    | false => exact ih

def forEach {ρ γ δ : Type} (f : γ → LockedRead ρ δ) : List γ → LockedRead ρ (List δ)
  | [] => pure []
  | a :: l => do
    let b ← f a
    let bs ← forEach f l
    return b :: bs

@[simp] lemma val_forEach {ρ γ δ : Type} (f : γ → LockedRead ρ δ) (l : List γ) :
    (forEach f l).val = l.map fun a => (f a).val := by
  induction l with
  | nil => rfl
  | cons a l ih =>
    rw [forEach, val_bind, val_bind, val_pure, ih, List.map_cons]

end LockedRead

/-- A computation made of locking reads that may raise an error. -/
abbrev LockedExcept (ε ρ α : Type) := ExceptT ε (LockedRead ρ) α

namespace LockedExcept

variable {ε ρ α β : Type}

def read (x : LockedRead ρ α) : LockedExcept ε ρ α := ExceptT.lift x

def check (x : Except ε α) : LockedExcept ε ρ α := ExceptT.mk (pure x)

def result (x : LockedExcept ε ρ α) : Except ε α := (ExceptT.run x).val

def locks (x : LockedExcept ε ρ α) : List ρ := (ExceptT.run x).locks

@[simp] lemma result_read (x : LockedRead ρ α) :
    (read x : LockedExcept ε ρ α).result = .ok x.val := rfl

@[simp] lemma result_check (x : Except ε α) : (check x : LockedExcept ε ρ α).result = x := rfl

@[simp] lemma result_pure (a : α) : (pure a : LockedExcept ε ρ α).result = .ok a := rfl

@[simp] lemma result_bind (x : LockedExcept ε ρ α) (f : α → LockedExcept ε ρ β) :
    (x >>= f).result = x.result >>= fun a => (f a).result := by
  change (ExceptT.bindCont f (ExceptT.run x).val).val = (ExceptT.run x).val >>= fun a => (f a).result
  cases (ExceptT.run x).val <;> rfl

@[simp] lemma result_ite (c : Prop) [Decidable c] (x y : LockedExcept ε ρ α) :
    (if c then x else y).result = if c then x.result else y.result := by
  split <;> rfl

end LockedExcept
