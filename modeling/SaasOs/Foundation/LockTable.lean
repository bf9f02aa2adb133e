import Mathlib.Tactic

/-!
# Locks held by concurrent transactions

A lock table records which holder holds which resource in which mode.  Two holders may share a
resource only when both hold it in the mode `share`; the table carries the proof that they do.  A
request that is incompatible with a lock of somebody else is not granted (`acquire` answers `none`,
the requester waits), and a holder gives everything back at once when it ends (`release`).
-/

/-- The mode in which a resource is held. -/
inductive LockMode
  | share
  | exclusive
  deriving DecidableEq

/-- One lock: the resource, the mode and the holder. -/
structure HeldLock (ρ τ : Type) where
  resource : ρ
  mode : LockMode
  holder : τ

def HeldLock.Compatible {ρ τ : Type} (l l' : HeldLock ρ τ) : Prop :=
  l.resource = l'.resource → l.holder ≠ l'.holder → l.mode = .share ∧ l'.mode = .share

instance {ρ τ : Type} [DecidableEq ρ] [DecidableEq τ] (l l' : HeldLock ρ τ) :
    Decidable (l.Compatible l') :=
  inferInstanceAs (Decidable (_ → _ → _))

/-- The locks held at one moment, pairwise compatible. -/
structure LockTable (ρ τ : Type) where
  /-- The locks that are held. -/
  held : List (HeldLock ρ τ)
  /-- No resource is held exclusively while somebody else holds it. -/
  compatible : ∀ l ∈ held, ∀ l' ∈ held, l.Compatible l'

namespace LockTable

variable {ρ τ : Type}

def empty : LockTable ρ τ := ⟨[], fun _ hl => absurd hl List.not_mem_nil⟩

def Holds (t : LockTable ρ τ) (holder : τ) (mode : LockMode) (resource : ρ) : Prop :=
  ⟨resource, mode, holder⟩ ∈ t.held

def HoldsExclusively (t : LockTable ρ τ) (holder : τ) (resource : ρ) : Prop :=
  ⟨resource, .exclusive, holder⟩ ∈ t.held

variable {t : LockTable ρ τ} {resource : ρ}

lemma not_holds_of_exclusively {i j : τ} (hij : i ≠ j) (hi : t.HoldsExclusively i resource)
    (mode : LockMode) : ¬ t.Holds j mode resource := by
  intro hj
  have hshare := (t.compatible _ hi _ hj rfl hij).1
  cases hshare

lemma not_both_exclusive {i j : τ} (hij : i ≠ j) (hi : t.HoldsExclusively i resource) :
    ¬ t.HoldsExclusively j resource :=
  not_holds_of_exclusively hij hi .exclusive

variable [DecidableEq τ]

def release (t : LockTable ρ τ) (holder : τ) : LockTable ρ τ where
  held := t.held.filter fun l => decide (l.holder ≠ holder)
  compatible := fun l hl l' hl' =>
    t.compatible l (List.mem_of_mem_filter hl) l' (List.mem_of_mem_filter hl')

variable {mode : LockMode}

lemma Holds.of_release {holder i : τ} (hi : i ≠ holder) (hheld : t.Holds i mode resource) :
    (t.release holder).Holds i mode resource :=
  List.mem_filter.mpr ⟨hheld, decide_eq_true hi⟩

lemma HoldsExclusively.of_release {t : LockTable ρ τ} {holder i : τ} (hi : i ≠ holder)
    {resource : ρ} (hheld : t.HoldsExclusively i resource) :
    (t.release holder).HoldsExclusively i resource :=
  Holds.of_release hi hheld

variable [DecidableEq ρ]

def Grantable (t : LockTable ρ τ) (request : HeldLock ρ τ) : Prop :=
  ∀ l ∈ t.held, request.Compatible l

instance (t : LockTable ρ τ) (request : HeldLock ρ τ) : Decidable (t.Grantable request) :=
  inferInstanceAs (Decidable (∀ l ∈ t.held, request.Compatible l))

def requests (holder : τ) (mode : LockMode) (resources : List ρ) : List (HeldLock ρ τ) :=
  resources.map fun resource => ⟨resource, mode, holder⟩

def acquire (t : LockTable ρ τ) (holder : τ) (mode : LockMode) (resources : List ρ) :
    Option (LockTable ρ τ) :=
  if h : ∀ request ∈ requests holder mode resources, t.Grantable request then
    some
      { held := requests holder mode resources ++ t.held
        compatible := by
          intro l hl l' hl'
          rcases List.mem_append.mp hl with hnew | hold
          · rcases List.mem_append.mp hl' with hnew' | hold'
            · -- both requests are of the same holder
              obtain ⟨_, -, rfl⟩ := List.mem_map.mp hnew
              obtain ⟨_, -, rfl⟩ := List.mem_map.mp hnew'
              exact fun _ hne => absurd rfl hne
            · exact h l hnew l' hold'
          · rcases List.mem_append.mp hl' with hnew' | hold'
            · intro hresource hholder
              exact (h l' hnew' l hold hresource.symm hholder.symm).symm
            · exact t.compatible l hold l' hold' }
  else
    none

variable {holder : τ}

lemma exists_acquire (h : ∀ l ∈ t.held, l.holder = holder) (mode : LockMode) (resources : List ρ) :
    ∃ t', t.acquire holder mode resources = some t' := by
  have hgrantable : ∀ request ∈ requests holder mode resources, t.Grantable request := by
    intro request hrequest l hl
    obtain ⟨_, -, rfl⟩ := List.mem_map.mp hrequest
    exact fun _ hne => absurd (h l hl).symm hne
  unfold acquire
  rw [dif_pos hgrantable]
  exact ⟨_, rfl⟩

variable {t' : LockTable ρ τ} {resources : List ρ}

lemma mem_held_of_acquire (h : t.acquire holder mode resources = some t') {l : HeldLock ρ τ} :
    l ∈ t'.held ↔ l ∈ requests holder mode resources ∨ l ∈ t.held := by
  unfold acquire at h
  split at h
  · cases h
    exact List.mem_append
  · cases h

lemma Holds.of_acquire {holder i : τ} {mode mode' : LockMode} (hheld : t.Holds i mode' resource)
    (h : t.acquire holder mode resources = some t') : t'.Holds i mode' resource :=
  (mem_held_of_acquire h).mpr (Or.inr hheld)

lemma holds_of_acquire (h : t.acquire holder mode resources = some t')
    (hresource : resource ∈ resources) : t'.Holds holder mode resource :=
  (mem_held_of_acquire h).mpr (Or.inl (List.mem_map.mpr ⟨resource, hresource, rfl⟩))

lemma HoldsExclusively.of_acquire {t t' : LockTable ρ τ} {holder i : τ} {mode : LockMode}
    {resources : List ρ} {resource : ρ} (hheld : t.HoldsExclusively i resource)
    (h : t.acquire holder mode resources = some t') : t'.HoldsExclusively i resource :=
  Holds.of_acquire hheld h

lemma holdsExclusively_of_acquire (h : t.acquire holder .exclusive resources = some t')
    (hresource : resource ∈ resources) : t'.HoldsExclusively holder resource :=
  holds_of_acquire h hresource

end LockTable
