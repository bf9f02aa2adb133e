import SaasOs.Foundation.Rows

/-!
# Insertions under a unique key

Transactions insert rows into a table with a unique key.  A row that is not committed is seen by its
own transaction only, but it holds its key: an insertion of the same key by another transaction
waits until the first one ends (`Outcome.waits`), and then fails if it has committed
(`Outcome.violates`) and goes ahead if it was rolled back.
-/

namespace UniqueInsert

open Rows

variable {τ ρ κ : Type*}

/-- The committed rows, and the rows of open transactions. -/
structure Table (τ ρ : Type*) where
  committed : List ρ
  uncommitted : List (τ × ρ)

inductive Outcome
  | inserted
  | waits
  | violates

namespace Table

def empty : Table τ ρ := ⟨[], []⟩

def Unique (key : ρ → κ) (table : Table τ ρ) : Prop :=
  UniqueOn (table.committed ++ table.uncommitted.map Prod.snd) key

def insert (t : τ) (row : ρ) (table : Table τ ρ) : Table τ ρ :=
  { table with uncommitted := table.uncommitted ++ [(t, row)] }

variable [DecidableEq τ]

/-- What becomes of an insertion of the key in a transaction: it waits for another transaction that
has inserted the key and not ended, and fails on a row that it sees. -/
def tryInsert [DecidableEq κ] (key : ρ → κ) (t : τ) (k : κ) (table : Table τ ρ) : Outcome :=
  if table.uncommitted.any fun entry => decide (entry.1 ≠ t) && decide (key entry.2 = k) then
    .waits
  else if table.uncommitted.any (fun entry => decide (key entry.2 = k)) ||
      table.committed.any fun row => decide (key row = k) then
    .violates
  else
    .inserted

def updateOwn (t : τ) (f : ρ → ρ) (table : Table τ ρ) : Table τ ρ :=
  { table with
    uncommitted := table.uncommitted.map fun entry =>
      if entry.1 = t then (entry.1, f entry.2) else entry }

def commit (t : τ) (table : Table τ ρ) : Table τ ρ where
  committed := table.committed ++
    (table.uncommitted.filter fun entry => decide (entry.1 = t)).map Prod.snd
  uncommitted := table.uncommitted.filter fun entry => !decide (entry.1 = t)

def rollback (t : τ) (table : Table τ ρ) : Table τ ρ :=
  { table with uncommitted := table.uncommitted.filter fun entry => !decide (entry.1 = t) }

def delete (p : ρ → Bool) (table : Table τ ρ) : Table τ ρ :=
  { table with committed := table.committed.filter fun row => !p row }

def update (f : ρ → ρ) (table : Table τ ρ) : Table τ ρ :=
  { table with committed := table.committed.map f }

variable {table : Table τ ρ} {key : ρ → κ} {t : τ}

variable {u : τ}

omit [DecidableEq τ] in
@[simp] lemma mem_uncommitted_insert {row row' : ρ} :
    (u, row') ∈ (table.insert t row).uncommitted ↔
      (u, row') ∈ table.uncommitted ∨ (u = t ∧ row' = row) := by
  simp [insert]

variable {row : ρ}

@[simp] lemma mem_uncommitted_rollback :
    (u, row) ∈ (table.rollback t).uncommitted ↔ (u, row) ∈ table.uncommitted ∧ u ≠ t := by
  simp [rollback]

@[simp] lemma mem_uncommitted_commit :
    (u, row) ∈ (table.commit t).uncommitted ↔ (u, row) ∈ table.uncommitted ∧ u ≠ t := by
  simp [commit]

@[simp] lemma mem_committed_commit :
    row ∈ (table.commit t).committed ↔ row ∈ table.committed ∨ (t, row) ∈ table.uncommitted := by
  simp [commit]

variable {f : ρ → ρ}

lemma mem_uncommitted_updateOwn_of_ne (hne : u ≠ t) :
    (u, row) ∈ (table.updateOwn t f).uncommitted ↔ (u, row) ∈ table.uncommitted := by
  simp only [updateOwn, List.mem_map]
  constructor
  · rintro ⟨⟨u', row'⟩, hentry, heq⟩
    split at heq
    · next hown =>
      cases heq
      exact absurd hown hne
    · exact heq ▸ hentry
  · intro hentry
    exact ⟨(u, row), hentry, if_neg hne⟩

lemma mem_uncommitted_updateOwn_self :
    (t, row) ∈ (table.updateOwn t f).uncommitted ↔
      ∃ row₀, (t, row₀) ∈ table.uncommitted ∧ row = f row₀ := by
  simp only [updateOwn, List.mem_map]
  constructor
  · rintro ⟨⟨u, row₀⟩, hentry, heq⟩
    split at heq
    · next hown =>
      obtain rfl : u = t := hown
      cases heq
      exact ⟨row₀, hentry, rfl⟩
    · next hown =>
      cases heq
      exact absurd rfl hown
  · rintro ⟨row₀, hentry, rfl⟩
    exact ⟨(t, row₀), hentry, if_pos rfl⟩

omit [DecidableEq τ] in
lemma Unique.uniqueOn_committed (h : table.Unique key) : UniqueOn table.committed key :=
  List.Nodup.sublist (List.Sublist.map key (List.sublist_append_left _ _)) h

omit [DecidableEq τ] in
lemma Unique.key_ne (h : table.Unique key) (hrow : row ∈ table.committed) {entry : τ × ρ}
    (hentry : entry ∈ table.uncommitted) : key entry.2 ≠ key row := by
  intro heq
  have hnodup : (table.committed.map key ++ (table.uncommitted.map Prod.snd).map key).Nodup := by
    rw [← List.map_append]
    exact h
  have hdisjoint := List.disjoint_of_nodup_append hnodup
  exact hdisjoint (List.mem_map_of_mem hrow)
    (List.mem_map.mpr ⟨entry.2, List.mem_map_of_mem hentry, heq⟩)

section Keys

variable [DecidableEq κ]

variable {k : κ}

lemma tryInsert_eq_inserted :
    table.tryInsert key t k = .inserted ↔
      (∀ row ∈ table.committed, key row ≠ k) ∧ ∀ entry ∈ table.uncommitted, key entry.2 ≠ k := by
  unfold tryInsert
  split
  · next hwaits =>
    obtain ⟨entry, hentry, hk⟩ := List.any_eq_true.mp hwaits
    simp only [Bool.and_eq_true, decide_eq_true_eq] at hk
    simp only [reduceCtorEq, false_iff, not_and]
    exact fun _ h => h entry hentry hk.2
  · split
    · next hviolates =>
      simp only [Bool.or_eq_true, List.any_eq_true, decide_eq_true_eq] at hviolates
      simp only [reduceCtorEq, false_iff, not_and]
      rintro hcommitted huncommitted
      rcases hviolates with ⟨entry, hentry, hk⟩ | ⟨row, hrow, hk⟩
      · exact huncommitted entry hentry hk
      · exact hcommitted row hrow hk
    · next hfree =>
      simp only [Bool.or_eq_true, List.any_eq_true, decide_eq_true_eq, not_or, not_exists,
        not_and] at hfree
      exact ⟨fun _ => ⟨fun row hrow => hfree.2 row hrow, fun entry hentry =>
        hfree.1 entry hentry⟩, fun _ => rfl⟩

lemma exists_committed_of_violates (hown : ∀ entry ∈ table.uncommitted, entry.1 ≠ t)
    (h : table.tryInsert key t k = .violates) : ∃ row ∈ table.committed, key row = k := by
  unfold tryInsert at h
  split at h
  · cases h
  · next hwaits =>
    split at h
    · next hviolates =>
      simp only [Bool.or_eq_true, List.any_eq_true, decide_eq_true_eq] at hviolates
      rcases hviolates with ⟨entry, hentry, hk⟩ | hcommitted
      · refine absurd (List.any_eq_true.mpr ⟨entry, hentry, ?_⟩) hwaits
        simp [hown entry hentry, hk]
      · exact hcommitted
    · cases h

lemma tryInsert_of_committed {row : ρ} (hrow : row ∈ table.committed) (hunique : table.Unique key) :
    table.tryInsert key t (key row) = .violates := by
  unfold tryInsert
  rw [if_neg, if_pos]
  · simp only [Bool.or_eq_true, List.any_eq_true, decide_eq_true_eq]
    exact .inr ⟨row, hrow, rfl⟩
  · simp only [List.any_eq_true, Bool.and_eq_true, decide_eq_true_eq, not_exists, not_and]
    exact fun entry hentry _ heq => hunique.key_ne hrow hentry heq

lemma Unique.insert (h : table.Unique key) {row : ρ}
    (hinserted : table.tryInsert key t (key row) = .inserted) :
    (table.insert t row).Unique key := by
  obtain ⟨hcommitted, huncommitted⟩ := tryInsert_eq_inserted.mp hinserted
  unfold Unique Table.insert
  rw [List.map_append, ← List.append_assoc]
  refine UniqueOn.concat h fun other hother => ?_
  rcases List.mem_append.mp hother with hother | hother
  · exact hcommitted other hother
  · obtain ⟨entry, hentry, rfl⟩ := List.mem_map.mp hother
    exact huncommitted entry hentry

end Keys

lemma Unique.updateOwn (h : table.Unique key) {f : ρ → ρ} (hf : ∀ row, key (f row) = key row) :
    (table.updateOwn t f).Unique key := by
  have hkeys : (table.updateOwn t f).uncommitted.map (key ∘ Prod.snd) =
      table.uncommitted.map (key ∘ Prod.snd) := by
    unfold Table.updateOwn
    rw [List.map_map]
    refine List.map_congr_left fun entry _ => ?_
    simp only [Function.comp_apply]
    split
    · exact hf entry.2
    · rfl
  unfold Unique UniqueOn at h ⊢
  rw [List.map_append, List.map_map] at h ⊢
  rw [hkeys]
  exact h

lemma Unique.commit (h : table.Unique key) (t : τ) : (table.commit t).Unique key := by
  have hperm : ((table.commit t).committed ++ (table.commit t).uncommitted.map Prod.snd).Perm
      (table.committed ++ table.uncommitted.map Prod.snd) := by
    unfold Table.commit
    rw [List.append_assoc, ← List.map_append]
    exact (List.Perm.map _ (List.filter_append_perm _ _)).append_left _
  exact (hperm.map key).nodup_iff.mpr h

lemma Unique.rollback (h : table.Unique key) (t : τ) : (table.rollback t).Unique key := by
  refine List.Nodup.sublist (List.Sublist.map key ?_) h
  exact (List.filter_sublist.map Prod.snd).append_left _

omit [DecidableEq τ] in
lemma Unique.update (h : table.Unique key) {f : ρ → ρ} (hf : ∀ row, key (f row) = key row) :
    (table.update f).Unique key := by
  have hkeys : key ∘ f = key := funext hf
  unfold Unique UniqueOn Table.update at *
  rw [List.map_append, List.map_map, hkeys, ← List.map_append]
  exact h

omit [DecidableEq τ] in
lemma Unique.delete (h : table.Unique key) (p : ρ → Bool) : (table.delete p).Unique key := by
  refine List.Nodup.sublist (List.Sublist.map key ?_) h
  exact List.filter_sublist.append_right _

omit [DecidableEq τ] in
lemma Unique.countP_committed_le_one [BEq κ] [LawfulBEq κ] (h : table.Unique key) (k : κ) :
    table.committed.countP (fun row => key row == k) ≤ 1 := by
  have hcount : table.committed.countP (fun row => key row == k) =
      (table.committed.map key).count k := by
    rw [List.count, List.countP_map]
    rfl
  rw [hcount]
  exact List.nodup_iff_count_le_one.mp h.uniqueOn_committed k

end Table

end UniqueInsert
