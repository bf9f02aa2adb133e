import Mathlib.Tactic
import Mathlib.Data.List.Nodup
import Mathlib.Data.List.Sort

/-!
# Tables as lists of rows

A table is a list of rows.  A unique constraint on a key says that the keys of its rows are pairwise
distinct (`UniqueOn`); a lookup by such a key (`List.find?`) then answers the one row that carries
it (`find?_eq_some_iff`), updates of rows with different keys can be made in either order, and a
loop over selected rows finds each of them as it was selected.
-/

namespace Rows

variable {α κ : Type*}

def UniqueOn (table : List α) (key : α → κ) : Prop :=
  (table.map key).Nodup

instance [DecidableEq κ] (table : List α) (key : α → κ) : Decidable (UniqueOn table key) :=
  inferInstanceAs (Decidable (table.map key).Nodup)

variable {table : List α} {key : α → κ}

lemma UniqueOn.eq_of_key_eq (h : UniqueOn table key) {r s : α} (hr : r ∈ table) (hs : s ∈ table)
    (hkey : key r = key s) : r = s :=
  List.inj_on_of_nodup_map h hr hs hkey

variable {f : α → α}

lemma UniqueOn.map_of_key (h : UniqueOn table key) (hf : ∀ r, key (f r) = key r) :
    UniqueOn (table.map f) key := by
  have hkeys : key ∘ f = key := funext hf
  unfold UniqueOn
  rw [List.map_map, hkeys]
  exact h

/-- A row with a key that an update leaves alone is there afterwards if and only if it was there
before. -/
lemma mem_map_iff_of_fixed (key : α → κ) (hkey : ∀ r, key (f r) = key r)
    {k : κ} (hfix : ∀ r, key r = k → f r = r) {l : List α} {row : α} (hrow : key row = k) :
    row ∈ l.map f ↔ row ∈ l := by
  constructor
  · intro h
    obtain ⟨r, hr, rfl⟩ := List.mem_map.mp h
    rw [hfix r ((hkey r).symm.trans hrow)]
    exact hr
  · intro h
    exact List.mem_map.mpr ⟨row, h, hfix row hrow⟩

lemma UniqueOn.update (h : UniqueOn table key) {p : α → Prop} [DecidablePred p]
    (hf : ∀ r, key (f r) = key r) :
    UniqueOn (table.map fun r => if p r then f r else r) key := by
  refine h.map_of_key fun r => ?_
  split
  · exact hf r
  · rfl

lemma UniqueOn.concat {table : List α} {key : α → κ} (h : UniqueOn table key) {row : α}
    (hnew : ∀ r ∈ table, key r ≠ key row) : UniqueOn (table ++ [row]) key := by
  unfold UniqueOn
  rw [List.map_append, List.map_singleton]
  refine List.Nodup.append h (List.nodup_singleton _) ?_
  rw [List.disjoint_singleton, List.mem_map]
  rintro ⟨r, hr, hkey⟩
  exact hnew r hr hkey

lemma UniqueOn.filter {table : List α} {key : α → κ} (h : UniqueOn table key) (p : α → Bool) :
    UniqueOn (table.filter p) key :=
  h.sublist (List.filter_sublist.map key)

/-- The rows that satisfy `p` are at most one. -/
def AtMostOne (table : List α) (p : α → Bool) : Prop :=
  ∀ r ∈ table, ∀ s ∈ table, p r = true → p s = true → r = s

lemma UniqueOn.atMostOne (h : UniqueOn table key) {p : α → Bool} {k : κ}
    (hp : ∀ r, p r = true → key r = k) : AtMostOne table p := by
  intro r hr s hs hpr hps
  exact h.eq_of_key_eq hr hs ((hp r hpr).trans (hp s hps).symm)

lemma find?_eq_some_iff {p : α → Bool} (h : AtMostOne table p) {r : α} :
    table.find? p = some r ↔ r ∈ table ∧ p r = true := by
  constructor
  · intro hr
    exact ⟨List.mem_of_find?_eq_some hr, List.find?_some hr⟩
  · rintro ⟨hr, hpr⟩
    cases hfind : table.find? p with
    | none => exact absurd hpr (List.find?_eq_none.mp hfind r hr)
    | some s =>
      have hs := List.mem_of_find?_eq_some hfind
      rw [h s hs r hr (List.find?_some hfind) hpr]

lemma UniqueOn.mem_update [DecidableEq κ] (h : UniqueOn table key) (f : α → α) {row r : α}
    (hrow : row ∈ table) :
    r ∈ table.map (fun s => if key s = key row then f s else s) ↔
      r = f row ∨ r ∈ table ∧ key r ≠ key row := by
  rw [List.mem_map]
  constructor
  · rintro ⟨s, hs, rfl⟩
    split
    · next hkey =>
      obtain rfl := h.eq_of_key_eq hs hrow hkey
      exact Or.inl rfl
    · next hkey => exact Or.inr ⟨hs, hkey⟩
  · rintro (rfl | ⟨hr, hkey⟩)
    · exact ⟨row, hrow, if_pos rfl⟩
    · exact ⟨r, hr, if_neg hkey⟩

lemma map_update_comm [DecidableEq κ] {f g : α → α} (hf : ∀ r, key (f r) = key r)
    (hg : ∀ r, key (g r) = key r) {i j : κ} (hne : ∀ r ∈ table, ¬ (key r = i ∧ key r = j)) :
    (table.map fun r => if key r = i then f r else r).map (fun r => if key r = j then g r else r) =
      (table.map fun r => if key r = j then g r else r).map
        fun r => if key r = i then f r else r := by
  rw [List.map_map, List.map_map]
  refine List.map_congr_left fun r hr => ?_
  have hkeys := hne r hr
  simp only [Function.comp_apply]
  split_ifs <;> simp_all

/-! ## Selecting rows and visiting them -/

variable {p : α → Bool} {r : α → α → Prop} [DecidableRel r] {n : ℕ}

lemma UniqueOn.selected (h : UniqueOn table key) (p : α → Bool) (r : α → α → Prop) [DecidableRel r]
    (n : ℕ) :
    UniqueOn (((table.filter p).insertionSort r).take n) key := by
  have hfiltered : UniqueOn (table.filter p) key := h.filter p
  have hperm := (List.perm_insertionSort r (table.filter p)).map key
  have hsorted : UniqueOn ((table.filter p).insertionSort r) key := hperm.nodup_iff.mpr hfiltered
  exact hsorted.sublist ((List.take_sublist n _).map key)

lemma mem_of_mem_selected {row : α} (h : row ∈ ((table.filter p).insertionSort r).take n) :
    row ∈ table ∧ p row = true := by
  have hsorted := List.mem_of_mem_take h
  have hfiltered := (List.mem_insertionSort r).mp hsorted
  exact List.mem_filter.mp hfiltered

/-- The rule for a loop that visits selected rows one by one and writes only the row it visits: the
rows carry distinct keys, so each of them is still in the table as it was selected when the loop
comes to it. -/
lemma foldl_selected {σ : Type*} (table : σ → List α) (visit : σ → α → σ)
    (hframe : ∀ s row other, other ∈ table s → key other ≠ key row → other ∈ table (visit s row))
    {P : σ → Prop} {Q : α → Prop}
    (hvisit : ∀ s row, row ∈ table s → Q row → P s → P (visit s row)) {rows : List α} {s : σ}
    (hunique : UniqueOn rows key) (hrows : ∀ row ∈ rows, row ∈ table s ∧ Q row) (hs : P s) :
    P (rows.foldl visit s) := by
  induction rows generalizing s with
  | nil => exact hs
  | cons row rows ih =>
    have hnodup := List.nodup_cons.mp hunique
    have hrow := hrows row List.mem_cons_self
    refine ih hnodup.2 (fun other hother => ?_) (hvisit s row hrow.1 hrow.2 hs)
    have hne : key other ≠ key row := fun heq => hnodup.1 (heq ▸ List.mem_map_of_mem hother)
    have hother' := hrows other (List.mem_cons_of_mem row hother)
    exact ⟨hframe s row other hother'.1 hne, hother'.2⟩

end Rows
