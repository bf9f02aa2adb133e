import Mathlib.Data.List.Sort
import Mathlib.Tactic

/-!
# Keyset pagination

A page holds the first rows, in the order of their keys, whose key is greater than that of the last
row of the page before.  A walk asks for one page after the other, with page sizes of any kind, while
rows are inserted, and ends with a page that is not full.
-/

namespace Keyset

variable {α κ : Type*} [LinearOrder κ] {key : α → κ} {rows rows' start : List α} {after : Option κ}
  {limit : ℕ} {row : α}

/-- The row is beyond the cursor. -/
def Beyond (key : α → κ) (after : Option κ) (row : α) : Prop := ∀ k ∈ after, k < key row

instance (after : Option κ) : DecidablePred (Beyond key after) :=
  fun row => inferInstanceAs (Decidable (∀ k ∈ after, k < key row))

/-- The rows beyond the cursor, in order. -/
def remaining (key : α → κ) (rows : List α) (after : Option κ) : List α :=
  (rows.filter (Beyond key after)).mergeSort fun a b => key a ≤ key b

def page (key : α → κ) (rows : List α) (after : Option κ) (limit : ℕ) : List α :=
  (remaining key rows after).take limit

/-- The rows of the pages, and whether the last page was not full; each page has its own table and
its own size. -/
def walk (key : α → κ) : Option κ → List (List α × ℕ) → List α × Bool
  | _, [] => ([], false)
  | after, (rows, limit) :: rest =>
    match (page key rows after limit).getLast? with
    | some last =>
      if (page key rows after limit).length = limit then
        (page key rows after limit ++ (walk key (some (key last)) rest).1,
          (walk key (some (key last)) rest).2)
      else (page key rows after limit, true)
    | none => ([], true)

lemma mem_remaining : row ∈ remaining key rows after ↔ row ∈ rows ∧ Beyond key after row := by
  simp [remaining]

lemma pairwise_remaining (h : (rows.map key).Nodup) :
    (remaining key rows after).Pairwise fun a b => key a < key b := by
  have hle : (remaining key rows after).Pairwise fun a b => decide (key a ≤ key b) = true :=
    List.pairwise_mergeSort (by simpa using fun a b c => le_trans)
      (by simpa using fun a b => le_total (key a) (key b)) _
  have hne : (remaining key rows after).Pairwise fun a b => key a ≠ key b := by
    refine ((List.mergeSort_perm _ _).pairwise_iff Ne.symm).mpr ?_
    exact (List.pairwise_map.mp h).filter _
  exact (hle.and hne).imp fun ⟨hab, hne⟩ => lt_of_le_of_ne (of_decide_eq_true hab) hne

lemma beyond_of_mem_page (h : row ∈ page key rows after limit) : row ∈ rows ∧ Beyond key after row :=
  mem_remaining.mp (List.mem_of_mem_take h)

lemma pairwise_page (h : (rows.map key).Nodup) :
    (page key rows after limit).Pairwise fun a b => key a < key b :=
  (pairwise_remaining h).sublist (List.take_sublist _ _)

lemma mem_page_of_not_full (hshort : (page key rows after limit).length ≠ limit) (hrow : row ∈ rows)
    (hbeyond : Beyond key after row) : row ∈ page key rows after limit := by
  have hall : page key rows after limit = remaining key rows after := by
    refine List.take_of_length_le ?_
    by_contra hlong
    exact hshort (List.length_take_of_le (not_le.mp hlong).le)
  rw [hall]
  exact mem_remaining.mpr ⟨hrow, hbeyond⟩

lemma mem_page_or_beyond (h : (rows.map key).Nodup) (hrow : row ∈ rows)
    (hbeyond : Beyond key after row) {last : α}
    (hlast : (page key rows after limit).getLast? = some last) :
    row ∈ page key rows after limit ∨ key last < key row := by
  have hmem := mem_remaining.mpr ⟨hrow, hbeyond⟩
  have hsorted : (remaining key rows after).Pairwise fun a b => key a < key b :=
    pairwise_remaining h
  rw [← List.take_append_drop limit (remaining key rows after)] at hmem hsorted
  refine (List.mem_append.mp hmem).imp_right fun hdrop => ?_
  exact (List.pairwise_append.mp hsorted).2.2 last (List.mem_of_getLast? hlast) row hdrop

variable {steps : List (List α × ℕ)}

lemma lt_of_mem_walk {after : Option κ} :
    ∀ row ∈ (walk key after steps).1, Beyond key after row ∧ ∃ step ∈ steps, row ∈ step.1 := by
  induction steps generalizing after with
  | nil => nofun
  | cons step rest ih =>
    obtain ⟨rows, limit⟩ := step
    intro row hrow
    have hpage : row ∈ page key rows after limit →
        Beyond key after row ∧ ∃ step ∈ (rows, limit) :: rest, row ∈ step.1 := fun h =>
      ⟨(beyond_of_mem_page h).2, _, List.mem_cons_self, (beyond_of_mem_page h).1⟩
    unfold walk at hrow
    split at hrow
    · next last hlast =>
      split at hrow
      · rcases List.mem_append.mp hrow with hrow | hrow
        · exact hpage hrow
        · obtain ⟨hbeyond, step, hstep, hmem⟩ := ih row hrow
          have hafter := (beyond_of_mem_page (List.mem_of_getLast? hlast)).2
          exact ⟨fun k hk => (hafter k hk).trans (hbeyond _ rfl), step,
            List.mem_cons_of_mem _ hstep, hmem⟩
      · exact hpage hrow
    · cases hrow

/-- The rows of a walk come in strictly increasing order. -/
theorem pairwise_walk (h : ∀ step ∈ steps, (step.1.map key).Nodup) :
    (walk key after steps).1.Pairwise fun a b => key a < key b := by
  induction steps generalizing after with
  | nil => exact .nil
  | cons step rest ih =>
    obtain ⟨rows, limit⟩ := step
    obtain ⟨hrows, hrest⟩ := List.forall_mem_cons.mp h
    have hpage : (page key rows after limit).Pairwise fun a b => key a < key b :=
      pairwise_page hrows
    unfold walk
    split
    · next last hlast =>
      split
      · refine List.pairwise_append.mpr ⟨hpage, ih hrest, fun a ha b hb => ?_⟩
        have hb := (lt_of_mem_walk b hb).1 _ rfl
        obtain ⟨front, hfront⟩ := List.getLast?_eq_some_iff.mp hlast
        rw [hfront] at ha hpage
        rcases List.mem_append.mp ha with ha | ha
        · exact ((List.pairwise_append.mp hpage).2.2 a ha last List.mem_cons_self).trans hb
        · rw [List.mem_singleton.mp ha]
          exact hb
      · exact hpage
    · exact .nil

/-- A walk that has ended has met every row beyond its cursor that each of the tables had. -/
theorem mem_walk (h : ∀ step ∈ steps, (step.1.map key).Nodup)
    (hlimit : ∀ step ∈ steps, 0 < step.2) (hended : (walk key after steps).2 = true)
    (hrow : ∀ step ∈ steps, row ∈ step.1) (hbeyond : Beyond key after row) :
    row ∈ (walk key after steps).1 := by
  induction steps generalizing after with
  | nil => cases hended
  | cons step rest ih =>
    obtain ⟨rows, limit⟩ := step
    obtain ⟨hrows, hrest⟩ := List.forall_mem_cons.mp h
    obtain ⟨hthere, hothers⟩ := List.forall_mem_cons.mp hrow
    obtain ⟨hpos, hlimits⟩ := List.forall_mem_cons.mp hlimit
    unfold walk at hended ⊢
    split at hended
    · next last hlast =>
      split at hended
      · next hfull =>
        simp only [hfull, if_true]
        refine List.mem_append.mpr ((mem_page_or_beyond hrows hthere hbeyond hlast).imp_right
          fun hlt => ?_)
        exact ih hrest hlimits hended hothers (by simpa [Beyond] using hlt)
      · next hshort =>
        simp only [hshort, if_false]
        exact mem_page_of_not_full hshort hthere hbeyond
    · next hnone =>
      have hempty := List.getLast?_eq_none_iff.mp hnone
      have hmem : row ∈ page key rows after limit := by
        refine mem_page_of_not_full ?_ hthere hbeyond
        rw [hempty]
        exact hpos.ne
      rw [hempty] at hmem
      cases hmem

end Keyset
