import SaasOs.Foundation.Json
import Mathlib.Data.List.Sort

/-!
# Arrays in canonical JSON

The text of an array whose items are texts of one kind.  A renderer is self-delimiting when what it
writes tells the value and where its text ends (`SelfDelimiting`); then so is the array of its values,
and the array of such arrays.
-/

namespace Json

variable {α β : Type*}

def SelfDelimiting (render : α → List Char) : Prop :=
  ∀ a b r r', render a ++ r = render b ++ r' → a = b ∧ r = r'

def arrayRest (render : α → List Char) : List α → List Char
  | [] => [']']
  | a :: rest => ',' :: (render a ++ arrayRest render rest)

def array (render : α → List Char) : List α → List Char
  | [] => ['[', ']']
  | a :: rest => '[' :: (render a ++ arrayRest render rest)

def pair (render : α → List Char) (render' : β → List Char) (value : α × β) : List Char :=
  '[' :: (render value.1 ++ ',' :: (render' value.2 ++ [']']))

variable {render : α → List Char} {render' : β → List Char}

lemma arrayRest_append_inj (h : SelfDelimiting render) : SelfDelimiting (arrayRest render)
  | [], [], r, r', heq => ⟨rfl, List.append_cancel_left heq⟩
  | [], b :: rest, r, r', heq => by
    simp [arrayRest] at heq
  | a :: rest, [], r, r', heq => by
    simp [arrayRest] at heq
  | a :: rest, b :: rest', r, r', heq => by
    simp only [arrayRest, List.cons_append, List.append_assoc, List.cons.injEq, true_and] at heq
    obtain ⟨rfl, hrest⟩ := h a b _ _ heq
    obtain ⟨rfl, hr⟩ := arrayRest_append_inj h rest rest' r r' hrest
    exact ⟨rfl, hr⟩

theorem SelfDelimiting.array (h : SelfDelimiting render)
    (hhead : ∀ a, ∀ c ∈ (render a).head?, c ≠ ']') (hnonempty : ∀ a, render a ≠ []) :
    SelfDelimiting (Json.array render) := by
  have hne : ∀ a r r', render a ++ r ≠ ']' :: r' := by
    intro a r r' heq
    cases hrender : render a with
    | nil => exact hnonempty a hrender
    | cons c text =>
      rw [hrender, List.cons_append, List.cons.injEq] at heq
      exact hhead a c (by rw [hrender]; rfl) heq.1
  intro items items' r r' heq
  cases items with
  | nil =>
    cases items' with
    | nil => exact ⟨rfl, List.append_cancel_left heq⟩
    | cons b rest =>
      simp only [Json.array, List.cons_append, List.nil_append, List.append_assoc, List.cons.injEq,
        true_and] at heq
      exact absurd heq.symm (hne b _ _)
  | cons a rest =>
    cases items' with
    | nil =>
      simp only [Json.array, List.cons_append, List.nil_append, List.append_assoc, List.cons.injEq,
        true_and] at heq
      exact absurd heq (hne a _ _)
    | cons b rest' =>
      simp only [Json.array, List.cons_append, List.append_assoc, List.cons.injEq, true_and] at heq
      obtain ⟨rfl, hrest⟩ := h a b _ _ heq
      obtain ⟨rfl, hr⟩ := arrayRest_append_inj h rest rest' r r' hrest
      exact ⟨rfl, hr⟩

lemma selfDelimiting_quote : SelfDelimiting quote :=
  fun _ _ _ _ heq => quote_append_inj heq

lemma SelfDelimiting.pair (h : SelfDelimiting render) (h' : SelfDelimiting render') :
    SelfDelimiting (pair render render') := by
  intro a b r r' heq
  simp only [Json.pair, List.cons_append, List.append_assoc, List.cons.injEq, true_and] at heq
  obtain ⟨hfirst, hrest⟩ := h a.1 b.1 _ _ heq
  rw [List.cons.injEq] at hrest
  obtain ⟨hsecond, hr⟩ := h' a.2 b.2 _ _ hrest.2
  exact ⟨Prod.ext hfirst hsecond, (List.cons.inj hr).2⟩

end Json

namespace List

variable {α β : Type*} [LinearOrder β] {f : α → β} {l l' : List α}

/-- Two lists without repetitions are equal in the order of an injective key exactly when they have
the same members. -/
lemma sorted_map_eq_iff (hf : f.Injective) (hl : l.Nodup) (hl' : l'.Nodup) :
    (l.map f).insertionSort (· ≤ ·) = (l'.map f).insertionSort (· ≤ ·) ↔
      ∀ a, a ∈ l ↔ a ∈ l' := by
  constructor
  · intro h a
    have hmem : f a ∈ (l.map f).insertionSort (· ≤ ·) ↔
        f a ∈ (l'.map f).insertionSort (· ≤ ·) := by rw [h]
    rwa [List.mem_insertionSort, List.mem_insertionSort, List.mem_map_of_injective hf,
      List.mem_map_of_injective hf] at hmem
  · intro h
    have hperm : (l.map f).Perm (l'.map f) :=
      ((List.perm_ext_iff_of_nodup hl hl').mpr h).map f
    refine List.Perm.eq_of_sortedLE List.sortedLE_insertionSort List.sortedLE_insertionSort ?_
    exact ((List.perm_insertionSort _ _).trans hperm).trans (List.perm_insertionSort _ _).symm

end List
