import Mathlib.Tactic

/-!
# Folded header lines

A header whose value is made of words is written on lines: a word goes on the current line if it
fits, else on a line of its own that begins with a space.  Unfolding removes the line breaks before
spaces.  Whatever the limits are, the lines are a cut of the words, so that unfolding gives the
words back, and a line is no longer than the header's name or a word with its space.
-/

namespace HeaderFolding

inductive Linesep
  | lf
  | crlf

def Linesep.text : Linesep → List Char
  | .lf => ['\n']
  | .crlf => ['\r', '\n']

def IsPrintable (text : List Char) : Prop := ∀ c ∈ text, 0x21 ≤ c.toNat ∧ c.toNat ≤ 0x7e

def Unbroken (text : List Char) : Prop := '\r' ∉ text ∧ '\n' ∉ text

def spaced (words : List (List Char)) : List Char := words.flatMap (' ' :: ·)

/-- The lines after the tokens: `limit` is that of the next one, `foldAt` that of the others. -/
def foldTokens (foldAt : ℕ) (current : List Char) (limit : ℕ) :
    List (List Char) → List (List Char)
  | [] => [current]
  | token :: tokens =>
    if current.length + 1 + token.length ≤ limit then
      foldTokens foldAt (current ++ ' ' :: token) foldAt tokens
    else current :: foldTokens foldAt (' ' :: token) foldAt tokens

def joinLines (linesep : Linesep) (lines : List (List Char)) : List Char :=
  linesep.text.intercalate lines ++ linesep.text

def unfoldText : List Char → List Char
  | '\r' :: '\n' :: ' ' :: text => ' ' :: unfoldText text
  | '\n' :: ' ' :: text => ' ' :: unfoldText text
  | c :: text => c :: unfoldText text
  | [] => []

def withoutReturn (line : List Char) : List Char :=
  if line.getLast? = some '\r' then line.dropLast else line

/-- The lines of a text, each ended by `\n` or `\r\n`. -/
def physicalLines (text : List Char) : List (List Char) :=
  (text.splitOn '\n').dropLast.map withoutReturn

/-! ## The cut that folding makes -/

variable {foldAt limit bound : ℕ} {current line text : List Char} {tokens words : List (List Char)}

theorem exists_cut_foldTokens (foldAt : ℕ) (current : List Char) (limit : ℕ)
    (tokens : List (List Char)) :
    ∃ (group : List (List Char)) (groups : List (List (List Char))),
      foldTokens foldAt current limit tokens = (current ++ spaced group) :: groups.map spaced ∧
        group ++ groups.flatten = tokens ∧ [] ∉ groups := by
  induction tokens generalizing current limit with
  | nil => exact ⟨[], [], by simp [foldTokens, spaced], rfl, by simp⟩
  | cons token tokens ih =>
    unfold foldTokens
    split_ifs with hfits
    · obtain ⟨group, groups, hlines, hcut, hne⟩ := ih (current ++ ' ' :: token) foldAt
      refine ⟨token :: group, groups, ?_, by rw [List.cons_append, hcut], hne⟩
      rw [hlines]
      simp [spaced]
    · obtain ⟨group, groups, hlines, hcut, hne⟩ := ih (' ' :: token) foldAt
      refine ⟨[], (token :: group) :: groups, ?_, ?_, ?_⟩
      · rw [hlines]
        simp [spaced]
      · rw [List.nil_append, List.flatten_cons, List.cons_append, hcut]
      · simpa using hne

theorem length_le_of_mem_foldTokens (hcurrent : current.length ≤ bound) (hlimit : limit ≤ bound)
    (hfold : foldAt ≤ bound) (htokens : ∀ token ∈ tokens, token.length + 1 ≤ bound)
    (h : line ∈ foldTokens foldAt current limit tokens) : line.length ≤ bound := by
  induction tokens generalizing current limit with
  | nil =>
    rw [foldTokens, List.mem_singleton] at h
    rw [h]
    exact hcurrent
  | cons token tokens ih =>
    obtain ⟨htoken, htokens⟩ := List.forall_mem_cons.mp htokens
    unfold foldTokens at h
    split_ifs at h with hfits
    · refine ih ?_ hfold htokens h
      rw [List.length_append, List.length_cons]
      omega
    · rcases List.mem_cons.mp h with rfl | h
      · exact hcurrent
      · exact ih (by rw [List.length_cons]; exact htoken) hfold htokens h

lemma flatten_map_spaced (groups : List (List (List Char))) :
    (groups.map spaced).flatten = spaced groups.flatten := by
  induction groups with
  | nil => rfl
  | cons group groups ih =>
    rw [List.map_cons, List.flatten_cons, List.flatten_cons, ih]
    unfold spaced
    rw [List.flatMap_append]

lemma spaced_eq_intercalate (hne : words ≠ []) : spaced words = ' ' :: [' '].intercalate words := by
  induction words with
  | nil => exact absurd rfl hne
  | cons word words ih =>
    cases words with
    | nil => simp [spaced]
    | cons next words =>
      have htail := ih (List.cons_ne_nil _ _)
      unfold spaced at htail ⊢
      rw [List.flatMap_cons, htail, List.intercalate_cons_cons]
      simp

/-! ## Unfolding -/

lemma unfoldText_append (h : Unbroken line) (text : List Char) :
    unfoldText (line ++ text) = line ++ unfoldText text := by
  induction line with
  | nil => rfl
  | cons c line ih =>
    obtain ⟨hr, hn⟩ := h
    rw [List.mem_cons, not_or] at hr hn
    rw [List.cons_append, unfoldText.eq_3, ih ⟨hr.2, hn.2⟩, List.cons_append]
    · rintro rest rfl
      exact absurd rfl hr.1
    · rintro rest rfl
      exact absurd rfl hn.1

variable (linesep : Linesep)

lemma unfoldText_linesep (text : List Char) :
    unfoldText (linesep.text ++ ' ' :: text) = ' ' :: unfoldText text := by
  cases linesep <;> rfl

lemma unfoldText_linesep_nil : unfoldText linesep.text = linesep.text := by
  cases linesep <;> rfl

lemma joinLines_cons_cons (line next : List Char) (lines : List (List Char)) :
    joinLines linesep (line :: next :: lines) =
      line ++ (linesep.text ++ joinLines linesep (next :: lines)) := by
  unfold joinLines
  rw [List.intercalate_cons_cons, List.append_assoc, List.append_assoc]

variable {lines : List (List Char)}

theorem unfoldText_joinLines (hunbroken : ∀ each ∈ line :: lines, Unbroken each)
    (hspace : ∀ line ∈ lines, line.head? = some ' ') :
    unfoldText (joinLines linesep (line :: lines)) = (line :: lines).flatten ++ linesep.text := by
  induction lines generalizing line with
  | nil =>
    rw [joinLines, List.intercalate_singleton,
      unfoldText_append (hunbroken line (List.mem_cons_self ..)), unfoldText_linesep_nil]
    simp
  | cons next lines ih =>
    obtain ⟨hline, hrests⟩ := List.forall_mem_cons.mp hunbroken
    obtain ⟨hnext, hspaces⟩ := List.forall_mem_cons.mp hspace
    obtain ⟨rest, rfl⟩ : ∃ rest, next = ' ' :: rest := List.head?_eq_some_iff.mp hnext
    have htail := ih hrests hspaces
    have hjoin : joinLines linesep ((' ' :: rest) :: lines) =
        ' ' :: joinLines linesep (rest :: lines) := by
      unfold joinLines
      rw [List.intercalate_cons_cons_left, List.cons_append]
    have hspaced : unfoldText (' ' :: joinLines linesep (rest :: lines)) =
        ' ' :: unfoldText (joinLines linesep (rest :: lines)) :=
      @unfoldText_append [' '] (by simp [Unbroken]) _
    rw [joinLines_cons_cons, unfoldText_append hline, hjoin, unfoldText_linesep, ← hspaced, ← hjoin,
      htail]
    simp

/-! ## Physical lines -/

def Linesep.carriage : Linesep → List Char
  | .lf => []
  | .crlf => ['\r']

lemma joinLines_eq_intercalate (line : List Char) (lines : List (List Char)) :
    joinLines linesep (line :: lines) =
      ['\n'].intercalate ((line :: lines).map (· ++ linesep.carriage) ++ [[]]) := by
  have htext : linesep.text = linesep.carriage ++ ['\n'] := by cases linesep <;> rfl
  induction lines generalizing line with
  | nil =>
    rw [joinLines, htext]
    simp
  | cons next lines ih =>
    rw [joinLines_cons_cons, ih, htext, List.map_cons, List.cons_append, List.map_cons,
      List.cons_append, List.map_cons, List.cons_append, List.intercalate_cons_cons]
    simp

lemma withoutReturn_append (h : Unbroken line) (linesep : Linesep) :
    withoutReturn (line ++ linesep.carriage) = line := by
  cases linesep with
  | lf =>
    have hlast : line.getLast? ≠ some '\r' := fun h' => h.1 (List.mem_of_getLast? h')
    rw [Linesep.carriage, List.append_nil, withoutReturn, if_neg hlast]
  | crlf => simp [Linesep.carriage, withoutReturn]

theorem physicalLines_joinLines (hunbroken : ∀ each ∈ line :: lines, Unbroken each) :
    physicalLines (joinLines linesep (line :: lines)) = line :: lines := by
  have hsplit : (joinLines linesep (line :: lines)).splitOn '\n' =
      (line :: lines).map (· ++ linesep.carriage) ++ [[]] := by
    rw [joinLines_eq_intercalate]
    refine List.splitOn_intercalate _ ?_ (by simp)
    intro piece hpiece
    rcases List.mem_append.mp hpiece with hpiece | hpiece
    · obtain ⟨line, hline, rfl⟩ := List.mem_map.mp hpiece
      have hcarriage : '\n' ∉ linesep.carriage := by cases linesep <;> simp [Linesep.carriage]
      exact fun h => (List.mem_append.mp h).elim (hunbroken line hline).2 hcarriage
    · rw [List.mem_singleton.mp hpiece]
      simp
  rw [physicalLines, hsplit, List.dropLast_concat, List.map_map]
  conv_rhs => rw [← List.map_id (line :: lines)]
  exact List.map_congr_left fun line hline => withoutReturn_append (hunbroken line hline) linesep

end HeaderFolding
