import Mathlib.Tactic

/-!
# Python strings

The string predicates and methods that validation code uses, on lists of characters: the whitespace
that `str.strip` removes, the control characters a validator refuses, the comparison of ASCII
strings up to case, and searching, replacing and slicing.
-/

namespace PyString

/-- The characters for which Python's `str.isspace` holds, and which `str.strip` removes. -/
def isSpace (c : Char) : Bool :=
  let n := c.toNat
  (0x09 ≤ n && n ≤ 0x0d) || (0x1c ≤ n && n ≤ 0x20) || n == 0x85 || n == 0xa0 || n == 0x1680 ||
    (0x2000 ≤ n && n ≤ 0x200a) || n == 0x2028 || n == 0x2029 || n == 0x202f || n == 0x205f ||
    n == 0x3000

/-- `str.strip()`. -/
def strip (s : String) : String :=
  String.ofList ((s.toList.dropWhile isSpace).reverse.dropWhile isSpace).reverse

/-- A match of `[\x00-\x1f\x7f]`. -/
def hasControlCharacter (s : String) : Bool :=
  s.toList.any fun c => c.toNat ≤ 0x1f || c.toNat == 0x7f

/-- `str.isascii()`. -/
def isAscii (s : String) : Bool :=
  s.toList.all fun c => c.toNat < 0x80

/-- `str.casefold()` on an ASCII string: only the letters `A` to `Z` change. -/
def asciiCasefold (s : String) : String :=
  String.ofList (s.toList.map Char.toLower)

/-- `s[:n]`. -/
def take (n : ℕ) (s : String) : String :=
  String.ofList (s.toList.take n)

/-- `s.rfind(needle)`; `none` where Python answers `-1`. -/
def rfind (needle s : String) : Option ℕ :=
  (List.range (s.toList.length + 1)).reverse.find? fun i =>
    needle.toList.isPrefixOf (s.toList.drop i)

/-- The characters after replacing, from the left, each occurrence of `old`; the first `skip`
characters belong to an occurrence that is replaced already. -/
def replaceFrom (old new : List Char) : ℕ → List Char → List Char
  | _, [] => []
  | skip + 1, _ :: rest => replaceFrom old new skip rest
  | 0, c :: rest =>
    if old.isPrefixOf (c :: rest) then
      new ++ replaceFrom old new (old.length - 1) rest
    else
      c :: replaceFrom old new 0 rest

/-- `s.replace(old, new)`, for a non-empty `old`. -/
def replace (old new s : String) : String :=
  String.ofList (replaceFrom old.toList new.toList 0 s.toList)

example : replace "aa" "b" "aaaca" = "baca" := by decide

/-! ## Searching -/

lemma rfind_eq_none {needle s : String} :
    rfind needle s = none ↔ ¬ needle.toList <:+: s.toList := by
  unfold rfind
  rw [List.find?_eq_none]
  constructor
  · rintro h ⟨before, after, heq⟩
    have hlen : before.length ≤ s.toList.length := by
      rw [← heq, List.append_assoc, List.length_append]
      exact Nat.le_add_right _ _
    refine h before.length ?_ ?_
    · rw [List.mem_reverse, List.mem_range]
      omega
    · rw [List.isPrefixOf_iff_prefix, ← heq, List.append_assoc, List.drop_left]
      exact List.prefix_append _ _
  · intro h i _ hstart
    rw [List.isPrefixOf_iff_prefix] at hstart
    exact h (hstart.isInfix.trans (List.drop_suffix i s.toList).isInfix)

lemma rfind_eq_some {needle s : String} {i : ℕ} (hi : i ≤ s.toList.length)
    (hstart : needle.toList <+: s.toList.drop i)
    (hlast : ∀ j, i < j → ¬ needle.toList <+: s.toList.drop j) : rfind needle s = some i := by
  unfold rfind
  rw [List.find?_eq_some_iff_append]
  refine ⟨List.isPrefixOf_iff_prefix.mpr hstart,
    ((List.range' (i + 1) (s.toList.length - i))).reverse, (List.range i).reverse, ?_, ?_⟩
  · have hsplit : List.range (s.toList.length + 1) =
        List.range i ++ i :: List.range' (i + 1) (s.toList.length - i) := by
      have hlen : s.toList.length + 1 = i + ((s.toList.length - i) + 1) := by omega
      rw [hlen, List.range_eq_range', List.range_eq_range', ← List.range'_append_1, Nat.zero_add,
        List.range'_succ]
    rw [hsplit]
    simp
  · intro j hj
    rw [List.mem_reverse, List.mem_range'_1] at hj
    rw [Bool.not_eq_true', Bool.eq_false_iff, ne_eq, List.isPrefixOf_iff_prefix]
    exact hlast j (by omega)

/-! ## Replacing -/

section Replace

variable {c d : Char} {old new : List Char}

/-- What occurs at the beginning of the new text and cannot begin with a replacement, nor contain
the beginning of one, occurs at the beginning of the old text. -/
lemma prefix_of_prefix_replaceFrom {l s : List Char} (hd : d ∉ l)
    (h : l <+: replaceFrom old (d :: new) 0 s) : l <+: s := by
  induction s generalizing l with
  | nil => simpa [replaceFrom] using h
  | cons a s ih =>
    cases l with
    | nil => exact List.nil_prefix
    | cons b l =>
      unfold replaceFrom at h
      split at h
      · rw [List.cons_append, List.cons_prefix_cons] at h
        exact absurd h.1.symm (List.ne_of_not_mem_cons hd)
      · rw [List.cons_prefix_cons] at h ⊢
        exact ⟨h.1, ih (List.not_mem_of_not_mem_cons hd) h.2⟩

lemma infix_of_infix_append {l before after : List Char} (hc : c ∉ before)
    (h : c :: l <:+: before ++ after) : c :: l <:+: after := by
  induction before with
  | nil => exact h
  | cons b before ih =>
    rw [List.cons_append, List.infix_cons_iff] at h
    rcases h with h | h
    · rw [List.cons_prefix_cons] at h
      exact absurd h.1 (List.ne_of_not_mem_cons hc)
    · exact ih (List.not_mem_of_not_mem_cons hc) h

/-- A replaced text does not occur any more: neither in the replacements, which lack its first
character, nor across their borders, since they begin with a character that it lacks. -/
lemma not_infix_replaceFrom (hc : c ∉ d :: new) (hd : d ∉ c :: old) (skip : ℕ) (s : List Char) :
    ¬ c :: old <:+: replaceFrom (c :: old) (d :: new) skip s := by
  induction s generalizing skip with
  | nil => simp [replaceFrom]
  | cons a s ih =>
    cases skip with
    | succ skip => exact ih skip
    | zero =>
      intro h
      unfold replaceFrom at h
      split at h
      · exact ih _ (infix_of_infix_append hc h)
      · next hnot =>
        rw [List.infix_cons_iff] at h
        rcases h with h | h
        · rw [List.cons_prefix_cons] at h
          have hold : c :: old <+: a :: s := by
            rw [List.cons_prefix_cons]
            exact ⟨h.1, prefix_of_prefix_replaceFrom (List.not_mem_of_not_mem_cons hd) h.2⟩
          exact hnot (List.isPrefixOf_iff_prefix.mpr hold)
        · exact ih 0 h

end Replace

end PyString
