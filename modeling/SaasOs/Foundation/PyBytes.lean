import Mathlib.Tactic

/-!
# Python bytes

`partition` cuts a string of bytes at the first occurrence of a separator; nothing is lost
(`partition_eq_some`).
-/

namespace PyBytes

variable {α : Type*} [DecidableEq α]

/-- `data.partition(sep)`, where the separator occurs: what is before the first occurrence, and what is
behind it. -/
def partition (sep : List α) : List α → Option (List α × List α)
  | [] => if sep = [] then some ([], []) else none
  | x :: xs =>
    if sep.isPrefixOf (x :: xs) then some ([], (x :: xs).drop sep.length)
    else (partition sep xs).map fun parts => (x :: parts.1, parts.2)

variable {sep data : List α}

lemma partition_eq_some {before behind : List α} (h : partition sep data = some (before, behind)) :
    data = before ++ sep ++ behind := by
  induction data generalizing before with
  | nil =>
    unfold partition at h
    split at h
    · next hsep =>
      cases h
      rw [hsep]
      rfl
    · cases h
  | cons x xs ih =>
    unfold partition at h
    split at h
    · next hstart =>
      cases h
      obtain ⟨rest, hrest⟩ := List.isPrefixOf_iff_prefix.mp hstart
      rw [← hrest, List.drop_left]
      rfl
    · obtain ⟨parts, hparts, heq⟩ := Option.map_eq_some_iff.mp h
      cases heq
      rw [List.cons_append, List.cons_append, ← ih hparts]

/-- `data.isdigit()`: decimal digits, and at least one. -/
def isDigit (data : List UInt8) : Bool :=
  !data.isEmpty && data.all fun byte => decide (48 ≤ byte) && decide (byte ≤ 57)

/-- The most digits that `int` converts. -/
def maxStrDigits : ℕ := 4300

/-- `int(data)`, of decimal digits; `none` is the `ValueError` of too many. -/
def int (data : List UInt8) : Option ℕ :=
  if maxStrDigits < data.length then none
  else some (data.foldl (fun n byte => 10 * n + (byte.toNat - 48)) 0)

end PyBytes
