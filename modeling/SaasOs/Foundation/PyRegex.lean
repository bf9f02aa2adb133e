import Mathlib.Computability.RegularExpressions
import Mathlib.Tactic

/-!
# Anchored regular expressions of Python

A text matches `^r$` with `re.match` if it is in the language of `r`, or becomes so without a line
break at its end: `$` matches at the end of the text and before a line break that ends it.  The texts
are lists of code points, the expressions those of Mathlib.
-/

namespace PyRegex

open RegularExpression

abbrev Regex := RegularExpression ℕ

/-- `[...]`: one of the characters. -/
def oneOf (chars : List ℕ) : Regex := (chars.map char).sum

/-- `r+`. -/
def oneOrMore (r : Regex) : Regex := r * r.star

/-- `r{least,most}`. -/
def between (r : Regex) (least most : ℕ) : Regex := r ^ least * (1 + r) ^ (most - least)

/-- `re.match` of `^r$`. -/
def anchoredMatch (r : Regex) (t : List ℕ) : Bool :=
  t.inits.any fun start => r.rmatch start && [[], [10]].contains (t.drop start.length)

variable {chars t : List ℕ}

lemma mem_oneOf : t ∈ (oneOf chars).matches' ↔ ∃ c ∈ chars, t = [c] := by
  induction chars with
  | nil => simp [oneOf]
  | cons c chars ih =>
    have hsum : oneOf (c :: chars) = char c + oneOf chars := by simp [oneOf]
    rw [hsum, matches'_add, Language.mem_add, ih, matches'_char, List.exists_mem_cons_iff]
    rfl

lemma mem_star_oneOf :
    t ∈ (oneOf chars).star.matches' ↔ ∀ c ∈ t, c ∈ chars := by
  rw [matches'_star, Language.mem_kstar]
  constructor
  · rintro ⟨parts, rfl, hparts⟩ c hc
    obtain ⟨part, hpart, hcpart⟩ := List.mem_flatten.mp hc
    obtain ⟨d, hd, rfl⟩ := mem_oneOf.mp (hparts part hpart)
    rw [List.mem_singleton.mp hcpart]
    exact hd
  · intro h
    refine ⟨t.map fun c => [c], by simp [← List.flatMap_def], fun part hpart => ?_⟩
    obtain ⟨c, hc, rfl⟩ := List.mem_map.mp hpart
    exact mem_oneOf.mpr ⟨c, h c hc, rfl⟩

variable {n : ℕ}

lemma mem_pow_oneOf : ∀ {t : List ℕ},
    t ∈ (oneOf chars ^ n).matches' ↔ t.length = n ∧ ∀ c ∈ t, c ∈ chars := by
  rw [matches'_pow]
  induction n with
  | zero =>
    intro t
    rw [pow_zero, Language.mem_one]
    constructor
    · rintro rfl
      exact ⟨rfl, nofun⟩
    · exact fun h => List.length_eq_zero_iff.mp h.1
  | succ n ih =>
    intro t
    rw [pow_succ', Language.mem_mul]
    constructor
    · rintro ⟨first, hfirst, rest, hrest, rfl⟩
      obtain ⟨c, hc, rfl⟩ := mem_oneOf.mp hfirst
      obtain ⟨hlength, hall⟩ := ih.mp hrest
      exact ⟨by simp [hlength], List.forall_mem_cons.mpr ⟨hc, hall⟩⟩
    · rintro ⟨hlength, hall⟩
      cases t with
      | nil => cases hlength
      | cons c rest =>
        obtain ⟨hc, hrest⟩ := List.forall_mem_cons.mp hall
        exact ⟨[c], mem_oneOf.mpr ⟨c, hc, rfl⟩, rest,
          ih.mpr ⟨Nat.succ.inj hlength, hrest⟩, rfl⟩

lemma mem_pow_optional : ∀ {t : List ℕ},
    t ∈ ((1 + oneOf chars) ^ n).matches' ↔ t.length ≤ n ∧ ∀ c ∈ t, c ∈ chars := by
  rw [matches'_pow, matches'_add, matches'_epsilon]
  induction n with
  | zero =>
    intro t
    rw [pow_zero, Language.mem_one]
    constructor
    · rintro rfl
      exact ⟨le_rfl, nofun⟩
    · exact fun h => List.length_eq_zero_iff.mp (Nat.le_zero.mp h.1)
  | succ n ih =>
    intro t
    rw [pow_succ', Language.mem_mul]
    constructor
    · rintro ⟨first, hfirst, rest, hrest, rfl⟩
      obtain ⟨hlength, hall⟩ := ih.mp hrest
      rcases (Language.mem_add _ _ _).mp hfirst with hnil | hone
      · obtain rfl := (Language.mem_one first).mp hnil
        exact ⟨Nat.le_succ_of_le hlength, hall⟩
      · obtain ⟨c, hc, rfl⟩ := mem_oneOf.mp hone
        exact ⟨Nat.succ_le_succ hlength, List.forall_mem_cons.mpr ⟨hc, hall⟩⟩
    · rintro ⟨hlength, hall⟩
      cases t with
      | nil => exact ⟨[], .inl ((Language.mem_one []).mpr rfl), [],
          ih.mpr ⟨Nat.zero_le n, nofun⟩, rfl⟩
      | cons c rest =>
        obtain ⟨hc, hrest⟩ := List.forall_mem_cons.mp hall
        exact ⟨[c], .inr (mem_oneOf.mpr ⟨c, hc, rfl⟩), rest,
          ih.mpr ⟨Nat.succ_le_succ_iff.mp hlength, hrest⟩, rfl⟩

theorem mem_between_oneOf {least most : ℕ} (h : least ≤ most) :
    t ∈ (between (oneOf chars) least most).matches' ↔
      least ≤ t.length ∧ t.length ≤ most ∧ ∀ c ∈ t, c ∈ chars := by
  rw [between, matches'_mul, Language.mem_mul]
  constructor
  · rintro ⟨front, hfront, back, hback, rfl⟩
    obtain ⟨hlength, hfront⟩ := mem_pow_oneOf.mp hfront
    obtain ⟨hle, hback⟩ := mem_pow_optional.mp hback
    rw [List.length_append]
    exact ⟨by omega, by omega, List.forall_mem_append.mpr ⟨hfront, hback⟩⟩
  · rintro ⟨hleast, hmost, hall⟩
    refine ⟨t.take least, mem_pow_oneOf.mpr ⟨List.length_take_of_le hleast, fun c hc =>
      hall c (List.mem_of_mem_take hc)⟩, t.drop least, mem_pow_optional.mpr ⟨?_, fun c hc =>
      hall c (List.mem_of_mem_drop hc)⟩, List.take_append_drop least t⟩
    rw [List.length_drop]
    omega

/-- `$` lets a line break at the end pass. -/
theorem anchoredMatch_iff {r : Regex} : anchoredMatch r t = true ↔
    t ∈ r.matches' ∨ ∃ front ∈ r.matches', t = front ++ [10] := by
  simp only [anchoredMatch, List.any_eq_true, List.mem_inits, Bool.and_eq_true,
    List.contains_iff_mem, rmatch_iff_matches']
  constructor
  · rintro ⟨front, ⟨rest, rfl⟩, hmatch, hrest⟩
    rw [List.drop_left] at hrest
    rcases List.mem_pair.mp hrest with rfl | rfl
    · rw [List.append_nil]
      exact .inl hmatch
    · exact .inr ⟨front, hmatch, rfl⟩
  · rintro (hmatch | ⟨front, hmatch, rfl⟩)
    · refine ⟨t, List.prefix_rfl, hmatch, ?_⟩
      rw [List.drop_length]
      exact List.mem_cons_self
    · refine ⟨front, List.prefix_append _ _, hmatch, ?_⟩
      rw [List.drop_left]
      exact List.mem_cons_of_mem _ List.mem_cons_self

end PyRegex
