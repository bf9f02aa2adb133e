import SaasOs.Foundation.IsoText
import SaasOs.Foundation.DecimalRounding

/-!
# Texts of decimals and instants

A Python `Decimal` is a sign, a coefficient and an exponent; zero has a sign too.  `str` writes it
with a point or with an exponent, and what it writes is read back as the same sign, coefficient and
exponent.  An instant is written with its microseconds only if there are any, and is read back as
the same instant.
-/

structure SignedDecimal where
  negative : Bool
  coefficient : ℕ
  exponent : ℤ

namespace SignedDecimal

open PyDatetime

def decimal (d : SignedDecimal) : PyDecimal :=
  ⟨if d.negative then -d.coefficient else d.coefficient, d.exponent⟩

def value (d : SignedDecimal) : ℚ :=
  d.decimal.value

/-! ## Texts -/

/-- `"%+d" % n`. -/
def signedDigits (n : ℤ) : List Char :=
  (if n < 0 then '-' else '+') :: Nat.toDigits 10 n.natAbs

/-- `str(d)`. -/
def str (d : SignedDecimal) : List Char :=
  let digits := Nat.toDigits 10 d.coefficient
  -- the number of digits left of the point in the number, and in its text
  let leftDigits : ℤ := d.exponent + digits.length
  let dotPlace : ℤ := if d.exponent ≤ 0 ∧ -6 < leftDigits then leftDigits else 1
  let body :=
    if dotPlace ≤ 0 then '0' :: '.' :: (List.replicate (-dotPlace).toNat '0' ++ digits)
    else if digits.length ≤ dotPlace.toNat then
      digits ++ List.replicate (dotPlace.toNat - digits.length) '0'
    else digits.take dotPlace.toNat ++ '.' :: digits.drop dotPlace.toNat
  let exponent := if leftDigits = dotPlace then [] else 'E' :: signedDigits (leftDigits - dotPlace)
  (if d.negative then ['-'] else []) ++ (body ++ exponent)

def parseExponent (text : List Char) : Option ℤ :=
  let (negative, digits) :=
    match text with
    | '-' :: digits => (true, digits)
    | '+' :: digits => (false, digits)
    | digits => (false, digits)
  if digits ≠ [] ∧ digits.all Char.isDigit then
    some (if negative then -digitsValue digits else digitsValue digits)
  else none

def parseUnsigned (negative : Bool) (text : List Char) : Option SignedDecimal := do
  let int := text.takeWhile Char.isDigit
  let (frac, rest) :=
    match text.dropWhile Char.isDigit with
    | '.' :: rest => (rest.takeWhile Char.isDigit, rest.dropWhile Char.isDigit)
    | rest => ([], rest)
  if int = [] ∧ frac = [] then none
  else
    let exponent ←
      match rest with
      | [] => some 0
      | c :: rest => if c = 'E' ∨ c = 'e' then parseExponent rest else none
    some ⟨negative, digitsValue (int ++ frac), exponent - frac.length⟩

/-- `Decimal(text)`, for a numeral in ASCII digits without blanks and underscores. -/
def parse (text : List Char) : Option SignedDecimal :=
  match text with
  | '-' :: rest => parseUnsigned true rest
  | '+' :: rest => parseUnsigned false rest
  | rest => parseUnsigned false rest

/-! ## Reading what was written -/

lemma takeWhile_append_of_head {digits : List Char} (rest : List Char)
    (h : ∀ c ∈ digits, c.isDigit = true) (hrest : ∀ c ∈ rest.head?, c.isDigit = false) :
    (digits ++ rest).takeWhile Char.isDigit = digits ∧
      (digits ++ rest).dropWhile Char.isDigit = rest := by
  rw [List.takeWhile_append_of_pos h, List.dropWhile_append_of_pos h]
  cases rest with
  | nil => simp
  | cons c rest => simp [hrest c rfl]

/-- What the optional exponent of a text denotes. -/
inductive Denotes : List Char → ℤ → Prop
  | none : Denotes [] 0
  | exponent (n : ℤ) : Denotes ('E' :: signedDigits n) n

lemma parseExponent_signedDigits (n : ℤ) : parseExponent (signedDigits n) = some n := by
  have hdigits : Nat.toDigits 10 n.natAbs ≠ [] ∧
      (Nat.toDigits 10 n.natAbs).all Char.isDigit = true := by
    refine ⟨Nat.toDigits_ne_nil, List.all_eq_true.mpr fun c hc => ?_⟩
    exact Nat.isDigit_of_mem_toDigits (by decide) (by decide) hc
  have hvalue : digitsValue (Nat.toDigits 10 n.natAbs) = n.natAbs := by
    have hpad := digitsValue_pad 0 n.natAbs
    simpa [pad] using hpad
  unfold signedDigits
  split
  · next hneg =>
    simp only [parseExponent]
    rw [if_pos hdigits, hvalue]
    simp only [if_true]
    congr 1
    omega
  · next hpos =>
    simp only [parseExponent]
    rw [if_pos hdigits, hvalue]
    simp only [Bool.false_eq_true, if_false]
    congr 1
    omega

variable (negative : Bool) {n : ℤ}

lemma parseUnsigned_point {int frac exponent : List Char} (hint : ∀ c ∈ int, c.isDigit = true)
    (hfrac : ∀ c ∈ frac, c.isDigit = true) (hne : int ≠ [])
    (hexponent : Denotes exponent n) :
    parseUnsigned negative (int ++ '.' :: (frac ++ exponent)) =
      some ⟨negative, digitsValue (int ++ frac), n - frac.length⟩ := by
  obtain ⟨htake, hdrop⟩ := takeWhile_append_of_head ('.' :: (frac ++ exponent)) hint
    (by simp)
  have hrest := takeWhile_append_of_head exponent hfrac (by
    intro c hc
    cases hexponent with
    | none => cases hc
    | exponent n => cases hc; rfl)
  unfold parseUnsigned
  simp only [htake, hdrop, hrest.1, hrest.2, hne, false_and, if_false]
  cases hexponent with
  | none => rfl
  | exponent n => simp [parseExponent_signedDigits]

lemma parseUnsigned_whole {int exponent : List Char} (hint : ∀ c ∈ int, c.isDigit = true)
    (hne : int ≠ []) (hexponent : Denotes exponent n) :
    parseUnsigned negative (int ++ exponent) = some ⟨negative, digitsValue int, n⟩ := by
  obtain ⟨htake, hdrop⟩ := takeWhile_append_of_head exponent hint (by
    intro c hc
    cases hexponent with
    | none => cases hc
    | exponent n => cases hc; rfl)
  unfold parseUnsigned
  simp only [htake, hdrop]
  cases hexponent with
  | none => simp [hne]
  | exponent n => simp [hne, parseExponent_signedDigits]

lemma parse_of_isDigit {text : List Char} (h : ∀ c ∈ text.head?, c.isDigit = true)
    (negative : Bool) :
    parse ((if negative then ['-'] else []) ++ text) = parseUnsigned negative text := by
  cases negative with
  | true => rfl
  | false =>
    cases text with
    | nil => rfl
    | cons c text =>
      have hc : c.isDigit = true := h c rfl
      simp only [Bool.false_eq_true, if_false, List.nil_append]
      unfold parse
      split
      · next heq => cases heq; cases hc
      · next heq => cases heq; cases hc
      · rfl

/-! The three places of the point: before the digits, behind them, and among them. -/

section Layouts

variable {digits exponent : List Char} {n : ℤ}

variable (negative : Bool)

lemma parse_pointBefore (zeros : ℕ) (hdigits : ∀ c ∈ digits, c.isDigit = true)
    (hexponent : Denotes exponent n) :
    parse ((if negative then ['-'] else []) ++
        ('0' :: '.' :: (List.replicate zeros '0' ++ digits) ++ exponent)) =
      some ⟨negative, digitsValue (List.replicate (zeros + 1) '0' ++ digits),
        n - (zeros + digits.length : ℕ)⟩ := by
  have hzeros : ∀ c ∈ List.replicate zeros '0' ++ digits, c.isDigit = true := by
    intro c hc
    rcases List.mem_append.mp hc with hc | hc
    · rw [List.eq_of_mem_replicate hc]
      rfl
    · exact hdigits c hc
  have hparse := parseUnsigned_point negative (by simp : ∀ c ∈ ['0'], c.isDigit = true) hzeros (by simp)
    hexponent
  rw [List.singleton_append] at hparse
  rw [parse_of_isDigit (by simp), List.cons_append, List.cons_append, hparse, List.length_append,
    List.length_replicate, List.replicate_succ]
  rfl

lemma parse_pointBehind (hdigits : ∀ c ∈ digits, c.isDigit = true) (hne : digits ≠ [])
    (hexponent : Denotes exponent n) :
    parse ((if negative then ['-'] else []) ++ (digits ++ exponent)) =
      some ⟨negative, digitsValue digits, n⟩ := by
  obtain ⟨c, rest, rfl⟩ := List.exists_cons_of_ne_nil hne
  have hhead : ∀ c' ∈ (c :: rest ++ exponent).head?, c'.isDigit = true := by
    intro c' hc'
    obtain rfl := Option.some.inj hc'
    exact hdigits c List.mem_cons_self
  rw [parse_of_isDigit hhead, parseUnsigned_whole negative hdigits hne hexponent]

lemma parse_pointAmong {place : ℕ} (hdigits : ∀ c ∈ digits, c.isDigit = true) (hplace : 0 < place)
    (hne : digits ≠ []) (hexponent : Denotes exponent n) :
    parse ((if negative then ['-'] else []) ++
        (digits.take place ++ '.' :: digits.drop place ++ exponent)) =
      some ⟨negative, digitsValue digits, n - (digits.length - place : ℕ)⟩ := by
  obtain ⟨k, rfl⟩ := Nat.exists_eq_add_of_lt hplace
  rw [Nat.zero_add]
  obtain ⟨c, rest, rfl⟩ := List.exists_cons_of_ne_nil hne
  have hhead : ∀ c' ∈ ((c :: rest).take (k + 1) ++ '.' :: (c :: rest).drop (k + 1) ++
      exponent).head?, c'.isDigit = true := by
    intro c' hc'
    obtain rfl := Option.some.inj hc'
    exact hdigits c List.mem_cons_self
  rw [parse_of_isDigit hhead, List.append_assoc, List.cons_append,
    parseUnsigned_point negative (fun c hc => hdigits c (List.mem_of_mem_take hc))
      (fun c hc => hdigits c (List.mem_of_mem_drop hc)) (by simp) hexponent,
    List.take_append_drop, List.length_drop]

end Layouts

theorem parse_str (d : SignedDecimal) : parse d.str = some d := by
  obtain ⟨negative, coefficient, exponent⟩ := d
  have hdigits : ∀ c ∈ Nat.toDigits 10 coefficient, c.isDigit = true := fun c hc =>
    Nat.isDigit_of_mem_toDigits (by decide) (by decide) hc
  have hne : Nat.toDigits 10 coefficient ≠ [] := Nat.toDigits_ne_nil
  have hvalue : ∀ zeros, digitsValue (List.replicate zeros '0' ++ Nat.toDigits 10 coefficient) =
      coefficient := by
    intro zeros
    have hpad := digitsValue_pad (zeros + (Nat.toDigits 10 coefficient).length) coefficient
    rwa [pad, Nat.add_sub_cancel] at hpad
  have hdigitsValue : digitsValue (Nat.toDigits 10 coefficient) = coefficient := hvalue 0
  have hlength : 0 < (Nat.toDigits 10 coefficient).length := List.length_pos_iff.mpr hne
  unfold str
  dsimp only
  generalize Nat.toDigits 10 coefficient = digits at *
  generalize hdot : (if exponent ≤ 0 ∧ -6 < exponent + digits.length then exponent + digits.length
    else 1 : ℤ) = dotPlace
  have hdenotes : Denotes
      (if exponent + digits.length = dotPlace then []
        else 'E' :: signedDigits (exponent + digits.length - dotPlace))
      (exponent + digits.length - dotPlace) := by
    split
    · next heq =>
      rw [heq, sub_self]
      exact .none
    · exact .exponent _
  by_cases hsmall : dotPlace ≤ 0
  · rw [if_pos hsmall, parse_pointBefore negative _ hdigits hdenotes, hvalue]
    congr 2
    omega
  rw [if_neg hsmall]
  by_cases hwhole : digits.length ≤ dotPlace.toNat
  · -- no digit stands after the point, and no zero behind the digits
    have hplace : dotPlace.toNat = digits.length := by
      split at hdot
      · omega
      · omega
    rw [if_pos hwhole, hplace, Nat.sub_self, List.replicate_zero, List.append_nil,
      parse_pointBehind negative hdigits hne hdenotes, hdigitsValue]
    congr 2
    omega
  · rw [if_neg hwhole, parse_pointAmong negative hdigits (by omega) hne hdenotes,
      hdigitsValue]
    congr 2
    omega

end SignedDecimal

namespace PyDecimal

/-! ## Decimal places -/

def HasPlaces (places : ℕ) (q : ℚ) : Prop :=
  (q * 10 ^ places).den = 1

instance (places : ℕ) (q : ℚ) : Decidable (HasPlaces places q) :=
  inferInstanceAs (Decidable (_ = _))

variable {places : ℕ} {d : PyDecimal} {c e : ℤ}

lemma hasPlaces_iff {q : ℚ} : HasPlaces places q ↔ ∃ n : ℤ, q * 10 ^ places = n := by
  unfold HasPlaces
  constructor
  · intro h
    exact ⟨_, (Rat.den_eq_one_iff _).mp h |>.symm⟩
  · rintro ⟨n, hn⟩
    rw [hn]
    exact Rat.den_intCast n

lemma hasPlaces_of_le (c : ℤ) (h : -(places : ℤ) ≤ e) : HasPlaces places (c * 10 ^ e) := by
  refine hasPlaces_iff.mpr ⟨c * 10 ^ (e + places).toNat, ?_⟩
  have hshift : ((e + places).toNat : ℤ) = e + places := Int.toNat_of_nonneg (by omega)
  push_cast
  rw [← zpow_natCast _ (e + places).toNat, hshift, zpow_add₀ (by norm_num), zpow_natCast, mul_assoc]

lemma dvd_of_hasPlaces (h : HasPlaces places (c * 10 ^ e)) {k : ℕ} (hk : e + k = -places) :
    10 ^ k ∣ c := by
  obtain ⟨n, hn⟩ := hasPlaces_iff.mp h
  refine ⟨n, ?_⟩
  have hten : (10 : ℚ) ≠ 0 := by norm_num
  have hpow : (10 : ℚ) ^ e * 10 ^ places * 10 ^ k = 1 := by
    rw [← zpow_natCast, ← zpow_natCast, ← zpow_add₀ hten, ← zpow_add₀ hten]
    have hzero : e + places + k = 0 := by omega
    rw [hzero, zpow_zero]
  have hcast : (c : ℚ) = 10 ^ k * n := by
    rw [← hn]
    calc (c : ℚ) = c * ((10 : ℚ) ^ e * 10 ^ places * 10 ^ k) := by rw [hpow, mul_one]
      _ = 10 ^ k * (c * 10 ^ e * 10 ^ places) := by ring
  exact_mod_cast hcast

lemma hasPlaces_iff_of_not_dvd (h : c % 10 ≠ 0) :
    HasPlaces places (c * 10 ^ e) ↔ -(places : ℤ) ≤ e := by
  refine ⟨fun hplaces => ?_, hasPlaces_of_le c⟩
  by_contra hlt
  have hdvd := dvd_of_hasPlaces hplaces (k := (-places - e).toNat) (by omega)
  have hten : (10 : ℤ) ∣ 10 ^ (-places - e).toNat := dvd_pow_self 10 (by omega)
  have hzero := Int.emod_eq_zero_of_dvd (hten.trans hdvd)
  exact h hzero

lemma stripZeros_not_dvd {n : ℕ} (hne : d.coefficient ≠ 0) (h : d.coefficient.natAbs < 10 ^ n) :
    (stripZeros n d).coefficient % 10 ≠ 0 := by
  induction n generalizing d with
  | zero =>
    rw [pow_zero] at h
    omega
  | succ n ih =>
    unfold stripZeros
    split
    · next hzero =>
      rw [pow_succ] at h
      exact ih (by dsimp only; omega) (by dsimp only; omega)
    · next hzero => exact hzero

lemma le_exponent_normalize_iff (h : d.fix.coefficient ≠ 0) :
    -(places : ℤ) ≤ d.normalize.exponent ↔ HasPlaces places d.fix.value := by
  have hlt : d.fix.coefficient.natAbs < 10 ^ digits d.fix.coefficient.natAbs := by
    have hpos : 0 < digits d.fix.coefficient.natAbs := List.length_pos_iff.mpr Nat.toDigits_ne_nil
    exact (digits_le_iff hpos).mp le_rfl
  unfold normalize
  rw [if_neg h, ← hasPlaces_iff_of_not_dvd (stripZeros_not_dvd h hlt)]
  exact iff_of_eq (congrArg _ (value_stripZeros _ d.fix))

lemma kept_pos (h : 0 < d.coefficient) : 0 < d.kept := by
  unfold kept
  refine Nat.div_pos ?_ (by positivity)
  by_contra hlt
  by_cases hzero : d.excess = 0
  · rw [hzero, pow_zero] at hlt
    omega
  · have hdigits := (digits_le_iff (Nat.pos_of_ne_zero hzero)).mpr (not_le.mp hlt)
    unfold excess prec at hdigits hzero
    omega

lemma fix_coefficient_ne_zero (h : 0 < d.coefficient) : d.fix.coefficient ≠ 0 := by
  intro hzero
  have hvalue := value_fix h
  rw [value, hzero, Int.cast_zero, zero_mul] at hvalue
  have hpos : (0 : ℚ) < 10 ^ (d.exponent + d.excess) := by positivity
  have hkept := kept_pos h
  have hne : ((if d.RoundsUp then d.kept + 1 else d.kept : ℕ) : ℚ) ≠ 0 := by
    rw [Nat.cast_ne_zero]
    split <;> omega
  exact mul_ne_zero hne hpos.ne' hvalue.symm

lemma HasPlaces.fix (h : 0 < d.coefficient) (hplaces : HasPlaces places d.value) :
    HasPlaces places d.fix.value := by
  by_cases hfits : d.FitsContext
  · rwa [(value_fix_eq_iff h.le).mpr hfits]
  · rw [value_fix h]
    refine hasPlaces_of_le _ ?_
    by_contra hlt
    -- only zeros would be cut off
    have hdvd := dvd_of_hasPlaces hplaces (k := (-places - d.exponent).toNat) (by omega)
    have hpow : (10 : ℤ) ^ d.excess ∣ 10 ^ (-places - d.exponent).toNat :=
      pow_dvd_pow 10 (by omega)
    have hnat : 10 ^ d.excess ∣ d.coefficient.natAbs := by
      have hint := hpow.trans hdvd
      rw [← Int.natCast_dvd_natCast, Int.natCast_natAbs]
      push_cast
      exact (dvd_abs _ _).mpr hint
    exact hfits (Nat.mod_eq_zero_of_dvd hnat)

end PyDecimal

namespace PyDatetime

/-! ## Instants with their microseconds -/

/-- `instant.isoformat()` of an aware datetime in UTC. -/
def isoformat (instant : ℤ) : String :=
  if instant % second = 0 then isoformatSeconds instant else isoformatMicroseconds instant

/-- Is the text a date, a time in microseconds and the offset `+00:00`? -/
def hasMicrosecondShape (text : List Char) : Bool :=
  text.length == 32 && (text.drop 19).head? == some '.' &&
    ((text.drop 20).take 6).all Char.isDigit && hasIsoShape (text.take 19 ++ text.drop 26)

/-- `datetime.fromisoformat(text)`, on a text in whole seconds or in microseconds with the offset
`+00:00`; other texts are not read. -/
def parseIsoformat (text : List Char) : Option ℤ :=
  if hasIsoShape text then fromIsoformat text
  else if hasMicrosecondShape text then
    (fromIsoformat (text.take 19 ++ text.drop 26)).map fun instant =>
      instant + digitsValue ((text.drop 20).take 6)
  else none

lemma drop_isoSeconds {year month day hour minute sec rest : List Char} (hyear : year.length = 4)
    (hmonth : month.length = 2) (hday : day.length = 2) (hhour : hour.length = 2)
    (hminute : minute.length = 2) (hsec : sec.length = 2) :
    (year ++ ['-'] ++ month ++ ['-'] ++ day ++ ['T'] ++ hour ++ [':'] ++ minute ++ [':'] ++ sec ++
      rest).drop 19 = rest := by
  match year, month, day, hour, minute, sec with
  | [_, _, _, _], [_, _], [_, _], [_, _], [_, _], [_, _] => rfl

variable {instant : ℤ}

lemma parseIsoformat_microseconds {text micro : List Char} (hshape : hasIsoShape text = true)
    (hlength : micro.length = 6) (hdigit : ∀ c ∈ micro, c.isDigit = true)
    (hseconds : fromIsoformat text = some instant) :
    parseIsoformat (text.take 19 ++ ['.'] ++ micro ++ ['+', '0', '0', ':', '0', '0']) =
      some (instant + digitsValue micro) := by
  have hlengthText : text.length = 25 := by
    simp only [hasIsoShape, Bool.and_eq_true, beq_iff_eq] at hshape
    exact hshape.1
  have htail : text.drop 19 = ['+', '0', '0', ':', '0', '0'] := by
    obtain ⟨year, month, day, hour, minute, sec, hyear, hmonth, hday, hhour, hminute, hsec, -,
      htext⟩ := exists_columns_of_hasIsoShape hshape
    rw [htext, drop_isoSeconds hyear hmonth hday hhour hminute hsec]
  have hfirst : (text.take 19).length = 19 := by
    rw [List.length_take, hlengthText]
    rfl
  obtain ⟨whole, hwhole⟩ : ∃ whole,
      text.take 19 ++ ['.'] ++ micro ++ ['+', '0', '0', ':', '0', '0'] = whole := ⟨_, rfl⟩
  have hsplit : whole = text.take 19 ++ ('.' :: (micro ++ ['+', '0', '0', ':', '0', '0'])) := by
    rw [← hwhole]
    simp only [List.append_assoc, List.cons_append, List.nil_append]
  have hwholeLength : whole.length = 32 := by
    rw [hsplit, List.length_append, hfirst, List.length_cons, List.length_append, hlength]
    rfl
  have htake : whole.take 19 = text.take 19 := by
    rw [hsplit, List.take_left' hfirst]
  have hdrop19 : whole.drop 19 = '.' :: (micro ++ ['+', '0', '0', ':', '0', '0']) := by
    rw [hsplit, List.drop_left' hfirst]
  have hdrop20 : whole.drop 20 = micro ++ ['+', '0', '0', ':', '0', '0'] := by
    rw [← List.drop_drop (i := 1) (j := 19), hdrop19, List.drop_one, List.tail_cons]
  have hdrop26 : whole.drop 26 = ['+', '0', '0', ':', '0', '0'] := by
    rw [← List.drop_drop (i := 6) (j := 20), hdrop20, List.drop_left' hlength]
  have hmicro : (whole.drop 20).take 6 = micro := by
    rw [hdrop20, List.take_left' hlength]
  have hagain : whole.take 19 ++ whole.drop 26 = text := by
    rw [htake, hdrop26, ← htail, List.take_append_drop]
  have hnot : ¬ hasIsoShape whole = true := by
    intro hiso
    simp only [hasIsoShape, Bool.and_eq_true, beq_iff_eq, hwholeLength] at hiso
    exact absurd hiso.1 (by decide)
  have hmicroShape : hasMicrosecondShape whole = true := by
    unfold hasMicrosecondShape
    rw [hwholeLength, hdrop19, hmicro, hagain, hshape, List.all_eq_true.mpr hdigit]
    rfl
  rw [hwhole]
  unfold parseIsoformat
  rw [if_neg hnot, if_pos hmicroShape, hagain, hmicro, hseconds, Option.map_some]

theorem parseIsoformat_isoformat (hmin : min ≤ instant) (hmax : instant ≤ max) :
    parseIsoformat (isoformat instant).toList = some instant := by
  have hseconds := fromIsoformat_isoformatSeconds hmin hmax
  have hshape := hasIsoShape_isoformatSeconds hmax
  unfold isoformat
  split
  · next hzero =>
    unfold parseIsoformat
    rw [if_pos hshape, hseconds, truncated, Option.some.injEq]
    unfold second at hzero ⊢
    omega
  · next hmicro =>
    unfold isoformatMicroseconds
    rw [String.toList_ofList, parseIsoformat_microseconds hshape
      (length_pad (by decide) (micro_lt instant)) (fun c hc => isDigit_of_mem_pad hc) hseconds,
      digitsValue_pad, truncated, Option.some.injEq]
    unfold second at hmicro ⊢
    omega

end PyDatetime
