import SaasOs.Foundation.PyDatetime
import Mathlib.Data.String.Basic

/-!
# The order of ISO texts

The texts that `isoformat` writes have their numbers in columns of fixed widths, from the year down
to the microsecond.  So they are ordered as the instants are, and no two instants have one text.  A
text in whole seconds that reads as an instant is the text of that instant.
-/

namespace PyDatetime

/-! ## Columns -/

lemma digitsValue_cons (c : Char) (digits : List Char) :
    digitsValue (c :: digits) =
      (c.toNat - '0'.toNat) * 10 ^ digits.length + digitsValue digits := by
  have hfold : ∀ (digits : List Char) (n : ℕ),
      digits.foldl (fun n c => n * 10 + (c.toNat - '0'.toNat)) n =
        n * 10 ^ digits.length + digitsValue digits := by
    intro digits
    induction digits with
    | nil => simp [digitsValue]
    | cons c digits ih =>
      intro n
      unfold digitsValue
      rw [List.foldl_cons, List.foldl_cons, ih, ih, List.length_cons, pow_succ]
      ring
  unfold digitsValue
  rw [List.foldl_cons, hfold, Nat.zero_mul, Nat.zero_add]
  rfl

lemma toNat_of_isDigit {c : Char} (hc : c.isDigit = true) :
    '0'.toNat ≤ c.toNat ∧ c.toNat ≤ '0'.toNat + 9 := by
  simp only [Char.isDigit, Bool.and_eq_true, decide_eq_true_eq, ge_iff_le, UInt32.le_iff_toNat_le]
    at hc
  exact hc

variable {digits : List Char}

lemma digitsValue_lt (h : ∀ c ∈ digits, c.isDigit = true) :
    digitsValue digits < 10 ^ digits.length := by
  induction digits with
  | nil => exact Nat.one_pos
  | cons c digits ih =>
    obtain ⟨-, hc⟩ := toNat_of_isDigit (h c List.mem_cons_self)
    have hrest := ih fun d hd => h d (List.mem_cons_of_mem c hd)
    have hfirst : (c.toNat - '0'.toNat) * 10 ^ digits.length ≤ 9 * 10 ^ digits.length :=
      Nat.mul_le_mul_right _ (by omega)
    rw [digitsValue_cons, List.length_cons, pow_succ]
    omega

/-! ## Dates -/

lemma date_eq_of_toOrdinal_eq {year month day year' month' day' : ℕ} (hdate : IsDate year month day)
    (hdate' : IsDate year' month' day')
    (h : toOrdinal year month day = toOrdinal year' month' day') :
    year = year' ∧ month = month' ∧ day = day' := by
  have hday := hdate.one_le_day
  have hday' := hdate'.one_le_day
  rcases lt_trichotomy (12 * year + month) (12 * year' + month') with hlt | heq | hgt
  · have hmonth := hdate.month_le
    have hmonth' := hdate'.month_le
    have hone := hdate.one_le_month
    have hone' := hdate'.one_le_month
    have hbefore := toOrdinal_lt year' hdate hdate'.month_le (by omega)
    unfold toOrdinal at h hbefore
    omega
  · have hmonth := hdate.month_le
    have hmonth' := hdate'.month_le
    have hone := hdate.one_le_month
    have hone' := hdate'.one_le_month
    obtain ⟨rfl, rfl⟩ : year = year' ∧ month = month' := by omega
    unfold toOrdinal at h
    exact ⟨rfl, rfl, by omega⟩
  · have hmonth := hdate.month_le
    have hmonth' := hdate'.month_le
    have hone := hdate.one_le_month
    have hone' := hdate'.one_le_month
    have hbefore := toOrdinal_lt year hdate' hdate.month_le (by omega)
    unfold toOrdinal at h hbefore
    omega

/-! ## Texts -/

lemma micro_lt (instant : ℤ) : (instant % second).toNat < 10 ^ 6 := by
  unfold second
  omega

/-! ## Reading -/

lemma digitsValue_inj {digits digits' : List Char} (h : ∀ c ∈ digits, c.isDigit = true)
    (h' : ∀ c ∈ digits', c.isDigit = true) (hlength : digits.length = digits'.length)
    (hvalue : digitsValue digits = digitsValue digits') : digits = digits' := by
  induction digits generalizing digits' with
  | nil => exact (List.eq_nil_of_length_eq_zero hlength.symm).symm
  | cons c digits ih =>
    cases digits' with
    | nil => cases hlength
    | cons d digits' =>
      have hlength' : digits.length = digits'.length := Nat.succ.inj hlength
      rw [digitsValue_cons, digitsValue_cons, ← hlength'] at hvalue
      obtain ⟨hc, hrest⟩ := List.forall_mem_cons.mp h
      obtain ⟨hd, hrest'⟩ := List.forall_mem_cons.mp h'
      have hlt := digitsValue_lt hrest
      have hlt' := digitsValue_lt hrest'
      rw [← hlength'] at hlt'
      have hpos : 0 < 10 ^ digits.length := by positivity
      have hfirst : c.toNat - '0'.toNat = d.toNat - '0'.toNat := by
        have := congrArg (· / 10 ^ digits.length) hvalue
        simpa [Nat.add_div_of_dvd_right, Nat.mul_add_div, mul_comm _ (10 ^ digits.length), hpos,
          Nat.div_eq_of_lt hlt, Nat.div_eq_of_lt hlt'] using this
      have hsecond : digitsValue digits = digitsValue digits' := by
        rw [hfirst] at hvalue
        exact Nat.add_left_cancel hvalue
      obtain ⟨hlow, -⟩ := toNat_of_isDigit hc
      obtain ⟨hlow', -⟩ := toNat_of_isDigit hd
      have hchar : c = d := Char.toNat_inj.mp (by omega)
      rw [hchar, ih hrest hrest' hlength' hsecond]

lemma pad_digitsValue (h : ∀ c ∈ digits, c.isDigit = true) (hpos : 0 < digits.length) :
    pad digits.length (digitsValue digits) = digits :=
  digitsValue_inj (fun _ hc => isDigit_of_mem_pad hc) h (length_pad hpos (digitsValue_lt h))
    (digitsValue_pad _ _)

variable {text : List Char}

lemma length_of_hasIsoShape (h : hasIsoShape text = true) : text.length = 25 := by
  simp only [hasIsoShape, Bool.and_eq_true, beq_iff_eq] at h
  exact h.1

lemma exists_columns_of_hasIsoShape (h : hasIsoShape text = true) :
    ∃ year month day hour minute sec : List Char, year.length = 4 ∧ month.length = 2 ∧
      day.length = 2 ∧ hour.length = 2 ∧ minute.length = 2 ∧ sec.length = 2 ∧
      (∀ c ∈ year ++ month ++ day ++ hour ++ minute ++ sec, c.isDigit = true) ∧
      text = year ++ ['-'] ++ month ++ ['-'] ++ day ++ ['T'] ++ hour ++ [':'] ++ minute ++
        [':'] ++ sec ++ ['+', '0', '0', ':', '0', '0'] := by
  have hlength := length_of_hasIsoShape h
  match text with
  | [y₀, y₁, y₂, y₃, c₀, m₀, m₁, c₁, d₀, d₁, c₂, h₀, h₁, c₃, i₀, i₁, c₄, s₀, s₁, o₀, o₁, o₂, o₃, o₄,
      o₅] =>
    simp [hasIsoShape] at h
    obtain ⟨h0, h1, h2, h3, rfl, h5, h6, rfl, h8, h9, rfl, h11, h12, rfl, h14, h15, rfl, h17, h18,
      rfl, rfl, rfl, rfl, rfl, rfl⟩ := h
    exact ⟨[y₀, y₁, y₂, y₃], [m₀, m₁], [d₀, d₁], [h₀, h₁], [i₀, i₁], [s₀, s₁], rfl, rfl, rfl, rfl,
      rfl, rfl, by simp [*], rfl⟩

variable {instant : ℤ}

lemma fromIsoformat_columns {year month day hour minute sec : List Char} (hyear : year.length = 4)
    (hmonth : month.length = 2) (hday : day.length = 2) (hhour : hour.length = 2)
    (hminute : minute.length = 2) (hsec : sec.length = 2)
    (h : fromIsoformat (year ++ ['-'] ++ month ++ ['-'] ++ day ++ ['T'] ++ hour ++ [':'] ++
      minute ++ [':'] ++ sec ++ ['+', '0', '0', ':', '0', '0']) = some instant) :
    IsDate (digitsValue year) (digitsValue month) (digitsValue day) ∧ digitsValue hour < 24 ∧
      digitsValue minute < 60 ∧ digitsValue sec < 60 ∧
      instant = ((toOrdinal (digitsValue year) (digitsValue month) (digitsValue day) - 1) * 86400 +
        digitsValue hour * 3600 + digitsValue minute * 60 + digitsValue sec : ℕ) * second := by
  match year, month, day, hour, minute, sec with
  | [_, _, _, _], [_, _], [_, _], [_, _], [_, _], [_, _] =>
    simp only [fromIsoformat, List.cons_append, List.nil_append, List.drop_succ_cons,
      List.drop_zero, List.take_succ_cons, List.take_zero] at h
    split at h
    · next hrange =>
      obtain ⟨h₁, h₂, h₃, h₄, h₅, h₆, h₇, h₈⟩ := hrange
      exact ⟨⟨h₁, h₂, h₃, h₄, h₅⟩, h₆, h₇, h₈, (Option.some.inj h).symm⟩
    · cases h

lemma toOrdinal_le {year month day : ℕ} (hdate : IsDate year month day) (hyear : year < 10000) :
    toOrdinal year month day ≤ daysBeforeYear 10000 := by
  have hmonths := daysBeforeMonth_add_le year hdate.one_le_month hdate.month_le
  have hyears := daysBeforeYear_add_le hdate.one_le_year hyear
  have hday := hdate.day_le
  unfold toOrdinal
  omega

lemma isoformatSeconds_of_fromIsoformat (hshape : hasIsoShape text = true)
    (h : fromIsoformat text = some instant) :
    (isoformatSeconds instant).toList = text ∧ min ≤ instant ∧ instant ≤ max ∧
      truncated instant = instant := by
  obtain ⟨year, month, day, hour, minute, sec, hyear, hmonth, hday, hhour, hminute, hsec, hdigits,
    rfl⟩ := exists_columns_of_hasIsoShape hshape
  obtain ⟨hdate, hhour', hminute', hsec', hinstant⟩ :=
    fromIsoformat_columns hyear hmonth hday hhour hminute hsec h
  simp only [List.mem_append, or_imp, forall_and] at hdigits
  obtain ⟨⟨⟨⟨⟨hdyear, hdmonth⟩, hdday⟩, hdhour⟩, hdminute⟩, hdsec⟩ := hdigits
  have hyear' : digitsValue year < 10000 := by
    have := digitsValue_lt hdyear
    rwa [hyear] at this
  have hordinal := toOrdinal_le hdate hyear'
  have hlast : daysBeforeYear 10000 = 3652059 := by decide
  have hone : 1 ≤ toOrdinal (digitsValue year) (digitsValue month) (digitsValue day) :=
    le_trans hdate.one_le_day (Nat.le_add_left _ _)
  obtain ⟨seconds, hseconds⟩ : ∃ seconds : ℕ,
      (toOrdinal (digitsValue year) (digitsValue month) (digitsValue day) - 1) * 86400 +
        digitsValue hour * 3600 + digitsValue minute * 60 + digitsValue sec = seconds := ⟨_, rfl⟩
  rw [hseconds] at hinstant
  have hsecond : (0 : ℤ) < second := by decide
  have hquotient : (instant / second).toNat = seconds := by
    rw [hinstant, Int.mul_ediv_cancel _ hsecond.ne', Int.toNat_natCast]
  have hmax : instant ≤ max := by
    unfold max second at *
    rw [hlast] at hordinal ⊢
    push_cast
    omega
  refine ⟨?_, ?_, hmax, ?_⟩
  · obtain ⟨year', month', day', hdate', hordinal', -, -, -, htext⟩ :=
      exists_isoformatSeconds_eq hmax hquotient
    obtain ⟨rfl, rfl, rfl⟩ := date_eq_of_toOrdinal_eq hdate hdate' (by omega)
    have hhours : seconds % 86400 / 3600 = digitsValue hour := by omega
    have hminutes : seconds % 86400 / 60 % 60 = digitsValue minute := by omega
    have hsecs : seconds % 86400 % 60 = digitsValue sec := by omega
    have hpad : ∀ {width : ℕ} {digits : List Char}, (∀ c ∈ digits, c.isDigit = true) →
        digits.length = width → 0 < width → pad width (digitsValue digits) = digits := by
      rintro _ digits hall rfl hpos
      exact pad_digitsValue hall hpos
    rw [htext, hhours, hminutes, hsecs, hpad hdyear hyear (by decide),
      hpad hdmonth hmonth (by decide), hpad hdday hday (by decide), hpad hdhour hhour (by decide),
      hpad hdminute hminute (by decide), hpad hdsec hsec (by decide)]
  · unfold min
    rw [hinstant]
    positivity
  · unfold truncated
    rw [hinstant, Int.mul_ediv_cancel _ hsecond.ne']

end PyDatetime
