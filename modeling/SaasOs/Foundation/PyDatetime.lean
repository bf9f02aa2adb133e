import Mathlib.Tactic

/-!
# Python datetimes

An aware `datetime` in UTC is a number of microseconds since `datetime.min`, the first instant of
the year 1; `datetime.max` bounds it above.  A `timedelta` is a number of microseconds.
-/

namespace PyDatetime

/-! ## The calendar -/

def isLeap (year : ℕ) : Bool :=
  year % 4 == 0 && (year % 100 != 0 || year % 400 == 0)

def daysBeforeYear (year : ℕ) : ℕ :=
  let y := year - 1
  y * 365 + y / 4 - y / 100 + y / 400

def daysInMonth (year month : ℕ) : ℕ :=
  if month == 2 then (if isLeap year then 29 else 28)
  else if month == 4 || month == 6 || month == 9 || month == 11 then 30
  else 31

def daysBeforeMonth (year month : ℕ) : ℕ :=
  ((List.range (month - 1)).map fun m => daysInMonth year (m + 1)).sum

def toOrdinal (year month day : ℕ) : ℕ :=
  daysBeforeYear year + daysBeforeMonth year month + day

/-- The month and the day of the month of the `n`-th day of the year, counted from 0. -/
def monthDay (year n : ℕ) : ℕ × ℕ :=
  let month := ((List.range 12).filter fun m => daysBeforeMonth year (m + 1) ≤ n).length
  (month, n - daysBeforeMonth year month + 1)

def fromOrdinal (ordinal : ℕ) : ℕ × ℕ × ℕ :=
  let n := ordinal - 1
  let n400 := n / 146097
  let r400 := n % 146097
  let n100 := r400 / 36524
  let r100 := r400 % 36524
  let n4 := r100 / 1461
  let r4 := r100 % 1461
  let n1 := r4 / 365
  let year := n400 * 400 + 1 + n100 * 100 + n4 * 4 + n1
  -- the last day of a cycle of 4 or 400 years belongs to the year before
  if n1 == 4 || n100 == 4 then (year - 1, 12, 31)
  else (year, monthDay year (r4 % 365))

example : toOrdinal 1970 1 1 = 719163 ∧ fromOrdinal 719163 = (1970, 1, 1) := by decide

example : fromOrdinal (toOrdinal 2024 12 31) = (2024, 12, 31) := by decide

/-! ## Instants -/

def second : ℤ := 1000000

/-- `datetime.min`, in UTC. -/
def min : ℤ := 0

/-- `datetime.max`, in UTC: the last microsecond of the year 9999. -/
def max : ℤ := daysBeforeYear 10000 * 86400 * second - 1

/-- `datetime + timedelta`, which raises `OverflowError` outside the range. -/
def add (instant delta : ℤ) : Option ℤ :=
  if min ≤ instant + delta ∧ instant + delta ≤ max then some (instant + delta) else none

def truncated (instant : ℤ) : ℤ :=
  instant / second * second

lemma truncated_le (instant : ℤ) : truncated instant ≤ instant := by
  unfold truncated second
  omega

lemma truncated_truncated (instant : ℤ) : truncated (truncated instant) = truncated instant := by
  unfold truncated second
  omega

variable {instant : ℤ}

lemma min_le_truncated (h : min ≤ instant) : min ≤ truncated instant := by
  unfold truncated second
  unfold min at h ⊢
  omega

def roundHalfEven (q : ℚ) : ℤ :=
  let floor := q.floor
  let rest := q - floor
  if rest < 1 / 2 then floor
  else if 1 / 2 < rest then floor + 1
  else if floor % 2 = 0 then floor else floor + 1

/-- `timedelta(seconds=seconds)`: rounded to microseconds. -/
def timedelta (seconds : ℚ) : ℤ :=
  roundHalfEven (seconds * second)

/-! ## ISO format -/

/-- The decimal digits of `n`, padded with zeros to the width. -/
def pad (width n : ℕ) : List Char :=
  let digits := (Nat.toDigits 10 n)
  List.replicate (width - digits.length) '0' ++ digits

/-- `instant.isoformat(timespec='seconds')` of an aware datetime in UTC. -/
def isoformatSeconds (instant : ℤ) : String :=
  let seconds := (instant / second).toNat
  let (year, month, day) := fromOrdinal (seconds / 86400 + 1)
  let ofDay := seconds % 86400
  String.ofList (pad 4 year ++ ['-'] ++ pad 2 month ++ ['-'] ++ pad 2 day ++ ['T'] ++
    pad 2 (ofDay / 3600) ++ [':'] ++ pad 2 (ofDay / 60 % 60) ++ [':'] ++ pad 2 (ofDay % 60) ++
    ['+', '0', '0', ':', '0', '0'])

/-- `instant.isoformat(timespec='microseconds')` of an aware datetime in UTC. -/
def isoformatMicroseconds (instant : ℤ) : String :=
  String.ofList ((isoformatSeconds instant).toList.take 19 ++ ['.'] ++
    pad 6 (instant % second).toNat ++ ['+', '0', '0', ':', '0', '0'])

def digitsValue (digits : List Char) : ℕ :=
  digits.foldl (fun n c => n * 10 + (c.toNat - '0'.toNat)) 0

/-- Is the text a date, a time in whole seconds and the offset `+00:00`, each number in its
columns? -/
def hasIsoShape (text : List Char) : Bool :=
  text.length == 25 &&
    ((text.zip "dddd-dd-ddTdd:dd:dd+00:00".toList).all fun (c, shape) =>
      if shape = 'd' then c.isDigit else c == shape)

/-- `datetime.fromisoformat(text)` on a text of that shape; `none` where it raises `ValueError`
because a number is out of range. -/
def fromIsoformat (text : List Char) : Option ℤ :=
  let number (start width : ℕ) := digitsValue ((text.drop start).take width)
  let year := number 0 4
  let month := number 5 2
  let day := number 8 2
  let hour := number 11 2
  let minute := number 14 2
  let sec := number 17 2
  if 1 ≤ year ∧ 1 ≤ month ∧ month ≤ 12 ∧ 1 ≤ day ∧ day ≤ daysInMonth year month ∧ hour < 24 ∧
      minute < 60 ∧ sec < 60 then
    some (((toOrdinal year month day - 1) * 86400 + hour * 3600 + minute * 60 + sec : ℕ) * second)
  else
    none

/-! ## The calendar round trip -/

structure IsDate (year month day : ℕ) : Prop where
  one_le_year : 1 ≤ year
  one_le_month : 1 ≤ month
  month_le : month ≤ 12
  one_le_day : 1 ≤ day
  day_le : day ≤ daysInMonth year month

def yearLike (leap : Bool) : ℕ :=
  if leap then 4 else 1

lemma daysInMonth_yearLike (year month : ℕ) :
    daysInMonth (yearLike (isLeap year)) month = daysInMonth year month := by
  unfold daysInMonth
  cases hleap : isLeap year <;> rfl

lemma daysBeforeMonth_yearLike (year month : ℕ) :
    daysBeforeMonth (yearLike (isLeap year)) month = daysBeforeMonth year month := by
  simp only [daysBeforeMonth, daysInMonth_yearLike]

lemma monthDay_yearLike (year n : ℕ) :
    monthDay (yearLike (isLeap year)) n = monthDay year n := by
  simp only [monthDay, daysBeforeMonth_yearLike]

lemma monthDay_spec_yearLike : ∀ leap : Bool, ∀ n < 365 + leap.toNat,
    let year := yearLike leap
    let date := monthDay year n
    1 ≤ date.1 ∧ date.1 ≤ 12 ∧ 1 ≤ date.2 ∧ date.2 ≤ daysInMonth year date.1 ∧
      daysBeforeMonth year date.1 + date.2 = n + 1 := by
  decide +kernel

variable {year n : ℕ}

lemma monthDay_spec (hn : n < 365 + (isLeap year).toNat) :
    1 ≤ (monthDay year n).1 ∧ (monthDay year n).1 ≤ 12 ∧ 1 ≤ (monthDay year n).2 ∧
      (monthDay year n).2 ≤ daysInMonth year (monthDay year n).1 ∧
      daysBeforeMonth year (monthDay year n).1 + (monthDay year n).2 = n + 1 := by
  have h := monthDay_spec_yearLike (isLeap year) n hn
  dsimp only at h
  rwa [monthDay_yearLike, daysInMonth_yearLike, daysBeforeMonth_yearLike] at h

lemma daysBeforeMonth_december (hleap : isLeap year = true) :
    daysBeforeMonth year 12 + 31 = 366 := by
  rw [← daysBeforeMonth_yearLike, hleap]
  decide

lemma daysBeforeYear_cycles {a b c d : ℕ} (hb : b ≤ 3) (hc : c ≤ 24) (hd : d ≤ 3) :
    daysBeforeYear (a * 400 + 1 + b * 100 + c * 4 + d) =
      a * 146097 + b * 36524 + c * 1461 + d * 365 := by
  unfold daysBeforeYear
  dsimp only
  omega

variable {a b c : ℕ}

lemma isLeap_cycles (hc : c ≤ 24) (hcentury : c = 24 → b = 3) :
    isLeap (a * 400 + 1 + b * 100 + c * 4 + 3) = true := by
  unfold isLeap
  simp only [Bool.and_eq_true, Bool.or_eq_true, beq_iff_eq, bne_iff_ne]
  omega

lemma toOrdinal_last_day (hb : b ≤ 3) (hc : c ≤ 24) (hcentury : c = 24 → b = 3) :
    toOrdinal (a * 400 + 1 + b * 100 + c * 4 + 3) 12 31 =
      a * 146097 + b * 36524 + c * 1461 + 1461 := by
  have hyear := daysBeforeYear_cycles (a := a) hb hc (le_refl 3)
  have hmonth := daysBeforeMonth_december (isLeap_cycles (a := a) hc hcentury)
  unfold toOrdinal
  omega

lemma fromOrdinal_spec :
    IsDate (fromOrdinal (n + 1)).1 (fromOrdinal (n + 1)).2.1 (fromOrdinal (n + 1)).2.2 ∧
      toOrdinal (fromOrdinal (n + 1)).1 (fromOrdinal (n + 1)).2.1 (fromOrdinal (n + 1)).2.2 =
        n + 1 := by
  obtain ⟨a, r400, ha, hr400, rfl⟩ : ∃ a r, n / 146097 = a ∧ n % 146097 = r ∧ n = a * 146097 + r :=
    ⟨_, _, rfl, rfl, by omega⟩
  obtain ⟨b, r100, hb, hr100, rfl⟩ :
      ∃ b r, r400 / 36524 = b ∧ r400 % 36524 = r ∧ r400 = b * 36524 + r :=
    ⟨_, _, rfl, rfl, by omega⟩
  obtain ⟨c, r4, hc, hr4, rfl⟩ : ∃ c r, r100 / 1461 = c ∧ r100 % 1461 = r ∧ r100 = c * 1461 + r :=
    ⟨_, _, rfl, rfl, by omega⟩
  obtain ⟨d, r, hd, hr, rfl⟩ : ∃ d r, r4 / 365 = d ∧ r4 % 365 = r ∧ r4 = d * 365 + r :=
    ⟨_, _, rfl, rfl, by omega⟩
  have hfrom : fromOrdinal (a * 146097 + (b * 36524 + (c * 1461 + (d * 365 + r))) + 1) =
      if d == 4 || b == 4 then (a * 400 + 1 + b * 100 + c * 4 + d - 1, 12, 31)
      else (a * 400 + 1 + b * 100 + c * 4 + d, monthDay (a * 400 + 1 + b * 100 + c * 4 + d) r) := by
    unfold fromOrdinal
    simp only [Nat.add_sub_cancel, ha, hr400, hb, hr100, hc, hr4, hd, hr]
  rw [hfrom]
  split
  · next hlast =>
    simp only [Bool.or_eq_true, beq_iff_eq] at hlast
    -- the last day of a cycle of 400 years, or of 4 years other than the last of a century
    obtain ⟨b', c', hyear, hb', hc', hcentury, hday⟩ : ∃ b' c',
        a * 400 + 1 + b * 100 + c * 4 + d - 1 = a * 400 + 1 + b' * 100 + c' * 4 + 3 ∧
        b' ≤ 3 ∧ c' ≤ 24 ∧ (c' = 24 → b' = 3) ∧
        b * 36524 + (c * 1461 + (d * 365 + r)) + 1 = b' * 36524 + c' * 1461 + 1461 := by
      rcases hlast with hd4 | hb4
      · exact ⟨b, c, by omega, by omega, by omega, by omega, by omega⟩
      · exact ⟨3, 24, by omega, by omega, by omega, by omega, by omega⟩
    rw [hyear]
    dsimp only
    refine ⟨⟨by omega, by decide, by decide, by decide, le_of_eq rfl⟩, ?_⟩
    have hordinal := toOrdinal_last_day (a := a) hb' hc' hcentury
    linarith only [hordinal, hday]
  · next hlast =>
    simp only [Bool.or_eq_true, beq_iff_eq, not_or] at hlast
    have hb3 : b ≤ 3 := by omega
    have hc24 : c ≤ 24 := by omega
    have hd3 : d ≤ 3 := by omega
    have hr : r < 365 + (isLeap (a * 400 + 1 + b * 100 + c * 4 + d)).toNat := by omega
    obtain ⟨hmonth, hmonth', hday, hday', hsum⟩ := monthDay_spec hr
    refine ⟨⟨by omega, hmonth, hmonth', hday, hday'⟩, ?_⟩
    have hyear := daysBeforeYear_cycles (a := a) hb3 hc24 hd3
    unfold toOrdinal
    dsimp only
    omega

variable {month day : ℕ}

lemma year_lt_of_toOrdinal_le (hday : 1 ≤ day) (h : toOrdinal year month day ≤ daysBeforeYear 10000) :
    year < 10000 := by
  have hlast : daysBeforeYear 10000 = 3652059 := by decide
  by_contra hyear
  have hdays : 3652059 ≤ daysBeforeYear year := by
    unfold daysBeforeYear
    dsimp only
    omega
  unfold toOrdinal at h
  omega

/-! ## Months -/

def utcMonth (instant : ℤ) : ℕ × ℕ :=
  let date := fromOrdinal ((instant / (86400 * second)).toNat + 1)
  (date.1, date.2.1)

def monthStart (month : ℕ × ℕ) : ℤ :=
  (toOrdinal month.1 month.2 1 - 1 : ℤ) * (86400 * second)

def nextMonth (month : ℕ × ℕ) : ℕ × ℕ :=
  if month.2 = 12 then (month.1 + 1, 1) else (month.1, month.2 + 1)

lemma daysBeforeMonth_yearLike_spec : ∀ leap : Bool, ∀ month < 13,
    (1 ≤ month → daysBeforeMonth (yearLike leap) month + daysInMonth (yearLike leap) month ≤
      365 + leap.toNat) ∧
    ∀ month' < 13, 1 ≤ month → month < month' →
      daysBeforeMonth (yearLike leap) month + daysInMonth (yearLike leap) month ≤
        daysBeforeMonth (yearLike leap) month' := by
  decide +kernel

lemma daysBeforeMonth_add_le (year : ℕ) (hmonth : 1 ≤ month) (hmonth' : month ≤ 12) :
    daysBeforeMonth year month + daysInMonth year month ≤ 365 + (isLeap year).toNat := by
  have h := (daysBeforeMonth_yearLike_spec (isLeap year) month (by omega)).1 hmonth
  rwa [daysBeforeMonth_yearLike, daysInMonth_yearLike] at h

variable {month' : ℕ}

lemma daysBeforeMonth_add_le_of_lt (year : ℕ) (hmonth : 1 ≤ month) (hlt : month < month')
    (hmonth' : month' ≤ 12) :
    daysBeforeMonth year month + daysInMonth year month ≤ daysBeforeMonth year month' := by
  have h := (daysBeforeMonth_yearLike_spec (isLeap year) month (by omega)).2 month' (by omega)
    hmonth hlt
  rwa [daysBeforeMonth_yearLike, daysBeforeMonth_yearLike, daysInMonth_yearLike] at h

lemma daysBeforeYear_succ (hyear : 1 ≤ year) :
    daysBeforeYear (year + 1) = daysBeforeYear year + (365 + (isLeap year).toNat) := by
  obtain ⟨y, rfl⟩ : ∃ y, year = y + 1 := ⟨year - 1, by omega⟩
  have hcenturies : y / 100 ≤ y / 4 := Nat.div_le_div_left (by decide) (by decide)
  have h4 : 100 ∣ y + 1 → 4 ∣ y + 1 := (by decide : 4 ∣ 100).trans
  have h100 : 400 ∣ y + 1 → 100 ∣ y + 1 := (by decide : 100 ∣ 400).trans
  have hleap : (isLeap (y + 1)).toNat =
      if 4 ∣ y + 1 ∧ (¬ 100 ∣ y + 1 ∨ 400 ∣ y + 1) then 1 else 0 := by
    simp only [isLeap, Nat.dvd_iff_mod_eq_zero]
    rw [Bool.toNat, Bool.cond_eq_ite]
    simp
  rw [hleap]
  unfold daysBeforeYear
  simp only [Nat.add_sub_cancel, Nat.succ_div]
  generalize y / 4 = a, y / 100 = b, y / 400 = c at *
  split_ifs <;> omega

lemma daysBeforeYear_add_le {year year' : ℕ} (hyear : 1 ≤ year) (hlt : year < year') :
    daysBeforeYear year + (365 + (isLeap year).toNat) ≤ daysBeforeYear year' := by
  induction year', hlt using Nat.le_induction with
  | base => exact (daysBeforeYear_succ hyear).ge
  | succ later hlater ih =>
    have hsucc : daysBeforeYear (later + 1) = _ := daysBeforeYear_succ (by omega)
    omega

lemma toOrdinal_lt (year' : ℕ) (hdate : IsDate year month day) (hmonth' : month' ≤ 12)
    (hlt : year < year' ∨ (year = year' ∧ month < month')) :
    toOrdinal year month day < toOrdinal year' month' 1 := by
  have hday := hdate.day_le
  unfold toOrdinal
  rcases hlt with hyear | ⟨rfl, hmonth⟩
  · have hends := daysBeforeYear_add_le hdate.one_le_year hyear
    have hwithin := daysBeforeMonth_add_le year hdate.one_le_month hdate.month_le
    omega
  · have hends := daysBeforeMonth_add_le_of_lt year hdate.one_le_month hmonth hmonth'
    omega

lemma isDate_one (hyear : 1 ≤ year) (hmonth : 1 ≤ month) (hmonth' : month ≤ 12) :
    IsDate year month 1 := by
  refine ⟨hyear, hmonth, hmonth', le_refl 1, ?_⟩
  unfold daysInMonth
  split_ifs <;> decide

lemma utcMonth_spec (instant : ℤ) :
    1 ≤ (utcMonth instant).1 ∧ 1 ≤ (utcMonth instant).2 ∧ (utcMonth instant).2 ≤ 12 := by
  obtain ⟨hdate, -⟩ := fromOrdinal_spec (n := (instant / (86400 * second)).toNat)
  exact ⟨hdate.one_le_year, hdate.one_le_month, hdate.month_le⟩

lemma nextMonth_spec {month : ℕ × ℕ} (hmonth : 1 ≤ month.2) (hmonth' : month.2 ≤ 12) :
    1 ≤ (nextMonth month).2 ∧ (nextMonth month).2 ≤ 12 ∧
      12 * (nextMonth month).1 + (nextMonth month).2 = 12 * month.1 + month.2 + 1 := by
  unfold nextMonth
  split
  · dsimp only
    omega
  · dsimp only
    omega

lemma monthStart_le_iff {month : ℕ × ℕ} (hinstant : 0 ≤ instant) :
    monthStart month ≤ instant ↔
      toOrdinal month.1 month.2 1 ≤ (instant / (86400 * second)).toNat + 1 := by
  have hday : (0 : ℤ) < 86400 * second := by decide
  have hnonneg : 0 ≤ instant / (86400 * second) := Int.ediv_nonneg hinstant hday.le
  unfold monthStart
  rw [← Int.le_ediv_iff_mul_le hday]
  omega

/-- The instants from the beginning of a month up to the beginning of the next one are those of the
month. -/
theorem monthStart_le_and_lt_iff {month : ℕ × ℕ} (hyear : 1 ≤ month.1) (hmonth : 1 ≤ month.2)
    (hmonth' : month.2 ≤ 12) (hinstant : 0 ≤ instant) :
    monthStart month ≤ instant ∧ instant < monthStart (nextMonth month) ↔
      utcMonth instant = month := by
  obtain ⟨hdate, hordinal⟩ := fromOrdinal_spec (n := (instant / (86400 * second)).toNat)
  rw [← not_le, monthStart_le_iff hinstant, monthStart_le_iff hinstant, ← hordinal]
  unfold utcMonth
  generalize fromOrdinal ((instant / (86400 * second)).toNat + 1) = date at hdate
  obtain ⟨year₀, month₀, day₀⟩ := date
  have hday := hdate.one_le_day
  have hmonth₀ := hdate.one_le_month
  have hmonth₀' := hdate.month_le
  have hfirst : toOrdinal year₀ month₀ 1 ≤ toOrdinal year₀ month₀ day₀ :=
    Nat.add_le_add_left hday _
  obtain ⟨hnext, hnext', hyear'⟩ := nextMonth_spec hmonth hmonth'
  have hnextYear : 1 ≤ (nextMonth month).1 := by omega
  obtain ⟨year, month⟩ := month
  rw [Prod.mk.injEq]
  dsimp only at hdate hday hmonth₀ hmonth₀' hyear hmonth hmonth' hyear' ⊢
  constructor
  · rintro ⟨hfrom, hto⟩
    by_contra hne
    rcases Nat.lt_trichotomy (12 * year₀ + month₀) (12 * year + month) with hlt | heq | hgt
    · -- an earlier month
      have hbefore := toOrdinal_lt year hdate hmonth' (by omega)
      omega
    · omega
    · -- a later month is the next one, or begins after it
      rcases Nat.lt_or_ge (12 * year + month + 1) (12 * year₀ + month₀) with hlater | hnextOnly
      · have hafter := toOrdinal_lt year₀ (isDate_one hnextYear hnext hnext') hmonth₀' (by omega)
        omega
      · have heq : nextMonth (year, month) = (year₀, month₀) := by
          apply Prod.ext <;> dsimp only <;> omega
        rw [heq] at hto
        exact hto hfirst
  · rintro ⟨rfl, rfl⟩
    have hafter := toOrdinal_lt (nextMonth (year₀, month₀)).1 hdate hnext' (by omega)
    exact ⟨hfirst, not_le.mpr hafter⟩

/-! ## Numbers -/

variable {width : ℕ}

lemma length_pad (hwidth : 0 < width) (hn : n < 10 ^ width) :
    (pad width n).length = width := by
  have hlen : (Nat.toDigits 10 n).length ≤ width :=
    (Nat.length_toDigits_le_iff (by decide) hwidth).mpr hn
  simp only [pad, List.length_append, List.length_replicate]
  omega

lemma isDigit_of_mem_pad {c : Char} (hc : c ∈ pad width n) : c.isDigit = true := by
  rcases List.mem_append.mp hc with hzero | hdigit
  · rw [List.eq_of_mem_replicate hzero]
    decide
  · exact Nat.isDigit_of_mem_toDigits (by decide) (by decide) hdigit

lemma digitsValue_pad (width n : ℕ) : digitsValue (pad width n) = n := by
  have hvalue : ∀ digits : List Char, digitsValue digits = Nat.ofDigitChars 10 digits 0 := by
    intro digits
    rw [Nat.ofDigitChars_eq_foldl]
    simp only [digitsValue, Nat.mul_comm]
  rw [hvalue, pad, Nat.ofDigitChars_append, Nat.ofDigitChars_replicate_zero,
    Nat.mul_zero, Nat.ofDigitChars_ten_toDigits]

/-! ## The ISO round trip -/

section IsoText

variable {year month day hour minute sec : List Char}

section

variable (hyear : year.length = 4) (hmonth : month.length = 2) (hday : day.length = 2)
  (hhour : hour.length = 2)

include hyear hmonth hday hhour

lemma hasIsoShape_append (hminute : minute.length = 2) (hsec : sec.length = 2)
    (hdigits : ∀ c ∈ year ++ month ++ day ++ hour ++ minute ++ sec, c.isDigit = true) :
    hasIsoShape (year ++ ['-'] ++ month ++ ['-'] ++ day ++ ['T'] ++ hour ++ [':'] ++ minute ++
      [':'] ++ sec ++ ['+', '0', '0', ':', '0', '0']) = true := by
  match year, month, day, hour, minute, sec with
  | [_, _, _, _], [_, _], [_, _], [_, _], [_, _], [_, _] =>
    simp only [List.cons_append, List.nil_append, List.mem_cons, List.not_mem_nil, or_false,
      forall_eq_or_imp, forall_eq] at hdigits
    simp [hasIsoShape, hdigits]

lemma fromIsoformat_append (hminute : minute.length = 2) (hsec : sec.length = 2)
    (hdate : IsDate (digitsValue year) (digitsValue month) (digitsValue day))
    (hhour' : digitsValue hour < 24) (hminute' : digitsValue minute < 60)
    (hsec' : digitsValue sec < 60) :
    fromIsoformat (year ++ ['-'] ++ month ++ ['-'] ++ day ++ ['T'] ++ hour ++ [':'] ++ minute ++
      [':'] ++ sec ++ ['+', '0', '0', ':', '0', '0']) =
      some (((toOrdinal (digitsValue year) (digitsValue month) (digitsValue day) - 1) * 86400 +
        digitsValue hour * 3600 + digitsValue minute * 60 + digitsValue sec : ℕ) * second) := by
  match year, month, day, hour, minute, sec with
  | [_, _, _, _], [_, _], [_, _], [_, _], [_, _], [_, _] =>
    simp only [fromIsoformat, List.cons_append, List.nil_append, List.drop_succ_cons,
      List.drop_zero, List.take_succ_cons, List.take_zero]
    exact if_pos ⟨hdate.one_le_year, hdate.one_le_month, hdate.month_le, hdate.one_le_day,
      hdate.day_le, hhour', hminute', hsec'⟩

end

end IsoText

lemma days_lt (hmax : instant ≤ max) :
    (instant / second).toNat / 86400 < daysBeforeYear 10000 := by
  have hlast : daysBeforeYear 10000 = 3652059 := by decide
  unfold max second at hmax
  unfold second
  rw [hlast] at hmax ⊢
  omega

lemma daysInMonth_le (year month : ℕ) : daysInMonth year month ≤ 31 := by
  unfold daysInMonth
  split_ifs <;> omega

lemma exists_isoformatSeconds_eq (hmax : instant ≤ max) {seconds : ℕ}
    (hseconds : (instant / second).toNat = seconds) :
    ∃ year month day, IsDate year month day ∧ toOrdinal year month day = seconds / 86400 + 1 ∧
      year < 10 ^ 4 ∧ month < 10 ^ 2 ∧ day < 10 ^ 2 ∧
      (isoformatSeconds instant).toList =
        pad 4 year ++ ['-'] ++ pad 2 month ++ ['-'] ++ pad 2 day ++ ['T'] ++
          pad 2 (seconds % 86400 / 3600) ++ [':'] ++ pad 2 (seconds % 86400 / 60 % 60) ++ [':'] ++
          pad 2 (seconds % 86400 % 60) ++ ['+', '0', '0', ':', '0', '0'] := by
  obtain ⟨hdate, hordinal⟩ := fromOrdinal_spec (n := seconds / 86400)
  have hdays : seconds / 86400 < daysBeforeYear 10000 := hseconds ▸ days_lt hmax
  have hmonth := hdate.month_le
  have hday := hdate.day_le.trans (daysInMonth_le _ _)
  refine ⟨_, _, _, hdate, hordinal, ?_, by omega, by omega, ?_⟩
  · exact year_lt_of_toOrdinal_le hdate.one_le_day (hordinal.trans_le hdays)
  · simp only [isoformatSeconds, hseconds, String.toList_ofList]

lemma hasIsoShape_isoformatSeconds (hmax : instant ≤ max) :
    hasIsoShape (isoformatSeconds instant).toList = true := by
  obtain ⟨year, month, day, -, -, hyear, hmonth, hday, htext⟩ :=
    exists_isoformatSeconds_eq hmax rfl
  rw [htext]
  refine hasIsoShape_append (length_pad (by decide) hyear) (length_pad (by decide) hmonth)
    (length_pad (by decide) hday) (length_pad (by decide) (by omega))
    (length_pad (by decide) (by omega)) (length_pad (by decide) (by omega)) fun c hc => ?_
  simp only [List.mem_append] at hc
  rcases hc with ((((hc | hc) | hc) | hc) | hc) | hc <;> exact isDigit_of_mem_pad hc

lemma fromIsoformat_isoformatSeconds (hmin : min ≤ instant) (hmax : instant ≤ max) :
    fromIsoformat (isoformatSeconds instant).toList = some (truncated instant) := by
  obtain ⟨seconds, hseconds⟩ : ∃ seconds, (instant / second).toNat = seconds := ⟨_, rfl⟩
  obtain ⟨year, month, day, hdate, hordinal, hyear, hmonth, hday, htext⟩ :=
    exists_isoformatSeconds_eq hmax hseconds
  have hnonneg : 0 ≤ instant / second := Int.ediv_nonneg hmin (by decide)
  have hsum : (seconds / 86400 + 1 - 1) * 86400 + seconds % 86400 / 3600 * 3600 +
      seconds % 86400 / 60 % 60 * 60 + seconds % 86400 % 60 = seconds := by omega
  rw [htext, fromIsoformat_append (length_pad (by decide) hyear) (length_pad (by decide) hmonth)
    (length_pad (by decide) hday) (length_pad (by decide) (by omega))
    (length_pad (by decide) (by omega)) (length_pad (by decide) (by omega))]
  · simp only [digitsValue_pad]
    rw [hordinal, hsum, ← hseconds, Int.toNat_of_nonneg hnonneg, truncated]
  · simpa only [digitsValue_pad] using hdate
  · rw [digitsValue_pad]
    omega
  · rw [digitsValue_pad]
    omega
  · rw [digitsValue_pad]
    omega

end PyDatetime
