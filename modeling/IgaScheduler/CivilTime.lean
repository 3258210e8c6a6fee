import Mathlib.Data.List.Basic

namespace Civil

/-!
# Civil time of an instant

Instants are milliseconds since the epoch.  Year, month, date and time of day
are read off an instant in the proleptic Gregorian calendar, and written in the
format `YYYY-MM-DDTHH:mm:ss.sssZ`, with a signed year of six digits outside
the years 0 to 9999.  The text determines the instant.
-/

/-- Milliseconds in a day. -/
def msPerDay : Int := 86400000

/-- The number of the first day of a year, counted from the epoch. -/
def dayFromYear (year : Int) : Int :=
  365 * (year - 1970) + (year - 1969) / 4 - (year - 1901) / 100 +
    (year - 1601) / 400

/-- The year a day belongs to if every year had the average length. -/
def averageYear (day : Int) : Int :=
  1970 + day * 400 / 146097

/-- The year a day belongs to, next to its average year or that year itself. -/
def yearOfDay (day : Int) : Int :=
  if day < dayFromYear (averageYear day) then
    averageYear day - 1
  else if dayFromYear (averageYear day + 1) ≤ day then
    averageYear day + 1
  else
    averageYear day

/-- Days before the first of a month in a common year. -/
def commonMonthStart : Nat → Int
  | 2 => 31
  | 3 => 59
  | 4 => 90
  | 5 => 120
  | 6 => 151
  | 7 => 181
  | 8 => 212
  | 9 => 243
  | 10 => 273
  | 11 => 304
  | 12 => 334
  | _ => 0

/-- Days before the first of a month; leap years have one more from March on. -/
def monthStart
    (year : Int)
    (month : Nat) :
    Int :=
  let leapDay := dayFromYear (year + 1) - dayFromYear year - 365
  commonMonthStart month + if 2 < month then leapDay else 0

/-- The newest of the months `1` to `bound + 1` that has begun. -/
def newestMonth
    (year dayOfYear : Int) :
    Nat → Nat
  | 0 => 1
  | bound + 1 =>
      if monthStart year (bound + 2) ≤ dayOfYear then
        bound + 2
      else
        newestMonth year dayOfYear bound

/-- The parts of an instant that its text shows. -/
@[ext]
structure Parts where
  year : Int
  month : Nat
  date : Nat
  hour : Nat
  minute : Nat
  second : Nat
  millisecond : Nat
  deriving DecidableEq, Repr

/-- Read the parts off an instant. -/
def parts (instant : Int) : Parts :=
  let day := instant / msPerDay
  let timeOfDay := (instant % msPerDay).toNat
  let year := yearOfDay day
  let dayOfYear := day - dayFromYear year
  let month := newestMonth year dayOfYear 11
  { year := year
    month := month
    date := (dayOfYear - monthStart year month).toNat + 1
    hour := timeOfDay / 3600000
    minute := timeOfDay / 60000 % 60
    second := timeOfDay / 1000 % 60
    millisecond := timeOfDay % 1000 }

/-- Decimal digits, padded with zeros on the left. -/
def padded
    (width value : Nat) :
    List Char :=
  (Nat.toDigits 10 value).leftpad width '0'

/-- Four digits, or a sign and six digits outside the years 0 to 9999. -/
def yearText (year : Int) : List Char :=
  if 0 ≤ year ∧ year ≤ 9999 then
    padded 4 year.toNat
  else if year < 0 then
    '-' :: padded 6 (-year).toNat
  else
    '+' :: padded 6 year.toNat

/-- Date and hour, the part of the text before its first colon. -/
def dateHourText (parts : Parts) : List Char :=
  yearText parts.year ++
    '-' :: padded 2 parts.month ++
    '-' :: padded 2 parts.date ++
    'T' :: padded 2 parts.hour

/-- Seconds, the part of the text after its last colon. -/
def secondText (parts : Parts) : List Char :=
  padded 2 parts.second ++ '.' :: (padded 3 parts.millisecond ++ ['Z'])

/-- The text of an instant. -/
def text (instant : Int) : List Char :=
  dateHourText (parts instant) ++
    ':' :: padded 2 (parts instant).minute ++
    ':' :: secondText (parts instant)

/-! ## The parts determine the instant -/

/-- A day lies in the year it belongs to. -/
theorem yearOfDay_spec (day : Int) :
    dayFromYear (yearOfDay day) ≤ day ∧
      day < dayFromYear (yearOfDay day + 1) := by
  unfold yearOfDay
  split
  · rename_i before
    rw [Int.sub_add_cancel]
    refine ⟨?_, before⟩
    unfold averageYear dayFromYear
    omega
  · rename_i begun
    split
    · rename_i after
      refine ⟨after, ?_⟩
      unfold averageYear dayFromYear
      omega
    · rename_i current
      exact ⟨by omega, by omega⟩

/-- The newest month that has begun has begun. -/
theorem monthStart_newestMonth_le
    (year : Int)
    {dayOfYear : Int}
    (begun : 0 ≤ dayOfYear)
    (bound : Nat) :
    monthStart year (newestMonth year dayOfYear bound) ≤ dayOfYear := by
  induction bound with
  | zero =>
      simpa [newestMonth, monthStart, commonMonthStart] using begun
  | succ bound inductionHypothesis =>
      unfold newestMonth
      split
      · rename_i started
        exact started
      · exact inductionHypothesis

/-- Instants with the same parts are the same. -/
theorem parts_injective : Function.Injective parts := by
  intro first second same
  have yearSame := congrArg Parts.year same
  have monthSame := congrArg Parts.month same
  have dateSame := congrArg Parts.date same
  have hourSame := congrArg Parts.hour same
  have minuteSame := congrArg Parts.minute same
  have secondSame := congrArg Parts.second same
  have millisecondSame := congrArg Parts.millisecond same
  simp only [parts]
    at yearSame monthSame dateSame hourSame minuteSame secondSame
      millisecondSame
  have daySame : first / msPerDay = second / msPerDay := by
    have firstBegun := (yearOfDay_spec (first / msPerDay)).1
    have secondBegun := (yearOfDay_spec (second / msPerDay)).1
    rw [yearSame] at monthSame dateSame firstBegun
    rw [monthSame] at dateSame
    have firstMonth :=
      monthStart_newestMonth_le (yearOfDay (second / msPerDay))
        (Int.sub_nonneg_of_le firstBegun) 11
    have secondMonth :=
      monthStart_newestMonth_le (yearOfDay (second / msPerDay))
        (Int.sub_nonneg_of_le secondBegun) 11
    rw [monthSame] at firstMonth
    omega
  have timeSame : first % msPerDay = second % msPerDay := by
    unfold msPerDay at *
    omega
  rw [← Int.mul_ediv_add_emod first msPerDay, daySame, timeSame,
    Int.mul_ediv_add_emod]

/-! ## The text determines the parts -/

/-- Texts split in one way at the last occurrence of a separator. -/
theorem split_at_last
    {separator : Char}
    {front front' back back' : List Char}
    (unused : separator ∉ back)
    (unused' : separator ∉ back')
    (same : front ++ separator :: back = front' ++ separator :: back') :
    front = front' ∧ back = back' := by
  induction front generalizing front' with
  | nil =>
      cases front' with
      | nil =>
          exact ⟨rfl, (List.cons.inj same).2⟩
      | cons head rest =>
          have tails := (List.cons.inj same).2
          exact (unused (by simp [tails])).elim
  | cons head rest inductionHypothesis =>
      cases front' with
      | nil =>
          have tails := (List.cons.inj same).2
          exact (unused' (by simp [← tails])).elim
      | cons head' rest' =>
          obtain ⟨heads, tails⟩ := List.cons.inj same
          obtain ⟨rests, backs⟩ := inductionHypothesis tails
          exact ⟨by rw [heads, rests], backs⟩

/-- Padded numbers consist of digits. -/
theorem isDigit_of_mem_padded
    {width value : Nat}
    {char : Char}
    (member : char ∈ padded width value) :
    char.isDigit = true := by
  rcases List.mem_append.mp member with zeros | digits
  · rw [List.eq_of_mem_replicate zeros]
    rfl
  · exact Nat.isDigit_of_mem_toDigits (by decide) (by decide) digits

theorem not_mem_padded
    {separator : Char}
    (width value : Nat)
    (noDigit : separator.isDigit = false) :
    separator ∉ padded width value := by
  intro member
  rw [isDigit_of_mem_padded member] at noDigit
  cases noDigit

/-- Padding does not change the number that digits denote. -/
theorem padded_injective
    {width first second : Nat}
    (same : padded width first = padded width second) :
    first = second := by
  have value (number : Nat) :
      Nat.ofDigitChars 10 (padded width number) 0 = number := by
    simp [padded, List.leftpad, Nat.ofDigitChars_append]
  rw [← value first, same, value second]

/-- The digits after a separator, and what stands before it. -/
theorem field_injective
    {separator : Char}
    {width first second : Nat}
    {front front' : List Char}
    (noDigit : separator.isDigit = false)
    (same :
      front ++ separator :: padded width first =
        front' ++ separator :: padded width second) :
    front = front' ∧ first = second := by
  obtain ⟨fronts, backs⟩ :=
    split_at_last (not_mem_padded _ _ noDigit) (not_mem_padded _ _ noDigit)
      same
  exact ⟨fronts, padded_injective backs⟩

theorem yearText_injective : Function.Injective yearText := by
  intro first second same
  have unsigned
      {sign : Char}
      {width value : Nat}
      {rest : List Char}
      (noDigit : sign.isDigit = false)
      (starts : padded width value = sign :: rest) :
      False :=
    not_mem_padded width value noDigit (by simp [starts])
  unfold yearText at same
  split at same
  · split at same
    · have := padded_injective same
      omega
    · split at same
      · exact (unsigned rfl same).elim
      · exact (unsigned rfl same).elim
  · split at same
    · split at same
      · exact (unsigned rfl same.symm).elim
      · split at same
        · have := padded_injective (List.cons.inj same).2
          omega
        · cases same
    · split at same
      · exact (unsigned rfl same.symm).elim
      · split at same
        · cases same
        · have := padded_injective (List.cons.inj same).2
          omega

/-- Date and hour can be read back from their text. -/
theorem dateHourText_inj
    {first second : Parts}
    (same : dateHourText first = dateHourText second) :
    first.year = second.year ∧
      first.month = second.month ∧
      first.date = second.date ∧
      first.hour = second.hour := by
  obtain ⟨toDate, hours⟩ := field_injective rfl same
  obtain ⟨toMonth, dates⟩ := field_injective rfl toDate
  obtain ⟨years, months⟩ := field_injective rfl toMonth
  exact ⟨yearText_injective years, months, dates, hours⟩

theorem secondText_inj
    {first second : Parts}
    (same : secondText first = secondText second) :
    first.second = second.second ∧
      first.millisecond = second.millisecond := by
  unfold secondText at same
  rw [← List.cons_append, ← List.append_assoc, ← List.cons_append,
    ← List.append_assoc] at same
  obtain ⟨seconds, milliseconds⟩ :=
    field_injective rfl (List.append_inj_left' same rfl)
  exact ⟨padded_injective seconds, milliseconds⟩

/-- Before its first colon the text has none. -/
theorem colon_not_mem_dateHourText (parts : Parts) :
    ':' ∉ dateHourText parts := by
  have colon (width value : Nat) :
      ':' ∉ padded width value :=
    not_mem_padded width value rfl
  have yearColon : ':' ∉ yearText parts.year := by
    unfold yearText
    split
    · exact colon _ _
    · split <;> simp [colon]
  simp [dateHourText, yearColon, colon]

/-- After its last colon the text has none. -/
theorem colon_not_mem_secondText (parts : Parts) :
    ':' ∉ secondText parts := by
  have colon (width value : Nat) :
      ':' ∉ padded width value :=
    not_mem_padded width value rfl
  simp [secondText, colon]

/-- The text of an instant can be read back off the end of a longer text. -/
theorem text_inj
    {front front' : List Char}
    {first second : Int}
    (same : front ++ ':' :: text first = front' ++ ':' :: text second) :
    front = front' ∧ first = second := by
  unfold text at same
  simp only [← List.append_assoc, ← List.cons_append] at same
  obtain ⟨toMinute, seconds⟩ :=
    split_at_last (colon_not_mem_secondText _) (colon_not_mem_secondText _)
      same
  obtain ⟨toHour, minutes⟩ := field_injective rfl toMinute
  obtain ⟨fronts, dateHours⟩ :=
    split_at_last (colon_not_mem_dateHourText _)
      (colon_not_mem_dateHourText _) toHour
  obtain ⟨years, months, dates, hours⟩ := dateHourText_inj dateHours
  obtain ⟨wholeSeconds, milliseconds⟩ := secondText_inj seconds
  exact ⟨fronts,
    parts_injective
      (Parts.ext years months dates hours minutes wholeSeconds
        milliseconds)⟩

end Civil
