import IgaScheduler.CivilTime
import Mathlib.Data.Char
import Mathlib.Data.List.Lex
import Mathlib.Tactic.IntervalCases

namespace Civil

/-!
# The order of the texts

In the years 0 to 9999 the text of an instant has as many letters in front of
each part as that of any other, so the texts are ordered as the instants are.
Outside of them the sign of the year comes first.
-/

/-! ## The order of the parts -/

/-- The first part that differs is the smaller one. -/
def Parts.Before (first second : Parts) : Prop :=
  first.year < second.year ∨ first.year = second.year ∧
    (first.month < second.month ∨ first.month = second.month ∧
      (first.date < second.date ∨ first.date = second.date ∧
        (first.hour < second.hour ∨ first.hour = second.hour ∧
          (first.minute < second.minute ∨ first.minute = second.minute ∧
            (first.second < second.second ∨ first.second = second.second ∧
              first.millisecond < second.millisecond)))))

theorem dayFromYear_mono
    {year later : Int}
    (ordered : year ≤ later) :
    dayFromYear year ≤ dayFromYear later := by
  unfold dayFromYear
  omega

theorem yearOfDay_mono
    {day later : Int}
    (ordered : day ≤ later) :
    yearOfDay day ≤ yearOfDay later := by
  by_contra after
  have first := (yearOfDay_spec day).1
  have second := (yearOfDay_spec later).2
  have between :=
    dayFromYear_mono (show yearOfDay later + 1 ≤ yearOfDay day by omega)
  omega

theorem newestMonth_le
    (year dayOfYear : Int)
    (bound : Nat) :
    newestMonth year dayOfYear bound ≤ bound + 1 := by
  induction bound with
  | zero =>
      exact Nat.le_refl 1
  | succ bound inductionHypothesis =>
      unfold newestMonth
      split
      · exact Nat.le_refl _
      · omega

theorem newestMonth_mono
    (year : Int)
    {dayOfYear later : Int}
    (ordered : dayOfYear ≤ later)
    (bound : Nat) :
    newestMonth year dayOfYear bound ≤ newestMonth year later bound := by
  induction bound with
  | zero =>
      exact Nat.le_refl 1
  | succ bound inductionHypothesis =>
      have small := newestMonth_le year dayOfYear bound
      unfold newestMonth
      split
      · rename_i begun
        rw [if_pos (Int.le_trans begun ordered)]
      · split
        · omega
        · exact inductionHypothesis

theorem parts_before
    {first second : Int}
    (ordered : first < second) :
    (parts first).Before (parts second) := by
  have days : first / msPerDay ≤ second / msPerDay := by
    unfold msPerDay
    omega
  have years := yearOfDay_mono days
  simp only [Parts.Before, parts]
  by_cases sameYear :
      yearOfDay (first / msPerDay) = yearOfDay (second / msPerDay)
  · have begun := (yearOfDay_spec (first / msPerDay)).1
    rw [sameYear] at begun ⊢
    have months :=
      newestMonth_mono (yearOfDay (second / msPerDay))
        (Int.sub_le_sub_right days
          (dayFromYear (yearOfDay (second / msPerDay)))) 11
    have monthBegun :=
      monthStart_newestMonth_le (yearOfDay (second / msPerDay))
        (Int.sub_nonneg_of_le begun) 11
    refine .inr ⟨rfl, ?_⟩
    rcases Nat.lt_or_eq_of_le months with earlier | sameMonth
    · exact .inl earlier
    · refine .inr ⟨sameMonth, ?_⟩
      rw [sameMonth] at monthBegun ⊢
      by_cases sameDay : first / msPerDay = second / msPerDay
      · -- of one day, the times decide
        rw [sameDay]
        refine .inr ⟨rfl, ?_⟩
        have times :
            (first % msPerDay).toNat < (second % msPerDay).toNat := by
          unfold msPerDay at *
          omega
        generalize (first % msPerDay).toNat = time at times ⊢
        generalize (second % msPerDay).toNat = laterTime at times ⊢
        omega
      · exact .inl (by omega)
  · exact .inl (by omega)

/-! ## The order of the texts -/

theorem append_lt_append
    {front front' back back' : List Char}
    (lengths : front.length = front'.length)
    (before : front < front' ∨ front = front' ∧ back < back') :
    front ++ back < front' ++ back' := by
  induction front generalizing front' with
  | nil =>
      obtain rfl := List.length_eq_zero_iff.mp lengths.symm
      obtain impossible | ⟨-, rest⟩ := before
      · exact absurd impossible (List.not_lt_nil [])
      · exact rest
  | cons letter rest inductionHypothesis =>
      cases front' with
      | nil =>
          cases lengths
      | cons letter' rest' =>
          simp only [List.cons_append, List.cons_lt_cons_iff] at before ⊢
          obtain (smaller | ⟨rfl, smaller⟩) | ⟨same, smaller⟩ := before
          · exact .inl smaller
          · exact .inr ⟨rfl,
              inductionHypothesis (Nat.succ.inj lengths) (.inl smaller)⟩
          · obtain ⟨rfl, rfl⟩ := List.cons.inj same
            exact .inr ⟨rfl,
              inductionHypothesis rfl (.inr ⟨rfl, smaller⟩)⟩

/-- The last digit of a padded number. -/
theorem padded_succ
    (width value : Nat) :
    padded (width + 2) value =
      padded (width + 1) (value / 10) ++ [Nat.digitChar (value % 10)] := by
  by_cases small : value < 10
  · rw [padded, padded, Nat.toDigits_of_lt_base small,
      Nat.div_eq_of_lt small, Nat.mod_eq_of_lt small, Nat.toDigits_zero]
    simp [List.leftpad, List.replicate_succ']
  · rw [padded, padded, Nat.toDigits_of_base_le (by decide) (by omega)]
    simp [List.leftpad]

theorem length_padded
    {width value : Nat}
    (small : value < 10 ^ (width + 1)) :
    (padded (width + 1) value).length = width + 1 := by
  induction width generalizing value with
  | zero =>
      have below : value < 10 := small
      rw [padded, Nat.toDigits_of_lt_base below]
      rfl
  | succ width inductionHypothesis =>
      rw [padded_succ, List.length_append,
        inductionHypothesis (Nat.div_lt_of_lt_mul (by
          rwa [← Nat.pow_succ'])), List.length_singleton]

theorem digitChar_lt :
    ∀ first < 10, ∀ second < 10,
      first < second → Nat.digitChar first < Nat.digitChar second := by
  decide

theorem padded_lt
    {width first second : Nat}
    (small : second < 10 ^ (width + 1))
    (ordered : first < second) :
    padded (width + 1) first < padded (width + 1) second := by
  induction width generalizing first second with
  | zero =>
      have below : second < 10 := small
      rw [padded, padded, Nat.toDigits_of_lt_base below,
        Nat.toDigits_of_lt_base (Nat.lt_trans ordered below)]
      exact List.cons_lt_cons_iff.mpr
        (.inl (digitChar_lt first (by omega) second below ordered))
  | succ width inductionHypothesis =>
      have rest : second / 10 < 10 ^ (width + 1) :=
        Nat.div_lt_of_lt_mul (by rwa [← Nat.pow_succ'])
      have restToo : first / 10 < 10 ^ (width + 1) := by
        omega
      rw [padded_succ, padded_succ]
      refine append_lt_append
        ((length_padded restToo).trans (length_padded rest).symm) ?_
      rcases Nat.lt_or_eq_of_le (Nat.div_le_div_right
        (Nat.le_of_lt ordered)) with smaller | same
      · exact .inl (inductionHypothesis rest smaller)
      · refine .inr ⟨by rw [same], List.cons_lt_cons_iff.mpr (.inl ?_)⟩
        exact digitChar_lt _ (Nat.mod_lt _ (by decide)) _
          (Nat.mod_lt _ (by decide)) (by omega)

/-- Of two texts that go on with a number, its value decides before the rest. -/
theorem padded_append_lt
    {width first second : Nat}
    {back back' : List Char}
    (small : first < 10 ^ (width + 1))
    (small' : second < 10 ^ (width + 1))
    (before : first < second ∨ first = second ∧ back < back') :
    padded (width + 1) first ++ back < padded (width + 1) second ++ back' := by
  refine append_lt_append
    ((length_padded small).trans (length_padded small').symm) ?_
  rcases before with smaller | ⟨same, rest⟩
  · exact .inl (padded_lt small' smaller)
  · exact .inr ⟨by rw [same], rest⟩

/-- A year that is written in four digits. -/
def FourDigitYear (instant : Int) : Prop :=
  0 ≤ (parts instant).year ∧ (parts instant).year ≤ 9999

instance (instant : Int) : Decidable (FourDigitYear instant) :=
  inferInstanceAs (Decidable (_ ∧ _))

/-- A month that is not the last to be looked at ends before the next one. -/
theorem lt_monthStart_succ
    {year dayOfYear : Int}
    {bound : Nat}
    (notLast : newestMonth year dayOfYear bound ≤ bound) :
    dayOfYear <
      monthStart year (newestMonth year dayOfYear bound + 1) := by
  induction bound with
  | zero =>
      exact absurd notLast (Nat.not_succ_le_zero 0)
  | succ bound inductionHypothesis =>
      have small := newestMonth_le year dayOfYear bound
      unfold newestMonth at notLast ⊢
      split at notLast
      · omega
      · rename_i notBegun
        rw [if_neg notBegun]
        by_cases earlier : newestMonth year dayOfYear bound ≤ bound
        · exact inductionHypothesis earlier
        · have last : newestMonth year dayOfYear bound = bound + 1 := by
            omega
          rw [last]
          exact Int.not_le.mp notBegun

theorem monthStart_succ_le
    (year : Int)
    {month : Nat}
    (inYear : month < 12) :
    monthStart year (month + 1) ≤ monthStart year month + 32 := by
  have leapDay :
      dayFromYear (year + 1) - dayFromYear year - 365 ≤ 1 := by
    unfold dayFromYear
    omega
  unfold monthStart
  dsimp only
  interval_cases month <;> simp [commonMonthStart] <;> omega

theorem date_le (instant : Int) : (parts instant).date ≤ 32 := by
  have ends := (yearOfDay_spec (instant / msPerDay)).2
  simp only [parts]
  generalize yearOfDay (instant / msPerDay) = year at ends ⊢
  generalize shape :
    instant / msPerDay - dayFromYear year = dayOfYear
  rcases Nat.lt_or_eq_of_le (newestMonth_le year dayOfYear 11)
    with earlier | last
  · have next := lt_monthStart_succ (Nat.le_of_lt_succ earlier)
    have length := monthStart_succ_le year earlier
    omega
  · rw [last]
    unfold monthStart
    dsimp only
    simp only [commonMonthStart]
    omega

theorem parts_small (instant : Int) :
    (parts instant).month < 100 ∧
      (parts instant).date < 100 ∧
      (parts instant).hour < 100 ∧
      (parts instant).minute < 100 ∧
      (parts instant).second < 100 ∧
      (parts instant).millisecond < 1000 := by
  have month := newestMonth_le
    (yearOfDay (instant / msPerDay))
    (instant / msPerDay - dayFromYear (yearOfDay (instant / msPerDay))) 11
  refine ⟨Nat.lt_of_le_of_lt month (by decide), ?_, ?_, ?_, ?_, ?_⟩
  · exact Nat.lt_of_le_of_lt (date_le instant) (by decide)
  · simp only [parts, msPerDay]
    omega
  · exact Nat.lt_trans (Nat.mod_lt _ (by decide)) (by decide)
  · exact Nat.lt_trans (Nat.mod_lt _ (by decide)) (by decide)
  · exact Nat.mod_lt _ (by decide)

theorem text_lt
    {first second : Int}
    (fourDigits : FourDigitYear first)
    (fourDigits' : FourDigitYear second)
    (ordered : first < second) :
    text first < text second := by
  have before := parts_before ordered
  obtain ⟨month, date, hour, minute, seconds, millisecond⟩ :=
    parts_small first
  obtain ⟨month', date', hour', minute', seconds', millisecond'⟩ :=
    parts_small second
  have year : (parts first).year.toNat < 10 ^ 4 := by
    have := fourDigits.2
    omega
  have year' : (parts second).year.toNat < 10 ^ 4 := by
    have := fourDigits'.2
    omega
  have field
      {separator : Char}
      {back back' : List Char}
      (rest : back < back') :
      separator :: back < separator :: back' :=
    List.cons_lt_cons_iff.mpr (.inr ⟨rfl, rest⟩)
  unfold text dateHourText secondText yearText
  rw [if_pos (And.intro fourDigits.1 fourDigits.2),
    if_pos (And.intro fourDigits'.1 fourDigits'.2)]
  simp only [List.append_assoc, List.cons_append]
  refine padded_append_lt year year' ?_
  rcases before with years | ⟨years, before⟩
  · have := fourDigits.1
    exact .inl (by omega)
  refine .inr ⟨by rw [years], field (padded_append_lt month month' ?_)⟩
  rcases before with months | ⟨months, before⟩
  · exact .inl months
  refine .inr ⟨months, field (padded_append_lt date date' ?_)⟩
  rcases before with dates | ⟨dates, before⟩
  · exact .inl dates
  refine .inr ⟨dates, field (padded_append_lt hour hour' ?_)⟩
  rcases before with hours | ⟨hours, before⟩
  · exact .inl hours
  refine .inr ⟨hours, field (padded_append_lt minute minute' ?_)⟩
  rcases before with minutes | ⟨minutes, before⟩
  · exact .inl minutes
  refine .inr ⟨minutes, field (padded_append_lt seconds seconds' ?_)⟩
  rcases before with wholeSeconds | ⟨wholeSeconds, milliseconds⟩
  · exact .inl wholeSeconds
  exact .inr ⟨wholeSeconds, field
    (padded_append_lt millisecond millisecond' (.inl milliseconds))⟩

/-- In these years, the texts are ordered as the instants are. -/
theorem text_le_iff
    {first second : Int}
    (fourDigits : FourDigitYear first)
    (fourDigits' : FourDigitYear second) :
    text first ≤ text second ↔ first ≤ second := by
  constructor
  · intro ordered
    by_contra after
    exact absurd (text_lt fourDigits' fourDigits (Int.not_le.mp after))
      (not_lt_of_ge ordered)
  · intro ordered
    rcases Int.lt_or_eq_of_le ordered with earlier | rfl
    · exact le_of_lt (text_lt fourDigits fourDigits' earlier)
    · exact le_rfl

end Civil
