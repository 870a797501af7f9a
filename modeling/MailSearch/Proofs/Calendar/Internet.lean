import MailSearch.Calendar.Internet
import MailSearch.Proofs.Calendar.Scan
import MailSearch.Proofs.Data.Outcome

/-!
# Dates of RFC 3339

The grammar of the strict form, with the instant that a text of it denotes.  The
scanner of the strict form reads exactly these texts, as these instants.
-/

namespace MailSearch
namespace Calendar

/-! ## Grammar -/

/-- A text is a date in digits. -/
inductive DateText : Nat -> Nat -> Nat -> List Char -> Prop where
  /-- The year has four digits, the month and the day have two. -/
  | digits {year month day : Nat} {yearText monthText dayText : List Char}
      (isYear : Numeral 4 year yearText)
      (isMonth : Numeral 2 month monthText)
      (isDay : Numeral 2 day dayText) :
      DateText year month day (yearText ++ '-' :: monthText ++ '-' :: dayText)

/-- A text is a fraction of a second in billionths, or nothing. -/
inductive FractionText : Nat -> List Char -> Prop where
  /-- Nothing stands for no fraction. -/
  | absent : FractionText 0 []
  /-- Of the digits behind the point the first nine count. -/
  | present {digits : List Char}
      (nonempty : digits ≠ [])
      (all : ∀ c ∈ digits, c.isDigit = true) :
      FractionText (Scan.digitsValue (digits.take 9) * 10 ^ (9 - digits.length))
        ('.' :: digits)

/-- A text is a time of day in digits. -/
inductive ClockText : Nat -> Nat -> Nat -> Nat -> List Char -> Prop where
  /-- The hour, the minute and the second have two digits each. -/
  | digits {hour minute second nano : Nat}
      {hourText minuteText secondText fractionText : List Char}
      (isHour : Numeral 2 hour hourText)
      (isMinute : Numeral 2 minute minuteText)
      (isSecond : Numeral 2 second secondText)
      (isFraction : FractionText nano fractionText) :
      ClockText hour minute second nano
        (hourText ++ ':' :: minuteText ++ ':' :: secondText ++ fractionText)

/-- The signs of zones, with the direction that each stands for. -/
def zoneSigns : List (Char × Int) :=
  [('+', 1), ('-', -1), ('−', -1)]

/-- A text is a zone with an offset in seconds east of Universal Time. -/
inductive ZoneText : Int -> List Char -> Prop where
  /-- The letter Z stands for Universal Time. -/
  | universal {c : Char} (letter : c = 'Z' ∨ c = 'z') : ZoneText 0 [c]
  /-- Behind a sign stand the hours and the minutes. -/
  | numeric {c : Char} {direction : Int} {hours minutes : Nat}
      {hourText minuteText : List Char}
      (sign : (c, direction) ∈ zoneSigns)
      (isHours : Numeral 2 hours hourText)
      (isMinutes : Numeral 2 minutes minuteText)
      (wholeMinutes : minutes < 60) :
      ZoneText (direction * (hours * 3600 + minutes * 60))
        (c :: hourText ++ ':' :: minuteText)

/-- A text of RFC 3339 denotes an instant. -/
inductive InternetText : Instant -> List Char -> Prop where
  /-- A date that exists, a time of day and a zone of less than a day follow
  each other. -/
  | dateTime {year month day hour minute second nano : Nat} {offset : Int}
      {separator : Char}
      {dateText clockText zoneText : List Char}
      (isDate : DateText year month day dateText)
      (valid : Date.isValid ⟨year, month, day⟩ = true)
      (separated : separator ∈ ['T', 't', ' '])
      (isClock : ClockText hour minute second nano clockText)
      (hourFits : hour < 24)
      (minuteFits : minute < 60)
      (secondFits : second ≤ 60)
      (isZone : ZoneText offset zoneText)
      (offsetFits : offset.natAbs < 86400) :
      InternetText
        ⟨Date.number ⟨year, month, day⟩ * 86400 +
          (hour * 3600 + minute * 60 + min second 59 : Nat) - offset,
          (if second = 60 then 1000000000 else 0) + nano⟩
        (dateText ++ separator :: clockText ++ zoneText)

/-! ## Scanners of the parts -/

section Parts

variable {text rest : List Char}

theorem scanStrictDate_eq_ok_iff
    {fields : Fields} :
    scanStrictDate text = .ok (fields, rest) ↔
      ∃ year month day dateText, DateText year month day dateText ∧
        (1 ≤ month ∧ month ≤ 12) ∧ (1 ≤ day ∧ day ≤ 31) ∧
        { Fields.none with
            year := some (year : Int), month := some month, day := some day } =
          fields ∧
        text = dateText ++ rest := by
  unfold scanStrictDate
  simp (disch := decide) only [Scan.bind_eq_ok_iff, Scan.lift_eq_ok_iff,
    Scan.number_eq_ok_iff, Scan.exactly_eq_ok_iff, Fields.setYear,
    Fields.setMonth, Fields.setDay,
    Outcome.ite_eq_ok_iff]
  constructor
  · rintro ⟨year, _, ⟨yearText, isYear, rfl⟩, _, _, ⟨⟨-, rfl⟩, rfl⟩, -, _,
      rfl, month, _,
      ⟨monthText, isMonth, rfl⟩, _, _, ⟨⟨isOfYear, rfl⟩, rfl⟩, -, _,
        rfl, day, _,
      ⟨dayText, isDay, rfl⟩, ⟨isOfMonth, rfl⟩, rfl⟩
    refine ⟨year, month, day, _, .digits isYear isMonth isDay, isOfYear,
      isOfMonth, rfl, ?_⟩
    simp only [List.append_assoc, List.cons_append]
  · rintro ⟨year, month, day, _, ⟨isYear, isMonth, isDay⟩, isOfYear,
        isOfMonth, rfl, rfl⟩
    have least := isYear.lt
    refine ⟨year, _, ⟨_, isYear, ?_⟩, _, _, ⟨⟨by omega, rfl⟩, rfl⟩, (), _,
      rfl, month, _, ⟨_, isMonth, rfl⟩, _, _, ⟨⟨isOfYear, rfl⟩, rfl⟩, (), _,
      rfl, day, _, ⟨_, isDay, rfl⟩,
      ⟨isOfMonth, rfl⟩, rfl⟩
    simp only [List.append_assoc, List.cons_append]

theorem dateTimeSeparator_eq_ok_iff
    {found : Unit} :
    dateTimeSeparator text = .ok (found, rest) ↔
      ∃ separator ∈ ['T', 't', ' '], text = separator :: rest := by
  cases text with
  | nil =>
      constructor
      · nofun
      · rintro ⟨separator, -, absurd⟩
        cases absurd
  | cons c left =>
      change (if c = 't' ∨ c = 'T' ∨
          c = ' ' then Scan.goOn left else Scan.fail .invalid)
        (c :: left) = _ ↔ _
      have same : c = 't' ∨ c = 'T' ∨ c = ' ' ↔ c ∈ ['T', 't', ' '] := by
        simp [or_left_comm]
      simp only [same]
      split
      · rename_i separates
        constructor
        · intro read
          cases read
          exact ⟨c, separates, rfl⟩
        · rintro ⟨separator, -, equal⟩
          cases equal
          rfl
      · rename_i separates
        constructor
        · nofun
        · rintro ⟨separator, isSeparator, equal⟩
          cases equal
          exact absurd isSeparator separates

/-! ## Fractions and zones -/

/-- Neither a digit nor a point stands at the front, so that a fraction before
it ends here. -/
def EndsFraction (rest : List Char) : Prop :=
  rest.takeWhile Char.isDigit = [] ∧ ∀ left, rest ≠ '.' :: left

/-- A fraction that was read stands in the text. -/
theorem exists_of_read_fraction
    {fields found : Fields}
    (unread : fields.nano = none)
    (read : PatternItem.read fields .fraction text = .ok (found, rest)) :
    ∃ given fractionText, FractionText (given.getD 0) fractionText ∧
      { fields with nano := given } = found ∧ text = fractionText ++ rest := by
  obtain ⟨_, left, split, read⟩ := Scan.bind_eq_ok_iff.mp read
  cases split
  split at read
  · rename_i digitsAndRest
    obtain ⟨_, _, split, read⟩ := Scan.bind_eq_ok_iff.mp read
    cases split
    obtain ⟨nano, _, scanned, read⟩ := Scan.bind_eq_ok_iff.mp read
    obtain ⟨digits, nonempty, all, -, rfl, rfl⟩ :=
      Scan.fraction_eq_ok_iff.mp scanned
    obtain ⟨rfl, rfl⟩ := Scan.pure_eq_ok_iff.mp read
    exact ⟨some _, _, .present nonempty all, rfl, rfl⟩
  · obtain ⟨rfl, rfl⟩ := Scan.pure_eq_ok_iff.mp read
    refine ⟨none, [], .absent, ?_, rfl⟩
    rw [← unread]

/-- A fraction in front of something else is read. -/
theorem exists_read_fraction
    {nano : Nat}
    {fractionText : List Char}
    (isFraction : FractionText nano fractionText)
    (ends : EndsFraction rest)
    {fields : Fields}
    (unread : fields.nano = none) :
    ∃ given : Option Nat, given.getD 0 = nano ∧
      PatternItem.read fields .fraction (fractionText ++ rest) =
        .ok ({ fields with nano := given }, rest) := by
  cases isFraction with
  | absent =>
      refine ⟨none, rfl, Scan.bind_eq_ok_iff.mpr ⟨rest, rest, rfl, ?_⟩⟩
      split
      · exact absurd rfl (ends.2 _)
      · refine Scan.pure_eq_ok_iff.mpr ⟨?_, rfl⟩
        rw [← unread]
  | present nonempty all =>
      refine ⟨some _, rfl, Scan.bind_eq_ok_iff.mpr ⟨_, _, rfl, ?_⟩⟩
      refine Scan.bind_eq_ok_iff.mpr ⟨(), _, rfl,
        Scan.bind_eq_ok_iff.mpr ⟨_, _, ?_, rfl⟩⟩
      exact Scan.fraction_append nonempty all ends.1

/-- A time of day that was read stands in the text. -/
theorem exists_of_scanStrictTime
    {fields found : Fields}
    (unread : fields.nano = none)
    (read : scanStrictTime fields text = .ok (found, rest)) :
    ∃ hour minute second given clockText,
        ClockText hour minute second (given.getD 0) clockText ∧
      hour < 24 ∧ minute < 60 ∧ second ≤ 60 ∧
      { fields with
        hour := some hour, minute := some minute, second := some second,
        nano := given } = found ∧
      text = clockText ++ rest := by
  unfold scanStrictTime at read
  simp (disch := decide) only [Scan.bind_eq_ok_iff, Scan.lift_eq_ok_iff,
    Scan.number_eq_ok_iff, Scan.exactly_eq_ok_iff, Fields.setHour,
    Fields.setMinute, Fields.setSecond,
    Outcome.ite_eq_ok_iff] at read
  obtain ⟨hour, _, ⟨hourText, isHour, rfl⟩, _, _, ⟨⟨hourFits, rfl⟩, rfl⟩, -,
    _, rfl,
    minute, _, ⟨minuteText, isMinute, rfl⟩, _, _, ⟨⟨minuteFits, rfl⟩, rfl⟩, -,
    _, rfl,
    second, _, ⟨secondText, isSecond, rfl⟩, _, _, ⟨⟨secondFits, rfl⟩, rfl⟩,
    read⟩ := read
  obtain ⟨given, fractionText, isFraction, rfl, rfl⟩ :=
    exists_of_read_fraction (by exact unread) read
  refine ⟨hour, minute, second, given, _,
    .digits isHour isMinute isSecond isFraction, hourFits, minuteFits,
    secondFits, rfl, ?_⟩
  simp only [List.append_assoc, List.cons_append]

/-- A time of day in front of something else is read. -/
theorem exists_scanStrictTime
    {hour minute second nano : Nat}
    {clockText : List Char}
    (isClock : ClockText hour minute second nano clockText)
    (hourFits : hour < 24)
    (minuteFits : minute < 60)
    (secondFits : second ≤ 60)
    (ends : EndsFraction rest)
    {fields : Fields}
    (unread : fields.nano = none) :
    ∃ given : Option Nat, given.getD 0 = nano ∧
      scanStrictTime fields (clockText ++ rest) =
        .ok ({ fields with
          hour := some hour, minute := some minute, second := some second,
          nano := given }, rest) := by
  obtain ⟨isHour, isMinute, isSecond, isFraction⟩ := isClock
  have stillUnread : Fields.nano
      { fields with
        hour := some hour, minute := some minute,
        second := some second } = none :=
    unread
  obtain ⟨given, value, read⟩ :=
    exists_read_fraction isFraction ends stillUnread
  refine ⟨given, value, ?_⟩
  unfold scanStrictTime
  simp (disch := decide) only [Scan.bind_eq_ok_iff, Scan.lift_eq_ok_iff,
    Scan.number_eq_ok_iff, Scan.exactly_eq_ok_iff, Fields.setHour,
    Fields.setMinute, Fields.setSecond,
    Outcome.ite_eq_ok_iff]
  refine ⟨hour, _, ⟨_, isHour, ?_⟩, _, _, ⟨⟨hourFits, rfl⟩, rfl⟩, (), _, rfl,
    minute, _, ⟨_, isMinute, rfl⟩, _, _, ⟨⟨minuteFits, rfl⟩, rfl⟩, (), _, rfl,
    second, _,
    ⟨_, isSecond, rfl⟩, _, _, ⟨⟨secondFits, rfl⟩, rfl⟩, read⟩
  simp only [List.append_assoc, List.cons_append]

/-- Nothing in a zone belongs to the fraction before it. -/
theorem ZoneText.endsFraction
    {offset : Int}
    (isZone : ZoneText offset text) :
    EndsFraction text := by
  cases isZone with
  | universal letter =>
      rcases letter with rfl | rfl
      all_goals exact ⟨rfl, fun left equal => nomatch equal⟩
  | numeric sign =>
      simp only [zoneSigns, List.mem_cons, Prod.mk.injEq, List.not_mem_nil,
        or_false] at sign
      rcases sign with ⟨rfl, -⟩ | ⟨rfl, -⟩ | ⟨rfl, -⟩
      all_goals
        refine ⟨List.takeWhile_cons_of_neg (by decide), fun left equal => ?_⟩
        cases equal

theorem zoneSign_eq_ok_iff
    {negative : Bool} :
    Scan.zoneSign true text = .ok (negative, rest) ↔
      ∃ c, (c, if negative then -1 else 1) ∈ zoneSigns ∧ text = c :: rest := by
  cases text with
  | nil => exact ⟨nofun, fun ⟨_, _, absurd⟩ => nomatch absurd⟩
  | cons c left =>
      simp only [zoneSigns, List.mem_cons, Prod.mk.injEq,
        List.not_mem_nil, or_false, List.cons.injEq]
      rw [Scan.zoneSign]
      simp only [and_true]
      by_cases plus : c = '+'
      · subst plus
        cases negative <;> simp
      · by_cases minus : c = '-' ∨ c = '−'
        · rw [if_neg plus, if_pos minus]
          cases negative <;> simp [plus, minus]
        · rw [if_neg plus, if_neg minus]
          cases negative <;> simp [plus, minus]

theorem zoneMinutes_eq_ok_iff
    {minutes : Nat} :
    Scan.zoneMinutes text = .ok (minutes, rest) ↔
      minutes < 60 ∧ ∃ digits, Numeral 2 minutes digits ∧
        text = digits ++ rest := by
  unfold Scan.zoneMinutes
  simp only [Scan.bind_eq_ok_iff, Scan.twoDigits_eq_ok_iff]
  constructor
  · rintro ⟨⟨tens, ones⟩, left, ⟨number, digits, numeral, same, rfl⟩, read⟩
    cases same
    dsimp only at read
    split at read
    · rename_i least
      obtain ⟨rfl, rfl⟩ := Scan.pure_eq_ok_iff.mp read
      have value : number / 10 * 10 + number % 10 = number := by omega
      rw [value]
      exact ⟨by omega, digits, numeral, rfl⟩
    · cases read
  · rintro ⟨less, digits, numeral, rfl⟩
    refine ⟨(minutes / 10, minutes % 10), rest,
      ⟨minutes, digits, numeral, rfl, rfl⟩, ?_⟩
    dsimp only
    have least : minutes / 10 ≤ 5 := by omega
    have value : minutes / 10 * 10 + minutes % 10 = minutes := by omega
    rw [if_pos least, value]
    rfl

/-- A numeric zone has a sign, hours and minutes. -/
theorem numericZone_eq_ok_iff
    {offset : Int} :
    Scan.numericZone strictZone text = .ok (offset, rest) ↔
      ∃ c direction hours minutes hourText minuteText,
          (c, direction) ∈ zoneSigns ∧
        Numeral 2 hours hourText ∧ Numeral 2 minutes minuteText ∧ minutes < 60 ∧
        direction * ((hours : Int) * 3600 + minutes * 60) = offset ∧
        text = c :: hourText ++ ':' :: minuteText ++ rest := by
  unfold Scan.numericZone
  simp only [strictZone, Scan.bind_eq_ok_iff, zoneSign_eq_ok_iff,
    Scan.twoDigits_eq_ok_iff, Scan.exactly_eq_ok_iff, zoneMinutes_eq_ok_iff,
    Scan.pure_eq_ok_iff]
  constructor
  · rintro ⟨negative, _, ⟨c, sign, rfl⟩, _, _,
      ⟨hours, hourText, isHours, rfl, rfl⟩, _, _, rfl,
      minutes, _, ⟨less, minuteText, isMinutes, rfl⟩, rfl, rfl⟩
    refine ⟨c, _, hours, minutes, hourText, minuteText, sign, isHours,
      isMinutes, less, ?_, ?_⟩
    · have value : hours / 10 * 10 + hours % 10 = hours := by omega
      rw [value]
      cases negative <;> simp
    · simp only [List.append_assoc, List.cons_append]
  · rintro ⟨c, direction, hours, minutes, hourText, minuteText, sign, isHours,
      isMinutes, less,
      rfl, rfl⟩
    have isDirection : ∃ negative : Bool,
        (if negative then -1 else 1) = direction := by
      simp only [zoneSigns, List.mem_cons, Prod.mk.injEq, List.not_mem_nil,
        or_false] at sign
      rcases sign with ⟨-, rfl⟩ | ⟨-, rfl⟩ | ⟨-, rfl⟩
      · exact ⟨false, rfl⟩
      · exact ⟨true, rfl⟩
      · exact ⟨true, rfl⟩
    obtain ⟨negative, rfl⟩ := isDirection
    refine ⟨negative, hourText ++ ':' :: (minuteText ++ rest), ⟨c, sign, ?_⟩,
      (hours / 10, hours % 10), _, ⟨hours, hourText, isHours, rfl, rfl⟩, (), _,
        rfl, minutes, rest,
      ⟨less, minuteText, isMinutes, rfl⟩, ?_, rfl⟩
    · simp only [List.append_assoc, List.cons_append]
    · have value : hours / 10 * 10 + hours % 10 = hours := by omega
      rw [value]
      cases negative <;> simp

theorem zone_cons
    (c : Char)
    (left : List Char) :
    Scan.zone strictZone (c :: left) =
      if c = 'Z' ∨ c = 'z' then .ok (0, left)
        else Scan.numericZone strictZone (c :: left) := by
  change (if (true && (c == 'Z' || c == 'z')) =
      true then _ else Scan.numericZone strictZone :
    Scan Int) (c :: left) = _
  simp only [Bool.true_and, Bool.or_eq_true, beq_iff_eq]
  split <;> rfl

/-- The strict form takes the zones of the grammar. -/
theorem zone_eq_ok_iff
    {offset : Int} :
    Scan.zone strictZone text = .ok (offset, rest) ↔
      ∃ zoneText, ZoneText offset zoneText ∧ text = zoneText ++ rest := by
  constructor
  · intro read
    cases text with
    | nil => cases read
    | cons c left =>
        rw [zone_cons] at read
        split at read
        · rename_i letter
          cases read
          exact ⟨[c], .universal letter, rfl⟩
        · obtain ⟨_, _, _, _, _, _, sign, isHours, isMinutes, less,
              rfl, split⟩ :=
            numericZone_eq_ok_iff.mp read
          exact ⟨_, .numeric sign isHours isMinutes less, split⟩
  · rintro ⟨_, ⟨letter⟩ | ⟨sign, isHours, isMinutes, less⟩, rfl⟩
    · exact (zone_cons _ rest).trans (if_pos letter)
    · have noLetter : ∀ signed ∈ zoneSigns,
          ¬ (signed.1 = 'Z' ∨ signed.1 = 'z') := by
        decide
      refine (zone_cons _ _).trans ((if_neg (noLetter _ sign)).trans ?_)
      exact numericZone_eq_ok_iff.mpr ⟨_, _, _, _, _, _, sign, isHours,
        isMinutes, less, rfl, rfl⟩

end Parts

/-! ## The instant of some parts -/

theorem daysInMonth_le
    (year : Int)
    (month : Nat) :
    daysInMonth year month ≤ 31 := by
  unfold daysInMonth
  split
  case h_12 => split <;> decide
  all_goals decide

theorem DateText.year_lt
    {year month day : Nat}
    {text : List Char}
    (isDate : DateText year month day text) :
    year < 10000 := by
  obtain ⟨isYear, -, -⟩ := isDate
  exact isYear.lt

theorem day_le_of_isValid
    {date : Date}
    (valid : date.isValid = true) :
    1 ≤ date.day ∧ date.day ≤ 31 := by
  have atMost := daysInMonth_le date.year date.month
  simp only [Date.isValid, Bool.and_eq_true, decide_eq_true_eq] at valid
  omega

theorem month_le_of_isValid
    {date : Date}
    (valid : date.isValid = true) :
    1 ≤ date.month ∧ date.month ≤ 12 := by
  simp only [Date.isValid, Bool.and_eq_true, decide_eq_true_eq] at valid
  by_contra outside
  have noDays : daysInMonth date.year date.month = 0 := by
    unfold daysInMonth
    split <;> first | rfl | omega
  omega

/-- The days of a year before a month are at most 31 for each month before
it. -/
theorem monthStart_le
    (year : Int)
    (month : Nat) :
    monthStart year month ≤ 31 * (month - 1) := by
  unfold monthStart
  generalize month - 1 = count
  induction count with
  | zero => exact Nat.le_refl 0
  | succ count inductionHypothesis =>
      have last := daysInMonth_le year (count + 1)
      rw [List.range_succ, List.map_append, List.foldl_append]
      change _ + daysInMonth year (count + 1) ≤ _
      omega

/-- A day lies in a year of its 400 years. -/
theorem yearOf_bounds
    (number : Int) :
    400 * ((number + 719162) / 146097) + 1 ≤ Date.yearOf number ∧
      Date.yearOf number ≤ 400 * ((number + 719162) / 146097) + 400 := by
  have start : number - yearStart 1 = number + 719162 := by
    have first : yearStart 1 = -719162 := rfl
    omega
  unfold Date.yearOf
  rw [start]
  dsimp only
  have later := List.countP_le_length (l := List.range 399)
    (p := fun index : Nat =>
      yearStart (400 * ((number + 719162) / 146097) + 1 + index + 1) ≤ number)
  rw [List.length_range] at later
  omega

/-- Dates of four-digit years stay within the calendar in every zone. -/
theorem year_within_calendar
    {year month day second : Nat}
    {offset : Int}
    (yearFits : year < 10000)
    (valid : Date.isValid ⟨year, month, day⟩ = true)
    (secondFits : second < 86400)
    (offsetFits : offset.natAbs < 86400)
    (nano : Nat) :
    firstYear ≤
        (Instant.date ⟨Date.number ⟨year, month, day⟩ * 86400 + second - offset,
          nano⟩).year ∧
      (Instant.date ⟨Date.number ⟨year, month, day⟩ * 86400 + second - offset,
          nano⟩).year ≤
        lastYear := by
  have months : 1 ≤ month ∧ month ≤ 12 := month_le_of_isValid valid
  have before := monthStart_le year month
  have days := daysInMonth_le year month
  have bounds :=
    yearOf_bounds
      ((Date.number ⟨year, month, day⟩ * 86400 + second - offset) / 86400)
  simp only [Date.isValid, Bool.and_eq_true, decide_eq_true_eq] at valid
  change -262143 ≤ Date.yearOf _ ∧ Date.yearOf _ ≤ 262142
  simp only [Date.number, yearStart] at bounds ⊢
  omega

section Instants

variable {year month day hour minute second : Nat} {given : Option Nat}
  {offset : Int}

theorem date_of_parts
    (yearFits : year < 10000) :
    Fields.date ⟨some (year : Int), none, some month, some day, none, some hour,
        some minute,
        some second, given, some offset⟩ =
      if Date.isValid ⟨year, month, day⟩ = true then .ok ⟨year, month, day⟩
      else .error .outOfRange := by
  have within : (firstYear ≤ (year : Int) && (year : Int) ≤ lastYear) =
      true := by
    simp only [Bool.and_eq_true, decide_eq_true_eq]
    unfold firstYear lastYear
    omega
  change (if (!((firstYear ≤ (year : Int) && (year : Int) ≤ lastYear) &&
    Date.isValid ⟨year, month, day⟩)) = true then _ else _) = _
  rw [within, Bool.true_and]
  cases Date.isValid ⟨year, month, day⟩ <;> rfl

/-- The parts of the strict form denote an instant if the date exists. -/
theorem instant_eq_ok_iff
    {instant : Instant}
    (yearFits : year < 10000)
    (hourFits : hour < 24)
    (minuteFits : minute < 60)
    (offsetFits : offset.natAbs < 86400) :
    Fields.instant ⟨some (year : Int), none, some month, some day, none,
        some hour, some minute,
        some second, given, some offset⟩ = .ok instant ↔
      Date.isValid ⟨year, month, day⟩ = true ∧
        ⟨Date.number ⟨year, month, day⟩ * 86400 +
          (hour * 3600 + minute * 60 + min second 59 : Nat) - offset,
          (if second = 60 then 1000000000 else 0) + given.getD 0⟩ =
            instant := by
  unfold Fields.instant Fields.instantAt
  rw [date_of_parts yearFits]
  by_cases valid : Date.isValid ⟨year, month, day⟩ = true
  · have secondOfDayFits : hour * 3600 + minute * 60 + min second 59 <
        86400 := by omega
    have within :=
      year_within_calendar yearFits valid secondOfDayFits offsetFits
      ((if second = 60 then 1000000000 else 0) + given.getD 0)
    rw [if_pos valid, and_iff_right valid]
    change (if 86400 ≤ offset.natAbs then _ else _) = _ ↔ _
    rw [if_neg (Nat.not_le_of_lt offsetFits)]
    simp only [Option.getD_some, Instant.shift, Int.sub_zero,
      ← Int.sub_eq_add_neg]
    rw [if_pos within, Except.ok.injEq]
  · rw [if_neg valid]
    exact ⟨nofun, fun both => absurd both.1 valid⟩

end Instants

/-! ## Texts and instants -/

/-- The scanner reads date, time of day and zone, and notes them all. -/
theorem exists_of_scanStrict
    {text rest : List Char}
    {fields : Fields}
    (read : scanStrict text = .ok (fields, rest)) :
    ∃ year month day hour minute second given offset dateText separator
        clockText zoneText,
      DateText year month day dateText ∧ separator ∈ ['T', 't', ' '] ∧
      ClockText hour minute second (given.getD 0) clockText ∧
      hour < 24 ∧ minute < 60 ∧ second ≤ 60 ∧
      ZoneText offset zoneText ∧ offset.natAbs < 86400 ∧
      ⟨some (year : Int), none, some month, some day, none, some hour,
        some minute, some second, given, some offset⟩ = fields ∧
      text = dateText ++ separator :: clockText ++ zoneText ++ rest := by
  unfold scanStrict at read
  simp only [Scan.bind_eq_ok_iff, scanStrictDate_eq_ok_iff,
    dateTimeSeparator_eq_ok_iff, zone_eq_ok_iff] at read
  obtain ⟨_, _, ⟨year, month, day, dateText, isDate, -, -, rfl, rfl⟩, -, _,
    ⟨separator, separates, rfl⟩, _, _, timeRead, offset, _,
      ⟨zoneText, isZone, rfl⟩, read⟩ := read
  obtain ⟨hour, minute, second, given, clockText, isClock, hourFits, minuteFits,
    secondFits, rfl,
    rfl⟩ := exists_of_scanStrictTime rfl timeRead
  split at read
  · cases read
  · rename_i offsetFits
    obtain ⟨rfl, rfl⟩ := Scan.pure_eq_ok_iff.mp read
    refine ⟨year, month, day, hour, minute, second, given, offset, dateText,
      separator, clockText, zoneText, isDate, separates, isClock, hourFits,
      minuteFits, secondFits, isZone,
      Nat.lt_of_not_le offsetFits, rfl, ?_⟩
    simp only [List.append_assoc, List.cons_append]

/-- A date that may exist is read with its time of day and its zone. -/
theorem exists_scanStrict
    {year month day hour minute second nano : Nat}
    {offset : Int}
    {separator : Char}
    {dateText clockText zoneText : List Char}
    (isDate : DateText year month day dateText)
    (monthFits : 1 ≤ month ∧ month ≤ 12)
    (dayFits : 1 ≤ day ∧ day ≤ 31)
    (separates : separator ∈ ['T', 't', ' '])
    (isClock : ClockText hour minute second nano clockText)
    (hourFits : hour < 24)
    (minuteFits : minute < 60)
    (secondFits : second ≤ 60)
    (isZone : ZoneText offset zoneText)
    (offsetFits : offset.natAbs < 86400) :
    ∃ given : Option Nat, given.getD 0 = nano ∧
      scanStrict (dateText ++ separator :: clockText ++ zoneText) =
        .ok (⟨some (year : Int), none, some month, some day, none, some hour,
          some minute,
          some second, given, some offset⟩, []) := by
  have unread : Fields.nano { Fields.none with
      year := some (year : Int), month := some month, day := some day } =
        none := rfl
  obtain ⟨given, value, timeRead⟩ :=
    exists_scanStrictTime isClock hourFits minuteFits secondFits
    isZone.endsFraction unread
  refine ⟨given, value, ?_⟩
  unfold scanStrict
  simp only [Scan.bind_eq_ok_iff, scanStrictDate_eq_ok_iff,
    dateTimeSeparator_eq_ok_iff, zone_eq_ok_iff]
  refine ⟨_, _, ⟨year, month, day, dateText, isDate, monthFits, dayFits, rfl,
      ?_⟩, (), _,
    ⟨separator, separates, rfl⟩, _, _, timeRead, offset, [],
    ⟨zoneText, isZone, (List.append_nil zoneText).symm⟩, ?_⟩
  · simp only [List.append_assoc, List.cons_append]
  · rw [if_neg (Nat.not_le_of_lt offsetFits)]
    rfl

/-- The strict form reads the texts of the grammar, as the instants that they
denote. -/
theorem ofInternet_eq_ok_iff
    {text : List Char}
    {instant : Instant} :
    ofInternet text = .ok instant ↔ InternetText instant text := by
  constructor
  · intro decoded
    obtain ⟨⟨fields, rest⟩, scanned, read⟩ :=
      Outcome.exists_of_bind_eq_ok decoded
    cases rest with
    | cons c left => cases read
    | nil =>
        obtain ⟨year, month, day, hour, minute, second, given, offset, dateText,
          separator,
          clockText, zoneText, isDate, separates, isClock, hourFits, minuteFits,
            secondFits,
          isZone, offsetFits, rfl, rfl⟩ := exists_of_scanStrict scanned
        obtain ⟨valid, rfl⟩ :=
          (instant_eq_ok_iff isDate.year_lt hourFits minuteFits
            offsetFits).mp read
        rw [List.append_nil]
        exact .dateTime isDate valid separates isClock hourFits minuteFits
            secondFits isZone
          offsetFits
  · rintro ⟨isDate, valid, separates, isClock, hourFits, minuteFits, secondFits,
        isZone, offsetFits⟩
    obtain ⟨given, rfl, scanned⟩ :=
      exists_scanStrict isDate (month_le_of_isValid valid)
      (day_le_of_isValid valid) separates isClock hourFits minuteFits secondFits
        isZone offsetFits
    unfold ofInternet scanAll
    rw [scanned]
    exact (instant_eq_ok_iff isDate.year_lt hourFits minuteFits offsetFits).mpr
      ⟨valid, rfl⟩

end Calendar
end MailSearch
