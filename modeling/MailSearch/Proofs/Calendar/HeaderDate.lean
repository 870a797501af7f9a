import MailSearch.Proofs.Calendar.Internet

/-!
# Dates of mail headers

The date of a header in the parts of which it is written, and the instant that
they denote.  A year may be written with two digits; its century then follows
from a pivot, the first year that belongs to the last century.  The reader of
mail dates takes 50 for it.
-/

namespace MailSearch
namespace Calendar

/-! ## Parts of a date -/

/-- A time of day to the second. -/
structure Clock where
  /-- The hour. -/
  hour : Nat
  /-- The minute of the hour. -/
  minute : Nat
  /-- The second of the minute. -/
  second : Nat
  /-- The day has 24 hours. -/
  hourFits : hour < 24
  /-- The hour has 60 minutes. -/
  minuteFits : minute < 60
  /-- The minute has 60 seconds. -/
  secondFits : second < 60

namespace Clock

/-- The time in the form `10:00:00`. -/
def text (clock : Clock) : List Char :=
  padded 2 clock.hour ++ ':' ::
    (padded 2 clock.minute ++ ':' :: padded 2 clock.second)

/-- The second of the day. -/
def secondOfDay (clock : Clock) : Nat :=
  clock.hour * 3600 + clock.minute * 60 + clock.second

theorem secondOfDay_lt
    (clock : Clock) :
    clock.secondOfDay < 86400 := by
  have hourFits := clock.hourFits
  have minuteFits := clock.minuteFits
  have secondFits := clock.secondFits
  unfold secondOfDay
  omega

end Clock

/-- A zone in hours and minutes, less than a day away from Universal Time. -/
structure HeaderZone where
  /-- Whether the zone lies west, so that it is written with a minus sign. -/
  west : Bool
  /-- The hours. -/
  hours : Nat
  /-- The minutes of the hour. -/
  minutes : Nat
  /-- The zone is less than a day away. -/
  hoursFit : hours < 24
  /-- The hour has 60 minutes. -/
  minutesFit : minutes < 60

namespace HeaderZone

/-- The zone in the form `+0000`. -/
def text (zone : HeaderZone) : List Char :=
  (if zone.west then '-' else '+') ::
    (padded 2 zone.hours ++ padded 2 zone.minutes)

/-- The offset in seconds east of Universal Time. -/
def offset (zone : HeaderZone) : Int :=
  if zone.west then -((zone.hours : Int) * 3600 + zone.minutes * 60)
  else (zone.hours : Int) * 3600 + zone.minutes * 60

theorem natAbs_offset_lt
    (zone : HeaderZone) :
    zone.offset.natAbs < 86400 := by
  have hoursFit := zone.hoursFit
  have minutesFit := zone.minutesFit
  unfold offset
  split <;> omega

end HeaderZone

/-- A year as it is written in a header. -/
inductive HeaderYear where
  /-- The last two digits of the year. -/
  | short (year : Nat) (twoDigits : year < 100)
  /-- All four digits of the year. -/
  | full (year : Nat) (fourDigits : year < 10000)

namespace HeaderYear

/-- The digits of the year. -/
def text : HeaderYear -> List Char
  | .short year _ => padded 2 year
  | .full year _ => padded 4 year

/-- The year, if those of two digits begin with the pivot in the last
century. -/
def value (pivot : Nat) : HeaderYear -> Nat
  | .short year _ => if year < pivot then 2000 + year else 1900 + year
  | .full year _ => year

theorem value_lt
    (pivot : Nat)
    (year : HeaderYear) :
    year.value pivot < 10000 := by
  cases year with
  | short year twoDigits =>
      unfold value
      dsimp only
      split <;> omega
  | full year fourDigits => exact fourDigits

/-- The mail reader takes the year by the number of its digits. -/
theorem exists_numeral
    (year : HeaderYear) :
    ∃ width number, 2 ≤ width ∧ width ≤ 4 ∧ Numeral width number year.text ∧
      mailYear width number = year.value 50 := by
  cases year with
  | short year twoDigits =>
      exact ⟨2, year, by decide, by decide,
        numeral_of_lt twoDigits (by decide), rfl⟩
  | full year fourDigits =>
      exact ⟨4, year, by decide, by decide,
        numeral_of_lt fourDigits (by decide), rfl⟩

theorem solid
    (year : HeaderYear) :
    Text.Solid year.text := by
  obtain ⟨width, number, atLeast, -, isYear, -⟩ := year.exists_numeral
  exact isYear.solid (by omega)

end HeaderYear

/-- The shortened name of a month in its usual spelling. -/
def monthName (month : Nat) : List Char :=
  ((monthNames[month - 1]?).getD "").toList

/-- The shortened name of a day of the week in its usual spelling. -/
def weekdayName (weekday : Nat) : List Char :=
  ((weekdayNames[weekday]?).getD "").toList

/-- A text is a day of the month in one or two digits. -/
def DayText (day : Nat) (text : List Char) : Prop :=
  ∃ width, 1 ≤ width ∧ width ≤ 2 ∧ Numeral width day text

/-- A text is the shortened name of a month in any letter case. -/
def MonthText (month : Nat) (text : List Char) : Prop :=
  text.map Char.toLower = (monthName month).map Char.toLower

/-- A date, a time of day and a zone that may stand in a header. -/
structure HeaderDate where
  /-- The year as it is written. -/
  year : HeaderYear
  /-- The month. -/
  month : Nat
  /-- The day of the month. -/
  day : Nat
  /-- The time of day. -/
  clock : Clock
  /-- The zone. -/
  zone : HeaderZone
  /-- The date exists. -/
  valid : Date.isValid ⟨year.value 50, month, day⟩ = true

namespace HeaderDate

/-- The day on which the date falls, if short years begin with the pivot in the
last century. -/
def date (pivot : Nat) (header : HeaderDate) : Date :=
  ⟨header.year.value pivot, header.month, header.day⟩

/-- The instant that the date denotes. -/
def instant (pivot : Nat) (header : HeaderDate) : Instant :=
  ⟨(header.date pivot).number * 86400 + header.clock.secondOfDay -
    header.zone.offset, 0⟩

/-- The parts of the date, as they are noted with a year and a day of the
week. -/
def fields (header : HeaderDate) (year : Option Int)
    (shortYear weekday : Option Nat) : Fields :=
  ⟨year, shortYear, some header.month, some header.day, weekday,
    some header.clock.hour, some header.clock.minute, some header.clock.second,
    none, some header.zone.offset⟩

/-- The date with its day and its month as they are written, and a mark between
them. -/
def text (header : HeaderDate) (mark : Char) (dayText monthText : List Char) :
    List Char :=
  dayText ++ mark :: (monthText ++ mark :: (header.year.text ++
    ' ' :: (header.clock.text ++ ' ' :: header.zone.text)))

end HeaderDate

/-! ## Names -/

/-- The names of the months are told apart in any letter case, and they have
three letters. -/
theorem monthName_spec :
    ∀ index < 12, ((monthName (index + 1)).map Char.toLower).length = 3 ∧
      (∀ c ∈ (monthName (index + 1)).map Char.toLower, c.isAlpha = true) ∧
      (monthNames.findIdx? fun name =>
        name.toList.map Char.toLower ==
          (monthName (index + 1)).map Char.toLower) = some index := by
  decide

/-- The names of the days of the week are told apart in any letter case. -/
theorem weekdayName_spec :
    ∀ weekday < 7, (weekdayName weekday).length = 3 ∧
      (∀ c ∈ weekdayName weekday, c.isAlpha = true) ∧
      (weekdayNames.findIdx? fun name =>
        name.toList.map Char.toLower ==
          (weekdayName weekday).map Char.toLower) = some weekday := by
  decide

theorem weekdayName_solid
    {weekday : Nat}
    (inWeek : weekday < 7) :
    Text.Solid (weekdayName weekday) := by
  obtain ⟨three, letters, -⟩ := weekdayName_spec weekday inWeek
  refine .of_isAlphanum ?_ fun c isChar =>
    Bool.or_eq_true_iff.mpr (.inl (letters c isChar))
  intro none
  rw [none] at three
  cases three

namespace MonthText

variable {month : Nat} {text : List Char}

theorem name_append
    (isMonth : MonthText month text)
    (inYear : 1 ≤ month ∧ month ≤ 12)
    (rest : List Char) :
    Scan.name monthNames (text ++ rest) = .ok (month - 1, rest) := by
  have same : month - 1 + 1 = month := by omega
  obtain ⟨three, -, isPlace⟩ := monthName_spec (month - 1) (by omega)
  rw [same, ← isMonth] at three isPlace
  rw [List.length_map] at three
  exact Scan.name_append three isPlace rest

theorem length_eq
    (isMonth : MonthText month text)
    (inYear : 1 ≤ month ∧ month ≤ 12) :
    text.length = 3 := by
  have same : month - 1 + 1 = month := by omega
  obtain ⟨three, -, -⟩ := monthName_spec (month - 1) (by omega)
  rwa [same, ← isMonth, List.length_map] at three

theorem isAlpha
    (isMonth : MonthText month text)
    (inYear : 1 ≤ month ∧ month ≤ 12) :
    ∀ c ∈ text, c.isAlpha = true := by
  have same : month - 1 + 1 = month := by omega
  obtain ⟨-, letters, -⟩ := monthName_spec (month - 1) (by omega)
  rw [same, ← isMonth] at letters
  intro c isChar
  have letter := letters _ (List.mem_map_of_mem isChar)
  by_contra notLetter
  rw [Bool.not_eq_true] at notLetter
  rw [Scan.toLower_of_not_isAlpha notLetter, notLetter] at letter
  cases letter

theorem solid
    (isMonth : MonthText month text)
    (inYear : 1 ≤ month ∧ month ≤ 12) :
    Text.Solid text := by
  refine .of_isAlphanum ?_ fun c isChar =>
    Bool.or_eq_true_iff.mpr (.inl (isMonth.isAlpha inYear c isChar))
  rintro rfl
  have three := isMonth.length_eq inYear
  cases three

end MonthText

/-! ## Zones -/

namespace HeaderZone

/-- A zone is read in every style that takes digits for minutes. -/
theorem zone_append
    (style : Scan.ZoneStyle)
    (noLetter : style.letterZ = false)
    (separates : ∀ c rest, c.isDigit = true →
      style.separator (c :: rest) = .ok ((), c :: rest))
    (zone : HeaderZone)
    (rest : List Char) :
    Scan.zone style (zone.text ++ rest) = .ok (zone.offset, rest) := by
  have isHours : Numeral 2 zone.hours (padded 2 zone.hours) :=
    numeral_of_lt (Nat.lt_trans zone.hoursFit (by decide)) (by decide)
  have isMinutes : Numeral 2 zone.minutes (padded 2 zone.minutes) :=
    numeral_of_lt (Nat.lt_trans zone.minutesFit (by decide)) (by decide)
  obtain ⟨c, later, split⟩ :=
    List.exists_cons_of_ne_nil (isMinutes.solid (by decide)).nonempty
  have digit : c.isDigit = true :=
    isMinutes.digits c (split ▸ List.mem_cons_self)
  have noZone : Scan.zone style (zone.text ++ rest) =
      Scan.numericZone style (zone.text ++ rest) := by
    rw [Scan.zone,
      Scan.bind_of_ok (rfl : Scan.rest _ =
        .ok (zone.text ++ rest, zone.text ++ rest))]
    simp only [text, List.cons_append, noLetter, Bool.false_and]
    rfl
  rw [noZone, Scan.numericZone, text, List.cons_append, List.append_assoc]
  have sign : Scan.zoneSign style.typographicMinus
      ((if zone.west then '-' else '+') ::
          (padded 2 zone.hours ++ (padded 2 zone.minutes ++ rest))) =
        .ok (zone.west,
          padded 2 zone.hours ++ (padded 2 zone.minutes ++ rest)) := by
    cases zone.west <;> rfl
  have hours :
      Scan.twoDigits (padded 2 zone.hours ++ (padded 2 zone.minutes ++ rest)) =
      .ok ((zone.hours / 10, zone.hours % 10), padded 2 zone.minutes ++ rest) :=
    Scan.twoDigits_eq_ok_iff.mpr ⟨zone.hours, _, isHours, rfl, rfl⟩
  have between : style.separator (padded 2 zone.minutes ++ rest) =
      .ok ((), padded 2 zone.minutes ++ rest) := by
    rw [split]
    exact separates c _ digit
  have minutes : Scan.zoneMinutes (padded 2 zone.minutes ++ rest) =
      .ok (zone.minutes, rest) :=
    zoneMinutes_eq_ok_iff.mpr ⟨zone.minutesFit, _, isMinutes, rfl⟩
  rw [Scan.bind_of_ok sign, Scan.bind_of_ok hours]
  dsimp only
  have value : zone.hours / 10 * 10 + zone.hours % 10 = zone.hours := by omega
  rw [Scan.bind_of_ok between, Scan.bind_of_ok minutes, value, offset]
  rfl

end HeaderZone

/-! ## The day of the week -/

/-- The day of the week in front of a date, if it is written. -/
def weekdayText : Option (Fin 7) -> List Char
  | none => []
  | some weekday => weekdayName weekday ++ [',', ' ']

/-- A day of the week is noted, and what follows it and begins with a digit is
left. -/
theorem scanWeekday_append
    (weekday : Option (Fin 7))
    {c : Char}
    (digit : c.isDigit = true)
    (rest : List Char) :
    ∃ left, Scan.skipBlanks (weekdayText weekday ++ c :: rest) =
        .ok ((), weekdayText weekday ++ c :: rest) ∧
      scanWeekday (weekdayText weekday ++ c :: rest) =
        .ok (weekday.map Fin.val, left) ∧
      Scan.skipBlanks left = .ok ((), c :: rest) := by
  have solid : Text.Solid [c] := .of_isAlphanum (List.cons_ne_nil c [])
    (List.forall_mem_singleton.mpr (Bool.or_eq_true_iff.mpr (.inr digit)))
  have skipped := Scan.skipBlanks_append solid rest
  cases weekday with
  | none =>
      have fails : Scan.Fails (Scan.name weekdayNames) (c :: rest) :=
        Scan.name_fails (by decide) (Scan.not_isAlpha_of_isDigit digit) rest
      refine ⟨c :: rest, skipped, ?_, skipped⟩
      rw [weekdayText, List.nil_append, scanWeekday]
      cases found : Scan.name weekdayNames (c :: rest) with
      | error error => rfl
      | ok read => exact absurd found (fails read)
  | some weekday =>
      obtain ⟨three, -, isPlace⟩ := weekdayName_spec weekday weekday.isLt
      refine ⟨' ' :: c :: rest, ?_, ?_, skipped⟩
      · rw [weekdayText, List.append_assoc]
        exact Scan.skipBlanks_append (weekdayName_solid weekday.isLt) _
      · rw [weekdayText, List.append_assoc, scanWeekday,
          Scan.name_append three isPlace]
        rfl

/-! ## The mail form -/

namespace Clock

variable (clock : Clock)

theorem numerals :
    Numeral 2 clock.hour (padded 2 clock.hour) ∧
      Numeral 2 clock.minute (padded 2 clock.minute) ∧
      Numeral 2 clock.second (padded 2 clock.second) :=
  ⟨numeral_of_lt (Nat.lt_trans clock.hourFits (by decide)) (by decide),
    numeral_of_lt (Nat.lt_trans clock.minuteFits (by decide)) (by decide),
    numeral_of_lt (Nat.lt_trans clock.secondFits (by decide)) (by decide)⟩

theorem scanSeconds_append
    (fields : Fields)
    (rest : List Char) :
    scanSeconds fields (':' :: (padded 2 clock.second ++ rest)) =
      .ok ({ fields with second := some clock.second }, rest) := by
  have read : Scan.number 2 (some 2) (padded 2 clock.second ++ rest) =
      .ok (clock.second, rest) :=
    (Scan.number_eq_ok_iff (by decide)).mpr ⟨_, clock.numerals.2.2, rfl⟩
  have noted : fields.setSecond clock.second =
      .ok { fields with second := some clock.second } :=
    if_pos (Nat.le_of_lt clock.secondFits)
  unfold scanSeconds
  refine Scan.bind_eq_ok_iff.mpr ⟨_, _, rfl, ?_⟩
  have trimmed : Text.trimFront (':' :: (padded 2 clock.second ++ rest)) =
      ':' :: (padded 2 clock.second ++ rest) := rfl
  rw [trimmed]
  simp only [Scan.bind_eq_ok_iff, Scan.lift_eq_ok_iff]
  exact ⟨(), _, rfl, clock.second, rest, read, noted, rfl⟩

end Clock

namespace HeaderZone

variable (zone : HeaderZone)

theorem solid :
    Text.Solid zone.text := by
  have sign : Text.Solid [if zone.west then '-' else '+'] := by
    refine ⟨List.cons_ne_nil _ _, List.forall_mem_singleton.mpr ?_⟩
    cases zone.west <;> rfl
  have digits : ∀ number, Text.Solid (padded 2 number) := fun number =>
    (numeral_padded 2 number).solid (by omega)
  exact sign.append ((digits zone.hours).append (digits zone.minutes))

/-- A numeric zone is no name, and it is read to the end. -/
theorem mailZone_text :
    Scan.mailZone zone.text = .ok (zone.offset, []) := by
  have noLetters : zone.text.takeWhile Char.isAlpha = [] := by
    rw [text]
    cases zone.west <;> rfl
  have read :=
    zone_append ⟨pure (), false, false⟩ rfl (fun _ _ _ => rfl) zone []
  rw [List.append_nil] at read
  unfold Scan.mailZone
  refine Scan.bind_eq_ok_iff.mpr ⟨_, _, rfl, ?_⟩
  rw [noLetters]
  exact read

end HeaderZone

namespace HeaderDate

variable (header : HeaderDate)

theorem month_inYear : 1 ≤ header.month ∧ header.month ≤ 12 :=
  month_le_of_isValid header.valid

theorem exists_cons
    {dayText : List Char}
    (isDay : DayText header.day dayText)
    (mark : Char)
    (monthText : List Char) :
    ∃ first rest, header.text mark dayText monthText = first :: rest ∧
      first.isDigit = true := by
  obtain ⟨width, one, -, isDay⟩ := isDay
  obtain ⟨first, later, rfl⟩ :=
    List.exists_cons_of_ne_nil (isDay.solid one).nonempty
  exact ⟨first, _, rfl, isDay.digits first List.mem_cons_self⟩

/-- The year is noted by the number of its digits, that is by what is left
behind it. -/
theorem setYear_mailYear
    {width year : Nat}
    (isYear : Numeral width year header.year.text)
    (isValue : mailYear width year = header.year.value 50)
    (fields : Fields)
    (rest : List Char) :
    fields.setYear
        (mailYear ((header.year.text ++ rest).length - rest.length) year) =
      .ok { fields with year := some (header.year.value 50 : Int) } := by
  have yearFits := header.year.value_lt 50
  rw [List.length_append, isYear.length_eq, Nat.add_sub_cancel, isValue]
  exact if_pos (by omega)

/-- The scanner of the mail form notes all parts of a date. -/
theorem scanMail_text
    (weekday : Option (Fin 7))
    {dayText monthText : List Char}
    (isDay : DayText header.day dayText)
    (isMonth : MonthText header.month monthText) :
    scanMail (weekdayText weekday ++ header.text ' ' dayText monthText) =
      .ok (header.fields (some (header.year.value 50 : Int)) none
        (weekday.map Fin.val), []) := by
  obtain ⟨first, later, split, digit⟩ := header.exists_cons isDay ' ' monthText
  obtain ⟨left, front, isWeekday, behind⟩ :=
    scanWeekday_append weekday digit later
  rw [← split] at front isWeekday behind
  obtain ⟨dayWidth, one, two, isDay⟩ := isDay
  obtain ⟨yearWidth, year, atLeast, atMost, isYear, isValue⟩ :=
    header.year.exists_numeral
  obtain ⟨isHour, isMinute, -⟩ := header.clock.numerals
  have monthFits := header.month_inYear
  have monthPlace : header.month - 1 + 1 = header.month := by omega
  have written : header.text ' ' dayText monthText =
      dayText ++ ' ' :: (monthText ++
        ' ' :: (header.year.text ++
          ' ' :: (padded 2 header.clock.hour ++
            ':' :: (padded 2 header.clock.minute ++
              ':' :: (padded 2 header.clock.second ++
                ' ' :: header.zone.text))))) := by
    simp only [text, Clock.text, List.append_assoc, List.cons_append]
  have day : ∀ rest, Scan.number 1 (some 2) (dayText ++ ' ' :: rest) =
      .ok (header.day, ' ' :: rest) :=
    fun _ => Scan.number_append isDay one (by simpa using two) (by omega) rfl
  have dayNoted : ∀ fields : Fields,
      fields.setDay header.day = .ok { fields with day := some header.day } :=
    fun _ => if_pos (day_le_of_isValid header.valid)
  have monthNoted : ∀ fields : Fields,
      fields.setMonth header.month =
        .ok { fields with month := some header.month } :=
    fun _ => if_pos monthFits
  have yearRead : ∀ rest,
      Scan.number 2 Option.none (header.year.text ++ ' ' :: rest) =
      .ok (year, ' ' :: rest) :=
    fun _ => Scan.number_append isYear atLeast (by simp) (by omega) rfl
  have hour : ∀ rest,
      Scan.number 2 (some 2) (padded 2 header.clock.hour ++ ':' :: rest) =
      .ok (header.clock.hour, ':' :: rest) :=
    fun _ => Scan.number_append isHour (by decide) (by simp) (by decide) rfl
  have hourNoted : ∀ fields : Fields,
      fields.setHour header.clock.hour =
        .ok { fields with hour := some header.clock.hour } :=
    fun _ => if_pos header.clock.hourFits
  have colon : ∀ rest, Scan.skipBlanks (':' :: rest) = .ok ((), ':' :: rest) :=
    fun _ => rfl
  have passed : ∀ rest, Scan.exactly ':' (':' :: rest) = .ok ((), rest) :=
    fun _ => Scan.exactly_eq_ok_iff.mpr rfl
  have minute : ∀ rest,
      Scan.number 2 (some 2) (padded 2 header.clock.minute ++ ':' :: rest) =
      .ok (header.clock.minute, ':' :: rest) :=
    fun _ => Scan.number_append isMinute (by decide) (by simp) (by decide) rfl
  have minuteNoted : ∀ fields : Fields, fields.setMinute header.clock.minute =
      .ok { fields with minute := some header.clock.minute } :=
    fun _ => if_pos header.clock.minuteFits
  have noted : ∀ text, Scan.rest text = .ok (text, text) := fun _ => rfl
  have behindClock := Scan.blanks_append header.zone.solid []
  rw [List.append_nil] at behindClock
  have ended : Scan.goOn (Scan.dropComments []) [] = .ok ((), []) := by
    rw [Scan.dropComments]
    rfl
  -- Each step leaves the text from the next part on; a part that is read is
  -- noted at once.
  unfold scanMail
  rw [Scan.bind_of_ok front, Scan.bind_of_ok isWeekday,
    Scan.bind_of_ok behind, written, Scan.bind_of_ok (day _),
    Scan.bind_lift_of_ok (dayNoted _),
    Scan.bind_of_ok (Scan.blanks_append (isMonth.solid monthFits) _),
    Scan.bind_of_ok (isMonth.name_append monthFits _), monthPlace,
    Scan.bind_lift_of_ok (monthNoted _),
    Scan.bind_of_ok (Scan.blanks_append (isYear.solid (by omega)) _),
    Scan.bind_of_ok (noted _), Scan.bind_of_ok (yearRead _),
      Scan.bind_of_ok (noted _),
    Scan.bind_lift_of_ok (header.setYear_mailYear isYear isValue _ _),
    Scan.bind_of_ok (Scan.blanks_append (isHour.solid (by decide)) _),
    Scan.bind_of_ok (hour _), Scan.bind_lift_of_ok (hourNoted _),
    Scan.bind_of_ok (colon _), Scan.bind_of_ok (passed _),
    Scan.bind_of_ok (Scan.skipBlanks_append (isMinute.solid (by decide)) _),
    Scan.bind_of_ok (minute _), Scan.bind_lift_of_ok (minuteNoted _),
    Scan.bind_of_ok (header.clock.scanSeconds_append _ _),
      Scan.bind_of_ok behindClock,
    Scan.bind_of_ok header.zone.mailZone_text, Scan.bind_of_ok (noted _),
    Scan.bind_of_ok ended]
  rfl

end HeaderDate

/-! ## The ends of the text -/

theorem HeaderZone.closing_not_mem
    (zone : HeaderZone) :
    ')' ∉ zone.text := by
  have digits : ∀ number, ')' ∉ padded 2 number := fun number isChar =>
    absurd ((numeral_padded 2 number).digits _ isChar) (by decide)
  rw [HeaderZone.text, List.mem_cons, List.mem_append]
  rintro (sign | inHours | inMinutes)
  · split at sign <;> cases sign
  · exact digits _ inHours
  · exact digits _ inMinutes

namespace HeaderDate

variable (header : HeaderDate)

/-- The zone stands at the end. -/
theorem exists_front
    (weekday : Option (Fin 7))
    (mark : Char)
    (dayText monthText : List Char) :
    ∃ front, weekdayText weekday ++ header.text mark dayText monthText =
      front ++ header.zone.text :=
  ⟨weekdayText weekday ++
      (dayText ++ mark :: (monthText ++
        mark :: (header.year.text ++ ' ' :: (header.clock.text ++ [' '])))), by
    simp only [text, List.append_assoc, List.cons_append, List.nil_append]⟩

/-- No blanks stand around a date. -/
theorem framed_text
    (weekday : Option (Fin 7))
    {dayText : List Char}
    (isDay : DayText header.day dayText)
    (mark : Char)
    (monthText : List Char) :
    Text.Framed
      (weekdayText weekday ++ header.text mark dayText monthText) := by
  obtain ⟨width, one, -, isDay⟩ := isDay
  have ending : Text.Framed header.zone.text := .of_solid_text header.zone.solid
  have written : header.text mark dayText monthText =
      dayText ++
          (mark :: (monthText ++
            mark :: (header.year.text ++
              ' ' :: (header.clock.text ++ [' '])))) ++
        header.zone.text := by
    simp only [text, List.append_assoc, List.cons_append, List.nil_append]
  cases weekday with
  | none =>
      rw [weekdayText, List.nil_append, written]
      exact (Text.Framed.of_solid_text (isDay.solid one)).append _ ending
  | some weekday =>
      have framed :=
        (Text.Framed.of_solid_text (weekdayName_solid weekday.isLt)).append
          (',' :: ' ' ::
            (dayText ++ (mark :: (monthText ++
              mark :: (header.year.text ++
                ' ' :: (header.clock.text ++ [' '])))))) ending
      rw [weekdayText, written]
      simpa only [List.append_assoc, List.cons_append, List.nil_append]
        using framed

end HeaderDate

/-! ## Instants -/

/-- Whether a year is a leap year does not depend on the century in which a
short year lies. -/
theorem HeaderYear.isLeap_value
    {pivot other : Nat}
    (positive : 0 < pivot)
    (otherPositive : 0 < other)
    (year : HeaderYear) :
    isLeap (year.value pivot) = isLeap (year.value other) := by
  cases year with
  | short year twoDigits =>
      -- The centuries differ in the year 00 alone, which a positive pivot puts
      -- into this one.
      rw [Bool.eq_iff_iff]
      simp only [value, isLeap, Bool.and_eq_true, Bool.or_eq_true, beq_iff_eq,
        bne_iff_ne]
      split <;> split <;> omega
  | full => rfl

namespace HeaderDate

variable (header : HeaderDate)

theorem valid_of_pivot
    {pivot : Nat}
    (positive : 0 < pivot) :
    (header.date pivot).isValid = true := by
  have same := header.year.isLeap_value positive (show 0 < 50 by decide)
  have days : daysInMonth (header.year.value pivot) header.month =
      daysInMonth (header.year.value 50) header.month := by
    unfold daysInMonth
    rw [same]
  have valid := header.valid
  unfold Date.isValid at valid ⊢
  rw [← days] at valid
  exact valid

/-- The parts of a date denote it, unless they name another day of the week. -/
theorem date_fields
    {pivot : Nat}
    (positive : 0 < pivot)
    {year : Option Int}
    {shortYear : Option Nat}
    (isYear : (year <|> shortYear.map Fields.pivotYear) =
      some (header.year.value pivot : Int))
    (weekday : Option Nat) :
    (header.fields year shortYear weekday).date =
      if ∀ named ∈ weekday,
        (header.date pivot).weekday = named then .ok (header.date pivot)
      else .error .impossible := by
  have yearFits := header.year.value_lt pivot
  have valid := header.valid_of_pivot positive
  have within : (firstYear ≤ (header.year.value pivot : Int) &&
      (header.year.value pivot : Int) ≤ lastYear) = true := by
    simp only [Bool.and_eq_true, decide_eq_true_eq]
    unfold firstYear lastYear
    omega
  unfold Fields.date fields
  dsimp only
  rw [isYear]
  change (if (!((_ && _) && (header.date pivot).isValid)) =
      true then _ else _) = _
  rw [within, valid]
  cases weekday with
  | none => simp [date]
  | some weekday => simp [date]

/-- The parts of a date denote its instant, unless they name another day of the
week. -/
theorem instant_fields
    {pivot : Nat}
    (positive : 0 < pivot)
    {year : Option Int}
    {shortYear : Option Nat}
    (isYear : (year <|> shortYear.map Fields.pivotYear) =
      some (header.year.value pivot : Int))
    (weekday : Option Nat) :
    (header.fields year shortYear weekday).instant.toOption =
      if ∀ named ∈ weekday,
        (header.date pivot).weekday = named then some (header.instant pivot)
      else none := by
  have isDate := header.date_fields positive isYear weekday
  have secondFits := header.clock.secondFits
  have within := year_within_calendar (header.year.value_lt pivot)
    (header.valid_of_pivot positive) header.clock.secondOfDay_lt
      header.zone.natAbs_offset_lt 0
  have isTime : (header.fields year shortYear weekday).time =
      .ok (header.clock.secondOfDay, 0) := by
    change Except.ok (header.clock.hour * 3600 + header.clock.minute * 60 +
      min header.clock.second 59,
        (if header.clock.second = 60 then 1000000000 else 0) + 0) = _
    rw [if_neg (by omega), Nat.min_eq_left (by omega)]
    rfl
  unfold Fields.instant Fields.instantAt
  rw [isDate, isTime]
  by_cases agrees : ∀ named ∈ weekday, (header.date pivot).weekday = named
  · rw [if_pos agrees, if_pos agrees]
    change Except.toOption (if 86400 ≤
        header.zone.offset.natAbs then _ else _) = _
    rw [if_neg (Nat.not_le_of_lt header.zone.natAbs_offset_lt)]
    simp only [Instant.shift, Int.sub_zero, ← Int.sub_eq_add_neg]
    exact congrArg Except.toOption (if_pos within)
  · rw [if_neg agrees, if_neg agrees]
    rfl

/-- The mail form reads a date, unless another day of the week stands in front
of it. -/
theorem toOption_ofMail_text
    (weekday : Option (Fin 7))
    {dayText monthText : List Char}
    (isDay : DayText header.day dayText)
    (isMonth : MonthText header.month monthText) :
    (ofMail (weekdayText weekday ++
        header.text ' ' dayText monthText)).toOption =
      if ∀ named ∈ weekday.map Fin.val, (header.date 50).weekday = named then
        some (header.instant 50)
      else none := by
  have isYear : (some (header.year.value 50 : Int) <|>
      (none : Option Nat).map Fields.pivotYear) =
      some (header.year.value 50 : Int) := rfl
  have read := header.instant_fields (by decide) isYear (weekday.map Fin.val)
  rw [← read, ofMail, scanAll, header.scanMail_text weekday isDay isMonth]
  rfl

end HeaderDate

/-! ## Other texts -/

/-- The mail form needs a blank behind the day of the month. -/
theorem toOption_ofMail_of_no_blank
    (weekday : Option (Fin 7))
    {c : Char}
    (digit : c.isDigit = true)
    {rest : List Char}
    (noBlank : ∀ day left,
        Scan.number 1 (some 2) (c :: rest) = .ok (day, left) →
      Scan.Fails Scan.blanks left) :
    (ofMail (weekdayText weekday ++ c :: rest)).toOption = none := by
  obtain ⟨left, front, isWeekday, behind⟩ :=
    scanWeekday_append weekday digit rest
  have fails : Scan.Fails scanMail (weekdayText weekday ++ c :: rest) := by
    refine Scan.Fails.bind_of_ok
      (Scan.Fails.bind_of_ok (Scan.Fails.bind_of_ok ?_ behind) isWeekday) front
    intro found read
    obtain ⟨day, left, isDay, read⟩ := Scan.bind_eq_ok_iff.mp read
    obtain ⟨fields, _, noted, read⟩ := Scan.bind_eq_ok_iff.mp read
    obtain ⟨-, rfl⟩ := Scan.lift_eq_ok_iff.mp noted
    exact (noBlank day left isDay).bind _ found read
  unfold ofMail scanAll
  cases read : scanMail (weekdayText weekday ++ c :: rest) with
  | error error => rfl
  | ok found => exact absurd read (fails found)

/-- The strict form needs a year of four digits at the front. -/
theorem toOption_ofInternet_of_few_digits
    {text : List Char}
    (few : (text.takeWhile Char.isDigit).length < 4) :
    (ofInternet text).toOption = none := by
  have fails : Scan.Fails scanStrict text :=
    ((Scan.number_fails few).bind _).bind _
  unfold ofInternet scanAll
  cases read : scanStrict text with
  | error error => rfl
  | ok found => exact absurd read (fails found)

namespace HeaderDate

variable (header : HeaderDate) {dayText : List Char} (monthText : List Char)

/-- A date with hyphens is no mail form. -/
theorem toOption_ofMail_of_hyphens
    (weekday : Option (Fin 7))
    (isDay : DayText header.day dayText) :
    (ofMail (weekdayText weekday ++
      header.text '-' dayText monthText)).toOption = none := by
  obtain ⟨first, rest, split, digit⟩ := header.exists_cons isDay '-' monthText
  obtain ⟨width, one, two, isDay⟩ := isDay
  rw [split]
  refine toOption_ofMail_of_no_blank weekday digit fun day left read => ?_
  have readDay : Scan.number 1 (some 2) (header.text '-' dayText monthText) =
      .ok (header.day, _) :=
    Scan.number_append isDay one (by simpa using two) (by omega) rfl
  rw [← split, readDay] at read
  cases read
  exact Scan.blanks_fails (by decide) _

/-- A header date does not begin with a year. -/
theorem toOption_ofInternet_text
    (weekday : Option (Fin 7))
    (isDay : DayText header.day dayText)
    {mark : Char}
    (noDigit : mark.isDigit = false) :
    (ofInternet (weekdayText weekday ++ header.text mark dayText
      monthText)).toOption = none := by
  obtain ⟨width, -, two, isDay⟩ := isDay
  apply toOption_ofInternet_of_few_digits
  cases weekday with
  | none =>
      have stops : ¬ mark.isDigit = true := Bool.eq_false_iff.mp noDigit
      rw [weekdayText, List.nil_append, text,
        List.takeWhile_append_of_pos isDay.digits,
        List.takeWhile_cons_of_neg stops, List.append_nil, isDay.length_eq]
      omega
  | some weekday =>
      obtain ⟨-, letters, -⟩ := weekdayName_spec weekday weekday.isLt
      obtain ⟨letter, later, spelled⟩ :=
        List.exists_cons_of_ne_nil (weekdayName_solid weekday.isLt).nonempty
      have isLetter := letters letter (spelled ▸ List.mem_cons_self)
      have stops : ¬ letter.isDigit = true := by
        intro digit
        rw [Scan.not_isAlpha_of_isDigit digit] at isLetter
        cases isLetter
      rw [weekdayText, spelled, List.cons_append, List.cons_append,
        List.takeWhile_cons_of_neg stops]
      decide

end HeaderDate

end Calendar
end MailSearch
