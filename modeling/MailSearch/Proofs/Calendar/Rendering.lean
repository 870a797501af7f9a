import MailSearch.Proofs.Calendar.Civil
import MailSearch.Proofs.Calendar.MailDate

/-!
# Rendered instants

An instant is written as the local time of a zone, in the form of RFC 3339 or in
that of mail.  Reading the text gives the instant again, whatever the zone and
with blanks around it.  The calendar enters twice: the local day has a date, and
the date has the number of the day.
-/

namespace MailSearch
namespace Calendar

/-- A zone has neither blanks nor parentheses. -/
theorem ZoneText.solid
    {offset : Int}
    {text : List Char}
    (isZone : ZoneText offset text) :
    Text.Solid text ∧ ')' ∉ text := by
  cases isZone with
  | universal letter =>
      rcases letter with rfl | rfl <;> exact ⟨⟨by decide, by decide⟩, by decide⟩
  | numeric sign isHours isMinutes =>
      have signs : ∀ signed ∈ zoneSigns, Text.isBlank signed.1 = false ∧
          signed.1 ≠ ')' := by
        decide
      obtain ⟨notBlank, notClosing⟩ := signs _ sign
      have hours := isHours.solid (by decide)
      have minutes := isMinutes.solid (by decide)
      have signSolid : Text.Solid [_] :=
        ⟨List.cons_ne_nil _ [], List.forall_mem_singleton.mpr notBlank⟩
      have colon : Text.Solid [':'] := ⟨by decide, by decide⟩
      refine ⟨(signSolid.append hours).append (colon.append minutes), ?_⟩
      simp only [List.cons_append, List.mem_cons, List.mem_append, not_or]
      exact ⟨notClosing.symm, fun isChar =>
          absurd (isHours.digits _ isChar) (by decide), by decide,
        fun isChar => absurd (isMinutes.digits _ isChar) (by decide)⟩

/-! ## Local times -/

/-- An instant with a whole-minute zone in which its year has four digits. -/
structure LocalTime where
  /-- The instant. -/
  instant : Instant
  /-- The offset of the zone in seconds east of Universal Time. -/
  offset : Int
  /-- The instant lies in no leap second. -/
  noLeap : instant.nano < 1000000000
  /-- The zone has whole minutes. -/
  wholeMinutes : 60 ∣ offset
  /-- The zone is less than a day away. -/
  withinDay : offset.natAbs < 86400
  /-- The local year has four digits. -/
  fourDigits : 0 ≤ (instant.shift offset).date.year ∧
    (instant.shift offset).date.year ≤ 9999

namespace LocalTime

variable (time : LocalTime)

/-- The instant as if the local clock showed Universal Time. -/
def here : Instant :=
  time.instant.shift time.offset

/-- The year on the local calendar. -/
def year : Nat :=
  time.here.date.year.toNat

/-- The local time of day. -/
def clock : Clock where
  hour := time.here.hour
  minute := time.here.minute
  second := time.here.clockSecond
  hourFits := by
    unfold Instant.hour Instant.secondOfDay
    omega
  minuteFits := by
    unfold Instant.minute
    omega
  secondFits := by
    have noLeap : time.here.nano < 1000000000 := time.noLeap
    unfold Instant.clockSecond
    omega

/-- The zone in hours and minutes. -/
def zone : HeaderZone where
  west := time.offset < 0
  hours := time.offset.natAbs / 60 / 60
  minutes := time.offset.natAbs / 60 % 60
  hoursFit := by
    have withinDay := time.withinDay
    omega
  minutesFit := by
    omega

theorem date_year : time.here.date.year = time.year :=
  (Int.toNat_of_nonneg time.fourDigits.1).symm

theorem year_lt : time.year < 10000 := by
  have fourDigits : 0 ≤ time.here.date.year ∧ time.here.date.year ≤ 9999 :=
    time.fourDigits
  have same := time.date_year
  omega

theorem valid : Date.isValid ⟨time.year, time.here.date.month,
    time.here.date.day⟩ = true := by
  have existing := (Date.ofNumber_spec (time.here.second / 86400)).1
  rw [← time.date_year]
  exact existing

theorem offset_zone : time.zone.offset = time.offset := by
  have wholeMinutes := time.wholeMinutes
  unfold HeaderZone.offset zone
  dsimp only
  split
  · rename_i west
    have negative : time.offset < 0 := of_decide_eq_true west
    omega
  · rename_i west
    have positive : 0 ≤ time.offset := Int.not_lt.mp fun negative =>
      west (decide_eq_true negative)
    omega

theorem secondOfDay_clock : (time.clock.secondOfDay : Int) = time.here.second %
    86400 := by
  have noLeap : time.here.nano < 1000000000 := time.noLeap
  unfold Clock.secondOfDay clock Instant.hour Instant.minute Instant.clockSecond
    Instant.secondOfDay
  dsimp only
  omega

/-- The local day and the local time of day, back in Universal Time. -/
theorem second_eq :
    time.here.second / 86400 * 86400 + time.clock.secondOfDay - time.offset =
      time.instant.second := by
  have shifted : time.here.second = time.instant.second + time.offset := rfl
  have secondOfDay := time.secondOfDay_clock
  omega

/-! ## The form of mail -/

/-- The local time as a date of a header. -/
def header : HeaderDate where
  year := .full time.year time.year_lt
  month := time.here.date.month
  day := time.here.date.day
  clock := time.clock
  zone := time.zone
  valid := time.valid

theorem date_header :
    time.header.date 50 = time.here.date := by
  change (⟨time.year, time.here.date.month, time.here.date.day⟩ : Date) =
      time.here.date
  rw [← time.date_year]

theorem number_header :
    (time.header.date 50).number = time.here.second / 86400 := by
  rw [date_header]
  exact (Date.ofNumber_spec (time.here.second / 86400)).2

theorem yearText_eq :
    yearText time.here.date.year = padded 4 time.year := by
  have fourDigits : 0 ≤ time.here.date.year ∧ time.here.date.year ≤ 9999 :=
    time.fourDigits
  rw [yearText, if_pos fourDigits]
  rfl

theorem offsetText_eq :
    offsetText [] time.offset = time.zone.text := by
  unfold offsetText HeaderZone.text zone
  simp

theorem weekday_lt :
    time.here.date.weekday < 7 := by
  unfold Date.weekday
  omega

theorem mailTextAt_eq :
    time.instant.mailTextAt time.offset =
      weekdayText (some ⟨time.here.date.weekday, time.weekday_lt⟩) ++
        time.header.text ' ' (padded 2 time.header.day)
          (monthName time.header.month) := by
  have year := time.yearText_eq
  have zone := time.offsetText_eq
  unfold here at year
  unfold Instant.mailTextAt
  dsimp only
  rw [year, zone]
  simp only [weekdayText, weekdayName, HeaderDate.text, monthName, header,
    HeaderYear.text, Clock.text, Instant.clockText, clock, here,
    List.append_assoc, List.cons_append, List.nil_append]

theorem isDay :
    Numeral 2 time.header.day (padded 2 time.header.day) :=
  numeral_of_lt (Nat.lt_of_le_of_lt (day_le_of_isValid time.valid).2
    (by decide)) (by decide)

/-- A whole second is read from the form of mail. -/
theorem ofMail_mailTextAt
    (wholeSecond : time.instant.nano = 0) :
    (ofMail (time.instant.mailTextAt time.offset)).toOption =
      some time.instant := by
  have rightDay :
      ∀ named ∈ (some (⟨time.here.date.weekday, time.weekday_lt⟩ :
          Fin 7)).map Fin.val,
        (time.header.date 50).weekday = named := by
    rw [date_header]
    exact fun named isNamed => Option.some.inj isNamed
  have denoted : time.header.instant 50 = time.instant := by
    have seconds := time.second_eq
    rw [← time.number_header, ← time.offset_zone] at seconds
    change (⟨_, 0⟩ : Instant) = ⟨time.instant.second, time.instant.nano⟩
    rw [wholeSecond, ← seconds]
    rfl
  rw [mailTextAt_eq, time.header.toOption_ofMail_text _ ⟨2, by decide,
      by decide, time.isDay⟩ rfl,
    if_pos rightDay, denoted]

/-! ## The form of RFC 3339 -/

/-- The zone as it is written in the form of RFC 3339. -/
def internetZone : List Char :=
  if time.offset = 0 then ['Z'] else offsetText [':'] time.offset

theorem isZone :
    ZoneText time.offset time.internetZone := by
  have hours :=
    numeral_of_lt (Nat.lt_trans time.zone.hoursFit (by decide : 24 < 10 ^ 2))
      (by decide)
  have minutes :=
    numeral_of_lt (Nat.lt_trans time.zone.minutesFit (by decide : 60 < 10 ^ 2))
      (by decide)
  have written : offsetText [':'] time.offset = (if time.zone.west then '-'
      else '+') ::
      padded 2 time.zone.hours ++ ':' :: padded 2 time.zone.minutes := by
    simp [offsetText, zone]
  have value : (if time.zone.west then -1 else 1 : Int) *
      ((time.zone.hours : Int) * 3600 + time.zone.minutes * 60) =
        time.offset := by
    rw [← time.offset_zone, HeaderZone.offset]
    cases time.zone.west with
    | true => exact Int.neg_one_mul _
    | false => exact Int.one_mul _
  have sign : ((if time.zone.west then '-' else '+'),
      (if time.zone.west then -1 else 1 : Int)) ∈
      zoneSigns := by
    cases time.zone.west <;> decide
  have numeric := ZoneText.numeric sign hours minutes time.zone.minutesFit
  unfold internetZone
  split
  · rename_i universal
    rw [universal]
    exact .universal (.inl rfl)
  · rwa [value, ← written] at numeric

/-- The parts of the form of RFC 3339. -/
theorem internetTextAt_eq :
    time.instant.internetTextAt time.offset =
      (padded 4 time.year ++ '-' :: padded 2 time.header.month ++ '-' ::
          padded 2 time.header.day) ++
        'T' :: (padded 2 time.clock.hour ++ ':' :: padded 2 time.clock.minute ++
          ':' :: padded 2 time.clock.second ++ '.' ::
            padded 9 time.instant.nano) ++
        time.internetZone := by
  have year := time.yearText_eq
  have nano := Nat.mod_eq_of_lt time.noLeap
  have text : time.here.dateTimeText =
      padded 4 time.year ++ '-' :: padded 2 time.header.month ++ '-' ::
          padded 2 time.header.day ++
        'T' :: (padded 2 time.clock.hour ++ ':' ::
            padded 2 time.clock.minute) ++
          ':' :: padded 2 time.clock.second := by
    rw [Instant.dateTimeText, Instant.dateText, year]
    rfl
  unfold Instant.internetTextAt internetZone
  split
  · rename_i universal
    have same : time.here = time.instant := by
      unfold here Instant.shift
      rw [universal, Int.add_zero]
    rw [same] at text
    rw [Instant.internetText, text, nano]
    simp only [List.append_assoc, List.cons_append]
  · change time.here.dateTimeText ++ '.' ::
        padded 9 (time.instant.nano % 1000000000) ++ _ = _
    rw [text, nano]
    simp only [List.append_assoc, List.cons_append]

/-- An instant is read from the form of RFC 3339. -/
theorem ofInternet_internetTextAt :
    ofInternet (time.instant.internetTextAt time.offset) =
      .ok time.instant := by
  rw [ofInternet_eq_ok_iff, internetTextAt_eq]
  obtain ⟨isHour, isMinute, isSecond⟩ := time.clock.numerals
  have isYear : Numeral 4 time.year (padded 4 time.year) :=
    numeral_of_lt time.year_lt (by decide)
  have isMonth : Numeral 2 time.header.month (padded 2 time.header.month) :=
    numeral_of_lt (Nat.lt_of_le_of_lt time.header.month_inYear.2 (by decide))
      (by decide)
  have isNano : Numeral 9 time.instant.nano (padded 9 time.instant.nano) :=
    numeral_of_lt time.noLeap (by decide)
  have isFraction :=
    FractionText.present (isNano.solid (by decide)).nonempty isNano.digits
  have denoted :=
    InternetText.dateTime (.digits isYear isMonth time.isDay) time.valid
    (by decide : 'T' ∈ ['T', 't', ' '])
      (.digits isHour isMinute isSecond isFraction)
    time.clock.hourFits time.clock.minuteFits
      (Nat.le_of_lt time.clock.secondFits) time.isZone
    time.withinDay
  have noLeap : ¬ time.clock.second = 60 := by
    have secondFits := time.clock.secondFits
    omega
  have nano : Scan.digitsValue ((padded 9 time.instant.nano).take 9) *
      10 ^ (9 - (padded 9 time.instant.nano).length) = time.instant.nano := by
    rw [isNano.length_eq, List.take_of_length_le isNano.length_eq.le,
      isNano.value_eq]
    exact Nat.mul_one _
  have seconds :
      (time.clock.hour * 3600 + time.clock.minute * 60 +
        min time.clock.second 59 : Nat) =
      time.clock.secondOfDay := by
    have secondFits := time.clock.secondFits
    unfold Clock.secondOfDay
    omega
  have second := time.second_eq
  rw [← time.number_header] at second
  rw [if_neg noLeap, nano, Nat.zero_add, seconds] at denoted
  change InternetText ⟨(time.header.date 50).number * 86400 +
      time.clock.secondOfDay - time.offset,
    time.instant.nano⟩ _ at denoted
  rwa [second] at denoted

/-- The form of RFC 3339 is not that of mail: no blank stands behind the first
two digits. -/
theorem ofMail_internetTextAt :
    (ofMail (time.instant.internetTextAt time.offset)).toOption = none := by
  have isYear : Numeral 4 time.year (padded 4 time.year) :=
    numeral_of_lt time.year_lt (by decide)
  obtain ⟨high, low, century, others, isCentury, isOthers, split⟩ :=
    Numeral.exists_halves 2 2 isYear
  obtain ⟨first, later, isFirst⟩ :=
    List.exists_cons_of_ne_nil (isCentury.solid (by decide)).nonempty
  obtain ⟨next, rest, isNext⟩ :=
    List.exists_cons_of_ne_nil (isOthers.solid (by decide)).nonempty
  have notBlank :=
    (isOthers.solid (by decide)).notBlank next (isNext ▸ List.mem_cons_self)
  have digit := isCentury.digits first (isFirst ▸ List.mem_cons_self)
  -- The first half of the year passes for a day of the month.
  rw [internetTextAt_eq, split, isFirst, isNext]
  simp only [List.append_assoc, List.cons_append]
  refine toOption_ofMail_of_no_blank none digit fun day left read => ?_
  rw [← List.cons_append, ← isFirst,
    Scan.number_append_full isCentury (by decide) (by decide)] at read
  cases read
  exact Scan.blanks_fails notBlank _

end LocalTime

/--
An instant outside leap seconds is read again from its forms in every zone of
whole minutes in which its year has four digits, with any blanks around them:
from the form of RFC 3339, and, if it is a whole second, from the form of mail.
-/
theorem rendered_time_reads_back
    (time : LocalTime)
    {front back : String}
    (blankFront : ∀ c ∈ front.toList, Text.isBlank c = true)
    (blankBack : ∀ c ∈ back.toList, Text.isBlank c = true) :
    MailDate.ofText? (front ++
        String.ofList (time.instant.internetTextAt time.offset) ++ back) =
        some time.instant ∧
      (time.instant.nano = 0 →
        MailDate.ofText? (front ++
            String.ofList (time.instant.mailTextAt time.offset) ++ back) =
          some time.instant) := by
  simp only [MailDate.ofText?, String.toList_append, String.toList_ofList]
  constructor
  · obtain ⟨zoneSolid, unclosed⟩ := time.isZone.solid
    have yearSolid : Text.Solid (padded 4 time.year) :=
      (numeral_padded 4 time.year).solid (by omega)
    have isText := time.internetTextAt_eq
    have framed : Text.Framed (time.instant.internetTextAt time.offset) := by
      rw [isText]
      have framed := (Text.Framed.of_solid_text yearSolid).append
        ('-' :: padded 2 time.header.month ++ '-' :: padded 2 time.header.day ++
          'T' :: (padded 2 time.clock.hour ++ ':' ::
              padded 2 time.clock.minute ++
            ':' :: padded 2 time.clock.second ++ '.' ::
              padded 9 time.instant.nano))
        (.of_solid_text zoneSolid)
      simpa only [List.append_assoc, List.cons_append] using framed
    refine MailDate.read?_of_internet
      (MailDate.dropComment_trim blankFront blankBack framed isText
        zoneSolid.nonempty unclosed) ?_ time.ofMail_internetTextAt ?_
    · rw [isText]
      exact List.append_ne_nil_of_right_ne_nil _ zoneSolid.nonempty
    · rw [time.ofInternet_internetTextAt]
      rfl
  · intro wholeSecond
    have isMail := time.ofMail_mailTextAt wholeSecond
    have written := time.mailTextAt_eq
    obtain ⟨start, ends⟩ := time.header.exists_front
      (some ⟨time.here.date.weekday, time.weekday_lt⟩) ' '
      (padded 2 time.header.day) (monthName time.header.month)
    have framed :=
      time.header.framed_text (some ⟨time.here.date.weekday, time.weekday_lt⟩)
      ⟨2, by decide, by decide, time.isDay⟩ ' ' (monthName time.header.month)
    rw [← written] at ends framed
    refine MailDate.read?_of_mail
      (MailDate.dropComment_trim blankFront blankBack framed ends
        time.zone.solid.nonempty time.zone.closing_not_mem) ?_ isMail
    rw [ends]
    exact List.append_ne_nil_of_right_ne_nil _ time.zone.solid.nonempty

/-- An hour west of Universal Time the new year has not begun. -/
theorem rendered_time_reads_back_in_new_year :
    MailDate.ofText? "\t2023-12-31T23:30:00.000000000-01:00 \n" =
        some ⟨1704069000, 0⟩ ∧
      MailDate.ofText? "\tSun, 31 Dec 2023 23:30:00 -0100 \n" =
        some ⟨1704069000, 0⟩ := by
  have back := rendered_time_reads_back
    ⟨⟨1704069000, 0⟩, -3600, by decide, by decide, by decide, by decide +kernel⟩
    (by decide : ∀ c ∈ "\t".toList, Text.isBlank c = true)
    (by decide : ∀ c ∈ " \n".toList, Text.isBlank c = true)
  have internet : "\t" ++
      String.ofList (Instant.internetTextAt (-3600) ⟨1704069000, 0⟩) ++ " \n" =
      "\t2023-12-31T23:30:00.000000000-01:00 \n" := by
    decide +kernel
  have mail : "\t" ++ String.ofList (Instant.mailTextAt (-3600)
      ⟨1704069000, 0⟩) ++ " \n" =
      "\tSun, 31 Dec 2023 23:30:00 -0100 \n" := by
    decide +kernel
  rw [← internet, ← mail]
  exact ⟨back.1, back.2 rfl⟩

end Calendar
end MailSearch
