import MailSearch.Calendar.MailDate
import MailSearch.Proofs.Calendar.HeaderDate

/-!
# Header dates and the common patterns

A date with blanks between its parts is read by the first pattern if its year
has two digits and by the third if it has four.  A year of two digits then
belongs to the last century from 70 on.  A date with hyphens fits no pattern.
-/

namespace MailSearch
namespace Calendar

/-! ## Items in a row -/

namespace Pattern

variable {item : PatternItem} {pattern : Pattern} {fields next : Fields}
  {text rest : List Char}

theorem read_cons
    (read : item.read fields text = .ok (next, rest)) :
    Pattern.read (item :: pattern) fields text =
      Pattern.read pattern next rest :=
  Scan.bind_of_ok read

theorem fails_cons
    (fails : Scan.Fails (item.read fields) text) :
    Scan.Fails (Pattern.read (item :: pattern) fields) text :=
  fails.bind _

theorem fails_of_cons
    (read : item.read fields text = .ok (next, rest))
    (fails : Scan.Fails (Pattern.read pattern next) rest) :
    Scan.Fails (Pattern.read (item :: pattern) fields) text :=
  fails.bind_of_ok read

end Pattern

namespace PatternItem

variable {width number most : Nat} {digits rest : List Char}

/-- A number at the front is read without blanks before it. -/
theorem readNumber_of_scanned
    (numeral : Numeral width number digits)
    (positive : 1 ≤ width)
    (scanned : Scan.number 1 (some most) (digits ++ rest) =
      .ok (number, rest)) :
    readNumber most (digits ++ rest) = .ok (number, rest) := by
  unfold readNumber
  rw [Scan.bind_of_ok (Scan.skipBlanks_append (numeral.solid positive) rest)]
  exact scanned

/-- An item for a number of at most two digits notes it. -/
theorem read_number
    {fields found : Fields}
    {set : Nat -> Fields -> Except DateError Fields}
    (numeral : Numeral width number digits)
    (positive : 1 ≤ width)
    (fits : width ≤ 2)
    (settled : rest.takeWhile Char.isDigit = [])
    (noted : set number fields = .ok found) :
    (do set (← readNumber 2) fields : Scan Fields) (digits ++ rest) =
      .ok (found, rest) := by
  have scanned : Scan.number 1 (some 2) (digits ++ rest) = .ok (number, rest) :=
    Scan.number_append numeral positive (by simpa using fits) (by omega) settled
  rw [Scan.bind_of_ok (readNumber_of_scanned numeral positive scanned)]
  exact Scan.lift_eq_ok_iff.mpr ⟨noted, rfl⟩

theorem read_day
    (numeral : Numeral width number digits)
    (positive : 1 ≤ width)
    (fits : width ≤ 2)
    (inMonth : 1 ≤ number ∧ number ≤ 31)
    (fields : Fields)
    (settled : rest.takeWhile Char.isDigit = []) :
    PatternItem.read fields .day (digits ++ rest) =
      .ok ({ fields with day := some number }, rest) :=
  read_number numeral positive fits settled (if_pos inMonth)

theorem read_blanks
    (fields : Fields)
    {solid : List Char}
    (isSolid : Text.Solid solid)
    (rest : List Char) :
    PatternItem.read fields .blanks (' ' :: (solid ++ rest)) =
      .ok (fields, solid ++ rest) := by
  have skipped : Scan.skipBlanks (' ' :: (solid ++ rest)) =
      .ok ((), solid ++ rest) :=
    congrArg (fun left => Except.ok ((), left)) (isSolid.trimFront_append rest)
  exact Scan.bind_of_ok skipped

theorem read_mark
    (fields : Fields)
    (c : Char)
    (rest : List Char) :
    PatternItem.read fields (.mark c) (c :: rest) = .ok (fields, rest) := by
  have passed : Scan.exactly c (c :: rest) = .ok ((), rest) :=
    Scan.exactly_eq_ok_iff.mpr rfl
  exact Scan.bind_of_ok passed

theorem read_zone
    (fields : Fields)
    (zone : HeaderZone) :
    PatternItem.read fields .zone zone.text =
      .ok ({ fields with offset := some zone.offset }, []) := by
  have separates : ∀ c rest, c.isDigit = true →
      patternZone.separator (c :: rest) = .ok ((), c :: rest) := by
    intro c rest digit
    have notBlank :=
      Text.isBlank_of_isAlphanum (Bool.or_eq_true_iff.mpr (.inr digit))
    have notColon : (c == ':') = false := by
      rw [beq_eq_false_iff_ne]
      rintro rfl
      cases digit
    have stops : ¬ (c == ':' || Text.isBlank c) = true := by
      rw [notColon, notBlank]
      decide
    exact congrArg
      (fun left => Except.ok ((), left)) (List.dropWhile_cons_of_neg stops)
  have read := HeaderZone.zone_append patternZone rfl separates zone []
  have skipped := Scan.skipBlanks_append zone.solid []
  rw [List.append_nil] at read skipped
  unfold PatternItem.read
  dsimp only
  rw [Scan.bind_of_ok skipped, Scan.bind_of_ok read]
  rfl

end PatternItem

/-! ## Parts of a header date -/

namespace HeaderDate

open PatternItem

variable (header : HeaderDate)

/-- The time of day and the zone are noted behind the year. -/
theorem read_clock
    (fields : Fields) :
    Pattern.read (.blanks :: (MailDate.clock ++ [.blanks, .zone])) fields
        (' ' :: (header.clock.text ++ ' ' :: header.zone.text)) =
      .ok ({ fields with
        hour := some header.clock.hour, minute := some header.clock.minute,
        second := some header.clock.second,
        offset := some header.zone.offset }, []) := by
  obtain ⟨isHour, isMinute, isSecond⟩ := header.clock.numerals
  have behindClock := fun fields => read_blanks fields header.zone.solid []
  simp only [List.append_nil] at behindClock
  have written : header.clock.text ++ ' ' :: header.zone.text =
      padded 2 header.clock.hour ++
        ':' :: (padded 2 header.clock.minute ++
          ':' :: (padded 2 header.clock.second ++
            ' ' :: header.zone.text)) := by
    simp only [Clock.text, List.append_assoc, List.cons_append]
  rw [written]
  have hour : ∀ fields rest, PatternItem.read fields .hour
      (padded 2 header.clock.hour ++ ':' :: rest) = .ok (_, ':' :: rest) :=
        fun _ _ =>
    read_number isHour (by decide) (by decide) rfl
      (if_pos header.clock.hourFits)
  have minute : ∀ fields rest, PatternItem.read fields .minute
      (padded 2 header.clock.minute ++ ':' :: rest) = .ok (_, ':' :: rest) :=
        fun _ _ =>
    read_number isMinute (by decide) (by decide) rfl
      (if_pos header.clock.minuteFits)
  have second : ∀ fields rest, PatternItem.read fields .second
      (padded 2 header.clock.second ++ ' ' :: rest) = .ok (_, ' ' :: rest) :=
        fun _ _ =>
    read_number isSecond (by decide) (by decide) rfl
      (if_pos (Nat.le_of_lt header.clock.secondFits))
  change Pattern.read (.blanks :: .hour :: .mark ':' :: .minute :: .mark ':' ::
    .second ::
    .blanks :: .zone :: []) _ _ = _
  rw [Pattern.read_cons (read_blanks _ (isHour.solid (by decide)) _),
    Pattern.read_cons (hour _ _), Pattern.read_cons (read_mark _ ':' _),
    Pattern.read_cons (minute _ _), Pattern.read_cons (read_mark _ ':' _),
    Pattern.read_cons (second _ _),
    Pattern.read_cons (behindClock _),
      Pattern.read_cons (read_zone _ header.zone)]
  rfl

/-- Day and month are noted in front of the year. -/
theorem read_dayMonth
    {dayText monthText solid : List Char}
    (isDay : DayText header.day dayText)
    (isMonth : MonthText header.month monthText)
    (isSolid : Text.Solid solid)
    (pattern : Pattern)
    (rest : List Char) :
    Pattern.read (.day :: .blanks :: .monthName :: .blanks :: pattern)
        Fields.none
        (dayText ++ ' ' :: (monthText ++ ' ' :: (solid ++ rest))) =
      Pattern.read pattern
        { Fields.none with month := some header.month, day := some header.day }
          (solid ++ rest) := by
  obtain ⟨width, one, two, isDay⟩ := isDay
  have monthFits := header.month_inYear
  have monthPlace : header.month - 1 + 1 = header.month := by omega
  have day :=
    read_day isDay one two (day_le_of_isValid header.valid) Fields.none
    (rfl : (' ' :: (monthText ++ ' ' :: (solid ++ rest))).takeWhile
      Char.isDigit = [])
  have month : ∀ fields,
      PatternItem.read fields .monthName (monthText ++ ' ' :: (solid ++ rest)) =
      .ok ({ fields with month := some header.month },
        ' ' :: (solid ++ rest)) := by
    intro fields
    refine Scan.bind_eq_ok_iff.mpr ⟨_, _, isMonth.name_append monthFits _, ?_⟩
    rw [monthPlace]
    exact Scan.lift_eq_ok_iff.mpr ⟨if_pos monthFits, rfl⟩
  rw [Pattern.read_cons day,
    Pattern.read_cons (read_blanks _ (isMonth.solid monthFits) _),
    Pattern.read_cons (month _), Pattern.read_cons (read_blanks _ isSolid _)]

end HeaderDate

/-! ## Years -/

section Years

open PatternItem

variable {year : Nat} {yearText : List Char}

theorem read_shortYear
    (isYear : Numeral 2 year yearText)
    (fields : Fields)
    (rest : List Char) :
    PatternItem.read fields .shortYear (yearText ++ rest) =
      .ok ({ fields with shortYear := some year }, rest) := by
  have read := readNumber_of_scanned isYear (by decide)
    (Scan.number_append_full isYear (by decide) (by decide) rest)
  exact (Scan.bind_of_ok read).trans
    (Scan.lift_eq_ok_iff.mpr ⟨if_pos isYear.lt, rfl⟩)

/-- In the place of a short year the first half of a full year is read, and no
hour behind it. -/
theorem shortYear_fails_of_full
    (isYear : Numeral 4 year yearText)
    (fields : Fields)
    (pattern : Pattern)
    (rest : List Char) :
    Scan.Fails (Pattern.read (.shortYear :: .blanks :: .hour :: .mark ':' ::
        pattern) fields)
      (yearText ++ ' ' :: rest) := by
  obtain ⟨high, low, front, back, isFront, isBack, rfl⟩ :=
    Numeral.exists_halves 2 2 isYear
  have solid := isBack.solid (by decide)
  have blanks : ∀ fields,
      PatternItem.read fields .blanks (back ++ ' ' :: rest) =
      .ok (fields, back ++ ' ' :: rest) :=
    fun _ => Scan.bind_of_ok (Scan.skipBlanks_append solid _)
  have hour := readNumber_of_scanned isBack (by decide)
    (Scan.number_append_full isBack (by decide) (by decide) (' ' :: rest))
  -- Blanks may be missing between year and hour, so it is the colon behind the
  -- hour that fails.
  rw [List.append_assoc]
  refine Pattern.fails_of_cons (read_shortYear isFront _ _)
    (Pattern.fails_of_cons (blanks _) ?_)
  intro found read
  obtain ⟨next, left, readHour, read⟩ := Scan.bind_eq_ok_iff.mp read
  rw [PatternItem.read, Scan.bind_of_ok hour] at readHour
  obtain ⟨-, rfl⟩ := Scan.lift_eq_ok_iff.mp readHour
  exact Pattern.fails_cons ((Scan.exactly_fails (by decide) rest).bind _)
    found read

/-- A year of up to four digits is read in front of something else. -/
theorem read_year
    {width : Nat}
    (isYear : Numeral width year yearText)
    (positive : 1 ≤ width)
    (fits : width ≤ 4)
    (fields : Fields)
    {rest : List Char}
    (settled : rest.takeWhile Char.isDigit = []) :
    PatternItem.read fields .year (yearText ++ rest) =
      .ok ({ fields with year := some (year : Int) }, rest) := by
  have inRange : -0x80000000 ≤ (year : Int) ∧ (year : Int) < 0x80000000 := by
    have below := isYear.lt
    have power : 10 ^ width ≤ 10 ^ 4 := Nat.pow_le_pow_right (by decide) fits
    omega
  have scanned : readYear (yearText ++ rest) = .ok ((year : Int), rest) := by
    have noSign : ∀ c left, c.isDigit = false →
        yearText ++ rest ≠ c :: left := by
      obtain ⟨first, later, rfl⟩ :=
        List.exists_cons_of_ne_nil (isYear.solid positive).nonempty
      intro c left noDigit same
      have digit := isYear.digits first List.mem_cons_self
      rw [(List.cons.inj same).1, noDigit] at digit
      cases digit
    have read : Scan.number 1 (some 4) (yearText ++ rest) = .ok (year, rest) :=
      Scan.number_append isYear positive (by simpa using fits)
        (by omega) settled
    have skipped := Scan.skipBlanks_append (isYear.solid positive) rest
    unfold readYear
    generalize yearText ++ rest = text at *
    refine Scan.bind_eq_ok_iff.mpr ⟨_, _, skipped,
      Scan.bind_eq_ok_iff.mpr ⟨_, _, rfl, ?_⟩⟩
    split
    · exact absurd rfl (noSign '-' _ rfl)
    · exact absurd rfl (noSign '+' _ rfl)
    · exact Scan.bind_eq_ok_iff.mpr ⟨_, _, read, rfl⟩
  exact (Scan.bind_of_ok scanned).trans
    (Scan.lift_eq_ok_iff.mpr ⟨if_pos inRange, rfl⟩)

end Years

/-! ## Hyphens -/

section Hyphens

open PatternItem

variable {width day : Nat} {dayText : List Char} {letter : Char}

/-- The name of a month does not begin with a digit. -/
theorem monthName_fails_of_digits
    (isDay : Numeral width day dayText)
    (positive : 1 ≤ width)
    (fields : Fields)
    (pattern : Pattern)
    (rest : List Char) :
    Scan.Fails (Pattern.read (.monthName :: pattern) fields)
      (dayText ++ rest) := by
  obtain ⟨first, later, rfl⟩ :=
    List.exists_cons_of_ne_nil (isDay.solid positive).nonempty
  have digit := isDay.digits first List.mem_cons_self
  exact Pattern.fails_cons
    ((Scan.name_fails (by decide) (Scan.not_isAlpha_of_isDigit digit) _).bind _)

/-- Behind a day and a hyphen stands no name of a month: the hyphen is none of
its letters. -/
theorem monthName_fails_of_hyphen
    (isDay : Numeral width day dayText)
    (positive : 1 ≤ width)
    (fits : width ≤ 2)
    (inMonth : 1 ≤ day ∧ day ≤ 31)
    (fields : Fields)
    (pattern : Pattern)
    (rest : List Char) :
    Scan.Fails (Pattern.read (.day :: .blanks :: .monthName :: pattern) fields)
      (dayText ++ '-' :: rest) := by
  have blanks : ∀ fields,
      PatternItem.read fields .blanks ('-' :: rest) =
        .ok (fields, '-' :: rest) :=
    fun _ => rfl
  refine Pattern.fails_of_cons
    (read_day isDay positive fits inMonth fields rfl) ?_
  exact Pattern.fails_of_cons (blanks _)
    (Pattern.fails_cons ((Scan.name_fails (by decide) (by decide) rest).bind _))

theorem slash_fails_of_hyphen
    (isDay : Numeral width day dayText)
    (positive : 1 ≤ width)
    (fits : width ≤ 2)
    (inMonth : 1 ≤ day ∧ day ≤ 31)
    (fields : Fields)
    (pattern : Pattern)
    (rest : List Char) :
    Scan.Fails (Pattern.read (.day :: .mark '/' :: pattern) fields)
      (dayText ++ '-' :: rest) :=
  Pattern.fails_of_cons (read_day isDay positive fits inMonth fields rfl)
    (Pattern.fails_cons ((Scan.exactly_fails (by decide) rest).bind _))

/-- A day may look like a year, but the month behind it is no number. -/
theorem month_fails_of_letter
    (isDay : Numeral width day dayText)
    (positive : 1 ≤ width)
    (fits : width ≤ 2)
    (isLetter : letter.isAlpha = true)
    (fields : Fields)
    (pattern : Pattern)
    (rest : List Char) :
    Scan.Fails (Pattern.read (.year :: .mark '-' :: .month :: pattern) fields)
      (dayText ++ '-' :: letter :: rest) := by
  have notBlank :=
    Text.isBlank_of_isAlphanum (Bool.or_eq_true_iff.mpr (.inl isLetter))
  have solid : Text.Solid [letter] :=
    ⟨List.cons_ne_nil _ _, List.forall_mem_singleton.mpr notBlank⟩
  have noDigit : ((letter :: rest).takeWhile Char.isDigit).length < 1 := by
    have stops : ¬ letter.isDigit = true := by
      intro digit
      rw [Scan.not_isAlpha_of_isDigit digit] at isLetter
      cases isLetter
    rw [List.takeWhile_cons_of_neg stops]
    decide
  have fails : Scan.Fails (readNumber 2) (letter :: rest) :=
    Scan.Fails.bind_of_ok (Scan.number_fails noDigit)
      (Scan.skipBlanks_append solid rest)
  exact Pattern.fails_of_cons (read_year isDay positive (by omega) fields rfl)
    (Pattern.fails_of_cons (read_mark _ '-' _)
      (Pattern.fails_cons (fails.bind _)))

end Hyphens

/-! ## The first pattern that fits -/

namespace MailDate

variable {text : List Char} {pattern : Pattern}

theorem ofPattern?_of_read
    {fields : Fields}
    {instant : Instant}
    (read : Pattern.read pattern Fields.none text = .ok (fields, []))
    (denoted : fields.instant.toOption = some instant) :
    ofPattern? text pattern = some instant := by
  unfold ofPattern? Pattern.fields?
  rw [read]
  dsimp only
  rw [denoted]
  rfl

theorem ofPattern?_of_fails
    (fails : Scan.Fails (Pattern.read pattern Fields.none) text) :
    ofPattern? text pattern = none := by
  unfold ofPattern? Pattern.fields?
  cases read : Pattern.read pattern Fields.none text with
  | error error => rfl
  | ok found => exact absurd read (fails found)

end MailDate

namespace HeaderDate

variable (header : HeaderDate) {dayText monthText : List Char}

/-- A pattern with the right item for the year notes all parts of a date. -/
theorem read_dated
    (isDay : DayText header.day dayText)
    (isMonth : MonthText header.month monthText)
    {yearItem : PatternItem}
    {year : Option Int}
    {shortYear : Option Nat}
    (isYear : ∀ rest, PatternItem.read
        { Fields.none with
          month := some header.month, day := some header.day } yearItem
        (header.year.text ++ ' ' :: rest) =
      .ok ({ Fields.none with
        month := some header.month, day := some header.day, year := year,
        shortYear := shortYear },
        ' ' :: rest)) :
    Pattern.read (MailDate.dayMonth yearItem ++
        MailDate.clock ++ [.blanks, .zone]) Fields.none
      (header.text ' ' dayText monthText) =
        .ok (header.fields year shortYear none, []) :=
  calc
    _ = Pattern.read
        (yearItem :: .blanks :: (MailDate.clock ++ [.blanks, .zone])) _
          (header.year.text ++ ' ' ::
            (header.clock.text ++ ' ' :: header.zone.text)) :=
        header.read_dayMonth isDay isMonth header.year.solid _ _
    _ = Pattern.read (.blanks :: (MailDate.clock ++ [.blanks, .zone])) _
          (' ' :: (header.clock.text ++ ' ' :: header.zone.text)) :=
        Pattern.read_cons (isYear _)
    _ = _ := header.read_clock _

/-- With blanks between its parts a date is read by a pattern. -/
theorem ofPatterns?_of_blanks
    (isDay : DayText header.day dayText)
    (isMonth : MonthText header.month monthText) :
    MailDate.ofPatterns? (header.text ' ' dayText monthText) =
      some (header.instant 70) := by
  have denoted : ∀ year shortYear,
      (year <|> shortYear.map Fields.pivotYear) =
          some (header.year.value 70 : Int) →
        (header.fields year shortYear none).instant.toOption =
          some (header.instant 70) := by
    intro year shortYear isYear
    rw [header.instant_fields (by decide) isYear]
    exact if_pos (fun _ absurd => nomatch absurd)
  unfold MailDate.ofPatterns? MailDate.patterns
  cases isYear : header.year with
  | short year twoDigits =>
      have isShort : Numeral 2 year header.year.text := by
        rw [isYear]
        exact numeral_of_lt twoDigits (by decide)
      have read := header.read_dated isDay isMonth fun rest =>
        read_shortYear isShort _ (' ' :: rest)
      have isValue : (none <|> (some year).map Fields.pivotYear) =
          some (header.year.value 70 : Int) := by
        rw [isYear]
        change some (if year < 70 then _ else _) =
            some (((if year < 70 then _ else _ : Nat)) : Int)
        split <;> rfl
      rw [List.findSome?_cons,
        MailDate.ofPattern?_of_read read (denoted _ _ isValue)]
  | full year fourDigits =>
      have isFull : Numeral 4 year header.year.text := by
        rw [isYear]
        exact numeral_of_lt fourDigits (by decide)
      have read := header.read_dated isDay isMonth fun rest =>
        read_year isFull (by decide) (by decide)
          _ (rfl : (' ' :: rest).takeWhile _ = [])
      have isValue :
          (some (year : Int) <|> (none : Option Nat).map Fields.pivotYear) =
          some (header.year.value 70 : Int) := by
        rw [isYear]
        rfl
      have fails : ∀ pattern,
          MailDate.ofPattern? (header.text ' ' dayText monthText)
          (.day :: .blanks :: .monthName :: .blanks :: .shortYear :: .blanks ::
            .hour :: .mark ':' ::
            pattern) = none := by
        intro pattern
        refine MailDate.ofPattern?_of_fails fun found => ?_
        have yearPart := header.read_dayMonth isDay isMonth header.year.solid
          (.shortYear :: .blanks :: .hour :: .mark ':' :: pattern)
          (' ' :: (header.clock.text ++ ' ' :: header.zone.text))
        rw [text, yearPart]
        exact shortYear_fails_of_full isFull _ _ _ found
      -- The first two patterns take a short year and differ from there on only
      -- in the seconds.
      have first : MailDate.ofPattern? (header.text ' ' dayText monthText)
          (MailDate.dayMonth .shortYear ++ MailDate.clock ++ [.blanks, .zone]) =
            none := fails _
      have second : MailDate.ofPattern? (header.text ' ' dayText monthText)
          (MailDate.dayMonth .shortYear ++
            MailDate.shortClock ++ [.blanks, .zone]) = none := fails _
      rw [List.findSome?_cons, first, List.findSome?_cons, second,
        List.findSome?_cons,
        MailDate.ofPattern?_of_read read (denoted _ _ isValue)]

/-- With hyphens between its parts a date fits no pattern. -/
theorem ofPatterns?_of_hyphens
    (isDay : DayText header.day dayText)
    (isMonth : MonthText header.month monthText) :
    MailDate.ofPatterns? (header.text '-' dayText monthText) = none := by
  obtain ⟨width, one, two, isDay⟩ := isDay
  have monthFits := header.month_inYear
  have inMonth : 1 ≤ header.day ∧ header.day ≤ 31 :=
    day_le_of_isValid header.valid
  obtain ⟨letter, others, isName⟩ :=
    List.exists_cons_of_ne_nil (isMonth.solid monthFits).nonempty
  have isLetter : letter.isAlpha = true :=
    isMonth.isAlpha monthFits letter (isName ▸ List.mem_cons_self)
  obtain ⟨rest, isRest⟩ : ∃ rest, header.text '-' dayText monthText =
      dayText ++ '-' :: letter :: rest := ⟨_, by rw [text, isName]; rfl⟩
  rw [isRest]
  have noMonthName := fun pattern =>
    monthName_fails_of_hyphen isDay one two inMonth Fields.none pattern
      (letter :: rest)
  have noMonth := fun pattern =>
    month_fails_of_letter isDay one two isLetter Fields.none pattern rest
  have fails : ∀ pattern ∈ MailDate.patterns,
      Scan.Fails (Pattern.read pattern Fields.none)
        (dayText ++ '-' :: letter :: rest) := by
    simp only [MailDate.patterns, List.forall_mem_cons]
    exact ⟨noMonthName _, noMonthName _, noMonthName _, noMonthName _,
      noMonthName _, monthName_fails_of_digits isDay one _ _ _, noMonth _,
      noMonth _, noMonth _, noMonth _,
      slash_fails_of_hyphen isDay one two inMonth _ _ _, List.forall_mem_nil _⟩
  exact List.findSome?_eq_none_iff.mpr fun pattern isPattern =>
    MailDate.ofPattern?_of_fails (fails pattern isPattern)

end HeaderDate

end Calendar
end MailSearch
