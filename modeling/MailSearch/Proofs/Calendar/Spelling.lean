import MailSearch.Proofs.Calendar.MailDate
import MailSearch.Proofs.Calendar.Patterns

/-!
# Spellings of a header date

The same date may be written with blanks or hyphens, with a day of the week, be
it the right one or not, and with a comment.  Every spelling is read, and all of
them mean the same instant unless the year is written as one of the two digits
from 50 to 69: the mail form puts these years into the last century and the
patterns put them into this one.
-/

namespace MailSearch
namespace Calendar

/-! ## Writing a date -/

/-- A way of writing a date in a header. -/
structure Spelling where
  /-- Whether a day before the tenth begins with a zero. -/
  zero : Bool
  /-- Whether hyphens stand between day, month and year. -/
  hyphens : Bool
  /-- The places in the name of the month at which capitals stand. -/
  capital : Nat -> Bool
  /-- The day of the week in front of the date. -/
  weekday : Option (Fin 7)
  /-- The comment behind the date. -/
  comment : Option String
  /-- The comment is free of parentheses. -/
  plain : ∀ text ∈ comment, '(' ∉ text.toList ∧ ')' ∉ text.toList

namespace Spelling

/-- The day of the month. -/
def dayText (spelling : Spelling) (day : Nat) : List Char :=
  padded (if spelling.zero then 2 else 1) day

/-- The name of the month. -/
def monthText (spelling : Spelling) (month : Nat) : List Char :=
  (monthName month).zipIdx.map fun (c, place) =>
    if spelling.capital place then c.toUpper else c.toLower

/-- The comment in its parentheses, and a blank before it. -/
def commentText (spelling : Spelling) : List Char :=
  match spelling.comment with
  | none => []
  | some text => ' ' :: '(' :: (text.toList ++ [')'])

/-- The date and the time, with the day of the week if there is one. -/
def core (spelling : Spelling) (header : HeaderDate) : List Char :=
  weekdayText spelling.weekday ++
      header.text (if spelling.hyphens then '-' else ' ')
    (spelling.dayText header.day) (spelling.monthText header.month)

/-- The text of a date in the spelling. -/
def write (spelling : Spelling) (header : HeaderDate) : String :=
  String.ofList (spelling.core header ++ spelling.commentText)

/-- The spelling of a date is the mail form, which has blanks and no wrong day
of the week. -/
def IsMailForm (spelling : Spelling) (header : HeaderDate) : Prop :=
  spelling.hyphens = false ∧
    ∀ named ∈ spelling.weekday.map Fin.val, (header.date 50).weekday = named

instance (spelling : Spelling) (header : HeaderDate) :
    Decidable (spelling.IsMailForm header) :=
  inferInstanceAs (Decidable (_ ∧ _))

variable (spelling : Spelling) (header : HeaderDate)

theorem isDay : DayText header.day (spelling.dayText header.day) := by
  have dayFits : 1 ≤ header.day ∧ header.day ≤ 31 :=
    day_le_of_isValid header.valid
  have digits :=
    length_toDigits_le (show header.day < 10 ^ 2 by omega) (by decide)
  refine ⟨_, ?_, ?_, numeral_padded _ header.day⟩
  · split <;> omega
  · split <;> omega

theorem isMonth : MonthText header.month (spelling.monthText header.month) := by
  have letters : ∀ index < 12, ∀ c ∈ monthName (index + 1),
      c.toUpper.toLower = c.toLower ∧ c.toLower.toLower = c.toLower := by
    decide
  have monthFits := header.month_inYear
  have monthPlace : header.month - 1 + 1 = header.month := by omega
  have isLetter := letters (header.month - 1) (by omega)
  rw [monthPlace] at isLetter
  have same : ∀ letter ∈ (monthName header.month).zipIdx,
      Char.toLower (if spelling.capital letter.2 then letter.1.toUpper
          else letter.1.toLower) =
        letter.1.toLower := by
    intro letter isChar
    obtain ⟨fromCapital, fromSmall⟩ :=
      isLetter _ (List.fst_mem_of_mem_zipIdx isChar)
    split
    · exact fromCapital
    · exact fromSmall
  rw [MonthText, monthText, List.map_map]
  calc
    _ = (monthName header.month).zipIdx.map fun letter => letter.1.toLower :=
        List.map_congr_left same
    _ = ((monthName header.month).zipIdx.map Prod.fst).map Char.toLower := by
        rw [List.map_map]
        rfl
    _ = _ := by rw [List.zipIdx_map_fst]

/-! ## Reading it again -/

/-- No blanks stand around the date, and a comment at its end is none of its
own. -/
theorem dropComment_trim_write :
    MailDate.dropComment (Text.trim (spelling.write header).toList) =
      spelling.core header := by
  have coreFramed : Text.Framed (spelling.core header) :=
    header.framed_text spelling.weekday (spelling.isDay header) _ _
  obtain ⟨front, ends⟩ : ∃ front,
      spelling.core header = front ++ header.zone.text :=
    header.exists_front _ _ _ _
  rw [write, String.toList_ofList]
  cases isComment : spelling.comment with
  | none =>
      rw [commentText, isComment, List.append_nil, coreFramed.trim_eq, ends]
      exact MailDate.dropComment_of_last header.zone.solid.nonempty
        header.zone.closing_not_mem front
  | some text =>
      have plain := (spelling.plain text isComment).1
      have closing : Text.Framed [')'] :=
        .of_solid (List.cons_ne_nil _ _) (by decide)
      have framed := coreFramed.append (' ' :: '(' :: text.toList) closing
      have written : spelling.core header ++ spelling.commentText =
          spelling.core header ++ ' ' :: '(' :: text.toList ++ [')'] := by
        rw [commentText, isComment]
        simp only [List.append_assoc, List.cons_append]
      rw [written, framed.trim_eq, ends, List.append_assoc, List.cons_append,
        List.cons_append]
      exact MailDate.dropComment_comment header.zone.solid plain

/-- Every spelling is read, with the mail form's century or with that of the
patterns. -/
theorem read_write :
    MailDate.ofText? (spelling.write header) =
      some (header.instant (if spelling.IsMailForm header then 50
        else 70)) := by
  have isDay := spelling.isDay header
  have isMonth := spelling.isMonth header
  have isCore := spelling.dropComment_trim_write header
  have framed : ∀ mark, Text.Framed
      (header.text mark (spelling.dayText header.day)
        (spelling.monthText header.month)) :=
    fun mark => header.framed_text none isDay mark _
  have bare : ∀ mark, MailDate.dropWeekday (weekdayText spelling.weekday ++
      header.text mark (spelling.dayText header.day)
          (spelling.monthText header.month)) =
        header.text mark (spelling.dayText header.day)
          (spelling.monthText header.month) := by
    intro mark
    refine MailDate.dropWeekday_weekdayText _ (framed mark) fun c isFirst => ?_
    obtain ⟨first, rest, split, digit⟩ := header.exists_cons isDay mark _
    rw [split, List.head?_cons, Option.mem_some_iff] at isFirst
    rwa [← isFirst]
  have nonempty : spelling.core header ≠ [] := by
    obtain ⟨front, ends⟩ : ∃ front,
        spelling.core header = front ++ header.zone.text :=
      header.exists_front _ _ _ _
    rw [ends]
    exact List.append_ne_nil_of_right_ne_nil front header.zone.solid.nonempty
  unfold core at isCore nonempty
  cases hasHyphens : spelling.hyphens with
  | true =>
      have notMail : ¬ spelling.IsMailForm header := by
        rw [IsMailForm, hasHyphens]
        exact fun both => nomatch both.1
      simp only [hasHyphens, if_true] at isCore nonempty
      rw [if_neg notMail]
      refine MailDate.read?_of_patterns isCore nonempty
        (header.toOption_ofMail_of_hyphens _ _ isDay)
        (header.toOption_ofInternet_text _ _ isDay (by decide)) ?_
      -- Without hyphens the text would be the mail form, but that is not tried
      -- again.
      rw [bare, header.ofPatterns?_of_hyphens isDay isMonth,
        MailDate.replaceHyphens_text header isDay isMonth,
          header.ofPatterns?_of_blanks isDay rfl]
      rfl
  | false =>
      simp only [hasHyphens, Bool.false_eq_true, if_false] at isCore nonempty
      have isMail := header.toOption_ofMail_text spelling.weekday isDay isMonth
      by_cases agrees : ∀ named ∈ spelling.weekday.map Fin.val,
        (header.date 50).weekday = named
      · rw [if_pos agrees] at isMail
        rw [if_pos ⟨hasHyphens, agrees⟩]
        exact MailDate.read?_of_mail isCore nonempty isMail
      · rw [if_neg agrees] at isMail
        rw [if_neg fun both => agrees both.2]
        refine MailDate.read?_of_patterns isCore nonempty isMail
          (header.toOption_ofInternet_text _ _ isDay (by decide)) ?_
        rw [bare, header.ofPatterns?_of_blanks isDay isMonth]
        rfl

end Spelling

/-! ## Years between the pivots -/

/-- The year has two digits, which the mail form and the patterns put into
different centuries. -/
def HeaderYear.IsAmbiguous : HeaderYear -> Prop
  | .short year _ => 50 ≤ year ∧ year < 70
  | .full _ _ => False

theorem HeaderYear.value_eq_iff
    (year : HeaderYear) :
    year.value 50 = year.value 70 ↔ ¬ year.IsAmbiguous := by
  cases year with
  | short year twoDigits =>
      unfold value IsAmbiguous
      dsimp only
      split <;> split <;> omega
  | full year fourDigits => exact ⟨fun _ absurd => absurd, fun _ => rfl⟩

/-- Days of the same name in different years are different days. -/
theorem Date.number_injective_in_year
    {year other : Int}
    {month day : Nat}
    (inYear : month ≤ 12)
    (same : Date.number ⟨year, month, day⟩ = Date.number ⟨other, month, day⟩) :
    year = other := by
  have before := monthStart_le year month
  have beforeOther := monthStart_le other month
  simp only [Date.number, yearStart] at same
  omega

theorem HeaderDate.instant_eq_iff
    (header : HeaderDate) :
    header.instant 50 = header.instant 70 ↔ ¬ header.year.IsAmbiguous := by
  rw [← HeaderYear.value_eq_iff]
  constructor
  · intro same
    have seconds := congrArg Instant.second same
    have days : (header.date 50).number = (header.date 70).number := by
      simp only [instant] at seconds
      omega
    exact Int.ofNat_inj.mp
      (Date.number_injective_in_year header.month_inYear.2 days)
  · intro same
    rw [instant, instant, date, date, same]

/--
A date is read from every spelling as one of two instants, by the century that
the mail form or the patterns give it.  So all spellings mean the same instant
if and only if the year is written in full or lies outside the years from 50 to
69.
-/
theorem spellings_read_alike_iff
    (header : HeaderDate) :
    (∀ spelling : Spelling, MailDate.ofText? (spelling.write header) =
      some (header.instant (if spelling.IsMailForm header then 50 else 70))) ∧
    ((∀ spelling other : Spelling, MailDate.ofText? (spelling.write header) =
        MailDate.ofText? (other.write header)) ↔
      ¬ header.year.IsAmbiguous) := by
  refine ⟨fun spelling => spelling.read_write header, ?_⟩
  constructor
  · intro alike
    have plain : ∀ text ∈ (none : Option String),
        '(' ∉ text.toList ∧ ')' ∉ text.toList := nofun
    have mail : Spelling.IsMailForm ⟨true, false, fun _ => false, none, none,
        plain⟩ header :=
      ⟨rfl, nofun⟩
    have pattern : ¬ Spelling.IsMailForm
        ⟨true, true, fun _ => false, none, none, plain⟩ header :=
      fun both => nomatch both.1
    have same := alike ⟨true, false, fun _ => false, none, none, plain⟩
      ⟨true, true, fun _ => false, none, none, plain⟩
    rw [Spelling.read_write, Spelling.read_write, if_pos mail,
      if_neg pattern] at same
    exact header.instant_eq_iff.mp (Option.some.inj same)
  · intro definite spelling other
    have same := header.instant_eq_iff.mpr definite
    have either : ∀ spelling : Spelling,
        header.instant (if spelling.IsMailForm header then 50 else 70) =
          header.instant 70 := by
      intro spelling
      split
      · exact same
      · rfl
    rw [spelling.read_write, other.read_write, either, either]

/-- A date in the year 50 lies in another century if it is written with
hyphens. -/
theorem century_depends_on_hyphens :
    MailDate.ofText? "1 Jan 50 00:00:00 +0000" = some ⟨-631152000, 0⟩ ∧
      MailDate.ofText? "1-Jan-50 00:00:00 +0000" = some ⟨2524608000, 0⟩ := by
  decide +kernel

end Calendar
end MailSearch
