import Mathlib.Tactic.IntervalCases
import MailSearch.Calendar.MailDate
import MailSearch.Proofs.Calendar.HeaderDate
import MailSearch.Proofs.Text.LineEnd

/-!
# Stages of reading a header date

A header date loses the blanks around it and a comment at its end.  Then the
standard forms are tried, and behind them the patterns, without the day of the
week and with blanks in place of hyphens.  The first stage that reads a date
decides.
-/

namespace MailSearch
namespace Calendar
namespace MailDate

/-! ## The stage that decides -/

section Stages

variable {text core : List Char} {instant : Instant}

theorem read?_of_mail
    (isCore : dropComment (Text.trim text) = core)
    (nonempty : core ≠ [])
    (read : (ofMail core).toOption = some instant) :
    read? text = some instant := by
  unfold read?
  dsimp only
  rw [isCore, if_neg (by rwa [List.isEmpty_iff]), read]
  rfl

theorem read?_of_internet
    (isCore : dropComment (Text.trim text) = core)
    (nonempty : core ≠ [])
    (noMail : (ofMail core).toOption = none)
    (read : (ofInternet core).toOption = some instant) :
    read? text = some instant := by
  unfold read?
  dsimp only
  rw [isCore, if_neg (by rwa [List.isEmpty_iff]), noMail, read]
  rfl

/-- Of the patterns, those for the text itself decide, or those for the text
without hyphens. -/
theorem read?_of_patterns
    (isCore : dropComment (Text.trim text) = core)
    (nonempty : core ≠ [])
    (noMail : (ofMail core).toOption = none)
    (noInternet : (ofInternet core).toOption = none)
    (read : (ofPatterns? (dropWeekday core) <|>
        ofPatterns? (replaceHyphens (dropWeekday core))) =
      some instant) :
    read? text = some instant := by
  unfold read?
  dsimp only
  rw [isCore, if_neg (by rwa [List.isEmpty_iff]), noMail, noInternet,
    List.findSome?_cons]
  cases bare : ofPatterns? (dropWeekday core) with
  | some found =>
      rw [bare] at read
      rw [← read]
      rfl
  | none =>
      rw [bare] at read
      have replaced : ofPatterns? (replaceHyphens (dropWeekday core)) =
          some instant := read
      dsimp only
      rw [List.findSome?_cons, replaced]
      rfl

end Stages

/-! ## Comments -/

/-- Nothing is dropped from a text that ends in another way. -/
theorem dropComment_of_last
    {last : List Char}
    (nonempty : last ≠ [])
    (unclosed : ')' ∉ last)
    (front : List Char) :
    dropComment (front ++ last) = front ++ last := by
  have goesOn : ¬ (front ++ last).getLast? = some ')' := by
    rw [List.getLast?_append_of_ne_nil _ nonempty]
    intro isLast
    exact unclosed (List.mem_of_getLast? isLast)
  rw [dropComment, if_neg goesOn]

/-- Blanks around a text do not count, and nothing is dropped if it ends without
a parenthesis. -/
theorem dropComment_trim
    {front back text start last : List Char}
    (blankFront : ∀ c ∈ front, Text.isBlank c = true)
    (blankBack : ∀ c ∈ back, Text.isBlank c = true)
    (framed : Text.Framed text)
    (isText : text = start ++ last)
    (nonempty : last ≠ [])
    (unclosed : ')' ∉ last) :
    dropComment (Text.trim (front ++ text ++ back)) = text := by
  rw [Text.trim_append_of_blank_back blankBack,
    Text.trim_append_of_blank_front blankFront, framed.trim_eq, isText]
  exact dropComment_of_last nonempty unclosed start

/-- A comment at the end is dropped with the blank before it. -/
theorem dropComment_comment
    {front last comment : List Char}
    (solid : Text.Solid last)
    (plain : '(' ∉ comment) :
    dropComment (front ++ last ++ ' ' :: '(' :: (comment ++ [')'])) =
      front ++ last := by
  have closed : (front ++ last ++ ' ' :: '(' :: (comment ++ [')'])).getLast? =
      some ')' := by
    rw [List.getLast?_append_of_ne_nil _ (List.cons_ne_nil _ _),
      ← List.cons_append, ← List.cons_append, List.getLast?_concat]
  have plainToEnd : '(' ∉ comment ++ [')'] := by
    simpa using plain
  have split : front ++ last ++ ' ' :: '(' :: (comment ++ [')']) =
      (front ++ last ++ [' ']) ++ '(' :: (comment ++ [')']) := by
    simp only [List.append_assoc, List.cons_append, List.nil_append]
  rw [dropComment, if_pos closed, split, Text.cutLast_append_cons plainToEnd]
  dsimp only
  rw [Text.trimBack_append_of_blank (List.forall_mem_singleton.mpr rfl),
    solid.trimBack_append]

/-! ## Days of the week -/

/-- The day of the week is dropped, if one stands in front of a text that begins
with a digit. -/
theorem dropWeekday_weekdayText
    (weekday : Option (Fin 7))
    {text : List Char}
    (framed : Text.Framed text)
    (digit : ∀ c ∈ text.head?, c.isDigit = true) :
    dropWeekday (weekdayText weekday ++ text) = text := by
  cases weekday with
  | none =>
      have letters : ∀ name ∈ weekdayNames, name.toList.head?.any Char.isAlpha =
          true := by
        decide
      have noName : ∀ name ∈ weekdayNames,
          ¬ name.toList.isPrefixOf text = true := by
        intro name isName starts
        obtain ⟨rest, rfl⟩ := List.isPrefixOf_iff_prefix.mp starts
        have letter := letters name isName
        cases spelled : name.toList with
        | nil =>
            rw [spelled] at letter
            cases letter
        | cons c later =>
            rw [spelled, List.head?_cons, Option.any_some] at letter
            rw [spelled] at digit
            rw [Scan.not_isAlpha_of_isDigit (digit c rfl)] at letter
            cases letter
      have none : (weekdayNames.findSome? fun name =>
          if name.toList.isPrefixOf text then
            let rest := text.drop 3
            if rest.head? = some ',' ∨ rest.head? = some ' ' then
              some (Text.trim (rest.dropWhile (· == ',')))
            else none
          else none) = none :=
        List.findSome?_eq_none_iff.mpr fun name isName =>
          if_neg (noName name isName)
      rw [weekdayText, List.nil_append, dropWeekday]
      dsimp only
      rw [none]
      rfl
  | some weekday =>
      have dropped : dropWeekday (weekdayName weekday ++ [',', ' '] ++ text) =
          Text.trim (' ' :: text) := by
        obtain ⟨index, inWeek⟩ := weekday
        dsimp only
        interval_cases index <;> rfl
      rw [weekdayText, dropped]
      exact (Text.trim_append_of_blank_front (List.forall_mem_singleton.mpr rfl)
          text).trans
        framed.trim_eq

/-! ## Hyphens -/

/-- The names of the months are found in any letter case. -/
theorem find?_monthName :
    ∀ index < 12, (monthNames.find? fun name =>
      name.toList.map Char.toLower ==
          (monthName (index + 1)).map Char.toLower).map String.toList =
        some (monthName (index + 1)) := by
  decide

/-- A date with hyphens is written with blanks, and with the month in its usual
spelling. -/
theorem replaceHyphens_text
    (header : HeaderDate)
    {dayText monthText : List Char}
    (isDay : DayText header.day dayText)
    (isMonth : MonthText header.month monthText) :
    replaceHyphens (header.text '-' dayText monthText) =
      header.text ' ' dayText (monthName header.month) := by
  obtain ⟨width, one, two, isDay⟩ := isDay
  have monthFits := header.month_inYear
  have monthPlace : header.month - 1 + 1 = header.month := by omega
  have dayPlain : '-' ∉ dayText :=
    fun isChar => absurd (isDay.digits _ isChar) (by decide)
  have monthPlain : '-' ∉ monthText := fun isChar =>
    absurd (isMonth.isAlpha monthFits _ isChar) (by decide)
  have isTitle := find?_monthName (header.month - 1) (by omega)
  rw [monthPlace, ← isMonth] at isTitle
  obtain ⟨title, found, spelled⟩ := Option.map_eq_some_iff.mp isTitle
  rw [replaceHyphens, HeaderDate.text, Text.cutFirst_append_cons dayPlain]
  dsimp only
  rw [Text.cutFirst_append_cons monthPlain]
  dsimp only
  rw [found]
  dsimp only
  rw [if_pos (List.all_eq_true.mpr isDay.digits), spelled, HeaderDate.text]
  simp only [List.append_assoc, List.cons_append]

end MailDate
end Calendar
end MailSearch
