import Mathlib.Order.Monotone.Basic
import MailSearch.Calendar.Civil

/-!
# Days and their numbers

Every day has a date, and that date has the number of the day.  The year of a
day is the last one that does not start behind it, and so is the month within
the year.
-/

namespace MailSearch
namespace Calendar

/-! ## The last start before a value -/

/--
In a row of starts, the number of those that do not lie behind a value, the
first one left out, is the place of the last of them.
-/
theorem last_start
    {start : Nat -> Int}
    (ascending : ∀ place, start place ≤ start (place + 1))
    {value : Int}
    (begins : start 0 ≤ value)
    {reached : Nat -> Bool}
    (reached_iff : ∀ place, reached place = true ↔ start (place + 1) ≤ value)
    (length : Nat) :
    start ((List.range length).countP reached) ≤ value ∧
      ((List.range length).countP reached < length →
        value < start ((List.range length).countP reached + 1)) := by
  induction length with
  | zero => exact ⟨begins, fun absurd => nomatch absurd⟩
  | succ length inductionHypothesis =>
      obtain ⟨notBehind, isLast⟩ := inductionHypothesis
      have atMost :=
        List.countP_le_length (p := reached) (l := List.range length)
      rw [List.length_range] at atMost
      rw [List.range_succ, List.countP_append, List.countP_singleton]
      generalize (List.range length).countP reached = place at *
      -- A start that is not behind the value has all earlier starts before it,
      -- so none was left out.
      by_cases goesOn : start (length + 1) ≤ value
      · rw [if_pos ((reached_iff length).mpr goesOn)]
        have isWhole : place = length := by
          by_contra different
          have behind := isLast (by omega)
          have before :=
            monotone_nat_of_le_succ ascending (show place + 1 ≤
              length + 1 by omega)
          omega
        rw [isWhole]
        exact ⟨goesOn, fun absurd => (Nat.lt_irrefl _ absurd).elim⟩
      · rw [if_neg (mt (reached_iff length).mp goesOn), Nat.add_zero]
        refine ⟨notBehind, fun inRow => ?_⟩
        rcases Nat.lt_succ_iff_lt_or_eq.mp inRow with before | rfl
        · exact isLast before
        · exact Int.not_le.mp goesOn

/-- The last start lies before a value, and the next one, also at the end of the
row, behind it. -/
theorem place_of_value
    {start : Nat -> Int}
    (ascending : ∀ place, start place ≤ start (place + 1))
    {value : Int}
    {reached : Nat -> Bool}
    (reached_iff : ∀ place, reached place = true ↔ start (place + 1) ≤ value)
    {length place : Nat}
    (begins : start 0 ≤ value)
    (ends : value < start (length + 1))
    (isPlace : (List.range length).countP reached = place) :
    place ≤ length ∧ start place ≤ value ∧ value < start (place + 1) := by
  obtain ⟨notBehind, isLast⟩ := last_start ascending begins reached_iff length
  have atMost := List.countP_le_length (p := reached) (l := List.range length)
  rw [List.length_range] at atMost
  rw [isPlace] at notBehind isLast atMost
  refine ⟨atMost, notBehind, ?_⟩
  rcases Nat.lt_or_eq_of_le atMost with inRow | rfl
  · exact isLast inRow
  · exact ends

/-! ## Months -/

theorem monthStart_one
    (year : Int) :
    monthStart year 1 = 0 := rfl

theorem monthStart_succ
    (year : Int)
    {month : Nat}
    (isMonth : 1 ≤ month) :
    monthStart year (month + 1) = monthStart year month +
      daysInMonth year month := by
  obtain ⟨before, rfl⟩ : ∃ before, month = before + 1 := ⟨month - 1, by omega⟩
  simp only [monthStart, Nat.add_sub_cancel, List.range_succ, List.map_append,
    List.foldl_append]
  rfl

/-- A day of a year lies in its month. -/
theorem monthOf_contains
    {year : Int}
    {index : Nat}
    (inYear : index < monthStart year 13) :
    (1 ≤ Date.monthOf year index ∧ Date.monthOf year index ≤ 12) ∧
      monthStart year (Date.monthOf year index) ≤ index ∧
      index < monthStart year (Date.monthOf year index + 1) := by
  have ascending : ∀ earlier : Nat,
      (monthStart year (earlier + 1) : Int) ≤
        monthStart year (earlier + 1 + 1) := by
    intro earlier
    rw [monthStart_succ year (Nat.le_add_left 1 earlier)]
    omega
  have reached_iff : ∀ earlier : Nat,
      decide (monthStart year (earlier + 2) ≤ index) = true ↔
      (monthStart year (earlier + 1 + 1) : Int) ≤ index := by
    intro earlier
    rw [decide_eq_true_iff, Int.ofNat_le]
  have begins : (monthStart year (0 + 1) : Int) ≤ index := by
    rw [monthStart_one]
    exact Int.natCast_nonneg index
  obtain ⟨place, isPlace⟩ : ∃ place, (List.range 11).countP
      (fun earlier => decide (monthStart year (earlier + 2) ≤ index)) =
        place := ⟨_, rfl⟩
  obtain ⟨atMost, notBehind, before⟩ :=
    place_of_value ascending reached_iff begins
      (Int.ofNat_lt.mpr inYear) isPlace
  rw [Date.monthOf, isPlace, Nat.add_comm 1 place]
  exact ⟨by omega, Int.ofNat_le.mp notBehind, Int.ofNat_lt.mp before⟩

/-! ## Years -/

/-- The months fill the year. -/
theorem yearStart_succ
    (year : Int) :
    yearStart (year + 1) = yearStart year + monthStart year 13 := by
  have months : monthStart year 13 = if isLeap year then 366 else 365 := by
    cases leap : isLeap year <;>
      simp [monthStart, daysInMonth, List.range, List.range.loop, leap]
  rw [months]
  simp only [yearStart, isLeap, Bool.and_eq_true, Bool.or_eq_true, beq_iff_eq,
    bne_iff_ne]
  split <;> omega

/-- The calendar repeats itself after 400 years. -/
theorem yearStart_add_cycles
    (year cycles : Int) :
    yearStart (year + 400 * cycles) = yearStart year + 146097 * cycles := by
  simp only [yearStart]
  omega

/-- A day lies in its year. -/
theorem yearOf_contains
    (number : Int) :
    yearStart (Date.yearOf number) ≤ number ∧
      number < yearStart (Date.yearOf number + 1) := by
  obtain ⟨first, isFirst⟩ : ∃ first,
      400 * ((number - yearStart 1) / 146097) + 1 = first :=
    ⟨_, rfl⟩
  have ascending : ∀ later : Nat,
      yearStart (first + later) ≤ yearStart (first + (later + 1 : Nat)) := by
    intro later
    rw [Int.natCast_succ, ← Int.add_assoc, yearStart_succ]
    omega
  have reached_iff : ∀ later : Nat,
      decide (yearStart (first + later + 1) ≤ number) = true ↔
      yearStart (first + (later + 1 : Nat)) ≤ number := by
    intro later
    rw [decide_eq_true_iff, Int.natCast_succ, Int.add_assoc]
  have cycleStart := yearStart_add_cycles 1 ((number - yearStart 1) / 146097)
  have cycleEnd := yearStart_add_cycles 1 ((number - yearStart 1) / 146097 + 1)
  rw [show 1 + 400 * ((number - yearStart 1) / 146097) = first + (0 : Nat) by
    omega] at cycleStart
  rw [show 1 + 400 * ((number - yearStart 1) / 146097 + 1) =
      first + (399 + 1 : Nat) by omega]
    at cycleEnd
  obtain ⟨place, isPlace⟩ : ∃ place, (List.range 399).countP
      (fun later : Nat => decide (yearStart (first + later + 1) ≤ number)) =
        place := ⟨_, rfl⟩
  obtain ⟨-, notBehind, before⟩ :=
    place_of_value ascending reached_iff (by omega) (by omega) isPlace
  rw [Int.natCast_succ, ← Int.add_assoc] at before
  have isYear : Date.yearOf number = first + place := by
    rw [← isPlace, ← isFirst]
    rfl
  rw [isYear]
  exact ⟨notBehind, before⟩

/-! ## Dates -/

namespace Date

/-- The date of a day exists, and it has the number of the day. -/
theorem ofNumber_spec
    (number : Int) :
    (ofNumber number).isValid = true ∧ (ofNumber number).number = number := by
  obtain ⟨begins, ends⟩ := yearOf_contains number
  rw [yearStart_succ] at ends
  unfold ofNumber
  generalize yearOf number = year at *
  have inYear : (number - yearStart year).toNat < monthStart year 13 := by
    omega
  obtain ⟨isMonth, notBehind, before⟩ := monthOf_contains inYear
  dsimp only
  generalize monthOf year (number - yearStart year).toNat = month at *
  rw [monthStart_succ year isMonth.1] at before
  constructor
  · simp only [isValid, Bool.and_eq_true, decide_eq_true_eq]
    omega
  · simp only [Date.number]
    omega

end Date

end Calendar
end MailSearch
