import Mathlib.Data.List.Basic
import Mathlib.Data.List.TakeWhile
import MailSearch.Toml.Scalar

/-!
# Whole numbers back and forth

A whole number is written in decimal digits.  Digits alone are no date and no
floating-point number, and denote the number that they were written for.
-/

namespace MailSearch
namespace Toml

/-- A character of a class is none that does not belong to it. -/
theorem ne_of_class
    {isClass : Char -> Bool}
    {c mark : Char}
    (inside : isClass c = true)
    (outside : isClass mark = false) :
    c ≠ mark := by
  rintro rfl
  rw [inside] at outside
  cases outside

/-! ## Digits -/

/-- A text has digits only. -/
def AllDigits (text : List Char) : Prop :=
  ∀ c ∈ text, c.isDigit = true

namespace AllDigits

variable {text : List Char}

theorem not_mem
    (digits : AllDigits text)
    {c : Char}
    (notDigit : c.isDigit = false) :
    c ∉ text :=
  fun isChar => ne_of_class (digits c isChar) notDigit rfl

theorem isScalarChar
    (digits : AllDigits text) :
    ∀ c ∈ text, isScalarChar c = true := by
  intro c isChar
  simp [Toml.isScalarChar, Char.isAlphanum, digits c isChar]

/-- Digits without underscores are read as they are. -/
theorem digits?_eq
    (digits : AllDigits text)
    (nonempty : text ≠ []) :
    digits? Char.isDigit text = some text := by
  induction text with
  | nil => exact absurd rfl nonempty
  | cons c later inductionHypothesis =>
      obtain ⟨first, others⟩ := List.forall_mem_cons.mp digits
      cases later with
      | nil => rw [digits?, if_pos first]
      | cons second rest =>
          have noMark : ∀ behind, second :: rest = '_' :: behind → False := by
            intro behind same
            have isMark := others second List.mem_cons_self
            rw [(List.cons.inj same).1] at isMark
            cases isMark
          have more : second :: rest ≠ [] := List.cons_ne_nil second rest
          rw [digits?.eq_4 _ c (second :: rest) more noMark, if_pos first,
            inductionHypothesis others more, Option.map_some]

/-- Digits are no day and no time of day. -/
theorem isDay_eq_false
    (digits : AllDigits text) :
    isDay text = false := by
  apply isDay.eq_2
  rintro a b c d e f g h rfl
  exact digits.not_mem (c := '-') rfl (by simp)

theorem isClock_eq_false
    (digits : AllDigits text) :
    isClock text = false := by
  apply isClock.eq_2
  rintro a b c d e f rest rfl
  exact digits.not_mem (c := ':') rfl (by simp)

theorem isDate_eq_false
    (digits : AllDigits text) :
    isDate text = false := by
  have front : AllDigits (text.take 10) :=
    fun c isChar => digits c (List.mem_of_mem_take isChar)
  unfold isDate
  split
  · rw [digits.isDay_eq_false, digits.isClock_eq_false]
    rfl
  · rw [front.isDay_eq_false, digits.isClock_eq_false]
    rfl

theorem cutSign_eq
    (digits : AllDigits text) :
    cutSign text = (false, text) := by
  apply cutSign.eq_3
  · rintro rest rfl
    exact digits.not_mem (c := '-') rfl List.mem_cons_self
  · rintro rest rfl
    exact digits.not_mem (c := '+') rfl List.mem_cons_self

/-- A text without a mark is not cut at it. -/
theorem cutAt_eq_none
    {isMark : Char -> Bool}
    (unmarked : ∀ c ∈ text, isMark c = false) :
    cutAt isMark text = none := by
  have all : text.dropWhile (fun c => !isMark c) = [] := by
    apply List.dropWhile_eq_nil_iff.mpr
    intro c isChar
    rw [unmarked c isChar, Bool.not_false]
  rw [cutAt, all]

/-- Digits without a point and without a power of ten are no floating-point
number. -/
theorem isReal_eq_false
    (digits : AllDigits text) :
    isReal text = false := by
  have noPower : cutAt (fun c => c = 'e' || c = 'E') text = none := by
    apply cutAt_eq_none
    intro c isChar
    have notLower : c ≠ 'e' := fun same => digits.not_mem rfl (same ▸ isChar)
    have notUpper : c ≠ 'E' := fun same => digits.not_mem rfl (same ▸ isChar)
    simp [notLower, notUpper]
  have noPoint : cutAt (· = '.') text = none := by
    apply cutAt_eq_none
    intro c isChar
    have notPoint : c ≠ '.' := fun same => digits.not_mem rfl (same ▸ isChar)
    simp [notPoint]
  have notDecimal : decimal? text = none := by
    rw [decimal?, noPower]
    simp [noPoint]
  have notNamed : ¬ (text = ['i', 'n', 'f'] ∨ text = ['n', 'a', 'n']) := by
    rintro (rfl | rfl)
    · exact digits.not_mem (c := 'i') rfl List.mem_cons_self
    · exact digits.not_mem (c := 'a') rfl (by simp)
  rw [isReal, digits.cutSign_eq]
  simp only [if_neg notNamed, notDecimal]

end AllDigits

/-! ## Decimal numbers -/

theorem hexDigit?_of_isDigit
    {c : Char}
    (digit : c.isDigit = true) :
    Text.hexDigit? c = some (c.toNat - '0'.toNat) := by
  have range : '0' ≤ c ∧ c ≤ '9' := by
    simp only [Char.isDigit, Bool.and_eq_true, decide_eq_true_eq] at digit
    exact digit
  rw [Text.hexDigit?, if_pos range]

theorem allDigits_toDigits
    (number : Nat) :
    AllDigits (Nat.toDigits 10 number) :=
  fun _ => Nat.isDigit_of_mem_toDigits (by decide) (by decide)

/-- The digits of a number denote it. -/
theorem valueOf_toDigits
    (number : Nat) :
    valueOf 10 (Nat.toDigits 10 number) = number := by
  have same : valueOf 10 (Nat.toDigits 10 number) =
      Nat.ofDigitChars 10 (Nat.toDigits 10 number) 0 := by
    rw [valueOf, Nat.ofDigitChars_eq_foldl]
    apply List.foldl_ext
    intro value c isChar
    rw [hexDigit?_of_isDigit (allDigits_toDigits number c isChar),
      Option.getD_some, Nat.mul_comm]
  rw [same, Nat.ofDigitChars_ten_toDigits]

/-- Only zero is written with a zero in front. -/
theorem toDigits_of_head?
    {number : Nat}
    (zero : (Nat.toDigits 10 number).head? = some '0') :
    Nat.toDigits 10 number = ['0'] := by
  induction number using Nat.strongRecOn with
  | ind number inductionHypothesis =>
      by_cases small : number < 10
      · rw [Nat.toDigits_of_lt_base small, List.head?_cons] at zero
        rw [Nat.toDigits_of_lt_base small, Option.some.inj zero]
      · have large : 10 ≤ number := Nat.not_lt.mp small
        have front : (Nat.toDigits 10 (number / 10)).head? = some '0' := by
          have nonempty : Nat.toDigits 10 (number / 10) ≠ [] :=
            Nat.toDigits_ne_nil
          obtain ⟨c, later, split⟩ := List.exists_cons_of_ne_nil nonempty
          rw [Nat.toDigits_of_base_le (by decide) large, split] at zero
          rw [split]
          exact zero
        have digits := inductionHypothesis (number / 10) (by omega) front
        have none := valueOf_toDigits (number / 10)
        rw [digits] at none
        have isZero : number / 10 = 0 := none.symm
        omega

theorem wholeDigits?_toDigits
    (number : Nat) :
    wholeDigits? (Nat.toDigits 10 number) = some (Nat.toDigits 10 number) := by
  have once : ¬ ((Nat.toDigits 10 number).head? = some '0' ∧
      Nat.toDigits 10 number ≠ ['0']) :=
    fun both => both.2 (toDigits_of_head? both.1)
  rw [wholeDigits?, (allDigits_toDigits number).digits?_eq Nat.toDigits_ne_nil]
  simp only [bind, Option.bind, if_neg once]

/-- The digits of a number are read as the number. -/
theorem integer?_toDigits
    {number : Nat}
    (fits : isInteger number = true) :
    integer? (Nat.toDigits 10 number) = some (number : Int) := by
  have digits := allDigits_toDigits number
  have decimal : ∀ mark, mark.isDigit = false → ∀ rest,
      Nat.toDigits 10 number = '0' :: mark :: rest → False := by
    intro mark notDigit rest same
    apply digits.not_mem notDigit
    rw [same]
    simp
  rw [integer?.eq_4 _ (decimal 'x' rfl) (decimal 'o' rfl) (decimal 'b' rfl),
    digits.cutSign_eq]
  change (wholeDigits? (Nat.toDigits 10 number)).bind _ = _
  rw [wholeDigits?_toDigits, Option.bind_some, valueOf_toDigits]
  exact if_pos fits

theorem scalar?_toDigits
    {number : Nat}
    (fits : isInteger number = true) :
    scalar? (Nat.toDigits 10 number) = some (.integer number) := by
  have digits := allDigits_toDigits number
  have notTrue : Nat.toDigits 10 number ≠ ['t', 'r', 'u', 'e'] := by
    intro same
    exact digits.not_mem (c := 't') rfl (by simp [same])
  have notFalse : Nat.toDigits 10 number ≠ ['f', 'a', 'l', 's', 'e'] := by
    intro same
    exact digits.not_mem (c := 'f') rfl (by simp [same])
  rw [scalar?, if_neg notTrue, if_neg notFalse, digits.isDate_eq_false,
    digits.isReal_eq_false, integer?_toDigits fits]
  rfl

/-- A number is read up to a character that belongs to no unquoted value and is
no blank. -/
theorem readScalar_toDigits
    {number : Nat}
    (fits : isInteger number = true)
    {c : Char}
    (ends : isScalarChar c = false)
    (notBlank : c ≠ ' ')
    (rest : List Char) :
    readScalar (Nat.toDigits 10 number ++ c :: rest) =
      some (.integer number, c :: rest) := by
  have run : (Nat.toDigits 10 number ++ c :: rest).takeWhile isScalarChar =
      Nat.toDigits 10 number := by
    rw [List.takeWhile_append_of_pos (allDigits_toDigits number).isScalarChar,
      List.takeWhile_cons_of_neg (by simp [ends]), List.append_nil]
  rw [readScalar, run, List.drop_left]
  split
  · rename_i blank
    exact absurd (List.cons.inj blank).1 notBlank
  · rw [scalar?_toDigits fits]
    rfl

end Toml
end MailSearch
