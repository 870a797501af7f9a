import Mathlib.Algebra.Group.Nat.Defs
import Mathlib.Data.List.Basic
import Mathlib.Data.List.Induction
import Mathlib.Data.List.TakeWhile
import MailSearch.Calendar.Scan
import MailSearch.Proofs.Text.Blank

/-!
# What scanners read

A scanner that succeeds splits the text into what it has read and the rest.
Each lemma says of one scanner which texts it reads, and with what answer.
-/

namespace MailSearch
namespace Calendar

/-! ## Written numbers -/

/-- A text is a number in decimal digits, as many as a width. -/
structure Numeral (width number : Nat) (text : List Char) : Prop where
  /-- The text has the width. -/
  length_eq : text.length = width
  /-- The text has digits only. -/
  digits : ∀ c ∈ text, c.isDigit = true
  /-- The value of the digits is the number. -/
  value_eq : Scan.digitsValue text = number

theorem toNat_sub_le_of_isDigit
    {c : Char}
    (digit : c.isDigit = true) :
    c.toNat - '0'.toNat ≤ 9 := by
  simp only [Char.isDigit, Bool.and_eq_true, decide_eq_true_eq,
    UInt32.le_iff_toNat_le] at digit
  have bound : c.toNat ≤ 57 := digit.2
  have zero : '0'.toNat = 48 := rfl
  omega

namespace Scan

theorem digitsValue_concat
    (digits : List Char)
    (c : Char) :
    digitsValue (digits ++ [c]) = digitsValue digits * 10 +
      (c.toNat - '0'.toNat) := by
  rw [digitsValue, List.foldl_append]
  rfl

theorem digitsValue_lt
    {digits : List Char}
    (each : ∀ c ∈ digits, c.isDigit = true) :
    digitsValue digits < 10 ^ digits.length := by
  induction digits using List.reverseRecOn with
  | nil => exact Nat.one_pos
  | append_singleton front c inductionHypothesis =>
      obtain ⟨eachFront, eachLast⟩ := List.forall_mem_append.mp each
      have least := inductionHypothesis eachFront
      have digit :=
        toNat_sub_le_of_isDigit (eachLast c (List.mem_singleton_self c))
      rw [digitsValue_concat, List.length_append, List.length_singleton,
        Nat.pow_succ]
      omega

end Scan

theorem Numeral.solid
    {width number : Nat}
    {text : List Char}
    (numeral : Numeral width number text)
    (positive : 0 < width) :
    Text.Solid text := by
  refine .of_isAlphanum ?_ fun c isChar =>
    Bool.or_eq_true_iff.mpr (.inr (numeral.digits c isChar))
  rintro rfl
  exact Nat.ne_of_lt positive numeral.length_eq

theorem Numeral.lt
    {width number : Nat}
    {text : List Char}
    (numeral : Numeral width number text) :
    number < 10 ^ width := by
  rw [← numeral.value_eq, ← numeral.length_eq]
  exact Scan.digitsValue_lt numeral.digits

/-- A number can be split into two in front of any of its digits. -/
theorem Numeral.exists_halves
    (left right : Nat)
    {number : Nat}
    {text : List Char}
    (numeral : Numeral (left + right) number text) :
    ∃ high low front back, Numeral left high front ∧ Numeral right low back ∧
      text = front ++ back := by
  refine ⟨_, _, text.take left, text.drop left, ⟨?_, ?_, rfl⟩, ⟨?_, ?_, rfl⟩,
    (List.take_append_drop left text).symm⟩
  · rw [List.length_take, numeral.length_eq]
    omega
  · exact fun c isChar => numeral.digits c (List.mem_of_mem_take isChar)
  · rw [List.length_drop, numeral.length_eq]
    omega
  · exact fun c isChar => numeral.digits c (List.mem_of_mem_drop isChar)

theorem Scan.digitsValue_append_zeros
    (zeros : Nat)
    (digits : List Char) :
    digitsValue (List.replicate zeros '0' ++ digits) = digitsValue digits := by
  have nothing : digitsValue (List.replicate zeros '0') = 0 := by
    induction zeros with
    | zero => rfl
    | succ zeros inductionHypothesis =>
        rw [List.replicate_succ', digitsValue_concat, inductionHypothesis,
          Nat.sub_self]
  rw [digitsValue, List.foldl_append, ← digitsValue, nothing, ← digitsValue]

theorem Scan.digitsValue_toDigits
    (number : Nat) :
    digitsValue (Nat.toDigits 10 number) = number := by
  have same : digitsValue (Nat.toDigits 10 number) =
      Nat.ofDigitChars 10 (Nat.toDigits 10 number) 0 := by
    rw [digitsValue, Nat.ofDigitChars_eq_foldl]
    simp only [Nat.mul_comm]
  rw [same, Nat.ofDigitChars_ten_toDigits]

/-- A number is written with as many digits as it needs, and zeros up to the
least width. -/
theorem numeral_padded
    (least number : Nat) :
    Numeral (max least (Nat.toDigits 10 number).length) number
      (padded least number) where
  length_eq := by
    rw [padded, List.length_append, List.length_replicate]
    omega
  digits := by
    intro c isChar
    rcases List.mem_append.mp isChar with isZero | isDigit
    · rw [List.eq_of_mem_replicate isZero]
      rfl
    · exact Nat.isDigit_of_mem_toDigits (by decide) (by decide) isDigit
  value_eq := by
    rw [padded, Scan.digitsValue_append_zeros, Scan.digitsValue_toDigits]

theorem length_toDigits_le
    {width number : Nat}
    (fits : number < 10 ^ width)
    (positive : 0 < width) :
    (Nat.toDigits 10 number).length ≤ width :=
  (Nat.length_toDigits_le_iff (by decide) positive).mpr fits

/-- A number that fits its width is written with just that width. -/
theorem numeral_of_lt
    {width number : Nat}
    (fits : number < 10 ^ width)
    (positive : 0 < width) :
    Numeral width number (padded width number) := by
  have numeral := numeral_padded width number
  rwa [Nat.max_eq_left (length_toDigits_le fits positive)] at numeral

namespace Scan

/-! ## Scanners in a row -/

section Sequences

variable {α β : Type} {text rest : List Char}

theorem bind_eq_ok_iff
    {scan : Scan α}
    {next : α -> Scan β}
    {found : β × List Char} :
    (scan >>= next) text = .ok found ↔
      ∃ value left, scan text = .ok (value, left) ∧
        next value left = .ok found := by
  change (scan text >>= fun read => next read.1 read.2) = .ok found ↔ _
  cases scan text with
  | error error => exact ⟨nofun, fun ⟨_, _, absurd, _⟩ => nomatch absurd⟩
  | ok read =>
      constructor
      · intro ended
        exact ⟨read.1, read.2, rfl, ended⟩
      · rintro ⟨value, left, same, ended⟩
        cases same
        exact ended

theorem pure_eq_ok_iff
    {value found : α} :
    (pure value : Scan α) text = .ok (found, rest) ↔ value = found ∧
      text = rest := by
  change Except.ok (value, text) = .ok (found, rest) ↔ _
  rw [Except.ok.injEq, Prod.mk.injEq]

theorem lift_eq_ok_iff
    {outcome : Except DateError α}
    {found : α} :
    (liftM outcome : Scan α) text = .ok (found, rest) ↔ outcome = .ok found ∧
      text = rest := by
  cases outcome with
  | error error => exact ⟨nofun, nofun⟩
  | ok value =>
      change Except.ok (value, text) = .ok (found, rest) ↔ _
      rw [Except.ok.injEq, Except.ok.injEq, Prod.mk.injEq]

/-- What comes first in a row is read first. -/
theorem bind_of_ok
    {scan : Scan α}
    {next : α -> Scan β}
    {value : α}
    (read : scan text = .ok (value, rest)) :
    (scan >>= next) text = next value rest := by
  change (scan text >>= fun read => next read.1 read.2) = _
  rw [read]
  rfl

/-- An outcome without an error is passed on. -/
theorem bind_lift_of_ok
    {outcome : Except DateError α}
    {next : α -> Scan β}
    {value : α}
    (isOk : outcome = .ok value) :
    ((liftM outcome : Scan α) >>= next) text = next value text :=
  bind_of_ok (lift_eq_ok_iff.mpr ⟨isOk, rfl⟩)

/-- A scanner reads nothing from a text. -/
def Fails (scan : Scan α) (text : List Char) : Prop :=
  ∀ found, scan text ≠ .ok found

theorem Fails.bind
    {scan : Scan α}
    (fails : Fails scan text)
    (next : α -> Scan β) :
    Fails (scan >>= next) text := by
  intro found read
  obtain ⟨value, left, readFirst, -⟩ := bind_eq_ok_iff.mp read
  exact fails _ readFirst

theorem Fails.bind_of_ok
    {scan : Scan α}
    {next : α -> Scan β}
    {value : α}
    (fails : Fails (next value) rest)
    (read : scan text = .ok (value, rest)) :
    Fails (scan >>= next) text := by
  intro found
  rw [Scan.bind_of_ok read]
  exact fails found

end Sequences

/-! ## Single scanners -/

section Single

variable {text rest : List Char}

theorem exactly_eq_ok_iff
    {expected : Char}
    {found : Unit} :
    exactly expected text = .ok (found, rest) ↔ text = expected :: rest := by
  cases text with
  | nil =>
      constructor
      all_goals
        intro absurd
        cases absurd
  | cons c left =>
      rw [exactly]
      by_cases same : c = expected
      · rw [if_pos same, Except.ok.injEq, Prod.mk.injEq, List.cons.injEq]
        simp only [true_and, same]
      · rw [if_neg same]
        constructor
        · intro ended
          cases ended
        · intro equal
          exact absurd (List.cons.inj equal).1 same

theorem length_le_size
    (text : List Char) :
    text.length ≤ Text.Utf8.size text := by
  have general : ∀ counted, counted + text.length ≤
      (text.map Char.utf8Size).foldl (· + ·) counted := by
    induction text with
    | nil => exact fun counted => Nat.le_refl counted
    | cons c left inductionHypothesis =>
        intro counted
        have positive := Char.utf8Size_pos c
        have later := inductionHypothesis (counted + c.utf8Size)
        rw [List.map_cons, List.foldl_cons, List.length_cons]
        omega
  have fromZero := general 0
  rw [Nat.zero_add] at fromZero
  exact fromZero

/-- The digits at the front of a text, up to some number of characters. -/
def digitRun (most : Nat) (text : List Char) : List Char :=
  (text.take most).takeWhile Char.isDigit

theorem digitRun_at_front
    (most : Nat)
    (text : List Char) :
    (digitRun most text).IsPrefix text :=
  (List.takeWhile_prefix Char.isDigit).trans (List.take_prefix most text)

theorem length_digitRun_le
    (most : Nat)
    (text : List Char) :
    (digitRun most text).length ≤ most :=
  Nat.le_trans (List.takeWhile_prefix Char.isDigit).length_le
    (List.length_take_le most text)

/-- A number is the value of the digits at the front, of which there must be
enough. -/
theorem number_eq_ok_iff_run
    {least most number : Nat} :
    Scan.number least (some most) text = .ok (number, rest) ↔
      least ≤ (digitRun most text).length ∧
      digitsValue (digitRun most text) < 0x8000000000000000 ∧
      digitsValue (digitRun most text) = number ∧
      text.drop (digitRun most text).length = rest := by
  have characters := length_le_size text
  have inText := (digitRun_at_front most text).length_le
  unfold Scan.number
  change (if _ then _ else if (digitRun most text).length <
      least then _ else _) = _ ↔ _
  by_cases few : (digitRun most text).length < least
  · have notEnough : ¬ least ≤ (digitRun most text).length :=
      Nat.not_le_of_lt few
    rw [if_pos few]
    split <;> simp [notEnough]
  · have long : ¬ Text.Utf8.size text < least := by omega
    rw [if_neg long, if_neg few]
    change (if _ ≤ digitsValue (digitRun most text) then _ else _) = _ ↔ _
    by_cases great : 0x8000000000000000 ≤ digitsValue (digitRun most text)
    · rw [if_pos great]
      simp [Nat.not_lt_of_le great]
    · rw [if_neg great]
      change Except.ok (digitsValue (digitRun most text),
        text.drop (digitRun most text).length) = _ ↔ _
      simp [Nat.le_of_not_lt few, Nat.lt_of_not_le great]

/-- A number that has the greatest width is read whatever stands behind it. -/
theorem number_append_full
    {least width number : Nat}
    {digits : List Char}
    (numeral : Numeral width number digits)
    (enough : least ≤ width)
    (narrow : width ≤ 18)
    (rest : List Char) :
    Scan.number least (some width) (digits ++ rest) = .ok (number, rest) := by
  have small : 10 ^ width ≤ 10 ^ 18 := Nat.pow_le_pow_right (by decide) narrow
  have run : digitRun width (digits ++ rest) = digits := by
    rw [digitRun, List.take_left' numeral.length_eq]
    exact List.takeWhile_eq_self_iff.mpr numeral.digits
  have below := numeral.lt
  rw [number_eq_ok_iff_run, run, numeral.length_eq, numeral.value_eq,
    List.drop_left' numeral.length_eq]
  exact ⟨enough, by omega, rfl, rfl⟩

/-- A number of a fixed width is read where so many digits stand. -/
theorem number_eq_ok_iff
    {width number : Nat}
    (narrow : width ≤ 18) :
    Scan.number width (some width) text = .ok (number, rest) ↔
      ∃ digits, Numeral width number digits ∧ text = digits ++ rest := by
  constructor
  · intro read
    obtain ⟨enough, -, value, behind⟩ := number_eq_ok_iff_run.mp read
    refine ⟨digitRun width text,
      ⟨Nat.le_antisymm (length_digitRun_le width text) enough,
        List.all_eq_true.mp List.all_takeWhile, value⟩, ?_⟩
    rw [← behind]
    exact (List.prefix_iff_eq_append.mp (digitRun_at_front width text)).symm
  · rintro ⟨digits, numeral, rfl⟩
    exact number_append_full numeral (Nat.le_refl width) narrow rest

/-- Two digits are those of a number of width two. -/
theorem twoDigits_eq_ok_iff
    {pair : Nat × Nat} :
    twoDigits text = .ok (pair, rest) ↔
      ∃ number digits, Numeral 2 number digits ∧
        (number / 10, number % 10) = pair ∧
        text = digits ++ rest := by
  constructor
  · intro read
    unfold twoDigits at read
    split at read
    · rename_i first second left
      split at read
      · rename_i both
        rw [Bool.and_eq_true] at both
        cases read
        have least := toNat_sub_le_of_isDigit both.2
        have all : ∀ c ∈ [first, second], c.isDigit = true :=
          List.forall_mem_cons.mpr ⟨both.1,
            List.forall_mem_singleton.mpr both.2⟩
        refine ⟨_, [first, second], ⟨rfl, all, rfl⟩, ?_, rfl⟩
        simp only [digitsValue, List.foldl_cons, List.foldl_nil, Prod.mk.injEq]
        omega
      · cases read
    · split at read <;> cases read
  · rintro ⟨number, digits, numeral, rfl, rfl⟩
    obtain ⟨first, second, rfl⟩ := List.length_eq_two.mp numeral.length_eq
    have firstDigit := numeral.digits first List.mem_cons_self
    have secondDigit :=
      numeral.digits second (List.mem_cons_of_mem _ List.mem_cons_self)
    have least := toNat_sub_le_of_isDigit secondDigit
    have value := numeral.value_eq
    simp only [digitsValue, List.foldl_cons, List.foldl_nil] at value
    have tens : first.toNat - '0'.toNat = number / 10 := by omega
    have ones : second.toNat - '0'.toNat = number % 10 := by omega
    change (if first.isDigit && second.isDigit then _ else _) = _
    rw [firstDigit, secondDigit, Bool.and_self, if_pos rfl, tens, ones]
    rfl

theorem digits_behind_digits
    (text : List Char) :
    (text.dropWhile Char.isDigit).takeWhile Char.isDigit = [] := by
  induction text with
  | nil => rfl
  | cons c left inductionHypothesis =>
      rw [List.dropWhile_cons]
      split
      · exact inductionHypothesis
      · rename_i noDigit
        exact List.takeWhile_cons_of_neg noDigit

/-- All digits of a text stand in front of a rest without digits at its
front. -/
theorem takeWhile_isDigit_iff
    {digits : List Char} :
    text.takeWhile Char.isDigit = digits ∧ text.dropWhile Char.isDigit = rest ↔
      (∀ c ∈ digits, c.isDigit = true) ∧ rest.takeWhile Char.isDigit = [] ∧
        text = digits ++ rest := by
  constructor
  · rintro ⟨rfl, rfl⟩
    exact ⟨List.all_eq_true.mp List.all_takeWhile, digits_behind_digits text,
      List.takeWhile_append_dropWhile.symm⟩
  · rintro ⟨all, settled, rfl⟩
    have whole :=
      List.takeWhile_append_dropWhile (p := Char.isDigit) (l := rest)
    rw [settled, List.nil_append] at whole
    rw [List.takeWhile_append_of_pos all, List.dropWhile_append_of_pos all,
      settled, whole, List.append_nil]
    exact ⟨rfl, rfl⟩

/-- A number is read in front of something else if it has a width that is
allowed there. -/
theorem number_append
    {least width number : Nat}
    {most : Option Nat}
    {digits : List Char}
    (numeral : Numeral width number digits)
    (enough : least ≤ width)
    (fits : ∀ bound ∈ most, width ≤ bound)
    (narrow : width ≤ 18)
    (settled : rest.takeWhile Char.isDigit = []) :
    Scan.number least most (digits ++ rest) = .ok (number, rest) := by
  have all : (digits ++ rest).takeWhile Char.isDigit = digits :=
    (takeWhile_isDigit_iff.mpr ⟨numeral.digits, settled, rfl⟩).1
  have reached : ∀ bound, width ≤ bound →
      ((digits ++ rest).take bound).takeWhile Char.isDigit = digits := by
    intro bound wide
    rw [← List.take_takeWhile, all,
      List.take_of_length_le (numeral.length_eq.trans_le wide)]
  have long : ¬ Text.Utf8.size (digits ++ rest) < least := by
    have characters := length_le_size (digits ++ rest)
    rw [List.length_append, numeral.length_eq] at characters
    omega
  have small : ¬ 0x8000000000000000 ≤ digitsValue digits := by
    have least := numeral.lt
    have power : 10 ^ width ≤ 10 ^ 18 := Nat.pow_le_pow_right (by decide) narrow
    rw [numeral.value_eq]
    omega
  have ended : ∀ read, read = digits →
      (if Text.Utf8.size (digits ++ rest) < least then
        Except.error DateError.tooShort
      else if read.length < least then .error .invalid
      else if 0x8000000000000000 ≤ digitsValue read then .error .outOfRange
      else .ok (digitsValue read, (digits ++ rest).drop read.length)) =
        .ok (number, rest) := by
    rintro _ rfl
    rw [if_neg long, if_neg (by rw [numeral.length_eq]; omega), if_neg small,
      numeral.value_eq, List.drop_left]
  cases most with
  | none => exact ended _ all
  | some bound => exact ended _ (reached bound (fits bound rfl))

/-- Too few digits at the front are no number. -/
theorem number_fails
    {least : Nat}
    {most : Option Nat}
    (few : (text.takeWhile Char.isDigit).length < least) :
    Fails (Scan.number least most) text := by
  have fewer : ∀ bound, ((text.take bound).takeWhile Char.isDigit).length <
      least := by
    intro bound
    rw [← List.take_takeWhile]
    exact Nat.lt_of_le_of_lt (List.length_take_le' bound _) few
  have ended : ∀ read : List Char, read.length < least → ∀ found,
      (if Text.Utf8.size text < least then
        Except.error DateError.tooShort
      else if read.length < least then .error .invalid
      else if 0x8000000000000000 ≤ digitsValue read then .error .outOfRange
      else .ok (digitsValue read, text.drop read.length)) ≠ .ok found := by
    intro read short found
    rw [if_pos short]
    split <;> nofun
  cases most with
  | none => exact ended _ few
  | some bound => exact ended _ (fewer bound)

/-! ## Blanks and names -/

theorem skipBlanks_append
    {solid : List Char}
    (isSolid : Text.Solid solid)
    (rest : List Char) :
    Scan.skipBlanks (solid ++ rest) = .ok ((), solid ++ rest) := by
  rw [Scan.skipBlanks, isSolid.trimFront_append]

theorem blanks_append
    {solid : List Char}
    (isSolid : Text.Solid solid)
    (rest : List Char) :
    Scan.blanks (' ' :: (solid ++ rest)) = .ok ((), solid ++ rest) := by
  have trimmed : Text.trimFront (' ' :: (solid ++ rest)) = solid ++ rest :=
    isSolid.trimFront_append rest
  rw [Scan.blanks, if_pos (by decide), trimmed]

theorem blanks_fails
    {c : Char}
    (notBlank : Text.isBlank c = false)
    (rest : List Char) :
    Fails Scan.blanks (c :: rest) := by
  intro found read
  rw [Scan.blanks, notBlank] at read
  cases read

theorem exactly_fails
    {c expected : Char}
    (different : c ≠ expected)
    (rest : List Char) :
    Fails (Scan.exactly expected) (c :: rest) := by
  intro found read
  exact different (List.cons.inj (exactly_eq_ok_iff.mp read)).1

/-- A name is read in any letter case. -/
theorem name_append
    {names : List String}
    {place : Nat}
    {written : List Char}
    (three : written.length = 3)
    (isPlace : (names.findIdx? fun name =>
      name.toList.map Char.toLower == written.map Char.toLower) = some place)
    (rest : List Char) :
    Scan.name names (written ++ rest) = .ok (place, rest) := by
  have long : ¬ Text.Utf8.size (written ++ rest) < 3 := by
    have characters := length_le_size (written ++ rest)
    rw [List.length_append, three] at characters
    omega
  rw [Scan.name, if_neg long]
  dsimp only
  rw [List.take_left' three, isPlace, List.drop_left' three]

theorem not_isAlpha_of_isDigit
    {c : Char}
    (digit : c.isDigit = true) :
    c.isAlpha = false := by
  simp only [Char.isDigit, Bool.and_eq_true, decide_eq_true_eq,
    UInt32.le_iff_toNat_le] at digit
  have atMost : c.toNat ≤ 57 := digit.2
  have notCapital : c.isUpper = false := by
    refine decide_eq_false fun capital => ?_
    have atLeast : 65 ≤ c.toNat := UInt32.le_iff_toNat_le.mp capital.1
    omega
  have notSmall : c.isLower = false := by
    refine Bool.and_eq_false_iff.mpr (.inl (decide_eq_false fun small => ?_))
    have atLeast : 97 ≤ c.toNat := UInt32.le_iff_toNat_le.mp small
    omega
  exact Bool.or_eq_false_iff.mpr ⟨notCapital, notSmall⟩

theorem toLower_of_not_isAlpha
    {c : Char}
    (notLetter : c.isAlpha = false) :
    c.toLower = c := by
  have notCapital : c.isUpper = false := (Bool.or_eq_false_iff.mp notLetter).1
  exact dif_neg (of_decide_eq_false notCapital)

/-- What does not begin with a letter is no name. -/
theorem name_fails
    {names : List String}
    (letters : ∀ name ∈ names,
      (name.toList.map Char.toLower).head?.any Char.isAlpha = true)
    {c : Char}
    (notLetter : c.isAlpha = false)
    (rest : List Char) :
    Fails (Scan.name names) (c :: rest) := by
  have none : (names.findIdx? fun name =>
      name.toList.map Char.toLower == ((c :: rest).take 3).map Char.toLower) =
        none := by
    rw [List.findIdx?_eq_none_iff]
    intro name isName
    rw [beq_eq_false_iff_ne]
    intro equal
    have isLetter := letters name isName
    rw [equal, List.take_succ_cons, List.map_cons,
      toLower_of_not_isAlpha notLetter, List.head?_cons, Option.any_some,
      notLetter] at isLetter
    cases isLetter
  intro found
  rw [Scan.name]
  split
  · nofun
  · dsimp only
    rw [none]
    nofun

/-- The fraction of a second takes all digits, of which the first nine count. -/
theorem fraction_append
    {digits : List Char}
    (nonempty : digits ≠ [])
    (all : ∀ c ∈ digits, c.isDigit = true)
    (settled : rest.takeWhile Char.isDigit = []) :
    Scan.fraction (digits ++ rest) =
      .ok (digitsValue (digits.take 9) * 10 ^ (9 - digits.length), rest) := by
  obtain ⟨front, back⟩ := takeWhile_isDigit_iff.mpr ⟨all, settled, rfl⟩
  have run : digitRun 9 (digits ++ rest) = digits.take 9 := by
    rw [digitRun, ← List.take_takeWhile, front]
  have split : digits ++ rest = digits.take 9 ++ (digits.drop 9 ++ rest) := by
    rw [← List.append_assoc, List.take_append_drop]
  have allFirst : ∀ c ∈ digits.take 9, c.isDigit = true :=
    fun c member => all c (List.mem_of_mem_take member)
  have first : Scan.number 1 (some 9) (digits ++ rest) =
      .ok (digitsValue (digits.take 9), digits.drop 9 ++ rest) := by
    have least := digitsValue_lt allFirst
    have power :=
      Nat.pow_le_pow_right (show 0 < 10 by decide)
        (List.length_take_le 9 digits)
    have positive := List.length_pos_of_ne_nil nonempty
    rw [number_eq_ok_iff_run, run, split, List.drop_left]
    refine ⟨?_, by omega, rfl, rfl⟩
    rw [List.length_take]
    omega
  unfold Scan.fraction
  rw [first, split]
  dsimp only
  have skipped : (digits.drop 9 ++ rest).dropWhile Char.isDigit = rest := by
    rw [List.dropWhile_append_of_pos fun c member =>
      all c (List.mem_of_mem_drop member)]
    exact (takeWhile_isDigit_iff.mpr ⟨List.forall_mem_nil _, settled, rfl⟩).2
  have consumed : (digits.take 9 ++ (digits.drop 9 ++ rest)).length -
      (digits.drop 9 ++ rest).length = min 9 digits.length := by
    rw [List.length_append, Nat.add_sub_cancel, List.length_take]
  have scale : 9 - min 9 digits.length = 9 - digits.length := by omega
  rw [skipped, consumed, scale]
  rfl

theorem fraction_eq_ok_iff
    {nano : Nat} :
    Scan.fraction text = .ok (nano, rest) ↔
      ∃ digits, digits ≠ [] ∧ (∀ c ∈ digits, c.isDigit = true) ∧
        rest.takeWhile Char.isDigit = [] ∧ text = digits ++ rest ∧
        digitsValue (digits.take 9) * 10 ^ (9 - digits.length) = nano := by
  constructor
  · intro read
    obtain ⟨all, settled, split⟩ :=
      takeWhile_isDigit_iff.mp ⟨Eq.refl (text.takeWhile Char.isDigit), rfl⟩
    have nonempty : text.takeWhile Char.isDigit ≠ [] := by
      intro none
      unfold Scan.fraction at read
      split at read
      · cases read
      · rename_i found
        have enough := (number_eq_ok_iff_run.mp found).1
        rw [digitRun, ← List.take_takeWhile, none] at enough
        cases enough
    have whole := fraction_append nonempty all settled
    rw [← split, read, Except.ok.injEq, Prod.mk.injEq] at whole
    obtain ⟨rfl, rfl⟩ := whole
    exact ⟨_, nonempty, all, settled, split, rfl⟩
  · rintro ⟨digits, nonempty, all, settled, rfl, rfl⟩
    exact fraction_append nonempty all settled

end Single

end Scan
end Calendar
end MailSearch
