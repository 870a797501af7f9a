import MailSearch.Proofs.Toml.Quoted
import MailSearch.Proofs.Toml.Scalar
import MailSearch.Toml.Printer
import MailSearch.Toml.Reader

/-!
# Values back and forth

Texts, whole numbers and lists of values are read as what they were written for,
wherever a line or an item ends behind them.
-/

namespace MailSearch
namespace Toml

/-- A value can be written and read back, with lists inside each other to some
levels. -/
inductive Written : Nat -> Toml -> Prop where
  /-- Any text can. -/
  | string {levels : Nat} (text : String) : Written levels (.string text)
  /-- A number can if it is in the range of integers. -/
  | integer {levels : Nat} {number : Nat} (fits : isInteger number = true) :
      Written levels (.integer number)
  /-- A list can if its items can, one level below. -/
  | array {levels : Nat} {items : List Toml} (each : ∀ item ∈ items,
        Written levels item) :
      Written (levels + 1) (.array items)

/-! ## Gaps -/

/-- A character belongs to no gap between values. -/
def IsSolid (c : Char) : Prop :=
  c ∉ [' ', '\t', '#', '\n', '\r']

instance (c : Char) : Decidable (IsSolid c) :=
  inferInstanceAs (Decidable (c ∉ [' ', '\t', '#', '\n', '\r']))

/-- No character of a class without gaps belongs to one. -/
theorem IsSolid.of_class
    {isClass : Char -> Bool}
    {c : Char}
    (inside : isClass c = true)
    (outside : [' ', '\t', '#', '\n', '\r'].any isClass = false) :
    IsSolid c :=
  fun isGap => List.any_eq_false.mp outside c isGap inside

section Gaps

variable {c : Char} (solid : IsSolid c) (rest : List Char)

include solid

theorem IsSolid.skipBlanks_eq :
    skipBlanks (c :: rest) = c :: rest := by
  simp only [IsSolid, List.mem_cons, not_or] at solid
  simp [skipBlanks, solid]

theorem IsSolid.skipComment_eq :
    skipComment (c :: rest) = c :: rest := by
  apply skipComment.eq_2
  rintro others same
  rw [(List.cons.inj same).1] at solid
  exact solid (by decide)

theorem IsSolid.afterLineBreak?_eq :
    afterLineBreak? (c :: rest) = none := by
  apply afterLineBreak?.eq_3
  all_goals
    rintro others same
    rw [(List.cons.inj same).1] at solid
    exact solid (by decide)

/-- No gap is in front of a solid character. -/
theorem IsSolid.skipGap_eq
    (steps : Nat) :
    skipGap steps (c :: rest) = c :: rest := by
  cases steps with
  | zero => rfl
  | succ steps =>
      rw [skipGap, solid.skipBlanks_eq, solid.skipComment_eq,
        solid.afterLineBreak?_eq]

theorem IsSolid.skipLines_eq :
    skipLines (c :: rest) = c :: rest :=
  solid.skipGap_eq rest _

/-- An item on the next line stands behind four blanks. -/
theorem IsSolid.skipLines_indent :
    skipLines ('\n' :: ' ' :: ' ' :: ' ' :: ' ' :: c :: rest) = c :: rest := by
  have indented : skipBlanks (' ' :: ' ' :: ' ' :: ' ' :: c :: rest) =
      c :: rest :=
    solid.skipBlanks_eq rest
  have next : ∀ steps,
      skipGap (steps + 1) (' ' :: ' ' :: ' ' :: ' ' :: c :: rest) =
      c :: rest := by
    intro steps
    rw [skipGap, indented, solid.skipComment_eq, solid.afterLineBreak?_eq]
  exact next _

/-- The line behind the last item has no blanks. -/
theorem IsSolid.skipLines_lineBreak :
    skipLines ('\n' :: c :: rest) = c :: rest :=
  solid.skipGap_eq rest _

end Gaps

/-! ## Items -/

section Items

variable {read : List Char -> Option (Toml × List Char)}
  {text rest later behind : List Char} {c : Char} {item : Toml}

/-- Behind an item and a comma the other items follow. -/
theorem readItems_comma
    (starts : skipLines text = c :: later)
    (isItem : c ≠ ']')
    (reads : read (c :: later) = some (item, rest))
    (comma : skipLines rest = ',' :: behind)
    (steps : Nat) :
    readItems read (steps + 1) text =
      (readItems read steps behind).map fun (others, rest) =>
        (item :: others, rest) := by
  rw [readItems, starts]
  split
  · rename_i absurd
    exact False.elim (isItem (List.cons.inj absurd).1)
  · simp only [reads, bind, Option.bind_some, comma]
    cases readItems read steps behind <;> rfl

/-- Behind the last item the list is closed. -/
theorem readItems_last
    (starts : skipLines text = c :: later)
    (isItem : c ≠ ']')
    (reads : read (c :: later) = some (item, rest))
    (closes : skipLines rest = ']' :: behind)
    (steps : Nat) :
    readItems read (steps + 1) text = some ([item], behind) := by
  rw [readItems, starts]
  split
  · rename_i absurd
    exact False.elim (isItem (List.cons.inj absurd).1)
  · simp only [reads, bind, Option.bind_some, closes]
    rfl

theorem readItems_nil
    (closes : skipLines text = ']' :: behind)
    (steps : Nat) :
    readItems read (steps + 1) text = some ([], behind) := by
  rw [readItems, closes]
  rfl

end Items

/-! ## Kinds of values -/

section Kinds

variable {levels : Nat} {c : Char} {rest : List Char}

theorem readValue_quoted
    (isQuote : c = '"' ∨ c = '\'') :
    readValue levels (c :: rest) =
      (readQuoted (c :: rest)).map fun (value, rest) =>
        (.string (String.ofList value), rest) := by
  rw [readValue.eq_def]
  rcases isQuote with rfl | rfl <;> rfl

theorem readValue_scalar
    (isDigit : c.isDigit = true) :
    readValue levels (c :: rest) = readScalar (c :: rest) := by
  have notQuote : ¬ (c = '"' ∨ c = '\'') :=
    not_or.mpr ⟨ne_of_class isDigit rfl, ne_of_class isDigit rfl⟩
  rw [readValue.eq_def]
  dsimp only
  split
  · rename_i absurd
    cases absurd
  · rename_i same
    exact absurd (List.cons.inj same).1 (ne_of_class isDigit rfl)
  · rename_i same
    exact absurd (List.cons.inj same).1 (ne_of_class isDigit rfl)
  · rename_i same
    obtain ⟨rfl, rfl⟩ := List.cons.inj same
    exact if_neg notQuote

theorem readValue_array :
    readValue (levels + 1) ('[' :: rest) =
      (readItems (readValue levels) (rest.length + 1) rest).map
        fun (items, rest) => (.array items, rest) := by
  rw [readValue.eq_def]
  rfl

end Kinds

/-! ## Lists of values -/

/-- A value is read as what it was written for, at the end of a line or of an
item. -/
structure ReadsBack (read : List Char -> Option (Toml × List Char))
    (value : Toml) : Prop where
  /-- Its first character starts an item. -/
  starts : ∃ c later, print value = c :: later ∧ IsSolid c ∧ c ≠ ']'
  /-- Its reading ends where it ends. -/
  reads : ∀ c ∈ ['\n', ',', ']'], ∀ rest, read (print value ++ c :: rest) =
    some (value, c :: rest)

theorem printEach_eq_map
    (items : List Toml) :
    printEach items = items.map print := by
  induction items with
  | nil => rw [printEach, List.map_nil]
  | cons item later inductionHypothesis =>
      rw [printEach, List.map_cons, inductionHypothesis]

/-- The line of one item of a list. -/
def itemLine (item : Toml) : List Char :=
  '\n' :: ' ' :: ' ' :: ' ' :: ' ' :: print item ++ [',']

theorem length_le_flatMap_itemLine
    (items : List Toml) :
    items.length ≤ (items.flatMap itemLine).length := by
  induction items with
  | nil => exact Nat.le_refl 0
  | cons item later inductionHypothesis =>
      rw [List.flatMap_cons, List.length_append, itemLine, List.length_append]
      simp only [List.length_cons]
      omega

section Lists

variable {read : List Char -> Option (Toml × List Char)} {items : List Toml}

/-- Items on lines of their own are read one after the other. -/
theorem readItems_lines
    (each : ∀ item ∈ items, ReadsBack read item)
    (rest : List Char)
    {steps : Nat}
    (enough : items.length ≤ steps) :
    readItems read (steps + 1) (items.flatMap itemLine ++ '\n' :: ']' :: rest) =
      some (items, rest) := by
  have solidComma : IsSolid ',' := by decide
  have solidBracket : IsSolid ']' := by decide
  -- Each item takes one step, and the closing bracket takes the last one.
  induction items generalizing steps with
  | nil => exact readItems_nil (solidBracket.skipLines_lineBreak rest) steps
  | cons item later inductionHypothesis =>
      obtain ⟨first, others⟩ := List.forall_mem_cons.mp each
      obtain ⟨c, behind, written, solid, isItem⟩ := first.starts
      obtain ⟨steps, rfl⟩ :=
        Nat.exists_eq_add_one_of_ne_zero (Nat.ne_zero_of_lt enough)
      have reads :=
        first.reads ',' (by decide) (later.flatMap itemLine ++ '\n' ::
          ']' :: rest)
      rw [written, List.cons_append] at reads
      have split : (item :: later).flatMap itemLine ++ '\n' :: ']' :: rest =
          '\n' :: ' ' :: ' ' :: ' ' :: ' ' :: c ::
            (behind ++ ',' ::
              (later.flatMap itemLine ++ '\n' :: ']' :: rest)) := by
        simp [itemLine, written]
      rw [split, readItems_comma (solid.skipLines_indent _) isItem reads
        (solidComma.skipLines_eq _),
          inductionHypothesis others (Nat.le_of_succ_le_succ enough)]
      rfl

/-- A list is read as the items it was written for. -/
theorem readItems_printItems
    (each : ∀ item ∈ items, ReadsBack read item)
    (rest : List Char) :
    ∃ behind, printItems (items.map print) ++ rest = '[' :: behind ∧
      readItems read (behind.length + 1) behind = some (items, rest) := by
  have solidBracket : IsSolid ']' := by decide
  -- Only several items stand on lines of their own.
  match items, each with
  | [], _ =>
      exact ⟨']' :: rest, rfl, readItems_nil (solidBracket.skipLines_eq rest) _⟩
  | [item], each =>
      obtain ⟨c, later, written, solid, isItem⟩ :=
        (each item List.mem_cons_self).starts
      have reads := (each item List.mem_cons_self).reads ']' (by decide) rest
      rw [written, List.cons_append] at reads
      refine ⟨c :: (later ++ ']' :: rest), by simp [printItems, written], ?_⟩
      exact readItems_last (solid.skipLines_eq _) isItem reads
        (solidBracket.skipLines_eq rest) _
  | first :: second :: later, each =>
      refine ⟨(first :: second :: later).flatMap itemLine ++ '\n' :: ']' ::
        rest, ?_, ?_⟩
      · have several : printItems ((first :: second :: later).map print) =
            '[' :: ((first :: second :: later).map print).flatMap
              (fun text => '\n' :: ' ' :: ' ' :: ' ' :: ' ' :: text ++ [',']) ++
                ['\n', ']'] := rfl
        rw [several, List.flatMap_map]
        exact List.append_assoc _ _ rest
      · apply readItems_lines each
        have lines := length_le_flatMap_itemLine (first :: second :: later)
        rw [List.length_append]
        omega

end Lists

/-! ## All values -/

theorem readsBack_string
    (levels : Nat)
    (text : String) :
    ReadsBack (readValue levels) (.string text) := by
  obtain ⟨c, later, written, isQuote⟩ := exists_quote_eq_cons text.toList
  have isWritten : print (.string text) = c :: later := written
  refine ⟨⟨c, later, isWritten, ?_, ?_⟩, fun mark isMark rest => ?_⟩
  · rcases isQuote with rfl | rfl <;> decide
  · rcases isQuote with rfl | rfl <;> decide
  · have notQuote : mark ≠ '"' ∧ mark ≠ '\'' := by
      constructor
      all_goals
        rintro rfl
        revert isMark
        decide
    have reads := @readQuoted_quote text.toList (mark :: rest)
      (by simpa using notQuote.1) (by simpa using notQuote.2)
    rw [written, List.cons_append] at reads
    rw [isWritten, List.cons_append, readValue_quoted isQuote, reads,
      Option.map_some]
    dsimp only
    rw [String.ofList_toList]

theorem print_integer
    (number : Nat) :
    print (.integer number) = Nat.toDigits 10 number := by
  have digits : toString (number : Int) =
      String.ofList (Nat.toDigits 10 number) :=
    Nat.repr_eq_ofList_toDigits
  rw [print, digits, String.toList_ofList]

theorem readsBack_integer
    (levels : Nat)
    {number : Nat}
    (fits : isInteger number = true) :
    ReadsBack (readValue levels) (.integer number) := by
  obtain ⟨c, later, split⟩ :=
    List.exists_cons_of_ne_nil (@Nat.toDigits_ne_nil number 10)
  have isDigit : c.isDigit = true :=
    allDigits_toDigits number c (split ▸ List.mem_cons_self)
  refine ⟨⟨c, later, (print_integer number).trans split, .of_class isDigit rfl,
    ne_of_class isDigit rfl⟩, fun mark isMark rest => ?_⟩
  have ends : isScalarChar mark = false ∧ mark ≠ ' ' := by
    simp only [List.mem_cons, List.not_mem_nil, or_false] at isMark
    rcases isMark with rfl | rfl | rfl <;> decide
  have reads := readScalar_toDigits fits ends.1 ends.2 rest
  rw [split, List.cons_append] at reads
  rw [print_integer, split, List.cons_append, readValue_scalar isDigit, reads]

/-- Every value that can be written is read as what it was written for. -/
theorem Written.readsBack
    {levels : Nat}
    {value : Toml}
    (written : Written levels value) :
    ReadsBack (readValue levels) value := by
  induction written with
  | string text => exact readsBack_string _ text
  | integer fits => exact readsBack_integer _ fits
  | @array levels items each inductionHypothesis =>
      have isWritten : print (.array items) = printItems (items.map print) := by
        rw [print, printEach_eq_map]
      obtain ⟨behind, opened, -⟩ := readItems_printItems inductionHypothesis []
      rw [List.append_nil] at opened
      refine ⟨⟨'[', behind, isWritten.trans opened, by decide, by decide⟩,
        fun mark isMark rest => ?_⟩
      obtain ⟨behind, opened, reads⟩ :=
        readItems_printItems inductionHypothesis (mark :: rest)
      rw [isWritten, opened, readValue_array, reads, Option.map_some]

end Toml
end MailSearch
