import MailSearch.Toml.Quoted

/-!
# Quoted texts back and forth

Whichever of the four ways a text is written in, the reader of quoted texts
reads the text up to its closing quotes, as long as no quote follows them.
-/

namespace MailSearch
namespace Toml

/-! ## Escapes -/

/-- A text is an escape for a character, or the character itself where it needs
none. -/
inductive Escapes (c : Char) : List Char -> Prop where
  /-- A letter stands for the character. -/
  | letter {letter : Char} (means : escaped? letter = some c) :
      Escapes c ['\\', letter]
  /-- The code point stands for the character. -/
  | code {first second third fourth : Char}
      (means : coded? [first, second, third, fourth] = some c) :
      Escapes c ['\\', 'u', first, second, third, fourth]
  /-- The character stands for itself. -/
  | plain (isPlain : isPlain c = true) (notQuote : c ≠ '"')
        (notBackslash : c ≠ '\\') :
      Escapes c [c]

theorem hexDigit?_toUpper_hexChar :
    ∀ digit < 16, Text.hexDigit? (Text.hexChar digit).toUpper = some digit := by
  decide

/-- Four hexadecimal digits denote the code point that they were made of. -/
theorem coded?_codeDigits
    {c : Char}
    (small : c.toNat < 0x10000) :
    coded? (codeDigits c.toNat) = some c := by
  have isDigit : ∀ value, Text.hexDigit? (Text.hexChar (value % 16)).toUpper =
      some (value % 16) :=
    fun value => hexDigit?_toUpper_hexChar _ (Nat.mod_lt value (by decide))
  have values : (codeDigits c.toNat).mapM Text.hexDigit? =
      some [c.toNat / 4096 % 16, c.toNat / 256 % 16, c.toNat / 16 % 16,
        c.toNat % 16] := by
    simp [codeDigits, isDigit]
  have total : [c.toNat / 4096 % 16, c.toNat / 256 % 16, c.toNat / 16 % 16,
      c.toNat % 16].foldl
      (fun code digit => code * 16 + digit) 0 = c.toNat := by
    simp only [List.foldl_cons, List.foldl_nil]
    omega
  have valid : c.toNat.isValidChar := c.valid
  rw [coded?, values]
  simp only [bind, Option.bind, total, valid, if_true, Char.ofNat_toNat]

/-- A character may stand for itself on a line if it needs no escape and ends no
line. -/
theorem isPlain_iff
    {c : Char} :
    isPlain c = true ↔ needsEscape c = false ∧ c ≠ '\n' := by
  by_cases isTab : c = '\t'
  · subst isTab
    decide
  · by_cases isBreak : c = '\n'
    · subst isBreak
      decide
    · simp [isPlain, needsEscape, isTab, isBreak]

/-- Between double quotes every character is escaped where it needs to be. -/
theorem escapes_escape
    (c : Char) :
    Escapes c (escape c) := by
  unfold escape
  split
  case h_8 notBreak _ _ notQuote notBackslash =>
    split
    · rename_i needs
      have small : c.toNat < 0x10000 := by
        simp only [needsEscape, Bool.or_eq_true, Bool.and_eq_true,
          decide_eq_true_eq] at needs
        omega
      exact .code (coded?_codeDigits small)
    · rename_i plain
      refine .plain (isPlain_iff.mpr ⟨?_, notBreak⟩) notQuote notBackslash
      simpa using plain
  all_goals exact .letter rfl

/-- An escape starts with a character that stands on a line and is no quote. -/
theorem Escapes.exists_eq_cons
    {c : Char}
    {written : List Char}
    (escapes : Escapes c written) :
    ∃ first later, written = first :: later ∧ isPlain first = true ∧
      first ≠ '"' := by
  cases escapes with
  | letter means => exact ⟨_, _, rfl, rfl, by decide⟩
  | code means => exact ⟨_, _, rfl, rfl, by decide⟩
  | plain isPlain notQuote notBackslash => exact ⟨_, _, rfl, isPlain, notQuote⟩

theorem Escapes.head?_ne
    {c : Char}
    {written : List Char}
    (escapes : Escapes c written)
    (rest : List Char) :
    (written ++ rest).head? ≠ some '"' := by
  obtain ⟨first, later, rfl, -, notQuote⟩ := escapes.exists_eq_cons
  simpa using notQuote

theorem escaped?_eq_some
    {letter c : Char}
    (means : escaped? letter = some c) :
    letter ∈ ['b', 't', 'n', 'f', 'r', '"', '\\'] := by
  unfold escaped? at means
  split at means
  case h_8 => cases means
  all_goals decide

/-- A letter behind a backslash does not end the line. -/
theorem endsLine_of_escaped?
    {letter c : Char}
    (means : escaped? letter = some c)
    (rest : List Char) :
    endsLine (letter :: rest) = false := by
  have isLetter := escaped?_eq_some means
  simp only [List.mem_cons, List.not_mem_nil, or_false] at isLetter
  rcases isLetter with rfl | rfl | rfl | rfl | rfl | rfl | rfl <;> rfl

/-! ## Reading between double quotes -/

/-- An escape is read as its character. -/
theorem readBasic_escape
    {c : Char}
    {written : List Char}
    (escapes : Escapes c written)
    (rest : List Char) :
    readBasic (written ++ rest) = andChar c (readBasic rest) := by
  cases escapes with
  | @letter letter means =>
      have notU : letter ≠ 'u' := by
        rintro rfl
        cases means
      have notLongU : letter ≠ 'U' := by
        rintro rfl
        cases means
      simp [readBasic, notU, notLongU, means]
  | code means => simp [readBasic, means]
  | plain isPlain notQuote notBackslash =>
      simp [readBasic, notBackslash, isPlain]

/-- A text between double quotes is read up to the closing one. -/
theorem readBasic_flatMap_escape
    (text rest : List Char) :
    readBasic (text.flatMap escape ++ '"' :: rest) = some (text, rest) := by
  induction text with
  | nil => rw [List.flatMap_nil, List.nil_append, readBasic]
  | cons c later inductionHypothesis =>
      rw [List.flatMap_cons, List.append_assoc,
        readBasic_escape (escapes_escape c), inductionHypothesis, andChar]

/-- A text between single quotes is read up to the closing one. -/
theorem readLiteral_append
    {text : List Char}
    (plain : ∀ c ∈ text, isPlain c = true)
    (unquoted : ∀ c ∈ text, c ≠ '\'')
    (rest : List Char) :
    readLiteral (text ++ '\'' :: rest) = some (text, rest) := by
  induction text with
  | nil => rw [List.nil_append, readLiteral]
  | cons c later inductionHypothesis =>
      obtain ⟨first, others⟩ := List.forall_mem_cons.mp plain
      obtain ⟨notQuote, othersUnquoted⟩ := List.forall_mem_cons.mp unquoted
      rw [List.cons_append, readLiteral.eq_3 c _ notQuote, if_pos first,
        inductionHypothesis others othersUnquoted, andChar]

/-! ## Reading between triple double quotes -/

/-- An escape is read as its character. -/
theorem readLongBasic_escape
    {c : Char}
    {written : List Char}
    (escapes : Escapes c written)
    (rest : List Char) :
    readLongBasic false (written ++ rest) =
      andChar c (readLongBasic false rest) := by
  cases escapes with
  | @letter letter means =>
      have notU : letter ≠ 'u' := by
        rintro rfl
        cases means
      have notLongU : letter ≠ 'U' := by
        rintro rfl
        cases means
      simp [readLongBasic, notU, notLongU, means, endsLine_of_escaped? means]
  | code means => simp [readLongBasic, means]
  | plain plain notQuote notBackslash =>
      have notBreak := (isPlain_iff.mp plain).2
      have notReturn : c ≠ '\r' := by
        rintro rfl
        cases plain
      simp [readLongBasic, notQuote, notBackslash, notReturn, plain]

/-- Up to two quotes in front of something else stand for themselves. -/
theorem readLongBasic_quotes
    {quotes : Nat}
    (few : quotes ≤ 2)
    {next : List Char}
    (other : next.head? ≠ some '"')
    {text rest : List Char}
    (read : readLongBasic false next = some (text, rest)) :
    readLongBasic false (List.replicate quotes '"' ++ next) =
      some (List.replicate quotes '"' ++ text, rest) := by
  cases next with
  | nil => cases read
  | cons c later =>
      have notQuote : c ≠ '"' := fun same => other (congrArg some same)
      obtain rfl | rfl | rfl : quotes = 0 ∨ quotes = 1 ∨ quotes = 2 := by omega
      · exact read
      · simp [readLongBasic, notQuote, isPlain, read, andChar]
      · simp [List.replicate, readLongBasic, notQuote, isPlain, read, andChar]

/-- Up to two quotes in front of the closing ones belong to the text. -/
theorem readLongBasic_closing
    {rest : List Char}
    (closed : rest.head? ≠ some '"')
    {quotes : Nat}
    (few : quotes ≤ 2) :
    readLongBasic false (List.replicate quotes '"' ++ '"' :: '"' ::
        '"' :: rest) =
      some (List.replicate quotes '"', rest) := by
  have notQuote : ∀ others, rest = '"' :: others → False := by
    rintro others rfl
    exact closed rfl
  obtain rfl | rfl | rfl : quotes = 0 ∨ quotes = 1 ∨ quotes = 2 := by omega
  · exact readLongBasic.eq_4 false rest (fun others => notQuote _) notQuote
  · exact readLongBasic.eq_3 false rest notQuote
  · exact readLongBasic.eq_2 false rest

/-- What is written behind some quotes is read up to the closing ones. -/
theorem readLongBasic_escapeLong
    {rest : List Char}
    (closed : rest.head? ≠ some '"')
    (text : List Char)
    {quotes : Nat}
    (few : quotes ≤ 2) :
    readLongBasic false (List.replicate quotes '"' ++ (escapeLong quotes text ++
      '"' :: '"' :: '"' :: rest)) =
        some (List.replicate quotes '"' ++ text, rest) := by
  -- Quotes that were written are not read before it is clear that they do not
  -- close the text.
  induction text generalizing quotes with
  | nil =>
      rw [escapeLong, List.nil_append, List.append_nil]
      exact readLongBasic_closing closed few
  | cons c later inductionHypothesis =>
      have following := inductionHypothesis (Nat.zero_le 2)
      rw [List.replicate_zero, List.nil_append, List.nil_append] at following
      by_cases isBreak : c = '\n'
      · subst isBreak
        rw [escapeLong, List.cons_append]
        apply readLongBasic_quotes few (by simp)
        rw [readLongBasic, if_neg Bool.false_ne_true, following, andChar]
      · by_cases isQuote : c = '"'
        · subst isQuote
          rw [escapeLong]
          split
          · rename_i fewer
            have more := inductionHypothesis (Nat.succ_le_of_lt fewer)
            rw [List.replicate_succ', List.append_assoc,
              List.append_assoc] at more
            exact more
          · rw [List.cons_append, List.cons_append]
            apply readLongBasic_quotes few (by simp)
            have escapes : Escapes '"' ['\\', '"'] := .letter rfl
            have read := readLongBasic_escape escapes
              (escapeLong 0 later ++ '"' :: '"' :: '"' :: rest)
            rw [following, andChar] at read
            exact read
        · rw [escapeLong.eq_4 quotes c later isBreak isQuote, List.append_assoc]
          have escapes := escapes_escape c
          apply readLongBasic_quotes few (escapes.head?_ne _)
          rw [readLongBasic_escape escapes, following, andChar]

/-! ## Reading between triple single quotes -/

theorem le_longestRun
    (mark : Char)
    (run : Nat)
    (text : List Char) :
    run ≤ longestRun mark run text := by
  induction text generalizing run with
  | nil => exact Nat.le_refl run
  | cons c later inductionHypothesis =>
      rw [longestRun]
      split
      · exact Nat.le_trans (Nat.le_succ run) (inductionHypothesis (run + 1))
      · exact Nat.le_max_left _ _

/-- A text without a run of a character is a text without the character. -/
theorem forall_ne_of_longestRun
    {mark : Char}
    {text : List Char}
    (none : longestRun mark 0 text = 0) :
    ∀ c ∈ text, c ≠ mark := by
  induction text with
  | nil => exact List.forall_mem_nil _
  | cons c later inductionHypothesis =>
      rw [longestRun] at none
      split at none
      · have least := le_longestRun mark (0 + 1) later
        omega
      · rename_i differs
        exact List.forall_mem_cons.mpr ⟨differs, inductionHypothesis (by omega)⟩

/-- Up to two quotes in front of the closing ones belong to the text. -/
theorem readLongLiteral_closing
    {rest : List Char}
    (closed : rest.head? ≠ some '\'')
    {quotes : Nat}
    (few : quotes ≤ 2) :
    readLongLiteral (List.replicate quotes '\'' ++ '\'' :: '\'' ::
        '\'' :: rest) =
      some (List.replicate quotes '\'', rest) := by
  have notQuote : ∀ others, rest = '\'' :: others → False := by
    rintro others rfl
    exact closed rfl
  obtain rfl | rfl | rfl : quotes = 0 ∨ quotes = 1 ∨ quotes = 2 := by omega
  · exact readLongLiteral.eq_4 rest (fun others => notQuote _) notQuote
  · exact readLongLiteral.eq_3 rest notQuote
  · exact readLongLiteral.eq_2 rest

/-- Up to two quotes in front of something else stand for themselves. -/
theorem readLongLiteral_quotes
    {quotes : Nat}
    (few : quotes ≤ 2)
    {next : List Char}
    (other : next.head? ≠ some '\'')
    {text rest : List Char}
    (read : readLongLiteral next = some (text, rest)) :
    readLongLiteral (List.replicate quotes '\'' ++ next) =
      some (List.replicate quotes '\'' ++ text, rest) := by
  cases next with
  | nil => cases read
  | cons c later =>
      have notQuote : c ≠ '\'' := fun same => other (congrArg some same)
      obtain rfl | rfl | rfl : quotes = 0 ∨ quotes = 1 ∨ quotes = 2 := by omega
      · exact read
      · simp [readLongLiteral, notQuote, isPlain, read, andChar]
      · simp [List.replicate, readLongLiteral, notQuote, isPlain, read, andChar]

/-- A text behind some quotes is read up to the closing ones if it has no run of
three. -/
theorem readLongLiteral_append
    {rest : List Char}
    (closed : rest.head? ≠ some '\'')
    {text : List Char}
    (unescaped : ∀ c ∈ text, needsEscape c = false)
    {quotes : Nat}
    (few : longestRun '\'' quotes text ≤ 2) :
    readLongLiteral
        (List.replicate quotes '\'' ++ (text ++ '\'' :: '\'' :: '\'' :: rest)) =
      some (List.replicate quotes '\'' ++ text, rest) := by
  induction text generalizing quotes with
  | nil =>
      rw [List.nil_append, List.append_nil]
      exact readLongLiteral_closing closed few
  | cons c later inductionHypothesis =>
      obtain ⟨first, others⟩ := List.forall_mem_cons.mp unescaped
      rw [longestRun] at few
      split at few
      · rename_i isQuote
        subst isQuote
        have more := inductionHypothesis others few
        rw [List.replicate_succ', List.append_assoc, List.append_assoc] at more
        exact more
      · rename_i notQuote
        have following :=
          inductionHypothesis others (Nat.le_trans (Nat.le_max_right _ _) few)
        rw [List.replicate_zero, List.nil_append, List.nil_append] at following
        rw [List.cons_append]
        apply readLongLiteral_quotes (Nat.le_trans (Nat.le_max_left _ _) few)
          (by simpa using notQuote)
        by_cases isBreak : c = '\n'
        · subst isBreak
          rw [readLongLiteral, following, andChar]
        · have plain : isPlain c = true := isPlain_iff.mpr ⟨first, isBreak⟩
          have notReturn : c ≠ '\r' := by
            rintro rfl
            cases plain
          simp [readLongLiteral, notQuote, notReturn, plain, following, andChar]

/-! ## All ways of writing -/

theorem dropLineBreak_of_head?
    {text : List Char}
    (notBreak : text.head? ≠ some '\n')
    (notReturn : text.head? ≠ some '\r') :
    dropLineBreak text = text := by
  unfold dropLineBreak
  split
  · exact absurd rfl notBreak
  · exact absurd rfl notReturn
  · rfl

/-- A line that starts with a plain character starts with no line break. -/
theorem ne_lineBreak_of_isPlain
    {c : Char}
    (plain : isPlain c = true) :
    c ≠ '\n' ∧ c ≠ '\r' := by
  constructor
  all_goals
    rintro rfl
    cases plain

/-- The line break behind the opening quotes is dropped, and none that belongs
to the text. -/
theorem dropLineBreak_leadingBreak
    {text written : List Char}
    (starts : '\n' ∉ text → ∃ c later, written = c :: later ∧
      isPlain c = true) :
    dropLineBreak (leadingBreak text ++ written) = written := by
  unfold leadingBreak
  split
  · rfl
  · rename_i noBreak
    obtain ⟨c, later, rfl, plain⟩ := starts (by simpa using noBreak)
    obtain ⟨notBreak, notReturn⟩ := ne_lineBreak_of_isPlain plain
    exact dropLineBreak_of_head? (by simpa using notBreak) (by
      simpa using notReturn)

/-- What is written between triple double quotes starts with no line break of
its own. -/
theorem exists_escapeLong_eq_cons
    {text : List Char}
    (unbroken : '\n' ∉ text)
    (rest : List Char) :
    ∃ c later, escapeLong 0 text ++ '"' :: rest = c :: later ∧
      isPlain c = true := by
  cases text with
  | nil => exact ⟨'"', rest, rfl, rfl⟩
  | cons c later =>
      have notBreak : c ≠ '\n' :=
        fun same => unbroken (same ▸ List.mem_cons_self)
      by_cases isQuote : c = '"'
      · subst isQuote
        exact ⟨'"', _, rfl, rfl⟩
      · obtain ⟨first, others, written, plain, -⟩ :=
          (escapes_escape c).exists_eq_cons
        rw [escapeLong.eq_4 0 c later notBreak isQuote, written]
        exact ⟨first, _, rfl, plain⟩

/-- Single quotes are put around texts without line breaks and without single
quotes only. -/
theorem QuoteStyle.of_eq_literal
    {text : List Char}
    (style : QuoteStyle.of text = .literal) :
    text ≠ [] ∧ (∀ c ∈ text, isPlain c = true) ∧ ∀ c ∈ text, c ≠ '\'' := by
  unfold of at style
  simp only at style
  split at style
  · cases style
  · rename_i notBasic
    split at style
    · rename_i isLiteral
      simp only [Bool.and_eq_true, Bool.not_eq_true', decide_eq_true_eq,
        List.any_eq_false] at isLiteral
      obtain ⟨⟨unescaped, unquoted⟩, unbroken⟩ := isLiteral
      refine ⟨?_, fun c isChar =>
        isPlain_iff.mpr ⟨?_, ?_⟩, forall_ne_of_longestRun unquoted⟩
      · rintro rfl
        exact notBasic rfl
      · exact Bool.eq_false_iff.mpr (unescaped c isChar)
      · rintro rfl
        rw [List.contains_iff_mem.mpr isChar] at unbroken
        cases unbroken
    · split at style
      · cases style
      · split at style
        · cases style
        · split at style <;> cases style

/-- Three single quotes are put around texts without a run of three of them
only. -/
theorem QuoteStyle.of_eq_longLiteral
    {text : List Char}
    (style : QuoteStyle.of text = .longLiteral) :
    (∀ c ∈ text, needsEscape c = false) ∧ longestRun '\'' 0 text ≤ 2 := by
  unfold of at style
  simp only at style
  split at style
  · cases style
  · split at style
    · cases style
    · split at style
      · cases style
      · split at style
        · rename_i isLong
          simp only [Bool.and_eq_true, Bool.not_eq_true', decide_eq_true_eq,
            List.any_eq_false] at isLong
          obtain ⟨unescaped, few⟩ := isLong
          exact ⟨fun c isChar =>
            Bool.eq_false_iff.mpr (unescaped c isChar), few⟩
        · split at style <;> cases style

/-- A text in quotes starts with one. -/
theorem exists_quote_eq_cons
    (text : List Char) :
    ∃ c later, quote text = c :: later ∧ (c = '"' ∨ c = '\'') := by
  unfold quote
  split
  · exact ⟨'"', _, rfl, .inl rfl⟩
  · exact ⟨'\'', _, rfl, .inr rfl⟩
  · exact ⟨'"', _, rfl, .inl rfl⟩
  · exact ⟨'\'', _, rfl, .inr rfl⟩

/-- A quoted text is read as it is, up to its closing quotes. -/
theorem readQuoted_quote
    (text : List Char)
    {rest : List Char}
    (notDouble : rest.head? ≠ some '"')
    (notSingle : rest.head? ≠ some '\'') :
    readQuoted (quote text ++ rest) = some (text, rest) := by
  unfold quote
  cases style : QuoteStyle.of text with
  | basic =>
      have single : ∀ others,
          text.flatMap escape ++ '"' :: rest = '"' :: '"' :: others →
            False := by
        intro others same
        cases text with
        | nil =>
            cases same
            exact notDouble rfl
        | cons c later =>
            rw [List.flatMap_cons, List.append_assoc] at same
            have head :=
              (escapes_escape c).head?_ne (later.flatMap escape ++ '"' :: rest)
            rw [same] at head
            exact head rfl
      simp only [List.cons_append, List.append_assoc, List.nil_append]
      rw [readQuoted.eq_2 _ single, readBasic_flatMap_escape]
  | literal =>
      obtain ⟨nonempty, plain, unquoted⟩ := QuoteStyle.of_eq_literal style
      have single : ∀ others, text ++ '\'' :: rest = '\'' :: '\'' :: others →
          False := by
        intro others same
        cases text with
        | nil => exact nonempty rfl
        | cons c later =>
            exact unquoted c List.mem_cons_self (List.cons.inj same).1
      simp only [List.cons_append, List.append_assoc, List.nil_append]
      rw [readQuoted.eq_4 _ single, readLiteral_append plain unquoted]
  | longBasic =>
      have dropped : dropLineBreak (leadingBreak text ++ (escapeLong 0 text ++
          '"' :: '"' :: '"' :: rest)) = escapeLong 0 text ++ '"' :: '"' ::
            '"' :: rest :=
        dropLineBreak_leadingBreak fun unbroken =>
          exists_escapeLong_eq_cons unbroken _
      have read := readLongBasic_escapeLong notDouble text (Nat.zero_le 2)
      rw [List.replicate_zero, List.nil_append, List.nil_append] at read
      simp only [List.cons_append, List.append_assoc, List.nil_append]
      rw [readQuoted, dropped, read]
  | longLiteral =>
      obtain ⟨unescaped, few⟩ := QuoteStyle.of_eq_longLiteral style
      have starts : '\n' ∉ text → ∃ c later,
          text ++ '\'' :: '\'' :: '\'' :: rest = c :: later ∧
          isPlain c = true := by
        intro unbroken
        cases text with
        | nil => exact ⟨'\'', _, rfl, rfl⟩
        | cons c later =>
            refine ⟨c, _, rfl,
              isPlain_iff.mpr ⟨unescaped c List.mem_cons_self, ?_⟩⟩
            exact fun same => unbroken (same ▸ List.mem_cons_self)
      have read := readLongLiteral_append notSingle unescaped few
      rw [List.replicate_zero, List.nil_append, List.nil_append] at read
      simp only [List.cons_append, List.append_assoc, List.nil_append]
      rw [readQuoted, dropLineBreak_leadingBreak starts, read]

end Toml
end MailSearch
