import MailSearch.Proofs.Mail.AddressList

/-!
# The display form of an address

The display form of an address shows its name in front of the bare address,
which then stands in angle brackets.  What is read from any text has trimmed
parts, and a bare address behind a name opens no bracket, so the last brackets
of the display form are those around the bare address.  The address is read back
from it unless quotes are dropped from the name again.
-/

namespace MailSearch
namespace Address

open Text (Framed)

/-! ## Texts in quotes -/

/-- A text begins with a quote and ends with another one. -/
structure InQuotes (text : List Char) : Prop where
  /-- There is room for two quotes. -/
  long : 2 ≤ text.length
  /-- The first character is a quote. -/
  opened : text.head? = some '"'
  /-- The last character is a quote. -/
  closed : text.getLast? = some '"'

theorem inQuotes_iff
    {text : List Char} :
    InQuotes text ↔ ∃ inner, text = '"' :: (inner ++ ['"']) := by
  constructor
  · rintro ⟨long, opened, closed⟩
    obtain ⟨rest, rfl⟩ := List.head?_eq_some_iff.mp opened
    rcases List.eq_nil_or_concat' rest with rfl | ⟨inner, last, rfl⟩
    · simp at long
    · rw [← List.cons_append, List.getLast?_concat] at closed
      exact ⟨inner, by rw [Option.some.inj closed]⟩
  · rintro ⟨inner, rfl⟩
    exact ⟨by simp, rfl, by rw [← List.cons_append, List.getLast?_concat]⟩

theorem unquote_of_inQuotes
    {text inner : List Char}
    (inQuotes : Text.trim text = '"' :: (inner ++ ['"'])) :
    unquote text = Text.trim inner := by
  rw [unquote, inQuotes]
  simp only [List.getLast?_concat, if_true, List.dropLast_concat]

theorem unquote_of_not_inQuotes
    {text : List Char}
    (bare : ¬ InQuotes (Text.trim text)) :
    unquote text = Text.trim text := by
  rw [unquote]
  split
  · rename_i rest isTrimmed
    rw [isTrimmed] at bare ⊢
    refine if_neg fun closed => bare ?_
    obtain ⟨inner, rfl⟩ := List.getLast?_eq_some_iff.mp closed
    exact inQuotes_iff.mpr ⟨inner, rfl⟩
  · rfl

/-- What is left without the quotes is trimmed. -/
theorem trim_unquote
    (text : List Char) :
    Text.trim (unquote text) = unquote text := by
  by_cases inQuotes : InQuotes (Text.trim text)
  · obtain ⟨inner, isTrimmed⟩ := inQuotes_iff.mp inQuotes
    rw [unquote_of_inQuotes isTrimmed, Text.trim_trim]
  · rw [unquote_of_not_inQuotes inQuotes, Text.trim_trim]

/-- A trimmed text is changed exactly if it is in quotes. -/
theorem unquote_eq_self_iff
    {text : List Char}
    (trimmed : Text.trim text = text) :
    unquote text = text ↔ ¬ InQuotes text := by
  constructor
  · intro same inQuotes
    obtain ⟨inner, rfl⟩ := inQuotes_iff.mp inQuotes
    rw [unquote_of_inQuotes trimmed] at same
    have shorter := (Text.trim_sublist inner).length_le
    rw [same, List.length_cons, List.length_append] at shorter
    omega
  · intro bare
    rw [← trimmed] at bare
    rw [unquote_of_not_inQuotes bare, trimmed]

/-! ## Addresses that are read -/

/-- What is inside stands between the last `<` and the last `>` behind it. -/
theorem bracketed?_eq_some_iff
    {text before inside : List Char} :
    bracketed? text = some (before, inside) ↔
      ∃ after, text = before ++ '<' :: (inside ++ '>' :: after) ∧
        '<' ∉ inside ++ '>' :: after ∧ '>' ∉ after := by
  constructor
  · intro found
    rw [bracketed?] at found
    split at found
    · cases found
    · rename_i opened
      obtain ⟨⟨_, after⟩, closed, same⟩ := Option.map_eq_some_iff.mp found
      cases same
      obtain ⟨rfl, unopened⟩ := Text.cutLast_eq_some_iff.mp opened
      obtain ⟨rfl, unclosed⟩ := Text.cutLast_eq_some_iff.mp closed
      exact ⟨after, rfl, unopened, unclosed⟩
  · rintro ⟨after, rfl, unopened, unclosed⟩
    rw [bracketed?, Text.cutLast_append_cons unopened]
    simp only [Text.cutLast_append_cons unclosed, Option.map_some]

theorem bracketed?_of_unopened
    {text : List Char}
    (unopened : '<' ∉ text) :
    bracketed? text = none := by
  rw [bracketed?, Text.cutLast_of_not_mem unopened]

/-- An address as it is read from some text. -/
structure Read (address : Address) : Prop where
  /-- No blanks are around the name. -/
  name_trimmed : Text.trim address.name.toList = address.name.toList
  /-- No blanks are around the bare address. -/
  email_trimmed : Text.trim address.email.toList = address.email.toList
  /-- No address is marked in the bare address. -/
  email_unbracketed : bracketed? address.email.toList = none
  /-- Behind a name no bracket is opened. -/
  email_unopened : address.name ≠ "" → '<' ∉ address.email.toList

theorem ofChars_of_bracketed
    {raw before inside : List Char}
    (bracketed : bracketed? (Text.trim raw) = some (before, inside)) :
    ofChars raw = ⟨String.ofList (unquote before),
      String.ofList (Text.trim inside)⟩ := by
  simp only [ofChars, bracketed]

theorem ofChars_of_unbracketed
    {raw : List Char}
    (unbracketed : bracketed? (Text.trim raw) = none) :
    ofChars raw = ⟨"", String.ofList (Text.trim raw)⟩ := by
  simp only [ofChars, unbracketed]

theorem read_ofChars
    (raw : List Char) :
    Read (ofChars raw) := by
  cases found : bracketed? (Text.trim raw) with
  | none =>
      rw [ofChars_of_unbracketed found]
      refine ⟨rfl, ?_, ?_, fun named => absurd rfl named⟩
      · rw [String.toList_ofList, Text.trim_trim]
      · rw [String.toList_ofList, found]
  | some parts =>
      obtain ⟨before, inside⟩ := parts
      obtain ⟨after, -, unopened, -⟩ := bracketed?_eq_some_iff.mp found
      have unopenedInside : '<' ∉ Text.trim inside := fun isChar =>
        unopened (List.mem_append_left _ (Text.trim_subset inside isChar))
      rw [ofChars_of_bracketed found]
      refine ⟨?_, ?_, ?_, fun _ => ?_⟩
      · rw [String.toList_ofList, trim_unquote]
      · rw [String.toList_ofList, Text.trim_trim]
      · rw [String.toList_ofList, bracketed?_of_unopened unopenedInside]
      · rwa [String.toList_ofList]

/-! ## Reading the display form -/

theorem toList_display_of_named
    {address : Address}
    (named : address.name ≠ "") :
    address.display.toList =
      address.name.toList ++ [' '] ++ '<' ::
        (address.email.toList ++ ['>']) := by
  rw [display, if_neg named]
  simp

namespace Read

variable {address : Address} (read : Read address)

include read

/-- The bare address alone is read as it is. -/
theorem parse_display_of_unnamed
    (unnamed : address.name = "") :
    parse address.display = address := by
  have unbracketed : bracketed? (Text.trim address.email.toList) = none := by
    rw [read.email_trimmed, read.email_unbracketed]
  rw [display, if_pos unnamed, parse, ofChars_of_unbracketed unbracketed,
    read.email_trimmed, String.ofList_toList, ← unnamed]

theorem framed_display_of_named
    (named : address.name ≠ "") :
    Framed address.display.toList := by
  have name : Framed address.name.toList :=
    Text.framed_of_trim_eq read.name_trimmed (by simpa using named)
  have assembled : address.display.toList =
      address.name.toList ++ ([' ', '<'] ++ address.email.toList) ++ ['>'] := by
    rw [toList_display_of_named named]
    simp
  rw [assembled]
  exact name.append _ (.of_solid (by decide) (by decide))

/-- From the display form with a name everything is read but quotes around the
name. -/
theorem parse_display_of_named
    (named : address.name ≠ "") :
    parse address.display = ⟨String.ofList (unquote address.name.toList),
      address.email⟩ := by
  have bracketed : bracketed? (Text.trim address.display.toList) =
      some (address.name.toList ++ [' '], address.email.toList) := by
    rw [(read.framed_display_of_named named).trim_eq, bracketed?_eq_some_iff]
    exact ⟨[], toList_display_of_named named,
      by simpa using read.email_unopened named, List.not_mem_nil⟩
  have nameAlone : unquote (address.name.toList ++ [' ']) =
      unquote address.name.toList := by
    rw [unquote, unquote, Text.trim_append_of_blank_back (by decide)]
  rw [parse, ofChars_of_bracketed bracketed, nameAlone, read.email_trimmed,
    String.ofList_toList]

theorem parse_display_iff :
    parse address.display = address ↔ ¬ InQuotes address.name.toList := by
  rw [← unquote_eq_self_iff read.name_trimmed]
  by_cases unnamed : address.name = ""
  · rw [unnamed]
    exact iff_of_true (read.parse_display_of_unnamed unnamed) rfl
  · rw [read.parse_display_of_named unnamed]
    constructor
    · intro same
      have sameName : String.ofList (unquote address.name.toList) =
          address.name :=
        congrArg name same
      exact String.toList_ofList.symm.trans (congrArg String.toList sameName)
    · intro same
      rw [same, String.ofList_toList]

end Read

/--
The address read from any text is read back from its display form, whatever
brackets the text has, exactly unless the name that was read is itself in
quotes.
-/
theorem display_form_reads_back_iff
    (text : String) :
    parse (parse text).display = parse text ↔
      ¬ InQuotes (parse text).name.toList :=
  (read_ofChars text.toList).parse_display_iff

/-- Of two pairs of quotes one is left, and is dropped when the address is read
again. -/
example :
    parse "\"\"Doe\"\" <d@e>" = ⟨"\"Doe\"", "d@e"⟩ ∧
      parse (parse "\"\"Doe\"\" <d@e>").display = ⟨"Doe", "d@e"⟩ := by
  decide

end Address
end MailSearch
