import MailSearch.Data.Attempt
import MailSearch.Text.Blank
import MailSearch.Text.LetterCase
import MailSearch.Text.Occurrence
import MailSearch.Text.Utf8

/-!
# The plain text of HTML

HTML is read as text in five steps: scripts and styles go, some tags become line
breaks, all other tags go, a few entities are decoded, and blanks at the ends of
lines and repeated blank lines go.  Not every HTML has a text: on some the
program breaks down.
-/

namespace MailSearch
namespace Html

/-! ## Blocks without text -/

/-- What follows the first place at which the second bytes of the pairs spell
`closing`. -/
def afterClosing (closing : List UInt8) :
    List (UInt8 × UInt8) -> Option (List (UInt8 × UInt8))
  | [] => none
  | pair :: rest =>
      if closing.isPrefixOf
          (((pair :: rest).take closing.length).map Prod.snd) then
        some (rest.drop (closing.length - 1))
      else afterClosing closing rest

theorem length_afterClosing_lt {closing : List UInt8}
    {pairs rest : List (UInt8 × UInt8)}
    (found : afterClosing closing pairs = some rest) :
      rest.length < pairs.length := by
  induction pairs with
  | nil => simp [afterClosing] at found
  | cons pair tail ih =>
      simp only [afterClosing] at found
      split at found
      · injection found with equal
        subst equal
        simp only [List.length_drop, List.length_cons]
        omega
      · have := ih found
        simp only [List.length_cons]
        omega

/--
The first bytes of the pairs without those from a place where the second bytes
spell `opening` through the next place where they spell `closing`, or through
the end if there is none.  A text can only be cut between two characters: if the
first bytes are in the middle of one where a block begins, or behind its closing
mark, the program breaks down.
-/
def dropBlocks (opening closing : List UInt8) (pairs : List (UInt8 × UInt8)) :
    Attempt (List UInt8) :=
  match pairs with
  | [] => some []
  | pair :: rest =>
      if opening.isPrefixOf
          (((pair :: rest).take opening.length).map Prod.snd) then
        if Text.Utf8.isBoundary ((pair :: rest).map Prod.fst) then
          match _found : afterClosing closing (pair :: rest) with
          | some rest =>
              if Text.Utf8.isBoundary (rest.map Prod.fst) then
                dropBlocks opening closing rest
              else none
          | none => some []
        else none
      else (dropBlocks opening closing rest).map (pair.1 :: ·)
termination_by pairs.length
decreasing_by
  · exact length_afterClosing_lt _found
  · simp

/--
Remove every block of a tag, found in any letter case.  Tags are looked up in
the lower-case text byte by byte, so a text whose lower case takes a different
number of bytes is left as it is.  In other texts the blocks are cut out at the
places that they have in lower case, which need not lie between two characters.
-/
def removeBlocks (tag : String) (html : List Char) : Attempt (List Char) :=
  let bytes := Text.Utf8.encode html
  let lower := Text.Utf8.encode (Text.lower html)
  if lower.length ≠ bytes.length then some html
  else
    let opening := Text.Utf8.bytes ("<" ++ tag)
    let closing := Text.Utf8.bytes ("</" ++ tag ++ ">")
    (dropBlocks opening closing (bytes.zip lower)).bind Text.Utf8.decode?

/-! ## Line breaks -/

/-- One replacement of a text by another. -/
structure Replacement where
  /-- What is replaced. -/
  pattern : String
  /-- What takes its place. -/
  replacement : String

/-- Replace everywhere in a text. -/
def Replacement.apply (rule : Replacement) (text : List Char) : List Char :=
  Text.replaceAll rule.pattern.toList rule.replacement.toList text

/-- Make the replacements one after the other. -/
def applyAll (rules : List Replacement) (text : List Char) : List Char :=
  rules.foldl (fun text rule => rule.apply text) text

/-- The spellings of a forced line break. -/
def breakTags : List String :=
  ["<br>", "<BR>", "<br/>", "<BR/>", "<br />", "<BR />"]

/-- The elements that stand on lines of their own, in both letter cases. -/
def blockNames : List String :=
  ["p", "P", "div", "DIV", "tr", "TR", "li", "LI", "h1", "H1", "h2", "H2",
    "h3", "H3", "h4", "H4", "h5", "H5", "h6", "H6"]

/-- The replacements that turn tags into line breaks, in order. -/
def lineBreaks : List Replacement :=
  breakTags.map (fun tag => ⟨tag, "\n"⟩) ++
    blockNames.flatMap fun name =>
      [⟨"<" ++ name ++ ">", "\n"⟩, ⟨"<" ++ name ++ " ", "\n<"⟩,
        ⟨"</" ++ name ++ ">", "\n"⟩]

/-! ## Tags and entities -/

/-- Drop everything from `<` to the next `>`, and every other `>`. -/
def stripTags (inTag : Bool) : List Char -> List Char
  | [] => []
  | c :: rest =>
      if c = '<' then stripTags true rest
      else if c = '>' then stripTags false rest
      else if inTag then stripTags true rest
      else c :: stripTags false rest

/-- The entities that are decoded, in order; the ampersand is last. -/
def entities : List Replacement :=
  [⟨"&lt;", "<"⟩, ⟨"&gt;", ">"⟩, ⟨"&quot;", "\""⟩, ⟨"&#39;", "'"⟩,
    ⟨"&apos;", "'"⟩, ⟨"&nbsp;", " "⟩, ⟨"&#160;", " "⟩, ⟨"&amp;", "&"⟩]

/-! ## Blank lines -/

/-- Keep one blank line of every run of blank lines. -/
def collapseBlank (afterBlank : Bool) : List (List Char) -> List (List Char)
  | [] => []
  | line :: rest =>
      if line.isEmpty then
        if afterBlank then collapseBlank true rest
          else line :: collapseBlank true rest
      else line :: collapseBlank false rest

/-- Trim every line and the whole, and keep one blank line of every run of blank
lines. -/
def tidy (text : List Char) : List Char :=
  let kept := collapseBlank false ((Text.lines text).map Text.trim)
  Text.trim (kept.flatMap fun line => line ++ ['\n'])

/-- The plain text of HTML of which scripts and styles are no longer removed. -/
def shown (html : List Char) : List Char :=
  tidy (applyAll entities (stripTags false (applyAll lineBreaks html)))

/-- The plain text of HTML. -/
def plainChars (html : List Char) : Attempt (List Char) := do
  let withoutScripts ← removeBlocks "script" html
  let visible ← removeBlocks "style" withoutScripts
  return shown visible

/-- The plain text of an HTML text. -/
def plainText (html : String) : Attempt String :=
  (plainChars html.toList).map String.ofList

end Html
end MailSearch
