/-!
# Occurrences of one sequence in another

Searching, cutting and replacing, over characters and over bytes alike.  The
scanning functions work on lists; `occursIn_iff` says that searching finds
exactly the contiguous parts.
-/

namespace MailSearch
namespace Text

variable {α : Type} [BEq α]

/-- Whether `needle` stands somewhere in `haystack` as a contiguous part. -/
def occursIn (needle : List α) : List α -> Bool
  | [] => needle.isEmpty
  | item :: rest => needle.isPrefixOf (item :: rest) || occursIn needle rest

theorem occursIn_iff [LawfulBEq α] (needle haystack : List α) :
    occursIn needle haystack = true ↔ needle <:+: haystack := by
  induction haystack with
  | nil => simp [occursIn]
  | cons item rest ih => simp [occursIn, List.infix_cons_iff, ih]

/-- The parts before and after the first `mark`. -/
def cutFirst (mark : α) : List α -> Option (List α × List α)
  | [] => none
  | item :: rest =>
      if item == mark then some ([], rest)
      else (cutFirst mark rest).map fun (before, after) =>
        (item :: before, after)

/-- The parts before and after the last `mark`. -/
def cutLast (mark : α) : List α -> Option (List α × List α)
  | [] => none
  | item :: rest =>
      match cutLast mark rest with
      | some (before, after) => some (item :: before, after)
      | none => if item == mark then some ([], rest) else none

/-- The part after the first place where `mark` occurs, counted behind the
mark. -/
def dropThrough (mark : List α) : List α -> Option (List α)
  | [] => if mark.isEmpty then some [] else none
  | item :: rest =>
      if mark.isPrefixOf (item :: rest) then
        some ((item :: rest).drop mark.length)
      else dropThrough mark rest

/--
Replace every occurrence of `pattern`, from left to right and without overlap.
An empty pattern replaces nothing.
-/
def replaceAll (pattern replacement : List α) : List α -> List α
  | [] => []
  | item :: rest =>
      if !pattern.isEmpty && pattern.isPrefixOf (item :: rest) then
        replacement ++ replaceAll pattern replacement
          (rest.drop (pattern.length - 1))
      else item :: replaceAll pattern replacement rest
termination_by text => text.length
decreasing_by all_goals simp only [List.length_drop, List.length_cons]; omega

/-- The parts between the occurrences of `mark`; there is always at least
one. -/
def pieces (mark : α) : List α -> List (List α)
  | [] => [[]]
  | item :: rest =>
      if item == mark then [] :: pieces mark rest
      else
        match pieces mark rest with
        | [] => [[item]]
        | first :: others => (item :: first) :: others

theorem pieces_ne_nil (mark : α) (text : List α) : pieces mark text ≠ [] := by
  cases text with
  | nil => simp [pieces]
  | cons item rest =>
      simp only [pieces]
      split
      · simp
      · split <;> simp

/-- A line without the carriage return that stands directly before its line
feed. -/
def dropReturn (line : List Char) : List Char :=
  if line.getLast? = some '\r' then line.dropLast else line

/--
The lines of a text.  A line ends with a line feed, or a carriage return and a
line feed; the last line may lack its end, and then keeps a carriage return.
-/
def lines (text : List Char) : List (List Char) :=
  let parts := pieces '\n' text
  parts.dropLast.map dropReturn ++ (parts.getLast?.filter
    (fun line => !line.isEmpty)).toList

/-- Put `separator` between the items. -/
def joinWith (separator : List α) : List (List α) -> List α
  | [] => []
  | [item] => item
  | item :: rest => item ++ separator ++ joinWith separator rest

end Text
end MailSearch
