import MailSearch.Text.LetterCase.Table

/-!
# Lower case

The full lower-case mapping of Unicode.  One letter may become two characters,
and a capital sigma becomes the final small sigma at the end of a word, so a
character is mapped together with the text on both sides of it.  ASCII letter
case, which some names are compared by, has its own mapping.
-/

namespace MailSearch
namespace Text

/-- Whether a code point lies in one of the closed ranges. -/
def inRanges (ranges : List (Nat × Nat)) (code : Nat) : Bool :=
  ranges.any fun (first, last) => first ≤ code && code ≤ last

/-- A letter with case that the final-sigma rule stops at. -/
def isCased (c : Char) : Bool :=
  inRanges casedRanges c.toNat

/-- A character that the final-sigma rule passes over. -/
def isCaseIgnorable (c : Char) : Bool :=
  inRanges caseIgnorableRanges c.toNat

/-- The small letters of one character, apart from the final-sigma rule. -/
def lowerChar (c : Char) : List Char :=
  if c.toNat < 0x80 then [c.toLower]
  else if c = 'İ' then ['i', '\u0307']
  else
    match caseRuns.find? fun run =>
        run.first ≤ c.toNat && c.toNat ≤ run.last && (c.toNat - run.first) %
          run.step == 0 with
    | some run => [Char.ofNat (c.toNat + run.shift).toNat]
    | none => [c]

/-- Whether the first character that is not passed over is a cased letter. -/
def startsCased (text : List Char) : Bool :=
  match text.dropWhile isCaseIgnorable with
  | [] => false
  | c :: _ => isCased c

/--
The lower case of a text whose preceding characters, nearest first, are
`before`.  A capital sigma is final when a cased letter precedes it and none
follows it.
-/
def lowerAfter (before : List Char) : List Char -> List Char
  | [] => []
  | c :: rest =>
      let small :=
        if c = 'Σ' then
          if startsCased before && !startsCased rest then ['ς'] else ['σ']
        else lowerChar c
      small ++ lowerAfter (c :: before) rest

/-- The lower case of a sequence of characters. -/
def lower (text : List Char) : List Char :=
  lowerAfter [] text

/-- The lower case that changes the letters `A` to `Z` only. -/
def asciiLowercase (text : String) : String :=
  String.ofList (text.toList.map Char.toLower)

/-- Whether two texts differ at most in the case of ASCII letters. -/
def sameAscii (left right : String) : Bool :=
  asciiLowercase left == asciiLowercase right

@[simp] theorem lower_nil : lower [] = [] := rfl

end Text
end MailSearch
