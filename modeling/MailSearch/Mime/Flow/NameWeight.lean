import MailSearch.Mime.Flow.Table
import MailSearch.Text.Utf8

/-!
# Weights of names

A name of a character is found by its weight: its length with the weights of its
letters in ten places.  The weights are chosen such that no two names of the
table weigh the same.  Nothing but the weight is compared, so a text that is no
name and weighs as much as one stands for the same character.
-/

namespace MailSearch
namespace Mime
namespace Flow

/-- A weight above those of all names: the weight of what occurs in no name. -/
def foreignWeight : Nat := 18080

/-- The first number with a weight of its own: the code of the digit `1`. -/
def firstWeighed : Nat := 49

/-- The weights from the first number on. -/
def weights : Array Nat :=
  #[
    0, 35, 30, 0, 20, 75, 18080, 50, 18080, 18080, 18080, 18080, 18080, 18080,
      18080, 18080,
    360, 660, 1375, 1590, 165, 897, 395, 1270, 1990, 80, 365, 515, 695, 630,
      402, 700, 195, 765,
    125, 900, 1210, 570, 50, 415, 495, 150, 18080, 15, 18080, 0, 18080, 18080,
      4491, 45, 2786,
    130, 15, 535, 2358, 3013, 270, 1125, 3797, 5, 155, 100, 1440, 75, 805, 0,
      10, 20, 35, 305,
    1730, 3448, 4111, 145, 110, 420, 0, 0
  ]

/-- The weight of a number. -/
def weightOf (number : Nat) : Nat :=
  if number < firstWeighed then foreignWeight
  else weights.getD (number - firstWeighed) foreignWeight

/-- What is added to the code of a letter in a place before it is weighed, if
the place counts. -/
def shiftAt? : Nat -> Option Nat
  | 0 | 5 | 6 | 9 | 11 => some 0
  | 1 => some 4
  | 2 | 4 => some 1
  | 3 => some 3
  | _ => none

/-- The weight of a letter in a place. -/
def letterWeight (letter : UInt8) (place : Nat) : Nat :=
  match shiftAt? place with
  | none => 0
  | some shift => weightOf (letter.toNat + shift)

/-- The weights of letters from a place on; the last letter counts once more by
itself. -/
def lettersWeight : List UInt8 -> Nat -> Nat
  | [], _ => 0
  | [letter], place => letterWeight letter place + weightOf letter.toNat
  | letter :: rest, place =>
      letterWeight letter place + lettersWeight rest (place + 1)

/-- The weight of a name. -/
def nameWeight (name : List Char) : Nat :=
  let letters := Text.Utf8.encode name
  letters.length + lettersWeight letters 0

/-- The code points of the named characters by the weights of their names. -/
def weighedCharacters : List (Nat × Nat) :=
  namedCharacters.map fun (name, code) => (nameWeight name.toList, code)

/-- The code point of the character whose name weighs as much as a text. -/
def namedCode? (text : List Char) : Option Nat :=
  weighedCharacters.lookup (nameWeight text)

end Flow
end Mime
end MailSearch
