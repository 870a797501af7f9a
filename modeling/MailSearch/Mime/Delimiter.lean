import MailSearch.Mime.Fields

/-!
# Delimiters between parts

The parts of a multipart body stand between delimiters of two dashes and the
boundary, wherever these bytes occur.  The line break in front of a delimiter
belongs to it, and two more dashes behind the boundary mark the end of the last
part.
-/

namespace MailSearch
namespace Mime

/-- Two dashes. -/
def dashes : List UInt8 :=
  [ascii '-', ascii '-']

/-- The bytes that separate the parts. -/
def delimiter (boundary : List UInt8) : List UInt8 :=
  dashes ++ boundary

/-- The bytes before the first delimiter, and what follows it. -/
def cut (boundary : List UInt8) : List UInt8 -> Option (List UInt8 × List UInt8)
  | [] => none
  | byte :: rest =>
      let mark := delimiter boundary
      if mark.isPrefixOf (byte :: rest) then
        some ([], (byte :: rest).drop mark.length)
      else (cut boundary rest).map fun (before, after) =>
        (byte :: before, after)

/-- Drop the blanks and the line break behind a delimiter. -/
def dropLineEnd : List UInt8 -> List UInt8
  | [] => []
  | byte :: rest =>
      if byte = ascii '\n' then rest
      else if isLineSpace byte then dropLineEnd rest
      else byte :: rest

theorem length_cut_lt {boundary bytes before after : List UInt8}
    (found : cut boundary bytes = some (before, after)) :
      after.length < bytes.length := by
  induction bytes generalizing before with
  | nil => simp [cut] at found
  | cons byte rest ih =>
      simp only [cut] at found
      split at found
      · simp only [Option.some.injEq, Prod.mk.injEq] at found
        have : (delimiter boundary).length = boundary.length + 2 := by
          simp [delimiter, dashes]
        rw [← found.2, List.length_drop, List.length_cons]
        omega
      · obtain ⟨⟨_, after'⟩, inner, pair⟩ := Option.map_eq_some_iff.1 found
        simp only [Prod.mk.injEq] at pair
        have := ih (inner.trans (by rw [pair.2]))
        simp only [List.length_cons]
        omega

theorem length_dropLineEnd_le (bytes : List UInt8) :
    (dropLineEnd bytes).length ≤ bytes.length := by
  induction bytes with
  | nil => simp [dropLineEnd]
  | cons byte rest ih =>
      simp only [dropLineEnd]
      split
      · simp
      · split
        · simp only [List.length_cons]
          omega
        · simp

end Mime
end MailSearch
