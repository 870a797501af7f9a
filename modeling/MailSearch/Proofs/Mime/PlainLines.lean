import Mathlib.Data.List.Destutter
import MailSearch.Mime.Html
import MailSearch.Proofs.Text.Blank
import MailSearch.Proofs.Text.Lines

/-!
# The lines of a plain text

The normal form of a text has no blanks at the ends of its lines, no blank line
at its ends and one blank line of every run of blank lines.  Converted HTML is
in normal form.
-/

namespace MailSearch
namespace Html

open Text (pieces trim joinWith dropReturn isBlank)

/-- Of two lines one at least is not empty. -/
def EitherFilled (earlier later : List Char) : Prop :=
  earlier ≠ [] ∨ later ≠ []

instance : DecidableRel EitherFilled :=
  fun _ _ => inferInstanceAs (Decidable (_ ∨ _))

/-- The lines of a text at its line feeds, without a carriage return directly
before one. -/
def linesAtFeeds (text : List Char) : List (List Char) :=
  (pieces '\n' text).dropLast.map dropReturn ++
    (pieces '\n' text).getLast?.toList

/--
The normal form of a text: its lines trimmed, with one blank line of every run
of blank lines, and the whole trimmed.
-/
def normalForm (text : List Char) : List Char :=
  trim (joinWith ['\n'] (((linesAtFeeds text).map trim).destutter EitherFilled))

/-! ## Runs of blank lines -/

theorem collapseBlank_eq_destutter'
    (line : List Char)
    (rest : List (List Char)) :
    line :: collapseBlank line.isEmpty rest =
      rest.destutter' EitherFilled line := by
  induction rest generalizing line with
  | nil => rfl
  | cons next others inductionHypothesis =>
      rw [collapseBlank, List.destutter'_cons]
      cases line with
      | nil =>
          cases next with
          | nil => exact inductionHypothesis []
          | cons c chars =>
              have filled : EitherFilled [] (c :: chars) :=
                .inr (List.cons_ne_nil c chars)
              rw [if_pos filled, ← inductionHypothesis]
              rfl
      | cons c chars =>
          have filled : EitherFilled (c :: chars) next :=
            .inl (List.cons_ne_nil c chars)
          rw [if_pos filled, ← inductionHypothesis]
          cases next <;> rfl

/-- One blank line is kept of every run. -/
theorem collapseBlank_eq_destutter
    (lines : List (List Char)) :
    collapseBlank false lines = lines.destutter EitherFilled := by
  cases lines with
  | nil => rfl
  | cons line rest =>
      rw [List.destutter_cons', ← collapseBlank_eq_destutter', collapseBlank]
      cases line <;> rfl

/-- A blank line at the end joins the run in front of it, or is a run of its
own. -/
theorem collapseBlank_append_blank
    (afterBlank : Bool)
    (lines : List (List Char)) :
    collapseBlank afterBlank (lines ++ [[]]) = collapseBlank afterBlank lines ∨
      collapseBlank afterBlank (lines ++ [[]]) =
        collapseBlank afterBlank lines ++ [[]] := by
  induction lines generalizing afterBlank with
  | nil => cases afterBlank <;> simp [collapseBlank]
  | cons line rest inductionHypothesis =>
      rw [List.cons_append, collapseBlank, collapseBlank]
      have afterThis := inductionHypothesis line.isEmpty
      cases line <;> cases afterBlank <;> simp_all

/-! ## Lines and their ends -/

/-- A text in lines with ends behind them. -/
def inLines (lines : List (List Char)) : List Char :=
  lines.flatMap fun line => line ++ ['\n']

theorem blank_feed : ∀ c ∈ ['\n'], isBlank c = true := by
  decide

/-- The last line end is a blank at the end of the text. -/
theorem trim_inLines
    (lines : List (List Char)) :
    trim (inLines lines) = trim (joinWith ['\n'] lines) := by
  cases lines with
  | nil => rfl
  | cons first rest =>
      have ended : inLines (first :: rest) = joinWith ['\n'] (first :: rest) ++
          ['\n'] := by
        induction rest generalizing first with
        | nil => simp [inLines, joinWith]
        | cons next others inductionHypothesis =>
            have later := inductionHypothesis next
            rw [Text.joinWith_cons_cons, List.append_assoc,
              List.cons_append, ← later]
            simp [inLines]
      rw [ended, Text.trim_append_of_blank_back blank_feed]

/-- A blank line at the end does not show in a trimmed text. -/
theorem trim_inLines_collapseBlank_append
    (lines : List (List Char)) :
    trim (inLines (collapseBlank false (lines ++ [[]]))) =
      trim (inLines (collapseBlank false lines)) := by
  rcases collapseBlank_append_blank false lines with same | longer
  · rw [same]
  · rw [longer, inLines, List.flatMap_append, ← inLines]
    exact Text.trim_append_of_blank_back blank_feed _

/-- Converted HTML is in normal form. -/
theorem tidy_eq_normalForm
    (text : List Char) :
    tidy text = normalForm text := by
  rw [normalForm, ← collapseBlank_eq_destutter, ← trim_inLines, tidy,
    Text.lines, linesAtFeeds]
  change trim (inLines (collapseBlank false _)) = _
  cases (pieces '\n' text).getLast? with
  | none => rfl
  | some last =>
      cases last with
      | nil =>
          rw [List.map_append, List.map_append]
          change trim (inLines (collapseBlank false (_ ++ []))) =
            trim (inLines (collapseBlank false (_ ++ [[]])))
          rw [trim_inLines_collapseBlank_append, List.append_nil]
      | cons c rest => rfl

end Html
end MailSearch
