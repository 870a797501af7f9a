import MailSearch.Proofs.Query.Nesting
import MailSearch.Proofs.Query.Restriction

/-!
# Texts of bodies

What a body is shown with is chosen and converted by itself, and so is what the
index keeps of it.  Both are the same text.
-/

namespace MailSearch

/-- The text that a body is shown with. -/
inductive Body.Shows : Body -> Option String -> Prop where
  /-- Plain text is shown as it is, whatever the HTML. -/
  | text (text : String) (html : Option String) :
      Shows ⟨some text, html⟩ (some text)
  /-- HTML without plain text is converted. -/
  | html {html text : String} (converts : Html.plainText html = some text) :
      Shows ⟨none, some html⟩ (some text)
  /-- Without either nothing is shown. -/
  | nothing : Shows ⟨none, none⟩ none

namespace Query

/-- A body is shown with one text at most, and with none if its HTML cannot be
converted. -/
theorem Projection.textBody_eq_some_iff
    {body : Body}
    {shown : Option String} :
    textBody body = some shown ↔ body.Shows shown := by
  constructor
  · intro isShown
    obtain ⟨text, html⟩ := body
    cases text with
    | some text =>
        cases isShown
        exact .text text html
    | none =>
        cases html with
        | some html =>
            obtain ⟨text, converts, rfl⟩ := Option.map_eq_some_iff.mp isShown
            exact .html converts
        | none =>
            cases isShown
            exact .nothing
  · intro isShown
    cases isShown with
    | text text html => rfl
    | html converts => exact congrArg (Option.map some) converts
    | nothing => rfl

/-- The body that is searched is the one that is shown, and empty if none is. -/
theorem IndexedText.bodyOf_eq
    (body : Body) :
    bodyOf body = (Projection.textBody body).map fun text => text.getD "" := by
  obtain ⟨text, html⟩ := body
  cases text with
  | some text => rfl
  | none =>
      cases html with
      | some html =>
          exact ((Option.map_map _ _ (Html.plainText html)).trans
            Option.map_id').symm
      | none => rfl

/-- A body can be searched exactly if it can be shown as text. -/
theorem IndexedText.isSome_bodyOf_iff
    {body : Body} :
    (bodyOf body).isSome = true ↔ body.IsReadable := by
  rw [bodyOf_eq, Option.isSome_map, Body.IsReadable]

/-- A body that can be shown as text is shown with one. -/
theorem exists_shows
    {body : Body}
    (readable : body.IsReadable) :
    ∃ text, body.Shows text := by
  obtain ⟨text, isText⟩ := Option.isSome_iff_exists.mp readable
  exact ⟨text, Projection.textBody_eq_some_iff.mp isText⟩

/-- A candidate whose body is shown can be projected, and the text of its body
is that text. -/
theorem exists_project_textBody
    {candidate : Candidate}
    {text : Option String}
    (shows : candidate.message.body.Shows text)
    {selection : Selection}
    (selected : selection.contains .textBody = true)
    (previewLength : Nat) :
    ∃ members, project candidate selection previewLength = some members ∧
      members.get? "textBody" = some (Json.optional .str text) := by
  have isText := Projection.textBody_eq_some_iff.mpr shows
  have canShow : (project candidate selection previewLength).isSome = true :=
    Projection.isSome_project_iff.mpr fun _ => Option.isSome_of_eq_some isText
  obtain ⟨members, projected⟩ := Option.isSome_iff_exists.mp canShow
  have apart : Property.textBody ≠ .headers := by decide
  refine ⟨members, projected,
    (Projection.get?_project_name projected apart).trans ?_⟩
  rw [if_pos selected, Projection.value, isText]
  rfl

/-- The filter for a body search. -/
def bodyFilter (term : String) : Json :=
  .obj [("body", .str term)]

theorem Filter.ofJson_bodyFilter
    (limit : Nat)
    (term : String) :
    ofJson limit (bodyFilter term) = .ok (.condition [.body term]) :=
  decode_of_no_operator rfl

end Query
end MailSearch
