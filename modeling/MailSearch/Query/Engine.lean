import MailSearch.Query.Projection
import MailSearch.Query.Request

/-!
# Queries

A query finds the visible messages that its filter selects, sorts them and
answers with a page of them.  It needs three collaborators, each of which may
fail: one knows the visible mailboxes, one lists messages, one searches texts.
While candidates are examined, the caller is asked whether to go on: before
every candidate and once more at the end.  After that no collaborator can fail
any more, but the program may break down over a message that the client wants to
see.
-/

namespace MailSearch
namespace Query

/-- What a client is answered. -/
structure Answer where
  /-- The sort order of the answer. -/
  sort : SortOrder
  /-- Whether the client wanted threads to be collapsed. -/
  collapseThreads : Bool
  /-- The position of the page. -/
  position : Nat
  /-- The number of selected messages. -/
  total : Nat
  /-- The identifiers of the messages on the page. -/
  messageIds : List String
  /-- The messages on the page, if the client wanted to see them. -/
  messages : Option (List (IdMap Json))

namespace Answer

/-- The answer as a client is sent it; without messages it has no such
member. -/
def toJson (answer : Answer) : Json :=
  .obj ([("sort", Json.strings answer.sort.toTexts),
      ("collapseThreads", .bool answer.collapseThreads),
      ("position", .nat answer.position),
      ("total", .nat answer.total),
      ("messageIds", Json.strings answer.messageIds)] ++
    match answer.messages with
    | none => []
    | some messages =>
        [("messages", .arr (messages.map fun message => .obj message.entries))])

/-- The messages on a page as a client is shown them, if it wants to see
them. -/
def shownMessages (settings : Settings) (request : Request)
    (page : List Candidate) :
    Attempt (Option (List (IdMap Json))) :=
  if request.fetchMessages then
    let shown := request.properties.getD .all
    (page.mapM fun candidate =>
      project candidate shown settings.previewLength).map some
  else some none

/-- The answer to a request for which some candidates were selected. -/
def ofSelected (settings : Settings) (request : Request)
    (selected : List Candidate) :
    Attempt Answer :=
  let sort := request.sort.getD settings.order
  let limit := request.limit.getD settings.defaultLimit
  let page := Page.slice request.position limit (sort.apply selected)
  (shownMessages settings request page).map fun messages =>
    { sort := sort
      collapseThreads := request.collapseThreads
      position := request.position
      total := selected.length
      messageIds := page.map Candidate.id
      messages := messages }

end Answer

/-- A step of a query: how many candidates were examined, and how many there
are. -/
abbrev Progress := Nat × Nat

/-- What came of a query, and what the caller was told on the way. -/
structure Run (α : Type) where
  /-- The steps that the caller was told of, in order. -/
  steps : List Progress
  /-- The outcome. -/
  outcome : Except Error α

namespace Run

/-- A query that failed before the caller was told of any step. -/
def failed {α : Type} (error : Error) : Run α :=
  ⟨[], .error error⟩

/-- Go on with the outcome of a query. -/
def map {α β : Type} (next : α -> β) (run : Run α) : Run β :=
  ⟨run.steps, run.outcome.map next⟩

/-- The same query with a step in front. -/
def after {α : Type} (step : Progress) (run : Run α) : Run α :=
  ⟨step :: run.steps, run.outcome⟩

end Run

/--
Examine candidates one after the other and keep the selected ones.  The caller
answers every step with whether to go on; when it does not, or when a candidate
cannot be examined, nothing is kept.
-/
def examine (select : Candidate -> Except Error Bool)
    (goOn : Nat -> Nat -> Bool)
    (total done : Nat) : List Candidate -> Run (List Candidate)
  | [] =>
      ⟨[(done, total)], if goOn done total then .ok [] else .error .cancelled⟩
  | candidate :: rest =>
      if goOn done total then
        match select candidate with
        | .error error => ⟨[(done, total)], .error error⟩
        | .ok selected =>
            ((examine select goOn total (done + 1) rest).map fun kept =>
              if selected then candidate :: kept else kept).after (done, total)
      else ⟨[(done, total)], .error .cancelled⟩

/-- What answers queries: the collaborators and the settings. -/
structure Engine where
  /-- The mailboxes that a principal may read. -/
  visible : String -> Except Error IdSet
  /-- The messages in some mailboxes. -/
  listing : IdSet -> Except Error (List Message)
  /-- The text index. -/
  index : Predicate.Index
  /-- The limits and defaults. -/
  settings : Settings

namespace Engine

/-- The candidates of a filter for a principal. -/
def candidates (engine : Engine) (principal : String) (filter : Option Filter) :
    Except Error (List Candidate) := do
  let visible ← engine.visible principal
  Candidate.collect engine.listing visible (filter.bind Filter.scope?)

/-- Run a request for a principal, with a caller that says after each step
whether to go on. -/
def run (engine : Engine) (principal : String) (request : Request)
    (goOn : Nat -> Nat -> Bool) : Run (Attempt Answer) :=
  match engine.candidates principal request.filter with
  | .error error => .failed error
  | .ok candidates =>
      (examine (fun candidate =>
          Filter.evaluate? engine.index candidate request.filter) goOn
        candidates.length 0 candidates).map
          (Answer.ofSelected engine.settings request)

/-- Answer a request of a principal. -/
def execute (engine : Engine) (principal : String) (request : Request) :
    Except Error (Attempt Answer) :=
  (engine.run principal request fun _ _ => true).outcome

/-- Decode a request under the settings. -/
def decode (engine : Engine) (value : Json) : Except Error Request :=
  match Request.ofJson engine.settings value with
  | .ok request => .ok request
  | .error cause => .error (.invalidArguments cause)

/-- Decode a request of a principal and answer it. -/
def query (engine : Engine) (principal : String) (value : Json) :
    Except Error (Attempt Answer) := do
  engine.execute principal (← engine.decode value)

end Engine
end Query
end MailSearch
