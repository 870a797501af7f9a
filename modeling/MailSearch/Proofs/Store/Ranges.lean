import MailSearch.Proofs.Query.Ranges
import MailSearch.Proofs.Store.Meaning

/-!
# Ranges of the messages of an account

After any history, a filter by date cuts an end off the listing by date, and a
filter by size an end off the listing by size; between both ends lie the
messages at the bound.
-/

namespace MailSearch
namespace Store

/--
From the start, with room for all and sorted by the field of a bound, the
messages below the bound are found first and those above it last, as they are
found by the filters of the range, and between them the wanted messages that
meet the bound.
-/
theorem ranges_cut_listing
    (owner : String)
    (history : History)
    (principal : String)
    (settings : Query.Settings)
    (bound : Query.Bound)
    {others : List (String × Json)}
    (unfiltered : ∀ member ∈ others, member.1 ≠ "filter")
    {request : Query.Request}
    (accepted : Query.Request.ofJson settings (Query.asking others none) =
      .ok request)
    (sorted : Json.last? "sort" others = some (Json.strings [bound.sortText]))
    (fromStart : request.position = 0)
    (fits : ∀ answer,
        ((Account.ofHistory owner history).engine settings).query principal
      (Query.asking others none) = .ok (some answer) →
        answer.total ≤ request.limit.getD settings.defaultLimit) :
    let engine := (Account.ofHistory owner history).engine settings
    ∃ below between above : List Query.Candidate,
      ((below ++ between ++ above).map Query.Candidate.id).Nodup ∧
      engine.find principal (Query.asking others none) =
        .ok (some ((below ++ between ++ above).map Query.Candidate.id)) ∧
      engine.find principal (Query.asking others (some bound.below)) =
        .ok (some (below.map Query.Candidate.id)) ∧
      engine.find principal (Query.asking others (some bound.above)) =
        .ok (some (above.map Query.Candidate.id)) ∧
      ∀ candidate, candidate ∈ between ↔
        Wanted owner history principal request candidate ∧
          bound.Meets candidate.message := by
  intro engine
  have records := Account.records_ofHistory owner history
  have sees : engine.visible principal =
      .ok ((Account.ofHistory owner history).visible principal) := rfl
  have finds : engine.index = fun scope term id =>
      .ok (history.contains scope term id) :=
    records.index_eq settings
  obtain ⟨-, answer, -, -, answered, -⟩ :=
    Account.exists_answer_of_accepted owner history principal accepted
  obtain ⟨below, between, above, once, foundAll, foundBelow, foundAbove,
      members⟩ :=
    Query.Engine.exists_split sees records.serves_listing finds bound unfiltered
        accepted sorted
      (fun _ => ⟨answer, answered⟩) fromStart fits
  refine ⟨below, between, above, once, foundAll, foundBelow, foundAbove,
    fun candidate => ?_⟩
  have selects : request.Selects history.contains candidate := by
    rw [Query.Request.Selects, Query.Request.filter_eq_none unfiltered accepted]
    rintro filter ⟨⟩
  rw [members, ← records.shown_and_selects_iff, and_iff_left selects]

/-! ## Three messages around a date -/

namespace Delivery

/-- A message that was delivered at an instant. -/
def delivered (id : String) (instant : Calendar.Instant) : Message :=
  { Message.bare id ["inbox"] 10 with receivedAt := instant }

/-- Messages that were delivered a billionth of a second after each other, and a
late one. -/
def history : History :=
  [.addMailbox ⟨"inbox", "Inbox", true, []⟩,
    .addMessage (delivered "m3" ⟨20, 4⟩) [],
    .addMessage (delivered "m2" ⟨20, 5⟩) [],
    .addMessage (delivered "m1" ⟨20, 6⟩) [],
    .addMessage (delivered "m0" ⟨86400, 0⟩) []]

theorem internetText_bound :
    Calendar.InternetText ⟨20, 5⟩
      "1970-01-01T01:00:20.000000005+01:00".toList := by
  have isYear : Calendar.Numeral 4 1970 ['1', '9', '7', '0'] :=
    ⟨rfl, List.all_eq_true.mp rfl, rfl⟩
  have isOne : Calendar.Numeral 2 1 ['0', '1'] :=
    ⟨rfl, List.all_eq_true.mp rfl, rfl⟩
  have isZero : Calendar.Numeral 2 0 ['0', '0'] :=
    ⟨rfl, List.all_eq_true.mp rfl, rfl⟩
  have isSecond : Calendar.Numeral 2 20 ['2', '0'] :=
    ⟨rfl, List.all_eq_true.mp rfl, rfl⟩
  have isFraction : Calendar.FractionText 5 ['.', '0', '0', '0', '0', '0', '0',
      '0', '0', '5'] :=
    @Calendar.FractionText.present ['0', '0', '0', '0', '0', '0', '0', '0',
        '5'] (by decide)
      (List.all_eq_true.mp rfl)
  have eastwards : ('+', 1) ∈ Calendar.zoneSigns := by decide
  exact .dateTime (.digits isYear isOne isOne) rfl List.mem_cons_self
    (.digits isOne isZero isSecond isFraction) (by decide) (by decide)
      (by decide)
    (.numeric eastwards isOne isZero (by decide)) (by decide)

/-- The instant of the second message, as the clocks an hour east of Universal
Time show it. -/
def bound : Query.Bound :=
  .date "1970-01-01T01:00:20.000000005+01:00" ⟨20, 5⟩ internetText_bound

/-- The members of a request for the oldest messages. -/
def others : List (String × Json) :=
  [("sort", Json.strings ["date asc"])]

/-- The request for the oldest messages. -/
def request : Query.Request where
  accountId := none
  filter := none
  sort := some ⟨[⟨.date, .ascending⟩], List.cons_ne_nil _ _⟩
  position := 0
  limit := none
  collapseThreads := false
  fetchMessages := false
  properties := none

/-- A message as the owner is shown it. -/
def shown (id : String) (instant : Calendar.Instant) : Query.Candidate :=
  ⟨delivered id instant, .ofList ["inbox"]⟩

/-- The second message lies between those before and after it, and the first
does not. -/
theorem second_between :
    let engine := (Account.ofHistory "alice" history).engine .standard
    ∃ below between above : List Query.Candidate,
      engine.find "alice" (Query.asking others none) =
        .ok (some ((below ++ between ++ above).map Query.Candidate.id)) ∧
      engine.find "alice" (Query.asking others (some bound.below)) =
        .ok (some (below.map Query.Candidate.id)) ∧
      engine.find "alice" (Query.asking others (some bound.above)) =
        .ok (some (above.map Query.Candidate.id)) ∧
      shown "m2" ⟨20, 5⟩ ∈ between ∧ shown "m3" ⟨20, 4⟩ ∉ between := by
  intro engine
  have accepted : Query.Request.ofJson .standard (Query.asking others none) =
      .ok request := rfl
  have total :
      (engine.query "alice" (Query.asking others none)).map
        (fun reply => reply.map Query.Answer.total) = .ok (some 4) := rfl
  have fits : ∀ answer,
      engine.query "alice" (Query.asking others none) = .ok (some answer) →
      answer.total ≤
        request.limit.getD Query.Settings.standard.defaultLimit := by
    intro answer answered
    rw [answered] at total
    rw [Option.some.inj (Except.ok.inj total)]
    decide
  obtain ⟨below, between, above, -, foundAll, foundBelow, foundAbove,
      members⟩ :=
    ranges_cut_listing "alice" history "alice" .standard bound (by decide)
      accepted rfl rfl fits
  refine ⟨below, between, above, foundAll, foundBelow, foundAbove, ?_, ?_⟩
  · apply (members _).mpr
    exact ⟨⟨⟨[], rfl⟩, rfl, ⟨"inbox", IdSet.contains_iff.mp rfl⟩, nofun⟩, rfl⟩
  · intro isBetween
    have meets : (delivered "m3" ⟨20, 4⟩).sentAt = ⟨20, 5⟩ :=
      ((members _).mp isBetween).2
    cases meets

end Delivery
end Store
end MailSearch
