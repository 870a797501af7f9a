import MailSearch.Proofs.Data.IdMap
import MailSearch.Proofs.Data.Outcome
import MailSearch.Proofs.Json.Decode
import MailSearch.Store.Snapshot

/-!
# Messages in a snapshot

The header fields of a message are given by name, with one text or with a list
of texts. They stand in the message in the order of their names, and those of
one name in the order of the list.
-/

namespace MailSearch
namespace Store
namespace DescribedMessage

/-! ## Texts that are given -/

/-- A value gives the texts of the header fields of one name. -/
inductive GivesTexts : Json -> List String -> Prop where
  /-- A text stands for itself. -/
  | one (text : String) : GivesTexts (.str text) [text]
  /-- A list of texts stands for all of them. -/
  | many (texts : List String) : GivesTexts (Json.strings texts) texts

theorem text?_eq_some_iff
    {value : Json}
    {text : String} :
    text? value = some text ↔ value = .str text := by
  cases value <;> simp [text?]

theorem mapM_text?_eq_some_iff
    {items : List Json}
    {texts : List String} :
    items.mapM text? = some texts ↔ items = texts.map .str := by
  induction items generalizing texts with
  | nil => simp [eq_comm]
  | cons item rest inductionHypothesis =>
      simp only [List.mapM_cons, Option.bind_eq_bind, Option.bind_eq_some_iff,
        Option.pure_def, Option.some.injEq, text?_eq_some_iff,
        inductionHypothesis]
      constructor
      · rintro ⟨first, rfl, others, rfl, rfl⟩
        rfl
      · intro given
        obtain ⟨first, others, rfl, rfl, rfl⟩ :=
          List.map_eq_cons_iff.mp given.symm
        exact ⟨first, rfl, others, rfl, rfl⟩

theorem headerValuesOf_eq_ok_iff
    {value : Json}
    {texts : List String} :
    headerValuesOf value = .ok texts ↔ GivesTexts value texts := by
  constructor
  · intro decoded
    cases value with
    | str text =>
        cases decoded
        exact .one text
    | arr items =>
        cases given : items.mapM text? with
        | none => simp [headerValuesOf, given] at decoded
        | some found =>
            have same : found = texts := by
              simpa [headerValuesOf, given] using decoded
            rw [← same, mapM_text?_eq_some_iff.mp given]
            exact .many found
    | _ => cases decoded
  · intro gives
    cases gives with
    | one text => rfl
    | many texts =>
        have given : (texts.map Json.str).mapM text? = some texts :=
          mapM_text?_eq_some_iff.mpr rfl
        simp only [headerValuesOf, Json.strings, given]

/-- What is given last for a name is what stands in the map, in front of what
stood there. -/
theorem get?_foldl_headers
    {members : List (String × Json)}
    {entries : List (String × List String)}
    (decoded : (members.mapM fun member => do
      return (member.1, ← headerValuesOf member.2)) = .ok entries)
    (before : IdMap (List String))
    {name : String}
    {texts : List String} :
    (entries.foldl (fun map entry => map.insert entry.1 entry.2) before).get?
        name = some texts ↔
      (∃ value, Json.last? name members = some value ∧ GivesTexts value texts) ∨
        Json.last? name members = none ∧ before.get? name = some texts := by
  induction members generalizing entries before with
  | nil =>
      cases decoded
      simp [Json.last?]
  | cons member rest inductionHypothesis =>
      obtain ⟨given, value⟩ := member
      obtain ⟨entry, others, isEntry, areOthers, rfl⟩ :=
        Outcome.mapM_cons_eq_ok_iff.mp decoded
      obtain ⟨found, isFound, isEntry⟩ := Outcome.exists_of_bind_eq_ok isEntry
      cases isEntry
      rw [List.foldl_cons, inductionHypothesis areOthers, Json.last?,
        IdMap.get?_insert]
      have isOnly : GivesTexts value texts ↔ found = texts := by
        rw [← headerValuesOf_eq_ok_iff, isFound, Except.ok.injEq]
      cases later : Json.last? name rest with
      | some last => simp
      | none =>
          by_cases same : given = name
          · subst same
            simp [isOnly]
          · simp [same, Ne.symm same]

/-- Of a repeated name the last value counts. -/
theorem get?_headersOf
    {members : List (String × Json)}
    {headers : IdMap (List String)}
    (decoded : headersOf (.obj members) = .ok headers)
    {name : String}
    {texts : List String} :
    headers.get? name = some texts ↔
      ∃ value, Json.last? name members = some value ∧
        GivesTexts value texts := by
  obtain ⟨entries, areEntries, decoded⟩ := Outcome.exists_of_bind_eq_ok decoded
  cases decoded
  rw [IdMap.ofList, get?_foldl_headers areEntries]
  simp

/-! ## Header fields -/

/-- The values of one name stand in the header fields in the order in which they
are given. -/
theorem filter_flatMap_fields
    {entries : List (String × List String)}
    (ascending : entries.Pairwise fun left right => left.1 < right.1)
    (name : String) :
    ((entries.flatMap fun entry => entry.2.map fun value =>
        (entry.1, value)).filter
        fun field => field.1 = name).map Prod.snd =
          (entries.lookup name).getD [] := by
  induction entries with
  | nil => rfl
  | cons entry rest inductionHypothesis =>
      obtain ⟨given, values⟩ := entry
      obtain ⟨less, restAscending⟩ := List.pairwise_cons.mp ascending
      rw [List.flatMap_cons, List.filter_append, List.map_append,
        inductionHypothesis restAscending, IdMap.lookup_cons_eq_ite]
      by_cases same : name = given
      · subst same
        have absent : rest.lookup name = none := by
          rw [List.lookup_eq_none_iff]
          intro other isOther
          have behind : name < other.1 := less other isOther
          exact bne_iff_ne.mpr (Std.ne_of_lt behind)
        rw [absent, if_pos rfl]
        simp [List.filter_map, Function.comp_def]
      · rw [if_neg same]
        simp [List.filter_map, Function.comp_def, Ne.symm same]

theorem headerValues_fields
    (message : DescribedMessage)
    (name : String) :
    (message.fields.filter fun field => field.1 = name).map Prod.snd =
      (message.headers.get? name).getD [] :=
  filter_flatMap_fields message.headers.ascending name

/-- The header fields stand in the order of their names. -/
theorem pairwise_fields
    (message : DescribedMessage) :
    message.fields.Pairwise fun left right => left.1 ≤ right.1 := by
  rw [fields, List.pairwise_flatMap]
  constructor
  · intro entry _
    exact List.pairwise_map.mpr (List.pairwise_of_forall fun _ _ =>
      String.le_refl entry.1)
  · refine message.headers.ascending.imp
      fun less left isLeft right isRight => ?_
    obtain ⟨_, -, rfl⟩ := List.mem_map.mp isLeft
    obtain ⟨_, -, rfl⟩ := List.mem_map.mp isRight
    exact Std.le_of_lt less

/-- A message says what a described message says whose content stands in the
snapshot. -/
structure Renders (entry : DescribedMessage) (message : Message) : Prop where
  /-- The identifier is kept. -/
  id_eq : message.id = entry.id
  /-- The mailboxes are kept. -/
  mailboxIds_eq : message.mailboxIds = entry.mailboxIds
  /-- The marks are kept. -/
  keywords_eq : message.keywords = entry.keywords
  /-- The date of the delivery is kept. -/
  receivedAt_eq : message.receivedAt = entry.receivedAt
  /-- A message without a conversation is one of its own. -/
  threadId_eq : message.threadId = entry.threadId.getD entry.id
  /-- The raw content has the identifier of the message if it has no other. -/
  blobId_eq : message.blobId = entry.blobId.getD entry.id
  /-- The values of each name are those that are given, in order. -/
  headerValues_eq : ∀ name,
    (message.headers.filter fun field => field.1 = name).map Prod.snd =
    (entry.headers.get? name).getD []
  /-- The header fields stand in the order of their names. -/
  pairwise_headers : message.headers.Pairwise fun left right => left.1 ≤ right.1
  /-- The readable parts are kept. -/
  body_eq : message.body = ⟨entry.textBody, entry.htmlBody⟩
  /-- The attached parts are kept. -/
  attachments_eq :
    message.attachments = entry.attachments.map DescribedAttachment.attachment

theorem renders_withContent
    (entry : DescribedMessage) :
    entry.Renders (entry.withContent entry.content) where
  id_eq := rfl
  mailboxIds_eq := rfl
  keywords_eq := rfl
  receivedAt_eq := rfl
  threadId_eq := rfl
  blobId_eq := rfl
  headerValues_eq := entry.headerValues_fields
  pairwise_headers := entry.pairwise_fields
  body_eq := rfl
  attachments_eq := rfl

/-- The texts of the attached parts that have one. -/
def attachmentTexts (entry : DescribedMessage) : List String :=
  entry.attachments.filterMap DescribedAttachment.text

end DescribedMessage
end Store
end MailSearch
