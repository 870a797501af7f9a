import MailSearch.Proofs.Query.Evaluation
import MailSearch.Proofs.Query.Nesting
import MailSearch.Proofs.Text.Lines

/-!
# Searches of single fields

A full-text search looks into the joined lines that the index keeps, a search of
a field into each value by itself.  A term without line feeds is found by the
one exactly if it is found by one of the others, and a term with line feeds may
stand across the joined lines only.
-/

namespace MailSearch
namespace Query

/-! ## Searches of joined texts -/

/-- What is found in one of some texts is found in the joined texts. -/
theorem occursIn_searchable_of_mem
    {term text : String}
    {texts : List String}
    (member : text ∈ texts)
    (found : Predicate.occursFolded term text = true) :
    Text.occursIn (Text.lower term.toList) (searchable texts) = true := by
  have inText : Text.lower term.toList <:+: Text.lower text.toList := by
    unfold Predicate.occursFolded at found
    split at found
    · rename_i empty
      rw [empty]
      exact List.nil_infix
    · exact (Text.occursIn_iff _ _).mp found
  have inLines : Text.lower text.toList <:+: searchable texts := by
    rw [searchable, Text.lower_joinWith]
    exact Text.infix_joinWith_of_mem
      (List.mem_map_of_mem (List.mem_map_of_mem member)) '\n'
  exact (Text.occursIn_iff _ _).mpr (inText.trans inLines)

/-- A term without line feeds is found in joined texts only if it is found in
one of them. -/
theorem exists_of_occursIn_searchable
    {term : String}
    {texts : List String}
    (nonempty : term ≠ "")
    (unbroken : '\n' ∉ term.toList)
    (found : Text.occursIn (Text.lower term.toList) (searchable texts) = true) :
    ∃ text ∈ texts, Predicate.occursFolded term text = true := by
  have termNonempty : Text.lower term.toList ≠ [] :=
    Text.lower_ne_nil (mt String.toList_eq_nil_iff.mp nonempty)
  rw [Text.occursIn_iff, searchable, Text.lower_joinWith, List.map_map,
    Text.infix_joinWith_iff termNonempty
      (Text.IsMark.not_mem_lower (by decide) unbroken)] at found
  obtain ⟨line, isLine, inLine⟩ := found
  obtain ⟨text, member, rfl⟩ := List.mem_map.mp isLine
  refine ⟨text, member, ?_⟩
  rw [Predicate.occursFolded, if_neg nonempty]
  exact (Text.occursIn_iff _ _).mpr inLine

/-! ## The fields of a full-text search -/

/-- The header fields that a full-text search looks into. -/
def searchedHeaders : List FieldName :=
  [.sender, .recipient, .copy, .blindCopy, .subject]

/-- The searches of one field each that a full-text search stands for. -/
def fieldSearches (term : String) : List Predicate :=
  searchedHeaders.map (fun field => .field field term) ++
    [.body term, .attachmentText term, .filename term]

section Finding

variable {contains : TextScope -> String -> String -> Bool}
  {candidate : Candidate} {attachmentText : List String} {text : IndexedText}
  (made : IndexedText.ofMessage candidate.message attachmentText = some text)
  (indexed : ∀ scope term, contains scope term candidate.id =
    text.contains scope (Text.lower term.toList))
  {term : String}

include made indexed

/-- A full-text search looks into four texts. -/
theorem isTrue_text_iff :
    Filter.isTrue contains candidate (.text term) ↔
      let occurs := Text.occursIn (Text.lower term.toList)
      occurs (searchable
          ((searchedHeaders.map FieldName.name).flatMap
            candidate.message.headerValues)) = true ∨
        occurs text.body = true ∨
        occurs (searchable attachmentText) = true ∨
        occurs (searchable
          (candidate.message.attachments.map Attachment.filename)) = true := by
  obtain ⟨body, -, rfl⟩ := Option.map_eq_some_iff.mp made
  change contains .all term candidate.id = true ↔ _
  rw [indexed, IndexedText.contains]
  simp only [Bool.or_eq_true, or_assoc]
  exact Iff.rfl

omit made in
theorem isTrue_body_iff :
    Filter.isTrue contains candidate (.body term) ↔
      Text.occursIn (Text.lower term.toList) text.body = true := by
  change contains .body term candidate.id = true ↔ _
  rw [indexed]
  exact Iff.rfl

theorem isTrue_attachmentText_iff :
    Filter.isTrue contains candidate (.attachmentText term) ↔
      Text.occursIn (Text.lower term.toList) (searchable attachmentText) =
        true := by
  obtain ⟨body, -, rfl⟩ := Option.map_eq_some_iff.mp made
  change contains .attachments term candidate.id = true ↔ _
  rw [indexed]
  exact Iff.rfl

/-- A full-text search finds all that a search of a field finds. -/
theorem isTrue_text_of_field
    {predicate : Predicate}
    (isSearch : predicate ∈ fieldSearches term)
    (found : Filter.isTrue contains candidate predicate) :
    Filter.isTrue contains candidate (.text term) := by
  rw [isTrue_text_iff made indexed]
  rcases List.mem_append.mp isSearch with isHeader | isOther
  · obtain ⟨field, isSearched, rfl⟩ := List.mem_map.mp isHeader
    obtain ⟨value, isValue, foundValue⟩ := List.any_eq_true.mp found
    exact Or.inl (occursIn_searchable_of_mem
      (List.mem_flatMap.mpr ⟨field.name, List.mem_map_of_mem isSearched,
        isValue⟩) foundValue)
  · simp only [List.mem_cons, List.not_mem_nil, or_false] at isOther
    rcases isOther with rfl | rfl | rfl
    · exact Or.inr (Or.inl ((isTrue_body_iff indexed).mp found))
    · exact Or.inr
        (Or.inr (Or.inl ((isTrue_attachmentText_iff made indexed).mp found)))
    · obtain ⟨attachment, isAttachment, foundName⟩ := List.any_eq_true.mp found
      exact Or.inr (Or.inr (Or.inr
        (occursIn_searchable_of_mem (List.mem_map_of_mem isAttachment)
          foundName)))

/-- A term without line feeds that a full-text search finds stands in one of the
fields. -/
theorem exists_field_of_isTrue_text
    (unbroken : '\n' ∉ term.toList)
    (found : Filter.isTrue contains candidate (.text term)) :
    ∃ predicate ∈ fieldSearches term,
      Filter.isTrue contains candidate predicate := by
  have others :
      ∀ predicate ∈ [.body term, .attachmentText term, .filename term],
      predicate ∈ fieldSearches term :=
    fun _ isOther => List.mem_append_right _ isOther
  by_cases empty : term = ""
  · -- The empty term stands in every body, even where no header field has a
    -- value.
    refine ⟨.body term, others _ (by simp), (isTrue_body_iff indexed).mpr ?_⟩
    rw [empty]
    exact (Text.occursIn_iff _ _).mpr List.nil_infix
  · rcases (isTrue_text_iff made indexed).mp found
      with inHeaders | inBody | inAttachments | inNames
    · obtain ⟨value, isValue, foundValue⟩ :=
        exists_of_occursIn_searchable empty unbroken inHeaders
      obtain ⟨_, isName, isValue⟩ := List.mem_flatMap.mp isValue
      obtain ⟨field, isSearched, rfl⟩ := List.mem_map.mp isName
      exact ⟨.field field term,
        List.mem_append_left _ (List.mem_map_of_mem isSearched),
        List.any_eq_true.mpr ⟨value, isValue, foundValue⟩⟩
    · exact ⟨.body term, others _ (by simp),
        (isTrue_body_iff indexed).mpr inBody⟩
    · exact ⟨.attachmentText term, others _ (by simp),
        (isTrue_attachmentText_iff made indexed).mpr inAttachments⟩
    · obtain ⟨name, isName, foundName⟩ :=
        exists_of_occursIn_searchable empty unbroken inNames
      obtain ⟨attachment, isAttachment, rfl⟩ := List.mem_map.mp isName
      exact ⟨.filename term, others _ (by simp),
        List.any_eq_true.mpr ⟨attachment, isAttachment, foundName⟩⟩

end Finding

/-! ## The filters as clients send them -/

/-- The filter for a full-text search. -/
def textFilter (term : String) : Json :=
  .obj [("text", .str term)]

/-- The names of the fields as conditions call them. -/
def searchedNames : List String :=
  ["from", "to", "cc", "bcc", "subject", "body", "attachments",
    "attachmentFileName"]

/-- The filter for a search of any field. -/
def anyFieldFilter (term : String) : Json :=
  operation "OR" (searchedNames.map fun name => .obj [(name, .str term)])

namespace Filter

theorem ofJson_textFilter
    (limit : Nat)
    (term : String) :
    ofJson limit (textFilter term) = .ok (.condition [.text term]) :=
  decode_of_no_operator rfl

theorem ofJson_anyFieldFilter
    {limit : Nat}
    (deep : 0 < limit)
    (term : String) :
    ofJson limit (anyFieldFilter term) =
      .ok (.combination .disjunction ((fieldSearches term).map fun predicate =>
        .condition [predicate])) := by
  cases limit with
  | zero => exact absurd deep (Nat.lt_irrefl 0)
  | succ below =>
      let conditions := searchedNames.map fun name => [(name, Json.str term)]
      have each : conditions.mapM conditionOf =
          .ok ((fieldSearches term).map
            fun predicate => .condition [predicate]) := rfl
      have plain : ∀ members ∈ conditions, Json.member? "operator" members =
          none := by
        simp [conditions, searchedNames, Json.member?]
      have decoded : (conditions.map Json.obj).mapM (decode (below + 1) below) =
          .ok ((fieldSearches term).map fun predicate =>
            .condition [predicate]) := by
        rw [List.mapM_map]
        refine Outcome.mapM_eq_ok_of_confirmed
          (fun members isCondition filter accepted => ?_) each
        exact (decode_of_no_operator (plain members isCondition)).trans accepted
      rw [ofJson, anyFieldFilter, sortKeys_operation]
      exact decode_operation_eq_ok_iff.mpr
        ⟨below, .disjunction, _, rfl, rfl, List.cons_ne_nil _ _, decoded, rfl⟩

theorem selects_single
    {contains : TextScope -> String -> String -> Bool}
    {candidate : Candidate}
    {predicate : Predicate} :
    Selects contains candidate (.condition [predicate]) ↔
      isTrue contains candidate predicate := by
  rw [Selects, List.forall_mem_singleton]

/-- The search of any field means that one of the fields contains the term. -/
theorem selects_anyField_iff
    {contains : TextScope -> String -> String -> Bool}
    {candidate : Candidate}
    {predicates : List Predicate} :
    Selects contains candidate (.combination .disjunction (predicates.map
        fun predicate =>
        .condition [predicate])) ↔
      ∃ predicate ∈ predicates, isTrue contains candidate predicate := by
  rw [selects_disjunction]
  constructor
  · rintro ⟨filter, isFilter, selects⟩
    obtain ⟨predicate, isSearch, rfl⟩ := List.mem_map.mp isFilter
    exact ⟨predicate, isSearch, selects_single.mp selects⟩
  · rintro ⟨predicate, isSearch, found⟩
    exact ⟨_, List.mem_map_of_mem isSearch, selects_single.mpr found⟩

end Filter

end Query
end MailSearch
