import MailSearch.Proofs.Data.Outcome
import MailSearch.Proofs.Query.HeaderMap
import MailSearch.Proofs.Query.Wishes

/-!
# Restricted projections

A client that names properties is shown exactly those of the projection of all
properties, and of the map of header fields exactly the names that it asks for.
-/

namespace MailSearch

/-- A body can be shown as text: it has a plain text, or HTML that can be
converted, or neither. -/
def Body.IsReadable (body : Body) : Prop :=
  (Query.Projection.textBody body).isSome = true

instance (body : Body) : Decidable body.IsReadable :=
  inferInstanceAs (Decidable (_ = true))

namespace Query

/-! ## Names that ask for something -/

namespace Selection

/-- Names ask for a property: by its name, and for the text of the body by a
second one. -/
def Asks (names : List String) (property : Property) : Prop :=
  property.name ∈ names ∨ property = .textBody ∧ "body" ∈ names

/-- Names ask for single header fields of a name, in any letter case. -/
def AsksField (names : List String) (field : String) : Prop :=
  ∃ spelled, "headers." ++ spelled ∈ names ∧ Text.sameAscii spelled field = true

/-- Two names ask for the same. -/
inductive Alike : String -> String -> Prop where
  /-- Each name is like itself. -/
  | same (name : String) : Alike name name
  /-- The text of the body has a second name. -/
  | body : Alike "textBody" "body"
  /-- The second name of the text of the body is like its first. -/
  | textBody : Alike "body" "textBody"
  /-- The letter case of header fields does not matter. -/
  | field {left right : String} (same : Text.sameAscii left right = true) :
      Alike ("headers." ++ left) ("headers." ++ right)

theorem spells_field_iff
    {spelled : String}
    {wish : Wish} :
    Wish.Spells ("headers." ++ spelled) wish ↔
      spelled ≠ "" ∧ .header (Text.asciiLowercase spelled) = wish := by
  rw [← Wish.ofName_eq_ok_iff, Wish.ofName_header]
  split <;> simp_all

/-- What a name asks for, names like it ask for as well. -/
theorem Alike.spells
    {name other : String}
    (alike : Alike name other)
    {wish : Wish}
    (spells : Wish.Spells name wish) :
    Wish.Spells other wish := by
  have textBody : ∀ wish, Wish.Spells "textBody" wish ↔
      Wish.Spells "body" wish := by
    intro wish
    rw [← Wish.ofName_eq_ok_iff, ← Wish.ofName_eq_ok_iff]
    exact Iff.rfl
  cases alike with
  | same name => exact spells
  | body => exact (textBody wish).mp spells
  | textBody => exact (textBody wish).mpr spells
  | @field left right same =>
      have lower := Text.sameAscii_iff.mp same
      rw [spells_field_iff, lower] at spells
      refine spells_field_iff.mpr ⟨?_, spells.2⟩
      rw [← Text.asciiLowercase_eq_empty_iff.ne, ← lower,
        Text.asciiLowercase_eq_empty_iff.ne]
      exact spells.1

theorem Alike.symm
    {name other : String}
    (alike : Alike name other) :
    Alike other name := by
  cases alike with
  | same name => exact .same name
  | body => exact .textBody
  | textBody => exact .body
  | field same =>
      rw [Text.sameAscii_comm] at same
      exact .field same

theorem contains_all
    (property : Property) :
    all.contains property = true := by
  simp [contains, all, Property.mem_all]

section Names

variable {names others : List String} {selection : Selection}

/-- The wishes of a list of names are those that its names spell. -/
theorem exists_wishes_of_parse
    (read : parse (some names) = .ok selection) :
    ∃ wishes, selection = ofWishes wishes ∧
      ∀ wish, wish ∈ wishes ↔ ∃ name ∈ names, Wish.Spells name wish := by
  obtain ⟨wishes, each, rfl⟩ := Outcome.exists_of_map_eq_ok read
  refine ⟨wishes, rfl, fun wish => ?_⟩
  rw [Outcome.mem_results_iff each]
  simp only [Wish.ofName_eq_ok_iff]

/-- Selected are the identifier and the properties that are asked for. -/
theorem contains_of_parse_iff
    (read : parse (some names) = .ok selection)
    {property : Property} :
    selection.contains property = true ↔ property = .id ∨
      Asks names property := by
  obtain ⟨wishes, rfl, spelled⟩ := exists_wishes_of_parse read
  rw [contains_ofWishes_iff, spelled]
  refine or_congr_right ⟨?_, ?_⟩
  · rintro ⟨name, isName, spells⟩
    cases spells with
    | property known => exact Or.inl isName
    | body => exact Or.inr ⟨rfl, isName⟩
  · rintro (isName | ⟨rfl, isName⟩)
    · exact ⟨_, isName, .property property⟩
    · exact ⟨_, isName, .body⟩

/-- Of the header fields those are selected that are asked for. -/
theorem mem_headerNames_of_parse_iff
    (read : parse (some names) = .ok selection)
    {field : String} :
    Text.asciiLowercase field ∈ selection.headerNames ↔
      AsksField names field := by
  obtain ⟨wishes, same, spelled⟩ := exists_wishes_of_parse read
  have nonempty : ∀ name, "headers." ++ name ∈ names → name ≠ "" := by
    rintro _ isName rfl
    obtain ⟨wishes, each, -⟩ := parse_eq_ok_iff.mp read
    obtain ⟨wish, spells⟩ := Outcome.exists_of_forall₂ each _ isName
    exact (spells_field_iff.mp spells).1 rfl
  rw [same, mem_headerNames_ofWishes_iff, spelled]
  constructor
  · rintro ⟨name, isName, spells⟩
    generalize lower : Text.asciiLowercase field = lowered at spells
    cases spells with
    | @header name _ => exact ⟨name, isName, Text.sameAscii_iff.mpr lower.symm⟩
  · rintro ⟨name, isName, same⟩
    refine ⟨_, isName, spells_field_iff.mpr ⟨nonempty name isName, ?_⟩⟩
    rw [Text.sameAscii_iff.mp same]

/-- Some header field is selected if some is asked for. -/
theorem exists_mem_headerNames_iff
    (read : parse (some names) = .ok selection) :
    (∃ lower, lower ∈ selection.headerNames) ↔ ∃ field,
      AsksField names field := by
  constructor
  · rintro ⟨lower, isName⟩
    obtain ⟨wishes, rfl, spelled⟩ := exists_wishes_of_parse read
    obtain ⟨name, -, spells⟩ :=
      (spelled _).mp (mem_headerNames_ofWishes_iff.mp isName)
    cases spells with
    | @header field _ =>
        exact ⟨field, (mem_headerNames_of_parse_iff read).mp isName⟩
  · rintro ⟨field, asks⟩
    exact ⟨_, (mem_headerNames_of_parse_iff read).mpr asks⟩

/-- Header fields are shown if they are asked for together or one by one. -/
theorem hasHeaders_of_parse_iff
    (read : parse (some names) = .ok selection) :
    selection.hasHeaders = true ↔ Asks names .headers ∨ ∃ field,
      AsksField names field := by
  have notIdentifier : (Property.headers = .id ∨ Asks names .headers) ↔
      Asks names .headers :=
    or_iff_right nofun
  rw [hasHeaders, Bool.or_eq_true, Bool.not_eq_true',
    IdSet.isEmpty_eq_false_iff, contains_of_parse_iff read,
    exists_mem_headerNames_iff read, notIdentifier]

/-- Lists of names that are alike are the same selection. -/
theorem parse_of_alike
    (read : parse (some names) = .ok selection)
    (left : ∀ name ∈ names, ∃ other ∈ others, Alike name other)
    (right : ∀ other ∈ others, ∃ name ∈ names, Alike name other) :
    parse (some others) = .ok selection := by
  obtain ⟨given, all, -⟩ := parse_eq_ok_iff.mp read
  have each : ∀ other ∈ others, ∃ wish, Wish.Spells other wish := by
    intro other isOther
    obtain ⟨name, isName, alike⟩ := right other isOther
    obtain ⟨wish, spells⟩ := Outcome.exists_of_forall₂ all name isName
    exact ⟨wish, alike.spells spells⟩
  obtain ⟨found, otherAll⟩ := Outcome.exists_forall₂ each
  have readOther : parse (some others) = .ok (ofWishes found) :=
    parse_eq_ok_iff.mpr ⟨found, otherAll, rfl⟩
  obtain ⟨wishes, same, spelled⟩ := exists_wishes_of_parse read
  obtain ⟨otherWishes, sameOther, otherSpelled⟩ :=
    exists_wishes_of_parse readOther
  rw [readOther, sameOther, same]
  refine congrArg Except.ok (ofWishes_congr fun wish => ?_)
  rw [spelled, otherSpelled]
  constructor
  · rintro ⟨other, isOther, spells⟩
    obtain ⟨name, isName, alike⟩ := right other isOther
    exact ⟨name, isName, alike.symm.spells spells⟩
  · rintro ⟨name, isName, spells⟩
    obtain ⟨other, isOther, alike⟩ := left name isName
    exact ⟨other, isOther, alike.spells spells⟩

end Names

end Selection

/-! ## Bodies that are shown as text -/

/-- A property of a candidate can be shown, if it does not take the text of its
body. -/
theorem Projection.isSome_value_iff
    {candidate : Candidate}
    {previewLength : Nat}
    {property : Property} :
    (value candidate previewLength property).isSome = true ↔
      (property = .preview ∨ property = .textBody →
        candidate.message.body.IsReadable) := by
  unfold Body.IsReadable
  cases property
  case preview | textBody =>
    simp only [value, preview]
    cases textBody candidate.message.body <;> simp
  all_goals exact iff_of_true rfl fun isBody => by simp at isBody

/-! ## Entries of projections -/

namespace Projection

section Candidate

variable {candidate : Candidate} {selection : Selection} {previewLength : Nat}

/-- A projection can be made if each of its properties can be shown. -/
theorem isSome_project_iff :
    (project candidate selection previewLength).isSome = true ↔
      (selection.contains .preview = true ∨
          selection.contains .textBody = true →
        candidate.message.body.IsReadable) := by
  rw [project, Option.isSome_map, properties, Attempt.isSome_mapM_iff]
  simp only [Option.isSome_map, isSome_value_iff, List.mem_filter, bne_iff_ne]
  constructor
  · rintro each (selected | selected)
    · exact each .preview ⟨List.contains_iff_mem.mp selected,
        by decide⟩ (.inl rfl)
    · exact each .textBody ⟨List.contains_iff_mem.mp selected,
        by decide⟩ (.inr rfl)
  · rintro readable property ⟨selected, -⟩ (rfl | rfl)
    · exact readable (.inl (List.contains_iff_mem.mpr selected))
    · exact readable (.inr (List.contains_iff_mem.mpr selected))

variable {shownMembers : IdMap Json}
  (projected : project candidate selection previewLength = some shownMembers)

include projected

/-- A projection has the selected properties, and with them the selected header
fields. -/
theorem get?_project_eq_some_iff
    {key : String}
    {shown : Json} :
    shownMembers.get? key = some shown ↔
      (∃ property, property ≠ .headers ∧ selection.contains property = true ∧
        property.name = key ∧ value candidate previewLength property =
          some shown) ∨
      selection.hasHeaders = true ∧ Property.headers.name = key ∧
        texts (selectedHeaders selection candidate.message.headers) =
          shown := by
  obtain ⟨members, isMembers, rfl⟩ := Option.map_eq_some_iff.mp projected
  have properties_iff : ∀ entry : String × Json, entry ∈ members ↔
      ∃ property, property ≠ .headers ∧ selection.contains property = true ∧
        property.name = entry.1 ∧ value candidate previewLength property =
          some entry.2 := by
    intro entry
    rw [Attempt.mem_results_iff isMembers]
    simp only [List.mem_filter, bne_iff_ne, Selection.contains,
      List.contains_iff_mem, Option.map_eq_some_iff, Prod.ext_iff, and_assoc]
    constructor
    · rintro ⟨property, selected, other, shown, isShown, named, rfl⟩
      exact ⟨property, other, selected, named, isShown⟩
    · rintro ⟨property, other, selected, named, isShown⟩
      exact ⟨property, selected, other, entry.2, isShown, named, rfl⟩
  have headers_iff : ∀ entry : String × Json,
      entry ∈ headers candidate selection ↔
      selection.hasHeaders = true ∧ Property.headers.name = entry.1 ∧
        texts (selectedHeaders selection candidate.message.headers) =
          entry.2 := by
    intro entry
    unfold headers
    split
    · rename_i has
      simp only [has, true_and, List.mem_singleton, Prod.ext_iff, eq_comm]
    · rename_i hasNot
      simp [hasNot]
  rw [IdMap.get?_ofList_eq_some_iff]
  · rw [List.mem_append, properties_iff, headers_iff]
  · intro left isLeft right isRight same
    rw [List.mem_append, properties_iff, headers_iff] at isLeft isRight
    obtain ⟨leftProperty, leftOther, -, leftName, leftValue⟩ |
        ⟨-, leftName, leftValue⟩ := isLeft
    · obtain ⟨rightProperty, -, -, rightName, rightValue⟩ | ⟨-, rightName, -⟩ :=
        isRight
      · rw [← leftName, ← rightName] at same
        rw [Property.name_injective same] at leftValue
        exact Option.some.inj (leftValue.symm.trans rightValue)
      · rw [← leftName, ← rightName] at same
        exact absurd (Property.name_injective same) leftOther
    · obtain ⟨rightProperty, rightOther, -, rightName, -⟩ |
          ⟨-, -, rightValue⟩ := isRight
      · rw [← leftName, ← rightName] at same
        exact absurd (Property.name_injective same).symm rightOther
      · rw [← leftValue, ← rightValue]

theorem get?_project_name
    {property : Property}
    (other : property ≠ .headers) :
    shownMembers.get? property.name =
      if selection.contains property =
        true then value candidate previewLength property
      else none := by
  ext shown
  rw [get?_project_eq_some_iff projected]
  constructor
  · rintro (⟨found, -, selected, same, isShown⟩ | ⟨-, same, -⟩)
    · cases Property.name_injective same
      rw [if_pos selected, isShown]
    · exact absurd (Property.name_injective same).symm other
  · intro found
    split at found
    · rename_i selected
      exact Or.inl ⟨property, other, selected, rfl, found⟩
    · cases found

/-- The identifier of a candidate is shown where it is selected. -/
theorem get?_project_id
    (selected : selection.contains .id = true) :
    shownMembers.get? Property.id.name = some (.str candidate.id) := by
  have other : Property.id ≠ .headers := by decide
  rw [get?_project_name projected other, if_pos selected]
  rfl

theorem get?_project_headers :
    shownMembers.get? Property.headers.name =
      if selection.hasHeaders = true then
        some (texts (selectedHeaders selection candidate.message.headers))
      else none := by
  ext shown
  rw [get?_project_eq_some_iff projected]
  constructor
  · rintro (⟨found, other, -, same, -⟩ | ⟨has, -, rfl⟩)
    · exact absurd (Property.name_injective same) other
    · rw [if_pos has]
  · intro found
    split at found
    · rename_i has
      cases found
      exact Or.inr ⟨has, rfl, rfl⟩
    · cases found

/-- A projection has no other entries. -/
theorem exists_name_of_get?_project
    {key : String}
    {shown : Json}
    (found : shownMembers.get? key = some shown) :
    ∃ property : Property, property.name = key := by
  obtain ⟨property, -, -, named, -⟩ | ⟨-, named, -⟩ :=
    (get?_project_eq_some_iff projected).mp found
  · exact ⟨property, named⟩
  · exact ⟨.headers, named⟩

end Candidate

/-- Selecting header fields cuts their map to the names that are selected. -/
theorem get?_selectedHeaders_eq_some_iff
    {selection : Selection}
    {fields : List HeaderField}
    {name value : String} :
    (selectedHeaders selection fields).get? name = some value ↔
      (selection.contains .headers = true ∨
        Text.asciiLowercase name ∈ selection.headerNames) ∧
        (firstHeaders fields).get? name = some value := by
  have ignores : ∀ left right : HeaderField,
      Text.sameAscii left.1 right.1 = true →
      (selection.contains .headers ||
        selection.headerNames.contains (Text.asciiLowercase left.1)) =
      (selection.contains .headers ||
        selection.headerNames.contains (Text.asciiLowercase right.1)) := by
    intro left right same
    rw [Text.sameAscii_iff.mp same]
  rw [selectedHeaders, get?_firstHeaders_eq_some_iff,
    get?_firstHeaders_eq_some_iff, first?_filter ignores,
    Option.filter_eq_some_iff, Bool.or_eq_true, IdSet.contains_iff]
  exact and_comm

theorem selectedHeaders_of_contains
    {selection : Selection}
    (all : selection.contains .headers = true)
    (fields : List HeaderField) :
    selectedHeaders selection fields = firstHeaders fields := by
  simp only [selectedHeaders, all, Bool.true_or, List.filter_true]

/-! ## The law of restriction -/

/-- A map has one entry for every name of header fields in any letter case: the
first field. -/
structure FirstFields (message : Message) (fields : IdMap String) : Prop where
  /-- Each field has the name of one entry. -/
  unique : ∀ field ∈ message.headers,
    ∃! name, name ∈ fields.keys ∧ Text.sameAscii name field.1 = true
  /-- The entries are the first fields of their names, as these spell them. -/
  first : ∀ name value, fields.get? name = some value ↔
    first? message.headers name = some (name, value)
  /-- The values are those that a lookup in any letter case finds. -/
  header : ∀ name value, fields.get? name = some value →
    message.header? name = some value

/-- A projection shows every property of a candidate, and the given header
fields. -/
structure ShowsAll (candidate : Candidate) (previewLength : Nat)
    (fields : IdMap String)
    (full : IdMap Json) : Prop where
  /-- Each property has its value. -/
  value : ∀ property, property ≠ .headers → ∃ shown,
    value candidate previewLength property = some shown ∧
      full.get? property.name = some shown
  /-- The header fields are the given ones. -/
  headers : full.get? Property.headers.name = some (texts fields)
  /-- Nothing else is there. -/
  known : ∀ key shown, full.get? key = some shown → ∃ property : Property,
    property.name = key

/-- A projection is the part that names ask for of a whole, and of the given
header fields. -/
structure Restricts (names : List String) (fields : IdMap String)
    (whole : Property -> Option Json)
    (narrow : IdMap Json) : Prop where
  /-- The identifier is always there. -/
  id : ∃ shown, narrow.get? Property.id.name = some shown
  /-- A property that is asked for has the same value, and no other one is
  there. -/
  value : ∀ property, property ≠ .headers → ∀ shown,
    narrow.get? property.name = some shown ↔
      (property = .id ∨ Selection.Asks names property) ∧
        whole property = some shown
  /-- Nothing else is there. -/
  known : ∀ key shown, narrow.get? key = some shown → ∃ property : Property,
    property.name = key
  /-- Header fields are there if they are asked for, together or one by one. -/
  headers : (∃ shown, narrow.get? Property.headers.name = some shown) ↔
    Selection.Asks names .headers ∨ ∃ field, Selection.AsksField names field
  /-- Header fields that are asked for together are the same. -/
  all : Selection.Asks names .headers →
    narrow.get? Property.headers.name = whole .headers
  /-- Otherwise they are those whose names are asked for. -/
  cut : ¬ Selection.Asks names .headers → ∀ shown,
    narrow.get? Property.headers.name = some shown →
      ∃ part : IdMap String, shown = texts part ∧
        ∀ name value, part.get? name = some value ↔
          fields.get? name = some value ∧ Selection.AsksField names name

theorem firstFields
    (message : Message) :
    FirstFields message (firstHeaders message.headers) where
  unique field isField := by
    obtain ⟨⟨key, held⟩, found⟩ :=
      exists_first?_of_mem isField (Text.sameAscii_self field.1)
    have same := sameAscii_of_first? found
    refine ⟨key, ⟨IdMap.mem_keys_iff.mpr ?_, same⟩, ?_⟩
    · rw [← first?_congr same] at found
      rw [get?_firstHeaders_eq_some_iff.mpr found]
      rfl
    · rintro other ⟨isKey, sameOther⟩
      obtain ⟨value, present⟩ :=
        Option.isSome_iff_exists.mp (IdMap.mem_keys_iff.mp isKey)
      have first := get?_firstHeaders_eq_some_iff.mp present
      rw [first?_congr sameOther, found] at first
      cases first
      rfl
  first name value := get?_firstHeaders_eq_some_iff
  header name value present := by
    rw [Message.header?, ← first?, get?_firstHeaders_eq_some_iff.mp present]
    rfl

theorem showsAll
    {candidate : Candidate}
    {previewLength : Nat}
    {full : IdMap Json}
    (projected : project candidate .all previewLength = some full) :
    ShowsAll candidate previewLength (firstHeaders candidate.message.headers)
      full := by
  have readable : candidate.message.body.IsReadable :=
    isSome_project_iff.mp (Option.isSome_of_eq_some projected)
      (.inl (Selection.contains_all _))
  refine ⟨fun property other => ?_, ?_, fun key shown =>
    exists_name_of_get?_project projected⟩
  · have hasValue : (value candidate previewLength property).isSome = true :=
      isSome_value_iff.mpr fun _ => readable
    obtain ⟨shown, isShown⟩ := Option.isSome_iff_exists.mp hasValue
    refine ⟨shown, isShown, ?_⟩
    rw [get?_project_name projected other,
      if_pos (Selection.contains_all property), isShown]
  · have hasHeaders : Selection.all.hasHeaders = true := by
      rw [Selection.hasHeaders, Selection.contains_all, Bool.true_or]
    rw [get?_project_headers projected, if_pos hasHeaders,
      selectedHeaders_of_contains (Selection.contains_all _)]

/-- The projection of all properties has everything that can be shown of a
candidate. -/
theorem value_eq_of_project_all
    {candidate : Candidate}
    {previewLength : Nat}
    {full : IdMap Json}
    (projected : project candidate .all previewLength = some full) :
    value candidate previewLength = fun property =>
      full.get? property.name := by
  funext property
  by_cases headers : property = .headers
  · rw [headers, (showsAll projected).headers]
    rfl
  · rw [get?_project_name projected headers,
      if_pos (Selection.contains_all property)]

section Names

variable {names : List String} {selection : Selection} {candidate : Candidate}
  {previewLength : Nat}
  (read : Selection.parse (some names) = .ok selection)

include read

/-- What names ask for can be shown, if they do not ask for the text of a
body. -/
theorem isSome_project_of_parse_iff :
    (project candidate selection previewLength).isSome = true ↔
      (Selection.Asks names .preview ∨ Selection.Asks names .textBody →
        candidate.message.body.IsReadable) := by
  have notIdentifier : ∀ property, property ≠ .id →
      (selection.contains property = true ↔ Selection.Asks names property) := by
    intro property other
    rw [Selection.contains_of_parse_iff read, or_iff_right other]
  rw [isSome_project_iff, notIdentifier .preview (by decide),
    notIdentifier .textBody (by decide)]

/-- What names ask for is a restriction of all that can be shown of a
candidate. -/
theorem restricts_of_parse
    {narrow : IdMap Json}
    (projected : project candidate selection previewLength = some narrow) :
    Restricts names (firstHeaders candidate.message.headers)
        (value candidate previewLength)
      narrow := by
  have shownHeaders : ∀ shown, narrow.get? Property.headers.name = some shown ↔
      (Selection.Asks names .headers ∨ ∃ field,
          Selection.AsksField names field) ∧
        texts (selectedHeaders selection candidate.message.headers) =
          shown := by
    intro shown
    rw [get?_project_headers projected, Option.ite_none_right_eq_some,
      Option.some.injEq, Selection.hasHeaders_of_parse_iff read]
  have allHeaders : Selection.Asks names .headers →
      selection.contains .headers = true :=
    fun asks => (Selection.contains_of_parse_iff read).mpr (Or.inr asks)
  refine ⟨?_, fun property other shown => ?_,
    fun key shown => exists_name_of_get?_project projected, ?_, fun asks => ?_,
    fun apart shown found => ?_⟩
  · have contains : selection.contains .id = true :=
      (Selection.contains_of_parse_iff read).mpr (Or.inl rfl)
    exact ⟨_, get?_project_id projected contains⟩
  · rw [get?_project_name projected other, Option.ite_none_right_eq_some,
      Selection.contains_of_parse_iff read]
  · simp only [shownHeaders, exists_and_left, exists_eq', and_true]
  · refine (shownHeaders _).mpr ⟨Or.inl asks, ?_⟩
    rw [selectedHeaders_of_contains (allHeaders asks)]
  · refine ⟨selectedHeaders selection candidate.message.headers,
      ((shownHeaders shown).mp found).2.symm, fun name value => ?_⟩
    have notAll : ¬ selection.contains .headers = true := by
      rw [Selection.contains_of_parse_iff read]
      exact not_or.mpr ⟨nofun, apart⟩
    rw [get?_selectedHeaders_eq_some_iff, or_iff_right notAll,
      Selection.mem_headerNames_of_parse_iff read]
    exact and_comm

end Names

end Projection

end Query
end MailSearch
