import MailSearch.Query.Rule

/-!
# Comparisons of rules

A rule compares its value, in lower case, with texts of one header field: the
trimmed value of every occurrence and, of an address field, the forms of every
address in it.  A comparator that is not negated asks for one text that it
accepts, and a negated one for none.
-/

namespace MailSearch

theorem Message.mem_headerValues_iff
    {message : Message}
    {name value : String} :
    value ∈ message.headerValues name ↔
      ∃ header ∈ message.headers, Text.sameAscii header.1 name = true ∧
        header.2 = value := by
  simp only [headerValues, List.mem_map, List.mem_filter, and_assoc]

theorem Address.mem_forms_iff
    {address : Address}
    {form : String} :
    form ∈ address.forms ↔
      form = address.display ∨ form = address.email ∨ form = address.name ∧
        form ≠ "" := by
  by_cases empty : address.name = ""
  · simp [forms, empty]
  · rw [forms, if_neg empty]
    simp only [List.cons_append, List.nil_append, List.mem_cons,
      List.not_mem_nil, or_false]
    refine or_congr_right (or_congr_right (iff_self_and.mpr ?_))
    rintro rfl
    exact empty

namespace Query

/-- A rule on a field looks at the header fields with a name. -/
def RuleField.LooksAt (field : RuleField) (name : String) : Prop :=
  ∃ wanted ∈ field.headerNames, Text.sameAscii name wanted = true

/-- A rule on both kinds of recipients looks at either. -/
theorem RuleField.looksAt_anyRecipient_iff
    {name : String} :
    RuleField.anyRecipient.LooksAt name ↔
      RuleField.recipient.LooksAt name ∨ RuleField.copy.LooksAt name := by
  simp [LooksAt, headerNames]

namespace RuleCondition

/-- The texts of a message with which a rule on a field compares its value. -/
inductive Compares (field : RuleField) (message : Message) :
    String -> Prop where
  /-- The value of a header field without the blanks around it. -/
  | value {header : HeaderField} (isHeader : header ∈ message.headers)
      (looksAt : field.LooksAt header.1) :
        Compares field message (Text.trimmed header.2)
  /-- A form of an address in a header field. -/
  | form {header : HeaderField} (isHeader : header ∈ message.headers)
      (looksAt : field.LooksAt header.1) (addressed : field.hasAddresses = true)
      {address : Address} (isListed : address ∈ Address.parseList header.2)
      {form : String} (isForm : form ∈ address.forms) :
        Compares field message form

section Values

variable {field : RuleField} {message : Message}

theorem mem_lookedAt_iff
    {raw : String} :
    raw ∈ field.headerNames.flatMap message.headerValues ↔
      ∃ header ∈ message.headers, field.LooksAt header.1 ∧ header.2 = raw := by
  simp only [List.mem_flatMap, Message.mem_headerValues_iff, RuleField.LooksAt]
  constructor
  · rintro ⟨wanted, isWanted, header, isHeader, same, isValue⟩
    exact ⟨header, isHeader, ⟨wanted, isWanted, same⟩, isValue⟩
  · rintro ⟨header, isHeader, ⟨wanted, isWanted, same⟩, isValue⟩
    exact ⟨wanted, isWanted, header, isHeader, same, isValue⟩

/-- The compared values are the lower cases of the compared texts. -/
theorem mem_values_iff
    {chars : List Char} :
    chars ∈ values field message ↔
      ∃ text, Compares field message text ∧ Text.lower text.toList = chars := by
  rw [values, List.mem_flatMap]
  constructor
  · rintro ⟨raw, isRaw, isValue⟩
    obtain ⟨header, isHeader, looksAt, rfl⟩ := mem_lookedAt_iff.mp isRaw
    rcases List.mem_append.mp isValue with ofAddress | whole
    · obtain ⟨form, isOfOne, rfl⟩ := List.mem_map.mp ofAddress
      obtain ⟨address, isListed, isForm⟩ := List.mem_flatMap.mp isOfOne
      split at isListed
      · rename_i addressed
        exact ⟨form, .form isHeader looksAt addressed isListed isForm, rfl⟩
      · cases isListed
    · refine ⟨Text.trimmed header.2, .value isHeader looksAt, ?_⟩
      rw [Text.trimmed, String.toList_ofList]
      exact (List.mem_singleton.mp whole).symm
  · rintro ⟨text, compares, rfl⟩
    cases compares with
    | @value header isHeader looksAt =>
        refine ⟨header.2,
          mem_lookedAt_iff.mpr ⟨header, isHeader, looksAt, rfl⟩, ?_⟩
        rw [Text.trimmed, String.toList_ofList]
        exact List.mem_append_right _ (List.mem_singleton_self _)
    | @form header isHeader looksAt addressed address isListed form isForm =>
        refine ⟨header.2,
          mem_lookedAt_iff.mpr ⟨header, isHeader, looksAt, rfl⟩, ?_⟩
        refine List.mem_append_left
          _ (List.mem_map_of_mem (List.mem_flatMap.mpr ?_))
        rw [if_pos addressed]
        exact ⟨address, isListed, isForm⟩

/-- A value is contained if its lower case stands in that of a compared text. -/
theorem holds_contains_iff
    {value : String} :
    holds ⟨field, .contains, value⟩ message = true ↔
      ∃ text, Compares field message text ∧
        Text.lower value.toList <:+: Text.lower text.toList := by
  change (values field message).any _ = true ↔ _
  simp only [List.any_eq_true, mem_values_iff, Text.occursIn_iff]
  constructor
  · rintro ⟨_, ⟨text, compares, rfl⟩, occurs⟩
    exact ⟨text, compares, occurs⟩
  · rintro ⟨text, compares, occurs⟩
    exact ⟨_, ⟨text, compares, rfl⟩, occurs⟩

/-- A value is equal if its lower case is that of a compared text. -/
theorem holds_equals_iff
    {value : String} :
    holds ⟨field, .equals, value⟩ message = true ↔
      ∃ text, Compares field message text ∧
        Text.lower value.toList = Text.lower text.toList := by
  change (values field message).any _ = true ↔ _
  simp only [List.any_eq_true, mem_values_iff, beq_iff_eq]
  constructor
  · rintro ⟨_, ⟨text, compares, rfl⟩, same⟩
    exact ⟨text, compares, same.symm⟩
  · rintro ⟨text, compares, same⟩
    exact ⟨_, ⟨text, compares, rfl⟩, same.symm⟩

/-- A rule that looks at more header fields, for addresses as well, compares
more texts. -/
theorem Compares.mono
    {other : RuleField}
    {text : String}
    (compares : Compares field message text)
    (looksAtMore : ∀ name, field.LooksAt name → other.LooksAt name)
    (stillAddressed : field.hasAddresses = true → other.hasAddresses = true) :
    Compares other message text := by
  cases compares with
  | value isHeader looksAt => exact .value isHeader (looksAtMore _ looksAt)
  | form isHeader looksAt addressed isListed isForm =>
      exact .form isHeader (looksAtMore _ looksAt) (stillAddressed addressed)
        isListed isForm

/-- A rule on both kinds of recipients compares the texts of either. -/
theorem compares_anyRecipient_iff
    {text : String} :
    Compares .anyRecipient message text ↔
      Compares .recipient message text ∨ Compares .copy message text := by
  constructor
  · intro compares
    cases compares with
    | value isHeader looksAt =>
        exact (RuleField.looksAt_anyRecipient_iff.mp looksAt).imp
            (.value isHeader)
          (.value isHeader)
    | form isHeader looksAt _ isListed isForm =>
        exact (RuleField.looksAt_anyRecipient_iff.mp looksAt).imp
          (fun looksAt => .form isHeader looksAt rfl isListed isForm)
          (fun looksAt => .form isHeader looksAt rfl isListed isForm)
  · rintro (compares | compares)
    · exact compares.mono (fun _ looksAt =>
          RuleField.looksAt_anyRecipient_iff.mpr (.inl looksAt))
        id
    · exact compares.mono (fun _ looksAt =>
          RuleField.looksAt_anyRecipient_iff.mpr (.inr looksAt))
        id

end Values

section Laws

variable (message : Message) (value : String)

theorem holds_notContains
    (field : RuleField) :
    holds ⟨field, .notContains, value⟩ message =
      !holds ⟨field, .contains, value⟩ message := rfl

theorem holds_notEquals
    (field : RuleField) :
    holds ⟨field, .notEquals, value⟩ message =
      !holds ⟨field, .equals, value⟩ message := rfl

theorem holds_contains_anyRecipient :
    holds ⟨.anyRecipient, .contains, value⟩ message =
      (holds ⟨.recipient, .contains, value⟩ message ||
        holds ⟨.copy, .contains, value⟩ message) := by
  rw [Bool.eq_iff_iff, Bool.or_eq_true]
  simp only [holds_contains_iff, compares_anyRecipient_iff, or_and_right,
    exists_or]

theorem holds_equals_anyRecipient :
    holds ⟨.anyRecipient, .equals, value⟩ message =
      (holds ⟨.recipient, .equals, value⟩ message ||
        holds ⟨.copy, .equals, value⟩ message) := by
  rw [Bool.eq_iff_iff, Bool.or_eq_true]
  simp only [holds_equals_iff, compares_anyRecipient_iff, or_and_right,
    exists_or]

end Laws

/-- Without a header field to look at there is no text to compare with. -/
theorem Compares.exists_header
    {field : RuleField}
    {message : Message}
    {text : String}
    (compares : Compares field message text) :
    ∃ header ∈ message.headers, field.LooksAt header.1 := by
  cases compares with
  | value isHeader looksAt => exact ⟨_, isHeader, looksAt⟩
  | form isHeader looksAt _ _ _ => exact ⟨_, isHeader, looksAt⟩

/--
The laws of comparators, for every message, field and value.  A negated
comparator holds exactly if the other one does not.  An equal value is
contained.  Of both kinds of recipients, one must satisfy a comparator, and both
must satisfy a negated one.  Every occurrence of a header field that is looked
at is equal to its trimmed value and to all forms of its addresses, in any
letter case.  Without such a header field nothing is contained or equal, not
even the empty value.
-/
theorem comparators_obey_laws
    (message : Message)
    (field : RuleField)
    (value : String) :
    (holds ⟨field, .notContains, value⟩ message =
        !holds ⟨field, .contains, value⟩ message ∧
      holds ⟨field, .notEquals, value⟩ message =
        !holds ⟨field, .equals, value⟩ message) ∧
    (holds ⟨field, .equals, value⟩ message = true →
      holds ⟨field, .contains, value⟩ message = true) ∧
    (∀ comparator ∈ [Comparator.contains, .equals],
      holds ⟨.anyRecipient, comparator, value⟩ message =
        (holds ⟨.recipient, comparator, value⟩ message ||
          holds ⟨.copy, comparator, value⟩ message)) ∧
    (∀ comparator ∈ [Comparator.notContains, .notEquals],
      holds ⟨.anyRecipient, comparator, value⟩ message =
        (holds ⟨.recipient, comparator, value⟩ message &&
          holds ⟨.copy, comparator, value⟩ message)) ∧
    (∀ header ∈ message.headers, field.LooksAt header.1 →
      (Text.lower value.toList = Text.lower (Text.trimmed header.2).toList →
        holds ⟨field, .equals, value⟩ message = true) ∧
      (field.hasAddresses = true →
          ∀ address ∈ Address.parseList header.2, ∀ form,
        form = address.display ∨ form = address.email ∨ form = address.name ∧
            form ≠ "" →
          Text.lower value.toList = Text.lower form.toList →
            holds ⟨field, .equals, value⟩ message = true)) ∧
    ((∀ header ∈ message.headers, ¬ field.LooksAt header.1) →
      holds ⟨field, .contains, value⟩ message = false ∧
        holds ⟨field, .equals, value⟩ message = false) := by
  refine ⟨⟨holds_notContains message value field,
      holds_notEquals message value field⟩,
    ?_, ?_, ?_, ?_, ?_⟩
  · intro equal
    obtain ⟨text, compares, same⟩ := holds_equals_iff.mp equal
    exact holds_contains_iff.mpr ⟨text, compares, same ▸ List.infix_refl _⟩
  · simp only [List.forall_mem_cons, List.not_mem_nil, false_imp_iff,
      implies_true, and_true]
    exact ⟨holds_contains_anyRecipient message value,
      holds_equals_anyRecipient message value⟩
  · simp only [List.forall_mem_cons, List.not_mem_nil, false_imp_iff,
      implies_true, and_true]
    simp only [holds_notContains, holds_notEquals, holds_contains_anyRecipient,
      holds_equals_anyRecipient, Bool.not_or, and_self]
  · intro header isHeader looksAt
    refine ⟨fun same =>
      holds_equals_iff.mpr ⟨_, .value isHeader looksAt, same⟩, ?_⟩
    intro addressed address isListed form isForm same
    exact holds_equals_iff.mpr ⟨form, .form isHeader looksAt addressed isListed
      (Address.mem_forms_iff.mpr isForm), same⟩
  · intro absent
    have nothing : ∀ text, ¬ Compares field message text := by
      intro text compares
      obtain ⟨header, isHeader, looksAt⟩ := compares.exists_header
      exact absent header isHeader looksAt
    refine ⟨Bool.eq_false_iff.mpr fun holds => ?_, Bool.eq_false_iff.mpr
      fun holds => ?_⟩
    · obtain ⟨text, compares, -⟩ := holds_contains_iff.mp holds
      exact nothing text compares
    · obtain ⟨text, compares, -⟩ := holds_equals_iff.mp holds
      exact nothing text compares

end RuleCondition
end Query
end MailSearch
